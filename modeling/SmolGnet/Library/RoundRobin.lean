import Mathlib.Algebra.Ring.Nat
import Mathlib.Data.List.Nodup
import Mathlib.Data.List.Perm.Basic
import Mathlib.Logic.Function.Basic

/-!
# Round-robin queues

Flows with a queue each are served in turn.  The flows that have work stand in a ring: a flow joins
at the end when work arrives for it, the flow at the front is served one piece, and it goes to the
end if it has work left.

A queue is served in order and loses nothing, and while a flow waits to be served every other flow
is served at most once, because only the flows that stand before it are served, each once.
-/

namespace RoundRobin

variable {α β : Type*} [DecidableEq α]

/-- The work that waits for each flow, and the ring of the flows that have work. -/
structure Queues (α β : Type*) where
  waiting : α → List β
  ring : List α

/-- What happens to the queues. -/
inductive Entry (α β : Type*) where
  | enqueued (a : α) (b : β)
  | admitted (a : α) (b : β)
  deriving DecidableEq

/-- The work that arrives for a flow. -/
def enqueuedOf (a : α) (log : List (Entry α β)) : List β :=
  log.filterMap fun
    | .enqueued a' b => if a' = a then some b else none
    | .admitted _ _ => none

/-- The work of a flow that is served. -/
def admittedOf (a : α) (log : List (Entry α β)) : List β :=
  log.filterMap fun
    | .enqueued _ _ => none
    | .admitted a' b => if a' = a then some b else none

theorem admittedOf_append (a : α) (log log' : List (Entry α β)) :
  admittedOf a (log ++ log') = admittedOf a log ++ admittedOf a log'
  := List.filterMap_append

theorem enqueuedOf_append (a : α) (log log' : List (Entry α β)) :
  enqueuedOf a (log ++ log') = enqueuedOf a log ++ enqueuedOf a log'
  := List.filterMap_append

namespace Queues

/-- Nothing waits. -/
def empty : Queues α β where
  waiting _ := []
  ring := []

/-- Work arrives for a flow. -/
def enqueue (q : Queues α β) (a : α) (b : β) : Queues α β where
  waiting := Function.update q.waiting a (q.waiting a ++ [b])
  ring := if q.waiting a = [] then q.ring ++ [a] else q.ring

/-- What one entry does. -/
inductive Step : Queues α β → Entry α β → Queues α β → Prop
  | enqueued (q : Queues α β) (a : α) (b : β) : Step q (.enqueued a b) (q.enqueue a b)
  | admitted {q : Queues α β} {a : α} {b : β} {rest : List α} {bs : List β}
      (hring : q.ring = a :: rest) (hwaiting : q.waiting a = b :: bs) :
      Step q (.admitted a b)
        { waiting := Function.update q.waiting a bs
          ring := if bs = [] then rest else rest ++ [a] }

/-- What a log does. -/
inductive Run : Queues α β → List (Entry α β) → Queues α β → Prop
  | nil (q : Queues α β) : Run q [] q
  | cons {q q' q'' : Queues α β} {entry : Entry α β} {log : List (Entry α β)}
      (hstep : Step q entry q') (hrun : Run q' log q'') : Run q (entry :: log) q''

/-- The ring has the flows that have work, each once. -/
structure Ringed (q : Queues α β) : Prop where
  nodup : q.ring.Nodup
  mem_ring : ∀ a, a ∈ q.ring ↔ q.waiting a ≠ []

variable {q q' q'' : Queues α β} {entry : Entry α β} {log log' : List (Entry α β)}

/-! ### Runs -/

theorem Run.append (h : Run q log q') (h' : Run q' log' q'') :
  Run q (log ++ log') q''
  := by
  induction h with
  | nil q => exact h'
  | cons hstep _ ih => exact .cons hstep (ih h')

/-- A log that falls into two parts is two runs. -/
theorem Run.of_append (h : Run q (log ++ log') q'') :
  ∃ q', Run q log q' ∧ Run q' log' q''
  := by
  induction log generalizing q with
  | nil => exact ⟨q, .nil q, h⟩
  | cons entry log ih =>
    cases h with
    | cons hstep hrun =>
      obtain ⟨q', hlog, hlog'⟩ := ih hrun
      exact ⟨q', .cons hstep hlog, hlog'⟩

theorem Run.single (h : Step q entry q') :
  Run q [entry] q'
  := .cons h (.nil q')

/-! ### The ring -/

omit [DecidableEq α] in
theorem ringed_empty :
  (empty : Queues α β).Ringed
  := by
  refine ⟨List.nodup_nil, ?_⟩
  intro a
  simp [empty]

theorem Ringed.enqueue (h : q.Ringed) (a : α) (b : β) :
  (q.enqueue a b).Ringed
  where
  nodup := by
    rw [Queues.enqueue]
    split
    · next hempty =>
      have ha : a ∉ q.ring := fun hmem => (h.mem_ring a).mp hmem hempty
      exact h.nodup.append (List.nodup_singleton a) (by simpa using ha)
    · exact h.nodup
  mem_ring a' := by
    rw [Queues.enqueue]
    by_cases ha' : a' = a
    · subst ha'
      have hnew : q.waiting a' ++ [b] ≠ [] := List.append_ne_nil_of_right_ne_nil _ (List.cons_ne_nil b [])
      simp only [Function.update_self]
      refine iff_of_true ?_ hnew
      split
      · exact List.mem_append_right _ (List.mem_singleton_self a')
      · next hwork => exact (h.mem_ring a').mpr hwork
    · simp only [Function.update_of_ne ha']
      rw [← h.mem_ring a']
      split
      · simp [ha']
      · rfl

/-- One entry keeps the ring. -/
theorem Ringed.step (h : q.Ringed) (hstep : Step q entry q') :
  q'.Ringed
  := by
  cases hstep with
  | enqueued a b => exact h.enqueue a b
  | @admitted a b rest bs hring hwaiting =>
    have hnodup := h.nodup
    rw [hring, List.nodup_cons] at hnodup
    obtain ⟨ha, hrest⟩ := hnodup
    constructor
    · dsimp only
      split
      · exact hrest
      · exact hrest.append (List.nodup_singleton a) (by simpa using ha)
    · intro a'
      have hmem := h.mem_ring a'
      rw [hring, List.mem_cons] at hmem
      dsimp only
      by_cases ha' : a' = a
      · subst ha'
        rw [Function.update_self]
        split
        · next hbs => simp [ha, hbs]
        · next hbs => simp [hbs]
      · rw [Function.update_of_ne ha', ← hmem]
        split
        · simp [ha']
        · simp [ha']

theorem Ringed.run (h : q.Ringed) (hrun : Run q log q') :
  q'.Ringed
  := by
  induction hrun with
  | nil q => exact h
  | cons hstep _ ih => exact ih (h.step hstep)

/-! ### Nothing is lost -/

theorem Step.fifo (hstep : Step q entry q') (a : α) :
  admittedOf a [entry] ++ q'.waiting a = q.waiting a ++ enqueuedOf a [entry]
  := by
  cases hstep with
  | enqueued a' b =>
    by_cases ha : a' = a
    · subst ha
      simp [admittedOf, enqueuedOf, enqueue]
    · simp [admittedOf, enqueuedOf, enqueue, ha, Function.update_of_ne (Ne.symm ha)]
  | @admitted a' b rest bs hring hwaiting =>
    by_cases ha : a' = a
    · subst ha
      simp [admittedOf, enqueuedOf, hwaiting]
    · simp [admittedOf, enqueuedOf, ha, Function.update_of_ne (Ne.symm ha)]

/-- What is served of a flow, and then what waits for it, is what waited and then what arrived. -/
theorem Run.fifo (hrun : Run q log q') (a : α) :
  admittedOf a log ++ q'.waiting a = q.waiting a ++ enqueuedOf a log
  := by
  induction hrun with
  | nil q => simp [admittedOf, enqueuedOf]
  | @cons q q₁ q' entry log hstep _ ih =>
    have hfirst := hstep.fifo a
    rw [← List.singleton_append (l := log), admittedOf_append, enqueuedOf_append,
      List.append_assoc, ih, ← List.append_assoc, hfirst, List.append_assoc]

/-! ### What is served next -/

/-- The next `n` pieces of work that are served when nothing arrives, or all that wait. -/
def upcoming : ℕ → Queues α β → List β
  | 0, _ => []
  | n + 1, q =>
    match q.ring with
    | [] => []
    | a :: rest =>
      match q.waiting a with
      | [] => []
      | b :: bs =>
        b :: upcoming n
          { waiting := Function.update q.waiting a bs
            ring := if bs = [] then rest else rest ++ [a] }

theorem upcoming_of_ring_nil (n : ℕ) (h : q.ring = []) :
  q.upcoming n = []
  := by
  cases n with
  | zero => rfl
  | succ n => rw [upcoming, h]

theorem Step.upcoming {a : α} {b : β} (hstep : Step q (.admitted a b) q') (n : ℕ) :
  q.upcoming (n + 1) = b :: q'.upcoming n
  := by
  cases hstep with
  | admitted hring hwaiting =>
    rw [Queues.upcoming, hring]
    dsimp only
    rw [hwaiting]

/-! ### How much waits -/

/-- The pieces of work that wait. -/
def load (q : Queues α β) : ℕ :=
  (q.ring.map (fun a => (q.waiting a).length)).sum

/-- What the flows of a list hold when one of them is given another queue. -/
theorem sum_update (waiting : α → List β) (a : α) (bs : List β) {l : List α} (h : l.Nodup) :
  (l.map (fun a' => (Function.update waiting a bs a').length)).sum
      + (if a ∈ l then (waiting a).length else 0)
    = (l.map (fun a' => (waiting a').length)).sum + (if a ∈ l then bs.length else 0)
  := by
  induction l with
  | nil => rfl
  | cons first l ih =>
    obtain ⟨hfirst, hl⟩ := List.nodup_cons.mp h
    have ih := ih hl
    by_cases hsame : first = a
    · subst hsame
      simp only [if_neg hfirst, List.map_cons, List.sum_cons, Function.update_self,
        List.mem_cons_self, if_true] at ih ⊢
      omega
    · simp only [List.map_cons, List.sum_cons, Function.update_of_ne hsame, List.mem_cons,
        Ne.symm hsame, false_or]
      omega

theorem Ringed.load_enqueue (h : q.Ringed) (a : α) (b : β) :
  (q.enqueue a b).load = q.load + 1
  := by
  have hsum := sum_update q.waiting a (q.waiting a ++ [b]) h.nodup
  have hmem := h.mem_ring a
  rw [List.length_append, List.length_singleton] at hsum
  rw [load, load, Queues.enqueue]
  dsimp only
  by_cases hempty : q.waiting a = []
  · have ha : a ∉ q.ring := fun ha => hmem.mp ha hempty
    rw [if_neg ha, if_neg ha] at hsum
    rw [if_pos hempty, List.map_append, List.sum_append, List.map_singleton, List.sum_singleton,
      Function.update_self, List.length_append, hempty, List.length_singleton, List.length_nil]
    rw [hempty] at hsum
    omega
  · have ha : a ∈ q.ring := hmem.mpr hempty
    rw [if_pos ha, if_pos ha] at hsum
    rw [if_neg hempty]
    omega

theorem Ringed.load_admit (h : q.Ringed) {a : α} {b : β} {rest : List α} {bs : List β}
    (hring : q.ring = a :: rest) (hwaiting : q.waiting a = b :: bs) :
  load { waiting := Function.update q.waiting a bs
         ring := if bs = [] then rest else rest ++ [a] } + 1 = q.load
  := by
  have hnodup := h.nodup
  rw [hring, List.nodup_cons] at hnodup
  have hsum := sum_update q.waiting a bs hnodup.2
  rw [if_neg hnodup.1, if_neg hnodup.1] at hsum
  rw [load, load, hring, List.map_cons, List.sum_cons, hwaiting, List.length_cons]
  dsimp only
  by_cases hbs : bs = []
  · rw [if_pos hbs, hbs, List.length_nil]
    rw [hbs] at hsum
    omega
  · rw [if_neg hbs, List.map_append, List.sum_append, List.map_singleton, List.sum_singleton,
      Function.update_self]
    omega

/-! ### Overtaking -/

/-- The flows that are served, in order. -/
def served (log : List (Entry α β)) : List α :=
  log.filterMap fun
    | .enqueued _ _ => none
    | .admitted a _ => some a

omit [DecidableEq α] in
theorem served_cons_enqueued (a : α) (b : β) (log : List (Entry α β)) :
  served (.enqueued a b :: log) = served log
  := rfl

omit [DecidableEq α] in
theorem served_cons_admitted (a : α) (b : β) (log : List (Entry α β)) :
  served (.admitted a b :: log) = a :: served log
  := rfl

/-- While a flow stands in the ring and is not served, the flows that are served are those that
stood before it, in order. -/
theorem Run.served_of_not_mem (hrun : Run q log q') {f : α} (hf : f ∉ served log) {pre post : List α}
    (hring : q.ring = pre ++ f :: post) :
  ∃ pre' post', q'.ring = pre' ++ f :: post' ∧ pre = served log ++ pre'
  := by
  induction hrun generalizing pre post with
  | nil q => exact ⟨pre, post, hring, rfl⟩
  | @cons q q₁ q' entry log hstep _ ih =>
    cases hstep with
    | enqueued a b =>
      rw [served_cons_enqueued] at hf ⊢
      by_cases ha : q.waiting a = []
      · refine @ih hf pre (post ++ [a]) ?_
        rw [Queues.enqueue, if_pos ha, hring, List.append_assoc, List.cons_append]
      · refine @ih hf pre post ?_
        rw [Queues.enqueue, if_neg ha, hring]
    | @admitted a b rest bs hfront hwaiting =>
      rw [served_cons_admitted] at hf ⊢
      obtain ⟨hfa, hflog⟩ := List.ne_and_not_mem_of_not_mem_cons hf
      rw [hring] at hfront
      cases pre with
      | nil =>
        rw [List.nil_append, List.cons.injEq] at hfront
        exact absurd hfront.1 hfa
      | cons first pre =>
        rw [List.cons_append, List.cons.injEq] at hfront
        obtain ⟨rfl, hrest⟩ := hfront
        have hnext : ∃ post', (if bs = [] then rest else rest ++ [first]) = pre ++ f :: post' := by
          split
          · exact ⟨post, hrest.symm⟩
          · refine ⟨post ++ [first], ?_⟩
            rw [← hrest, List.append_assoc, List.cons_append]
        obtain ⟨post', hpost'⟩ := hnext
        obtain ⟨pre', post', hring', hpre⟩ := ih hflog hpost'
        exact ⟨pre', post', hring', by rw [hpre, List.cons_append]⟩

theorem length_admittedOf (a : α) (log : List (Entry α β)) :
  (admittedOf a log).length = (served log).count a
  := by
  induction log with
  | nil => rfl
  | cons entry log ih =>
    cases entry with
    | enqueued a' b => exact ih
    | admitted a' b =>
      rw [served_cons_admitted, List.count_cons, ← ih]
      by_cases ha : a' = a
      · simp [admittedOf, ha]
      · simp [admittedOf, ha]

/-- While a flow has work and is not served, every other flow is served at most once. -/
theorem Ringed.overtaking (h : q.Ringed) (hrun : Run q log q') {f : α} (hwork : q.waiting f ≠ [])
    (hf : admittedOf f log = []) (a : α) :
  (admittedOf a log).length ≤ 1
  := by
  have hserved : f ∉ served log := by
    rw [← List.count_eq_zero, ← length_admittedOf, hf, List.length_nil]
  obtain ⟨pre, post, hring⟩ := List.append_of_mem ((h.mem_ring f).mpr hwork)
  obtain ⟨pre', post', -, hpre⟩ := hrun.served_of_not_mem hserved hring
  have hnodup := h.nodup
  rw [hring, hpre, List.append_assoc] at hnodup
  rw [length_admittedOf]
  exact List.nodup_iff_count_le_one.mp hnodup.of_append_left a

end Queues

end RoundRobin
