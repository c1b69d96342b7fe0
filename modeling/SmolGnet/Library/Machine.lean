import Mathlib.Data.List.Induction
import Mathlib.Order.Basic

/-!
# Runs of a machine

A machine is a step function `step : σ → α → σ`; a run takes the actions of a list one
after the other.  `Along step ok s as` says that every step of the run of `as` from `s`
satisfies the condition `ok` in the state the step is taken in.

The rules below derive a property of every state a run reaches from what one step
preserves.  The bounded rules are for a property that needs a growing measure of the
state, such as the length of a log, to stay below a bound at the end of the run.
-/

namespace Machine

variable {σ α : Type*} {step : σ → α → σ}

/-- The state reached from `s` by the actions `as`. -/
def run (step : σ → α → σ) (s : σ) (as : List α) : σ :=
  as.foldl step s

/-- Every step of the run of `as` from `s` satisfies `ok`. -/
def Along (step : σ → α → σ) (ok : σ → α → Prop) : σ → List α → Prop
  | _, [] => True
  | s, a :: as => ok s a ∧ Along step ok (step s a) as

instance decidableAlong {ok : σ → α → Prop} [∀ s a, Decidable (ok s a)] :
    ∀ s as, Decidable (Along step ok s as)
  | _, [] => isTrue trivial
  | s, a :: as =>
    have : Decidable (Along step ok (step s a) as) := decidableAlong (step s a) as
    inferInstanceAs (Decidable (ok s a ∧ Along step ok (step s a) as))

@[simp]
theorem run_nil (s : σ) :
  run step s [] = s
  := rfl

@[simp]
theorem run_cons (s : σ) (a : α) (as : List α) :
  run step s (a :: as) = run step (step s a) as
  := rfl

theorem run_append (s : σ) (as bs : List α) :
  run step s (as ++ bs) = run step (run step s as) bs
  := List.foldl_append

/-- A run may be taken in parts. -/
theorem run_flatten (s : σ) (parts : List (List α)) :
  run step s parts.flatten = run (run step) s parts
  := by
  induction parts generalizing s with
  | nil => rfl
  | cons as parts ih => rw [List.flatten_cons, run_append, run_cons, ih]

theorem along_append {ok : σ → α → Prop} (s : σ) (as bs : List α) :
  Along step ok s (as ++ bs) ↔ Along step ok s as ∧ Along step ok (run step s as) bs
  := by
  induction as generalizing s with
  | nil => simp [Along]
  | cons a as ih =>
    rw [List.cons_append, Along, Along, ih (step s a), and_assoc]
    rfl

/-- A property that every step meeting the condition preserves holds after every run
whose steps all meet it. -/
theorem invariant_along
    {P : σ → Prop} {ok : σ → α → Prop} (hstep : ∀ s a, P s → ok s a → P (step s a))
    {s : σ} {as : List α} (hs : P s) (hok : Along step ok s as) :
  P (run step s as)
  := by
  induction as generalizing s with
  | nil => apply hs
  | cons a as ih => apply ih (hstep s a hs hok.1) hok.2

/-- An invariant with the property `P` is kept by the steps that meet the condition, and a step
that does not meet it breaks `P`.  Then all states of a run have the property exactly when all its
steps meet the condition. -/
theorem forall_isPrefix_iff
    {I P : σ → Prop} {ok : σ → α → Prop} (hP : ∀ s, I s → P s)
    (hok : ∀ s a, I s → ok s a → I (step s a)) (hno : ∀ s a, I s → P (step s a) → ok s a)
    {s : σ} {as : List α} (hs : I s) :
  (∀ bs, bs <+: as → P (run step s bs)) ↔ Along step ok s as
  := by
  induction as generalizing s with
  | nil =>
    constructor
    · intro
      trivial
    · intro _ bs hbs
      rw [List.prefix_nil.mp hbs]
      apply hP s hs
  | cons a as ih =>
    constructor
    · intro h
      have ha : ok s a := hno s a hs (h [a] (List.prefix_append [a] as))
      use ha
      apply (ih (hok s a hs ha)).mp
      intro bs hbs
      apply h (a :: bs) (List.cons_prefix_cons.mpr ⟨rfl, hbs⟩)
    · rintro ⟨ha, has⟩ bs hbs
      cases bs with
      | nil => apply hP s hs
      | cons b bs =>
        obtain ⟨rfl, hrest⟩ := List.cons_prefix_cons.mp hbs
        apply (ih (hok s b hs ha)).mpr has bs hrest

/-- A property that a step preserves when it meets the condition, and breaks when it does
not, holds in all states of a run exactly when all its steps meet the condition. -/
theorem forall_isPrefix_iff_along
    {I P : σ → Prop} {ok : σ → α → Prop} (hI : ∀ s a, I s → I (step s a))
    (hok : ∀ s a, I s → P s → ok s a → P (step s a))
    (hno : ∀ s a, I s → P s → P (step s a) → ok s a)
    {s : σ} {as : List α} (hs : I s) (hp : P s) :
  (∀ bs, bs <+: as → P (run step s bs)) ↔ Along step ok s as
  := by
  apply forall_isPrefix_iff (I := fun s => I s ∧ P s) (fun _ h => h.2)
  · rintro s a ⟨hi, hp⟩ ha
    use hI s a hi, hok s a hi hp ha
  · rintro s a ⟨hi, hp⟩ hnext
    apply hno s a hi hp hnext
  · use hs, hp

/-- Every step of a run meets a condition on actions that all its actions meet. -/
theorem along_of_forall {ok : α → Prop} (s : σ) {as : List α} (h : ∀ a ∈ as, ok a) :
  Along step (fun _ a => ok a) s as
  := by
  induction as generalizing s with
  | nil => trivial
  | cons a as ih =>
    use h a List.mem_cons_self
    apply ih
    intro a' ha'
    apply h a' (List.mem_cons_of_mem a ha')

/-- What holds in every state of a run holds before and after each of its steps. -/
theorem along_of_forall_isPrefix {Q : σ → Prop} {s : σ} {as : List α}
    (h : ∀ bs, bs <+: as → Q (run step s bs)) :
  Along step (fun s a => Q s ∧ Q (step s a)) s as
  := by
  induction as generalizing s with
  | nil => trivial
  | cons a as ih =>
    use ⟨h [] List.nil_prefix, h [a] (List.prefix_append [a] as)⟩
    apply ih
    intro bs hbs
    apply h (a :: bs) (List.cons_prefix_cons.mpr ⟨rfl, hbs⟩)

theorem Along.and {ok ok' : σ → α → Prop} {s : σ} {as : List α} (h : Along step ok s as)
    (h' : Along step ok' s as) :
  Along step (fun s a => ok s a ∧ ok' s a) s as
  := by
  induction as generalizing s with
  | nil => trivial
  | cons a as ih => exact ⟨⟨h.1, h'.1⟩, ih h.2 h'.2⟩

theorem Along.imp {ok ok' : σ → α → Prop} (himp : ∀ s a, ok s a → ok' s a) {s : σ} {as : List α}
    (h : Along step ok s as) :
  Along step ok' s as
  := by
  induction as generalizing s with
  | nil => trivial
  | cons a as ih => exact ⟨himp s a h.1, ih h.2⟩

/-- Two conditions that agree in the states with a property, which the steps that meet them preserve,
are met by the same runs. -/
theorem along_iff {I : σ → Prop} {ok ok' : σ → α → Prop} (hiff : ∀ s a, I s → (ok s a ↔ ok' s a))
    (hI : ∀ s a, I s → ok' s a → I (step s a)) {s : σ} {as : List α} (hs : I s) :
  Along step ok s as ↔ Along step ok' s as
  := by
  induction as generalizing s with
  | nil => exact Iff.rfl
  | cons a as ih =>
    constructor
    · rintro ⟨ha, has⟩
      have ha' := (hiff s a hs).mp ha
      exact ⟨ha', (ih (hI s a hs ha')).mp has⟩
    · rintro ⟨ha, has⟩
      exact ⟨(hiff s a hs).mpr ha, (ih (hI s a hs ha)).mpr has⟩

/-- A machine that keeps more in its state, and does the same with `f` of it, meets a condition on
`f` of the state in the same runs. -/
theorem along_comap {τ : Type*} {step' : τ → α → τ} {ok : σ → α → Prop} {f : τ → σ}
    (hf : ∀ t a, f (step' t a) = step (f t) a) (t : τ) (as : List α) :
  Along step' (fun t a => ok (f t) a) t as ↔ Along step ok (f t) as
  := by
  induction as generalizing t with
  | nil => exact Iff.rfl
  | cons a as ih =>
    rw [Along, Along, ih (step' t a), hf]

/-- The actions of a run that satisfy `keep` in the state they are taken in. -/
def kept (step : σ → α → σ) (keep : σ → α → Bool) : σ → List α → List α
  | _, [] => []
  | s, a :: as =>
    if keep s a then a :: kept step keep (step s a) as else kept step keep (step s a) as

/-- Actions that change nothing may be left out of a run. -/
theorem run_kept {keep : σ → α → Bool} {s : σ} {as : List α}
    (h : Along step (fun s a => keep s a = false → step s a = s) s as) :
  run step s (kept step keep s as) = run step s as
  := by
  induction as generalizing s with
  | nil => rfl
  | cons a as ih =>
    rw [kept]
    split
    · rw [run_cons, run_cons, ih h.2]
    · next hkeep =>
      have hsame : step s a = s := h.1 (Bool.eq_false_iff.mpr hkeep)
      have hrest := ih h.2
      rw [hsame] at hrest
      rw [run_cons, hsame, hrest]

/-- The outputs of the steps of a run. -/
def outputs {β : Type*} (step : σ → α → σ) (out : σ → α → β) : σ → List α → List β
  | _, [] => []
  | s, a :: as => out s a :: outputs step out (step s a) as

theorem outputs_append {β : Type*} {out : σ → α → β} (s : σ) (as bs : List α) :
  outputs step out s (as ++ bs) = outputs step out s as ++ outputs step out (run step s as) bs
  := by
  induction as generalizing s with
  | nil => rfl
  | cons a as ih => rw [List.cons_append, outputs, outputs, ih, List.cons_append, run_cons]

/-- When the states, the actions and the outputs are translated, and the steps that meet a condition
agree with the translation, the runs whose steps all meet it do. -/
theorem outputs_map
    {β : Type*} {out : σ → α → β} {ok : σ → α → Prop} {I : σ → Prop} {t : σ → σ} {f : α → α}
    {g : β → β} (hout : ∀ s a, I s → ok s a → out (t s) (f a) = g (out s a))
    (hstep : ∀ s a, I s → ok s a → step (t s) (f a) = t (step s a))
    (hI : ∀ s a, I s → I (step s a)) {s : σ} {as : List α} (hs : I s) (hok : Along step ok s as) :
  outputs step out (t s) (as.map f) = (outputs step out s as).map g ∧
    run step (t s) (as.map f) = t (run step s as)
  := by
  induction as generalizing s with
  | nil => exact ⟨rfl, rfl⟩
  | cons a as ih =>
    obtain ⟨houtputs, hrun⟩ := ih (hI s a hs) hok.2
    constructor
    · rw [List.map_cons, outputs, outputs, List.map_cons, hout s a hs hok.1, hstep s a hs hok.1,
        houtputs]
    · rw [List.map_cons, run_cons, run_cons, hstep s a hs hok.1, hrun]

/-- A property that every step preserves holds after every run. -/
theorem invariant_run
    {P : σ → Prop} (hstep : ∀ s a, P s → P (step s a)) {s : σ} (hs : P s)
    (as : List α) :
  P (run step s as)
  := by
  induction as generalizing s with
  | nil => apply hs
  | cons a as ih => apply ih (hstep s a hs)

/-- As `invariant_run`, when the property is about the actions taken so far as well. -/
theorem history_run
    {P : List α → σ → Prop} (hstep : ∀ past s a, P past s → P (past ++ [a]) (step s a)) {s : σ}
    (hs : P [] s) (as : List α) :
  P as (run step s as)
  := by
  induction as using List.reverseRecOn with
  | nil => exact hs
  | append_singleton as a ih =>
    rw [run_append]
    exact hstep as (run step s as) a ih

/-- Every step of a run meets a condition that follows from a property that every step preserves. -/
theorem along_of_invariant
    {P : σ → Prop} {ok : σ → α → Prop} (hok : ∀ s a, P s → ok s a)
    (hstep : ∀ s a, P s → P (step s a)) {s : σ} (hs : P s) (as : List α) :
  Along step ok s as
  := by
  induction as generalizing s with
  | nil => trivial
  | cons a as ih => use hok s a hs, ih (hstep s a hs)

/-- A measure that no step decreases is not decreased by a run. -/
theorem le_run {m : σ → ℕ} (hm : ∀ s a, m s ≤ m (step s a)) (s : σ) (as : List α) :
  m s ≤ m (run step s as)
  := by
  induction as generalizing s with
  | nil => apply Nat.le_refl
  | cons a as ih => apply Nat.le_trans (hm s a) (ih (step s a))

/-- As `invariant_along`, when a step preserves the property only as long as the measure
`m` stays below `b`, and no step decreases `m`. -/
theorem invariant_along_of_lt
    {P : σ → Prop} {ok : σ → α → Prop} {m : σ → ℕ} {b : ℕ}
    (hm : ∀ s a, m s ≤ m (step s a))
    (hstep : ∀ s a, P s → ok s a → m (step s a) < b → P (step s a))
    {s : σ} {as : List α} (hs : P s) (hok : Along step ok s as)
    (hb : m (run step s as) < b) :
  P (run step s as)
  := by
  induction as generalizing s with
  | nil => apply hs
  | cons a as ih =>
    have hlt : m (step s a) < b := Nat.lt_of_le_of_lt (le_run hm (step s a) as) hb
    apply ih (hstep s a hs hok.1 hlt) hok.2 hb

/-- Every run meets the condition that holds of every step. -/
theorem along_true (s : σ) (as : List α) :
  Along step (fun _ _ => True) s as
  := by
  induction as generalizing s with
  | nil => trivial
  | cons a as ih => use trivial, ih (step s a)

/-- As `invariant_run`, when a step preserves the property only as long as the measure
`m` stays below `b`, and no step decreases `m`. -/
theorem invariant_run_of_lt
    {P : σ → Prop} {m : σ → ℕ} {b : ℕ} (hm : ∀ s a, m s ≤ m (step s a))
    (hstep : ∀ s a, P s → m (step s a) < b → P (step s a))
    {s : σ} (hs : P s) (as : List α) (hb : m (run step s as) < b) :
  P (run step s as)
  := invariant_along_of_lt hm (fun s a hs _ => hstep s a hs) hs (along_true s as) hb

end Machine
