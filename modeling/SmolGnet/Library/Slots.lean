import Mathlib.Data.List.MinMax
import Mathlib.Data.List.ReduceOption

/-!
# Slots

A store has a fixed number of slots.  A thing is put into the first free slot; when it is taken out
again, or thrown away, its slot is free, and the things in the other slots stay where they are.  So
the order of the slots is not the order in which the things have come.

The operations go on with what is seen of the things: a store of things that say more is one that
does the same.
-/

namespace Slots

variable {α β : Type*}

/-- Put `a` into the first free slot. -/
def add (a : α) : List (Option α) → Option (List (Option α))
  | [] => none
  | none :: slots => some (some a :: slots)
  | some b :: slots => (add a slots).map (some b :: ·)

/-- Take the first thing out that satisfies `p`. -/
def remove (p : α → Bool) : List (Option α) → Option (α × List (Option α))
  | [] => none
  | none :: slots => (remove p slots).map (fun taken => (taken.1, none :: taken.2))
  | some a :: slots =>
    if p a then some (a, none :: slots)
    else (remove p slots).map (fun taken => (taken.1, some a :: taken.2))

/-- Throw the things away that satisfy `p`. -/
def prune (p : α → Bool) (slots : List (Option α)) : List (Option α) :=
  slots.map (fun slot => slot.filter (fun a => !p a))

variable {a b : α} {p : α → Bool} {slots slots' : List (Option α)}

/-! ### What the operations do -/

/-- The slots before the first free one are taken. -/
theorem add_eq_some (h : add a slots = some slots') :
  ∃ before after, slots = before ++ none :: after ∧ slots' = before ++ some a :: after ∧
    slots.dropWhile Option.isSome = none :: after
  := by
  induction slots generalizing slots' with
  | nil => cases h
  | cons slot slots ih =>
    cases slot with
    | none =>
      cases h
      exact ⟨[], slots, rfl, rfl, rfl⟩
    | some b =>
      obtain ⟨rest, hrest, rfl⟩ := Option.map_eq_some_iff.mp h
      obtain ⟨before, after, rfl, rfl, hdrop⟩ := ih hrest
      exact ⟨some b :: before, after, rfl, rfl, hdrop⟩

/-- A thing cannot be put into the store exactly when every slot is taken. -/
theorem add_eq_none_iff :
  add a slots = none ↔ slots.reduceOption.length = slots.length
  := by
  rw [List.reduceOption_length_eq_iff]
  induction slots with
  | nil => simp [add]
  | cons slot slots ih => cases slot <;> simp [add, ih]

theorem length_add (h : add a slots = some slots') :
  slots'.length = slots.length
  := by
  obtain ⟨before, after, rfl, rfl, -⟩ := add_eq_some h
  simp

theorem length_reduceOption_add (h : add a slots = some slots') :
  slots'.reduceOption.length = slots.reduceOption.length + 1
  := by
  obtain ⟨before, after, rfl, rfl, -⟩ := add_eq_some h
  simp [List.reduceOption_append, Nat.add_assoc]

theorem remove_eq_some (h : remove p slots = some (a, slots')) :
  ∃ before after, slots = before ++ some a :: after ∧ slots' = before ++ none :: after ∧ p a = true
  := by
  induction slots generalizing slots' with
  | nil => cases h
  | cons slot slots ih =>
    cases slot with
    | none =>
      obtain ⟨⟨_, rest⟩, hrest, ⟨⟩⟩ := Option.map_eq_some_iff.mp h
      obtain ⟨before, after, rfl, rfl, hp⟩ := ih hrest
      exact ⟨none :: before, after, rfl, rfl, hp⟩
    | some b =>
      rw [remove] at h
      split at h
      · next hp =>
        cases h
        exact ⟨[], slots, rfl, rfl, hp⟩
      · obtain ⟨⟨_, rest⟩, hrest, ⟨⟩⟩ := Option.map_eq_some_iff.mp h
        obtain ⟨before, after, rfl, rfl, hp⟩ := ih hrest
        exact ⟨some b :: before, after, rfl, rfl, hp⟩

theorem length_remove (h : remove p slots = some (a, slots')) :
  slots'.length = slots.length
  := by
  obtain ⟨before, after, rfl, rfl, -⟩ := remove_eq_some h
  simp

theorem length_reduceOption_remove (h : remove p slots = some (a, slots')) :
  slots.reduceOption.length = slots'.reduceOption.length + 1
  := by
  obtain ⟨before, after, rfl, rfl, -⟩ := remove_eq_some h
  simp [List.reduceOption_append, Nat.add_assoc]

theorem reduceOption_remove_sublist (h : remove p slots = some (a, slots')) :
  slots'.reduceOption.Sublist slots.reduceOption
  := by
  obtain ⟨before, after, rfl, rfl, -⟩ := remove_eq_some h
  simp [List.reduceOption_append]

/-- A thing fits in where another one has been taken out. -/
theorem exists_add_of_remove (h : remove p slots = some (a, slots')) (b : α) :
  ∃ slots'', add b slots' = some slots''
  := by
  rw [← Option.ne_none_iff_exists', Ne, add_eq_none_iff]
  have hcount := length_reduceOption_remove h
  have hlength := length_remove h
  have hle := List.reduceOption_length_le slots
  omega

theorem length_prune :
  (prune p slots).length = slots.length
  := List.length_map _

theorem reduceOption_prune :
  (prune p slots).reduceOption = slots.reduceOption.filter (fun a => !p a)
  := by
  induction slots with
  | nil => rfl
  | cons slot slots ih =>
    rw [prune, List.map_cons]
    cases slot with
    | none => exact ih
    | some a =>
      rw [Option.filter_some, List.reduceOption_cons_of_some, List.filter_cons]
      split
      · rw [List.reduceOption_cons_of_some]
        exact congrArg (a :: ·) ih
      · exact ih

/-! ### Things that say more -/

theorem add_map (f : α → β) (a : α) (slots : List (Option α)) :
  add (f a) (slots.map (Option.map f)) = (add a slots).map (List.map (Option.map f))
  := by
  induction slots with
  | nil => rfl
  | cons slot slots ih =>
    cases slot with
    | none => rfl
    | some b =>
      rw [List.map_cons, Option.map_some, add, ih, add]
      cases add a slots <;> rfl

theorem remove_map (f : α → β) (q : β → Bool) (slots : List (Option α)) :
  remove q (slots.map (Option.map f)) =
    (remove (fun a => q (f a)) slots).map (fun taken => (f taken.1, taken.2.map (Option.map f)))
  := by
  induction slots with
  | nil => rfl
  | cons slot slots ih =>
    cases slot with
    | none =>
      rw [List.map_cons, Option.map_none, remove, ih, remove]
      cases remove (fun a => q (f a)) slots <;> rfl
    | some b =>
      rw [List.map_cons, Option.map_some, remove, ih, remove]
      split
      · rfl
      · cases remove (fun a => q (f a)) slots <;> rfl

theorem prune_map (f : α → β) (q : β → Bool) (slots : List (Option α)) :
  prune q (slots.map (Option.map f)) =
    (prune (fun a => q (f a)) slots).map (Option.map f)
  := by
  rw [prune, prune, List.map_map, List.map_map]
  apply List.map_congr_left
  intro slot _
  cases slot with
  | none => rfl
  | some a =>
    simp only [Function.comp_apply, Option.map_some, Option.filter_some]
    split <;> rfl

/-! ### The first of the greatest -/

/-- The first of the elements with the greatest key comes after lesser ones only, and before ones
that are not greater. -/
theorem argmax_eq_some {f : α → ℕ} {l : List α} (h : l.argmax f = some a) :
  ∃ before after, l = before ++ a :: after ∧ (∀ b ∈ before, f b < f a) ∧ ∀ b ∈ after, f b ≤ f a
  := by
  induction l using List.reverseRecOn generalizing a with
  | nil => cases h
  | append_singleton l b ih =>
    rw [List.argmax_concat] at h
    cases hl : l.argmax f with
    | none =>
      rw [hl] at h
      cases h
      rw [List.argmax_eq_none] at hl
      rw [hl]
      exact ⟨[], [], rfl, nofun, nofun⟩
    | some c =>
      rw [hl] at h
      dsimp only at h
      obtain ⟨before, after, rfl, hbefore, hafter⟩ := ih hl
      split at h
      · next hlt =>
        cases h
        refine ⟨before ++ c :: after, [], rfl, ?_, nofun⟩
        intro d hd
        rcases List.mem_append.mp hd with hd | hd
        · exact (hbefore d hd).trans hlt
        · rcases List.mem_cons.mp hd with rfl | hd
          · exact hlt
          · exact (hafter d hd).trans_lt hlt
      · next hle =>
        cases h
        refine ⟨before, after ++ [b], by simp, hbefore, ?_⟩
        intro d hd
        rcases List.mem_append.mp hd with hd | hd
        · exact hafter d hd
        · rw [List.mem_singleton.mp hd]
          exact Nat.le_of_not_lt hle

end Slots
