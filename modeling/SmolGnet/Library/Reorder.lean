import Mathlib.Data.Set.Lattice
import Mathlib.Order.CompletePartialOrder
import SmolGnet.Library.Machine

/-!
# Runs in another order

Two lists of actions are `Reordered` when one becomes the other by exchanging neighboring actions
that are independent.  If independent actions commute, then both lists lead to the same state.  A
change of a set that replaces elements commutes with one that replaces other elements.
-/

/-! ### Independent actions -/

namespace Machine

variable {σ τ α : Type*} {step : σ → α → σ} {indep : α → α → Prop}

/-- The lists of actions differ only in the order of independent actions. -/
inductive Reordered (indep : α → α → Prop) : List α → List α → Prop where
  | nil : Reordered indep [] []
  | cons {as bs : List α} (a : α) (h : Reordered indep as bs) : Reordered indep (a :: as) (a :: bs)
  | swap {a b : α} (h : indep a b) (as : List α) : Reordered indep (a :: b :: as) (b :: a :: as)
  | trans {as bs cs : List α} (h : Reordered indep as bs) (h' : Reordered indep bs cs) :
    Reordered indep as cs

/-- When independent actions commute, their order does not matter. -/
theorem run_reordered
    (hcomm : ∀ s a b, indep a b → step (step s a) b = step (step s b) a) {as bs : List α}
    (h : Reordered indep as bs) (s : σ) :
  run step s as = run step s bs
  := by
  induction h generalizing s with
  | nil => rfl
  | cons a _ ih => exact ih (step s a)
  | swap h as => rw [run_cons, run_cons, run_cons, run_cons, hcomm s _ _ h]
  | trans _ _ ih ih' => exact (ih s).trans (ih' s)

/-- A machine that does the same with `f` of the state does the same in a run. -/
theorem run_comap {step' : τ → α → τ} {f : σ → τ} (hf : ∀ s a, f (step s a) = step' (f s) a)
    (s : σ) (as : List α) :
  f (run step s as) = run step' (f s) as
  := by
  induction as generalizing s with
  | nil => rfl
  | cons a as ih => rw [run_cons, run_cons, ih, hf]

end Machine

/-! ### Replacing elements of a set -/

/-- A change of a set: the elements of `old` are taken out, and `new` ones that are among them are
put in. -/
structure Replacement (α : Type*) where
  old : Set α
  new : Set α
  new_subset : new ⊆ old

namespace Replacement

variable {α : Type*} {r r' : Replacement α} {s : Set α}

/-- The set after the change. -/
def apply (r : Replacement α) (s : Set α) : Set α :=
  r.new ∪ s \ r.old

/-- Changes of different elements commute. -/
theorem apply_comm (h : Disjoint r.old r'.old) (s : Set α) :
  r'.apply (r.apply s) = r.apply (r'.apply s)
  := by
  have hdisjoint := Set.disjoint_left.mp h
  ext x
  simp only [apply, Set.mem_union, Set.mem_sdiff]
  constructor
  · rintro (hx | ⟨hx | ⟨hx, hold⟩, hold'⟩)
    · exact .inr ⟨.inl hx, fun hold => hdisjoint hold (r'.new_subset hx)⟩
    · exact .inl hx
    · exact .inr ⟨.inr ⟨hx, hold'⟩, hold⟩
  · rintro (hx | ⟨hx | ⟨hx, hold'⟩, hold⟩)
    · exact .inr ⟨.inl hx, fun hold' => hdisjoint (r.new_subset hx) hold'⟩
    · exact .inl hx
    · exact .inr ⟨.inr ⟨hx, hold⟩, hold'⟩

end Replacement
