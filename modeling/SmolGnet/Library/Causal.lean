import Mathlib.Logic.Function.Basic
import Mathlib.Data.List.Basic

/-!
# Things that come in an order

Each thing may need another one that has to come before it.  Who takes things has the set
of those that have been taken, as a function to `Bool`; a list is ordered for such a set
when its things can be taken one after the other, each for the first time and each after
the one it needs.
-/

namespace Causal

variable {κ : Type*} [DecidableEq κ]

/-- What has been taken after the things of a list have been taken, too. -/
def takeAll (taken : κ → Bool) (ks : List κ) : κ → Bool :=
  ks.foldl (fun taken k => Function.update taken k true) taken

@[simp]
theorem takeAll_nil (taken : κ → Bool) :
  takeAll taken [] = taken
  := rfl

@[simp]
theorem takeAll_cons (taken : κ → Bool) (k : κ) (ks : List κ) :
  takeAll taken (k :: ks) = takeAll (Function.update taken k true) ks
  := rfl

theorem takeAll_append (taken : κ → Bool) (ks ks' : List κ) :
  takeAll taken (ks ++ ks') = takeAll (takeAll taken ks) ks'
  := List.foldl_append

/-- What has been taken stays taken. -/
theorem takeAll_of_taken {taken : κ → Bool} {j : κ} (h : taken j = true) (ks : List κ) :
  takeAll taken ks j = true
  := by
  induction ks generalizing taken with
  | nil => apply h
  | cons k ks ih =>
    rw [takeAll_cons]
    apply ih
    by_cases hj : j = k
    · rw [hj, Function.update_self]
    · rw [Function.update_of_ne hj]
      apply h

variable (needs : κ → Option κ)

/-- The things of a list can be taken in this order. -/
def Ordered : (κ → Bool) → List κ → Prop
  | _, [] => True
  | taken, k :: ks =>
    taken k = false ∧ (∀ j, needs k = some j → taken j = true) ∧
      Ordered (Function.update taken k true) ks

variable {needs}

theorem ordered_append {taken : κ → Bool} {ks ks' : List κ} :
  Ordered needs taken (ks ++ ks') ↔
    Ordered needs taken ks ∧ Ordered needs (takeAll taken ks) ks'
  := by
  induction ks generalizing taken with
  | nil => simp [Ordered]
  | cons k ks ih => simp [Ordered, ih, and_assoc]

/-- Nothing in an ordered list has been taken. -/
theorem Ordered.not_taken {taken : κ → Bool} {ks : List κ} (h : Ordered needs taken ks) :
  ∀ k ∈ ks, taken k = false
  := by
  induction ks generalizing taken with
  | nil => simp
  | cons k ks ih =>
    obtain ⟨hk, -, hks⟩ := h
    rw [List.forall_mem_cons]
    use hk
    intro j hj
    have htaken := ih hks j hj
    by_cases hjk : j = k
    · rw [hjk]
      apply hk
    · rw [Function.update_of_ne hjk] at htaken
      apply htaken

end Causal
