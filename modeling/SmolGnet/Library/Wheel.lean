import Mathlib.Data.Nat.ModEq
import Mathlib.Logic.Function.Iterate

/-!
# Numbers in a circle

The numbers from 1 to `m` stand in a circle: after each of them comes the next one, and after `m`
comes 1.  From each of them every other one is reached in less than `m` steps, and the number itself
comes again after every `m` steps.
-/

namespace Wheel

/-- The number after `a`. -/
def next (m a : ℕ) : ℕ :=
  a % m + 1

variable {m a b : ℕ}

theorem next_eq (hm : a ≤ m) :
  next m a = if a = m then 1 else a + 1
  := by
  rw [next]
  split
  · next h => rw [h, Nat.mod_self]
  · next h => rw [Nat.mod_eq_of_lt (Nat.lt_of_le_of_ne hm h)]

theorem next_le (hm : 0 < m) :
  next m a ≤ m
  := Nat.mod_lt a hm

/-- The number that is reached in `n` steps. -/
theorem iterate_next (ha : 0 < a) (hm : a ≤ m) (n : ℕ) :
  (next m)^[n] a = (a - 1 + n) % m + 1
  := by
  induction n with
  | zero =>
    rw [Function.iterate_zero_apply, Nat.add_zero, Nat.mod_eq_of_lt (by omega)]
    omega
  | succ n ih =>
    rw [Function.iterate_succ_apply', ih, next, Nat.mod_add_mod, Nat.add_assoc]

/-- The number comes again after every `m` steps. -/
theorem iterate_next_eq_self_iff (ha : 0 < a) (hm : a ≤ m) (n : ℕ) :
  (next m)^[n] a = a ↔ m ∣ n
  := by
  have hself : a = (a - 1) % m + 1 := by
    rw [Nat.mod_eq_of_lt (by omega)]
    omega
  rw [iterate_next ha hm, ← Nat.modEq_zero_iff_dvd]
  constructor
  · intro h
    apply Nat.ModEq.add_left_cancel' (a - 1)
    change (a - 1 + n) % m = (a - 1) % m
    omega
  · intro h
    have hn : (a - 1 + n) % m = (a - 1 + 0) % m := h.add_left (a - 1)
    rw [hn]
    exact hself.symm

/-- Every number of the circle is reached in less than `m` steps. -/
theorem exists_iterate_next (ha : 0 < a) (hm : a ≤ m) (hb : 0 < b) (hbm : b ≤ m) :
  ∃ n < m, (next m)^[n] a = b
  := by
  by_cases hle : a ≤ b
  · refine ⟨b - a, by omega, ?_⟩
    rw [iterate_next ha hm, Nat.mod_eq_of_lt (by omega)]
    omega
  · refine ⟨m - a + b, by omega, ?_⟩
    have hsum : a - 1 + (m - a + b) = b - 1 + m := by omega
    rw [iterate_next ha hm, hsum, Nat.add_mod_right, Nat.mod_eq_of_lt (by omega)]
    omega

end Wheel
