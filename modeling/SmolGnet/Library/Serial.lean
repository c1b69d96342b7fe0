import Mathlib.Algebra.Group.Units.Equiv
import Mathlib.Data.BitVec

/-!
# Numbers that wrap

Adding a constant to two numbers of `w` bits keeps their difference and their equality, but keeps their
order only when both sums wrap or neither does.
-/

namespace Serial

variable {w : ℕ} {k a b : BitVec w}

/-- When `k` is added, both numbers wrap or neither does. -/
def SameSide (k a b : BitVec w) : Prop :=
  2 ^ w ≤ a.toNat + k.toNat ↔ 2 ^ w ≤ b.toNat + k.toNat

instance (k a b : BitVec w) : Decidable (SameSide k a b) :=
  inferInstanceAs (Decidable (_ ↔ _))

theorem SameSide.symm (h : SameSide k a b) :
  SameSide k b a
  := Iff.symm h

theorem toNat_add_cases (k a : BitVec w) :
  (2 ^ w ≤ a.toNat + k.toNat ∧ (a + k).toNat + 2 ^ w = a.toNat + k.toNat) ∨
    (a.toNat + k.toNat < 2 ^ w ∧ (a + k).toNat = a.toNat + k.toNat)
  := by
  rw [BitVec.toNat_add]
  have ha := a.isLt
  have hk := k.isLt
  rcases Nat.lt_or_ge (a.toNat + k.toNat) (2 ^ w) with hlt | hge
  · exact .inr ⟨hlt, Nat.mod_eq_of_lt hlt⟩
  · left
    use hge
    rw [Nat.mod_eq_sub_mod hge, Nat.mod_eq_of_lt (by omega)]
    omega

/-- The order of two numbers is kept exactly when both wrap or neither does. -/
theorem sameSide_iff :
  SameSide k a b ↔ (a + k < b + k ↔ a < b) ∧ (b + k < a + k ↔ b < a)
  := by
  rw [SameSide, BitVec.lt_def, BitVec.lt_def, BitVec.lt_def, BitVec.lt_def]
  have ha := a.isLt
  have hb := b.isLt
  rcases toNat_add_cases k a with ⟨hka, heqa⟩ | ⟨hka, heqa⟩
  · rcases toNat_add_cases k b with ⟨hkb, heqb⟩ | ⟨hkb, heqb⟩
    · omega
    · omega
  · rcases toNat_add_cases k b with ⟨hkb, heqb⟩ | ⟨hkb, heqb⟩
    · omega
    · omega

theorem SameSide.lt_iff (h : SameSide k a b) :
  a + k < b + k ↔ a < b
  := (sameSide_iff.mp h).1

theorem SameSide.le_iff (h : SameSide k a b) :
  a + k ≤ b + k ↔ a ≤ b
  := by
  rw [← BitVec.not_lt, ← BitVec.not_lt, h.symm.lt_iff]

/-- The difference of two numbers is kept. -/
theorem add_sub_add (k a b : BitVec w) :
  a + k - (b + k) = a - b
  := add_sub_add_right_eq_sub a b k

theorem add_right_bijective (k : BitVec w) :
  Function.Bijective (fun a => a + k)
  := (Equiv.addRight k).bijective

end Serial
