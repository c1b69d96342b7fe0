import Mathlib.Algebra.Ring.Nat
import Mathlib.Data.List.Basic

/-!
# Bitmaps of positions

A bitmap of width `w` is a bit vector whose bit `i` records whether the position `i` is
in a set.  The positions of a list are recorded by a loop that sets one bit after the
other and skips the positions `w` and beyond, which the bitmap cannot represent.
-/

namespace Bitmap

variable {β : Type*} {w : ℕ}

/-- Bit `i` of the single bit set at position `d` is set exactly when `i` is `d`. -/
theorem getLsbD_one_shiftLeft (d : BitVec w) (i : ℕ) :
  (1#w <<< d).getLsbD i = (decide (i < w) && decide (d.toNat = i))
  := by
  rw [BitVec.shiftLeft_eq', BitVec.getLsbD_shiftLeft, BitVec.getLsbD_one]
  by_cases hi : i < w
  · by_cases hd : d.toNat = i
    · simp [hi, hd, show 0 < w by omega]
    · by_cases hlt : i < d.toNat
      · simp [hi, hd, hlt]
      · simp [hi, hd, hlt, show i - d.toNat ≠ 0 by omega]
  · simp [hi]

/-- Masking with the single bit at position `d` tests bit `d`. -/
theorem and_one_shiftLeft_ne_zero (bitmap d : BitVec w) :
  (bitmap &&& 1#w <<< d) ≠ 0#w ↔ bitmap.getLsbD d.toNat = true
  := by
  constructor
  · intro h
    by_contra hbit
    apply h
    apply BitVec.eq_of_getLsbD_eq
    intro i hi
    rw [BitVec.getLsbD_and, getLsbD_one_shiftLeft, BitVec.getLsbD_zero]
    by_cases hd : d.toNat = i
    · subst hd
      simp [Bool.eq_false_iff.mpr hbit]
    · simp [hd]
  · intro hbit h
    have hlt : d.toNat < w := BitVec.lt_of_getLsbD hbit
    have hz := congrArg (fun v => v.getLsbD d.toNat) h
    simp only [BitVec.getLsbD_and, getLsbD_one_shiftLeft, BitVec.getLsbD_zero, hbit, hlt,
      decide_true, Bool.and_self, reduceCtorEq] at hz

/-- Bit `i` after setting the bits at the positions `f x` of a list that are below `w`. -/
theorem getLsbD_foldl_set (f : β → BitVec w) {i : ℕ} (hi : i < w) (hw : w < 2 ^ w) :
  ∀ (l : List β) (bitmap : BitVec w),
    (l.foldl (fun bm x => if f x < BitVec.ofNat w w then bm ||| 1#w <<< f x else bm)
        bitmap).getLsbD i
      = (bitmap.getLsbD i || l.any (fun x => (f x).toNat == i))
  | [], bitmap => by simp
  | x :: l, bitmap => by
    rw [List.foldl_cons, getLsbD_foldl_set f hi hw l, List.any_cons]
    by_cases hx : f x < BitVec.ofNat w w
    · rw [if_pos hx, BitVec.getLsbD_or, getLsbD_one_shiftLeft]
      simp only [hi, decide_true, Bool.true_and, Bool.or_assoc]
      rfl
    · have hne : (f x).toNat ≠ i := by
        intro heq
        apply hx
        rw [BitVec.lt_def, BitVec.toNat_ofNat, Nat.mod_eq_of_lt hw]
        omega
      rw [if_neg hx, beq_false_of_ne hne, Bool.false_or]

end Bitmap
