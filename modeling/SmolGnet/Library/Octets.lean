import Mathlib.Algebra.Ring.Nat
import Mathlib.Data.List.Induction
import Mathlib.Tactic.Use

/-!
# Byte strings

The big-endian bytes of a machine integer and how to read them back, and the copy of one
list over a part of another, `out[off .. off + src.len()].copy_from_slice(src)`, with what
the slices of the result are.
-/

namespace Octets

/-! ### Big-endian integers -/

/-- The `n` big-endian bytes of `v`, without the digits beyond. -/
def toBe : ℕ → ℕ → List (BitVec 8)
  | 0, _ => []
  | n + 1, v => toBe n (v / 256) ++ [BitVec.ofNat 8 v]

/-- The number with the given big-endian bytes. -/
def ofBe (bs : List (BitVec 8)) : ℕ :=
  bs.foldl (fun v b => v * 256 + b.toNat) 0

/-- `v.to_be_bytes()`. -/
def toBeBytes {w : ℕ} (v : BitVec w) : List (BitVec 8) :=
  toBe (w / 8) v.toNat

/-- `from_be_bytes`, at the width `w`. -/
def fromBeBytes (w : ℕ) (bs : List (BitVec 8)) : BitVec w :=
  BitVec.ofNat w (ofBe bs)

@[simp]
theorem length_toBe (n v : ℕ) :
  (toBe n v).length = n
  := by
  induction n generalizing v with
  | zero => rfl
  | succ n ih => rw [toBe, List.length_append, ih, List.length_singleton]

@[simp]
theorem length_toBeBytes {w : ℕ} (v : BitVec w) :
  (toBeBytes v).length = w / 8
  := length_toBe _ _

theorem toBeBytes_byte (b : BitVec 8) :
  toBeBytes b = [b]
  := by
  change [BitVec.ofNat 8 b.toNat] = [b]
  rw [BitVec.ofNat_toNat, BitVec.setWidth_eq]

theorem ofBe_append_singleton (bs : List (BitVec 8)) (b : BitVec 8) :
  ofBe (bs ++ [b]) = ofBe bs * 256 + b.toNat
  := by
  rw [ofBe, List.foldl_append, ← ofBe, List.foldl_cons, List.foldl_nil]

/-- A number below `256 ^ n` is read back from its `n` bytes. -/
theorem ofBe_toBe {n v : ℕ} (h : v < 256 ^ n) :
  ofBe (toBe n v) = v
  := by
  induction n generalizing v with
  | zero =>
    rw [Nat.pow_zero] at h
    rw [Nat.lt_one_iff.mp h]
    rfl
  | succ n ih =>
    have hdiv : v / 256 < 256 ^ n := by
      rw [Nat.pow_succ] at h
      omega
    rw [toBe, ofBe_append_singleton, ih hdiv, BitVec.toNat_ofNat]
    omega

theorem ofBe_lt (bs : List (BitVec 8)) :
  ofBe bs < 256 ^ bs.length
  := by
  induction bs using List.reverseRecOn with
  | nil => exact Nat.one_pos
  | append_singleton bs b ih =>
    rw [ofBe_append_singleton, List.length_append, List.length_singleton, Nat.pow_succ]
    have := b.isLt
    omega

/-- The bytes of a number that was read are the bytes it was read from. -/
theorem toBe_ofBe (bs : List (BitVec 8)) :
  toBe bs.length (ofBe bs) = bs
  := by
  induction bs using List.reverseRecOn with
  | nil => rfl
  | append_singleton bs b ih =>
    have hb := b.isLt
    have hdiv : (ofBe bs * 256 + b.toNat) / 256 = ofBe bs := by omega
    have hlast : BitVec.ofNat 8 (ofBe bs * 256 + b.toNat) = b := by
      apply BitVec.eq_of_toNat_eq
      rw [BitVec.toNat_ofNat]
      omega
    rw [List.length_append, List.length_singleton, toBe, ofBe_append_singleton, hdiv, hlast, ih]

/-- A machine integer of whole bytes is read back from its bytes. -/
theorem fromBeBytes_toBeBytes {w : ℕ} (hw : 8 * (w / 8) = w) (v : BitVec w) :
  fromBeBytes w (toBeBytes v) = v
  := by
  have hpow : 256 ^ (w / 8) = 2 ^ w := by
    rw [show 256 = 2 ^ 8 from rfl, ← Nat.pow_mul, hw]
  have hlt : v.toNat < 256 ^ (w / 8) := by
    rw [hpow]
    apply v.isLt
  rw [fromBeBytes, toBeBytes, ofBe_toBe hlt, BitVec.ofNat_toNat, BitVec.setWidth_eq]

/-- The bytes of an integer that was read are the bytes it was read from. -/
theorem toBeBytes_fromBeBytes {w : ℕ} {bs : List (BitVec 8)} (hw : 8 * bs.length = w) :
  toBeBytes (fromBeBytes w bs) = bs
  := by
  have hlt : ofBe bs < 2 ^ w := by
    rw [← hw, Nat.pow_mul]
    apply ofBe_lt
  have hlen : w / 8 = bs.length := by omega
  rw [toBeBytes, fromBeBytes, BitVec.toNat_ofNat, Nat.mod_eq_of_lt hlt, hlen, toBe_ofBe]

/-! ### Fields of a word -/

/-- A field that fits into a narrower integer is kept there. -/
theorem setWidth_field {w v : ℕ} (x : BitVec w) {m : BitVec w} (hm : m.toNat < 2 ^ v) :
  ((x &&& m).setWidth v).setWidth w = x &&& m
  := by
  apply BitVec.eq_of_toNat_eq
  have hle : (x &&& m).toNat ≤ m.toNat := by
    rw [BitVec.toNat_and]
    apply Nat.and_le_right
  rw [BitVec.toNat_setWidth, BitVec.toNat_setWidth, Nat.mod_eq_of_lt (Nat.lt_of_le_of_lt hle hm),
    Nat.mod_eq_of_lt (x &&& m).isLt]

/-- The mask of a field takes nothing off it. -/
theorem and_field {w v : ℕ} (x m : BitVec w) :
  (x &&& m).setWidth v &&& m.setWidth v = (x &&& m).setWidth v
  := by
  rw [← BitVec.setWidth_and, BitVec.and_assoc, BitVec.and_self]

/-- A field that is put back into its place. -/
theorem shift_field {w : ℕ} (word m : BitVec w) (k : ℕ) :
  (word >>> k &&& m) <<< k = word &&& m <<< k
  := by
  ext i hi
  simp only [BitVec.getElem_shiftLeft, BitVec.getElem_and, BitVec.getElem_ushiftRight]
  by_cases hk : i < k
  · simp [hk]
  · rw [Nat.add_sub_of_le (Nat.le_of_not_lt hk)]
    simp [hk, BitVec.getLsbD_eq_getElem hi]

/-- A word without the bits that are 0 is the word. -/
theorem and_eq_of_disjoint {w : ℕ} {word m m' : BitVec w} (h : word &&& m' = 0#w)
    (hm : m ||| m' = BitVec.allOnes w) :
  word &&& m = word
  := by
  have hword : word &&& (m ||| m') = word := by rw [hm, BitVec.and_allOnes]
  rw [BitVec.and_or_distrib_left, h, BitVec.or_zero] at hword
  exact hword

/-! ### Slices -/

variable {α : Type*}

/-- The list `out` with `src` copied over it from the index `off` on. -/
def copyInto (out : List α) (off : ℕ) (src : List α) : List α :=
  out.take off ++ src ++ out.drop (off + src.length)

/-- The slice `l[off .. off + len]`. -/
def slice (l : List α) (off len : ℕ) : List α :=
  (l.drop off).take len

theorem slice_zero_append {mid : List α} {k : ℕ} (hmid : mid.length = k) (post : List α) :
  slice (mid ++ post) 0 k = mid
  := by
  rw [slice, List.drop_zero, List.take_left' hmid]

@[simp]
theorem slice_zero_length (l : List α) (off : ℕ) :
  slice l off 0 = []
  := List.take_zero

/-- The middle one of three parts. -/
theorem slice_append {pre mid : List α} {n k : ℕ} (hpre : pre.length = n)
    (hmid : mid.length = k) (post : List α) :
  slice (pre ++ (mid ++ post)) n k = mid
  := by
  rw [slice, List.drop_left' hpre, List.take_left' hmid]

/-- A slice of the part behind the first one. -/
theorem slice_append_right {pre post : List α} {off len : ℕ} (h : pre.length ≤ off) :
  slice (pre ++ post) off len = slice post (off - pre.length) len
  := by
  rw [slice, slice, List.drop_append, List.drop_of_length_le h, List.nil_append]

@[simp]
theorem slice_cons_succ (x : α) (l : List α) (off len : ℕ) :
  slice (x :: l) (off + 1) len = slice l off len
  := rfl

/-- Two slices that stand next to each other. -/
theorem slice_append_slice (l : List α) (off m n : ℕ) :
  slice l off m ++ slice l (off + m) n = slice l off (m + n)
  := by
  rw [slice, slice, slice, List.take_add, List.drop_drop]

theorem slice_append_drop (l : List α) (off len : ℕ) :
  slice l off len ++ l.drop (off + len) = l.drop off
  := by
  rw [slice, ← List.drop_drop, List.take_append_drop]

theorem slice_all {l : List α} {len : ℕ} (h : l.length ≤ len) :
  slice l 0 len = l
  := by
  rw [slice, List.drop_zero, List.take_of_length_le h]

theorem slice_one {l : List α} {i : ℕ} (h : i < l.length) (d : α) :
  slice l i 1 = [l.getD i d]
  := by
  rw [slice, List.drop_eq_getElem_cons h, List.take_succ_cons, List.take_zero,
    List.getD_eq_getElem?_getD, List.getElem?_eq_getElem h, Option.getD_some]

theorem slice_two {l : List α} {i : ℕ} (h : i + 1 < l.length) (d : α) :
  slice l i 2 = [l.getD i d, l.getD (i + 1) d]
  := by
  rw [← slice_append_slice l i 1 1, slice_one (by omega) d, slice_one h d]
  rfl

theorem length_slice {l : List α} {off len : ℕ} (h : off + len ≤ l.length) :
  (slice l off len).length = len
  := by
  rw [slice, List.length_take, List.length_drop]
  omega

/-- A slice in which no byte differs from 0. -/
theorem slice_eq_replicate {l : List (BitVec 8)} {off len : ℕ} (h : off + len ≤ l.length)
    (hzeros : ¬ (slice l off len).any (fun v => v ≠ 0#8) = true) :
  slice l off len = List.replicate len 0#8
  := by
  rw [List.eq_replicate_iff]
  constructor
  · exact length_slice h
  · simpa using hzeros

/-- The bytes of an integer that was read from a slice. -/
theorem toBeBytes_slice (l : List (BitVec 8)) (off len : ℕ) {w : ℕ} (hw : 8 * len = w)
    (h : off + len ≤ l.length) :
  toBeBytes (fromBeBytes w (slice l off len)) = slice l off len
  := by
  apply toBeBytes_fromBeBytes
  rw [length_slice h, hw]

theorem length_copyInto {out src : List α} {off : ℕ} (h : off + src.length ≤ out.length) :
  (copyInto out off src).length = out.length
  := by
  simp only [copyInto, List.length_append, List.length_take, List.length_drop]
  omega

@[simp]
theorem copyInto_nil (out : List α) (off : ℕ) :
  copyInto out off [] = out
  := by
  rw [copyInto, List.append_nil, List.length_nil, Nat.add_zero, List.take_append_drop]

theorem copyInto_zero (out src : List α) :
  copyInto out 0 src = src ++ out.drop src.length
  := by
  rw [copyInto, List.take_zero, List.nil_append, Nat.zero_add]

/-- A copy right behind the first of two parts. -/
theorem copyInto_append {pre : List α} {n : ℕ} (h : pre.length = n) (post src : List α) :
  copyInto (pre ++ post) n src = pre ++ (src ++ post.drop src.length)
  := by
  subst h
  rw [copyInto, List.take_left, List.append_assoc, List.drop_append,
    List.drop_of_length_le (Nat.le_add_right _ _), Nat.add_sub_cancel_left, List.nil_append]

/-- What follows the bytes of an integer in a list. -/
theorem drop_eq_toBeBytes_append_iff {l post : List (BitVec 8)} {pos w : ℕ} {v : BitVec w} :
  l.drop pos = toBeBytes v ++ post ↔
    l.drop pos = toBeBytes v ++ l.drop (pos + w / 8) ∧ l.drop (pos + w / 8) = post
  := by
  constructor
  · intro h
    have hpost : l.drop (pos + w / 8) = post := by
      rw [← List.drop_drop, h, List.drop_left' (length_toBeBytes v)]
    rw [hpost]
    exact ⟨h, rfl⟩
  · rintro ⟨h, rfl⟩
    exact h

/-- The integer whose bytes stand at a position of a list. -/
theorem fromBeBytes_slice_eq_iff {l : List (BitVec 8)} {pos w : ℕ} {v : BitVec w}
    (hw : 8 * (w / 8) = w) (hpos : pos + w / 8 ≤ l.length) :
  fromBeBytes w (slice l pos (w / 8)) = v ↔ l.drop pos = toBeBytes v ++ l.drop (pos + w / 8)
  := by
  have hlen : (slice l pos (w / 8)).length = w / 8 := length_slice hpos
  have hsplit : l.drop pos = slice l pos (w / 8) ++ l.drop (pos + w / 8) := by
    rw [slice, ← List.drop_drop, List.take_append_drop]
  rw [hsplit, List.append_left_inj]
  constructor
  · rintro rfl
    rw [toBeBytes_fromBeBytes (by rw [hlen, hw])]
  · intro h
    rw [h, fromBeBytes_toBeBytes hw]

/-- The copied part is what was copied. -/
theorem slice_copyInto {out src : List α} {off : ℕ} (h : off + src.length ≤ out.length) :
  slice (copyInto out off src) off src.length = src
  := by
  have hoff : (out.take off).length = off := List.length_take_of_le (by omega)
  rw [slice, copyInto, List.append_assoc, List.drop_left' hoff, List.take_left]

/-- A slice that does not meet the copied part is as before. -/
theorem slice_copyInto_of_disjoint {out src : List α} {off i len : ℕ}
    (h : off + src.length ≤ out.length) (hdisj : i + len ≤ off ∨ off + src.length ≤ i) :
  slice (copyInto out off src) i len = slice out i len
  := by
  apply List.ext_getElem?
  intro j
  simp only [slice, copyInto, List.getElem?_take, List.getElem?_drop]
  split
  · next hj =>
    rcases hdisj with hbefore | hafter
    · rw [List.append_assoc, List.getElem?_append_left (by simp; omega),
        List.getElem?_take_of_lt (by omega)]
    · rw [List.getElem?_append_right (by simp; omega), List.getElem?_drop]
      congr 1
      simp only [List.length_append, List.length_take]
      omega
  · rfl

/-- A slice without a common byte with the copied part is as before. -/
theorem slice_copyInto_of_apart {out src : List α} {off i len : ℕ}
    (h : off + src.length ≤ out.length)
    (hapart : len = 0 ∨ src.length = 0 ∨ i + len ≤ off ∨ off + src.length ≤ i) :
  slice (copyInto out off src) i len = slice out i len
  := by
  rcases hapart with rfl | hsrc | hdisj
  · rw [slice_zero_length, slice_zero_length]
  · rw [List.eq_nil_of_length_eq_zero hsrc, copyInto_nil]
  · apply slice_copyInto_of_disjoint h hdisj

end Octets
