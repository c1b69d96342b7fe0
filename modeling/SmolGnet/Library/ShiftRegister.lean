import Mathlib.Algebra.Ring.Nat
import Mathlib.Data.List.GetD
import Mathlib.Data.List.Induction
import Mathlib.Logic.Function.Iterate
import SmolGnet.Library.Octets

/-!
# Shift registers

A register of `w` bits that divides a stream of bits by a polynomial of degree `w`.  The coefficient
of `x ^ w` is understood, `p` has the others, and the first bit of the stream is the highest one.

A step is linear, so a digit of several bits can be fed at once with a look into a table; and if the
polynomial has a constant coefficient, nothing is lost when the register is moved on, so two streams
that differ inside a window of `w` bits never leave the same register.
-/

namespace ShiftRegister

open Octets

variable {w : ℕ}

/-- Move the register by one place. -/
def shift (p x : BitVec w) : BitVec w :=
  if x.msb then (x <<< 1) ^^^ p else x <<< 1

/-- Move the register by one place and feed one bit. -/
def feed (p x : BitVec w) (bit : Bool) : BitVec w :=
  if x.msb ^^ bit then (x <<< 1) ^^^ p else x <<< 1

/-- Feed bits, the first one first. -/
def run (p x : BitVec w) (bits : List Bool) : BitVec w :=
  bits.foldl (feed p) x

/-- The bits of a list at the top of the register, the first one highest. -/
def top (w : ℕ) : List Bool → BitVec w
  | [] => 0#w
  | bit :: bits => (if bit then BitVec.twoPow w (w - 1) else 0#w) ^^^ (top w bits >>> 1)

@[simp]
theorem run_nil (p x : BitVec w) :
  run p x [] = x
  := rfl

@[simp]
theorem run_cons (p x : BitVec w) (bit : Bool) (bits : List Bool) :
  run p x (bit :: bits) = run p (feed p x bit) bits
  := rfl

theorem run_append (p x : BitVec w) (bits bits' : List Bool) :
  run p x (bits ++ bits') = run p (run p x bits) bits'
  := List.foldl_append

/-! ### Linearity -/

theorem shift_xor (p x y : BitVec w) :
  shift p (x ^^^ y) = shift p x ^^^ shift p y
  := by
  have hcomm : ∀ a b c : BitVec w, a ^^^ b ^^^ c = a ^^^ c ^^^ b := by
    intro a b c
    rw [BitVec.xor_assoc, BitVec.xor_assoc, BitVec.xor_comm b]
  simp only [shift, BitVec.msb_xor, BitVec.shiftLeft_xor_distrib]
  cases x.msb with
  | false =>
    cases y.msb with
    | false => rfl
    | true => exact BitVec.xor_assoc _ _ _
  | true =>
    cases y.msb with
    | false => exact hcomm _ _ _
    | true =>
      change x <<< 1 ^^^ y <<< 1 = x <<< 1 ^^^ p ^^^ (y <<< 1 ^^^ p)
      rw [← BitVec.xor_assoc, hcomm (x <<< 1) p, BitVec.xor_assoc (x <<< 1 ^^^ y <<< 1),
        BitVec.xor_self, BitVec.xor_zero]

@[simp]
theorem shift_zero (p : BitVec w) :
  shift p 0#w = 0#w
  := by
  rw [shift, BitVec.msb_zero]
  simp

theorem iterate_shift_xor (p x y : BitVec w) (n : ℕ) :
  (shift p)^[n] (x ^^^ y) = (shift p)^[n] x ^^^ (shift p)^[n] y
  := by
  induction n generalizing x y with
  | zero => rfl
  | succ n ih => rw [Function.iterate_succ_apply, shift_xor, ih]; rfl

/-- A bit is fed by an exclusive or with the highest bit of the register. -/
theorem feed_eq_shift (p x : BitVec w) (hw : 0 < w) (bit : Bool) :
  feed p x bit = shift p (x ^^^ (if bit then BitVec.twoPow w (w - 1) else 0#w))
  := by
  cases bit with
  | false => simp [feed, shift]
  | true =>
    have hmsb : (x ^^^ BitVec.twoPow w (w - 1)).msb = (x.msb ^^ true) := by
      rw [BitVec.msb_xor, BitVec.msb_twoPow]
      simp [show w - 1 < w by omega]
    have hshift : (x ^^^ BitVec.twoPow w (w - 1)) <<< 1 = x <<< 1 := by
      rw [BitVec.shiftLeft_xor_distrib]
      have hzero : BitVec.twoPow w (w - 1) <<< 1 = 0#w := by
        apply BitVec.eq_of_getLsbD_eq
        intro i hi
        simp
        omega
      rw [hzero, BitVec.xor_zero]
    rw [if_pos rfl, feed, shift, hmsb, hshift]

/-! ### Short streams -/

theorem getLsbD_top (bits : List Bool) (i : ℕ) :
  (top w bits).getLsbD i = (decide (i < w) && bits.getD (w - 1 - i) false)
  := by
  induction bits generalizing i with
  | nil => simp [top]
  | cons bit bits ih =>
    rw [top, BitVec.getLsbD_xor, BitVec.getLsbD_ushiftRight, ih]
    by_cases hi : i < w
    · by_cases hlast : i = w - 1
      · have hnext : ¬ 1 + i < w := by omega
        have hindex : w - 1 - i = 0 := by omega
        cases bit with
        | false => simp [hi, hnext, hindex]
        | true => simp [hi, hnext, hlast.symm]
      · have hnext : 1 + i < w := by omega
        have hindex : w - 1 - i = w - 1 - (1 + i) + 1 := by omega
        cases bit with
        | false => simp [hi, hnext, hindex]
        | true => simp [hi, hnext, hindex, hlast]
    · have hnext : ¬ 1 + i < w := by omega
      cases bit with
      | false => simp [hi, hnext]
      | true =>
        simp [hi, hnext]
        omega

/-- A stream that fits into the register can be told from its bits at the top. -/
theorem top_inj {bits bits' : List Bool} (hlen : bits.length = bits'.length)
    (hfit : bits.length ≤ w) (h : top w bits = top w bits') :
  bits = bits'
  := by
  apply List.ext_getElem hlen
  intro j hj hj'
  have hbit := congrArg (BitVec.getLsbD · (w - 1 - j)) h
  simp only [getLsbD_top] at hbit
  have hindex : w - 1 - (w - 1 - j) = j := by omega
  have hlt : w - 1 - j < w := by omega
  simpa [hindex, hlt, hj, hj'] using hbit

/-- What has no bit in the last place is what it was before the last move. -/
theorem shift_ushiftRight (p : BitVec w) {y : BitVec w} (h : y.getLsbD 0 = false) :
  shift p (y >>> 1) = y
  := by
  have hmsb : (y >>> 1).msb = false := by
    rw [BitVec.msb_ushiftRight]
    simp
  rw [shift, hmsb, if_neg (by simp)]
  apply BitVec.eq_of_getLsbD_eq
  intro i hi
  rcases i with _ | i
  · simp [h]
  · simp [hi, Nat.add_comm 1 i]

/-- What has no bits in the last `n` places is what it was `n` moves before. -/
theorem iterate_shift_ushiftRight (p : BitVec w) {y : BitVec w} {n : ℕ}
    (h : ∀ i, i < n → y.getLsbD i = false) :
  (shift p)^[n] (y >>> n) = y
  := by
  induction n with
  | zero => simp
  | succ n ih =>
    have hbit : (y >>> n).getLsbD 0 = false := by
      rw [BitVec.getLsbD_ushiftRight]
      exact h n (by omega)
    rw [Function.iterate_succ_apply, BitVec.shiftRight_add, shift_ushiftRight p hbit]
    exact ih fun i hi => h i (by omega)

/-- A stream that fits into the register can be fed at once. -/
theorem run_eq_iterate_shift (p x : BitVec w) {bits : List Bool} (hfit : bits.length ≤ w) :
  run p x bits = (shift p)^[bits.length] (x ^^^ top w bits)
  := by
  induction bits generalizing x with
  | nil => simp [top]
  | cons bit bits ih =>
    rw [List.length_cons] at hfit
    have hlow : (top w bits).getLsbD 0 = false := by
      rw [getLsbD_top, List.getD_eq_default _ _ (by omega), Bool.and_false]
    rw [run_cons, feed_eq_shift p x (by omega), ih _ (by omega), List.length_cons,
      Function.iterate_succ_apply, top, ← BitVec.xor_assoc, shift_xor p _ (top w bits >>> 1),
      shift_ushiftRight p hlow]

/-! ### Digits -/

/-- The last `n` bits of `v`, the highest first. -/
def lowBits {m : ℕ} (v : BitVec m) (n : ℕ) : List Bool :=
  (List.range n).reverse.map v.getLsbD

@[simp]
theorem length_lowBits {m : ℕ} (v : BitVec m) (n : ℕ) :
  (lowBits v n).length = n
  := by
  simp [lowBits]

theorem getElem?_lowBits {m : ℕ} (v : BitVec m) {n j : ℕ} (hj : j < n) :
  (lowBits v n)[j]? = some (v.getLsbD (n - 1 - j))
  := by
  rw [lowBits, List.getElem?_map, List.getElem?_reverse (by simpa using hj), List.length_range,
    List.getElem?_range (by omega)]
  rfl

theorem lowBits_congr {m m' n : ℕ} {v : BitVec m} {v' : BitVec m'} :
  lowBits v n = lowBits v' n ↔ ∀ i, i < n → v.getLsbD i = v'.getLsbD i
  := by
  rw [lowBits, lowBits, List.map_inj_left]
  simp

/-- The bits of two digits next to each other. -/
theorem lowBits_add {m : ℕ} (v : BitVec m) (n k : ℕ) :
  lowBits v (n + k) = lowBits (v >>> k) n ++ lowBits v k
  := by
  rw [lowBits, lowBits, lowBits, Nat.add_comm n k, List.range_add, List.reverse_append,
    List.map_append, ← List.map_reverse, List.map_map]
  congr 1
  apply List.map_congr_left
  intro i _
  rw [BitVec.getLsbD_ushiftRight]
  rfl

theorem lowBits_setWidth {m m' n : ℕ} (v : BitVec m) (hn : n ≤ m') :
  lowBits (v.setWidth m') n = lowBits v n
  := by
  rw [lowBits_congr]
  intro i hi
  simp [show i < m' by omega]

theorem top_lowBits {m n : ℕ} (v : BitVec m) (hn : n ≤ w) :
  top w (lowBits v n) = v.setWidth w <<< (w - n)
  := by
  apply BitVec.eq_of_getLsbD_eq
  intro i hi
  rw [getLsbD_top, List.getD_eq_getElem?_getD, BitVec.getLsbD_shiftLeft]
  by_cases hlt : i < w - n
  · rw [List.getElem?_eq_none (by rw [length_lowBits]; omega)]
    simp [hlt]
  · rw [getElem?_lowBits v (by omega)]
    have hindex : n - 1 - (w - 1 - i) = i - (w - n) := by omega
    have hroom : i - (w - n) < w := by omega
    simp [hi, hlt, hindex, hroom]

/-- A digit as wide as the register is fed at once. -/
theorem run_lowBits (p x v : BitVec w) :
  run p x (lowBits v w) = (shift p)^[w] (x ^^^ v)
  := by
  rw [run_eq_iterate_shift p x (Nat.le_of_eq (length_lowBits v w)), length_lowBits, top_lowBits v (Nat.le_refl w),
    Nat.sub_self, BitVec.shiftLeft_zero, BitVec.setWidth_eq]

/-- The entry of the table of `p` for a digit of `n` bits. -/
def entry (p : BitVec w) {n : ℕ} (digit : BitVec n) : BitVec w :=
  (shift p)^[n] (digit.setWidth w <<< (w - n))

/-- A digit is fed by a look into the table for its exclusive or with the highest digit of the
register. -/
theorem run_digit (p x : BitVec w) {n : ℕ} (hn : n ≤ w) (v : BitVec n) :
  run p x (lowBits v n) = (x <<< n) ^^^ entry p ((x >>> (w - n)).setWidth n ^^^ v)
  := by
  have hlow : (shift p)^[n] ((x <<< n) >>> n) = x <<< n := by
    apply iterate_shift_ushiftRight
    intro i hi
    simp [hi]
  have hsplit : x ^^^ v.setWidth w <<< (w - n)
      = ((x <<< n) >>> n) ^^^ ((x >>> (w - n)).setWidth n ^^^ v).setWidth w <<< (w - n) := by
    apply BitVec.eq_of_getLsbD_eq
    intro i hi
    by_cases hlt : i < w - n
    · simp [hi, hlt, show n + i < w by omega]
    · have hindex : w - n + (i - (w - n)) = i := by omega
      simp [hi, hlt, hindex, show ¬ n + i < w by omega, show i - (w - n) < n by omega,
        show i - (w - n) < w by omega]
  rw [run_eq_iterate_shift p x (by rw [length_lowBits]; exact hn), length_lowBits, top_lowBits v hn,
    hsplit, iterate_shift_xor, hlow, entry]

/-! ### Bursts -/

/-- If the polynomial has a constant coefficient, only the empty register is moved to the empty
register. -/
theorem eq_zero_of_shift {p x : BitVec w} (hp : p.getLsbD 0 = true) (h : shift p x = 0#w) :
  x = 0#w
  := by
  have hw : 0 < w := BitVec.lt_of_getLsbD hp
  rw [shift] at h
  cases hmsb : x.msb with
  | true =>
    rw [hmsb, if_pos rfl] at h
    have hbit := congrArg (BitVec.getLsbD · 0) h
    simp [hp] at hbit
  | false =>
    rw [hmsb, if_neg (by simp)] at h
    apply BitVec.eq_of_getLsbD_eq
    intro i hi
    rw [BitVec.getLsbD_zero]
    by_cases hlast : i = w - 1
    · rw [hlast, ← BitVec.msb_eq_getLsbD_last]
      exact hmsb
    · have hbit := congrArg (BitVec.getLsbD · (i + 1)) h
      rw [BitVec.getLsbD_eq_getElem hi]
      simpa [show i + 1 < w by omega] using hbit

theorem shift_inj {p x y : BitVec w} (hp : p.getLsbD 0 = true) (h : shift p x = shift p y) :
  x = y
  := by
  apply BitVec.xor_eq_zero_iff.mp
  apply eq_zero_of_shift hp
  rw [shift_xor, h, BitVec.xor_self]

theorem iterate_shift_inj {p x y : BitVec w} (hp : p.getLsbD 0 = true) {n : ℕ}
    (h : (shift p)^[n] x = (shift p)^[n] y) :
  x = y
  := by
  induction n generalizing x y with
  | zero => exact h
  | succ n ih => exact shift_inj hp (ih h)

/-- Two registers that are fed the same bits stay different. -/
theorem run_inj {p x y : BitVec w} (hp : p.getLsbD 0 = true) {bits : List Bool}
    (h : run p x bits = run p y bits) :
  x = y
  := by
  induction bits generalizing x y with
  | nil => exact h
  | cons bit bits ih =>
    have hfeed : feed p x bit = feed p y bit := ih h
    have hw : 0 < w := BitVec.lt_of_getLsbD hp
    rw [feed_eq_shift p x hw, feed_eq_shift p y hw] at hfeed
    exact (BitVec.xor_left_inj _).mp (shift_inj hp hfeed)

/-- The streams have one length, are not equal, and differ only inside a window of `n` bits. -/
def Burst {α : Type*} (n : ℕ) (bits bits' : List α) : Prop :=
  bits.length = bits'.length ∧ bits ≠ bits' ∧
    ∃ start, ∀ i, i < start ∨ start + n ≤ i → bits[i]? = bits'[i]?

instance decidableOutside {α : Type*} [DecidableEq α] (n start : ℕ) (bits bits' : List α) :
    Decidable (∀ i, i < start ∨ start + n ≤ i → bits[i]? = bits'[i]?) :=
  decidable_of_iff
    (∀ i < max bits.length bits'.length, i < start ∨ start + n ≤ i → bits[i]? = bits'[i]?) (by
      constructor
      · intro h i hi
        by_cases hlt : i < max bits.length bits'.length
        · exact h i hlt hi
        · rw [List.getElem?_eq_none (by omega), List.getElem?_eq_none (by omega)]
      · intro h i _ hi
        exact h i hi)

theorem Burst.mono {α : Type*} {n n' : ℕ} {bits bits' : List α} (h : Burst n bits bits')
    (hn : n ≤ n') :
  Burst n' bits bits'
  := by
  obtain ⟨hlen, hne, start, hsame⟩ := h
  exact ⟨hlen, hne, start, fun i hi => hsame i (by omega)⟩

theorem Burst.append_left {α : Type*} {n : ℕ} {bits bits' : List α} (h : Burst n bits bits')
    (before : List α) :
  Burst n (before ++ bits) (before ++ bits')
  := by
  obtain ⟨hlen, hne, start, hsame⟩ := h
  refine ⟨by rw [List.length_append, List.length_append, hlen], ?_, before.length + start, ?_⟩
  · exact fun heq => hne (List.append_cancel_left heq)
  · intro i hi
    by_cases hlt : i < before.length
    · rw [List.getElem?_append_left hlt, List.getElem?_append_left hlt]
    · rw [List.getElem?_append_right (by omega), List.getElem?_append_right (by omega)]
      exact hsame _ (by omega)

theorem Burst.append_right {α : Type*} {n : ℕ} {bits bits' : List α} (h : Burst n bits bits')
    (after : List α) :
  Burst n (bits ++ after) (bits' ++ after)
  := by
  obtain ⟨hlen, hne, start, hsame⟩ := h
  refine ⟨by rw [List.length_append, List.length_append, hlen], ?_, start, ?_⟩
  · exact fun heq => hne (List.append_cancel_right heq)
  · intro i hi
    rw [List.getElem?_append, List.getElem?_append, hlen, hsame i hi]

/-- The slice of a stream that has the window of a burst. -/
theorem burst_slice {α : Type*} {n start off len : ℕ} {bits bits' : List α}
    (hlen : bits.length = bits'.length) (hne : bits ≠ bits')
    (hsame : ∀ i, i < start ∨ start + n ≤ i → bits[i]? = bits'[i]?)
    (hoff : off ≤ start) (hfit : start + n ≤ off + len) :
  Burst n (slice bits off len) (slice bits' off len)
  := by
  refine ⟨?_, ?_, start - off, ?_⟩
  · rw [slice, slice, List.length_take, List.length_take, List.length_drop, List.length_drop, hlen]
  · intro heq
    apply hne
    apply List.ext_getElem?
    intro i
    by_cases hi : i < start ∨ start + n ≤ i
    · exact hsame i hi
    · have hat := congrArg (fun l : List α => l[i - off]?) heq
      simpa [slice, show i - off < len by omega, show off + (i - off) = i by omega] using hat
  · intro i hi
    rw [slice, slice, List.getElem?_take, List.getElem?_take, List.getElem?_drop, List.getElem?_drop]
    rw [hsame (off + i) (by omega)]

/-- A slice of a stream that is apart from the window of a burst. -/
theorem slice_eq_of_apart {α : Type*} {n start off len : ℕ} {bits bits' : List α}
    (hsame : ∀ i, i < start ∨ start + n ≤ i → bits[i]? = bits'[i]?)
    (hapart : off + len ≤ start ∨ start + n ≤ off) :
  slice bits off len = slice bits' off len
  := by
  apply List.ext_getElem?
  intro i
  rw [slice, slice, List.getElem?_take, List.getElem?_take, List.getElem?_drop, List.getElem?_drop]
  split
  · rw [hsame (off + i) (by omega)]
  · rfl

/-- What lies before and behind the window of a burst. -/
theorem Burst.split {α : Type*} {n : ℕ} {bits bits' : List α} (h : Burst n bits bits') :
  ∃ before window window' after, bits = before ++ (window ++ after) ∧
    bits' = before ++ (window' ++ after) ∧ window.length = window'.length ∧ window.length ≤ n ∧
    window ≠ window'
  := by
  obtain ⟨hlen, hne, start, hsame⟩ := h
  have hbefore : bits'.take start = bits.take start := by
    apply List.ext_getElem?
    intro i
    rw [List.getElem?_take, List.getElem?_take]
    split
    · next hi => exact (hsame i (.inl hi)).symm
    · rfl
  have hafter : bits'.drop (start + n) = bits.drop (start + n) := by
    apply List.ext_getElem?
    intro i
    rw [List.getElem?_drop, List.getElem?_drop]
    exact (hsame _ (.inr (by omega))).symm
  have hsplit : ∀ l : List α,
      l = l.take start ++ ((l.drop start).take n ++ l.drop (start + n)) := by
    intro l
    rw [← List.drop_drop, List.take_append_drop, List.take_append_drop]
  have hsplit' := hsplit bits'
  rw [hbefore, hafter] at hsplit'
  refine ⟨_, _, _, _, hsplit bits, hsplit', ?_, List.length_take_le _ _, ?_⟩
  · rw [List.length_take, List.length_take, List.length_drop, List.length_drop, hlen]
  · intro heq
    apply hne
    rw [hsplit bits, hsplit', heq]

/-- A polynomial with a constant coefficient catches every burst that is no wider than the
register. -/
theorem run_ne_of_burst {p : BitVec w} (hp : p.getLsbD 0 = true) (x : BitVec w)
    {bits bits' : List Bool} (h : Burst w bits bits') :
  run p x bits ≠ run p x bits'
  := by
  obtain ⟨before, window, window', after, rfl, rfl, hlen, hfit, hne⟩ := h.split
  intro heq
  rw [run_append, run_append, run_append, run_append] at heq
  have hwindow : run p (run p x before) window = run p (run p x before) window' := run_inj hp heq
  have hfit' : window'.length ≤ w := hlen ▸ hfit
  rw [run_eq_iterate_shift p (run p x before) hfit, run_eq_iterate_shift p (run p x before) hfit',
    hlen] at hwindow
  have htop := (BitVec.xor_right_inj _).mp (iterate_shift_inj hp hwindow)
  exact hne (top_inj hlen hfit htop)

/-! ### The bits of byte strings -/

/-- The bits of a list of digits, the highest bit of the first digit first. -/
def bits {m : ℕ} (digits : List (BitVec m)) : List Bool :=
  digits.flatMap (lowBits · m)

@[simp]
theorem bits_nil {m : ℕ} :
  bits ([] : List (BitVec m)) = []
  := rfl

theorem bits_cons {m : ℕ} (digit : BitVec m) (digits : List (BitVec m)) :
  bits (digit :: digits) = lowBits digit m ++ bits digits
  := List.flatMap_cons

theorem bits_append {m : ℕ} (digits digits' : List (BitVec m)) :
  bits (digits ++ digits') = bits digits ++ bits digits'
  := List.flatMap_append

@[simp]
theorem length_bits {m : ℕ} (digits : List (BitVec m)) :
  (bits digits).length = m * digits.length
  := by
  induction digits with
  | nil => rfl
  | cons digit digits ih =>
    rw [bits_cons, List.length_append, length_lowBits, ih, List.length_cons, Nat.mul_succ,
      Nat.add_comm]

theorem bits_inj {m : ℕ} {digits digits' : List (BitVec m)}
    (hlen : digits.length = digits'.length) (h : bits digits = bits digits') :
  digits = digits'
  := by
  induction digits generalizing digits' with
  | nil => exact (List.length_eq_zero_iff.mp hlen.symm).symm
  | cons digit digits ih =>
    cases digits' with
    | nil => cases hlen
    | cons digit' digits' =>
      rw [bits_cons, bits_cons] at h
      obtain ⟨hdigit, hrest⟩ := List.append_inj h (by rw [length_lowBits, length_lowBits])
      rw [lowBits_congr] at hdigit
      rw [BitVec.eq_of_getLsbD_eq hdigit, ih (Nat.succ.inj hlen) hrest]

theorem bits_take {m : ℕ} (digits : List (BitVec m)) (k : ℕ) :
  bits (digits.take k) = (bits digits).take (m * k)
  := by
  by_cases hk : k ≤ digits.length
  · have hlen : (bits (digits.take k)).length = m * k := by
      rw [length_bits, List.length_take_of_le hk]
    conv_rhs => rw [← List.take_append_drop k digits, bits_append, List.take_left' hlen]
  · have hle : digits.length ≤ k := by omega
    rw [List.take_of_length_le hle, List.take_of_length_le]
    rw [length_bits]
    exact Nat.mul_le_mul_left m hle

theorem bits_drop {m : ℕ} (digits : List (BitVec m)) (k : ℕ) :
  bits (digits.drop k) = (bits digits).drop (m * k)
  := by
  by_cases hk : k ≤ digits.length
  · have hlen : (bits (digits.take k)).length = m * k := by
      rw [length_bits, List.length_take_of_le hk]
    conv_rhs => rw [← List.take_append_drop k digits, bits_append, List.drop_left' hlen]
  · have hle : digits.length ≤ k := by omega
    rw [List.drop_of_length_le hle, List.drop_of_length_le]
    · rfl
    · rw [length_bits]
      exact Nat.mul_le_mul_left m hle

theorem bits_slice {m : ℕ} (digits : List (BitVec m)) (off len : ℕ) :
  bits (slice digits off len) = slice (bits digits) (m * off) (m * len)
  := by
  rw [slice, bits_take, bits_drop, slice]

/-- The bits of bytes are those of the number that they are the big-endian digits of. -/
theorem bits_eq_lowBits {bytes : List (BitVec 8)} (hw : 8 * bytes.length = w) :
  bits bytes = lowBits (fromBeBytes w bytes) w
  := by
  have htestBit : bits bytes
      = (List.range (8 * bytes.length)).reverse.map (ofBe bytes).testBit := by
    clear hw
    induction bytes using List.reverseRecOn with
    | nil => rfl
    | append_singleton bytes b ih =>
      have hnumber : ofBe (bytes ++ [b]) = 2 ^ 8 * ofBe bytes + b.toNat := by
        rw [ofBe, List.foldl_append, List.foldl_cons, List.foldl_nil, ← ofBe,
          Nat.mul_comm (ofBe bytes), show 2 ^ 8 = 256 from rfl]
      have hrange : 8 * (bytes ++ [b]).length = 8 + 8 * bytes.length := by
        rw [List.length_append, List.length_singleton, Nat.mul_add, Nat.add_comm]
      rw [bits_append, bits_cons, bits_nil, List.append_nil, ih, hrange, List.range_add,
        List.reverse_append, List.map_append, ← List.map_reverse, List.map_map, lowBits, hnumber]
      congr 1
      · apply List.map_congr_left
        intro i _
        rw [Function.comp_apply, Nat.testBit_two_pow_mul_add _ b.isLt, if_neg (by omega),
          Nat.add_sub_cancel_left]
      · apply List.map_congr_left
        intro i hi
        rw [List.mem_reverse, List.mem_range] at hi
        rw [Nat.testBit_two_pow_mul_add _ b.isLt, if_pos hi]
        rfl
  rw [htestBit, hw, lowBits]
  apply List.map_congr_left
  intro i hi
  rw [List.mem_reverse, List.mem_range] at hi
  rw [fromBeBytes, BitVec.getLsbD_ofNat]
  simp [hi]

/-- The digits have changed, and only inside the window of `n` bits from `start` on. -/
def ChangedWithin {m : ℕ} (n start : ℕ) (digits digits' : List (BitVec m)) : Prop :=
  digits.length = digits'.length ∧ digits ≠ digits' ∧
    ∀ i, i < start ∨ start + n ≤ i → (bits digits)[i]? = (bits digits')[i]?

theorem ChangedWithin.bits_ne {m n start : ℕ} {digits digits' : List (BitVec m)}
    (h : ChangedWithin n start digits digits') :
  bits digits ≠ bits digits'
  := fun heq => h.2.1 (bits_inj h.1 heq)

theorem ChangedWithin.length_bits {m n start : ℕ} {digits digits' : List (BitVec m)}
    (h : ChangedWithin n start digits digits') :
  (bits digits).length = (bits digits').length
  := by
  rw [ShiftRegister.length_bits, ShiftRegister.length_bits, h.1]

theorem ChangedWithin.burst {m n start : ℕ} {digits digits' : List (BitVec m)}
    (h : ChangedWithin n start digits digits') :
  Burst n (bits digits) (bits digits')
  := ⟨h.length_bits, h.bits_ne, start, h.2.2⟩

/-- A change of whole digits. -/
theorem changedWithin_of_digits {m : ℕ} {before window window' after : List (BitVec m)}
    (hlen : window.length = window'.length) (hne : window ≠ window') :
  ChangedWithin (m * window.length) (m * before.length) (before ++ (window ++ after))
    (before ++ (window' ++ after))
  := by
  refine ⟨by simp [hlen], ?_, ?_⟩
  · intro heq
    exact hne (List.append_cancel_right (List.append_cancel_left heq))
  · intro i hi
    have hbefore := length_bits before
    have hwindow := length_bits window
    have hwindow' : (bits window').length = m * window.length := by rw [length_bits, hlen]
    rw [bits_append, bits_append, bits_append, bits_append]
    rcases hi with hi | hi
    · rw [List.getElem?_append_left (by omega), List.getElem?_append_left (by omega)]
    · rw [List.getElem?_append_right (by omega), List.getElem?_append_right (by omega),
        List.getElem?_append_right (by omega), List.getElem?_append_right (by omega), hwindow,
        hwindow']

end ShiftRegister
