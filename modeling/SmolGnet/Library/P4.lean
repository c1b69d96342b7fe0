import SmolGnet.Library.Octets
import Mathlib.Data.List.MinMax

/-!
# Headers of P4 programs

A header of a P4 program is a sequence of bit fields.  It is read from a packet, and written to it,
as its fields one after the other, the most significant bit of each first.

A header type is a structure whose fields are the bit fields; the class `Header` gives their widths.
Extracting a header and writing it are inverse to each other.  A field of whole bytes is read as a
big-endian integer, and any field is read as the digits of a word that the bits before and after it
leave.

A table has entries that a key hits or does not hit; of the entries that are hit, one with the longest
prefix is taken.
-/

namespace P4

open Octets

/-! ### Bits -/

/-- The `n` last bits of `v`, the most significant first. -/
def toBits : ℕ → ℕ → List Bool
  | 0, _ => []
  | n + 1, v => toBits n (v / 2) ++ [decide (v % 2 = 1)]

/-- The number with the given bits, the most significant first. -/
def ofBits (bs : List Bool) : ℕ :=
  bs.foldl (fun v b => v * 2 + b.toNat) 0

/-- The bits of a byte string. -/
def bitsOf (bytes : List (BitVec 8)) : List Bool :=
  bytes.flatMap fun b => toBits 8 b.toNat

/-- The byte string with the given bits. -/
def bytesOf (bs : List Bool) : List (BitVec 8) :=
  toBe (bs.length / 8) (ofBits bs)

@[simp]
theorem length_toBits (n v : ℕ) :
  (toBits n v).length = n
  := by
  induction n generalizing v with
  | zero => rfl
  | succ n ih => rw [toBits, List.length_append, ih, List.length_singleton]

@[simp]
theorem length_bitsOf (bytes : List (BitVec 8)) :
  (bitsOf bytes).length = 8 * bytes.length
  := by
  induction bytes with
  | nil => rfl
  | cons b bytes ih =>
    rw [bitsOf, List.flatMap_cons, List.length_append, length_toBits, ← bitsOf, ih,
      List.length_cons]
    omega

theorem bitsOf_append (bytes bytes' : List (BitVec 8)) :
  bitsOf (bytes ++ bytes') = bitsOf bytes ++ bitsOf bytes'
  := List.flatMap_append

theorem ofBits_append_singleton (bs : List Bool) (b : Bool) :
  ofBits (bs ++ [b]) = ofBits bs * 2 + b.toNat
  := by
  rw [ofBits, List.foldl_append, ← ofBits, List.foldl_cons, List.foldl_nil]

/-- The bits of a number make up its last digits. -/
theorem ofBits_toBits (n v : ℕ) :
  ofBits (toBits n v) = v % 2 ^ n
  := by
  induction n generalizing v with
  | zero => rw [Nat.pow_zero, Nat.mod_one]; rfl
  | succ n ih =>
    rw [toBits, ofBits_append_singleton, ih, Nat.pow_succ, Nat.mul_comm (2 ^ n) 2, Nat.mod_mul]
    obtain hbit | hbit := Nat.mod_two_eq_zero_or_one v
    · rw [hbit]
      simp
      omega
    · rw [hbit]
      simp
      omega

/-- A number is made of the bits it is read from. -/
theorem toBits_ofBits (bs : List Bool) :
  toBits bs.length (ofBits bs) = bs
  := by
  induction bs using List.reverseRecOn with
  | nil => rfl
  | append_singleton bs b ih =>
    have hdiv : (ofBits bs * 2 + b.toNat) / 2 = ofBits bs := by
      have := Bool.toNat_lt b
      omega
    have hlast : decide ((ofBits bs * 2 + b.toNat) % 2 = 1) = b := by
      cases b with
      | false => simp
      | true => simp
    rw [List.length_append, List.length_singleton, toBits, ofBits_append_singleton, hdiv, hlast, ih]

/-- The bits of a number fall into those of its quotient and those of the rest. -/
theorem toBits_add (n k v : ℕ) :
  toBits (n + k) v = toBits n (v / 2 ^ k) ++ toBits k v
  := by
  induction k generalizing v with
  | zero => simp [toBits]
  | succ k ih =>
    rw [← Nat.add_assoc, toBits, ih, Nat.div_div_eq_div_mul, toBits, List.append_assoc, Nat.pow_succ,
      Nat.mul_comm (2 ^ k) 2]

theorem take_toBits (n k v : ℕ) :
  (toBits (n + k) v).take n = toBits n (v / 2 ^ k)
  := by rw [toBits_add, List.take_left' (length_toBits n _)]

theorem drop_toBits (n k v : ℕ) :
  (toBits (n + k) v).drop n = toBits k v
  := by rw [toBits_add, List.drop_left' (length_toBits n _)]

/-- The bits of a byte string are those of the number it encodes. -/
theorem bitsOf_eq (bytes : List (BitVec 8)) :
  bitsOf bytes = toBits (8 * bytes.length) (ofBe bytes)
  := by
  induction bytes using List.reverseRecOn with
  | nil => rfl
  | append_singleton bytes b ih =>
    have hb := b.isLt
    have hdiv : (ofBe bytes * 256 + b.toNat) / 2 ^ 8 = ofBe bytes := by omega
    have hlast : toBits 8 (ofBe bytes * 256 + b.toNat) = toBits 8 b.toNat := by
      have hmod : (ofBe bytes * 256 + b.toNat) % 2 ^ 8 = b.toNat := by omega
      rw [← toBits_ofBits (toBits 8 (ofBe bytes * 256 + b.toNat)),
        ← toBits_ofBits (toBits 8 b.toNat)]
      rw [ofBits_toBits, ofBits_toBits, length_toBits, length_toBits, hmod, Nat.mod_eq_of_lt hb]
    rw [bitsOf_append, ih, List.length_append, List.length_singleton, Nat.mul_add, Nat.mul_one,
      toBits_add, ofBe_append_singleton, hdiv, hlast]
    rfl

/-- The number that the bits of a byte string encode. -/
theorem ofBits_bitsOf (bytes : List (BitVec 8)) :
  ofBits (bitsOf bytes) = ofBe bytes
  := by
  have hlt := ofBe_lt bytes
  rw [bitsOf_eq, ofBits_toBits, Nat.pow_mul]
  exact Nat.mod_eq_of_lt hlt

theorem bytesOf_bitsOf (bytes : List (BitVec 8)) :
  bytesOf (bitsOf bytes) = bytes
  := by
  rw [bytesOf, length_bitsOf, Nat.mul_div_cancel_left _ (by decide), ofBits_bitsOf, toBe_ofBe]

theorem take_bitsOf (bytes : List (BitVec 8)) (n : ℕ) :
  (bitsOf bytes).take (8 * n) = bitsOf (bytes.take n)
  := by
  induction n generalizing bytes with
  | zero => simp [bitsOf]
  | succ n ih =>
    cases bytes with
    | nil => simp [bitsOf]
    | cons b bytes =>
      rw [Nat.mul_succ, Nat.add_comm, bitsOf, List.flatMap_cons, List.take_add,
        List.take_left' (length_toBits 8 _), List.drop_left' (length_toBits 8 _), ← bitsOf, ih]
      rfl

theorem drop_bitsOf (bytes : List (BitVec 8)) (n : ℕ) :
  (bitsOf bytes).drop (8 * n) = bitsOf (bytes.drop n)
  := by
  induction n generalizing bytes with
  | zero => simp
  | succ n ih =>
    cases bytes with
    | nil => simp [bitsOf]
    | cons b bytes =>
      rw [Nat.mul_succ, Nat.add_comm, bitsOf, List.flatMap_cons, ← List.drop_drop,
        List.drop_left' (length_toBits 8 _), ← bitsOf, ih]
      rfl

/-! ### Fields -/

/-- Bit fields of the given widths. -/
def Fields : List ℕ → Type
  | [] => Unit
  | w :: ws => BitVec w × Fields ws

namespace Fields

/-- Read fields from the front of `bs`. -/
def read : (ws : List ℕ) → List Bool → Fields ws
  | [], _ => ()
  | w :: ws, bs => (BitVec.ofNat w (ofBits (bs.take w)), read ws (bs.drop w))

/-- The bits of the fields. -/
def bits : {ws : List ℕ} → Fields ws → List Bool
  | [], _ => []
  | w :: _, (v, fields) => toBits w v.toNat ++ bits fields

@[simp]
theorem length_bits {ws : List ℕ} (fields : Fields ws) :
  fields.bits.length = ws.sum
  := by
  induction ws with
  | nil => rfl
  | cons w ws ih =>
    obtain ⟨v, fields⟩ := fields
    rw [bits, List.length_append, length_toBits, ih, List.sum_cons]

theorem read_bits_append {ws : List ℕ} (fields : Fields ws) (bs : List Bool) :
  read ws (fields.bits ++ bs) = fields
  := by
  induction ws with
  | nil => rfl
  | cons w ws ih =>
    obtain ⟨v, fields⟩ := fields
    rw [bits, List.append_assoc, read, List.take_left' (length_toBits w _),
      List.drop_left' (length_toBits w _), ih, ofBits_toBits, Nat.mod_eq_of_lt v.isLt,
      BitVec.ofNat_toNat, BitVec.setWidth_eq]

theorem bits_read {ws : List ℕ} {bs : List Bool} (h : ws.sum ≤ bs.length) :
  (read ws bs).bits = bs.take ws.sum
  := by
  induction ws generalizing bs with
  | nil => rfl
  | cons w ws ih =>
    rw [List.sum_cons] at h ⊢
    have hlen : (bs.take w).length = w := by
      rw [List.length_take]
      omega
    have hfirst : toBits w (BitVec.ofNat w (ofBits (bs.take w))).toNat = bs.take w := by
      have hbits := toBits_ofBits (bs.take w)
      have hmod : ofBits (bs.take w) % 2 ^ w = ofBits (bs.take w) := by
        have hof := ofBits_toBits (bs.take w).length (ofBits (bs.take w))
        rw [toBits_ofBits, hlen] at hof
        exact hof.symm
      rw [BitVec.toNat_ofNat, hmod]
      rw [hlen] at hbits
      exact hbits
    rw [read, bits, hfirst, ih (by rw [List.length_drop]; omega), ← List.take_add]

end Fields

/-! ### Headers -/

/-- A header type: bit fields of the given widths, in order. -/
class Header (H : Type) where
  widths : List ℕ
  fields : H → Fields widths
  ofFields : Fields widths → H
  ofFields_fields : ∀ h, ofFields (fields h) = h
  fields_ofFields : ∀ fs, fields (ofFields fs) = fs

/-- Why a parser stops: the program rejects the packet, or the packet ends within a header. -/
inductive Failure where
  | rejected
  | tooShort
  deriving DecidableEq

/-- A parser, as a function of the bits that are left of the packet. -/
abbrev Parser (α : Type) := StateT (List Bool) (Except Failure) α

namespace Header

variable {H : Type} [Header H]

/-- The number of bits of a header. -/
def size (H : Type) [Header H] : ℕ := (widths H).sum

/-- The bits of a header. -/
def bits (h : H) : List Bool := (fields h).bits

/-- The header that the first bits are. -/
def read (H : Type) [Header H] (bs : List Bool) : H := ofFields (Fields.read (widths H) bs)

/-- `pkt.extract(h)`. -/
def extract (H : Type) [Header H] : Parser H := fun bs =>
  if bs.length < size H then .error .tooShort else .ok (read H bs, bs.drop (size H))

@[simp]
theorem length_bits (h : H) :
  (bits h).length = size H
  := Fields.length_bits _

/-- A header that is written is read back. -/
theorem read_bits_append (h : H) (bs : List Bool) :
  read H (bits h ++ bs) = h
  := by rw [read, bits, Fields.read_bits_append, ofFields_fields]

theorem extract_bits_append (h : H) (bs : List Bool) :
  (extract H).run (bits h ++ bs) = .ok (h, bs)
  := by
  rw [StateT.run, extract, if_neg (by rw [List.length_append, length_bits]; omega),
    read_bits_append, List.drop_left' (length_bits h)]

/-- What is read is written as it was. -/
theorem bits_read {bs : List Bool} (h : size H ≤ bs.length) :
  bits (read H bs) = bs.take (size H)
  := by rw [read, bits, fields_ofFields, Fields.bits_read h, size]

/-- A header of `n` bytes is extracted from a byte string. -/
theorem extract_bitsOf {n : ℕ} {bytes : List (BitVec 8)} (hsize : size H = 8 * n)
    (h : n ≤ bytes.length) :
  (extract H).run (bitsOf bytes) = .ok (read H (bitsOf bytes), bitsOf (bytes.drop n))
  := by
  rw [StateT.run, extract, if_neg (by rw [length_bitsOf, hsize]; omega), hsize, drop_bitsOf]

/-- `h.set(bytes)`: the bytes are those of a header. -/
def set (H : Type) [Header H] (bytes : List (BitVec 8)) : Option H :=
  if 8 * bytes.length = size H then some (read H (bitsOf bytes)) else none

end Header

/-! ### Reading fields of byte strings -/

/-- A field of whole bytes is a big-endian integer. -/
theorem ofNat_take_bitsOf {w : ℕ} (hw : 8 * (w / 8) = w) (bytes : List (BitVec 8)) :
  BitVec.ofNat w (ofBits ((bitsOf bytes).take w)) = fromBeBytes w (bytes.take (w / 8))
  := by
  rw [← hw, take_bitsOf, ofBits_bitsOf, hw, fromBeBytes]

/-- Read fields of whole bytes from a position of a byte string on. -/
def Fields.readBytes : (ws : List ℕ) → List (BitVec 8) → ℕ → Fields ws
  | [], _, _ => ()
  | w :: ws, bytes, pos =>
    (fromBeBytes w (slice bytes pos (w / 8)), readBytes ws bytes (pos + w / 8))

/-- Fields of whole bytes are big-endian integers. -/
theorem Fields.read_bitsOf_drop {ws : List ℕ} (hws : ∀ w ∈ ws, 8 * (w / 8) = w)
    (bytes : List (BitVec 8)) (pos : ℕ) :
  read ws (bitsOf (bytes.drop pos)) = readBytes ws bytes pos
  := by
  induction ws generalizing pos with
  | nil => rfl
  | cons w ws ih =>
    obtain ⟨hw, hws⟩ := List.forall_mem_cons.mp hws
    have hdrop : (bitsOf (bytes.drop pos)).drop w = bitsOf (bytes.drop (pos + w / 8)) := by
      rw [← List.drop_drop, ← drop_bitsOf (bytes.drop pos), hw]
    rw [read, readBytes, ofNat_take_bitsOf hw, hdrop, ih hws, slice]

/-- A header of `n` bytes, all its fields being of whole bytes, is extracted from a position of a byte
string. -/
theorem Header.extract_drop {H : Type} [Header H] {n pos : ℕ} {bytes : List (BitVec 8)}
    (hsize : size H = 8 * n) (hws : ∀ w ∈ widths H, 8 * (w / 8) = w) (h : pos + n ≤ bytes.length) :
  (extract H).run (bitsOf (bytes.drop pos))
    = .ok (ofFields (Fields.readBytes (widths H) bytes pos), bitsOf (bytes.drop (pos + n)))
  := by
  rw [extract_bitsOf hsize (by rw [List.length_drop]; omega), read, Fields.read_bitsOf_drop hws,
    List.drop_drop]

/-- A field of `w` bits in the first `m` bytes, before which there are `n` and after which there are
`k` bits. -/
theorem ofNat_field {n w k m : ℕ} {bytes : List (BitVec 8)} (hsum : n + (w + k) = 8 * m)
    (hm : m ≤ bytes.length) :
  BitVec.ofNat w (ofBits (((bitsOf bytes).drop n).take w))
    = BitVec.ofNat w (ofBe (bytes.take m) / 2 ^ k)
  := by
  have hbits : (bitsOf bytes).take (n + (w + k)) = toBits (n + (w + k)) (ofBe (bytes.take m)) := by
    rw [hsum, take_bitsOf, bitsOf_eq, List.length_take, Nat.min_eq_left hm]
  have hfield : ((bitsOf bytes).drop n).take w = toBits w (ofBe (bytes.take m) / 2 ^ k) := by
    have htake : ((bitsOf bytes).drop n).take w
        = (((bitsOf bytes).take (n + (w + k))).drop n).take w := by
      rw [List.drop_take, List.take_take, Nat.add_sub_cancel_left, Nat.min_eq_left (by omega)]
    rw [htake, hbits, drop_toBits, take_toBits]
  rw [hfield, ofBits_toBits]
  apply BitVec.eq_of_toNat_eq
  rw [BitVec.toNat_ofNat, BitVec.toNat_ofNat, Nat.mod_mod]

/-! ### Tables -/

/-- An entry of a table: which keys hit it, how long the prefix is that they share with it, and the
action. -/
structure TableEntry (K A : Type) where
  hits : K → Bool
  prefixLen : ℕ
  action : A

/-- The first `len` bits of `v` are those of `key`. -/
def lpmMatches {w : ℕ} (key : BitVec w) (len : ℕ) (v : BitVec w) : Bool :=
  v >>> (w - len) = key >>> (w - len)

/-- `table.apply()`: the action of an entry with the longest prefix among those that the key hits. -/
def applyTable {K A : Type} (entries : List (TableEntry K A)) (defaultAction : A) (key : K) : A :=
  match (entries.filter (·.hits key)).argmax (·.prefixLen) with
  | some entry => entry.action
  | none => defaultAction

theorem lpmMatches_iff {w : ℕ} {key v : BitVec w} {len : ℕ} :
  lpmMatches key len v = true ↔ v.toNat / 2 ^ (w - len) = key.toNat / 2 ^ (w - len)
  := by
  rw [lpmMatches, decide_eq_true_iff, ← BitVec.toNat_inj, BitVec.toNat_ushiftRight,
    BitVec.toNat_ushiftRight, Nat.shiftRight_eq_div_pow, Nat.shiftRight_eq_div_pow]

variable {K A : Type} {entries : List (TableEntry K A)} {defaultAction : A} {key : K}

theorem applyTable_of_forall (h : ∀ entry ∈ entries, entry.hits key = false) :
  applyTable entries defaultAction key = defaultAction
  := by
  have hnone : entries.filter (·.hits key) = [] := by
    rw [List.filter_eq_nil_iff]
    intro entry hentry
    rw [h entry hentry]
    decide
  rw [applyTable, hnone, List.argmax_nil]

/-- An entry that is hit, and has the longest prefix of those that are, is taken. -/
theorem applyTable_of_longest {entry : TableEntry K A} (hmem : entry ∈ entries)
    (hhits : entry.hits key = true)
    (hlongest : ∀ other ∈ entries, other.hits key = true → other.prefixLen ≤ entry.prefixLen)
    (hunique : ∀ other ∈ entries, other.hits key = true → other.prefixLen = entry.prefixLen →
      other.action = entry.action) :
  applyTable entries defaultAction key = entry.action
  := by
  have hentry : entry ∈ entries.filter (·.hits key) := List.mem_filter.mpr ⟨hmem, hhits⟩
  rw [applyTable]
  split
  · next other hother =>
    obtain ⟨hother', hhits'⟩ := List.mem_filter.mp (List.argmax_mem hother)
    apply hunique other hother' hhits'
    exact Nat.le_antisymm (hlongest other hother' hhits') (List.le_of_mem_argmax hentry hother)
  · next hnone =>
    rw [List.argmax_eq_none] at hnone
    rw [hnone] at hentry
    cases hentry

end P4
