import SmolGnet.Basic
import SmolGnet.Library.ShiftRegister

/-!
# Checksums

The 8-bit CRC of the GDP header, with the polynomial `x⁸ + x² + x + 1`, and the 32-bit CRC of
a GTS packet, with the polynomial `0x04c11db7`, both most significant bit first.  Whole bytes are
taken with a table.

Both are shift registers: the bits that are fed, in groups or as bytes, are one stream.
-/

namespace SmolGnet

/-! ### The tables -/

/-- The entry of the table of the 8-bit CRC for a byte. -/
def crc8Entry (i : U8) : U8 :=
  (List.range 8).foldl (fun crc _ =>
    if crc &&& 0x80#8 ≠ 0#8 then (crc <<< 1) ^^^ 0x07#8 else crc <<< 1) i

/-- The entry of the table of the 32-bit CRC for a byte. -/
def crc32Entry (i : U8) : U32 :=
  (List.range 8).foldl (fun crc _ =>
    if crc &&& 0x80000000#32 ≠ 0#32 then (crc <<< 1) ^^^ 0x04c11db7#32 else crc <<< 1)
    (i.setWidth 32 <<< 24)

/-- A table of 256 entries, filled one after the other. -/
def fillTable {w : ℕ} (entry : U8 → BitVec w) : List (BitVec w) :=
  (List.range 256).foldl (fun table i => table.set i (entry (BitVec.ofNat 8 i)))
    (List.replicate 256 0#w)

/-- The table of the 8-bit CRC. -/
def makeCrc8Table : List U8 :=
  fillTable crc8Entry

/-- The table of the 32-bit CRC. -/
def makeCrc32Table : List U32 :=
  fillTable crc32Entry

/-- The register of the 8-bit CRC. -/
structure Crc8 where
  value : U8
  deriving DecidableEq

namespace Crc8

/-- The register before the first bit. -/
def new : Crc8 where
  value := 0#8

/-- Feed one bit. -/
def updateBit (c : Crc8) (bit : Bool) : Crc8 :=
  let top := c.value &&& 0x80#8 != 0#8
  let shifted := c.value <<< 1
  { value := if top ^^ bit then shifted ^^^ 0x07#8 else shifted }

/-- Feed the low `bits` bits of `value`, the most significant first. -/
def updateBits (c : Crc8) (value : U64) (bits : ℕ) : Crc8 :=
  (List.range bits).reverse.foldl (fun c i => c.updateBit (value >>> i &&& 1#64 != 0#64)) c

/-- Feed bytes, each with one look into the table. -/
def updateBytes (c : Crc8) (bytes : Bytes) : Crc8 :=
  bytes.foldl (fun c b => { value := makeCrc8Table.getD (c.value ^^^ b).toNat 0#8 }) c

/-- The checksum of what was fed. -/
def finalize (c : Crc8) : U8 :=
  c.value

end Crc8

/-- The register of the 32-bit CRC. -/
structure Crc32 where
  value : U32
  deriving DecidableEq

namespace Crc32

/-- The register before the first bit. -/
def new : Crc32 where
  value := 0xffffffff#32

/-- Feed one bit. -/
def updateBit (c : Crc32) (bit : Bool) : Crc32 :=
  let top := c.value &&& 0x80000000#32 != 0#32
  let shifted := c.value <<< 1
  { value := if top ^^ bit then shifted ^^^ 0x04c11db7#32 else shifted }

/-- Feed the low `bits` bits of `value`, the most significant first. -/
def updateBits (c : Crc32) (value : U64) (bits : ℕ) : Crc32 :=
  (List.range bits).reverse.foldl (fun c i => c.updateBit (value >>> i &&& 1#64 != 0#64)) c

/-- Feed bytes, each with one look into the table. -/
def updateBytes (c : Crc32) (bytes : Bytes) : Crc32 :=
  bytes.foldl (fun c b =>
    let idx := (c.value >>> 24).setWidth 8 ^^^ b
    { value := (c.value <<< 8) ^^^ makeCrc32Table.getD idx.toNat 0#32 }) c

/-- The checksum of what was fed. -/
def finalize (c : Crc32) : U32 :=
  c.value ^^^ 0xffffffff#32

end Crc32

/-! ### The tables are filled -/

/-- What the loop that fills a table has written before the step `n`. -/
theorem getElem?_fill {α : Type*} (f : ℕ → α) (start : List α) (n i : ℕ) :
  ((List.range n).foldl (fun table i => table.set i (f i)) start)[i]?
    = if i < n ∧ i < start.length then some (f i) else start[i]?
  := by
  induction n with
  | zero => simp
  | succ n ih =>
    have hlen : ∀ l : List ℕ,
        (l.foldl (fun table i => table.set i (f i)) start).length = start.length := by
      intro l
      induction l using List.reverseRecOn with
      | nil => rfl
      | append_singleton l a ih' =>
        rw [List.foldl_append, List.foldl_cons, List.foldl_nil, List.length_set, ih']
    rw [List.range_succ, List.foldl_append, List.foldl_cons, List.foldl_nil, List.getElem?_set, hlen,
      ih]
    grind

theorem getElem?_fillTable {w : ℕ} (entry : U8 → BitVec w) (i : U8) :
  (fillTable entry)[i.toNat]? = some (entry i)
  := by
  have hlt := i.isLt
  rw [fillTable, getElem?_fill (fun i => entry (BitVec.ofNat 8 i)), if_pos, BitVec.ofNat_toNat,
    BitVec.setWidth_eq]
  rw [List.length_replicate]
  omega

theorem getD_fillTable {w : ℕ} (entry : U8 → BitVec w) (i : U8) :
  (fillTable entry).getD i.toNat 0#w = entry i
  := by
  rw [List.getD_eq_getElem?_getD, getElem?_fillTable, Option.getD_some]

/-! ### Shift registers -/

/-- The two CRCs ask for the highest bit with a mask. -/
theorem and_twoPow_ne_zero {w : ℕ} (x : BitVec w) (i : ℕ) :
  x &&& BitVec.twoPow w i ≠ 0#w ↔ x.getLsbD i = true
  := by
  rw [BitVec.and_twoPow]
  cases hx : x.getLsbD i with
  | false => simp
  | true =>
    have hi := BitVec.lt_of_getLsbD hx
    simp only [if_true, iff_true]
    intro h
    have hbit := congrArg (BitVec.getLsbD · i) h
    simp [hi] at hbit

/-- The bit that is fed next out of a group. -/
theorem bit_eq (value : U64) (i : ℕ) :
  (value >>> i &&& 1#64 != 0#64) = value.getLsbD i
  := by
  have hbit := and_twoPow_ne_zero (value >>> i) 0
  rw [BitVec.getLsbD_ushiftRight, Nat.add_zero] at hbit
  rw [Bool.eq_iff_iff, bne_iff_ne]
  exact hbit

namespace Crc8

theorem and_top_ne_zero (x : U8) :
  x &&& 0x80#8 ≠ 0#8 ↔ x.msb = true
  := by
  rw [BitVec.msb_eq_getLsbD_last]
  exact and_twoPow_ne_zero x 7

theorem updateBit_eq (c : Crc8) (bit : Bool) :
  c.updateBit bit = ⟨ShiftRegister.feed 0x07#8 c.value bit⟩
  := by
  have htop := Bool.eq_iff_iff.mpr (bne_iff_ne.trans (and_top_ne_zero c.value))
  rw [updateBit, htop]
  rfl

/-- A group of bits is fed as a stream. -/
theorem updateBits_eq (c : Crc8) (value : U64) (bits : ℕ) :
  c.updateBits value bits
    = ⟨ShiftRegister.run 0x07#8 c.value (ShiftRegister.lowBits value bits)⟩
  := by
  rw [updateBits, ShiftRegister.lowBits]
  induction (List.range bits).reverse generalizing c with
  | nil => rfl
  | cons i is ih =>
    rw [List.foldl_cons, ih, updateBit_eq, bit_eq]
    rfl

theorem crc8Entry_eq (i : U8) :
  crc8Entry i = ShiftRegister.entry 0x07#8 i
  := by
  have hshift : ∀ x : U8,
      (if x &&& 0x80#8 ≠ 0#8 then (x <<< 1) ^^^ 0x07#8 else x <<< 1)
        = ShiftRegister.shift 0x07#8 x := by
    intro x
    simp only [ShiftRegister.shift, and_top_ne_zero]
  simp only [crc8Entry, hshift]
  rw [ShiftRegister.entry, BitVec.setWidth_eq, BitVec.shiftLeft_zero]
  rfl

/-- Bytes are fed as a stream. -/
theorem updateBytes_eq (c : Crc8) (bytes : Bytes) :
  c.updateBytes bytes = ⟨ShiftRegister.run 0x07#8 c.value (ShiftRegister.bits bytes)⟩
  := by
  induction bytes generalizing c with
  | nil => rfl
  | cons b bytes ih =>
    have hentry : makeCrc8Table.getD (c.value ^^^ b).toNat 0#8
        = ShiftRegister.run 0x07#8 c.value (ShiftRegister.lowBits b 8) := by
      have hzero : c.value <<< 8 = 0#8 := BitVec.shiftLeft_eq_zero (Nat.le_refl 8)
      have hindex : (c.value >>> (8 - 8)).setWidth 8 ^^^ b = c.value ^^^ b := by
        rw [Nat.sub_self, BitVec.ushiftRight_zero, BitVec.setWidth_eq]
      rw [makeCrc8Table, getD_fillTable, ShiftRegister.run_digit _ _ (Nat.le_refl 8), hzero,
        BitVec.zero_xor, crc8Entry_eq, hindex]
    rw [updateBytes, List.foldl_cons, ← updateBytes, ih, hentry, ShiftRegister.bits_cons,
      ShiftRegister.run_append]

end Crc8

namespace Crc32

theorem and_top_ne_zero (x : U32) :
  x &&& 0x80000000#32 ≠ 0#32 ↔ x.msb = true
  := by
  rw [BitVec.msb_eq_getLsbD_last]
  exact and_twoPow_ne_zero x 31

theorem updateBit_eq (c : Crc32) (bit : Bool) :
  c.updateBit bit = ⟨ShiftRegister.feed 0x04c11db7#32 c.value bit⟩
  := by
  have htop := Bool.eq_iff_iff.mpr (bne_iff_ne.trans (and_top_ne_zero c.value))
  rw [updateBit, htop]
  rfl

/-- A group of bits is fed as a stream. -/
theorem updateBits_eq (c : Crc32) (value : U64) (bits : ℕ) :
  c.updateBits value bits
    = ⟨ShiftRegister.run 0x04c11db7#32 c.value (ShiftRegister.lowBits value bits)⟩
  := by
  rw [updateBits, ShiftRegister.lowBits]
  induction (List.range bits).reverse generalizing c with
  | nil => rfl
  | cons i is ih =>
    rw [List.foldl_cons, ih, updateBit_eq, bit_eq]
    rfl

theorem crc32Entry_eq (i : U8) :
  crc32Entry i = ShiftRegister.entry 0x04c11db7#32 i
  := by
  have hshift : ∀ x : U32,
      (if x &&& 0x80000000#32 ≠ 0#32 then (x <<< 1) ^^^ 0x04c11db7#32 else x <<< 1)
        = ShiftRegister.shift 0x04c11db7#32 x := by
    intro x
    simp only [ShiftRegister.shift, and_top_ne_zero]
  simp only [crc32Entry, hshift]
  rfl

/-- Bytes are fed as a stream. -/
theorem updateBytes_eq (c : Crc32) (bytes : Bytes) :
  c.updateBytes bytes = ⟨ShiftRegister.run 0x04c11db7#32 c.value (ShiftRegister.bits bytes)⟩
  := by
  induction bytes generalizing c with
  | nil => rfl
  | cons b bytes ih =>
    have hentry : (c.value <<< 8) ^^^ makeCrc32Table.getD ((c.value >>> 24).setWidth 8 ^^^ b).toNat 0#32
        = ShiftRegister.run 0x04c11db7#32 c.value (ShiftRegister.lowBits b 8) := by
      rw [makeCrc32Table, getD_fillTable, ShiftRegister.run_digit _ _ (by omega), crc32Entry_eq]
    rw [updateBytes, List.foldl_cons, ← updateBytes, ih, ShiftRegister.bits_cons,
      ShiftRegister.run_append, ← hentry]

/-- Two registers that are fed the same bytes stay different. -/
theorem updateBytes_inj {c c' : Crc32} {bytes : Bytes}
    (h : c.updateBytes bytes = c'.updateBytes bytes) :
  c = c'
  := by
  rw [updateBytes_eq, updateBytes_eq] at h
  exact congrArg Crc32.mk (ShiftRegister.run_inj rfl (congrArg Crc32.value h))

end Crc32

/-! ### Bytes and bits -/

namespace Crc8

/-- Feed groups of bits, one after the other. -/
def updateGroups (c : Crc8) (groups : List (U64 × ℕ)) : Crc8 :=
  groups.foldl (fun c group => c.updateBits group.1 group.2) c

theorem updateGroups_eq (c : Crc8) (groups : List (U64 × ℕ)) :
  c.updateGroups groups = ⟨ShiftRegister.run 0x07#8 c.value
    (groups.flatMap fun group => ShiftRegister.lowBits group.1 group.2)⟩
  := by
  induction groups generalizing c with
  | nil => rfl
  | cons group groups ih =>
    rw [updateGroups, List.foldl_cons, ← updateGroups, ih, updateBits_eq, List.flatMap_cons,
      ShiftRegister.run_append]

/-- A look into the table is eight steps of the register. -/
theorem updateBytes_eq_updateBits (c : Crc8) (bytes : Bytes) :
  c.updateBytes bytes = bytes.foldl (fun c b => c.updateBits (b.setWidth 64) 8) c
  := by
  induction bytes generalizing c with
  | nil => rw [updateBytes, List.foldl_nil, List.foldl_nil]
  | cons b bytes ih =>
    rw [List.foldl_cons, ← ih, updateBytes_eq, updateBytes_eq, updateBits_eq,
      ShiftRegister.lowBits_setWidth b (by omega), ShiftRegister.bits_cons, ShiftRegister.run_append]

theorem updateBytes_append (c : Crc8) (x y : Bytes) :
  c.updateBytes (x ++ y) = (c.updateBytes x).updateBytes y
  := List.foldl_append

end Crc8

namespace Crc32

/-- Feed groups of bits, one after the other. -/
def updateGroups (c : Crc32) (groups : List (U64 × ℕ)) : Crc32 :=
  groups.foldl (fun c group => c.updateBits group.1 group.2) c

theorem updateGroups_eq (c : Crc32) (groups : List (U64 × ℕ)) :
  c.updateGroups groups = ⟨ShiftRegister.run 0x04c11db7#32 c.value
    (groups.flatMap fun group => ShiftRegister.lowBits group.1 group.2)⟩
  := by
  induction groups generalizing c with
  | nil => rfl
  | cons group groups ih =>
    rw [updateGroups, List.foldl_cons, ← updateGroups, ih, updateBits_eq, List.flatMap_cons,
      ShiftRegister.run_append]

/-- A look into the table is eight steps of the register. -/
theorem updateBytes_eq_updateBits (c : Crc32) (bytes : Bytes) :
  c.updateBytes bytes = bytes.foldl (fun c b => c.updateBits (b.setWidth 64) 8) c
  := by
  induction bytes generalizing c with
  | nil => rfl
  | cons b bytes ih =>
    rw [List.foldl_cons, ← ih, updateBytes_eq, updateBytes_eq, updateBits_eq,
      ShiftRegister.lowBits_setWidth b (by omega), ShiftRegister.bits_cons, ShiftRegister.run_append]

theorem updateBytes_append (c : Crc32) (x y : Bytes) :
  c.updateBytes (x ++ y) = (c.updateBytes x).updateBytes y
  := List.foldl_append

end Crc32

/--
For both CRCs, from every register and after any groups of bits: the table, which has the entry of
each byte at its index, feeds bytes as the bits one by one do, a byte string may be fed in parts, and
groups and bytes together are one stream through the shift register.
-/
theorem table_crc_eq_bitwise :
  (∀ i : U8, makeCrc8Table[i.toNat]? = some (crc8Entry i)) ∧
  (∀ i : U8, makeCrc32Table[i.toNat]? = some (crc32Entry i)) ∧
  (∀ (c : Crc8) (x y : Bytes),
    c.updateBytes x = x.foldl (fun c b => c.updateBits (b.setWidth 64) 8) c ∧
    c.updateBytes (x ++ y) = (c.updateBytes x).updateBytes y) ∧
  (∀ (c : Crc32) (x y : Bytes),
    c.updateBytes x = x.foldl (fun c b => c.updateBits (b.setWidth 64) 8) c ∧
    c.updateBytes (x ++ y) = (c.updateBytes x).updateBytes y) ∧
  (∀ (c : Crc8) (groups : List (U64 × ℕ)) (x y : Bytes),
    ((c.updateGroups groups).updateBytes x).updateBytes y = ⟨ShiftRegister.run 0x07#8 c.value
      ((groups.flatMap fun group => ShiftRegister.lowBits group.1 group.2) ++
        ShiftRegister.bits (x ++ y))⟩) ∧
  ∀ (c : Crc32) (groups : List (U64 × ℕ)) (x y : Bytes),
    ((c.updateGroups groups).updateBytes x).updateBytes y = ⟨ShiftRegister.run 0x04c11db7#32 c.value
      ((groups.flatMap fun group => ShiftRegister.lowBits group.1 group.2) ++
        ShiftRegister.bits (x ++ y))⟩
  := by
  refine ⟨getElem?_fillTable crc8Entry, getElem?_fillTable crc32Entry, ?_, ?_, ?_, ?_⟩
  · intro c x y
    exact ⟨c.updateBytes_eq_updateBits x, c.updateBytes_append x y⟩
  · intro c x y
    exact ⟨c.updateBytes_eq_updateBits x, c.updateBytes_append x y⟩
  · intro c groups x y
    rw [← Crc8.updateBytes_append, Crc8.updateBytes_eq, Crc8.updateGroups_eq,
      ShiftRegister.run_append]
  · intro c groups x y
    rw [← Crc32.updateBytes_append, Crc32.updateBytes_eq, Crc32.updateGroups_eq,
      ShiftRegister.run_append]

end SmolGnet
