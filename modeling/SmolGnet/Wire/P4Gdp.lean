import SmolGnet.Library.P4
import SmolGnet.Wire.Gdp

/-!
# The GDP header in P4

The GDP header as a P4 program declares it, its parser, and the adaptor that makes a `GdpHeader` of
what the parser finds.  On every byte string the adaptor gives what the handwritten decoder gives.
-/

namespace SmolGnet

open Octets P4

namespace P4Gdp

/-! ### The program -/

structure GdpBaseH where
  version : BitVec 2
  packetType : BitVec 4
  sizeClass : BitVec 4
  localForm : BitVec 1
  reserved : BitVec 5
  crc8 : BitVec 8
  hop : BitVec 8
  deriving DecidableEq, Inhabited

structure GdpGlobalH where
  destinationHi : BitVec 32
  destinationLo : BitVec 32
  sourceHi : BitVec 32
  sourceLo : BitVec 32
  deriving DecidableEq, Inhabited

structure GdpLocalH where
  destination : BitVec 16
  source : BitVec 16
  deriving DecidableEq, Inhabited

instance : Header GdpBaseH where
  widths := [2, 4, 4, 1, 5, 8, 8]
  fields h := (h.version, h.packetType, h.sizeClass, h.localForm, h.reserved, h.crc8, h.hop, ())
  ofFields := fun (version, packetType, sizeClass, localForm, reserved, crc8, hop, ()) =>
    { version, packetType, sizeClass, localForm, reserved, crc8, hop }
  ofFields_fields _ := rfl
  fields_ofFields _ := rfl

instance : Header GdpGlobalH where
  widths := [32, 32, 32, 32]
  fields h := (h.destinationHi, h.destinationLo, h.sourceHi, h.sourceLo, ())
  ofFields := fun (destinationHi, destinationLo, sourceHi, sourceLo, ()) =>
    { destinationHi, destinationLo, sourceHi, sourceLo }
  ofFields_fields _ := rfl
  fields_ofFields _ := rfl

instance : Header GdpLocalH where
  widths := [16, 16]
  fields h := (h.destination, h.source, ())
  ofFields := fun (destination, source, ()) => { destination, source }
  ofFields_fields _ := rfl
  fields_ofFields _ := rfl

/-- The headers of a packet; `none` is a header that is not valid. -/
structure HeadersT where
  base : Option GdpBaseH
  globalAddr : Option GdpGlobalH
  localAddr : Option GdpLocalH
  deriving DecidableEq

/-- State `parse_global`. -/
def parseGlobal (hdr : HeadersT) : Parser HeadersT := do
  let globalAddr ← Header.extract GdpGlobalH
  return { hdr with globalAddr := some globalAddr }

/-- State `parse_local`. -/
def parseLocal (hdr : HeadersT) : Parser HeadersT := do
  let localAddr ← Header.extract GdpLocalH
  return { hdr with localAddr := some localAddr }

/-- State `start`. -/
def parseStart : Parser HeadersT := do
  let base ← Header.extract GdpBaseH
  let hdr := { base := some base, globalAddr := none, localAddr := none }
  if base.localForm = 1#1 then parseLocal hdr else parseGlobal hdr

/-! ### The adaptor -/

inductive ParsedAddresses where
  | global (destination source : U64)
  | local (destination source : U16)
  deriving DecidableEq

structure ParsedGdp where
  version : U8
  packetType : U8
  sizeClass : U8
  localForm : Bool
  reserved : U8
  crc8 : U8
  hopLimit : U8
  addresses : ParsedAddresses
  deriving DecidableEq

/-- Parse the header at the start of `bytes` with the program.  `none` is a panic of the parser. -/
def parseHeader (bytes : Bytes) : Option (Except Error ParsedGdp) :=
  if bytes.length < 4 then some (.error .invalidLength)
  else
    let word := fromBeBytes 32 (slice bytes 0 4)
    let localForm := word >>> 21 &&& 1#32 != 0#32
    let headerLen := if localForm then 8 else 20
    if bytes.length < headerLen then some (.error .invalidLength)
    else
      match parseStart.run (bitsOf bytes) with
      | .error .tooShort => none
      | .error .rejected => some (.error .invalidField)
      | .ok (hdr, _) =>
        let base := hdr.base.getD default
        let localAddr := hdr.localAddr.getD default
        let globalAddr := hdr.globalAddr.getD default
        let rawHop : U8 := base.hop
        if (base.localForm.setWidth 8 != 0#8) ≠ localForm then some (.error .invalidAddressForm)
        else
          let addresses :=
            if localForm then .local localAddr.destination localAddr.source
            else
              .global
                (globalAddr.destinationHi.setWidth 64 <<< 32 ||| globalAddr.destinationLo.setWidth 64)
                (globalAddr.sourceHi.setWidth 64 <<< 32 ||| globalAddr.sourceLo.setWidth 64)
          some (.ok
            { version := base.version.setWidth 8
              packetType := base.packetType.setWidth 8
              sizeClass := base.sizeClass.setWidth 8
              localForm
              reserved := base.reserved.setWidth 8
              crc8 := base.crc8
              hopLimit := if localForm then rawHop &&& 0x0f#8 else rawHop
              addresses })

/-- Make a header of what the parser found. -/
def headerOf (parsed : ParsedGdp) (localPrefix : U64) : Except Error GdpHeader := do
  let sizeClass ← SizeClass.fromWire parsed.sizeClass
  let packetType := GdpType.fromWire parsed.packetType
  let addresses := match parsed.addresses with
    | .global destination source => GdpAddresses.global ⟨destination⟩ ⟨source⟩
    | .local destination source => .local destination source (localPrefix &&& ~~~0xffff#64)
  let header : GdpHeader :=
    { version := parsed.version, packetType, sizeClass, hopLimit := parsed.hopLimit, addresses }
  if header.crc8 ⟨true⟩ ≠ parsed.crc8 then .error .invalidCrc else .ok header

/-- Read the header at the start of `bytes` with the program.  `none` is a panic of the parser. -/
def decodeHeader (bytes : Bytes) (localPrefix : U64) : Option (Except Error GdpHeader) :=
  (parseHeader bytes).map fun parsed => parsed.bind fun parsed => headerOf parsed localPrefix

/-! ### The two decoders agree -/

/-- The fields of the first header are the digits of the first word. -/
theorem read_base {bytes : Bytes} (h : 4 ≤ bytes.length) :
  let v := (fromBeBytes 32 (slice bytes 0 4)).toNat
  Header.read GdpBaseH (bitsOf bytes) =
    { version := BitVec.ofNat 2 (v / 2 ^ 30)
      packetType := BitVec.ofNat 4 (v / 2 ^ 26)
      sizeClass := BitVec.ofNat 4 (v / 2 ^ 22)
      localForm := BitVec.ofNat 1 (v / 2 ^ 21)
      reserved := BitVec.ofNat 5 (v / 2 ^ 16)
      crc8 := BitVec.ofNat 8 (v / 2 ^ 8)
      hop := BitVec.ofNat 8 v }
  := by
  have hword : (fromBeBytes 32 (slice bytes 0 4)).toNat = ofBe (bytes.take 4) := by
    have hlt := ofBe_lt (bytes.take 4)
    rw [List.length_take, Nat.min_eq_left h] at hlt
    rw [fromBeBytes, BitVec.toNat_ofNat]
    exact Nat.mod_eq_of_lt hlt
  have hfield : ∀ n w k, n + (w + k) = 32 →
      BitVec.ofNat w (ofBits (((bitsOf bytes).drop n).take w))
        = BitVec.ofNat w ((fromBeBytes 32 (slice bytes 0 4)).toNat / 2 ^ k) := by
    intro n w k hsum
    rw [hword]
    exact ofNat_field hsum h
  dsimp only
  change GdpBaseH.mk _ _ _ _ _ _ _ = GdpBaseH.mk _ _ _ _ _ _ _
  congr 1
  · exact hfield 0 2 30 rfl
  · exact hfield 2 4 26 rfl
  · simpa only [List.drop_drop] using hfield 6 4 22 rfl
  · simpa only [List.drop_drop] using hfield 10 1 21 rfl
  · simpa only [List.drop_drop] using hfield 11 5 16 rfl
  · simpa only [List.drop_drop] using hfield 16 8 8 rfl
  · simpa only [List.drop_drop, Nat.pow_zero, Nat.div_one] using hfield 24 8 0 rfl

/-- A field of a word, shifted down and masked. -/
theorem shift_and (word : U32) (k w : ℕ) (hw : w < 32) :
  word >>> k &&& BitVec.ofNat 32 (2 ^ w - 1) = (BitVec.ofNat w (word.toNat / 2 ^ k)).setWidth 32
  := by
  have hpow : 2 ^ w < 2 ^ 32 := Nat.pow_lt_pow_right (by decide) hw
  have hlt : word.toNat / 2 ^ k % 2 ^ w < 2 ^ 32 :=
    Nat.lt_trans (Nat.mod_lt _ (Nat.two_pow_pos w)) hpow
  apply BitVec.eq_of_toNat_eq
  rw [BitVec.toNat_and, BitVec.toNat_ushiftRight, BitVec.toNat_setWidth, BitVec.toNat_ofNat,
    BitVec.toNat_ofNat, Nat.shiftRight_eq_div_pow, Nat.mod_eq_of_lt (a := 2 ^ w - 1) (by omega),
    Nat.and_two_pow_sub_one_eq_mod, Nat.mod_eq_of_lt hlt]

/-- The addresses of a header in the global form are the digits of two words. -/
theorem read_global {bytes : Bytes} (h : 16 ≤ bytes.length) :
  Header.read GdpGlobalH (bitsOf bytes) =
    { destinationHi := BitVec.ofNat 32 (ofBe (slice bytes 0 8) / 2 ^ 32)
      destinationLo := BitVec.ofNat 32 (ofBe (slice bytes 0 8))
      sourceHi := BitVec.ofNat 32 (ofBe (slice bytes 8 8) / 2 ^ 32)
      sourceLo := BitVec.ofNat 32 (ofBe (slice bytes 8 8)) }
  := by
  have hfield : ∀ off n k, off + 8 ≤ 16 → n + (32 + k) = 64 →
      BitVec.ofNat 32 (ofBits (((bitsOf bytes).drop (8 * off + n)).take 32))
        = BitVec.ofNat 32 (ofBe (slice bytes off 8) / 2 ^ k) := by
    intro off n k hoff hsum
    rw [← List.drop_drop, drop_bitsOf]
    exact ofNat_field (m := 8) hsum (by rw [List.length_drop]; omega)
  change GdpGlobalH.mk _ _ _ _ = GdpGlobalH.mk _ _ _ _
  congr 1
  · exact hfield 0 0 32 (by decide) rfl
  · simpa only [Nat.pow_zero, Nat.div_one] using hfield 0 32 0 (by decide) rfl
  · simpa only [List.drop_drop] using hfield 8 0 32 (by decide) rfl
  · simpa only [List.drop_drop, Nat.pow_zero, Nat.div_one] using hfield 8 32 0 (by decide) rfl

/-- The addresses of a header in the local form are the digits of a word. -/
theorem read_local {bytes : Bytes} (h : 4 ≤ bytes.length) :
  Header.read GdpLocalH (bitsOf bytes) =
    { destination := BitVec.ofNat 16 (ofBe (slice bytes 0 4) / 2 ^ 16)
      source := BitVec.ofNat 16 (ofBe (slice bytes 0 4)) }
  := by
  change GdpLocalH.mk _ _ = GdpLocalH.mk _ _
  congr 1
  · exact ofNat_field (n := 0) (w := 16) (k := 16) (m := 4) rfl h
  · simpa only [slice, List.drop_zero, Nat.pow_zero, Nat.div_one] using
      ofNat_field (n := 16) (w := 16) (k := 0) (m := 4) rfl h

/-- An address is made of its two halves. -/
theorem ofNat_halves (v : ℕ) :
  (BitVec.ofNat 32 (v / 2 ^ 32)).setWidth 64 <<< 32 ||| (BitVec.ofNat 32 v).setWidth 64
    = BitVec.ofNat 64 v
  := by
  ext i hi
  rw [← BitVec.getLsbD_eq_getElem, ← BitVec.getLsbD_eq_getElem]
  simp only [BitVec.getLsbD_or, BitVec.getLsbD_shiftLeft, BitVec.getLsbD_setWidth,
    BitVec.getLsbD_ofNat, Nat.testBit_div_two_pow]
  by_cases h : i < 32
  · simp [h, hi]
  · have h' : i - 32 < 32 := by omega
    have hsum : i - 32 + 32 = i := by omega
    have hlt : i - 32 < 64 := by omega
    simp [h, h', hi, hsum, hlt]

/-- The parser reads the header of a packet in the local form. -/
theorem parseStart_local {bytes : Bytes} (h : 8 ≤ bytes.length)
    (hform : (Header.read GdpBaseH (bitsOf bytes)).localForm = 1#1) :
  parseStart.run (bitsOf bytes) = .ok
    ({ base := some (Header.read GdpBaseH (bitsOf bytes))
       globalAddr := none
       localAddr := some (Header.read GdpLocalH (bitsOf (bytes.drop 4))) },
      bitsOf (bytes.drop 8))
  := by
  have hbase := @Header.extract_bitsOf GdpBaseH _ 4 bytes rfl (by omega)
  have hlocal := @Header.extract_bitsOf GdpLocalH _ 4 (bytes.drop 4) rfl
    (by rw [List.length_drop]; omega)
  rw [parseStart, StateT.run_bind, hbase]
  dsimp only [bind, Except.bind]
  rw [if_pos hform, parseLocal, StateT.run_bind, hlocal, List.drop_drop]
  rfl

/-- The parser reads the header of a packet in the global form. -/
theorem parseStart_global {bytes : Bytes} (h : 20 ≤ bytes.length)
    (hform : (Header.read GdpBaseH (bitsOf bytes)).localForm ≠ 1#1) :
  parseStart.run (bitsOf bytes) = .ok
    ({ base := some (Header.read GdpBaseH (bitsOf bytes))
       globalAddr := some (Header.read GdpGlobalH (bitsOf (bytes.drop 4)))
       localAddr := none },
      bitsOf (bytes.drop 20))
  := by
  have hbase := @Header.extract_bitsOf GdpBaseH _ 4 bytes rfl (by omega)
  have hglobal := @Header.extract_bitsOf GdpGlobalH _ 16 (bytes.drop 4) rfl
    (by rw [List.length_drop]; omega)
  rw [parseStart, StateT.run_bind, hbase]
  dsimp only [bind, Except.bind]
  rw [if_neg hform, parseGlobal, StateT.run_bind, hglobal, List.drop_drop]
  rfl

/-- Every number of four bits is that of a size class. -/
theorem sizeClass_fromWire_ok (v : U8) :
  ∃ sizeClass, SizeClass.fromWire v = .ok sizeClass
  := by
  have hlt : (v &&& 0x0f#8).toNat < SizeClass.all.length := by
    rw [BitVec.toNat_and]
    exact Nat.lt_succ_of_le Nat.and_le_right
  rw [SizeClass.fromWire, List.getElem?_eq_getElem hlt]
  exact ⟨_, rfl⟩

/-- What the handwritten decoder makes of the first word. -/
structure WordFields (word : U32) (base : GdpBaseH) : Prop where
  version : (word >>> 30 &&& 3#32).setWidth 8 = base.version.setWidth 8
  packetType : (word >>> 26 &&& 0x0f#32).setWidth 8 = base.packetType.setWidth 8
  sizeClass : (word >>> 22 &&& 0x0f#32).setWidth 8 = base.sizeClass.setWidth 8
  localForm : (word >>> 21 &&& 1#32 != 0#32) = decide (base.localForm = 1#1)
  crc8 : (word >>> 8 &&& 0xff#32).setWidth 8 = base.crc8
  hop : (word &&& 0xff#32).setWidth 8 = base.hop
  hopLow : (word &&& 0x0f#32).setWidth 8 = base.hop &&& 0x0f#8

theorem bit_ne_zero (x : BitVec 1) :
  (x.setWidth 32 != 0#32) = decide (x = 1#1)
  := by
  revert x
  decide

theorem wordFields {bytes : Bytes} (h : 4 ≤ bytes.length) :
  WordFields (fromBeBytes 32 (slice bytes 0 4)) (Header.read GdpBaseH (bitsOf bytes))
  := by
  rw [read_base h]
  generalize fromBeBytes 32 (slice bytes 0 4) = word
  have hdigits : ∀ k w, w ≤ 8 → (word >>> k &&& BitVec.ofNat 32 (2 ^ w - 1)).setWidth 8
      = (BitVec.ofNat w (word.toNat / 2 ^ k)).setWidth 8 := by
    intro k w hw
    rw [shift_and word k w (by omega), BitVec.setWidth_setWidth_of_le _ (by decide)]
  have hhop : ∀ w, w ≤ 8 → (word &&& BitVec.ofNat 32 (2 ^ w - 1)).setWidth 8
      = (BitVec.ofNat w word.toNat).setWidth 8 := by
    intro w hw
    simpa only [BitVec.ushiftRight_zero, Nat.pow_zero, Nat.div_one] using hdigits 0 w hw
  constructor
  · exact hdigits 30 2 (by decide)
  · exact hdigits 26 4 (by decide)
  · exact hdigits 22 4 (by decide)
  · have hbit := shift_and word 21 1 (by decide)
    change (word >>> 21 &&& BitVec.ofNat 32 (2 ^ 1 - 1) != 0#32) = _
    rw [hbit]
    apply bit_ne_zero
  · exact (hdigits 8 8 (by decide)).trans (BitVec.setWidth_eq _)
  · exact (hhop 8 (by decide)).trans (BitVec.setWidth_eq _)
  · rw [BitVec.setWidth_and]
    exact congrArg (· &&& 0x0f#8) (BitVec.ofNat_toNat 8 word).symm

/-- What the handwritten decoder makes of the addresses in the local form. -/
theorem ids_local {bytes : Bytes} (h : 8 ≤ bytes.length) :
  let ids := fromBeBytes 32 (slice bytes 4 4)
  Header.read GdpLocalH (bitsOf (bytes.drop 4)) =
    { destination := (ids >>> 16).setWidth 16, source := ids.setWidth 16 }
  := by
  have hslice : slice (bytes.drop 4) 0 4 = slice bytes 4 4 := rfl
  rw [read_local (by rw [List.length_drop]; omega), hslice, fromBeBytes]
  congr 1
  · apply BitVec.eq_of_toNat_eq
    simp only [BitVec.toNat_setWidth, BitVec.toNat_ushiftRight, BitVec.toNat_ofNat,
      Nat.shiftRight_eq_div_pow]
    omega
  · apply BitVec.eq_of_toNat_eq
    simp only [BitVec.toNat_setWidth, BitVec.toNat_ofNat]
    omega

/-- What the handwritten decoder makes of the addresses in the global form. -/
theorem words_global {bytes : Bytes} (h : 20 ≤ bytes.length) :
  let hdr := Header.read GdpGlobalH (bitsOf (bytes.drop 4))
  hdr.destinationHi.setWidth 64 <<< 32 ||| hdr.destinationLo.setWidth 64
      = fromBeBytes 64 (slice bytes 4 8) ∧
    hdr.sourceHi.setWidth 64 <<< 32 ||| hdr.sourceLo.setWidth 64
      = fromBeBytes 64 (slice bytes 12 8)
  := by
  have hdestination : slice (bytes.drop 4) 0 8 = slice bytes 4 8 := rfl
  have hsource : slice (bytes.drop 4) 8 8 = slice bytes 12 8 := by
    rw [slice, List.drop_drop, slice]
  rw [read_global (by rw [List.length_drop]; omega), hdestination, hsource]
  exact ⟨ofNat_halves _, ofNat_halves _⟩

/-- On every byte string the parser of the program and its adaptor give the header, or the error,
that the handwritten decoder gives. -/
theorem decodeHeader_eq (bytes : Bytes) (localPrefix : U64) :
  decodeHeader bytes localPrefix = some (GdpHeader.decode bytes ⟨true⟩ localPrefix)
  := by
  rw [decodeHeader, parseHeader, GdpHeader.decode]
  by_cases hlen : bytes.length < 4
  · rw [if_pos hlen, if_pos hlen]
    rfl
  rw [if_neg hlen, if_neg hlen]
  have hfields := wordFields (Nat.not_lt.mp hlen)
  have hlocal := @parseStart_local bytes
  have hglobal := @parseStart_global bytes
  generalize Header.read GdpBaseH (bitsOf bytes) = base at hfields hlocal hglobal
  generalize fromBeBytes 32 (slice bytes 0 4) = word at hfields
  obtain ⟨sizeClass, hsize⟩ := sizeClass_fromWire_ok (base.sizeClass.setWidth 8)
  dsimp only
  rw [hfields.version, hfields.packetType, hfields.sizeClass, hfields.localForm, hfields.crc8,
    hsize]
  by_cases hform : base.localForm = 1#1
  · rw [decide_eq_true hform, show GdpWireConfig.formFromBit ⟨true⟩ true = .local from rfl,
      GdpHeader.decodeAddresses]
    simp only [reduceIte]
    by_cases hlen' : bytes.length < 8
    · rw [if_pos hlen', if_pos hlen']
      rfl
    · rw [if_neg hlen', if_neg hlen', hlocal (Nat.not_lt.mp hlen') hform]
      have hbit : (base.localForm.setWidth 8 != 0#8) = true := by
        rw [hform]
        rfl
      dsimp only [Option.getD_some]
      rw [if_neg (not_not_intro hbit), ids_local (Nat.not_lt.mp hlen'), Option.map_some,
        Except.bind, headerOf]
      dsimp only
      rw [hsize, hfields.hopLow]
      rfl
  · rw [decide_eq_false hform, show GdpWireConfig.formFromBit ⟨true⟩ false = .global from rfl,
      GdpHeader.decodeAddresses]
    simp only [reduceIte, Bool.false_eq_true]
    by_cases hlen' : bytes.length < 20
    · rw [if_pos hlen', if_pos hlen']
      rfl
    · rw [if_neg hlen', if_neg hlen', hglobal (Nat.not_lt.mp hlen') hform]
      obtain ⟨hdestination, hsource⟩ := words_global (Nat.not_lt.mp hlen')
      have hbit : (base.localForm.setWidth 8 != 0#8) = false := by
        rw [(BitVec.eq_zero_or_eq_one _).resolve_right hform]
        rfl
      dsimp only [Option.getD_some]
      rw [if_neg (not_not_intro hbit), hdestination, hsource, Option.map_some, Except.bind,
        headerOf]
      dsimp only
      rw [hsize, hfields.hop]
      rfl

end P4Gdp

end SmolGnet
