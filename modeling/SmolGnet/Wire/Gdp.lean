import SmolGnet.Wire.Crc
import SmolGnet.Library.Octets
import Mathlib.Tactic.IntervalCases

/-!
# GDP packets

The GDP header in its global and its local form, the size classes of the payload, and the
encoding of a packet as bytes.  Decoding gives back every canonical packet that was
encoded: one whose fields fit into the bits the header has for them, and whose local
prefix is the one the decoder supplies.
-/

namespace SmolGnet

open Octets

/-! ### Addresses, types and size classes -/

/-- An address of the network. -/
structure GdpAddress where
  value : U64
  deriving DecidableEq, Repr

/-- What the payload of a packet is. -/
inductive GdpType where
  | gctl
  | gts
  | reserved (v : U8)
  deriving DecidableEq, Repr

/-- The size classes of a payload. -/
inductive SizeClass where
  | empty
  | tiny3
  | ctrl32
  | ctrl64
  | msg128
  | msg192
  | msg256
  | msg384
  | medium512
  | medium768
  | bulk1K
  | bulk1280
  | legacy1500
  | xmtu2K
  | jumbo4K
  | jumbo8K
  deriving DecidableEq, Repr

/-- Whether a header carries whole addresses or 16-bit ones. -/
inductive AddressForm where
  | global
  | local
  deriving DecidableEq, Repr

namespace GdpType

/-- The type as the header has it. -/
def toWire : GdpType → U8
  | gctl => 0x1#8
  | gts => 0x2#8
  | reserved v => v &&& 0x0f#8

/-- The type of a header. -/
def fromWire (v : U8) : GdpType :=
  if v &&& 0x0f#8 = 1#8 then gctl
  else if v &&& 0x0f#8 = 2#8 then gts
  else reserved (v &&& 0x0f#8)

end GdpType

namespace SizeClass

/-- Every size class, in increasing order. -/
def all : List SizeClass :=
  [empty, tiny3, ctrl32, ctrl64, msg128, msg192, msg256, msg384, medium512, medium768,
    bulk1K, bulk1280, legacy1500, xmtu2K, jumbo4K, jumbo8K]

/-- The number of the class, `self as u8`. -/
def toWire : SizeClass → U8
  | empty => 0#8
  | tiny3 => 1#8
  | ctrl32 => 2#8
  | ctrl64 => 3#8
  | msg128 => 4#8
  | msg192 => 5#8
  | msg256 => 6#8
  | msg384 => 7#8
  | medium512 => 8#8
  | medium768 => 9#8
  | bulk1K => 10#8
  | bulk1280 => 11#8
  | legacy1500 => 12#8
  | xmtu2K => 13#8
  | jumbo4K => 14#8
  | jumbo8K => 15#8

/-- The length of a payload of the class. -/
def bytes : SizeClass → ℕ
  | empty => 0
  | tiny3 => 3
  | ctrl32 => 32
  | ctrl64 => 64
  | msg128 => 128
  | msg192 => 192
  | msg256 => 256
  | msg384 => 384
  | medium512 => 512
  | medium768 => 768
  | bulk1K => 1024
  | bulk1280 => 1280
  | legacy1500 => 1500
  | xmtu2K => 2048
  | jumbo4K => 4096
  | jumbo8K => 8192

/-- The class of a header. -/
def fromWire (v : U8) : Except Error SizeClass :=
  match all[(v &&& 0x0f#8).toNat]? with
  | some c => .ok c
  | none => .error .invalidSizeClass

/-- The first class that has room for `required` bytes. -/
def smallestFor (required : ℕ) : Option SizeClass :=
  all.find? (fun c => required ≤ c.bytes)

end SizeClass

/-! ### Headers -/

/-- Which value of the form bit means the local form. -/
structure GdpWireConfig where
  localFormBit : Bool
  deriving DecidableEq, Repr

namespace GdpWireConfig

/-- The form bit of a form. -/
def formBit (cfg : GdpWireConfig) : AddressForm → Bool
  | .local => cfg.localFormBit
  | .global => !cfg.localFormBit

/-- The form of a form bit. -/
def formFromBit (cfg : GdpWireConfig) (bit : Bool) : AddressForm :=
  if bit = cfg.localFormBit then .local else .global

end GdpWireConfig

/-- The addresses of a header.  The prefix of the local form is not transmitted. -/
inductive GdpAddresses where
  | global (destination source : GdpAddress)
  | local (destination source : U16) (localPrefix : U64)
  deriving DecidableEq, Repr

/-- The form of the addresses. -/
def GdpAddresses.form : GdpAddresses → AddressForm
  | .global .. => .global
  | .local .. => .local

namespace GdpAddresses

/-- The address that the packet is for. -/
def effectiveDestination : GdpAddresses → GdpAddress
  | .global destination _ => destination
  | .local destination _ localPrefix =>
    ⟨(localPrefix &&& ~~~0xffff#64) ||| destination.setWidth 64⟩

/-- The address that the packet comes from. -/
def effectiveSource : GdpAddresses → GdpAddress
  | .global _ source => source
  | .local _ source localPrefix => ⟨(localPrefix &&& ~~~0xffff#64) ||| source.setWidth 64⟩

end GdpAddresses

/-- The header of a packet. -/
structure GdpHeader where
  version : U8
  packetType : GdpType
  sizeClass : SizeClass
  hopLimit : U8
  addresses : GdpAddresses
  deriving DecidableEq, Repr

namespace GdpHeader

/-- A header in the global form. -/
def «global» (packetType : GdpType) (sizeClass : SizeClass) (hopLimit : U8)
    (source destination : GdpAddress) : GdpHeader :=
  ⟨0#8, packetType, sizeClass, hopLimit, .global destination source⟩

/-- A header in the local form. -/
def «local» (packetType : GdpType) (sizeClass : SizeClass) (hopLimit : U8) (localPrefix : U64)
    (source destination : U16) : Except Error GdpHeader :=
  if 15#8 < hopLimit then .error .invalidField
  else
    .ok ⟨0#8, packetType, sizeClass, hopLimit,
      .local destination source (localPrefix &&& ~~~0xffff#64)⟩

/-- The address that the packet comes from. -/
def source (header : GdpHeader) : GdpAddress :=
  header.addresses.effectiveSource

/-- The address that the packet is for. -/
def destination (header : GdpHeader) : GdpAddress :=
  header.addresses.effectiveDestination

/-- The length of the encoded header. -/
def headerLen (header : GdpHeader) : ℕ :=
  match header.addresses with
  | .global .. => 20
  | .local .. => 8

/-- The checksum of the header, which leaves out the hop limit. -/
def crc8 (header : GdpHeader) (cfg : GdpWireConfig) : U8 :=
  let c := Crc8.new
  let c := c.updateBits (header.version &&& 0x03#8 |>.setWidth 64) 2
  let c := c.updateBits (header.packetType.toWire.setWidth 64) 4
  let c := c.updateBits (header.sizeClass.toWire.setWidth 64) 4
  let c := c.updateBit (cfg.formBit header.addresses.form)
  let c := match header.addresses with
    | .global destination source =>
      (c.updateBits destination.value 64).updateBits source.value 64
    | .local destination source _ =>
      (c.updateBits (destination.setWidth 64) 16).updateBits (source.setWidth 64) 16
  c.finalize

/-- The fields of the first word, each in its place. -/
def packWord (version packetType sizeClass : U8) (formBit : Bool) (crc hop : U8) : U32 :=
  (version.setWidth 32 &&& 3#32) <<< 30
    ||| (packetType.setWidth 32 &&& 0x0f#32) <<< 26
    ||| (sizeClass.setWidth 32 &&& 0x0f#32) <<< 22
    ||| (BitVec.ofBool formBit).setWidth 32 <<< 21
    ||| crc.setWidth 32 <<< 8
    ||| hop.setWidth 32

/-- The first word of the encoded header. -/
def word1 (header : GdpHeader) (cfg : GdpWireConfig) : U32 :=
  let formBit := cfg.formBit header.addresses.form
  let crc := header.crc8 cfg
  let hop := match header.addresses with
    | .global .. => header.hopLimit
    | .local .. => header.hopLimit &&& 0x0f#8
  packWord header.version header.packetType.toWire header.sizeClass.toWire formBit crc hop

/-- The second word of a header in the local form. -/
def idsWord (destination source : U16) : U32 :=
  destination.setWidth 32 <<< 16 ||| source.setWidth 32

/-- Write the header at the start of `out` and return its length. -/
def encodeInto (header : GdpHeader) (cfg : GdpWireConfig) (out : Bytes) :
    Except Error (ℕ × Bytes) :=
  if 3#8 < header.version ∨ 15#8 < header.packetType.toWire then .error .invalidField
  else if header.addresses.form = .local ∧ 15#8 < header.hopLimit then .error .invalidField
  else
    let need := header.headerLen
    if out.length < need then .error .bufferFull
    else
      let out := copyInto out 0 (toBeBytes (header.word1 cfg))
      match header.addresses with
      | .global destination source =>
        let out := copyInto out 4 (toBeBytes destination.value)
        .ok (need, copyInto out 12 (toBeBytes source.value))
      | .local destination source _ =>
        .ok (need, copyInto out 4 (toBeBytes (idsWord destination source)))

/-- Read the hop limit and the addresses of a header of the given form. -/
def decodeAddresses (buf : Bytes) (word : U32) (localPrefix : U64) :
    AddressForm → Except Error (U8 × GdpAddresses)
  | .global =>
    if buf.length < 20 then .error .invalidLength
    else
      .ok ((word &&& 0xff#32).setWidth 8,
        .global ⟨fromBeBytes 64 (slice buf 4 8)⟩ ⟨fromBeBytes 64 (slice buf 12 8)⟩)
  | .local =>
    if buf.length < 8 then .error .invalidLength
    else
      let ids := fromBeBytes 32 (slice buf 4 4)
      .ok ((word &&& 0x0f#32).setWidth 8,
        .local ((ids >>> 16).setWidth 16) (ids.setWidth 16) (localPrefix &&& ~~~0xffff#64))

/-- Read the header at the start of `buf`. -/
def decode (buf : Bytes) (cfg : GdpWireConfig) (localPrefix : U64) :
    Except Error GdpHeader :=
  if buf.length < 4 then .error .invalidLength
  else do
    let word := fromBeBytes 32 (slice buf 0 4)
    let version := (word >>> 30 &&& 3#32).setWidth 8
    let packetType := GdpType.fromWire ((word >>> 26 &&& 0x0f#32).setWidth 8)
    let sizeClass ← SizeClass.fromWire ((word >>> 22 &&& 0x0f#32).setWidth 8)
    let form := cfg.formFromBit (word >>> 21 &&& 1#32 != 0#32)
    let receivedCrc := (word >>> 8 &&& 0xff#32).setWidth 8
    let (hopLimit, addresses) ← decodeAddresses buf word localPrefix form
    let header := { version, packetType, sizeClass, hopLimit, addresses : GdpHeader }
    if header.crc8 cfg ≠ receivedCrc then .error .invalidCrc else .ok header

end GdpHeader

/-! ### Packets -/

/-- A packet: a header and a payload. -/
structure GdpPacket where
  header : GdpHeader
  payload : Bytes
  deriving DecidableEq, Repr

namespace GdpPacket

/-- A packet with a payload of the length its size class says. -/
def new (header : GdpHeader) (payload : Bytes) : Except Error GdpPacket :=
  if payload.length ≠ header.sizeClass.bytes then .error .invalidLength
  else .ok ⟨header, payload⟩

/-- The bytes of a packet. -/
def encode (packet : GdpPacket) (cfg : GdpWireConfig) : Except Error Bytes := do
  let total := packet.header.headerLen + packet.payload.length
  let packet ← new packet.header packet.payload
  let (headerLen, out) ← packet.header.encodeInto cfg (List.replicate total 0#8)
  return (copyInto out headerLen packet.payload).take total

/-- The packet that the whole of `buf` encodes. -/
def decode (buf : Bytes) (cfg : GdpWireConfig) (localPrefix : U64) :
    Except Error GdpPacket := do
  let header ← GdpHeader.decode buf cfg localPrefix
  let headerLen := header.headerLen
  let total := headerLen + header.sizeClass.bytes
  if buf.length ≠ total then .error .invalidLength else .ok ⟨header, buf.drop headerLen⟩

end GdpPacket

/-! ### Decoding what was encoded -/

theorem and_three_of_le :
  ∀ v : U8, v ≤ 3#8 → v &&& 3#8 = v
  := by decide

theorem and_fifteen_of_le :
  ∀ v : U8, v ≤ 15#8 → v &&& 0x0f#8 = v
  := by decide

namespace GdpHeader

section PackWord

variable (version packetType sizeClass : U8) (formBit : Bool) (crc hop : U8)

theorem packWord_version :
  (packWord version packetType sizeClass formBit crc hop >>> 30 &&& 3#32).setWidth 8
    = version &&& 3#8
  := by
  ext i hi
  interval_cases i <;> simp [packWord]

theorem packWord_packetType :
  (packWord version packetType sizeClass formBit crc hop >>> 26 &&& 0x0f#32).setWidth 8
    = packetType &&& 0x0f#8
  := by
  ext i hi
  interval_cases i <;> simp [packWord]

theorem packWord_sizeClass :
  (packWord version packetType sizeClass formBit crc hop >>> 22 &&& 0x0f#32).setWidth 8
    = sizeClass &&& 0x0f#8
  := by
  ext i hi
  interval_cases i <;> simp [packWord]

theorem packWord_formBit :
  (packWord version packetType sizeClass formBit crc hop >>> 21 &&& 1#32 != 0#32) = formBit
  := by
  have hbit : packWord version packetType sizeClass formBit crc hop >>> 21 &&& 1#32
      = (BitVec.ofBool formBit).setWidth 32 := by
    ext i hi
    interval_cases i <;> simp [packWord]
  rw [hbit]
  cases formBit with
  | false => rfl
  | true => rfl

theorem packWord_crc :
  (packWord version packetType sizeClass formBit crc hop >>> 8 &&& 0xff#32).setWidth 8 = crc
  := by
  ext i hi
  interval_cases i <;> simp [packWord]

theorem packWord_hop :
  (packWord version packetType sizeClass formBit crc hop &&& 0xff#32).setWidth 8 = hop
  := by
  ext i hi
  interval_cases i <;> simp [packWord]

theorem packWord_hop_low :
  (packWord version packetType sizeClass formBit crc hop &&& 0x0f#32).setWidth 8
    = hop &&& 0x0f#8
  := by
  ext i hi
  interval_cases i <;> simp [packWord]

end PackWord

theorem idsWord_destination (destination source : U16) :
  (idsWord destination source >>> 16).setWidth 16 = destination
  := by
  ext i hi
  interval_cases i <;> simp [idsWord]

theorem idsWord_source (destination source : U16) :
  (idsWord destination source).setWidth 16 = source
  := by
  ext i hi
  interval_cases i <;> simp [idsWord]

/-- The fields of the header fit into the bits there are for them, and a local prefix is
the one of the link. -/
structure Canonical (localPrefix : U64) (header : GdpHeader) : Prop where
  version_le : header.version ≤ 3#8
  packetType_mem : ∃ v, GdpType.fromWire v = header.packetType
  local_form : ∀ destination source p, header.addresses = .local destination source p →
    header.hopLimit ≤ 15#8 ∧ p = localPrefix &&& ~~~0xffff#64

/-- The bytes of the addresses. -/
def addressBytes (header : GdpHeader) : Bytes :=
  match header.addresses with
  | .global destination source => toBeBytes destination.value ++ toBeBytes source.value
  | .local destination source _ => toBeBytes (idsWord destination source)

theorem headerLen_eq (header : GdpHeader) :
  header.headerLen = 4 + header.addressBytes.length
  := by
  simp only [headerLen, addressBytes]
  split
  · simp only [List.length_append, length_toBeBytes]
  · simp only [length_toBeBytes]

end GdpHeader

theorem GdpType.toWire_le (t : GdpType) :
  t.toWire ≤ 15#8
  := by
  cases t with
  | gctl => decide
  | gts => decide
  | reserved v =>
    rw [toWire, BitVec.le_def, BitVec.toNat_and]
    apply Nat.and_le_right

theorem GdpType.toWire_fromWire (v : U8) :
  (fromWire v).toWire = v &&& 0x0f#8
  := by
  simp only [fromWire]
  split
  · next h => rw [toWire, h]
  · split
    · next h => rw [toWire, h]
    · rw [toWire, BitVec.and_assoc, BitVec.and_self]

theorem GdpType.toWire_fromWire_toWire (t : GdpType) :
  (fromWire t.toWire).toWire = t.toWire
  := by
  rw [toWire_fromWire, and_fifteen_of_le _ t.toWire_le]

theorem GdpType.fromWire_toWire {t : GdpType} (h : ∃ v, fromWire v = t) :
  fromWire (t.toWire &&& 0x0f#8) = t
  := by
  obtain ⟨v, rfl⟩ := h
  rw [toWire_fromWire, BitVec.and_assoc, BitVec.and_self]
  simp only [fromWire, BitVec.and_assoc, BitVec.and_self]

theorem SizeClass.fromWire_toWire (c : SizeClass) :
  fromWire (c.toWire &&& 0x0f#8) = .ok c
  := by
  cases c <;> rfl

/-- The number of a size class is the one it was read from. -/
theorem SizeClass.toWire_of_fromWire {v : U8} {c : SizeClass} (h : fromWire v = .ok c) :
  c.toWire = v &&& 0x0f#8
  := by
  have hall : ∀ v : U8, (fromWire v).map toWire = .ok (v &&& 0x0f#8) := by decide +kernel
  have hv := hall v
  rw [h] at hv
  exact Except.ok.inj hv

theorem GdpWireConfig.formFromBit_formBit (cfg : GdpWireConfig) (form : AddressForm) :
  cfg.formFromBit (cfg.formBit form) = form
  := by
  cases form with
  | «local» => rw [formBit, formFromBit, if_pos rfl]
  | «global» => rw [formBit, formFromBit, if_neg (Bool.not_ne_self _)]

namespace GdpHeader

/-- The header is written in front of what was behind it in `out`. -/
theorem encodeInto_of_canonical
    {localPrefix : U64} {header : GdpHeader} (h : header.Canonical localPrefix)
    (cfg : GdpWireConfig) {out : Bytes} (hlen : header.headerLen ≤ out.length) :
  header.encodeInto cfg out
    = .ok (header.headerLen,
        toBeBytes (header.word1 cfg) ++ (header.addressBytes ++ out.drop header.headerLen))
  := by
  obtain ⟨hversion, -, hlocal⟩ := h
  have htype := header.packetType.toWire_le
  have hhop : ¬ (header.addresses.form = .local ∧ 15#8 < header.hopLimit) := by
    rintro ⟨hform, hlt⟩
    cases haddr : header.addresses with
    | «global» d s => simp [haddr, GdpAddresses.form] at hform
    | «local» d s p =>
      have := (hlocal d s p haddr).1
      bv_omega
  have hword : copyInto out 0 (toBeBytes (header.word1 cfg))
      = toBeBytes (header.word1 cfg) ++ out.drop 4 := by
    rw [copyInto_zero, length_toBeBytes]
  rw [encodeInto, if_neg (by bv_omega), if_neg hhop, if_neg (by omega)]
  simp only [hword]
  cases haddr : header.addresses with
  | «global» d s =>
    simp only [headerLen, addressBytes, haddr]
    rw [copyInto_append (length_toBeBytes _), ← List.append_assoc, copyInto_append (by simp)]
    simp only [length_toBeBytes, List.drop_drop, List.append_assoc]
  | «local» d s p =>
    simp only [headerLen, addressBytes, haddr]
    rw [copyInto_append (length_toBeBytes _)]
    simp only [length_toBeBytes, List.drop_drop]

/-- The addresses of a canonical header are read back. -/
theorem decodeAddresses_append
    {localPrefix : U64} {header : GdpHeader} (h : header.Canonical localPrefix)
    (cfg : GdpWireConfig) (rest : Bytes) :
  decodeAddresses (toBeBytes (header.word1 cfg) ++ (header.addressBytes ++ rest))
      (header.word1 cfg) localPrefix header.addresses.form
    = .ok (header.hopLimit, header.addresses)
  := by
  have hlen : (toBeBytes (header.word1 cfg)).length = 4 := length_toBeBytes _
  cases haddr : header.addresses with
  | «global» d s =>
    have hd := slice_append (k := 8) hlen (length_toBeBytes d.value) (toBeBytes s.value ++ rest)
    have hlen' : (toBeBytes (header.word1 cfg) ++ toBeBytes d.value).length = 12 := by
      simp only [List.length_append, length_toBeBytes]
    have hs := slice_append (k := 8) hlen' (length_toBeBytes s.value) rest
    have hhop : (header.word1 cfg &&& 0xff#32).setWidth 8 = header.hopLimit := by
      simp only [word1, haddr, packWord_hop]
    simp only [addressBytes, haddr, List.append_assoc] at hs ⊢
    rw [GdpAddresses.form, decodeAddresses, if_neg (by simp; omega), hd, hs, hhop,
      fromBeBytes_toBeBytes (by rfl), fromBeBytes_toBeBytes (by rfl)]
  | «local» d s p =>
    obtain ⟨hle, rfl⟩ := h.local_form d s p haddr
    have hids := slice_append (k := 4) hlen (length_toBeBytes (idsWord d s)) rest
    have hhop : (header.word1 cfg &&& 0x0f#32).setWidth 8 = header.hopLimit := by
      simp only [word1, haddr, packWord_hop_low, and_fifteen_of_le _ hle]
    simp only [addressBytes, haddr]
    rw [GdpAddresses.form, decodeAddresses, if_neg (by simp; omega), hids, hhop,
      fromBeBytes_toBeBytes (by rfl)]
    simp only [idsWord_destination, idsWord_source]

/-- The size class is read off the first word. -/
theorem fromWire_word1 (header : GdpHeader) (cfg : GdpWireConfig) :
  SizeClass.fromWire ((header.word1 cfg >>> 22 &&& 0x0f#32).setWidth 8)
    = .ok header.sizeClass
  := by
  rw [word1, packWord_sizeClass, SizeClass.fromWire_toWire]

/-- The form is read off the first word. -/
theorem formFromBit_word1 (header : GdpHeader) (cfg : GdpWireConfig) :
  cfg.formFromBit (header.word1 cfg >>> 21 &&& 1#32 != 0#32) = header.addresses.form
  := by
  rw [word1, packWord_formBit, GdpWireConfig.formFromBit_formBit]

/-- A canonical header is read back, whatever follows it. -/
theorem decode_append
    {localPrefix : U64} {header : GdpHeader} (h : header.Canonical localPrefix)
    (cfg : GdpWireConfig) (rest : Bytes) :
  decode (toBeBytes (header.word1 cfg) ++ (header.addressBytes ++ rest)) cfg localPrefix
    = .ok header
  := by
  have hword : slice (toBeBytes (header.word1 cfg) ++ (header.addressBytes ++ rest)) 0 4
      = toBeBytes (header.word1 cfg) := by
    apply slice_zero_append (length_toBeBytes _)
  have hversion : (header.word1 cfg >>> 30 &&& 3#32).setWidth 8 = header.version := by
    rw [word1, packWord_version, and_three_of_le _ h.version_le]
  have htype : GdpType.fromWire ((header.word1 cfg >>> 26 &&& 0x0f#32).setWidth 8)
      = header.packetType := by
    rw [word1, packWord_packetType, GdpType.fromWire_toWire h.packetType_mem]
  have hcrc : (header.word1 cfg >>> 8 &&& 0xff#32).setWidth 8 = header.crc8 cfg := by
    rw [word1, packWord_crc]
  rw [decode, if_neg (by simp), hword, fromBeBytes_toBeBytes (by rfl)]
  simp only [hversion, htype, hcrc, fromWire_word1, formFromBit_word1,
    decodeAddresses_append h cfg rest, bind, Except.bind, ne_eq, not_true_eq_false, if_false]

/-! ### Headers that are not canonical -/

/-- The header as it is read where the local prefix is `localPrefix`: of the type only the bits that
are transmitted are read, and the prefix is not transmitted. -/
def received (header : GdpHeader) (localPrefix : U64) : GdpHeader :=
  { header with
    packetType := GdpType.fromWire header.packetType.toWire
    addresses := match header.addresses with
      | .global destination source => .global destination source
      | .local destination source _ => .local destination source (localPrefix &&& ~~~0xffff#64) }

/-- The header that is read has the same bytes. -/
theorem encodeInto_received (header : GdpHeader) (localPrefix : U64) (cfg : GdpWireConfig)
    (out : Bytes) :
  (header.received localPrefix).encodeInto cfg out = header.encodeInto cfg out
  := by
  obtain ⟨version, packetType, sizeClass, hopLimit, addresses⟩ := header
  cases addresses with
  | «global» destination source =>
    simp only [received, encodeInto, word1, crc8, headerLen, GdpType.toWire_fromWire_toWire]
    rfl
  | «local» destination source p =>
    simp only [received, encodeInto, word1, crc8, headerLen, GdpType.toWire_fromWire_toWire,
      GdpAddresses.form]
    rfl

theorem headerLen_received (header : GdpHeader) (localPrefix : U64) :
  (header.received localPrefix).headerLen = header.headerLen
  := by
  obtain ⟨version, packetType, sizeClass, hopLimit, addresses⟩ := header
  cases addresses with
  | «global» destination source => rfl
  | «local» destination source p => rfl

theorem canonical_received {header : GdpHeader} {cfg : GdpWireConfig} {out : Bytes}
    {r : ℕ × Bytes} (h : header.encodeInto cfg out = .ok r) (localPrefix : U64) :
  (header.received localPrefix).Canonical localPrefix
  := by
  rw [encodeInto] at h
  split at h
  · cases h
  next hversion =>
  split at h
  · cases h
  next hhop =>
  rw [not_or, BitVec.not_lt] at hversion
  refine ⟨hversion.1, ⟨_, rfl⟩, ?_⟩
  obtain ⟨version, packetType, sizeClass, hopLimit, addresses⟩ := header
  cases addresses with
  | «global» destination source => nofun
  | «local» destination source p =>
    rintro _ _ _ ⟨⟩
    refine ⟨BitVec.not_lt.mp ?_, rfl⟩
    intro hlt
    exact hhop ⟨rfl, hlt⟩

end GdpHeader

namespace GdpPacket

/-- A packet whose header is canonical and whose payload has the length it says. -/
structure Canonical (localPrefix : U64) (packet : GdpPacket) : Prop where
  header : packet.header.Canonical localPrefix
  length_eq : packet.payload.length = packet.header.sizeClass.bytes

/-- The bytes of a canonical packet. -/
def wire (packet : GdpPacket) (cfg : GdpWireConfig) : Bytes :=
  toBeBytes (packet.header.word1 cfg) ++ (packet.header.addressBytes ++ packet.payload)

theorem length_wire (packet : GdpPacket) (cfg : GdpWireConfig) :
  (packet.wire cfg).length = packet.header.headerLen + packet.payload.length
  := by
  simp only [wire, List.length_append, length_toBeBytes, GdpHeader.headerLen_eq]
  omega

/-- How a packet is encoded whose payload has the length of its size class. -/
theorem encode_eq {packet : GdpPacket} (h : packet.payload.length = packet.header.sizeClass.bytes)
    (cfg : GdpWireConfig) :
  packet.encode cfg = (packet.header.encodeInto cfg
    (List.replicate (packet.header.headerLen + packet.payload.length) 0#8)).map
      (fun r => (copyInto r.2 r.1 packet.payload).take
        (packet.header.headerLen + packet.payload.length))
  := by
  rw [encode, new, if_neg (not_not.mpr h)]
  cases hinto : packet.header.encodeInto cfg
      (List.replicate (packet.header.headerLen + packet.payload.length) 0#8) with
  | error err => simp only [bind, Except.bind, hinto, Except.map]
  | ok r => simp only [bind, Except.bind, hinto, Except.map, pure, Except.pure]

/-- A canonical packet is encoded in its bytes. -/
theorem encode_of_canonical
    {localPrefix : U64} {packet : GdpPacket} (h : packet.Canonical localPrefix)
    (cfg : GdpWireConfig) :
  packet.encode cfg = .ok (packet.wire cfg)
  := by
  have hlen : (toBeBytes (packet.header.word1 cfg) ++ packet.header.addressBytes).length
      = packet.header.headerLen := by
    rw [List.length_append, length_toBeBytes, GdpHeader.headerLen_eq]
  have hroom : packet.header.headerLen ≤ (List.replicate
      (packet.header.headerLen + packet.payload.length) 0#8).length := by
    rw [List.length_replicate]
    apply Nat.le_add_right
  have hinto := GdpHeader.encodeInto_of_canonical h.header cfg hroom
  rw [List.drop_replicate, Nat.add_sub_cancel_left, ← List.append_assoc] at hinto
  have hcopy := copyInto_append hlen (List.replicate packet.payload.length 0#8) packet.payload
  have hwire : packet.wire cfg
      = toBeBytes (packet.header.word1 cfg) ++ packet.header.addressBytes ++ packet.payload :=
    (List.append_assoc ..).symm
  have hlen' := packet.length_wire cfg
  rw [List.drop_of_length_le (by simp), List.append_nil, ← hwire] at hcopy
  rw [encode_eq h.length_eq, hinto]
  simp only [Except.map, hcopy]
  rw [List.take_of_length_le (by omega)]

/-- The packet that its encoding is read as where the local prefix is `localPrefix`. -/
def received (packet : GdpPacket) (localPrefix : U64) : GdpPacket :=
  { packet with header := packet.header.received localPrefix }

/-- The packet that is read is encoded in the same bytes. -/
theorem encode_received {packet : GdpPacket}
    (h : packet.payload.length = packet.header.sizeClass.bytes) (localPrefix : U64)
    (cfg : GdpWireConfig) :
  (packet.received localPrefix).encode cfg = packet.encode cfg
  := by
  have h' : (packet.received localPrefix).payload.length
      = (packet.received localPrefix).header.sizeClass.bytes := h
  rw [encode_eq h, encode_eq h']
  dsimp only [received]
  rw [GdpHeader.headerLen_received, GdpHeader.encodeInto_received]

/-- What a packet is encoded in are the bytes of the packet that is read, which is canonical. -/
theorem wire_received {packet : GdpPacket} {cfg : GdpWireConfig} {bytes : Bytes}
    (h : packet.encode cfg = .ok bytes) (localPrefix : U64) :
  (packet.received localPrefix).Canonical localPrefix ∧
    bytes = (packet.received localPrefix).wire cfg
  := by
  have hlen : packet.payload.length = packet.header.sizeClass.bytes := by
    obtain ⟨packet', hnew, -⟩ := bind_eq_ok.mp h
    rw [new] at hnew
    split at hnew
    · cases hnew
    · next hlen => exact not_not.mp hlen
  have hcanonical : (packet.received localPrefix).Canonical localPrefix := by
    rw [encode_eq hlen] at h
    obtain ⟨r, hinto, -⟩ := map_eq_ok.mp h
    exact ⟨GdpHeader.canonical_received hinto localPrefix, hlen⟩
  have hencode := encode_received hlen localPrefix cfg
  rw [encode_of_canonical hcanonical, h] at hencode
  exact ⟨hcanonical, (Except.ok.inj hencode).symm⟩

/-- How any packet in the global form is encoded. -/
theorem encode_of_global {packet : GdpPacket} (hform : packet.header.addresses.form = .global)
    (cfg : GdpWireConfig) :
  packet.encode cfg = if packet.payload.length ≠ packet.header.sizeClass.bytes then .error .invalidLength
    else if 3#8 < packet.header.version then .error .invalidField
    else .ok ((packet.received 0#64).wire cfg)
  := by
  split
  · next hlen =>
    rw [encode, new, if_pos hlen]
    rfl
  next hlen =>
  rw [not_not] at hlen
  split
  · next hversion =>
    rw [encode_eq hlen, GdpHeader.encodeInto, if_pos (.inl hversion)]
    rfl
  · next hversion =>
    have hheader : (packet.header.received 0#64).Canonical 0#64 := by
      refine ⟨BitVec.not_lt.mp hversion, ⟨_, rfl⟩, ?_⟩
      intro destination source p haddr
      have hlocal : (packet.header.received 0#64).addresses.form = .local := by rw [haddr]; rfl
      rw [GdpHeader.received] at hlocal
      cases haddr' : packet.header.addresses with
      | «global» => simp [haddr', GdpAddresses.form] at hlocal
      | «local» =>
        rw [haddr'] at hform
        cases hform
    rw [← encode_received hlen 0#64]
    apply @encode_of_canonical 0#64
    exact ⟨hheader, hlen⟩

/-- What a packet is encoded in are the bytes of a canonical packet. -/
theorem exists_canonical_of_encode {packet : GdpPacket} {cfg : GdpWireConfig} {bytes : Bytes}
    (h : packet.encode cfg = .ok bytes) (localPrefix : U64) :
  ∃ p : GdpPacket, p.Canonical localPrefix ∧ bytes = p.wire cfg
  := ⟨_, wire_received h localPrefix⟩

/-- Decoding gives back a canonical packet that was encoded. -/
theorem decode_wire
    {localPrefix : U64} {packet : GdpPacket} (h : packet.Canonical localPrefix)
    (cfg : GdpWireConfig) :
  decode (packet.wire cfg) cfg localPrefix = .ok packet
  := by
  have hdecode := GdpHeader.decode_append h.header cfg packet.payload
  have hdrop : (packet.wire cfg).drop packet.header.headerLen = packet.payload := by
    rw [wire, ← List.append_assoc]
    apply List.drop_left'
    rw [List.length_append, length_toBeBytes, GdpHeader.headerLen_eq]
  rw [← wire] at hdecode
  simp only [decode, hdecode, bind, Except.bind, length_wire, h.length_eq, hdrop, ne_eq, not_true_eq_false, if_false]

/-! ### Packets in another local context -/

/-- The packet as it is read where the local prefix is `localPrefix`. -/
def within (packet : GdpPacket) (localPrefix : U64) : GdpPacket :=
  match packet.header.addresses with
  | .global .. => packet
  | .local destination source _ =>
    { packet with header := { packet.header with
      addresses := .local destination source (localPrefix &&& ~~~0xffff#64) } }

theorem within_of_global {packet : GdpPacket} (h : packet.header.addresses.form = .global)
    (localPrefix : U64) :
  packet.within localPrefix = packet
  := by
  rw [within]
  split
  · rfl
  · next haddr =>
    rw [haddr] at h
    cases h

@[simp]
theorem payload_within (packet : GdpPacket) (localPrefix : U64) :
  (packet.within localPrefix).payload = packet.payload
  := by
  rw [within]
  split
  · rfl
  · rfl

@[simp]
theorem packetType_within (packet : GdpPacket) (localPrefix : U64) :
  (packet.within localPrefix).header.packetType = packet.header.packetType
  := by
  rw [within]
  split
  · rfl
  · rfl

/-- The prefix is not transmitted. -/
theorem wire_within (packet : GdpPacket) (localPrefix : U64) (cfg : GdpWireConfig) :
  (packet.within localPrefix).wire cfg = packet.wire cfg
  := by
  rw [within]
  split
  · rfl
  · next haddr =>
    simp only [wire, GdpHeader.word1, GdpHeader.crc8, GdpHeader.addressBytes, haddr,
      GdpAddresses.form]

/-- A packet that is canonical in one local context is canonical in every other as it is read
there. -/
theorem Canonical.within {packet : GdpPacket} {localPrefix : U64}
    (h : packet.Canonical localPrefix) (localPrefix' : U64) :
  (packet.within localPrefix').Canonical localPrefix'
  := by
  obtain ⟨⟨hversion, htype, hlocal⟩, hlength⟩ := h
  rw [GdpPacket.within]
  split
  · next haddr =>
    refine ⟨⟨hversion, htype, ?_⟩, hlength⟩
    intro _ _ _ haddr'
    rw [haddr] at haddr'
    cases haddr'
  · next haddr =>
    refine ⟨⟨hversion, htype, ?_⟩, hlength⟩
    rintro _ _ _ ⟨⟩
    exact ⟨(hlocal _ _ _ haddr).1, rfl⟩

/-- A packet that is canonical in a local context is read there as it is. -/
theorem Canonical.within_eq {packet : GdpPacket} {localPrefix : U64}
    (h : packet.Canonical localPrefix) :
  packet.within localPrefix = packet
  := by
  rw [GdpPacket.within]
  split
  · rfl
  · next haddr =>
    rw [← (h.header.local_form _ _ _ haddr).2, ← haddr]

end GdpPacket

end SmolGnet
