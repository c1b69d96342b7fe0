import SmolGnet.Wire.Gdp

/-!
# The packets that bytes decode to

Decoding gives canonical packets only, and encoding one of them gives back the bytes that it
was decoded from, but for a few bits of the first word.  Decoding ignores five reserved bits
there, and in the local form also the upper half of the octet of the hop limit.
-/

namespace SmolGnet

open Octets

/-! ### The fields of the first word -/

theorem GdpWireConfig.formBit_formFromBit (cfg : GdpWireConfig) (bit : Bool) :
  cfg.formBit (cfg.formFromBit bit) = bit
  := by
  obtain ⟨localFormBit⟩ := cfg
  cases bit <;> cases localFormBit <;> rfl

theorem GdpWireConfig.eq_of_formFromBit {cfg cfg' : GdpWireConfig} {bit : Bool}
    (h : cfg'.formFromBit bit = cfg.formFromBit bit) :
  cfg' = cfg
  := by
  obtain ⟨localFormBit⟩ := cfg
  obtain ⟨localFormBit'⟩ := cfg'
  revert localFormBit localFormBit' bit
  decide

namespace AddressForm

/-- The bits of the hop limit in the first word of a header of the given form. -/
def hopMask : AddressForm → U32
  | «global» => 0x000000ff#32
  | «local» => 0x0000000f#32

/-- The bits of the first word that a header of the given form has a use for. -/
def wordMask (form : AddressForm) : U32 :=
  0xffe0ff00#32 ||| form.hopMask

theorem hopMask_lt (form : AddressForm) :
  form.hopMask.toNat < 2 ^ 8
  := by
  cases form with
  | «global» => decide
  | «local» => decide

end AddressForm

namespace GdpHeader

theorem and_fifteen_field (x : U32) :
  (x &&& 0x0f#32).setWidth 8 &&& 0x0f#8 = (x &&& 0x0f#32).setWidth 8
  := and_field x 0x0f#32

theorem ofBool_field (x : U32) :
  (BitVec.ofBool (x &&& 1#32 != 0#32)).setWidth 32 = x &&& 1#32
  := by
  rw [BitVec.and_one_eq_setWidth_ofBool_getLsbD]
  cases x.getLsbD 0 with
  | false => rfl
  | true => rfl

/-- The fields of a word, each in its place again. -/
theorem packWord_unpack (word : U32) (form : AddressForm) :
  packWord ((word >>> 30 &&& 3#32).setWidth 8) ((word >>> 26 &&& 0x0f#32).setWidth 8)
      ((word >>> 22 &&& 0x0f#32).setWidth 8) (word >>> 21 &&& 1#32 != 0#32)
      ((word >>> 8 &&& 0xff#32).setWidth 8) ((word &&& form.hopMask).setWidth 8)
    = word &&& form.wordMask
  := by
  have hfields : (0xffe0ff00#32 : U32) = 3#32 <<< 30 ||| 0x0f#32 <<< 26 ||| 0x0f#32 <<< 22
      ||| 1#32 <<< 21 ||| 0xff#32 <<< 8 := by decide
  simp only [packWord, ofBool_field]
  rw [setWidth_field _ (by decide), setWidth_field _ (by decide), setWidth_field _ (by decide),
    setWidth_field _ (by decide), setWidth_field _ form.hopMask_lt, AddressForm.wordMask]
  simp only [BitVec.and_assoc, BitVec.and_self, shift_field, hfields, BitVec.and_or_distrib_left]

/-! ### The header -/

/-- The first word of the bytes. -/
def firstWord (buf : Bytes) : U32 :=
  fromBeBytes 32 (slice buf 0 4)

/-- What a header that was decoded is. -/
theorem eq_of_decode {buf : Bytes} {cfg : GdpWireConfig} {localPrefix : U64} {header : GdpHeader}
    (h : decode buf cfg localPrefix = .ok header) :
  4 ≤ buf.length ∧
    header.version = (firstWord buf >>> 30 &&& 3#32).setWidth 8 ∧
    header.packetType = GdpType.fromWire ((firstWord buf >>> 26 &&& 0x0f#32).setWidth 8) ∧
    SizeClass.fromWire ((firstWord buf >>> 22 &&& 0x0f#32).setWidth 8) = .ok header.sizeClass ∧
    decodeAddresses buf (firstWord buf) localPrefix
      (cfg.formFromBit (firstWord buf >>> 21 &&& 1#32 != 0#32))
      = .ok (header.hopLimit, header.addresses) ∧
    header.crc8 cfg = (firstWord buf >>> 8 &&& 0xff#32).setWidth 8
  := by
  rw [decode] at h
  split at h
  · cases h
  · next hlen =>
    rw [bind_eq_ok] at h
    obtain ⟨sizeClass, hclass, h⟩ := h
    rw [bind_eq_ok] at h
    obtain ⟨⟨hopLimit, addresses⟩, haddresses, h⟩ := h
    dsimp only at h
    split at h
    · cases h
    · next hcrc =>
      cases h
      exact ⟨not_lt.mp hlen, rfl, rfl, hclass, haddresses, not_not.mp hcrc⟩

theorem idsWord_fields (ids : U32) :
  idsWord ((ids >>> 16).setWidth 16) (ids.setWidth 16) = ids
  := by
  ext i hi
  interval_cases i <;> simp [idsWord]

/-- The addresses that are read have the form that they are read in, and they are those of the
bytes.  Of the octet of the hop limit only the bits for this form are read. -/
theorem eq_of_decodeAddresses {buf : Bytes} {word : U32} {localPrefix : U64} {form : AddressForm}
    {header : GdpHeader}
    (h : decodeAddresses buf word localPrefix form = .ok (header.hopLimit, header.addresses)) :
  header.addresses.form = form ∧
    header.hopLimit = (word &&& form.hopMask).setWidth 8 ∧
    header.addressBytes ++ buf.drop header.headerLen = buf.drop 4 ∧
    header.headerLen ≤ buf.length ∧
    ∀ destination source p, header.addresses = .local destination source p →
      p = localPrefix &&& ~~~0xffff#64
  := by
  cases form with
  | «global» =>
    rw [decodeAddresses] at h
    split at h
    · cases h
    · next hlen =>
      injection h with h
      injection h with hhop haddr
      have hdestination := toBeBytes_slice buf 4 8 rfl (by omega)
      have hsource := toBeBytes_slice buf 12 8 rfl (by omega)
      simp only [addressBytes, headerLen, ← haddr, hdestination, hsource]
      refine ⟨rfl, hhop.symm, ?_, not_lt.mp hlen, by simp⟩
      rw [List.append_assoc, slice_append_drop, slice_append_drop]
  | «local» =>
    rw [decodeAddresses] at h
    split at h
    · cases h
    · next hlen =>
      injection h with h
      injection h with hhop haddr
      have hids := toBeBytes_slice buf 4 4 rfl (by omega)
      simp only [addressBytes, headerLen, ← haddr, idsWord_fields, hids]
      refine ⟨rfl, hhop.symm, slice_append_drop buf 4 4, not_lt.mp hlen, ?_⟩
      rintro _ _ _ ⟨⟩
      rfl

variable {buf : Bytes} {cfg : GdpWireConfig} {localPrefix : U64} {header : GdpHeader}

/-- A header that was decoded is canonical. -/
theorem canonical_of_decode (h : decode buf cfg localPrefix = .ok header) :
  header.Canonical localPrefix
  := by
  obtain ⟨-, hversion, htype, -, haddresses, -⟩ := eq_of_decode h
  obtain ⟨hform, hhop, -, -, hprefix⟩ := eq_of_decodeAddresses haddresses
  constructor
  · rw [hversion, BitVec.le_def, BitVec.toNat_setWidth, BitVec.toNat_and]
    exact (Nat.mod_le _ _).trans Nat.and_le_right
  · exact ⟨_, htype.symm⟩
  · intro destination source p haddr
    refine ⟨?_, hprefix destination source p haddr⟩
    rw [haddr] at hform
    rw [hhop, ← hform, BitVec.le_def, BitVec.toNat_setWidth, BitVec.toNat_and]
    exact (Nat.mod_le _ _).trans Nat.and_le_right

/-- The first word of a header that was decoded is the one of the bytes, without the bits that
are ignored. -/
theorem word1_of_decode (h : decode buf cfg localPrefix = .ok header) :
  header.word1 cfg = firstWord buf &&& header.addresses.form.wordMask
  := by
  obtain ⟨-, hversion, htype, hclass, haddresses, hcrc⟩ := eq_of_decode h
  obtain ⟨hform, hhop, -⟩ := eq_of_decodeAddresses haddresses
  have hformBit : cfg.formBit header.addresses.form
      = (firstWord buf >>> 21 &&& 1#32 != 0#32) := by
    rw [hform, GdpWireConfig.formBit_formFromBit]
  have hpack := packWord_unpack (firstWord buf) header.addresses.form
  rw [← hform] at hhop
  cases haddr : header.addresses with
  | «global» destination source =>
    rw [haddr] at hhop hformBit hpack
    simp only [word1, haddr]
    rw [hhop, hformBit, hversion, htype, GdpType.toWire_fromWire, and_fifteen_field,
      SizeClass.toWire_of_fromWire hclass, and_fifteen_field, hcrc]
    exact hpack
  | «local» destination source p =>
    rw [haddr] at hhop hformBit hpack
    have hlow : header.hopLimit &&& 0x0f#8 = header.hopLimit := by
      rw [hhop]
      apply and_fifteen_field
    simp only [word1, haddr]
    rw [hlow, hhop, hformBit, hversion, htype, GdpType.toWire_fromWire, and_fifteen_field,
      SizeClass.toWire_of_fromWire hclass, and_fifteen_field, hcrc]
    exact hpack

end GdpHeader

/-! ### The packet -/

/-- The bytes without the bits of the first word that a header of the given form has no use for. -/
def clearIgnored (form : AddressForm) (buf : Bytes) : Bytes :=
  toBeBytes (GdpHeader.firstWord buf &&& form.wordMask) ++ buf.drop 4

namespace GdpPacket

variable {buf : Bytes} {cfg : GdpWireConfig} {localPrefix : U64} {packet : GdpPacket}

/-- What a packet that was decoded is. -/
theorem eq_of_decode (h : decode buf cfg localPrefix = .ok packet) :
  GdpHeader.decode buf cfg localPrefix = .ok packet.header ∧
    buf.length = packet.header.headerLen + packet.header.sizeClass.bytes ∧
    packet.payload = buf.drop packet.header.headerLen
  := by
  rw [decode, bind_eq_ok] at h
  obtain ⟨header, hheader, h⟩ := h
  dsimp only at h
  split at h
  · cases h
  · next hlen =>
    cases h
    exact ⟨hheader, not_not.mp hlen, rfl⟩

/-- A packet that was decoded is canonical. -/
theorem canonical_of_decode (h : decode buf cfg localPrefix = .ok packet) :
  packet.Canonical localPrefix
  := by
  obtain ⟨hheader, hlen, hpayload⟩ := eq_of_decode h
  refine ⟨GdpHeader.canonical_of_decode hheader, ?_⟩
  rw [hpayload, List.length_drop, hlen, Nat.add_sub_cancel_left]

/-- The bytes of a packet can be read in one format only: in the other one, the addresses have another
form, and the length is not that of the packet. -/
theorem cfg_eq_of_decode {cfg' : GdpWireConfig} {localPrefix' : U64} {packet' : GdpPacket}
    (h : decode buf cfg localPrefix = .ok packet) (h' : decode buf cfg' localPrefix' = .ok packet') :
  cfg' = cfg
  := by
  obtain ⟨hheader, hlen, -⟩ := eq_of_decode h
  obtain ⟨hheader', hlen', -⟩ := eq_of_decode h'
  obtain ⟨-, -, -, hclass, haddresses, -⟩ := GdpHeader.eq_of_decode hheader
  obtain ⟨-, -, -, hclass', haddresses', -⟩ := GdpHeader.eq_of_decode hheader'
  obtain ⟨hform, -⟩ := GdpHeader.eq_of_decodeAddresses haddresses
  obtain ⟨hform', -⟩ := GdpHeader.eq_of_decodeAddresses haddresses'
  have hsize : packet'.header.sizeClass = packet.header.sizeClass :=
    Except.ok.inj (hclass'.symm.trans hclass)
  have hheaderLen : packet'.header.headerLen = packet.header.headerLen := by
    rw [hsize] at hlen'
    omega
  have hsame : packet'.header.addresses.form = packet.header.addresses.form := by
    rw [GdpHeader.headerLen, GdpHeader.headerLen] at hheaderLen
    cases haddr : packet.header.addresses with
    | «global» =>
      cases haddr' : packet'.header.addresses with
      | «global» => rfl
      | «local» => simp [haddr, haddr'] at hheaderLen
    | «local» =>
      cases haddr' : packet'.header.addresses with
      | «global» => simp [haddr, haddr'] at hheaderLen
      | «local» => rfl
  rw [hform, hform'] at hsame
  exact GdpWireConfig.eq_of_formFromBit hsame

/-- The bytes of a packet that was decoded are those it was decoded from, without the bits that
are ignored. -/
theorem wire_of_decode (h : decode buf cfg localPrefix = .ok packet) :
  packet.wire cfg = clearIgnored packet.header.addresses.form buf
  := by
  obtain ⟨hheader, -, hpayload⟩ := eq_of_decode h
  obtain ⟨-, -, -, -, haddresses, -⟩ := GdpHeader.eq_of_decode hheader
  obtain ⟨-, -, hbytes, -⟩ := GdpHeader.eq_of_decodeAddresses haddresses
  rw [wire, clearIgnored, GdpHeader.word1_of_decode hheader, hpayload, hbytes]

/-- A canonical packet is encoded in the bytes of its header and of its size class, which decode
to it.  Whatever decodes to a packet is what the packet is encoded in, but for the bits that are
ignored. -/
theorem codec (cfg : GdpWireConfig) (localPrefix : U64) :
  (∀ packet : GdpPacket, packet.header.Canonical localPrefix →
    packet.payload.length = packet.header.sizeClass.bytes →
    ∃ bytes, packet.encode cfg = .ok bytes ∧
      bytes.length = packet.header.headerLen + packet.header.sizeClass.bytes ∧
      decode bytes cfg localPrefix = .ok packet) ∧
  ∀ buf packet, decode buf cfg localPrefix = .ok packet →
    packet.encode cfg = .ok (clearIgnored packet.header.addresses.form buf)
  := by
  constructor
  · intro packet hheader hlen
    have hcanonical : packet.Canonical localPrefix := ⟨hheader, hlen⟩
    refine ⟨packet.wire cfg, encode_of_canonical hcanonical cfg, ?_, decode_wire hcanonical cfg⟩
    rw [length_wire, hlen]
  · intro buf packet h
    rw [encode_of_canonical (canonical_of_decode h), wire_of_decode h]

/-- A packet in the local form. -/
def sample : GdpPacket :=
  ⟨⟨1#8, .gts, .tiny3, 5#8, .local 0x1234#16 0x5678#16 0xabcd0000#64⟩, [1#8, 2#8, 3#8]⟩

theorem canonical_sample :
  sample.header.Canonical 0xabcd0000#64
  := by
  refine ⟨by decide, ⟨2#8, rfl⟩, ?_⟩
  rintro _ _ _ ⟨⟩
  decide

theorem codec_sample :
  (∃ bytes, sample.encode ⟨true⟩ = .ok bytes ∧ bytes.length = 11 ∧
    decode bytes ⟨true⟩ 0xabcd0000#64 = .ok sample) ∧
  sample.encode ⟨true⟩ = .ok [0x48#8, 0x60#8, 0x20#8, 0x05#8, 0x12#8, 0x34#8, 0x56#8, 0x78#8,
    1#8, 2#8, 3#8]
  := by
  constructor
  · apply (codec ⟨true⟩ 0xabcd0000#64).1
    · exact canonical_sample
    · rfl
  · exact (codec ⟨true⟩ 0xabcd0000#64).2 [0x48#8, 0x7f#8, 0x20#8, 0xf5#8, 0x12#8, 0x34#8, 0x56#8,
      0x78#8, 1#8, 2#8, 3#8] sample (by decide +kernel)

/-- A packet may be put together with a payload of another length, and then it is not encoded. -/
theorem not_encode_of_canonical_header :
  ¬ ∀ (cfg : GdpWireConfig) (localPrefix : U64) (packet : GdpPacket),
    packet.header.Canonical localPrefix → ∃ bytes, packet.encode cfg = .ok bytes
  := by
  intro h
  obtain ⟨bytes, hbytes⟩ := h ⟨true⟩ 0xabcd0000#64 { sample with payload := [] } canonical_sample
  cases hbytes

end GdpPacket

end SmolGnet
