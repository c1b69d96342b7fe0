import SmolGnet.Wire.GdpDecode
import SmolGnet.Wire.GtsCodec

/-!
# Errors that the checksums catch

The bytes of a packet that is decoded bring the register of its checksum to one fixed value, whatever
the packet.  So of two byte strings that differ in a short burst of bits only one is decoded.

For a transport packet this is the whole packet, if its stream has no unchecked messages.  For a network
packet it is the header without the hop limit and the reserved bits; the bit that says how long the
header is also changes what the checksum covers, but then the length of the packet is wrong.
-/

namespace SmolGnet

open Octets ShiftRegister

/-! ### Transport packets -/

namespace GtsPacket

variable {ctx : GtsContext} {profile : Option StreamProfile} {buf buf' : Bytes}

/-- The checksum covers the messages of the stream. -/
def Checked (profile : Option StreamProfile) : Prop :=
  ∀ sp, profile = some sp → ¬ (sp.unreliable = true ∧ sp.uncheckedPayload = true)

theorem uncheckedMessage_of_checked (h : Checked profile) (ty : GtsType) :
  uncheckedMessage profile ty = false
  := by
  rw [uncheckedMessage]
  cases profile with
  | none => rfl
  | some sp =>
    have hsp := h sp rfl
    rw [← Bool.and_eq_true, Bool.not_eq_true] at hsp
    rw [Option.map_some, Option.getD_some, hsp, Bool.false_and]

/-- The last four bytes of a packet that is decoded are the checksum of the others. -/
theorem crc_of_decode {packet : GtsPacket} (hchecked : Checked profile)
    (h : decode buf ctx profile = .ok packet) :
  5 ≤ buf.length ∧
    fromBeBytes 32 (buf.drop (buf.length - 4)) = computeCrc ctx (buf.take (buf.length - 4))
  := by
  rw [decode] at h
  split at h
  · cases h
  next hlen =>
  rw [bind_eq_ok] at h
  obtain ⟨lower, -, h⟩ := h
  rw [finishDecode, bind_eq_ok] at h
  obtain ⟨read, -, h⟩ := h
  dsimp only at h
  simp only [uncheckedMessage_of_checked hchecked, Bool.false_eq_true, if_false] at h
  split at h
  · cases h
  next hcrc =>
  exact ⟨by omega, not_not.mp hcrc⟩

theorem computeCrc_eq_run (ctx : GtsContext) (bytes : Bytes) :
  computeCrc ctx bytes
    = run 0x04c11db7#32 (pseudoHeader ctx).value (bits bytes) ^^^ 0xffffffff#32
  := by
  rw [computeCrc_eq, Crc32.updateBytes_eq, Crc32.finalize]

/-- A packet that is decoded brings the register to a fixed value. -/
theorem run_of_decode {packet : GtsPacket} (hchecked : Checked profile)
    (h : decode buf ctx profile = .ok packet) :
  run 0x04c11db7#32 (pseudoHeader ctx).value (bits buf)
    = (ShiftRegister.shift 0x04c11db7#32)^[32] 0xffffffff#32
  := by
  obtain ⟨hlen, hcrc⟩ := crc_of_decode hchecked h
  have hlast : 8 * (buf.drop (buf.length - 4)).length = 32 := by
    rw [List.length_drop]
    omega
  conv_lhs => rw [← List.take_append_drop (buf.length - 4) buf]
  rw [bits_append, run_append, bits_eq_lowBits hlast, run_lowBits, hcrc, computeCrc_eq_run,
    ← BitVec.xor_assoc, BitVec.xor_self, BitVec.zero_xor]

/-- A packet that is changed inside a window of 32 bits is not decoded any more, unless its stream has
unchecked messages. -/
theorem decode_error_of_burst (hchecked : Checked profile) {packet : GtsPacket}
    (h : decode buf ctx profile = .ok packet) {start : ℕ} (hburst : ChangedWithin 32 start buf buf') :
  ∃ err, decode buf' ctx profile = .error err
  := by
  cases h' : decode buf' ctx profile with
  | error err => exact ⟨err, rfl⟩
  | ok packet' =>
    have hrun := run_of_decode hchecked h
    rw [← run_of_decode hchecked h'] at hrun
    exact absurd hrun (run_ne_of_burst (by decide) _ hburst.burst)

/-- The request to close a tunnel, changed in the last byte of its padding and in its checksum. -/
theorem decode_error_of_burst_sample :
  ∃ err, decode ([10#8, 0#8, 0#8, 0#8, 5#8] ++ List.replicate 22 0#8
    ++ ([1#8, 144#8, 249#8, 16#8] ++ [212#8])) ⟨1#8, .ctrl32, ⟨1#64⟩, ⟨2#64⟩⟩ none = .error err
  := by
  have hburst := @changedWithin_of_digits 8 ([10#8, 0#8, 0#8, 0#8, 5#8] ++ List.replicate 22 0#8)
    [0#8, 145#8, 249#8, 16#8] [1#8, 144#8, 249#8, 16#8] [212#8] rfl (by decide)
  have h : decode ([10#8, 0#8, 0#8, 0#8, 5#8] ++ List.replicate 22 0#8
      ++ ([0#8, 145#8, 249#8, 16#8] ++ [212#8])) ⟨1#8, .ctrl32, ⟨1#64⟩, ⟨2#64⟩⟩ none
        = .ok (.tunnelClose 5#32 false) := by decide +kernel
  apply decode_error_of_burst _ h hburst
  intro sp hsp
  cases hsp

end GtsPacket

/-! ### Network packets -/

namespace GdpHeader

/-- What the checksum of a header in the given form covers, and the checksum. -/
def codeword (headerLen : ℕ) (buf : Bytes) : List Bool :=
  slice (bits buf) 0 11 ++ (slice (bits buf) 32 (8 * headerLen - 32) ++ slice (bits buf) 16 8)

/-- The fields of the first word. -/
theorem slice_firstWord {buf : Bytes} (hlen : 4 ≤ buf.length) {off n : ℕ} (hfit : off + n ≤ 32) :
  slice (bits buf) off n = lowBits (firstWord buf >>> (32 - off - n)) n
  := by
  have hword : 8 * (slice buf 0 4).length = 32 := by
    rw [slice, List.length_take, List.drop_zero]
    omega
  have hbits : slice (bits buf) 0 32 = lowBits (firstWord buf) 32 := by
    rw [firstWord, ← bits_eq_lowBits hword, bits_slice]
  have hsplit : lowBits (firstWord buf) 32
      = lowBits (firstWord buf >>> (32 - off)) off
        ++ (lowBits (firstWord buf >>> (32 - off - n)) n
          ++ lowBits (firstWord buf) (32 - off - n)) := by
    rw [← lowBits_add, Nat.add_sub_cancel' (by omega), ← lowBits_add,
      Nat.add_sub_cancel' (by omega)]
  have hslice : slice (bits buf) off n = slice (slice (bits buf) 0 32) off n := by
    apply List.ext_getElem?
    intro i
    simp only [slice, List.getElem?_take, List.getElem?_drop, Nat.zero_add]
    split
    · rw [if_pos (by omega)]
    · rfl
  rw [hslice, hbits, hsplit, slice, List.drop_left' (length_lowBits _ _),
    List.take_left' (length_lowBits _ _)]

theorem formBit_field (word : U32) :
  (word >>> 21 &&& 1#32 != 0#32) = word.getLsbD 21
  := by
  have htop := and_twoPow_ne_zero (word >>> 21) 0
  rw [BitVec.getLsbD_ushiftRight, Nat.add_zero] at htop
  rw [Bool.eq_iff_iff, bne_iff_ne]
  exact htop

/-- The addresses are fed as the bytes that they are encoded in. -/
theorem crc8_eq_run (header : GdpHeader) (cfg : GdpWireConfig) :
  header.crc8 cfg = run 0x07#8 0#8 (lowBits ((header.version &&& 0x03#8).setWidth 64) 2
    ++ (lowBits (header.packetType.toWire.setWidth 64) 4
    ++ (lowBits (header.sizeClass.toWire.setWidth 64) 4
    ++ ([cfg.formBit header.addresses.form] ++ bits header.addressBytes))))
  := by
  have hbytes : ∀ {w : ℕ} (v : BitVec w), 8 * (w / 8) = w → bits (toBeBytes v) = lowBits v w := by
    intro w v hw
    rw [bits_eq_lowBits (by rw [length_toBeBytes, hw]), fromBeBytes_toBeBytes hw]
  rw [crc8]
  simp only [Crc8.updateBits_eq, Crc8.updateBit_eq, run_append, Crc8.new, Crc8.finalize]
  cases haddresses : header.addresses with
  | «global» destination source =>
    rw [addressBytes, haddresses]
    simp only [bits_append, run_append, hbytes _ (show 8 * (64 / 8) = 64 from rfl)]
    rfl
  | «local» destination source p =>
    have hids : lowBits (idsWord destination source) 32
        = lowBits (destination.setWidth 64) 16 ++ lowBits (source.setWidth 64) 16 := by
      rw [lowBits_setWidth _ (by decide), lowBits_setWidth _ (by decide)]
      refine (lowBits_add _ 16 16).trans ?_
      congr 1
      · rw [lowBits_congr]
        intro i hi
        simp [idsWord, show 16 + i < 32 by omega, hi]
      · rw [lowBits_congr]
        intro i hi
        simp [idsWord, show i < 32 by omega, hi]
    rw [addressBytes, haddresses]
    simp only [hbytes _ (show 8 * (32 / 8) = 32 from rfl), hids, run_append]
    rfl

section Decoded

variable {buf buf' : Bytes} {cfg : GdpWireConfig} {localPrefix : U64} {header header' : GdpHeader}

/-- The first bits are the fields that the checksum covers, as they are fed. -/
theorem slice_fields_of_decode (h : decode buf cfg localPrefix = .ok header) :
  slice (bits buf) 0 11
    = lowBits ((header.version &&& 0x03#8).setWidth 64) 2
      ++ (lowBits (header.packetType.toWire.setWidth 64) 4
      ++ (lowBits (header.sizeClass.toWire.setWidth 64) 4
      ++ [cfg.formBit header.addresses.form]))
  := by
  obtain ⟨hlen, hversion, htype, hclass, haddresses, -⟩ := eq_of_decode h
  obtain ⟨hform, -⟩ := eq_of_decodeAddresses haddresses
  have hsplit : lowBits (firstWord buf >>> 21) 11
      = lowBits (firstWord buf >>> 30) 2 ++ (lowBits (firstWord buf >>> 26) 4
        ++ (lowBits (firstWord buf >>> 22) 4 ++ lowBits (firstWord buf >>> 21) 1)) := by
    rw [show (11 : ℕ) = 2 + (4 + (4 + 1)) from rfl]
    simp only [lowBits_add, ← BitVec.shiftRight_add]
  rw [@slice_firstWord buf hlen 0 11 (by decide), hsplit, hversion, htype, GdpType.toWire_fromWire,
    and_fifteen_field, SizeClass.toWire_of_fromWire hclass, and_fifteen_field, hform,
    GdpWireConfig.formBit_formFromBit, formBit_field]
  congr 1
  · rw [lowBits_congr]
    intro i hi
    interval_cases i <;> simp
  · congr 1
    · rw [lowBits_congr]
      intro i hi
      interval_cases i <;> simp
    · congr 1
      · rw [lowBits_congr]
        intro i hi
        interval_cases i <;> simp

/-- The bits of the addresses. -/
theorem slice_addresses_of_decode (h : decode buf cfg localPrefix = .ok header) :
  slice (bits buf) 32 (8 * header.headerLen - 32) = bits header.addressBytes
  := by
  obtain ⟨-, -, -, -, haddresses, -⟩ := eq_of_decode h
  obtain ⟨-, -, hbytes, -, -⟩ := eq_of_decodeAddresses haddresses
  have hlength : (bits header.addressBytes).length = 8 * header.headerLen - 32 := by
    rw [length_bits, header.headerLen_eq]
    omega
  rw [slice, ← bits_drop buf 4, ← hbytes, bits_append, List.take_left' hlength]

/-- The bits of the checksum. -/
theorem slice_checksum_of_decode (h : decode buf cfg localPrefix = .ok header) :
  slice (bits buf) 16 8 = lowBits (header.crc8 cfg) 8
  := by
  obtain ⟨hlen, -, -, -, -, hcrc⟩ := eq_of_decode h
  rw [@slice_firstWord buf hlen 16 8 (by decide), hcrc, lowBits_congr]
  intro i hi
  interval_cases i <;> simp

/-- A header that is decoded brings the register to zero. -/
theorem run_codeword_of_decode (h : decode buf cfg localPrefix = .ok header) :
  run 0x07#8 0#8 (codeword header.headerLen buf) = 0#8
  := by
  have hcovered : run 0x07#8 0#8 (slice (bits buf) 0 11 ++ bits header.addressBytes)
      = header.crc8 cfg := by
    rw [slice_fields_of_decode h, crc8_eq_run]
    simp only [List.append_assoc]
  rw [codeword, slice_addresses_of_decode h, slice_checksum_of_decode h, ← List.append_assoc,
    run_append, hcovered, run_lowBits, BitVec.xor_self]
  exact Function.iterate_fixed (shift_zero _) 8

/-- The form of a header that is decoded is what one bit says. -/
theorem same_form_iff (h : decode buf cfg localPrefix = .ok header)
    (h' : decode buf' cfg localPrefix = .ok header') :
  header.addresses.form = header'.addresses.form ↔
    slice (bits buf) 10 1 = slice (bits buf') 10 1
  := by
  obtain ⟨hlen, -, -, -, haddresses, -⟩ := eq_of_decode h
  obtain ⟨hlen', -, -, -, haddresses', -⟩ := eq_of_decode h'
  rw [(eq_of_decodeAddresses haddresses).1, (eq_of_decodeAddresses haddresses').1,
    formBit_field, formBit_field, slice_firstWord hlen (by decide), slice_firstWord hlen' (by decide)]
  constructor
  · intro hform
    have hbit := congrArg cfg.formBit hform
    rw [GdpWireConfig.formBit_formFromBit, GdpWireConfig.formBit_formFromBit] at hbit
    simpa [lowBits] using hbit
  · intro hslice
    have hbit : (firstWord buf).getLsbD 21 = (firstWord buf').getLsbD 21 := by
      simpa [lowBits] using hslice
    rw [hbit]

/-- The class of a header that is decoded is what four bits say. -/
theorem same_sizeClass (h : decode buf cfg localPrefix = .ok header)
    (h' : decode buf' cfg localPrefix = .ok header')
    (hslice : slice (bits buf) 6 4 = slice (bits buf') 6 4) :
  header.sizeClass = header'.sizeClass
  := by
  obtain ⟨hlen, -, -, hclass, -, -⟩ := eq_of_decode h
  obtain ⟨hlen', -, -, hclass', -, -⟩ := eq_of_decode h'
  rw [slice_firstWord hlen (by decide), slice_firstWord hlen' (by decide), lowBits_congr] at hslice
  have hfield : firstWord buf >>> 22 &&& 0x0f#32 = firstWord buf' >>> 22 &&& 0x0f#32 := by
    apply BitVec.eq_of_getLsbD_eq
    intro i hi
    rw [BitVec.getLsbD_and, BitVec.getLsbD_and]
    by_cases hlt : i < 4
    · rw [hslice i hlt]
    · have hmask : ∀ i, i < 32 → ¬ i < 4 → (0x0f#32).getLsbD i = false := by decide
      rw [hmask i hi hlt, Bool.and_false, Bool.and_false]
  rw [hfield, hclass'] at hclass
  exact (Except.ok.inj hclass).symm

theorem headerLen_of_form (header : GdpHeader) :
  header.headerLen = if header.addresses.form = .global then 20 else 8
  := by
  rw [headerLen]
  cases header.addresses with
  | «global» destination source => rfl
  | «local» destination source p => rfl

/-- A change of bits that a codeword consists of. -/
theorem burst_codeword {n start headerLen : ℕ} (h : ChangedWithin n start buf buf')
    (hwindow : start + n ≤ 11 ∨ (32 ≤ start ∧ start + n ≤ 8 * headerLen) ∨
      (16 ≤ start ∧ start + n ≤ 24)) :
  Burst n (codeword headerLen buf) (codeword headerLen buf')
  := by
  have hlen := h.length_bits
  have hne := h.bits_ne
  have hsame := h.2.2
  rw [codeword, codeword]
  rcases hwindow with hfields | haddresses | hchecksum
  · have hfirst := @burst_slice _ n start 0 11 _ _ hlen hne hsame (by omega) (by omega)
    rw [@slice_eq_of_apart _ n start 32 (8 * headerLen - 32) _ _ hsame (by omega),
      @slice_eq_of_apart _ n start 16 8 _ _ hsame (by omega)]
    exact hfirst.append_right _
  · have hsecond := @burst_slice _ n start 32 (8 * headerLen - 32) _ _ hlen hne hsame (by omega)
      (by omega)
    rw [@slice_eq_of_apart _ n start 0 11 _ _ hsame (by omega),
      @slice_eq_of_apart _ n start 16 8 _ _ hsame (by omega)]
    exact (hsecond.append_right _).append_left _
  · have hthird := @burst_slice _ n start 16 8 _ _ hlen hne hsame (by omega) (by omega)
    rw [@slice_eq_of_apart _ n start 0 11 _ _ hsame (by omega),
      @slice_eq_of_apart _ n start 32 (8 * headerLen - 32) _ _ hsame (by omega)]
    exact (hthird.append_left _).append_left _

/-- A header that is changed in bits that a codeword consists of, and not in the bit for its form, is not
decoded any more. -/
theorem not_decoded_of_change (h : decode buf cfg localPrefix = .ok header)
    (h' : decode buf' cfg localPrefix = .ok header') {n start : ℕ} (hn : n ≤ 8)
    (hchanged : ChangedWithin n start buf buf') (hapart : start + n ≤ 10 ∨ 11 ≤ start)
    (hwindow : start + n ≤ 11 ∨ (32 ≤ start ∧ start + n ≤ 8 * header.headerLen) ∨
      (16 ≤ start ∧ start + n ≤ 24)) :
  False
  := by
  have hsame : header'.headerLen = header.headerLen := by
    rw [headerLen_of_form, headerLen_of_form,
      (same_form_iff h h').mpr (slice_eq_of_apart hchanged.2.2 (by omega))]
  have hrun := run_codeword_of_decode h
  have hrun' := run_codeword_of_decode h'
  rw [hsame] at hrun'
  have hburst := (burst_codeword hchanged hwindow).mono hn
  exact run_ne_of_burst (p := 0x07#8) (by decide) 0#8 hburst (hrun.trans hrun'.symm)

end Decoded

end GdpHeader

namespace GdpPacket

variable {buf buf' : Bytes} {cfg : GdpWireConfig} {localPrefix : U64} {packet : GdpPacket}

/-- When the bit for the form is changed, the length of the packet is wrong. -/
theorem not_decoded_of_formBit {packet' : GdpPacket} (h : decode buf cfg localPrefix = .ok packet)
    (h' : decode buf' cfg localPrefix = .ok packet') (hchanged : ChangedWithin 1 10 buf buf') :
  False
  := by
  obtain ⟨hheader, hlen, -⟩ := eq_of_decode h
  obtain ⟨hheader', hlen', -⟩ := eq_of_decode h'
  have hclass := GdpHeader.same_sizeClass hheader hheader'
    (slice_eq_of_apart hchanged.2.2 (by omega))
  have hother : packet.header.addresses.form ≠ packet'.header.addresses.form := by
    intro heq
    have hburst := @burst_slice _ 1 10 10 1 _ _ hchanged.length_bits hchanged.bits_ne
      hchanged.2.2 (by omega) (by omega)
    exact hburst.2.1 ((GdpHeader.same_form_iff hheader hheader').mp heq)
  rw [hchanged.1, hlen', hclass, GdpHeader.headerLen_of_form, GdpHeader.headerLen_of_form] at hlen
  cases hf : packet.header.addresses.form with
  | «global» =>
    cases hf' : packet'.header.addresses.form with
    | «global» => exact hother (hf.trans hf'.symm)
    | «local» => simp [hf, hf'] at hlen
  | «local» =>
    cases hf' : packet'.header.addresses.form with
    | «global» => simp [hf, hf'] at hlen
    | «local» => exact hother (hf.trans hf'.symm)

/-- A packet of which a bit of the header is changed that is neither reserved nor one of the hop limit,
or of which a few bits next to each other in the addresses are changed, is not decoded any more. -/
theorem decode_error_of_change (h : decode buf cfg localPrefix = .ok packet)
    (hchange : (∃ j, j < 8 * packet.header.headerLen ∧ ¬ (11 ≤ j ∧ j < 16) ∧ ¬ (24 ≤ j ∧ j < 32) ∧
        ChangedWithin 1 j buf buf') ∨
      ∃ start, 32 ≤ start ∧ start + 8 ≤ 8 * packet.header.headerLen ∧
        ChangedWithin 8 start buf buf') :
  ∃ err, decode buf' cfg localPrefix = .error err
  := by
  cases h' : decode buf' cfg localPrefix with
  | error err => exact ⟨err, rfl⟩
  | ok packet' =>
    exfalso
    obtain ⟨hheader, -⟩ := eq_of_decode h
    obtain ⟨hheader', -⟩ := eq_of_decode h'
    rcases hchange with ⟨j, hj, hreserved, hhop, hchanged⟩ | ⟨start, hstart, hfit, hchanged⟩
    · by_cases hbit : j = 10
      · subst hbit
        exact not_decoded_of_formBit h h' hchanged
      · exact GdpHeader.not_decoded_of_change hheader hheader' (by decide) hchanged (by omega)
          (by omega)
    · exact GdpHeader.not_decoded_of_change hheader hheader' (by decide) hchanged (by omega) (by omega)

/-- The form bit of a packet, and then two bits of an address. -/
theorem decode_error_of_change_sample :
  (∃ err, decode [0x48#8, 0x5f#8, 0x20#8, 0xf5#8, 0x12#8, 0x34#8, 0x56#8, 0x78#8, 1#8, 2#8, 3#8]
    ⟨true⟩ 0xabcd0000#64 = .error err) ∧
  ∃ err, decode [0x48#8, 0x7f#8, 0x20#8, 0xf5#8, 0x12#8, 0x35#8, 0xd6#8, 0x78#8, 1#8, 2#8, 3#8]
    ⟨true⟩ 0xabcd0000#64 = .error err
  := by
  have h : decode [0x48#8, 0x7f#8, 0x20#8, 0xf5#8, 0x12#8, 0x34#8, 0x56#8, 0x78#8, 1#8, 2#8, 3#8]
      ⟨true⟩ 0xabcd0000#64 = .ok sample := by decide +kernel
  constructor
  · exact decode_error_of_change h
      (.inl ⟨10, by decide, by decide, by decide, rfl, by decide, by decide +kernel⟩)
  · exact decode_error_of_change h
      (.inr ⟨46, by decide, by decide, rfl, by decide, by decide +kernel⟩)

end GdpPacket

end SmolGnet
