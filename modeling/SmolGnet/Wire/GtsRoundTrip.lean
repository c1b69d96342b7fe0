import SmolGnet.Wire.GtsCodec

/-!
# Reading GTS packets back

`Layout` says what a packet looks like: its fixed fields, what follows them, and how far the checksum
covers them.  The encoder writes packets that are laid out with zeros as padding, and the decoder
accepts packets that are laid out with any padding.  So what was encoded is decoded to the same
packet, and what was decoded is encoded to the same bytes exactly if its padding is zero.
-/

namespace SmolGnet

open Octets

/-! ### Profiles -/

theorem ofBool_and_twoPow (v : U16) {i : ℕ} (hi : i < 16) :
  (BitVec.ofBool (v &&& BitVec.twoPow 16 i ≠ 0#16)).setWidth 16 <<< i = v &&& BitVec.twoPow 16 i
  := by
  have hne : BitVec.twoPow 16 i ≠ 0#16 := by
    revert hi
    revert i
    decide
  rw [BitVec.and_twoPow]
  split
  · rw [decide_eq_true hne]
    rfl
  · simp

theorem Direction.bits_of_fromBits {v : U16} {d : Direction} (h : fromBits v = .ok d) :
  d.bits = v
  := by
  rw [fromBits] at h
  split at h
  · next hv =>
    cases h
    exact hv.symm
  split at h
  · next hv =>
    cases h
    exact hv.symm
  split at h
  · next hv =>
    cases h
    exact hv.symm
  · cases h

namespace StreamProfile

/-- The bits of a profile. -/
def pack (p : StreamProfile) : U16 :=
  ((BitVec.ofBool p.unreliable).setWidth 16 <<< 15)
    ||| ((BitVec.ofBool p.variableLen).setWidth 16 <<< 14)
    ||| ((BitVec.ofBool p.sequenced).setWidth 16 <<< 13)
    ||| ((BitVec.ofBool p.uncheckedPayload).setWidth 16 <<< 12)
    ||| (p.direction.bits <<< 10)
    ||| p.sizeClass.toWire.setWidth 16

theorem toWire_eq_ok_iff {p : StreamProfile} {v : U16} :
  p.toWire = .ok v ↔ p.validate = .ok p ∧ p.pack = v
  := by
  rw [toWire, bind_eq_ok]
  constructor
  · rintro ⟨q, hvalid, h⟩
    cases h
    rw [validate_eq_ok hvalid] at hvalid
    exact ⟨hvalid, rfl⟩
  · rintro ⟨hvalid, rfl⟩
    exact ⟨p, hvalid, rfl⟩

/-- The parts of the bits of a profile. -/
theorem pack_parts (p : StreamProfile) :
  p.pack &&& 0x03f0#16 = 0#16 ∧ (p.pack >>> 10) &&& 3#16 = p.direction.bits ∧
    (p.pack &&& 0xf#16).setWidth 8 = p.sizeClass.toWire ∧
    (p.pack &&& 0x8000#16 ≠ 0#16 : Bool) = p.unreliable ∧
    (p.pack &&& 0x4000#16 ≠ 0#16 : Bool) = p.variableLen ∧
    (p.pack &&& 0x2000#16 ≠ 0#16 : Bool) = p.sequenced ∧
    (p.pack &&& 0x1000#16 ≠ 0#16 : Bool) = p.uncheckedPayload
  := by
  obtain ⟨a, b, c, d, direction, sizeClass⟩ := p
  have hclass : sizeClass ∈ SizeClass.all := by cases sizeClass <;> decide
  revert a b c d
  revert hclass
  revert sizeClass
  cases direction
  all_goals decide +kernel

/-- A profile is read from its bits, and from no other bits. -/
theorem fromWire_eq_ok_iff {v : U16} {p : StreamProfile} :
  fromWire v = .ok p ↔ p.toWire = .ok v
  := by
  rw [toWire_eq_ok_iff, fromWire]
  constructor
  · intro h
    split at h
    · cases h
    next hreserved =>
    rw [not_not] at hreserved
    obtain ⟨direction, hdirection, h⟩ := bind_eq_ok.mp h
    obtain ⟨sizeClass, hclass, h⟩ := bind_eq_ok.mp h
    cases validate_eq_ok h
    refine ⟨h, ?_⟩
    have hlow : (sizeClass.toWire).setWidth 16 = v &&& 0xf#16 := by
      rw [SizeClass.toWire_of_fromWire hclass]
      apply BitVec.eq_of_toNat_eq
      simp [BitVec.toNat_and, Nat.and_two_pow_sub_one_eq_mod _ 4]
    have hmiddle : direction.bits <<< 10 = v &&& 0x0c00#16 := by
      rw [Direction.bits_of_fromBits hdirection, BitVec.shiftLeft_and_distrib,
        BitVec.shiftLeft_ushiftRight, BitVec.and_assoc]
      rfl
    have hall : v = v &&& 0xfc0f#16 := by
      have hv : v = v &&& (0xfc0f#16 ||| 0x03f0#16) := (BitVec.and_allOnes).symm
      rw [BitVec.and_or_distrib_left, hreserved, BitVec.or_zero] at hv
      exact hv
    have h15 := ofBool_and_twoPow v (i := 15) (by decide)
    have h14 := ofBool_and_twoPow v (i := 14) (by decide)
    have h13 := ofBool_and_twoPow v (i := 13) (by decide)
    have h12 := ofBool_and_twoPow v (i := 12) (by decide)
    calc
      pack _
      _ = (v &&& 0x8000#16) ||| (v &&& 0x4000#16) ||| (v &&& 0x2000#16) ||| (v &&& 0x1000#16)
          ||| (v &&& 0x0c00#16) ||| (v &&& 0xf#16) := by
        rw [← hlow, ← hmiddle, pack]
        exact congrArg (· ||| _) (congrArg (· ||| _)
          (congrArg₂ (· ||| ·) (congrArg₂ (· ||| ·) (congrArg₂ (· ||| ·) h15 h14) h13) h12))
      _ = v &&& 0xfc0f#16 := by
        simp only [← BitVec.and_or_distrib_left]
        rfl
      _ = v := hall.symm
  · rintro ⟨hvalid, rfl⟩
    obtain ⟨hreserved, hdirection, hclass, hu, hv, hs, hc⟩ := p.pack_parts
    have hbits : Direction.fromBits p.direction.bits = .ok p.direction := by
      cases p.direction <;> rfl
    have hsize : SizeClass.fromWire p.sizeClass.toWire = .ok p.sizeClass := by
      cases p.sizeClass <;> rfl
    rw [if_neg (not_not.mpr hreserved), hdirection, hbits, ok_bind, hclass, hsize, ok_bind, hu, hv,
      hs, hc]
    exact hvalid

end StreamProfile

/-! ### What a packet looks like -/

/-- Nothing but zeros. -/
def Zeros (bytes : Bytes) : Prop :=
  ∀ b ∈ bytes, b = 0#8

/-- Messages of streams with the profile, reliable or not, travel in packets of the class. -/
structure Admits (ctx : GtsContext) (profile : Option StreamProfile) (unreliable : Bool)
    (sp : StreamProfile) : Prop where
  known : profile = some sp
  valid : sp.validate = .ok sp
  unreliable_eq : sp.unreliable = unreliable
  fixed : sp.variableLen = false → ctx.sizeClass = sp.sizeClass
  limited : sp.variableLen = true → ctx.sizeClass.toWire ≤ sp.sizeClass.toWire

/-- The bytes of a message: with a length they are the length, the message and zeros. -/
def MessageBytes (hasLength : Bool) (data bytes : Bytes) : Prop :=
  if hasLength then
    data.length < 2 ^ 16 ∧
      ∃ k, bytes = toBeBytes (BitVec.ofNat 16 data.length) ++ (data ++ List.replicate k 0#8)
  else bytes = data

/-- The fixed fields of a packet that has no others. -/
def GtsPacket.controlFields : GtsPacket → Option GtsLowerPacket
  | connectAck initiatorReceiveTunnel responderReceiveTunnel responderResetId status
      initialReceiveCredit =>
    some (.connectAck initiatorReceiveTunnel responderReceiveTunnel responderResetId status
      initialReceiveCredit 0#8)
  | streamAck tunnelId streamId status initialReceiveCredit =>
    some (.streamAck tunnelId streamId status initialReceiveCredit 0#8)
  | .ack tunnelId streamId ackBase receiveBitmap receiveCredit =>
    some (.ack tunnelId streamId ackBase receiveBitmap receiveCredit 0#8)
  | streamClose tunnelId streamId finalSequence isAck =>
    some (.streamClose tunnelId streamId finalSequence isAck)
  | tunnelClose tunnelId isAck => some (.tunnelClose tunnelId isAck)
  | reset tunnelId resetId reason => some (.reset tunnelId resetId reason)
  | streamReset tunnelId streamId reason isAck =>
    some (.streamReset tunnelId streamId reason 0#8 isAck)
  | _ => none

/-- A packet, its fixed fields, what is between them and the checksum, and how far the checksum
covers them.  The padding of packets without a message and a selector satisfies `pad`. -/
inductive Layout (pad : Bytes → Prop) (ctx : GtsContext) (profile : Option StreamProfile)
    (crcOff : ℕ) : GtsPacket → GtsLowerPacket → Bytes → ℕ → Prop where
  | control {packet : GtsPacket} {lower : GtsLowerPacket} {tail : Bytes}
      (hfields : packet.controlFields = some lower) (hpad : pad tail) :
      Layout pad ctx profile crcOff packet lower tail crcOff
  | streamOpen {tunnelId : U32} {streamId : U8} {sp : StreamProfile} {credit : U8} {wire : U16}
      {tail : Bytes} (hwire : sp.toWire = .ok wire)
      (hcredit : ¬ (sp.unreliable ∧ credit ≠ 0#8)) (hpad : pad tail) :
      Layout pad ctx profile crcOff (.streamOpen tunnelId streamId sp credit)
        (.streamOpen tunnelId streamId wire credit 0#8) tail crcOff
  | connect {tunnel resetId : U32} {sp : StreamProfile} {credit : U8} {css : ServiceSelector}
      {wire : U16} {bytes : Bytes} {k : ℕ} (hwire : sp.toWire = .ok wire)
      (hcredit : ¬ (sp.unreliable ∧ credit ≠ 0#8)) (hcss : css.Encoding bytes) :
      Layout pad ctx profile crcOff (.connect tunnel resetId sp credit css)
        (.connect tunnel resetId wire credit) (bytes ++ List.replicate k 0#8) crcOff
  | data {tunnelId : U32} {streamId : U8} {sequence : U32} {data : Bytes} {isEnd : Bool}
      {probe : U16} {tail : Bytes} {sp : StreamProfile} (hadmits : Admits ctx profile false sp)
      (hbytes : MessageBytes (sp.variableLen || isEnd) data (toBeBytes probe ++ tail)) :
      Layout pad ctx profile crcOff (.data tunnelId streamId sequence data isEnd)
        (.data tunnelId streamId sequence isEnd probe) tail crcOff
  | datagram {tunnelId : U32} {streamId : U8} {sequence : Option U32} {data : Bytes}
      {probe : Vector U8 6} {tail bytes : Bytes} {sp : StreamProfile}
      (hadmits : Admits ctx profile true sp) (hsequence : sequence.isSome = sp.sequenced)
      (hprobe : probe.toList ++ tail = sequence.elim [] toBeBytes ++ bytes)
      (hbytes : MessageBytes sp.variableLen data bytes) :
      Layout pad ctx profile crcOff (.datagram tunnelId streamId sequence data)
        (.datagram tunnelId streamId probe) tail
        (if sp.uncheckedPayload then
          6 + ((sequence.elim [] toBeBytes).length + if sp.variableLen then 2 else 0)
        else crcOff)

section

variable {pad : Bytes → Prop} {ctx : GtsContext} {profile : Option StreamProfile} {crcOff : ℕ}
  {packet : GtsPacket} {lower : GtsLowerPacket} {tail : Bytes} {coverage : ℕ}

/-- A packet with other padding. -/
theorem Layout.mono {pad' : Bytes → Prop} (hmono : ∀ bytes, pad bytes → pad' bytes)
    (h : Layout pad ctx profile crcOff packet lower tail coverage) :
  Layout pad' ctx profile crcOff packet lower tail coverage
  := by
  cases h with
  | control hfields hpad => exact .control hfields (hmono _ hpad)
  | streamOpen hwire hcredit hpad => exact .streamOpen hwire hcredit (hmono _ hpad)
  | connect hwire hcredit hcss => exact .connect hwire hcredit hcss
  | data hadmits hbytes => exact .data hadmits hbytes
  | datagram hadmits hsequence hprobe hbytes => exact .datagram hadmits hsequence hprobe hbytes

theorem layout_control_iff {fields : GtsLowerPacket} (hfields : packet.controlFields = some fields) :
  Layout pad ctx profile crcOff packet lower tail coverage ↔
    lower = fields ∧ pad tail ∧ coverage = crcOff
  := by
  constructor
  · intro h
    cases h with
    | control hfields' hpad =>
      rw [hfields] at hfields'
      cases hfields'
      exact ⟨rfl, hpad, rfl⟩
    | streamOpen => cases hfields
    | connect => cases hfields
    | data => cases hfields
    | datagram => cases hfields
  · rintro ⟨rfl, hpad, rfl⟩
    exact .control hfields hpad

end

/-! ### Messages -/

theorem zeros_replicate (k : ℕ) :
  Zeros (List.replicate k 0#8)
  := fun _ hb => List.eq_of_mem_replicate hb

theorem Zeros.eq_replicate {bytes : Bytes} (h : Zeros bytes) :
  bytes = List.replicate bytes.length 0#8
  := List.eq_replicate_iff.mpr ⟨rfl, h⟩

/-- What the test for bytes other than zero finds. -/
theorem any_ne_zero_iff {bytes : Bytes} :
  bytes.any (fun b => b ≠ 0#8) = false ↔ Zeros bytes
  := by
  simp [Zeros]

theorem messageBytes_false {data bytes : Bytes} :
  MessageBytes false data bytes ↔ bytes = data
  := by
  rw [MessageBytes, if_neg (by decide)]

theorem messageBytes_true {data bytes : Bytes} :
  MessageBytes true data bytes ↔ data.length < 2 ^ 16 ∧
    ∃ k, bytes = toBeBytes (BitVec.ofNat 16 data.length) ++ (data ++ List.replicate k 0#8)
  := by
  rw [MessageBytes, if_pos rfl]

theorem lengthOption_eq_ok_iff {data : Bytes} {n : U16} :
  lengthOption data = .ok n ↔ data.length < 2 ^ 16 ∧ n = BitVec.ofNat 16 data.length
  := by
  rw [lengthOption]
  split
  · next h =>
    constructor
    · intro h'
      cases h'
    · rintro ⟨h', -⟩
      omega
  · next h =>
    constructor
    · intro h'
      cases h'
      exact ⟨by omega, rfl⟩
    · rintro ⟨-, rfl⟩
      rfl

/-- A message is written behind what is already there. -/
theorem placeMessage_eq_ok_iff {options data rest : Bytes} {m pos : ℕ} {hasLength : Bool}
    (hroom : 2 ≤ m) :
  placeMessage (options ++ List.replicate m 0#8) options.length data hasLength = .ok (rest, pos) ↔
    (∃ bytes, rest = options ++ bytes ∧ MessageBytes hasLength data bytes ∧ bytes.length = m) ∧
      pos = options.length + if hasLength then 2 else 0
  := by
  cases hasLength with
  | false =>
    rw [placeMessage, if_neg (by decide), if_neg (by decide), Nat.add_zero]
    simp only [messageBytes_false]
    change (if _ then _ else _) = _ ↔ _
    rw [List.length_append, List.length_replicate, copyInto_append rfl, List.drop_replicate]
    by_cases hlen : data.length = m
    · rw [if_neg (by omega), if_neg (by simp [hlen]), hlen, Nat.sub_self, List.replicate_zero,
        List.append_nil]
      constructor
      · intro h
        cases h
        exact ⟨⟨data, rfl, rfl, hlen⟩, rfl⟩
      · rintro ⟨⟨bytes, rfl, rfl, -⟩, rfl⟩
        rfl
    · constructor
      · intro h
        split at h
        · cases h
        · rw [if_pos (by simp [hlen])] at h
          cases h
      · rintro ⟨⟨bytes, -, rfl, hlen'⟩, -⟩
        exact absurd hlen' hlen
  | true =>
    rw [placeMessage, if_pos rfl, if_pos rfl]
    simp only [messageBytes_true]
    rw [bind_eq_ok]
    simp only [lengthOption_eq_ok_iff]
    constructor
    · rintro ⟨n, ⟨hshort, rfl⟩, h⟩
      change (if _ then _ else _) = _ at h
      rw [copyInto_append rfl, List.drop_replicate, length_toBeBytes, ← List.append_assoc] at h
      split at h
      · cases h
      next hfits =>
      rw [if_neg (by simp)] at h
      cases h
      have hpos : options.length + 2
          = (options ++ toBeBytes (BitVec.ofNat 16 data.length)).length := by
        rw [List.length_append, length_toBeBytes]
      simp only [List.length_append, length_toBeBytes, List.length_replicate] at hfits
      refine ⟨⟨_, ?_, ⟨hshort, m - 2 - data.length, rfl⟩, ?_⟩, rfl⟩
      · rw [hpos, copyInto_append rfl, List.drop_replicate, List.append_assoc]
      · simp only [List.length_append, length_toBeBytes, List.length_replicate]
        omega
    · rintro ⟨⟨bytes, rfl, ⟨hshort, k, rfl⟩, hlen⟩, rfl⟩
      refine ⟨_, ⟨hshort, rfl⟩, ?_⟩
      simp only [List.length_append, length_toBeBytes, List.length_replicate] at hlen
      have hpos : options.length + 2
          = (options ++ toBeBytes (BitVec.ofNat 16 data.length)).length := by
        rw [List.length_append, length_toBeBytes]
      change (if _ then _ else _) = _
      rw [copyInto_append rfl, List.drop_replicate, length_toBeBytes, ← List.append_assoc, hpos,
        if_neg, if_neg (by simp), copyInto_append rfl, List.drop_replicate, List.append_assoc,
        show m - 16 / 8 - data.length = k by omega]
      · simp only [List.length_append, length_toBeBytes, List.length_replicate]
        omega

/-- Where the checksum of a packet is. -/
theorem crcOff_eq {buf bytes crc : Bytes} {pos : ℕ} (hbuf : buf.drop pos = bytes ++ crc)
    (hcrc : crc.length = 4) :
  buf.length - 4 = pos + bytes.length
  := by
  have h := congrArg List.length hbuf
  rw [List.length_drop, List.length_append, hcrc] at h
  omega

/-- A message with a length is followed by zeros. -/
theorem takePayload_some_iff {buf body crc data : Bytes} {pos n : ℕ}
    (hbuf : buf.drop pos = body ++ crc) (hcrc : crc.length = 4) :
  takePayload buf (buf.length - 4) pos (some n) = .ok data ↔
    data.length = n ∧ ∃ k, body = data ++ List.replicate k 0#8
  := by
  have hcrcOff := crcOff_eq hbuf hcrc
  by_cases hn : n ≤ body.length
  · have hdata : slice buf pos n = body.take n := by
      rw [slice, hbuf, List.take_append_of_le_length hn]
    have hpadding : slice buf (pos + n) (pos + body.length - (pos + n)) = body.drop n := by
      rw [slice, ← List.drop_drop, hbuf, List.drop_append_of_le_length hn,
        List.take_left' (by rw [List.length_drop]; omega)]
    simp only [takePayload, Option.getD_some, Option.isSome_some, true_and, hcrcOff, hpadding,
      hdata]
    rw [if_neg (by omega)]
    constructor
    · intro h
      split at h
      · cases h
      next hzero =>
      cases h
      refine ⟨List.length_take_of_le hn, body.length - n, ?_⟩
      rw [← List.length_drop, ← (any_ne_zero_iff.mp (by simpa using hzero)).eq_replicate,
        List.take_append_drop]
    · rintro ⟨rfl, k, rfl⟩
      rw [List.drop_left, List.take_left, if_neg (by simp)]
  · constructor
    · intro h
      rw [takePayload, Option.getD_some, if_pos (by omega)] at h
      cases h
    · rintro ⟨rfl, k, rfl⟩
      simp at hn

/-- A message is taken from the bytes that it was written to. -/
theorem takePayload_eq_ok_iff {buf bytes crc data : Bytes} {pos : ℕ} {hasLength : Bool} {n : U16}
    (hbuf : buf.drop pos = bytes ++ crc) (hcrc : crc.length = 4)
    (hn : hasLength = true → toBeBytes n = bytes.take 2) :
  takePayload buf (buf.length - 4) (pos + if hasLength then 2 else 0)
      (if hasLength then some n.toNat else none) = .ok data ↔
    MessageBytes hasLength data bytes
  := by
  cases hasLength with
  | false =>
    have hdata : slice buf pos bytes.length = bytes := by rw [slice, hbuf, List.take_left]
    rw [if_neg (by decide), if_neg (by decide), Nat.add_zero, messageBytes_false, takePayload,
      crcOff_eq hbuf hcrc, Option.getD_none, Nat.add_sub_cancel_left, if_neg (Nat.lt_irrefl _),
      if_neg (by simp), hdata]
    exact Except.ok.injEq bytes data ▸ Iff.rfl
  | true =>
    have hbytes : bytes = toBeBytes n ++ bytes.drop 2 := by
      rw [hn rfl, List.take_append_drop]
    have hbody : buf.drop (pos + 2) = bytes.drop 2 ++ crc := by
      rw [hbytes, List.append_assoc] at hbuf
      exact (drop_eq_toBeBytes_append_iff.mp hbuf).2
    rw [if_pos rfl, if_pos rfl, messageBytes_true, takePayload_some_iff hbody hcrc]
    constructor
    · rintro ⟨hlen, k, hk⟩
      have hlt := n.isLt
      rw [← hlen] at hlt
      refine ⟨hlt, k, ?_⟩
      rw [← hk, hlen, BitVec.ofNat_toNat, BitVec.setWidth_eq, ← hbytes]
    · rintro ⟨hlt, k, hk⟩
      rw [hbytes] at hk
      obtain ⟨hlen, hk⟩ := List.append_inj hk (by simp)
      refine ⟨?_, k, hk⟩
      have hn := congrArg (fromBeBytes 16) hlen
      rw [fromBeBytes_toBeBytes rfl, fromBeBytes_toBeBytes rfl] at hn
      rw [hn, BitVec.toNat_ofNat, Nat.mod_eq_of_lt hlt]

/-! ### What the encoder writes -/

section

variable {ctx : GtsContext} {profile : Option StreamProfile} {total : ℕ} {packet : GtsPacket}
  {lower : GtsLowerPacket} {tail : Bytes} {coverage : ℕ}

theorem messageProfile_eq_ok_iff {sp : StreamProfile} :
  messageProfile profile = .ok sp ↔ profile = some sp ∧ sp.validate = .ok sp
  := by
  cases profile with
  | none => exact ⟨nofun, nofun⟩
  | some sp' =>
    constructor
    · intro h
      cases StreamProfile.validate_eq_ok h
      exact ⟨rfl, h⟩
    · rintro ⟨⟨⟩, h⟩
      exact h

/-- What the encoder and the decoder ask of the profile of a message. -/
theorem admits_iff {unreliable : Bool} {sp : StreamProfile} :
  Admits ctx profile unreliable sp ↔ messageProfile profile = .ok sp ∧ sp.unreliable = unreliable ∧
    ¬ (!sp.variableLen ∧ ctx.sizeClass ≠ sp.sizeClass) ∧
    ¬ (sp.variableLen ∧ sp.sizeClass.toWire < ctx.sizeClass.toWire)
  := by
  rw [messageProfile_eq_ok_iff]
  constructor
  · rintro ⟨hknown, hvalid, hunreliable, hfixed, hlimited⟩
    refine ⟨⟨hknown, hvalid⟩, hunreliable, ?_, ?_⟩
    · rintro ⟨h, hne⟩
      exact hne (hfixed (by simpa using h))
    · rintro ⟨h, hlt⟩
      exact absurd hlt (BitVec.not_lt.mpr (hlimited h))
  · rintro ⟨⟨hknown, hvalid⟩, hunreliable, hfixed, hlimited⟩
    refine ⟨hknown, hvalid, hunreliable, ?_, ?_⟩
    · intro h
      simpa [h] using hfixed
    · intro h
      simpa [h] using hlimited

theorem zeroTail_eq_ok_iff (htotal : 4 ≤ total) :
  zeroTail total lower = .ok tail ↔ Zeros tail ∧ lower.wire.length + tail.length = total - 4
  := by
  rw [zeroTail, if_neg (by omega), lower.lowerPrefixLen_packetType, ok_bind]
  split
  · next h =>
    constructor
    · intro h'
      cases h'
    · rintro ⟨-, h'⟩
      omega
  · next h =>
    constructor
    · intro h'
      cases h'
      refine ⟨zeros_replicate _, ?_⟩
      rw [List.length_replicate]
      omega
    · rintro ⟨hzeros, hlen⟩
      rw [hzeros.eq_replicate, ← hlen, Nat.add_sub_cancel_left]

theorem planControl_eq_ok_iff {fields : GtsLowerPacket} (htotal : 4 ≤ total) :
  planControl total fields = .ok (lower, tail, coverage) ↔
    (lower = fields ∧ Zeros tail ∧ coverage = total - 4) ∧
      lower.wire.length + tail.length = total - 4
  := by
  rw [planControl, bind_eq_ok]
  constructor
  · rintro ⟨tail', htail, h⟩
    cases h
    obtain ⟨hzeros, hlen⟩ := (zeroTail_eq_ok_iff htotal).mp htail
    exact ⟨⟨rfl, hzeros, rfl⟩, hlen⟩
  · rintro ⟨⟨rfl, hzeros, rfl⟩, hlen⟩
    exact ⟨tail, (zeroTail_eq_ok_iff htotal).mpr ⟨hzeros, hlen⟩, rfl⟩

/-- A packet without a message is planned as its fields and zeros. -/
theorem planPacket_control {fields : GtsLowerPacket} (hfields : packet.controlFields = some fields) :
  planPacket packet ctx profile total = planControl total fields
  := by
  cases packet <;> cases hfields <;> rfl

/-- The plan for a message of a reliable stream. -/
theorem planPacket_data_iff {tunnelId : U32} {streamId : U8} {sequence : U32} {data : Bytes}
    {isEnd : Bool} :
  planPacket (.data tunnelId streamId sequence data isEnd) ctx profile total
      = .ok (lower, tail, coverage) ↔
    Layout Zeros ctx profile (total - 4) (.data tunnelId streamId sequence data isEnd) lower tail
        coverage ∧
      lower.wire.length + tail.length = total - 4
  := by
  constructor
  · intro h
    obtain ⟨sp, hsp, h⟩ := bind_eq_ok.mp h
    split at h
    · cases h
    next hreliable =>
    obtain ⟨hreliable, hfixed⟩ := not_or.mp hreliable
    split at h
    · cases h
    next hlimited =>
    split at h
    · cases h
    next hroom =>
    obtain ⟨⟨rest, pos⟩, hplace, h⟩ := bind_eq_ok.mp h
    cases h
    obtain ⟨⟨bytes, rfl, hbytes, hlen⟩, -⟩ :=
      (@placeMessage_eq_ok_iff [] _ _ _ _ _ (by omega)).mp hplace
    have hprobe : toBeBytes (fromBeBytes 16 (slice rest 0 2)) ++ rest.drop 2 = rest := by
      rw [toBeBytes_fromBeBytes, slice, List.drop_zero, List.take_append_drop]
      rw [slice, List.drop_zero, List.length_take_of_le (by omega)]
    have hadmits : Admits ctx profile false sp :=
      admits_iff.mpr ⟨hsp, by simpa using hreliable, hfixed, hlimited⟩
    refine ⟨.data hadmits (hprobe.symm ▸ hbytes), ?_⟩
    simp [GtsLowerPacket.wire, GtsLowerPacket.fields, hlen]
    omega
  · rintro ⟨h, hlen⟩
    cases h with
    | control hfields => cases hfields
    | @data _ _ _ _ _ probe _ sp hadmits hbytes =>
      simp [GtsLowerPacket.wire, GtsLowerPacket.fields] at hlen
      have hplace : placeMessage (List.replicate (total - 4 - 10) 0#8) 0 data
          (sp.variableLen || isEnd)
            = .ok (toBeBytes probe ++ tail, 0 + if sp.variableLen || isEnd then 2 else 0) := by
        apply (@placeMessage_eq_ok_iff [] _ _ _ _ _ (by omega)).mpr
        refine ⟨⟨toBeBytes probe ++ tail, rfl, hbytes, ?_⟩, rfl⟩
        rw [List.length_append, length_toBeBytes]
        omega
      obtain ⟨hsp, hreliable, hfixed, hlimited⟩ := admits_iff.mp hadmits
      rw [planPacket, hsp, ok_bind, if_neg (not_or.mpr ⟨by simp [hreliable], hfixed⟩),
        if_neg hlimited, if_neg (by omega)]
      dsimp only
      rw [hplace, ok_bind]
      dsimp only
      rw [slice_zero_append (length_toBeBytes probe), fromBeBytes_toBeBytes rfl,
        List.drop_left' (length_toBeBytes probe)]

/-- The six bytes that a list begins with. -/
theorem toList_probe_append_drop {rest : Bytes} (h : 6 ≤ rest.length) :
  #v[rest.getD 0 0#8, rest.getD 1 0#8, rest.getD 2 0#8, rest.getD 3 0#8, rest.getD 4 0#8,
      rest.getD 5 0#8].toList ++ rest.drop 6 = rest
  := by
  match rest, h with
  | p :: q :: r :: s :: t :: u :: rest, _ => rfl

theorem probe_of_append (probe : Vector U8 6) (tail : Bytes) :
  let rest := probe.toList ++ tail
  #v[rest.getD 0 0#8, rest.getD 1 0#8, rest.getD 2 0#8, rest.getD 3 0#8, rest.getD 4 0#8,
      rest.getD 5 0#8] = probe ∧ rest.drop 6 = tail
  := by
  intro rest
  have happend := @toList_probe_append_drop rest (by simp [rest])
  obtain ⟨hprobe, htail⟩ := List.append_inj happend (by simp)
  exact ⟨Vector.toList_inj.mp hprobe, htail⟩

theorem placeSequence_eq_ok_iff {sequenced : Bool} {sequence : Option U32} {m pos : ℕ}
    {rest : Bytes} :
  placeSequence (List.replicate m 0#8) sequenced sequence = .ok (rest, pos) ↔
    sequence.isSome = sequenced ∧
      rest = sequence.elim [] toBeBytes
        ++ List.replicate (m - (sequence.elim [] toBeBytes).length) 0#8 ∧
      pos = (sequence.elim [] toBeBytes).length
  := by
  cases sequenced <;> cases sequence <;>
    simp [placeSequence, copyInto_zero, List.drop_replicate, eq_comm]

/-- The plan for a message of an unreliable stream. -/
theorem planPacket_datagram_iff {tunnelId : U32} {streamId : U8} {sequence : Option U32}
    {data : Bytes} :
  planPacket (.datagram tunnelId streamId sequence data) ctx profile total
      = .ok (lower, tail, coverage) ↔
    Layout Zeros ctx profile (total - 4) (.datagram tunnelId streamId sequence data) lower tail
        coverage ∧
      lower.wire.length + tail.length = total - 4
  := by
  constructor
  · intro h
    obtain ⟨sp, hsp, h⟩ := bind_eq_ok.mp h
    split at h
    · cases h
    next hunreliable =>
    obtain ⟨hunreliable, hfixed⟩ := not_or.mp hunreliable
    split at h
    · cases h
    next hlimited =>
    split at h
    · cases h
    next hroom =>
    have hadmits : Admits ctx profile true sp :=
      admits_iff.mpr ⟨hsp, by simpa using hunreliable, hfixed, hlimited⟩
    obtain ⟨⟨start, optionPos⟩, hstart, h⟩ := bind_eq_ok.mp h
    obtain ⟨hsequence, rfl, rfl⟩ := placeSequence_eq_ok_iff.mp hstart
    have hoptions : (sequence.elim [] toBeBytes).length ≤ 4 := by
      cases sequence <;> simp
    obtain ⟨⟨rest, pos⟩, hplace, h⟩ := bind_eq_ok.mp h
    cases h
    obtain ⟨⟨bytes, rfl, hbytes, hlen⟩, rfl⟩ := (placeMessage_eq_ok_iff (by omega)).mp hplace
    have hrest : (sequence.elim [] toBeBytes ++ bytes).length = total - 4 - 6 := by
      rw [List.length_append]
      omega
    refine ⟨.datagram hadmits hsequence (toList_probe_append_drop (by omega)) hbytes, ?_⟩
    simp only [GtsLowerPacket.wire, GtsLowerPacket.fields, List.length_cons, List.length_append,
      length_toBeBytes, Vector.length_toList, List.length_drop] at hrest ⊢
    omega
  · rintro ⟨h, hlen⟩
    cases h with
    | control hfields => cases hfields
    | @datagram _ _ _ _ probe _ bytes sp hadmits hsequence hprobe hbytes =>
      simp only [GtsLowerPacket.wire, GtsLowerPacket.fields, List.length_cons, List.length_append,
        length_toBeBytes, Vector.length_toList] at hlen
      have hoptions : (sequence.elim [] toBeBytes).length ≤ 4 := by
        cases sequence <;> simp
      have hlen' := congrArg List.length hprobe
      simp only [List.length_append, Vector.length_toList] at hlen'
      obtain ⟨hsp, hunreliable, hfixed, hlimited⟩ := admits_iff.mp hadmits
      rw [planPacket, hsp, ok_bind, if_neg (not_or.mpr ⟨by simp [hunreliable], hfixed⟩),
        if_neg hlimited, if_neg (by omega)]
      dsimp only
      rw [placeSequence_eq_ok_iff.mpr ⟨hsequence, rfl, rfl⟩, ok_bind]
      dsimp only
      rw [(placeMessage_eq_ok_iff (by omega)).mpr ⟨⟨bytes, rfl, hbytes, by omega⟩, rfl⟩, ok_bind,
        ← hprobe]
      dsimp only
      rw [(probe_of_append probe tail).1, (probe_of_append probe tail).2]

/-- The plan for a request for a tunnel. -/
theorem planPacket_connect_iff (htotal : 4 ≤ total) {tunnel resetId : U32} {sp : StreamProfile}
    {credit : U8} {css : ServiceSelector} :
  planPacket (.connect tunnel resetId sp credit css) ctx profile total
      = .ok (lower, tail, coverage) ↔
    Layout Zeros ctx profile (total - 4) (.connect tunnel resetId sp credit css) lower tail
        coverage ∧
      lower.wire.length + tail.length = total - 4
  := by
  constructor
  · intro h
    obtain ⟨sp', hvalid, h⟩ := bind_eq_ok.mp h
    cases StreamProfile.validate_eq_ok hvalid
    split at h
    · cases h
    next hcredit =>
    obtain ⟨wire, hwire, h⟩ := bind_eq_ok.mp h
    obtain ⟨zeros, hzeros, h⟩ := bind_eq_ok.mp h
    obtain ⟨bytes, hcss, h⟩ := bind_eq_ok.mp h
    obtain ⟨hzeros, hlen⟩ := (zeroTail_eq_ok_iff htotal).mp hzeros
    split at h
    · cases h
    next hroom =>
    cases h
    rw [hzeros.eq_replicate, copyInto_zero, List.drop_replicate]
    refine ⟨.connect hwire hcredit (ServiceSelector.encode_eq_ok_iff.mp hcss), ?_⟩
    rw [List.length_append, List.length_replicate, ← hlen]
    omega
  · rintro ⟨h, hlen⟩
    cases h with
    | control hfields => cases hfields
    | @connect _ _ _ _ _ wire bytes k hwire hcredit hcss =>
      have hvalid := (StreamProfile.toWire_eq_ok_iff.mp hwire).1
      rw [List.length_append, List.length_replicate] at hlen
      have hzeros : zeroTail total (.connect tunnel resetId wire credit)
          = .ok (List.replicate (bytes.length + k) 0#8) := by
        apply (zeroTail_eq_ok_iff htotal).mpr
        refine ⟨zeros_replicate _, ?_⟩
        rw [List.length_replicate]
        exact hlen
      rw [planPacket, hvalid, ok_bind, if_neg hcredit, hwire, ok_bind]
      dsimp only
      rw [hzeros, ok_bind, ServiceSelector.encode_eq_ok_iff.mpr hcss, ok_bind, if_neg,
        copyInto_zero, List.drop_replicate, Nat.add_sub_cancel_left]
      rw [List.length_replicate]
      omega

/-- The plan for a request for a stream. -/
theorem planPacket_streamOpen_iff (htotal : 4 ≤ total) {tunnelId : U32} {streamId : U8}
    {sp : StreamProfile} {credit : U8} :
  planPacket (.streamOpen tunnelId streamId sp credit) ctx profile total
      = .ok (lower, tail, coverage) ↔
    Layout Zeros ctx profile (total - 4) (.streamOpen tunnelId streamId sp credit) lower tail
        coverage ∧
      lower.wire.length + tail.length = total - 4
  := by
  constructor
  · intro h
    obtain ⟨sp', hvalid, h⟩ := bind_eq_ok.mp h
    cases StreamProfile.validate_eq_ok hvalid
    split at h
    · cases h
    next hcredit =>
    obtain ⟨wire, hwire, h⟩ := bind_eq_ok.mp h
    obtain ⟨⟨rfl, hzeros, rfl⟩, hlen⟩ := (planControl_eq_ok_iff htotal).mp h
    exact ⟨.streamOpen hwire hcredit hzeros, hlen⟩
  · rintro ⟨h, hlen⟩
    cases h with
    | control hfields => cases hfields
    | streamOpen hwire hcredit hpad =>
      have hvalid := (StreamProfile.toWire_eq_ok_iff.mp hwire).1
      rw [planPacket, hvalid, ok_bind, if_neg hcredit, hwire, ok_bind,
        (planControl_eq_ok_iff htotal).mpr ⟨⟨rfl, hpad, rfl⟩, hlen⟩]

/-- What is planned for a packet is what it looks like with zeros as padding. -/
theorem planPacket_eq_ok_iff (htotal : 4 ≤ total) :
  planPacket packet ctx profile total = .ok (lower, tail, coverage) ↔
    Layout Zeros ctx profile (total - 4) packet lower tail coverage ∧
      lower.wire.length + tail.length = total - 4
  := by
  cases hfields : packet.controlFields with
  | some fields =>
    rw [planPacket_control hfields, planControl_eq_ok_iff htotal, layout_control_iff hfields]
  | none =>
    cases packet with
    | connect => exact planPacket_connect_iff htotal
    | streamOpen => exact planPacket_streamOpen_iff htotal
    | data => exact planPacket_data_iff
    | datagram => exact planPacket_datagram_iff
    | _ => cases hfields

/-- The checksum covers nothing but the packet. -/
theorem Layout.coverage_le {pad : Bytes → Prop} {crcOff : ℕ}
    (h : Layout pad ctx profile crcOff packet lower tail coverage)
    (hlen : lower.wire.length + tail.length = crcOff) :
  coverage ≤ crcOff
  := by
  cases h with
  | @datagram _ _ sequence _ _ _ _ sp =>
    have hoptions : (sequence.elim [] toBeBytes).length ≤ 4 := by
      cases sequence <;> simp
    simp only [GtsLowerPacket.wire, GtsLowerPacket.fields, List.length_cons, List.length_append,
      length_toBeBytes, Vector.length_toList] at hlen
    split
    · split <;> omega
    · exact le_rfl
  | _ => exact le_rfl

/-- The bytes of a packet with the given parts. -/
def packetBytes (ctx : GtsContext) (lower : GtsLowerPacket) (tail : Bytes) (coverage : ℕ) : Bytes :=
  (lower.wire ++ tail) ++ toBeBytes (computeCrc ctx ((lower.wire ++ tail).take coverage))

/-- A plan with the right lengths is carried out. -/
theorem finishEncode_eq (hlen : lower.wire.length + tail.length + 4 = ctx.sizeClass.bytes)
    (hcoverage : coverage ≤ lower.wire.length + tail.length) :
  finishEncode ⟨lower, tail, coverage⟩ ctx = .ok (packetBytes ctx lower tail coverage)
  := by
  have hzeros : ctx.sizeClass.bytes - lower.wire.length - tail.length = 4 := by omega
  have hcrcOff : ctx.sizeClass.bytes - 4 = (lower.wire ++ tail).length := by
    rw [List.length_append]
    omega
  rw [finishEncode]
  dsimp only
  rw [if_neg (by omega), lower.lowerPrefixLen_packetType, ok_bind, encodeLower_eq, ok_bind,
    if_neg (not_or.mpr ⟨not_not.mpr rfl, not_not.mpr (by omega)⟩), copyInto_zero,
    List.drop_replicate, copyInto_append rfl, List.drop_replicate, hzeros, ← List.append_assoc,
    List.take_append_of_le_length (by rw [List.length_append]; exact hcoverage), hcrcOff,
    copyInto_append rfl, List.drop_replicate, length_toBeBytes, packetBytes]
  exact congrArg Except.ok (congrArg (_ ++ ·) (List.append_nil _))

/-- The encoder writes packets as they look with zeros as padding. -/
theorem GtsPacket.encode_eq_ok_iff {bytes : Bytes} :
  packet.encode ctx profile = .ok bytes ↔ ∃ lower tail coverage,
    Layout Zeros ctx profile (ctx.sizeClass.bytes - 4) packet lower tail coverage ∧
      lower.wire.length + tail.length + 4 = ctx.sizeClass.bytes ∧
      bytes = packetBytes ctx lower tail coverage
  := by
  rw [encode, bind_eq_ok]
  constructor
  · rintro ⟨plan, hplan, h⟩
    rw [prepareEncode] at hplan
    dsimp only at hplan
    split at hplan
    · cases hplan
    next htotal =>
    rw [not_lt] at htotal
    obtain ⟨⟨lower, tail, coverage⟩, hpacket, hplan⟩ := bind_eq_ok.mp hplan
    obtain ⟨hlayout, hlen⟩ := (planPacket_eq_ok_iff htotal).mp hpacket
    dsimp only at hplan
    rw [lower.lowerPrefixLen_packetType, ok_bind] at hplan
    split at hplan
    · cases hplan
    cases hplan
    refine ⟨lower, tail, coverage, hlayout, by omega, ?_⟩
    rw [finishEncode_eq (by omega) (hlen.symm ▸ hlayout.coverage_le hlen)] at h
    cases h
    rfl
  · rintro ⟨lower, tail, coverage, hlayout, hlen, rfl⟩
    have hcrcOff : lower.wire.length + tail.length = ctx.sizeClass.bytes - 4 := by omega
    have hcoverage := hlayout.coverage_le hcrcOff
    refine ⟨⟨lower, tail, coverage⟩, ?_, finishEncode_eq hlen (hcrcOff ▸ hcoverage)⟩
    rw [prepareEncode]
    dsimp only
    rw [if_neg (by omega), (planPacket_eq_ok_iff (by omega)).mpr ⟨hlayout, hcrcOff⟩, ok_bind]
    dsimp only
    rw [lower.lowerPrefixLen_packetType, ok_bind,
      if_neg (not_or.mpr ⟨not_not.mpr hcrcOff, not_lt.mpr hcoverage⟩)]

end

/-! ### What the decoder accepts -/

section

variable {ctx : GtsContext} {profile : Option StreamProfile} {packet : GtsPacket}
  {lower : GtsLowerPacket} {buf tail crc : Bytes} {coverage metaEnd : ℕ}

/-- How far the checksum covers a packet whose options end at `metaEnd`. -/
def coverageOf (profile : Option StreamProfile) (lower : GtsLowerPacket) (crcOff metaEnd : ℕ) : ℕ :=
  if uncheckedMessage profile lower.packetType then metaEnd else crcOff

/-- Reading a message of a reliable stream. -/
theorem readPacket_data_iff {tunnelId : U32} {streamId : U8} {sequence : U32} {isEnd : Bool}
    {probe : U16}
    (hbuf : buf = ((GtsLowerPacket.data tunnelId streamId sequence isEnd probe).wire ++ tail) ++ crc)
    (hcrc : crc.length = 4) :
  readPacket buf ctx profile (.data tunnelId streamId sequence isEnd probe)
      = .ok (packet, metaEnd) ↔
    ∃ sp data, Admits ctx profile false sp ∧
      MessageBytes (sp.variableLen || isEnd) data (toBeBytes probe ++ tail) ∧
      packet = .data tunnelId streamId sequence data isEnd ∧
      metaEnd = 10 + if sp.variableLen || isEnd then 2 else 0
  := by
  have hdrop : buf.drop 10 = (toBeBytes probe ++ tail) ++ crc := by
    rw [hbuf, GtsLowerPacket.wire, GtsLowerPacket.fields]
    simp only [← List.append_assoc, ← List.cons_append]
    rw [List.append_assoc, List.append_assoc, List.drop_left' (by simp), List.append_assoc]
  have htake : ∀ {hasLength : Bool}, hasLength = true →
      toBeBytes probe = (toBeBytes probe ++ tail).take 2 :=
    fun _ => (List.take_left' (length_toBeBytes probe)).symm
  have hpair : ∀ sp : StreamProfile,
      (if isEnd ∨ sp.variableLen then (12, some probe.toNat) else (10, none))
        = (10 + if sp.variableLen || isEnd then 2 else 0,
          if sp.variableLen || isEnd then some probe.toNat else none) := by
    intro sp
    cases isEnd <;> cases sp.variableLen <;> rfl
  constructor
  · intro h
    obtain ⟨sp, hsp, h⟩ := bind_eq_ok.mp h
    split at h
    · cases h
    next hguard =>
    obtain ⟨hreliable, hfixed, hlimited⟩ : _ ∧ _ ∧ _ := by
      rwa [not_or, not_or] at hguard
    dsimp only at h
    rw [hpair sp] at h
    obtain ⟨data, hdata, h⟩ := bind_eq_ok.mp h
    cases h
    exact ⟨sp, data, admits_iff.mpr ⟨hsp, by simpa using hreliable, hfixed, hlimited⟩,
      (takePayload_eq_ok_iff hdrop hcrc htake).mp hdata, rfl, rfl⟩
  · rintro ⟨sp, data, hadmits, hbytes, rfl, rfl⟩
    obtain ⟨hsp, hreliable, hfixed, hlimited⟩ := admits_iff.mp hadmits
    rw [readPacket, hsp, ok_bind, if_neg (by
      rw [not_or, not_or]
      exact ⟨by simp [hreliable], hfixed, hlimited⟩)]
    dsimp only
    rw [hpair sp]
    dsimp only
    rw [(takePayload_eq_ok_iff hdrop hcrc htake).mpr hbytes, ok_bind]

/-- A slice of the option probe is one of the bytes that begin with it. -/
theorem slice_probe (probe : Vector U8 6) (tail : Bytes) {pos n : ℕ} (h : pos + n ≤ 6) :
  slice probe.toList pos n = ((probe.toList ++ tail).drop pos).take n
  := by
  rw [slice, List.drop_append_of_le_length (by simp; omega),
    List.take_append_of_le_length (by simp; omega)]

/-- The sequence number of a message, and what follows it. -/
theorem sequence_iff {probe : Vector U8 6} {bytes : Bytes} {sequenced : Bool}
    {sequence : Option U32} :
  (sequence.isSome = sequenced ∧ probe.toList ++ tail = sequence.elim [] toBeBytes ++ bytes) ↔
    sequence = (if sequenced then some (fromBeBytes 32 (slice probe.toList 0 4)) else none) ∧
      bytes = (probe.toList ++ tail).drop (if sequenced then 4 else 0)
  := by
  cases sequenced with
  | false =>
    cases sequence with
    | none => simp [eq_comm]
    | some seq => simp
  | true =>
    cases sequence with
    | none => simp
    | some seq =>
      have hseq : fromBeBytes 32 (slice probe.toList 0 4) = seq ↔
          probe.toList ++ tail = toBeBytes seq ++ (probe.toList ++ tail).drop 4 := by
        rw [slice_probe probe tail (by decide)]
        apply fromBeBytes_slice_eq_iff rfl
        simp only [List.length_append, Vector.length_toList]
        omega
      have happend := @drop_eq_toBeBytes_append_iff (probe.toList ++ tail) bytes 0 32 seq
      rw [List.drop_zero] at happend
      rw [Option.elim_some, happend, if_pos rfl, if_pos rfl, Option.some.injEq, eq_comm (a := seq),
        hseq]
      simp [eq_comm]

/-- Reading a message of an unreliable stream. -/
theorem readPacket_datagram_iff {tunnelId : U32} {streamId : U8} {probe : Vector U8 6}
    (hbuf : buf = ((GtsLowerPacket.datagram tunnelId streamId probe).wire ++ tail) ++ crc)
    (hcrc : crc.length = 4) :
  readPacket buf ctx profile (.datagram tunnelId streamId probe) = .ok (packet, metaEnd) ↔
    ∃ sp sequence data bytes, Admits ctx profile true sp ∧
      (sequence.isSome = sp.sequenced ∧
        probe.toList ++ tail = sequence.elim [] toBeBytes ++ bytes) ∧
      MessageBytes sp.variableLen data bytes ∧
      packet = .datagram tunnelId streamId sequence data ∧
      metaEnd = 6 + ((sequence.elim [] toBeBytes).length + if sp.variableLen then 2 else 0)
  := by
  have hdrop : buf.drop 6 = (probe.toList ++ tail) ++ crc := by
    rw [hbuf, GtsLowerPacket.wire, GtsLowerPacket.fields]
    simp only [← List.append_assoc, ← List.cons_append]
    rw [List.append_assoc, List.append_assoc, List.drop_left' (by simp), List.append_assoc]
  have hmessage : ∀ {start : ℕ} {data : Bytes} {hasLength : Bool}, start + 2 ≤ 6 →
      (takePayload buf (buf.length - 4) (6 + (start + if hasLength then 2 else 0))
        (if hasLength then some (fromBeBytes 16 (slice probe.toList start 2)).toNat else none)
          = .ok data ↔
        MessageBytes hasLength data ((probe.toList ++ tail).drop start)) := by
    intro start data hasLength hstart
    rw [← Nat.add_assoc]
    apply takePayload_eq_ok_iff _ hcrc
    · intro _
      rw [← slice_probe probe tail hstart, toBeBytes_fromBeBytes]
      simp [slice]
      omega
    · rw [← List.drop_drop, hdrop, List.drop_append_of_le_length]
      simp
      omega
  have hread : ∀ sp : StreamProfile, messageProfile profile = .ok sp →
      ¬ (!sp.unreliable ∨ (!sp.variableLen ∧ ctx.sizeClass ≠ sp.sizeClass)
        ∨ (sp.variableLen ∧ sp.sizeClass.toWire < ctx.sizeClass.toWire)) →
      readPacket buf ctx profile (.datagram tunnelId streamId probe)
        = (takePayload buf (buf.length - 4)
            (6 + ((if sp.sequenced then 4 else 0) + if sp.variableLen then 2 else 0))
            (if sp.variableLen then
              some (fromBeBytes 16 (slice probe.toList (if sp.sequenced then 4 else 0) 2)).toNat
            else none) >>= fun data =>
            .ok (.datagram tunnelId streamId
              (if sp.sequenced then some (fromBeBytes 32 (slice probe.toList 0 4)) else none) data,
              6 + ((if sp.sequenced then 4 else 0) + if sp.variableLen then 2 else 0))) := by
    intro sp hsp hguard
    rw [readPacket, hsp, ok_bind, if_neg hguard]
    cases sp.sequenced <;> cases sp.variableLen <;> rfl
  have hlen : ∀ sequenced : Bool,
      ((if sequenced then some (fromBeBytes 32 (slice probe.toList 0 4)) else none).elim []
        toBeBytes).length = if sequenced then 4 else 0 := by
    intro sequenced
    cases sequenced <;> simp
  simp only [sequence_iff]
  constructor
  · intro h
    obtain ⟨sp, hsp, h'⟩ := bind_eq_ok.mp h
    split at h'
    · cases h'
    next hguard =>
    obtain ⟨hunreliable, hfixed, hlimited⟩ : _ ∧ _ ∧ _ := by
      rwa [not_or, not_or] at hguard
    rw [hread sp hsp hguard] at h
    obtain ⟨data, hdata, h⟩ := bind_eq_ok.mp h
    cases h
    refine ⟨sp, _, data, _, admits_iff.mpr ⟨hsp, by simpa using hunreliable, hfixed, hlimited⟩,
      ⟨rfl, rfl⟩, ?_, rfl, ?_⟩
    · exact (hmessage (by split <;> decide)).mp hdata
    · rw [hlen]
  · rintro ⟨sp, _, data, _, hadmits, ⟨rfl, rfl⟩, hbytes, rfl, rfl⟩
    obtain ⟨hsp, hunreliable, hfixed, hlimited⟩ := admits_iff.mp hadmits
    rw [hread sp hsp (by
      rw [not_or, not_or]
      exact ⟨by simp [hunreliable], hfixed, hlimited⟩),
      (hmessage (by split <;> decide)).mpr hbytes, ok_bind, hlen]

/-- Reading a request for a tunnel. -/
theorem readPacket_connect_iff {tunnel resetId : U32} {wire : U16} {credit : U8}
    (hbuf : buf = ((GtsLowerPacket.connect tunnel resetId wire credit).wire ++ tail) ++ crc)
    (hcrc : crc.length = 4) :
  readPacket buf ctx profile (.connect tunnel resetId wire credit) = .ok (packet, metaEnd) ↔
    ∃ sp css bytes k, sp.toWire = .ok wire ∧ ¬ (sp.unreliable ∧ credit ≠ 0#8) ∧
      css.Encoding bytes ∧ tail = bytes ++ List.replicate k 0#8 ∧
      packet = .connect tunnel resetId sp credit css ∧ metaEnd = buf.length - 4
  := by
  have hdrop : buf.drop 12 = tail ++ crc := by
    rw [hbuf, List.append_assoc, List.drop_left' (by
      simp [GtsLowerPacket.wire, GtsLowerPacket.fields])]
  have hcrcOff := crcOff_eq hdrop hcrc
  have htail : slice buf 12 (buf.length - 4 - 12) = tail := by
    rw [hcrcOff, Nat.add_sub_cancel_left, slice, hdrop, List.take_left]
  have hrest : ∀ n, n ≤ tail.length →
      slice buf (12 + n) (buf.length - 4 - (12 + n)) = tail.drop n := by
    intro n hn
    rw [hcrcOff, slice, ← List.drop_drop, hdrop, List.drop_append_of_le_length hn,
      List.take_left' (by rw [List.length_drop]; omega)]
  constructor
  · intro h
    obtain ⟨sp, hsp, h⟩ := bind_eq_ok.mp h
    split at h
    · cases h
    next hcredit =>
    obtain ⟨⟨css, n⟩, hcss, h⟩ := bind_eq_ok.mp h
    rw [htail] at hcss
    obtain ⟨bytes, hencoding, rfl, rest, rfl⟩ := ServiceSelector.decode_eq_ok_iff.mp hcss
    dsimp only at h
    rw [hrest _ (by simp), List.drop_left] at h
    split at h
    · cases h
    next hzero =>
    cases h
    have hzeros : Zeros rest := any_ne_zero_iff.mp (by simpa using hzero)
    refine ⟨sp, css, bytes, rest.length, StreamProfile.fromWire_eq_ok_iff.mp hsp, hcredit,
      hencoding, ?_, rfl, rfl⟩
    rw [← hzeros.eq_replicate]
  · rintro ⟨sp, css, bytes, k, hwire, hcredit, hencoding, rfl, rfl, rfl⟩
    have hcss : ServiceSelector.decode (bytes ++ List.replicate k 0#8) = .ok (css, bytes.length) :=
      ServiceSelector.decode_eq_ok_iff.mpr ⟨bytes, hencoding, rfl, List.prefix_append _ _⟩
    rw [readPacket, StreamProfile.fromWire_eq_ok_iff.mpr hwire, ok_bind, if_neg hcredit]
    dsimp only
    rw [htail, hcss, ok_bind]
    dsimp only
    rw [hrest _ (by simp), List.drop_left, if_neg (by simp)]

/-- Reading a packet without a message. -/
theorem readPacket_control (hfields : packet.controlFields = some lower) :
  readPacket buf ctx profile lower = .ok (packet, buf.length - 4)
  := by
  cases packet <;> cases hfields <;> rfl

/-- What is read without options is covered by the checksum. -/
theorem coverageOf_self (profile : Option StreamProfile) (lower : GtsLowerPacket) (crcOff : ℕ) :
  coverageOf profile lower crcOff crcOff = crcOff
  := ite_self crcOff

theorem coverageOf_data {tunnelId : U32} {streamId : U8} {sequence : U32} {isEnd : Bool}
    {probe : U16} {crcOff : ℕ} :
  coverageOf profile (.data tunnelId streamId sequence isEnd probe) crcOff metaEnd = crcOff
  := by
  rw [coverageOf, uncheckedMessage, if_neg]
  cases isEnd <;> simp [GtsLowerPacket.packetType]

theorem coverageOf_datagram {tunnelId : U32} {streamId : U8} {probe : Vector U8 6} {crcOff : ℕ}
    {sp : StreamProfile} (h : Admits ctx profile true sp) :
  coverageOf profile (.datagram tunnelId streamId probe) crcOff metaEnd
    = if sp.uncheckedPayload then metaEnd else crcOff
  := by
  rw [coverageOf, uncheckedMessage, h.known]
  simp [GtsLowerPacket.packetType, h.unreliable_eq]

/-- What is read from a packet is laid out, with any padding. -/
theorem layout_of_readPacket (hbuf : buf = (lower.wire ++ tail) ++ crc) (hcrc : crc.length = 4)
    (h : readPacket buf ctx profile lower = .ok (packet, metaEnd)) :
  Layout (fun _ => True) ctx profile (buf.length - 4) packet lower tail
    (coverageOf profile lower (buf.length - 4) metaEnd)
  := by
  cases lower with
  | connect =>
    obtain ⟨sp, css, bytes, k, hwire, hcredit, hencoding, rfl, rfl, rfl⟩ :=
      (readPacket_connect_iff hbuf hcrc).mp h
    rw [coverageOf_self]
    exact .connect hwire hcredit hencoding
  | data =>
    obtain ⟨sp, data, hadmits, hbytes, rfl, -⟩ := (readPacket_data_iff hbuf hcrc).mp h
    rw [coverageOf_data]
    exact .data hadmits hbytes
  | datagram =>
    obtain ⟨sp, sequence, data, bytes, hadmits, ⟨hsequence, hprobe⟩, hbytes, rfl, rfl⟩ :=
      (readPacket_datagram_iff hbuf hcrc).mp h
    rw [coverageOf_datagram hadmits]
    exact .datagram hadmits hsequence hprobe hbytes
  | streamOpen =>
    obtain ⟨sp, hsp, hpacket⟩ := bind_eq_ok.mp h
    split at hpacket
    · cases hpacket
    next hguard =>
    obtain ⟨hreserved, hcredit⟩ := not_or.mp hguard
    cases not_not.mp hreserved
    cases hpacket
    rw [coverageOf_self]
    exact .streamOpen (StreamProfile.fromWire_eq_ok_iff.mp hsp) hcredit trivial
  | connectAck =>
    rw [readPacket] at h
    split at h
    · cases h
    next hreserved =>
    cases not_not.mp hreserved
    cases h
    rw [coverageOf_self]
    exact .control rfl trivial
  | streamAck =>
    rw [readPacket] at h
    split at h
    · cases h
    next hreserved =>
    cases not_not.mp hreserved
    cases h
    rw [coverageOf_self]
    exact .control rfl trivial
  | ack =>
    rw [readPacket] at h
    split at h
    · cases h
    next hreserved =>
    cases not_not.mp hreserved
    cases h
    rw [coverageOf_self]
    exact .control rfl trivial
  | streamReset =>
    rw [readPacket] at h
    split at h
    · cases h
    next hreserved =>
    cases not_not.mp hreserved
    cases h
    rw [coverageOf_self]
    exact .control rfl trivial
  | streamClose =>
    cases h
    rw [coverageOf_self]
    exact .control rfl trivial
  | tunnelClose =>
    cases h
    rw [coverageOf_self]
    exact .control rfl trivial
  | reset =>
    cases h
    rw [coverageOf_self]
    exact .control rfl trivial

/-- What is laid out is read. -/
theorem readPacket_of_layout (hbuf : buf = (lower.wire ++ tail) ++ crc) (hcrc : crc.length = 4)
    (h : Layout (fun _ => True) ctx profile (buf.length - 4) packet lower tail coverage) :
  ∃ metaEnd, readPacket buf ctx profile lower = .ok (packet, metaEnd) ∧
    coverageOf profile lower (buf.length - 4) metaEnd = coverage
  := by
  cases h with
  | control hfields => exact ⟨_, readPacket_control hfields, coverageOf_self _ _ _⟩
  | streamOpen hwire hcredit =>
    refine ⟨_, ?_, coverageOf_self _ _ _⟩
    rw [readPacket, StreamProfile.fromWire_eq_ok_iff.mpr hwire, ok_bind,
      if_neg (not_or.mpr ⟨not_not.mpr rfl, hcredit⟩)]
  | connect hwire hcredit hcss =>
    exact ⟨_, (readPacket_connect_iff hbuf hcrc).mpr
      ⟨_, _, _, _, hwire, hcredit, hcss, rfl, rfl, rfl⟩, coverageOf_self _ _ _⟩
  | data hadmits hbytes =>
    exact ⟨_, (readPacket_data_iff hbuf hcrc).mpr ⟨_, _, hadmits, hbytes, rfl, rfl⟩,
      coverageOf_data⟩
  | datagram hadmits hsequence hprobe hbytes =>
    exact ⟨_, (readPacket_datagram_iff hbuf hcrc).mpr
      ⟨_, _, _, _, hadmits, ⟨hsequence, hprobe⟩, hbytes, rfl, rfl⟩, coverageOf_datagram hadmits⟩

/-- A packet is decoded if it is laid out and its checksum is right. -/
theorem finishDecode_eq_ok_iff (hbuf : buf = (lower.wire ++ tail) ++ crc) (hcrc : crc.length = 4) :
  finishDecode buf ctx profile lower = .ok packet ↔ ∃ coverage,
    Layout (fun _ => True) ctx profile (lower.wire.length + tail.length) packet lower tail
      coverage ∧ crc = toBeBytes (computeCrc ctx ((lower.wire ++ tail).take coverage))
  := by
  have hcrcOff : buf.length - 4 = (lower.wire ++ tail).length := by
    rw [hbuf, List.length_append, hcrc, Nat.add_sub_cancel]
  have hdrop : buf.drop (buf.length - 4) = crc := by
    rw [hcrcOff, hbuf, List.drop_left]
  have htake : ∀ {coverage}, coverage ≤ buf.length - 4 →
      buf.take coverage = (lower.wire ++ tail).take coverage := by
    intro coverage h
    rw [hcrcOff] at h
    rw [hbuf, List.take_append_of_le_length h]
  rw [← List.length_append, ← hcrcOff, finishDecode]
  dsimp only
  rw [bind_eq_ok]
  constructor
  · rintro ⟨⟨packet', metaEnd⟩, hread, h⟩
    have hlayout := layout_of_readPacket hbuf hcrc hread
    have hcoverage := hlayout.coverage_le (by rw [hcrcOff, List.length_append])
    dsimp only at h
    rw [hdrop, ← coverageOf, htake hcoverage] at h
    split at h
    · cases h
    next hsum =>
    cases h
    refine ⟨_, hlayout, ?_⟩
    rw [not_not] at hsum
    rw [← hsum, toBeBytes_fromBeBytes (by rw [hcrc])]
  · rintro ⟨coverage, hlayout, hsum⟩
    have hcoverage := hlayout.coverage_le (by rw [hcrcOff, List.length_append])
    obtain ⟨metaEnd, hread, rfl⟩ := readPacket_of_layout hbuf hcrc hlayout
    refine ⟨_, hread, ?_⟩
    dsimp only
    rw [hdrop, ← coverageOf, htake hcoverage, if_neg]
    rw [not_not, hsum, fromBeBytes_toBeBytes rfl]

/-- The decoder accepts packets as they look with any padding. -/
theorem GtsPacket.decode_eq_ok_iff :
  decode buf ctx profile = .ok packet ↔ ∃ lower tail coverage,
    Layout (fun _ => True) ctx profile (ctx.sizeClass.bytes - 4) packet lower tail coverage ∧
      lower.wire.length + tail.length + 4 = ctx.sizeClass.bytes ∧
      buf = packetBytes ctx lower tail coverage
  := by
  rw [decode]
  constructor
  · intro h
    split at h
    · cases h
    next hlen =>
    obtain ⟨hlen, -⟩ := not_or.mp hlen
    rw [not_not] at hlen
    obtain ⟨lower, hlower, h⟩ := bind_eq_ok.mp h
    obtain ⟨rest, hrest, hroom⟩ := parseLower_eq_ok_iff.mp hlower
    have hcrc : (rest.drop (rest.length - 4)).length = 4 := by
      rw [List.length_drop]
      omega
    have hbuf : buf = (lower.wire ++ rest.take (rest.length - 4)) ++ rest.drop (rest.length - 4) := by
      rw [List.append_assoc, List.take_append_drop, hrest]
    have htotal : lower.wire.length + (rest.take (rest.length - 4)).length + 4
        = ctx.sizeClass.bytes := by
      rw [← hlen, hbuf, List.length_append, hcrc, List.length_append]
    obtain ⟨coverage, hlayout, hsum⟩ := (finishDecode_eq_ok_iff hbuf hcrc).mp h
    refine ⟨lower, _, coverage, ?_, htotal, ?_⟩
    · rw [← htotal, Nat.add_sub_cancel]
      exact hlayout
    · rw [packetBytes, ← hsum]
      exact hbuf
  · rintro ⟨lower, tail, coverage, hlayout, hlen, rfl⟩
    rw [← hlen, Nat.add_sub_cancel] at hlayout
    have htotal : (packetBytes ctx lower tail coverage).length = ctx.sizeClass.bytes := by
      rw [packetBytes, List.length_append, List.length_append, length_toBeBytes, ← hlen]
    have hlower : parseLower (packetBytes ctx lower tail coverage) = .ok lower := by
      apply parseLower_eq_ok_iff.mpr
      refine ⟨tail ++ toBeBytes _, List.append_assoc _ _ _, ?_⟩
      rw [List.length_append, length_toBeBytes]
      omega
    have hwire : lower.wire.length = lower.fields.length + 1 := rfl
    rw [if_neg (not_or.mpr ⟨not_not.mpr htotal, by omega⟩), hlower, ok_bind]
    exact (finishDecode_eq_ok_iff rfl (length_toBeBytes _)).mpr ⟨coverage, hlayout, rfl⟩

/-! ### Round trips -/

/-- A packet that was encoded is as long as its class says, and is decoded to what it was. -/
theorem GtsPacket.decode_of_encode {bytes : Bytes} (h : packet.encode ctx profile = .ok bytes) :
  bytes.length = ctx.sizeClass.bytes ∧ decode bytes ctx profile = .ok packet
  := by
  obtain ⟨lower, tail, coverage, hlayout, hlen, rfl⟩ := encode_eq_ok_iff.mp h
  constructor
  · rw [packetBytes, List.length_append, List.length_append, length_toBeBytes, ← hlen]
  · exact decode_eq_ok_iff.mpr
      ⟨lower, tail, coverage, hlayout.mono (fun _ _ => trivial), hlen, rfl⟩

/-- A message of a stream that is neither checked nor fixed. -/
theorem GtsPacket.decode_of_encode_datagram :
  let packet : GtsPacket := .datagram 5#32 6#8 (some 7#32) [1#8, 2#8]
  let ctx : GtsContext := ⟨1#8, .ctrl32, ⟨1#64⟩, ⟨2#64⟩⟩
  let profile : StreamProfile := ⟨true, true, true, true, .bidirectional, .msg128⟩
  ∃ bytes, packet.encode ctx (some profile) = .ok bytes ∧
    (bytes.length = 32 ∧ decode bytes ctx (some profile) = .ok packet)
  := by
  intro packet ctx profile
  have h : packet.encode ctx (some profile) = .ok [13#8, 0#8, 0#8, 0#8, 5#8, 6#8, 0#8, 0#8, 0#8, 7#8,
      0#8, 2#8, 1#8, 2#8, 0#8, 0#8, 0#8, 0#8, 0#8, 0#8, 0#8, 0#8, 0#8, 0#8, 0#8, 0#8, 0#8, 0#8, 31#8,
      245#8, 2#8, 133#8] := by
    decide +kernel
  exact ⟨_, h, decode_of_encode h⟩

/-- The types of packets whose padding the decoder looks at. -/
def paddingChecked : List GtsType :=
  [.connect, .data, .dataEnd, .datagram]

/-- In a packet of another type there are zeros between the fixed fields and the checksum. -/
def ZeroPadded (buf : Bytes) : Prop :=
  ∀ ty len, GtsType.fromWire (buf.getD 0 0#8 &&& 0x0f#8) = .ok ty → ty ∉ paddingChecked →
    lowerPrefixLen ty = .ok len → Zeros (slice buf len (buf.length - 4 - len))

theorem zeroPadded_packetBytes_iff :
  ZeroPadded (packetBytes ctx lower tail coverage) ↔
    (lower.packetType ∉ paddingChecked → Zeros tail)
  := by
  have hfirst : (packetBytes ctx lower tail coverage).getD 0 0#8 = lower.packetType.toWire := rfl
  have htype := lower.packetType.fromWire_toWire.2
  have hlen := lower.lowerPrefixLen_packetType
  have htail : slice (packetBytes ctx lower tail coverage) lower.wire.length
      ((packetBytes ctx lower tail coverage).length - 4 - lower.wire.length) = tail := by
    rw [packetBytes, List.length_append, length_toBeBytes, Nat.add_sub_cancel, List.length_append,
      Nat.add_sub_cancel_left, List.append_assoc, slice_append rfl rfl]
  rw [ZeroPadded, hfirst]
  constructor
  · intro h hno
    rw [← htail]
    exact h _ _ htype hno hlen
  · intro h ty len hty hno hlen'
    rw [htype] at hty
    cases hty
    rw [hlen] at hlen'
    cases hlen'
    rw [htail]
    exact h hno

/-- A packet that is laid out is one that the encoder writes if the padding that the decoder does not
look at is zero. -/
theorem layout_zeros_iff {crcOff : ℕ} :
  Layout Zeros ctx profile crcOff packet lower tail coverage ↔
    Layout (fun _ => True) ctx profile crcOff packet lower tail coverage ∧
      (lower.packetType ∉ paddingChecked → Zeros tail)
  := by
  constructor
  · intro h
    refine ⟨h.mono (fun _ _ => trivial), fun hno => ?_⟩
    cases h with
    | control hfields hpad => exact hpad
    | streamOpen hwire hcredit hpad => exact hpad
    | connect => exact absurd (List.mem_of_elem_eq_true rfl) hno
    | @data _ _ _ _ isEnd =>
      cases isEnd
      · exact absurd (List.mem_of_elem_eq_true rfl) hno
      · exact absurd (List.mem_of_elem_eq_true rfl) hno
    | datagram => exact absurd (List.mem_of_elem_eq_true rfl) hno
  · rintro ⟨h, hzeros⟩
    cases h with
    | control hfields =>
      refine .control hfields (hzeros ?_)
      cases packet <;> cases hfields <;> simp [GtsLowerPacket.packetType, paddingChecked] <;>
        split <;> simp
    | streamOpen hwire hcredit =>
      refine .streamOpen hwire hcredit (hzeros ?_)
      change GtsType.streamOpen ∉ paddingChecked
      decide
    | connect hwire hcredit hcss => exact .connect hwire hcredit hcss
    | data hadmits hbytes => exact .data hadmits hbytes
    | datagram hadmits hsequence hprobe hbytes => exact .datagram hadmits hsequence hprobe hbytes

/-- The parts of a packet are read off its bytes. -/
theorem packetBytes_inj {ctx' : GtsContext} {lower' : GtsLowerPacket} {tail' : Bytes} {coverage' : ℕ}
    (hlen : lower.wire.length + tail.length = lower'.wire.length + tail'.length)
    (h : packetBytes ctx lower tail coverage = packetBytes ctx' lower' tail' coverage') :
  lower = lower' ∧ tail = tail' ∧ computeCrc ctx ((lower.wire ++ tail).take coverage)
    = computeCrc ctx' ((lower'.wire ++ tail').take coverage')
  := by
  have hroom : ∀ crc : U32, ∀ tail : Bytes, 4 ≤ (tail ++ toBeBytes crc).length := by
    intro crc tail
    rw [List.length_append, length_toBeBytes]
    omega
  rw [packetBytes, packetBytes] at h
  have hlower : parseLower ((lower.wire ++ tail)
      ++ toBeBytes (computeCrc ctx ((lower.wire ++ tail).take coverage))) = .ok lower :=
    parseLower_eq_ok_iff.mpr ⟨_, List.append_assoc _ _ _, hroom _ _⟩
  rw [h, parseLower_eq_ok_iff.mpr ⟨_, List.append_assoc _ _ _, hroom _ _⟩] at hlower
  cases hlower
  obtain ⟨hwire, hcrc⟩ := List.append_inj h (by simp only [List.length_append]; omega)
  refine ⟨rfl, List.append_cancel_left hwire, ?_⟩
  have hsum := congrArg (fromBeBytes 32) hcrc
  rw [fromBeBytes_toBeBytes rfl, fromBeBytes_toBeBytes rfl] at hsum
  exact hsum

/-- A packet that was decoded is encoded to what it was exactly if the padding that the decoder does
not look at is zero. -/
theorem GtsPacket.encode_decode_iff (h : decode buf ctx profile = .ok packet) :
  packet.encode ctx profile = .ok buf ↔ ZeroPadded buf
  := by
  obtain ⟨lower, tail, coverage, hlayout, hlen, rfl⟩ := decode_eq_ok_iff.mp h
  rw [zeroPadded_packetBytes_iff, encode_eq_ok_iff]
  constructor
  · rintro ⟨lower', tail', coverage', hlayout', hlen', heq⟩
    obtain ⟨rfl, rfl, -⟩ := packetBytes_inj (by omega) heq
    exact (layout_zeros_iff.mp hlayout').2
  · intro hzeros
    exact ⟨lower, tail, coverage, layout_zeros_iff.mpr ⟨hlayout, hzeros⟩, hlen, rfl⟩

/-- The request to close a tunnel, with zeros as padding. -/
theorem GtsPacket.encode_decode_zeros :
  let buf : Bytes := [10#8, 0#8, 0#8, 0#8, 5#8] ++ List.replicate 23 0#8
    ++ [145#8, 249#8, 16#8, 212#8]
  let ctx : GtsContext := ⟨1#8, .ctrl32, ⟨1#64⟩, ⟨2#64⟩⟩
  decode buf ctx none = .ok (.tunnelClose 5#32 false) ∧
    encode (.tunnelClose 5#32 false) ctx none = .ok buf
  := by
  intro buf ctx
  have h : decode buf ctx none = .ok (.tunnelClose 5#32 false) := by decide +kernel
  refine ⟨h, (encode_decode_iff h).mpr ?_⟩
  intro ty len hty _ hlen
  have htype : GtsType.fromWire (buf.getD 0 0#8 &&& 0x0f#8) = .ok .tunnelClose := by decide +kernel
  rw [htype] at hty
  cases hty
  cases hlen
  apply any_ne_zero_iff.mp
  decide +kernel

/-- The request to close a tunnel, with padding that is not zero.  It is accepted, but the encoder does
not write it. -/
theorem GtsPacket.padding_accepted :
  let buf : Bytes := [10#8, 0#8, 0#8, 0#8, 5#8, 0xaa#8] ++ List.replicate 22 0#8
    ++ [77#8, 210#8, 249#8, 45#8]
  let ctx : GtsContext := ⟨1#8, .ctrl32, ⟨1#64⟩, ⟨2#64⟩⟩
  decode buf ctx none = .ok (.tunnelClose 5#32 false) ∧
    encode (.tunnelClose 5#32 false) ctx none ≠ .ok buf
  := by
  decide +kernel

end

end SmolGnet
