import SmolGnet.Wire.Gts

/-!
# The fixed fields of GTS packets

A GTS packet begins with a type and the fields that are there whatever the profile of the stream
is.  They are written one after the other, and read back as they were written.  A message of a
stream has an option probe at the end: two or six bytes that are a length, a sequence number or
the first bytes of the message, as the profile says.
-/

namespace SmolGnet

open Octets

/-- The types of packets. -/
inductive GtsType where
  | reserved
  | connect
  | connectAck
  | streamOpen
  | streamAck
  | data
  | ack
  | dataEnd
  | streamClose
  | streamCloseAck
  | tunnelClose
  | tunnelCloseAck
  | reset
  | datagram
  | streamReset
  | streamResetAck
  deriving DecidableEq, Repr

namespace GtsType

/-- The number of the type, `self as u8`. -/
def toWire : GtsType → U8
  | reserved => 0#8
  | connect => 1#8
  | connectAck => 2#8
  | streamOpen => 3#8
  | streamAck => 4#8
  | data => 5#8
  | ack => 6#8
  | dataEnd => 7#8
  | streamClose => 8#8
  | streamCloseAck => 9#8
  | tunnelClose => 10#8
  | tunnelCloseAck => 11#8
  | reset => 12#8
  | datagram => 13#8
  | streamReset => 14#8
  | streamResetAck => 15#8

/-- The types in the order of their numbers. -/
def all : List GtsType :=
  [reserved, connect, connectAck, streamOpen, streamAck, data, ack, dataEnd, streamClose,
    streamCloseAck, tunnelClose, tunnelCloseAck, reset, datagram, streamReset, streamResetAck]

/-- The type with a number.  Four bits are read, so there is one. -/
def fromWire (v : U8) : Except Error GtsType :=
  .ok (all.getD (v &&& 0x0f#8).toNat reserved)

end GtsType

/-- The length of the fixed fields with the type. -/
def lowerPrefixLen : GtsType → Except Error ℕ
  | .connect => .ok 12
  | .connectAck => .ok 16
  | .streamOpen => .ok 10
  | .streamAck => .ok 9
  | .data | .dataEnd => .ok 12
  | .ack => .ok 16
  | .datagram => .ok 12
  | .streamClose | .streamCloseAck => .ok 10
  | .tunnelClose | .tunnelCloseAck => .ok 5
  | .reset => .ok 10
  | .streamReset | .streamResetAck => .ok 8
  | .reserved => .error .unsupported

/-- The fixed fields of a packet. -/
inductive GtsLowerPacket where
  | connect (initiatorReceiveTunnel initiatorResetId : U32) (profile : U16)
      (initialReceiveCredit : U8)
  | connectAck (initiatorReceiveTunnel responderReceiveTunnel responderResetId : U32)
      (status initialReceiveCredit reserved : U8)
  | streamOpen (tunnelId : U32) (streamId : U8) (profile : U16)
      (initialReceiveCredit reserved : U8)
  | streamAck (tunnelId : U32) (streamId status initialReceiveCredit reserved : U8)
  | data (tunnelId : U32) (streamId : U8) (sequence : U32) (isEnd : Bool) (optionProbe : U16)
  | ack (tunnelId : U32) (streamId : U8) (ackBase receiveBitmap : U32)
      (receiveCredit reserved : U8)
  | datagram (tunnelId : U32) (streamId : U8) (optionProbe : Vector U8 6)
  | streamClose (tunnelId : U32) (streamId : U8) (finalSequence : U32) (ack : Bool)
  | tunnelClose (tunnelId : U32) (ack : Bool)
  | reset (tunnelId resetId : U32) (reason : U8)
  | streamReset (tunnelId : U32) (streamId reason reserved : U8) (ack : Bool)
  deriving DecidableEq

/-- The type of the packet. -/
def GtsLowerPacket.packetType : GtsLowerPacket → GtsType
  | connect .. => .connect
  | connectAck .. => .connectAck
  | streamOpen .. => .streamOpen
  | streamAck .. => .streamAck
  | data _ _ _ isEnd _ => if isEnd then .dataEnd else .data
  | ack .. => .ack
  | datagram .. => .datagram
  | streamClose _ _ _ isAck => if isAck then .streamCloseAck else .streamClose
  | tunnelClose _ isAck => if isAck then .tunnelCloseAck else .tunnelClose
  | reset .. => .reset
  | streamReset _ _ _ _ isAck => if isAck then .streamResetAck else .streamReset

/-! ### Reading -/

/-- Read the integer at a position, which moves behind it. -/
def readBe (w : ℕ) (buf : Bytes) (limit : ℕ) : StateT ℕ (Except Error) (BitVec w) :=
  fun pos =>
    if limit < pos + w / 8 then .error .invalidLength
    else .ok (fromBeBytes w (slice buf pos (w / 8)), pos + w / 8)

def readU32 : Bytes → ℕ → StateT ℕ (Except Error) U32 := readBe 32

def readU16 : Bytes → ℕ → StateT ℕ (Except Error) U16 := readBe 16

def readU8 : Bytes → ℕ → StateT ℕ (Except Error) U8 := readBe 8

/-- Read the fields of a packet of a type. -/
def readFields (buf : Bytes) (limit : ℕ) :
    GtsType → StateT ℕ (Except Error) GtsLowerPacket
  | .connect => do
    let initiatorReceiveTunnel ← readU32 buf limit
    let initiatorResetId ← readU32 buf limit
    let profile ← readU16 buf limit
    let initialReceiveCredit ← readU8 buf limit
    return .connect initiatorReceiveTunnel initiatorResetId profile initialReceiveCredit
  | .connectAck => do
    let initiatorReceiveTunnel ← readU32 buf limit
    let responderReceiveTunnel ← readU32 buf limit
    let responderResetId ← readU32 buf limit
    let status ← readU8 buf limit
    let initialReceiveCredit ← readU8 buf limit
    let reserved ← readU8 buf limit
    return .connectAck initiatorReceiveTunnel responderReceiveTunnel responderResetId status
      initialReceiveCredit reserved
  | .streamOpen => do
    let tunnelId ← readU32 buf limit
    let streamId ← readU8 buf limit
    let profile ← readU16 buf limit
    let initialReceiveCredit ← readU8 buf limit
    let reserved ← readU8 buf limit
    return .streamOpen tunnelId streamId profile initialReceiveCredit reserved
  | .streamAck => do
    let tunnelId ← readU32 buf limit
    let streamId ← readU8 buf limit
    let status ← readU8 buf limit
    let initialReceiveCredit ← readU8 buf limit
    let reserved ← readU8 buf limit
    return .streamAck tunnelId streamId status initialReceiveCredit reserved
  | .data => readData false
  | .dataEnd => readData true
  | .ack => do
    let tunnelId ← readU32 buf limit
    let streamId ← readU8 buf limit
    let ackBase ← readU32 buf limit
    let receiveBitmap ← readU32 buf limit
    let receiveCredit ← readU8 buf limit
    let reserved ← readU8 buf limit
    return .ack tunnelId streamId ackBase receiveBitmap receiveCredit reserved
  | .datagram => do
    let tunnelId ← readU32 buf limit
    let streamId ← readU8 buf limit
    let probe0 ← readU8 buf limit
    let probe1 ← readU8 buf limit
    let probe2 ← readU8 buf limit
    let probe3 ← readU8 buf limit
    let probe4 ← readU8 buf limit
    let probe5 ← readU8 buf limit
    return .datagram tunnelId streamId #v[probe0, probe1, probe2, probe3, probe4, probe5]
  | .streamClose => readStreamClose false
  | .streamCloseAck => readStreamClose true
  | .tunnelClose => readTunnelClose false
  | .tunnelCloseAck => readTunnelClose true
  | .reset => do
    let tunnelId ← readU32 buf limit
    let resetId ← readU32 buf limit
    let reason ← readU8 buf limit
    return .reset tunnelId resetId reason
  | .streamReset => readStreamReset false
  | .streamResetAck => readStreamReset true
  | .reserved => throw .unsupported
where
  readData (isEnd : Bool) : StateT ℕ (Except Error) GtsLowerPacket := do
    let tunnelId ← readU32 buf limit
    let streamId ← readU8 buf limit
    let sequence ← readU32 buf limit
    let optionProbe ← readU16 buf limit
    return .data tunnelId streamId sequence isEnd optionProbe
  readStreamClose (ack : Bool) : StateT ℕ (Except Error) GtsLowerPacket := do
    let tunnelId ← readU32 buf limit
    let streamId ← readU8 buf limit
    let finalSequence ← readU32 buf limit
    return .streamClose tunnelId streamId finalSequence ack
  readTunnelClose (ack : Bool) : StateT ℕ (Except Error) GtsLowerPacket := do
    let tunnelId ← readU32 buf limit
    return .tunnelClose tunnelId ack
  readStreamReset (ack : Bool) : StateT ℕ (Except Error) GtsLowerPacket := do
    let tunnelId ← readU32 buf limit
    let streamId ← readU8 buf limit
    let reason ← readU8 buf limit
    let reserved ← readU8 buf limit
    return .streamReset tunnelId streamId reason reserved ack

/-- The fixed fields of the packet in `buf`. -/
def parseLower (buf : Bytes) : Except Error GtsLowerPacket :=
  if buf.length < 5 then .error .invalidLength
  else if buf.getD 0 0#8 >>> 4 ≠ 0#8 then .error .unsupported
  else do
    let ty ← GtsType.fromWire (buf.getD 0 0#8 &&& 0x0f#8)
    let prefixLen ← lowerPrefixLen ty
    if buf.length < prefixLen + 4 then .error .invalidLength
    else (readFields buf prefixLen ty).run' 1

/-! ### Writing -/

/-- Write an integer at a position, which moves behind it. -/
def putBe {w : ℕ} (v : BitVec w) : StateT (Bytes × ℕ) (Except Error) Unit :=
  fun (out, pos) =>
    if out.length < pos + w / 8 then .error .invalidLength
    else .ok ((), copyInto out pos (toBeBytes v), pos + w / 8)

def putU32 : U32 → StateT (Bytes × ℕ) (Except Error) Unit := putBe

def putU16 : U16 → StateT (Bytes × ℕ) (Except Error) Unit := putBe

def putU8 : U8 → StateT (Bytes × ℕ) (Except Error) Unit := putBe

/-- Write the fields of a packet. -/
def putFields : GtsLowerPacket → StateT (Bytes × ℕ) (Except Error) Unit
  | .connect initiatorReceiveTunnel initiatorResetId profile initialReceiveCredit => do
    putU32 initiatorReceiveTunnel
    putU32 initiatorResetId
    putU16 profile
    putU8 initialReceiveCredit
  | .connectAck initiatorReceiveTunnel responderReceiveTunnel responderResetId status
      initialReceiveCredit reserved => do
    putU32 initiatorReceiveTunnel
    putU32 responderReceiveTunnel
    putU32 responderResetId
    putU8 status
    putU8 initialReceiveCredit
    putU8 reserved
  | .streamOpen tunnelId streamId profile initialReceiveCredit reserved => do
    putU32 tunnelId
    putU8 streamId
    putU16 profile
    putU8 initialReceiveCredit
    putU8 reserved
  | .streamAck tunnelId streamId status initialReceiveCredit reserved => do
    putU32 tunnelId
    putU8 streamId
    putU8 status
    putU8 initialReceiveCredit
    putU8 reserved
  | .data tunnelId streamId sequence _ optionProbe => do
    putU32 tunnelId
    putU8 streamId
    putU32 sequence
    putU16 optionProbe
  | .ack tunnelId streamId ackBase receiveBitmap receiveCredit reserved => do
    putU32 tunnelId
    putU8 streamId
    putU32 ackBase
    putU32 receiveBitmap
    putU8 receiveCredit
    putU8 reserved
  | .datagram tunnelId streamId optionProbe => do
    putU32 tunnelId
    putU8 streamId
    optionProbe.toList.forM putU8
  | .streamClose tunnelId streamId finalSequence _ => do
    putU32 tunnelId
    putU8 streamId
    putU32 finalSequence
  | .tunnelClose tunnelId _ => putU32 tunnelId
  | .reset tunnelId resetId reason => do
    putU32 tunnelId
    putU32 resetId
    putU8 reason
  | .streamReset tunnelId streamId reason reserved _ => do
    putU32 tunnelId
    putU8 streamId
    putU8 reason
    putU8 reserved

/-- The bytes of the fixed fields. -/
def encodeLower (lower : GtsLowerPacket) : Except Error Bytes := do
  let len ← lowerPrefixLen lower.packetType
  let out := copyInto (List.replicate len 0#8) 0 [lower.packetType.toWire]
  let ((), out, pos) ← (putFields lower).run (out, 1)
  if pos ≠ out.length then .error .invalidLength else .ok out

/-! ### The bytes of the fields -/

/-- The fields of a packet one after the other. -/
def GtsLowerPacket.fields : GtsLowerPacket → Bytes
  | connect initiatorReceiveTunnel initiatorResetId profile initialReceiveCredit =>
    toBeBytes initiatorReceiveTunnel ++ (toBeBytes initiatorResetId ++ (toBeBytes profile
      ++ toBeBytes initialReceiveCredit))
  | connectAck initiatorReceiveTunnel responderReceiveTunnel responderResetId status
      initialReceiveCredit reserved =>
    toBeBytes initiatorReceiveTunnel ++ (toBeBytes responderReceiveTunnel
      ++ (toBeBytes responderResetId ++ (toBeBytes status ++ (toBeBytes initialReceiveCredit
      ++ toBeBytes reserved))))
  | streamOpen tunnelId streamId profile initialReceiveCredit reserved =>
    toBeBytes tunnelId ++ (toBeBytes streamId ++ (toBeBytes profile
      ++ (toBeBytes initialReceiveCredit ++ toBeBytes reserved)))
  | streamAck tunnelId streamId status initialReceiveCredit reserved =>
    toBeBytes tunnelId ++ (toBeBytes streamId ++ (toBeBytes status
      ++ (toBeBytes initialReceiveCredit ++ toBeBytes reserved)))
  | data tunnelId streamId sequence _ optionProbe =>
    toBeBytes tunnelId ++ (toBeBytes streamId ++ (toBeBytes sequence ++ toBeBytes optionProbe))
  | ack tunnelId streamId ackBase receiveBitmap receiveCredit reserved =>
    toBeBytes tunnelId ++ (toBeBytes streamId ++ (toBeBytes ackBase
      ++ (toBeBytes receiveBitmap ++ (toBeBytes receiveCredit ++ toBeBytes reserved))))
  | datagram tunnelId streamId optionProbe =>
    toBeBytes tunnelId ++ (toBeBytes streamId ++ optionProbe.toList)
  | streamClose tunnelId streamId finalSequence _ =>
    toBeBytes tunnelId ++ (toBeBytes streamId ++ toBeBytes finalSequence)
  | tunnelClose tunnelId _ => toBeBytes tunnelId
  | reset tunnelId resetId reason =>
    toBeBytes tunnelId ++ (toBeBytes resetId ++ toBeBytes reason)
  | streamReset tunnelId streamId reason reserved _ =>
    toBeBytes tunnelId ++ (toBeBytes streamId ++ (toBeBytes reason ++ toBeBytes reserved))

/-- The type and the fields. -/
def GtsLowerPacket.wire (lower : GtsLowerPacket) : Bytes :=
  lower.packetType.toWire :: lower.fields

/-- The fields with the type are as long as the type says. -/
theorem GtsLowerPacket.lowerPrefixLen_packetType (lower : GtsLowerPacket) :
  lowerPrefixLen lower.packetType = .ok lower.wire.length
  := by
  cases lower <;> simp [wire, fields, packetType] <;> (try split) <;> rfl

/-! ### Writing the fields -/

/-- The step writes bytes over the first zeros that are left. -/
def Writes (x : StateT (Bytes × ℕ) (Except Error) Unit) (bytes : Bytes) : Prop :=
  ∀ written n, bytes.length ≤ n →
    x.run (written ++ List.replicate n 0#8, written.length)
      = .ok ((), (written ++ bytes) ++ List.replicate (n - bytes.length) 0#8,
          (written ++ bytes).length)

namespace Writes

theorem putBe {w : ℕ} (v : BitVec w) :
  Writes (putBe v) (toBeBytes v)
  := by
  intro written n hroom
  rw [length_toBeBytes] at hroom
  change (if _ then _ else _) = _
  rw [if_neg (by rw [List.length_append, List.length_replicate]; omega),
    copyInto_append rfl, List.drop_replicate, length_toBeBytes, List.length_append,
    length_toBeBytes, List.append_assoc]

theorem bind {x y : StateT (Bytes × ℕ) (Except Error) Unit} {a b : Bytes} (hx : Writes x a)
    (hy : Writes y b) :
  Writes (x >>= fun _ => y) (a ++ b)
  := by
  intro written n hroom
  rw [List.length_append] at hroom
  rw [StateT.run_bind, hx written n (by omega), ok_bind, hy (written ++ a) _ (by omega),
    List.append_assoc written a b, @List.length_append _ a b, Nat.sub_add_eq]

theorem forM (bytes : Bytes) :
  Writes (bytes.forM putU8) bytes
  := by
  induction bytes with
  | nil =>
    intro written n hroom
    rw [List.append_nil]
    rfl
  | cons b bytes ih =>
    have hput : Writes (putU8 b) [b] := by
      rw [← toBeBytes_byte]
      exact putBe b
    exact hput.bind ih

end Writes

/-- The fields are written one after the other. -/
theorem writes_putFields (lower : GtsLowerPacket) :
  Writes (putFields lower) lower.fields
  := by
  have put : ∀ {w : ℕ} (v : BitVec w), Writes (putBe v) (toBeBytes v) := Writes.putBe
  cases lower with
  | connect => exact (put _).bind ((put _).bind ((put _).bind (put _)))
  | connectAck =>
    exact (put _).bind ((put _).bind ((put _).bind ((put _).bind ((put _).bind (put _)))))
  | streamOpen => exact (put _).bind ((put _).bind ((put _).bind ((put _).bind (put _))))
  | streamAck => exact (put _).bind ((put _).bind ((put _).bind ((put _).bind (put _))))
  | data => exact (put _).bind ((put _).bind ((put _).bind (put _)))
  | ack => exact (put _).bind ((put _).bind ((put _).bind ((put _).bind ((put _).bind (put _)))))
  | datagram => exact (put _).bind ((put _).bind (.forM _))
  | streamClose => exact (put _).bind ((put _).bind (put _))
  | tunnelClose => exact put _
  | reset => exact (put _).bind ((put _).bind (put _))
  | streamReset => exact (put _).bind ((put _).bind ((put _).bind (put _)))

theorem encodeLower_eq (lower : GtsLowerPacket) :
  encodeLower lower = .ok lower.wire
  := by
  have hrun := writes_putFields lower [lower.packetType.toWire] lower.fields.length le_rfl
  have hout : copyInto (List.replicate lower.wire.length 0#8) 0 [lower.packetType.toWire]
      = [lower.packetType.toWire] ++ List.replicate lower.fields.length 0#8 := by
    rw [copyInto_zero, List.drop_replicate]
    rfl
  rw [Nat.sub_self, List.replicate_zero, List.append_nil] at hrun
  rw [encodeLower, lower.lowerPrefixLen_packetType, ok_bind, hout]
  dsimp only
  rw [show 1 = [lower.packetType.toWire].length from rfl, hrun, ok_bind]
  exact if_neg (not_not.mpr rfl)

/-! ### Reading the fields -/

/-- What it takes to read an integer and go on. -/
theorem run'_readBe_bind {w : ℕ} {buf : Bytes} {limit pos : ℕ} {α : Type}
    {f : BitVec w → StateT ℕ (Except Error) α} {a : α} (hw : 8 * (w / 8) = w)
    (hlimit : limit ≤ buf.length) :
  (readBe w buf limit >>= f).run' pos = .ok a ↔ pos + w / 8 ≤ limit ∧
    ∃ v, buf.drop pos = toBeBytes v ++ buf.drop (pos + w / 8) ∧ (f v).run' (pos + w / 8) = .ok a
  := by
  have hrun : (readBe w buf limit >>= f).run' pos
      = (readBe w buf limit pos >>= fun r => (f r.1 r.2)).map Prod.fst := rfl
  by_cases hroom : pos + w / 8 ≤ limit
  · rw [hrun, readBe, if_neg (by omega), ok_bind]
    constructor
    · intro h
      exact ⟨hroom, _, (fromBeBytes_slice_eq_iff hw (by omega)).mp rfl, h⟩
    · rintro ⟨-, v, hv, h⟩
      rw [(fromBeBytes_slice_eq_iff hw (by omega)).mpr hv]
      exact h
  · rw [hrun, readBe, if_pos (by omega)]
    constructor
    · intro h
      cases h
    · rintro ⟨h, -⟩
      exact absurd h hroom

theorem run'_pure {α : Type} {pos : ℕ} {a b : α} :
  (pure a : StateT ℕ (Except Error) α).run' pos = .ok b ↔ a = b
  := Except.ok.injEq a b ▸ Iff.rfl

/-- The fields that are read are those that stand behind the type. -/
theorem fields_of_readFields {ty : GtsType} {len : ℕ} {buf : Bytes} {lower : GtsLowerPacket}
    (hlen : lowerPrefixLen ty = .ok len) (hbuf : len ≤ buf.length)
    (h : (readFields buf len ty).run' 1 = .ok lower) :
  lower.packetType = ty ∧ buf.drop 1 = lower.fields ++ buf.drop len
  := by
  cases ty
  all_goals cases hlen
  all_goals
    simp only [readFields, readFields.readData, readFields.readStreamClose,
      readFields.readTunnelClose, readFields.readStreamReset, readU32, readU16, readU8,
      run'_readBe_bind, run'_pure, hbuf, Nat.reduceDiv, Nat.reduceMul, Nat.reduceAdd,
      Nat.reduceLeDiff, true_and] at h
  case connect =>
    obtain ⟨a, ha, b, hb, c, hc, d, hd, rfl⟩ := h
    rw [ha, hb, hc, hd]
    simp [GtsLowerPacket.packetType, GtsLowerPacket.fields]
  case connectAck =>
    obtain ⟨a, ha, b, hb, c, hc, d, hd, e, he, f, hf, rfl⟩ := h
    rw [ha, hb, hc, hd, he, hf]
    simp [GtsLowerPacket.packetType, GtsLowerPacket.fields]
  case streamOpen =>
    obtain ⟨a, ha, b, hb, c, hc, d, hd, e, he, rfl⟩ := h
    rw [ha, hb, hc, hd, he]
    simp [GtsLowerPacket.packetType, GtsLowerPacket.fields]
  case streamAck =>
    obtain ⟨a, ha, b, hb, c, hc, d, hd, e, he, rfl⟩ := h
    rw [ha, hb, hc, hd, he]
    simp [GtsLowerPacket.packetType, GtsLowerPacket.fields]
  case data =>
    obtain ⟨a, ha, b, hb, c, hc, d, hd, rfl⟩ := h
    rw [ha, hb, hc, hd]
    simp [GtsLowerPacket.packetType, GtsLowerPacket.fields]
  case ack =>
    obtain ⟨a, ha, b, hb, c, hc, d, hd, e, he, f, hf, rfl⟩ := h
    rw [ha, hb, hc, hd, he, hf]
    simp [GtsLowerPacket.packetType, GtsLowerPacket.fields]
  case dataEnd =>
    obtain ⟨a, ha, b, hb, c, hc, d, hd, rfl⟩ := h
    rw [ha, hb, hc, hd]
    simp [GtsLowerPacket.packetType, GtsLowerPacket.fields]
  case streamClose =>
    obtain ⟨a, ha, b, hb, c, hc, rfl⟩ := h
    rw [ha, hb, hc]
    simp [GtsLowerPacket.packetType, GtsLowerPacket.fields]
  case streamCloseAck =>
    obtain ⟨a, ha, b, hb, c, hc, rfl⟩ := h
    rw [ha, hb, hc]
    simp [GtsLowerPacket.packetType, GtsLowerPacket.fields]
  case tunnelClose =>
    obtain ⟨a, ha, rfl⟩ := h
    rw [ha]
    simp [GtsLowerPacket.packetType, GtsLowerPacket.fields]
  case tunnelCloseAck =>
    obtain ⟨a, ha, rfl⟩ := h
    rw [ha]
    simp [GtsLowerPacket.packetType, GtsLowerPacket.fields]
  case reset =>
    obtain ⟨a, ha, b, hb, c, hc, rfl⟩ := h
    rw [ha, hb, hc]
    simp [GtsLowerPacket.packetType, GtsLowerPacket.fields]
  case streamReset =>
    obtain ⟨a, ha, b, hb, c, hc, d, hd, rfl⟩ := h
    rw [ha, hb, hc, hd]
    simp [GtsLowerPacket.packetType, GtsLowerPacket.fields]
  case streamResetAck =>
    obtain ⟨a, ha, b, hb, c, hc, d, hd, rfl⟩ := h
    rw [ha, hb, hc, hd]
    simp [GtsLowerPacket.packetType, GtsLowerPacket.fields]
  case datagram =>
    obtain ⟨a, ha, b, hb, p, hp, q, hq, r, hr, s, hs, t, ht, u, hu, rfl⟩ := h
    rw [ha, hb, hp, hq, hr, hs, ht, hu]
    simp [GtsLowerPacket.packetType, GtsLowerPacket.fields, toBeBytes_byte]

/-- Reading an integer that was written, and going on. -/
theorem run'_readBe_bind_of_drop {w : ℕ} {buf post : Bytes} {limit pos : ℕ} {α : Type} {v : BitVec w}
    {f : BitVec w → StateT ℕ (Except Error) α} {a : α} (hlimit : limit ≤ buf.length)
    (hw : 8 * (w / 8) = w) (hroom : pos + w / 8 ≤ limit) (h : buf.drop pos = toBeBytes v ++ post)
    (hnext : buf.drop (pos + w / 8) = post → (f v).run' (pos + w / 8) = .ok a) :
  (readBe w buf limit >>= f).run' pos = .ok a
  := by
  obtain ⟨hv, hpost⟩ := drop_eq_toBeBytes_append_iff.mp h
  exact (run'_readBe_bind hw hlimit).mpr ⟨hroom, v, hv, hnext hpost⟩

/-- Fields that were written are read back. -/
theorem readFields_of_fields {len : ℕ} {buf : Bytes} {lower : GtsLowerPacket}
    (hlen : lowerPrefixLen lower.packetType = .ok len) (hbuf : len ≤ buf.length)
    (h : buf.drop 1 = lower.fields ++ buf.drop len) :
  (readFields buf len lower.packetType).run' 1 = .ok lower
  := by
  cases lower
  case connect =>
    cases hlen
    simp only [GtsLowerPacket.fields, List.append_assoc] at h
    iterate 4 refine run'_readBe_bind_of_drop hbuf rfl (by decide) h fun h => ?_
    rfl
  case connectAck =>
    cases hlen
    simp only [GtsLowerPacket.fields, List.append_assoc] at h
    iterate 6 refine run'_readBe_bind_of_drop hbuf rfl (by decide) h fun h => ?_
    rfl
  case streamOpen =>
    cases hlen
    simp only [GtsLowerPacket.fields, List.append_assoc] at h
    iterate 5 refine run'_readBe_bind_of_drop hbuf rfl (by decide) h fun h => ?_
    rfl
  case streamAck =>
    cases hlen
    simp only [GtsLowerPacket.fields, List.append_assoc] at h
    iterate 5 refine run'_readBe_bind_of_drop hbuf rfl (by decide) h fun h => ?_
    rfl
  case data _ _ _ isEnd _ =>
    simp only [GtsLowerPacket.fields, List.append_assoc] at h
    cases isEnd
    all_goals
      cases hlen
      iterate 4 refine run'_readBe_bind_of_drop hbuf rfl (by decide) h fun h => ?_
      rfl
  case ack =>
    cases hlen
    simp only [GtsLowerPacket.fields, List.append_assoc] at h
    iterate 6 refine run'_readBe_bind_of_drop hbuf rfl (by decide) h fun h => ?_
    rfl
  case streamClose _ _ _ isAck =>
    simp only [GtsLowerPacket.fields, List.append_assoc] at h
    cases isAck
    all_goals
      cases hlen
      iterate 3 refine run'_readBe_bind_of_drop hbuf rfl (by decide) h fun h => ?_
      rfl
  case tunnelClose _ isAck =>
    simp only [GtsLowerPacket.fields] at h
    cases isAck
    all_goals
      cases hlen
      iterate 1 refine run'_readBe_bind_of_drop hbuf rfl (by decide) h fun h => ?_
      rfl
  case reset =>
    cases hlen
    simp only [GtsLowerPacket.fields, List.append_assoc] at h
    iterate 3 refine run'_readBe_bind_of_drop hbuf rfl (by decide) h fun h => ?_
    rfl
  case streamReset _ _ _ _ isAck =>
    simp only [GtsLowerPacket.fields, List.append_assoc] at h
    cases isAck
    all_goals
      cases hlen
      iterate 4 refine run'_readBe_bind_of_drop hbuf rfl (by decide) h fun h => ?_
      rfl
  case datagram tunnelId streamId optionProbe =>
    cases hlen
    obtain ⟨p, q, r, s, t, u, rfl⟩ : ∃ p q r s t u, optionProbe = #v[p, q, r, s, t, u] := by
      use optionProbe[0], optionProbe[1], optionProbe[2], optionProbe[3], optionProbe[4],
        optionProbe[5]
      ext i hi
      interval_cases i <;> rfl
    have hprobe : #v[p, q, r, s, t, u].toList ++ buf.drop 12
        = toBeBytes p ++ (toBeBytes q ++ (toBeBytes r ++ (toBeBytes s ++ (toBeBytes t
          ++ (toBeBytes u ++ buf.drop 12))))) := by
      simp [toBeBytes_byte]
    simp only [GtsLowerPacket.fields, List.append_assoc, hprobe] at h
    iterate 8 refine run'_readBe_bind_of_drop hbuf rfl (by decide) h fun h => ?_
    rfl

theorem GtsType.fromWire_toWire (ty : GtsType) :
  ty.toWire >>> 4 = 0#8 ∧ fromWire (ty.toWire &&& 0x0f#8) = .ok ty
  := by
  cases ty <;> exact ⟨rfl, rfl⟩

theorem GtsType.toWire_of_fromWire {v : U8} {ty : GtsType} (hv : v >>> 4 = 0#8)
    (h : fromWire (v &&& 0x0f#8) = .ok ty) :
  v = ty.toWire
  := by
  cases h
  revert hv
  revert v
  decide

/-- The fixed fields of a byte string are those that it begins with, when there is room for a checksum
behind them. -/
theorem parseLower_eq_ok_iff {buf : Bytes} {lower : GtsLowerPacket} :
  parseLower buf = .ok lower ↔ ∃ tail, buf = lower.wire ++ tail ∧ 4 ≤ tail.length
  := by
  rw [parseLower]
  constructor
  · intro h
    split at h
    · cases h
    next hshort =>
    split at h
    · cases h
    next hhigh =>
    obtain ⟨ty, hty, h⟩ := bind_eq_ok.mp h
    obtain ⟨len, hlen, h⟩ := bind_eq_ok.mp h
    split at h
    · cases h
    next hroom =>
    obtain ⟨htype, hfields⟩ := fields_of_readFields hlen (by omega) h
    use buf.drop len
    have hbuf : buf = buf.getD 0 0#8 :: buf.drop 1 := by
      cases buf with
      | nil => simp at hshort
      | cons b buf => rfl
    refine ⟨?_, ?_⟩
    · rw [GtsLowerPacket.wire, List.cons_append, ← hfields, htype,
        ← GtsType.toWire_of_fromWire (not_not.mp hhigh) hty]
      exact hbuf
    · rw [List.length_drop]
      omega
  · rintro ⟨tail, rfl, htail⟩
    have hlen := lower.lowerPrefixLen_packetType
    have hfields : (lower.wire ++ tail).drop 1
        = lower.fields ++ (lower.wire ++ tail).drop lower.wire.length := by
      rw [List.drop_left]
      rfl
    have hfirst : (lower.wire ++ tail).getD 0 0#8 = lower.packetType.toWire := rfl
    obtain ⟨hhigh, htype⟩ := lower.packetType.fromWire_toWire
    rw [hfirst, if_neg, if_neg, htype, ok_bind, hlen, ok_bind, if_neg,
      readFields_of_fields hlen (by simp) hfields]
    · rw [List.length_append]
      omega
    · exact not_not.mpr hhigh
    · rw [GtsLowerPacket.wire, List.cons_append, List.length_cons, List.length_append]
      omega

end SmolGnet
