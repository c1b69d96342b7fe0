import SmolGnet.Library.P4
import SmolGnet.Wire.GtsCodec

/-!
# The GTS headers in P4

The fixed fields of GTS packets as a P4 program declares them, its parser, and the adaptor that makes
a `GtsLowerPacket` of what the parser finds, and the bytes of one.  The adaptor reads and writes
what the handwritten codec reads and writes.
-/

namespace SmolGnet

open Octets P4

namespace P4Gts

/-! ### The program -/

structure GtsKindH where
  reserved : BitVec 4
  packetType : BitVec 4
  deriving DecidableEq, Inhabited

structure GtsConnectH where
  initiatorReceiveTunnel : BitVec 32
  initiatorResetId : BitVec 32
  profile : BitVec 16
  initialReceiveCredit : BitVec 8
  deriving DecidableEq, Inhabited

structure GtsConnectAckH where
  initiatorReceiveTunnel : BitVec 32
  responderReceiveTunnel : BitVec 32
  responderResetId : BitVec 32
  status : BitVec 8
  initialReceiveCredit : BitVec 8
  reserved : BitVec 8
  deriving DecidableEq, Inhabited

structure GtsStreamOpenH where
  tunnelId : BitVec 32
  streamId : BitVec 8
  profile : BitVec 16
  initialReceiveCredit : BitVec 8
  reserved : BitVec 8
  deriving DecidableEq, Inhabited

structure GtsStreamAckH where
  tunnelId : BitVec 32
  streamId : BitVec 8
  status : BitVec 8
  initialReceiveCredit : BitVec 8
  reserved : BitVec 8
  deriving DecidableEq, Inhabited

structure GtsDataH where
  tunnelId : BitVec 32
  streamId : BitVec 8
  sequence : BitVec 32
  deriving DecidableEq, Inhabited

structure GtsDataOptionH where
  optionProbe : BitVec 16
  deriving DecidableEq, Inhabited

structure GtsAckH where
  tunnelId : BitVec 32
  streamId : BitVec 8
  ackBase : BitVec 32
  receiveBitmap : BitVec 32
  receiveCredit : BitVec 8
  reserved : BitVec 8
  deriving DecidableEq, Inhabited

structure GtsDatagramH where
  tunnelId : BitVec 32
  streamId : BitVec 8
  deriving DecidableEq, Inhabited

structure GtsDatagramOptionsH where
  option0 : BitVec 8
  option1 : BitVec 8
  option2 : BitVec 8
  option3 : BitVec 8
  option4 : BitVec 8
  option5 : BitVec 8
  deriving DecidableEq, Inhabited

structure GtsStreamCloseH where
  tunnelId : BitVec 32
  streamId : BitVec 8
  finalSequence : BitVec 32
  deriving DecidableEq, Inhabited

structure GtsTunnelCloseH where
  tunnelId : BitVec 32
  deriving DecidableEq, Inhabited

structure GtsResetH where
  tunnelId : BitVec 32
  resetId : BitVec 32
  reason : BitVec 8
  deriving DecidableEq, Inhabited

structure GtsStreamResetH where
  tunnelId : BitVec 32
  streamId : BitVec 8
  reason : BitVec 8
  reserved : BitVec 8
  deriving DecidableEq, Inhabited

instance : Header GtsKindH where
  widths := [4, 4]
  fields h := (h.reserved, h.packetType, ())
  ofFields := fun (reserved, packetType, ()) =>
    { reserved, packetType }
  ofFields_fields _ := rfl
  fields_ofFields _ := rfl

instance : Header GtsConnectH where
  widths := [32, 32, 16, 8]
  fields h := (h.initiatorReceiveTunnel, h.initiatorResetId, h.profile, h.initialReceiveCredit, ())
  ofFields := fun (initiatorReceiveTunnel, initiatorResetId, profile, initialReceiveCredit, ()) =>
    { initiatorReceiveTunnel, initiatorResetId, profile, initialReceiveCredit }
  ofFields_fields _ := rfl
  fields_ofFields _ := rfl

instance : Header GtsConnectAckH where
  widths := [32, 32, 32, 8, 8, 8]
  fields h := (h.initiatorReceiveTunnel, h.responderReceiveTunnel, h.responderResetId, h.status,
    h.initialReceiveCredit, h.reserved, ())
  ofFields := fun (initiatorReceiveTunnel, responderReceiveTunnel, responderResetId, status,
    initialReceiveCredit, reserved, ()) =>
    { initiatorReceiveTunnel, responderReceiveTunnel, responderResetId, status,
      initialReceiveCredit, reserved }
  ofFields_fields _ := rfl
  fields_ofFields _ := rfl

instance : Header GtsStreamOpenH where
  widths := [32, 8, 16, 8, 8]
  fields h := (h.tunnelId, h.streamId, h.profile, h.initialReceiveCredit, h.reserved, ())
  ofFields := fun (tunnelId, streamId, profile, initialReceiveCredit, reserved, ()) =>
    { tunnelId, streamId, profile, initialReceiveCredit, reserved }
  ofFields_fields _ := rfl
  fields_ofFields _ := rfl

instance : Header GtsStreamAckH where
  widths := [32, 8, 8, 8, 8]
  fields h := (h.tunnelId, h.streamId, h.status, h.initialReceiveCredit, h.reserved, ())
  ofFields := fun (tunnelId, streamId, status, initialReceiveCredit, reserved, ()) =>
    { tunnelId, streamId, status, initialReceiveCredit, reserved }
  ofFields_fields _ := rfl
  fields_ofFields _ := rfl

instance : Header GtsDataH where
  widths := [32, 8, 32]
  fields h := (h.tunnelId, h.streamId, h.sequence, ())
  ofFields := fun (tunnelId, streamId, sequence, ()) =>
    { tunnelId, streamId, sequence }
  ofFields_fields _ := rfl
  fields_ofFields _ := rfl

instance : Header GtsDataOptionH where
  widths := [16]
  fields h := (h.optionProbe, ())
  ofFields := fun (optionProbe, ()) =>
    { optionProbe }
  ofFields_fields _ := rfl
  fields_ofFields _ := rfl

instance : Header GtsAckH where
  widths := [32, 8, 32, 32, 8, 8]
  fields h := (h.tunnelId, h.streamId, h.ackBase, h.receiveBitmap, h.receiveCredit, h.reserved, ())
  ofFields := fun (tunnelId, streamId, ackBase, receiveBitmap, receiveCredit, reserved, ()) =>
    { tunnelId, streamId, ackBase, receiveBitmap, receiveCredit, reserved }
  ofFields_fields _ := rfl
  fields_ofFields _ := rfl

instance : Header GtsDatagramH where
  widths := [32, 8]
  fields h := (h.tunnelId, h.streamId, ())
  ofFields := fun (tunnelId, streamId, ()) =>
    { tunnelId, streamId }
  ofFields_fields _ := rfl
  fields_ofFields _ := rfl

instance : Header GtsDatagramOptionsH where
  widths := [8, 8, 8, 8, 8, 8]
  fields h := (h.option0, h.option1, h.option2, h.option3, h.option4, h.option5, ())
  ofFields := fun (option0, option1, option2, option3, option4, option5, ()) =>
    { option0, option1, option2, option3, option4, option5 }
  ofFields_fields _ := rfl
  fields_ofFields _ := rfl

instance : Header GtsStreamCloseH where
  widths := [32, 8, 32]
  fields h := (h.tunnelId, h.streamId, h.finalSequence, ())
  ofFields := fun (tunnelId, streamId, finalSequence, ()) =>
    { tunnelId, streamId, finalSequence }
  ofFields_fields _ := rfl
  fields_ofFields _ := rfl

instance : Header GtsTunnelCloseH where
  widths := [32]
  fields h := (h.tunnelId, ())
  ofFields := fun (tunnelId, ()) =>
    { tunnelId }
  ofFields_fields _ := rfl
  fields_ofFields _ := rfl

instance : Header GtsResetH where
  widths := [32, 32, 8]
  fields h := (h.tunnelId, h.resetId, h.reason, ())
  ofFields := fun (tunnelId, resetId, reason, ()) =>
    { tunnelId, resetId, reason }
  ofFields_fields _ := rfl
  fields_ofFields _ := rfl

instance : Header GtsStreamResetH where
  widths := [32, 8, 8, 8]
  fields h := (h.tunnelId, h.streamId, h.reason, h.reserved, ())
  ofFields := fun (tunnelId, streamId, reason, reserved, ()) =>
    { tunnelId, streamId, reason, reserved }
  ofFields_fields _ := rfl
  fields_ofFields _ := rfl

/-- The headers of a packet; `none` is a header that is not valid. -/
structure HeadersT where
  kind : Option GtsKindH := none
  connect : Option GtsConnectH := none
  connectAck : Option GtsConnectAckH := none
  streamOpen : Option GtsStreamOpenH := none
  streamAck : Option GtsStreamAckH := none
  data : Option GtsDataH := none
  dataOption : Option GtsDataOptionH := none
  ack : Option GtsAckH := none
  datagram : Option GtsDatagramH := none
  datagramOptions : Option GtsDatagramOptionsH := none
  streamClose : Option GtsStreamCloseH := none
  tunnelClose : Option GtsTunnelCloseH := none
  reset : Option GtsResetH := none
  streamReset : Option GtsStreamResetH := none
  deriving DecidableEq

def parseConnect (hdr : HeadersT) : Parser HeadersT := do
  let connect ← Header.extract GtsConnectH
  return { hdr with connect := some connect }

def parseConnectAck (hdr : HeadersT) : Parser HeadersT := do
  let connectAck ← Header.extract GtsConnectAckH
  return { hdr with connectAck := some connectAck }

def parseStreamOpen (hdr : HeadersT) : Parser HeadersT := do
  let streamOpen ← Header.extract GtsStreamOpenH
  return { hdr with streamOpen := some streamOpen }

def parseStreamAck (hdr : HeadersT) : Parser HeadersT := do
  let streamAck ← Header.extract GtsStreamAckH
  return { hdr with streamAck := some streamAck }

def parseData (hdr : HeadersT) : Parser HeadersT := do
  let data ← Header.extract GtsDataH
  let dataOption ← Header.extract GtsDataOptionH
  return { hdr with data := some data, dataOption := some dataOption }

def parseAck (hdr : HeadersT) : Parser HeadersT := do
  let ack ← Header.extract GtsAckH
  return { hdr with ack := some ack }

def parseDatagram (hdr : HeadersT) : Parser HeadersT := do
  let datagram ← Header.extract GtsDatagramH
  let datagramOptions ← Header.extract GtsDatagramOptionsH
  return { hdr with datagram := some datagram, datagramOptions := some datagramOptions }

def parseStreamClose (hdr : HeadersT) : Parser HeadersT := do
  let streamClose ← Header.extract GtsStreamCloseH
  return { hdr with streamClose := some streamClose }

def parseTunnelClose (hdr : HeadersT) : Parser HeadersT := do
  let tunnelClose ← Header.extract GtsTunnelCloseH
  return { hdr with tunnelClose := some tunnelClose }

def parseReset (hdr : HeadersT) : Parser HeadersT := do
  let reset ← Header.extract GtsResetH
  return { hdr with reset := some reset }

def parseStreamReset (hdr : HeadersT) : Parser HeadersT := do
  let streamReset ← Header.extract GtsStreamResetH
  return { hdr with streamReset := some streamReset }

/-- The state that `start` goes to. -/
def parseBody (hdr : HeadersT) (kind : GtsKindH) : Parser HeadersT :=
  if kind.reserved ≠ 0#4 then throw .rejected
  else if kind.packetType = 1#4 then parseConnect hdr
  else if kind.packetType = 2#4 then parseConnectAck hdr
  else if kind.packetType = 3#4 then parseStreamOpen hdr
  else if kind.packetType = 4#4 then parseStreamAck hdr
  else if kind.packetType = 5#4 then parseData hdr
  else if kind.packetType = 6#4 then parseAck hdr
  else if kind.packetType = 7#4 then parseData hdr
  else if kind.packetType = 8#4 then parseStreamClose hdr
  else if kind.packetType = 9#4 then parseStreamClose hdr
  else if kind.packetType = 10#4 then parseTunnelClose hdr
  else if kind.packetType = 11#4 then parseTunnelClose hdr
  else if kind.packetType = 12#4 then parseReset hdr
  else if kind.packetType = 13#4 then parseDatagram hdr
  else if kind.packetType = 14#4 then parseStreamReset hdr
  else if kind.packetType = 15#4 then parseStreamReset hdr
  else throw .rejected

/-- State `start`. -/
def parseStart : Parser HeadersT := do
  let kind ← Header.extract GtsKindH
  parseBody { kind := some kind } kind

/-- The bits of a header, if it is valid. -/
def validBits {H : Type} [Header H] : Option H → List Bool
  | none => []
  | some h => Header.bits h

/-- `hdr.to_bitvec()`. -/
def HeadersT.toBitvec (hdr : HeadersT) : List Bool :=
  validBits hdr.kind ++ validBits hdr.connect ++ validBits hdr.connectAck
    ++ validBits hdr.streamOpen ++ validBits hdr.streamAck ++ validBits hdr.data
    ++ validBits hdr.dataOption ++ validBits hdr.ack ++ validBits hdr.datagram
    ++ validBits hdr.datagramOptions ++ validBits hdr.streamClose ++ validBits hdr.tunnelClose
    ++ validBits hdr.reset ++ validBits hdr.streamReset

/-! ### The adaptor -/

/-- The fixed fields in the headers that the parser has found. -/
def lowerOf (hdr : HeadersT) : GtsType → Except Error GtsLowerPacket
  | .connect =>
    let h := hdr.connect.getD default
    .ok (.connect h.initiatorReceiveTunnel h.initiatorResetId h.profile h.initialReceiveCredit)
  | .connectAck =>
    let h := hdr.connectAck.getD default
    .ok (.connectAck h.initiatorReceiveTunnel h.responderReceiveTunnel h.responderResetId h.status
      h.initialReceiveCredit h.reserved)
  | .streamOpen =>
    let h := hdr.streamOpen.getD default
    .ok (.streamOpen h.tunnelId h.streamId h.profile h.initialReceiveCredit h.reserved)
  | .streamAck =>
    let h := hdr.streamAck.getD default
    .ok (.streamAck h.tunnelId h.streamId h.status h.initialReceiveCredit h.reserved)
  | .data => data false
  | .dataEnd => data true
  | .ack =>
    let h := hdr.ack.getD default
    .ok (.ack h.tunnelId h.streamId h.ackBase h.receiveBitmap h.receiveCredit h.reserved)
  | .datagram =>
    let h := hdr.datagram.getD default
    let options := hdr.datagramOptions.getD default
    .ok (.datagram h.tunnelId h.streamId #v[options.option0, options.option1, options.option2,
      options.option3, options.option4, options.option5])
  | .streamClose => streamClose false
  | .streamCloseAck => streamClose true
  | .tunnelClose => tunnelClose false
  | .tunnelCloseAck => tunnelClose true
  | .reset =>
    let h := hdr.reset.getD default
    .ok (.reset h.tunnelId h.resetId h.reason)
  | .streamReset => streamReset false
  | .streamResetAck => streamReset true
  | .reserved => .error .unsupported
where
  data (isEnd : Bool) : Except Error GtsLowerPacket :=
    let h := hdr.data.getD default
    .ok (.data h.tunnelId h.streamId h.sequence isEnd (hdr.dataOption.getD default).optionProbe)
  streamClose (isAck : Bool) : Except Error GtsLowerPacket :=
    let h := hdr.streamClose.getD default
    .ok (.streamClose h.tunnelId h.streamId h.finalSequence isAck)
  tunnelClose (isAck : Bool) : Except Error GtsLowerPacket :=
    .ok (.tunnelClose (hdr.tunnelClose.getD default).tunnelId isAck)
  streamReset (isAck : Bool) : Except Error GtsLowerPacket :=
    let h := hdr.streamReset.getD default
    .ok (.streamReset h.tunnelId h.streamId h.reason h.reserved isAck)

/-- Read the fixed fields of a packet of a type with the program.  `none` is a panic of the
parser. -/
def runParser (bytes : Bytes) (ty : GtsType) : Option (Except Error GtsLowerPacket) :=
  match parseStart.run (bitsOf bytes) with
  | .error .tooShort => none
  | .error .rejected => some (.error .unsupported)
  | .ok (hdr, _) =>
    if (hdr.kind.getD default).packetType.setWidth 8 ≠ ty.toWire then some (.error .invalidField)
    else some (lowerOf hdr ty)

/-- The fixed fields of the packet in `bytes`.  `none` is a panic of the parser. -/
def parseLower (bytes : Bytes) : Option (Except Error GtsLowerPacket) :=
  if bytes.length < 5 then some (.error .invalidLength)
  else if bytes.getD 0 0#8 >>> 4 ≠ 0#8 then some (.error .unsupported)
  else
    match GtsType.fromWire (bytes.getD 0 0#8 &&& 0x0f#8) with
    | .error err => some (.error err)
    | .ok ty =>
      match lowerPrefixLen ty with
      | .error err => some (.error err)
      | .ok len => if bytes.length < len + 4 then some (.error .invalidLength) else runParser bytes ty

/-- The valid header with the given bytes. -/
def setHeader (H : Type) [Header H] (bytes : Bytes) : Except Error (Option H) :=
  match Header.set H bytes with
  | none => .error .invalidLength
  | some h => .ok (some h)

/-- The headers of a packet with the given fixed fields. -/
def headersOf (lower : GtsLowerPacket) : Except Error HeadersT := do
  let kind ← setHeader GtsKindH [lower.packetType.toWire]
  match lower with
  | .connect initiatorReceiveTunnel initiatorResetId profile initialReceiveCredit =>
    let connect ← setHeader GtsConnectH (toBeBytes initiatorReceiveTunnel
      ++ toBeBytes initiatorResetId ++ toBeBytes profile ++ [initialReceiveCredit])
    return { kind, connect }
  | .connectAck initiatorReceiveTunnel responderReceiveTunnel responderResetId status
      initialReceiveCredit reserved =>
    let connectAck ← setHeader GtsConnectAckH (toBeBytes initiatorReceiveTunnel
      ++ toBeBytes responderReceiveTunnel ++ toBeBytes responderResetId
      ++ [status, initialReceiveCredit, reserved])
    return { kind, connectAck }
  | .streamOpen tunnelId streamId profile initialReceiveCredit reserved =>
    let streamOpen ← setHeader GtsStreamOpenH (toBeBytes tunnelId ++ [streamId]
      ++ toBeBytes profile ++ [initialReceiveCredit, reserved])
    return { kind, streamOpen }
  | .streamAck tunnelId streamId status initialReceiveCredit reserved =>
    let streamAck ← setHeader GtsStreamAckH (toBeBytes tunnelId
      ++ [streamId, status, initialReceiveCredit, reserved])
    return { kind, streamAck }
  | .data tunnelId streamId sequence _ optionProbe =>
    let data ← setHeader GtsDataH (toBeBytes tunnelId ++ [streamId] ++ toBeBytes sequence)
    let dataOption ← setHeader GtsDataOptionH (toBeBytes optionProbe)
    return { kind, data, dataOption }
  | .ack tunnelId streamId ackBase receiveBitmap receiveCredit reserved =>
    let ack ← setHeader GtsAckH (toBeBytes tunnelId ++ [streamId] ++ toBeBytes ackBase
      ++ toBeBytes receiveBitmap ++ [receiveCredit, reserved])
    return { kind, ack }
  | .datagram tunnelId streamId optionProbe =>
    let datagram ← setHeader GtsDatagramH (toBeBytes tunnelId ++ [streamId])
    let datagramOptions ← setHeader GtsDatagramOptionsH optionProbe.toList
    return { kind, datagram, datagramOptions }
  | .streamClose tunnelId streamId finalSequence _ =>
    let streamClose ← setHeader GtsStreamCloseH (toBeBytes tunnelId ++ [streamId]
      ++ toBeBytes finalSequence)
    return { kind, streamClose }
  | .tunnelClose tunnelId _ =>
    let tunnelClose ← setHeader GtsTunnelCloseH (toBeBytes tunnelId)
    return { kind, tunnelClose }
  | .reset tunnelId resetId reason =>
    let reset ← setHeader GtsResetH (toBeBytes tunnelId ++ toBeBytes resetId ++ [reason])
    return { kind, reset }
  | .streamReset tunnelId streamId reason reserved _ =>
    let streamReset ← setHeader GtsStreamResetH (toBeBytes tunnelId
      ++ [streamId, reason, reserved])
    return { kind, streamReset }

/-- The bytes of the fixed fields. -/
def encodeLower (lower : GtsLowerPacket) : Except Error Bytes := do
  let hdr ← headersOf lower
  let out := bytesOf hdr.toBitvec
  let len ← lowerPrefixLen lower.packetType
  if out.length ≠ len then .error .invalidLength else .ok out

/-! ### The two codecs agree -/

theorem validBits_none (H : Type) [Header H] :
  validBits (none : Option H) = []
  := rfl

theorem validBits_read {H : Type} [Header H] {bytes : Bytes}
    (hlen : 8 * bytes.length = Header.size H) :
  validBits (some (Header.read H (bitsOf bytes))) = bitsOf bytes
  := by
  rw [← length_bitsOf] at hlen
  rw [validBits, Header.bits_read (Nat.le_of_eq hlen.symm), ← hlen, List.take_length]

/-- The headers of a packet are its type and its fixed fields. -/
theorem headersOf_spec (lower : GtsLowerPacket) :
  ∃ hdr, headersOf lower = .ok hdr ∧ hdr.toBitvec = bitsOf lower.wire
  := by
  have hfields : ∀ fields : Bytes, lower.fields = fields →
      bitsOf [lower.packetType.toWire] ++ bitsOf fields = bitsOf lower.wire := by
    rintro fields rfl
    rw [← bitsOf_append]
    rfl
  cases lower with
  | data =>
    refine ⟨_, rfl, ?_⟩
    simp only [HeadersT.toBitvec, validBits_none, List.append_nil]
    rw [validBits_read rfl, validBits_read rfl, validBits_read rfl, List.append_assoc,
      ← bitsOf_append]
    apply hfields
    simp only [GtsLowerPacket.fields, toBeBytes_byte, List.append_assoc]
  | datagram tunnelId streamId optionProbe =>
    obtain ⟨option0, option1, option2, option3, option4, option5, rfl⟩ :
        ∃ option0 option1 option2 option3 option4 option5, optionProbe =
          #v[option0, option1, option2, option3, option4, option5] := by
      use optionProbe[0], optionProbe[1], optionProbe[2], optionProbe[3], optionProbe[4],
        optionProbe[5]
      ext i hi
      interval_cases i <;> rfl
    refine ⟨_, rfl, ?_⟩
    simp only [HeadersT.toBitvec, validBits_none, List.append_nil]
    rw [validBits_read rfl, validBits_read rfl, validBits_read rfl, List.append_assoc,
      ← bitsOf_append]
    apply hfields
    simp only [GtsLowerPacket.fields, toBeBytes_byte, List.append_assoc]
  | _ =>
    refine ⟨_, rfl, ?_⟩
    simp only [HeadersT.toBitvec, validBits_none, List.append_nil]
    rw [validBits_read rfl, validBits_read rfl]
    apply hfields
    simp only [GtsLowerPacket.fields, toBeBytes_byte, List.append_assoc, List.cons_append,
      List.nil_append]

/-- The fixed fields of every packet are written as the handwritten codec writes them. -/
theorem encodeLower_eq (lower : GtsLowerPacket) :
  encodeLower lower = SmolGnet.encodeLower lower
  := by
  obtain ⟨hdr, hhdr, hbits⟩ := headersOf_spec lower
  rw [SmolGnet.encodeLower_eq, encodeLower, hhdr, ok_bind, hbits, bytesOf_bitsOf,
    lower.lowerPrefixLen_packetType, ok_bind, if_neg (not_not_intro rfl)]

/-- The parser reads the type, and goes on with what follows. -/
theorem parseStart_eq (ty : GtsType) (tail : Bytes) :
  parseStart.run (bitsOf (ty.toWire :: tail))
    = (parseBody { kind := some ⟨0#4, ty.toWire.setWidth 4⟩ } ⟨0#4, ty.toWire.setWidth 4⟩).run
      (bitsOf tail)
  := by
  have hbits : bitsOf (ty.toWire :: tail)
      = Header.bits (⟨0#4, ty.toWire.setWidth 4⟩ : GtsKindH) ++ bitsOf tail := by
    rw [← List.singleton_append, bitsOf_append]
    cases ty
    all_goals rfl
  rw [parseStart, StateT.run_bind, hbits, Header.extract_bits_append]
  rfl

/-- A state that extracts one header. -/
theorem run_extract {H : Type} [Header H] {n : ℕ} {tail : Bytes} (hsize : Header.size H = 8 * n)
    (hws : ∀ w ∈ Header.widths H, 8 * (w / 8) = w) (h : n ≤ tail.length) (set : H → HeadersT) :
  (Header.extract H >>= fun h => return set h : Parser HeadersT).run (bitsOf tail)
    = .ok (set (Header.ofFields (Fields.readBytes (Header.widths H) tail 0)), bitsOf (tail.drop n))
  := by
  have hextract := @Header.extract_drop H _ n 0 tail hsize hws (by rwa [Nat.zero_add])
  rw [List.drop_zero, Nat.zero_add] at hextract
  rw [StateT.run_bind, hextract]
  rfl

/-- A state that extracts two headers. -/
theorem run_extract_extract {H K : Type} [Header H] [Header K] {n m : ℕ} {tail : Bytes}
    (hsize : Header.size H = 8 * n) (hws : ∀ w ∈ Header.widths H, 8 * (w / 8) = w)
    (hsizeK : Header.size K = 8 * m) (hwsK : ∀ w ∈ Header.widths K, 8 * (w / 8) = w)
    (h : n + m ≤ tail.length) (set : H → K → HeadersT) :
  (Header.extract H >>= fun h => Header.extract K >>= fun k => return set h k :
      Parser HeadersT).run (bitsOf tail)
    = .ok (set (Header.ofFields (Fields.readBytes (Header.widths H) tail 0))
        (Header.ofFields (Fields.readBytes (Header.widths K) tail n)),
      bitsOf (tail.drop (n + m)))
  := by
  have hextract := @Header.extract_drop H _ n 0 tail hsize hws (by omega)
  rw [List.drop_zero, Nat.zero_add] at hextract
  rw [StateT.run_bind, hextract, ok_bind, StateT.run_bind, Header.extract_drop hsizeK hwsK h]
  rfl

/-- The parser finds the fields that the handwritten decoder reads. -/
theorem parseBody_spec {ty : GtsType} {len : ℕ} {tail : Bytes} (hlen : lowerPrefixLen ty = .ok len)
    (h : len + 4 ≤ tail.length + 1) :
  ∃ hdr rest, (parseBody { kind := some ⟨0#4, ty.toWire.setWidth 4⟩ }
      ⟨0#4, ty.toWire.setWidth 4⟩).run (bitsOf tail) = .ok (hdr, rest) ∧
    hdr.kind = some ⟨0#4, ty.toWire.setWidth 4⟩ ∧
    lowerOf hdr ty = (readFields (ty.toWire :: tail) len ty).run' 1
  := by
  cases ty with
  | reserved => cases hlen
  | connect =>
    cases hlen
    exact ⟨_, _, run_extract (H := GtsConnectH) (n := 11) rfl (by decide) (by omega) _, rfl, rfl⟩
  | connectAck =>
    cases hlen
    exact ⟨_, _, run_extract (H := GtsConnectAckH) (n := 15) rfl (by decide) (by omega) _, rfl, rfl⟩
  | streamOpen =>
    cases hlen
    exact ⟨_, _, run_extract (H := GtsStreamOpenH) (n := 9) rfl (by decide) (by omega) _, rfl, rfl⟩
  | streamAck =>
    cases hlen
    exact ⟨_, _, run_extract (H := GtsStreamAckH) (n := 8) rfl (by decide) (by omega) _, rfl, rfl⟩
  | data | dataEnd =>
    cases hlen
    exact ⟨_, _, run_extract_extract (H := GtsDataH) (K := GtsDataOptionH) (n := 9) (m := 2) rfl
      (by decide) rfl (by decide) (by omega) _, rfl, rfl⟩
  | ack =>
    cases hlen
    exact ⟨_, _, run_extract (H := GtsAckH) (n := 15) rfl (by decide) (by omega) _, rfl, rfl⟩
  | datagram =>
    cases hlen
    exact ⟨_, _, run_extract_extract (H := GtsDatagramH) (K := GtsDatagramOptionsH) (n := 5)
      (m := 6) rfl (by decide) rfl (by decide) (by omega) _, rfl, rfl⟩
  | streamClose | streamCloseAck =>
    cases hlen
    exact ⟨_, _, run_extract (H := GtsStreamCloseH) (n := 9) rfl (by decide) (by omega) _, rfl, rfl⟩
  | tunnelClose | tunnelCloseAck =>
    cases hlen
    exact ⟨_, _, run_extract (H := GtsTunnelCloseH) (n := 4) rfl (by decide) (by omega) _, rfl, rfl⟩
  | reset =>
    cases hlen
    exact ⟨_, _, run_extract (H := GtsResetH) (n := 9) rfl (by decide) (by omega) _, rfl, rfl⟩
  | streamReset | streamResetAck =>
    cases hlen
    exact ⟨_, _, run_extract (H := GtsStreamResetH) (n := 7) rfl (by decide) (by omega) _, rfl, rfl⟩

/-- Every byte string is read as the handwritten decoder reads it. -/
theorem parseLower_eq (bytes : Bytes) :
  parseLower bytes = some (SmolGnet.parseLower bytes)
  := by
  rw [parseLower, SmolGnet.parseLower]
  split
  · rfl
  next hlen =>
  split
  · rfl
  next hhigh =>
  rw [not_not] at hhigh
  obtain ⟨ty, hty⟩ : ∃ ty, GtsType.fromWire (bytes.getD 0 0#8 &&& 0x0f#8) = .ok ty := ⟨_, rfl⟩
  obtain ⟨b, tail, rfl⟩ : ∃ b tail, bytes = b :: tail :=
    List.exists_cons_of_length_pos (by omega)
  obtain rfl : b = ty.toWire := GtsType.toWire_of_fromWire hhigh hty
  rw [hty, ok_bind]
  dsimp only
  cases hprefix : lowerPrefixLen ty with
  | error err => rfl
  | ok len =>
    rw [ok_bind]
    dsimp only
    split
    · rfl
    next hlong =>
    obtain ⟨hdr, rest, hrun, hkind, hlower⟩ := parseBody_spec hprefix (Nat.not_lt.mp hlong)
    have htype : (ty.toWire.setWidth 4).setWidth 8 = ty.toWire := by
      cases ty
      all_goals rfl
    rw [runParser, parseStart_eq, hrun]
    dsimp only
    rw [hkind, Option.getD_some, if_neg (not_not_intro htype), hlower]

/-! ### Packets with either codec -/

/-- Which codec of the fixed fields a build has: the handwritten one, the one in P4, or both, which are
compared. -/
inductive Backend where
  | handwritten
  | p4
  | compare
  deriving DecidableEq

/-- `finish_encode::<E>`, with `encode_lower` of the codec. -/
def finishEncode (encodeLower : GtsLowerPacket → Except Error Bytes) (plan : GtsTxPlan)
    (ctx : GtsContext) : Except Error Bytes :=
  let total := ctx.sizeClass.bytes
  if total < 4 then .error .invalidLength
  else do
    let crcOff := total - 4
    let prefixLen ← lowerPrefixLen plan.lower.packetType
    let fields ← encodeLower plan.lower
    if fields.length ≠ prefixLen ∨ prefixLen + plan.tail.length ≠ crcOff then
      .error .invalidLength
    else
      let out := List.replicate total 0#8
      let out := copyInto out 0 fields
      let out := copyInto out prefixLen plan.tail
      let crc := computeCrc ctx (out.take plan.crcCoverageEnd)
      .ok (copyInto out crcOff (toBeBytes crc))

/-- `encode_with::<E>`, with `encode_lower` of the codec. -/
def encodeWith (encodeLower : GtsLowerPacket → Except Error Bytes) (packet : GtsPacket)
    (ctx : GtsContext) (profile : Option StreamProfile) : Except Error Bytes := do
  let plan ← prepareEncode packet ctx profile
  finishEncode encodeLower plan ctx

/-- The bytes of a packet, in a build. -/
def encodePacket (packet : GtsPacket) (ctx : GtsContext) (profile : Option StreamProfile) :
    Backend → Except Error Bytes
  | .handwritten => encodeWith SmolGnet.encodeLower packet ctx profile
  | .p4 => encodeWith encodeLower packet ctx profile
  | .compare =>
    let handwritten := encodeWith SmolGnet.encodeLower packet ctx profile
    let p4 := encodeWith encodeLower packet ctx profile
    if handwritten ≠ p4 then .error .invalidField else p4

/-- The packet that `buf` encodes, in a build.  `none` is a panic of the parser. -/
def decodePacket (buf : Bytes) (ctx : GtsContext) (profile : Option StreamProfile)
    (backend : Backend) : Option (Except Error GtsPacket) :=
  if buf.length ≠ ctx.sizeClass.bytes ∨ buf.length < 5 then some (.error .invalidLength)
  else
    match backend with
    | .handwritten => some (SmolGnet.parseLower buf >>= finishDecode buf ctx profile)
    | .p4 => (parseLower buf).map fun lower => lower >>= finishDecode buf ctx profile
    | .compare =>
      let handwritten := SmolGnet.parseLower buf
      (parseLower buf).map fun p4 =>
        if handwritten ≠ p4 then .error .invalidField else p4 >>= finishDecode buf ctx profile

theorem encodePacket_eq (packet : GtsPacket) (ctx : GtsContext) (profile : Option StreamProfile)
    (backend : Backend) :
  encodePacket packet ctx profile backend = packet.encode ctx profile
  := by
  have hhandwritten : encodeWith SmolGnet.encodeLower packet ctx profile
      = packet.encode ctx profile := rfl
  have hp4 : encodeWith encodeLower packet ctx profile = packet.encode ctx profile := by
    rw [← hhandwritten, funext encodeLower_eq]
  cases backend with
  | handwritten => exact hhandwritten
  | p4 => exact hp4
  | compare => rw [encodePacket, hhandwritten, hp4, if_neg (not_not_intro rfl)]

theorem decodePacket_eq (buf : Bytes) (ctx : GtsContext) (profile : Option StreamProfile)
    (backend : Backend) :
  decodePacket buf ctx profile backend = some (GtsPacket.decode buf ctx profile)
  := by
  rw [decodePacket.eq_def, GtsPacket.decode]
  split
  · rfl
  · cases backend with
    | handwritten => rfl
    | p4 =>
      dsimp only
      rw [parseLower_eq, Option.map_some]
    | compare =>
      dsimp only
      rw [parseLower_eq, Option.map_some, if_neg (not_not_intro rfl)]

/-- The codec in P4 reads every byte string and writes every packet as the handwritten one does, so
that which of them a build has changes neither encoding nor decoding. -/
theorem codecs_agree :
  (∀ bytes, parseLower bytes = some (SmolGnet.parseLower bytes)) ∧
    (∀ lower, encodeLower lower = SmolGnet.encodeLower lower) ∧
    ∀ backend ctx profile,
      (∀ packet, encodePacket packet ctx profile backend = GtsPacket.encode packet ctx profile) ∧
      ∀ buf, decodePacket buf ctx profile backend = some (GtsPacket.decode buf ctx profile)
  := by
  refine ⟨parseLower_eq, encodeLower_eq, ?_⟩
  intro backend ctx profile
  exact ⟨fun packet => encodePacket_eq packet ctx profile backend,
    fun buf => decodePacket_eq buf ctx profile backend⟩

end P4Gts

end SmolGnet
