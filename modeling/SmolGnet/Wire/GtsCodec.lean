import SmolGnet.Wire.Css
import SmolGnet.Wire.GtsLower

/-!
# GTS packets on the wire

A packet is the fixed fields, a message or padding, and a checksum over an abstract header and the
packet; the checksum of a message of an unchecked stream ends before the message.

`Layout` says what a packet looks like.  What the encoder writes is laid out with zeros as padding,
and what the decoder accepts is laid out.  So what was encoded is decoded to the same packet.  The
decoder looks at the padding of messages and of requests for tunnels only: what it accepts is what
the encoder writes exactly if the padding of the other packets is zero too.
-/

namespace SmolGnet

open Octets

/-! ### Profiles -/

namespace Direction

def bits : Direction → U16
  | openerToPeer => 1#16
  | peerToOpener => 2#16
  | bidirectional => 3#16

def fromBits (v : U16) : Except Error Direction :=
  if v = 1#16 then .ok openerToPeer
  else if v = 2#16 then .ok peerToOpener
  else if v = 3#16 then .ok bidirectional
  else .error .profileViolation

end Direction

namespace StreamProfile

/-- The profile as a packet has it. -/
def toWire (p : StreamProfile) : Except Error U16 := do
  let _ ← p.validate
  return ((BitVec.ofBool p.unreliable).setWidth 16 <<< 15)
    ||| ((BitVec.ofBool p.variableLen).setWidth 16 <<< 14)
    ||| ((BitVec.ofBool p.sequenced).setWidth 16 <<< 13)
    ||| ((BitVec.ofBool p.uncheckedPayload).setWidth 16 <<< 12)
    ||| (p.direction.bits <<< 10)
    ||| p.sizeClass.toWire.setWidth 16

/-- The profile of a packet. -/
def fromWire (v : U16) : Except Error StreamProfile :=
  if v &&& 0x03f0#16 ≠ 0#16 then .error .profileViolation
  else do
    let direction ← Direction.fromBits ((v >>> 10) &&& 3#16)
    let sizeClass ← SizeClass.fromWire ((v &&& 0xf#16).setWidth 8)
    validate
      { unreliable := v &&& 0x8000#16 ≠ 0#16
        variableLen := v &&& 0x4000#16 ≠ 0#16
        sequenced := v &&& 0x2000#16 ≠ 0#16
        uncheckedPayload := v &&& 0x1000#16 ≠ 0#16
        direction
        sizeClass }

end StreamProfile

/-- What the GDP header says about a packet. -/
structure GtsContext where
  gdpVersion : U8
  sizeClass : SizeClass
  source : GdpAddress
  destination : GdpAddress
  deriving DecidableEq

/-- The checksum of a packet. -/
def computeCrc (ctx : GtsContext) (gts : Bytes) : U32 :=
  let c := Crc32.new
  let c := c.updateBits ((ctx.gdpVersion &&& 3#8).setWidth 64) 2
  let c := c.updateBits 0x2#64 4
  let c := c.updateBits (ctx.sizeClass.toWire.setWidth 64) 4
  let c := c.updateBits ctx.source.value 64
  let c := c.updateBits ctx.destination.value 64
  let c := c.updateBytes gts
  c.finalize

namespace GtsPacket

/-- The register of the checksum after the pseudo-header. -/
def pseudoHeader (ctx : GtsContext) : Crc32 :=
  let c := Crc32.new
  let c := c.updateBits ((ctx.gdpVersion &&& 3#8).setWidth 64) 2
  let c := c.updateBits 0x2#64 4
  let c := c.updateBits (ctx.sizeClass.toWire.setWidth 64) 4
  let c := c.updateBits ctx.source.value 64
  c.updateBits ctx.destination.value 64

theorem computeCrc_eq (ctx : GtsContext) (gts : Bytes) :
  computeCrc ctx gts = ((pseudoHeader ctx).updateBytes gts).finalize
  := rfl

end GtsPacket

/-- The profile of a message, which has to be known and valid. -/
def messageProfile (profile : Option StreamProfile) : Except Error StreamProfile :=
  match profile with
  | none => .error .profileViolation
  | some sp => sp.validate

/-! ### Encoding -/

/-- What is written: the fixed fields, what follows them, and where the part that the checksum covers
ends. -/
structure GtsTxPlan where
  lower : GtsLowerPacket
  tail : Bytes
  crcCoverageEnd : ℕ

/-- The zeros between the fixed fields and the checksum. -/
def zeroTail (total : ℕ) (lower : GtsLowerPacket) : Except Error Bytes :=
  if total < 4 then .error .invalidLength
  else do
    let crcOff := total - 4
    let prefixLen ← lowerPrefixLen lower.packetType
    if crcOff < prefixLen then .error .invalidLength
    else .ok (List.replicate (crcOff - prefixLen) 0#8)

/-- The length of a message as 16 bits. -/
def lengthOption (data : Bytes) : Except Error U16 :=
  if 2 ^ 16 ≤ data.length then .error .messageTooLarge
  else .ok (BitVec.ofNat 16 data.length)

/-- Write the sequence number of a message, if its stream has them. -/
def placeSequence (rest : Bytes) (sequenced : Bool) (sequence : Option U32) :
    Except Error (Bytes × ℕ) :=
  match sequenced, sequence with
  | true, some seq => .ok (copyInto rest 0 (toBeBytes seq), 4)
  | true, none => .error .profileViolation
  | false, some _ => .error .profileViolation
  | false, none => .ok (rest, 0)

/-- Write the length of a message at a position, if it has one, and the message behind it.  Without a
length the message has to fill what is left.  The result has the position of the message. -/
def placeMessage (rest : Bytes) (pos : ℕ) (data : Bytes) (hasLength : Bool) :
    Except Error (Bytes × ℕ) := do
  let (rest, pos) ←
    if hasLength then do
      let n ← lengthOption data
      pure (copyInto rest pos (toBeBytes n), pos + 2)
    else pure (rest, pos)
  if rest.length < pos + data.length then .error .messageTooLarge
  else if !hasLength ∧ pos + data.length ≠ rest.length then .error .invalidLength
  else .ok (copyInto rest pos data, pos)

/-- A packet without a message: the fixed fields and zeros. -/
def planControl (total : ℕ) (lower : GtsLowerPacket) : Except Error (GtsLowerPacket × Bytes × ℕ) := do
  let tail ← zeroTail total lower
  return (lower, tail, total - 4)

/-- What is written for a packet. -/
def planPacket (packet : GtsPacket) (ctx : GtsContext) (profile : Option StreamProfile)
    (total : ℕ) : Except Error (GtsLowerPacket × Bytes × ℕ) :=
  let crcOff := total - 4
  match packet with
  | .connect initiatorReceiveTunnel initiatorResetId sp initialReceiveCredit css => do
    let sp ← sp.validate
    if sp.unreliable ∧ initialReceiveCredit ≠ 0#8 then .error .profileViolation
    else
      let profileWire ← sp.toWire
      let lower :=
        .connect initiatorReceiveTunnel initiatorResetId profileWire initialReceiveCredit
      let tail ← zeroTail total lower
      let css ← css.encode
      if tail.length < css.length then .error .invalidLength
      else .ok (lower, copyInto tail 0 css, crcOff)
  | .connectAck initiatorReceiveTunnel responderReceiveTunnel responderResetId status
      initialReceiveCredit =>
    planControl total (.connectAck initiatorReceiveTunnel responderReceiveTunnel responderResetId
      status initialReceiveCredit 0#8)
  | .streamOpen tunnelId streamId sp initialReceiveCredit => do
    let sp ← sp.validate
    if sp.unreliable ∧ initialReceiveCredit ≠ 0#8 then .error .profileViolation
    else
      let profileWire ← sp.toWire
      planControl total (.streamOpen tunnelId streamId profileWire initialReceiveCredit 0#8)
  | .streamAck tunnelId streamId status initialReceiveCredit =>
    planControl total (.streamAck tunnelId streamId status initialReceiveCredit 0#8)
  | .data tunnelId streamId sequence data isEnd => do
    let sp ← messageProfile profile
    if sp.unreliable ∨ (!sp.variableLen ∧ ctx.sizeClass ≠ sp.sizeClass) then
      .error .profileViolation
    else if sp.variableLen ∧ sp.sizeClass.toWire < ctx.sizeClass.toWire then
      .error .profileViolation
    else if crcOff < 12 then .error .invalidLength
    else
      let rest := List.replicate (crcOff - 10) 0#8
      let (rest, _) ← placeMessage rest 0 data (sp.variableLen || isEnd)
      .ok (.data tunnelId streamId sequence isEnd (fromBeBytes 16 (slice rest 0 2)), rest.drop 2,
        crcOff)
  | .ack tunnelId streamId ackBase receiveBitmap receiveCredit =>
    planControl total (.ack tunnelId streamId ackBase receiveBitmap receiveCredit 0#8)
  | .datagram tunnelId streamId sequence data => do
    let sp ← messageProfile profile
    if !sp.unreliable ∨ (!sp.variableLen ∧ ctx.sizeClass ≠ sp.sizeClass) then
      .error .profileViolation
    else if sp.variableLen ∧ sp.sizeClass.toWire < ctx.sizeClass.toWire then
      .error .profileViolation
    else if crcOff < 12 then .error .invalidLength
    else
      let rest := List.replicate (crcOff - 6) 0#8
      let (rest, pos) ← placeSequence rest sp.sequenced sequence
      let (rest, pos) ← placeMessage rest pos data sp.variableLen
      let metaEnd := 6 + pos
      let coverage := if sp.uncheckedPayload then metaEnd else crcOff
      .ok (.datagram tunnelId streamId
          #v[rest.getD 0 0#8, rest.getD 1 0#8, rest.getD 2 0#8, rest.getD 3 0#8, rest.getD 4 0#8,
            rest.getD 5 0#8],
        rest.drop 6, coverage)
  | .streamClose tunnelId streamId finalSequence isAck =>
    planControl total (.streamClose tunnelId streamId finalSequence isAck)
  | .tunnelClose tunnelId isAck => planControl total (.tunnelClose tunnelId isAck)
  | .reset tunnelId resetId reason => planControl total (.reset tunnelId resetId reason)
  | .streamReset tunnelId streamId reason isAck =>
    planControl total (.streamReset tunnelId streamId reason 0#8 isAck)

/-- What is written for a packet, with a check of the lengths. -/
def prepareEncode (packet : GtsPacket) (ctx : GtsContext) (profile : Option StreamProfile) :
    Except Error GtsTxPlan :=
  let total := ctx.sizeClass.bytes
  if total < 4 then .error .invalidLength
  else do
    let crcOff := total - 4
    let (lower, tail, crcCoverageEnd) ← planPacket packet ctx profile total
    let prefixLen ← lowerPrefixLen lower.packetType
    if prefixLen + tail.length ≠ crcOff ∨ crcOff < crcCoverageEnd then .error .invalidLength
    else .ok { lower, tail, crcCoverageEnd }

/-- Write what was planned, and the checksum. -/
def finishEncode (plan : GtsTxPlan) (ctx : GtsContext) : Except Error Bytes :=
  let total := ctx.sizeClass.bytes
  if total < 4 then .error .invalidLength
  else do
    let crcOff := total - 4
    let prefixLen ← lowerPrefixLen plan.lower.packetType
    let fields ← encodeLower plan.lower
    if fields.length ≠ prefixLen ∨ prefixLen + plan.tail.length ≠ crcOff then
      .error .invalidLength
    else
      let out := List.replicate total 0#8
      let out := copyInto out 0 fields
      let out := copyInto out prefixLen plan.tail
      let crc := computeCrc ctx (out.take plan.crcCoverageEnd)
      .ok (copyInto out crcOff (toBeBytes crc))

/-- The bytes of a packet. -/
def GtsPacket.encode (packet : GtsPacket) (ctx : GtsContext) (profile : Option StreamProfile) :
    Except Error Bytes := do
  let plan ← prepareEncode packet ctx profile
  finishEncode plan ctx

/-! ### Decoding -/

/-- The message at a position.  What follows a message with a length has to be zero. -/
def takePayload (buf : Bytes) (crcOff pos : ℕ) (valid : Option ℕ) : Except Error Bytes :=
  let n := valid.getD (crcOff - pos)
  if crcOff < pos + n then .error .invalidLength
  else if valid.isSome ∧ (slice buf (pos + n) (crcOff - (pos + n))).any (fun b => b ≠ 0#8) then
    .error .invalidField
  else .ok (slice buf pos n)

/-- The packet with the given fixed fields, and where its options end. -/
def readPacket (buf : Bytes) (ctx : GtsContext) (profile : Option StreamProfile)
    (lower : GtsLowerPacket) : Except Error (GtsPacket × ℕ) :=
  let crcOff := buf.length - 4
  match lower with
  | .connect initiatorReceiveTunnel initiatorResetId profileWire initialReceiveCredit => do
    let streamProfile ← StreamProfile.fromWire profileWire
    if streamProfile.unreliable ∧ initialReceiveCredit ≠ 0#8 then .error .profileViolation
    else
      let pos := 12
      let (css, n) ← ServiceSelector.decode (slice buf pos (crcOff - pos))
      if (slice buf (pos + n) (crcOff - (pos + n))).any (fun b => b ≠ 0#8) then
        .error .invalidField
      else
        .ok (.connect initiatorReceiveTunnel initiatorResetId streamProfile initialReceiveCredit
          css, crcOff)
  | .connectAck initiatorReceiveTunnel responderReceiveTunnel responderResetId status
      initialReceiveCredit reserved =>
    if reserved ≠ 0#8 then .error .invalidField
    else
      .ok (.connectAck initiatorReceiveTunnel responderReceiveTunnel responderResetId status
        initialReceiveCredit, crcOff)
  | .streamOpen tunnelId streamId profileWire initialReceiveCredit reserved => do
    let streamProfile ← StreamProfile.fromWire profileWire
    if reserved ≠ 0#8 ∨ (streamProfile.unreliable ∧ initialReceiveCredit ≠ 0#8) then
      .error .profileViolation
    else .ok (.streamOpen tunnelId streamId streamProfile initialReceiveCredit, crcOff)
  | .streamAck tunnelId streamId status initialReceiveCredit reserved =>
    if reserved ≠ 0#8 then .error .invalidField
    else .ok (.streamAck tunnelId streamId status initialReceiveCredit, crcOff)
  | .data tunnelId streamId sequence isEnd optionProbe => do
    let sp ← messageProfile profile
    if sp.unreliable ∨ (!sp.variableLen ∧ ctx.sizeClass ≠ sp.sizeClass)
        ∨ (sp.variableLen ∧ sp.sizeClass.toWire < ctx.sizeClass.toWire) then
      .error .profileViolation
    else
      let (pos, valid) :=
        if isEnd ∨ sp.variableLen then (12, some optionProbe.toNat) else (10, none)
      let data ← takePayload buf crcOff pos valid
      .ok (.data tunnelId streamId sequence data isEnd, pos)
  | .ack tunnelId streamId ackBase receiveBitmap receiveCredit reserved =>
    if reserved ≠ 0#8 then .error .invalidField
    else .ok (.ack tunnelId streamId ackBase receiveBitmap receiveCredit, crcOff)
  | .datagram tunnelId streamId optionProbe => do
    let sp ← messageProfile profile
    if !sp.unreliable ∨ (!sp.variableLen ∧ ctx.sizeClass ≠ sp.sizeClass)
        ∨ (sp.variableLen ∧ sp.sizeClass.toWire < ctx.sizeClass.toWire) then
      .error .profileViolation
    else
      let (sequence, optionPos) :=
        if sp.sequenced then (some (fromBeBytes 32 (slice optionProbe.toList 0 4)), 4)
        else (none, 0)
      let (valid, optionPos) :=
        if sp.variableLen then
          (some (fromBeBytes 16 (slice optionProbe.toList optionPos 2)).toNat, optionPos + 2)
        else (none, optionPos)
      let pos := 6 + optionPos
      let data ← takePayload buf crcOff pos valid
      .ok (.datagram tunnelId streamId sequence data, pos)
  | .streamClose tunnelId streamId finalSequence isAck =>
    .ok (.streamClose tunnelId streamId finalSequence isAck, crcOff)
  | .tunnelClose tunnelId isAck => .ok (.tunnelClose tunnelId isAck, crcOff)
  | .reset tunnelId resetId reason => .ok (.reset tunnelId resetId reason, crcOff)
  | .streamReset tunnelId streamId reason reserved isAck =>
    if reserved ≠ 0#8 then .error .invalidField
    else .ok (.streamReset tunnelId streamId reason isAck, crcOff)

/-- The checksum of the message is left out. -/
def uncheckedMessage (profile : Option StreamProfile) (ty : GtsType) : Bool :=
  (profile.map (fun sp => sp.unreliable && sp.uncheckedPayload)).getD false && ty = .datagram

/-- The packet with the given fixed fields, if its checksum is right. -/
def finishDecode (buf : Bytes) (ctx : GtsContext) (profile : Option StreamProfile)
    (lower : GtsLowerPacket) : Except Error GtsPacket := do
  let crcOff := buf.length - 4
  let (packet, metaEnd) ← readPacket buf ctx profile lower
  let unchecked := uncheckedMessage profile lower.packetType
  let got := fromBeBytes 32 (buf.drop crcOff)
  let want := computeCrc ctx (buf.take (if unchecked then metaEnd else crcOff))
  if got ≠ want then .error .invalidCrc else .ok packet

/-- The packet that `buf` encodes. -/
def GtsPacket.decode (buf : Bytes) (ctx : GtsContext) (profile : Option StreamProfile) :
    Except Error GtsPacket :=
  if buf.length ≠ ctx.sizeClass.bytes ∨ buf.length < 5 then .error .invalidLength
  else do
    let lower ← parseLower buf
    finishDecode buf ctx profile lower

end SmolGnet
