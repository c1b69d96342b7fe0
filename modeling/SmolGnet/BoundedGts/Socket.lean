import SmolGnet.Gts.Tunnel
import SmolGnet.Storage

/-!
# The heapless socket

`BoundedGtsSocket` is the transport without allocation.  All its messages are in two
pools: `tx` holds those that have been sent and not acknowledged, `rx` those that have
arrived and have not been taken by the application, of all streams together.  An entry of
`rx` is pending until the messages before it have arrived, and delivered from then on; the
delivered ones are taken in the order of a counter that all streams share.
-/

namespace SmolGnet

/-- What is known of a message that has been sent. -/
structure TxMeta where
  streamId : U8
  sequence : U32
  isEnd : Bool
  sentAt : U64
  deriving DecidableEq

/-- Whether the messages before a message have arrived. -/
inductive RxDisposition where
  | pending
  | delivered
  deriving DecidableEq, Repr

/-- What is known of a message that has arrived. -/
structure RxMeta where
  streamId : U8
  sequence : U32
  isEnd : Bool
  disposition : RxDisposition
  order : U64
  deriving DecidableEq

/-- The state of a stream. -/
structure StreamCore where
  id : U8
  profile : StreamProfile
  state : StreamState
  openedByLocal : Bool
  nextTxSequence : U32
  nextExpected : U32
  peerCredit : U8
  receiveCapacity : U8
  seenReliable : Bool
  unrelRxHighest : Option U32
  unrelTxSequence : U32
  localEnded : Bool
  remoteEnded : Bool
  deriving DecidableEq

/-- A message that has been handed to the application: its length and end mark. -/
structure ReceivedMessage where
  len : ℕ
  isEnd : Bool
  deriving DecidableEq

/-- A message that is sent again. -/
structure Retransmit where
  streamId : U8
  sequence : U32
  isEnd : Bool
  data : Bytes
  deriving DecidableEq

/-- A socket in storage that the caller provides. -/
structure BoundedGtsSocket where
  role : TunnelRole
  state : TunnelState
  localReceiveId : U32
  remoteReceiveId : Option U32
  localResetId : U32
  remoteResetId : Option U32
  css : ServiceSelector
  streams : List (Option StreamCore)
  tx : MessagePool TxMeta
  rx : MessagePool RxMeta
  nextStreamId : U8
  nextDeliveryOrder : U64
  rtoMs : U64
  deriving DecidableEq

namespace BoundedGtsSocket

/-- A socket without streams. -/
def new (role : TunnelRole) (localReceiveId localResetId : U32) (css : ServiceSelector)
    (streams : List (Option StreamCore)) (txSlots : List (MessageSlot TxMeta))
    (txBytes : Bytes) (rxSlots : List (MessageSlot RxMeta)) (rxBytes : Bytes) :
    Except Error BoundedGtsSocket :=
  if streams.isEmpty then .error .invalidLength
  else do
    let tx ← MessagePool.new txSlots txBytes
    let rx ← MessagePool.new rxSlots rxBytes
    .ok
      { role
        state := if role = .initiator then .connecting else .established
        localReceiveId
        remoteReceiveId := none
        localResetId
        remoteResetId := none
        css
        streams := streams.map (fun _ => none)
        tx
        rx
        nextStreamId := if role = .initiator then 2#8 else 1#8
        nextDeliveryOrder := 1#64
        rtoMs := defaultRtoMs }

/-- Set the retransmission timeout. -/
def setRtoMs (s : BoundedGtsSocket) (value : U64) : Except Error BoundedGtsSocket :=
  if value = 0#64 then .error .invalidField else .ok { s with rtoMs := value }

/-- The other side has accepted the tunnel. -/
def establish (s : BoundedGtsSocket) (remoteReceiveId remoteResetId : U32) :
    Except Error BoundedGtsSocket :=
  if s.state = .connecting ∨ s.state = .established then
    .ok { s with
      remoteReceiveId := some remoteReceiveId
      remoteResetId := some remoteResetId
      state := .established }
  else .error .invalidState

/-! ### Streams -/

/-- A number for a stream this side opens. -/
def allocStreamId (s : BoundedGtsSocket) : Except Error (U8 × BoundedGtsSocket) :=
  if s.state ≠ .established then .error .invalidState
  else if 253#8 < s.nextStreamId then .error .bufferFull
  else .ok (s.nextStreamId, { s with nextStreamId := s.nextStreamId + 2#8 })

/-- The slot of the stream `id` and its state. -/
def findStream (s : BoundedGtsSocket) (id : U8) : Option (ℕ × StreamCore) :=
  match s.streams.findIdx? (fun slot => slot.map StreamCore.id == some id) with
  | none => none
  | some idx =>
    match s.streams[idx]? with
    | some (some c) => some (idx, c)
    | _ => none

/-- The state of the stream `id`. -/
def stream (s : BoundedGtsSocket) (id : U8) : Option StreamCore :=
  (s.findStream id).map Prod.snd

/-- Replace the state of the stream in the slot `idx`. -/
def setStream (s : BoundedGtsSocket) (idx : ℕ) (c : StreamCore) : BoundedGtsSocket :=
  { s with streams := s.streams.set idx (some c) }

/-- The state of a stream that is added. -/
def newStream (id : U8) (profile : StreamProfile) (openedByLocal : Bool)
    (receiveCapacity peerCredit : U8) : StreamCore where
  id := id
  profile := profile
  state := .open
  openedByLocal := openedByLocal
  nextTxSequence := 0#32
  nextExpected := 0#32
  peerCredit := if profile.unreliable then 0#8 else peerCredit
  receiveCapacity := if profile.unreliable then 0#8 else receiveCapacity
  seenReliable := false
  unrelRxHighest := none
  unrelTxSequence := 0#32
  localEnded := false
  remoteEnded := false

/-- Add a stream in the first free slot. -/
def addStream (s : BoundedGtsSocket) (id : U8) (profile : StreamProfile) (openedByLocal : Bool)
    (receiveCapacity peerCredit : U8) : Except Error BoundedGtsSocket :=
  match profile.validate with
  | .error err => .error err
  | .ok _ =>
    if s.streams.any (fun slot => slot.map StreamCore.id == some id) then .error .invalidState
    else
      match s.streams.findIdx? Option.isNone with
      | none => .error .bufferFull
      | some idx =>
        .ok (s.setStream idx (newStream id profile openedByLocal receiveCapacity peerCredit))

/-- This end may send. -/
def localMaySend (c : StreamCore) : Bool :=
  if c.openedByLocal then c.profile.direction.openerMaySend else c.profile.direction.peerMaySend

/-- The other end may send. -/
def remoteMaySend (c : StreamCore) : Bool :=
  if c.openedByLocal then c.profile.direction.peerMaySend else c.profile.direction.openerMaySend

/-- The length of a message of a reliable stream with fixed messages. -/
def fixedReliableDataLen (profile : StreamProfile) : Except Error ℕ :=
  GtsStream.checkedLen profile.sizeClass.bytes 14

/-- The greatest length of the last message of a reliable stream with fixed messages. -/
def fixedReliableEndCapacity (profile : StreamProfile) : Except Error ℕ :=
  GtsStream.checkedLen profile.sizeClass.bytes 16

/-- The length of a message of an unreliable stream with fixed messages. -/
def fixedUnreliableDataLen (profile : StreamProfile) : Except Error ℕ :=
  GtsStream.checkedLen profile.sizeClass.bytes (if profile.sequenced then 14 else 10)

/-- A message of the given length agrees with the profile. -/
def validateSendLen (profile : StreamProfile) (dataLen : ℕ) (isEnd : Bool) :
    Except Error Unit :=
  if profile.unreliable then
    if isEnd then .error .profileViolation
    else if profile.variableLen then
      GtsStream.reject (profile.sizeClass.bytes < dataLen + GtsStream.datagramOverhead profile)
        .messageTooLarge
    else do
      let len ← fixedUnreliableDataLen profile
      GtsStream.reject (dataLen ≠ len) .invalidLength
  else if profile.variableLen then
    GtsStream.reject (profile.sizeClass.bytes < dataLen + 16) .messageTooLarge
  else if isEnd then do
    let cap ← fixedReliableEndCapacity profile
    GtsStream.reject (cap < dataLen) .messageTooLarge
  else do
    let len ← fixedReliableDataLen profile
    GtsStream.reject (dataLen ≠ len) .invalidLength

/-! ### Sending -/

/-- Send a message; the result is its sequence number, if it has one. -/
def send (s : BoundedGtsSocket) (streamId : U8) (data : Bytes) (isEnd : Bool) (now : U64) :
    Except Error (Option U32 × BoundedGtsSocket) :=
  match s.findStream streamId with
  | none => .error .unknownStream
  | some (idx, c) =>
    if c.state ≠ .open ∨ c.localEnded then .error .invalidState
    else if !localMaySend c then .error .directionViolation
    else
      match validateSendLen c.profile data.length isEnd with
      | .error err => .error err
      | .ok () =>
        if c.profile.unreliable then
          if c.profile.sequenced then
            .ok (some c.unrelTxSequence,
              s.setStream idx { c with unrelTxSequence := c.unrelTxSequence + 1#32 })
          else .ok (none, s)
        else if c.peerCredit = 0#8 then .error .wouldBlock
        else
          match s.tx.insert ⟨streamId, c.nextTxSequence, isEnd, now⟩ data with
          | .error err => .error err
          | .ok (_, tx) =>
            .ok (some c.nextTxSequence,
              { s with tx }.setStream idx
                { c with
                  nextTxSequence := c.nextTxSequence + 1#32
                  peerCredit := c.peerCredit - 1#8
                  localEnded := c.localEnded || isEnd })

/-- The acknowledgement covers the message. -/
def txAcked (sequence base bitmap : U32) : Bool :=
  acked base bitmap sequence

/-- Free those of the slots whose messages are acknowledged. -/
def freeAcked (streamId : U8) (ack : Ack) :
    List ℕ → MessagePool TxMeta → Except Error Unit × MessagePool TxMeta
  | [], tx => (.ok (), tx)
  | idx :: rest, tx =>
    match tx.metadata idx with
    | none => freeAcked streamId ack rest tx
    | some m =>
      if m.streamId = streamId ∧ txAcked m.sequence ack.base ack.bitmap then
        match tx.remove idx with
        | .error err => (.error err, tx)
        | .ok (_, tx) => freeAcked streamId ack rest tx
      else freeAcked streamId ack rest tx

/-- An acknowledgement arrives. -/
def onAck (s : BoundedGtsSocket) (streamId : U8) (ack : Ack) :
    Except Error Unit × BoundedGtsSocket :=
  match s.findStream streamId with
  | none => (.error .unknownStream, s)
  | some (idx, c) =>
    if c.profile.unreliable ∨ c.state = .reset then (.error .profileViolation, s)
    else
      let s := s.setStream idx { c with peerCredit := ack.credit }
      let (result, tx) := freeAcked streamId ack (List.range s.tx.capacity) s.tx
      (result, { s with tx })

/-- The first message whose retransmission is due; it counts as sent at time `now`. -/
def retransmitDue (s : BoundedGtsSocket) (now : U64) :
    Except Error (Option Retransmit) × BoundedGtsSocket :=
  match s.tx.entries.find? (fun e => decide (s.rtoMs ≤ saturatingSub now e.2.sentAt)) with
  | none => (.ok none, s)
  | some (idx, m) =>
    match s.tx.setMetadata idx { m with sentAt := now } with
    | .error err => (.error err, s)
    | .ok tx =>
      match tx.get idx with
      | none => (.error .invalidState, { s with tx })
      | some (_, data) =>
        (.ok (some ⟨m.streamId, m.sequence, m.isEnd, data⟩), { s with tx })

/-! ### Receiving -/

/-- The number of messages of the stream that have arrived and have not been taken. -/
def rxCountFor (s : BoundedGtsSocket) (streamId : U8) : ℕ :=
  s.rx.entries.countP (fun e => e.2.streamId = streamId)

/-- The bitmap of the messages of the stream that are pending, relative to `base`. -/
def rxBitmap (s : BoundedGtsSocket) (streamId : U8) (base : U32) : U32 :=
  s.rx.entries.foldl
    (fun bitmap e =>
      if e.2.streamId = streamId ∧ e.2.disposition = .pending then
        if e.2.sequence - base - 1#32 < 32#32 then
          bitmap ||| 1#32 <<< (e.2.sequence - base - 1#32)
        else bitmap
      else bitmap)
    0#32

/-- The acknowledgement of the current state, once a message of a reliable stream has
arrived. -/
def ackState (s : BoundedGtsSocket) (streamId : U8) : Except Error (Option Ack) :=
  match s.stream streamId with
  | none => .error .unknownStream
  | some c =>
    if c.profile.unreliable || !c.seenReliable then .ok none
    else
      let base := c.nextExpected - 1#32
      let localFree := c.receiveCapacity.toNat - s.rxCountFor streamId
      .ok (some ⟨base, s.rxBitmap streamId base,
        BitVec.ofNat 8 (min (min localFree s.rx.free) 255)⟩)

/-- The delivery counter after `order`; it skips 0. -/
def nextOrder (order : U64) : U64 :=
  if order + 1#64 < 1#64 then 1#64 else order + 1#64

/-- The message pending under the expected sequence number. -/
def isExpected (streamId : U8) (expected : U32) (m : RxMeta) : Bool :=
  m.streamId = streamId && m.sequence = expected && m.disposition = .pending

/-- Deliver, one after the other, at most `n` messages that are pending under the expected
sequence number. -/
def markContiguousDelivered (streamId : U8) :
    ℕ → BoundedGtsSocket → Except Error Unit × BoundedGtsSocket
  | 0, s => (.ok (), s)
  | n + 1, s =>
    match s.findStream streamId with
    | none => (.error .unknownStream, s)
    | some (idx, c) =>
      match s.rx.find (isExpected streamId c.nextExpected) with
      | none => (.ok (), s)
      | some slot =>
        match s.rx.metadata slot with
        | none => (.error .invalidState, s)
        | some m =>
          let order := s.nextDeliveryOrder
          let s := { s with nextDeliveryOrder := nextOrder order }
          match s.rx.setMetadata slot { m with disposition := .delivered, order } with
          | .error err => (.error err, s)
          | .ok rx =>
            markContiguousDelivered streamId n
              ({ s with rx }.setStream idx
                { c with
                  nextExpected := c.nextExpected + 1#32
                  remoteEnded := c.remoteEnded || m.isEnd })

/-- Store a message of an unreliable stream. -/
def storeDatagram (s : BoundedGtsSocket) (streamId : U8) (seq : U32) (data : Bytes) :
    Except Error (Option Ack) × BoundedGtsSocket :=
  let order := s.nextDeliveryOrder
  let s := { s with nextDeliveryOrder := nextOrder order }
  match s.rx.insert ⟨streamId, seq, false, .delivered, order⟩ data with
  | .error err => (.error err, s)
  | .ok (_, rx) => (.ok none, { s with rx })

/-- Take a message of an unreliable stream.  Without a sequence number it is stored under
the number 0. -/
def receiveUnreliable (s : BoundedGtsSocket) (idx : ℕ) (c : StreamCore) (streamId : U8)
    (sequence : Option U32) (data : Bytes) : Except Error (Option Ack) × BoundedGtsSocket :=
  if c.profile.sequenced then
    match sequence with
    | none => (.error .profileViolation, s)
    | some seq =>
      match c.unrelRxHighest with
      | some highest =>
        if seq ≤ highest then (.ok none, s)
        else (s.setStream idx { c with unrelRxHighest := some seq }).storeDatagram streamId seq data
      | none =>
        (s.setStream idx { c with unrelRxHighest := some seq }).storeDatagram streamId seq data
  else if sequence.isSome then (.error .profileViolation, s)
  else s.storeDatagram streamId 0#32 data

/-- Deliver the messages that are pending behind the expected one, and acknowledge.  The
loop turns one pending entry into a delivered one in each round, so as many rounds as
there are slots are enough. -/
def deliverAndAck (s : BoundedGtsSocket) (streamId : U8) :
    Except Error (Option Ack) × BoundedGtsSocket :=
  match markContiguousDelivered streamId s.rx.capacity s with
  | (.error err, s) => (.error err, s)
  | (.ok (), s) => (s.ackState streamId, s)

/-- Take a message of a reliable stream. -/
def receiveReliable (s : BoundedGtsSocket) (idx : ℕ) (c : StreamCore) (streamId : U8)
    (seq : U32) (data : Bytes) (isEnd : Bool) :
    Except Error (Option Ack) × BoundedGtsSocket :=
  if seq < c.nextExpected then (s.ackState streamId, s)
  else if 32#32 < seq - c.nextExpected then (.error .bufferFull, s)
  else if c.receiveCapacity.toNat ≤ s.rxCountFor streamId then (.error .bufferFull, s)
  else if (s.rx.find (fun m => m.streamId = streamId && m.sequence = seq)).isSome then
    (s.ackState streamId, s)
  else
    let delivered := decide (seq = c.nextExpected)
    let order := if delivered then s.nextDeliveryOrder else 0#64
    let s :=
      if delivered then { s with nextDeliveryOrder := nextOrder s.nextDeliveryOrder } else s
    let disposition := if delivered then .delivered else .pending
    match s.rx.insert ⟨streamId, seq, isEnd, disposition, order⟩ data with
    | .error err => (.error err, s)
    | .ok (_, rx) =>
      deliverAndAck
        ({ s with rx }.setStream idx
          { c with
            seenReliable := true
            nextExpected := if delivered then c.nextExpected + 1#32 else c.nextExpected
            remoteEnded := c.remoteEnded || (delivered && isEnd) })
        streamId

/-- Take a packet from the network; the answer, if any, is an acknowledgement. -/
def receive (s : BoundedGtsSocket) (streamId : U8) (sequence : Option U32) (data : Bytes)
    (isEnd : Bool) : Except Error (Option Ack) × BoundedGtsSocket :=
  match s.findStream streamId with
  | none => (.error .unknownStream, s)
  | some (idx, c) =>
    if c.state = .closed ∨ c.state = .reset ∨ c.remoteEnded then (.error .invalidState, s)
    else if !remoteMaySend c then (.error .directionViolation, s)
    else
      match validateSendLen c.profile data.length isEnd with
      | .error err => (.error err, s)
      | .ok () =>
        if c.profile.unreliable then s.receiveUnreliable idx c streamId sequence data
        else
          match sequence with
          | none => (.error .profileViolation, s)
          | some seq => s.receiveReliable idx c streamId seq data isEnd

/-- The better of the best slot so far and another: the one that was delivered first. -/
def better (streamId : U8) (best : Option (ℕ × RxMeta)) (e : ℕ × RxMeta) :
    Option (ℕ × RxMeta) :=
  if e.2.streamId = streamId ∧ e.2.disposition = .delivered then
    match best with
    | some b => if e.2.order < b.2.order then some e else best
    | none => some e
  else best

/-- Hand the next message of the stream to the application, which provides the room `out`
for it.  The last result are the contents of `out`. -/
def recvInto (s : BoundedGtsSocket) (streamId : U8) (out : Bytes) :
    Except Error ((Option ReceivedMessage × Bytes) × BoundedGtsSocket) :=
  match s.stream streamId with
  | none => .error .unknownStream
  | some _ =>
    match s.rx.entries.foldl (better streamId) none with
    | none => .ok ((none, out), s)
    | some (idx, m) =>
      match s.rx.removeInto idx out with
      | .error err => .error err
      | .ok ((_, len, out), rx) => .ok ((some ⟨len, m.isEnd⟩, out), { s with rx })

/-! ### Resetting -/

/-- Free those of the slots whose messages are the stream's. -/
def freeStream {M : Type} (streamIdOf : M → U8) (streamId : U8) :
    List ℕ → MessagePool M → Except Error Unit × MessagePool M
  | [], p => (.ok (), p)
  | slot :: rest, p =>
    if ((p.metadata slot).map (fun m => decide (streamIdOf m = streamId))).getD false then
      match p.remove slot with
      | .error err => (.error err, p)
      | .ok (_, p) => freeStream streamIdOf streamId rest p
    else freeStream streamIdOf streamId rest p

/-- The state of a stream that is reset. -/
def resetCore (c : StreamCore) : StreamCore :=
  { c with state := .reset, localEnded := true, remoteEnded := true, peerCredit := 0#8 }

/-- Reset a stream: its messages are dropped. -/
def resetStream (s : BoundedGtsSocket) (streamId : U8) : Except Error Unit × BoundedGtsSocket :=
  match s.findStream streamId with
  | none => (.error .unknownStream, s)
  | some (idx, c) =>
    match freeStream TxMeta.streamId streamId (List.range s.tx.capacity) s.tx with
    | (.error err, tx) => (.error err, { s with tx })
    | (.ok (), tx) =>
      match freeStream RxMeta.streamId streamId (List.range s.rx.capacity) s.rx with
      | (.error err, rx) => (.error err, { s with tx, rx })
      | (.ok (), rx) => (.ok (), { s with tx, rx }.setStream idx (resetCore c))

/-- Reset the tunnel and all its streams. -/
def reset (s : BoundedGtsSocket) : BoundedGtsSocket :=
  { s with
    state := .reset
    tx := s.tx.clear
    rx := s.rx.clear
    streams := s.streams.map (Option.map resetCore) }

end BoundedGtsSocket

end SmolGnet
