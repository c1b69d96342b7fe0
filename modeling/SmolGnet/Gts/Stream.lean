import SmolGnet.Gts.Reliable
import SmolGnet.Wire.Gts

/-!
# Streams

A `GtsStream` is one end of a stream.  A reliable stream has a `ReliableTx` and a
`ReliableRx`; an unreliable one hands datagrams on as they come, a sequenced one without
those that were overtaken.  `validateIncoming` checks a packet against what has been
agreed for the stream, `receivePacket` takes it.

The sender and the receiver of a reliable stream are there because `new` has made them;
where the source relies on that, the model returns `invalidState` for their absence.
-/

namespace SmolGnet

/-- The states of a stream. -/
inductive StreamState where
  | opening
  | open
  | closing
  | closed
  | reset
  deriving DecidableEq, Repr

/-- One end of a stream. -/
structure GtsStream where
  id : U8
  profile : StreamProfile
  state : StreamState
  openedByLocal : Bool
  reliableTx : Option ReliableTx
  reliableRx : Option ReliableRx
  unrelTxSequence : U32
  unrelRxHighest : Option U32
  unrelDelivered : List Bytes
  localEnded : Bool
  remoteEnded : Bool
  deriving DecidableEq

namespace GtsStream

/-- A stream that is open. -/
def new (id : U8) (profile : StreamProfile) (openedByLocal : Bool)
    (localReceiveCredit peerReceiveCredit : U8) : Except Error GtsStream :=
  match profile.validate with
  | .error err => .error err
  | .ok _ =>
    .ok
      { id
        profile
        state := .open
        openedByLocal
        reliableTx := if profile.unreliable then none else some (.new peerReceiveCredit)
        reliableRx :=
          if profile.unreliable then none
          else some (.new (max localReceiveCredit.toNat 1))
        unrelTxSequence := 0#32
        unrelRxHighest := none
        unrelDelivered := []
        localEnded := false
        remoteEnded := false }

/-! ### The checks -/

/-- This end may send. -/
def localMaySend (s : GtsStream) (localIsOpener : Bool) : Bool :=
  if localIsOpener then s.profile.direction.openerMaySend else s.profile.direction.peerMaySend

/-- The other end may send. -/
def remoteMaySend (s : GtsStream) (localIsOpener : Bool) : Bool :=
  if localIsOpener then s.profile.direction.peerMaySend else s.profile.direction.openerMaySend

/-- `a.checked_sub(b).ok_or(Error::InvalidLength)`. -/
def checkedLen (a b : ℕ) : Except Error ℕ :=
  if a < b then .error .invalidLength else .ok (a - b)

/-- The length of a message of a reliable stream with fixed messages. -/
def fixedReliableDataLen (s : GtsStream) : Except Error ℕ :=
  checkedLen s.profile.sizeClass.bytes 14

/-- The greatest length of the last message of a reliable stream with fixed messages. -/
def fixedReliableEndCapacity (s : GtsStream) : Except Error ℕ :=
  checkedLen s.profile.sizeClass.bytes 16

/-- The length of a message of an unreliable stream with fixed messages. -/
def fixedUnreliableDataLen (s : GtsStream) : Except Error ℕ :=
  checkedLen s.profile.sizeClass.bytes (if s.profile.sequenced then 14 else 10)

/-- The number of bytes around a message of an unreliable stream with variable
messages. -/
def datagramOverhead (p : StreamProfile) : ℕ :=
  if p.sequenced then 16 else 12

/-- Fail with `err` if `c` holds. -/
def reject (c : Bool) (err : Error) : Except Error Unit :=
  if c then .error err else .ok ()

/-- A message of the given length may be sent. -/
def validateSendLen (s : GtsStream) (dataLen : ℕ) (isEnd : Bool) : Except Error Unit :=
  if s.profile.unreliable then
    if isEnd then .error .profileViolation
    else if s.profile.variableLen then
      reject (s.profile.sizeClass.bytes < dataLen + datagramOverhead s.profile) .messageTooLarge
    else do
      let len ← s.fixedUnreliableDataLen
      reject (dataLen ≠ len) .invalidLength
  else if s.profile.variableLen then
    reject (s.profile.sizeClass.bytes < dataLen + 16) .messageTooLarge
  else if isEnd then do
    let cap ← s.fixedReliableEndCapacity
    reject (cap < dataLen) .messageTooLarge
  else do
    let len ← s.fixedReliableDataLen
    reject (dataLen ≠ len) .invalidLength

/-- The length of a received message of a reliable stream fits the class it came in. -/
def validateDataLen (s : GtsStream) (sizeClass : SizeClass) (data : Bytes) (isEnd : Bool) :
    Except Error Unit :=
  if s.profile.variableLen then
    reject (s.profile.sizeClass.toWire < sizeClass.toWire || sizeClass.bytes < data.length + 16)
      .profileViolation
  else if sizeClass ≠ s.profile.sizeClass then .error .profileViolation
  else if isEnd then do
    let cap ← s.fixedReliableEndCapacity
    reject (cap < data.length) .invalidLength
  else do
    let len ← s.fixedReliableDataLen
    reject (data.length ≠ len) .invalidLength

/-- The length of a received datagram fits the class it came in. -/
def validateDatagramLen (s : GtsStream) (sizeClass : SizeClass) (data : Bytes) :
    Except Error Unit :=
  if s.profile.variableLen then
    reject (s.profile.sizeClass.toWire < sizeClass.toWire ||
      sizeClass.bytes < data.length + datagramOverhead s.profile) .profileViolation
  else if sizeClass ≠ s.profile.sizeClass then .error .invalidLength
  else do
    let len ← s.fixedUnreliableDataLen
    reject (data.length ≠ len) .invalidLength

/-- A received packet agrees with the profile and the state of the stream. -/
def validateIncoming (s : GtsStream) (sizeClass : SizeClass) (packet : GtsPacket) :
    Except Error Unit :=
  if s.state = .closed ∨ s.state = .reset then .error .invalidState
  else
    match packet with
    | .data _ _ _ data isEnd =>
      if s.profile.unreliable ∨ s.remoteEnded then .error .profileViolation
      else if !s.remoteMaySend s.openedByLocal then .error .directionViolation
      else s.validateDataLen sizeClass data isEnd
    | .datagram _ _ sequence data =>
      if !s.profile.unreliable then .error .profileViolation
      else if !s.remoteMaySend s.openedByLocal then .error .directionViolation
      else if s.profile.sequenced ≠ sequence.isSome then .error .profileViolation
      else s.validateDatagramLen sizeClass data
    | .ack .. => reject s.profile.unreliable .profileViolation
    | .streamClose _ _ finalSequence _ =>
      reject (s.profile.unreliable && finalSequence != 0#32) .profileViolation
    | .streamReset .. => .ok ()
    | _ => .error .profileViolation

/-! ### Sending and receiving -/

/-- Send a message: the packet that carries it. -/
def sendPacket (s : GtsStream) (tunnelId : U32) (data : Bytes) (isEnd : Bool) (now : U64) :
    Except Error (GtsPacket × GtsStream) :=
  if s.state ≠ .open then .error .invalidState
  else if s.localEnded then .error .invalidState
  else if !s.localMaySend s.openedByLocal then .error .directionViolation
  else
    match s.validateSendLen data.length isEnd with
    | .error err => .error err
    | .ok () =>
      if s.profile.unreliable then
        if s.profile.sequenced then
          .ok (.datagram tunnelId s.id (some s.unrelTxSequence) data,
            { s with unrelTxSequence := s.unrelTxSequence + 1#32 })
        else .ok (.datagram tunnelId s.id none data, s)
      else
        match s.reliableTx with
        | none => .error .invalidState
        | some tx =>
          match tx.queue data isEnd now with
          | .error err => .error err
          | .ok (seq, tx) =>
            .ok (.data tunnelId s.id seq data isEnd,
              { s with reliableTx := some tx, localEnded := s.localEnded || isEnd })

/-- The packet of an acknowledgement. -/
def ackPacket (tunnelId : U32) (streamId : U8) (a : Ack) : GtsPacket :=
  .ack tunnelId streamId a.base a.bitmap a.credit

/-- Take a message of a reliable stream; the answer is an acknowledgement. -/
def receiveData (s : GtsStream) (tunnelId : U32) (streamId : U8) (sequence : U32)
    (data : Bytes) (isEnd : Bool) : Except Error (Option GtsPacket × GtsStream) :=
  if streamId ≠ s.id ∨ s.remoteEnded then .error .invalidState
  else
    match s.reliableRx with
    | none => .error .invalidState
    | some rx =>
      match rx.receive sequence data with
      | .error err => .error err
      | .ok (_, rx) =>
        .ok (rx.ack.map (ackPacket tunnelId streamId),
          { s with reliableRx := some rx, remoteEnded := s.remoteEnded || isEnd })

/-- Take a datagram. -/
def receiveDatagram (s : GtsStream) (streamId : U8) (sequence : Option U32) (data : Bytes) :
    Except Error (Option GtsPacket × GtsStream) :=
  if streamId ≠ s.id then .error .unknownStream
  else if !s.profile.sequenced then
    .ok (none, { s with unrelDelivered := s.unrelDelivered ++ [data] })
  else
    match sequence, s.unrelRxHighest with
    | none, _ => .error .profileViolation
    | some seq, some h =>
      if seq ≤ h then .ok (none, s)
      else .ok (none,
        { s with unrelRxHighest := some seq, unrelDelivered := s.unrelDelivered ++ [data] })
    | some seq, none => .ok (none,
        { s with unrelRxHighest := some seq, unrelDelivered := s.unrelDelivered ++ [data] })

/-- Take a packet from the network; the answer, if any, is to be sent. -/
def receivePacket (s : GtsStream) (packet : GtsPacket) :
    Except Error (Option GtsPacket × GtsStream) :=
  if s.state = .closed ∨ s.state = .reset then .error .invalidState
  else if !s.remoteMaySend s.openedByLocal then .error .directionViolation
  else
    match packet with
    | .data tunnelId streamId sequence data isEnd =>
      if s.profile.unreliable then .error .profileViolation
      else s.receiveData tunnelId streamId sequence data isEnd
    | .datagram _ streamId sequence data =>
      if !s.profile.unreliable then .error .profileViolation
      else s.receiveDatagram streamId sequence data
    | _ => .error .profileViolation

/-- An acknowledgement arrives. -/
def onAck (s : GtsStream) (base bitmap : U32) (credit : U8) : Except Error GtsStream :=
  if s.state = .reset ∨ s.profile.unreliable then .error .profileViolation
  else
    match s.reliableTx with
    | none => .error .profileViolation
    | some tx => .ok { s with reliableTx := some (tx.onAck base bitmap credit) }

/-- Hand the next message to the application. -/
def recv (s : GtsStream) : Option Bytes × GtsStream :=
  if s.profile.unreliable then
    match s.unrelDelivered with
    | [] => (none, s)
    | m :: rest => (some m, { s with unrelDelivered := rest })
  else
    match s.reliableRx with
    | none => (none, s)
    | some rx => (rx.recv.1, { s with reliableRx := some rx.recv.2 })

/-- The acknowledgement that carries the current credit. -/
def receiveCreditAck (s : GtsStream) (tunnelId : U32) : Option GtsPacket :=
  if s.profile.unreliable ∨ s.state = .reset then none
  else
    match s.reliableRx with
    | none => none
    | some rx => rx.ack.map (ackPacket tunnelId s.id)

/-- The packets whose retransmission is due. -/
def retransmitDue (s : GtsStream) (tunnelId : U32) (now : U64) : List GtsPacket × GtsStream :=
  match s.reliableTx with
  | none => ([], s)
  | some tx =>
    let (messages, tx) := tx.due now
    (messages.map (fun m => .data tunnelId s.id m.1 m.2.1 m.2.2),
      { s with reliableTx := some tx })

/-- The credit for messages of a reliable stream. -/
def peerCredit (s : GtsStream) : Option U8 :=
  s.reliableTx.map (fun tx => tx.peerCredit)

/-- The other end has accepted the stream. -/
def applyOpenAck (s : GtsStream) (peerCredit : U8) : Except Error GtsStream :=
  if s.state ≠ .opening then .error .invalidState
  else
    .ok { s with
      reliableTx := s.reliableTx.map (fun tx => { tx with peerCredit })
      state := .open }

/-- The other end has yet to accept the stream. -/
def markOpening (s : GtsStream) : GtsStream :=
  { s with state := .opening }

/-- Abandon the stream. -/
def reset (s : GtsStream) : GtsStream :=
  { s with
    state := .reset
    reliableTx := s.reliableTx.map ReliableTx.reset
    reliableRx := s.reliableRx.map ReliableRx.reset
    unrelDelivered := []
    unrelRxHighest := none
    localEnded := true
    remoteEnded := true }

/-! ### Messages of a reliable stream -/

variable {s s' : GtsStream}

@[simp]
theorem reject_eq_ok {c : Bool} {err : Error} :
  reject c err = .ok () ↔ c = false
  := by
  cases c <;> simp [reject]

theorem checkedLen_bind_eq_ok {a b : ℕ} {f : ℕ → Except Error Unit} :
  (checkedLen a b >>= f) = .ok () ↔ b ≤ a ∧ f (a - b) = .ok ()
  := by
  rw [checkedLen]
  split
  · next hlt => simp [bind, Except.bind, Nat.not_le.mpr hlt]
  · next hge => simp [bind, Except.bind, Nat.not_lt.mp hge]

/-- A new stream has the profile and the opener it is given. -/
theorem fields_of_new
    {id : U8} {profile : StreamProfile} {openedByLocal : Bool}
    {localReceiveCredit peerReceiveCredit : U8}
    (h : new id profile openedByLocal localReceiveCredit peerReceiveCredit = .ok s) :
  s.profile = profile ∧ s.openedByLocal = openedByLocal
  := by
  rw [new] at h
  split at h
  · cases h
  · cases h
    exact ⟨rfl, rfl⟩

/-- A new reliable stream. -/
theorem new_eq_ok
    {id : U8} {profile : StreamProfile} {openedByLocal : Bool}
    {localReceiveCredit peerReceiveCredit : U8} (hrel : profile.unreliable = false)
    (h : new id profile openedByLocal localReceiveCredit peerReceiveCredit = .ok s) :
  s =
    { id, profile, state := .open, openedByLocal
      reliableTx := some (.new peerReceiveCredit)
      reliableRx := some (.new (max localReceiveCredit.toNat 1))
      unrelTxSequence := 0#32, unrelRxHighest := none, unrelDelivered := []
      localEnded := false, remoteEnded := false }
  := by
  rw [new] at h
  split at h
  · cases h
  · cases h
    simp [hrel]

/-- What sending a message on a reliable stream requires and does. -/
theorem sendPacket_eq_ok
    (hrel : s.profile.unreliable = false) {tunnelId : U32} {data : Bytes} {isEnd : Bool}
    {now : U64} {packet : GtsPacket}
    (h : s.sendPacket tunnelId data isEnd now = .ok (packet, s')) :
  s.state = .open ∧ s.localEnded = false ∧ s.localMaySend s.openedByLocal = true ∧
    s.validateSendLen data.length isEnd = .ok () ∧
    ∃ tx seq tx', s.reliableTx = some tx ∧ tx.queue data isEnd now = .ok (seq, tx') ∧
      packet = .data tunnelId s.id seq data isEnd ∧
      s' = { s with reliableTx := some tx', localEnded := isEnd }
  := by
  rw [sendPacket] at h
  split at h
  · cases h
  · next hstate =>
    split at h
    · cases h
    · next hended =>
      split at h
      · cases h
      · next hmay =>
        split at h
        · cases h
        · next hlen =>
          rw [if_neg (by simp [hrel])] at h
          split at h
          · cases h
          · next tx htx =>
            split at h
            · cases h
            · next seq tx' hqueue =>
              cases h
              have hended' : s.localEnded = false := by simpa using hended
              refine ⟨not_not.mp hstate, hended', by simpa using hmay, hlen, tx, seq, tx', htx,
                hqueue, rfl, ?_⟩
              rw [hended', Bool.false_or]

/-- A message is checked only as long as the other end has not ended the stream. -/
theorem validateIncoming_data
    (hstate : s.state = .open) (hrel : s.profile.unreliable = false)
    (hmay : s.remoteMaySend s.openedByLocal = true) (sizeClass : SizeClass) (tunnelId : U32)
    (streamId : U8) (seq : U32) (data : Bytes) (isEnd : Bool) :
  s.validateIncoming sizeClass (.data tunnelId streamId seq data isEnd)
    = if s.remoteEnded then .error .profileViolation
      else s.validateDataLen sizeClass data isEnd
  := by
  rw [validateIncoming, if_neg (by simp [hstate])]
  simp only [hrel, Bool.false_eq_true, false_or, hmay, Bool.not_true, if_false]

/-- A message that the receiver takes. -/
theorem receivePacket_data
    (hstate : s.state = .open) (hrel : s.profile.unreliable = false)
    (hmay : s.remoteMaySend s.openedByLocal = true) (hended : s.remoteEnded = false)
    {rx rx' : ReliableRx} (hrx : s.reliableRx = some rx) {seq : U32} {data : Bytes} {b : Bool}
    (hreceive : rx.receive seq data = .ok (b, rx')) (tunnelId : U32) (isEnd : Bool) :
  s.receivePacket (.data tunnelId s.id seq data isEnd)
    = .ok (rx'.ack.map (ackPacket tunnelId s.id),
        { s with reliableRx := some rx', remoteEnded := isEnd })
  := by
  rw [receivePacket, if_neg (by simp [hstate]), if_neg (by simp [hmay])]
  simp only [hrel, Bool.false_eq_true, if_false, receiveData, hended, or_false, ne_eq,
    not_true_eq_false, hrx, hreceive, Bool.false_or]

/-- What taking a packet on a reliable stream requires and does. -/
theorem receivePacket_eq_ok
    (hrel : s.profile.unreliable = false) {packet : GtsPacket} {reply : Option GtsPacket}
    (h : s.receivePacket packet = .ok (reply, s')) :
  ∃ tunnelId seq data isEnd rx b rx', packet = .data tunnelId s.id seq data isEnd ∧
    s.remoteEnded = false ∧ s.reliableRx = some rx ∧ rx.receive seq data = .ok (b, rx') ∧
    reply = rx'.ack.map (ackPacket tunnelId s.id) ∧
    s' = { s with reliableRx := some rx', remoteEnded := isEnd }
  := by
  unfold receivePacket at h
  split at h
  · cases h
  · split at h
    · cases h
    · split at h
      · next tunnelId streamId seq data isEnd =>
        rw [if_neg (by simp [hrel]), receiveData] at h
        split at h
        · cases h
        · next hcheck =>
          obtain ⟨hid, hended⟩ : streamId = s.id ∧ s.remoteEnded = false := by
            simpa using hcheck
          split at h
          · cases h
          · next rx hrx =>
            split at h
            · cases h
            · next b rx' hreceive =>
              cases h
              subst hid
              refine ⟨_, _, _, _, rx, b, rx', rfl, hended, hrx, hreceive, rfl, ?_⟩
              rw [hended, Bool.false_or]
      · simp [hrel] at h
      · cases h

/-- What handing over a message of a reliable stream does. -/
theorem recv_eq
    (hrel : s.profile.unreliable = false) {m : Option Bytes} (h : s.recv = (m, s')) :
  s' = { s with reliableRx := s'.reliableRx } ∧
    ∀ rx, s.reliableRx = some rx → m = rx.recv.1 ∧ s'.reliableRx = some rx.recv.2
  := by
  rw [recv, if_neg (by simp [hrel])] at h
  split at h
  · next hrx =>
    cases h
    exact ⟨rfl, by simp [hrx]⟩
  · next rx hrx =>
    cases h
    exact ⟨rfl, by simp [hrx]⟩

/-- The checks of the sender, the choice of the class and the checks of the receiver agree:
a message that may be sent has a class, in which the other end accepts its length. -/
theorem chooseSizeClass_of_validateSendLen
    (hrel : s.profile.unreliable = false) (hprofile : s'.profile = s.profile)
    {data : Bytes} {isEnd : Bool} (h : s.validateSendLen data.length isEnd = .ok ())
    (tunnelId : U32) (streamId : U8) (seq : U32) :
  ∃ c, (GtsPacket.data tunnelId streamId seq data isEnd).chooseSizeClass (some s.profile)
      = .ok c ∧ s'.validateDataLen c data isEnd = .ok ()
  := by
  rw [validateSendLen, if_neg (by simp [hrel])] at h
  simp only [GtsPacket.chooseSizeClass, GtsPacket.minimumLen, hrel, Bool.false_eq_true, if_false,
    validateDataLen, fixedReliableDataLen, fixedReliableEndCapacity, hprofile]
  by_cases hvar : s.profile.variableLen
  · simp only [hvar, if_true, reject_eq_ok, decide_eq_false_iff_not, Nat.not_lt] at h
    obtain ⟨c, hc, hroom, hle⟩ := GtsPacket.smallestWithin_of_le
      (by omega : 10 + 2 + data.length + 4 ≤ s.profile.sizeClass.bytes)
    use c
    simp only [hvar, Bool.true_or, if_true, hc, reject_eq_ok, Bool.or_eq_false_iff,
      decide_eq_false_iff_not]
    use trivial, BitVec.not_lt.mpr hle, by omega
  · use s.profile.sizeClass
    cases isEnd with
    | true =>
      simp only [hvar, Bool.false_eq_true, if_false, if_true, fixedReliableEndCapacity,
        checkedLen_bind_eq_ok, reject_eq_ok, decide_eq_false_iff_not, Nat.not_lt] at h
      simp only [hvar, Bool.or_true, Bool.false_eq_true, if_false, if_true, ne_eq,
        not_true_eq_false, checkedLen_bind_eq_ok, reject_eq_ok, decide_eq_false_iff_not]
      use if_neg (by omega), h.1, by omega
    | false =>
      simp only [hvar, Bool.false_eq_true, if_false, fixedReliableDataLen,
        checkedLen_bind_eq_ok, reject_eq_ok, decide_eq_false_iff_not, not_not] at h
      simp only [hvar, Bool.or_false, Bool.false_eq_true, if_false, ne_eq,
        not_true_eq_false, checkedLen_bind_eq_ok, reject_eq_ok, decide_eq_false_iff_not]
      use if_neg (by omega), h.1, by omega

end GtsStream

end SmolGnet
