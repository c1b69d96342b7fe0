import SmolGnet.Gts.Tunnel

/-!
# Endpoints

An `Endpoint` has tunnels to other endpoints.  The application opens tunnels and streams,
sends and takes messages and closes what it has opened; `handleGts` does what a packet
from another endpoint asks for, and `tick` sends again what is due.

A packet that is sent goes to the `outbox` with the address it is for and the size class
it travels in.  What is below, the encoding of packets and the link, is left to whoever
takes packets from the outbox and brings them to `handleGts`, except that nothing is sent
while the link is down.
-/

namespace SmolGnet

/-- What a service grants to the streams that are opened to it. -/
structure ListenerConfig where
  receiveSlots : U8
  deriving DecidableEq

/-- A tunnel and the address of its other end. -/
structure TunnelRecord where
  peer : GdpAddress
  tunnel : GtsTunnel
  deriving DecidableEq

/-- An endpoint, as far as the transport is concerned. -/
structure Endpoint where
  gtsReceiveSlots : U8
  primaryAddress : GdpAddress
  linkUp : Bool
  listeners : List (ServiceSelector × ListenerConfig)
  tunnels : BTreeMap U32 TunnelRecord
  accepted : List U32
  nextTunnel : U32
  nextReset : U32
  outbox : List (GdpAddress × SizeClass × GtsPacket)
  deriving DecidableEq

/-! ### Packets one after the other -/

section Sending

variable {σ : Type}
  (send : σ → GdpAddress → GtsPacket → Option StreamProfile → Except Error Unit × σ)

/-- Send packets one after the other; the first that cannot be sent ends it. -/
def sendEach :
    List (GdpAddress × StreamProfile × GtsPacket) → σ → Except Error Unit × σ
  | [], s => (.ok (), s)
  | (peer, profile, packet) :: rest, s =>
    match send s peer packet (some profile) with
    | (.error err, s) => (.error err, s)
    | (.ok (), s) => sendEach rest s

/-- Send the packets that have been found; the result is their number. -/
def sendFound :
    Except Error (List (GdpAddress × StreamProfile × GtsPacket)) × σ → Except Error ℕ × σ
  | (.error err, s) => (.error err, s)
  | (.ok packets, s) =>
    match sendEach send packets s with
    | (.error err, s) => (.error err, s)
    | (.ok (), s) => (.ok packets.length, s)

variable {send} {P : σ → Prop} {packets : List (GdpAddress × StreamProfile × GtsPacket)} {s : σ}

/-- What sending one of the packets keeps is kept, wherever the sending ends. -/
theorem sendEach_keeps
    (hsend : ∀ x ∈ packets, ∀ s, P s → P (send s x.1 x.2.2 (some x.2.1)).2) (h : P s) :
  P (sendEach send packets s).2
  := by
  induction packets generalizing s with
  | nil => exact h
  | cons x rest ih =>
    obtain ⟨peer, profile, packet⟩ := x
    obtain ⟨hfirst, hrest⟩ := List.forall_mem_cons.mp hsend
    have hsent := hfirst s h
    rw [sendEach]
    generalize send s peer packet (some profile) = sent at hsent
    obtain ⟨_ | _, s'⟩ := sent
    · exact hsent
    · exact ih hrest hsent

/-- The packets that have been found are sent one after the other. -/
theorem snd_sendFound_ok :
  (sendFound send (.ok packets, s)).2 = (sendEach send packets s).2
  := by
  rw [sendFound]
  generalize sendEach send packets s = sent
  obtain ⟨_ | _, _⟩ := sent
  · rfl
  · rfl

/-- The number of packets is the result when each of them has been sent. -/
theorem fst_sendFound_ok_iff {n : ℕ} :
  (sendFound send (.ok packets, s)).1 = .ok n ↔
    (sendEach send packets s).1 = .ok () ∧ n = packets.length
  := by
  rw [sendFound]
  generalize sendEach send packets s = sent
  obtain ⟨_ | _, _⟩ := sent
  · exact iff_of_false (by simp) (by simp)
  · simp [eq_comm]

end Sending

namespace Endpoint

/-- An endpoint without tunnels. -/
def new (address : GdpAddress) (gtsReceiveSlots : U8) : Except Error Endpoint :=
  if gtsReceiveSlots = 0#8 then .error .invalidField
  else
    .ok
      { gtsReceiveSlots
        primaryAddress := address
        linkUp := true
        listeners := []
        tunnels := ∅
        accepted := []
        nextTunnel := 1#32
        nextReset := 0x10000001#32
        outbox := [] }

/-- The number after `n`; it skips 0. -/
def nextId (n : U32) : U32 :=
  if n + 1#32 < 1#32 then 1#32 else n + 1#32

/-- Numbers for a tunnel and for its reset. -/
def allocTunnel (e : Endpoint) : (U32 × U32) × Endpoint :=
  ((e.nextTunnel, e.nextReset),
    { e with nextTunnel := nextId e.nextTunnel, nextReset := nextId e.nextReset })

/-- Offer a service. -/
def listen (e : Endpoint) (css : ServiceSelector) (config : ListenerConfig) : Endpoint :=
  { e with listeners := (css, config) :: e.listeners.filter (fun l => l.1 ≠ css) }

/-- The next tunnel that another endpoint has opened. -/
def accept (e : Endpoint) : Option U32 × Endpoint :=
  match e.accepted with
  | [] => (none, e)
  | h :: rest => (some h, { e with accepted := rest })

/-- The tunnel with the number `h`. -/
def record (e : Endpoint) (h : U32) : Except Error TunnelRecord :=
  match e.tunnels[h]? with
  | some r => .ok r
  | none => .error .unknownTunnel

/-- A stream of the tunnel `h`, to be read or changed. -/
def findStream (e : Endpoint) (h : U32) (id : U8) : Except Error (TunnelRecord × GtsStream) :=
  match e.record h with
  | .error err => .error err
  | .ok r =>
    match r.tunnel.stream id with
    | .error err => .error err
    | .ok s => .ok (r, s)

/-- Replace the tunnel `h`. -/
def setTunnel (e : Endpoint) (h : U32) (r : TunnelRecord) (t : GtsTunnel) : Endpoint :=
  { e with tunnels := e.tunnels.insert h { r with tunnel := t } }

/-- Replace a stream of the tunnel `h`. -/
def setStream (e : Endpoint) (h : U32) (r : TunnelRecord) (id : U8) (s : GtsStream) : Endpoint :=
  e.setTunnel h r { r.tunnel with streams := r.tunnel.streams.insert id s }

/-- The credit this endpoint grants on a stream it takes part in. -/
def localGtsCredit (e : Endpoint) (profile : StreamProfile) (localIsOpener : Bool) : U8 :=
  if profile.unreliable then 0#8
  else if (if localIsOpener then profile.direction.peerMaySend
    else profile.direction.openerMaySend) then e.gtsReceiveSlots
  else 0#8

/-- Send a packet to the endpoint `remote`. -/
def sendGts (e : Endpoint) (remote : GdpAddress) (packet : GtsPacket)
    (profile : Option StreamProfile) : Except Error Unit × Endpoint :=
  match packet.chooseSizeClass profile with
  | .error err => (.error err, e)
  | .ok sizeClass =>
    if !e.linkUp then (.error .linkDown, e)
    else (.ok (), { e with outbox := e.outbox ++ [(remote, sizeClass, packet)] })

/-! ### The application -/

/-- Open a tunnel to the service `css` of the endpoint `remote`. -/
def connect (e : Endpoint) (remote : GdpAddress) (css : ServiceSelector)
    (profile : StreamProfile) : Except Error U32 × Endpoint :=
  match profile.validate with
  | .error err => (.error err, e)
  | .ok _ =>
    let ((localId, resetId), e) := e.allocTunnel
    let credit := e.localGtsCredit profile true
    match GtsTunnel.initiator localId resetId css profile credit with
    | .error err => (.error err, e)
    | .ok tunnel =>
      let e := { e with tunnels := e.tunnels.insert localId ⟨remote, tunnel⟩ }
      match e.sendGts remote (.connect localId resetId profile credit css) none with
      | (.error err, e) => (.error err, e)
      | (.ok (), e) => (.ok localId, e)

/-- Open another stream of a tunnel. -/
def openStream (e : Endpoint) (h : U32) (profile : StreamProfile) : Except Error U8 × Endpoint :=
  match profile.validate with
  | .error err => (.error err, e)
  | .ok _ =>
    match e.record h with
    | .error err => (.error err, e)
    | .ok r =>
      match r.tunnel.allocStreamId with
      | .error err => (.error err, e)
      | .ok (id, t) =>
        let credit :=
          if !profile.unreliable && profile.direction.peerMaySend then e.gtsReceiveSlots else 0#8
        match t.addStream id profile true credit 0#8 with
        | .error err => (.error err, e.setTunnel h r t)
        | .ok t =>
          let t := { t with streams := t.streams.modify id GtsStream.markOpening }
          let e := e.setTunnel h r t
          match t.remoteId with
          | .error err => (.error err, e)
          | .ok remote =>
            match e.sendGts r.peer (.streamOpen remote id profile credit) none with
            | (.error err, e) => (.error err, e)
            | (.ok (), e) => (.ok id, e)

/-- Send a message on a stream, with the end mark or without. -/
def sendInner (e : Endpoint) (h : U32) (id : U8) (data : Bytes) (isEnd : Bool) (now : U64) :
    Except Error Unit × Endpoint :=
  match e.record h with
  | .error err => (.error err, e)
  | .ok r =>
    if r.tunnel.state ≠ .established then (.error .invalidState, e)
    else
      match r.tunnel.remoteId with
      | .error err => (.error err, e)
      | .ok remote =>
        match r.tunnel.stream id with
        | .error err => (.error err, e)
        | .ok s =>
          match s.sendPacket remote data isEnd now with
          | .error err => (.error err, e)
          | .ok (packet, s') => (e.setStream h r id s').sendGts r.peer packet (some s.profile)

/-- Send a message on a stream. -/
def send (e : Endpoint) (h : U32) (id : U8) (data : Bytes) (now : U64) :
    Except Error Unit × Endpoint :=
  e.sendInner h id data false now

/-- Send the last message on a stream. -/
def sendEnd (e : Endpoint) (h : U32) (id : U8) (data : Bytes) (now : U64) :
    Except Error Unit × Endpoint :=
  e.sendInner h id data true now

/-- Take the next message of a stream; the credit it frees is granted at once. -/
def recv (e : Endpoint) (h : U32) (id : U8) : Except Error (Option Bytes) × Endpoint :=
  match e.record h with
  | .error err => (.error err, e)
  | .ok r =>
    match r.tunnel.remoteId with
    | .error err => (.error err, e)
    | .ok remote =>
      match r.tunnel.stream id with
      | .error err => (.error err, e)
      | .ok s =>
        let (message, s') := s.recv
        let e := e.setStream h r id s'
        match (if message.isSome then s'.receiveCreditAck remote else none) with
        | none => (.ok message, e)
        | some ack =>
          match e.sendGts r.peer ack (some s.profile) with
          | (.error err, e) => (.error err, e)
          | (.ok (), e) => (.ok message, e)

/-- Abandon a stream. -/
def resetStream (e : Endpoint) (h : U32) (id reason : U8) : Except Error Unit × Endpoint :=
  match e.findStream h id with
  | .error err => (.error err, e)
  | .ok (r, s) =>
    let e := e.setStream h r id s.reset
    match r.tunnel.remoteId with
    | .error err => (.error err, e)
    | .ok remote => e.sendGts r.peer (.streamReset remote id reason false) none

/-- Close a stream. -/
def closeStream (e : Endpoint) (h : U32) (id : U8) : Except Error Unit × Endpoint :=
  match e.findStream h id with
  | .error err => (.error err, e)
  | .ok (r, s) =>
    if s.state ≠ .open ∧ s.state ≠ .closing then (.error .invalidState, e)
    else
      let e := e.setStream h r id { s with state := .closing }
      let finalSequence := if s.profile.unreliable then 0#32 else 0#32
      match r.tunnel.remoteId with
      | .error err => (.error err, e)
      | .ok remote => e.sendGts r.peer (.streamClose remote id finalSequence false) none

/-- Some stream of the tunnel is neither closed nor reset. -/
def hasOpenStream (t : GtsTunnel) : Bool :=
  t.streams.values.any (fun s => s.state ≠ .closed && s.state ≠ .reset)

/-- Close a tunnel whose streams are closed. -/
def closeTunnel (e : Endpoint) (h : U32) : Except Error Unit × Endpoint :=
  match e.record h with
  | .error err => (.error err, e)
  | .ok r =>
    if hasOpenStream r.tunnel then (.error .invalidState, e)
    else
      let e := e.setTunnel h r { r.tunnel with state := .closing }
      match r.tunnel.remoteId with
      | .error err => (.error err, e)
      | .ok remote => e.sendGts r.peer (.tunnelClose remote false) none

/-- Abandon a tunnel. -/
def resetTunnel (e : Endpoint) (h : U32) (reason : U8) : Except Error Unit × Endpoint :=
  match e.record h with
  | .error err => (.error err, e)
  | .ok r =>
    match r.tunnel.remoteId, r.tunnel.remoteResetId with
    | .error err, _ => (.error err, e)
    | .ok _, none => (.error .invalidState, e)
    | .ok remote, some resetId =>
      (e.setTunnel h r r.tunnel.reset).sendGts r.peer (.reset remote resetId reason) none

/-! ### The network -/

/-- A stream that the other end opens has a number of the other end's kind. -/
def remoteStreamIdValid (role : TunnelRole) (id : U8) : Bool :=
  if id = 0#8 then false
  else
    match role with
    | .initiator => id % 2#8 = 1#8
    | .responder => id % 2#8 = 0#8

/-- Another endpoint opens a tunnel. -/
def handleConnect (e : Endpoint) (src : GdpAddress) (initiatorReceiveTunnel initiatorResetId : U32)
    (profile : StreamProfile) (initialReceiveCredit : U8) (css : ServiceSelector) :
    Except Error Unit × Endpoint :=
  match e.listeners.lookup css with
  | none => (.error .unknownService, e)
  | some listener =>
    let ((localId, resetId), e) := e.allocTunnel
    let localCredit :=
      if !profile.unreliable && profile.direction.openerMaySend then listener.receiveSlots else 0#8
    match GtsTunnel.responder localId resetId initiatorReceiveTunnel initiatorResetId css profile
      localCredit initialReceiveCredit with
    | .error err => (.error err, e)
    | .ok tunnel =>
      { e with
        tunnels := e.tunnels.insert localId ⟨src, tunnel⟩
        accepted := e.accepted ++ [localId] }.sendGts src
          (.connectAck initiatorReceiveTunnel localId resetId 0#8 localCredit) none

/-- The other end has accepted a tunnel. -/
def handleConnectAck (e : Endpoint)
    (initiatorReceiveTunnel responderReceiveTunnel responderResetId : U32)
    (status initialReceiveCredit : U8) : Except Error Unit × Endpoint :=
  if status ≠ 0#8 then (.error .unknownService, e)
  else
    match e.findStream initiatorReceiveTunnel 0#8 with
    | .error err => (.error err, e)
    | .ok (r, s) =>
      if s.profile.unreliable ∧ initialReceiveCredit ≠ 0#8 then (.error .profileViolation, e)
      else
        match r.tunnel.establishInitiator responderReceiveTunnel responderResetId
          initialReceiveCredit with
        | .error err => (.error err, e)
        | .ok t => (.ok (), e.setTunnel initiatorReceiveTunnel r t)

/-- The other end opens a stream. -/
def handleStreamOpen (e : Endpoint) (tunnelId : U32) (streamId : U8) (profile : StreamProfile)
    (initialReceiveCredit : U8) : Except Error Unit × Endpoint :=
  match e.record tunnelId with
  | .error err => (.error err, e)
  | .ok r =>
    if !remoteStreamIdValid r.tunnel.role streamId then (.error .profileViolation, e)
    else if profile.unreliable ∧ initialReceiveCredit ≠ 0#8 then (.error .profileViolation, e)
    else
      let credit :=
        if !profile.unreliable && profile.direction.openerMaySend then e.gtsReceiveSlots else 0#8
      match r.tunnel.addStream streamId profile false credit initialReceiveCredit with
      | .error err => (.error err, e)
      | .ok t =>
        let e := e.setTunnel tunnelId r t
        match t.remoteId with
        | .error err => (.error err, e)
        | .ok remote => e.sendGts r.peer (.streamAck remote streamId 0#8 credit) none

/-- The other end has accepted a stream. -/
def handleStreamAck (e : Endpoint) (tunnelId : U32) (streamId status initialReceiveCredit : U8) :
    Except Error Unit × Endpoint :=
  if status ≠ 0#8 then (.error .profileViolation, e)
  else
    match e.findStream tunnelId streamId with
    | .error err => (.error err, e)
    | .ok (r, s) =>
      if s.profile.unreliable ∧ initialReceiveCredit ≠ 0#8 then (.error .profileViolation, e)
      else
        match s.applyOpenAck initialReceiveCredit with
        | .error err => (.error err, e)
        | .ok s => (.ok (), e.setStream tunnelId r streamId s)

/-- A message of a reliable stream arrives. -/
def handleData (e : Endpoint) (sizeClass : SizeClass) (tunnelId : U32) (streamId : U8)
    (packet : GtsPacket) : Except Error Unit × Endpoint :=
  match e.findStream tunnelId streamId with
  | .error err => (.error err, e)
  | .ok (r, s) =>
    match s.validateIncoming sizeClass packet with
    | .error err => (.error err, e)
    | .ok () =>
      match s.receivePacket packet with
      | .error err => (.error err, e)
      | .ok (ack, s') =>
        let e := e.setStream tunnelId r streamId s'
        match r.tunnel.remoteId with
        | .error err => (.error err, e)
        | .ok remote =>
          match ack with
          | some (.ack _ id base bitmap credit) =>
            e.sendGts r.peer (.ack remote id base bitmap credit) (some s.profile)
          | _ => (.ok (), e)

/-- A message of an unreliable stream arrives. -/
def handleDatagram (e : Endpoint) (sizeClass : SizeClass) (tunnelId : U32) (streamId : U8)
    (packet : GtsPacket) : Except Error Unit × Endpoint :=
  match e.findStream tunnelId streamId with
  | .error err => (.error err, e)
  | .ok (r, s) =>
    match s.validateIncoming sizeClass packet with
    | .error err => (.error err, e)
    | .ok () =>
      match s.receivePacket packet with
      | .error err => (.error err, e)
      | .ok (_, s') => (.ok (), e.setStream tunnelId r streamId s')

/-- An acknowledgement arrives. -/
def handleAck (e : Endpoint) (sizeClass : SizeClass) (tunnelId : U32) (streamId : U8)
    (base bitmap : U32) (credit : U8) : Except Error Unit × Endpoint :=
  match e.findStream tunnelId streamId with
  | .error err => (.error err, e)
  | .ok (r, s) =>
    match s.validateIncoming sizeClass (.ack tunnelId streamId base bitmap credit) with
    | .error err => (.error err, e)
    | .ok () =>
      match s.onAck base bitmap credit with
      | .error err => (.error err, e)
      | .ok s => (.ok (), e.setStream tunnelId r streamId s)

/-- The other end closes a stream, or has closed a stream that this end closes. -/
def handleStreamClose (e : Endpoint) (sizeClass : SizeClass) (tunnelId : U32) (streamId : U8)
    (finalSequence : U32) (ack : Bool) : Except Error Unit × Endpoint :=
  match e.findStream tunnelId streamId with
  | .error err => (.error err, e)
  | .ok (r, s) =>
    match s.validateIncoming sizeClass (.streamClose tunnelId streamId finalSequence ack) with
    | .error err => (.error err, e)
    | .ok () =>
      let e := e.setStream tunnelId r streamId { s with state := .closed }
      if ack then (.ok (), e)
      else
        match r.tunnel.remoteId with
        | .error err => (.error err, e)
        | .ok remote => e.sendGts r.peer (.streamClose remote streamId finalSequence true) none

/-- The other end abandons a stream, or has abandoned one that this end has. -/
def handleStreamReset (e : Endpoint) (tunnelId : U32) (streamId reason : U8) (ack : Bool) :
    Except Error Unit × Endpoint :=
  match e.findStream tunnelId streamId with
  | .error err => (.error err, e)
  | .ok (r, s) =>
    let e := e.setStream tunnelId r streamId s.reset
    if ack then (.ok (), e)
    else
      match r.tunnel.remoteId with
      | .error err => (.error err, e)
      | .ok remote => e.sendGts r.peer (.streamReset remote streamId reason true) none

/-- The other end closes a tunnel, or has closed one that this end closes. -/
def handleTunnelClose (e : Endpoint) (tunnelId : U32) (ack : Bool) :
    Except Error Unit × Endpoint :=
  match e.record tunnelId with
  | .error err => (.error err, e)
  | .ok r =>
    if ack then (.ok (), e.setTunnel tunnelId r { r.tunnel with state := .closed })
    else if hasOpenStream r.tunnel then (.error .invalidState, e)
    else
      let e := e.setTunnel tunnelId r { r.tunnel with state := .closed }
      match r.tunnel.remoteId with
      | .error err => (.error err, e)
      | .ok remote => e.sendGts r.peer (.tunnelClose remote true) none

/-- The other end abandons a tunnel. -/
def handleReset (e : Endpoint) (tunnelId resetId : U32) : Except Error Unit × Endpoint :=
  match e.record tunnelId with
  | .error err => (.error err, e)
  | .ok r =>
    if resetId ≠ r.tunnel.localResetId then (.error .invalidField, e)
    else (.ok (), e.setTunnel tunnelId r r.tunnel.reset)

/-- A packet arrives from the endpoint `src` in the given size class. -/
def handleGts (e : Endpoint) (src : GdpAddress) (sizeClass : SizeClass) (packet : GtsPacket) :
    Except Error Unit × Endpoint :=
  match packet with
  | .connect tunnelId resetId profile credit css =>
    e.handleConnect src tunnelId resetId profile credit css
  | .connectAck tunnelId responderTunnel responderReset status credit =>
    e.handleConnectAck tunnelId responderTunnel responderReset status credit
  | .streamOpen tunnelId streamId profile credit =>
    e.handleStreamOpen tunnelId streamId profile credit
  | .streamAck tunnelId streamId status credit => e.handleStreamAck tunnelId streamId status credit
  | .data tunnelId streamId .. => e.handleData sizeClass tunnelId streamId packet
  | .datagram tunnelId streamId .. => e.handleDatagram sizeClass tunnelId streamId packet
  | .ack tunnelId streamId base bitmap credit =>
    e.handleAck sizeClass tunnelId streamId base bitmap credit
  | .streamClose tunnelId streamId finalSequence ack =>
    e.handleStreamClose sizeClass tunnelId streamId finalSequence ack
  | .streamReset tunnelId streamId reason ack => e.handleStreamReset tunnelId streamId reason ack
  | .tunnelClose tunnelId ack => e.handleTunnelClose tunnelId ack
  | .reset tunnelId resetId _ => e.handleReset tunnelId resetId

/-! ### Time -/

/-- The packets of a tunnel that are due. -/
def dueOfTunnel (r : TunnelRecord) (remote : U32) (now : U64) :
    List (GdpAddress × StreamProfile × GtsPacket) :=
  r.tunnel.streams.values.flatMap
    (fun s => (s.retransmitDue remote now).1.map (fun packet => (r.peer, s.profile, packet)))

/-- The packets of some tunnels that are due.  A tunnel without another end stops the
search, with what it has changed so far. -/
def dueOfTunnels (now : U64) :
    List (U32 × TunnelRecord) → Endpoint →
      Except Error (List (GdpAddress × StreamProfile × GtsPacket)) × Endpoint
  | [], e => (.ok [], e)
  | (h, r) :: rest, e =>
    if r.tunnel.state ≠ .established then dueOfTunnels now rest e
    else
      match r.tunnel.remoteId with
      | .error err => (.error err, e)
      | .ok remote =>
        let e := e.setTunnel h r { r.tunnel with
          streams := r.tunnel.streams.map (fun _ s => (s.retransmitDue remote now).2) }
        match dueOfTunnels now rest e with
        | (.error err, e) => (.error err, e)
        | (.ok packets, e) => (.ok (dueOfTunnel r remote now ++ packets), e)

/-- Send packets one after the other; the first that cannot be sent ends it. -/
def sendPending (packets : List (GdpAddress × StreamProfile × GtsPacket)) (e : Endpoint) :
    Except Error Unit × Endpoint :=
  sendEach sendGts packets e

/-- Send again what is due; the result is the number of packets. -/
def tick (e : Endpoint) (now : U64) : Except Error ℕ × Endpoint :=
  sendFound sendGts (dueOfTunnels now e.tunnels.toList e)

end Endpoint

end SmolGnet
