import SmolGnet.Endpoint.Failure
import SmolGnet.Library.Machine

/-!
# Taking messages

The messages that a stream delivers wait in a queue until the application takes them.  Taking one
frees credit, which is granted to the other end at once.  The message is taken off the queue first,
and when the acknowledgement with the credit cannot be sent the call fails and the message is gone.

A stream that is reset drops the messages that wait.  There is no other way in which a message is lost:
as long as no message of a reliable stream is taken while the link is down, and the stream is not reset
while messages wait, the messages that were returned and those that wait are the messages that were
delivered.
-/

namespace SmolGnet

/-! ### The queue of a stream -/

namespace GtsStream

variable {s s' : GtsStream}

/-- The messages that wait for the application. -/
def queued (s : GtsStream) : List Bytes :=
  if s.profile.unreliable then s.unrelDelivered
  else
    match s.reliableRx with
    | some rx => rx.delivered
    | none => []

/-- The messages that waited for the expected one are put behind those that are there. -/
theorem delivered_drain (n : ℕ) (rx : ReliableRx) :
  rx.delivered <+: (ReliableRx.drain n rx).delivered
  := by
  induction n generalizing rx with
  | zero => exact List.prefix_rfl
  | succ n ih =>
    rw [ReliableRx.drain]
    split
    · next v hv => exact (List.prefix_append rx.delivered [v]).trans (ih (rx.deliverNext v))
    · exact List.prefix_rfl

/-- A message that arrives is put behind the others, with those that waited for it. -/
theorem queued_receivePacket {packet : GtsPacket} {reply : Option GtsPacket}
    (h : s.receivePacket packet = .ok (reply, s')) :
  s.queued <+: s'.queued
  := by
  cases hrel : s.profile.unreliable with
  | false =>
    obtain ⟨_, seq, data, _, rx, b, rx', -, -, hrx, hreceive, -, rfl⟩ := receivePacket_eq_ok hrel h
    simp only [queued, hrel, hrx, Bool.false_eq_true, if_false]
    obtain ⟨-, -, rfl⟩ | ⟨-, -, -, rfl⟩ | ⟨-, -, -, -, rfl⟩ := ReliableRx.receive_eq_ok hreceive
    · exact List.prefix_rfl
    · exact (List.prefix_append rx.delivered _).trans (delivered_drain _ (rx.accept _))
    · exact List.prefix_rfl
  | true =>
    rw [receivePacket.eq_def] at h
    split at h
    · cases h
    split at h
    · cases h
    rw [hrel] at h
    split at h
    · cases h
    · rw [if_neg (by decide), receiveDatagram.eq_def] at h
      split at h
      · cases h
      split at h
      · cases h
        simp [queued, hrel]
      split at h
      · cases h
      · split at h
        · cases h
          exact List.prefix_rfl
        · cases h
          simp [queued, hrel]
      · cases h
        simp [queued, hrel]
    · cases h

theorem queued_sendPacket {tunnelId : U32} {data : Bytes} {isEnd : Bool} {now : U64}
    {packet : GtsPacket} (h : s.sendPacket tunnelId data isEnd now = .ok (packet, s')) :
  s'.queued = s.queued
  := by
  rw [sendPacket] at h
  split at h
  · cases h
  split at h
  · cases h
  split at h
  · cases h
  split at h
  · cases h
  split at h
  · split at h
    · cases h
      rfl
    · cases h
      rfl
  · split at h
    · cases h
    split at h
    · cases h
    · cases h
      rfl

/-- Nothing but the application takes a message off the queue of a stream that is not reset. -/
theorem Steps.queued (h : s.Steps s') :
  s.queued <+: s'.queued
  := by
  have hsame : ∀ {s' : GtsStream}, s'.queued = s.queued → s.queued <+: s'.queued := by
    intro s' heq
    rw [heq]
  cases h with
  | same => apply hsame rfl
  | sendPacket h => apply hsame (queued_sendPacket h)
  | retransmitDue tunnelId now =>
    apply hsame
    rw [GtsStream.retransmitDue]
    split
    · rfl
    · rfl
  | receivePacket h => exact queued_receivePacket h
  | onAck h =>
    apply hsame
    rw [GtsStream.onAck] at h
    split at h
    · cases h
    split at h
    · cases h
    · cases h
      rfl
  | applyOpenAck h =>
    apply hsame
    rw [GtsStream.applyOpenAck] at h
    split at h
    · cases h
    · cases h
      rfl
  | closing h => exact List.prefix_rfl
  | closed => exact List.prefix_rfl

/-- A stream that is reset drops the messages that wait. -/
theorem queued_reset (s : GtsStream) :
  s.reset.queued = []
  := by
  rw [queued, reset]
  dsimp only
  split
  · rfl
  · cases s.reliableRx with
    | none => rfl
    | some rx => rfl

/-- No message waits on a new stream. -/
theorem queued_of_new {id : U8} {profile : StreamProfile} {openedByLocal : Bool}
    {localCredit peerCredit : U8} (h : new id profile openedByLocal localCredit peerCredit = .ok s) :
  s.queued = []
  := by
  rw [new] at h
  split at h
  · cases h
  cases h
  simp only [queued]
  cases profile.unreliable with
  | true => rfl
  | false => rfl

/-- The first message of the queue is taken. -/
theorem queued_recv (s : GtsStream) :
  s.recv.1 = s.queued.head? ∧ s.recv.2.queued = s.queued.tail ∧ s.recv.2.profile = s.profile ∧
    s.recv.2.state = s.state ∧ s.recv.2.reliableRx.map ReliableRx.seenAny
      = s.reliableRx.map ReliableRx.seenAny
  := by
  rw [recv, GtsStream.queued]
  cases hrel : s.profile.unreliable with
  | true =>
    rw [if_pos rfl, if_pos rfl]
    split
    · next hnil => simp [GtsStream.queued, hrel, hnil]
    · next hcons => simp [GtsStream.queued, hrel, hcons]
  | false =>
    rw [if_neg Bool.false_ne_true, if_neg Bool.false_ne_true]
    split
    · next hnone => simp [GtsStream.queued, hrel, hnone]
    · next rx hrx =>
      rw [ReliableRx.recv]
      split
      · next hnil => simp [GtsStream.queued, hrel, hnil, hrx]
      · next hcons => simp [GtsStream.queued, hrel, hcons, hrx]

/-- Credit is granted on a reliable stream on which a message has arrived in order. -/
theorem receiveCreditAck_isSome_iff (s : GtsStream) (remote : U32) :
  (s.receiveCreditAck remote).isSome ↔ s.profile.unreliable = false ∧ s.state ≠ .reset ∧
    s.reliableRx.map ReliableRx.seenAny = some true
  := by
  rw [receiveCreditAck]
  split
  · next hno =>
    refine iff_of_false (by simp) ?_
    rintro ⟨hrel, hreset, -⟩
    simp [hrel, hreset] at hno
  · next hno =>
    rw [not_or, Bool.not_eq_true] at hno
    rw [and_iff_right hno.1, and_iff_right hno.2]
    cases s.reliableRx with
    | none => simp
    | some rx => cases hseen : rx.seenAny <;> simp [ReliableRx.ack, hseen]

theorem chooseSizeClass_receiveCreditAck {remote : U32} {ack : GtsPacket}
    (h : s.receiveCreditAck remote = some ack) (p : StreamProfile) :
  ∃ c, ack.chooseSizeClass (some p) = .ok c
  := by
  rw [receiveCreditAck] at h
  split at h
  · cases h
  split at h
  · cases h
  · obtain ⟨a, -, rfl⟩ := Option.map_eq_some_iff.mp h
    exact ⟨_, rfl⟩

end GtsStream

/-! ### The queues of a tunnel -/

namespace GtsTunnel

/-- The messages that wait on a stream. -/
def queued (t : GtsTunnel) (id : U8) : List Bytes :=
  match t.streams[id]? with
  | some s => s.queued
  | none => []

variable {t t' : GtsTunnel} {id : U8}

theorem Steps.queued (h : t.Steps t') (id : U8) :
  t.queued id <+: t'.queued id
  := by
  have hrel := h.streams id
  rw [GtsTunnel.queued, GtsTunnel.queued]
  cases hs : t.streams[id]? with
  | none => exact List.nil_prefix
  | some s =>
    rw [hs] at hrel
    obtain ⟨s', hs', hsteps⟩ := TreeMap.exists_of_rel_left hrel
    rw [hs']
    exact hsteps.queued

theorem queued_addStream {id' : U8} {profile : StreamProfile} {openedByLocal : Bool}
    {localCredit peerCredit : U8} (id : U8)
    (h : t.addStream id' profile openedByLocal localCredit peerCredit = .ok t') :
  t.queued id <+: t'.queued id
  := by
  obtain ⟨-, hnew, s, -, -, rfl⟩ := addStream_eq_ok h
  rw [queued, queued]
  dsimp only
  rw [TreeMap.getElem?_insert]
  by_cases hid : id' = id
  · subst hid
    rw [Std.ExtTreeMap.getElem?_eq_none hnew]
    apply List.nil_prefix
  · rw [if_neg hid]

theorem queued_markOpening (t : GtsTunnel) (id' id : U8) :
  ({ t with streams := t.streams.modify id' GtsStream.markOpening } : GtsTunnel).queued id
    = t.queued id
  := by
  rw [queued, queued]
  dsimp only
  rw [TreeMap.getElem?_modify]
  by_cases hid : id' = id
  · rw [if_pos hid]
    cases t.streams[id]? with
    | none => rfl
    | some s => rfl
  · rw [if_neg hid]

theorem queued_establishInitiator {remoteId resetId : U32} {credit : U8} (id : U8)
    (h : t.establishInitiator remoteId resetId credit = .ok t') :
  t'.queued id = t.queued id
  := by
  rw [establishInitiator] at h
  split at h
  · cases h
  cases h
  rw [queued, queued]
  dsimp only
  rw [TreeMap.getElem?_modify]
  by_cases hid : 0#8 = id
  · rw [if_pos hid]
    cases t.streams[id]? with
    | none => rfl
    | some s => rfl
  · rw [if_neg hid]

theorem queued_insert (t : GtsTunnel) (id' id : U8) (s : GtsStream) :
  ({ t with streams := t.streams.insert id' s } : GtsTunnel).queued id
    = if id' = id then s.queued else t.queued id
  := by
  rw [queued, queued]
  dsimp only
  rw [TreeMap.getElem?_insert]
  by_cases hid : id' = id
  · rw [if_pos hid, if_pos hid]
  · rw [if_neg hid, if_neg hid]

/-- A tunnel that is reset drops the messages that wait on its streams. -/
theorem queued_reset (t : GtsTunnel) (id : U8) :
  t.reset.queued id = []
  := by
  rw [queued, reset]
  dsimp only
  rw [Std.ExtTreeMap.getElem?_map]
  cases t.streams[id]? with
  | none => rfl
  | some s => exact s.queued_reset

/-- No message waits on a tunnel with one new stream. -/
theorem queued_of_streams {id' : U8} {profile : StreamProfile} {openedByLocal : Bool}
    {localCredit peerCredit : U8} {s : GtsStream}
    (hnew : GtsStream.new id' profile openedByLocal localCredit peerCredit = .ok s)
    (hstreams : t.streams = (∅ : BTreeMap U8 GtsStream).insert id' s) (id : U8) :
  t.queued id = []
  := by
  rw [queued, hstreams, TreeMap.getElem?_insert]
  by_cases hid : id' = id
  · rw [if_pos hid]
    exact GtsStream.queued_of_new hnew
  · rw [if_neg hid, Std.ExtTreeMap.getElem?_empty]

end GtsTunnel

namespace Endpoint

variable {e e' : Endpoint} {h : U32} {id : U8}

/-- The messages that wait on a stream of the tunnel `h`. -/
def queued (e : Endpoint) (h : U32) (id : U8) : List Bytes :=
  match e.tunnels[h]? with
  | some r => r.tunnel.queued id
  | none => []

/-- The action gives up the messages that wait on the stream `id` of the tunnel `h`: it resets the
stream or the tunnel, or it gives the number `h` to a new tunnel. -/
def GivesUp (e : Endpoint) (h : U32) (id : U8) : Action → Prop
  | .connect _ _ profile => e.nextTunnel = h ∧ profile.validate = .ok profile
  | .resetStream h' id' _ => h' = h ∧ id' = id
  | .resetTunnel h' _ => h' = h ∧ ∃ r, e.record h = .ok r ∧ r.tunnel.remoteReceiveId.isSome ∧
      r.tunnel.remoteResetId.isSome
  | .receive _ _ (.connect _ _ profile _ css) =>
    e.nextTunnel = h ∧ (e.listeners.lookup css).isSome ∧ profile.validate = .ok profile
  | .receive _ _ (.reset h' resetId _) =>
    h' = h ∧ ∃ r, e.record h = .ok r ∧ resetId = r.tunnel.localResetId
  | .receive _ _ (.streamReset h' id' ..) => h' = h ∧ id' = id
  | _ => False

/-- The action drops messages: some wait on the stream, and it gives them up. -/
def Drops (e : Endpoint) (h : U32) (id : U8) (a : Action) : Prop :=
  e.queued h id ≠ [] ∧ e.GivesUp h id a

theorem queued_of_tunnels (htunnels : e'.tunnels = e.tunnels) (h : U32) (id : U8) :
  e'.queued h id = e.queued h id
  := by
  rw [queued, queued, htunnels]

/-- The queues of the tunnel that is put in a table. -/
theorem queued_insert {k : U32} {r : TunnelRecord} (htunnels : e'.tunnels = e.tunnels.insert k r)
    (h : U32) (id : U8) :
  e'.queued h id = if k = h then r.tunnel.queued id else e.queued h id
  := by
  rw [queued, queued, htunnels, TreeMap.getElem?_insert]
  by_cases hk : k = h
  · rw [if_pos hk, if_pos hk]
  · rw [if_neg hk, if_neg hk]

/-- A tunnel is replaced by one that keeps the queue. -/
theorem Replaces.queued {h' : U32} {Q : TunnelRecord → GtsTunnel → Prop}
    (hreplaces : e.Replaces e' h' Q)
    (hq : ∀ r t, h' = h → Q r t → r.tunnel.queued id <+: t.queued id) :
  e.queued h id <+: e'.queued h id
  := by
  obtain htunnels | ⟨r, t, hr, hrt, htunnels⟩ := hreplaces.tunnels
  · rw [queued_of_tunnels htunnels]
  · rw [queued_insert htunnels]
    split
    · next hh =>
      have hprefix := hq r t hh hrt
      subst hh
      rw [Endpoint.queued, hr]
      exact hprefix
    · exact List.prefix_rfl

/-- Something happens to the streams of a tunnel. -/
theorem Replaces.queued_of_steps {h' : U32}
    (hreplaces : e.Replaces e' h' (fun r t => r.tunnel.Steps t)) (h : U32) (id : U8) :
  e.queued h id <+: e'.queued h id
  := hreplaces.queued (fun _ _ _ ht => ht.queued id)

/-- Another stream is reset. -/
theorem Replaces.queued_of_resetsStream {h' : U32} {id' : U8}
    (hreplaces : e.Replaces e' h' (ResetsStream id')) (hne : ¬ (h' = h ∧ id' = id)) :
  e.queued h id <+: e'.queued h id
  := by
  apply hreplaces.queued
  rintro r _ hh ⟨s, -, rfl⟩
  rw [GtsTunnel.queued_insert, if_neg (fun hid => hne ⟨hh, hid⟩)]

/-! ### What keeps the queue -/

theorem queued_openStream (e : Endpoint) (h' : U32) (profile : StreamProfile) (h : U32) (id : U8) :
  e.queued h id <+: (e.openStream h' profile).2.queued h id
  := by
  obtain ⟨hsame, -⟩ | ⟨-, r, id', t, hr, halloc, -, hadded⟩ := e.openStream_cases h' profile
  · rw [hsame]
  obtain ⟨-, -, -, rfl⟩ := GtsTunnel.allocStreamId_eq_ok halloc
  have hset : ∀ {t}, r.tunnel.queued id <+: t.queued id →
      e.queued h id <+: (e.setTunnel h' r t).queued h id := by
    intro t ht
    have hreplaces := replaces_setTunnel (Q := fun r t => r.tunnel.queued id <+: t.queued id) hr ht
    exact hreplaces.queued (fun _ _ _ ht => ht)
  obtain ⟨-, hopened⟩ | ⟨t₁, hadd, hopened⟩ := hadded
  · rw [hopened]
    apply hset
    exact List.prefix_rfl
  · have hadded : e.queued h id <+: (e.setTunnel h' r
        { t₁ with streams := t₁.streams.modify id' GtsStream.markOpening }).queued h id := by
      apply hset
      rw [GtsTunnel.queued_markOpening]
      have hprefix := GtsTunnel.queued_addStream id hadd
      exact hprefix
    obtain hopened | ⟨remote, -, hopened⟩ := hopened
    · rw [hopened]
      exact hadded
    · rw [hopened, queued_of_tunnels (tunnels_sendGts _ _ _ _)]
      exact hadded

/-- What arrives keeps the messages that wait, unless it gives them up. -/
theorem queued_handleGts (src : GdpAddress) (sizeClass : SizeClass) {packet : GtsPacket}
    (hkeeps : ¬ e.GivesUp h id (.receive src sizeClass packet)) :
  e.queued h id <+: (e.handleGts src sizeClass packet).2.queued h id
  := by
  cases packet with
  | connect remoteId remoteReset profile credit css =>
    rw [handleGts]
    obtain htunnels | ⟨hlistens, localCredit, t, ht, htunnels⟩ :=
      e.tunnels_handleConnect src remoteId remoteReset profile credit css
    · rw [queued_of_tunnels htunnels]
    · obtain ⟨s, hnew, -⟩ := GtsTunnel.responder_eq_ok ht
      have hne : e.nextTunnel ≠ h := fun hh => hkeeps ⟨hh, hlistens, GtsStream.validate_of_new hnew⟩
      rw [queued_insert htunnels, if_neg hne]
  | connectAck h' remoteId remoteReset status credit =>
    apply (e.replaces_handleConnectAck h' remoteId remoteReset status credit).queued
    rintro r t - ⟨-, ht⟩
    rw [GtsTunnel.queued_establishInitiator id ht]
  | streamOpen h' id' profile credit =>
    apply (e.replaces_handleStreamOpen h' id' profile credit).queued
    rintro r t - ⟨-, localCredit, hadd⟩
    exact GtsTunnel.queued_addStream id hadd
  | streamAck h' id' status credit =>
    exact (e.replaces_handleStreamAck h' id' status credit).queued_of_steps h id
  | data h' id' seq data isEnd =>
    exact (e.replaces_handleData h' sizeClass id' (.data h' id' seq data isEnd)).queued_of_steps h id
  | ack h' id' base bitmap credit =>
    exact (e.replaces_handleAck h' sizeClass id' base bitmap credit).queued_of_steps h id
  | datagram h' id' seq data =>
    exact (e.replaces_handleDatagram h' sizeClass id' (.datagram h' id' seq data)).queued_of_steps h id
  | streamClose h' id' finalSequence ack =>
    exact (e.replaces_handleStreamClose h' sizeClass id' finalSequence ack).queued_of_steps h id
  | tunnelClose h' ack =>
    apply (e.replaces_handleTunnelClose h' ack).queued
    rintro r _ - ⟨-, rfl⟩
    exact List.prefix_rfl
  | reset h' resetId reason =>
    rw [handleGts]
    obtain htunnels | ⟨r, t, hr, ⟨hreset, -⟩, htunnels⟩ := (e.replaces_handleReset h' resetId).tunnels
    · rw [queued_of_tunnels htunnels]
    · have hne : h' ≠ h := by
        rintro rfl
        exact hkeeps ⟨rfl, r, record_of_getElem? hr, hreset⟩
      rw [queued_insert htunnels, if_neg hne]
  | streamReset h' id' reason ack =>
    exact (e.replaces_handleStreamReset h' id' reason ack).queued_of_resetsStream hkeeps

/-- What is done, except for taking a message, keeps the messages that wait, unless it gives them
up. -/
theorem queued_prefix_step {a : Action} (ha : ∀ h id, a ≠ .recv h id) (hkeeps : ¬ e.GivesUp h id a) :
  e.queued h id <+: (e.step a).queued h id
  := by
  cases a with
  | listen css config => exact List.prefix_rfl
  | accept =>
    rw [step, accept]
    split
    · exact List.prefix_rfl
    · exact List.prefix_rfl
  | connect remote css profile =>
    rw [step]
    obtain htunnels | ⟨t, ht, htunnels⟩ := e.tunnels_connect remote css profile
    · rw [queued_of_tunnels htunnels]
    · obtain ⟨s, hnew, -⟩ := GtsTunnel.initiator_eq_ok ht
      have hne : e.nextTunnel ≠ h := fun hh => hkeeps ⟨hh, GtsStream.validate_of_new hnew⟩
      rw [queued_insert htunnels, if_neg hne]
  | openStream h' profile => exact e.queued_openStream h' profile h id
  | send h' id' data now => exact (e.replaces_sendInner h' id' data false now).queued_of_steps h id
  | sendEnd h' id' data now => exact (e.replaces_sendInner h' id' data true now).queued_of_steps h id
  | recv h' id' => exact absurd rfl (ha h' id')
  | closeStream h' id' => exact (e.replaces_closeStream h' id').queued_of_steps h id
  | resetStream h' id' reason =>
    exact (e.replaces_resetStream h' id' reason).queued_of_resetsStream hkeeps
  | closeTunnel h' =>
    apply (e.replaces_closeTunnel h').queued
    rintro r _ - ⟨-, rfl⟩
    exact List.prefix_rfl
  | resetTunnel h' reason =>
    rw [step]
    obtain htunnels | ⟨r, t, hr, ⟨hremote, hreset, -⟩, htunnels⟩ :=
      (e.replaces_resetTunnel h' reason).tunnels
    · rw [queued_of_tunnels htunnels]
    · have hne : h' ≠ h := by
        rintro rfl
        exact hkeeps ⟨rfl, r, record_of_getElem? hr, hremote, hreset⟩
      rw [queued_insert htunnels, if_neg hne]
  | tick now =>
    rw [step, queued, queued]
    obtain hsame | ⟨r, t, hr, ht, hnew⟩ := e.tick_steps now h
    · rw [hsame]
    · rw [hnew, hr]
      exact ht.queued id
  | receive src sizeClass packet => exact queued_handleGts src sizeClass hkeeps
  | linkChanged up => exact List.prefix_rfl
  | assigned address => exact List.prefix_rfl
  | transmitted => exact List.prefix_rfl

/-! ### What gives it up -/

theorem queued_of_findStream {r : TunnelRecord} {s : GtsStream}
    (hfind : e.findStream h id = .ok (r, s)) :
  e.queued h id = s.queued
  := by
  obtain ⟨hr, hs⟩ := getElem?_of_findStream hfind
  rw [queued, hr]
  dsimp only
  rw [GtsTunnel.queued, hs]

/-- No message waits on a stream that is not there. -/
theorem queued_of_findStream_error {err : Error} (hfind : e.findStream h id = .error err) :
  e.queued h id = []
  := by
  rw [queued]
  split
  · next r hr =>
    rw [GtsTunnel.queued]
    split
    · next s hs =>
      rw [findStream_of_record (record_of_getElem? hr) (GtsTunnel.stream_eq_ok_iff.mpr hs)] at hfind
      cases hfind
    · rfl
  · rfl

theorem queued_setStream (e : Endpoint) (h : U32) (r : TunnelRecord) (id : U8) (s : GtsStream) :
  (e.setStream h r id s).queued h id = s.queued
  := by
  rw [setStream, setTunnel, queued_insert rfl, if_pos rfl]
  dsimp only
  rw [GtsTunnel.queued_insert, if_pos rfl]

theorem queued_resetStream (e : Endpoint) (h : U32) (id reason : U8) :
  (e.resetStream h id reason).2.queued h id = []
  := by
  rw [resetStream]
  split
  · next hfind => exact queued_of_findStream_error hfind
  next r s hfind =>
  have hset : (e.setStream h r id s.reset).queued h id = [] :=
    (e.queued_setStream h r id s.reset).trans s.queued_reset
  split
  · exact hset
  · rw [queued_of_tunnels (tunnels_sendGts _ _ _ _)]
    exact hset

theorem queued_handleStreamReset (e : Endpoint) (h : U32) (id reason : U8) (ack : Bool) :
  (e.handleStreamReset h id reason ack).2.queued h id = []
  := by
  rw [handleStreamReset]
  split
  · next hfind => exact queued_of_findStream_error hfind
  next r s hfind =>
  have hset : (e.setStream h r id s.reset).queued h id = [] :=
    (e.queued_setStream h r id s.reset).trans s.queued_reset
  split
  · exact hset
  split
  · exact hset
  · rw [queued_of_tunnels (tunnels_sendGts _ _ _ _)]
    exact hset

theorem queued_setTunnel_reset (e : Endpoint) (h : U32) (r : TunnelRecord) (id : U8) :
  (e.setTunnel h r r.tunnel.reset).queued h id = []
  := by
  rw [setTunnel, queued_insert rfl, if_pos rfl]
  exact r.tunnel.queued_reset id

/-- No message waits after an action that gives up those that did. -/
theorem queued_of_givesUp {a : Action} (hgives : e.GivesUp h id a) :
  (e.step a).queued h id = []
  := by
  rw [GivesUp.eq_def] at hgives
  split at hgives
  · next remote css profile =>
    obtain ⟨rfl, hvalid⟩ := hgives
    obtain ⟨t, ht, htunnels⟩ := e.tunnels_connect_of_validate remote css hvalid
    obtain ⟨s, hnew, hstreams⟩ := GtsTunnel.initiator_eq_ok ht
    rw [step, queued_insert htunnels, if_pos rfl]
    exact GtsTunnel.queued_of_streams hnew hstreams id
  · next h' id' reason =>
    obtain ⟨rfl, rfl⟩ := hgives
    exact e.queued_resetStream h' id' reason
  · next h' reason =>
    obtain ⟨rfl, r, hr, hremote, hreset⟩ := hgives
    obtain ⟨remote, hremote⟩ := Option.isSome_iff_exists.mp hremote
    obtain ⟨resetId, hreset⟩ := Option.isSome_iff_exists.mp hreset
    rw [step, resetTunnel, hr]
    dsimp only
    rw [GtsTunnel.remoteId, hremote, hreset]
    dsimp only
    rw [queued_of_tunnels (tunnels_sendGts _ _ _ _)]
    exact e.queued_setTunnel_reset h' r id
  · next src sizeClass remoteId remoteReset profile credit css =>
    obtain ⟨rfl, hlistens, hvalid⟩ := hgives
    obtain ⟨listener, hlistens⟩ := Option.isSome_iff_exists.mp hlistens
    obtain ⟨localCredit, t, ht, htunnels, -⟩ :=
      e.tunnels_handleConnect_of_validate src remoteId remoteReset credit hlistens hvalid
    obtain ⟨s, hnew, hstreams, -⟩ := GtsTunnel.responder_eq_ok ht
    rw [step, handleGts, queued_insert htunnels, if_pos rfl]
    exact GtsTunnel.queued_of_streams hnew hstreams id
  · next src sizeClass h' resetId reason =>
    obtain ⟨rfl, r, hr, rfl⟩ := hgives
    rw [step, handleGts, handleReset, hr]
    dsimp only
    rw [if_neg (not_not.mpr rfl)]
    exact e.queued_setTunnel_reset h' r id
  · next src sizeClass h' id' reason ack =>
    obtain ⟨rfl, rfl⟩ := hgives
    exact e.queued_handleStreamReset h' id' reason ack
  · cases hgives

/-! ### Taking a message -/

/-- A message is taken while the acknowledgement for it cannot be sent. -/
def Loses (e : Endpoint) (h : U32) (id : U8) : Prop :=
  e.linkUp = false ∧ ∃ r s, e.findStream h id = .ok (r, s) ∧ r.tunnel.remoteReceiveId.isSome ∧
    s.queued ≠ [] ∧ s.profile.unreliable = false ∧ s.state ≠ .reset ∧
    s.reliableRx.map ReliableRx.seenAny = some true

/-- What a stream that is found needs to lose a message. -/
theorem loses_iff_of_findStream {e : Endpoint} {h : U32} {id : U8} {r : TunnelRecord} {s : GtsStream}
    (hfind : e.findStream h id = .ok (r, s)) :
  e.Loses h id ↔ e.linkUp = false ∧ r.tunnel.remoteReceiveId.isSome ∧ s.queued ≠ [] ∧
    s.profile.unreliable = false ∧ s.state ≠ .reset ∧
    s.reliableRx.map ReliableRx.seenAny = some true
  := by simp only [Loses, hfind, Except.ok.injEq, Prod.mk.injEq, existsAndEq, true_and]

/-- Nothing is lost of a stream that is not found. -/
theorem not_loses_of_findStream {e : Endpoint} {h : U32} {id : U8} {err : Error}
    (hfind : e.findStream h id = .error err) :
  ¬ e.Loses h id
  := by
  rintro ⟨-, r, s, hok, -⟩
  rw [hfind] at hok
  cases hok

/-- What a call that takes a message does: there is none, or it is returned, or it is lost. -/
theorem recv_cases (e : Endpoint) (h : U32) (id : U8) :
  (¬ e.Loses h id ∧ (e.recv h id).2.queued h id = e.queued h id ∧
      ∀ m, (e.recv h id).1 ≠ .ok (some m)) ∨
    (¬ e.Loses h id ∧ ∃ m, (e.recv h id).1 = .ok (some m) ∧
      e.queued h id = m :: (e.recv h id).2.queued h id) ∨
    (e.Loses h id ∧ (e.recv h id).1 = .error .linkDown ∧
      ∃ m, e.queued h id = m :: (e.recv h id).2.queued h id)
  := by
  rw [recv]
  cases hr : e.record h with
  | error err =>
    have hfind : e.findStream h id = .error err := by rw [findStream, hr]
    exact .inl ⟨not_loses_of_findStream hfind, rfl, by simp⟩
  | ok r =>
  dsimp only
  cases hs : r.tunnel.stream id with
  | error err =>
    have hfind : e.findStream h id = .error err := by
      rw [findStream, hr]
      dsimp only
      rw [hs]
    refine .inl ⟨not_loses_of_findStream hfind, ?_, ?_⟩
    all_goals
      split
      · simp
      · simp
  | ok s =>
  have hfind := findStream_of_record hr hs
  have hloses := loses_iff_of_findStream hfind
  cases hremote : r.tunnel.remoteId with
  | error err =>
    refine .inl ⟨?_, rfl, by simp⟩
    rw [hloses]
    rintro ⟨-, hsome, -⟩
    obtain ⟨remote, hsome⟩ := Option.isSome_iff_exists.mp hsome
    rw [GtsTunnel.remoteId, hsome] at hremote
    cases hremote
  | ok remote =>
  obtain ⟨hmessage, htail, hprofile, hstate, hseen⟩ := s.queued_recv
  have hsome : r.tunnel.remoteReceiveId.isSome := by
    rw [GtsTunnel.remoteId_eq_ok hremote, Option.isSome_some]
  simp only [hsome, true_and] at hloses
  rw [queued_of_findStream hfind, hloses]
  dsimp only
  cases hqueue : s.queued with
  | nil =>
    rw [hqueue] at hmessage htail
    rw [hmessage]
    refine .inl ⟨by simp, ?_, by simp⟩
    exact (queued_setStream e h r id s.recv.2).trans htail
  | cons m rest =>
    rw [hqueue] at hmessage htail
    rw [hmessage]
    have hset : (e.setStream h r id s.recv.2).queued h id = rest :=
      (queued_setStream e h r id s.recv.2).trans htail
    have howes := s.recv.2.receiveCreditAck_isSome_iff remote
    rw [hprofile, hstate, hseen] at howes
    simp only [List.head?_cons, Option.isSome_some, if_true]
    cases hack : s.recv.2.receiveCreditAck remote with
    | none =>
      rw [hack] at howes
      refine .inr (.inl ⟨?_, m, rfl, by rw [hset]⟩)
      rintro ⟨-, -, howed⟩
      simpa using howes.mpr howed
    | some ack =>
      have howed := howes.mp (by rw [hack]; rfl)
      obtain ⟨c, hc⟩ := GtsStream.chooseSizeClass_receiveCreditAck hack s.profile
      have hlink : (e.setStream h r id s.recv.2).linkUp = e.linkUp := rfl
      dsimp only
      rw [sendGts_of_class hc, hlink]
      cases hup : e.linkUp with
      | true => exact .inr (.inl ⟨by simp, m, rfl, congrArg (m :: ·) hset.symm⟩)
      | false =>
        exact .inr (.inr ⟨⟨rfl, by simp, howed⟩, rfl, m, congrArg (m :: ·) hset.symm⟩)

/-- Taking a message from another stream. -/
theorem queued_recv_of_ne {h' : U32} {id' : U8} (hne : ¬ (h' = h ∧ id' = id)) :
  (e.recv h' id').2.queued h id = e.queued h id
  := by
  obtain htunnels | ⟨r, t, hr, ⟨s, -, rfl⟩, htunnels⟩ := (e.replaces_recv h' id').tunnels
  · rw [queued, queued, htunnels]
  · rw [queued, queued, htunnels, TreeMap.getElem?_insert]
    by_cases hh : h' = h
    · subst hh
      rw [if_pos rfl, hr]
      dsimp only
      rw [GtsTunnel.queued, GtsTunnel.queued]
      dsimp only
      rw [TreeMap.getElem?_insert, if_neg (fun hid => hne ⟨rfl, hid⟩)]
    · rw [if_neg hh]

/-! ### All messages -/

/-- An endpoint, with what has become of the messages of a stream. -/
structure Inbox where
  endpoint : Endpoint
  /-- The messages that were returned to the application. -/
  returned : List Bytes
  /-- The messages that the stream has delivered. -/
  delivered : List Bytes

namespace Inbox

/-- The messages that an action returns. -/
def returns (e : Endpoint) (h : U32) (id : U8) : Action → List Bytes
  | .recv h' id' =>
    match (e.recv h' id').1 with
    | .ok (some m) => if h' = h ∧ id' = id then [m] else []
    | _ => []
  | _ => []

/-- The messages that an action delivers: it puts them behind those that wait. -/
def delivers (e : Endpoint) (h : U32) (id : U8) : Action → List Bytes
  | .recv .. => []
  | a => ((e.step a).queued h id).drop (e.queued h id).length

/-- Do something, and note what becomes of the messages of the stream `id` of the tunnel `h`. -/
def step (h : U32) (id : U8) (s : Inbox) (a : Action) : Inbox :=
  { endpoint := s.endpoint.step a
    returned := s.returned ++ returns s.endpoint h id a
    delivered := s.delivered ++ delivers s.endpoint h id a }

/-- The messages that were returned and those that wait are those that were delivered. -/
def Complete (h : U32) (id : U8) (s : Inbox) : Prop :=
  s.returned ++ s.endpoint.queued h id = s.delivered

theorem returns_recv_of_ok {m : Bytes} (hok : (e.recv h id).1 = .ok (some m)) :
  returns e h id (.recv h id) = [m]
  := by
  simp [returns, hok]

theorem returns_recv_of_ne (hne : ∀ m, (e.recv h id).1 ≠ .ok (some m)) :
  returns e h id (.recv h id) = []
  := by
  rw [returns]
  split
  · next m hm => exact absurd hm (hne m)
  · rfl

/-- What is not a call that takes a message of the stream returns none of its messages. -/
theorem returns_of_ne {a : Action} (ha : a ≠ .recv h id) :
  returns e h id a = []
  := by
  rw [returns.eq_def]
  split
  · next h' id' =>
    have hne : ¬ (h' = h ∧ id' = id) := by
      rintro ⟨rfl, rfl⟩
      exact ha rfl
    split
    · rw [if_neg hne]
    · rfl
  · rfl

/-- What is not a call that takes a message of the stream, and does not give up its messages, delivers
what it puts behind them. -/
theorem queued_step {a : Action} (ha : a ≠ .recv h id) (hkeeps : ¬ e.GivesUp h id a) :
  (e.step a).queued h id = e.queued h id ++ delivers e h id a
  := by
  rw [delivers.eq_def]
  split
  · next h' id' =>
    rw [List.append_nil]
    apply queued_recv_of_ne
    rintro ⟨rfl, rfl⟩
    exact ha rfl
  · next hother =>
    obtain ⟨rest, hrest⟩ := queued_prefix_step (e := e) hother hkeeps
    rw [← hrest, List.drop_left]

/-- What gives up the messages that wait delivers none. -/
theorem delivers_of_givesUp {a : Action} (hgives : e.GivesUp h id a) :
  delivers e h id a = []
  := by
  rw [delivers.eq_def]
  split
  · rfl
  · rw [queued_of_givesUp hgives, List.drop_nil]

/-- A call that takes a message completes the messages of the stream exactly when it does not lose
one. -/
theorem complete_recv_iff {s : Inbox} (hs : s.Complete h id) :
  (s.step h id (.recv h id)).Complete h id ↔ ¬ s.endpoint.Loses h id
  := by
  rw [Complete] at hs
  rw [Complete, step]
  dsimp only
  rw [Endpoint.step, delivers, List.append_nil, ← hs]
  obtain ⟨hkeeps, hqueue, hno⟩ | ⟨hkeeps, m, hok, hqueue⟩ | ⟨hloses, herr, m, hqueue⟩ :=
    s.endpoint.recv_cases h id
  · refine iff_of_true ?_ hkeeps
    rw [returns_recv_of_ne hno, hqueue, List.append_nil]
  · refine iff_of_true ?_ hkeeps
    rw [returns_recv_of_ok hok, hqueue, List.append_assoc, List.singleton_append]
  · refine iff_of_false ?_ (not_not.mpr hloses)
    rw [returns_recv_of_ne (by simp [herr]), hqueue, List.append_nil, List.append_right_inj]
    exact (List.cons_ne_self m _).symm

/-- Anything else completes them exactly when it drops none. -/
theorem complete_step_iff_of_ne {s : Inbox} {a : Action} (hs : s.Complete h id) (ha : a ≠ .recv h id) :
  (s.step h id a).Complete h id ↔ ¬ s.endpoint.Drops h id a
  := by
  rw [Complete] at hs
  rw [Complete, step, Drops]
  dsimp only
  rw [returns_of_ne ha, List.append_nil, ← hs]
  by_cases hgives : s.endpoint.GivesUp h id a
  · rw [queued_of_givesUp hgives, delivers_of_givesUp hgives, List.append_nil, List.append_nil,
      and_iff_left hgives, not_not, List.self_eq_append_right]
  · refine iff_of_true ?_ (fun hdrops => hgives hdrops.2)
    rw [queued_step ha hgives, List.append_assoc]

/-- A step completes the messages of the stream exactly when it does not lose one and drops none. -/
theorem complete_step_iff {s : Inbox} {a : Action} (hs : s.Complete h id) :
  (s.step h id a).Complete h id ↔
    ¬ (a = .recv h id ∧ s.endpoint.Loses h id) ∧ ¬ s.endpoint.Drops h id a
  := by
  by_cases ha : a = .recv h id
  · subst ha
    have hkeeps : ¬ s.endpoint.Drops h id (.recv h id) := fun hdrops => hdrops.2
    rw [complete_recv_iff hs, and_iff_left hkeeps, and_iff_right rfl]
  · rw [complete_step_iff_of_ne hs ha, and_iff_right (fun hloses => ha hloses.1)]

end Inbox

/-- A call that takes a message leaves the queue as it is when it fails, exactly when it does not lose
a message. -/
theorem recv_keeps_iff {a : Action} :
  (a = .recv h id → ∀ err, (e.recv h id).1 = .error err →
      (e.recv h id).2.queued h id = e.queued h id) ↔
    ¬ (a = .recv h id ∧ e.Loses h id)
  := by
  rw [not_and]
  apply imp_congr_right
  rintro -
  obtain ⟨hkeeps, hqueue, -⟩ | ⟨hkeeps, m, hok, -⟩ | ⟨hloses, herr, m, hqueue⟩ := e.recv_cases h id
  · exact iff_of_true (fun _ _ => hqueue) hkeeps
  · exact iff_of_true (by simp [hok]) hkeeps
  · refine iff_of_false ?_ (not_not.mpr hloses)
    intro hsame
    have hcons := hsame _ herr
    rw [hqueue] at hcons
    exact List.cons_ne_self m _ hcons.symm

/-- A call that fails leaves the messages that wait, and the messages that were returned and those that
wait are those that were delivered, exactly in the runs in which no message is taken while the
acknowledgement for it cannot be sent, and none is dropped because the stream is reset. -/
theorem recv_exact_iff (e : Endpoint) (h : U32) (id : U8) (as : List Action) :
  (Machine.Along step (fun e a => a = .recv h id → ∀ err, (e.recv h id).1 = .error err →
        (e.recv h id).2.queued h id = e.queued h id) e as ∧
      ∀ past, past <+: as →
        (Machine.run (Inbox.step h id) ⟨e, [], e.queued h id⟩ past).Complete h id) ↔
    Machine.Along step (fun e a => ¬ (a = .recv h id ∧ e.Loses h id) ∧ ¬ e.Drops h id a) e as
  := by
  have hcomplete : (∀ past, past <+: as →
      (Machine.run (Inbox.step h id) ⟨e, [], e.queued h id⟩ past).Complete h id) ↔
        Machine.Along (Inbox.step h id)
          (fun s a => ¬ (a = .recv h id ∧ s.endpoint.Loses h id) ∧ ¬ s.endpoint.Drops h id a)
          ⟨e, [], e.queued h id⟩ as :=
    Machine.forall_isPrefix_iff (I := Inbox.Complete h id) (fun _ h => h)
      (fun s a hs => (Inbox.complete_step_iff hs).mpr)
      (fun s a hs => (Inbox.complete_step_iff hs).mp) rfl
  have hendpoint : ∀ (s : Inbox) a, (s.step h id a).endpoint = s.endpoint.step a := fun _ _ => rfl
  have hsame := @Machine.along_comap _ _ step _ (Inbox.step h id)
    (fun e a => ¬ (a = .recv h id ∧ e.Loses h id) ∧ ¬ e.Drops h id a) Inbox.endpoint hendpoint
    ⟨e, [], e.queued h id⟩ as
  rw [hcomplete, hsame, and_iff_right_iff_imp]
  intro hkeeps
  exact hkeeps.imp (fun e a ha => recv_keeps_iff.mpr ha.1)

/-- A message waits when the link goes down, and is taken.  The call fails, and the message is gone when
the link is up again. -/
theorem not_exact_recv :
  let profile : StreamProfile := ⟨false, true, false, false, .bidirectional, .msg128⟩
  let css : ServiceSelector := ⟨List.replicate 16 1#8, rfl⟩
  ∃ e₀, Endpoint.new ⟨1#64⟩ 4#8 = .ok e₀ ∧
    let e := Machine.run step e₀
      [.connect ⟨2#64⟩ css profile, .receive ⟨2#64⟩ .ctrl32 (.connectAck 1#32 7#32 8#32 0#8 4#8),
        .receive ⟨2#64⟩ .msg128 (.data 1#32 0#8 0#32 [9#8] false), .linkChanged false]
    e.queued 1#32 0#8 = [[9#8]] ∧ (e.recv 1#32 0#8).1 = .error .linkDown ∧
      (e.recv 1#32 0#8).2.queued 1#32 0#8 = [] ∧
      ((Machine.run step e [.recv 1#32 0#8, .linkChanged true]).recv 1#32 0#8).1 = .ok none
  := by
  intro profile css
  refine ⟨_, rfl, ?_⟩
  decide +kernel

end Endpoint

end SmolGnet
