import SmolGnet.Endpoint.FrameLink
import SmolGnet.Wire.GctlTyped

/-!
# Asking for credit, and answering

Whatever an endpoint does apart from polling, it queues control packets behind those that wait, and
leaves alone what its link layer holds of packets that have not arrived completely.  An endpoint that
has data to send and no credit can always queue a request.  When a request arrives, an endpoint that
can give credit queues an answer.
-/

namespace SmolGnet

/-- The endpoint holds what it held of the packets that arrive. -/
structure DlpEndpoint.SameHeld (d d' : DlpEndpoint) : Prop where
  vcMode : d'.vcMode = d.vcMode
  rx : d'.rx = d.rx
  dataRxInUse : d'.dataRxInUse = d.dataRxInUse
  rxBufferFlits : d'.rxBufferFlits = d.rxBufferFlits

namespace LinkedEndpoint

variable {T : Transport} {e e' e'' : LinkedEndpoint T} {packets packets' : List GdpPacket}

/-! ### Control messages are queued last -/

/-- The endpoint has queued the control packets, and has neither asked for credit nor used or got
any. -/
structure Queues (packets : List GdpPacket) (e e' : LinkedEndpoint T) : Prop where
  canonical : ∀ packet ∈ packets, ∃ p, packet.Canonical p
  packetType : ∀ packet ∈ packets, packet.header.packetType = .gctl
  queue : e'.dlp.controlTxQueue = e.dlp.controlTxQueue ++ packets.map (e.dlp.frameOn Vcid.control)
  creditRequestPending : e'.creditRequestPending = e.creditRequestPending
  dataTxCredit : e'.dlp.dataTxCredit = e.dlp.dataTxCredit
  controlTxCredit : e'.dlp.controlTxCredit = e.dlp.controlTxCredit
  cfg : e'.dlp.cfg = e.dlp.cfg
  linkLocalAddress : e'.linkLocalAddress = e.linkLocalAddress

/-- The endpoint has queued the control packets, and nothing has arrived. -/
structure Sends (packets : List GdpPacket) (e e' : LinkedEndpoint T) : Prop
    extends Queues packets e e' where
  held : e.dlp.SameHeld e'.dlp

/-- The endpoint has queued control packets, and nothing has arrived. -/
def Appends (e e' : LinkedEndpoint T) : Prop :=
  ∃ packets, Sends packets e e'

/-- An endpoint whose queue for control packets is the same has queued none. -/
theorem sends_nil (hqueue : e'.dlp.controlTxQueue = e.dlp.controlTxQueue)
    (hpending : e'.creditRequestPending = e.creditRequestPending)
    (hcredit : e'.dlp.dataTxCredit = e.dlp.dataTxCredit)
    (hcontrol : e'.dlp.controlTxCredit = e.dlp.controlTxCredit) (hcfg : e'.dlp.cfg = e.dlp.cfg)
    (hlocal : e'.linkLocalAddress = e.linkLocalAddress) (hheld : e.dlp.SameHeld e'.dlp) :
  Sends [] e e'
  := ⟨⟨by simp, by simp, by simp [hqueue], hpending, hcredit, hcontrol, hcfg, hlocal⟩, hheld⟩

theorem Sends.refl (e : LinkedEndpoint T) :
  Sends [] e e
  := sends_nil rfl rfl rfl rfl rfl rfl ⟨rfl, rfl, rfl, rfl⟩

theorem Sends.trans (h : Sends packets e e') (h' : Sends packets' e' e'') :
  Sends (packets ++ packets') e e''
  := by
  have hframe : e'.dlp.frameOn Vcid.control = e.dlp.frameOn Vcid.control := by
    funext packet
    rw [DlpEndpoint.frameOn, DlpEndpoint.frameOn, h.cfg]
  constructor
  · constructor
    · rw [List.forall_mem_append]
      exact ⟨h.canonical, h'.canonical⟩
    · rw [List.forall_mem_append]
      exact ⟨h.packetType, h'.packetType⟩
    · rw [h'.queue, h.queue, hframe, List.map_append, List.append_assoc]
    · exact h'.creditRequestPending.trans h.creditRequestPending
    · exact h'.dataTxCredit.trans h.dataTxCredit
    · exact h'.controlTxCredit.trans h.controlTxCredit
    · exact h'.cfg.trans h.cfg
    · exact h'.linkLocalAddress.trans h.linkLocalAddress
  · exact ⟨h'.held.vcMode.trans h.held.vcMode, h'.held.rx.trans h.held.rx,
      h'.held.dataRxInUse.trans h.held.dataRxInUse,
      h'.held.rxBufferFlits.trans h.held.rxBufferFlits⟩

theorem Appends.trans (h : Appends e e') (h' : Appends e' e'') :
  Appends e e''
  := by
  obtain ⟨packets, hsends⟩ := h
  obtain ⟨packets', hsends'⟩ := h'
  exact ⟨_, hsends.trans hsends'⟩

theorem SameLink.sends (h : SameLink e e') :
  Sends [] e e'
  := by
  obtain ⟨-, hlocal, -, hpending, hdlp⟩ := h
  apply sends_nil
  · rw [hdlp]
  · exact hpending
  · rw [hdlp]
  · rw [hdlp]
  · rw [hdlp]
  · exact hlocal
  · rw [hdlp]
    exact ⟨rfl, rfl, rfl, rfl⟩

theorem sends_queued {packet : GdpPacket} {p : U64} (hp : packet.Canonical p)
    (htype : packet.header.packetType = .gctl) :
  Sends [packet] e (e.queued packet)
  := by
  refine ⟨⟨?_, ?_, rfl, rfl, rfl, rfl, rfl, rfl⟩, ⟨rfl, rfl, rfl, rfl⟩⟩
  · rw [List.forall_mem_singleton]
    exact ⟨p, hp⟩
  · rw [List.forall_mem_singleton]
    exact htype

/-- A control message that is sent is queued. -/
theorem sends_sendGctlFrom {source remote : GdpAddress} {msg : GctlMessage}
    {sizeClass : Option SizeClass} (h : e.sendGctlFrom source remote msg sizeClass = .ok e') :
  ∃ packet, e.Holds source remote msg packet ∧ Sends [packet] e e'
  := by
  obtain ⟨_, -, n, hqueue, -⟩ := sendGctlFrom_eq_ok h
  obtain ⟨packet, hholds, rfl⟩ := sendGctlFrom_queued (DlpEndpoint.queuePacketOn_spec hqueue).1 h
  exact ⟨packet, hholds, sends_queued hholds.canonical hholds.packetType⟩

/-- Data packets have a queue of their own. -/
theorem sends_sendGts (e : LinkedEndpoint T) (x : GtsSend) :
  Sends [] e (e.sendGts x).2
  := by
  rcases e.sendGts_spec x with heq | ⟨packet, -, -, heq⟩
  · rw [heq]
    exact Sends.refl e
  · rw [heq, DlpEndpoint.queueDataPacket]
    dsimp only
    split
    · next n dlp hqueue =>
      obtain ⟨-, -, -, bytes, -, -, hdlp⟩ := DlpEndpoint.queuePacketOn_spec hqueue
      rw [hdlp]
      exact sends_nil rfl rfl rfl rfl rfl rfl ⟨rfl, rfl, rfl, rfl⟩
    · exact sends_nil rfl rfl rfl rfl rfl rfl ⟨rfl, rfl, rfl, rfl⟩

/-- Credit that is noted changes no queue. -/
theorem sends_noteCredit {grant : U32} {dlp : DlpEndpoint}
    (h : e.dlp.noteDataCreditGranted grant = .ok dlp) :
  Sends [] e { e with dlp }
  := by
  rw [DlpEndpoint.noteDataCreditGranted] at h
  split at h
  · cases h
  · cases h
    exact sends_nil rfl rfl rfl rfl rfl rfl ⟨rfl, rfl, rfl, rfl⟩

theorem appends_sendCredit (e : LinkedEndpoint T) (peer : GdpAddress) (transactionId grant : U32) :
  Appends e (e.sendCredit peer transactionId grant).2
  := by
  rw [sendCredit]
  split
  · exact ⟨_, Sends.refl e⟩
  next e₁ hsend =>
  obtain ⟨packet, -, hsent⟩ := sends_sendGctlFrom hsend
  split
  · exact ⟨_, hsent⟩
  next dlp hnote => exact ⟨_, hsent.trans (sends_noteCredit hnote)⟩

theorem Move.appends (h : Move e e') :
  Appends e e'
  := by
  cases h with
  | other hsame => exact ⟨_, hsame.sends⟩
  | control _ hsend =>
    obtain ⟨packet, -, hsent⟩ := sends_sendGctlFrom hsend
    exact ⟨_, hsent⟩
  | data x => exact ⟨_, sends_sendGts e x⟩
  | credit _ _ => exact appends_sendCredit e _ _ _

theorem Moves.appends (h : Moves e e') :
  Appends e e'
  := h.invariant (fun _ _ happends hmove => happends.trans hmove.appends) ⟨_, Sends.refl e⟩

theorem Handles.appends (h : Handles e e') :
  Appends e e'
  := by
  rcases h with h | ⟨p, h⟩
  · exact h.appends
  · have hcontext : Sends [] e (e.inContext p) :=
      sends_nil rfl rfl rfl rfl rfl rfl ⟨rfl, rfl, rfl, rfl⟩
    exact Appends.trans ⟨_, hcontext⟩ h.appends

/-! ### Control messages that can always be sent -/

theorem makeGdpHeader_isOk (e : LinkedEndpoint T) (packetType : GdpType) (sizeClass : SizeClass)
    (source destination : GdpAddress) :
  ∃ header, e.makeGdpHeader packetType sizeClass source destination = .ok header ∧
    header.sizeClass = sizeClass
  := by
  rw [makeGdpHeader]
  split
  · split
    · dsimp only
      split
      · rw [GdpHeader.local, if_neg (by decide)]
        exact ⟨_, rfl, rfl⟩
      · exact ⟨_, rfl, rfl⟩
    · exact ⟨_, rfl, rfl⟩
  · exact ⟨_, rfl, rfl⟩

/-- A short control message can be sent as long as the link is up. -/
theorem sendGctlFrom_isOk (hup : e.dlp.linkUp) {source remote : GdpAddress} {msg : GctlMessage}
    {sizeClass : SizeClass} (hversion : msg.version = 1#8)
    (hclass : msg.recommendedSizeClass = .ok sizeClass) (hle : msg.encodedLen ≤ sizeClass.bytes) :
  ∃ e', e.sendGctlFrom source remote msg none = .ok e'
  := by
  obtain ⟨payload, hencode, hlength, -⟩ := GctlMessage.decode_encodeExact hversion hle
  obtain ⟨header, hheader, hsize⟩ := e.makeGdpHeader_isOk .gctl sizeClass source remote
  have hpacket : e.gctlPacket source remote msg none = .ok ⟨header, payload⟩ := by
    rw [gctlPacket]
    simp only [hclass, ok_bind, hencode, hheader]
    rw [GdpPacket.new, if_neg]
    rw [hsize, hlength]
    simp
  have hcanonical := (holds_gctlPacket hpacket).canonical
  have hlt : Vcid.control.val < e.dlp.vcMode.count := by cases e.dlp.vcMode <;> decide
  obtain ⟨n, hqueue⟩ := DlpEndpoint.queuePacketOn_of_canonical hup hlt hcanonical
  have hqueue' : e.dlp.queueControlPacket ⟨header, payload⟩ = _ := hqueue
  rw [sendGctlFrom, hpacket, ok_bind, hqueue', ok_bind]
  exact ⟨_, rfl⟩

/-! ### Asking and answering -/

/-- The packet is a `CREDIT_REQUEST`. -/
def AsksCredit (packet : GdpPacket) : Prop :=
  packet.header.packetType = .gctl ∧ ∃ msg request, GctlMessage.decode packet.payload = .ok msg ∧
    msg.messageType = .creditRequest ∧ msg.parseCreditRequest = .ok request

theorem AsksCredit.creditOf_eq {packet : GdpPacket} (h : AsksCredit packet) :
  creditOf packet = none
  := by
  obtain ⟨-, msg, request, hdecode, hmessage, -⟩ := h
  apply creditOf_of_messageType hdecode
  rw [hmessage]
  simp

theorem Holds.asksCredit {source remote : GdpAddress} {transactionId requested : U32}
    {packet : GdpPacket}
    (h : e.Holds source remote (.creditRequest transactionId requested) packet) :
  AsksCredit packet
  := by
  obtain ⟨padding, hdecode⟩ := h.payload
  exact ⟨h.packetType, _, ⟨requested⟩, hdecode, rfl,
    GctlMessage.parseCreditRequest_padded transactionId padding ⟨requested⟩⟩

/-- An endpoint that has data to send and no credit, and has not asked, asks when it is polled. -/
theorem maybeRequestLinkCredit_cases (hup : e.dlp.linkUp) {peer : GdpAddress}
    (hpeer : e.peerLinkLocal = some peer) :
  ((e.dlp.queuedDataFlits = 0 ∨ e.dlp.dataTxCredit ≠ 0#32 ∨ e.creditRequestPending = true) ∧
    e.maybeRequestLinkCredit = (.ok (), e)) ∨
  ∃ transactionId requested packet, e.dlp.dataTxCredit = 0#32 ∧
    e.Holds e.linkLocalAddress peer (.creditRequest transactionId requested) packet ∧
    e.maybeRequestLinkCredit
      = (.ok (), { e.useTransaction.queued packet with creditRequestPending := true })
  := by
  rw [maybeRequestLinkCredit]
  split
  · next h => exact .inl ⟨h, rfl⟩
  next h =>
  rw [not_or, not_or, not_not] at h
  obtain ⟨-, hzero, -⟩ := h
  right
  rw [hpeer]
  dsimp only
  have hlen : (GctlMessage.creditRequest e.nextControlTransaction
      (maxU32 (clampU32 e.dlp.queuedDataFlits) 1#32)).encodedLen ≤ SizeClass.ctrl32.bytes := by
    change 8 + (Octets.toBeBytes _).length ≤ 32
    rw [Octets.length_toBeBytes]
    decide
  obtain ⟨e', hsend⟩ := @sendGctlFrom_isOk T e.useTransaction hup
    e.useTransaction.linkLocalAddress peer _ .ctrl32 rfl rfl hlen
  obtain ⟨packet, hholds, rfl⟩ := sendGctlFrom_queued (e := e.useTransaction) hup hsend
  rw [sendCreditRequest, hsend]
  exact ⟨_, _, packet, hzero, ⟨hholds.canonical, hholds.packetType, hholds.destination, hholds.form,
    hholds.payload⟩, rfl⟩

/-- A `CREDIT` that is sent is queued. -/
theorem sends_sendCredit (hup : e.dlp.linkUp) (peer : GdpAddress) (transactionId grant : U32) :
  ∃ packet, e.Holds e.linkLocalAddress peer (.credit transactionId grant) packet ∧
    Sends [packet] e (e.sendCredit peer transactionId grant).2
  := by
  have hlen : (GctlMessage.credit transactionId grant).encodedLen ≤ SizeClass.ctrl32.bytes := by
    change 8 + (Octets.toBeBytes grant).length ≤ 32
    rw [Octets.length_toBeBytes]
    decide
  obtain ⟨e', hsend⟩ :=
    @sendGctlFrom_isOk T e hup e.linkLocalAddress peer _ .ctrl32 rfl rfl hlen
  obtain ⟨packet, hholds, rfl⟩ := sendGctlFrom_queued hup hsend
  have hsent : Sends [packet] e (e.queued packet) :=
    sends_queued hholds.canonical hholds.packetType
  refine ⟨packet, hholds, ?_⟩
  rw [sendCredit, hsend]
  dsimp only
  split
  · exact hsent
  next dlp hnote => exact hsent.trans (sends_noteCredit hnote)

/-- An endpoint that can give credit gives some when it is asked. -/
theorem answers_handlePacket (hup : e.dlp.linkUp) {packet : GdpPacket}
    (haccepts : e.acceptsDestination packet.header.destination) (hasks : AsksCredit packet)
    (hgrantable : e.dlp.grantableDataCredit ≠ 0#32) (now : U64) :
  ∃ packets, Sends packets e (e.handlePacket packet now).2 ∧
    ∃ reply ∈ packets, creditOf reply ≠ none
  := by
  obtain ⟨htype, msg, request, hdecode, hmessage, hparse⟩ := hasks
  let e₁ : LinkedEndpoint T := { e with lastRxAddressForm := some packet.header.addresses.form }
  have hpos : ∀ available requested : U32, available ≠ 0#32 →
      0#32 < (if requested = 0#32 then available
        else if available < requested then available else requested) := by
    intro available requested hne
    split
    · exact (BitVec.pos_iff_ne_zero _).mpr hne
    · next hrequested =>
      split
      · exact (BitVec.pos_iff_ne_zero _).mpr hne
      · exact (BitVec.pos_iff_ne_zero _).mpr hrequested
  have hgdp : (e.handleGdp packet now).2 = (e₁.sendCredit
      (e₁.peerLinkLocal.getD packet.header.source) msg.transactionId
      (if request.requestedFlits = 0#32 then e.dlp.grantableDataCredit
        else if e.dlp.grantableDataCredit < request.requestedFlits then e.dlp.grantableDataCredit
        else request.requestedFlits)).2 := by
    rw [handleGdp, if_neg (by simp [haccepts]), htype]
    dsimp only
    rw [handleGctl, hdecode]
    dsimp only
    rw [hmessage]
    dsimp only
    rw [handleCreditRequest, hparse]
    dsimp only
    rw [if_pos (hpos _ _ hgrantable)]
  obtain ⟨reply, hholds, hsent⟩ := sends_sendCredit (e := e₁) hup
    (e₁.peerLinkLocal.getD packet.header.source) msg.transactionId
    (if request.requestedFlits = 0#32 then e.dlp.grantableDataCredit
      else if e.dlp.grantableDataCredit < request.requestedFlits then e.dlp.grantableDataCredit
      else request.requestedFlits)
  rw [← hgdp] at hsent
  have hsent' : Sends [reply] e (e.handleGdp packet now).2 := { hsent with }
  obtain ⟨packets, hafter⟩ : Appends (e.handleGdp packet now).2 (e.handlePacket packet now).2 := by
    rw [handlePacket]
    exact moves_advertise_after.appends
  refine ⟨_, hsent'.trans hafter, reply, List.mem_cons_self, ?_⟩
  rw [hholds.creditOf_eq]
  simp

/-- An endpoint that has just been made does not wait. -/
theorem pending_of_fresh {config : EndpointConfig} (h : e.Fresh config) :
  e.creditRequestPending = false
  := by
  have hbuild : ∀ {primary linkLocal state config'},
      LinkedEndpoint.build primary linkLocal state config' = .ok e →
      e.creditRequestPending = false := by
    intro primary linkLocal state config' hbuild
    rw [LinkedEndpoint.build, bind_eq_ok] at hbuild
    obtain ⟨dlp, -, hbuild⟩ := hbuild
    cases hbuild
    rfl
  rcases h with ⟨address, hnew⟩ | ⟨suffix, hnew⟩
  · rw [LinkedEndpoint.new, bind_eq_ok] at hnew
    obtain ⟨config', -, hnew⟩ := hnew
    dsimp only at hnew
    rw [bind_eq_ok] at hnew
    obtain ⟨linkLocal, -, hnew⟩ := hnew
    exact hbuild hnew
  · rw [LinkedEndpoint.unconfigured, bind_eq_ok] at hnew
    obtain ⟨config', -, hnew⟩ := hnew
    rw [bind_eq_ok] at hnew
    obtain ⟨linkLocal, -, hnew⟩ := hnew
    exact hbuild hnew

theorem pending_linkAttached {config : EndpointConfig} (h : e.Fresh config) (peer : GdpAddress)
    (window : U32) :
  (e.linkAttached peer window).2.creditRequestPending = false
  := by
  have hpending := pending_of_fresh h
  rw [linkAttached]
  split
  · exact hpending
  · obtain ⟨packets, hsends⟩ := (moves_advertiseLinkCredit _ true).appends
    exact hsends.creditRequestPending.trans hpending

end LinkedEndpoint

end SmolGnet
