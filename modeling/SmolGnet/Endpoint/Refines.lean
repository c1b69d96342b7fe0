import SmolGnet.Endpoint.FlitStall
import SmolGnet.Endpoint.TransportLink
import SmolGnet.Library.Simulation

/-!
# What the link does for the transports

Two endpoints on a link of flits do for their transports what two queues of packets would do: whatever
happens on the link, in which order ever flits are sent and arrive, credit is given and used, and
control messages come and go, the transports are in states which they could have got into if their
packets had gone through queues, and their applications have seen the same.
-/

namespace SmolGnet

namespace LinkedEndpoint

variable {T : Transport} {e e' e'' : LinkedEndpoint T}

/-- What the transport has of the endpoint. -/
def host (e : LinkedEndpoint T) : Host T where
  address := e.primaryAddress
  context := e.contextPrefix
  wrap := e.gtsPacket
  takes := fun destination => e.acceptsDestination destination && destination ≠ bootstrapAddress
  state := e.transport

/-! ### Control messages do not concern the transport -/

/-- The transport is left alone, and so are its packets. -/
def Keeps (e e' : LinkedEndpoint T) : Prop :=
  e'.transport = e.transport ∧ e'.dlp.dataTxQueue = e.dlp.dataTxQueue

theorem Keeps.refl (e : LinkedEndpoint T) :
  Keeps e e
  := ⟨rfl, rfl⟩

theorem Keeps.trans (h : Keeps e e') (h' : Keeps e' e'') :
  Keeps e e''
  := ⟨h'.1.trans h.1, h'.2.trans h.2⟩

theorem keeps_andThen {α β : Type} {x : Except Error α × LinkedEndpoint T}
    {f : α → LinkedEndpoint T → Except Error β × LinkedEndpoint T} (hx : Keeps e x.2)
    (hf : ∀ a e, Keeps e (f a e).2) :
  Keeps e (andThen x f).2
  := by
  refine andThen_invariant (P := fun e' : LinkedEndpoint T => Keeps e e') hx ?_
  intro a e' _ h
  apply h.trans (hf a e')

theorem keeps_sendGctlFrom {source remote : GdpAddress} {msg : GctlMessage}
    {sizeClass : Option SizeClass} (h : e.sendGctlFrom source remote msg sizeClass = .ok e') :
  Keeps e e'
  := by
  obtain ⟨_, -, _, hqueue, heq⟩ := sendGctlFrom_eq_ok h
  obtain ⟨-, -, -, _, -, -, hdlp⟩ := DlpEndpoint.queuePacketOn_spec hqueue
  rw [heq, hdlp]
  exact Keeps.refl e

theorem keeps_trySendGctlFrom (e : LinkedEndpoint T) (source remote : GdpAddress) (msg : GctlMessage)
    (sizeClass : Option SizeClass) :
  Keeps e (e.trySendGctlFrom source remote msg sizeClass).2
  := by
  rw [trySendGctlFrom]
  split
  · apply Keeps.refl
  · next h => exact keeps_sendGctlFrom h

theorem keeps_sendCredit (e : LinkedEndpoint T) (peer : GdpAddress) (transactionId grant : U32) :
  Keeps e (e.sendCredit peer transactionId grant).2
  := by
  rw [sendCredit]
  split
  · apply Keeps.refl
  next hsend =>
  apply (keeps_sendGctlFrom hsend).trans
  split
  · apply Keeps.refl
  next hnote =>
  rw [DlpEndpoint.noteDataCreditGranted] at hnote
  split at hnote
  · cases hnote
  · cases hnote
    apply Keeps.refl

theorem keeps_advertiseLinkCredit (e : LinkedEndpoint T) (force : Bool) :
  Keeps e (e.advertiseLinkCredit force).2
  := by
  rw [advertiseLinkCredit]
  split
  · apply Keeps.refl
  dsimp only
  split
  · apply Keeps.refl
  split
  · apply Keeps.refl
  · exact keeps_sendCredit e.useTransaction _ _ _

theorem keeps_solicitRouter (e : LinkedEndpoint T) (transactionId : U32) :
  Keeps e (e.solicitRouter transactionId).2
  := by
  rw [solicitRouter]
  split
  · apply Keeps.refl
  · exact keeps_trySendGctlFrom { e with addressState := .soliciting transactionId } _ _ _ _

theorem Replies.keeps {Q : GctlMessage → Prop} {remote : GdpAddress} (h : Replies Q remote e e') :
  Keeps e e'
  := by
  apply h.invariant (P := fun e' => Keeps e e') _ (.refl e)
  intro e₁ reply _ hkeeps
  exact hkeeps.trans (keeps_trySendGctlFrom e₁ _ _ _ _)

theorem keeps_handleRouterSolicit (e : LinkedEndpoint T) (src : GdpAddress) (msg : GctlMessage) :
  Keeps e (e.handleRouterSolicit src msg).2
  := by
  obtain heq | ⟨authority, -, hreplies⟩ := e.handleRouterSolicit_spec src msg
  · rw [heq]
    apply Keeps.refl
  · exact hreplies.keeps

theorem keeps_handleAddressOffer (e : LinkedEndpoint T) (src : GdpAddress) (msg : GctlMessage) :
  Keeps e (e.handleAddressOffer src msg).2
  := by
  obtain heq | ⟨offer, -, -, hreplies⟩ := e.handleAddressOffer_spec src msg
  · rw [heq]
    apply Keeps.refl
  · exact hreplies.keeps

theorem keeps_handleAddressClaim (e : LinkedEndpoint T) (src : GdpAddress) (msg : GctlMessage) :
  Keeps e (e.handleAddressClaim src msg).2
  := by
  obtain hreplies | ⟨authority, claim, -, -, -, hreplies⟩ := e.handleAddressClaim_spec src msg
  · exact hreplies.keeps
  · exact hreplies.keeps

theorem keeps_handleAddressAck (e : LinkedEndpoint T) (msg : GctlMessage) :
  Keeps e (e.handleAddressAck msg).2
  := by
  obtain ⟨-, heq⟩ | ⟨ack, pending, -, -, -, -, heq | ⟨localPrefix, heq⟩⟩ := e.handleAddressAck_spec msg
  · rw [heq]
    apply Keeps.refl
  · rw [heq]
    exact ⟨rfl, rfl⟩
  · rw [heq]
    exact ⟨rfl, rfl⟩

theorem keeps_handleCreditRequest (e : LinkedEndpoint T) (src : GdpAddress) (msg : GctlMessage) :
  Keeps e (e.handleCreditRequest src msg).2
  := by
  obtain heq | ⟨grant, -, heq⟩ := e.handleCreditRequest_spec src msg
  · rw [heq]
    apply Keeps.refl
  · rw [heq]
    apply keeps_sendCredit

/-- Whatever a control message is about, the transport does not notice. -/
theorem keeps_handleGctl (e : LinkedEndpoint T) (src : GdpAddress) (packet : GdpPacket) :
  Keeps e (e.handleGctl src packet).2
  := by
  rw [handleGctl]
  split
  · apply Keeps.refl
  next msg _ =>
  have hkeep : ∀ answered (e' : LinkedEndpoint T),
      Keeps e' (if answered = true then e' else e'.keepGctl src msg) := by
    intro answered e'
    split
    · apply Keeps.refl
    · exact ⟨rfl, rfl⟩
  split
  · exact keeps_handleCreditRequest e src msg
  · rw [handleCredit]
    split
    · apply Keeps.refl
    · exact ⟨rfl, rfl⟩
  · split
    · apply Keeps.refl
    · apply keeps_trySendGctlFrom
  · exact ⟨rfl, rfl⟩
  · exact keeps_andThen (keeps_handleRouterSolicit e src msg) hkeep
  · obtain heq | ⟨routerAddress, heq⟩ := e.handleAdvertise_spec src msg
    · rw [heq]
      apply Keeps.refl
    · rw [heq]
      exact ⟨rfl, rfl⟩
  · exact keeps_handleAddressOffer e src msg
  · exact keeps_andThen (keeps_handleAddressClaim e src msg) hkeep
  · exact keeps_handleAddressAck e msg
  · obtain ⟨-, heq⟩ | ⟨nak, -, heq⟩ := e.handleAddressNak_spec msg
    · rw [heq]
      apply Keeps.refl
    · rw [heq]
      exact ⟨rfl, rfl⟩
  · exact ⟨rfl, rfl⟩

/-- After a packet, credit may be given to the other end. -/
theorem keeps_advertise_after {r : Except Error Unit × LinkedEndpoint T} :
  Keeps r.2 (andThen r (fun _ e =>
    andThen (e.advertiseLinkCredit false) (fun _ e => ((.ok true : Except Error Bool), e)))).2
  := by
  apply keeps_andThen (Keeps.refl r.2)
  intro _ e'
  apply keeps_andThen (keeps_advertiseLinkCredit e' false)
  intro _ e''
  apply Keeps.refl

theorem keeps_handlePacket (e : LinkedEndpoint T) {packet : GdpPacket} (now : U64)
    (htype : packet.header.packetType = .gctl) :
  Keeps e (e.handlePacket packet now).2
  := by
  rw [handlePacket]
  refine Keeps.trans ?_ keeps_advertise_after
  rw [handleGdp]
  split
  · apply Keeps.refl
  rw [htype]
  exact keeps_handleGctl { e with lastRxAddressForm := some packet.header.addresses.form } _ packet

/-! ### What the transport sends -/

theorem moves_handleGdp (e : LinkedEndpoint T) {packet : GdpPacket}
    (htype : packet.header.packetType = .gts) (now : U64) :
  Moves e (e.handleGdp packet now).2
  := by
  have hform : SameLink e { e with lastRxAddressForm := some packet.header.addresses.form } :=
    ⟨rfl, rfl, rfl, rfl, rfl⟩
  rw [handleGdp]
  split
  · apply Moves.refl
  rw [htype]
  apply hform.moves.trans
  dsimp only
  split
  · apply Moves.refl
  · apply moves_runTransport

/-- The link is up, and there is a channel for the next data packet. -/
structure Ready (d : DlpEndpoint) : Prop where
  up : d.linkUp
  traffic : d.nextDataVc.traffic = .data
  lt : d.nextDataVc.val < d.vcMode.count

/-- The frame of a packet of the transport, of which nothing has been sent. -/
structure DataFrame (d : DlpEndpoint) (f : TxFrame × GdpPacket) : Prop where
  canonical : ∃ p, f.2.Canonical p
  packetType : f.2.header.packetType = .gts
  bytes : f.1.bytes = f.2.wire d.cfg
  traffic : f.1.vcid.traffic = .data
  lt : f.1.vcid.val < d.vcMode.count
  offset : f.1.flitOffset = 0

/-- The packets have been queued, in frames of their own. -/
def QueuesData (packets : List GdpPacket) (e e' : LinkedEndpoint T) : Prop :=
  ∃ added : List (TxFrame × GdpPacket), added.map Prod.snd = packets ∧
    (∀ f ∈ added, DataFrame e.dlp f) ∧
    e'.dlp.dataTxQueue = e.dlp.dataTxQueue ++ added.map Prod.fst

theorem queuesData_nil (h : e'.dlp.dataTxQueue = e.dlp.dataTxQueue) :
  QueuesData [] e e'
  := ⟨[], rfl, by simp, by rw [h, List.map_nil, List.append_nil]⟩

/-- On a link that is up, a packet of the transport that can be made is queued. -/
theorem sendGts_ready (e : LinkedEndpoint T) (hready : Ready e.dlp) {x : GtsSend} {packet : GdpPacket}
    (hpacket : e.gtsPacket x = .ok packet) :
  e.sendGts x = (.ok (), { e with dlp := { e.dlp with
    nextDataVc := DlpEndpoint.succDataVc e.dlp.vcMode e.dlp.nextDataVc
    dataTxQueue := e.dlp.dataTxQueue ++ [e.dlp.frameOn e.dlp.nextDataVc packet] } })
  := by
  obtain ⟨hcanonical, -⟩ := gtsPacket_spec hpacket
  obtain ⟨n, hqueue⟩ :=
    DlpEndpoint.queueDataPacket_of_canonical hready.up hready.traffic hready.lt hcanonical
  rw [sendGts, hpacket]
  dsimp only
  rw [hqueue]

/-- On a link that is up, the packets of the transport are queued, up to the first that cannot be
made. -/
theorem sendAllGts_ready (xs : List GtsSend) (e : LinkedEndpoint T) (hready : Ready e.dlp) :
  (sendAllGts xs e).1 = (Host.wrapAll e.gtsPacket xs).1 ∧
    (∃ dlp, (sendAllGts xs e).2 = { e with dlp }) ∧
    QueuesData (Host.wrapAll e.gtsPacket xs).2 e (sendAllGts xs e).2
  := by
  induction xs generalizing e with
  | nil => exact ⟨rfl, ⟨e.dlp, rfl⟩, queuesData_nil rfl⟩
  | cons x xs ih =>
    rw [sendAllGts, Host.wrapAll]
    cases hpacket : e.gtsPacket x with
    | error err =>
      rw [sendGts, hpacket]
      exact ⟨rfl, ⟨e.dlp, rfl⟩, queuesData_nil rfl⟩
    | ok packet =>
      rw [sendGts_ready e hready hpacket]
      dsimp only [andThen]
      have hnext := DlpEndpoint.succDataVc_spec e.dlp.vcMode e.dlp.nextDataVc
      generalize hd : ({ e.dlp with
        nextDataVc := DlpEndpoint.succDataVc e.dlp.vcMode e.dlp.nextDataVc
        dataTxQueue := e.dlp.dataTxQueue ++ [e.dlp.frameOn e.dlp.nextDataVc packet] } :
        DlpEndpoint) = d
      have hready' : Ready d := by
        rw [← hd]
        exact ⟨hready.up, hnext.1, hnext.2⟩
      obtain ⟨hresult, ⟨dlp, heq⟩, added, hpackets, hadded, hqueue⟩ := ih { e with dlp := d } hready'
      refine ⟨hresult, ⟨dlp, heq⟩, (e.dlp.frameOn e.dlp.nextDataVc packet, packet) :: added, ?_, ?_, ?_⟩
      · rw [List.map_cons, hpackets]
        rfl
      · obtain ⟨hcanonical, htype⟩ := gtsPacket_spec hpacket
        rw [List.forall_mem_cons]
        refine ⟨⟨⟨_, hcanonical⟩, htype, rfl, hready.traffic, hready.lt, rfl⟩, ?_⟩
        intro f hf
        obtain ⟨hcanonical, htype, hbytes, ht, hlt, hoffset⟩ := hadded f hf
        rw [← hd] at hbytes hlt
        exact ⟨hcanonical, htype, hbytes, ht, hlt, hoffset⟩
      · rw [hqueue, ← hd, List.map_cons, List.append_assoc]
        rfl

/-- On a link that is up, the endpoint does for its transport what the transport has of it says. -/
theorem runTransport_ready (e : LinkedEndpoint T) (hready : Ready e.dlp)
    (outcome : Except Error Unit × T.State × List GtsSend) :
  (e.runTransport outcome).1 = (e.host.run outcome).1 ∧
    (e.runTransport outcome).2.host = (e.host.run outcome).2.1 ∧
    QueuesData (e.host.run outcome).2.2 e (e.runTransport outcome).2
  := by
  obtain ⟨hresult, ⟨dlp, heq⟩, hqueues⟩ :=
    sendAllGts_ready outcome.2.2 { e with transport := outcome.2.1 } hready
  rw [runTransport, Host.run]
  generalize sendAllGts outcome.2.2 { e with transport := outcome.2.1 } = sent at hresult heq hqueues
  obtain ⟨result, e'⟩ := sent
  dsimp only at hresult heq hqueues
  subst heq
  cases result with
  | ok _ =>
    refine ⟨?_, rfl, hqueues⟩
    change _ = (Host.wrapAll e.gtsPacket outcome.2.2).1.bind _
    rw [← show _ = (Host.wrapAll e.gtsPacket outcome.2.2).1 from hresult]
    rfl
  | error err =>
    refine ⟨?_, rfl, hqueues⟩
    change _ = (Host.wrapAll e.gtsPacket outcome.2.2).1.bind _
    rw [← show _ = (Host.wrapAll e.gtsPacket outcome.2.2).1 from hresult]
    rfl

/-- A packet of the transport arrives. -/
theorem handleGdp_ready (e : LinkedEndpoint T) (hready : Ready e.dlp) {packet : GdpPacket}
    (htype : packet.header.packetType = .gts) (now : U64) :
  (e.handleGdp packet now).2.host = (e.host.take packet now).2.1 ∧
    QueuesData (e.host.take packet now).2.2 e (e.handleGdp packet now).2
  := by
  rw [handleGdp, Host.take]
  cases haccepts : e.acceptsDestination packet.header.destination with
  | false =>
    have htakes : ¬ e.host.takes packet.header.destination := by simp [host, haccepts]
    rw [if_pos (by simp), if_neg htakes]
    exact ⟨rfl, queuesData_nil rfl⟩
  | true =>
    rw [if_neg (by simp), htype]
    dsimp only
    by_cases hbootstrap : packet.header.destination = bootstrapAddress
    · have htakes : ¬ e.host.takes packet.header.destination := by simp [host, hbootstrap]
      rw [if_pos hbootstrap, if_neg htakes]
      exact ⟨rfl, queuesData_nil rfl⟩
    · have htakes : e.host.takes packet.header.destination := by simp [host, haccepts, hbootstrap]
      rw [if_neg hbootstrap, if_pos htakes]
      obtain ⟨-, hhost, hqueues⟩ := runTransport_ready
        { e with lastRxAddressForm := some packet.header.addresses.form } hready
        (T.handleGts e.transport e.primaryAddress packet.header.source packet now)
      exact ⟨hhost, hqueues⟩

end LinkedEndpoint

/-- Only the last context matters in which a packet is read. -/
theorem GdpPacket.within_within (packet : GdpPacket) (p q : U64) :
  (packet.within p).within q = packet.within q
  := by
  cases haddr : packet.header.addresses with
  | «global» =>
    have hform : packet.header.addresses.form = .global := by rw [haddr]; rfl
    rw [within_of_global hform p]
  | «local» => simp only [within, haddr]

namespace FlitLink

variable {T : Transport} {context : Option U64} {s s' : FlitLink T} {t : TransportLink T}
  {e : LinkedEndpoint T} {packets : List GdpPacket}

/-! ### What is on its way -/

/-- The packets of the transport are on their way from the near end, to be read as the far end reads
them, and otherwise there are only control messages. -/
structure Conveys (s : FlitLink T) (packets : List GdpPacket) : Prop where
  data : ∃ frames n, Carries s .data frames n ∧
    frames.map Prod.snd = packets.map (·.within s.far.dlp.localPrefix)
  packetType : ∀ packet ∈ packets, packet.header.packetType = .gts
  control : ∃ frames n, Carries s .control frames n ∧
    ∀ packet ∈ frames.map Prod.snd, packet.header.packetType = .gctl

/-- The far end has the same before it where no flit is lost. -/
theorem Conveys.congr (h : Conveys s packets) (hd : DlpEndpoint.SameReceiver s.far.dlp s'.far.dlp)
    (hleft : ∀ t, s'.left t = s.left t) :
  Conveys s' packets
  := by
  obtain ⟨⟨frames, n, hdata, hpackets⟩, htype, frames', n', hcontrol, hgctl⟩ := h
  refine ⟨⟨frames, n, hdata.congr hd (hleft .data), ?_⟩, htype, frames', n',
    hcontrol.congr hd (hleft .control), hgctl⟩
  obtain ⟨_, _, _, _, _, hdlp⟩ := hd
  rw [hdlp]
  exact hpackets

/-- The near end queues control messages and packets of its transport. -/
theorem Conveys.queues (h : Conveys s packets) (hinv : Inv context s) {control added : List GdpPacket}
    (hcontrol : LinkedEndpoint.Sends control s.near e)
    (hdata : LinkedEndpoint.QueuesData added s.near e) :
  Conveys { s with near := e } (packets ++ added)
  := by
  obtain ⟨⟨frames, n, hframes, hpackets⟩, htype, frames', n', hframes', hgctl⟩ := h
  obtain ⟨added, rfl, hadded, hqueue⟩ := hdata
  have hmode : s.near.dlp.vcMode = s.far.dlp.vcMode := by
    obtain ⟨_, _, _, _, hforward, -⟩ := hinv
    exact hforward.link.same_mode
  have hlt : Vcid.control.val < s.far.dlp.vcMode.count := by cases s.far.dlp.vcMode <;> decide
  constructor
  · refine ⟨_, n, hframes.queues
      (added.map (fun f => (f.1, f.2.within s.far.dlp.localPrefix))) ?_ ?_, ?_⟩
    · rw [List.forall_mem_map]
      intro f hf
      obtain ⟨⟨p, hcanonical⟩, -, hbytes, ht, hlt, hoffset⟩ := hadded f hf
      refine ⟨⟨hcanonical.within _, ?_⟩, ht, ?_, hoffset⟩
      · rw [GdpPacket.wire_within, ← hinv.same_cfg]
        exact hbytes
      · rw [← hmode]
        exact hlt
    · rw [List.map_map]
      exact hqueue
    · rw [List.map_append, List.map_append, hpackets, List.map_map, List.map_map]
      rfl
  · rw [List.forall_mem_append]
    refine ⟨htype, ?_⟩
    rw [List.forall_mem_map]
    intro f hf
    exact (hadded f hf).packetType
  · refine ⟨_, n', hframes'.queues (control.map (fun packet =>
      (s.near.dlp.frameOn Vcid.control packet, packet.within s.far.dlp.localPrefix))) ?_ ?_, ?_⟩
    · rw [List.forall_mem_map]
      intro packet hpacket
      obtain ⟨p, hp⟩ := hcontrol.canonical packet hpacket
      refine ⟨⟨hp.within _, ?_⟩, rfl, hlt, rfl⟩
      rw [GdpPacket.wire_within, ← hinv.same_cfg]
      rfl
    · rw [List.map_map]
      exact hcontrol.queue
    · rw [List.map_append, List.forall_mem_append, List.map_map]
      refine ⟨hgctl, ?_⟩
      rw [List.forall_mem_map]
      intro packet hpacket
      rw [Function.comp_apply, GdpPacket.packetType_within]
      exact hcontrol.packetType packet hpacket

/-- The near end still has the same before it, as it reads it now. -/
theorem Conveys.held (h : Conveys s.swap packets) (hinv' : Inv context { s with near := e })
    {control : List GdpPacket} (hcontrol : LinkedEndpoint.Sends control s.near e) :
  Conveys (FlitLink.swap { s with near := e }) packets
  := by
  obtain ⟨⟨frames, n, hframes, hpackets⟩, htype, frames', n', hframes', hgctl⟩ := h
  refine ⟨⟨_, n, hframes.held hinv' hcontrol.cfg hcontrol.held, ?_⟩, htype, _, n',
    hframes'.held hinv' hcontrol.cfg hcontrol.held, ?_⟩
  · have hread : (frames.map (fun f => (f.1, f.2.within e.dlp.localPrefix))).map Prod.snd
        = (frames.map Prod.snd).map (·.within e.dlp.localPrefix) := by
      rw [List.map_map, List.map_map]
      rfl
    rw [hread, hpackets, List.map_map]
    apply List.map_congr_left
    intro packet _
    apply GdpPacket.within_within
  · rw [List.map_map]
    rw [List.forall_mem_map] at hgctl ⊢
    intro f hf
    rw [Function.comp_apply, GdpPacket.packetType_within]
    exact hgctl f hf

/-! ### The relation -/

/-- The transports are in the same states, and the packets between them are on their way. -/
structure Refines (context : Option U64) (s : FlitLink T) (t : TransportLink T) : Prop where
  inv : Inv context s
  near : t.near = s.near.host
  far : t.far = s.far.host
  sent : Conveys s t.sent
  arriving : Conveys s.swap t.arriving

theorem Refines.swap (h : Refines context s t) :
  Refines context s.swap t.swap
  := ⟨h.inv.swap, h.far, h.near, h.arriving, h.sent⟩

/-- Flits move on. -/
theorem Refines.moved (h : Refines context s t) (hinv' : Inv context s') (hfar : s'.far = s.far)
    (harriving : s'.arriving = s.arriving) (hhost : s'.near.host = s.near.host)
    (hd : DlpEndpoint.SameReceiver s.near.dlp s'.near.dlp) (hleft : ∀ t, s'.left t = s.left t) :
  Refines context s' t
  := by
  refine ⟨hinv', h.near.trans hhost.symm, h.far.trans (congrArg _ hfar.symm), ?_, ?_⟩
  · apply h.sent.congr _ hleft
    rw [hfar]
    exact .refl _
  · refine h.arriving.congr hd ?_
    intro t
    change s'.arriving.filter _ ++ queueRest (s'.far.dlp.txQueue t) = _
    rw [hfar, harriving]
    rfl

/-- The transport of the near end does something. -/
theorem Refines.did (h : Refines context s t) (hinv' : Inv context { s with near := e })
    {r : Except Error Unit × Host T × List GdpPacket} (hhost : e.host = r.2.1)
    (happends : LinkedEndpoint.Appends s.near e)
    (hdata : LinkedEndpoint.QueuesData r.2.2 s.near e) :
  Refines context { s with near := e } (t.did r)
  := by
  obtain ⟨control, hcontrol⟩ := happends
  exact ⟨hinv', hhost.symm, h.far, h.sent.queues h.inv hcontrol hdata,
    h.arriving.held hinv' hcontrol⟩

/-- The near end does something that does not concern the transport; only its address may change. -/
theorem Refines.keeps (h : Refines context s t) (hinv' : Inv context { s with near := e })
    (hkeeps : LinkedEndpoint.Keeps s.near e) (happends : LinkedEndpoint.Appends s.near e) :
  Machine.Matches TransportLink.step TransportLink.observe (Refines context { s with near := e }) t []
  := by
  have hdata := LinkedEndpoint.queuesData_nil hkeeps.2
  by_cases hhost : e.host = s.near.host
  · apply Machine.matches_nil
    have hdid := h.did (r := (.ok (), t.near, [])) hinv' (hhost.trans h.near.symm) happends hdata
    rw [TransportLink.did, List.append_nil] at hdid
    exact hdid
  · have hstate : ({ e.host with state := t.near.state } : Host T) = e.host := by
      rw [h.near]
      change ({ e.host with state := s.near.transport } : Host T) = e.host
      rw [← hkeeps.1]
      rfl
    have hdid := h.did (r := (.ok (), e.host, [])) hinv' rfl happends hdata
    rw [TransportLink.did, List.append_nil] at hdid
    refine Machine.matches_single (.near (.readdress e.host)) ?_ rfl
    rw [TransportLink.step, TransportLink.actNear, hstate]
    exact hdid

/-! ### What happens at the near end -/

theorem Inv.ready (h : Inv context s) :
  LinkedEndpoint.Ready s.near.dlp
  := by
  obtain ⟨_, _, _, _, hforward, -⟩ := h
  exact ⟨hforward.link.a_up, hforward.link.next_vc.1, hforward.link.next_vc.2⟩

/-- The application asks something of the transport, with the same result. -/
theorem Refines.app (h : Refines context s t) (hr : Readable context s) (op : T.Op) :
  Refines context { s with near := (s.near.app op).2 } (t.did (t.near.app op)) ∧
    (t.near.app op).1 = (s.near.app op).1
  := by
  have hmoves := LinkedEndpoint.moves_runTransport s.near
    (T.app s.near.transport s.near.primaryAddress op)
  obtain ⟨hresult, hhost, hdata⟩ := s.near.runTransport_ready h.inv.ready
    (T.app s.near.transport s.near.primaryAddress op)
  rw [h.near]
  exact ⟨h.did (h.inv.moves hr hmoves) hhost hmoves.appends hdata, hresult.symm⟩

theorem Refines.pollTxBurst (h : Refines context s t) (room : ℕ) :
  Refines context (s.pollTxBurst room) t
  := by
  have hleft := h.inv.left_pollTxBurst room
  have hinv' := h.inv.pollTxBurst room
  obtain ⟨cf, df, cq, cc, dq, dc, heq, -⟩ := h.inv.pollTxBurst_eq room
  rw [heq] at hleft hinv' ⊢
  exact h.moved hinv' rfl rfl rfl ⟨_, _, _, _, _, rfl⟩ hleft

/-- The near end asks for credit. -/
theorem Refines.maybeRequestLinkCredit (h : Refines context s t) :
  Refines context { s with near := s.near.maybeRequestLinkCredit.2 } t
  := by
  have hinv' := h.inv.maybeRequestLinkCredit
  have hpeer : s.near.peerLinkLocal = some s.far.linkLocalAddress := by
    obtain ⟨_, _, _, _, hforward, -⟩ := h.inv
    exact hforward.peer
  rcases LinkedEndpoint.maybeRequestLinkCredit_cases h.inv.up hpeer with
    ⟨-, hnone⟩ | ⟨transactionId, requested, packet, -, hholds, hasked⟩
  · rw [hnone]
    exact h
  · rw [hasked] at hinv' ⊢
    have hsent : LinkedEndpoint.Sends [packet] s.near (s.near.useTransaction.queued packet) :=
      { LinkedEndpoint.sends_queued (e := s.near) hholds.canonical hholds.packetType with }
    have hinv₁ : Inv context { s with near := s.near.useTransaction.queued packet } :=
      Inv.of_settings (s := { s with
        near := { s.near.useTransaction.queued packet with creditRequestPending := true } })
        hinv' rfl rfl rfl rfl
    have hqueued := h.did (r := (.ok (), t.near, [])) hinv₁ h.near.symm ⟨_, hsent⟩
      (LinkedEndpoint.queuesData_nil rfl)
    rw [TransportLink.did, List.append_nil] at hqueued
    exact hqueued.moved hinv' rfl rfl rfl (.refl _) (fun _ => rfl)

theorem Refines.pollTxFlit (h : Refines context s t) :
  Refines context s.pollTxFlit t
  := by
  rw [h.inv.pollTxFlit_eq]
  exact h.maybeRequestLinkCredit.pollTxBurst 1

section Arrival

variable {flit : Flit} {arriving : List Flit} {result : Option GdpPacket} {dlp : DlpEndpoint}

/-- A flit that arrives completes no packet, or a control message, or the first packet of the
transport. -/
theorem Refines.arrive (h : Refines context s t) (harrives : Arrives s flit arriving result dlp) :
  Conveys (s.afterFlit arriving dlp) t.sent ∧
    ((∀ packet ∈ result, packet.header.packetType = .gctl) ∧
        Conveys (s.afterFlit arriving dlp).swap t.arriving ∨
      ∃ packet rest, t.arriving = packet :: rest ∧
        result = some (packet.within s.near.dlp.localPrefix) ∧
        Conveys (s.afterFlit arriving dlp).swap rest)
  := by
  constructor
  · exact h.sent.congr (.refl _) harrives.left_near
  obtain ⟨⟨frames, n, hdata, hpackets⟩, htype, frames', n', hcontrol, hgctl⟩ := h.arriving
  obtain ⟨_, _, hdata', hpasses⟩ := harrives.passes h.inv hdata
  obtain ⟨_, _, hcontrol', hpasses'⟩ := harrives.passes h.inv hcontrol
  have hlocal : dlp.localPrefix = s.near.dlp.localPrefix := by
    obtain ⟨_, _, _, _, hd⟩ := harrives.sameSender
    rw [hd]
  rw [hpackets] at hpasses
  rcases hpasses with ⟨hsame, hdataResult⟩ | ⟨htraffic, packet, rfl, hcons⟩
  · left
    have hread : ∀ frames : List (TxFrame × GdpPacket),
        frames.map Prod.snd = t.arriving.map (·.within s.near.dlp.localPrefix) →
        frames.map Prod.snd = t.arriving.map (·.within dlp.localPrefix) := by
      intro _ heq
      rw [hlocal]
      exact heq
    rcases hpasses' with ⟨hsame', hcontrolResult⟩ | ⟨htraffic', packet, rfl, hcons'⟩
    · have hnone : result = none := by
        cases ht : flit.vcid.traffic with
        | control => exact hcontrolResult ht
        | data => exact hdataResult ht
      rw [hnone]
      refine ⟨by simp, ⟨_, _, hdata', hread _ hsame⟩, htype, _, _, hcontrol', ?_⟩
      rw [hsame']
      exact hgctl
    · refine ⟨?_, ⟨_, _, hdata', hread _ hsame⟩, htype, _, _, hcontrol', ?_⟩
      · rintro _ ⟨⟩
        apply hgctl
        rw [hcons']
        exact List.mem_cons_self
      · rw [hcons', List.forall_mem_cons] at hgctl
        exact hgctl.2
  · right
    obtain ⟨first, rest, harriving, rfl, hrest⟩ := List.map_eq_cons_iff.mp hcons
    refine ⟨first, rest, harriving, rfl, ⟨_, _, hdata', ?_⟩, ?_, _, _, hcontrol', ?_⟩
    · change _ = rest.map (·.within dlp.localPrefix)
      rw [hlocal]
      exact hrest.symm
    · intro packet hpacket
      apply htype
      rw [harriving]
      exact List.mem_cons_of_mem _ hpacket
    · rcases hpasses' with ⟨hsame', -⟩ | ⟨htraffic', -⟩
      · rw [hsame']
        exact hgctl
      · rw [htraffic] at htraffic'
        cases htraffic'

/-- The end of the link is given the flit, and may have been given credit. -/
theorem Refines.afterFlit (h : Refines context s t) {rest : List GdpPacket} (hrest : Conveys (s.afterFlit arriving dlp).swap rest)
    (hsent : Conveys (s.afterFlit arriving dlp) t.sent) {d : DlpEndpoint}
    (hd : ∃ credit, d = { dlp with dataTxCredit := credit })
    (hinv' : Inv context { s.withDlp d with arriving }) :
  Refines context { s.withDlp d with arriving } { t with arriving := rest }
  := by
  obtain ⟨credit, rfl⟩ := hd
  refine ⟨hinv', h.near, h.far, ?_, ?_⟩
  · exact hsent.congr (.refl _) (fun t => by cases t <;> rfl)
  · exact hrest.congr ⟨_, _, _, _, _, rfl⟩ (fun _ => rfl)

/-- A packet of the transport is handled. -/
theorem Refines.handlePacket (h : Refines context s t) (hr : Readable context s) {packet : GdpPacket}
    (htype : packet.header.packetType = .gts) (now : U64)
    (hinv' : Inv context { s with near := (s.near.handlePacket packet now).2 }) :
  Machine.Matches TransportLink.step TransportLink.observe
    (Refines context { s with near := (s.near.handlePacket packet now).2 })
    (t.did (t.near.take packet now)) []
  := by
  obtain ⟨hhost, hdata⟩ := s.near.handleGdp_ready h.inv.ready htype now
  have hmoves := s.near.moves_handleGdp htype now
  have hdid := h.did (r := t.near.take packet now) (h.inv.moves hr hmoves)
    (by rw [h.near]; exact hhost) hmoves.appends (by rw [h.near]; exact hdata)
  apply hdid.keeps hinv'
  · rw [LinkedEndpoint.handlePacket]
    apply LinkedEndpoint.keeps_advertise_after
  · rw [LinkedEndpoint.handlePacket]
    exact LinkedEndpoint.moves_advertise_after.appends

/-- The first flit in flight to the near end arrives. -/
theorem Refines.receiveFlit (h : Refines context s t) (hr : Readable context s) {now : U64}
    (hr' : Readable context (s.receiveFlit now)) :
  Machine.Matches TransportLink.step TransportLink.observe (Refines context (s.receiveFlit now)) t []
  := by
  have hinv' := h.inv.receiveFlit hr hr'
  rw [FlitLink.receiveFlit] at hinv' ⊢
  split
  · exact Machine.matches_nil h
  next flit arriving harriving =>
  rw [harriving] at hinv'
  dsimp only at hinv'
  obtain ⟨result, dlp, hreceive, hmatch⟩ := h.inv.receive harriving
  have harrives : Arrives s flit arriving result dlp := ⟨harriving, hreceive⟩
  obtain ⟨hsent, hcases⟩ := h.arrive harrives
  rw [LinkedEndpoint.receiveFlit, hreceive] at hinv' ⊢
  rcases hcases with ⟨hgctl, hrest⟩ | ⟨packet, rest, hpackets, rfl, hrest⟩
  · have hafter : ∀ d, (∃ credit, d = { dlp with dataTxCredit := credit }) →
        Inv context { s.withDlp d with arriving } →
        Refines context { s.withDlp d with arriving } t :=
      fun d hd hinv => h.afterFlit hrest hsent hd hinv
    cases result with
    | none => exact Machine.matches_nil (hafter dlp ⟨_, rfl⟩ hmatch)
    | some packet =>
      dsimp only at hinv' ⊢
      have hkeeps := LinkedEndpoint.keeps_handlePacket { s.near with dlp } now (hgctl packet rfl)
      rw [Option.bind_some] at hmatch
      cases hcredit : creditOf packet with
      | none =>
        rw [hcredit] at hmatch
        have hhandles := LinkedEndpoint.handles_handlePacket { s.near with dlp } now hcredit
        exact Refines.keeps (s := { s.withDlp dlp with arriving }) (hafter dlp ⟨_, rfl⟩ hmatch)
          hinv' hkeeps hhandles.appends
      | some count =>
        rw [hcredit] at hmatch
        obtain ⟨hdestination, hinv⟩ := hmatch
        have hmoves := LinkedEndpoint.moves_handlePacket_of_credit { s.near with dlp } now hcredit (by
          rw [LinkedEndpoint.acceptsDestination, hdestination packet rfl]
          simp)
        have hgranted := hafter (dlp.grantDataTxCredit count) ⟨_, rfl⟩ hinv
        have hgranted' : Refines context { s with
            near := ({ s.near with dlp } : LinkedEndpoint T).granted count, arriving } t :=
          hgranted.moved (Inv.of_settings (s := { s.withDlp dlp with arriving }) hinv rfl rfl rfl rfl)
            rfl rfl rfl (.refl _) (fun _ => rfl)
        exact hgranted'.keeps hinv' hkeeps hmoves.appends
  · have htype : packet.header.packetType = .gts := by
      apply h.arriving.packetType
      rw [hpackets]
      exact List.mem_cons_self
    have htype' : (packet.within s.near.dlp.localPrefix).header.packetType = .gts := by
      rw [GdpPacket.packetType_within]
      exact htype
    have hplain : creditOf (packet.within s.near.dlp.localPrefix) = none := by
      rw [creditOf, if_neg]
      rw [htype']
      simp
    rw [Option.bind_some, hplain] at hmatch
    have hpopped := h.afterFlit hrest hsent ⟨_, rfl⟩ hmatch
    have hcontext : s.near.dlp.localPrefix = t.near.context := by
      obtain ⟨_, _, _, _, hforward, -⟩ := h.inv
      rw [h.near]
      exact hforward.context_eq
    have htaken : Machine.Matches TransportLink.step TransportLink.observe
        (fun t' => t' = TransportLink.did { t with arriving := rest }
          (t.near.take (packet.within s.near.dlp.localPrefix) now)) t [] := by
      refine Machine.matches_single (.near (.take now)) ?_ rfl
      rw [TransportLink.step, TransportLink.actNear, TransportLink.take, hpackets, hcontext]
    apply htaken.trans
    rintro _ rfl
    exact Refines.handlePacket (s := { s.withDlp dlp with arriving }) hpopped hr htype' now hinv'

end Arrival

/-- What the applications see: what they ask of the transport, and whether it succeeds. -/
def observe (s : FlitLink T) : Action T → List (Bool × T.Op × Except Error Unit)
  | .near (.app op) => [(true, op, (s.near.app op).1)]
  | .far (.app op) => [(false, op, (s.far.app op).1)]
  | _ => []

/-- Whatever happens at the near end. -/
theorem Refines.actNear (h : Refines context s t) (hr : Readable context s) {action : LocalAction T}
    (haction : action.NoCredit) (hr' : Readable context (s.actNear action)) :
  Machine.Matches TransportLink.step TransportLink.observe (Refines context (s.actNear action)) t
    (s.observe (.near action))
  := by
  have hinv' := h.inv.actNear hr haction hr'
  cases action with
  | app op =>
    obtain ⟨hrefines, hresult⟩ := h.app hr op
    refine Machine.matches_single (.near (.app op)) hrefines ?_
    rw [TransportLink.observe, hresult]
    rfl
  | sendGctl remote msg sizeClass =>
    exact h.keeps hinv' (LinkedEndpoint.keeps_trySendGctlFrom s.near _ remote msg _)
      (LinkedEndpoint.moves_trySendGctlFrom s.near _ remote haction _).appends
  | solicitRouter transactionId =>
    exact h.keeps hinv' (s.near.keeps_solicitRouter transactionId)
      (s.near.moves_solicitRouter transactionId).appends
  | enableAddressAuthority config =>
    exact Machine.matches_nil (h.moved hinv' rfl rfl rfl (.refl _) (fun _ => rfl))
  | takeEchoReply transactionId =>
    exact Machine.matches_nil (h.moved hinv' rfl rfl rfl (.refl _) (fun _ => rfl))
  | takeGctl => exact Machine.matches_nil (h.moved hinv' rfl rfl rfl (.refl _) (fun _ => rfl))
  | grantControlTxCredit count =>
    exact Machine.matches_nil (h.moved hinv' rfl rfl rfl ⟨_, _, _, _, _, rfl⟩
      (fun t => by cases t <;> rfl))
  | pollTxFlit => exact Machine.matches_nil h.pollTxFlit
  | pollTxBurst room => exact Machine.matches_nil (h.pollTxBurst room)
  | receiveFlit now => exact h.receiveFlit hr hr'

/-- The two queues do whatever the link does. -/
theorem simulates (context : Option U64) :
  Machine.Simulates (step (T := T)) observe
    (fun s action => action.NoCredit ∧ Readable context s ∧ Readable context (s.step action))
    TransportLink.step TransportLink.observe (Refines context)
  := by
  rintro s action t h ⟨haction, hr, hr'⟩
  cases action with
  | near action => exact h.actNear hr haction hr'
  | far action =>
    have hmatches := h.swap.actNear hr.swap haction hr'.swap
    have hobserve : s.observe (.far action)
        = (s.swap.observe (.near action)).map (fun o => (!o.1, o.2)) := by cases action <;> rfl
    rw [hobserve]
    exact hmatches.map (f := TransportLink.swap) TransportLink.step_swap TransportLink.observe_swap
      (fun _ h => h.swap)

/-! ### Runs -/

/-- The queues of a new endpoint are empty, and it holds nothing. -/
theorem empty_of_fresh {config : EndpointConfig} (h : e.Fresh config) :
  e.dlp.controlTxQueue = [] ∧ e.dlp.dataTxQueue = [] ∧ e.dlp.rx = fun _ => none
  := by
  obtain ⟨_, hdlp, -⟩ := fresh_dlp h
  rw [DlpEndpoint.new] at hdlp
  split at hdlp
  · cases hdlp
  · rw [← Except.ok.inj hdlp]
    exact ⟨rfl, rfl, rfl⟩

/-- Of the packets of the transport none is on its way, and of the control messages those are that the
ends have sent when they were attached. -/
theorem conveys_attached {configA configB : EndpointConfig} {a b : LinkedEndpoint T}
    (ha : a.Fresh configA) (hb : b.Fresh configB) (hinv : Inv context (attached a b)) :
  Conveys (attached a b) []
  := by
  obtain ⟨_, -, -, -, -, -, hwindowA⟩ := fresh_dlp ha
  obtain ⟨_, -, -, -, -, -, hwindowB⟩ := fresh_dlp hb
  obtain ⟨hcontrolQueue, hdataQueue, -⟩ := empty_of_fresh ha
  obtain ⟨-, -, hnone⟩ := empty_of_fresh hb
  obtain ⟨packets, hsends⟩ := (moves_linkAttached a b.linkLocalAddress hwindowB).appends
  obtain ⟨_, hheld⟩ := (moves_linkAttached b a.linkLocalAddress hwindowA).appends
  have hkeeps : LinkedEndpoint.Keeps (bound a b.linkLocalAddress b.dlp.controlWindowFlits)
      (attached a b).near := by
    rw [attached, LinkedEndpoint.linkAttached, if_neg hwindowB]
    apply LinkedEndpoint.keeps_advertiseLinkCredit
  obtain ⟨_, _, hcarries⟩ := hinv.carries .control
  have hrx : (attached a b).far.dlp.rx = fun _ => none := hheld.held.rx.trans hnone
  have hqueue : ∀ t, (attached a b).left t = queueRest ((attached a b).near.dlp.txQueue t) :=
    fun _ => rfl
  constructor
  · refine ⟨[], 0, ⟨?_, hcarries.up, hcarries.synchronized⟩, rfl⟩
    have hempty : (attached a b).near.dlp.txQueue .data = [] := hkeeps.2.trans hdataQueue
    rw [hrx, hqueue, hempty]
    exact Carrying.init .data
  · simp
  · have hlt : Vcid.control.val < (attached a b).far.dlp.vcMode.count := by
      cases (attached a b).far.dlp.vcMode <;> decide
    have hempty : (bound a b.linkLocalAddress b.dlp.controlWindowFlits).dlp.controlTxQueue = [] :=
      hcontrolQueue
    have hcfg := hsends.cfg.symm.trans hinv.same_cfg
    let added : List (TxFrame × GdpPacket) := packets.map (fun packet =>
      ((bound a b.linkLocalAddress b.dlp.controlWindowFlits).dlp.frameOn Vcid.control packet,
        packet.within (attached a b).far.dlp.localPrefix))
    have hadded : ∀ f ∈ added, f.1.Carries (attached a b).far.dlp.cfg (attached a b).far.dlp.localPrefix f.2 ∧
        f.1.vcid.traffic = .control ∧ f.1.vcid.val < (attached a b).far.dlp.vcMode.count ∧
        f.1.flitOffset = 0 := by
      rw [List.forall_mem_map]
      intro packet hpacket
      obtain ⟨p, hp⟩ := hsends.canonical packet hpacket
      refine ⟨⟨hp.within _, ?_⟩, rfl, hlt, rfl⟩
      rw [GdpPacket.wire_within, ← hcfg]
      rfl
    have hfirst : Carries { attached a b with near := bound a b.linkLocalAddress b.dlp.controlWindowFlits }
        .control [] 0 := by
      refine ⟨?_, hcarries.up, hcarries.synchronized⟩
      rw [left, DlpEndpoint.txQueue, hempty]
      change Carrying _ _ _ _ (attached a b).far.dlp.rx _ _ _ _ _
      rw [hrx]
      exact Carrying.init .control
    refine ⟨_, 0, hfirst.queues (e := (attached a b).near) added hadded ?_, ?_⟩
    · refine hsends.queue.trans ?_
      rw [DlpEndpoint.txQueue, List.map_map]
      rfl
    · rw [List.nil_append, List.map_map, List.forall_mem_map]
      intro packet hpacket
      rw [Function.comp_apply, GdpPacket.packetType_within]
      exact hsends.packetType packet hpacket

/-- The queues between two transports whose ends have just been attached. -/
def transports (a b : LinkedEndpoint T) : TransportLink T where
  near := a.host
  far := b.host
  sent := []
  arriving := []

/-- To be attached does not concern the transport. -/
theorem host_linkAttached (e : LinkedEndpoint T) (peer : GdpAddress) (window : U32) :
  (e.linkAttached peer window).2.host = e.host
  := by
  have hcredit : ∀ (e : LinkedEndpoint T) peer transactionId grant,
      (e.sendCredit peer transactionId grant).2.host = e.host := by
    intro e peer transactionId grant
    rw [LinkedEndpoint.sendCredit]
    split
    · rfl
    next hsend =>
    obtain ⟨_, -, _, -, heq⟩ := LinkedEndpoint.sendGctlFrom_eq_ok hsend
    rw [heq]
    split
    · rfl
    · rfl
  rw [LinkedEndpoint.linkAttached]
  split
  · rfl
  rw [LinkedEndpoint.onLinkAttached, LinkedEndpoint.advertiseLinkCredit]
  dsimp only
  split
  · rfl
  split
  · rfl
  · apply hcredit

/-- Nothing is on its way where nothing is in flight or waits to be sent. -/
theorem Conveys.eq_nil (h : Conveys s packets) (hsent : s.sent = [])
    (hqueue : s.near.dlp.queuedDataFlits = 0) :
  packets = []
  := by
  obtain ⟨frames, n, hdata, hpackets⟩ := h.data
  have hrest : queueRest (s.near.dlp.txQueue .data) = [] := by
    apply List.eq_nil_of_length_eq_zero
    rw [length_queueRest]
    exact hqueue
  have hcarrying := hdata.carrying
  rw [left, hsent, hrest] at hcarrying
  rw [← List.map_eq_nil_iff, ← hpackets]
  exact hcarrying.yielded_eq.symm

/-- A link of flits is, for the transports of its ends, a pair of queues: two new endpoints with the same
channels and the same wire format are attached to each other, and every run in which the applications
send no `CREDIT` and every `CREDIT` is read as it was written is matched by a run of the two queues, in
which the applications ask the same of the transports, with the same results.  In the end the transports
are in the same states, and what is in the queues is what the link conveys, which is nothing where
nothing is in flight and no data waits to be sent. -/
theorem refines_transportLink {configA configB : EndpointConfig} {a b : LinkedEndpoint T}
    (ha : a.Fresh configA) (hb : b.Fresh configB) (hmode : configA.vcMode = configB.vcMode)
    (hwire : configA.gdpWire = configB.gdpWire) (as : List (Action T))
    (has : ∀ action ∈ as, action.NoCredit) {context : Option U64}
    (hreadable : ∀ bs, bs <+: as → Readable context (Machine.run step (attached a b) bs)) :
  let s := Machine.run step (attached a b) as
  ∃ bs, let t := Machine.run TransportLink.step (transports a b) bs
    Machine.observed TransportLink.step TransportLink.observe (transports a b) bs
      = Machine.observed step observe (attached a b) as ∧
    t.near = s.near.host ∧ t.far = s.far.host ∧ Conveys s t.sent ∧ Conveys s.swap t.arriving ∧
    (s.sent = [] → s.near.dlp.queuedDataFlits = 0 → t.sent = []) ∧
    (s.arriving = [] → s.far.dlp.queuedDataFlits = 0 → t.arriving = [])
  := by
  intro s
  have hinv : Inv context (attached a b) :=
    inv_attached ha hb hmode hwire (hreadable [] List.nil_prefix)
  have hattached : Refines context (attached a b) (transports a b) :=
    ⟨hinv, (host_linkAttached a _ _).symm, (host_linkAttached b _ _).symm,
      conveys_attached ha hb hinv, conveys_attached hb ha hinv.swap⟩
  obtain ⟨bs, hrefines, hobserved⟩ := (simulates context).run hattached
    ((Machine.along_of_forall _ has).and (Machine.along_of_forall_isPrefix hreadable))
  exact ⟨bs, hobserved, hrefines.near, hrefines.far, hrefines.sent, hrefines.arriving,
    hrefines.sent.eq_nil, hrefines.arriving.eq_nil⟩

/-- Both applications send a packet, one of which does not have the length of its class, and the first
flits of the other are on their way. -/
theorem refines_transportLink_crossing :
  let x : GtsSend := ⟨⟨7#64⟩, .empty, []⟩
  let y : GtsSend := ⟨⟨9#64⟩, .empty, [1#8]⟩
  let as : List (Action .direct) :=
    [.far (.app x), .near (.app y), .near (.pollTxBurst 20)] ++
      List.replicate 13 (.far (.receiveFlit 0#64)) ++ [.far (.pollTxBurst 16)]
  ∃ a b : LinkedEndpoint .direct,
    a.Fresh ⟨32#32, .four, 8#8, none, false, 8#32, 32#32, ⟨true⟩⟩ ∧
    b.Fresh ⟨32#32, .four, 8#8, none, false, 8#32, 32#32, ⟨true⟩⟩ ∧
    (Machine.run step (attached a b) as).far.dlp.queuedDataFlits = 2 ∧
    ∃ bs, Machine.observed TransportLink.step TransportLink.observe (transports a b) bs
      = [(false, x, .ok ()), (true, y, .error .invalidLength)]
  := by
  intro x y as
  have has : ∀ action ∈ as, action.NoCredit := by
    simp [as, Action.NoCredit, LocalAction.NoCredit]
  let config : EndpointConfig := ⟨32#32, .four, 8#8, none, false, 8#32, 32#32, ⟨true⟩⟩
  have ha : @LinkedEndpoint.Fresh .direct config _ := .inl ⟨⟨7#64⟩, rfl⟩
  have hb : @LinkedEndpoint.Fresh .direct config _ := .inl ⟨⟨9#64⟩, rfl⟩
  refine ⟨_, _, ha, hb, by decide +kernel, ?_⟩
  obtain ⟨bs, hobserved, -⟩ :=
    @refines_transportLink .direct config config _ _ ha hb rfl rfl as has none (by
      intro bs hbs
      apply readable_run ha hb rfl rfl rfl rfl
      intro action haction
      exact has action (hbs.subset haction))
  refine ⟨bs, hobserved.trans ?_⟩
  change [(false, x, _), (true, y, _)] = _
  congr 4
  · decide +kernel
  · decide +kernel

end FlitLink

end SmolGnet
