import SmolGnet.Endpoint.Moves

/-!
# The messages an endpoint queues

`Emits P e e'` says that the endpoint `e'` knows the same of the assignment of addresses as `e`,
and that whatever waits to be sent in `e'` waited in `e` or is a packet that satisfies `P`.
Nearly everything an endpoint does queues only packets that are *neutral*: they neither search for a
router nor acknowledge a claim.
-/

namespace SmolGnet

/-- The packet neither searches for a router nor acknowledges a claim. -/
def Neutral (packet : GdpPacket) : Prop :=
  packet.header.packetType = .gctl → ∀ msg, GctlMessage.decode packet.payload = .ok msg →
    msg.messageType ≠ .solicit ∧ msg.messageType ≠ .addressAck

/-- The local context in which a packet is read does not matter. -/
theorem Neutral.within {packet : GdpPacket} (h : Neutral packet) (localPrefix : U64) :
  Neutral (packet.within localPrefix)
  := by
  rw [Neutral, GdpPacket.packetType_within, GdpPacket.payload_within]
  exact h

/-! ### What waits to be sent -/

namespace DlpEndpoint

/-- The packets that wait to be sent, as they are on the wire. -/
def waiting (d : DlpEndpoint) : List Bytes :=
  (d.controlTxQueue ++ d.dataTxQueue).map TxFrame.bytes

theorem mem_waiting {d : DlpEndpoint} {bytes : Bytes} :
  bytes ∈ d.waiting ↔ bytes ∈ d.controlTxQueue.map TxFrame.bytes ∨
    bytes ∈ d.dataTxQueue.map TxFrame.bytes
  := by
  rw [waiting, List.map_append, List.mem_append]

/-- The link `d'` is the link `d` with packets added that satisfy `P`, and perhaps some gone. -/
structure Queues (P : GdpPacket → Prop) (context : U64) (d d' : DlpEndpoint) : Prop where
  cfg : d'.cfg = d.cfg
  localPrefix : d'.localPrefix = d.localPrefix
  waiting : ∀ bytes ∈ d'.waiting, bytes ∈ d.waiting ∨
    ∃ packet : GdpPacket, packet.Canonical context ∧ packet.wire d.cfg = bytes ∧ P packet

variable {P : GdpPacket → Prop} {context : U64} {d d' d'' : DlpEndpoint}

/-- Nothing is added. -/
theorem Queues.of_subset (hcfg : d'.cfg = d.cfg) (hlocal : d'.localPrefix = d.localPrefix)
    (hcontrol : d'.controlTxQueue ⊆ d.controlTxQueue) (hdata : d'.dataTxQueue ⊆ d.dataTxQueue) :
  Queues P context d d'
  := by
  use hcfg, hlocal
  intro bytes hbytes
  left
  rw [mem_waiting] at hbytes ⊢
  exact hbytes.imp (fun h => List.map_subset _ hcontrol h) (fun h => List.map_subset _ hdata h)

theorem Queues.refl (d : DlpEndpoint) :
  Queues P context d d
  := .of_subset rfl rfl (List.Subset.refl _) (List.Subset.refl _)

theorem Queues.trans (h : Queues P context d d') (h' : Queues P context d' d'') :
  Queues P context d d''
  := by
  use h'.cfg.trans h.cfg, h'.localPrefix.trans h.localPrefix
  intro bytes hbytes
  rcases h'.waiting bytes hbytes with hold | hnew
  · exact h.waiting bytes hold
  · rw [h.cfg] at hnew
    exact .inr hnew

/-- Queueing a canonical packet. -/
theorem queues_queuePacketOn {packet : GdpPacket} (hcanonical : packet.Canonical context)
    (hp : P packet) {traffic : LinkTraffic} {vcid : Vcid} {n : ℕ}
    (h : d.queuePacketOn traffic vcid packet = .ok (n, d')) :
  Queues P context d d'
  := by
  rw [queuePacketOn, GdpPacket.encode_of_canonical hcanonical] at h
  split at h
  · cases h
  split at h
  · cases h
  split at h
  · cases h
  split at h
  · cases h
  dsimp only at h
  have hnew : ∀ bytes, bytes = packet.wire d.cfg →
      ∃ packet : GdpPacket, packet.Canonical context ∧ packet.wire d.cfg = bytes ∧ P packet :=
    fun bytes heq => ⟨packet, hcanonical, heq.symm, hp⟩
  cases traffic with
  | control =>
    cases h
    refine ⟨rfl, rfl, ?_⟩
    intro bytes hbytes
    rw [mem_waiting] at hbytes ⊢
    dsimp only at hbytes
    rw [List.map_append, List.mem_append, List.map_singleton, List.mem_singleton] at hbytes
    rcases hbytes with (hold | hbytes) | hold
    · exact .inl (.inl hold)
    · exact .inr (hnew bytes hbytes)
    · exact .inl (.inr hold)
  | data =>
    cases h
    refine ⟨rfl, rfl, ?_⟩
    intro bytes hbytes
    rw [mem_waiting] at hbytes ⊢
    dsimp only at hbytes
    rw [List.map_append, List.mem_append, List.map_singleton, List.mem_singleton] at hbytes
    rcases hbytes with hold | hold | hbytes
    · exact .inl (.inl hold)
    · exact .inl (.inr hold)
    · exact .inr (hnew bytes hbytes)

theorem queues_queueDataPacket {packet : GdpPacket} (hcanonical : packet.Canonical context)
    (hp : P packet) (d : DlpEndpoint) :
  Queues P context d (d.queueDataPacket packet).2
  := by
  have hchoose : Queues P context d d.chooseDataVc.2 :=
    .of_subset rfl rfl (List.Subset.refl _) (List.Subset.refl _)
  rw [queueDataPacket]
  dsimp only
  split
  · next h => exact hchoose.trans (queues_queuePacketOn hcanonical hp h)
  · exact hchoose

/-- A frame that is taken off a queue was in it, and the others stay. -/
theorem popSendableFrame_eq_some {queue rest : List TxFrame} {credit credit' : U32}
    {frame : GnetFrame} (h : popSendableFrame queue credit = .ok (some (frame, rest, credit'))) :
  ∃ front, queue = front :: rest ∧ frame.bytes = front.bytes
  := by
  cases queue with
  | nil => cases h
  | cons front queue' =>
  rw [popSendableFrame] at h
  split at h
  · cases h
  split at h
  · cases h
  split at h
  · next frame' hinto =>
    cases h
    rw [TxFrame.intoFrame] at hinto
    split at hinto
    · cases hinto
    · cases hinto
      exact ⟨front, rfl, rfl⟩
  · cases h

/-- A frame that is sent waited. -/
theorem queues_pollTxFrame {frame : Option GnetFrame} (h : d.pollTxFrame = .ok (frame, d')) :
  Queues P context d d' ∧ ∀ f ∈ frame, f.bytes ∈ d.waiting
  := by
  rw [pollTxFrame] at h
  split at h
  · cases h
  split at h
  · cases h
  · next hpop =>
    cases h
    obtain ⟨front, hqueue, hbytes⟩ := popSendableFrame_eq_some hpop
    constructor
    · refine .of_subset rfl rfl ?_ (List.Subset.refl _)
      rw [hqueue]
      exact List.subset_cons_self _ _
    · rintro _ ⟨⟩
      rw [mem_waiting, hqueue, hbytes]
      simp
  split at h
  · cases h
  · next hpop =>
    cases h
    obtain ⟨front, hqueue, hbytes⟩ := popSendableFrame_eq_some hpop
    constructor
    · refine .of_subset rfl rfl (List.Subset.refl _) ?_
      rw [hqueue]
      exact List.subset_cons_self _ _
    · rintro _ ⟨⟩
      rw [mem_waiting, hqueue, hbytes]
      simp
  split at h
  · cases h
    exact ⟨.refl d, nofun⟩
  · cases h

/-- A frame that arrives queues nothing, and is read in the local context of the link. -/
theorem queues_receiveFrame (d : DlpEndpoint) (frame : GnetFrame) :
  Queues P context d (d.receiveFrame frame).2 ∧ ∀ packet, (d.receiveFrame frame).1 = .ok packet →
    GdpPacket.decode frame.bytes d.cfg d.localPrefix = .ok packet
  := by
  have hsame : ∀ err : Error, Queues P context d d ∧ ∀ packet : GdpPacket,
      (Except.error err : Except Error GdpPacket) = .ok packet →
        GdpPacket.decode frame.bytes d.cfg d.localPrefix = .ok packet :=
    fun err => ⟨.refl d, by simp⟩
  rw [receiveFrame]
  split
  · apply hsame
  split
  · apply hsame
  split
  · apply hsame
  split
  · apply hsame
  dsimp only
  split
  · exact ⟨.refl d, fun _ => id⟩
  · split
    · apply hsame
    split
    · apply hsame
    · exact ⟨.of_subset rfl rfl (List.Subset.refl _) (List.Subset.refl _), fun _ => id⟩

end DlpEndpoint

namespace LinkedEndpoint

variable {T : Transport} {P : GdpPacket → Prop} {e e' e'' : LinkedEndpoint T}

/-- The endpoint `e'` knows the same of the assignment of addresses as `e`, and what it has queued
since then are packets that satisfy `P`. -/
structure Emits (P : GdpPacket → Prop) (e e' : LinkedEndpoint T) : Prop where
  config : e'.config = e.config
  primaryAddress : e'.primaryAddress = e.primaryAddress
  linkLocalAddress : e'.linkLocalAddress = e.linkLocalAddress
  addressState : e'.addressState = e.addressState
  pendingClientOffer : e'.pendingClientOffer = e.pendingClientOffer
  authority : e'.authority = e.authority
  dlp : DlpEndpoint.Queues P e.contextPrefix e.dlp e'.dlp

/-- Only the link has changed. -/
theorem Emits.of_dlp {d : DlpEndpoint} (h : DlpEndpoint.Queues P e.contextPrefix e.dlp d) :
  Emits P e { e with dlp := d }
  := ⟨rfl, rfl, rfl, rfl, rfl, rfl, h⟩

theorem Emits.refl (e : LinkedEndpoint T) :
  Emits P e e
  := .of_dlp (.refl e.dlp)

theorem Emits.trans (h : Emits P e e') (h' : Emits P e' e'') :
  Emits P e e''
  := by
  have hdlp := h'.dlp
  rw [contextPrefix, h.config, ← contextPrefix] at hdlp
  exact ⟨h'.config.trans h.config, h'.primaryAddress.trans h.primaryAddress,
    h'.linkLocalAddress.trans h.linkLocalAddress, h'.addressState.trans h.addressState,
    h'.pendingClientOffer.trans h.pendingClientOffer, h'.authority.trans h.authority,
    h.dlp.trans hdlp⟩

/-- Two steps emit what each of them does. -/
theorem emits_andThen {α β : Type} {x : Except Error α × LinkedEndpoint T}
    {f : α → LinkedEndpoint T → Except Error β × LinkedEndpoint T} (hx : Emits P e x.2)
    (hf : ∀ a e, Emits P e (f a e).2) :
  Emits P e (andThen x f).2
  := by
  refine andThen_invariant (P := fun e' : LinkedEndpoint T => Emits P e e') hx ?_
  intro a e' _ h
  apply h.trans (hf a e')

/-! ### Control messages -/

theorem emits_sendGctlFrom {source remote : GdpAddress} {msg : GctlMessage}
    {sizeClass : Option SizeClass}
    (hp : ∀ packet, e.gctlPacket source remote msg sizeClass = .ok packet → P packet)
    (h : e.sendGctlFrom source remote msg sizeClass = .ok e') :
  Emits P e e'
  := by
  rw [sendGctlFrom, bind_eq_ok] at h
  obtain ⟨packet, hpacket, h⟩ := h
  rw [bind_eq_ok] at h
  obtain ⟨⟨n, d⟩, hqueue, h⟩ := h
  cases h
  exact .of_dlp
    (DlpEndpoint.queues_queuePacketOn (holds_gctlPacket hpacket).canonical (hp packet hpacket) hqueue)

theorem emits_trySendGctlFrom {source remote : GdpAddress} {msg : GctlMessage}
    {sizeClass : Option SizeClass}
    (hp : ∀ packet, e.gctlPacket source remote msg sizeClass = .ok packet → P packet) :
  Emits P e (e.trySendGctlFrom source remote msg sizeClass).2
  := by
  rw [trySendGctlFrom]
  split
  · apply Emits.refl
  · next h => apply emits_sendGctlFrom hp h

/-- A message that neither searches for a router nor acknowledges a claim. -/
theorem neutral_gctlPacket {source remote : GdpAddress} {msg : GctlMessage}
    {sizeClass : Option SizeClass} (hsolicit : msg.messageType ≠ .solicit)
    (hack : msg.messageType ≠ .addressAck) (packet : GdpPacket)
    (h : e.gctlPacket source remote msg sizeClass = .ok packet) :
  Neutral packet
  := by
  obtain ⟨padding, hdecode⟩ := (holds_gctlPacket h).payload
  intro _ msg' hmsg'
  rw [hdecode] at hmsg'
  cases hmsg'
  exact ⟨hsolicit, hack⟩

/-- The answers of an endpoint are packets that it has made. -/
theorem Replies.emits {Q : GctlMessage → Prop} {remote : GdpAddress} (h : Replies Q remote e e')
    (hp : ∀ e₁ reply packet, Emits P e e₁ → Q reply →
      e₁.gctlPacket e₁.linkLocalAddress remote reply none = .ok packet → P packet) :
  Emits P e e'
  := by
  apply h.invariant (P := fun e' => Emits P e e') _ (.refl e)
  intro e₁ reply hreply hemits
  exact hemits.trans (emits_trySendGctlFrom (fun packet => hp e₁ reply packet hemits hreply))

/-- Answers that neither search for a router nor acknowledge a claim. -/
theorem Replies.emits_neutral {Q : GctlMessage → Prop} {remote : GdpAddress}
    (h : Replies Q remote e e')
    (hplain : ∀ reply, Q reply → reply.messageType ≠ .solicit ∧ reply.messageType ≠ .addressAck) :
  Emits Neutral e e'
  := by
  apply h.emits
  intro e₁ reply packet _ hreply
  obtain ⟨hsolicit, hack⟩ := hplain reply hreply
  exact neutral_gctlPacket hsolicit hack packet

/-! ### Link credit -/

theorem emits_sendCredit (e : LinkedEndpoint T) (peer : GdpAddress) (transactionId grant : U32) :
  Emits Neutral e (e.sendCredit peer transactionId grant).2
  := by
  rw [sendCredit]
  split
  · apply Emits.refl
  next e' hsend =>
  have hemits : Emits Neutral e e' := by
    apply emits_sendGctlFrom _ hsend
    apply neutral_gctlPacket
    · nofun
    · nofun
  split
  · exact hemits
  · next d hnote =>
    apply hemits.trans (Emits.of_dlp _)
    rw [DlpEndpoint.noteDataCreditGranted] at hnote
    split at hnote
    · cases hnote
    · cases hnote
      exact .of_subset rfl rfl (List.Subset.refl _) (List.Subset.refl _)

theorem emits_advertiseLinkCredit (e : LinkedEndpoint T) (force : Bool) :
  Emits Neutral e (e.advertiseLinkCredit force).2
  := by
  rw [advertiseLinkCredit]
  split
  · apply Emits.refl
  dsimp only
  split
  · apply Emits.refl
  split
  · apply Emits.refl
  · have hother : Emits Neutral e e.useTransaction := ⟨rfl, rfl, rfl, rfl, rfl, rfl, .refl e.dlp⟩
    apply hother.trans (emits_sendCredit _ _ _ _)

theorem emits_sendCreditRequest (e : LinkedEndpoint T) (peer : GdpAddress) (requested : U32) :
  Emits Neutral e (e.sendCreditRequest peer requested).2
  := by
  have hother : Emits Neutral e e.useTransaction := ⟨rfl, rfl, rfl, rfl, rfl, rfl, .refl e.dlp⟩
  rw [sendCreditRequest]
  apply hother.trans
  split
  · apply Emits.refl
  next e' hsend =>
  have hemits : Emits Neutral e.useTransaction e' := by
    apply emits_sendGctlFrom _ hsend
    apply neutral_gctlPacket
    · nofun
    · nofun
  apply hemits.trans
  exact ⟨rfl, rfl, rfl, rfl, rfl, rfl, .refl e'.dlp⟩

theorem emits_maybeRequestLinkCredit (e : LinkedEndpoint T) :
  Emits Neutral e e.maybeRequestLinkCredit.2
  := by
  rw [maybeRequestLinkCredit]
  split
  · apply Emits.refl
  split
  · apply Emits.refl
  · apply emits_sendCreditRequest

theorem emits_handleCreditRequest (e : LinkedEndpoint T) (src : GdpAddress) (msg : GctlMessage) :
  Emits Neutral e (e.handleCreditRequest src msg).2
  := by
  obtain heq | ⟨grant, -, heq⟩ := e.handleCreditRequest_spec src msg
  · rw [heq]
    apply Emits.refl
  · rw [heq]
    apply emits_sendCredit

theorem emits_handleCredit (e : LinkedEndpoint T) (msg : GctlMessage) :
  Emits Neutral e (e.handleCredit msg).2
  := by
  rw [handleCredit]
  split
  · apply Emits.refl
  · exact ⟨rfl, rfl, rfl, rfl, rfl, rfl,
      .of_subset rfl rfl (List.Subset.refl _) (List.Subset.refl _)⟩

/-! ### The transport -/

theorem emits_sendGts (e : LinkedEndpoint T) (x : GtsSend) :
  Emits Neutral e (e.sendGts x).2
  := by
  rcases sendGts_spec e x with h | ⟨packet, hcanonical, htype, h⟩
  · rw [h]
    apply Emits.refl
  · rw [h]
    apply Emits.of_dlp (DlpEndpoint.queues_queueDataPacket hcanonical _ e.dlp)
    intro hgctl
    rw [htype] at hgctl
    cases hgctl

theorem emits_sendAllGts (xs : List GtsSend) (e : LinkedEndpoint T) :
  Emits Neutral e (sendAllGts xs e).2
  := by
  induction xs generalizing e with
  | nil => apply Emits.refl
  | cons x xs ih =>
    rw [sendAllGts]
    apply emits_andThen (emits_sendGts e x)
    intro _ e'
    apply ih

theorem emits_runTransport (e : LinkedEndpoint T)
    (outcome : Except Error Unit × T.State × List GtsSend) :
  Emits Neutral e (e.runTransport outcome).2
  := by
  have hother : Emits Neutral e { e with transport := outcome.2.1 } :=
    ⟨rfl, rfl, rfl, rfl, rfl, rfl, .refl e.dlp⟩
  rw [runTransport]
  apply emits_andThen (hother.trans (emits_sendAllGts outcome.2.2 _))
  intro _ e'
  apply Emits.refl

/-! ### Transmission and the link -/

/-- A frame that is sent waited, or was queued by the poll itself. -/
theorem emits_pollTxFrame (e : LinkedEndpoint T) :
  Emits Neutral e e.pollTxFrame.2 ∧ ∀ frame, e.pollTxFrame.1 = .ok (some frame) →
    frame.bytes ∈ e.maybeRequestLinkCredit.2.dlp.waiting
  := by
  have hrequest := emits_maybeRequestLinkCredit e
  rw [pollTxFrame]
  generalize e.maybeRequestLinkCredit = r at hrequest ⊢
  obtain ⟨r, e'⟩ := r
  cases r with
  | error err => exact ⟨hrequest, nofun⟩
  | ok _ =>
    rw [andThen]
    dsimp only
    split
    · exact ⟨hrequest, nofun⟩
    · next frame d hpoll =>
      obtain ⟨hqueues, hwaiting⟩ := DlpEndpoint.queues_pollTxFrame hpoll
      refine ⟨hrequest.trans (.of_dlp hqueues), ?_⟩
      rintro frame' heq
      exact hwaiting frame' (Except.ok.inj heq)

theorem emits_linkAttached (e : LinkedEndpoint T) (peerLinkLocal : GdpAddress) (window : U32) :
  Emits Neutral e (e.linkAttached peerLinkLocal window).2
  := by
  rw [linkAttached]
  split
  · apply Emits.refl
  · rw [onLinkAttached]
    have hother : Emits Neutral e { e with
        dlp := (e.dlp.setLinkUp true).grantControlTxCredit window
        peerLinkLocal := some peerLinkLocal } :=
      ⟨rfl, rfl, rfl, rfl, rfl, rfl, .of_subset rfl rfl (List.Subset.refl _) (List.Subset.refl _)⟩
    apply hother.trans (emits_advertiseLinkCredit _ _)

theorem emits_linkDetached (e : LinkedEndpoint T) :
  Emits Neutral e e.linkDetached
  := ⟨rfl, rfl, rfl, rfl, rfl, rfl, .of_subset rfl rfl (List.nil_subset _) (List.nil_subset _)⟩

theorem emits_sendEcho (e : LinkedEndpoint T) (remote : GdpAddress) (transactionId : U32)
    (body : Bytes) (sizeClass : SizeClass) :
  Emits Neutral e (e.sendEcho remote transactionId body sizeClass).2
  := by
  rw [sendEcho, sendGctl]
  apply emits_trySendGctlFrom
  apply neutral_gctlPacket
  · nofun
  · nofun

/-! ### Receiving -/

theorem emits_keepGctl (e : LinkedEndpoint T) (src : GdpAddress) (msg : GctlMessage) :
  Emits Neutral e (e.keepGctl src msg)
  := ⟨rfl, rfl, rfl, rfl, rfl, rfl, .refl e.dlp⟩

theorem emits_handleAdvertise (e : LinkedEndpoint T) (src : GdpAddress) (msg : GctlMessage) :
  Emits Neutral e (e.handleAdvertise src msg).2
  := by
  obtain heq | ⟨routerAddress, heq⟩ := e.handleAdvertise_spec src msg
  · rw [heq]
    apply Emits.refl
  · rw [heq]
    exact ⟨rfl, rfl, rfl, rfl, rfl, rfl, .refl e.dlp⟩

/-- The five messages that assign addresses, and the endpoint after each of them. -/
inductive AddressStep (e : LinkedEndpoint T) (src : GdpAddress) (msg : GctlMessage) :
    LinkedEndpoint T → Prop where
  | solicit (h : msg.messageType = .solicit) : AddressStep e src msg (e.handleRouterSolicit src msg).2
  | offer (h : msg.messageType = .addressOffer) :
    AddressStep e src msg (e.handleAddressOffer src msg).2
  | claim (h : msg.messageType = .addressClaim) :
    AddressStep e src msg (e.handleAddressClaim src msg).2
  | ack (h : msg.messageType = .addressAck) : AddressStep e src msg (e.handleAddressAck msg).2
  | nak (h : msg.messageType = .addressNak) : AddressStep e src msg (e.handleAddressNak msg).2

/-- A message assigns an address, or the endpoint only emits. -/
theorem handleGctl_cases (e : LinkedEndpoint T) (src : GdpAddress) (packet : GdpPacket) :
  Emits Neutral e (e.handleGctl src packet).2 ∨
    ∃ msg e', GctlMessage.decode packet.payload = .ok msg ∧ AddressStep e src msg e' ∧
      Emits Neutral e' (e.handleGctl src packet).2
  := by
  rw [handleGctl]
  split
  · exact .inl (.refl e)
  next msg hmsg =>
  have hkeep : ∀ (r : Except Error Bool × LinkedEndpoint T),
      Emits Neutral r.2 (andThen r (fun answered e =>
        ((.ok () : Except Error Unit), if answered then e else e.keepGctl src msg))).2 := by
    intro r
    apply emits_andThen (Emits.refl r.2)
    intro answered e'
    dsimp only
    split
    · apply Emits.refl
    · apply emits_keepGctl
  split
  · exact .inl (emits_handleCreditRequest e src msg)
  · exact .inl (emits_handleCredit e msg)
  · left
    split
    · apply Emits.refl
    next reply hreply =>
    apply emits_trySendGctlFrom
    rw [GctlMessage.echoReply] at hreply
    split at hreply
    · cases hreply
    · cases hreply
      apply neutral_gctlPacket
      · simp
      · simp
  · exact .inl ⟨rfl, rfl, rfl, rfl, rfl, rfl, .refl e.dlp⟩
  · next htype => exact .inr ⟨msg, _, hmsg, .solicit htype, hkeep _⟩
  · exact .inl (emits_handleAdvertise e src msg)
  · next htype => exact .inr ⟨msg, _, hmsg, .offer htype, .refl _⟩
  · next htype => exact .inr ⟨msg, _, hmsg, .claim htype, hkeep _⟩
  · next htype => exact .inr ⟨msg, _, hmsg, .ack htype, .refl _⟩
  · next htype => exact .inr ⟨msg, _, hmsg, .nak htype, .refl _⟩
  · exact .inl (emits_keepGctl e src msg)

/-- A packet that is for the endpoint assigns an address, or the endpoint only emits. -/
theorem handlePacket_cases (e : LinkedEndpoint T) (packet : GdpPacket) (now : U64) :
  Emits Neutral e (e.handlePacket packet now).2 ∨
    packet.header.packetType = .gctl ∧ ∃ msg e₀ e₁, Emits Neutral e e₀ ∧
      e₀.acceptsDestination packet.header.destination ∧
      GctlMessage.decode packet.payload = .ok msg ∧
      AddressStep e₀ packet.header.source msg e₁ ∧ Emits Neutral e₁ (e.handlePacket packet now).2
  := by
  have hadvertise : Emits Neutral (e.handleGdp packet now).2 (e.handlePacket packet now).2 := by
    rw [handlePacket]
    apply emits_andThen (Emits.refl _)
    intro _ e'
    apply emits_andThen (emits_advertiseLinkCredit e' false)
    intro _ e''
    apply Emits.refl
  generalize (e.handlePacket packet now).2 = e₂ at hadvertise ⊢
  rw [handleGdp] at hadvertise
  split at hadvertise
  · exact .inl hadvertise
  next hnot =>
  have haccepts : e.acceptsDestination packet.header.destination := by simpa using hnot
  have hform : Emits Neutral e { e with lastRxAddressForm := some packet.header.addresses.form } :=
    ⟨rfl, rfl, rfl, rfl, rfl, rfl, .refl e.dlp⟩
  dsimp only at hadvertise
  split at hadvertise
  · next htype =>
    rcases handleGctl_cases { e with lastRxAddressForm := some packet.header.addresses.form }
      packet.header.source packet with hemits | ⟨msg, e₁, hmsg, hstep, hemits⟩
    · exact .inl ((hform.trans hemits).trans hadvertise)
    · exact .inr ⟨htype, msg, _, e₁, hform, haccepts, hmsg, hstep, hemits.trans hadvertise⟩
  · split at hadvertise
    · exact .inl (hform.trans hadvertise)
    · exact .inl ((hform.trans (emits_runTransport _ _)).trans hadvertise)
  · exact .inl (hform.trans hadvertise)

/-- A frame that arrives is read in the local context of the endpoint, or the endpoint only emits. -/
theorem receiveFrame_cases (e : LinkedEndpoint T) (frame : GnetFrame) (now : U64) :
  Emits P e (e.receiveFrame frame now).2 ∨ ∃ e₀ packet, Emits P e e₀ ∧
    GdpPacket.decode frame.bytes e.dlp.cfg e.dlp.localPrefix = .ok packet ∧
    (e.receiveFrame frame now).2 = (e₀.handlePacket packet now).2
  := by
  obtain ⟨hqueues, hdecode⟩ :=
    @DlpEndpoint.queues_receiveFrame P e.contextPrefix e.dlp frame
  rw [receiveFrame]
  split
  · next heq =>
    rw [heq] at hqueues
    exact .inl (.of_dlp hqueues)
  · next packet d heq =>
    rw [heq] at hqueues hdecode
    exact .inr ⟨{ e with dlp := d }, packet, .of_dlp hqueues, hdecode packet rfl, rfl⟩

end LinkedEndpoint

end SmolGnet
