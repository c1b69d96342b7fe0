import SmolGnet.Managed.Ceiling

/-!
# The local context of a managed endpoint

The prefix of the local context is kept in three places: the configuration that the managed
endpoint was made with, the configuration of its endpoint, from which headers are built, and the
end of the link, by which they are read.  The assignment of an address changes the last two; the
installation of a profile sets the last from the first.  So the last two agree in every state of
a run in which a profile is installed exactly if no profile is installed in the run after the
address assignment has changed the context.
-/

namespace SmolGnet

namespace LinkedEndpoint

variable {T : Transport} {e e' e'' : LinkedEndpoint T}

/-- Headers are read in the local context in which they are built. -/
def Aligned (e : LinkedEndpoint T) : Prop :=
  e.dlp.localPrefix = e.contextPrefix

/-- The local context is the same for building and for reading headers. -/
def SameContext (e e' : LinkedEndpoint T) : Prop :=
  e'.config = e.config ∧ e'.dlp.localPrefix = e.dlp.localPrefix

theorem SameContext.refl (e : LinkedEndpoint T) :
  SameContext e e
  := ⟨rfl, rfl⟩

theorem SameContext.trans (h : SameContext e e') (h' : SameContext e' e'') :
  SameContext e e''
  := ⟨h'.1.trans h.1, h'.2.trans h.2⟩

theorem SameContext.aligned (h : SameContext e e') (he : e.Aligned) :
  e'.Aligned
  := by
  rw [Aligned, contextPrefix, h.1, h.2]
  exact he

/-- What the link layer does when it sends leaves the context as it is. -/
theorem sameContext_of_sameReceiver {d : DlpEndpoint} (h : DlpEndpoint.SameReceiver e.dlp d) :
  SameContext e { e with dlp := d }
  := by
  obtain ⟨_, _, _, _, _, rfl⟩ := h
  exact ⟨rfl, rfl⟩

theorem sameContext_of_sameSender {d : DlpEndpoint} (h : DlpEndpoint.SameSender e.dlp d) :
  SameContext e { e with dlp := d }
  := by
  obtain ⟨_, _, _, _, rfl⟩ := h
  exact ⟨rfl, rfl⟩

theorem sameContext_sendGctlFrom {source remote : GdpAddress} {msg : GctlMessage}
    {sizeClass : Option SizeClass} (h : e.sendGctlFrom source remote msg sizeClass = .ok e') :
  SameContext e e'
  := by
  obtain ⟨packet, -, n, hqueue, heq⟩ := sendGctlFrom_eq_ok h
  rw [heq]
  exact sameContext_of_sameReceiver (DlpEndpoint.sameReceiver_queuePacketOn hqueue)

theorem sameContext_trySendGctlFrom (e : LinkedEndpoint T) (source remote : GdpAddress)
    (msg : GctlMessage) (sizeClass : Option SizeClass) :
  SameContext e (e.trySendGctlFrom source remote msg sizeClass).2
  := by
  rw [trySendGctlFrom]
  split
  · apply SameContext.refl
  · next h => exact sameContext_sendGctlFrom h

theorem Move.sameContext (h : Move e e') :
  SameContext e e'
  := by
  cases h with
  | other h => exact ⟨h.config, congrArg _ h.dlp⟩
  | control hmsg h => exact sameContext_sendGctlFrom h
  | data x =>
    rcases e.sendGts_spec x with heq | ⟨packet, -, -, heq⟩
    · rw [heq]
      apply SameContext.refl
    · rw [heq]
      exact sameContext_of_sameReceiver (e.dlp.sameReceiver_queueDataPacket packet)
  | credit hpeer hgrant =>
    rw [sendCredit]
    split
    · apply SameContext.refl
    next e₁ hsend =>
    apply (sameContext_sendGctlFrom hsend).trans
    split
    · apply SameContext.refl
    · next dlp hnote =>
      rw [DlpEndpoint.noteDataCreditGranted] at hnote
      split at hnote
      · cases hnote
      · cases hnote
        exact ⟨rfl, rfl⟩

theorem Moves.sameContext (h : Moves e e') :
  SameContext e e'
  := by
  induction h with
  | refl => apply SameContext.refl
  | tail _ hlast ih => exact ih.trans hlast.sameContext

/-- Whatever a packet brings, the context stays the same for building and for reading. -/
theorem Handles.aligned (h : Handles e e') (he : e.Aligned) :
  e'.Aligned
  := by
  rcases h with h | ⟨localPrefix, h⟩
  · exact h.sameContext.aligned he
  · exact h.sameContext.aligned rfl

theorem aligned_handlePacket (packet : GdpPacket) (now : U64) (he : e.Aligned) :
  (e.handlePacket packet now).2.Aligned
  := by
  cases hcredit : creditOf packet with
  | none => exact (handles_handlePacket e now hcredit).aligned he
  | some count =>
    by_cases haccepts : e.acceptsDestination packet.header.destination = true
    · exact (moves_handlePacket_of_credit e now hcredit haccepts).sameContext.aligned he
    · rw [handlePacket, handleGdp, if_pos (by simp [haccepts])]
      exact he

theorem aligned_handleManagedPacket (packet : GdpPacket) (now : U64) (limit : U32)
    (he : e.Aligned) :
  (e.handleManagedPacket packet now limit).2.Aligned
  := by
  rw [handleManagedPacket]
  split
  · exact he
  · exact aligned_handlePacket packet now he

theorem aligned_receiveManagedFlit (flit : Flit) (now : U64) (limit : U32) (he : e.Aligned) :
  (e.receiveManagedFlit flit now limit).2.Aligned
  := by
  have hreceive := (sameContext_of_sameSender (e.dlp.sameSender_receive flit)).aligned he
  rw [receiveManagedFlit]
  split
  · next h =>
    rw [h] at hreceive
    exact hreceive
  · next h =>
    rw [h] at hreceive
    exact hreceive
  · next h =>
    rw [h] at hreceive
    exact aligned_handleManagedPacket _ now limit hreceive

theorem aligned_receiveManagedFrame (frame : GnetFrame) (now : U64) (limit : U32)
    (he : e.Aligned) :
  (e.receiveManagedFrame frame now limit).2.Aligned
  := by
  have hreceive := (sameContext_of_sameSender (e.dlp.sameSender_receiveFrame frame)).aligned he
  rw [receiveManagedFrame]
  split
  · next h =>
    rw [h] at hreceive
    exact hreceive
  · next h =>
    rw [h] at hreceive
    exact aligned_handleManagedPacket _ now limit hreceive

theorem sameContext_sendCreditRequest (e : LinkedEndpoint T) (peer : GdpAddress)
    (requested : U32) :
  SameContext e (e.sendCreditRequest peer requested).2
  := by
  rw [sendCreditRequest]
  split
  · exact ⟨rfl, rfl⟩
  · next h =>
    have hsent := sameContext_sendGctlFrom (e := e.useTransaction) h
    exact ⟨hsent.1, hsent.2⟩

theorem sameContext_maybeRequestLinkCredit (e : LinkedEndpoint T) :
  SameContext e e.maybeRequestLinkCredit.2
  := by
  rw [maybeRequestLinkCredit]
  split
  · apply SameContext.refl
  split
  · apply SameContext.refl
  · apply sameContext_sendCreditRequest

theorem sameContext_retryManagedLinkCreditRequest (e : LinkedEndpoint T) :
  SameContext e e.retryManagedLinkCreditRequest
  := by
  rw [retryManagedLinkCreditRequest]
  dsimp only
  split
  · exact ⟨rfl, rfl⟩
  split
  · exact ⟨rfl, rfl⟩
  · exact sameContext_sendCreditRequest { e with creditRequestPending := false } _ _

/-- Two steps leave the context as it is if both do. -/
theorem sameContext_andThen {α β : Type} {x : Except Error α × LinkedEndpoint T}
    {f : α → LinkedEndpoint T → Except Error β × LinkedEndpoint T} (hx : SameContext e x.2)
    (hf : ∀ a e, SameContext e (f a e).2) :
  SameContext e (andThen x f).2
  := by
  refine andThen_invariant (P := fun e' : LinkedEndpoint T => SameContext e e') hx ?_
  intro a e' _ h
  exact h.trans (hf a e')

theorem sameContext_pollTxFlit (e : LinkedEndpoint T) :
  SameContext e e.pollTxFlit.2
  := by
  apply sameContext_andThen (sameContext_maybeRequestLinkCredit e)
  intro _ e'
  exact sameContext_of_sameReceiver e'.dlp.sameReceiver_pollTx

theorem sameContext_pollTxFrame (e : LinkedEndpoint T) :
  SameContext e e.pollTxFrame.2
  := by
  apply sameContext_andThen (sameContext_maybeRequestLinkCredit e)
  intro _ e'
  split
  · apply SameContext.refl
  · next h => exact sameContext_of_sameReceiver (DlpEndpoint.sameReceiver_pollTxFrame h)

theorem sameContext_bindManagedLinkPeer (e : LinkedEndpoint T) (peer : GdpAddress)
    (window : U32) :
  SameContext e (e.bindManagedLinkPeer peer window).2
  := by
  rw [bindManagedLinkPeer]
  split
  · apply SameContext.refl
  · have hbound : SameContext e { e with
        peerLinkLocal := some peer
        creditRequestPending := false
        dlp := e.dlp.grantControlTxCredit window } := ⟨rfl, rfl⟩
    exact hbound.trans (moves_advertiseLinkCredit _ true).sameContext

end LinkedEndpoint

namespace DlpManagedEndpoint

variable {T : Transport} {m m' : DlpManagedEndpoint T}

/-- The prefix of the local context in the configuration that the endpoint was made with. -/
def wrapperPrefix (m : DlpManagedEndpoint T) : U64 :=
  m.endpointConfig.localContextPrefix.getD 0#64 &&& ~~~0xffff#64

/-- When a profile is installed, headers are read in the local context in which they are built. -/
def ContextAligned (m : DlpManagedEndpoint T) : Prop :=
  m.negotiated ≠ none → m.endpoint.Aligned

/-- The event ends the negotiation with the installation of a profile. -/
def Installs (m m' : DlpManagedEndpoint T) : Prop :=
  m.state = .negotiate ∧ m'.state = .creditSync

/-- Capabilities are handled, before the profile is installed if it can be. -/
def handleCapabilities (m : DlpManagedEndpoint T) (kind : DlpCapabilityKind) (profiles rates : U8) :
    Except Error Unit × DlpManagedEndpoint T :=
  match kind with
  | .offer => m.onCapabilityOffer profiles rates
  | .selection => m.onCapabilitySelection profiles rates
  | .confirmation => m.onCapabilityConfirmation profiles rates

/-- Parameters are handled, before the profile is installed if it can be. -/
def handleParameters (m : DlpManagedEndpoint T) (kind : DlpCapabilityKind)
    (rxWindowUnits burstUnits : U8) (rx burst : U32) : Except Error Unit × DlpManagedEndpoint T :=
  match kind with
  | .offer => m.onParameterOffer rx burst
  | .selection => m.onParameterSelection rxWindowUnits burstUnits rx burst
  | .confirmation => m.onParameterConfirmation rx burst

/-- The frame negotiates in the generation that the other end is known to have, and passes its
checks. -/
def accepts (m : DlpManagedEndpoint T) : DlpControlFrame → Bool
  | .capabilities kind g profiles rates =>
    m.frameIsCurrent g && (m.handleCapabilities kind profiles rates).1.isOk
  | .linkParameters kind g rxWindowUnits burstUnits =>
    m.frameIsCurrent g &&
      match decodeParameterUnits rxWindowUnits, decodeParameterUnits burstUnits with
      | .ok rx, .ok burst => (m.handleParameters kind rxWindowUnits burstUnits rx burst).1.isOk
      | _, _ => false
  | _ => false

/-- With the frame every confirmation has been sent and received: a selection is confirmed, and a
confirmation is one. -/
def completes (m : DlpManagedEndpoint T) : DlpControlFrame → Bool
  | .capabilities kind .. =>
    (m.capConfirmationSent || kind = .selection) && (m.capConfirmationReceived || kind = .confirmation)
      && m.paramsConfirmationSent && m.paramsConfirmationReceived
  | .linkParameters kind .. =>
    m.capConfirmationSent && m.capConfirmationReceived
      && (m.paramsConfirmationSent || kind = .selection)
      && (m.paramsConfirmationReceived || kind = .confirmation)
  | _ => false

/-- The event is the last frame of the negotiation. -/
def endsNegotiation (m : DlpManagedEndpoint T) : Event T → Bool
  | .op _ => false
  | .receiveControl bytes =>
    m.state = .negotiate &&
      match DlpControlFrame.decode bytes with
      | .ok frame => m.accepts frame && m.completes frame
      | .error _ => false

/-- The negotiation ends only while the context of the endpoint is the one that it was made
with. -/
def InstallsOriginal (m : DlpManagedEndpoint T) (event : Event T) : Prop :=
  m.endsNegotiation event = true → m.endpoint.contextPrefix = m.wrapperPrefix

instance (m : DlpManagedEndpoint T) (event : Event T) :
    Decidable (InstallsOriginal m event) :=
  inferInstanceAs (Decidable (_ → _))

/-! ### The end of the negotiation -/

theorem onCapabilities_eq (hstate : m.state = .negotiate) (kind : DlpCapabilityKind)
    (profiles rates : U8) :
  m.onCapabilities kind profiles rates
    = andThen (m.handleCapabilities kind profiles rates) (fun _ m => m.maybeInstallProfile)
  := by
  rw [onCapabilities.eq_def, if_neg (not_not.mpr hstate)]
  cases kind with
  | offer => rfl
  | selection => rfl
  | confirmation => rfl

theorem onLinkParameters_eq (hstate : m.state = .negotiate) (kind : DlpCapabilityKind)
    {rxWindowUnits burstUnits : U8} {rx burst : U32} (hrx : decodeParameterUnits rxWindowUnits = .ok rx)
    (hburst : decodeParameterUnits burstUnits = .ok burst) :
  m.onLinkParameters kind rxWindowUnits burstUnits
    = andThen (m.handleParameters kind rxWindowUnits burstUnits rx burst)
        (fun _ m => m.maybeInstallProfile)
  := by
  rw [onLinkParameters.eq_def, if_neg (not_not.mpr hstate), hrx, hburst]
  cases kind with
  | offer => rfl
  | selection => rfl
  | confirmation => rfl

/-- What has been confirmed has been selected, and the receive buffer is not empty. -/
structure Selects (m : DlpManagedEndpoint T) : Prop where
  mode : m.capConfirmationReceived = true → m.selectedMode.isSome
  params : m.paramsConfirmationReceived = true → m.selectedBurst.isSome ∧ m.selectedPeerRx.isSome
  buffer : m.endpointConfig.rxBufferFlits ≠ 0#32

/-- The profile is installed when everything has been confirmed. -/
theorem maybeInstallProfile_iff (hstate : m.state = .negotiate) (h : m.Selects) :
  m.maybeInstallProfile.2.state = .creditSync ↔ (m.capConfirmationSent && m.capConfirmationReceived &&
    m.paramsConfirmationSent && m.paramsConfirmationReceived) = true
  := by
  rw [maybeInstallProfile]
  split
  · next hno =>
    refine iff_of_false (by simp [hstate]) ?_
    intro hready
    simp only [Bool.and_eq_true] at hready
    simp [hstate, hready] at hno
  next hready =>
  simp only [hstate, not_true_eq_false, Bool.not_eq_true', false_or, not_or, Bool.not_eq_false,
    ne_eq] at hready
  obtain ⟨hcs, hcr, hps, hpr⟩ := hready
  obtain ⟨mode, hmode⟩ := Option.isSome_iff_exists.mp (h.mode hcr)
  obtain ⟨hburst, hrx⟩ := h.params hpr
  obtain ⟨burst, hburst⟩ := Option.isSome_iff_exists.mp hburst
  obtain ⟨rx, hrx⟩ := Option.isSome_iff_exists.mp hrx
  have hwindow : dlpReservedControlWindowFlits ≠ 0#32 := by decide
  refine iff_of_true ?_ (by simp [hcs, hcr, hps, hpr])
  rw [hmode, hburst, hrx]
  dsimp only
  rw [DlpEndpoint.new, if_neg (not_or.mpr ⟨h.buffer, hwindow⟩)]

/-- A frame of the negotiation has been handled, but the profile not yet installed. -/
structure Handles (m : DlpManagedEndpoint T) (capSelection capConfirmation paramsSelection
    paramsConfirmation : Bool) (x : Except Error Unit × DlpManagedEndpoint T) : Prop where
  state : x.2.state = m.state
  selects : m.Selects → x.2.Selects
  confirmed : x.1.isOk = true →
    x.2.capConfirmationSent = (m.capConfirmationSent || capSelection) ∧
    x.2.capConfirmationReceived = (m.capConfirmationReceived || capConfirmation) ∧
    x.2.paramsConfirmationSent = (m.paramsConfirmationSent || paramsSelection) ∧
    x.2.paramsConfirmationReceived = (m.paramsConfirmationReceived || paramsConfirmation)

/-- A frame that is refused is handled. -/
theorem Handles.refused {cs cr ps pr : Bool} (err : Error) :
  Handles m cs cr ps pr (.error err, m)
  := ⟨rfl, id, fun h => by cases h⟩

theorem handles_handleCapabilities (m : DlpManagedEndpoint T) (kind : DlpCapabilityKind)
    (profiles rates : U8) :
  Handles m (kind = .selection) (kind = .confirmation) false false
    (m.handleCapabilities kind profiles rates)
  := by
  cases kind with
  | offer =>
    rw [handleCapabilities]
    dsimp only [onCapabilityOffer, queueControl]
    repeat' split
    · exact .refused _
    · exact ⟨rfl, fun h => ⟨h.1, h.2, h.3⟩, fun h => by cases h⟩
    · exact ⟨rfl, fun h => ⟨h.1, h.2, h.3⟩, fun h => by cases h⟩
    · exact ⟨rfl, fun h => ⟨fun _ => rfl, h.2, h.3⟩, fun _ => by simp⟩
    · exact ⟨rfl, fun h => ⟨fun _ => rfl, h.2, h.3⟩, fun _ => by simp⟩
  | selection =>
    rw [handleCapabilities]
    dsimp only [onCapabilitySelection, queueControl]
    repeat' split
    · exact .refused _
    · exact .refused _
    · exact .refused _
    · exact .refused _
    · exact ⟨rfl, fun h => ⟨h.1, h.2, h.3⟩, fun _ => by simp⟩
    · next hsent => exact ⟨rfl, fun h => ⟨h.1, h.2, h.3⟩, fun _ => by simpa using hsent⟩
  | confirmation =>
    rw [handleCapabilities]
    dsimp only [onCapabilityConfirmation]
    repeat' split
    · exact .refused _
    · next hmode _ _ => exact ⟨rfl, fun h => ⟨fun _ => by rw [hmode]; rfl, h.2, h.3⟩, fun _ => by simp⟩
    · exact .refused _

theorem handles_handleParameters (m : DlpManagedEndpoint T) (kind : DlpCapabilityKind)
    (rxWindowUnits burstUnits : U8) (rx burst : U32) :
  Handles m false false (kind = .selection) (kind = .confirmation)
    (m.handleParameters kind rxWindowUnits burstUnits rx burst)
  := by
  cases kind with
  | offer =>
    rw [handleParameters]
    dsimp only [onParameterOffer, queueControl]
    repeat' split
    · exact .refused _
    · exact ⟨rfl, fun h => ⟨h.1, fun _ => ⟨rfl, rfl⟩, h.3⟩, fun h => by cases h⟩
    · exact ⟨rfl, fun h => ⟨h.1, fun _ => ⟨rfl, rfl⟩, h.3⟩, fun h => by cases h⟩
    · exact ⟨rfl, fun h => ⟨h.1, fun _ => ⟨rfl, rfl⟩, h.3⟩, fun _ => by simp⟩
    · exact ⟨rfl, fun h => ⟨h.1, fun _ => ⟨rfl, rfl⟩, h.3⟩, fun _ => by simp⟩
  | selection =>
    rw [handleParameters]
    dsimp only [onParameterSelection, queueControl]
    repeat' split
    · exact .refused _
    · exact .refused _
    · exact ⟨rfl, fun h => ⟨h.1, h.2, h.3⟩, fun _ => by simp⟩
    · next hsent => exact ⟨rfl, fun h => ⟨h.1, h.2, h.3⟩, fun _ => by simpa using hsent⟩
  | confirmation =>
    rw [handleParameters]
    dsimp only [onParameterConfirmation]
    repeat' split
    · exact .refused _
    · next hrx hburst _ =>
      exact ⟨rfl, fun h => ⟨h.1, fun _ => by simp [hrx, hburst], h.3⟩, fun _ => by simp⟩
    · exact .refused _

/-- The profile is installed after a frame that passes its checks, when everything has been
confirmed. -/
theorem Handles.installs_iff {cs cr ps pr : Bool} {x : Except Error Unit × DlpManagedEndpoint T}
    (hx : Handles m cs cr ps pr x) (hstate : m.state = .negotiate) (h : m.Selects) :
  (andThen x (fun _ m => m.maybeInstallProfile)).2.state = .creditSync ↔
    (x.1.isOk && ((m.capConfirmationSent || cs) && (m.capConfirmationReceived || cr) &&
      (m.paramsConfirmationSent || ps) && (m.paramsConfirmationReceived || pr))) = true
  := by
  obtain ⟨r, m'⟩ := x
  have hstate' : m'.state = .negotiate := hx.state.trans hstate
  cases r with
  | error err =>
    refine iff_of_false ?_ (by simp [Except.isOk, Except.toBool])
    rw [andThen, hstate']
    simp
  | ok _ =>
    obtain ⟨hcs, hcr, hps, hpr⟩ := hx.confirmed rfl
    rw [← hcs, ← hcr, ← hps, ← hpr]
    exact maybeInstallProfile_iff hstate' (hx.selects h)

/-- Where nothing has been confirmed, nothing need be selected. -/
theorem Selects.of_unconfirmed (hcap : m.capConfirmationReceived = false)
    (hparams : m.paramsConfirmationReceived = false)
    (hbuffer : m.endpointConfig.rxBufferFlits ≠ 0#32) :
  m.Selects
  := by
  refine ⟨?_, ?_, hbuffer⟩
  · rw [hcap]
    intro hconfirmed
    cases hconfirmed
  · rw [hparams]
    intro hconfirmed
    cases hconfirmed

theorem Selects.maybeInstallProfile (h : m.Selects) :
  m.maybeInstallProfile.2.Selects
  := by
  rw [DlpManagedEndpoint.maybeInstallProfile]
  split
  · exact h
  split
  · split
    · exact h
    · exact ⟨h.1, h.2, h.3⟩
  · exact h

theorem Handles.selects_andThen {cs cr ps pr : Bool} {x : Except Error Unit × DlpManagedEndpoint T}
    (hx : Handles m cs cr ps pr x) (h : m.Selects) :
  (andThen x (fun _ m => m.maybeInstallProfile)).2.Selects
  := by
  obtain ⟨r, m'⟩ := x
  cases r with
  | error err => exact hx.selects h
  | ok _ => exact (hx.selects h).maybeInstallProfile

theorem Selects.maybeStartCapabilityExchange (h : m.Selects) :
  m.maybeStartCapabilityExchange.2.Selects
  := by
  rw [DlpManagedEndpoint.maybeStartCapabilityExchange]
  dsimp only [queueControl]
  repeat' split
  all_goals exact ⟨h.1, h.2, h.3⟩

/-- A negotiation that starts again has selected nothing. -/
theorem Selects.restartNegotiation (h : m.Selects) (incrementGeneration preserveControl : Bool) :
  (m.restartNegotiation incrementGeneration preserveControl).Selects
  := by
  rw [DlpManagedEndpoint.restartNegotiation]
  cases incrementGeneration with
  | true => cases preserveControl <;> exact .of_unconfirmed rfl rfl h.3
  | false => cases preserveControl <;> exact .of_unconfirmed rfl rfl h.3

theorem Selects.receives {frame : DlpControlFrame} (h : m.Selects) (hm : Receives m frame m') :
  m'.Selects
  := by
  have hgreet : ∀ {m : DlpManagedEndpoint T} (g : U8), m.Selects → (m.greet g).Selects :=
    fun g h => ⟨h.1, h.2, h.3⟩
  have hacked : ∀ {m : DlpManagedEndpoint T}, m.Selects → { m with helloAckReceived := true }.Selects :=
    fun h => ⟨h.1, h.2, h.3⟩
  cases hm with
  | ignored => exact h
  | hello g p => exact (hgreet g h).maybeStartCapabilityExchange
  | nextHello current p =>
    exact (hgreet _ (h.restartNegotiation m.wasLive false)).maybeStartCapabilityExchange
  | helloAck g => exact (hacked h).maybeStartCapabilityExchange
  | firstHelloAck g => exact (hacked (hgreet g h)).maybeStartCapabilityExchange
  | nextHelloAck current =>
    exact (hacked (hgreet _ (h.restartNegotiation true false))).maybeStartCapabilityExchange
  | reset g reason => exact .of_unconfirmed rfl rfl h.3
  | capabilities kind g profiles rates _ hstate =>
    rw [onCapabilities_eq hstate]
    exact (m.handles_handleCapabilities kind profiles rates).selects_andThen h
  | linkParameters kind g rxWindowUnits burstUnits _ hstate =>
    cases hrx : decodeParameterUnits rxWindowUnits with
    | error err =>
      rw [onLinkParameters, if_neg (not_not.mpr hstate), hrx]
      exact h
    | ok rx =>
      cases hburst : decodeParameterUnits burstUnits with
      | error err =>
        rw [onLinkParameters, if_neg (not_not.mpr hstate), hrx, hburst]
        exact h
      | ok burst =>
        rw [onLinkParameters_eq hstate kind hrx hburst]
        exact (m.handles_handleParameters kind rxWindowUnits burstUnits rx burst).selects_andThen h

theorem Selects.step (h : m.Selects) (event : Event T) :
  (m.step event).Selects
  := by
  cases event with
  | op op =>
    have hm := performs_perform m op
    rw [DlpManagedEndpoint.step]
    generalize m.perform op = m' at hm
    cases hm with
    | carrierUp => exact h.restartNegotiation false false
    | carrierDown => exact .of_unconfirmed rfl rfl h.3
    | requestReset reason => exact .of_unconfirmed rfl rfl h.3
    | pollControl => exact ⟨h.1, h.2, h.3⟩
    | finishCreditSync => exact ⟨h.1, h.2, h.3⟩
    | usesLink m' hm =>
      obtain ⟨endpoint, polls, rfl, -⟩ := hm
      exact ⟨h.1, h.2, h.3⟩
  | receiveControl bytes =>
    rw [DlpManagedEndpoint.step, receiveControl]
    split
    · exact h
    · next frame _ => exact h.receives (receives_onFrame m frame)

/-- The data path changes the context only in both places at once. -/
theorem aligned_perform {op : Op T} (hop : op.isData = true) (h : m.endpoint.Aligned) :
  (m.perform op).endpoint.Aligned
  := by
  have hretry : m.maybeRetryDataCreditRequest.endpoint.Aligned := by
    rw [maybeRetryDataCreditRequest]
    dsimp only
    split
    · exact h
    split
    · exact h
    split
    · exact (LinkedEndpoint.sameContext_retryManagedLinkCreditRequest m.endpoint).aligned h
    · exact h
  cases op with
  | carrierUp => cases hop
  | carrierDown => cases hop
  | requestReset reason => cases hop
  | pollControl => cases hop
  | finishCreditSync => cases hop
  | bindCreditPeer peer =>
    rw [perform, bindCreditPeer]
    split
    · exact h
    · exact (LinkedEndpoint.sameContext_bindManagedLinkPeer m.endpoint peer _).aligned h
  | pollTxFlit =>
    rw [perform, pollTxFlit]
    split
    · exact h
    · exact (LinkedEndpoint.sameContext_pollTxFlit _).aligned hretry
  | pollTxFrame =>
    rw [perform, pollTxFrame]
    split
    · exact h
    · exact (LinkedEndpoint.sameContext_pollTxFrame _).aligned hretry
  | receiveFlit flit now =>
    rw [perform, receiveFlit]
    split
    · exact h
    split
    · exact h
    · exact LinkedEndpoint.aligned_receiveManagedFlit flit now _ h
  | receiveFrame frame now =>
    rw [perform, receiveFrame]
    split
    · exact h
    split
    · exact h
    · exact LinkedEndpoint.aligned_receiveManagedFrame frame now _ h
  | grantControlTxCredit count => exact h
  | app op => exact (LinkedEndpoint.moves_runTransport m.endpoint _).sameContext.aligned h
  | sendGctl remote msg sizeClass =>
    exact (LinkedEndpoint.sameContext_trySendGctlFrom m.endpoint _ _ _ _).aligned h
  | solicitRouter transactionId =>
    exact (LinkedEndpoint.moves_solicitRouter m.endpoint transactionId).sameContext.aligned h
  | enableAddressAuthority config => exact h
  | takeEchoReply transactionId => exact h
  | takeGctl => exact h

/-! ### Control frames -/

/-- Starting the exchange leaves the endpoint and the profile alone. -/
theorem endpoint_maybeStartCapabilityExchange (m : DlpManagedEndpoint T) :
  m.maybeStartCapabilityExchange.2.endpoint = m.endpoint ∧
    m.maybeStartCapabilityExchange.2.negotiated = m.negotiated ∧
    (m.maybeStartCapabilityExchange.2.state = m.state ∨
      m.maybeStartCapabilityExchange.2.state = .negotiate)
  := by
  rw [maybeStartCapabilityExchange]
  dsimp only [queueControl]
  repeat' split
  all_goals simp

theorem config_maybeInstallProfile (m : DlpManagedEndpoint T) :
  m.maybeInstallProfile.2.endpoint.config = m.endpoint.config
  := by
  rw [maybeInstallProfile]
  repeat' split
  all_goals rfl

theorem config_andThen {x : Except Error Unit × DlpManagedEndpoint T}
    (h : x.2.endpoint = m.endpoint) :
  (andThen x (fun _ m => m.maybeInstallProfile)).2.endpoint.config = m.endpoint.config
  := by
  rw [← h]
  obtain ⟨r, m'⟩ := x
  cases r with
  | error err => rfl
  | ok _ => apply config_maybeInstallProfile

theorem config_onCapabilities (m : DlpManagedEndpoint T) (kind : DlpCapabilityKind)
    (profiles rates : U8) :
  (m.onCapabilities kind profiles rates).2.endpoint.config = m.endpoint.config
  := by
  rw [onCapabilities.eq_def]
  split
  · rfl
  apply config_andThen
  cases kind with
  | offer =>
    dsimp only [onCapabilityOffer, queueControl]
    repeat' split
    all_goals rfl
  | selection =>
    dsimp only [onCapabilitySelection, queueControl]
    repeat' split
    all_goals rfl
  | confirmation =>
    dsimp only [onCapabilityConfirmation]
    repeat' split
    all_goals rfl

theorem config_onLinkParameters (m : DlpManagedEndpoint T) (kind : DlpCapabilityKind)
    (rxWindowUnits burstUnits : U8) :
  (m.onLinkParameters kind rxWindowUnits burstUnits).2.endpoint.config = m.endpoint.config
  := by
  rw [onLinkParameters.eq_def]
  split
  · rfl
  split
  · rfl
  split
  · rfl
  apply config_andThen
  cases kind with
  | offer =>
    dsimp only [onParameterOffer, queueControl]
    repeat' split
    all_goals rfl
  | selection =>
    dsimp only [onParameterSelection, queueControl]
    repeat' split
    all_goals rfl
  | confirmation =>
    dsimp only [onParameterConfirmation]
    repeat' split
    all_goals rfl

/-- The profile is installed, with the context that the endpoint was made with. -/
def InstallsContext (m m' : DlpManagedEndpoint T) : Prop :=
  Installs m m' ∧ m'.negotiated ≠ none ∧ m'.endpoint.config = m.endpoint.config ∧
    m'.endpoint.dlp.localPrefix = m.wrapperPrefix

/-- Nothing is installed, and the context stays aligned. -/
def KeepsContext (m m' : DlpManagedEndpoint T) : Prop :=
  ¬ Installs m m' ∧ (m.ContextAligned → m'.ContextAligned)

theorem localPrefix_of_installed (h : m.Installed) :
  m.negotiated ≠ none ∧ m.endpoint.dlp.localPrefix = m.wrapperPrefix
  := by
  obtain ⟨p, hp, -, -, -, hnew⟩ := h
  constructor
  · rw [hp]
    nofun
  · rw [DlpEndpoint.new] at hnew
    split at hnew
    · cases hnew
    · rw [← Except.ok.inj hnew]
      dsimp only
      rw [BitVec.and_assoc, BitVec.and_self]
      rfl

theorem Negotiates.context (hstate : m.state = .negotiate) (h : Negotiates m m')
    (hconfig : m'.endpoint.config = m.endpoint.config) :
  KeepsContext m m' ∨ InstallsContext m m'
  := by
  obtain ⟨hsession, hlink⟩ := h
  rcases hlink with ⟨hstate', hendpoint, hnegotiated⟩ | ⟨hstate', hinstalled⟩
  · left
    constructor
    · rintro ⟨-, hsync⟩
      rw [hstate'] at hsync
      cases hsync
    · rw [ContextAligned, ContextAligned, hendpoint, hnegotiated]
      exact id
  · right
    obtain ⟨hnegotiated, hprefix⟩ := localPrefix_of_installed hinstalled
    refine ⟨⟨hstate, hstate'⟩, hnegotiated, hconfig, hprefix.trans ?_⟩
    have hsettings : m'.endpointConfig = m.endpointConfig :=
      congrArg Session.endpointConfig hsession
    rw [wrapperPrefix, wrapperPrefix, hsettings]

/-- The start of an exchange does not install anything. -/
theorem keepsContext_start {m₀ : DlpManagedEndpoint T}
    (hstate : m₀.state = m.state ∨ m₀.state = .hello)
    (h : m.ContextAligned → m₀.ContextAligned) :
  KeepsContext m m₀.maybeStartCapabilityExchange.2
  := by
  obtain ⟨hendpoint, hnegotiated, hstate'⟩ := endpoint_maybeStartCapabilityExchange m₀
  constructor
  · rintro ⟨hnegotiate, hsync⟩
    rw [hsync] at hstate'
    rw [hnegotiate] at hstate
    rcases hstate' with hstate' | hstate'
    · rcases hstate with hstate | hstate
      · rw [hstate] at hstate'
        cases hstate'
      · rw [hstate] at hstate'
        cases hstate'
    · cases hstate'
  · intro hm
    have hm₀ := h hm
    rw [ContextAligned] at hm₀ ⊢
    rw [hendpoint, hnegotiated]
    exact hm₀

/-- A control frame installs the context that the endpoint was made with, or keeps the context
aligned. -/
theorem receives_context {frame : DlpControlFrame} (hm : Receives m frame m') :
  KeepsContext m m' ∨ InstallsContext m m'
  := by
  cases hm with
  | ignored =>
    left
    constructor
    · rintro ⟨hstate, hstate'⟩
      rw [hstate] at hstate'
      cases hstate'
    · exact id
  | hello g p hnone hg => exact .inl (keepsContext_start (.inl rfl) id)
  | nextHello current p hpeer => exact .inl (keepsContext_start (.inr rfl) (fun _ => nofun))
  | helloAck g hpeer => exact .inl (keepsContext_start (.inl rfl) id)
  | firstHelloAck g hpeer => exact .inl (keepsContext_start (.inl rfl) id)
  | nextHelloAck current hpeer => exact .inl (keepsContext_start (.inr rfl) (fun _ => nofun))
  | reset g reason hpeer => exact .inl ⟨nofun, fun _ => nofun⟩
  | capabilities kind g profiles rates hpeer hstate =>
    exact (negotiates_onCapabilities hstate kind profiles rates).context hstate
      (config_onCapabilities m kind profiles rates)
  | linkParameters kind g rxWindowUnits burstUnits hpeer hstate =>
    exact (negotiates_onLinkParameters hstate kind rxWindowUnits burstUnits).context hstate
      (config_onLinkParameters m kind rxWindowUnits burstUnits)

/-- An operation keeps the context aligned, and installs nothing. -/
theorem perform_context (m : DlpManagedEndpoint T) (op : Op T) :
  KeepsContext m (m.perform op)
  := by
  constructor
  · rintro ⟨hstate, hsync⟩
    have hm := performs_perform m op
    generalize m.perform op = m' at hm hsync
    cases hm with
    | carrierUp hdown => cases hsync
    | carrierDown => cases hsync
    | requestReset reason hdown hreason => cases hsync
    | pollControl =>
      rw [hstate] at hsync
      cases hsync
    | finishCreditSync hcredit hnone => cases hsync
    | usesLink m' hm =>
      obtain ⟨endpoint, polls, rfl, -⟩ := hm
      rw [hstate] at hsync
      cases hsync
  · intro h
    by_cases hop : op.isData = true
    · obtain ⟨endpoint, polls, heq, -⟩ := usesLink_perform m hop
      have hnegotiated : (m.perform op).negotiated = m.negotiated := by rw [heq]
      intro hsome
      rw [hnegotiated] at hsome
      exact aligned_perform hop (h hsome)
    · cases op with
      | carrierUp =>
        rw [perform, carrierUp]
        split
        · exact h
        · intro hsome
          exact absurd rfl hsome
      | carrierDown =>
        intro hsome
        exact absurd rfl hsome
      | requestReset reason =>
        rw [perform, requestReset]
        split
        · exact h
        split
        · exact h
        · intro hsome
          exact absurd rfl hsome
      | pollControl =>
        rw [perform, pollControl]
        split
        · exact h
        · exact h
      | finishCreditSync =>
        rw [perform, finishCreditSync]
        split
        · exact h
        split
        · exact h
        · exact h
      | _ => exact absurd rfl hop

/-- The start of an exchange does not end one. -/
theorem not_creditSync_of_start {m₀ : DlpManagedEndpoint T}
    (hstate : m₀.state = .negotiate ∨ m₀.state = .hello) :
  m₀.maybeStartCapabilityExchange.2.state ≠ .creditSync
  := by
  obtain ⟨-, -, hsame | hnegotiate⟩ := endpoint_maybeStartCapabilityExchange m₀
  · rw [hsame]
    rcases hstate with hstate | hstate
    · rw [hstate]
      decide
    · rw [hstate]
      decide
  · rw [hnegotiate]
    decide

/-- A frame that arrives in a negotiation ends it exactly when it passes its checks and completes the
confirmations. -/
theorem onFrame_iff (hstate : m.state = .negotiate) (h : m.Selects) (frame : DlpControlFrame) :
  (m.onFrame frame).2.state = .creditSync ↔ (m.accepts frame && m.completes frame) = true
  := by
  have hstays : m.state ≠ .creditSync := by
    rw [hstate]
    decide
  cases frame with
  | hello kind g p =>
    refine iff_of_false ?_ (by simp [accepts])
    have hm := receives_onFrame m (.hello kind g p)
    generalize (m.onFrame (.hello kind g p)).2 = m' at hm
    cases hm with
    | ignored => exact hstays
    | hello => exact not_creditSync_of_start (.inl hstate)
    | nextHello => exact not_creditSync_of_start (.inr rfl)
    | helloAck => exact not_creditSync_of_start (.inl hstate)
    | firstHelloAck => exact not_creditSync_of_start (.inl hstate)
    | nextHelloAck => exact not_creditSync_of_start (.inr rfl)
  | reset g reason =>
    refine iff_of_false ?_ (by simp [accepts])
    have hm := receives_onFrame m (.reset g reason)
    generalize (m.onFrame (.reset g reason)).2 = m' at hm
    cases hm with
    | ignored => exact hstays
    | reset => exact nofun
  | capabilities kind g profiles rates =>
    rw [onFrame, accepts, completes]
    cases hcurrent : m.frameIsCurrent g with
    | false => simpa using hstays
    | true =>
      have hiff := (m.handles_handleCapabilities kind profiles rates).installs_iff hstate h
      rw [← onCapabilities_eq hstate] at hiff
      simpa only [Bool.or_false, Bool.true_and, Bool.not_true, Bool.false_eq_true, if_false] using hiff
  | linkParameters kind g rxWindowUnits burstUnits =>
    rw [onFrame, accepts, completes]
    cases hcurrent : m.frameIsCurrent g with
    | false => simpa using hstays
    | true =>
      cases hrx : decodeParameterUnits rxWindowUnits with
      | error err =>
        rw [onLinkParameters, if_neg (not_not.mpr hstate), hrx]
        simpa using hstays
      | ok rx =>
        cases hburst : decodeParameterUnits burstUnits with
        | error err =>
          rw [onLinkParameters, if_neg (not_not.mpr hstate), hrx, hburst]
          simpa using hstays
        | ok burst =>
          have hiff := (m.handles_handleParameters kind rxWindowUnits burstUnits rx burst).installs_iff
            hstate h
          rw [← onLinkParameters_eq hstate kind hrx hburst] at hiff
          simpa only [Bool.or_false, Bool.true_and, Bool.not_true, Bool.false_eq_true, if_false]
            using hiff

/-- A profile is installed by the last frame of a negotiation, and by nothing else. -/
theorem installs_iff (h : m.Selects) (event : Event T) :
  Installs m (m.step event) ↔ m.endsNegotiation event = true
  := by
  cases event with
  | op op => exact iff_of_false (perform_context m op).1 Bool.false_ne_true
  | receiveControl bytes =>
    rw [Installs, endsNegotiation, Bool.and_eq_true, decide_eq_true_eq]
    apply and_congr_right
    intro hstate
    rw [step, receiveControl]
    cases DlpControlFrame.decode bytes with
    | error err => simp [hstate]
    | ok frame => exact onFrame_iff hstate h frame

/-- Every event keeps the context aligned and installs nothing, or installs the context that the
endpoint was made with. -/
theorem step_context (m : DlpManagedEndpoint T) (event : Event T) :
  KeepsContext m (m.step event) ∨ InstallsContext m (m.step event)
  := by
  cases event with
  | op op => exact .inl (perform_context m op)
  | receiveControl bytes =>
    rw [step, receiveControl]
    split
    · exact receives_context (.ignored (.reset 0#8 0#8))
    · next frame _ => exact receives_context (receives_onFrame m frame)

/-- A managed endpoint reads headers in the local context in which it builds them, in every state
of a run in which a profile is installed, exactly if each installation of the run finds the
context that the endpoint was made with. -/
theorem contextAligned_iff {config : EndpointConfig} {maxBurstFlits : U32}
    {m₀ : DlpManagedEndpoint T} (hfresh : Fresh config maxBurstFlits m₀)
    (events : List (Event T)) :
  (∀ start, start <+: events → (Machine.run step m₀ start).ContextAligned) ↔
    Machine.Along step InstallsOriginal m₀ events
  := by
  obtain ⟨⟨endpoint, rfl, -⟩, ⟨units, hunits⟩, -⟩ := hfresh.built
  have hselects : (build endpoint config maxBurstFlits).Selects := by
    refine ⟨nofun, nofun, ?_⟩
    rintro (hzero : config.rxBufferFlits = 0#32)
    rw [hzero] at hunits
    revert hunits
    simp [encodeParameterUnits]
  refine Machine.forall_isPrefix_iff_along (I := Selects) (fun _ event h => h.step event) ?_ ?_
    hselects nofun
  · intro m event hm h hok
    rcases step_context m event with hkeeps | ⟨hinstalls, -, hconfig, hprefix⟩
    · exact hkeeps.2 h
    · intro _
      rw [LinkedEndpoint.Aligned, LinkedEndpoint.contextPrefix, hconfig, hprefix]
      exact (hok ((installs_iff hm event).mp hinstalls)).symm
  · intro m event hm h h' hends
    have hinstalls := (installs_iff hm event).mpr hends
    rcases step_context m event with hkeeps | ⟨-, hnegotiated, hconfig, hprefix⟩
    · exact absurd hinstalls hkeeps.1
    · have haligned := h' hnegotiated
      rw [LinkedEndpoint.Aligned, LinkedEndpoint.contextPrefix, hconfig, hprefix] at haligned
      exact haligned.symm

/-! ### Two runs -/

/-- The frame of a message to the endpoint with the given link-local suffix. -/
def messageFrame (linkLocalSuffix : U64) (sizeClass : SizeClass) (msg : GctlMessage) :
    GnetFrame where
  vcid := Vcid.control
  traffic := .control
  bytes :=
    let packet : GdpPacket :=
      { header := GdpHeader.global .gctl sizeClass 64#8 ⟨9#64⟩ ⟨linkLocalPrefix ||| linkLocalSuffix⟩
        payload := (msg.encodeExact sizeClass.bytes).toOption.getD [] }
    (packet.encode ⟨true⟩).toOption.getD []

/-- What the other end of generation `g` sends until the profile is installed, to an endpoint of
generation `generation`. -/
def negotiation (g generation : U8) : List (Event T) :=
  arrivals
    [.hello .initial g 0#8, .hello .acknowledgement g generation,
      .capabilities .offer g 0b11#8 0b111#8, .linkParameters .offer g 8#8 4#8,
      .capabilities .selection g 0b10#8 0b100#8, .linkParameters .selection g 16#8 4#8,
      .capabilities .confirmation g 0b10#8 0b100#8, .linkParameters .confirmation g 8#8 4#8]

/-- An endpoint asks for an address, and is assigned one with a prefix of the given length. -/
def assignment (prefixLen : U8) : List (Event T) :=
  let offer := (GctlMessage.addressOffer 1#32 ⟨⟨9#64⟩, 0x2001000000000000#64, prefixLen,
    ⟨0x2001000000000005#64⟩, 60#32⟩).toOption.getD (.new .solicit 0#32 [])
  let ack := GctlMessage.addressAck 1#32 ⟨⟨0x2001000000000005#64⟩, 60#32⟩
  [.op (.solicitRouter 1#32), .op (.receiveFrame (messageFrame 5#64 .ctrl64 offer) 0#64),
    .op (.receiveFrame (messageFrame 5#64 .ctrl32 ack) 0#64)]

/-- An endpoint that is assigned an address with a prefix of another length than 48 keeps its
context, also when the link is reset. -/
theorem contextAligned_iff_reset :
  let events : List (Event .silent) := .op .carrierUp :: negotiation 5#8 1#8 ++ assignment 32#8 ++
    .op (.requestReset 1#32) :: negotiation 6#8 2#8
  ∃ m : DlpManagedEndpoint .silent,
    Fresh ⟨64#32, .four, 8#8, none, false, 1#32, 32#32, ⟨true⟩⟩ 16#32 m ∧
    (Machine.run step m events).endpoint.primaryAddress = ⟨0x2001000000000005#64⟩ ∧
    (Machine.run step m events).negotiated ≠ none ∧
    ∀ start, start <+: events → (Machine.run step m start).ContextAligned
  := by
  intro events
  refine ⟨_, .inr ⟨5#64, rfl⟩, and_assoc.mp ⟨?_, ?_⟩⟩
  · decide +kernel
  · apply (@contextAligned_iff .silent
      ⟨64#32, .four, 8#8, none, false, 1#32, 32#32, ⟨true⟩⟩ 16#32 _ (.inr ⟨5#64, rfl⟩) events).mpr
    decide +kernel

/-- An endpoint is assigned an address with a prefix of length 48, and the link is reset.  When
the profile is installed again, headers are built in the new context and read in the old one. -/
theorem context_forgotten :
  let events : List (Event .silent) := .op .carrierUp :: negotiation 5#8 1#8 ++ assignment 48#8 ++
    .op (.requestReset 1#32) :: negotiation 6#8 2#8
  ∃ m : DlpManagedEndpoint .silent,
    Fresh ⟨64#32, .four, 8#8, none, false, 1#32, 32#32, ⟨true⟩⟩ 16#32 m ∧
    (Machine.run step m events).negotiated ≠ none ∧
    (Machine.run step m events).endpoint.dlp.localPrefix = 0#64 ∧
    (Machine.run step m events).endpoint.contextPrefix = 0x2001000000000000#64
  := by
  intro events
  refine ⟨_, .inr ⟨5#64, rfl⟩, ?_⟩
  decide +kernel

end DlpManagedEndpoint

end SmolGnet
