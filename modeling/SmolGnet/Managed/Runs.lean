import SmolGnet.Endpoint.Uses
import SmolGnet.Managed.Endpoint

/-!
# Runs of a managed endpoint

Everything that can be done with a managed endpoint, on arbitrary control frames, flits and
frames, and what one step of it can change: it starts a negotiation over, it takes a control
frame off the queue, it answers a control frame, or it uses the link and leaves the
negotiation alone.
-/

namespace SmolGnet

namespace DlpManagedEndpoint

variable {T : Transport}

/-- What can be done with a managed endpoint, apart from handing control frames to it. -/
inductive Op (T : Transport) where
  | carrierUp
  | carrierDown
  | requestReset (reason : U32)
  | pollControl
  | bindCreditPeer (peer : GdpAddress)
  | finishCreditSync
  | pollTxFlit
  | pollTxFrame
  | receiveFlit (flit : Flit) (now : U64)
  | receiveFrame (frame : GnetFrame) (now : U64)
  | grantControlTxCredit (count : U32)
  | app (op : T.Op)
  | sendGctl (remote : GdpAddress) (msg : GctlMessage) (sizeClass : SizeClass)
  | solicitRouter (transactionId : U32)
  | enableAddressAuthority (config : AddressAuthorityConfig)
  | takeEchoReply (transactionId : U32)
  | takeGctl

/-- The operation is about data: it has nothing to do with the carrier or with control frames,
and does not end the exchange of the first credit. -/
def Op.isData : Op T → Bool
  | .carrierUp => false
  | .carrierDown => false
  | .requestReset _ => false
  | .pollControl => false
  | .finishCreditSync => false
  | _ => true

/-- What can happen to a managed endpoint. -/
inductive Event (T : Transport) where
  | op (op : Op T)
  | receiveControl (bytes : Bytes)

/-- The endpoint after an operation, whether it succeeds or not. -/
def perform (m : DlpManagedEndpoint T) : Op T → DlpManagedEndpoint T
  | .carrierUp => m.carrierUp.toOption.getD m
  | .carrierDown => m.carrierDown
  | .requestReset reason => (m.requestReset reason).toOption.getD m
  | .pollControl => m.pollControl.2
  | .bindCreditPeer peer => (m.bindCreditPeer peer).2
  | .finishCreditSync => m.finishCreditSync.toOption.getD m
  | .pollTxFlit => m.pollTxFlit.2
  | .pollTxFrame => m.pollTxFrame.2
  | .receiveFlit flit now => (m.receiveFlit flit now).2
  | .receiveFrame frame now => (m.receiveFrame frame now).2
  | .grantControlTxCredit count =>
    { m with endpoint := { m.endpoint with dlp := m.endpoint.dlp.grantControlTxCredit count } }
  | .app op => { m with endpoint := (m.endpoint.app op).2 }
  | .sendGctl remote msg sizeClass =>
    { m with endpoint := (m.endpoint.sendGctl remote msg sizeClass).2 }
  | .solicitRouter transactionId =>
    { m with endpoint := (m.endpoint.solicitRouter transactionId).2 }
  | .enableAddressAuthority config =>
    { m with endpoint := m.endpoint.enableAddressAuthority config }
  | .takeEchoReply transactionId =>
    { m with endpoint := (m.endpoint.takeEchoReply transactionId).2 }
  | .takeGctl => { m with endpoint := m.endpoint.takeGctl.2 }

/-- The endpoint after an event. -/
def step (m : DlpManagedEndpoint T) : Event T → DlpManagedEndpoint T
  | .op op => m.perform op
  | .receiveControl bytes => (m.receiveControl bytes).2

/-- An endpoint as it is made. -/
def Fresh (config : EndpointConfig) (maxBurstFlits : U32) (m : DlpManagedEndpoint T) : Prop :=
  (∃ address, new address config maxBurstFlits = .ok m) ∨
    ∃ suffix, unconfigured suffix config maxBurstFlits = .ok m

/-! ### What an operation can do -/

/-- The operation on the link does not take it up or down, and credit that it brings stays
within the receive buffer of the other end. -/
def Within (negotiated : Option DlpNegotiatedProfile) (d : DlpEndpoint) : DlpEndpoint.Op → Prop
  | .setLinkUp _ => False
  | .grantDataTxCredit count => ∃ p, negotiated = some p ∧
    d.dataTxCredit.toNat + count.toNat ≤ p.peerRxBufferFlits.toNat
  | _ => True

theorem within_of_plain (negotiated : Option DlpNegotiatedProfile) (d : DlpEndpoint)
    (op : DlpEndpoint.Op) (h : LinkedEndpoint.Plain op) :
  Within negotiated d op
  := by
  cases op with
  | setLinkUp up => cases h
  | grantDataTxCredit count => cases h
  | _ => trivial

/-- Only the link is used, and the polls without progress are counted. -/
def UsesLink (m m' : DlpManagedEndpoint T) : Prop :=
  ∃ endpoint creditStallPolls, m' = { m with endpoint, creditStallPolls } ∧
    LinkedEndpoint.Uses (Within m.negotiated) m.endpoint.dlp endpoint.dlp

variable {m m' m'' : DlpManagedEndpoint T}

theorem UsesLink.refl (m : DlpManagedEndpoint T) :
  UsesLink m m
  := ⟨_, _, rfl, .refl _⟩

theorem UsesLink.of_endpoint {endpoint : LinkedEndpoint T}
    (h : LinkedEndpoint.Uses (Within m.negotiated) m.endpoint.dlp endpoint.dlp) :
  UsesLink m { m with endpoint }
  := ⟨endpoint, m.creditStallPolls, rfl, h⟩

theorem UsesLink.trans (h : UsesLink m m') (h' : UsesLink m' m'') :
  UsesLink m m''
  := by
  obtain ⟨endpoint, polls, rfl, huses⟩ := h
  obtain ⟨endpoint', polls', rfl, huses'⟩ := h'
  exact ⟨endpoint', polls', rfl, huses.trans huses'⟩

theorem usesLink_maybeRetryDataCreditRequest (m : DlpManagedEndpoint T) :
  UsesLink m m.maybeRetryDataCreditRequest
  := by
  rw [maybeRetryDataCreditRequest]
  dsimp only
  split
  · exact ⟨_, _, rfl, .refl _⟩
  split
  · exact ⟨_, _, rfl, .refl _⟩
  split
  · exact ⟨_, _, rfl,
      LinkedEndpoint.uses_retryManagedLinkCreditRequest (within_of_plain _) m.endpoint⟩
  · exact ⟨_, _, rfl, .refl _⟩

theorem usesLink_pollTxFlit (m : DlpManagedEndpoint T) :
  UsesLink m m.pollTxFlit.2
  := by
  rw [pollTxFlit]
  split
  · apply UsesLink.refl
  · apply (usesLink_maybeRetryDataCreditRequest m).trans
    apply UsesLink.of_endpoint
    apply LinkedEndpoint.uses_pollTxFlit (within_of_plain _)

theorem usesLink_pollTxFrame (m : DlpManagedEndpoint T) :
  UsesLink m m.pollTxFrame.2
  := by
  rw [pollTxFrame]
  split
  · apply UsesLink.refl
  · apply (usesLink_maybeRetryDataCreditRequest m).trans
    apply UsesLink.of_endpoint
    apply LinkedEndpoint.uses_pollTxFrame (within_of_plain _)

/-- A packet that passes the check brings credit within the limit only. -/
theorem uses_handleManagedPacket (e : LinkedEndpoint T) (packet : GdpPacket) (now : U64)
    (p : DlpNegotiatedProfile) :
  LinkedEndpoint.Uses (Within (some p)) e.dlp
    (e.handleManagedPacket packet now p.peerRxBufferFlits).2.dlp
  := by
  rw [LinkedEndpoint.handleManagedPacket]
  split
  · apply LinkedEndpoint.Uses.refl
  · next hvalid =>
    apply LinkedEndpoint.uses_handlePacket (within_of_plain _)
    intro count hcredit
    exact ⟨p, rfl, LinkedEndpoint.validateManagedCreditGrant_of_credit hcredit hvalid⟩

theorem usesLink_receiveFlit (m : DlpManagedEndpoint T) (flit : Flit) (now : U64) :
  UsesLink m (m.receiveFlit flit now).2
  := by
  rw [receiveFlit]
  split
  · apply UsesLink.refl
  split
  · apply UsesLink.refl
  next p hp =>
  apply UsesLink.of_endpoint
  have hreceive : LinkedEndpoint.Uses (Within m.negotiated) m.endpoint.dlp
      (m.endpoint.dlp.receive flit).2 := .of_step (show Within _ _ (.receive flit) from trivial) rfl
  rw [LinkedEndpoint.receiveManagedFlit]
  split
  · next h =>
    rw [h] at hreceive
    apply hreceive
  · next h =>
    rw [h] at hreceive
    apply hreceive
  · next packet dlp h =>
    rw [h] at hreceive
    apply hreceive.trans
    rw [hp]
    apply uses_handleManagedPacket { m.endpoint with dlp }

theorem usesLink_receiveFrame (m : DlpManagedEndpoint T) (frame : GnetFrame) (now : U64) :
  UsesLink m (m.receiveFrame frame now).2
  := by
  rw [receiveFrame]
  split
  · apply UsesLink.refl
  split
  · apply UsesLink.refl
  next p hp =>
  apply UsesLink.of_endpoint
  have hreceive : LinkedEndpoint.Uses (Within m.negotiated) m.endpoint.dlp
      (m.endpoint.dlp.receiveFrame frame).2 := .of_step (show Within _ _ (.receiveFrame frame) from trivial) rfl
  rw [LinkedEndpoint.receiveManagedFrame]
  split
  · next h =>
    rw [h] at hreceive
    apply hreceive
  · next packet dlp h =>
    rw [h] at hreceive
    apply hreceive.trans
    rw [hp]
    apply uses_handleManagedPacket { m.endpoint with dlp }

theorem usesLink_bindCreditPeer (m : DlpManagedEndpoint T) (peer : GdpAddress) :
  UsesLink m (m.bindCreditPeer peer).2
  := by
  rw [bindCreditPeer]
  split
  · apply UsesLink.refl
  · apply UsesLink.of_endpoint
    apply LinkedEndpoint.uses_bindManagedLinkPeer (within_of_plain _)

/-- An operation that is about data only uses the link. -/
theorem usesLink_perform (m : DlpManagedEndpoint T) {op : Op T} (hop : op.isData = true) :
  UsesLink m (m.perform op)
  := by
  cases op with
  | carrierUp => cases hop
  | carrierDown => cases hop
  | requestReset reason => cases hop
  | pollControl => cases hop
  | finishCreditSync => cases hop
  | bindCreditPeer peer => exact usesLink_bindCreditPeer m peer
  | pollTxFlit => exact usesLink_pollTxFlit m
  | pollTxFrame => exact usesLink_pollTxFrame m
  | receiveFlit flit now => exact usesLink_receiveFlit m flit now
  | receiveFrame frame now => exact usesLink_receiveFrame m frame now
  | grantControlTxCredit count =>
    apply UsesLink.of_endpoint
    exact .of_step (show Within _ _ (.grantControlTxCredit count) from trivial) rfl
  | app op =>
    apply UsesLink.of_endpoint
    apply (LinkedEndpoint.moves_runTransport m.endpoint _).uses (within_of_plain _)
  | sendGctl remote msg sizeClass =>
    apply UsesLink.of_endpoint
    apply LinkedEndpoint.uses_trySendGctlFrom (within_of_plain _)
  | solicitRouter transactionId =>
    apply UsesLink.of_endpoint
    apply (LinkedEndpoint.moves_solicitRouter m.endpoint transactionId).uses (within_of_plain _)
  | enableAddressAuthority config =>
    apply UsesLink.of_endpoint
    apply LinkedEndpoint.Uses.refl
  | takeEchoReply transactionId =>
    apply UsesLink.of_endpoint
    apply LinkedEndpoint.Uses.refl
  | takeGctl =>
    apply UsesLink.of_endpoint
    apply LinkedEndpoint.Uses.refl

/-- A new generation after a `RESET` of the old one. -/
def afterReset (m : DlpManagedEndpoint T) (controlTx : List DlpControlFrame) :
    DlpManagedEndpoint T :=
  { { m with
      endpoint := m.endpoint.linkDetached
      controlTx
      localGeneration := nextGeneration m.localGeneration
      peerGeneration := none }.clearNegotiationState with state := .hello }.queueHelloInitial

/-- A reset that is accepted. -/
theorem perform_requestReset {reason : U32} (hstate : m.state ≠ .down) (hreason : ¬ 0x0f#32 < reason) :
  m.perform (.requestReset reason)
    = m.afterReset [.reset m.localGeneration (reason.setWidth 8)]
  := by
  rw [perform, DlpManagedEndpoint.requestReset, if_neg hstate, if_neg hreason]
  rfl

/-- What an operation can do. -/
inductive Performs (m : DlpManagedEndpoint T) : DlpManagedEndpoint T → Prop
  | carrierUp (h : m.state = .down) : Performs m (m.restartNegotiation false false)
  | carrierDown : Performs m m.carrierDown
  | requestReset (reason : U8) (h : m.state ≠ .down) (hreason : reason ≤ 15#8) :
    Performs m (m.afterReset [.reset m.localGeneration reason])
  | pollControl : Performs m { m with controlTx := m.controlTx.tail }
  | finishCreditSync (h : m.state = .creditSync) (hcredit : m.endpoint.dlp.dataTxCredit ≠ 0#32) :
    Performs m { m with state := .up }
  | usesLink (m' : DlpManagedEndpoint T) (h : UsesLink m m') : Performs m m'

theorem Performs.refl (m : DlpManagedEndpoint T) :
  Performs m m
  := .usesLink _ (.refl m)

/-- Every operation does one of these things. -/
theorem performs_perform (m : DlpManagedEndpoint T) (op : Op T) :
  Performs m (m.perform op)
  := by
  cases op with
  | carrierUp =>
    rw [perform, DlpManagedEndpoint.carrierUp]
    split
    · apply Performs.refl
    · next h => exact .carrierUp (not_not.mp h)
  | carrierDown => exact .carrierDown
  | requestReset reason =>
    by_cases hstate : m.state = .down
    · rw [perform, DlpManagedEndpoint.requestReset, if_pos hstate]
      apply Performs.refl
    by_cases hreason : 0x0f#32 < reason
    · rw [perform, DlpManagedEndpoint.requestReset, if_neg hstate, if_pos hreason]
      apply Performs.refl
    rw [perform_requestReset hstate hreason]
    apply Performs.requestReset _ hstate
    bv_omega
  | pollControl =>
    rw [perform, DlpManagedEndpoint.pollControl]
    split
    · apply Performs.refl
    · next frame frames h =>
      have htail : m.controlTx.tail = frames := by rw [h, List.tail_cons]
      rw [← htail]
      exact .pollControl
  | finishCreditSync =>
    rw [perform, DlpManagedEndpoint.finishCreditSync]
    split
    · apply Performs.refl
    next hstate =>
    split
    · apply Performs.refl
    next hcredit => exact .finishCreditSync (not_not.mp hstate) hcredit
  | _ => exact .usesLink _ (usesLink_perform m rfl)

end DlpManagedEndpoint

end SmolGnet
