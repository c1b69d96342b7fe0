import SmolGnet.Endpoint.Moves

/-!
# Messages that assign addresses

An endpoint that has to be assigned an address searches for a router, claims the address it is
offered, and is told whether the claim is accepted.  A message of another transaction should
change nothing.  An `ADDRESS_OFFER` is checked against the state; an `ADDRESS_ACK` is checked
against the offer that was kept, which a new search leaves behind; an `ADDRESS_NAK` is not
checked at all.
-/

namespace SmolGnet

namespace LinkedEndpoint

variable {T : Transport} {e : LinkedEndpoint T} {msg : GctlMessage}

/-- What the assignment of addresses sets is the same. -/
structure SameAddress (e e' : LinkedEndpoint T) : Prop where
  addressState : e'.addressState = e.addressState
  primaryAddress : e'.primaryAddress = e.primaryAddress
  routerAddress : e'.routerAddress = e.routerAddress
  pendingClientOffer : e'.pendingClientOffer = e.pendingClientOffer
  localContextPrefix : e'.config.localContextPrefix = e.config.localContextPrefix
  localPrefix : e'.dlp.localPrefix = e.dlp.localPrefix

theorem SameAddress.refl (e : LinkedEndpoint T) :
  SameAddress e e
  := ⟨rfl, rfl, rfl, rfl, rfl, rfl⟩

/-- The endpoint is in the transaction with the given number. -/
def InTransaction (e : LinkedEndpoint T) (transactionId : U32) : Prop :=
  e.addressState = .soliciting transactionId ∨
    ∃ router candidate, e.addressState = .offered transactionId router candidate

/-- The message is one of those that assign an address. -/
def AssignsAddress (msg : GctlMessage) : Prop :=
  msg.messageType = .addressOffer ∨ msg.messageType = .addressAck ∨ msg.messageType = .addressNak

/-- The message does not act on the endpoint outside its transaction: it is an offer, or an
acknowledgement that is not the one of the offer that was kept, or a refusal that cannot be read
or says what the endpoint knows. -/
def Inert (e : LinkedEndpoint T) (msg : GctlMessage) : Prop :=
  match msg.messageType with
  | .addressAck => ∀ ack pending, msg.parseAddressAck = .ok ack →
    e.pendingClientOffer = some pending →
    pending.transactionId ≠ msg.transactionId ∨ pending.offer.candidate ≠ ack.candidate
  | .addressNak => ∀ nak, msg.parseAddressNak = .ok nak →
    e.addressState = .rejected nak.reason nak.retryDelay ∧ e.pendingClientOffer = none
  | _ => True

/-- An offer is refused outside its transaction. -/
theorem handleAddressOffer_of_not_inTransaction (src : GdpAddress)
    (h : ¬ e.InTransaction msg.transactionId) :
  (e.handleAddressOffer src msg).2 = e
  := by
  obtain heq | ⟨offer, -, hstate, -⟩ := e.handleAddressOffer_spec src msg
  · exact heq
  · exact absurd (.inl hstate) h

/-- An acknowledgement acts if it is the one of the offer that was kept. -/
theorem sameAddress_handleAddressAck (e : LinkedEndpoint T) (msg : GctlMessage) :
  SameAddress e (e.handleAddressAck msg).2 ↔
    ∀ ack pending, msg.parseAddressAck = .ok ack → e.pendingClientOffer = some pending →
      pending.transactionId ≠ msg.transactionId ∨ pending.offer.candidate ≠ ack.candidate
  := by
  obtain ⟨hinert, heq⟩ | ⟨ack, pending, hack, hpending, htransaction, hcandidate, heq⟩ :=
    e.handleAddressAck_spec msg
  · rw [heq]
    exact iff_of_true (SameAddress.refl e) hinert
  · apply iff_of_false
    · intro hsame
      have hcleared := hsame.pendingClientOffer
      rw [hpending] at hcleared
      rcases heq with heq | ⟨localPrefix, heq⟩
      · rw [heq] at hcleared
        cases hcleared
      · rw [heq] at hcleared
        cases hcleared
    · intro hinert
      rcases hinert ack pending hack hpending with hne | hne
      · exact hne htransaction
      · exact hne hcandidate

/-- A refusal acts unless the endpoint knows what it says. -/
theorem sameAddress_handleAddressNak (e : LinkedEndpoint T) (msg : GctlMessage) :
  SameAddress e (e.handleAddressNak msg).2 ↔
    ∀ nak, msg.parseAddressNak = .ok nak →
      e.addressState = .rejected nak.reason nak.retryDelay ∧ e.pendingClientOffer = none
  := by
  obtain ⟨hnone, heq⟩ | ⟨nak, hnak, heq⟩ := e.handleAddressNak_spec msg
  · rw [heq]
    exact iff_of_true (SameAddress.refl e) (fun nak hnak => absurd hnak (hnone nak))
  · rw [heq]
    constructor
    · intro hsame nak' hnak'
      rw [hnak] at hnak'
      cases hnak'
      exact ⟨hsame.addressState.symm, hsame.pendingClientOffer.symm⟩
    · intro hinert
      obtain ⟨hstate, hpending⟩ := hinert nak hnak
      exact ⟨hstate.symm, rfl, rfl, hpending.symm, rfl, rfl⟩

/-- A message that assigns an address leaves an endpoint that is not in its transaction as it is
exactly if it is an offer, or an acknowledgement that is not the one of the offer that was kept,
or a refusal that cannot be read or says what the endpoint knows. -/
theorem address_unchanged_iff (e : LinkedEndpoint T) (src : GdpAddress) {packet : GdpPacket}
    {msg : GctlMessage} (hdecode : GctlMessage.decode packet.payload = .ok msg)
    (htype : AssignsAddress msg) (houtside : ¬ e.InTransaction msg.transactionId) :
  SameAddress e (e.handleGctl src packet).2 ↔ e.Inert msg
  := by
  rw [handleGctl, hdecode, Inert]
  dsimp only
  rcases htype with htype | htype | htype
  · rw [htype]
    dsimp only
    rw [handleAddressOffer_of_not_inTransaction src houtside]
    exact iff_of_true (.refl e) trivial
  · rw [htype]
    exact sameAddress_handleAddressAck e msg
  · rw [htype]
    exact sameAddress_handleAddressNak e msg

/-- The packet of a message of the given size class. -/
def controlPacket (sizeClass : SizeClass) (msg : GctlMessage) : GdpPacket where
  header := .global .gctl sizeClass 64#8 ⟨9#64⟩ ⟨7#64⟩
  payload := (msg.encodeExact sizeClass.bytes).toOption.getD []

/-- An acknowledgement of another transaction leaves an assigned endpoint as it is. -/
theorem address_unchanged_iff_assigned :
  ∃ e₀ : LinkedEndpoint .silent,
    e₀.Fresh ⟨32#32, .two, 8#8, none, false, 1#32, 32#32, ⟨true⟩⟩ ∧
    let e : LinkedEndpoint .silent := { e₀ with addressState := .assigned ⟨3#64⟩ ⟨1#64⟩ 60#32 }
    SameAddress e (e.handleGctl ⟨9#64⟩ (controlPacket .ctrl32 (.addressAck 4#32 ⟨⟨3#64⟩, 60#32⟩))).2
  := by
  refine ⟨_, .inr ⟨5#64, rfl⟩, ?_⟩
  intro e
  have houtside : ¬ e.InTransaction 4#32 := by
    rintro (h | ⟨_, _, h⟩)
    · cases h
    · cases h
  apply (@address_unchanged_iff .silent e ⟨9#64⟩
    (controlPacket .ctrl32 (.addressAck 4#32 ⟨⟨3#64⟩, 60#32⟩))
    { GctlMessage.addressAck 4#32 ⟨⟨3#64⟩, 60#32⟩ with
      body := (GctlMessage.addressAck 4#32 ⟨⟨3#64⟩, 60#32⟩).body ++ List.replicate 12 0#8 }
    (by decide +kernel) (.inr (.inl rfl)) houtside).mpr
  rintro ack pending - hpending
  cases hpending

/-- A refusal takes its address from an endpoint with a static address; and an acknowledgement of an
old transaction assigns an address to an endpoint that has started a new search. -/
theorem address_changed_outside :
  let config : EndpointConfig := ⟨32#32, .two, 8#8, none, false, 1#32, 32#32, ⟨true⟩⟩
  let nak := controlPacket .ctrl32 (.addressNak 4#32 ⟨⟨3#64⟩, 1#8, 1#32⟩)
  let offer := controlPacket .ctrl64 (((GctlMessage.addressOffer 1#32
    ⟨⟨9#64⟩, 0x2001000000000000#64, 48#8, ⟨0x2001000000000005#64⟩, 60#32⟩).toOption.getD
      (.new .solicit 0#32 [])))
  let ack := controlPacket .ctrl32 (.addressAck 1#32 ⟨⟨0x2001000000000005#64⟩, 60#32⟩)
  (∃ e : LinkedEndpoint .silent, e.Fresh config ∧ e.addressState = .static ∧
    (e.handleGctl ⟨9#64⟩ nak).2.addressState = .rejected 1#8 1#32) ∧
  ∃ e₀ : LinkedEndpoint .silent, e₀.Fresh config ∧
    let e := (((e₀.solicitRouter 1#32).2.handleGctl ⟨9#64⟩ offer).2.solicitRouter 2#32).2
    e.addressState = .soliciting 2#32 ∧
      (e.handleGctl ⟨9#64⟩ ack).2.primaryAddress = ⟨0x2001000000000005#64⟩ ∧
      e.primaryAddress ≠ ⟨0x2001000000000005#64⟩
  := by
  intro config nak offer ack
  refine ⟨⟨_, .inl ⟨⟨7#64⟩, rfl⟩, ?_, ?_⟩, ⟨_, .inr ⟨5#64, rfl⟩, ?_, ?_, ?_⟩⟩
  · decide +kernel
  · decide +kernel
  · decide +kernel
  · decide +kernel
  · decide +kernel

end LinkedEndpoint

end SmolGnet
