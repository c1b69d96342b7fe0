import SmolGnet.Endpoint.Linked

/-!
# What the handlers of control messages do

When a message about addresses arrives, an endpoint first changes what it knows of addresses, and then
it answers: it sends messages to the address from which the message has come, as far as they can be
sent.  For each of the messages it is said here what the endpoint knows afterwards, and what it may
answer.
-/

namespace SmolGnet

namespace AddressAuthority

/-- What a search for a router does. -/
def solicit (authority : AddressAuthority) (router client : GdpAddress) (transactionId : U32) :
    AddressAuthority :=
  match authority.allocateCandidate router with
  | (.error _, authority) => authority
  | (.ok candidate, authority) =>
    { authority with pending := authority.pending.insert transactionId ⟨client, candidate⟩ }

/-- What a claim does. -/
def claim (authority : AddressAuthority) (client candidate : GdpAddress) (transactionId : U32) :
    AddressAuthority :=
  match authority.pending[transactionId]? with
  | none => authority
  | some p =>
    if p.client = client ∧ p.candidate = candidate then
      { authority with
        pending := authority.pending.erase transactionId
        leases := authority.leases.insert p.candidate.value client }
    else authority

end AddressAuthority

namespace LinkedEndpoint

variable {T : Transport} {e e' : LinkedEndpoint T} {Q : GctlMessage → Prop} {remote : GdpAddress}

/-! ### Answers -/

/-- Messages that satisfy `Q` are sent to `remote`, one after the other, as far as they can be sent. -/
inductive Replies (Q : GctlMessage → Prop) (remote : GdpAddress) :
    LinkedEndpoint T → LinkedEndpoint T → Prop where
  | nothing (e : LinkedEndpoint T) : Replies Q remote e e
  | message {e e' : LinkedEndpoint T} {reply : GctlMessage} (hreply : Q reply)
    (h : Replies Q remote (e.trySendGctlFrom e.linkLocalAddress remote reply none).2 e') :
    Replies Q remote e e'

/-- What sending one of the messages keeps is kept. -/
theorem Replies.invariant (h : Replies Q remote e e') {P : LinkedEndpoint T → Prop}
    (hsend : ∀ e reply, Q reply → P e →
      P (e.trySendGctlFrom e.linkLocalAddress remote reply none).2) (he : P e) :
  P e'
  := by
  induction h with
  | nothing => exact he
  | message hreply _ ih => exact ih (hsend _ _ hreply he)

/-- A message is sent, and if it has been sent, others follow. -/
theorem replies_andThen {α : Type} {reply : GctlMessage} (hreply : Q reply)
    {f : Unit → LinkedEndpoint T → Except Error α × LinkedEndpoint T}
    (hf : ∀ e, Replies Q remote e (f () e).2) :
  Replies Q remote e (andThen (e.trySendGctlFrom e.linkLocalAddress remote reply none) f).2
  := by
  apply Replies.message hreply
  generalize e.trySendGctlFrom e.linkLocalAddress remote reply none = sent
  obtain ⟨_ | _, e'⟩ := sent
  · exact .nothing e'
  · exact hf e'

/-- A message is sent, and then the result is known. -/
theorem replies_message {α : Type} {reply : GctlMessage} (hreply : Q reply) (r : Except Error α) :
  Replies Q remote e
    (andThen (e.trySendGctlFrom e.linkLocalAddress remote reply none) (fun _ e => (r, e))).2
  := replies_andThen hreply .nothing

/-! ### The endpoint that assigns addresses -/

/-- The search of a client is noted, and answered by an offer. -/
theorem handleRouterSolicit_spec (e : LinkedEndpoint T) (src : GdpAddress) (msg : GctlMessage) :
  (e.handleRouterSolicit src msg).2 = e ∨ ∃ authority, e.authority = some authority ∧
    Replies (fun reply => reply.messageType = .advertise ∨ reply.messageType = .addressOffer) src
      { e with authority := some (authority.solicit e.primaryAddress src msg.transactionId) }
      (e.handleRouterSolicit src msg).2
  := by
  rw [handleRouterSolicit]
  split
  · exact .inl rfl
  split
  · exact .inl rfl
  split
  · exact .inl rfl
  next authority hauthority =>
  refine .inr ⟨authority, hauthority, ?_⟩
  rw [AddressAuthority.solicit]
  rcases authority.allocateCandidate e.primaryAddress with ⟨err | candidate, authority'⟩
  · apply Replies.nothing
  · apply replies_andThen (.inl rfl)
    intro e'
    split
    · apply Replies.nothing
    · next reply hreply =>
      rw [GctlMessage.addressOffer, bind_eq_ok] at hreply
      obtain ⟨_, -, hreply⟩ := hreply
      cases hreply
      exact replies_message (.inr rfl) _

/-- The claim of a client is refused, or the address is leased to it, and that is acknowledged. -/
theorem handleAddressClaim_spec (e : LinkedEndpoint T) (src : GdpAddress) (msg : GctlMessage) :
  Replies (fun reply => reply.messageType = .addressNak) src e (e.handleAddressClaim src msg).2 ∨
    ∃ authority claim, e.authority = some authority ∧ msg.parseAddressClaim = .ok claim ∧
      authority.pending[msg.transactionId]? = some ⟨src, claim.candidate⟩ ∧
      Replies (fun reply => reply =
          .addressAck msg.transactionId ⟨claim.candidate, authority.config.lifetime⟩) src
        { e with authority := some (authority.claim src claim.candidate msg.transactionId) }
        (e.handleAddressClaim src msg).2
  := by
  rw [handleAddressClaim]
  split
  · exact .inl (.nothing e)
  next claim hclaim =>
  split
  · exact .inl (.nothing e)
  next authority hauthority =>
  split
  · next p hpending =>
    split
    · next hmatch =>
      obtain ⟨rfl, hcandidate⟩ := hmatch
      have hsame : p = ⟨p.client, claim.candidate⟩ := by rw [← hcandidate]
      refine .inr ⟨authority, claim, hauthority, hclaim, hsame ▸ hpending, ?_⟩
      rw [AddressAuthority.claim, hpending, ← hcandidate]
      dsimp only
      rw [if_pos ⟨rfl, rfl⟩]
      apply replies_message
      rfl
    · left
      apply replies_message
      rfl
  · left
    apply replies_message
    rfl

/-! ### The endpoint that is assigned an address -/

/-- The endpoint keeps an offer, to claim the address. -/
def offered (e : LinkedEndpoint T) (src : GdpAddress) (transactionId : U32) (offer : AddressOffer) :
    LinkedEndpoint T :=
  { e with
    routerAddress := some offer.router
    pendingClientOffer := some ⟨transactionId, src, offer⟩
    addressState := .offered transactionId offer.router offer.candidate
    nextClaimNonce := if e.nextClaimNonce + 1#64 < 1#64 then 1#64 else e.nextClaimNonce + 1#64 }

/-- An offer is kept and claimed, in answer to a search. -/
theorem handleAddressOffer_spec (e : LinkedEndpoint T) (src : GdpAddress) (msg : GctlMessage) :
  (e.handleAddressOffer src msg).2 = e ∨ ∃ offer, msg.parseAddressOffer = .ok offer ∧
    e.addressState = .soliciting msg.transactionId ∧
    Replies (fun reply => reply.messageType = .addressClaim) src
      (e.offered src msg.transactionId offer) (e.handleAddressOffer src msg).2
  := by
  rw [handleAddressOffer]
  split
  · exact .inl rfl
  next offer hoffer =>
  split
  · exact .inl rfl
  next hstate =>
  split
  · exact .inl rfl
  · exact .inl rfl
  · exact .inr ⟨offer, hoffer, not_not.mp hstate, .message rfl (.nothing _)⟩

/-- The endpoint has the address that it has claimed. -/
def assigned (e : LinkedEndpoint T) (ack : AddressAck) (pending : PendingClientOffer) :
    LinkedEndpoint T :=
  { e with
    primaryAddress := ack.candidate
    routerAddress := some pending.offer.router
    addressState := .assigned ack.candidate pending.offer.router ack.lifetime
    pendingClientOffer := none }

/-- The endpoint in another local context. -/
def inContext (e : LinkedEndpoint T) (localPrefix : U64) : LinkedEndpoint T :=
  { e with
    config := { e.config with localContextPrefix := some localPrefix }
    dlp := e.dlp.setLocalPrefix localPrefix }

/-- An acknowledgement assigns the address, and perhaps a local context, if it is the one of the offer
that was kept. -/
theorem handleAddressAck_spec (e : LinkedEndpoint T) (msg : GctlMessage) :
  (∀ ack pending, msg.parseAddressAck = .ok ack → e.pendingClientOffer = some pending →
      pending.transactionId ≠ msg.transactionId ∨ pending.offer.candidate ≠ ack.candidate) ∧
    (e.handleAddressAck msg).2 = e ∨
  ∃ ack pending, msg.parseAddressAck = .ok ack ∧ e.pendingClientOffer = some pending ∧
    pending.transactionId = msg.transactionId ∧ pending.offer.candidate = ack.candidate ∧
    ((e.handleAddressAck msg).2 = e.assigned ack pending ∨ ∃ localPrefix,
      (e.handleAddressAck msg).2 = (e.assigned ack pending).inContext localPrefix)
  := by
  rw [handleAddressAck]
  split
  · next herr => exact .inl ⟨by simp [herr], rfl⟩
  next ack hack =>
  split
  · next hnone => exact .inl ⟨by simp [hnone], rfl⟩
  next pending hpending =>
  split
  · next hne =>
    refine .inl ⟨?_, rfl⟩
    intro ack' pending' hack' hpending'
    rw [hack] at hack'
    rw [hpending] at hpending'
    cases hack'
    cases hpending'
    exact hne
  · next heq =>
    rw [not_or, not_not, not_not] at heq
    refine .inr ⟨ack, pending, hack, hpending, heq.1, heq.2, ?_⟩
    dsimp only
    split
    · exact .inr ⟨_, rfl⟩
    · exact .inl rfl

/-- A refusal is noted, and the offer is forgotten. -/
theorem handleAddressNak_spec (e : LinkedEndpoint T) (msg : GctlMessage) :
  (∀ nak, msg.parseAddressNak ≠ .ok nak) ∧ (e.handleAddressNak msg).2 = e ∨
  ∃ nak, msg.parseAddressNak = .ok nak ∧ (e.handleAddressNak msg).2 =
    { e with addressState := .rejected nak.reason nak.retryDelay, pendingClientOffer := none }
  := by
  rw [handleAddressNak]
  split
  · next herr => exact .inl ⟨by simp [herr], rfl⟩
  · next nak hnak => exact .inr ⟨nak, hnak, rfl⟩

/-! ### Other messages -/

/-- The offer of a service is kept for the application, and the router may be noted. -/
theorem handleAdvertise_spec (e : LinkedEndpoint T) (src : GdpAddress) (msg : GctlMessage) :
  (e.handleAdvertise src msg).2 = e ∨ ∃ routerAddress,
    (e.handleAdvertise src msg).2 = ({ e with routerAddress } : LinkedEndpoint T).keepGctl src msg
  := by
  rw [handleAdvertise]
  split
  · exact .inl rfl
  right
  dsimp only
  split
  · exact ⟨_, rfl⟩
  · exact ⟨e.routerAddress, rfl⟩

/-- What is given when `requestedFlits` are asked for. -/
theorem min_le_left_U32 (available requestedFlits : U32) :
  (if requestedFlits = 0#32 then available
    else if available < requestedFlits then available else requestedFlits) ≤ available
  := by
  split
  · apply BitVec.le_refl
  split
  · apply BitVec.le_refl
  · next h => exact BitVec.not_lt.mp h

/-- No more credit is given than there is room for. -/
theorem handleCreditRequest_spec (e : LinkedEndpoint T) (src : GdpAddress) (msg : GctlMessage) :
  (e.handleCreditRequest src msg).2 = e ∨ ∃ grant ≤ e.dlp.grantableDataCredit,
    (e.handleCreditRequest src msg).2 =
      (e.sendCredit (e.peerLinkLocal.getD src) msg.transactionId grant).2
  := by
  rw [handleCreditRequest]
  split
  · exact .inl rfl
  next request _ =>
  dsimp only
  have hgrant := min_le_left_U32 e.dlp.grantableDataCredit request.requestedFlits
  generalize (if request.requestedFlits = 0#32 then e.dlp.grantableDataCredit
    else if e.dlp.grantableDataCredit < request.requestedFlits then e.dlp.grantableDataCredit
    else request.requestedFlits) = grant at hgrant ⊢
  split
  · exact .inr ⟨grant, hgrant, rfl⟩
  · exact .inl rfl

end LinkedEndpoint

end SmolGnet
