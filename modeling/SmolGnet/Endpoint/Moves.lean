import SmolGnet.Dlp.Carry
import SmolGnet.Endpoint.Handlers
import Mathlib.Logic.Relation

/-!
# What an endpoint does with its link

Whatever an endpoint does when a packet arrives or when the application asks for something,
all that it does to its end of the link is to queue packets: control messages that are no
`CREDIT`, packets of the transport, and `CREDIT` messages for the other end, which it notes.
`Moves` says this once for all operations.

Two things are not among the moves.  A `CREDIT` that arrives brings credit, and the
acknowledgement of an address may change the local context; each of them comes before all the
moves of the packet that brings it.
-/

namespace SmolGnet

namespace LinkedEndpoint

variable {T : Transport} {e e' e'' : LinkedEndpoint T}

/-! ### The packets of an endpoint -/

/-- The prefix of the local context, 0 if there is none. -/
def contextPrefix (e : LinkedEndpoint T) : U64 :=
  e.config.localContextPrefix.getD 0#64 &&& ~~~0xffff#64

/-- Packets between the two addresses are written in the local form. -/
def WritesLocal (e : LinkedEndpoint T) (source destination : GdpAddress) : Prop :=
  e.config.preferLocalGdp ∧ destination ≠ bootstrapAddress ∧ e.config.localContextPrefix.isSome ∧
    source.value &&& ~~~0xffff#64 = e.contextPrefix ∧
    destination.value &&& ~~~0xffff#64 = e.contextPrefix

instance (e : LinkedEndpoint T) (source destination : GdpAddress) :
    Decidable (e.WritesLocal source destination) :=
  inferInstanceAs (Decidable (_ ∧ _ ∧ _ ∧ _ ∧ _))

/-- The high and the low bits of an address make up the address. -/
theorem high_or_low (x : U64) :
  (x &&& ~~~0xffff#64) ||| (x.setWidth 16).setWidth 64 = x
  := by
  ext i hi
  simp only [BitVec.getElem_or, BitVec.getElem_and, BitVec.getElem_setWidth]
  interval_cases i <;> simp

/-- The header of a packet is canonical in the local context, and has the addresses that it
was made for. -/
theorem makeGdpHeader_spec {packetType : GdpType} {sizeClass : SizeClass}
    {source destination : GdpAddress} {header : GdpHeader} (htype : ∃ v, .fromWire v = packetType)
    (h : e.makeGdpHeader packetType sizeClass source destination = .ok header) :
  header.Canonical e.contextPrefix ∧ header.packetType = packetType ∧
    header.destination = destination ∧
    (header.addresses.form = .global ∨ e.WritesLocal source destination)
  := by
  have hversion : (0#8 : U8) ≤ 3#8 := by decide
  have hglobal : ∀ header,
      Except.ok (ε := Error) (GdpHeader.global packetType sizeClass 64#8 source destination)
        = .ok header →
      header.Canonical e.contextPrefix ∧ header.packetType = packetType ∧
        header.destination = destination ∧
        (header.addresses.form = .global ∨ e.WritesLocal source destination) := by
    rintro _ ⟨⟩
    exact ⟨⟨hversion, htype, nofun⟩, rfl, rfl, .inl rfl⟩
  rw [makeGdpHeader] at h
  split at h
  · next hprefer =>
    split at h
    · next localPrefix hsome =>
      have hcontext : e.contextPrefix = localPrefix &&& ~~~0xffff#64 := by
        rw [contextPrefix, hsome, Option.getD_some]
      dsimp only at h
      split at h
      · next haddr =>
        rw [GdpHeader.local, if_neg (by decide), BitVec.and_assoc, BitVec.and_self] at h
        cases h
        refine ⟨⟨hversion, htype, ?_⟩, rfl, ?_, .inr ?_⟩
        · rintro _ _ _ ⟨⟩
          rw [hcontext, BitVec.and_assoc, BitVec.and_self]
          exact ⟨BitVec.le_refl 15#8, rfl⟩
        · rw [GdpHeader.destination, GdpAddresses.effectiveDestination, BitVec.and_assoc,
            BitVec.and_self, ← haddr.2, high_or_low]
        · rw [WritesLocal, hsome, hcontext]
          exact ⟨hprefer.1, hprefer.2, rfl, haddr.1, haddr.2⟩
      · exact hglobal header h
    · exact hglobal header h
  · exact hglobal header h

/-- The packet of a control message holds the message, padded with zeros. -/
structure Holds (e : LinkedEndpoint T) (source remote : GdpAddress) (msg : GctlMessage)
    (packet : GdpPacket) : Prop where
  canonical : packet.Canonical e.contextPrefix
  packetType : packet.header.packetType = .gctl
  destination : packet.header.destination = remote
  form : packet.header.addresses.form = .global ∨ e.WritesLocal source remote
  payload : ∃ padding : ℕ, GctlMessage.decode packet.payload
    = .ok { msg with body := msg.body ++ List.replicate padding 0#8 }

/-- How the packet of a control message is made. -/
theorem gctlPacket_eq_ok {source remote : GdpAddress} {msg : GctlMessage}
    {sizeClass : Option SizeClass} {packet : GdpPacket}
    (h : e.gctlPacket source remote msg sizeClass = .ok packet) :
  ∃ (c : SizeClass) (payload : Bytes) (header : GdpHeader),
    msg.encodeExact c.bytes = .ok payload ∧ e.makeGdpHeader .gctl c source remote = .ok header ∧
    GdpPacket.new header payload = .ok packet
  := by
  have hclass : ∃ c : SizeClass, (do
      let payload ← msg.encodeExact c.bytes
      let header ← e.makeGdpHeader .gctl c source remote
      GdpPacket.new header payload) = .ok packet := by
    cases sizeClass with
    | some c => exact ⟨c, h⟩
    | none =>
      obtain ⟨c, -, h⟩ := bind_eq_ok.mp h
      exact ⟨c, h⟩
  obtain ⟨c, h⟩ := hclass
  rw [bind_eq_ok] at h
  obtain ⟨payload, hpayload, h⟩ := h
  rw [bind_eq_ok] at h
  obtain ⟨header, hheader, h⟩ := h
  exact ⟨c, payload, header, hpayload, hheader, h⟩

theorem holds_gctlPacket {source remote : GdpAddress} {msg : GctlMessage}
    {sizeClass : Option SizeClass} {packet : GdpPacket}
    (h : e.gctlPacket source remote msg sizeClass = .ok packet) :
  e.Holds source remote msg packet
  := by
  obtain ⟨c, payload, header, hpayload, hheader, h⟩ := gctlPacket_eq_ok h
  have hgctl : ∃ v, GdpType.fromWire v = .gctl := ⟨1#8, rfl⟩
  obtain ⟨hcanonical, htype, hdestination, hform⟩ := makeGdpHeader_spec hgctl hheader
  rw [GdpPacket.new] at h
  split at h
  · cases h
  next hlength =>
  cases h
  refine ⟨⟨hcanonical, not_not.mp hlength⟩, htype, hdestination, hform, ?_⟩
  have hok : msg.version = 1#8 ∧ msg.encodedLen ≤ c.bytes := by
    rw [GctlMessage.encodeExact] at hpayload
    split at hpayload
    · cases hpayload
    next hn =>
    rw [not_or, not_not] at hn
    exact ⟨hn.1, Nat.le_of_not_lt hn.2⟩
  obtain ⟨bytes, hencode, -, hdecode⟩ := GctlMessage.decode_encodeExact hok.1 hok.2
  rw [hencode] at hpayload
  cases hpayload
  exact ⟨_, hdecode⟩

/-- The credit of a `CREDIT` message. -/
theorem Holds.creditOf_eq {source remote : GdpAddress} {transactionId grant : U32}
    {packet : GdpPacket} (h : e.Holds source remote (.credit transactionId grant) packet) :
  creditOf packet = some grant
  := by
  obtain ⟨padding, hdecode⟩ := h.payload
  generalize hmsg : ({ GctlMessage.credit transactionId grant with
    body := (GctlMessage.credit transactionId grant).body ++ List.replicate padding 0#8 } :
    GctlMessage) = msg at hdecode
  have htype : msg.messageType = .credit := by
    rw [← hmsg]
    rfl
  have hbody : msg.body = Octets.toBeBytes grant ++ List.replicate padding 0#8 := by
    rw [← hmsg]
    rfl
  rw [creditOf, if_pos h.packetType, hdecode]
  dsimp only
  rw [if_pos htype, GctlMessage.parseCredit,
    GctlMessage.typedBody_padded htype (Octets.length_toBeBytes grant) hbody]
  exact congrArg some (Octets.fromBeBytes_toBeBytes rfl grant)

/-- A control message is queued as a frame on the control channel. -/
theorem sendGctlFrom_eq_ok {source remote : GdpAddress} {msg : GctlMessage}
    {sizeClass : Option SizeClass} (h : e.sendGctlFrom source remote msg sizeClass = .ok e') :
  ∃ packet, e.Holds source remote msg packet ∧
    ∃ n, e.dlp.queueControlPacket packet = .ok (n, e'.dlp) ∧ e' = { e with dlp := e'.dlp }
  := by
  rw [sendGctlFrom, bind_eq_ok] at h
  obtain ⟨packet, hpacket, h⟩ := h
  rw [bind_eq_ok] at h
  obtain ⟨⟨n, dlp⟩, hqueue, h⟩ := h
  cases h
  exact ⟨packet, holds_gctlPacket hpacket, n, hqueue, rfl⟩

/-- The packet of a payload of the transport has a canonical header. -/
theorem gtsPacket_spec {e : LinkedEndpoint T} {x : GtsSend} {packet : GdpPacket}
    (h : e.gtsPacket x = .ok packet) :
  packet.Canonical e.contextPrefix ∧ packet.header.packetType = .gts
  := by
  rw [gtsPacket, bind_eq_ok] at h
  obtain ⟨header, hheader, hpacket⟩ := h
  have hgts : ∃ v, GdpType.fromWire v = .gts := ⟨2#8, rfl⟩
  obtain ⟨hcanonical, htype, -⟩ := makeGdpHeader_spec hgts hheader
  rw [GdpPacket.new] at hpacket
  split at hpacket
  · cases hpacket
  next hlength =>
  cases hpacket
  exact ⟨⟨hcanonical, not_not.mp hlength⟩, htype⟩

/-- A packet of the transport is queued on the next data channel, or it is not queued. -/
theorem sendGts_spec (e : LinkedEndpoint T) (x : GtsSend) :
  (e.sendGts x).2 = e ∨ ∃ packet, packet.Canonical e.contextPrefix ∧
    packet.header.packetType = .gts ∧
    (e.sendGts x).2 = { e with dlp := (e.dlp.queueDataPacket packet).2 }
  := by
  rw [sendGts]
  split
  · exact .inl rfl
  next packet hpacket =>
  obtain ⟨hcanonical, htype⟩ := gtsPacket_spec hpacket
  refine .inr ⟨packet, hcanonical, htype, ?_⟩
  split
  · next h => rw [h]
  · next h => rw [h]

/-! ### The moves -/

/-- The two endpoints differ only in what has nothing to do with the link. -/
structure SameLink (e e' : LinkedEndpoint T) : Prop where
  config : e'.config = e.config
  linkLocalAddress : e'.linkLocalAddress = e.linkLocalAddress
  peerLinkLocal : e'.peerLinkLocal = e.peerLinkLocal
  creditRequestPending : e'.creditRequestPending = e.creditRequestPending
  dlp : e'.dlp = e.dlp

/-- What an endpoint does with its link in one go. -/
inductive Move : LinkedEndpoint T → LinkedEndpoint T → Prop where
  | other {e e' : LinkedEndpoint T} (h : SameLink e e') : Move e e'
  | control {e e' : LinkedEndpoint T} {source remote : GdpAddress} {msg : GctlMessage}
    {sizeClass : Option SizeClass} (hmsg : msg.messageType ≠ .credit)
    (h : e.sendGctlFrom source remote msg sizeClass = .ok e') : Move e e'
  | data (e : LinkedEndpoint T) (x : GtsSend) : Move e (e.sendGts x).2
  | credit {e : LinkedEndpoint T} {peer : GdpAddress} {transactionId grant : U32}
    (hpeer : ∀ p ∈ e.peerLinkLocal, peer = p) (hgrant : grant ≤ e.dlp.grantableDataCredit) :
    Move e (e.sendCredit peer transactionId grant).2

/-- What an endpoint does with its link. -/
def Moves : LinkedEndpoint T → LinkedEndpoint T → Prop :=
  Relation.ReflTransGen Move

theorem Moves.refl (e : LinkedEndpoint T) :
  Moves e e
  := Relation.ReflTransGen.refl

theorem Move.moves (h : Move e e') :
  Moves e e'
  := Relation.ReflTransGen.single h

theorem Moves.trans (h : Moves e e') (h' : Moves e' e'') :
  Moves e e''
  := Relation.ReflTransGen.trans h h'

theorem SameLink.moves (h : SameLink e e') :
  Moves e e'
  := (Move.other h).moves

/-- What every move keeps is kept. -/
theorem Moves.invariant (h : Moves e e') {P : LinkedEndpoint T → Prop}
    (hmove : ∀ e e', P e → Move e e' → P e') (hp : P e) :
  P e'
  := by
  induction h with
  | refl => exact hp
  | tail _ hlast ih => exact hmove _ _ ih hlast

/-- Two steps are moves if each of them is. -/
theorem moves_andThen {α β : Type} {x : Except Error α × LinkedEndpoint T}
    {f : α → LinkedEndpoint T → Except Error β × LinkedEndpoint T} (hx : Moves e x.2)
    (hf : ∀ a e, Moves e (f a e).2) :
  Moves e (andThen x f).2
  := by
  refine andThen_invariant (P := fun e' : LinkedEndpoint T => Moves e e') hx ?_
  intro a e' _ h
  apply h.trans (hf a e')

theorem moves_trySendGctlFrom (e : LinkedEndpoint T) (source remote : GdpAddress)
    {msg : GctlMessage} (hmsg : msg.messageType ≠ .credit) (sizeClass : Option SizeClass) :
  Moves e (e.trySendGctlFrom source remote msg sizeClass).2
  := by
  rw [trySendGctlFrom]
  split
  · apply Moves.refl
  · next h => apply (Move.control hmsg h).moves

theorem moves_sendAllGts (xs : List GtsSend) (e : LinkedEndpoint T) :
  Moves e (sendAllGts xs e).2
  := by
  induction xs generalizing e with
  | nil => apply Moves.refl
  | cons x xs ih =>
    rw [sendAllGts]
    apply moves_andThen (Move.data e x).moves
    intro _ e'
    apply ih

theorem moves_runTransport (e : LinkedEndpoint T)
    (outcome : Except Error Unit × T.State × List GtsSend) :
  Moves e (e.runTransport outcome).2
  := by
  have hother : SameLink e { e with transport := outcome.2.1 } := ⟨rfl, rfl, rfl, rfl, rfl⟩
  rw [runTransport]
  apply moves_andThen (hother.moves.trans (moves_sendAllGts outcome.2.2 _))
  intro _ e'
  apply Moves.refl

theorem moves_advertiseLinkCredit (e : LinkedEndpoint T) (force : Bool) :
  Moves e (e.advertiseLinkCredit force).2
  := by
  rw [advertiseLinkCredit]
  split
  · apply Moves.refl
  next peer hpeer =>
  dsimp only
  split
  · apply Moves.refl
  split
  · apply Moves.refl
  · have hother : SameLink e e.useTransaction := ⟨rfl, rfl, rfl, rfl, rfl⟩
    apply hother.moves.trans
    apply (Move.credit (e := e.useTransaction) _ (BitVec.le_refl _)).moves
    intro p hp
    rw [show e.useTransaction.peerLinkLocal = some peer from hpeer] at hp
    exact Option.some.inj hp

theorem moves_solicitRouter (e : LinkedEndpoint T) (transactionId : U32) :
  Moves e (e.solicitRouter transactionId).2
  := by
  rw [solicitRouter]
  split
  · apply Moves.refl
  · have hother : SameLink e { e with addressState := .soliciting transactionId } :=
      ⟨rfl, rfl, rfl, rfl, rfl⟩
    apply hother.moves.trans
    apply moves_trySendGctlFrom
    nofun

/-- What is known of other things changes, and messages are sent that bring no credit. -/
theorem Replies.moves {Q : GctlMessage → Prop} {remote : GdpAddress} (h : Replies Q remote e' e'')
    (hsame : SameLink e e') (hplain : ∀ reply, Q reply → reply.messageType ≠ .credit) :
  Moves e e''
  := by
  apply hsame.moves.trans
  apply h.invariant (P := fun e => Moves e' e) _ (.refl e')
  intro e₁ reply hreply hmoves
  exact hmoves.trans (moves_trySendGctlFrom e₁ _ _ (hplain reply hreply) _)

theorem moves_handleRouterSolicit (e : LinkedEndpoint T) (src : GdpAddress) (msg : GctlMessage) :
  Moves e (e.handleRouterSolicit src msg).2
  := by
  obtain heq | ⟨authority, -, hreplies⟩ := e.handleRouterSolicit_spec src msg
  · rw [heq]
    apply Moves.refl
  · refine hreplies.moves ⟨rfl, rfl, rfl, rfl, rfl⟩ ?_
    rintro reply (htype | htype)
    · simp [htype]
    · simp [htype]

theorem moves_handleAddressOffer (e : LinkedEndpoint T) (src : GdpAddress) (msg : GctlMessage) :
  Moves e (e.handleAddressOffer src msg).2
  := by
  obtain heq | ⟨offer, -, -, hreplies⟩ := e.handleAddressOffer_spec src msg
  · rw [heq]
    apply Moves.refl
  · refine hreplies.moves ⟨rfl, rfl, rfl, rfl, rfl⟩ ?_
    intro reply htype
    simp [htype]

theorem moves_handleAddressClaim (e : LinkedEndpoint T) (src : GdpAddress) (msg : GctlMessage) :
  Moves e (e.handleAddressClaim src msg).2
  := by
  obtain hreplies | ⟨authority, claim, -, -, -, hreplies⟩ := e.handleAddressClaim_spec src msg
  · refine hreplies.moves ⟨rfl, rfl, rfl, rfl, rfl⟩ ?_
    intro reply htype
    simp [htype]
  · refine hreplies.moves ⟨rfl, rfl, rfl, rfl, rfl⟩ ?_
    rintro _ rfl
    nofun

theorem moves_handleCreditRequest (e : LinkedEndpoint T) (src : GdpAddress) (msg : GctlMessage) :
  Moves e (e.handleCreditRequest src msg).2
  := by
  obtain heq | ⟨grant, hgrant, heq⟩ := e.handleCreditRequest_spec src msg
  · rw [heq]
    apply Moves.refl
  · rw [heq]
    apply (Move.credit _ hgrant).moves
    intro p hp
    rw [hp, Option.getD_some]

/-! ### What a packet brings -/

/-- The local context may change, and then the endpoint moves. -/
def Handles (e e' : LinkedEndpoint T) : Prop :=
  Moves e e' ∨ ∃ localPrefix, Moves (e.inContext localPrefix) e'

theorem Handles.trans (h : Handles e e') (h' : Moves e' e'') :
  Handles e e''
  := by
  rcases h with h | ⟨localPrefix, h⟩
  · exact .inl (h.trans h')
  · exact .inr ⟨localPrefix, h.trans h'⟩

theorem SameLink.handles (h : SameLink e e') (h' : Handles e' e'') :
  Handles e e''
  := by
  rcases h' with h' | ⟨localPrefix, h'⟩
  · exact .inl (h.moves.trans h')
  · refine .inr ⟨localPrefix, ?_⟩
    have hsame : SameLink (e.inContext localPrefix) (e'.inContext localPrefix) := by
      obtain ⟨hconfig, hlocal, hpeer, hpending, hdlp⟩ := h
      refine ⟨?_, hlocal, hpeer, hpending, ?_⟩
      · simp only [inContext, hconfig]
      · simp only [inContext, hdlp]
    exact hsame.moves.trans h'

theorem handles_handleAddressAck (e : LinkedEndpoint T) (msg : GctlMessage) :
  Handles e (e.handleAddressAck msg).2
  := by
  obtain ⟨-, heq⟩ | ⟨ack, pending, -, -, -, -, heq | ⟨localPrefix, heq⟩⟩ := e.handleAddressAck_spec msg
  · rw [heq]
    exact .inl (.refl e)
  · rw [heq]
    refine .inl (SameLink.moves ?_)
    exact ⟨rfl, rfl, rfl, rfl, rfl⟩
  · rw [heq]
    refine .inr ⟨localPrefix, SameLink.moves ?_⟩
    exact ⟨rfl, rfl, rfl, rfl, rfl⟩

/-- The endpoint has been given credit. -/
def granted (e : LinkedEndpoint T) (count : U32) : LinkedEndpoint T :=
  { e with dlp := e.dlp.grantDataTxCredit count, creditRequestPending := false }

theorem sameLink_keepGctl (e : LinkedEndpoint T) (src : GdpAddress) (msg : GctlMessage) :
  SameLink e (e.keepGctl src msg)
  := ⟨rfl, rfl, rfl, rfl, rfl⟩

theorem moves_handleAdvertise (e : LinkedEndpoint T) (src : GdpAddress) (msg : GctlMessage) :
  Moves e (e.handleAdvertise src msg).2
  := by
  obtain heq | ⟨routerAddress, heq⟩ := e.handleAdvertise_spec src msg
  · rw [heq]
    apply Moves.refl
  · rw [heq]
    apply SameLink.moves
    exact ⟨rfl, rfl, rfl, rfl, rfl⟩

theorem moves_handleAddressNak (e : LinkedEndpoint T) (msg : GctlMessage) :
  Moves e (e.handleAddressNak msg).2
  := by
  obtain ⟨-, heq⟩ | ⟨nak, -, heq⟩ := e.handleAddressNak_spec msg
  · rw [heq]
    apply Moves.refl
  · rw [heq]
    apply SameLink.moves
    exact ⟨rfl, rfl, rfl, rfl, rfl⟩

/-- What a control message that brings no credit makes the endpoint do. -/
theorem handles_handleGctl (e : LinkedEndpoint T) (src : GdpAddress) {packet : GdpPacket}
    (htype : packet.header.packetType = .gctl) (hcredit : creditOf packet = none) :
  Handles e (e.handleGctl src packet).2
  := by
  rw [handleGctl]
  split
  · exact .inl (.refl e)
  next msg hmsg =>
  have hkeep : ∀ answered (e' : LinkedEndpoint T),
      Moves e' (if answered = true then e' else e'.keepGctl src msg) := by
    intro answered e'
    split
    · apply Moves.refl
    · apply (sameLink_keepGctl e' src msg).moves
  split
  · exact .inl (moves_handleCreditRequest e src msg)
  · next hmessage =>
    rw [handleCredit]
    split
    · exact .inl (.refl e)
    · next credit hparse =>
      rw [creditOf, if_pos htype, hmsg] at hcredit
      dsimp only at hcredit
      rw [if_pos hmessage, hparse] at hcredit
      cases hcredit
  · split
    · exact .inl (.refl e)
    · next reply hreply =>
      refine .inl (moves_trySendGctlFrom e e.primaryAddress src ?_ _)
      rw [GctlMessage.echoReply] at hreply
      split at hreply
      · cases hreply
      · cases hreply
        simp
  · refine .inl (SameLink.moves ?_)
    exact ⟨rfl, rfl, rfl, rfl, rfl⟩
  · exact .inl (moves_andThen (moves_handleRouterSolicit e src msg) hkeep)
  · exact .inl (moves_handleAdvertise e src msg)
  · exact .inl (moves_handleAddressOffer e src msg)
  · exact .inl (moves_andThen (moves_handleAddressClaim e src msg) hkeep)
  · exact handles_handleAddressAck e msg
  · exact .inl (moves_handleAddressNak e msg)
  · exact .inl (sameLink_keepGctl e src msg).moves

/-- After a packet, credit may be given to the other end. -/
theorem moves_advertise_after {r : Except Error Unit × LinkedEndpoint T} :
  Moves r.2 (andThen r (fun _ e =>
    andThen (e.advertiseLinkCredit false) (fun _ e => ((.ok true : Except Error Bool), e)))).2
  := by
  apply moves_andThen (Moves.refl r.2)
  intro _ e'
  apply moves_andThen (moves_advertiseLinkCredit e' false)
  intro _ e''
  apply Moves.refl

/-- What a packet that brings no credit makes the endpoint do. -/
theorem handles_handlePacket (e : LinkedEndpoint T) {packet : GdpPacket} (now : U64)
    (hcredit : creditOf packet = none) :
  Handles e (e.handlePacket packet now).2
  := by
  rw [handlePacket]
  refine Handles.trans ?_ moves_advertise_after
  have hform : SameLink e { e with lastRxAddressForm := some packet.header.addresses.form } :=
    ⟨rfl, rfl, rfl, rfl, rfl⟩
  rw [handleGdp]
  split
  · exact .inl (.refl e)
  apply hform.handles
  dsimp only
  split
  · next htype => apply handles_handleGctl _ _ htype hcredit
  · split
    · exact .inl (.refl _)
    · exact .inl (moves_runTransport _ _)
  · exact .inl (.refl _)

/-- What a packet that brings credit makes the endpoint do that it is for. -/
theorem moves_handlePacket_of_credit (e : LinkedEndpoint T) {packet : GdpPacket} (now : U64)
    {count : U32} (hcredit : creditOf packet = some count)
    (haccepts : e.acceptsDestination packet.header.destination) :
  Moves (e.granted count) (e.handlePacket packet now).2
  := by
  obtain ⟨htype, msg, hmsg, hmessage, hparse⟩ := creditOf_eq_some hcredit
  have hgdp : (e.handleGdp packet now).2 = { e.granted count with
      lastRxAddressForm := some packet.header.addresses.form } := by
    rw [handleGdp, if_neg (by simp [haccepts]), htype]
    dsimp only
    rw [handleGctl, hmsg]
    dsimp only
    rw [hmessage]
    dsimp only
    rw [handleCredit, hparse]
    rfl
  have hform : SameLink (e.granted count) (e.handleGdp packet now).2 := by
    rw [hgdp]
    exact ⟨rfl, rfl, rfl, rfl, rfl⟩
  rw [handlePacket]
  exact hform.moves.trans moves_advertise_after

/-- Credit that passes the check stays within the limit. -/
theorem validateManagedCreditGrant_of_credit {packet : GdpPacket} {limit count : U32}
    (hcredit : creditOf packet = some count)
    (hvalid : e.validateManagedCreditGrant packet limit = .ok ()) :
  e.dlp.dataTxCredit.toNat + count.toNat ≤ limit.toNat
  := by
  obtain ⟨htype, msg, hmsg, hmessage, hparse⟩ := creditOf_eq_some hcredit
  rw [validateManagedCreditGrant, if_neg (not_not.mpr htype), hmsg, ok_bind,
    if_neg (not_not.mpr hmessage), hparse, ok_bind] at hvalid
  split at hvalid
  · cases hvalid
  next hzero =>
  split at hvalid
  · cases hvalid
  next hlimit =>
  rw [BitVec.not_lt, BitVec.le_def, toNat_saturatingSub] at hlimit
  have hpos : count.toNat ≠ 0 := fun h => hzero (BitVec.eq_of_toNat_eq h)
  dsimp only at hlimit
  omega

end LinkedEndpoint

end SmolGnet
