import SmolGnet.Library.Machine
import SmolGnet.Endpoint.Authority
import SmolGnet.Endpoint.Emits
import SmolGnet.Wire.GdpDecode

/-!
# Address leases are agreed and unique

One endpoint assigns addresses, and any number of others, the clients, have to be assigned one.
The network may lose frames, deliver them twice or late, and change their order; and the clients
search for a router at any time, under any transaction number.

An `ADDRESS_ACK` that has been sent says who holds the lease, and a lease is never taken away.  A
client takes an address only from an acknowledgement for itself, because the acknowledgement goes
to the link-local address from which the search came.

In the local form a frame has only the low bits of that address, and whoever reads it takes the high ones
from its own local context.  So a client may read the acknowledgement for another one as its own, unless
it has the local context of the endpoint that assigns addresses, or that endpoint writes no client's
address in the local form.

The control messages that assign addresses are those of the endpoints themselves: an application
sends none of its own.
-/

namespace SmolGnet

/-! ### What a message says -/

/-- A packet that searches for a router comes from a client, and one that acknowledges a claim goes
to the client that holds the lease. -/
def Truthful (client : GdpAddress → Prop) (leased : GdpAddress → Option GdpAddress)
    (packet : GdpPacket) : Prop :=
  packet.header.packetType = .gctl → ∀ msg, GctlMessage.decode packet.payload = .ok msg →
    (msg.messageType = .solicit → client packet.header.source) ∧
    ∀ ack, msg.parseAddressAck = .ok ack → leased ack.candidate = some packet.header.destination

variable {client : GdpAddress → Prop} {leased leased' : GdpAddress → Option GdpAddress}

theorem Neutral.truthful {packet : GdpPacket} (h : Neutral packet) :
  Truthful client leased packet
  := by
  intro hgctl msg hmsg
  obtain ⟨hsolicit, hack⟩ := h hgctl msg hmsg
  exact ⟨fun ht => absurd ht hsolicit,
    fun _ hparse => absurd (GctlMessage.messageType_of_parseAddressAck hparse) hack⟩

/-- What is true stays true when there are more leases. -/
theorem Truthful.mono {packet : GdpPacket} (h : Truthful client leased packet)
    (hleased : ∀ a c, leased a = some c → leased' a = some c) :
  Truthful client leased' packet
  := by
  intro hgctl msg hmsg
  obtain ⟨hsolicit, hack⟩ := h hgctl msg hmsg
  exact ⟨hsolicit, fun ack hparse => hleased _ _ (hack ack hparse)⟩

/-- The bytes are read as a packet that is true, in every context in which they may be read. -/
def TruthfulBytes (reads : U64 → Prop) (client : GdpAddress → Prop)
    (leased : GdpAddress → Option GdpAddress) (bytes : Bytes) : Prop :=
  ∀ cfg context packet, reads context → GdpPacket.decode bytes cfg context = .ok packet →
    Truthful client leased packet

variable {reads : U64 → Prop}

theorem TruthfulBytes.mono {bytes : Bytes} (h : TruthfulBytes reads client leased bytes)
    (hleased : ∀ a c, leased a = some c → leased' a = some c) :
  TruthfulBytes reads client leased' bytes
  := fun cfg context packet hreads hdecode => (h cfg context packet hreads hdecode).mono hleased

/-- What is queued is true, if the new packets are true in every context in which they may be read. -/
theorem DlpEndpoint.Queues.truthful {P : GdpPacket → Prop} {context : U64} {d d' : DlpEndpoint}
    (h : DlpEndpoint.Queues P context d d')
    (hold : ∀ bytes ∈ d.waiting, TruthfulBytes reads client leased bytes)
    (hnew : ∀ p packet, reads p → packet.Canonical context → P packet →
      Truthful client leased (packet.within p)) :
  ∀ bytes ∈ d'.waiting, TruthfulBytes reads client leased bytes
  := by
  intro bytes hbytes cfg p packet hreads hdecode
  rcases h.waiting bytes hbytes with hb | ⟨packet', hcanonical, hwire, hp⟩
  · exact hold bytes hb cfg p packet hreads hdecode
  · have hdecode' := GdpPacket.decode_wire (hcanonical.within p) d.cfg
    rw [GdpPacket.wire_within packet' p, hwire] at hdecode'
    rw [GdpPacket.cfg_eq_of_decode hdecode' hdecode, hdecode'] at hdecode
    cases hdecode
    exact hnew p packet' hreads hcanonical hp

namespace LinkedEndpoint

variable {T : Transport} {e e' : LinkedEndpoint T}

/-! ### A client -/

/-- A client with the link-local address `own`: it does not assign addresses, and the address it has
is its own or leased to it. -/
structure IsClient (reads : U64 → Prop) (client : GdpAddress → Prop)
    (leased : GdpAddress → Option GdpAddress) (own : GdpAddress) (e : LinkedEndpoint T) : Prop where
  linkLocalAddress : e.linkLocalAddress = own
  authority : e.authority = none
  primaryAddress : e.primaryAddress = own ∨ leased e.primaryAddress = some own
  waiting : ∀ bytes ∈ e.dlp.waiting, TruthfulBytes reads client leased bytes

variable {own : GdpAddress}

theorem IsClient.mono (h : IsClient reads client leased own e)
    (hleased : ∀ a c, leased a = some c → leased' a = some c) :
  IsClient reads client leased' own e
  := ⟨h.linkLocalAddress, h.authority, h.primaryAddress.imp_right (hleased _ _),
    fun bytes hbytes => (h.waiting bytes hbytes).mono hleased⟩

/-- A client may queue what is true in every context. -/
theorem IsClient.emits_of (h : IsClient reads client leased own e) {P : GdpPacket → Prop}
    (he : Emits P e e')
    (hp : ∀ context packet, P packet → Truthful client leased (packet.within context)) :
  IsClient reads client leased own e'
  := by
  constructor
  · rw [he.linkLocalAddress, h.linkLocalAddress]
  · rw [he.authority, h.authority]
  · rw [he.primaryAddress]
    exact h.primaryAddress
  · exact he.dlp.truthful h.waiting (fun p packet _ _ => hp p packet)

theorem IsClient.emits (h : IsClient reads client leased own e) (he : Emits Neutral e e') :
  IsClient reads client leased own e'
  := h.emits_of he (fun context _ hp => (hp.within context).truthful)

/-- The packet of a message to the bootstrap address is in the global form. -/
theorem header_gctlPacket_bootstrap {source : GdpAddress} {msg : GctlMessage}
    {sizeClass : Option SizeClass} {packet : GdpPacket}
    (h : e.gctlPacket source bootstrapAddress msg sizeClass = .ok packet) :
  packet.header.source = source ∧ packet.header.addresses.form = .global
  := by
  obtain ⟨c, payload, header, -, hheader, h⟩ := gctlPacket_eq_ok h
  rw [makeGdpHeader, if_neg (by simp)] at hheader
  cases hheader
  rw [GdpPacket.new] at h
  split at h
  · cases h
  · cases h
    exact ⟨rfl, rfl⟩

/-- A client may search for a router. -/
theorem IsClient.solicitRouter (h : IsClient reads client leased own e) (hown : client own)
    (transactionId : U32) :
  IsClient reads client leased own (e.solicitRouter transactionId).2
  := by
  rw [LinkedEndpoint.solicitRouter]
  split
  · exact h
  have hstate : IsClient reads client leased own { e with addressState := .soliciting transactionId } :=
    ⟨h.linkLocalAddress, h.authority, h.primaryAddress, h.waiting⟩
  refine hstate.emits_of (P := fun packet => packet.header.addresses.form = .global ∧
    Truthful client leased packet) (emits_trySendGctlFrom ?_) ?_
  · intro packet hpacket
    obtain ⟨hsource, hform⟩ := header_gctlPacket_bootstrap hpacket
    obtain ⟨padding, hdecode⟩ := (holds_gctlPacket hpacket).payload
    refine ⟨hform, ?_⟩
    intro _ msg hmsg
    rw [hdecode] at hmsg
    cases hmsg
    constructor
    · intro _
      rw [hsource, h.linkLocalAddress]
      exact hown
    · intro ack hparse
      cases GctlMessage.messageType_of_parseAddressAck hparse
  · rintro context packet ⟨hform, htrue⟩
    rw [GdpPacket.within_of_global hform]
    exact htrue

/-! ### What a client does with a message -/

/-- A client answers no search. -/
theorem handleRouterSolicit_of_client (h : e.authority = none) (src : GdpAddress)
    (msg : GctlMessage) :
  (e.handleRouterSolicit src msg).2 = e
  := by
  obtain heq | ⟨authority, hauthority, -⟩ := e.handleRouterSolicit_spec src msg
  · exact heq
  · rw [h] at hauthority
    cases hauthority

/-- A client acknowledges no claim. -/
theorem IsClient.handleAddressClaim (h : IsClient reads client leased own e) (src : GdpAddress)
    (msg : GctlMessage) :
  IsClient reads client leased own (e.handleAddressClaim src msg).2
  := by
  obtain hreplies | ⟨authority, claim, hauthority, -⟩ := e.handleAddressClaim_spec src msg
  · apply h.emits
    apply hreplies.emits_neutral
    intro reply htype
    simp [htype]
  · rw [h.authority] at hauthority
    cases hauthority

/-- A client may claim the address that it is offered. -/
theorem IsClient.handleAddressOffer (h : IsClient reads client leased own e) (src : GdpAddress)
    (msg : GctlMessage) :
  IsClient reads client leased own (e.handleAddressOffer src msg).2
  := by
  obtain heq | ⟨offer, -, -, hreplies⟩ := e.handleAddressOffer_spec src msg
  · rw [heq]
    exact h
  · have hoffered : IsClient reads client leased own (e.offered src msg.transactionId offer) :=
      ⟨h.linkLocalAddress, h.authority, h.primaryAddress, h.waiting⟩
    apply hoffered.emits
    apply hreplies.emits_neutral
    intro reply htype
    simp [htype]

/-- A client may take the address that is leased to it. -/
theorem IsClient.handleAddressAck (h : IsClient reads client leased own e) {msg : GctlMessage}
    (hack : ∀ ack, msg.parseAddressAck = .ok ack → leased ack.candidate = some own) :
  IsClient reads client leased own (e.handleAddressAck msg).2
  := by
  obtain ⟨-, heq⟩ | ⟨ack, pending, hparse, -, -, -, heq | ⟨localPrefix, heq⟩⟩ :=
    e.handleAddressAck_spec msg
  · rw [heq]
    exact h
  · rw [heq]
    exact ⟨h.linkLocalAddress, h.authority, .inr (hack ack hparse), h.waiting⟩
  · rw [heq]
    exact ⟨h.linkLocalAddress, h.authority, .inr (hack ack hparse), h.waiting⟩

theorem IsClient.handleAddressNak (h : IsClient reads client leased own e) (msg : GctlMessage) :
  IsClient reads client leased own (e.handleAddressNak msg).2
  := by
  obtain ⟨-, heq⟩ | ⟨nak, -, heq⟩ := e.handleAddressNak_spec msg
  · rw [heq]
    exact h
  · rw [heq]
    exact ⟨h.linkLocalAddress, h.authority, h.primaryAddress, h.waiting⟩

/-- What is leased is not link-local, and it is leased to a client. -/
def Sound (client : GdpAddress → Prop) (leased : GdpAddress → Option GdpAddress) : Prop :=
  ∀ a c, leased a = some c → ¬ a.IsLinkLocal ∧ client c

/-- The addresses of clients are those of endpoints on the link. -/
def Attached (client : GdpAddress → Prop) : Prop :=
  ∀ c, client c → c.IsLinkLocal ∧ c ≠ bootstrapAddress

/-- An acknowledgement for the address of a client reaches no other client. -/
theorem IsClient.eq_of_accepts (h : IsClient reads client leased own e) (hclient : Attached client)
    (hsound : Sound client leased) {destination : GdpAddress} (hdestination : client destination)
    (haccepts : e.acceptsDestination destination) :
  destination = own
  := by
  obtain ⟨hlinkLocal, hbootstrap⟩ := hclient destination hdestination
  simp only [acceptsDestination, Bool.or_eq_true, decide_eq_true_eq] at haccepts
  rcases haccepts with (hprimary | hown) | heq
  · rcases h.primaryAddress with hown | hleased
    · rw [hprimary, hown]
    · rw [← hprimary] at hleased
      exact absurd hlinkLocal (hsound destination own hleased).1
  · rw [hown, h.linkLocalAddress]
  · exact absurd heq hbootstrap

/-- A client stays a client when it receives what is true. -/
theorem IsClient.handlePacket (h : IsClient reads client leased own e) (hclient : Attached client)
    (hsound : Sound client leased) {packet : GdpPacket} (htrue : Truthful client leased packet)
    (now : U64) :
  IsClient reads client leased own (e.handlePacket packet now).2
  := by
  rcases handlePacket_cases e packet now with hemits |
    ⟨htype, msg, e₀, e₁, hbefore, haccepts, hmsg, hstep, hafter⟩
  · exact h.emits hemits
  have h₀ := h.emits hbefore
  refine IsClient.emits ?_ hafter
  cases hstep with
  | solicit =>
    rw [handleRouterSolicit_of_client h₀.authority]
    exact h₀
  | offer => exact h₀.handleAddressOffer packet.header.source msg
  | claim => exact h₀.handleAddressClaim packet.header.source msg
  | ack =>
    apply h₀.handleAddressAck
    intro ack hparse
    have hleased := (htrue htype msg hmsg).2 ack hparse
    have hown := h₀.eq_of_accepts hclient hsound (hsound _ _ hleased).2 haccepts
    rw [hleased, hown]
  | nak => exact h₀.handleAddressNak msg

/-! ### The endpoint that assigns addresses -/

/-- The endpoint with the address `router` assigns addresses with the given prefix.  It searches for
no router itself. -/
structure IsRouter (reads : U64 → Prop) (client : GdpAddress → Prop)
    (config : AddressAuthorityConfig) (router : GdpAddress) (a : AddressAuthority)
    (e : LinkedEndpoint T) : Prop where
  authority : e.authority = some a
  authorityConfig : a.config = config
  primaryAddress : e.primaryAddress = router
  addressState : ∀ transactionId, e.addressState ≠ .soliciting transactionId
  pendingClientOffer : e.pendingClientOffer = none
  context : e.dlp.localPrefix = e.contextPrefix
  reads_iff : ∀ p, reads p ↔ p = e.contextPrefix ∨
    ∀ c, client c → ¬ e.WritesLocal e.linkLocalAddress c
  unique : a.book.Unique
  within : a.book.Within (fun c a => client c ∧ config.Contains a ∧ a ≠ router)
  waiting : ∀ bytes ∈ e.dlp.waiting, TruthfulBytes reads client a.book.leased bytes

variable {config : AddressAuthorityConfig} {router : GdpAddress} {authority : AddressAuthority}

/-- The endpoint may queue what is true in every context in which it may be read. -/
theorem IsRouter.emits_of (h : IsRouter reads client config router authority e) {P : GdpPacket → Prop}
    (he : Emits P e e')
    (hp : ∀ p packet, reads p → P packet → Truthful client authority.book.leased (packet.within p)) :
  IsRouter reads client config router authority e'
  := by
  have hcontext : e'.contextPrefix = e.contextPrefix := by rw [contextPrefix, contextPrefix, he.config]
  constructor
  · rw [he.authority, h.authority]
  · exact h.authorityConfig
  · rw [he.primaryAddress, h.primaryAddress]
  · rw [he.addressState]
    exact h.addressState
  · rw [he.pendingClientOffer, h.pendingClientOffer]
  · rw [he.dlp.localPrefix, h.context, hcontext]
  · intro p
    have hwrites : ∀ c, e'.WritesLocal e'.linkLocalAddress c ↔ e.WritesLocal e.linkLocalAddress c := by
      intro c
      rw [WritesLocal, WritesLocal, hcontext, he.config, he.linkLocalAddress]
    simp only [hcontext, hwrites]
    exact h.reads_iff p
  · exact h.unique
  · exact h.within
  · exact he.dlp.truthful h.waiting (fun p packet hreads _ => hp p packet hreads)

theorem IsRouter.emits (h : IsRouter reads client config router authority e) (he : Emits Neutral e e') :
  IsRouter reads client config router authority e'
  := h.emits_of he (fun p _ _ hp => (hp.within p).truthful)

/-- The book has changed; no lease has been taken away. -/
theorem IsRouter.setAuthority (h : IsRouter reads client config router authority e)
    {authority' : AddressAuthority} (hconfig : authority'.config = authority.config)
    (hunique : authority'.book.Unique)
    (hwithin : authority'.book.Within (fun c a => client c ∧ config.Contains a ∧ a ≠ router))
    (hleased : ∀ a c, authority.book.leased a = some c → authority'.book.leased a = some c) :
  IsRouter reads client config router authority' { e with authority := some authority' }
  := ⟨rfl, hconfig.trans h.authorityConfig, h.primaryAddress, h.addressState, h.pendingClientOffer, h.context,
    h.reads_iff, hunique, hwithin,
    fun bytes hbytes => (h.waiting bytes hbytes).mono hleased⟩

/-- A search of a client keeps the book in order, and takes no lease away. -/
theorem IsRouter.solicit (h : IsRouter reads client config router authority e) {src : GdpAddress}
    (hsrc : client src) (transactionId : U32) :
  IsRouter reads client config router (authority.solicit router src transactionId)
      { e with authority := some (authority.solicit router src transactionId) } ∧
    ∀ a c, authority.book.leased a = some c →
      (authority.solicit router src transactionId).book.leased a = some c
  := by
  obtain ⟨hconfig, hbook, hcandidate⟩ := authority.allocateCandidate_spec router
  rw [AddressAuthority.solicit]
  generalize authority.allocateCandidate router = allocated at hconfig hbook hcandidate ⊢
  obtain ⟨err | candidate, authority'⟩ := allocated
  · dsimp only at hconfig hbook ⊢
    constructor
    · apply h.setAuthority hconfig
      · rw [hbook]
        exact h.unique
      · rw [hbook]
        exact h.within
      · rw [hbook]
        exact fun _ _ => id
    · rw [hbook]
      exact fun _ _ => id
  · dsimp only at hconfig hbook ⊢
    obtain ⟨hfree, hcontains, hne⟩ := hcandidate candidate rfl
    have hoffer := authority'.book_insert_pending transactionId src candidate
    rw [hbook] at hoffer
    constructor
    · refine h.setAuthority hconfig ?_ ?_ ?_
      · rw [hoffer]
        exact h.unique.offer hfree
      · rw [hoffer]
        apply h.within.offer
        rw [← h.authorityConfig]
        exact ⟨hsrc, hcontains, hne⟩
      · rw [hoffer]
        exact fun _ _ => id
    · rw [hoffer]
      exact fun _ _ => id

/-- The endpoint may answer the search of a client. -/
theorem IsRouter.handleRouterSolicit (h : IsRouter reads client config router authority e)
    {src : GdpAddress} (hsrc : client src) (msg : GctlMessage) :
  ∃ authority', IsRouter reads client config router authority' (e.handleRouterSolicit src msg).2 ∧
    ∀ a c, authority.book.leased a = some c → authority'.book.leased a = some c
  := by
  obtain heq | ⟨authority', hauthority, hreplies⟩ := e.handleRouterSolicit_spec src msg
  · rw [heq]
    exact ⟨authority, h, fun _ _ => id⟩
  · rw [h.authority] at hauthority
    cases hauthority
    obtain rfl := h.primaryAddress
    obtain ⟨hrouter, hleased⟩ := h.solicit hsrc msg.transactionId
    refine ⟨_, hrouter.emits (hreplies.emits_neutral ?_), hleased⟩
    rintro reply (htype | htype)
    · simp [htype]
    · simp [htype]

/-- The claim of an address that was offered to a client leases it. -/
theorem IsRouter.claim (h : IsRouter reads client config router authority e)
    {src candidate : GdpAddress} {transactionId : U32}
    (hpending : authority.pending[transactionId]? = some ⟨src, candidate⟩) :
  IsRouter reads client config router (authority.claim src candidate transactionId)
      { e with authority := some (authority.claim src candidate transactionId) } ∧
    (∀ a c, authority.book.leased a = some c →
      (authority.claim src candidate transactionId).book.leased a = some c) ∧
    (authority.claim src candidate transactionId).book.leased candidate = some src ∧ client src
  := by
  have hoffered : authority.book.offered transactionId = some (src, candidate) :=
    AddressAuthority.offered_book.mpr hpending
  have hclaim : (authority.claim src candidate transactionId).book =
      authority.book.accept transactionId src candidate := by
    rw [AddressAuthority.claim, hpending]
    dsimp only
    rw [if_pos ⟨rfl, rfl⟩]
    apply authority.book_accept
  have hconfig : (authority.claim src candidate transactionId).config = authority.config := by
    rw [AddressAuthority.claim, hpending]
    dsimp only
    rw [if_pos ⟨rfl, rfl⟩]
  have hleased : ∀ a c, authority.book.leased a = some c →
      (authority.claim src candidate transactionId).book.leased a = some c := by
    rw [hclaim]
    exact fun _ _ => h.unique.leased_mono hoffered
  refine ⟨h.setAuthority hconfig ?_ ?_ hleased, hleased, ?_, (h.within.offered _ _ _ hoffered).1⟩
  · rw [hclaim]
    exact h.unique.accept hoffered
  · rw [hclaim]
    exact h.within.accept hoffered
  · rw [hclaim, LeaseBook.leased_accept, Function.update_self]

/-- The acknowledgement of a lease is true wherever it is read. -/
theorem IsRouter.truthful_addressAck (h : IsRouter reads client config router authority e)
    {src : GdpAddress} (hsrc : client src) {ack : AddressAck}
    (hleased : authority.book.leased ack.candidate = some src) {transactionId : U32}
    {packet : GdpPacket}
    (hpacket : e.gctlPacket e.linkLocalAddress src (.addressAck transactionId ack) none = .ok packet) :
  ∀ p, reads p → Truthful client authority.book.leased (packet.within p)
  := by
  intro p hreads _ msg hmsg
  have hholds := holds_gctlPacket hpacket
  -- The packet is read as it was written.
  have hsame : packet.within p = packet := by
    rcases (h.reads_iff p).mp hreads with rfl | hglobal
    · exact hholds.canonical.within_eq
    · exact GdpPacket.within_of_global (hholds.form.resolve_right (hglobal src hsrc)) p
  obtain ⟨padding, hdecode⟩ := hholds.payload
  rw [hsame, hdecode] at hmsg
  cases hmsg
  refine ⟨fun hsolicit => (by cases hsolicit), ?_⟩
  intro ack' hparse
  rw [GctlMessage.parseAddressAck_padded] at hparse
  cases hparse
  rw [hsame, hholds.destination, hleased]

/-- The endpoint may accept the claim of a client, and it acknowledges only what it has leased. -/
theorem IsRouter.handleAddressClaim (h : IsRouter reads client config router authority e)
    (src : GdpAddress) (msg : GctlMessage) :
  ∃ authority', IsRouter reads client config router authority' (e.handleAddressClaim src msg).2 ∧
    ∀ a c, authority.book.leased a = some c → authority'.book.leased a = some c
  := by
  obtain hreplies | ⟨authority', claim, hauthority, -, hpending, hreplies⟩ :=
    e.handleAddressClaim_spec src msg
  · refine ⟨authority, h.emits (hreplies.emits_neutral ?_), fun _ _ => id⟩
    intro reply htype
    simp [htype]
  · rw [h.authority] at hauthority
    cases hauthority
    obtain ⟨hrouter, hmono, hleased, hclient⟩ := h.claim hpending
    refine ⟨_, hrouter.emits_of (P := fun packet => ∀ p, reads p → Truthful client
      (authority.claim src claim.candidate msg.transactionId).book.leased (packet.within p))
      (hreplies.emits ?_) (fun p packet hreads hp => hp p hreads), hmono⟩
    rintro e₁ _ packet hemits rfl hpacket
    exact (hrouter.emits_of hemits (fun p packet hreads hp => hp p hreads)).truthful_addressAck
      hclient hleased hpacket

/-- The endpoint takes no offer, because it searches for no router. -/
theorem IsRouter.handleAddressOffer (h : IsRouter reads client config router authority e)
    (src : GdpAddress) (msg : GctlMessage) :
  (e.handleAddressOffer src msg).2 = e
  := by
  obtain heq | ⟨offer, -, hstate, -⟩ := e.handleAddressOffer_spec src msg
  · exact heq
  · exact absurd hstate (h.addressState msg.transactionId)

/-- The endpoint takes no address, because it has claimed none. -/
theorem IsRouter.handleAddressAck (h : IsRouter reads client config router authority e)
    (msg : GctlMessage) :
  (e.handleAddressAck msg).2 = e
  := by
  obtain ⟨-, heq⟩ | ⟨ack, pending, -, hpending, -⟩ := e.handleAddressAck_spec msg
  · exact heq
  · rw [h.pendingClientOffer] at hpending
    cases hpending

theorem IsRouter.handleAddressNak (h : IsRouter reads client config router authority e)
    (msg : GctlMessage) :
  IsRouter reads client config router authority (e.handleAddressNak msg).2
  := by
  obtain ⟨-, heq⟩ | ⟨nak, -, heq⟩ := e.handleAddressNak_spec msg
  · rw [heq]
    exact h
  · rw [heq]
    exact ⟨h.authority, h.authorityConfig, h.primaryAddress, by simp, rfl, h.context, h.reads_iff,
      h.unique, h.within, h.waiting⟩

/-- The endpoint still assigns addresses when it has received what is true, and takes no lease
away. -/
theorem IsRouter.handlePacket (h : IsRouter reads client config router authority e)
    {packet : GdpPacket} (htrue : Truthful client authority.book.leased packet) (now : U64) :
  ∃ authority', IsRouter reads client config router authority' (e.handlePacket packet now).2 ∧
    ∀ a c, authority.book.leased a = some c → authority'.book.leased a = some c
  := by
  rcases handlePacket_cases e packet now with hemits |
    ⟨htype, msg, e₀, e₁, hbefore, -, hmsg, hstep, hafter⟩
  · exact ⟨authority, h.emits hemits, fun _ _ => id⟩
  have h₀ := h.emits hbefore
  have hrouter : ∃ authority', IsRouter reads client config router authority' e₁ ∧
      ∀ a c, authority.book.leased a = some c → authority'.book.leased a = some c := by
    cases hstep with
    | solicit hsolicit => exact h₀.handleRouterSolicit ((htrue htype msg hmsg).1 hsolicit) msg
    | offer =>
      rw [h₀.handleAddressOffer]
      exact ⟨authority, h₀, fun _ _ => id⟩
    | claim => exact h₀.handleAddressClaim packet.header.source msg
    | ack =>
      rw [h₀.handleAddressAck]
      exact ⟨authority, h₀, fun _ _ => id⟩
    | nak => exact ⟨authority, h₀.handleAddressNak msg, fun _ _ => id⟩
  obtain ⟨authority', h₁, hleased⟩ := hrouter
  exact ⟨authority', h₁.emits hafter, hleased⟩

/-! ### Frames that arrive -/

/-- A client stays a client when it receives a frame that is true where the client reads it. -/
theorem IsClient.receiveFrame (h : IsClient reads client leased own e) (hclient : Attached client)
    (hsound : Sound client leased) {frame : GnetFrame}
    (htrue : TruthfulBytes reads client leased frame.bytes) (hreads : reads e.dlp.localPrefix)
    (now : U64) :
  IsClient reads client leased own (e.receiveFrame frame now).2
  := by
  rcases receiveFrame_cases e frame now with hemits | ⟨e₀, packet, hemits, hdecode, heq⟩
  · exact h.emits hemits
  · rw [heq]
    apply (h.emits hemits).handlePacket hclient hsound
    apply htrue _ _ packet hreads hdecode

/-- The endpoint still assigns addresses when it has received a frame that is true. -/
theorem IsRouter.receiveFrame (h : IsRouter reads client config router authority e)
    {frame : GnetFrame} (htrue : TruthfulBytes reads client authority.book.leased frame.bytes)
    (now : U64) :
  ∃ authority', IsRouter reads client config router authority' (e.receiveFrame frame now).2 ∧
    ∀ a c, authority.book.leased a = some c → authority'.book.leased a = some c
  := by
  rcases receiveFrame_cases e frame now with hemits | ⟨e₀, packet, hemits, hdecode, heq⟩
  · exact ⟨authority, h.emits hemits, fun _ _ => id⟩
  · rw [heq]
    apply (h.emits hemits).handlePacket
    apply htrue _ _ packet _ hdecode
    rw [h.context]
    exact (h.reads_iff _).mpr (.inl rfl)

/-! ### Endpoints as they are made -/

/-- What a new endpoint knows of addresses; nothing waits to be sent. -/
theorem build_spec {primary linkLocal : GdpAddress} {state : AddressState}
    {config : EndpointConfig} (h : build primary linkLocal state config = .ok e) :
  e.primaryAddress = primary ∧ e.linkLocalAddress = linkLocal ∧ e.addressState = state ∧
    e.pendingClientOffer = none ∧ e.authority = none ∧ e.dlp.localPrefix = e.contextPrefix ∧
    e.dlp.waiting = []
  := by
  rw [build, bind_eq_ok] at h
  obtain ⟨d, hd, h⟩ := h
  cases h
  rw [DlpEndpoint.new] at hd
  split at hd
  · cases hd
  cases hd
  refine ⟨rfl, rfl, rfl, rfl, rfl, ?_, rfl⟩
  dsimp only [contextPrefix]
  rw [BitVec.and_assoc, BitVec.and_self]

/-- A new endpoint that has to be assigned an address has its link-local address. -/
theorem unconfigured_spec {suffix : U64} {config : EndpointConfig}
    (h : unconfigured suffix config = .ok e) :
  e.primaryAddress = e.linkLocalAddress ∧ e.linkLocalAddress.IsLinkLocal ∧
    e.linkLocalAddress ≠ bootstrapAddress ∧ e.authority = none ∧ e.dlp.waiting = []
  := by
  rw [unconfigured, bind_eq_ok] at h
  obtain ⟨config', -, h⟩ := h
  rw [bind_eq_ok] at h
  obtain ⟨linkLocal, hmake, h⟩ := h
  obtain ⟨hprimary, hlinkLocal, -, -, hauthority, -, hwaiting⟩ := build_spec h
  obtain ⟨hlocal, hbootstrap⟩ := makeLinkLocal_spec hmake
  rw [hprimary, hlinkLocal]
  exact ⟨rfl, hlocal, hbootstrap, hauthority, hwaiting⟩

/-- A new endpoint that has to be assigned an address is a client. -/
theorem isClient_unconfigured {suffix : U64} {config : EndpointConfig}
    (h : unconfigured suffix config = .ok e) :
  IsClient reads client leased e.linkLocalAddress e
  := by
  obtain ⟨hprimary, -, -, hauthority, hwaiting⟩ := unconfigured_spec h
  refine ⟨rfl, hauthority, .inl hprimary, ?_⟩
  rw [hwaiting]
  exact fun _ => nofun

/-- A new endpoint with a static address may be made to assign addresses. -/
theorem isRouter_new {address : GdpAddress} {endpointConfig : EndpointConfig}
    (h : LinkedEndpoint.new address endpointConfig = .ok e)
    (hreads : ∀ p, reads p ↔ p = e.contextPrefix ∨
      ∀ c, client c → ¬ e.WritesLocal e.linkLocalAddress c) :
  IsRouter reads client config address (.new config) (e.enableAddressAuthority config)
  := by
  rw [LinkedEndpoint.new, bind_eq_ok] at h
  obtain ⟨config', -, h⟩ := h
  rw [bind_eq_ok] at h
  obtain ⟨linkLocal, -, h⟩ := h
  obtain ⟨hprimary, -, hstate, hpending, -, hcontext, hwaiting⟩ := build_spec h
  refine ⟨rfl, rfl, hprimary, ?_, hpending, hcontext, hreads, ?_, ?_, ?_⟩
  · intro transactionId
    rw [enableAddressAuthority, hstate]
    nofun
  · rw [AddressAuthority.book_new]
    exact ⟨nofun, nofun⟩
  · rw [AddressAuthority.book_new]
    exact ⟨nofun, nofun⟩
  · rw [enableAddressAuthority, hwaiting]
    nofun

end LinkedEndpoint

/-! ### The network -/

/-- What else can be done with an endpoint. -/
inductive EndpointOp (T : Transport) where
  | linkAttached (peerLinkLocal : GdpAddress) (peerControlWindowFlits : U32)
  | linkDetached
  | grantControlTxCredit (count : U32)
  | app (op : T.Op)
  | sendEcho (remote : GdpAddress) (transactionId : U32) (body : Bytes) (sizeClass : SizeClass)
  | takeEchoReply (transactionId : U32)
  | takeGctl

namespace EndpointOp

variable {T : Transport}

/-- The endpoint after the operation. -/
def apply (e : LinkedEndpoint T) : EndpointOp T → LinkedEndpoint T
  | linkAttached peerLinkLocal peerControlWindowFlits =>
    (e.linkAttached peerLinkLocal peerControlWindowFlits).2
  | linkDetached => e.linkDetached
  | grantControlTxCredit count => { e with dlp := e.dlp.grantControlTxCredit count }
  | app op => (e.app op).2
  | sendEcho remote transactionId body sizeClass =>
    (e.sendEcho remote transactionId body sizeClass).2
  | takeEchoReply transactionId => (e.takeEchoReply transactionId).2
  | takeGctl => e.takeGctl.2

open LinkedEndpoint in
theorem emits_apply (e : LinkedEndpoint T) (op : EndpointOp T) :
  Emits Neutral e (op.apply e)
  := by
  cases op with
  | linkAttached peerLinkLocal peerControlWindowFlits => apply emits_linkAttached
  | linkDetached => apply emits_linkDetached
  | grantControlTxCredit count =>
    exact .of_dlp (.of_subset rfl rfl (List.Subset.refl _) (List.Subset.refl _))
  | app op => apply emits_runTransport
  | sendEcho remote transactionId body sizeClass => apply emits_sendEcho
  | takeEchoReply transactionId => exact ⟨rfl, rfl, rfl, rfl, rfl, rfl, .refl e.dlp⟩
  | takeGctl => exact ⟨rfl, rfl, rfl, rfl, rfl, rfl, .refl e.dlp⟩

end EndpointOp

/-- An endpoint that assigns addresses, which is the endpoint `none`, its clients, and every frame
that has been sent. -/
structure AddressNet (T : Transport) (ι : Type*) where
  endpoint : Option ι → LinkedEndpoint T
  sent : List GnetFrame

namespace AddressNet

variable {T : Transport} {ι : Type*} [DecidableEq ι]

/-- What can happen: a client searches for a router, an endpoint is polled for a frame, and a frame
that has been sent reaches an endpoint, now or later, once or again. -/
inductive Action (T : Transport) (ι : Type*) where
  | solicitRouter (i : ι) (transactionId : U32)
  | operate (who : Option ι) (op : EndpointOp T)
  | pollTxFrame (who : Option ι)
  | deliver (who : Option ι) (n : ℕ) (now : U64)

/-- The endpoints before the first message. -/
def init (router : LinkedEndpoint T) (clients : ι → LinkedEndpoint T) : AddressNet T ι where
  endpoint who := who.elim router clients
  sent := []

/-- One endpoint changes. -/
def set (s : AddressNet T ι) (who : Option ι) (e : LinkedEndpoint T) : AddressNet T ι :=
  { s with endpoint := Function.update s.endpoint who e }

@[simp]
theorem endpoint_set_self (s : AddressNet T ι) (who : Option ι) (e : LinkedEndpoint T) :
  (s.set who e).endpoint who = e
  := Function.update_self ..

theorem endpoint_set_of_ne (s : AddressNet T ι) {who who' : Option ι} (e : LinkedEndpoint T)
    (h : who' ≠ who) :
  (s.set who e).endpoint who' = s.endpoint who'
  := Function.update_of_ne h ..

/-- An endpoint is polled. -/
def pollTxFrame (s : AddressNet T ι) (who : Option ι) : AddressNet T ι :=
  match (s.endpoint who).pollTxFrame with
  | (.ok (some frame), e) => { s.set who e with sent := s.sent ++ [frame] }
  | (_, e) => s.set who e

/-- A frame that has been sent reaches an endpoint. -/
def deliver (s : AddressNet T ι) (who : Option ι) (n : ℕ) (now : U64) : AddressNet T ι :=
  match s.sent[n]? with
  | none => s
  | some frame => s.set who ((s.endpoint who).receiveFrame frame now).2

/-- One step of the network. -/
def step (s : AddressNet T ι) : Action T ι → AddressNet T ι
  | .solicitRouter i transactionId =>
    s.set (some i) ((s.endpoint (some i)).solicitRouter transactionId).2
  | .operate who op => s.set who (op.apply (s.endpoint who))
  | .pollTxFrame who => s.pollTxFrame who
  | .deliver who n now => s.deliver who n now

/-- In the local context `p` the addresses of the clients are read as the endpoint that assigns addresses
writes them: it is its own local context, or it writes none of them in the local form. -/
def ReadsIn (s : AddressNet T ι) (p : U64) : Prop :=
  p = (s.endpoint none).contextPrefix ∨ ∀ i, ¬ (s.endpoint none).WritesLocal
    (s.endpoint none).linkLocalAddress (s.endpoint (some i)).linkLocalAddress

instance [Fintype ι] (s : AddressNet T ι) (p : U64) : Decidable (s.ReadsIn p) :=
  inferInstanceAs (Decidable (_ ∨ ∀ _, ¬ _))

/-- A client that receives a frame reads the addresses of the clients as they are written. -/
def Readable (s : AddressNet T ι) : Action T ι → Prop
  | .deliver (some i) _ _ => s.ReadsIn (s.endpoint (some i)).dlp.localPrefix
  | _ => True

instance [Fintype ι] (s : AddressNet T ι) : ∀ action, Decidable (s.Readable action)
  | .deliver (some _) _ _ => inferInstanceAs (Decidable (s.ReadsIn _))
  | .deliver none _ _ => isTrue trivial
  | .solicitRouter .. => isTrue trivial
  | .operate .. => isTrue trivial
  | .pollTxFrame .. => isTrue trivial

/-! ### What every step keeps -/

/-- The endpoints are what they were made to be, and what has been sent is true. -/
structure Inv (reads : U64 → Prop) (config : AddressAuthorityConfig) (router : GdpAddress)
    (own : ι → GdpAddress) (authority : AddressAuthority) (s : AddressNet T ι) : Prop where
  router : (s.endpoint none).IsRouter reads (· ∈ Set.range own) config router authority
  clients : ∀ i,
    (s.endpoint (some i)).IsClient reads (· ∈ Set.range own) authority.book.leased (own i)
  sent : ∀ frame ∈ s.sent,
    TruthfulBytes reads (· ∈ Set.range own) authority.book.leased frame.bytes

variable {reads : U64 → Prop} {config : AddressAuthorityConfig} {router : GdpAddress}
  {own : ι → GdpAddress} {authority : AddressAuthority} {s : AddressNet T ι}

omit [DecidableEq ι] in
/-- The contexts in which the addresses are read as they are written stay the same. -/
theorem Inv.reads_iff (h : Inv reads config router own authority s) (p : U64) :
  reads p ↔ s.ReadsIn p
  := by
  rw [h.router.reads_iff, ReadsIn, Set.forall_mem_range]
  simp only [(h.clients _).linkLocalAddress]

/-- The endpoint that assigns addresses has changed, and no lease has been taken away. -/
theorem Inv.set_router (h : Inv reads config router own authority s) {authority' : AddressAuthority}
    {e : LinkedEndpoint T} (he : e.IsRouter reads (· ∈ Set.range own) config router authority')
    (hleased : ∀ a c, authority.book.leased a = some c → authority'.book.leased a = some c) :
  Inv reads config router own authority' (s.set none e)
  := by
  constructor
  · rw [endpoint_set_self]
    exact he
  · intro i
    rw [endpoint_set_of_ne s e (Option.some_ne_none i)]
    exact (h.clients i).mono hleased
  · exact fun frame hframe => (h.sent frame hframe).mono hleased

/-- A client has changed. -/
theorem Inv.set_client (h : Inv reads config router own authority s) {i : ι} {e : LinkedEndpoint T}
    (he : e.IsClient reads (· ∈ Set.range own) authority.book.leased (own i)) :
  Inv reads config router own authority (s.set (some i) e)
  := by
  constructor
  · rw [endpoint_set_of_ne s e (Option.some_ne_none i).symm]
    exact h.router
  · intro j
    by_cases hj : j = i
    · subst hj
      rw [endpoint_set_self]
      exact he
    · rw [endpoint_set_of_ne s e (fun heq => hj (Option.some.inj heq))]
      exact h.clients j
  · exact h.sent

/-- An endpoint that only emits may be any of them. -/
theorem Inv.emits (h : Inv reads config router own authority s) {who : Option ι} {e : LinkedEndpoint T}
    (he : LinkedEndpoint.Emits Neutral (s.endpoint who) e) :
  Inv reads config router own authority (s.set who e)
  := by
  cases who with
  | none => exact h.set_router (h.router.emits he) (fun _ _ => id)
  | some i => exact h.set_client ((h.clients i).emits he)

omit [DecidableEq ι] in
/-- What waits to be sent is true. -/
theorem Inv.waiting (h : Inv reads config router own authority s) {who : Option ι} {bytes : Bytes}
    (hbytes : bytes ∈ (s.endpoint who).dlp.waiting) :
  TruthfulBytes reads (· ∈ Set.range own) authority.book.leased bytes
  := by
  cases who with
  | none => exact h.router.waiting bytes hbytes
  | some i => exact (h.clients i).waiting bytes hbytes

theorem Inv.pollTxFrame (h : Inv reads config router own authority s) (who : Option ι) :
  Inv reads config router own authority (s.pollTxFrame who)
  := by
  obtain ⟨hemits, hframe⟩ := (s.endpoint who).emits_pollTxFrame
  have hset := h.emits hemits
  have hrequest := h.emits (s.endpoint who).emits_maybeRequestLinkCredit
  rw [AddressNet.pollTxFrame]
  split
  · next frame e hpoll =>
    rw [hpoll] at hset hframe
    refine ⟨hset.router, hset.clients, ?_⟩
    intro frame' hframe'
    rcases List.mem_append.mp hframe' with hold | hnew
    · exact h.sent frame' hold
    · have hwaiting := hframe frame rfl
      rw [← endpoint_set_self s who (s.endpoint who).maybeRequestLinkCredit.2] at hwaiting
      rw [List.mem_singleton.mp hnew]
      exact hrequest.waiting hwaiting
  · next hpoll =>
    rw [hpoll] at hset
    exact hset

omit [DecidableEq ι] in
/-- What is leased is not link-local, if the prefix contains no link-local address. -/
theorem Inv.sound (h : Inv reads config router own authority s)
    (hfar : ∀ a, config.Contains a → ¬ a.IsLinkLocal) :
  LinkedEndpoint.Sound (· ∈ Set.range own) authority.book.leased
  := by
  intro a c hleased
  obtain ⟨hclient, hcontains, -⟩ := h.router.within.leased c a hleased
  exact ⟨hfar a hcontains, hclient⟩

/-- Every step keeps the endpoints what they are. -/
theorem Inv.step (h : Inv reads config router own authority s)
    (hown : LinkedEndpoint.Attached (· ∈ Set.range own))
    (hfar : ∀ a, config.Contains a → ¬ a.IsLinkLocal) {action : Action T ι}
    (hreadable : s.Readable action) :
  ∃ authority', Inv reads config router own authority' (s.step action)
  := by
  cases action with
  | solicitRouter i transactionId =>
    exact ⟨authority, h.set_client ((h.clients i).solicitRouter ⟨i, rfl⟩ transactionId)⟩
  | operate who op => exact ⟨authority, h.emits (op.emits_apply (s.endpoint who))⟩
  | pollTxFrame who => exact ⟨authority, h.pollTxFrame who⟩
  | deliver who n now =>
    rw [AddressNet.step, deliver]
    split
    · exact ⟨authority, h⟩
    next frame hframe =>
    have htrue := h.sent frame (List.mem_of_getElem? hframe)
    cases who with
    | none =>
      obtain ⟨authority', hrouter, hleased⟩ := h.router.receiveFrame htrue now
      exact ⟨authority', h.set_router hrouter hleased⟩
    | some i =>
      have hreads := (h.reads_iff _).mpr hreadable
      exact ⟨authority, h.set_client
        ((h.clients i).receiveFrame hown (h.sound hfar) htrue hreads now)⟩

/-- A client that has been assigned an address holds the lease of it, no other client has the
address, and it is not the address of the endpoint that assigns addresses. -/
structure Agreed (s : AddressNet T ι) : Prop where
  leased : ∃ authority, (s.endpoint none).authority = some authority ∧ ∀ i,
    (s.endpoint (some i)).primaryAddress ≠ (s.endpoint (some i)).linkLocalAddress →
      authority.leases[(s.endpoint (some i)).primaryAddress.value]?
        = some (s.endpoint (some i)).linkLocalAddress
  unique : ∀ i j,
    (s.endpoint (some i)).primaryAddress = (s.endpoint (some j)).primaryAddress → i = j
  router : ∀ i,
    (s.endpoint (some i)).primaryAddress ≠ (s.endpoint (some i)).linkLocalAddress →
      (s.endpoint (some i)).primaryAddress ≠ (s.endpoint none).primaryAddress

omit [DecidableEq ι] in
theorem Inv.agreed (h : Inv reads config router own authority s)
    (hown : LinkedEndpoint.Attached (· ∈ Set.range own)) (hinjective : Function.Injective own)
    (hfar : ∀ a, config.Contains a → ¬ a.IsLinkLocal) :
  s.Agreed
  := by
  have hleased : ∀ i,
      (s.endpoint (some i)).primaryAddress ≠ (s.endpoint (some i)).linkLocalAddress →
      authority.book.leased (s.endpoint (some i)).primaryAddress = some (own i) := by
    intro i hne
    rw [(h.clients i).linkLocalAddress] at hne
    exact (h.clients i).primaryAddress.resolve_left hne
  have hlinkLocal : ∀ i, (own i).IsLinkLocal := fun i => (hown (own i) ⟨i, rfl⟩).1
  constructor
  · refine ⟨authority, h.router.authority, ?_⟩
    intro i hne
    rw [(h.clients i).linkLocalAddress]
    exact hleased i hne
  · intro i j heq
    rcases (h.clients i).primaryAddress with hi | hi
    · rcases (h.clients j).primaryAddress with hj | hj
      · apply hinjective
        rw [← hi, ← hj, heq]
      · rw [← heq, hi] at hj
        exact absurd (hlinkLocal i) (h.sound hfar _ _ hj).1
    · rcases (h.clients j).primaryAddress with hj | hj
      · rw [heq, hj] at hi
        exact absurd (hlinkLocal j) (h.sound hfar _ _ hi).1
      · rw [heq, hj] at hi
        exact hinjective (Option.some.inj hi).symm
  · intro i hne
    rw [h.router.primaryAddress]
    exact (h.router.within.leased _ _ (hleased i hne)).2.2

variable {r : LinkedEndpoint T} {clients : ι → LinkedEndpoint T}

/-- Whatever frames are lost, late, repeated or out of order, and whatever transaction numbers the
clients use, the leases are agreed and unique in every state that is reached, if every client that
receives a frame reads the addresses of the clients as they are written. -/
theorem leases_agreed {endpointConfig : EndpointConfig}
    (hrouter : LinkedEndpoint.new router endpointConfig = .ok r)
    (hfar : ∀ a, config.Contains a → ¬ a.IsLinkLocal)
    (hclients : ∀ i, ∃ suffix clientConfig,
      LinkedEndpoint.unconfigured suffix clientConfig = .ok (clients i))
    (hdistinct : ∀ i j, (clients i).linkLocalAddress = (clients j).linkLocalAddress → i = j)
    (actions : List (Action T ι))
    (hreadable : Machine.Along step Readable (init (r.enableAddressAuthority config) clients) actions) :
  Agreed (Machine.run step (init (r.enableAddressAuthority config) clients) actions)
  := by
  let own := fun i => (clients i).linkLocalAddress
  have hown : LinkedEndpoint.Attached (· ∈ Set.range own) := by
    rintro _ ⟨i, rfl⟩
    obtain ⟨suffix, clientConfig, hclient⟩ := hclients i
    obtain ⟨-, hlinkLocal, hbootstrap, -⟩ := LinkedEndpoint.unconfigured_spec hclient
    exact ⟨hlinkLocal, hbootstrap⟩
  have hinit : ∃ authority, Inv
      (init (r.enableAddressAuthority config) clients).ReadsIn config router own authority
      (init (r.enableAddressAuthority config) clients) := by
    refine ⟨.new config, LinkedEndpoint.isRouter_new hrouter ?_, ?_, by simp [init]⟩
    · intro p
      rw [ReadsIn, Set.forall_mem_range]
      rfl
    · intro i
      obtain ⟨suffix, clientConfig, hclient⟩ := hclients i
      exact LinkedEndpoint.isClient_unconfigured hclient
  obtain ⟨authority, hinv⟩ := Machine.invariant_along
    (P := fun s => ∃ authority, Inv
      (init (r.enableAddressAuthority config) clients).ReadsIn config router own authority s)
    (fun s action h hreadable => h.elim (fun _ h => h.step hown hfar hreadable)) hinit hreadable
  exact hinv.agreed hown hdistinct hfar

/-- The endpoints are attached, and the `CREDIT` of each is sent. -/
def attach : List (Action .silent Bool) :=
  [.operate none (.linkAttached ⟨0xfe80000000000002#64⟩ 500#32),
    .operate (some true) (.linkAttached ⟨0xfe80000000000001#64⟩ 500#32),
    .operate (some false) (.linkAttached ⟨0xfe80000000000001#64⟩ 500#32),
    .pollTxFrame none, .pollTxFrame (some true), .pollTxFrame (some false)]

/-- Two clients search under one transaction number.  The second search takes the place of the
first offer, so that the claim of the first client is refused and the second is assigned an
address. -/
theorem leases_agreed_collision :
  ∃ config authority, ∃ r a b : LinkedEndpoint .silent,
    LinkedEndpoint.new ⟨0x2001000000000001#64⟩ config = .ok r ∧
    LinkedEndpoint.unconfigured 7#64 config = .ok a ∧
    LinkedEndpoint.unconfigured 2#64 config = .ok b ∧
    let s := Machine.run step
      (init (r.enableAddressAuthority authority) (fun i : Bool => if i then a else b))
      (attach ++ [.solicitRouter true 7#32, .pollTxFrame (some true), .deliver none 3 0#64,
        .solicitRouter false 7#32, .pollTxFrame (some false), .deliver none 4 0#64,
        .pollTxFrame none, .pollTxFrame none, .pollTxFrame none, .pollTxFrame none,
        .deliver (some true) 6 0#64, .deliver (some false) 8 0#64,
        .pollTxFrame (some true), .pollTxFrame (some false),
        .deliver none 9 0#64, .deliver none 10 0#64, .pollTxFrame none, .pollTxFrame none,
        .deliver (some true) 11 0#64, .deliver (some false) 12 0#64])
    (s.endpoint (some true)).addressState = .rejected 1#8 1#32 ∧
      (s.endpoint (some false)).primaryAddress = ⟨0x2001000000000003#64⟩ ∧ s.Agreed
  := by
  refine ⟨⟨64#32, .two, 8#8, none, false, 1#32, 32#32, ⟨true⟩⟩,
    ⟨0x2001000000000000#64, 48#8, 60#32, 0#8, 0#32⟩, _, _, _, rfl, rfl, rfl,
    and_assoc.mp ⟨?_, ?_⟩⟩
  · decide +kernel
  · refine @leases_agreed .silent Bool _ _ ⟨0x2001000000000001#64⟩ _ _
      ⟨64#32, .two, 8#8, none, false, 1#32, 32#32, ⟨true⟩⟩ rfl ?_ ?_ ?_ _ ?_
    · intro a hcontains hlinkLocal
      have hhigh := congrArg (fun x : U64 => x.getLsbD 63) hcontains
      have hhigh' := congrArg (fun x : U64 => x.getLsbD 63) hlinkLocal
      simp [AddressAuthorityConfig.hostMask, linkLocalSuffixMask, linkLocalPrefix]
        at hhigh hhigh'
      rw [hhigh] at hhigh'
      cases hhigh'
    · rintro (_ | _)
      · exact ⟨2#64, ⟨64#32, .two, 8#8, none, false, 1#32, 32#32, ⟨true⟩⟩, rfl⟩
      · exact ⟨7#64, ⟨64#32, .two, 8#8, none, false, 1#32, 32#32, ⟨true⟩⟩, rfl⟩
    · decide +kernel
    · decide +kernel

/-- The local form is preferred in the link-local context.  The client with the suffix 7 has been assigned
the address with the suffix 2, and with it another local context, where it takes what is for the
client with the link-local suffix 2 to be for itself: both end with the address that is leased to the
other client. -/
theorem not_agreed_local_form :
  ∃ config authority, ∃ r a b : LinkedEndpoint .silent,
    LinkedEndpoint.new ⟨0x2001000000000001#64⟩ config = .ok r ∧
    LinkedEndpoint.unconfigured 7#64 config = .ok a ∧
    LinkedEndpoint.unconfigured 2#64 config = .ok b ∧
    authority = ⟨0x2001000000000000#64, 48#8, 60#32, 0#8, 0#32⟩ ∧
    a.linkLocalAddress ≠ b.linkLocalAddress ∧
    let s := Machine.run step
      (init (r.enableAddressAuthority authority) (fun i : Bool => if i then a else b))
      (attach ++ [.solicitRouter true 1#32, .pollTxFrame (some true), .deliver none 3 0#64,
        .pollTxFrame none, .pollTxFrame none, .deliver (some true) 5 0#64, .pollTxFrame (some true),
        .deliver none 6 0#64, .pollTxFrame none, .deliver (some true) 7 0#64,
        .solicitRouter true 7#32, .solicitRouter false 7#32, .pollTxFrame (some false),
        .deliver none 8 0#64, .pollTxFrame none, .pollTxFrame none, .deliver (some false) 10 0#64,
        .deliver (some true) 10 0#64, .pollTxFrame (some false), .deliver none 11 0#64,
        .pollTxFrame none, .deliver (some false) 12 0#64, .deliver (some true) 12 0#64])
    (s.endpoint (some true)).primaryAddress = ⟨0x2001000000000003#64⟩ ∧
      (s.endpoint (some false)).primaryAddress = ⟨0x2001000000000003#64⟩ ∧
      (s.endpoint none).authority.bind (fun a => a.leases[0x2001000000000003#64]?)
        = some b.linkLocalAddress
  := by
  refine ⟨⟨64#32, .two, 8#8, some 0xfe80000000000000#64, true, 1#32, 32#32, ⟨true⟩⟩,
    _, _, _, _, rfl, rfl, rfl, rfl, ?_, ?_⟩
  · decide +kernel
  · decide +kernel

end AddressNet

end SmolGnet
