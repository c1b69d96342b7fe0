import SmolGnet.Endpoint.Moves

/-!
# Invariants of the end of a link

Two endpoints may be attached by a link of flits or by a link of frames.  What is in flight differs, and
so does what is known of it; but what an endpoint does with its end of the link is the same.  `Upholds`
says of an invariant of an end that it survives each of the moves of the endpoint; then it survives
whatever the endpoint does on its own, and what it does with a packet that arrives.
-/

namespace SmolGnet

namespace LinkedEndpoint

variable {T : Transport} {e e' : LinkedEndpoint T}

/-! ### The settings of an endpoint -/

theorem Move.settings (hmove : Move e e') :
  e'.config = e.config ∧ e'.linkLocalAddress = e.linkLocalAddress
  := by
  cases hmove with
  | other hsame => exact ⟨hsame.config, hsame.linkLocalAddress⟩
  | control hmsg hsend =>
    obtain ⟨_, -, _, -, heq⟩ := sendGctlFrom_eq_ok hsend
    rw [heq]
    exact ⟨rfl, rfl⟩
  | data x =>
    rcases e.sendGts_spec x with heq | ⟨_, -, -, heq⟩
    · rw [heq]
      exact ⟨rfl, rfl⟩
    · rw [heq]
      exact ⟨rfl, rfl⟩
  | credit hpeer hgrant =>
    rw [sendCredit]
    split
    · exact ⟨rfl, rfl⟩
    next e₁ hsend =>
    obtain ⟨_, -, _, -, heq⟩ := sendGctlFrom_eq_ok hsend
    split
    · rw [heq]
      exact ⟨rfl, rfl⟩
    · rw [heq]
      exact ⟨rfl, rfl⟩

theorem Moves.settings (hmoves : Moves e e') :
  e'.config = e.config ∧ e'.linkLocalAddress = e.linkLocalAddress
  := by
  apply hmoves.invariant (P := fun e' => e'.config = e.config ∧
    e'.linkLocalAddress = e.linkLocalAddress) _ ⟨rfl, rfl⟩
  rintro e₁ e₂ ⟨hconfig, hlocal⟩ hmove
  obtain ⟨hconfig', hlocal'⟩ := hmove.settings
  exact ⟨hconfig'.trans hconfig, hlocal'.trans hlocal⟩

/-! ### Invariants -/

/-- Where `ok` holds of the settings of an endpoint, each of its moves keeps the invariant `I`.  Neither
depends on more than the settings and the end of the link. -/
structure Upholds (ok I : LinkedEndpoint T → Prop) : Prop where
  settings : ∀ {e e' : LinkedEndpoint T}, I e → e'.config = e.config →
    e'.linkLocalAddress = e.linkLocalAddress → e'.peerLinkLocal = e.peerLinkLocal →
    e'.dlp = e.dlp → I e'
  readable : ∀ {e e' : LinkedEndpoint T}, e'.config = e.config →
    e'.linkLocalAddress = e.linkLocalAddress → (ok e' ↔ ok e)
  control : ∀ {e e' : LinkedEndpoint T} {source remote : GdpAddress} {msg : GctlMessage}
    {sizeClass : Option SizeClass}, I e → msg.messageType ≠ .credit →
    e.sendGctlFrom source remote msg sizeClass = .ok e' → I e'
  data : ∀ {e : LinkedEndpoint T} (x : GtsSend), I e → I (e.sendGts x).2
  credit : ∀ {e : LinkedEndpoint T} {peer : GdpAddress} {transactionId grant : U32}, I e → ok e →
    (∀ p ∈ e.peerLinkLocal, peer = p) → grant ≤ e.dlp.grantableDataCredit →
    I (e.sendCredit peer transactionId grant).2
  inContext : ∀ {e : LinkedEndpoint T} {p : U64}, I e → ok e → ok (e.inContext p) →
    I (e.inContext p)

namespace Upholds

variable {ok I : LinkedEndpoint T → Prop} (h : Upholds ok I)

include h

theorem move (hi : I e) (hok : ok e) (hmove : Move e e') :
  I e'
  := by
  cases hmove with
  | other hsame =>
    exact h.settings hi hsame.config hsame.linkLocalAddress hsame.peerLinkLocal hsame.dlp
  | control hmsg hsend => exact h.control hi hmsg hsend
  | data x => exact h.data x hi
  | credit hpeer hgrant => exact h.credit hi hok hpeer hgrant

theorem moves (hi : I e) (hok : ok e) (hmoves : Moves e e') :
  I e'
  := by
  have hboth : I e' ∧ ok e' := by
    apply hmoves.invariant (P := fun e => I e ∧ ok e) _ ⟨hi, hok⟩
    rintro e₁ e₂ ⟨hi₁, hok₁⟩ hmove
    obtain ⟨hconfig, hlocal⟩ := hmove.settings
    exact ⟨h.move hi₁ hok₁ hmove, (h.readable hconfig hlocal).mpr hok₁⟩
  exact hboth.1

theorem handles (hi : I e) (hok : ok e) (hok' : ok e') (hhandles : Handles e e') :
  I e'
  := by
  rcases hhandles with hmoves | ⟨p, hmoves⟩
  · exact h.moves hi hok hmoves
  · obtain ⟨hconfig, hlocal⟩ := hmoves.settings
    have hcontext := (h.readable hconfig hlocal).mp hok'
    exact h.moves (h.inContext hi hok hcontext) hcontext hmoves

/-- The endpoint asks for credit. -/
theorem maybeRequestLinkCredit (hi : I e) :
  I e.maybeRequestLinkCredit.2
  := by
  rw [LinkedEndpoint.maybeRequestLinkCredit]
  split
  · exact hi
  split
  · exact hi
  rw [sendCreditRequest]
  have hused : I e.useTransaction := h.settings hi rfl rfl rfl rfl
  split
  · exact hused
  next e₁ hsend =>
  have hsent : I e₁ := by
    apply h.control hused _ hsend
    intro hcredit
    cases hcredit
  exact h.settings hsent rfl rfl rfl rfl

/-! ### What the application does -/

theorem app (hi : I e) (hok : ok e) (op : T.Op) :
  I (e.app op).2
  := h.moves hi hok (moves_runTransport e _)

theorem sendGctl (hi : I e) (hok : ok e) (remote : GdpAddress) {msg : GctlMessage}
    (hmsg : msg.messageType ≠ .credit) (sizeClass : SizeClass) :
  I (e.sendGctl remote msg sizeClass).2
  := h.moves hi hok (moves_trySendGctlFrom e _ remote hmsg _)

theorem solicitRouter (hi : I e) (hok : ok e) (transactionId : U32) :
  I (e.solicitRouter transactionId).2
  := h.moves hi hok (e.moves_solicitRouter transactionId)

theorem enableAddressAuthority (hi : I e) (config : AddressAuthorityConfig) :
  I (e.enableAddressAuthority config)
  := h.settings hi rfl rfl rfl rfl

theorem takeEchoReply (hi : I e) (transactionId : U32) :
  I (e.takeEchoReply transactionId).2
  := h.settings hi rfl rfl rfl rfl

theorem takeGctl (hi : I e) :
  I e.takeGctl.2
  := h.settings hi rfl rfl rfl rfl

/-! ### Packets that arrive -/

/-- A packet that brings no credit. -/
theorem handlePacket_of_plain (hi : I e) (hok : ok e) {packet : GdpPacket} {now : U64}
    (hok' : ok (e.handlePacket packet now).2) (hcredit : creditOf packet = none) :
  I (e.handlePacket packet now).2
  := h.handles hi hok hok' (handles_handlePacket e now hcredit)

/-- A packet that brings credit, which the link already has. -/
theorem handlePacket_of_credit {packet : GdpPacket} {count : U32} (hok : ok e)
    (hi : I { e with dlp := e.dlp.grantDataTxCredit count }) (now : U64)
    (hcredit : creditOf packet = some count)
    (hdestination : packet.header.destination = e.linkLocalAddress) :
  I (e.handlePacket packet now).2
  := by
  have hgranted : I (e.granted count) := h.settings hi rfl rfl rfl rfl
  have hsame : ok (e.granted count) ↔ ok e := h.readable rfl rfl
  apply h.moves hgranted (hsame.mpr hok)
  apply moves_handlePacket_of_credit e now hcredit
  rw [acceptsDestination, hdestination]
  simp

end Upholds

end LinkedEndpoint

end SmolGnet
