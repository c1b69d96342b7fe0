import SmolGnet.Dlp.Credit
import SmolGnet.Endpoint.Moves

/-!
# How an endpoint uses its link

Whatever an endpoint does, it does to its end of the link by the operations of a
`DlpEndpoint`.  `Uses ok d d'` says that the link `d'` is the link `d` after some
operations, each of which meets the condition `ok` in the state it is applied in.  A
property of links that operations of this kind keep is therefore kept by whatever the
endpoint does.
-/

namespace SmolGnet

namespace LinkedEndpoint

variable {T : Transport}

/-- The operation neither takes the link up or down nor brings credit for data. -/
def Plain : DlpEndpoint.Op → Prop
  | .setLinkUp _ => False
  | .grantDataTxCredit _ => False
  | _ => True

/-- The link `d'` is the link `d` after operations that meet the condition. -/
def Uses (ok : DlpEndpoint → DlpEndpoint.Op → Prop) (d d' : DlpEndpoint) : Prop :=
  ∃ ops, Machine.Along DlpEndpoint.step ok d ops ∧ d' = Machine.run DlpEndpoint.step d ops

variable {ok : DlpEndpoint → DlpEndpoint.Op → Prop} {d d' d'' : DlpEndpoint}

theorem Uses.refl (d : DlpEndpoint) :
  Uses ok d d
  := ⟨[], trivial, rfl⟩

theorem Uses.of_step {op : DlpEndpoint.Op} (hop : ok d op) (h : d' = d.step op) :
  Uses ok d d'
  := ⟨[op], ⟨hop, trivial⟩, h⟩

theorem Uses.trans (h : Uses ok d d') (h' : Uses ok d' d'') :
  Uses ok d d''
  := by
  obtain ⟨ops, halong, rfl⟩ := h
  obtain ⟨ops', halong', rfl⟩ := h'
  use ops ++ ops'
  rw [Machine.along_append, Machine.run_append]
  exact ⟨⟨halong, halong'⟩, rfl⟩

/-- What every operation that meets the condition keeps is kept. -/
theorem Uses.invariant (h : Uses ok d d') {P : DlpEndpoint → Prop}
    (hstep : ∀ d op, P d → ok d op → P (d.step op)) (hp : P d) :
  P d'
  := by
  obtain ⟨ops, halong, rfl⟩ := h
  apply Machine.invariant_along hstep hp halong

variable {e e' : LinkedEndpoint T}

/-- Two steps use the link if each of them does. -/
theorem uses_andThen {α β : Type} {x : Except Error α × LinkedEndpoint T}
    {f : α → LinkedEndpoint T → Except Error β × LinkedEndpoint T} (hx : Uses ok d x.2.dlp)
    (hf : ∀ a e, Uses ok e.dlp (f a e).2.dlp) :
  Uses ok d (andThen x f).2.dlp
  := by
  refine andThen_invariant (P := fun e : LinkedEndpoint T => Uses ok d e.dlp) hx ?_
  intro a e _ h
  apply h.trans (hf a e)

section

variable (hok : ∀ d op, Plain op → ok d op)
include hok

theorem uses_sendGctlFrom {source remote : GdpAddress} {msg : GctlMessage}
    {sizeClass : Option SizeClass} (h : e.sendGctlFrom source remote msg sizeClass = .ok e') :
  Uses ok e.dlp e'.dlp
  := by
  rw [sendGctlFrom, bind_eq_ok] at h
  obtain ⟨packet, -, h⟩ := h
  rw [bind_eq_ok] at h
  obtain ⟨⟨n, dlp⟩, hqueue, h⟩ := h
  cases h
  apply Uses.of_step (hok e.dlp (.queuePacketOn .control Vcid.control packet) trivial)
  rw [DlpEndpoint.step, ← DlpEndpoint.queueControlPacket, hqueue]
  rfl

theorem uses_trySendGctlFrom (e : LinkedEndpoint T) (source remote : GdpAddress)
    (msg : GctlMessage) (sizeClass : Option SizeClass) :
  Uses ok e.dlp (e.trySendGctlFrom source remote msg sizeClass).2.dlp
  := by
  rw [trySendGctlFrom]
  split
  · apply Uses.refl
  · next h => apply uses_sendGctlFrom hok h

theorem uses_sendGts (e : LinkedEndpoint T) (x : GtsSend) :
  Uses ok e.dlp (e.sendGts x).2.dlp
  := by
  rw [sendGts]
  split
  · apply Uses.refl
  · next packet _ =>
    apply Uses.of_step (hok e.dlp (.queueDataPacket packet) trivial)
    rw [DlpEndpoint.step]
    split
    · next h => rw [h]
    · next h => rw [h]

theorem uses_sendCredit (e : LinkedEndpoint T) (peer : GdpAddress) (transactionId grant : U32) :
  Uses ok e.dlp (e.sendCredit peer transactionId grant).2.dlp
  := by
  rw [sendCredit]
  split
  · apply Uses.refl
  · next e' h =>
    have hsend := uses_sendGctlFrom hok h
    split
    · apply hsend
    · next dlp hnote =>
      apply hsend.trans
      apply Uses.of_step (hok e'.dlp (.noteDataCreditGranted grant) trivial)
      rw [DlpEndpoint.step, hnote]
      rfl

theorem Move.uses (h : Move e e') :
  Uses ok e.dlp e'.dlp
  := by
  cases h with
  | other h =>
    rw [h.dlp]
    apply Uses.refl
  | control hmsg h => apply uses_sendGctlFrom hok h
  | data x => apply uses_sendGts hok e x
  | credit hpeer hgrant => apply uses_sendCredit hok

/-- Moves use the link. -/
theorem Moves.uses (h : Moves e e') :
  Uses ok e.dlp e'.dlp
  := by
  induction h with
  | refl => apply Uses.refl
  | tail _ hlast ih => apply ih.trans (hlast.uses hok)

theorem Handles.uses (h : Handles e e') :
  Uses ok e.dlp e'.dlp
  := by
  rcases h with h | ⟨localPrefix, h⟩
  · exact h.uses hok
  · have hcontext : Uses ok e.dlp (e.inContext localPrefix).dlp :=
      .of_step (hok e.dlp (.setLocalPrefix localPrefix) trivial) rfl
    exact hcontext.trans (h.uses hok)

theorem uses_sendCreditRequest (e : LinkedEndpoint T) (peer : GdpAddress) (requested : U32) :
  Uses ok e.dlp (e.sendCreditRequest peer requested).2.dlp
  := by
  rw [sendCreditRequest]
  split
  · apply Uses.refl
  · next e' h => apply uses_sendGctlFrom hok h

theorem uses_maybeRequestLinkCredit (e : LinkedEndpoint T) :
  Uses ok e.dlp e.maybeRequestLinkCredit.2.dlp
  := by
  rw [maybeRequestLinkCredit]
  split
  · apply Uses.refl
  split
  · apply Uses.refl
  · apply uses_sendCreditRequest hok

theorem uses_retryManagedLinkCreditRequest (e : LinkedEndpoint T) :
  Uses ok e.dlp e.retryManagedLinkCreditRequest.dlp
  := by
  rw [retryManagedLinkCreditRequest]
  dsimp only
  split
  · apply Uses.refl
  split
  · apply Uses.refl
  · apply uses_sendCreditRequest hok { e with creditRequestPending := false }

theorem uses_pollTxFlit (e : LinkedEndpoint T) :
  Uses ok e.dlp e.pollTxFlit.2.dlp
  := by
  rw [pollTxFlit]
  apply uses_andThen (uses_maybeRequestLinkCredit hok e)
  intro _ e'
  apply Uses.of_step (hok e'.dlp .pollTx trivial) rfl

theorem uses_pollTxFrame (e : LinkedEndpoint T) :
  Uses ok e.dlp e.pollTxFrame.2.dlp
  := by
  rw [pollTxFrame]
  apply uses_andThen (uses_maybeRequestLinkCredit hok e)
  intro _ e'
  split
  · apply Uses.refl
  · next frame dlp hpoll =>
    apply Uses.of_step (hok e'.dlp .pollTxFrame trivial)
    rw [DlpEndpoint.step, hpoll]
    rfl

/-- A packet is handled; if it grants credit, the grant has to meet the condition. -/
theorem uses_handlePacket (e : LinkedEndpoint T) (packet : GdpPacket) (now : U64)
    (hgrant : ∀ count, creditOf packet = some count → ok e.dlp (.grantDataTxCredit count)) :
  Uses ok e.dlp (e.handlePacket packet now).2.dlp
  := by
  cases hcredit : creditOf packet with
  | none => exact (handles_handlePacket e now hcredit).uses hok
  | some count =>
    by_cases haccepts : e.acceptsDestination packet.header.destination = true
    · have hgranted : Uses ok e.dlp (e.granted count).dlp := .of_step (hgrant count hcredit) rfl
      exact hgranted.trans ((moves_handlePacket_of_credit e now hcredit haccepts).uses hok)
    · rw [handlePacket, handleGdp, if_pos (by simp [haccepts])]
      apply Uses.refl

theorem uses_bindManagedLinkPeer (e : LinkedEndpoint T) (peer : GdpAddress) (window : U32) :
  Uses ok e.dlp (e.bindManagedLinkPeer peer window).2.dlp
  := by
  rw [bindManagedLinkPeer]
  split
  · apply Uses.refl
  · have hgrant : Uses ok e.dlp (e.dlp.grantControlTxCredit window) :=
      .of_step (hok e.dlp (.grantControlTxCredit window) trivial) rfl
    exact hgrant.trans ((moves_advertiseLinkCredit { e with
      peerLinkLocal := some peer
      creditRequestPending := false
      dlp := e.dlp.grantControlTxCredit window } true).uses hok)

end

end LinkedEndpoint

end SmolGnet
