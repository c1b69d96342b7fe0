import SmolGnet.Endpoint.FlitLink

/-!
# The balance of link credit

Whatever two endpoints do that are attached to each other, the credit that an end has given and
not seen used is the credit in the `CREDIT` messages on their way to the other end, the credit
the other end holds, and the data flits in flight from there.
-/

namespace SmolGnet

namespace FlitLink

variable {T : Transport}

section Step

variable {context : Option U64} {s : FlitLink T} {grants : List U32}
  {queued yielded : LinkTraffic → List GdpPacket} {d : DlpEndpoint}

/-! ### Transmission and reception -/

theorem Inv.pollTxBurst (h : Inv context s) (room : ℕ) :
  Inv context (s.pollTxBurst room)
  := by
  obtain ⟨queued, yielded, queued', yielded', hforward, hback⟩ := h
  have hlink := hforward.link.pollTxBurst room
  have hsame := s.near.dlp.sameReceiver_pollTxBurst room
  have hback' := hback.sameReceiver hsame
  rw [DlpLink.pollTxBurst, show (s.forward _ _ _).a = s.near.dlp from rfl] at hlink
  rw [FlitLink.pollTxBurst]
  generalize s.near.dlp.pollTxBurst room = burst at hlink hsame hback' ⊢
  obtain ⟨result, dlp⟩ := burst
  obtain ⟨_, _, _, _, _, rfl⟩ := hsame
  refine ⟨queued, yielded, queued', yielded', ?_, ?_⟩
  · cases result with
    | ok flits => exact { hforward with link := hlink }
    | error err => exact { hforward with link := hlink }
  · cases result with
    | ok flits => exact { hback' with }
    | error err => exact { hback' with }

/-- Polling for one flit is asking for credit and polling the link layer with a buffer of one
flit. -/
theorem Inv.pollTxFlit (h : Inv context s) :
  Inv context s.pollTxFlit
  := by
  have hasked := h.maybeRequestLinkCredit
  rw [FlitLink.pollTxFlit, LinkedEndpoint.pollTxFlit]
  generalize s.near.maybeRequestLinkCredit = asked at hasked ⊢
  obtain ⟨result, e⟩ := asked
  cases result with
  | error err => exact hasked
  | ok _ =>
    have hpolled := Inv.pollTxBurst (s := { s with near := e }) hasked 1
    have hup : e.dlp.linkUp := by
      obtain ⟨_, _, _, _, hforward, -⟩ := hasked
      exact hforward.link.a_up
    have hone := DlpLink.pollTx_eq (s := ({ s with near := e } : FlitLink T).forward [] (fun _ => [])
      (fun _ => [])) hup
    rw [FlitLink.pollTxBurst] at hpolled
    rw [DlpLink.pollTx, DlpLink.pollTxBurst] at hone
    dsimp only [forward, andThen] at hone hpolled ⊢
    generalize e.dlp.pollTx = one at hone ⊢
    generalize e.dlp.pollTxBurst 1 = burst at hone hpolled
    obtain ⟨result, dlp⟩ := one
    obtain ⟨result', dlp'⟩ := burst
    cases result with
    | ok flit =>
      cases result' with
      | ok flits =>
        obtain ⟨rfl, -, hflits, -⟩ := DlpLink.mk.inj hone
        dsimp only at hpolled hflits ⊢
        rw [hflits]
        exact hpolled
      | error err =>
        obtain ⟨rfl, -, hflits, -⟩ := DlpLink.mk.inj hone
        dsimp only at hpolled hflits ⊢
        rw [hflits]
        exact hpolled
    | error err =>
      cases result' with
      | ok flits =>
        obtain ⟨rfl, -, hflits, -⟩ := DlpLink.mk.inj hone
        dsimp only at hpolled hflits ⊢
        rw [← hflits] at hpolled
        exact hpolled
      | error err =>
        obtain ⟨rfl, -⟩ := DlpLink.mk.inj hone
        exact hpolled

/-- The next packet on its way is the one that arrives. -/
theorem Direction.underWay_cons {packet : GdpPacket} (s' : FlitLink T) {grants' : List U32}
    (h : Direction context s grants queued yielded)
    (h' : (s'.forward grants' queued (DlpLink.append yielded .control packet)).Inv
      s'.far.dlp.localPrefix) :
  underWay queued yielded
    = packet :: underWay queued (DlpLink.append yielded .control packet)
  := by
  have hbefore : yielded .control ++ underWay queued yielded = queued .control :=
    h.link.underWay_eq
  have hafter : DlpLink.append yielded .control packet .control
      ++ underWay queued (DlpLink.append yielded .control packet) = queued .control :=
    h'.underWay_eq
  rw [DlpLink.append_self, List.append_assoc] at hafter
  exact List.append_cancel_left (hbefore.trans hafter.symm)

/-- A flit arrives at the near end: it is kept, or it completes a packet without credit, or it
completes a `CREDIT` for the near end. -/
theorem Inv.receive (h : Inv context s) {flit : Flit} {arriving : List Flit}
    (harriving : s.arriving = flit :: arriving) :
  ∃ result dlp, s.near.dlp.receive flit = (.ok result, dlp) ∧
    match result.bind creditOf with
    | none => Inv context { s.withDlp dlp with arriving }
    | some count => (∀ packet ∈ result, packet.header.destination = s.near.linkLocalAddress) ∧
      Inv context { s.withDlp (dlp.grantDataTxCredit count) with arriving }
  := by
  obtain ⟨queued, yielded, queued', yielded', hforward, hback⟩ := h
  have hlink := hback.link.deliver
  have hsame := s.near.dlp.sameSender_receive flit
  have hcontextual : (s.near.dlp.receive flit).2.localPrefix = s.near.dlp.localPrefix := by
    obtain ⟨_, _, _, _, hd⟩ := hsame
    rw [hd]
  have hforward' := hforward.sameSender hsame
  rw [DlpLink.deliver, show (s.swap.forward (credits (underWay queued yielded)) queued'
    yielded').flits = _ from harriving] at hlink
  dsimp only at hlink
  rw [show (s.swap.forward _ _ _).b = s.near.dlp from rfl] at hlink
  generalize s.near.dlp.receive flit = received at hlink hsame hcontextual hforward'
  obtain ⟨result, dlp⟩ := received
  cases result with
  | error err => exact absurd hlink.no_errors (by simp)
  | ok result =>
    refine ⟨result, dlp, rfl, ?_⟩
    rw [show s.swap.far.dlp.localPrefix = dlp.localPrefix from hcontextual.symm] at hlink
    cases result with
    | none => exact ⟨queued, yielded, queued', yielded', { hforward' with }, { hback with link := hlink }⟩
    | some packet =>
      dsimp only at hlink
      rw [Option.bind_some]
      cases ht : flit.vcid.traffic with
      | data =>
        rw [ht] at hlink
        have hplain : creditOf packet = none := by
          apply hback.plain
          obtain ⟨frames, hdata⟩ := hlink.data
          have hlogs : DlpLink.append yielded' .data packet .data ++ frames.map Prod.snd
            = queued' .data := hdata.logs
          rw [← hlogs, DlpLink.append_self]
          simp
        have hunder : underWay queued' (DlpLink.append yielded' .data packet)
            = underWay queued' yielded' := by
          rw [underWay, DlpLink.append_of_ne _ _ (by simp)]
          rfl
        rw [hplain]
        refine ⟨queued, yielded, queued', DlpLink.append yielded' .data packet, ?_, ?_⟩
        · rw [hunder]
          exact { hforward' with }
        · refine { hback with link := hlink, addressed := ?_ }
          rw [hunder]
          exact hback.addressed
      | control =>
        rw [ht] at hlink
        have hcons := hback.underWay_cons
          ({ s.withDlp dlp with arriving } : FlitLink T).swap hlink
        have hmem : packet ∈ underWay queued' yielded' := by
          rw [hcons]
          exact List.mem_cons_self
        have hback' : Direction context ({ s.withDlp dlp with arriving } : FlitLink T).swap
            (credits (underWay queued yielded)) queued'
            (DlpLink.append yielded' .control packet) := by
          refine { hback with link := hlink, addressed := ?_ }
          intro packet' hpacket'
          apply hback.addressed
          rw [hcons]
          exact List.mem_cons_of_mem _ hpacket'
        cases hcredit : creditOf packet with
        | none =>
          have hcredits : credits (underWay queued' (DlpLink.append yielded' .control packet))
              = credits (underWay queued' yielded') := by
            rw [hcons, credits, credits, List.filterMap_cons, hcredit]
          refine ⟨queued, yielded, queued', DlpLink.append yielded' .control packet, ?_, hback'⟩
          rw [hcredits]
          exact { hforward' with }
        | some count =>
          have hcredits : credits (underWay queued' yielded')
              = count :: credits (underWay queued' (DlpLink.append yielded' .control packet)) := by
            rw [hcons, credits, credits, List.filterMap_cons, hcredit]
          have hgranted := hforward'.link.grantData 0
          rw [hcredits] at hgranted
          constructor
          · rintro _ ⟨⟩
            apply (hback.addressed packet hmem _).1
            rw [hcredit]
            simp
          · refine ⟨queued, yielded, queued', DlpLink.append yielded' .control packet, ?_, ?_⟩
            · exact { hforward' with link := hgranted }
            · exact { hback' with link := hback'.link.of_same (.refl _) ⟨_, _, _, _, _, rfl⟩ }

theorem Inv.receiveFlit (h : Inv context s) (hr : Readable context s) {now : U64}
    (hr' : Readable context (s.receiveFlit now)) :
  Inv context (s.receiveFlit now)
  := by
  rw [FlitLink.receiveFlit] at hr' ⊢
  split
  · exact h
  next flit arriving harriving =>
  rw [harriving] at hr'
  dsimp only at hr'
  obtain ⟨result, dlp, hreceive, hmatch⟩ := h.receive harriving
  have hreadable : Readable context { s.withDlp dlp with arriving } := hr
  rw [LinkedEndpoint.receiveFlit, hreceive] at hr' ⊢
  cases result with
  | none => exact hmatch
  | some packet =>
    dsimp only at hr' ⊢
    rw [Option.bind_some] at hmatch
    cases hcredit : creditOf packet with
    | none =>
      rw [hcredit] at hmatch
      exact (upholds context { s.withDlp dlp with arriving }).handlePacket_of_plain hmatch hreadable hr'
        hcredit
    | some count =>
      rw [hcredit] at hmatch
      obtain ⟨hdestination, hinv⟩ := hmatch
      exact (upholds context { s.withDlp dlp with arriving }).handlePacket_of_credit hreadable hinv now
        hcredit (hdestination packet rfl)

/-- Whatever happens at the near end keeps the invariant. -/
theorem Inv.actNear (h : Inv context s) (hr : Readable context s) {action : LocalAction T}
    (haction : action.NoCredit) (hr' : Readable context (s.actNear action)) :
  Inv context (s.actNear action)
  := by
  cases action with
  | app op => exact (upholds context s).app h hr op
  | sendGctl remote msg sizeClass => exact (upholds context s).sendGctl h hr remote haction sizeClass
  | solicitRouter transactionId => exact (upholds context s).solicitRouter h hr transactionId
  | enableAddressAuthority config => exact (upholds context s).enableAddressAuthority h config
  | takeEchoReply transactionId => exact (upholds context s).takeEchoReply h transactionId
  | takeGctl => exact (upholds context s).takeGctl h
  | grantControlTxCredit count =>
    obtain ⟨queued, yielded, queued', yielded', hforward, hback⟩ := h
    exact ⟨queued, yielded, queued', yielded', { hforward with link := { hforward.link with } },
      hback.sameReceiver ⟨_, _, _, _, _, rfl⟩⟩
  | pollTxFlit => exact h.pollTxFlit
  | pollTxBurst room => exact h.pollTxBurst room
  | receiveFlit now => exact h.receiveFlit hr hr'

theorem inv_step (s : FlitLink T) (action : Action T) (h : Inv context s)
    (hok : action.NoCredit ∧ Readable context s ∧ Readable context (s.step action)) :
  Inv context (s.step action)
  := by
  obtain ⟨haction, hr, hr'⟩ := hok
  cases action with
  | near action => exact h.actNear hr haction hr'
  | far action => exact (h.swap.actNear hr.swap haction hr'.swap).swap

end Step

/-! ### The two ends are attached -/

/-- What is known of the link of an endpoint that has just been made. -/
theorem fresh_dlp {config : EndpointConfig} {e : LinkedEndpoint T} (h : e.Fresh config) :
  ∃ dlpConfig, DlpEndpoint.new dlpConfig = .ok e.dlp ∧ dlpConfig.gdp = config.gdpWire ∧
    dlpConfig.vcMode = config.vcMode ∧ e.config = config ∧
    e.dlp.localPrefix = e.contextPrefix ∧ e.dlp.controlWindowFlits ≠ 0#32
  := by
  have hbuild : ∀ {primary linkLocal state}, LinkedEndpoint.build primary linkLocal state config = .ok e →
      ∃ dlpConfig, DlpEndpoint.new dlpConfig = .ok e.dlp ∧ dlpConfig.gdp = config.gdpWire ∧
        dlpConfig.vcMode = config.vcMode ∧ e.config = config ∧
        e.dlp.localPrefix = e.contextPrefix ∧ e.dlp.controlWindowFlits ≠ 0#32 := by
    intro primary linkLocal state hbuild
    rw [LinkedEndpoint.build, bind_eq_ok] at hbuild
    obtain ⟨dlp, hdlp, hbuild⟩ := hbuild
    cases hbuild
    refine ⟨_, hdlp, rfl, rfl, rfl, ?_⟩
    rw [DlpEndpoint.new] at hdlp
    split at hdlp
    · cases hdlp
    next hne =>
    cases hdlp
    constructor
    · dsimp only [LinkedEndpoint.contextPrefix]
      rw [BitVec.and_assoc, BitVec.and_self]
    · exact fun hzero => hne (.inr hzero)
  have hvalid : ∀ {config' : EndpointConfig}, config.validate = .ok config' → config' = config := by
    intro config' hvalidate
    rw [EndpointConfig.validate] at hvalidate
    split at hvalidate
    · cases hvalidate
    · exact (Except.ok.inj hvalidate).symm
  rcases h with ⟨address, hnew⟩ | ⟨suffix, hnew⟩
  · rw [LinkedEndpoint.new, bind_eq_ok] at hnew
    obtain ⟨config', hvalidate, hnew⟩ := hnew
    obtain rfl := hvalid hvalidate
    dsimp only at hnew
    rw [bind_eq_ok] at hnew
    obtain ⟨linkLocal, -, hnew⟩ := hnew
    exact hbuild hnew
  · rw [LinkedEndpoint.unconfigured, bind_eq_ok] at hnew
    obtain ⟨config', hvalidate, hnew⟩ := hnew
    obtain rfl := hvalid hvalidate
    rw [bind_eq_ok] at hnew
    obtain ⟨linkLocal, -, hnew⟩ := hnew
    exact hbuild hnew

/-- An end that knows the other one and has not yet given any credit. -/
def bound (e : LinkedEndpoint T) (peer : GdpAddress) (window : U32) : LinkedEndpoint T :=
  { e with
    peerLinkLocal := some peer
    dlp := (e.dlp.setLinkUp true).grantControlTxCredit window }

theorem moves_linkAttached (e : LinkedEndpoint T) (peer : GdpAddress) {window : U32}
    (hwindow : window ≠ 0#32) :
  LinkedEndpoint.Moves (bound e peer window) (e.linkAttached peer window).2
  := by
  rw [LinkedEndpoint.linkAttached, if_neg hwindow]
  apply LinkedEndpoint.moves_advertiseLinkCredit

theorem inv_attached {context : Option U64} {configA configB : EndpointConfig}
    {a b : LinkedEndpoint T} (ha : a.Fresh configA) (hb : b.Fresh configB)
    (hmode : configA.vcMode = configB.vcMode) (hwire : configA.gdpWire = configB.gdpWire)
    (hr : Readable context (attached a b)) :
  Inv context (attached a b)
  := by
  obtain ⟨dlpA, hdlpA, hgdpA, hmodeA, -, hcontextualA, hwindowA⟩ := fresh_dlp ha
  obtain ⟨dlpB, hdlpB, hgdpB, hmodeB, -, hcontextualB, hwindowB⟩ := fresh_dlp hb
  have hlink := DlpLink.inv_init hdlpA hdlpB (hgdpA.trans (hwire.trans hgdpB.symm))
    (hmodeA.trans (hmode.trans hmodeB.symm))
  have hlink' := DlpLink.inv_init hdlpB hdlpA (hgdpB.trans (hwire.symm.trans hgdpA.symm))
    (hmodeB.trans (hmode.symm.trans hmodeA.symm))
  have hmovesA := moves_linkAttached a b.linkLocalAddress hwindowB
  have hmovesB := moves_linkAttached b a.linkLocalAddress hwindowA
  obtain ⟨hconfigA, hlocalA⟩ := LinkedEndpoint.Moves.settings hmovesA
  obtain ⟨hconfigB, hlocalB⟩ := LinkedEndpoint.Moves.settings hmovesB
  let s₀ : FlitLink T :=
    { near := bound a b.linkLocalAddress b.dlp.controlWindowFlits
      far := bound b a.linkLocalAddress a.dlp.controlWindowFlits
      sent := []
      arriving := [] }
  have hr₁ : Readable context { s₀ with near := (attached a b).near } := by
    apply Readable.swap (s := FlitLink.swap { s₀ with near := (attached a b).near })
    exact (Readable.of_settings (s := (attached a b).swap) hconfigB hlocalB).mp hr.swap
  have hr₀ : Readable context s₀ := (Readable.of_settings hconfigA hlocalA).mp hr₁
  have hinv₀ : Inv context s₀ := by
    refine ⟨fun _ => [], fun _ => [], fun _ => [], fun _ => [], ?_, ?_⟩
    · exact ⟨{ hlink with a_up := rfl, b_up := rfl }, rfl, hcontextualA, (fun _ hp => nomatch hp),
        fun _ hp => nomatch hp⟩
    · exact ⟨{ hlink' with a_up := rfl, b_up := rfl }, rfl, hcontextualB, (fun _ hp => nomatch hp),
        fun _ hp => nomatch hp⟩
  have hinv₁ := hinv₀.moves hr₀ hmovesA
  exact (hinv₁.swap.moves hr₁.swap hmovesB).swap

/-! ### The balance -/

/-- The control packets on their way from the near end: those that the far end would put
together from what it holds, the flits in flight and the flits that are still queued. -/
def controlUnderWay (s : FlitLink T) : List GdpPacket :=
  (s.far.dlp.receiveBurst (s.sent.filter (fun flit => flit.vcid.traffic = .control)
    ++ queueRest s.near.dlp.controlTxQueue) []).2.1

/-- The credit that the near end has given and not seen used is the credit in `CREDIT` packets on
their way to the far end, the credit of the far end, and the data flits in flight from there. -/
def Balanced (s : FlitLink T) : Prop :=
  s.near.dlp.dataCreditOutstanding.toNat
    = ((credits s.controlUnderWay).map BitVec.toNat).sum + s.far.dlp.dataTxCredit.toNat
      + (s.arriving.filter (fun flit => flit.vcid.traffic = .data)).length

instance (s : FlitLink T) : Decidable s.Balanced :=
  inferInstanceAs (Decidable (_ = _))

/-- The link layer of the near end accepts the next flit. -/
def Accepts (s : FlitLink T) : Prop :=
  ∀ flit ∈ s.arriving.head?, ∀ err, (s.near.dlp.receive flit).1 ≠ .error err

/-- The flits that are left yield the packets on their way. -/
theorem receiveBurst_of_carrying {e : DlpEndpoint} {left : List Flit}
    {queued yielded : List GdpPacket} {frames : List (TxFrame × GdpPacket)} {n : ℕ}
    (hup : e.linkUp) (hsync : ∀ vcid, e.desynchronized vcid = false)
    (h : Carrying e.cfg e.localPrefix e.vcMode .control e.rx left queued yielded frames n)
    (packets : List GdpPacket) :
  (e.receiveBurst left packets).2.1 = packets ++ frames.map Prod.snd
  := by
  induction left generalizing e yielded frames n packets with
  | nil =>
    have hnil : frames.map Prod.snd = [] := by
      have hall := h.yielded_eq
      rw [← h.logs] at hall
      exact List.self_eq_append_right.mp hall
    rw [DlpEndpoint.receiveBurst, hnil, List.append_nil]
  | cons flit left ih =>
    have ht : flit.vcid.traffic = .control := h.traffic_of_mem_left List.mem_cons_self
    have hlt : flit.vcid.val < e.vcMode.count := by
      obtain ⟨frame, packet, rest, rfl, -, rfl, -⟩ := h.head
      exact (h.channel _ List.mem_cons_self).2
    have hreceive : e.receive flit = e.receiveSegment flit := by
      rw [DlpEndpoint.receive, if_neg (by simp [hup]), if_neg (by omega),
        if_neg (by simp [hsync]), ht]
    rw [DlpEndpoint.receiveBurst, hreceive]
    rcases h.arrive with ⟨segment, hsegment, hnext⟩ | ⟨packet, frames', hsegment, hnext⟩
    · rw [hsegment]
      exact ih (e := e.setRx flit.vcid (some segment)) hup hsync hnext packets
    · have hcons : frames.map Prod.snd = packet :: frames'.map Prod.snd := by
        have hlogs := hnext.logs
        rw [← h.logs, List.append_assoc] at hlogs
        exact (List.append_cancel_left hlogs).symm
      rw [hsegment, hcons]
      dsimp only [DlpEndpoint.releaseSegment]
      have hrest := ih (e := e.setRx flit.vcid none) hup hsync hnext (packets ++ [packet])
      rw [List.append_assoc] at hrest
      generalize (e.setRx flit.vcid none).receiveBurst left (packets ++ [packet]) = received
        at hrest ⊢
      obtain ⟨result, packets', e'⟩ := received
      cases result with
      | ok n => exact hrest
      | error err => exact hrest

section

variable {context : Option U64} {s : FlitLink T}

theorem Direction.controlUnderWay_eq {grants : List U32}
    {queued yielded : LinkTraffic → List GdpPacket}
    (h : Direction context s grants queued yielded) :
  s.controlUnderWay = underWay queued yielded
  := by
  obtain ⟨frames, n, hcontrol⟩ := h.link.control
  have hburst := receiveBurst_of_carrying h.link.b_up h.link.synchronized hcontrol []
  have hlogs : yielded .control ++ frames.map Prod.snd = queued .control := hcontrol.logs
  rw [underWay, ← hlogs, List.drop_left]
  exact hburst

theorem Inv.balanced (h : Inv context s) :
  s.Balanced
  := by
  obtain ⟨queued, yielded, queued', yielded', hforward, hback⟩ := h
  rw [Balanced, hforward.controlUnderWay_eq]
  exact hback.link.credit

theorem Inv.accepts (h : Inv context s) :
  s.Accepts
  := by
  intro flit hflit err
  cases harriving : s.arriving with
  | nil =>
    rw [harriving] at hflit
    cases hflit
  | cons flit' arriving =>
    rw [harriving] at hflit
    cases hflit
    obtain ⟨result, dlp, hreceive, -⟩ := h.receive harriving
    rw [hreceive]
    nofun

end

end FlitLink

namespace LinkedEndpoint

variable {T : Transport}

/-- Credit within what can be given is noted once its `CREDIT` has been queued. -/
theorem sendCredit_of_error {e : LinkedEndpoint T} {peer : GdpAddress}
    {transactionId grant : U32} {err : Error} (hgrant : grant ≤ e.dlp.grantableDataCredit)
    (h : (e.sendCredit peer transactionId grant).1 = .error err) :
  (e.sendCredit peer transactionId grant).2.dlp = e.dlp
  := by
  rw [sendCredit] at h ⊢
  split
  · rfl
  next e' hsend =>
  rw [hsend] at h
  obtain ⟨packet, -, n, hqueue, -⟩ := sendGctlFrom_eq_ok hsend
  obtain ⟨_, _, _, _, _, hd⟩ := DlpEndpoint.sameReceiver_queuePacketOn hqueue
  have hnote : ¬ e'.dlp.grantableDataCredit < grant := by
    rw [hd]
    exact BitVec.not_lt.mpr hgrant
  have hok : e'.dlp.noteDataCreditGranted grant = .ok _ := if_neg hnote
  dsimp only at h
  rw [hok] at h
  cases h

/-- When giving credit fails, no `CREDIT` has been queued. -/
def NotesCredit (e : LinkedEndpoint T) : Prop :=
  (∀ force err, (e.advertiseLinkCredit force).1 = .error err →
    (e.advertiseLinkCredit force).2.dlp = e.dlp) ∧
  ∀ src msg err, (e.handleCreditRequest src msg).1 = .error err →
    (e.handleCreditRequest src msg).2.dlp = e.dlp

theorem notesCredit (e : LinkedEndpoint T) :
  e.NotesCredit
  := by
  constructor
  · intro force err h
    rw [advertiseLinkCredit] at h ⊢
    split
    · rfl
    next peer hpeer =>
    rw [hpeer] at h
    dsimp only at h ⊢
    split
    · rfl
    next hzero =>
    split
    · rfl
    next hforce =>
    rw [if_neg hzero, if_neg hforce] at h
    exact sendCredit_of_error (e := e.useTransaction) (BitVec.le_refl _) h
  · intro src msg err h
    rw [handleCreditRequest] at h ⊢
    split
    · rfl
    next request hparse =>
    rw [hparse] at h
    dsimp only at h ⊢
    have hgrant := min_le_left_U32 e.dlp.grantableDataCredit request.requestedFlits
    generalize (if request.requestedFlits = 0#32 then e.dlp.grantableDataCredit
      else if e.dlp.grantableDataCredit < request.requestedFlits then e.dlp.grantableDataCredit
      else request.requestedFlits) = grant at hgrant h ⊢
    split
    · next hpos =>
      rw [if_pos hpos] at h
      exact sendCredit_of_error hgrant h
    · rfl

end LinkedEndpoint

namespace FlitLink

variable {T : Transport}

/-- Link credit is conserved: for two endpoints with the same channels and the same wire format
that are attached to each other, in every run in which the applications send no `CREDIT` and
every `CREDIT` is read as it was written, the credit of both directions is balanced, the link
layer of either end accepts every flit, and every `CREDIT` that is queued is noted. -/
theorem credit_conserved {configA configB : EndpointConfig} {a b : LinkedEndpoint T}
    (ha : a.Fresh configA) (hb : b.Fresh configB) (hmode : configA.vcMode = configB.vcMode)
    (hwire : configA.gdpWire = configB.gdpWire) (as : List (Action T))
    (has : ∀ action ∈ as, action.NoCredit) {context : Option U64}
    (hreadable : ∀ bs, bs <+: as → Readable context (Machine.run step (attached a b) bs)) :
  let s := Machine.run step (attached a b) as
  s.Balanced ∧ s.swap.Balanced ∧ s.Accepts ∧ s.swap.Accepts ∧
    ∀ e : LinkedEndpoint T, e.NotesCredit
  := by
  intro s
  have hinv : Inv context s := by
    apply Machine.invariant_along inv_step
    · exact inv_attached ha hb hmode hwire (hreadable [] List.nil_prefix)
    · exact (Machine.along_of_forall _ has).and (Machine.along_of_forall_isPrefix hreadable)
  exact ⟨hinv.balanced, hinv.swap.balanced, hinv.accepts, hinv.swap.accepts,
    LinkedEndpoint.notesCredit⟩

/-- The far end has used some of its credit, and a second packet is on its way. -/
theorem credit_conserved_partly_used :
  let x : GtsSend := ⟨⟨7#64⟩, .empty, []⟩
  let as : List (Action .direct) :=
    [.near (.pollTxBurst 20)] ++ List.replicate 13 (.far (.receiveFlit 0#64))
      ++ [.far (.app x), .far (.app x), .far (.pollTxBurst 32)]
      ++ List.replicate 20 (.near (.receiveFlit 0#64))
  ∃ a b : LinkedEndpoint .direct,
    a.Fresh ⟨32#32, .four, 8#8, none, false, 8#32, 32#32, ⟨true⟩⟩ ∧
    b.Fresh ⟨32#32, .four, 8#8, none, false, 8#32, 32#32, ⟨true⟩⟩ ∧
    (Machine.run step (attached a b) as).far.dlp.dataTxCredit = 22#32 ∧
    (Machine.run step (attached a b) as).arriving ≠ [] ∧
    (Machine.run step (attached a b) as).Balanced
  := by
  intro x as
  have has : ∀ action ∈ as, action.NoCredit := by
    simp [as, Action.NoCredit, LocalAction.NoCredit]
  refine ⟨_, _, .inl ⟨⟨7#64⟩, rfl⟩, .inl ⟨⟨9#64⟩, rfl⟩, and_assoc.mp ⟨?_, ?_⟩⟩
  · decide +kernel
  · apply (@credit_conserved .direct ⟨32#32, .four, 8#8, none, false, 8#32, 32#32, ⟨true⟩⟩
      ⟨32#32, .four, 8#8, none, false, 8#32, 32#32, ⟨true⟩⟩ _ _ (.inl ⟨⟨7#64⟩, rfl⟩)
      (.inl ⟨⟨9#64⟩, rfl⟩) rfl rfl as has none _).1
    intro bs hbs
    revert bs
    simp only [← List.mem_inits]
    decide +kernel

/-- Credit is lost when the ends do not understand each other: when they use a different number
of channels, when they use different wire formats, and when a `CREDIT` is written in the local
form and read in another local context. -/
theorem credit_unbalanced :
  (∃ (a b : LinkedEndpoint .direct) (as : List (Action .direct)),
    a.Fresh ⟨32#32, .two, 8#8, none, false, 8#32, 32#32, ⟨true⟩⟩ ∧
    b.Fresh ⟨32#32, .four, 8#8, none, false, 8#32, 32#32, ⟨true⟩⟩ ∧
    (∀ action ∈ as, action.NoCredit) ∧ ¬ (Machine.run step (attached a b) as).Balanced) ∧
  (∃ (a b : LinkedEndpoint .direct) (as : List (Action .direct)),
    a.Fresh ⟨32#32, .two, 8#8, none, false, 8#32, 32#32, ⟨true⟩⟩ ∧
    b.Fresh ⟨32#32, .two, 8#8, none, false, 8#32, 32#32, ⟨false⟩⟩ ∧
    (∀ action ∈ as, action.NoCredit) ∧ ¬ (Machine.run step (attached a b) as).Balanced) ∧
  ∃ (a b : LinkedEndpoint .direct) (as : List (Action .direct)),
    a.Fresh ⟨32#32, .two, 8#8, some linkLocalPrefix, true, 8#32, 32#32, ⟨true⟩⟩ ∧
    b.Fresh ⟨32#32, .two, 8#8, none, false, 8#32, 32#32, ⟨true⟩⟩ ∧
    (∀ action ∈ as, action.NoCredit) ∧ ¬ (Machine.run step (attached a b) as).Balanced
  := by
  let x : GtsSend := ⟨⟨7#64⟩, .empty, []⟩
  let credit : List (Action .direct) :=
    .near (.pollTxBurst 20) :: List.replicate 13 (.far (.receiveFlit 0#64))
  have hcredit : ∀ action ∈ credit, action.NoCredit := by
    simp [credit, Action.NoCredit, LocalAction.NoCredit]
  refine ⟨⟨_, _, credit ++ [.far (.app x), .far (.app x), .far (.pollTxBurst 32)]
      ++ List.replicate 19 (.near (.receiveFlit 0#64)), .inl ⟨⟨7#64⟩, rfl⟩, .inl ⟨⟨9#64⟩, rfl⟩, ?_, ?_⟩,
    ⟨_, _, credit, .inl ⟨⟨7#64⟩, rfl⟩, .inl ⟨⟨9#64⟩, rfl⟩, hcredit, ?_⟩,
    ⟨_, _, credit, .inl ⟨⟨7#64⟩, rfl⟩, .inl ⟨⟨0x2001000000000009#64⟩, rfl⟩, hcredit, ?_⟩⟩
  · simp [credit, Action.NoCredit, LocalAction.NoCredit]
  · decide +kernel
  · decide +kernel
  · decide +kernel

end FlitLink

end SmolGnet
