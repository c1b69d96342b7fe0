import SmolGnet.Endpoint.Asking
import SmolGnet.Endpoint.FrameBalance

/-!
# Where a link of frames stalls

An end of a link of frames that has data to send and no credit asks for some.  Its request is on the
way until it is answered, because no data frame follows it: the end has no credit for one.  So when
the request arrives, all that was given to the end has been used, and the other end can give credit
again.  For this reason an end that waits for credit does not wait in vain.

An end whose credit is not 0 asks for nothing, even if the credit is not enough for its next frame.
This is where the link stalls, and only there.
-/

namespace SmolGnet

namespace FrameLink

variable {T : Transport} {context : Option U64} {s : FrameLink T} {e : LinkedEndpoint T}

/-! ### Waiting for credit -/

/-- The frame is a `CREDIT_REQUEST` for the end with the given address, as it is read there. -/
def Asks (context : Option U64) (cfg : GdpWireConfig) (destination : GdpAddress)
    (frame : GnetFrame) : Prop :=
  ∃ packet, frame.Carries cfg packet ∧ LinkedEndpoint.AsksCredit packet ∧
    Reaches context destination packet

/-- A `CREDIT` is on its way to the near end. -/
def CreditComing (s : FrameLink T) : Prop :=
  ∃ frame ∈ s.swap.outgoing, frame.creditIn s.near.dlp.cfg ≠ none

/-- A request of the near end is on its way, and no data frame follows it. -/
def RequestGoing (context : Option U64) (s : FrameLink T) : Prop :=
  ∃ before request after, s.outgoing = before ++ request :: after ∧
    Asks context s.near.dlp.cfg s.far.linkLocalAddress request ∧
    ∀ frame ∈ after, frame.traffic = .control

/-- If the near end waits for credit, then it has none, and its request is on the way, or an answer. -/
def Waits (context : Option U64) (s : FrameLink T) : Prop :=
  s.near.creditRequestPending = true → s.near.dlp.dataTxCredit = 0#32 ∧
    (s.CreditComing ∨ s.RequestGoing context)

/-- Both ends wait for an answer only. -/
def Answered (context : Option U64) (s : FrameLink T) : Prop :=
  Waits context s ∧ Waits context s.swap

variable {packets : List GdpPacket}

theorem outgoing_queues (hqueues : LinkedEndpoint.Queues packets s.near e) :
  outgoing { s with near := e }
    = s.outgoing ++ packets.map (fun packet => (s.near.dlp.frameOn Vcid.control packet).whole)
  := by
  rw [outgoing, outgoing, hqueues.queue, List.map_append, List.append_assoc, List.map_map]
  rfl

/-- Control packets that are queued change nothing for an end that waits. -/
theorem Waits.queues (h : Waits context s) (hqueues : LinkedEndpoint.Queues packets s.near e) :
  Waits context { s with near := e }
  := by
  intro hpending
  obtain ⟨hzero, hcoming⟩ := h (hqueues.creditRequestPending.symm.trans hpending)
  refine ⟨hqueues.dataTxCredit.trans hzero, ?_⟩
  rcases hcoming with ⟨frame, hframe, hcredit⟩ | ⟨before, request, after, heq, hasks, hafter⟩
  · refine .inl ⟨frame, hframe, ?_⟩
    change frame.creditIn e.dlp.cfg ≠ none
    rw [hqueues.cfg]
    exact hcredit
  · refine .inr ⟨before, request, after ++ packets.map
      (fun packet => (s.near.dlp.frameOn Vcid.control packet).whole), ?_, ?_, ?_⟩
    · rw [outgoing_queues hqueues, heq]
      simp
    · change Asks context e.dlp.cfg s.far.linkLocalAddress request
      rw [hqueues.cfg]
      exact hasks
    · rw [List.forall_mem_append, List.forall_mem_map]
      exact ⟨hafter, fun _ _ => rfl⟩

/-- Nor do those that the other end queues. -/
theorem Waits.queues_far (h : Waits context s.swap)
    (hqueues : LinkedEndpoint.Queues packets s.near e) :
  Waits context (FrameLink.swap { s with near := e })
  := by
  intro hpending
  obtain ⟨hzero, hcoming⟩ := h hpending
  refine ⟨hzero, ?_⟩
  rcases hcoming with ⟨frame, hframe, hcredit⟩ | ⟨before, request, after, heq, hasks, hafter⟩
  · refine .inl ⟨frame, ?_, hcredit⟩
    change frame ∈ outgoing { s with near := e }
    rw [outgoing_queues hqueues]
    exact List.mem_append_left _ hframe
  · refine .inr ⟨before, request, after, heq, ?_, hafter⟩
    change Asks context s.far.dlp.cfg e.linkLocalAddress request
    rw [hqueues.linkLocalAddress]
    exact hasks

theorem Answered.queues (h : Answered context s)
    (hqueues : LinkedEndpoint.Queues packets s.near e) :
  Answered context { s with near := e }
  := ⟨h.1.queues hqueues, h.2.queues_far hqueues⟩

theorem Answered.appends (h : Answered context s) (happends : LinkedEndpoint.Appends s.near e) :
  Answered context { s with near := e }
  := by
  obtain ⟨packets, hsends⟩ := happends
  exact h.queues hsends.toQueues

theorem Answered.swap (h : Answered context s) :
  Answered context s.swap
  := ⟨h.2, h.1⟩

/-- The near end asks for credit if it has data to send and no credit. -/
theorem Answered.maybeRequestLinkCredit (h : Answered context s) (hbalanced : Balanced context s)
    (hr : Readable context s) :
  Answered context { s with near := s.near.maybeRequestLinkCredit.2 }
  := by
  rcases LinkedEndpoint.maybeRequestLinkCredit_cases hbalanced.1.up hbalanced.1.peer with
    ⟨-, hnone⟩ | ⟨transactionId, requested, packet, hzero, hholds, hasked⟩
  · rw [hnone]
    exact h
  rw [hasked]
  have hsent : LinkedEndpoint.Queues [packet] s.near (s.near.useTransaction.queued packet) :=
    { (LinkedEndpoint.sends_queued (e := s.near) hholds.canonical hholds.packetType).toQueues with }
  have hqueued := h.queues hsent
  constructor
  · intro
    refine ⟨hzero, .inr ⟨s.outgoing, (s.near.dlp.frameOn Vcid.control packet).whole, [], ?_, ?_, ?_⟩⟩
    · exact outgoing_queues hsent
    · exact ⟨packet, carries_frameOn s.near.dlp Vcid.control hholds.canonical, hholds.asksCredit,
        hbalanced.1.reaches hr hholds⟩
    · simp
  · exact hqueued.2

/-! ### Transmission -/

/-- What is known stays known where the queues only move on. -/
theorem Answered.of_outgoing {s' : FrameLink T} (h : Answered context s)
    (hfar : s'.far = s.far) (harriving : s'.arriving = s.arriving)
    (houtgoing : s'.outgoing = s.outgoing)
    (hpending : s'.near.creditRequestPending = s.near.creditRequestPending)
    (hcredit : s'.near.dlp.dataTxCredit = s.near.dlp.dataTxCredit)
    (hcfg : s'.near.dlp.cfg = s.near.dlp.cfg)
    (hlocal : s'.near.linkLocalAddress = s.near.linkLocalAddress) :
  Answered context s'
  := by
  have hback : s'.swap.outgoing = s.swap.outgoing := by
    rw [outgoing, outgoing]
    change s'.arriving ++ s'.far.dlp.controlTxQueue.map _ = s.arriving ++ _
    rw [hfar, harriving]
    rfl
  have hback' : s'.swap.swap.outgoing = s.swap.swap.outgoing := houtgoing
  obtain ⟨hnear, hfar'⟩ := h
  constructor
  · rw [Waits, CreditComing, RequestGoing, hpending, hcredit, hcfg, hfar, hback, houtgoing]
    exact hnear
  · rw [Waits, CreditComing, RequestGoing, hback, hback']
    change s'.far.creditRequestPending = true → s'.far.dlp.dataTxCredit = 0#32 ∧
      ((∃ frame ∈ s.swap.swap.outgoing, frame.creditIn s'.far.dlp.cfg ≠ none) ∨
        ∃ before request after, s.swap.outgoing = before ++ request :: after ∧
          Asks context s'.far.dlp.cfg s'.near.linkLocalAddress request ∧
            ∀ frame ∈ after, frame.traffic = .control)
    rw [hfar, hlocal]
    exact hfar'

theorem Transmits.flitLen_pos {cfg : GdpWireConfig} {mode : VcMode} {destination : GdpAddress}
    {frame : GnetFrame} (h : Transmits context cfg mode destination frame) :
  0 < frame.flitLen
  := by
  obtain ⟨packet, hcarries, -⟩ := h.carries
  have hlen : 0 < frame.bytes.length := by
    rw [hcarries.bytes_eq, GdpPacket.length_wire, GdpHeader.headerLen_eq]
    omega
  rw [GnetFrame.flitLen]
  omega

/-- A control frame that is sent stays on its way. -/
theorem Answered.sendControl (h : Answered context s) {front : TxFrame} {rest : List TxFrame}
    (hqueue : s.near.dlp.controlTxQueue = front :: rest) (controlTxCredit : U32) :
  Answered context { s.withDlp { s.near.dlp with controlTxQueue := rest, controlTxCredit } with
    sent := s.sent ++ [front.whole] }
  := by
  refine h.of_outgoing rfl rfl ?_ rfl rfl rfl rfl
  rw [outgoing, outgoing, hqueue, List.map_cons, List.append_assoc]
  rfl

/-- A data frame is sent by an end that has credit, so that it does not wait. -/
theorem Answered.sendData (h : Answered context s) (hbalanced : Balanced context s)
    {front : TxFrame} {rest : List TxFrame} (hqueue : s.near.dlp.dataTxQueue = front :: rest)
    (hle : front.flitLen ≤ s.near.dlp.dataTxCredit.toNat) (dataTxCredit : U32) :
  Answered context { s.withDlp { s.near.dlp with dataTxQueue := rest, dataTxCredit } with
    sent := s.sent ++ [front.whole] }
  := by
  have hfront : front ∈ s.near.dlp.dataTxQueue := by
    rw [hqueue]
    exact List.mem_cons_self
  have hpos : 0 < front.flitLen := (hbalanced.1.transmits front.whole
    (List.mem_append_right s.outgoing (List.mem_map_of_mem hfront))).flitLen_pos
  obtain ⟨hnear, hfar⟩ := h
  constructor
  · intro hpending
    have hzero := (hnear hpending).1
    rw [hzero] at hle
    exact absurd hle (Nat.not_le.mpr hpos)
  · intro hpending
    obtain ⟨hzero, hcoming⟩ := hfar hpending
    refine ⟨hzero, ?_⟩
    rcases hcoming with ⟨frame, hframe, hcredit⟩ | hrequest
    · refine .inl ⟨frame, ?_, hcredit⟩
      change frame ∈ s.sent ++ [front.whole] ++ s.near.dlp.controlTxQueue.map TxFrame.whole
      rcases List.mem_append.mp hframe with hframe | hframe
      · exact List.mem_append_left _ (List.mem_append_left _ hframe)
      · exact List.mem_append_right _ hframe
    · exact .inr hrequest

theorem Answered.pollTxFrame (h : Answered context s) (hbalanced : Balanced context s)
    (hr : Readable context s) :
  Answered context s.pollTxFrame
  := by
  have hasked := h.maybeRequestLinkCredit hbalanced hr
  have hbalanced' := hbalanced.maybeRequestLinkCredit
  rw [FrameLink.pollTxFrame, LinkedEndpoint.pollTxFrame]
  generalize s.near.maybeRequestLinkCredit = asked at hasked hbalanced' ⊢
  obtain ⟨result, e⟩ := asked
  cases result with
  | error err => exact hasked
  | ok _ =>
    dsimp only [andThen]
    rcases DlpEndpoint.pollTxFrame_cases hbalanced'.1.up hbalanced'.1.whole with
      ⟨front, rest, hqueue, hle, hpoll⟩ | ⟨-, ⟨front, rest, hqueue, hle, hpoll⟩ | ⟨-, hpoll⟩⟩
    · dsimp only at hpoll
      rw [hpoll]
      exact hasked.sendControl hqueue _
    · dsimp only at hpoll
      rw [hpoll]
      exact hasked.sendData hbalanced' hqueue hle _
    · dsimp only at hpoll
      by_cases hempty : e.dlp.controlTxQueue = [] ∧ e.dlp.dataTxQueue = []
      · rw [hpoll, if_pos hempty]
        simpa using hasked
      · rw [hpoll, if_neg hempty]
        exact hasked

/-! ### Arrival -/

theorem granted_eq_zero {cfg : GdpWireConfig} {frames : List GnetFrame}
    (h : ∀ frame ∈ frames, frame.creditIn cfg = none) :
  granted cfg frames = 0
  := by
  rw [granted, List.filterMap_eq_nil_iff.mpr h]
  rfl

theorem trafficFlits_eq_zero {t : LinkTraffic} {frames : List GnetFrame}
    (h : ∀ frame ∈ frames, frame.traffic ≠ t) :
  trafficFlits t frames = 0
  := by
  rw [trafficFlits, List.filter_eq_nil_iff.mpr]
  · rfl
  · intro frame hframe
    simpa using h frame hframe

/-- A frame that arrives at the near end, and what the end of the link makes of it. -/
structure Arrives (s : FrameLink T) (frame : GnetFrame) (arriving : List GnetFrame)
    (packet : GdpPacket) (dlp : DlpEndpoint) : Prop where
  first : s.arriving = frame :: arriving
  received : s.near.dlp.receiveFrame frame = (.ok packet, dlp)

/-- The link once the frame has arrived and before its packet is handled. -/
def afterFrame (s : FrameLink T) (frame : GnetFrame) (arriving : List GnetFrame)
    (dlp : DlpEndpoint) : FrameLink T :=
  { s.withDlp dlp with arriving, farReturns := s.farReturns ++ returned frame }

variable {frame : GnetFrame} {arriving : List GnetFrame} {packet : GdpPacket} {dlp : DlpEndpoint}

theorem Arrives.outgoing (h : Arrives s frame arriving packet dlp) :
  s.swap.outgoing = frame :: (s.afterFrame frame arriving dlp).swap.outgoing
  := by
  rw [FrameLink.outgoing, show s.swap.sent = _ from h.first]
  rfl

theorem Arrives.queues (h : Arrives s frame arriving packet dlp) :
  LinkedEndpoint.Queues [] s.near (s.afterFrame frame arriving dlp).near ∧
    dlp.linkUp = s.near.dlp.linkUp
  := by
  have hsame := s.near.dlp.sameSender_receiveFrame frame
  rw [h.received] at hsame
  obtain ⟨_, _, _, _, hdlp⟩ := hsame
  dsimp only at hdlp
  subst hdlp
  exact ⟨⟨by simp, by simp, by simp [afterFrame, withDlp], rfl, rfl, rfl, rfl, rfl⟩, rfl⟩

/-- The packet is the one that the frame carries. -/
theorem Arrives.packet_eq (h : Arrives s frame arriving packet dlp) {packet' : GdpPacket}
    (hcarries : frame.Carries s.near.dlp.cfg packet') :
  packet = packet'.within s.near.dlp.localPrefix
  := by
  have hdecode := DlpEndpoint.decode_of_receiveFrame (congrArg Prod.fst h.received)
  rw [hcarries.decode] at hdecode
  exact (Except.ok.inj hdecode).symm

theorem Arrives.creditIn_eq (h : Arrives s frame arriving packet dlp)
    (hbalanced : Balanced context s) :
  frame.creditIn s.near.dlp.cfg = creditOf packet
  := by
  have hmem : frame ∈ s.swap.outgoing := by
    rw [h.outgoing]
    exact List.mem_cons_self
  obtain ⟨packet', hcarries, -⟩ := (hbalanced.2.transmits frame (List.mem_append_left _ hmem)).carries
  rw [show s.swap.near.dlp.cfg = s.near.dlp.cfg from hbalanced.2.same_cfg] at hcarries
  rw [hcarries.creditIn_eq, h.packet_eq hcarries, creditOf_within]

/-- The near end waits on, unless the frame brings credit. -/
theorem Waits.arrive (hwaits : Waits context s) (h : Arrives s frame arriving packet dlp)
    (hbalanced : Balanced context s) (hcredit : creditOf packet = none) :
  Waits context (s.afterFrame frame arriving dlp)
  := by
  obtain ⟨hqueues, -⟩ := h.queues
  intro hpending
  obtain ⟨hzero, hcoming⟩ := (hwaits.queues hqueues) hpending
  refine ⟨hzero, ?_⟩
  rcases hcoming with ⟨frame', hframe', hbrings⟩ | hrequest
  · left
    refine ⟨frame', ?_, hbrings⟩
    have hframe : frame' ∈ s.swap.outgoing := hframe'
    rw [h.outgoing] at hframe
    rcases List.mem_cons.mp hframe with rfl | hframe
    · exfalso
      apply hbrings
      change frame'.creditIn (s.afterFrame frame' arriving dlp).near.dlp.cfg = none
      rw [hqueues.cfg, h.creditIn_eq hbalanced, hcredit]
    · exact hframe
  · exact .inr hrequest

/-- The frame is the request that the far end waits for, and the near end can give credit. -/
structure Answers (context : Option U64) (s : FrameLink T) (frame : GnetFrame) (dlp : DlpEndpoint) :
    Prop where
  asks : Asks context s.near.dlp.cfg s.near.linkLocalAddress frame
  grantable : dlp.grantableDataCredit ≠ 0#32
  without_credit : s.far.dlp.dataTxCredit = 0#32

/-- The far end waits on, unless the frame is its request. -/
theorem Waits.arrive_far (hwaits : Waits context s.swap) (h : Arrives s frame arriving packet dlp)
    (hbalanced : Balanced context s)
    (hafter : creditOf packet = none → Balanced context (s.afterFrame frame arriving dlp)) :
  Waits context (s.afterFrame frame arriving dlp).swap ∨ Answers context s frame dlp
  := by
  obtain ⟨hqueues, -⟩ := h.queues
  by_cases hwaits' : Waits context (s.afterFrame frame arriving dlp).swap
  · exact .inl hwaits'
  right
  rw [Waits, Classical.not_imp, not_and, not_or] at hwaits'
  obtain ⟨hpending, hnot⟩ := hwaits'
  obtain ⟨hzero, hcoming⟩ := (hwaits.queues_far hqueues) hpending
  obtain ⟨hnocredit, hnorequest⟩ := hnot hzero
  rcases hcoming with hcredit | ⟨before, request, after, heq, hasks, hcontrol⟩
  · exact absurd hcredit hnocredit
  have heq' : s.swap.outgoing = before ++ request :: after := heq
  rw [h.outgoing] at heq'
  cases before with
  | cons first before =>
    rw [List.cons_append, List.cons.injEq] at heq'
    exact absurd ⟨before, request, after, heq'.2, hasks, hcontrol⟩ hnorequest
  | nil =>
    rw [List.nil_append, List.cons.injEq] at heq'
    obtain ⟨rfl, hrest⟩ := heq'
    have hasks' : Asks context s.near.dlp.cfg s.near.linkLocalAddress frame := by
      rw [← hqueues.linkLocalAddress, ← show s.far.dlp.cfg = s.near.dlp.cfg from hbalanced.2.same_cfg]
      exact hasks
    obtain ⟨packet', hcarries, hrequest, -⟩ := id hasks'
    have hplain : creditOf packet = none := by
      rw [h.packet_eq hcarries, creditOf_within]
      exact hrequest.creditOf_eq
    have hafter := hafter hplain
    -- Everything that the near end has given has been used.
    have hsent : trafficFlits .data arriving = 0 := by
      apply trafficFlits_eq_zero
      intro frame' hframe'
      rw [hcontrol frame']
      · nofun
      · rw [← hrest]
        exact List.mem_append_left _ hframe'
    have hgranted : granted s.far.dlp.cfg (s.afterFrame frame arriving dlp).outgoing = 0 := by
      apply granted_eq_zero
      intro frame' hframe'
      by_contra hbrings
      exact hnocredit ⟨frame', hframe', hbrings⟩
    have hused : s.far.dlp.dataTxCredit.toNat + trafficFlits .data arriving
        + granted s.far.dlp.cfg (s.afterFrame frame arriving dlp).outgoing
        = dlp.dataCreditOutstanding.toNat := hafter.2.credit
    have hidle : dlp.dataRxInUse = 0#32 := hafter.1.idle
    have hbuffer : dlp.rxBufferFlits ≠ 0#32 := hafter.1.buffer
    have hzero' : s.far.dlp.dataTxCredit = 0#32 := hzero
    rw [hsent, hgranted, hzero'] at hused
    refine ⟨hasks', ?_, hzero'⟩
    · intro hnone
      apply hbuffer
      apply BitVec.eq_of_toNat_eq
      have htoNat := congrArg BitVec.toNat hnone
      rw [DlpEndpoint.grantableDataCredit, DlpEndpoint.availableRxFlits, toNat_saturatingSub,
        toNat_saturatingSub, hidle] at htoNat
      simp at hused htoNat ⊢
      omega

/-- The first frame in flight to the near end arrives. -/
theorem Answered.receiveFrame (h : Answered context s) (hbalanced : Balanced context s)
    (hr : Readable context s) (now : U64) :
  Answered context (s.receiveFrame now)
  := by
  rw [FrameLink.receiveFrame]
  split
  · exact h
  next frame arriving hfirst =>
  obtain ⟨packet, dlp, hreceive, hmatch⟩ := hbalanced.arrive hr hfirst
  have harrives : Arrives s frame arriving packet dlp := ⟨hfirst, hreceive⟩
  rw [LinkedEndpoint.receiveFrame, hreceive]
  dsimp only
  cases hcredit : creditOf packet with
  | some count =>
    rw [hcredit] at hmatch
    have hmoves := LinkedEndpoint.moves_handlePacket_of_credit { s.near with dlp } now hcredit (by
      rw [LinkedEndpoint.acceptsDestination, hmatch.1]
      simp)
    obtain ⟨packets, hsends⟩ := hmoves.appends
    have hnone : creditOf packet ≠ none := by
      rw [hcredit]
      simp
    constructor
    · intro hpending
      rw [show (({ s.near with dlp } : LinkedEndpoint T).handlePacket packet now).2.creditRequestPending
        = false from hsends.creditRequestPending] at hpending
      cases hpending
    · rcases h.2.arrive_far harrives hbalanced (fun hplain => absurd hplain hnone) with
        hwaits | hanswers
      · exact Waits.queues_far (s := { s.afterFrame frame arriving dlp with
          near := ({ s.near with dlp } : LinkedEndpoint T).granted count }) hwaits hsends.toQueues
      · obtain ⟨packet', hcarries, hasks, -⟩ := hanswers.asks
        rw [harrives.packet_eq hcarries, creditOf_within] at hnone
        exact absurd hasks.creditOf_eq hnone
  | none =>
    rw [hcredit] at hmatch
    obtain ⟨packets, hsends⟩ :=
      (LinkedEndpoint.handles_handlePacket { s.near with dlp } now hcredit).appends
    constructor
    · exact (h.1.arrive harrives hbalanced hcredit).queues hsends.toQueues
    · rcases h.2.arrive_far harrives hbalanced (fun _ => hmatch) with hwaits | hanswers
      · exact hwaits.queues_far hsends.toQueues
      · intro
        refine ⟨hanswers.without_credit, .inl ?_⟩
        obtain ⟨packet', hcarries, hasks, hreach⟩ := hanswers.asks
        obtain rfl : packet = packet' :=
          (harrives.packet_eq hcarries).trans (hreach.within_eq (hbalanced.localPrefix_eq hr))
        obtain ⟨hqueues, hup⟩ := harrives.queues
        obtain ⟨packets', hsends', reply, hreply, hbrings⟩ := LinkedEndpoint.answers_handlePacket
          (e := { s.near with dlp }) (hup.trans hbalanced.1.up) (by
            rw [LinkedEndpoint.acceptsDestination, hreach.1]
            simp) hasks hanswers.grantable now
        obtain ⟨p, hp⟩ := hsends'.canonical reply hreply
        refine ⟨(dlp.frameOn Vcid.control reply).whole, ?_, ?_⟩
        · refine List.mem_append_right _ (List.mem_map_of_mem ?_)
          change dlp.frameOn Vcid.control reply ∈
            (({ s.near with dlp } : LinkedEndpoint T).handlePacket packet now).2.dlp.controlTxQueue
          rw [hsends'.queue]
          exact List.mem_append_right _ (List.mem_map_of_mem hreply)
        · change GnetFrame.creditIn s.far.dlp.cfg _ ≠ none
          rw [show s.far.dlp.cfg = dlp.cfg from hbalanced.2.same_cfg.trans hqueues.cfg.symm,
            (carries_frameOn dlp Vcid.control hp).creditIn_eq]
          exact hbrings

/-! ### Runs -/

/-- Whatever happens at the near end, nobody waits in vain. -/
theorem Answered.actNear (h : Answered context s) (hbalanced : Balanced context s)
    (hr : Readable context s) (action : LocalAction T) :
  Answered context (s.actNear action)
  := by
  have hsame : ∀ {e : LinkedEndpoint T}, LinkedEndpoint.SameLink s.near e →
      Answered context { s with near := e } := fun hsame => h.appends ⟨_, hsame.sends⟩
  cases action with
  | app op => exact h.appends (LinkedEndpoint.moves_runTransport s.near _).appends
  | sendGctl remote msg sizeClass =>
    rw [FrameLink.actNear, LinkedEndpoint.sendGctl, LinkedEndpoint.trySendGctlFrom]
    split
    · exact h
    · next hsend =>
      obtain ⟨packet, -, hsent⟩ := LinkedEndpoint.sends_sendGctlFrom hsend
      exact h.appends ⟨_, hsent⟩
  | solicitRouter transactionId =>
    exact h.appends (s.near.moves_solicitRouter transactionId).appends
  | enableAddressAuthority config => exact hsame ⟨rfl, rfl, rfl, rfl, rfl⟩
  | takeEchoReply transactionId => exact hsame ⟨rfl, rfl, rfl, rfl, rfl⟩
  | takeGctl => exact hsame ⟨rfl, rfl, rfl, rfl, rfl⟩
  | pollTxFrame => exact h.pollTxFrame hbalanced hr
  | receiveFrame now => exact h.receiveFrame hbalanced hr now
  | restoreControlCredit =>
    rw [FrameLink.actNear, FrameLink.restoreControlCredit]
    split
    · exact h
    · exact h.of_outgoing rfl rfl rfl rfl rfl rfl rfl

/-- What is known in every state of a link of frames. -/
def Inv (context : Option U64) (s : FrameLink T) : Prop :=
  Balanced context s ∧ Answered context s

theorem inv_step (s : FrameLink T) (action : Action T) (h : Inv context s)
    (hok : action.NoCredit ∧ Readable context s ∧ Readable context (s.step action)) :
  Inv context (s.step action)
  := by
  refine ⟨balanced_step s action h.1 hok, ?_⟩
  obtain ⟨-, hr, -⟩ := hok
  cases action with
  | near action => exact h.2.actNear h.1 hr action
  | far action => exact (h.2.swap.actNear h.1.swap hr.swap action).swap

theorem answered_attached {configA configB : EndpointConfig} {a b : LinkedEndpoint T}
    (ha : a.Fresh configA) (hb : b.Fresh configB) :
  Answered context (attached a b)
  := by
  constructor
  · intro hpending
    rw [show (attached a b).near.creditRequestPending = false from
      LinkedEndpoint.pending_linkAttached ha _ _] at hpending
    cases hpending
  · intro hpending
    rw [show (attached a b).swap.near.creditRequestPending = false from
      LinkedEndpoint.pending_linkAttached hb _ _] at hpending
    cases hpending

theorem inv_run {configA configB : EndpointConfig} {a b : LinkedEndpoint T}
    (ha : a.Fresh configA) (hb : b.Fresh configB) (hmode : configA.vcMode = configB.vcMode)
    (hwire : configA.gdpWire = configB.gdpWire) {as : List (Action T)}
    (has : ∀ action ∈ as, action.NoCredit)
    (hreadable : ∀ bs, bs <+: as → Readable context (Machine.run step (attached a b) bs)) :
  Inv context (Machine.run step (attached a b) as)
  := by
  apply Machine.invariant_along inv_step
  · exact ⟨balanced_attached ha hb hmode hwire (hreadable [] List.nil_prefix),
      answered_attached ha hb⟩
  · exact (Machine.along_of_forall _ has).and (Machine.along_of_forall_isPrefix hreadable)

/-! ### Quiet states -/

/-- Nothing is in flight, and neither end can send anything. -/
structure Quiet (s : FrameLink T) : Prop where
  sent : s.sent = []
  arriving : s.arriving = []
  nearReturns : s.nearReturns = []
  farReturns : s.farReturns = []
  near_silent : ∀ frame, s.near.pollTxFrame.1 ≠ .ok (some frame)
  far_silent : ∀ frame, s.far.pollTxFrame.1 ≠ .ok (some frame)

/-- Every control frame that the near end has to send fits into the control window of the far end. -/
def WindowFits (s : FrameLink T) : Prop :=
  ∀ frame ∈ s.near.maybeRequestLinkCredit.2.dlp.controlTxQueue,
    frame.flitLen ≤ s.far.dlp.controlWindowFlits.toNat

instance decidableWindowFits (s : FrameLink T) : Decidable (WindowFits s) :=
  inferInstanceAs (Decidable (∀ _ ∈ _, _))

/-- The near end has some credit, and its next data frame needs more. -/
def Short (s : FrameLink T) : Prop :=
  ∃ frame ∈ s.near.dlp.dataTxQueue.head?,
    0 < s.near.dlp.dataTxCredit.toNat ∧ s.near.dlp.dataTxCredit.toNat < frame.flitLen

theorem Quiet.swap (h : Quiet s) :
  Quiet s.swap
  := ⟨h.arriving, h.sent, h.farReturns, h.nearReturns, h.far_silent, h.near_silent⟩

/-- Where nothing is in flight and nothing is sent, there is nothing to send on the control channel,
nothing to ask for, and the credit for data is too little for the next frame. -/
theorem Balanced.silent (h : Balanced context s) (hquiet : Quiet s) (hfits : WindowFits s) :
  s.near.dlp.controlTxQueue = [] ∧ (s.near.dlp.queuedDataFlits = 0 ∨
      s.near.dlp.dataTxCredit ≠ 0#32 ∨ s.near.creditRequestPending = true) ∧
    ∀ front ∈ s.near.dlp.dataTxQueue.head?, s.near.dlp.dataTxCredit.toNat < front.flitLen
  := by
  have hasked := h.maybeRequestLinkCredit
  have hcases := LinkedEndpoint.maybeRequestLinkCredit_cases h.1.up h.1.peer
  have hok : s.near.maybeRequestLinkCredit.1 = .ok () := by
    rcases hcases with ⟨-, hnone⟩ | ⟨_, _, _, -, -, hsome⟩
    · rw [hnone]
    · rw [hsome]
  have hsilent := hquiet.near_silent
  rw [LinkedEndpoint.pollTxFrame] at hsilent
  rw [WindowFits] at hfits
  generalize s.near.maybeRequestLinkCredit = asked at hasked hcases hok hsilent hfits
  obtain ⟨result, e⟩ := asked
  dsimp only at hok hfits
  rw [hok] at hsilent
  dsimp only [andThen] at hsilent
  have hwindow : e.dlp.controlTxCredit.toNat + trafficFlits .control s.sent
      + (s.nearReturns.map BitVec.toNat).sum = s.far.dlp.controlWindowFlits.toNat := hasked.1.window
  rw [hquiet.sent, hquiet.nearReturns] at hwindow
  have hwaits : e.dlp.controlTxQueue = [] ∧
      ∀ front ∈ e.dlp.dataTxQueue.head?, e.dlp.dataTxCredit.toNat < front.flitLen := by
    rcases DlpEndpoint.pollTxFrame_cases hasked.1.up hasked.1.whole with
      ⟨front, rest, -, -, hpoll⟩ | ⟨hcontrol, ⟨front, rest, -, -, hpoll⟩ | ⟨hdata, -⟩⟩
    · dsimp only at hpoll
      rw [hpoll] at hsilent
      exact absurd rfl (hsilent front.whole)
    · dsimp only at hpoll
      rw [hpoll] at hsilent
      exact absurd rfl (hsilent front.whole)
    · refine ⟨?_, hdata⟩
      cases hqueue : e.dlp.controlTxQueue with
      | nil => rfl
      | cons front rest =>
        have hlt := hcontrol front (by dsimp only; rw [hqueue]; rfl)
        have hle := hfits front (by rw [hqueue]; exact List.mem_cons_self)
        rw [← hwindow] at hle
        exact absurd hle (Nat.not_le.mpr hlt)
  rcases hcases with ⟨hasks, heq⟩ | ⟨_, _, packet, -, -, heq⟩
  · cases heq
    exact ⟨hwaits.1, hasks, hwaits.2⟩
  · cases heq
    simp [LinkedEndpoint.queued] at hwaits

/-- In a quiet state no control frame waits, and a data frame waits exactly if there is some credit but
not enough for it. -/
theorem Inv.quiet (h : Inv context s) (hquiet : Quiet s) (hfits : WindowFits s)
    (hfits' : WindowFits s.swap) :
  s.near.dlp.controlTxQueue = [] ∧ (s.near.dlp.dataTxQueue ≠ [] ↔ Short s)
  := by
  obtain ⟨hbalanced, hanswered⟩ := h
  obtain ⟨hcontrol, hasks, hshort⟩ := hbalanced.silent hquiet hfits
  obtain ⟨hcontrol', -, -⟩ := hbalanced.swap.silent hquiet.swap hfits'
  refine ⟨hcontrol, ?_, ?_⟩
  · intro hne
    obtain ⟨front, rest, hqueue⟩ := List.exists_cons_of_ne_nil hne
    have hfront : front ∈ s.near.dlp.dataTxQueue := by
      rw [hqueue]
      exact List.mem_cons_self
    have hlt := hshort front (by rw [hqueue]; rfl)
    refine ⟨front, by rw [hqueue]; rfl, Nat.pos_of_ne_zero ?_, hlt⟩
    intro hzero
    rcases hasks with hnone | hcredit | hpending
    · have hpos : 0 < front.flitLen := (hbalanced.1.transmits front.whole
        (List.mem_append_right s.outgoing (List.mem_map_of_mem hfront))).flitLen_pos
      have hwhole := hbalanced.1.whole front (List.mem_append_right _ hfront)
      rw [DlpEndpoint.queuedDataFlits, hqueue, DlpEndpoint.queueFlits, List.map_cons, List.sum_cons,
        TxFrame.remainingFlits, hwhole] at hnone
      omega
    · exact hcredit (BitVec.eq_of_toNat_eq hzero)
    · -- Whoever waits is answered, but nothing is on its way.
      rcases (hanswered.1 hpending).2 with ⟨frame, hframe, -⟩ | ⟨before, request, after, heq, -⟩
      · rw [outgoing, show s.swap.sent = [] from hquiet.arriving,
          show s.swap.near.dlp.controlTxQueue = [] from hcontrol'] at hframe
        cases hframe
      · rw [outgoing, hquiet.sent, hcontrol] at heq
        simp at heq
  · rintro ⟨front, hfront, -⟩ hnil
    rw [hnil] at hfront
    cases hfront

/-- Where a link of frames stalls: for two endpoints with the same channels and the same wire format
that are attached to each other, in every state of every run in which the applications send no
`CREDIT` and every control message of the link is read as it was written, where nothing is in flight
and both ends have nothing that they can send, although every control frame fits into the window, no
control frame waits at all, and a data frame waits at an end exactly if this end has some credit but
not enough for it. -/
theorem stalls_iff {configA configB : EndpointConfig} {a b : LinkedEndpoint T}
    (ha : a.Fresh configA) (hb : b.Fresh configB) (hmode : configA.vcMode = configB.vcMode)
    (hwire : configA.gdpWire = configB.gdpWire) (as : List (Action T))
    (has : ∀ action ∈ as, action.NoCredit) {context : Option U64}
    (hreadable : ∀ bs, bs <+: as → Readable context (Machine.run step (attached a b) bs))
    (hquiet : Quiet (Machine.run step (attached a b) as))
    (hfits : WindowFits (Machine.run step (attached a b) as))
    (hfits' : WindowFits (Machine.run step (attached a b) as).swap) :
  let s := Machine.run step (attached a b) as
  s.near.dlp.controlTxQueue = [] ∧ s.far.dlp.controlTxQueue = [] ∧
    (s.near.dlp.dataTxQueue ≠ [] ↔ Short s) ∧ (s.far.dlp.dataTxQueue ≠ [] ↔ Short s.swap)
  := by
  intro s
  have hinv : Inv context s := inv_run ha hb hmode hwire has hreadable
  have hinv' : Inv context s.swap := ⟨hinv.1.swap, hinv.2.swap⟩
  obtain ⟨hcontrol, hdata⟩ := hinv.quiet hquiet hfits hfits'
  obtain ⟨hcontrol', hdata'⟩ := hinv'.quiet hquiet.swap hfits' hfits
  exact ⟨hcontrol, hcontrol', hdata, hdata'⟩

/-- Nothing is in flight, and a poll gives no frame at either end. -/
theorem quiet_of_join
    (h : s.sent = [] ∧ s.arriving = [] ∧ s.nearReturns = [] ∧ s.farReturns = [] ∧
      s.near.pollTxFrame.1.toOption.join = none ∧ s.far.pollTxFrame.1.toOption.join = none) :
  Quiet s
  := by
  obtain ⟨hsent, harriving, hnear, hfar, hnearSilent, hfarSilent⟩ := h
  refine ⟨hsent, harriving, hnear, hfar, ?_, ?_⟩
  · intro frame hsome
    rw [hsome] at hnearSilent
    cases hnearSilent
  · intro frame hsome
    rw [hsome] at hfarSilent
    cases hfarSilent

/-- The far end has sent six frames of five flits with its credit of 32 flits.  The near end gives no
further credit, because it could give 30 flits only, and the threshold is 32. -/
theorem stalls_iff_short :
  let x : GtsSend := ⟨⟨7#64⟩, .empty, []⟩
  let as : List (Action .direct) :=
    [.near .pollTxFrame, .far (.receiveFrame 0#64), .near .restoreControlCredit,
      .far .pollTxFrame, .near (.receiveFrame 0#64), .far .restoreControlCredit]
    ++ List.replicate 7 (.far (.app x)) ++ List.replicate 6 (.far .pollTxFrame)
    ++ List.replicate 6 (.near (.receiveFrame 0#64))
  ∃ a b : LinkedEndpoint .direct,
    a.Fresh ⟨32#32, .four, 8#8, none, false, 32#32, 32#32, ⟨true⟩⟩ ∧
    b.Fresh ⟨32#32, .four, 8#8, none, false, 32#32, 32#32, ⟨true⟩⟩ ∧
    (Machine.run step (attached a b) as).far.dlp.dataTxCredit = 2#32 ∧
    (Machine.run step (attached a b) as).far.dlp.dataTxQueue.map TxFrame.flitLen = [5] ∧
    Short (Machine.run step (attached a b) as).swap
  := by
  intro x as
  have has : ∀ action ∈ as, action.NoCredit := by
    simp [as, Action.NoCredit, LocalAction.NoCredit]
  refine ⟨_, _, .inl ⟨⟨7#64⟩, rfl⟩, .inl ⟨⟨9#64⟩, rfl⟩, and_assoc.mp ⟨?_, ?_⟩⟩
  · decide +kernel
  apply (@stalls_iff .direct ⟨32#32, .four, 8#8, none, false, 32#32, 32#32, ⟨true⟩⟩
    ⟨32#32, .four, 8#8, none, false, 32#32, 32#32, ⟨true⟩⟩ _ _ (.inl ⟨⟨7#64⟩, rfl⟩)
    (.inl ⟨⟨9#64⟩, rfl⟩) rfl rfl as has none _ _ _ _).2.2.2.mp
  · decide +kernel
  · intro bs hbs
    revert bs
    simp only [← List.mem_inits]
    decide +kernel
  · apply quiet_of_join
    decide +kernel
  · decide +kernel
  · decide +kernel

/-- In every quiet state all queues are empty exactly if no end has some credit but not enough for its
next data frame. -/
theorem queues_empty_iff_not_short {configA configB : EndpointConfig} {a b : LinkedEndpoint T}
    (ha : a.Fresh configA) (hb : b.Fresh configB) (hmode : configA.vcMode = configB.vcMode)
    (hwire : configA.gdpWire = configB.gdpWire) (as : List (Action T))
    (has : ∀ action ∈ as, action.NoCredit) {context : Option U64}
    (hreadable : ∀ bs, bs <+: as → Readable context (Machine.run step (attached a b) bs))
    (hquiet : Quiet (Machine.run step (attached a b) as))
    (hfits : WindowFits (Machine.run step (attached a b) as))
    (hfits' : WindowFits (Machine.run step (attached a b) as).swap) :
  let s := Machine.run step (attached a b) as
  ((s.near.dlp.controlTxQueue = [] ∧ s.near.dlp.dataTxQueue = []) ∧
      s.far.dlp.controlTxQueue = [] ∧ s.far.dlp.dataTxQueue = []) ↔ ¬ Short s ∧ ¬ Short s.swap
  := by
  intro s
  have hinv : Inv context s := inv_run ha hb hmode hwire has hreadable
  have hinv' : Inv context s.swap := ⟨hinv.1.swap, hinv.2.swap⟩
  obtain ⟨hcontrol, hdata⟩ := hinv.quiet hquiet hfits hfits'
  obtain ⟨hcontrol', hdata'⟩ := hinv'.quiet hquiet.swap hfits' hfits
  rw [← hdata, ← hdata', not_not, not_not]
  constructor
  · rintro ⟨⟨-, hnear⟩, -, hfar⟩
    exact ⟨hnear, hfar⟩
  · rintro ⟨hnear, hfar⟩
    exact ⟨⟨hcontrol, hnear⟩, hcontrol', hfar⟩

/-- The far end has sent a frame of five flits and got the credit for it back. -/
theorem queues_empty_iff_not_short_drained :
  let x : GtsSend := ⟨⟨7#64⟩, .empty, []⟩
  let as : List (Action .direct) :=
    [.near .pollTxFrame, .far (.receiveFrame 0#64), .near .restoreControlCredit,
      .far .pollTxFrame, .near (.receiveFrame 0#64), .far .restoreControlCredit, .far (.app x),
      .far .pollTxFrame, .near (.receiveFrame 0#64), .near .pollTxFrame, .far (.receiveFrame 0#64),
      .near .restoreControlCredit]
  ∃ a b : LinkedEndpoint .direct,
    a.Fresh ⟨32#32, .four, 8#8, none, false, 4#32, 32#32, ⟨true⟩⟩ ∧
    b.Fresh ⟨32#32, .four, 8#8, none, false, 4#32, 32#32, ⟨true⟩⟩ ∧
    (Machine.run step (attached a b) as).far.dlp.dataTxCredit = 32#32 ∧
    ¬ Short (Machine.run step (attached a b) as) ∧ ¬ Short (Machine.run step (attached a b) as).swap
  := by
  intro x as
  have has : ∀ action ∈ as, action.NoCredit := by
    simp [as, Action.NoCredit, LocalAction.NoCredit]
  refine ⟨_, _, .inl ⟨⟨7#64⟩, rfl⟩, .inl ⟨⟨9#64⟩, rfl⟩, ?_, ?_⟩
  · decide +kernel
  apply (@queues_empty_iff_not_short .direct ⟨32#32, .four, 8#8, none, false, 4#32, 32#32, ⟨true⟩⟩
    ⟨32#32, .four, 8#8, none, false, 4#32, 32#32, ⟨true⟩⟩ _ _ (.inl ⟨⟨7#64⟩, rfl⟩)
    (.inl ⟨⟨9#64⟩, rfl⟩) rfl rfl as has none _ _ _ _).mp
  · decide +kernel
  · intro bs hbs
    revert bs
    simp only [← List.mem_inits]
    decide +kernel
  · apply quiet_of_join
    decide +kernel
  · decide +kernel
  · decide +kernel

/-- A frame of five flits waits at the far end, which has credit for two: the near end gives no further
credit, because it could give 30 flits only, and the far end does not ask for any, because it has some. -/
theorem not_queues_empty :
  let x : GtsSend := ⟨⟨7#64⟩, .empty, []⟩
  let as : List (Action .direct) :=
    [.near .pollTxFrame, .far (.receiveFrame 0#64), .near .restoreControlCredit,
      .far .pollTxFrame, .near (.receiveFrame 0#64), .far .restoreControlCredit]
    ++ List.replicate 7 (.far (.app x)) ++ List.replicate 6 (.far .pollTxFrame)
    ++ List.replicate 6 (.near (.receiveFrame 0#64))
  ∃ a b : LinkedEndpoint .direct,
    a.Fresh ⟨32#32, .four, 8#8, none, false, 32#32, 32#32, ⟨true⟩⟩ ∧
    b.Fresh ⟨32#32, .four, 8#8, none, false, 32#32, 32#32, ⟨true⟩⟩ ∧
    (∀ bs ∈ as.inits,
      let s := Machine.run step (attached a b) bs
      WindowFits s ∧ WindowFits s.swap ∧
        (∀ frame ∈ s.near.dlp.dataTxQueue, frame.flitLen ≤ s.far.dlp.rxBufferFlits.toNat) ∧
        ∀ frame ∈ s.far.dlp.dataTxQueue, frame.flitLen ≤ s.near.dlp.rxBufferFlits.toNat) ∧
    let s := Machine.run step (attached a b) as
    s.sent = [] ∧ s.arriving = [] ∧ s.nearReturns = [] ∧ s.farReturns = [] ∧
      s.near.pollTxFrame.1 = .ok none ∧ s.far.pollTxFrame.1 = .error .noCredit ∧
      s.far.dlp.dataTxQueue ≠ []
  := by
  intro x as
  refine ⟨_, _, .inl ⟨⟨7#64⟩, rfl⟩, .inl ⟨⟨9#64⟩, rfl⟩, ?_, ?_⟩
  · decide +kernel
  · decide +kernel

end FrameLink

end SmolGnet
