import Mathlib.Data.List.TakeWhile
import SmolGnet.Dlp.Burst
import SmolGnet.Endpoint.FrameBalance
import SmolGnet.Endpoint.UnderWay

/-!
# Where a link of flits stalls

An end of a link of flits that has data to send and no credit asks for some.  Its request is on the
way until it has arrived completely, and no data flit follows it: the end has no credit for one.  So
when the request has arrived, all that was given to the end has been used, and the other end can give
credit again, unless its whole buffer is taken up by the first flits of a packet.

This is the only way in which a link of flits stalls: a packet that is larger than the buffer of its
receiver never arrives, and nothing behind it.
-/

namespace SmolGnet

namespace DlpEndpoint

/-- A queue from which nothing is sent although there is room and credit is empty, but for frames that
have been sent. -/
theorem queueFlits_of_emit {room : ℕ} {queue : List TxFrame} {credit : U32} (hroom : room ≠ 0)
    (hcredit : credit ≠ 0#32) (h : (emitQueueFlits room queue credit).1 = []) :
  queueFlits queue = 0
  := by
  obtain ⟨room, rfl⟩ := Nat.exists_eq_succ_of_ne_zero hroom
  rw [emitQueueFlits, if_neg hcredit] at h
  split at h
  · next hdrop =>
    rw [List.dropWhile_eq_nil_iff] at hdrop
    rw [queueFlits, List.sum_eq_zero_iff, List.forall_mem_map]
    intro frame hframe
    have hnone := hdrop frame hframe
    rw [TxFrame.nextFlit] at hnone
    split at hnone
    · next hle =>
      rw [TxFrame.remainingFlits]
      omega
    · cases hnone
  · next front rest hdrop =>
    have hsome := List.head?_dropWhile_not (fun frame : TxFrame => frame.nextFlit.isNone) queue
    rw [hdrop] at hsome
    change front.nextFlit.isNone = false at hsome
    split at h
    · next hnone =>
      rw [hnone] at hsome
      cases hsome
    · cases h

/-- A poll is a burst of one flit. -/
theorem pollTx_emit {e : DlpEndpoint} (hup : e.linkUp) :
  e.pollTx.2 = (e.emit 1).2 ∧ ∀ flit ∈ (e.emit 1).1.head?, e.pollTx.1 = .ok (some flit)
  := by
  rw [pollTx, pollTxBurst_eq hup 0]
  cases hflits : (e.emit 1).1 with
  | nil =>
    rw [if_neg (by simp)]
    cases (e.emit 1).2.idle with
    | ok flits => exact ⟨rfl, by simp⟩
    | error err => exact ⟨rfl, by simp⟩
  | cons flit flits =>
    rw [if_pos (by simp)]
    refine ⟨rfl, ?_⟩
    rintro _ ⟨⟩
    rfl

theorem emit_of_silent {e : DlpEndpoint} (hup : e.linkUp)
    (h : ∀ flit, e.pollTx.1 ≠ .ok (some flit)) :
  (e.emit 1).1 = []
  := by
  cases hflits : (e.emit 1).1 with
  | nil => rfl
  | cons flit flits => exact absurd ((pollTx_emit hup).2 flit (by rw [hflits]; rfl)) (h flit)

/-- Where no control flit is sent, no credit for control flits is used. -/
theorem controlTxCredit_pollTx_of_data {e : DlpEndpoint} (hup : e.linkUp)
    (hcontrol : ∀ flit ∈ queueRest e.controlTxQueue, flit.vcid.traffic = .control)
    (h : ∀ flit, e.pollTx.1 = .ok (some flit) → flit.vcid.traffic = .data) :
  e.pollTx.2.controlTxCredit = e.controlTxCredit
  := by
  obtain ⟨hstate, hresult⟩ := pollTx_emit hup
  obtain ⟨hrest, hcredit, -⟩ := emitQueueFlits_spec 1 e.controlTxQueue e.controlTxCredit
  have hnone : (emitQueueFlits 1 e.controlTxQueue e.controlTxCredit).1 = [] := by
    cases hflits : (emitQueueFlits 1 e.controlTxQueue e.controlTxCredit).1 with
    | nil => rfl
    | cons flit flits =>
      have hdata := h flit (hresult flit (by rw [emit, hflits]; rfl))
      rw [hcontrol flit (by rw [hrest, hflits]; simp)] at hdata
      cases hdata
  rw [hnone, List.length_nil, Nat.zero_add] at hcredit
  rw [hstate]
  exact BitVec.eq_of_toNat_eq hcredit

/-- Where nothing is sent, there is as much to send as before, and as much credit. -/
theorem pollTx_of_silent {e : DlpEndpoint} (hup : e.linkUp)
    (h : ∀ flit, e.pollTx.1 ≠ .ok (some flit)) :
  e.pollTx.2.queuedControlFlits = e.queuedControlFlits ∧
    e.pollTx.2.queuedDataFlits = e.queuedDataFlits ∧ e.pollTx.2.dataTxCredit = e.dataTxCredit
  := by
  have hemit := emit_of_silent hup h
  rw [emit] at hemit
  dsimp only at hemit
  obtain ⟨hcontrol, hdata⟩ := List.append_eq_nil_iff.mp hemit
  obtain ⟨hrest, -⟩ := emitQueueFlits_spec 1 e.controlTxQueue e.controlTxCredit
  obtain ⟨hrest', hcredit, -⟩ := emitQueueFlits_spec
    (1 - (emitQueueFlits 1 e.controlTxQueue e.controlTxCredit).1.length) e.dataTxQueue e.dataTxCredit
  rw [hcontrol] at hrest
  rw [hdata] at hrest' hcredit
  rw [List.length_nil, Nat.zero_add] at hcredit
  rw [(pollTx_emit hup).1, queuedControlFlits, queuedControlFlits, queuedDataFlits, queuedDataFlits,
    ← length_queueRest, ← length_queueRest, ← length_queueRest, ← length_queueRest, hrest, hrest']
  exact ⟨rfl, rfl, BitVec.eq_of_toNat_eq hcredit⟩

/-- An endpoint that sends nothing although it has credit for control flits has no control flits to
send, and no data flits or no credit for them. -/
theorem idle_of_pollTx {e : DlpEndpoint} (hup : e.linkUp) (hcredit : e.controlTxCredit ≠ 0#32)
    (h : ∀ flit, e.pollTx.1 ≠ .ok (some flit)) :
  e.queuedControlFlits = 0 ∧ (e.queuedDataFlits = 0 ∨ e.dataTxCredit = 0#32)
  := by
  have hemit := emit_of_silent hup h
  rw [emit] at hemit
  dsimp only at hemit
  obtain ⟨hcontrol, hdata⟩ := List.append_eq_nil_iff.mp hemit
  rw [hcontrol] at hdata
  refine ⟨queueFlits_of_emit (by simp) hcredit hcontrol, ?_⟩
  by_cases hzero : e.dataTxCredit = 0#32
  · exact .inr hzero
  · exact .inl (queueFlits_of_emit (by simp) hzero hdata)

end DlpEndpoint

/-- The whole buffer for data is taken up. -/
def DlpEndpoint.Full (e : DlpEndpoint) : Prop :=
  e.dataRxInUse = e.rxBufferFlits

/-- The whole buffer is taken up by the first flits of a packet that is larger. -/
def DlpEndpoint.Overfull (e : DlpEndpoint) : Prop :=
  ∃ vcid segment, e.rx vcid = some segment ∧ vcid.traffic = .data ∧
    segment.receivedFlits = e.rxBufferFlits.toNat ∧ segment.receivedFlits < segment.expectedFlits

/-- The endpoint has no control flits to send, and no data flits either, or it waits for credit. -/
def LinkedEndpoint.Idle {T : Transport} (e : LinkedEndpoint T) : Prop :=
  e.dlp.queuedControlFlits = 0 ∧
    (e.dlp.queuedDataFlits = 0 ∨ e.dlp.dataTxCredit = 0#32 ∧ e.creditRequestPending = true)

namespace FlitLink

variable {T : Transport} {context : Option U64} {s : FlitLink T} {e : LinkedEndpoint T}
  {packets : List GdpPacket} {frames : List (TxFrame × GdpPacket)} {n : ℕ}

/-! ### Waiting for credit -/

/-- A `CREDIT` is on its way to the near end. -/
def CreditComing (s : FlitLink T) : Prop :=
  ∃ packet ∈ s.swap.controlUnderWay, creditOf packet ≠ none

/-- A request of the near end is on its way, and the last of its flits is behind all data flits: the
flits after these, and those in the queue, are more than the packets after the request have. -/
def RequestGoing (context : Option U64) (s : FlitLink T) : Prop :=
  ∃ before request after pre post, s.controlUnderWay = before ++ request :: after ∧
    s.sent = pre ++ post ∧ (∀ flit ∈ post, flit.vcid.traffic = .control) ∧
    flitsOf s.far.dlp.cfg after < post.length + (queueRest s.near.dlp.controlTxQueue).length ∧
    LinkedEndpoint.AsksCredit request ∧ FrameLink.Reaches context s.far.linkLocalAddress request

/-- If the near end waits for credit, then it has none, and its request is on the way, or an answer,
or the buffer of the far end is full. -/
def Waits (context : Option U64) (s : FlitLink T) : Prop :=
  s.near.creditRequestPending = true → s.near.dlp.dataTxCredit = 0#32 ∧
    (s.CreditComing ∨ s.RequestGoing context ∨ s.far.dlp.Full)

/-- Both ends wait for an answer, or for room. -/
def Answered (context : Option U64) (s : FlitLink T) : Prop :=
  Waits context s ∧ Waits context s.swap

theorem Answered.swap (h : Answered context s) :
  Answered context s.swap
  := ⟨h.2, h.1⟩

/-- Control packets that are queued change nothing for an end that waits. -/
theorem Waits.sends (h : Waits context s) (hinv : Inv context s)
    (hinv' : Inv context { s with near := e }) (hsends : LinkedEndpoint.Sends packets s.near e) :
  Waits context { s with near := e }
  := by
  intro hpending
  obtain ⟨hzero, hcoming⟩ := h (hsends.creditRequestPending.symm.trans hpending)
  refine ⟨hsends.dataTxCredit.trans hzero, ?_⟩
  rcases hcoming with ⟨packet, hpacket, hcredit⟩ |
    ⟨before, request, after, pre, post, hunder, hsent, hpost, hlt, hasks, hreach⟩ | hfull
  · refine .inl ⟨packet.within e.dlp.localPrefix, ?_, by rwa [creditOf_within]⟩
    rw [hinv.controlUnderWay_held hinv' hsends.cfg hsends.held]
    exact List.mem_map_of_mem hpacket
  · refine .inr (.inl ⟨before, request, after ++ packets.map (·.within s.far.dlp.localPrefix), pre,
      post, ?_, hsent, hpost, ?_, hasks, hreach⟩)
    · rw [hinv.controlUnderWay_queues hsends.toQueues, hunder]
      simp
    · have hqueue : (queueRest e.dlp.controlTxQueue).length
          = (queueRest s.near.dlp.controlTxQueue).length + flitsOf s.far.dlp.cfg packets := by
        rw [hsends.queue, length_queueRest_queued, hinv.same_cfg]
      change flitsOf s.far.dlp.cfg _ < post.length + (queueRest e.dlp.controlTxQueue).length
      rw [flitsOf_append, flitsOf_within, hqueue]
      omega
  · exact .inr (.inr hfull)

/-- Nor do those that the other end queues. -/
theorem Waits.sends_far (h : Waits context s.swap) (hinv : Inv context s)
    (hinv' : Inv context { s with near := e }) (hr' : Readable context { s with near := e })
    (hsends : LinkedEndpoint.Sends packets s.near e) :
  Waits context (FlitLink.swap { s with near := e })
  := by
  intro hpending
  obtain ⟨hzero, hcoming⟩ := h hpending
  refine ⟨hzero, ?_⟩
  rcases hcoming with ⟨packet, hpacket, hcredit⟩ |
    ⟨before, request, after, pre, post, hunder, hsent, hpost, hlt, hasks, hreach⟩ | hfull
  · refine .inl ⟨packet, ?_, hcredit⟩
    change packet ∈ controlUnderWay { s with near := e }
    rw [hinv.controlUnderWay_queues hsends.toQueues]
    exact List.mem_append_left _ hpacket
  · refine .inr (.inl ⟨before.map (·.within e.dlp.localPrefix), request,
      after.map (·.within e.dlp.localPrefix), pre, post, ?_, hsent, hpost, ?_, hasks, ?_⟩)
    · rw [hinv.controlUnderWay_held hinv' hsends.cfg hsends.held, hunder, List.map_append,
        List.map_cons, hreach.within_eq (hinv'.localPrefix_eq hr')]
    · change flitsOf e.dlp.cfg _ < _
      rw [hsends.cfg, flitsOf_within]
      exact hlt
    · change FrameLink.Reaches context e.linkLocalAddress request
      rw [hsends.linkLocalAddress]
      exact hreach
  · refine .inr (.inr ?_)
    change e.dlp.dataRxInUse = e.dlp.rxBufferFlits
    rw [hsends.held.dataRxInUse, hsends.held.rxBufferFlits]
    exact hfull

theorem Answered.appends (h : Answered context s) (hinv : Inv context s)
    (hinv' : Inv context { s with near := e }) (hr' : Readable context { s with near := e })
    (happends : LinkedEndpoint.Appends s.near e) :
  Answered context { s with near := e }
  := by
  obtain ⟨packets, hsends⟩ := happends
  exact ⟨h.1.sends hinv hinv' hsends, h.2.sends_far hinv hinv' hr' hsends⟩

/-- A control message between the ends is read as it was written. -/
theorem Inv.reaches (h : Inv context s) (hr : Readable context s) {msg : GctlMessage}
    {packet : GdpPacket}
    (hholds : s.near.Holds s.near.linkLocalAddress s.far.linkLocalAddress msg packet) :
  FrameLink.Reaches context s.far.linkLocalAddress packet
  := by
  refine ⟨hholds.destination, ?_⟩
  cases context with
  | none => exact .inl (hholds.form.resolve_right hr.1)
  | some p =>
    refine .inr ⟨p, rfl, ?_⟩
    have hcanonical := hholds.canonical
    rwa [show s.near.contextPrefix = p from hr.1] at hcanonical

/-- The near end asks for credit if it has data to send and no credit. -/
theorem Answered.maybeRequestLinkCredit (h : Answered context s) (hinv : Inv context s)
    (hr : Readable context s) :
  Answered context { s with near := s.near.maybeRequestLinkCredit.2 }
  := by
  have hinv' := hinv.maybeRequestLinkCredit
  obtain ⟨hup, hpeer⟩ : s.near.dlp.linkUp ∧ s.near.peerLinkLocal = some s.far.linkLocalAddress := by
    obtain ⟨_, _, _, _, hforward, -⟩ := hinv
    exact ⟨hforward.link.a_up, hforward.peer⟩
  rcases LinkedEndpoint.maybeRequestLinkCredit_cases hup hpeer with
    ⟨-, hnone⟩ | ⟨transactionId, requested, packet, hzero, hholds, hasked⟩
  · rw [hnone]
    exact h
  rw [hasked] at hinv' ⊢
  have hsent : LinkedEndpoint.Sends [packet] s.near (s.near.useTransaction.queued packet) :=
    { LinkedEndpoint.sends_queued (e := s.near) hholds.canonical hholds.packetType with }
  have hinv₁ : Inv context { s with near := s.near.useTransaction.queued packet } :=
    Inv.of_settings (s := { s with
      near := { s.near.useTransaction.queued packet with creditRequestPending := true } })
      hinv' rfl rfl rfl rfl
  have hqueued := h.2.sends_far hinv hinv₁ hr hsent
  refine ⟨?_, hqueued⟩
  intro
  have hunder := hinv.controlUnderWay_queues hsent.toQueues
  refine ⟨hzero, .inr (.inl ⟨s.controlUnderWay, packet.within s.far.dlp.localPrefix, [], s.sent, [],
    hunder, by simp, by simp, ?_, ?_, ?_⟩)⟩
  · have hpos := packet.flitLen_pos s.near.dlp.cfg
    have hlength :=
      length_queueRest_queued s.near.dlp Vcid.control s.near.dlp.controlTxQueue [packet]
    rw [flitsOf_cons, List.map_singleton] at hlength
    change 0 < 0 + (queueRest (s.near.dlp.controlTxQueue ++ [s.near.dlp.frameOn Vcid.control packet])).length
    omega
  · obtain ⟨htype, msg, request, hdecode, hmessage, hparse⟩ := hholds.asksCredit
    refine ⟨?_, msg, request, ?_, hmessage, hparse⟩
    · rw [GdpPacket.packetType_within]
      exact htype
    · rw [GdpPacket.payload_within]
      exact hdecode
  · have hreach := hinv.reaches hr hholds
    have hread : packet.within s.far.dlp.localPrefix = packet :=
      hreach.within_eq (hinv.swap.localPrefix_eq hr.swap)
    rw [hread]
    exact hreach

/-! ### Transmission -/

theorem controlUnderWay_congr {s' : FlitLink T} (hfar : s'.far = s.far)
    (hleft : s'.left .control = s.left .control) :
  s'.controlUnderWay = s.controlUnderWay
  := by
  change (s'.far.dlp.receiveBurst (s'.left .control) []).2.1
    = (s.far.dlp.receiveBurst (s.left .control) []).2.1
  rw [hfar, hleft]

/-- The same packets are on their way to the near end where it holds what it held. -/
theorem Carries.swap_controlUnderWay {s' : FlitLink T} (hcarries : Carries s.swap .control frames n)
    (hfar : s'.far = s.far) (harriving : s'.arriving = s.arriving)
    (hd : DlpEndpoint.SameReceiver s.near.dlp s'.near.dlp) :
  s'.swap.controlUnderWay = s.swap.controlUnderWay
  := by
  have hleft : s'.swap.left .control = s.swap.left .control := by
    change s'.arriving.filter _ ++ queueRest s'.far.dlp.controlTxQueue = _
    rw [hfar, harriving]
    rfl
  have hcarries' : Carries s'.swap .control frames n := hcarries.congr hd hleft
  rw [hcarries'.controlUnderWay_eq, hcarries.controlUnderWay_eq]

/-- Nothing changes for an end that waits where the near end still holds what it held, and the flits
that the near end has to send only move on. -/
theorem Waits.moved {s' : FlitLink T} (h : Waits context s.swap)
    (hcarries : Carries s.swap .control frames n) (hfar : s'.far = s.far) (harriving : s'.arriving = s.arriving)
    (hleft : s'.left .control = s.left .control) (hd : DlpEndpoint.SameReceiver s.near.dlp s'.near.dlp)
    (hlocal : s'.near.linkLocalAddress = s.near.linkLocalAddress) :
  Waits context s'.swap
  := by
  have hunder := controlUnderWay_congr hfar hleft
  have hunder' := hcarries.swap_controlUnderWay hfar harriving hd
  intro hpending
  change s'.far.creditRequestPending = true at hpending
  rw [hfar] at hpending
  obtain ⟨hzero, hcoming⟩ := h hpending
  constructor
  · change s'.far.dlp.dataTxCredit = 0#32
    rw [hfar]
    exact hzero
  rcases hcoming with hcredit |
    ⟨before, request, after, pre, post, hunder₁, hsent, hpost, hlt, hasks, hreach⟩ | hfull
  · left
    change ∃ packet ∈ s'.controlUnderWay, creditOf packet ≠ none
    rw [hunder]
    exact hcredit
  · refine .inr (.inl ⟨before, request, after, pre, post, hunder'.trans hunder₁,
      harriving.trans hsent, hpost, ?_, hasks, ?_⟩)
    · obtain ⟨_, _, _, _, _, hdlp⟩ := hd
      change flitsOf s'.near.dlp.cfg after < post.length + (queueRest s'.far.dlp.controlTxQueue).length
      rw [hfar, hdlp]
      exact hlt
    · change FrameLink.Reaches context s'.near.linkLocalAddress request
      rw [hlocal]
      exact hreach
  · right
    right
    obtain ⟨_, _, _, _, _, hdlp⟩ := hd
    change s'.near.dlp.dataRxInUse = s'.near.dlp.rxBufferFlits
    rw [hdlp]
    exact hfull

/-- The near end sends flits.  An end that waits sends control flits only. -/
theorem Answered.pollTxBurst (h : Answered context s) (hinv : Inv context s) (room : ℕ) :
  Answered context (s.pollTxBurst room)
  := by
  have hleft := hinv.left_pollTxBurst room .control
  obtain ⟨cf, df, cq, cc, dq, dc, heq, hcontrol, -, hcredit, hcontrolFlits, -⟩ :=
    hinv.pollTxBurst_eq room
  have hsame : DlpEndpoint.SameReceiver s.near.dlp (s.pollTxBurst room).near.dlp := by
    rw [heq]
    exact ⟨_, _, _, _, _, rfl⟩
  have hfar : (s.pollTxBurst room).far = s.far ∧ (s.pollTxBurst room).arriving = s.arriving := by
    rw [heq]
    exact ⟨rfl, rfl⟩
  have hlocal : (s.pollTxBurst room).near.linkLocalAddress = s.near.linkLocalAddress := by
    rw [heq]
    rfl
  have hunder₁ := controlUnderWay_congr hfar.1 hleft
  obtain ⟨frames, n, hcarries⟩ := hinv.swap.carries .control
  have hunder₂ := hcarries.swap_controlUnderWay hfar.1 hfar.2 hsame
  refine ⟨?_, h.2.moved hcarries hfar.1 hfar.2 hleft hsame hlocal⟩
  rw [Waits, CreditComing, RequestGoing, hunder₁, hunder₂, heq]
  intro hpending
  obtain ⟨hzero, hcoming⟩ := h.1 hpending
  rw [hzero, show (0#32).toNat = 0 from rfl, Nat.add_eq_zero_iff] at hcredit
  obtain rfl := List.eq_nil_of_length_eq_zero hcredit.1
  refine ⟨BitVec.eq_of_toNat_eq hcredit.2, ?_⟩
  rcases hcoming with hcoming |
    ⟨before, request, after, pre, post, hunder, hsent, hpost, hlt, hasks, hreach⟩ | hfull
  · exact .inl hcoming
  · refine .inr (.inl ⟨before, request, after, pre, post ++ cf, hunder, ?_, ?_, ?_, hasks, hreach⟩)
    · change s.sent ++ (cf ++ []) = _
      rw [hsent, List.append_nil, List.append_assoc]
    · rw [List.forall_mem_append]
      exact ⟨hpost, hcontrolFlits⟩
    · change flitsOf s.far.dlp.cfg after < (post ++ cf).length + (queueRest cq).length
      rw [hcontrol, List.length_append] at hlt
      rw [List.length_append]
      omega
  · exact .inr (.inr hfull)

theorem Answered.pollTxFlit (h : Answered context s) (hinv : Inv context s)
    (hr : Readable context s) :
  Answered context s.pollTxFlit
  := by
  rw [hinv.pollTxFlit_eq]
  exact (h.maybeRequestLinkCredit hinv hr).pollTxBurst hinv.maybeRequestLinkCredit 1

/-! ### Arrival -/

variable {flit : Flit} {arriving : List Flit} {result : Option GdpPacket} {dlp : DlpEndpoint}

theorem Arrives.controlUnderWay (h : Arrives s flit arriving result dlp) :
  (s.afterFlit arriving dlp).controlUnderWay = s.controlUnderWay
  := by
  have hfar : (s.afterFlit arriving dlp).far = s.far := rfl
  apply controlUnderWay_congr hfar
  apply h.left_near

/-- The near end waits on, unless the flit brings credit. -/
theorem Waits.arrive (hwaits : Waits context s) (h : Arrives s flit arriving result dlp)
    (hinv : Inv context s) (hcredit : result.bind creditOf = none) :
  Waits context (s.afterFlit arriving dlp)
  := by
  obtain ⟨frames, n, hcarries⟩ := hinv.swap.carries .control
  obtain ⟨_, _, hcarries', hpasses⟩ := h.passes hinv hcarries
  rw [← hcarries.controlUnderWay_eq, ← hcarries'.controlUnderWay_eq] at hpasses
  have hunder := h.controlUnderWay
  obtain ⟨_, _, _, _, hdlp⟩ := h.sameSender
  intro hpending
  obtain ⟨hzero, hcoming⟩ := hwaits hpending
  constructor
  · change dlp.dataTxCredit = 0#32
    rw [hdlp]
    exact hzero
  rcases hcoming with ⟨packet, hpacket, hbrings⟩ |
    ⟨before, request, after, pre, post, hunder₁, hsent, hpost, hlt, hasks, hreach⟩ | hfull
  · refine .inl ⟨packet, ?_, hbrings⟩
    rcases hpasses with ⟨hsame, -⟩ | ⟨-, packet', hresult, hcons⟩
    · rw [hsame]
      exact hpacket
    · rw [hcons] at hpacket
      rcases List.mem_cons.mp hpacket with rfl | hpacket
      · rw [hresult] at hcredit
        exact absurd hcredit hbrings
      · exact hpacket
  · refine .inr (.inl ⟨before, request, after, pre, post, hunder.trans hunder₁, hsent, hpost, ?_,
      hasks, hreach⟩)
    change flitsOf s.far.dlp.cfg after < post.length + (queueRest dlp.controlTxQueue).length
    rw [hdlp]
    exact hlt
  · exact .inr (.inr hfull)

/-- The flit completes the request that the far end waits for, and the near end can give credit. -/
structure Answers (context : Option U64) (s : FlitLink T) (result : Option GdpPacket)
    (dlp : DlpEndpoint) : Prop where
  asks : ∃ request, result = some request ∧ LinkedEndpoint.AsksCredit request ∧
    FrameLink.Reaches context s.near.linkLocalAddress request
  grantable : dlp.grantableDataCredit ≠ 0#32
  without_credit : s.far.dlp.dataTxCredit = 0#32

/-- An end whose buffer is full has given no credit that could still be used. -/
theorem Inv.traffic_of_full (h : Inv context s) (hfull : s.near.dlp.Full) :
  s.near.dlp.dataCreditOutstanding.toNat = 0 ∧ ∀ flit ∈ s.arriving, flit.vcid.traffic = .control
  := by
  obtain ⟨queued, yielded, queued', yielded', -, hback⟩ := id h
  have hbuffer : s.near.dlp.dataRxInUse.toNat + s.near.dlp.dataCreditOutstanding.toNat
    ≤ s.near.dlp.rxBufferFlits.toNat := hback.link.buffer
  have hbalanced := h.balanced
  rw [hfull] at hbuffer
  rw [Balanced] at hbalanced
  refine ⟨by omega, ?_⟩
  intro flit hflit
  cases ht : flit.vcid.traffic with
  | control => rfl
  | data =>
    have hpos : 0 < (s.arriving.filter (fun flit => flit.vcid.traffic = .data)).length :=
      List.length_pos_of_mem (List.mem_filter.mpr ⟨hflit, by simpa using ht⟩)
    omega

/-- Where everything that the near end has given has been used, it can give credit, unless its buffer
is full. -/
theorem Inv.grantable (h : Inv context s) (hfull : ¬ s.near.dlp.Full)
    (hzero : s.far.dlp.dataTxCredit = 0#32) (hcoming : ¬ s.swap.CreditComing)
    (harriving : ∀ flit ∈ s.arriving, flit.vcid.traffic = .control) :
  s.near.dlp.grantableDataCredit ≠ 0#32
  := by
  obtain ⟨queued, yielded, queued', yielded', -, hback⟩ := id h
  have hbuffer : s.near.dlp.dataRxInUse.toNat + s.near.dlp.dataCreditOutstanding.toNat
    ≤ s.near.dlp.rxBufferFlits.toNat := hback.link.buffer
  have hbalanced := h.balanced
  have hcredits : credits s.controlUnderWay = [] := by
    rw [credits, List.filterMap_eq_nil_iff]
    intro packet hpacket
    by_contra hbrings
    exact hcoming ⟨packet, hpacket, hbrings⟩
  have hdata : s.arriving.filter (fun flit => flit.vcid.traffic = .data) = [] := by
    rw [List.filter_eq_nil_iff]
    intro flit hflit
    simp [harriving flit hflit]
  rw [Balanced, hcredits, hdata, hzero] at hbalanced
  intro hnone
  apply hfull
  apply BitVec.eq_of_toNat_eq
  have htoNat := congrArg BitVec.toNat hnone
  rw [DlpEndpoint.grantableDataCredit, DlpEndpoint.availableRxFlits, toNat_saturatingSub,
    toNat_saturatingSub] at htoNat
  simp at hbalanced htoNat
  omega

/-- A request that has not arrived completely is still on its way. -/
theorem Carries.requestGoing (h : Carries s .control frames n)
    {before after : List GdpPacket} {request : GdpPacket} {pre post : List Flit}
    (hunder : s.controlUnderWay = before ++ request :: after) (hsent : s.sent = pre ++ post)
    (hpost : ∀ flit ∈ post, flit.vcid.traffic = .control)
    (hlt : flitsOf s.far.dlp.cfg after < post.length + (queueRest s.near.dlp.controlTxQueue).length ∨
      pre = [])
    (hasks : LinkedEndpoint.AsksCredit request)
    (hreach : FrameLink.Reaches context s.far.linkLocalAddress request) :
  s.RequestGoing context
  := by
  refine ⟨before, request, after, pre, post, hunder, hsent, hpost, ?_, hasks, hreach⟩
  rcases hlt with hlt | rfl
  · exact hlt
  · have htail := h.tail_lt hunder
    rw [left, hsent, List.nil_append, List.filter_eq_self.mpr (by simpa using hpost),
      List.length_append] at htail
    exact htail

/-- The far end waits on, unless the flit completes its request. -/
theorem Waits.arrive_far (hwaits : Waits context s.swap) (h : Arrives s flit arriving result dlp)
    (hinv : Inv context s)
    (hafter : result.bind creditOf = none → Inv context (s.afterFlit arriving dlp)) :
  Waits context (s.afterFlit arriving dlp).swap ∨ Answers context s result dlp
  := by
  obtain ⟨_, _, hbefore⟩ := hinv.swap.carries .control
  obtain ⟨frames, n, hcarries, hpasses⟩ := h.passes hinv hbefore
  rw [← hbefore.controlUnderWay_eq, ← hcarries.controlUnderWay_eq] at hpasses
  have hunder := h.controlUnderWay
  obtain ⟨_, _, _, _, hdlp⟩ := h.sameSender
  by_cases hwaits' : Waits context (s.afterFlit arriving dlp).swap
  · exact .inl hwaits'
  right
  rw [Waits, Classical.not_imp, not_and, not_or, not_or] at hwaits'
  obtain ⟨hpending, hnot⟩ := hwaits'
  obtain ⟨hzero, hcoming⟩ := hwaits hpending
  obtain ⟨hnocredit, hnorequest, hnofull⟩ := hnot hzero
  rcases hcoming with ⟨packet, hpacket, hbrings⟩ |
    ⟨before, request, after, pre, post, hunder₁, hsent, hpost, hlt, hasks, hreach⟩ | hfull
  · refine absurd ⟨packet, ?_, hbrings⟩ hnocredit
    change packet ∈ (s.afterFlit arriving dlp).controlUnderWay
    rw [hunder]
    exact hpacket
  · have hfirst : flit :: arriving = pre ++ post := h.first.symm.trans hsent
    have hnext : ∃ pre' post', arriving = pre' ++ post' ∧
        (∀ flit ∈ post', flit.vcid.traffic = .control) ∧
        (flitsOf dlp.cfg after < post'.length + (queueRest s.far.dlp.controlTxQueue).length ∨
          pre' = []) := by
      cases pre with
      | nil =>
        rw [List.nil_append] at hfirst
        rw [← hfirst, List.forall_mem_cons] at hpost
        exact ⟨[], arriving, rfl, hpost.2, .inr rfl⟩
      | cons first pre =>
        rw [List.cons_append, List.cons.injEq] at hfirst
        refine ⟨pre, post, hfirst.2, hpost, .inl ?_⟩
        rw [hdlp]
        exact hlt
    obtain ⟨pre', post', harriving, hpost', hlt'⟩ := hnext
    have hgone : ∀ before', (s.afterFlit arriving dlp).swap.controlUnderWay
        ≠ before' ++ request :: after := fun before' hunder' =>
      hnorequest (hcarries.requestGoing hunder' harriving hpost' hlt' hasks hreach)
    rcases hpasses with ⟨hsame, -⟩ | ⟨-, packet, hresult, hcons⟩
    · exact absurd (hsame.trans hunder₁) (hgone before)
    rw [hcons] at hunder₁
    cases before with
    | cons first before =>
      rw [List.cons_append, List.cons.injEq] at hunder₁
      exact absurd hunder₁.2 (hgone before)
    | nil =>
      rw [List.nil_append, List.cons.injEq] at hunder₁
      obtain ⟨rfl, hrest⟩ := hunder₁
      -- The request was the first packet, so that no more flits are left than those of the others.
      have hcontrol : ∀ flit ∈ arriving, flit.vcid.traffic = .control := by
        rcases hlt' with hlt' | rfl
        · exfalso
          have hlength := hcarries.length_left
          rw [hrest] at hlength
          have hleft : (s.afterFlit arriving dlp).swap.left .control
              = pre'.filter (fun flit => flit.vcid.traffic = .control)
                ++ (post' ++ queueRest s.far.dlp.controlTxQueue) := by
            change arriving.filter _ ++ queueRest s.far.dlp.controlTxQueue = _
            rw [harriving, List.filter_append, List.append_assoc,
              List.filter_eq_self.mpr (show ∀ flit ∈ post', _ by simpa using hpost')]
          rw [hleft, List.length_append, List.length_append] at hlength
          change _ + n = flitsOf dlp.cfg after at hlength
          omega
        · rw [harriving]
          exact hpost'
      refine ⟨⟨packet, hresult, hasks, hreach⟩, ?_, hzero⟩
      have hinv' := hafter (by rw [hresult]; exact hasks.creditOf_eq)
      exact hinv'.grantable hnofull hzero hnocredit hcontrol
  · exfalso
    apply hnofull
    have hcontrol := (hinv.traffic_of_full hfull).2 flit (by rw [h.first]; exact List.mem_cons_self)
    change dlp.dataRxInUse = dlp.rxBufferFlits
    rw [h.dataRxInUse hinv hcontrol, hdlp]
    exact hfull

/-- The first flit in flight to the near end arrives. -/
theorem Answered.receiveFlit (h : Answered context s) (hinv : Inv context s)
    (hr : Readable context s) {now : U64} (hr' : Readable context (s.receiveFlit now)) :
  Answered context (s.receiveFlit now)
  := by
  have hinv' := hinv.receiveFlit hr hr'
  rw [FlitLink.receiveFlit] at hr' hinv' ⊢
  split
  · exact h
  next flit arriving hfirst =>
  rw [hfirst] at hr' hinv'
  dsimp only at hr' hinv'
  obtain ⟨result, dlp, hreceive, hmatch⟩ := hinv.receive hfirst
  have harrives : Arrives s flit arriving result dlp := ⟨hfirst, hreceive⟩
  rw [LinkedEndpoint.receiveFlit, hreceive] at hr' hinv' ⊢
  cases result with
  | none =>
    refine ⟨h.1.arrive harrives hinv rfl, ?_⟩
    rcases h.2.arrive_far harrives hinv (fun _ => hmatch) with hwaits | hanswers
    · exact hwaits
    · obtain ⟨request, hrequest, -⟩ := hanswers.asks
      cases hrequest
  | some packet =>
    dsimp only at hr' hinv' ⊢
    rw [Option.bind_some] at hmatch
    cases hcredit : creditOf packet with
    | some count =>
      rw [hcredit] at hmatch
      obtain ⟨hdestination, hinv₁⟩ := hmatch
      have hmoves := LinkedEndpoint.moves_handlePacket_of_credit { s.near with dlp } now hcredit (by
        rw [LinkedEndpoint.acceptsDestination, hdestination packet rfl]
        simp)
      obtain ⟨packets, hsends⟩ := hmoves.appends
      have hgranted : Inv context { s with
          near := ({ s.near with dlp } : LinkedEndpoint T).granted count, arriving } :=
        Inv.of_settings (s := { s.withDlp dlp with arriving }) hinv₁ rfl rfl rfl rfl
      constructor
      · intro hpending
        rw [show (({ s.near with dlp } : LinkedEndpoint T).handlePacket packet now).2.creditRequestPending
          = false from hsends.creditRequestPending] at hpending
        cases hpending
      · have hbrings : (some packet).bind creditOf ≠ none := by simp [hcredit]
        rcases h.2.arrive_far harrives hinv (fun hnone => absurd hnone hbrings) with hwaits | hanswers
        · obtain ⟨_, _, hbefore⟩ := hinv.swap.carries .control
          obtain ⟨frames, n, hcarries, -⟩ := harrives.passes hinv hbefore
          have hwaits' : Waits context (FlitLink.swap { s with
              near := ({ s.near with dlp } : LinkedEndpoint T).granted count, arriving }) :=
            hwaits.moved hcarries rfl rfl rfl ⟨_, _, _, _, _, rfl⟩ rfl
          exact hwaits'.sends_far hgranted hinv' hr' hsends
        · obtain ⟨request, hrequest, hasks, -⟩ := hanswers.asks
          cases hrequest
          rw [hasks.creditOf_eq] at hcredit
          cases hcredit
    | none =>
      rw [hcredit] at hmatch
      obtain ⟨packets, hsends⟩ :=
        (LinkedEndpoint.handles_handlePacket { s.near with dlp } now hcredit).appends
      have hmatch' : Inv context (s.afterFlit arriving dlp) := hmatch
      constructor
      · exact (h.1.arrive harrives hinv hcredit).sends hmatch' hinv' hsends
      · rcases h.2.arrive_far harrives hinv (fun _ => hmatch') with hwaits | hanswers
        · exact hwaits.sends_far hmatch' hinv' hr' hsends
        · intro
          refine ⟨hanswers.without_credit, .inl ?_⟩
          obtain ⟨request, hrequest, hasks, hreach⟩ := hanswers.asks
          cases hrequest
          obtain ⟨packets', hsends', reply, hreply, hbrings⟩ := LinkedEndpoint.answers_handlePacket
            (e := { s.near with dlp }) hmatch'.up (by
              rw [LinkedEndpoint.acceptsDestination, hreach.1]
              simp) hasks hanswers.grantable now
          have hunder := hmatch'.controlUnderWay_queues hsends'.toQueues
          refine ⟨reply.within s.far.dlp.localPrefix, ?_, by rwa [creditOf_within]⟩
          change _ ∈ controlUnderWay { s.afterFlit arriving dlp with
            near := (({ s.near with dlp } : LinkedEndpoint T).handlePacket packet now).2 }
          rw [hunder]
          exact List.mem_append_right _ (List.mem_map_of_mem hreply)

/-! ### Runs -/

/-- Whatever happens at the near end, nobody waits in vain. -/
theorem Answered.actNear (h : Answered context s) (hinv : Inv context s) (hr : Readable context s)
    {action : LocalAction T} (haction : action.NoCredit) (hr' : Readable context (s.actNear action)) :
  Answered context (s.actNear action)
  := by
  have hinv' := hinv.actNear hr haction hr'
  have happends : ∀ {e : LinkedEndpoint T}, LinkedEndpoint.Appends s.near e →
      Inv context { s with near := e } → Readable context { s with near := e } →
      Answered context { s with near := e } := fun happends hinv' hr' => h.appends hinv hinv' hr' happends
  have hsame : ∀ {e : LinkedEndpoint T}, LinkedEndpoint.SameLink s.near e →
      LinkedEndpoint.Appends s.near e := fun hsame => ⟨_, hsame.sends⟩
  cases action with
  | app op => exact happends (LinkedEndpoint.moves_runTransport s.near _).appends hinv' hr'
  | sendGctl remote msg sizeClass =>
    refine happends ?_ hinv' hr'
    exact (LinkedEndpoint.moves_trySendGctlFrom s.near _ remote haction _).appends
  | solicitRouter transactionId =>
    exact happends (s.near.moves_solicitRouter transactionId).appends hinv' hr'
  | enableAddressAuthority config => exact happends (hsame ⟨rfl, rfl, rfl, rfl, rfl⟩) hinv' hr'
  | takeEchoReply transactionId => exact happends (hsame ⟨rfl, rfl, rfl, rfl, rfl⟩) hinv' hr'
  | takeGctl => exact happends (hsame ⟨rfl, rfl, rfl, rfl, rfl⟩) hinv' hr'
  | grantControlTxCredit count =>
    obtain ⟨frames, n, hcarries⟩ := hinv.swap.carries .control
    let s' : FlitLink T :=
      { s with near := { s.near with dlp := s.near.dlp.grantControlTxCredit count } }
    have hd : DlpEndpoint.SameReceiver s.near.dlp s'.near.dlp := ⟨_, _, _, _, _, rfl⟩
    have hfar : s'.far = s.far := rfl
    have hunder : s'.controlUnderWay = s.controlUnderWay := controlUnderWay_congr hfar rfl
    have hunder' : s'.swap.controlUnderWay = s.swap.controlUnderWay :=
      hcarries.swap_controlUnderWay hfar rfl hd
    refine ⟨?_, h.2.moved hcarries hfar rfl rfl hd rfl⟩
    change Waits context s'
    rw [Waits, CreditComing, RequestGoing, hunder, hunder']
    exact h.1
  | pollTxFlit => exact h.pollTxFlit hinv hr
  | pollTxBurst room => exact h.pollTxBurst hinv room
  | receiveFlit now => exact h.receiveFlit hinv hr hr'

/-- What arrives changes neither the buffer nor the credit for control flits. -/
theorem Inv.receiveFlit_same (h : Inv context s) (now : U64) :
  (s.receiveFlit now).near.dlp.rxBufferFlits = s.near.dlp.rxBufferFlits ∧
    (s.receiveFlit now).near.dlp.controlTxCredit = s.near.dlp.controlTxCredit
  := by
  have happends : ∀ {e e' : LinkedEndpoint T}, LinkedEndpoint.Appends e e' →
      e'.dlp.rxBufferFlits = e.dlp.rxBufferFlits ∧
        e'.dlp.controlTxCredit = e.dlp.controlTxCredit := by
    rintro e e' ⟨packets, hsends⟩
    exact ⟨hsends.held.rxBufferFlits, hsends.controlTxCredit⟩
  rw [FlitLink.receiveFlit]
  split
  · exact ⟨rfl, rfl⟩
  next flit arriving hfirst =>
  obtain ⟨result, dlp, hreceive, hmatch⟩ := h.receive hfirst
  obtain ⟨_, _, _, _, hdlp⟩ := Arrives.sameSender ⟨hfirst, hreceive⟩
  rw [LinkedEndpoint.receiveFlit, hreceive]
  have hsame : dlp.rxBufferFlits = s.near.dlp.rxBufferFlits ∧
      dlp.controlTxCredit = s.near.dlp.controlTxCredit := by
    rw [hdlp]
    exact ⟨rfl, rfl⟩
  cases result with
  | none => exact hsame
  | some packet =>
    rw [Option.bind_some] at hmatch
    cases hcredit : creditOf packet with
    | none =>
      obtain ⟨hbuffer, hcontrol⟩ := happends
        (LinkedEndpoint.handles_handlePacket { s.near with dlp } now hcredit).appends
      exact ⟨hbuffer.trans hsame.1, hcontrol.trans hsame.2⟩
    | some count =>
      rw [hcredit] at hmatch
      obtain ⟨hbuffer, hcontrol⟩ := happends
        (LinkedEndpoint.moves_handlePacket_of_credit { s.near with dlp } now hcredit (by
          rw [LinkedEndpoint.acceptsDestination, hmatch.1 packet rfl]
          simp)).appends
      exact ⟨hbuffer.trans hsame.1, hcontrol.trans hsame.2⟩

/-- Nothing that happens at the near end changes its buffer. -/
theorem Inv.rxBufferFlits_actNear (h : Inv context s) {action : LocalAction T} (haction : action.NoCredit) :
  (s.actNear action).near.dlp.rxBufferFlits = s.near.dlp.rxBufferFlits ∧
    (s.actNear action).far = s.far
  := by
  have happends : ∀ {e e' : LinkedEndpoint T}, LinkedEndpoint.Appends e e' →
      e'.dlp.rxBufferFlits = e.dlp.rxBufferFlits := by
    rintro e e' ⟨packets, hsends⟩
    exact hsends.held.rxBufferFlits
  have hburst : ∀ {s : FlitLink T} (room : ℕ),
      (s.pollTxBurst room).near.dlp.rxBufferFlits = s.near.dlp.rxBufferFlits ∧
        (s.pollTxBurst room).far = s.far := by
    intro s room
    obtain ⟨_, _, _, _, _, hdlp⟩ := s.near.dlp.sameReceiver_pollTxBurst room
    rw [FlitLink.pollTxBurst]
    generalize s.near.dlp.pollTxBurst room = burst at hdlp
    obtain ⟨result, dlp⟩ := burst
    dsimp only at hdlp
    subst hdlp
    cases result with
    | ok flits => exact ⟨rfl, rfl⟩
    | error err => exact ⟨rfl, rfl⟩
  cases action with
  | app op => exact ⟨happends (LinkedEndpoint.moves_runTransport s.near _).appends, rfl⟩
  | sendGctl remote msg sizeClass =>
    refine ⟨happends ?_, rfl⟩
    exact (LinkedEndpoint.moves_trySendGctlFrom s.near _ remote haction _).appends
  | solicitRouter transactionId =>
    exact ⟨happends (s.near.moves_solicitRouter transactionId).appends, rfl⟩
  | enableAddressAuthority config => exact ⟨rfl, rfl⟩
  | takeEchoReply transactionId => exact ⟨rfl, rfl⟩
  | takeGctl => exact ⟨rfl, rfl⟩
  | grantControlTxCredit count => exact ⟨rfl, rfl⟩
  | pollTxFlit =>
    change s.pollTxFlit.near.dlp.rxBufferFlits = _ ∧ s.pollTxFlit.far = _
    rw [h.pollTxFlit_eq, (hburst 1).1, (hburst 1).2]
    exact ⟨h.asked.2.1, rfl⟩
  | pollTxBurst room => exact hburst room
  | receiveFlit now =>
    refine ⟨(h.receiveFlit_same now).1, ?_⟩
    rw [FlitLink.actNear, FlitLink.receiveFlit]
    split
    · rfl
    · rfl

/-- What is known in every state of a link of flits. -/
structure Steady (context : Option U64) (s : FlitLink T) : Prop where
  inv : Inv context s
  answered : Answered context s
  near_buffer : s.near.dlp.rxBufferFlits ≠ 0#32
  far_buffer : s.far.dlp.rxBufferFlits ≠ 0#32

theorem Steady.swap (h : Steady context s) :
  Steady context s.swap
  := ⟨h.inv.swap, h.answered.swap, h.far_buffer, h.near_buffer⟩

theorem Steady.actNear (h : Steady context s) (hr : Readable context s) {action : LocalAction T}
    (haction : action.NoCredit) (hr' : Readable context (s.actNear action)) :
  Steady context (s.actNear action)
  := by
  obtain ⟨hbuffer, hfar⟩ := h.inv.rxBufferFlits_actNear haction
  refine ⟨h.inv.actNear hr haction hr', h.answered.actNear h.inv hr haction hr', ?_, ?_⟩
  · rw [hbuffer]
    exact h.near_buffer
  · rw [hfar]
    exact h.far_buffer

theorem steady_step (s : FlitLink T) (action : Action T) (h : Steady context s)
    (hok : action.NoCredit ∧ Readable context s ∧ Readable context (s.step action)) :
  Steady context (s.step action)
  := by
  obtain ⟨haction, hr, hr'⟩ := hok
  cases action with
  | near action => exact h.actNear hr haction hr'
  | far action => exact (h.swap.actNear hr.swap haction hr'.swap).swap

theorem buffer_linkAttached {config : EndpointConfig} (h : e.Fresh config) (peer : GdpAddress)
    (window : U32) :
  (e.linkAttached peer window).2.dlp.rxBufferFlits ≠ 0#32
  := by
  obtain ⟨dlpConfig, hnew, -⟩ := fresh_dlp h
  obtain ⟨hbuffer, hdlp⟩ := DlpEndpoint.new_eq_ok hnew
  have hbuffer' : e.dlp.rxBufferFlits ≠ 0#32 := by
    rw [hdlp]
    exact hbuffer
  rw [LinkedEndpoint.linkAttached]
  split
  · exact hbuffer'
  next hwindow =>
    obtain ⟨packets, hsends⟩ := (moves_linkAttached e peer hwindow).appends
    rw [LinkedEndpoint.linkAttached, if_neg hwindow] at hsends
    rw [hsends.held.rxBufferFlits]
    exact hbuffer'

theorem steady_attached {configA configB : EndpointConfig} {a b : LinkedEndpoint T}
    (ha : a.Fresh configA) (hb : b.Fresh configB) (hmode : configA.vcMode = configB.vcMode)
    (hwire : configA.gdpWire = configB.gdpWire) (hr : Readable context (attached a b)) :
  Steady context (attached a b)
  := by
  refine ⟨inv_attached ha hb hmode hwire hr, ⟨?_, ?_⟩, ?_, ?_⟩
  · intro hpending
    rw [show (attached a b).near.creditRequestPending = false from
      LinkedEndpoint.pending_linkAttached ha _ _] at hpending
    cases hpending
  · intro hpending
    rw [show (attached a b).swap.near.creditRequestPending = false from
      LinkedEndpoint.pending_linkAttached hb _ _] at hpending
    cases hpending
  · exact buffer_linkAttached ha _ _
  · exact buffer_linkAttached hb _ _

theorem steady_run {configA configB : EndpointConfig} {a b : LinkedEndpoint T}
    (ha : a.Fresh configA) (hb : b.Fresh configB) (hmode : configA.vcMode = configB.vcMode)
    (hwire : configA.gdpWire = configB.gdpWire) {as : List (Action T)}
    (has : ∀ action ∈ as, action.NoCredit)
    (hreadable : ∀ bs, bs <+: as → Readable context (Machine.run step (attached a b) bs)) :
  Steady context (Machine.run step (attached a b) as)
  := by
  apply Machine.invariant_along steady_step
  · exact steady_attached ha hb hmode hwire (hreadable [] List.nil_prefix)
  · exact (Machine.along_of_forall _ has).and (Machine.along_of_forall_isPrefix hreadable)

/-! ### Endpoints that write no local addresses -/

/-- Neither end prefers the local form, so that every control message is read as it was written. -/
def Global (s : FlitLink T) : Prop :=
  s.near.config.preferLocalGdp = false ∧ s.far.config.preferLocalGdp = false

theorem Global.readable (h : s.Global) :
  Readable none s
  := by
  refine ⟨?_, ?_⟩
  · rintro ⟨hprefers, -⟩
    rw [h.1] at hprefers
    cases hprefers
  · rintro ⟨hprefers, -⟩
    rw [h.2] at hprefers
    cases hprefers

theorem prefers_moves {e e' : LinkedEndpoint T} (h : LinkedEndpoint.Moves e e') :
  e'.config.preferLocalGdp = e.config.preferLocalGdp
  := by rw [(LinkedEndpoint.Moves.settings h).1]

theorem prefers_handles {e e' : LinkedEndpoint T} (h : LinkedEndpoint.Handles e e') :
  e'.config.preferLocalGdp = e.config.preferLocalGdp
  := by
  rcases h with hmoves | ⟨p, hmoves⟩
  · exact prefers_moves hmoves
  · have hsame := prefers_moves hmoves
    exact hsame

/-- Nothing that happens at the near end changes what it prefers. -/
theorem Inv.prefers_actNear (h : Inv context s) {action : LocalAction T} (haction : action.NoCredit) :
  (s.actNear action).near.config.preferLocalGdp = s.near.config.preferLocalGdp
  := by
  have hburst : ∀ {s : FlitLink T} (room : ℕ), (s.pollTxBurst room).near.config = s.near.config := by
    intro s room
    rw [FlitLink.pollTxBurst]
    generalize s.near.dlp.pollTxBurst room = burst
    obtain ⟨err | flits, dlp⟩ := burst
    · rfl
    · rfl
  cases action with
  | app op => exact prefers_moves (LinkedEndpoint.moves_runTransport s.near _)
  | sendGctl remote msg sizeClass =>
    exact prefers_moves (LinkedEndpoint.moves_trySendGctlFrom s.near _ remote haction _)
  | solicitRouter transactionId => exact prefers_moves (s.near.moves_solicitRouter transactionId)
  | enableAddressAuthority config => rfl
  | takeEchoReply transactionId => rfl
  | takeGctl => rfl
  | grantControlTxCredit count => rfl
  | pollTxFlit =>
    change s.pollTxFlit.near.config.preferLocalGdp = _
    rw [h.pollTxFlit_eq, hburst]
    obtain ⟨_, _, _, _, hforward, -⟩ := h
    rcases LinkedEndpoint.maybeRequestLinkCredit_cases hforward.link.a_up hforward.peer with
      ⟨-, hnone⟩ | ⟨_, _, _, -, -, hsome⟩
    · rw [hnone]
    · rw [hsome]
      rfl
  | pollTxBurst room =>
    change (s.pollTxBurst room).near.config.preferLocalGdp = _
    rw [hburst]
  | receiveFlit now =>
    rw [FlitLink.actNear, FlitLink.receiveFlit]
    split
    · rfl
    next flit arriving hfirst =>
    obtain ⟨result, dlp, hreceive, hmatch⟩ := h.receive hfirst
    rw [LinkedEndpoint.receiveFlit, hreceive]
    cases result with
    | none => rfl
    | some packet =>
      rw [Option.bind_some] at hmatch
      cases hcredit : creditOf packet with
      | none =>
        have hsame := prefers_handles
          (LinkedEndpoint.handles_handlePacket { s.near with dlp } now hcredit)
        exact hsame
      | some count =>
        rw [hcredit] at hmatch
        have haccepts : ({ s.near with dlp } : LinkedEndpoint T).acceptsDestination
            packet.header.destination := by
          rw [LinkedEndpoint.acceptsDestination, hmatch.1 packet rfl]
          simp
        have hsame := prefers_moves
          (LinkedEndpoint.moves_handlePacket_of_credit { s.near with dlp } now hcredit haccepts)
        exact hsame

theorem steady_step_global (s : FlitLink T) (action : Action T) (h : Steady none s ∧ s.Global)
    (haction : action.NoCredit) :
  Steady none (s.step action) ∧ (s.step action).Global
  := by
  obtain ⟨hsteady, hglobal⟩ := h
  have hfar : ∀ {s : FlitLink T} (action : LocalAction T), (s.actNear action).far = s.far := by
    intro s action
    cases action with
    | pollTxFlit =>
      rw [actNear, FlitLink.pollTxFlit]
      split
      · rfl
      · rfl
    | pollTxBurst room =>
      rw [actNear, FlitLink.pollTxBurst]
      split
      · rfl
      · rfl
    | receiveFlit now =>
      rw [actNear, FlitLink.receiveFlit]
      split
      · rfl
      · rfl
    | _ => rfl
  have hglobal' : (s.step action).Global := by
    cases action with
    | near action =>
      refine ⟨(hsteady.inv.prefers_actNear haction).trans hglobal.1, ?_⟩
      change (s.actNear action).far.config.preferLocalGdp = false
      rw [hfar]
      exact hglobal.2
    | far action =>
      refine ⟨?_, (hsteady.swap.inv.prefers_actNear haction).trans hglobal.2⟩
      change (s.swap.actNear action).far.config.preferLocalGdp = false
      rw [hfar]
      exact hglobal.1
  exact ⟨steady_step s action hsteady ⟨haction, hglobal.readable, hglobal'.readable⟩, hglobal'⟩

/-- Where neither end prefers the local form, every control message is read as it was written, in every
run. -/
theorem readable_run {configA configB : EndpointConfig} {a b : LinkedEndpoint T}
    (ha : a.Fresh configA) (hb : b.Fresh configB) (hmode : configA.vcMode = configB.vcMode)
    (hwire : configA.gdpWire = configB.gdpWire) (hlocal : configA.preferLocalGdp = false)
    (hlocal' : configB.preferLocalGdp = false) {as : List (Action T)}
    (has : ∀ action ∈ as, action.NoCredit) :
  Readable none (Machine.run step (attached a b) as)
  := by
  obtain ⟨_, -, -, -, hconfigA, -, hwindowA⟩ := fresh_dlp ha
  obtain ⟨_, -, -, -, hconfigB, -, hwindowB⟩ := fresh_dlp hb
  have hglobal : (attached a b).Global := by
    constructor
    · refine (prefers_moves (moves_linkAttached a b.linkLocalAddress hwindowB)).trans ?_
      change a.config.preferLocalGdp = false
      rw [hconfigA, hlocal]
    · refine (prefers_moves (moves_linkAttached b a.linkLocalAddress hwindowA)).trans ?_
      change b.config.preferLocalGdp = false
      rw [hconfigB, hlocal']
  have hrun : Steady none (Machine.run step (attached a b) as) ∧
      (Machine.run step (attached a b) as).Global :=
    Machine.invariant_along steady_step_global
      ⟨steady_attached ha hb hmode hwire hglobal.readable, hglobal⟩ (Machine.along_of_forall _ has)
  exact hrun.2.readable

/-! ### Quiet states -/

/-- Nothing is in flight, and neither end can send anything. -/
structure Quiet (s : FlitLink T) : Prop where
  sent : s.sent = []
  arriving : s.arriving = []
  near_silent : ∀ flit, s.near.pollTxFlit.1 ≠ .ok (some flit)
  far_silent : ∀ flit, s.far.pollTxFlit.1 ≠ .ok (some flit)

/-- Where nothing is sent although there is credit for control flits, the near end is idle. -/
theorem Inv.idle (h : Inv context s) (hsilent : ∀ flit, s.near.pollTxFlit.1 ≠ .ok (some flit))
    (hcredit : s.near.dlp.controlTxCredit ≠ 0#32) :
  s.near.Idle
  := by
  rw [h.near_pollTxFlit] at hsilent
  have hcredit' : s.near.maybeRequestLinkCredit.2.dlp.controlTxCredit ≠ 0#32 := by
    rw [h.asked.2.2]
    exact hcredit
  obtain ⟨_, _, _, _, hforward, -⟩ := id h
  have hcases := LinkedEndpoint.maybeRequestLinkCredit_cases hforward.link.a_up hforward.peer
  obtain ⟨hcontrol, hdata⟩ := DlpEndpoint.idle_of_pollTx h.maybeRequestLinkCredit.up hcredit'
    hsilent
  rcases hcases with ⟨hasks, heq⟩ | ⟨_, _, packet, -, hholds, heq⟩
  · rw [heq] at hcontrol hdata
    refine ⟨hcontrol, ?_⟩
    rcases hdata with hnone | hzero
    · exact .inl hnone
    rcases hasks with hnone | hsome | hpending
    · exact .inl hnone
    · exact absurd hzero hsome
    · exact .inr ⟨hzero, hpending⟩
  · exfalso
    have hpos := packet.flitLen_pos s.near.dlp.cfg
    have hlength :=
      length_queueRest_queued s.near.dlp Vcid.control s.near.dlp.controlTxQueue [packet]
    rw [flitsOf_cons, List.map_singleton, length_queueRest] at hlength
    rw [heq] at hcontrol
    change DlpEndpoint.queueFlits (s.near.dlp.controlTxQueue ++ [s.near.dlp.frameOn Vcid.control packet])
      = 0 at hcontrol
    omega

/-- An end that has nothing that it can send is idle once it has been polled. -/
theorem Inv.idle_pollTxFlit (h : Inv context s)
    (hsilent : ∀ flit, s.near.pollTxFlit.1 ≠ .ok (some flit))
    (hcredit : s.near.dlp.controlTxCredit ≠ 0#32) :
  s.near.pollTxFlit.2.Idle
  := by
  obtain ⟨hcontrol, hdata⟩ := h.idle hsilent hcredit
  have hnone : s.near.maybeRequestLinkCredit = (.ok (), s.near) := by
    rw [LinkedEndpoint.maybeRequestLinkCredit, if_pos]
    rcases hdata with hnone | ⟨-, hpending⟩
    · exact .inl hnone
    · exact .inr (.inr hpending)
  rw [LinkedEndpoint.pollTxFlit, hnone] at hsilent ⊢
  obtain ⟨hcontrol', hdata', hzero⟩ := DlpEndpoint.pollTx_of_silent h.up hsilent
  refine ⟨hcontrol'.trans hcontrol, ?_⟩
  rcases hdata with hnone | ⟨hcredit, hpending⟩
  · exact .inl (hdata'.trans hnone)
  · exact .inr ⟨hzero.trans hcredit, hpending⟩

/-- An end that sends no control flit keeps its credit for control flits. -/
theorem Inv.controlTxCredit_pollTxFlit (h : Inv context s)
    (hdata : ∀ flit, s.near.pollTxFlit.1 = .ok (some flit) → flit.vcid.traffic = .data) :
  s.near.pollTxFlit.2.dlp.controlTxCredit = s.near.dlp.controlTxCredit
  := by
  have hinv := h.maybeRequestLinkCredit
  obtain ⟨frames, n, hcarries⟩ := hinv.carries .control
  rw [h.near_pollTxFlit] at hdata ⊢
  have hpolled := DlpEndpoint.controlTxCredit_pollTx_of_data hinv.up (by
    intro flit hflit
    exact hcarries.carrying.traffic_of_mem_left (List.mem_append_right _ hflit)) hdata
  exact hpolled.trans h.asked.2.2

/-- Nothing is on its way where nothing is in flight or queued. -/
theorem Inv.controlUnderWay_nil (h : Inv context s) (hsent : s.sent = [])
    (hqueue : s.near.dlp.queuedControlFlits = 0) :
  s.controlUnderWay = []
  := by
  obtain ⟨frames, n, hcarries⟩ := h.carries .control
  have hrest : queueRest (s.near.dlp.txQueue .control) = [] := by
    apply List.eq_nil_of_length_eq_zero
    rw [length_queueRest]
    exact hqueue
  have hcarrying := hcarries.carrying
  rw [left, hsent, hrest] at hcarrying
  rw [hcarries.controlUnderWay_eq]
  exact hcarrying.yielded_eq.symm

/-- Where nothing is in flight and both ends are idle, a data flit waits exactly if the buffer of the
other end is taken up by a packet that is larger. -/
theorem Steady.waits_iff (h : Steady context s) (hsent : s.sent = []) (harriving : s.arriving = [])
    (hidle : s.near.Idle) (hidle' : s.far.Idle) :
  s.near.dlp.queuedDataFlits ≠ 0 ↔ s.far.dlp.Overfull
  := by
  obtain ⟨hcontrol, hdata⟩ := hidle
  obtain ⟨hcontrol', -⟩ := hidle'
  obtain ⟨queued, yielded, _, _, hforward, -⟩ := id h.inv
  obtain ⟨frames, hcarryingOf⟩ := hforward.link.data
  have hcarrying : Carrying s.far.dlp.cfg s.far.dlp.localPrefix s.far.dlp.vcMode .data s.far.dlp.rx
      (queueRest s.near.dlp.dataTxQueue) (queued .data) (yielded .data) frames
      s.far.dlp.dataRxInUse.toNat := by
    rw [DlpLink.CarryingOf, DlpLink.left, DlpLink.inFlight] at hcarryingOf
    change Carrying _ _ _ _ _ (s.sent.filter _ ++ queueRest s.near.dlp.dataTxQueue) _ _ _ _
      at hcarryingOf
    rw [hsent] at hcarryingOf
    exact hcarryingOf
  have hlength := hcarrying.length_left
  have hqueued : (queueRest s.near.dlp.dataTxQueue).length = s.near.dlp.queuedDataFlits :=
    length_queueRest _
  rw [hqueued] at hlength
  constructor
  · intro hne
    obtain ⟨-, hpending⟩ := hdata.resolve_left hne
    have hfull : s.far.dlp.Full := by
      rcases (h.answered.1 hpending).2 with ⟨packet, hpacket, -⟩ |
        ⟨before, request, after, _, _, hunder, -⟩ | hfull
      · rw [h.inv.swap.controlUnderWay_nil harriving hcontrol'] at hpacket
        cases hpacket
      · rw [h.inv.controlUnderWay_nil hsent hcontrol] at hunder
        simp at hunder
      · exact hfull
    rw [hfull] at hcarrying hlength
    have hpos : 0 < s.far.dlp.rxBufferFlits.toNat := by
      apply Nat.pos_of_ne_zero
      intro hzero
      exact h.far_buffer (BitVec.eq_of_toNat_eq hzero)
    cases frames with
    | nil =>
      rw [List.map_nil, flitsOf, List.map_nil, List.sum_nil] at hlength
      omega
    | cons f frames =>
      obtain ⟨htraffic, -⟩ := hcarrying.channel f List.mem_cons_self
      refine ⟨f.1.vcid, f.1.segment s.far.dlp.rxBufferFlits.toNat, ?_, htraffic, rfl,
        hcarrying.started f rfl⟩
      rw [hcarrying.held _ htraffic, heldSegment, if_pos ⟨hpos, rfl⟩]
  · rintro ⟨vcid, segment, hheld, htraffic, -⟩ hzero
    rw [hcarrying.held vcid htraffic] at hheld
    cases frames with
    | nil => cases hheld
    | cons f frames =>
      have hstarted := hcarrying.started f rfl
      rw [Carrying.flitLen_eq (hcarrying.carries f List.mem_cons_self)] at hstarted
      rw [List.map_cons, flitsOf_cons] at hlength
      omega

/-- Where a link of flits stalls: for two endpoints with the same channels and the same wire format
that are attached to each other, in every state of every run in which the applications send no
`CREDIT` and every control message of the link is read as it was written, where nothing is in flight
and both ends have nothing that they can send, although they have credit for control flits, no control
flit waits at all, and a data flit waits at an end exactly if the whole buffer of the other end is taken
up by the first flits of a packet that is larger than it. -/
theorem stalls_iff_overfull {configA configB : EndpointConfig} {a b : LinkedEndpoint T}
    (ha : a.Fresh configA) (hb : b.Fresh configB) (hmode : configA.vcMode = configB.vcMode)
    (hwire : configA.gdpWire = configB.gdpWire) (as : List (Action T))
    (has : ∀ action ∈ as, action.NoCredit) {context : Option U64}
    (hreadable : ∀ bs, bs <+: as → Readable context (Machine.run step (attached a b) bs))
    (hquiet : Quiet (Machine.run step (attached a b) as))
    (hcredit : (Machine.run step (attached a b) as).near.dlp.controlTxCredit ≠ 0#32)
    (hcredit' : (Machine.run step (attached a b) as).far.dlp.controlTxCredit ≠ 0#32) :
  let s := Machine.run step (attached a b) as
  s.near.dlp.queuedControlFlits = 0 ∧ s.far.dlp.queuedControlFlits = 0 ∧
    (s.near.dlp.queuedDataFlits ≠ 0 ↔ s.far.dlp.Overfull) ∧
    (s.far.dlp.queuedDataFlits ≠ 0 ↔ s.near.dlp.Overfull)
  := by
  intro s
  have hsteady : Steady context s := steady_run ha hb hmode hwire has hreadable
  have hidle : s.near.Idle := hsteady.inv.idle hquiet.near_silent hcredit
  have hidle' : s.far.Idle := hsteady.inv.swap.idle hquiet.far_silent hcredit'
  exact ⟨hidle.1, hidle'.1, hsteady.waits_iff hquiet.sent hquiet.arriving hidle hidle',
    hsteady.swap.waits_iff hquiet.arriving hquiet.sent hidle' hidle⟩

/-- The far end has sent four flits of a packet of five, and the near end has a buffer of four. -/
theorem stalls_iff_overfull_five :
  let x : GtsSend := ⟨⟨7#64⟩, .empty, []⟩
  let as : List (Action .direct) :=
    [.near (.pollTxBurst 20)] ++ List.replicate 13 (.far (.receiveFlit 0#64))
    ++ [.far (.pollTxBurst 20)] ++ List.replicate 13 (.near (.receiveFlit 0#64))
    ++ [.far (.app x), .far (.pollTxBurst 8)] ++ List.replicate 13 (.far .pollTxFlit)
    ++ List.replicate 17 (.near (.receiveFlit 0#64))
  ∃ a b : LinkedEndpoint .direct,
    a.Fresh ⟨4#32, .four, 8#8, none, false, 4#32, 32#32, ⟨true⟩⟩ ∧
    b.Fresh ⟨4#32, .four, 8#8, none, false, 4#32, 32#32, ⟨true⟩⟩ ∧
    (Machine.run step (attached a b) as).far.dlp.queuedDataFlits = 1 ∧
    (Machine.run step (attached a b) as).near.dlp.Overfull
  := by
  intro x as
  have has : ∀ action ∈ as, action.NoCredit := by
    simp [as, Action.NoCredit, LocalAction.NoCredit]
  refine ⟨_, _, .inl ⟨⟨7#64⟩, rfl⟩, .inl ⟨⟨9#64⟩, rfl⟩, ?_⟩
  have hsilent : ∀ {e : LinkedEndpoint .direct}, e.pollTxFlit.1.toOption.join = none →
      ∀ flit, e.pollTxFlit.1 ≠ .ok (some flit) := by
    intro e hnone flit hsome
    rw [hsome] at hnone
    cases hnone
  refine (and_iff_left_of_imp ?_).mpr ?_
  · intro hone
    apply (@stalls_iff_overfull .direct ⟨4#32, .four, 8#8, none, false, 4#32, 32#32, ⟨true⟩⟩
      ⟨4#32, .four, 8#8, none, false, 4#32, 32#32, ⟨true⟩⟩ _ _ (.inl ⟨⟨7#64⟩, rfl⟩)
      (.inl ⟨⟨9#64⟩, rfl⟩) rfl rfl as has none _ _ _ _).2.2.2.mp
    · rw [hone]
      simp
    · intro bs hbs
      revert bs
      simp only [← List.mem_inits]
      decide +kernel
    · refine ⟨?_, ?_, hsilent ?_, hsilent ?_⟩
      · decide +kernel
      · decide +kernel
      · decide +kernel
      · decide +kernel
    · decide +kernel
    · decide +kernel
  · decide +kernel

end FlitLink

end SmolGnet
