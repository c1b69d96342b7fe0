import SmolGnet.Endpoint.Balance
import SmolGnet.Endpoint.FrameLink

/-!
# The balance of a link of frames

What is known of the two directions of a link of frames is kept by whatever happens at its ends: a
frame that is sent moves from the queue to the link, at the price of its flits, and a frame that
arrives can be received, is taken off the credit that the receiver has given, and is returned to
the sender if it is a control frame.
-/

namespace SmolGnet

namespace DlpEndpoint

variable {e : DlpEndpoint} {frame : GnetFrame} {packet : GdpPacket}

/-- An end that has just been made. -/
theorem new_eq_ok {config : DlpConfig} (h : new config = .ok e) :
  config.rxBufferFlits ≠ 0#32 ∧ e =
    { cfg := config.gdp
      localPrefix := config.localPrefix &&& ~~~0xffff#64
      vcMode := config.vcMode
      rxBufferFlits := config.rxBufferFlits
      controlWindowFlits := config.controlWindowFlits
      dataTxCredit := 0#32
      controlTxCredit := 0#32
      dataCreditOutstanding := 0#32
      dataRxInUse := 0#32
      controlTxQueue := []
      dataTxQueue := []
      rx := fun _ => none
      desynchronized := fun _ => false
      nextDataVc := 1
      linkUp := true }
  := by
  rw [new] at h
  split at h
  · cases h
  next hne =>
  cases h
  exact ⟨fun hzero => hne (.inl hzero), rfl⟩

/-- A data frame within the credit that has been given, and every control frame, is received, and
nothing of it is held. -/
theorem receiveFrame_of_carries (hup : e.linkUp) (hidle : e.dataRxInUse = 0#32)
    (hchannel : frame.vcid.traffic = frame.traffic ∧ frame.vcid.val < e.vcMode.count)
    (hcarries : frame.Carries e.cfg packet)
    (hroom : frame.traffic = .data → frame.flitLen ≤ e.dataCreditOutstanding.toNat)
    (hle : e.dataCreditOutstanding ≤ e.rxBufferFlits) :
  ∃ outstanding, e.receiveFrame frame = (.ok (packet.within e.localPrefix),
      { e with dataCreditOutstanding := outstanding }) ∧
    outstanding.toNat + trafficFlits .data [frame] = e.dataCreditOutstanding.toNat
  := by
  have hcontrol : ¬ (frame.traffic = .control ∧ !frame.vcid.isControl) := by
    rw [← hchannel.1]
    simp [Vcid.traffic]
  have hdata : ¬ (frame.traffic = .data ∧ frame.vcid.isControl) := by
    rw [← hchannel.1]
    simp [Vcid.traffic]
  rw [receiveFrame, if_neg (by simp [hup]), if_neg (Nat.not_le.mpr hchannel.2), if_neg hcontrol,
    if_neg hdata]
  cases ht : frame.traffic with
  | control =>
    refine ⟨e.dataCreditOutstanding, ?_, ?_⟩
    · dsimp only
      rw [hcarries.decode]
    · rw [trafficFlits_cons, if_neg (by simp [ht])]
      rfl
  | data =>
    have hflits := hroom ht
    have hlt := e.dataCreditOutstanding.isLt
    have hcount : (BitVec.ofNat 32 frame.flitLen).toNat = frame.flitLen := by
      rw [BitVec.toNat_ofNat, Nat.mod_eq_of_lt (by omega)]
    rw [BitVec.le_def] at hle
    have hcredit : ¬ e.dataCreditOutstanding < BitVec.ofNat 32 frame.flitLen := by
      rw [BitVec.lt_def, hcount]
      omega
    have havailable : ¬ e.availableRxFlits < BitVec.ofNat 32 frame.flitLen := by
      rw [availableRxFlits, BitVec.lt_def, toNat_saturatingSub, hcount, hidle, BitVec.toNat_ofNat,
        Nat.zero_mod]
      omega
    refine ⟨e.dataCreditOutstanding - BitVec.ofNat 32 frame.flitLen, ?_, ?_⟩
    · dsimp only
      rw [if_neg hcredit, if_neg havailable, hcarries.decode, releaseDataSegment]
      dsimp only
      have hreleased : saturatingSub (e.dataRxInUse + BitVec.ofNat 32 frame.flitLen)
          (BitVec.ofNat 32 frame.flitLen) = e.dataRxInUse := by
        apply BitVec.eq_of_toNat_eq
        rw [toNat_saturatingSub, hidle, BitVec.zero_add, Nat.sub_self]
        rfl
      rw [hreleased]
    · rw [trafficFlits_cons, if_pos ht, BitVec.toNat_sub_of_le (BitVec.not_lt.mp hcredit), hcount]
      exact Nat.sub_add_cancel hflits

end DlpEndpoint

namespace FrameLink

variable {T : Transport} {context : Option U64} {s : FrameLink T}

theorem Transmits.creditIn_of_data {cfg : GdpWireConfig} {mode : VcMode}
    {destination : GdpAddress} {frame : GnetFrame}
    (h : Transmits context cfg mode destination frame) (ht : frame.traffic = .data) :
  frame.creditIn cfg = none
  := by
  obtain ⟨packet, hcarries, hplain, -⟩ := h.carries
  exact hcarries.creditIn_eq.trans (hplain ht)

/-! ### Transmission -/

/-- The near end sends its first control frame. -/
theorem Balanced.sendControl (h : Balanced context s) {front : TxFrame} {rest : List TxFrame}
    (hqueue : s.near.dlp.controlTxQueue = front :: rest)
    (hle : front.flitLen ≤ s.near.dlp.controlTxCredit.toNat) :
  Balanced context { s.withDlp { s.near.dlp with
      controlTxQueue := rest
      controlTxCredit := s.near.dlp.controlTxCredit - BitVec.ofNat 32 front.flitLen } with
    sent := s.sent ++ [front.whole] }
  := by
  obtain ⟨hforward, hback⟩ := h
  have hlt := s.near.dlp.controlTxCredit.isLt
  have hsubset : ∀ frame ∈ rest, frame ∈ s.near.dlp.controlTxQueue := by
    rw [hqueue]
    exact fun frame hframe => List.mem_cons_of_mem _ hframe
  have htraffic : front.whole.traffic = .control := by
    apply hforward.control
    rw [hqueue]
    exact List.mem_cons_self
  have hcontrol : trafficFlits .control [front.whole] = front.flitLen := by
    rw [trafficFlits_cons, if_pos htraffic]
    rfl
  have hdata : trafficFlits .data [front.whole] = 0 := by
    rw [trafficFlits_cons, if_neg (by rw [htraffic]; nofun)]
    rfl
  have houtgoing : s.sent ++ [front.whole] ++ rest.map TxFrame.whole = s.outgoing := by
    rw [outgoing, hqueue, List.map_cons, List.append_assoc]
    rfl
  have hcredit : s.near.dlp.dataTxCredit.toNat + trafficFlits .data (s.sent ++ [front.whole])
      + granted s.near.dlp.cfg s.swap.outgoing = s.far.dlp.dataCreditOutstanding.toNat := by
    rw [trafficFlits_append, hdata]
    exact hforward.credit
  have hwindow : (s.near.dlp.controlTxCredit - BitVec.ofNat 32 front.flitLen).toNat
      + trafficFlits .control (s.sent ++ [front.whole]) + (s.nearReturns.map BitVec.toNat).sum
      = s.far.dlp.controlWindowFlits.toNat := by
    have hcount : (BitVec.ofNat 32 front.flitLen).toNat = front.flitLen := by
      rw [BitVec.toNat_ofNat, Nat.mod_eq_of_lt (by omega)]
    rw [trafficFlits_append, hcontrol, BitVec.toNat_sub_of_le (BitVec.le_def.mpr (by omega)),
      hcount, ← hforward.window]
    omega
  have hgranted : s.far.dlp.dataTxCredit.toNat + trafficFlits .data s.arriving
      + granted s.far.dlp.cfg (s.sent ++ [front.whole] ++ rest.map TxFrame.whole)
      = s.near.dlp.dataCreditOutstanding.toNat := by
    rw [houtgoing]
    exact hback.credit
  constructor
  · refine { hforward with
      whole := ?_, control := ?_, transmits := ?_, credit := hcredit, window := hwindow }
    · intro frame hframe
      apply hforward.whole
      rcases List.mem_append.mp hframe with hframe | hframe
      · exact List.mem_append_left _ (hsubset frame hframe)
      · exact List.mem_append_right _ hframe
    · exact fun frame hframe => hforward.control frame (hsubset frame hframe)
    · intro frame hframe
      apply hforward.transmits
      rwa [← houtgoing]
  · exact { hback with credit := hgranted }

/-- The near end sends its first data frame. -/
theorem Balanced.sendData (h : Balanced context s) {front : TxFrame} {rest : List TxFrame}
    (hqueue : s.near.dlp.dataTxQueue = front :: rest)
    (hle : front.flitLen ≤ s.near.dlp.dataTxCredit.toNat) :
  Balanced context { s.withDlp { s.near.dlp with
      dataTxQueue := rest
      dataTxCredit := s.near.dlp.dataTxCredit - BitVec.ofNat 32 front.flitLen } with
    sent := s.sent ++ [front.whole] }
  := by
  obtain ⟨hforward, hback⟩ := h
  have hlt := s.near.dlp.dataTxCredit.isLt
  have hsubset : ∀ frame ∈ rest, frame ∈ s.near.dlp.dataTxQueue := by
    rw [hqueue]
    exact fun frame hframe => List.mem_cons_of_mem _ hframe
  have hfront : front ∈ s.near.dlp.dataTxQueue := by
    rw [hqueue]
    exact List.mem_cons_self
  have htraffic : front.whole.traffic = .data := hforward.data front hfront
  have hcontrol : trafficFlits .control [front.whole] = 0 := by
    rw [trafficFlits_cons, if_neg (by rw [htraffic]; nofun)]
    rfl
  have hdata : trafficFlits .data [front.whole] = front.flitLen := by
    rw [trafficFlits_cons, if_pos htraffic]
    rfl
  have hplain : front.whole.creditIn s.near.dlp.cfg = none := by
    have hsends := hforward.transmits front.whole
      (List.mem_append_right s.outgoing (List.mem_map_of_mem hfront))
    exact hsends.creditIn_of_data htraffic
  have hcredit : (s.near.dlp.dataTxCredit - BitVec.ofNat 32 front.flitLen).toNat
      + trafficFlits .data (s.sent ++ [front.whole]) + granted s.near.dlp.cfg s.swap.outgoing
      = s.far.dlp.dataCreditOutstanding.toNat := by
    have hcount : (BitVec.ofNat 32 front.flitLen).toNat = front.flitLen := by
      rw [BitVec.toNat_ofNat, Nat.mod_eq_of_lt (by omega)]
    rw [trafficFlits_append, hdata, BitVec.toNat_sub_of_le (BitVec.le_def.mpr (by omega)),
      hcount, ← hforward.credit]
    omega
  have hwindow : s.near.dlp.controlTxCredit.toNat
      + trafficFlits .control (s.sent ++ [front.whole]) + (s.nearReturns.map BitVec.toNat).sum
      = s.far.dlp.controlWindowFlits.toNat := by
    rw [trafficFlits_append, hcontrol]
    exact hforward.window
  have hgranted : s.far.dlp.dataTxCredit.toNat + trafficFlits .data s.arriving
      + granted s.far.dlp.cfg
        (s.sent ++ [front.whole] ++ s.near.dlp.controlTxQueue.map TxFrame.whole)
      = s.near.dlp.dataCreditOutstanding.toNat := by
    rw [granted_append, granted_append, granted_singleton, ← hforward.same_cfg, hplain,
      Option.map_none, Option.getD_none, Nat.add_zero, ← granted_append, hforward.same_cfg]
    exact hback.credit
  constructor
  · refine { hforward with
      whole := ?_, data := ?_, transmits := ?_, credit := hcredit, window := hwindow }
    · intro frame hframe
      apply hforward.whole
      rcases List.mem_append.mp hframe with hframe | hframe
      · exact List.mem_append_left _ hframe
      · exact List.mem_append_right _ (hsubset frame hframe)
    · exact fun frame hframe => hforward.data frame (hsubset frame hframe)
    · intro frame hframe
      apply hforward.transmits
      rw [hqueue, List.map_cons]
      simp only [outgoing, withDlp, List.mem_append, List.mem_cons, List.not_mem_nil,
        or_false] at hframe ⊢
      tauto
  · exact { hback with credit := hgranted }

theorem Balanced.pollTxFrame (h : Balanced context s) :
  Balanced context s.pollTxFrame
  := by
  have hasked := h.maybeRequestLinkCredit
  rw [FrameLink.pollTxFrame, LinkedEndpoint.pollTxFrame]
  generalize s.near.maybeRequestLinkCredit = asked at hasked ⊢
  obtain ⟨result, e⟩ := asked
  cases result with
  | error err => exact hasked
  | ok _ =>
    dsimp only [andThen]
    rcases DlpEndpoint.pollTxFrame_cases hasked.1.up hasked.1.whole with
      ⟨front, rest, hqueue, hle, hpoll⟩ | ⟨-, ⟨front, rest, hqueue, hle, hpoll⟩ | ⟨-, hpoll⟩⟩
    · dsimp only at hpoll
      rw [hpoll]
      exact hasked.sendControl hqueue hle
    · dsimp only at hpoll
      rw [hpoll]
      exact hasked.sendData hqueue hle
    · dsimp only at hpoll
      by_cases hempty : e.dlp.controlTxQueue = [] ∧ e.dlp.dataTxQueue = []
      · rw [hpoll, if_pos hempty]
        simpa using hasked
      · rw [hpoll, if_neg hempty]
        exact hasked

/-! ### Arrival -/

/-- A packet that reaches the end is read there as it was written. -/
theorem Reaches.within_eq {destination : GdpAddress} {packet : GdpPacket} {p : U64}
    (h : Reaches context destination packet) (hcontext : ∀ q ∈ context, p = q) :
  packet.within p = packet
  := by
  rcases h.2 with hform | ⟨q, hq, hcanonical⟩
  · exact GdpPacket.within_of_global hform p
  · rw [hcontext q hq]
    exact hcanonical.within_eq

/-- The near end reads in the common context. -/
theorem Balanced.localPrefix_eq (h : Balanced context s) (hr : Readable context s) :
  ∀ q ∈ context, s.near.dlp.localPrefix = q
  := by
  rintro q rfl
  exact h.1.context_eq.trans hr.1

theorem trafficFlits_returned (frame : GnetFrame) (hlt : frame.traffic = .control →
    frame.flitLen < 2 ^ 32) :
  ((returned frame).map BitVec.toNat).sum = trafficFlits .control [frame]
  := by
  rw [returned, trafficFlits_cons]
  split
  · next ht =>
    have hle : frame.flitLen ≤ 2 ^ 32 - 1 := Nat.le_sub_one_of_lt (hlt ht)
    rw [List.map_cons, List.map_nil, List.sum_singleton, LinkedEndpoint.clampU32, Nat.min_eq_left hle,
      BitVec.toNat_ofNat, Nat.mod_eq_of_lt (hlt ht)]
    rfl
  · rfl

/-- A frame arrives at the near end: it brings no credit, or it is a `CREDIT` for the near end. -/
theorem Balanced.arrive (h : Balanced context s) (hr : Readable context s) {frame : GnetFrame}
    {arriving : List GnetFrame} (harriving : s.arriving = frame :: arriving) :
  ∃ packet dlp, s.near.dlp.receiveFrame frame = (.ok packet, dlp) ∧
    match creditOf packet with
    | none => Balanced context
      { s.withDlp dlp with arriving, farReturns := s.farReturns ++ returned frame }
    | some count => packet.header.destination = s.near.linkLocalAddress ∧ Balanced context
      { s.withDlp (dlp.grantDataTxCredit count) with
        arriving, farReturns := s.farReturns ++ returned frame }
  := by
  obtain ⟨hforward, hback⟩ := h
  have hmem : frame ∈ s.swap.outgoing ++ s.far.dlp.dataTxQueue.map TxFrame.whole := by
    rw [outgoing, show s.swap.sent = _ from harriving]
    simp
  have hsends := hback.transmits frame hmem
  obtain ⟨packet, hcarries, hplain, hreach⟩ := hsends.carries
  have hcredit : s.far.dlp.dataTxCredit.toNat + trafficFlits .data s.arriving
      + granted s.far.dlp.cfg s.outgoing = s.near.dlp.dataCreditOutstanding.toNat := hback.credit
  have hwindow : s.far.dlp.controlTxCredit.toNat + trafficFlits .control s.arriving
      + (s.farReturns.map BitVec.toNat).sum = s.near.dlp.controlWindowFlits.toNat := hback.window
  have hgranted : s.near.dlp.dataTxCredit.toNat + trafficFlits .data s.sent
      + granted s.near.dlp.cfg s.swap.outgoing = s.far.dlp.dataCreditOutstanding.toNat :=
    hforward.credit
  have hsplit : ∀ t, trafficFlits t s.arriving = trafficFlits t [frame] + trafficFlits t arriving := by
    intro t
    rw [harriving, ← List.singleton_append, trafficFlits_append]
  have houtgoing : s.swap.outgoing
      = frame :: (arriving ++ s.far.dlp.controlTxQueue.map TxFrame.whole) := by
    rw [outgoing, show s.swap.sent = _ from harriving]
    rfl
  rw [hsplit] at hcredit hwindow
  have hcfg : s.far.dlp.cfg = s.near.dlp.cfg := hback.same_cfg
  have hmode : s.far.dlp.vcMode = s.near.dlp.vcMode := hback.same_mode
  have hcarries' : frame.Carries s.near.dlp.cfg packet := by
    rw [← hcfg]
    exact hcarries
  have hchannel : frame.vcid.traffic = frame.traffic ∧ frame.vcid.val < s.near.dlp.vcMode.count := by
    rw [← hmode]
    exact hsends.channel
  obtain ⟨outstanding, hreceive, hout⟩ := DlpEndpoint.receiveFrame_of_carries hforward.up
    hforward.idle hchannel hcarries' (by
      intro ht
      rw [trafficFlits_cons, if_pos ht] at hcredit
      omega) hback.within_buffer
  refine ⟨_, _, hreceive, ?_⟩
  have hin : frame.creditIn s.near.dlp.cfg = creditOf packet := hcarries'.creditIn_eq
  rw [houtgoing, ← List.singleton_append, granted_append, granted_singleton, hin] at hgranted
  have hreturned : ((returned frame).map BitVec.toNat).sum = trafficFlits .control [frame] := by
    apply trafficFlits_returned
    intro ht
    have hlt := s.near.dlp.controlWindowFlits.isLt
    rw [trafficFlits_cons, if_pos ht] at hwindow
    omega
  have hreturns : ((s.farReturns ++ returned frame).map BitVec.toNat).sum
      = (s.farReturns.map BitVec.toNat).sum + trafficFlits .control [frame] := by
    rw [List.map_append, List.sum_append, hreturned]
  -- What is known of the direction from the far end, once the frame is gone.
  have hback' : ∀ dataTxCredit, Direction context (FrameLink.swap
      { s.withDlp { s.near.dlp with dataCreditOutstanding := outstanding, dataTxCredit } with
        arriving, farReturns := s.farReturns ++ returned frame }) := by
    intro dataTxCredit
    refine { hback with transmits := ?_, credit := ?_, within_buffer := ?_, window := ?_ }
    · intro frame' hframe'
      apply hback.transmits
      rw [houtgoing]
      exact List.mem_cons_of_mem _ hframe'
    · change s.far.dlp.dataTxCredit.toNat + trafficFlits .data arriving
        + granted s.far.dlp.cfg s.outgoing = outstanding.toNat
      omega
    · have hle : s.near.dlp.dataCreditOutstanding ≤ s.near.dlp.rxBufferFlits := hback.within_buffer
      change outstanding ≤ s.near.dlp.rxBufferFlits
      rw [BitVec.le_def] at hle ⊢
      omega
    · change s.far.dlp.controlTxCredit.toNat + trafficFlits .control arriving
        + ((s.farReturns ++ returned frame).map BitVec.toNat).sum = s.near.dlp.controlWindowFlits.toNat
      omega
  rw [creditOf_within]
  cases hbrings : creditOf packet with
  | none =>
    rw [hbrings] at hgranted
    refine ⟨{ hforward with credit := ?_ }, hback' _⟩
    change s.near.dlp.dataTxCredit.toNat + trafficFlits .data s.sent
      + granted s.near.dlp.cfg (arriving ++ s.far.dlp.controlTxQueue.map TxFrame.whole)
      = s.far.dlp.dataCreditOutstanding.toNat
    rw [← hgranted]
    simp
  | some count =>
    rw [hbrings, Option.map_some, Option.getD_some] at hgranted
    have hreaches := hreach (by rw [hbrings]; simp)
    have hlt := s.far.dlp.dataCreditOutstanding.isLt
    have hsum : (saturatingAdd s.near.dlp.dataTxCredit count).toNat
        = s.near.dlp.dataTxCredit.toNat + count.toNat := toNat_saturatingAdd (by omega)
    refine ⟨?_, { hforward with credit := ?_ }, hback' _⟩
    · rw [hreaches.within_eq (Balanced.localPrefix_eq ⟨hforward, hback⟩ hr)]
      exact hreaches.1
    · change (saturatingAdd s.near.dlp.dataTxCredit count).toNat + trafficFlits .data s.sent
        + granted s.near.dlp.cfg (arriving ++ s.far.dlp.controlTxQueue.map TxFrame.whole)
        = s.far.dlp.dataCreditOutstanding.toNat
      rw [hsum, ← hgranted]
      omega

/-- The first frame in flight to the near end arrives. -/
theorem Balanced.receiveFrame (h : Balanced context s) (hr : Readable context s) {now : U64}
    (hr' : Readable context (s.receiveFrame now)) :
  Balanced context (s.receiveFrame now)
  := by
  rw [FrameLink.receiveFrame] at hr' ⊢
  split
  · exact h
  next frame arriving harriving =>
  rw [harriving] at hr'
  dsimp only at hr'
  obtain ⟨packet, dlp, hreceive, hmatch⟩ := h.arrive hr harriving
  rw [LinkedEndpoint.receiveFrame, hreceive] at hr' ⊢
  dsimp only at hr' ⊢
  have hupholds := upholds context
    { s.withDlp dlp with arriving, farReturns := s.farReturns ++ returned frame }
  have hreadable : Readable context
      { s.withDlp dlp with arriving, farReturns := s.farReturns ++ returned frame } := hr
  cases hcredit : creditOf packet with
  | none =>
    rw [hcredit] at hmatch
    exact hupholds.handlePacket_of_plain hmatch hreadable hr' hcredit
  | some count =>
    rw [hcredit] at hmatch
    obtain ⟨hdestination, hbalanced⟩ := hmatch
    exact hupholds.handlePacket_of_credit hreadable hbalanced now hcredit hdestination

/-- Credit for control frames comes back. -/
theorem Balanced.restoreControlCredit (h : Balanced context s) :
  Balanced context s.restoreControlCredit
  := by
  rw [FrameLink.restoreControlCredit]
  split
  · exact h
  next count nearReturns hreturns =>
  obtain ⟨hforward, hback⟩ := h
  have hwindow := hforward.window
  have hlt := s.far.dlp.controlWindowFlits.isLt
  rw [hreturns, List.map_cons, List.sum_cons] at hwindow
  have hsum : (saturatingAdd s.near.dlp.controlTxCredit count).toNat
      = s.near.dlp.controlTxCredit.toNat + count.toNat := toNat_saturatingAdd (by omega)
  refine ⟨{ hforward with window := ?_ }, { hback with }⟩
  change (saturatingAdd s.near.dlp.controlTxCredit count).toNat + trafficFlits .control s.sent
    + (nearReturns.map BitVec.toNat).sum = s.far.dlp.controlWindowFlits.toNat
  omega

/-- Whatever happens at the near end keeps the balance. -/
theorem Balanced.actNear (h : Balanced context s) (hr : Readable context s) {action : LocalAction T}
    (haction : action.NoCredit) (hr' : Readable context (s.actNear action)) :
  Balanced context (s.actNear action)
  := by
  cases action with
  | app op => exact (upholds context s).app h hr op
  | sendGctl remote msg sizeClass => exact (upholds context s).sendGctl h hr remote haction sizeClass
  | solicitRouter transactionId => exact (upholds context s).solicitRouter h hr transactionId
  | enableAddressAuthority config => exact (upholds context s).enableAddressAuthority h config
  | takeEchoReply transactionId => exact (upholds context s).takeEchoReply h transactionId
  | takeGctl => exact (upholds context s).takeGctl h
  | pollTxFrame => exact h.pollTxFrame
  | receiveFrame now => exact h.receiveFrame hr hr'
  | restoreControlCredit => exact h.restoreControlCredit

theorem balanced_step (s : FrameLink T) (action : Action T) (h : Balanced context s)
    (hok : action.NoCredit ∧ Readable context s ∧ Readable context (s.step action)) :
  Balanced context (s.step action)
  := by
  obtain ⟨haction, hr, hr'⟩ := hok
  cases action with
  | near action => exact h.actNear hr haction hr'
  | far action => exact (h.swap.actNear hr.swap haction hr'.swap).swap

/-! ### The two ends are attached -/

/-- Two ends that know each other and have not yet given any credit. -/
def bounded (a b : LinkedEndpoint T) : FrameLink T where
  near := FlitLink.bound a b.linkLocalAddress b.dlp.controlWindowFlits
  far := FlitLink.bound b a.linkLocalAddress a.dlp.controlWindowFlits
  sent := []
  arriving := []
  nearReturns := []
  farReturns := []

theorem direction_bounded {configA configB : EndpointConfig} {a b : LinkedEndpoint T}
    (ha : a.Fresh configA) (hb : b.Fresh configB) (hmode : configA.vcMode = configB.vcMode)
    (hwire : configA.gdpWire = configB.gdpWire) :
  Direction context (bounded a b)
  := by
  obtain ⟨dlpA, hdlpA, hgdpA, hmodeA, -, hcontextualA, -⟩ := FlitLink.fresh_dlp ha
  obtain ⟨dlpB, hdlpB, hgdpB, hmodeB, -, -, -⟩ := FlitLink.fresh_dlp hb
  obtain ⟨hbufferA, hnewA⟩ := DlpEndpoint.new_eq_ok hdlpA
  obtain ⟨-, hnewB⟩ := DlpEndpoint.new_eq_ok hdlpB
  have hqueues : a.dlp.controlTxQueue = [] ∧ a.dlp.dataTxQueue = [] := by
    rw [hnewA]
    exact ⟨rfl, rfl⟩
  constructor
  · rfl
  · rfl
  · exact hcontextualA
  · change a.dlp.cfg = b.dlp.cfg
    rw [hnewA, hnewB]
    exact hgdpA.trans (hwire.trans hgdpB.symm)
  · change a.dlp.vcMode = b.dlp.vcMode
    rw [hnewA, hnewB]
    exact hmodeA.trans (hmode.trans hmodeB.symm)
  · change a.dlp.nextDataVc.traffic = .data ∧ a.dlp.nextDataVc.val < a.dlp.vcMode.count
    rw [hnewA]
    exact DlpEndpoint.first_data_vc dlpA.vcMode
  · change a.dlp.dataRxInUse = 0#32
    rw [hnewA]
  · change a.dlp.rxBufferFlits ≠ 0#32
    rw [hnewA]
    exact hbufferA
  · change ∀ frame ∈ a.dlp.controlTxQueue ++ a.dlp.dataTxQueue, frame.flitOffset = 0
    rw [hqueues.1, hqueues.2]
    simp
  · change ∀ frame ∈ a.dlp.controlTxQueue, frame.traffic = .control
    rw [hqueues.1]
    simp
  · change ∀ frame ∈ a.dlp.dataTxQueue, frame.traffic = .data
    rw [hqueues.2]
    simp
  · change ∀ frame ∈ ([] ++ a.dlp.controlTxQueue.map TxFrame.whole)
      ++ a.dlp.dataTxQueue.map TxFrame.whole, _
    rw [hqueues.1, hqueues.2]
    simp
  · change a.dlp.dataTxCredit.toNat + 0
      + granted a.dlp.cfg ([] ++ b.dlp.controlTxQueue.map TxFrame.whole)
      = b.dlp.dataCreditOutstanding.toNat
    rw [hnewA, hnewB]
    rfl
  · change b.dlp.dataCreditOutstanding ≤ b.dlp.rxBufferFlits
    rw [hnewB]
    exact BitVec.le_def.mpr (Nat.zero_le _)
  · change (saturatingAdd a.dlp.controlTxCredit b.dlp.controlWindowFlits).toNat + 0 + 0
      = b.dlp.controlWindowFlits.toNat
    have hzero : a.dlp.controlTxCredit = 0#32 := by rw [hnewA]
    have hlt := b.dlp.controlWindowFlits.isLt
    rw [hzero, toNat_saturatingAdd (by simpa using hlt)]
    simp

theorem balanced_attached {configA configB : EndpointConfig} {a b : LinkedEndpoint T}
    (ha : a.Fresh configA) (hb : b.Fresh configB) (hmode : configA.vcMode = configB.vcMode)
    (hwire : configA.gdpWire = configB.gdpWire) (hr : Readable context (attached a b)) :
  Balanced context (attached a b)
  := by
  obtain ⟨-, -, -, -, -, -, hwindowA⟩ := FlitLink.fresh_dlp ha
  obtain ⟨-, -, -, -, -, -, hwindowB⟩ := FlitLink.fresh_dlp hb
  have hmovesA := FlitLink.moves_linkAttached a b.linkLocalAddress hwindowB
  have hmovesB := FlitLink.moves_linkAttached b a.linkLocalAddress hwindowA
  obtain ⟨hconfigA, hlocalA⟩ := LinkedEndpoint.Moves.settings hmovesA
  obtain ⟨hconfigB, hlocalB⟩ := LinkedEndpoint.Moves.settings hmovesB
  have hr₁ : Readable context { bounded a b with near := (attached a b).near } := by
    apply Readable.swap (s := FrameLink.swap { bounded a b with near := (attached a b).near })
    exact (Readable.of_settings (s := (attached a b).swap) hconfigB hlocalB).mp hr.swap
  have hr₀ : Readable context (bounded a b) :=
    (Readable.of_settings (s := bounded a b) hconfigA hlocalA).mp hr₁
  have hbalanced₀ : Balanced context (bounded a b) :=
    ⟨direction_bounded ha hb hmode hwire, direction_bounded hb ha hmode.symm hwire.symm⟩
  have hbalanced₁ := hbalanced₀.moves hr₀ hmovesA
  exact (hbalanced₁.swap.moves hr₁.swap hmovesB).swap

/-! ### The balance -/

/-- What a link of frames conserves at its near end.  The credit of the near end, the data flits that
it has in flight and the credit in `CREDIT` frames on their way to it are what the far end has given
and not seen used, and no more than the buffer of the far end.  The credit for control frames, the
control flits in flight and those on their way back are the control window of the far end.  The next
frame that arrives is received. -/
structure Conserved (s : FrameLink T) : Prop where
  credit : s.near.dlp.dataTxCredit.toNat + trafficFlits .data s.sent
    + granted s.near.dlp.cfg s.swap.outgoing = s.far.dlp.dataCreditOutstanding.toNat
  within_buffer : s.far.dlp.dataCreditOutstanding.toNat ≤ s.far.dlp.rxBufferFlits.toNat
  window : s.near.dlp.controlTxCredit.toNat + trafficFlits .control s.sent
    + (s.nearReturns.map BitVec.toNat).sum = s.far.dlp.controlWindowFlits.toNat
  received : ∀ frame ∈ s.arriving.head?, ∃ packet, (s.near.dlp.receiveFrame frame).1 = .ok packet

theorem Balanced.conserved (h : Balanced context s) (hr : Readable context s) :
  Conserved s
  := by
  constructor
  · exact h.1.credit
  · exact BitVec.le_def.mp h.1.within_buffer
  · exact h.1.window
  · intro frame hframe
    obtain ⟨arriving, harriving⟩ := List.head?_eq_some_iff.mp hframe
    obtain ⟨packet, dlp, hreceive, -⟩ := h.arrive hr harriving
    exact ⟨packet, by rw [hreceive]⟩

theorem balanced_run {configA configB : EndpointConfig} {a b : LinkedEndpoint T}
    (ha : a.Fresh configA) (hb : b.Fresh configB) (hmode : configA.vcMode = configB.vcMode)
    (hwire : configA.gdpWire = configB.gdpWire) {as : List (Action T)}
    (has : ∀ action ∈ as, action.NoCredit)
    (hreadable : ∀ bs, bs <+: as → Readable context (Machine.run step (attached a b) bs)) :
  Balanced context (Machine.run step (attached a b) as)
  := by
  apply Machine.invariant_along balanced_step
  · exact balanced_attached ha hb hmode hwire (hreadable [] List.nil_prefix)
  · exact (Machine.along_of_forall _ has).and (Machine.along_of_forall_isPrefix hreadable)

/-- Both kinds of credit are conserved on a link of frames: for two endpoints with the same channels
and the same wire format that are attached to each other, in every run in which the applications send
no `CREDIT` and every `CREDIT` is read as it was written. -/
theorem frame_credit_conserved {configA configB : EndpointConfig} {a b : LinkedEndpoint T}
    (ha : a.Fresh configA) (hb : b.Fresh configB) (hmode : configA.vcMode = configB.vcMode)
    (hwire : configA.gdpWire = configB.gdpWire) (as : List (Action T))
    (has : ∀ action ∈ as, action.NoCredit) {context : Option U64}
    (hreadable : ∀ bs, bs <+: as → Readable context (Machine.run step (attached a b) bs)) :
  let s := Machine.run step (attached a b) as
  s.Conserved ∧ s.swap.Conserved
  := by
  intro s
  have hbalanced : Balanced context s := balanced_run ha hb hmode hwire has hreadable
  have hr : Readable context s := hreadable as (List.prefix_refl as)
  exact ⟨hbalanced.conserved hr, hbalanced.swap.conserved hr.swap⟩

/-- The far end has used some of its credit, and a second frame is on its way. -/
theorem frame_credit_conserved_partly_used :
  let x : GtsSend := ⟨⟨7#64⟩, .empty, []⟩
  let as : List (Action .direct) :=
    [.near .pollTxFrame, .far (.receiveFrame 0#64), .near .restoreControlCredit,
      .far (.app x), .far (.app x), .far .pollTxFrame, .far .pollTxFrame, .far .pollTxFrame,
      .near (.receiveFrame 0#64), .near (.receiveFrame 0#64)]
  ∃ a b : LinkedEndpoint .direct,
    a.Fresh ⟨32#32, .four, 8#8, none, false, 8#32, 32#32, ⟨true⟩⟩ ∧
    b.Fresh ⟨32#32, .four, 8#8, none, false, 8#32, 32#32, ⟨true⟩⟩ ∧
    (Machine.run step (attached a b) as).far.dlp.dataTxCredit = 22#32 ∧
    (Machine.run step (attached a b) as).arriving ≠ [] ∧
    Conserved (Machine.run step (attached a b) as)
  := by
  intro x as
  have has : ∀ action ∈ as, action.NoCredit := by
    simp [as, Action.NoCredit, LocalAction.NoCredit]
  refine ⟨_, _, .inl ⟨⟨7#64⟩, rfl⟩, .inl ⟨⟨9#64⟩, rfl⟩, and_assoc.mp ⟨?_, ?_⟩⟩
  · decide +kernel
  · apply (@frame_credit_conserved .direct ⟨32#32, .four, 8#8, none, false, 8#32, 32#32, ⟨true⟩⟩
      ⟨32#32, .four, 8#8, none, false, 8#32, 32#32, ⟨true⟩⟩ _ _ (.inl ⟨⟨7#64⟩, rfl⟩)
      (.inl ⟨⟨9#64⟩, rfl⟩) rfl rfl as has none _).1
    intro bs hbs
    revert bs
    simp only [← List.mem_inits]
    decide +kernel

end FrameLink

end SmolGnet
