import SmolGnet.Endpoint.Asking
import SmolGnet.Endpoint.Balance

/-!
# The control packets on their way over a link of flits

The control packets on their way are those of the control flits that have not arrived, and what the
receiver holds is the beginning of the first of them.  A flit that arrives leaves them as they are, or
it is the last flit of the first of them.
-/

namespace SmolGnet

/-! ### Flits of packets -/

/-- The flits of a packet. -/
def GdpPacket.flitLen (cfg : GdpWireConfig) (packet : GdpPacket) : ℕ :=
  ((packet.wire cfg).length + 3) / 4

theorem GdpPacket.flitLen_pos (cfg : GdpWireConfig) (packet : GdpPacket) :
  0 < packet.flitLen cfg
  := by
  rw [flitLen, length_wire, GdpHeader.headerLen_eq]
  omega

/-- The flits of packets. -/
def flitsOf (cfg : GdpWireConfig) (packets : List GdpPacket) : ℕ :=
  (packets.map (GdpPacket.flitLen cfg)).sum

@[simp]
theorem flitsOf_append (cfg : GdpWireConfig) (packets packets' : List GdpPacket) :
  flitsOf cfg (packets ++ packets') = flitsOf cfg packets + flitsOf cfg packets'
  := by
  rw [flitsOf, List.map_append, List.sum_append]
  rfl

@[simp]
theorem flitsOf_cons (cfg : GdpWireConfig) (packet : GdpPacket) (packets : List GdpPacket) :
  flitsOf cfg (packet :: packets) = packet.flitLen cfg + flitsOf cfg packets
  := by
  rw [flitsOf, List.map_cons, List.sum_cons]
  rfl

theorem flitLen_within (cfg : GdpWireConfig) (packet : GdpPacket) (p : U64) :
  (packet.within p).flitLen cfg = packet.flitLen cfg
  := by
  rw [GdpPacket.flitLen, GdpPacket.wire_within, GdpPacket.flitLen]

theorem flitsOf_within (cfg : GdpWireConfig) (packets : List GdpPacket) (p : U64) :
  flitsOf cfg (packets.map (·.within p)) = flitsOf cfg packets
  := by
  induction packets with
  | nil => rfl
  | cons packet packets ih => rw [List.map_cons, flitsOf_cons, flitsOf_cons, ih, flitLen_within]

theorem length_queueRest_frames (e : DlpEndpoint) (vcid : Vcid) (packets : List GdpPacket) :
  (queueRest (packets.map (e.frameOn vcid))).length = flitsOf e.cfg packets
  := by
  induction packets with
  | nil => rfl
  | cons packet packets ih =>
    have hone : (queueRest [e.frameOn vcid packet]).length = packet.flitLen e.cfg := by
      rw [DlpEndpoint.frameOn_rest, TxFrame.length_flits]
      rfl
    rw [List.map_cons, ← List.singleton_append, queueRest, List.flatMap_append, List.length_append,
      flitsOf_cons, ← ih, ← hone]
    rfl

theorem length_queueRest_queued (e : DlpEndpoint) (vcid : Vcid) (queue : List TxFrame)
    (packets : List GdpPacket) :
  (queueRest (queue ++ packets.map (e.frameOn vcid))).length
    = (queueRest queue).length + flitsOf e.cfg packets
  := by
  rw [← length_queueRest_frames e vcid, queueRest, List.flatMap_append, List.length_append]
  rfl

theorem length_queueRest (queue : List TxFrame) :
  (queueRest queue).length = DlpEndpoint.queueFlits queue
  := by
  rw [queueRest, DlpEndpoint.queueFlits, List.length_flatMap]
  congr 2
  funext frame
  rw [TxFrame.rest, List.length_drop, TxFrame.length_flits, TxFrame.remainingFlits]

namespace Carrying

variable {cfg : GdpWireConfig} {localPrefix : U64} {mode : VcMode} {t : LinkTraffic}
  {rx : Vcid → Option RxSegment} {left : List Flit} {queued yielded : List GdpPacket}
  {frames : List (TxFrame × GdpPacket)} {n : ℕ}

theorem flitLen_eq {frame : TxFrame} {packet : GdpPacket} (h : frame.Carries cfg localPrefix packet) :
  frame.flitLen = packet.flitLen cfg
  := by
  rw [TxFrame.flitLen, h.2]
  rfl

/-- The flits left are those of the packets, but for the first `n`. -/
theorem length_left (h : Carrying cfg localPrefix mode t rx left queued yielded frames n) :
  left.length + n = flitsOf cfg (frames.map Prod.snd)
  := by
  have hle := h.le_length
  have hsum : (frames.flatMap (fun f => f.1.flits)).length = flitsOf cfg (frames.map Prod.snd) := by
    rw [List.length_flatMap, flitsOf, List.map_map]
    congr 1
    apply List.map_congr_left
    intro f hf
    rw [TxFrame.length_flits, flitLen_eq (h.carries f hf)]
    rfl
  rw [h.left_eq, List.length_drop, ← hsum]
  omega

theorem started_packet (h : Carrying cfg localPrefix mode t rx left queued yielded frames n) :
  ∀ packet ∈ (frames.map Prod.snd).head?, n < packet.flitLen cfg
  := by
  intro packet hpacket
  rw [List.head?_map] at hpacket
  obtain ⟨f, hf, rfl⟩ := Option.mem_map.mp hpacket
  rw [← flitLen_eq (h.carries f (List.mem_of_mem_head? hf))]
  exact h.started f hf

/-- The logs do not matter. -/
theorem forget (h : Carrying cfg localPrefix mode t rx left queued yielded frames n) :
  Carrying cfg localPrefix mode t rx left (frames.map Prod.snd) [] frames n
  := { h with logs := rfl }

end Carrying

/-- Frames are queued of which nothing has been sent. -/
theorem Carrying.queues {cfg : GdpWireConfig} {localPrefix : U64} {mode : VcMode} {t : LinkTraffic}
    {rx : Vcid → Option RxSegment} {left : List Flit} {frames : List (TxFrame × GdpPacket)} {n : ℕ}
    (h : Carrying cfg localPrefix mode t rx left (frames.map Prod.snd) [] frames n)
    (added : List (TxFrame × GdpPacket))
    (hadded : ∀ f ∈ added, f.1.Carries cfg localPrefix f.2 ∧ f.1.vcid.traffic = t ∧
      f.1.vcid.val < mode.count ∧ f.1.flitOffset = 0) :
  Carrying cfg localPrefix mode t rx (left ++ queueRest (added.map Prod.fst))
    ((frames ++ added).map Prod.snd) [] (frames ++ added) n
  := by
  induction added generalizing left frames with
  | nil => simpa [queueRest] using h
  | cons f added ih =>
    rw [List.forall_mem_cons] at hadded
    obtain ⟨⟨hcarries, ht, hlt, hoffset⟩, hadded⟩ := hadded
    have hnext := ih (h.queue hcarries ht hlt).forget hadded
    have hrest : f.1.rest = f.1.flits := by rw [TxFrame.rest, hoffset, List.drop_zero]
    rw [List.map_cons, queueRest, List.flatMap_cons, hrest, ← List.append_assoc,
      List.append_cons frames]
    exact hnext

namespace FlitLink

variable {T : Transport} {context : Option U64} {s : FlitLink T} {e : LinkedEndpoint T}
  {packets : List GdpPacket} {frames : List (TxFrame × GdpPacket)} {n : ℕ}

/-! ### The packets on their way -/

/-- The flits of one kind of traffic that have not arrived at the far end. -/
def left (s : FlitLink T) (t : LinkTraffic) : List Flit :=
  s.sent.filter (fun flit => flit.vcid.traffic = t) ++ queueRest (s.near.dlp.txQueue t)

/-- The flits left are those of the frames, but for the first `n`, which the far end holds. -/
structure Carries (s : FlitLink T) (t : LinkTraffic) (frames : List (TxFrame × GdpPacket)) (n : ℕ) :
    Prop where
  carrying : Carrying s.far.dlp.cfg s.far.dlp.localPrefix s.far.dlp.vcMode t s.far.dlp.rx
    (s.left t) (frames.map Prod.snd) [] frames n
  up : s.far.dlp.linkUp
  synchronized : ∀ vcid, s.far.dlp.desynchronized vcid = false

theorem Carries.controlUnderWay_eq (h : Carries s .control frames n) :
  s.controlUnderWay = frames.map Prod.snd
  := by
  have hburst := receiveBurst_of_carrying h.up h.synchronized h.carrying []
  rwa [List.nil_append] at hburst

theorem Carries.length_left (h : Carries s .control frames n) :
  (s.left .control).length + n = flitsOf s.far.dlp.cfg s.controlUnderWay
  := by
  rw [h.controlUnderWay_eq]
  exact h.carrying.length_left

/-- If only the first of the packets on their way had arrived, then fewer flits would be left. -/
theorem Carries.tail_lt (h : Carries s .control frames n) {before after : List GdpPacket}
    {packet : GdpPacket} (hpackets : s.controlUnderWay = before ++ packet :: after) :
  flitsOf s.far.dlp.cfg after < (s.left .control).length
  := by
  have hlength := h.length_left
  have hstarted := h.carrying.started_packet
  rw [← h.controlUnderWay_eq] at hstarted
  rw [hpackets] at hlength hstarted
  cases before with
  | nil =>
    have hlt := hstarted packet rfl
    rw [List.nil_append, flitsOf_cons] at hlength
    omega
  | cons first before =>
    have hlt := hstarted first rfl
    rw [List.cons_append, flitsOf_cons, flitsOf_append, flitsOf_cons] at hlength
    omega

theorem Direction.carries {grants : List U32} {queued yielded : LinkTraffic → List GdpPacket}
    (h : Direction context s grants queued yielded) (t : LinkTraffic) :
  ∃ frames n, Carries s t frames n
  := by
  obtain ⟨frames, n, hcarrying⟩ := h.link.carrying t
  exact ⟨frames, n, hcarrying.forget, h.link.b_up, h.link.synchronized⟩

theorem Inv.carries (h : Inv context s) (t : LinkTraffic) :
  ∃ frames n, Carries s t frames n
  := by
  obtain ⟨_, _, _, _, hforward, -⟩ := h
  exact hforward.carries t

theorem Inv.same_cfg (h : Inv context s) :
  s.near.dlp.cfg = s.far.dlp.cfg
  := by
  obtain ⟨_, _, _, _, hforward, -⟩ := h
  exact hforward.link.same_cfg

/-- The near end reads in the common context. -/
theorem Inv.localPrefix_eq (h : Inv context s) (hr : Readable context s) :
  ∀ q ∈ context, s.near.dlp.localPrefix = q
  := by
  obtain ⟨_, _, _, _, hforward, -⟩ := h
  rintro q rfl
  exact hforward.context_eq.trans hr.1

/-- Frames that the near end queues are on their way. -/
theorem Carries.queues {t : LinkTraffic} (h : Carries s t frames n)
    (added : List (TxFrame × GdpPacket))
    (hadded : ∀ f ∈ added, f.1.Carries s.far.dlp.cfg s.far.dlp.localPrefix f.2 ∧
      f.1.vcid.traffic = t ∧ f.1.vcid.val < s.far.dlp.vcMode.count ∧ f.1.flitOffset = 0)
    (hqueue : e.dlp.txQueue t = s.near.dlp.txQueue t ++ added.map Prod.fst) :
  Carries { s with near := e } t (frames ++ added) n
  := by
  have hcarrying := h.carrying.queues added hadded
  have hleft : left { s with near := e } t = s.left t ++ queueRest (added.map Prod.fst) := by
    rw [left, left, hqueue, List.append_assoc, queueRest, queueRest, queueRest, List.flatMap_append]
  rw [← hleft] at hcarrying
  exact ⟨hcarrying, h.up, h.synchronized⟩

/-- Where the near end holds what it held, the same packets are on their way to it, as it reads them
now. -/
theorem Carries.held {t : LinkTraffic} (h : Carries s.swap t frames n)
    (h' : Inv context { s with near := e }) (hcfg : e.dlp.cfg = s.near.dlp.cfg)
    (hheld : s.near.dlp.SameHeld e.dlp) :
  Carries (FlitLink.swap { s with near := e }) t
    (frames.map (fun f => (f.1, f.2.within e.dlp.localPrefix))) n
  := by
  obtain ⟨_, _, hafter⟩ := h'.swap.carries t
  have hcarrying := (DlpLink.carrying_within h.carrying e.dlp.localPrefix).forget
  change Carrying s.near.dlp.cfg e.dlp.localPrefix s.near.dlp.vcMode t s.near.dlp.rx _ _ _ _ _
    at hcarrying
  rw [← hcfg, ← hheld.vcMode, ← hheld.rx] at hcarrying
  exact ⟨hcarrying, hafter.up, hafter.synchronized⟩

/-- Control packets that are queued are on their way. -/
theorem Inv.controlUnderWay_queues (h : Inv context s)
    (hqueues : LinkedEndpoint.Queues packets s.near e) :
  controlUnderWay { s with near := e }
    = s.controlUnderWay ++ packets.map (·.within s.far.dlp.localPrefix)
  := by
  obtain ⟨frames, n, hcarries⟩ := h.carries .control
  have hlt : Vcid.control.val < s.far.dlp.vcMode.count := by cases s.far.dlp.vcMode <;> decide
  have hcarries' := hcarries.queues (e := e) (packets.map
    (fun packet => (s.near.dlp.frameOn Vcid.control packet, packet.within s.far.dlp.localPrefix))) (by
      rw [List.forall_mem_map]
      intro packet hpacket
      obtain ⟨p, hp⟩ := hqueues.canonical packet hpacket
      refine ⟨⟨hp.within _, ?_⟩, rfl, hlt, rfl⟩
      rw [GdpPacket.wire_within, ← h.same_cfg]
      rfl) (by
      rw [List.map_map]
      exact hqueues.queue)
  rw [hcarries'.controlUnderWay_eq, hcarries.controlUnderWay_eq, List.map_append, List.map_map]
  rfl

theorem Inv.controlUnderWay_held (h : Inv context s) (h' : Inv context { s with near := e })
    (hcfg : e.dlp.cfg = s.near.dlp.cfg) (hheld : s.near.dlp.SameHeld e.dlp) :
  controlUnderWay (FlitLink.swap { s with near := e })
    = s.swap.controlUnderWay.map (·.within e.dlp.localPrefix)
  := by
  obtain ⟨frames, n, hcarries⟩ := h.swap.carries .control
  rw [(hcarries.held h' hcfg hheld).controlUnderWay_eq, hcarries.controlUnderWay_eq, List.map_map,
    List.map_map]
  rfl

/-! ### Transmission -/

/-- The far end has the same packets before it where no flit is lost. -/
theorem Carries.congr {s' : FlitLink T} {t : LinkTraffic} (h : Carries s t frames n)
    (hd : DlpEndpoint.SameReceiver s.far.dlp s'.far.dlp) (hleft : s'.left t = s.left t) :
  Carries s' t frames n
  := by
  obtain ⟨hcarrying, hup, hsynchronized⟩ := h
  obtain ⟨_, _, _, _, _, hdlp⟩ := hd
  constructor
  · rw [hleft, hdlp]
    exact hcarrying
  · rw [hdlp]
    exact hup
  · rw [hdlp]
    exact hsynchronized

theorem Inv.up (h : Inv context s) :
  s.near.dlp.linkUp
  := by
  obtain ⟨_, _, _, _, hforward, -⟩ := h
  exact hforward.link.a_up

/-- The near end sends flits: the first of those left of each kind of traffic, and data flits at the
price of credit. -/
theorem Inv.pollTxBurst_eq (h : Inv context s) (room : ℕ) :
  ∃ cf df cq cc dq dc,
    s.pollTxBurst room = { s.withDlp { s.near.dlp with
      controlTxQueue := cq, controlTxCredit := cc, dataTxQueue := dq, dataTxCredit := dc } with
      sent := s.sent ++ (cf ++ df) } ∧
    queueRest s.near.dlp.controlTxQueue = cf ++ queueRest cq ∧
    queueRest s.near.dlp.dataTxQueue = df ++ queueRest dq ∧
    df.length + dc.toNat = s.near.dlp.dataTxCredit.toNat ∧
    (∀ flit ∈ cf, flit.vcid.traffic = .control) ∧ ∀ flit ∈ df, flit.vcid.traffic = .data
  := by
  obtain ⟨cf, df, cq, cc, dq, dc, hnext, hflits, hcontrol, hdata, hcredit, -⟩ :=
    DlpEndpoint.pollTxBurst_spec h.up room
  refine ⟨cf, df, cq, cc, dq, dc, ?_, hcontrol, hdata, hcredit, ?_, ?_⟩
  · rw [FlitLink.pollTxBurst]
    rcases hflits with hok | ⟨hnil, err, herr⟩
    · rw [show s.near.dlp.pollTxBurst room = (.ok (cf ++ df), _) from Prod.ext hok hnext]
      rfl
    · rw [show s.near.dlp.pollTxBurst room = (.error err, _) from Prod.ext herr hnext, hnil,
        List.append_nil]
      rfl
  · obtain ⟨frames, n, hcarries⟩ := h.carries .control
    intro flit hflit
    apply hcarries.carrying.traffic_of_mem_left
    simp [left, DlpEndpoint.txQueue, hcontrol, hflit]
  · obtain ⟨frames, n, hcarries⟩ := h.carries .data
    intro flit hflit
    apply hcarries.carrying.traffic_of_mem_left
    simp [left, DlpEndpoint.txQueue, hdata, hflit]

/-- What has not arrived is as before. -/
theorem Inv.left_pollTxBurst (h : Inv context s) (room : ℕ) (t : LinkTraffic) :
  (s.pollTxBurst room).left t = s.left t
  := by
  obtain ⟨cf, df, cq, _, dq, _, heq, hcontrol, hdata, -, hcontrolFlits, hdataFlits⟩ :=
    h.pollTxBurst_eq room
  rw [heq]
  cases t with
  | control =>
    have hfilter : (cf ++ df).filter (fun flit => flit.vcid.traffic = .control) = cf := by
      rw [List.filter_append, List.filter_eq_self.mpr (by simpa using hcontrolFlits),
        List.filter_eq_nil_iff.mpr (by simp +contextual [hdataFlits]), List.append_nil]
    change (s.sent ++ (cf ++ df)).filter _ ++ queueRest cq = _
    rw [List.filter_append, hfilter, List.append_assoc, ← hcontrol]
    rfl
  | data =>
    have hfilter : (cf ++ df).filter (fun flit => flit.vcid.traffic = .data) = df := by
      rw [List.filter_append, List.filter_eq_nil_iff.mpr (by simp +contextual [hcontrolFlits]),
        List.filter_eq_self.mpr (by simpa using hdataFlits), List.nil_append]
    change (s.sent ++ (cf ++ df)).filter _ ++ queueRest dq = _
    rw [List.filter_append, hfilter, List.append_assoc, ← hdata]
    rfl

/-- The near end can always ask for credit, and to do so changes neither its buffer nor its credit. -/
theorem Inv.asked (h : Inv context s) :
  s.near.maybeRequestLinkCredit.1 = .ok () ∧
    s.near.maybeRequestLinkCredit.2.dlp.rxBufferFlits = s.near.dlp.rxBufferFlits ∧
    s.near.maybeRequestLinkCredit.2.dlp.controlTxCredit = s.near.dlp.controlTxCredit
  := by
  obtain ⟨_, _, _, _, hforward, -⟩ := h
  rcases LinkedEndpoint.maybeRequestLinkCredit_cases hforward.link.a_up hforward.peer with
    ⟨-, hnone⟩ | ⟨_, _, _, -, -, hsome⟩
  · rw [hnone]
    exact ⟨rfl, rfl, rfl⟩
  · rw [hsome]
    exact ⟨rfl, rfl, rfl⟩

/-- To poll the near end is to let it ask for credit and to poll its link layer. -/
theorem Inv.near_pollTxFlit (h : Inv context s) :
  s.near.pollTxFlit = (s.near.maybeRequestLinkCredit.2.dlp.pollTx.1,
    { s.near.maybeRequestLinkCredit.2 with dlp := s.near.maybeRequestLinkCredit.2.dlp.pollTx.2 })
  := by
  have hok := h.asked.1
  rw [LinkedEndpoint.pollTxFlit]
  generalize s.near.maybeRequestLinkCredit = asked at hok
  obtain ⟨result, e⟩ := asked
  dsimp only at hok
  rw [hok]
  rfl

/-- Polling for one flit is polling with a buffer of one flit. -/
theorem Inv.pollTxFlit_eq (h : Inv context s) :
  s.pollTxFlit = FlitLink.pollTxBurst { s with near := s.near.maybeRequestLinkCredit.2 } 1
  := by
  obtain ⟨cf, df, _, _, _, _, -, hflits, -, -, -, hlen⟩ :=
    DlpEndpoint.pollTxBurst_spec h.maybeRequestLinkCredit.up 1
  rw [FlitLink.pollTxFlit, h.near_pollTxFlit, FlitLink.pollTxBurst, DlpEndpoint.pollTx]
  dsimp only at hflits ⊢
  generalize s.near.maybeRequestLinkCredit.2.dlp.pollTxBurst 1 = burst at hflits
  obtain ⟨result, dlp⟩ := burst
  cases result with
  | error err => rfl
  | ok flits =>
    obtain rfl : flits = cf ++ df := by simpa using hflits
    generalize cf ++ df = flits at hlen
    cases flits with
    | nil => rfl
    | cons flit flits =>
      obtain rfl : flits = [] := by
        rw [List.length_cons] at hlen
        exact List.eq_nil_of_length_eq_zero (by omega)
      rfl

/-! ### Arrival -/

variable {flit : Flit} {arriving : List Flit} {result : Option GdpPacket} {dlp : DlpEndpoint}

/-- The link once a flit has arrived and before a packet that it completes is handled. -/
def afterFlit (s : FlitLink T) (arriving : List Flit) (dlp : DlpEndpoint) : FlitLink T :=
  { s.withDlp dlp with arriving }

/-- A flit that arrives at the near end, and what the end of the link makes of it. -/
structure Arrives (s : FlitLink T) (flit : Flit) (arriving : List Flit) (result : Option GdpPacket)
    (dlp : DlpEndpoint) : Prop where
  first : s.arriving = flit :: arriving
  received : s.near.dlp.receive flit = (.ok result, dlp)

theorem Arrives.sameSender (h : Arrives s flit arriving result dlp) :
  DlpEndpoint.SameSender s.near.dlp dlp
  := by
  have hsame := s.near.dlp.sameSender_receive flit
  rwa [h.received] at hsame

/-- Nothing happens to the flits that the near end has to send. -/
theorem Arrives.left_near (h : Arrives s flit arriving result dlp) (t : LinkTraffic) :
  (s.afterFlit arriving dlp).left t = s.left t
  := by
  obtain ⟨_, _, _, _, hdlp⟩ := h.sameSender
  change s.sent.filter _ ++ queueRest (dlp.txQueue t) = _
  rw [hdlp]
  cases t with
  | control => rfl
  | data => rfl

/-- What a flit does to the packets of one kind of traffic on their way to the near end: nothing, or it
completes the first of them. -/
structure Passes (s' : FlitLink T) (t : LinkTraffic) (packets : List GdpPacket) (flit : Flit)
    (result : Option GdpPacket) (frames : List (TxFrame × GdpPacket)) (n : ℕ) : Prop where
  carries : Carries s'.swap t frames n
  passes : (frames.map Prod.snd = packets ∧ (flit.vcid.traffic = t → result = none)) ∨
    (flit.vcid.traffic = t ∧ ∃ packet, result = some packet ∧ packets = packet :: frames.map Prod.snd)

/-- Only one channel changes of what the end of a link holds, and what it counts. -/
def Holding (vcid : Vcid) (x : Option RxSegment) (d d' : DlpEndpoint) : Prop :=
  d' = { d.setRx vcid x with
    dataCreditOutstanding := d'.dataCreditOutstanding
    dataRxInUse := d'.dataRxInUse }

theorem holding_charge (d : DlpEndpoint) (t : LinkTraffic) (vcid : Vcid) (x : Option RxSegment) :
  Holding vcid x d ((DlpLink.charge d t).setRx vcid x)
  := by
  cases t with
  | control => rfl
  | data => rfl

theorem holding_release (d : DlpEndpoint) (t : LinkTraffic) (vcid : Vcid) (x : Option RxSegment)
    (flits : ℕ) :
  Holding vcid x d (((DlpLink.charge d t).setRx vcid x).releaseSegment t flits)
  := by
  cases t with
  | control => rfl
  | data => rfl

theorem Carries.after {t : LinkTraffic} (h : Carries s.swap t frames n) {d : DlpEndpoint} {vcid : Vcid}
    {x : Option RxSegment} (hd : Holding vcid x s.near.dlp d)
    {frames' : List (TxFrame × GdpPacket)} {n' : ℕ}
    (hcarrying : Carrying s.near.dlp.cfg s.near.dlp.localPrefix s.near.dlp.vcMode t
      (s.near.dlp.setRx vcid x).rx ((s.afterFlit arriving d).swap.left t) (frames'.map Prod.snd) []
      frames' n') :
  Carries (s.afterFlit arriving d).swap t frames' n'
  := by
  have hup := h.up
  have hsynchronized := h.synchronized
  constructor
  · change Carrying d.cfg d.localPrefix d.vcMode t d.rx _ _ _ _ _
    rw [hd]
    exact hcarrying
  · change d.linkUp
    rw [hd]
    exact hup
  · change ∀ vcid, d.desynchronized vcid = false
    rw [hd]
    exact hsynchronized

/-- A flit changes nothing on the channels of the other kind of traffic. -/
theorem Carries.other {t : LinkTraffic} (h : Carries s.swap t frames n) {d : DlpEndpoint}
    (hfirst : s.arriving = flit :: arriving) (ht : t ≠ flit.vcid.traffic)
    {x : Option RxSegment} (hd : Holding flit.vcid x s.near.dlp d) :
  Carries (s.afterFlit arriving d).swap t frames n
  := by
  have hleft : s.swap.left t = (s.afterFlit arriving d).swap.left t := by
    rw [left, left, show s.swap.sent = _ from hfirst,
      List.filter_cons_of_neg (by simpa using ht.symm)]
    rfl
  have hcarrying := h.carrying
  rw [hleft] at hcarrying
  have hrx : ∀ vcid : Vcid, vcid.traffic = t →
      (s.near.dlp.setRx flit.vcid x).rx vcid = s.swap.far.dlp.rx vcid := by
    rintro vcid rfl
    exact DlpLink.setRx_of_traffic_ne ht
  exact h.after hd (hcarrying.congr_rx hrx)

/-- What the link layer of the near end does with a flit. -/
theorem Arrives.eq_charge (h : Arrives s flit arriving result dlp) (hinv : Inv context s) :
  (DlpLink.charge s.near.dlp flit.vcid.traffic).receiveSegment flit = (.ok result, dlp)
  := by
  obtain ⟨queued, yielded, queued', yielded', -, hback⟩ := hinv
  have hflits : (s.swap.forward (credits (underWay queued yielded)) queued' yielded').flits
    = flit :: arriving := h.first
  have hreceive := hback.link.receive_eq hflits
  rw [show (s.swap.forward (credits (underWay queued yielded)) queued' yielded').b = s.near.dlp
    from rfl, h.received] at hreceive
  exact hreceive.symm

/-- Of the packets of its own kind of traffic a flit may complete the first. -/
theorem Arrives.passes_self (h : Arrives s flit arriving result dlp) (hinv : Inv context s)
    (hcarries : Carries s.swap flit.vcid.traffic frames n) :
  (∃ frames' n', Passes (s.afterFlit arriving dlp) flit.vcid.traffic (frames.map Prod.snd) flit
      result frames' n') ∧
    ∃ x, Holding flit.vcid x s.near.dlp dlp
  := by
  have hreceive := h.eq_charge hinv
  have hleft : s.swap.left flit.vcid.traffic
      = flit :: (s.afterFlit arriving dlp).swap.left flit.vcid.traffic := by
    rw [left, left, show s.swap.sent = _ from h.first, List.filter_cons_of_pos (by simp)]
    rfl
  have hcarrying := hcarries.carrying
  rw [hleft] at hcarrying
  have hcharged : ∃ outstanding inUse, DlpLink.charge s.near.dlp flit.vcid.traffic
      = { s.near.dlp with dataCreditOutstanding := outstanding, dataRxInUse := inUse } := by
    cases flit.vcid.traffic with
    | control => exact ⟨_, _, rfl⟩
    | data => exact ⟨_, _, rfl⟩
  obtain ⟨outstanding, inUse, heq⟩ := hcharged
  rcases Carrying.arrive (e := DlpLink.charge s.near.dlp flit.vcid.traffic) (by
      rw [heq]
      exact hcarrying) with ⟨segment, hsegment, hnext⟩ | ⟨packet, frames', hsegment, hnext⟩
  · obtain ⟨hresult, rfl⟩ := Prod.mk.inj (hreceive.symm.trans hsegment)
    obtain rfl := Except.ok.inj hresult
    have hholding := holding_charge s.near.dlp flit.vcid.traffic flit.vcid (some segment)
    refine ⟨⟨frames, n + 1, ?_, .inl ⟨rfl, fun _ => rfl⟩⟩, _, hholding⟩
    apply hcarries.after hholding
    rw [heq] at hnext ⊢
    exact hnext
  · obtain ⟨hresult, rfl⟩ := Prod.mk.inj (hreceive.symm.trans hsegment)
    obtain rfl := Except.ok.inj hresult
    have hholding := holding_release s.near.dlp flit.vcid.traffic flit.vcid none (n + 1)
    refine ⟨⟨frames', 0, ?_, .inr ⟨rfl, packet, rfl, ?_⟩⟩, _, hholding⟩
    · apply hcarries.after hholding
      have hforget := hnext.forget
      rw [heq] at hforget ⊢
      exact hforget
    · rw [← hnext.logs]
      rfl

/-- What a flit does to the packets on their way. -/
theorem Arrives.passes (h : Arrives s flit arriving result dlp) (hinv : Inv context s)
    {t : LinkTraffic} (hcarries : Carries s.swap t frames n) :
  ∃ frames' n', Passes (s.afterFlit arriving dlp) t (frames.map Prod.snd) flit result frames' n'
  := by
  by_cases ht : t = flit.vcid.traffic
  · subst ht
    exact (h.passes_self hinv hcarries).1
  · obtain ⟨_, _, hself⟩ := hinv.swap.carries flit.vcid.traffic
    obtain ⟨-, x, hholding⟩ := h.passes_self hinv hself
    exact ⟨frames, n, hcarries.other h.first ht hholding, .inl ⟨rfl, fun heq => absurd heq.symm ht⟩⟩

/-- A control flit takes no room in the buffer for data. -/
theorem Arrives.dataRxInUse (h : Arrives s flit arriving result dlp) (hinv : Inv context s)
    (ht : flit.vcid.traffic = .control) :
  dlp.dataRxInUse = s.near.dlp.dataRxInUse
  := by
  have hreceive := h.eq_charge hinv
  obtain ⟨frames, n, hcarries⟩ := hinv.swap.carries .control
  have hleft : s.swap.left .control = flit :: (s.afterFlit arriving dlp).swap.left .control := by
    rw [left, left, show s.swap.sent = _ from h.first, List.filter_cons_of_pos (by simp [ht])]
    rfl
  have hcarrying := hcarries.carrying
  rw [hleft] at hcarrying
  rw [ht] at hreceive
  rcases Carrying.arrive (e := s.near.dlp) hcarrying with ⟨_, hsegment, -⟩ | ⟨_, _, hsegment, -⟩
  · obtain ⟨-, rfl⟩ := Prod.mk.inj (hreceive.symm.trans hsegment)
    rfl
  · obtain ⟨-, rfl⟩ := Prod.mk.inj (hreceive.symm.trans hsegment)
    rfl

end FlitLink

end SmolGnet
