import SmolGnet.Endpoint.FlitLink

/-!
# Two endpoints on a link of frames

Two endpoints attached to each other that exchange whole frames, and what is on its way between
them: the frames in flight in either direction, and the credit for control frames that is returned
to an end for each of its control frames that has arrived.

No frame is ever sent in part, so what is known of a direction is said of whole frames: the credit
that the receiver has given is the credit of the sender, the data flits in flight and what is in
`CREDIT` frames on their way, and the control window is the credit for control frames of the
sender, the control flits in flight and the returns on their way.
-/

namespace SmolGnet

/-! ### Frames -/

/-- The frame as a whole. -/
def TxFrame.whole (frame : TxFrame) : GnetFrame where
  vcid := frame.vcid
  traffic := frame.traffic
  bytes := frame.bytes

namespace GnetFrame

/-- The frame is that of a packet that is canonical in some local context. -/
structure Carries (frame : GnetFrame) (cfg : GdpWireConfig) (packet : GdpPacket) : Prop where
  canonical : ∃ p, packet.Canonical p
  bytes_eq : frame.bytes = packet.wire cfg

/-- The credit that the packet of a frame brings. -/
def creditIn (cfg : GdpWireConfig) (frame : GnetFrame) : Option U32 :=
  (GdpPacket.decode frame.bytes cfg 0#64).toOption.bind creditOf

variable {frame : GnetFrame} {cfg : GdpWireConfig} {packet : GdpPacket}

/-- The packet is read as it is seen in the local context of the reader. -/
theorem Carries.decode (h : frame.Carries cfg packet) (p : U64) :
  GdpPacket.decode frame.bytes cfg p = .ok (packet.within p)
  := by
  obtain ⟨q, hcanonical⟩ := h.canonical
  rw [h.bytes_eq, ← GdpPacket.wire_within packet p cfg, GdpPacket.decode_wire (hcanonical.within p)]

theorem Carries.creditIn_eq (h : frame.Carries cfg packet) :
  frame.creditIn cfg = creditOf packet
  := by
  rw [creditIn, h.decode]
  apply creditOf_within

end GnetFrame

/-- The credit in a list of frames. -/
def granted (cfg : GdpWireConfig) (frames : List GnetFrame) : ℕ :=
  ((frames.filterMap (·.creditIn cfg)).map BitVec.toNat).sum

/-- The flits of one kind of traffic in a list of frames. -/
def trafficFlits (t : LinkTraffic) (frames : List GnetFrame) : ℕ :=
  ((frames.filter (fun frame => frame.traffic = t)).map GnetFrame.flitLen).sum

theorem granted_append (cfg : GdpWireConfig) (frames frames' : List GnetFrame) :
  granted cfg (frames ++ frames') = granted cfg frames + granted cfg frames'
  := by
  rw [granted, List.filterMap_append, List.map_append, List.sum_append]
  rfl

theorem granted_singleton (cfg : GdpWireConfig) (frame : GnetFrame) :
  granted cfg [frame] = ((frame.creditIn cfg).map BitVec.toNat).getD 0
  := by
  rw [granted, List.filterMap_cons]
  cases frame.creditIn cfg with
  | none => rfl
  | some count => simp

theorem trafficFlits_append (t : LinkTraffic) (frames frames' : List GnetFrame) :
  trafficFlits t (frames ++ frames') = trafficFlits t frames + trafficFlits t frames'
  := by
  rw [trafficFlits, List.filter_append, List.map_append, List.sum_append]
  rfl

theorem trafficFlits_cons (t : LinkTraffic) (frame : GnetFrame) (frames : List GnetFrame) :
  trafficFlits t (frame :: frames)
    = (if frame.traffic = t then frame.flitLen else 0) + trafficFlits t frames
  := by
  rw [trafficFlits, List.filter_cons]
  split
  · next h =>
    rw [if_pos (of_decide_eq_true h)]
    rfl
  · next h =>
    rw [if_neg (of_decide_eq_false (Bool.not_eq_true _ ▸ h)), Nat.zero_add]
    rfl

namespace DlpEndpoint

variable {e : DlpEndpoint}

/-- What a poll for a frame does to a link of which no frame has been sent in part: it sends a
control frame, a data frame, or nothing. -/
theorem pollTxFrame_cases (hup : e.linkUp)
    (hwhole : ∀ frame ∈ e.controlTxQueue ++ e.dataTxQueue, frame.flitOffset = 0) :
  (∃ front rest, e.controlTxQueue = front :: rest ∧ front.flitLen ≤ e.controlTxCredit.toNat ∧
    e.pollTxFrame = .ok (some front.whole, { e with
      controlTxQueue := rest
      controlTxCredit := e.controlTxCredit - BitVec.ofNat 32 front.flitLen })) ∨
  (∀ front ∈ e.controlTxQueue.head?, e.controlTxCredit.toNat < front.flitLen) ∧
    ((∃ front rest, e.dataTxQueue = front :: rest ∧ front.flitLen ≤ e.dataTxCredit.toNat ∧
      e.pollTxFrame = .ok (some front.whole, { e with
        dataTxQueue := rest
        dataTxCredit := e.dataTxCredit - BitVec.ofNat 32 front.flitLen })) ∨
    (∀ front ∈ e.dataTxQueue.head?, e.dataTxCredit.toNat < front.flitLen) ∧
      e.pollTxFrame = if e.controlTxQueue = [] ∧ e.dataTxQueue = [] then .ok (none, e)
        else .error .noCredit)
  := by
  have hpop : ∀ {queue : List TxFrame} (credit : U32),
      (∀ frame ∈ queue, frame.flitOffset = 0) →
      (∃ front rest, queue = front :: rest ∧ front.flitLen ≤ credit.toNat ∧
        popSendableFrame queue credit
          = .ok (some (front.whole, rest, credit - BitVec.ofNat 32 front.flitLen))) ∨
      (∀ front ∈ queue.head?, credit.toNat < front.flitLen) ∧
        popSendableFrame queue credit = .ok none := by
    intro queue credit hoffset
    cases queue with
    | nil => exact .inr ⟨nofun, rfl⟩
    | cons front rest =>
      have hzero := hoffset front List.mem_cons_self
      rw [popSendableFrame, if_neg (not_not.mpr hzero)]
      by_cases hlt : credit.toNat < front.flitLen
      · rw [if_pos hlt]
        refine .inr ⟨?_, rfl⟩
        rintro _ ⟨⟩
        exact hlt
      · rw [if_neg hlt, TxFrame.intoFrame, if_neg (not_not.mpr hzero)]
        exact .inl ⟨front, rest, rfl, Nat.le_of_not_lt hlt, rfl⟩
  rw [List.forall_mem_append] at hwhole
  rw [pollTxFrame, if_neg (by simp [hup])]
  rcases hpop e.controlTxCredit hwhole.1 with ⟨front, rest, hqueue, hle, hcontrol⟩ | ⟨hlt, hcontrol⟩
  · rw [hcontrol]
    exact .inl ⟨front, rest, hqueue, hle, rfl⟩
  · rw [hcontrol]
    refine .inr ⟨hlt, ?_⟩
    rcases hpop e.dataTxCredit hwhole.2 with ⟨front, rest, hqueue, hle, hdata⟩ | ⟨hlt', hdata⟩
    · rw [hdata]
      exact .inl ⟨front, rest, hqueue, hle, rfl⟩
    · rw [hdata]
      exact .inr ⟨hlt', rfl⟩

end DlpEndpoint

namespace DlpEndpoint

variable {e : DlpEndpoint}

/-- Where nothing is held, credit that can be given is noted. -/
theorem noteDataCreditGranted_of_idle {grant : U32} (hidle : e.dataRxInUse = 0#32)
    (hle : e.dataCreditOutstanding ≤ e.rxBufferFlits) (hgrant : grant ≤ e.grantableDataCredit) :
  ∃ outstanding, e.noteDataCreditGranted grant = .ok { e with dataCreditOutstanding := outstanding } ∧
    outstanding.toNat = e.dataCreditOutstanding.toNat + grant.toNat ∧
    outstanding ≤ e.rxBufferFlits
  := by
  have hgrantable : e.grantableDataCredit.toNat
      = e.rxBufferFlits.toNat - e.dataCreditOutstanding.toNat := by
    rw [grantableDataCredit, availableRxFlits, toNat_saturatingSub, toNat_saturatingSub, hidle]
    rfl
  have hbound := e.rxBufferFlits.isLt
  rw [BitVec.le_def] at hle
  rw [BitVec.le_def, hgrantable] at hgrant
  have hsum : (saturatingAdd e.dataCreditOutstanding grant).toNat
      = e.dataCreditOutstanding.toNat + grant.toNat := toNat_saturatingAdd (by omega)
  refine ⟨saturatingAdd e.dataCreditOutstanding grant, ?_, hsum, ?_⟩
  · rw [noteDataCreditGranted, if_neg]
    rw [BitVec.lt_def, hgrantable]
    omega
  · rw [BitVec.le_def, hsum]
    omega

end DlpEndpoint

namespace LinkedEndpoint

variable {T : Transport} {e e' : LinkedEndpoint T}

/-- The endpoint with a control packet queued. -/
def queued (e : LinkedEndpoint T) (packet : GdpPacket) : LinkedEndpoint T :=
  { e with dlp := { e.dlp with
    controlTxQueue := e.dlp.controlTxQueue ++ [e.dlp.frameOn Vcid.control packet] } }

/-- A control message that is sent is queued last. -/
theorem sendGctlFrom_queued {source remote : GdpAddress} {msg : GctlMessage}
    {sizeClass : Option SizeClass} (hup : e.dlp.linkUp)
    (h : e.sendGctlFrom source remote msg sizeClass = .ok e') :
  ∃ packet, e.Holds source remote msg packet ∧ e' = e.queued packet
  := by
  obtain ⟨packet, hholds, n, hqueue, heq⟩ := sendGctlFrom_eq_ok h
  have hlt : Vcid.control.val < e.dlp.vcMode.count := by cases e.dlp.vcMode <;> decide
  obtain ⟨n', hqueued⟩ := DlpEndpoint.queuePacketOn_of_canonical hup hlt hholds.canonical
  have hsame := hqueue.symm.trans hqueued
  simp only [Except.ok.injEq, Prod.mk.injEq] at hsame
  refine ⟨packet, hholds, ?_⟩
  rw [heq, hsame.2]
  rfl

end LinkedEndpoint

/-! ### The pair of endpoints -/

/-- Two endpoints, the frames in flight from the near one and those in flight to it, and the credit
for control frames on its way back to either end. -/
structure FrameLink (T : Transport) where
  near : LinkedEndpoint T
  far : LinkedEndpoint T
  sent : List GnetFrame
  arriving : List GnetFrame
  nearReturns : List U32
  farReturns : List U32

namespace FrameLink

variable {T : Transport}

/-- What can happen at one end. -/
inductive LocalAction (T : Transport) where
  | app (op : T.Op)
  | sendGctl (remote : GdpAddress) (msg : GctlMessage) (sizeClass : SizeClass)
  | solicitRouter (transactionId : U32)
  | enableAddressAuthority (config : AddressAuthorityConfig)
  | takeEchoReply (transactionId : U32)
  | takeGctl
  | pollTxFrame
  | receiveFrame (now : U64)
  | restoreControlCredit

/-- What can happen. -/
inductive Action (T : Transport) where
  | near (action : LocalAction T)
  | far (action : LocalAction T)

/-- The link as the other end sees it. -/
def swap (s : FrameLink T) : FrameLink T where
  near := s.far
  far := s.near
  sent := s.arriving
  arriving := s.sent
  nearReturns := s.farReturns
  farReturns := s.nearReturns

/-- The near end is polled for a frame. -/
def pollTxFrame (s : FrameLink T) : FrameLink T :=
  match s.near.pollTxFrame with
  | (.ok frame, near) => { s with near, sent := s.sent ++ frame.toList }
  | (.error _, near) => { s with near }

/-- What is returned to the sender of a frame that has arrived. -/
def returned (frame : GnetFrame) : List U32 :=
  if frame.traffic = .control then [LinkedEndpoint.clampU32 frame.flitLen] else []

/-- The first frame in flight to the near end arrives. -/
def receiveFrame (s : FrameLink T) (now : U64) : FrameLink T :=
  match s.arriving with
  | [] => s
  | frame :: arriving =>
    { s with
      near := (s.near.receiveFrame frame now).2
      arriving
      farReturns := s.farReturns ++ returned frame }

/-- The first credit for control frames on its way to the near end arrives. -/
def restoreControlCredit (s : FrameLink T) : FrameLink T :=
  match s.nearReturns with
  | [] => s
  | count :: nearReturns =>
    { s with
      near := { s.near with dlp := s.near.dlp.grantControlTxCredit count }
      nearReturns }

/-- The link after something has happened at the near end. -/
def actNear (s : FrameLink T) : LocalAction T → FrameLink T
  | .app op => { s with near := (s.near.app op).2 }
  | .sendGctl remote msg sizeClass => { s with near := (s.near.sendGctl remote msg sizeClass).2 }
  | .solicitRouter transactionId => { s with near := (s.near.solicitRouter transactionId).2 }
  | .enableAddressAuthority config => { s with near := s.near.enableAddressAuthority config }
  | .takeEchoReply transactionId => { s with near := (s.near.takeEchoReply transactionId).2 }
  | .takeGctl => { s with near := s.near.takeGctl.2 }
  | .pollTxFrame => s.pollTxFrame
  | .receiveFrame now => s.receiveFrame now
  | .restoreControlCredit => s.restoreControlCredit

/-- The link after something has happened at one of its ends. -/
def step (s : FrameLink T) : Action T → FrameLink T
  | .near action => s.actNear action
  | .far action => (s.swap.actNear action).swap

/-- The two ends are attached to each other, each with the control window of the other. -/
def attached (a b : LinkedEndpoint T) : FrameLink T where
  near := (a.linkAttached b.linkLocalAddress b.dlp.controlWindowFlits).2
  far := (b.linkAttached a.linkLocalAddress a.dlp.controlWindowFlits).2
  sent := []
  arriving := []
  nearReturns := []
  farReturns := []

/-- The application sends no `CREDIT`. -/
def LocalAction.NoCredit : LocalAction T → Prop
  | .sendGctl _ msg _ => msg.messageType ≠ .credit
  | _ => True

/-- The application sends no `CREDIT` at the end where the action happens. -/
def Action.NoCredit : Action T → Prop
  | .near action => action.NoCredit
  | .far action => action.NoCredit

/-- The addresses of the link are read as they were written. -/
def Readable (context : Option U64) (s : FrameLink T) : Prop :=
  FlitLink.Readable context { near := s.near, far := s.far, sent := [], arriving := [] }

instance (context : Option U64) (s : FrameLink T) : Decidable (Readable context s) :=
  inferInstanceAs (Decidable (FlitLink.Readable context _))

/-! ### What is known of a direction -/

/-- The packet is for the end with the given address, as it is read there. -/
def Reaches (context : Option U64) (destination : GdpAddress) (packet : GdpPacket) : Prop :=
  packet.header.destination = destination ∧
    (packet.header.addresses.form = .global ∨ ∃ p ∈ context, packet.Canonical p)

/-- The frame can be received, and if it brings credit then it is for the end with the given
address. -/
structure Transmits (context : Option U64) (cfg : GdpWireConfig) (mode : VcMode)
    (destination : GdpAddress) (frame : GnetFrame) : Prop where
  carries : ∃ packet, frame.Carries cfg packet ∧
    (frame.traffic = .data → creditOf packet = none) ∧
    (creditOf packet ≠ none → Reaches context destination packet)
  channel : frame.vcid.traffic = frame.traffic ∧ frame.vcid.val < mode.count

/-- The control frames on their way from the near end, in their order. -/
def outgoing (s : FrameLink T) : List GnetFrame :=
  s.sent ++ s.near.dlp.controlTxQueue.map TxFrame.whole

/-- What is known of the direction from the near end to the far end. -/
structure Direction (context : Option U64) (s : FrameLink T) : Prop where
  up : s.near.dlp.linkUp
  peer : s.near.peerLinkLocal = some s.far.linkLocalAddress
  context_eq : s.near.dlp.localPrefix = s.near.contextPrefix
  same_cfg : s.near.dlp.cfg = s.far.dlp.cfg
  same_mode : s.near.dlp.vcMode = s.far.dlp.vcMode
  next_vc : s.near.dlp.nextDataVc.traffic = .data ∧
    s.near.dlp.nextDataVc.val < s.near.dlp.vcMode.count
  idle : s.near.dlp.dataRxInUse = 0#32
  buffer : s.near.dlp.rxBufferFlits ≠ 0#32
  whole : ∀ frame ∈ s.near.dlp.controlTxQueue ++ s.near.dlp.dataTxQueue, frame.flitOffset = 0
  control : ∀ frame ∈ s.near.dlp.controlTxQueue, frame.traffic = .control
  data : ∀ frame ∈ s.near.dlp.dataTxQueue, frame.traffic = .data
  transmits : ∀ frame ∈ s.outgoing ++ s.near.dlp.dataTxQueue.map TxFrame.whole,
    Transmits context s.near.dlp.cfg s.near.dlp.vcMode s.far.linkLocalAddress frame
  credit : s.near.dlp.dataTxCredit.toNat + trafficFlits .data s.sent
    + granted s.near.dlp.cfg s.swap.outgoing = s.far.dlp.dataCreditOutstanding.toNat
  within_buffer : s.far.dlp.dataCreditOutstanding ≤ s.far.dlp.rxBufferFlits
  window : s.near.dlp.controlTxCredit.toNat + trafficFlits .control s.sent
    + (s.nearReturns.map BitVec.toNat).sum = s.far.dlp.controlWindowFlits.toNat

/-- What is known of both directions. -/
def Balanced (context : Option U64) (s : FrameLink T) : Prop :=
  Direction context s ∧ Direction context s.swap

section Step

variable {context : Option U64} {s : FrameLink T} {d : DlpEndpoint}

theorem Balanced.swap (h : Balanced context s) :
  Balanced context s.swap
  := ⟨h.2, h.1⟩

theorem Readable.swap (h : Readable context s) :
  Readable context s.swap
  := FlitLink.Readable.swap h

/-- Whether the addresses are read as written depends on the settings of the ends only. -/
theorem Readable.of_settings {e e' : LinkedEndpoint T} (hconfig : e'.config = e.config)
    (hlocal : e'.linkLocalAddress = e.linkLocalAddress) :
  Readable context { s with near := e' } ↔ Readable context { s with near := e }
  := by
  let ends : FlitLink T := { near := s.near, far := s.far, sent := [], arriving := [] }
  exact FlitLink.Readable.of_settings (s := ends) hconfig hlocal

/-- The near end with another end of the link. -/
def withDlp (s : FrameLink T) (dlp : DlpEndpoint) : FrameLink T :=
  { s with near := { s.near with dlp } }

/-! ### Queueing -/

/-- Only the settings and the link of the near end matter. -/
theorem Balanced.of_settings (h : Balanced context (s.withDlp d)) {e : LinkedEndpoint T}
    (hconfig : e.config = s.near.config) (hlocal : e.linkLocalAddress = s.near.linkLocalAddress)
    (hpeer : e.peerLinkLocal = s.near.peerLinkLocal) (hdlp : e.dlp = d) :
  Balanced context { s with near := e }
  := by
  subst hdlp
  obtain ⟨hforward, hback⟩ := h
  constructor
  · refine { hforward with peer := hpeer.trans hforward.peer, context_eq := ?_ }
    apply hforward.context_eq.trans
    rw [LinkedEndpoint.contextPrefix, LinkedEndpoint.contextPrefix, hconfig]
    rfl
  · refine { hback with peer := hback.peer.trans (congrArg some hlocal.symm), transmits := ?_ }
    intro frame hframe
    have htransmits := hback.transmits frame hframe
    rwa [show (s.withDlp e.dlp).swap.far.linkLocalAddress = e.linkLocalAddress from hlocal.symm]
      at htransmits

theorem carries_frameOn (d : DlpEndpoint) (vcid : Vcid) {packet : GdpPacket} {p : U64}
    (hp : packet.Canonical p) :
  (d.frameOn vcid packet).whole.Carries d.cfg packet
  := ⟨⟨p, hp⟩, rfl⟩

/-- A control packet is queued, and the credit in it is noted. -/
theorem Balanced.queueControl (h : Balanced context s) {packet : GdpPacket} {p : U64}
    (hp : packet.Canonical p)
    (hreach : creditOf packet ≠ none → Reaches context s.far.linkLocalAddress packet)
    {outstanding : U32}
    (hout : outstanding.toNat = s.near.dlp.dataCreditOutstanding.toNat
      + ((creditOf packet).map BitVec.toNat).getD 0)
    (hle : outstanding ≤ s.near.dlp.rxBufferFlits) :
  Balanced context (s.withDlp { s.near.dlp with
    controlTxQueue := s.near.dlp.controlTxQueue ++ [s.near.dlp.frameOn Vcid.control packet]
    dataCreditOutstanding := outstanding })
  := by
  obtain ⟨hforward, hback⟩ := h
  have hlt : Vcid.control.val < s.near.dlp.vcMode.count := by cases s.near.dlp.vcMode <;> decide
  have hcarries := carries_frameOn s.near.dlp Vcid.control hp
  have houtgoing : (s.withDlp { s.near.dlp with
      controlTxQueue := s.near.dlp.controlTxQueue ++ [s.near.dlp.frameOn Vcid.control packet]
      dataCreditOutstanding := outstanding }).outgoing
      = s.outgoing ++ [(s.near.dlp.frameOn Vcid.control packet).whole] := by
    rw [outgoing, outgoing, List.append_assoc, withDlp, List.map_append]
    rfl
  constructor
  · refine { hforward with whole := ?_, control := ?_, transmits := ?_ }
    · intro frame hframe
      simp only [withDlp, List.mem_append, List.mem_singleton, or_assoc] at hframe
      rcases hframe with hframe | rfl | hframe
      · exact hforward.whole frame (List.mem_append_left _ hframe)
      · rfl
      · exact hforward.whole frame (List.mem_append_right _ hframe)
    · intro frame hframe
      rcases List.mem_append.mp hframe with hframe | hframe
      · exact hforward.control frame hframe
      · rw [List.mem_singleton.mp hframe]
        rfl
    · intro frame hframe
      rw [houtgoing] at hframe
      simp only [List.mem_append, List.mem_singleton, or_assoc] at hframe
      rcases hframe with hframe | rfl | hframe
      · exact hforward.transmits frame (List.mem_append_left _ hframe)
      · exact ⟨⟨packet, hcarries, nofun, hreach⟩, rfl, hlt⟩
      · exact hforward.transmits frame (List.mem_append_right _ hframe)
  · refine { hback with credit := ?_, within_buffer := hle }
    have hcredit : s.far.dlp.dataTxCredit.toNat + trafficFlits .data s.arriving
      + granted s.far.dlp.cfg s.outgoing = s.near.dlp.dataCreditOutstanding.toNat := hback.credit
    change s.far.dlp.dataTxCredit.toNat + trafficFlits .data s.arriving
      + granted s.far.dlp.cfg (s.withDlp _).outgoing = outstanding.toNat
    rw [houtgoing, granted_append, granted_singleton, ← hforward.same_cfg, hcarries.creditIn_eq,
      hout, ← hcredit, hforward.same_cfg]
    omega

/-- A data packet is queued. -/
theorem Balanced.queueData (h : Balanced context s) {packet : GdpPacket} {p : U64}
    (hp : packet.Canonical p) (hplain : creditOf packet = none) :
  Balanced context (s.withDlp (s.near.dlp.queueDataPacket packet).2)
  := by
  obtain ⟨hforward, hback⟩ := h
  obtain ⟨n, hqueue⟩ := DlpEndpoint.queueDataPacket_of_canonical hforward.up hforward.next_vc.1
    hforward.next_vc.2 hp
  have hcarries := carries_frameOn s.near.dlp s.near.dlp.nextDataVc hp
  rw [hqueue]
  refine ⟨{ hforward with next_vc := ?_, whole := ?_, data := ?_, transmits := ?_ }, { hback with }⟩
  · apply DlpEndpoint.succDataVc_spec
  · intro frame hframe
    simp only [withDlp, List.mem_append, List.mem_singleton] at hframe
    rcases hframe with hframe | hframe | rfl
    · exact hforward.whole frame (List.mem_append_left _ hframe)
    · exact hforward.whole frame (List.mem_append_right _ hframe)
    · rfl
  · intro frame hframe
    rcases List.mem_append.mp hframe with hframe | hframe
    · exact hforward.data frame hframe
    · rw [List.mem_singleton.mp hframe]
      exact hforward.next_vc.1
  · intro frame hframe
    simp only [withDlp, List.map_append, ← List.append_assoc, List.mem_append, List.map_cons,
      List.map_nil, List.mem_singleton] at hframe
    rcases hframe with hframe | rfl
    · apply hforward.transmits
      rw [List.mem_append]
      exact hframe
    · exact ⟨⟨packet, hcarries, fun _ => hplain, fun hne => absurd hplain hne⟩, rfl,
        hforward.next_vc.2⟩

/-! ### The moves of the near end -/

theorem Balanced.control (h : Balanced context s) {source remote : GdpAddress}
    {msg : GctlMessage} {sizeClass : Option SizeClass} {e : LinkedEndpoint T}
    (hmsg : msg.messageType ≠ .credit)
    (hsend : s.near.sendGctlFrom source remote msg sizeClass = .ok e) :
  Balanced context { s with near := e }
  := by
  obtain ⟨packet, hholds, rfl⟩ := LinkedEndpoint.sendGctlFrom_queued h.1.up hsend
  obtain ⟨padding, hdecode⟩ := hholds.payload
  have hcredit : creditOf packet = none := creditOf_of_messageType hdecode hmsg
  apply h.queueControl hholds.canonical (fun hne => absurd hcredit hne) _ h.2.within_buffer
  rw [hcredit]
  rfl

/-- A message on the link is for the other end. -/
theorem Direction.reaches (h : Direction context s) (hr : Readable context s) {msg : GctlMessage}
    {packet : GdpPacket}
    (hholds : s.near.Holds s.near.linkLocalAddress s.far.linkLocalAddress msg packet) :
  Reaches context s.far.linkLocalAddress packet
  := by
  refine ⟨hholds.destination, ?_⟩
  cases context with
  | none => exact .inl (hholds.form.resolve_right hr.1)
  | some p =>
    right
    use p, rfl
    rw [← show s.near.contextPrefix = p from hr.1]
    exact hholds.canonical

/-- A `CREDIT` for the other end is queued and noted, if it can be sent. -/
theorem Balanced.credit (h : Balanced context s) (hr : Readable context s) {peer : GdpAddress}
    {transactionId grant : U32} (hpeer : ∀ p ∈ s.near.peerLinkLocal, peer = p)
    (hgrant : grant ≤ s.near.dlp.grantableDataCredit) :
  Balanced context { s with near := (s.near.sendCredit peer transactionId grant).2 }
  := by
  rw [LinkedEndpoint.sendCredit]
  split
  · exact h
  next e hsend =>
  obtain ⟨packet, hholds, rfl⟩ := LinkedEndpoint.sendGctlFrom_queued h.1.up hsend
  obtain rfl : peer = s.far.linkLocalAddress := hpeer _ h.1.peer
  obtain ⟨outstanding, hnote, hout, hle⟩ := DlpEndpoint.noteDataCreditGranted_of_idle
    (e := (s.near.queued packet).dlp) h.1.idle h.2.within_buffer hgrant
  rw [hnote]
  apply h.queueControl hholds.canonical (fun _ => h.1.reaches hr hholds) _ hle
  rw [hholds.creditOf_eq]
  exact hout

theorem Balanced.data (h : Balanced context s) (x : GtsSend) :
  Balanced context { s with near := (s.near.sendGts x).2 }
  := by
  rcases s.near.sendGts_spec x with heq | ⟨packet, hcanonical, htype, heq⟩
  · rw [heq]
    exact h
  · rw [heq]
    apply h.queueData hcanonical
    rw [creditOf, if_neg]
    rw [htype]
    simp

/-- The local context of the near end changes. -/
theorem Balanced.inContext (h : Balanced context s) (p : U64) :
  Balanced context { s with near := s.near.inContext p }
  := by
  obtain ⟨hforward, hback⟩ := h
  exact ⟨{ hforward with context_eq := rfl }, { hback with }⟩

/-- The endpoint at the near end keeps the balance with whatever it does on its own. -/
theorem upholds (context : Option U64) (s : FrameLink T) :
  LinkedEndpoint.Upholds (fun e => Readable context { s with near := e })
    (fun e => Balanced context { s with near := e })
  where
  settings {e _} h hconfig hlocal hpeer hdlp :=
    Balanced.of_settings (s := { s with near := e }) (d := e.dlp) h hconfig hlocal hpeer hdlp
  readable := Readable.of_settings
  control {e _ _ _ _ _} h hmsg hsend := Balanced.control (s := { s with near := e }) h hmsg hsend
  data {e} x h := Balanced.data (s := { s with near := e }) h x
  credit {e _ _ _} h hr hpeer hgrant := Balanced.credit (s := { s with near := e }) h hr hpeer hgrant
  inContext {e p} h _ _ := Balanced.inContext (s := { s with near := e }) h p

theorem Balanced.moves (h : Balanced context s) (hr : Readable context s) {e : LinkedEndpoint T}
    (hmoves : LinkedEndpoint.Moves s.near e) :
  Balanced context { s with near := e }
  := (upholds context s).moves h hr hmoves

/-- The near end asks for credit. -/
theorem Balanced.maybeRequestLinkCredit (h : Balanced context s) :
  Balanced context { s with near := s.near.maybeRequestLinkCredit.2 }
  := (upholds context s).maybeRequestLinkCredit h

end Step

end FrameLink

end SmolGnet
