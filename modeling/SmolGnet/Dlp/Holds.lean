import SmolGnet.Dlp.Credit

/-!
# What holds of the frames that wait

A frame waits in the queue of its traffic until its flits are sent.  An operation adds at most the
frame of the packet that it queues, takes frames off the front, and sends flits of the first one.  So
a property of frames that is not lost when a flit is sent holds of all that wait, in every state, if
it holds of the new ones; and it holds of the frames that are sent, and of those whose flits are.
-/

namespace SmolGnet

namespace DlpEndpoint

variable {e e' : DlpEndpoint} {P : LinkTraffic → TxFrame → Prop} {t : LinkTraffic}

/-- The property holds of every frame that waits. -/
def Holds (P : LinkTraffic → TxFrame → Prop) (e : DlpEndpoint) : Prop :=
  ∀ t, ∀ frame ∈ e.txQueue t, P t frame

/-- The property of a frame is not lost when a flit is sent and others are left. -/
def Lasting (P : LinkTraffic → TxFrame → Prop) : Prop :=
  ∀ t frame, P t frame → 0 < TxFrame.remainingFlits { frame with flitOffset := frame.flitOffset + 1 } →
    P t { frame with flitOffset := frame.flitOffset + 1 }

/-- The frame of a packet that is queued for a kind of traffic. -/
structure Enqueues (e : DlpEndpoint) (packet : GdpPacket) (t : LinkTraffic) (frame : TxFrame) :
    Prop where
  up : e.linkUp = true
  vcid_traffic : frame.vcid.traffic = t
  vcid_lt : frame.vcid.val < e.vcMode.count
  traffic_eq : frame.traffic = t
  encoded : packet.encode e.cfg = .ok frame.bytes
  unsent : frame.flitOffset = 0

/-- The packet that an operation queues. -/
def Op.packet : Op → Option GdpPacket
  | .queuePacketOn _ _ packet => some packet
  | .queueDataPacket packet => some packet
  | _ => none

theorem Holds.congr (h : e.Holds P) (hqueue : e'.txQueue = e.txQueue) :
  e'.Holds P
  := by
  intro t
  rw [hqueue]
  exact h t

theorem Holds.sameSender (h : e.Holds P) (he : SameSender e e') :
  e'.Holds P
  := by
  obtain ⟨_, _, _, _, rfl⟩ := he
  exact h

theorem holds_iff :
  e.Holds P ↔ (∀ frame ∈ e.controlTxQueue, P .control frame) ∧ ∀ frame ∈ e.dataTxQueue, P .data frame
  := by
  constructor
  · intro h
    exact ⟨h .control, h .data⟩
  · rintro ⟨hcontrol, hdata⟩ t
    cases t with
    | control => exact hcontrol
    | data => exact hdata

/-! ### Queueing -/

theorem Holds.queuePacketOn (h : e.Holds P) {vcid : Vcid} {packet : GdpPacket} {n : ℕ}
    (hnew : ∀ t frame, e.Enqueues packet t frame → P t frame)
    (hqueue : e.queuePacketOn t vcid packet = .ok (n, e')) :
  e'.Holds P
  := by
  obtain ⟨hup, hlt, ht, bytes, hencode, -, rfl⟩ := queuePacketOn_spec hqueue
  have hframe : P t { vcid, traffic := t, bytes, flitOffset := 0 } :=
    hnew t _ ⟨hup, ht, hlt, rfl, hencode, rfl⟩
  rw [holds_iff] at h ⊢
  cases t with
  | control => exact ⟨List.forall_mem_append.mpr ⟨h.1, List.forall_mem_singleton.mpr hframe⟩, h.2⟩
  | data => exact ⟨h.1, List.forall_mem_append.mpr ⟨h.2, List.forall_mem_singleton.mpr hframe⟩⟩

theorem Holds.queueDataPacket (h : e.Holds P) {packet : GdpPacket}
    (hnew : ∀ t frame, e.Enqueues packet t frame → P t frame) :
  (e.queueDataPacket packet).2.Holds P
  := by
  have hchoose : e.chooseDataVc.2.Holds P := h
  rw [DlpEndpoint.queueDataPacket]
  dsimp only
  split
  · next hqueue =>
    refine hchoose.queuePacketOn ?_ hqueue
    intro t frame hframe
    exact hnew t frame ⟨hframe.1, hframe.2, hframe.3, hframe.4, hframe.5, hframe.6⟩
  · exact hchoose

/-! ### Sending frames -/

/-- The frame that is taken off a queue is the first one. -/
theorem popSendableFrame_rest {queue rest : List TxFrame} {credit credit' : U32} {frame : GnetFrame}
    (h : popSendableFrame queue credit = .ok (some (frame, rest, credit'))) :
  ∃ front, queue = front :: rest ∧ frame = ⟨front.vcid, front.traffic, front.bytes⟩
  := by
  rw [popSendableFrame.eq_def] at h
  split at h
  · cases h
  split at h
  · cases h
  split at h
  · cases h
  split at h
  · next hinto =>
    cases h
    rw [TxFrame.intoFrame] at hinto
    split at hinto
    · cases hinto
    · cases hinto
      exact ⟨_, rfl, rfl⟩
  · cases h

/-- A frame that is sent was the first of its queue. -/
theorem Holds.pollTxFrame (h : e.Holds P) {frame : Option GnetFrame}
    (hpoll : e.pollTxFrame = .ok (frame, e')) :
  e'.Holds P ∧ ∀ f ∈ frame, ∃ t front, P t front ∧ f = ⟨front.vcid, front.traffic, front.bytes⟩
  := by
  rw [holds_iff] at h ⊢
  rw [DlpEndpoint.pollTxFrame] at hpoll
  split at hpoll
  · cases hpoll
  split at hpoll
  · cases hpoll
  · next hpop =>
    cases hpoll
    obtain ⟨front, hqueue, hframe⟩ := popSendableFrame_rest hpop
    rw [hqueue, List.forall_mem_cons] at h
    refine ⟨⟨h.1.2, h.2⟩, ?_⟩
    rintro _ ⟨⟩
    exact ⟨.control, front, h.1.1, hframe⟩
  split at hpoll
  · cases hpoll
  · next hpop =>
    cases hpoll
    obtain ⟨front, hqueue, hframe⟩ := popSendableFrame_rest hpop
    rw [hqueue, List.forall_mem_cons] at h
    refine ⟨⟨h.1, h.2.2⟩, ?_⟩
    rintro _ ⟨⟩
    exact ⟨.data, front, h.2.1, hframe⟩
  · split at hpoll
    · cases hpoll
      exact ⟨h, by simp⟩
    · cases hpoll

/-! ### Sending flits -/

/-- A flit that is sent belongs to a frame that waited. -/
theorem mem_flits_of_emitQueueFlits {room : ℕ} {queue : List TxFrame} {credit : U32} {flit : Flit}
    (h : flit ∈ (emitQueueFlits room queue credit).1) :
  ∃ frame ∈ queue, flit ∈ frame.flits
  := by
  obtain ⟨hrest, -⟩ := emitQueueFlits_spec room queue credit
  have hmem : flit ∈ queueRest queue := by
    rw [hrest]
    exact List.mem_append_left _ h
  obtain ⟨frame, hframe, hflit⟩ := List.mem_flatMap.mp hmem
  exact ⟨frame, hframe, List.mem_of_mem_drop hflit⟩

theorem Holds.pollTxBurst (h : e.Holds P) (hlasting : Lasting P) (room : ℕ) :
  (e.pollTxBurst room).2.Holds P ∧ ∀ sent, (e.pollTxBurst room).1 = .ok sent →
    ∀ flit ∈ sent, ∃ t frame, P t frame ∧ flit ∈ frame.flits
  := by
  have hwaiting := h
  rw [holds_iff] at hwaiting
  obtain ⟨hcontrol, hdata⟩ := hwaiting
  rw [DlpEndpoint.pollTxBurst]
  split
  · exact ⟨h, by simp⟩
  split
  · refine ⟨h, ?_⟩
    rintro _ ⟨⟩
    simp
  have hcontrol' := forall_emitQueueFlits (hlasting .control) room e.controlTxCredit hcontrol
  have hsent : ∀ flit ∈ (emitQueueFlits room e.controlTxQueue e.controlTxCredit).1
      ++ (emitQueueFlits (room - (emitQueueFlits room e.controlTxQueue e.controlTxCredit).1.length)
        e.dataTxQueue e.dataTxCredit).1,
      ∃ t frame, P t frame ∧ flit ∈ frame.flits := by
    rw [List.forall_mem_append]
    constructor
    · intro flit hflit
      obtain ⟨frame, hframe, hmem⟩ := mem_flits_of_emitQueueFlits hflit
      exact ⟨.control, frame, hcontrol frame hframe, hmem⟩
    · intro flit hflit
      obtain ⟨frame, hframe, hmem⟩ := mem_flits_of_emitQueueFlits hflit
      exact ⟨.data, frame, hdata frame hframe, hmem⟩
  have hdata' := forall_emitQueueFlits (hlasting .data)
    (room - (emitQueueFlits room e.controlTxQueue e.controlTxCredit).1.length) e.dataTxCredit hdata
  dsimp only
  split
  · refine ⟨holds_iff.mpr ⟨hcontrol', hdata'⟩, ?_⟩
    rintro _ ⟨⟩
    exact hsent
  split
  · refine ⟨holds_iff.mpr ⟨hcontrol', hdata'⟩, ?_⟩
    rintro _ ⟨⟩
    simp
  · exact ⟨holds_iff.mpr ⟨hcontrol', hdata'⟩, by simp⟩

theorem Holds.pollTx (h : e.Holds P) (hlasting : Lasting P) :
  e.pollTx.2.Holds P ∧ ∀ flit, e.pollTx.1 = .ok (some flit) →
    ∃ t frame, P t frame ∧ flit ∈ frame.flits
  := by
  have hburst := h.pollTxBurst hlasting 1
  rw [DlpEndpoint.pollTx]
  generalize e.pollTxBurst 1 = burst at hburst ⊢
  obtain ⟨result, d⟩ := burst
  cases result with
  | error err => exact ⟨hburst.1, by simp⟩
  | ok sent =>
    refine ⟨hburst.1, ?_⟩
    intro flit hflit
    exact hburst.2 sent rfl flit (List.mem_of_head? (Except.ok.inj hflit))

/-! ### Every operation -/

/-- No frame waits when the link is down, or at a new end of a link. -/
theorem holds_of_queues_eq_nil (hcontrol : e.controlTxQueue = []) (hdata : e.dataTxQueue = []) :
  e.Holds P
  := by
  rw [holds_iff, hcontrol, hdata]
  exact ⟨List.forall_mem_nil _, List.forall_mem_nil _⟩

theorem Holds.step (h : e.Holds P) (hlasting : Lasting P) (op : Op)
    (hnew : ∀ packet ∈ op.packet, ∀ t frame, e.Enqueues packet t frame → P t frame) :
  (e.step op).Holds P
  := by
  cases op with
  | noteDataCreditGranted count =>
    rw [DlpEndpoint.step, DlpEndpoint.noteDataCreditGranted]
    split
    · exact h
    · exact h
  | grantDataTxCredit count => exact h
  | grantControlTxCredit count => exact h
  | setLocalPrefix localPrefix => exact h
  | setLinkUp up =>
    cases up with
    | true => exact h
    | false => exact holds_of_queues_eq_nil rfl rfl
  | queuePacketOn t vcid packet =>
    rw [DlpEndpoint.step]
    cases he : e.queuePacketOn t vcid packet with
    | error err => exact h
    | ok r => exact h.queuePacketOn (hnew packet rfl) he
  | queueDataPacket packet => exact h.queueDataPacket (hnew packet rfl)
  | pollTxFrame =>
    rw [DlpEndpoint.step]
    cases he : e.pollTxFrame with
    | error err => exact h
    | ok r => exact (h.pollTxFrame he).1
  | pollTxBurst room => exact (h.pollTxBurst hlasting room).1
  | pollTx => exact (h.pollTx hlasting).1
  | receiveFrame frame => exact h.sameSender (sameSender_receiveFrame e frame)
  | receive flit => exact h.sameSender (sameSender_receive e flit)
  | receiveBurst flits => exact h.sameSender (sameSender_receiveBurst e flits [])
  | resetVc vcid =>
    rw [DlpEndpoint.step]
    cases he : e.resetVc vcid with
    | error err => exact h
    | ok e' => exact h.sameSender (sameGranted_resetVc he).sameSender

theorem holds_of_new {config : DlpConfig} (hnew : new config = .ok e) :
  e.Holds P
  := by
  rw [new] at hnew
  split at hnew
  · cases hnew
  · cases hnew
    exact holds_of_queues_eq_nil rfl rfl

end DlpEndpoint

end SmolGnet
