import SmolGnet.Dlp.Burst

/-!
# Frames and flits

A packet may cross a link as one frame, or flit by flit.  Both ways use the same credit, and leave
both ends in the same state.  The reason is that every frame which waits is an encoded packet on a
channel of its traffic: its first flit tells the receiver how many flits there are, and the packet is
decoded from the same bytes.
-/

namespace SmolGnet

namespace DlpEndpoint

variable {e e' : DlpEndpoint} {t : LinkTraffic} {frame front : TxFrame} {rest : List TxFrame}

/-! ### Frames that wait -/

/-- The frame is that of a packet that was queued for the traffic. -/
structure Waiting (cfg : GdpWireConfig) (mode : VcMode) (t : LinkTraffic) (frame : TxFrame) :
    Prop where
  vcid_traffic : frame.vcid.traffic = t
  traffic_eq : frame.traffic = t
  vcid_lt : frame.vcid.val < mode.count
  encoded : ∃ packet : GdpPacket, packet.encode cfg = .ok frame.bytes

/-- A packet that is queued waits as its frame. -/
theorem Enqueues.waiting {packet : GdpPacket} (h : e.Enqueues packet t frame) :
  Waiting e.cfg e.vcMode t frame
  := ⟨h.vcid_traffic, h.traffic_eq, h.vcid_lt, packet, h.encoded⟩

theorem lasting_waiting (cfg : GdpWireConfig) (mode : VcMode) :
  Lasting (Waiting cfg mode)
  := fun _ _ h _ => ⟨h.1, h.2, h.3, h.4⟩

/-- The frames in the queues of an endpoint are those of packets, and there are none when the link
is down. -/
structure Queued (e : DlpEndpoint) : Prop where
  waiting : e.Holds (Waiting e.cfg e.vcMode)
  down : e.linkUp = false → e.Holds (fun _ _ => False)

/-- Every operation keeps this. -/
theorem Queued.step (h : e.Queued) (op : Op) :
  (e.step op).Queued
  := by
  by_cases hop : ∃ up, op = .setLinkUp up
  · obtain ⟨up, rfl⟩ := hop
    cases up with
    | true => exact ⟨h.waiting, fun hdown => by cases hdown⟩
    | false => exact ⟨holds_of_queues_eq_nil rfl rfl, fun _ => holds_of_queues_eq_nil rfl rfl⟩
  · have hcfg := e.sameConfig_step (not_exists.mp hop)
    constructor
    · rw [hcfg.cfg, hcfg.vcMode]
      exact h.waiting.step (lasting_waiting _ _) op (fun _ _ _ _ hframe => hframe.waiting)
    · intro hdown
      rw [hcfg.linkUp] at hdown
      refine (h.down hdown).step (fun _ _ h _ => h) op ?_
      intro packet _ t frame hframe
      rw [hframe.up] at hdown
      cases hdown

/-! ### Sending -/

/-- The endpoint with another queue and other credit for a kind of traffic. -/
def setTx (e : DlpEndpoint) (queue : List TxFrame) (credit : U32) : LinkTraffic → DlpEndpoint
  | .control => { e with controlTxQueue := queue, controlTxCredit := credit }
  | .data => { e with dataTxQueue := queue, dataTxCredit := credit }

/-- Data is sent when no control frame waits. -/
def Leads (e : DlpEndpoint) (t : LinkTraffic) : Prop :=
  t = .data → e.controlTxQueue = []

/-- The frame that is sent next, and its traffic: a control frame, if there is any. -/
def nextFrame (e : DlpEndpoint) : Option (LinkTraffic × TxFrame) :=
  match e.controlTxQueue with
  | front :: _ => some (.control, front)
  | [] => e.dataTxQueue.head?.map (fun front => (.data, front))

@[simp]
theorem linkUp_setTx (queue : List TxFrame) (credit : U32) :
  (e.setTx queue credit t).linkUp = e.linkUp
  := by
  cases t with
  | control => rfl
  | data => rfl

@[simp]
theorem txQueue_setTx (queue : List TxFrame) (credit : U32) :
  (e.setTx queue credit t).txQueue t = queue
  := by
  cases t with
  | control => rfl
  | data => rfl

@[simp]
theorem txCredit_setTx (queue : List TxFrame) (credit : U32) :
  (e.setTx queue credit t).txCredit t = credit
  := by
  cases t with
  | control => rfl
  | data => rfl

@[simp]
theorem setTx_setTx (queue queue' : List TxFrame) (credit credit' : U32) :
  (e.setTx queue credit t).setTx queue' credit' t = e.setTx queue' credit' t
  := by
  cases t with
  | control => rfl
  | data => rfl

theorem Leads.setTx (h : e.Leads t) (queue : List TxFrame) (credit : U32) :
  (e.setTx queue credit t).Leads t
  := by
  rintro rfl
  exact h rfl

/-- The next frame is the first of its queue. -/
theorem nextFrame_spec (h : e.nextFrame = some (t, front)) :
  e.Leads t ∧ ∃ rest, e.txQueue t = front :: rest
  := by
  rw [nextFrame] at h
  split at h
  · next hqueue =>
    cases h
    exact ⟨nofun, _, hqueue⟩
  · next hqueue =>
    obtain ⟨front', hhead, heq⟩ := Option.map_eq_some_iff.mp h
    cases heq
    exact ⟨fun _ => hqueue, List.head?_eq_some_iff.mp hhead⟩

theorem popSendableFrame_front {credit : U32} (hoffset : front.flitOffset = 0)
    (hcredit : front.flitLen ≤ credit.toNat) :
  popSendableFrame (front :: rest) credit =
    .ok (some (⟨front.vcid, front.traffic, front.bytes⟩, rest,
      credit - BitVec.ofNat 32 front.flitLen))
  := by
  rw [popSendableFrame, if_neg (not_not.mpr hoffset), if_neg (Nat.not_lt.mpr hcredit),
    TxFrame.intoFrame, if_neg (not_not.mpr hoffset)]

/-- The next frame is sent as a whole. -/
theorem pollTxFrame_front (hup : e.linkUp = true) (hleads : e.Leads t)
    (hqueue : e.txQueue t = front :: rest) (hoffset : front.flitOffset = 0)
    (hcredit : front.flitLen ≤ (e.txCredit t).toNat) :
  e.pollTxFrame = .ok (some ⟨front.vcid, front.traffic, front.bytes⟩,
    e.setTx rest (e.txCredit t - BitVec.ofNat 32 front.flitLen) t)
  := by
  have hpop := @popSendableFrame_front front rest _ hoffset hcredit
  rw [← hqueue] at hpop
  cases t with
  | control =>
    rw [txQueue, txCredit] at hpop
    rw [pollTxFrame, if_neg (by simp [hup]), hpop]
    rfl
  | data =>
    have hnone : popSendableFrame e.controlTxQueue e.controlTxCredit = .ok none := by
      rw [hleads rfl, popSendableFrame]
    rw [txQueue, txCredit] at hpop
    rw [pollTxFrame, if_neg (by simp [hup]), hnone]
    dsimp only
    rw [hpop]
    rfl

theorem ne_zero_of_one_le {credit : U32} (h : 1 ≤ credit.toNat) :
  credit ≠ 0#32
  := by
  rintro rfl
  cases h

theorem nextFlit_of_lt (hlt : front.flitOffset < front.flitLen) :
  front.nextFlit = some (front.flitAt front.flitOffset,
    { front with flitOffset := front.flitOffset + 1 })
  := by
  rw [TxFrame.nextFlit, if_neg (Nat.not_le.mpr hlt)]

theorem emitQueueFlits_front {credit : U32} (hlt : front.flitOffset < front.flitLen)
    (hcredit : credit ≠ 0#32) :
  emitQueueFlits 1 (front :: rest) credit =
    ([front.flitAt front.flitOffset],
      if front.flitOffset + 1 = front.flitLen then rest
      else { front with flitOffset := front.flitOffset + 1 } :: rest, credit - 1#32)
  := by
  have hflit := nextFlit_of_lt hlt
  have hdrop : (front :: rest).dropWhile (fun frame => frame.nextFlit.isNone) = front :: rest := by
    rw [List.dropWhile_cons_of_neg]
    rw [hflit]
    simp
  have hleft : TxFrame.remainingFlits { front with flitOffset := front.flitOffset + 1 } = 0 ↔
      front.flitOffset + 1 = front.flitLen := by
    change front.flitLen - (front.flitOffset + 1) = 0 ↔ _
    omega
  rw [emitQueueFlits, if_neg hcredit, hdrop]
  dsimp only
  rw [hflit]
  dsimp only
  rw [emitQueueFlits]
  simp only [hleft]

/-- The next flit of the next frame is sent. -/
theorem pollTx_front (hup : e.linkUp = true) (hleads : e.Leads t)
    (hqueue : e.txQueue t = front :: rest) (hlt : front.flitOffset < front.flitLen)
    (hcredit : e.txCredit t ≠ 0#32) :
  e.pollTx = (.ok (some (front.flitAt front.flitOffset)),
    e.setTx (if front.flitOffset + 1 = front.flitLen then rest
      else { front with flitOffset := front.flitOffset + 1 } :: rest) (e.txCredit t - 1#32) t)
  := by
  have hemit := @emitQueueFlits_front front rest _ hlt hcredit
  rw [← hqueue] at hemit
  apply pollTx_of_emit hup
  cases t with
  | control =>
    rw [txQueue, txCredit] at hemit
    rw [emit, hemit]
    dsimp only [List.length_singleton]
    rw [emitQueueFlits]
    rfl
  | data =>
    have hidle : emitQueueFlits 1 e.controlTxQueue e.controlTxCredit =
        ([], e.controlTxQueue, e.controlTxCredit) := by
      rw [hleads rfl, emitQueueFlits]
      split
      · rfl
      · rfl
    rw [txQueue, txCredit] at hemit
    rw [emit, hidle]
    dsimp only [List.length_nil]
    rw [hemit]
    rfl

/-- The flits of the next frame that are left are sent one by one. -/
theorem pollTxs_front {n : ℕ} (hup : e.linkUp = true) (hleads : e.Leads t)
    (hqueue : e.txQueue t = front :: rest) (hn : front.flitOffset + (n + 1) = front.flitLen)
    (hcredit : n + 1 ≤ (e.txCredit t).toNat) :
  pollTxs (n + 1) e = (front.rest.map (fun flit => .ok (some flit)),
    e.setTx rest (e.txCredit t - BitVec.ofNat 32 (n + 1)) t)
  := by
  induction n generalizing e front with
  | zero =>
    have hne : e.txCredit t ≠ 0#32 := ne_zero_of_one_le hcredit
    have hlt : front.flitOffset < front.flitLen := by omega
    have hlast : TxFrame.rest { front with flitOffset := front.flitOffset + 1 } = [] := by
      apply TxFrame.rest_eq_nil_of_remainingFlits
      change front.flitLen - (front.flitOffset + 1) = 0
      omega
    rw [pollTxs, pollTx_front hup hleads hqueue hlt hne, if_pos hn,
      TxFrame.rest_of_nextFlit (nextFlit_of_lt hlt), hlast]
    rfl
  | succ n ih =>
    have hle : 1 ≤ (e.txCredit t).toNat := by omega
    have hne : e.txCredit t ≠ 0#32 := ne_zero_of_one_le hle
    have hlt : front.flitOffset < front.flitLen := by omega
    have hn' : front.flitOffset + 1 + (n + 1) = front.flitLen := by omega
    have hcredit' : n + 1 ≤ (e.txCredit t - 1#32).toNat := by bv_omega
    have hsum : e.txCredit t - 1#32 - BitVec.ofNat 32 (n + 1) =
        e.txCredit t - BitVec.ofNat 32 (n + 1 + 1) := by
      rw [BitVec.sub_sub, ← BitVec.ofNat_add, Nat.add_comm]
    have hrest := @ih (e.setTx ({ front with flitOffset := front.flitOffset + 1 } :: rest)
      (e.txCredit t - 1#32) t) { front with flitOffset := front.flitOffset + 1 }
      (by rw [linkUp_setTx, hup]) (hleads.setTx _ _) (txQueue_setTx _ _)
      hn' (by rw [txCredit_setTx]; exact hcredit')
    rw [txCredit_setTx, setTx_setTx, hsum] at hrest
    rw [pollTxs, pollTx_front hup hleads hqueue hlt hne, if_neg (by omega)]
    dsimp only
    rw [hrest, TxFrame.rest_of_nextFlit (nextFlit_of_lt hlt), List.map_cons]

/-! ### Receiving -/

/-- The results of receiving flits one after the other, and the endpoint after them. -/
def receives (e : DlpEndpoint) :
    List Flit → List (Except Error (Option GdpPacket)) × DlpEndpoint
  | [] => ([], e)
  | flit :: flits =>
    ((e.receive flit).1 :: ((e.receive flit).2.receives flits).1,
      ((e.receive flit).2.receives flits).2)

/-- The endpoint that has accounted for `n` flits. -/
def charge (e : DlpEndpoint) (n : ℕ) : LinkTraffic → DlpEndpoint
  | .control => e
  | .data =>
    { e with
      dataCreditOutstanding := e.dataCreditOutstanding - BitVec.ofNat 32 n
      dataRxInUse := e.dataRxInUse + BitVec.ofNat 32 n }

/-- The endpoint can receive the frame, which is that of the packet. -/
structure Accepts (e : DlpEndpoint) (frame : TxFrame) (packet : GdpPacket) : Prop where
  up : e.linkUp = true
  vcid_lt : frame.vcid.val < e.vcMode.count
  synchronized : e.desynchronized frame.vcid = false
  idle : e.rx frame.vcid = none
  credit : frame.vcid.traffic = .data → frame.flitLen ≤ e.dataCreditOutstanding.toNat
  room : e.dataCreditOutstanding.toNat + e.dataRxInUse.toNat ≤ e.rxBufferFlits.toNat
  carries : frame.Carries e.cfg e.localPrefix packet

theorem sameSender_charge (e : DlpEndpoint) (n : ℕ) (t : LinkTraffic) :
  SameSender e (e.charge n t)
  := by
  cases t with
  | control => exact SameSender.refl e
  | data => exact ⟨_, _, _, _, rfl⟩

@[simp]
theorem rx_charge (n : ℕ) :
  (e.charge n t).rx = e.rx
  := by
  cases t with
  | control => rfl
  | data => rfl

@[simp]
theorem desynchronized_charge (n : ℕ) :
  (e.charge n t).desynchronized = e.desynchronized
  := by
  cases t with
  | control => rfl
  | data => rfl

@[simp]
theorem localPrefix_charge (n : ℕ) :
  (e.charge n t).localPrefix = e.localPrefix
  := by
  cases t with
  | control => rfl
  | data => rfl

/-- The endpoint that has received `n` flits of the frame. -/
def partway (e : DlpEndpoint) (frame : TxFrame) (n : ℕ) : DlpEndpoint :=
  (e.charge n frame.vcid.traffic).setRx frame.vcid
    (if n = 0 then none else some (frame.segment n))

theorem setRx_setRx (vcid : Vcid) (x y : Option RxSegment) :
  (e.setRx vcid x).setRx vcid y = e.setRx vcid y
  := by
  rw [setRx, setRx, setRx]
  dsimp only
  rw [Function.update_idem]

theorem setRx_eq_self {vcid : Vcid} {x : Option RxSegment} (h : e.rx vcid = x) :
  e.setRx vcid x = e
  := by
  rw [setRx, ← h, Function.update_eq_self]

theorem partway_zero (hidle : e.rx frame.vcid = none) :
  e.partway frame 0 = e
  := by
  have hcharge : e.charge 0 frame.vcid.traffic = e := by
    cases frame.vcid.traffic with
    | control => rfl
    | data => simp [charge]
  rw [partway, hcharge, if_pos rfl, setRx_eq_self hidle]

/-- A flit passes the checks of the receiver, and is accounted for. -/
theorem Accepts.receive_partway {packet : GdpPacket} (h : e.Accepts frame packet) {n : ℕ}
    (hn : n < frame.flitLen) :
  (e.partway frame n).receive (frame.flitAt n) =
    ((e.charge (n + 1) frame.vcid.traffic).setRx frame.vcid
      (if n = 0 then none else some (frame.segment n))).receiveSegment (frame.flitAt n)
  := by
  have hvcid : (frame.flitAt n).vcid = frame.vcid := rfl
  have hcfg := (sameSender_charge e n frame.vcid.traffic).sameConfig
  rw [receive, if_neg, if_neg, if_neg, hvcid]
  · cases ht : frame.vcid.traffic with
    | control =>
      rw [partway, ht]
      rfl
    | data =>
      have hcredit := h.credit ht
      have hroom := h.room
      have htake : (e.partway frame n).takeDataFlit = .ok ((e.charge (n + 1) .data).setRx frame.vcid
          (if n = 0 then none else some (frame.segment n))) := by
        rw [partway, ht, takeDataFlit, if_neg, if_neg]
        · simp only [setRx, charge]
          rw [BitVec.sub_sub, BitVec.add_assoc, ← BitVec.ofNat_add]
        · simp only [setRx, charge]
          bv_omega
        · simp only [setRx, charge]
          bv_omega
      rw [htake]
  · rw [hvcid, partway, setRx, desynchronized_charge, h.synchronized]
    exact Bool.false_ne_true
  · rw [hvcid, partway, setRx, hcfg.vcMode]
    exact Nat.not_le.mpr h.vcid_lt
  · rw [partway, setRx, hcfg.linkUp, h.up]
    decide

/-- The flit is added to what the receiver holds of the frame. -/
theorem receiveSegment_of_carries {packet : GdpPacket} {n : ℕ}
    (hcarries : frame.Carries e.cfg e.localPrefix packet)
    (hrx : e.rx frame.vcid = if n = 0 then none else some (frame.segment n)) :
  e.receiveSegment (frame.flitAt n) = e.extendSegment (frame.segment n) (frame.flitAt n)
  := by
  have hvcid : (frame.flitAt n).vcid = frame.vcid := rfl
  rw [receiveSegment, hvcid, hrx]
  cases n with
  | zero => rw [if_pos rfl, openSegment_of_carries hcarries]
  | succ n => rw [if_neg (Nat.succ_ne_zero n)]

/-- What the endpoint is left with when the whole frame has arrived. -/
def settled (e : DlpEndpoint) (frame : TxFrame) : DlpEndpoint :=
  (e.charge frame.flitLen frame.vcid.traffic).releaseSegment frame.vcid.traffic frame.flitLen

/-- A flit that is not the last is kept, and the last one completes the packet. -/
theorem Accepts.receive_flitAt {packet : GdpPacket} (h : e.Accepts frame packet) (n : ℕ) :
  (n + 1 < frame.flitLen →
    (e.partway frame n).receive (frame.flitAt n) = (.ok none, e.partway frame (n + 1))) ∧
  (n + 1 = frame.flitLen →
    (e.partway frame n).receive (frame.flitAt n) = (.ok (some packet), e.settled frame))
  := by
  have hcarries : frame.Carries (e.charge (n + 1) frame.vcid.traffic).cfg
      (e.charge (n + 1) frame.vcid.traffic).localPrefix packet := by
    rw [(sameSender_charge e (n + 1) frame.vcid.traffic).sameConfig.cfg, localPrefix_charge]
    exact h.carries
  have hsegment := @receiveSegment_of_carries ((e.charge (n + 1) frame.vcid.traffic).setRx frame.vcid
    (if n = 0 then none else some (frame.segment n))) frame packet n hcarries (setRx_rx_self _ _ _)
  constructor
  · intro hn
    rw [h.receive_partway (Nat.lt_of_succ_lt hn), hsegment, extendSegment_of_lt hn, setRx_setRx,
      partway, if_neg (Nat.succ_ne_zero n)]
  · intro hn
    have hidle : (e.charge (n + 1) frame.vcid.traffic).rx frame.vcid = none := by
      rw [rx_charge, h.idle]
    have hlast := @extendSegment_last ((e.charge (n + 1) frame.vcid.traffic).setRx frame.vcid
      (if n = 0 then none else some (frame.segment n))) frame packet n hcarries hn
    rw [h.receive_partway (Nat.lt_of_succ_le (Nat.le_of_eq hn)), hsegment, hlast, setRx_setRx,
      setRx_eq_self hidle, settled, hn]

/-- The flits that are left of a frame arrive one by one. -/
theorem Accepts.receives_drop {packet : GdpPacket} (h : e.Accepts frame packet) {n k : ℕ}
    (hn : n + (k + 1) = frame.flitLen) :
  (e.partway frame n).receives (frame.flits.drop n) =
    (List.replicate k (.ok none) ++ [.ok (some packet)], e.settled frame)
  := by
  have hflits : ∀ n < frame.flitLen,
      frame.flits.drop n = frame.flitAt n :: frame.flits.drop (n + 1) := by
    intro n hlt
    rw [List.drop_eq_getElem?_toList_append, TxFrame.getElem?_flits hlt]
    rfl
  induction k generalizing n with
  | zero =>
    have hnil : frame.flits.drop (n + 1) = [] := by
      rw [List.drop_eq_nil_iff, TxFrame.length_flits]
      omega
    rw [hflits n (by omega), hnil, receives, (h.receive_flitAt n).2 hn]
    rfl
  | succ k ih =>
    have hrest := @ih (n + 1) (by omega)
    rw [hflits n (by omega), receives, (h.receive_flitAt n).1 (by omega)]
    dsimp only
    rw [hrest, List.replicate_succ, List.cons_append]

/-- The frame arrives as a whole. -/
theorem Accepts.receiveFrame {packet : GdpPacket} (h : e.Accepts frame packet)
    (ht : frame.traffic = frame.vcid.traffic) :
  e.receiveFrame ⟨frame.vcid, frame.traffic, frame.bytes⟩ = (.ok packet, e.settled frame)
  := by
  have hdecode : GdpPacket.decode frame.bytes e.cfg e.localPrefix = .ok packet := by
    rw [h.carries.bytes_eq]
    exact GdpPacket.decode_wire h.carries.canonical e.cfg
  have hlen : ∀ t, GnetFrame.flitLen ⟨frame.vcid, t, frame.bytes⟩ = frame.flitLen := fun _ => rfl
  have hlt := Nat.not_le.mpr h.vcid_lt
  rw [DlpEndpoint.receiveFrame, if_neg (by simp [h.up]), if_neg hlt, ht, settled]
  cases hvcid : frame.vcid.traffic with
  | control =>
    rw [if_neg (by simpa [Vcid.traffic] using hvcid), if_neg (by simp)]
    dsimp only
    rw [hdecode]
    rfl
  | data =>
    have hcredit := h.credit hvcid
    have hroom := h.room
    have hmod : (BitVec.ofNat 32 frame.flitLen).toNat = frame.flitLen := by
      rw [BitVec.toNat_ofNat, Nat.mod_eq_of_lt (by omega)]
    have hgiven : ¬ e.dataCreditOutstanding < BitVec.ofNat 32 frame.flitLen := by
      rw [BitVec.lt_def, hmod]
      exact Nat.not_lt.mpr hcredit
    have hfits : ¬ e.availableRxFlits < BitVec.ofNat 32 frame.flitLen := by
      rw [BitVec.lt_def, hmod, availableRxFlits, toNat_saturatingSub]
      omega
    rw [if_neg (by simp), if_neg (by simpa [Vcid.traffic] using hvcid)]
    dsimp only
    rw [hlen, if_neg hgiven, if_neg hfits, hdecode]
    rfl

/-- An endpoint of a link that is down receives nothing. -/
theorem receives_of_down (hdown : e.linkUp = false) (flits : List Flit) :
  e.receives flits = (List.replicate flits.length (.error .linkDown), e)
  := by
  have hreceive : ∀ flit, e.receive flit = (.error .linkDown, e) := by
    intro flit
    rw [receive, if_pos (by simp [hdown])]
  induction flits with
  | nil => rfl
  | cons flit flits ih =>
    rw [receives, hreceive]
    dsimp only
    rw [ih]
    rfl

/-! ### Both ways are the same -/

/-- No operation changes how packets are encoded, and how many channels there are. -/
theorem config_run (e : DlpEndpoint) (ops : List Op) :
  (Machine.run step e ops).cfg = e.cfg ∧ (Machine.run step e ops).vcMode = e.vcMode
  := by
  refine Machine.invariant_run (P := fun e' : DlpEndpoint => e'.cfg = e.cfg ∧ e'.vcMode = e.vcMode)
    ?_ ⟨rfl, rfl⟩ ops
  rintro e' op ⟨hcfg, hmode⟩
  by_cases hlink : ∃ up, op = .setLinkUp up
  · obtain ⟨up, rfl⟩ := hlink
    cases up with
    | true => exact ⟨hcfg, hmode⟩
    | false => exact ⟨hcfg, hmode⟩
  · have hsame := sameConfig_step e' (not_exists.mp hlink)
    exact ⟨hsame.cfg.trans hcfg, hsame.vcMode.trans hmode⟩

/-- The next frame of an endpoint has not been sent in part, and the credit covers it.  The other
endpoint has the same configuration, holds nothing on the channel of the frame, is not
desynchronized there, and has given credit for it.  Then sending the frame as a whole and polling
for all its flits leave the one endpoint the same; receiving the frame and receiving the flits give
the same packet, or none when the link is down, and leave the other endpoint the same. -/
theorem frame_eq_flits {config : DlpConfig} {a : DlpEndpoint} (hnew : new config = .ok a)
    (sent received : List Op) {t : LinkTraffic} {front : TxFrame}
    (hnext : (Machine.run step a sent).nextFrame = some (t, front)) (hoffset : front.flitOffset = 0)
    (hcredit : front.flitLen ≤ ((Machine.run step a sent).txCredit t).toNat)
    (hidle : (Machine.run step a received).rx front.vcid = none)
    (hsync : (Machine.run step a received).desynchronized front.vcid = false)
    (hgiven : t = .data →
      front.flitLen ≤ (Machine.run step a received).dataCreditOutstanding.toNat) :
  ∃ frame sender, (Machine.run step a sent).pollTxFrame = .ok (some frame, sender) ∧
    pollTxs front.flitLen (Machine.run step a sent) =
      (front.flits.map (fun flit => .ok (some flit)), sender) ∧
    ((Machine.run step a received).receives front.flits).2 =
      ((Machine.run step a received).receiveFrame frame).2 ∧
    if (Machine.run step a received).linkUp then
      ∃ packet, ((Machine.run step a received).receiveFrame frame).1 = .ok packet ∧
        ((Machine.run step a received).receives front.flits).1 =
          List.replicate (front.flitLen - 1) (.ok none) ++ [.ok (some packet)]
    else
      ((Machine.run step a received).receiveFrame frame).1 = .error .linkDown ∧
        ((Machine.run step a received).receives front.flits).1 =
          List.replicate front.flitLen (.error .linkDown)
  := by
  have hqueued : (Machine.run step a sent).Queued :=
    Machine.invariant_run (P := Queued) (fun _ op h => h.step op)
      ⟨holds_of_new hnew, fun _ => holds_of_new hnew⟩ sent
  have haccounted : (Machine.run step a received).Accounted 0 :=
    Machine.invariant_run (P := fun e : DlpEndpoint => e.Accounted 0) (fun _ op h => h.step op)
      (accounted_of_new hnew) received
  obtain ⟨hcfgS, hmodeS⟩ := config_run a sent
  obtain ⟨hcfgR, hmodeR⟩ := config_run a received
  generalize Machine.run step a sent = sender at *
  generalize Machine.run step a received = receiver at *
  obtain ⟨hleads, rest, hqueue⟩ := nextFrame_spec hnext
  obtain ⟨ht, htraffic, hlt, packet, hencode⟩ := hqueued.waiting t front (by rw [hqueue]; exact List.mem_cons_self)
  have hup : sender.linkUp = true := by
    by_contra hdown
    exact hqueued.down (Bool.eq_false_iff.mpr hdown) t front (by rw [hqueue]; exact List.mem_cons_self)
  obtain ⟨p, hcanonical, hbytes⟩ := GdpPacket.exists_canonical_of_encode hencode receiver.localPrefix
  have hcarries : front.Carries receiver.cfg receiver.localPrefix p := by
    rw [hcfgR, ← hcfgS]
    exact ⟨hcanonical, hbytes⟩
  obtain ⟨k, hk⟩ := Nat.exists_eq_succ_of_ne_zero hcarries.data_flitAt_zero.1.ne'
  have hleft : front.flitOffset + (k + 1) = front.flitLen := by
    rw [hoffset, hk, Nat.zero_add]
  have hpolls := pollTxs_front hup hleads hqueue hleft (Nat.le_trans (Nat.le_of_eq hk.symm) hcredit)
  have hrest : front.rest = front.flits := by
    rw [TxFrame.rest, hoffset, List.drop_zero]
  rw [← Nat.succ_eq_add_one, ← hk, hrest] at hpolls
  refine ⟨_, _, pollTxFrame_front hup hleads hqueue hoffset hcredit, hpolls, ?_⟩
  cases hlink : receiver.linkUp with
  | true =>
    have haccepts : receiver.Accepts front p := by
      refine ⟨hlink, ?_, hsync, hidle, ?_, haccounted.room, hcarries⟩
      · rw [hmodeR, ← hmodeS]
        exact hlt
      · rw [ht]
        exact hgiven
    have hreceives := haccepts.receives_drop (n := 0) (k := k) (by rw [hk, Nat.zero_add])
    rw [partway_zero hidle, List.drop_zero] at hreceives
    rw [haccepts.receiveFrame (htraffic.trans ht.symm), hreceives, hk]
    exact ⟨rfl, p, rfl, rfl⟩
  | false =>
    have hframe : ∀ frame, receiver.receiveFrame frame = (.error .linkDown, receiver) := by
      intro frame
      rw [DlpEndpoint.receiveFrame, if_pos (by simp [hlink])]
    rw [receives_of_down hlink, hframe, TxFrame.length_flits]
    exact ⟨rfl, rfl, rfl⟩

/-- A data packet of three flits, the last of them padded, and credit for it. -/
theorem frame_eq_flits_padded :
  let packet : GdpPacket := ⟨⟨0#8, .gts, .tiny3, 1#8, .local 1#16 2#16 0#64⟩, [7#8, 8#8, 9#8]⟩
  let sent : List Op := [.grantDataTxCredit 3#32, .queueDataPacket packet]
  let received : List Op := [.noteDataCreditGranted 4#32]
  ∃ a, new ⟨⟨true⟩, 0#64, .two, 8#32, 32#32⟩ = .ok a ∧ ∃ front frame,
    (Machine.run step a sent).nextFrame = some (.data, front) ∧
    ((Machine.run step a sent).pollTxFrame.map Prod.fst) = .ok (some frame) ∧
    ((Machine.run step a received).receives front.flits).2 =
      ((Machine.run step a received).receiveFrame frame).2
  := by
  intro packet sent received
  obtain ⟨a, ha⟩ : ∃ a, new ⟨⟨true⟩, 0#64, .two, 8#32, 32#32⟩ = .ok a := ⟨_, rfl⟩
  obtain ⟨front, hnext⟩ : ∃ front, (Machine.run step a sent).nextFrame = some (.data, front) := by
    cases ha
    exact ⟨_, rfl⟩
  have hfront : front.flitOffset = 0 ∧ front.flitLen = 3 ∧ front.vcid = 1 := by
    cases ha
    cases hnext
    decide +kernel
  have hstate : ((Machine.run step a sent).txCredit .data).toNat = 3 ∧
      (Machine.run step a received).rx 1 = none ∧
      (Machine.run step a received).desynchronized 1 = false ∧
      (Machine.run step a received).dataCreditOutstanding.toNat = 4 := by
    cases ha
    decide +kernel
  obtain ⟨hoffset, hlen, hvcid⟩ := hfront
  obtain ⟨hcredit, hidle, hsync, hgiven⟩ := hstate
  rw [← hvcid] at hidle hsync
  obtain ⟨frame, sender, hframe, -, hreceived, -⟩ := frame_eq_flits ha sent received hnext hoffset
    (by rw [hlen, hcredit]) hidle hsync (fun _ => by rw [hlen, hgiven]; decide)
  exact ⟨a, ha, front, frame, hnext, by rw [hframe]; rfl, hreceived⟩

end DlpEndpoint

end SmolGnet
