import SmolGnet.Library.Machine
import SmolGnet.Dlp.Segment
import Mathlib.Algebra.BigOperators.Group.List.Basic

/-!
# The link carries packets faithfully

A `DlpLink` is an endpoint that sends, an endpoint that receives, the flits in flight
between them, and the grants of credit on their way back.  Whatever the order in which
packets are queued, flits are sent and delivered and credit is given, the receiver yields
the control packets in the order in which they were queued, and the data packets in
theirs, and reports no error.

For each kind of traffic the flits in flight and those still queued are what is left of
the flits of the packets not yet yielded; the receiver holds the part of the first of
these packets that has arrived.
-/

namespace SmolGnet

/-! ### The link -/

/-- A sender, a receiver and what is between them, with the packets queued and yielded so
far and the errors the receiver has reported. -/
structure DlpLink where
  a : DlpEndpoint
  b : DlpEndpoint
  flits : List Flit
  grants : List U32
  queued : LinkTraffic → List GdpPacket
  yielded : LinkTraffic → List GdpPacket
  errors : List Error

namespace DlpLink

/-- What the endpoints and the channel can do. -/
inductive Action where
  | queueControl (packet : GdpPacket)
  | queueData (packet : GdpPacket)
  | noteCredit (count : U32)
  | grantData (i : ℕ)
  | grantControl (count : U32)
  | pollTx
  | pollTxBurst (room : ℕ)
  | deliver

/-- Two endpoints before the first packet. -/
def init (a b : DlpEndpoint) : DlpLink where
  a := a
  b := b
  flits := []
  grants := []
  queued := fun _ => []
  yielded := fun _ => []
  errors := []

/-- Append a packet to the log of one kind of traffic. -/
def append (log : LinkTraffic → List GdpPacket) (t : LinkTraffic) (packet : GdpPacket) :
    LinkTraffic → List GdpPacket :=
  Function.update log t (log t ++ [packet])

@[simp]
theorem append_self (log : LinkTraffic → List GdpPacket) (t : LinkTraffic) (packet : GdpPacket) :
  append log t packet t = log t ++ [packet]
  := Function.update_self ..

theorem append_of_ne (log : LinkTraffic → List GdpPacket) {t t' : LinkTraffic}
    (packet : GdpPacket) (h : t' ≠ t) :
  append log t packet t' = log t'
  := Function.update_of_ne h ..

/-- The sender is given a control packet. -/
def queueControl (s : DlpLink) (packet : GdpPacket) : DlpLink :=
  match s.a.queueControlPacket packet with
  | .ok (_, a) => { s with a, queued := append s.queued .control packet }
  | .error _ => s

/-- The sender is given a data packet. -/
def queueData (s : DlpLink) (packet : GdpPacket) : DlpLink :=
  match s.a.queueDataPacket packet with
  | (.ok _, a) => { s with a, queued := append s.queued .data packet }
  | (.error _, a) => { s with a }

/-- The receiver notes a grant of credit, which is then on its way. -/
def noteCredit (s : DlpLink) (count : U32) : DlpLink :=
  match s.b.noteDataCreditGranted count with
  | .ok b => { s with b, grants := s.grants ++ [count] }
  | .error _ => s

/-- A grant of credit reaches the sender. -/
def grantData (s : DlpLink) (i : ℕ) : DlpLink :=
  match s.grants[i]? with
  | some count => { s with a := s.a.grantDataTxCredit count, grants := s.grants.eraseIdx i }
  | none => s

/-- The sender is polled for one flit. -/
def pollTx (s : DlpLink) : DlpLink :=
  match s.a.pollTx with
  | (.ok flit, a) => { s with a, flits := s.flits ++ flit.toList }
  | (.error _, a) => { s with a }

/-- The sender is polled with a buffer of `room` flits. -/
def pollTxBurst (s : DlpLink) (room : ℕ) : DlpLink :=
  match s.a.pollTxBurst room with
  | (.ok flits, a) => { s with a, flits := s.flits ++ flits }
  | (.error _, a) => { s with a }

/-- The first flit in flight is delivered. -/
def deliver (s : DlpLink) : DlpLink :=
  match s.flits with
  | [] => s
  | flit :: flits =>
    match s.b.receive flit with
    | (.ok none, b) => { s with b, flits }
    | (.ok (some packet), b) =>
      { s with b, flits, yielded := append s.yielded flit.vcid.traffic packet }
    | (.error err, b) => { s with b, flits, errors := s.errors ++ [err] }

/-- One step of the link. -/
def step (s : DlpLink) : Action → DlpLink
  | .queueControl packet => s.queueControl packet
  | .queueData packet => s.queueData packet
  | .noteCredit count => s.noteCredit count
  | .grantData i => s.grantData i
  | .grantControl count => { s with a := s.a.grantControlTxCredit count }
  | .pollTx => s.pollTx
  | .pollTxBurst room => s.pollTxBurst room
  | .deliver => s.deliver

/-- The packets that are queued are canonical. -/
def Action.Canonical (localPrefix : U64) : Action → Prop
  | queueControl packet => packet.Canonical localPrefix
  | queueData packet => packet.Canonical localPrefix
  | _ => True

end DlpLink

/-! ### One kind of traffic -/

/-- What the receiver holds on a channel after `n` flits of the first of the frames. -/
def heldSegment (frames : List (TxFrame × GdpPacket)) (n : ℕ) (vcid : Vcid) :
    Option RxSegment :=
  match frames with
  | [] => none
  | (frame, _) :: _ => if 0 < n ∧ vcid = frame.vcid then some (frame.segment n) else none

/-- The packets of one kind of traffic that have not been yielded are those of `frames`;
the receiver has `n` flits of the first of them, and `left` are the flits that follow. -/
structure Carrying (cfg : GdpWireConfig) (localPrefix : U64) (mode : VcMode)
    (t : LinkTraffic) (rx : Vcid → Option RxSegment) (left : List Flit)
    (queued yielded : List GdpPacket) (frames : List (TxFrame × GdpPacket)) (n : ℕ) : Prop where
  carries : ∀ f ∈ frames, f.1.Carries cfg localPrefix f.2
  channel : ∀ f ∈ frames, f.1.vcid.traffic = t ∧ f.1.vcid.val < mode.count
  logs : yielded ++ frames.map Prod.snd = queued
  left_eq : left = (frames.flatMap (fun f => f.1.flits)).drop n
  started : ∀ f ∈ frames.head?, n < f.1.flitLen
  idle : frames = [] → n = 0
  held : ∀ vcid : Vcid, vcid.traffic = t → rx vcid = heldSegment frames n vcid

namespace Carrying

variable {cfg : GdpWireConfig} {localPrefix : U64} {mode : VcMode} {t : LinkTraffic}
  {rx : Vcid → Option RxSegment} {left : List Flit} {queued yielded : List GdpPacket}
  {frames : List (TxFrame × GdpPacket)} {n : ℕ}

theorem init (t : LinkTraffic) :
  Carrying cfg localPrefix mode t (fun _ => none) [] [] [] [] 0
  := by
  constructor
  · simp
  · simp
  · rfl
  · rfl
  · simp
  · simp
  · simp [heldSegment]

/-- Only the channels of this kind of traffic matter. -/
theorem congr_rx (h : Carrying cfg localPrefix mode t rx left queued yielded frames n)
    {rx' : Vcid → Option RxSegment} (heq : ∀ vcid : Vcid, vcid.traffic = t → rx' vcid = rx vcid) :
  Carrying cfg localPrefix mode t rx' left queued yielded frames n
  := by
  obtain ⟨hcarries, hchannel, hlogs, hleft, hstarted, hidle, hheld⟩ := h
  use hcarries, hchannel, hlogs, hleft, hstarted, hidle
  intro vcid ht
  rw [heq vcid ht, hheld vcid ht]

theorem le_length (h : Carrying cfg localPrefix mode t rx left queued yielded frames n) :
  n ≤ (frames.flatMap (fun f => f.1.flits)).length
  := by
  cases hframes : frames with
  | nil => rw [h.idle hframes]; apply Nat.zero_le
  | cons f rest =>
    have := h.started f (by simp [hframes])
    rw [List.flatMap_cons, List.length_append, TxFrame.length_flits]
    omega

/-- A packet is queued. -/
theorem queue (h : Carrying cfg localPrefix mode t rx left queued yielded frames n)
    {frame : TxFrame} {packet : GdpPacket} (hcarries : frame.Carries cfg localPrefix packet)
    (ht : frame.vcid.traffic = t) (hlt : frame.vcid.val < mode.count) :
  Carrying cfg localPrefix mode t rx (left ++ frame.flits) (queued ++ [packet]) yielded
    (frames ++ [(frame, packet)]) n
  := by
  constructor
  · simp only [List.forall_mem_append, List.forall_mem_singleton]
    exact ⟨h.carries, hcarries⟩
  · simp only [List.forall_mem_append, List.forall_mem_singleton]
    use h.channel, ht, hlt
  · rw [List.map_append, ← List.append_assoc, h.logs]
    rfl
  · rw [List.flatMap_append, List.drop_append_of_le_length h.le_length, ← h.left_eq,
      List.flatMap_singleton]
  · cases hframes : frames with
    | nil =>
      simp only [List.nil_append, List.head?_cons, Option.mem_some_iff, forall_eq']
      rw [h.idle hframes]
      exact hcarries.data_flitAt_zero.1
    | cons f rest => simpa [hframes] using h.started
  · simp
  · intro vcid hvcid
    rw [h.held vcid hvcid]
    cases hframes : frames with
    | nil => simp [heldSegment, h.idle hframes]
    | cons f rest => rfl

/-- The next flit is that of the first frame with the index `n`. -/
theorem head {flit : Flit}
    (h : Carrying cfg localPrefix mode t rx (flit :: left) queued yielded frames n) :
  ∃ frame packet rest, frames = (frame, packet) :: rest ∧ n < frame.flitLen ∧
    flit = frame.flitAt n ∧
    left = ((frame.flits ++ rest.flatMap (fun f => f.1.flits)).drop (n + 1))
  := by
  have hleft := h.left_eq
  cases hframes : frames with
  | nil => simp [hframes] at hleft
  | cons f rest =>
    obtain ⟨frame, packet⟩ := f
    have hn : n < frame.flitLen := h.started (frame, packet) (by simp [hframes])
    rw [hframes, List.flatMap_cons, List.drop_eq_getElem?_toList_append,
      List.getElem?_append_left (by simpa using hn), TxFrame.getElem?_flits hn] at hleft
    obtain ⟨hflit, hrest⟩ := List.cons.inj hleft
    use frame, packet, rest, rfl, hn, hflit, hrest

/-- The receiver adds the next flit to what it holds of the first frame. -/
theorem receiveSegment_eq {e : DlpEndpoint} {flit : Flit}
    (h : Carrying e.cfg e.localPrefix mode t e.rx (flit :: left) queued yielded frames n) :
  ∃ frame ∈ frames.head?, e.receiveSegment flit
    = e.extendSegment (frame.1.segment n) (frame.1.flitAt n)
  := by
  obtain ⟨frame, packet, rest, rfl, -, rfl, -⟩ := h.head
  have hmem : (frame, packet) ∈ (frame, packet) :: rest := List.mem_cons_self
  have hvcid : (frame.flitAt n).vcid = frame.vcid := rfl
  have hheld := h.held frame.vcid (h.channel _ hmem).1
  use (frame, packet), rfl
  rw [DlpEndpoint.receiveSegment, hvcid, hheld, heldSegment]
  cases n with
  | zero =>
    simp only [Nat.lt_irrefl, false_and, if_false]
    rw [DlpEndpoint.openSegment_of_carries (h.carries _ hmem)]
  | succ n =>
    rw [if_pos ⟨Nat.succ_pos n, rfl⟩]

theorem traffic_of_mem_left
    (h : Carrying cfg localPrefix mode t rx left queued yielded frames n) {flit : Flit}
    (hflit : flit ∈ left) :
  flit.vcid.traffic = t
  := by
  rw [h.left_eq] at hflit
  obtain ⟨f, hf, hmem⟩ := List.mem_flatMap.mp (List.mem_of_mem_drop hflit)
  rw [TxFrame.vcid_of_mem_flits hmem, (h.channel f hf).1]

/-- Every packet has been yielded when no flit is left. -/
theorem yielded_eq (h : Carrying cfg localPrefix mode t rx [] queued yielded frames n) :
  yielded = queued
  := by
  have hlen := List.drop_eq_nil_iff.mp h.left_eq.symm
  cases hframes : frames with
  | nil => rw [← h.logs, hframes, List.map_nil, List.append_nil]
  | cons f rest =>
    have hn := h.started f (by simp [hframes])
    rw [hframes, List.flatMap_cons, List.length_append, TxFrame.length_flits] at hlen
    omega

/-- A flit arrives: the receiver keeps it, or it completes the first packet. -/
theorem arrive {e : DlpEndpoint} {flit : Flit}
    (h : Carrying e.cfg e.localPrefix mode t e.rx (flit :: left) queued yielded frames n) :
  (∃ s, e.receiveSegment flit = (.ok none, e.setRx flit.vcid (some s)) ∧
    Carrying e.cfg e.localPrefix mode t (e.setRx flit.vcid (some s)).rx left queued yielded
      frames (n + 1)) ∨
  (∃ packet frames', e.receiveSegment flit
      = (.ok (some packet), (e.setRx flit.vcid none).releaseSegment t (n + 1)) ∧
    Carrying e.cfg e.localPrefix mode t (e.setRx flit.vcid none).rx left queued
      (yielded ++ [packet]) frames' 0)
  := by
  obtain ⟨f, hf, hreceive⟩ := h.receiveSegment_eq
  obtain ⟨frame, packet, rest, rfl, hn, rfl, hleft⟩ := h.head
  obtain rfl : (frame, packet) = f := by simpa using hf
  have hmem : (frame, packet) ∈ (frame, packet) :: rest := List.mem_cons_self
  obtain ⟨ht, hlt⟩ := h.channel _ hmem
  rw [hreceive]
  rcases Nat.lt_or_eq_of_le (Nat.succ_le_of_lt hn) with hmore | hlast
  · left
    use frame.segment (n + 1), DlpEndpoint.extendSegment_of_lt hmore
    constructor
    · exact h.carries
    · exact h.channel
    · exact h.logs
    · exact hleft
    · simpa using hmore
    · simp
    · intro vcid hvcid
      by_cases heq : vcid = frame.vcid
      · subst heq
        rw [heldSegment, if_pos ⟨Nat.succ_pos n, rfl⟩]
        apply Function.update_self
      · rw [heldSegment, if_neg (fun hc => heq hc.2), DlpEndpoint.setRx]
        simp only [TxFrame.flitAt]
        rw [Function.update_of_ne heq, h.held vcid hvcid, heldSegment, if_neg (fun hc => heq hc.2)]
  · right
    use packet, rest
    constructor
    · rw [DlpEndpoint.extendSegment_last (h.carries _ hmem) hlast, ht, ← hlast]
      rfl
    · constructor
      · intro f hf
        apply h.carries f (List.mem_cons_of_mem _ hf)
      · intro f hf
        apply h.channel f (List.mem_cons_of_mem _ hf)
      · rw [← h.logs, List.map_cons, List.append_assoc]
        rfl
      · rw [hleft, List.drop_left' (frame.length_flits.trans hlast.symm)]
        rfl
      · intro f hf
        exact (h.carries f (List.mem_cons_of_mem _ (List.mem_of_mem_head? hf))).data_flitAt_zero.1
      · simp
      · intro vcid hvcid
        have hnone : heldSegment rest 0 vcid = none := by
          cases rest with
          | nil => rfl
          | cons f rest => simp [heldSegment]
        rw [hnone, DlpEndpoint.setRx]
        simp only [TxFrame.flitAt]
        by_cases heq : vcid = frame.vcid
        · subst heq
          apply Function.update_self
        · rw [Function.update_of_ne heq, h.held vcid hvcid, heldSegment,
            if_neg (fun hc => heq hc.2)]

end Carrying

/-! ### The operations of the endpoints -/

namespace DlpEndpoint

variable {e : DlpEndpoint} {packet : GdpPacket}

/-- The frame of a packet on a channel. -/
def frameOn (e : DlpEndpoint) (vcid : Vcid) (packet : GdpPacket) : TxFrame where
  vcid := vcid
  traffic := vcid.traffic
  bytes := packet.wire e.cfg
  flitOffset := 0

theorem frameOn_rest (e : DlpEndpoint) (vcid : Vcid) (packet : GdpPacket) :
  queueRest [e.frameOn vcid packet] = (e.frameOn vcid packet).flits
  := by
  rw [queueRest, List.flatMap_singleton]
  rfl

/-- The endpoint with one more frame to send. -/
def enqueue (e : DlpEndpoint) (frame : TxFrame) : LinkTraffic → DlpEndpoint
  | .control => { e with controlTxQueue := e.controlTxQueue ++ [frame] }
  | .data => { e with dataTxQueue := e.dataTxQueue ++ [frame] }

/-- A packet that is accepted is encoded, and queued for the traffic of its channel. -/
theorem queuePacketOn_spec {e' : DlpEndpoint} {t : LinkTraffic} {vcid : Vcid} {n : ℕ}
    (h : e.queuePacketOn t vcid packet = .ok (n, e')) :
  e.linkUp = true ∧ vcid.val < e.vcMode.count ∧ vcid.traffic = t ∧
    ∃ bytes, packet.encode e.cfg = .ok bytes ∧ n = (bytes.length + 3) / 4 ∧
      e' = e.enqueue { vcid, traffic := t, bytes, flitOffset := 0 } t
  := by
  rw [queuePacketOn] at h
  split at h
  · cases h
  next hup =>
  split at h
  · cases h
  next hlt =>
  split at h
  · cases h
  next hcontrol =>
  split at h
  · cases h
  next hdata =>
  split at h
  · cases h
  next bytes hencode =>
  refine ⟨by simpa using hup, Nat.not_le.mp hlt, ?_, bytes, hencode, ?_⟩
  · cases t with
    | control => simpa [Vcid.traffic] using hcontrol
    | data => simpa [Vcid.traffic] using hdata
  · cases t with
    | control =>
      cases h
      exact ⟨rfl, rfl⟩
    | data =>
      cases h
      exact ⟨rfl, rfl⟩

/-- A canonical packet is queued behind the packets of its traffic. -/
theorem queuePacketOn_of_canonical {localPrefix : U64} {vcid : Vcid} (hup : e.linkUp)
    (hlt : vcid.val < e.vcMode.count) (h : packet.Canonical localPrefix) :
  ∃ n, e.queuePacketOn vcid.traffic vcid packet = .ok (n,
    match vcid.traffic with
    | .control => { e with controlTxQueue := e.controlTxQueue ++ [e.frameOn vcid packet] }
    | .data => { e with dataTxQueue := e.dataTxQueue ++ [e.frameOn vcid packet] })
  := by
  have hcontrol : ¬ (vcid.traffic = .control ∧ !vcid.isControl) := by
    simp [Vcid.traffic]
  have hdata : ¬ (vcid.traffic = .data ∧ vcid.isControl) := by
    simp [Vcid.traffic]
  rw [queuePacketOn, if_neg (by simp [hup]), if_neg (by omega), if_neg hcontrol, if_neg hdata,
    GdpPacket.encode_of_canonical h]
  simp only [frameOn]
  cases vcid.traffic with
  | control => exact ⟨_, rfl⟩
  | data => exact ⟨_, rfl⟩

theorem first_data_vc (mode : VcMode) :
  (1 : Vcid).traffic = .data ∧ (1 : Vcid).val < mode.count
  := by
  cases mode <;> decide

theorem succDataVc_spec (mode : VcMode) (vc : Vcid) :
  (succDataVc mode vc).traffic = .data ∧ (succDataVc mode vc).val < mode.count
  := by
  revert vc
  cases mode with
  | two => decide
  | four => decide

/-- On a valid channel a data packet is queued when the link is up and the packet has an encoding. -/
theorem queueDataPacket_eq (ht : e.nextDataVc.traffic = .data)
    (hlt : e.nextDataVc.val < e.vcMode.count) (packet : GdpPacket) :
  e.queueDataPacket packet =
    if e.linkUp then
      match packet.encode e.cfg with
      | .error err => (.error err, { e with nextDataVc := succDataVc e.vcMode e.nextDataVc })
      | .ok bytes => (.ok ((bytes.length + 3) / 4),
        { e with
          nextDataVc := succDataVc e.vcMode e.nextDataVc
          dataTxQueue := e.dataTxQueue ++ [⟨e.nextDataVc, .data, bytes, 0⟩] })
    else (.error .linkDown, { e with nextDataVc := succDataVc e.vcMode e.nextDataVc })
  := by
  have hcontrol : e.nextDataVc.isControl = false := by
    rw [Vcid.traffic] at ht
    split at ht
    · cases ht
    · next h => exact Bool.eq_false_iff.mpr h
  rw [queueDataPacket, chooseDataVc]
  dsimp only
  rw [queuePacketOn]
  cases hup : e.linkUp with
  | false => rfl
  | true =>
    simp only [hcontrol, Nat.not_le.mpr hlt, Bool.not_true, Bool.false_eq_true, if_false, if_true,
      reduceCtorEq, false_and, and_false]
    cases packet.encode e.cfg with
    | error err => rfl
    | ok bytes => rfl

/-- A canonical data packet is queued on the next data channel. -/
theorem queueDataPacket_of_canonical {localPrefix : U64} (hup : e.linkUp)
    (ht : e.nextDataVc.traffic = .data) (hlt : e.nextDataVc.val < e.vcMode.count)
    (h : packet.Canonical localPrefix) :
  ∃ n, e.queueDataPacket packet = (.ok n,
    { e with
      nextDataVc := succDataVc e.vcMode e.nextDataVc
      dataTxQueue := e.dataTxQueue ++ [e.frameOn e.nextDataVc packet] })
  := by
  obtain ⟨n, hqueue⟩ := @queuePacketOn_of_canonical e.chooseDataVc.2 packet
    localPrefix e.nextDataVc hup hlt h
  rw [ht] at hqueue
  use n
  rw [queueDataPacket, chooseDataVc] at *
  dsimp only at hqueue ⊢
  rw [hqueue]
  rfl

/-- A burst sends the first flits left of each kind of traffic, at the price of one
credit for each. -/
theorem pollTxBurst_spec (hup : e.linkUp) (room : ℕ) :
  ∃ controlFlits dataFlits controlTxQueue controlTxCredit dataTxQueue dataTxCredit,
    (e.pollTxBurst room).2
      = { e with controlTxQueue, controlTxCredit, dataTxQueue, dataTxCredit } ∧
    ((e.pollTxBurst room).1 = .ok (controlFlits ++ dataFlits) ∨
      controlFlits ++ dataFlits = [] ∧ ∃ err, (e.pollTxBurst room).1 = .error err) ∧
    queueRest e.controlTxQueue = controlFlits ++ queueRest controlTxQueue ∧
    queueRest e.dataTxQueue = dataFlits ++ queueRest dataTxQueue ∧
    dataFlits.length + dataTxCredit.toNat = e.dataTxCredit.toNat ∧
    (controlFlits ++ dataFlits).length ≤ room
  := by
  rw [pollTxBurst, if_neg (by simp [hup])]
  split
  · next hroom =>
    use [], [], e.controlTxQueue, e.controlTxCredit, e.dataTxQueue, e.dataTxCredit
    simp
  · obtain ⟨hc, -, hcl⟩ := emitQueueFlits_spec room e.controlTxQueue e.controlTxCredit
    generalize emitQueueFlits room e.controlTxQueue e.controlTxCredit = rc at hc hcl ⊢
    obtain ⟨controlFlits, controlTxQueue, controlTxCredit⟩ := rc
    obtain ⟨hd, hcredit, hdl⟩ :=
      emitQueueFlits_spec (room - controlFlits.length) e.dataTxQueue e.dataTxCredit
    dsimp only at hc hcl ⊢
    generalize emitQueueFlits (room - controlFlits.length) e.dataTxQueue e.dataTxCredit = rd
      at hd hcredit hdl ⊢
    obtain ⟨dataFlits, dataTxQueue, dataTxCredit⟩ := rd
    dsimp only at hd hcredit hdl ⊢
    have hlen : (controlFlits ++ dataFlits).length ≤ room := by
      rw [List.length_append]
      omega
    use controlFlits, dataFlits, controlTxQueue, controlTxCredit, dataTxQueue, dataTxCredit
    refine ⟨?_, ?_, hc, hd, hcredit, hlen⟩
    · split_ifs <;> rfl
    · split_ifs with hsome hempty
      · exact Or.inl rfl
      · rw [not_not.mp hsome]
        exact Or.inl rfl
      · exact Or.inr ⟨not_not.mp hsome, _, rfl⟩

/-- The frames queued of one kind of traffic. -/
def txQueue (e : DlpEndpoint) : LinkTraffic → List TxFrame
  | .control => e.controlTxQueue
  | .data => e.dataTxQueue

/-- The credit for a kind of traffic. -/
def txCredit (e : DlpEndpoint) : LinkTraffic → U32
  | .control => e.controlTxCredit
  | .data => e.dataTxCredit

end DlpEndpoint

/-! ### The invariant -/

namespace DlpLink

/-- The flits of one kind of traffic that are in flight. -/
def inFlight (s : DlpLink) (t : LinkTraffic) : List Flit :=
  s.flits.filter (fun flit => flit.vcid.traffic = t)

/-- The flits of one kind of traffic that have not arrived. -/
def left (s : DlpLink) (t : LinkTraffic) : List Flit :=
  s.inFlight t ++ queueRest (s.a.txQueue t)

/-- The packets of one kind of traffic that have not been yielded are those of `frames`,
and `n` flits of the first of them have arrived. -/
def CarryingOf (s : DlpLink) (t : LinkTraffic) (frames : List (TxFrame × GdpPacket))
    (n : ℕ) : Prop :=
  Carrying s.b.cfg s.b.localPrefix s.b.vcMode t s.b.rx (s.left t) (s.queued t) (s.yielded t)
    frames n

/-- The invariant of the link: both kinds of traffic are carried, every data flit in
flight is covered by credit, and there is room for what credit has been given for. -/
structure Inv (localPrefix : U64) (s : DlpLink) : Prop where
  a_up : s.a.linkUp
  b_up : s.b.linkUp
  same_cfg : s.a.cfg = s.b.cfg
  same_mode : s.a.vcMode = s.b.vcMode
  local_prefix : s.b.localPrefix = localPrefix
  next_vc : s.a.nextDataVc.traffic = .data ∧ s.a.nextDataVc.val < s.a.vcMode.count
  synchronized : ∀ vcid, s.b.desynchronized vcid = false
  no_errors : s.errors = []
  control : ∃ frames n, s.CarryingOf .control frames n
  data : ∃ frames, s.CarryingOf .data frames s.b.dataRxInUse.toNat
  credit : s.b.dataCreditOutstanding.toNat
    = (s.grants.map BitVec.toNat).sum + s.a.dataTxCredit.toNat + (s.inFlight .data).length
  buffer : s.b.dataRxInUse.toNat + s.b.dataCreditOutstanding.toNat
    ≤ s.b.rxBufferFlits.toNat

theorem inv_init {configA configB : DlpConfig} {a b : DlpEndpoint}
    (ha : DlpEndpoint.new configA = .ok a) (hb : DlpEndpoint.new configB = .ok b)
    (hgdp : configA.gdp = configB.gdp) (hmode : configA.vcMode = configB.vcMode) :
  Inv b.localPrefix (init a b)
  := by
  rw [DlpEndpoint.new] at ha hb
  split at ha
  · cases ha
  split at hb
  · cases hb
  cases ha
  cases hb
  constructor
  · rfl
  · rfl
  · exact hgdp
  · exact hmode
  · rfl
  · exact DlpEndpoint.first_data_vc configA.vcMode
  · exact fun _ => rfl
  · rfl
  · exact ⟨[], 0, Carrying.init .control⟩
  · exact ⟨[], Carrying.init .data⟩
  · rfl
  · exact Nat.zero_le _

section Step

variable {localPrefix : U64} {s : DlpLink}

theorem Inv.carrying (h : s.Inv localPrefix) (t : LinkTraffic) :
  ∃ frames n, s.CarryingOf t frames n
  := by
  cases t with
  | control => exact h.control
  | data =>
    obtain ⟨frames, hdata⟩ := h.data
    exact ⟨frames, _, hdata⟩

theorem Inv.queueControl (h : s.Inv localPrefix) {packet : GdpPacket}
    (hp : packet.Canonical localPrefix) :
  (s.queueControl packet).Inv localPrefix
  := by
  obtain ⟨frames, n, hcontrol⟩ := h.control
  have hlt : Vcid.control.val < s.a.vcMode.count := by cases s.a.vcMode <;> decide
  obtain ⟨k, hqueue⟩ := DlpEndpoint.queuePacketOn_of_canonical h.a_up hlt hp
  have hcarries : (s.a.frameOn Vcid.control packet).Carries s.b.cfg s.b.localPrefix packet := by
    rw [h.local_prefix]
    exact ⟨hp, by rw [← h.same_cfg]; rfl⟩
  have hnext := hcontrol.queue hcarries rfl (by rwa [← h.same_mode])
  rw [← DlpEndpoint.frameOn_rest, left, List.append_assoc, queueRest, queueRest, ← List.flatMap_append] at hnext
  have hqueue' : s.a.queueControlPacket packet = _ := hqueue
  rw [DlpLink.queueControl, hqueue']
  exact { h with control := ⟨_, n, hnext⟩ }

theorem Inv.queueData (h : s.Inv localPrefix) {packet : GdpPacket}
    (hp : packet.Canonical localPrefix) :
  (s.queueData packet).Inv localPrefix
  := by
  obtain ⟨frames, hdata⟩ := h.data
  obtain ⟨htraffic, hlt⟩ := h.next_vc
  have hcarries : (s.a.frameOn s.a.nextDataVc packet).Carries s.b.cfg s.b.localPrefix packet := by
    rw [h.local_prefix]
    exact ⟨hp, by rw [← h.same_cfg]; rfl⟩
  have hnext := hdata.queue hcarries htraffic (by rwa [← h.same_mode])
  rw [← DlpEndpoint.frameOn_rest, left, List.append_assoc, queueRest, queueRest,
    ← List.flatMap_append] at hnext
  obtain ⟨k, hqueue⟩ := DlpEndpoint.queueDataPacket_of_canonical h.a_up htraffic hlt hp
  rw [DlpLink.queueData, hqueue]
  exact { h with
    next_vc := DlpEndpoint.succDataVc_spec s.a.vcMode s.a.nextDataVc
    data := ⟨_, hnext⟩ }

theorem Inv.noteCredit (h : s.Inv localPrefix) (count : U32) :
  (s.noteCredit count).Inv localPrefix
  := by
  have hcredit := h.credit
  have hbuffer := h.buffer
  rw [DlpLink.noteCredit, DlpEndpoint.noteDataCreditGranted]
  split
  · next b hb =>
    split at hb
    · cases hb
    · next hle =>
      have hgrant : (saturatingAdd s.b.dataCreditOutstanding count).toNat
            = s.b.dataCreditOutstanding.toNat + count.toNat ∧
          s.b.dataRxInUse.toNat + s.b.dataCreditOutstanding.toNat + count.toNat
            ≤ s.b.rxBufferFlits.toNat := by
        rw [BitVec.lt_def, DlpEndpoint.grantableDataCredit, DlpEndpoint.availableRxFlits,
          toNat_saturatingSub, toNat_saturatingSub] at hle
        have hlt := s.b.rxBufferFlits.isLt
        rw [toNat_saturatingAdd (by omega)]
        omega
      cases hb
      refine { h with credit := ?_, buffer := ?_ }
      · simp only [inFlight, List.map_append, List.sum_append, List.map_cons, List.map_nil,
          List.sum_singleton, hgrant.1] at hcredit ⊢
        omega
      · simp only [hgrant.1]
        omega
  · exact h

theorem sum_eraseIdx {l : List U32} {i : ℕ} {count : U32} (h : l[i]? = some count) :
  (l.map BitVec.toNat).sum = count.toNat + ((l.eraseIdx i).map BitVec.toNat).sum
  := by
  obtain ⟨hlt, rfl⟩ := List.getElem?_eq_some_iff.mp h
  have hlt' : i < (l.map BitVec.toNat).length := by rwa [List.length_map]
  rw [← List.add_sum_eraseIdx hlt' (fun _ _ => AddCommute.all _ _), List.getElem_map,
    List.eraseIdx_map]

theorem Inv.grantData (h : s.Inv localPrefix) (i : ℕ) :
  (s.grantData i).Inv localPrefix
  := by
  have hcredit := h.credit
  rw [DlpLink.grantData]
  split
  · next count hcount =>
    have hlt := s.b.dataCreditOutstanding.isLt
    have hsum := sum_eraseIdx hcount
    have hadd : (saturatingAdd s.a.dataTxCredit count).toNat
        = s.a.dataTxCredit.toNat + count.toNat := toNat_saturatingAdd (by omega)
    refine { h with credit := ?_ }
    simp only [inFlight, DlpEndpoint.grantDataTxCredit, hadd] at hcredit ⊢
    omega
  · exact h

/-- Flits are sent: what has not arrived is as before. -/
theorem Inv.emit (h : s.Inv localPrefix) {controlFlits dataFlits : List Flit}
    {controlTxQueue dataTxQueue : List TxFrame} {controlTxCredit dataTxCredit : U32}
    (hcontrol : queueRest s.a.controlTxQueue = controlFlits ++ queueRest controlTxQueue)
    (hdata : queueRest s.a.dataTxQueue = dataFlits ++ queueRest dataTxQueue)
    (hcredit : dataFlits.length + dataTxCredit.toNat = s.a.dataTxCredit.toNat) :
  Inv localPrefix { s with
    a := { s.a with controlTxQueue, controlTxCredit, dataTxQueue, dataTxCredit }
    flits := s.flits ++ (controlFlits ++ dataFlits) }
  := by
  obtain ⟨framesC, n, hC⟩ := h.control
  obtain ⟨framesD, hD⟩ := h.data
  have hcontrolFlits : ∀ flit ∈ controlFlits, flit.vcid.traffic = .control := by
    intro flit hflit
    apply hC.traffic_of_mem_left
    simp [left, DlpEndpoint.txQueue, hcontrol, hflit]
  have hdataFlits : ∀ flit ∈ dataFlits, flit.vcid.traffic = .data := by
    intro flit hflit
    apply hD.traffic_of_mem_left
    simp [left, DlpEndpoint.txQueue, hdata, hflit]
  have hfilterC : (controlFlits ++ dataFlits).filter (fun flit => flit.vcid.traffic = .control)
      = controlFlits := by
    rw [List.filter_append, List.filter_eq_self.mpr (by simpa using hcontrolFlits),
      List.filter_eq_nil_iff.mpr (by simp +contextual [hdataFlits]), List.append_nil]
  have hfilterD : (controlFlits ++ dataFlits).filter (fun flit => flit.vcid.traffic = .data)
      = dataFlits := by
    rw [List.filter_append, List.filter_eq_nil_iff.mpr (by simp +contextual [hcontrolFlits]),
      List.filter_eq_self.mpr (by simpa using hdataFlits), List.nil_append]
  have hcr := h.credit
  refine { h with control := ⟨framesC, n, ?_⟩, data := ⟨framesD, ?_⟩, credit := ?_ }
  · simp only [CarryingOf, left, inFlight, DlpEndpoint.txQueue, List.filter_append s.flits,
      hfilterC, List.append_assoc, ← hcontrol]
    exact hC
  · simp only [CarryingOf, left, inFlight, DlpEndpoint.txQueue, List.filter_append s.flits,
      hfilterD, List.append_assoc, ← hdata]
    exact hD
  · simp only [inFlight, List.filter_append s.flits, hfilterD, List.length_append] at hcr ⊢
    omega

theorem Inv.pollTxBurst (h : s.Inv localPrefix) (room : ℕ) :
  (s.pollTxBurst room).Inv localPrefix
  := by
  obtain ⟨cf, df, cq, cc, dq, dc, hnext, hflits, hcontrol, hdata, hcredit, -⟩ :=
    DlpEndpoint.pollTxBurst_spec h.a_up room
  have hemit := @Inv.emit localPrefix s h cf df cq dq cc dc hcontrol hdata hcredit
  rw [DlpLink.pollTxBurst]
  rcases hflits with hok | ⟨hnil, err, herr⟩
  · rw [← hnext] at hemit
    rw [show s.a.pollTxBurst room = (.ok (cf ++ df), (s.a.pollTxBurst room).2) from Prod.ext hok rfl]
    exact hemit
  · rw [← hnext, hnil, List.append_nil] at hemit
    rw [show s.a.pollTxBurst room = (.error err, (s.a.pollTxBurst room).2) from Prod.ext herr rfl]
    exact hemit

/-- Polling for one flit is polling with a buffer of one flit. -/
theorem pollTx_eq (hup : s.a.linkUp) :
  s.pollTx = s.pollTxBurst 1
  := by
  obtain ⟨cf, df, cq, cc, dq, dc, -, hflits, -, -, -, hlen⟩ :=
    DlpEndpoint.pollTxBurst_spec hup 1
  rw [DlpLink.pollTx, DlpLink.pollTxBurst, DlpEndpoint.pollTx]
  rcases hflits with hok | ⟨hnil, err, herr⟩
  · rw [show s.a.pollTxBurst 1 = (.ok (cf ++ df), (s.a.pollTxBurst 1).2) from Prod.ext hok rfl]
    have hhead : (cf ++ df).head?.toList = cf ++ df := by
      generalize cf ++ df = flits at hlen ⊢
      match flits, hlen with
      | [], _ => rfl
      | [flit], _ => rfl
    simp only [hhead]
  · rw [show s.a.pollTxBurst 1 = (.error err, (s.a.pollTxBurst 1).2) from Prod.ext herr rfl]

/-- A flit of the given traffic is accounted for. -/
def charge (e : DlpEndpoint) : LinkTraffic → DlpEndpoint
  | .control => e
  | .data =>
    { e with
      dataCreditOutstanding := e.dataCreditOutstanding - 1#32
      dataRxInUse := e.dataRxInUse + 1#32 }

/-- The flits left, after the first in flight has been taken off. -/
theorem left_cons {flit : Flit} {flits : List Flit} (hflits : s.flits = flit :: flits) :
  s.left flit.vcid.traffic = flit :: left { s with flits } flit.vcid.traffic ∧
    ∀ t ≠ flit.vcid.traffic, s.left t = left { s with flits } t
  := by
  constructor
  · rw [left, inFlight, hflits, List.filter_cons_of_pos (by simp)]
    rfl
  · intro t ht
    rw [left, inFlight, hflits, List.filter_cons_of_neg (by simpa using ht.symm)]
    rfl

/-- The next flit passes the checks of the receiver. -/
theorem Inv.receive_eq (h : s.Inv localPrefix) {flit : Flit} {flits : List Flit}
    (hflits : s.flits = flit :: flits) :
  s.b.receive flit = (charge s.b flit.vcid.traffic).receiveSegment flit
  := by
  have hlt : flit.vcid.val < s.b.vcMode.count := by
    obtain ⟨frames, n, hcarry⟩ := h.carrying flit.vcid.traffic
    rw [CarryingOf, (left_cons hflits).1] at hcarry
    obtain ⟨frame, packet, rest, rfl, -, rfl, -⟩ := hcarry.head
    exact (hcarry.channel _ List.mem_cons_self).2
  rw [DlpEndpoint.receive, if_neg (by simp [h.b_up]), if_neg (by omega),
    if_neg (by simp [h.synchronized])]
  cases ht : flit.vcid.traffic with
  | control => rfl
  | data =>
    have hcredit := h.credit
    have hbuffer := h.buffer
    rw [inFlight, hflits, List.filter_cons_of_pos (by simpa using ht), List.length_cons] at hcredit
    have htake : s.b.takeDataFlit = .ok (charge s.b .data) := by
      rw [DlpEndpoint.takeDataFlit, if_neg (by bv_omega), if_neg (by bv_omega)]
      rfl
    rw [htake]

theorem setRx_of_traffic_ne {e : DlpEndpoint} {vcid vcid' : Vcid} {x : Option RxSegment}
    (h : vcid'.traffic ≠ vcid.traffic) :
  (e.setRx vcid x).rx vcid' = e.rx vcid'
  := by
  apply Function.update_of_ne
  rintro rfl
  exact h rfl

theorem Inv.deliver_control (h : s.Inv localPrefix) {flit : Flit} {flits : List Flit}
    (hflits : s.flits = flit :: flits) (ht : flit.vcid.traffic = .control) :
  s.deliver.Inv localPrefix
  := by
  obtain ⟨frames, n, hcontrol⟩ := h.control
  obtain ⟨framesD, hdata⟩ := h.data
  have hreceive := h.receive_eq hflits
  have hcredit := h.credit
  obtain ⟨hleft, hother⟩ := left_cons hflits
  rw [ht] at hleft hother hreceive
  rw [CarryingOf, hleft] at hcontrol
  rw [CarryingOf, hother .data (by simp)] at hdata
  rw [inFlight, hflits, List.filter_cons_of_neg (by simp [ht])] at hcredit
  have hdata' : ∀ x, Carrying s.b.cfg s.b.localPrefix s.b.vcMode .data (s.b.setRx flit.vcid x).rx
      (left { s with flits } .data) (s.queued .data) (s.yielded .data) framesD
      s.b.dataRxInUse.toNat := by
    intro x
    apply hdata.congr_rx
    intro vcid hvcid
    apply setRx_of_traffic_ne
    simp [hvcid, ht]
  rw [DlpLink.deliver, hflits]
  simp only [hreceive, charge]
  rcases hcontrol.arrive with ⟨seg, hseg, hnext⟩ | ⟨packet, frames', hseg, hnext⟩
  · simp only [hseg]
    exact { h with
      control := ⟨frames, n + 1, hnext⟩
      data := ⟨framesD, hdata' _⟩
      credit := hcredit }
  · simp only [hseg, ht, DlpEndpoint.releaseSegment]
    refine { h with control := ⟨frames', 0, ?_⟩, data := ⟨framesD, ?_⟩, credit := hcredit }
    · simp only [CarryingOf, append_self]
      exact hnext
    · simp only [CarryingOf, append_of_ne _ _ (show LinkTraffic.data ≠ .control by simp)]
      exact hdata' none

theorem Inv.deliver_data (h : s.Inv localPrefix) {flit : Flit} {flits : List Flit}
    (hflits : s.flits = flit :: flits) (ht : flit.vcid.traffic = .data) :
  s.deliver.Inv localPrefix
  := by
  obtain ⟨frames, n, hcontrol⟩ := h.control
  obtain ⟨framesD, hdata⟩ := h.data
  have hreceive := h.receive_eq hflits
  have hcredit := h.credit
  have hbuffer := h.buffer
  obtain ⟨hleft, hother⟩ := left_cons hflits
  rw [ht] at hleft hother hreceive
  rw [CarryingOf, hleft] at hdata
  rw [CarryingOf, hother .control (by simp)] at hcontrol
  rw [inFlight, hflits, List.filter_cons_of_pos (by simp [ht]), List.length_cons] at hcredit
  have hcontrol' : ∀ x, Carrying s.b.cfg s.b.localPrefix s.b.vcMode .control
      (s.b.setRx flit.vcid x).rx (left { s with flits } .control) (s.queued .control)
      (s.yielded .control) frames n := by
    intro x
    apply hcontrol.congr_rx
    intro vcid hvcid
    apply setRx_of_traffic_ne
    simp [hvcid, ht]
  have hout : (s.b.dataCreditOutstanding - 1#32).toNat + 1 = s.b.dataCreditOutstanding.toNat := by
    bv_omega
  have huse : (s.b.dataRxInUse + 1#32).toNat = s.b.dataRxInUse.toNat + 1 := by
    bv_omega
  rw [DlpLink.deliver, hflits]
  simp only [hreceive]
  rcases Carrying.arrive (e := charge s.b .data) hdata with
    ⟨seg, hseg, hnext⟩ | ⟨packet, frames', hseg, hnext⟩
  · simp only [hseg]
    refine { h with
      control := ⟨frames, n, hcontrol' _⟩
      data := ⟨framesD, ?_⟩
      credit := ?_
      buffer := ?_ }
    · simp only [DlpEndpoint.setRx, charge, huse] at hnext ⊢
      exact hnext
    · simp only [DlpEndpoint.setRx, charge, inFlight]
      omega
    · simp only [DlpEndpoint.setRx, charge, huse]
      omega
  · have hrel : (saturatingSub (s.b.dataRxInUse + 1#32)
        (BitVec.ofNat 32 (s.b.dataRxInUse.toNat + 1))).toNat = 0 := by
      rw [toNat_saturatingSub, huse, BitVec.toNat_ofNat]
      omega
    simp only [hseg, ht, DlpEndpoint.releaseSegment, DlpEndpoint.releaseDataSegment]
    refine { h with
      control := ⟨frames, n, ?_⟩
      data := ⟨frames', ?_⟩
      credit := ?_
      buffer := ?_ }
    · simp only [CarryingOf, append_of_ne _ _ (show LinkTraffic.control ≠ .data by simp)]
      exact hcontrol' none
    · simp only [CarryingOf, append_self, DlpEndpoint.setRx, charge, hrel] at hnext ⊢
      exact hnext
    · simp only [DlpEndpoint.setRx, charge, inFlight]
      omega
    · simp only [DlpEndpoint.setRx, charge, hrel]
      omega

theorem Inv.deliver (h : s.Inv localPrefix) :
  s.deliver.Inv localPrefix
  := by
  cases hflits : s.flits with
  | nil =>
    rw [DlpLink.deliver, hflits]
    exact h
  | cons flit flits =>
    cases ht : flit.vcid.traffic with
    | control => exact h.deliver_control hflits ht
    | data => exact h.deliver_data hflits ht

theorem inv_step (s : DlpLink) (act : Action) (h : s.Inv localPrefix)
    (hact : act.Canonical localPrefix) :
  (s.step act).Inv localPrefix
  := by
  cases act with
  | queueControl packet => exact h.queueControl hact
  | queueData packet => exact h.queueData hact
  | noteCredit count => exact h.noteCredit count
  | grantData i => exact h.grantData i
  | grantControl count => exact { h with }
  | pollTx =>
    rw [step, pollTx_eq h.a_up]
    exact h.pollTxBurst 1
  | pollTxBurst room => exact h.pollTxBurst room
  | deliver => exact h.deliver

end Step

/-- The link carries packets faithfully: in every run that queues canonical packets, the
receiver reports no error, the packets of each kind of traffic it has yielded are a prefix
of those queued, and they are all of them once nothing is queued or in flight. -/
theorem carries_faithfully
    {configA configB : DlpConfig} {a b : DlpEndpoint}
    (ha : DlpEndpoint.new configA = .ok a) (hb : DlpEndpoint.new configB = .ok b)
    (hgdp : configA.gdp = configB.gdp) (hmode : configA.vcMode = configB.vcMode)
    (as : List Action) (has : ∀ act ∈ as, act.Canonical b.localPrefix) :
  let s := Machine.run step (init a b) as
  s.errors = [] ∧ (∀ t, s.yielded t <+: s.queued t) ∧
    (s.a.controlTxQueue = [] → s.a.dataTxQueue = [] → s.flits = [] →
      ∀ t, s.yielded t = s.queued t)
  := by
  have h := Machine.invariant_along inv_step (inv_init ha hb hgdp hmode)
    (Machine.along_of_forall (init a b) has)
  generalize Machine.run step (init a b) as = s at h ⊢
  refine ⟨h.no_errors, ?_, ?_⟩
  · intro t
    obtain ⟨frames, n, hcarry⟩ := h.carrying t
    exact ⟨_, hcarry.logs⟩
  · intro hcontrol hdata hflits t
    obtain ⟨frames, n, hcarry⟩ := h.carrying t
    have hleft : s.left t = [] := by
      cases t with
      | control =>
        rw [left, inFlight, hflits, DlpEndpoint.txQueue, hcontrol]
        rfl
      | data =>
        rw [left, inFlight, hflits, DlpEndpoint.txQueue, hdata]
        rfl
    rw [CarryingOf, hleft] at hcarry
    exact hcarry.yielded_eq

/-- A data packet of three flits of which one has been sent when a control packet is
queued. -/
theorem carries_faithfully_preempted :
  let config : DlpConfig := ⟨⟨true⟩, 0#64, .four, 8#32, 32#32⟩
  let control : GdpPacket := ⟨⟨0#8, .gctl, .empty, 1#8, .local 1#16 2#16 0#64⟩, []⟩
  let data : GdpPacket := ⟨⟨0#8, .gts, .tiny3, 1#8, .local 1#16 2#16 0#64⟩, [1#8, 2#8, 3#8]⟩
  ∃ e as, DlpEndpoint.new config = .ok e ∧
    (Machine.run step (init e e) as).queued .control = [control] ∧
    (Machine.run step (init e e) as).queued .data = [data] ∧
    ∀ t, (Machine.run step (init e e) as).yielded t = (Machine.run step (init e e) as).queued t
  := by
  intro config control data
  let as : List Action :=
    [.noteCredit 8#32, .grantData 0, .grantControl 4#32, .queueData data, .pollTx,
      .queueControl control, .pollTxBurst 10, .deliver, .deliver, .deliver, .deliver, .deliver]
  have hcontrol : control.Canonical 0#64 := by
    refine ⟨⟨by decide, ⟨1#8, rfl⟩, ?_⟩, rfl⟩
    rintro _ _ _ ⟨⟩
    decide
  have hdata : data.Canonical 0#64 := by
    refine ⟨⟨by decide, ⟨2#8, rfl⟩, ?_⟩, rfl⟩
    rintro _ _ _ ⟨⟩
    decide
  have has : ∀ act ∈ as, act.Canonical (config.localPrefix &&& ~~~0xffff#64) := by
    rw [show config.localPrefix &&& ~~~0xffff#64 = 0#64 by decide]
    simp only [as, List.forall_mem_cons]
    refine ⟨trivial, trivial, trivial, hdata, trivial, hcontrol, trivial, trivial, trivial,
      trivial, trivial, trivial, ?_⟩
    simp
  refine ⟨_, as, rfl, by decide +kernel, by decide +kernel, ?_⟩
  apply (@carries_faithfully config config _ _ rfl rfl rfl rfl as has).2.2
  · decide +kernel
  · decide +kernel
  · decide +kernel

end DlpLink

end SmolGnet
