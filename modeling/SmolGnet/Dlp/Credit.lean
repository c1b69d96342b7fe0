import SmolGnet.Library.Machine
import SmolGnet.Dlp.Carry
import Mathlib.Algebra.Order.BigOperators.Group.Finset

/-!
# The credit that a receiver gives

Whatever flits and frames arrive, and in whatever order an endpoint is asked to give
credit, to receive, to send and to forget, the credit it has given and the room that
unfinished packets take fit into its buffer, the room taken is what the unfinished packets
hold, and no addition or subtraction of these counters leaves the range of a `u32`.
-/

namespace SmolGnet

namespace DlpEndpoint

/-! ### The operations of an endpoint -/

/-- What can be asked of an endpoint. -/
inductive Op where
  | noteDataCreditGranted (count : U32)
  | grantDataTxCredit (count : U32)
  | grantControlTxCredit (count : U32)
  | setLocalPrefix (localPrefix : U64)
  | setLinkUp (up : Bool)
  | queuePacketOn (traffic : LinkTraffic) (vcid : Vcid) (packet : GdpPacket)
  | queueDataPacket (packet : GdpPacket)
  | pollTxFrame
  | pollTxBurst (room : ℕ)
  | pollTx
  | receiveFrame (frame : GnetFrame)
  | receive (flit : Flit)
  | receiveBurst (flits : List Flit)
  | resetVc (vcid : Vcid)

/-- The endpoint after an operation, whether it succeeds or not. -/
def step (e : DlpEndpoint) : Op → DlpEndpoint
  | .noteDataCreditGranted count => (e.noteDataCreditGranted count).toOption.getD e
  | .grantDataTxCredit count => e.grantDataTxCredit count
  | .grantControlTxCredit count => e.grantControlTxCredit count
  | .setLocalPrefix localPrefix => e.setLocalPrefix localPrefix
  | .setLinkUp up => e.setLinkUp up
  | .queuePacketOn traffic vcid packet =>
    ((e.queuePacketOn traffic vcid packet).map Prod.snd).toOption.getD e
  | .queueDataPacket packet => (e.queueDataPacket packet).2
  | .pollTxFrame => (e.pollTxFrame.map Prod.snd).toOption.getD e
  | .pollTxBurst room => (e.pollTxBurst room).2
  | .pollTx => e.pollTx.2
  | .receiveFrame frame => (e.receiveFrame frame).2
  | .receive flit => (e.receive flit).2
  | .receiveBurst flits => (e.receiveBurst flits []).2.2
  | .resetVc vcid => (e.resetVc vcid).toOption.getD e

/-- The data flits that a channel holds of an unfinished packet. -/
def heldFlits : Option RxSegment → ℕ
  | none => 0
  | some s => if s.traffic = .data then s.receivedFlits else 0

/-- The data flits of all unfinished packets. -/
def heldDataFlits (e : DlpEndpoint) : ℕ :=
  ∑ vcid, heldFlits (e.rx vcid)

/-- So many flits can be taken off the room in use. -/
def Releasable (e : DlpEndpoint) (flits : ℕ) : Prop :=
  flits < 2 ^ 32 ∧ flits ≤ e.dataRxInUse.toNat

/-- The counters stay in range when a flit arrives: when the flit is accounted for, and when
the flits of its channel are released after that. -/
def ReceiveExact (e : DlpEndpoint) (flit : Flit) : Prop :=
  flit.vcid.traffic = .data → ∀ e', e.takeDataFlit = .ok e' →
    1 ≤ e.dataCreditOutstanding.toNat ∧ e.dataRxInUse.toNat + 1 < 2 ^ 32 ∧
    e'.Releasable (heldFlits (e.rx flit.vcid) + 1)

/-- The counters stay in range when flits arrive one after the other. -/
def BurstExact (e : DlpEndpoint) : List Flit → Prop
  | [] => True
  | flit :: flits => e.ReceiveExact flit ∧ (e.receive flit).2.BurstExact flits

/-- No addition or subtraction of an operation on the counters leaves the range of a `u32`,
nor is any of them cut off at its ends. -/
def Exact (e : DlpEndpoint) : Op → Prop
  | .noteDataCreditGranted count => count ≤ e.grantableDataCredit →
    e.dataCreditOutstanding.toNat + count.toNat < 2 ^ 32
  | .receiveFrame frame => frame.traffic = .data →
    BitVec.ofNat 32 frame.flitLen ≤ e.dataCreditOutstanding →
    e.dataRxInUse.toNat + (BitVec.ofNat 32 frame.flitLen).toNat < 2 ^ 32
  | .receive flit => e.ReceiveExact flit
  | .receiveBurst flits => e.BurstExact flits
  | .resetVc vcid => e.Releasable (heldFlits (e.rx vcid))
  | _ => True

/-! ### The invariant -/

/-- The counters of an endpoint that has accounted for `extra` flits which no channel holds
yet. -/
structure Accounted (e : DlpEndpoint) (extra : ℕ) : Prop where
  room : e.dataCreditOutstanding.toNat + e.dataRxInUse.toNat ≤ e.rxBufferFlits.toNat
  in_use : e.dataRxInUse.toNat = e.heldDataFlits + extra
  traffic_eq : ∀ vcid s, e.rx vcid = some s → s.traffic = vcid.traffic

/-- The flits of a channel are among those of all. -/
theorem heldFlits_le (e : DlpEndpoint) (vcid : Vcid) :
  heldFlits (e.rx vcid) ≤ e.heldDataFlits
  := Finset.single_le_sum (f := fun vcid => heldFlits (e.rx vcid)) (fun _ _ => Nat.zero_le _)
    (Finset.mem_univ vcid)

theorem setRx_rx_self (e : DlpEndpoint) (vcid : Vcid) (x : Option RxSegment) :
  (e.setRx vcid x).rx vcid = x
  := Function.update_self ..

theorem setRx_rx_of_ne (e : DlpEndpoint) {vcid v : Vcid} (x : Option RxSegment) (hv : v ≠ vcid) :
  (e.setRx vcid x).rx v = e.rx v
  := Function.update_of_ne hv ..

/-- What a channel holds is replaced. -/
theorem heldDataFlits_setRx (e : DlpEndpoint) (vcid : Vcid) (x : Option RxSegment) :
  (e.setRx vcid x).heldDataFlits + heldFlits (e.rx vcid) = e.heldDataFlits + heldFlits x
  := by
  have hothers : ∑ v ∈ Finset.univ.erase vcid, heldFlits ((e.setRx vcid x).rx v)
      = ∑ v ∈ Finset.univ.erase vcid, heldFlits (e.rx v) := by
    apply Finset.sum_congr rfl
    intro v hv
    rw [setRx_rx_of_ne e x (Finset.ne_of_mem_erase hv)]
  have hnew := Finset.add_sum_erase Finset.univ (fun v => heldFlits ((e.setRx vcid x).rx v))
    (Finset.mem_univ vcid)
  have hold := Finset.add_sum_erase Finset.univ (fun v => heldFlits (e.rx v))
    (Finset.mem_univ vcid)
  simp only [setRx_rx_self, hothers] at hnew
  rw [heldDataFlits, heldDataFlits]
  omega

variable {e e' : DlpEndpoint} {extra : ℕ}

/-- Everything that the counters do not depend on may change. -/
theorem Accounted.congr (h : e.Accounted extra)
    (hout : e'.dataCreditOutstanding = e.dataCreditOutstanding)
    (huse : e'.dataRxInUse = e.dataRxInUse) (hrx : e'.rx = e.rx)
    (hbuffer : e'.rxBufferFlits = e.rxBufferFlits) :
  e'.Accounted extra
  := by
  constructor
  · rw [hout, huse, hbuffer]
    apply h.room
  · rw [huse, heldDataFlits, hrx]
    apply h.in_use
  · rw [hrx]
    apply h.traffic_eq

/-- What a channel holds is replaced by a segment of the right traffic. -/
theorem Accounted.setRx (h : e.Accounted extra) {vcid : Vcid} {x : Option RxSegment} {n : ℕ}
    (hx : ∀ s, x = some s → s.traffic = vcid.traffic)
    (hn : heldFlits (e.rx vcid) + extra = heldFlits x + n) :
  (e.setRx vcid x).Accounted n
  := by
  have hheld := e.heldDataFlits_setRx vcid x
  have huse := h.in_use
  constructor
  · apply h.room
  · change e.dataRxInUse.toNat = _
    omega
  · intro v s hs
    by_cases hv : v = vcid
    · subst hv
      rw [setRx_rx_self] at hs
      apply hx s hs
    · rw [setRx_rx_of_ne e x hv] at hs
      apply h.traffic_eq v s hs

theorem Accounted.lt (h : e.Accounted extra) :
  extra < 2 ^ 32
  := by
  have huse := h.in_use
  have hlt := e.dataRxInUse.isLt
  omega

/-- Flits that no channel holds are released. -/
theorem Accounted.releaseDataSegment (h : e.Accounted extra) :
  (e.releaseDataSegment extra).Accounted 0
  := by
  have huse := h.in_use
  have hroom := h.room
  have hrelease : (e.releaseDataSegment extra).dataRxInUse.toNat = e.heldDataFlits := by
    rw [DlpEndpoint.releaseDataSegment, toNat_saturatingSub, BitVec.toNat_ofNat,
      Nat.mod_eq_of_lt h.lt]
    omega
  constructor
  · rw [hrelease]
    change e.dataCreditOutstanding.toNat + e.heldDataFlits ≤ e.rxBufferFlits.toNat
    omega
  · apply hrelease
  · apply h.traffic_eq

theorem Accounted.releaseSegment {t : LinkTraffic} {n : ℕ}
    (h : e.Accounted (if t = .data then n else 0)) :
  (e.releaseSegment t n).Accounted 0
  := by
  cases t with
  | control => apply h
  | data => apply h.releaseDataSegment

theorem Accounted.setDesynchronized (h : e.Accounted extra) (vcid : Vcid) (b : Bool) :
  (e.setDesynchronized vcid b).Accounted extra
  := h.congr rfl rfl rfl rfl

/-- A data flit is accounted for. -/
theorem Accounted.takeDataFlit (h : e.Accounted 0) (he : e.takeDataFlit = .ok e') :
  e'.Accounted 1 ∧ e'.rx = e.rx ∧ 1 ≤ e.dataCreditOutstanding.toNat ∧
    e.dataRxInUse.toNat + 1 < 2 ^ 32
  := by
  have hroom := h.room
  have huse := h.in_use
  have hlt := e.rxBufferFlits.isLt
  rw [DlpEndpoint.takeDataFlit] at he
  split at he
  · cases he
  · next hout =>
    split at he
    · cases he
    · cases he
      have hout' : (e.dataCreditOutstanding - 1#32).toNat + 1 = e.dataCreditOutstanding.toNat := by
        bv_omega
      have huse' : (e.dataRxInUse + 1#32).toNat = e.dataRxInUse.toNat + 1 := by
        bv_omega
      refine ⟨⟨?_, ?_, h.traffic_eq⟩, rfl, ?_, ?_⟩
      · dsimp only
        omega
      · rw [huse', huse]
        rfl
      · omega
      · omega

/-- The room never runs out before the credit does. -/
theorem Accounted.takeDataFlit_ne (h : e.Accounted extra) :
  e.takeDataFlit ≠ .error .bufferFull
  := by
  have hroom := h.room
  rw [DlpEndpoint.takeDataFlit]
  split
  · simp
  · rw [if_neg (by bv_omega)]
    simp

theorem openSegment_traffic {t : LinkTraffic} {w : U32} {s : RxSegment}
    (hs : e.openSegment t w = .ok s) :
  s.traffic = t ∧ s.receivedFlits = 0
  := by
  rw [openSegment] at hs
  split at hs
  · cases hs
  · cases hs
    exact ⟨rfl, rfl⟩

/-- One flit for a data flit and none for a control flit. -/
def flitsOf (t : LinkTraffic) : ℕ :=
  if t = .data then 1 else 0

/-- A flit that has been accounted for is added to the segment of its channel. -/
theorem Accounted.extendSegment {s : RxSegment} {flit : Flit}
    (h : e.Accounted (flitsOf flit.vcid.traffic)) (ht : s.traffic = flit.vcid.traffic)
    (hs : heldFlits (e.rx flit.vcid) = heldFlits (some s)) :
  (e.extendSegment s flit).2.Accounted 0
  := by
  have hpush : (s.push flit.data).traffic = flit.vcid.traffic := ht
  have hheld : heldFlits (e.rx flit.vcid) + flitsOf flit.vcid.traffic
      = heldFlits (some (s.push flit.data)) := by
    rw [hs, heldFlits, heldFlits, hpush, ht, flitsOf]
    cases flit.vcid.traffic with
    | control => rfl
    | data => rfl
  rw [DlpEndpoint.extendSegment, if_neg (not_not.mpr ht)]
  split
  · apply h.setRx
    · rintro _ ⟨⟩
      exact hpush
    · rw [hheld, Nat.add_zero]
  · have hreleased : ((e.setRx flit.vcid none).releaseSegment (s.push flit.data).traffic
        (s.push flit.data).receivedFlits).Accounted 0 := by
      apply Accounted.releaseSegment
      apply h.setRx
      · rintro _ ⟨⟩
      · rw [hheld, heldFlits, heldFlits, Nat.zero_add]
    rw [finishSegment]
    split
    · apply hreleased
    · apply hreleased.setDesynchronized

theorem Accounted.receiveSegment {flit : Flit} (h : e.Accounted (flitsOf flit.vcid.traffic)) :
  (e.receiveSegment flit).2.Accounted 0
  := by
  rw [DlpEndpoint.receiveSegment]
  split
  · next s hs =>
    apply h.extendSegment (h.traffic_eq _ s hs)
    rw [hs]
  · next hnone =>
    split
    · next s hs =>
      obtain ⟨ht, hzero⟩ := openSegment_traffic hs
      apply h.extendSegment ht
      rw [hnone, heldFlits, heldFlits, hzero, ite_self]
    · apply Accounted.setDesynchronized
      apply h.releaseSegment

/-- A flit arrives. -/
theorem Accounted.receive (h : e.Accounted 0) (flit : Flit) :
  (e.receive flit).2.Accounted 0
  := by
  rw [DlpEndpoint.receive]
  split
  · apply h
  split
  · apply h
  split
  · apply h
  split
  · next ht =>
    apply Accounted.receiveSegment
    rw [ht]
    apply h
  · next ht =>
    split
    · next e' he =>
      apply Accounted.receiveSegment
      rw [ht]
      apply (h.takeDataFlit he).1
    · apply h

theorem Accounted.receiveBurst (h : e.Accounted 0) (flits : List Flit) (packets : List GdpPacket) :
  (e.receiveBurst flits packets).2.2.Accounted 0
  := by
  induction flits generalizing e packets with
  | nil => apply h
  | cons flit flits ih =>
    have hnext := h.receive flit
    rw [DlpEndpoint.receiveBurst]
    split
    · next err e' he =>
      rw [he] at hnext
      apply hnext
    · next e' he =>
      rw [he] at hnext
      apply ih hnext
    · next packet e' he =>
      rw [he] at hnext
      have hrest := ih hnext (packets ++ [packet])
      split
      · next heq =>
        rw [heq] at hrest
        apply hrest
      · next heq =>
        rw [heq] at hrest
        apply hrest

/-- A frame whose credit has been checked fits into the room. -/
theorem Accounted.frame_fits (h : e.Accounted extra) {count : U32}
    (hcount : count ≤ e.dataCreditOutstanding) :
  count ≤ e.availableRxFlits ∧ e.dataRxInUse.toNat + count.toNat < 2 ^ 32
  := by
  have hroom := h.room
  have hlt := e.rxBufferFlits.isLt
  rw [BitVec.le_def] at hcount ⊢
  rw [availableRxFlits, toNat_saturatingSub]
  omega

/-- A frame arrives. -/
theorem Accounted.receiveFrame (h : e.Accounted 0) (frame : GnetFrame) :
  (e.receiveFrame frame).2.Accounted 0
  := by
  rw [DlpEndpoint.receiveFrame]
  split
  · apply h
  split
  · apply h
  split
  · apply h
  split
  · apply h
  dsimp only
  split
  · apply h
  · split
    · apply h
    · next hcredit =>
      have hcount := BitVec.not_lt.mp hcredit
      split
      · apply h
      · have hroom := h.room
        have huse := h.in_use
        obtain ⟨-, hlt⟩ := h.frame_fits hcount
        have hout : (e.dataCreditOutstanding - BitVec.ofNat 32 frame.flitLen).toNat
            + (BitVec.ofNat 32 frame.flitLen).toNat = e.dataCreditOutstanding.toNat := by
          rw [BitVec.le_def] at hcount
          rw [BitVec.toNat_sub_of_le (BitVec.le_def.mpr hcount)]
          omega
        have huse' : (e.dataRxInUse + BitVec.ofNat 32 frame.flitLen).toNat
            = e.dataRxInUse.toNat + (BitVec.ofNat 32 frame.flitLen).toNat := by
          rw [BitVec.toNat_add, Nat.mod_eq_of_lt hlt]
        have hrelease : (saturatingSub (e.dataRxInUse + BitVec.ofNat 32 frame.flitLen)
            (BitVec.ofNat 32 frame.flitLen)).toNat = e.dataRxInUse.toNat := by
          rw [toNat_saturatingSub, huse']
          omega
        refine ⟨?_, ?_, h.traffic_eq⟩
        · simp only [DlpEndpoint.releaseDataSegment, hrelease]
          omega
        · simp only [DlpEndpoint.releaseDataSegment, hrelease]
          apply huse

/-- Credit is given. -/
theorem Accounted.grant_fits (h : e.Accounted extra) {count : U32}
    (hcount : count ≤ e.grantableDataCredit) :
  e.dataCreditOutstanding.toNat + count.toNat + e.dataRxInUse.toNat ≤ e.rxBufferFlits.toNat
  := by
  have hroom := h.room
  rw [BitVec.le_def, grantableDataCredit, availableRxFlits, toNat_saturatingSub,
    toNat_saturatingSub] at hcount
  omega

theorem Accounted.noteDataCreditGranted (h : e.Accounted extra) {count : U32}
    (he : e.noteDataCreditGranted count = .ok e') :
  e'.Accounted extra
  := by
  rw [DlpEndpoint.noteDataCreditGranted] at he
  split at he
  · cases he
  · next hcount =>
    cases he
    have hfits := h.grant_fits (BitVec.not_lt.mp hcount)
    have hlt := e.rxBufferFlits.isLt
    refine ⟨?_, h.in_use, h.traffic_eq⟩
    dsimp only
    rw [toNat_saturatingAdd (by omega)]
    apply hfits

/-- A channel is reset. -/
theorem Accounted.resetVc (h : e.Accounted 0) {vcid : Vcid} (he : e.resetVc vcid = .ok e') :
  e'.Accounted 0
  := by
  rw [DlpEndpoint.resetVc] at he
  split at he
  · cases he
  · cases he
    apply Accounted.setDesynchronized
    split
    · next s hs =>
      apply Accounted.releaseSegment
      apply h.setRx
      · rintro _ ⟨⟩
      · rw [hs, heldFlits, heldFlits, Nat.add_zero, Nat.zero_add]
    · apply h

/-! ### Sending does not touch the receiver -/

/-- The two endpoints differ in what they have to send, and with which credit, only. -/
def SameReceiver (e e' : DlpEndpoint) : Prop :=
  ∃ controlTxQueue controlTxCredit dataTxQueue dataTxCredit nextDataVc, e' =
    { e with controlTxQueue, controlTxCredit, dataTxQueue, dataTxCredit, nextDataVc }

theorem SameReceiver.refl (e : DlpEndpoint) :
  SameReceiver e e
  := ⟨_, _, _, _, _, rfl⟩

theorem SameReceiver.accounted (h : SameReceiver e e') (he : e.Accounted extra) :
  e'.Accounted extra
  := by
  obtain ⟨_, _, _, _, _, rfl⟩ := h
  exact he.congr rfl rfl rfl rfl

theorem sameReceiver_queuePacketOn {t : LinkTraffic} {vcid : Vcid} {packet : GdpPacket} {n : ℕ}
    (h : e.queuePacketOn t vcid packet = .ok (n, e')) :
  SameReceiver e e'
  := by
  obtain ⟨-, -, -, bytes, -, -, rfl⟩ := queuePacketOn_spec h
  cases t with
  | control => exact ⟨_, _, _, _, _, rfl⟩
  | data => exact ⟨_, _, _, _, _, rfl⟩

theorem sameReceiver_queueDataPacket (e : DlpEndpoint) (packet : GdpPacket) :
  SameReceiver e (e.queueDataPacket packet).2
  := by
  rw [queueDataPacket]
  dsimp only [chooseDataVc]
  split
  · next n e' h =>
    obtain ⟨_, _, _, _, _, rfl⟩ := sameReceiver_queuePacketOn h
    exact ⟨_, _, _, _, _, rfl⟩
  · exact ⟨_, _, _, _, _, rfl⟩

theorem sameReceiver_pollTxFrame {frame : Option GnetFrame}
    (h : e.pollTxFrame = .ok (frame, e')) :
  SameReceiver e e'
  := by
  rw [pollTxFrame] at h
  repeat' split at h
  all_goals cases h
  all_goals exact ⟨_, _, _, _, _, rfl⟩

theorem sameReceiver_pollTxBurst (e : DlpEndpoint) (room : ℕ) :
  SameReceiver e (e.pollTxBurst room).2
  := by
  rw [pollTxBurst]
  dsimp only
  split_ifs
  all_goals exact ⟨_, _, _, _, _, rfl⟩

theorem sameReceiver_pollTx (e : DlpEndpoint) :
  SameReceiver e e.pollTx.2
  := by
  have h := sameReceiver_pollTxBurst e 1
  rw [pollTx]
  split
  · next heq =>
    rw [heq] at h
    apply h
  · next heq =>
    rw [heq] at h
    apply h

/-! ### Receiving does not touch the sender -/

/-- The two endpoints differ in what they hold of unfinished packets only. -/
def SameGranted (e e' : DlpEndpoint) : Prop :=
  ∃ rx desynchronized dataRxInUse, e' = { e with rx, desynchronized, dataRxInUse }

theorem sameGranted_releaseSegment (e : DlpEndpoint) (t : LinkTraffic) (n : ℕ) :
  SameGranted e (e.releaseSegment t n)
  := by
  cases t with
  | control => exact ⟨_, _, _, rfl⟩
  | data => exact ⟨_, _, _, rfl⟩

theorem sameGranted_extendSegment (e : DlpEndpoint) (x : RxSegment) (flit : Flit) :
  SameGranted e (e.extendSegment x flit).2
  := by
  rw [extendSegment]
  split
  · exact ⟨_, _, _, rfl⟩
  split
  · exact ⟨_, _, _, rfl⟩
  rw [finishSegment]
  obtain ⟨_, _, _, hrelease⟩ := sameGranted_releaseSegment (e.setRx flit.vcid none)
    (x.push flit.data).traffic (x.push flit.data).receivedFlits
  rw [hrelease]
  split
  · exact ⟨_, _, _, rfl⟩
  · exact ⟨_, _, _, rfl⟩

theorem sameGranted_receiveSegment (e : DlpEndpoint) (flit : Flit) :
  SameGranted e (e.receiveSegment flit).2
  := by
  rw [receiveSegment]
  split
  · apply sameGranted_extendSegment
  split
  · apply sameGranted_extendSegment
  · obtain ⟨_, _, _, hrelease⟩ := sameGranted_releaseSegment e flit.vcid.traffic 1
    rw [hrelease]
    exact ⟨_, _, _, rfl⟩

theorem sameGranted_resetVc {vcid : Vcid} (h : e.resetVc vcid = .ok e') :
  SameGranted e e'
  := by
  rw [resetVc] at h
  split at h
  · cases h
  · cases h
    split
    · next x _ =>
      obtain ⟨_, _, _, hrelease⟩ := sameGranted_releaseSegment (e.setRx vcid none) x.traffic
        x.receivedFlits
      rw [hrelease]
      exact ⟨_, _, _, rfl⟩
    · exact ⟨_, _, _, rfl⟩

/-! ### What no operation changes -/

/-- The link of both endpoints is up or down alike, and they have the same configuration. -/
structure SameConfig (e e' : DlpEndpoint) : Prop where
  linkUp : e'.linkUp = e.linkUp
  cfg : e'.cfg = e.cfg
  vcMode : e'.vcMode = e.vcMode
  rxBufferFlits : e'.rxBufferFlits = e.rxBufferFlits

theorem SameConfig.refl (e : DlpEndpoint) :
  SameConfig e e
  := ⟨rfl, rfl, rfl, rfl⟩

theorem SameConfig.trans {e'' : DlpEndpoint} (h : SameConfig e e') (h' : SameConfig e' e'') :
  SameConfig e e''
  := ⟨h'.linkUp.trans h.linkUp, h'.cfg.trans h.cfg, h'.vcMode.trans h.vcMode,
    h'.rxBufferFlits.trans h.rxBufferFlits⟩

theorem SameReceiver.sameConfig (h : SameReceiver e e') :
  SameConfig e e'
  := by
  obtain ⟨_, _, _, _, _, rfl⟩ := h
  exact ⟨rfl, rfl, rfl, rfl⟩

theorem SameGranted.sameConfig (h : SameGranted e e') :
  SameConfig e e'
  := by
  obtain ⟨_, _, _, rfl⟩ := h
  exact ⟨rfl, rfl, rfl, rfl⟩

/-- The two endpoints differ in what they have received only. -/
def SameSender (e e' : DlpEndpoint) : Prop :=
  ∃ rx desynchronized dataRxInUse dataCreditOutstanding, e' =
    { e with rx, desynchronized, dataRxInUse, dataCreditOutstanding }

theorem SameSender.refl (e : DlpEndpoint) :
  SameSender e e
  := ⟨_, _, _, _, rfl⟩

theorem SameSender.trans {e'' : DlpEndpoint} (h : SameSender e e') (h' : SameSender e' e'') :
  SameSender e e''
  := by
  obtain ⟨_, _, _, _, rfl⟩ := h
  obtain ⟨_, _, _, _, rfl⟩ := h'
  exact ⟨_, _, _, _, rfl⟩

theorem SameGranted.sameSender (h : SameGranted e e') :
  SameSender e e'
  := by
  obtain ⟨_, _, _, rfl⟩ := h
  exact ⟨_, _, _, _, rfl⟩

theorem SameSender.sameConfig (h : SameSender e e') :
  SameConfig e e'
  := by
  obtain ⟨_, _, _, _, rfl⟩ := h
  exact ⟨rfl, rfl, rfl, rfl⟩

theorem SameSender.txCredit (h : SameSender e e') (t : LinkTraffic) :
  e'.txCredit t = e.txCredit t
  := by
  obtain ⟨_, _, _, _, rfl⟩ := h
  rfl

theorem sameSender_receive (e : DlpEndpoint) (flit : Flit) :
  SameSender e (e.receive flit).2
  := by
  rw [receive]
  split
  · apply SameSender.refl
  split
  · apply SameSender.refl
  split
  · apply SameSender.refl
  split
  · apply (sameGranted_receiveSegment e flit).sameSender
  split
  · next e' htake =>
    rw [takeDataFlit] at htake
    split at htake
    · cases htake
    split at htake
    · cases htake
    cases htake
    apply SameSender.trans _ (sameGranted_receiveSegment _ flit).sameSender
    exact ⟨_, _, _, _, rfl⟩
  · apply SameSender.refl

theorem sameSender_receiveBurst (e : DlpEndpoint) (flits : List Flit) (packets : List GdpPacket) :
  SameSender e (e.receiveBurst flits packets).2.2
  := by
  induction flits generalizing e packets with
  | nil => apply SameSender.refl
  | cons flit flits ih =>
    have hnext := sameSender_receive e flit
    rw [receiveBurst]
    split
    · next he =>
      rw [he] at hnext
      apply hnext
    · next e' he =>
      rw [he] at hnext
      apply hnext.trans (ih e' packets)
    · next packet e' he =>
      rw [he] at hnext
      have hrest := hnext.trans (ih e' (packets ++ [packet]))
      split
      · next heq =>
        rw [heq] at hrest
        apply hrest
      · next heq =>
        rw [heq] at hrest
        apply hrest

theorem decode_of_receiveFrame {frame : GnetFrame} {packet : GdpPacket}
    (h : (e.receiveFrame frame).1 = .ok packet) :
  GdpPacket.decode frame.bytes e.cfg e.localPrefix = .ok packet
  := by
  rw [receiveFrame] at h
  dsimp only at h
  repeat' split at h
  all_goals first
    | exact h
    | cases h

theorem sameSender_receiveFrame (e : DlpEndpoint) (frame : GnetFrame) :
  SameSender e (e.receiveFrame frame).2
  := by
  rw [receiveFrame]
  dsimp only
  repeat' split
  all_goals exact ⟨_, _, _, _, rfl⟩

/-- Only taking the link up or down changes these. -/
theorem sameConfig_step (e : DlpEndpoint) {op : Op} (hop : ∀ up, op ≠ .setLinkUp up) :
  SameConfig e (e.step op)
  := by
  cases op with
  | noteDataCreditGranted count =>
    rw [DlpEndpoint.step, DlpEndpoint.noteDataCreditGranted]
    split
    · apply SameConfig.refl
    · exact ⟨rfl, rfl, rfl, rfl⟩
  | grantDataTxCredit count => exact ⟨rfl, rfl, rfl, rfl⟩
  | grantControlTxCredit count => exact ⟨rfl, rfl, rfl, rfl⟩
  | setLocalPrefix localPrefix => exact ⟨rfl, rfl, rfl, rfl⟩
  | setLinkUp up => exact absurd rfl (hop up)
  | queuePacketOn t vcid packet =>
    rw [DlpEndpoint.step]
    cases he : e.queuePacketOn t vcid packet with
    | error err => apply SameConfig.refl
    | ok r => apply (sameReceiver_queuePacketOn he).sameConfig
  | queueDataPacket packet => apply (e.sameReceiver_queueDataPacket packet).sameConfig
  | pollTxFrame =>
    rw [DlpEndpoint.step]
    cases he : e.pollTxFrame with
    | error err => apply SameConfig.refl
    | ok r => apply (sameReceiver_pollTxFrame he).sameConfig
  | pollTxBurst room => apply (e.sameReceiver_pollTxBurst room).sameConfig
  | pollTx => apply e.sameReceiver_pollTx.sameConfig
  | receiveFrame frame => apply (sameSender_receiveFrame e frame).sameConfig
  | receive flit => apply (sameSender_receive e flit).sameConfig
  | receiveBurst flits => apply (sameSender_receiveBurst e flits []).sameConfig
  | resetVc vcid =>
    rw [DlpEndpoint.step]
    cases he : e.resetVc vcid with
    | error err => apply SameConfig.refl
    | ok e' => apply (sameGranted_resetVc he).sameConfig

/-! ### The credit of the sender -/

/-- The operation grants credit for the traffic. -/
def Op.grants (t : LinkTraffic) : Op → Bool
  | .grantDataTxCredit _ => t = .data
  | .grantControlTxCredit _ => t = .control
  | _ => false

theorem txCredit_queuePacketOn {t' : LinkTraffic} {vcid : Vcid} {packet : GdpPacket} {n : ℕ}
    (h : e.queuePacketOn t' vcid packet = .ok (n, e')) (t : LinkTraffic) :
  e'.txCredit t = e.txCredit t
  := by
  obtain ⟨-, -, -, bytes, -, -, rfl⟩ := queuePacketOn_spec h
  cases t' with
  | control => rfl
  | data => rfl

theorem txCredit_queueDataPacket (e : DlpEndpoint) (packet : GdpPacket) (t : LinkTraffic) :
  (e.queueDataPacket packet).2.txCredit t = e.txCredit t
  := by
  rw [queueDataPacket]
  dsimp only [chooseDataVc]
  split
  · next n e' h => apply txCredit_queuePacketOn h
  · rfl

theorem popSendableFrame_credit_le {queue queue' : List TxFrame} {credit credit' : U32}
    {frame : GnetFrame} (h : popSendableFrame queue credit = .ok (some (frame, queue', credit'))) :
  credit'.toNat ≤ credit.toNat
  := by
  rw [popSendableFrame.eq_def] at h
  repeat' split at h
  all_goals cases h
  next front rest _ hcredit _ _ =>
  rw [Nat.not_lt] at hcredit
  bv_omega

theorem txCredit_pollTxFrame {frame : Option GnetFrame} (h : e.pollTxFrame = .ok (frame, e'))
    (t : LinkTraffic) :
  (e'.txCredit t).toNat ≤ (e.txCredit t).toNat
  := by
  rw [pollTxFrame] at h
  repeat' split at h
  all_goals cases h
  · next hpop =>
    cases t with
    | control => apply popSendableFrame_credit_le hpop
    | data => apply Nat.le_refl
  · next hpop =>
    cases t with
    | control => apply Nat.le_refl
    | data => apply popSendableFrame_credit_le hpop
  · apply Nat.le_refl

theorem txCredit_pollTxBurst (e : DlpEndpoint) (room : ℕ) (t : LinkTraffic) :
  ((e.pollTxBurst room).2.txCredit t).toNat ≤ (e.txCredit t).toNat
  := by
  obtain ⟨-, hcontrol, -⟩ := emitQueueFlits_spec room e.controlTxQueue e.controlTxCredit
  obtain ⟨-, hdata, -⟩ := emitQueueFlits_spec
    (room - (emitQueueFlits room e.controlTxQueue e.controlTxCredit).1.length) e.dataTxQueue
    e.dataTxCredit
  have hle : (emitQueueFlits room e.controlTxQueue e.controlTxCredit).2.2.toNat
      ≤ e.controlTxCredit.toNat := hcontrol ▸ Nat.le_add_left _ _
  have hle' : (emitQueueFlits
      (room - (emitQueueFlits room e.controlTxQueue e.controlTxCredit).1.length) e.dataTxQueue
      e.dataTxCredit).2.2.toNat ≤ e.dataTxCredit.toNat := hdata ▸ Nat.le_add_left _ _
  rw [DlpEndpoint.pollTxBurst]
  dsimp only
  split_ifs
  · apply Nat.le_refl
  · apply Nat.le_refl
  all_goals
    cases t with
    | control => exact hle
    | data => exact hle'

theorem txCredit_pollTx (e : DlpEndpoint) (t : LinkTraffic) :
  (e.pollTx.2.txCredit t).toNat ≤ (e.txCredit t).toNat
  := by
  have h := e.txCredit_pollTxBurst 1 t
  rw [pollTx]
  split
  · next heq =>
    rw [heq] at h
    apply h
  · next heq =>
    rw [heq] at h
    apply h

/-- Only a grant brings credit for a kind of traffic. -/
theorem txCredit_step (e : DlpEndpoint) {t : LinkTraffic} {op : Op} (hop : op.grants t = false) :
  ((e.step op).txCredit t).toNat ≤ (e.txCredit t).toNat
  := by
  have hsame : ∀ {e'}, SameSender e e' → (e'.txCredit t).toNat ≤ (e.txCredit t).toNat :=
    fun h => Nat.le_of_eq (congrArg BitVec.toNat (h.txCredit t))
  cases op with
  | noteDataCreditGranted count =>
    rw [DlpEndpoint.step, DlpEndpoint.noteDataCreditGranted]
    split
    · apply Nat.le_refl
    · apply Nat.le_refl
  | grantDataTxCredit count =>
    cases t with
    | control => apply Nat.le_refl
    | data => cases hop
  | grantControlTxCredit count =>
    cases t with
    | control => cases hop
    | data => apply Nat.le_refl
  | setLocalPrefix localPrefix => apply Nat.le_refl
  | setLinkUp up =>
    cases up with
    | true => apply Nat.le_refl
    | false => cases t <;> apply Nat.zero_le
  | queuePacketOn t' vcid packet =>
    rw [DlpEndpoint.step]
    cases he : e.queuePacketOn t' vcid packet with
    | error err => apply Nat.le_refl
    | ok r => apply Nat.le_of_eq (congrArg BitVec.toNat (txCredit_queuePacketOn he t))
  | queueDataPacket packet =>
    apply Nat.le_of_eq (congrArg BitVec.toNat (e.txCredit_queueDataPacket packet t))
  | pollTxFrame =>
    rw [DlpEndpoint.step]
    cases he : e.pollTxFrame with
    | error err => apply Nat.le_refl
    | ok r => apply txCredit_pollTxFrame he
  | pollTxBurst room => apply txCredit_pollTxBurst
  | pollTx => apply txCredit_pollTx
  | receiveFrame frame => exact hsame (sameSender_receiveFrame e frame)
  | receive flit => exact hsame (sameSender_receive e flit)
  | receiveBurst flits => exact hsame (sameSender_receiveBurst e flits [])
  | resetVc vcid =>
    rw [DlpEndpoint.step]
    cases he : e.resetVc vcid with
    | error err => apply Nat.le_refl
    | ok e' => exact hsame (sameGranted_resetVc he).sameSender

/-! ### Every run -/

/-- Every operation keeps the account. -/
theorem Accounted.step (h : e.Accounted 0) (op : Op) :
  (e.step op).Accounted 0
  := by
  cases op with
  | noteDataCreditGranted count =>
    rw [DlpEndpoint.step]
    cases he : e.noteDataCreditGranted count with
    | error err => apply h
    | ok e' => apply h.noteDataCreditGranted he
  | grantDataTxCredit count => exact h.congr rfl rfl rfl rfl
  | grantControlTxCredit count => exact h.congr rfl rfl rfl rfl
  | setLocalPrefix localPrefix => exact h.congr rfl rfl rfl rfl
  | setLinkUp up =>
    cases up with
    | true => exact h.congr rfl rfl rfl rfl
    | false =>
      refine ⟨Nat.zero_le _, ?_, ?_⟩
      · simp [DlpEndpoint.step, setLinkUp, heldDataFlits, heldFlits]
      · rintro _ _ ⟨⟩
  | queuePacketOn t vcid packet =>
    rw [DlpEndpoint.step]
    cases he : e.queuePacketOn t vcid packet with
    | error err => apply h
    | ok r => apply (sameReceiver_queuePacketOn he).accounted h
  | queueDataPacket packet => apply (e.sameReceiver_queueDataPacket packet).accounted h
  | pollTxFrame =>
    rw [DlpEndpoint.step]
    cases he : e.pollTxFrame with
    | error err => apply h
    | ok r => apply (sameReceiver_pollTxFrame he).accounted h
  | pollTxBurst room => apply (e.sameReceiver_pollTxBurst room).accounted h
  | pollTx => apply e.sameReceiver_pollTx.accounted h
  | receiveFrame frame => apply h.receiveFrame
  | receive flit => apply h.receive
  | receiveBurst flits => apply h.receiveBurst
  | resetVc vcid =>
    rw [DlpEndpoint.step]
    cases he : e.resetVc vcid with
    | error err => apply h
    | ok e' => apply h.resetVc he

theorem accounted_of_new {config : DlpConfig} (h : new config = .ok e) :
  e.Accounted 0
  := by
  rw [new] at h
  split at h
  · cases h
  · cases h
    refine ⟨Nat.zero_le _, ?_, ?_⟩
    · simp [heldDataFlits, heldFlits]
    · rintro _ _ ⟨⟩

theorem Accounted.receiveExact (h : e.Accounted 0) (flit : Flit) :
  e.ReceiveExact flit
  := by
  rintro - e' he
  obtain ⟨h', hrx, hout, huse⟩ := h.takeDataFlit he
  have hheld := e'.heldFlits_le flit.vcid
  have huse' := h'.in_use
  have hlt := e'.dataRxInUse.isLt
  rw [hrx] at hheld
  refine ⟨hout, huse, ?_, ?_⟩
  · omega
  · omega

theorem Accounted.burstExact (h : e.Accounted 0) (flits : List Flit) :
  e.BurstExact flits
  := by
  induction flits generalizing e with
  | nil => trivial
  | cons flit flits ih => exact ⟨h.receiveExact flit, ih (h.receive flit)⟩

/-- In every state in which the account is right, every operation is exact. -/
theorem Accounted.exact (h : e.Accounted 0) (op : Op) :
  e.Exact op
  := by
  cases op with
  | noteDataCreditGranted count =>
    intro hcount
    have hfits := h.grant_fits hcount
    have hlt := e.rxBufferFlits.isLt
    omega
  | receiveFrame frame =>
    intro _ hcount
    apply (h.frame_fits hcount).2
  | receive flit => apply h.receiveExact
  | receiveBurst flits => apply h.burstExact
  | resetVc vcid =>
    have hheld := e.heldFlits_le vcid
    have huse := h.in_use
    have hlt := e.dataRxInUse.isLt
    refine ⟨?_, ?_⟩
    · omega
    · omega
  | _ => trivial

theorem decodeAddresses_ne (buf : Bytes) (word : U32) (localPrefix : U64) (form : AddressForm) :
  GdpHeader.decodeAddresses buf word localPrefix form ≠ .error .bufferFull
  := by
  cases form with
  | «global» =>
    rw [GdpHeader.decodeAddresses]
    split
    · simp
    · simp
  | «local» =>
    rw [GdpHeader.decodeAddresses]
    split
    · simp
    · simp

theorem fromWire_ne (v : U8) :
  SizeClass.fromWire v ≠ .error .bufferFull
  := by
  rw [SizeClass.fromWire]
  split
  · simp
  · simp

/-- What is wrong with a packet is never that a buffer is full. -/
theorem decode_ne (buf : Bytes) (cfg : GdpWireConfig) (localPrefix : U64) :
  GdpPacket.decode buf cfg localPrefix ≠ .error .bufferFull
  := by
  intro h
  rw [GdpPacket.decode, bind_eq_error] at h
  rcases h with h | ⟨header, -, h⟩
  · rw [GdpHeader.decode] at h
    split at h
    · cases h
    · rw [bind_eq_error] at h
      rcases h with h | ⟨size, -, h⟩
      · apply fromWire_ne _ h
      · rw [bind_eq_error] at h
        rcases h with h | ⟨_, -, h⟩
        · apply decodeAddresses_ne _ _ _ _ h
        · dsimp only at h
          split at h
          · cases h
          · cases h
  · dsimp only at h
    split at h
    · cases h
    · cases h

theorem receiveSegment_ne (e : DlpEndpoint) (flit : Flit) :
  (e.receiveSegment flit).1 ≠ .error .bufferFull
  := by
  have hextend : ∀ s, (e.extendSegment s flit).1 ≠ .error .bufferFull := by
    intro s
    rw [extendSegment]
    split
    · simp
    split
    · simp
    rw [finishSegment]
    split
    · simp
    · next err herr =>
      intro h
      cases h
      apply decode_ne _ _ _ herr
  rw [receiveSegment]
  split
  · apply hextend
  · split
    · apply hextend
    · next err herr =>
      intro h
      cases h
      rw [openSegment] at herr
      split at herr
      · next hsize =>
        cases herr
        apply fromWire_ne _ hsize
      · cases herr

/-- A flit is never refused for want of room. -/
theorem Accounted.receive_ne (h : e.Accounted 0) (flit : Flit) :
  (e.receive flit).1 ≠ .error .bufferFull
  := by
  rw [DlpEndpoint.receive]
  split
  · simp
  split
  · simp
  split
  · simp
  split
  · apply receiveSegment_ne
  · split
    · apply receiveSegment_ne
    · next err herr =>
      intro heq
      cases heq
      apply h.takeDataFlit_ne herr

/-- A frame is never refused for want of room. -/
theorem Accounted.receiveFrame_ne (h : e.Accounted 0) (frame : GnetFrame) :
  (e.receiveFrame frame).1 ≠ .error .bufferFull
  := by
  rw [DlpEndpoint.receiveFrame]
  split
  · simp
  split
  · simp
  split
  · simp
  split
  · simp
  dsimp only
  split
  · apply decode_ne
  · split
    · simp
    · next hcredit =>
      rw [if_neg (BitVec.not_lt.mpr (h.frame_fits (BitVec.not_lt.mp hcredit)).1)]
      apply decode_ne

/-- In every run of an endpoint, on arbitrary flits and frames, the credit given and the
room in use fit into the buffer, the room in use is what unfinished packets hold, no
operation on these counters leaves their range, and nothing is refused for want of room. -/
theorem credit_accounted {config : DlpConfig} (h : new config = .ok e) (ops : List Op) :
  let e' := Machine.run step e ops
  e'.dataCreditOutstanding.toNat + e'.dataRxInUse.toNat ≤ e'.rxBufferFlits.toNat ∧
    e'.dataRxInUse.toNat = e'.heldDataFlits ∧ (∀ op, e'.Exact op) ∧
    (∀ flit, (e'.receive flit).1 ≠ .error .bufferFull) ∧
    ∀ frame, (e'.receiveFrame frame).1 ≠ .error .bufferFull
  := by
  have haccounted := Machine.invariant_run (P := fun e => Accounted e 0)
    (fun e op h => h.step op) (accounted_of_new h) ops
  exact ⟨haccounted.room, haccounted.in_use, haccounted.exact, haccounted.receive_ne,
    haccounted.receiveFrame_ne⟩

/-- Credit is given for five flits; two of the three flits of a packet arrive, then both flits
of a damaged packet on another channel. -/
theorem credit_accounted_partial :
  let config : DlpConfig := ⟨⟨true⟩, 0#64, .four, 8#32, 32#32⟩
  let ops : List Op :=
    [.noteDataCreditGranted 5#32, .receive ⟨1, 0x00600000#32⟩, .receive ⟨1, 0#32⟩,
      .receive ⟨2, 0x00200000#32⟩, .receive ⟨2, 0#32⟩]
  ∃ e, new config = .ok e ∧
    (Machine.run step e ops).dataCreditOutstanding = 1#32 ∧
    (Machine.run step e ops).dataRxInUse = 2#32 ∧
    (Machine.run step e ops).dataRxInUse.toNat = (Machine.run step e ops).heldDataFlits
  := by
  intro config ops
  refine ⟨_, rfl, ?_, ?_, ?_⟩
  · decide +kernel
  · decide +kernel
  · exact (@credit_accounted _ config rfl ops).2.1

end DlpEndpoint

end SmolGnet
