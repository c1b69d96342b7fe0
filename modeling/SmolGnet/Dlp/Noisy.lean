import SmolGnet.Dlp.Credit

/-!
# Credit over a link that damages flits

A `NoisyLink` is an endpoint that sends, an endpoint that receives, the flits in flight
between them and the grants of credit on their way back.  Flits arrive in order, but the
words in them may have changed, so packets may fail to decode.

The credit that the receiver has given and not seen used is the credit on its way to the
sender, that of the sender, and the data flits in flight, exactly as long as no data flit
arrives on a channel that is desynchronized (or that the receiver does not have): such a
flit is rejected before it is accounted for, and the credit that the sender has paid for it
never comes back.
-/

namespace SmolGnet

/-- A sender, a receiver and what is between them. -/
structure NoisyLink where
  a : DlpEndpoint
  b : DlpEndpoint
  flits : List Flit
  grants : List U32

namespace NoisyLink

/-- What the endpoints and the channel can do.  The flit that is delivered carries a word
that need not be the one that was sent. -/
inductive Action where
  | queuePacketOn (traffic : LinkTraffic) (vcid : Vcid) (packet : GdpPacket)
  | queueData (packet : GdpPacket)
  | noteCredit (count : U32)
  | grantData (i : ℕ)
  | grantControl (count : U32)
  | pollTxBurst (room : ℕ)
  | deliver (data : U32)
  | resetVc (vcid : Vcid)
  deriving DecidableEq

/-- Two endpoints before the first packet. -/
def init (a b : DlpEndpoint) : NoisyLink where
  a := a
  b := b
  flits := []
  grants := []

/-- The receiver notes a grant of credit, which is then on its way. -/
def noteCredit (s : NoisyLink) (count : U32) : NoisyLink :=
  match s.b.noteDataCreditGranted count with
  | .ok b => { s with b, grants := s.grants ++ [count] }
  | .error _ => s

/-- A grant of credit reaches the sender. -/
def grantData (s : NoisyLink) (i : ℕ) : NoisyLink :=
  match s.grants[i]? with
  | some count => { s with a := s.a.grantDataTxCredit count, grants := s.grants.eraseIdx i }
  | none => s

/-- The sender is polled with a buffer of `room` flits. -/
def pollTxBurst (s : NoisyLink) (room : ℕ) : NoisyLink :=
  match s.a.pollTxBurst room with
  | (.ok flits, a) => { s with a, flits := s.flits ++ flits }
  | (.error _, a) => { s with a }

/-- The first flit in flight is delivered, with the given word. -/
def deliver (s : NoisyLink) (data : U32) : NoisyLink :=
  match s.flits with
  | [] => s
  | flit :: flits => { s with b := (s.b.receive ⟨flit.vcid, data⟩).2, flits }

/-- One step. -/
def step (s : NoisyLink) : Action → NoisyLink
  | .queuePacketOn traffic vcid packet =>
    { s with a := s.a.step (.queuePacketOn traffic vcid packet) }
  | .queueData packet => { s with a := s.a.step (.queueDataPacket packet) }
  | .noteCredit count => s.noteCredit count
  | .grantData i => s.grantData i
  | .grantControl count => { s with a := s.a.grantControlTxCredit count }
  | .pollTxBurst room => s.pollTxBurst room
  | .deliver data => s.deliver data
  | .resetVc vcid => { s with b := s.b.step (.resetVc vcid) }

/-- The credit that is not with the receiver: on its way to the sender, with the sender, or
paid for a data flit that is in flight. -/
def spent (s : NoisyLink) : ℕ :=
  (s.grants.map BitVec.toNat).sum + s.a.dataTxCredit.toNat +
    (s.flits.filter (fun flit => flit.vcid.traffic = .data)).length

/-- The credit that the receiver has given is all accounted for. -/
def Balanced (s : NoisyLink) : Prop :=
  s.b.dataCreditOutstanding.toNat = s.spent

instance (s : NoisyLink) : Decidable s.Balanced :=
  inferInstanceAs (Decidable (_ = _))

/-- When the last channel that holds something is reset, the whole buffer can be granted,
apart from the credit that is still out. -/
def Recovers (s : NoisyLink) : Prop :=
  ∀ vcid b, s.b.resetVc vcid = .ok b → (∀ v, v ≠ vcid → s.b.rx v = none) →
    b.grantableDataCredit.toNat + s.spent = b.rxBufferFlits.toNat

/-- A data flit that arrives is on a channel that the receiver has and that is not
desynchronized. -/
def NotDropped (s : NoisyLink) : Action → Prop
  | .deliver _ => ∀ flit ∈ s.flits.head?, flit.vcid.traffic = .data →
    flit.vcid.val < s.b.vcMode.count ∧ s.b.desynchronized flit.vcid = false
  | _ => True

instance (s : NoisyLink) : ∀ action, Decidable (s.NotDropped action)
  | .deliver _ => inferInstanceAs (Decidable (∀ flit ∈ s.flits.head?, _ → _))
  | .queuePacketOn .. => isTrue trivial
  | .queueData _ => isTrue trivial
  | .noteCredit _ => isTrue trivial
  | .grantData _ => isTrue trivial
  | .grantControl _ => isTrue trivial
  | .pollTxBurst _ => isTrue trivial
  | .resetVc _ => isTrue trivial

/-! ### What does not depend on the noise -/

/-- The sender's queues hold flits of the right traffic, and the receiver's account is
right. -/
structure Inv (s : NoisyLink) : Prop where
  a_up : s.a.linkUp
  b_up : s.b.linkUp
  next_vc : s.a.nextDataVc.traffic = .data
  control : ∀ flit ∈ queueRest s.a.controlTxQueue, flit.vcid.traffic = .control
  data : ∀ flit ∈ queueRest s.a.dataTxQueue, flit.vcid.traffic = .data
  accounted : s.b.Accounted 0

variable {s : NoisyLink}

theorem inv_init {configA configB : DlpConfig} {a b : DlpEndpoint}
    (ha : DlpEndpoint.new configA = .ok a) (hb : DlpEndpoint.new configB = .ok b) :
  (init a b).Inv
  := by
  have haccounted := DlpEndpoint.accounted_of_new hb
  rw [DlpEndpoint.new] at ha hb
  split at ha
  · cases ha
  split at hb
  · cases hb
  cases ha
  cases hb
  refine ⟨rfl, rfl, rfl, ?_, ?_, haccounted⟩
  · simp [init, queueRest]
  · simp [init, queueRest]

/-- What an accepted packet adds to the queues. -/
theorem queuePacketOn_eq {e e' : DlpEndpoint} {t : LinkTraffic} {vcid : Vcid} {packet : GdpPacket}
    {n : ℕ} (h : e.queuePacketOn t vcid packet = .ok (n, e')) :
  vcid.traffic = t ∧ ∃ frame : TxFrame, frame.vcid = vcid ∧
    (t = .control ∧ e' = { e with controlTxQueue := e.controlTxQueue ++ [frame] } ∨
      t = .data ∧ e' = { e with dataTxQueue := e.dataTxQueue ++ [frame] })
  := by
  obtain ⟨-, -, ht, bytes, -, -, rfl⟩ := DlpEndpoint.queuePacketOn_spec h
  refine ⟨ht, { vcid, traffic := t, bytes, flitOffset := 0 }, rfl, ?_⟩
  cases t with
  | control => exact Or.inl ⟨rfl, rfl⟩
  | data => exact Or.inr ⟨rfl, rfl⟩

/-- The flits of a queue with one more frame. -/
theorem forall_queueRest_append {queue : List TxFrame} {frame : TxFrame} {t : LinkTraffic}
    (hqueue : ∀ flit ∈ queueRest queue, flit.vcid.traffic = t) (hframe : frame.vcid.traffic = t) :
  ∀ flit ∈ queueRest (queue ++ [frame]), flit.vcid.traffic = t
  := by
  intro flit hflit
  rw [queueRest, List.flatMap_append, List.flatMap_singleton] at hflit
  rcases List.mem_append.mp hflit with hmem | hmem
  · apply hqueue flit hmem
  · rw [TxFrame.vcid_of_mem_flits (List.mem_of_mem_drop hmem)]
    apply hframe

theorem Inv.queuePacketOn (h : s.Inv) (t : LinkTraffic) (vcid : Vcid) (packet : GdpPacket) :
  Inv { s with a := s.a.step (.queuePacketOn t vcid packet) } ∧
    (s.a.step (.queuePacketOn t vcid packet)).dataTxCredit = s.a.dataTxCredit
  := by
  rw [DlpEndpoint.step]
  cases hq : s.a.queuePacketOn t vcid packet with
  | error err => exact ⟨h, rfl⟩
  | ok r =>
    obtain ⟨n, e⟩ := r
    obtain ⟨ht, frame, rfl, ⟨rfl, rfl⟩ | ⟨rfl, rfl⟩⟩ := queuePacketOn_eq hq
    · exact ⟨{ h with control := forall_queueRest_append h.control ht }, rfl⟩
    · exact ⟨{ h with data := forall_queueRest_append h.data ht }, rfl⟩

theorem Inv.queueData (h : s.Inv) (packet : GdpPacket) :
  Inv { s with a := s.a.step (.queueDataPacket packet) } ∧
    (s.a.step (.queueDataPacket packet)).dataTxCredit = s.a.dataTxCredit
  := by
  have hnext := (DlpEndpoint.succDataVc_spec s.a.vcMode s.a.nextDataVc).1
  have hchoose : Inv { s with a := s.a.chooseDataVc.2 } := { h with next_vc := hnext }
  rw [DlpEndpoint.step, DlpEndpoint.queueDataPacket]
  obtain ⟨hinv, hcredit⟩ := hchoose.queuePacketOn .data s.a.chooseDataVc.1 packet
  rw [DlpEndpoint.step] at hinv hcredit
  cases hq : s.a.chooseDataVc.2.queuePacketOn .data s.a.chooseDataVc.1 packet with
  | error err =>
    simp only [hq] at hinv hcredit ⊢
    exact ⟨hinv, hcredit⟩
  | ok r =>
    simp only [hq] at hinv hcredit ⊢
    exact ⟨hinv, hcredit⟩

/-- Flits are sent: a data flit for each credit that is used. -/
theorem Inv.pollTxBurst (h : s.Inv) (room : ℕ) :
  (s.pollTxBurst room).Inv ∧ (s.pollTxBurst room).spent = s.spent ∧
    (s.pollTxBurst room).b = s.b
  := by
  obtain ⟨cf, df, cq, cc, dq, dc, hnext, hflits, hcontrol, hdata, hcredit, -⟩ :=
    DlpEndpoint.pollTxBurst_spec h.a_up room
  have hc : ∀ flit ∈ cf, flit.vcid.traffic = .control := by
    intro flit hflit
    apply h.control
    rw [hcontrol]
    apply List.mem_append_left _ hflit
  have hd : ∀ flit ∈ df, flit.vcid.traffic = .data := by
    intro flit hflit
    apply h.data
    rw [hdata]
    apply List.mem_append_left _ hflit
  have hinv : ∀ flits, Inv { s with a := (s.a.pollTxBurst room).2, flits } := by
    intro flits
    rw [hnext]
    refine { h with control := ?_, data := ?_ }
    · intro flit hflit
      apply h.control
      rw [hcontrol]
      apply List.mem_append_right _ hflit
    · intro flit hflit
      apply h.data
      rw [hdata]
      apply List.mem_append_right _ hflit
  have hspent : spent { s with a := (s.a.pollTxBurst room).2, flits := s.flits ++ (cf ++ df) }
      = s.spent := by
    have hfilter : (cf ++ df).filter (fun flit => flit.vcid.traffic = .data) = df := by
      rw [List.filter_append, List.filter_eq_nil_iff.mpr (by simp +contextual [hc]),
        List.filter_eq_self.mpr (by simpa using hd), List.nil_append]
    rw [hnext]
    simp only [spent, List.filter_append s.flits, hfilter, List.length_append]
    omega
  rw [NoisyLink.pollTxBurst]
  rcases hflits with hok | ⟨hnil, err, herr⟩
  · rw [show s.a.pollTxBurst room = (.ok (cf ++ df), (s.a.pollTxBurst room).2) from Prod.ext hok rfl]
    exact ⟨hinv _, hspent, rfl⟩
  · rw [hnil, List.append_nil] at hspent
    rw [show s.a.pollTxBurst room = (.error err, (s.a.pollTxBurst room).2) from Prod.ext herr rfl]
    exact ⟨hinv _, hspent, rfl⟩

/-! ### What a flit changes of the credit given -/

/-- A flit that arrives is counted against the credit given exactly when it is a data flit on
a channel that the endpoint has and that is not desynchronized. -/
theorem receive_outstanding {e : DlpEndpoint} (hup : e.linkUp) (haccounted : e.Accounted 0)
    (flit : Flit) (hcredit : flit.vcid.traffic = .data → 1 ≤ e.dataCreditOutstanding.toNat) :
  (e.receive flit).2.dataCreditOutstanding.toNat +
    (if flit.vcid.traffic = .data ∧ flit.vcid.val < e.vcMode.count ∧
      e.desynchronized flit.vcid = false then 1 else 0) = e.dataCreditOutstanding.toNat
  := by
  rw [DlpEndpoint.receive, if_neg (by simp [hup])]
  split
  · next hcount =>
    rw [if_neg (fun h => Nat.not_lt.mpr hcount h.2.1), Nat.add_zero]
  next hcount =>
  split
  · next hdesync =>
    rw [if_neg (by simp [hdesync]), Nat.add_zero]
  next hdesync =>
  split
  · next ht =>
    obtain ⟨_, _, _, hsame⟩ := DlpEndpoint.sameGranted_receiveSegment e flit
    rw [hsame, if_neg (by simp [ht]), Nat.add_zero]
  · next ht =>
    have hpaid := hcredit ht
    cases htake : e.takeDataFlit with
    | error err =>
      exfalso
      rw [DlpEndpoint.takeDataFlit, if_neg (by bv_omega)] at htake
      split at htake
      · next hfull =>
        apply haccounted.takeDataFlit_ne
        rw [DlpEndpoint.takeDataFlit, if_neg (by bv_omega), if_pos hfull]
      · cases htake
    | ok e' =>
      obtain ⟨_, _, _, hsame⟩ := DlpEndpoint.sameGranted_receiveSegment e' flit
      rw [DlpEndpoint.takeDataFlit, if_neg (by bv_omega)] at htake
      split at htake
      · cases htake
      cases htake
      dsimp only
      rw [hsame, if_pos ⟨ht, Nat.not_le.mp hcount, by simpa using hdesync⟩]
      dsimp only
      bv_omega

theorem resetVc_rx {e e' : DlpEndpoint} {vcid : Vcid} (h : e.resetVc vcid = .ok e') :
  e'.rx = Function.update e.rx vcid none
  := by
  rw [DlpEndpoint.resetVc] at h
  split at h
  · cases h
  · cases h
    split
    · next x _ =>
      cases hx : x.traffic with
      | control => rfl
      | data => rfl
    · next hnone =>
      rw [← hnone, Function.update_eq_self]
      rfl

/-! ### Every step -/

theorem Inv.noteCredit (h : s.Inv) (count : U32) :
  (s.noteCredit count).Inv ∧ (s.Balanced → (s.noteCredit count).Balanced)
  := by
  rw [NoisyLink.noteCredit]
  cases hnote : s.b.noteDataCreditGranted count with
  | error err => exact ⟨h, id⟩
  | ok b =>
    have haccounted := h.accounted.noteDataCreditGranted hnote
    rw [DlpEndpoint.noteDataCreditGranted] at hnote
    split at hnote
    · cases hnote
    next hgrantable =>
    cases hnote
    have hfits := h.accounted.grant_fits (BitVec.not_lt.mp hgrantable)
    have hlt := s.b.rxBufferFlits.isLt
    refine ⟨{ h with b_up := h.b_up, accounted := haccounted }, ?_⟩
    intro hbalanced
    rw [Balanced, spent] at hbalanced ⊢
    dsimp only
    rw [toNat_saturatingAdd (by omega), hbalanced, List.map_append, List.sum_append]
    simp only [List.map_cons, List.map_nil, List.sum_cons, List.sum_nil]
    omega

theorem Inv.grantData (h : s.Inv) (i : ℕ) :
  (s.grantData i).Inv ∧ (s.Balanced → (s.grantData i).Balanced)
  := by
  rw [NoisyLink.grantData]
  split
  · next count hcount =>
    have hsum := DlpLink.sum_eraseIdx hcount
    refine ⟨{ h with }, ?_⟩
    intro hbalanced
    have hlt := s.b.dataCreditOutstanding.isLt
    rw [Balanced, spent] at hbalanced ⊢
    dsimp only [DlpEndpoint.grantDataTxCredit]
    rw [toNat_saturatingAdd (by omega)]
    omega
  · exact ⟨h, id⟩

/-- A flit arrives. -/
theorem Inv.deliver (h : s.Inv) (hbalanced : s.Balanced) (data : U32) :
  (s.deliver data).Balanced ↔ s.NotDropped (.deliver data)
  := by
  rw [NoisyLink.deliver, NotDropped]
  split
  · next hflits =>
    simp [hflits, hbalanced]
  · next flit flits hflits =>
    have hspent := hbalanced
    rw [Balanced, spent, hflits, List.filter_cons] at hspent
    have hcredit : flit.vcid.traffic = .data → 1 ≤ s.b.dataCreditOutstanding.toNat := by
      intro ht
      rw [if_pos (by simpa using ht), List.length_cons] at hspent
      omega
    have hout := receive_outstanding h.b_up h.accounted ⟨flit.vcid, data⟩ hcredit
    rw [Balanced, spent, hflits]
    simp only [List.head?_cons, Option.mem_some_iff, forall_eq']
    by_cases ht : flit.vcid.traffic = .data
    · rw [if_pos (by simpa using ht), List.length_cons] at hspent
      simp only [ht, true_and, forall_const] at hout ⊢
      split at hout
      · next hkept =>
        refine iff_of_true ?_ hkept
        omega
      · next hdropped =>
        refine iff_of_false ?_ hdropped
        omega
    · rw [if_neg (by simpa using ht)] at hspent
      simp only [ht, false_and, if_false, Nat.add_zero, false_imp_iff, iff_true] at hout ⊢
      rw [hout, hspent]

/-- No step breaks what does not depend on the noise. -/
theorem Inv.step (h : s.Inv) (action : Action) :
  (s.step action).Inv
  := by
  cases action with
  | queuePacketOn t vcid packet => apply (h.queuePacketOn t vcid packet).1
  | queueData packet => apply (h.queueData packet).1
  | noteCredit count => apply (h.noteCredit count).1
  | grantData i => apply (h.grantData i).1
  | grantControl count => exact { h with }
  | pollTxBurst room => apply (h.pollTxBurst room).1
  | deliver data =>
    rw [NoisyLink.step, NoisyLink.deliver]
    split
    · apply h
    · next flit flits hflits =>
      refine { h with b_up := ?_, accounted := h.accounted.receive _ }
      rw [(DlpEndpoint.sameSender_receive s.b _).sameConfig.linkUp]
      apply h.b_up
  | resetVc vcid =>
    rw [NoisyLink.step, DlpEndpoint.step]
    cases hreset : s.b.resetVc vcid with
    | error err => apply h
    | ok b =>
      have haccounted := h.accounted.resetVc hreset
      obtain ⟨_, _, _, rfl⟩ := DlpEndpoint.sameGranted_resetVc hreset
      exact { h with b_up := h.b_up, accounted := haccounted }

/-- A step keeps the balance exactly when it does not drop a data flit. -/
theorem Inv.balanced_step_iff (h : s.Inv) (hbalanced : s.Balanced) (action : Action) :
  (s.step action).Balanced ↔ s.NotDropped action
  := by
  cases action with
  | deliver data => apply h.deliver hbalanced data
  | queuePacketOn t vcid packet =>
    refine iff_of_true ?_ trivial
    rw [Balanced, spent] at hbalanced ⊢
    rw [NoisyLink.step, (h.queuePacketOn t vcid packet).2]
    apply hbalanced
  | queueData packet =>
    refine iff_of_true ?_ trivial
    rw [Balanced, spent] at hbalanced ⊢
    rw [NoisyLink.step, (h.queueData packet).2]
    apply hbalanced
  | noteCredit count => exact iff_of_true ((h.noteCredit count).2 hbalanced) trivial
  | grantData i => exact iff_of_true ((h.grantData i).2 hbalanced) trivial
  | grantControl count => exact iff_of_true hbalanced trivial
  | pollTxBurst room =>
    obtain ⟨-, hspent, hb⟩ := h.pollTxBurst room
    refine iff_of_true ?_ trivial
    rw [NoisyLink.step, Balanced, hspent, hb]
    apply hbalanced
  | resetVc vcid =>
    refine iff_of_true ?_ trivial
    rw [NoisyLink.step, DlpEndpoint.step]
    cases hreset : s.b.resetVc vcid with
    | error err => apply hbalanced
    | ok b =>
      obtain ⟨_, _, _, rfl⟩ := DlpEndpoint.sameGranted_resetVc hreset
      apply hbalanced

/-- When the account is right and balanced, a reset gives the whole buffer back. -/
theorem Inv.recovers (h : s.Inv) (hbalanced : s.Balanced) :
  s.Recovers
  := by
  intro vcid b hreset hothers
  have haccounted := h.accounted.resetVc hreset
  have hempty : b.heldDataFlits = 0 := by
    rw [DlpEndpoint.heldDataFlits]
    apply Finset.sum_eq_zero
    intro v _
    rw [resetVc_rx hreset, Function.update_apply]
    split
    · rfl
    · next hv => rw [hothers v hv]; rfl
  have hroom := haccounted.room
  have huse := haccounted.in_use
  have hout : b.dataCreditOutstanding = s.b.dataCreditOutstanding := by
    obtain ⟨_, _, _, rfl⟩ := DlpEndpoint.sameGranted_resetVc hreset
    rfl
  rw [Balanced, ← hout] at hbalanced
  rw [DlpEndpoint.grantableDataCredit, DlpEndpoint.availableRxFlits, toNat_saturatingSub,
    toNat_saturatingSub]
  omega

theorem balanced_init {configA configB : DlpConfig} {a b : DlpEndpoint}
    (ha : DlpEndpoint.new configA = .ok a) (hb : DlpEndpoint.new configB = .ok b) :
  (init a b).Balanced
  := by
  rw [DlpEndpoint.new] at ha hb
  split at ha
  · cases ha
  split at hb
  · cases hb
  cases ha
  cases hb
  rfl

/-- In a run over a link that damages flits, the credit given is accounted for in every
state, and a reset gives the whole buffer back, exactly when no data flit ever arrives on a
channel that is desynchronized or that the receiver does not have. -/
theorem balanced_iff_notDropped {configA configB : DlpConfig} {a b : DlpEndpoint}
    (ha : DlpEndpoint.new configA = .ok a) (hb : DlpEndpoint.new configB = .ok b)
    (actions : List Action) :
  (∀ start, start <+: actions →
    (Machine.run step (init a b) start).Balanced ∧
    (Machine.run step (init a b) start).Recovers) ↔
    Machine.Along step NotDropped (init a b) actions
  := by
  have hinv := inv_init ha hb
  have hiff : (∀ start, start <+: actions → (Machine.run step (init a b) start).Balanced) ↔
      Machine.Along step NotDropped (init a b) actions :=
    Machine.forall_isPrefix_iff_along (I := Inv) (fun _ action h => h.step action)
      (fun _ action h hbalanced => (h.balanced_step_iff hbalanced action).mpr)
      (fun _ action h hbalanced => (h.balanced_step_iff hbalanced action).mp)
      hinv (balanced_init ha hb)
  rw [← hiff]
  constructor
  · intro h start hstart
    apply (h start hstart).1
  · intro h start hstart
    use h start hstart
    apply (Machine.invariant_run (fun _ action h => h.step action) hinv start).recovers
    apply h start hstart

/-- Both flits of a packet are damaged, its channel is reset, and a second packet arrives on
another channel. -/
theorem balanced_iff_notDropped_reset :
  let config : DlpConfig := ⟨⟨true⟩, 0#64, .four, 8#32, 32#32⟩
  let packet : GdpPacket := ⟨⟨0#8, .gts, .empty, 1#8, .local 1#16 2#16 0#64⟩, []⟩
  let actions : List Action :=
    [.noteCredit 8#32, .grantData 0, .queueData packet, .pollTxBurst 2, .deliver 0x00200000#32,
      .deliver 0#32, .resetVc 1, .queueData packet, .pollTxBurst 1]
  ∃ e, DlpEndpoint.new config = .ok e ∧
    (Machine.run step (init e e) (actions.take 6)).b.desynchronized 1 = true ∧
    Machine.Along step NotDropped (init e e) actions ∧
    (Machine.run step (init e e) actions).Balanced ∧
    (Machine.run step (init e e) actions).Recovers
  := by
  intro config packet actions
  have halong : ∀ e, DlpEndpoint.new config = .ok e →
      Machine.Along step NotDropped (init e e) actions := by
    rintro e ⟨⟩
    decide +kernel
  refine ⟨_, rfl, by decide +kernel, halong _ rfl, ?_⟩
  apply (@balanced_iff_notDropped config config _ _ rfl rfl actions).mpr (halong _ rfl)
  apply List.prefix_refl

/-- A packet is damaged, and the first flit of the next one arrives before the channel is
reset.  Credit for six flits is all that can be granted or is with the sender afterwards. -/
theorem leaked_by_desynchronized :
  let config : DlpConfig := ⟨⟨true⟩, 0#64, .two, 8#32, 32#32⟩
  let packet : GdpPacket := ⟨⟨0#8, .gts, .empty, 1#8, .local 1#16 2#16 0#64⟩, []⟩
  let actions : List Action :=
    [.noteCredit 4#32, .grantData 0, .queueData packet, .queueData packet, .pollTxBurst 4,
      .deliver 0x00200000#32, .deliver 0#32, .deliver 0x00200000#32, .deliver 0#32, .resetVc 1]
  ∃ e, DlpEndpoint.new config = .ok e ∧
    ¬ (Machine.run step (init e e) actions).Balanced ∧
    (Machine.run step (init e e) actions).spent = 0 ∧
    (Machine.run step (init e e) actions).b.heldDataFlits = 0 ∧
    (Machine.run step (init e e) actions).b.grantableDataCredit = 6#32 ∧
    (Machine.run step (init e e) actions).b.rxBufferFlits = 8#32
  := by
  intro config packet actions
  refine ⟨_, rfl, ?_⟩
  decide +kernel

end NoisyLink

end SmolGnet
