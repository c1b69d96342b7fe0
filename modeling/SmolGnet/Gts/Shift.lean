import SmolGnet.Gts.Window
import SmolGnet.Gts.Stream
import SmolGnet.Library.Machine
import SmolGnet.Library.Rename
import SmolGnet.Library.Serial

/-!
# Streams that start from another sequence number

Sequence numbers are advanced modulo `2 ^ 32`, so a stream should behave the same from whichever number
it starts.  The distance of two numbers, and whether they are equal, is the same wherever the stream
started.  But in some places numbers are compared by their order: an arriving message with the expected
one, a message that was sent with the base of an acknowledgement, a datagram with the one that overtook
it, and the messages that are due with each other, by the map that holds them.  There the behaviour is
the same as long as both numbers have wrapped, or neither has.
-/

namespace SmolGnet

open Serial

/-- The packet of the stream that started from `k`. -/
def GtsPacket.shift (k : U32) : GtsPacket → GtsPacket
  | .data tunnelId streamId sequence bytes isEnd => .data tunnelId streamId (sequence + k) bytes isEnd
  | .datagram tunnelId streamId sequence bytes =>
    .datagram tunnelId streamId (sequence.map (fun seq => seq + k)) bytes
  | .ack tunnelId streamId base bitmap credit => .ack tunnelId streamId (base + k) bitmap credit
  | packet => packet

/-- The acknowledgement for the stream that started from `k`. -/
def Ack.shift (k : U32) (a : Ack) : Ack :=
  { a with base := a.base + k }

/-- The bitmap of an acknowledgement names the message. -/
def selected (base bitmap seq : U32) : Bool :=
  decide (seq - base - 1#32 < 32#32) && (bitmap &&& 1#32 <<< (seq - base - 1#32) != 0#32)

theorem acked_eq (base bitmap seq : U32) :
  acked base bitmap seq = (decide (seq ≤ base) || selected base bitmap seq)
  := by
  rw [acked, selected]
  split
  · next hle => rw [decide_eq_true hle, Bool.true_or]
  · next hle => rw [decide_eq_false hle, Bool.false_or]

/-- The test of an acknowledgement is the same when the bitmap names the message, or the message and
the base are on the same side. -/
theorem acked_shift {k base bitmap seq : U32} (h : !selected base bitmap seq → SameSide k seq base) :
  acked (base + k) bitmap (seq + k) = acked base bitmap seq
  := by
  have hselected : selected (base + k) bitmap (seq + k) = selected base bitmap seq := by
    rw [selected, selected, add_sub_add]
  rw [acked_eq, acked_eq, hselected]
  cases hsel : selected base bitmap seq with
  | true => rw [Bool.or_true, Bool.or_true]
  | false =>
    have hside : SameSide k seq base := h (by rw [hsel, Bool.not_false])
    simp only [hside.le_iff]

/-! ### The sender -/

namespace ReliableTx

/-- The sender that started from `k`. -/
def shift (k : U32) (tx : ReliableTx) : ReliableTx :=
  { tx with
    nextSequence := tx.nextSequence + k
    outstanding := TreeMap.rename (fun seq => seq + k) tx.outstanding }

variable {k : U32}

theorem queue_shift (k : U32) (tx : ReliableTx) (data : Bytes) (isEnd : Bool) (now : U64) :
  (tx.shift k).queue data isEnd now
    = (tx.queue data isEnd now).map (fun result => (result.1 + k, result.2.shift k))
  := by
  by_cases hcredit : tx.peerCredit = 0#8
  · rw [queue, queue, if_pos hcredit, if_pos (show (tx.shift k).peerCredit = 0#8 from hcredit)]
    rfl
  · rw [queue_of_credit hcredit, queue_of_credit (show (tx.shift k).peerCredit ≠ 0#8 from hcredit)]
    simp only [shift, Except.map, TreeMap.rename_insert (add_right_bijective k)]
    rw [add_right_comm]

/-- The messages that only the base can acknowledge are on the same side as it. -/
theorem onAck_shift {tx : ReliableTx} {base bitmap : U32}
    (h : ∀ seq ∈ tx.outstanding, !selected base bitmap seq → SameSide k seq base) (credit : U8) :
  (tx.shift k).onAck (base + k) bitmap credit = (tx.onAck base bitmap credit).shift k
  := by
  have houtstanding : ((tx.shift k).onAck (base + k) bitmap credit).outstanding
      = ((tx.onAck base bitmap credit).shift k).outstanding := by
    apply TreeMap.ext_rename (add_right_bijective k)
    intro seq
    rw [getElem?_onAck, shift, shift]
    dsimp only
    rw [TreeMap.getElem?_rename (add_right_bijective k).1,
      TreeMap.getElem?_rename (add_right_bijective k).1, getElem?_onAck]
    by_cases hseq : seq ∈ tx.outstanding
    · rw [acked_shift (h seq hseq)]
    · rw [Std.ExtTreeMap.getElem?_eq_none hseq, ite_self, ite_self]
  rw [onAck] at houtstanding ⊢
  dsimp only at houtstanding
  rw [houtstanding]
  rfl

/-- The sequence numbers that are due. -/
def dueSequences (tx : ReliableTx) (now : U64) : List U32 :=
  (tx.due now).1.map Prod.fst

theorem due_eq (tx : ReliableTx) (now : U64) :
  (tx.due now).1 = (tx.outstanding.toList.filter (fun e => tx.isDue now e.2)).map
    (fun e => (e.1, e.2.data, e.2.isEnd))
  := by
  rw [due]
  dsimp only
  induction tx.outstanding.toList with
  | nil => rfl
  | cons e l ih =>
    rw [List.filterMap_cons, List.filter_cons]
    split
    · next hnone =>
      split
      · next hdue =>
        rw [if_pos hdue] at hnone
        cases hnone
      · exact ih
    · next x hsome =>
      split at hsome
      · next hdue =>
        cases hsome
        rw [if_pos hdue, List.map_cons, ih]
      · cases hsome

/-- Messages that are due on the same side come in the same order. -/
theorem due_shift {tx : ReliableTx} {now : U64}
    (h : ∀ a ∈ tx.dueSequences now, ∀ b ∈ tx.dueSequences now, SameSide k a b) :
  ((tx.shift k).due now).1 = (tx.due now).1.map (fun m => (m.1 + k, m.2)) ∧
    ((tx.shift k).due now).2 = (tx.due now).2.shift k
  := by
  constructor
  · have hmem : ∀ e ∈ tx.outstanding.toList, tx.isDue now e.2 = true → e.1 ∈ tx.dueSequences now := by
      intro e he hdue
      rw [dueSequences, due_eq, List.map_map]
      exact List.mem_map.mpr ⟨e, List.mem_filter.mpr ⟨he, hdue⟩, rfl⟩
    have hmono : ∀ a ∈ tx.outstanding.toList, ∀ b ∈ tx.outstanding.toList, tx.isDue now a.2 = true →
        tx.isDue now b.2 = true → compare a.1 b.1 = .lt → compare (a.1 + k) (b.1 + k) = .lt := by
      intro a ha b hb hdue hdue' hlt
      have hside := h a.1 (hmem a ha hdue) b.1 (hmem b hb hdue')
      exact compareOfLessAndEq_eq_lt.mpr (hside.lt_iff.mpr (compareOfLessAndEq_eq_lt.mp hlt))
    have hfilter := TreeMap.filter_toList_rename (add_right_bijective k) tx.outstanding
      (tx.isDue now) hmono
    rw [due_eq, due_eq]
    have hdue : (tx.shift k).isDue now = tx.isDue now := rfl
    rw [hdue, shift]
    dsimp only
    rw [hfilter, List.map_map, List.map_map]
    rfl
  · rw [due, due, shift, shift]
    dsimp only
    rw [TreeMap.rename_map (add_right_bijective k)]
    rfl

theorem reset_shift (k : U32) (tx : ReliableTx) :
  (tx.shift k).reset = tx.reset.shift k
  := by
  rw [reset, reset, shift, shift, TreeMap.rename_empty]

end ReliableTx

/-! ### The receiver -/

namespace ReliableRx

/-- The receiver that started from `k`. -/
def shift (k : U32) (rx : ReliableRx) : ReliableRx :=
  { rx with
    nextExpected := rx.nextExpected + k
    pending := TreeMap.rename (fun seq => seq + k) rx.pending }

variable {k : U32}

theorem used_shift (k : U32) (rx : ReliableRx) :
  (rx.shift k).used = rx.used
  := by
  rw [used, used, shift]
  dsimp only
  rw [TreeMap.size_rename (add_right_bijective k).1]

theorem drain_shift (k : U32) (n : ℕ) (rx : ReliableRx) :
  drain n (rx.shift k) = (drain n rx).shift k
  := by
  induction n generalizing rx with
  | zero => rfl
  | succ n ih =>
    have hpending : (rx.shift k).pending[(rx.shift k).nextExpected]? = rx.pending[rx.nextExpected]? :=
      TreeMap.getElem?_rename (add_right_bijective k).1 rx.pending rx.nextExpected
    rw [drain, drain, hpending]
    cases rx.pending[rx.nextExpected]? with
    | none => rfl
    | some v =>
      dsimp only
      rw [← ih]
      congr 1
      rw [deliverNext, deliverNext, shift, shift]
      dsimp only
      rw [TreeMap.rename_erase (add_right_bijective k), add_right_comm]

/-- A message that is on the same side as the expected one is classified in the same way. -/
theorem receive_shift {rx : ReliableRx} {seq : U32} (h : SameSide k seq rx.nextExpected) (data : Bytes) :
  (rx.shift k).receive (seq + k) data
    = (rx.receive seq data).map (fun result => (result.1, result.2.shift k))
  := by
  have hnext : (rx.shift k).nextExpected = rx.nextExpected + k := rfl
  have hcapacity : (rx.shift k).capacity = rx.capacity := rfl
  rw [receive, receive, used_shift, hnext, hcapacity]
  have heq : seq + k = rx.nextExpected + k ↔ seq = rx.nextExpected :=
    (add_right_bijective k).1.eq_iff
  simp only [h.lt_iff, add_sub_add, heq]
  split
  · rfl
  split
  · split
    · rfl
    · have hsize : (rx.shift k).pending.size = rx.pending.size :=
        TreeMap.size_rename (add_right_bijective k).1 rx.pending
      have haccept : (rx.shift k).accept data = (rx.accept data).shift k := by
        rw [accept, accept, shift, shift]
        dsimp only
        rw [add_right_comm]
      rw [hsize, haccept, drain_shift]
      rfl
  · split
    · rfl
    · rw [Except.map, shift, shift]
      dsimp only
      rw [TreeMap.rename_insertIfNew (add_right_bijective k)]

theorem bitmap_shift (k : U32) (rx : ReliableRx) (base : U32) :
  (rx.shift k).bitmap (base + k) = rx.bitmap base
  := by
  apply BitVec.eq_of_getLsbD_eq
  intro i hi
  -- Bit `i` stands for the message `seq`, which waits in both or in neither.
  let seq := base + 1#32 + BitVec.ofNat 32 i
  have hseq : (seq - base - 1#32).toNat = i ∧ seq - base - 1#32 < 32#32 := by
    simp only [seq]
    bv_omega
  have hseq' : seq + k - (base + k) - 1#32 = seq - base - 1#32 := by rw [add_sub_add]
  have hbit := getLsbD_bitmap rx base seq hseq.2
  have hbit' := getLsbD_bitmap (rx.shift k) (base + k) (seq + k) (by rw [hseq']; exact hseq.2)
  rw [hseq', hseq.1] at hbit'
  rw [hseq.1] at hbit
  rw [Bool.eq_iff_iff, hbit, hbit', Std.ExtTreeMap.mem_iff_isSome_getElem?,
    Std.ExtTreeMap.mem_iff_isSome_getElem?]
  rw [shift]
  dsimp only
  rw [TreeMap.getElem?_rename (add_right_bijective k).1]

theorem ack_shift (k : U32) (rx : ReliableRx) :
  (rx.shift k).ack = rx.ack.map (Ack.shift k)
  := by
  have hbase : (rx.shift k).nextExpected - 1#32 = rx.nextExpected - 1#32 + k := by
    rw [shift]
    dsimp only
    bv_omega
  have hcredit : (rx.shift k).credit = rx.credit := by
    rw [credit, credit, used_shift]
    rfl
  rw [ack, ack, hbase]
  dsimp only
  rw [bitmap_shift, hcredit]
  rw [show (rx.shift k).seenAny = rx.seenAny from rfl]
  split
  · rfl
  · rfl

theorem recv_shift (k : U32) (rx : ReliableRx) :
  (rx.shift k).recv = (rx.recv.1, rx.recv.2.shift k)
  := by
  rw [recv, recv, show (rx.shift k).delivered = rx.delivered from rfl]
  split
  · rfl
  · rfl

end ReliableRx

/-! ### The stream -/

namespace GtsStream

/-- The stream that started from `k`.  What a stream that is reset has received cannot be seen any
more. -/
def shift (k : U32) (s : GtsStream) : GtsStream :=
  { s with
    reliableTx := s.reliableTx.map (ReliableTx.shift k)
    reliableRx := if s.state = .reset then s.reliableRx else s.reliableRx.map (ReliableRx.shift k)
    unrelTxSequence := s.unrelTxSequence + k
    unrelRxHighest := s.unrelRxHighest.map (fun seq => seq + k) }

/-- What is done with a stream. -/
inductive Op
  | sendPacket (tunnelId : U32) (data : Bytes) (isEnd : Bool) (now : U64)
  | validateIncoming (sizeClass : SizeClass) (packet : GtsPacket)
  | receivePacket (packet : GtsPacket)
  | onAck (base bitmap : U32) (credit : U8)
  | recv
  | receiveCreditAck (tunnelId : U32)
  | retransmitDue (tunnelId : U32) (now : U64)
  | applyOpenAck (peerCredit : U8)
  | reset

/-- The same with the stream that started from `k`. -/
def Op.shift (k : U32) : Op → Op
  | .validateIncoming sizeClass packet => .validateIncoming sizeClass (packet.shift k)
  | .receivePacket packet => .receivePacket (packet.shift k)
  | .onAck base bitmap credit => .onAck (base + k) bitmap credit
  | op => op

/-- What can be seen of an operation: an error, or the packets that are to be sent and the message that
is handed out. -/
abbrev Observed := Except Error (List GtsPacket × Option Bytes)

/-- What is seen of the stream that started from `k`. -/
def Observed.shift (k : U32) (o : Observed) : Observed :=
  o.map (fun seen => (seen.1.map (GtsPacket.shift k), seen.2))

/-- What an operation shows, and the stream after it. -/
def perform (s : GtsStream) : Op → Observed × GtsStream
  | .sendPacket tunnelId data isEnd now =>
    match s.sendPacket tunnelId data isEnd now with
    | .error err => (.error err, s)
    | .ok (packet, s') => (.ok ([packet], none), s')
  | .validateIncoming sizeClass packet =>
    ((s.validateIncoming sizeClass packet).map (fun _ => ([], none)), s)
  | .receivePacket packet =>
    match s.receivePacket packet with
    | .error err => (.error err, s)
    | .ok (reply, s') => (.ok (reply.toList, none), s')
  | .onAck base bitmap credit =>
    match s.onAck base bitmap credit with
    | .error err => (.error err, s)
    | .ok s' => (.ok ([], none), s')
  | .recv => (.ok ([], s.recv.1), s.recv.2)
  | .receiveCreditAck tunnelId => (.ok ((s.receiveCreditAck tunnelId).toList, none), s)
  | .retransmitDue tunnelId now =>
    (.ok ((s.retransmitDue tunnelId now).1, none), (s.retransmitDue tunnelId now).2)
  | .applyOpenAck peerCredit =>
    match s.applyOpenAck peerCredit with
    | .error err => (.error err, s)
    | .ok s' => (.ok ([], none), s')
  | .reset => (.ok ([], none), s.reset)

/-- The stream after an operation. -/
def step (s : GtsStream) (op : Op) : GtsStream :=
  (s.perform op).2

/-- What an operation shows. -/
def observe (s : GtsStream) (op : Op) : Observed :=
  (s.perform op).1

/-- The stream takes packets from the network. -/
def takes (s : GtsStream) : Bool :=
  s.state ≠ .closed && s.state ≠ .reset && s.remoteMaySend s.openedByLocal

/-- The numbers whose order decides what an operation does. -/
def compared (s : GtsStream) : Op → List (U32 × U32)
  | .receivePacket (.data _ id seq _ _) =>
    match s.reliableRx with
    | some rx =>
      if s.takes ∧ !s.profile.unreliable ∧ id = s.id ∧ !s.remoteEnded then [(seq, rx.nextExpected)]
      else []
    | none => []
  | .receivePacket (.datagram _ id (some seq) _) =>
    match s.unrelRxHighest with
    | some highest =>
      if s.takes ∧ s.profile.unreliable ∧ id = s.id ∧ s.profile.sequenced then [(seq, highest)] else []
    | none => []
  | .onAck base bitmap _ =>
    match s.reliableTx with
    | some tx =>
      if s.state ≠ .reset ∧ !s.profile.unreliable then
        (tx.outstanding.keys.filter (fun seq => !selected base bitmap seq)).map (fun seq => (seq, base))
      else []
    | none => []
  | .retransmitDue _ now =>
    match s.reliableTx with
    | some tx => (tx.dueSequences now).flatMap (fun a => (tx.dueSequences now).map (fun b => (a, b)))
    | none => []
  | _ => []

/-- When the stream starts from `k`, the numbers whose order decides have both wrapped or neither has. -/
def Straight (k : U32) (s : GtsStream) (op : Op) : Prop :=
  ∀ p ∈ s.compared op, SameSide k p.1 p.2

instance (k : U32) (s : GtsStream) (op : Op) : Decidable (s.Straight k op) :=
  List.decidableBAll (fun p : U32 × U32 => SameSide k p.1 p.2) (s.compared op)

variable {k : U32} {s : GtsStream}

/-- A stream that has not been reset is shifted as a whole. -/
theorem reliableRx_shift (k : U32) (h : s.state ≠ .reset) :
  (s.shift k).reliableRx = s.reliableRx.map (ReliableRx.shift k)
  := by
  rw [shift]
  exact if_neg h

theorem sendPacket_shift (k : U32) (s : GtsStream) (tunnelId : U32) (data : Bytes) (isEnd : Bool)
    (now : U64) :
  (s.shift k).sendPacket tunnelId data isEnd now
    = (s.sendPacket tunnelId data isEnd now).map (fun result => (result.1.shift k, result.2.shift k))
  := by
  rw [sendPacket, sendPacket, show (s.shift k).state = s.state from rfl,
    show (s.shift k).localEnded = s.localEnded from rfl,
    show (s.shift k).openedByLocal = s.openedByLocal from rfl,
    show (s.shift k).localMaySend = s.localMaySend from rfl,
    show (s.shift k).validateSendLen = s.validateSendLen from rfl,
    show (s.shift k).profile = s.profile from rfl,
    show (s.shift k).reliableTx = s.reliableTx.map (ReliableTx.shift k) from rfl]
  split
  · rfl
  split
  · rfl
  split
  · rfl
  cases s.validateSendLen data.length isEnd with
  | error err => rfl
  | ok _ =>
    dsimp only
    split
    · split
      · simp only [Except.map, shift, GtsPacket.shift, Option.map_some, add_right_comm]
      · rfl
    · cases s.reliableTx with
      | none => rfl
      | some tx =>
        dsimp only [Option.map_some]
        rw [ReliableTx.queue_shift]
        cases tx.queue data isEnd now with
        | error err => rfl
        | ok result => rfl

theorem validateIncoming_shift (k : U32) (s : GtsStream) (sizeClass : SizeClass) (packet : GtsPacket) :
  (s.shift k).validateIncoming sizeClass (packet.shift k) = s.validateIncoming sizeClass packet
  := by
  cases packet with
  | datagram tunnelId id sequence data =>
    cases sequence with
    | none => rfl
    | some seq => rfl
  | _ => rfl

theorem receiveData_shift {tunnelId : U32} {id : U8} {seq : U32} {data : Bytes} {isEnd : Bool}
    (hstate : s.state ≠ .reset)
    (h : ∀ rx ∈ s.reliableRx, id = s.id → s.remoteEnded = false → SameSide k seq rx.nextExpected) :
  (s.shift k).receiveData tunnelId id (seq + k) data isEnd
    = (s.receiveData tunnelId id seq data isEnd).map
        (fun result => (result.1.map (GtsPacket.shift k), result.2.shift k))
  := by
  rw [receiveData, receiveData, reliableRx_shift k hstate, show (s.shift k).id = s.id from rfl,
    show (s.shift k).remoteEnded = s.remoteEnded from rfl]
  split
  · rfl
  next hok =>
  obtain ⟨hid, hended⟩ := not_or.mp hok
  cases hrx : s.reliableRx with
  | none => rfl
  | some rx =>
    have hside := h rx hrx (not_not.mp hid) (Bool.eq_false_iff.mpr hended)
    dsimp only [Option.map_some]
    rw [ReliableRx.receive_shift hside]
    cases rx.receive seq data with
    | error err => rfl
    | ok result =>
      simp only [Except.map, shift, hstate, if_false, ReliableRx.ack_shift, Option.map_map,
        Option.map_some]
      rfl

theorem receiveDatagram_shift {id : U8} {sequence : Option U32} {data : Bytes}
    (h : ∀ seq ∈ sequence, ∀ highest ∈ s.unrelRxHighest, id = s.id → s.profile.sequenced = true →
      SameSide k seq highest) :
  (s.shift k).receiveDatagram id (sequence.map (fun seq => seq + k)) data
    = (s.receiveDatagram id sequence data).map
        (fun result => (result.1.map (GtsPacket.shift k), result.2.shift k))
  := by
  rw [receiveDatagram.eq_def, receiveDatagram.eq_def, show (s.shift k).id = s.id from rfl,
    show (s.shift k).profile = s.profile from rfl,
    show (s.shift k).unrelRxHighest = s.unrelRxHighest.map (fun seq => seq + k) from rfl]
  split
  · rfl
  next hid =>
  split
  · rfl
  next hsequenced =>
  cases sequence with
  | none => rfl
  | some seq =>
    cases hhighest : s.unrelRxHighest with
    | none => rfl
    | some highest =>
      have hside := h seq rfl highest hhighest (not_not.mp hid) (by simpa using hsequenced)
      dsimp only [Option.map_some]
      by_cases hle : seq ≤ highest
      · rw [if_pos hle, if_pos (hside.le_iff.mpr hle)]
        rfl
      · rw [if_neg hle, if_neg (fun hle' => hle (hside.le_iff.mp hle'))]
        rfl

theorem receivePacket_shift {packet : GtsPacket} (h : s.Straight k (.receivePacket packet)) :
  (s.shift k).receivePacket (packet.shift k)
    = (s.receivePacket packet).map
        (fun result => (result.1.map (GtsPacket.shift k), result.2.shift k))
  := by
  rw [receivePacket.eq_def, receivePacket.eq_def, show (s.shift k).state = s.state from rfl,
    show (s.shift k).openedByLocal = s.openedByLocal from rfl,
    show (s.shift k).remoteMaySend = s.remoteMaySend from rfl,
    show (s.shift k).profile = s.profile from rfl]
  split
  · rfl
  next hstate =>
  split
  · rfl
  next hmay =>
  obtain ⟨hclosed, hreset⟩ := not_or.mp hstate
  have htakes : s.takes = true := by simpa [takes, hclosed, hreset] using hmay
  cases packet with
  | data tunnelId id seq data isEnd =>
    dsimp only [GtsPacket.shift]
    split
    · rfl
    next hrel =>
    apply receiveData_shift hreset
    intro rx hrx hid hended
    apply h (seq, rx.nextExpected)
    rw [compared, Option.mem_def.mp hrx]
    dsimp only
    rw [if_pos ⟨htakes, by simpa using hrel, hid, by simpa using hended⟩]
    exact List.mem_singleton_self _
  | datagram tunnelId id sequence data =>
    dsimp only [GtsPacket.shift]
    split
    · rfl
    next hrel =>
    apply receiveDatagram_shift
    intro seq hseq highest hhighest hid hsequenced
    obtain rfl := Option.mem_def.mp hseq
    apply h (seq, highest)
    rw [compared, Option.mem_def.mp hhighest]
    dsimp only
    rw [if_pos ⟨htakes, by simpa using hrel, hid, hsequenced⟩]
    exact List.mem_singleton_self _
  | _ => rfl

theorem onAck_shift {base bitmap : U32} {credit : U8} (h : s.Straight k (.onAck base bitmap credit)) :
  (s.shift k).onAck (base + k) bitmap credit = (s.onAck base bitmap credit).map (shift k)
  := by
  rw [onAck, onAck, show (s.shift k).state = s.state from rfl,
    show (s.shift k).profile = s.profile from rfl]
  split
  · rfl
  next hok =>
  rw [not_or] at hok
  rw [show (s.shift k).reliableTx = s.reliableTx.map (ReliableTx.shift k) from rfl]
  cases htx : s.reliableTx with
  | none => rfl
  | some tx =>
    have hside : ∀ seq ∈ tx.outstanding, !selected base bitmap seq → SameSide k seq base := by
      intro seq hseq hsel
      apply h (seq, base)
      rw [compared, htx]
      dsimp only
      rw [if_pos ⟨hok.1, by simpa using hok.2⟩]
      exact List.mem_map_of_mem (List.mem_filter.mpr ⟨Std.ExtTreeMap.mem_keys.mpr hseq, hsel⟩)
    dsimp only [Option.map_some]
    rw [ReliableTx.onAck_shift hside]
    rfl

theorem recv_shift (k : U32) (s : GtsStream) :
  (s.shift k).recv = (s.recv.1, s.recv.2.shift k)
  := by
  rw [recv, recv, show (s.shift k).profile = s.profile from rfl]
  split
  · rw [show (s.shift k).unrelDelivered = s.unrelDelivered from rfl]
    split
    · rfl
    · rfl
  · by_cases hreset : s.state = .reset
    · cases hrx : s.reliableRx with
      | none => simp [shift, hreset, hrx]
      | some rx => simp [shift, hreset, hrx]
    · cases hrx : s.reliableRx with
      | none => simp [shift, hreset, hrx]
      | some rx => simp [shift, hreset, hrx, ReliableRx.recv_shift]

theorem receiveCreditAck_shift (k : U32) (s : GtsStream) (tunnelId : U32) :
  (s.shift k).receiveCreditAck tunnelId = (s.receiveCreditAck tunnelId).map (GtsPacket.shift k)
  := by
  rw [receiveCreditAck, receiveCreditAck, show (s.shift k).state = s.state from rfl,
    show (s.shift k).profile = s.profile from rfl]
  split
  · rfl
  next hok =>
  rw [not_or] at hok
  rw [reliableRx_shift k hok.2]
  cases s.reliableRx with
  | none => rfl
  | some rx =>
    simp only [Option.map_some, ReliableRx.ack_shift, Option.map_map]
    rfl

theorem retransmitDue_shift {tunnelId : U32} {now : U64}
    (h : s.Straight k (.retransmitDue tunnelId now)) :
  (s.shift k).retransmitDue tunnelId now
    = ((s.retransmitDue tunnelId now).1.map (GtsPacket.shift k),
        (s.retransmitDue tunnelId now).2.shift k)
  := by
  rw [retransmitDue, retransmitDue,
    show (s.shift k).reliableTx = s.reliableTx.map (ReliableTx.shift k) from rfl]
  cases htx : s.reliableTx with
  | none => rfl
  | some tx =>
    have hside : ∀ a ∈ tx.dueSequences now, ∀ b ∈ tx.dueSequences now, SameSide k a b := by
      intro a ha b hb
      apply h (a, b)
      rw [compared, htx]
      exact List.mem_flatMap.mpr ⟨a, ha, List.mem_map_of_mem hb⟩
    obtain ⟨hmessages, htx'⟩ := ReliableTx.due_shift hside
    dsimp only [Option.map_some]
    rw [hmessages, htx', List.map_map, List.map_map]
    rfl

theorem reset_shift (k : U32) (s : GtsStream) :
  (s.shift k).reset = s.reset.shift k
  := by
  have htx : (s.reliableTx.map (ReliableTx.shift k)).map ReliableTx.reset
      = (s.reliableTx.map ReliableTx.reset).map (ReliableTx.shift k) := by
    cases s.reliableTx with
    | none => rfl
    | some tx => rw [Option.map_some, Option.map_some, ReliableTx.reset_shift, Option.map_some,
        Option.map_some]
  have hrx : (s.shift k).reliableRx.map ReliableRx.reset = s.reliableRx.map ReliableRx.reset := by
    rw [shift]
    dsimp only
    split
    · rfl
    · rw [Option.map_map]
      rfl
  rw [reset, reset, hrx]
  simp only [shift, if_true, htx, Option.map_none]

theorem applyOpenAck_shift (k : U32) (s : GtsStream) (peerCredit : U8) :
  (s.shift k).applyOpenAck peerCredit = (s.applyOpenAck peerCredit).map (shift k)
  := by
  rw [applyOpenAck, applyOpenAck, show (s.shift k).state = s.state from rfl]
  split
  · rfl
  · next hopening =>
    have hne : s.state ≠ .reset := by simp [not_not.mp hopening]
    simp only [Except.map, shift, hne, if_false, reduceCtorEq, Option.map_map]
    congr 1

/-- An operation on the stream that started from `k` does the same. -/
theorem perform_shift {op : Op} (h : s.Straight k op) :
  (s.shift k).perform (op.shift k) = ((s.perform op).1.shift k, (s.perform op).2.shift k)
  := by
  cases op with
  | sendPacket tunnelId data isEnd now =>
    change (s.shift k).perform (.sendPacket tunnelId data isEnd now) = _
    rw [perform, perform, sendPacket_shift]
    cases s.sendPacket tunnelId data isEnd now with
    | error err => rfl
    | ok result => rfl
  | validateIncoming sizeClass packet =>
    rw [Op.shift, perform, perform, validateIncoming_shift]
    cases s.validateIncoming sizeClass packet with
    | error err => rfl
    | ok _ => rfl
  | receivePacket packet =>
    rw [Op.shift, perform, perform, receivePacket_shift h]
    cases s.receivePacket packet with
    | error err => rfl
    | ok result =>
      obtain ⟨reply, s'⟩ := result
      cases reply with
      | none => rfl
      | some reply => rfl
  | onAck base bitmap credit =>
    rw [Op.shift, perform, perform, onAck_shift h]
    cases s.onAck base bitmap credit with
    | error err => rfl
    | ok s' => rfl
  | recv =>
    change (s.shift k).perform (.recv) = _
    rw [perform, perform, recv_shift]
    rfl
  | receiveCreditAck tunnelId =>
    change (s.shift k).perform (.receiveCreditAck tunnelId) = _
    rw [perform, perform, receiveCreditAck_shift]
    cases s.receiveCreditAck tunnelId with
    | none => rfl
    | some reply => rfl
  | retransmitDue tunnelId now =>
    change (s.shift k).perform (.retransmitDue tunnelId now) = _
    rw [perform, perform, retransmitDue_shift h]
    rfl
  | applyOpenAck peerCredit =>
    change (s.shift k).perform (.applyOpenAck peerCredit) = _
    rw [perform, perform, applyOpenAck_shift]
    cases s.applyOpenAck peerCredit with
    | error err => rfl
    | ok s' => rfl
  | reset =>
    change (s.shift k).perform (.reset) = _
    rw [perform, perform, reset_shift]
    rfl

/-- A run of the stream that started from `k` shows the same. -/
def ShowsSame (k : U32) (s : GtsStream) (ops : List Op) : Prop :=
  Machine.outputs step observe (s.shift k) (ops.map (Op.shift k))
    = (Machine.outputs step observe s ops).map (Observed.shift k)

instance (k : U32) (s : GtsStream) (ops : List Op) : Decidable (ShowsSame k s ops) :=
  inferInstanceAs (Decidable (_ = _))

/-- A run of the stream that started from `k` does the same, as long as the numbers whose order decides
have both wrapped or neither has. -/
theorem run_shift {ops : List Op} (h : Machine.Along step (fun s op => s.Straight k op) s ops) :
  ShowsSame k s ops ∧
    Machine.run step (s.shift k) (ops.map (Op.shift k)) = (Machine.run step s ops).shift k
  := by
  apply Machine.outputs_map (I := fun _ => True) _ _ (fun _ _ _ => trivial) trivial h
  · intro s op _ hop
    rw [observe, perform_shift hop]
    rfl
  · intro s op _ hop
    rw [step, perform_shift hop]
    rfl

end GtsStream

end SmolGnet
