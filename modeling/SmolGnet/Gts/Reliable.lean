import SmolGnet.Basic
import SmolGnet.Library.Bitmap
import SmolGnet.Library.TreeMap

/-!
# The reliable sender and the reliable receiver

`ReliableTx` numbers the messages it is given, keeps each of them until it is
acknowledged, and returns the ones whose retransmission is due.  `ReliableRx` puts the
messages back into order: those that arrive early wait in `pending`, those that have
become contiguous are in `delivered` until the application takes them.

An acknowledgement is a triple of a base, a bitmap and a credit.  It covers the sequence
numbers up to the base and those the bitmap marks after it; `acked` is the test the
sender applies to each message it holds.
-/

namespace SmolGnet

/-! ### The sender -/

/-- A message that has been sent and not yet acknowledged. -/
structure PendingTx where
  data : Bytes
  isEnd : Bool
  sentAt : U64
  deriving DecidableEq

/-- The default retransmission timeout, in milliseconds. -/
def defaultRtoMs : U64 := 500#64

/-- The sending half of a reliable stream. -/
structure ReliableTx where
  nextSequence : U32
  peerCredit : U8
  outstanding : BTreeMap U32 PendingTx
  rtoMs : U64
  deriving DecidableEq

/-- An acknowledgement: the base, the bitmap and the credit. -/
structure Ack where
  base : U32
  bitmap : U32
  credit : U8
  deriving DecidableEq

/-- The acknowledgement covers the sequence number `k`. -/
def acked (base bitmap k : U32) : Bool :=
  if k ≤ base then true
  else
    let d := k - base - 1#32
    decide (d < 32#32) && (bitmap &&& 1#32 <<< d != 0#32)

namespace ReliableTx

/-- A sender that may send `peerCredit` messages. -/
def new (peerCredit : U8) : ReliableTx where
  nextSequence := 0#32
  peerCredit := peerCredit
  outstanding := ∅
  rtoMs := defaultRtoMs

/-- Take a message for sending, at the price of one credit. -/
def queue (tx : ReliableTx) (data : Bytes) (isEnd : Bool) (now : U64) :
    Except Error (U32 × ReliableTx) :=
  if tx.peerCredit = 0#8 then .error .wouldBlock
  else
    let seq := tx.nextSequence
    .ok (seq,
      { tx with
        nextSequence := seq + 1#32
        peerCredit := tx.peerCredit - 1#8
        outstanding := tx.outstanding.insert seq ⟨data, isEnd, now⟩ })

/-- Drop the messages the acknowledgement covers and replace the credit. -/
def onAck (tx : ReliableTx) (base bitmap : U32) (credit : U8) : ReliableTx :=
  { tx with
    outstanding := tx.outstanding.keys.foldl
      (fun outstanding k =>
        if acked base bitmap k then outstanding.erase k else outstanding)
      tx.outstanding
    peerCredit := credit }

/-- The retransmission of `p` is due at time `now`. -/
def isDue (tx : ReliableTx) (now : U64) (p : PendingTx) : Bool :=
  decide (tx.rtoMs ≤ saturatingSub now p.sentAt)

/-- The messages whose retransmission is due, in increasing order of their sequence
numbers; each of them counts as sent at time `now`. -/
def due (tx : ReliableTx) (now : U64) : List (U32 × Bytes × Bool) × ReliableTx :=
  (tx.outstanding.toList.filterMap
    (fun e => if tx.isDue now e.2 then some (e.1, e.2.data, e.2.isEnd) else none),
  { tx with
    outstanding := tx.outstanding.map
      (fun _ p => if tx.isDue now p then { p with sentAt := now } else p) })

/-- Forget every message and every credit. -/
def reset (tx : ReliableTx) : ReliableTx :=
  { tx with outstanding := ∅, peerCredit := 0#8 }

end ReliableTx

/-! ### The receiver -/

/-- The receiving half of a reliable stream. -/
structure ReliableRx where
  nextExpected : U32
  pending : BTreeMap U32 Bytes
  delivered : List Bytes
  capacity : ℕ
  seenAny : Bool
  deriving DecidableEq

namespace ReliableRx

/-- A receiver with room for `capacity` messages. -/
def new (capacity : ℕ) : ReliableRx where
  nextExpected := 0#32
  pending := ∅
  delivered := []
  capacity := capacity
  seenAny := false

/-- The number of messages held. -/
def used (rx : ReliableRx) : ℕ :=
  rx.pending.size + rx.delivered.length

/-- The credit the receiver advertises. -/
def credit (rx : ReliableRx) : U8 :=
  BitVec.ofNat 8 (min (rx.capacity - rx.used) 255)

/-- Deliver the expected message, which has just arrived. -/
def accept (rx : ReliableRx) (data : Bytes) : ReliableRx :=
  { rx with
    delivered := rx.delivered ++ [data]
    seenAny := true
    nextExpected := rx.nextExpected + 1#32 }

/-- Deliver the message `v`, waiting under the expected sequence number. -/
def deliverNext (rx : ReliableRx) (v : Bytes) : ReliableRx :=
  { rx with
    pending := rx.pending.erase rx.nextExpected
    delivered := rx.delivered ++ [v]
    nextExpected := rx.nextExpected + 1#32 }

/-- Deliver, one after the other, at most `n` messages that wait under the expected
sequence number. -/
def drain : ℕ → ReliableRx → ReliableRx
  | 0, rx => rx
  | n + 1, rx =>
    match rx.pending[rx.nextExpected]? with
    | some v => drain n (rx.deliverNext v)
    | none => rx

/-- Take a packet from the network.  The loop that delivers the messages waiting behind
the expected one removes one of them from `pending` in each round, so `pending.size`
rounds are enough. -/
def receive (rx : ReliableRx) (seq : U32) (data : Bytes) :
    Except Error (Bool × ReliableRx) :=
  if seq < rx.nextExpected then .ok (false, rx)
  else if seq = rx.nextExpected then
    if rx.capacity ≤ rx.used then .error .bufferFull
    else .ok (true, drain rx.pending.size (rx.accept data))
  else
    let distance := seq - rx.nextExpected
    if 32#32 < distance ∨ rx.capacity ≤ rx.used then .error .bufferFull
    else .ok (false, { rx with pending := rx.pending.insertIfNew seq data })

/-- The bitmap of the messages that wait, relative to `base`. -/
def bitmap (rx : ReliableRx) (base : U32) : U32 :=
  rx.pending.keys.foldl
    (fun bitmap seq =>
      if seq - base - 1#32 < 32#32 then bitmap ||| 1#32 <<< (seq - base - 1#32) else bitmap)
    0#32

/-- The acknowledgement of the current state, once a message has arrived in order. -/
def ack (rx : ReliableRx) : Option Ack :=
  if !rx.seenAny then none
  else
    let base := rx.nextExpected - 1#32
    some ⟨base, rx.bitmap base, rx.credit⟩

/-- Hand the first delivered message to the application. -/
def recv (rx : ReliableRx) : Option Bytes × ReliableRx :=
  match rx.delivered with
  | [] => (none, rx)
  | m :: rest => (some m, { rx with delivered := rest })

/-- Forget every message. -/
def reset (rx : ReliableRx) : ReliableRx :=
  { rx with pending := ∅, delivered := [], nextExpected := 0#32, seenAny := false }

end ReliableRx

/-! ### What the sender's operations do -/

namespace ReliableTx

/-- A message is taken exactly when there is credit, under the next sequence number. -/
theorem queue_eq_ok
    {tx tx' : ReliableTx} {data : Bytes} {isEnd : Bool} {now : U64} {seq : U32}
    (h : tx.queue data isEnd now = .ok (seq, tx')) :
  tx.peerCredit ≠ 0#8 ∧ seq = tx.nextSequence ∧
    tx' = { tx with
      nextSequence := tx.nextSequence + 1#32
      peerCredit := tx.peerCredit - 1#8
      outstanding := tx.outstanding.insert tx.nextSequence ⟨data, isEnd, now⟩ }
  := by
  unfold queue at h
  split at h
  · cases h
  · next hcredit =>
    obtain ⟨rfl, rfl⟩ := Prod.mk.inj (Except.ok.inj h)
    use hcredit, rfl

/-- With credit, a message is taken. -/
theorem queue_of_credit
    {tx : ReliableTx} (h : tx.peerCredit ≠ 0#8) (data : Bytes) (isEnd : Bool) (now : U64) :
  tx.queue data isEnd now = .ok (tx.nextSequence,
    { tx with
      nextSequence := tx.nextSequence + 1#32
      peerCredit := tx.peerCredit - 1#8
      outstanding := tx.outstanding.insert tx.nextSequence ⟨data, isEnd, now⟩ })
  := by
  rw [queue, if_neg h]

/-- An acknowledgement removes the messages it covers and no others. -/
theorem getElem?_onAck (tx : ReliableTx) (base bitmap : U32) (credit : U8) (k : U32) :
  (tx.onAck base bitmap credit).outstanding[k]?
    = if acked base bitmap k then none else tx.outstanding[k]?
  := by
  rw [onAck, TreeMap.getElem?_foldl_erase]
  by_cases hk : k ∈ tx.outstanding
  · simp [Std.ExtTreeMap.mem_keys, hk]
  · simp [Std.ExtTreeMap.mem_keys, hk]

@[simp]
theorem onAck_nextSequence (tx : ReliableTx) (base bitmap : U32) (credit : U8) :
  (tx.onAck base bitmap credit).nextSequence = tx.nextSequence
  := rfl

@[simp]
theorem onAck_peerCredit (tx : ReliableTx) (base bitmap : U32) (credit : U8) :
  (tx.onAck base bitmap credit).peerCredit = credit
  := rfl

@[simp]
theorem due_nextSequence (tx : ReliableTx) (now : U64) :
  (tx.due now).2.nextSequence = tx.nextSequence
  := rfl

@[simp]
theorem due_peerCredit (tx : ReliableTx) (now : U64) :
  (tx.due now).2.peerCredit = tx.peerCredit
  := rfl

/-- Every message that is due is outstanding, with these contents. -/
theorem mem_due
    {tx : ReliableTx} {now : U64} {seq : U32} {data : Bytes} {isEnd : Bool}
    (h : (seq, data, isEnd) ∈ (tx.due now).1) :
  ∃ sentAt, tx.outstanding[seq]? = some ⟨data, isEnd, sentAt⟩
  := by
  obtain ⟨⟨k, p⟩, hmem, hp⟩ := List.mem_filterMap.mp h
  have hget := Std.ExtTreeMap.mem_toList_iff_getElem?_eq_some.mp hmem
  split at hp
  · cases hp
    use p.sentAt, hget
  · cases hp

/-- Polling for due messages changes only the times at which messages were sent. -/
theorem getElem?_due (tx : ReliableTx) (now : U64) (k : U32) :
  (tx.due now).2.outstanding[k]?
    = tx.outstanding[k]?.map
        (fun p => if tx.isDue now p then { p with sentAt := now } else p)
  := Std.ExtTreeMap.getElem?_map

end ReliableTx

/-! ### What the receiver's operations do -/

namespace ReliableRx

/-- What a packet that is accepted does: it is old and ignored, it is the expected one
and is delivered with the messages that wait behind it, or it is early and waits. -/
theorem receive_eq_ok
    {rx rx' : ReliableRx} {seq : U32} {data : Bytes} {b : Bool}
    (h : rx.receive seq data = .ok (b, rx')) :
  (seq < rx.nextExpected ∧ b = false ∧ rx' = rx) ∨
  (seq = rx.nextExpected ∧ rx.used < rx.capacity ∧ b = true ∧
    rx' = drain rx.pending.size (rx.accept data)) ∨
  (rx.nextExpected < seq ∧ seq - rx.nextExpected ≤ 32#32 ∧ rx.used < rx.capacity ∧
    b = false ∧ rx' = { rx with pending := rx.pending.insertIfNew seq data })
  := by
  unfold receive at h
  split at h
  · next hlt =>
    obtain ⟨rfl, rfl⟩ := Prod.mk.inj (Except.ok.inj h)
    apply Or.inl ⟨hlt, rfl, rfl⟩
  · next hge =>
    split at h
    · next heq =>
      split at h
      · cases h
      · next hroom =>
        obtain ⟨rfl, rfl⟩ := Prod.mk.inj (Except.ok.inj h)
        apply Or.inr (Or.inl ⟨heq, by omega, rfl, rfl⟩)
    · next hne =>
      dsimp only at h
      split at h
      · cases h
      · next hroom =>
        obtain ⟨rfl, rfl⟩ := Prod.mk.inj (Except.ok.inj h)
        have hlt : rx.nextExpected < seq := by bv_omega
        have hdist : seq - rx.nextExpected ≤ 32#32 := by bv_omega
        apply Or.inr (Or.inr ⟨hlt, hdist, by omega, rfl, rfl⟩)

/-- The expected packet is accepted exactly when there is room. -/
theorem receive_nextExpected (rx : ReliableRx) (data : Bytes) :
  (∃ rx', rx.receive rx.nextExpected data = .ok (true, rx')) ↔ rx.used < rx.capacity
  := by
  have hirr : ¬ rx.nextExpected < rx.nextExpected := by bv_omega
  constructor
  · rintro ⟨rx', h⟩
    obtain ⟨hlt, -⟩ | ⟨-, hroom, -⟩ | ⟨hlt, -⟩ := receive_eq_ok h
    · contradiction
    · apply hroom
    · contradiction
  · intro hroom
    rw [receive, if_neg hirr, if_pos rfl, if_neg (by omega)]
    exact ⟨_, rfl⟩

/-- A property that each round of the delivery loop preserves holds after the loop. -/
theorem drain_induction
    {P : ReliableRx → Prop}
    (hstep : ∀ rx v, P rx → rx.pending[rx.nextExpected]? = some v → P (rx.deliverNext v))
    (n : ℕ) {rx : ReliableRx} (h : P rx) :
  P (drain n rx)
  := by
  induction n generalizing rx with
  | zero => apply h
  | succ n ih =>
    unfold drain
    split
    · next v hv => apply ih (hstep rx v h hv)
    · apply h

/-- A round of the delivery loop takes one message out of `pending`. -/
theorem size_deliverNext
    {rx : ReliableRx} {v : Bytes} (hv : rx.pending[rx.nextExpected]? = some v) :
  (rx.deliverNext v).pending.size + 1 = rx.pending.size
  := by
  have hmem : rx.nextExpected ∈ rx.pending := TreeMap.mem_of_getElem? hv
  have hpos : rx.pending.size ≠ 0 := by
    intro hzero
    rw [Std.ExtTreeMap.eq_empty_iff_size_eq_zero.mpr hzero] at hmem
    apply Std.ExtTreeMap.not_mem_empty hmem
  rw [deliverNext, Std.ExtTreeMap.size_erase, if_pos (Std.ExtTreeMap.contains_iff_mem.mpr hmem)]
  omega

/-- After the loop no message waits under the expected sequence number. -/
theorem drain_complete {n : ℕ} {rx : ReliableRx} (hn : rx.pending.size ≤ n) :
  (drain n rx).pending[(drain n rx).nextExpected]? = none
  := by
  induction n generalizing rx with
  | zero =>
    have hempty : rx.pending = ∅ := by
      apply Std.ExtTreeMap.eq_empty_iff_size_eq_zero.mpr
      omega
    simp [drain, hempty]
  | succ n ih =>
    unfold drain
    split
    · next v hv =>
      have hsize := size_deliverNext hv
      apply ih
      omega
    · next hnone => apply hnone

/-- The delivery loop moves messages and keeps their number, the capacity and the flag. -/
theorem drain_used (n : ℕ) (rx : ReliableRx) :
  (drain n rx).used = rx.used ∧ (drain n rx).capacity = rx.capacity ∧
    (drain n rx).seenAny = rx.seenAny
  := by
  apply drain_induction (P := fun rx' => rx'.used = rx.used ∧ rx'.capacity = rx.capacity ∧
    rx'.seenAny = rx.seenAny)
  · rintro rx' v ⟨hused, hcap, hseen⟩ hv
    have hsize := size_deliverNext hv
    use (by simp only [used, deliverNext, List.length_append, List.length_singleton] at *; omega),
      hcap, hseen
  · use rfl, rfl

/-- A packet changes neither the capacity nor, once it is set, the flag. -/
theorem receive_capacity
    {rx rx' : ReliableRx} {seq : U32} {data : Bytes} {b : Bool}
    (h : rx.receive seq data = .ok (b, rx')) :
  rx'.capacity = rx.capacity ∧ (rx.seenAny → rx'.seenAny)
  := by
  obtain ⟨-, -, rfl⟩ | ⟨-, -, -, rfl⟩ | ⟨-, -, -, -, rfl⟩ := receive_eq_ok h
  · use rfl, id
  · obtain ⟨-, hcap, hseen⟩ := drain_used rx.pending.size (rx.accept data)
    rw [hcap, hseen]
    use rfl, fun _ => rfl
  · use rfl, id

end ReliableRx

end SmolGnet
