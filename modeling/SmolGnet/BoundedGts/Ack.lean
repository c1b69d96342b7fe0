import SmolGnet.BoundedGts.Received
import SmolGnet.Library.Bitmap
import SmolGnet.Library.Machine

/-!
# Acknowledgements of the heapless socket

Two sockets have a reliable stream in common, over a channel that may drop, duplicate,
delay and reorder packets and acknowledgements: everything ever emitted stays available,
and a delivery picks any of it.

A socket acknowledges from the first message on, be it the expected one or not.  Before
the expected message has arrived, the base of the acknowledgement is one below 0, which is
the greatest sequence number, and the sender takes it for the acknowledgement of all
messages.  So a message can be freed that the peer does not have.  This is the only way to
lose one: no message is lost as long as such an acknowledgement arrives only when the peer
has accepted all messages that are still held.
-/

namespace SmolGnet

/-! ### Acknowledgements -/

namespace BoundedGtsSocket

variable {s : BoundedGtsSocket} {id : U8} {c : StreamCore}

/-- Bit `d` of the bitmap is set only when a message waits `d` after the one that follows
the base. -/
theorem stores_of_getLsbD_rxBitmap {base k : U32} (hd : k - base - 1#32 < 32#32)
    (h : (s.rxBitmap id base).getLsbD (k - base - 1#32).toNat = true) :
  s.rxView.Stores id k
  := by
  have hd' : (k - base - 1#32).toNat < 32 := by bv_omega
  have hfold : s.rxBitmap id base
      = (s.rx.entries.filter (fun e => e.2.streamId = id ∧ e.2.disposition = .pending)).foldl
          (fun bitmap e => if e.2.sequence - base - 1#32 < 32#32 then
            bitmap ||| 1#32 <<< (e.2.sequence - base - 1#32) else bitmap) 0#32 := by
    rw [rxBitmap, List.foldl_filter]
    simp only [decide_eq_true_eq]
  rw [hfold, Bitmap.getLsbD_foldl_set _ hd' (by decide), BitVec.getLsbD_zero, Bool.false_or,
    List.any_eq_true] at h
  obtain ⟨⟨i, m⟩, hmem, heq⟩ := h
  obtain ⟨hentry, hm⟩ := List.mem_filter.mp hmem
  obtain ⟨data, hget⟩ := MessagePool.metadata_eq_some.mp (MessagePool.mem_entries.mp hentry)
  have hseq : m.sequence = k := by
    have := beq_iff_eq.mp heq
    bv_omega
  exact ⟨i, m, data, hget, (of_decide_eq_true hm).1, hseq⟩

/-- An acknowledgement made after the expected message has arrived covers only messages
that the receiver holds. -/
theorem holds_of_acked {ack : Ack} (hack : s.ackState id = .ok (some ack))
    (hbase : ack.base ≠ BitVec.allOnes 32) {k : U32}
    (hk : acked ack.base ack.bitmap k = true) :
  s.rxView.Holds id k
  := by
  rw [ackState] at hack
  split at hack
  · cases hack
  · next c hc =>
    split at hack
    · cases hack
    · cases hack
      dsimp only at hbase hk
      have hbase' : c.nextExpected - 1#32 ≠ 4294967295#32 := hbase
      rw [acked] at hk
      split at hk
      · next hle =>
        right
        exact ⟨c, hc, by bv_omega⟩
      · rw [Bool.and_eq_true, decide_eq_true_eq, bne_iff_ne,
          Bitmap.and_one_shiftLeft_ne_zero] at hk
        left
        exact stores_of_getLsbD_rxBitmap hk.1 hk.2

end BoundedGtsSocket

/-! ### Two sockets -/

/-- One direction of the stream: the packets and the acknowledgements emitted so far, the
messages sent so far, and the packets the peer has accepted so far. -/
structure Lane where
  packets : List (U32 × Bytes × Bool)
  acks : List Ack
  sent : List (Bytes × Bool)
  accepted : List (U32 × Bytes × Bool)
  deriving DecidableEq

/-- Two sockets with the stream `id` in common. -/
structure BoundedPair where
  id : U8
  ends : Bool → BoundedGtsSocket
  lanes : Bool → Lane

namespace BoundedPair

/-- What the two sockets, the channel and the applications can do.  The Boolean is the
direction, named after the end that sends the messages. -/
inductive Action where
  | send (d : Bool) (data : Bytes) (isEnd : Bool) (now : U64)
  | retransmit (d : Bool) (now : U64)
  | deliver (d : Bool) (i : ℕ)
  | ackState (d : Bool)
  | onAck (d : Bool) (i : ℕ)
  | recvInto (d : Bool) (out : Bytes)

/-- The two sockets before the first message. -/
def init (id : U8) (opener peer : BoundedGtsSocket) : BoundedPair where
  id := id
  ends := fun d => if d then opener else peer
  lanes := fun _ => ⟨[], [], [], []⟩

/-- Replace one of the sockets. -/
def setEnd (s : BoundedPair) (d : Bool) (e : BoundedGtsSocket) : BoundedPair :=
  { s with ends := Function.update s.ends d e }

/-- Replace the record of one of the directions. -/
def setLane (s : BoundedPair) (d : Bool) (lane : Lane) : BoundedPair :=
  { s with lanes := Function.update s.lanes d lane }

def send (s : BoundedPair) (d : Bool) (data : Bytes) (isEnd : Bool) (now : U64) : BoundedPair :=
  match (s.ends d).send s.id data isEnd now with
  | .ok (some seq, e) =>
    (s.setEnd d e).setLane d
      { s.lanes d with
        packets := (s.lanes d).packets ++ [(seq, data, isEnd)]
        sent := (s.lanes d).sent ++ [(data, isEnd)] }
  | .ok (none, e) => s.setEnd d e
  | .error _ => s

def retransmit (s : BoundedPair) (d : Bool) (now : U64) : BoundedPair :=
  match (s.ends d).retransmitDue now with
  | (.ok (some r), e) =>
    if r.streamId = s.id then
      (s.setEnd d e).setLane d
        { s.lanes d with
          packets := (s.lanes d).packets ++ [(r.sequence, r.data, r.isEnd)] }
    else s.setEnd d e
  | (_, e) => s.setEnd d e

def deliver (s : BoundedPair) (d : Bool) (i : ℕ) : BoundedPair :=
  match (s.lanes d).packets[i]? with
  | none => s
  | some (seq, data, isEnd) =>
    match (s.ends !d).receive s.id (some seq) data isEnd with
    | (.ok ack, e) =>
      (s.setEnd (!d) e).setLane d
        { s.lanes d with
          acks := (s.lanes d).acks ++ ack.toList
          accepted := (s.lanes d).accepted ++ [(seq, data, isEnd)] }
    | (.error _, e) => s.setEnd (!d) e

def ackState (s : BoundedPair) (d : Bool) : BoundedPair :=
  match (s.ends !d).ackState s.id with
  | .ok (some ack) => s.setLane d { s.lanes d with acks := (s.lanes d).acks ++ [ack] }
  | _ => s

def onAck (s : BoundedPair) (d : Bool) (i : ℕ) : BoundedPair :=
  match (s.lanes d).acks[i]? with
  | none => s
  | some ack => s.setEnd d ((s.ends d).onAck s.id ack).2

def recvInto (s : BoundedPair) (d : Bool) (out : Bytes) : BoundedPair :=
  match (s.ends !d).recvInto s.id out with
  | .ok (_, e) => s.setEnd (!d) e
  | .error _ => s

/-- One step. -/
def step (s : BoundedPair) : Action → BoundedPair
  | .send d data isEnd now => s.send d data isEnd now
  | .retransmit d now => s.retransmit d now
  | .deliver d i => s.deliver d i
  | .ackState d => s.ackState d
  | .onAck d i => s.onAck d i
  | .recvInto d out => s.recvInto d out

end BoundedPair

/-! ### The invariant of one direction -/

/-- The sender holds the message with the sequence number `k`. -/
def RxView.Keeps (v : RxView) (id : U8) (k : U32) : Prop :=
  ∃ i m data, v.tx.get i = some (m, data) ∧ m.streamId = id ∧ m.sequence = k

/-- The peer has accepted a packet with the sequence number `k`. -/
def Lane.Accepted (lane : Lane) (k : U32) : Prop :=
  ∃ data isEnd, (k, data, isEnd) ∈ lane.accepted

/-- The invariant of one direction, from the socket `a` to the socket `b`: everything on
its way is genuine, the peer has accepted what it holds, an acknowledgement covers only
what the peer holds unless its base is the greatest sequence number, and every message
sent is held by the sender or has been accepted. -/
structure LaneInv (id : U8) (a b : RxView) (lane : Lane) : Prop where
  sender : ∃ c, a.stream id = some c ∧ c.profile.unreliable = false ∧
    c.nextTxSequence = BitVec.ofNat 32 lane.sent.length
  outstanding : ∀ i m data, a.tx.get i = some (m, data) → m.streamId = id →
    lane.sent[m.sequence.toNat]? = some (data, m.isEnd)
  packets : ∀ seq data isEnd, (seq, data, isEnd) ∈ lane.packets →
    lane.sent[seq.toNat]? = some (data, isEnd)
  receiver : ∃ c, RxView.Received id lane.sent b c
  accepted : ∀ k, b.Holds id k → lane.Accepted k
  genuine : ∀ seq data isEnd, (seq, data, isEnd) ∈ lane.accepted →
    lane.sent[seq.toNat]? = some (data, isEnd)
  acks : ∀ ack ∈ lane.acks, ack.base ≠ BitVec.allOnes 32 → ∀ k,
    acked ack.base ack.bitmap k = true → b.Holds id k
  kept : ∀ k x, lane.sent[k.toNat]? = some x → a.Keeps id k ∨ lane.Accepted k

namespace LaneInv

variable {id : U8} {a a' b b' : RxView} {lane : Lane}

/-- The sender's part of the socket `a` is as before. -/
theorem sameSender (h : LaneInv id a b lane) (hsame : a.SameSender id a') :
  LaneInv id a' b lane
  := by
  obtain ⟨htx, hstream⟩ := hsame
  obtain ⟨c, hc, hrel, hnext⟩ := h.sender
  obtain ⟨c', hc', hnext', hprofile⟩ := hstream c hc
  refine { h with
    sender := ⟨c', hc', by rw [hprofile]; exact hrel, hnext'.trans hnext⟩
    outstanding := ?_
    kept := ?_ }
  · rw [htx]
    exact h.outstanding
  · simp only [RxView.Keeps, htx]
    exact h.kept

/-- The socket `b` holds what it held. -/
theorem sameReceiver (h : LaneInv id a b lane) (hreceiver : ∃ c, RxView.Received id lane.sent b' c)
    (hholds : ∀ k, b'.Holds id k ↔ b.Holds id k) :
  LaneInv id a b' lane
  := { h with
    receiver := hreceiver
    accepted := fun k hk => h.accepted k ((hholds k).mp hk)
    acks := fun ack hack hbase k hk => (hholds k).mpr (h.acks ack hack hbase k hk) }

theorem getElem?_append {sent : List (Bytes × Bool)} {i : ℕ} {x : Bytes × Bool}
    (h : sent[i]? = some x) (y : Bytes × Bool) :
  (sent ++ [y])[i]? = some x
  := by
  rw [List.getElem?_append_left (List.getElem?_eq_some_iff.mp h).1, h]

/-- A message is sent. -/
theorem send (h : LaneInv id a b lane) (hlt : lane.sent.length < 2 ^ 32) {c c' : StreamCore}
    (hc : a.stream id = some c) (hc' : a'.stream id = some c') (hprofile : c'.profile = c.profile)
    (hnext : c'.nextTxSequence = c.nextTxSequence + 1#32) {i : ℕ} {data : Bytes} {isEnd : Bool}
    {now : U64} (hfree : a.tx.get i = none)
    (hupd : a.tx.UpdatedAt a'.tx i (some (⟨id, c.nextTxSequence, isEnd, now⟩, data))) :
  LaneInv id a' b { lane with
    packets := lane.packets ++ [(c.nextTxSequence, data, isEnd)]
    sent := lane.sent ++ [(data, isEnd)] }
  := by
  obtain ⟨c₀, hc₀, hrel, hseq⟩ := h.sender
  obtain rfl : c = c₀ := Option.some.inj (hc.symm.trans hc₀)
  have hnat : c.nextTxSequence.toNat = lane.sent.length := by
    rw [hseq, BitVec.toNat_ofNat, Nat.mod_eq_of_lt hlt]
  have hnew : (lane.sent ++ [(data, isEnd)])[c.nextTxSequence.toNat]? = some (data, isEnd) := by
    rw [hnat, List.getElem?_concat_length]
  have hget : ∀ j, a'.tx.get j = if j = i then some (⟨id, c.nextTxSequence, isEnd, now⟩, data)
      else a.tx.get j := by
    intro j
    rw [hupd.get_eq, Function.update_apply]
  refine ⟨⟨c', hc', by rw [hprofile]; exact hrel, ?_⟩, ?_, ?_, ?_, h.accepted, ?_, h.acks, ?_⟩
  · rw [hnext, hseq, List.length_append, List.length_singleton, BitVec.ofNat_add]
  · intro j m data' hj hm
    rw [hget] at hj
    split at hj
    · cases hj
      exact hnew
    · exact getElem?_append (h.outstanding j m data' hj hm) _
  · intro seq data' isEnd' hmem
    rcases List.mem_append.mp hmem with hmem | hmem
    · exact getElem?_append (h.packets seq data' isEnd' hmem) _
    · rw [List.mem_singleton] at hmem
      cases hmem
      exact hnew
  · obtain ⟨cb, hcb⟩ := h.receiver
    exact ⟨cb, hcb.append _⟩
  · intro seq data' isEnd' hmem
    exact getElem?_append (h.genuine seq data' isEnd' hmem) _
  · intro k x hk
    by_cases hkn : k = c.nextTxSequence
    · exact Or.inl ⟨i, _, data, by rw [hget, if_pos rfl], rfl, hkn.symm⟩
    · have hlt' : k.toNat < lane.sent.length := by
        have hidx := (List.getElem?_eq_some_iff.mp hk).1
        rw [List.length_append, List.length_singleton] at hidx
        bv_omega
      rw [List.getElem?_append_left hlt'] at hk
      rcases h.kept k x hk with ⟨j, m, data', hj, hm, hseq'⟩ | hacc
      · refine Or.inl ⟨j, m, data', ?_, hm, hseq'⟩
        rw [hget, if_neg, hj]
        rintro rfl
        rw [hfree] at hj
        cases hj
      · exact Or.inr hacc

/-- A message is sent again. -/
theorem retransmit (h : LaneInv id a b lane) {i : ℕ} {m : TxMeta} {data : Bytes} {now : U64}
    {tx : MessagePool TxMeta} (hi : a.tx.get i = some (m, data))
    (hupd : a.tx.UpdatedAt tx i (some ({ m with sentAt := now }, data))) :
  LaneInv id { a with tx } b lane ∧
    (m.streamId = id → LaneInv id { a with tx } b
      { lane with packets := lane.packets ++ [(m.sequence, data, m.isEnd)] })
  := by
  have hget : ∀ j, tx.get j = if j = i then some ({ m with sentAt := now }, data)
      else a.tx.get j := by
    intro j
    rw [hupd.get_eq, Function.update_apply]
  have hinv : LaneInv id { a with tx } b lane := by
    refine { h with outstanding := ?_, kept := ?_ }
    · intro j m' data' hj hm'
      dsimp only at hj
      rw [hget] at hj
      split at hj
      · cases hj
        exact h.outstanding i m data hi hm'
      · exact h.outstanding j m' data' hj hm'
    · intro k x hk
      rcases h.kept k x hk with ⟨j, m', data', hj, hm', hseq⟩ | hacc
      · left
        by_cases hji : j = i
        · subst hji
          rw [hi] at hj
          cases hj
          exact ⟨j, { m with sentAt := now }, data, by dsimp only; rw [hget, if_pos rfl], hm', hseq⟩
        · exact ⟨j, m', data', by dsimp only; rw [hget, if_neg hji, hj], hm', hseq⟩
      · exact Or.inr hacc
  refine ⟨hinv, fun hm => { hinv with packets := ?_ }⟩
  intro seq data' isEnd hmem
  rcases List.mem_append.mp hmem with hmem | hmem
  · exact h.packets seq data' isEnd hmem
  · rw [List.mem_singleton] at hmem
    cases hmem
    exact h.outstanding i m data hi hm

/-- An acknowledgement of the current state of the peer is made. -/
theorem ackState (h : LaneInv id a b lane) {ack : Ack}
    (hack : ack.base ≠ BitVec.allOnes 32 → ∀ k, acked ack.base ack.bitmap k = true →
      b.Holds id k) :
  LaneInv id a b { lane with acks := lane.acks ++ [ack] }
  := by
  refine { h with acks := ?_ }
  intro ack' hmem
  rcases List.mem_append.mp hmem with hmem | hmem
  · exact h.acks ack' hmem
  · rw [List.mem_singleton] at hmem
    subst hmem
    exact hack

/-- A packet is accepted. -/
theorem accept (h : LaneInv id a b lane) {seq : U32} {data : Bytes} {isEnd : Bool}
    (hmem : (seq, data, isEnd) ∈ lane.packets)
    (hreceiver : ∃ c, RxView.Received id lane.sent b' c)
    (hmono : ∀ k, b.Holds id k → b'.Holds id k)
    (hnew : ∀ k, b'.Holds id k → b.Holds id k ∨ k = seq) :
  LaneInv id a b' { lane with accepted := lane.accepted ++ [(seq, data, isEnd)] }
  := by
  have hacc : ∀ k, lane.Accepted k →
      { lane with accepted := lane.accepted ++ [(seq, data, isEnd)] }.Accepted k := by
    rintro k ⟨data', isEnd', hk⟩
    exact ⟨data', isEnd', List.mem_append_left _ hk⟩
  refine { h with receiver := hreceiver, accepted := ?_, genuine := ?_, acks := ?_, kept := ?_ }
  · intro k hk
    rcases hnew k hk with hk | rfl
    · exact hacc k (h.accepted k hk)
    · exact ⟨data, isEnd, List.mem_append_right _ List.mem_cons_self⟩
  · intro seq' data' isEnd' hmem'
    rcases List.mem_append.mp hmem' with hmem' | hmem'
    · exact h.genuine seq' data' isEnd' hmem'
    · rw [List.mem_singleton] at hmem'
      cases hmem'
      exact h.packets _ _ _ hmem
  · intro ack hack hbase k hk
    exact hmono k (h.acks ack hack hbase k hk)
  · intro k x hk
    rcases h.kept k x hk with hkeep | hk
    · exact Or.inl hkeep
    · exact Or.inr (hacc k hk)

/-- An acknowledgement arrives.  When its base is the greatest sequence number, the peer
has accepted all messages that are still held. -/
theorem onAck (h : LaneInv id a b lane) {ack : Ack} (hmem : ack ∈ lane.acks)
    (hsafe : ack.base = BitVec.allOnes 32 → ∀ k, a.Keeps id k → lane.Accepted k)
    {c c' : StreamCore} (hc : a.stream id = some c) (hc' : a'.stream id = some c')
    (hprofile : c'.profile = c.profile) (hnext : c'.nextTxSequence = c.nextTxSequence)
    (hget : ∀ i, a'.tx.get i = BoundedGtsSocket.unlessAcked id ack (a.tx.get i)) :
  LaneInv id a' b lane
  := by
  obtain ⟨c₀, hc₀, hrel, hseq⟩ := h.sender
  obtain rfl : c = c₀ := Option.some.inj (hc.symm.trans hc₀)
  refine { h with
    sender := ⟨c', hc', by rw [hprofile]; exact hrel, hnext.trans hseq⟩
    outstanding := ?_
    kept := ?_ }
  · intro i m data hi
    rw [hget] at hi
    exact h.outstanding i m data (BoundedGtsSocket.eq_some_of_unlessAcked hi)
  · intro k x hk
    rcases h.kept k x hk with ⟨i, m, data, hi, hm, rfl⟩ | hacc
    · cases hi' : a'.tx.get i with
      | some y =>
        have hy : a.tx.get i = some y := by
          rw [hget] at hi'
          exact BoundedGtsSocket.eq_some_of_unlessAcked hi'
        rw [hi] at hy
        cases hy
        exact Or.inl ⟨i, m, data, hi', hm, rfl⟩
      | none =>
        right
        rw [hget, hi] at hi'
        by_cases hbase : ack.base = BitVec.allOnes 32
        · exact hsafe hbase _ ⟨i, m, data, hi, hm, rfl⟩
        · exact h.accepted _ (h.acks ack hmem hbase _
            (BoundedGtsSocket.acked_of_unlessAcked hi').2)
    · exact Or.inr hacc

end LaneInv

/-! ### The invariant of the pair -/

namespace BoundedPair

variable {s : BoundedPair} {d : Bool} {x : BoundedGtsSocket} {lane : Lane}

/-- Both directions satisfy their invariant. -/
def Inv (s : BoundedPair) : Prop :=
  ∀ d, LaneInv s.id (s.ends d).rxView (s.ends !d).rxView (s.lanes d)

theorem setEnd_eq (s : BoundedPair) (d e : Bool) (x : BoundedGtsSocket) :
  s.setEnd e x = (s.setEnd e x).setLane d (s.lanes d)
  := by
  rw [setLane, setEnd, Function.update_eq_self]

theorem setLane_eq (s : BoundedPair) (d e : Bool) (lane : Lane) :
  s.setLane d lane = (s.setEnd e (s.ends e)).setLane d lane
  := by
  rw [setLane, setLane, setEnd, Function.update_eq_self]

/-- The sender of the direction `d` does something. -/
theorem inv_of_sender (hlane : LaneInv s.id x.rxView (s.ends !d).rxView lane)
    (hother : LaneInv s.id (s.ends !d).rxView x.rxView (s.lanes !d)) :
  ((s.setEnd d x).setLane d lane).Inv
  := by
  intro e
  rcases Bool.eq_or_eq_not e d with rfl | rfl
  · simpa [setEnd, setLane, Function.update_apply] using hlane
  · simpa [setEnd, setLane, Function.update_apply] using hother

/-- The receiver of the direction `d` does something. -/
theorem inv_of_receiver (hlane : LaneInv s.id (s.ends d).rxView x.rxView lane)
    (hother : LaneInv s.id x.rxView (s.ends d).rxView (s.lanes !d)) :
  ((s.setEnd (!d) x).setLane d lane).Inv
  := by
  intro e
  rcases Bool.eq_or_eq_not e d with rfl | rfl
  · simpa [setEnd, setLane, Function.update_apply] using hlane
  · simpa [setEnd, setLane, Function.update_apply] using hother

/-- The other direction of the stream, seen from its receiver. -/
theorem Inv.other (h : s.Inv) (d : Bool) :
  LaneInv s.id (s.ends !d).rxView (s.ends d).rxView (s.lanes !d)
  := by
  have hother := h !d
  rwa [Bool.not_not] at hother

/-- Sending, sending again and acknowledgements change nothing for what an end receives. -/
theorem Inv.setSender (h : s.Inv) (d : Bool) {c c' : StreamCore} {tx : MessagePool TxMeta}
    (hc : (s.ends d).stream s.id = some c) (hprofile : c'.profile = c.profile)
    (hnext : c'.nextExpected = c.nextExpected)
    (hview : x.rxView = { (s.ends d).rxView.setStream s.id c' with tx }) :
  LaneInv s.id (s.ends !d).rxView x.rxView (s.lanes !d)
  := by
  obtain ⟨c₀, hreceived⟩ := (h.other d).receiver
  obtain rfl : c = c₀ := Option.some.inj (hc.symm.trans hreceived.stream_eq)
  obtain ⟨hreceived', hholds⟩ := hreceived.setSender hprofile hnext tx
  rw [hview]
  exact (h.other d).sameReceiver ⟨c', hreceived'⟩ hholds

/-- A message is sent. -/
theorem Inv.send (h : s.Inv) (d : Bool) (data : Bytes) (isEnd : Bool) (now : U64)
    (hlt : (s.lanes d).sent.length < 2 ^ 32) :
  (s.send d data isEnd now).Inv
  := by
  obtain ⟨c, hc, hrel, -⟩ := (h d).sender
  rw [BoundedPair.send]
  split
  · next seq e hsend =>
    obtain ⟨heq, i, hfree, hupd, hview⟩ := BoundedGtsSocket.send_eq_ok hc hrel hsend
    cases heq
    have hc' : e.rxView.stream s.id = some (c.sent isEnd) :=
      (congrFun (congrArg RxView.stream hview) s.id).trans (Function.update_self ..)
    apply inv_of_sender
    · exact (h d).send hlt hc hc' rfl rfl hfree hupd
    · refine h.setSender d hc ?_ ?_ hview
      · rfl
      · rfl
  · next e hsend =>
    obtain ⟨heq, -⟩ := BoundedGtsSocket.send_eq_ok hc hrel hsend
    cases heq
  · exact h

/-- A message that is due is sent again. -/
theorem Inv.retransmit (h : s.Inv) (d : Bool) (now : U64) :
  (s.retransmit d now).Inv
  := by
  rw [BoundedPair.retransmit]
  rcases (s.ends d).retransmitDue_eq now with heq | ⟨i, m, data, tx, hi, hupd, heq⟩
  · rw [heq]
    simp only [setEnd, Function.update_eq_self]
    exact h
  · rw [heq]
    dsimp only
    obtain ⟨hlane, hlane'⟩ := (h d).retransmit hi hupd
    have hother : LaneInv s.id (s.ends !d).rxView { s.ends d with tx }.rxView (s.lanes !d) := by
      obtain ⟨c, hreceived⟩ := (h.other d).receiver
      have hsame : RxView.SameFor s.id (s.ends d).rxView { s.ends d with tx }.rxView :=
        ⟨rfl, fun _ _ _ _ => Iff.rfl⟩
      exact (h.other d).sameReceiver ⟨c, hreceived.sameFor hsame⟩ hsame.holds_iff
    split
    · next hid => exact inv_of_sender (hlane' hid) hother
    · rw [setEnd_eq s d]
      exact inv_of_sender hlane hother

/-- A packet arrives. -/
theorem Inv.deliver (h : s.Inv) (d : Bool) (i : ℕ) (hlt : (s.lanes d).sent.length < 2 ^ 32) :
  (s.deliver d i).Inv
  := by
  rw [BoundedPair.deliver]
  split
  · exact h
  · next seq data isEnd hpacket =>
    have hmem := List.mem_of_getElem? hpacket
    obtain ⟨c, hreceived⟩ := (h d).receiver
    obtain ⟨v, harrival, hsteps, herror⟩ := @BoundedGtsSocket.receive_rxView (s.ends !d) s.id
      (fun seq' data' isEnd' => (seq', data', isEnd') = (seq, data, isEnd)) (some seq) data isEnd
      (by rintro _ ⟨⟩; rfl)
    have hother : LaneInv s.id ((s.ends !d).receive s.id (some seq) data isEnd).2.rxView
        (s.ends d).rxView (s.lanes !d) :=
      (h.other d).sameSender (harrival.sameSender.trans (RxView.sameSender_of_deliveries hsteps))
    have hack := fun a => @BoundedGtsSocket.ackState_of_receive (s.ends !d) s.id c (some seq) data
      isEnd a hreceived.stream_eq hreceived.reliable
    split
    · next ack e heq =>
      rw [heq] at hsteps hother hack
      obtain ⟨⟨c₁, h₁⟩, hmono, hnew⟩ := hreceived.arrival hlt
        (by rintro _ _ _ ⟨⟩; exact (h d).packets _ _ _ hmem) harrival
      obtain ⟨hreceived', hholds⟩ := h₁.deliveries hlt hsteps
      have haccept := (h d).accept hmem hreceived' (fun k hk => (hholds k).mpr (hmono k hk))
        (fun k hk => (hnew k ((hholds k).mp hk)).imp_right (by rintro ⟨_, _, heq⟩; cases heq; rfl))
      apply inv_of_receiver _ hother
      cases ack with
      | none =>
        rw [Option.toList_none, List.append_nil]
        exact haccept
      | some a =>
        exact haccept.ackState
          (fun hbase k hk => BoundedGtsSocket.holds_of_acked (hack a rfl) hbase hk)
    · next err e heq =>
      rw [heq] at herror hother
      rw [setEnd_eq s d]
      apply inv_of_receiver _ hother
      rcases herror c err hreceived.stream_eq hreceived.reliable rfl with hview | hview
      · rw [hview]
        exact h d
      · rw [hview]
        exact (h d).sameReceiver ⟨c, hreceived.tick⟩ (RxView.holds_tick s.id)

/-- The receiver acknowledges its state. -/
theorem Inv.ackState (h : s.Inv) (d : Bool) :
  (s.ackState d).Inv
  := by
  rw [BoundedPair.ackState]
  split
  · next ack hack =>
    rw [setLane_eq s d d]
    apply inv_of_sender
    · exact (h d).ackState (fun hbase k hk => BoundedGtsSocket.holds_of_acked hack hbase hk)
    · exact h.other d
  · exact h

/-- A message is taken. -/
theorem Inv.recvInto (h : s.Inv) (d : Bool) (out : Bytes) :
  (s.recvInto d out).Inv
  := by
  obtain ⟨c, hreceived⟩ := (h d).receiver
  rw [BoundedPair.recvInto]
  obtain ⟨-, heq⟩ | ⟨i, m, data, hi, hdel, -, ⟨-, heq⟩ | ⟨s', heq, hview⟩⟩ :=
    BoundedGtsSocket.recvInto_eq hreceived.stream_eq out
  · rw [heq]
    simp only [setEnd, Function.update_eq_self]
    exact h
  · rw [heq]
    exact h
  · rw [heq]
    dsimp only
    rw [setEnd_eq s d]
    apply inv_of_receiver
    · rw [hview]
      exact (h d).sameReceiver ⟨c, hreceived.remove i⟩ (hreceived.holds_remove hi hdel.2)
    · rw [hview]
      exact (h.other d).sameSender ⟨rfl, fun c hc => ⟨c, hc, rfl, rfl⟩⟩

/-- An acknowledgement whose base is the greatest sequence number arrives only when the
peer has accepted all messages that the sender still holds. -/
def AckSafe (s : BoundedPair) : Action → Prop
  | .onAck d i => ∀ ack, (s.lanes d).acks[i]? = some ack → ack.base = BitVec.allOnes 32 →
    ∀ k, (s.ends d).rxView.Keeps s.id k → (s.lanes d).Accepted k
  | _ => True

/-- Whether all messages that are still held have been accepted can be read off the
entries of the sender's pool. -/
theorem ackSafe_of_entries {i : ℕ}
    (h : ∀ e ∈ (s.ends d).tx.entries, e.2.streamId = s.id →
      ∃ p ∈ (s.lanes d).accepted, p.1 = e.2.sequence) :
  s.AckSafe (.onAck d i)
  := by
  rintro ack - - k ⟨j, m, data, hj, hm, rfl⟩
  have hmem := MessagePool.mem_entries.mpr (MessagePool.metadata_eq_some.mpr ⟨data, hj⟩)
  obtain ⟨⟨seq, data', isEnd⟩, hacc, rfl⟩ := h (j, m) hmem hm
  exact ⟨data', isEnd, hacc⟩

/-- An acknowledgement arrives. -/
theorem Inv.onAck (h : s.Inv) {d : Bool} {i : ℕ} (hsafe : s.AckSafe (.onAck d i)) :
  (s.onAck d i).Inv
  := by
  rw [BoundedPair.onAck]
  split
  · exact h
  · next ack hack =>
    obtain ⟨c, hc, hrel, -⟩ := (h d).sender
    rw [setEnd_eq s d]
    rcases BoundedGtsSocket.onAck_eq hc ack with heq | ⟨hget, hview⟩
    · rw [heq]
      exact inv_of_sender (h d) (h.other d)
    · have hc' := (congrFun (congrArg RxView.stream hview) s.id).trans (Function.update_self ..)
      apply inv_of_sender
      · exact (h d).onAck (List.mem_of_getElem? hack) (hsafe ack hack) hc hc' rfl rfl hget
      · refine h.setSender d hc ?_ ?_ hview
        · rfl
        · rfl

/-- The greater number of messages sent in one of the directions. -/
def sentLength (s : BoundedPair) : ℕ :=
  max (s.lanes true).sent.length (s.lanes false).sent.length

theorem length_sent_le (s : BoundedPair) (d : Bool) :
  (s.lanes d).sent.length ≤ s.sentLength
  := by
  cases d with
  | true => exact Nat.le_max_left ..
  | false => exact Nat.le_max_right ..

/-- The messages sent stay sent. -/
theorem sent_step (s : BoundedPair) (a : Action) (d : Bool) :
  (s.lanes d).sent <+: ((s.step a).lanes d).sent
  := by
  have hset : ∀ (s' : BoundedPair) e lane, s'.lanes = s.lanes →
      (s.lanes e).sent <+: lane.sent →
      (s.lanes d).sent <+: ((s'.setLane e lane).lanes d).sent := by
    intro s' e lane hs' hlane
    simp only [setLane, Function.update_apply]
    split
    · next hed =>
      rw [hed]
      exact hlane
    · rw [hs']
  cases a with
  | send e data isEnd now =>
    rw [step, BoundedPair.send]
    split
    · exact hset _ _ _ rfl (List.prefix_append ..)
    · exact List.prefix_rfl
    · exact List.prefix_rfl
  | retransmit e now =>
    rw [step, BoundedPair.retransmit]
    split
    · split
      · exact hset _ _ _ rfl List.prefix_rfl
      · exact List.prefix_rfl
    · exact List.prefix_rfl
  | deliver e i =>
    rw [step, BoundedPair.deliver]
    split
    · exact List.prefix_rfl
    · split
      · exact hset _ _ _ rfl List.prefix_rfl
      · exact List.prefix_rfl
  | ackState e =>
    rw [step, BoundedPair.ackState]
    split
    · exact hset _ _ _ rfl List.prefix_rfl
    · exact List.prefix_rfl
  | onAck e i =>
    rw [step, BoundedPair.onAck]
    split
    · exact List.prefix_rfl
    · exact List.prefix_rfl
  | recvInto e out =>
    rw [step, BoundedPair.recvInto]
    split
    · exact List.prefix_rfl
    · exact List.prefix_rfl

theorem sentLength_step (s : BoundedPair) (a : Action) :
  s.sentLength ≤ (s.step a).sentLength
  := by
  have htrue := (s.sent_step a true).length_le
  have hfalse := (s.sent_step a false).length_le
  rw [sentLength, sentLength]
  omega

/-- One step. -/
theorem Inv.step (h : s.Inv) {a : Action} (hsafe : s.AckSafe a)
    (hlt : (s.step a).sentLength < 2 ^ 32) :
  (s.step a).Inv
  := by
  have hlt' : ∀ d, (s.lanes d).sent.length < 2 ^ 32 := by
    intro d
    have hle := s.length_sent_le d
    have hstep := s.sentLength_step a
    omega
  cases a with
  | send d data isEnd now => exact h.send d data isEnd now (hlt' d)
  | retransmit d now => exact h.retransmit d now
  | deliver d i => exact h.deliver d i (hlt' d)
  | ackState d => exact h.ackState d
  | onAck d i => exact h.onAck hsafe
  | recvInto d out => exact h.recvInto d out

variable {id : U8} {profile : StreamProfile} {opener opener' peer peer' : BoundedGtsSocket}

/-- Before the first message. -/
theorem laneInv_init {a a' b b' : BoundedGtsSocket} {openedByLocal openedByLocal' : Bool}
    {receiveCapacity receiveCapacity' peerCredit peerCredit' : U8} (hrel : profile.unreliable = false)
    (ha : a.Fresh) (hb : b.Fresh)
    (ha' : a.addStream id profile openedByLocal receiveCapacity peerCredit = .ok a')
    (hb' : b.addStream id profile openedByLocal' receiveCapacity' peerCredit' = .ok b') :
  LaneInv id a'.rxView b'.rxView ⟨[], [], [], []⟩
  := by
  obtain ⟨-, -, htx, -, hstream⟩ := BoundedGtsSocket.addStream_eq_ok ha'
  obtain ⟨-, hrx, -, -, hstream'⟩ := BoundedGtsSocket.addStream_eq_ok hb'
  have hc := (congrFun hstream id).trans (Function.update_self ..)
  have hc' := (congrFun hstream' id).trans (Function.update_self ..)
  have htx' : ∀ i, a'.tx.get i = none := by
    rw [htx]
    exact ha.tx_eq
  have hrx' : ∀ i, b'.rxView.slots i = none := by
    intro i
    exact (congrFun (congrArg MessagePool.get hrx) i).trans (hb.rx_eq i)
  have hholds : ∀ k, ¬ b'.rxView.Holds id k := by
    rintro k (⟨i, m, data, hi, -⟩ | ⟨c, hc, hlt⟩)
    · rw [hrx'] at hi
      cases hi
    · cases hc'.symm.trans hc
      exact absurd hlt (by simp [BoundedGtsSocket.newStream])
  refine ⟨⟨_, hc, hrel, rfl⟩, ?_, by simp, ⟨_, hc', hrel, by simp [BoundedGtsSocket.newStream],
    ?_, ?_, ?_⟩, ?_, by simp, by simp, by simp⟩
  · intro i m data hi
    cases (htx' i).symm.trans hi
  · intro i m data hi
    cases (hrx' i).symm.trans hi
  · intro i m data hi
    cases (hrx' i).symm.trans hi
  · intro i j m m' data data' hi
    cases (hrx' i).symm.trans hi
  · intro k hk
    exact absurd hk (hholds k)

/-- Every message sent is in the sender's pool or has been accepted by the peer. -/
def NoneLost (s : BoundedPair) : Prop :=
  ∀ d i data isEnd, (s.lanes d).sent[i]? = some (data, isEnd) →
    (∃ j m, (s.ends d).tx.get j = some (m, data) ∧ m.streamId = s.id ∧
      m.sequence = BitVec.ofNat 32 i ∧ m.isEnd = isEnd) ∨
    (BitVec.ofNat 32 i, data, isEnd) ∈ (s.lanes d).accepted

/-- The invariant says that no message is lost. -/
theorem Inv.noneLost (h : s.Inv) (hlt : s.sentLength < 2 ^ 32) :
  s.NoneLost
  := by
  intro d i data isEnd hsent
  have hi := Nat.lt_of_lt_of_le (List.getElem?_eq_some_iff.mp hsent).1 (s.length_sent_le d)
  have hnat : (BitVec.ofNat 32 i).toNat = i := by
    rw [BitVec.toNat_ofNat, Nat.mod_eq_of_lt (Nat.lt_trans hi hlt)]
  have hkept := (h d).kept (BitVec.ofNat 32 i) (data, isEnd) (by rw [hnat]; exact hsent)
  rcases hkept with ⟨j, m, data', hj, hm, hseq⟩ | ⟨data', isEnd', hmem⟩
  · have hdata := (h d).outstanding j m data' hj hm
    rw [hseq, hnat, hsent] at hdata
    cases hdata
    exact Or.inl ⟨j, m, hj, hm, hseq, rfl⟩
  · have hdata := (h d).genuine _ _ _ hmem
    rw [hnat, hsent] at hdata
    cases hdata
    exact Or.inr hmem

/-- Every message sent is in the sender's pool or has been accepted by the peer, provided
an acknowledgement whose base is the greatest sequence number arrives only when the peer
has accepted all messages that are still held. -/
theorem noneLost_of_ackSafe
    {openerCapacity peerCapacity openerCredit peerCredit : U8} (hrel : profile.unreliable = false)
    (hopener : opener.Fresh) (hpeer : peer.Fresh)
    (hopener' : opener.addStream id profile true openerCapacity openerCredit = .ok opener')
    (hpeer' : peer.addStream id profile false peerCapacity peerCredit = .ok peer')
    (as : List Action) (hsafe : Machine.Along BoundedPair.step AckSafe (init id opener' peer') as)
    (hlt : (Machine.run BoundedPair.step (init id opener' peer') as).sentLength < 2 ^ 32) :
  (Machine.run BoundedPair.step (init id opener' peer') as).NoneLost
  := by
  have hinit : (init id opener' peer').Inv := by
    intro e
    cases e with
    | true => exact laneInv_init hrel hopener hpeer hopener' hpeer'
    | false => exact laneInv_init hrel hpeer hopener hpeer' hopener'
  have hinv := Machine.invariant_along_of_lt (P := Inv) sentLength_step
    (fun s a h hsafe hlt => h.step hsafe hlt) hinit hsafe hlt
  exact hinv.noneLost hlt

/-- A socket with room for one stream and two messages in each direction. -/
def socketOfTwo (role : TunnelRole) : Except Error BoundedGtsSocket :=
  BoundedGtsSocket.new role 1#32 2#32 .ones [none]
    [.empty, .empty] (List.replicate 16 0#8) [.empty, .empty] (List.replicate 16 0#8)

/-- The second message arrives first, and its acknowledgement, whose base is the greatest
sequence number, only after the peer has accepted both. -/
theorem noneLost_of_ackSafe_reordered :
  let profile : StreamProfile := ⟨false, true, false, false, .openerToPeer, .msg128⟩
  let as : List Action :=
    [.send true [10#8] false 0#64, .send true [11#8] false 0#64, .deliver true 1,
      .deliver true 0, .onAck true 0]
  ∃ opener opener' peer peer', socketOfTwo .initiator = .ok opener ∧
    socketOfTwo .responder = .ok peer ∧
    opener.addStream 0#8 profile true 0#8 2#8 = .ok opener' ∧
    peer.addStream 0#8 profile false 2#8 0#8 = .ok peer' ∧
    Machine.Along step AckSafe (init 0#8 opener' peer') as ∧
    ((Machine.run step (init 0#8 opener' peer') as).ends true).tx.entries = [] ∧
    (Machine.run step (init 0#8 opener' peer') as).NoneLost
  := by
  intro profile as
  obtain ⟨opener, hopener⟩ : ∃ opener, socketOfTwo .initiator = .ok opener := ⟨_, rfl⟩
  obtain ⟨peer, hpeer⟩ : ∃ peer, socketOfTwo .responder = .ok peer := ⟨_, rfl⟩
  obtain ⟨opener', hopener'⟩ : ∃ opener', opener.addStream 0#8 profile true 0#8 2#8 = .ok opener' := by
    cases hopener
    exact ⟨_, rfl⟩
  obtain ⟨peer', hpeer'⟩ : ∃ peer', peer.addStream 0#8 profile false 2#8 0#8 = .ok peer' := by
    cases hpeer
    exact ⟨_, rfl⟩
  have hrun : Machine.Along step AckSafe (init 0#8 opener' peer') as ∧
      (Machine.run step (init 0#8 opener' peer') as).sentLength < 2 ^ 32 ∧
      ((Machine.run step (init 0#8 opener' peer') as).ends true).tx.entries = [] := by
    cases hopener
    cases hpeer
    cases hopener'
    cases hpeer'
    refine ⟨⟨trivial, trivial, trivial, trivial, ?_, trivial⟩, by decide, by decide⟩
    apply ackSafe_of_entries
    decide
  obtain ⟨hsafe, hlt, hentries⟩ := hrun
  exact ⟨opener, opener', peer, peer', hopener, hpeer, hopener', hpeer', hsafe, hentries,
    noneLost_of_ackSafe rfl (BoundedGtsSocket.fresh_of_new hopener)
      (BoundedGtsSocket.fresh_of_new hpeer) hopener' hpeer' as hsafe hlt⟩

/-- The second message arrives first and is acknowledged.  The sender takes this for the
acknowledgement of both, and the first message is lost. -/
theorem freed_before_accepted :
  let profile : StreamProfile := ⟨false, true, false, false, .openerToPeer, .msg128⟩
  let as : List Action :=
    [.send true [10#8] false 0#64, .send true [11#8] false 0#64, .deliver true 1, .onAck true 0]
  ∃ opener opener' peer peer', socketOfTwo .initiator = .ok opener ∧
    socketOfTwo .responder = .ok peer ∧
    opener.addStream 0#8 profile true 0#8 2#8 = .ok opener' ∧
    peer.addStream 0#8 profile false 2#8 0#8 = .ok peer' ∧
    ¬ (Machine.run step (init 0#8 opener' peer') as).NoneLost
  := by
  intro profile as
  refine ⟨_, _, _, _, rfl, rfl, rfl, rfl, ?_⟩
  intro h
  rcases h true 0 [10#8] false (by decide) with ⟨j, m, hj, -⟩ | hmem
  · have hentry := MessagePool.mem_entries.mpr (MessagePool.metadata_eq_some.mpr ⟨_, hj⟩)
    exact List.eq_nil_iff_forall_not_mem.mp (by decide) _ hentry
  · revert hmem
    decide

end BoundedPair

end SmolGnet
