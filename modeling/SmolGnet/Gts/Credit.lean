import SmolGnet.Gts.Link

/-!
# Message credit

An acknowledgement carries the free room of the receiver when it was made, and the sender
replaces its credit by that number, although messages the receiver had not yet seen may
still be on their way.  The sender can then be given credit for more messages than fit.

Over the lossy channel this lets early messages fill the receiver while the expected one
is missing, and then its retransmission is refused for ever.  It does not happen when the
capacity is more than the 32 messages of the window, or when no acknowledgement hands out
credit beyond the capacity, counted from the expected sequence number on.  Over a
loss-free channel that keeps the order it lets a message be refused on arrival, and it
does not happen when no acknowledgement hands out credit beyond the free room that is left
once the messages in flight have arrived.
-/

namespace SmolGnet

namespace ReliableLink

/-! ### The expected message over the lossy channel -/

/-- The application has taken everything that was delivered only if the expected message
would be accepted. -/
def Unwedged (s : ReliableLink) : Prop :=
  s.rx.delivered = [] →
    ∀ data, ∃ rx', s.rx.receive s.rx.nextExpected data = .ok (true, rx')

/-- The credit of the delivered acknowledgement does not exceed the capacity, counted from
the expected sequence number on. -/
def AckFits (s : ReliableLink) : Action → Prop
  | .deliverAck i => ∀ a, s.acks[i]? = some a →
      a.credit.toNat + (s.tx.nextSequence - s.rx.nextExpected).toNat ≤ s.rx.capacity
  | _ => True

theorem unwedged_of_size_lt {s : ReliableLink} (h : s.rx.pending.size < s.rx.capacity) :
  s.Unwedged
  := by
  intro hdel data
  apply (ReliableRx.receive_nextExpected s.rx data).mpr
  rw [ReliableRx.used, hdel]
  apply h

/-- The invariant with the bound on the credit: it never exceeds the capacity, counted
from the expected sequence number on. -/
structure CreditInv (capacity : ℕ) (s : ReliableLink) : Prop where
  inv : s.Inv
  capacity_eq : s.rx.capacity = capacity
  credit_le : s.tx.peerCredit.toNat + (s.queued.length - s.rx.nextExpected.toNat) ≤ capacity

theorem creditInv_init (c : U8) :
  CreditInv c.toNat (init c c.toNat)
  := by
  use inv_init c c.toNat, rfl
  simp [init, ReliableTx.new]

theorem creditInv_step {capacity : ℕ} (s : ReliableLink) (a : Action)
    (h : CreditInv capacity s) (hok : s.AckFits a)
    (hlt : (s.step a).queued.length < 2 ^ 32) :
  CreditInv capacity (s.step a)
  := by
  have hinv := inv_step s a h.inv hlt
  have hlt' : s.queued.length < 2 ^ 32 := Nat.lt_of_le_of_lt (queued_length_le s a) hlt
  have hcredit := h.credit_le
  have hnext := h.inv.receiver.next_le
  rw [List.length_map] at hnext
  cases a with
  | queue data isEnd now =>
    simp only [step, queue] at hinv ⊢
    split at hinv
    · next seq tx htx =>
      obtain ⟨hpos, rfl, rfl⟩ := ReliableTx.queue_eq_ok htx
      use hinv, h.capacity_eq
      simp only [List.length_append, List.length_singleton]
      bv_omega
    · apply h
  | due now => use hinv, h.capacity_eq, hcredit
  | deliverPacket i =>
    simp only [step, deliverPacket] at hinv ⊢
    split at hinv
    · next seq data isEnd hpkt =>
      split at hinv
      · next b rx hrx =>
        have hgen := h.inv.packets _ (List.mem_of_getElem? hpkt)
        have hdata : (s.queued.map Prod.fst)[seq.toNat]? = some data := by
          rw [List.getElem?_map, hgen, Option.map_some]
        obtain ⟨-, hle, -⟩ :=
          h.inv.receiver.receive (by rwa [List.length_map]) h.inv.windowed hdata hrx
        have hle' := BitVec.le_def.mp hle
        use hinv, (ReliableRx.receive_capacity hrx).1.trans h.capacity_eq
        simp only
        omega
      · apply h
    · apply h
  | ack =>
    simp only [step, ack] at hinv ⊢
    split at hinv
    · use hinv, h.capacity_eq, hcredit
    · apply h
  | deliverAck i =>
    simp only [step, deliverAck] at hinv ⊢
    split at hinv
    · next ack hack =>
      use hinv, h.capacity_eq
      have hfits := hok ack hack
      have hseq := h.inv.next_seq
      rw [h.capacity_eq] at hfits
      simp only [ReliableTx.onAck_peerCredit]
      bv_omega
    · apply h
  | recv =>
    simp only [step, recv, ReliableRx.recv] at hinv ⊢
    cases hdel : s.rx.delivered with
    | nil => apply h
    | cons m rest =>
      simp only [hdel] at hinv
      use hinv, h.capacity_eq, hcredit

/-- The window and the capacity are kept by every step, however many messages there are. -/
theorem windowed_step {capacity : ℕ} (s : ReliableLink) (a : Action)
    (h : s.rx.Windowed ∧ s.rx.capacity = capacity) :
  (s.step a).rx.Windowed ∧ (s.step a).rx.capacity = capacity
  := by
  obtain ⟨hw, hcap⟩ := h
  cases a with
  | queue data isEnd now =>
    simp only [step, queue]
    split
    · use hw, hcap
    · use hw, hcap
  | due now => use hw, hcap
  | deliverPacket i =>
    simp only [step, deliverPacket]
    split
    · split
      · next b rx hrx =>
        use ReliableRx.receive_windowed hw hrx, (ReliableRx.receive_capacity hrx).1.trans hcap
      · use hw, hcap
    · use hw, hcap
  | ack =>
    simp only [step, ack]
    split
    · use hw, hcap
    · use hw, hcap
  | deliverAck i =>
    simp only [step, deliverAck]
    split
    · use hw, hcap
    · use hw, hcap
  | recv =>
    simp only [step, recv, ReliableRx.recv]
    cases s.rx.delivered with
    | nil => use hw, hcap
    | cons m rest => use hw, hcap

/-- The expected message can always be accepted once everything delivered has been taken,
provided the capacity is more than 32 messages, or there is room for a message, fewer than
`2 ^ 32` messages are taken and every acknowledgement delivered fits. -/
theorem unwedged_of_ackFits (c : U8) (as : List Action)
    (hcond : 32 < c.toNat ∨
      (0 < c.toNat ∧ (Machine.run step (init c c.toNat) as).queued.length < 2 ^ 32 ∧
        Machine.Along step AckFits (init c c.toNat) as)) :
  (Machine.run step (init c c.toNat) as).Unwedged
  := by
  apply unwedged_of_size_lt
  rcases hcond with hlarge | ⟨hpos, hlt, hok⟩
  · obtain ⟨hw, hcap⟩ := Machine.invariant_run
      (P := fun s => s.rx.Windowed ∧ s.rx.capacity = c.toNat) windowed_step
      (s := init c c.toNat) ⟨ReliableRx.windowed_new _, rfl⟩ as
    have hsize := hw.size_le
    omega
  · have h := Machine.invariant_along_of_lt queued_length_le creditInv_step
      (creditInv_init c) hok hlt
    have hsize := h.inv.receiver.pending_size_le h.inv.windowed
    rw [List.length_map] at hsize
    have hcredit := h.credit_le
    rw [h.capacity_eq]
    omega

/-- The first message is acknowledged, the second is lost and the third waits: the second
is still accepted. -/
theorem unwedged_of_ackFits_hole :
  ∃ as, Machine.Along step AckFits (init 2#8 2) as ∧
    (Machine.run step (init 2#8 2) as).rx.pending.keys = [2#32] ∧
    (Machine.run step (init 2#8 2) as).Unwedged
  := by
  let as : List Action :=
    [.queue [0#8] false 0#64, .deliverPacket 0, .recv, .ack, .deliverAck 0,
      .queue [1#8] false 0#64, .queue [2#8] false 0#64, .deliverPacket 2]
  have hok : Machine.Along step AckFits (init 2#8 2) as := by
    refine ⟨trivial, trivial, trivial, trivial, ?_, trivial, trivial, trivial, trivial⟩
    intro a ha
    have hack : some a = some ⟨0#32, 0#32, 2#8⟩ := by
      rw [← ha]
      decide
    cases hack
    decide
  use as, hok, by decide
  apply unwedged_of_ackFits 2#8 _ (Or.inr ⟨by decide, by decide, hok⟩)

/-- With room for two messages, an acknowledgement made while the second message is in
flight gives credit for two more; when these two arrive first, the second message is
refused although the application has taken everything. -/
theorem wedged_by_stale_credit :
  let s := Machine.run step (init 2#8 2)
    [.queue [0#8] false 0#64, .queue [1#8] false 0#64, .deliverPacket 0, .recv, .ack,
      .deliverAck 0, .queue [2#8] false 0#64, .queue [3#8] false 0#64, .deliverPacket 2,
      .deliverPacket 3]
  s.rx.delivered = [] ∧ s.packets[1]? = some (s.rx.nextExpected, [1#8], false) ∧
    s.rx.receive s.rx.nextExpected [1#8] = .error .bufferFull ∧ ¬ s.Unwedged
  := by
  have hrun : ∀ s : ReliableLink, s.rx.delivered = [] →
      s.rx.receive s.rx.nextExpected [1#8] = .error .bufferFull → ¬ s.Unwedged := by
    intro s hdel hfull h
    obtain ⟨rx', hrx'⟩ := h hdel [1#8]
    rw [hfull] at hrx'
    cases hrx'
  use (by decide), (by decide), (by decide)
  apply hrun
  · decide
  · decide

end ReliableLink

/-! ### Arrivals over a loss-free channel -/

/-- A sender and a receiver with the packets and the acknowledgements in flight, each in
the order they were emitted. -/
structure FifoLink where
  tx : ReliableTx
  rx : ReliableRx
  packets : List (U32 × Bytes)
  acks : List Ack
  deriving DecidableEq

namespace FifoLink

/-- What the two parties, the channel and the application can do. -/
inductive Action where
  | queue (data : Bytes) (isEnd : Bool) (now : U64)
  | deliverPacket
  | ack
  | deliverAck
  | recv

/-- The link before the first message. -/
def init (peerCredit : U8) (capacity : ℕ) : FifoLink where
  tx := .new peerCredit
  rx := .new capacity
  packets := []
  acks := []

/-- The sender is given a message and emits its packet. -/
def queue (s : FifoLink) (data : Bytes) (isEnd : Bool) (now : U64) : FifoLink :=
  match s.tx.queue data isEnd now with
  | .ok (seq, tx) => { s with tx := tx, packets := s.packets ++ [(seq, data)] }
  | .error _ => s

/-- The first packet in flight arrives. -/
def deliverPacket (s : FifoLink) : FifoLink :=
  match s.packets with
  | (seq, data) :: rest =>
    match s.rx.receive seq data with
    | .ok (_, rx) => { s with rx := rx, packets := rest }
    | .error _ => { s with packets := rest }
  | [] => s

/-- The receiver emits an acknowledgement. -/
def ack (s : FifoLink) : FifoLink :=
  match s.rx.ack with
  | some a => { s with acks := s.acks ++ [a] }
  | none => s

/-- The first acknowledgement in flight arrives. -/
def deliverAck (s : FifoLink) : FifoLink :=
  match s.acks with
  | a :: rest => { s with tx := s.tx.onAck a.base a.bitmap a.credit, acks := rest }
  | [] => s

/-- One step of the link. -/
def step (s : FifoLink) : Action → FifoLink
  | .queue data isEnd now => s.queue data isEnd now
  | .deliverPacket => s.deliverPacket
  | .ack => s.ack
  | .deliverAck => s.deliverAck
  | .recv => { s with rx := s.rx.recv.2 }

/-- The packet that arrives next is accepted. -/
def ArrivalAccepted (s : FifoLink) : Prop :=
  ∀ seq data rest, s.packets = (seq, data) :: rest →
    ∃ rx', s.rx.receive seq data = .ok (true, rx')

/-- The credit of the acknowledgement that arrives does not exceed the room that is left
once the packets in flight have arrived. -/
def AckFits (s : FifoLink) : Action → Prop
  | .deliverAck => ∀ a rest, s.acks = a :: rest →
      a.credit.toNat + s.packets.length + s.rx.used ≤ s.rx.capacity
  | _ => True

/-- The packets carry the sequence numbers from `k` on, one after the other. -/
def Consecutive : U32 → List (U32 × Bytes) → Prop
  | _, [] => True
  | k, (seq, _) :: rest => seq = k ∧ Consecutive (k + 1#32) rest

theorem Consecutive.append {k : U32} {packets : List (U32 × Bytes)}
    (h : Consecutive k packets) (data : Bytes) :
  Consecutive k (packets ++ [(k + BitVec.ofNat 32 packets.length, data)])
  := by
  induction packets generalizing k with
  | nil =>
    constructor
    · apply BitVec.add_zero
    · trivial
  | cons p rest ih =>
    obtain ⟨hseq, hrest⟩ := h
    use hseq
    have hidx : k + BitVec.ofNat 32 (p :: rest).length
        = (k + 1#32) + BitVec.ofNat 32 rest.length := by
      rw [List.length_cons, BitVec.add_assoc, BitVec.ofNat_add_ofNat, Nat.add_comm 1]
    rw [hidx]
    apply ih hrest

/-- Packets arrive in order, so none waits. -/
structure Ordered (capacity : ℕ) (s : FifoLink) : Prop where
  capacity_eq : s.rx.capacity = capacity
  pending : s.rx.pending = ∅
  consecutive : Consecutive s.rx.nextExpected s.packets
  next_seq : s.tx.nextSequence = s.rx.nextExpected + BitVec.ofNat 32 s.packets.length

theorem ordered_init (c : U8) :
  Ordered c.toNat (init c c.toNat)
  := by
  constructor
  · rfl
  · rfl
  · trivial
  · rfl

/-- With nothing waiting, the expected packet is delivered and nothing else changes. -/
theorem receive_expected
    {rx : ReliableRx} (hpending : rx.pending = ∅) (hroom : rx.used < rx.capacity)
    (data : Bytes) :
  rx.receive rx.nextExpected data = .ok (true, rx.accept data)
  := by
  have hirr : ¬ rx.nextExpected < rx.nextExpected := by bv_omega
  have hsize : rx.pending.size = 0 := by rw [hpending, Std.ExtTreeMap.size_empty]
  rw [ReliableRx.receive, if_neg hirr, if_pos rfl, if_neg (by omega), hsize]
  rfl

theorem Ordered.queue {capacity : ℕ} {s : FifoLink} (h : s.Ordered capacity)
    (hpos : s.tx.peerCredit ≠ 0#8) (data : Bytes) (isEnd : Bool) (now : U64) :
  (s.queue data isEnd now).Ordered capacity ∧
    (s.queue data isEnd now).rx = s.rx ∧
    (s.queue data isEnd now).packets.length = s.packets.length + 1 ∧
    (s.queue data isEnd now).tx.peerCredit = s.tx.peerCredit - 1#8
  := by
  obtain ⟨hcap, hpend, hcons, hseq⟩ := h
  rw [FifoLink.queue, ReliableTx.queue_of_credit hpos]
  refine ⟨⟨hcap, hpend, ?_, ?_⟩, rfl, ?_, rfl⟩
  · simp only [hseq]
    apply hcons.append
  · simp only [hseq, List.length_append, List.length_singleton, BitVec.add_assoc,
      BitVec.ofNat_add_ofNat]
  · apply List.length_append

/-- A packet that finds room is delivered; one that does not is refused. -/
theorem Ordered.deliverPacket {capacity : ℕ} {s : FifoLink} (h : s.Ordered capacity)
    (hpkt : s.packets ≠ []) :
  (s.rx.used < capacity → s.ArrivalAccepted ∧ s.deliverPacket.Ordered capacity ∧
    s.deliverPacket.tx = s.tx ∧ s.deliverPacket.rx.used = s.rx.used + 1 ∧
    s.deliverPacket.packets.length + 1 = s.packets.length) ∧
  (capacity ≤ s.rx.used → ¬ s.ArrivalAccepted)
  := by
  obtain ⟨hcap, hpend, hcons, hseq⟩ := h
  obtain ⟨⟨seq, data⟩, rest, heq⟩ := List.exists_cons_of_ne_nil hpkt
  rw [heq] at hcons hseq
  obtain ⟨rfl, hrest⟩ := hcons
  rw [List.length_cons] at hseq
  constructor
  · intro hroom
    have hrecv := receive_expected hpend (by omega : s.rx.used < s.rx.capacity) data
    rw [FifoLink.deliverPacket, heq]
    simp only [hrecv]
    refine ⟨?_, ⟨hcap, hpend, hrest, ?_⟩, trivial, ?_, rfl⟩
    · intro seq' data' rest' heq'
      rw [heq] at heq'
      cases heq'
      exact ⟨_, hrecv⟩
    · simp only [hseq, ReliableRx.accept, BitVec.add_assoc, BitVec.ofNat_add_ofNat,
        Nat.add_comm 1]
    · simp only [ReliableRx.accept, ReliableRx.used, List.length_append, List.length_singleton]
      omega
  · intro hfull haccept
    have hroom := (ReliableRx.receive_nextExpected s.rx data).mp (haccept _ _ _ heq)
    omega

/-- The invariant: packets arrive in order, and the credit together with the packets in
flight fits into the room that is left. -/
structure Inv (capacity : ℕ) (s : FifoLink) : Prop extends Ordered capacity s where
  credit_le : s.tx.peerCredit.toNat + s.packets.length + s.rx.used ≤ capacity

theorem inv_init (c : U8) :
  Inv c.toNat (init c c.toNat)
  := by
  use ordered_init c
  simp [init, ReliableTx.new, ReliableRx.new, ReliableRx.used]

theorem inv_step {capacity : ℕ} (s : FifoLink) (a : Action)
    (h : Inv capacity s) (hok : s.AckFits a) :
  Inv capacity (s.step a)
  := by
  have hcredit := h.credit_le
  cases a with
  | queue data isEnd now =>
    by_cases hzero : s.tx.peerCredit = 0#8
    · rw [step, queue, ReliableTx.queue, if_pos hzero]
      apply h
    · obtain ⟨hord, hrx, hlen, hpeer⟩ := h.toOrdered.queue hzero data isEnd now
      use hord
      rw [step, hrx, hlen, hpeer]
      bv_omega
  | deliverPacket =>
    by_cases hpkt : s.packets = []
    · rw [step, deliverPacket, hpkt]
      apply h
    · have hpos := List.length_pos_iff.mpr hpkt
      obtain ⟨-, hord, htx, hused, hlen⟩ :=
        (h.toOrdered.deliverPacket hpkt).1 (by omega)
      use hord
      rw [step, htx, hused]
      omega
  | ack =>
    simp only [step, ack]
    split
    · exact ⟨⟨h.capacity_eq, h.pending, h.consecutive, h.next_seq⟩, hcredit⟩
    · apply h
  | deliverAck =>
    simp only [step, deliverAck]
    split
    · next a rest hacks =>
      have hfits := hok a rest hacks
      have hcap := h.capacity_eq
      refine ⟨⟨hcap, h.pending, h.consecutive, h.next_seq⟩, ?_⟩
      simp only [ReliableTx.onAck_peerCredit]
      omega
    · apply h
  | recv =>
    simp only [step, ReliableRx.recv]
    cases hdel : s.rx.delivered with
    | nil => apply h
    | cons m rest =>
      refine ⟨⟨h.capacity_eq, h.pending, h.consecutive, h.next_seq⟩, ?_⟩
      simp only [ReliableRx.used, hdel, List.length_cons] at hcredit ⊢
      omega

/-- Message credit is a promise when every acknowledgement that arrives fits: the credit,
the packets in flight and the messages held never exceed the capacity, and every packet is
accepted when it arrives. -/
theorem arrival_accepted_of_ackFits (c : U8) (as : List Action)
    (hok : Machine.Along step AckFits (init c c.toNat) as) :
  let s := Machine.run step (init c c.toNat) as
  s.packets.length + s.rx.used + s.tx.peerCredit.toNat ≤ s.rx.capacity ∧ s.ArrivalAccepted
  := by
  have h := Machine.invariant_along inv_step (inv_init c) hok
  generalize Machine.run step (init c c.toNat) as = s at h ⊢
  have hcap := h.capacity_eq
  have hcredit := h.credit_le
  constructor
  · omega
  · intro seq data rest hpkt
    have hne : s.packets ≠ [] := by simp [hpkt]
    have hpos := List.length_pos_iff.mpr hne
    apply ((h.toOrdered.deliverPacket hne).1 (by omega)).1 _ _ _ hpkt

/-- The acknowledgement of the first of two messages arrives after the second message. -/
theorem arrival_accepted_of_ackFits_late_ack :
  ∃ as, Machine.Along step AckFits (init 2#8 2) as ∧
    (Machine.run step (init 2#8 2) as).packets = [(2#32, [2#8])] ∧
    (Machine.run step (init 2#8 2) as).ArrivalAccepted
  := by
  let as : List Action :=
    [.queue [0#8] false 0#64, .queue [1#8] false 0#64, .deliverPacket, .ack, .deliverPacket,
      .recv, .deliverAck, .queue [2#8] false 0#64]
  have hok : Machine.Along step AckFits (init 2#8 2) as := by
    refine ⟨trivial, trivial, trivial, trivial, trivial, trivial, ?_, trivial, trivial⟩
    intro a rest ha
    have hack : a :: rest = [⟨0#32, 0#32, 1#8⟩] := by
      rw [← ha]
      decide
    cases hack
    decide
  use as, hok, by decide
  apply (arrival_accepted_of_ackFits 2#8 _ hok).2

/-- With room for two messages, the acknowledgement of the first arrives while the second
is in flight and gives credit for a third, which is refused on arrival. -/
theorem arrival_refused_by_stale_credit :
  let s := Machine.run step (init 2#8 2)
    [.queue [0#8] false 0#64, .queue [1#8] false 0#64, .deliverPacket, .ack, .deliverAck,
      .queue [2#8] false 0#64, .deliverPacket]
  s.packets = [(2#32, [2#8])] ∧ s.rx.receive 2#32 [2#8] = .error .bufferFull ∧
    ¬ s.ArrivalAccepted
  := by
  have hrefused : ∀ s : FifoLink, s.packets = [(2#32, [2#8])] →
      s.rx.receive 2#32 [2#8] = .error .bufferFull → ¬ s.ArrivalAccepted := by
    intro s hpkt hfull h
    obtain ⟨rx', hrx'⟩ := h _ _ _ hpkt
    rw [hfull] at hrx'
    cases hrx'
  use (by decide), (by decide)
  apply hrefused
  · decide
  · decide

/-! ### An acknowledgement that does not fit leads to a refusal -/

/-- When the packets in flight do not fit, some packet is refused on arrival. -/
theorem Ordered.refused {capacity : ℕ} {s : FifoLink} (h : s.Ordered capacity)
    (hle : s.rx.used ≤ capacity) (hover : capacity < s.packets.length + s.rx.used) :
  ∃ as, ¬ (Machine.run step s as).ArrivalAccepted
  := by
  induction hroom : capacity - s.rx.used generalizing s with
  | zero =>
    use []
    apply (h.deliverPacket (List.length_pos_iff.mp (by omega))).2
    omega
  | succ n ih =>
    obtain ⟨-, hord, -, hused, hlen⟩ :=
      (h.deliverPacket (List.length_pos_iff.mp (by omega))).1 (by omega)
    obtain ⟨as, has⟩ := ih hord (by omega) (by omega) (by omega)
    use .deliverPacket :: as, has

/-- When the credit and the packets in flight do not fit together, the sender can use its
credit so that some packet is refused on arrival. -/
theorem Ordered.refused_of_credit {capacity : ℕ} {s : FifoLink} (h : s.Ordered capacity)
    (hle : s.rx.used ≤ capacity)
    (hover : capacity < s.tx.peerCredit.toNat + s.packets.length + s.rx.used) :
  ∃ as, ¬ (Machine.run step s as).ArrivalAccepted
  := by
  induction hcredit : s.tx.peerCredit.toNat generalizing s with
  | zero => apply h.refused hle (by omega)
  | succ n ih =>
    have hpos : s.tx.peerCredit ≠ 0#8 := by bv_omega
    obtain ⟨hord, hrx, hlen, hpeer⟩ := h.queue hpos [] false 0#64
    have hpeer' : (s.queue [] false 0#64).tx.peerCredit.toNat = n := by
      rw [hpeer]
      bv_omega
    obtain ⟨as, has⟩ := ih hord (by rwa [hrx]) (by rw [hrx, hlen]; omega) hpeer'
    use .queue [] false 0#64 :: as, has

/-- The condition on acknowledgements is exact: after a run that meets it, an arriving
acknowledgement that does not fit makes a later arrival refusable. -/
theorem refused_of_not_ackFits (c : U8) (as : List Action)
    (hok : Machine.Along step AckFits (init c c.toNat) as)
    (hbad : ¬ (Machine.run step (init c c.toNat) as).AckFits .deliverAck) :
  ∃ bs, ¬ (Machine.run step (init c c.toNat) (as ++ .deliverAck :: bs)).ArrivalAccepted
  := by
  have h := Machine.invariant_along inv_step (inv_init c) hok
  simp only [Machine.run_append, Machine.run_cons]
  generalize Machine.run step (init c c.toNat) as = s at h hbad ⊢
  simp only [AckFits, not_forall] at hbad
  obtain ⟨a, rest, hacks, hover⟩ := hbad
  have hcap := h.capacity_eq
  have hcredit := h.credit_le
  rw [step, deliverAck, hacks]
  apply @Ordered.refused_of_credit c.toNat
  · use hcap, h.pending, h.consecutive, h.next_seq
  · simp only
    omega
  · simp only [ReliableTx.onAck_peerCredit]
    omega

end FifoLink

end SmolGnet
