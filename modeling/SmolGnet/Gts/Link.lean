import SmolGnet.Gts.Window
import SmolGnet.Library.Machine

/-!
# A sender and a receiver over a lossy channel

`ReliableLink` joins one `ReliableTx` and one `ReliableRx` by a channel that may drop,
duplicate, delay and reorder what it carries: every packet and every acknowledgement ever
emitted stays available, and a delivery picks any of them, any number of times, or never.

The logs `queued` and `returned` record the messages the sender has taken and the
messages the application has been given.  In every run with fewer than `2 ^ 32` messages
the second is a prefix of the first, and every message the sender has dropped is one the
receiver has accepted.
-/

namespace SmolGnet

/-- A sender and a receiver, the packets and acknowledgements emitted so far, and the
messages taken and returned so far. -/
structure ReliableLink where
  tx : ReliableTx
  rx : ReliableRx
  packets : List (U32 × Bytes × Bool)
  acks : List Ack
  queued : List (Bytes × Bool)
  returned : List Bytes
  deriving DecidableEq

namespace ReliableLink

/-- What the two parties, the channel and the application can do. -/
inductive Action where
  | queue (data : Bytes) (isEnd : Bool) (now : U64)
  | due (now : U64)
  | deliverPacket (i : ℕ)
  | ack
  | deliverAck (i : ℕ)
  | recv

/-- The link before the first message. -/
def init (peerCredit : U8) (capacity : ℕ) : ReliableLink where
  tx := .new peerCredit
  rx := .new capacity
  packets := []
  acks := []
  queued := []
  returned := []

/-- The sender is given a message and emits its packet. -/
def queue (s : ReliableLink) (data : Bytes) (isEnd : Bool) (now : U64) : ReliableLink :=
  match s.tx.queue data isEnd now with
  | .ok (seq, tx) =>
    { s with
      tx := tx
      packets := s.packets ++ [(seq, data, isEnd)]
      queued := s.queued ++ [(data, isEnd)] }
  | .error _ => s

/-- The sender retransmits what is due. -/
def due (s : ReliableLink) (now : U64) : ReliableLink :=
  { s with tx := (s.tx.due now).2, packets := s.packets ++ (s.tx.due now).1 }

/-- The channel delivers the `i`-th packet ever emitted. -/
def deliverPacket (s : ReliableLink) (i : ℕ) : ReliableLink :=
  match s.packets[i]? with
  | some (seq, data, _) =>
    match s.rx.receive seq data with
    | .ok (_, rx) => { s with rx := rx }
    | .error _ => s
  | none => s

/-- The receiver emits an acknowledgement. -/
def ack (s : ReliableLink) : ReliableLink :=
  match s.rx.ack with
  | some a => { s with acks := s.acks ++ [a] }
  | none => s

/-- The channel delivers the `i`-th acknowledgement ever emitted. -/
def deliverAck (s : ReliableLink) (i : ℕ) : ReliableLink :=
  match s.acks[i]? with
  | some a => { s with tx := s.tx.onAck a.base a.bitmap a.credit }
  | none => s

/-- The application asks for a message. -/
def recv (s : ReliableLink) : ReliableLink :=
  match s.rx.recv with
  | (some m, rx) => { s with rx := rx, returned := s.returned ++ [m] }
  | (none, rx) => { s with rx := rx }

/-- One step of the link. -/
def step (s : ReliableLink) : Action → ReliableLink
  | .queue data isEnd now => s.queue data isEnd now
  | .due now => s.due now
  | .deliverPacket i => s.deliverPacket i
  | .ack => s.ack
  | .deliverAck i => s.deliverAck i
  | .recv => s.recv

/-! ### The invariant of the receiver -/

/-- The receiver's part of the invariant, for the list `messages` of the messages taken
and the list `returned` of the messages given to the application: what has been delivered
are the messages below the expected sequence number, and what waits are genuine messages
from it on. -/
structure RxInv (messages : List Bytes) (returned : List Bytes) (rx : ReliableRx) : Prop where
  next_le : rx.nextExpected.toNat ≤ messages.length
  delivered_eq : returned ++ rx.delivered = messages.take rx.nextExpected.toNat
  genuine : ∀ k v, rx.pending[k]? = some v →
    rx.nextExpected ≤ k ∧ messages[k.toNat]? = some v
  seen : rx.seenAny → rx.nextExpected ≠ 0#32

section Receiver

variable {messages returned : List Bytes} {rx : ReliableRx}

/-- Delivering the message with the expected sequence number delivers the next message. -/
theorem RxInv.next
    (h : RxInv messages returned rx) (hlt : messages.length < 2 ^ 32) {v : Bytes}
    (hv : messages[rx.nextExpected.toNat]? = some v) :
  (rx.nextExpected + 1#32).toNat = rx.nextExpected.toNat + 1 ∧
    (rx.nextExpected + 1#32).toNat ≤ messages.length ∧
    returned ++ (rx.delivered ++ [v]) = messages.take (rx.nextExpected + 1#32).toNat
  := by
  obtain ⟨hidx, hget⟩ := List.getElem?_eq_some_iff.mp hv
  have hnext : (rx.nextExpected + 1#32).toNat = rx.nextExpected.toNat + 1 := by
    rw [BitVec.toNat_add, BitVec.toNat_ofNat]
    omega
  use hnext, by omega
  rw [hnext, List.take_add_one, hv, ← List.append_assoc, h.delivered_eq, Option.toList_some]

/-- A round of the delivery loop preserves the receiver's invariant, and forgets no
message that the receiver holds. -/
theorem RxInv.deliverNext
    (h : RxInv messages returned rx) (hlt : messages.length < 2 ^ 32) {v : Bytes}
    (hv : rx.pending[rx.nextExpected]? = some v) :
  RxInv messages returned (rx.deliverNext v) ∧
    ∀ k, rx.Holds k → (rx.deliverNext v).Holds k
  := by
  obtain ⟨hnext, hle, hdel⟩ := h.next hlt (h.genuine _ _ hv).2
  constructor
  · constructor
    · apply hle
    · apply hdel
    · intro k w hk
      simp only [ReliableRx.deliverNext, TreeMap.getElem?_erase] at hk
      split at hk
      · cases hk
      · next hne =>
        obtain ⟨hge, hw⟩ := h.genuine k w hk
        use (by simp only [ReliableRx.deliverNext]; bv_omega), hw
    · intro _
      simp only [ReliableRx.deliverNext]
      bv_omega
  · rintro k (hlt' | hmem)
    · left
      simp only [ReliableRx.deliverNext]
      bv_omega
    · by_cases hk : k = rx.nextExpected
      · left
        simp only [ReliableRx.deliverNext]
        bv_omega
      · right
        apply Std.ExtTreeMap.mem_erase.mpr
        constructor
        · intro heq
          apply hk
          rw [Std.LawfulEqCmp.eq_of_compare heq]
        · apply hmem

/-- Accepting the expected message preserves the receiver's invariant, and forgets no
message that the receiver holds. -/
theorem RxInv.accept
    (h : RxInv messages returned rx) (hlt : messages.length < 2 ^ 32)
    (hw : rx.Windowed) {data : Bytes}
    (hdata : messages[rx.nextExpected.toNat]? = some data) :
  RxInv messages returned (rx.accept data) ∧
    (∀ k, rx.Holds k → (rx.accept data).Holds k) ∧
    (rx.accept data).Holds rx.nextExpected
  := by
  obtain ⟨hnext, hle, hdel⟩ := h.next hlt hdata
  refine ⟨⟨hle, hdel, ?_, ?_⟩, ?_, ?_⟩
  · intro k w hk
    obtain ⟨hge, hmsg⟩ := h.genuine k w hk
    obtain ⟨hne, -⟩ := hw k (TreeMap.mem_of_getElem? hk)
    use (by simp only [ReliableRx.accept]; bv_omega), hmsg
  · intro _
    simp only [ReliableRx.accept]
    bv_omega
  · rintro k (hlt' | hmem)
    · left
      simp only [ReliableRx.accept]
      bv_omega
    · apply Or.inr hmem
  · left
    simp only [ReliableRx.accept]
    bv_omega

/-- A genuine packet preserves the receiver's invariant, and forgets no message that the
receiver holds; if it is accepted, the receiver holds its message. -/
theorem RxInv.receive
    (h : RxInv messages returned rx) (hlt : messages.length < 2 ^ 32) (hw : rx.Windowed)
    {seq : U32} {data : Bytes} (hdata : messages[seq.toNat]? = some data)
    {b : Bool} {rx' : ReliableRx} (hrx : rx.receive seq data = .ok (b, rx')) :
  RxInv messages returned rx' ∧ rx.nextExpected ≤ rx'.nextExpected ∧
    (∀ k, rx.Holds k → rx'.Holds k) ∧ rx'.Holds seq
  := by
  obtain ⟨hold, -, rfl⟩ | ⟨rfl, -, -, rfl⟩ | ⟨hgt, -, -, -, rfl⟩ := ReliableRx.receive_eq_ok hrx
  · use h, BitVec.le_refl _, fun _ => id, Or.inl hold
  · obtain ⟨hinv, hmono, hseq⟩ := h.accept hlt hw hdata
    obtain ⟨hnext, -⟩ := h.next hlt hdata
    have hle : rx.nextExpected ≤ (rx.accept data).nextExpected := by
      simp only [ReliableRx.accept]
      bv_omega
    obtain ⟨hinv', hle', hmono'⟩ := ReliableRx.drain_induction
      (P := fun rx' => RxInv messages returned rx' ∧ rx.nextExpected ≤ rx'.nextExpected ∧
        ∀ k, (rx.accept data).Holds k → rx'.Holds k)
      (fun rx₁ v h₁ hv => by
        obtain ⟨hinv₁, hle₁, hmono₁⟩ := h₁
        obtain ⟨hinv₂, hmono₂⟩ := hinv₁.deliverNext hlt hv
        obtain ⟨hnext₁, -⟩ := hinv₁.next hlt (hinv₁.genuine _ _ hv).2
        use hinv₂, (by simp only [ReliableRx.deliverNext]; bv_omega),
          fun k hk => hmono₂ k (hmono₁ k hk))
      rx.pending.size ⟨hinv, hle, fun _ => id⟩
    use hinv', hle', fun k hk => hmono' k (hmono k hk), hmono' _ hseq
  · refine ⟨⟨h.next_le, h.delivered_eq, ?_, h.seen⟩, BitVec.le_refl _, ?_, ?_⟩
    · intro k v hk
      simp only [TreeMap.getElem?_insertIfNew] at hk
      split at hk
      · next heq =>
        subst heq
        use (by simp only; bv_omega)
        cases hold : rx.pending[seq]? with
        | none => simpa [hold, hdata] using hk
        | some w =>
          rw [(h.genuine seq w hold).2]
          simpa [hold] using hk
      · apply h.genuine k v hk
    · rintro k (hlt' | hmem)
      · apply Or.inl hlt'
      · apply Or.inr (Std.ExtTreeMap.mem_insertIfNew.mpr (Or.inr hmem))
    · apply Or.inr (Std.ExtTreeMap.mem_insertIfNew.mpr (Or.inl Std.compare_self))

/-- The receiver's invariant does not depend on messages taken later. -/
theorem RxInv.append (h : RxInv messages returned rx) (m : Bytes) :
  RxInv (messages ++ [m]) returned rx
  := by
  obtain ⟨hle, hdel, hgen, hseen⟩ := h
  refine ⟨?_, ?_, ?_, hseen⟩
  · rw [List.length_append]
    omega
  · rw [hdel, List.take_append_of_le_length hle]
  · intro k v hk
    obtain ⟨hge, hv⟩ := hgen k v hk
    obtain ⟨hidx, -⟩ := List.getElem?_eq_some_iff.mp hv
    use hge
    rw [List.getElem?_append_left hidx, hv]

/-- The application takes the next message. -/
theorem RxInv.recv {m : Bytes} {rest : List Bytes} (h : RxInv messages returned rx)
    (hdel : rx.delivered = m :: rest) :
  RxInv messages (returned ++ [m]) { rx with delivered := rest }
  := by
  refine ⟨h.next_le, ?_, h.genuine, h.seen⟩
  rw [← h.delivered_eq, hdel, List.append_assoc, List.singleton_append]

theorem rxInv_new (messages : List Bytes) (capacity : ℕ) :
  RxInv messages [] (ReliableRx.new capacity)
  := by
  constructor
  · simp [ReliableRx.new]
  · simp [ReliableRx.new]
  · simp [ReliableRx.new]
  · simp [ReliableRx.new]

/-- The messages that wait are among those after the expected one. -/
theorem RxInv.pending_size_le (h : RxInv messages returned rx) (hw : rx.Windowed) :
  rx.pending.size ≤ messages.length - rx.nextExpected.toNat - 1
  := by
  have hkey : ∀ k ∈ rx.pending,
      rx.nextExpected.toNat < k.toNat ∧ k.toNat < messages.length := by
    intro k hk
    obtain ⟨hne, -⟩ := hw k hk
    rw [Std.ExtTreeMap.mem_iff_isSome_getElem?] at hk
    obtain ⟨v, hv⟩ := Option.isSome_iff_exists.mp hk
    obtain ⟨hge, hmsg⟩ := h.genuine k v hv
    obtain ⟨hidx, -⟩ := List.getElem?_eq_some_iff.mp hmsg
    constructor
    · bv_omega
    · apply hidx
  apply TreeMap.size_le_of_injOn rx.pending (fun k => k.toNat - rx.nextExpected.toNat - 1)
  · intro k hk
    have := hkey k hk
    omega
  · intro k hk k' hk' heq
    have := hkey k hk
    have := hkey k' hk'
    apply BitVec.eq_of_toNat_eq
    omega

end Receiver

/-! ### The invariant of the link -/

/-- The invariant of the link: the sender's numbering follows the log, whatever is
outstanding or in the channel is genuine, every message taken is outstanding or held by
the receiver, and every acknowledgement covers only messages the receiver holds. -/
structure Inv (s : ReliableLink) : Prop where
  next_seq : s.tx.nextSequence.toNat = s.queued.length
  outstanding : ∀ (k : U32) p, s.tx.outstanding[k]? = some p →
    s.queued[k.toNat]? = some (p.data, p.isEnd)
  packets : ∀ d ∈ s.packets, s.queued[d.1.toNat]? = some d.2
  receiver : RxInv (s.queued.map Prod.fst) s.returned s.rx
  windowed : s.rx.Windowed
  held : ∀ k : U32, k.toNat < s.queued.length → k ∈ s.tx.outstanding ∨ s.rx.Holds k
  acks : ∀ a ∈ s.acks, ∀ k, acked a.base a.bitmap k = true → s.rx.Holds k

theorem inv_init (peerCredit : U8) (capacity : ℕ) :
  (init peerCredit capacity).Inv
  := by
  constructor
  · rfl
  · intro k p hk
    simp [init, ReliableTx.new] at hk
  · simp [init]
  · apply rxInv_new
  · apply ReliableRx.windowed_new
  · simp [init]
  · simp [init]

variable {s : ReliableLink}

theorem inv_queue (h : s.Inv) (data : Bytes) (isEnd : Bool) (now : U64)
    (hlt : (s.queue data isEnd now).queued.length < 2 ^ 32) :
  (s.queue data isEnd now).Inv
  := by
  unfold queue at hlt ⊢
  split
  · next seq tx htx =>
    obtain ⟨-, rfl, rfl⟩ := ReliableTx.queue_eq_ok htx
    simp only [htx, List.length_append, List.length_singleton] at hlt
    have hold : ∀ {i : ℕ} {x}, s.queued[i]? = some x →
        (s.queued ++ [(data, isEnd)])[i]? = some x := by
      intro i x hi
      obtain ⟨hidx, -⟩ := List.getElem?_eq_some_iff.mp hi
      rw [List.getElem?_append_left hidx, hi]
    have hnew : (s.queued ++ [(data, isEnd)])[s.tx.nextSequence.toNat]? = some (data, isEnd) := by
      rw [h.next_seq, List.getElem?_concat_length]
    constructor
    · simp only [List.length_append, List.length_singleton, ← h.next_seq]
      have := h.next_seq
      bv_omega
    · intro k p hk
      simp only [TreeMap.getElem?_insert] at hk
      split at hk
      · next heq =>
        subst heq
        obtain rfl := Option.some.inj hk
        apply hnew
      · apply hold (h.outstanding k p hk)
    · intro d hd
      rcases List.mem_append.mp hd with hd | hd
      · apply hold (h.packets d hd)
      · obtain rfl := List.mem_singleton.mp hd
        apply hnew
    · simp only [List.map_append, List.map_singleton]
      apply h.receiver.append
    · apply h.windowed
    · intro k hk
      simp only [List.length_append, List.length_singleton] at hk
      by_cases heq : k = s.tx.nextSequence
      · left
        apply Std.ExtTreeMap.mem_insert.mpr
        rw [heq]
        apply Or.inl Std.compare_self
      · have hk' : k.toNat < s.queued.length := by
          have hne : k.toNat ≠ s.tx.nextSequence.toNat := by
            intro h'
            apply heq (BitVec.eq_of_toNat_eq h')
          have := h.next_seq
          omega
        rcases h.held k hk' with hmem | hholds
        · apply Or.inl (Std.ExtTreeMap.mem_insert.mpr (Or.inr hmem))
        · apply Or.inr hholds
    · apply h.acks
  · apply h

theorem inv_due (h : s.Inv) (now : U64) :
  (s.due now).Inv
  := by
  have hget := s.tx.getElem?_due now
  refine ⟨h.next_seq, ?_, ?_, h.receiver, h.windowed, ?_, h.acks⟩
  · intro k p hk
    simp only [due] at hk
    rw [hget] at hk
    obtain ⟨p₀, hp₀, rfl⟩ := Option.map_eq_some_iff.mp hk
    have hq := h.outstanding k p₀ hp₀
    split
    · apply hq
    · apply hq
  · intro d hd
    rcases List.mem_append.mp hd with hd | hd
    · apply h.packets d hd
    · obtain ⟨sentAt, hout⟩ := ReliableTx.mem_due hd
      apply h.outstanding _ _ hout
  · intro k hk
    rcases h.held k hk with hmem | hholds
    · left
      rw [Std.ExtTreeMap.mem_iff_isSome_getElem?] at hmem ⊢
      rw [due, hget, Option.isSome_map, hmem]
    · apply Or.inr hholds

theorem inv_deliverPacket (h : s.Inv) (i : ℕ) (hlt : s.queued.length < 2 ^ 32) :
  (s.deliverPacket i).Inv
  := by
  unfold deliverPacket
  split
  · next seq data isEnd hpkt =>
    split
    · next b rx hrx =>
      have hgen := h.packets _ (List.mem_of_getElem? hpkt)
      have hdata : (s.queued.map Prod.fst)[seq.toNat]? = some data := by
        rw [List.getElem?_map, hgen, Option.map_some]
      obtain ⟨hinv, -, hmono, -⟩ := h.receiver.receive (by rwa [List.length_map]) h.windowed hdata hrx
      refine ⟨h.next_seq, h.outstanding, h.packets, hinv,
        ReliableRx.receive_windowed h.windowed hrx, ?_, ?_⟩
      · intro k hk
        rcases h.held k hk with hmem | hholds
        · apply Or.inl hmem
        · apply Or.inr (hmono k hholds)
      · intro a ha k hk
        apply hmono k (h.acks a ha k hk)
    · apply h
  · apply h

theorem inv_ack (h : s.Inv) :
  s.ack.Inv
  := by
  unfold ack
  split
  · next a ha =>
    refine ⟨h.next_seq, h.outstanding, h.packets, h.receiver, h.windowed, h.held, ?_⟩
    intro a' ha' k hk
    rcases List.mem_append.mp ha' with ha' | ha'
    · apply h.acks a' ha' k hk
    · obtain rfl := List.mem_singleton.mp ha'
      apply ReliableRx.holds_of_acked h.receiver.seen ha hk
  · apply h

theorem inv_deliverAck (h : s.Inv) (i : ℕ) :
  (s.deliverAck i).Inv
  := by
  unfold deliverAck
  split
  · next a ha =>
    have hget := s.tx.getElem?_onAck a.base a.bitmap a.credit
    refine ⟨h.next_seq, ?_, h.packets, h.receiver, h.windowed, ?_, h.acks⟩
    · intro k p hk
      simp only [hget] at hk
      split at hk
      · cases hk
      · apply h.outstanding k p hk
    · intro k hk
      by_cases hcov : acked a.base a.bitmap k = true
      · apply Or.inr (h.acks a (List.mem_of_getElem? ha) k hcov)
      · rcases h.held k hk with hmem | hholds
        · left
          rw [Std.ExtTreeMap.mem_iff_isSome_getElem?] at hmem ⊢
          rw [hget, if_neg hcov, hmem]
        · apply Or.inr hholds
  · apply h

theorem inv_recv (h : s.Inv) :
  s.recv.Inv
  := by
  unfold recv ReliableRx.recv
  cases hdel : s.rx.delivered with
  | nil => apply h
  | cons m rest =>
    refine ⟨h.next_seq, h.outstanding, h.packets, h.receiver.recv hdel, ?_, h.held, h.acks⟩
    apply h.windowed

/-- Only the sender taking a message adds to the log of messages taken. -/
theorem step_queued (s : ReliableLink) (a : Action) :
  (s.step a).queued = s.queued ∨ ∃ m, (s.step a).queued = s.queued ++ [m]
  := by
  cases a with
  | queue data isEnd now =>
    simp only [step, queue]
    split
    · apply Or.inr ⟨_, rfl⟩
    · apply Or.inl rfl
  | due now => apply Or.inl rfl
  | deliverPacket i =>
    left
    simp only [step, deliverPacket]
    split
    · split <;> rfl
    · rfl
  | ack =>
    left
    simp only [step, ack]
    split <;> rfl
  | deliverAck i =>
    left
    simp only [step, deliverAck]
    split <;> rfl
  | recv =>
    left
    simp only [step, recv]
    split <;> rfl

theorem queued_length_le (s : ReliableLink) (a : Action) :
  s.queued.length ≤ (s.step a).queued.length
  := by
  rcases step_queued s a with h | ⟨m, h⟩
  · rw [h]
  · rw [h, List.length_append]
    omega

/-- Every step preserves the invariant as long as fewer than `2 ^ 32` messages have been
taken. -/
theorem inv_step (s : ReliableLink) (a : Action) (h : s.Inv)
    (hlt : (s.step a).queued.length < 2 ^ 32) :
  (s.step a).Inv
  := by
  cases a with
  | queue data isEnd now => apply inv_queue h data isEnd now hlt
  | due now => apply inv_due h
  | deliverPacket i =>
    apply inv_deliverPacket h i
    apply Nat.lt_of_le_of_lt (queued_length_le s (.deliverPacket i)) hlt
  | ack => apply inv_ack h
  | deliverAck i => apply inv_deliverAck h
  | recv => apply inv_recv h

/-- The invariant holds in every state reached with fewer than `2 ^ 32` messages. -/
theorem inv_run (peerCredit : U8) (capacity : ℕ) (as : List Action)
    (hlt : (Machine.run step (init peerCredit capacity) as).queued.length < 2 ^ 32) :
  (Machine.run step (init peerCredit capacity) as).Inv
  := Machine.invariant_run_of_lt queued_length_le inv_step (inv_init peerCredit capacity) as hlt

/-! ### Delivery -/

/-- Reliable delivery: the messages the application has been given are a prefix of the
messages the sender has taken. -/
theorem returned_prefix (peerCredit : U8) (capacity : ℕ) (as : List Action)
    (hlt : (Machine.run step (init peerCredit capacity) as).queued.length < 2 ^ 32) :
  (Machine.run step (init peerCredit capacity) as).returned
    <+: (Machine.run step (init peerCredit capacity) as).queued.map Prod.fst
  := by
  have h := (inv_run peerCredit capacity as hlt).receiver
  apply (List.prefix_append _ _).trans
  rw [h.delivered_eq]
  apply List.take_prefix

/-- Two messages that arrive in the other order, one of them twice, are given to the
application in the order they were taken. -/
theorem returned_prefix_reordered :
  ∃ as, (Machine.run step (init 4#8 4) as).queued.length < 2 ^ 32 ∧
    (Machine.run step (init 4#8 4) as).returned = [[1#8], [2#8]] ∧
    (Machine.run step (init 4#8 4) as).returned
      <+: (Machine.run step (init 4#8 4) as).queued.map Prod.fst
  := by
  use [.queue [1#8] false 0#64, .queue [2#8] true 0#64, .deliverPacket 1, .deliverPacket 1,
    .deliverPacket 0, .recv, .ack, .deliverAck 0, .recv]
  use (by decide), (by decide)
  apply returned_prefix
  decide

/-- The receiver has the message that carries the sequence number `k`: it waits, it is
delivered, or it has been given to the application. -/
def Accepted (s : ReliableLink) (k : U32) (data : Bytes) : Prop :=
  s.rx.pending[k]? = some data ∨ (s.returned ++ s.rx.delivered)[k.toNat]? = some data

/-- The receiver has accepted the contents of every message it holds. -/
theorem Inv.accepted
    {s : ReliableLink} (h : s.Inv) {k : U32} {data : Bytes} {isEnd : Bool}
    (hk : s.queued[k.toNat]? = some (data, isEnd)) (hholds : s.rx.Holds k) :
  s.Accepted k data
  := by
  have hdata : (s.queued.map Prod.fst)[k.toNat]? = some data := by
    rw [List.getElem?_map, hk, Option.map_some]
  rcases hholds with hlt | hmem
  · right
    rw [h.receiver.delivered_eq, List.getElem?_take_of_lt (BitVec.lt_def.mp hlt), hdata]
  · left
    rw [Std.ExtTreeMap.mem_iff_isSome_getElem?] at hmem
    obtain ⟨v, hv⟩ := Option.isSome_iff_exists.mp hmem
    have hv' := (h.receiver.genuine k v hv).2
    rw [hdata] at hv'
    rw [hv, hv']

/-- No message is lost by acknowledgement: every message taken is still outstanding with
its contents or has been accepted by the receiver, and any acknowledgement the receiver
has ever produced removes only messages the receiver has accepted. -/
theorem outstanding_or_accepted (peerCredit : U8) (capacity : ℕ) (as : List Action)
    (hlt : (Machine.run step (init peerCredit capacity) as).queued.length < 2 ^ 32) :
  let s := Machine.run step (init peerCredit capacity) as
  (∀ i data isEnd, s.queued[i]? = some (data, isEnd) →
    (∃ sentAt, s.tx.outstanding[BitVec.ofNat 32 i]? = some ⟨data, isEnd, sentAt⟩) ∨
      s.Accepted (BitVec.ofNat 32 i) data) ∧
  (∀ a ∈ s.acks, ∀ k p, s.tx.outstanding[k]? = some p →
    (s.tx.onAck a.base a.bitmap a.credit).outstanding[k]? = none →
      s.Accepted k p.data)
  := by
  have h := inv_run peerCredit capacity as hlt
  generalize Machine.run step (init peerCredit capacity) as = s at h hlt ⊢
  constructor
  · intro i data isEnd hi
    obtain ⟨hidx, -⟩ := List.getElem?_eq_some_iff.mp hi
    have hnat : (BitVec.ofNat 32 i).toNat = i := by
      rw [BitVec.toNat_ofNat]
      omega
    rw [← hnat] at hi hidx
    rcases h.held _ hidx with hmem | hholds
    · left
      rw [Std.ExtTreeMap.mem_iff_isSome_getElem?] at hmem
      obtain ⟨p, hp⟩ := Option.isSome_iff_exists.mp hmem
      have hq := h.outstanding _ _ hp
      rw [hi] at hq
      obtain ⟨rfl, rfl⟩ := Prod.mk.inj (Option.some.inj hq)
      use p.sentAt, hp
    · apply Or.inr (h.accepted hi hholds)
  · intro a ha k p hp hnone
    rw [s.tx.getElem?_onAck] at hnone
    split at hnone
    · next hcov => apply h.accepted (h.outstanding k p hp) (h.acks a ha k hcov)
    · rw [hp] at hnone
      cases hnone

/-- With one message lost and a later one received, the acknowledgement removes the
messages received and leaves the lost one. -/
theorem outstanding_or_accepted_hole :
  ∃ as, (Machine.run step (init 4#8 4) as).queued.length < 2 ^ 32 ∧
    (Machine.run step (init 4#8 4) as).tx.outstanding.keys = [1#32] ∧
    let s := Machine.run step (init 4#8 4) as
    (∀ i data isEnd, s.queued[i]? = some (data, isEnd) →
      (∃ sentAt, s.tx.outstanding[BitVec.ofNat 32 i]? = some ⟨data, isEnd, sentAt⟩) ∨
        s.Accepted (BitVec.ofNat 32 i) data)
  := by
  use [.queue [1#8] false 0#64, .queue [2#8] false 0#64, .queue [3#8] true 0#64,
    .deliverPacket 0, .deliverPacket 2, .ack, .deliverAck 0]
  use (by decide), (by decide)
  apply (outstanding_or_accepted 4#8 4 _ _).1
  decide

end ReliableLink

end SmolGnet
