import SmolGnet.BoundedGts.Received
import SmolGnet.Library.Machine
import Mathlib.Data.Finset.Card
import Mathlib.Data.Finset.Range

/-!
# Delivery by the heapless socket

The messages of a reliable stream are taken in the order in which they were delivered, and
that is told from a counter which all streams share.  The counter has 64 bits and starts
again from 1.  A delivery number is given at most once for each packet that has arrived,
counting for a pending message the packet that brought it.  So before the 2⁶⁴-th packet the
numbers do not repeat, and the messages taken are a prefix of the messages sent
(`InOrder`).
-/

namespace SmolGnet

/-! ### The delivery counter -/

namespace BoundedGtsSocket

theorem toNat_nextOrder {order : U64} {n : ℕ} (h : order.toNat = n) (hlt : n + 1 < 2 ^ 64) :
  (nextOrder order).toNat = n + 1
  := by
  rw [nextOrder]
  split
  · bv_omega
  · bv_omega

theorem nextOrder_ne (order : U64) :
  nextOrder order ≠ order
  := by
  rw [nextOrder]
  split
  · bv_omega
  · bv_omega

end BoundedGtsSocket

namespace RxView

open scoped Classical

variable {v v' : RxView} {id id' : U8} {i j n n' r t t' : ℕ} {m : RxMeta} {data : Bytes}
  {c c' : StreamCore} {G : U32 → Bytes → Bool → Prop} {messages : List (Bytes × Bool)}

/-- The slot has a message that waits for the ones before it. -/
def IsPending (v : RxView) (i : ℕ) : Prop :=
  ∃ m data, v.slots i = some (m, data) ∧ m.disposition = .pending

/-- The number of messages that wait for the ones before them. -/
noncomputable def pending (v : RxView) : ℕ :=
  ((Finset.range v.capacity).filter v.IsPending).card

theorem pending_le_capacity (v : RxView) :
  v.pending ≤ v.capacity
  := by
  apply (Finset.card_filter_le _ _).trans
  rw [Finset.card_range]

theorem pending_eq_zero (h : ∀ i x, v.slots i ≠ some x) :
  v.pending = 0
  := by
  rw [pending, Finset.card_eq_zero, Finset.filter_eq_empty_iff]
  rintro i - ⟨m, data, hi, -⟩
  exact h i _ hi

/-- At most the replaced slot has a message that did not wait before. -/
theorem pending_setSlot_le (v : RxView) (i : ℕ) (x : Option (RxMeta × Bytes)) :
  (v.setSlot i x).pending ≤ v.pending + 1
  := by
  apply le_trans (Finset.card_le_card _) (Finset.card_insert_le i _)
  intro j hj
  obtain ⟨hj, m, data, hslot, hm⟩ := Finset.mem_filter.mp hj
  rw [Finset.mem_insert, Finset.mem_filter]
  rcases setSlot_eq_some.mp hslot with ⟨rfl, -⟩ | ⟨-, hslot⟩
  · exact Or.inl rfl
  · exact Or.inr ⟨hj, m, data, hslot, hm⟩

/-- A slot is freed, or given a message that has been delivered. -/
theorem isPending_setSlot {x : Option (RxMeta × Bytes)}
    (hx : ∀ m data, x = some (m, data) → m.disposition = .delivered) :
  (v.setSlot i x).IsPending j ↔ v.IsPending j ∧ j ≠ i
  := by
  constructor
  · rintro ⟨m, data, hslot, hm⟩
    rcases setSlot_eq_some.mp hslot with ⟨-, heq⟩ | ⟨hne, hslot⟩
    · rw [hx m data heq] at hm
      cases hm
    · exact ⟨⟨m, data, hslot, hm⟩, hne⟩
  · rintro ⟨⟨m, data, hslot, hm⟩, hne⟩
    exact ⟨m, data, setSlot_eq_some.mpr (Or.inr ⟨hne, hslot⟩), hm⟩

theorem pending_setSlot_delivered {x : Option (RxMeta × Bytes)} (v : RxView) (i : ℕ)
    (hx : ∀ m data, x = some (m, data) → m.disposition = .delivered) :
  (v.setSlot i x).pending ≤ v.pending
  := by
  apply Finset.card_le_card
  intro j hj
  obtain ⟨hj, hpending⟩ := Finset.mem_filter.mp hj
  exact Finset.mem_filter.mpr ⟨hj, ((isPending_setSlot hx).mp hpending).1⟩

/-- A message that waited is delivered. -/
theorem pending_deliver {x : Option (RxMeta × Bytes)} (hi : v.IsPending i) (hlt : i < v.capacity)
    (hx : ∀ m data, x = some (m, data) → m.disposition = .delivered) :
  (v.setSlot i x).pending + 1 ≤ v.pending
  := by
  apply Finset.card_lt_card
  constructor
  · intro j hj
    obtain ⟨hj, hpending⟩ := Finset.mem_filter.mp hj
    exact Finset.mem_filter.mpr ⟨hj, ((isPending_setSlot hx).mp hpending).1⟩
  · intro hsub
    obtain ⟨-, hpending⟩ :=
      Finset.mem_filter.mp (hsub (Finset.mem_filter.mpr ⟨Finset.mem_range.mpr hlt, hi⟩))
    exact ((isPending_setSlot hx).mp hpending).2 rfl

/-- Of the `n` packets so far each has been given a delivery number, or waits for one; `t`
delivery numbers have been given. -/
structure Counted (t n : ℕ) (v : RxView) : Prop where
  bounded : ∀ i x, v.slots i = some x → i < v.capacity
  order_eq : t + 1 < 2 ^ 64 → v.order.toNat = t + 1
  le : t + v.pending ≤ n

theorem Counted.tick (h : Counted t n v) (hlt : t + 1 < 2 ^ 64) (hle : t + 1 + v.pending ≤ n) :
  Counted (t + 1) n v.tick
  := ⟨h.bounded, BoundedGtsSocket.toNat_nextOrder (h.order_eq hlt), hle⟩

theorem Counted.setStream (h : Counted t n v) (id : U8) (c : StreamCore) :
  Counted t n (v.setStream id c)
  := ⟨h.bounded, h.order_eq, h.le⟩

theorem Counted.setSlot (h : Counted t n v) {x : Option (RxMeta × Bytes)} (hi : i < v.capacity)
    (hle : t + (v.setSlot i x).pending ≤ n') :
  Counted t n' (v.setSlot i x)
  := by
  refine ⟨?_, h.order_eq, hle⟩
  intro j y hj
  rcases setSlot_eq_some.mp hj with ⟨rfl, -⟩ | ⟨-, hj⟩
  · exact hi
  · exact h.bounded j y hj

/-- One more packet arrives. -/
theorem Counted.arrival (h : Counted t n v) (hn : n + 1 < 2 ^ 64) (ha : Arrival id G v v') :
  ∃ t', t ≤ t' ∧ (v'.order ≠ v.order → t < t') ∧ Counted t' (n + 1) v'
  := by
  have hle := h.le
  have hlt : t + 1 < 2 ^ 64 := by omega
  have hmore : Counted t (n + 1) v := ⟨h.bounded, h.order_eq, by omega⟩
  cases ha with
  | ignored => exact ⟨t, Nat.le_refl t, fun hne => absurd rfl hne, hmore⟩
  | refused =>
    exact ⟨t + 1, Nat.le_succ t, fun _ => Nat.lt_succ_self t, hmore.tick hlt (by omega)⟩
  | @early c seq data isEnd i hc hrel hG hearly hnew hi hfree =>
    have hpending := v.pending_setSlot_le i (some (⟨id, seq, isEnd, .pending, 0#64⟩, data))
    exact ⟨t, Nat.le_refl t, fun hne => absurd rfl hne,
      (hmore.setSlot hi (by omega)).setStream id _⟩
  | @expected c data isEnd i hc hrel hG hnew hi hfree =>
    have hpending := v.pending_setSlot_delivered i
      (x := some (⟨id, c.nextExpected, isEnd, .delivered, v.order⟩, data)) (by rintro _ _ ⟨⟩; rfl)
    refine ⟨t + 1, Nat.le_succ t, fun _ => Nat.lt_succ_self t, Counted.tick ?_ hlt ?_⟩
    · exact (hmore.setSlot hi (by omega)).setStream id _
    · exact (Nat.add_le_add_left hpending _).trans (by omega)
  | overtaken hc hrel =>
    refine ⟨t + 1, Nat.le_succ t, fun _ => Nat.lt_succ_self t, Counted.tick ?_ hlt ?_⟩
    · exact hmore.setStream id _
    · exact (Nat.add_le_add_left (Nat.le_refl v.pending) _).trans (by omega)
  | @datagram c highest seq data i hc hrel hi hfree =>
    have hpending := v.pending_setSlot_delivered i
      (x := some (⟨id, seq, false, .delivered, v.order⟩, data)) (by rintro _ _ ⟨⟩; rfl)
    refine ⟨t + 1, Nat.le_succ t, fun _ => Nat.lt_succ_self t, Counted.tick ?_ hlt ?_⟩
    · exact (hmore.setSlot hi (by omega)).setStream id _
    · exact (Nat.add_le_add_left hpending _).trans (by omega)

/-- A message that waited is delivered: the delivery number is the one its packet was
counted for. -/
theorem Counted.deliver (h : Counted t n v) (hn : n < 2 ^ 64) (hd : Deliver id v v') :
  t + 1 < 2 ^ 64 ∧ v'.order ≠ v.order ∧ Counted (t + 1) n v'
  := by
  cases hd with
  | @mk c m data i hc hi hid hseq hpending =>
    have hlt := h.bounded i _ hi
    have hcount := pending_deliver
      (x := some ({ m with disposition := .delivered, order := v.order }, data))
      ⟨m, data, hi, hpending⟩ hlt (by rintro _ _ ⟨⟩; rfl)
    have hle := h.le
    refine ⟨by omega, BoundedGtsSocket.nextOrder_ne _, Counted.tick ?_ (by omega) ?_⟩
    · exact (h.setSlot hlt (by omega)).setStream id _
    · apply Nat.le_trans _ h.le
      rw [Nat.add_assoc, Nat.add_comm 1]
      exact Nat.add_le_add_left hcount t

/-- A message is taken. -/
theorem Counted.remove (h : Counted t n v) (hi : i < v.capacity) :
  Counted t n (v.setSlot i none)
  := by
  apply h.setSlot hi
  apply Nat.le_trans _ h.le
  apply Nat.add_le_add_left
  exact v.pending_setSlot_delivered i (by rintro _ _ ⟨⟩)

/-! ### The order of the delivered messages -/

/-- The entry of the slot is a delivered message of the stream. -/
def Delivered (v : RxView) (id : U8) (i : ℕ) (m : RxMeta) : Prop :=
  (∃ data, v.slots i = some (m, data)) ∧ m.streamId = id ∧ m.disposition = .delivered

/-- `r` messages of the stream have been taken, the delivered ones after them are in the
pool, and their delivery numbers, of which the last is at most `t`, grow with the sequence
numbers. -/
structure InOrder (id : U8) (messages : List (Bytes × Bool)) (r t : ℕ) (v : RxView)
    (c : StreamCore) : Prop extends Received id messages v c where
  taken_le : r ≤ c.nextExpected.toNat
  waiting : ∀ k, r ≤ k.toNat → k < c.nextExpected → v.Stores id k
  not_taken : ∀ i m data, v.slots i = some (m, data) → m.streamId = id → r ≤ m.sequence.toNat
  below : ∀ i m, v.Delivered id i m → m.order.toNat ≤ t
  increasing : ∀ i j m m', v.Delivered id i m → v.Delivered id j m' →
    m.sequence < m'.sequence → m.order < m'.order

theorem SameFor.delivered_iff (h : SameFor id v v') :
  v'.Delivered id i m ↔ v.Delivered id i m
  := by
  constructor
  · rintro ⟨⟨data, hi⟩, hm⟩
    exact ⟨⟨data, (h.slots_iff i m data hm.1).mp hi⟩, hm⟩
  · rintro ⟨⟨data, hi⟩, hm⟩
    exact ⟨⟨data, (h.slots_iff i m data hm.1).mpr hi⟩, hm⟩

/-- What happens on other streams leaves the order as it is. -/
theorem InOrder.sameFor (h : InOrder id messages r t v c) (hsame : SameFor id v v')
    (ht : t ≤ t') :
  InOrder id messages r t' v' c
  := by
  refine ⟨h.toReceived.sameFor hsame, h.taken_le, ?_, ?_, ?_, ?_⟩
  · intro k hk hlt
    exact (hsame.stores_iff k).mpr (h.waiting k hk hlt)
  · intro i m data hi hm
    exact h.not_taken i m data ((hsame.slots_iff i m data hm).mp hi) hm
  · intro i m hm
    exact Nat.le_trans (h.below i m (hsame.delivered_iff.mp hm)) ht
  · intro i j m m' hm hm'
    exact h.increasing i j m m' (hsame.delivered_iff.mp hm) (hsame.delivered_iff.mp hm')

/-- A message that waits is put into a free slot. -/
theorem InOrder.insertPending
    (h : InOrder id messages r t v c)
    (hreceived : Received id messages ((v.setSlot i (some (m, data))).setStream id c') c')
    (hfree : v.slots i = none) (hpending : m.disposition = .pending)
    (hlt : c.nextExpected < m.sequence) (hnext : c'.nextExpected = c.nextExpected) :
  InOrder id messages r t ((v.setSlot i (some (m, data))).setStream id c') c'
  := by
  have hdelivered : ∀ j m', ((v.setSlot i (some (m, data))).setStream id c').Delivered id j m' →
      v.Delivered id j m' := by
    rintro j m' ⟨⟨data', hj⟩, hm', hdel⟩
    rcases setSlot_eq_some.mp hj with ⟨-, heq⟩ | ⟨-, hj⟩
    · cases heq
      rw [hpending] at hdel
      cases hdel
    · exact ⟨⟨data', hj⟩, hm', hdel⟩
  refine ⟨hreceived, by rw [hnext]; exact h.taken_le, ?_, ?_, ?_, ?_⟩
  · intro k hk hlt
    rw [hnext] at hlt
    obtain ⟨j, m', data', hj, hm', hseq⟩ := h.waiting k hk hlt
    refine ⟨j, m', data', setSlot_eq_some.mpr (Or.inr ⟨?_, hj⟩), hm', hseq⟩
    rintro rfl
    rw [hfree] at hj
    cases hj
  · intro j m' data' hj hm'
    rcases setSlot_eq_some.mp hj with ⟨-, heq⟩ | ⟨-, hj⟩
    · cases heq
      have := h.taken_le
      bv_omega
    · exact h.not_taken j m' data' hj hm'
  · intro j m' hm'
    exact h.below j m' (hdelivered j m' hm')
  · intro j k m' m'' hm' hm''
    exact h.increasing j k m' m'' (hdelivered j m' hm') (hdelivered k m'' hm'')

/-- The expected message is put into a slot with the next delivery number.  The slot was
free, or the message waited there. -/
theorem InOrder.insertDelivered
    (h : InOrder id messages r t v c)
    (hreceived : Received id messages ((v.setSlot i (some (m, data))).setStream id c') c')
    (hslot : ∀ m' data', v.slots i = some (m', data') → m'.streamId = id ∧ m'.disposition = .pending)
    (hm : m.streamId = id) (hseq : m.sequence = c.nextExpected) (horder : m.order.toNat = t + 1)
    (hsucc : (c.nextExpected + 1#32).toNat = c.nextExpected.toNat + 1)
    (hnext : c'.nextExpected = c.nextExpected + 1#32) (ht : t < t') :
  InOrder id messages r t' ((v.setSlot i (some (m, data))).setStream id c') c'
  := by
  have hle := h.taken_le
  have hdelivered : ∀ j m', ((v.setSlot i (some (m, data))).setStream id c').Delivered id j m' →
      m' = m ∨ (v.Delivered id j m' ∧ m'.sequence < c.nextExpected) := by
    rintro j m' ⟨⟨data', hj⟩, hm', hdel⟩
    rcases setSlot_eq_some.mp hj with ⟨-, heq⟩ | ⟨-, hj⟩
    · cases heq
      exact Or.inl rfl
    · exact Or.inr ⟨⟨⟨data', hj⟩, hm', hdel⟩, (h.delivered_iff j m' data' hj hm').mp hdel⟩
  refine ⟨hreceived, by rw [hnext]; omega, ?_, ?_, ?_, ?_⟩
  · intro k hk hlt
    by_cases hkn : k = c.nextExpected
    · exact ⟨i, m, data, setSlot_eq_some.mpr (Or.inl ⟨rfl, rfl⟩), hm, hseq.trans hkn.symm⟩
    · have hlt' : k < c.nextExpected := by
        rw [hnext] at hlt
        exact (lt_succ_iff hsucc hkn).mp hlt
      obtain ⟨j, m', data', hj, hm', hseq'⟩ := h.waiting k hk hlt'
      refine ⟨j, m', data', setSlot_eq_some.mpr (Or.inr ⟨?_, hj⟩), hm', hseq'⟩
      rintro rfl
      have hdel := (h.delivered_iff j m' data' hj hm').mpr (by rw [hseq']; exact hlt')
      rw [(hslot m' data' hj).2] at hdel
      cases hdel
  · intro j m' data' hj hm'
    rcases setSlot_eq_some.mp hj with ⟨-, heq⟩ | ⟨-, hj⟩
    · cases heq
      rw [hseq]
      exact hle
    · exact h.not_taken j m' data' hj hm'
  · intro j m' hm'
    rcases hdelivered j m' hm' with rfl | ⟨hold, -⟩
    · omega
    · have := h.below j m' hold
      omega
  · intro j k m' m'' hm' hm'' hlt
    rcases hdelivered j m' hm' with rfl | ⟨hold, hlt'⟩
    · rcases hdelivered k m'' hm'' with rfl | ⟨hold', hlt''⟩
      · exact absurd hlt (by bv_omega)
      · bv_omega
    · rcases hdelivered k m'' hm'' with rfl | ⟨hold', hlt''⟩
      · have := h.below j m' hold
        bv_omega
      · exact h.increasing j k m' m'' hold hold' hlt

theorem InOrder.tick (h : InOrder id messages r t v c) :
  InOrder id messages r t v.tick c
  := h.sameFor (SameFor.refl id v).tick (Nat.le_refl t)

/-- A packet with a genuine message of the stream arrives. -/
theorem InOrder.arrival
    (h : InOrder id messages r t v c) (hlt : messages.length < 2 ^ 32)
    (hG : ∀ seq data isEnd, G seq data isEnd → messages[seq.toNat]? = some (data, isEnd))
    (horder : v.order.toNat = t + 1) (ha : Arrival id G v v') (ht : t ≤ t')
    (hticked : v'.order ≠ v.order → t < t') :
  ∃ c', InOrder id messages r t' v' c'
  := by
  obtain ⟨⟨c', hreceived⟩, -, -⟩ := h.toReceived.arrival hlt hG ha
  cases ha with
  | ignored => exact ⟨c, h.sameFor (.refl id v) ht⟩
  | refused => exact ⟨c, h.sameFor (SameFor.refl id v).tick ht⟩
  | @early c₀ seq data isEnd i hc hrel hpacket hearly hnew hi hfree =>
    obtain rfl : c = c₀ := Option.some.inj (h.stream_eq.symm.trans hc)
    obtain rfl : c.seen = c' := Option.some.inj (setStream_stream_self.symm.trans hreceived.stream_eq)
    use c.seen
    exact (h.insertPending hreceived hfree rfl hearly rfl).sameFor (.refl id _) ht
  | @expected c₀ data isEnd i hc hrel hpacket hnew hi hfree =>
    obtain rfl : c = c₀ := Option.some.inj (h.stream_eq.symm.trans hc)
    obtain rfl : c.seen.advance isEnd = c' :=
      Option.some.inj (setStream_stream_self.symm.trans hreceived.stream_eq)
    obtain ⟨hsucc, -⟩ := toNat_succ_of_getElem? hlt (hG _ _ _ hpacket)
    have hreceived' : Received id messages ((v.setSlot i
        (some (⟨id, c.nextExpected, isEnd, .delivered, v.order⟩, data))).setStream id
          (c.seen.advance isEnd)) (c.seen.advance isEnd) :=
      hreceived.sameFor ⟨rfl, fun _ _ _ _ => Iff.rfl⟩
    use c.seen.advance isEnd
    exact (h.insertDelivered hreceived' (by simp [hfree]) rfl rfl horder hsucc rfl
      (hticked (BoundedGtsSocket.nextOrder_ne _))).tick
  | overtaken hc hrel =>
    rw [h.stream_eq] at hc
    cases hc
    rw [h.reliable] at hrel
    cases hrel
  | datagram hc hrel hi hfree =>
    rw [h.stream_eq] at hc
    cases hc
    rw [h.reliable] at hrel
    cases hrel

/-- A message that waited is delivered. -/
theorem InOrder.deliver
    (h : InOrder id messages r t v c) (hlt : messages.length < 2 ^ 32)
    (horder : v.order.toNat = t + 1) (hd : Deliver id v v') :
  ∃ c', InOrder id messages r (t + 1) v' c'
  := by
  obtain ⟨⟨c', hreceived⟩, -⟩ := h.toReceived.deliver hlt hd
  cases hd with
  | @mk c₀ m data i hc hi hid hseq hpending =>
    obtain rfl : c = c₀ := Option.some.inj (h.stream_eq.symm.trans hc)
    obtain rfl : c.advance m.isEnd = c' :=
      Option.some.inj (setStream_stream_self.symm.trans hreceived.stream_eq)
    have hdata := h.genuine i m data hi hid
    rw [hseq] at hdata
    obtain ⟨hsucc, -⟩ := toNat_succ_of_getElem? hlt hdata
    have hslot : ∀ m' data', v.slots i = some (m', data') →
        m'.streamId = id ∧ m'.disposition = .pending := by
      intro m' data' hi'
      rw [hi] at hi'
      cases hi'
      exact ⟨hid, hpending⟩
    have hreceived' : Received id messages ((v.setSlot i
        (some ({ m with disposition := .delivered, order := v.order }, data))).setStream id
          (c.advance m.isEnd)) (c.advance m.isEnd) :=
      hreceived.sameFor ⟨rfl, fun _ _ _ _ => Iff.rfl⟩
    use c.advance m.isEnd
    exact (h.insertDelivered hreceived' hslot hid hseq horder hsucc rfl (Nat.lt_succ_self t)).tick

/-- The delivered message with the least delivery number is the first one that has not
been taken. -/
theorem InOrder.sequence_eq
    (h : InOrder id messages r t v c) (hm : v.Delivered id i m)
    (hleast : ∀ j m', v.Delivered id j m' → m.order ≤ m'.order) :
  m.sequence.toNat = r
  := by
  obtain ⟨⟨data, hi⟩, hid, hdel⟩ := hm
  have hge := h.not_taken i m data hi hid
  have hbelow := (h.delivered_iff i m data hi hid).mp hdel
  by_contra hne
  have hr : (BitVec.ofNat 32 r).toNat = r := by
    rw [BitVec.toNat_ofNat, Nat.mod_eq_of_lt (Nat.lt_of_le_of_lt hge m.sequence.isLt)]
  have hlt : BitVec.ofNat 32 r < m.sequence := by
    rw [BitVec.lt_def, hr]
    omega
  obtain ⟨j, m', data', hj, hm', hseq⟩ :=
    h.waiting (BitVec.ofNat 32 r) (by rw [hr]) (BitVec.lt_trans hlt hbelow)
  have hdel' := (h.delivered_iff j m' data' hj hm').mpr
    (by rw [hseq]; exact BitVec.lt_trans hlt hbelow)
  have horder := h.increasing j i m' m ⟨⟨data', hj⟩, hm', hdel'⟩ ⟨⟨data, hi⟩, hid, hdel⟩
    (by rw [hseq]; exact hlt)
  exact BitVec.not_lt.mpr (hleast j m' ⟨⟨data', hj⟩, hm', hdel'⟩) horder

/-- The first message that has not been taken is taken. -/
theorem InOrder.take
    (h : InOrder id messages r t v c) (hi : v.slots i = some (m, data)) (hm : m.streamId = id)
    (hdel : m.disposition = .delivered) (hseq : m.sequence.toNat = r) :
  InOrder id messages (r + 1) t (v.setSlot i none) c
  := by
  have hold : ∀ {j m' data'}, (v.setSlot i none).slots j = some (m', data') →
      j ≠ i ∧ v.slots j = some (m', data') := by
    intro j m' data' hj
    rcases setSlot_eq_some.mp hj with ⟨-, heq⟩ | hj
    · cases heq
    · exact hj
  have hdelivered : ∀ {j m'}, (v.setSlot i none).Delivered id j m' → v.Delivered id j m' := by
    rintro j m' ⟨⟨data', hj⟩, hm'⟩
    exact ⟨⟨data', (hold hj).2⟩, hm'⟩
  refine ⟨h.toReceived.remove i, ?_, ?_, ?_, ?_, ?_⟩
  · have := (h.delivered_iff i m data hi hm).mp hdel
    bv_omega
  · intro k hk hlt
    obtain ⟨j, m', data', hj, hm', hseq'⟩ := h.waiting k (by omega) hlt
    refine ⟨j, m', data', setSlot_eq_some.mpr (Or.inr ⟨?_, hj⟩), hm', hseq'⟩
    rintro rfl
    rw [hi] at hj
    cases hj
    bv_omega
  · intro j m' data' hj hm'
    obtain ⟨hne, hj⟩ := hold hj
    have hge := h.not_taken j m' data' hj hm'
    by_contra hlt
    exact hne (h.distinct j i m' m data' data hj hi hm' hm (BitVec.eq_of_toNat_eq (by omega)))
  · intro j m' hm'
    exact h.below j m' (hdelivered hm')
  · intro j k m' m'' hm' hm''
    exact h.increasing j k m' m'' (hdelivered hm') (hdelivered hm'')

/-- The messages that wait are delivered. -/
theorem InOrder.deliveries
    (h : InOrder id messages r t v c) (hlt : messages.length < 2 ^ 32) (hcount : Counted t n v)
    (hn : n < 2 ^ 64) (hd : Relation.ReflTransGen (Deliver id) v v') :
  ∃ t' c', InOrder id messages r t' v' c' ∧ Counted t' n v'
  := by
  induction hd with
  | refl => exact ⟨t, c, h, hcount⟩
  | tail _ hstep ih =>
    obtain ⟨t₁, c₁, h₁, hcount₁⟩ := ih
    obtain ⟨hlt₁, -, hcount₂⟩ := hcount₁.deliver hn hstep
    obtain ⟨c₂, h₂⟩ := h₁.deliver hlt (hcount₁.order_eq hlt₁) hstep
    exact ⟨t₁ + 1, c₂, h₂, hcount₂⟩

theorem Counted.deliveries
    (h : Counted t n v) (hn : n < 2 ^ 64) (hd : Relation.ReflTransGen (Deliver id) v v') :
  ∃ t', t ≤ t' ∧ Counted t' n v'
  := by
  induction hd with
  | refl => exact ⟨t, Nat.le_refl t, h⟩
  | tail _ hstep ih =>
    obtain ⟨t₁, hle, h₁⟩ := ih
    exact ⟨t₁ + 1, by omega, (h₁.deliver hn hstep).2.2⟩

/-! ### Before the stream is there -/

/-- There is no stream `id` and no message of it. -/
def Absent (id : U8) (v : RxView) : Prop :=
  v.stream id = none ∧ ∀ i m data, v.slots i = some (m, data) → m.streamId ≠ id

theorem Absent.sameFor (h : Absent id v) (hsame : SameFor id v v') :
  Absent id v'
  := by
  refine ⟨hsame.stream_eq.trans h.1, fun i m data hi hm => ?_⟩
  exact h.2 i m data ((hsame.slots_iff i m data hm).mp hi) hm

/-- Packets of a stream that is not there change at most the delivery counter. -/
theorem Absent.arrival (h : Absent id v) (ha : Arrival id G v v') :
  Absent id v'
  := by
  cases ha with
  | ignored => exact h
  | refused => exact h.sameFor (SameFor.refl id v).tick
  | early hc => cases h.1.symm.trans hc
  | expected hc => cases h.1.symm.trans hc
  | overtaken hc => cases h.1.symm.trans hc
  | datagram hc => cases h.1.symm.trans hc

theorem Absent.deliveries (h : Absent id v) (hd : Relation.ReflTransGen (Deliver id) v v') :
  Absent id v'
  := by
  induction hd with
  | refl => exact h
  | tail _ hstep ih =>
    cases hstep with
    | mk hc => cases ih.1.symm.trans hc

end RxView

/-! ### A socket that receives -/

/-- A packet: its sequence number, if it has one, its message and the end mark. -/
abbrev Packet :=
  Option U32 × Bytes × Bool

/-- A socket, with the packets it has accepted and the messages the application has taken
on each stream, and the number of all packets so far. -/
structure BoundedReceiver where
  socket : BoundedGtsSocket
  accepted : U8 → List Packet
  taken : U8 → List (ReceivedMessage × Bytes)
  packets : ℕ

namespace BoundedReceiver

/-- What happens at the receiver: streams are added, packets arrive, and the application
takes messages. -/
inductive Action where
  | addStream (id : U8) (profile : StreamProfile) (openedByLocal : Bool)
      (receiveCapacity peerCredit : U8)
  | receive (id : U8) (packet : Packet)
  | recvInto (id : U8) (out : Bytes)

/-- A socket that has received nothing. -/
def init (socket : BoundedGtsSocket) : BoundedReceiver where
  socket := socket
  accepted := fun _ => []
  taken := fun _ => []
  packets := 0

def addStream (s : BoundedReceiver) (id : U8) (profile : StreamProfile) (openedByLocal : Bool)
    (receiveCapacity peerCredit : U8) : BoundedReceiver :=
  match s.socket.addStream id profile openedByLocal receiveCapacity peerCredit with
  | .ok socket => { s with socket }
  | .error _ => s

def receive (s : BoundedReceiver) (id : U8) (packet : Packet) : BoundedReceiver :=
  match s.socket.receive id packet.1 packet.2.1 packet.2.2 with
  | (.ok _, socket) =>
    { s with
      socket
      accepted := Function.update s.accepted id (s.accepted id ++ [packet])
      packets := s.packets + 1 }
  | (.error _, socket) => { s with socket, packets := s.packets + 1 }

def recvInto (s : BoundedReceiver) (id : U8) (out : Bytes) : BoundedReceiver :=
  match s.socket.recvInto id out with
  | .ok ((some m, out), socket) =>
    { s with
      socket
      taken := Function.update s.taken id (s.taken id ++ [(m, out.take m.len)]) }
  | .ok ((none, _), socket) => { s with socket }
  | .error _ => s

/-- One step. -/
def step (s : BoundedReceiver) : Action → BoundedReceiver
  | .addStream id profile openedByLocal receiveCapacity peerCredit =>
    s.addStream id profile openedByLocal receiveCapacity peerCredit
  | .receive id packet => s.receive id packet
  | .recvInto id out => s.recvInto id out

/-- The stream `id` is a reliable one, and its packets carry the messages under their
sequence numbers. -/
def Genuine (id : U8) (messages : List (Bytes × Bool)) : Action → Prop
  | .addStream id' profile _ _ _ => id' = id → profile.unreliable = false
  | .receive id' (some seq, data, isEnd) => id' = id → messages[seq.toNat]? = some (data, isEnd)
  | _ => True

/-- What the application is given of a message. -/
def received (message : Bytes × Bool) : ReceivedMessage × Bytes :=
  (⟨message.1.length, message.2⟩, message.1)

/-- The stream `id` has not been added, or its messages are taken in order. -/
def InOrder (id : U8) (messages : List (Bytes × Bool)) (t : ℕ) (s : BoundedReceiver) : Prop :=
  (RxView.Absent id s.socket.rxView ∧ s.taken id = []) ∨
  (s.taken id <+: messages.map received ∧
    ∃ c, RxView.InOrder id messages (s.taken id).length t s.socket.rxView c)

/-- The invariant of the receiver. -/
def Inv (id : U8) (messages : List (Bytes × Bool)) (s : BoundedReceiver) : Prop :=
  ∃ t, RxView.Counted t s.packets s.socket.rxView ∧ InOrder id messages t s

variable {s s' : BoundedReceiver} {id id' : U8} {messages : List (Bytes × Bool)} {t t' : ℕ}

/-- What happens on other streams leaves the order as it is. -/
theorem InOrder.sameFor
    (h : InOrder id messages t s) (hsame : RxView.SameFor id s.socket.rxView s'.socket.rxView)
    (htaken : s'.taken id = s.taken id) (ht : t ≤ t') :
  InOrder id messages t' s'
  := by
  rcases h with ⟨habsent, hnil⟩ | ⟨hpre, c, h⟩
  · exact Or.inl ⟨habsent.sameFor hsame, htaken.trans hnil⟩
  · right
    rw [htaken]
    exact ⟨hpre, c, h.sameFor hsame ht⟩

/-- A stream is added. -/
theorem rxView_addStream
    {socket socket' : BoundedGtsSocket} {profile : StreamProfile} {openedByLocal : Bool}
    {receiveCapacity peerCredit : U8}
    (h : socket.addStream id profile openedByLocal receiveCapacity peerCredit = .ok socket') :
  socket.stream id = none ∧ socket'.rxView = socket.rxView.setStream id
    (BoundedGtsSocket.newStream id profile openedByLocal receiveCapacity peerCredit)
  := by
  obtain ⟨hnone, hrx, htx, horder, hstream⟩ := BoundedGtsSocket.addStream_eq_ok h
  use hnone
  rw [BoundedGtsSocket.rxView, hrx, htx, horder, hstream]
  rfl

/-- A reliable stream without messages is in order. -/
theorem inOrder_newStream
    {v : RxView} {profile : StreamProfile} {openedByLocal : Bool} {receiveCapacity peerCredit : U8}
    (h : RxView.Absent id v) (hrel : profile.unreliable = false) :
  RxView.InOrder id messages 0 t
    (v.setStream id (BoundedGtsSocket.newStream id profile openedByLocal receiveCapacity peerCredit))
    (BoundedGtsSocket.newStream id profile openedByLocal receiveCapacity peerCredit)
  := by
  refine ⟨⟨RxView.setStream_stream_self, hrel, Nat.zero_le _, ?_, ?_, ?_⟩, Nat.zero_le _, ?_, ?_,
    ?_, ?_⟩
  · intro i m data hi hm
    exact absurd hm (h.2 i m data hi)
  · intro i m data hi hm
    exact absurd hm (h.2 i m data hi)
  · intro i j m m' data data' hi hj hm
    exact absurd hm (h.2 i m data hi)
  · intro k hk hlt
    exact absurd hlt (by simp [BoundedGtsSocket.newStream])
  · intro i m data hi hm
    exact absurd hm (h.2 i m data hi)
  · rintro i m ⟨⟨data, hi⟩, hm, -⟩
    exact absurd hm (h.2 i m data hi)
  · rintro i j m m' ⟨⟨data, hi⟩, hm, -⟩
    exact absurd hm (h.2 i m data hi)

theorem Inv.addStream
    {profile : StreamProfile} {openedByLocal : Bool} {receiveCapacity peerCredit : U8}
    (h : Inv id messages s) (hrel : id' = id → profile.unreliable = false) :
  Inv id messages (s.addStream id' profile openedByLocal receiveCapacity peerCredit)
  := by
  obtain ⟨t, hcount, h⟩ := h
  rw [BoundedReceiver.addStream]
  split
  · next socket heq =>
    obtain ⟨hnone, hview⟩ := rxView_addStream heq
    refine ⟨t, by rw [hview]; exact hcount.setStream _ _, ?_⟩
    by_cases hid : id' = id
    · subst hid
      rcases h with ⟨habsent, hnil⟩ | ⟨-, c, h⟩
      · right
        dsimp only
        rw [hnil, hview]
        exact ⟨List.nil_prefix, _, inOrder_newStream habsent (hrel rfl)⟩
      · cases hnone.symm.trans h.stream_eq
    · refine h.sameFor ?_ rfl (Nat.le_refl t)
      dsimp only
      rw [hview]
      exact (RxView.SameFor.refl id _).setStream hid _
  · exact ⟨t, hcount, h⟩

theorem taken_receive (s : BoundedReceiver) (id : U8) (packet : Packet) :
  (s.receive id packet).taken = s.taken
  := by
  rw [BoundedReceiver.receive]
  split
  · rfl
  · rfl

theorem packets_receive (s : BoundedReceiver) (id : U8) (packet : Packet) :
  (s.receive id packet).packets = s.packets + 1
  := by
  rw [BoundedReceiver.receive]
  split
  · rfl
  · rfl

theorem socket_receive (s : BoundedReceiver) (id : U8) (packet : Packet) :
  (s.receive id packet).socket = (s.socket.receive id packet.1 packet.2.1 packet.2.2).2
  := by
  rw [BoundedReceiver.receive]
  split
  · next heq => rw [heq]
  · next heq => rw [heq]

theorem Inv.receive
    {packet : Packet} (h : Inv id messages s) (hlt : messages.length < 2 ^ 32)
    (hgenuine : Genuine id messages (.receive id' packet)) (hn : s.packets + 1 < 2 ^ 64) :
  Inv id messages (s.receive id' packet)
  := by
  obtain ⟨sequence, data, isEnd⟩ := packet
  obtain ⟨t, hcount, h⟩ := h
  obtain ⟨v, harrival, hsteps, -⟩ := @BoundedGtsSocket.receive_rxView s.socket id'
    (fun seq data isEnd => id' = id → messages[seq.toNat]? = some (data, isEnd)) sequence data
    isEnd (by rintro seq rfl; exact hgenuine)
  obtain ⟨t₁, hle, hticked, hcount₁⟩ := hcount.arrival hn harrival
  rw [← socket_receive s id' (sequence, data, isEnd)] at hsteps
  have hpackets := packets_receive s id' (sequence, data, isEnd)
  have htaken := congrFun (taken_receive s id' (sequence, data, isEnd)) id
  generalize s.receive id' (sequence, data, isEnd) = s' at hsteps hpackets htaken
  rw [Inv, hpackets]
  by_cases hid : id' = id
  · subst hid
    rcases h with ⟨habsent, hnil⟩ | ⟨hpre, c, h⟩
    · obtain ⟨t₂, -, hcount₂⟩ := hcount₁.deliveries hn hsteps
      exact ⟨t₂, hcount₂, Or.inl ⟨(habsent.arrival harrival).deliveries hsteps,
        htaken.trans hnil⟩⟩
    · have hle := hcount.le
      obtain ⟨c₁, h₁⟩ := h.arrival hlt (fun _ _ _ hG => hG rfl)
        (hcount.order_eq (by omega)) harrival (by assumption) hticked
      obtain ⟨t₂, c₂, h₂, hcount₂⟩ := h₁.deliveries hlt hcount₁ hn hsteps
      refine ⟨t₂, hcount₂, Or.inr ?_⟩
      rw [htaken]
      exact ⟨hpre, c₂, h₂⟩
  · obtain ⟨t₂, hle₂, hcount₂⟩ := hcount₁.deliveries hn hsteps
    use t₂, hcount₂
    exact h.sameFor ((harrival.sameFor hid).trans (RxView.sameFor_of_deliveries hsteps hid)) htaken
      (hle.trans hle₂)

theorem isPrefix_concat {α : Type} {l l' : List α} {x : α} (h : l <+: l')
    (hx : l'[l.length]? = some x) :
  l ++ [x] <+: l'
  := by
  obtain ⟨rest, rfl⟩ := h
  rw [List.getElem?_append_right (Nat.le_refl _), Nat.sub_self] at hx
  obtain ⟨rest', rfl⟩ : ∃ rest', rest = x :: rest' := by
    cases rest with
    | nil => cases hx
    | cons y rest' =>
      cases hx
      exact ⟨rest', rfl⟩
  rw [List.prefix_append_right_inj]
  exact ⟨rest', rfl⟩

/-- What taking a message from the stream does: nothing, when no message has been
delivered or there is not enough room for it; else the message that was delivered first is
taken. -/
theorem recvInto_cases (s : BoundedReceiver) (id : U8) (out : Bytes) :
  (s.recvInto id out = s ∧ ∀ c, s.socket.stream id = some c →
    (∀ i m data, s.socket.rxView.slots i = some (m, data) → m.streamId = id →
      data.length ≤ out.length) →
    ∀ i m, ¬ s.socket.rxView.Delivered id i m) ∨
  ∃ i m data, s.socket.rxView.slots i = some (m, data) ∧ m.streamId = id ∧
    m.disposition = .delivered ∧
    (∀ j m', s.socket.rxView.Delivered id j m' → m.order ≤ m'.order) ∧
    (s.recvInto id out).socket.rxView = s.socket.rxView.setSlot i none ∧
    (s.recvInto id out).packets = s.packets ∧ (s.recvInto id out).accepted = s.accepted ∧
    (s.recvInto id out).taken
      = Function.update s.taken id (s.taken id ++ [received (data, m.isEnd)])
  := by
  rw [BoundedReceiver.recvInto]
  cases hc : s.socket.stream id with
  | none =>
    left
    rw [BoundedGtsSocket.recvInto, hc]
    refine ⟨rfl, ?_⟩
    rintro c ⟨⟩
  | some c =>
    obtain ⟨hnone, heq⟩ | ⟨i, m, data, hi, hdel, hleast, ⟨hlong, heq⟩ | ⟨s', heq, hview⟩⟩ :=
      BoundedGtsSocket.recvInto_eq hc out
    · left
      rw [heq]
      refine ⟨rfl, ?_⟩
      rintro _ - - i m ⟨⟨data, hi⟩, hm⟩
      exact hnone i m data hi hm
    · left
      rw [heq]
      refine ⟨rfl, fun _ _ hroom => ?_⟩
      exact absurd (hroom i m data hi hdel.1) (Nat.not_le_of_lt hlong)
    · right
      refine ⟨i, m, data, hi, hdel.1, hdel.2, ?_, ?_⟩
      · rintro j m' ⟨⟨data', hj⟩, hm'⟩
        exact hleast j m' data' hj hm'
      · rw [heq]
        refine ⟨hview, rfl, rfl, ?_⟩
        simp only [List.take_left', received]

theorem Inv.recvInto {out : Bytes} (h : Inv id messages s) :
  Inv id messages (s.recvInto id' out)
  := by
  obtain ⟨t, hcount, h⟩ := h
  obtain ⟨heq, -⟩ | ⟨i, m, data, hi, hm, hdel, hleast, hview, hpackets, -, htaken⟩ :=
    s.recvInto_cases id' out
  · rw [heq]
    exact ⟨t, hcount, h⟩
  · refine ⟨t, ?_, ?_⟩
    · rw [hpackets, hview]
      exact hcount.remove (hcount.bounded i _ hi)
    · by_cases hid : id' = id
      · subst hid
        rcases h with ⟨habsent, -⟩ | ⟨hpre, c, h⟩
        · exact absurd hm (habsent.2 i m data hi)
        · right
          have hseq := h.sequence_eq ⟨⟨data, hi⟩, hm, hdel⟩ hleast
          have hdata := h.genuine i m data hi hm
          rw [hseq] at hdata
          rw [hview, htaken, Function.update_self, List.length_append, List.length_singleton]
          refine ⟨isPrefix_concat hpre ?_, c, h.take hi hm hdel hseq⟩
          rw [List.getElem?_map, hdata, Option.map_some]
      · refine h.sameFor ?_ ?_ (Nat.le_refl t)
        · rw [hview]
          exact RxView.sameFor_remove hi (by rw [hm]; exact hid)
        · rw [htaken, Function.update_of_ne (Ne.symm hid)]

theorem packets_step (s : BoundedReceiver) (a : Action) :
  s.packets ≤ (s.step a).packets
  := by
  cases a with
  | addStream id profile openedByLocal receiveCapacity peerCredit =>
    rw [step, BoundedReceiver.addStream]
    split
    · exact Nat.le_refl _
    · exact Nat.le_refl _
  | receive id packet =>
    rw [step, packets_receive]
    exact Nat.le_succ _
  | recvInto id out =>
    rw [step]
    obtain ⟨heq, -⟩ | ⟨-, -, -, -, -, -, -, -, hpackets, -⟩ := s.recvInto_cases id out
    · rw [heq]
    · rw [hpackets]

/-- One step, as long as fewer than 2⁶⁴ packets have arrived. -/
theorem Inv.step
    (h : Inv id messages s) (hlt : messages.length < 2 ^ 32) {a : Action}
    (hgenuine : Genuine id messages a) (hn : (s.step a).packets < 2 ^ 64) :
  Inv id messages (s.step a)
  := by
  cases a with
  | addStream id' profile openedByLocal receiveCapacity peerCredit => exact h.addStream hgenuine
  | receive id' packet =>
    apply h.receive hlt hgenuine
    rw [← packets_receive s id' packet]
    exact hn
  | recvInto id' out => exact h.recvInto

/-- Before the first stream. -/
theorem inv_init {socket : BoundedGtsSocket} (h : socket.Fresh) :
  Inv id messages (init socket)
  := by
  have hslots : ∀ i x, socket.rxView.slots i ≠ some x := by
    intro i x hi
    cases (h.rx_eq i).symm.trans hi
  refine ⟨0, ⟨?_, ?_, ?_⟩, Or.inl ⟨⟨h.stream_eq id, ?_⟩, rfl⟩⟩
  · intro i x hi
    exact absurd hi (hslots i x)
  · intro _
    exact congrArg BitVec.toNat h.order_eq
  · rw [init, RxView.pending_eq_zero hslots]
  · intro i m data hi
    exact absurd hi (hslots i _)

/-- In a run with genuine packets, before the 2⁶⁴-th packet, the invariant holds. -/
theorem inv_run
    {socket : BoundedGtsSocket} (h : socket.Fresh) (hlt : messages.length < 2 ^ 32)
    {as : List Action} (hgenuine : ∀ a ∈ as, Genuine id messages a)
    (hn : (Machine.run BoundedReceiver.step (init socket) as).packets < 2 ^ 64) :
  Inv id messages (Machine.run BoundedReceiver.step (init socket) as)
  := Machine.invariant_along_of_lt packets_step (fun _ _ hs hok hn => hs.step hlt hok hn)
    (inv_init h) (Machine.along_of_forall _ hgenuine) hn

theorem Inv.taken_in_order (h : Inv id messages s) :
  s.taken id <+: messages.map received
  := by
  obtain ⟨-, -, ⟨-, hnil⟩ | ⟨hpre, -⟩⟩ := h
  · rw [hnil]
    exact List.nil_prefix
  · exact hpre

end BoundedReceiver

end SmolGnet
