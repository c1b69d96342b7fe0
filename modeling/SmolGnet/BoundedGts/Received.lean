import SmolGnet.BoundedGts.Steps

/-!
# The messages of one stream in the receive pool

The messages of all streams share the receive pool, but what happens on one stream leaves
the messages of the others as they are (`SameFor`).  For a reliable stream whose packets
carry genuine messages, the entries of the pool are genuine messages, each in one slot,
and exactly those below the expected sequence number are delivered (`Received`).  The
receiver *holds* a sequence number that is below the expected one or in the pool, and
what it holds it keeps holding.
-/

namespace SmolGnet

namespace RxView

variable {v v' : RxView} {id id' : U8} {i j : ℕ} {m : RxMeta} {data : Bytes} {c c' : StreamCore}
  {G : U32 → Bytes → Bool → Prop}

theorem setSlot_eq_some {x : Option (RxMeta × Bytes)} {y : RxMeta × Bytes} :
  (v.setSlot i x).slots j = some y ↔ (j = i ∧ x = some y) ∨ (j ≠ i ∧ v.slots j = some y)
  := by
  rw [setSlot]
  by_cases hj : j = i
  · simp [hj]
  · simp [hj]

/-- The receiver has accepted the message with the sequence number `k`. -/
def Holds (v : RxView) (id : U8) (k : U32) : Prop :=
  v.Stores id k ∨ ∃ c, v.stream id = some c ∧ k < c.nextExpected

/-! ### What happens on other streams -/

/-- The two views agree on the stream `id`. -/
structure SameFor (id : U8) (v v' : RxView) : Prop where
  stream_eq : v'.stream id = v.stream id
  slots_iff : ∀ i m data, m.streamId = id →
    (v'.slots i = some (m, data) ↔ v.slots i = some (m, data))

theorem SameFor.refl (id : U8) (v : RxView) :
  SameFor id v v
  := ⟨rfl, fun _ _ _ _ => Iff.rfl⟩

theorem SameFor.trans {v'' : RxView} (h : SameFor id v v') (h' : SameFor id v' v'') :
  SameFor id v v''
  := ⟨h'.stream_eq.trans h.stream_eq,
    fun i m data hm => (h'.slots_iff i m data hm).trans (h.slots_iff i m data hm)⟩

theorem SameFor.tick (h : SameFor id v v') :
  SameFor id v v'.tick
  := ⟨h.stream_eq, h.slots_iff⟩

theorem SameFor.setStream (h : SameFor id v v') (hne : id' ≠ id) (c : StreamCore) :
  SameFor id v (v'.setStream id' c)
  := ⟨(Function.update_of_ne (Ne.symm hne) _ _).trans h.stream_eq, h.slots_iff⟩

/-- A slot without a message of the stream is given one of another stream. -/
theorem sameFor_setSlot (hold : ∀ m data, v.slots i = some (m, data) → m.streamId ≠ id)
    (hm : m.streamId ≠ id) (data : Bytes) :
  SameFor id v (v.setSlot i (some (m, data)))
  := by
  refine ⟨rfl, fun j m' data' hm' => ?_⟩
  rw [setSlot_eq_some]
  constructor
  · rintro (⟨-, heq⟩ | ⟨-, hj⟩)
    · cases heq
      contradiction
    · exact hj
  · intro hj
    refine Or.inr ⟨?_, hj⟩
    rintro rfl
    exact hold m' data' hj hm'

/-- A message of another stream is taken out of the pool. -/
theorem sameFor_remove (hi : v.slots i = some (m, data)) (hm : m.streamId ≠ id) :
  SameFor id v (v.setSlot i none)
  := by
  refine ⟨rfl, fun j m' data' hm' => ?_⟩
  rw [setSlot_eq_some]
  constructor
  · rintro (⟨-, heq⟩ | ⟨-, hj⟩)
    · cases heq
    · exact hj
  · intro hj
    refine Or.inr ⟨?_, hj⟩
    rintro rfl
    rw [hi] at hj
    cases hj
    contradiction

/-- A packet of another stream leaves the stream as it is. -/
theorem Arrival.sameFor (h : Arrival id' G v v') (hne : id' ≠ id) :
  SameFor id v v'
  := by
  cases h with
  | ignored => exact .refl id v
  | refused => exact (SameFor.refl id v).tick
  | early hc hrel hG hlt hnew hi hfree =>
    exact (sameFor_setSlot (by simp [hfree]) hne _).setStream hne _
  | expected hc hrel hG hnew hi hfree =>
    exact ((sameFor_setSlot (by simp [hfree]) hne _).setStream hne _).tick
  | overtaken hc hrel => exact ((SameFor.refl id v).setStream hne _).tick
  | datagram hc hrel hi hfree =>
    exact ((sameFor_setSlot (by simp [hfree]) hne _).setStream hne _).tick

/-- A delivery on another stream leaves the stream as it is. -/
theorem Deliver.sameFor (h : Deliver id' v v') (hne : id' ≠ id) :
  SameFor id v v'
  := by
  cases h with
  | @mk c m data i hc hi hid hseq hpending =>
    have hold : ∀ m data, v.slots i = some (m, data) → m.streamId ≠ id := by
      intro m' data' hi'
      rw [hi] at hi'
      cases hi'
      rw [hid]
      exact hne
    exact ((sameFor_setSlot hold (by rw [hid]; exact hne) _).setStream hne _).tick

theorem sameFor_of_deliveries (h : Relation.ReflTransGen (Deliver id') v v') (hne : id' ≠ id) :
  SameFor id v v'
  := by
  induction h with
  | refl => exact .refl id v
  | tail _ hstep ih => exact ih.trans (hstep.sameFor hne)

theorem SameFor.stores_iff (h : SameFor id v v') (k : U32) :
  v'.Stores id k ↔ v.Stores id k
  := by
  constructor
  · rintro ⟨i, m, data, hi, hm, hk⟩
    exact ⟨i, m, data, (h.slots_iff i m data hm).mp hi, hm, hk⟩
  · rintro ⟨i, m, data, hi, hm, hk⟩
    exact ⟨i, m, data, (h.slots_iff i m data hm).mpr hi, hm, hk⟩

theorem SameFor.holds_iff (h : SameFor id v v') (k : U32) :
  v'.Holds id k ↔ v.Holds id k
  := by
  rw [Holds, Holds, h.stores_iff, h.stream_eq]

/-! ### What happens on the stream -/

/-- The stream `id` is reliable, with the state `c`, and the pool has genuine messages of
it, each in one slot, delivered exactly below the expected sequence number. -/
structure Received (id : U8) (messages : List (Bytes × Bool)) (v : RxView) (c : StreamCore) :
    Prop where
  stream_eq : v.stream id = some c
  reliable : c.profile.unreliable = false
  next_le : c.nextExpected.toNat ≤ messages.length
  genuine : ∀ i m data, v.slots i = some (m, data) → m.streamId = id →
    messages[m.sequence.toNat]? = some (data, m.isEnd)
  delivered_iff : ∀ i m data, v.slots i = some (m, data) → m.streamId = id →
    (m.disposition = .delivered ↔ m.sequence < c.nextExpected)
  distinct : ∀ i j m m' data data', v.slots i = some (m, data) → v.slots j = some (m', data') →
    m.streamId = id → m'.streamId = id → m.sequence = m'.sequence → i = j

variable {messages : List (Bytes × Bool)}

theorem Received.sameFor (h : Received id messages v c) (hsame : SameFor id v v') :
  Received id messages v' c
  := by
  refine ⟨hsame.stream_eq.trans h.stream_eq, h.reliable, h.next_le, ?_, ?_, ?_⟩
  · intro i m data hi hm
    exact h.genuine i m data ((hsame.slots_iff i m data hm).mp hi) hm
  · intro i m data hi hm
    exact h.delivered_iff i m data ((hsame.slots_iff i m data hm).mp hi) hm
  · intro i j m m' data data' hi hj hm hm'
    exact h.distinct i j m m' data data' ((hsame.slots_iff i m data hm).mp hi)
      ((hsame.slots_iff j m' data' hm').mp hj) hm hm'

theorem Received.tick (h : Received id messages v c) :
  Received id messages v.tick c
  := h.sameFor (SameFor.refl id v).tick

theorem holds_tick (id : U8) (k : U32) :
  v.tick.Holds id k ↔ v.Holds id k
  := (SameFor.refl id v).tick.holds_iff k

/-- A sequence number that carries a message is followed by its successor. -/
theorem toNat_succ_of_getElem? {k : U32} {x : Bytes × Bool} (hlt : messages.length < 2 ^ 32)
    (hk : messages[k.toNat]? = some x) :
  (k + 1#32).toNat = k.toNat + 1 ∧ k.toNat < messages.length
  := by
  obtain ⟨hidx, -⟩ := List.getElem?_eq_some_iff.mp hk
  refine ⟨?_, hidx⟩
  rw [BitVec.toNat_add, BitVec.toNat_ofNat]
  omega

/-- A message is taken out of the pool. -/
theorem Received.remove (h : Received id messages v c) (i : ℕ) :
  Received id messages (v.setSlot i none) c
  := by
  have hold : ∀ {j m data}, (v.setSlot i none).slots j = some (m, data) →
      v.slots j = some (m, data) := by
    intro j m data hj
    rcases setSlot_eq_some.mp hj with ⟨-, heq⟩ | ⟨-, hj⟩
    · cases heq
    · exact hj
  refine ⟨h.stream_eq, h.reliable, h.next_le, ?_, ?_, ?_⟩
  · intro j m data hj
    exact h.genuine j m data (hold hj)
  · intro j m data hj
    exact h.delivered_iff j m data (hold hj)
  · intro j k m m' data data' hj hk
    exact h.distinct j k m m' data data' (hold hj) (hold hk)

/-- A message that the pool does not have is put into it.  The expected sequence number
may move over it, but over no other message of the pool. -/
theorem Received.insert
    (h : Received id messages v c)
    (hdata : messages[m.sequence.toNat]? = some (data, m.isEnd))
    (hnew : ¬ v.Stores id m.sequence) (hprofile : c'.profile = c.profile)
    (hle : c'.nextExpected.toNat ≤ messages.length)
    (hdel : m.disposition = .delivered ↔ m.sequence < c'.nextExpected)
    (hnext : ∀ k, k ≠ m.sequence → (k < c'.nextExpected ↔ k < c.nextExpected)) (i : ℕ) :
  Received id messages ((v.setSlot i (some (m, data))).setStream id c') c'
  := by
  refine ⟨Function.update_self .., by rw [hprofile]; exact h.reliable, hle, ?_, ?_, ?_⟩
  · intro j m' data' hj hm'
    rcases setSlot_eq_some.mp hj with ⟨rfl, heq⟩ | ⟨-, hj'⟩
    · cases heq
      exact hdata
    · exact h.genuine j m' data' hj' hm'
  · intro j m' data' hj hm'
    rcases setSlot_eq_some.mp hj with ⟨rfl, heq⟩ | ⟨-, hj'⟩
    · cases heq
      exact hdel
    · rw [h.delivered_iff j m' data' hj' hm', hnext]
      intro heq
      exact hnew ⟨j, m', data', hj', hm', heq⟩
  · intro j k m₁ m₂ data₁ data₂ hj hk hm₁ hm₂ heq
    rcases setSlot_eq_some.mp hj with ⟨rfl, hj'⟩ | ⟨-, hj'⟩
    · rcases setSlot_eq_some.mp hk with ⟨rfl, -⟩ | ⟨-, hk'⟩
      · rfl
      · cases hj'
        exact absurd ⟨k, m₂, data₂, hk', hm₂, heq.symm⟩ hnew
    · rcases setSlot_eq_some.mp hk with ⟨rfl, hk'⟩ | ⟨-, hk'⟩
      · cases hk'
        exact absurd ⟨j, m₁, data₁, hj', hm₁, heq⟩ hnew
      · exact h.distinct j k m₁ m₂ data₁ data₂ hj' hk' hm₁ hm₂ heq

/-- What the receiver holds after a message was put into the pool. -/
theorem holds_insert
    (hc : v.stream id = some c) (hfree : ∀ m' data', v.slots i = some (m', data') →
      m'.streamId = id → m'.sequence = m.sequence)
    (hm : m.streamId = id)
    (hnext : ∀ k, k ≠ m.sequence → (k < c'.nextExpected ↔ k < c.nextExpected)) (k : U32) :
  ((v.setSlot i (some (m, data))).setStream id c').Holds id k ↔ v.Holds id k ∨ k = m.sequence
  := by
  have hstore : ((v.setSlot i (some (m, data))).setStream id c').Stores id m.sequence :=
    ⟨i, m, data, Function.update_self .., hm, rfl⟩
  have hself : ((v.setSlot i (some (m, data))).setStream id c').stream id = some c' :=
    Function.update_self ..
  by_cases hk : k = m.sequence
  · subst hk
    simp only [or_true, iff_true]
    exact Or.inl hstore
  · simp only [hk, or_false]
    constructor
    · rintro (⟨j, m', data', hj, hm', rfl⟩ | ⟨c'', hc'', hlt⟩)
      · rcases setSlot_eq_some.mp hj with ⟨rfl, heq⟩ | ⟨-, hj'⟩
        · cases heq
          contradiction
        · exact Or.inl ⟨j, m', data', hj', hm', rfl⟩
      · rw [hself] at hc''
        cases hc''
        exact Or.inr ⟨c, hc, (hnext k hk).mp hlt⟩
    · rintro (⟨j, m', data', hj, hm', rfl⟩ | ⟨c'', hc'', hlt⟩)
      · refine Or.inl ⟨j, m', data', setSlot_eq_some.mpr (Or.inr ⟨?_, hj⟩), hm', rfl⟩
        rintro rfl
        exact hk (hfree m' data' hj hm')
      · rw [hc] at hc''
        cases hc''
        exact Or.inr ⟨c', hself, (hnext k hk).mpr hlt⟩

/-- The successor of the expected sequence number moves over the expected message only. -/
theorem lt_succ_iff {n k : U32} (hsucc : (n + 1#32).toNat = n.toNat + 1) (hk : k ≠ n) :
  k < n + 1#32 ↔ k < n
  := by
  bv_omega

/-- A packet with a genuine message, or one of another stream, keeps the pool in order and
loses no message; a message that is new to the receiver came with the packet. -/
theorem Received.arrival
    (h : Received id messages v c) (hlt : messages.length < 2 ^ 32)
    (hG : ∀ seq data isEnd, G seq data isEnd → messages[seq.toNat]? = some (data, isEnd))
    (ha : Arrival id G v v') :
  (∃ c', Received id messages v' c') ∧ (∀ k, v.Holds id k → v'.Holds id k) ∧
    ∀ k, v'.Holds id k → v.Holds id k ∨ ∃ data isEnd, G k data isEnd
  := by
  cases ha with
  | ignored => exact ⟨⟨c, h⟩, fun _ hk => hk, fun _ hk => Or.inl hk⟩
  | refused =>
    exact ⟨⟨c, h.tick⟩, fun k => (holds_tick id k).mpr,
      fun k hk => Or.inl ((holds_tick id k).mp hk)⟩
  | @early c₀ seq data isEnd i hc hrel hpacket hearly hnew hi hfree =>
    obtain rfl : c = c₀ := Option.some.inj (h.stream_eq.symm.trans hc)
    have hholds := fun k => @holds_insert v id i ⟨id, seq, isEnd, .pending, 0#64⟩ data c
      c.seen hc (by simp [hfree]) rfl (fun _ _ => Iff.rfl) k
    refine ⟨⟨c.seen, ?_⟩, fun k hk => (hholds k).mpr (Or.inl hk), ?_⟩
    · apply h.insert
      · exact hG _ _ _ hpacket
      · exact hnew
      · rfl
      · exact h.next_le
      · simp only [reduceCtorEq, false_iff, StreamCore.seen_nextExpected]
        bv_omega
      · exact fun _ _ => Iff.rfl
    · intro k hk
      rcases (hholds k).mp hk with hk | rfl
      · exact Or.inl hk
      · exact Or.inr ⟨data, isEnd, hpacket⟩
  | @expected c₀ data isEnd i hc hrel hpacket hnew hi hfree =>
    obtain rfl : c = c₀ := Option.some.inj (h.stream_eq.symm.trans hc)
    obtain ⟨hsucc, hidx⟩ := toNat_succ_of_getElem? hlt (hG _ _ _ hpacket)
    have hholds := fun k => @holds_insert v id i
      ⟨id, c.nextExpected, isEnd, .delivered, v.order⟩ data c
      (c.seen.advance isEnd) hc (by simp [hfree]) rfl (fun k hk => lt_succ_iff hsucc hk) k
    refine ⟨⟨c.seen.advance isEnd, Received.tick ?_⟩,
      fun k hk => (holds_tick id k).mpr ((hholds k).mpr (Or.inl hk)), ?_⟩
    · apply h.insert
      · exact hG _ _ _ hpacket
      · exact hnew
      · rfl
      · simp only [StreamCore.advance_nextExpected, StreamCore.seen_nextExpected]
        omega
      · simp only [true_iff, StreamCore.advance_nextExpected, StreamCore.seen_nextExpected]
        bv_omega
      · exact fun k hk => lt_succ_iff hsucc hk
    · intro k hk
      rcases (hholds k).mp ((holds_tick id k).mp hk) with hk | rfl
      · exact Or.inl hk
      · exact Or.inr ⟨data, isEnd, hpacket⟩
  | overtaken hc hrel =>
    rw [h.stream_eq] at hc
    cases hc
    rw [h.reliable] at hrel
    cases hrel
  | datagram hc hrel hi hfree =>
    rw [h.stream_eq] at hc
    cases hc
    rw [h.reliable] at hrel
    cases hrel

/-- The only slot with the message is freed. -/
theorem Received.not_stores_remove
    (h : Received id messages v c) (hi : v.slots i = some (m, data)) (hm : m.streamId = id) :
  ¬ (v.setSlot i none).Stores id m.sequence
  := by
  rintro ⟨j, m', data', hj, hm', hseq⟩
  rcases setSlot_eq_some.mp hj with ⟨-, heq⟩ | ⟨hne, hj'⟩
  · cases heq
  · exact hne (h.distinct j i m' m data' data hj' hi hm' hm hseq)

/-- A delivery keeps the pool in order and changes nothing about what the receiver
holds. -/
theorem Received.deliver
    (h : Received id messages v c) (hlt : messages.length < 2 ^ 32) (hd : Deliver id v v') :
  (∃ c', Received id messages v' c') ∧ ∀ k, v'.Holds id k ↔ v.Holds id k
  := by
  cases hd with
  | @mk c₀ m data i hc hi hid hseq hpending =>
    obtain rfl : c = c₀ := Option.some.inj (h.stream_eq.symm.trans hc)
    have hdata := h.genuine i m data hi hid
    rw [hseq] at hdata
    obtain ⟨hsucc, hidx⟩ := toNat_succ_of_getElem? hlt hdata
    have hholds := fun k => @holds_insert v id i
      { m with disposition := .delivered, order := v.order } data c
      (c.advance m.isEnd) hc (by rw [hi]; rintro _ _ ⟨⟩ _; rfl) hid (fun k hk => lt_succ_iff hsucc (by rwa [← hseq])) k
    constructor
    · refine ⟨c.advance m.isEnd, Received.tick ?_⟩
      have hidem : v.setSlot i (some ({ m with disposition := .delivered, order := v.order }, data))
          = (v.setSlot i none).setSlot i
            (some ({ m with disposition := .delivered, order := v.order }, data)) := by
        simp only [setSlot, Function.update_idem]
      have hremoved := h.not_stores_remove hi hid
      rw [hidem]
      apply (h.remove i).insert
      · rw [hseq]
        exact hdata
      · exact hremoved
      · rfl
      · simp only [StreamCore.advance_nextExpected]
        omega
      · simp only [hseq, true_iff, StreamCore.advance_nextExpected]
        bv_omega
      · exact fun k hk => lt_succ_iff hsucc (by rwa [← hseq])
    · intro k
      rw [holds_tick, hholds]
      constructor
      · rintro (hk | rfl)
        · exact hk
        · exact Or.inl ⟨i, m, data, hi, hid, rfl⟩
      · exact Or.inl

/-- Deliveries keep the pool in order and change nothing about what the receiver holds. -/
theorem Received.deliveries
    (h : Received id messages v c) (hlt : messages.length < 2 ^ 32)
    (hd : Relation.ReflTransGen (Deliver id) v v') :
  (∃ c', Received id messages v' c') ∧ ∀ k, v'.Holds id k ↔ v.Holds id k
  := by
  induction hd with
  | refl => exact ⟨⟨c, h⟩, fun _ => Iff.rfl⟩
  | tail _ hstep ih =>
    obtain ⟨⟨c', h'⟩, hholds⟩ := ih
    obtain ⟨hex, hholds'⟩ := h'.deliver hlt hstep
    exact ⟨hex, fun k => (hholds' k).trans (hholds k)⟩

/-- Taking a delivered message loses nothing of what the receiver holds. -/
theorem Received.holds_remove
    (h : Received id messages v c) (hi : v.slots i = some (m, data))
    (hdel : m.disposition = .delivered) (k : U32) :
  (v.setSlot i none).Holds id k ↔ v.Holds id k
  := by
  constructor
  · rintro (⟨j, m', data', hj, hm', hk⟩ | hlt)
    · rcases setSlot_eq_some.mp hj with ⟨-, heq⟩ | ⟨-, hj'⟩
      · cases heq
      · exact Or.inl ⟨j, m', data', hj', hm', hk⟩
    · exact Or.inr hlt
  · rintro (⟨j, m', data', hj, hm', rfl⟩ | hlt)
    · by_cases hji : j = i
      · subst hji
        rw [hi] at hj
        cases hj
        exact Or.inr ⟨c, h.stream_eq, (h.delivered_iff j m data hi hm').mp hdel⟩
      · exact Or.inl ⟨j, m', data', setSlot_eq_some.mpr (Or.inr ⟨hji, hj⟩), hm', rfl⟩
    · exact Or.inr hlt

/-- More messages are sent. -/
theorem Received.append (h : Received id messages v c) (x : Bytes × Bool) :
  Received id (messages ++ [x]) v c
  := by
  refine ⟨h.stream_eq, h.reliable, ?_, ?_, h.delivered_iff, h.distinct⟩
  · have := h.next_le
    rw [List.length_append]
    omega
  · intro i m data hi hm
    have hdata := h.genuine i m data hi hm
    rw [List.getElem?_append_left (List.getElem?_eq_some_iff.mp hdata).1, hdata]

/-- The sender's part of the state of a stream changes. -/
theorem Received.setSender (h : Received id messages v c) (hprofile : c'.profile = c.profile)
    (hnext : c'.nextExpected = c.nextExpected) (tx : MessagePool TxMeta) :
  Received id messages { v.setStream id c' with tx } c' ∧
    ∀ k, { v.setStream id c' with tx }.Holds id k ↔ v.Holds id k
  := by
  have hself : { v.setStream id c' with tx }.stream id = some c' := Function.update_self ..
  constructor
  · refine ⟨hself, by rw [hprofile]; exact h.reliable, by rw [hnext]; exact h.next_le, h.genuine,
      ?_, h.distinct⟩
    rw [hnext]
    exact h.delivered_iff
  · intro k
    rw [Holds, Holds, hself, h.stream_eq]
    simp only [Option.some.injEq, exists_eq_left', hnext]
    rfl

/-! ### The sender's part -/

/-- The two views agree on the sender's part of the stream `id`. -/
def SameSender (id : U8) (v v' : RxView) : Prop :=
  v'.tx = v.tx ∧ ∀ c, v.stream id = some c →
    ∃ c', v'.stream id = some c' ∧ c'.nextTxSequence = c.nextTxSequence ∧ c'.profile = c.profile

theorem SameSender.trans {v'' : RxView} (h : SameSender id v v') (h' : SameSender id v' v'') :
  SameSender id v v''
  := by
  refine ⟨h'.1.trans h.1, fun c hc => ?_⟩
  obtain ⟨c', hc', hnext, hprofile⟩ := h.2 c hc
  obtain ⟨c'', hc'', hnext', hprofile'⟩ := h'.2 c' hc'
  exact ⟨c'', hc'', hnext'.trans hnext, hprofile'.trans hprofile⟩

/-- What arrives changes nothing for the sender. -/
theorem Arrival.sameSender (h : Arrival id G v v') :
  SameSender id v v'
  := by
  have hset : ∀ {c c'}, v.stream id = some c' → c.nextTxSequence = c'.nextTxSequence →
      c.profile = c'.profile → ∀ c₀, v.stream id = some c₀ →
      ∃ c₁, Function.update v.stream id (some c) id = some c₁ ∧
        c₁.nextTxSequence = c₀.nextTxSequence ∧ c₁.profile = c₀.profile := by
    intro c c' hc' hnext hprofile c₀ hc₀
    obtain rfl : c' = c₀ := Option.some.inj (hc'.symm.trans hc₀)
    exact ⟨c, Function.update_self .., hnext, hprofile⟩
  cases h with
  | ignored => exact ⟨rfl, fun c hc => ⟨c, hc, rfl, rfl⟩⟩
  | refused => exact ⟨rfl, fun c hc => ⟨c, hc, rfl, rfl⟩⟩
  | early hc => exact ⟨rfl, hset hc rfl rfl⟩
  | expected hc => exact ⟨rfl, hset hc rfl rfl⟩
  | overtaken hc => exact ⟨rfl, hset hc rfl rfl⟩
  | datagram hc => exact ⟨rfl, hset hc rfl rfl⟩

theorem sameSender_of_deliveries (h : Relation.ReflTransGen (Deliver id) v v') :
  SameSender id v v'
  := by
  induction h with
  | refl => exact ⟨rfl, fun c hc => ⟨c, hc, rfl, rfl⟩⟩
  | @tail v₁ v₂ _ hstep ih =>
    apply ih.trans
    cases hstep with
    | @mk c m data i hc =>
      refine ⟨rfl, fun c₀ hc₀ => ⟨c.advance m.isEnd, Function.update_self .., ?_⟩⟩
      obtain rfl : c = c₀ := Option.some.inj (hc.symm.trans hc₀)
      exact ⟨rfl, rfl⟩

end RxView

end SmolGnet
