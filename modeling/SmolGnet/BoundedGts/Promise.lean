import SmolGnet.BoundedGts.Atomic
import Mathlib.Algebra.BigOperators.Group.Finset.Basic
import Mathlib.Data.FinEnum

/-!
# Credit as a promise

An acknowledgement of the heapless socket carries credit: the number of messages that may be sent,
for which there is storage.  The credit is computed from the slots that are free when the
acknowledgement is made.  These slots are not reserved, though: the streams share them, so the same slot
may be promised to several streams, or be taken by another stream before the message comes for which it
was promised.  And the slots have a size of their own, which may be too small for the messages of the
stream.

As long as no acknowledgement promises, and no other message takes, a slot that is promised already, and
credit is only granted on streams whose messages fit into a slot, all promises are kept.
-/

namespace SmolGnet

/-! ### The slots that are taken -/

namespace MessagePool

/-- The number of messages of the stream. -/
def countFor (p : MessagePool RxMeta) (id : U8) : ℕ :=
  p.count (fun m => m.streamId = id)

/-- The pool `p'` has `n` more messages of the stream `id` than `p`, and as many of the others. -/
structure Adds (id : U8) (n : ℕ) (p p' : MessagePool RxMeta) : Prop where
  capacity_eq : p'.capacity = p.capacity
  slotSize_eq : p'.slotSize = p.slotSize
  used_eq : p'.used = p.used + n
  count_eq : ∀ id', p'.countFor id' = p.countFor id' + if id' = id then n else 0

variable {id : U8} {n k : ℕ} {p p' p'' : MessagePool RxMeta} {m : RxMeta} {data : Bytes} {idx : ℕ}

theorem Adds.refl (id : U8) (p : MessagePool RxMeta) :
  Adds id 0 p p
  := by
  refine ⟨rfl, rfl, rfl, fun id' => ?_⟩
  rw [ite_self, Nat.add_zero]

theorem Adds.trans (h : Adds id n p p') (h' : Adds id k p' p'') :
  Adds id (n + k) p p''
  := by
  refine ⟨h'.capacity_eq.trans h.capacity_eq, h'.slotSize_eq.trans h.slotSize_eq, ?_, fun id' => ?_⟩
  · rw [h'.used_eq, h.used_eq, Nat.add_assoc]
  · rw [h'.count_eq, h.count_eq, Nat.add_assoc]
    split
    · rfl
    · rfl

theorem Adds.free_eq (h : Adds id n p p') :
  p'.free + n = p.free
  := by
  have hle := p'.used_le_capacity
  have hused := h.used_eq
  have hcapacity := h.capacity_eq
  rw [free, free]
  omega

theorem adds_insert (h : p.insert m data = .ok (idx, p')) :
  Adds m.streamId 1 p p'
  := by
  obtain ⟨-, -, -, hupd⟩ := insert_eq_ok h
  refine ⟨hupd.capacity_eq, hupd.slotSize_eq, ?_, fun id' => ?_⟩
  · rw [used_eq_count, used_eq_count, count_insert h]
    rfl
  · rw [countFor, countFor, count_insert h]
    by_cases hid : id' = m.streamId
    · simp [hid]
    · simp [hid, Ne.symm hid]

theorem adds_clearSlot (h : p.get idx = some (m, data)) :
  Adds m.streamId 1 (p.clearSlot idx) p
  := by
  have hupd := clearSlot_updatedAt h
  refine ⟨hupd.capacity_eq.symm, hupd.slotSize_eq.symm, ?_, fun id' => ?_⟩
  · rw [used_eq_count, used_eq_count, ← count_clearSlot h]
    rfl
  · rw [countFor, countFor, ← count_clearSlot h]
    by_cases hid : id' = m.streamId
    · simp [hid]
    · simp [hid, Ne.symm hid]

theorem adds_setMetadata {m' : RxMeta} (h : p.get idx = some (m', data))
    (hp : p.setMetadata idx m = .ok p') (hid : m.streamId = m'.streamId) (id : U8) :
  Adds id 0 p p'
  := by
  obtain ⟨p₁, hp₁, hupd⟩ := setMetadata_of_get h m
  rw [hp] at hp₁
  cases hp₁
  refine ⟨hupd.capacity_eq, hupd.slotSize_eq, ?_, fun id' => ?_⟩
  · rw [used_eq_count, used_eq_count]
    exact count_setMetadata h hp rfl
  · rw [countFor, countFor, ite_self, Nat.add_zero]
    apply count_setMetadata h hp
    rw [hid]

end MessagePool

namespace RxView

/-- What was agreed about the streams stays as it is, and a message that has arrived stays one. -/
def SameTerms (v v' : RxView) : Prop :=
  ∀ id c, v.stream id = some c → ∃ c', v'.stream id = some c' ∧ c'.profile = c.profile ∧
    c'.receiveCapacity = c.receiveCapacity ∧ (c.seenReliable = true → c'.seenReliable = true)

variable {v v' v'' : RxView} {id : U8} {c c' : StreamCore} {G : U32 → Bytes → Bool → Prop}

theorem SameTerms.refl (v : RxView) :
  SameTerms v v
  := fun _ c hc => ⟨c, hc, rfl, rfl, fun h => h⟩

theorem SameTerms.trans (h : SameTerms v v') (h' : SameTerms v' v'') :
  SameTerms v v''
  := by
  intro id c hc
  obtain ⟨c', hc', hprofile, hcapacity, hseen⟩ := h id c hc
  obtain ⟨c'', hc'', hprofile', hcapacity', hseen'⟩ := h' id c' hc'
  exact ⟨c'', hc'', hprofile'.trans hprofile, hcapacity'.trans hcapacity, fun hs => hseen' (hseen hs)⟩

/-- The state of a stream is replaced. -/
theorem sameTerms_of_update (hv : v'.stream = Function.update v.stream id (some c'))
    (hc : v.stream id = some c) (hprofile : c'.profile = c.profile)
    (hcapacity : c'.receiveCapacity = c.receiveCapacity)
    (hseen : c.seenReliable = true → c'.seenReliable = true) :
  SameTerms v v'
  := by
  intro id' c₀ hc₀
  rw [hv]
  by_cases hid : id' = id
  · subst hid
    rw [hc] at hc₀
    cases hc₀
    rw [Function.update_self]
    exact ⟨c', rfl, hprofile, hcapacity, hseen⟩
  · rw [Function.update_of_ne hid]
    exact ⟨c₀, hc₀, rfl, rfl, fun h => h⟩

theorem Arrival.sameTerms (h : Arrival id G v v') :
  SameTerms v v'
  := by
  cases h with
  | ignored => exact .refl v
  | refused => exact .refl v
  | early hc => exact sameTerms_of_update rfl hc rfl rfl (fun _ => rfl)
  | expected hc => exact sameTerms_of_update rfl hc rfl rfl (fun _ => rfl)
  | overtaken hc => exact sameTerms_of_update rfl hc rfl rfl (fun h => h)
  | datagram hc => exact sameTerms_of_update rfl hc rfl rfl (fun h => h)

theorem sameTerms_of_deliveries (h : Relation.ReflTransGen (Deliver id) v v') :
  SameTerms v v'
  := by
  induction h with
  | refl => exact .refl v
  | tail _ hstep ih =>
    apply ih.trans
    cases hstep with
    | mk hc => exact sameTerms_of_update rfl hc rfl rfl (fun h => h)

end RxView

namespace BoundedGtsSocket

variable {s s' : BoundedGtsSocket} {id : U8} {idx : ℕ} {c c' : StreamCore}

/-! ### What a packet stores -/

/-- The number of messages that the stream may still hold. -/
def localFree (s : BoundedGtsSocket) (id : U8) (c : StreamCore) : ℕ :=
  c.receiveCapacity.toNat - s.rxCountFor id

theorem rxCountFor_eq (s : BoundedGtsSocket) (id : U8) :
  s.rxCountFor id = s.rx.countFor id
  := s.rx.countP_entries (fun m => m.streamId = id)

/-- The credit that is granted. -/
theorem ackState_eq (hc : s.stream id = some c) (hrel : c.profile.unreliable = false)
    (hseen : c.seenReliable = true) :
  ∃ a, s.ackState id = .ok (some a) ∧ a.credit.toNat = min (min (s.localFree id c) s.rx.free) 255
  := by
  rw [ackState, hc]
  dsimp only
  rw [if_neg (by simp [hrel, hseen])]
  refine ⟨_, rfl, ?_⟩
  rw [BitVec.toNat_ofNat, Nat.mod_eq_of_lt (by omega)]
  rfl

theorem ackState_eq_none (hc : s.stream id = some c)
    (h : ¬ (c.profile.unreliable = false ∧ c.seenReliable = true)) :
  s.ackState id = .ok none
  := by
  rw [ackState, hc]
  dsimp only
  rw [if_pos]
  cases hrel : c.profile.unreliable with
  | true => rfl
  | false =>
    cases hseen : c.seenReliable with
    | true => exact absurd ⟨hrel, hseen⟩ h
    | false => rfl

/-- The delivery loop neither stores nor frees. -/
theorem adds_markContiguousDelivered (id : U8) (n : ℕ) {rx : MessagePool RxMeta} (hs : s.rx = rx) :
  rx.Adds id 0 (markContiguousDelivered id n s).2.rx
  := by
  induction n generalizing s rx with
  | zero =>
    rw [← hs]
    exact .refl id s.rx
  | succ n ih =>
    rw [← hs, markContiguousDelivered]
    split
    · exact .refl id s.rx
    split
    · exact .refl id s.rx
    split
    · exact .refl id s.rx
    next m hm =>
    dsimp only
    split
    · exact .refl id s.rx
    · next rx' hrx' =>
      obtain ⟨data, hget⟩ := MessagePool.metadata_eq_some.mp hm
      exact (MessagePool.adds_setMetadata hget hrx' rfl id).trans (ih rfl)

theorem adds_deliverAndAck (id : U8) {rx : MessagePool RxMeta} (hs : s.rx = rx) :
  rx.Adds id 0 (s.deliverAndAck id).2.rx
  := by
  have hloop := adds_markContiguousDelivered id s.rx.capacity hs
  rw [deliverAndAck]
  split
  · next heq =>
    rw [heq] at hloop
    exact hloop
  · next heq =>
    rw [heq] at hloop
    exact hloop

/-- The stream takes messages, and the message agrees with its profile. -/
def Admits (c : StreamCore) (data : Bytes) (isEnd : Bool) : Prop :=
  ¬ (c.state = .closed ∨ c.state = .reset ∨ c.remoteEnded) ∧ remoteMaySend c = true ∧
    validateSendLen c.profile data.length isEnd = .ok ()

/-- The sequence number is not behind the expected one, nor too far ahead of it, and the stream may
hold another message. -/
def InWindow (s : BoundedGtsSocket) (id : U8) (c : StreamCore) (seq : U32) : Prop :=
  ¬ seq < c.nextExpected ∧ ¬ 32#32 < seq - c.nextExpected ∧
    ¬ c.receiveCapacity.toNat ≤ s.rxCountFor id

/-- The stream has a message with this sequence number in the pool. -/
def InPool (s : BoundedGtsSocket) (id : U8) (seq : U32) : Prop :=
  (s.rx.find (fun m => m.streamId = id && m.sequence = seq)).isSome

/-- The message has arrived before. -/
def IsKnown (s : BoundedGtsSocket) (id : U8) (c : StreamCore) (seq : U32) : Prop :=
  seq < c.nextExpected ∨ s.InWindow id c seq ∧ s.InPool id seq

/-- The message may be stored. -/
def IsNew (s : BoundedGtsSocket) (id : U8) (c : StreamCore) (seq : U32) : Prop :=
  s.InWindow id c seq ∧ ¬ s.InPool id seq

/-- There is a free slot that is large enough. -/
def HasSlot (s : BoundedGtsSocket) (data : Bytes) : Prop :=
  ¬ (s.rx.slotSize < data.length ∨ s.rx.free = 0)

theorem receiveReliable_of_isKnown {seq : U32} (h : s.IsKnown id c seq) (idx : ℕ) (data : Bytes)
    (isEnd : Bool) :
  s.receiveReliable idx c id seq data isEnd = (s.ackState id, s)
  := by
  rw [receiveReliable]
  obtain hlt | ⟨⟨hge, hnear, hroom⟩, hpool⟩ := h
  · rw [if_pos hlt]
  · rw [InPool] at hpool
    rw [if_neg hge, if_neg hnear, if_neg hroom, if_pos hpool]

/-- The pool decides what becomes of a new message. -/
theorem receiveReliable_of_isNew {seq : U32} (h : s.IsNew id c seq) (idx : ℕ) (data : Bytes)
    (isEnd : Bool) :
  ∃ m order c', m.streamId = id ∧ c'.id = c.id ∧ c'.profile = c.profile ∧
    c'.receiveCapacity = c.receiveCapacity ∧ c'.seenReliable = true ∧
    s.receiveReliable idx c id seq data isEnd =
      match s.rx.insert m data with
      | .error err => (.error err, { s with nextDeliveryOrder := order })
      | .ok (_, rx) =>
        ({ s with rx, nextDeliveryOrder := order }.setStream idx c').deliverAndAck id
  := by
  obtain ⟨⟨hge, hnear, hroom⟩, hpool⟩ := h
  rw [InPool] at hpool
  rw [receiveReliable, if_neg hge, if_neg hnear, if_neg hroom, if_neg hpool]
  by_cases hexp : seq = c.nextExpected
  · rw [decide_eq_true hexp]
    exact ⟨⟨id, seq, isEnd, .delivered, s.nextDeliveryOrder⟩, nextOrder s.nextDeliveryOrder,
      c.seen.advance isEnd, rfl, rfl, rfl, rfl, rfl, rfl⟩
  · rw [decide_eq_false hexp]
    exact ⟨⟨id, seq, isEnd, .pending, 0#64⟩, s.nextDeliveryOrder,
      { c.seen with remoteEnded := c.remoteEnded || false }, rfl, rfl, rfl, rfl, rfl, rfl⟩

/-- A message that is stored takes one slot, and the acknowledgement grants credit for what is left. -/
theorem deliverAndAck_of_insert {data : Bytes} {m : RxMeta} {i : ℕ} {rx : MessagePool RxMeta}
    (hrx : s.rx.insert m data = .ok (i, rx)) (hm : m.streamId = id) (hs' : s'.rx = rx)
    (hc' : s'.stream id = some c') (hrel : c'.profile.unreliable = false)
    (hseen : c'.seenReliable = true) (hcapacity : c'.receiveCapacity = c.receiveCapacity) :
  ∃ a s'', s'.deliverAndAck id = (.ok (some a), s'') ∧ s.rx.Adds id 1 s''.rx ∧
    a.credit.toNat = min (min (s.localFree id c - 1) (s.rx.free - 1)) 255
  := by
  have hstored := MessagePool.adds_insert hrx
  rw [hm] at hstored
  have hadds := hstored.trans (adds_deliverAndAck id hs')
  obtain ⟨hack, hsteps⟩ := deliverAndAck_eq hc'
  obtain ⟨c'', hc'', hprofile'', hcapacity'', hseen''⟩ :=
    RxView.sameTerms_of_deliveries hsteps id c' hc'
  rw [← hprofile''] at hrel
  obtain ⟨a, ha, hcredit⟩ := ackState_eq hc'' hrel (hseen'' hseen)
  refine ⟨a, _, Prod.ext (hack.trans ha) rfl, hadds, ?_⟩
  have hcount := hadds.count_eq id
  have hfree := hadds.free_eq
  rw [if_pos rfl] at hcount
  rw [hcredit, localFree, localFree, rxCountFor_eq, rxCountFor_eq, hcapacity'', hcapacity, hcount]
  omega

/-- A new message of a reliable stream is stored when there is a slot for it. -/
theorem receiveReliable_of_hasSlot {seq : U32} {data : Bytes}
    (hfind : s.findStream id = some (idx, c)) (hrel : c.profile.unreliable = false)
    (hnew : s.IsNew id c seq) (hslot : s.HasSlot data) (isEnd : Bool) :
  ∃ a s', s.receiveReliable idx c id seq data isEnd = (.ok (some a), s') ∧ s.rx.Adds id 1 s'.rx ∧
    a.credit.toNat = min (min (s.localFree id c - 1) (s.rx.free - 1)) 255
  := by
  obtain ⟨m, order, c', hm, hid, hprofile, hcapacity, hseen, heq⟩ :=
    receiveReliable_of_isNew hnew idx data isEnd
  rw [heq]
  cases hrx : s.rx.insert m data with
  | error err => exact absurd (MessagePool.insert_eq_error_iff.mp ⟨err, hrx⟩) hslot
  | ok x =>
    have hid' : c'.id = id := hid.trans (findStream_eq_some hfind).2.1
    have hstream := @stream_setStream { s with rx := x.2, nextDeliveryOrder := order } id idx c c'
      hfind hid'
    rw [← hprofile] at hrel
    refine deliverAndAck_of_insert hrx hm rfl ?_ hrel hseen hcapacity
    rw [hstream, Function.update_self]

theorem receiveReliable_refused {seq : U32} {data : Bytes} (hknown : ¬ s.IsKnown id c seq)
    (hstored : ¬ (s.IsNew id c seq ∧ s.HasSlot data)) (idx : ℕ) (isEnd : Bool) :
  ∃ err s', s.receiveReliable idx c id seq data isEnd = (.error err, s') ∧ s'.rx = s.rx
  := by
  by_cases hwindow : s.InWindow id c seq
  · have hpool : ¬ s.InPool id seq := fun hpool => hknown (.inr ⟨hwindow, hpool⟩)
    obtain ⟨m, order, c', -, -, -, -, -, heq⟩ :=
      receiveReliable_of_isNew ⟨hwindow, hpool⟩ idx data isEnd
    have hslot : ¬ s.HasSlot data := fun hslot => hstored ⟨⟨hwindow, hpool⟩, hslot⟩
    rw [HasSlot, not_not, ← MessagePool.insert_eq_error_iff (m := m)] at hslot
    obtain ⟨err, herr⟩ := hslot
    rw [heq, herr]
    exact ⟨err, _, rfl, rfl⟩
  · have hge : ¬ seq < c.nextExpected := fun hlt => hknown (.inl hlt)
    rw [receiveReliable, if_neg hge]
    split
    · exact ⟨_, _, rfl, rfl⟩
    next hnear =>
    split
    · exact ⟨_, _, rfl, rfl⟩
    · next hroom => exact absurd ⟨hge, hnear, hroom⟩ hwindow

/-! ### What a packet does to the pool -/

theorem exists_findStream (hc : s.stream id = some c) :
  ∃ idx, s.findStream id = some (idx, c)
  := by
  obtain ⟨⟨idx, c'⟩, hfind, rfl⟩ := Option.map_eq_some_iff.mp hc
  exact ⟨idx, hfind⟩

theorem receive_of_not_admits {data : Bytes} {isEnd : Bool} (hc : s.stream id = some c)
    (h : ¬ Admits c data isEnd) (sequence : Option U32) :
  ∃ err, s.receive id sequence data isEnd = (.error err, s)
  := by
  obtain ⟨idx, hfind⟩ := exists_findStream hc
  rw [receive, hfind]
  dsimp only
  split
  · exact ⟨_, rfl⟩
  next hstate =>
  split
  · exact ⟨_, rfl⟩
  next hmay =>
  split
  · exact ⟨_, rfl⟩
  next hlen => exact absurd ⟨hstate, by simpa using hmay, hlen⟩ h

theorem receive_of_admits {data : Bytes} {isEnd : Bool} (hfind : s.findStream id = some (idx, c))
    (h : Admits c data isEnd) (sequence : Option U32) :
  s.receive id sequence data isEnd =
    if c.profile.unreliable then s.receiveUnreliable idx c id sequence data
    else
      match sequence with
      | none => (.error .profileViolation, s)
      | some seq => s.receiveReliable idx c id seq data isEnd
  := by
  have hmay : ¬ (!remoteMaySend c) = true := by rw [h.2.1]; decide
  cases sequence with
  | none => simp only [receive, hfind, if_neg h.1, if_neg hmay, h.2.2]
  | some seq => simp only [receive, hfind, if_neg h.1, if_neg hmay, h.2.2]

/-- A datagram is stored when there is a slot for it, and never acknowledged. -/
theorem receiveUnreliable_adds (hrel : c.profile.unreliable = true) (idx : ℕ)
    (sequence : Option U32) (data : Bytes) :
  (∀ a, (s.receiveUnreliable idx c id sequence data).1 ≠ .ok (some a)) ∧
    ((s.Due id c sequence ∧ s.HasSlot data) ∧
        s.rx.Adds id 1 (s.receiveUnreliable idx c id sequence data).2.rx ∨
      ¬ (s.Due id c sequence ∧ s.HasSlot data) ∧
        (s.receiveUnreliable idx c id sequence data).2.rx = s.rx)
  := by
  have hstore : ∀ seq (s' : BoundedGtsSocket), s'.rx = s.rx →
      (∀ a, (s'.storeDatagram id seq data).1 ≠ .ok (some a)) ∧
        (s.HasSlot data ∧ s.rx.Adds id 1 (s'.storeDatagram id seq data).2.rx ∨
          ¬ s.HasSlot data ∧ (s'.storeDatagram id seq data).2.rx = s.rx) := by
    intro seq s' hs'
    rw [storeDatagram, HasSlot, ← MessagePool.insert_eq_error_iff
      (m := ⟨id, seq, false, .delivered, s'.nextDeliveryOrder⟩), hs']
    dsimp only
    split
    · next err herr => exact ⟨by simp, .inr ⟨fun h => h ⟨err, herr⟩, rfl⟩⟩
    · next rx hrx =>
      refine ⟨by simp, .inl ⟨?_, MessagePool.adds_insert hrx⟩⟩
      rintro ⟨err, herr⟩
      rw [hrx] at herr
      cases herr
  rw [receiveUnreliable.eq_def, due_of_unreliable hrel]
  split
  · cases sequence with
    | none => exact ⟨by simp, .inr ⟨by simp, rfl⟩⟩
    | some seq =>
      dsimp only
      cases hhighest : c.unrelRxHighest with
      | none => simpa using hstore seq (s.setStream idx { c with unrelRxHighest := some seq }) rfl
      | some highest =>
        dsimp only
        split
        · next hle => exact ⟨by simp, .inr ⟨by simp [BitVec.not_lt.mpr hle], rfl⟩⟩
        · next hgt =>
          have hlt : highest < seq := BitVec.not_le.mp hgt
          simpa [hlt] using hstore seq (s.setStream idx { c with unrelRxHighest := some seq }) rfl
  · split
    · next hsome =>
      refine ⟨by simp, .inr ⟨?_, rfl⟩⟩
      rintro ⟨rfl, -⟩
      cases hsome
    · next hnone =>
      have hseq : sequence = none := by simpa using hnone
      simpa [hseq] using hstore 0#32 s rfl

/-! ### What the other calls do to the pool -/

/-- What was agreed about the streams stays as it is, and messages are only taken out of the pool. -/
def Frees (s s' : BoundedGtsSocket) : Prop :=
  s.rxView.SameTerms s'.rxView ∧ ∃ id n, s'.rx.Adds id n s.rx

theorem Frees.refl (s : BoundedGtsSocket) :
  Frees s s
  := ⟨.refl _, 0#8, 0, .refl _ _⟩

/-- The sender's part of a stream changes. -/
theorem frees_setStream {tx : MessagePool TxMeta} (hfind : s.findStream id = some (idx, c))
    (hid : c'.id = c.id) (hprofile : c'.profile = c.profile)
    (hcapacity : c'.receiveCapacity = c.receiveCapacity) (hseen : c'.seenReliable = c.seenReliable) :
  Frees s ({ s with tx }.setStream idx c')
  := by
  have hid' : c'.id = id := hid.trans (findStream_eq_some hfind).2.1
  have hstream := @stream_setStream { s with tx } id idx c c' hfind hid'
  refine ⟨?_, 0#8, 0, .refl _ _⟩
  apply RxView.sameTerms_of_update hstream (stream_of_findStream hfind) hprofile hcapacity
  intro hs
  rw [hseen, hs]

theorem frees_send {data : Bytes} {isEnd : Bool} {now : U64} {sequence : Option U32}
    (h : s.send id data isEnd now = .ok (sequence, s')) :
  Frees s s'
  := by
  rw [send] at h
  split at h
  · cases h
  next idx c hfind =>
  split at h
  · cases h
  split at h
  · cases h
  split at h
  · cases h
  split at h
  · split at h
    · cases h
      exact frees_setStream hfind rfl rfl rfl rfl
    · cases h
      exact .refl s
  · split at h
    · cases h
    split at h
    · cases h
    · cases h
      exact frees_setStream hfind rfl rfl rfl rfl

theorem frees_onAck (s : BoundedGtsSocket) (id : U8) (ack : Ack) :
  Frees s (s.onAck id ack).2
  := by
  rw [onAck]
  split
  · exact .refl s
  next idx c hfind =>
  split
  · exact .refl s
  · exact frees_setStream hfind rfl rfl rfl rfl

theorem frees_recvInto {out : Bytes} {result : Option ReceivedMessage × Bytes}
    (h : s.recvInto id out = .ok (result, s')) :
  Frees s s'
  := by
  rw [recvInto] at h
  split at h
  · cases h
  split at h
  · cases h
    exact .refl s
  next i m hbest =>
  split at h
  · cases h
  next hremove =>
  cases h
  rw [MessagePool.removeInto] at hremove
  split at hremove
  · cases hremove
  next slot hslot =>
  split at hremove
  · cases hremove
  next m hm =>
  split at hremove
  · cases hremove
  · cases hremove
    exact ⟨.refl _, _, 1, MessagePool.adds_clearSlot (MessagePool.get_eq_some.mpr ⟨slot, hslot, hm, rfl⟩)⟩

theorem frees_addStream {profile : StreamProfile} {openedByLocal : Bool}
    {receiveCapacity peerCredit : U8}
    (h : s.addStream id profile openedByLocal receiveCapacity peerCredit = .ok s') :
  Frees s s'
  := by
  obtain ⟨hnew, hrx, -, -, hstream⟩ := addStream_eq_ok h
  refine ⟨?_, 0#8, 0, by rw [hrx]; exact .refl _ _⟩
  intro id' c hc
  refine ⟨c, ?_, rfl, rfl, fun h => h⟩
  have hne : id' ≠ id := by
    rintro rfl
    rw [show s.rxView.stream = s.stream from rfl, hnew] at hc
    cases hc
  rw [show s'.rxView.stream = s'.stream from rfl, hstream, Function.update_of_ne hne]
  exact hc

/-- Every call but the arrival of a packet. -/
theorem frees_call {a : Call} (ha : ∀ id sequence data isEnd, a ≠ .receive id sequence data isEnd) :
  Frees s (s.call a).2
  := by
  cases a with
  | receive id sequence data isEnd => exact absurd rfl (ha id sequence data isEnd)
  | send id data isEnd now =>
    rw [call]
    split
    · exact .refl s
    · next heq => exact frees_send heq
  | onAck id ack => exact frees_onAck s id ack
  | recvInto id out =>
    rw [call]
    split
    · exact .refl s
    · next heq => exact frees_recvInto heq
  | addStream id profile openedByLocal receiveCapacity peerCredit =>
    rw [call]
    split
    · exact .refl s
    · next heq => exact frees_addStream heq

/-! ### What has been promised -/

/-- What is done with a socket: a call, or the state of a stream is looked up for an
acknowledgement. -/
inductive Op
  | call (a : Call)
  | ackState (id : U8)

/-- An operation on a socket. -/
def perform (s : BoundedGtsSocket) : Op → BoundedGtsSocket
  | .call a => (s.call a).2
  | .ackState _ => s

/-- The stream and the acknowledgement that an operation results in. -/
def acknowledges (s : BoundedGtsSocket) : Op → Option (U8 × Ack)
  | .call (.receive id sequence data isEnd) =>
    match (s.receive id sequence data isEnd).1 with
    | .ok (some a) => some (id, a)
    | _ => none
  | .ackState id =>
    match s.ackState id with
    | .ok (some a) => some (id, a)
    | _ => none
  | _ => none

theorem acknowledges_call {a : Call}
    (ha : ∀ id sequence data isEnd, a ≠ .receive id sequence data isEnd) :
  s.acknowledges (.call a) = none
  := by
  cases a with
  | receive id sequence data isEnd => exact absurd rfl (ha id sequence data isEnd)
  | _ => rfl

theorem perform_receive (s : BoundedGtsSocket) (id : U8) (sequence : Option U32) (data : Bytes)
    (isEnd : Bool) :
  s.perform (.call (.receive id sequence data isEnd)) = (s.receive id sequence data isEnd).2
  := by
  rw [perform, call]
  split
  · next heq => rw [heq]
  · next heq => rw [heq]

/-- What was agreed about the streams stays as it is. -/
theorem sameTerms_perform (s : BoundedGtsSocket) (op : Op) :
  s.rxView.SameTerms (s.perform op).rxView
  := by
  cases op with
  | ackState id => exact .refl _
  | call a =>
    by_cases ha : ∃ id sequence data isEnd, a = .receive id sequence data isEnd
    · obtain ⟨id, sequence, data, isEnd, rfl⟩ := ha
      obtain ⟨v, harrival, hsteps, -⟩ :=
        @receive_rxView s id (fun _ _ _ => True) sequence data isEnd (fun _ _ => trivial)
      rw [perform_receive]
      exact harrival.sameTerms.trans (RxView.sameTerms_of_deliveries hsteps)
    · exact (frees_call (fun id sequence data isEnd heq => ha ⟨id, sequence, data, isEnd, heq⟩)).1

/-- A socket, with the credit of each stream that was advertised last and has not been used.  A message
that is stored is acknowledged at once, so the credit that it uses is replaced. -/
structure Ledger where
  socket : BoundedGtsSocket
  promised : U8 → ℕ

namespace Ledger

/-- Perform an operation, and note the credit that is advertised. -/
def step (l : Ledger) (op : Op) : Ledger where
  socket := l.socket.perform op
  promised :=
    match l.socket.acknowledges op with
    | some (id, a) => Function.update l.promised id a.credit.toNat
    | none => l.promised

/-- The credit of all streams. -/
def total (l : Ledger) : ℕ :=
  ∑ id, l.promised id

/-- The credit of the other streams. -/
def others (l : Ledger) (id : U8) : ℕ :=
  ∑ id' ∈ Finset.univ.erase id, l.promised id'

/-- There are as many free slots as have been promised. -/
def Backed (l : Ledger) : Prop :=
  l.total ≤ l.socket.rx.free

/-- A stream with credit does not refuse the next message for lack of storage. -/
def Honoured (l : Ledger) : Prop :=
  ∀ id c data isEnd, l.promised id ≠ 0 → l.socket.stream id = some c →
    validateSendLen c.profile data.length isEnd = .ok () →
      (l.socket.receive id (some c.nextExpected) data isEnd).1 ≠ .error .bufferFull ∧
        (l.socket.receive id (some c.nextExpected) data isEnd).1 ≠ .error .messageTooLarge

/-- The operation grants credit on the stream `id`, which may hold `n` more messages, when `free` slots
are free. -/
inductive Grants (s : BoundedGtsSocket) : Op → U8 → StreamCore → ℕ → ℕ → Prop
  | known {id : U8} {c : StreamCore} {seq : U32} {data : Bytes} {isEnd : Bool}
      (hc : s.stream id = some c) (hrel : c.profile.unreliable = false) (hadmits : Admits c data isEnd)
      (hknown : s.IsKnown id c seq) (hseen : c.seenReliable = true) :
      Grants s (.call (.receive id (some seq) data isEnd)) id c (s.localFree id c) s.rx.free
  | stored {id : U8} {c : StreamCore} {seq : U32} {data : Bytes} {isEnd : Bool}
      (hc : s.stream id = some c) (hrel : c.profile.unreliable = false) (hadmits : Admits c data isEnd)
      (hnew : s.IsNew id c seq) (hslot : s.HasSlot data) :
      Grants s (.call (.receive id (some seq) data isEnd)) id c (s.localFree id c - 1) (s.rx.free - 1)
  | asked {id : U8} {c : StreamCore} (hc : s.stream id = some c)
      (hrel : c.profile.unreliable = false) (hseen : c.seenReliable = true) :
      Grants s (.ackState id) id c (s.localFree id c) s.rx.free

/-- The operation stores a datagram. -/
inductive StoresDatagram (s : BoundedGtsSocket) : Op → Prop
  | mk {id : U8} {c : StreamCore} {sequence : Option U32} {data : Bytes} {isEnd : Bool}
      (hc : s.stream id = some c) (hrel : c.profile.unreliable = true) (hadmits : Admits c data isEnd)
      (hdue : s.Due id c sequence) (hslot : s.HasSlot data) :
      StoresDatagram s (.call (.receive id sequence data isEnd))

/-- No slot is promised twice: what a stream may still hold, and credit cannot be more than 255, can be
promised besides what the other streams were promised, unless they were promised nothing.  And no slot
that is promised is taken by a datagram. -/
def Covers (l : Ledger) (op : Op) : Prop :=
  (∀ id c n free, Grants l.socket op id c n free →
    l.others id = 0 ∨ min n 255 + l.others id ≤ free) ∧
  (StoresDatagram l.socket op → l.total < l.socket.rx.free)

/-- Credit is granted only on streams whose messages fit into a slot. -/
def Roomy (l : Ledger) (op : Op) : Prop :=
  ∀ id c n free, Grants l.socket op id c n free → n ≠ 0 → free ≠ 0 → ∀ (data : Bytes) isEnd,
    validateSendLen c.profile data.length isEnd = .ok () → data.length ≤ l.socket.rx.slotSize

variable {l : Ledger} {op : Op} {n free : ℕ}

theorem Grants.stream {s : BoundedGtsSocket} (h : Grants s op id c n free) :
  s.stream id = some c ∧ c.profile.unreliable = false
  := by
  cases h with
  | known hc hrel => exact ⟨hc, hrel⟩
  | stored hc hrel => exact ⟨hc, hrel⟩
  | asked hc hrel => exact ⟨hc, hrel⟩

/-- A packet that is acknowledged. -/
theorem step_of_receive {sequence : Option U32} {data : Bytes} {isEnd : Bool} {a : Ack}
    {s' : BoundedGtsSocket} (h : l.socket.receive id sequence data isEnd = (.ok (some a), s')) :
  l.step (.call (.receive id sequence data isEnd))
    = ⟨s', Function.update l.promised id a.credit.toNat⟩
  := by
  rw [step, perform_receive, acknowledges, h]

/-- A packet that is not acknowledged. -/
theorem step_of_receive_none {sequence : Option U32} {data : Bytes} {isEnd : Bool}
    {result : Except Error (Option Ack)} {s' : BoundedGtsSocket}
    (h : l.socket.receive id sequence data isEnd = (result, s')) (hnone : ∀ a, result ≠ .ok (some a)) :
  l.step (.call (.receive id sequence data isEnd)) = ⟨s', l.promised⟩
  := by
  rw [step, perform_receive, acknowledges, h]
  dsimp only
  split
  · next hsome =>
    split at hsome
    · next a => exact absurd rfl (hnone a)
    · cases hsome
  · rfl

/-- What an operation that grants credit does. -/
theorem step_of_grants (h : Grants l.socket op id c n free) :
  (l.step op).promised = Function.update l.promised id (min (min n free) 255) ∧
    (l.step op).socket.rx.free = free ∧
      n = c.receiveCapacity.toNat - (l.step op).socket.rx.countFor id ∧
        ∃ k, l.socket.rx.Adds id k (l.step op).socket.rx
  := by
  cases h with
  | @known _ _ seq data isEnd hc hrel hadmits hknown hseen =>
    obtain ⟨idx, hfind⟩ := exists_findStream hc
    obtain ⟨a, ha, hcredit⟩ := ackState_eq hc hrel hseen
    have hreceive := receive_of_admits hfind hadmits (some seq)
    rw [if_neg (by simp [hrel])] at hreceive
    dsimp only at hreceive
    rw [receiveReliable_of_isKnown hknown, ha] at hreceive
    rw [step_of_receive hreceive, hcredit, localFree, rxCountFor_eq]
    exact ⟨rfl, rfl, rfl, 0, .refl id l.socket.rx⟩
  | @stored _ _ seq data isEnd hc hrel hadmits hnew hslot =>
    obtain ⟨idx, hfind⟩ := exists_findStream hc
    obtain ⟨a, s', ha, hadds, hcredit⟩ := receiveReliable_of_hasSlot hfind hrel hnew hslot isEnd
    have hreceive := receive_of_admits hfind hadmits (some seq)
    rw [if_neg (by simp [hrel])] at hreceive
    dsimp only at hreceive
    rw [ha] at hreceive
    have hcount := hadds.count_eq id
    rw [if_pos rfl] at hcount
    rw [step_of_receive hreceive, hcredit, localFree, rxCountFor_eq]
    refine ⟨rfl, Nat.eq_sub_of_add_eq hadds.free_eq, ?_, 1, hadds⟩
    rw [hcount, Nat.sub_sub]
  | asked hc hrel hseen =>
    obtain ⟨a, ha, hcredit⟩ := ackState_eq hc hrel hseen
    rw [step, acknowledges, ha, localFree, rxCountFor_eq]
    rw [localFree, rxCountFor_eq] at hcredit
    rw [← hcredit]
    exact ⟨rfl, rfl, rfl, 0, .refl id l.socket.rx⟩

/-- What an operation that stores a datagram does. -/
theorem step_of_storesDatagram (h : StoresDatagram l.socket op) :
  (l.step op).promised = l.promised ∧ ∃ id c, l.socket.stream id = some c ∧
    c.profile.unreliable = true ∧ l.socket.rx.Adds id 1 (l.step op).socket.rx
  := by
  obtain @⟨id, c, sequence, data, isEnd, hc, hrel, hadmits, hdue, hslot⟩ := h
  obtain ⟨idx, hfind⟩ := exists_findStream hc
  have hreceive := receive_of_admits hfind hadmits sequence
  rw [if_pos hrel] at hreceive
  obtain ⟨hnone, ⟨-, hadds⟩ | ⟨hno, -⟩⟩ :=
    @receiveUnreliable_adds l.socket id c hrel idx sequence data
  · rw [step_of_receive_none hreceive hnone]
    exact ⟨rfl, id, c, hc, hrel, hadds⟩
  · exact absurd ⟨hdue, hslot⟩ hno

/-- A packet that grants nothing and stores no datagram leaves the pool as it is. -/
theorem step_receive_of_neither {sequence : Option U32} {data : Bytes} {isEnd : Bool}
    (hgrants : ∀ c n free, ¬ Grants l.socket (.call (.receive id sequence data isEnd)) id c n free)
    (hdatagram : ¬ StoresDatagram l.socket (.call (.receive id sequence data isEnd))) :
  (l.step (.call (.receive id sequence data isEnd))).promised = l.promised ∧
    (l.step (.call (.receive id sequence data isEnd))).socket.rx = l.socket.rx
  := by
  cases hc : l.socket.stream id with
  | none =>
    have hfind : l.socket.findStream id = none := Option.map_eq_none_iff.mp hc
    have hreceive : l.socket.receive id sequence data isEnd = (.error .unknownStream, l.socket) := by
      rw [receive, hfind]
    rw [step_of_receive_none hreceive nofun]
    exact ⟨rfl, rfl⟩
  | some c =>
  by_cases hadmits : Admits c data isEnd
  · obtain ⟨idx, hfind⟩ := exists_findStream hc
    have hreceive := receive_of_admits hfind hadmits sequence
    cases hrel : c.profile.unreliable with
    | true =>
      rw [if_pos hrel] at hreceive
      obtain ⟨hnone, ⟨⟨hdue, hslot⟩, -⟩ | ⟨-, hrx⟩⟩ :=
        @receiveUnreliable_adds l.socket id c hrel idx sequence data
      · exact absurd (.mk hc hrel hadmits hdue hslot) hdatagram
      · rw [step_of_receive_none hreceive hnone]
        exact ⟨rfl, hrx⟩
    | false =>
      rw [if_neg (by simp [hrel])] at hreceive
      cases sequence with
      | none =>
        rw [step_of_receive_none hreceive nofun]
        exact ⟨rfl, rfl⟩
      | some seq =>
        dsimp only at hreceive
        by_cases hknown : l.socket.IsKnown id c seq
        · have hseen : ¬ (c.profile.unreliable = false ∧ c.seenReliable = true) :=
            fun h => hgrants _ _ _ (.known hc hrel hadmits hknown h.2)
          rw [receiveReliable_of_isKnown hknown, ackState_eq_none hc hseen] at hreceive
          rw [step_of_receive_none hreceive nofun]
          exact ⟨rfl, rfl⟩
        · have hstored : ¬ (l.socket.IsNew id c seq ∧ l.socket.HasSlot data) :=
            fun h => hgrants _ _ _ (.stored hc hrel hadmits h.1 h.2)
          obtain ⟨err, s', herr, hrx⟩ := receiveReliable_refused hknown hstored idx isEnd
          rw [herr] at hreceive
          rw [step_of_receive_none hreceive nofun]
          exact ⟨rfl, hrx⟩
  · obtain ⟨err, herr⟩ := receive_of_not_admits hc hadmits sequence
    rw [step_of_receive_none herr nofun]
    exact ⟨rfl, rfl⟩

/-- What the other operations do. -/
theorem step_of_neither (hgrants : ∀ id c n free, ¬ Grants l.socket op id c n free)
    (hdatagram : ¬ StoresDatagram l.socket op) :
  (l.step op).promised = l.promised ∧ ∃ id n, (l.step op).socket.rx.Adds id n l.socket.rx
  := by
  cases op with
  | ackState id =>
    refine ⟨?_, id, 0, .refl id l.socket.rx⟩
    rw [step, acknowledges]
    cases hc : l.socket.stream id with
    | none => rw [ackState, hc]
    | some c =>
      have hno : ¬ (c.profile.unreliable = false ∧ c.seenReliable = true) :=
        fun h => hgrants _ _ _ _ (.asked hc h.1 h.2)
      rw [ackState_eq_none hc hno]
  | call a =>
    by_cases ha : ∃ id sequence data isEnd, a = .receive id sequence data isEnd
    · obtain ⟨id, sequence, data, isEnd, rfl⟩ := ha
      obtain ⟨hpromised, hrx⟩ := step_receive_of_neither (hgrants id) hdatagram
      refine ⟨hpromised, id, 0, ?_⟩
      rw [hrx]
      exact .refl id l.socket.rx
    · have ha' : ∀ id sequence data isEnd, a ≠ .receive id sequence data isEnd :=
        fun id sequence data isEnd heq => ha ⟨id, sequence, data, isEnd, heq⟩
      refine ⟨?_, (frees_call ha').2⟩
      rw [step, acknowledges_call ha']

/-! ### Promises that are kept -/

theorem total_eq (l : Ledger) (id : U8) :
  l.total = l.promised id + l.others id
  := (Finset.add_sum_erase _ _ (Finset.mem_univ id)).symm

/-- The credit of a stream is replaced. -/
theorem total_update {l' : Ledger} {k : ℕ} (h : l'.promised = Function.update l.promised id k) :
  l'.total = k + l.others id
  := by
  rw [l'.total_eq id, h, Function.update_self, others, others, h]
  congr 1
  apply Finset.sum_congr rfl
  intro id' hid'
  rw [Function.update_of_ne (Finset.ne_of_mem_erase hid')]

/-- What is promised after credit was granted is backed exactly when no slot was promised twice. -/
theorem backed_step_of_grants (h : Grants l.socket op id c n free) :
  (l.step op).Backed ↔ l.others id = 0 ∨ min n 255 + l.others id ≤ free
  := by
  obtain ⟨hpromised, hfree, -⟩ := step_of_grants h
  rw [Backed, total_update hpromised, hfree]
  omega

theorem backed_step_of_storesDatagram (h : StoresDatagram l.socket op) :
  (l.step op).Backed ↔ l.total < l.socket.rx.free
  := by
  obtain ⟨hpromised, id, c, -, -, hadds⟩ := step_of_storesDatagram h
  have hfree := hadds.free_eq
  rw [Backed, total, hpromised, ← total]
  omega

/-- An operation keeps all promises backed exactly when it promises and takes no slot that is promised
already. -/
theorem backed_step_iff (h : l.Backed) (op : Op) :
  (l.step op).Backed ↔ l.Covers op
  := by
  constructor
  · intro hbacked
    exact ⟨fun id c n free hgrant => (backed_step_of_grants hgrant).mp hbacked,
      fun hdatagram => (backed_step_of_storesDatagram hdatagram).mp hbacked⟩
  · rintro ⟨hcovers, hspares⟩
    by_cases hgrants : ∃ id c n free, Grants l.socket op id c n free
    · obtain ⟨id, c, n, free, hgrant⟩ := hgrants
      exact (backed_step_of_grants hgrant).mpr (hcovers id c n free hgrant)
    by_cases hdatagram : StoresDatagram l.socket op
    · exact (backed_step_of_storesDatagram hdatagram).mpr (hspares hdatagram)
    · have hnone : ∀ id c n free, ¬ Grants l.socket op id c n free :=
        fun id c n free hgrant => hgrants ⟨id, c, n, free, hgrant⟩
      obtain ⟨hpromised, id, n, hadds⟩ := step_of_neither hnone hdatagram
      have hfree := hadds.free_eq
      rw [Backed] at h ⊢
      rw [total, hpromised, ← total]
      omega

/-- The streams with credit are reliable, may hold as many messages, and their messages fit into a
slot. -/
def Owed (l : Ledger) : Prop :=
  ∀ id, l.promised id ≠ 0 → ∃ c, l.socket.stream id = some c ∧ c.profile.unreliable = false ∧
    l.promised id + l.socket.rx.countFor id ≤ c.receiveCapacity.toNat ∧
    ∀ (data : Bytes) isEnd, validateSendLen c.profile data.length isEnd = .ok () →
      data.length ≤ l.socket.rx.slotSize

theorem Owed.honoured (h : l.Owed) (hbacked : l.Backed) :
  l.Honoured
  := by
  intro id c data isEnd hpromised hc hlen
  obtain ⟨c', hc', hrel, hroom, hfits⟩ := h id hpromised
  rw [hc] at hc'
  cases hc'
  obtain ⟨idx, hfind⟩ := exists_findStream hc
  have hslot : l.socket.HasSlot data := by
    have hle := hfits data isEnd hlen
    rw [Backed, l.total_eq id] at hbacked
    rw [HasSlot]
    omega
  have hok : ∀ {result : Except Error (Option Ack)} {a}, result = .ok a →
      result ≠ .error .bufferFull ∧ result ≠ .error .messageTooLarge := by
    rintro _ a rfl
    exact ⟨by simp, by simp⟩
  by_cases hadmits : Admits c data isEnd
  · rw [receive_of_admits hfind hadmits, if_neg (by simp [hrel])]
    dsimp only
    have hwindow : l.socket.InWindow id c c.nextExpected := by
      refine ⟨BitVec.lt_irrefl _, by simp, ?_⟩
      rw [rxCountFor_eq]
      omega
    by_cases hpool : l.socket.InPool id c.nextExpected
    · rw [receiveReliable_of_isKnown (.inr ⟨hwindow, hpool⟩)]
      obtain ⟨a, ha⟩ := exists_ackState hc
      exact hok ha
    · obtain ⟨a, s', ha, -⟩ :=
        receiveReliable_of_hasSlot hfind hrel ⟨hwindow, hpool⟩ hslot isEnd
      rw [ha]
      exact hok rfl
  · rw [receive.eq_def, hfind]
    dsimp only
    split
    · exact ⟨by simp, by simp⟩
    next hstate =>
    split
    · exact ⟨by simp, by simp⟩
    · next hmay => exact absurd ⟨hstate, by simpa using hmay, hlen⟩ hadmits

theorem Owed.step (h : l.Owed) (hroomy : l.Roomy op) :
  (l.step op).Owed
  := by
  have hterms := sameTerms_perform l.socket op
  -- A stream that is owed as much as before.
  have hkeep : ∀ id, (l.step op).promised id = l.promised id →
      (l.step op).socket.rx.countFor id ≤ l.socket.rx.countFor id →
        (l.step op).socket.rx.slotSize = l.socket.rx.slotSize → (l.step op).promised id ≠ 0 →
          ∃ c, (l.step op).socket.stream id = some c ∧ c.profile.unreliable = false ∧
            (l.step op).promised id + (l.step op).socket.rx.countFor id ≤ c.receiveCapacity.toNat ∧
            ∀ (data : Bytes) isEnd, validateSendLen c.profile data.length isEnd = .ok () →
              data.length ≤ (l.step op).socket.rx.slotSize := by
    intro id hpromised hcount hslotSize hne
    rw [hpromised] at hne ⊢
    obtain ⟨c, hc, hrel, hroom, hfits⟩ := h id hne
    obtain ⟨c', hc', hprofile, hcapacity, -⟩ := hterms id c hc
    rw [hslotSize]
    refine ⟨c', hc', by rw [hprofile]; exact hrel, ?_, by rw [hprofile]; exact hfits⟩
    rw [hcapacity]
    omega
  by_cases hgrants : ∃ id c n free, Grants l.socket op id c n free
  · obtain ⟨id, c, n, free, hgrant⟩ := hgrants
    obtain ⟨hpromised, hfree, hn, k, hadds⟩ := step_of_grants hgrant
    intro id' hne
    by_cases hid : id' = id
    · subst hid
      rw [hpromised, Function.update_self] at hne ⊢
      obtain ⟨hc, hrel⟩ := hgrant.stream
      obtain ⟨c', hc', hprofile, hcapacity, -⟩ := hterms id' c hc
      refine ⟨c', hc', by rw [hprofile]; exact hrel, ?_, ?_⟩
      · rw [hcapacity]
        omega
      · rw [hprofile, hadds.slotSize_eq]
        apply hroomy id' c n free hgrant
        · omega
        · omega
    · apply hkeep id' _ _ hadds.slotSize_eq hne
      · rw [hpromised, Function.update_of_ne hid]
      · rw [hadds.count_eq, if_neg hid]
        exact le_rfl
  by_cases hdatagram : StoresDatagram l.socket op
  · obtain ⟨hpromised, id, c, hc, hrel, hadds⟩ := step_of_storesDatagram hdatagram
    intro id' hne
    apply hkeep id' (congrFun hpromised id') _ hadds.slotSize_eq hne
    have hid : id' ≠ id := by
      rintro rfl
      rw [hpromised] at hne
      obtain ⟨c', hc', hrel', -⟩ := h id' hne
      rw [hc] at hc'
      cases hc'
      rw [hrel] at hrel'
      cases hrel'
    rw [hadds.count_eq, if_neg hid]
    exact le_rfl
  · have hnone : ∀ id c n free, ¬ Grants l.socket op id c n free :=
      fun id c n free hgrant => hgrants ⟨id, c, n, free, hgrant⟩
    obtain ⟨hpromised, id, n, hadds⟩ := step_of_neither hnone hdatagram
    intro id' hne
    apply hkeep id' (congrFun hpromised id') _ hadds.slotSize_eq.symm hne
    have hcount := hadds.count_eq id'
    omega

/-- Each slot that was promised is free, exactly in the runs in which no slot is promised twice or taken
by a datagram when it is promised; and when credit is granted only on streams whose messages fit into a
slot, the promises are honoured. -/
theorem promises_kept_iff (s : BoundedGtsSocket) (ops : List Op) :
  ((∀ past, past <+: ops → (Machine.run Ledger.step ⟨s, fun _ => 0⟩ past).Backed) ↔
      Machine.Along Ledger.step Covers ⟨s, fun _ => 0⟩ ops) ∧
    (Machine.Along Ledger.step (fun l op => l.Covers op ∧ l.Roomy op) ⟨s, fun _ => 0⟩ ops →
      ∀ past, past <+: ops → (Machine.run Ledger.step ⟨s, fun _ => 0⟩ past).Backed ∧
        (Machine.run Ledger.step ⟨s, fun _ => 0⟩ past).Honoured)
  := by
  have hbacked : (⟨s, fun _ => 0⟩ : Ledger).Backed := by simp [Backed, total]
  have howed : (⟨s, fun _ => 0⟩ : Ledger).Owed := fun _ hne => absurd rfl hne
  constructor
  · apply Machine.forall_isPrefix_iff (I := Backed) (fun _ h => h)
    · intro l op h
      apply (backed_step_iff h op).mpr
    · intro l op h
      apply (backed_step_iff h op).mp
    · exact hbacked
  · rintro hok past ⟨rest, rfl⟩
    have hpast := ((Machine.along_append _ past rest).mp hok).1
    have hinv : (Machine.run Ledger.step ⟨s, fun _ => 0⟩ past).Backed ∧
        (Machine.run Ledger.step ⟨s, fun _ => 0⟩ past).Owed := by
      refine Machine.invariant_along (P := fun l => l.Backed ∧ l.Owed) ?_ ⟨hbacked, howed⟩ hpast
      rintro l op ⟨hb, ho⟩ ⟨hcovers, hroomy⟩
      exact ⟨(backed_step_iff hb op).mpr hcovers, ho.step hroomy⟩
    exact ⟨hinv.1, hinv.2.honoured hinv.1⟩

/-- A slot is promised to a stream, and a message of another stream takes it.  The next message of the
first stream is refused. -/
theorem not_backed :
  let profile : StreamProfile := ⟨false, true, false, false, .bidirectional, .msg128⟩
  ∃ socket, BoundedGtsSocket.new .responder 1#32 2#32 ⟨List.replicate 16 1#8, rfl⟩ [none, none] [.empty]
      [0#8] [.empty, .empty] [0#8, 0#8] = .ok socket ∧
    let l := Machine.run Ledger.step ⟨socket, fun _ => 0⟩
      [.call (.addStream 0#8 profile false 2#8 0#8), .call (.addStream 2#8 profile false 2#8 0#8),
        .call (.receive 0#8 (some 0#32) [10#8] false), .call (.receive 2#8 (some 0#32) [11#8] false)]
    l.promised 0#8 = 1 ∧ l.socket.rx.free < l.total ∧
      (l.socket.receive 0#8 (some 1#32) [12#8] false).1 = .error .bufferFull
  := by
  intro profile
  refine ⟨_, rfl, ?_⟩
  decide +kernel

end Ledger

end BoundedGtsSocket

end SmolGnet
