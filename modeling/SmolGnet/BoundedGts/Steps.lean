import SmolGnet.BoundedGts.Socket
import Mathlib.Logic.Relation
import Mathlib.Logic.Function.Basic

/-!
# What the operations of the heapless socket do

For what arrives and is delivered, a socket is its streams, the content of the slots of
its receive pool and the delivery counter: its `RxView`.  A packet that arrives does at
most one thing to it (`Arrival`), and then messages that wait behind the expected one are
delivered one by one (`Deliver`).  Taking a message frees the slot of the one that was
delivered first.  These are all the changes, and what follows reasons about them alone.
-/

namespace SmolGnet

namespace BoundedGtsSocket

variable {s s' : BoundedGtsSocket} {id : U8} {idx : ℕ} {c c' : StreamCore}

/-! ### Looking up a stream -/

/-- The stream `id` in a slot. -/
def inSlot (id : U8) (slot : Option StreamCore) : Option StreamCore :=
  slot.filter (fun c => c.id == id)

theorem inSlot_some (id : U8) (c : StreamCore) :
  inSlot id (some c) = if c.id = id then some c else none
  := by
  simp [inSlot, Option.filter]

/-- The first slot with the stream `id` decides what its state is. -/
theorem stream_eq_findSome? (s : BoundedGtsSocket) (id : U8) :
  s.stream id = s.streams.findSome? (inSlot id)
  := by
  rw [stream, findStream]
  induction s.streams with
  | nil => rfl
  | cons slot slots ih =>
    cases slot with
    | none =>
      rw [List.findSome?_cons, show inSlot id none = none from rfl, ← ih]
      have hne : ((none : Option U8) == some id) = false := rfl
      simp only [List.findIdx?_cons, Option.map_none, hne, Bool.false_eq_true, if_false]
      cases slots.findIdx? (fun slot => slot.map StreamCore.id == some id) with
      | none => rfl
      | some idx =>
        simp only [Option.map_some, List.getElem?_cons_succ]
        rcases slots[idx]? with _ | _ | c <;> rfl
    | some c =>
      rw [List.findSome?_cons, inSlot_some]
      by_cases hc : c.id = id
      · simp [List.findIdx?_cons, hc]
      · rw [if_neg hc, ← ih]
        simp only [List.findIdx?_cons, Option.map_some, beq_iff_eq, Option.some.injEq, hc,
          if_false]
        cases slots.findIdx? (fun slot => slot.map StreamCore.id == some id) with
        | none => rfl
        | some idx =>
          simp only [Option.map_some, List.getElem?_cons_succ]
          rcases slots[idx]? with _ | _ | c <;> rfl

/-- A slot that has no stream, or the stream `id`, is set to a state of the stream `id`,
which no slot before it has. -/
theorem findSome?_set
    {slots : List (Option StreamCore)} {slot : Option StreamCore} (hc : c.id = id)
    (hslot : slots[idx]? = some slot) (hid : ∀ c', slot = some c' → c'.id = id)
    (hfirst : ∀ j < idx, ∀ c', slots[j]? = some (some c') → c'.id ≠ id) (id' : U8) :
  (slots.set idx (some c)).findSome? (inSlot id')
    = if id' = id then some c else slots.findSome? (inSlot id')
  := by
  induction slots generalizing idx with
  | nil => cases hslot
  | cons first slots ih =>
    cases idx with
    | zero =>
      cases hslot
      rw [List.set_cons_zero, List.findSome?_cons, inSlot_some, hc]
      by_cases hid' : id' = id
      · simp [hid']
      · have hnone : inSlot id' slot = none := by
          cases slot with
          | none => rfl
          | some c' => rw [inSlot_some, hid c' rfl, if_neg (Ne.symm hid')]
        rw [if_neg (Ne.symm hid'), if_neg hid', List.findSome?_cons, hnone]
    | succ idx =>
      have ih' := ih hslot (fun j hj => hfirst (j + 1) (Nat.succ_lt_succ hj))
      rw [List.set_cons_succ, List.findSome?_cons, List.findSome?_cons, ih']
      by_cases hid' : id' = id
      · have hnone : inSlot id' first = none := by
          cases first with
          | none => rfl
          | some c' => rw [inSlot_some, hid', if_neg (hfirst 0 (Nat.succ_pos _) c' rfl)]
        rw [hnone, if_pos hid']
      · rw [if_neg hid', if_neg hid']

theorem stream_set {slot : Option StreamCore} (hc : c.id = id)
    (hslot : s.streams[idx]? = some slot) (hid : ∀ c', slot = some c' → c'.id = id)
    (hfirst : ∀ j < idx, ∀ c', s.streams[j]? = some (some c') → c'.id ≠ id) :
  (s.setStream idx c).stream = Function.update s.stream id (some c)
  := by
  funext id'
  rw [stream_eq_findSome?, setStream, findSome?_set hc hslot hid hfirst]
  by_cases hid' : id' = id
  · subst hid'
    rw [if_pos rfl, Function.update_self]
  · rw [if_neg hid', Function.update_of_ne hid', stream_eq_findSome?]

/-- What a slot that was found is. -/
theorem findStream_eq_some (h : s.findStream id = some (idx, c)) :
  s.streams[idx]? = some (some c) ∧ c.id = id ∧
    ∀ j < idx, ∀ c', s.streams[j]? = some (some c') → c'.id ≠ id
  := by
  rw [findStream] at h
  split at h
  · cases h
  · next i hi =>
    split at h
    · next c' hc' =>
      cases h
      obtain ⟨hlt, hpos, hneg⟩ := List.findIdx?_eq_some_iff_getElem.mp hi
      have hget := (List.getElem?_eq_some_iff.mp hc').2
      refine ⟨hc', ?_, ?_⟩
      · simpa [hget] using hpos
      · intro j hj c' hc' hid
        have hj' := (List.getElem?_eq_some_iff.mp hc').2
        have hn := hneg j hj
        rw [hj'] at hn
        simp [hid] at hn
    · cases h

theorem stream_of_findStream (h : s.findStream id = some (idx, c)) :
  s.stream id = some c
  := by
  rw [stream, h, Option.map_some]

/-- Replacing the state of a stream that was found changes this stream only. -/
theorem stream_setStream (h : s.findStream id = some (idx, c)) (hc' : c'.id = id) :
  (s.setStream idx c').stream = Function.update s.stream id (some c')
  := by
  obtain ⟨hslot, hid, hfirst⟩ := findStream_eq_some h
  apply stream_set hc' hslot _ hfirst
  rintro _ ⟨⟩
  exact hid

/-- Adding a stream adds this stream only. -/
theorem addStream_eq_ok
    {profile : StreamProfile} {openedByLocal : Bool} {receiveCapacity peerCredit : U8}
    (h : s.addStream id profile openedByLocal receiveCapacity peerCredit = .ok s') :
  s.stream id = none ∧ s'.rx = s.rx ∧ s'.tx = s.tx ∧
    s'.nextDeliveryOrder = s.nextDeliveryOrder ∧
    s'.stream = Function.update s.stream id
      (some (newStream id profile openedByLocal receiveCapacity peerCredit))
  := by
  rw [addStream] at h
  split at h
  · cases h
  · split at h
    · cases h
    · next hany =>
      split at h
      · cases h
      · next i hi =>
        cases h
        obtain ⟨hlt, hnone, -⟩ := List.findIdx?_eq_some_iff_getElem.mp hi
        have hslot : s.streams[i]? = some none := by
          rw [List.getElem?_eq_getElem hlt, Option.isNone_iff_eq_none.mp hnone]
        have hnot : ∀ c', some c' ∈ s.streams → c'.id ≠ id := by
          intro c' hc' hid
          apply hany
          rw [List.any_eq_true]
          exact ⟨some c', hc', by simp [hid]⟩
        have hfirst : ∀ j < i, ∀ c', s.streams[j]? = some (some c') → c'.id ≠ id :=
          fun j _ c' hc' => hnot c' (List.mem_of_getElem? hc')
        refine ⟨?_, rfl, rfl, rfl, ?_⟩
        · rw [stream_eq_findSome?, List.findSome?_eq_none_iff]
          intro slot hmem
          cases slot with
          | none => rfl
          | some c' => rw [inSlot_some, if_neg (hnot c' hmem)]
        · exact stream_set rfl hslot (by rintro _ ⟨⟩) hfirst

/-- A socket that has no streams and no messages, and has delivered none. -/
structure Fresh (s : BoundedGtsSocket) : Prop where
  stream_eq : ∀ id, s.stream id = none
  tx_eq : ∀ i, s.tx.get i = none
  rx_eq : ∀ i, s.rx.get i = none
  order_eq : s.nextDeliveryOrder = 1#64

/-- A new socket is fresh. -/
theorem fresh_of_new
    {role : TunnelRole} {localReceiveId localResetId : U32} {css : ServiceSelector}
    {streams : List (Option StreamCore)} {txSlots : List (MessageSlot TxMeta)} {txBytes : Bytes}
    {rxSlots : List (MessageSlot RxMeta)} {rxBytes : Bytes}
    (h : new role localReceiveId localResetId css streams txSlots txBytes rxSlots rxBytes = .ok s) :
  s.Fresh
  := by
  rw [new] at h
  split at h
  · cases h
  · cases htx : MessagePool.new txSlots txBytes with
    | error err => simp [htx, bind, Except.bind] at h
    | ok tx =>
      cases hrx : MessagePool.new rxSlots rxBytes with
      | error err => simp [htx, hrx, bind, Except.bind] at h
      | ok rx =>
        rw [htx, hrx] at h
        cases h
        refine ⟨fun id => ?_, MessagePool.get_of_new htx, MessagePool.get_of_new hrx, rfl⟩
        rw [stream_eq_findSome?, List.findSome?_eq_none_iff]
        intro slot hslot
        obtain ⟨_, -, rfl⟩ := List.mem_map.mp hslot
        rfl

/-- A fresh socket that is established is fresh. -/
theorem Fresh.establish {remoteReceiveId remoteResetId : U32} (h : s.Fresh)
    (hs' : s.establish remoteReceiveId remoteResetId = .ok s') :
  s'.Fresh
  := by
  rw [BoundedGtsSocket.establish] at hs'
  split at hs'
  · cases hs'
    exact ⟨h.stream_eq, h.tx_eq, h.rx_eq, h.order_eq⟩
  · cases hs'

end BoundedGtsSocket

/-! ### What a packet does -/

namespace StreamCore

/-- A message has arrived on the stream. -/
def seen (c : StreamCore) : StreamCore :=
  { c with seenReliable := true }

/-- The expected message of the stream has been delivered. -/
def advance (c : StreamCore) (isEnd : Bool) : StreamCore :=
  { c with
    nextExpected := c.nextExpected + 1#32
    remoteEnded := c.remoteEnded || isEnd }

/-- A message has been sent on the stream. -/
def sent (c : StreamCore) (isEnd : Bool) : StreamCore :=
  { c with
    nextTxSequence := c.nextTxSequence + 1#32
    peerCredit := c.peerCredit - 1#8
    localEnded := c.localEnded || isEnd }

@[simp]
theorem seen_nextExpected (c : StreamCore) :
  c.seen.nextExpected = c.nextExpected
  := rfl

@[simp]
theorem advance_nextExpected (c : StreamCore) (isEnd : Bool) :
  (c.advance isEnd).nextExpected = c.nextExpected + 1#32
  := rfl

end StreamCore

/-- A socket as far as arrivals are concerned: the streams, the content of the slots of
the receive pool, their number and the delivery counter.  The pool of the sender comes
along unchanged. -/
structure RxView where
  stream : U8 → Option StreamCore
  slots : ℕ → Option (RxMeta × Bytes)
  capacity : ℕ
  order : U64
  tx : MessagePool TxMeta

namespace RxView

/-- Some slot has a message of the stream with this sequence number. -/
def Stores (v : RxView) (id : U8) (seq : U32) : Prop :=
  ∃ i m data, v.slots i = some (m, data) ∧ m.streamId = id ∧ m.sequence = seq

/-- Replace the state of a stream. -/
def setStream (v : RxView) (id : U8) (c : StreamCore) : RxView :=
  { v with stream := Function.update v.stream id (some c) }

@[simp]
theorem setStream_stream_self {v : RxView} {id : U8} {c : StreamCore} :
  (v.setStream id c).stream id = some c
  := Function.update_self ..

theorem setStream_self {v : RxView} {id : U8} {c : StreamCore} (h : v.stream id = some c) :
  v.setStream id c = v
  := by
  rw [setStream, ← h, Function.update_eq_self]

/-- Replace the content of a slot. -/
def setSlot (v : RxView) (i : ℕ) (x : Option (RxMeta × Bytes)) : RxView :=
  { v with slots := Function.update v.slots i x }

/-- Advance the delivery counter. -/
def tick (v : RxView) : RxView :=
  { v with order := BoundedGtsSocket.nextOrder v.order }

/-- What the arrival of a packet on the stream `id` does before messages that wait are
delivered; the packet satisfies `G`. -/
inductive Arrival (id : U8) (G : U32 → Bytes → Bool → Prop) (v : RxView) : RxView → Prop
  | ignored : Arrival id G v v
  | refused : Arrival id G v v.tick
  | early {c : StreamCore} {seq : U32} {data : Bytes} {isEnd : Bool} {i : ℕ}
      (hc : v.stream id = some c) (hrel : c.profile.unreliable = false) (hG : G seq data isEnd)
      (hlt : c.nextExpected < seq) (hnew : ¬ v.Stores id seq) (hi : i < v.capacity)
      (hfree : v.slots i = none) :
      Arrival id G v
        ((v.setSlot i (some (⟨id, seq, isEnd, .pending, 0#64⟩, data))).setStream id c.seen)
  | expected {c : StreamCore} {data : Bytes} {isEnd : Bool} {i : ℕ}
      (hc : v.stream id = some c) (hrel : c.profile.unreliable = false)
      (hG : G c.nextExpected data isEnd) (hnew : ¬ v.Stores id c.nextExpected)
      (hi : i < v.capacity) (hfree : v.slots i = none) :
      Arrival id G v
        ((v.setSlot i (some (⟨id, c.nextExpected, isEnd, .delivered, v.order⟩, data))).setStream
          id (c.seen.advance isEnd)).tick
  | overtaken {c : StreamCore} {highest : Option U32} (hc : v.stream id = some c)
      (hrel : c.profile.unreliable = true) :
      Arrival id G v (v.setStream id { c with unrelRxHighest := highest }).tick
  | datagram {c : StreamCore} {highest : Option U32} {seq : U32} {data : Bytes} {i : ℕ}
      (hc : v.stream id = some c) (hrel : c.profile.unreliable = true)
      (hi : i < v.capacity) (hfree : v.slots i = none) :
      Arrival id G v
        ((v.setSlot i (some (⟨id, seq, false, .delivered, v.order⟩, data))).setStream id
          { c with unrelRxHighest := highest }).tick

/-- A message that is pending under the expected sequence number is delivered. -/
inductive Deliver (id : U8) (v : RxView) : RxView → Prop
  | mk {c : StreamCore} {m : RxMeta} {data : Bytes} {i : ℕ} (hc : v.stream id = some c)
      (hi : v.slots i = some (m, data)) (hid : m.streamId = id)
      (hseq : m.sequence = c.nextExpected) (hpending : m.disposition = .pending) :
      Deliver id v
        ((v.setSlot i (some ({ m with disposition := .delivered, order := v.order }, data))).setStream
          id (c.advance m.isEnd)).tick

theorem exists_stream_of_deliveries {v v' : RxView} {id : U8} {c : StreamCore}
    (h : Relation.ReflTransGen (Deliver id) v v') (hc : v.stream id = some c) :
  ∃ c', v'.stream id = some c'
  := by
  induction h with
  | refl => exact ⟨c, hc⟩
  | tail _ hstep _ =>
    cases hstep
    exact ⟨_, Function.update_self ..⟩

end RxView

namespace BoundedGtsSocket

variable {s s' : BoundedGtsSocket} {id : U8} {idx : ℕ} {c c' : StreamCore}

/-- The socket as far as arrivals are concerned. -/
def rxView (s : BoundedGtsSocket) : RxView where
  stream := s.stream
  slots := s.rx.get
  capacity := s.rx.capacity
  order := s.nextDeliveryOrder
  tx := s.tx

/-- A slot, the state of a stream and the delivery counter are replaced. -/
theorem rxView_update
    {rx : MessagePool RxMeta} {i : ℕ} {x : Option (RxMeta × Bytes)}
    (hfind : s.findStream id = some (idx, c)) (hc' : c'.id = id)
    (h : s.rx.UpdatedAt rx i x) (order : U64) :
  ({ s with rx, nextDeliveryOrder := order }.setStream idx c').rxView
    = { (s.rxView.setSlot i x).setStream id c' with order }
  := by
  have hstream := @stream_setStream { s with rx, nextDeliveryOrder := order } id idx c c' hfind hc'
  rw [rxView, hstream]
  simp only [RxView.setSlot, RxView.setStream, rxView, setStream, h.get_eq, h.capacity_eq]
  rfl

/-- The delivery loop delivers messages one after the other and does not fail. -/
theorem markContiguousDelivered_eq (n : ℕ) (h : s.stream id = some c) :
  (markContiguousDelivered id n s).1 = .ok () ∧
    Relation.ReflTransGen (RxView.Deliver id) s.rxView (markContiguousDelivered id n s).2.rxView
  := by
  induction n generalizing s c with
  | zero => exact ⟨rfl, .refl⟩
  | succ n ih =>
    obtain ⟨⟨idx, c'⟩, hfind, rfl⟩ := Option.map_eq_some_iff.mp h
    rw [markContiguousDelivered, hfind]
    dsimp only
    split
    · exact ⟨rfl, .refl⟩
    · next i hi =>
      obtain ⟨m, hm, hexp⟩ := MessagePool.find_eq_some hi
      obtain ⟨data, hget⟩ := MessagePool.metadata_eq_some.mp hm
      obtain ⟨⟨hid, hseq⟩, hpending⟩ : (m.streamId = id ∧ m.sequence = c'.nextExpected) ∧
          m.disposition = .pending := by
        simpa [isExpected] using hexp
      obtain ⟨rx, hrx, hupd⟩ := MessagePool.setMetadata_of_get hget
        { m with disposition := .delivered, order := s.nextDeliveryOrder }
      have hstep := @RxView.Deliver.mk id s.rxView c' m data i h hget hid hseq hpending
      have hview := @rxView_update s id idx c' (c'.advance m.isEnd) rx i _ hfind
        (findStream_eq_some hfind).2.1 hupd (nextOrder s.nextDeliveryOrder)
      rw [hm]
      dsimp only
      rw [hrx]
      dsimp only
      have hstream := congrFun (congrArg RxView.stream hview) id
      obtain ⟨hok, hsteps⟩ := ih (hstream.trans (Function.update_self ..))
      rw [hview] at hsteps
      exact ⟨hok, .head hstep hsteps⟩

/-- The state of a stream is replaced. -/
theorem rxView_setStream (hfind : s.findStream id = some (idx, c)) (hc' : c'.id = id) :
  (s.setStream idx c').rxView = s.rxView.setStream id c'
  := by
  rw [rxView, stream_setStream hfind hc']
  rfl

theorem not_stores_of_find {seq : U32}
    (h : ¬ (s.rx.find (fun m => m.streamId = id && m.sequence = seq)).isSome) :
  ¬ s.rxView.Stores id seq
  := by
  rintro ⟨i, m, data, hi, hid, hseq⟩
  rw [Option.not_isSome_iff_eq_none, MessagePool.find_eq_none] at h
  have hm := h i m (MessagePool.metadata_eq_some.mpr ⟨data, hi⟩)
  simp [hid, hseq] at hm

/-- The messages that wait are delivered and the result is acknowledged. -/
theorem deliverAndAck_eq (h : s.stream id = some c) :
  (s.deliverAndAck id).1 = (s.deliverAndAck id).2.ackState id ∧
    Relation.ReflTransGen (RxView.Deliver id) s.rxView (s.deliverAndAck id).2.rxView
  := by
  obtain ⟨hok, hsteps⟩ := markContiguousDelivered_eq s.rx.capacity h
  rw [deliverAndAck]
  cases hmark : markContiguousDelivered id s.rx.capacity s with
  | mk result s' =>
    rw [hmark] at hok hsteps
    dsimp only at hok
    subst hok
    exact ⟨rfl, hsteps⟩

/-- There is room for a message of the stream with this sequence number. -/
structure HasRoom (s : BoundedGtsSocket) (c : StreamCore) (seq : U32) (data : Bytes) : Prop where
  near : seq - c.nextExpected ≤ 32#32
  allowed : s.rxCountFor c.id < c.receiveCapacity.toNat
  fits : data.length ≤ s.rx.slotSize
  free : 0 < s.rx.free

theorem insert_of_hasRoom {seq : U32} {data : Bytes} (h : HasRoom s c seq data) (m : RxMeta) :
  ∃ i rx, s.rx.insert m data = .ok (i, rx)
  := MessagePool.exists_insert h.fits h.free m

/-- What a packet of a reliable stream does: it is known already, it is refused because
there is no room for it, or its message is stored, early or as the expected one. -/
theorem receiveReliable_cases
    {seq : U32} {data : Bytes} (isEnd : Bool) (hfind : s.findStream id = some (idx, c)) :
  ((seq < c.nextExpected ∨ s.rxView.Stores id seq) ∧
    (s.receiveReliable idx c id seq data isEnd) = (s.ackState id, s)) ∨
  (¬ HasRoom s c seq data ∧ ∃ err s',
    s.receiveReliable idx c id seq data isEnd = (.error err, s') ∧
    (s'.rxView = s.rxView ∨ s'.rxView = s.rxView.tick)) ∨
  (¬ s.rxView.Stores id seq ∧ ∃ (i : ℕ) (s' : BoundedGtsSocket), i < s.rxView.capacity ∧
    s.rxView.slots i = none ∧ s.receiveReliable idx c id seq data isEnd = s'.deliverAndAck id ∧
    ((c.nextExpected < seq ∧
      s'.rxView = (s.rxView.setSlot i
        (some (⟨id, seq, isEnd, .pending, 0#64⟩, data))).setStream id c.seen) ∨
    (seq = c.nextExpected ∧
      s'.rxView = ((s.rxView.setSlot i
        (some (⟨id, seq, isEnd, .delivered, s.nextDeliveryOrder⟩, data))).setStream id
          (c.seen.advance isEnd)).tick)))
  := by
  have hid := (findStream_eq_some hfind).2.1
  rw [receiveReliable]
  split
  · next hlt => exact Or.inl ⟨Or.inl hlt, rfl⟩
  · next hge =>
    split
    · next hfar =>
      exact Or.inr (Or.inl ⟨fun h => BitVec.not_lt.mpr h.near hfar, _, _, rfl, Or.inl rfl⟩)
    · split
      · next hfull =>
        refine Or.inr (Or.inl ⟨fun h => ?_, _, _, rfl, Or.inl rfl⟩)
        have := h.allowed
        rw [hid] at this
        omega
      · split
        · next hfound =>
          refine Or.inl ⟨Or.inr ?_, rfl⟩
          obtain ⟨i, hi⟩ := Option.isSome_iff_exists.mp hfound
          obtain ⟨m, hm, heq⟩ := MessagePool.find_eq_some hi
          obtain ⟨data', hget⟩ := MessagePool.metadata_eq_some.mp hm
          obtain ⟨hm₁, hm₂⟩ : m.streamId = id ∧ m.sequence = seq := by simpa using heq
          exact ⟨i, m, data', hget, hm₁, hm₂⟩
        · next hfound =>
          have hnew := not_stores_of_find hfound
          by_cases hexp : seq = c.nextExpected
          · simp only [hexp, decide_true, if_true, Bool.true_and]
            split
            · next err herr =>
              refine Or.inr (Or.inl ⟨fun h => ?_, _, _, rfl, Or.inr rfl⟩)
              obtain ⟨i, rx, hrx⟩ := insert_of_hasRoom h _
              rw [hrx] at herr
              cases herr
            · next i rx hrx =>
              obtain ⟨-, hfree, hi, hupd⟩ := MessagePool.insert_eq_ok hrx
              exact Or.inr (Or.inr ⟨by rw [← hexp]; exact hnew, i, _, hi, hfree, rfl,
                Or.inr ⟨trivial, @rxView_update s id idx c (c.seen.advance isEnd) rx i _ hfind hid
                  hupd (nextOrder s.nextDeliveryOrder)⟩⟩)
          · have hlt : c.nextExpected < seq := by bv_omega
            simp only [hexp, decide_false, Bool.false_eq_true, if_false, Bool.false_and,
              Bool.or_false]
            split
            · next err herr =>
              refine Or.inr (Or.inl ⟨fun h => ?_, _, _, rfl, Or.inl rfl⟩)
              obtain ⟨i, rx, hrx⟩ := insert_of_hasRoom h _
              rw [hrx] at herr
              cases herr
            · next i rx hrx =>
              obtain ⟨-, hfree, hi, hupd⟩ := MessagePool.insert_eq_ok hrx
              exact Or.inr (Or.inr ⟨hnew, i, _, hi, hfree, rfl,
                Or.inl ⟨hlt, @rxView_update s id idx c c.seen rx i _ hfind hid hupd
                  s.nextDeliveryOrder⟩⟩)

theorem exists_ackState (h : s.stream id = some c) :
  ∃ a, s.ackState id = .ok a
  := by
  rw [ackState, h]
  dsimp only
  split
  · exact ⟨_, rfl⟩
  · exact ⟨_, rfl⟩

/-- Once a message is stored, its packet is answered. -/
theorem exists_deliverAndAck (h : s.stream id = some c) :
  ∃ a, (s.deliverAndAck id).1 = .ok a
  := by
  obtain ⟨heq, hsteps⟩ := deliverAndAck_eq h
  obtain ⟨c', hc'⟩ := RxView.exists_stream_of_deliveries hsteps h
  rw [heq]
  exact exists_ackState hc'

/-- What a packet of a reliable stream does to the view.  When it is not accepted, it
changes at most the delivery counter. -/
theorem receiveReliable_rxView
    {G : U32 → Bytes → Bool → Prop} {seq : U32} {data : Bytes} {isEnd : Bool}
    (hfind : s.findStream id = some (idx, c)) (hrel : c.profile.unreliable = false)
    (hG : G seq data isEnd) :
  ∃ v, RxView.Arrival id G s.rxView v ∧
    Relation.ReflTransGen (RxView.Deliver id) v
      (s.receiveReliable idx c id seq data isEnd).2.rxView ∧
    ∀ err, (s.receiveReliable idx c id seq data isEnd).1 = .error err →
      (s.receiveReliable idx c id seq data isEnd).2.rxView = s.rxView ∨
        (s.receiveReliable idx c id seq data isEnd).2.rxView = s.rxView.tick
  := by
  have hc := stream_of_findStream hfind
  obtain ⟨-, heq⟩ | ⟨-, err, s', heq, hview⟩ | ⟨hnew, i, s', hi, hfree, heq, hview⟩ :=
    @receiveReliable_cases s id idx c seq data isEnd hfind
  · rw [heq]
    exact ⟨_, .ignored, .refl, fun _ _ => Or.inl rfl⟩
  · rw [heq]
    refine ⟨s'.rxView, ?_, .refl, fun _ _ => hview⟩
    rcases hview with hview | hview
    · rw [hview]
      exact .ignored
    · rw [hview]
      exact .refused
  · have hstored : RxView.Arrival id G s.rxView s'.rxView ∧
        ∃ c', s'.rxView.stream id = some c' := by
      rcases hview with ⟨hlt, hview⟩ | ⟨rfl, hview⟩
      · rw [hview]
        exact ⟨.early hc hrel hG hlt hnew hi hfree, _, Function.update_self ..⟩
      · rw [hview]
        exact ⟨.expected hc hrel hG hnew hi hfree, _, Function.update_self ..⟩
    obtain ⟨harrival, c', hc'⟩ := hstored
    obtain ⟨a, ha⟩ := exists_deliverAndAck hc'
    rw [heq]
    refine ⟨_, harrival, (deliverAndAck_eq hc').2, fun err herr => ?_⟩
    rw [ha] at herr
    cases herr

/-- A datagram is stored, or not stored because there is no room for it. -/
theorem storeDatagram_rxView (s : BoundedGtsSocket) (id : U8) (seq : U32) (data : Bytes) :
  (s.storeDatagram id seq data).2.rxView = s.rxView.tick ∨
    ∃ i, i < s.rxView.capacity ∧ s.rxView.slots i = none ∧
      (s.storeDatagram id seq data).2.rxView
        = (s.rxView.setSlot i
            (some (⟨id, seq, false, .delivered, s.nextDeliveryOrder⟩, data))).tick
  := by
  rw [storeDatagram]
  dsimp only
  split
  · exact Or.inl rfl
  · next i rx hrx =>
    obtain ⟨-, hfree, hi, hupd⟩ := MessagePool.insert_eq_ok hrx
    refine Or.inr ⟨i, hi, hfree, ?_⟩
    simp only [rxView, RxView.tick, RxView.setSlot, hupd.get_eq, hupd.capacity_eq]
    rfl

theorem storeDatagram_arrival
    (G : U32 → Bytes → Bool → Prop) (hc : s.stream id = some c)
    (hrel : c.profile.unreliable = true) {highest : Option U32}
    (hview : s'.rxView = s.rxView.setStream id { c with unrelRxHighest := highest }) (seq : U32)
    (data : Bytes) :
  RxView.Arrival id G s.rxView (s'.storeDatagram id seq data).2.rxView
  := by
  have horder : s'.nextDeliveryOrder = s.nextDeliveryOrder := congrArg RxView.order hview
  rcases storeDatagram_rxView s' id seq data with htick | ⟨i, hi, hfree, hstored⟩
  · rw [htick, hview]
    exact .overtaken hc hrel
  · rw [hview] at hi hfree
    rw [hstored, hview, horder]
    exact .datagram hc hrel hi hfree

/-- What a packet of an unreliable stream does. -/
theorem receiveUnreliable_rxView
    (G : U32 → Bytes → Bool → Prop) (sequence : Option U32) (data : Bytes)
    (hfind : s.findStream id = some (idx, c)) (hrel : c.profile.unreliable = true) :
  RxView.Arrival id G s.rxView (s.receiveUnreliable idx c id sequence data).2.rxView
  := by
  have hc := stream_of_findStream hfind
  have hset : ∀ seq, RxView.Arrival id G s.rxView
      ((s.setStream idx { c with unrelRxHighest := some seq }).storeDatagram id seq data).2.rxView :=
    fun seq => storeDatagram_arrival G hc hrel
      (@rxView_setStream s id idx c { c with unrelRxHighest := some seq } hfind
        (findStream_eq_some hfind).2.1) seq data
  unfold receiveUnreliable
  split
  · split
    · exact .ignored
    · split
      · split
        · exact .ignored
        · exact hset _
      · exact hset _
  · split
    · exact .ignored
    · exact storeDatagram_arrival G hc hrel (RxView.setStream_self hc).symm 0#32 data

/-- What a packet does: at most one thing, and then messages that wait are delivered.  On
a reliable stream a packet that is not accepted changes at most the delivery counter. -/
theorem receive_rxView
    {G : U32 → Bytes → Bool → Prop} {sequence : Option U32} {data : Bytes} {isEnd : Bool}
    (hG : ∀ seq, sequence = some seq → G seq data isEnd) :
  ∃ v, RxView.Arrival id G s.rxView v ∧
    Relation.ReflTransGen (RxView.Deliver id) v (s.receive id sequence data isEnd).2.rxView ∧
    ∀ c err, s.stream id = some c → c.profile.unreliable = false →
      (s.receive id sequence data isEnd).1 = .error err →
      (s.receive id sequence data isEnd).2.rxView = s.rxView ∨
        (s.receive id sequence data isEnd).2.rxView = s.rxView.tick
  := by
  have hstay : ∀ result : Except Error (Option Ack),
      ∃ v, RxView.Arrival id G s.rxView v ∧ Relation.ReflTransGen (RxView.Deliver id) v s.rxView ∧
        ∀ c err, s.stream id = some c → c.profile.unreliable = false → result = .error err →
          s.rxView = s.rxView ∨ s.rxView = s.rxView.tick :=
    fun _ => ⟨_, .ignored, .refl, fun _ _ _ _ _ => Or.inl rfl⟩
  unfold receive
  split
  · exact hstay _
  · next idx c hfind =>
    split
    · exact hstay _
    · split
      · exact hstay _
      · split
        · exact hstay _
        · split
          · next hrel =>
            refine ⟨_, receiveUnreliable_rxView G sequence data hfind hrel, .refl, ?_⟩
            intro c' err hc' hrel'
            rw [stream_of_findStream hfind] at hc'
            cases hc'
            rw [hrel] at hrel'
            cases hrel'
          · next hrel =>
            split
            · exact hstay _
            · next seq =>
              obtain ⟨v, harrival, hsteps, herror⟩ :=
                receiveReliable_rxView hfind (by simpa using hrel) (hG seq rfl)
              exact ⟨v, harrival, hsteps, fun _ err _ _ => herror err⟩

/-- The acknowledgement a packet is answered with is that of the state it leads to. -/
theorem ackState_of_receive
    {sequence : Option U32} {data : Bytes} {isEnd : Bool} {a : Ack} (hc : s.stream id = some c)
    (hrel : c.profile.unreliable = false)
    (h : (s.receive id sequence data isEnd).1 = .ok (some a)) :
  (s.receive id sequence data isEnd).2.ackState id = .ok (some a)
  := by
  unfold receive at h ⊢
  split at h
  · cases h
  · next idx c' hfind =>
    obtain rfl : c' = c := Option.some.inj ((stream_of_findStream hfind).symm.trans hc)
    split at h
    · cases h
    · next hstate =>
      split at h
      · cases h
      · next hmay =>
        split at h
        · cases h
        · next hlen =>
          rw [if_neg (by simp [hrel])] at h
          split at h
          · cases h
          · next seq =>
            rw [if_neg hstate, if_neg hmay, if_neg (by simp [hrel])]
            obtain ⟨-, heq⟩ | ⟨-, err, s', heq, -⟩ | ⟨-, i, s', -, -, heq, hview⟩ :=
              @receiveReliable_cases s id idx c' seq data isEnd hfind
            · rw [heq] at h ⊢
              exact h
            · rw [heq] at h
              cases h
            · have hstream : ∃ c', s'.stream id = some c' := by
                rcases hview with ⟨-, hview⟩ | ⟨-, hview⟩
                · exact ⟨_, (congrFun (congrArg RxView.stream hview) id).trans
                    (Function.update_self ..)⟩
                · exact ⟨_, (congrFun (congrArg RxView.stream hview) id).trans
                    (Function.update_self ..)⟩
              obtain ⟨c₁, hc₁⟩ := hstream
              rw [heq] at h ⊢
              rw [← (deliverAndAck_eq hc₁).1]
              exact h

/-! ### What taking a message does -/

/-- The message is a delivered one of the stream. -/
abbrev IsDelivered (id : U8) (m : RxMeta) : Prop :=
  m.streamId = id ∧ m.disposition = .delivered

theorem better_some (id : U8) (b e : ℕ × RxMeta) :
  better id (some b) e = if IsDelivered id e.2 ∧ e.2.order < b.2.order then some e else some b
  := by
  rw [better]
  by_cases hdel : IsDelivered id e.2
  · rw [if_pos hdel]
    by_cases hlt : e.2.order < b.2.order
    · exact (if_pos hlt).trans (if_pos ⟨hdel, hlt⟩).symm
    · exact (if_neg hlt).trans (if_neg (fun h => hlt h.2)).symm
  · rw [if_neg hdel, if_neg (fun h => hdel h.1)]

/-- The search for the message that was delivered first goes on from what has been found. -/
theorem foldl_better_some (l : List (ℕ × RxMeta)) (b : ℕ × RxMeta) :
  ∃ b', l.foldl (better id) (some b) = some b' ∧
    (b' = b ∨ (b' ∈ l ∧ IsDelivered id b'.2)) ∧ b'.2.order ≤ b.2.order ∧
    ∀ e ∈ l, IsDelivered id e.2 → b'.2.order ≤ e.2.order
  := by
  induction l generalizing b with
  | nil => exact ⟨b, rfl, Or.inl rfl, BitVec.le_refl _, by simp⟩
  | cons e l ih =>
    rw [List.foldl_cons, better_some]
    split
    · next hbetter =>
      obtain ⟨hdel, hlt⟩ := hbetter
      obtain ⟨b', hb', hmem, hle, hall⟩ := ih e
      refine ⟨b', hb', ?_, BitVec.le_trans hle (BitVec.le_of_lt hlt), ?_⟩
      · rcases hmem with rfl | ⟨hmem, hb'⟩
        · exact Or.inr ⟨List.mem_cons_self, hdel⟩
        · exact Or.inr ⟨List.mem_cons_of_mem e hmem, hb'⟩
      · intro e' he' hdel'
        rcases List.mem_cons.mp he' with rfl | he'
        · exact hle
        · exact hall e' he' hdel'
    · next hworse =>
      obtain ⟨b', hb', hmem, hle, hall⟩ := ih b
      refine ⟨b', hb', ?_, hle, ?_⟩
      · rcases hmem with rfl | ⟨hmem, hb'⟩
        · exact Or.inl rfl
        · exact Or.inr ⟨List.mem_cons_of_mem e hmem, hb'⟩
      · intro e' he' hdel'
        rcases List.mem_cons.mp he' with rfl | he'
        · apply BitVec.le_trans hle
          apply BitVec.not_lt.mp
          exact fun hlt => hworse ⟨hdel', hlt⟩
        · exact hall e' he' hdel'

/-- The search finds a delivered message of least order, if there is a delivered one. -/
theorem foldl_better_none (l : List (ℕ × RxMeta)) :
  (l.foldl (better id) none = none ∧ ∀ e ∈ l, ¬ IsDelivered id e.2) ∨
  ∃ b ∈ l, l.foldl (better id) none = some b ∧ IsDelivered id b.2 ∧
    ∀ e ∈ l, IsDelivered id e.2 → b.2.order ≤ e.2.order
  := by
  induction l with
  | nil => exact Or.inl ⟨rfl, by simp⟩
  | cons e l ih =>
    rw [List.foldl_cons, better]
    by_cases hdel : IsDelivered id e.2
    · obtain ⟨b', hb', hmem, hle, hall⟩ := @foldl_better_some id l e
      rw [if_pos hdel]
      right
      rcases hmem with rfl | ⟨hmem, hdel'⟩
      · exact ⟨b', List.mem_cons_self, hb', hdel, by simpa using hall⟩
      · refine ⟨b', List.mem_cons_of_mem e hmem, hb', hdel', ?_⟩
        intro e' he' hdel''
        rcases List.mem_cons.mp he' with rfl | he'
        · exact hle
        · exact hall e' he' hdel''
    · rw [if_neg hdel]
      rcases ih with ⟨hnone, hall⟩ | ⟨b, hb, hfold, hdel', hall⟩
      · refine Or.inl ⟨hnone, ?_⟩
        intro e' he'
        rcases List.mem_cons.mp he' with rfl | he'
        · exact hdel
        · exact hall e' he'
      · refine Or.inr ⟨b, List.mem_cons_of_mem e hb, hfold, hdel', ?_⟩
        intro e' he' hdel''
        rcases List.mem_cons.mp he' with rfl | he'
        · contradiction
        · exact hall e' he' hdel''

/-- What taking a message does: without a delivered message nothing; else the one that was
delivered first is copied, when there is room for it, and its slot is freed. -/
theorem recvInto_eq (hc : s.stream id = some c) (out : Bytes) :
  ((∀ i m data, s.rxView.slots i = some (m, data) → ¬ IsDelivered id m) ∧
    s.recvInto id out = .ok ((none, out), s)) ∨
  ∃ i m data, s.rxView.slots i = some (m, data) ∧ IsDelivered id m ∧
    (∀ j m' data', s.rxView.slots j = some (m', data') → IsDelivered id m' →
      m.order ≤ m'.order) ∧
    ((out.length < data.length ∧ s.recvInto id out = .error .bufferFull) ∨
      ∃ s', s.recvInto id out
          = .ok ((some ⟨data.length, m.isEnd⟩, data ++ out.drop data.length), s') ∧
        s'.rxView = s.rxView.setSlot i none)
  := by
  have hmem : ∀ i m data, s.rxView.slots i = some (m, data) → (i, m) ∈ s.rx.entries :=
    fun i m data hi => MessagePool.mem_entries.mpr (MessagePool.metadata_eq_some.mpr ⟨data, hi⟩)
  rw [recvInto, hc]
  dsimp only
  rcases @foldl_better_none id s.rx.entries with ⟨hnone, hall⟩ | ⟨⟨i, m⟩, hb, hfold, hdel, hall⟩
  · rw [hnone]
    exact Or.inl ⟨fun i m data hi => hall (i, m) (hmem i m data hi), rfl⟩
  · right
    obtain ⟨data, hget⟩ := MessagePool.metadata_eq_some.mp (MessagePool.mem_entries.mp hb)
    refine ⟨i, m, data, hget, hdel, fun j m' data' hj => hall (j, m') (hmem j m' data' hj), ?_⟩
    rw [hfold]
    dsimp only
    rw [MessagePool.removeInto_of_get hget]
    by_cases hlt : out.length < data.length
    · rw [if_pos hlt]
      exact Or.inl ⟨hlt, rfl⟩
    · rw [if_neg hlt]
      refine Or.inr ⟨_, rfl, ?_⟩
      have hupd := MessagePool.clearSlot_updatedAt hget
      simp only [rxView, RxView.setSlot, hupd.get_eq, hupd.capacity_eq]
      rfl

/-! ### What the sender does -/

/-- What sending a message on a reliable stream does. -/
theorem send_eq_ok
    {data : Bytes} {isEnd : Bool} {now : U64} {sequence : Option U32} (hc : s.stream id = some c)
    (hrel : c.profile.unreliable = false)
    (h : s.send id data isEnd now = .ok (sequence, s')) :
  sequence = some c.nextTxSequence ∧
    ∃ i, s.tx.get i = none ∧
      s.tx.UpdatedAt s'.tx i (some (⟨id, c.nextTxSequence, isEnd, now⟩, data)) ∧
      s'.rxView = { s.rxView.setStream id (c.sent isEnd) with tx := s'.tx }
  := by
  rw [send] at h
  split at h
  · cases h
  · next idx c' hfind =>
    obtain rfl : c' = c := Option.some.inj ((stream_of_findStream hfind).symm.trans hc)
    split at h
    · cases h
    · split at h
      · cases h
      · split at h
        · cases h
        · rw [if_neg (by simp [hrel])] at h
          split at h
          · cases h
          · split at h
            · cases h
            · next i tx htx =>
              obtain ⟨-, hfree, -, hupd⟩ := MessagePool.insert_eq_ok htx
              cases h
              refine ⟨rfl, i, hfree, hupd, ?_⟩
              have hstream := @stream_setStream { s with tx } id idx c' (c'.sent isEnd) hfind
                (findStream_eq_some hfind).2.1
              exact congrArg (fun f => RxView.mk f s.rx.get s.rx.capacity s.nextDeliveryOrder tx)
                hstream

/-- The content of a slot of the sender's pool after an acknowledgement. -/
def unlessAcked (id : U8) (ack : Ack) (x : Option (TxMeta × Bytes)) : Option (TxMeta × Bytes) :=
  x.filter (fun e => !(e.1.streamId = id && txAcked e.1.sequence ack.base ack.bitmap))

theorem eq_some_of_unlessAcked {ack : Ack} {x : Option (TxMeta × Bytes)} {y : TxMeta × Bytes}
    (h : unlessAcked id ack x = some y) :
  x = some y
  := (Option.filter_eq_some_iff.mp h).1

theorem acked_of_unlessAcked {ack : Ack} {m : TxMeta} {data : Bytes}
    (h : unlessAcked id ack (some (m, data)) = none) :
  m.streamId = id ∧ acked ack.base ack.bitmap m.sequence = true
  := by
  simpa [unlessAcked, txAcked] using h

/-- An acknowledgement frees the slots of the messages it covers and no others. -/
theorem freeAcked_eq (id : U8) (ack : Ack) (l : List ℕ) (tx : MessagePool TxMeta) :
  (freeAcked id ack l tx).1 = .ok () ∧
    ∀ i, (freeAcked id ack l tx).2.get i
      = if i ∈ l then unlessAcked id ack (tx.get i) else tx.get i
  := by
  induction l generalizing tx with
  | nil => exact ⟨rfl, fun i => rfl⟩
  | cons idx l ih =>
    rw [freeAcked]
    cases hm : tx.metadata idx with
    | none =>
      have hnone : tx.get idx = none := by
        rw [MessagePool.metadata_eq_map, Option.map_eq_none_iff] at hm
        exact hm
      refine ⟨(ih tx).1, fun i => ?_⟩
      rw [(ih tx).2 i]
      by_cases hi : i = idx
      · subst hi
        simp [hnone, unlessAcked]
      · simp [hi]
    | some m =>
      obtain ⟨data, hget⟩ := MessagePool.metadata_eq_some.mp hm
      dsimp only
      by_cases hcov : m.streamId = id ∧ txAcked m.sequence ack.base ack.bitmap
      · have hupd := MessagePool.clearSlot_updatedAt hget
        rw [if_pos hcov, MessagePool.remove_of_get hget]
        refine ⟨(ih _).1, fun i => ?_⟩
        dsimp only
        rw [(ih _).2 i, hupd.get_eq]
        by_cases hi : i = idx
        · subst hi
          simp [hget, unlessAcked, Option.filter, hcov]
        · simp [hi]
      · rw [if_neg hcov]
        refine ⟨(ih _).1, fun i => ?_⟩
        rw [(ih _).2 i]
        by_cases hi : i = idx
        · subst hi
          have hkeep : unlessAcked id ack (some (m, data)) = some (m, data) := by
            rw [unlessAcked, Option.filter, if_pos (by simpa [imp_iff_not_or] using hcov)]
          simp [hget, hkeep]
        · simp [hi]

/-- What an acknowledgement does. -/
theorem onAck_eq (hc : s.stream id = some c) (ack : Ack) :
  (s.onAck id ack).2 = s ∨
    ((∀ i, (s.onAck id ack).2.tx.get i = unlessAcked id ack (s.tx.get i)) ∧
      (s.onAck id ack).2.rxView
        = { s.rxView.setStream id { c with peerCredit := ack.credit } with
          tx := (s.onAck id ack).2.tx })
  := by
  rw [onAck]
  split
  · exact Or.inl rfl
  · next idx c' hfind =>
    obtain rfl : c' = c := Option.some.inj ((stream_of_findStream hfind).symm.trans hc)
    split
    · exact Or.inl rfl
    · right
      have hstream := @stream_setStream s id idx c' { c' with peerCredit := ack.credit } hfind
        (findStream_eq_some hfind).2.1
      refine ⟨fun i => ?_, congrArg (fun f => RxView.mk f s.rx.get s.rx.capacity
        s.nextDeliveryOrder _) hstream⟩
      dsimp only
      rw [(freeAcked_eq id ack _ _).2 i]
      split
      · rfl
      · next hi =>
        have hnone : s.tx.get i = none := by
          cases hget : s.tx.get i with
          | none => rfl
          | some x => exact absurd (List.mem_range.mpr (MessagePool.lt_capacity_of_get hget)) hi
        exact hnone.trans (by rw [hnone]; rfl)

/-- What looking for a message to send again does. -/
theorem retransmitDue_eq (s : BoundedGtsSocket) (now : U64) :
  s.retransmitDue now = (.ok none, s) ∨
    ∃ i m data tx, s.tx.get i = some (m, data) ∧
      s.tx.UpdatedAt tx i (some ({ m with sentAt := now }, data)) ∧
      s.retransmitDue now
        = (.ok (some ⟨m.streamId, m.sequence, m.isEnd, data⟩), { s with tx })
  := by
  rw [retransmitDue]
  split
  · exact Or.inl rfl
  · next i m hfind =>
    right
    obtain ⟨data, hget⟩ := MessagePool.metadata_eq_some.mp
      (MessagePool.mem_entries.mp (List.mem_of_find?_eq_some hfind))
    obtain ⟨tx, htx, hupd⟩ := MessagePool.setMetadata_of_get hget { m with sentAt := now }
    refine ⟨i, m, data, tx, hget, hupd, ?_⟩
    rw [htx]
    dsimp only
    rw [hupd.get_eq, Function.update_self]

end BoundedGtsSocket

end SmolGnet
