import SmolGnet.BoundedGts.Ack
import SmolGnet.BoundedGts.Promise
import SmolGnet.Gts.Shift

/-!
# Sockets whose streams start from other sequence numbers

The streams of a heapless socket may start from different sequence numbers; only what the streams
without sequence numbers receive is stored under the number 0.  The socket sends its messages again in
the order of their slots and hands them out in the order of a counter of its own, so it compares numbers
in three places: an arriving message with the expected one, a message that was sent with the base of an
acknowledgement, and a datagram with the one that overtook it.  As with `GtsStream`, a run does the same
as the run that starts from 0 as long as the two numbers have both wrapped, or neither has.
-/

namespace SmolGnet

open Serial

/-! ### Pools with other metadata -/

/-- The slot with other metadata. -/
def MessageSlot.map {M : Type} (f : M → M) (slot : MessageSlot M) : MessageSlot M :=
  { slot with metadata := slot.metadata.map f }

namespace MessagePool

variable {M : Type}

/-- The pool with other metadata. -/
def map (f : M → M) (p : MessagePool M) : MessagePool M :=
  { p with
    slots := p.slots.map (MessageSlot.map f)
    arena := by
      rw [List.length_map]
      exact p.arena
    len_le := by
      intro slot hslot
      obtain ⟨slot', hslot', rfl⟩ := List.mem_map.mp hslot
      exact p.len_le slot' hslot' }

theorem slots_map (f : M → M) (p : MessagePool M) (idx : ℕ) :
  (p.map f).slots[idx]? = (p.slots[idx]?).map (MessageSlot.map f)
  := List.getElem?_map

theorem capacity_map (f : M → M) (p : MessagePool M) :
  (p.map f).capacity = p.capacity
  := List.length_map _

theorem free_map (f : M → M) (p : MessagePool M) :
  (p.map f).free = p.free
  := by
  have hused : (p.map f).used = p.used := by
    rw [used, used, map, List.countP_map]
    congr 1
    funext slot
    exact Option.isSome_map
  rw [free, free, capacity_map, hused]

theorem metadata_map (f : M → M) (p : MessagePool M) (idx : ℕ) :
  (p.map f).metadata idx = (p.metadata idx).map f
  := by
  rw [metadata, metadata, slots_map]
  cases p.slots[idx]? with
  | none => rfl
  | some slot => rfl

theorem get_map (f : M → M) (p : MessagePool M) (idx : ℕ) :
  (p.map f).get idx = (p.get idx).map (fun x => (f x.1, x.2))
  := by
  rw [get, get, slots_map]
  cases p.slots[idx]? with
  | none => rfl
  | some slot =>
    simp only [Option.map_some, MessageSlot.map]
    cases slot.metadata with
    | none => rfl
    | some m => rfl

theorem entries_map (f : M → M) (p : MessagePool M) :
  (p.map f).entries = p.entries.map (fun e => (e.1, f e.2))
  := by
  rw [entries, entries, capacity_map, List.map_filterMap]
  congr 1
  funext idx
  rw [metadata_map]
  cases p.metadata idx with
  | none => rfl
  | some m => rfl

/-- A slot is found by what the other metadata tell of it. -/
theorem find_map {f : M → M} {p : MessagePool M} {predicate predicate' : M → Bool}
    (h : ∀ m, predicate' (f m) = predicate m) :
  (p.map f).find predicate' = p.find predicate
  := by
  rw [find, find, entries_map, List.find?_map, Option.map_map]
  have heq : (fun e : ℕ × M => predicate' e.2) ∘ (fun e : ℕ × M => (e.1, f e.2))
      = fun e => predicate e.2 := by
    funext e
    exact h e.2
  rw [heq]
  rfl

theorem setSlot_map (f : M → M) (p : MessagePool M) (idx : ℕ) (slot : MessageSlot M)
    (h : slot.len ≤ p.slotSize) :
  (p.map f).setSlot idx (slot.map f) h = (p.setSlot idx slot h).map f
  := by
  simp only [setSlot, map, List.map_set]

theorem clearSlot_map (f : M → M) (p : MessagePool M) (idx : ℕ) :
  (p.map f).clearSlot idx = (p.clearSlot idx).map f
  := setSlot_map f p idx .empty (Nat.zero_le _)

theorem clear_map (f : M → M) (p : MessagePool M) :
  (p.map f).clear = p.clear.map f
  := by
  simp only [clear, map, List.map_map]
  rfl

/-- A message goes into the same slot. -/
theorem insert_map (f : M → M) (p : MessagePool M) (m : M) (data : Bytes) :
  (p.map f).insert (f m) data
    = (p.insert m data).map (fun result => (result.1, result.2.map f))
  := by
  have hfind : (p.map f).slots.findIdx? (fun slot => slot.metadata.isNone)
      = p.slots.findIdx? (fun slot => slot.metadata.isNone) := by
    rw [map, List.findIdx?_map]
    congr 1
    funext slot
    exact Option.isNone_map
  rw [insert, insert]
  by_cases hdata : data.length ≤ p.slotSize
  · rw [dif_pos hdata, dif_pos (show data.length ≤ (p.map f).slotSize from hdata)]
    split
    · next hnone =>
      split
      · rfl
      · next hsome => rw [hfind, hsome] at hnone; cases hnone
    · next idx hsome =>
      split
      · next hnone => rw [hfind, hnone] at hsome; cases hsome
      · next idx' hsome' =>
        rw [hfind, hsome'] at hsome
        cases hsome
        have hidx := (List.findIdx?_eq_some_iff_findIdx_eq.mp hsome').1
        apply congrArg (fun p' => Except.ok (idx, p'))
        exact setSlot_map f (p.write idx data hidx hdata) idx ⟨some m, data.length⟩ hdata
  · rw [dif_neg hdata, dif_neg (show ¬ data.length ≤ (p.map f).slotSize from hdata)]
    rfl

theorem setMetadata_of_slot {p : MessagePool M} {idx : ℕ} {slot : MessageSlot M}
    (h : p.slots[idx]? = some slot) (m : M) :
  p.setMetadata idx m
    = if slot.metadata.isNone then .error .invalidState
      else .ok (p.setSlot idx { slot with metadata := some m }
        (p.len_le slot (List.mem_of_getElem? h)))
  := by
  rw [setMetadata]
  split
  · next hnone => rw [h] at hnone; cases hnone
  · next slot' hslot =>
    obtain rfl : slot = slot' := Option.some.inj (h.symm.trans hslot)
    rfl

theorem setMetadata_of_none {p : MessagePool M} {idx : ℕ} (h : p.slots[idx]? = none) (m : M) :
  p.setMetadata idx m = .error .invalidField
  := by
  rw [setMetadata]
  split
  · rfl
  · next hslot => rw [h] at hslot; cases hslot

theorem setMetadata_map (f : M → M) (p : MessagePool M) (idx : ℕ) (m : M) :
  (p.map f).setMetadata idx (f m) = (p.setMetadata idx m).map (map f)
  := by
  have hslots := slots_map f p idx
  cases hslot : p.slots[idx]? with
  | none =>
    rw [hslot, Option.map_none] at hslots
    rw [setMetadata_of_none hslot, setMetadata_of_none hslots]
    rfl
  | some slot =>
    rw [hslot, Option.map_some] at hslots
    rw [setMetadata_of_slot hslot, setMetadata_of_slot hslots]
    rw [show (slot.map f).metadata.isNone = slot.metadata.isNone from Option.isNone_map]
    split
    · rfl
    · apply congrArg Except.ok
      exact setSlot_map f p idx { slot with metadata := some m }
        (p.len_le slot (List.mem_of_getElem? hslot))

theorem remove_map (f : M → M) (p : MessagePool M) (idx : ℕ) :
  (p.map f).remove idx = (p.remove idx).map (fun result => (f result.1, result.2.map f))
  := by
  rw [remove, remove, slots_map]
  cases p.slots[idx]? with
  | none => rfl
  | some slot =>
    simp only [Option.map_some, MessageSlot.map, clearSlot_map]
    cases slot.metadata with
    | none => rfl
    | some m => rfl

theorem removeInto_map (f : M → M) (p : MessagePool M) (idx : ℕ) (out : Bytes) :
  (p.map f).removeInto idx out
    = (p.removeInto idx out).map (fun result => ((f result.1.1, result.1.2), result.2.map f))
  := by
  rw [removeInto, removeInto, slots_map]
  cases p.slots[idx]? with
  | none => rfl
  | some slot =>
    simp only [Option.map_some, MessageSlot.map, clearSlot_map]
    cases slot.metadata with
    | none => rfl
    | some m =>
      simp only [Option.map_some]
      split
      · rfl
      · rfl

end MessagePool

/-! ### Streams from other sequence numbers -/

/-- The message of the stream that started from its own number. -/
def TxMeta.shift (κ : U8 → U32) (m : TxMeta) : TxMeta :=
  { m with sequence := m.sequence + κ m.streamId }

/-- The message of the stream that started from its own number. -/
def RxMeta.shift (κ : U8 → U32) (m : RxMeta) : RxMeta :=
  { m with sequence := m.sequence + κ m.streamId }

/-- The message of the stream that started from its own number. -/
def Retransmit.shift (κ : U8 → U32) (m : Retransmit) : Retransmit :=
  { m with sequence := m.sequence + κ m.streamId }

/-- The stream that started from its own number. -/
def StreamCore.shift (κ : U8 → U32) (c : StreamCore) : StreamCore :=
  { c with
    nextTxSequence := c.nextTxSequence + κ c.id
    nextExpected := c.nextExpected + κ c.id
    unrelRxHighest := c.unrelRxHighest.map (fun seq => seq + κ c.id)
    unrelTxSequence := c.unrelTxSequence + κ c.id }

namespace BoundedGtsSocket

/-- The socket whose stream `id` started from `κ id`. -/
def shift (κ : U8 → U32) (s : BoundedGtsSocket) : BoundedGtsSocket :=
  { s with
    streams := s.streams.map (Option.map (StreamCore.shift κ))
    tx := s.tx.map (TxMeta.shift κ)
    rx := s.rx.map (RxMeta.shift κ) }

variable {κ : U8 → U32} {s : BoundedGtsSocket} {id : U8} {idx : ℕ} {c : StreamCore}

/-- Streams whose states change keep their slots. -/
theorem findStream_map {s' : BoundedGtsSocket} {f : StreamCore → StreamCore} (hf : ∀ c, (f c).id = c.id)
    (h : s'.streams = s.streams.map (Option.map f)) (id : U8) :
  s'.findStream id = (s.findStream id).map (fun found => (found.1, f found.2))
  := by
  have hidx : s'.streams.findIdx? (fun slot => slot.map StreamCore.id == some id)
      = s.streams.findIdx? (fun slot => slot.map StreamCore.id == some id) := by
    rw [h, List.findIdx?_map]
    congr 1
    funext slot
    cases slot with
    | none => rfl
    | some c => rw [Function.comp_apply, Option.map_some, Option.map_some, Option.map_some, hf]
  rw [findStream, findStream, hidx]
  cases s.streams.findIdx? (fun slot => slot.map StreamCore.id == some id) with
  | none => rfl
  | some idx =>
    dsimp only
    rw [h, List.getElem?_map]
    rcases s.streams[idx]? with _ | _ | c
    · rfl
    · rfl
    · rfl

theorem findStream_shift (κ : U8 → U32) (s : BoundedGtsSocket) (id : U8) :
  (s.shift κ).findStream id = (s.findStream id).map (fun found => (found.1, found.2.shift κ))
  := findStream_map (f := StreamCore.shift κ) (fun _ => rfl) rfl id

theorem stream_shift (κ : U8 → U32) (s : BoundedGtsSocket) (id : U8) :
  (s.shift κ).stream id = (s.stream id).map (StreamCore.shift κ)
  := by
  rw [stream, stream, findStream_shift, Option.map_map, Option.map_map]
  rfl

theorem setStream_shift (κ : U8 → U32) (s : BoundedGtsSocket) (idx : ℕ) (c : StreamCore) :
  (s.shift κ).setStream idx (c.shift κ) = (s.setStream idx c).shift κ
  := by
  simp only [setStream, shift, List.map_set, Option.map_some]

/-! ### What the calls do with them -/

theorem send_shift (κ : U8 → U32) (s : BoundedGtsSocket) (id : U8) (data : Bytes) (isEnd : Bool)
    (now : U64) :
  (s.shift κ).send id data isEnd now
    = (s.send id data isEnd now).map
        (fun result => (result.1.map (fun seq => seq + κ id), result.2.shift κ))
  := by
  rw [send, send, findStream_shift]
  cases hfind : s.findStream id with
  | none => rfl
  | some found =>
    obtain ⟨idx, c⟩ := found
    obtain rfl : c.id = id := (findStream_eq_some hfind).2.1
    dsimp only [Option.map_some]
    rw [show (c.shift κ).state = c.state from rfl, show (c.shift κ).localEnded = c.localEnded from rfl,
      show localMaySend (c.shift κ) = localMaySend c from rfl,
      show (c.shift κ).profile = c.profile from rfl,
      show (c.shift κ).peerCredit = c.peerCredit from rfl]
    split
    · rfl
    split
    · rfl
    cases validateSendLen c.profile data.length isEnd with
    | error err => rfl
    | ok _ =>
      dsimp only
      split
      · split
        · simp only [Except.map, Option.map_some, ← setStream_shift, StreamCore.shift, add_right_comm]
        · rfl
      · split
        · rfl
        · have hinsert := MessagePool.insert_map (TxMeta.shift κ) s.tx
            ⟨c.id, c.nextTxSequence, isEnd, now⟩ data
          rw [show (s.shift κ).tx = s.tx.map (TxMeta.shift κ) from rfl,
            show (⟨c.id, (c.shift κ).nextTxSequence, isEnd, now⟩ : TxMeta)
              = TxMeta.shift κ ⟨c.id, c.nextTxSequence, isEnd, now⟩ from rfl, hinsert]
          cases s.tx.insert ⟨c.id, c.nextTxSequence, isEnd, now⟩ data with
          | error err => rfl
          | ok result =>
            simp only [Except.map, Option.map_some, ← setStream_shift, StreamCore.shift,
              add_right_comm]
            rfl

/-- The messages that only the base can acknowledge are on the same side as it. -/
theorem freeAcked_shift {ack : Ack} (l : List ℕ) {tx : MessagePool TxMeta}
    (h : ∀ i m, tx.metadata i = some m → m.streamId = id →
      !selected ack.base ack.bitmap m.sequence → SameSide (κ id) m.sequence ack.base) :
  freeAcked id (ack.shift (κ id)) l (tx.map (TxMeta.shift κ))
    = ((freeAcked id ack l tx).1, (freeAcked id ack l tx).2.map (TxMeta.shift κ))
  := by
  induction l generalizing tx with
  | nil => rfl
  | cons i l ih =>
    rw [freeAcked, freeAcked, MessagePool.metadata_map]
    cases hm : tx.metadata i with
    | none =>
      dsimp only [Option.map_none]
      rw [ih h]
    | some m =>
      have hacked : (TxMeta.shift κ m).streamId = id ∧
            txAcked (TxMeta.shift κ m).sequence (ack.shift (κ id)).base (ack.shift (κ id)).bitmap = true
          ↔ m.streamId = id ∧ txAcked m.sequence ack.base ack.bitmap = true := by
        apply and_congr_right
        intro hid
        change m.streamId = id at hid
        rw [txAcked, txAcked, TxMeta.shift, hid, Ack.shift]
        dsimp only
        rw [acked_shift (h i m hm hid)]
      dsimp only [Option.map_some]
      simp only [hacked, MessagePool.remove_map]
      split
      · obtain ⟨data, hget⟩ := MessagePool.metadata_eq_some.mp hm
        rw [MessagePool.remove_of_get hget]
        dsimp only [Except.map]
        apply ih
        intro j m' hm'
        apply h j m'
        rw [MessagePool.metadata_eq_map, (MessagePool.clearSlot_updatedAt hget).get_eq] at hm'
        by_cases hj : j = i
        · rw [hj, Function.update_self] at hm'
          cases hm'
        · rw [Function.update_of_ne hj] at hm'
          rw [MessagePool.metadata_eq_map, hm']
      · rw [ih h]

theorem onAck_of_findStream (hfind : s.findStream id = some (idx, c))
    (h : ¬ (c.profile.unreliable ∨ c.state = .reset)) (ack : Ack) :
  s.onAck id ack
    = ((freeAcked id ack (List.range s.tx.capacity) s.tx).1,
        { s with tx := (freeAcked id ack (List.range s.tx.capacity) s.tx).2 }.setStream idx
          { c with peerCredit := ack.credit })
  := by
  rw [onAck, hfind]
  dsimp only
  rw [if_neg h]
  rfl

theorem onAck_shift {ack : Ack} (h : ∀ c, s.stream id = some c → c.profile.unreliable = false →
      c.state ≠ .reset → ∀ i m, s.tx.metadata i = some m → m.streamId = id →
        !selected ack.base ack.bitmap m.sequence → SameSide (κ id) m.sequence ack.base) :
  (s.shift κ).onAck id (ack.shift (κ id)) = ((s.onAck id ack).1, (s.onAck id ack).2.shift κ)
  := by
  have hfind' := findStream_shift κ s id
  cases hfind : s.findStream id with
  | none =>
    rw [hfind, Option.map_none] at hfind'
    rw [onAck, onAck, hfind, hfind']
  | some found =>
    obtain ⟨idx, c⟩ := found
    rw [hfind, Option.map_some] at hfind'
    by_cases hok : c.profile.unreliable ∨ c.state = .reset
    · rw [onAck, onAck, hfind, hfind']
      dsimp only
      rw [if_pos hok, if_pos (show (c.shift κ).profile.unreliable ∨ (c.shift κ).state = .reset from hok)]
    · have hside := h c (stream_of_findStream hfind) (by simpa using (not_or.mp hok).1) (not_or.mp hok).2
      have hfree := freeAcked_shift (List.range s.tx.capacity) hside
      rw [onAck_of_findStream hfind hok, onAck_of_findStream hfind' hok,
        show (s.shift κ).tx = s.tx.map (TxMeta.shift κ) from rfl, MessagePool.capacity_map, hfree]
      apply congrArg (Prod.mk _)
      exact setStream_shift κ { s with tx := (freeAcked id ack (List.range s.tx.capacity) s.tx).2 } idx
        { c with peerCredit := ack.credit }

theorem retransmitDue_shift (κ : U8 → U32) (s : BoundedGtsSocket) (now : U64) :
  (s.shift κ).retransmitDue now
    = ((s.retransmitDue now).1.map (Option.map (Retransmit.shift κ)), (s.retransmitDue now).2.shift κ)
  := by
  have hfind : (s.shift κ).tx.entries.find?
        (fun e => decide ((s.shift κ).rtoMs ≤ saturatingSub now e.2.sentAt))
      = (s.tx.entries.find? (fun e => decide (s.rtoMs ≤ saturatingSub now e.2.sentAt))).map
          (fun e => (e.1, TxMeta.shift κ e.2)) := by
    rw [show (s.shift κ).tx = s.tx.map (TxMeta.shift κ) from rfl, MessagePool.entries_map,
      List.find?_map]
    rfl
  rw [retransmitDue, retransmitDue, hfind]
  cases s.tx.entries.find? (fun e => decide (s.rtoMs ≤ saturatingSub now e.2.sentAt)) with
  | none => rfl
  | some e =>
    obtain ⟨idx, m⟩ := e
    have hset : (s.shift κ).tx.setMetadata idx { TxMeta.shift κ m with sentAt := now }
        = (s.tx.setMetadata idx { m with sentAt := now }).map (MessagePool.map (TxMeta.shift κ)) :=
      MessagePool.setMetadata_map (TxMeta.shift κ) s.tx idx { m with sentAt := now }
    dsimp only [Option.map_some]
    rw [hset]
    cases s.tx.setMetadata idx { m with sentAt := now } with
    | error err => rfl
    | ok tx =>
      dsimp only [Except.map]
      rw [MessagePool.get_map]
      cases tx.get idx with
      | none => rfl
      | some x => rfl

/-! ### Receiving -/

theorem rxCountFor_shift (κ : U8 → U32) (s : BoundedGtsSocket) (id : U8) :
  (s.shift κ).rxCountFor id = s.rxCountFor id
  := by
  rw [rxCountFor, rxCountFor, show (s.shift κ).rx = s.rx.map (RxMeta.shift κ) from rfl,
    MessagePool.entries_map, List.countP_map]
  rfl

theorem rxBitmap_shift (κ : U8 → U32) (s : BoundedGtsSocket) (id : U8) (base : U32) :
  (s.shift κ).rxBitmap id (base + κ id) = s.rxBitmap id base
  := by
  rw [rxBitmap, rxBitmap, show (s.shift κ).rx = s.rx.map (RxMeta.shift κ) from rfl,
    MessagePool.entries_map, List.foldl_map]
  congr 1
  funext bitmap e
  by_cases hid : e.2.streamId = id
  · have hsub : (RxMeta.shift κ e.2).sequence - (base + κ id) = e.2.sequence - base := by
      rw [RxMeta.shift, hid]
      exact add_sub_add (κ id) e.2.sequence base
    dsimp only
    rw [hsub]
    rfl
  · rw [if_neg (fun h => hid h.1), if_neg (fun h => hid h.1)]

theorem ackState_shift (κ : U8 → U32) (s : BoundedGtsSocket) (id : U8) :
  (s.shift κ).ackState id = (s.ackState id).map (Option.map (Ack.shift (κ id)))
  := by
  rw [ackState, ackState, stream_shift]
  cases hc : s.stream id with
  | none => rfl
  | some c =>
    have hid : c.id = id := by
      obtain ⟨idx, hfind⟩ := exists_findStream hc
      exact (findStream_eq_some hfind).2.1
    have hbase : (c.shift κ).nextExpected - 1#32 = c.nextExpected - 1#32 + κ id := by
      rw [StreamCore.shift, hid]
      dsimp only
      bv_omega
    dsimp only [Option.map_some]
    rw [show (c.shift κ).profile = c.profile from rfl,
      show (c.shift κ).seenReliable = c.seenReliable from rfl, hbase, rxBitmap_shift, rxCountFor_shift,
      show (c.shift κ).receiveCapacity = c.receiveCapacity from rfl,
      show (s.shift κ).rx = s.rx.map (RxMeta.shift κ) from rfl, MessagePool.free_map]
    split
    · rfl
    · rfl

theorem markContiguousDelivered_shift (κ : U8 → U32) (id : U8) (n : ℕ) (s : BoundedGtsSocket) :
  markContiguousDelivered id n (s.shift κ)
    = ((markContiguousDelivered id n s).1, (markContiguousDelivered id n s).2.shift κ)
  := by
  induction n generalizing s with
  | zero => rfl
  | succ n ih =>
    rw [markContiguousDelivered, markContiguousDelivered, findStream_shift]
    cases hfind : s.findStream id with
    | none => rfl
    | some found =>
      obtain ⟨idx, c⟩ := found
      obtain rfl : c.id = id := (findStream_eq_some hfind).2.1
      have hexpected : (s.shift κ).rx.find (isExpected c.id (c.shift κ).nextExpected)
          = s.rx.find (isExpected c.id c.nextExpected) := by
        apply MessagePool.find_map
        intro m
        rw [isExpected, isExpected, RxMeta.shift, StreamCore.shift]
        by_cases hid : m.streamId = c.id
        · simp only [hid, (add_right_bijective (κ c.id)).1.eq_iff]
        · simp [hid]
      dsimp only [Option.map_some]
      rw [hexpected]
      cases s.rx.find (isExpected c.id c.nextExpected) with
      | none => rfl
      | some slot =>
        dsimp only
        rw [show (s.shift κ).rx = s.rx.map (RxMeta.shift κ) from rfl, MessagePool.metadata_map]
        cases s.rx.metadata slot with
        | none => rfl
        | some m =>
          have hset : (s.rx.map (RxMeta.shift κ)).setMetadata slot
                { RxMeta.shift κ m with disposition := .delivered, order := s.nextDeliveryOrder }
              = (s.rx.setMetadata slot
                  { m with disposition := .delivered, order := s.nextDeliveryOrder }).map
                  (MessagePool.map (RxMeta.shift κ)) :=
            MessagePool.setMetadata_map (RxMeta.shift κ) s.rx slot
              { m with disposition := .delivered, order := s.nextDeliveryOrder }
          dsimp only [Option.map_some]
          rw [show (s.shift κ).nextDeliveryOrder = s.nextDeliveryOrder from rfl, hset]
          cases s.rx.setMetadata slot
            { m with disposition := .delivered, order := s.nextDeliveryOrder } with
          | error err => rfl
          | ok rx =>
            dsimp only [Except.map]
            rw [← ih, ← setStream_shift]
            simp only [StreamCore.shift, add_right_comm]
            rfl

theorem storeDatagram_shift (κ : U8 → U32) (s : BoundedGtsSocket) (id : U8) (seq : U32)
    (data : Bytes) :
  (s.shift κ).storeDatagram id (seq + κ id) data
    = ((s.storeDatagram id seq data).1.map (Option.map (Ack.shift (κ id))),
        (s.storeDatagram id seq data).2.shift κ)
  := by
  have hinsert := MessagePool.insert_map (RxMeta.shift κ) s.rx
    ⟨id, seq, false, .delivered, s.nextDeliveryOrder⟩ data
  rw [storeDatagram, storeDatagram]
  dsimp only
  rw [show (⟨id, seq + κ id, false, .delivered, (s.shift κ).nextDeliveryOrder⟩ : RxMeta)
    = RxMeta.shift κ ⟨id, seq, false, .delivered, s.nextDeliveryOrder⟩ from rfl,
    show (s.shift κ).rx = s.rx.map (RxMeta.shift κ) from rfl, hinsert]
  cases s.rx.insert ⟨id, seq, false, .delivered, s.nextDeliveryOrder⟩ data with
  | error err => rfl
  | ok result => rfl

/-- A datagram is stored under its number, or under the number 0, which is not shifted. -/
theorem receiveUnreliable_shift {sequence : Option U32} (hid : c.id = id)
    (hzero : c.profile.sequenced = false → κ id = 0#32)
    (h : ∀ seq ∈ sequence, ∀ highest ∈ c.unrelRxHighest, c.profile.sequenced = true →
      SameSide (κ id) seq highest) (idx : ℕ) (data : Bytes) :
  (s.shift κ).receiveUnreliable idx (c.shift κ) id (sequence.map (fun seq => seq + κ id)) data
    = ((s.receiveUnreliable idx c id sequence data).1.map (Option.map (Ack.shift (κ id))),
        (s.receiveUnreliable idx c id sequence data).2.shift κ)
  := by
  subst hid
  rw [receiveUnreliable.eq_def, receiveUnreliable.eq_def,
    show (c.shift κ).profile = c.profile from rfl,
    show (c.shift κ).unrelRxHighest = c.unrelRxHighest.map (fun seq => seq + κ c.id) from rfl]
  split
  · next hsequenced =>
    cases sequence with
    | none => rfl
    | some seq =>
      have hstore := storeDatagram_shift κ (s.setStream idx { c with unrelRxHighest := some seq }) c.id
        seq data
      rw [← setStream_shift] at hstore
      dsimp only [Option.map_some]
      cases hhighest : c.unrelRxHighest with
      | none => exact hstore
      | some highest =>
        have hside := h seq rfl highest hhighest hsequenced
        dsimp only [Option.map_some]
        by_cases hle : seq ≤ highest
        · rw [if_pos hle, if_pos (hside.le_iff.mpr hle)]
          rfl
        · rw [if_neg hle, if_neg (fun hle' => hle (hside.le_iff.mp hle'))]
          exact hstore
  · next hsequenced =>
    rw [Option.isSome_map]
    split
    · rfl
    · have hstore := storeDatagram_shift κ s c.id 0#32 data
      rw [hzero (by simpa using hsequenced), BitVec.add_zero] at hstore
      rw [hzero (by simpa using hsequenced)]
      exact hstore

theorem deliverAndAck_shift (κ : U8 → U32) (s : BoundedGtsSocket) (id : U8) :
  (s.shift κ).deliverAndAck id
    = ((s.deliverAndAck id).1.map (Option.map (Ack.shift (κ id))), (s.deliverAndAck id).2.shift κ)
  := by
  rw [deliverAndAck, deliverAndAck,
    show (s.shift κ).rx.capacity = s.rx.capacity from MessagePool.capacity_map _ _,
    markContiguousDelivered_shift]
  rcases markContiguousDelivered id s.rx.capacity s with ⟨_ | _, s'⟩
  · rfl
  · dsimp only
    rw [ackState_shift]

/-- A message that is on the same side as the expected one is classified in the same way. -/
theorem receiveReliable_shift {seq : U32} (hid : c.id = id)
    (h : SameSide (κ id) seq c.nextExpected) (idx : ℕ) (data : Bytes) (isEnd : Bool) :
  (s.shift κ).receiveReliable idx (c.shift κ) id (seq + κ id) data isEnd
    = ((s.receiveReliable idx c id seq data isEnd).1.map (Option.map (Ack.shift (κ id))),
        (s.receiveReliable idx c id seq data isEnd).2.shift κ)
  := by
  subst hid
  have hnext : (c.shift κ).nextExpected = c.nextExpected + κ c.id := rfl
  have heq : seq + κ c.id = c.nextExpected + κ c.id ↔ seq = c.nextExpected :=
    (add_right_bijective (κ c.id)).1.eq_iff
  have hknown : (s.shift κ).rx.find (fun m => m.streamId = c.id && m.sequence = seq + κ c.id)
      = s.rx.find (fun m => m.streamId = c.id && m.sequence = seq) := by
    apply MessagePool.find_map
    intro m
    rw [RxMeta.shift]
    by_cases hid : m.streamId = c.id
    · simp only [hid, (add_right_bijective (κ c.id)).1.eq_iff]
    · simp [hid]
  rw [receiveReliable, receiveReliable, hnext, ackState_shift, rxCountFor_shift, hknown,
    show (c.shift κ).receiveCapacity = c.receiveCapacity from rfl]
  simp only [h.lt_iff, add_sub_add, heq]
  split
  · rfl
  split
  · rfl
  split
  · rfl
  split
  · rfl
  by_cases hexpected : seq = c.nextExpected
  · have hinsert := MessagePool.insert_map (RxMeta.shift κ) s.rx
      ⟨c.id, seq, isEnd, .delivered, s.nextDeliveryOrder⟩ data
    simp only [hexpected, decide_true, if_true, Bool.true_and] at hinsert ⊢
    rw [show (⟨c.id, c.nextExpected + κ c.id, isEnd, .delivered, (s.shift κ).nextDeliveryOrder⟩ : RxMeta)
      = RxMeta.shift κ ⟨c.id, c.nextExpected, isEnd, .delivered, s.nextDeliveryOrder⟩ from rfl,
      show (s.shift κ).rx = s.rx.map (RxMeta.shift κ) from rfl, hinsert]
    cases s.rx.insert ⟨c.id, c.nextExpected, isEnd, .delivered, s.nextDeliveryOrder⟩ data with
    | error err => rfl
    | ok result =>
      have hdeliver := deliverAndAck_shift κ
        ({ s with rx := result.2, nextDeliveryOrder := nextOrder s.nextDeliveryOrder }.setStream idx
          { c with
            seenReliable := true
            nextExpected := c.nextExpected + 1#32
            remoteEnded := c.remoteEnded || isEnd }) c.id
      rw [← setStream_shift] at hdeliver
      simp only [StreamCore.shift, add_right_comm] at hdeliver
      exact hdeliver
  · have hinsert := MessagePool.insert_map (RxMeta.shift κ) s.rx
      ⟨c.id, seq, isEnd, .pending, 0#64⟩ data
    simp only [hexpected, decide_false, if_false, Bool.false_eq_true, Bool.false_and]
    rw [show (⟨c.id, seq + κ c.id, isEnd, .pending, 0#64⟩ : RxMeta)
      = RxMeta.shift κ ⟨c.id, seq, isEnd, .pending, 0#64⟩ from rfl,
      show (s.shift κ).rx = s.rx.map (RxMeta.shift κ) from rfl, hinsert]
    cases s.rx.insert ⟨c.id, seq, isEnd, .pending, 0#64⟩ data with
    | error err => rfl
    | ok result =>
      have hdeliver := deliverAndAck_shift κ
        ({ s with rx := result.2 }.setStream idx
          { c with seenReliable := true, remoteEnded := c.remoteEnded || false }) c.id
      rw [← setStream_shift] at hdeliver
      exact hdeliver

/-- The number that the number of an arriving message is compared with. -/
def comparedWith (c : StreamCore) : Option U32 :=
  if c.profile.unreliable then
    if c.profile.sequenced then c.unrelRxHighest else none
  else some c.nextExpected

theorem receive_shift {sequence : Option U32} {data : Bytes} {isEnd : Bool}
    (hzero : ∀ c, s.stream id = some c → c.profile.unreliable = true → c.profile.sequenced = false →
      κ id = 0#32)
    (h : ∀ c, s.stream id = some c → Admits c data isEnd → ∀ seq ∈ sequence, ∀ n ∈ comparedWith c,
      SameSide (κ id) seq n) :
  (s.shift κ).receive id (sequence.map (fun seq => seq + κ id)) data isEnd
    = ((s.receive id sequence data isEnd).1.map (Option.map (Ack.shift (κ id))),
        (s.receive id sequence data isEnd).2.shift κ)
  := by
  rw [receive.eq_def, receive.eq_def, findStream_shift]
  cases hfind : s.findStream id with
  | none => rfl
  | some found =>
    obtain ⟨idx, c⟩ := found
    have hid : c.id = id := (findStream_eq_some hfind).2.1
    have hc := stream_of_findStream hfind
    dsimp only [Option.map_some]
    rw [show (c.shift κ).state = c.state from rfl,
      show (c.shift κ).remoteEnded = c.remoteEnded from rfl,
      show remoteMaySend (c.shift κ) = remoteMaySend c from rfl,
      show (c.shift κ).profile = c.profile from rfl]
    split
    · rfl
    next hstate =>
    split
    · rfl
    next hmay =>
    cases hlen : validateSendLen c.profile data.length isEnd with
    | error err => rfl
    | ok _ =>
      have hside := h c hc ⟨hstate, by simpa using hmay, hlen⟩
      rw [comparedWith] at hside
      dsimp only
      by_cases hrel : c.profile.unreliable = true
      · rw [if_pos hrel, if_pos hrel]
        apply receiveUnreliable_shift hid (hzero c hc hrel)
        intro seq hseq highest hhighest hsequenced
        apply hside seq hseq
        rw [if_pos hrel, if_pos hsequenced]
        exact hhighest
      · rw [if_neg hrel, if_neg hrel]
        cases sequence with
        | none => rfl
        | some seq =>
          apply receiveReliable_shift hid
          apply hside seq rfl
          rw [if_neg hrel]
          rfl

/-- The slot of a message, under its own number. -/
def shiftEntry (κ : U8 → U32) (e : ℕ × RxMeta) : ℕ × RxMeta :=
  (e.1, e.2.shift κ)

theorem better_shift (κ : U8 → U32) (id : U8) (best : Option (ℕ × RxMeta)) (e : ℕ × RxMeta) :
  better id (best.map (shiftEntry κ)) (shiftEntry κ e) = (better id best e).map (shiftEntry κ)
  := by
  rw [better.eq_def, better.eq_def]
  by_cases hdel : e.2.streamId = id ∧ e.2.disposition = .delivered
  · rw [if_pos hdel, if_pos (show (shiftEntry κ e).2.streamId = id ∧
      (shiftEntry κ e).2.disposition = .delivered from hdel)]
    cases best with
    | none => rfl
    | some b =>
      change (if e.2.order < b.2.order then some (shiftEntry κ e) else some (shiftEntry κ b)) = _
      dsimp only
      split
      · rfl
      · rfl
  · rw [if_neg hdel, if_neg (show ¬ ((shiftEntry κ e).2.streamId = id ∧
      (shiftEntry κ e).2.disposition = .delivered) from hdel)]

theorem recvInto_shift (κ : U8 → U32) (s : BoundedGtsSocket) (id : U8) (out : Bytes) :
  (s.shift κ).recvInto id out
    = (s.recvInto id out).map (fun result => (result.1, result.2.shift κ))
  := by
  have hbest : (s.shift κ).rx.entries.foldl (better id) none
      = (s.rx.entries.foldl (better id) none).map (shiftEntry κ) := by
    rw [show (s.shift κ).rx = s.rx.map (RxMeta.shift κ) from rfl, MessagePool.entries_map,
      List.foldl_map]
    change List.foldl _ (Option.map (shiftEntry κ) none) _ = _
    exact List.foldl_hom (Option.map (shiftEntry κ)) (better_shift κ id)
  rw [recvInto, recvInto, stream_shift, hbest]
  cases s.stream id with
  | none => rfl
  | some c =>
    dsimp only [Option.map_some]
    cases s.rx.entries.foldl (better id) none with
    | none => rfl
    | some e =>
      obtain ⟨slot, m⟩ := e
      dsimp only [Option.map_some, shiftEntry]
      rw [show (s.shift κ).rx = s.rx.map (RxMeta.shift κ) from rfl, MessagePool.removeInto_map]
      cases s.rx.removeInto slot out with
      | error err => rfl
      | ok result => rfl

/-! ### Adding and resetting streams -/

/-- A stream that is added starts from 0. -/
theorem addStream_shift (hzero : s.stream id = none → κ id = 0#32) (profile : StreamProfile)
    (openedByLocal : Bool) (receiveCapacity peerCredit : U8) :
  (s.shift κ).addStream id profile openedByLocal receiveCapacity peerCredit
    = (s.addStream id profile openedByLocal receiveCapacity peerCredit).map (shift κ)
  := by
  have hany : (s.shift κ).streams.any (fun slot => slot.map StreamCore.id == some id)
      = s.streams.any (fun slot => slot.map StreamCore.id == some id) := by
    rw [shift, List.any_map]
    congr 1
    funext slot
    cases slot with
    | none => rfl
    | some c => rfl
  have hfree : (s.shift κ).streams.findIdx? Option.isNone = s.streams.findIdx? Option.isNone := by
    rw [shift, List.findIdx?_map]
    congr 1
    funext slot
    exact Option.isNone_map
  rw [addStream, addStream, hany, hfree]
  cases profile.validate with
  | error err => rfl
  | ok _ =>
    dsimp only
    split
    · rfl
    next hnew =>
    cases s.streams.findIdx? Option.isNone with
    | none => rfl
    | some idx =>
      have hnone : s.stream id = none := by
        rw [stream, findStream]
        rw [List.findIdx?_eq_none_iff.mpr]
        · rfl
        · intro slot hslot
          exact Bool.eq_false_iff.mpr (fun heq => hnew (List.any_eq_true.mpr ⟨slot, hslot, heq⟩))
      have hcore : (newStream id profile openedByLocal receiveCapacity peerCredit).shift κ
          = newStream id profile openedByLocal receiveCapacity peerCredit := by
        rw [StreamCore.shift, show (newStream id profile openedByLocal receiveCapacity peerCredit).id = id
          from rfl, hzero hnone]
        simp only [newStream, BitVec.add_zero, Option.map_none]
      dsimp only [Except.map]
      rw [← setStream_shift, hcore]

theorem freeStream_shift {M : Type} (streamIdOf : M → U8) {f : M → M}
    (hf : ∀ m, streamIdOf (f m) = streamIdOf m) (id : U8) (l : List ℕ) (p : MessagePool M) :
  freeStream streamIdOf id l (p.map f)
    = ((freeStream streamIdOf id l p).1, (freeStream streamIdOf id l p).2.map f)
  := by
  induction l generalizing p with
  | nil => rfl
  | cons slot l ih =>
    have htest : ((p.map f).metadata slot).map (fun m => decide (streamIdOf m = id))
        = (p.metadata slot).map (fun m => decide (streamIdOf m = id)) := by
      rw [MessagePool.metadata_map, Option.map_map]
      congr 1
      funext m
      rw [Function.comp_apply, hf]
    rw [freeStream, freeStream, htest, MessagePool.remove_map]
    split
    · cases p.remove slot with
      | error err => rfl
      | ok result => exact ih result.2
    · exact ih p

theorem resetStream_shift (κ : U8 → U32) (s : BoundedGtsSocket) (id : U8) :
  (s.shift κ).resetStream id = ((s.resetStream id).1, (s.resetStream id).2.shift κ)
  := by
  rw [resetStream, resetStream, findStream_shift]
  cases s.findStream id with
  | none => rfl
  | some found =>
    obtain ⟨idx, c⟩ := found
    have htx := freeStream_shift TxMeta.streamId (f := TxMeta.shift κ) (fun _ => rfl) id
      (List.range s.tx.capacity) s.tx
    have hrx := freeStream_shift RxMeta.streamId (f := RxMeta.shift κ) (fun _ => rfl) id
      (List.range s.rx.capacity) s.rx
    dsimp only [Option.map_some]
    rw [show (s.shift κ).tx = s.tx.map (TxMeta.shift κ) from rfl,
      show (s.shift κ).rx = s.rx.map (RxMeta.shift κ) from rfl, MessagePool.capacity_map,
      MessagePool.capacity_map, htx, hrx]
    rcases freeStream TxMeta.streamId id (List.range s.tx.capacity) s.tx with ⟨_ | _, tx⟩
    · rfl
    · rcases freeStream RxMeta.streamId id (List.range s.rx.capacity) s.rx with ⟨_ | _, rx⟩
      · rfl
      · apply congrArg (Prod.mk _)
        exact setStream_shift κ { s with tx, rx } idx (resetCore c)

theorem reset_shift (κ : U8 → U32) (s : BoundedGtsSocket) :
  (s.shift κ).reset = s.reset.shift κ
  := by
  have hstreams : (s.streams.map (Option.map (StreamCore.shift κ))).map (Option.map resetCore)
      = (s.streams.map (Option.map resetCore)).map (Option.map (StreamCore.shift κ)) := by
    rw [List.map_map, List.map_map]
    congr 1
    funext slot
    cases slot with
    | none => rfl
    | some c => rfl
  simp only [reset, shift, hstreams, MessagePool.clear_map]

/-! ### Runs -/

/-- What is done with a socket. -/
inductive Request
  | setRtoMs (value : U64)
  | establish (remoteReceiveId remoteResetId : U32)
  | allocStreamId
  | addStream (id : U8) (profile : StreamProfile) (openedByLocal : Bool)
      (receiveCapacity peerCredit : U8)
  | send (id : U8) (data : Bytes) (isEnd : Bool) (now : U64)
  | onAck (id : U8) (ack : Ack)
  | retransmitDue (now : U64)
  | receive (id : U8) (sequence : Option U32) (data : Bytes) (isEnd : Bool)
  | ackState (id : U8)
  | recvInto (id : U8) (out : Bytes)
  | resetStream (id : U8)
  | reset

/-- The same with the socket whose stream `id` started from `κ id`. -/
def Request.shift (κ : U8 → U32) : Request → Request
  | .onAck id ack => .onAck id (ack.shift (κ id))
  | .receive id sequence data isEnd => .receive id (sequence.map (fun seq => seq + κ id)) data isEnd
  | request => request

/-- What can be seen of a request that did not fail. -/
inductive Shown
  | nothing
  | allocated (id : U8)
  | sent (id : U8) (sequence : Option U32)
  | again (message : Option Retransmit)
  | answer (id : U8) (ack : Option Ack)
  | received (result : Option ReceivedMessage × Bytes)
  deriving DecidableEq

/-- What is seen of the socket whose stream `id` started from `κ id`. -/
def Shown.shift (κ : U8 → U32) : Shown → Shown
  | .sent id sequence => .sent id (sequence.map (fun seq => seq + κ id))
  | .again message => .again (message.map (Retransmit.shift κ))
  | .answer id ack => .answer id (ack.map (Ack.shift (κ id)))
  | shown => shown

/-- What can be seen of a request. -/
abbrev Observed := Except Error Shown

/-- A call that leaves the socket as it is when it fails. -/
def seenAs {α : Type} (s : BoundedGtsSocket) (f : α → Shown) :
    Except Error (α × BoundedGtsSocket) → Observed × BoundedGtsSocket
  | .error err => (.error err, s)
  | .ok (a, s') => (.ok (f a), s')

/-- What a request shows, and the socket after it. -/
def serve (s : BoundedGtsSocket) : Request → Observed × BoundedGtsSocket
  | .setRtoMs value => s.seenAs (fun _ => .nothing) ((s.setRtoMs value).map (fun s' => ((), s')))
  | .establish remoteReceiveId remoteResetId =>
    s.seenAs (fun _ => .nothing)
      ((s.establish remoteReceiveId remoteResetId).map (fun s' => ((), s')))
  | .allocStreamId => s.seenAs .allocated s.allocStreamId
  | .addStream id profile openedByLocal receiveCapacity peerCredit =>
    s.seenAs (fun _ => .nothing)
      ((s.addStream id profile openedByLocal receiveCapacity peerCredit).map (fun s' => ((), s')))
  | .send id data isEnd now => s.seenAs (.sent id) (s.send id data isEnd now)
  | .onAck id ack => ((s.onAck id ack).1.map (fun _ => .nothing), (s.onAck id ack).2)
  | .retransmitDue now => ((s.retransmitDue now).1.map .again, (s.retransmitDue now).2)
  | .receive id sequence data isEnd =>
    ((s.receive id sequence data isEnd).1.map (.answer id), (s.receive id sequence data isEnd).2)
  | .ackState id => ((s.ackState id).map (.answer id), s)
  | .recvInto id out => s.seenAs .received (s.recvInto id out)
  | .resetStream id => ((s.resetStream id).1.map (fun _ => .nothing), (s.resetStream id).2)
  | .reset => (.ok .nothing, s.reset)

/-- The socket after a request. -/
def after (s : BoundedGtsSocket) (request : Request) : BoundedGtsSocket :=
  (s.serve request).2

/-- What a request shows. -/
def observe (s : BoundedGtsSocket) (request : Request) : Observed :=
  (s.serve request).1

instance (c : StreamCore) (data : Bytes) (isEnd : Bool) : Decidable (Admits c data isEnd) :=
  inferInstanceAs (Decidable (_ ∧ _ ∧ _))

/-- The numbers whose order decides what a request does, with their stream. -/
def compared (s : BoundedGtsSocket) : Request → List (U8 × U32 × U32)
  | .receive id (some seq) data isEnd =>
    match s.stream id with
    | some c => if Admits c data isEnd then (comparedWith c).toList.map (fun n => (id, seq, n)) else []
    | none => []
  | .onAck id ack =>
    match s.stream id with
    | some c =>
      if c.profile.unreliable ∨ c.state = .reset then []
      else
        (s.tx.entries.filter (fun e => e.2.streamId = id && !selected ack.base ack.bitmap e.2.sequence)).map
          (fun e => (id, e.2.sequence, ack.base))
    | none => []
  | _ => []

/-- When the streams start from other numbers, the numbers whose order decides have both wrapped or
neither has. -/
def Straight (κ : U8 → U32) (s : BoundedGtsSocket) (request : Request) : Prop :=
  ∀ p ∈ s.compared request, SameSide (κ p.1) p.2.1 p.2.2

instance (κ : U8 → U32) (s : BoundedGtsSocket) (request : Request) :
    Decidable (s.Straight κ request) :=
  List.decidableBAll (fun p : U8 × U32 × U32 => SameSide (κ p.1) p.2.1 p.2.2) (s.compared request)

/-- The messages of the stream have numbers. -/
def numbered (p : StreamProfile) : Bool :=
  !p.unreliable || p.sequenced

/-- Only streams whose messages have numbers start from other numbers. -/
def Fitting (κ : U8 → U32) (s : BoundedGtsSocket) : Prop :=
  ∀ id, κ id = 0#32 ∨ ∃ c, s.stream id = some c ∧ numbered c.profile = true

/-- The number that a stream starts from, if its messages have numbers. -/
def offsets (s : BoundedGtsSocket) (κ : U8 → U32) (id : U8) : U32 :=
  match s.stream id with
  | some c => if numbered c.profile then κ id else 0#32
  | none => 0#32

theorem fitting_offsets (s : BoundedGtsSocket) (κ : U8 → U32) :
  Fitting (s.offsets κ) s
  := by
  intro id
  rw [offsets]
  cases hc : s.stream id with
  | none => exact .inl rfl
  | some c =>
    dsimp only
    split
    · next hnumbered => exact .inr ⟨c, rfl, hnumbered⟩
    · exact .inl rfl

theorem sameTerms_resetStream (s : BoundedGtsSocket) (id : U8) :
  s.rxView.SameTerms (s.resetStream id).2.rxView
  := by
  rw [resetStream]
  cases hfind : s.findStream id with
  | none => exact .refl _
  | some found =>
    obtain ⟨idx, c⟩ := found
    dsimp only
    split
    · exact .refl _
    · next tx _ =>
      split
      · exact .refl _
      · next rx _ =>
        have hid : (resetCore c).id = id := (findStream_eq_some hfind).2.1
        have hstream := @stream_setStream { s with tx, rx } id idx c (resetCore c) hfind hid
        exact RxView.sameTerms_of_update hstream (stream_of_findStream hfind) rfl rfl (fun h => h)

theorem sameTerms_reset (s : BoundedGtsSocket) :
  s.rxView.SameTerms s.reset.rxView
  := by
  intro id c hc
  have hfind : s.reset.findStream id = _ := findStream_map (f := resetCore) (fun _ => rfl) rfl id
  obtain ⟨idx, hidx⟩ := exists_findStream hc
  rw [hidx] at hfind
  exact ⟨resetCore c, stream_of_findStream hfind, rfl, rfl, fun h => h⟩

theorem sameTerms_seenAs {α : Type} {f : α → Shown} {result : Except Error (α × BoundedGtsSocket)}
    (h : ∀ a s', result = .ok (a, s') → s.rxView.SameTerms s'.rxView) :
  s.rxView.SameTerms (s.seenAs f result).2.rxView
  := by
  cases result with
  | error err => exact .refl _
  | ok r => exact h r.1 r.2 rfl

theorem sameTerms_seenAs_map {f : Unit → Shown} {result : Except Error BoundedGtsSocket}
    (h : ∀ s', result = .ok s' → s.rxView.SameTerms s'.rxView) :
  s.rxView.SameTerms (s.seenAs f (result.map (fun s' => ((), s')))).2.rxView
  := by
  cases result with
  | error err => exact .refl _
  | ok s' => exact h s' rfl

/-- What was agreed about the streams stays as it is. -/
theorem sameTerms_after (s : BoundedGtsSocket) (request : Request) :
  s.rxView.SameTerms (s.after request).rxView
  := by
  cases request with
  | setRtoMs value =>
    apply sameTerms_seenAs_map
    intro s' h
    rw [setRtoMs] at h
    split at h
    · cases h
    · cases h
      exact .refl _
  | establish remoteReceiveId remoteResetId =>
    apply sameTerms_seenAs_map
    intro s' h
    rw [establish] at h
    split at h
    · cases h
      exact .refl _
    · cases h
  | allocStreamId =>
    apply sameTerms_seenAs
    intro id s' h
    rw [allocStreamId] at h
    split at h
    · cases h
    split at h
    · cases h
    · cases h
      exact .refl _
  | addStream id profile openedByLocal receiveCapacity peerCredit =>
    apply sameTerms_seenAs_map
    intro s' h
    exact (frees_addStream h).1
  | send id data isEnd now =>
    apply sameTerms_seenAs
    intro sequence s' h
    exact (frees_send h).1
  | onAck id ack => exact (frees_onAck s id ack).1
  | retransmitDue now =>
    rw [after, serve, retransmitDue]
    split
    · exact .refl _
    split
    · exact .refl _
    split
    · exact .refl _
    · exact .refl _
  | receive id sequence data isEnd =>
    obtain ⟨v, harrival, hsteps, -⟩ :=
      @receive_rxView s id (fun _ _ _ => True) sequence data isEnd (fun _ _ => trivial)
    exact harrival.sameTerms.trans (RxView.sameTerms_of_deliveries hsteps)
  | ackState id => exact .refl _
  | recvInto id out =>
    apply sameTerms_seenAs
    intro result s' h
    exact (frees_recvInto h).1
  | resetStream id => exact sameTerms_resetStream s id
  | reset => exact sameTerms_reset s

theorem Fitting.after (h : Fitting κ s) (request : Request) :
  Fitting κ (s.after request)
  := by
  intro id
  rcases h id with hzero | ⟨c, hc, hnumbered⟩
  · exact .inl hzero
  · obtain ⟨c', hc', hprofile, -⟩ := sameTerms_after s request id c hc
    exact .inr ⟨c', hc', by rw [hprofile, hnumbered]⟩

/-- A stream that is not known, or whose messages have no numbers, does not start from another. -/
theorem Fitting.eq_zero (h : Fitting κ s)
    (hnone : ∀ c, s.stream id = some c → numbered c.profile = false) :
  κ id = 0#32
  := by
  rcases h id with hzero | ⟨c, hc, hnumbered⟩
  · exact hzero
  · rw [hnone c hc] at hnumbered
    cases hnumbered

theorem seenAs_shift {α : Type} {f : α → Shown} {g : α → α} (hfg : ∀ a, f (g a) = (f a).shift κ)
    (s : BoundedGtsSocket) (result : Except Error (α × BoundedGtsSocket)) :
  (s.shift κ).seenAs f (result.map (fun r => (g r.1, r.2.shift κ)))
    = ((s.seenAs f result).1.map (Shown.shift κ), (s.seenAs f result).2.shift κ)
  := by
  cases result with
  | error err => rfl
  | ok r =>
    change (Except.ok (f (g r.1)), r.2.shift κ) = _
    rw [hfg]
    rfl

theorem Straight.onAck {ack : Ack} (h : s.Straight κ (.onAck id ack)) :
  ∀ c, s.stream id = some c → c.profile.unreliable = false → c.state ≠ .reset →
    ∀ i m, s.tx.metadata i = some m → m.streamId = id → !selected ack.base ack.bitmap m.sequence →
      SameSide (κ id) m.sequence ack.base
  := by
  intro c hc hrel hreset i m hm hid hsel
  apply h (id, m.sequence, ack.base)
  rw [compared, hc]
  dsimp only
  rw [if_neg (by simp [hrel, hreset])]
  apply List.mem_map.mpr
  exact ⟨(i, m), List.mem_filter.mpr ⟨MessagePool.mem_entries.mpr hm, by simp [hid, hsel]⟩, rfl⟩

theorem Straight.receive {sequence : Option U32} {data : Bytes} {isEnd : Bool}
    (h : s.Straight κ (.receive id sequence data isEnd)) :
  ∀ c, s.stream id = some c → Admits c data isEnd → ∀ seq ∈ sequence, ∀ n ∈ comparedWith c,
    SameSide (κ id) seq n
  := by
  intro c hc hadmits seq hseq n hn
  obtain rfl := Option.mem_def.mp hseq
  apply h (id, seq, n)
  rw [compared, hc]
  dsimp only
  rw [if_pos hadmits]
  exact List.mem_map_of_mem (Option.mem_toList.mpr hn)

/-- A request to the socket whose streams started from other numbers does the same. -/
theorem serve_shift {request : Request} (hfit : Fitting κ s) (h : s.Straight κ request) :
  (s.shift κ).serve (request.shift κ)
    = ((s.serve request).1.map (Shown.shift κ), (s.serve request).2.shift κ)
  := by
  cases request with
  | setRtoMs value =>
    change (s.shift κ).serve (.setRtoMs value) = _
    rw [serve, serve, setRtoMs, setRtoMs]
    split
    · rfl
    · rfl
  | establish remoteReceiveId remoteResetId =>
    change (s.shift κ).serve (.establish remoteReceiveId remoteResetId) = _
    rw [serve, serve, establish, establish, show (s.shift κ).state = s.state from rfl]
    split
    · rfl
    · rfl
  | allocStreamId =>
    change (s.shift κ).serve (.allocStreamId) = _
    rw [serve, serve, allocStreamId, allocStreamId, show (s.shift κ).state = s.state from rfl,
      show (s.shift κ).nextStreamId = s.nextStreamId from rfl]
    split
    · rfl
    split
    · rfl
    · rfl
  | addStream id profile openedByLocal receiveCapacity peerCredit =>
    have hzero : s.stream id = none → κ id = 0#32 := by
      intro hnone
      apply hfit.eq_zero
      intro c hc
      rw [hnone] at hc
      cases hc
    change (s.shift κ).serve (.addStream id profile openedByLocal receiveCapacity peerCredit) = _
    rw [serve, serve, addStream_shift hzero]
    cases s.addStream id profile openedByLocal receiveCapacity peerCredit with
    | error err => rfl
    | ok s' => rfl
  | send id data isEnd now =>
    change (s.shift κ).serve (.send id data isEnd now) = _
    rw [serve, serve, send_shift]
    exact seenAs_shift (g := Option.map (fun seq => seq + κ id)) (fun _ => rfl) s _
  | onAck id ack =>
    rw [Request.shift, serve, serve, onAck_shift h.onAck]
    cases (s.onAck id ack).1 with
    | error err => rfl
    | ok _ => rfl
  | retransmitDue now =>
    change (s.shift κ).serve (.retransmitDue now) = _
    rw [serve, serve, retransmitDue_shift]
    cases (s.retransmitDue now).1 with
    | error err => rfl
    | ok message => rfl
  | receive id sequence data isEnd =>
    have hzero : ∀ c, s.stream id = some c → c.profile.unreliable = true →
        c.profile.sequenced = false → κ id = 0#32 := by
      intro c hc hrel hsequenced
      apply hfit.eq_zero
      intro c' hc'
      rw [hc] at hc'
      cases hc'
      rw [numbered, hrel, hsequenced]
      rfl
    rw [Request.shift, serve, serve, receive_shift hzero h.receive]
    cases (s.receive id sequence data isEnd).1 with
    | error err => rfl
    | ok answer => rfl
  | ackState id =>
    change (s.shift κ).serve (.ackState id) = _
    rw [serve, serve, ackState_shift]
    cases s.ackState id with
    | error err => rfl
    | ok answer => rfl
  | recvInto id out =>
    change (s.shift κ).serve (.recvInto id out) = _
    rw [serve, serve, recvInto_shift]
    exact seenAs_shift (g := fun result => result) (fun _ => rfl) s _
  | resetStream id =>
    change (s.shift κ).serve (.resetStream id) = _
    rw [serve, serve, resetStream_shift]
    cases (s.resetStream id).1 with
    | error err => rfl
    | ok _ => rfl
  | reset =>
    change (s.shift κ).serve (.reset) = _
    rw [serve, serve, reset_shift]
    rfl

/-- A run of the socket whose stream `id` started from `κ id` shows the same. -/
def ShowsSame (κ : U8 → U32) (s : BoundedGtsSocket) (requests : List Request) : Prop :=
  Machine.outputs after observe (s.shift κ) (requests.map (Request.shift κ))
    = (Machine.outputs after observe s requests).map (Except.map (Shown.shift κ))

instance (κ : U8 → U32) (s : BoundedGtsSocket) (requests : List Request) :
    Decidable (ShowsSame κ s requests) :=
  inferInstanceAs (Decidable (_ = _))

/-- A run of the socket whose streams started from other numbers does the same, as long as the numbers
whose order decides have both wrapped or neither has. -/
theorem run_shift {requests : List Request} (hfit : Fitting κ s)
    (h : Machine.Along after (fun s request => s.Straight κ request) s requests) :
  ShowsSame κ s requests ∧
    Machine.run after (s.shift κ) (requests.map (Request.shift κ))
      = (Machine.run after s requests).shift κ
  := by
  apply Machine.outputs_map (I := Fitting κ) _ _ (fun _ request h => h.after request) hfit h
  · intro s request hfit hrequest
    rw [observe, serve_shift hfit hrequest]
    rfl
  · intro s request hfit hrequest
    rw [after, serve_shift hfit hrequest]
    rfl

end BoundedGtsSocket

/-- A run shows the same from whichever numbers the streams started, and so do the states it reaches, as
long as the numbers whose order decides have both wrapped, or neither has. -/
theorem same_from_any_number (k : U32) (stream : GtsStream) (ops : List GtsStream.Op) (κ : U8 → U32)
    (socket : BoundedGtsSocket) (requests : List BoundedGtsSocket.Request) :
  (Machine.Along GtsStream.step (fun s op => s.Straight k op) stream ops →
      GtsStream.ShowsSame k stream ops ∧
        Machine.run GtsStream.step (stream.shift k) (ops.map (GtsStream.Op.shift k))
          = (Machine.run GtsStream.step stream ops).shift k) ∧
    (Machine.Along BoundedGtsSocket.after (fun s request => s.Straight (socket.offsets κ) request) socket
        requests →
      BoundedGtsSocket.ShowsSame (socket.offsets κ) socket requests ∧
        Machine.run BoundedGtsSocket.after (socket.shift (socket.offsets κ))
            (requests.map (BoundedGtsSocket.Request.shift (socket.offsets κ)))
          = (Machine.run BoundedGtsSocket.after socket requests).shift (socket.offsets κ))
  := by
  constructor
  · intro h
    exact GtsStream.run_shift h
  · intro h
    exact BoundedGtsSocket.run_shift (BoundedGtsSocket.fitting_offsets socket κ) h

/-- Two messages in order: the second one has the number 0 when the first has the greatest. -/
theorem same_from_greatest_in_order :
  let profile : StreamProfile := ⟨false, true, false, false, .bidirectional, .msg128⟩
  let ops : List GtsStream.Op :=
    [.sendPacket 1#32 [10#8] false 0#64, .onAck 0#32 0#32 2#8, .sendPacket 1#32 [11#8] false 0#64,
      .onAck 1#32 0#32 2#8, .receivePacket (.data 1#32 0#8 0#32 [10#8] false),
      .receivePacket (.data 1#32 0#8 1#32 [11#8] false)]
  let requests : List BoundedGtsSocket.Request :=
    [.send 0#8 [10#8] false 0#64, .onAck 0#8 ⟨0#32, 0#32, 2#8⟩, .send 0#8 [11#8] false 0#64,
      .onAck 0#8 ⟨1#32, 0#32, 2#8⟩, .receive 0#8 (some 0#32) [10#8] false,
      .receive 0#8 (some 1#32) [11#8] false]
  ∃ stream socket socket', GtsStream.new 0#8 profile true 2#8 2#8 = .ok stream ∧
    BoundedPair.socketOfTwo .responder = .ok socket ∧
    socket.addStream 0#8 profile true 2#8 2#8 = .ok socket' ∧
    GtsStream.ShowsSame 0xffffffff#32 stream ops ∧
    BoundedGtsSocket.ShowsSame (socket'.offsets (fun _ => 0xffffffff#32)) socket' requests
  := by
  intro profile ops requests
  obtain ⟨stream, hstream⟩ : ∃ stream, GtsStream.new 0#8 profile true 2#8 2#8 = .ok stream := ⟨_, rfl⟩
  obtain ⟨socket, hsocket⟩ : ∃ socket, BoundedPair.socketOfTwo .responder = .ok socket := ⟨_, rfl⟩
  obtain ⟨socket', hsocket'⟩ : ∃ socket', socket.addStream 0#8 profile true 2#8 2#8 = .ok socket' := by
    cases hsocket
    exact ⟨_, rfl⟩
  have hops : Machine.Along GtsStream.step (fun s op => s.Straight 0xffffffff#32 op) stream ops := by
    cases hstream
    decide +kernel
  have hrequests : Machine.Along BoundedGtsSocket.after
      (fun s request => s.Straight (socket'.offsets (fun _ => 0xffffffff#32)) request) socket' requests := by
    cases hsocket
    cases hsocket'
    decide +kernel
  obtain ⟨hstreams, hsockets⟩ := same_from_any_number 0xffffffff#32 stream ops
    (fun _ => 0xffffffff#32) socket' requests
  exact ⟨stream, socket, socket', hstream, hsocket, hsocket', (hstreams hops).1,
    (hsockets hrequests).1⟩

/-- From the greatest number, the message that follows has the number 0.  It is taken for an old one when
it arrives first, and for one that is acknowledged together with the message before it; a datagram that
follows is dropped. -/
theorem not_same_from_greatest :
  let profile : StreamProfile := ⟨false, true, false, false, .bidirectional, .msg128⟩
  let datagrams : StreamProfile := ⟨true, true, true, false, .bidirectional, .msg128⟩
  let k : U32 := 0xffffffff#32
  ∃ stream stream' socket socket' socket'', GtsStream.new 0#8 profile true 2#8 2#8 = .ok stream ∧
    GtsStream.new 2#8 datagrams true 2#8 2#8 = .ok stream' ∧
    BoundedPair.socketOfTwo .responder = .ok socket ∧
    socket.addStream 0#8 profile true 2#8 2#8 = .ok socket' ∧
    socket.addStream 2#8 datagrams true 2#8 2#8 = .ok socket'' ∧
    ¬ GtsStream.ShowsSame k stream
        [.receivePacket (.data 1#32 0#8 1#32 [11#8] false),
          .receivePacket (.data 1#32 0#8 0#32 [10#8] false)] ∧
    ¬ GtsStream.ShowsSame k stream
        [.sendPacket 1#32 [10#8] false 0#64, .sendPacket 1#32 [11#8] false 0#64,
          .onAck 0#32 0#32 2#8, .retransmitDue 1#32 5000#64] ∧
    ¬ GtsStream.ShowsSame k stream'
        [.receivePacket (.datagram 1#32 2#8 (some 0#32) [10#8]),
          .receivePacket (.datagram 1#32 2#8 (some 1#32) [11#8]), .recv, .recv] ∧
    ¬ BoundedGtsSocket.ShowsSame (fun _ => k) socket'
        [.receive 0#8 (some 1#32) [11#8] false, .receive 0#8 (some 0#32) [10#8] false] ∧
    ¬ BoundedGtsSocket.ShowsSame (fun _ => k) socket'
        [.send 0#8 [10#8] false 0#64, .send 0#8 [11#8] false 0#64, .onAck 0#8 ⟨0#32, 0#32, 2#8⟩,
          .retransmitDue 5000#64] ∧
    ¬ BoundedGtsSocket.ShowsSame (fun _ => k) socket''
        [.receive 2#8 (some 0#32) [10#8] false, .receive 2#8 (some 1#32) [11#8] false,
          .recvInto 2#8 [0#8], .recvInto 2#8 [0#8]]
  := by
  intro profile datagrams k
  refine ⟨_, _, _, _, _, rfl, rfl, rfl, rfl, rfl, ?_⟩
  decide +kernel

end SmolGnet
