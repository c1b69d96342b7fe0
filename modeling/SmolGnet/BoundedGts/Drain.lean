import SmolGnet.BoundedGts.Shift

/-!
# Sending again all that is due

`retransmitDue` returns one message and looks at the slots from the first one on each time, so it is
called until it returns nothing.  A message that was returned counts as sent now, and since the timeout
is not 0 it is not due any more.  So each call takes one message from those that are due, and the last
one finds none.
-/

namespace SmolGnet

/-- In a list without duplicates, the first element that `f` has a value for. -/
theorem filterMap_eq_cons_update {α : Type} {l : List ℕ} (hnodup : l.Nodup) {f : ℕ → Option α}
    {idx : ℕ} {a : α} (hfirst : l.find? (fun i => (f i).isSome) = some idx) (ha : f idx = some a) :
  l.filterMap f = a :: l.filterMap (Function.update f idx none)
  := by
  induction l with
  | nil => cases hfirst
  | cons i l ih =>
    obtain ⟨hnotMem, hnodup⟩ := List.nodup_cons.mp hnodup
    rw [List.find?_cons] at hfirst
    cases hi : f i with
    | some b =>
      rw [hi] at hfirst
      cases hfirst
      rw [hi] at ha
      cases ha
      rw [List.filterMap_cons_some hi, List.filterMap_cons_none (Function.update_self _ _ _)]
      congr 1
      apply List.filterMap_congr
      intro j hj
      rw [Function.update_of_ne]
      rintro rfl
      exact hnotMem hj
    | none =>
      rw [hi] at hfirst
      have hne : i ≠ idx := by
        rintro rfl
        rw [hi] at ha
        cases ha
      rw [List.filterMap_cons_none hi, ih hnodup hfirst, List.filterMap_cons_none]
      rw [Function.update_of_ne hne, hi]

namespace MessagePool

variable {M : Type} {p : MessagePool M}

theorem setSlot_self {idx : ℕ} {slot : MessageSlot M} (hslot : p.slots[idx]? = some slot)
    (h : slot.len ≤ p.slotSize) :
  p.setSlot idx slot h = p
  := by
  obtain ⟨hidx, rfl⟩ := List.getElem?_eq_some_iff.mp hslot
  simp only [setSlot, List.set_getElem_self]

/-- Metadata that are kept by `f` may be mapped. -/
theorem map_eq_self {f : M → M} (h : ∀ idx m, p.metadata idx = some m → f m = m) :
  p.map f = p
  := by
  have hslots : p.slots.map (MessageSlot.map f) = p.slots := by
    apply List.ext_getElem?
    intro idx
    rw [List.getElem?_map]
    cases hslot : p.slots[idx]? with
    | none => rfl
    | some slot =>
      obtain ⟨metadata, len⟩ := slot
      cases metadata with
      | none => rfl
      | some m =>
        have hm : p.metadata idx = some m := by simp only [MessagePool.metadata, hslot]
        simp only [Option.map_some, MessageSlot.map, h idx m hm]
  obtain ⟨slots, bytes, slotSize, arena, hlen⟩ := p
  simp only [map, hslots]

end MessagePool

namespace BoundedGtsSocket

variable {s : BoundedGtsSocket}

/-! ### Until nothing is due -/

/-- The messages that `retransmitDue` returns, called until it returns nothing, and the socket then; at
most `calls` calls are made, and none of them may fail. -/
def drain (now : U64) : ℕ → BoundedGtsSocket → Option (List Retransmit × BoundedGtsSocket)
  | 0, _ => none
  | calls + 1, s =>
    match s.retransmitDue now with
    | (.error _, _) => none
    | (.ok none, s) => some ([], s)
    | (.ok (some message), s) =>
      (drain now calls s).map (fun rest => (message :: rest.1, rest.2))

/-- The retransmission of a message is due. -/
def isDue (s : BoundedGtsSocket) (now : U64) (m : TxMeta) : Bool :=
  decide (s.rtoMs ≤ saturatingSub now m.sentAt)

/-- The message in a slot, if its retransmission is due. -/
def dueAt (s : BoundedGtsSocket) (now : U64) (idx : ℕ) : Option Retransmit :=
  match s.tx.get idx with
  | some (m, data) =>
    if s.isDue now m then some ⟨m.streamId, m.sequence, m.isEnd, data⟩ else none
  | none => none

/-- The messages whose retransmission is due, in the order of their slots. -/
def dueMessages (s : BoundedGtsSocket) (now : U64) : List Retransmit :=
  (List.range s.tx.capacity).filterMap (s.dueAt now)

/-- A message that is sent again if it is due. -/
def resent (s : BoundedGtsSocket) (now : U64) (m : TxMeta) : TxMeta :=
  if s.isDue now m then { m with sentAt := now } else m

theorem isDue_sentNow (hrto : s.rtoMs ≠ 0#64) (now : U64) (m : TxMeta) :
  s.isDue now { m with sentAt := now } = false
  := by
  have hzero : saturatingSub now now = 0#64 := by
    simp [saturatingSub]
  rw [isDue, hzero, decide_eq_false_iff_not, BitVec.not_le]
  rw [BitVec.lt_def, BitVec.toNat_ofNat]
  apply Nat.pos_of_ne_zero
  intro h
  exact hrto (BitVec.eq_of_toNat_eq h)

/-- What one call does: it takes the first message that is due. -/
theorem retransmitDue_cases (s : BoundedGtsSocket) (now : U64) :
  (s.retransmitDue now = (.ok none, s) ∧ ∀ idx, s.dueAt now idx = none) ∨
    ∃ idx message m data tx, (List.range s.tx.capacity).find? (fun i => (s.dueAt now i).isSome)
        = some idx ∧
      s.dueAt now idx = some message ∧ s.tx.get idx = some (m, data) ∧ s.isDue now m = true ∧
      s.tx.setMetadata idx { m with sentAt := now } = .ok tx ∧
      s.tx.UpdatedAt tx idx (some ({ m with sentAt := now }, data)) ∧
      s.retransmitDue now = (.ok (some message), { s with tx })
  := by
  have hany : ∀ idx, ((s.tx.metadata idx).map (fun m => (idx, m))).any
      (fun e => decide (s.rtoMs ≤ saturatingSub now e.2.sentAt)) = (s.dueAt now idx).isSome := by
    intro idx
    rw [MessagePool.metadata_eq_map, dueAt]
    cases s.tx.get idx with
    | none => rfl
    | some x =>
      by_cases hdue : s.rtoMs ≤ saturatingSub now x.1.sentAt
      · simp [isDue, hdue]
      · simp [isDue, hdue]
  have hfind : s.tx.entries.find? (fun e => decide (s.rtoMs ≤ saturatingSub now e.2.sentAt))
      = ((List.range s.tx.capacity).find? (fun idx => (s.dueAt now idx).isSome)).bind
        (fun idx => (s.tx.metadata idx).map (fun m => (idx, m))) := by
    rw [MessagePool.entries, List.find?_filterMap]
    simp only [hany]
  rw [retransmitDue, hfind]
  cases hfirst : (List.range s.tx.capacity).find? (fun idx => (s.dueAt now idx).isSome) with
  | none =>
    refine .inl ⟨rfl, fun idx => ?_⟩
    rw [List.find?_eq_none] at hfirst
    by_cases hidx : idx < s.tx.capacity
    · simpa using hfirst idx (List.mem_range.mpr hidx)
    · have hget : s.tx.get idx = none := by
        cases hget : s.tx.get idx with
        | none => rfl
        | some x => exact absurd (MessagePool.lt_capacity_of_get hget) hidx
      rw [dueAt, hget]
  | some idx =>
    have hsome := @List.find?_some _ (fun idx => (s.dueAt now idx).isSome) _ _ hfirst
    cases hget : s.tx.get idx with
    | none =>
      simp only [dueAt, hget] at hsome
      cases hsome
    | some x =>
      obtain ⟨m, data⟩ := x
      have hdue : s.isDue now m = true := by
        simp only [dueAt, hget] at hsome
        by_contra hno
        rw [if_neg hno] at hsome
        cases hsome
      have hmessage : s.dueAt now idx = some ⟨m.streamId, m.sequence, m.isEnd, data⟩ := by
        simp only [dueAt, hget, if_pos hdue]
      obtain ⟨tx, htx, hupdated⟩ := MessagePool.setMetadata_of_get hget { m with sentAt := now }
      refine .inr ⟨idx, _, m, data, tx, rfl, hmessage, hget, hdue, htx, hupdated, ?_⟩
      have hmetadata : s.tx.metadata idx = some m := MessagePool.metadata_eq_some.mpr ⟨data, hget⟩
      simp only [Option.bind_some, hmetadata, Option.map_some, htx, hupdated.get_eq,
        Function.update_self]

/-- Without the message that was returned, the messages that are due stay as they are. -/
theorem dueAt_of_updatedAt (hrto : s.rtoMs ≠ 0#64) {now : U64} {tx : MessagePool TxMeta} {idx : ℕ}
    {m : TxMeta} {data : Bytes} (h : s.tx.UpdatedAt tx idx (some ({ m with sentAt := now }, data))) :
  dueAt { s with tx } now = Function.update (s.dueAt now) idx none
  := by
  funext i
  by_cases hi : i = idx
  · subst hi
    have hno := isDue_sentNow hrto now m
    rw [Function.update_self, dueAt]
    simp only [h.get_eq, Function.update_self]
    exact if_neg (by rw [Bool.not_eq_true]; exact hno)
  · rw [Function.update_of_ne hi, dueAt, dueAt]
    simp only [h.get_eq, Function.update_of_ne hi]
    rfl

/-- The message that was returned would be sent again in the same way. -/
theorem map_resent_of_setMetadata (hrto : s.rtoMs ≠ 0#64) {now : U64} {tx : MessagePool TxMeta}
    {idx : ℕ} {m : TxMeta} {data : Bytes} (hget : s.tx.get idx = some (m, data))
    (hdue : s.isDue now m = true) (htx : s.tx.setMetadata idx { m with sentAt := now } = .ok tx) :
  tx.map (s.resent now) = s.tx.map (s.resent now)
  := by
  obtain ⟨slot, hslot, hm, -⟩ := MessagePool.get_eq_some.mp hget
  rw [MessagePool.setMetadata_of_slot hslot, hm, Option.isNone_some, if_neg (by simp)] at htx
  cases htx
  have hsame : MessageSlot.map (s.resent now) { slot with metadata := some { m with sentAt := now } }
      = slot.map (s.resent now) := by
    simp only [MessageSlot.map, hm, Option.map_some, resent, isDue_sentNow hrto, hdue]
    simp
  rw [← MessagePool.setSlot_map]
  apply MessagePool.setSlot_self
  rw [MessagePool.slots_map, hslot, Option.map_some, hsame]

/-- As many calls as there are messages that are due, and one more, return these messages. -/
theorem drain_eq (now : U64) {calls : ℕ} {s : BoundedGtsSocket} (hrto : s.rtoMs ≠ 0#64)
    (hcalls : (s.dueMessages now).length < calls) :
  drain now calls s = some (s.dueMessages now, { s with tx := s.tx.map (s.resent now) })
  := by
  induction calls generalizing s with
  | zero => omega
  | succ calls ih =>
    rw [drain]
    rcases s.retransmitDue_cases now with ⟨heq, hnone⟩ |
      ⟨idx, message, m, data, tx, hfirst, hmessage, hget, hdue, htx, hupdated, heq⟩
    · have hkeep : s.tx.map (s.resent now) = s.tx := by
        apply MessagePool.map_eq_self
        intro idx m hm
        obtain ⟨data, hget⟩ := MessagePool.metadata_eq_some.mp hm
        have hno := hnone idx
        simp only [dueAt, hget] at hno
        rw [resent]
        split
        · next hdue => rw [if_pos hdue] at hno; cases hno
        · rfl
      have hempty : s.dueMessages now = [] := by
        rw [dueMessages, List.filterMap_eq_nil_iff]
        exact fun idx _ => hnone idx
      rw [heq, hempty, hkeep]
    · have hmessages : s.dueMessages now = message :: dueMessages { s with tx } now := by
        rw [dueMessages, dueMessages, dueAt_of_updatedAt hrto hupdated]
        change _ = message :: (List.range tx.capacity).filterMap _
        rw [hupdated.capacity_eq]
        exact filterMap_eq_cons_update List.nodup_range hfirst hmessage
      rw [hmessages, List.length_cons] at hcalls
      have hrest := @ih { s with tx } hrto (by omega)
      rw [heq]
      dsimp only
      rw [hrest, hmessages]
      have hmap : tx.map (s.resent now) = s.tx.map (s.resent now) :=
        map_resent_of_setMetadata hrto hget hdue htx
      change some (_, { s with tx := tx.map (s.resent now) }) = _
      rw [hmap]

/-! ### The timeout -/

theorem rtoMs_markContiguousDelivered (id : U8) (n : ℕ) (s : BoundedGtsSocket) :
  (markContiguousDelivered id n s).2.rtoMs = s.rtoMs
  := by
  induction n generalizing s with
  | zero => rfl
  | succ n ih =>
    rw [markContiguousDelivered]
    split
    · rfl
    split
    · rfl
    split
    · rfl
    dsimp only
    split
    · rfl
    · rw [ih, setStream]

theorem rtoMs_storeDatagram (s : BoundedGtsSocket) (id : U8) (seq : U32) (data : Bytes) :
  (s.storeDatagram id seq data).2.rtoMs = s.rtoMs
  := by
  rw [storeDatagram]
  split
  · rfl
  · rfl

theorem rtoMs_receiveUnreliable (s : BoundedGtsSocket) (idx : ℕ) (c : StreamCore) (id : U8)
    (sequence : Option U32) (data : Bytes) :
  (s.receiveUnreliable idx c id sequence data).2.rtoMs = s.rtoMs
  := by
  rw [receiveUnreliable.eq_def]
  repeat' split
  all_goals first | rfl | exact rtoMs_storeDatagram _ id _ data

theorem rtoMs_deliverAndAck (s : BoundedGtsSocket) (id : U8) :
  (s.deliverAndAck id).2.rtoMs = s.rtoMs
  := by
  have hmark := rtoMs_markContiguousDelivered id s.rx.capacity s
  rw [deliverAndAck]
  split
  · next heq =>
    rw [heq] at hmark
    exact hmark
  · next heq =>
    rw [heq] at hmark
    exact hmark

theorem rtoMs_receiveReliable (s : BoundedGtsSocket) (idx : ℕ) (c : StreamCore) (id : U8)
    (seq : U32) (data : Bytes) (isEnd : Bool) :
  (s.receiveReliable idx c id seq data isEnd).2.rtoMs = s.rtoMs
  := by
  have hticked : ∀ b : Bool, (if b = true then
      { s with nextDeliveryOrder := nextOrder s.nextDeliveryOrder } else s).rtoMs = s.rtoMs := by
    intro b
    cases b with
    | false => rfl
    | true => rfl
  rw [receiveReliable]
  split
  · rfl
  split
  · rfl
  split
  · rfl
  split
  · rfl
  dsimp only
  split
  · exact hticked _
  · rw [rtoMs_deliverAndAck, setStream]
    exact hticked _

theorem rtoMs_receive (s : BoundedGtsSocket) (id : U8) (sequence : Option U32) (data : Bytes)
    (isEnd : Bool) :
  (s.receive id sequence data isEnd).2.rtoMs = s.rtoMs
  := by
  rw [receive]
  repeat' split
  all_goals
    first
    | rfl
    | exact rtoMs_receiveUnreliable s _ _ id sequence data
    | exact rtoMs_receiveReliable s _ _ id _ data isEnd

section Calls

variable {s' : BoundedGtsSocket}

/-- The timeout is not set to 0. -/
theorem rtoMs_of_setRtoMs {value : U64} (h : s.setRtoMs value = .ok s') :
  s'.rtoMs ≠ 0#64
  := by
  rw [setRtoMs] at h
  split at h
  · cases h
  · next hvalue =>
    cases h
    exact hvalue

theorem rtoMs_of_establish {remoteReceiveId remoteResetId : U32}
    (h : s.establish remoteReceiveId remoteResetId = .ok s') :
  s'.rtoMs = s.rtoMs
  := by
  rw [establish] at h
  split at h
  · cases h
    rfl
  · cases h

theorem rtoMs_of_allocStreamId {id : U8} (h : s.allocStreamId = .ok (id, s')) :
  s'.rtoMs = s.rtoMs
  := by
  rw [allocStreamId] at h
  repeat' split at h
  all_goals cases h
  rfl

theorem rtoMs_of_addStream {id : U8} {profile : StreamProfile} {openedByLocal : Bool}
    {receiveCapacity peerCredit : U8}
    (h : s.addStream id profile openedByLocal receiveCapacity peerCredit = .ok s') :
  s'.rtoMs = s.rtoMs
  := by
  rw [addStream] at h
  repeat' split at h
  all_goals cases h
  rfl

theorem rtoMs_of_send {id : U8} {data : Bytes} {isEnd : Bool} {now : U64} {seq : Option U32}
    (h : s.send id data isEnd now = .ok (seq, s')) :
  s'.rtoMs = s.rtoMs
  := by
  rw [send] at h
  repeat' split at h
  all_goals cases h
  all_goals rfl

theorem rtoMs_of_recvInto {id : U8} {out : Bytes} {x : Option ReceivedMessage × Bytes}
    (h : s.recvInto id out = .ok (x, s')) :
  s'.rtoMs = s.rtoMs
  := by
  rw [recvInto] at h
  repeat' split at h
  all_goals cases h
  all_goals rfl

theorem rtoMs_onAck (s : BoundedGtsSocket) (id : U8) (ack : Ack) :
  (s.onAck id ack).2.rtoMs = s.rtoMs
  := by
  rw [onAck]
  repeat' split
  all_goals rfl

theorem rtoMs_retransmitDue (s : BoundedGtsSocket) (now : U64) :
  (s.retransmitDue now).2.rtoMs = s.rtoMs
  := by
  rcases s.retransmitDue_cases now with ⟨heq, -⟩ | ⟨_, _, _, _, _, -, -, -, -, -, -, heq⟩
  · rw [heq]
  · rw [heq]

theorem rtoMs_resetStream (s : BoundedGtsSocket) (id : U8) :
  (s.resetStream id).2.rtoMs = s.rtoMs
  := by
  rw [resetStream]
  repeat' split
  all_goals rfl

/-- A call that leaves the socket as it is when it fails. -/
theorem rtoMs_seenAs (hrto : s.rtoMs ≠ 0#64) {α : Type} (f : α → Shown)
    {result : Except Error (α × BoundedGtsSocket)}
    (h : ∀ a s', result = .ok (a, s') → s'.rtoMs ≠ 0#64) :
  (s.seenAs f result).2.rtoMs ≠ 0#64
  := by
  cases result with
  | error err => exact hrto
  | ok x => exact h x.1 x.2 rfl

/-- A call that returns nothing but the socket. -/
theorem rtoMs_seenAs_map (hrto : s.rtoMs ≠ 0#64) {f : Unit → Shown}
    {result : Except Error BoundedGtsSocket} (h : ∀ s', result = .ok s' → s'.rtoMs ≠ 0#64) :
  (s.seenAs f (result.map (fun s' => ((), s')))).2.rtoMs ≠ 0#64
  := by
  apply rtoMs_seenAs hrto
  intro a s' heq
  obtain ⟨s'', hresult, heq⟩ := map_eq_ok.mp heq
  cases heq
  exact h s' hresult

end Calls

/-- A timeout that is not 0 stays so. -/
theorem rtoMs_after (hrto : s.rtoMs ≠ 0#64) (request : Request) :
  (s.after request).rtoMs ≠ 0#64
  := by
  rw [after]
  cases request with
  | setRtoMs value => exact rtoMs_seenAs_map hrto fun s' h => rtoMs_of_setRtoMs h
  | establish remoteReceiveId remoteResetId =>
    exact rtoMs_seenAs_map hrto fun s' h => (rtoMs_of_establish h).trans_ne hrto
  | allocStreamId =>
    exact rtoMs_seenAs hrto _ fun id s' h => (rtoMs_of_allocStreamId h).trans_ne hrto
  | addStream id profile openedByLocal receiveCapacity peerCredit =>
    exact rtoMs_seenAs_map hrto fun s' h => (rtoMs_of_addStream h).trans_ne hrto
  | send id data isEnd now =>
    exact rtoMs_seenAs hrto _ fun seq s' h => (rtoMs_of_send h).trans_ne hrto
  | onAck id ack => exact (s.rtoMs_onAck id ack).trans_ne hrto
  | retransmitDue now => exact (s.rtoMs_retransmitDue now).trans_ne hrto
  | receive id sequence data isEnd => exact (s.rtoMs_receive id sequence data isEnd).trans_ne hrto
  | ackState id => exact hrto
  | recvInto id out =>
    exact rtoMs_seenAs hrto _ fun x s' h => (rtoMs_of_recvInto h).trans_ne hrto
  | resetStream id => exact (s.rtoMs_resetStream id).trans_ne hrto
  | reset => exact hrto

/-- The socket is one that requests bring a new socket to. -/
def Reachable (s : BoundedGtsSocket) : Prop :=
  ∃ role localReceiveId localResetId css streams txSlots txBytes rxSlots rxBytes start requests,
    new role localReceiveId localResetId css streams txSlots txBytes rxSlots rxBytes = .ok start ∧
    s = Machine.run after start requests

theorem rtoMs_of_new {role : TunnelRole} {localReceiveId localResetId : U32} {css : ServiceSelector}
    {streams : List (Option StreamCore)} {txSlots : List (MessageSlot TxMeta)} {txBytes : Bytes}
    {rxSlots : List (MessageSlot RxMeta)} {rxBytes : Bytes}
    (h : new role localReceiveId localResetId css streams txSlots txBytes rxSlots rxBytes = .ok s) :
  s.rtoMs = defaultRtoMs
  := by
  rw [new] at h
  split at h
  · cases h
  · obtain ⟨tx, -, h⟩ := bind_eq_ok.mp h
    obtain ⟨rx, -, h⟩ := bind_eq_ok.mp h
    cases h
    rfl

theorem Reachable.rtoMs_ne_zero (h : s.Reachable) :
  s.rtoMs ≠ 0#64
  := by
  obtain ⟨role, localReceiveId, localResetId, css, streams, txSlots, txBytes, rxSlots, rxBytes, start,
    requests, hnew, rfl⟩ := h
  have hstart : start.rtoMs ≠ 0#64 := by
    rw [rtoMs_of_new hnew]
    decide
  exact Machine.invariant_run (P := fun s : BoundedGtsSocket => s.rtoMs ≠ 0#64)
    (fun s request hs => rtoMs_after hs request) hstart requests

/-! ### The sender with allocation -/

/-- The sender `tx` has the timeout of the socket, and its messages are those that the socket has of the
stream `id`. -/
structure SameOutstanding (s : BoundedGtsSocket) (id : U8) (tx : ReliableTx) : Prop where
  rtoMs_eq : tx.rtoMs = s.rtoMs
  outstanding : ∀ (seq : U32) (data : Bytes) (isEnd : Bool) (sentAt : U64),
    tx.outstanding[seq]? = some ⟨data, isEnd, sentAt⟩ ↔
      ∃ idx, s.tx.get idx = some (⟨id, seq, isEnd, sentAt⟩, data)

theorem mem_dueMessages {now : U64} {message : Retransmit} :
  message ∈ s.dueMessages now ↔ ∃ idx sentAt,
    s.tx.get idx = some (⟨message.streamId, message.sequence, message.isEnd, sentAt⟩, message.data) ∧
    s.rtoMs ≤ saturatingSub now sentAt
  := by
  rw [dueMessages, List.mem_filterMap]
  constructor
  · rintro ⟨idx, -, hdue⟩
    rw [dueAt] at hdue
    split at hdue
    · next m data hget =>
      split at hdue
      · next hm =>
        cases hdue
        exact ⟨idx, m.sentAt, hget, of_decide_eq_true hm⟩
      · cases hdue
    · cases hdue
  · rintro ⟨idx, sentAt, hget, hdue⟩
    refine ⟨idx, List.mem_range.mpr (MessagePool.lt_capacity_of_get hget), ?_⟩
    simp only [dueAt, hget, isDue, decide_eq_true hdue, if_true]

/-- The messages of one stream that are sent again are those that the sender with allocation sends
again. -/
theorem mem_due_iff {id : U8} {tx : ReliableTx} (h : s.SameOutstanding id tx) (now : U64)
    (seq : U32) (data : Bytes) (isEnd : Bool) :
  (seq, data, isEnd) ∈ (tx.due now).1 ↔ ⟨id, seq, isEnd, data⟩ ∈ s.dueMessages now
  := by
  rw [mem_dueMessages, ReliableTx.due, List.mem_filterMap]
  constructor
  · rintro ⟨⟨seq', pending⟩, hmem, hdue⟩
    rw [Std.ExtTreeMap.mem_toList_iff_getElem?_eq_some] at hmem
    split at hdue
    · next hp =>
      cases hdue
      obtain ⟨idx, hget⟩ := (h.outstanding _ _ _ pending.sentAt).mp hmem
      refine ⟨idx, pending.sentAt, hget, ?_⟩
      rw [← h.rtoMs_eq]
      exact of_decide_eq_true hp
    · cases hdue
  · rintro ⟨idx, sentAt, hget, hdue⟩
    have hpending := (h.outstanding seq data isEnd sentAt).mpr ⟨idx, hget⟩
    refine ⟨(seq, ⟨data, isEnd, sentAt⟩), ?_, ?_⟩
    · rw [Std.ExtTreeMap.mem_toList_iff_getElem?_eq_some]
      exact hpending
    · rw [if_pos]
      rw [ReliableTx.isDue, h.rtoMs_eq]
      exact decide_eq_true hdue

/-- Afterwards both have the same messages with the same times again. -/
theorem SameOutstanding.due {id : U8} {tx : ReliableTx} (h : s.SameOutstanding id tx) (now : U64) :
  SameOutstanding { s with tx := s.tx.map (s.resent now) } id (tx.due now).2
  where
  rtoMs_eq := h.rtoMs_eq
  outstanding seq data isEnd sentAt := by
    have hdue : ∀ p : PendingTx, tx.isDue now p = s.isDue now ⟨id, seq, p.isEnd, p.sentAt⟩ := by
      intro p
      rw [ReliableTx.isDue, isDue, h.rtoMs_eq]
    rw [ReliableTx.due]
    simp only [Std.ExtTreeMap.getElem?_map, MessagePool.get_map, Option.map_eq_some_iff]
    constructor
    · rintro ⟨p, hp, heq⟩
      obtain ⟨idx, hget⟩ := (h.outstanding seq p.data p.isEnd p.sentAt).mp hp
      refine ⟨idx, _, hget, ?_⟩
      rw [resent, ← hdue]
      cases hd : tx.isDue now p with
      | true =>
        rw [hd, if_pos rfl] at heq
        cases heq
        rfl
      | false =>
        rw [hd, if_neg (by simp)] at heq
        cases heq
        rfl
    · rintro ⟨idx, ⟨m, data'⟩, hget, heq⟩
      rw [resent] at heq
      cases hd : s.isDue now m with
      | true =>
        rw [hd, if_pos rfl] at heq
        cases heq
        refine ⟨⟨data', m.isEnd, m.sentAt⟩, (h.outstanding _ _ _ _).mpr ⟨idx, hget⟩, ?_⟩
        rw [hdue, if_pos hd]
      | false =>
        rw [hd, if_neg (by simp)] at heq
        cases heq
        refine ⟨⟨data', isEnd, sentAt⟩, (h.outstanding _ _ _ _).mpr ⟨idx, hget⟩, ?_⟩
        rw [hdue, if_neg (by rw [hd]; simp)]

/--
In every socket that is reached, `retransmitDue` returns nothing after at most as many calls as there
are slots, and one more.  Until then it returns each message that is due once, as it was sent, and
nothing else; afterwards these messages count as sent now, and nothing else has changed.  For each stream
they are the messages that the sender with allocation returns when it has the same messages.
-/
theorem drain_of_reachable (h : s.Reachable) (now : U64) :
  drain now (s.tx.capacity + 1) s
      = some (s.dueMessages now, { s with tx := s.tx.map (s.resent now) }) ∧
    (∀ idx, MessagePool.get (s.tx.map (s.resent now)) idx
      = (s.tx.get idx).map (fun x => (s.resent now x.1, x.2))) ∧
    ∀ (id : U8) (tx : ReliableTx), s.SameOutstanding id tx →
      (∀ seq data isEnd,
        (seq, data, isEnd) ∈ (tx.due now).1 ↔ ⟨id, seq, isEnd, data⟩ ∈ s.dueMessages now) ∧
      SameOutstanding { s with tx := s.tx.map (s.resent now) } id (tx.due now).2
  := by
  have hlen : (s.dueMessages now).length ≤ s.tx.capacity := by
    have hle := List.length_filterMap_le (s.dueAt now) (List.range s.tx.capacity)
    rw [List.length_range] at hle
    exact hle
  refine ⟨drain_eq now h.rtoMs_ne_zero (by omega), MessagePool.get_map _ _, ?_⟩
  intro id tx hsame
  exact ⟨mem_due_iff hsame now, hsame.due now⟩

/-- A socket with room for two streams and three messages. -/
def roomySocket : Except Error BoundedGtsSocket :=
  new .responder 1#32 2#32 .ones [none, none] [.empty, .empty, .empty] (List.replicate 6 0#8) [.empty]
    [0#8]

/-- Two streams have one message each in the pool, and one of them is due. -/
theorem drain_of_reachable_two :
  let profile : StreamProfile := ⟨false, true, false, false, .bidirectional, .msg128⟩
  ∃ s : BoundedGtsSocket, s.Reachable ∧
    s.dueMessages 600#64 = [⟨1#8, 0#32, false, [10#8]⟩] ∧
    drain 600#64 4 s
      = some (s.dueMessages 600#64, { s with tx := s.tx.map (s.resent 600#64) }) ∧
    (roomySocket.map fun start => Machine.run after start [.addStream 1#8 profile true 2#8 2#8,
      .addStream 3#8 profile true 2#8 2#8, .send 1#8 [10#8] false 0#64, .send 3#8 [11#8] true 200#64])
      = .ok s
  := by
  intro profile
  obtain ⟨start, hstart⟩ : ∃ start, roomySocket = .ok start := ⟨_, rfl⟩
  have h : Reachable (Machine.run after start [.addStream 1#8 profile true 2#8 2#8,
      .addStream 3#8 profile true 2#8 2#8, .send 1#8 [10#8] false 0#64,
      .send 3#8 [11#8] true 200#64]) :=
    ⟨_, _, _, _, _, _, _, _, _, start, _, hstart, rfl⟩
  refine ⟨_, h, ?_, ?_, ?_⟩
  · cases hstart
    decide
  · have hdrain := (drain_of_reachable h 600#64).1
    cases hstart
    exact hdrain
  · rw [hstart]
    rfl

end BoundedGtsSocket

end SmolGnet
