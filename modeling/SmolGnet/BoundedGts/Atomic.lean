import SmolGnet.BoundedGts.Delivery
import SmolGnet.Library.Machine

/-!
# Calls that fail

A call on a socket that returns an error should leave the socket as it was, so that it can be made
again.  All calls do, except for the arrival of a message that is to be delivered at once: the
delivery counter, and the highest sequence number of a sequenced stream, are advanced before the
message is put into the pool, and stay advanced when the pool refuses it.
-/

namespace SmolGnet

namespace MessagePool

variable {M : Type} {p : MessagePool M} {idx : ℕ}

/-- A pool with a free slot has room. -/
theorem free_pos_of_get (hidx : idx < p.capacity) (hget : p.get idx = none) :
  0 < p.free
  := by
  have hslot : p.slots[idx]? = some p.slots[idx] := List.getElem?_eq_getElem hidx
  have hempty : p.slots[idx].metadata.isSome = false := by
    have hmap := p.metadata_eq_map idx
    rw [metadata, hslot, hget] at hmap
    exact Option.not_isSome_iff_eq_none.mpr hmap |> Bool.eq_false_iff.mpr
  have hlt : p.used < p.capacity := by
    rw [used, capacity]
    apply Nat.lt_of_le_of_ne List.countP_le_length
    intro hall
    rw [List.countP_eq_length] at hall
    rw [hall _ (List.getElem_mem hidx)] at hempty
    cases hempty
  rw [free]
  omega

/-- A message is refused exactly when it is longer than a slot or no slot is free. -/
theorem insert_eq_error_iff {m : M} {data : Bytes} :
  (∃ err, p.insert m data = .error err) ↔ p.slotSize < data.length ∨ p.free = 0
  := by
  constructor
  · rintro ⟨err, herr⟩
    by_contra hroom
    obtain ⟨hfits, hfree⟩ := not_or.mp hroom
    obtain ⟨i, p', hinsert⟩ := exists_insert (Nat.not_lt.mp hfits) (Nat.pos_of_ne_zero hfree) m
    rw [hinsert] at herr
    cases herr
  · intro hrefused
    cases hinsert : p.insert m data with
    | error err => exact ⟨err, rfl⟩
    | ok result =>
      obtain ⟨hfits, hget, hidx, -⟩ := insert_eq_ok hinsert
      have hfree := free_pos_of_get hidx hget
      omega

end MessagePool

namespace BoundedGtsSocket

variable {s s' : BoundedGtsSocket} {id : U8} {idx : ℕ} {c : StreamCore}

/-- A failure, with what is left of the socket, has left the socket as it was. -/
def Atomic {α : Type} (result : Except Error α × BoundedGtsSocket) (s : BoundedGtsSocket) : Prop :=
  ∀ err, result.1 = .error err → result.2 = s

theorem atomic_error_iff {α : Type} {err : Error} :
  Atomic ((.error err, s') : Except Error α × BoundedGtsSocket) s ↔ s' = s
  := ⟨fun h => h err rfl, fun h _ _ => h⟩

theorem atomic_error {α : Type} (err : Error) (s : BoundedGtsSocket) :
  Atomic ((.error err, s) : Except Error α × BoundedGtsSocket) s
  := atomic_error_iff.mpr rfl

theorem atomic_ok {α : Type} (a : α) (s s' : BoundedGtsSocket) :
  Atomic ((.ok a, s') : Except Error α × BoundedGtsSocket) s
  := nofun

/-- A failure after the delivery counter was advanced is not atomic. -/
theorem not_atomic_of_order {α : Type} {err : Error}
    (h : s'.nextDeliveryOrder = nextOrder s.nextDeliveryOrder) :
  ¬ Atomic ((.error err, s') : Except Error α × BoundedGtsSocket) s
  := by
  rw [atomic_error_iff]
  rintro rfl
  exact nextOrder_ne s'.nextDeliveryOrder h.symm

/-! ### The calls -/

/-- A call on a socket. -/
inductive Call
  | send (streamId : U8) (data : Bytes) (isEnd : Bool) (now : U64)
  | receive (streamId : U8) (sequence : Option U32) (data : Bytes) (isEnd : Bool)
  | onAck (streamId : U8) (ack : Ack)
  | recvInto (streamId : U8) (out : Bytes)
  | addStream (id : U8) (profile : StreamProfile) (openedByLocal : Bool)
      (receiveCapacity peerCredit : U8)

/-- Whether a call succeeds, and the socket after it. -/
def call (s : BoundedGtsSocket) : Call → Except Error Unit × BoundedGtsSocket
  | .send streamId data isEnd now =>
    match s.send streamId data isEnd now with
    | .error err => (.error err, s)
    | .ok (_, s') => (.ok (), s')
  | .receive streamId sequence data isEnd =>
    match s.receive streamId sequence data isEnd with
    | (.error err, s') => (.error err, s')
    | (.ok _, s') => (.ok (), s')
  | .onAck streamId ack => s.onAck streamId ack
  | .recvInto streamId out =>
    match s.recvInto streamId out with
    | .error err => (.error err, s)
    | .ok (_, s') => (.ok (), s')
  | .addStream id profile openedByLocal receiveCapacity peerCredit =>
    match s.addStream id profile openedByLocal receiveCapacity peerCredit with
    | .error err => (.error err, s)
    | .ok s' => (.ok (), s')

/-- A message that arrives on the stream now is delivered at once: it is a datagram that was not
overtaken, or the expected message, for which the stream has credit. -/
def Due (s : BoundedGtsSocket) (streamId : U8) (c : StreamCore) (sequence : Option U32) : Prop :=
  if c.profile.unreliable then
    if c.profile.sequenced then
      ∃ seq ∈ sequence, ∀ highest ∈ c.unrelRxHighest, highest < seq
    else sequence = none
  else
    sequence = some c.nextExpected ∧ s.rxCountFor streamId < c.receiveCapacity.toNat ∧
      s.rx.find (fun m => m.streamId = streamId && m.sequence = c.nextExpected) = none

theorem due_of_unreliable (h : c.profile.unreliable = true) (sequence : Option U32) :
  s.Due id c sequence ↔
    if c.profile.sequenced then ∃ seq ∈ sequence, ∀ highest ∈ c.unrelRxHighest, highest < seq
    else sequence = none
  := by
  rw [Due, if_pos h]

theorem due_of_reliable (h : c.profile.unreliable = false) (seq : U32) :
  s.Due id c (some seq) ↔ seq = c.nextExpected ∧ s.rxCountFor id < c.receiveCapacity.toNat ∧
    s.rx.find (fun m => m.streamId = id && m.sequence = c.nextExpected) = none
  := by
  rw [Due, h, if_neg Bool.false_ne_true, Option.some.injEq]

/-- The call brings a message that passes all checks and is delivered at once, and that the pool
refuses. -/
def Overdraws (s : BoundedGtsSocket) : Call → Prop
  | .receive streamId sequence data isEnd =>
    ∃ idx c, s.findStream streamId = some (idx, c) ∧
      ¬ (c.state = .closed ∨ c.state = .reset ∨ c.remoteEnded) ∧ remoteMaySend c = true ∧
      validateSendLen c.profile data.length isEnd = .ok () ∧ s.Due streamId c sequence ∧
      (s.rx.slotSize < data.length ∨ s.rx.free = 0)
  | _ => False

/-! ### The arrival of a message -/

/-- A datagram that is stored. -/
theorem storeDatagram_atomic_iff {data : Bytes} (hrx : s'.rx = s.rx)
    (horder : s'.nextDeliveryOrder = s.nextDeliveryOrder) (seq : U32) :
  Atomic (s'.storeDatagram id seq data) s ↔ ¬ (s.rx.slotSize < data.length ∨ s.rx.free = 0)
  := by
  rw [storeDatagram, ← hrx, ← MessagePool.insert_eq_error_iff
    (m := ⟨id, seq, false, .delivered, s'.nextDeliveryOrder⟩)]
  dsimp only
  split
  · next err herr =>
    refine iff_of_false (not_atomic_of_order ?_) (not_not.mpr ⟨err, herr⟩)
    rw [← horder]
  · next hok =>
    refine iff_of_true (atomic_ok _ _ _) ?_
    rintro ⟨err, herr⟩
    rw [hok] at herr
    cases herr

theorem receiveUnreliable_atomic_iff (hrel : c.profile.unreliable = true) (sequence : Option U32)
    (data : Bytes) :
  Atomic (s.receiveUnreliable idx c id sequence data) s ↔
    ¬ (s.Due id c sequence ∧ (s.rx.slotSize < data.length ∨ s.rx.free = 0))
  := by
  rw [receiveUnreliable.eq_def, due_of_unreliable hrel]
  split
  · cases sequence with
    | none => exact iff_of_true (atomic_error _ _) (by simp)
    | some seq =>
      have hstore := @storeDatagram_atomic_iff s
        (s.setStream idx { c with unrelRxHighest := some seq }) id data rfl rfl seq
      dsimp only
      cases hhighest : c.unrelRxHighest with
      | none => simpa using hstore
      | some highest =>
        dsimp only
        split
        · next hle =>
          refine iff_of_true (atomic_ok _ _ _) ?_
          simp [BitVec.not_lt.mpr hle]
        · next hgt =>
          have hlt : highest < seq := BitVec.not_le.mp hgt
          simpa [hlt] using hstore
  · split
    · next hsome =>
      refine iff_of_true (atomic_error _ _) ?_
      rintro ⟨rfl, -⟩
      cases hsome
    · next hnone =>
      have hseq : sequence = none := by simpa using hnone
      simpa [hseq] using storeDatagram_atomic_iff rfl rfl 0#32

/-- What is left of the arrival of a message of a reliable stream once it is stored succeeds. -/
theorem atomic_deliverAndAck {c' : StreamCore} (hfind : s.findStream id = some (idx, c))
    (hstreams : s'.streams = s.streams) (hid : c'.id = id) :
  Atomic ((s'.setStream idx c').deliverAndAck id) s
  := by
  have hfind' : s'.findStream id = some (idx, c) := by
    rw [findStream, hstreams]
    exact hfind
  have hstream : (s'.setStream idx c').stream id = some c' := by
    rw [stream_setStream hfind' hid, Function.update_self]
  obtain ⟨a, ha⟩ := exists_deliverAndAck hstream
  intro err herr
  rw [ha] at herr
  cases herr

theorem receiveReliable_atomic_iff (hfind : s.findStream id = some (idx, c))
    (hrel : c.profile.unreliable = false) (seq : U32) (data : Bytes) (isEnd : Bool) :
  Atomic (s.receiveReliable idx c id seq data isEnd) s ↔
    ¬ (s.Due id c (some seq) ∧ (s.rx.slotSize < data.length ∨ s.rx.free = 0))
  := by
  have hid := (findStream_eq_some hfind).2.1
  rw [receiveReliable, due_of_reliable hrel]
  split
  · next hlt =>
    refine iff_of_true (fun _ _ => rfl) ?_
    rintro ⟨⟨rfl, -⟩, -⟩
    exact BitVec.lt_irrefl _ hlt
  split
  · next hfar =>
    refine iff_of_true (atomic_error _ _) ?_
    rintro ⟨⟨rfl, -⟩, -⟩
    bv_omega
  split
  · next hfull =>
    refine iff_of_true (atomic_error _ _) ?_
    rintro ⟨⟨-, hroom, -⟩, -⟩
    exact Nat.not_le.mpr hroom hfull
  split
  · next hfound =>
    refine iff_of_true (fun _ _ => rfl) ?_
    rintro ⟨⟨rfl, -, hnone⟩, -⟩
    rw [hnone] at hfound
    cases hfound
  next hroom hfound =>
  by_cases hexp : seq = c.nextExpected
  · subst hexp
    have hdue : s.rxCountFor id < c.receiveCapacity.toNat ∧
        s.rx.find (fun m => m.streamId = id && m.sequence = c.nextExpected) = none :=
      ⟨Nat.not_le.mp hroom, Option.not_isSome_iff_eq_none.mp hfound⟩
    rw [← MessagePool.insert_eq_error_iff
      (m := ⟨id, c.nextExpected, isEnd, .delivered, s.nextDeliveryOrder⟩)]
    simp only [hdue, true_and, decide_true, if_true]
    split
    · next err herr => exact iff_of_false (not_atomic_of_order rfl) (not_not.mpr ⟨err, herr⟩)
    · next hok =>
      refine iff_of_true ?_ ?_
      · apply atomic_deliverAndAck hfind
        · rfl
        · exact hid
      · rintro ⟨err, herr⟩
        rw [hok] at herr
        cases herr
  · refine iff_of_true ?_ (fun h => hexp h.1.1)
    simp only [hexp, decide_false, Bool.false_eq_true, if_false]
    split
    · exact atomic_error _ _
    · apply atomic_deliverAndAck hfind
      · rfl
      · exact hid

theorem receive_atomic_iff (sequence : Option U32) (data : Bytes) (isEnd : Bool) :
  Atomic (s.receive id sequence data isEnd) s ↔
    ¬ s.Overdraws (.receive id sequence data isEnd)
  := by
  rw [receive.eq_def, Overdraws]
  split
  · next hnone =>
    refine iff_of_true (atomic_error _ _) ?_
    rintro ⟨_, _, hfind, -⟩
    rw [hnone] at hfind
    cases hfind
  next idx c hfind =>
  simp only [hfind, Option.some.injEq, Prod.mk.injEq, existsAndEq, true_and]
  split
  · next hdead => exact iff_of_true (atomic_error _ _) (fun h => h.1 hdead)
  next halive =>
  simp only [halive, not_false_eq_true, true_and]
  split
  · next hmay => exact iff_of_true (atomic_error _ _) (fun h => by simp [h.1] at hmay)
  next hmay =>
  have hmay' : remoteMaySend c = true := by simpa using hmay
  simp only [hmay', true_and]
  split
  · next err herr =>
    refine iff_of_true (atomic_error _ _) ?_
    rintro ⟨hlen, -⟩
    rw [herr] at hlen
    cases hlen
  next hlen =>
  simp only [hlen, true_and]
  split
  · next hrel => exact receiveUnreliable_atomic_iff hrel sequence data
  · next hrel =>
    have hrel' : c.profile.unreliable = false := Bool.eq_false_iff.mpr hrel
    cases sequence with
    | none =>
      refine iff_of_true (atomic_error _ _) ?_
      rintro ⟨hdue, -⟩
      rw [Due, hrel', if_neg Bool.false_ne_true] at hdue
      cases hdue.1
    | some seq => exact receiveReliable_atomic_iff hfind hrel' seq data isEnd

/-! ### All calls -/

theorem atomic_onAck (s : BoundedGtsSocket) (id : U8) (ack : Ack) :
  Atomic (s.onAck id ack) s
  := by
  rw [onAck]
  split
  · exact atomic_error _ _
  split
  · exact atomic_error _ _
  · intro err herr
    dsimp only at herr
    rw [(freeAcked_eq ..).1] at herr
    cases herr

/-- A call that fails leaves the socket as it was, unless it brings a message that is to be delivered
at once and that the pool refuses. -/
theorem call_atomic_iff (s : BoundedGtsSocket) (a : Call) :
  (∀ err, (s.call a).1 = .error err → (s.call a).2 = s) ↔ ¬ s.Overdraws a
  := by
  cases a with
  | send streamId data isEnd now =>
    rw [call]
    split
    · exact iff_of_true (atomic_error _ _) id
    · exact iff_of_true (atomic_ok _ _ _) id
  | receive streamId sequence data isEnd =>
    rw [← receive_atomic_iff, call]
    split
    · next heq =>
      rw [heq, atomic_error_iff]
      exact atomic_error_iff
    · next heq => rw [heq]; exact iff_of_true (atomic_ok _ _ _) (atomic_ok _ _ _)
  | onAck streamId ack => exact iff_of_true (atomic_onAck s streamId ack) id
  | recvInto streamId out =>
    rw [call]
    split
    · exact iff_of_true (atomic_error _ _) id
    · exact iff_of_true (atomic_ok _ _ _) id
  | addStream streamId profile openedByLocal receiveCapacity peerCredit =>
    rw [call]
    split
    · exact iff_of_true (atomic_error _ _) id
    · exact iff_of_true (atomic_ok _ _ _) id

/-- The only slot is taken when a sequenced datagram arrives, which is refused.  When the slot has
been emptied the datagram is offered again: the call succeeds and stores nothing. -/
theorem not_atomic_sequenced :
  let profile : StreamProfile := ⟨true, true, true, false, .openerToPeer, .msg128⟩
  let run := Machine.run (fun s a => (call s a).2)
  let datagram : Call := .receive 0#8 (some 1#32) [11#8] false
  ∃ socket, BoundedGtsSocket.new .responder 1#32 2#32 ⟨List.replicate 16 1#8, rfl⟩ [none] [.empty]
      [0#8] [.empty] [0#8] = .ok socket ∧
    let s := run socket [.addStream 0#8 profile false 0#8 0#8,
      .receive 0#8 (some 0#32) [10#8] false]
    (s.call datagram).1 = .error .bufferFull ∧ ¬ (s.call datagram).2 = s ∧
    let emptied := run s [datagram, .recvInto 0#8 [0#8]]
    emptied.rx.free = 1 ∧ (emptied.call datagram).1 = .ok () ∧
      (emptied.call datagram).2.rx.free = 1
  := by
  intro profile run datagram
  refine ⟨_, rfl, ?_⟩
  decide +kernel

end BoundedGtsSocket

end SmolGnet
