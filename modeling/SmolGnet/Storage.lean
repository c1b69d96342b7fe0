import SmolGnet.Basic
import SmolGnet.Library.Machine
import SmolGnet.Library.Octets
import Mathlib.Data.Finset.Card
import Mathlib.Data.Finset.Range

/-!
# Message pools

A `MessagePool` keeps messages in slots of equal size, cut from one arena of bytes that
the caller provides.  Each slot has its metadata and the length of its message; a slot
without metadata is free.

Seen from outside, a pool is a partial map from slots to messages, `get`, and each of its
operations changes this map at one slot only.  That a slot keeps its message when others
change is where the sizes matter: the slots do not overlap, they lie within the arena, and
no message is longer than its slot.  The pool carries the last two facts.
-/

namespace SmolGnet

/-- A slot: the metadata and the length of its message. -/
structure MessageSlot (M : Type) where
  metadata : Option M
  len : ℕ
  deriving DecidableEq

/-- A slot without a message. -/
def MessageSlot.empty {M : Type} : MessageSlot M where
  metadata := none
  len := 0

/-- A pool of messages in slots of equal size. -/
structure MessagePool (M : Type) where
  slots : List (MessageSlot M)
  bytes : Bytes
  slotSize : ℕ
  arena : slots.length * slotSize ≤ bytes.length
  len_le : ∀ slot ∈ slots, slot.len ≤ slotSize
  deriving DecidableEq

namespace MessagePool

variable {M : Type}

/-- A pool without messages in the storage of the caller. -/
def new (slots : List (MessageSlot M)) (bytes : Bytes) : Except Error (MessagePool M) :=
  if slots.isEmpty ∨ bytes.length < slots.length then .error .invalidLength
  else if bytes.length / slots.length = 0 then .error .invalidLength
  else
    .ok
      { slots := List.replicate slots.length .empty
        bytes := bytes
        slotSize := bytes.length / slots.length
        arena := by
          rw [List.length_replicate]
          apply Nat.mul_div_le
        len_le := by
          intro slot hslot
          rw [List.eq_of_mem_replicate hslot]
          apply Nat.zero_le }

/-- The number of slots. -/
def capacity (p : MessagePool M) : ℕ :=
  p.slots.length

/-- The number of messages. -/
def used (p : MessagePool M) : ℕ :=
  p.slots.countP (fun slot => slot.metadata.isSome)

/-- The number of free slots. -/
def free (p : MessagePool M) : ℕ :=
  p.capacity - p.used

/-- The metadata of a slot. -/
def metadata (p : MessagePool M) (idx : ℕ) : Option M :=
  match p.slots[idx]? with
  | some slot => slot.metadata
  | none => none

/-- The message in a slot. -/
def get (p : MessagePool M) (idx : ℕ) : Option (M × Bytes) :=
  match p.slots[idx]? with
  | some slot =>
    match slot.metadata with
    | some m => some (m, Octets.slice p.bytes (idx * p.slotSize) slot.len)
    | none => none
  | none => none

/-- Replace a slot by another whose message is not longer than a slot. -/
def setSlot (p : MessagePool M) (idx : ℕ) (slot : MessageSlot M) (h : slot.len ≤ p.slotSize) :
    MessagePool M :=
  { p with
    slots := p.slots.set idx slot
    arena := by
      rw [List.length_set]
      exact p.arena
    len_le := by
      intro slot' hslot'
      rcases List.mem_or_eq_of_mem_set hslot' with hmem | rfl
      · exact p.len_le slot' hmem
      · exact h }

/-- Copy a message over the bytes of a slot. -/
def write (p : MessagePool M) (idx : ℕ) (data : Bytes) (hidx : idx < p.slots.length)
    (hdata : data.length ≤ p.slotSize) : MessagePool M :=
  { p with
    bytes := Octets.copyInto p.bytes (idx * p.slotSize) data
    arena := by
      rw [Octets.length_copyInto]
      · exact p.arena
      · have hend := Nat.mul_le_mul_right p.slotSize hidx
        have harena := p.arena
        rw [Nat.succ_mul] at hend
        omega }

/-- Put a message into the first free slot. -/
def insert (p : MessagePool M) (m : M) (data : Bytes) : Except Error (ℕ × MessagePool M) :=
  if hdata : data.length ≤ p.slotSize then
    match hidx : p.slots.findIdx? (fun slot => slot.metadata.isNone) with
    | none => .error .bufferFull
    | some idx =>
      .ok (idx,
        (p.write idx data (List.findIdx?_eq_some_iff_findIdx_eq.mp hidx).1 hdata).setSlot idx
          ⟨some m, data.length⟩ hdata)
  else .error .messageTooLarge

/-- Replace the metadata of a slot that has a message. -/
def setMetadata (p : MessagePool M) (idx : ℕ) (m : M) : Except Error (MessagePool M) :=
  match h : p.slots[idx]? with
  | none => .error .invalidField
  | some slot =>
    if slot.metadata.isNone then .error .invalidState
    else
      .ok (p.setSlot idx { slot with metadata := some m }
        (p.len_le slot (List.mem_of_getElem? h)))

/-- Free a slot. -/
def clearSlot (p : MessagePool M) (idx : ℕ) : MessagePool M :=
  p.setSlot idx .empty (Nat.zero_le _)

/-- Copy the message of a slot to `out` and free the slot.  The results are the metadata,
the length and the contents of `out`. -/
def removeInto (p : MessagePool M) (idx : ℕ) (out : Bytes) :
    Except Error ((M × ℕ × Bytes) × MessagePool M) :=
  match p.slots[idx]? with
  | none => .error .invalidField
  | some slot =>
    match slot.metadata with
    | none => .error .invalidState
    | some m =>
      if out.length < slot.len then .error .bufferFull
      else
        .ok ((m, slot.len,
            Octets.copyInto out 0 (Octets.slice p.bytes (idx * p.slotSize) slot.len)),
          p.clearSlot idx)

/-- Free a slot that has a message. -/
def remove (p : MessagePool M) (idx : ℕ) : Except Error (M × MessagePool M) :=
  match p.slots[idx]? with
  | none => .error .invalidField
  | some slot =>
    match slot.metadata with
    | none => .error .invalidState
    | some m => .ok (m, p.clearSlot idx)

/-- The slots that have a message, with their metadata, in the order in which `for_each`
visits them. -/
def entries (p : MessagePool M) : List (ℕ × M) :=
  (List.range p.capacity).filterMap (fun idx => (p.metadata idx).map (fun m => (idx, m)))

/-- The first slot whose metadata satisfy the predicate. -/
def find (p : MessagePool M) (predicate : M → Bool) : Option ℕ :=
  (p.entries.find? (fun e => predicate e.2)).map Prod.fst

/-- Free all slots. -/
def clear (p : MessagePool M) : MessagePool M :=
  { p with
    slots := p.slots.map (fun _ => .empty)
    arena := by
      rw [List.length_map]
      exact p.arena
    len_le := by
      intro slot hslot
      obtain ⟨_, -, rfl⟩ := List.mem_map.mp hslot
      apply Nat.zero_le }

/-! ### A pool as a map from slots to messages -/

/-- The pool `p'` is `p` with the content of the slot `idx` replaced by `x`. -/
structure UpdatedAt (p p' : MessagePool M) (idx : ℕ) (x : Option (M × Bytes)) : Prop where
  capacity_eq : p'.capacity = p.capacity
  slotSize_eq : p'.slotSize = p.slotSize
  get_eq : p'.get = Function.update p.get idx x

variable {p p' : MessagePool M} {idx : ℕ} {m : M} {data : Bytes}

theorem metadata_eq_map (p : MessagePool M) (idx : ℕ) :
  p.metadata idx = (p.get idx).map Prod.fst
  := by
  rw [metadata, get]
  split
  · next slot _ => cases slot.metadata <;> rfl
  · rfl

theorem metadata_eq_some :
  p.metadata idx = some m ↔ ∃ data, p.get idx = some (m, data)
  := by
  simp [metadata_eq_map]

theorem lt_capacity_of_get {x : M × Bytes} (h : p.get idx = some x) :
  idx < p.capacity
  := by
  rw [get] at h
  split at h
  · next slot hslot => exact (List.getElem?_eq_some_iff.mp hslot).1
  · cases h

/-- A slot that has a message. -/
theorem get_eq_some :
  p.get idx = some (m, data) ↔ ∃ slot, p.slots[idx]? = some slot ∧ slot.metadata = some m ∧
    data = Octets.slice p.bytes (idx * p.slotSize) slot.len
  := by
  rw [get]
  cases hslot : p.slots[idx]? with
  | none => simp
  | some slot =>
    cases hm : slot.metadata with
    | none => simp [hm]
    | some m' => simp [hm, eq_comm]

/-- The bytes of the slots are within the arena. -/
theorem slot_end_le (p : MessagePool M) (h : idx < p.slots.length) :
  idx * p.slotSize + p.slotSize ≤ p.bytes.length
  := by
  have hend := Nat.mul_le_mul_right p.slotSize h
  rw [Nat.succ_mul] at hend
  exact Nat.le_trans hend p.arena

/-- A message is as long as its slot says, and no longer than a slot. -/
theorem length_of_get {slot : MessageSlot M} (hslot : p.slots[idx]? = some slot) :
  (Octets.slice p.bytes (idx * p.slotSize) slot.len).length = slot.len ∧ slot.len ≤ p.slotSize
  := by
  have hend := p.slot_end_le (List.getElem?_eq_some_iff.mp hslot).1
  have hlen := p.len_le slot (List.mem_of_getElem? hslot)
  constructor
  · rw [Octets.slice, List.length_take, List.length_drop]
    omega
  · exact hlen

/-- Two different slots do not overlap. -/
theorem slots_disjoint {i j k n n' : ℕ} (hij : i ≠ j) (hn : n ≤ k) (hn' : n' ≤ k) :
  i * k + n ≤ j * k ∨ j * k + n' ≤ i * k
  := by
  rcases Nat.lt_or_gt_of_ne hij with hlt | hlt
  · have := Nat.mul_le_mul_right k hlt
    rw [Nat.succ_mul] at this
    omega
  · have := Nat.mul_le_mul_right k hlt
    rw [Nat.succ_mul] at this
    omega

theorem capacity_setSlot (p : MessagePool M) (idx : ℕ) (slot : MessageSlot M)
    (h : slot.len ≤ p.slotSize) :
  (p.setSlot idx slot h).capacity = p.capacity
  := List.length_set

/-- Replacing a slot changes what is seen at this slot only. -/
theorem get_setSlot (p : MessagePool M) {slot : MessageSlot M} (h : slot.len ≤ p.slotSize)
    (hidx : idx < p.slots.length) :
  (p.setSlot idx slot h).get = Function.update p.get idx
    (slot.metadata.map (fun m => (m, Octets.slice p.bytes (idx * p.slotSize) slot.len)))
  := by
  funext i
  by_cases hi : i = idx
  · subst hi
    rw [Function.update_self, get, setSlot]
    simp only [List.getElem?_set_self hidx]
    cases slot.metadata <;> rfl
  · rw [Function.update_of_ne hi, get, get, setSlot]
    simp only [List.getElem?_set_ne (Ne.symm hi)]

/-- Writing to a slot leaves the messages in the other slots as they are. -/
theorem get_write (p : MessagePool M) (hidx : idx < p.slots.length)
    (hdata : data.length ≤ p.slotSize) {i : ℕ} (hi : i ≠ idx) :
  (p.write idx data hidx hdata).get i = p.get i
  := by
  rw [get, get, write]
  cases hslot : p.slots[i]? with
  | none => rfl
  | some slot =>
    have hlen := (p.length_of_get hslot).2
    have hend := p.slot_end_le hidx
    simp only
    rw [Octets.slice_copyInto_of_disjoint (by omega) (slots_disjoint hi hlen hdata)]

/-- A message goes into a free slot. -/
theorem insert_eq_ok (h : p.insert m data = .ok (idx, p')) :
  data.length ≤ p.slotSize ∧ p.get idx = none ∧ idx < p.capacity ∧
    p.UpdatedAt p' idx (some (m, data))
  := by
  rw [insert] at h
  split at h
  · next hdata =>
    split at h
    · cases h
    · next i hi =>
      cases h
      obtain ⟨hidx, hfree, -⟩ := List.findIdx?_eq_some_iff_getElem.mp hi
      have hslot : p.slots[idx]? = some p.slots[idx] := List.getElem?_eq_getElem hidx
      refine ⟨hdata, ?_, hidx, capacity_setSlot _ _ _ _, rfl, ?_⟩
      · rw [get, hslot]
        simp only [Option.isNone_iff_eq_none.mp hfree]
      · apply (get_setSlot (p.write idx data hidx hdata) hdata hidx).trans
        funext i
        by_cases hi : i = idx
        · subst hi
          simp only [Function.update_self, Option.map_some, write]
          rw [Octets.slice_copyInto]
          have hend := p.slot_end_le hidx
          omega
        · rw [Function.update_of_ne hi, Function.update_of_ne hi, p.get_write hidx hdata hi]
  · cases h

/-- A message that fits finds a free slot as long as there is one. -/
theorem exists_insert (hdata : data.length ≤ p.slotSize) (hfree : 0 < p.free) (m : M) :
  ∃ idx p', p.insert m data = .ok (idx, p')
  := by
  rw [insert, dif_pos hdata]
  split
  · next hnone =>
    have hall : p.used = p.capacity := by
      rw [used, capacity, List.countP_eq_length]
      intro slot hslot
      rw [← Option.not_isNone, List.findIdx?_eq_none_iff.mp hnone slot hslot]
      rfl
    rw [free, hall, Nat.sub_self] at hfree
    cases hfree
  · exact ⟨_, _, rfl⟩

/-- The metadata of a message are replaced. -/
theorem setMetadata_of_get {m' : M} (h : p.get idx = some (m', data)) (m : M) :
  ∃ p', p.setMetadata idx m = .ok p' ∧ p.UpdatedAt p' idx (some (m, data))
  := by
  obtain ⟨slot, hslot, hm, rfl⟩ := get_eq_some.mp h
  rw [setMetadata]
  split
  · next hnone => simp [hslot] at hnone
  · next slot' hslot' =>
    obtain rfl : slot = slot' := Option.some.inj (hslot.symm.trans hslot')
    rw [if_neg (by simp [hm])]
    exact ⟨_, rfl, capacity_setSlot _ _ _ _, rfl,
      get_setSlot _ _ (List.getElem?_eq_some_iff.mp hslot).1⟩

/-- A slot is freed. -/
theorem clearSlot_updatedAt {x : M × Bytes} (h : p.get idx = some x) :
  p.UpdatedAt (p.clearSlot idx) idx none
  := ⟨capacity_setSlot _ _ _ _, rfl, get_setSlot _ _ (lt_capacity_of_get h)⟩

theorem remove_of_get (h : p.get idx = some (m, data)) :
  p.remove idx = .ok (m, p.clearSlot idx)
  := by
  obtain ⟨slot, hslot, hm, -⟩ := get_eq_some.mp h
  rw [remove, hslot]
  simp only [hm]

/-- A message is copied when there is room for it, and then its slot is freed. -/
theorem removeInto_of_get (h : p.get idx = some (m, data)) (out : Bytes) :
  p.removeInto idx out =
    if out.length < data.length then .error .bufferFull
    else .ok ((m, data.length, data ++ out.drop data.length), p.clearSlot idx)
  := by
  obtain ⟨slot, hslot, hm, rfl⟩ := get_eq_some.mp h
  rw [removeInto, hslot]
  simp only [hm, (p.length_of_get hslot).1, Octets.copyInto_zero]

/-- A new pool has no messages. -/
theorem get_of_new {slots : List (MessageSlot M)} {bytes : Bytes} (h : new slots bytes = .ok p)
    (idx : ℕ) :
  p.get idx = none
  := by
  rw [new] at h
  split at h
  · cases h
  · split at h
    · cases h
    · cases h
      rw [get]
      split
      · next slot hslot =>
        rw [List.eq_of_mem_replicate (List.mem_of_getElem? hslot)]
        rfl
      · rfl

/-! ### Searching a pool -/

theorem mem_entries :
  (idx, m) ∈ p.entries ↔ p.metadata idx = some m
  := by
  rw [entries, List.mem_filterMap]
  constructor
  · rintro ⟨i, -, hi⟩
    obtain ⟨m', hm', heq⟩ := Option.map_eq_some_iff.mp hi
    cases heq
    exact hm'
  · intro h
    obtain ⟨data, hget⟩ := metadata_eq_some.mp h
    exact ⟨idx, List.mem_range.mpr (lt_capacity_of_get hget), by rw [h, Option.map_some]⟩

theorem nodup_entries (p : MessagePool M) :
  p.entries.Nodup
  := by
  apply List.Nodup.filterMap _ List.nodup_range
  intro i j e hi hj
  obtain ⟨m, -, rfl⟩ := Option.map_eq_some_iff.mp hi
  obtain ⟨m', -, heq⟩ := Option.map_eq_some_iff.mp hj
  exact (congrArg Prod.fst heq).symm

theorem find_eq_some {predicate : M → Bool} (h : p.find predicate = some idx) :
  ∃ m, p.metadata idx = some m ∧ predicate m = true
  := by
  obtain ⟨⟨i, m⟩, hfind, rfl⟩ := Option.map_eq_some_iff.mp h
  use m, mem_entries.mp (List.mem_of_find?_eq_some hfind)
  exact @List.find?_some _ (fun e : ℕ × M => predicate e.2) _ _ hfind

theorem find_eq_none {predicate : M → Bool} :
  p.find predicate = none ↔ ∀ idx m, p.metadata idx = some m → predicate m = false
  := by
  rw [find, Option.map_eq_none_iff, List.find?_eq_none]
  constructor
  · intro h idx m hm
    simpa using h (idx, m) (mem_entries.mpr hm)
  · rintro h ⟨idx, m⟩ hmem
    simpa using h idx m (mem_entries.mp hmem)

/-! ### Counting messages -/

/-- The number of messages whose metadata satisfy the predicate. -/
def count (p : MessagePool M) (predicate : M → Bool) : ℕ :=
  p.slots.countP (fun slot => slot.metadata.any predicate)

theorem used_eq_count (p : MessagePool M) :
  p.used = p.count (fun _ => true)
  := by
  rw [used, count]
  apply List.countP_congr
  intro slot _
  cases slot.metadata <;> simp

theorem used_le_capacity (p : MessagePool M) :
  p.used ≤ p.capacity
  := List.countP_le_length

/-- The slots of a list are visited in order. -/
theorem countP_range {α : Type} (l : List α) (predicate : α → Bool) :
  (List.range l.length).countP (fun idx => l[idx]?.any predicate) = l.countP predicate
  := by
  induction l using List.reverseRecOn with
  | nil => rfl
  | append_singleton l a ih =>
    rw [List.length_append, List.length_singleton, List.range_succ, List.countP_append,
      List.countP_append, ← ih]
    congr 1
    · apply List.countP_congr
      intro idx hidx
      rw [List.getElem?_append_left (List.mem_range.mp hidx)]
    · simp

theorem countP_entries (p : MessagePool M) (predicate : M → Bool) :
  p.entries.countP (fun e => predicate e.2) = p.count predicate
  := by
  rw [entries, List.countP_filterMap, count, ← countP_range p.slots, capacity]
  apply List.countP_congr
  intro idx _
  rw [metadata]
  cases p.slots[idx]? with
  | none => simp
  | some slot => cases hm : slot.metadata <;> simp [hm]

/-- A slot is replaced. -/
theorem count_setSlot {slot old : MessageSlot M} (h : slot.len ≤ p.slotSize)
    (hold : p.slots[idx]? = some old) (predicate : M → Bool) :
  (p.setSlot idx slot h).count predicate + (old.metadata.any predicate).toNat
    = p.count predicate + (slot.metadata.any predicate).toNat
  := by
  obtain ⟨hidx, rfl⟩ := List.getElem?_eq_some_iff.mp hold
  rw [count, count, setSlot]
  dsimp only
  rw [List.countP_set hidx]
  have hpos : p.slots[idx].metadata.any predicate = true →
      0 < p.slots.countP (fun slot => slot.metadata.any predicate) :=
    fun hany => List.countP_pos_iff.mpr ⟨_, List.getElem_mem hidx, hany⟩
  cases hany : p.slots[idx].metadata.any predicate with
  | false => cases slot.metadata.any predicate <;> simp
  | true =>
    have hcount := hpos hany
    cases slot.metadata.any predicate <;> simp <;> omega

/-- A message that is put into the pool is counted. -/
theorem count_insert (h : p.insert m data = .ok (idx, p')) (predicate : M → Bool) :
  p'.count predicate = p.count predicate + (predicate m).toNat
  := by
  rw [insert] at h
  split at h
  · next hdata =>
    split at h
    · cases h
    · next i hi =>
      cases h
      obtain ⟨hidx, hfree, -⟩ := List.findIdx?_eq_some_iff_getElem.mp hi
      have hslot : p.slots[idx]? = some p.slots[idx] := List.getElem?_eq_getElem hidx
      have hcount := @count_setSlot _ (p.write idx data hidx hdata) idx ⟨some m, data.length⟩ _
        hdata hslot predicate
      rw [Option.isNone_iff_eq_none.mp hfree] at hcount
      exact hcount
  · cases h

/-- A message that is taken out of the pool is not counted any more. -/
theorem count_clearSlot (h : p.get idx = some (m, data)) (predicate : M → Bool) :
  (p.clearSlot idx).count predicate + (predicate m).toNat = p.count predicate
  := by
  obtain ⟨slot, hslot, hm, -⟩ := get_eq_some.mp h
  have hcount := @count_setSlot _ p idx .empty slot (Nat.zero_le _) hslot predicate
  rw [hm] at hcount
  exact hcount

/-- The metadata of a message are replaced. -/
theorem count_setMetadata {m' : M} (h : p.get idx = some (m', data))
    (hp : p.setMetadata idx m = .ok p') {predicate : M → Bool} (heq : predicate m = predicate m') :
  p'.count predicate = p.count predicate
  := by
  obtain ⟨slot, hslot, hm, -⟩ := get_eq_some.mp h
  rw [setMetadata] at hp
  split at hp
  · cases hp
  · next slot' hslot' =>
    obtain rfl : slot = slot' := Option.some.inj (hslot.symm.trans hslot')
    split at hp
    · cases hp
    · cases hp
      have hcount := @count_setSlot _ p idx { slot with metadata := some m } slot
        (p.len_le slot (List.mem_of_getElem? hslot)) hslot predicate
      rw [hm, Option.any_some, Option.any_some, heq] at hcount
      exact Nat.add_right_cancel hcount

/-! ### The map a pool is -/

/-- A call on a pool. -/
inductive Call (M : Type)
  | insert (m : M) (data : Bytes)
  | setMetadata (idx : ℕ) (m : M)
  | remove (idx : ℕ)
  | removeInto (idx : ℕ) (out : Bytes)
  | clear

/-- A pool, and what was put into its slots and not removed since. -/
structure Tracked (M : Type) where
  pool : MessagePool M
  contents : ℕ → Option (M × Bytes)

/-- A call is made, and the contents follow its result.  A call that fails returns no other pool. -/
def Tracked.step (s : Tracked M) : Call M → Tracked M
  | .insert m data =>
    match s.pool.insert m data with
    | .ok (idx, p) => ⟨p, Function.update s.contents idx (some (m, data))⟩
    | .error _ => s
  | .setMetadata idx m =>
    match s.pool.setMetadata idx m with
    | .ok p => ⟨p, Function.update s.contents idx ((s.contents idx).map (fun x => (m, x.2)))⟩
    | .error _ => s
  | .remove idx =>
    match s.pool.remove idx with
    | .ok (_, p) => ⟨p, Function.update s.contents idx none⟩
    | .error _ => s
  | .removeInto idx out =>
    match s.pool.removeInto idx out with
    | .ok (_, p) => ⟨p, Function.update s.contents idx none⟩
    | .error _ => s
  | .clear => ⟨s.pool.clear, fun _ => none⟩

/-- What a call on a slot gives: `f` of the message in the slot, or the reason why there is none. -/
def onSlot {α : Type} (p : MessagePool M) (contents : ℕ → Option (M × Bytes)) (idx : ℕ)
    (f : M → Bytes → Except Error α) : Except Error α :=
  match contents idx with
  | some (m, data) => f m data
  | none => .error (if idx < p.capacity then .invalidState else .invalidField)

/-- From outside the pool is a map: it returns what the map has, all slots lie in the arena, it counts
the slots that are in use, a message goes into a slot that is free, and is refused exactly if it is too
long or no slot is free, and the other calls give what belongs to the message in their slot. -/
structure IsMap (p : MessagePool M) (contents : ℕ → Option (M × Bytes)) : Prop where
  get : ∀ idx, p.get idx = contents idx
  in_arena : ∀ idx slot, p.slots[idx]? = some slot →
    idx * p.slotSize + slot.len ≤ p.bytes.length ∧
    idx * p.slotSize + p.slotSize ≤ p.bytes.length
  used : p.used = (List.range p.capacity).countP (fun idx => (contents idx).isSome)
  insert_ok : ∀ m data idx p', p.insert m data = .ok (idx, p') →
    idx < p.capacity ∧ contents idx = none
  insert_error : ∀ m data err, p.insert m data = .error err ↔
    (err = .messageTooLarge ∧ p.slotSize < data.length) ∨
    (err = .bufferFull ∧ data.length ≤ p.slotSize ∧ ∀ idx < p.capacity, (contents idx).isSome)
  insert_unchanged : ∀ m data err, p.insert m data = .error err →
    Tracked.step ⟨p, contents⟩ (.insert m data) = ⟨p, contents⟩
  setMetadata : ∀ idx m,
    (p.setMetadata idx m).map (fun _ => ()) = p.onSlot contents idx (fun _ _ => .ok ())
  remove : ∀ idx, (p.remove idx).map Prod.fst = p.onSlot contents idx (fun m _ => .ok m)
  removeInto : ∀ idx out, (p.removeInto idx out).map Prod.fst
    = p.onSlot contents idx (fun m data => if out.length < data.length then .error .bufferFull
      else .ok (m, data.length, data ++ out.drop data.length))

/-- Why there is no message in a slot. -/
theorem slots_of_get_eq_none (h : p.get idx = none) :
  (p.capacity ≤ idx ∧ p.slots[idx]? = none) ∨
    (idx < p.capacity ∧ ∃ slot, p.slots[idx]? = some slot ∧ slot.metadata = none)
  := by
  cases hslot : p.slots[idx]? with
  | none => exact .inl ⟨List.getElem?_eq_none_iff.mp hslot, rfl⟩
  | some slot =>
    refine .inr ⟨(List.getElem?_eq_some_iff.mp hslot).1, slot, rfl, ?_⟩
    cases hm : slot.metadata with
    | none => rfl
    | some m =>
      rw [get_eq_some.mpr ⟨slot, hslot, hm, rfl⟩] at h
      cases h

/-- The calls on a slot that has no message. -/
theorem calls_of_get_eq_none (h : p.get idx = none) :
  let err : Error := if idx < p.capacity then .invalidState else .invalidField
  (∀ m, p.setMetadata idx m = .error err) ∧ p.remove idx = .error err ∧
    ∀ out, p.removeInto idx out = .error err
  := by
  intro err
  obtain ⟨hidx, hslot⟩ | ⟨hidx, slot, hslot, hm⟩ := slots_of_get_eq_none h
  · have herr : err = .invalidField := if_neg (Nat.not_lt.mpr hidx)
    rw [herr]
    refine ⟨?_, by rw [MessagePool.remove, hslot], fun _ => by rw [MessagePool.removeInto, hslot]⟩
    intro m
    rw [MessagePool.setMetadata]
    split
    · rfl
    · next heq => simp [hslot] at heq
  · have herr : err = .invalidState := if_pos hidx
    rw [herr]
    refine ⟨?_, ?_, ?_⟩
    · intro m
      rw [MessagePool.setMetadata]
      split
      · next heq => simp [hslot] at heq
      · next slot' heq =>
        obtain rfl : slot = slot' := Option.some.inj (hslot.symm.trans heq)
        rw [if_pos (by rw [hm]; rfl)]
    · rw [MessagePool.remove, hslot]
      simp only [hm]
    · intro out
      rw [MessagePool.removeInto, hslot]
      simp only [hm]

theorem setMetadata_eq_ok (h : p.setMetadata idx m = .ok p') :
  ∃ m' data, p.get idx = some (m', data) ∧ p.UpdatedAt p' idx (some (m, data)) ∧
    p'.bytes = p.bytes
  := by
  have hok := h
  rw [setMetadata] at h
  split at h
  · cases h
  · next slot hslot =>
    cases hm : slot.metadata with
    | none => simp [hm] at h
    | some m' =>
      have hget : p.get idx = some (m', _) := get_eq_some.mpr ⟨slot, hslot, hm, rfl⟩
      obtain ⟨p'', hok', hupdated⟩ := setMetadata_of_get hget m
      cases hok.symm.trans hok'
      refine ⟨m', _, hget, hupdated, ?_⟩
      simp only [hm, Option.isNone_some, Bool.false_eq_true, if_false] at h
      cases h
      rfl

theorem remove_eq_ok (h : p.remove idx = .ok (m, p')) :
  ∃ data, p.get idx = some (m, data) ∧ p' = p.clearSlot idx
  := by
  rw [remove] at h
  split at h
  · cases h
  · next slot hslot =>
    split at h
    · cases h
    · next hm =>
      cases h
      exact ⟨_, get_eq_some.mpr ⟨slot, hslot, hm, rfl⟩, rfl⟩

theorem removeInto_eq_ok {out : Bytes} {x : M × ℕ × Bytes}
    (h : p.removeInto idx out = .ok (x, p')) :
  ∃ data, p.get idx = some (x.1, data) ∧ p' = p.clearSlot idx
  := by
  rw [removeInto] at h
  split at h
  · cases h
  · next slot hslot =>
    split at h
    · cases h
    · next hm =>
      split at h
      · cases h
      · cases h
        exact ⟨_, get_eq_some.mpr ⟨slot, hslot, hm, rfl⟩, rfl⟩

theorem length_bytes_of_insert (h : p.insert m data = .ok (idx, p')) :
  p'.bytes.length = p.bytes.length
  := by
  obtain ⟨hdata, -, hidx, -⟩ := insert_eq_ok h
  rw [insert, dif_pos hdata] at h
  split at h
  · cases h
  · cases h
    have hend := p.slot_end_le hidx
    exact Octets.length_copyInto (by omega)

theorem get_clear (p : MessagePool M) (idx : ℕ) :
  p.clear.get idx = none
  := by
  rw [Option.eq_none_iff_forall_ne_some]
  rintro ⟨m, data⟩ h
  obtain ⟨slot, hslot, hm, -⟩ := get_eq_some.mp h
  rw [clear] at hslot
  obtain ⟨_, -, rfl⟩ := List.mem_map.mp (List.mem_of_getElem? hslot)
  cases hm

/-- A slot has a message if it is in use. -/
theorem isSome_get (p : MessagePool M) (idx : ℕ) :
  (p.get idx).isSome = p.slots[idx]?.any (fun slot => slot.metadata.isSome)
  := by
  rw [get]
  cases p.slots[idx]? with
  | none => rfl
  | some slot => cases hm : slot.metadata <;> simp [hm]

/-- A message is refused exactly if it is too long or no slot is free. -/
theorem insert_error_iff {err : Error} :
  p.insert m data = .error err ↔
    (err = .messageTooLarge ∧ p.slotSize < data.length) ∨
    (err = .bufferFull ∧ data.length ≤ p.slotSize ∧ ∀ idx < p.capacity, (p.get idx).isSome)
  := by
  rw [insert]
  by_cases hdata : data.length ≤ p.slotSize
  · rw [dif_pos hdata]
    split
    · next hnone =>
      have hall : ∀ idx < p.capacity, (p.get idx).isSome := by
        intro idx hidx
        rw [isSome_get, List.getElem?_eq_getElem hidx, Option.any_some, ← Option.not_isNone,
          List.findIdx?_eq_none_iff.mp hnone _ (List.getElem_mem hidx)]
        rfl
      simp only [Except.error.injEq]
      constructor
      · intro herr
        exact .inr ⟨herr.symm, hdata, hall⟩
      · rintro (⟨-, hlt⟩ | ⟨herr, -⟩)
        · omega
        · exact herr.symm
    · next idx hsome =>
      obtain ⟨hidx, hfree, -⟩ := List.findIdx?_eq_some_iff_getElem.mp hsome
      constructor
      · intro h
        cases h
      · rintro (⟨-, hlt⟩ | ⟨-, -, hall⟩)
        · omega
        · have hused := hall idx hidx
          rw [isSome_get, List.getElem?_eq_getElem hidx, Option.any_some, ← Option.not_isNone, hfree]
            at hused
          cases hused
  · rw [dif_neg hdata]
    simp only [Except.error.injEq]
    constructor
    · intro herr
      exact .inl ⟨herr.symm, by omega⟩
    · rintro (⟨herr, -⟩ | ⟨-, hle, -⟩)
      · exact herr.symm
      · exact absurd hle hdata

theorem setMetadata_eq_onSlot (p : MessagePool M) (idx : ℕ) (m : M) :
  (p.setMetadata idx m).map (fun _ => ()) = p.onSlot p.get idx (fun _ _ => .ok ())
  := by
  rw [onSlot]
  cases hx : p.get idx with
  | none =>
    rw [(calls_of_get_eq_none hx).1]
    rfl
  | some x =>
    obtain ⟨p', hok, -⟩ := setMetadata_of_get hx m
    rw [hok]
    rfl

theorem remove_eq_onSlot (p : MessagePool M) (idx : ℕ) :
  (p.remove idx).map Prod.fst = p.onSlot p.get idx (fun m _ => .ok m)
  := by
  rw [onSlot]
  cases hx : p.get idx with
  | none =>
    rw [(calls_of_get_eq_none hx).2.1]
    rfl
  | some x =>
    rw [remove_of_get hx]
    rfl

theorem removeInto_eq_onSlot (p : MessagePool M) (idx : ℕ) (out : Bytes) :
  (p.removeInto idx out).map Prod.fst
    = p.onSlot p.get idx (fun m data => if out.length < data.length then .error .bufferFull
      else .ok (m, data.length, data ++ out.drop data.length))
  := by
  rw [onSlot]
  cases hx : p.get idx with
  | none =>
    rw [(calls_of_get_eq_none hx).2.2]
    rfl
  | some x =>
    rw [removeInto_of_get hx]
    dsimp only
    split
    · rfl
    · rfl

/-- A pool that returns what the map has is the map in all respects. -/
theorem isMap_of_get {contents : ℕ → Option (M × Bytes)} (hget : ∀ idx, p.get idx = contents idx) :
  p.IsMap contents
  := by
  obtain rfl : p.get = contents := funext hget
  refine ⟨hget, ?_, ?_, ?_, ?_, ?_, p.setMetadata_eq_onSlot, p.remove_eq_onSlot,
    p.removeInto_eq_onSlot⟩
  · intro idx slot hslot
    have hend := p.slot_end_le (List.getElem?_eq_some_iff.mp hslot).1
    have hlen := p.len_le slot (List.mem_of_getElem? hslot)
    omega
  · simp only [isSome_get]
    exact (countP_range p.slots _).symm
  · intro m data idx p' hok
    obtain ⟨-, hfree, hidx, -⟩ := insert_eq_ok hok
    exact ⟨hidx, hfree⟩
  · intro m data err
    apply insert_error_iff
  · intro m data err h
    rw [Tracked.step, h]

/-- The sizes stay, and the pool returns what was put into it. -/
structure Tracked.Follows (s : Tracked M) (capacity slotSize arena : ℕ) : Prop where
  capacity_eq : s.pool.capacity = capacity
  slotSize_eq : s.pool.slotSize = slotSize
  arena_eq : s.pool.bytes.length = arena
  get_eq : s.pool.get = s.contents

theorem Tracked.Follows.step {s : Tracked M} {capacity slotSize arena : ℕ}
    (h : s.Follows capacity slotSize arena) (call : Call M) :
  (s.step call).Follows capacity slotSize arena
  := by
  obtain ⟨hcapacity, hsize, harena, hget⟩ := h
  have hupdated : ∀ {p' : MessagePool M} {idx : ℕ} {x x' : Option (M × Bytes)},
      s.pool.UpdatedAt p' idx x → p'.bytes.length = s.pool.bytes.length → x = x' →
      Follows ⟨p', Function.update s.contents idx x'⟩ capacity slotSize arena := by
    rintro p' idx x x' hp hbytes rfl
    refine ⟨hp.capacity_eq.trans hcapacity, hp.slotSize_eq.trans hsize, hbytes.trans harena, ?_⟩
    rw [hp.get_eq, hget]
  cases call with
  | insert m data =>
    rw [Tracked.step]
    split
    · next hok =>
      obtain ⟨-, -, -, hp⟩ := insert_eq_ok hok
      exact hupdated hp (length_bytes_of_insert hok) rfl
    · exact ⟨hcapacity, hsize, harena, hget⟩
  | setMetadata idx m =>
    rw [Tracked.step]
    split
    · next hok =>
      obtain ⟨m', data, hslot, hp, hbytes⟩ := setMetadata_eq_ok hok
      apply hupdated hp (congrArg List.length hbytes)
      rw [← hget, hslot]
      rfl
    · exact ⟨hcapacity, hsize, harena, hget⟩
  | remove idx =>
    rw [Tracked.step]
    split
    · next hok =>
      obtain ⟨data, hslot, rfl⟩ := remove_eq_ok hok
      exact hupdated (clearSlot_updatedAt hslot) rfl rfl
    · exact ⟨hcapacity, hsize, harena, hget⟩
  | removeInto idx out =>
    rw [Tracked.step]
    split
    · next hok =>
      obtain ⟨data, hslot, rfl⟩ := removeInto_eq_ok hok
      exact hupdated (clearSlot_updatedAt hslot) rfl rfl
    · exact ⟨hcapacity, hsize, harena, hget⟩
  | clear =>
    rw [Tracked.step]
    refine ⟨?_, hsize, harena, ?_⟩
    · rw [MessagePool.capacity, MessagePool.clear, List.length_map]
      exact hcapacity
    · funext idx
      exact get_clear _ idx

/-- Whatever calls are made on a new pool, it is the map from its slots to what was put into them, and
its sizes are those that it was made with. -/
theorem slots_isolated {slots : List (MessageSlot M)} {bytes : Bytes} (h : new slots bytes = .ok p)
    (calls : List (Call M)) :
  (Machine.run Tracked.step ⟨p, fun _ => none⟩ calls).pool.IsMap
    (Machine.run Tracked.step ⟨p, fun _ => none⟩ calls).contents ∧
  (Machine.run Tracked.step ⟨p, fun _ => none⟩ calls).pool.capacity = slots.length ∧
  (Machine.run Tracked.step ⟨p, fun _ => none⟩ calls).pool.slotSize = bytes.length / slots.length ∧
  (Machine.run Tracked.step ⟨p, fun _ => none⟩ calls).pool.bytes.length = bytes.length
  := by
  have hstart : Tracked.Follows ⟨p, fun _ => none⟩ slots.length (bytes.length / slots.length)
      bytes.length := by
    refine ⟨?_, ?_, ?_, funext (get_of_new h)⟩
    all_goals
      rw [new] at h
      split at h
      · cases h
      · split at h
        · cases h
        · cases h
          first | exact List.length_replicate | rfl
  have hrun := Machine.invariant_run
    (P := fun s : Tracked M => s.Follows slots.length (bytes.length / slots.length) bytes.length)
    (fun s call hs => hs.step call) hstart calls
  exact ⟨isMap_of_get (congrFun hrun.get_eq), hrun.capacity_eq, hrun.slotSize_eq, hrun.arena_eq⟩

/-- Two slots in an arena of five bytes; the first one is used twice. -/
theorem slots_isolated_reused :
  ∃ p : MessagePool ℕ, new [.empty, .empty] [0#8, 0#8, 0#8, 0#8, 0#8] = .ok p ∧
    (Machine.run Tracked.step ⟨p, fun _ => none⟩ [.insert 7 [1#8, 2#8], .insert 8 [3#8],
      .setMetadata 1 6, .remove 0, .insert 9 [4#8]]).pool.IsMap
    (Machine.run Tracked.step ⟨p, fun _ => none⟩ [.insert 7 [1#8, 2#8], .insert 8 [3#8],
      .setMetadata 1 6, .remove 0, .insert 9 [4#8]]).contents
  := by
  have h : ∃ p : MessagePool ℕ, new [.empty, .empty] [0#8, 0#8, 0#8, 0#8, 0#8] = .ok p := ⟨_, rfl⟩
  obtain ⟨p, hp⟩ := h
  exact ⟨p, hp, (slots_isolated hp _).1⟩

end MessagePool

end SmolGnet
