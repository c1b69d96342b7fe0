import SmolGnet.Basic
import SmolGnet.Library.Wheel
import SmolGnet.Library.Machine
import Mathlib.Data.List.ReduceOption

/-!
# Sets of sockets

A set of sockets is a list of slots, each with a generation and a socket or none.  A handle
names a slot and its generation; when the socket is removed, the slot goes on to the next
generation, so that the handle is of no use any more.  There are 65535 generations, and
after them the first one comes again: a handle is good or lost as it should be unless its slot
is taken when a positive multiple of 65535 sockets have been removed from it.
-/

namespace SmolGnet

/-- What a socket is named by. -/
structure SocketHandle where
  index : U16
  generation : U16
  deriving DecidableEq, Repr

/-- The generation after `generation`, `generation.wrapping_add(1).max(1)`. -/
def nextSocketGeneration (generation : U16) : U16 :=
  if generation + 1#16 < 1#16 then 1#16 else generation + 1#16

theorem nextSocketGeneration_ne (generation : U16) :
  nextSocketGeneration generation ≠ 0#16
  := by
  rw [nextSocketGeneration]
  split
  · decide
  · next h =>
    intro hzero
    rw [hzero] at h
    exact h (by decide)

/-- A slot. -/
structure SocketStorage (T : Type) where
  generation : U16
  value : Option T
  generation_ne : generation ≠ 0#16

namespace SocketStorage

variable {T : Type}

/-- A slot that has never been taken. -/
def empty : SocketStorage T where
  generation := 1#16
  value := none
  generation_ne := by decide

/-- The slot with a socket in it. -/
def fill (slot : SocketStorage T) (value : T) : SocketStorage T :=
  { slot with value := some value }

/-- The slot after its socket has been removed. -/
def clear (slot : SocketStorage T) : SocketStorage T where
  generation := nextSocketGeneration slot.generation
  value := none
  generation_ne := nextSocketGeneration_ne slot.generation

/-! ### What a handle resolves to -/

/-- The slot of a handle and the socket in it. -/
def checkedSlot (storage : List (SocketStorage T)) (handle : SocketHandle) :
    Except Error (SocketStorage T × T) :=
  match storage[handle.index.toNat]? with
  | none => .error .invalidField
  | some slot =>
    if slot.generation ≠ handle.generation then .error .invalidState
    else
      match slot.value with
      | none => .error .invalidState
      | some value => .ok (slot, value)

/-- The socket of a handle. -/
def get (storage : List (SocketStorage T)) (handle : SocketHandle) : Except Error T :=
  (checkedSlot storage handle).map (fun found => found.2)

/-- The socket of a handle, and the slots after another one has been written over it. -/
def getMut (storage : List (SocketStorage T)) (handle : SocketHandle) :
    Except Error (T × (T → List (SocketStorage T))) :=
  (checkedSlot storage handle).map
    (fun found => (found.2, fun value => storage.set handle.index.toNat (found.1.fill value)))

/-- Take the socket of a handle out of its slot. -/
def remove (storage : List (SocketStorage T)) (handle : SocketHandle) :
    Except Error (T × List (SocketStorage T)) :=
  (checkedSlot storage handle).map
    (fun found => (found.2, storage.set handle.index.toNat found.1.clear))

/-- The first slot that is not taken, and its place. -/
def firstFree (storage : List (SocketStorage T)) : Option (SocketStorage T × ℕ) :=
  storage.zipIdx.find? (fun slot => slot.1.value.isNone)

/-- Put a socket into a slot that is not taken. -/
def fillAt (storage : List (SocketStorage T)) (slot : SocketStorage T) (index : ℕ) (value : T) :
    Except Error (SocketHandle × List (SocketStorage T)) :=
  if 0xffff < index then .error .bufferFull
  else .ok (⟨.ofNat 16 index, slot.generation⟩, storage.set index (slot.fill value))

end SocketStorage

open SocketStorage

/-- Add a socket to a set whose slots have been provided by the caller. -/
def SocketSet.add {T : Type} (storage : List (SocketStorage T)) (value : T) :
    Except Error (SocketHandle × List (SocketStorage T)) :=
  match firstFree storage with
  | none => .error .bufferFull
  | some (slot, index) => fillAt storage slot index value

/-- Add a socket to a set that makes new slots when all are taken. -/
def OwnedSocketSet.add {T : Type} (storage : List (SocketStorage T)) (value : T) :
    Except Error (SocketHandle × List (SocketStorage T)) :=
  match firstFree storage with
  | some (slot, index) => fillAt storage slot index value
  | none =>
    if 0xffff < storage.length then .error .bufferFull
    else
      .ok (⟨.ofNat 16 storage.length, (empty : SocketStorage T).generation⟩,
        storage ++ [empty.fill value])

/-- The two kinds of sets. -/
inductive SocketSetKind where
  | borrowed
  | owned
  deriving DecidableEq, Repr

namespace SocketSetKind

variable {T : Type}

/-- Add a socket to a set of the kind. -/
def add : SocketSetKind → List (SocketStorage T) → T →
    Except Error (SocketHandle × List (SocketStorage T))
  | borrowed => SocketSet.add
  | owned => OwnedSocketSet.add

/-- What changes the slots that are taken. -/
inductive Op (T : Type) where
  | add (value : T)
  | remove (handle : SocketHandle)

/-- The slots after a call, whether it succeeds or not. -/
def step (kind : SocketSetKind) (storage : List (SocketStorage T)) : Op T → List (SocketStorage T)
  | .add value =>
    match kind.add storage value with
    | .error _ => storage
    | .ok (_, storage') => storage'
  | .remove handle =>
    match remove storage handle with
    | .error _ => storage
    | .ok (_, storage') => storage'

/-- The handle with which a call removes a socket. -/
def removed (storage : List (SocketStorage T)) : Op T → Option SocketHandle
  | .add _ => none
  | .remove handle => if (remove storage handle).isOk then some handle else none

/-- The handles with which sockets are removed in a run. -/
def removals (kind : SocketSetKind) (storage : List (SocketStorage T)) (ops : List (Op T)) :
    List SocketHandle :=
  (Machine.outputs kind.step removed storage ops).reduceOption

end SocketSetKind

/-! ### The generations of a slot -/

/-- The generations stand in a circle. -/
theorem toNat_nextSocketGeneration {generation : U16} (h : generation ≠ 0#16) :
  (nextSocketGeneration generation).toNat = Wheel.next 65535 generation.toNat
  := by
  have hlt := generation.isLt
  have hpos : generation.toNat ≠ 0 := fun hzero => h (BitVec.eq_of_toNat_eq hzero)
  have hadd : (generation + 1#16).toNat = (generation.toNat + 1) % 65536 := by
    rw [BitVec.toNat_add]
    rfl
  rw [nextSocketGeneration, Wheel.next]
  split
  · next hwrap =>
    rw [BitVec.lt_def, hadd, BitVec.toNat_ofNat] at hwrap
    rw [BitVec.toNat_ofNat]
    omega
  · next hwrap =>
    rw [BitVec.lt_def, hadd, BitVec.toNat_ofNat] at hwrap
    rw [hadd]
    omega

theorem iterate_nextSocketGeneration {generation : U16} (h : generation ≠ 0#16) (n : ℕ) :
  nextSocketGeneration^[n] generation ≠ 0#16 ∧
    (nextSocketGeneration^[n] generation).toNat = (Wheel.next 65535)^[n] generation.toNat
  := by
  induction n with
  | zero => exact ⟨h, rfl⟩
  | succ n ih =>
    obtain ⟨hne, hn⟩ := ih
    rw [Function.iterate_succ_apply', Function.iterate_succ_apply']
    exact ⟨nextSocketGeneration_ne _, by rw [toNat_nextSocketGeneration hne, hn]⟩

/-- The generation comes again after every 65535 removals. -/
theorem iterate_nextSocketGeneration_eq_iff {generation : U16} (h : generation ≠ 0#16) (n : ℕ) :
  nextSocketGeneration^[n] generation = generation ↔ 65535 ∣ n
  := by
  have hlt := generation.isLt
  have hpos : generation.toNat ≠ 0 := fun hzero => h (BitVec.eq_of_toNat_eq hzero)
  have hle : generation.toNat ≤ 65535 := by omega
  rw [← Wheel.iterate_next_eq_self_iff (Nat.pos_of_ne_zero hpos) hle n, BitVec.toNat_eq,
    (iterate_nextSocketGeneration h n).2]

namespace SocketStorage

variable {T : Type} {storage storage' : List (SocketStorage T)} {handle : SocketHandle}
  {slot : SocketStorage T} {v w : T}

theorem checkedSlot_eq_ok :
  checkedSlot storage handle = .ok (slot, v) ↔
    storage[handle.index.toNat]? = some slot ∧ slot.generation = handle.generation ∧
      slot.value = some v
  := by
  rw [checkedSlot]
  cases storage[handle.index.toNat]? with
  | none => simp
  | some found =>
    dsimp only
    by_cases hgeneration : found.generation = handle.generation
    · rw [if_neg (not_not.mpr hgeneration)]
      cases hvalue : found.value with
      | none =>
        simp only [reduceCtorEq, false_iff]
        rintro ⟨⟨⟩, -, hv⟩
        rw [hvalue] at hv
        cases hv
      | some value =>
        constructor
        · rintro ⟨⟩
          exact ⟨rfl, hgeneration, hvalue⟩
        · rintro ⟨⟨⟩, -, hv⟩
          rw [hvalue] at hv
          cases hv
          rfl
    · rw [if_pos hgeneration]
      simp only [reduceCtorEq, false_iff]
      rintro ⟨⟨⟩, heq, -⟩
      exact hgeneration heq

/-- The handle resolves to a socket, in all ways. -/
def Resolves (storage : List (SocketStorage T)) (handle : SocketHandle) (v : T) : Prop :=
  get storage handle = .ok v ∧ (getMut storage handle).map Prod.fst = .ok v ∧
    (remove storage handle).map Prod.fst = .ok v

/-- The handle resolves to no socket, in no way. -/
def Lost (storage : List (SocketStorage T)) (handle : SocketHandle) : Prop :=
  ∀ v, get storage handle ≠ .ok v ∧ (getMut storage handle).map Prod.fst ≠ .ok v ∧
    (remove storage handle).map Prod.fst ≠ .ok v

theorem get_eq_ok :
  get storage handle = .ok v ↔
    ∃ slot, storage[handle.index.toNat]? = some slot ∧ slot.generation = handle.generation ∧
      slot.value = some v
  := by
  rw [get, map_eq_ok]
  constructor
  · rintro ⟨⟨slot, v⟩, hfound, rfl⟩
    exact ⟨slot, checkedSlot_eq_ok.mp hfound⟩
  · rintro ⟨slot, hfound⟩
    exact ⟨(slot, v), checkedSlot_eq_ok.mpr hfound, rfl⟩

theorem map_getMut :
  (getMut storage handle).map Prod.fst = get storage handle
  := by
  rw [getMut, get]
  cases checkedSlot storage handle <;> rfl

theorem map_remove :
  (remove storage handle).map Prod.fst = get storage handle
  := by
  rw [remove, get]
  cases checkedSlot storage handle <;> rfl

theorem resolves_iff :
  Resolves storage handle v ↔ get storage handle = .ok v
  := by
  rw [Resolves, map_getMut, map_remove, and_self, and_self]

theorem lost_iff :
  Lost storage handle ↔ ∀ v, get storage handle ≠ .ok v
  := by
  simp only [Lost, map_getMut, map_remove, and_self]

/-! ### What a call does to a slot -/

/-- A slot stays as it is, is filled, or is cleared, and then one socket has been removed. -/
inductive Effect (slot : SocketStorage T) : SocketStorage T → ℕ → Prop
  | same : Effect slot slot 0
  | filled (v : T) (h : slot.value = none) : Effect slot (slot.fill v) 0
  | cleared (v : T) (h : slot.value = some v) : Effect slot slot.clear 1

theorem Effect.generation {slot' : SocketStorage T} {n : ℕ} (h : Effect slot slot' n) :
  slot'.generation = nextSocketGeneration^[n] slot.generation
  := by
  cases h <;> rfl

theorem Effect.value {slot' : SocketStorage T} {n : ℕ} (h : Effect slot slot' n) (hn : n = 0)
    (hvalue : slot.value = some v) :
  slot'.value = some v
  := by
  cases h with
  | same => exact hvalue
  | filled w hnone =>
    rw [hnone] at hvalue
    cases hvalue
  | cleared w _ => cases hn

theorem firstFree_eq_some {index : ℕ} (h : firstFree storage = some (slot, index)) :
  storage[index]? = some slot ∧ slot.value = none
  := by
  have hmem := List.mem_of_find?_eq_some h
  have hfree := List.find?_some h
  rw [List.mem_zipIdx_iff_getElem?] at hmem
  exact ⟨hmem, Option.isNone_iff_eq_none.mp hfree⟩

/-- A slot that is not taken is filled. -/
theorem fillAt_eq_ok {index : ℕ} (hslot : storage[index]? = some slot) (hfree : slot.value = none)
    (h : fillAt storage slot index v = .ok (handle, storage')) :
  (∃ slot', storage'[handle.index.toNat]? = some slot' ∧ slot'.generation = handle.generation ∧
    slot'.value = some v) ∧
  ∀ (i : ℕ) (old : SocketStorage T), storage[i]? = some old →
    ∃ new, storage'[i]? = some new ∧ Effect old new 0
  := by
  rw [fillAt] at h
  split at h
  · cases h
  next hindex =>
  cases h
  have hlt : index < storage.length := (List.getElem?_eq_some_iff.mp hslot).1
  constructor
  · refine ⟨slot.fill v, ?_, rfl, rfl⟩
    rw [BitVec.toNat_ofNat, Nat.mod_eq_of_lt (by omega), List.getElem?_set_self hlt]
  · intro i old hold
    by_cases hi : index = i
    · subst hi
      rw [hslot] at hold
      cases hold
      exact ⟨slot.fill v, List.getElem?_set_self hlt, .filled v hfree⟩
    · exact ⟨old, by rw [List.getElem?_set_ne hi, hold], .same⟩

/-- The socket of the handle is removed, and the other slots stay as they are. -/
theorem remove_eq_ok (h : remove storage handle = .ok (v, storage')) (i : ℕ)
    (hslot : storage[i]? = some slot) :
  ∃ slot', storage'[i]? = some slot' ∧
    Effect slot slot' (if handle.index.toNat = i then 1 else 0) ∧
    (handle.index.toNat = i → slot.generation = handle.generation)
  := by
  obtain ⟨⟨found, value⟩, hfound, heq⟩ := map_eq_ok.mp h
  cases heq
  obtain ⟨hget, hgeneration, hvalue⟩ := checkedSlot_eq_ok.mp hfound
  by_cases hi : handle.index.toNat = i
  · subst hi
    rw [hslot] at hget
    cases hget
    have hlt : handle.index.toNat < storage.length := (List.getElem?_eq_some_iff.mp hslot).1
    refine ⟨slot.clear, List.getElem?_set_self hlt, ?_, fun _ => hgeneration⟩
    rw [if_pos rfl]
    exact .cleared value hvalue
  · refine ⟨slot, by rw [List.getElem?_set_ne hi, hslot], ?_, fun heq => absurd heq hi⟩
    rw [if_neg hi]
    exact .same

end SocketStorage

namespace SocketSetKind

variable {T : Type} {kind : SocketSetKind} {storage storage' : List (SocketStorage T)}
  {handle : SocketHandle} {slot : SocketStorage T} {v : T}

/-- A socket that is added is found with the handle, and the other slots stay as they are. -/
theorem add_eq_ok (h : kind.add storage v = .ok (handle, storage')) :
  (∃ slot, storage'[handle.index.toNat]? = some slot ∧ slot.generation = handle.generation ∧
    slot.value = some v) ∧
  ∀ (i : ℕ) (old : SocketStorage T), storage[i]? = some old →
    ∃ new, storage'[i]? = some new ∧ Effect old new 0
  := by
  cases kind with
  | borrowed =>
    rw [add, SocketSet.add] at h
    split at h
    · cases h
    · next slot index hfree =>
      obtain ⟨hslot, hnone⟩ := firstFree_eq_some hfree
      exact fillAt_eq_ok hslot hnone h
  | owned =>
    rw [add, OwnedSocketSet.add] at h
    split at h
    · next slot index hfree =>
      obtain ⟨hslot, hnone⟩ := firstFree_eq_some hfree
      exact fillAt_eq_ok hslot hnone h
    · split at h
      · cases h
      next hlen =>
      cases h
      constructor
      · refine ⟨empty.fill v, ?_, rfl, rfl⟩
        rw [BitVec.toNat_ofNat, Nat.mod_eq_of_lt (by omega), List.getElem?_concat_length]
      · intro i old hold
        refine ⟨old, ?_, .same⟩
        rw [List.getElem?_append_left (List.getElem?_eq_some_iff.mp hold).1, hold]

/-- What a call does to a slot, and how many sockets it removes from it. -/
theorem effect_step (kind : SocketSetKind) (op : Op T) (index : U16)
    (hslot : storage[index.toNat]? = some slot) :
  ∃ slot', (kind.step storage op)[index.toNat]? = some slot' ∧
    Effect slot slot' ((removed storage op).toList.countP (fun h => h.index = index)) ∧
    ∀ h ∈ removed storage op, h.index = index → slot.generation = h.generation
  := by
  cases op with
  | add value =>
    rw [step]
    split
    · exact ⟨slot, hslot, .same, nofun⟩
    · next handle storage' hadd =>
      obtain ⟨slot', hslot', heffect⟩ := (add_eq_ok hadd).2 _ _ hslot
      exact ⟨slot', hslot', heffect, nofun⟩
  | remove handle =>
    rw [step, removed]
    cases hremove : remove storage handle with
    | error err => exact ⟨slot, hslot, .same, nofun⟩
    | ok result =>
      obtain ⟨value, storage'⟩ := result
      obtain ⟨slot', hslot', heffect, hgeneration⟩ := remove_eq_ok hremove _ hslot
      have hiff : handle.index.toNat = index.toNat ↔ handle.index = index :=
        BitVec.toNat_eq.symm
      refine ⟨slot', hslot', ?_, ?_⟩
      · simpa [Except.isOk, Except.toBool, hiff, List.countP_cons] using heffect
      · intro h hh hindex
        cases hh
        exact hgeneration (hiff.mpr hindex)

/-! ### What a run does to a slot -/

/-- How many sockets are removed from a slot in a run. -/
def removedFrom (kind : SocketSetKind) (storage : List (SocketStorage T)) (ops : List (Op T))
    (index : U16) : ℕ :=
  (removals kind storage ops).countP (fun handle => handle.index = index)

/-- There is a socket in the slot. -/
def Taken (storage : List (SocketStorage T)) (index : U16) : Prop :=
  ∃ slot, storage[index.toNat]? = some slot ∧ slot.value ≠ none

theorem removals_concat (ops : List (Op T)) (op : Op T) :
  removals kind storage (ops ++ [op]) =
    removals kind storage ops ++ (removed (Machine.run kind.step storage ops) op).toList
  := by
  rw [removals, Machine.outputs_append, List.reduceOption_append]
  cases hremoved : removed (Machine.run kind.step storage ops) op <;>
    simp [removals, Machine.outputs, hremoved, List.reduceOption]

/-- As long as no socket has been removed from the slot, it is the handle that removes one. -/
theorem mem_removed_iff {op : Op T} (hslot : storage[handle.index.toNat]? = some slot)
    (hgeneration : slot.generation = handle.generation) :
  handle ∈ (removed storage op).toList ↔
    (removed storage op).toList.countP (fun h => h.index = handle.index) ≠ 0
  := by
  obtain ⟨-, -, -, hremoved⟩ := effect_step .borrowed op handle.index hslot
  rw [← Nat.pos_iff_ne_zero, List.countP_pos_iff]
  constructor
  · intro hmem
    exact ⟨handle, hmem, decide_eq_true rfl⟩
  · rintro ⟨h, hmem, hindex⟩
    rw [decide_eq_true_eq] at hindex
    have hsame : h.generation = handle.generation :=
      (hremoved h (Option.mem_toList.mp hmem) hindex).symm.trans hgeneration
    obtain rfl : h = handle := by
      cases h
      cases handle
      dsimp only at hindex hsame
      rw [hindex, hsame]
    exact hmem

/-- The generation of a slot has gone on with every socket removed from it since the handle was
issued, the socket of the handle is in it until then, and it was removed first. -/
theorem slot_run (kind : SocketSetKind) (hslot : storage[handle.index.toNat]? = some slot)
    (hgeneration : slot.generation = handle.generation) (hvalue : slot.value = some v)
    (ops : List (Op T)) :
  ∃ slot', (Machine.run kind.step storage ops)[handle.index.toNat]? = some slot' ∧
    slot'.generation =
      nextSocketGeneration^[removedFrom kind storage ops handle.index] handle.generation ∧
    (removedFrom kind storage ops handle.index = 0 → slot'.value = some v) ∧
    (handle ∈ removals kind storage ops ↔ removedFrom kind storage ops handle.index ≠ 0)
  := by
  induction ops using List.reverseRecOn with
  | nil =>
    exact ⟨slot, hslot, hgeneration, fun _ => hvalue, iff_of_false List.not_mem_nil (· rfl)⟩
  | append_singleton ops op ih =>
    obtain ⟨mid, hmid, hmidGeneration, hmidValue, hmem⟩ := ih
    obtain ⟨next, hnext, heffect, hremoved⟩ := effect_step kind op handle.index hmid
    rw [Machine.run_append]
    have hcount : removedFrom kind storage (ops ++ [op]) handle.index =
        removedFrom kind storage ops handle.index +
          (removed (Machine.run kind.step storage ops) op).toList.countP
            (fun h => h.index = handle.index) := by
      rw [removedFrom, removals_concat, List.countP_append]
      rfl
    refine ⟨next, hnext, ?_, ?_, ?_⟩
    · rw [hcount, Nat.add_comm, Function.iterate_add_apply, ← hmidGeneration]
      exact heffect.generation
    · intro hzero
      rw [hcount, Nat.add_eq_zero_iff] at hzero
      exact heffect.value hzero.2 (hmidValue hzero.1)
    · rw [removals_concat, List.mem_append, hmem, hcount]
      by_cases hzero : removedFrom kind storage ops handle.index = 0
      · rw [hzero] at hmidGeneration ⊢
        rw [mem_removed_iff hmid hmidGeneration, Nat.zero_add]
        exact or_iff_right (· rfl)
      · exact iff_of_true (.inl hzero) (by omega)

/-- A handle is of no use after sockets have been removed from its slot, unless the slot is taken
and the generation of the handle has come again. -/
theorem resolves_or_lost (hslot : storage[handle.index.toNat]? = some slot)
    (hgeneration : slot.generation = handle.generation) (hvalue : slot.value = some v)
    (ops : List (Op T)) :
  ((handle ∉ removals kind storage ops →
      Resolves (Machine.run kind.step storage ops) handle v) ∧
    (handle ∈ removals kind storage ops → Lost (Machine.run kind.step storage ops) handle)) ↔
  (Taken (Machine.run kind.step storage ops) handle.index →
    removedFrom kind storage ops handle.index ≠ 0 →
    ¬ 65535 ∣ removedFrom kind storage ops handle.index)
  := by
  obtain ⟨new, hnew, hnewGeneration, hnewValue, hmem⟩ :=
    slot_run kind hslot hgeneration hvalue ops
  have hne : handle.generation ≠ 0#16 := hgeneration ▸ slot.generation_ne
  rw [hmem, resolves_iff, lost_iff, not_not]
  constructor
  · rintro ⟨-, hlost⟩ ⟨taken, htaken, hsome⟩ hcount hdvd
    rw [hnew] at htaken
    cases htaken
    obtain ⟨w, hw⟩ := Option.ne_none_iff_exists'.mp hsome
    apply hlost hcount w
    rw [get_eq_ok]
    refine ⟨new, hnew, ?_, hw⟩
    rw [hnewGeneration]
    exact (iterate_nextSocketGeneration_eq_iff hne _).mpr hdvd
  · intro h
    constructor
    · intro hcount
      rw [get_eq_ok]
      refine ⟨new, hnew, ?_, hnewValue hcount⟩
      rw [hnewGeneration, hcount]
      rfl
    · intro hcount w hget
      obtain ⟨found, hfound, hfoundGeneration, hw⟩ := get_eq_ok.mp hget
      rw [hnew] at hfound
      cases hfound
      have hsome : new.value ≠ none := by
        rw [hw]
        exact Option.some_ne_none w
      apply h ⟨new, hnew, hsome⟩ hcount
      rw [← iterate_nextSocketGeneration_eq_iff hne, ← hnewGeneration, hfoundGeneration]

theorem removedFrom_le_length (ops : List (Op T)) (index : U16) :
  removedFrom kind storage ops index ≤ ops.length
  := by
  induction ops using List.reverseRecOn with
  | nil => exact Nat.le_refl 0
  | append_singleton ops op ih =>
    have hone : (removed (Machine.run kind.step storage ops) op).toList.length ≤ 1 :=
      Option.length_toList_le
    have hcount := List.countP_le_length (p := fun handle => handle.index = index)
      (l := (removed (Machine.run kind.step storage ops) op).toList)
    rw [removedFrom, removals_concat, List.countP_append, List.length_append, List.length_singleton]
    exact Nat.add_le_add ih (Nat.le_trans hcount hone)

/-! ### A slot that is used over and over -/

/-- A slot from which `n` sockets have been removed, with the next one in it. -/
def nthSlot (n : ℕ) : SocketStorage ℕ where
  generation := nextSocketGeneration^[n] 1#16
  value := some n
  generation_ne := (iterate_nextSocketGeneration (by decide) n).1

/-- Remove the socket of the only slot and add another one, `n` times. -/
def churn (n : ℕ) : List (Op ℕ) :=
  (List.range n).flatMap
    (fun i => [.remove ⟨0#16, nextSocketGeneration^[i] 1#16⟩, .add (i + 1)])

theorem run_churn (kind : SocketSetKind) (n : ℕ) :
  Machine.run kind.step [nthSlot 0] (churn n) = [nthSlot n]
  := by
  induction n with
  | zero => rfl
  | succ n ih =>
    have hchurn : churn (n + 1) =
        churn n ++ [.remove ⟨0#16, nextSocketGeneration^[n] 1#16⟩, .add (n + 1)] := by
      rw [churn, List.range_succ, List.flatMap_append, List.flatMap_singleton]
      rfl
    have hremove : kind.step [nthSlot n] (.remove ⟨0#16, nextSocketGeneration^[n] 1#16⟩) =
        [(nthSlot n).clear] := by
      rw [step, remove, checkedSlot_eq_ok.mpr ⟨rfl, rfl, rfl⟩]
      rfl
    have hfill : (nthSlot n).clear.fill (n + 1) = nthSlot (n + 1) := by
      simp only [nthSlot, SocketStorage.clear, SocketStorage.fill,
        Function.iterate_succ_apply']
    have hadd : ∃ handle, kind.add [(nthSlot n).clear] (n + 1) = .ok (handle, [nthSlot (n + 1)]) := by
      rw [← hfill]
      cases kind <;> exact ⟨_, rfl⟩
    obtain ⟨handle, hadd⟩ := hadd
    rw [hchurn, Machine.run_append, ih, Machine.run_cons, hremove, Machine.run_cons,
      Machine.run_nil, step, hadd]

theorem mem_removals_churn (kind : SocketSetKind) (n : ℕ) :
  ⟨0#16, 1#16⟩ ∈ removals kind [nthSlot 0] (churn (n + 1))
  := by
  rw [churn, List.range_succ_eq_map, List.flatMap_cons, removals, Machine.outputs_append,
    List.reduceOption_append]
  exact List.mem_append_left _ List.mem_cons_self

/-- When the generation comes again, the first handle resolves to the socket in the slot. -/
theorem resolves_churn (kind : SocketSetKind) {n : ℕ} (h : 65535 ∣ n) :
  Resolves (Machine.run kind.step [nthSlot 0] (churn n)) ⟨0#16, 1#16⟩ n
  := by
  rw [run_churn, resolves_iff, get_eq_ok]
  exact ⟨nthSlot n, rfl, (iterate_nextSocketGeneration_eq_iff (by decide) n).mpr h, rfl⟩

/-! ### What becomes of a handle -/

/-- A handle resolves to its socket until that is removed and to nothing afterwards, in a run in
which, and only in a run in which, its slot is not taken when a positive multiple of 65535 sockets
have been removed from it. -/
theorem handle_honoured (kind : SocketSetKind) (storage storage' : List (SocketStorage T)) (v : T)
    (handle : SocketHandle) (ops : List (Op T))
    (h : kind.add storage v = .ok (handle, storage')) :
  (∀ bs, bs <+: ops →
    (handle ∉ removals kind storage' bs →
      Resolves (Machine.run kind.step storage' bs) handle v) ∧
    (handle ∈ removals kind storage' bs → Lost (Machine.run kind.step storage' bs) handle)) ↔
  ∀ bs, bs <+: ops → Taken (Machine.run kind.step storage' bs) handle.index →
    removedFrom kind storage' bs handle.index ≠ 0 →
    ¬ 65535 ∣ removedFrom kind storage' bs handle.index
  := by
  obtain ⟨⟨slot, hslot, hgeneration, hvalue⟩, -⟩ := add_eq_ok h
  apply forall_congr'
  intro bs
  apply imp_congr_right
  intro _
  exact resolves_or_lost hslot hgeneration hvalue bs

/-- The handle of a socket that has been removed is lost when another one is in its slot. -/
theorem handle_honoured_reused :
  Lost (Machine.run (step .owned) [nthSlot 0] (churn 1)) ⟨0#16, 1#16⟩
  := by
  have hcondition : ∀ bs, bs <+: churn 1 →
      Taken (Machine.run (step .owned) [nthSlot 0] bs) 0#16 →
      removedFrom .owned [nthSlot 0] bs 0#16 ≠ 0 →
      ¬ 65535 ∣ removedFrom .owned [nthSlot 0] bs 0#16 := by
    intro bs hbs _ hne hdvd
    have hle : removedFrom .owned [nthSlot 0] bs 0#16 ≤ bs.length := removedFrom_le_length bs 0#16
    have hlength : bs.length ≤ 2 := hbs.length_le
    have hmany : 65535 ≤ removedFrom .owned [nthSlot 0] bs 0#16 :=
      Nat.le_of_dvd (Nat.pos_of_ne_zero hne) hdvd
    omega
  exact ((handle_honoured .owned [] [nthSlot 0] 0 ⟨0#16, 1#16⟩ (churn 1) rfl).mpr hcondition
    (churn 1) (List.prefix_refl _)).2 (mem_removals_churn .owned 0)

/-- After 65535 sockets the first handle resolves to the next one. -/
theorem not_lost_after_churn :
  ∃ storage', SocketSet.add [SocketStorage.empty] 0 = .ok (⟨0#16, 1#16⟩, storage') ∧
    ⟨0#16, 1#16⟩ ∈ removals .borrowed storage' (churn 65535) ∧
    Resolves (Machine.run (step .borrowed) storage' (churn 65535)) ⟨0#16, 1#16⟩ 65535
  := by
  exact ⟨[nthSlot 0], rfl, mem_removals_churn .borrowed 65534,
    resolves_churn .borrowed (Nat.dvd_refl 65535)⟩

end SocketSetKind

end SmolGnet
