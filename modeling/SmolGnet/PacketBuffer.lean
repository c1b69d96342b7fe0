import SmolGnet.Basic
import SmolGnet.Library.Arena
import SmolGnet.Library.Machine
import SmolGnet.Library.Octets
import SmolGnet.Library.Ring

/-!
# Packet buffers

A `PacketBuffer` is a queue of messages of any lengths.  Its metadata are a ring of slots, and
the bytes of the messages lie in one arena, each message in one piece.

Seen from outside it should be a queue of pairs of metadata and bytes.  It is, as long as no
message is put where the bytes of an older one lie.  The rule that places a message reads the
offset of the oldest message and the end of the newest only, and a buffer that is wrapped and
full looks to it as one that is not wrapped.
-/

namespace SmolGnet

open Arena (Extent)

/-- A slot: the metadata, and where the message lies in the arena. -/
structure PacketMetadata (M : Type) where
  metadata : Option M
  offset : ℕ
  len : ℕ
  deriving DecidableEq

/-- A slot without a message. -/
def PacketMetadata.empty {M : Type} : PacketMetadata M where
  metadata := none
  offset := 0
  len := 0

/-- The bytes of the arena that a slot describes. -/
def PacketMetadata.extent {M : Type} (slot : PacketMetadata M) : Extent :=
  ⟨slot.offset, slot.len⟩

/-- A queue of messages in slots and an arena of the caller. -/
structure PacketBuffer (M : Type) where
  metadata : List (PacketMetadata M)
  payload : Bytes
  head : ℕ
  len : ℕ
  usedBytes : ℕ
  len_le : len ≤ metadata.length
  head_lt : metadata.length ≠ 0 → head < metadata.length
  stop_le : ∀ slot ∈ metadata, slot.offset + slot.len ≤ payload.length
  deriving DecidableEq

namespace PacketBuffer

variable {M : Type}

/-- A buffer without messages in the storage of the caller. -/
def new (metadata : List (PacketMetadata M)) (payload : Bytes) : PacketBuffer M where
  metadata := List.replicate metadata.length .empty
  payload := payload
  head := 0
  len := 0
  usedBytes := 0
  len_le := Nat.zero_le _
  head_lt := Nat.pos_of_ne_zero
  stop_le slot hslot := by
    rw [List.eq_of_mem_replicate hslot]
    apply Nat.zero_le

/-- The slot of an entry of the queue. -/
def metaIndex (b : PacketBuffer M) (logical : ℕ) : ℕ :=
  (b.head + logical) % b.metadata.length

theorem metaIndex_lt {b : PacketBuffer M} (h : b.metadata.length ≠ 0) (logical : ℕ) :
  b.metaIndex logical < b.metadata.length
  := Nat.mod_lt _ (Nat.pos_of_ne_zero h)

theorem length_ne_zero {b : PacketBuffer M} (h : b.len ≠ 0) :
  b.metadata.length ≠ 0
  := by
  have := b.len_le
  omega

/-- The slot of the oldest message. -/
def first (b : PacketBuffer M) (h : b.len ≠ 0) : PacketMetadata M :=
  b.metadata.get ⟨b.head, b.head_lt (length_ne_zero h)⟩

/-- The slot of the newest message. -/
def last (b : PacketBuffer M) (h : b.len ≠ 0) : PacketMetadata M :=
  b.metadata.get ⟨b.metaIndex (b.len - 1), metaIndex_lt (length_ne_zero h) _⟩

/-- Where the next message goes, if there is room for it. -/
def allocationOffset (b : PacketBuffer M) (length : ℕ) : Option ℕ :=
  if b.payload.length < length then none
  else if h : b.len = 0 then some 0
  else
    let firstOff := (b.first h).offset
    let lastEnd := (b.last h).offset + (b.last h).len
    if firstOff ≤ lastEnd then
      if length ≤ b.payload.length - lastEnd then some lastEnd
      else if length ≤ firstOff then some 0
      else none
    else if length ≤ firstOff - lastEnd then some lastEnd
    else none

theorem first_mem {b : PacketBuffer M} (h : b.len ≠ 0) :
  b.first h ∈ b.metadata
  := List.get_mem _ _

theorem last_mem {b : PacketBuffer M} (h : b.len ≠ 0) :
  b.last h ∈ b.metadata
  := List.get_mem _ _

/-- A message lies in the arena. -/
theorem allocationOffset_add_le {b : PacketBuffer M} {length offset : ℕ}
    (h : b.allocationOffset length = some offset) :
  offset + length ≤ b.payload.length
  := by
  rw [allocationOffset] at h
  split at h
  · cases h
  next hlen =>
  split at h
  · cases h
    omega
  next hne =>
  have hfirst := b.stop_le _ (first_mem hne)
  have hlast := b.stop_le _ (last_mem hne)
  dsimp only at h
  split at h
  · split at h
    · cases h
      omega
    · split at h
      · cases h
        omega
      · cases h
  · split at h
    · cases h
      omega
    · cases h

/-- Put a message behind the newest one, with its bytes at an offset of the arena. -/
def pushAt (b : PacketBuffer M) (m : M) (data : Bytes) (offset : ℕ)
    (hlen : b.len < b.metadata.length) (hstop : offset + data.length ≤ b.payload.length) :
    PacketBuffer M where
  metadata := b.metadata.set (b.metaIndex b.len) ⟨some m, offset, data.length⟩
  payload := Octets.copyInto b.payload offset data
  head := b.head
  len := b.len + 1
  usedBytes := b.usedBytes + data.length
  len_le := by
    rw [List.length_set]
    apply hlen
  head_lt h := by
    rw [List.length_set] at h ⊢
    apply b.head_lt h
  stop_le slot hslot := by
    rw [Octets.length_copyInto hstop]
    rcases List.mem_or_eq_of_mem_set hslot with hmem | rfl
    · apply b.stop_le slot hmem
    · apply hstop

/-- Append a message to the queue. -/
def enqueue (b : PacketBuffer M) (m : M) (data : Bytes) : Except Error Unit × PacketBuffer M :=
  if hfull : b.metadata.isEmpty ∨ b.len = b.metadata.length then (.error .bufferFull, b)
  else
    match hoffset : b.allocationOffset data.length with
    | none => (.error .bufferFull, b)
    | some offset =>
      (.ok (), b.pushAt m data offset
        (Nat.lt_of_le_of_ne b.len_le (fun h => hfull (.inr h))) (allocationOffset_add_le hoffset))

/-- The oldest message. -/
def peek (b : PacketBuffer M) : Option (M × Bytes) :=
  if h : b.len = 0 then none
  else
    let slot := b.first h
    match slot.metadata with
    | none => none
    | some m => some (m, Octets.slice b.payload slot.offset slot.len)

/-- Remove the oldest message, whose slot is cleared. -/
def removeFirst (b : PacketBuffer M) (h : b.len ≠ 0) : PacketBuffer M where
  metadata := b.metadata.set b.head .empty
  payload := b.payload
  head := if b.len - 1 = 0 then 0 else (b.head + 1) % b.metadata.length
  len := b.len - 1
  usedBytes := b.usedBytes - (b.first h).len
  len_le := by
    rw [List.length_set]
    apply Nat.le_trans (Nat.sub_le _ _) b.len_le
  head_lt hne := by
    rw [List.length_set] at hne ⊢
    split
    · apply Nat.pos_of_ne_zero hne
    · apply Nat.mod_lt _ (Nat.pos_of_ne_zero hne)
  stop_le slot hslot := by
    rcases List.mem_or_eq_of_mem_set hslot with hmem | rfl
    · apply b.stop_le slot hmem
    · apply Nat.zero_le

/-- Copy the oldest message to `out` and remove it.  The results are its metadata and length, and
the contents of `out`. -/
def dequeueInto (b : PacketBuffer M) (out : Bytes) :
    Except Error (Option (M × ℕ) × Bytes) × PacketBuffer M :=
  if h : b.len = 0 then (.ok (none, out), b)
  else
    let slot := b.first h
    match slot.metadata with
    | none => (.error .invalidState, b)
    | some m =>
      if out.length < slot.len then (.error .bufferFull, b)
      else
        (.ok (some (m, slot.len),
          Octets.copyInto out 0 (Octets.slice b.payload slot.offset slot.len)), b.removeFirst h)

/-- Remove the oldest message. -/
def dropFront (b : PacketBuffer M) : Option M × PacketBuffer M :=
  if h : b.len = 0 then (none, b)
  else
    match (b.first h).metadata with
    | none => (none, b)
    | some m => (some m, b.removeFirst h)

/-- Remove all messages. -/
def clear (b : PacketBuffer M) : PacketBuffer M where
  metadata := List.replicate b.metadata.length .empty
  payload := b.payload
  head := 0
  len := 0
  usedBytes := 0
  len_le := Nat.zero_le _
  head_lt := Nat.pos_of_ne_zero
  stop_le slot hslot := by
    rw [List.eq_of_mem_replicate hslot]
    apply Nat.zero_le

/-! ### The slots of the queue -/

/-- The slots of the messages, the oldest one first. -/
def queued (b : PacketBuffer M) : List (PacketMetadata M) :=
  Ring.view b.metadata b.head b.len

/-- The bytes of the arena that the messages take. -/
def extents (b : PacketBuffer M) : List Extent :=
  b.queued.map PacketMetadata.extent

variable {b : PacketBuffer M}

theorem queued_of_len_eq_zero (h : b.len = 0) :
  b.queued = []
  := by
  rw [queued, h, Ring.view_zero]

theorem length_queued (b : PacketBuffer M) :
  b.queued.length = b.len
  := Ring.length_view b.len_le

theorem head?_queued (h : b.len ≠ 0) :
  b.queued.head? = some (b.first h)
  := by
  rw [queued, Ring.head?_view (Nat.pos_of_ne_zero h) b.len_le (b.head_lt (length_ne_zero h)), first,
    List.get_eq_getElem, ← List.getElem?_eq_getElem]

theorem getLast?_queued (h : b.len ≠ 0) :
  b.queued.getLast? = some (b.last h)
  := by
  rw [last, List.get_eq_getElem, ← List.getElem?_eq_getElem]
  apply Ring.getLast?_view (Nat.pos_of_ne_zero h) b.len_le

theorem queued_removeFirst (h : b.len ≠ 0) :
  (b.removeFirst h).queued = b.queued.tail
  := by
  rw [queued, removeFirst]
  dsimp only
  split
  · next hlast =>
    rw [hlast, Ring.view_zero, queued, Ring.tail_view_of_le_one (by omega)]
  · rw [Ring.view_pop (Nat.pos_of_ne_zero h) b.len_le (b.head_lt (length_ne_zero h)), queued]

theorem queued_pushAt {m : M} {data : Bytes} {offset : ℕ} (hlen : b.len < b.metadata.length)
    (hstop : offset + data.length ≤ b.payload.length) :
  (b.pushAt m data offset hlen hstop).queued = b.queued ++ [⟨some m, offset, data.length⟩]
  := Ring.view_push hlen

theorem head?_extents (h : b.len ≠ 0) :
  b.extents.head? = some (b.first h).extent
  := by
  rw [extents, List.head?_map, head?_queued h, Option.map_some]

theorem getLast?_extents (h : b.len ≠ 0) :
  b.extents.getLast? = some (b.last h).extent
  := by
  rw [extents, List.getLast?_map, getLast?_queued h, Option.map_some]

/-- A message that is not longer than the arena is placed by the offset of the oldest message and
the end of the newest. -/
theorem allocationOffset_eq {length : ℕ} (h : b.len ≠ 0) :
  b.allocationOffset length =
    if b.payload.length < length then none
    else Arena.place b.payload.length (b.first h).extent.offset (b.last h).extent.stop length
  := by
  rw [allocationOffset, dif_neg h]
  rfl

/-- A message is refused, for want of a slot or of room in the arena, and the buffer stays as it is,
or it is put behind the others. -/
theorem enqueue_cases (b : PacketBuffer M) (m : M) (data : Bytes) :
  (∃ err, (b.len = b.metadata.length ∨ b.allocationOffset data.length = none) ∧
      b.enqueue m data = (.error err, b)) ∨
    ∃ offset hlen hstop, b.allocationOffset data.length = some offset ∧
      b.enqueue m data = (.ok (), b.pushAt m data offset hlen hstop)
  := by
  have hle := b.len_le
  rw [enqueue]
  split
  · next hfull =>
    refine .inl ⟨_, .inl ?_, rfl⟩
    rw [List.isEmpty_iff_length_eq_zero] at hfull
    omega
  · next hfull =>
    split
    · next hnone => exact .inl ⟨_, .inr hnone, rfl⟩
    · next offset hoffset =>
      have hlen := Nat.lt_of_le_of_ne b.len_le (fun h => hfull (.inr h))
      exact .inr ⟨offset, hlen, allocationOffset_add_le hoffset, hoffset, rfl⟩

/-- Nothing is copied, and the buffer stays as it is, or the oldest message is removed. -/
theorem dequeueInto_cases (b : PacketBuffer M) (out : Bytes) :
  (∃ result, (∀ m out', result ≠ .ok (some m, out')) ∧ b.dequeueInto out = (result, b)) ∨
    ∃ m out' h, b.dequeueInto out = (.ok (some m, out'), b.removeFirst h)
  := by
  rw [dequeueInto]
  split
  · exact .inl ⟨_, by simp, rfl⟩
  · next h =>
    dsimp only
    split
    · exact .inl ⟨_, by simp, rfl⟩
    · split
      · exact .inl ⟨_, by simp, rfl⟩
      · exact .inr ⟨_, _, h, rfl⟩

theorem dropFront_cases (b : PacketBuffer M) :
  b.dropFront = (none, b) ∨ ∃ m h, b.dropFront = (some m, b.removeFirst h)
  := by
  rw [dropFront]
  split
  · exact .inl rfl
  · next h =>
    split
    · exact .inl rfl
    · exact .inr ⟨_, h, rfl⟩

/-! ### The queue a buffer is -/

/-- A call on a buffer. -/
inductive Call (M : Type)
  | enqueue (m : M) (data : Bytes)
  | dequeueInto (out : Bytes)
  | dropFront
  | peek
  | clear

/-- A buffer, and the messages that were put into it and not removed since. -/
structure Tracked (M : Type) where
  buffer : PacketBuffer M
  queue : List (M × Bytes)

/-- A call is made, and the queue follows its result. -/
def Tracked.step (s : Tracked M) : Call M → Tracked M
  | .enqueue m data =>
    match s.buffer.enqueue m data with
    | (.ok _, b) => ⟨b, s.queue ++ [(m, data)]⟩
    | (.error _, b) => ⟨b, s.queue⟩
  | .dequeueInto out =>
    match s.buffer.dequeueInto out with
    | (.ok (some _, _), b) => ⟨b, s.queue.tail⟩
    | (_, b) => ⟨b, s.queue⟩
  | .dropFront =>
    match s.buffer.dropFront with
    | (some _, b) => ⟨b, s.queue.tail⟩
    | (none, b) => ⟨b, s.queue⟩
  | .peek => s
  | .clear => ⟨s.buffer.clear, []⟩

/-- What a queue answers when its oldest message is to be copied to `out`. -/
def frontInto (q : List (M × Bytes)) (out : Bytes) : Except Error (Option (M × ℕ) × Bytes) :=
  match q with
  | [] => .ok (none, out)
  | (m, data) :: _ =>
    if out.length < data.length then .error .bufferFull
    else .ok (some (m, data.length), Octets.copyInto out 0 data)

/-- From outside the buffer is a queue: its answers are those of the queue, it counts the bytes of
the messages, no byte of the arena belongs to two messages, and a call that fails leaves the buffer
as it was. -/
structure IsQueue (b : PacketBuffer M) (q : List (M × Bytes)) : Prop where
  peek : b.peek = q.head?
  dequeueInto : ∀ out, (b.dequeueInto out).1 = frontInto q out
  dropFront : b.dropFront.1 = q.head?.map Prod.fst
  len : b.len = q.length
  usedBytes : b.usedBytes = (q.map (·.2.length)).sum
  apart : b.extents.Pairwise Extent.Apart
  enqueue_error : ∀ m data err, (b.enqueue m data).1 = .error err → (b.enqueue m data).2 = b
  dequeueInto_error : ∀ out err, (b.dequeueInto out).1 = .error err → (b.dequeueInto out).2 = b

/-- The message is put into the buffer, but not where the arena is free. -/
def Misplaces (b : PacketBuffer M) : Call M → Prop
  | .enqueue _ data =>
    b.len ≠ b.metadata.length ∧ Arena.Misplaced b.payload.length b.extents data.length
  | _ => False

/-! ### What a buffer holds -/

/-- The message of a slot. -/
def message (b : PacketBuffer M) (slot : PacketMetadata M) : Option M × Bytes :=
  (slot.metadata, Octets.slice b.payload slot.offset slot.len)

/-- The messages of the queue are in the slots, and placed. -/
structure Holds (b : PacketBuffer M) (q : List (M × Bytes)) : Prop where
  messages : b.queued.map b.message = q.map (fun entry => (some entry.1, entry.2))
  usedBytes : b.usedBytes = (q.map (·.2.length)).sum
  placed : Arena.Placed b.payload.length b.extents

namespace Holds

variable {q : List (M × Bytes)}

theorem length_eq (h : b.Holds q) :
  b.len = q.length
  := by
  have := congrArg List.length h.messages
  rwa [List.length_map, List.length_map, length_queued] at this

/-- The oldest message, its slot and the rest. -/
theorem exists_first (h : b.Holds q) (hne : b.len ≠ 0) :
  ∃ m q', q = (m, Octets.slice b.payload (b.first hne).offset (b.first hne).len) :: q' ∧
    (b.first hne).metadata = some m ∧
    (Octets.slice b.payload (b.first hne).offset (b.first hne).len).length = (b.first hne).len
  := by
  have hlen := h.length_eq
  cases q with
  | nil => exact absurd hlen hne
  | cons entry q' =>
    obtain ⟨m, data⟩ := entry
    have hfirst := congrArg List.head? h.messages
    rw [List.head?_map, head?_queued hne] at hfirst
    simp only [Option.map_some, List.map_cons, List.head?_cons, Option.some.injEq, message,
      Prod.mk.injEq] at hfirst
    refine ⟨m, q', ?_, hfirst.1, ?_⟩
    · rw [hfirst.2]
    · have := b.stop_le _ (first_mem hne)
      rw [Octets.slice, List.length_take, List.length_drop]
      omega

theorem nil_of_len_eq_zero (h : b.Holds q) (hzero : b.len = 0) :
  q = []
  := by
  rw [← List.length_eq_zero_iff, ← h.length_eq, hzero]

/-- A buffer that holds a queue is one, seen from outside. -/
theorem isQueue (h : b.Holds q) :
  b.IsQueue q
  where
  peek := by
    rw [PacketBuffer.peek]
    split
    · next hzero => rw [h.nil_of_len_eq_zero hzero, List.head?_nil]
    · next hne =>
      obtain ⟨m, q', rfl, hm, -⟩ := h.exists_first hne
      simp [hm]
  dequeueInto out := by
    rw [PacketBuffer.dequeueInto]
    split
    · next hzero => rw [h.nil_of_len_eq_zero hzero, frontInto]
    · next hne =>
      obtain ⟨m, q', rfl, hm, hlen⟩ := h.exists_first hne
      simp only [hm, frontInto, hlen]
      split
      · rfl
      · rfl
  dropFront := by
    rw [PacketBuffer.dropFront]
    split
    · next hzero => rw [h.nil_of_len_eq_zero hzero, List.head?_nil, Option.map_none]
    · next hne =>
      obtain ⟨m, q', rfl, hm, -⟩ := h.exists_first hne
      simp [hm]
  len := h.length_eq
  usedBytes := h.usedBytes
  apart := h.placed.pairwise_apart
  enqueue_error m data err herr := by
    rcases b.enqueue_cases m data with ⟨err', -, heq⟩ | ⟨offset, hlen, hstop, -, heq⟩
    · rw [heq]
    · rw [heq] at herr
      cases herr
  dequeueInto_error out err herr := by
    rcases b.dequeueInto_cases out with ⟨result, -, heq⟩ | ⟨m, out', hne, heq⟩
    · rw [heq]
    · rw [heq] at herr
      cases herr

/-- The oldest message is removed. -/
theorem removeFirst (h : b.Holds q) (hne : b.len ≠ 0) :
  (b.removeFirst hne).Holds q.tail
  where
  messages := by
    rw [queued_removeFirst, List.map_tail, List.map_tail, ← h.messages]
    rfl
  usedBytes := by
    obtain ⟨m, q', rfl, -, hlen⟩ := h.exists_first hne
    have hused := h.usedBytes
    simp only [List.map_cons, List.sum_cons, hlen] at hused
    simp only [List.tail_cons, PacketBuffer.removeFirst]
    omega
  placed := by
    rw [extents, queued_removeFirst, List.map_tail]
    apply h.placed.tail

/-- A message is put where it meets no other. -/
theorem pushAt {m : M} {data : Bytes} {offset : ℕ} (h : b.Holds q)
    (hlen : b.len < b.metadata.length) (hstop : offset + data.length ≤ b.payload.length)
    (hplaced : Arena.Placed b.payload.length (b.extents ++ [⟨offset, data.length⟩])) :
  (b.pushAt m data offset hlen hstop).Holds (q ++ [(m, data)])
  where
  messages := by
    rw [queued_pushAt, List.map_append, List.map_append, ← h.messages]
    congr 1
    · apply List.map_congr_left
      intro slot hslot
      have hmem : slot.extent ∈ b.extents := List.mem_map_of_mem hslot
      have hapart : slot.extent.Apart ⟨offset, data.length⟩ :=
        (List.pairwise_append.mp hplaced.pairwise_apart).2.2 _ hmem _ (List.mem_singleton_self _)
      rw [message, message]
      congr 1
      apply Octets.slice_copyInto_of_apart hstop (Arena.Extent.apart_iff.mp hapart)
    · simp only [List.map_cons, List.map_nil, message, PacketBuffer.pushAt,
        Octets.slice_copyInto hstop]
  usedBytes := by
    simp [PacketBuffer.pushAt, h.usedBytes]
  placed := by
    rw [extents, queued_pushAt, List.map_append, PacketBuffer.pushAt, Octets.length_copyInto hstop]
    apply hplaced

/-- Where a message goes that is put into the buffer. -/
theorem placed_append {m : M} {data : Bytes} {offset : ℕ} (h : b.Holds q)
    (hlen : b.len < b.metadata.length) (ho : b.allocationOffset data.length = some offset)
    (hok : ¬ b.Misplaces (.enqueue m data)) :
  Arena.Placed b.payload.length (b.extents ++ [⟨offset, data.length⟩])
  := by
  by_cases hzero : b.len = 0
  · have hle := allocationOffset_add_le ho
    rw [allocationOffset, dif_pos hzero] at ho
    split at ho
    · cases ho
    · cases ho
      rw [extents, queued_of_len_eq_zero hzero]
      apply Arena.placed_singleton
      omega
  · rw [allocationOffset_eq hzero] at ho
    split at ho
    · cases ho
    · apply h.placed.append (head?_extents hzero) (getLast?_extents hzero) ho
      intro hmis
      apply hok ⟨hlen.ne, hmis⟩

/-- A buffer without messages. -/
theorem of_len_eq_zero (hzero : b.len = 0) (hused : b.usedBytes = 0) :
  b.Holds []
  where
  messages := by rw [queued_of_len_eq_zero hzero, List.map_nil, List.map_nil]
  usedBytes := hused
  placed := by
    rw [extents, queued_of_len_eq_zero hzero]
    apply Arena.placed_nil

end Holds

/-! ### Runs -/

namespace Tracked

variable {s : Tracked M}

/-- A call that does not misplace a message. -/
theorem holds_step {c : Call M} (h : s.buffer.Holds s.queue) (hok : ¬ s.buffer.Misplaces c) :
  (s.step c).buffer.Holds (s.step c).queue
  := by
  cases c with
  | enqueue m data =>
    rw [step]
    rcases s.buffer.enqueue_cases m data with ⟨err, -, heq⟩ | ⟨offset, hlen, hstop, ho, heq⟩
    · rw [heq]
      apply h
    · rw [heq]
      apply h.pushAt hlen hstop (h.placed_append hlen ho hok)
  | dequeueInto out =>
    rw [step]
    rcases s.buffer.dequeueInto_cases out with ⟨result, hresult, heq⟩ | ⟨m, out', hne, heq⟩
    · rw [heq]
      split
      · next heq' =>
        cases heq'
        exact absurd rfl (hresult _ _)
      · next heq' =>
        cases heq'
        apply h
    · rw [heq]
      apply h.removeFirst hne
  | dropFront =>
    rw [step]
    rcases s.buffer.dropFront_cases with heq | ⟨m, hne, heq⟩
    · rw [heq]
      apply h
    · rw [heq]
      apply h.removeFirst hne
  | peek => apply h
  | clear => apply Holds.of_len_eq_zero rfl rfl

/-- A message that is misplaced shares a byte with another. -/
theorem not_apart_of_misplaces {c : Call M} (h : s.buffer.Holds s.queue)
    (hmis : s.buffer.Misplaces c) :
  ¬ (s.step c).buffer.extents.Pairwise Extent.Apart
  := by
  cases c with
  | enqueue m data =>
    obtain ⟨hfull, hmis⟩ := hmis
    have hne : s.buffer.len ≠ 0 := by
      intro hzero
      obtain ⟨x, hx, -⟩ := hmis
      rw [extents, queued_of_len_eq_zero hzero] at hx
      cases hx
    obtain ⟨hroom, o, ho⟩ := hmis.exists_place (head?_extents hne) (getLast?_extents hne)
    have hfirst := s.buffer.stop_le _ (first_mem hne)
    have hlen : ¬ s.buffer.payload.length < data.length := by
      simp only [PacketMetadata.extent] at hroom
      omega
    have hoffset : s.buffer.allocationOffset data.length = some o := by
      rw [allocationOffset_eq hne, if_neg hlen, ho]
    rw [step]
    rcases s.buffer.enqueue_cases m data with ⟨err, hno, heq⟩ | ⟨offset, hlt, hstop, ho', heq⟩
    · rw [hoffset] at hno
      rcases hno with hno | hno
      · exact absurd hno hfull
      · cases hno
    · obtain rfl : o = offset := Option.some.inj (hoffset.symm.trans ho')
      obtain ⟨w, hw, hmeets⟩ :=
        h.placed.exists_not_apart (head?_extents hne) (getLast?_extents hne) ho hmis
      rw [heq]
      intro hapart
      dsimp only at hapart
      rw [extents, queued_pushAt, List.map_append] at hapart
      apply hmeets ((List.pairwise_append.mp hapart).2.2 w hw _ (List.mem_singleton_self _))
  | _ => exact hmis.elim

/-- The run of a buffer is the run of a queue as long as, and only as long as, no message is put
where the bytes of an older one lie. -/
theorem isQueue_iff (metadata : List (PacketMetadata M)) (payload : Bytes)
    (calls : List (Call M)) :
  (∀ past, past <+: calls →
      let s := Machine.run step ⟨new metadata payload, []⟩ past
      s.buffer.IsQueue s.queue) ↔
    Machine.Along step (fun s c => ¬ s.buffer.Misplaces c) ⟨new metadata payload, []⟩ calls
  := by
  apply Machine.forall_isPrefix_iff (I := fun s : Tracked M => s.buffer.Holds s.queue)
    (P := fun s : Tracked M => s.buffer.IsQueue s.queue)
  · intro s h
    apply h.isQueue
  · intro s c h hok
    apply holds_step h hok
  · intro s c h hqueue hmis
    apply not_apart_of_misplaces h hmis hqueue.apart
  · apply Holds.of_len_eq_zero rfl rfl

/-- Three messages fill the arena, and a fourth one takes the place of the first.  The fifth is then
put over the second, the oldest one left, whose first byte is lost. -/
theorem not_isQueue_full :
  let calls : List (Call ℕ) :=
    [.enqueue 1 (List.replicate 4 1#8), .enqueue 2 (List.replicate 4 2#8),
      .enqueue 3 (List.replicate 4 3#8), .dropFront, .enqueue 4 (List.replicate 4 4#8),
      .enqueue 5 [5#8]]
  let s := Machine.run step
    ⟨new (List.replicate 5 .empty) (List.replicate 12 0#8), []⟩ calls
  s.queue = [(2, List.replicate 4 2#8), (3, List.replicate 4 3#8), (4, List.replicate 4 4#8),
      (5, [5#8])] ∧
    s.buffer.peek = some (2, [5#8, 2#8, 2#8, 2#8]) ∧ ¬ s.buffer.IsQueue s.queue
  := by
  intro calls s
  have hpeek : s.buffer.peek = some (2, [5#8, 2#8, 2#8, 2#8]) := by decide +kernel
  have hqueue : s.queue = [(2, List.replicate 4 2#8), (3, List.replicate 4 3#8),
      (4, List.replicate 4 4#8), (5, [5#8])] := by decide +kernel
  use hqueue, hpeek
  intro h
  rw [hqueue] at h
  have := h.peek
  rw [hpeek] at this
  revert this
  decide

end Tracked

end PacketBuffer

end SmolGnet
