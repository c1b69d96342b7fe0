import SmolGnet.Dlp.Endpoint

/-!
# Cutting packets into flits

The flits of a frame are the words of its bytes, the last one padded with zeros.  The
bytes of the words, cut to the length of the frame, are the bytes of the frame; so a
receiver that knows how long the frame is gets it back.
-/

namespace SmolGnet

open Octets

namespace TxFrame

/-- The flits of the frame, sent or not. -/
def flits (frame : TxFrame) : List Flit :=
  (List.range frame.flitLen).map frame.flitAt

/-- The flits that have not been sent. -/
def rest (frame : TxFrame) : List Flit :=
  frame.flits.drop frame.flitOffset

@[simp]
theorem length_flits (frame : TxFrame) :
  frame.flits.length = frame.flitLen
  := by
  rw [flits, List.length_map, List.length_range]

theorem getElem?_flits {frame : TxFrame} {i : ℕ} (h : i < frame.flitLen) :
  frame.flits[i]? = some (frame.flitAt i)
  := by
  rw [flits, List.getElem?_map, List.getElem?_range h, Option.map_some]

theorem vcid_of_mem_flits {frame : TxFrame} {flit : Flit} (h : flit ∈ frame.flits) :
  flit.vcid = frame.vcid
  := by
  obtain ⟨i, -, rfl⟩ := List.mem_map.mp h
  rfl

/-- The word with the index `i`, within the frame, is a slice of the padded frame. -/
theorem toBeBytes_flitAt {frame : TxFrame} {i : ℕ} (h : i < frame.flitLen) :
  toBeBytes (frame.flitAt i).data = slice (frame.bytes ++ List.replicate 3 0#8) (4 * i) 4
  := by
  rw [flitLen] at h
  have hword : copyInto (List.replicate 4 0#8) 0
        (slice frame.bytes (i * 4) (min (i * 4 + 4) frame.bytes.length - i * 4))
      = slice (frame.bytes ++ List.replicate 3 0#8) (4 * i) 4 := by
    have htake : slice frame.bytes (i * 4) (min (i * 4 + 4) frame.bytes.length - i * 4)
        = slice frame.bytes (4 * i) 4 := by
      rw [slice, slice, Nat.mul_comm, List.take_eq_take_iff, List.length_drop]
      omega
    rw [htake, copyInto_zero, slice, slice,
      List.drop_append_of_le_length (by omega), List.take_append, List.drop_replicate,
      List.take_replicate, List.length_take, List.length_drop]
    congr 2
    omega
  rw [flitAt, hword]
  apply toBeBytes_fromBeBytes
  simp only [slice, List.length_take, List.length_drop, List.length_append, List.length_replicate]
  omega

/-- The bytes of the first `n` flits. -/
theorem flatMap_take_flits {frame : TxFrame} {n : ℕ} (h : n ≤ frame.flitLen) :
  (frame.flits.take n).flatMap (fun flit => toBeBytes flit.data)
    = (frame.bytes ++ List.replicate 3 0#8).take (4 * n)
  := by
  induction n with
  | zero => rfl
  | succ n ih =>
    rw [List.take_add_one, getElem?_flits h, Option.toList_some, List.flatMap_append,
      ih (Nat.le_of_succ_le h), List.flatMap_singleton, toBeBytes_flitAt h, slice, Nat.mul_succ,
      List.take_add]

/-- The bytes of all the flits, cut to the length of the frame, are those of the frame. -/
theorem take_flatMap_flits (frame : TxFrame) :
  (frame.flits.flatMap (fun flit => toBeBytes flit.data)).take frame.bytes.length
    = frame.bytes
  := by
  have hlen : frame.bytes.length ≤ 4 * frame.flitLen := by
    rw [flitLen]
    omega
  have hall := flatMap_take_flits (Nat.le_refl frame.flitLen)
  rw [List.take_of_length_le (Nat.le_of_eq frame.length_flits)] at hall
  rw [hall, List.take_take, Nat.min_eq_left hlen, List.take_left]

/-! ### Sending -/

theorem rest_eq_nil_of_nextFlit {frame : TxFrame} (h : frame.nextFlit = none) :
  frame.rest = []
  := by
  simp only [nextFlit, ite_eq_left_iff, reduceCtorEq, imp_false, not_not] at h
  apply List.drop_of_length_le
  rwa [length_flits]

/-- The next flit is the first of those that have not been sent. -/
theorem rest_of_nextFlit {frame frame' : TxFrame} {flit : Flit}
    (h : frame.nextFlit = some (flit, frame')) :
  frame.rest = flit :: frame'.rest
  := by
  rw [nextFlit] at h
  split at h
  · cases h
  · next hlt =>
    cases h
    have hlt' := Nat.lt_of_not_le hlt
    rw [rest, List.drop_eq_getElem?_toList_append, getElem?_flits hlt']
    rfl

theorem rest_eq_nil_of_remainingFlits {frame : TxFrame} (h : frame.remainingFlits = 0) :
  frame.rest = []
  := by
  apply List.drop_of_length_le
  rw [length_flits]
  exact Nat.le_of_sub_eq_zero h

end TxFrame

/-- The flits of a queue that have not been sent. -/
def queueRest (queue : List TxFrame) : List Flit :=
  queue.flatMap TxFrame.rest

theorem queueRest_dropWhile (queue : List TxFrame) :
  queueRest (queue.dropWhile (fun frame => frame.nextFlit.isNone)) = queueRest queue
  := by
  induction queue with
  | nil => rfl
  | cons frame queue ih =>
    rw [List.dropWhile_cons]
    split
    · next h =>
      rw [ih, queueRest, queueRest, List.flatMap_cons,
        TxFrame.rest_eq_nil_of_nextFlit (Option.isNone_iff_eq_none.mp h), List.nil_append]
    · rfl

namespace DlpEndpoint

/-- The flits that are sent are the first of those left, one credit is used for each, and
there are at most as many as the buffer has room for. -/
theorem emitQueueFlits_spec (room : ℕ) (queue : List TxFrame) (credit : U32) :
  queueRest queue = (emitQueueFlits room queue credit).1
      ++ queueRest (emitQueueFlits room queue credit).2.1 ∧
    (emitQueueFlits room queue credit).1.length + (emitQueueFlits room queue credit).2.2.toNat
      = credit.toNat ∧
    (emitQueueFlits room queue credit).1.length ≤ room
  := by
  induction room generalizing queue credit with
  | zero => simp [emitQueueFlits]
  | succ room ih =>
    rw [emitQueueFlits]
    split
    · simp
    · next hcredit =>
      rw [← queueRest_dropWhile]
      split
      · next hnil => simp [hnil, queueRest]
      · next front rest hcons =>
        rw [hcons]
        split
        · simp
        · next flit front' hflit =>
          dsimp only
          generalize hq : (if front'.remainingFlits = 0 then rest else front' :: rest) = queue'
          have hqueue : queueRest (front :: rest) = flit :: queueRest queue' := by
            rw [queueRest, List.flatMap_cons, TxFrame.rest_of_nextFlit hflit, ← hq]
            split
            · next hzero =>
              rw [TxFrame.rest_eq_nil_of_remainingFlits hzero]
              rfl
            · rfl
          have hone : (credit - 1#32).toNat + 1 = credit.toNat := by bv_omega
          obtain ⟨hrest, hlen, hroom⟩ := ih queue' (credit - 1#32)
          rw [hqueue, hrest, List.length_cons]
          refine ⟨rfl, ?_, Nat.succ_le_succ hroom⟩
          rw [← hone, ← hlen]
          exact Nat.add_right_comm _ _ _

/-- What holds of the frames of a queue, as long as flits of them are left, holds of those that are
left when flits are sent. -/
theorem forall_emitQueueFlits {P : TxFrame → Prop}
    (hP : ∀ frame, P frame → 0 < TxFrame.remainingFlits { frame with flitOffset := frame.flitOffset + 1 } →
      P { frame with flitOffset := frame.flitOffset + 1 }) (room : ℕ)
    {queue : List TxFrame} (credit : U32) (h : ∀ frame ∈ queue, P frame) :
  ∀ frame ∈ (emitQueueFlits room queue credit).2.1, P frame
  := by
  induction room generalizing queue credit with
  | zero => exact h
  | succ room ih =>
    rw [emitQueueFlits]
    split
    · exact h
    have hdrop : ∀ frame ∈ queue.dropWhile (fun frame => frame.nextFlit.isNone), P frame :=
      fun frame hframe => h frame ((List.dropWhile_sublist _).subset hframe)
    split
    · nofun
    next front rest hcons =>
    rw [hcons, List.forall_mem_cons] at hdrop
    split
    · exact List.forall_mem_cons.mpr hdrop
    next flit front' hflit =>
    dsimp only
    apply ih
    split
    · exact hdrop.2
    next hleft =>
    rw [List.forall_mem_cons]
    refine ⟨?_, hdrop.2⟩
    rw [TxFrame.nextFlit] at hflit
    split at hflit
    · cases hflit
    · cases hflit
      exact hP front hdrop.1 (Nat.pos_of_ne_zero hleft)

end DlpEndpoint

/-! ### Receiving -/

namespace TxFrame

/-- What a receiver holds of the frame after its first `n` flits. -/
def segment (frame : TxFrame) (n : ℕ) : RxSegment where
  bytes := (frame.flits.take n).flatMap (fun flit => toBeBytes flit.data)
  expectedBytes := frame.bytes.length
  expectedFlits := frame.flitLen
  receivedFlits := n
  traffic := frame.vcid.traffic

/-- The frame is that of a canonical packet. -/
structure Carries (cfg : GdpWireConfig) (localPrefix : U64) (frame : TxFrame)
    (packet : GdpPacket) : Prop where
  canonical : packet.Canonical localPrefix
  bytes_eq : frame.bytes = packet.wire cfg

/-- The first flit is the first word of the header. -/
theorem Carries.data_flitAt_zero
    {cfg : GdpWireConfig} {localPrefix : U64} {frame : TxFrame} {packet : GdpPacket}
    (h : frame.Carries cfg localPrefix packet) :
  0 < frame.flitLen ∧ (frame.flitAt 0).data = packet.header.word1 cfg
  := by
  have hpos : 0 < frame.flitLen := by
    rw [flitLen, h.bytes_eq, GdpPacket.length_wire, GdpHeader.headerLen_eq]
    omega
  have hbytes := toBeBytes_flitAt hpos
  rw [h.bytes_eq, GdpPacket.wire, List.append_assoc,
    slice_zero_append (length_toBeBytes _)] at hbytes
  use hpos
  rw [← fromBeBytes_toBeBytes (by rfl) (frame.flitAt 0).data, hbytes,
    fromBeBytes_toBeBytes (by rfl)]

end TxFrame

namespace DlpEndpoint

variable {e : DlpEndpoint} {frame : TxFrame} {packet : GdpPacket}

/-- The first flit tells the length of the frame. -/
theorem openSegment_of_carries (h : frame.Carries e.cfg e.localPrefix packet) :
  e.openSegment frame.vcid.traffic (frame.flitAt 0).data = .ok (frame.segment 0)
  := by
  have hlen : frame.bytes.length = packet.header.headerLen + packet.header.sizeClass.bytes := by
    rw [h.bytes_eq, GdpPacket.length_wire, h.canonical.length_eq]
  rw [h.data_flitAt_zero.2, openSegment, GdpHeader.fromWire_word1]
  simp only [GdpHeader.formFromBit_word1, TxFrame.segment, TxFrame.flitLen, hlen,
    List.take_zero, List.flatMap_nil, GdpHeader.headerLen]
  cases packet.header.addresses with
  | «global» d s => rfl
  | «local» d s p => rfl

theorem segment_push {n : ℕ} (hn : n < frame.flitLen) :
  (frame.segment n).push (frame.flitAt n).data = frame.segment (n + 1)
  := by
  simp only [TxFrame.segment, RxSegment.push, List.take_add_one, TxFrame.getElem?_flits hn,
    Option.toList_some, List.flatMap_append, List.flatMap_singleton]

theorem segment_traffic (frame : TxFrame) (n : ℕ) :
  ¬ (frame.segment n).traffic ≠ (frame.flitAt n).vcid.traffic
  := not_not.mpr rfl

/-- A flit that is not the last of its frame is kept. -/
theorem extendSegment_of_lt {n : ℕ} (hn : n + 1 < frame.flitLen) :
  e.extendSegment (frame.segment n) (frame.flitAt n)
    = (.ok none, e.setRx frame.vcid (some (frame.segment (n + 1))))
  := by
  rw [extendSegment, segment_push (Nat.lt_of_succ_lt hn), if_neg (segment_traffic frame n)]
  exact if_pos hn

/-- The last flit of a frame completes the packet. -/
theorem extendSegment_last {n : ℕ} (h : frame.Carries e.cfg e.localPrefix packet)
    (hn : n + 1 = frame.flitLen) :
  e.extendSegment (frame.segment n) (frame.flitAt n)
    = (.ok (some packet),
        (e.setRx frame.vcid none).releaseSegment frame.vcid.traffic frame.flitLen)
  := by
  have hbytes : (frame.segment frame.flitLen).bytes.take frame.bytes.length
      = packet.wire e.cfg := by
    simp only [TxFrame.segment]
    rw [List.take_of_length_le (Nat.le_of_eq frame.length_flits), TxFrame.take_flatMap_flits,
      h.bytes_eq]
  have hdecode := GdpPacket.decode_wire h.canonical e.cfg
  rw [← hbytes] at hdecode
  have hlast : ¬ (frame.segment frame.flitLen).receivedFlits
      < (frame.segment frame.flitLen).expectedFlits := Nat.lt_irrefl _
  rw [extendSegment, segment_push (Nat.lt_of_succ_le (Nat.le_of_eq hn)), hn,
    if_neg (segment_traffic frame n), if_neg hlast, finishSegment]
  dsimp only [TxFrame.segment, TxFrame.flitAt] at hdecode ⊢
  cases frame.vcid.traffic with
  | control =>
    dsimp only [releaseSegment, setRx]
    rw [hdecode]
  | data =>
    dsimp only [releaseSegment, releaseDataSegment, setRx]
    rw [hdecode]

end DlpEndpoint

end SmolGnet
