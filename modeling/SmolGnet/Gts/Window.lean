import SmolGnet.Gts.Reliable

/-!
# The receive window

A receiver keeps early messages only when they are at most 32 sequence numbers ahead of
the expected one, whatever packets it is given (`Windowed`), so at most 32 of them wait
at a time.  The receiver *holds* a sequence number that is below the expected one or that
waits; its acknowledgement covers only sequence numbers it holds.
-/

namespace SmolGnet

namespace ReliableRx

/-- Every message that waits is between 1 and 32 sequence numbers ahead of the expected
one. -/
def Windowed (rx : ReliableRx) : Prop :=
  ∀ k ∈ rx.pending, k ≠ rx.nextExpected ∧ k - rx.nextExpected ≤ 32#32

/-- The receiver has accepted the message with sequence number `k`. -/
def Holds (rx : ReliableRx) (k : U32) : Prop :=
  k < rx.nextExpected ∨ k ∈ rx.pending

theorem windowed_new (capacity : ℕ) :
  (new capacity).Windowed
  := by
  intro k hk
  cases Std.ExtTreeMap.not_mem_empty hk

/-- The delivery loop keeps the messages that wait within the window. -/
theorem drain_window
    (n : ℕ) {rx : ReliableRx} (h : ∀ k ∈ rx.pending, k - rx.nextExpected ≤ 32#32) :
  ∀ k ∈ (drain n rx).pending, k - (drain n rx).nextExpected ≤ 32#32
  := by
  apply drain_induction (P := fun rx' => ∀ k ∈ rx'.pending, k - rx'.nextExpected ≤ 32#32) _ n h
  intro rx' v hrx' _ k hk
  obtain ⟨hne, hmem⟩ := Std.ExtTreeMap.mem_erase.mp hk
  have hk' : k ≠ rx'.nextExpected := by
    intro heq
    apply hne
    rw [heq, Std.compare_self]
  have hdist := hrx' k hmem
  simp only [deliverNext]
  bv_omega

/-- A packet, whatever it is, keeps the messages that wait within the window. -/
theorem receive_windowed
    {rx rx' : ReliableRx} {seq : U32} {data : Bytes} {b : Bool} (hw : rx.Windowed)
    (h : rx.receive seq data = .ok (b, rx')) :
  rx'.Windowed
  := by
  obtain ⟨-, -, rfl⟩ | ⟨-, -, -, rfl⟩ | ⟨hlt, hdist, -, -, rfl⟩ := receive_eq_ok h
  · apply hw
  · intro k hk
    constructor
    · rintro rfl
      have hnone := @drain_complete rx.pending.size (rx.accept data) le_rfl
      rw [Std.ExtTreeMap.mem_iff_isSome_getElem?, hnone] at hk
      cases hk
    · apply drain_window _ _ k hk
      intro k' hk'
      obtain ⟨hne, hle⟩ := hw k' hk'
      simp only [accept]
      bv_omega
  · intro k hk
    rcases Std.ExtTreeMap.mem_insertIfNew.mp hk with heq | hmem
    · obtain rfl := Std.LawfulEqCmp.eq_of_compare heq
      use (by simp only; bv_omega), hdist
    · apply hw k hmem

/-- At most 32 messages wait at a time. -/
theorem Windowed.size_le {rx : ReliableRx} (hw : rx.Windowed) :
  rx.pending.size ≤ 32
  := by
  apply TreeMap.size_le_of_injOn rx.pending (fun k => (k - rx.nextExpected).toNat - 1)
  · intro k hk
    obtain ⟨hne, hle⟩ := hw k hk
    bv_omega
  · intro k hk k' hk' heq
    obtain ⟨hne, hle⟩ := hw k hk
    obtain ⟨hne', hle'⟩ := hw k' hk'
    bv_omega

/-- Bit `d` of the bitmap is set exactly when the sequence number `d` after the one that
follows the base waits. -/
theorem getLsbD_bitmap (rx : ReliableRx) (base k : U32) (hd : k - base - 1#32 < 32#32) :
  (rx.bitmap base).getLsbD (k - base - 1#32).toNat = true ↔ k ∈ rx.pending
  := by
  have hd' : (k - base - 1#32).toNat < 32 := by bv_omega
  rw [bitmap, Bitmap.getLsbD_foldl_set _ hd' (by decide), BitVec.getLsbD_zero, Bool.false_or,
    List.any_eq_true]
  constructor
  · rintro ⟨seq, hseq, heq⟩
    have hk : seq = k := by
      have := beq_iff_eq.mp heq
      bv_omega
    rw [← hk]
    apply Std.ExtTreeMap.mem_keys.mp hseq
  · intro hk
    use k, Std.ExtTreeMap.mem_keys.mpr hk
    apply beq_self_eq_true

/-- Once the expected sequence number is not 0, the acknowledgement covers a sequence
number exactly when it is below the expected one, or waits fewer than 32 ahead of it. -/
theorem acked_iff (rx : ReliableRx) (hpos : rx.nextExpected ≠ 0#32) (k : U32) :
  acked (rx.nextExpected - 1#32) (rx.bitmap (rx.nextExpected - 1#32)) k = true ↔
    k < rx.nextExpected ∨ (k ∈ rx.pending ∧ k - rx.nextExpected < 32#32)
  := by
  have hbase : k ≤ rx.nextExpected - 1#32 ↔ k < rx.nextExpected := by bv_omega
  have hdist : k - (rx.nextExpected - 1#32) - 1#32 = k - rx.nextExpected := by bv_omega
  unfold acked
  by_cases hlt : k < rx.nextExpected
  · simp [hbase, hlt]
  · simp only [hbase, hlt, if_false, Bool.and_eq_true, decide_eq_true_eq, bne_iff_ne, false_or]
    rw [Bitmap.and_one_shiftLeft_ne_zero]
    constructor
    · rintro ⟨hd, hbit⟩
      use (getLsbD_bitmap rx _ k hd).mp hbit
      rwa [← hdist]
    · rintro ⟨hmem, hd⟩
      rw [← hdist] at hd
      use hd, (getLsbD_bitmap rx _ k hd).mpr hmem

/-- The acknowledgement covers only sequence numbers the receiver holds. -/
theorem holds_of_acked
    {rx : ReliableRx} {a : Ack} (hpos : rx.seenAny → rx.nextExpected ≠ 0#32)
    (ha : rx.ack = some a) {k : U32} (hk : acked a.base a.bitmap k = true) :
  rx.Holds k
  := by
  unfold ack at ha
  split at ha
  · cases ha
  · next hseen =>
    obtain rfl := Option.some.inj ha
    have hpos' := hpos (by simpa using hseen)
    rcases (acked_iff rx hpos' k).mp hk with hlt | ⟨hmem, -⟩
    · apply Or.inl hlt
    · apply Or.inr hmem

end ReliableRx

end SmolGnet
