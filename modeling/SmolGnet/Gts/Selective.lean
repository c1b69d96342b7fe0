import SmolGnet.Gts.Window
import SmolGnet.Library.Machine

/-!
# The selective acknowledgement

A receiver takes early messages up to 32 sequence numbers ahead of the expected one, and the
bitmap of its acknowledgement has a bit for the expected one and for the 31 after it.  The last
place of the window therefore has no bit: the acknowledgement says exactly which messages the
receiver has, unless a message waits there.

A run of a receiver is a sequence of packets, of messages handed over and of resets.  The number
of messages put in order since the last reset tells what the expected sequence number is, up to
its wrap.
-/

namespace SmolGnet

namespace ReliableRx

/-- Every message that waits is above the expected one. -/
def Ahead (rx : ReliableRx) : Prop :=
  ∀ k ∈ rx.pending, rx.nextExpected < k

/-! ### The messages that wait are ahead -/

theorem ahead_of_pending_empty {rx : ReliableRx} (h : rx.pending = ∅) :
  rx.Ahead
  := by
  intro k hk
  rw [h] at hk
  cases Std.ExtTreeMap.not_mem_empty hk

/-- The delivery loop does not pass a message that waits. -/
theorem drain_le_pending
    (n : ℕ) {rx : ReliableRx} (h : ∀ k ∈ rx.pending, rx.nextExpected ≤ k) :
  ∀ k ∈ (drain n rx).pending, (drain n rx).nextExpected ≤ k
  := by
  apply drain_induction (P := fun rx' => ∀ k ∈ rx'.pending, rx'.nextExpected ≤ k) _ n h
  intro rx' v hrx' _ k hk
  obtain ⟨hne, hmem⟩ := Std.ExtTreeMap.mem_erase.mp hk
  have hk' : k ≠ rx'.nextExpected := by
    intro heq
    apply hne
    rw [heq, Std.compare_self]
  have hle := hrx' k hmem
  simp only [deliverNext]
  bv_omega

/-- The loop only takes messages out of `pending`. -/
theorem mem_of_mem_drain (n : ℕ) (rx : ReliableRx) :
  ∀ k ∈ (drain n rx).pending, k ∈ rx.pending
  := by
  apply drain_induction (P := fun rx' => ∀ k ∈ rx'.pending, k ∈ rx.pending) _ n (fun _ h => h)
  intro rx' v hrx' _ k hk
  exact hrx' k (Std.ExtTreeMap.mem_of_mem_erase hk)

theorem Ahead.receive
    {rx rx' : ReliableRx} {seq : U32} {data : Bytes} {b : Bool} (ha : rx.Ahead)
    (h : rx.receive seq data = .ok (b, rx')) :
  rx'.Ahead
  := by
  obtain ⟨-, -, rfl⟩ | ⟨-, -, -, rfl⟩ | ⟨hlt, -, -, -, rfl⟩ := receive_eq_ok h
  · exact ha
  · intro k hk
    have hne : k ≠ (drain rx.pending.size (rx.accept data)).nextExpected := by
      rintro rfl
      have hnone := @drain_complete rx.pending.size (rx.accept data) le_rfl
      rw [Std.ExtTreeMap.mem_iff_isSome_getElem?, hnone] at hk
      cases hk
    have hwaits : ∀ k ∈ (rx.accept data).pending, (rx.accept data).nextExpected ≤ k := by
      intro k' hk'
      have hlt := ha k' hk'
      simp only [accept]
      bv_omega
    have hle := drain_le_pending rx.pending.size hwaits k hk
    bv_omega
  · intro k hk
    rcases Std.ExtTreeMap.mem_insertIfNew.mp hk with heq | hmem
    · obtain rfl := Std.LawfulEqCmp.eq_of_compare heq
      exact hlt
    · exact ha k hmem

/-- The delivery loop moves the expected sequence number by the number of messages it delivers. -/
theorem drain_nextExpected (n : ℕ) (rx : ReliableRx) :
  rx.delivered.length ≤ (drain n rx).delivered.length ∧
    (drain n rx).nextExpected = rx.nextExpected +
      BitVec.ofNat 32 ((drain n rx).delivered.length - rx.delivered.length)
  := by
  apply drain_induction (P := fun rx' => rx.delivered.length ≤ rx'.delivered.length ∧
    rx'.nextExpected = rx.nextExpected +
      BitVec.ofNat 32 (rx'.delivered.length - rx.delivered.length))
  · rintro rx' v ⟨hle, hnext⟩ _
    simp only [deliverNext, List.length_append, List.length_singleton]
    use by omega
    rw [hnext, Nat.sub_add_comm hle, BitVec.ofNat_add, BitVec.add_assoc]
  · use le_rfl
    rw [Nat.sub_self]
    exact (BitVec.add_zero _).symm

/-- The loop delivers at most as many messages as wait. -/
theorem drain_delivered_le (n : ℕ) (rx : ReliableRx) :
  (drain n rx).delivered.length ≤ rx.delivered.length + rx.pending.size
  := by
  have hused := (drain_used n rx).1
  rw [used, used] at hused
  omega

/-! ### Runs of a receiver -/

/-- What happens at a receiver: a packet arrives, the application takes a message, the receiver
is reset. -/
inductive Input
  | receive (seq : U32) (data : Bytes)
  | recv
  | reset

/-- A receiver, with the number of messages it has put in order since it was last reset. -/
structure Counted where
  rx : ReliableRx
  received : ℕ

namespace Counted

/-- A new receiver with room for `capacity` messages. -/
def new (capacity : ℕ) : Counted :=
  ⟨.new capacity, 0⟩

/-- One input; a packet that is refused changes nothing. -/
def step (s : Counted) : Input → Counted
  | .receive seq data =>
    match s.rx.receive seq data with
    | .error _ => s
    | .ok (_, rx) => ⟨rx, s.received + (rx.delivered.length - s.rx.delivered.length)⟩
  | .recv => { s with rx := s.rx.recv.2 }
  | .reset => ⟨s.rx.reset, 0⟩

/-- As long as fewer than 2^32 messages have been put in order, the acknowledgement covers exactly
the sequence numbers below the expected one and those that wait. -/
def Exact (s : Counted) : Prop :=
  s.received < 2 ^ 32 → ∀ a, s.rx.ack = some a →
    ∀ k, acked a.base a.bitmap k = true ↔ k < s.rx.nextExpected ∨ k ∈ s.rx.pending

/-- The input is an early message for the last place of the window, which is free, when messages
have already come in order. -/
def FillsLast (s : Counted) : Input → Prop
  | .receive seq _ =>
    s.received < 2 ^ 32 ∧ s.rx.seenAny ∧ s.rx.nextExpected < seq ∧
      seq - s.rx.nextExpected = 32#32 ∧ s.rx.used < s.rx.capacity
  | _ => False

/-- What is known of a receiver after any run. -/
structure Inv (s : Counted) : Prop where
  windowed : s.rx.Windowed
  ahead : s.rx.Ahead
  nextExpected : s.rx.nextExpected = BitVec.ofNat 32 s.received
  seenAny : s.rx.seenAny → s.received ≠ 0

theorem inv_new (capacity : ℕ) :
  (new capacity).Inv
  where
  windowed := windowed_new capacity
  ahead := ahead_of_pending_empty rfl
  nextExpected := rfl
  seenAny := nofun

/-- A packet that is accepted, with what it adds to the count. -/
theorem Inv.receive
    {s : Counted} {rx : ReliableRx} {seq : U32} {data : Bytes} {b : Bool} (h : s.Inv)
    (hreceive : s.rx.receive seq data = .ok (b, rx)) :
  Inv ⟨rx, s.received + (rx.delivered.length - s.rx.delivered.length)⟩
  := by
  have hwindowed := receive_windowed h.windowed hreceive
  have hahead := h.ahead.receive hreceive
  obtain ⟨-, -, rfl⟩ | ⟨-, -, -, rfl⟩ | ⟨-, -, -, -, rfl⟩ := receive_eq_ok hreceive
  · rw [Nat.sub_self]
    exact h
  · obtain ⟨hle, hnext⟩ := drain_nextExpected s.rx.pending.size (s.rx.accept data)
    have hlength : (s.rx.accept data).delivered.length = s.rx.delivered.length + 1 := by
      rw [accept, List.length_append, List.length_singleton]
    have hcount : s.received + ((drain s.rx.pending.size (s.rx.accept data)).delivered.length
        - s.rx.delivered.length) = s.received + 1
          + ((drain s.rx.pending.size (s.rx.accept data)).delivered.length
            - (s.rx.accept data).delivered.length) := by
      omega
    rw [hcount]
    refine ⟨hwindowed, hahead, ?_, fun _ => Nat.ne_of_gt (by dsimp only; omega)⟩
    have hstart : (s.rx.accept data).nextExpected = s.rx.nextExpected + 1#32 := rfl
    dsimp only
    rw [hnext, hstart, h.nextExpected, BitVec.ofNat_add, BitVec.ofNat_add]
  · refine ⟨hwindowed, hahead, ?_, ?_⟩
    · rw [Nat.sub_self]
      exact h.nextExpected
    · rw [Nat.sub_self]
      exact h.seenAny

theorem Inv.step {s : Counted} (h : s.Inv) (i : Input) :
  (s.step i).Inv
  := by
  cases i with
  | receive seq data =>
    rw [Counted.step]
    split
    · exact h
    · next hreceive => exact h.receive hreceive
  | recv =>
    rw [Counted.step, recv]
    split
    · exact h
    · exact { h with }
  | reset =>
    exact ⟨fun k hk => absurd hk Std.ExtTreeMap.not_mem_empty, ahead_of_pending_empty rfl, rfl,
      nofun⟩

/-- The acknowledgement is exact when no message waits in the last place of the window, and only
then. -/
theorem Inv.exact_iff {s : Counted} (h : s.Inv) :
  s.Exact ↔ (s.received < 2 ^ 32 → s.rx.seenAny → s.rx.nextExpected + 32#32 ∉ s.rx.pending)
  := by
  by_cases hlt : s.received < 2 ^ 32
  · cases hseen : s.rx.seenAny with
    | false => simp [Exact, ack, hseen]
    | true =>
      have hne : s.rx.nextExpected ≠ 0#32 := by
        have hpos := h.seenAny hseen
        rw [h.nextExpected]
        intro hzero
        have hnat := congrArg BitVec.toNat hzero
        rw [BitVec.toNat_ofNat, Nat.mod_eq_of_lt hlt] at hnat
        exact hpos hnat
      have hack : s.rx.ack = some ⟨s.rx.nextExpected - 1#32,
          s.rx.bitmap (s.rx.nextExpected - 1#32), s.rx.credit⟩ := by
        simp [ack, hseen]
      constructor
      · intro hexact _ _ hmem
        have hcovered := (hexact hlt _ hack _).mpr (.inr hmem)
        have hahead := h.ahead _ hmem
        rcases (acked_iff s.rx hne _).mp hcovered with hbelow | ⟨-, hdist⟩
        · bv_omega
        · bv_omega
      · intro hlast _ a ha k
        obtain rfl := Option.some.inj (hack.symm.trans ha)
        rw [acked_iff s.rx hne k]
        constructor
        · rintro (hbelow | ⟨hmem, -⟩)
          · exact .inl hbelow
          · exact .inr hmem
        · rintro (hbelow | hmem)
          · exact .inl hbelow
          · refine .inr ⟨hmem, ?_⟩
            have hdist := (h.windowed k hmem).2
            have hk : k ≠ s.rx.nextExpected + 32#32 := by
              rintro rfl
              exact hlast hlt rfl hmem
            bv_omega
  · constructor
    · intro _ hlt'
      exact absurd hlt' hlt
    · intro _ hlt'
      exact absurd hlt' hlt

/-- Of a receiver whose acknowledgement is exact, one input leaves an exact acknowledgement unless
it fills the last place of the window. -/
theorem Inv.exact_step_iff {s : Counted} (h : s.Inv) (hexact : s.Exact) (i : Input) :
  (s.step i).Exact ↔ ¬ s.FillsLast i
  := by
  have hlast := h.exact_iff.mp hexact
  rw [(h.step i).exact_iff]
  cases i with
  | receive seq data =>
    rw [Counted.step, FillsLast]
    cases hreceive : s.rx.receive seq data with
    | error err =>
      dsimp only
      refine iff_of_true hlast ?_
      rintro ⟨-, -, hlt, hdist, hroom⟩
      rw [ReliableRx.receive, if_neg (by bv_omega), if_neg (by bv_omega)] at hreceive
      dsimp only at hreceive
      have haccepted : ¬ (32#32 < seq - s.rx.nextExpected ∨ s.rx.capacity ≤ s.rx.used) := by
        rw [not_or, hdist]
        exact ⟨by decide, Nat.not_le.mpr hroom⟩
      rw [if_neg haccepted] at hreceive
      cases hreceive
    | ok result =>
      obtain ⟨b, rx⟩ := result
      dsimp only
      obtain ⟨hlt, -, rfl⟩ | ⟨rfl, -, -, rfl⟩ | ⟨hlt, hdist, hroom, -, rfl⟩ :=
        receive_eq_ok hreceive
      · rw [Nat.sub_self]
        refine iff_of_true hlast ?_
        rintro ⟨-, -, hgt, -⟩
        bv_omega
      · refine iff_of_true ?_ (by rintro ⟨-, -, hgt, -⟩; bv_omega)
        intro _ _ hmem
        -- At most 32 messages waited, so the window has moved by at least 1 and at most 33.
        obtain ⟨-, hnext⟩ := drain_nextExpected s.rx.pending.size (s.rx.accept data)
        have hmoved := drain_delivered_le s.rx.pending.size (s.rx.accept data)
        have hsize : (s.rx.accept data).pending.size ≤ 32 := h.windowed.size_le
        have hold : _ ∈ s.rx.pending := mem_of_mem_drain _ (s.rx.accept data) _ hmem
        have hdist := (h.windowed _ hold).2
        have hstart : (s.rx.accept data).nextExpected = s.rx.nextExpected + 1#32 := rfl
        rw [hnext, hstart] at hdist
        bv_omega
      · rw [Nat.sub_self, Nat.add_zero]
        dsimp only
        constructor
        · rintro hfree ⟨hreceived, hseen, -, hlast, -⟩
          apply hfree hreceived hseen
          have hseq : seq = s.rx.nextExpected + 32#32 := by bv_omega
          rw [hseq]
          exact Std.ExtTreeMap.mem_insertIfNew_self
        · intro hfills hreceived hseen hmem
          rcases Std.ExtTreeMap.mem_insertIfNew.mp hmem with heq | hmem
          · obtain rfl := Std.LawfulEqCmp.eq_of_compare heq
            exact hfills ⟨hreceived, hseen, hlt, by bv_omega, hroom⟩
          · exact hlast hreceived hseen hmem
  | recv =>
    rw [Counted.step, recv]
    split
    · exact iff_of_true hlast id
    · exact iff_of_true hlast id
  | reset =>
    refine iff_of_true ?_ id
    intro _ hseen
    cases hseen

/-- In a run of a receiver the acknowledgement is exact in every state, exactly when no message
is taken into the last place of the window. -/
theorem exact_iff_notFillsLast (capacity : ℕ) (inputs : List Input) :
  (∀ start, start <+: inputs → (Machine.run step (new capacity) start).Exact) ↔
    Machine.Along step (fun s i => ¬ s.FillsLast i) (new capacity) inputs
  := by
  apply Machine.forall_isPrefix_iff_along (I := Inv) (fun _ i h => h.step i)
  · intro s i h hexact
    exact (h.exact_step_iff hexact i).mpr
  · intro s i h hexact
    exact (h.exact_step_iff hexact i).mp
  · exact inv_new capacity
  · apply (inv_new capacity).exact_iff.mpr
    intro _ hseen
    cases hseen

/-- The first message arrives, and after it the one that is 32 ahead of the next one.  It waits,
and the acknowledgement has no bit for it. -/
theorem not_exact_last :
  let inputs : List Input := [.receive 0#32 [1#8], .receive 33#32 [2#8]]
  let s := Machine.run step (new 4) inputs
  s.received = 1 ∧ s.rx.ack = some ⟨0#32, 0#32, 2#8⟩ ∧ 33#32 ∈ s.rx.pending ∧
    acked 0#32 0#32 33#32 = false ∧ ¬ s.Exact
  := by
  intro inputs s
  have hack : s.rx.ack = some ⟨0#32, 0#32, 2#8⟩ := by decide +kernel
  have hmem : 33#32 ∈ s.rx.pending := by decide +kernel
  refine ⟨by decide +kernel, hack, hmem, by decide, ?_⟩
  intro hexact
  have hcovered := (hexact (by decide +kernel) _ hack 33#32).mpr (.inr hmem)
  revert hcovered
  decide

end Counted

end ReliableRx

end SmolGnet
