import Mathlib.Data.List.Basic
import Mathlib.Data.Nat.Notation
import Mathlib.Tactic.Use

/-!
# Arenas that wrap

A queue of byte strings is kept in one arena of `cap` bytes, each of them as one extent that
does not straddle the end of the arena.  The next extent is placed from two numbers alone,
the offset of the first extent and the end of the last one: behind the last extent, or at the
start of the arena when there is no room behind it and the first extent lies far enough from
the start.

In a queue that is `Placed` the extents follow each other up to some point and from the start
of the arena on.  Two numbers do not tell a wrapped queue that has filled the arena up from
one that is not wrapped, and an empty first extent hides where the others lie: these are the
cases in which the next extent is `Misplaced`, and they are exactly the ones in which it meets
another extent.
-/

namespace Arena

/-- A range of bytes of an arena. -/
structure Extent where
  offset : ℕ
  len : ℕ
  deriving DecidableEq

namespace Extent

/-- The offset behind an extent. -/
def stop (x : Extent) : ℕ :=
  x.offset + x.len

/-- Two extents without a common byte. -/
def Apart (x y : Extent) : Prop :=
  ∀ i, ¬ ((x.offset ≤ i ∧ i < x.stop) ∧ y.offset ≤ i ∧ i < y.stop)

theorem apart_iff {x y : Extent} :
  x.Apart y ↔ x.len = 0 ∨ y.len = 0 ∨ x.stop ≤ y.offset ∨ y.stop ≤ x.offset
  := by
  constructor
  · intro h
    have := h (max x.offset y.offset)
    simp only [stop] at this ⊢
    omega
  · intro h i
    simp only [stop] at h ⊢
    omega

/-- Two extents with bytes that start at the same offset. -/
theorem not_apart_of_offset_eq {x y : Extent} (h : x.offset = y.offset) (hx : 0 < x.len)
    (hy : 0 < y.len) :
  ¬ x.Apart y
  := by
  rw [apart_iff, stop, stop]
  omega

instance (x y : Extent) : Decidable (x.Apart y) :=
  decidable_of_iff _ apart_iff.symm

end Extent

/-! ### Extents that follow each other -/

/-- Extents that follow each other from `o` on and end at `e`. -/
def Chain : ℕ → List Extent → ℕ → Prop
  | o, [], e => o = e
  | o, x :: xs, e => x.offset = o ∧ Chain x.stop xs e

namespace Chain

variable {o e cap : ℕ} {x y : Extent} {xs ys : List Extent}

theorem le (h : Chain o xs e) :
  o ≤ e
  := by
  induction xs generalizing o with
  | nil => apply Nat.le_of_eq h
  | cons x xs ih =>
    have := ih h.2
    have := h.1
    simp only [Extent.stop] at *
    omega

/-- The extents of a chain lie between its ends. -/
theorem bounds (h : Chain o xs e) (hx : x ∈ xs) :
  o ≤ x.offset ∧ x.stop ≤ e
  := by
  induction xs generalizing o with
  | nil => cases hx
  | cons x' xs ih =>
    have hle := le h.2
    have hoff := h.1
    rcases List.mem_cons.mp hx with rfl | hmem
    · constructor
      · omega
      · apply hle
    · have hrest := ih h.2 hmem
      simp only [Extent.stop] at *
      omega

theorem pairwise_apart (h : Chain o xs e) :
  xs.Pairwise Extent.Apart
  := by
  induction xs generalizing o with
  | nil => apply List.Pairwise.nil
  | cons x xs ih =>
    apply List.Pairwise.cons _ (ih h.2)
    intro y hy
    apply Extent.apart_iff.mpr
    have := (bounds h.2 hy).1
    omega

/-- An extent that starts where a chain ends continues it. -/
theorem append_singleton (h : Chain o xs e) (hx : x.offset = e) :
  Chain o (xs ++ [x]) x.stop
  := by
  induction xs generalizing o with
  | nil =>
    rw [Chain] at h
    subst h
    use hx
    rfl
  | cons x' xs ih =>
    use h.1
    apply ih h.2

theorem head?_offset (h : Chain o xs e) (hx : xs.head? = some x) :
  x.offset = o
  := by
  cases xs with
  | nil => cases hx
  | cons x' xs =>
    cases hx
    apply h.1

theorem getLast?_stop (h : Chain o xs e) (hx : xs.getLast? = some x) :
  x.stop = e
  := by
  induction xs generalizing o with
  | nil => cases hx
  | cons x' xs ih =>
    cases xs with
    | nil =>
      cases hx
      apply h.2
    | cons y ys => apply ih h.2 (by simpa using hx)

/-- The first extent of a chain that has bytes starts where the chain starts. -/
theorem find?_offset (h : Chain o xs e) (hx : xs.find? (0 < ·.len) = some x) :
  x.offset = o
  := by
  induction xs generalizing o with
  | nil => cases hx
  | cons x' xs ih =>
    rw [List.find?_cons] at hx
    split at hx
    · cases hx
      apply h.1
    · next hempty =>
      have hlen : ¬ 0 < x'.len := by simpa using hempty
      rw [ih h.2 hx, Extent.stop, h.1]
      omega

/-- A chain without bytes ends where it starts, and only such a chain does. -/
theorem find?_eq_none_iff (h : Chain o xs e) :
  xs.find? (0 < ·.len) = none ↔ o = e
  := by
  induction xs generalizing o with
  | nil => exact iff_of_true rfl h
  | cons x xs ih =>
    have hle := le h.2
    have hoff := h.1
    rw [List.find?_cons]
    split
    · next hlen =>
      have hpos : 0 < x.len := by simpa using hlen
      simp only [Extent.stop] at hle
      refine iff_of_false nofun ?_
      omega
    · next hlen =>
      have hzero : x.stop = o := by
        have : ¬ 0 < x.len := by simpa using hlen
        simp only [Extent.stop]
        omega
      rw [ih h.2, hzero]

/-- A chain that ends behind its start has an extent with bytes at its start. -/
theorem exists_offset (h : Chain o xs e) (hlt : o < e) :
  ∃ w ∈ xs, w.offset = o ∧ 0 < w.len
  := by
  cases hw : xs.find? (0 < ·.len) with
  | none => exact absurd (h.find?_eq_none_iff.mp hw) (Nat.ne_of_lt hlt)
  | some w =>
    use w, List.mem_of_find?_eq_some hw, h.find?_offset hw
    simpa using List.find?_some hw

end Chain

/-! ### Placed queues -/

/-- The extents of a queue follow each other, first from some offset on and then from the start
of the arena on.  The second part ends before the first one starts, unless the first one has no
bytes. -/
def Placed (cap : ℕ) (es : List Extent) : Prop :=
  ∃ (xs ys : List Extent) (a t e : ℕ), es = xs ++ ys ∧ Chain a xs t ∧ Chain 0 ys e ∧ t ≤ cap ∧
    e ≤ cap ∧ (e ≤ a ∨ t = a)

/-- Where the next extent goes, from the offset of the first extent and the end of the last. -/
def place (cap first last len : ℕ) : Option ℕ :=
  if first ≤ last then
    if len ≤ cap - last then some last
    else if len ≤ first then some 0
    else none
  else if len ≤ first - last then some last
  else none

/-- The next extent has bytes and is placed, but not where the arena is free: the arena is wrapped
and full, or the first extent has no bytes and hides that the start of the arena is taken. -/
def Misplaced (cap : ℕ) (es : List Extent) (len : ℕ) : Prop :=
  ∃ x ∈ es.head?, ∃ z ∈ es.getLast?, ∃ w ∈ es.find? (0 < ·.len), 0 < len ∧ x.offset ≤ z.stop ∧
    if w.offset = x.offset then z.stop = x.offset ∧ (len ≤ cap - z.stop ∨ len ≤ x.offset)
    else cap - z.stop < len ∧ len ≤ x.offset

variable {cap len o : ℕ} {es : List Extent} {x z : Extent}

theorem placed_nil (cap : ℕ) :
  Placed cap []
  := ⟨[], [], 0, 0, 0, rfl, rfl, rfl, Nat.zero_le _, Nat.zero_le _, .inr rfl⟩

theorem placed_singleton (h : len ≤ cap) :
  Placed cap [⟨0, len⟩]
  := by
  refine ⟨[⟨0, len⟩], [], 0, len, 0, rfl, ⟨rfl, ?_⟩, rfl, h, Nat.zero_le _, .inl (Nat.zero_le _)⟩
  simp [Extent.stop, Chain]

/-- A misplaced extent is placed. -/
theorem Misplaced.exists_place (hx : es.head? = some x) (hz : es.getLast? = some z)
    (h : Misplaced cap es len) :
  (len ≤ cap - z.stop ∨ len ≤ x.offset) ∧ ∃ o, place cap x.offset z.stop len = some o
  := by
  obtain ⟨x', hx', z', hz', w, -, -, hle, hmis⟩ := h
  obtain rfl : x = x' := Option.some.inj (hx.symm.trans hx')
  obtain rfl : z = z' := Option.some.inj (hz.symm.trans hz')
  have hroom : len ≤ cap - z.stop ∨ len ≤ x.offset := by
    split at hmis
    · apply hmis.2
    · apply Or.inr hmis.2
  use hroom
  rw [place, if_pos hle]
  split
  · exact ⟨_, rfl⟩
  · next hlen =>
    rw [if_pos (hroom.resolve_left hlen)]
    exact ⟨_, rfl⟩

namespace Placed

theorem pairwise_apart (h : Placed cap es) :
  es.Pairwise Extent.Apart
  := by
  obtain ⟨xs, ys, a, t, e, rfl, hxs, hys, -, -, hsep⟩ := h
  apply List.pairwise_append.mpr
  use hxs.pairwise_apart, hys.pairwise_apart
  intro x hx y hy
  have hx' := hxs.bounds hx
  have hy' := hys.bounds hy
  apply Extent.apart_iff.mpr
  simp only [Extent.stop] at *
  omega

theorem tail (h : Placed cap es) :
  Placed cap es.tail
  := by
  obtain ⟨xs, ys, a, t, e, rfl, hxs, hys, ht, he, hsep⟩ := h
  cases xs with
  | nil =>
    cases ys with
    | nil => apply placed_nil
    | cons y ys =>
      refine ⟨ys, [], y.stop, e, 0, ?_, hys.2, rfl, he, Nat.zero_le _, .inl (Nat.zero_le _)⟩
      simp
  | cons x xs =>
    have hle := hxs.2.le
    have hoff := hxs.1
    refine ⟨xs, ys, x.stop, t, e, rfl, hxs.2, hys, ht, he, ?_⟩
    simp only [Extent.stop] at *
    omega

/-- The two parts of a queue that is not empty. -/
theorem split (h : Placed cap es) (hx : es.head? = some x) :
  ∃ xs ys t e, es = xs ++ ys ∧ xs ≠ [] ∧ Chain x.offset xs t ∧ Chain 0 ys e ∧ t ≤ cap ∧ e ≤ cap ∧
    (e ≤ x.offset ∨ t = x.offset)
  := by
  obtain ⟨xs, ys, a, t, e, rfl, hxs, hys, ht, he, hsep⟩ := h
  cases xs with
  | nil =>
    have hoff : x.offset = 0 := hys.head?_offset hx
    refine ⟨ys, [], e, 0, by simp, ?_, by rwa [hoff], rfl, he, Nat.zero_le _, .inl (Nat.zero_le _)⟩
    rintro rfl
    cases hx
  | cons x' xs =>
    have hoff : x.offset = a := by
      cases hx
      apply hxs.1
    rw [← hoff] at hxs hsep
    exact ⟨x' :: xs, ys, t, e, rfl, List.cons_ne_nil _ _, hxs, hys, ht, he, hsep⟩

/-- The next extent of a queue that is not wrapped. -/
theorem append_unwrapped {xs : List Extent} {a t : ℕ} (hxs : Chain a xs t) (ht : t ≤ cap)
    (ho : place cap a t len = some o) :
  Placed cap (xs ++ [⟨o, len⟩])
  := by
  have hle := hxs.le
  rw [place, if_pos hle] at ho
  split at ho
  · obtain rfl : t = o := Option.some.inj ho
    refine ⟨xs ++ [⟨t, len⟩], [], a, t + len, 0, by simp, hxs.append_singleton rfl, rfl, by omega,
      Nat.zero_le _, .inl (Nat.zero_le _)⟩
  · split at ho
    · next hlen =>
      cases ho
      refine ⟨xs, [⟨0, len⟩], a, t, len, rfl, hxs, ?_, ht, by omega, .inl hlen⟩
      simp [Chain, Extent.stop]
    · cases ho

/-- The next extent of a queue that is wrapped. -/
theorem append_wrapped {xs ys : List Extent} {a t e : ℕ} (hxs : Chain a xs t) (hys : Chain 0 ys e)
    (ht : t ≤ cap) (hcap : e + len ≤ cap) (hsep : e + len ≤ a ∨ t = a) :
  Placed cap (xs ++ ys ++ [⟨e, len⟩])
  := ⟨xs, ys ++ [⟨e, len⟩], a, t, e + len, List.append_assoc _ _ _, hxs, hys.append_singleton rfl,
    ht, hcap, hsep⟩

/-- The arena is wrapped and full. -/
theorem misplaced_of_full {xs ys : List Extent} {t : ℕ} (hxs : Chain x.offset xs t)
    (hx : (xs ++ ys).head? = some x) (hz : (xs ++ ys).getLast? = some z) (ht : t ≠ x.offset)
    (hfull : z.stop = x.offset) (hpos : 0 < len) (hroom : len ≤ cap - z.stop ∨ len ≤ x.offset) :
  Misplaced cap (xs ++ ys) len
  := by
  obtain ⟨w, hw⟩ : ∃ w, xs.find? (0 < ·.len) = some w := by
    apply Option.ne_none_iff_exists'.mp
    intro hnone
    exact ht (hxs.find?_eq_none_iff.mp hnone).symm
  refine ⟨x, hx, z, hz, w, ?_, hpos, Nat.le_of_eq hfull.symm, ?_⟩
  · rw [List.find?_append, hw]
    rfl
  · rw [if_pos (hxs.find?_offset hw)]
    exact ⟨hfull, hroom⟩

/-- The start of the arena is taken although it is before the first extent. -/
theorem misplaced_of_taken {xs ys : List Extent} {t e : ℕ} (hxs : Chain x.offset xs t)
    (hys : Chain 0 ys e) (hx : (xs ++ ys).head? = some x) (hz : (xs ++ ys).getLast? = some z)
    (hstop : z.stop = e) (hsep : e ≤ x.offset ∨ t = x.offset) (hle : x.offset ≤ e)
    (hbehind : cap - e < len) (hfront : len ≤ x.offset) :
  Misplaced cap (xs ++ ys) len
  := by
  by_cases ht : t = x.offset
  · -- the first part has no bytes, so the first extent with bytes is at the start
    have hnone := hxs.find?_eq_none_iff.mpr ht.symm
    obtain ⟨w, hw⟩ : ∃ w, ys.find? (0 < ·.len) = some w := by
      apply Option.ne_none_iff_exists'.mp
      intro hnone'
      have := hys.find?_eq_none_iff.mp hnone'
      omega
    have hoff := hys.find?_offset hw
    refine ⟨x, hx, z, hz, w, ?_, by omega, by omega, ?_⟩
    · rw [List.find?_append, hnone, Option.none_or]
      exact hw
    · rw [if_neg (by omega), hstop]
      exact ⟨hbehind, hfront⟩
  · have hfull : e = x.offset := Nat.le_antisymm (hsep.resolve_right ht) hle
    exact misplaced_of_full hxs hx hz ht (hstop.trans hfull) (by omega) (.inr hfront)

/-- The end of a queue that is wrapped. -/
theorem stop_of_wrapped {xs ys : List Extent} {e : ℕ} (hys : Chain 0 ys e) (hne : ys ≠ [])
    (hz : (xs ++ ys).getLast? = some z) :
  z.stop = e
  := by
  rw [List.getLast?_append_of_ne_nil _ hne] at hz
  exact hys.getLast?_stop hz

/-- An extent that is placed behind the last one, or at the start of the arena. -/
theorem append (h : Placed cap es) (hx : es.head? = some x) (hz : es.getLast? = some z)
    (ho : place cap x.offset z.stop len = some o) (hok : ¬ Misplaced cap es len) :
  Placed cap (es ++ [⟨o, len⟩])
  := by
  obtain ⟨xs, ys, t, e, rfl, -, hxs, hys, ht, he, hsep⟩ := h.split hx
  by_cases hwrapped : ys = []
  · subst hwrapped
    rw [List.append_nil] at hz ⊢
    rw [hxs.getLast?_stop hz] at ho
    exact append_unwrapped hxs ht ho
  · have hstop := stop_of_wrapped hys hwrapped hz
    have hchain := hxs.le
    rw [place, hstop] at ho
    split at ho
    · next hle =>
      split at ho
      · next hlen =>
        obtain rfl : e = o := Option.some.inj ho
        apply append_wrapped hxs hys ht (by omega)
        by_cases hempty : t = x.offset
        · exact .inr hempty
        · left
          by_contra hmeet
          have hfull : e = x.offset := Nat.le_antisymm (hsep.resolve_right hempty) hle
          apply hok
          exact misplaced_of_full hxs hx hz hempty (hstop.trans hfull) (by omega)
            (.inl (by rw [hstop]; exact hlen))
      · split at ho
        · next hlen hfront =>
          exact absurd (misplaced_of_taken hxs hys hx hz hstop hsep hle (by omega) hfront) hok
        · cases ho
    · split at ho
      · cases ho
        apply append_wrapped hxs hys ht (by omega)
        left
        omega
      · cases ho

/-- A misplaced extent meets one that is there already. -/
theorem exists_not_apart (h : Placed cap es) (hx : es.head? = some x) (hz : es.getLast? = some z)
    (ho : place cap x.offset z.stop len = some o) (hmis : Misplaced cap es len) :
  ∃ w ∈ es, ¬ w.Apart ⟨o, len⟩
  := by
  obtain ⟨x', hx', z', hz', w, hw, hpos, hle, hmis⟩ := hmis
  obtain rfl : x = x' := Option.some.inj (hx.symm.trans hx')
  obtain rfl : z = z' := Option.some.inj (hz.symm.trans hz')
  have hwlen : 0 < w.len := by simpa using List.find?_some hw
  have hwmem := List.mem_of_find?_eq_some hw
  rw [place, if_pos hle] at ho
  obtain ⟨xs, ys, t, e, rfl, hne, hxs, hys, ht, he, hsep⟩ := h.split hx
  by_cases hwrapped : ys = []
  · -- a queue that is not wrapped is full only if it has no bytes
    subst hwrapped
    rw [List.append_nil] at hz hw
    have hstop := hxs.getLast?_stop hz
    rw [if_pos (hxs.find?_offset hw)] at hmis
    have hnone := hxs.find?_eq_none_iff.mpr (by omega)
    rw [hnone] at hw
    cases hw
  have hstop := stop_of_wrapped hys hwrapped hz
  split at hmis
  · next hoff =>
    split at ho
    · cases ho
      use w, hwmem
      apply Extent.not_apart_of_offset_eq _ hwlen hpos
      dsimp only
      omega
    · next hlen =>
      rw [if_pos (by omega)] at ho
      cases ho
      obtain ⟨w', hw', hoff', hlen'⟩ := hys.exists_offset (by omega)
      use w', List.mem_append_right _ hw'
      apply Extent.not_apart_of_offset_eq hoff' hlen' hpos
  · next hoff =>
    rw [if_neg (by omega), if_pos hmis.2] at ho
    cases ho
    use w, hwmem
    rw [List.find?_append] at hw
    apply Extent.not_apart_of_offset_eq _ hwlen hpos
    cases hwx : xs.find? (0 < ·.len) with
    | some w' =>
      rw [hwx, Option.some_or] at hw
      cases hw
      exact absurd (hxs.find?_offset hwx) hoff
    | none =>
      rw [hwx, Option.none_or] at hw
      apply hys.find?_offset hw

end Placed

end Arena
