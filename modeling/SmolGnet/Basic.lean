import Std.Data.ExtTreeMap
import Mathlib.Algebra.Ring.Nat

/-!
# Machine integers, maps and errors

The fixed-width unsigned integers of the program are bit vectors: `+` and `-` are its
`wrapping_add` and `wrapping_sub`, and the order is that of the unsigned values.  A
`usize` that only counts or indexes is a natural number.  An ordered map is an
extensional tree map.

A method that changes its receiver and may fail is a function into
`Except Error (β × σ)` when a failure leaves the receiver as it was, and a function into
`Except Error β × σ` when it may fail after a change.
-/

namespace SmolGnet

/-- The type `u8`. -/
abbrev U8 := BitVec 8

/-- The type `u16`. -/
abbrev U16 := BitVec 16

/-- The type `u32`. -/
abbrev U32 := BitVec 32

/-- The type `u64`. -/
abbrev U64 := BitVec 64

/-- A byte string, the contents of a `Vec<u8>` or a `&[u8]`. -/
abbrev Bytes := List U8

/-- The ordered map `BTreeMap<α, β>`. -/
abbrev BTreeMap (α β : Type) [Ord α] := Std.ExtTreeMap α β

/-! The orders of the keys of maps. -/

instance : Std.TransOrd U8 := BitVec.instTransOrd

instance : Std.TransOrd U32 := BitVec.instTransOrd

instance : Std.TransOrd U64 := BitVec.instTransOrd

instance : Std.LawfulEqOrd U8 := BitVec.instLawfulEqOrd

instance : Std.LawfulEqOrd U32 := BitVec.instLawfulEqOrd

instance : Std.LawfulEqOrd U64 := BitVec.instLawfulEqOrd

/-- `a.saturating_sub(b)`. -/
def saturatingSub {w : ℕ} (a b : BitVec w) : BitVec w :=
  if a < b then 0#w else a - b

/-- `a.saturating_add(b)`. -/
def saturatingAdd {w : ℕ} (a b : BitVec w) : BitVec w :=
  if a + b < a then BitVec.allOnes w else a + b

theorem toNat_saturatingSub {w : ℕ} (a b : BitVec w) :
  (saturatingSub a b).toNat = a.toNat - b.toNat
  := by
  rw [saturatingSub]
  split
  · next h =>
    rw [BitVec.lt_def] at h
    rw [BitVec.toNat_ofNat, Nat.zero_mod]
    omega
  · next h => rw [BitVec.toNat_sub_of_le (BitVec.not_lt.mp h)]

theorem toNat_saturatingAdd {w : ℕ} {a b : BitVec w} (h : a.toNat + b.toNat < 2 ^ w) :
  (saturatingAdd a b).toNat = a.toNat + b.toNat
  := by
  have hadd : (a + b).toNat = a.toNat + b.toNat := by
    rw [BitVec.toNat_add, Nat.mod_eq_of_lt h]
  rw [saturatingAdd, if_neg, hadd]
  rw [BitVec.lt_def, hadd]
  omega

theorem ok_bind {ε α β : Type} (a : α) (f : α → Except ε β) :
  (Except.ok a >>= f) = f a
  := rfl

/-- A sequence of two steps succeeds when both do. -/
theorem bind_eq_ok {ε α β : Type} {x : Except ε α} {f : α → Except ε β} {b : β} :
  (x >>= f) = .ok b ↔ ∃ a, x = .ok a ∧ f a = .ok b
  := by
  cases x with
  | error err => exact ⟨nofun, nofun⟩
  | ok a =>
    rw [ok_bind]
    constructor
    · intro h
      exact ⟨a, rfl, h⟩
    · intro ⟨_, heq, h⟩
      cases heq
      apply h

theorem map_eq_ok {ε α β : Type} {f : α → β} {x : Except ε α} {b : β} :
  x.map f = .ok b ↔ ∃ a, x = .ok a ∧ f a = b
  := by
  cases x with
  | error err => simp [Except.map]
  | ok a => simp [Except.map]

theorem mem_toOption {ε α : Type} {x : Except ε α} {a : α} :
  a ∈ x.toOption ↔ x = .ok a
  := by
  cases x with
  | error err => exact iff_of_false nofun nofun
  | ok b =>
    constructor
    · rintro ⟨⟩
      rfl
    · rintro ⟨⟩
      rfl

/-- A sequence of two steps fails when one of them does. -/
theorem bind_eq_error {ε α β : Type} {x : Except ε α} {f : α → Except ε β} {err : ε} :
  (x >>= f) = .error err ↔ x = .error err ∨ ∃ a, x = .ok a ∧ f a = .error err
  := by
  cases x with
  | error e => simp [bind, Except.bind]
  | ok a => simp [bind, Except.bind]

/-- A loop that stops at the first error adds to a set what each of its steps adds. -/
theorem mem_foldlM {ε σ α β : Type} {f : σ → α → Except ε σ} {V : σ → β → Prop} {g : α → List β}
    (hf : ∀ s a s', f s a = .ok s' → ∀ x, V s' x ↔ V s x ∨ x ∈ g a) {l : List α} {s s' : σ}
    (h : l.foldlM f s = .ok s') (x : β) :
  V s' x ↔ V s x ∨ x ∈ l.flatMap g
  := by
  induction l generalizing s with
  | nil =>
    cases h
    simp
  | cons a l ih =>
    rw [List.foldlM_cons, bind_eq_ok] at h
    obtain ⟨s₁, ha, hl⟩ := h
    rw [ih hl, hf s a s₁ ha, List.flatMap_cons, List.mem_append, or_assoc]

/-- If each of its steps adds only what is new, then what the loop adds is new and without
repetition. -/
theorem nodup_foldlM {ε σ α β : Type} {f : σ → α → Except ε σ} {V : σ → β → Prop} {g : α → List β}
    (hf : ∀ s a s', f s a = .ok s' → ∀ x, V s' x ↔ V s x ∨ x ∈ g a)
    (hnew : ∀ s a s', f s a = .ok s' → (g a).Nodup ∧ ∀ x ∈ g a, ¬ V s x) {l : List α} {s s' : σ}
    (h : l.foldlM f s = .ok s') :
  (l.flatMap g).Nodup ∧ ∀ x ∈ l.flatMap g, ¬ V s x
  := by
  induction l generalizing s with
  | nil => simp
  | cons a l ih =>
    rw [List.foldlM_cons, bind_eq_ok] at h
    obtain ⟨s₁, ha, hl⟩ := h
    obtain ⟨hnodup, hfresh⟩ := ih hl
    obtain ⟨hnodup', hfresh'⟩ := hnew s a s₁ ha
    rw [List.flatMap_cons]
    constructor
    · apply List.nodup_append.mpr
      refine ⟨hnodup', hnodup, ?_⟩
      rintro x hx y hy rfl
      exact hfresh x hy ((hf s a s₁ ha x).mpr (.inr hx))
    · intro x hx hs
      rcases List.mem_append.mp hx with hx | hx
      · exact hfresh' x hx hs
      · exact hfresh x hx ((hf s a s₁ ha x).mpr (.inl hs))

/-- The errors of the program. -/
inductive Error where
  | invalidLength
  | invalidField
  | invalidCrc
  | invalidAddressForm
  | invalidSizeClass
  | unsupported
  | nonCanonical
  | bufferFull
  | noCredit
  | noRoute
  | creditViolation
  | linkDown
  | desynchronized
  | unknownService
  | unknownTunnel
  | unknownStream
  | invalidState
  | directionViolation
  | profileViolation
  | messageTooLarge
  | wouldBlock
  deriving DecidableEq, Repr

/-- `f(x?)`, where both steps return the state they leave behind. -/
def andThen {σ α β : Type} (x : Except Error α × σ) (f : α → σ → Except Error β × σ) :
    Except Error β × σ :=
  match x with
  | (.ok a, s) => f a s
  | (.error err, s) => (.error err, s)

/-- What holds after the first of two steps, and is kept by the second when the first
succeeds, holds after both. -/
theorem andThen_invariant {σ α β : Type} {P : σ → Prop} {x : Except Error α × σ}
    {f : α → σ → Except Error β × σ} (hx : P x.2)
    (hf : ∀ a s, x.1 = .ok a → P s → P (f a s).2) :
  P (andThen x f).2
  := by
  obtain ⟨r, s⟩ := x
  cases r with
  | error err => apply hx
  | ok a => apply hf a s rfl hx

end SmolGnet
