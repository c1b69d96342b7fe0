import Mathlib.Logic.Function.Basic

/-!
# Offers and leases

A `LeaseBook` says which items are offered, each under a key to a client, and which items have
been leased to a client.  An item is offered only if it is free; an offer under a key takes the
place of the offer that was there; and the offer under a key becomes a lease when it is accepted.

If no item is offered twice and no item is offered that is leased, then this stays so, and no
lease is ever taken away.
-/

/-- The items that are offered and the items that are leased. -/
structure LeaseBook (K C A : Type*) where
  offered : K → Option (C × A)
  leased : A → Option C

namespace LeaseBook

variable {K C A : Type*} [DecidableEq K] [DecidableEq A]

/-- The item is neither leased nor offered. -/
def Free (b : LeaseBook K C A) (a : A) : Prop :=
  b.leased a = none ∧ ∀ k c, b.offered k ≠ some (c, a)

/-- Offer an item to a client under a key. -/
def offer (b : LeaseBook K C A) (k : K) (c : C) (a : A) : LeaseBook K C A :=
  { b with offered := Function.update b.offered k (some (c, a)) }

/-- The offer of the item to the client under the key is accepted. -/
def accept (b : LeaseBook K C A) (k : K) (c : C) (a : A) : LeaseBook K C A where
  offered := Function.update b.offered k none
  leased := Function.update b.leased a (some c)

/-- No item is offered twice, and none that is leased is offered. -/
structure Unique (b : LeaseBook K C A) : Prop where
  free : ∀ k c a, b.offered k = some (c, a) → b.leased a = none
  key_eq : ∀ k k' c c' a, b.offered k = some (c, a) → b.offered k' = some (c', a) → k = k'

/-- What is offered or leased to whom satisfies `P`. -/
structure Within (P : C → A → Prop) (b : LeaseBook K C A) : Prop where
  offered : ∀ k c a, b.offered k = some (c, a) → P c a
  leased : ∀ c a, b.leased a = some c → P c a

variable {b : LeaseBook K C A} {k : K} {c : C} {a : A} {P : C → A → Prop}

omit [DecidableEq A] in
@[simp]
theorem offered_offer :
  (b.offer k c a).offered = Function.update b.offered k (some (c, a))
  := rfl

@[simp]
theorem offered_accept :
  (b.accept k c a).offered = Function.update b.offered k none
  := rfl

@[simp]
theorem leased_accept :
  (b.accept k c a).leased = Function.update b.leased a (some c)
  := rfl

omit [DecidableEq A] in
/-- Only the key that is used has another offer than before. -/
theorem of_offered_offer {k' : K} {x : C × A} (h : (b.offer k c a).offered k' = some x) :
  k' = k ∧ x = (c, a) ∨ k' ≠ k ∧ b.offered k' = some x
  := by
  by_cases hk : k' = k
  · subst hk
    rw [offered_offer, Function.update_self] at h
    exact .inl ⟨rfl, (Option.some.inj h).symm⟩
  · rw [offered_offer, Function.update_of_ne hk] at h
    exact .inr ⟨hk, h⟩

/-- An offer that is still there after another one was accepted. -/
theorem of_offered_accept {k' : K} {x : C × A} (h : (b.accept k c a).offered k' = some x) :
  k' ≠ k ∧ b.offered k' = some x
  := by
  by_cases hk : k' = k
  · subst hk
    rw [offered_accept, Function.update_self] at h
    cases h
  · rw [offered_accept, Function.update_of_ne hk] at h
    exact ⟨hk, h⟩

/-- A lease is the new one or one that was there. -/
theorem of_leased_accept {c' : C} {a' : A}
    (h : (b.accept k c a).leased a' = some c') :
  a' = a ∧ c' = c ∨ a' ≠ a ∧ b.leased a' = some c'
  := by
  by_cases ha : a' = a
  · subst ha
    rw [leased_accept, Function.update_self] at h
    exact .inl ⟨rfl, (Option.some.inj h).symm⟩
  · rw [leased_accept, Function.update_of_ne ha] at h
    exact .inr ⟨ha, h⟩

omit [DecidableEq A] in
/-- A free item may be offered. -/
theorem Unique.offer (h : b.Unique) (hfree : b.Free a) :
  (b.offer k c a).Unique
  := by
  constructor
  · intro k' c' a' hk'
    rcases of_offered_offer hk' with ⟨-, heq⟩ | ⟨-, hold⟩
    · cases heq
      exact hfree.1
    · exact h.free k' c' a' hold
  · intro k₁ k₂ c₁ c₂ a' h₁ h₂
    rcases of_offered_offer h₁ with ⟨hk₁, heq₁⟩ | ⟨-, hold₁⟩
    · rcases of_offered_offer h₂ with ⟨hk₂, -⟩ | ⟨-, hold₂⟩
      · rw [hk₁, hk₂]
      · cases heq₁
        exact absurd hold₂ (hfree.2 k₂ c₂)
    · rcases of_offered_offer h₂ with ⟨-, heq₂⟩ | ⟨-, hold₂⟩
      · cases heq₂
        exact absurd hold₁ (hfree.2 k₁ c₁)
      · exact h.key_eq k₁ k₂ c₁ c₂ a' hold₁ hold₂

/-- An offer may be accepted. -/
theorem Unique.accept (h : b.Unique) (hoffered : b.offered k = some (c, a)) :
  (b.accept k c a).Unique
  := by
  constructor
  · intro k' c' a' hk'
    obtain ⟨hne, hold⟩ := of_offered_accept hk'
    have ha : a' ≠ a := by
      rintro rfl
      exact hne (h.key_eq k' k c' c a' hold hoffered)
    rw [leased_accept, Function.update_of_ne ha]
    exact h.free k' c' a' hold
  · intro k₁ k₂ c₁ c₂ a' h₁ h₂
    exact h.key_eq k₁ k₂ c₁ c₂ a' (of_offered_accept h₁).2 (of_offered_accept h₂).2

/-- No lease is taken away when an offer is accepted. -/
theorem Unique.leased_mono (h : b.Unique) (hoffered : b.offered k = some (c, a)) {c' : C} {a' : A}
    (hleased : b.leased a' = some c') :
  (b.accept k c a).leased a' = some c'
  := by
  have ha : a' ≠ a := by
    rintro rfl
    rw [h.free k c a' hoffered] at hleased
    cases hleased
  rw [leased_accept, Function.update_of_ne ha]
  exact hleased

omit [DecidableEq A] in
theorem Within.offer (h : b.Within P) (hp : P c a) :
  (b.offer k c a).Within P
  := by
  constructor
  · intro k' c' a' hk'
    rcases of_offered_offer hk' with ⟨-, heq⟩ | ⟨-, hold⟩
    · cases heq
      exact hp
    · exact h.offered k' c' a' hold
  · exact h.leased

theorem Within.accept (h : b.Within P) (hoffered : b.offered k = some (c, a)) :
  (b.accept k c a).Within P
  := by
  constructor
  · intro k' c' a' hk'
    exact h.offered k' c' a' (of_offered_accept hk').2
  · intro c' a' ha'
    rcases of_leased_accept ha' with ⟨rfl, rfl⟩ | ⟨-, hold⟩
    · exact h.offered k c' a' hoffered
    · exact h.leased c' a' hold

end LeaseBook
