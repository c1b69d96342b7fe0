import Std.Data.ExtTreeMap
import Mathlib.Algebra.Ring.Nat
import Mathlib.Data.Finset.Card
import Mathlib.Data.Finset.Range

/-!
# Ordered maps

Facts about extensional tree maps: what a loop that erases keys leaves, what an entry
that is inserted only when it is new replaces, and how many entries a map can have whose
keys are numbered injectively below a bound.
-/

namespace TreeMap

open Std

variable {α β : Type*} {cmp : α → α → Ordering} [TransCmp cmp] [LawfulEqCmp cmp]

omit [LawfulEqCmp cmp] in
/-- A key that holds a value is in the map. -/
theorem mem_of_getElem? {m : ExtTreeMap α β cmp} {k : α} {v : β} (h : m[k]? = some v) :
  k ∈ m
  := by
  rw [ExtTreeMap.mem_iff_isSome_getElem?, h, Option.isSome_some]

/-- A key that is erased is gone, and the others are as before. -/
theorem getElem?_erase [DecidableEq α] (m : ExtTreeMap α β cmp) (k a : α) :
  (m.erase k)[a]? = if k = a then none else m[a]?
  := by
  rw [ExtTreeMap.getElem?_erase]
  simp only [LawfulEqCmp.compare_eq_iff_eq]

/-- A key that is inserted holds the new value, and the others are as before. -/
theorem getElem?_insert [DecidableEq α] (m : ExtTreeMap α β cmp) (k a : α) (v : β) :
  (m.insert k v)[a]? = if k = a then some v else m[a]?
  := by
  rw [ExtTreeMap.getElem?_insert]
  simp only [LawfulEqCmp.compare_eq_iff_eq]

/-- Reading a key of a map after a modification. -/
theorem getElem?_modify [DecidableEq α] (m : ExtTreeMap α β cmp) (k a : α) (f : β → β) :
  (m.modify k f)[a]? = if k = a then m[a]?.map f else m[a]?
  := by
  rw [ExtTreeMap.getElem?_modify]
  by_cases hka : k = a
  · subst hka
    rw [if_pos rfl, if_pos ReflCmp.compare_self]
  · rw [if_neg hka, if_neg (fun h => hka (LawfulEqCmp.eq_of_compare h))]

/-- Inserting an entry only when its key is new keeps the entry that was there. -/
theorem getElem?_insertIfNew [DecidableEq α] (m : ExtTreeMap α β cmp) (k a : α) (v : β) :
  (m.insertIfNew k v)[a]? = if k = a then some (m[k]?.getD v) else m[a]?
  := by
  rw [ExtTreeMap.getElem?_insertIfNew]
  by_cases hka : k = a
  · subst hka
    cases hm : m[k]? with
    | none => simp [ExtTreeMap.mem_iff_isSome_getElem?, hm]
    | some b => simp [ExtTreeMap.mem_iff_isSome_getElem?, hm]
  · simp [hka]

/-- What a loop that erases the keys satisfying `p` leaves. -/
theorem getElem?_foldl_erase [DecidableEq α] (p : α → Bool) (a : α) (l : List α)
    (m : ExtTreeMap α β cmp) :
  (l.foldl (fun m k => if p k then m.erase k else m) m)[a]?
    = if a ∈ l ∧ p a then none else m[a]?
  := by
  induction l generalizing m with
  | nil => simp
  | cons k l ih =>
    rw [List.foldl_cons, ih]
    by_cases hk : p k
    · by_cases hka : k = a
      · subst hka
        simp [hk]
      · simp [hk, getElem?_erase, hka, Ne.symm hka]
    · by_cases hka : k = a
      · subst hka
        simp [hk]
      · simp [hk, Ne.symm hka]

/-- The second of two values inserted for a key replaces the first. -/
theorem insert_insert [DecidableEq α] (m : ExtTreeMap α β cmp) (k : α) (v w : β) :
  (m.insert k v).insert k w = m.insert k w
  := by
  apply ExtTreeMap.ext_getElem?
  intro a
  simp only [getElem?_insert]
  split
  · rfl
  · rfl

/-- Inserting what is there changes nothing. -/
theorem insert_eq_self [DecidableEq α] {m : ExtTreeMap α β cmp} {k : α} {v : β}
    (h : m[k]? = some v) :
  m.insert k v = m
  := by
  apply ExtTreeMap.ext_getElem?
  intro a
  rw [getElem?_insert]
  split
  · next hk => rw [← hk, h]
  · rfl

/-- Erasing what is not there changes nothing. -/
theorem erase_eq_self [DecidableEq α] {m : ExtTreeMap α β cmp} {k : α} (h : k ∉ m) :
  m.erase k = m
  := by
  apply ExtTreeMap.ext_getElem?
  intro a
  rw [getElem?_erase]
  split
  · next hk => rw [← hk, ExtTreeMap.getElem?_eq_none h]
  · rfl

omit [LawfulEqCmp cmp] in
/-- The entries of a map with one entry. -/
theorem toList_insert_empty (k : α) (v : β) :
  ((∅ : ExtTreeMap α β cmp).insert k v).toList = [(k, v)]
  := rfl

omit [LawfulEqCmp cmp] in
/-- The values of a map are those of its entries. -/
theorem values_eq_map_toList (m : ExtTreeMap α β cmp) :
  m.values = m.toList.map Prod.snd
  := by
  obtain ⟨m⟩ := m
  induction m using ExtDTreeMap.inductionOn with
  | mk t =>
    change DTreeMap.Internal.Impl.values t.inner
      = (DTreeMap.Internal.Impl.Const.toList t.inner).map Prod.snd
    rw [DTreeMap.Internal.Impl.values_eq_map_snd,
      DTreeMap.Internal.Impl.Const.toList_eq_toListModel_map, List.map_map]
    rfl

/-- The values of a map are those that its keys hold. -/
theorem mem_values_iff {m : ExtTreeMap α β cmp} {v : β} :
  v ∈ m.values ↔ ∃ k : α, m[k]? = some v
  := by
  rw [values_eq_map_toList]
  constructor
  · intro h
    obtain ⟨⟨k, _⟩, hmem, rfl⟩ := List.mem_map.mp h
    exact ⟨k, ExtTreeMap.mem_toList_iff_getElem?_eq_some.mp hmem⟩
  · rintro ⟨k, h⟩
    exact List.mem_map_of_mem (f := Prod.snd) (ExtTreeMap.mem_toList_iff_getElem?_eq_some.mpr h)

/-- What a key holds is among the values. -/
theorem mem_values_of_getElem? {m : ExtTreeMap α β cmp} {k : α} {v : β} (h : m[k]? = some v) :
  v ∈ m.values
  := mem_values_iff.mpr ⟨k, h⟩

/-- A sum over the values of a map is a sum over any list of its keys. -/
theorem sum_values (m : ExtTreeMap α β cmp) (f : β → ℕ) {keys : List α} (hnodup : keys.Nodup)
    (hmem : ∀ k, k ∈ keys ↔ k ∈ m) :
  (m.values.map f).sum = (keys.map (fun k => (m[k]?.map f).getD 0)).sum
  := by
  have hperm : keys.Perm m.keys := by
    rw [List.perm_ext_iff_of_nodup hnodup ExtTreeMap.nodup_keys]
    intro k
    rw [hmem, ExtTreeMap.mem_keys]
  rw [(hperm.map _).sum_nat, ← ExtTreeMap.map_fst_toList_eq_keys, values_eq_map_toList,
    List.map_map, List.map_map]
  apply congrArg List.sum
  apply List.map_congr_left
  rintro ⟨k, v⟩ hentry
  rw [Function.comp_apply, Function.comp_apply,
    ExtTreeMap.mem_toList_iff_getElem?_eq_some.mp hentry]
  rfl

omit [LawfulEqCmp cmp] in
theorem values_insert_empty (k : α) (v : β) :
  ((∅ : ExtTreeMap α β cmp).insert k v).values = [v]
  := rfl

omit [LawfulEqCmp cmp] in
/-- Changing the values of a map with one entry. -/
theorem map_insert_empty {γ : Type*} (f : α → β → γ) (k : α) (v : β) :
  ((∅ : ExtTreeMap α β cmp).insert k v).map f = (∅ : ExtTreeMap α γ cmp).insert k (f k v)
  := rfl

theorem modify_insert_empty [DecidableEq α] (f : β → β) (k : α) (v : β) :
  ((∅ : ExtTreeMap α β cmp).insert k v).modify k f = (∅ : ExtTreeMap α β cmp).insert k (f v)
  := by
  apply ExtTreeMap.ext_getElem?
  intro a
  rw [ExtTreeMap.getElem?_modify]
  simp only [LawfulEqCmp.compare_eq_iff_eq, getElem?_insert]
  by_cases hka : k = a
  · simp [hka]
  · simp [hka]

/-- A map has at most `n` entries when its keys are numbered injectively below `n`. -/
theorem size_le_of_injOn (m : ExtTreeMap α β cmp) (f : α → ℕ) {n : ℕ}
    (hlt : ∀ k ∈ m, f k < n) (hinj : ∀ k ∈ m, ∀ k' ∈ m, f k = f k' → k = k') :
  m.size ≤ n
  := by
  classical
  have hnodup : (m.keys.map f).Nodup := by
    apply List.Nodup.map_on _ ExtTreeMap.nodup_keys
    intro k hk k' hk'
    apply hinj k (ExtTreeMap.mem_keys.mp hk) k' (ExtTreeMap.mem_keys.mp hk')
  have hsub : (m.keys.map f).toFinset ⊆ Finset.range n := by
    intro i hi
    obtain ⟨k, hk, rfl⟩ := List.mem_map.mp (List.mem_toFinset.mp hi)
    apply Finset.mem_range.mpr (hlt k (ExtTreeMap.mem_keys.mp hk))
  have hcard := Finset.card_le_card hsub
  rw [List.toFinset_card_of_nodup hnodup, List.length_map, ExtTreeMap.length_keys,
    Finset.card_range] at hcard
  apply hcard

/-! ### Entries that are related -/

section Rel

variable {γ δ : Type*} {r : γ → δ → Prop}

theorem exists_of_rel_left {a : γ} {y : Option δ} (h : Option.Rel r (some a) y) :
  ∃ b, y = some b ∧ r a b
  := by
  cases h with
  | some h => exact ⟨_, rfl, h⟩

theorem exists_of_rel_right {x : Option γ} {b : δ} (h : Option.Rel r x (some b)) :
  ∃ a, x = some a ∧ r a b
  := by
  cases h with
  | some h => exact ⟨_, rfl, h⟩

theorem rel_imp {r' : γ → δ → Prop} (himp : ∀ a b, r a b → r' a b) {x : Option γ} {y : Option δ}
    (h : Option.Rel r x y) :
  Option.Rel r' x y
  := by
  cases h with
  | none => exact .none
  | some h => exact .some (himp _ _ h)

theorem eq_none_of_rel {x : Option γ} (h : Option.Rel r x none) :
  x = none
  := by
  cases h with
  | none => rfl

end Rel

end TreeMap
