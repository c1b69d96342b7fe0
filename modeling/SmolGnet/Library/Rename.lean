import SmolGnet.Library.TreeMap
import Mathlib.Data.List.Nodup
import Mathlib.Logic.Function.Basic

/-!
# Ordered maps under other names

A map whose keys are renamed by a bijection holds the same values, under the new names.  Operations on
a key of one map do the same on the new name of the key in the other.  Only the order in which the
entries are visited may be another one: it is the same for the entries on whose keys the bijection is
monotone.
-/

namespace TreeMap

open Std

variable {α β : Type} {cmp : α → α → Ordering} [TransCmp cmp] {f : α → α}

/-- The map with the key `f a` in place of each key `a`. -/
def rename (f : α → α) (m : ExtTreeMap α β cmp) : ExtTreeMap α β cmp :=
  .ofList (m.toList.map (fun e => (f e.1, e.2))) cmp

theorem rename_empty (f : α → α) :
  rename f (∅ : ExtTreeMap α β cmp) = ∅
  := rfl

variable [LawfulEqCmp cmp]

/-- A bijection leaves different keys different. -/
theorem distinct_rename (hf : Function.Injective f) (m : ExtTreeMap α β cmp) :
  (m.toList.map (fun e => (f e.1, e.2))).Pairwise (fun a b => ¬ cmp a.1 b.1 = .eq)
  := by
  rw [List.pairwise_map]
  apply ExtTreeMap.distinct_keys_toList.imp
  intro a b hab heq
  have hkeys : a.1 = b.1 := hf (LawfulEqCmp.eq_of_compare heq)
  rw [hkeys] at hab
  exact hab ReflCmp.compare_self

theorem size_rename (hf : Function.Injective f) (m : ExtTreeMap α β cmp) :
  (rename f m).size = m.size
  := by
  rw [rename, ExtTreeMap.size_ofList (distinct_rename hf m), List.length_map,
    ExtTreeMap.length_toList]

/-- Two maps are equal when they hold the same under all new names. -/
theorem ext_rename (hf : Function.Bijective f) {m m' : ExtTreeMap α β cmp}
    (h : ∀ a, m[f a]? = m'[f a]?) :
  m = m'
  := by
  apply ExtTreeMap.ext_getElem?
  intro b
  obtain ⟨a, rfl⟩ := hf.2 b
  apply h

variable [DecidableEq α]

/-- The new name of a key holds what the key held. -/
theorem getElem?_rename (hf : Function.Injective f) (m : ExtTreeMap α β cmp) (a : α) :
  (rename f m)[f a]? = m[a]?
  := by
  cases ha : m[a]? with
  | some v =>
    apply ExtTreeMap.getElem?_ofList_of_mem ReflCmp.compare_self (distinct_rename hf m)
    apply List.mem_map_of_mem (f := fun e : α × β => (f e.1, e.2))
      (ExtTreeMap.mem_toList_iff_getElem?_eq_some.mpr ha)
  | none =>
    apply ExtTreeMap.getElem?_ofList_of_contains_eq_false
    rw [List.map_map, ← Bool.not_eq_true, List.contains_iff_mem, List.mem_map]
    rintro ⟨⟨b, v⟩, hmem, heq⟩
    obtain rfl : b = a := hf heq
    rw [ExtTreeMap.mem_toList_iff_getElem?_eq_some.mp hmem] at ha
    cases ha

/-! ### The operations -/

theorem rename_insert (hf : Function.Bijective f) (m : ExtTreeMap α β cmp) (k : α) (v : β) :
  rename f (m.insert k v) = (rename f m).insert (f k) v
  := by
  apply ext_rename hf
  intro a
  rw [getElem?_rename hf.1, getElem?_insert, getElem?_insert, getElem?_rename hf.1]
  simp only [hf.1.eq_iff]

theorem rename_insertIfNew (hf : Function.Bijective f) (m : ExtTreeMap α β cmp) (k : α) (v : β) :
  rename f (m.insertIfNew k v) = (rename f m).insertIfNew (f k) v
  := by
  apply ext_rename hf
  intro a
  rw [getElem?_rename hf.1, getElem?_insertIfNew, getElem?_insertIfNew, getElem?_rename hf.1,
    getElem?_rename hf.1]
  simp only [hf.1.eq_iff]

theorem rename_erase (hf : Function.Bijective f) (m : ExtTreeMap α β cmp) (k : α) :
  rename f (m.erase k) = (rename f m).erase (f k)
  := by
  apply ext_rename hf
  intro a
  rw [getElem?_rename hf.1, getElem?_erase, getElem?_erase, getElem?_rename hf.1]
  simp only [hf.1.eq_iff]

theorem rename_map (hf : Function.Bijective f) (m : ExtTreeMap α β cmp) (g : β → β) :
  rename f (m.map (fun _ v => g v)) = (rename f m).map (fun _ v => g v)
  := by
  apply ext_rename hf
  intro a
  rw [getElem?_rename hf.1, ExtTreeMap.getElem?_map, ExtTreeMap.getElem?_map,
    getElem?_rename hf.1]

/-! ### The entries -/

/-- The entries are renamed, but they may come in another order. -/
theorem toList_rename_perm (hf : Function.Bijective f) (m : ExtTreeMap α β cmp) :
  (rename f m).toList.Perm (m.toList.map (fun e => (f e.1, e.2)))
  := by
  have hnodup : ∀ l : List (α × β), l.Pairwise (fun a b => ¬ cmp a.1 b.1 = .eq) → l.Nodup := by
    intro l hl
    apply hl.imp
    rintro a b hab rfl
    exact hab ReflCmp.compare_self
  rw [List.perm_ext_iff_of_nodup (hnodup _ ExtTreeMap.distinct_keys_toList)
    (hnodup _ (distinct_rename hf.1 m))]
  rintro ⟨b, v⟩
  obtain ⟨a, rfl⟩ := hf.2 b
  rw [ExtTreeMap.mem_toList_iff_getElem?_eq_some, getElem?_rename hf.1, List.mem_map]
  constructor
  · intro h
    exact ⟨(a, v), ExtTreeMap.mem_toList_iff_getElem?_eq_some.mpr h, rfl⟩
  · rintro ⟨⟨a', v'⟩, hmem, heq⟩
    obtain ⟨ha, rfl⟩ := Prod.mk.inj heq
    obtain rfl := hf.1 ha
    exact ExtTreeMap.mem_toList_iff_getElem?_eq_some.mp hmem

/-- Entries on whose keys the bijection is monotone come in the same order. -/
theorem filter_toList_rename (hf : Function.Bijective f) (m : ExtTreeMap α β cmp) (p : β → Bool)
    (hmono : ∀ a ∈ m.toList, ∀ b ∈ m.toList, p a.2 → p b.2 → cmp a.1 b.1 = .lt →
      cmp (f a.1) (f b.1) = .lt) :
  (rename f m).toList.filter (fun e => p e.2)
    = (m.toList.filter (fun e => p e.2)).map (fun e => (f e.1, e.2))
  := by
  have hperm : ((rename f m).toList.filter (fun e => p e.2)).Perm
      ((m.toList.filter (fun e => p e.2)).map (fun e => (f e.1, e.2))) := by
    have := (toList_rename_perm hf m).filter (fun e => p e.2)
    rw [List.filter_map] at this
    exact this
  have hordered : ∀ a b : α × β, cmp a.1 b.1 = .lt → cmp b.1 a.1 = .lt → a = b := by
    intro a b hab hba
    rw [OrientedCmp.gt_of_lt hab] at hba
    cases hba
  apply List.Perm.eq_of_pairwise (fun a b _ _ => hordered a b) _ _ hperm
  · exact ExtTreeMap.ordered_keys_toList.filter _
  · rw [List.pairwise_map, List.pairwise_filter]
    apply ExtTreeMap.ordered_keys_toList.imp_of_mem
    intro a b ha hb hab hpa hpb
    exact hmono a ha b hb hpa hpb hab

end TreeMap
