import Mathlib.Data.List.MinMax
import Mathlib.Data.List.Nodup
import SmolGnet.Library.TreeMap

/-!
# Tables

A table is a list with at most one entry for each key.  An entry that is put into it replaces the
entry with its key, or comes last.  Of the entries with a common part of the key the best is chosen;
of several that are equally good, the first.  A loop that collects the best entries in a map finds
the same ones as a search for each key.
-/

namespace Table

variable {α κ : Type*}

/-! ### Entries by key -/

/-- Put `a` in the place of the first entry that `isOld` says is the old one, or at the end. -/
def upsert (isOld : α → Bool) (a : α) : List α → List α
  | [] => [a]
  | b :: bs => if isOld b then a :: bs else b :: upsert isOld a bs

variable {key : α → κ} {isOld : α → Bool} {a x : α} {l : List α}

/-- What the entry replaces is what has its key. -/
def Replaces (key : α → κ) (isOld : α → Bool) (a : α) : Prop :=
  ∀ b, isOld b = true ↔ key b = key a

/-- The table has the new entry, and the old ones with other keys. -/
theorem mem_upsert (hkey : Replaces key isOld a) (h : (l.map key).Nodup) :
  x ∈ upsert isOld a l ↔ x = a ∨ x ∈ l ∧ key x ≠ key a
  := by
  induction l with
  | nil => simp [upsert]
  | cons b bs ih =>
    rw [List.map_cons, List.nodup_cons] at h
    rw [upsert]
    split
    · next hold =>
      have hb := (hkey b).mp hold
      constructor
      · intro hx
        rcases List.mem_cons.mp hx with rfl | hx
        · exact .inl rfl
        · refine .inr ⟨List.mem_cons_of_mem b hx, ?_⟩
          intro hxa
          apply h.1
          rw [hb, ← hxa]
          exact List.mem_map_of_mem hx
      · rintro (rfl | ⟨hx, hne⟩)
        · exact List.mem_cons_self
        · rcases List.mem_cons.mp hx with rfl | hx
          · exact absurd hb hne
          · exact List.mem_cons_of_mem a hx
    · next hnew =>
      have hb : key b ≠ key a := fun hb => hnew ((hkey b).mpr hb)
      rw [List.mem_cons, ih h.2, List.mem_cons]
      constructor
      · rintro (rfl | rfl | ⟨hx, hne⟩)
        · exact .inr ⟨.inl rfl, hb⟩
        · exact .inl rfl
        · exact .inr ⟨.inr hx, hne⟩
      · rintro (rfl | ⟨rfl | hx, hne⟩)
        · exact .inr (.inl rfl)
        · exact .inl rfl
        · exact .inr (.inr ⟨hx, hne⟩)

/-- The table still has at most one entry for each key. -/
theorem nodup_upsert (hkey : Replaces key isOld a) (h : (l.map key).Nodup) :
  ((upsert isOld a l).map key).Nodup
  := by
  induction l with
  | nil => simp [upsert]
  | cons b bs ih =>
    rw [List.map_cons, List.nodup_cons] at h
    rw [upsert]
    split
    · next hold =>
      rw [List.map_cons, List.nodup_cons, ← (hkey b).mp hold]
      exact h
    · next hnew =>
      rw [List.map_cons, List.nodup_cons]
      refine ⟨?_, ih h.2⟩
      intro hmem
      obtain ⟨x, hx, hxb⟩ := List.mem_map.mp hmem
      rcases (mem_upsert hkey h.2).mp hx with rfl | ⟨hx, -⟩
      · exact hnew ((hkey b).mpr hxb.symm)
      · exact h.1 (hxb ▸ List.mem_map_of_mem hx)

/-- An entry that the filter leaves out, and that replaces only such entries, does not change what
the filter finds. -/
theorem filter_upsert {p : α → Bool} (ha : p a = false) (hold : ∀ b, isOld b = true → p b = false) :
  (upsert isOld a l).filter p = l.filter p
  := by
  induction l with
  | nil => simp [upsert, ha]
  | cons b bs ih =>
    rw [upsert]
    split
    · next hb => simp [ha, hold b hb]
    · rw [List.filter_cons, List.filter_cons, ih]

/-! ### The best entry -/

/-- The list reduced to one element, if it has any. -/
def reduce (f : α → α → α) : List α → Option α
  | [] => none
  | a :: as => some (as.foldl f a)

/-- Keeping the better of two while going through the list finds the first best entry. -/
theorem reduce_eq_foldl (better : α → α → Bool) (l : List α) :
  reduce (fun current candidate => if better candidate current then candidate else current) l
    = l.foldl (List.argAux (fun a b => better a b = true)) none
  := by
  have hfold : ∀ (l : List α) (a : α),
      l.foldl (List.argAux (fun a b => better a b = true)) (some a)
        = some (l.foldl
            (fun current candidate => if better candidate current then candidate else current) a) := by
    intro l
    induction l with
    | nil =>
      intro a
      rfl
    | cons b bs ih =>
      intro a
      rw [List.foldl_cons, List.foldl_cons, ← ih]
      congr 1
      change (if better b a = true then some b else some a) = _
      split
      · rfl
      · rfl
  cases l with
  | nil => rfl
  | cons a as => exact (hfold as a).symm

/-- The entry that is found is one of the list. -/
theorem mem_of_mem_foldl_argAux {r : α → α → Prop} [DecidableRel r]
    (h : l.foldl (List.argAux r) none = some x) :
  x ∈ l
  := by
  have hmem : ∀ (l : List α) (o : Option α), l.foldl (List.argAux r) o = some x →
      x ∈ l ∨ o = some x := by
    intro l
    induction l with
    | nil =>
      intro o h
      exact .inr h
    | cons b bs ih =>
      intro o h
      rcases ih _ h with hx | hx
      · exact .inl (List.mem_cons_of_mem b hx)
      · cases o with
        | none =>
          cases hx
          exact .inl List.mem_cons_self
        | some c =>
          change (if r b c then some b else some c) = some x at hx
          split at hx
          · cases hx
            exact .inl List.mem_cons_self
          · exact .inr hx
  exact (hmem l none h).resolve_right nofun

variable {cmp : κ → κ → Ordering} [Std.TransCmp cmp] [Std.LawfulEqCmp cmp] [DecidableEq κ]

/-- Keep the entry in the map if it is the first of its key, or better than the one that is there. -/
def keepBetter (better : α → α → Bool) (key : α → κ) (winners : Std.ExtTreeMap κ α cmp) (a : α) :
    Std.ExtTreeMap κ α cmp :=
  match winners[key a]? with
  | none => winners.insert (key a) a
  | some current => if better a current then winners.insert (key a) a else winners

/-- The map has the best entry for each key. -/
theorem getElem?_foldl_keepBetter (better : α → α → Bool) (winners : Std.ExtTreeMap κ α cmp)
    (l : List α) (k : κ) :
  (l.foldl (keepBetter better key) winners)[k]?
    = (l.filter (fun a => key a = k)).foldl (List.argAux (fun a b => better a b = true)) winners[k]?
  := by
  induction l generalizing winners with
  | nil => rfl
  | cons a as ih =>
    rw [List.foldl_cons, ih, List.filter_cons]
    have hstep : (keepBetter better key winners a)[k]? = if key a = k
        then List.argAux (fun a b => better a b = true) winners[k]? a else winners[k]? := by
      rw [keepBetter]
      by_cases hk : key a = k
      · subst hk
        rw [if_pos rfl]
        split
        · next hnone => rw [TreeMap.getElem?_insert, if_pos rfl, hnone, List.argAux]
        · next current hcurrent =>
          rw [hcurrent]
          change _ = if better a current = true then some a else some current
          split
          · rw [TreeMap.getElem?_insert, if_pos rfl]
          · exact hcurrent
      · rw [if_neg hk]
        split
        · rw [TreeMap.getElem?_insert, if_neg hk]
        · split
          · rw [TreeMap.getElem?_insert, if_neg hk]
          · rfl
    rw [hstep]
    by_cases hk : key a = k
    · rw [if_pos hk, if_pos (decide_eq_true hk), List.foldl_cons]
    · rw [if_neg hk, if_neg (by simpa using hk)]

end Table
