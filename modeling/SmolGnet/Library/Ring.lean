import Mathlib.Data.List.Rotate
import Mathlib.Data.Nat.ModEq

/-!
# Rings of slots

A ring keeps a queue in a list of slots: the queue starts at the slot `head`, has `len`
entries and goes on at the first slot when it reaches the last one.
-/

namespace Ring

variable {α : Type*} {slots : List α} {head len : ℕ} {x : α}

/-- The queue in a list of slots. -/
def view (slots : List α) (head len : ℕ) : List α :=
  (slots.rotate head).take len

/-- Entries at different places of the queue are in different slots. -/
theorem index_ne {n i j : ℕ} (hi : i < n) (hj : j < n) (hne : i ≠ j) :
  (head + i) % n ≠ (head + j) % n
  := by
  intro heq
  apply hne
  have hmod : i ≡ j [MOD n] := Nat.ModEq.add_left_cancel' head heq
  rwa [Nat.ModEq, Nat.mod_eq_of_lt hi, Nat.mod_eq_of_lt hj] at hmod

theorem view_zero (slots : List α) (head : ℕ) :
  view slots head 0 = []
  := List.take_zero

theorem length_view (h : len ≤ slots.length) :
  (view slots head len).length = len
  := by
  rw [view, List.length_take_of_le]
  rwa [List.length_rotate]

/-- An entry of the queue. -/
theorem getElem?_view {i : ℕ} (hi : i < len) (h : len ≤ slots.length) :
  (view slots head len)[i]? = slots[(head + i) % slots.length]?
  := by
  rw [view, List.getElem?_take_of_lt hi, List.getElem?_rotate (Nat.lt_of_lt_of_le hi h),
    Nat.add_comm]

theorem head?_view (hpos : 0 < len) (h : len ≤ slots.length) (hhead : head < slots.length) :
  (view slots head len).head? = slots[head]?
  := by
  rw [List.head?_eq_getElem?, getElem?_view hpos h, Nat.add_zero, Nat.mod_eq_of_lt hhead]

theorem getLast?_view (hpos : 0 < len) (h : len ≤ slots.length) :
  (view slots head len).getLast? = slots[(head + (len - 1)) % slots.length]?
  := by
  rw [List.getLast?_eq_getElem?, length_view h, getElem?_view (by omega) h]

/-- Filling the slot behind the queue puts an entry at its end. -/
theorem view_push (h : len < slots.length) :
  view (slots.set ((head + len) % slots.length) x) head (len + 1) = view slots head len ++ [x]
  := by
  apply List.ext_getElem?
  intro i
  rcases Nat.lt_or_ge len i with hi | hi
  · rw [List.getElem?_eq_none, List.getElem?_eq_none]
    · rw [List.length_append, length_view h.le, List.length_singleton]
      omega
    · rw [length_view (by rwa [List.length_set])]
      omega
  rw [getElem?_view (by omega) (by rwa [List.length_set]), List.length_set]
  rcases Nat.lt_or_eq_of_le hi with hlt | rfl
  · have hne : (head + len) % slots.length ≠ (head + i) % slots.length :=
      index_ne h (by omega) (by omega)
    rw [List.getElem?_set_ne hne, List.getElem?_append_left (by rwa [length_view h.le]),
      getElem?_view hlt h.le]
  · have hmod : (head + i) % slots.length < slots.length := Nat.mod_lt _ (by omega)
    rw [List.getElem?_set_self hmod, List.getElem?_append_right (by rw [length_view h.le]),
      length_view h.le, Nat.sub_self, List.getElem?_cons_zero]

/-- Giving the slot at the head another value and moving the head takes the first entry away. -/
theorem view_pop (hpos : 0 < len) (h : len ≤ slots.length) (hhead : head < slots.length) :
  view (slots.set head x) ((head + 1) % slots.length) (len - 1) = (view slots head len).tail
  := by
  apply List.ext_getElem?
  intro i
  rw [List.getElem?_tail]
  rcases Nat.lt_or_ge (i + 1) len with hi | hi
  · have hne : head ≠ (head + (i + 1)) % slots.length := by
      have hzero : (head + 0) % slots.length ≠ (head + (i + 1)) % slots.length :=
        index_ne (by omega) (by omega) (by omega)
      rwa [Nat.add_zero, Nat.mod_eq_of_lt hhead] at hzero
    rw [getElem?_view (by omega) (by rw [List.length_set]; omega), List.length_set,
      getElem?_view hi h, Nat.mod_add_mod, Nat.add_assoc, Nat.add_comm 1 i,
      List.getElem?_set_ne hne]
  · rw [List.getElem?_eq_none, List.getElem?_eq_none]
    · rwa [length_view h]
    · rw [length_view (by rw [List.length_set]; omega)]
      omega

/-- A queue of at most one entry is empty when its first entry is taken away. -/
theorem tail_view_of_le_one (hlen : len ≤ 1) :
  (view slots head len).tail = []
  := by
  apply List.eq_nil_of_length_eq_zero
  rw [List.length_tail, view, List.length_take]
  omega

end Ring
