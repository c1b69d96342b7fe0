import SmolGnet.Library.Octets

/-!
# Programs that may panic

A program returns a value, or fails with an error, or panics.  An index and a range of a list, a
difference of numbers, a shift and a conversion to an array panic where they are not defined.

`Gives p r` says that `p` does not panic, and that its result is `r`.  The rules for it follow the
program from one step to the next.
-/

/-- A program that returns a value, fails with an error, or panics. -/
abbrev Checked (ε α : Type) := ExceptT ε Option α

namespace Checked

open Octets

variable {ε α β : Type}

/-! ### Steps -/

/-- The program that panics. -/
def panic : Checked ε α :=
  ExceptT.mk none

/-- `l[i]`. -/
def index (l : List α) (i : ℕ) : Checked ε α :=
  l[i]?.elim panic pure

/-- `l[lo..hi]`. -/
def range (l : List α) (lo hi : ℕ) : Checked ε (List α) :=
  if lo ≤ hi ∧ hi ≤ l.length then pure (slice l lo (hi - lo)) else panic

/-- `l[lo..]`. -/
def rangeFrom (l : List α) (lo : ℕ) : Checked ε (List α) :=
  if lo ≤ l.length then pure (l.drop lo) else panic

/-- `l[..hi]`. -/
def rangeTo (l : List α) (hi : ℕ) : Checked ε (List α) :=
  if hi ≤ l.length then pure (l.take hi) else panic

/-- The array `[α; n]`. -/
abbrev Arr (α : Type) (n : ℕ) := { l : List α // l.length = n }

/-- `l.try_into().unwrap()`. -/
def array (n : ℕ) (l : List α) : Checked ε (Arr α n) :=
  if h : l.length = n then pure ⟨l, h⟩ else panic

/-- `l.try_into().map_err(|_| err)?`. -/
def arrayOr (err : ε) (n : ℕ) (l : List α) : Checked ε (Arr α n) :=
  if h : l.length = n then pure ⟨l, h⟩ else throw err

/-- `from_be_bytes(l[lo..lo + n].try_into().unwrap())`, of an integer of `n` bytes. -/
def beInt (w : ℕ) (l : List (BitVec 8)) (lo : ℕ) : Checked ε (BitVec w) := do
  let v ← array (w / 8) (← range l lo (lo + w / 8))
  return fromBeBytes w v.val

/-- `x[..hi].copy_from_slice(src)`. -/
def copyFromSlice {n : ℕ} (x : Arr α n) (hi : ℕ) (src : List α) : Checked ε (Arr α n) :=
  if h : hi ≤ n ∧ src.length = hi then
    pure ⟨copyInto x.val 0 src, by
      rw [length_copyInto (by rw [x.property]; omega), x.property]⟩
  else panic

/-- `a - b`, of lengths. -/
def sub (a b : ℕ) : Checked ε ℕ :=
  if b ≤ a then pure (a - b) else panic

/-- `x << n`. -/
def shl {w : ℕ} (x : BitVec w) (n : ℕ) : Checked ε (BitVec w) :=
  if n < w then pure (x <<< n) else panic

/-! ### Programs that do not panic -/

/-- The program does not panic, and its result is `r`. -/
def Gives (p : Checked ε α) (r : Except ε α) : Prop :=
  p.run = some r

namespace Gives

variable {p : Checked ε α} {r : Except ε α}

theorem ofExcept (r : Except ε α) :
  Gives (MonadExcept.ofExcept r : Checked ε α) r
  := by
  cases r with
  | error err => rfl
  | ok a => rfl

theorem pure (a : α) :
  Gives (Pure.pure a : Checked ε α) (.ok a)
  := rfl

theorem throw (err : ε) :
  Gives (MonadExcept.throw err : Checked ε α) (.error err)
  := rfl

/-- One program after another. -/
theorem bind {f : α → Checked ε β} {g : α → Except ε β} (hp : Gives p r)
    (hf : ∀ a, r = .ok a → Gives (f a) (g a)) :
  Gives (p >>= f) (r >>= g)
  := by
  rw [Gives, ExceptT.run_bind, show p.run = some r from hp]
  cases r with
  | error err => rfl
  | ok a => exact hf a rfl

/-- A program after one that returns a value. -/
theorem ok_bind {f : α → Checked ε β} {s : Except ε β} {a : α} (hp : Gives p (.ok a))
    (hf : Gives (f a) s) :
  Gives (p >>= f) s
  := by
  rw [Gives, ExceptT.run_bind, show p.run = some (.ok a) from hp]
  exact hf

/-- A program after one that fails is not run. -/
theorem error_bind {f : α → Checked ε β} {err : ε} (hp : Gives p (.error err)) :
  Gives (p >>= f) (.error err)
  := by
  rw [Gives, ExceptT.run_bind, show p.run = some (.error err) from hp]
  rfl

theorem map {f : α → β} (hp : Gives p r) :
  Gives (f <$> p) (r.map f)
  := by
  rw [Gives, ExceptT.run_map, show p.run = some r from hp]
  cases r with
  | error err => rfl
  | ok a => rfl

theorem adapt {ε' : Type} (f : ε → ε') (hp : Gives p r) :
  Gives (ExceptT.adapt f p) (r.mapError f)
  := by
  have hrun : p.run = some r := hp
  change Except.mapError f <$> p.run = some (r.mapError f)
  rw [hrun]
  rfl

theorem ite {c : Prop} [Decidable c] {q : Checked ε α} {s : Except ε α} (hpos : c → Gives p r)
    (hneg : ¬ c → Gives q s) :
  Gives (if c then p else q) (if c then r else s)
  := by
  split
  · next h => exact hpos h
  · next h => exact hneg h

/-- A loop whose steps return values. -/
theorem foldlM {f : β → α → Checked ε β} {g : β → α → β} (h : ∀ b a, Gives (f b a) (.ok (g b a)))
    (b : β) (l : List α) :
  Gives (l.foldlM f b) (.ok (l.foldl g b))
  := by
  induction l generalizing b with
  | nil => exact .pure b
  | cons a l ih =>
    rw [List.foldlM_cons, List.foldl_cons]
    exact (h b a).ok_bind (ih (g b a))

/-! ### Steps that are defined -/

theorem index_of_some {l : List α} {i : ℕ} {a : α} (h : l[i]? = some a) :
  Gives (index l i : Checked ε α) (.ok a)
  := by
  rw [Checked.index, h]
  rfl

theorem index {l : List α} {i : ℕ} (h : i < l.length) (d : α) :
  Gives (index l i : Checked ε α) (.ok (l.getD i d))
  := by
  apply index_of_some
  rw [List.getD_eq_getElem?_getD, List.getElem?_eq_getElem h, Option.getD_some]

theorem range {l : List α} {lo hi : ℕ} (hlo : lo ≤ hi) (hhi : hi ≤ l.length) :
  Gives (range l lo hi : Checked ε (List α)) (.ok (slice l lo (hi - lo)))
  := by
  rw [Checked.range, if_pos ⟨hlo, hhi⟩]
  rfl

theorem rangeFrom {l : List α} {lo : ℕ} (h : lo ≤ l.length) :
  Gives (rangeFrom l lo : Checked ε (List α)) (.ok (l.drop lo))
  := by
  rw [Checked.rangeFrom, if_pos h]
  rfl

theorem rangeTo {l : List α} {hi : ℕ} (h : hi ≤ l.length) :
  Gives (rangeTo l hi : Checked ε (List α)) (.ok (l.take hi))
  := by
  rw [Checked.rangeTo, if_pos h]
  rfl

theorem array {l : List α} {n : ℕ} (h : l.length = n) :
  Gives (array n l : Checked ε (Arr α n)) (.ok ⟨l, h⟩)
  := by
  rw [Checked.array, dif_pos h]
  rfl

theorem arrayOr {l : List α} {n : ℕ} (err : ε) (h : l.length = n) :
  Gives (arrayOr err n l) (.ok ⟨l, h⟩)
  := by
  rw [Checked.arrayOr, dif_pos h]
  rfl

theorem beInt {w lo : ℕ} {l : List (BitVec 8)} (h : lo + w / 8 ≤ l.length) :
  Gives (beInt w l lo : Checked ε (BitVec w)) (.ok (fromBeBytes w (slice l lo (w / 8))))
  := by
  refine .ok_bind (.range (Nat.le_add_right _ _) h) ?_
  rw [Nat.add_sub_cancel_left]
  exact .ok_bind (.array (length_slice h)) (.pure _)

theorem copyFromSlice {n hi : ℕ} (x : Arr α n) {src : List α} (h : hi ≤ n ∧ src.length = hi) :
  Gives (copyFromSlice x hi src : Checked ε (Arr α n)) (.ok ⟨copyInto x.val 0 src, by
    rw [length_copyInto (by rw [x.property]; omega), x.property]⟩)
  := by
  rw [Checked.copyFromSlice, dif_pos h]
  rfl

theorem sub {a b : ℕ} (h : b ≤ a) :
  Gives (sub a b : Checked ε ℕ) (.ok (a - b))
  := by
  rw [Checked.sub, if_pos h]
  rfl

theorem shl {w n : ℕ} (x : BitVec w) (h : n < w) :
  Gives (shl x n : Checked ε (BitVec w)) (.ok (x <<< n))
  := by
  rw [Checked.shl, if_pos h]
  rfl

end Gives

/-! ### Programs with a state -/

/-- From every state the program does not panic, and it does what `m` does. -/
def GivesFrom {σ : Type} (p : StateT σ (ExceptT ε Option) α) (m : StateT σ (Except ε) α) : Prop :=
  ∀ s, Gives (p.run s) (m.run s)

namespace GivesFrom

variable {σ : Type} {p : StateT σ (ExceptT ε Option) α} {m : StateT σ (Except ε) α}

theorem pure (a : α) :
  GivesFrom (Pure.pure a : StateT σ (ExceptT ε Option) α) (Pure.pure a)
  := fun _ => .pure _

theorem throw (err : ε) :
  GivesFrom (MonadExcept.throw err : StateT σ (ExceptT ε Option) α) (MonadExcept.throw err)
  := fun _ => .throw _

theorem bind {f : α → StateT σ (ExceptT ε Option) β} {g : α → StateT σ (Except ε) β}
    (hp : GivesFrom p m) (hf : ∀ a, GivesFrom (f a) (g a)) :
  GivesFrom (p >>= f) (m >>= g)
  := by
  intro s
  rw [StateT.run_bind, StateT.run_bind]
  exact (hp s).bind fun a _ => hf a.1 a.2

/-- The value of a program from a state. -/
theorem run' (hp : GivesFrom p m) (s : σ) :
  Gives (p.run' s) (m.run' s)
  := (hp s).map

end GivesFrom

end Checked
