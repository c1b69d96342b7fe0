import SmolGnet.Basic

/-!
# Time

Instants and durations are counted in milliseconds.  What is after the last instant is the last
instant.
-/

namespace SmolGnet

/-- A point in time. -/
structure Instant where
  millis : U64
  deriving DecidableEq, Repr

/-- A length of time. -/
structure Duration where
  millis : U64
  deriving DecidableEq, Repr

/-- The earlier instant is the lesser one. -/
instance : LT Instant where
  lt a b := a.millis < b.millis

instance : LE Instant where
  le a b := a.millis ≤ b.millis

instance (a b : Instant) : Decidable (a < b) :=
  inferInstanceAs (Decidable (a.millis < b.millis))

instance (a b : Instant) : Decidable (a ≤ b) :=
  inferInstanceAs (Decidable (a.millis ≤ b.millis))

/-- The shorter duration is the lesser one. -/
instance : LE Duration where
  le a b := a.millis ≤ b.millis

instance (a b : Duration) : Decidable (a ≤ b) :=
  inferInstanceAs (Decidable (a.millis ≤ b.millis))

theorem Duration.le_def {a b : Duration} :
  a ≤ b ↔ a.millis.toNat ≤ b.millis.toNat
  := Iff.rfl

namespace Instant

theorem le_def {a b : Instant} :
  a ≤ b ↔ a.millis.toNat ≤ b.millis.toNat
  := Iff.rfl

theorem lt_def {a b : Instant} :
  a < b ↔ a.millis.toNat < b.millis.toNat
  := Iff.rfl

theorem not_le {a b : Instant} :
  ¬ a ≤ b ↔ b < a
  := Nat.not_le

def zero : Instant :=
  ⟨0#64⟩

/-- How long ago an earlier instant is. -/
def saturatingDurationSince (now earlier : Instant) : Duration :=
  ⟨saturatingSub now.millis earlier.millis⟩

/-- The instant after a length of time. -/
def add (now : Instant) (duration : Duration) : Instant :=
  ⟨saturatingAdd now.millis duration.millis⟩

end Instant

/-- When there is work to do. -/
inductive PollAt where
  | now
  | time (instant : Instant)
  | ingress
  deriving DecidableEq, Repr

end SmolGnet
