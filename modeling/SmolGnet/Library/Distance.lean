import Mathlib.Data.Finset.Card
import Mathlib.Data.Nat.Find
import Mathlib.Order.Bounds.Basic

/-!
# Distances in a weighted graph

A graph is given by the weights of its edges, and some of its vertices are sources.  A walk leads from
a source to a vertex, and costs what its edges weigh together.  The distance of a vertex is what the
cheapest walk to it costs.  If all weights are positive, the cheapest walks have fewer edges than the
graph has vertices, because distances grow along them.
-/

namespace WeightedGraph

variable {ν : Type*} {weight : ν → ν → Option ℕ} {source : ν → Prop} {u v : ν} {n k w : ℕ}

/-- A walk from a source to `v` over `n` edges costs `k`. -/
inductive Walk (weight : ν → ν → Option ℕ) (source : ν → Prop) : ν → ℕ → ℕ → Prop where
  | source {v : ν} (h : source v) : Walk weight source v 0 0
  | edge {u v : ν} {n k w : ℕ} (h : Walk weight source u n k) (hedge : weight u v = some w) :
    Walk weight source v (n + 1) (k + w)

/-- What the walks to `v` cost. -/
def costs (weight : ν → ν → Option ℕ) (source : ν → Prop) (v : ν) : Set ℕ :=
  { k | ∃ n, Walk weight source v n k }

/-- The distance of `v` is `k`. -/
def Distance (weight : ν → ν → Option ℕ) (source : ν → Prop) (v : ν) (k : ℕ) : Prop :=
  IsLeast (costs weight source v) k

/-- There are at least as many walks from more sources. -/
theorem Walk.mono {source' : ν → Prop} (h : Walk weight source v n k)
    (hsource : ∀ v, source v → source' v) :
  Walk weight source' v n k
  := by
  induction h with
  | source h => exact .source (hsource _ h)
  | edge _ hedge ih => exact ih.edge hedge

/-- A vertex that a walk leads to has a distance. -/
theorem Walk.exists_distance (h : Walk weight source v n k) :
  ∃ k' ≤ k, Distance weight source v k'
  := by
  classical
  have hexists : ∃ k, ∃ n, Walk weight source v n k := ⟨k, n, h⟩
  refine ⟨Nat.find hexists, Nat.find_min' hexists ⟨n, h⟩, Nat.find_spec hexists, ?_⟩
  intro k' hk'
  exact Nat.find_min' hexists hk'

/-- The distances of the vertices that a cheapest walk comes through grow, so that it comes through as
many vertices as it has edges before it comes to its end. -/
theorem Walk.exists_nearer (hpositive : ∀ u v w, weight u v = some w → 0 < w)
    (h : Walk weight source v n k) (hleast : k ∈ lowerBounds (costs weight source v)) :
  ∃ nearer : Finset ν, nearer.card = n ∧
    ∀ x ∈ nearer, (∃ y w, weight x y = some w) ∧ ∃ k' ∈ costs weight source x, k' < k
  := by
  classical
  induction h with
  | source h => exact ⟨∅, rfl, by simp⟩
  | @edge u v n k w hwalk hedge ih =>
    have hw := hpositive u v w hedge
    have hleast' : k ∈ lowerBounds (costs weight source u) := by
      rintro k' ⟨n', hwalk'⟩
      have hle := hleast ⟨n' + 1, hwalk'.edge hedge⟩
      omega
    obtain ⟨nearer, hcard, hnearer⟩ := ih hleast'
    have hnot : u ∉ nearer := by
      intro hu
      obtain ⟨-, k', hk', hlt⟩ := hnearer u hu
      have hle := hleast' hk'
      omega
    refine ⟨insert u nearer, ?_, ?_⟩
    · rw [Finset.card_insert_of_notMem hnot, hcard]
    · intro x hx
      rcases Finset.mem_insert.mp hx with rfl | hx
      · exact ⟨⟨v, w, hedge⟩, k, ⟨n, hwalk⟩, by omega⟩
      · obtain ⟨hout, k', hk', hlt⟩ := hnearer x hx
        exact ⟨hout, k', hk', by omega⟩

/-- A cheapest walk has fewer edges than the graph has vertices. -/
theorem Distance.exists_walk {vertices : Finset ν}
    (hpositive : ∀ u v w, weight u v = some w → 0 < w)
    (hvertices : ∀ u v w, weight u v = some w → u ∈ vertices ∧ v ∈ vertices)
    (h : Distance weight source v k) :
  ∃ n ≤ vertices.card - 1, Walk weight source v n k
  := by
  classical
  obtain ⟨⟨n, hwalk⟩, hleast⟩ := h
  refine ⟨n, ?_, hwalk⟩
  obtain ⟨nearer, hcard, hnearer⟩ := hwalk.exists_nearer hpositive hleast
  cases hwalk with
  | source h => exact Nat.zero_le _
  | @edge u _ n k w hwalk hedge =>
    have hnot : v ∉ nearer := by
      intro hv
      obtain ⟨-, k', hk', hlt⟩ := hnearer v hv
      have hle := hleast hk'
      omega
    have hsub : insert v nearer ⊆ vertices := by
      intro x hx
      rcases Finset.mem_insert.mp hx with rfl | hx
      · exact (hvertices u x w hedge).2
      · obtain ⟨⟨y, w', hout⟩, -⟩ := hnearer x hx
        exact (hvertices x y w' hout).1
    have hle := Finset.card_le_card hsub
    rw [Finset.card_insert_of_notMem hnot, hcard] at hle
    omega

/-- When each element of one set is at least one of the other, and the other way round, then the sets
have the same least element. -/
theorem isLeast_of_forall_exists_le {s t : Set ℕ} (hst : ∀ k ∈ s, ∃ k' ≤ k, k' ∈ t)
    (hts : ∀ k ∈ t, ∃ k' ≤ k, k' ∈ s) (h : IsLeast s k) :
  IsLeast t k
  := by
  obtain ⟨hk, hleast⟩ := h
  obtain ⟨k₁, hle₁, hk₁⟩ := hst k hk
  obtain ⟨k₂, hle₂, hk₂⟩ := hts k₁ hk₁
  have hle := hleast hk₂
  have heq : k₁ = k := by omega
  rw [heq] at hk₁
  refine ⟨hk₁, ?_⟩
  intro k' hk'
  obtain ⟨k₃, hle₃, hk₃⟩ := hts k' hk'
  exact (hleast hk₃).trans hle₃

/-- Bounds that are at least what some walk costs, and at most what each walk costs, have the distance
as their least. -/
theorem isLeast_iff_distance {bound : Set ℕ}
    (hwalk : ∀ k ∈ bound, ∃ k' ≤ k, k' ∈ costs weight source v)
    (hbound : ∀ k ∈ costs weight source v, ∃ k' ≤ k, k' ∈ bound) :
  IsLeast bound k ↔ Distance weight source v k
  := by
  constructor
  · intro h
    exact isLeast_of_forall_exists_le hwalk hbound h
  · intro h
    exact isLeast_of_forall_exists_le hbound hwalk h

end WeightedGraph
