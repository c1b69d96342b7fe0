import SmolGnet.Library.Reorder
import SmolGnet.Routing.Refresh

/-!
# The selected routes

Of the routes for one prefix no two have the same rank, so that one of them is better than all
others.  It depends on which routes there are, and not on the order they are stored in.  As a set the
routes are changed by replacing those of one kind: changes that come from different neighbors, or
that are about different prefixes, replace different routes.  Their order does not matter.
-/

namespace SmolGnet

theorem RouteOrigin.administrativePreference_injective :
  Function.Injective RouteOrigin.administrativePreference
  := by
  intro a b h
  cases a <;> cases b <;> first | rfl | exact absurd h (by decide)

/-- Routes of the same rank differ only in what is not compared. -/
theorem RibRoute.eq_of_rank_eq {a b : RibRoute} (h : a.rank = b.rank) :
  a.origin = b.origin ∧ a.learnedFrom = b.learnedFrom
  := by
  rw [rank, rank, toLex_inj, Prod.mk.injEq, toLex_inj, Prod.mk.injEq] at h
  obtain ⟨horigin, -, hfrom⟩ := h
  refine ⟨RouteOrigin.administrativePreference_injective (BitVec.eq_of_toNat_eq horigin), ?_⟩
  cases ha : a.learnedFrom with
  | none =>
    cases hb : b.learnedFrom with
    | none => rfl
    | some y =>
      rw [ha, hb] at hfrom
      cases hfrom
  | some x =>
    cases hb : b.learnedFrom with
    | none =>
      rw [ha, hb] at hfrom
      cases hfrom
    | some y =>
      rw [ha, hb] at hfrom
      have hvalue : x.value.toNat = y.value.toNat := WithBot.coe_injective hfrom
      cases x
      cases y
      exact congrArg (fun v => some (RouterId.mk v)) (BitVec.eq_of_toNat_eq hvalue)

namespace RouterRib

variable {rib rib' : RouterRib} {p : GdpPrefix} {s : SelectedRoute}

/-! ### The best route -/

/-- Different routes for one prefix have different ranks. -/
theorem rank_injOn {a b : RibRoute} (ha : a ∈ rib.routes) (hb : b ∈ rib.routes)
    (hp : a.gdpPrefix = b.gdpPrefix) (hrank : a.rank = b.rank) :
  a = b
  := by
  obtain ⟨horigin, hfrom⟩ := RibRoute.eq_of_rank_eq hrank
  apply List.inj_on_of_nodup_map rib.distinct ha hb
  rw [RibRoute.key, RibRoute.key, hp, horigin, hfrom]

/-- The selected routes are the best ones. -/
theorem mem_selectedRoutes_iff :
  s ∈ rib.selectedRoutes ↔
    ∃ r ∈ rib.routes, s = .ofRibRoute r ∧
      ∀ x ∈ rib.routes, x.gdpPrefix = r.gdpPrefix → x ≠ r → r.rank < x.rank
  := by
  rw [mem_selectedRoutes]
  constructor
  · intro h
    obtain ⟨r, hr, hp, rfl, hle⟩ := exists_of_selectedForPrefix h
    refine ⟨r, hr, rfl, ?_⟩
    intro x hx hxp hne
    apply lt_of_le_of_ne (hle x hx (hxp.trans hp))
    intro hrank
    exact hne (rank_injOn hx hr hxp hrank.symm)
  · rintro ⟨r, hr, rfl, hbest⟩
    obtain ⟨s, hs⟩ := exists_selectedForPrefix hr
    obtain ⟨r', hr', hp, rfl, hle⟩ := exists_of_selectedForPrefix hs
    have heq : r' = r := by
      by_contra hne
      exact absurd (hle r hr rfl) (not_le_of_gt (hbest r' hr' hp hne))
    rw [heq] at hs
    exact hs

/-- The selected routes are in the order of their prefixes. -/
theorem sorted_selectedRoutes (rib : RouterRib) :
  rib.selectedRoutes.Pairwise (fun a b => compare a.gdpPrefix b.gdpPrefix = .lt)
  := by
  rw [selectedRoutes, List.pairwise_map]
  apply List.Pairwise.imp_of_mem ?_ Std.ExtTreeMap.ordered_keys_toList
  rintro ⟨p, r⟩ ⟨q, x⟩ hr hx hlt
  rw [Std.ExtTreeMap.mem_toList_iff_getElem?_eq_some, Table.getElem?_foldl_keepBetter,
    Std.ExtTreeMap.getElem?_empty] at hr hx
  have hp := Table.mem_of_mem_foldl_argAux hr
  have hq := Table.mem_of_mem_foldl_argAux hx
  rw [List.mem_filter, decide_eq_true_eq] at hp hq
  change compare r.gdpPrefix x.gdpPrefix = .lt
  rw [hp.2, hq.2]
  exact hlt

/-- Exactly one route is selected for each prefix that has a route. -/
theorem existsUnique_selectedRoutes {r : RibRoute} (hr : r ∈ rib.routes) :
  ∃! s, s ∈ rib.selectedRoutes ∧ s.gdpPrefix = r.gdpPrefix
  := by
  obtain ⟨s, hs⟩ := exists_selectedForPrefix hr
  have hp := gdpPrefix_of_selectedForPrefix hs
  refine ⟨s, ⟨mem_selectedRoutes.mpr (hp.symm ▸ hs), hp⟩, ?_⟩
  rintro s' ⟨hs', hp'⟩
  rw [mem_selectedRoutes, hp', hs] at hs'
  exact (Option.some.inj hs').symm

/-- What is selected depends only on which routes there are. -/
theorem selectedRoutes_congr (h : ∀ r, r ∈ rib.routes ↔ r ∈ rib'.routes) :
  rib.selectedRoutes = rib'.selectedRoutes
  := by
  have hmem : ∀ s, s ∈ rib.selectedRoutes ↔ s ∈ rib'.selectedRoutes := by
    intro s
    rw [mem_selectedRoutes_iff, mem_selectedRoutes_iff]
    simp only [h]
  have hperm : rib.selectedRoutes.Perm rib'.selectedRoutes :=
    (List.perm_ext_iff_of_nodup (nodup_selectedRoutes rib).of_map
      (nodup_selectedRoutes rib').of_map).mpr hmem
  apply hperm.eq_of_pairwise _ (sorted_selectedRoutes rib) (sorted_selectedRoutes rib')
  intro a b _ _ hab hba
  rw [Std.OrientedCmp.gt_of_lt hab] at hba
  cases hba

/-! ### The routes as a set -/

namespace Change

/-- The neighbor that a change comes from; what the router itself decides comes from none. -/
def neighbor : Change → Option RouterId
  | .addConnected _ _ => none
  | .addStatic _ _ _ => none
  | .receiveAdvertisement neighbor _ _ => some neighbor
  | .receiveWithdrawal neighbor _ => some neighbor
  | .removeLearnedFrom neighbor => some neighbor

/-- The prefix that a change is about, if it is about one only. -/
def gdpPrefix : Change → Option GdpPrefix
  | .addConnected p _ => some p
  | .addStatic p _ _ => some p
  | .receiveAdvertisement _ _ advertisement => some advertisement.gdpPrefix
  | .receiveWithdrawal _ withdrawal => some withdrawal.gdpPrefix
  | .removeLearnedFrom _ => none

/-- The changes come from different neighbors, or are about different prefixes. -/
def Independent (c d : Change) : Prop :=
  c.neighbor ≠ d.neighbor ∨
    ∃ p q, c.gdpPrefix = some p ∧ d.gdpPrefix = some q ∧ p ≠ q

/-- The routes that a change replaces. -/
def Replaces (localRouterId : RouterId) : Change → RibRoute → Prop
  | .addConnected p _, r => isLocal p .connected r = true
  | .addStatic p _ _, r => isLocal p .static r = true
  | .receiveAdvertisement neighbor _ a, r =>
    ¬ (neighbor = localRouterId ∨ a.advertiser ≠ neighbor ∨ a.origin = .static ∨
      a.origin = .escape) ∧ isLearned a.gdpPrefix neighbor r = true
  | .receiveWithdrawal neighbor w, r =>
    ¬ (neighbor = localRouterId ∨ w.advertiser ≠ neighbor) ∧ isLearned w.gdpPrefix neighbor r = true
  | .removeLearnedFrom neighbor, r => r.origin = .learned ∧ r.learnedFrom = some neighbor

/-- The route that a change adds. -/
def added (localRouterId : RouterId) : Change → Option RibRoute
  | .addConnected p egressPort =>
    some { gdpPrefix := p, egressPort, origin := .connected, metric := ⟨0#32⟩, learnedFrom := none }
  | .addStatic p egressPort metric =>
    some { gdpPrefix := p, egressPort, origin := .static, metric, learnedFrom := none }
  | .receiveAdvertisement neighbor egressPort a =>
    if neighbor = localRouterId ∨ a.advertiser ≠ neighbor ∨ a.origin = .static ∨
      a.origin = .escape then none
    else some (learnedRoute neighbor egressPort a)
  | .receiveWithdrawal _ _ => none
  | .removeLearnedFrom _ => none

/-- A change replaces the route that it adds. -/
theorem replaces_of_added {localRouterId : RouterId} {c : Change} {r : RibRoute}
    (h : c.added localRouterId = some r) :
  c.Replaces localRouterId r
  := by
  cases c with
  | addConnected p egressPort =>
    cases h
    exact (replaces_isLocal _ rfl _).mpr rfl
  | addStatic p egressPort metric =>
    cases h
    exact (replaces_isLocal _ rfl _).mpr rfl
  | receiveAdvertisement neighbor egressPort a =>
    rw [added] at h
    split at h
    · cases h
    · next haccepted =>
      cases h
      exact ⟨haccepted, (replaces_isLearned _ neighbor rfl rfl _).mpr rfl⟩
  | receiveWithdrawal neighbor w => cases h
  | removeLearnedFrom neighbor => cases h

/-- What a change does to the set of the routes. -/
def replacement (localRouterId : RouterId) (c : Change) : Replacement RibRoute where
  old := { r | c.Replaces localRouterId r }
  new := { r | c.added localRouterId = some r }
  new_subset := fun _ => replaces_of_added

/-- A change replaces routes that come from its neighbor and are for its prefix. -/
theorem spec_of_replaces {localRouterId : RouterId} {c : Change} {r : RibRoute}
    (h : c.Replaces localRouterId r) :
  r.learnedFrom = c.neighbor ∧ ∀ p, c.gdpPrefix = some p → r.gdpPrefix = p
  := by
  cases c with
  | addConnected p egressPort =>
    simp only [Replaces, isLocal, Bool.and_eq_true, decide_eq_true_eq, Option.isNone_iff_eq_none] at h
    refine ⟨h.2, ?_⟩
    rintro _ ⟨⟩
    exact h.1.1
  | addStatic p egressPort metric =>
    simp only [Replaces, isLocal, Bool.and_eq_true, decide_eq_true_eq, Option.isNone_iff_eq_none] at h
    refine ⟨h.2, ?_⟩
    rintro _ ⟨⟩
    exact h.1.1
  | receiveAdvertisement neighbor egressPort a =>
    obtain ⟨hp, -, hfrom⟩ := isLearned_iff.mp h.2
    refine ⟨hfrom, ?_⟩
    rintro _ ⟨⟩
    exact hp
  | receiveWithdrawal neighbor w =>
    obtain ⟨hp, -, hfrom⟩ := isLearned_iff.mp h.2
    refine ⟨hfrom, ?_⟩
    rintro _ ⟨⟩
    exact hp
  | removeLearnedFrom neighbor =>
    refine ⟨h.2, ?_⟩
    intro p hp
    cases hp

/-- Independent changes replace different routes. -/
theorem Independent.disjoint {c d : Change} (h : c.Independent d) (localRouterId : RouterId) :
  Disjoint (c.replacement localRouterId).old (d.replacement localRouterId).old
  := by
  rw [Set.disjoint_left]
  intro r hc hd
  obtain ⟨hfrom, hp⟩ := spec_of_replaces hc
  obtain ⟨hfrom', hq⟩ := spec_of_replaces hd
  rcases h with hne | ⟨p, q, hcp, hdq, hne⟩
  · exact hne (hfrom.symm.trans hfrom')
  · exact hne ((hp p hcp).symm.trans (hq q hdq))

end Change

/-- A router and the set of its routes. -/
def asSet (rib : RouterRib) : RouterId × Set RibRoute :=
  (rib.localRouterId, { r | r ∈ rib.routes })

/-- The change of a set of routes. -/
def changeSet (t : RouterId × Set RibRoute) (c : Change) : RouterId × Set RibRoute :=
  (t.1, (c.replacement t.1).apply t.2)

/-- A change does to the list of the routes what it does to the set. -/
theorem asSet_change (rib : RouterRib) (c : Change) :
  (rib.change c).2.asSet = changeSet rib.asSet c
  := by
  have hid := (rib.change_spec c).1
  rw [asSet, asSet, changeSet, hid]
  refine congrArg (Prod.mk _) (Set.ext fun x => ?_)
  rw [Replacement.apply, Set.mem_union, Set.mem_sdiff]
  change x ∈ (rib.change c).2.routes ↔ c.added _ = some x ∨ x ∈ rib.routes ∧ ¬ c.Replaces _ x
  cases c with
  | addConnected p egressPort =>
    rw [change, mem_addConnected, Change.added, Option.some_inj, eq_comm, Change.Replaces,
      Bool.not_eq_true]
  | addStatic p egressPort metric =>
    rw [change, addStatic, upsertLocal, mem_replace, Change.added, Option.some_inj, eq_comm,
      Change.Replaces, Bool.not_eq_true]
  | receiveAdvertisement neighbor egressPort a =>
    rw [change, receiveAdvertisement, Change.added, Change.Replaces]
    split
    · next hreject =>
      simp only [hreject, not_true_eq_false, false_and, not_false_eq_true, and_true, reduceCtorEq,
        false_or]
      rfl
    · next haccepted =>
      rw [Option.some_inj, eq_comm, and_iff_right haccepted, Bool.not_eq_true]
      exact @mem_replace rib _ (learnedRoute neighbor egressPort a) x
        (replaces_isLearned _ neighbor rfl rfl)
        (RibRoute.formed_of_learned rfl (Option.some_ne_none neighbor))
  | receiveWithdrawal neighbor w =>
    rw [change, receiveWithdrawal, Change.added, Change.Replaces]
    split
    · next hreject =>
      simp only [hreject, not_true_eq_false, false_and, not_false_eq_true, and_true, reduceCtorEq,
        false_or]
      rfl
    · next haccepted =>
      change x ∈ (retain _ _).routes ↔ _
      rw [mem_retain]
      simp [haccepted]
  | removeLearnedFrom neighbor =>
    rw [change, removeLearnedFrom, Change.added, Change.Replaces]
    dsimp only
    rw [mem_retain, Bool.not_eq_true', ← Bool.not_eq_true, Bool.and_eq_true, decide_eq_true_eq,
      decide_eq_true_eq]
    simp only [reduceCtorEq, false_or]

/-- The routes of a router after changes. -/
def reached (localRouterId : RouterId) (cs : List Change) : RouterRib :=
  Machine.run (fun rib c => (rib.change c).2) (new localRouterId) cs

/-- The order of independent changes does not matter. -/
theorem mem_routes_of_reordered {localRouterId : RouterId} {cs ds : List Change}
    (h : Machine.Reordered Change.Independent cs ds) (r : RibRoute) :
  r ∈ (reached localRouterId cs).routes ↔ r ∈ (reached localRouterId ds).routes
  := by
  have hcomm : ∀ t c d, Change.Independent c d →
      changeSet (changeSet t c) d = changeSet (changeSet t d) c := by
    intro t c d hindependent
    exact congrArg (Prod.mk _) (Replacement.apply_comm (hindependent.disjoint t.1) t.2)
  have hset : (reached localRouterId cs).asSet = (reached localRouterId ds).asSet := by
    rw [reached, reached, Machine.run_comap asSet_change, Machine.run_comap asSet_change,
      Machine.run_reordered hcomm h]
  have hroutes := congrArg Prod.snd hset
  exact Set.ext_iff.mp hroutes r

/-- After any changes there is at most one route for each prefix, origin and neighbor.  Selected is,
in the order of the prefixes, for each prefix the one route that has a lesser rank than all others.
In which order neighbors have made their changes, or changes for different prefixes have been made,
does not matter. -/
theorem selection (localRouterId : RouterId) (cs : List Change) :
  (∀ a ∈ (reached localRouterId cs).routes, ∀ b ∈ (reached localRouterId cs).routes,
    a.gdpPrefix = b.gdpPrefix → a.origin = b.origin → a.learnedFrom = b.learnedFrom → a = b) ∧
  (reached localRouterId cs).routes.Nodup ∧
  (reached localRouterId cs).selectedRoutes.Pairwise
    (fun a b => compare a.gdpPrefix b.gdpPrefix = .lt) ∧
  (∀ p, (∃ r ∈ (reached localRouterId cs).routes, r.gdpPrefix = p) →
    ∃! s, s ∈ (reached localRouterId cs).selectedRoutes ∧ s.gdpPrefix = p) ∧
  (∀ s, s ∈ (reached localRouterId cs).selectedRoutes ↔
    ∃ r ∈ (reached localRouterId cs).routes, s = .ofRibRoute r ∧
      ∀ x ∈ (reached localRouterId cs).routes, x.gdpPrefix = r.gdpPrefix → x ≠ r →
        r.rank < x.rank) ∧
  (∀ p s, (reached localRouterId cs).selectedForPrefix p = some s ↔
    s ∈ (reached localRouterId cs).selectedRoutes ∧ s.gdpPrefix = p) ∧
  ∀ ds, Machine.Reordered Change.Independent cs ds →
    (reached localRouterId cs).selectedRoutes = (reached localRouterId ds).selectedRoutes
  := by
  refine ⟨?_, (reached localRouterId cs).distinct.of_map, sorted_selectedRoutes _, ?_,
    fun _ => mem_selectedRoutes_iff, ?_, ?_⟩
  · intro a ha b hb hp horigin hfrom
    apply List.inj_on_of_nodup_map (reached localRouterId cs).distinct ha hb
    rw [RibRoute.key, RibRoute.key, hp, horigin, hfrom]
  · rintro _ ⟨r, hr, rfl⟩
    exact existsUnique_selectedRoutes hr
  · intro p s
    rw [mem_selectedRoutes]
    constructor
    · intro h
      have hp := gdpPrefix_of_selectedForPrefix h
      exact ⟨hp.symm ▸ h, hp⟩
    · rintro ⟨h, rfl⟩
      exact h
  · intro ds h
    exact selectedRoutes_congr (mem_routes_of_reordered h)

end RouterRib

end SmolGnet
