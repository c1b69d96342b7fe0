import Mathlib.Data.Prod.Lex
import Mathlib.Order.WithBot
import SmolGnet.Library.Table
import SmolGnet.Routing.Types

/-!
# The routing information base

A `RouterRib` holds all routes that a router knows: those to networks it is connected to, those
that are configured, and those it has learned from its neighbors, at most one for each prefix and
neighbor.  For each prefix it selects the best of them, and tells the selected ones to its
neighbors, except to the neighbor that a route was learned from.
-/

namespace SmolGnet

/-- A port of a router. -/
abbrev RoutingPortId := U16

/-- A route. -/
structure RibRoute where
  gdpPrefix : GdpPrefix
  egressPort : RoutingPortId
  origin : RouteOrigin
  metric : RouteMetric
  learnedFrom : Option RouterId
  deriving DecidableEq

/-- A route that has been selected. -/
structure SelectedRoute where
  gdpPrefix : GdpPrefix
  egressPort : RoutingPortId
  origin : RouteOrigin
  metric : RouteMetric
  learnedFrom : Option RouterId
  deriving DecidableEq

/-- The selected route that `route` becomes. -/
def SelectedRoute.ofRibRoute (route : RibRoute) : SelectedRoute where
  gdpPrefix := route.gdpPrefix
  egressPort := route.egressPort
  origin := route.origin
  metric := route.metric
  learnedFrom := route.learnedFrom

/-- What a router tells its neighbor about a prefix. -/
inductive RouteUpdate where
  | advertise (advertisement : RouteAdvertise)
  | withdraw (withdrawal : RouteWithdraw)
  deriving DecidableEq

namespace RibRoute

/-- There is at most one route for each prefix, origin and neighbor. -/
def key (r : RibRoute) : GdpPrefix × RouteOrigin × Option RouterId :=
  (r.gdpPrefix, r.origin, r.learnedFrom)

/-- Exactly the learned routes have been learned from a neighbor, and a connected network costs
nothing. -/
def Formed (r : RibRoute) : Prop :=
  match r.origin with
  | .connected => r.learnedFrom = none ∧ r.metric = ⟨0#32⟩
  | .static => r.learnedFrom = none
  | .learned => r.learnedFrom ≠ none
  | .escape => False

theorem formed_of_connected {r : RibRoute} (h : r.origin = .connected) (hfrom : r.learnedFrom = none)
    (hmetric : r.metric = ⟨0#32⟩) :
  r.Formed
  := by
  rw [Formed, h]
  exact ⟨hfrom, hmetric⟩

theorem formed_of_static {r : RibRoute} (h : r.origin = .static) (hfrom : r.learnedFrom = none) :
  r.Formed
  := by
  rw [Formed, h]
  exact hfrom

theorem formed_of_learned {r : RibRoute} (h : r.origin = .learned) (hfrom : r.learnedFrom ≠ none) :
  r.Formed
  := by
  rw [Formed, h]
  exact hfrom

end RibRoute

/-- The routes that a router knows. -/
structure RouterRib where
  localRouterId : RouterId
  routes : List RibRoute
  formed : ∀ r ∈ routes, r.Formed
  distinct : (routes.map RibRoute.key).Nodup

/-- The candidate is better than the current route. -/
def routeBetter (candidate current : RibRoute) : Bool :=
  let candidatePreference := candidate.origin.administrativePreference
  let currentPreference := current.origin.administrativePreference
  if candidatePreference ≠ currentPreference then candidatePreference < currentPreference
  else if candidate.metric ≠ current.metric then candidate.metric.value < current.metric.value
  else
    match candidate.learnedFrom, current.learnedFrom with
    | some candidate, some current => candidate.value < current.value
    | none, some _ => true
    | _, _ => false

/-- The place of a route in the order of preference. -/
def RibRoute.rank (r : RibRoute) : ℕ ×ₗ ℕ ×ₗ WithBot ℕ :=
  toLex (r.origin.administrativePreference.toNat, toLex (r.metric.value.toNat,
    match r.learnedFrom with
    | none => ⊥
    | some neighbor => (neighbor.value.toNat : WithBot ℕ)))

/-- One route is better than another if it comes before it. -/
theorem routeBetter_iff (a b : RibRoute) :
  routeBetter a b = true ↔ a.rank < b.rank
  := by
  have hmetric : a.metric = b.metric ↔ a.metric.value.toNat = b.metric.value.toNat := by
    rw [← BitVec.toNat_eq]
    cases a.metric
    cases b.metric
    simp
  rw [routeBetter, RibRoute.rank, RibRoute.rank, Prod.Lex.toLex_lt_toLex, Prod.Lex.toLex_lt_toLex]
  dsimp only
  split
  · next hp =>
    rw [ne_eq, BitVec.toNat_eq] at hp
    simp [hp, BitVec.lt_def]
  · next hp =>
    rw [not_not] at hp
    rw [hp]
    split
    · next hm =>
      rw [ne_eq, hmetric] at hm
      simp [hm, BitVec.lt_def]
    · next hm =>
      rw [not_not] at hm
      rw [hm]
      cases a.learnedFrom with
      | none => cases b.learnedFrom <;> simp
      | some x => cases b.learnedFrom <;> simp [BitVec.lt_def]

/-- The route may be told to the neighbor. -/
def routeIsAdvertisableTo (route : SelectedRoute) (neighbor : RouterId) : Bool :=
  match route.origin with
  | .connected => true
  | .learned => route.learnedFrom ≠ some neighbor
  | .static => false
  | .escape => false

namespace RouterRib

/-- A router that knows no routes. -/
def new (localRouterId : RouterId) : RouterRib where
  localRouterId := localRouterId
  routes := []
  formed := nofun
  distinct := List.nodup_nil

/-! ### Changes -/

/-- Put a route in the place of the old one with the same key. -/
def replace (rib : RouterRib) (isOld : RibRoute → Bool) (route : RibRoute)
    (hkey : Table.Replaces RibRoute.key isOld route) (hformed : route.Formed) : RouterRib where
  localRouterId := rib.localRouterId
  routes := Table.upsert isOld route rib.routes
  formed := by
    intro r hr
    rcases (Table.mem_upsert hkey rib.distinct).mp hr with rfl | ⟨hr, -⟩
    · exact hformed
    · exact rib.formed r hr
  distinct := Table.nodup_upsert hkey rib.distinct

/-- Keep only some of the routes. -/
def retain (rib : RouterRib) (keep : RibRoute → Bool) : RouterRib where
  localRouterId := rib.localRouterId
  routes := rib.routes.filter keep
  formed := fun r hr => rib.formed r (List.mem_of_mem_filter hr)
  distinct := rib.distinct.sublist (List.filter_sublist.map RibRoute.key)

theorem mem_replace {rib : RouterRib} {isOld : RibRoute → Bool} {route x : RibRoute}
    {hkey : Table.Replaces RibRoute.key isOld route} {hformed : route.Formed} :
  x ∈ (rib.replace isOld route hkey hformed).routes ↔
    x = route ∨ x ∈ rib.routes ∧ isOld x = false
  := by
  rw [Bool.eq_false_iff, ne_eq, hkey x]
  exact Table.mem_upsert hkey rib.distinct

theorem mem_retain {rib : RouterRib} {keep : RibRoute → Bool} {x : RibRoute} :
  x ∈ (rib.retain keep).routes ↔ x ∈ rib.routes ∧ keep x = true
  := List.mem_filter

/-- The route is the local one for the prefix with the origin. -/
def isLocal (p : GdpPrefix) (origin : RouteOrigin) (existing : RibRoute) : Bool :=
  existing.gdpPrefix = p && existing.origin = origin && existing.learnedFrom.isNone

/-- The route is the one for the prefix that was learned from the neighbor. -/
def isLearned (p : GdpPrefix) (neighbor : RouterId) (existing : RibRoute) : Bool :=
  existing.gdpPrefix = p && existing.origin = .learned && existing.learnedFrom = some neighbor

theorem replaces_isLocal (route : RibRoute) (h : route.learnedFrom = none) :
  Table.Replaces RibRoute.key (isLocal route.gdpPrefix route.origin) route
  := by
  intro b
  simp [isLocal, RibRoute.key, h, and_assoc]

theorem replaces_isLearned (route : RibRoute) (neighbor : RouterId) (horigin : route.origin = .learned)
    (h : route.learnedFrom = some neighbor) :
  Table.Replaces RibRoute.key (isLearned route.gdpPrefix neighbor) route
  := by
  intro b
  simp [isLearned, RibRoute.key, h, horigin, and_assoc]

/-- Put a local route in the place of the old one. -/
def upsertLocal (rib : RouterRib) (route : RibRoute) (hlocal : route.learnedFrom = none)
    (hformed : route.Formed) : RouterRib :=
  rib.replace (isLocal route.gdpPrefix route.origin) route (replaces_isLocal route hlocal) hformed

/-- The router is connected to a network. -/
def addConnected (rib : RouterRib) (p : GdpPrefix) (egressPort : RoutingPortId) : RouterRib :=
  rib.upsertLocal
    { gdpPrefix := p, egressPort, origin := .connected, metric := ⟨0#32⟩, learnedFrom := none }
    rfl (RibRoute.formed_of_connected rfl rfl rfl)

theorem mem_addConnected {rib : RouterRib} {p : GdpPrefix} {egressPort : RoutingPortId}
    {x : RibRoute} :
  x ∈ (rib.addConnected p egressPort).routes ↔
    x = { gdpPrefix := p, egressPort, origin := .connected, metric := ⟨0#32⟩, learnedFrom := none } ∨
    x ∈ rib.routes ∧ isLocal p .connected x = false
  := by
  rw [addConnected, upsertLocal, mem_replace]

/-- A route is configured. -/
def addStatic (rib : RouterRib) (p : GdpPrefix) (egressPort : RoutingPortId)
    (metric : RouteMetric) : RouterRib :=
  rib.upsertLocal { gdpPrefix := p, egressPort, origin := .static, metric, learnedFrom := none }
    rfl (RibRoute.formed_of_static rfl rfl)

/-- The route that is learned from an advertisement. -/
def learnedRoute (neighbor : RouterId) (egressPort : RoutingPortId)
    (advertisement : RouteAdvertise) : RibRoute where
  gdpPrefix := advertisement.gdpPrefix
  egressPort := egressPort
  origin := .learned
  metric := advertisement.metric
  learnedFrom := some neighbor

/-- The neighbor has a route. -/
def receiveAdvertisement (rib : RouterRib) (neighbor : RouterId) (egressPort : RoutingPortId)
    (advertisement : RouteAdvertise) : Except Error RouterRib :=
  if neighbor = rib.localRouterId ∨ advertisement.advertiser ≠ neighbor ∨
    advertisement.origin = .static ∨ advertisement.origin = .escape then .error .invalidField
  else
    let route := learnedRoute neighbor egressPort advertisement
    .ok (rib.replace (isLearned route.gdpPrefix neighbor) route
      (replaces_isLearned route neighbor rfl rfl) (RibRoute.formed_of_learned rfl nofun))

/-- The neighbor has a route no longer.  The result says whether one was removed. -/
def receiveWithdrawal (rib : RouterRib) (neighbor : RouterId) (withdrawal : RouteWithdraw) :
    Except Error (Bool × RouterRib) :=
  if neighbor = rib.localRouterId ∨ withdrawal.advertiser ≠ neighbor then .error .invalidField
  else
    let rib' := rib.retain (fun route => !isLearned withdrawal.gdpPrefix neighbor route)
    .ok (rib'.routes.length ≠ rib.routes.length, rib')

/-- Forget what was learned from a neighbor.  The result is the prefixes of these routes. -/
def removeLearnedFrom (rib : RouterRib) (neighbor : RouterId) : List GdpPrefix × RouterRib :=
  let remove (route : RibRoute) : Bool :=
    route.origin = .learned && route.learnedFrom = some neighbor
  let changed : BTreeSet GdpPrefix :=
    .ofList ((rib.routes.filter remove).map RibRoute.gdpPrefix)
  (changed.toList, rib.retain (fun route => !remove route))

/-! ### Selection -/

/-- The best routes, in the order of their prefixes. -/
def selectedRoutes (rib : RouterRib) : List SelectedRoute :=
  let winners : BTreeMap GdpPrefix RibRoute :=
    rib.routes.foldl (Table.keepBetter routeBetter RibRoute.gdpPrefix) ∅
  winners.toList.map (fun entry => .ofRibRoute entry.2)

/-- The best routes that have been learned. -/
def learnedFib (rib : RouterRib) : List SelectedRoute :=
  rib.selectedRoutes.filter (fun route => route.origin = .learned)

/-- The best route for a prefix. -/
def selectedForPrefix (rib : RouterRib) (p : GdpPrefix) : Option SelectedRoute :=
  (Table.reduce
    (fun current candidate => if routeBetter candidate current then candidate else current)
    (rib.routes.filter (fun route => route.gdpPrefix = p))).map .ofRibRoute

/-- What a neighbor is told about a route. -/
def advertisement (rib : RouterRib) (route : SelectedRoute) (outgoingMetric : RouteMetric) :
    RouteAdvertise where
  advertiser := rib.localRouterId
  gdpPrefix := route.gdpPrefix
  origin := route.origin
  metric := route.metric.saturatingAdd outgoingMetric

/-- All that a neighbor is told. -/
def advertisementsFor (rib : RouterRib) (neighbor : RouterId) (outgoingMetric : RouteMetric) :
    List RouteAdvertise :=
  (rib.selectedRoutes.filter (fun route => routeIsAdvertisableTo route neighbor)).map
    (fun route => rib.advertisement route outgoingMetric)

/-- What a neighbor is told about one prefix. -/
def updateFor (rib : RouterRib) (neighbor : RouterId) (outgoingMetric : RouteMetric)
    (p : GdpPrefix) : RouteUpdate :=
  match rib.selectedForPrefix p with
  | some route =>
    if routeIsAdvertisableTo route neighbor then .advertise (rib.advertisement route outgoingMetric)
    else .withdraw { advertiser := rib.localRouterId, gdpPrefix := p }
  | none => .withdraw { advertiser := rib.localRouterId, gdpPrefix := p }

/-- What a neighbor is told about the prefixes whose routes have changed. -/
def updatesFor (rib : RouterRib) (neighbor : RouterId) (outgoingMetric : RouteMetric)
    (changedPrefixes : List GdpPrefix) : List RouteUpdate :=
  let unique : BTreeSet GdpPrefix := .ofList changedPrefixes
  unique.toList.map (rib.updateFor neighbor outgoingMetric)

/-! ### What is selected -/

variable {rib : RouterRib} {p : GdpPrefix} {s : SelectedRoute}

/-- Selection depends only on the routes for the prefix. -/
theorem selectedForPrefix_congr {rib' : RouterRib}
    (h : rib'.routes.filter (fun route => route.gdpPrefix = p)
      = rib.routes.filter (fun route => route.gdpPrefix = p)) :
  rib'.selectedForPrefix p = rib.selectedForPrefix p
  := by
  rw [selectedForPrefix, selectedForPrefix, h]

/-- The selected route is one of the routes for the prefix, and none of them is better. -/
theorem exists_of_selectedForPrefix (h : rib.selectedForPrefix p = some s) :
  ∃ r ∈ rib.routes, r.gdpPrefix = p ∧ s = .ofRibRoute r ∧
    ∀ x ∈ rib.routes, x.gdpPrefix = p → r.rank ≤ x.rank
  := by
  rw [selectedForPrefix, Table.reduce_eq_foldl, Option.map_eq_some_iff] at h
  obtain ⟨r, hr, rfl⟩ := h
  have hmem := Table.mem_of_mem_foldl_argAux hr
  rw [List.mem_filter, decide_eq_true_eq] at hmem
  refine ⟨r, hmem.1, hmem.2, rfl, ?_⟩
  intro x hx hp
  have hfilter : x ∈ rib.routes.filter (fun route => route.gdpPrefix = p) :=
    List.mem_filter.mpr ⟨hx, decide_eq_true hp⟩
  have hnot : ¬ routeBetter x r = true := by
    apply List.not_of_mem_foldl_argAux _ _ _ hfilter hr
    · constructor
      intro a
      rw [routeBetter_iff]
      exact lt_irrefl _
    · constructor
      intro a b c
      simp only [routeBetter_iff]
      exact lt_trans
  rw [routeBetter_iff] at hnot
  exact not_lt.mp hnot

theorem gdpPrefix_of_selectedForPrefix (h : rib.selectedForPrefix p = some s) :
  s.gdpPrefix = p
  := by
  obtain ⟨r, -, hp, rfl, -⟩ := exists_of_selectedForPrefix h
  exact hp

/-- If there is a route for a prefix, one is selected. -/
theorem exists_selectedForPrefix {r : RibRoute} (hr : r ∈ rib.routes) :
  ∃ s, rib.selectedForPrefix r.gdpPrefix = some s
  := by
  cases hselected : rib.selectedForPrefix r.gdpPrefix with
  | some s => exact ⟨s, rfl⟩
  | none =>
    rw [selectedForPrefix, Table.reduce_eq_foldl, Option.map_eq_none_iff,
      List.foldl_argAux_eq_none, List.filter_eq_nil_iff] at hselected
    exact absurd (decide_eq_true rfl) (hselected.1 r hr)

/-- The two ways to select a route find the same one. -/
theorem mem_selectedRoutes :
  s ∈ rib.selectedRoutes ↔ rib.selectedForPrefix s.gdpPrefix = some s
  := by
  have hget : ∀ p, (rib.routes.foldl (Table.keepBetter routeBetter RibRoute.gdpPrefix)
      (∅ : BTreeMap GdpPrefix RibRoute))[p]?.map SelectedRoute.ofRibRoute
        = rib.selectedForPrefix p := by
    intro p
    rw [Table.getElem?_foldl_keepBetter, selectedForPrefix, Table.reduce_eq_foldl,
      Std.ExtTreeMap.getElem?_empty]
  rw [selectedRoutes, List.mem_map]
  constructor
  · rintro ⟨⟨p, r⟩, hmem, rfl⟩
    rw [Std.ExtTreeMap.mem_toList_iff_getElem?_eq_some] at hmem
    have hselected := hget p
    rw [hmem, Option.map_some] at hselected
    rw [gdpPrefix_of_selectedForPrefix hselected.symm]
    exact hselected.symm
  · intro hs
    rw [← hget, Option.map_eq_some_iff] at hs
    obtain ⟨r, hr, hrs⟩ := hs
    exact ⟨(s.gdpPrefix, r), Std.ExtTreeMap.mem_toList_iff_getElem?_eq_some.mpr hr, hrs⟩

/-- At most one route is selected for each prefix. -/
theorem nodup_selectedRoutes (rib : RouterRib) :
  (rib.selectedRoutes.map SelectedRoute.gdpPrefix).Nodup
  := by
  have hkeys : rib.selectedRoutes.map SelectedRoute.gdpPrefix
      = (rib.routes.foldl (Table.keepBetter routeBetter RibRoute.gdpPrefix)
          (∅ : BTreeMap GdpPrefix RibRoute)).keys := by
    rw [selectedRoutes, List.map_map, ← Std.ExtTreeMap.map_fst_toList_eq_keys]
    apply List.map_congr_left
    rintro ⟨p, r⟩ hmem
    rw [Std.ExtTreeMap.mem_toList_iff_getElem?_eq_some, Table.getElem?_foldl_keepBetter,
      Std.ExtTreeMap.getElem?_empty] at hmem
    have hfilter := Table.mem_of_mem_foldl_argAux hmem
    rw [List.mem_filter, decide_eq_true_eq] at hfilter
    exact hfilter.2
  rw [hkeys]
  exact Std.ExtTreeMap.nodup_keys

end RouterRib

end SmolGnet
