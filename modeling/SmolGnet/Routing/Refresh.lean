import SmolGnet.Routing.Rib

/-!
# Updates and refreshes

A router can tell a neighbor all its routes, or only what has changed.  The neighbor that is told
what has changed after each change knows the same routes as one that is told everything anew.  The
reason is that an update says of each prefix what a refresh says of it, be it that there is nothing
to say, and that a change of the routes for one prefix leaves what is selected for the others.
-/

namespace SmolGnet

namespace RouterRib

/-! ### What a neighbor learns -/

/-- The routes that have been learned from a neighbor. -/
def learnedFrom (rib : RouterRib) (neighbor : RouterId) : List RibRoute :=
  rib.routes.filter (fun route => route.origin = .learned && route.learnedFrom = some neighbor)

/-- A neighbor tells something. -/
def receiveUpdate (rib : RouterRib) (neighbor : RouterId) (egressPort : RoutingPortId) :
    RouteUpdate → Except Error RouterRib
  | .advertise advertisement => rib.receiveAdvertisement neighbor egressPort advertisement
  | .withdraw withdrawal => (rib.receiveWithdrawal neighbor withdrawal).map (·.2)

/-- A neighbor tells several things. -/
def receiveUpdates (rib : RouterRib) (neighbor : RouterId) (egressPort : RoutingPortId)
    (updates : List RouteUpdate) : Except Error RouterRib :=
  updates.foldlM (fun rib update => rib.receiveUpdate neighbor egressPort update) rib

/-- What a router knows that is told only these advertisements. -/
def refreshed (localRouterId neighbor : RouterId) (egressPort : RoutingPortId)
    (advertisements : List RouteAdvertise) : Except Error RouterRib :=
  (new localRouterId).receiveUpdates neighbor egressPort (advertisements.map .advertise)

end RouterRib

namespace RouteUpdate

/-- The prefix that the update is about. -/
def gdpPrefix : RouteUpdate → GdpPrefix
  | .advertise advertisement => advertisement.gdpPrefix
  | .withdraw withdrawal => withdrawal.gdpPrefix

/-- The router that the update comes from. -/
def advertiser : RouteUpdate → RouterId
  | .advertise advertisement => advertisement.advertiser
  | .withdraw withdrawal => withdrawal.advertiser

/-- The route that is learned from the update. -/
def learnedRoute (neighbor : RouterId) (egressPort : RoutingPortId) :
    RouteUpdate → Option RibRoute
  | .advertise advertisement => some (RouterRib.learnedRoute neighbor egressPort advertisement)
  | .withdraw _ => none

/-- The update is not about a configured route. -/
def Advertisable : RouteUpdate → Prop
  | .advertise advertisement => advertisement.origin ≠ .static ∧ advertisement.origin ≠ .escape
  | .withdraw _ => True

end RouteUpdate

namespace RouterRib

variable {rib rib' : RouterRib} {neighbor : RouterId} {egressPort : RoutingPortId} {x : RibRoute}

theorem mem_learnedFrom :
  x ∈ rib.learnedFrom neighbor ↔
    x ∈ rib.routes ∧ x.origin = .learned ∧ x.learnedFrom = some neighbor
  := by
  simp [learnedFrom]

theorem isLearned_iff {p : GdpPrefix} :
  isLearned p neighbor x = true ↔
    x.gdpPrefix = p ∧ x.origin = .learned ∧ x.learnedFrom = some neighbor
  := by
  simp [isLearned, and_assoc]

/-- An update of a neighbor is accepted if it is not about a configured route. -/
theorem receiveUpdate_isOk (rib : RouterRib) (egressPort : RoutingPortId) {update : RouteUpdate}
    (hne : neighbor ≠ rib.localRouterId) (hfrom : update.advertiser = neighbor)
    (hok : update.Advertisable) :
  ∃ rib', rib.receiveUpdate neighbor egressPort update = .ok rib'
  := by
  cases update with
  | advertise advertisement =>
    rw [receiveUpdate, receiveAdvertisement, if_neg]
    · exact ⟨_, rfl⟩
    · rintro (h | h | h | h)
      · exact hne h
      · exact h hfrom
      · exact hok.1 h
      · exact hok.2 h
  | withdraw withdrawal =>
    rw [receiveUpdate, receiveWithdrawal, if_neg]
    · exact ⟨_, rfl⟩
    · rintro (h | h)
      · exact hne h
      · exact h hfrom

/-- An update that is accepted replaces what was learned about the prefix. -/
theorem mem_receiveUpdate {update : RouteUpdate}
    (h : rib.receiveUpdate neighbor egressPort update = .ok rib') :
  rib'.localRouterId = rib.localRouterId ∧
    ∀ x, x ∈ rib'.routes ↔ update.learnedRoute neighbor egressPort = some x ∨
      x ∈ rib.routes ∧ isLearned update.gdpPrefix neighbor x = false
  := by
  cases update with
  | advertise advertisement =>
    rw [receiveUpdate, receiveAdvertisement] at h
    split at h
    · cases h
    · cases h
      refine ⟨rfl, ?_⟩
      intro x
      rw [mem_replace, RouteUpdate.learnedRoute, Option.some.injEq, eq_comm]
      rfl
  | withdraw withdrawal =>
    rw [receiveUpdate, receiveWithdrawal] at h
    split at h
    · cases h
    · cases h
      refine ⟨rfl, ?_⟩
      intro x
      simp [RouteUpdate.learnedRoute, RouteUpdate.gdpPrefix, mem_retain]

/-- A route that is learned from an update has its prefix and is learned from the neighbor. -/
theorem learnedRoute_spec {update : RouteUpdate}
    (h : update.learnedRoute neighbor egressPort = some x) :
  x.gdpPrefix = update.gdpPrefix ∧ x.origin = .learned ∧ x.learnedFrom = some neighbor
  := by
  cases update with
  | advertise advertisement =>
    cases h
    exact ⟨rfl, rfl, rfl⟩
  | withdraw withdrawal => cases h

/-- What an update does to the routes learned from the neighbor. -/
theorem learnedFrom_receiveUpdate (rib : RouterRib) (egressPort : RoutingPortId) {update : RouteUpdate}
    (hne : neighbor ≠ rib.localRouterId)
    (hfrom : update.advertiser = neighbor) (hok : update.Advertisable) :
  ∃ rib', rib.receiveUpdate neighbor egressPort update = .ok rib' ∧
    rib'.localRouterId = rib.localRouterId ∧
    ∀ x, x ∈ rib'.learnedFrom neighbor ↔ update.learnedRoute neighbor egressPort = some x ∨
      x ∈ rib.learnedFrom neighbor ∧ x.gdpPrefix ≠ update.gdpPrefix
  := by
  obtain ⟨rib', heq⟩ := receiveUpdate_isOk rib egressPort hne hfrom hok
  obtain ⟨hid, hroutes⟩ := mem_receiveUpdate heq
  refine ⟨rib', heq, hid, ?_⟩
  intro x
  rw [mem_learnedFrom, mem_learnedFrom, hroutes, Bool.eq_false_iff, ne_eq, isLearned_iff]
  constructor
  · rintro ⟨hx | ⟨hx, hold⟩, hlearned⟩
    · exact .inl hx
    · exact .inr ⟨⟨hx, hlearned⟩, fun hp => hold ⟨hp, hlearned⟩⟩
  · rintro (hx | ⟨⟨hx, hlearned⟩, hp⟩)
    · exact ⟨.inl hx, (learnedRoute_spec hx).2⟩
    · exact ⟨.inr ⟨hx, fun hold => hp hold.1⟩, hlearned⟩

/-- A neighbor is heard about several prefixes.  What was learned of other prefixes stays. -/
theorem learnedFrom_receiveUpdates (rib : RouterRib) (egressPort : RoutingPortId)
    {updates : List RouteUpdate} (hne : neighbor ≠ rib.localRouterId)
    (hfrom : ∀ update ∈ updates, update.advertiser = neighbor)
    (hok : ∀ update ∈ updates, update.Advertisable)
    (hdistinct : (updates.map RouteUpdate.gdpPrefix).Nodup) :
  ∃ rib', rib.receiveUpdates neighbor egressPort updates = .ok rib' ∧
    ∀ x, x ∈ rib'.learnedFrom neighbor ↔
      (∃ update ∈ updates, update.learnedRoute neighbor egressPort = some x) ∨
      x ∈ rib.learnedFrom neighbor ∧ x.gdpPrefix ∉ updates.map RouteUpdate.gdpPrefix
  := by
  induction updates generalizing rib with
  | nil => exact ⟨rib, rfl, by simp⟩
  | cons update updates ih =>
    rw [List.forall_mem_cons] at hfrom hok
    rw [List.map_cons, List.nodup_cons] at hdistinct
    obtain ⟨rib₁, heq₁, hid₁, hroutes₁⟩ :=
      learnedFrom_receiveUpdate rib egressPort hne hfrom.1 hok.1
    obtain ⟨rib₂, heq₂, hroutes₂⟩ := ih rib₁ (hid₁ ▸ hne) hfrom.2 hok.2 hdistinct.2
    refine ⟨rib₂, ?_, ?_⟩
    · rw [receiveUpdates, List.foldlM_cons, heq₁]
      exact heq₂
    · intro x
      rw [hroutes₂, hroutes₁, List.exists_mem_cons_iff, List.map_cons, List.mem_cons, not_or]
      constructor
      · rintro (hx | ⟨hx | ⟨hx, hp⟩, hrest⟩)
        · exact .inl (.inr hx)
        · exact .inl (.inl hx)
        · exact .inr ⟨hx, hp, hrest⟩
      · rintro ((hx | hx) | ⟨hx, hp, hrest⟩)
        · refine .inr ⟨.inl hx, ?_⟩
          rw [(learnedRoute_spec hx).1]
          exact hdistinct.1
        · exact .inl hx
        · exact .inr ⟨.inr ⟨hx, hp⟩, hrest⟩

/-! ### What a router tells -/

variable {metric : RouteMetric} {p : GdpPrefix}

/-- A refresh advertises what an update about the prefix advertises. -/
theorem mem_advertisementsFor {a : RouteAdvertise} :
  a ∈ rib.advertisementsFor neighbor metric ↔ ∃ p, rib.updateFor neighbor metric p = .advertise a
  := by
  rw [advertisementsFor, List.mem_map]
  constructor
  · rintro ⟨s, hs, rfl⟩
    rw [List.mem_filter, mem_selectedRoutes] at hs
    use s.gdpPrefix
    rw [updateFor, hs.1]
    dsimp only
    rw [if_pos hs.2]
  · rintro ⟨p, hp⟩
    rw [updateFor] at hp
    split at hp
    · next s hs =>
      split at hp
      · next hadvertisable =>
        cases hp
        refine ⟨s, ?_, rfl⟩
        rw [List.mem_filter, mem_selectedRoutes, gdpPrefix_of_selectedForPrefix hs]
        exact ⟨hs, hadvertisable⟩
      · cases hp
    · cases hp

/-- An update about a prefix is about this prefix, comes from the router, and is not about a
configured route. -/
theorem updateFor_spec (rib : RouterRib) (neighbor : RouterId) (metric : RouteMetric)
    (p : GdpPrefix) :
  (rib.updateFor neighbor metric p).gdpPrefix = p ∧
    (rib.updateFor neighbor metric p).advertiser = rib.localRouterId ∧
    (rib.updateFor neighbor metric p).Advertisable
  := by
  rw [updateFor]
  split
  · next s hs =>
    split
    · next hadvertisable =>
      refine ⟨gdpPrefix_of_selectedForPrefix hs, rfl, ?_⟩
      constructor
      · intro horigin
        change s.origin = .static at horigin
        rw [routeIsAdvertisableTo, horigin] at hadvertisable
        cases hadvertisable
      · intro horigin
        change s.origin = .escape at horigin
        rw [routeIsAdvertisableTo, horigin] at hadvertisable
        cases hadvertisable
    · exact ⟨rfl, rfl, trivial⟩
  · exact ⟨rfl, rfl, trivial⟩

/-- A refresh is about each prefix once. -/
theorem nodup_advertisementsFor (rib : RouterRib) (neighbor : RouterId) (metric : RouteMetric) :
  ((rib.advertisementsFor neighbor metric).map RouteAdvertise.gdpPrefix).Nodup
  := by
  rw [advertisementsFor, List.map_map]
  exact rib.nodup_selectedRoutes.sublist (List.filter_sublist.map SelectedRoute.gdpPrefix)

theorem nodup_toList (l : List GdpPrefix) :
  (Std.ExtTreeSet.ofList l compare).toList.Nodup
  := by
  apply Std.ExtTreeSet.distinct_toList.imp
  intro p q hne heq
  rw [heq] at hne
  exact hne Std.ReflCmp.compare_self

theorem mem_toList {l : List GdpPrefix} :
  p ∈ (Std.ExtTreeSet.ofList l compare).toList ↔ p ∈ l
  := by
  rw [Std.ExtTreeSet.mem_toList, Std.ExtTreeSet.mem_ofList, List.contains_iff_mem]

/-- Updates about several prefixes are about each of them once. -/
theorem gdpPrefix_updatesFor (rib : RouterRib) (neighbor : RouterId) (metric : RouteMetric)
    (prefixes : List GdpPrefix) :
  (rib.updatesFor neighbor metric prefixes).map RouteUpdate.gdpPrefix
    = (Std.ExtTreeSet.ofList prefixes compare).toList
  := by
  rw [updatesFor, List.map_map]
  conv_rhs => rw [← List.map_id (Std.ExtTreeSet.ofList prefixes compare).toList]
  apply List.map_congr_left
  intro p _
  exact (rib.updateFor_spec neighbor metric p).1

/-- What a neighbor knows that has been told everything. -/
theorem learnedFrom_refreshed (rib : RouterRib) {localRouterId : RouterId} (hne : localRouterId ≠ rib.localRouterId) :
  ∃ fresh, refreshed localRouterId rib.localRouterId egressPort
      (rib.advertisementsFor localRouterId metric) = .ok fresh ∧
    ∀ x, x ∈ fresh.learnedFrom rib.localRouterId ↔
      ∃ p, (rib.updateFor localRouterId metric p).learnedRoute rib.localRouterId egressPort = some x
  := by
  have hsent : ∀ update ∈ (rib.advertisementsFor localRouterId metric).map RouteUpdate.advertise,
      ∃ p, rib.updateFor localRouterId metric p = update := by
    intro update hupdate
    obtain ⟨a, ha, rfl⟩ := List.mem_map.mp hupdate
    exact mem_advertisementsFor.mp ha
  have hfrom : ∀ update ∈ (rib.advertisementsFor localRouterId metric).map RouteUpdate.advertise,
      update.advertiser = rib.localRouterId := by
    intro update hupdate
    obtain ⟨p, rfl⟩ := hsent update hupdate
    exact (rib.updateFor_spec localRouterId metric p).2.1
  have hok : ∀ update ∈ (rib.advertisementsFor localRouterId metric).map RouteUpdate.advertise,
      update.Advertisable := by
    intro update hupdate
    obtain ⟨p, rfl⟩ := hsent update hupdate
    exact (rib.updateFor_spec localRouterId metric p).2.2
  have hdistinct : (((rib.advertisementsFor localRouterId metric).map
      RouteUpdate.advertise).map RouteUpdate.gdpPrefix).Nodup := by
    rw [List.map_map]
    exact rib.nodup_advertisementsFor localRouterId metric
  obtain ⟨fresh, heq, hroutes⟩ := learnedFrom_receiveUpdates (new localRouterId) egressPort
    hne.symm hfrom hok hdistinct
  refine ⟨fresh, heq, ?_⟩
  intro x
  rw [hroutes]
  constructor
  · rintro (⟨update, hupdate, hx⟩ | ⟨hx, -⟩)
    · obtain ⟨p, rfl⟩ := hsent update hupdate
      exact ⟨p, hx⟩
    · cases hx
  · rintro ⟨p, hx⟩
    left
    refine ⟨_, ?_, hx⟩
    cases hupdate : rib.updateFor localRouterId metric p with
    | advertise a => exact List.mem_map_of_mem (mem_advertisementsFor.mpr ⟨p, hupdate⟩)
    | withdraw w =>
      rw [hupdate] at hx
      cases hx

/-! ### Changes -/

/-- What can change the routes of a router. -/
inductive Change where
  | addConnected (p : GdpPrefix) (egressPort : RoutingPortId)
  | addStatic (p : GdpPrefix) (egressPort : RoutingPortId) (metric : RouteMetric)
  | receiveAdvertisement (neighbor : RouterId) (egressPort : RoutingPortId)
      (advertisement : RouteAdvertise)
  | receiveWithdrawal (neighbor : RouterId) (withdrawal : RouteWithdraw)
  | removeLearnedFrom (neighbor : RouterId)

/-- The prefixes that a change is about, and the routes after it. -/
def change (rib : RouterRib) : Change → List GdpPrefix × RouterRib
  | .addConnected p egressPort => ([p], rib.addConnected p egressPort)
  | .addStatic p egressPort metric => ([p], rib.addStatic p egressPort metric)
  | .receiveAdvertisement neighbor egressPort advertisement =>
    ([advertisement.gdpPrefix],
      (rib.receiveAdvertisement neighbor egressPort advertisement).toOption.getD rib)
  | .receiveWithdrawal neighbor withdrawal =>
    ([withdrawal.gdpPrefix],
      ((rib.receiveWithdrawal neighbor withdrawal).map (·.2)).toOption.getD rib)
  | .removeLearnedFrom neighbor => rib.removeLearnedFrom neighbor

/-- A route for another prefix that replaces a route for another prefix does not change what is
selected. -/
theorem selectedForPrefix_upsert {isOld : RibRoute → Bool} {route : RibRoute}
    (hroutes : rib'.routes = Table.upsert isOld route rib.routes)
    (hkey : Table.Replaces RibRoute.key isOld route) (hp : p ∉ [route.gdpPrefix]) :
  rib'.selectedForPrefix p = rib.selectedForPrefix p
  := by
  rw [List.mem_singleton, eq_comm] at hp
  apply selectedForPrefix_congr
  rw [hroutes]
  apply Table.filter_upsert
  · simp [hp]
  · intro b hb
    have hsame : b.gdpPrefix = route.gdpPrefix := congrArg Prod.fst ((hkey b).mp hb)
    simp [hsame, hp]

/-- Routes for other prefixes can be removed without changing what is selected. -/
theorem selectedForPrefix_retain {keep : RibRoute → Bool}
    (hkeep : ∀ r ∈ rib.routes, r.gdpPrefix = p → keep r = true) :
  (rib.retain keep).selectedForPrefix p = rib.selectedForPrefix p
  := by
  apply selectedForPrefix_congr
  rw [retain, List.filter_filter]
  apply List.filter_congr
  intro r hr
  by_cases hp : r.gdpPrefix = p
  · rw [hkeep r hr hp, Bool.and_true]
  · simp [hp]

/-- A change leaves the router and what is selected for prefixes that it is not about. -/
theorem change_spec (rib : RouterRib) (c : Change) :
  (rib.change c).2.localRouterId = rib.localRouterId ∧
    ∀ p, p ∉ (rib.change c).1 → (rib.change c).2.selectedForPrefix p = rib.selectedForPrefix p
  := by
  cases c with
  | addConnected q port =>
    refine ⟨rfl, ?_⟩
    intro p hp
    exact selectedForPrefix_upsert rfl (replaces_isLocal _ rfl) hp
  | addStatic q port metric =>
    refine ⟨rfl, ?_⟩
    intro p hp
    exact selectedForPrefix_upsert rfl (replaces_isLocal _ rfl) hp
  | receiveAdvertisement neighbor port a =>
    rw [change, receiveAdvertisement]
    split
    · exact ⟨rfl, fun _ _ => rfl⟩
    · refine ⟨rfl, ?_⟩
      intro p hp
      exact selectedForPrefix_upsert rfl (replaces_isLearned _ neighbor rfl rfl) hp
  | receiveWithdrawal neighbor w =>
    rw [change, receiveWithdrawal]
    split
    · exact ⟨rfl, fun _ _ => rfl⟩
    · refine ⟨rfl, ?_⟩
      intro p hp
      apply selectedForPrefix_retain
      intro r hr hrp
      rw [Bool.not_eq_true', Bool.eq_false_iff, ne_eq, isLearned_iff]
      rintro ⟨hw, -⟩
      exact hp (List.mem_singleton.mpr (hrp.symm.trans hw))
  | removeLearnedFrom neighbor =>
    refine ⟨rfl, ?_⟩
    intro p hp
    apply selectedForPrefix_retain
    intro r hr hrp
    rw [Bool.not_eq_true', Bool.eq_false_iff, ne_eq]
    intro hremove
    apply hp
    change p ∈ (Std.ExtTreeSet.ofList _ compare).toList
    rw [mem_toList, ← hrp]
    exact List.mem_map_of_mem (List.mem_filter.mpr ⟨hr, hremove⟩)

/-- What is told about a prefix depends on the router and what is selected. -/
theorem updateFor_congr {rib rib' : RouterRib} (hid : rib'.localRouterId = rib.localRouterId)
    (h : rib'.selectedForPrefix p = rib.selectedForPrefix p) :
  rib'.updateFor neighbor metric p = rib.updateFor neighbor metric p
  := by
  rw [updateFor, updateFor, h, hid]
  simp only [advertisement, hid]

/-- What a neighbor knows after updates: what it has been told about these prefixes, and what it
knew about others. -/
theorem learnedFrom_updatesFor (rib neighbor : RouterRib) (egressPort : RoutingPortId)
    (hne : neighbor.localRouterId ≠ rib.localRouterId) (metric : RouteMetric)
    (prefixes : List GdpPrefix) :
  ∃ updated, neighbor.receiveUpdates rib.localRouterId egressPort
      (rib.updatesFor neighbor.localRouterId metric prefixes) = .ok updated ∧
    ∀ x, x ∈ updated.learnedFrom rib.localRouterId ↔
      (∃ p ∈ prefixes, (rib.updateFor neighbor.localRouterId metric p).learnedRoute
        rib.localRouterId egressPort = some x) ∨
      x ∈ neighbor.learnedFrom rib.localRouterId ∧ x.gdpPrefix ∉ prefixes
  := by
  have hsent : ∀ update, update ∈ rib.updatesFor neighbor.localRouterId metric prefixes ↔
      ∃ p ∈ prefixes, rib.updateFor neighbor.localRouterId metric p = update := by
    intro update
    rw [updatesFor, List.mem_map]
    simp only [mem_toList]
  have hfrom : ∀ update ∈ rib.updatesFor neighbor.localRouterId metric prefixes,
      update.advertiser = rib.localRouterId := by
    intro update hupdate
    obtain ⟨p, -, rfl⟩ := (hsent update).mp hupdate
    exact (rib.updateFor_spec neighbor.localRouterId metric p).2.1
  have hok : ∀ update ∈ rib.updatesFor neighbor.localRouterId metric prefixes,
      update.Advertisable := by
    intro update hupdate
    obtain ⟨p, -, rfl⟩ := (hsent update).mp hupdate
    exact (rib.updateFor_spec neighbor.localRouterId metric p).2.2
  obtain ⟨updated, heq, hroutes⟩ := learnedFrom_receiveUpdates neighbor egressPort hne.symm hfrom hok
    (by rw [gdpPrefix_updatesFor]; exact nodup_toList prefixes)
  refine ⟨updated, heq, ?_⟩
  intro x
  rw [hroutes, gdpPrefix_updatesFor, mem_toList]
  simp only [hsent, exists_exists_and_eq_and]

/-- A neighbor knows exactly the routes that it learns from a refresh of the router.  After any
change of the router's routes it accepts the updates about the changed prefixes, and possibly
others, and then knows exactly the routes that it would learn from a refresh now. -/
theorem updates_eq_refresh (rib neighbor : RouterRib)
    (hne : neighbor.localRouterId ≠ rib.localRouterId) (egressPort : RoutingPortId)
    (metric : RouteMetric) (c : Change) (prefixes : List GdpPrefix)
    (hknown : ∃ fresh, refreshed neighbor.localRouterId rib.localRouterId egressPort
        (rib.advertisementsFor neighbor.localRouterId metric) = .ok fresh ∧
      ∀ x, x ∈ neighbor.learnedFrom rib.localRouterId ↔ x ∈ fresh.learnedFrom rib.localRouterId)
    (hchanged : ∀ p ∈ (rib.change c).1, p ∈ prefixes) :
  let rib' := (rib.change c).2
  ∃ updated fresh, neighbor.receiveUpdates rib.localRouterId egressPort
      (rib'.updatesFor neighbor.localRouterId metric prefixes) = .ok updated ∧
    refreshed neighbor.localRouterId rib.localRouterId egressPort
      (rib'.advertisementsFor neighbor.localRouterId metric) = .ok fresh ∧
    ∀ x, x ∈ updated.learnedFrom rib.localRouterId ↔ x ∈ fresh.learnedFrom rib.localRouterId
  := by
  intro rib'
  obtain ⟨hid, hkeeps⟩ := rib.change_spec c
  obtain ⟨old, hold, hknown⟩ := hknown
  obtain ⟨old', hold', hroutes⟩ := learnedFrom_refreshed rib hne
  rw [hold] at hold'
  cases hold'
  have hne' : neighbor.localRouterId ≠ rib'.localRouterId := hid ▸ hne
  obtain ⟨updated, hupdated, hroutes'⟩ :=
    learnedFrom_updatesFor rib' neighbor egressPort hne' metric prefixes
  obtain ⟨fresh, hfresh, hall⟩ := learnedFrom_refreshed rib' hne'
  rw [hid] at hupdated hfresh hroutes' hall
  refine ⟨updated, fresh, hupdated, hfresh, ?_⟩
  intro x
  rw [hroutes', hall, hknown, hroutes]
  have hsame : ∀ p, p ∉ prefixes → rib'.updateFor neighbor.localRouterId metric p
      = rib.updateFor neighbor.localRouterId metric p := by
    intro p hp
    exact updateFor_congr hid (hkeeps p (fun h => hp (hchanged p h)))
  have habout : ∀ {r : RouterRib} {p : GdpPrefix}, (r.updateFor neighbor.localRouterId metric
      p).learnedRoute rib.localRouterId egressPort = some x → x.gdpPrefix = p := by
    intro r p hx
    rw [(learnedRoute_spec hx).1]
    exact (r.updateFor_spec neighbor.localRouterId metric p).1
  constructor
  · rintro (⟨p, -, hx⟩ | ⟨⟨p, hx⟩, hp⟩)
    · exact ⟨p, hx⟩
    · rw [habout hx] at hp
      use p
      rw [hsame p hp]
      exact hx
  · rintro ⟨p, hx⟩
    by_cases hp : p ∈ prefixes
    · exact .inl ⟨p, hp, hx⟩
    · rw [hsame p hp] at hx
      refine .inr ⟨⟨p, hx⟩, ?_⟩
      rw [habout hx]
      exact hp

/-- A router that knows one network from the neighbor 3 has told it to the neighbor 2.  The neighbor
3 goes down, and the neighbor 2 forgets the route. -/
theorem updates_eq_refresh_down :
  let p : GdpPrefix := .host ⟨0x2001000000000000#64⟩
  let advertisement (router : RouterId) (metric : U32) : RouteAdvertise :=
    { advertiser := router, gdpPrefix := p, origin := .learned, metric := ⟨metric⟩ }
  let rib := ((new ⟨1#64⟩).receiveAdvertisement ⟨3#64⟩ 0#16
    (advertisement ⟨3#64⟩ 100#32)).toOption.getD (new ⟨1#64⟩)
  let neighbor := ((new ⟨2#64⟩).receiveAdvertisement ⟨1#64⟩ 1#16
    (advertisement ⟨1#64⟩ 200#32)).toOption.getD (new ⟨2#64⟩)
  neighbor.learnedFrom ⟨1#64⟩ ≠ [] ∧
    ∃ updated fresh, neighbor.receiveUpdates ⟨1#64⟩ 1#16
        ((rib.removeLearnedFrom ⟨3#64⟩).2.updatesFor ⟨2#64⟩ ⟨100#32⟩ [p]) = .ok updated ∧
      refreshed ⟨2#64⟩ ⟨1#64⟩ 1#16
        ((rib.removeLearnedFrom ⟨3#64⟩).2.advertisementsFor ⟨2#64⟩ ⟨100#32⟩) = .ok fresh ∧
      ∀ x, x ∈ updated.learnedFrom ⟨1#64⟩ ↔ x ∈ fresh.learnedFrom ⟨1#64⟩
  := by
  intro p advertisement rib neighbor
  refine ⟨by decide +kernel, ?_⟩
  apply updates_eq_refresh rib neighbor (by decide +kernel) 1#16 ⟨100#32⟩
    (.removeLearnedFrom ⟨3#64⟩) [p]
  · exact ⟨neighbor, by rfl, fun _ => Iff.rfl⟩
  · decide +kernel

end RouterRib

end SmolGnet
