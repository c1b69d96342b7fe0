import SmolGnet.Routing.Dynamic

/-!
# When routes and tables agree

The forwarding tables of a router agree with its routes if they forward exactly the selected routes.
The connected networks and the configured routes are always installed, as learned routes never
override them.  So everything depends on the learned routes that are selected after a call: the
tables can be compiled exactly if each of them leads to a port of the router and none leads to a
single address that the router owns.
-/

namespace SmolGnet

namespace RouterRib

/-! ### Local routes -/

variable {rib rib' : RouterRib} {p : GdpPrefix} {s : SelectedRoute}

/-- The router has a route of its own for the prefix, to the port. -/
def HasLocal (rib : RouterRib) (x : GdpPrefix × RoutingPortId) : Prop :=
  ∃ r ∈ rib.routes, r.origin ≠ .learned ∧ (r.gdpPrefix, r.egressPort) = x

/-- A local route is preferred to a learned one. -/
theorem rank_lt_of_local {r x : RibRoute} (hr : r ∈ rib.routes) (hlocal : r.origin ≠ .learned)
    (hlearned : x.origin = .learned) :
  r.rank < x.rank
  := by
  have hformed := rib.formed r hr
  rw [RibRoute.rank, RibRoute.rank, Prod.Lex.toLex_lt_toLex, hlearned]
  left
  cases horigin : r.origin with
  | connected => exact (by decide : 0 < 100)
  | static => exact (by decide : 10 < 100)
  | learned => contradiction
  | escape =>
    rw [RibRoute.Formed, horigin] at hformed
    cases hformed

/-- A learned route is selected only where there is no local one. -/
theorem not_hasLocal_of_learned (hs : rib.selectedForPrefix p = some s) (h : s.origin = .learned)
    (port : RoutingPortId) :
  ¬ rib.HasLocal (p, port)
  := by
  rintro ⟨x, hx, hlocal, hpair⟩
  cases hpair
  obtain ⟨r, hr, hrp, rfl, hbest⟩ := exists_of_selectedForPrefix hs
  exact absurd (rank_lt_of_local hx hlocal h) (not_lt.mpr (hbest x hx rfl))

/-- Where there is a local route, a local route is selected. -/
theorem selected_of_hasLocal {port : RoutingPortId} (h : rib.HasLocal (p, port)) :
  ∃ s, rib.selectedForPrefix p = some s ∧ s.origin ≠ .learned ∧ rib.HasLocal (p, s.egressPort)
  := by
  obtain ⟨x, hx, hlocal, hpair⟩ := id h
  cases hpair
  obtain ⟨s, hs⟩ := exists_selectedForPrefix hx
  have hnot : s.origin ≠ .learned := fun hlearned => not_hasLocal_of_learned hs hlearned _ h
  obtain ⟨r, hr, hrp, rfl, -⟩ := exists_of_selectedForPrefix hs
  exact ⟨_, hs, hnot, r, hr, hnot, Prod.ext hrp rfl⟩

/-- A local route for a new prefix is added to the local routes. -/
theorem hasLocal_upsertLocal {route : RibRoute} {hlocal : route.learnedFrom = none}
    {hformed : route.Formed} (horigin : route.origin ≠ .learned)
    (hnew : ∀ x, rib.HasLocal x → x.1 ≠ route.gdpPrefix) (x : GdpPrefix × RoutingPortId) :
  (rib.upsertLocal route hlocal hformed).HasLocal x ↔
    rib.HasLocal x ∨ x = (route.gdpPrefix, route.egressPort)
  := by
  constructor
  · rintro ⟨r, hr, hrlocal, rfl⟩
    rcases mem_replace.mp hr with rfl | ⟨hr, -⟩
    · exact .inr rfl
    · exact .inl ⟨r, hr, hrlocal, rfl⟩
  · rintro (⟨r, hr, hrlocal, rfl⟩ | rfl)
    · refine ⟨r, mem_replace.mpr (.inr ⟨hr, ?_⟩), hrlocal, rfl⟩
      have hne := hnew _ ⟨r, hr, hrlocal, rfl⟩
      simp [isLocal, hne]
    · exact ⟨route, mem_replace.mpr (.inl rfl), horigin, rfl⟩

/-- Local routes for new and different prefixes are added one after the other. -/
theorem hasLocal_foldl {add : RouterRib → GdpPrefix × RoutingPortId → RouterRib}
    (hadd : ∀ rib route, (∀ x, rib.HasLocal x → x.1 ≠ route.1) →
      ∀ x, (add rib route).HasLocal x ↔ rib.HasLocal x ∨ x = route)
    {routes : List (GdpPrefix × RoutingPortId)} (hnodup : (routes.map Prod.fst).Nodup)
    (hnew : ∀ x, rib.HasLocal x → x.1 ∉ routes.map Prod.fst) (x : GdpPrefix × RoutingPortId) :
  (routes.foldl add rib).HasLocal x ↔ rib.HasLocal x ∨ x ∈ routes
  := by
  induction routes generalizing rib with
  | nil => simp
  | cons route routes ih =>
    rw [List.map_cons, List.nodup_cons] at hnodup
    have hfirst := hadd rib route (fun x hx hp => hnew x hx (List.mem_cons.mpr (.inl hp)))
    rw [List.foldl_cons, ih hnodup.2, hfirst, List.mem_cons, or_assoc]
    intro x hx hp
    rcases (hfirst x).mp hx with hold | rfl
    · exact hnew x hold (List.mem_cons_of_mem _ hp)
    · exact hnodup.1 hp

/-- Learned routes come and go without a change of the local ones. -/
theorem hasLocal_congr (h : ∀ r, r.origin ≠ .learned → (r ∈ rib'.routes ↔ r ∈ rib.routes))
    (x : GdpPrefix × RoutingPortId) :
  rib'.HasLocal x ↔ rib.HasLocal x
  := by
  constructor
  · rintro ⟨r, hr, hlocal, hx⟩
    exact ⟨r, (h r hlocal).mp hr, hlocal, hx⟩
  · rintro ⟨r, hr, hlocal, hx⟩
    exact ⟨r, (h r hlocal).mpr hr, hlocal, hx⟩

end RouterRib

namespace DynamicP4Router

open RouterRib RouterStartupConfig

/-! ### What is compiled -/

/-- The prefixes and ports of selected routes. -/
def routePairs (routes : List SelectedRoute) : List (GdpPrefix × RouterPortId) :=
  routes.map (fun route => (route.gdpPrefix, route.egressPort))

/-- The local routes are the connected networks and the configured routes. -/
def LocalsConfigured (ports : List RouterPortConfig) (configuredStatic : List StaticRouteConfig)
    (rib : RouterRib) : Prop :=
  ∀ x, rib.HasLocal x ↔ x ∈ connectedRoutes ports ++ configuredRoutes configuredStatic

variable {ports : List RouterPortConfig} {configuredStatic : List StaticRouteConfig}
  {rib : RouterRib} {base forwarding : StaticP4Router}

/-- The learned routes that are selected are for other prefixes than those of the configuration. -/
theorem learnedFib_new (hlocals : LocalsConfigured ports configuredStatic rib) :
  ∀ p ∈ (routePairs rib.learnedFib).map Prod.fst,
    p ∉ (connectedRoutes ports ++ configuredRoutes configuredStatic).map Prod.fst
  := by
  intro p hp hconfigured
  rw [routePairs, List.map_map] at hp
  obtain ⟨route, hroute, rfl⟩ := List.mem_map.mp hp
  rw [learnedFib, List.mem_filter, mem_selectedRoutes, decide_eq_true_eq] at hroute
  obtain ⟨⟨q, port⟩, hpair, hq⟩ := List.mem_map.mp hconfigured
  cases hq
  exact not_hasLocal_of_learned hroute.1 hroute.2 port ((hlocals _).mpr hpair)

theorem learnedFib_nodup (rib : RouterRib) :
  ((routePairs rib.learnedFib).map Prod.fst).Nodup
  := by
  rw [routePairs, List.map_map]
  exact rib.nodup_selectedRoutes.sublist (List.filter_sublist.map SelectedRoute.gdpPrefix)

/-- The learned routes that are selected are added to the configured ones. -/
theorem forwardingRoutes_eq (hlocals : LocalsConfigured ports configuredStatic rib) :
  forwardingRoutes configuredStatic rib.learnedFib
    = .ok (configuredStatic ++ (routePairs rib.learnedFib).map direct)
  := by
  have hnew := learnedFib_new hlocals
  have hlearned : ∀ route ∈ rib.learnedFib, route.origin = .learned := by
    intro route hroute
    rw [learnedFib, List.mem_filter, decide_eq_true_eq] at hroute
    exact hroute.2
  have hfold : ∀ (learned : List SelectedRoute) (routes : List StaticRouteConfig),
      (∀ route ∈ learned, route.origin = .learned ∧
        configuredStatic.any (fun configured => configured.gdpPrefix = route.gdpPrefix) = false) →
      learned.foldlM (fun routes route =>
        if route.origin ≠ .learned then .error .invalidField
        else if configuredStatic.any (fun configured => configured.gdpPrefix = route.gdpPrefix) then
          .ok routes
        else .ok (routes ++ [StaticRouteConfig.direct route.gdpPrefix route.egressPort])) routes
        = (.ok (routes ++ (routePairs learned).map direct) :
          Except Error (List StaticRouteConfig)) := by
    intro learned
    induction learned with
    | nil =>
      intro routes _
      simp [routePairs, pure, Except.pure]
    | cons route learned ih =>
      intro routes h
      rw [List.forall_mem_cons] at h
      rw [List.foldlM_cons, if_neg (not_not.mpr h.1.1), if_neg (by rw [h.1.2]; nofun), ok_bind,
        ih _ h.2]
      simp [routePairs, direct]
  apply hfold
  intro route hroute
  refine ⟨hlearned route hroute, ?_⟩
  rw [Bool.eq_false_iff]
  intro hany
  obtain ⟨configured, hmem, heq⟩ := List.any_eq_true.mp hany
  apply hnew route.gdpPrefix
  · rw [routePairs, List.map_map]
    exact List.mem_map_of_mem hroute
  · rw [List.map_append, List.mem_append]
    right
    rw [configuredRoutes, List.map_map]
    exact List.mem_map.mpr ⟨configured, hmem, of_decide_eq_true heq⟩

/-- The forwarding plane can be compiled exactly if the selected learned routes can be installed. -/
theorem buildForwarding_isOk_iff (hbase : StaticP4Router.new ⟨ports, configuredStatic⟩ = .ok base)
    (hlocals : LocalsConfigured ports configuredStatic rib) :
  (∃ forwarding, buildForwarding ports configuredStatic rib.learnedFib = .ok forwarding) ↔
    ∀ route ∈ rib.learnedFib, Installable ports (route.gdpPrefix, route.egressPort)
  := by
  rw [buildForwarding, forwardingRoutes_eq hlocals, ok_bind,
    StaticP4Router.new_append_iff hbase (learnedFib_nodup rib) (learnedFib_new hlocals), routePairs]
  simp only [List.forall_mem_map]

/-- A forwarding plane that has been compiled forwards exactly the selected routes. -/
theorem forwardPairs_buildForwarding
    (hbase : StaticP4Router.new ⟨ports, configuredStatic⟩ = .ok base)
    (hlocals : LocalsConfigured ports configuredStatic rib)
    (h : buildForwarding ports configuredStatic rib.learnedFib = .ok forwarding)
    (x : GdpPrefix × RouterPortId) :
  x ∈ forwardPairs forwarding.fib ↔ x ∈ routePairs rib.selectedRoutes
  := by
  obtain ⟨-, hnodup⟩ := StaticP4Router.forwardPairs_new hbase
  rw [buildForwarding, forwardingRoutes_eq hlocals, ok_bind] at h
  rw [(StaticP4Router.forwardPairs_new h).1, configuredRoutes_append, ← List.append_assoc,
    List.mem_append]
  constructor
  · rintro (hx | hx)
    · obtain ⟨s, hs, -, hport⟩ := selected_of_hasLocal (p := x.1) ((hlocals x).mpr hx)
      have hprefix := gdpPrefix_of_selectedForPrefix hs
      have heq := List.inj_on_of_nodup_map hnodup ((hlocals _).mp hport) hx rfl
      rw [← heq]
      apply List.mem_map.mpr
      refine ⟨s, ?_, Prod.ext hprefix rfl⟩
      rw [mem_selectedRoutes, hprefix]
      exact hs
    · exact (List.filter_sublist.map _).subset hx
  · intro hx
    obtain ⟨s, hs, rfl⟩ := List.mem_map.mp hx
    by_cases hlearned : s.origin = .learned
    · right
      exact List.mem_map_of_mem (List.mem_filter.mpr ⟨hs, decide_eq_true hlearned⟩)
    · left
      rw [← hlocals]
      obtain ⟨r, hr, -, rfl, -⟩ := exists_of_selectedForPrefix (mem_selectedRoutes.mp hs)
      exact ⟨r, hr, hlearned, rfl⟩

/-! ### A router without learned routes -/

/-- A router that has learned nothing has nothing but local routes. -/
theorem origin_startupRib (routerId : RouterId) (ports : List RouterPortConfig)
    (configuredStatic : List StaticRouteConfig) :
  ∀ r ∈ (startupRib routerId ports configuredStatic).routes, r.origin ≠ .learned
  := by
  let P (rib : RouterRib) : Prop := ∀ r ∈ rib.routes, r.origin ≠ .learned
  have hadd : ∀ {rib : RouterRib} {route : RibRoute} {hlocal : route.learnedFrom = none}
      {hformed : route.Formed}, route.origin ≠ .learned → P rib →
      P (rib.upsertLocal route hlocal hformed) := by
    intro rib route hlocal hformed horigin h r hr
    rcases mem_replace.mp hr with rfl | ⟨hr, -⟩
    · exact horigin
    · exact h r hr
  refine Machine.invariant_run (P := P) ?_ (Machine.invariant_run (P := P) ?_ ?_ _) _
  · intro rib route h
    apply hadd _ h
    nofun
  · intro rib route h
    apply hadd _ h
    nofun
  · intro r hr
    cases hr

theorem learnedFib_startupRib (routerId : RouterId) (ports : List RouterPortConfig)
    (configuredStatic : List StaticRouteConfig) :
  (startupRib routerId ports configuredStatic).learnedFib = []
  := by
  rw [learnedFib, List.filter_eq_nil_iff]
  intro s hs hlearned
  obtain ⟨r, hr, -, rfl, -⟩ := exists_of_selectedForPrefix (mem_selectedRoutes.mp hs)
  exact origin_startupRib routerId ports configuredStatic r hr (of_decide_eq_true hlearned)

/-- Its local routes are those of the configuration. -/
theorem localsConfigured_startupRib (routerId : RouterId)
    (hbase : StaticP4Router.new ⟨ports, configuredStatic⟩ = .ok base) :
  LocalsConfigured ports configuredStatic (startupRib routerId ports configuredStatic)
  := by
  obtain ⟨-, hnodup⟩ := StaticP4Router.forwardPairs_new hbase
  rw [List.map_append] at hnodup
  obtain ⟨hconnected, hconfigured, hdisjoint⟩ := List.nodup_append.mp hnodup
  have hfirst : ∀ x, ((connectedRoutes ports).foldl
      (fun rib route => rib.addConnected route.1 route.2) (RouterRib.new routerId)).HasLocal x ↔
      x ∈ connectedRoutes ports := by
    intro x
    rw [hasLocal_foldl _ hconnected]
    · constructor
      · rintro (⟨r, hr, -⟩ | hx)
        · cases hr
        · exact hx
      · exact .inr
    · rintro x ⟨r, hr, -⟩
      cases hr
    · intro rib route hnew x
      apply hasLocal_upsertLocal _ hnew x
      nofun
  intro x
  rw [startupRib, hasLocal_foldl _ hconfigured, hfirst, List.mem_append]
  · intro x hx hmem
    exact hdisjoint x.1 (List.mem_map_of_mem ((hfirst x).mp hx)) x.1 hmem rfl
  · intro rib route hnew x
    apply hasLocal_upsertLocal _ hnew x
    nofun

/-! ### Runs -/

/-- What can be called. -/
inductive Call where
  | receiveAdvertisement (neighbor : RouterId) (egressPort : RouterPortId)
      (advertisement : RouteAdvertise)
  | receiveWithdrawal (neighbor : RouterId) (withdrawal : RouteWithdraw)
  | neighborDown (neighbor : RouterId)
  | expireAdjacency (adjacency : RouterAdjacency) (now : Instant)

/-- The router after a call, and whether the call fails. -/
def perform (d : DynamicP4Router) : Call → Bool × DynamicP4Router
  | .receiveAdvertisement neighbor egressPort advertisement =>
    let (result, d) := d.receiveAdvertisement neighbor egressPort advertisement
    (!result.isOk, d)
  | .receiveWithdrawal neighbor withdrawal =>
    let (result, d) := d.receiveWithdrawal neighbor withdrawal
    (!result.isOk, d)
  | .neighborDown neighbor =>
    let (result, d) := d.neighborDown neighbor
    (!result.isOk, d)
  | .expireAdjacency adjacency now =>
    let (result, d, _) := d.expireAdjacency adjacency now
    (!result.isOk, d)

/-- The router after a call. -/
def step (d : DynamicP4Router) (call : Call) : DynamicP4Router :=
  (d.perform call).2

/-- The tables forward exactly the selected routes. -/
def Agrees (d : DynamicP4Router) : Prop :=
  ∀ x, x ∈ forwardPairs d.forwarding.fib ↔ x ∈ routePairs d.rib.selectedRoutes

/-- After the call routes and tables agree, and if it fails, it has changed neither. -/
def Undiverged (d : DynamicP4Router) (call : Call) : Prop :=
  (d.step call).Agrees ∧
    ((d.perform call).1 = true →
      (d.step call).rib = d.rib ∧ (d.step call).forwarding = d.forwarding)

/-- The routes that a call is about to leave: those of neighbors that are gone are forgotten. -/
def ribFor (d : DynamicP4Router) : Call → RouterRib
  | .receiveAdvertisement neighbor egressPort advertisement =>
    (d.rib.receiveAdvertisement neighbor egressPort advertisement).toOption.getD d.rib
  | .receiveWithdrawal neighbor withdrawal =>
    ((d.rib.receiveWithdrawal neighbor withdrawal).map (·.2)).toOption.getD d.rib
  | .neighborDown neighbor => (d.rib.removeLearnedFrom neighbor).2
  | .expireAdjacency adjacency now =>
    match adjacency.neighbor with
    | some neighbor =>
      if adjacency.localRouterId = d.routerId ∧ (adjacency.expire now).1 then
        (d.rib.removeLearnedFrom neighbor.routerId).2
      else d.rib
    | none => d.rib

/-- The learned routes that are selected for a call can all be installed. -/
def Installs (d : DynamicP4Router) (call : Call) : Prop :=
  ∀ route ∈ (d.ribFor call).learnedFib, Installable d.ports (route.gdpPrefix, route.egressPort)

instance (d : DynamicP4Router) (call : Call) : Decidable (d.Installs call) :=
  inferInstanceAs (Decidable (∀ _ ∈ _, _))

/-- The call leaves the router as it is, or changes the routes and compiles the tables anew. -/
def Rebuilds (d : DynamicP4Router) (call : Call) : Prop :=
  d.step call = d ∧ d.ribFor call = d.rib ∨
    d.perform call =
      (!({ d with rib := d.ribFor call }.rebuildForwarding).1.isOk,
        ({ d with rib := d.ribFor call }.rebuildForwarding).2)

/-- Routes of which none is removed stay as they are. -/
theorem retain_eq_self {rib : RouterRib} {keep : RibRoute → Bool}
    (h : ∀ r ∈ rib.routes, keep r = true) :
  rib.retain keep = rib
  := by
  cases rib
  rw [retain]
  congr 1
  exact List.filter_eq_self.mpr h

theorem isOk_andThen {α : Type} (x : Except Error Unit × DynamicP4Router) (a : α) :
  (andThen x (fun _ d => (.ok a, d))).1.isOk = x.1.isOk ∧
    (andThen x (fun _ d => ((.ok a : Except Error α), d))).2 = x.2
  := by
  obtain ⟨r, d⟩ := x
  cases r with
  | error err => exact ⟨rfl, rfl⟩
  | ok _ => exact ⟨rfl, rfl⟩

/-- What happens when a neighbor is gone. -/
theorem neighborDown_cases (d : DynamicP4Router) (neighbor : RouterId) :
  (d.neighborDown neighbor).2 = d ∧ (d.rib.removeLearnedFrom neighbor).2 = d.rib ∨
    (d.neighborDown neighbor).1.isOk =
        ({ d with rib := (d.rib.removeLearnedFrom neighbor).2 }.rebuildForwarding).1.isOk ∧
      (d.neighborDown neighbor).2 =
        ({ d with rib := (d.rib.removeLearnedFrom neighbor).2 }.rebuildForwarding).2
  := by
  rw [neighborDown]
  dsimp only
  split
  · right
    apply isOk_andThen
  · next hempty =>
    left
    have hsame : (d.rib.removeLearnedFrom neighbor).2 = d.rib := by
      apply retain_eq_self
      intro r hr
      rw [Bool.not_eq_true', Bool.eq_false_iff, ne_eq]
      intro hremove
      apply hempty
      have hmem : r.gdpPrefix ∈ (d.rib.removeLearnedFrom neighbor).1 :=
        mem_toList.mpr (List.mem_map_of_mem (List.mem_filter.mpr ⟨hr, hremove⟩))
      simpa using List.ne_nil_of_mem hmem
    rw [hsame]
    exact ⟨rfl, rfl⟩

/-- A withdrawal that removes nothing leaves the routes as they are. -/
theorem eq_of_receiveWithdrawal {rib rib' : RouterRib} {neighbor : RouterId}
    {withdrawal : RouteWithdraw} (h : rib.receiveWithdrawal neighbor withdrawal = .ok (false, rib')) :
  rib' = rib
  := by
  rw [RouterRib.receiveWithdrawal] at h
  split at h
  · cases h
  · injection h with h
    injection h with hlen hrib
    rw [← hrib]
    apply retain_eq_self
    apply List.filter_eq_self.mp
    apply List.filter_sublist.eq_of_length
    exact not_not.mp (of_decide_eq_false hlen)

/-- Every call does nothing, or changes the routes and compiles the tables anew. -/
theorem rebuilds (d : DynamicP4Router) (call : Call) :
  d.Rebuilds call
  := by
  cases call with
  | receiveAdvertisement neighbor egressPort advertisement =>
    rw [Rebuilds, step, perform, ribFor, receiveAdvertisement]
    cases d.rib.receiveAdvertisement neighbor egressPort advertisement with
    | error err => exact .inl ⟨rfl, rfl⟩
    | ok rib => exact .inr rfl
  | receiveWithdrawal neighbor withdrawal =>
    rw [Rebuilds, step, perform, ribFor, receiveWithdrawal]
    cases hreceive : d.rib.receiveWithdrawal neighbor withdrawal with
    | error err => exact .inl ⟨rfl, rfl⟩
    | ok received =>
      obtain ⟨removed, rib⟩ := received
      cases removed with
      | true =>
        right
        obtain ⟨hok, hd⟩ := isOk_andThen ({ d with rib }.rebuildForwarding) true
        exact Prod.ext (congrArg not hok) hd
      | false =>
        left
        rw [eq_of_receiveWithdrawal hreceive]
        exact ⟨rfl, rfl⟩
  | neighborDown neighbor =>
    rw [Rebuilds, step, perform, ribFor]
    rcases d.neighborDown_cases neighbor with h | ⟨hok, hd⟩
    · exact .inl h
    · exact .inr (Prod.ext (congrArg not hok) hd)
  | expireAdjacency adjacency now =>
    rw [Rebuilds, step, perform, ribFor, expireAdjacency]
    by_cases hid : adjacency.localRouterId = d.routerId
    · rw [if_neg (not_not.mpr hid)]
      cases hneighbor : adjacency.neighbor with
      | none =>
        left
        dsimp only [Option.map_none]
        refine ⟨?_, rfl⟩
        split
        · rfl
        · rfl
      | some neighbor =>
        dsimp only [Option.map_some]
        cases hexpired : (adjacency.expire now).1 with
        | false =>
          left
          exact ⟨rfl, if_neg (fun h => nomatch h.2)⟩
        | true =>
          rw [if_neg nofun, if_pos ⟨hid, rfl⟩]
          rcases d.neighborDown_cases neighbor.routerId with h | ⟨hok, hd⟩
          · exact .inl h
          · exact .inr (Prod.ext (congrArg not hok) hd)
    · left
      rw [if_pos hid]
      refine ⟨rfl, ?_⟩
      cases adjacency.neighbor with
      | none => rfl
      | some neighbor => exact if_neg (fun h => hid h.1)

/-- The configuration can be compiled, the local routes are those of the configuration, and the
tables are those for the routes. -/
structure Inv (d : DynamicP4Router) : Prop where
  base : ∃ base, StaticP4Router.new ⟨d.ports, d.configuredStatic⟩ = .ok base
  locals : LocalsConfigured d.ports d.configuredStatic d.rib
  built : buildForwarding d.ports d.configuredStatic d.rib.learnedFib = .ok d.forwarding

theorem Inv.of_new {routerId : RouterId} {d : DynamicP4Router}
    (h : new routerId ports configuredStatic = .ok d) :
  d.Inv
  := by
  rw [new, bind_eq_ok] at h
  obtain ⟨forwarding, hbuild, h⟩ := h
  cases h
  have hbase := hbuild
  rw [learnedFib_startupRib, buildForwarding] at hbase
  exact ⟨⟨forwarding, hbase⟩, localsConfigured_startupRib routerId hbase, hbuild⟩

theorem Inv.agrees {d : DynamicP4Router} (h : d.Inv) :
  d.Agrees
  := by
  obtain ⟨base, hbase⟩ := h.base
  exact forwardPairs_buildForwarding hbase h.locals h.built

theorem Inv.installable {d : DynamicP4Router} (h : d.Inv) :
  ∀ route ∈ d.rib.learnedFib, Installable d.ports (route.gdpPrefix, route.egressPort)
  := by
  obtain ⟨base, hbase⟩ := h.base
  exact (buildForwarding_isOk_iff hbase h.locals).mp ⟨_, h.built⟩

/-- A call changes learned routes only. -/
theorem locals_ribFor (d : DynamicP4Router) (call : Call) (x : GdpPrefix × RouterPortId) :
  (d.ribFor call).HasLocal x ↔ d.rib.HasLocal x
  := by
  have hremove : ∀ neighbor, (d.rib.removeLearnedFrom neighbor).2.HasLocal x ↔
      d.rib.HasLocal x := by
    intro neighbor
    apply hasLocal_congr
    intro r hlocal
    change r ∈ (d.rib.retain _).routes ↔ _
    rw [mem_retain]
    simp [hlocal]
  have hupdate : ∀ (neighbor : RouterId) (egressPort : RoutingPortId) (update : RouteUpdate)
      {rib' : RouterRib}, d.rib.receiveUpdate neighbor egressPort update = .ok rib' →
      (rib'.HasLocal x ↔ d.rib.HasLocal x) := by
    intro neighbor egressPort update rib' h
    apply hasLocal_congr
    intro r hlocal
    rw [(mem_receiveUpdate h).2]
    constructor
    · rintro (hr | ⟨hr, -⟩)
      · exact absurd (learnedRoute_spec hr).2.1 hlocal
      · exact hr
    · intro hr
      refine .inr ⟨hr, ?_⟩
      rw [Bool.eq_false_iff, ne_eq, isLearned_iff]
      exact fun h => hlocal h.2.1
  cases call with
  | receiveAdvertisement neighbor egressPort advertisement =>
    rw [ribFor]
    cases hreceive : d.rib.receiveAdvertisement neighbor egressPort advertisement with
    | error err => exact Iff.rfl
    | ok rib' => exact hupdate neighbor egressPort (.advertise advertisement) hreceive
  | receiveWithdrawal neighbor withdrawal =>
    rw [ribFor]
    cases hreceive : (d.rib.receiveWithdrawal neighbor withdrawal).map (·.2) with
    | error err => exact Iff.rfl
    | ok rib' => exact hupdate neighbor 0#16 (.withdraw withdrawal) hreceive
  | neighborDown neighbor => exact hremove neighbor
  | expireAdjacency adjacency now =>
    rw [ribFor]
    split
    · split
      · exact hremove _
      · exact Iff.rfl
    · exact Iff.rfl

/-- A call leaves routes and tables in agreement, and undone if it fails, exactly if the routes that
are selected for it can be installed.  Then the invariant is kept. -/
theorem Inv.call {d : DynamicP4Router} (h : d.Inv) (call : Call) :
  (d.Undiverged call ↔ d.Installs call) ∧ (d.Installs call → (d.step call).Inv)
  := by
  obtain ⟨base, hbase⟩ := h.base
  have hlocals : LocalsConfigured d.ports d.configuredStatic (d.ribFor call) := by
    intro x
    rw [locals_ribFor, h.locals]
  have hbuild := buildForwarding_isOk_iff hbase hlocals
  rcases d.rebuilds call with ⟨hstep, hrib⟩ | hperform
  · have hinstalls : d.Installs call := by
      rw [Installs, hrib]
      exact h.installable
    have hundiverged : d.Undiverged call := by
      rw [Undiverged, hstep]
      exact ⟨h.agrees, fun _ => ⟨rfl, rfl⟩⟩
    refine ⟨iff_of_true hundiverged hinstalls, fun _ => ?_⟩
    rw [hstep]
    exact h
  · rw [rebuildForwarding] at hperform
    by_cases hinstalls : d.Installs call
    · obtain ⟨forwarding, hforwarding⟩ := hbuild.mpr hinstalls
      rw [hforwarding] at hperform
      have hstep : d.step call = { d with rib := d.ribFor call, forwarding } := by
        rw [step, hperform]
      have hinv : (d.step call).Inv := by
        rw [hstep]
        exact ⟨⟨base, hbase⟩, hlocals, hforwarding⟩
      refine ⟨iff_of_true ⟨hinv.agrees, ?_⟩ hinstalls, fun _ => hinv⟩
      rw [hperform]
      nofun
    · refine ⟨iff_of_false ?_ hinstalls, fun h => absurd h hinstalls⟩
      rintro ⟨-, hunchanged⟩
      cases hforwarding : buildForwarding d.ports d.configuredStatic (d.ribFor call).learnedFib with
      | ok forwarding => exact hinstalls (hbuild.mp ⟨forwarding, hforwarding⟩)
      | error err =>
        rw [hforwarding] at hperform
        rw [step, hperform] at hunchanged
        have hrib := (hunchanged rfl).1
        apply hinstalls
        rw [Installs]
        change d.ribFor call = d.rib at hrib
        rw [hrib]
        exact h.installable

/-- In a run of a router, after each call the tables forward exactly the selected routes, and a call
that fails has changed neither routes nor tables, exactly if for each call the learned routes that
are then selected all lead to ports of the router and not to single addresses that it owns. -/
theorem undiverged_iff {routerId : RouterId} {d₀ : DynamicP4Router}
    (hnew : new routerId ports configuredStatic = .ok d₀) (calls : List Call) :
  Machine.Along step Undiverged d₀ calls ↔ Machine.Along step Installs d₀ calls
  := by
  apply Machine.along_iff (I := Inv) _ _ (Inv.of_new hnew)
  · intro d call h
    exact (h.call call).1
  · intro d call h
    exact (h.call call).2

/-- Two ports without networks. -/
def barePorts : List RouterPortConfig :=
  [⟨0#16, ⟨0xfe80000000000001#64⟩, none, none⟩, ⟨1#16, ⟨0xfe80000000000002#64⟩, none, none⟩]

/-- The neighbor 2 has a route for the prefix. -/
def advertisementOf (p : GdpPrefix) : RouteAdvertise where
  advertiser := ⟨2#64⟩
  gdpPrefix := p
  origin := .connected
  metric := ⟨100#32⟩

/-- A router learns a route that it can install, loses it, and learns it again; a withdrawal of
another neighbor that claims to be this one fails. -/
theorem undiverged_iff_installable :
  let p : GdpPrefix := .host ⟨0x2001000000000000#64⟩
  let calls : List Call :=
    [.receiveAdvertisement ⟨2#64⟩ 1#16 (advertisementOf p), .neighborDown ⟨2#64⟩,
      .receiveAdvertisement ⟨2#64⟩ 0#16 (advertisementOf p),
      .receiveWithdrawal ⟨3#64⟩ { advertiser := ⟨2#64⟩, gdpPrefix := p }]
  ∃ d₀, new ⟨1#64⟩ barePorts [] = .ok d₀ ∧
    forwardPairs (Machine.run step d₀ calls).forwarding.fib = [(p, 0#16)] ∧
    Machine.Along step Undiverged d₀ calls
  := by
  intro p calls
  refine ⟨_, rfl, ?_, ?_⟩
  · decide +kernel
  · apply (@undiverged_iff barePorts [] ⟨1#64⟩ _ rfl calls).mpr
    decide +kernel

/-- A router is told a route on a port that it does not have.  The call fails, but the route is
selected from then on. -/
theorem diverged :
  let p : GdpPrefix := .host ⟨0x2001000000000000#64⟩
  let call : Call := .receiveAdvertisement ⟨2#64⟩ 5#16 (advertisementOf p)
  ∃ d₀, new ⟨1#64⟩ barePorts [] = .ok d₀ ∧ (d₀.perform call).1 = true ∧
    (d₀.step call).rib.routes ≠ d₀.rib.routes ∧
    routePairs (d₀.step call).rib.selectedRoutes = [(p, 5#16)] ∧
    forwardPairs (d₀.step call).forwarding.fib = [] ∧
    ¬ Machine.Along step Undiverged d₀ [call]
  := by
  intro p call
  have hdiverged : ∀ d : DynamicP4Router, (d.perform call).1 = true →
      (d.step call).rib.routes ≠ d.rib.routes → ¬ Machine.Along step Undiverged d [call] := by
    intro d hfails hroutes hundiverged
    exact hroutes (congrArg RouterRib.routes (hundiverged.1.2 hfails).1)
  refine ⟨_, rfl, ?_, ?_, ?_, ?_, hdiverged _ ?_ ?_⟩
  all_goals decide +kernel

end DynamicP4Router

end SmolGnet
