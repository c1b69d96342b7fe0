import SmolGnet.Routing.Agree

/-!
# Routes of neighbors that are gone

A driver hands greetings to the adjacency of a link, advertisements and withdrawals of the neighbor to
the router while the neighbor is up, and lets the router forget a neighbor that has not been heard of.
The routes are forgotten when the neighbor goes down.  They are not when another router takes its
place with a greeting.  So an expiry leaves no routes but those of the current neighbor, at any time
of a run, exactly if no other router takes the place of one whose routes are still there.
-/

namespace SmolGnet

/-- A router with one link to another router. -/
structure LinkedRouter where
  router : DynamicP4Router
  adjacency : RouterAdjacency

namespace LinkedRouter

/-- What the driver does. -/
inductive Event where
  | receive (now : Instant) (message : RoutingGctlMessage)
  | expireAdjacency (now : Instant)
  | receiveAdvertisement (egressPort : RouterPortId) (advertisement : RouteAdvertise)
  | receiveWithdrawal (withdrawal : RouteWithdraw)

/-- The neighbor on the link, if it is up. -/
def upNeighbor (s : LinkedRouter) : Option RouterId :=
  match s.adjacency.neighbor with
  | some neighbor => if neighbor.state = .up then some neighbor.routerId else none
  | none => none

/-- The driver does something.  Advertisements and withdrawals are those of the neighbor that is
up. -/
def step (s : LinkedRouter) : Event → LinkedRouter
  | .receive now message =>
    { s with adjacency := ((s.adjacency.receive now message).map (·.2)).toOption.getD s.adjacency }
  | .expireAdjacency now =>
    let (_, router, adjacency) := s.router.expireAdjacency s.adjacency now
    { router, adjacency }
  | .receiveAdvertisement egressPort advertisement =>
    match s.upNeighbor with
    | some neighbor =>
      { s with router := (s.router.receiveAdvertisement neighbor egressPort advertisement).2 }
    | none => s
  | .receiveWithdrawal withdrawal =>
    match s.upNeighbor with
    | some neighbor => { s with router := (s.router.receiveWithdrawal neighbor withdrawal).2 }
    | none => s

/-- Every learned route was learned from the current neighbor, which is up. -/
def Current (s : LinkedRouter) : Prop :=
  ∀ r ∈ s.router.rib.routes, r.origin = .learned →
    ∃ neighbor, s.adjacency.neighbor = some neighbor ∧ r.learnedFrom = some neighbor.routerId ∧
      neighbor.state = .up

/-- The router that a message presents. -/
def greeting (message : RoutingGctlMessage) : Option RouterHello :=
  match message.body with
  | .routerHello peer => some peer
  | .routerHelloAck peer => some peer
  | _ => none

/-- The message is a greeting that is accepted, of another router than the current neighbor. -/
def Replaces (s : LinkedRouter) (message : RoutingGctlMessage) : Prop :=
  ∃ peer ∈ greeting message, peer.routerId ≠ s.adjacency.localRouterId ∧ peer.holdTimeMs ≠ 0#32 ∧
    s.adjacency.neighbor.map RouterNeighbor.routerId ≠ some peer.routerId

/-- No other router takes the place of the neighbor while there are learned routes. -/
def KeepsNeighbor (s : LinkedRouter) : Event → Prop
  | .receive _ message => s.Replaces message → ∀ r ∈ s.router.rib.routes, r.origin ≠ .learned
  | _ => True

/-! ### What one step does -/

variable {s : LinkedRouter}

/-- The routes after a call are those that the call is about to leave. -/
theorem rib_step (d : DynamicP4Router) (call : DynamicP4Router.Call) :
  (d.step call).rib = d.ribFor call
  := by
  rcases d.rebuilds call with ⟨hstep, hrib⟩ | hperform
  · rw [hstep, hrib]
  · rw [DynamicP4Router.step, hperform]
    dsimp only [DynamicP4Router.rebuildForwarding]
    split
    · rfl
    · rfl

/-- A greeting that is accepted makes its sender the neighbor. -/
theorem receive_cases (s : LinkedRouter) (now : Instant) (message : RoutingGctlMessage) :
  (s.step (.receive now message) = s ∧ ¬ s.Replaces message) ∨
    ∃ peer ∈ greeting message, peer.routerId ≠ s.adjacency.localRouterId ∧ peer.holdTimeMs ≠ 0#32 ∧
      ∃ neighbor : RouterNeighbor, neighbor.routerId = peer.routerId ∧ neighbor.state = .up ∧
        neighbor.holdTimeMs = peer.holdTimeMs ∧
        s.step (.receive now message)
          = { s with adjacency := { s.adjacency with neighbor := some neighbor } }
  := by
  have haccept : ∀ peer,
      ((peer.routerId = s.adjacency.localRouterId ∨ peer.holdTimeMs = 0#32) ∧
        s.adjacency.acceptPeer now peer = .error .invalidField) ∨
      peer.routerId ≠ s.adjacency.localRouterId ∧ peer.holdTimeMs ≠ 0#32 ∧
      s.adjacency.acceptPeer now peer = .ok { s.adjacency with
        neighbor := some ⟨peer.routerId, peer.linkId, peer.metric, peer.holdTimeMs, now, .up⟩ } := by
    intro peer
    rw [RouterAdjacency.acceptPeer]
    split
    · next h => exact .inl ⟨h, rfl⟩
    · next h =>
      rw [not_or] at h
      exact .inr ⟨h.1, h.2, rfl⟩
  have hrefused : ∀ peer : RouterHello,
      peer.routerId = s.adjacency.localRouterId ∨ peer.holdTimeMs = 0#32 →
      ¬ ∃ peer' ∈ some peer, peer'.routerId ≠ s.adjacency.localRouterId ∧
        peer'.holdTimeMs ≠ 0#32 ∧
        s.adjacency.neighbor.map RouterNeighbor.routerId ≠ some peer'.routerId := by
    rintro peer h ⟨peer', hpeer, hid, hhold, -⟩
    cases hpeer
    exact h.elim hid hhold
  rw [step, RouterAdjacency.receive, Replaces, greeting]
  cases message.body with
  | routerHello peer =>
    rcases haccept peer with ⟨hno, h⟩ | ⟨hid, hhold, h⟩
    · left
      refine ⟨?_, hrefused peer hno⟩
      dsimp only
      rw [h]
      rfl
    · right
      dsimp only
      rw [h]
      exact ⟨peer, rfl, hid, hhold, _, rfl, rfl, rfl, rfl⟩
  | routerHelloAck peer =>
    rcases haccept peer with ⟨hno, h⟩ | ⟨hid, hhold, h⟩
    · left
      refine ⟨?_, hrefused peer hno⟩
      dsimp only
      rw [h]
      rfl
    · right
      dsimp only
      rw [h]
      exact ⟨peer, rfl, hid, hhold, _, rfl, rfl, rfl, rfl⟩
  | routeAdvertise route => exact .inl ⟨rfl, nofun⟩
  | routeWithdraw route => exact .inl ⟨rfl, nofun⟩

/-- An expiry does nothing, or the neighbor goes down and its routes are forgotten. -/
theorem expire_cases (s : LinkedRouter) (now : Instant) :
  s.step (.expireAdjacency now) = s ∨
    ∃ neighbor : RouterNeighbor, s.adjacency.neighbor = some neighbor ∧
      ⟨neighbor.holdTimeMs.setWidth 64⟩ ≤ now.saturatingDurationSince neighbor.lastSeen ∧
      (s.step (.expireAdjacency now)).adjacency.neighbor = some { neighbor with state := .down } ∧
      (s.step (.expireAdjacency now)).router.rib
        = (s.router.rib.removeLearnedFrom neighbor.routerId).2
  := by
  have hrib := rib_step s.router (.expireAdjacency s.adjacency now)
  rw [DynamicP4Router.step, DynamicP4Router.perform, DynamicP4Router.ribFor] at hrib
  dsimp only at hrib
  by_cases hid : s.adjacency.localRouterId = s.router.routerId
  · cases hneighbor : s.adjacency.neighbor with
    | none =>
      left
      rw [step, DynamicP4Router.expireAdjacency, if_neg (not_not.mpr hid), RouterAdjacency.expire,
        hneighbor]
      rfl
    | some neighbor =>
      rw [hneighbor] at hrib
      dsimp only at hrib
      by_cases hexpires : neighbor.state ≠ .down ∧
          ⟨neighbor.holdTimeMs.setWidth 64⟩ ≤ now.saturatingDurationSince neighbor.lastSeen
      · right
        have hexpire : s.adjacency.expire now
            = (true, { s.adjacency with neighbor := some { neighbor with state := .down } }) := by
          rw [RouterAdjacency.expire, hneighbor]
          dsimp only
          rw [if_neg hexpires.1, if_pos hexpires.2]
        rw [if_pos ⟨hid, by rw [hexpire]⟩] at hrib
        refine ⟨neighbor, rfl, hexpires.2, ?_, hrib⟩
        rw [step, DynamicP4Router.expireAdjacency, if_neg (not_not.mpr hid), hexpire, hneighbor]
        rfl
      · left
        have hexpire : s.adjacency.expire now = (false, s.adjacency) := by
          rw [RouterAdjacency.expire, hneighbor]
          dsimp only
          by_cases hdown : neighbor.state = .down
          · rw [if_pos hdown]
          · rw [if_neg hdown, if_neg (fun h => hexpires ⟨hdown, h⟩)]
        rw [step, DynamicP4Router.expireAdjacency, if_neg (not_not.mpr hid), hexpire]
        rfl
  · left
    rw [step, DynamicP4Router.expireAdjacency, if_pos hid]

/-- The neighbor may be silent for some time. -/
def Held (s : LinkedRouter) : Prop :=
  ∀ neighbor, s.adjacency.neighbor = some neighbor → neighbor.holdTimeMs ≠ 0#32

/-- The neighbor on the link when it is told of routes. -/
theorem upNeighbor_eq_some {router : RouterId} (h : s.upNeighbor = some router) :
  ∃ neighbor, s.adjacency.neighbor = some neighbor ∧ neighbor.routerId = router ∧
    neighbor.state = .up
  := by
  rw [upNeighbor] at h
  split at h
  · next neighbor hneighbor =>
    split at h
    · next hup =>
      cases h
      exact ⟨neighbor, hneighbor, rfl, hup⟩
    · cases h
  · cases h

theorem Held.step (h : s.Held) (event : Event) :
  (s.step event).Held
  := by
  cases event with
  | receive now message =>
    rcases s.receive_cases now message with ⟨hsame, -⟩ | ⟨peer, -, -, hhold, neighbor, -, -, hheld, heq⟩
    · rw [hsame]
      exact h
    · rw [heq]
      intro neighbor' hneighbor
      cases hneighbor
      rw [hheld]
      exact hhold
  | expireAdjacency now =>
    rcases s.expire_cases now with hsame | ⟨neighbor, hneighbor, -, hdown, -⟩
    · rw [hsame]
      exact h
    · intro neighbor' hneighbor'
      rw [hdown] at hneighbor'
      cases hneighbor'
      exact h neighbor hneighbor
  | receiveAdvertisement egressPort advertisement =>
    rw [LinkedRouter.step]
    split
    · exact h
    · exact h
  | receiveWithdrawal withdrawal =>
    rw [LinkedRouter.step]
    split
    · exact h
    · exact h

/-- Routes that the neighbor has told are learned from it. -/
theorem Current.of_update {s : LinkedRouter} {router : DynamicP4Router} (h : s.Current)
    {neighbor : RouterId} (hup : s.upNeighbor = some neighbor)
    (hroutes : ∀ r ∈ router.rib.routes, r ∈ s.router.rib.routes ∨ r.learnedFrom = some neighbor) :
  Current { s with router }
  := by
  intro r hr hlearned
  rcases hroutes r hr with hold | hfrom
  · exact h r hold hlearned
  · obtain ⟨n, hn, rfl, hstate⟩ := upNeighbor_eq_some hup
    exact ⟨n, hn, hfrom, hstate⟩

theorem Current.step (h : s.Current) {event : Event} (hkeeps : s.KeepsNeighbor event) :
  (s.step event).Current
  := by
  cases event with
  | receive now message =>
    rcases s.receive_cases now message with
      ⟨hsame, -⟩ | ⟨peer, hpeer, hid, hhold, n, hn, hup, -, heq⟩
    · rw [hsame]
      exact h
    · rw [heq]
      intro r hr hlearned
      refine ⟨n, rfl, ?_, hup⟩
      -- The sender is the neighbor that the route was learned from, or there is no such route.
      obtain ⟨old, hold, hfrom, -⟩ := h r hr hlearned
      by_cases hsame : old.routerId = peer.routerId
      · rw [hfrom, hn, hsame]
      · refine absurd hlearned (hkeeps ⟨peer, hpeer, hid, hhold, ?_⟩ r hr)
        rw [hold, Option.map_some]
        exact fun heq => hsame (Option.some.inj heq)
  | expireAdjacency now =>
    rcases s.expire_cases now with hsame | ⟨n, hn, -, hdown, hrib⟩
    · rw [hsame]
      exact h
    · intro r hr hlearned
      rw [hrib] at hr
      change r ∈ (s.router.rib.retain _).routes at hr
      rw [RouterRib.mem_retain] at hr
      obtain ⟨n', hn', hfrom, -⟩ := h r hr.1 hlearned
      rw [hn] at hn'
      cases hn'
      simp [hlearned, hfrom] at hr
  | receiveAdvertisement egressPort advertisement =>
    rw [LinkedRouter.step]
    split
    · next neighbor hup =>
      apply h.of_update hup
      intro r hr
      have hrib := rib_step s.router (.receiveAdvertisement neighbor egressPort advertisement)
      change (s.router.receiveAdvertisement neighbor egressPort advertisement).2.rib = _ at hrib
      rw [hrib, DynamicP4Router.ribFor] at hr
      cases hreceive : s.router.rib.receiveAdvertisement neighbor egressPort advertisement with
      | error err =>
        rw [hreceive] at hr
        exact .inl hr
      | ok rib' =>
        rw [hreceive] at hr
        have hupdate : s.router.rib.receiveUpdate neighbor egressPort (.advertise advertisement)
            = .ok rib' := hreceive
        rcases ((RouterRib.mem_receiveUpdate hupdate).2 r).mp hr with hnew | ⟨hold, -⟩
        · exact .inr (RouterRib.learnedRoute_spec hnew).2.2
        · exact .inl hold
    · exact h
  | receiveWithdrawal withdrawal =>
    rw [LinkedRouter.step]
    split
    · next neighbor hup =>
      apply h.of_update hup
      intro r hr
      have hrib := rib_step s.router (.receiveWithdrawal neighbor withdrawal)
      change (s.router.receiveWithdrawal neighbor withdrawal).2.rib = _ at hrib
      rw [hrib, DynamicP4Router.ribFor] at hr
      cases hreceive : (s.router.rib.receiveWithdrawal neighbor withdrawal).map (·.2) with
      | error err =>
        rw [hreceive] at hr
        exact .inl hr
      | ok rib' =>
        rw [hreceive] at hr
        have hupdate : s.router.rib.receiveUpdate neighbor 0#16 (.withdraw withdrawal) = .ok rib' :=
          hreceive
        rcases ((RouterRib.mem_receiveUpdate hupdate).2 r).mp hr with hnew | ⟨hold, -⟩
        · exact .inr (RouterRib.learnedRoute_spec hnew).2.2
        · exact .inl hold
    · exact h

/-- The condition is one that the routes only meet if they stay those of the neighbor. -/
theorem Current.keepsNeighbor (h : s.Current) {event : Event} (hnext : (s.step event).Current) :
  s.KeepsNeighbor event
  := by
  cases event with
  | receive now message =>
    rintro hreplaces r hr hlearned
    rcases s.receive_cases now message with ⟨-, hno⟩ | ⟨peer, hpeer, -, -, n, hn, -, -, heq⟩
    · exact hno hreplaces
    · rw [heq] at hnext
      obtain ⟨old, hold, hfrom, -⟩ := h r hr hlearned
      obtain ⟨_, hnew, hfrom', -⟩ := hnext r hr hlearned
      cases hnew
      obtain ⟨peer', hpeer', -, -, hother⟩ := hreplaces
      rw [Option.mem_unique hpeer' hpeer] at hother
      apply hother
      rw [hold, Option.map_some, ← hfrom, hfrom', hn]
  | expireAdjacency now => trivial
  | receiveAdvertisement egressPort advertisement => trivial
  | receiveWithdrawal withdrawal => trivial

/-- At the time zero no neighbor is overdue. -/
theorem Held.expire_zero (h : s.Held) :
  s.step (.expireAdjacency .zero) = s
  := by
  rcases s.expire_cases .zero with hsame | ⟨neighbor, hneighbor, hoverdue, -⟩
  · exact hsame
  · refine absurd (BitVec.eq_of_toNat_eq ?_) (h neighbor hneighbor)
    rw [Duration.le_def, Instant.saturatingDurationSince, toNat_saturatingSub,
      BitVec.toNat_setWidth_of_le (by decide), Instant.zero, BitVec.toNat_ofNat, Nat.zero_mod,
      Nat.zero_sub] at hoverdue
    rw [BitVec.toNat_ofNat, Nat.zero_mod]
    exact Nat.le_zero.mp hoverdue

/-! ### Runs -/

/-- Whatever the driver does, an expiry at any time of the run leaves no learned routes but those of
the neighbor that is up, exactly if no other router takes the place of a neighbor whose routes are
still there. -/
theorem current_iff {routerId localRouterId : RouterId} {ports : List RouterPortConfig}
    {configuredStatic : List StaticRouteConfig} {router : DynamicP4Router}
    (hrouter : DynamicP4Router.new routerId ports configuredStatic = .ok router)
    {localLinkId : LinkId} {localMetric : RouteMetric} {localHoldTimeMs : U32}
    {adjacency : RouterAdjacency}
    (hadjacency :
      RouterAdjacency.new localRouterId localLinkId localMetric localHoldTimeMs = .ok adjacency)
    (events : List Event) :
  (∀ start, start <+: events → ∀ now,
      (Machine.run step ⟨router, adjacency⟩ (start ++ [.expireAdjacency now])).Current) ↔
    Machine.Along step KeepsNeighbor ⟨router, adjacency⟩ events
  := by
  have hheld : Held ⟨router, adjacency⟩ := by
    intro neighbor hneighbor
    rw [RouterAdjacency.new] at hadjacency
    split at hadjacency
    · cases hadjacency
    · cases hadjacency
      cases hneighbor
  have hcurrent : Current ⟨router, adjacency⟩ := by
    obtain ⟨forwarding, -, h⟩ := bind_eq_ok.mp hrouter
    cases h
    intro r hr hlearned
    exact absurd hlearned
      (DynamicP4Router.origin_startupRib routerId ports configuredStatic r hr)
  rw [← Machine.forall_isPrefix_iff_along (I := Held) (P := Current)
    (fun s event h => h.step event) (fun s event _ h hkeeps => h.step hkeeps)
    (fun s event _ h hnext => h.keepsNeighbor hnext) hheld hcurrent]
  apply forall₂_congr
  intro start _
  have hrun : (Machine.run step ⟨router, adjacency⟩ start).Held :=
    Machine.invariant_run (P := Held) (fun s event h => h.step event) hheld start
  constructor
  · intro h
    have hzero := h .zero
    rw [Machine.run_append, Machine.run_cons, Machine.run_nil, hrun.expire_zero] at hzero
    exact hzero
  · intro h now
    rw [Machine.run_append, Machine.run_cons, Machine.run_nil]
    exact h.step trivial

instance (s : LinkedRouter) (message : RoutingGctlMessage) : Decidable (s.Replaces message) :=
  inferInstanceAs (Decidable (∃ _ ∈ _, _))

instance (s : LinkedRouter) : (event : Event) → Decidable (s.KeepsNeighbor event)
  | .receive _ _ => inferInstanceAs (Decidable (_ → _))
  | .expireAdjacency _ => .isTrue trivial
  | .receiveAdvertisement _ _ => .isTrue trivial
  | .receiveWithdrawal _ => .isTrue trivial

/-- A greeting of a router that may be silent for a second. -/
def helloOf (routerId : RouterId) : RoutingGctlMessage where
  transactionId := 1#32
  body := .routerHello
    { routerId, linkId := ⟨1#64⟩, holdTimeMs := 1000#32, metric := ⟨10#32⟩ }

/-- The routes of the router 2 are gone when another router takes its place. -/
theorem current_iff_expired :
  let p : GdpPrefix := .host ⟨0x2001000000000000#64⟩
  let events : List Event :=
    [.receive ⟨0#64⟩ (helloOf ⟨2#64⟩),
      .receiveAdvertisement 1#16 (DynamicP4Router.advertisementOf p),
      .receive ⟨500#64⟩ (helloOf ⟨2#64⟩), .expireAdjacency ⟨1500#64⟩,
      .receive ⟨1600#64⟩ (helloOf ⟨3#64⟩)]
  ∃ router adjacency,
    DynamicP4Router.new ⟨1#64⟩ DynamicP4Router.barePorts [] = .ok router ∧
    RouterAdjacency.new ⟨1#64⟩ ⟨0#64⟩ ⟨10#32⟩ 1000#32 = .ok adjacency ∧
    ∀ start, start <+: events → ∀ now,
      (Machine.run step ⟨router, adjacency⟩ (start ++ [.expireAdjacency now])).Current
  := by
  intro p events
  have hadjacency : RouterAdjacency.new ⟨1#64⟩ ⟨0#64⟩ ⟨10#32⟩ 1000#32
      = .ok ⟨⟨1#64⟩, ⟨0#64⟩, ⟨10#32⟩, 1000#32, none⟩ := rfl
  have hrouter : ∀ router, DynamicP4Router.new ⟨1#64⟩ DynamicP4Router.barePorts [] = .ok router →
      Machine.Along step KeepsNeighbor ⟨router, _⟩ events →
      ∀ start, start <+: events → ∀ now,
        (Machine.run step ⟨router, _⟩ (start ++ [.expireAdjacency now])).Current :=
    fun router hrouter => (current_iff hrouter hadjacency events).mpr
  refine ⟨_, _, rfl, hadjacency, hrouter _ rfl ?_⟩
  decide +kernel

/-- The router 3 takes the place of the router 2 with a greeting.  When the router 3 has not been heard
of for long enough, the route that was learned from the router 2 is still there. -/
theorem stale_route :
  let p : GdpPrefix := .host ⟨0x2001000000000000#64⟩
  let events : List Event :=
    [.receive ⟨0#64⟩ (helloOf ⟨2#64⟩),
      .receiveAdvertisement 1#16 (DynamicP4Router.advertisementOf p),
      .receive ⟨500#64⟩ (helloOf ⟨3#64⟩), .expireAdjacency ⟨1500#64⟩]
  ∃ router adjacency,
    DynamicP4Router.new ⟨1#64⟩ DynamicP4Router.barePorts [] = .ok router ∧
    RouterAdjacency.new ⟨1#64⟩ ⟨0#64⟩ ⟨10#32⟩ 1000#32 = .ok adjacency ∧
    let s := Machine.run step ⟨router, adjacency⟩ events
    s.adjacency.neighbor.map (fun n => (n.routerId, n.state)) = some (⟨3#64⟩, .down) ∧
      s.router.rib.routes.map (fun r => (r.origin, r.learnedFrom)) = [(.learned, some ⟨2#64⟩)] ∧
      ¬ s.Current
  := by
  intro p events
  have hstale : ∀ s : LinkedRouter,
      s.adjacency.neighbor.map (fun n => (n.routerId, n.state)) = some (⟨3#64⟩, .down) →
      s.router.rib.routes.map (fun r => (r.origin, r.learnedFrom)) = [(.learned, some ⟨2#64⟩)] →
      ¬ s.Current := by
    intro s hneighbor hroutes h
    obtain ⟨n, hn, heq⟩ := Option.map_eq_some_iff.mp hneighbor
    have hdown : n.state = .down := congrArg Prod.snd heq
    obtain ⟨r, l, hrl, hr, -⟩ := List.map_eq_cons_iff.mp hroutes
    have hmem : r ∈ s.router.rib.routes := by
      rw [hrl]
      exact List.mem_cons_self
    obtain ⟨n', hn', -, hup⟩ := h r hmem (congrArg Prod.fst hr)
    rw [hn] at hn'
    cases hn'
    rw [hdown] at hup
    cases hup
  refine ⟨_, _, rfl, rfl, ?_, ?_, hstale _ ?_ ?_⟩
  all_goals decide +kernel

end LinkedRouter

end SmolGnet
