import Mathlib.Logic.Relation
import SmolGnet.Library.Machine
import SmolGnet.Routing.Refresh

/-!
# A network of routers

Routers tell each other their routes over links that lose messages but keep their order.  A link
has a positive metric, by which a route that is told over it gets longer.  As long as no neighbor
goes away and nothing is configured, routes only get better.  So whatever a router has stored or has
still to hear from a neighbor is at least as long as the neighbor's own route and the link, and
following the selected routes from router to router never leads back.
-/

namespace SmolGnet

/-- The metrics of the links of a network, from one router to another. -/
abbrev Links := RouterId → RouterId → Option RouteMetric

/-- The routes of the routers, and the messages under way from one to another. -/
structure RouterNetwork where
  ribs : RouterId → RouterRib
  inFlight : RouterId → RouterId → List RouteUpdate

namespace RouterNetwork

/-- A network whose routers know nothing. -/
def new : RouterNetwork where
  ribs := RouterRib.new
  inFlight := fun _ _ => []

/-- The network with other messages under way from `sender` to `receiver`. -/
def setInFlight (s : RouterNetwork) (sender receiver : RouterId) (messages : List RouteUpdate) :
    RouterNetwork :=
  { s with
    inFlight := fun u v => if u = sender ∧ v = receiver then messages else s.inFlight u v }

/-- The network with other routes of one router. -/
def setRib (s : RouterNetwork) (router : RouterId) (rib : RouterRib) : RouterNetwork :=
  { s with ribs := Function.update s.ribs router rib }

/-- What can happen in a network. -/
inductive Action where
  | addConnected (router : RouterId) (p : GdpPrefix) (egressPort : RoutingPortId)
  | refresh (sender receiver : RouterId)
  | update (sender receiver : RouterId) (prefixes : List GdpPrefix)
  | lose (sender receiver : RouterId) (index : ℕ)
  | deliver (sender receiver : RouterId) (egressPort : RoutingPortId)

/-- Messages are sent over a link. -/
def send (links : Links) (s : RouterNetwork) (sender receiver : RouterId)
    (messages : RouteMetric → List RouteUpdate) : RouterNetwork :=
  match links sender receiver with
  | none => s
  | some metric => s.setInFlight sender receiver (s.inFlight sender receiver ++ messages metric)

/-- One thing happens. -/
def step (links : Links) (s : RouterNetwork) : Action → RouterNetwork
  | .addConnected router p egressPort => s.setRib router ((s.ribs router).addConnected p egressPort)
  | .refresh sender receiver =>
    send links s sender receiver
      (fun metric => ((s.ribs sender).advertisementsFor receiver metric).map .advertise)
  | .update sender receiver prefixes =>
    send links s sender receiver
      (fun metric => (s.ribs sender).updatesFor receiver metric prefixes)
  | .lose sender receiver index =>
    s.setInFlight sender receiver ((s.inFlight sender receiver).eraseIdx index)
  | .deliver sender receiver egressPort =>
    match s.inFlight sender receiver with
    | [] => s
    | message :: messages =>
      let rib := s.ribs receiver
      (s.setRib receiver
        ((rib.receiveUpdate sender egressPort message).toOption.getD rib)).setInFlight
          sender receiver messages

/-- No selected route gets too long for its metric when it is told over a link. -/
def NotSaturated (links : Links) (s : RouterNetwork) (sender receiver : RouterId) : Prop :=
  ∀ metric ∈ links sender receiver, ∀ route ∈ (s.ribs sender).selectedRoutes,
    route.metric.value.toNat + metric.value.toNat < 2 ^ 32

/-- What is sent is not too long. -/
def Sendable (links : Links) (s : RouterNetwork) : Action → Prop
  | .refresh sender receiver => s.NotSaturated links sender receiver
  | .update sender receiver _ => s.NotSaturated links sender receiver
  | _ => True

instance (links : Links) (s : RouterNetwork) (sender receiver : RouterId) :
    Decidable (s.NotSaturated links sender receiver) :=
  inferInstanceAs (Decidable (∀ _ ∈ _, _))

instance (links : Links) (s : RouterNetwork) : (action : Action) → Decidable (Sendable links s action)
  | .addConnected _ _ _ => .isTrue trivial
  | .refresh _ _ => inferInstanceAs (Decidable (NotSaturated _ _ _ _))
  | .update _ _ _ => inferInstanceAs (Decidable (NotSaturated _ _ _ _))
  | .lose _ _ _ => .isTrue trivial
  | .deliver _ _ _ => .isTrue trivial

/-- The selected route of `router` for the prefix was learned from `neighbor`. -/
def NextHop (s : RouterNetwork) (p : GdpPrefix) (router neighbor : RouterId) : Prop :=
  ∃ route ∈ (s.ribs router).selectedRoutes,
    route.gdpPrefix = p ∧ route.origin = .learned ∧ route.learnedFrom = some neighbor

end RouterNetwork

namespace RouterRib

/-! ### Reaching a prefix -/

variable {rib rib' : RouterRib} {p : GdpPrefix} {s : SelectedRoute} {k : ℕ}

/-- There is a route for the prefix that costs at most `k`. -/
def Reaches (rib : RouterRib) (p : GdpPrefix) (k : ℕ) : Prop :=
  ∃ r ∈ rib.routes, r.gdpPrefix = p ∧ r.metric.value.toNat ≤ k

/-- A route that comes before another one of the same origin is not longer. -/
theorem metric_le_of_rank_le {r x : RibRoute} (horigin : r.origin = x.origin)
    (h : r.rank ≤ x.rank) :
  r.metric.value.toNat ≤ x.metric.value.toNat
  := by
  rw [RibRoute.rank, RibRoute.rank, Prod.Lex.toLex_le_toLex, horigin, Prod.Lex.toLex_le_toLex] at h
  omega

/-- Without configured routes the selected route is the shortest. -/
theorem metric_le_of_reaches (hstatic : ∀ r ∈ rib.routes, r.origin ≠ .static)
    (hs : rib.selectedForPrefix p = some s) (h : rib.Reaches p k) :
  s.metric.value.toNat ≤ k
  := by
  obtain ⟨r, hr, -, rfl, hbest⟩ := exists_of_selectedForPrefix hs
  obtain ⟨x, hx, hxp, hxk⟩ := h
  have hrank := hbest x hx hxp
  have hformed := rib.formed r hr
  have hformed' := rib.formed x hx
  change r.metric.value.toNat ≤ k
  cases horigin : r.origin with
  | connected =>
    rw [RibRoute.Formed, horigin] at hformed
    rw [hformed.2]
    exact Nat.zero_le k
  | static => exact absurd horigin (hstatic r hr)
  | escape =>
    rw [RibRoute.Formed, horigin] at hformed
    cases hformed
  | learned =>
    cases horigin' : x.origin with
    | connected =>
      rw [RibRoute.rank, RibRoute.rank, Prod.Lex.toLex_le_toLex, horigin, horigin'] at hrank
      rcases hrank with hlt | ⟨heq, -⟩
      · exact absurd (show 100 < 0 from hlt) (by decide)
      · exact absurd (show 100 = 0 from heq) (by decide)
    | static => exact absurd horigin' (hstatic x hx)
    | escape =>
      rw [RibRoute.Formed, horigin'] at hformed'
      cases hformed'
    | learned => exact (metric_le_of_rank_le (horigin.trans horigin'.symm) hrank).trans hxk

theorem exists_selected_of_reaches (h : rib.Reaches p k) :
  ∃ s, rib.selectedForPrefix p = some s
  := by
  obtain ⟨r, hr, rfl, -⟩ := h
  exact exists_selectedForPrefix hr

/-- Without configured routes a prefix is withdrawn from the neighbor that the selected route was
learned from. -/
theorem learnedFrom_of_withdraw {neighbor : RouterId} {metric : RouteMetric} {r : RibRoute}
    {w : RouteWithdraw} (hstatic : ∀ r ∈ rib.routes, r.origin ≠ .static) (hr : r ∈ rib.routes)
    (hs : rib.selectedForPrefix p = some (.ofRibRoute r))
    (hw : rib.updateFor neighbor metric p = .withdraw w) :
  r.learnedFrom = some neighbor
  := by
  rw [updateFor, hs] at hw
  dsimp only at hw
  split at hw
  · cases hw
  next hnot =>
  rw [routeIsAdvertisableTo] at hnot
  dsimp only [SelectedRoute.ofRibRoute] at hnot
  cases horigin : r.origin with
  | connected => simp [horigin] at hnot
  | learned =>
    rw [horigin] at hnot
    exact not_not.mp (fun hne => hnot (decide_eq_true hne))
  | static => exact absurd horigin (hstatic r hr)
  | escape =>
    have hformed := rib.formed r hr
    rw [RibRoute.Formed, horigin] at hformed
    cases hformed

/-- Two routes for the same prefix that were learned from the same neighbor are the same. -/
theorem eq_of_isLearned {neighbor : RouterId} {r x : RibRoute} (hr : r ∈ rib.routes)
    (hx : x ∈ rib.routes) (hlearned : isLearned p neighbor r = true)
    (hlearned' : isLearned p neighbor x = true) :
  r = x
  := by
  rw [isLearned_iff] at hlearned hlearned'
  apply List.inj_on_of_nodup_map rib.distinct hr hx
  rw [RibRoute.key, RibRoute.key, hlearned.1, hlearned.2.1, hlearned.2.2, hlearned'.1,
    hlearned'.2.1, hlearned'.2.2]

/-- The network to which a router gets connected is reached at no cost, and the others as before. -/
theorem reaches_addConnected (q : GdpPrefix) (egressPort : RoutingPortId) (h : rib.Reaches p k) :
  (rib.addConnected q egressPort).Reaches p k
  := by
  obtain ⟨r, hr, hp, hk⟩ := h
  by_cases hold : isLocal q .connected r = true
  · refine ⟨_, mem_addConnected.mpr (.inl rfl), ?_, Nat.zero_le k⟩
    simp only [isLocal, Bool.and_eq_true, decide_eq_true_eq] at hold
    exact hold.1.1.symm.trans hp
  · exact ⟨r, mem_addConnected.mpr (.inr ⟨hr, by simpa using hold⟩), hp, hk⟩

end RouterRib

namespace RouterNetwork

/-! ### The invariant -/

open RouterRib

variable {links : Links} {s s' : RouterNetwork} {u v : RouterId} {p : GdpPrefix} {n : ℕ}
  {message : RouteUpdate}

/-- A route of the given metric from `u`, as it arrives at `v`: it is at least as long as the route of
`u` and the link. -/
def Costs (links : Links) (s : RouterNetwork) (u v : RouterId) (p : GdpPrefix) (n : ℕ) : Prop :=
  ∃ metric k, links u v = some metric ∧ (s.ribs u).Reaches p k ∧ k + metric.value.toNat = n

/-- The message comes after an advertisement of a route with metric `n`.  Then what it advertises is
not longer, and if it is a withdrawal, the receiver has a shorter route. -/
def Supersedes (rib : RouterRib) (p : GdpPrefix) (n : ℕ) : RouteUpdate → Prop
  | .advertise advertisement => advertisement.gdpPrefix = p → advertisement.metric.value.toNat ≤ n
  | .withdraw withdrawal => withdrawal.gdpPrefix = p → ∃ k < n, rib.Reaches p k

/-- What is known and under way in every state of a network. -/
structure Inv (links : Links) (s : RouterNetwork) : Prop where
  ids : ∀ v, (s.ribs v).localRouterId = v
  no_static : ∀ v, ∀ r ∈ (s.ribs v).routes, r.origin ≠ .static
  sent : ∀ u v a, .advertise a ∈ s.inFlight u v → Costs links s u v a.gdpPrefix a.metric.value.toNat
  stored : ∀ u v r, r ∈ (s.ribs v).routes → r.learnedFrom = some u →
    Costs links s u v r.gdpPrefix r.metric.value.toNat
  after_stored : ∀ u v r, r ∈ (s.ribs v).routes → r.learnedFrom = some u →
    ∀ m ∈ s.inFlight u v, Supersedes (s.ribs v) r.gdpPrefix r.metric.value.toNat m
  after_sent : ∀ u v, (s.inFlight u v).Pairwise (fun m m' =>
    ∀ a, m = .advertise a → Supersedes (s.ribs v) a.gdpPrefix a.metric.value.toNat m')

/-- Routes only get better. -/
def Improves (s s' : RouterNetwork) : Prop :=
  ∀ v p k, (s.ribs v).Reaches p k → (s'.ribs v).Reaches p k

theorem Costs.improve (h : Costs links s u v p n) (hs : Improves s s') :
  Costs links s' u v p n
  := by
  obtain ⟨metric, k, hlink, hreaches, hn⟩ := h
  exact ⟨metric, k, hlink, hs u p k hreaches, hn⟩

theorem Supersedes.improve (h : Supersedes (s.ribs v) p n message) (hs : Improves s s') :
  Supersedes (s'.ribs v) p n message
  := by
  cases message with
  | advertise a => exact h
  | withdraw w =>
    intro hp
    obtain ⟨k, hk, hreaches⟩ := h hp
    exact ⟨k, hk, hs v p k hreaches⟩

theorem Inv.new :
  Inv links new
  := by
  constructor
  · intro v
    rfl
  · intro v r hr
    cases hr
  · intro u v a ha
    cases ha
  · intro u v r hr
    cases hr
  · intro u v r hr
    cases hr
  · intro u v
    exact List.Pairwise.nil

theorem ribs_setRib (s : RouterNetwork) (router v : RouterId) (rib : RouterRib) :
  (s.setRib router rib).ribs v = if v = router then rib else s.ribs v
  := Function.update_apply s.ribs router rib v

theorem inFlight_setInFlight (s : RouterNetwork) (sender receiver u v : RouterId)
    (messages : List RouteUpdate) :
  (s.setInFlight sender receiver messages).inFlight u v
    = if u = sender ∧ v = receiver then messages else s.inFlight u v
  := rfl

/-- Messages can be lost. -/
theorem Inv.setInFlight (h : Inv links s) (sender receiver : RouterId) {messages : List RouteUpdate}
    (hmessages : messages.Sublist (s.inFlight sender receiver)) :
  Inv links (s.setInFlight sender receiver messages)
  := by
  have hsub : ∀ u v, ((s.setInFlight sender receiver messages).inFlight u v).Sublist
      (s.inFlight u v) := by
    intro u v
    rw [inFlight_setInFlight]
    split
    · next huv =>
      rw [huv.1, huv.2]
      exact hmessages
    · exact List.Sublist.refl _
  constructor
  · exact h.ids
  · exact h.no_static
  · intro u v a ha
    exact h.sent u v a ((hsub u v).subset ha)
  · exact h.stored
  · intro u v r hr hfrom m hm
    exact h.after_stored u v r hr hfrom m ((hsub u v).subset hm)
  · intro u v
    exact (h.after_sent u v).sublist (hsub u v)

/-! ### What one step preserves -/

/-- A router gets connected to a network. -/
theorem Inv.addConnected (h : Inv links s) (router : RouterId) (q : GdpPrefix)
    (egressPort : RoutingPortId) :
  Inv links (s.setRib router ((s.ribs router).addConnected q egressPort))
  := by
  have hrib : ∀ v, (s.setRib router ((s.ribs router).addConnected q egressPort)).ribs v
      = if v = router then (s.ribs v).addConnected q egressPort else s.ribs v := by
    intro v
    rw [ribs_setRib]
    split
    · next hv => rw [hv]
    · rfl
  have himproves : Improves s (s.setRib router ((s.ribs router).addConnected q egressPort)) := by
    intro v p k hreaches
    rw [hrib]
    split
    · exact reaches_addConnected q egressPort hreaches
    · exact hreaches
  have hroutes : ∀ v r,
      r ∈ ((s.setRib router ((s.ribs router).addConnected q egressPort)).ribs v).routes →
      r.origin = .connected ∧ r.learnedFrom = none ∨ r ∈ (s.ribs v).routes := by
    intro v r hr
    rw [hrib] at hr
    split at hr
    · rcases mem_addConnected.mp hr with rfl | ⟨hr, -⟩
      · exact .inl ⟨rfl, rfl⟩
      · exact .inr hr
    · exact .inr hr
  have hlearned : ∀ u v r,
      r ∈ ((s.setRib router ((s.ribs router).addConnected q egressPort)).ribs v).routes →
      r.learnedFrom = some u → r ∈ (s.ribs v).routes := by
    intro u v r hr hfrom
    rcases hroutes v r hr with ⟨-, hnone⟩ | hr
    · rw [hnone] at hfrom
      cases hfrom
    · exact hr
  constructor
  · intro v
    rw [hrib]
    split
    · exact h.ids v
    · exact h.ids v
  · intro v r hr
    rcases hroutes v r hr with ⟨horigin, -⟩ | hr
    · rw [horigin]
      nofun
    · exact h.no_static v r hr
  · intro u v a ha
    exact (h.sent u v a ha).improve himproves
  · intro u v r hr hfrom
    exact (h.stored u v r (hlearned u v r hr hfrom) hfrom).improve himproves
  · intro u v r hr hfrom m hm
    exact (h.after_stored u v r (hlearned u v r hr hfrom) hfrom m hm).improve himproves
  · intro u v
    apply (h.after_sent u v).imp
    intro m m' hm a ha
    exact (hm a ha).improve himproves

/-- What is advertised costs as much as the selected route and the link. -/
theorem costs_updateFor {metric : RouteMetric} {a : RouteAdvertise}
    (hlink : links u v = some metric) (hnot : s.NotSaturated links u v)
    (ha : (s.ribs u).updateFor v metric p = .advertise a) :
  ∃ route, (s.ribs u).selectedForPrefix p = some route ∧
    a.metric.value.toNat = route.metric.value.toNat + metric.value.toNat
  := by
  rw [updateFor] at ha
  split at ha
  · next route hroute =>
    split at ha
    · cases ha
      refine ⟨route, hroute, ?_⟩
      apply toNat_saturatingAdd
      apply hnot metric hlink route
      rw [mem_selectedRoutes, gdpPrefix_of_selectedForPrefix hroute]
      exact hroute
    · cases ha
  · cases ha

/-- A new message supersedes whatever was advertised before. -/
theorem Inv.supersedes_updateFor (h : Inv links s)
    (hpositive : ∀ u v metric, links u v = some metric → 0 < metric.value.toNat)
    {metric : RouteMetric} (hlink : links u v = some metric) (hnot : s.NotSaturated links u v)
    (hcosts : Costs links s u v p n) (q : GdpPrefix) :
  Supersedes (s.ribs v) p n ((s.ribs u).updateFor v metric q)
  := by
  obtain ⟨metric', k, hlink', hreaches, hn⟩ := hcosts
  rw [hlink] at hlink'
  cases hlink'
  have hpos := hpositive u v metric hlink
  cases hupdate : (s.ribs u).updateFor v metric q with
  | advertise a =>
    intro hp
    have hq : a.gdpPrefix = q := by
      have hspec := ((s.ribs u).updateFor_spec v metric q).1
      rw [hupdate] at hspec
      exact hspec
    obtain ⟨route, hroute, hmetric⟩ := costs_updateFor hlink hnot hupdate
    rw [← hq, hp] at hroute
    have hle := metric_le_of_reaches (h.no_static u) hroute hreaches
    omega
  | withdraw w =>
    intro hp
    have hq : w.gdpPrefix = q := by
      have hspec := ((s.ribs u).updateFor_spec v metric q).1
      rw [hupdate] at hspec
      exact hspec
    rw [← hq, hp] at hupdate
    obtain ⟨route, hroute⟩ := exists_selected_of_reaches hreaches
    have hle := metric_le_of_reaches (h.no_static u) hroute hreaches
    -- The route of `u` was learned from `v`, so that the one of `v` is shorter.
    obtain ⟨r, hr, hrp, rfl, -⟩ := exists_of_selectedForPrefix hroute
    have hfrom := learnedFrom_of_withdraw (h.no_static u) hr hroute hupdate
    obtain ⟨metric', k', hlink', hreaches', hk'⟩ := h.stored v u r hr hfrom
    have hpos' := hpositive v u metric' hlink'
    change r.metric.value.toNat ≤ k at hle
    refine ⟨k', by omega, ?_⟩
    rw [← hrp]
    exact hreaches'

/-- Messages about some prefixes are sent. -/
theorem Inv.send (h : Inv links s)
    (hpositive : ∀ u v metric, links u v = some metric → 0 < metric.value.toNat)
    {sender receiver : RouterId} {messages : RouteMetric → List RouteUpdate}
    (hnot : s.NotSaturated links sender receiver)
    (hmessages : ∀ metric, ∀ m ∈ messages metric,
      ∃ q, (s.ribs sender).updateFor receiver metric q = m) :
  Inv links (send links s sender receiver messages)
  := by
  rw [RouterNetwork.send]
  split
  · exact h
  next metric hlink =>
  -- Each message is new or was under way before, and the new ones come last.
  have hmem : ∀ u v m, m ∈ (s.setInFlight sender receiver
      (s.inFlight sender receiver ++ messages metric)).inFlight u v →
      m ∈ s.inFlight u v ∨ u = sender ∧ v = receiver ∧ m ∈ messages metric := by
    intro u v m hm
    rw [inFlight_setInFlight] at hm
    split at hm
    · next huv =>
      rw [huv.1, huv.2]
      rcases List.mem_append.mp hm with hm | hm
      · exact .inl hm
      · exact .inr ⟨rfl, rfl, hm⟩
    · exact .inl hm
  have hsent : ∀ u v a, .advertise a ∈ (s.setInFlight sender receiver
      (s.inFlight sender receiver ++ messages metric)).inFlight u v →
      Costs links s u v a.gdpPrefix a.metric.value.toNat := by
    intro u v a ha
    rcases hmem u v _ ha with hold | ⟨rfl, rfl, hnew⟩
    · exact h.sent u v a hold
    · obtain ⟨q, hq⟩ := hmessages metric _ hnew
      obtain ⟨route, hroute, hmetric⟩ := costs_updateFor hlink hnot hq
      have hsame := ((s.ribs u).updateFor_spec v metric q).1
      rw [hq] at hsame
      obtain ⟨r, hr, hrp, rfl, -⟩ := exists_of_selectedForPrefix hroute
      exact ⟨metric, r.metric.value.toNat, hlink, ⟨r, hr, hrp.trans hsame.symm, le_rfl⟩,
        hmetric.symm⟩
  have hnew : ∀ p n, Costs links s sender receiver p n → ∀ m ∈ messages metric,
      Supersedes (s.ribs receiver) p n m := by
    intro p n hcosts m hm
    obtain ⟨q, rfl⟩ := hmessages metric m hm
    exact h.supersedes_updateFor hpositive hlink hnot hcosts q
  constructor
  · exact h.ids
  · exact h.no_static
  · exact hsent
  · exact h.stored
  · intro u v r hr hfrom m hm
    rcases hmem u v m hm with hold | ⟨rfl, rfl, hlast⟩
    · exact h.after_stored u v r hr hfrom m hold
    · exact hnew _ _ (h.stored u v r hr hfrom) m hlast
  · intro u v
    by_cases huv : u = sender ∧ v = receiver
    · obtain ⟨rfl, rfl⟩ := huv
      have hall : ∀ a m, .advertise a ∈ s.inFlight u v ++ messages metric → m ∈ messages metric →
          Supersedes (s.ribs v) a.gdpPrefix a.metric.value.toNat m := by
        intro a m ha hm
        apply hnew _ _ (hsent u v a _) m hm
        rw [inFlight_setInFlight, if_pos ⟨rfl, rfl⟩]
        exact ha
      rw [inFlight_setInFlight, if_pos ⟨rfl, rfl⟩, List.pairwise_append]
      refine ⟨h.after_sent u v, ?_, ?_⟩
      · apply List.pairwise_of_forall_mem_list
        rintro m hm m' hm' a rfl
        exact hall a m' (List.mem_append_right _ hm) hm'
      · rintro m hm m' hm' a rfl
        exact hall a m' (List.mem_append_left _ hm) hm'
    · rw [inFlight_setInFlight, if_neg huv]
      exact h.after_sent u v

/-- The routes of a router that has heard an update are better: what it forgets was longer than
another route. -/
theorem reaches_receiveUpdate {rib rib' : RouterRib} {egressPort : RoutingPortId} {k : ℕ}
    (hreceive : rib.receiveUpdate u egressPort message = .ok rib')
    (hafter : ∀ r ∈ rib.routes, r.learnedFrom = some u →
      Supersedes rib r.gdpPrefix r.metric.value.toNat message)
    (h : rib.Reaches p k) :
  rib'.Reaches p k
  := by
  obtain ⟨-, hroutes⟩ := mem_receiveUpdate hreceive
  obtain ⟨r, hr, hrp, hrk⟩ := h
  by_cases hold : isLearned message.gdpPrefix u r = true
  · obtain ⟨hsame, -, hfrom⟩ := isLearned_iff.mp hold
    have hsupersedes := hafter r hr hfrom
    cases message with
    | advertise a =>
      exact ⟨learnedRoute u egressPort a, (hroutes _).mpr (.inl rfl), hsame.symm.trans hrp,
        (hsupersedes hsame.symm).trans hrk⟩
    | withdraw w =>
      obtain ⟨k', hk', x, hx, hxp, hxk⟩ := hsupersedes hsame.symm
      refine ⟨x, (hroutes x).mpr (.inr ⟨hx, ?_⟩), hxp.trans hrp, by omega⟩
      rw [Bool.eq_false_iff]
      intro hlearned
      rw [eq_of_isLearned hr hx hold hlearned] at hk'
      omega
  · exact ⟨r, (hroutes r).mpr (.inr ⟨hr, by simpa using hold⟩), hrp, hrk⟩

/-- The first message that is under way arrives. -/
theorem Inv.deliver (h : Inv links s) {sender receiver : RouterId} {egressPort : RoutingPortId}
    {messages : List RouteUpdate} {rib' : RouterRib}
    (hinFlight : s.inFlight sender receiver = message :: messages)
    (hreceive : (s.ribs receiver).receiveUpdate sender egressPort message = .ok rib') :
  Inv links ((s.setRib receiver rib').setInFlight sender receiver messages)
  := by
  obtain ⟨hid, hroutes⟩ := mem_receiveUpdate hreceive
  have hfirst : message ∈ s.inFlight sender receiver := by
    rw [hinFlight]
    exact List.mem_cons_self
  have hsub : ∀ u v, (((s.setRib receiver rib').setInFlight sender receiver messages).inFlight
      u v).Sublist (s.inFlight u v) := by
    intro u v
    rw [inFlight_setInFlight]
    split
    · next huv =>
      rw [huv.1, huv.2, hinFlight]
      exact List.sublist_cons_self message messages
    · exact List.Sublist.refl _
  have hrib : ∀ v, ((s.setRib receiver rib').setInFlight sender receiver messages).ribs v
      = if v = receiver then rib' else s.ribs v := by
    intro v
    exact ribs_setRib s receiver v rib'
  have himproves : Improves s ((s.setRib receiver rib').setInFlight sender receiver messages) := by
    intro v p k hreaches
    rw [hrib]
    split
    · next hv =>
      rw [hv] at hreaches
      apply reaches_receiveUpdate hreceive _ hreaches
      intro r hr hfrom
      exact h.after_stored sender receiver r hr hfrom message hfirst
    · exact hreaches
  -- A route that is stored now was stored before or has just been advertised.
  have hstored : ∀ u v r,
      r ∈ (((s.setRib receiver rib').setInFlight sender receiver messages).ribs v).routes →
      r.learnedFrom = some u → r ∈ (s.ribs v).routes ∨ u = sender ∧ v = receiver ∧
        ∃ a, message = .advertise a ∧ r = learnedRoute sender egressPort a := by
    intro u v r hr hfrom
    rw [hrib] at hr
    split at hr
    · next hv =>
      rcases (hroutes r).mp hr with hlearned | ⟨hr, -⟩
      · right
        rw [(learnedRoute_spec hlearned).2.2] at hfrom
        cases hfrom
        refine ⟨rfl, hv, ?_⟩
        cases message with
        | advertise a =>
          cases hlearned
          exact ⟨a, rfl, rfl⟩
        | withdraw w => cases hlearned
      · rw [hv]
        exact .inl hr
    · exact .inl hr
  constructor
  · intro v
    rw [hrib]
    split
    · next hv =>
      rw [hv, hid]
      exact h.ids receiver
    · exact h.ids v
  · intro v r hr
    rw [hrib] at hr
    split at hr
    · rcases (hroutes r).mp hr with hlearned | ⟨hr, -⟩
      · rw [(learnedRoute_spec hlearned).2.1]
        nofun
      · exact h.no_static receiver r hr
    · exact h.no_static v r hr
  · intro u v a ha
    exact (h.sent u v a ((hsub u v).subset ha)).improve himproves
  · intro u v r hr hfrom
    rcases hstored u v r hr hfrom with hold | ⟨rfl, rfl, a, rfl, rfl⟩
    · exact (h.stored u v r hold hfrom).improve himproves
    · exact (h.sent u v a hfirst).improve himproves
  · intro u v r hr hfrom m hm
    rcases hstored u v r hr hfrom with hold | ⟨rfl, rfl, a, rfl, rfl⟩
    · exact (h.after_stored u v r hold hfrom m ((hsub u v).subset hm)).improve himproves
    · have hafter := h.after_sent u v
      rw [hinFlight, List.pairwise_cons] at hafter
      rw [inFlight_setInFlight, if_pos ⟨rfl, rfl⟩] at hm
      exact (hafter.1 m hm a rfl).improve himproves
  · intro u v
    apply ((h.after_sent u v).sublist (hsub u v)).imp
    intro m m' hm a ha
    exact (hm a ha).improve himproves

/-- Every step keeps the invariant. -/
theorem Inv.step (h : Inv links s)
    (hpositive : ∀ u v metric, links u v = some metric → 0 < metric.value.toNat) (action : Action)
    (hsendable : Sendable links s action) :
  Inv links (s.step links action)
  := by
  cases action with
  | addConnected router p egressPort => exact h.addConnected router p egressPort
  | refresh sender receiver =>
    apply h.send hpositive hsendable
    intro metric m hm
    obtain ⟨a, ha, rfl⟩ := List.mem_map.mp hm
    exact mem_advertisementsFor.mp ha
  | update sender receiver prefixes =>
    apply h.send hpositive hsendable
    intro metric m hm
    obtain ⟨q, -, rfl⟩ := List.mem_map.mp hm
    exact ⟨q, rfl⟩
  | lose sender receiver index => exact h.setInFlight sender receiver (List.eraseIdx_sublist _ _)
  | deliver sender receiver egressPort =>
    rw [RouterNetwork.step]
    split
    · exact h
    next message messages hinFlight =>
    dsimp only
    cases hreceive : (s.ribs receiver).receiveUpdate sender egressPort message with
    | ok rib' => exact h.deliver hinFlight hreceive
    | error err =>
      have hsame : s.setRib receiver (s.ribs receiver) = s := by
        rw [setRib, Function.update_eq_self]
      change Inv links ((s.setRib receiver (s.ribs receiver)).setInFlight sender receiver messages)
      rw [hsame]
      apply h.setInFlight
      rw [hinFlight]
      exact List.sublist_cons_self message messages

/-! ### No loops -/

/-- The next hop of a route has a shorter one. -/
theorem Inv.shorter (h : Inv links s)
    (hpositive : ∀ u v metric, links u v = some metric → 0 < metric.value.toNat)
    {route : SelectedRoute} (hroute : route ∈ (s.ribs v).selectedRoutes)
    (hfrom : route.learnedFrom = some u) :
  ∃ route' ∈ (s.ribs u).selectedRoutes, route'.gdpPrefix = route.gdpPrefix ∧
    route'.metric.value.toNat < route.metric.value.toNat
  := by
  obtain ⟨r, hr, hrp, rfl, -⟩ := exists_of_selectedForPrefix (mem_selectedRoutes.mp hroute)
  obtain ⟨metric, k, hlink, hreaches, hk⟩ := h.stored u v r hr hfrom
  obtain ⟨route', hroute'⟩ := exists_selected_of_reaches hreaches
  have hle := metric_le_of_reaches (h.no_static u) hroute' hreaches
  have hpos := hpositive u v metric hlink
  have hsame := gdpPrefix_of_selectedForPrefix hroute'
  refine ⟨route', ?_, hsame, ?_⟩
  · rw [mem_selectedRoutes, hsame]
    exact hroute'
  · change _ < r.metric.value.toNat
    omega

/-- Following next hops leads to shorter routes. -/
theorem Inv.shorter_of_transGen (h : Inv links s)
    (hpositive : ∀ u v metric, links u v = some metric → 0 < metric.value.toNat)
    (hhops : Relation.TransGen (NextHop s p) v u) :
  ∃ route ∈ (s.ribs v).selectedRoutes, ∃ route' ∈ (s.ribs u).selectedRoutes,
    route.gdpPrefix = p ∧ route'.gdpPrefix = p ∧
    route'.metric.value.toNat < route.metric.value.toNat
  := by
  induction hhops with
  | single hhop =>
    obtain ⟨route, hroute, hp, -, hfrom⟩ := hhop
    obtain ⟨route', hroute', hp', hlt⟩ := h.shorter hpositive hroute hfrom
    exact ⟨route, hroute, route', hroute', hp, hp'.trans hp, hlt⟩
  | tail _ hhop ih =>
    obtain ⟨route, hroute, route₁, hroute₁, hp, hp₁, hlt⟩ := ih
    obtain ⟨route₂, hroute₂, hp₂, -, hfrom⟩ := hhop
    have heq : route₁ = route₂ := by
      rw [mem_selectedRoutes, hp₁] at hroute₁
      rw [mem_selectedRoutes, hp₂, hroute₁] at hroute₂
      exact Option.some.inj hroute₂
    rw [← heq] at hfrom
    obtain ⟨route', hroute', hp', hlt'⟩ := h.shorter hpositive hroute₁ hfrom
    exact ⟨route, hroute, route', hroute', hp, hp'.trans hp₁, hlt'.trans hlt⟩

/-- In every state of a network whose links have positive metrics, the router that a selected route
was learned from has selected a shorter one for the same prefix, and following next hops never leads
back to a router. -/
theorem loopFree (links : Links)
    (hpositive : ∀ u v metric, links u v = some metric → 0 < metric.value.toNat)
    (actions : List Action) (hsendable : Machine.Along (step links) (Sendable links) new actions) :
  let s := Machine.run (step links) new actions
  (∀ router neighbor, ∀ route ∈ (s.ribs router).selectedRoutes, route.origin = .learned →
    route.learnedFrom = some neighbor →
    ∃ route' ∈ (s.ribs neighbor).selectedRoutes, route'.gdpPrefix = route.gdpPrefix ∧
      route'.metric.value.toNat < route.metric.value.toNat) ∧
  ∀ p router, ¬ Relation.TransGen (NextHop s p) router router
  := by
  intro s
  have h : Inv links s := by
    apply Machine.invariant_along _ Inv.new hsendable
    intro s action h hok
    exact h.step hpositive action hok
  constructor
  · intro router neighbor route hroute _ hfrom
    exact h.shorter hpositive hroute hfrom
  · intro p router hcycle
    obtain ⟨route, hroute, route', hroute', hp, hp', hlt⟩ := h.shorter_of_transGen hpositive hcycle
    rw [mem_selectedRoutes, hp] at hroute
    rw [mem_selectedRoutes, hp', hroute] at hroute'
    cases hroute'
    exact lt_irrefl _ hlt

/-- Two routers with links both ways.  The first gets connected to a network and tells the second,
which tells nothing back. -/
theorem loopFree_two :
  let links : Links := fun u v => if u = v then none else some ⟨100#32⟩
  let p : GdpPrefix := .host ⟨0x2001000000000000#64⟩
  let s := Machine.run (step links) new
    [.addConnected ⟨1#64⟩ p 0#16, .refresh ⟨1#64⟩ ⟨2#64⟩, .deliver ⟨1#64⟩ ⟨2#64⟩ 1#16,
      .update ⟨2#64⟩ ⟨1#64⟩ [p], .deliver ⟨2#64⟩ ⟨1#64⟩ 1#16]
  NextHop s p ⟨2#64⟩ ⟨1#64⟩ ∧ ∀ router, ¬ Relation.TransGen (NextHop s p) router router
  := by
  intro links p s
  constructor
  · refine ⟨⟨p, 1#16, .learned, ⟨100#32⟩, some ⟨1#64⟩⟩, ?_, rfl, rfl, rfl⟩
    decide +kernel
  · apply (loopFree links _ _ _).2
    · intro u v metric hmetric
      dsimp only [links] at hmetric
      split at hmetric
      · cases hmetric
      · cases hmetric
        decide
    · decide +kernel

end RouterNetwork

end SmolGnet
