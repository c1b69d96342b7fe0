import SmolGnet.Library.Distance
import SmolGnet.Routing.Network

/-!
# Routes become shortest

A route that a router selects has come through routers that all have a shorter one, so that it has not
been to this router before.  For this reason no metric gets too long in a network whose links are short
enough for a route through all routers.

When a router tells a neighbor its routes and nothing gets lost from then on, the neighbor has routes
that are no longer than these and the link.  So if this happens over every link, and again as often as
there are routers, the selected routes are the shortest, and each of them continues a shortest one.
-/

namespace SmolGnet

namespace RouterNetwork

open RouterRib

variable {links : Links} {s : RouterNetwork} {u v : RouterId} {p : GdpPrefix} {n k longest : ℕ}
  {routers : Finset RouterId} {action : Action}

/-- The links join finitely many routers.  A route that visits each of them once is not too long. -/
structure Bounded (links : Links) (routers : Finset RouterId) (longest : ℕ) : Prop where
  positive : ∀ u v metric, links u v = some metric → 0 < metric.value.toNat
  joined : ∀ u v metric, links u v = some metric → u ∈ routers ∧ v ∈ routers
  le_longest : ∀ u v metric, links u v = some metric → metric.value.toNat ≤ longest
  fits : routers.card * longest < 2 ^ 32

/-! ### What one step can do -/

/-- A message is new or was under way before. -/
theorem mem_inFlight_step {message : RouteUpdate}
    (h : message ∈ (s.step links action).inFlight u v) :
  message ∈ s.inFlight u v ∨
    ∃ metric, links u v = some metric ∧ ∃ q, (s.ribs u).updateFor v metric q = message
  := by
  have hsend : ∀ sender receiver messages,
      message ∈ (send links s sender receiver messages).inFlight u v →
      message ∈ s.inFlight u v ∨ u = sender ∧ v = receiver ∧
        ∃ metric, links u v = some metric ∧ message ∈ messages metric := by
    intro sender receiver messages hm
    rw [RouterNetwork.send] at hm
    split at hm
    · exact .inl hm
    next metric hlink =>
    rw [inFlight_setInFlight] at hm
    split at hm
    · next huv =>
      obtain ⟨rfl, rfl⟩ := huv
      rcases List.mem_append.mp hm with hm | hm
      · exact .inl hm
      · exact .inr ⟨rfl, rfl, metric, hlink, hm⟩
    · exact .inl hm
  cases action with
  | addConnected router p egressPort => exact .inl h
  | refresh sender receiver =>
    rcases hsend _ _ _ h with hold | ⟨rfl, rfl, metric, hlink, hm⟩
    · exact .inl hold
    · obtain ⟨a, ha, rfl⟩ := List.mem_map.mp hm
      exact .inr ⟨metric, hlink, mem_advertisementsFor.mp ha⟩
  | update sender receiver prefixes =>
    rcases hsend _ _ _ h with hold | ⟨rfl, rfl, metric, hlink, hm⟩
    · exact .inl hold
    · obtain ⟨q, -, hq⟩ := List.mem_map.mp hm
      exact .inr ⟨metric, hlink, q, hq⟩
  | lose sender receiver index =>
    rw [RouterNetwork.step, inFlight_setInFlight] at h
    split at h
    · next huv =>
      rw [huv.1, huv.2]
      exact .inl (List.mem_of_mem_eraseIdx h)
    · exact .inl h
  | deliver sender receiver egressPort =>
    rw [RouterNetwork.step] at h
    split at h
    · exact .inl h
    next message' messages hinFlight =>
    rw [inFlight_setInFlight] at h
    split at h
    · next huv =>
      rw [huv.1, huv.2, hinFlight]
      exact .inl (List.mem_cons_of_mem message' h)
    · exact .inl h

/-- A route is new or was stored before.  A new one is that of a network the router gets connected to,
or it was advertised. -/
theorem mem_routes_step {r : RibRoute} (h : r ∈ ((s.step links action).ribs v).routes) :
  r ∈ (s.ribs v).routes ∨
    r.origin = .connected ∧ r.metric = ⟨0#32⟩ ∧
      (∃ egressPort, action = .addConnected v r.gdpPrefix egressPort) ∨
    r.origin = .learned ∧
      ∃ u a, .advertise a ∈ s.inFlight u v ∧ r.gdpPrefix = a.gdpPrefix ∧ r.metric = a.metric
  := by
  have hsend : ∀ sender receiver messages,
      (send links s sender receiver messages).ribs = s.ribs := by
    intro sender receiver messages
    rw [RouterNetwork.send]
    split
    · rfl
    · rfl
  cases action with
  | addConnected router p egressPort =>
    rw [RouterNetwork.step, ribs_setRib] at h
    split at h
    · next hv =>
      rcases mem_addConnected.mp h with rfl | ⟨h, -⟩
      · exact .inr (.inl ⟨rfl, rfl, egressPort, by rw [hv]⟩)
      · rw [hv]
        exact .inl h
    · exact .inl h
  | refresh sender receiver =>
    rw [RouterNetwork.step, hsend] at h
    exact .inl h
  | update sender receiver prefixes =>
    rw [RouterNetwork.step, hsend] at h
    exact .inl h
  | lose sender receiver index => exact .inl h
  | deliver sender receiver egressPort =>
    rw [RouterNetwork.step] at h
    split at h
    · exact .inl h
    next message messages hinFlight =>
    change r ∈ ((s.setRib receiver _).ribs v).routes at h
    rw [ribs_setRib] at h
    split at h
    · next hv =>
      cases hreceive : (s.ribs receiver).receiveUpdate sender egressPort message with
      | error err =>
        rw [hreceive] at h
        rw [hv]
        exact .inl h
      | ok rib' =>
        rw [hreceive] at h
        rcases ((mem_receiveUpdate hreceive).2 r).mp h with hlearned | ⟨h, -⟩
        · right
          right
          cases message with
          | advertise a =>
            cases hlearned
            refine ⟨rfl, sender, a, ?_, rfl, rfl⟩
            rw [hv, hinFlight]
            exact List.mem_cons_self
          | withdraw w => cases hlearned
        · rw [hv]
          exact .inl h
    · exact .inl h

/-- Routes only get better. -/
theorem Inv.improves_step (h : Inv links s) (action : Action) :
  Improves s (s.step links action)
  := by
  have hsend : ∀ sender receiver messages,
      Improves s (RouterNetwork.send links s sender receiver messages) := by
    intro sender receiver messages v p k hreaches
    rw [RouterNetwork.send]
    split
    · exact hreaches
    · exact hreaches
  cases action with
  | addConnected router q egressPort =>
    intro v p k hreaches
    rw [RouterNetwork.step, ribs_setRib]
    split
    · next hv =>
      rw [hv] at hreaches
      exact reaches_addConnected q egressPort hreaches
    · exact hreaches
  | refresh sender receiver => exact hsend _ _ _
  | update sender receiver prefixes => exact hsend _ _ _
  | lose sender receiver index =>
    intro v p k hreaches
    exact hreaches
  | deliver sender receiver egressPort =>
    intro v p k hreaches
    rw [RouterNetwork.step]
    split
    · exact hreaches
    next message messages hinFlight =>
    change ((s.setRib receiver _).ribs v).Reaches p k
    rw [ribs_setRib]
    split
    · next hv =>
      rw [hv] at hreaches
      cases hreceive : (s.ribs receiver).receiveUpdate sender egressPort message with
      | error err => exact hreaches
      | ok rib' =>
        apply reaches_receiveUpdate hreceive _ hreaches
        intro r hr hfrom
        apply h.after_stored sender receiver r hr hfrom
        rw [hinFlight]
        exact List.mem_cons_self
    · exact hreaches

/-- What is under way comes from the sender and is accepted. -/
def Genuine (s : RouterNetwork) : Prop :=
  ∀ u v, ∀ message ∈ s.inFlight u v, message.advertiser = u ∧ message.Advertisable

theorem Genuine.step (hgenuine : Genuine s) (h : Inv links s) (action : Action) :
  Genuine (s.step links action)
  := by
  intro u v message hm
  rcases mem_inFlight_step hm with hold | ⟨metric, -, q, rfl⟩
  · exact hgenuine u v message hold
  · obtain ⟨-, hadvertiser, hadvertisable⟩ := (s.ribs u).updateFor_spec v metric q
    exact ⟨hadvertiser.trans (h.ids u), hadvertisable⟩

/-! ### Metrics stay in range -/

/-- A route of the given metric has come through routers that all have a shorter one. -/
def Simple (routers : Finset RouterId) (longest : ℕ) (s : RouterNetwork) (p : GdpPrefix) (n : ℕ) :
    Prop :=
  ∃ visited ⊆ routers, n ≤ visited.card * longest ∧
    ∀ x ∈ visited, ∃ k < n, (s.ribs x).Reaches p k

/-- All routes that are stored or under way are of this kind. -/
structure AllSimple (routers : Finset RouterId) (longest : ℕ) (s : RouterNetwork) : Prop where
  stored : ∀ v, ∀ r ∈ (s.ribs v).routes,
    Simple routers longest s r.gdpPrefix r.metric.value.toNat
  sent : ∀ u v a, .advertise a ∈ s.inFlight u v →
    Simple routers longest s a.gdpPrefix a.metric.value.toNat

theorem Simple.improve {s' : RouterNetwork} (h : Simple routers longest s p n) (hs : Improves s s') :
  Simple routers longest s' p n
  := by
  obtain ⟨visited, hsub, hle, hvisited⟩ := h
  refine ⟨visited, hsub, hle, ?_⟩
  intro x hx
  obtain ⟨k, hk, hreaches⟩ := hvisited x hx
  exact ⟨k, hk, hs x p k hreaches⟩

/-- A selected route has not been to its router before, so that it may be told over a link. -/
theorem Inv.simple_tell (h : Inv links s) (hbounded : Bounded links routers longest)
    (hsimple : AllSimple routers longest s) {metric : RouteMetric} (hlink : links u v = some metric)
    {route : SelectedRoute} (hroute : (s.ribs u).selectedForPrefix p = some route) :
  Simple routers longest s p (route.metric.value.toNat + metric.value.toNat) ∧
    route.metric.value.toNat + metric.value.toNat ≤ routers.card * longest
  := by
  obtain ⟨r, hr, rfl, rfl, -⟩ := exists_of_selectedForPrefix hroute
  obtain ⟨visited, hsub, hle, hvisited⟩ := hsimple.stored u r hr
  have hpos := hbounded.positive u v metric hlink
  have hlongest := hbounded.le_longest u v metric hlink
  change _ ∧ r.metric.value.toNat + metric.value.toNat ≤ _
  have hnot : u ∉ visited := by
    intro hu
    obtain ⟨k, hk, hreaches⟩ := hvisited u hu
    have hbest : r.metric.value.toNat ≤ k := metric_le_of_reaches (h.no_static u) hroute hreaches
    omega
  have hsub' : insert u visited ⊆ routers :=
    Finset.insert_subset (hbounded.joined u v metric hlink).1 hsub
  have hle' : r.metric.value.toNat + metric.value.toNat ≤ (insert u visited).card * longest := by
    rw [Finset.card_insert_of_notMem hnot, Nat.succ_mul]
    omega
  constructor
  · refine ⟨insert u visited, hsub', hle', ?_⟩
    intro x hx
    rcases Finset.mem_insert.mp hx with rfl | hx
    · exact ⟨r.metric.value.toNat, by change _ < r.metric.value.toNat + _; omega, r, hr, rfl, le_rfl⟩
    · obtain ⟨k, hk, hreaches⟩ := hvisited x hx
      exact ⟨k, by change k < r.metric.value.toNat + _; omega, hreaches⟩
  · exact hle'.trans (Nat.mul_le_mul_right longest (Finset.card_le_card hsub'))

theorem Inv.notSaturated (h : Inv links s) (hbounded : Bounded links routers longest)
    (hsimple : AllSimple routers longest s) (u v : RouterId) :
  s.NotSaturated links u v
  := by
  intro metric hlink route hroute
  have htell := h.simple_tell hbounded hsimple hlink (mem_selectedRoutes.mp hroute)
  exact htell.2.trans_lt hbounded.fits

/-- Nothing that is sent is too long. -/
theorem Inv.sendable (h : Inv links s) (hbounded : Bounded links routers longest)
    (hsimple : AllSimple routers longest s) (action : Action) :
  Sendable links s action
  := by
  cases action with
  | refresh sender receiver => exact h.notSaturated hbounded hsimple sender receiver
  | update sender receiver prefixes => exact h.notSaturated hbounded hsimple sender receiver
  | addConnected router p egressPort => trivial
  | lose sender receiver index => trivial
  | deliver sender receiver egressPort => trivial

/-- What a router stores or sends is simple if everything was. -/
theorem AllSimple.step (hsimple : AllSimple routers longest s) (h : Inv links s)
    (hbounded : Bounded links routers longest) (action : Action) :
  AllSimple routers longest (s.step links action)
  := by
  have himproves := h.improves_step action
  constructor
  · intro v r hr
    rcases mem_routes_step hr with hold | ⟨-, hmetric, -⟩ | ⟨-, u, a, ha, hp, hmetric⟩
    · exact (hsimple.stored v r hold).improve himproves
    · rw [hmetric]
      exact ⟨∅, Finset.empty_subset routers, Nat.zero_le _, by simp⟩
    · rw [hp, hmetric]
      exact (hsimple.sent u v a ha).improve himproves
  · intro u v a ha
    rcases mem_inFlight_step ha with hold | ⟨metric, hlink, q, hq⟩
    · exact (hsimple.sent u v a hold).improve himproves
    · obtain ⟨route, hroute, hmetric⟩ :=
        costs_updateFor hlink (h.notSaturated hbounded hsimple u v) hq
      have hsame := ((s.ribs u).updateFor_spec v metric q).1
      rw [hq] at hsame
      change a.gdpPrefix = q at hsame
      rw [hmetric, hsame]
      exact (h.simple_tell hbounded hsimple hlink hroute).1.improve himproves

/-- What is known in every state of a bounded network. -/
structure BoundedInv (links : Links) (routers : Finset RouterId) (longest : ℕ) (s : RouterNetwork) :
    Prop where
  inv : Inv links s
  simple : AllSimple routers longest s
  genuine : Genuine s

theorem boundedInv_new :
  BoundedInv links routers longest new
  := by
  constructor
  · exact Inv.new
  · constructor
    · intro v r hr
      cases hr
    · intro u v a ha
      cases ha
  · intro u v message hm
    cases hm

theorem boundedInv_step (hbounded : Bounded links routers longest) (s : RouterNetwork)
    (action : Action) (h : BoundedInv links routers longest s) :
  BoundedInv links routers longest (s.step links action)
  := by
  constructor
  · exact h.inv.step hbounded.positive action (h.inv.sendable hbounded h.simple action)
  · exact h.simple.step h.inv hbounded action
  · exact h.genuine.step h.inv action

theorem BoundedInv.run (hbounded : Bounded links routers longest) (actions : List Action)
    (h : BoundedInv links routers longest s) :
  BoundedInv links routers longest (Machine.run (step links) s actions)
  := Machine.invariant_run (boundedInv_step hbounded) h actions

/-- In a network whose links are short enough for a route through all routers, no route ever gets too
long for its metric: in every state of every run each selected route can be told over each link and is
not longer than such a route. -/
theorem never_saturates (links : Links) (routers : Finset RouterId) (longest : ℕ)
    (hbounded : Bounded links routers longest) (actions : List Action) :
  let s := Machine.run (step links) new actions
  Machine.Along (step links) (Sendable links) new actions ∧
  ∀ u v metric, links u v = some metric → ∀ route ∈ (s.ribs u).selectedRoutes,
    (route.metric.saturatingAdd metric).value.toNat
      = route.metric.value.toNat + metric.value.toNat ∧
    route.metric.value.toNat + metric.value.toNat ≤ routers.card * longest
  := by
  intro s
  constructor
  · apply Machine.along_of_invariant _ (boundedInv_step hbounded) boundedInv_new
    intro s action h
    exact h.inv.sendable hbounded h.simple action
  · intro u v metric hlink route hroute
    have h : BoundedInv links routers longest s := boundedInv_new.run hbounded actions
    have htell := h.inv.simple_tell hbounded h.simple hlink (mem_selectedRoutes.mp hroute)
    exact ⟨toNat_saturatingAdd (htell.2.trans_lt hbounded.fits), htell.2⟩

/-- Two routers with links both ways. -/
def twoLinks : Links := fun u v =>
  if u = ⟨1#64⟩ ∧ v = ⟨2#64⟩ ∨ u = ⟨2#64⟩ ∧ v = ⟨1#64⟩ then some ⟨100#32⟩ else none

theorem of_twoLinks {metric : RouteMetric} (h : twoLinks u v = some metric) :
  metric = ⟨100#32⟩ ∧ (u = ⟨1#64⟩ ∧ v = ⟨2#64⟩ ∨ u = ⟨2#64⟩ ∧ v = ⟨1#64⟩)
  := by
  rw [twoLinks] at h
  split at h
  · next huv =>
    cases h
    exact ⟨rfl, huv⟩
  · cases h

theorem bounded_twoLinks :
  Bounded twoLinks {⟨1#64⟩, ⟨2#64⟩} 100
  := by
  constructor
  · intro u v metric h
    rw [(of_twoLinks h).1]
    decide
  · intro u v metric h
    rcases (of_twoLinks h).2 with ⟨rfl, rfl⟩ | ⟨rfl, rfl⟩
    · decide
    · decide
  · intro u v metric h
    rw [(of_twoLinks h).1]
    decide
  · decide

/-- The second router hears of a network that the first is connected to, and could pass it on. -/
theorem never_saturates_two :
  let s := Machine.run (step twoLinks) new
    [.addConnected ⟨1#64⟩ (.host ⟨0x2001000000000000#64⟩) 0#16, .refresh ⟨1#64⟩ ⟨2#64⟩,
      .deliver ⟨1#64⟩ ⟨2#64⟩ 1#16]
  ((⟨100#32⟩ : RouteMetric).saturatingAdd ⟨100#32⟩).value.toNat = 200 ∧
  ∀ route ∈ (s.ribs ⟨2#64⟩).selectedRoutes, route.metric.value.toNat + 100 ≤ 200
  := by
  intro s
  have h := (never_saturates twoLinks _ 100 bounded_twoLinks
    [.addConnected ⟨1#64⟩ (.host ⟨0x2001000000000000#64⟩) 0#16, .refresh ⟨1#64⟩ ⟨2#64⟩,
      .deliver ⟨1#64⟩ ⟨2#64⟩ 1#16]).2 ⟨2#64⟩ ⟨1#64⟩ ⟨100#32⟩ (by decide)
  constructor
  · exact (h ⟨.host ⟨0x2001000000000000#64⟩, 1#16, .learned, ⟨100#32⟩, some ⟨1#64⟩⟩
      (by decide +kernel)).1
  · intro route hroute
    exact (h route hroute).2

/-! ### What a neighbor hears -/

/-- `v` has a route of metric at most `n`, or an advertisement of one is under way from `u`. -/
def Coming (s : RouterNetwork) (u v : RouterId) (p : GdpPrefix) (n : ℕ) : Prop :=
  (∃ a, .advertise a ∈ s.inFlight u v ∧ a.gdpPrefix = p ∧ a.metric.value.toNat ≤ n) ∨
    (s.ribs v).Reaches p n

/-- What is under way stays so until it is lost or delivered. -/
theorem inFlight_step {message : RouteUpdate} (hm : message ∈ s.inFlight u v)
    (hlose : ∀ index, action ≠ .lose u v index) :
  message ∈ (s.step links action).inFlight u v ∨
    ∃ egressPort messages, action = .deliver u v egressPort ∧ s.inFlight u v = message :: messages
  := by
  have hsend : ∀ sender receiver messages,
      message ∈ (send links s sender receiver messages).inFlight u v := by
    intro sender receiver messages
    rw [RouterNetwork.send]
    split
    · exact hm
    rw [inFlight_setInFlight]
    split
    · next huv =>
      rw [huv.1, huv.2] at hm
      exact List.mem_append_left _ hm
    · exact hm
  cases action with
  | addConnected router p egressPort => exact .inl hm
  | refresh sender receiver => exact .inl (hsend _ _ _)
  | update sender receiver prefixes => exact .inl (hsend _ _ _)
  | lose sender receiver index =>
    left
    rw [RouterNetwork.step, inFlight_setInFlight, if_neg]
    · exact hm
    · rintro ⟨rfl, rfl⟩
      exact hlose index rfl
  | deliver sender receiver egressPort =>
    rw [RouterNetwork.step]
    by_cases huv : u = sender ∧ v = receiver
    · obtain ⟨rfl, rfl⟩ := huv
      split
      · exact .inl hm
      next message' messages hinFlight =>
      rw [hinFlight] at hm
      rcases List.mem_cons.mp hm with rfl | hm
      · exact .inr ⟨egressPort, messages, rfl, hinFlight⟩
      · left
        rw [inFlight_setInFlight, if_pos ⟨rfl, rfl⟩]
        exact hm
    · left
      split
      · exact hm
      · rw [inFlight_setInFlight, if_neg huv]
        exact hm

/-- A route is coming until it has come, unless a message gets lost. -/
theorem Coming.step (hcoming : Coming s u v p n) (h : Inv links s) (hgenuine : Genuine s)
    (hne : u ≠ v) (hlose : ∀ index, action ≠ .lose u v index) :
  Coming (s.step links action) u v p n
  := by
  rcases hcoming with ⟨a, ha, hp, hn⟩ | hreaches
  · rcases inFlight_step ha hlose with ha' | ⟨egressPort, messages, rfl, hinFlight⟩
    · exact .inl ⟨a, ha', hp, hn⟩
    · right
      obtain ⟨hadvertiser, hadvertisable⟩ := hgenuine u v _ ha
      have hid : u ≠ (s.ribs v).localRouterId := by
        rw [h.ids]
        exact hne
      obtain ⟨rib', hreceive⟩ := receiveUpdate_isOk (s.ribs v) egressPort hid hadvertiser hadvertisable
      have hrib : ((s.step links (.deliver u v egressPort)).ribs v) = rib' := by
        rw [RouterNetwork.step, hinFlight]
        change (s.setRib v _).ribs v = rib'
        rw [ribs_setRib, if_pos rfl, hreceive]
        rfl
      rw [hrib]
      exact ⟨learnedRoute u egressPort a, ((mem_receiveUpdate hreceive).2 _).mpr (.inl rfl), hp, hn⟩
  · exact .inr (h.improves_step action v p n hreaches)

/-- When a router tells a neighbor its routes, a route that is no longer than each of them and the link
is coming. -/
theorem Inv.coming_refresh (h : Inv links s) {metric : RouteMetric} (hlink : links u v = some metric)
    (hnot : s.NotSaturated links u v) (hreaches : (s.ribs u).Reaches p k) :
  Coming (s.step links (.refresh u v)) u v p (k + metric.value.toNat)
  := by
  obtain ⟨route, hroute⟩ := exists_selected_of_reaches hreaches
  have hle := metric_le_of_reaches (h.no_static u) hroute hreaches
  cases hupdate : (s.ribs u).updateFor v metric p with
  | advertise a =>
    left
    obtain ⟨route', hroute', hmetric⟩ := costs_updateFor hlink hnot hupdate
    rw [hroute] at hroute'
    cases hroute'
    have hp := ((s.ribs u).updateFor_spec v metric p).1
    rw [hupdate] at hp
    refine ⟨a, ?_, hp, by omega⟩
    rw [RouterNetwork.step, RouterNetwork.send, hlink]
    dsimp only
    rw [inFlight_setInFlight, if_pos ⟨rfl, rfl⟩]
    apply List.mem_append_right
    exact List.mem_map_of_mem (mem_advertisementsFor.mpr ⟨p, hupdate⟩)
  | withdraw w =>
    -- The route was learned from `v`, which has a shorter one.
    obtain ⟨r, hr, rfl, rfl, -⟩ := exists_of_selectedForPrefix hroute
    have hfrom := learnedFrom_of_withdraw (h.no_static u) hr hroute hupdate
    obtain ⟨metric', k', -, hreaches', hk'⟩ := h.stored v u r hr hfrom
    change r.metric.value.toNat ≤ k at hle
    right
    apply h.improves_step
    obtain ⟨x, hx, hxp, hxk⟩ := hreaches'
    exact ⟨x, hx, hxp, by omega⟩

/-! ### Rounds -/

/-- In this part of a run `v` hears all routes of `u`: `u` tells them, no message to `v` gets lost from
then on, and all arrive. -/
def Hears (links : Links) (s : RouterNetwork) (actions : List Action) (u v : RouterId) : Prop :=
  ∃ before after, actions = before ++ .refresh u v :: after ∧
    (∀ index, .lose u v index ∉ after) ∧ (Machine.run (step links) s actions).inFlight u v = []

/-- Every router hears from its neighbors. -/
def Round (links : Links) (s : RouterNetwork) (actions : List Action) : Prop :=
  ∀ u v metric, links u v = some metric → Hears links s actions u v

/-- The weights of the links. -/
def weights (links : Links) (u v : RouterId) : Option ℕ :=
  (links u v).map (fun metric => metric.value.toNat)

theorem weights_eq {metric : RouteMetric} (hlink : links u v = some metric) :
  weights links u v = some metric.value.toNat
  := by
  rw [weights, hlink]
  rfl

theorem exists_of_weights {w : ℕ} (h : weights links u v = some w) :
  ∃ metric, links u v = some metric ∧ metric.value.toNat = w
  := by
  rw [weights, Option.map_eq_some_iff] at h
  exact h

/-- The router gets connected to the network. -/
def Connects (actions : List Action) (p : GdpPrefix) (router : RouterId) : Prop :=
  ∃ egressPort, .addConnected router p egressPort ∈ actions

theorem BoundedInv.reaches_run (hbounded : Bounded links routers longest)
    (h : BoundedInv links routers longest s) (actions : List Action) (hreaches : (s.ribs v).Reaches p k) :
  ((Machine.run (step links) s actions).ribs v).Reaches p k
  := by
  induction actions generalizing s with
  | nil => exact hreaches
  | cons action actions ih =>
    exact ih (boundedInv_step hbounded s action h) (h.inv.improves_step action v p k hreaches)

/-- What is coming stays so as long as no message gets lost. -/
theorem BoundedInv.coming_run (hbounded : Bounded links routers longest)
    (h : BoundedInv links routers longest s) (hne : u ≠ v) {actions : List Action}
    (hlose : ∀ index, .lose u v index ∉ actions) (hcoming : Coming s u v p n) :
  Coming (Machine.run (step links) s actions) u v p n
  := by
  induction actions generalizing s with
  | nil => exact hcoming
  | cons action actions ih =>
    apply ih (boundedInv_step hbounded s action h)
    · intro index hmem
      exact hlose index (List.mem_cons_of_mem action hmem)
    · apply hcoming.step h.inv h.genuine hne
      rintro index rfl
      exact hlose index List.mem_cons_self

/-- Who hears from a neighbor has routes that are no longer than the neighbor's and the link. -/
theorem BoundedInv.reaches_hears (hbounded : Bounded links routers longest)
    (h : BoundedInv links routers longest s) {metric : RouteMetric} (hlink : links u v = some metric)
    {actions : List Action} (hhears : Hears links s actions u v) (hreaches : (s.ribs u).Reaches p k) :
  ((Machine.run (step links) s actions).ribs v).Reaches p (k + metric.value.toNat)
  := by
  by_cases hne : u = v
  · rw [← hne]
    obtain ⟨r, hr, hp, hk⟩ := h.reaches_run hbounded actions hreaches
    exact ⟨r, hr, hp, by omega⟩
  obtain ⟨before, after, rfl, hlose, hempty⟩ := hhears
  have hbefore := h.run hbounded before
  have hcoming := hbefore.inv.coming_refresh hlink
    (hbefore.inv.notSaturated hbounded hbefore.simple u v) (h.reaches_run hbounded before hreaches)
  have hafter := (boundedInv_step hbounded _ (.refresh u v) hbefore).coming_run hbounded hne hlose
    hcoming
  rw [Machine.run_append, Machine.run_cons] at hempty ⊢
  rcases hafter with ⟨a, ha, -⟩ | hreaches
  · rw [hempty] at ha
    cases ha
  · exact hreaches

/-- After as many rounds as a walk has links, the router at its end has a route that costs no more. -/
theorem reaches_of_walk (hbounded : Bounded links routers longest)
    (h : BoundedInv links routers longest s) {rounds : List (List Action)}
    (hrounds : Machine.Along (Machine.run (step links)) (Round links) s rounds)
    (hwalk : WeightedGraph.Walk (weights links) (fun u => (s.ribs u).Reaches p 0) v n k)
    (hn : n ≤ rounds.length) :
  ((Machine.run (Machine.run (step links)) s rounds).ribs v).Reaches p k
  := by
  induction rounds using List.reverseRecOn generalizing v n k with
  | nil =>
    cases hwalk with
    | source hsource => exact hsource
    | edge => simp at hn
  | append_singleton rounds round ih =>
    rw [Machine.along_append] at hrounds
    obtain ⟨hrounds, hround, -⟩ := hrounds
    have hbefore : BoundedInv links routers longest (Machine.run (Machine.run (step links)) s rounds) :=
      Machine.invariant_run (fun s round h => h.run hbounded round) h rounds
    rw [Machine.run_append, Machine.run_cons, Machine.run_nil]
    cases hwalk with
    | source hsource =>
      exact hbefore.reaches_run hbounded round (ih hrounds (.source hsource) (Nat.zero_le _))
    | edge hwalk hedge =>
      obtain ⟨metric, hlink, rfl⟩ := exists_of_weights hedge
      rw [List.length_append, List.length_singleton] at hn
      exact hbefore.reaches_hears hbounded hlink (hround _ _ metric hlink)
        (ih hrounds hwalk (by omega))

/-- Each stored route costs at least as much as some walk from a router that is connected to the
network. -/
theorem Inv.exists_walk (h : Inv links s) {actions : List Action}
    (hpositive : ∀ u v metric, links u v = some metric → 0 < metric.value.toNat)
    (hconnects : ∀ v, ∀ r ∈ (s.ribs v).routes, r.origin = .connected →
      Connects actions r.gdpPrefix v)
    (hreaches : (s.ribs v).Reaches p k) :
  ∃ k' ≤ k, k' ∈ WeightedGraph.costs (weights links) (Connects actions p) v
  := by
  induction k using Nat.strong_induction_on generalizing v with
  | _ k ih =>
  obtain ⟨r, hr, rfl, hk⟩ := hreaches
  have hformed := (s.ribs v).formed r hr
  cases horigin : r.origin with
  | connected => exact ⟨0, Nat.zero_le k, 0, .source (hconnects v r hr horigin)⟩
  | static => exact absurd horigin (h.no_static v r hr)
  | escape =>
    rw [RibRoute.Formed, horigin] at hformed
    cases hformed
  | learned =>
    rw [RibRoute.Formed, horigin] at hformed
    obtain ⟨u, hfrom⟩ := Option.ne_none_iff_exists'.mp hformed
    obtain ⟨metric, k', hlink, hreaches, hk'⟩ := h.stored u v r hr hfrom
    have hpos := hpositive u v metric hlink
    obtain ⟨k₁, hle, n, hwalk⟩ := ih k' (by omega) hreaches
    exact ⟨k₁ + metric.value.toNat, by omega, n + 1, hwalk.edge (weights_eq hlink)⟩

/-- A router with a route to a network it is connected to has got connected to it. -/
theorem connects_run (links : Links) (actions : List Action) :
  ∀ v, ∀ r ∈ ((Machine.run (step links) new actions).ribs v).routes, r.origin = .connected →
    Connects actions r.gdpPrefix v
  := by
  apply Machine.history_run (P := fun past (s : RouterNetwork) => ∀ v, ∀ r ∈ (s.ribs v).routes,
    r.origin = .connected → Connects past r.gdpPrefix v)
  · intro past s action h v r hr horigin
    rcases mem_routes_step hr with hold | ⟨-, -, egressPort, rfl⟩ | ⟨hlearned, -⟩
    · obtain ⟨egressPort, hmem⟩ := h v r hold horigin
      exact ⟨egressPort, List.mem_append_left _ hmem⟩
    · exact ⟨egressPort, List.mem_append_right _ List.mem_cons_self⟩
    · rw [hlearned] at horigin
      cases horigin
  · intro v r hr
    cases hr

/-- A router that has got connected to a network reaches it at no cost. -/
theorem reaches_of_connects (hbounded : Bounded links routers longest) {actions : List Action}
    (h : Connects actions p v) :
  ((Machine.run (step links) new actions).ribs v).Reaches p 0
  := by
  obtain ⟨egressPort, hmem⟩ := h
  obtain ⟨before, after, rfl⟩ := List.append_of_mem hmem
  have hbefore : BoundedInv links routers longest (Machine.run (step links) new before) :=
    boundedInv_new.run hbounded before
  rw [Machine.run_append, Machine.run_cons]
  apply (boundedInv_step hbounded _ _ hbefore).reaches_run hbounded after
  rw [RouterNetwork.step, ribs_setRib, if_pos rfl]
  exact ⟨_, mem_addConnected.mpr (.inl rfl), rfl, le_rfl⟩

/-- The selected route has the least metric for which there is a route. -/
theorem Inv.selected_iff_isLeast (h : Inv links s) :
  (∃ route ∈ (s.ribs v).selectedRoutes, route.gdpPrefix = p ∧ route.metric.value.toNat = k) ↔
    IsLeast { k | (s.ribs v).Reaches p k } k
  := by
  constructor
  · rintro ⟨route, hroute, rfl, rfl⟩
    rw [mem_selectedRoutes] at hroute
    obtain ⟨r, hr, hp, heq, -⟩ := exists_of_selectedForPrefix hroute
    constructor
    · exact ⟨r, hr, hp, by rw [heq]; exact le_rfl⟩
    · intro k hreaches
      exact metric_le_of_reaches (h.no_static v) hroute hreaches
  · rintro ⟨hreaches, hleast⟩
    obtain ⟨route, hroute⟩ := exists_selected_of_reaches hreaches
    have hle := metric_le_of_reaches (h.no_static v) hroute hreaches
    obtain ⟨r, hr, hp, rfl, -⟩ := exists_of_selectedForPrefix hroute
    have hge : k ≤ r.metric.value.toNat := hleast ⟨r, hr, hp, le_rfl⟩
    refine ⟨.ofRibRoute r, ?_, hp, le_antisymm hle hge⟩
    rw [mem_selectedRoutes]
    change (s.ribs v).selectedForPrefix r.gdpPrefix = _
    rw [hp]
    exact hroute

/-- After any run, with messages lost and routes out of date, as many rounds as there are routers but
one make the selected routes for a prefix the shortest, unless further routers get connected to it: a
router has selected a route exactly if some walk over the links leads to it from a connected router,
and its metric is what the cheapest of these walks costs.  Each selected route that was learned
continues the one that its neighbor has selected. -/
theorem converges (links : Links) (routers : Finset RouterId) (longest : ℕ)
    (hbounded : Bounded links routers longest) (p : GdpPrefix) (actions : List Action)
    (rounds : List (List Action)) (hlength : routers.card ≤ rounds.length + 1)
    (hrounds : Machine.Along (Machine.run (step links)) (Round links)
      (Machine.run (step links) new actions) rounds)
    (hconnects : ∀ router, ¬ Connects rounds.flatten p router) :
  let s := Machine.run (step links) new (actions ++ rounds.flatten)
  (∀ router k, (∃ route ∈ (s.ribs router).selectedRoutes,
      route.gdpPrefix = p ∧ route.metric.value.toNat = k) ↔
    WeightedGraph.Distance (weights links) (Connects actions p) router k) ∧
  ∀ router neighbor, ∀ route ∈ (s.ribs router).selectedRoutes, route.gdpPrefix = p →
    route.learnedFrom = some neighbor →
    ∃ metric, links neighbor router = some metric ∧
      ∃ route' ∈ (s.ribs neighbor).selectedRoutes, route'.gdpPrefix = p ∧
        route'.metric.value.toNat + metric.value.toNat = route.metric.value.toNat
  := by
  intro s
  have hinv : BoundedInv links routers longest s := boundedInv_new.run hbounded _
  have hconnects' : Connects (actions ++ rounds.flatten) p = Connects actions p := by
    funext router
    apply propext
    constructor
    · rintro ⟨egressPort, hmem⟩
      rcases List.mem_append.mp hmem with hmem | hmem
      · exact ⟨egressPort, hmem⟩
      · exact absurd ⟨egressPort, hmem⟩ (hconnects router)
    · rintro ⟨egressPort, hmem⟩
      exact ⟨egressPort, List.mem_append_left _ hmem⟩
  have hpositive : ∀ u v w, weights links u v = some w → 0 < w := by
    intro u v w hweight
    obtain ⟨metric, hlink, rfl⟩ := exists_of_weights hweight
    exact hbounded.positive u v metric hlink
  have hjoined : ∀ u v w, weights links u v = some w → u ∈ routers ∧ v ∈ routers := by
    intro u v w hweight
    obtain ⟨metric, hlink, -⟩ := exists_of_weights hweight
    exact hbounded.joined u v metric hlink
  -- No route is shorter than the cheapest walk.
  have hwalk : ∀ router k, (s.ribs router).Reaches p k →
      ∃ k' ≤ k, k' ∈ WeightedGraph.costs (weights links) (Connects actions p) router := by
    intro router k hreaches
    rw [← hconnects']
    exact hinv.inv.exists_walk hbounded.positive (connects_run links _) hreaches
  -- The cheapest walk has fewer links than there are routers.
  have hreaches : ∀ router k, k ∈ WeightedGraph.costs (weights links) (Connects actions p) router →
      ∃ k' ≤ k, (s.ribs router).Reaches p k' := by
    rintro router k ⟨n, hk⟩
    obtain ⟨k', hle, hdistance⟩ := hk.exists_distance
    obtain ⟨n', hn', hk'⟩ := hdistance.exists_walk hpositive hjoined
    have hwalk' := hk'.mono (fun u hu => reaches_of_connects hbounded hu)
    refine ⟨k', hle, ?_⟩
    change ((Machine.run (step links) new _).ribs router).Reaches p k'
    rw [Machine.run_append, Machine.run_flatten]
    exact reaches_of_walk hbounded (boundedInv_new.run hbounded actions) hrounds hwalk' (by omega)
  have hselected : ∀ router k, (∃ route ∈ (s.ribs router).selectedRoutes,
      route.gdpPrefix = p ∧ route.metric.value.toNat = k) ↔
      WeightedGraph.Distance (weights links) (Connects actions p) router k := by
    intro router k
    rw [hinv.inv.selected_iff_isLeast]
    exact WeightedGraph.isLeast_iff_distance (hwalk router) (hreaches router)
  refine ⟨hselected, ?_⟩
  intro router neighbor route hroute hp hfrom
  obtain ⟨r, hr, hrp, rfl, -⟩ := exists_of_selectedForPrefix (mem_selectedRoutes.mp hroute)
  change r.gdpPrefix = p at hp
  obtain ⟨metric, k, hlink, hk, hcost⟩ := hinv.inv.stored neighbor router r hr hfrom
  rw [hp] at hk
  obtain ⟨route', hroute'⟩ := exists_selected_of_reaches hk
  have hp' := gdpPrefix_of_selectedForPrefix hroute'
  have hle := metric_le_of_reaches (hinv.inv.no_static neighbor) hroute' hk
  have hmem : route' ∈ (s.ribs neighbor).selectedRoutes := by
    rw [mem_selectedRoutes, hp']
    exact hroute'
  obtain ⟨⟨n, hshortest⟩, -⟩ := (hselected neighbor _).mp ⟨route', hmem, hp', rfl⟩
  obtain ⟨-, hleast⟩ := (hselected router _).mp ⟨.ofRibRoute r, hroute, hp, rfl⟩
  have hge := hleast ⟨n + 1, hshortest.edge (weights_eq hlink)⟩
  change r.metric.value.toNat ≤ _ at hge
  refine ⟨metric, hlink, route', hmem, hp', ?_⟩
  change _ = r.metric.value.toNat
  omega

/-- The first advertisement gets lost.  One round later the second router has the shortest route. -/
theorem converges_two :
  let p : GdpPrefix := .host ⟨0x2001000000000000#64⟩
  let actions : List Action :=
    [.addConnected ⟨1#64⟩ p 0#16, .refresh ⟨1#64⟩ ⟨2#64⟩, .lose ⟨1#64⟩ ⟨2#64⟩ 0]
  let s := Machine.run (step twoLinks) new
    (actions ++ [.refresh ⟨1#64⟩ ⟨2#64⟩, .deliver ⟨1#64⟩ ⟨2#64⟩ 1#16, .refresh ⟨2#64⟩ ⟨1#64⟩])
  WeightedGraph.Distance (weights twoLinks) (Connects actions p) ⟨2#64⟩ 100 ∧
  ∃ route ∈ (s.ribs ⟨2#64⟩).selectedRoutes, route.gdpPrefix = p ∧ route.metric.value.toNat = 100
  := by
  intro p actions s
  have h := (converges twoLinks _ 100 bounded_twoLinks p actions
    [[.refresh ⟨1#64⟩ ⟨2#64⟩, .deliver ⟨1#64⟩ ⟨2#64⟩ 1#16, .refresh ⟨2#64⟩ ⟨1#64⟩]]
    (by decide) ⟨?_, trivial⟩ ?_).1 ⟨2#64⟩ 100
  · have hselected : ∃ route ∈ (s.ribs ⟨2#64⟩).selectedRoutes,
        route.gdpPrefix = p ∧ route.metric.value.toNat = 100 :=
      ⟨⟨p, 1#16, .learned, ⟨100#32⟩, some ⟨1#64⟩⟩, by decide +kernel, rfl, rfl⟩
    exact ⟨h.mp hselected, hselected⟩
  · intro u v metric hlink
    rcases (of_twoLinks hlink).2 with ⟨rfl, rfl⟩ | ⟨rfl, rfl⟩
    · refine ⟨[], _, rfl, by simp, ?_⟩
      decide +kernel
    · refine ⟨[.refresh ⟨1#64⟩ ⟨2#64⟩, .deliver ⟨1#64⟩ ⟨2#64⟩ 1#16], _, rfl, by simp, ?_⟩
      decide +kernel
  · rintro router ⟨egressPort, hmem⟩
    simp at hmem

end RouterNetwork

end SmolGnet
