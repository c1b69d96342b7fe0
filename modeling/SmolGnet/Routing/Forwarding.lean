import SmolGnet.Library.Octets
import SmolGnet.Routing.Types

/-!
# The forwarding plane

A `StaticP4Router` forwards packets between two ports.  It is made from a configuration of its ports
and routes, which is checked first: no address may be owned twice, no prefix may be forwarded twice,
and no route may lead to a single address that the router owns.  The entries of its forwarding table
are compiled from the configuration.
-/

namespace SmolGnet

/-- A port of a router. -/
abbrev RouterPortId := U16

/-- The number of ports of a router. -/
def routerPortCount : U16 := 2#16

/-- The address by which the router of a link is found. -/
def routerBootstrapAddress : GdpAddress := ⟨0xfe80000000000000#64⟩

/-- The configuration of a port. -/
structure RouterPortConfig where
  id : RouterPortId
  linkLocal : GdpAddress
  connectedPrefix : Option GdpPrefix
  routedAddress : Option GdpAddress
  deriving DecidableEq

/-- The configuration of a route. -/
structure StaticRouteConfig where
  gdpPrefix : GdpPrefix
  egressPort : RouterPortId
  nextHop : Option GdpAddress
  deriving DecidableEq

/-- A route without a next hop. -/
def StaticRouteConfig.direct (p : GdpPrefix) (egressPort : RouterPortId) : StaticRouteConfig where
  gdpPrefix := p
  egressPort := egressPort
  nextHop := none

/-- The configuration of a router. -/
structure RouterStartupConfig where
  ports : List RouterPortConfig
  routes : List StaticRouteConfig
  deriving DecidableEq

/-- The address is link-local. -/
def isLinkLocal (address : GdpAddress) : Bool :=
  (address.value >>> 48).setWidth 16 = 0xfe80#16

/-! ### Validation -/

/-- The addresses and prefixes that have been claimed so far. -/
structure Claimed where
  ownedAddresses : BTreeSet GdpAddress
  forwardingPrefixes : BTreeSet GdpPrefix

namespace RouterStartupConfig

/-- The port has its own number, its addresses are new, and so is its network. -/
def validatePort (c : Claimed) (entry : RouterPortConfig × ℕ) : Except Error Claimed :=
  let port := entry.1
  if port.id.toNat ≠ entry.2 then .error .invalidField
  else if !isLinkLocal port.linkLocal ∨ port.linkLocal = routerBootstrapAddress ∨
    port.linkLocal ∈ c.ownedAddresses then .error .invalidField
  else
    let owned := c.ownedAddresses.insert port.linkLocal
    match port.connectedPrefix, port.routedAddress with
    | none, none => .ok { c with ownedAddresses := owned }
    | some p, some address =>
      if isLinkLocal p.network ∨ !p.contains address ∨ isLinkLocal address ∨ address ∈ owned ∨
        p ∈ c.forwardingPrefixes then .error .invalidField
      else
        .ok
          { ownedAddresses := owned.insert address
            forwardingPrefixes := c.forwardingPrefixes.insert p }
    | _, _ => .error .invalidField

/-- The route leads to a port of the router, its prefix is new and is not an address of the router,
and its next hop is another router on the link. -/
def validateRoute (c : Claimed) (route : StaticRouteConfig) : Except Error Claimed :=
  if routerPortCount ≤ route.egressPort ∨ route.gdpPrefix ∈ c.forwardingPrefixes then
    .error .invalidField
  else
    let badNextHop :=
      match route.nextHop with
      | some nextHop => !isLinkLocal nextHop || nextHop = routerBootstrapAddress ||
        c.ownedAddresses.contains nextHop
      | none => false
    if badNextHop then .error .invalidField
    else if route.gdpPrefix.prefixLen = 64#8 ∧ (route.gdpPrefix.network = routerBootstrapAddress ∨
      route.gdpPrefix.network ∈ c.ownedAddresses) then .error .invalidField
    else .ok { c with forwardingPrefixes := c.forwardingPrefixes.insert route.gdpPrefix }

/-- What the ports claim. -/
def validatePorts (ports : List RouterPortConfig) : Except Error Claimed :=
  ports.zipIdx.foldlM validatePort { ownedAddresses := ∅, forwardingPrefixes := ∅ }

/-- The configuration can be used. -/
def validate (startup : RouterStartupConfig) : Except Error Unit :=
  if startup.ports.length ≠ routerPortCount.toNat then .error .invalidField
  else do
    let c ← validatePorts startup.ports
    let _ ← startup.routes.foldlM validateRoute c
    return ()

end RouterStartupConfig

/-! ### Compilation -/

/-- Where an entry of the forwarding table comes from. -/
inductive FibOrigin where
  | bootstrap
  | routerLocal
  | connected
  | static
  deriving DecidableEq, Repr

/-- An entry of the forwarding table.  Without a port, packets go to the router itself. -/
structure FibEntry where
  gdpPrefix : GdpPrefix
  egressPort : Option RouterPortId
  origin : FibOrigin
  deriving DecidableEq

/-- The tables of the pipeline. -/
inductive RouterTable where
  | globalLongRoutes
  | globalShortRoutes
  | localRoutes
  deriving DecidableEq, Repr

/-- What the pipeline does with a packet. -/
inductive RouterTableAction where
  | punt
  | forward
  deriving DecidableEq, Repr

/-- An entry of a table of the pipeline. -/
structure RouterTableEntry where
  table : RouterTable
  action : RouterTableAction
  key : Bytes
  params : Bytes
  deriving DecidableEq, Repr

/-- The bytes of an integer, the least significant first. -/
def toLeBytes {w : ℕ} (v : BitVec w) : Bytes :=
  (Octets.toBeBytes v).reverse

/-- The entry for packets with a global destination. -/
def programGlobal (p : GdpPrefix) (action : RouterTableAction) (params : Bytes) :
    RouterTableEntry :=
  let value := p.network.value
  let hi : U32 := (value >>> 32).setWidth 32
  if 32#8 < p.prefixLen then
    { table := .globalLongRoutes
      action
      key := toLeBytes hi ++ Octets.toBeBytes (value.setWidth 32 : U32) ++ [p.prefixLen - 32#8]
      params }
  else { table := .globalShortRoutes, action, key := Octets.toBeBytes hi ++ [p.prefixLen], params }

/-- The entry for packets with a local destination of the router. -/
def programLocalPunt (ingressPort : RouterPortId) (destination : U16) (cpuPort : U16) :
    RouterTableEntry where
  table := .localRoutes
  action := .punt
  key := toLeBytes ingressPort ++ toLeBytes destination
  params := toLeBytes cpuPort

/-- What has been compiled so far. -/
structure CompiledFib where
  pipeline : List RouterTableEntry
  fib : List FibEntry
  programmedGlobal : BTreeSet GdpPrefix

namespace CompiledFib

/-- Packets to an address of the router go to the router itself. -/
def programAddress (cpuPort : U16) (st : CompiledFib) (address : GdpAddress) :
    Except Error CompiledFib :=
  match GdpPrefix.new address 64#8 with
  | .error _ => .error .invalidField
  | .ok p =>
    if p ∈ st.programmedGlobal then .ok st
    else
      .ok
        { pipeline := st.pipeline ++ [programGlobal p .punt (toLeBytes cpuPort)]
          fib := st.fib ++ [{ gdpPrefix := p, egressPort := none, origin := .routerLocal }]
          programmedGlobal := st.programmedGlobal.insert p }

/-- The addresses of a port are those of the router. -/
def programPort (cpuPort : U16) (st : CompiledFib) (port : RouterPortConfig) :
    Except Error CompiledFib := do
  let st ← (port.linkLocal :: port.routedAddress.toList).foldlM (programAddress cpuPort) st
  let punt (address : GdpAddress) := programLocalPunt port.id (address.value.setWidth 16) cpuPort
  return { st with
    pipeline := st.pipeline ++ (port.linkLocal :: port.routedAddress.toList).map punt }

/-- Packets to a prefix are forwarded to a port. -/
def programForward (origin : FibOrigin) (st : CompiledFib) (route : GdpPrefix × RouterPortId) :
    Except Error CompiledFib :=
  if route.1 ∈ st.programmedGlobal then .error .invalidField
  else
    .ok
      { pipeline := st.pipeline ++ [programGlobal route.1 .forward (toLeBytes route.2)]
        fib := st.fib ++ [{ gdpPrefix := route.1, egressPort := some route.2, origin }]
        programmedGlobal := st.programmedGlobal.insert route.1 }

end CompiledFib

/-- The networks that ports are connected to. -/
def connectedRoutes (ports : List RouterPortConfig) : List (GdpPrefix × RouterPortId) :=
  ports.filterMap (fun port => port.connectedPrefix.map (fun p => (p, port.id)))

/-- The prefixes and ports of configured routes. -/
def configuredRoutes (routes : List StaticRouteConfig) : List (GdpPrefix × RouterPortId) :=
  routes.map (fun route => (route.gdpPrefix, route.egressPort))

/-- The tables that a configuration is compiled to. -/
def compileStartupFib (cpuPort : U16) (startup : RouterStartupConfig) : Except Error CompiledFib :=
  match GdpPrefix.new routerBootstrapAddress 64#8 with
  | .error _ => .error .invalidField
  | .ok bootstrap => do
    let st : CompiledFib :=
      { pipeline := [programGlobal bootstrap .punt (toLeBytes cpuPort)]
        fib := [{ gdpPrefix := bootstrap, egressPort := none, origin := .bootstrap }]
        programmedGlobal := (∅ : BTreeSet GdpPrefix).insert bootstrap }
    let st ← startup.ports.foldlM (CompiledFib.programPort cpuPort) st
    let st ← (connectedRoutes startup.ports).foldlM (CompiledFib.programForward .connected) st
    (configuredRoutes startup.routes).foldlM (CompiledFib.programForward .static) st

/-- A router with its tables. -/
structure StaticP4Router where
  pipeline : List RouterTableEntry
  cpuPort : U16
  startup : RouterStartupConfig
  fib : List FibEntry
  deriving DecidableEq

/-- The router for a configuration. -/
def StaticP4Router.new (startup : RouterStartupConfig) : Except Error StaticP4Router := do
  startup.validate
  let compiled ← compileStartupFib routerPortCount startup
  return { pipeline := compiled.pipeline, cpuPort := routerPortCount, startup, fib := compiled.fib }

/-! ### What is compiled -/

/-- The addresses of the router. -/
def ownAddresses (ports : List RouterPortConfig) : List GdpAddress :=
  ports.flatMap (fun port => port.linkLocal :: port.routedAddress.toList)

/-- The prefixes that are forwarded, with their ports. -/
def forwardPairs (fib : List FibEntry) : List (GdpPrefix × RouterPortId) :=
  fib.filterMap (fun entry =>
    if entry.origin = .connected ∨ entry.origin = .static then
      entry.egressPort.map (fun port => (entry.gdpPrefix, port))
    else none)

namespace CompiledFib

variable {cpuPort : U16} {st st' : CompiledFib}

/-- An address of the router is programmed, and nothing is forwarded for it. -/
theorem programAddress_spec {address : GdpAddress}
    (h : programAddress cpuPort st address = .ok st') :
  (∀ p, p ∈ st'.programmedGlobal ↔ p ∈ st.programmedGlobal ∨ p ∈ [GdpPrefix.host address]) ∧
    ∀ x, x ∈ forwardPairs st'.fib ↔ x ∈ forwardPairs st.fib ∨ x ∈ []
  := by
  rw [programAddress, GdpPrefix.new_host] at h
  dsimp only at h
  split at h
  · next hmem =>
    cases h
    refine ⟨?_, fun x => by simp⟩
    intro p
    rw [List.mem_singleton]
    constructor
    · exact .inl
    · rintro (hp | rfl)
      · exact hp
      · exact hmem
  · cases h
    refine ⟨?_, fun x => by simp [forwardPairs]⟩
    intro p
    rw [BTreeSet.mem_insert, List.mem_singleton]

/-- So are the addresses of a port. -/
theorem programPort_spec {port : RouterPortConfig} (h : programPort cpuPort st port = .ok st') :
  (∀ p, p ∈ st'.programmedGlobal ↔ p ∈ st.programmedGlobal ∨
    p ∈ (port.linkLocal :: port.routedAddress.toList).map GdpPrefix.host) ∧
  ∀ x, x ∈ forwardPairs st'.fib ↔ x ∈ forwardPairs st.fib ∨ x ∈ []
  := by
  rw [programPort, bind_eq_ok] at h
  obtain ⟨st₁, hst₁, h⟩ := h
  cases h
  constructor
  · intro p
    have hmem := mem_foldlM (V := fun st p => p ∈ st.programmedGlobal)
      (fun _ _ _ h => (programAddress_spec h).1) hst₁ p
    rw [← List.map_eq_flatMap] at hmem
    exact hmem
  · intro x
    have hmem := mem_foldlM (V := fun st x => x ∈ forwardPairs st.fib)
      (fun _ _ _ h => (programAddress_spec h).2) hst₁ x
    simpa using hmem

theorem programForward_eq_ok {origin : FibOrigin} {route : GdpPrefix × RouterPortId} :
  programForward origin st route = .ok st' ↔ route.1 ∉ st.programmedGlobal ∧
    st' =
      { pipeline := st.pipeline ++ [programGlobal route.1 .forward (toLeBytes route.2)]
        fib := st.fib ++ [{ gdpPrefix := route.1, egressPort := some route.2, origin }]
        programmedGlobal := st.programmedGlobal.insert route.1 }
  := by
  rw [programForward]
  split
  · next hmem => exact ⟨nofun, fun h => absurd hmem h.1⟩
  · next hnew => simp [hnew, eq_comm]

/-- A prefix that is forwarded is programmed, and was not before. -/
theorem programForward_spec {origin : FibOrigin} (horigin : origin = .connected ∨ origin = .static)
    {route : GdpPrefix × RouterPortId} (h : programForward origin st route = .ok st') :
  (∀ p, p ∈ st'.programmedGlobal ↔ p ∈ st.programmedGlobal ∨ p ∈ [route.1]) ∧
    (∀ x, x ∈ forwardPairs st'.fib ↔ x ∈ forwardPairs st.fib ∨ x ∈ [route]) ∧
    [route.1].Nodup ∧ ∀ p ∈ [route.1], p ∉ st.programmedGlobal
  := by
  obtain ⟨hnew, rfl⟩ := programForward_eq_ok.mp h
  refine ⟨?_, ?_, List.nodup_cons.mpr ⟨nofun, List.nodup_nil⟩, ?_⟩
  · intro p
    rw [BTreeSet.mem_insert, List.mem_singleton]
  · intro x
    rcases horigin with rfl | rfl
    · simp [forwardPairs]
    · simp [forwardPairs]
  · intro p hp
    rw [List.mem_singleton.mp hp]
    exact hnew

/-- Several prefixes are forwarded. -/
theorem foldlM_programForward_spec {origin : FibOrigin}
    (horigin : origin = .connected ∨ origin = .static) {routes : List (GdpPrefix × RouterPortId)}
    (h : routes.foldlM (programForward origin) st = .ok st') :
  (∀ p, p ∈ st'.programmedGlobal ↔ p ∈ st.programmedGlobal ∨ p ∈ routes.map Prod.fst) ∧
    (∀ x, x ∈ forwardPairs st'.fib ↔ x ∈ forwardPairs st.fib ∨ x ∈ routes) ∧
    (routes.map Prod.fst).Nodup ∧ ∀ p ∈ routes.map Prod.fst, p ∉ st.programmedGlobal
  := by
  have hprefixes : routes.flatMap (fun route => [route.1]) = routes.map Prod.fst :=
    List.map_eq_flatMap.symm
  have hroutes : routes.flatMap (fun route => [route]) = routes := by simp
  have hadds : ∀ (st : CompiledFib) (route : GdpPrefix × RouterPortId) (st' : CompiledFib),
      programForward origin st route = .ok st' → ∀ p, p ∈ st'.programmedGlobal ↔
        p ∈ st.programmedGlobal ∨ p ∈ [route.1] :=
    fun _ _ _ h => (programForward_spec horigin h).1
  refine ⟨?_, ?_, ?_⟩
  · intro p
    rw [← hprefixes]
    exact mem_foldlM (V := fun st p => p ∈ st.programmedGlobal) hadds h p
  · intro x
    have hmem := mem_foldlM (V := fun st x => x ∈ forwardPairs st.fib)
      (fun _ _ _ h => (programForward_spec horigin h).2.1) h x
    rw [hroutes] at hmem
    exact hmem
  · rw [← hprefixes]
    exact nodup_foldlM (V := fun st p => p ∈ st.programmedGlobal) hadds
      (fun _ _ _ h => (programForward_spec horigin h).2.2) h

/-- Prefixes that are new and different can be forwarded. -/
theorem foldlM_programForward_isOk {origin : FibOrigin} {routes : List (GdpPrefix × RouterPortId)}
    (hnodup : (routes.map Prod.fst).Nodup)
    (hnew : ∀ p ∈ routes.map Prod.fst, p ∉ st.programmedGlobal) :
  ∃ st', routes.foldlM (programForward origin) st = .ok st'
  := by
  induction routes generalizing st with
  | nil => exact ⟨st, rfl⟩
  | cons route routes ih =>
    rw [List.map_cons, List.nodup_cons] at hnodup
    rw [List.map_cons, List.forall_mem_cons] at hnew
    rw [List.foldlM_cons, programForward_eq_ok.mpr ⟨hnew.1, rfl⟩, ok_bind]
    apply ih hnodup.2
    intro p hp
    rw [BTreeSet.mem_insert]
    rintro (hold | rfl)
    · exact hnew.2 p hp hold
    · exact hnodup.1 hp

end CompiledFib

/-- What is programmed and what is forwarded when a configuration has been compiled. -/
theorem compileStartupFib_spec {cpuPort : U16} {startup : RouterStartupConfig} {st : CompiledFib}
    (h : compileStartupFib cpuPort startup = .ok st) :
  (∀ p, p ∈ st.programmedGlobal ↔
    p ∈ (routerBootstrapAddress :: ownAddresses startup.ports).map GdpPrefix.host ∨
    p ∈ (connectedRoutes startup.ports ++ configuredRoutes startup.routes).map Prod.fst) ∧
  (∀ x, x ∈ forwardPairs st.fib ↔
    x ∈ connectedRoutes startup.ports ++ configuredRoutes startup.routes) ∧
  ((connectedRoutes startup.ports ++ configuredRoutes startup.routes).map Prod.fst).Nodup
  := by
  rw [compileStartupFib, GdpPrefix.new_host] at h
  dsimp only at h
  rw [bind_eq_ok] at h
  obtain ⟨st₁, hports, h⟩ := h
  rw [bind_eq_ok] at h
  obtain ⟨st₂, hconnected, hstatic⟩ := h
  have hports' := mem_foldlM (V := fun st p => p ∈ st.programmedGlobal)
    (fun _ _ _ h => (CompiledFib.programPort_spec h).1) hports
  have hpairs := mem_foldlM (V := fun st x => x ∈ forwardPairs st.fib)
    (fun _ _ _ h => (CompiledFib.programPort_spec h).2) hports
  obtain ⟨hmem₂, hpairs₂, hnodup₂, -⟩ := CompiledFib.foldlM_programForward_spec (.inl rfl) hconnected
  obtain ⟨hmem₃, hpairs₃, hnodup₃, hnew₃⟩ :=
    CompiledFib.foldlM_programForward_spec (.inr rfl) hstatic
  refine ⟨?_, ?_, ?_⟩
  · intro p
    rw [hmem₃, hmem₂, hports', BTreeSet.mem_insert, List.map_cons, List.mem_cons, List.map_append,
      List.mem_append, ownAddresses, List.map_flatMap]
    simp [or_assoc]
  · intro x
    rw [hpairs₃, hpairs₂, hpairs, List.mem_append]
    simp [forwardPairs]
  · rw [List.map_append]
    apply List.nodup_append.mpr
    refine ⟨hnodup₂, hnodup₃, ?_⟩
    rintro p hp q hq rfl
    exact hnew₃ p hq ((hmem₂ p).mpr (.inr hp))

/-! ### What is accepted -/

namespace RouterStartupConfig

variable {c c' : Claimed}

/-- A port claims its addresses and its network. -/
theorem validatePort_spec {entry : RouterPortConfig × ℕ} (h : validatePort c entry = .ok c') :
  (∀ a, a ∈ c'.ownedAddresses ↔ a ∈ c.ownedAddresses ∨
    a ∈ entry.1.linkLocal :: entry.1.routedAddress.toList) ∧
  ∀ p, p ∈ c'.forwardingPrefixes ↔ p ∈ c.forwardingPrefixes ∨ p ∈ entry.1.connectedPrefix.toList
  := by
  rw [validatePort] at h
  dsimp only at h
  split at h
  · cases h
  split at h
  · cases h
  split at h
  · next hconnected hrouted =>
    cases h
    constructor
    · intro a
      rw [BTreeSet.mem_insert, hrouted, Option.toList_none, List.mem_singleton]
    · intro p
      rw [hconnected, Option.toList_none]
      simp
  · next p address hconnected hrouted =>
    split at h
    · cases h
    cases h
    constructor
    · intro a
      rw [BTreeSet.mem_insert, BTreeSet.mem_insert, hrouted, Option.toList_some, List.mem_cons,
        List.mem_singleton, or_assoc]
    · intro q
      rw [BTreeSet.mem_insert, hconnected, Option.toList_some, List.mem_singleton]
  · cases h

/-- What the ports claim. -/
theorem validatePorts_spec {ports : List RouterPortConfig} (h : validatePorts ports = .ok c) :
  (∀ a, a ∈ c.ownedAddresses ↔ a ∈ ownAddresses ports) ∧
    ∀ p, p ∈ c.forwardingPrefixes ↔ p ∈ (connectedRoutes ports).map Prod.fst
  := by
  have hports : ∀ {β : Type} (g : RouterPortConfig → List β),
      ports.zipIdx.flatMap (fun entry => g entry.1) = ports.flatMap g := by
    intro β g
    conv_rhs => rw [← List.zipIdx_map_fst 0 ports, List.flatMap_map]
  constructor
  · intro a
    have hmem := mem_foldlM (V := fun c a => a ∈ c.ownedAddresses)
      (fun _ _ _ h => (validatePort_spec h).1) h a
    rw [hports (fun port => port.linkLocal :: port.routedAddress.toList)] at hmem
    rw [hmem]
    simp [ownAddresses]
  · intro p
    have hmem := mem_foldlM (V := fun c p => p ∈ c.forwardingPrefixes)
      (fun _ _ _ h => (validatePort_spec h).2) h p
    rw [hports (fun port => port.connectedPrefix.toList)] at hmem
    rw [hmem]
    simp [connectedRoutes]

/-- The route can be added to those of a router with the given ports: it leads to one of them, and
not to a single address of the router. -/
def Installable (ports : List RouterPortConfig) (route : GdpPrefix × RouterPortId) : Prop :=
  route.2 < routerPortCount ∧
    (route.1.prefixLen = 64#8 → route.1.network ∉ routerBootstrapAddress :: ownAddresses ports)

instance (ports : List RouterPortConfig) (route : GdpPrefix × RouterPortId) :
    Decidable (Installable ports route) :=
  inferInstanceAs (Decidable (_ ∧ _))

/-- The route as one that is configured without a next hop. -/
def direct (route : GdpPrefix × RouterPortId) : StaticRouteConfig :=
  .direct route.1 route.2

theorem configuredRoutes_append (routes : List StaticRouteConfig)
    (extra : List (GdpPrefix × RouterPortId)) :
  configuredRoutes (routes ++ extra.map direct) = configuredRoutes routes ++ extra
  := by
  simp [configuredRoutes, direct, StaticRouteConfig.direct, Function.comp_def]

/-- The prefix is a single address that has been claimed. -/
def LeadsToOwn (c : Claimed) (p : GdpPrefix) : Prop :=
  p.prefixLen = 64#8 ∧ (p.network = routerBootstrapAddress ∨ p.network ∈ c.ownedAddresses)

/-- A route claims its prefix. -/
theorem validateRoute_spec {route : StaticRouteConfig} (h : validateRoute c route = .ok c') :
  c'.ownedAddresses = c.ownedAddresses ∧
    ∀ p, p ∈ c'.forwardingPrefixes ↔ p ∈ c.forwardingPrefixes ∨ p ∈ [route.gdpPrefix]
  := by
  rw [validateRoute] at h
  dsimp only at h
  repeat' split at h
  all_goals cases h
  all_goals
    refine ⟨rfl, ?_⟩
    intro p
    rw [BTreeSet.mem_insert, List.mem_singleton]

/-- A route without a next hop is accepted if it leads to a port, and its prefix is new and not an
address of the router. -/
theorem validateRoute_eq_ok (route : StaticRouteConfig) (hdirect : route.nextHop = none) :
  validateRoute c route = .ok c' ↔
    (route.egressPort < routerPortCount ∧ route.gdpPrefix ∉ c.forwardingPrefixes ∧
      ¬ LeadsToOwn c route.gdpPrefix) ∧
    c' = { c with forwardingPrefixes := c.forwardingPrefixes.insert route.gdpPrefix }
  := by
  rw [validateRoute, hdirect]
  dsimp only
  split
  · next hclaimed =>
    refine iff_of_false nofun ?_
    rintro ⟨⟨hport, hnew, -⟩, -⟩
    rcases hclaimed with h | h
    · exact absurd hport (BitVec.not_lt.mpr h)
    · exact hnew h
  next hclaimed =>
  rw [not_or, BitVec.not_le] at hclaimed
  rw [if_neg (by decide)]
  split
  · next hown => exact iff_of_false nofun (fun h => h.1.2.2 hown)
  · next hown =>
    constructor
    · intro h
      cases h
      exact ⟨⟨hclaimed.1, hclaimed.2, hown⟩, rfl⟩
    · rintro ⟨-, rfl⟩
      rfl

/-- Routes with new and different prefixes are accepted exactly if each leads to a port and not to
an address of the router. -/
theorem foldlM_validateRoute_direct {routes : List (GdpPrefix × RouterPortId)}
    (hnodup : (routes.map Prod.fst).Nodup)
    (hnew : ∀ p ∈ routes.map Prod.fst, p ∉ c.forwardingPrefixes) :
  (∃ c', (routes.map direct).foldlM validateRoute c = .ok c') ↔
    ∀ route ∈ routes, route.2 < routerPortCount ∧ ¬ LeadsToOwn c route.1
  := by
  induction routes generalizing c with
  | nil => exact iff_of_true ⟨c, rfl⟩ nofun
  | cons route routes ih =>
    rw [List.map_cons, List.nodup_cons] at hnodup
    rw [List.map_cons, List.forall_mem_cons] at hnew
    rw [List.map_cons, List.foldlM_cons, List.forall_mem_cons]
    have hnew' : ∀ p ∈ routes.map Prod.fst, p ∉ c.forwardingPrefixes.insert route.1 := by
      intro p hp
      rw [BTreeSet.mem_insert]
      rintro (hold | rfl)
      · exact hnew.2 p hp hold
      · exact hnodup.1 hp
    have hrest := ih (c := { c with forwardingPrefixes := c.forwardingPrefixes.insert route.1 })
      hnodup.2 hnew'
    constructor
    · rintro ⟨c', h⟩
      rw [bind_eq_ok] at h
      obtain ⟨c₁, hroute, hroutes⟩ := h
      obtain ⟨⟨hport, -, hown⟩, rfl⟩ := (validateRoute_eq_ok (direct route) rfl).mp hroute
      exact ⟨⟨hport, hown⟩, hrest.mp ⟨c', hroutes⟩⟩
    · rintro ⟨⟨hport, hown⟩, hroutes⟩
      obtain ⟨c', hroutes⟩ := hrest.mpr hroutes
      have hroute : validateRoute c (direct route) = .ok _ :=
        (validateRoute_eq_ok (direct route) rfl).mpr ⟨⟨hport, hnew.1, hown⟩, rfl⟩
      use c'
      rw [hroute]
      exact hroutes

/-- What is claimed when a configuration has been accepted. -/
theorem validate_eq_ok {startup : RouterStartupConfig} :
  startup.validate = .ok () ↔ startup.ports.length = routerPortCount.toNat ∧
    ∃ c c', validatePorts startup.ports = .ok c ∧ startup.routes.foldlM validateRoute c = .ok c'
  := by
  rw [validate]
  split
  · next hlen => exact iff_of_false nofun (fun h => hlen h.1)
  · next hlen =>
    rw [bind_eq_ok]
    constructor
    · rintro ⟨c, hc, h⟩
      rw [bind_eq_ok] at h
      obtain ⟨c', hc', -⟩ := h
      exact ⟨not_not.mp hlen, c, c', hc, hc'⟩
    · rintro ⟨-, c, c', hc, hc'⟩
      refine ⟨c, hc, ?_⟩
      rw [hc']
      rfl

/-- The routes claim their prefixes and no addresses. -/
theorem foldlM_validateRoute_spec {routes : List StaticRouteConfig}
    (h : routes.foldlM validateRoute c = .ok c') :
  (∀ a, a ∈ c'.ownedAddresses ↔ a ∈ c.ownedAddresses) ∧
    ∀ p, p ∈ c'.forwardingPrefixes ↔
      p ∈ c.forwardingPrefixes ∨ p ∈ (configuredRoutes routes).map Prod.fst
  := by
  constructor
  · intro a
    have hmem := mem_foldlM (V := fun c a => a ∈ c.ownedAddresses) (g := fun _ => [])
      (by
        intro c route c' h a
        rw [(validateRoute_spec h).1]
        simp) h a
    simpa using hmem
  · intro p
    have hmem := mem_foldlM (V := fun c p => p ∈ c.forwardingPrefixes)
      (fun _ _ _ h => (validateRoute_spec h).2) h p
    rw [← List.map_eq_flatMap] at hmem
    rw [hmem, configuredRoutes, List.map_map]
    rfl

end RouterStartupConfig

namespace StaticP4Router

open RouterStartupConfig

/-- A router forwards exactly its connected networks and its configured routes, each to one port. -/
theorem forwardPairs_new {startup : RouterStartupConfig} {router : StaticP4Router}
    (h : new startup = .ok router) :
  (∀ x, x ∈ forwardPairs router.fib ↔
    x ∈ connectedRoutes startup.ports ++ configuredRoutes startup.routes) ∧
  ((connectedRoutes startup.ports ++ configuredRoutes startup.routes).map Prod.fst).Nodup
  := by
  rw [new, bind_eq_ok] at h
  obtain ⟨_, -, h⟩ := h
  rw [bind_eq_ok] at h
  obtain ⟨st, hst, h⟩ := h
  cases h
  obtain ⟨-, hpairs, hnodup⟩ := compileStartupFib_spec hst
  exact ⟨hpairs, hnodup⟩

theorem new_isOk_iff {startup : RouterStartupConfig} :
  (∃ router, new startup = .ok router) ↔
    startup.validate = .ok () ∧ ∃ st, compileStartupFib routerPortCount startup = .ok st
  := by
  constructor
  · rintro ⟨router, h⟩
    rw [new, bind_eq_ok] at h
    obtain ⟨_, hvalid, h⟩ := h
    rw [bind_eq_ok] at h
    obtain ⟨st, hst, -⟩ := h
    exact ⟨hvalid, st, hst⟩
  · rintro ⟨hvalid, st, hst⟩
    rw [new, hvalid, ok_bind, hst]
    exact ⟨_, rfl⟩

/-- Further routes are compiled after the others. -/
theorem compileStartupFib_append {cpuPort : U16} {ports : List RouterPortConfig}
    {routes : List StaticRouteConfig} {extra : List (GdpPrefix × RouterPortId)}
    {st st' : CompiledFib} (h : compileStartupFib cpuPort ⟨ports, routes⟩ = .ok st)
    (hextra : extra.foldlM (CompiledFib.programForward .static) st = .ok st') :
  compileStartupFib cpuPort ⟨ports, routes ++ extra.map direct⟩ = .ok st'
  := by
  rw [compileStartupFib, GdpPrefix.new_host] at h ⊢
  dsimp only at h ⊢
  rw [bind_eq_ok] at h ⊢
  obtain ⟨st₁, hports, h⟩ := h
  refine ⟨st₁, hports, ?_⟩
  rw [bind_eq_ok] at h ⊢
  obtain ⟨st₂, hconnected, hstatic⟩ := h
  refine ⟨st₂, hconnected, ?_⟩
  rw [configuredRoutes_append, List.foldlM_append, hstatic]
  exact hextra

/-- Routes for other prefixes can be added to the configuration of a router exactly if all of them
are installable. -/
theorem new_append_iff {ports : List RouterPortConfig} {routes : List StaticRouteConfig}
    {base : StaticP4Router} (hbase : new ⟨ports, routes⟩ = .ok base)
    {extra : List (GdpPrefix × RouterPortId)} (hnodup : (extra.map Prod.fst).Nodup)
    (hnew : ∀ p ∈ extra.map Prod.fst,
      p ∉ (connectedRoutes ports ++ configuredRoutes routes).map Prod.fst) :
  (∃ router, new ⟨ports, routes ++ extra.map direct⟩ = .ok router) ↔
    ∀ route ∈ extra, Installable ports route
  := by
  obtain ⟨hvalid, st, hcompile⟩ := new_isOk_iff.mp ⟨base, hbase⟩
  obtain ⟨hlen, c₀, c, hports, hroutes⟩ := validate_eq_ok.mp hvalid
  obtain ⟨howned₀, hforward₀⟩ := validatePorts_spec hports
  obtain ⟨howned, hforward⟩ := foldlM_validateRoute_spec hroutes
  have hown : ∀ p, LeadsToOwn c p ↔
      p.prefixLen = 64#8 ∧ p.network ∈ routerBootstrapAddress :: ownAddresses ports := by
    intro p
    rw [LeadsToOwn, howned, howned₀, List.mem_cons]
  have hnew' : ∀ p ∈ extra.map Prod.fst, p ∉ c.forwardingPrefixes := by
    intro p hp
    rw [hforward, hforward₀, ← List.mem_append, ← List.map_append]
    exact hnew p hp
  have hinstallable : (∀ route ∈ extra, Installable ports route) ↔
      ∀ route ∈ extra, route.2 < routerPortCount ∧ ¬ LeadsToOwn c route.1 := by
    simp only [Installable, hown, not_and]
  rw [hinstallable, new_isOk_iff, validate_eq_ok]
  constructor
  · rintro ⟨⟨-, c₁, c', hports', hroutes'⟩, -⟩
    rw [hports] at hports'
    cases hports'
    rw [List.foldlM_append, hroutes, ok_bind] at hroutes'
    exact (foldlM_validateRoute_direct hnodup hnew').mp ⟨c', hroutes'⟩
  · intro h
    obtain ⟨c', hextra⟩ := (foldlM_validateRoute_direct hnodup hnew').mpr h
    obtain ⟨hmem, -, -⟩ := compileStartupFib_spec hcompile
    have hprogrammed : ∀ p ∈ extra.map Prod.fst, p ∉ st.programmedGlobal := by
      intro p hp
      rw [hmem]
      rintro (hhost | hconfigured)
      · obtain ⟨a, ha, rfl⟩ := List.mem_map.mp hhost
        obtain ⟨route, hroute, hrouteEq⟩ := List.mem_map.mp hp
        apply (h route hroute).2
        rw [hown, hrouteEq]
        exact ⟨rfl, ha⟩
      · exact hnew p hp hconfigured
    obtain ⟨st', hst'⟩ := CompiledFib.foldlM_programForward_isOk hnodup hprogrammed
    refine ⟨⟨hlen, c₀, c', hports, ?_⟩, st', ?_⟩
    · rw [List.foldlM_append, hroutes]
      exact hextra
    · exact compileStartupFib_append hcompile hst'

end StaticP4Router

end SmolGnet
