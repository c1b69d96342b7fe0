import SmolGnet.Library.Machine
import SmolGnet.Routing.Adjacency
import SmolGnet.Routing.Forwarding
import SmolGnet.Routing.Refresh

/-!
# A router that learns its routes

A `DynamicP4Router` keeps the routes that it learns, and compiles its forwarding tables anew from the
selected ones whenever they change.  The routes change first.  If the tables can not be compiled, the
routes stay as they are and the tables as they were.  So the two agree after every call of a run
exactly if in every call the routes that are then selected can be installed.
-/

namespace SmolGnet

/-- The configuration for learned routes: those that are configured come first and are not
overridden. -/
def forwardingRoutes (configuredStatic : List StaticRouteConfig) (learned : List SelectedRoute) :
    Except Error (List StaticRouteConfig) :=
  learned.foldlM (fun routes route =>
    if route.origin ≠ .learned then .error .invalidField
    else if configuredStatic.any (fun configured => configured.gdpPrefix = route.gdpPrefix) then
      .ok routes
    else .ok (routes ++ [.direct route.gdpPrefix route.egressPort])) configuredStatic

/-- The forwarding plane for learned routes. -/
def buildForwarding (ports : List RouterPortConfig) (configuredStatic : List StaticRouteConfig)
    (learned : List SelectedRoute) : Except Error StaticP4Router := do
  let routes ← forwardingRoutes configuredStatic learned
  StaticP4Router.new ⟨ports, routes⟩

/-- A router that learns its routes. -/
structure DynamicP4Router where
  routerId : RouterId
  ports : List RouterPortConfig
  configuredStatic : List StaticRouteConfig
  rib : RouterRib
  forwarding : StaticP4Router

namespace DynamicP4Router

/-- The routes of a router that has learned nothing. -/
def startupRib (routerId : RouterId) (ports : List RouterPortConfig)
    (configuredStatic : List StaticRouteConfig) : RouterRib :=
  (configuredRoutes configuredStatic).foldl
    (fun rib route => rib.addStatic route.1 route.2 ⟨0#32⟩)
    ((connectedRoutes ports).foldl (fun rib route => rib.addConnected route.1 route.2)
      (RouterRib.new routerId))

/-- A router that has learned nothing. -/
def new (routerId : RouterId) (ports : List RouterPortConfig)
    (configuredStatic : List StaticRouteConfig) : Except Error DynamicP4Router := do
  let rib := startupRib routerId ports configuredStatic
  let forwarding ← buildForwarding ports configuredStatic rib.learnedFib
  return { routerId, ports, configuredStatic, rib, forwarding }

/-- Compile the forwarding tables anew. -/
def rebuildForwarding (d : DynamicP4Router) : Except Error Unit × DynamicP4Router :=
  match buildForwarding d.ports d.configuredStatic d.rib.learnedFib with
  | .error err => (.error err, d)
  | .ok forwarding => (.ok (), { d with forwarding })

/-- A neighbor has a route. -/
def receiveAdvertisement (d : DynamicP4Router) (neighbor : RouterId) (egressPort : RouterPortId)
    (advertisement : RouteAdvertise) : Except Error Unit × DynamicP4Router :=
  match d.rib.receiveAdvertisement neighbor egressPort advertisement with
  | .error err => (.error err, d)
  | .ok rib => { d with rib }.rebuildForwarding

/-- A neighbor has a route no longer. -/
def receiveWithdrawal (d : DynamicP4Router) (neighbor : RouterId) (withdrawal : RouteWithdraw) :
    Except Error Bool × DynamicP4Router :=
  match d.rib.receiveWithdrawal neighbor withdrawal with
  | .error err => (.error err, d)
  | .ok (removed, rib) =>
    if removed then
      andThen { d with rib }.rebuildForwarding (fun _ d => (.ok removed, d))
    else (.ok removed, { d with rib })

/-- A neighbor is gone.  The result is the prefixes of the routes learned from it. -/
def neighborDown (d : DynamicP4Router) (neighbor : RouterId) :
    Except Error (List GdpPrefix) × DynamicP4Router :=
  let (changed, rib) := d.rib.removeLearnedFrom neighbor
  if !changed.isEmpty then
    andThen { d with rib }.rebuildForwarding (fun _ d => (.ok changed, d))
  else (.ok changed, { d with rib })

/-- Forget what was learned from the neighbor on a link if it has not been heard of for long
enough. -/
def expireAdjacency (d : DynamicP4Router) (adjacency : RouterAdjacency) (now : Instant) :
    Except Error (List GdpPrefix) × DynamicP4Router × RouterAdjacency :=
  if adjacency.localRouterId ≠ d.routerId then (.error .invalidField, d, adjacency)
  else
    let neighbor := adjacency.neighbor.map RouterNeighbor.routerId
    let (expired, adjacency) := adjacency.expire now
    if !expired then (.ok [], d, adjacency)
    else
      match neighbor with
      | some neighbor =>
        let (result, d) := d.neighborDown neighbor
        (result, d, adjacency)
      | none => (.ok [], d, adjacency)

end DynamicP4Router

end SmolGnet
