import SmolGnet.Routing.Types
import SmolGnet.Time

/-!
# Neighbors

A `RouterAdjacency` keeps what a router knows of the router at the other end of one link.  A greeting
brings the neighbor up, and it goes down when it has not been heard of for the time that it has
announced.
-/

namespace SmolGnet

/-- Whether a neighbor can be reached. -/
inductive NeighborState where
  | down
  | up
  deriving DecidableEq, Repr

/-- The router at the other end of a link. -/
structure RouterNeighbor where
  routerId : RouterId
  remoteLinkId : LinkId
  metric : RouteMetric
  holdTimeMs : U32
  lastSeen : Instant
  state : NeighborState
  deriving DecidableEq, Repr

/-- One end of a link between routers. -/
structure RouterAdjacency where
  localRouterId : RouterId
  localLinkId : LinkId
  localMetric : RouteMetric
  localHoldTimeMs : U32
  neighbor : Option RouterNeighbor
  deriving DecidableEq, Repr

namespace RouterAdjacency

/-- A link whose other end is not known. -/
def new (localRouterId : RouterId) (localLinkId : LinkId) (localMetric : RouteMetric)
    (localHoldTimeMs : U32) : Except Error RouterAdjacency :=
  if localHoldTimeMs = 0#32 then .error .invalidField
  else .ok { localRouterId, localLinkId, localMetric, localHoldTimeMs, neighbor := none }

/-- The state of the neighbor. -/
def state (adjacency : RouterAdjacency) : NeighborState :=
  match adjacency.neighbor with
  | some neighbor => neighbor.state
  | none => .down

/-- The greeting of this router. -/
def localHello (adjacency : RouterAdjacency) : RouterHello where
  routerId := adjacency.localRouterId
  linkId := adjacency.localLinkId
  holdTimeMs := adjacency.localHoldTimeMs
  metric := adjacency.localMetric

/-- The other end is the router that has sent a greeting. -/
def acceptPeer (adjacency : RouterAdjacency) (now : Instant) (peer : RouterHello) :
    Except Error RouterAdjacency :=
  if peer.routerId = adjacency.localRouterId ∨ peer.holdTimeMs = 0#32 then .error .invalidField
  else
    .ok { adjacency with
      neighbor := some
        { routerId := peer.routerId
          remoteLinkId := peer.linkId
          metric := peer.metric
          holdTimeMs := peer.holdTimeMs
          lastSeen := now
          state := .up } }

/-- A message arrives on the link.  A greeting is answered. -/
def receive (adjacency : RouterAdjacency) (now : Instant) (message : RoutingGctlMessage) :
    Except Error (Option RoutingGctlMessage × RouterAdjacency) :=
  match message.body with
  | .routerHello peer => do
    let adjacency ← adjacency.acceptPeer now peer
    return (some
      { transactionId := message.transactionId, body := .routerHelloAck adjacency.localHello },
      adjacency)
  | .routerHelloAck peer => do
    let adjacency ← adjacency.acceptPeer now peer
    return (none, adjacency)
  | .routeAdvertise _ => .error .unsupported
  | .routeWithdraw _ => .error .unsupported

/-- The neighbor goes down if it has not been heard of for long enough.  The result says whether it
has gone down. -/
def expire (adjacency : RouterAdjacency) (now : Instant) : Bool × RouterAdjacency :=
  match adjacency.neighbor with
  | none => (false, adjacency)
  | some neighbor =>
    if neighbor.state = .down then (false, adjacency)
    else
      let elapsed := now.saturatingDurationSince neighbor.lastSeen
      if ⟨neighbor.holdTimeMs.setWidth 64⟩ ≤ elapsed then
        (true, { adjacency with neighbor := some { neighbor with state := .down } })
      else (false, adjacency)

end RouterAdjacency

end SmolGnet
