import SmolGnet.Endpoint.Linked
import SmolGnet.Library.Machine

/-!
# Two transports joined by queues of packets

What two endpoints on a link are for.  Each has a transport; what a transport sends is put in packets,
and the packets reach the other transport in the order in which they were sent, each of them once.
There are no flits, channels, buffers and credit here, and no control messages, except that the address
of an endpoint may change, and with it the form of its packets.
-/

namespace SmolGnet

/-! ### One end -/

/-- A transport with what it has of its endpoint: its address, the prefix of the context in which
local addresses are read, the packets of its payloads, and the addresses for which packets are taken. -/
structure Host (T : Transport) where
  address : GdpAddress
  context : U64
  wrap : GtsSend → Except Error GdpPacket
  takes : GdpAddress → Bool
  state : T.State

namespace Host

variable {T : Transport}

/-- The packets of payloads, up to the first payload that has none. -/
def wrapAll (wrap : GtsSend → Except Error GdpPacket) :
    List GtsSend → Except Error Unit × List GdpPacket
  | [] => (.ok (), [])
  | x :: xs =>
    match wrap x with
    | .error err => (.error err, [])
    | .ok packet => ((wrapAll wrap xs).1, packet :: (wrapAll wrap xs).2)

/-- The transport has got to another state, and sends.  The operation fails when a payload cannot be
sent. -/
def run (h : Host T) (outcome : Except Error Unit × T.State × List GtsSend) :
    Except Error Unit × Host T × List GdpPacket :=
  let sent := wrapAll h.wrap outcome.2.2
  (sent.1.bind (fun _ => outcome.1), { h with state := outcome.2.1 }, sent.2)

/-- The application asks something of the transport. -/
def app (h : Host T) (op : T.Op) : Except Error Unit × Host T × List GdpPacket :=
  h.run (T.app h.state h.address op)

/-- A packet arrives. -/
def take (h : Host T) (packet : GdpPacket) (now : U64) :
    Except Error Unit × Host T × List GdpPacket :=
  if h.takes packet.header.destination then
    h.run (T.handleGts h.state h.address packet.header.source packet now)
  else (.error .invalidField, h, [])

end Host

/-! ### Both ends -/

/-- Two transports, the packets on their way from the near one and those on their way to it. -/
structure TransportLink (T : Transport) where
  near : Host T
  far : Host T
  sent : List GdpPacket
  arriving : List GdpPacket

namespace TransportLink

variable {T : Transport}

/-- What can happen at one end. -/
inductive LocalAction (T : Transport) where
  | app (op : T.Op)
  | take (now : U64)
  | readdress (host : Host T)

/-- What can happen. -/
inductive Action (T : Transport) where
  | near (action : LocalAction T)
  | far (action : LocalAction T)

/-- The link as the other end sees it. -/
def swap (t : TransportLink T) : TransportLink T where
  near := t.far
  far := t.near
  sent := t.arriving
  arriving := t.sent

/-- The near end has done something. -/
def did (t : TransportLink T) (r : Except Error Unit × Host T × List GdpPacket) : TransportLink T :=
  { t with near := r.2.1, sent := t.sent ++ r.2.2 }

/-- The first packet on its way to the near end arrives. -/
def take (t : TransportLink T) (now : U64) : TransportLink T :=
  match t.arriving with
  | [] => t
  | packet :: arriving =>
    { t with arriving }.did (t.near.take (packet.within t.near.context) now)

/-- The link after something has happened at the near end. -/
def actNear (t : TransportLink T) : LocalAction T → TransportLink T
  | .app op => t.did (t.near.app op)
  | .take now => t.take now
  | .readdress host => { t with near := { host with state := t.near.state } }

/-- The link after something has happened at one of its ends. -/
def step (t : TransportLink T) : Action T → TransportLink T
  | .near action => t.actNear action
  | .far action => (t.swap.actNear action).swap

/-- What the applications see: what they ask of the transport, and whether it succeeds.  The flag tells
the ends apart. -/
def observe (t : TransportLink T) : Action T → List (Bool × T.Op × Except Error Unit)
  | .near (.app op) => [(true, op, (t.near.app op).1)]
  | .far (.app op) => [(false, op, (t.far.app op).1)]
  | _ => []

/-! ### The other end -/

/-- What happens, as the other end sees it. -/
def Action.swap : Action T → Action T
  | .near action => .far action
  | .far action => .near action

theorem step_swap (t : TransportLink T) (action : Action T) :
  t.swap.step action.swap = (t.step action).swap
  := by
  cases action with
  | near action => rfl
  | far action => rfl

theorem observe_swap (t : TransportLink T) (action : Action T) :
  t.swap.observe action.swap = (t.observe action).map (fun o => (!o.1, o.2))
  := by
  cases action with
  | near action => cases action <;> rfl
  | far action => cases action <;> rfl

end TransportLink

end SmolGnet
