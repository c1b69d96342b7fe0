import SmolGnet.Library.Machine
import SmolGnet.Library.Bitmap
import SmolGnet.Library.TreeMap
import SmolGnet.Library.Octets
import SmolGnet.Library.ShiftRegister
import SmolGnet.Library.Checked
import SmolGnet.Library.Causal
import SmolGnet.Library.Table
import SmolGnet.Library.LeaseBook
import SmolGnet.Library.RoundRobin
import SmolGnet.Library.P4
import SmolGnet.Library.Distance
import SmolGnet.Basic
import SmolGnet.Wire.Crc
import SmolGnet.Wire.Gdp
import SmolGnet.Wire.GdpDecode
import SmolGnet.Wire.Gts
import SmolGnet.Wire.Gctl
import SmolGnet.Wire.GctlTyped
import SmolGnet.Wire.Css
import SmolGnet.Wire.GtsLower
import SmolGnet.Wire.GtsCodec
import SmolGnet.Wire.GtsRoundTrip
import SmolGnet.Wire.Detection
import SmolGnet.Wire.P4Gdp
import SmolGnet.Wire.P4Gts
import SmolGnet.Wire.Checked
import SmolGnet.Dlp.Endpoint
import SmolGnet.Dlp.Segment
import SmolGnet.Dlp.Carry
import SmolGnet.Dlp.Credit
import SmolGnet.Dlp.Burst
import SmolGnet.Dlp.Frames
import SmolGnet.Dlp.Noisy
import SmolGnet.Dlp.Port
import SmolGnet.Dlp.Generations
import SmolGnet.Egress.Scheduler
import SmolGnet.Egress.Failure
import SmolGnet.Gts.Reliable
import SmolGnet.Gts.Stream
import SmolGnet.Gts.Window
import SmolGnet.Gts.Selective
import SmolGnet.Gts.Link
import SmolGnet.Gts.Order
import SmolGnet.Gts.Credit
import SmolGnet.Gts.Stall
import SmolGnet.Gts.Tunnel
import SmolGnet.Gts.Continues
import SmolGnet.Gts.Duplicate
import SmolGnet.Storage
import SmolGnet.BoundedGts.Socket
import SmolGnet.BoundedGts.Steps
import SmolGnet.BoundedGts.Received
import SmolGnet.BoundedGts.Ack
import SmolGnet.BoundedGts.Delivery
import SmolGnet.BoundedGts.Complete
import SmolGnet.BoundedGts.Atomic
import SmolGnet.BoundedGts.Promise
import SmolGnet.BoundedGts.Drain
import SmolGnet.Endpoint.Core
import SmolGnet.Endpoint.Joined
import SmolGnet.Endpoint.Close
import SmolGnet.Endpoint.Linked
import SmolGnet.Endpoint.Sizes
import SmolGnet.Endpoint.Moves
import SmolGnet.Endpoint.Uses
import SmolGnet.Endpoint.FlitLink
import SmolGnet.Endpoint.Balance
import SmolGnet.Endpoint.Address
import SmolGnet.Endpoint.Authority
import SmolGnet.Endpoint.Emits
import SmolGnet.Endpoint.Leases
import SmolGnet.Endpoint.Actions
import SmolGnet.Endpoint.Terminal
import SmolGnet.Endpoint.Addressed
import SmolGnet.Endpoint.Pair
import SmolGnet.Endpoint.Agreement
import SmolGnet.Endpoint.PseudoHeader
import SmolGnet.Endpoint.Failure
import SmolGnet.Endpoint.Handover
import SmolGnet.Endpoint.Recv
import SmolGnet.Managed.Frame
import SmolGnet.Managed.Endpoint
import SmolGnet.Managed.Runs
import SmolGnet.Managed.Hello
import SmolGnet.Managed.Ceiling
import SmolGnet.Managed.Agreed
import SmolGnet.Managed.Words
import SmolGnet.Managed.Lossy
import SmolGnet.Managed.Signals
import SmolGnet.Managed.BringUp
import SmolGnet.Managed.Context
import SmolGnet.Routing.Types
import SmolGnet.Wire.GctlRouting
import SmolGnet.Wire.CheckedGctl
import SmolGnet.Routing.Rib
import SmolGnet.Routing.Refresh
import SmolGnet.Routing.Network
import SmolGnet.Routing.Forwarding
import SmolGnet.Routing.Adjacency
import SmolGnet.Routing.Dynamic
import SmolGnet.Routing.Agree
import SmolGnet.Routing.Expiry
import SmolGnet.Routing.Pipeline
import SmolGnet.Routing.LongestPrefix
import SmolGnet.Routing.Process
import SmolGnet.Routing.StaticSwitch
import SmolGnet.Routing.RouteTable
import SmolGnet.Routing.Selection
import SmolGnet.Routing.Converge
import SmolGnet.Endpoint.Runtime
import SmolGnet.Endpoint.Allocation
import SmolGnet.Endpoint.FrameBalance
import SmolGnet.Endpoint.Asking
import SmolGnet.Endpoint.FrameStall
import SmolGnet.Endpoint.UnderWay
import SmolGnet.Endpoint.FlitStall
import SmolGnet.Endpoint.DirectLink
import SmolGnet.Library.Simulation
import SmolGnet.Endpoint.TransportLink
import SmolGnet.Endpoint.Refines
import SmolGnet.PacketBuffer
import SmolGnet.SocketSet
import SmolGnet.Gts.Shift
import SmolGnet.BoundedGts.Shift
import SmolGnet.Endpoint.Checked
import SmolGnet.Endpoint.Conversation
