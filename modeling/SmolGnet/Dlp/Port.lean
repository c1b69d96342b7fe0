import SmolGnet.Library.Machine
import SmolGnet.Dlp.Credit

/-!
# Packet ports

A `DlpGdpPort` is the boundary between a link and what forwards packets: below it there are flits,
frames and credit, above it whole packets.  Its link is brought up in two steps and is taken down by
a reset, which begins a new generation.  A reset forgets everything but the configuration and the
channel of the next data packet: nothing that was received before it is ever part of a packet
returned after it, and nothing that was submitted before it is sent after it.
-/

namespace SmolGnet

open Octets

namespace DlpV01

/-! ### The link -/

/-- How far a link has come up. -/
inductive DlpLinkState where
  | down
  | recovering
  | up
  deriving DecidableEq, Repr

/-- One end of a link with its lifecycle. -/
structure DlpLink where
  endpoint : DlpEndpoint
  state : DlpLinkState
  generation : U32
  deriving DecidableEq

namespace DlpLink

/-- A link that is down. -/
def new (config : DlpConfig) : Except Error DlpLink := do
  let endpoint ← DlpEndpoint.new config
  return { endpoint := endpoint.setLinkUp false, state := .down, generation := 0#32 }

/-- The link begins to come up. -/
def beginRecovery (l : DlpLink) : Except Error DlpLink :=
  if l.state ≠ .down then .error .invalidState
  else .ok { l with endpoint := l.endpoint.setLinkUp true, state := .recovering }

/-- The link has come up. -/
def completeRecovery (l : DlpLink) : Except Error DlpLink :=
  if l.state ≠ .recovering then .error .invalidState else .ok { l with state := .up }

/-- The link goes down, and a new generation begins. -/
def reset (l : DlpLink) : DlpLink where
  endpoint := l.endpoint.setLinkUp false
  state := .down
  generation := l.generation + 1#32

/-- The link is up. -/
def requireUp (l : DlpLink) : Except Error Unit :=
  if l.state = .up then .ok () else .error .linkDown

/-- Queue a data packet. -/
def queueDataPacket (l : DlpLink) (packet : GdpPacket) : Except Error ℕ × DlpLink :=
  match l.requireUp with
  | .error err => (.error err, l)
  | .ok () =>
    let (result, endpoint) := l.endpoint.queueDataPacket packet
    (result, { l with endpoint })

/-- Queue a control packet. -/
def queueControlPacket (l : DlpLink) (packet : GdpPacket) : Except Error (ℕ × DlpLink) := do
  l.requireUp
  let (n, endpoint) ← l.endpoint.queueControlPacket packet
  return (n, { l with endpoint })

/-- Send one flit. -/
def pollTx (l : DlpLink) : Except Error (Option Flit) × DlpLink :=
  match l.requireUp with
  | .error err => (.error err, l)
  | .ok () => (l.endpoint.pollTx.1, { l with endpoint := l.endpoint.pollTx.2 })

/-- Send flits into a buffer with `room` places. -/
def pollTxBurst (l : DlpLink) (room : ℕ) : Except Error (List Flit) × DlpLink :=
  match l.requireUp with
  | .error err => (.error err, l)
  | .ok () =>
    ((l.endpoint.pollTxBurst room).1, { l with endpoint := (l.endpoint.pollTxBurst room).2 })

/-- Send a whole frame. -/
def pollTxFrame (l : DlpLink) : Except Error (Option GnetFrame × DlpLink) := do
  l.requireUp
  let (frame, endpoint) ← l.endpoint.pollTxFrame
  return (frame, { l with endpoint })

/-- Receive a flit. -/
def receive (l : DlpLink) (flit : Flit) : Except Error (Option GdpPacket) × DlpLink :=
  match l.requireUp with
  | .error err => (.error err, l)
  | .ok () => ((l.endpoint.receive flit).1, { l with endpoint := (l.endpoint.receive flit).2 })

/-- Receive a whole frame. -/
def receiveFrame (l : DlpLink) (frame : GnetFrame) : Except Error GdpPacket × DlpLink :=
  match l.requireUp with
  | .error err => (.error err, l)
  | .ok () =>
    ((l.endpoint.receiveFrame frame).1, { l with endpoint := (l.endpoint.receiveFrame frame).2 })

/-- The receiver gives the sender credit for data flits. -/
def grantPeerDataCredit (receiver sender : DlpLink) (count : U32) :
    Except Error (DlpLink × DlpLink) := do
  receiver.requireUp
  sender.requireUp
  let endpoint ← receiver.endpoint.noteDataCreditGranted count
  return ({ receiver with endpoint },
    { sender with endpoint := sender.endpoint.grantDataTxCredit count })

/-- The sender is given credit for control flits. -/
def grantPeerControlCredit (sender : DlpLink) (count : U32) : Except Error DlpLink := do
  sender.requireUp
  return { sender with endpoint := sender.endpoint.grantControlTxCredit count }

end DlpLink

end DlpV01

/-! ### The port -/

/-- A link, and the packets received from it that have not been taken yet. -/
structure DlpGdpPort where
  link : DlpV01.DlpLink
  received : List GdpPacket
  deriving DecidableEq

namespace DlpGdpPort

/-- A port whose link is down. -/
def new (config : DlpConfig) : Except Error DlpGdpPort := do
  let link ← DlpV01.DlpLink.new config
  return { link, received := [] }

/-- The link begins to come up. -/
def beginRecovery (p : DlpGdpPort) : Except Error DlpGdpPort := do
  let link ← p.link.beginRecovery
  return { p with link }

/-- The link has come up. -/
def completeRecovery (p : DlpGdpPort) : Except Error DlpGdpPort := do
  let link ← p.link.completeRecovery
  return { p with link }

/-- The link goes down, and the packets that have not been taken are discarded. -/
def reset (p : DlpGdpPort) : DlpGdpPort where
  link := p.link.reset
  received := []

/-- A flit arrives from the link.  The result is whether it completes a packet. -/
def physicalReceiveFlit (p : DlpGdpPort) (flit : Flit) : Except Error Bool × DlpGdpPort :=
  match p.link.receive flit with
  | (.error err, link) => (.error err, { p with link })
  | (.ok none, link) => (.ok false, { p with link })
  | (.ok (some packet), link) => (.ok true, { link, received := p.received ++ [packet] })

/-- A frame arrives from the link. -/
def physicalReceiveFrame (p : DlpGdpPort) (frame : GnetFrame) : Except Error Unit × DlpGdpPort :=
  match p.link.receiveFrame frame with
  | (.error err, link) => (.error err, { p with link })
  | (.ok packet, link) => (.ok (), { link, received := p.received ++ [packet] })

/-- The link takes a flit. -/
def physicalPollTxFlit (p : DlpGdpPort) : Except Error (Option Flit) × DlpGdpPort :=
  (p.link.pollTx.1, { p with link := p.link.pollTx.2 })

/-- The link takes flits into a buffer with `room` places. -/
def physicalPollTxBurst (p : DlpGdpPort) (room : ℕ) : Except Error (List Flit) × DlpGdpPort :=
  ((p.link.pollTxBurst room).1, { p with link := (p.link.pollTxBurst room).2 })

/-- The link takes a frame. -/
def physicalPollTxFrame (p : DlpGdpPort) : Except Error (Option GnetFrame × DlpGdpPort) := do
  let (frame, link) ← p.link.pollTxFrame
  return (frame, { p with link })

/-- The receiver gives the sender credit for data flits. -/
def grantPeerDataCredit (receiver sender : DlpGdpPort) (count : U32) :
    Except Error (DlpGdpPort × DlpGdpPort) := do
  let (link, link') ← receiver.link.grantPeerDataCredit sender.link count
  return ({ receiver with link }, { sender with link := link' })

/-- The sender is given credit for control flits. -/
def grantPeerControlCredit (sender : DlpGdpPort) (count : U32) : Except Error DlpGdpPort := do
  let link ← sender.link.grantPeerControlCredit count
  return { sender with link }

/-- Take the next packet that was received. -/
def pollGdp (p : DlpGdpPort) : Option GdpPacket × DlpGdpPort :=
  (p.received.head?, { p with received := p.received.tail })

/-- Submit a packet; the type of the packet determines its channel. -/
def transmitGdp (p : DlpGdpPort) (packet : GdpPacket) : Except Error Unit × DlpGdpPort :=
  match packet.header.packetType with
  | .gctl =>
    match p.link.queueControlPacket packet with
    | .error err => (.error err, p)
    | .ok (_, link) => (.ok (), { p with link })
  | .gts | .reserved _ =>
    ((p.link.queueDataPacket packet).1.map (fun _ => ()),
      { p with link := (p.link.queueDataPacket packet).2 })

/-! ### Runs -/

/-- What can happen at a port.  Credit for data is given to another port or by one. -/
inductive Action where
  | beginRecovery
  | completeRecovery
  | reset
  | physicalReceiveFlit (flit : Flit)
  | physicalReceiveFrame (frame : GnetFrame)
  | physicalPollTxFlit
  | physicalPollTxBurst (room : ℕ)
  | physicalPollTxFrame
  | grantPeerDataCredit (sender : DlpGdpPort) (count : U32)
  | takePeerDataCredit (receiver : DlpGdpPort) (count : U32)
  | grantPeerControlCredit (count : U32)
  | pollGdp
  | transmitGdp (packet : GdpPacket)

/-- The port after something has happened, whether it succeeded or not. -/
def step (p : DlpGdpPort) : Action → DlpGdpPort
  | .beginRecovery => p.beginRecovery.toOption.getD p
  | .completeRecovery => p.completeRecovery.toOption.getD p
  | .reset => p.reset
  | .physicalReceiveFlit flit => (p.physicalReceiveFlit flit).2
  | .physicalReceiveFrame frame => (p.physicalReceiveFrame frame).2
  | .physicalPollTxFlit => p.physicalPollTxFlit.2
  | .physicalPollTxBurst room => (p.physicalPollTxBurst room).2
  | .physicalPollTxFrame => (p.physicalPollTxFrame.map Prod.snd).toOption.getD p
  | .grantPeerDataCredit sender count =>
    ((p.grantPeerDataCredit sender count).map Prod.fst).toOption.getD p
  | .takePeerDataCredit receiver count =>
    ((receiver.grantPeerDataCredit p count).map Prod.snd).toOption.getD p
  | .grantPeerControlCredit count => (p.grantPeerControlCredit count).toOption.getD p
  | .pollGdp => p.pollGdp.2
  | .transmitGdp packet => (p.transmitGdp packet).2

end DlpGdpPort

end SmolGnet
