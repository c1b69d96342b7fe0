import SmolGnet.Wire.Gdp
import Mathlib.Data.Fintype.Basic

/-!
# The data link

A `DlpEndpoint` cuts encoded packets into 32-bit flits and puts received flits back
together.  Control packets travel on the virtual channel 0, data packets on the other
channels in rotation; a control frame may be sent between any two flits of a data frame.

Each direction of the link is governed by credit.  The receiver counts the data flits it
has allowed and not yet seen, `dataCreditOutstanding`, and those it holds of unfinished
packets, `dataRxInUse`; the sender counts the flits it may still send.
-/

namespace SmolGnet

open Octets

/-! ### Frames and flits -/

/-- The number of virtual channels of a link. -/
inductive VcMode where
  | two
  | four
  deriving DecidableEq, Repr

/-- How many virtual channels there are. -/
def VcMode.count : VcMode → ℕ
  | two => 2
  | four => 4

/-- The number of a virtual channel, below 4. -/
abbrev Vcid := Fin 4

namespace Vcid

/-- The channel of control traffic. -/
def control : Vcid := 0

/-- The channel with the number `v`. -/
def new (v : U8) : Except Error Vcid :=
  if h : v.toNat < 4 then .ok ⟨v.toNat, h⟩ else .error .invalidField

/-- The channel is the one of control traffic. -/
def isControl (vcid : Vcid) : Bool :=
  vcid == 0

end Vcid

/-- The unit of transmission. -/
structure Flit where
  vcid : Vcid
  data : U32
  deriving DecidableEq, Repr

/-- The two kinds of traffic of a link. -/
inductive LinkTraffic where
  | control
  | data
  deriving DecidableEq, Repr

/-- The traffic of a channel. -/
def Vcid.traffic (vcid : Vcid) : LinkTraffic :=
  if vcid.isControl then .control else .data

/-- A whole encoded packet. -/
structure GnetFrame where
  vcid : Vcid
  traffic : LinkTraffic
  bytes : Bytes
  deriving DecidableEq, Repr

/-- The number of flits of a frame. -/
def GnetFrame.flitLen (frame : GnetFrame) : ℕ :=
  (frame.bytes.length + 3) / 4

/-- The configuration of an endpoint. -/
structure DlpConfig where
  gdp : GdpWireConfig
  localPrefix : U64
  vcMode : VcMode
  rxBufferFlits : U32
  controlWindowFlits : U32
  deriving DecidableEq, Repr

/-- A queued frame, of which `flitOffset` flits have been sent. -/
structure TxFrame where
  vcid : Vcid
  traffic : LinkTraffic
  bytes : Bytes
  flitOffset : ℕ
  deriving DecidableEq, Repr

namespace TxFrame

/-- The number of flits of the frame. -/
def flitLen (frame : TxFrame) : ℕ :=
  (frame.bytes.length + 3) / 4

/-- The number of flits that have not been sent. -/
def remainingFlits (frame : TxFrame) : ℕ :=
  frame.flitLen - frame.flitOffset

/-- The flit with the index `i`, padded with zeros at the end of the frame. -/
def flitAt (frame : TxFrame) (i : ℕ) : Flit :=
  let start := i * 4
  let stop := min (start + 4) frame.bytes.length
  let word := copyInto (List.replicate 4 0#8) 0 (slice frame.bytes start (stop - start))
  { vcid := frame.vcid, data := fromBeBytes 32 word }

/-- Take the next flit off the frame. -/
def nextFlit (frame : TxFrame) : Option (Flit × TxFrame) :=
  if frame.flitLen ≤ frame.flitOffset then none
  else some (frame.flitAt frame.flitOffset, { frame with flitOffset := frame.flitOffset + 1 })

/-- The whole frame, if nothing of it has been sent. -/
def intoFrame (frame : TxFrame) : Except Error GnetFrame :=
  if frame.flitOffset ≠ 0 then .error .invalidState
  else .ok ⟨frame.vcid, frame.traffic, frame.bytes⟩

end TxFrame

/-- The part of a packet that has been received on a channel. -/
structure RxSegment where
  bytes : Bytes
  expectedBytes : ℕ
  expectedFlits : ℕ
  receivedFlits : ℕ
  traffic : LinkTraffic
  deriving DecidableEq, Repr

/-- The segment with one more flit. -/
def RxSegment.push (s : RxSegment) (data : U32) : RxSegment :=
  { s with bytes := s.bytes ++ toBeBytes data, receivedFlits := s.receivedFlits + 1 }

/-! ### The endpoint -/

/-- One end of a link. -/
structure DlpEndpoint where
  cfg : GdpWireConfig
  localPrefix : U64
  vcMode : VcMode
  rxBufferFlits : U32
  controlWindowFlits : U32
  dataTxCredit : U32
  controlTxCredit : U32
  dataCreditOutstanding : U32
  dataRxInUse : U32
  controlTxQueue : List TxFrame
  dataTxQueue : List TxFrame
  rx : Vcid → Option RxSegment
  desynchronized : Vcid → Bool
  nextDataVc : Vcid
  linkUp : Bool
  deriving DecidableEq

namespace DlpEndpoint

/-- An endpoint of a link that is up and has no credit. -/
def new (config : DlpConfig) : Except Error DlpEndpoint :=
  if config.rxBufferFlits = 0#32 ∨ config.controlWindowFlits = 0#32 then .error .invalidField
  else
    .ok
      { cfg := config.gdp
        localPrefix := config.localPrefix &&& ~~~0xffff#64
        vcMode := config.vcMode
        rxBufferFlits := config.rxBufferFlits
        controlWindowFlits := config.controlWindowFlits
        dataTxCredit := 0#32
        controlTxCredit := 0#32
        dataCreditOutstanding := 0#32
        dataRxInUse := 0#32
        controlTxQueue := []
        dataTxQueue := []
        rx := fun _ => none
        desynchronized := fun _ => false
        nextDataVc := 1
        linkUp := true }

/-! #### Credit -/

/-- The room for data flits that is not in use. -/
def availableRxFlits (e : DlpEndpoint) : U32 :=
  saturatingSub e.rxBufferFlits e.dataRxInUse

/-- The credit that may still be given to the peer. -/
def grantableDataCredit (e : DlpEndpoint) : U32 :=
  saturatingSub e.availableRxFlits e.dataCreditOutstanding

/-- Note that the peer is given credit for `count` data flits. -/
def noteDataCreditGranted (e : DlpEndpoint) (count : U32) : Except Error DlpEndpoint :=
  if e.grantableDataCredit < count then .error .bufferFull
  else .ok { e with dataCreditOutstanding := saturatingAdd e.dataCreditOutstanding count }

/-- The peer gives credit for `count` data flits. -/
def grantDataTxCredit (e : DlpEndpoint) (count : U32) : DlpEndpoint :=
  { e with dataTxCredit := saturatingAdd e.dataTxCredit count }

/-- The peer gives credit for `count` control flits. -/
def grantControlTxCredit (e : DlpEndpoint) (count : U32) : DlpEndpoint :=
  { e with controlTxCredit := saturatingAdd e.controlTxCredit count }

/-- Change the prefix that is supplied to headers in the local form. -/
def setLocalPrefix (e : DlpEndpoint) (localPrefix : U64) : DlpEndpoint :=
  { e with localPrefix := localPrefix &&& ~~~0xffff#64 }

/-- The link comes up or goes down; when it goes down everything is forgotten. -/
def setLinkUp (e : DlpEndpoint) (up : Bool) : DlpEndpoint :=
  if up then { e with linkUp := up }
  else
    { e with
      linkUp := up
      controlTxQueue := []
      dataTxQueue := []
      rx := fun _ => none
      desynchronized := fun _ => false
      dataTxCredit := 0#32
      controlTxCredit := 0#32
      dataCreditOutstanding := 0#32
      dataRxInUse := 0#32 }

/-! #### Queueing -/

/-- The flits of a queue that have not been sent. -/
def queueFlits (queue : List TxFrame) : ℕ :=
  (queue.map TxFrame.remainingFlits).sum

/-- The flits that have not been sent. -/
def queuedFlits (e : DlpEndpoint) : ℕ :=
  queueFlits e.controlTxQueue + queueFlits e.dataTxQueue

/-- The control flits that have not been sent. -/
def queuedControlFlits (e : DlpEndpoint) : ℕ :=
  queueFlits e.controlTxQueue

/-- The data flits that have not been sent. -/
def queuedDataFlits (e : DlpEndpoint) : ℕ :=
  queueFlits e.dataTxQueue

/-- The channel after `vc` among the data channels. -/
def succDataVc (mode : VcMode) (vc : Vcid) : Vcid :=
  if h : vc.val + 1 < mode.count then
    ⟨vc.val + 1, Nat.lt_of_lt_of_le h (by cases mode <;> decide)⟩
  else 1

/-- The channel of the next data packet. -/
def chooseDataVc (e : DlpEndpoint) : Vcid × DlpEndpoint :=
  (e.nextDataVc, { e with nextDataVc := succDataVc e.vcMode e.nextDataVc })

/-- Queue a packet on a channel and return its number of flits. -/
def queuePacketOn (e : DlpEndpoint) (traffic : LinkTraffic) (vcid : Vcid)
    (packet : GdpPacket) : Except Error (ℕ × DlpEndpoint) :=
  if !e.linkUp then .error .linkDown
  else if e.vcMode.count ≤ vcid.val then .error .invalidField
  else if traffic = .control ∧ !vcid.isControl then .error .invalidField
  else if traffic = .data ∧ vcid.isControl then .error .invalidField
  else
    match packet.encode e.cfg with
    | .error err => .error err
    | .ok bytes =>
      let n := (bytes.length + 3) / 4
      let frame : TxFrame := { vcid, traffic, bytes, flitOffset := 0 }
      match traffic with
      | .control => .ok (n, { e with controlTxQueue := e.controlTxQueue ++ [frame] })
      | .data => .ok (n, { e with dataTxQueue := e.dataTxQueue ++ [frame] })

/-- Queue a control packet. -/
def queueControlPacket (e : DlpEndpoint) (packet : GdpPacket) :
    Except Error (ℕ × DlpEndpoint) :=
  e.queuePacketOn .control Vcid.control packet

/-- Queue a data packet.  The channel is used up even when the packet is refused. -/
def queueDataPacket (e : DlpEndpoint) (packet : GdpPacket) : Except Error ℕ × DlpEndpoint :=
  let (vc, e) := e.chooseDataVc
  match e.queuePacketOn .data vc packet with
  | .ok (n, e) => (.ok n, e)
  | .error err => (.error err, e)

/-! #### Transmission -/

/-- Take the first frame of a queue if the credit covers it. -/
def popSendableFrame (queue : List TxFrame) (credit : U32) :
    Except Error (Option (GnetFrame × List TxFrame × U32)) :=
  match queue with
  | [] => .ok none
  | front :: rest =>
    if front.flitOffset ≠ 0 then .error .invalidState
    else if credit.toNat < front.flitLen then .ok none
    else
      match front.intoFrame with
      | .ok frame => .ok (some (frame, rest, credit - BitVec.ofNat 32 front.flitLen))
      | .error err => .error err

/-- Send a whole frame, a control frame first. -/
def pollTxFrame (e : DlpEndpoint) : Except Error (Option GnetFrame × DlpEndpoint) :=
  if !e.linkUp then .error .linkDown
  else
    match popSendableFrame e.controlTxQueue e.controlTxCredit with
    | .error err => .error err
    | .ok (some (frame, queue, credit)) =>
      .ok (some frame, { e with controlTxQueue := queue, controlTxCredit := credit })
    | .ok none =>
      match popSendableFrame e.dataTxQueue e.dataTxCredit with
      | .error err => .error err
      | .ok (some (frame, queue, credit)) =>
        .ok (some frame, { e with dataTxQueue := queue, dataTxCredit := credit })
      | .ok none =>
        if e.controlTxQueue = [] ∧ e.dataTxQueue = [] then .ok (none, e) else .error .noCredit

/-- Send flits of a queue into a buffer with `room` places, as far as the credit goes.
Frames of which nothing is left are taken off before a flit is sent. -/
def emitQueueFlits : ℕ → List TxFrame → U32 → List Flit × List TxFrame × U32
  | 0, queue, credit => ([], queue, credit)
  | room + 1, queue, credit =>
    if credit = 0#32 then ([], queue, credit)
    else
      match queue.dropWhile (fun frame => frame.nextFlit.isNone) with
      | [] => ([], [], credit)
      | front :: rest =>
        match front.nextFlit with
        | none => ([], front :: rest, credit)
        | some (flit, front) =>
          let queue := if front.remainingFlits = 0 then rest else front :: rest
          let (flits, queue, credit) := emitQueueFlits room queue (credit - 1#32)
          (flit :: flits, queue, credit)

/-- Send flits into a buffer with `room` places, control flits first. -/
def pollTxBurst (e : DlpEndpoint) (room : ℕ) : Except Error (List Flit) × DlpEndpoint :=
  if !e.linkUp then (.error .linkDown, e)
  else if room = 0 then (.ok [], e)
  else
    let (controlFlits, controlTxQueue, controlTxCredit) :=
      emitQueueFlits room e.controlTxQueue e.controlTxCredit
    let (dataFlits, dataTxQueue, dataTxCredit) :=
      emitQueueFlits (room - controlFlits.length) e.dataTxQueue e.dataTxCredit
    let flits := controlFlits ++ dataFlits
    let e := { e with controlTxQueue, controlTxCredit, dataTxQueue, dataTxCredit }
    if flits ≠ [] then (.ok flits, e)
    else if controlTxQueue = [] ∧ dataTxQueue = [] then (.ok [], e)
    else (.error .noCredit, e)

/-- Send one flit. -/
def pollTx (e : DlpEndpoint) : Except Error (Option Flit) × DlpEndpoint :=
  match e.pollTxBurst 1 with
  | (.ok flits, e) => (.ok flits.head?, e)
  | (.error err, e) => (.error err, e)

/-! #### Reception -/

/-- `self.rx[vcid] = s`. -/
def setRx (e : DlpEndpoint) (vcid : Vcid) (s : Option RxSegment) : DlpEndpoint :=
  { e with rx := Function.update e.rx vcid s }

/-- `self.desynchronized[vcid] = b`. -/
def setDesynchronized (e : DlpEndpoint) (vcid : Vcid) (b : Bool) : DlpEndpoint :=
  { e with desynchronized := Function.update e.desynchronized vcid b }

/-- The flits of a packet no longer take room. -/
def releaseDataSegment (e : DlpEndpoint) (flits : ℕ) : DlpEndpoint :=
  { e with dataRxInUse := saturatingSub e.dataRxInUse (BitVec.ofNat 32 flits) }

/-- Receive a whole frame. -/
def receiveFrame (e : DlpEndpoint) (frame : GnetFrame) : Except Error GdpPacket × DlpEndpoint :=
  if !e.linkUp then (.error .linkDown, e)
  else if e.vcMode.count ≤ frame.vcid.val then (.error .invalidField, e)
  else if frame.traffic = .control ∧ !frame.vcid.isControl then (.error .invalidField, e)
  else if frame.traffic = .data ∧ frame.vcid.isControl then (.error .invalidField, e)
  else
    let flits := frame.flitLen
    let count := BitVec.ofNat 32 flits
    match frame.traffic with
    | .control => (GdpPacket.decode frame.bytes e.cfg e.localPrefix, e)
    | .data =>
      if e.dataCreditOutstanding < count then (.error .creditViolation, e)
      else if e.availableRxFlits < count then (.error .bufferFull, e)
      else
        let e := { e with
          dataCreditOutstanding := e.dataCreditOutstanding - count
          dataRxInUse := e.dataRxInUse + count }
        (GdpPacket.decode frame.bytes e.cfg e.localPrefix, e.releaseDataSegment flits)

/-- Account for a data flit that arrives. -/
def takeDataFlit (e : DlpEndpoint) : Except Error DlpEndpoint :=
  if e.dataCreditOutstanding = 0#32 then .error .creditViolation
  else if e.rxBufferFlits ≤ e.dataRxInUse then .error .bufferFull
  else
    .ok { e with
      dataCreditOutstanding := e.dataCreditOutstanding - 1#32
      dataRxInUse := e.dataRxInUse + 1#32 }

/-- The segment of a packet whose first flit is `w`. -/
def openSegment (e : DlpEndpoint) (traffic : LinkTraffic) (w : U32) : Except Error RxSegment :=
  match SizeClass.fromWire ((w >>> 22 &&& 0xf#32).setWidth 8) with
  | .error err => .error err
  | .ok size =>
    let form := e.cfg.formFromBit (w >>> 21 &&& 1#32 != 0#32)
    let headerLen := match form with
      | .global => 20
      | .local => 8
    let total := headerLen + size.bytes
    .ok
      { bytes := []
        expectedBytes := total
        expectedFlits := (total + 3) / 4
        receivedFlits := 0
        traffic }

/-- Flits of the given traffic no longer take room. -/
def releaseSegment (e : DlpEndpoint) (traffic : LinkTraffic) (flits : ℕ) : DlpEndpoint :=
  match traffic with
  | .data => e.releaseDataSegment flits
  | .control => e

/-- Decode the complete segment `s` of a channel. -/
def finishSegment (e : DlpEndpoint) (vcid : Vcid) (s : RxSegment) :
    Except Error (Option GdpPacket) × DlpEndpoint :=
  let e := (e.setRx vcid none).releaseSegment s.traffic s.receivedFlits
  match GdpPacket.decode (s.bytes.take s.expectedBytes) e.cfg e.localPrefix with
  | .ok packet => (.ok (some packet), e)
  | .error err => (.error err, e.setDesynchronized vcid true)

/-- Add a flit to the segment `s` of its channel, and return the packet when it is
complete. -/
def extendSegment (e : DlpEndpoint) (s : RxSegment) (flit : Flit) :
    Except Error (Option GdpPacket) × DlpEndpoint :=
  if s.traffic ≠ flit.vcid.traffic then
    (.error .invalidState, e.setRx flit.vcid (some s))
  else if (s.push flit.data).receivedFlits < (s.push flit.data).expectedFlits then
    (.ok none, e.setRx flit.vcid (some (s.push flit.data)))
  else e.finishSegment flit.vcid (s.push flit.data)

/-- Put a flit that has been accounted for into the segment of its channel, which is
opened if there is none. -/
def receiveSegment (e : DlpEndpoint) (flit : Flit) :
    Except Error (Option GdpPacket) × DlpEndpoint :=
  match e.rx flit.vcid with
  | some s => e.extendSegment s flit
  | none =>
    match e.openSegment flit.vcid.traffic flit.data with
    | .ok s => e.extendSegment s flit
    | .error err =>
      (.error err, (e.releaseSegment flit.vcid.traffic 1).setDesynchronized flit.vcid true)

/-- Receive a flit. -/
def receive (e : DlpEndpoint) (flit : Flit) : Except Error (Option GdpPacket) × DlpEndpoint :=
  if !e.linkUp then (.error .linkDown, e)
  else if e.vcMode.count ≤ flit.vcid.val then (.error .invalidField, e)
  else if e.desynchronized flit.vcid then (.error .desynchronized, e)
  else
    match flit.vcid.traffic with
    | .control => e.receiveSegment flit
    | .data =>
      match e.takeDataFlit with
      | .ok e => e.receiveSegment flit
      | .error err => (.error err, e)

/-- Receive flits one after the other, up to the first error. -/
def receiveBurst (e : DlpEndpoint) : List Flit → List GdpPacket →
    Except Error ℕ × List GdpPacket × DlpEndpoint
  | [], packets => (.ok 0, packets, e)
  | flit :: flits, packets =>
    match e.receive flit with
    | (.error err, e) => (.error err, packets, e)
    | (.ok none, e) => e.receiveBurst flits packets
    | (.ok (some packet), e) =>
      match e.receiveBurst flits (packets ++ [packet]) with
      | (.ok n, packets, e) => (.ok (n + 1), packets, e)
      | (.error err, packets, e) => (.error err, packets, e)

/-- Forget the segment of a channel. -/
def resetVc (e : DlpEndpoint) (vcid : Vcid) : Except Error DlpEndpoint :=
  if e.vcMode.count ≤ vcid.val then .error .invalidField
  else
    let e := match e.rx vcid with
      | some segment =>
        (e.setRx vcid none).releaseSegment segment.traffic segment.receivedFlits
      | none => e
    .ok (e.setDesynchronized vcid false)

end DlpEndpoint

end SmolGnet
