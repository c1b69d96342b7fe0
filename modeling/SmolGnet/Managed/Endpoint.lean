import SmolGnet.Endpoint.Linked
import SmolGnet.Managed.Frame

/-!
# Managed endpoints

A `DlpManagedEndpoint` brings its link up before it uses it.  The two ends say `HELLO`, tell
each other what they can do and which parameters they have, select, and confirm; then each
installs the agreed profile and makes a new end of the link with it.  Every round of this
has a generation, a number from 1 to 63, by which late frames of earlier rounds are told
apart.
-/

namespace SmolGnet

/-- The states of link control. -/
inductive DlpControlState where
  | down
  | hello
  | negotiate
  | creditSync
  | up
  | resetting
  deriving DecidableEq, Repr

/-- What the two ends have agreed on. -/
structure DlpNegotiatedProfile where
  vcMode : VcMode
  burstFlits : U32
  peerRxBufferFlits : U32
  peerControlWindowFlits : U32
  deriving DecidableEq, Repr

/-- The capabilities that the other end has offered. -/
structure PeerCapabilityOffer where
  profiles : U8
  rates : U8
  deriving DecidableEq, Repr

/-- The parameters that the other end has offered. -/
structure PeerParameterOffer where
  rxBufferFlits : U32
  maxBurstFlits : U32
  deriving DecidableEq, Repr

/-- The control flits that every end can take. -/
def dlpReservedControlWindowFlits : U32 := 32#32

/-- Parameters are transmitted in units of so many flits. -/
def dlpControlParameterUnitFlits : U32 := 4#32

def flagVc2 : U8 := 0b01#8

def flagVc4 : U8 := 0b10#8

def rateAll : U8 := 0b111#8

/-- After so many polls without progress credit is asked for again. -/
def creditRequestRetryPolls : U8 := 8#8

/-! ### Parameters -/

/-- The number of units of a parameter. -/
def encodeParameterUnits (value : U32) : Except Error U8 :=
  if value = 0#32 ∨ value % dlpControlParameterUnitFlits ≠ 0#32 then .error .invalidField
  else
    let units := value / dlpControlParameterUnitFlits
    if units = 0#32 ∨ 0xff#32 < units then .error .invalidField else .ok (units.setWidth 8)

/-- The parameter with the given number of units. -/
def decodeParameterUnits (units : U8) : Except Error U32 :=
  if units = 0#8 then .error .invalidField
  else .ok (units.setWidth 32 * dlpControlParameterUnitFlits)

/-- The generation after `generation`. -/
def nextGeneration (generation : U8) : U8 :=
  if 63#8 ≤ generation then 1#8 else generation + 1#8

/-- The modes of an endpoint that can do `maxMode`. -/
def supportedModeFlags : VcMode → U8
  | .two => flagVc2
  | .four => flagVc2 ||| flagVc4

/-- The flag of one mode. -/
def selectedModeFlag : VcMode → U8
  | .two => flagVc2
  | .four => flagVc4

/-- The highest mode that both ends can do. -/
def chooseVcMode (localMax : VcMode) (peerFlags : U8) : Except Error VcMode :=
  let common := supportedModeFlags localMax &&& peerFlags
  if common &&& flagVc4 ≠ 0#8 then .ok .four
  else if common &&& flagVc2 ≠ 0#8 then .ok .two
  else .error .unsupported

/-- The highest rate that both ends can do. -/
def chooseRate (localRates peerRates : U8) : Except Error U8 :=
  let common := (localRates &&& peerRates) &&& 0x07#8
  if common &&& 0b100#8 ≠ 0#8 then .ok 0b100#8
  else if common &&& 0b010#8 ≠ 0#8 then .ok 0b010#8
  else if common &&& 0b001#8 ≠ 0#8 then .ok 0b001#8
  else .error .unsupported

/-- The lesser of two parameters. -/
def minU32 (a b : U32) : U32 :=
  if b < a then b else a

/-! ### The endpoint -/

/-- An endpoint that manages its link. -/
structure DlpManagedEndpoint (T : Transport) where
  endpoint : LinkedEndpoint T
  endpointConfig : EndpointConfig
  maxBurstFlits : U32
  state : DlpControlState
  negotiated : Option DlpNegotiatedProfile
  localGeneration : U8
  peerGeneration : Option U8
  controlTx : List DlpControlFrame
  helloAckSent : Bool
  helloAckReceived : Bool
  capOfferSent : Bool
  peerCapOffer : Option PeerCapabilityOffer
  selectedMode : Option VcMode
  selectedRate : Option U8
  capSelectionSent : Bool
  capConfirmationSent : Bool
  capConfirmationReceived : Bool
  paramsOfferSent : Bool
  peerParamsOffer : Option PeerParameterOffer
  selectedPeerRx : Option U32
  selectedBurst : Option U32
  paramsSelectionSent : Bool
  paramsConfirmationSent : Bool
  paramsConfirmationReceived : Bool
  creditStallPolls : U8

namespace DlpManagedEndpoint

variable {T : Transport}

/-- A managed endpoint whose link is down. -/
def build (endpoint : LinkedEndpoint T) (endpointConfig : EndpointConfig)
    (maxBurstFlits : U32) : DlpManagedEndpoint T where
  endpoint := endpoint
  endpointConfig := endpointConfig
  maxBurstFlits := maxBurstFlits
  state := .down
  negotiated := none
  localGeneration := 1#8
  peerGeneration := none
  controlTx := []
  helloAckSent := false
  helloAckReceived := false
  capOfferSent := false
  peerCapOffer := none
  selectedMode := none
  selectedRate := none
  capSelectionSent := false
  capConfirmationSent := false
  capConfirmationReceived := false
  paramsOfferSent := false
  peerParamsOffer := none
  selectedPeerRx := none
  selectedBurst := none
  paramsSelectionSent := false
  paramsConfirmationSent := false
  paramsConfirmationReceived := false
  creditStallPolls := 0#8

/-- The parameters of a configuration can be transmitted, and its control window is the
reserved one. -/
def validateConfig (config : EndpointConfig) (maxBurstFlits : U32) : Except Error Unit := do
  let _ ← encodeParameterUnits config.rxBufferFlits
  let _ ← encodeParameterUnits maxBurstFlits
  if config.controlWindowFlits ≠ dlpReservedControlWindowFlits then .error .invalidField
  else .ok ()

/-- The endpoint with its link down. -/
def linkDownEndpoint (endpoint : LinkedEndpoint T) : LinkedEndpoint T :=
  { endpoint with dlp := endpoint.dlp.setLinkUp false }

/-- A managed endpoint with a given address. -/
def new (address : GdpAddress) (config : EndpointConfig) (maxBurstFlits : U32) :
    Except Error (DlpManagedEndpoint T) := do
  validateConfig config maxBurstFlits
  let endpoint ← LinkedEndpoint.new address config
  return build (linkDownEndpoint endpoint) config maxBurstFlits

/-- A managed endpoint that has to be assigned an address. -/
def unconfigured (linkLocalSuffix : U64) (config : EndpointConfig) (maxBurstFlits : U32) :
    Except Error (DlpManagedEndpoint T) := do
  validateConfig config maxBurstFlits
  let endpoint ← LinkedEndpoint.unconfigured linkLocalSuffix config
  return build (linkDownEndpoint endpoint) config maxBurstFlits

/-! ### Negotiation -/

/-- Forget everything about the negotiation but the generations. -/
def clearNegotiationState (m : DlpManagedEndpoint T) : DlpManagedEndpoint T :=
  { m with
    negotiated := none
    helloAckSent := false
    helloAckReceived := false
    capOfferSent := false
    peerCapOffer := none
    selectedMode := none
    selectedRate := none
    capSelectionSent := false
    capConfirmationSent := false
    capConfirmationReceived := false
    paramsOfferSent := false
    peerParamsOffer := none
    selectedPeerRx := none
    selectedBurst := none
    paramsSelectionSent := false
    paramsConfirmationSent := false
    paramsConfirmationReceived := false
    creditStallPolls := 0#8 }

/-- Queue a control frame. -/
def queueControl (m : DlpManagedEndpoint T) (frame : DlpControlFrame) : DlpManagedEndpoint T :=
  { m with controlTx := m.controlTx ++ [frame] }

/-- Queue the first `HELLO` of a generation. -/
def queueHelloInitial (m : DlpManagedEndpoint T) : DlpManagedEndpoint T :=
  m.queueControl (.hello .initial m.localGeneration 0#8)

/-- Queue the answer to a `HELLO`. -/
def queueHelloAck (m : DlpManagedEndpoint T) (peerGeneration : U8) : DlpManagedEndpoint T :=
  { m.queueControl (.hello .acknowledgement m.localGeneration peerGeneration) with
    helloAckSent := true }

/-- Start from the beginning. -/
def restartNegotiation (m : DlpManagedEndpoint T) (incrementGeneration preserveControl : Bool) :
    DlpManagedEndpoint T :=
  let m := { m with endpoint := m.endpoint.linkDetached }
  let m :=
    if incrementGeneration then { m with localGeneration := nextGeneration m.localGeneration }
    else m
  let m := if !preserveControl then { m with controlTx := [] } else m
  { m.clearNegotiationState with state := .hello }.queueHelloInitial

/-- The carrier of the link is there. -/
def carrierUp (m : DlpManagedEndpoint T) : Except Error (DlpManagedEndpoint T) :=
  if m.state ≠ .down then .error .invalidState
  else .ok (m.restartNegotiation false false)

/-- The carrier of the link is gone. -/
def carrierDown (m : DlpManagedEndpoint T) : DlpManagedEndpoint T :=
  { { m with
      endpoint := m.endpoint.linkDetached
      controlTx := []
      peerGeneration := none }.clearNegotiationState with state := .down }

/-- Start a new generation, after a `RESET` of the old one. -/
def requestReset (m : DlpManagedEndpoint T) (reason : U32) :
    Except Error (DlpManagedEndpoint T) :=
  if m.state = .down then .error .linkDown
  else if 0x0f#32 < reason then .error .invalidField
  else
    .ok
      { { m with
          endpoint := m.endpoint.linkDetached
          controlTx := [.reset m.localGeneration (reason.setWidth 8)]
          localGeneration := nextGeneration m.localGeneration
          peerGeneration := none }.clearNegotiationState with state := .hello }.queueHelloInitial

/-- Take the next control frame. -/
def pollControl (m : DlpManagedEndpoint T) : Option Bytes × DlpManagedEndpoint T :=
  match m.controlTx with
  | [] => (none, m)
  | frame :: frames => (some frame.encode, { m with controlTx := frames })

/-- Offer capabilities and parameters once the other end is known and both have said so. -/
def maybeStartCapabilityExchange (m : DlpManagedEndpoint T) :
    Except Error Unit × DlpManagedEndpoint T :=
  if !m.helloAckSent ∨ !m.helloAckReceived ∨ m.peerGeneration.isNone then (.ok (), m)
  else
    let m := { m with state := .negotiate }
    let m :=
      if !m.capOfferSent then
        { m.queueControl (.capabilities .offer m.localGeneration
            (supportedModeFlags m.endpointConfig.vcMode) rateAll) with capOfferSent := true }
      else m
    if !m.paramsOfferSent then
      match encodeParameterUnits m.endpointConfig.rxBufferFlits with
      | .error err => (.error err, m)
      | .ok rxWindowUnits =>
        match encodeParameterUnits m.maxBurstFlits with
        | .error err => (.error err, m)
        | .ok burstUnits =>
          (.ok (), { m.queueControl (.linkParameters .offer m.localGeneration rxWindowUnits
            burstUnits) with paramsOfferSent := true })
    else (.ok (), m)

/-- The negotiation is under way or done. -/
def wasLive (m : DlpManagedEndpoint T) : Bool :=
  m.state = .negotiate || m.state = .creditSync || m.state = .up

/-- The other end has the generation `senderGeneration`. -/
def greet (m : DlpManagedEndpoint T) (senderGeneration : U8) : DlpManagedEndpoint T :=
  { m with peerGeneration := some senderGeneration }.queueHelloAck senderGeneration

/-- The first `HELLO` of a generation of the other end arrives. -/
def onHelloInitial (m : DlpManagedEndpoint T) (senderGeneration : U8) :
    Except Error Unit × DlpManagedEndpoint T :=
  match m.peerGeneration with
  | some current =>
    if senderGeneration ≠ current then
      if senderGeneration ≠ nextGeneration current then (.ok (), m)
      else
        ((m.restartNegotiation m.wasLive false).greet
          senderGeneration).maybeStartCapabilityExchange
    else (m.greet senderGeneration).maybeStartCapabilityExchange
  | none =>
    if m.state = .down then (.error .invalidState, m)
    else (m.greet senderGeneration).maybeStartCapabilityExchange

/-- An answer to a `HELLO` arrives. -/
def onHelloAck (m : DlpManagedEndpoint T) (senderGeneration peerGeneration : U8) :
    Except Error Unit × DlpManagedEndpoint T :=
  if peerGeneration ≠ m.localGeneration then (.ok (), m)
  else
    match m.peerGeneration with
    | some g =>
      if g ≠ senderGeneration then
        if senderGeneration ≠ nextGeneration g then (.ok (), m)
        else
          { (m.restartNegotiation true false).greet senderGeneration with
            helloAckReceived := true }.maybeStartCapabilityExchange
      else { m with helloAckReceived := true }.maybeStartCapabilityExchange
    | none =>
      { m.greet senderGeneration with
        helloAckReceived := true }.maybeStartCapabilityExchange

/-- A `HELLO` arrives. -/
def onHello (m : DlpManagedEndpoint T) (kind : DlpHelloKind)
    (senderGeneration peerGeneration : U8) : Except Error Unit × DlpManagedEndpoint T :=
  match kind with
  | .initial => m.onHelloInitial senderGeneration
  | .acknowledgement => m.onHelloAck senderGeneration peerGeneration

/-- Install the profile once everything has been confirmed. -/
def maybeInstallProfile (m : DlpManagedEndpoint T) : Except Error Unit × DlpManagedEndpoint T :=
  if m.state ≠ .negotiate ∨ !m.capConfirmationSent ∨ !m.capConfirmationReceived ∨
    !m.paramsConfirmationSent ∨ !m.paramsConfirmationReceived then (.ok (), m)
  else
    match m.selectedMode, m.selectedBurst, m.selectedPeerRx with
    | some mode, some burst, some peerRx =>
      match DlpEndpoint.new
        { gdp := m.endpointConfig.gdpWire
          localPrefix := m.endpointConfig.localContextPrefix.getD 0#64 &&& ~~~0xffff#64
          vcMode := mode
          rxBufferFlits := m.endpointConfig.rxBufferFlits
          controlWindowFlits := dlpReservedControlWindowFlits } with
      | .error err => (.error err, m)
      | .ok dlp =>
        (.ok (), { m with
          endpoint := { m.endpoint with dlp }
          negotiated := some
            { vcMode := mode
              burstFlits := burst
              peerRxBufferFlits := peerRx
              peerControlWindowFlits := dlpReservedControlWindowFlits }
          state := .creditSync })
    | _, _, _ => (.error .invalidState, m)

/-- The other end offers capabilities. -/
def onCapabilityOffer (m : DlpManagedEndpoint T) (profiles rates : U8) :
    Except Error Unit × DlpManagedEndpoint T :=
  if m.peerCapOffer.isSome ∧ m.peerCapOffer ≠ some ⟨profiles, rates⟩ then
    (.error .invalidField, m)
  else
    let m := { m with peerCapOffer := some ⟨profiles, rates⟩ }
    match chooseVcMode m.endpointConfig.vcMode profiles with
    | .error err => (.error err, m)
    | .ok mode =>
      match chooseRate rateAll rates with
      | .error err => (.error err, m)
      | .ok rate =>
        let m := { m with selectedMode := some mode, selectedRate := some rate }
        if !m.capSelectionSent then
          (.ok (), { m.queueControl (.capabilities .selection m.localGeneration
            (selectedModeFlag mode) rate) with capSelectionSent := true })
        else (.ok (), m)

/-- The other end selects capabilities. -/
def onCapabilitySelection (m : DlpManagedEndpoint T) (profiles rates : U8) :
    Except Error Unit × DlpManagedEndpoint T :=
  match m.peerCapOffer with
  | none => (.error .invalidState, m)
  | some offer =>
    match chooseVcMode m.endpointConfig.vcMode offer.profiles with
    | .error err => (.error err, m)
    | .ok expectedMode =>
      match chooseRate rateAll offer.rates with
      | .error err => (.error err, m)
      | .ok expectedRate =>
        if profiles ≠ selectedModeFlag expectedMode ∨ rates ≠ expectedRate then
          (.error .invalidField, m)
        else if !m.capConfirmationSent then
          (.ok (), { m.queueControl (.capabilities .confirmation m.localGeneration profiles
            rates) with capConfirmationSent := true })
        else (.ok (), m)

/-- The other end confirms capabilities. -/
def onCapabilityConfirmation (m : DlpManagedEndpoint T) (profiles rates : U8) :
    Except Error Unit × DlpManagedEndpoint T :=
  match m.selectedMode, m.selectedRate with
  | some mode, some rate =>
    if profiles ≠ selectedModeFlag mode ∨ rates ≠ rate then (.error .invalidField, m)
    else (.ok (), { m with capConfirmationReceived := true })
  | _, _ => (.error .invalidState, m)

/-- Capabilities of the other end arrive. -/
def onCapabilities (m : DlpManagedEndpoint T) (kind : DlpCapabilityKind) (profiles rates : U8) :
    Except Error Unit × DlpManagedEndpoint T :=
  if m.state ≠ .negotiate then (.error .invalidState, m)
  else
    andThen
      (match kind with
        | .offer => m.onCapabilityOffer profiles rates
        | .selection => m.onCapabilitySelection profiles rates
        | .confirmation => m.onCapabilityConfirmation profiles rates)
      (fun _ m => m.maybeInstallProfile)

/-- The other end offers parameters. -/
def onParameterOffer (m : DlpManagedEndpoint T) (rx burst : U32) :
    Except Error Unit × DlpManagedEndpoint T :=
  if m.peerParamsOffer.isSome ∧ m.peerParamsOffer ≠ some ⟨rx, burst⟩ then
    (.error .invalidField, m)
  else
    let selectedBurst := minU32 m.maxBurstFlits burst
    let m := { m with
      peerParamsOffer := some ⟨rx, burst⟩
      selectedPeerRx := some rx
      selectedBurst := some selectedBurst }
    if !m.paramsSelectionSent then
      match encodeParameterUnits rx with
      | .error err => (.error err, m)
      | .ok rxWindowUnits =>
        match encodeParameterUnits selectedBurst with
        | .error err => (.error err, m)
        | .ok burstUnits =>
          (.ok (), { m.queueControl (.linkParameters .selection m.localGeneration rxWindowUnits
            burstUnits) with paramsSelectionSent := true })
    else (.ok (), m)

/-- The other end selects parameters. -/
def onParameterSelection (m : DlpManagedEndpoint T) (rxWindowUnits burstUnits : U8)
    (rx burst : U32) : Except Error Unit × DlpManagedEndpoint T :=
  match m.peerParamsOffer with
  | none => (.error .invalidState, m)
  | some offer =>
    if rx ≠ m.endpointConfig.rxBufferFlits ∨ burst ≠ minU32 m.maxBurstFlits offer.maxBurstFlits then
      (.error .invalidField, m)
    else if !m.paramsConfirmationSent then
      (.ok (), { m.queueControl (.linkParameters .confirmation m.localGeneration rxWindowUnits
        burstUnits) with paramsConfirmationSent := true })
    else (.ok (), m)

/-- The other end confirms parameters. -/
def onParameterConfirmation (m : DlpManagedEndpoint T) (rx burst : U32) :
    Except Error Unit × DlpManagedEndpoint T :=
  match m.selectedPeerRx, m.selectedBurst with
  | some peerRx, some selectedBurst =>
    if rx ≠ peerRx ∨ burst ≠ selectedBurst then (.error .invalidField, m)
    else (.ok (), { m with paramsConfirmationReceived := true })
  | _, _ => (.error .invalidState, m)

/-- Parameters of the other end arrive. -/
def onLinkParameters (m : DlpManagedEndpoint T) (kind : DlpCapabilityKind)
    (rxWindowUnits burstUnits : U8) : Except Error Unit × DlpManagedEndpoint T :=
  if m.state ≠ .negotiate then (.error .invalidState, m)
  else
    match decodeParameterUnits rxWindowUnits with
    | .error err => (.error err, m)
    | .ok rx =>
      match decodeParameterUnits burstUnits with
      | .error err => (.error err, m)
      | .ok burst =>
        andThen
          (match kind with
            | .offer => m.onParameterOffer rx burst
            | .selection => m.onParameterSelection rxWindowUnits burstUnits rx burst
            | .confirmation => m.onParameterConfirmation rx burst)
          (fun _ m => m.maybeInstallProfile)

/-- The other end resets the link. -/
def onReset (m : DlpManagedEndpoint T) (senderGeneration : U8) :
    Except Error Unit × DlpManagedEndpoint T :=
  if m.peerGeneration ≠ some senderGeneration then (.ok (), m)
  else
    (.ok (), { { m with
        endpoint := m.endpoint.linkDetached
        controlTx := []
        peerGeneration := none
        localGeneration := nextGeneration m.localGeneration }.clearNegotiationState with
      state := .hello }.queueHelloInitial)

/-- The frame is of the generation that the other end is known to have. -/
def frameIsCurrent (m : DlpManagedEndpoint T) (senderGeneration : U8) : Bool :=
  m.peerGeneration = some senderGeneration

/-- A control frame arrives. -/
def onFrame (m : DlpManagedEndpoint T) : DlpControlFrame → Except Error Unit × DlpManagedEndpoint T
  | .hello kind senderGeneration peerGeneration => m.onHello kind senderGeneration peerGeneration
  | .reset senderGeneration _ => m.onReset senderGeneration
  | .capabilities kind senderGeneration profiles rates =>
    if !m.frameIsCurrent senderGeneration then (.ok (), m)
    else m.onCapabilities kind profiles rates
  | .linkParameters kind senderGeneration rxWindowUnits burstUnits =>
    if !m.frameIsCurrent senderGeneration then (.ok (), m)
    else m.onLinkParameters kind rxWindowUnits burstUnits

/-- The bytes of a control frame arrive. -/
def receiveControl (m : DlpManagedEndpoint T) (bytes : Bytes) :
    Except Error Unit × DlpManagedEndpoint T :=
  match DlpControlFrame.decode bytes with
  | .error err => (.error err, m)
  | .ok frame => m.onFrame frame

/-! ### The data path -/

/-- Data may be sent and received. -/
def dataPathActive (m : DlpManagedEndpoint T) : Bool :=
  m.state = .creditSync || m.state = .up

/-- Count the polls that find more data than credit, and ask for credit again after some. -/
def maybeRetryDataCreditRequest (m : DlpManagedEndpoint T) : DlpManagedEndpoint T :=
  if m.state ≠ .up then { m with creditStallPolls := 0#8 }
  else
    let queued := m.endpoint.dlp.queuedDataFlits
    let credit := m.endpoint.dlp.dataTxCredit.toNat
    if queued = 0 ∨ queued ≤ credit then { m with creditStallPolls := 0#8 }
    else
      let polls := saturatingAdd m.creditStallPolls 1#8
      if creditRequestRetryPolls ≤ polls then
        { m with
          endpoint := m.endpoint.retryManagedLinkCreditRequest
          creditStallPolls := 0#8 }
      else { m with creditStallPolls := polls }

/-- The next flit to be sent. -/
def pollTxFlit (m : DlpManagedEndpoint T) : Except Error (Option Flit) × DlpManagedEndpoint T :=
  if !m.dataPathActive then (.error .linkDown, m)
  else
    let m := m.maybeRetryDataCreditRequest
    (m.endpoint.pollTxFlit.1, { m with endpoint := m.endpoint.pollTxFlit.2 })

/-- The next frame to be sent. -/
def pollTxFrame (m : DlpManagedEndpoint T) :
    Except Error (Option GnetFrame) × DlpManagedEndpoint T :=
  if !m.dataPathActive then (.error .linkDown, m)
  else
    let m := m.maybeRetryDataCreditRequest
    (m.endpoint.pollTxFrame.1, { m with endpoint := m.endpoint.pollTxFrame.2 })

/-- A flit arrives. -/
def receiveFlit (m : DlpManagedEndpoint T) (flit : Flit) (now : U64) :
    Except Error Bool × DlpManagedEndpoint T :=
  if !m.dataPathActive then (.error .linkDown, m)
  else
    match m.negotiated with
    | none => (.error .invalidState, m)
    | some profile =>
      let (r, endpoint) := m.endpoint.receiveManagedFlit flit now profile.peerRxBufferFlits
      (r, { m with endpoint })

/-- A frame arrives. -/
def receiveFrame (m : DlpManagedEndpoint T) (frame : GnetFrame) (now : U64) :
    Except Error Bool × DlpManagedEndpoint T :=
  if !m.dataPathActive then (.error .linkDown, m)
  else
    match m.negotiated with
    | none => (.error .invalidState, m)
    | some profile =>
      let (r, endpoint) := m.endpoint.receiveManagedFrame frame now profile.peerRxBufferFlits
      (r, { m with endpoint })

/-- The other end has the given address; the first credit is given to it. -/
def bindCreditPeer (m : DlpManagedEndpoint T) (peer : GdpAddress) :
    Except Error Unit × DlpManagedEndpoint T :=
  if m.state ≠ .creditSync then (.error .invalidState, m)
  else
    let (r, endpoint) := m.endpoint.bindManagedLinkPeer peer dlpReservedControlWindowFlits
    (r, { m with endpoint })

/-- The first credit has arrived. -/
def finishCreditSync (m : DlpManagedEndpoint T) : Except Error (DlpManagedEndpoint T) :=
  if m.state ≠ .creditSync then .error .invalidState
  else if m.endpoint.dlp.dataTxCredit = 0#32 then .error .noCredit
  else .ok { m with state := .up }

end DlpManagedEndpoint

end SmolGnet
