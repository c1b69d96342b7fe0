import SmolGnet.Dlp.Endpoint
import SmolGnet.Wire.Gctl

/-!
# Endpoints on a link

A `LinkedEndpoint` is a whole endpoint: its addresses, its end of a link, and its transport.
Control messages travel on the control channel of the link.  Some of them govern the link
itself: a `CREDIT` message gives the other end credit for data flits, and a `CREDIT_REQUEST`
asks for some.

The transport is a parameter.  All that the link needs to know of it is which packets it
asks to be sent when a packet arrives or when the application does something: the payloads,
their size classes and their destinations, in the order in which they are sent, and the
outcome of the operation if all of them can be sent.  A transport changes its state before
it sends, and the first packet that cannot be queued ends the operation.
-/

namespace SmolGnet

open Octets

/-! ### Addresses -/

/-- The prefix of the addresses that are valid on one link only. -/
def linkLocalPrefix : U64 := 0xfe80000000000000#64

/-- The bits of a link-local address that its endpoint chooses. -/
def linkLocalSuffixMask : U64 := 0x0000ffffffffffff#64

/-- Where a router is searched for. -/
def bootstrapAddress : GdpAddress := ⟨linkLocalPrefix⟩

/-- The link-local address with the given suffix. -/
def makeLinkLocal (suffix : U64) : Except Error GdpAddress :=
  let suffix := suffix &&& linkLocalSuffixMask
  if suffix = 0#64 then .error .invalidField else .ok ⟨linkLocalPrefix ||| suffix⟩

/-- The configuration of an endpoint. -/
structure EndpointConfig where
  rxBufferFlits : U32
  vcMode : VcMode
  gtsReceiveSlots : U8
  localContextPrefix : Option U64
  preferLocalGdp : Bool
  creditUpdateThreshold : U32
  controlWindowFlits : U32
  gdpWire : GdpWireConfig
  deriving DecidableEq, Repr

/-- The sizes of a configuration are not 0. -/
def EndpointConfig.validate (config : EndpointConfig) : Except Error EndpointConfig :=
  if config.rxBufferFlits = 0#32 ∨ config.gtsReceiveSlots = 0#8 ∨
    config.controlWindowFlits = 0#32 ∨ config.creditUpdateThreshold = 0#32 then
    .error .invalidField
  else .ok config

/-- How far an endpoint has got with its address. -/
inductive AddressState where
  | static
  | linkLocalOnly
  | soliciting (transactionId : U32)
  | offered (transactionId : U32) (router candidate : GdpAddress)
  | assigned (address router : GdpAddress) (lifetime : U32)
  | rejected (reason : U8) (retryDelay : U32)
  deriving DecidableEq, Repr

/-- What an endpoint that assigns addresses has to know. -/
structure AddressAuthorityConfig where
  addressPrefix : U64
  prefixLen : U8
  lifetime : U32
  preference : U8
  capabilities : U32
  deriving DecidableEq, Repr

/-- An address that has been offered and not yet claimed. -/
structure PendingAuthorityOffer where
  client : GdpAddress
  candidate : GdpAddress
  deriving DecidableEq, Repr

/-- An endpoint that assigns addresses.  The leases are found by the value of the address. -/
structure AddressAuthority where
  config : AddressAuthorityConfig
  nextHost : U64
  pending : BTreeMap U32 PendingAuthorityOffer
  leases : BTreeMap U64 GdpAddress
  deriving DecidableEq

namespace AddressAuthority

/-- An authority that has assigned no address. -/
def new (config : AddressAuthorityConfig) : AddressAuthority where
  config := config
  nextHost := 1#64
  pending := ∅
  leases := ∅

/-- The address has been leased or offered. -/
def candidateInUse (authority : AddressAuthority) (candidate : GdpAddress) : Bool :=
  authority.leases.contains candidate.value ||
    authority.pending.values.any (fun p => p.candidate = candidate)

/-- The bits of an address that number the hosts. -/
def hostMask (authority : AddressAuthority) : U64 :=
  (1#64 <<< (64 - authority.config.prefixLen.toNat)) - 1#64

/-- Try host numbers one after the other. -/
def searchCandidate (router : GdpAddress) :
    ℕ → AddressAuthority → Except Error GdpAddress × AddressAuthority
  | 0, authority => (.error .bufferFull, authority)
  | attempts + 1, authority =>
    let host := authority.nextHost &&& authority.hostMask
    let next := (authority.nextHost + 1#64) &&& authority.hostMask
    let authority := { authority with nextHost := if next = 0#64 then 1#64 else next }
    let candidate : GdpAddress := ⟨authority.config.addressPrefix ||| host⟩
    if host = 0#64 then searchCandidate router attempts authority
    else if candidate ≠ router ∧ !authority.candidateInUse candidate then
      (.ok candidate, authority)
    else searchCandidate router attempts authority

/-- An address that is not in use. -/
def allocateCandidate (authority : AddressAuthority) (router : GdpAddress) :
    Except Error GdpAddress × AddressAuthority :=
  searchCandidate router (max (min authority.hostMask.toNat 65535) 1) authority

end AddressAuthority

/-- The offer that a client has answered with a claim. -/
structure PendingClientOffer where
  transactionId : U32
  source : GdpAddress
  offer : AddressOffer
  deriving DecidableEq, Repr

/-! ### The endpoint -/

/-- A packet of the transport that is to be sent. -/
structure GtsSend where
  remote : GdpAddress
  sizeClass : SizeClass
  payload : Bytes

/-- A transport: its state, what the application can ask of it, and what it does then and
when a packet arrives.  Both functions are given the address of the endpoint. -/
structure Transport where
  State : Type
  Op : Type
  init : State
  handleGts : State → GdpAddress → GdpAddress → GdpPacket → U64 →
    Except Error Unit × State × List GtsSend
  app : State → GdpAddress → Op → Except Error Unit × State × List GtsSend

/-- A transport that sends nothing and takes nothing. -/
def Transport.silent : Transport where
  State := Unit
  Op := Unit
  init := ()
  handleGts _ _ _ _ _ := (.error .unsupported, (), [])
  app _ _ _ := (.ok (), (), [])

/-- A transport that sends what it is given and takes whatever arrives. -/
def Transport.direct : Transport where
  State := Unit
  Op := GtsSend
  init := ()
  handleGts _ _ _ _ _ := (.ok (), (), [])
  app _ _ x := (.ok (), (), [x])

/-- An endpoint with its link and a transport. -/
structure LinkedEndpoint (T : Transport) where
  config : EndpointConfig
  primaryAddress : GdpAddress
  linkLocalAddress : GdpAddress
  addressState : AddressState
  routerAddress : Option GdpAddress
  pendingClientOffer : Option PendingClientOffer
  authority : Option AddressAuthority
  nextClaimNonce : U64
  dlp : DlpEndpoint
  peerLinkLocal : Option GdpAddress
  creditRequestPending : Bool
  nextControlTransaction : U32
  transport : T.State
  echoReplies : BTreeMap U32 Bytes
  gctlInbox : List (GdpAddress × GctlMessage)
  lastRxAddressForm : Option AddressForm

namespace LinkedEndpoint

variable {T : Transport}

/-- An endpoint that is not attached. -/
def build (primaryAddress linkLocalAddress : GdpAddress) (addressState : AddressState)
    (config : EndpointConfig) : Except Error (LinkedEndpoint T) := do
  let dlp ← DlpEndpoint.new
    { gdp := config.gdpWire
      localPrefix := config.localContextPrefix.getD 0#64 &&& ~~~0xffff#64
      vcMode := config.vcMode
      rxBufferFlits := config.rxBufferFlits
      controlWindowFlits := config.controlWindowFlits }
  .ok
    { config, primaryAddress, linkLocalAddress, addressState
      routerAddress := none
      pendingClientOffer := none
      authority := none
      nextClaimNonce := 1#64
      dlp
      peerLinkLocal := none
      creditRequestPending := false
      nextControlTransaction := 0x80000000#32
      transport := T.init
      echoReplies := ∅
      gctlInbox := []
      lastRxAddressForm := none }

/-- An endpoint with a given address. -/
def new (address : GdpAddress) (config : EndpointConfig) : Except Error (LinkedEndpoint T) := do
  let config ← config.validate
  let suffix := address.value &&& linkLocalSuffixMask
  let linkLocalAddress ← makeLinkLocal (if suffix = 0#64 then 1#64 else suffix)
  build address linkLocalAddress .static config

/-- An endpoint that has to be assigned an address. -/
def unconfigured (linkLocalSuffix : U64) (config : EndpointConfig) :
    Except Error (LinkedEndpoint T) := do
  let config ← config.validate
  let linkLocalAddress ← makeLinkLocal linkLocalSuffix
  build linkLocalAddress linkLocalAddress .linkLocalOnly config

/-- An endpoint as it is made. -/
def Fresh (config : EndpointConfig) (e : LinkedEndpoint T) : Prop :=
  (∃ address, new address config = .ok e) ∨ ∃ suffix, unconfigured suffix config = .ok e

/-- The endpoint assigns addresses from now on. -/
def enableAddressAuthority (e : LinkedEndpoint T) (config : AddressAuthorityConfig) :
    LinkedEndpoint T :=
  { e with authority := some (.new config) }

/-- The number after `n`; it skips 0. -/
def nextTransaction (n : U32) : U32 :=
  if n + 1#32 < 1#32 then 1#32 else n + 1#32

/-- Use up a transaction number. -/
def useTransaction (e : LinkedEndpoint T) : LinkedEndpoint T :=
  { e with nextControlTransaction := nextTransaction e.nextControlTransaction }

/-! ### Sending -/

/-- The header of a packet, in the local form if it is preferred and both addresses are in the
local context. -/
def makeGdpHeader (e : LinkedEndpoint T) (packetType : GdpType) (sizeClass : SizeClass)
    (source destination : GdpAddress) : Except Error GdpHeader :=
  if e.config.preferLocalGdp ∧ destination ≠ bootstrapAddress then
    match e.config.localContextPrefix with
    | some localPrefix =>
      let localPrefix := localPrefix &&& ~~~0xffff#64
      if source.value &&& ~~~0xffff#64 = localPrefix ∧
        destination.value &&& ~~~0xffff#64 = localPrefix then
        GdpHeader.local packetType sizeClass 15#8 localPrefix (source.value.setWidth 16)
          (destination.value.setWidth 16)
      else .ok (GdpHeader.global packetType sizeClass 64#8 source destination)
    | none => .ok (GdpHeader.global packetType sizeClass 64#8 source destination)
  else .ok (GdpHeader.global packetType sizeClass 64#8 source destination)

/-- The packet of a control message. -/
def gctlPacket (e : LinkedEndpoint T) (source remote : GdpAddress) (msg : GctlMessage)
    (sizeClass : Option SizeClass) : Except Error GdpPacket := do
  let sizeClass ← match sizeClass with
    | some c => .ok c
    | none => msg.recommendedSizeClass
  let payload ← msg.encodeExact sizeClass.bytes
  let header ← e.makeGdpHeader .gctl sizeClass source remote
  GdpPacket.new header payload

/-- Queue a control message. -/
def sendGctlFrom (e : LinkedEndpoint T) (source remote : GdpAddress) (msg : GctlMessage)
    (sizeClass : Option SizeClass) : Except Error (LinkedEndpoint T) := do
  let packet ← e.gctlPacket source remote msg sizeClass
  let (_, dlp) ← e.dlp.queueControlPacket packet
  return { e with dlp }

/-- Queue a control message, if it can be queued. -/
def trySendGctlFrom (e : LinkedEndpoint T) (source remote : GdpAddress) (msg : GctlMessage)
    (sizeClass : Option SizeClass) : Except Error Unit × LinkedEndpoint T :=
  match e.sendGctlFrom source remote msg sizeClass with
  | .error err => (.error err, e)
  | .ok e => (.ok (), e)

/-- The application sends a control message. -/
def sendGctl (e : LinkedEndpoint T) (remote : GdpAddress) (msg : GctlMessage)
    (sizeClass : SizeClass) : Except Error Unit × LinkedEndpoint T :=
  e.trySendGctlFrom e.primaryAddress remote msg (some sizeClass)

/-- The packet of a payload of the transport. -/
def gtsPacket (e : LinkedEndpoint T) (x : GtsSend) : Except Error GdpPacket := do
  let header ← e.makeGdpHeader .gts x.sizeClass e.primaryAddress x.remote
  GdpPacket.new header x.payload

/-- Queue a packet of the transport. -/
def sendGts (e : LinkedEndpoint T) (x : GtsSend) : Except Error Unit × LinkedEndpoint T :=
  match e.gtsPacket x with
  | .error err => (.error err, e)
  | .ok packet =>
    match e.dlp.queueDataPacket packet with
    | (.error err, dlp) => (.error err, { e with dlp })
    | (.ok _, dlp) => (.ok (), { e with dlp })

/-- Queue packets of the transport, up to the first that cannot be queued. -/
def sendAllGts : List GtsSend → LinkedEndpoint T → Except Error Unit × LinkedEndpoint T
  | [], e => (.ok (), e)
  | x :: xs, e => andThen (e.sendGts x) (fun _ e => sendAllGts xs e)

/-- The outcome of an operation of the transport. -/
def runTransport (e : LinkedEndpoint T) (outcome : Except Error Unit × T.State × List GtsSend) :
    Except Error Unit × LinkedEndpoint T :=
  let e := { e with transport := outcome.2.1 }
  andThen (sendAllGts outcome.2.2 e) (fun _ e => (outcome.1, e))

/-- The application asks something of the transport. -/
def app (e : LinkedEndpoint T) (op : T.Op) : Except Error Unit × LinkedEndpoint T :=
  e.runTransport (T.app e.transport e.primaryAddress op)

/-- Send an echo. -/
def sendEcho (e : LinkedEndpoint T) (remote : GdpAddress) (transactionId : U32) (body : Bytes)
    (sizeClass : SizeClass) : Except Error Unit × LinkedEndpoint T :=
  e.sendGctl remote (.new .echoRequest transactionId body) sizeClass

/-- Take the answer to an echo. -/
def takeEchoReply (e : LinkedEndpoint T) (transactionId : U32) :
    Option Bytes × LinkedEndpoint T :=
  (e.echoReplies[transactionId]?, { e with echoReplies := e.echoReplies.erase transactionId })

/-- Take a message that was kept for the application. -/
def takeGctl (e : LinkedEndpoint T) :
    Option (GdpAddress × GctlMessage) × LinkedEndpoint T :=
  (e.gctlInbox.head?, { e with gctlInbox := e.gctlInbox.tail })

/-! ### Link credit -/

/-- Give the other end credit, and note that it has been given. -/
def sendCredit (e : LinkedEndpoint T) (peer : GdpAddress) (transactionId grant : U32) :
    Except Error Unit × LinkedEndpoint T :=
  match e.sendGctlFrom e.linkLocalAddress peer (.credit transactionId grant) none with
  | .error err => (.error err, e)
  | .ok e =>
    match e.dlp.noteDataCreditGranted grant with
    | .error err => (.error err, e)
    | .ok dlp => (.ok (), { e with dlp })

/-- Give the other end all the credit that can be given, unless that is less than the
threshold. -/
def advertiseLinkCredit (e : LinkedEndpoint T) (force : Bool) :
    Except Error Unit × LinkedEndpoint T :=
  match e.peerLinkLocal with
  | none => (.ok (), e)
  | some peer =>
    let grant := e.dlp.grantableDataCredit
    if grant = 0#32 then (.ok (), e)
    else if !force ∧ grant < e.config.creditUpdateThreshold then (.ok (), e)
    else e.useTransaction.sendCredit peer e.nextControlTransaction grant

/-- The other end of the link has the given address. -/
def onLinkAttached (e : LinkedEndpoint T) (peerLinkLocal : GdpAddress) :
    Except Error Unit × LinkedEndpoint T :=
  { e with peerLinkLocal := some peerLinkLocal }.advertiseLinkCredit true

/-- `n.min(u32::MAX as usize) as u32`. -/
def clampU32 (n : ℕ) : U32 :=
  BitVec.ofNat 32 (min n (2 ^ 32 - 1))

/-- `a.max(b)`. -/
def maxU32 (a b : U32) : U32 :=
  if a < b then b else a

/-- Ask for credit. -/
def sendCreditRequest (e : LinkedEndpoint T) (peer : GdpAddress) (requested : U32) :
    Except Error Unit × LinkedEndpoint T :=
  let msg := GctlMessage.creditRequest e.nextControlTransaction (maxU32 requested 1#32)
  let e := e.useTransaction
  match e.sendGctlFrom e.linkLocalAddress peer msg none with
  | .error err => (.error err, e)
  | .ok e => (.ok (), { e with creditRequestPending := true })

/-- Ask for credit when there is data to send and no credit at all. -/
def maybeRequestLinkCredit (e : LinkedEndpoint T) : Except Error Unit × LinkedEndpoint T :=
  if e.dlp.queuedDataFlits = 0 ∨ e.dlp.dataTxCredit ≠ 0#32 ∨ e.creditRequestPending then
    (.ok (), e)
  else
    match e.peerLinkLocal with
    | none => (.ok (), e)
    | some peer => e.sendCreditRequest peer (clampU32 e.dlp.queuedDataFlits)

/-! ### Addresses -/

/-- Search for a router. -/
def solicitRouter (e : LinkedEndpoint T) (transactionId : U32) :
    Except Error Unit × LinkedEndpoint T :=
  if e.addressState = .static then (.error .invalidState, e)
  else
    { e with addressState := .soliciting transactionId }.trySendGctlFrom e.linkLocalAddress
      bootstrapAddress (.solicit transactionId .router .link) none

/-- Another endpoint searches for a router.  The result is whether the search was answered. -/
def handleRouterSolicit (e : LinkedEndpoint T) (src : GdpAddress) (msg : GctlMessage) :
    Except Error Bool × LinkedEndpoint T :=
  match msg.parseSolicit with
  | .error err => (.error err, e)
  | .ok solicit =>
    if solicit.serviceType ≠ .router then (.ok false, e)
    else
      match e.authority with
      | none => (.ok false, e)
      | some authority =>
        match authority.allocateCandidate e.primaryAddress with
        | (.error err, authority) => (.error err, { e with authority := some authority })
        | (.ok candidate, authority) =>
          let offer : AddressOffer :=
            { router := e.primaryAddress
              addressPrefix := authority.config.addressPrefix
              prefixLen := authority.config.prefixLen
              candidate
              lifetime := authority.config.lifetime }
          let advertise : Advertise :=
            { serviceType := .router
              preference := authority.config.preference
              provider := e.primaryAddress
              lifetime := authority.config.lifetime
              capabilities := authority.config.capabilities }
          let authority := { authority with
            pending := authority.pending.insert msg.transactionId ⟨src, candidate⟩ }
          let e := { e with authority := some authority }
          andThen
            (e.trySendGctlFrom e.linkLocalAddress src (.advertise msg.transactionId advertise)
              none)
            (fun _ e =>
              match GctlMessage.addressOffer msg.transactionId offer with
              | .error err => (.error err, e)
              | .ok reply =>
                andThen (e.trySendGctlFrom e.linkLocalAddress src reply none)
                  (fun _ e => (.ok true, e)))

/-- A router offers an address. -/
def handleAddressOffer (e : LinkedEndpoint T) (src : GdpAddress) (msg : GctlMessage) :
    Except Error Unit × LinkedEndpoint T :=
  match msg.parseAddressOffer with
  | .error err => (.error err, e)
  | .ok offer =>
    if e.addressState ≠ .soliciting msg.transactionId then (.error .invalidState, e)
    else
      match addressMatchesPrefix offer.candidate offer.addressPrefix offer.prefixLen with
      | .error err => (.error err, e)
      | .ok false => (.error .invalidField, e)
      | .ok true =>
        let claim : AddressClaim := { candidate := offer.candidate, nonce := e.nextClaimNonce }
        let nonce := e.nextClaimNonce + 1#64
        let e := { e with
          routerAddress := some offer.router
          pendingClientOffer := some ⟨msg.transactionId, src, offer⟩
          addressState := .offered msg.transactionId offer.router offer.candidate
          nextClaimNonce := if nonce < 1#64 then 1#64 else nonce }
        e.trySendGctlFrom e.linkLocalAddress src (.addressClaim msg.transactionId claim) none

/-- Another endpoint claims an address.  The result is whether the claim was answered. -/
def handleAddressClaim (e : LinkedEndpoint T) (src : GdpAddress) (msg : GctlMessage) :
    Except Error Bool × LinkedEndpoint T :=
  match msg.parseAddressClaim with
  | .error err => (.error err, e)
  | .ok claim =>
    match e.authority with
    | none => (.ok false, e)
    | some authority =>
      match authority.pending[msg.transactionId]? with
      | some p =>
        if p.client = src ∧ p.candidate = claim.candidate then
          let authority := { authority with
            pending := authority.pending.erase msg.transactionId
            leases := authority.leases.insert p.candidate.value src }
          let e := { e with authority := some authority }
          let ack : AddressAck := ⟨p.candidate, authority.config.lifetime⟩
          andThen
            (e.trySendGctlFrom e.linkLocalAddress src (.addressAck msg.transactionId ack) none)
            (fun _ e => (.ok true, e))
        else
          andThen
            (e.trySendGctlFrom e.linkLocalAddress src
              (.addressNak msg.transactionId ⟨claim.candidate, 1#8, 1#32⟩) none)
            (fun _ e => (.ok true, e))
      | none =>
        andThen
          (e.trySendGctlFrom e.linkLocalAddress src
            (.addressNak msg.transactionId ⟨claim.candidate, 1#8, 1#32⟩) none)
          (fun _ e => (.ok true, e))

/-- The claim of this endpoint is accepted. -/
def handleAddressAck (e : LinkedEndpoint T) (msg : GctlMessage) :
    Except Error Unit × LinkedEndpoint T :=
  match msg.parseAddressAck with
  | .error err => (.error err, e)
  | .ok ack =>
    match e.pendingClientOffer with
    | none => (.error .invalidState, e)
    | some pending =>
      if pending.transactionId ≠ msg.transactionId ∨ pending.offer.candidate ≠ ack.candidate then
        (.error .invalidField, e)
      else
        let e := { e with
          primaryAddress := ack.candidate
          routerAddress := some pending.offer.router
          addressState := .assigned ack.candidate pending.offer.router ack.lifetime
          pendingClientOffer := none }
        if pending.offer.prefixLen = 48#8 then
          let localPrefix := pending.offer.addressPrefix &&& ~~~0xffff#64
          (.ok (), { e with
            config := { e.config with localContextPrefix := some localPrefix }
            dlp := e.dlp.setLocalPrefix localPrefix })
        else (.ok (), e)

/-- The claim of this endpoint is refused. -/
def handleAddressNak (e : LinkedEndpoint T) (msg : GctlMessage) :
    Except Error Unit × LinkedEndpoint T :=
  match msg.parseAddressNak with
  | .error err => (.error err, e)
  | .ok nak =>
    (.ok (), { e with
      addressState := .rejected nak.reason nak.retryDelay
      pendingClientOffer := none })

/-! ### Receiving -/

/-- Keep a message for the application. -/
def keepGctl (e : LinkedEndpoint T) (src : GdpAddress) (msg : GctlMessage) : LinkedEndpoint T :=
  { e with gctlInbox := e.gctlInbox ++ [(src, msg)] }

/-- The other end asks for credit; a request for 0 flits asks for all that can be given. -/
def handleCreditRequest (e : LinkedEndpoint T) (src : GdpAddress) (msg : GctlMessage) :
    Except Error Unit × LinkedEndpoint T :=
  match msg.parseCreditRequest with
  | .error err => (.error err, e)
  | .ok request =>
    let available := e.dlp.grantableDataCredit
    let grant :=
      if request.requestedFlits = 0#32 then available
      else if available < request.requestedFlits then available else request.requestedFlits
    if 0#32 < grant then e.sendCredit (e.peerLinkLocal.getD src) msg.transactionId grant
    else (.ok (), e)

/-- The other end gives credit. -/
def handleCredit (e : LinkedEndpoint T) (msg : GctlMessage) :
    Except Error Unit × LinkedEndpoint T :=
  match msg.parseCredit with
  | .error err => (.error err, e)
  | .ok credit =>
    (.ok (), { e with
      dlp := e.dlp.grantDataTxCredit credit.grantedFlits
      creditRequestPending := false })

/-- The offer of a service arrives. -/
def handleAdvertise (e : LinkedEndpoint T) (src : GdpAddress) (msg : GctlMessage) :
    Except Error Unit × LinkedEndpoint T :=
  match msg.parseAdvertise with
  | .error err => (.error err, e)
  | .ok advertise =>
    let e :=
      if advertise.serviceType = .router ∧ e.addressState = .soliciting msg.transactionId then
        { e with routerAddress := some advertise.provider }
      else e
    (.ok (), e.keepGctl src msg)

/-- A control message arrives. -/
def handleGctl (e : LinkedEndpoint T) (src : GdpAddress) (packet : GdpPacket) :
    Except Error Unit × LinkedEndpoint T :=
  match GctlMessage.decode packet.payload with
  | .error err => (.error err, e)
  | .ok msg =>
    match msg.messageType with
    | .creditRequest => e.handleCreditRequest src msg
    | .credit => e.handleCredit msg
    | .echoRequest =>
      match msg.echoReply with
      | .error err => (.error err, e)
      | .ok reply =>
        e.trySendGctlFrom e.primaryAddress src reply (some packet.header.sizeClass)
    | .echoReply => (.ok (), { e with echoReplies := e.echoReplies.insert msg.transactionId msg.body })
    | .solicit =>
      andThen (e.handleRouterSolicit src msg)
        (fun answered e => (.ok (), if answered then e else e.keepGctl src msg))
    | .advertise => e.handleAdvertise src msg
    | .addressOffer => e.handleAddressOffer src msg
    | .addressClaim =>
      andThen (e.handleAddressClaim src msg)
        (fun answered e => (.ok (), if answered then e else e.keepGctl src msg))
    | .addressAck => e.handleAddressAck msg
    | .addressNak => e.handleAddressNak msg
    | _ => (.ok (), e.keepGctl src msg)

/-- Packets for these addresses are for this endpoint. -/
def acceptsDestination (e : LinkedEndpoint T) (destination : GdpAddress) : Bool :=
  destination = e.primaryAddress || destination = e.linkLocalAddress ||
    destination = bootstrapAddress

/-- A packet arrives. -/
def handleGdp (e : LinkedEndpoint T) (packet : GdpPacket) (now : U64) :
    Except Error Unit × LinkedEndpoint T :=
  if !e.acceptsDestination packet.header.destination then (.error .invalidField, e)
  else
    let e := { e with lastRxAddressForm := some packet.header.addresses.form }
    let src := packet.header.source
    match packet.header.packetType with
    | .gctl => e.handleGctl src packet
    | .gts =>
      if packet.header.destination = bootstrapAddress then (.error .invalidField, e)
      else e.runTransport (T.handleGts e.transport e.primaryAddress src packet now)
    | .reserved _ => (.error .unsupported, e)

/-- What is done with a packet that the link has put together. -/
def handlePacket (e : LinkedEndpoint T) (packet : GdpPacket) (now : U64) :
    Except Error Bool × LinkedEndpoint T :=
  andThen (e.handleGdp packet now)
    (fun _ e => andThen (e.advertiseLinkCredit false) (fun _ e => (.ok true, e)))

/-- A flit arrives. -/
def receiveFlit (e : LinkedEndpoint T) (flit : Flit) (now : U64) :
    Except Error Bool × LinkedEndpoint T :=
  match e.dlp.receive flit with
  | (.error err, dlp) => (.error err, { e with dlp })
  | (.ok none, dlp) => (.ok false, { e with dlp })
  | (.ok (some packet), dlp) => { e with dlp }.handlePacket packet now

/-- A frame arrives. -/
def receiveFrame (e : LinkedEndpoint T) (frame : GnetFrame) (now : U64) :
    Except Error Bool × LinkedEndpoint T :=
  match e.dlp.receiveFrame frame with
  | (.error err, dlp) => (.error err, { e with dlp })
  | (.ok packet, dlp) => { e with dlp }.handlePacket packet now

/-! ### Transmission -/

/-- The next flit to be sent. -/
def pollTxFlit (e : LinkedEndpoint T) : Except Error (Option Flit) × LinkedEndpoint T :=
  andThen e.maybeRequestLinkCredit
    (fun _ e => (e.dlp.pollTx.1, { e with dlp := e.dlp.pollTx.2 }))

/-- The next frame to be sent. -/
def pollTxFrame (e : LinkedEndpoint T) : Except Error (Option GnetFrame) × LinkedEndpoint T :=
  andThen e.maybeRequestLinkCredit
    (fun _ e =>
      match e.dlp.pollTxFrame with
      | .error err => (.error err, e)
      | .ok (frame, dlp) => (.ok frame, { e with dlp }))

/-! ### The link -/

/-- The link is attached. -/
def linkAttached (e : LinkedEndpoint T) (peerLinkLocal : GdpAddress)
    (peerControlWindowFlits : U32) : Except Error Unit × LinkedEndpoint T :=
  if peerControlWindowFlits = 0#32 then (.error .invalidField, e)
  else
    { e with dlp := (e.dlp.setLinkUp true).grantControlTxCredit peerControlWindowFlits }.onLinkAttached
      peerLinkLocal

/-- The link is detached. -/
def linkDetached (e : LinkedEndpoint T) : LinkedEndpoint T :=
  { e with
    peerLinkLocal := none
    creditRequestPending := false
    dlp := e.dlp.setLinkUp false }

/-- The other end of a managed link has the given address. -/
def bindManagedLinkPeer (e : LinkedEndpoint T) (peerLinkLocal : GdpAddress)
    (peerControlWindowFlits : U32) : Except Error Unit × LinkedEndpoint T :=
  if peerControlWindowFlits = 0#32 then (.error .invalidField, e)
  else
    { e with
      peerLinkLocal := some peerLinkLocal
      creditRequestPending := false
      dlp := e.dlp.grantControlTxCredit peerControlWindowFlits }.advertiseLinkCredit true

/-- Ask again for credit when there is more data to send than credit. -/
def retryManagedLinkCreditRequest (e : LinkedEndpoint T) : LinkedEndpoint T :=
  let e := { e with creditRequestPending := false }
  let queued := e.dlp.queuedDataFlits
  let credit := e.dlp.dataTxCredit.toNat
  if queued = 0 ∨ queued ≤ credit then e
  else
    match e.peerLinkLocal with
    | none => e
    | some peer => (e.sendCreditRequest peer (clampU32 (queued - credit))).2

/-- A grant of credit does not take the credit above the limit. -/
def validateManagedCreditGrant (e : LinkedEndpoint T) (packet : GdpPacket) (peerLimit : U32) :
    Except Error Unit :=
  if packet.header.packetType ≠ .gctl then .ok ()
  else do
    let msg ← GctlMessage.decode packet.payload
    if msg.messageType ≠ .credit then .ok ()
    else
      let grant ← msg.parseCredit
      if grant.grantedFlits = 0#32 then .error .invalidField
      else if saturatingSub peerLimit e.dlp.dataTxCredit < grant.grantedFlits then
        .error .creditViolation
      else .ok ()

/-- What is done with a packet of a managed link. -/
def handleManagedPacket (e : LinkedEndpoint T) (packet : GdpPacket) (now : U64)
    (peerCreditLimit : U32) : Except Error Bool × LinkedEndpoint T :=
  match e.validateManagedCreditGrant packet peerCreditLimit with
  | .error err => (.error err, e)
  | .ok () => e.handlePacket packet now

/-- A flit of a managed link arrives. -/
def receiveManagedFlit (e : LinkedEndpoint T) (flit : Flit) (now : U64) (peerCreditLimit : U32) :
    Except Error Bool × LinkedEndpoint T :=
  match e.dlp.receive flit with
  | (.error err, dlp) => (.error err, { e with dlp })
  | (.ok none, dlp) => (.ok false, { e with dlp })
  | (.ok (some packet), dlp) => { e with dlp }.handleManagedPacket packet now peerCreditLimit

/-- A frame of a managed link arrives. -/
def receiveManagedFrame (e : LinkedEndpoint T) (frame : GnetFrame) (now : U64)
    (peerCreditLimit : U32) : Except Error Bool × LinkedEndpoint T :=
  match e.dlp.receiveFrame frame with
  | (.error err, dlp) => (.error err, { e with dlp })
  | (.ok packet, dlp) => { e with dlp }.handleManagedPacket packet now peerCreditLimit

end LinkedEndpoint

end SmolGnet
