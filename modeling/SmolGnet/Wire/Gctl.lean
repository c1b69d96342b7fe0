import SmolGnet.Wire.Gdp

/-!
# GCTL messages

The control messages of the network: requests and grants of link credit, the discovery of
routers, the assignment of addresses, and echoes.  A message has a head of 8 bytes and a
body; the bodies of the typed messages may be padded with zeros.
-/

namespace SmolGnet

open Octets

/-! ### Types of messages -/

/-- The types of messages. -/
inductive GctlType where
  | solicit
  | advertise
  | creditRequest
  | credit
  | nodeAnnounce
  | reannounceSolicit
  | addressOffer
  | addressClaim
  | addressAck
  | addressNak
  | echoRequest
  | echoReply
  | destinationUnreachable
  | hopLimitExceeded
  | parameterProblem
  | classUnsupported
  | transitAborted
  | pathProbe
  | pathReply
  | statusRequest
  | statusReply
  | getRequest
  | getReply
  | getNextRequest
  | getNextReply
  | eventReport
  | experimental
  deriving DecidableEq, Repr

namespace GctlType

/-- Every type of message. -/
def all : List GctlType :=
  [solicit, advertise, creditRequest, credit, nodeAnnounce, reannounceSolicit, addressOffer,
    addressClaim, addressAck, addressNak, echoRequest, echoReply, destinationUnreachable,
    hopLimitExceeded, parameterProblem, classUnsupported, transitAborted, pathProbe, pathReply,
    statusRequest, statusReply, getRequest, getReply, getNextRequest, getNextReply, eventReport,
    experimental]

/-- The number of the type, `self as u8`. -/
def toWire : GctlType → U8
  | solicit => 0x01#8
  | advertise => 0x02#8
  | creditRequest => 0x03#8
  | credit => 0x04#8
  | nodeAnnounce => 0x05#8
  | reannounceSolicit => 0x06#8
  | addressOffer => 0x10#8
  | addressClaim => 0x11#8
  | addressAck => 0x12#8
  | addressNak => 0x13#8
  | echoRequest => 0x20#8
  | echoReply => 0x21#8
  | destinationUnreachable => 0x22#8
  | hopLimitExceeded => 0x23#8
  | parameterProblem => 0x24#8
  | classUnsupported => 0x25#8
  | transitAborted => 0x26#8
  | pathProbe => 0x28#8
  | pathReply => 0x29#8
  | statusRequest => 0x30#8
  | statusReply => 0x31#8
  | getRequest => 0x32#8
  | getReply => 0x33#8
  | getNextRequest => 0x34#8
  | getNextReply => 0x35#8
  | eventReport => 0x36#8
  | experimental => 0xff#8

/-- The type with the number `v`. -/
def fromWire (v : U8) : Except Error GctlType :=
  match all.find? (fun t => t.toWire = v) with
  | some t => .ok t
  | none => .error .unsupported

theorem fromWire_toWire (t : GctlType) :
  fromWire t.toWire = .ok t
  := by cases t <;> rfl

end GctlType

/-- The number of a kind of service. -/
structure ServiceType where
  code : U16
  deriving DecidableEq, Repr

/-- The service of a router. -/
def ServiceType.router : ServiceType := ⟨0x0001#16⟩

/-- How far a search goes. -/
inductive DiscoveryScope where
  | link
  deriving DecidableEq, Repr

namespace DiscoveryScope

/-- The number of the scope, `self as u8`. -/
def toWire : DiscoveryScope → U8
  | link => 0#8

/-- The scope with the number `v`. -/
def fromWire (v : U8) : Except Error DiscoveryScope :=
  if v = 0#8 then .ok link else .error .unsupported

end DiscoveryScope

/-! ### The typed messages -/

structure CreditRequest where
  requestedFlits : U32
  deriving DecidableEq, Repr

structure CreditGrant where
  grantedFlits : U32
  deriving DecidableEq, Repr

structure Solicit where
  serviceType : ServiceType
  scope : DiscoveryScope
  deriving DecidableEq, Repr

structure Advertise where
  serviceType : ServiceType
  preference : U8
  provider : GdpAddress
  lifetime : U32
  capabilities : U32
  deriving DecidableEq, Repr

structure NodeAnnounce where
  node : GdpAddress
  nonce : U64
  capabilities : U32
  deriving DecidableEq, Repr

structure ReannounceSolicit where
  scope : DiscoveryScope
  deriving DecidableEq, Repr

structure AddressOffer where
  router : GdpAddress
  addressPrefix : U64
  prefixLen : U8
  candidate : GdpAddress
  lifetime : U32
  deriving DecidableEq, Repr

structure AddressClaim where
  candidate : GdpAddress
  nonce : U64
  deriving DecidableEq, Repr

structure AddressAck where
  candidate : GdpAddress
  lifetime : U32
  deriving DecidableEq, Repr

structure AddressNak where
  candidate : GdpAddress
  reason : U8
  retryDelay : U32
  deriving DecidableEq, Repr

/-- The bits of an address that belong to a prefix of the given length. -/
def prefixMask (prefixLen : U8) : Except Error U64 :=
  if prefixLen = 16#8 ∨ prefixLen = 32#8 ∨ prefixLen = 48#8 ∨ prefixLen = 56#8 then
    .ok (BitVec.allOnes 64 <<< (64 - prefixLen.toNat))
  else .error .invalidField

/-- The prefix without the bits beyond its length. -/
def normalizePrefix (addressPrefix : U64) (prefixLen : U8) : Except Error U64 :=
  match prefixMask prefixLen with
  | .error err => .error err
  | .ok mask => .ok (addressPrefix &&& mask)

/-- The address has the prefix. -/
def addressMatchesPrefix (address : GdpAddress) (addressPrefix : U64) (prefixLen : U8) :
    Except Error Bool :=
  match prefixMask prefixLen with
  | .error err => .error err
  | .ok mask => .ok (address.value &&& mask = addressPrefix &&& mask)

/-! ### Messages -/

/-- A message. -/
structure GctlMessage where
  version : U8
  messageType : GctlType
  code : U8
  flags : U8
  transactionId : U32
  body : Bytes
  deriving DecidableEq, Repr

namespace GctlMessage

/-- A message of the current version. -/
def new (messageType : GctlType) (transactionId : U32) (body : Bytes) : GctlMessage :=
  ⟨1#8, messageType, 0#8, 0#8, transactionId, body⟩

/-- The length of the message without padding. -/
def encodedLen (msg : GctlMessage) : ℕ :=
  8 + msg.body.length

/-- The smallest class that has room for the message. -/
def recommendedSizeClass (msg : GctlMessage) : Except Error SizeClass :=
  match SizeClass.smallestFor msg.encodedLen with
  | some c => .ok c
  | none => .error .messageTooLarge

/-- The bytes of the message, padded to the length `total`. -/
def encodeExact (msg : GctlMessage) (total : ℕ) : Except Error Bytes :=
  if msg.version ≠ 1#8 ∨ total < msg.encodedLen then .error .invalidLength
  else
    let out := List.replicate total 0#8
    let out := copyInto out 0 [msg.version, msg.messageType.toWire, msg.code, msg.flags]
    let out := copyInto out 4 (toBeBytes msg.transactionId)
    .ok (copyInto out 8 msg.body)

/-- The message that `buf` encodes. -/
def decode (buf : Bytes) : Except Error GctlMessage :=
  if buf.length < 8 then .error .invalidLength
  else if buf.getD 0 0#8 ≠ 1#8 then .error .unsupported
  else
    match GctlType.fromWire (buf.getD 1 0#8) with
    | .error err => .error err
    | .ok messageType =>
      .ok
        { version := buf.getD 0 0#8
          messageType
          code := buf.getD 2 0#8
          flags := buf.getD 3 0#8
          transactionId := fromBeBytes 32 (slice buf 4 4)
          body := buf.drop 8 }

/-- The first `len` bytes of the body of a message of the expected type; the others have to
be zeros. -/
def typedBody (msg : GctlMessage) (expected : GctlType) (len : ℕ) : Except Error Bytes :=
  if msg.messageType ≠ expected ∨ msg.body.length < len then .error .invalidLength
  else if (msg.body.drop len).any (fun b => b ≠ 0#8) then .error .invalidField
  else .ok (msg.body.take len)

/-- The answer to an echo. -/
def echoReply (msg : GctlMessage) : Except Error GctlMessage :=
  if msg.messageType ≠ .echoRequest then .error .invalidState
  else .ok { msg with messageType := .echoReply }

/-- A request for link credit. -/
def creditRequest (transactionId requestedFlits : U32) : GctlMessage :=
  new .creditRequest transactionId (toBeBytes requestedFlits)

def parseCreditRequest (msg : GctlMessage) : Except Error CreditRequest := do
  let b ← msg.typedBody .creditRequest 4
  return { requestedFlits := fromBeBytes 32 b }

/-- A grant of link credit. -/
def credit (transactionId grantedFlits : U32) : GctlMessage :=
  new .credit transactionId (toBeBytes grantedFlits)

def parseCredit (msg : GctlMessage) : Except Error CreditGrant := do
  let b ← msg.typedBody .credit 4
  return { grantedFlits := fromBeBytes 32 b }

/-- A search for a service. -/
def solicit (transactionId : U32) (serviceType : ServiceType) (scope : DiscoveryScope) :
    GctlMessage :=
  new .solicit transactionId (toBeBytes serviceType.code ++ [scope.toWire, 0#8])

def parseSolicit (msg : GctlMessage) : Except Error Solicit := do
  let b ← msg.typedBody .solicit 4
  if b.getD 3 0#8 ≠ 0#8 then .error .invalidField
  else
    let scope ← DiscoveryScope.fromWire (b.getD 2 0#8)
    return { serviceType := ⟨fromBeBytes 16 (slice b 0 2)⟩, scope }

/-- The offer of a service. -/
def advertise (transactionId : U32) (advertise : Advertise) : GctlMessage :=
  new .advertise transactionId
    (toBeBytes advertise.serviceType.code ++ [advertise.preference, 0#8]
      ++ toBeBytes advertise.provider.value ++ toBeBytes advertise.lifetime
      ++ toBeBytes advertise.capabilities)

def parseAdvertise (msg : GctlMessage) : Except Error Advertise := do
  let b ← msg.typedBody .advertise 20
  if b.getD 3 0#8 ≠ 0#8 then .error .invalidField
  else
    .ok
      { serviceType := ⟨fromBeBytes 16 (slice b 0 2)⟩
        preference := b.getD 2 0#8
        provider := ⟨fromBeBytes 64 (slice b 4 8)⟩
        lifetime := fromBeBytes 32 (slice b 12 4)
        capabilities := fromBeBytes 32 (slice b 16 4) }

/-- A node tells of itself. -/
def nodeAnnounce (transactionId : U32) (announce : NodeAnnounce) : GctlMessage :=
  new .nodeAnnounce transactionId
    (toBeBytes announce.node.value ++ toBeBytes announce.nonce ++ toBeBytes announce.capabilities)

def parseNodeAnnounce (msg : GctlMessage) : Except Error NodeAnnounce := do
  let b ← msg.typedBody .nodeAnnounce 20
  .ok
    { node := ⟨fromBeBytes 64 (slice b 0 8)⟩
      nonce := fromBeBytes 64 (slice b 8 8)
      capabilities := fromBeBytes 32 (slice b 16 4) }

/-- The nodes of a link are asked to tell of themselves again. -/
def reannounceSolicit (transactionId : U32) (scope : DiscoveryScope) : GctlMessage :=
  new .reannounceSolicit transactionId [scope.toWire, 0#8, 0#8, 0#8]

def parseReannounceSolicit (msg : GctlMessage) : Except Error ReannounceSolicit := do
  let b ← msg.typedBody .reannounceSolicit 4
  if (slice b 1 3).any (fun v => v ≠ 0#8) then .error .invalidField
  else
    let scope ← DiscoveryScope.fromWire (b.getD 0 0#8)
    return { scope }

/-- The prefix of an offer is normalized and the offered address has it. -/
def validateOffer (offer : AddressOffer) : Except Error Unit := do
  let normalized ← normalizePrefix offer.addressPrefix offer.prefixLen
  if normalized ≠ offer.addressPrefix then .error .invalidField
  else
    let fits ← addressMatchesPrefix offer.candidate offer.addressPrefix offer.prefixLen
    if !fits then .error .invalidField else .ok ()

/-- The offer of an address. -/
def addressOffer (transactionId : U32) (offer : AddressOffer) : Except Error GctlMessage := do
  validateOffer offer
  return new .addressOffer transactionId
    (toBeBytes offer.router.value ++ toBeBytes offer.addressPrefix
      ++ [offer.prefixLen, 0#8, 0#8, 0#8] ++ toBeBytes offer.candidate.value
      ++ toBeBytes offer.lifetime)

def parseAddressOffer (msg : GctlMessage) : Except Error AddressOffer := do
  let b ← msg.typedBody .addressOffer 32
  if (slice b 17 3).any (fun v => v ≠ 0#8) then .error .invalidField
  else
    let offer : AddressOffer :=
      { router := ⟨fromBeBytes 64 (slice b 0 8)⟩
        addressPrefix := fromBeBytes 64 (slice b 8 8)
        prefixLen := b.getD 16 0#8
        candidate := ⟨fromBeBytes 64 (slice b 20 8)⟩
        lifetime := fromBeBytes 32 (slice b 28 4) }
    validateOffer offer
    return offer

/-- The claim of an address that was offered. -/
def addressClaim (transactionId : U32) (claim : AddressClaim) : GctlMessage :=
  new .addressClaim transactionId (toBeBytes claim.candidate.value ++ toBeBytes claim.nonce)

def parseAddressClaim (msg : GctlMessage) : Except Error AddressClaim := do
  let b ← msg.typedBody .addressClaim 16
  .ok
    { candidate := ⟨fromBeBytes 64 (slice b 0 8)⟩
      nonce := fromBeBytes 64 (slice b 8 8) }

/-- The claim is accepted. -/
def addressAck (transactionId : U32) (ack : AddressAck) : GctlMessage :=
  new .addressAck transactionId (toBeBytes ack.candidate.value ++ toBeBytes ack.lifetime)

def parseAddressAck (msg : GctlMessage) : Except Error AddressAck := do
  let b ← msg.typedBody .addressAck 12
  .ok
    { candidate := ⟨fromBeBytes 64 (slice b 0 8)⟩
      lifetime := fromBeBytes 32 (slice b 8 4) }

/-- The claim is refused. -/
def addressNak (transactionId : U32) (nak : AddressNak) : GctlMessage :=
  { new .addressNak transactionId
      (toBeBytes nak.candidate.value ++ toBeBytes nak.retryDelay) with code := nak.reason }

def parseAddressNak (msg : GctlMessage) : Except Error AddressNak := do
  let b ← msg.typedBody .addressNak 12
  .ok
    { candidate := ⟨fromBeBytes 64 (slice b 0 8)⟩
      reason := msg.code
      retryDelay := fromBeBytes 32 (slice b 8 4) }

/-! ### Reading a message back -/

/-- The bytes of a message: the head, the body, and zeros. -/
theorem encodeExact_eq {msg : GctlMessage} {total : ℕ} (hversion : msg.version = 1#8)
    (htotal : msg.encodedLen ≤ total) :
  msg.encodeExact total = .ok ([msg.version, msg.messageType.toWire, msg.code, msg.flags]
    ++ (toBeBytes msg.transactionId ++ (msg.body ++ List.replicate (total - msg.encodedLen) 0#8)))
  := by
  have hid : (toBeBytes msg.transactionId).length = 4 := length_toBeBytes _
  rw [encodeExact, if_neg (by simp only [hversion, ne_eq, not_true, false_or]; omega)]
  dsimp only
  rw [copyInto_zero, copyInto_append (n := 4) rfl, ← List.append_assoc,
    copyInto_append (n := 8) (by simp [hid])]
  simp only [List.length_cons, List.length_nil, hid, List.drop_replicate, List.append_assoc,
    Nat.zero_add]
  rw [encodedLen, show total - (1 + 1 + 1 + 1) - 4 - msg.body.length
    = total - (8 + msg.body.length) by omega]

/-- A message that was encoded is read back with the padding in its body. -/
theorem decode_encodeExact {msg : GctlMessage} {total : ℕ} (hversion : msg.version = 1#8)
    (htotal : msg.encodedLen ≤ total) :
  ∃ bytes, msg.encodeExact total = .ok bytes ∧ bytes.length = total ∧
    decode bytes = .ok { msg with
      body := msg.body ++ List.replicate (total - msg.encodedLen) 0#8 }
  := by
  have hid : (toBeBytes msg.transactionId).length = 4 := length_toBeBytes _
  refine ⟨_, encodeExact_eq hversion htotal, ?_, ?_⟩
  · simp only [List.length_append, List.length_cons, List.length_nil, hid, List.length_replicate]
    rw [encodedLen] at htotal ⊢
    omega
  · rw [decode, if_neg (by simp [hid]), if_neg (by simp [hversion])]
    simp only [List.cons_append, List.nil_append, List.getD_cons_succ, List.getD_cons_zero,
      GctlType.fromWire_toWire]
    congr 2
    rw [slice, List.drop_succ_cons, List.drop_succ_cons, List.drop_succ_cons,
      List.drop_succ_cons, List.drop_zero, List.take_left' hid, fromBeBytes_toBeBytes rfl]

/-- The padding of a typed body is taken off. -/
theorem typedBody_padded {msg : GctlMessage} {t : GctlType} {body : Bytes} {n k : ℕ}
    (ht : msg.messageType = t) (hn : body.length = n)
    (hbody : msg.body = body ++ List.replicate k 0#8) :
  msg.typedBody t n = .ok body
  := by
  subst hn
  rw [typedBody, if_neg (by simp [ht, hbody]), hbody, List.drop_left, if_neg (by simp),
    List.take_left]

/-- An acknowledgement is read back, whatever the padding. -/
theorem parseAddressAck_padded (transactionId : U32) (ack : AddressAck) (k : ℕ) :
  parseAddressAck { addressAck transactionId ack with
    body := (addressAck transactionId ack).body ++ List.replicate k 0#8 } = .ok ack
  := by
  have hvalue : (toBeBytes ack.candidate.value).length = 8 := length_toBeBytes _
  have hlifetime : (toBeBytes ack.lifetime).length = 4 := length_toBeBytes _
  have hlen : (toBeBytes ack.candidate.value ++ toBeBytes ack.lifetime).length = 12 := by
    rw [List.length_append, hvalue, hlifetime]
  have htail := slice_append hvalue hlifetime []
  rw [List.append_nil] at htail
  rw [parseAddressAck, typedBody_padded (t := .addressAck) rfl hlen rfl]
  dsimp only [bind, Except.bind]
  rw [slice_zero_append hvalue, htail, fromBeBytes_toBeBytes rfl, fromBeBytes_toBeBytes rfl]

/-- Only an acknowledgement is read as one. -/
theorem messageType_of_parseAddressAck {msg : GctlMessage} {ack : AddressAck}
    (h : msg.parseAddressAck = .ok ack) :
  msg.messageType = .addressAck
  := by
  rw [parseAddressAck, bind_eq_ok] at h
  obtain ⟨body, hbody, -⟩ := h
  rw [typedBody] at hbody
  split at hbody
  · cases hbody
  · next hok => exact not_not.mp (not_or.mp hok).1

end GctlMessage

/-! ### Credit -/

/-- The credit that a packet brings. -/
def creditOf (packet : GdpPacket) : Option U32 :=
  if packet.header.packetType = .gctl then
    match GctlMessage.decode packet.payload with
    | .ok msg =>
      if msg.messageType = .credit then msg.parseCredit.toOption.map (·.grantedFlits) else none
    | .error _ => none
  else none

/-- A message that is no `CREDIT` brings no credit. -/
theorem creditOf_of_messageType {packet : GdpPacket} {msg : GctlMessage}
    (hdecode : GctlMessage.decode packet.payload = .ok msg) (hmsg : msg.messageType ≠ .credit) :
  creditOf packet = none
  := by
  rw [creditOf, hdecode]
  dsimp only
  rw [if_neg hmsg]
  exact ite_self none

/-- The credit is that of the payload; the addresses do not matter. -/
theorem creditOf_congr {packet packet' : GdpPacket}
    (htype : packet'.header.packetType = packet.header.packetType)
    (hpayload : packet'.payload = packet.payload) :
  creditOf packet' = creditOf packet
  := by
  rw [creditOf, creditOf, htype, hpayload]

/-- What a packet that brings credit holds. -/
theorem creditOf_eq_some {packet : GdpPacket} {count : U32} (h : creditOf packet = some count) :
  packet.header.packetType = .gctl ∧ ∃ msg, GctlMessage.decode packet.payload = .ok msg ∧
    msg.messageType = .credit ∧ msg.parseCredit = .ok ⟨count⟩
  := by
  rw [creditOf] at h
  split at h
  next htype =>
    split at h
    · next msg hmsg =>
      split at h
      · next hcredit =>
        refine ⟨htype, msg, hmsg, hcredit, ?_⟩
        cases hparse : msg.parseCredit with
        | error err =>
          rw [hparse] at h
          cases h
        | ok credit =>
          rw [hparse] at h
          cases h
          rfl
      · cases h
    · cases h
  · cases h

end SmolGnet
