import SmolGnet.Library.Checked
import SmolGnet.Wire.GctlTyped
import SmolGnet.Wire.GctlRouting

/-!
# The decoders of control messages do not panic

The decoders of GCTL messages, the parsers of their bodies and the decoder of routing messages step by
step, with all the indices, the slices, the shifts and the conversions to arrays that the program has.

A body is read only after its length was checked, and a mask is made only for a length of a prefix that
was checked.  So none of them panics, whatever the bytes are.
-/

namespace SmolGnet

open Octets Checked

/-! ### The prefixes of addresses -/

def prefixMaskChecked (prefixLen : U8) : Checked Error U64 :=
  if prefixLen = 16#8 ∨ prefixLen = 32#8 ∨ prefixLen = 48#8 ∨ prefixLen = 56#8 then do
    let n ← sub 64 prefixLen.toNat
    shl (BitVec.allOnes 64) n
  else throw .invalidField

def normalizePrefixChecked (addressPrefix : U64) (prefixLen : U8) : Checked Error U64 := do
  let mask ← prefixMaskChecked prefixLen
  return addressPrefix &&& mask

def addressMatchesPrefixChecked (address : GdpAddress) (addressPrefix : U64) (prefixLen : U8) :
    Checked Error Bool := do
  let mask ← prefixMaskChecked prefixLen
  return address.value &&& mask = addressPrefix &&& mask

theorem prefixMaskChecked_gives (prefixLen : U8) :
  Gives (prefixMaskChecked prefixLen) (prefixMask prefixLen)
  := by
  refine .ite (fun hlen => ?_) fun _ => .throw _
  have hbounds : 0 < prefixLen.toNat ∧ prefixLen.toNat ≤ 64 := by
    rcases hlen with rfl | rfl | rfl | rfl
    · decide
    · decide
    · decide
    · decide
  exact .ok_bind (.sub hbounds.2) (.shl _ (by omega))

theorem normalizePrefixChecked_gives (addressPrefix : U64) (prefixLen : U8) :
  Gives (normalizePrefixChecked addressPrefix prefixLen) (normalizePrefix addressPrefix prefixLen)
  := by
  have hmask := prefixMaskChecked_gives prefixLen
  rw [normalizePrefix]
  cases heq : prefixMask prefixLen with
  | error err =>
    rw [heq] at hmask
    exact hmask.error_bind
  | ok mask =>
    rw [heq] at hmask
    exact hmask.ok_bind (.pure _)

theorem addressMatchesPrefixChecked_gives (address : GdpAddress) (addressPrefix : U64)
    (prefixLen : U8) :
  Gives (addressMatchesPrefixChecked address addressPrefix prefixLen)
    (addressMatchesPrefix address addressPrefix prefixLen)
  := by
  have hmask := prefixMaskChecked_gives prefixLen
  rw [addressMatchesPrefix]
  cases heq : prefixMask prefixLen with
  | error err =>
    rw [heq] at hmask
    exact hmask.error_bind
  | ok mask =>
    rw [heq] at hmask
    exact hmask.ok_bind (.pure _)

namespace GdpPrefix

def prefixMaskChecked {ε : Type} (prefixLen : U8) : Checked ε U64 :=
  if prefixLen = 0#8 then return 0#64
  else do
    let n ← sub 64 prefixLen.toNat
    shl (BitVec.allOnes 64) n

theorem le_of_not_longer {prefixLen : U8} (h : ¬ 64#8 < prefixLen) :
  prefixLen ≤ 64#8
  := BitVec.not_lt.mp h

/-- The prefix of the given length that contains `address`.  The branch for another mask, which the
program does not have, is a panic. -/
def newChecked (address : GdpAddress) (prefixLen : U8) : Checked PrefixLengthError GdpPrefix :=
  if h : 64#8 < prefixLen then throw .prefixLengthError
  else do
    let mask ← prefixMaskChecked prefixLen
    if hmask : mask = prefixMask prefixLen then
      return {
        network := ⟨address.value &&& mask⟩
        prefixLen
        prefixLen_le := le_of_not_longer h
        canonical := by
          dsimp only
          rw [hmask, BitVec.and_assoc, BitVec.and_self] }
    else panic

theorem prefixMaskChecked_gives {ε : Type} {prefixLen : U8} (h : prefixLen ≤ 64#8) :
  Gives (prefixMaskChecked prefixLen : Checked ε U64) (.ok (prefixMask prefixLen))
  := by
  rw [prefixMaskChecked, prefixMask]
  by_cases hzero : prefixLen = 0#8
  · rw [if_pos hzero, if_pos hzero]
    exact .pure _
  · have hlen : (64#8 - prefixLen).toNat = 64 - prefixLen.toNat := by bv_omega
    have hbounds : 0 < prefixLen.toNat ∧ prefixLen.toNat ≤ 64 := by bv_omega
    rw [if_neg hzero, if_neg hzero, hlen]
    exact .ok_bind (.sub hbounds.2) (.shl _ (by omega))

theorem newChecked_gives (address : GdpAddress) (prefixLen : U8) :
  Gives (newChecked address prefixLen) (new address prefixLen)
  := by
  rw [newChecked, new]
  by_cases h : 64#8 < prefixLen
  · rw [dif_pos h, dif_pos h]
    exact .throw _
  · rw [dif_neg h, dif_neg h]
    refine .ok_bind (prefixMaskChecked_gives (le_of_not_longer h)) ?_
    rw [dif_pos rfl]
    exact .pure _

end GdpPrefix

/-! ### GCTL messages -/

namespace GctlMessage

/-- The message that `buf` encodes. -/
def decodeChecked (buf : Bytes) : Checked Error GctlMessage :=
  if buf.length < 8 then throw .invalidLength
  else do
    if (← index buf 0) ≠ 1#8 then throw .unsupported
    else
      let version ← index buf 0
      let messageType ← ofExcept (GctlType.fromWire (← index buf 1))
      let code ← index buf 2
      let flags ← index buf 3
      let transactionId ← beInt 32 buf 4
      let body ← rangeFrom buf 8
      return { version, messageType, code, flags, transactionId, body }

/-- The decoder of messages does not panic. -/
theorem decodeChecked_gives (buf : Bytes) :
  Gives (decodeChecked buf) (decode buf)
  := by
  refine .ite (fun _ => .throw _) fun hlen => ?_
  have hlen := not_lt.mp hlen
  refine .ok_bind (.index (by omega) 0#8) ?_
  refine .ite (fun _ => .throw _) fun _ => ?_
  refine .ok_bind (.index (by omega) 0#8) ?_
  refine .ok_bind (.index (by omega) 0#8) ?_
  cases GctlType.fromWire (buf.getD 1 0#8) with
  | error err => exact .throw _
  | ok messageType =>
    refine .ok_bind (.ofExcept (.ok messageType)) ?_
    refine .ok_bind (.index (by omega) 0#8) ?_
    refine .ok_bind (.index (by omega) 0#8) ?_
    refine .ok_bind (.beInt (by omega)) ?_
    exact .ok_bind (.rangeFrom (by omega)) (.pure _)

def typedBodyChecked (msg : GctlMessage) (expected : GctlType) (len : ℕ) : Checked Error Bytes :=
  if msg.messageType ≠ expected ∨ msg.body.length < len then throw .invalidLength
  else do
    if (← rangeFrom msg.body len).any (fun b => b ≠ 0#8) then throw .invalidField
    else rangeTo msg.body len

theorem typedBodyChecked_gives (msg : GctlMessage) (expected : GctlType) (len : ℕ) :
  Gives (msg.typedBodyChecked expected len) (msg.typedBody expected len)
  := by
  refine .ite (fun _ => .throw _) fun hlen => ?_
  have hlen := not_lt.mp (not_or.mp hlen).2
  refine .ok_bind (.rangeFrom hlen) ?_
  exact .ite (fun _ => .throw _) fun _ => .rangeTo hlen

/-- A parser that reads a body of the length that it has asked for. -/
theorem gives_typedBody {α : Type} {msg : GctlMessage} {expected : GctlType} {len : ℕ}
    {f : Bytes → Checked Error α} {g : Bytes → Except Error α}
    (h : ∀ b : Bytes, b.length = len → Gives (f b) (g b)) :
  Gives (msg.typedBodyChecked expected len >>= f) (msg.typedBody expected len >>= g)
  := (msg.typedBodyChecked_gives expected len).bind fun b hb => h b (typedBody_eq_ok.mp hb).2.1

def parseCreditRequestChecked (msg : GctlMessage) : Checked Error CreditRequest := do
  let b ← msg.typedBodyChecked .creditRequest 4
  let v ← array 4 b
  return { requestedFlits := fromBeBytes 32 v.val }

def parseCreditChecked (msg : GctlMessage) : Checked Error CreditGrant := do
  let b ← msg.typedBodyChecked .credit 4
  let v ← array 4 b
  return { grantedFlits := fromBeBytes 32 v.val }

def parseSolicitChecked (msg : GctlMessage) : Checked Error Solicit := do
  let b ← msg.typedBodyChecked .solicit 4
  if (← index b 3) ≠ 0#8 then throw .invalidField
  else
    let serviceType := fromBeBytes 16 [← index b 0, ← index b 1]
    let scope ← ofExcept (DiscoveryScope.fromWire (← index b 2))
    return { serviceType := ⟨serviceType⟩, scope }

def parseAdvertiseChecked (msg : GctlMessage) : Checked Error Advertise := do
  let b ← msg.typedBodyChecked .advertise 20
  if (← index b 3) ≠ 0#8 then throw .invalidField
  else
    let serviceType := fromBeBytes 16 [← index b 0, ← index b 1]
    let preference ← index b 2
    let provider ← beInt 64 b 4
    let lifetime ← beInt 32 b 12
    let capabilities ← beInt 32 b 16
    return { serviceType := ⟨serviceType⟩, preference, provider := ⟨provider⟩, lifetime, capabilities }

def parseNodeAnnounceChecked (msg : GctlMessage) : Checked Error NodeAnnounce := do
  let b ← msg.typedBodyChecked .nodeAnnounce 20
  let node ← beInt 64 b 0
  let nonce ← beInt 64 b 8
  let capabilities ← beInt 32 b 16
  return { node := ⟨node⟩, nonce, capabilities }

def parseReannounceSolicitChecked (msg : GctlMessage) : Checked Error ReannounceSolicit := do
  let b ← msg.typedBodyChecked .reannounceSolicit 4
  if (← range b 1 4).any (fun v => v ≠ 0#8) then throw .invalidField
  else
    let scope ← ofExcept (DiscoveryScope.fromWire (← index b 0))
    return { scope }

def validateOfferChecked (offer : AddressOffer) : Checked Error Unit := do
  let normalized ← normalizePrefixChecked offer.addressPrefix offer.prefixLen
  if normalized ≠ offer.addressPrefix then throw .invalidField
  else
    let fits ← addressMatchesPrefixChecked offer.candidate offer.addressPrefix offer.prefixLen
    if !fits then throw .invalidField else return ()

def parseAddressOfferChecked (msg : GctlMessage) : Checked Error AddressOffer := do
  let b ← msg.typedBodyChecked .addressOffer 32
  if (← range b 17 20).any (fun v => v ≠ 0#8) then throw .invalidField
  else
    let router ← beInt 64 b 0
    let addressPrefix ← beInt 64 b 8
    let prefixLen ← index b 16
    let candidate ← beInt 64 b 20
    let lifetime ← beInt 32 b 28
    let offer : AddressOffer :=
      { router := ⟨router⟩, addressPrefix, prefixLen, candidate := ⟨candidate⟩, lifetime }
    validateOfferChecked offer
    return offer

def parseAddressClaimChecked (msg : GctlMessage) : Checked Error AddressClaim := do
  let b ← msg.typedBodyChecked .addressClaim 16
  let candidate ← beInt 64 b 0
  let nonce ← beInt 64 b 8
  return { candidate := ⟨candidate⟩, nonce }

def parseAddressAckChecked (msg : GctlMessage) : Checked Error AddressAck := do
  let b ← msg.typedBodyChecked .addressAck 12
  let candidate ← beInt 64 b 0
  let lifetime ← beInt 32 b 8
  return { candidate := ⟨candidate⟩, lifetime }

def parseAddressNakChecked (msg : GctlMessage) : Checked Error AddressNak := do
  let b ← msg.typedBodyChecked .addressNak 12
  let candidate ← beInt 64 b 0
  let retryDelay ← beInt 32 b 8
  return { candidate := ⟨candidate⟩, reason := msg.code, retryDelay }

section Parsers

variable (msg : GctlMessage)

theorem parseCreditRequestChecked_gives :
  Gives msg.parseCreditRequestChecked msg.parseCreditRequest
  := gives_typedBody fun _ hb => .ok_bind (.array hb) (.pure _)

theorem parseCreditChecked_gives :
  Gives msg.parseCreditChecked msg.parseCredit
  := gives_typedBody fun _ hb => .ok_bind (.array hb) (.pure _)

theorem parseSolicitChecked_gives :
  Gives msg.parseSolicitChecked msg.parseSolicit
  := by
  refine gives_typedBody fun b hb => ?_
  refine .ok_bind (.index (by omega) 0#8) ?_
  refine .ite (fun _ => .throw _) fun _ => ?_
  rw [slice_two (by omega) 0#8]
  refine .ok_bind (.index (by omega) 0#8) (.ok_bind (.index (by omega) 0#8) ?_)
  refine .ok_bind (.index (by omega) 0#8) ?_
  exact .bind (.ofExcept _) fun _ _ => .pure _

theorem parseAdvertiseChecked_gives :
  Gives msg.parseAdvertiseChecked msg.parseAdvertise
  := by
  refine gives_typedBody fun b hb => ?_
  refine .ok_bind (.index (by omega) 0#8) ?_
  refine .ite (fun _ => .throw _) fun _ => ?_
  rw [slice_two (by omega) 0#8]
  refine .ok_bind (.index (by omega) 0#8) (.ok_bind (.index (by omega) 0#8) ?_)
  refine .ok_bind (.index (by omega) 0#8) ?_
  refine .ok_bind (.beInt (by omega)) ?_
  refine .ok_bind (.beInt (by omega)) ?_
  exact .ok_bind (.beInt (by omega)) (.pure _)

theorem parseNodeAnnounceChecked_gives :
  Gives msg.parseNodeAnnounceChecked msg.parseNodeAnnounce
  := by
  refine gives_typedBody fun b hb => ?_
  refine .ok_bind (.beInt (by omega)) ?_
  refine .ok_bind (.beInt (by omega)) ?_
  exact .ok_bind (.beInt (by omega)) (.pure _)

theorem parseReannounceSolicitChecked_gives :
  Gives msg.parseReannounceSolicitChecked msg.parseReannounceSolicit
  := by
  refine gives_typedBody fun b hb => ?_
  refine .ok_bind (.range (by omega) (by omega)) ?_
  refine .ite (fun _ => .throw _) fun _ => ?_
  refine .ok_bind (.index (by omega) 0#8) ?_
  exact .bind (.ofExcept _) fun _ _ => .pure _

theorem validateOfferChecked_gives (offer : AddressOffer) :
  Gives (validateOfferChecked offer) (validateOffer offer)
  := by
  refine .bind (normalizePrefixChecked_gives _ _) fun normalized _ => ?_
  refine .ite (fun _ => .throw _) fun _ => ?_
  refine .bind (addressMatchesPrefixChecked_gives _ _ _) fun fits _ => ?_
  exact .ite (fun _ => .throw _) fun _ => .pure _

theorem parseAddressOfferChecked_gives :
  Gives msg.parseAddressOfferChecked msg.parseAddressOffer
  := by
  refine gives_typedBody fun b hb => ?_
  refine .ok_bind (.range (by omega) (by omega)) ?_
  refine .ite (fun _ => .throw _) fun _ => ?_
  refine .ok_bind (.beInt (by omega)) ?_
  refine .ok_bind (.beInt (by omega)) ?_
  refine .ok_bind (.index (by omega) 0#8) ?_
  refine .ok_bind (.beInt (by omega)) ?_
  refine .ok_bind (.beInt (by omega)) ?_
  exact .bind (validateOfferChecked_gives _) fun _ _ => .pure _

theorem parseAddressClaimChecked_gives :
  Gives msg.parseAddressClaimChecked msg.parseAddressClaim
  := by
  refine gives_typedBody fun b hb => ?_
  refine .ok_bind (.beInt (by omega)) ?_
  exact .ok_bind (.beInt (by omega)) (.pure _)

theorem parseAddressAckChecked_gives :
  Gives msg.parseAddressAckChecked msg.parseAddressAck
  := by
  refine gives_typedBody fun b hb => ?_
  refine .ok_bind (.beInt (by omega)) ?_
  exact .ok_bind (.beInt (by omega)) (.pure _)

theorem parseAddressNakChecked_gives :
  Gives msg.parseAddressNakChecked msg.parseAddressNak
  := by
  refine gives_typedBody fun b hb => ?_
  refine .ok_bind (.beInt (by omega)) ?_
  exact .ok_bind (.beInt (by omega)) (.pure _)

end Parsers

end GctlMessage

/-- The parser for the messages of a type, step by step. -/
def GctlValue.parseChecked (msg : GctlMessage) : GctlType → Checked Error GctlValue
  | .creditRequest => creditRequest <$> msg.parseCreditRequestChecked
  | .credit => credit <$> msg.parseCreditChecked
  | .solicit => solicit <$> msg.parseSolicitChecked
  | .advertise => advertise <$> msg.parseAdvertiseChecked
  | .nodeAnnounce => nodeAnnounce <$> msg.parseNodeAnnounceChecked
  | .reannounceSolicit => reannounceSolicit <$> msg.parseReannounceSolicitChecked
  | .addressOffer => addressOffer <$> msg.parseAddressOfferChecked
  | .addressClaim => addressClaim <$> msg.parseAddressClaimChecked
  | .addressAck => addressAck <$> msg.parseAddressAckChecked
  | .addressNak => addressNak <$> msg.parseAddressNakChecked
  | _ => throw .unsupported

/-- No parser of a typed message panics. -/
theorem GctlValue.parseChecked_gives (msg : GctlMessage) (t : GctlType) :
  Gives (parseChecked msg t) (parse msg t)
  := by
  cases t with
  | creditRequest => exact msg.parseCreditRequestChecked_gives.map
  | credit => exact msg.parseCreditChecked_gives.map
  | solicit => exact msg.parseSolicitChecked_gives.map
  | advertise => exact msg.parseAdvertiseChecked_gives.map
  | nodeAnnounce => exact msg.parseNodeAnnounceChecked_gives.map
  | reannounceSolicit => exact msg.parseReannounceSolicitChecked_gives.map
  | addressOffer => exact msg.parseAddressOfferChecked_gives.map
  | addressClaim => exact msg.parseAddressClaimChecked_gives.map
  | addressAck => exact msg.parseAddressAckChecked_gives.map
  | addressNak => exact msg.parseAddressNakChecked_gives.map
  | _ => exact .throw _

/-! ### Routing messages -/

def decodeHelloChecked (body : Bytes) : Checked Error RouterHello :=
  if body.length ≠ 24 then throw .invalidLength
  else do
    let routerId ← ofExcept (RouterId.new (← beInt 64 body 0))
    let linkId ← ofExcept (LinkId.new (← beInt 64 body 8))
    let holdTimeMs ← beInt 32 body 16
    let metric ← beInt 32 body 20
    return { routerId, linkId, holdTimeMs, metric := ⟨metric⟩ }

def decodePrefixChecked (network : GdpAddress) (prefixLen : U8) : Checked Error GdpPrefix := do
  let p ← ExceptT.adapt (fun _ => .invalidField) (GdpPrefix.newChecked network prefixLen)
  if p.network ≠ network then throw .nonCanonical else return p

def decodeRouteAdvertiseChecked (body : Bytes) : Checked Error RouteAdvertise :=
  if body.length ≠ 24 then throw .invalidLength
  else do
    -- The second is read also where the first decides.
    let reserved ← index body 18
    let reserved' ← index body 19
    if reserved ≠ 0#8 ∨ reserved' ≠ 0#8 then throw .invalidField
    else
      let advertiser ← ofExcept (RouterId.new (← beInt 64 body 0))
      let network ← beInt 64 body 8
      let gdpPrefix ← decodePrefixChecked ⟨network⟩ (← index body 16)
      let origin ← ofExcept (RouteOrigin.fromWire (← index body 17))
      let metric ← beInt 32 body 20
      return { advertiser, gdpPrefix, origin, metric := ⟨metric⟩ }

def decodeRouteWithdrawChecked (body : Bytes) : Checked Error RouteWithdraw :=
  if body.length ≠ 24 then throw .invalidLength
  else do
    if (← range body 17 24).any (fun byte => byte ≠ 0#8) then throw .invalidField
    else
      let advertiser ← ofExcept (RouterId.new (← beInt 64 body 0))
      let network ← beInt 64 body 8
      let gdpPrefix ← decodePrefixChecked ⟨network⟩ (← index body 16)
      return { advertiser, gdpPrefix }

theorem decodeHelloChecked_gives (body : Bytes) :
  Gives (decodeHelloChecked body) (decodeHello body)
  := by
  refine .ite (fun _ => .throw _) fun hlen => ?_
  refine .ok_bind (.beInt (by omega)) ?_
  refine .bind (.ofExcept _) fun routerId _ => ?_
  refine .ok_bind (.beInt (by omega)) ?_
  refine .bind (.ofExcept _) fun linkId _ => ?_
  refine .ok_bind (.beInt (by omega)) ?_
  exact .ok_bind (.beInt (by omega)) (.pure _)

theorem decodePrefixChecked_gives (network : GdpAddress) (prefixLen : U8) :
  Gives (decodePrefixChecked network prefixLen) (decodePrefix network prefixLen)
  := by
  have hnew := (GdpPrefix.newChecked_gives network prefixLen).adapt (fun _ => Error.invalidField)
  rw [decodePrefix]
  cases hp : GdpPrefix.new network prefixLen with
  | error err =>
    rw [hp] at hnew
    exact hnew.error_bind
  | ok p =>
    rw [hp] at hnew
    exact hnew.ok_bind (.ite (fun _ => .throw _) fun _ => .pure _)

theorem decodeRouteAdvertiseChecked_gives (body : Bytes) :
  Gives (decodeRouteAdvertiseChecked body) (decodeRouteAdvertise body)
  := by
  refine .ite (fun _ => .throw _) fun hlen => ?_
  refine .ok_bind (.index (by omega) 0#8) (.ok_bind (.index (by omega) 0#8) ?_)
  refine .ite (fun _ => .throw _) fun _ => ?_
  refine .ok_bind (.beInt (by omega)) ?_
  refine .bind (.ofExcept _) fun advertiser _ => ?_
  refine .ok_bind (.beInt (by omega)) ?_
  refine .ok_bind (.index (by omega) 0#8) ?_
  refine .bind (decodePrefixChecked_gives _ _) fun gdpPrefix _ => ?_
  refine .ok_bind (.index (by omega) 0#8) ?_
  refine .bind (.ofExcept _) fun origin _ => ?_
  exact .ok_bind (.beInt (by omega)) (.pure _)

theorem decodeRouteWithdrawChecked_gives (body : Bytes) :
  Gives (decodeRouteWithdrawChecked body) (decodeRouteWithdraw body)
  := by
  refine .ite (fun _ => .throw _) fun hlen => ?_
  refine .ok_bind (.range (by omega) (by omega)) ?_
  refine .ite (fun _ => .throw _) fun _ => ?_
  refine .ok_bind (.beInt (by omega)) ?_
  refine .bind (.ofExcept _) fun advertiser _ => ?_
  refine .ok_bind (.beInt (by omega)) ?_
  refine .ok_bind (.index (by omega) 0#8) ?_
  exact .bind (decodePrefixChecked_gives _ _) fun gdpPrefix _ => .pure _

namespace RoutingGctlMessage

def decodeBodyChecked (buf : Bytes) (messageType : U8) : Checked Error RoutingGctlBody := do
  if messageType = gctlRouterHello then
    .routerHello <$> decodeHelloChecked (← rangeFrom buf 8)
  else if messageType = gctlRouterHelloAck then
    .routerHelloAck <$> decodeHelloChecked (← rangeFrom buf 8)
  else if messageType = gctlRouteAdvertise then
    .routeAdvertise <$> decodeRouteAdvertiseChecked (← rangeFrom buf 8)
  else if messageType = gctlRouteWithdraw then
    .routeWithdraw <$> decodeRouteWithdrawChecked (← rangeFrom buf 8)
  else throw .unsupported

/-- The message that the bytes encode. -/
def decodeChecked (buf : Bytes) : Checked Error RoutingGctlMessage :=
  if buf.length ≠ 8 + 24 then throw .invalidLength
  else do
    if (← index buf 0) ≠ gctlRoutingVersion then throw .unsupported
    else
      let reserved ← index buf 2
      let reserved' ← index buf 3
      if reserved ≠ 0#8 ∨ reserved' ≠ 0#8 then throw .invalidField
      else
        let transactionId ← beInt 32 buf 4
        let body ← decodeBodyChecked buf (← index buf 1)
        return { transactionId, body }

theorem decodeBodyChecked_gives {buf : Bytes} (hlen : 8 ≤ buf.length) (messageType : U8) :
  Gives (decodeBodyChecked buf messageType) (decodeBody messageType (buf.drop 8))
  := by
  refine .ite (fun _ => ?_) fun _ => .ite (fun _ => ?_) fun _ => .ite (fun _ => ?_) fun _ =>
    .ite (fun _ => ?_) fun _ => .throw _
  · exact .ok_bind (.rangeFrom hlen) (decodeHelloChecked_gives _).map
  · exact .ok_bind (.rangeFrom hlen) (decodeHelloChecked_gives _).map
  · exact .ok_bind (.rangeFrom hlen) (decodeRouteAdvertiseChecked_gives _).map
  · exact .ok_bind (.rangeFrom hlen) (decodeRouteWithdrawChecked_gives _).map

/-- The decoder of routing messages does not panic. -/
theorem decodeChecked_gives (buf : Bytes) :
  Gives (decodeChecked buf) (decode buf)
  := by
  refine .ite (fun _ => .throw _) fun hlen => ?_
  refine .ok_bind (.index (by omega) 0#8) ?_
  refine .ite (fun _ => .throw _) fun _ => ?_
  refine .ok_bind (.index (by omega) 0#8) (.ok_bind (.index (by omega) 0#8) ?_)
  refine .ite (fun _ => .throw _) fun _ => ?_
  refine .ok_bind (.beInt (by omega)) ?_
  refine .ok_bind (.index (by omega) 0#8) ?_
  exact .bind (decodeBodyChecked_gives (by omega) _) fun body _ => .pure _

end RoutingGctlMessage

end SmolGnet
