import SmolGnet.Routing.Types
import Mathlib.Data.List.GetD

/-!
# The encoding of routing messages

A routing message is a head of 8 bytes and a body of 24.  All the bytes that no field of the
body uses are reserved, and prefixes are canonical, so there is one encoding of a message
whose identifiers are not 0, and nothing else is decoded.
-/

namespace SmolGnet

open Octets

/-! ### Numbers of the kinds of messages -/

def gctlRouterHello : U8 := 0x40#8

def gctlRouterHelloAck : U8 := 0x41#8

def gctlRouteAdvertise : U8 := 0x42#8

def gctlRouteWithdraw : U8 := 0x43#8

def gctlRoutingVersion : U8 := 1#8

/-! ### Identifiers and origins -/

/-- The identifier of a router with the given value. -/
def RouterId.new (value : U64) : Except Error RouterId :=
  if value = 0#64 then .error .invalidField else .ok ⟨value⟩

/-- The identifier of a link with the given value. -/
def LinkId.new (value : U64) : Except Error LinkId :=
  if value = 0#64 then .error .invalidField else .ok ⟨value⟩

theorem RouterId.new_eq_ok {value : U64} {routerId : RouterId} :
  new value = .ok routerId ↔ value = routerId.value ∧ routerId.value ≠ 0#64
  := by
  rw [new]
  split
  · next h =>
    constructor
    · nofun
    · rintro ⟨rfl, hne⟩
      exact absurd h hne
  · next h =>
    constructor
    · rintro ⟨⟩
      exact ⟨rfl, h⟩
    · rintro ⟨rfl, -⟩
      rfl

theorem LinkId.new_eq_ok {value : U64} {linkId : LinkId} :
  new value = .ok linkId ↔ value = linkId.value ∧ linkId.value ≠ 0#64
  := by
  rw [new]
  split
  · next h =>
    constructor
    · nofun
    · rintro ⟨rfl, hne⟩
      exact absurd h hne
  · next h =>
    constructor
    · rintro ⟨⟩
      exact ⟨rfl, h⟩
    · rintro ⟨rfl, -⟩
      rfl

namespace RouteOrigin

/-- The number of the origin, `self as u8`. -/
def toWire : RouteOrigin → U8
  | connected => 0#8
  | learned => 1#8
  | static => 2#8
  | escape => 3#8

/-- The origin with the number `value`. -/
def fromWire (value : U8) : Except Error RouteOrigin :=
  if value = 0#8 then .ok connected
  else if value = 1#8 then .ok learned
  else if value = 2#8 then .ok static
  else if value = 3#8 then .ok escape
  else .error .invalidField

theorem fromWire_eq_ok {value : U8} {origin : RouteOrigin} :
  fromWire value = .ok origin ↔ value = origin.toWire
  := by
  have hall : ∀ value : U8, ∀ origin ∈ [connected, learned, static, escape],
      fromWire value = .ok origin ↔ value = origin.toWire := by decide +kernel
  apply hall
  cases origin <;> decide

end RouteOrigin

/-! ### Bodies -/

/-- The body that presents a router. -/
def encodeHello (hello : RouterHello) : Bytes :=
  toBeBytes hello.routerId.value ++ toBeBytes hello.linkId.value ++ toBeBytes hello.holdTimeMs
    ++ toBeBytes hello.metric.value

theorem length_encodeHello (hello : RouterHello) :
  (encodeHello hello).length = 24
  := by
  simp only [encodeHello, List.length_append, length_toBeBytes]

def decodeHello (body : Bytes) : Except Error RouterHello :=
  if body.length ≠ 24 then .error .invalidLength
  else do
    let routerId ← RouterId.new (fromBeBytes 64 (slice body 0 8))
    let linkId ← LinkId.new (fromBeBytes 64 (slice body 8 8))
    return {
      routerId
      linkId
      holdTimeMs := fromBeBytes 32 (slice body 16 4)
      metric := ⟨fromBeBytes 32 (slice body 20 4)⟩ }

theorem decodeHello_eq_ok {body : Bytes} {hello : RouterHello} :
  decodeHello body = .ok hello ↔
    body = encodeHello hello ∧ hello.routerId.value ≠ 0#64 ∧ hello.linkId.value ≠ 0#64
  := by
  constructor
  · intro h
    rw [decodeHello] at h
    split at h
    · cases h
    · next hlen =>
      rw [not_not] at hlen
      simp only [bind_eq_ok, RouterId.new_eq_ok, LinkId.new_eq_ok] at h
      obtain ⟨routerId, ⟨hrouter, hrouter'⟩, linkId, ⟨hlink, hlink'⟩, h⟩ := h
      cases h
      refine ⟨?_, hrouter', hlink'⟩
      rw [encodeHello, ← hrouter, ← hlink, toBeBytes_slice body 0 8 rfl (by omega),
        toBeBytes_slice body 8 8 rfl (by omega), toBeBytes_slice body 16 4 rfl (by omega),
        toBeBytes_slice body 20 4 rfl (by omega), slice_append_slice, slice_append_slice,
        slice_append_slice, slice_all hlen.le]
  · rintro ⟨rfl, hrouter, hlink⟩
    rw [decodeHello, if_neg (not_not.mpr (length_encodeHello hello)), encodeHello]
    simp (disch := simp) only [List.append_assoc, slice_append_right, slice_zero_append, slice_all,
      length_toBeBytes, Nat.reduceSub, Nat.reduceDiv, fromBeBytes_toBeBytes]
    rw [RouterId.new_eq_ok.mpr ⟨rfl, hrouter⟩, LinkId.new_eq_ok.mpr ⟨rfl, hlink⟩]
    rfl

/-- Read a prefix, which has to be canonical. -/
def decodePrefix (network : GdpAddress) (prefixLen : U8) : Except Error GdpPrefix :=
  match GdpPrefix.new network prefixLen with
  | .error _ => .error .invalidField
  | .ok p => if p.network ≠ network then .error .nonCanonical else .ok p

/-- The canonical prefixes are read back. -/
theorem decodePrefix_eq_ok {network : GdpAddress} {prefixLen : U8} {p : GdpPrefix} :
  decodePrefix network prefixLen = .ok p ↔ network = p.network ∧ prefixLen = p.prefixLen
  := by
  constructor
  · intro h
    rw [decodePrefix] at h
    split at h
    · cases h
    · next q hq =>
      split at h
      · cases h
      · next hnetwork =>
        cases h
        refine ⟨(not_not.mp hnetwork).symm, ?_⟩
        rw [GdpPrefix.new] at hq
        split at hq
        · cases hq
        · cases hq
          rfl
  · rintro ⟨rfl, rfl⟩
    have hnetwork : (⟨p.network.value &&& GdpPrefix.prefixMask p.prefixLen⟩ : GdpAddress)
        = p.network := congrArg GdpAddress.mk p.canonical
    have hnew : GdpPrefix.new p.network p.prefixLen = .ok p := by
      rw [GdpPrefix.new, dif_neg (BitVec.not_lt.mpr p.prefixLen_le)]
      exact congrArg Except.ok (GdpPrefix.ext_of_fields hnetwork rfl)
    rw [decodePrefix, hnew]
    exact if_neg (not_not.mpr rfl)

/-- The body that tells of a route. -/
def encodeRouteAdvertise (route : RouteAdvertise) : Bytes :=
  toBeBytes route.advertiser.value ++ toBeBytes route.gdpPrefix.network.value
    ++ [route.gdpPrefix.prefixLen] ++ [route.origin.toWire] ++ [0#8, 0#8]
    ++ toBeBytes route.metric.value

theorem length_encodeRouteAdvertise (route : RouteAdvertise) :
  (encodeRouteAdvertise route).length = 24
  := by
  simp only [encodeRouteAdvertise, List.length_append, length_toBeBytes, List.length_cons,
    List.length_nil]

def decodeRouteAdvertise (body : Bytes) : Except Error RouteAdvertise :=
  if body.length ≠ 24 then .error .invalidLength
  else if body.getD 18 0#8 ≠ 0#8 ∨ body.getD 19 0#8 ≠ 0#8 then .error .invalidField
  else do
    let advertiser ← RouterId.new (fromBeBytes 64 (slice body 0 8))
    let gdpPrefix ← decodePrefix ⟨fromBeBytes 64 (slice body 8 8)⟩ (body.getD 16 0#8)
    let origin ← RouteOrigin.fromWire (body.getD 17 0#8)
    return { advertiser, gdpPrefix, origin, metric := ⟨fromBeBytes 32 (slice body 20 4)⟩ }

theorem decodeRouteAdvertise_eq_ok {body : Bytes} {route : RouteAdvertise} :
  decodeRouteAdvertise body = .ok route ↔
    body = encodeRouteAdvertise route ∧ route.advertiser.value ≠ 0#64
  := by
  constructor
  · intro h
    rw [decodeRouteAdvertise] at h
    split at h
    · cases h
    · next hlen =>
      rw [not_not] at hlen
      split at h
      · cases h
      · next hreserved =>
        rw [not_or, not_not, not_not] at hreserved
        simp only [bind_eq_ok, RouterId.new_eq_ok, decodePrefix_eq_ok,
          RouteOrigin.fromWire_eq_ok] at h
        obtain ⟨advertiser, ⟨hadvertiser, hne⟩, p, ⟨hnetwork, hprefixLen⟩, origin, horigin, h⟩ := h
        cases h
        refine ⟨?_, hne⟩
        have hzeros : slice body 18 2 = [0#8, 0#8] := by
          rw [← slice_append_slice body 18 1 1, slice_one (by omega) 0#8, slice_one (by omega) 0#8,
            hreserved.1, hreserved.2]
          rfl
        rw [encodeRouteAdvertise, ← hadvertiser, ← hnetwork, ← hprefixLen, ← horigin, ← hzeros,
          toBeBytes_slice body 0 8 rfl (by omega), toBeBytes_slice body 8 8 rfl (by omega),
          ← slice_one (by omega), ← slice_one (by omega),
          toBeBytes_slice body 20 4 rfl (by omega), slice_append_slice, slice_append_slice,
          slice_append_slice, slice_append_slice, slice_append_slice, slice_all hlen.le]
  · rintro ⟨rfl, hne⟩
    rw [decodeRouteAdvertise, if_neg (not_not.mpr (length_encodeRouteAdvertise route)), encodeRouteAdvertise, if_neg (by simp)]
    simp (disch := simp) only [List.append_assoc, slice_append_right, slice_zero_append, slice_all,
      slice_cons_succ, length_toBeBytes, List.getD_append_right, List.cons_append,
      List.nil_append, List.getD_cons_zero, List.getD_cons_succ, Nat.reduceSub, Nat.reduceDiv,
      fromBeBytes_toBeBytes]
    rw [RouterId.new_eq_ok.mpr ⟨rfl, hne⟩, decodePrefix_eq_ok.mpr ⟨rfl, rfl⟩,
      RouteOrigin.fromWire_eq_ok.mpr rfl]
    rfl

/-- The body that takes a route back. -/
def encodeRouteWithdraw (route : RouteWithdraw) : Bytes :=
  toBeBytes route.advertiser.value ++ toBeBytes route.gdpPrefix.network.value
    ++ [route.gdpPrefix.prefixLen] ++ List.replicate 7 0#8

theorem length_encodeRouteWithdraw (route : RouteWithdraw) :
  (encodeRouteWithdraw route).length = 24
  := by
  simp only [encodeRouteWithdraw, List.length_append, length_toBeBytes, List.length_cons,
    List.length_nil, List.length_replicate]

def decodeRouteWithdraw (body : Bytes) : Except Error RouteWithdraw :=
  if body.length ≠ 24 then .error .invalidLength
  else if (slice body 17 7).any (fun byte => byte ≠ 0#8) then .error .invalidField
  else do
    let advertiser ← RouterId.new (fromBeBytes 64 (slice body 0 8))
    let gdpPrefix ← decodePrefix ⟨fromBeBytes 64 (slice body 8 8)⟩ (body.getD 16 0#8)
    return { advertiser, gdpPrefix }

theorem decodeRouteWithdraw_eq_ok {body : Bytes} {route : RouteWithdraw} :
  decodeRouteWithdraw body = .ok route ↔
    body = encodeRouteWithdraw route ∧ route.advertiser.value ≠ 0#64
  := by
  constructor
  · intro h
    rw [decodeRouteWithdraw] at h
    split at h
    · cases h
    · next hlen =>
      rw [not_not] at hlen
      split at h
      · cases h
      · next hreserved =>
        simp only [bind_eq_ok, RouterId.new_eq_ok, decodePrefix_eq_ok] at h
        obtain ⟨advertiser, ⟨hadvertiser, hne⟩, p, ⟨hnetwork, hprefixLen⟩, h⟩ := h
        cases h
        refine ⟨?_, hne⟩
        have hzeros := slice_eq_replicate (by omega) hreserved
        rw [encodeRouteWithdraw, ← hadvertiser, ← hnetwork, ← hprefixLen, ← hzeros,
          toBeBytes_slice body 0 8 rfl (by omega), toBeBytes_slice body 8 8 rfl (by omega),
          ← slice_one (by omega), slice_append_slice, slice_append_slice, slice_append_slice,
          slice_all hlen.le]
  · rintro ⟨rfl, hne⟩
    rw [decodeRouteWithdraw, if_neg (not_not.mpr (length_encodeRouteWithdraw route)), encodeRouteWithdraw, if_neg]
    · simp (disch := simp) only [List.append_assoc, slice_append_right, slice_zero_append,
        length_toBeBytes, List.getD_append_right, List.cons_append, List.getD_cons_zero,
        Nat.reduceSub, Nat.reduceDiv, fromBeBytes_toBeBytes]
      rw [RouterId.new_eq_ok.mpr ⟨rfl, hne⟩, decodePrefix_eq_ok.mpr ⟨rfl, rfl⟩]
      rfl
    · simp (disch := simp) only [List.append_assoc, slice_append_right, length_toBeBytes,
        List.cons_append, List.nil_append, slice_cons_succ, slice_all, Nat.reduceSub, Nat.reduceDiv]
      simp

/-! ### Messages -/

/-- The identifiers of the routers and links that a message names are not 0. -/
def RoutingGctlBody.IdsNonzero : RoutingGctlBody → Prop
  | .routerHello hello => hello.routerId.value ≠ 0#64 ∧ hello.linkId.value ≠ 0#64
  | .routerHelloAck hello => hello.routerId.value ≠ 0#64 ∧ hello.linkId.value ≠ 0#64
  | .routeAdvertise route => route.advertiser.value ≠ 0#64
  | .routeWithdraw route => route.advertiser.value ≠ 0#64

namespace RoutingGctlMessage

/-- The number of the kind of message, and the bytes of the body. -/
def encodeBody : RoutingGctlBody → U8 × Bytes
  | .routerHello hello => (gctlRouterHello, encodeHello hello)
  | .routerHelloAck hello => (gctlRouterHelloAck, encodeHello hello)
  | .routeAdvertise route => (gctlRouteAdvertise, encodeRouteAdvertise route)
  | .routeWithdraw route => (gctlRouteWithdraw, encodeRouteWithdraw route)

/-- The bytes of a message. -/
def encode (message : RoutingGctlMessage) : Bytes :=
  [gctlRoutingVersion, (encodeBody message.body).1, 0#8, 0#8] ++ toBeBytes message.transactionId
    ++ (encodeBody message.body).2

/-- Read a body of the kind with the given number. -/
def decodeBody (messageType : U8) (body : Bytes) : Except Error RoutingGctlBody :=
  if messageType = gctlRouterHello then (decodeHello body).map .routerHello
  else if messageType = gctlRouterHelloAck then (decodeHello body).map .routerHelloAck
  else if messageType = gctlRouteAdvertise then (decodeRouteAdvertise body).map .routeAdvertise
  else if messageType = gctlRouteWithdraw then (decodeRouteWithdraw body).map .routeWithdraw
  else .error .unsupported

/-- The message that the bytes encode. -/
def decode (buf : Bytes) : Except Error RoutingGctlMessage :=
  if buf.length ≠ 8 + 24 then .error .invalidLength
  else if buf.getD 0 0#8 ≠ gctlRoutingVersion then .error .unsupported
  else if buf.getD 2 0#8 ≠ 0#8 ∨ buf.getD 3 0#8 ≠ 0#8 then .error .invalidField
  else do
    let body ← decodeBody (buf.getD 1 0#8) (buf.drop 8)
    return { transactionId := fromBeBytes 32 (slice buf 4 4), body }

/-- A body is read from its own bytes only. -/
theorem decodeBody_eq_ok {messageType : U8} {bytes : Bytes} {body : RoutingGctlBody} :
  decodeBody messageType bytes = .ok body ↔
    (messageType, bytes) = encodeBody body ∧ body.IdsNonzero
  := by
  constructor
  · intro h
    rw [decodeBody] at h
    split at h
    · next htype =>
      obtain ⟨hello, hhello, rfl⟩ := map_eq_ok.mp h
      obtain ⟨rfl, hids⟩ := decodeHello_eq_ok.mp hhello
      exact ⟨congrArg (·, _) htype, hids⟩
    · split at h
      · next htype =>
        obtain ⟨hello, hhello, rfl⟩ := map_eq_ok.mp h
        obtain ⟨rfl, hids⟩ := decodeHello_eq_ok.mp hhello
        exact ⟨congrArg (·, _) htype, hids⟩
      · split at h
        · next htype =>
          obtain ⟨route, hroute, rfl⟩ := map_eq_ok.mp h
          obtain ⟨rfl, hids⟩ := decodeRouteAdvertise_eq_ok.mp hroute
          exact ⟨congrArg (·, _) htype, hids⟩
        · split at h
          · next htype =>
            obtain ⟨route, hroute, rfl⟩ := map_eq_ok.mp h
            obtain ⟨rfl, hids⟩ := decodeRouteWithdraw_eq_ok.mp hroute
            exact ⟨congrArg (·, _) htype, hids⟩
          · cases h
  · rintro ⟨h, hids⟩
    cases body with
    | routerHello hello =>
      cases h
      rw [decodeBody, if_pos rfl, decodeHello_eq_ok.mpr ⟨rfl, hids⟩]
      rfl
    | routerHelloAck hello =>
      cases h
      rw [decodeBody, if_neg (by decide), if_pos rfl, decodeHello_eq_ok.mpr ⟨rfl, hids⟩]
      rfl
    | routeAdvertise route =>
      cases h
      rw [decodeBody, if_neg (by decide), if_neg (by decide), if_pos rfl,
        decodeRouteAdvertise_eq_ok.mpr ⟨rfl, hids⟩]
      rfl
    | routeWithdraw route =>
      cases h
      rw [decodeBody, if_neg (by decide), if_neg (by decide), if_neg (by decide), if_pos rfl,
        decodeRouteWithdraw_eq_ok.mpr ⟨rfl, hids⟩]
      rfl

theorem length_encodeBody (body : RoutingGctlBody) :
  (encodeBody body).2.length = 24
  := by
  cases body with
  | routerHello hello => exact length_encodeHello hello
  | routerHelloAck hello => exact length_encodeHello hello
  | routeAdvertise route => exact length_encodeRouteAdvertise route
  | routeWithdraw route => exact length_encodeRouteWithdraw route

/-- A message is read from its own bytes only. -/
theorem decode_eq_ok {buf : Bytes} {message : RoutingGctlMessage} :
  decode buf = .ok message ↔ buf = message.encode ∧ message.body.IdsNonzero
  := by
  constructor
  · intro h
    rw [decode] at h
    split at h
    · cases h
    · next hlen =>
      rw [not_not] at hlen
      split at h
      · cases h
      · next hversion =>
        split at h
        · cases h
        · next hreserved =>
          rw [not_not] at hversion
          rw [not_or, not_not, not_not] at hreserved
          obtain ⟨body, hbody, h⟩ := bind_eq_ok.mp h
          cases h
          obtain ⟨hbytes, hids⟩ := decodeBody_eq_ok.mp hbody
          refine ⟨?_, hids⟩
          have hhead : slice buf 0 4 = [gctlRoutingVersion, buf.getD 1 0#8, 0#8, 0#8] := by
            rw [← slice_append_slice buf 0 3 1, ← slice_append_slice buf 0 2 1,
              ← slice_append_slice buf 0 1 1, slice_one (by omega) 0#8, slice_one (by omega) 0#8,
              slice_one (by omega) 0#8, slice_one (by omega) 0#8, hversion, hreserved.1,
              hreserved.2]
            rfl
          rw [encode, ← hbytes, ← hhead, toBeBytes_slice buf 4 4 rfl (by omega),
            slice_append_slice, slice_append_drop]
          rfl
  · rintro ⟨rfl, hids⟩
    have hlen : message.encode.length = 8 + 24 := by
      simp only [encode, List.length_append, List.length_cons, List.length_nil, length_toBeBytes,
        length_encodeBody]
    have hid : (toBeBytes message.transactionId).length = 4 := length_toBeBytes _
    have hdrop : message.encode.drop 8 = (encodeBody message.body).2 := by
      apply List.drop_left'
      rw [List.length_append, hid]
      rfl
    have hbody : decodeBody (encodeBody message.body).1 (encodeBody message.body).2
        = .ok message.body := decodeBody_eq_ok.mpr ⟨rfl, hids⟩
    rw [decode, if_neg (not_not.mpr hlen), hdrop, encode]
    simp only [List.cons_append, List.nil_append, List.getD_cons_zero, List.getD_cons_succ,
      slice_cons_succ]
    rw [slice_zero_append hid, fromBeBytes_toBeBytes rfl, if_neg (not_not.mpr rfl),
      if_neg (by simp), hbody]
    rfl

/-- A message whose identifiers are not 0 is read back, and what is read as a message is the
encoding of it. -/
theorem routing_codec :
  (∀ message : RoutingGctlMessage, message.body.IdsNonzero → decode message.encode = .ok message) ∧
  ∀ buf message, decode buf = .ok message → message.encode = buf
  := by
  constructor
  · intro message hids
    exact decode_eq_ok.mpr ⟨rfl, hids⟩
  · intro buf message h
    exact (decode_eq_ok.mp h).1.symm

/-- The route of a network. -/
def sample : RoutingGctlMessage where
  transactionId := 7#32
  body := .routeAdvertise
    { advertiser := ⟨1#64⟩, gdpPrefix := .host ⟨0xabcd#64⟩, origin := .connected, metric := ⟨2#32⟩ }

theorem routing_codec_sample :
  decode sample.encode = .ok sample ∧ sample.encode = [1#8, 0x42#8, 0#8, 0#8, 0#8, 0#8, 0#8, 7#8,
    0#8, 0#8, 0#8, 0#8, 0#8, 0#8, 0#8, 1#8, 0#8, 0#8, 0#8, 0#8, 0#8, 0#8, 0xab#8, 0xcd#8,
    64#8, 0#8, 0#8, 0#8, 0#8, 0#8, 0#8, 2#8]
  := by
  constructor
  · apply routing_codec.1 sample
    change 1#64 ≠ 0#64
    decide
  · apply routing_codec.2
    decide +kernel


end RoutingGctlMessage

end SmolGnet
