import Std.Data.ExtTreeSet
import SmolGnet.Wire.Gdp

/-!
# Prefixes, routers and routing messages

The destination of a route is a prefix of addresses, kept in canonical form: the bits after the
prefix are 0.  Routers and links have identifiers of their own, which are independent of
addresses.  Routers tell each other of themselves and of their routes in four kinds of messages.
-/

namespace SmolGnet

/-- The ordered set `BTreeSet<α>`. -/
abbrev BTreeSet (α : Type) [Ord α] := Std.ExtTreeSet α

/-- Addresses are ordered by their values. -/
instance : Ord GdpAddress where
  compare := compareOn (·.value)

instance : Std.TransOrd GdpAddress :=
  inferInstanceAs (Std.TransCmp (compareOn _))

instance : Std.LawfulEqOrd GdpAddress where
  eq_of_compare := by
    intro a b h
    have hvalue := Std.LawfulEqOrd.eq_of_compare (show compare a.value b.value = .eq from h)
    cases a
    cases b
    exact congrArg GdpAddress.mk hvalue

/-- An element that is inserted is in the set, and so are the others as before. -/
theorem BTreeSet.mem_insert {α : Type} [Ord α] [Std.TransOrd α] [Std.LawfulEqOrd α]
    {s : BTreeSet α} {a x : α} :
  x ∈ s.insert a ↔ x ∈ s ∨ x = a
  := by
  rw [Std.ExtTreeSet.mem_insert, Std.LawfulEqCmp.compare_eq_iff_eq, or_comm, eq_comm]

/-! ### Prefixes -/

/-- A length of a prefix that is greater than 64. -/
inductive PrefixLengthError where
  | prefixLengthError
  deriving DecidableEq, Repr

/-- The bits that belong to a prefix of the given length. -/
def GdpPrefix.prefixMask (prefixLen : U8) : U64 :=
  if prefixLen = 0#8 then 0#64 else BitVec.allOnes 64 <<< (64#8 - prefixLen).toNat

/-- A canonical prefix of addresses. -/
structure GdpPrefix where
  network : GdpAddress
  prefixLen : U8
  prefixLen_le : prefixLen ≤ 64#8
  canonical : network.value &&& GdpPrefix.prefixMask prefixLen = network.value
  deriving DecidableEq

namespace GdpPrefix

/-- The prefix of the given length that contains `address`. -/
def new (address : GdpAddress) (prefixLen : U8) : Except PrefixLengthError GdpPrefix :=
  if h : 64#8 < prefixLen then .error .prefixLengthError
  else .ok
    { network := ⟨address.value &&& prefixMask prefixLen⟩
      prefixLen
      prefixLen_le := BitVec.not_lt.mp h
      canonical := by
        dsimp only
        rw [BitVec.and_assoc, BitVec.and_self] }

/-- The prefix that consists of one address. -/
def host (address : GdpAddress) : GdpPrefix where
  network := address
  prefixLen := 64#8
  prefixLen_le := by decide
  canonical := by
    change _ &&& BitVec.allOnes 64 <<< 0 = _
    rw [BitVec.shiftLeft_zero, BitVec.and_allOnes]

theorem new_host (address : GdpAddress) :
  new address 64#8 = .ok (host address)
  := by
  have hmask : address.value &&& prefixMask 64#8 = address.value := (host address).canonical
  rw [new, dif_neg (by decide)]
  simp only [host, hmask]

/-- The address is in the prefix. -/
def contains (p : GdpPrefix) (address : GdpAddress) : Bool :=
  address.value &&& prefixMask p.prefixLen = p.network.value

/-- The prefix of all addresses. -/
def defaultRoute : GdpPrefix where
  network := ⟨0#64⟩
  prefixLen := 0#8
  prefixLen_le := by decide
  canonical := by decide

theorem ext_of_fields {p q : GdpPrefix} (hnetwork : p.network = q.network)
    (hlen : p.prefixLen = q.prefixLen) :
  p = q
  := by
  cases p
  cases q
  cases hnetwork
  cases hlen
  rfl

/-- Two prefixes of the same length that contain the same address are the same. -/
theorem eq_of_contains {p q : GdpPrefix} {address : GdpAddress} (hp : p.contains address = true)
    (hq : q.contains address = true) (hlen : p.prefixLen = q.prefixLen) :
  p = q
  := by
  rw [contains, decide_eq_true_iff] at hp hq
  apply ext_of_fields _ hlen
  have hvalue : p.network.value = q.network.value := by rw [← hp, ← hq, hlen]
  cases p
  cases q
  exact congrArg GdpAddress.mk hvalue

/-- Prefixes are ordered by their addresses, and then by their lengths. -/
instance : Ord GdpPrefix where
  compare := compareLex (compareOn (·.network.value)) (compareOn (·.prefixLen))

instance : Std.TransOrd GdpPrefix :=
  inferInstanceAs (Std.TransCmp (compareLex _ _))

instance : Std.LawfulEqOrd GdpPrefix where
  eq_of_compare := by
    intro p q h
    change compareLex _ _ p q = _ at h
    rw [compareLex_eq_eq] at h
    obtain ⟨hnetwork, hlen⟩ := h
    apply ext_of_fields
    · have hvalue := Std.LawfulEqOrd.eq_of_compare hnetwork
      cases p
      cases q
      exact congrArg GdpAddress.mk hvalue
    · exact Std.LawfulEqOrd.eq_of_compare hlen

end GdpPrefix

/-! ### Routers, links and routes -/

/-- The identifier of a router. -/
structure RouterId where
  value : U64
  deriving DecidableEq, Repr

/-- The identifier of a link. -/
structure LinkId where
  value : U64
  deriving DecidableEq, Repr

/-- Where a route comes from. -/
inductive RouteOrigin where
  | connected
  | learned
  | static
  | escape
  deriving DecidableEq, Repr

/-- Of two routes the one with the lesser preference is better. -/
def RouteOrigin.administrativePreference : RouteOrigin → U8
  | .connected => 0#8
  | .static => 10#8
  | .learned => 100#8
  | .escape => 255#8

/-- The cost of a route. -/
structure RouteMetric where
  value : U32
  deriving DecidableEq, Repr

/-- The cost of a route that goes over a link. -/
def RouteMetric.saturatingAdd (a b : RouteMetric) : RouteMetric :=
  ⟨SmolGnet.saturatingAdd a.value b.value⟩

/-! ### Messages -/

/-- A router presents itself. -/
structure RouterHello where
  routerId : RouterId
  linkId : LinkId
  holdTimeMs : U32
  metric : RouteMetric
  deriving DecidableEq, Repr

/-- A router has a route. -/
structure RouteAdvertise where
  advertiser : RouterId
  gdpPrefix : GdpPrefix
  origin : RouteOrigin
  metric : RouteMetric
  deriving DecidableEq

/-- A router has a route no longer. -/
structure RouteWithdraw where
  advertiser : RouterId
  gdpPrefix : GdpPrefix
  deriving DecidableEq

/-- What a routing message says. -/
inductive RoutingGctlBody where
  | routerHello (hello : RouterHello)
  | routerHelloAck (hello : RouterHello)
  | routeAdvertise (route : RouteAdvertise)
  | routeWithdraw (route : RouteWithdraw)
  deriving DecidableEq

/-- A routing message. -/
structure RoutingGctlMessage where
  transactionId : U32
  body : RoutingGctlBody
  deriving DecidableEq

end SmolGnet
