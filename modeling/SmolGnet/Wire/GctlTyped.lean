import SmolGnet.Wire.Gctl
import Mathlib.Data.List.GetD

/-!
# The typed control messages

There are ten kinds of control messages with a body of a fixed layout.  Each is read back from
its bytes, however many zeros they have been padded with, and it is not read as a message of
another kind.
-/

namespace SmolGnet

open Octets

namespace GctlMessage

/-! ### Reading a padded message -/

/-- A typed body is followed by zeros only. -/
theorem typedBody_eq_ok {msg : GctlMessage} {t : GctlType} {n : ℕ} {b : Bytes} :
  msg.typedBody t n = .ok b ↔
    msg.messageType = t ∧ b.length = n ∧ ∃ k, msg.body = b ++ List.replicate k 0#8
  := by
  constructor
  · intro h
    rw [typedBody] at h
    split at h
    · cases h
    · next htype =>
      split at h
      · cases h
      · next hzeros =>
        rw [not_or, not_not, not_lt] at htype
        cases h
        refine ⟨htype.1, List.length_take_of_le htype.2, (msg.body.drop n).length, ?_⟩
        have hdrop : msg.body.drop n = List.replicate (msg.body.drop n).length 0#8 := by
          rw [List.eq_replicate_iff]
          exact ⟨rfl, by simpa using hzeros⟩
        rw [← hdrop, List.take_append_drop]
  · rintro ⟨htype, hlen, k, hbody⟩
    exact typedBody_padded htype hlen hbody

/-- A message whose body is followed by zeros. -/
def padded (msg : GctlMessage) (k : ℕ) : GctlMessage :=
  { msg with body := msg.body ++ List.replicate k 0#8 }

/-- The zeros behind a body are taken off. -/
theorem typedBody_of_padded (msg : GctlMessage) (k : ℕ) {n : ℕ} (hn : msg.body.length = n) :
  (msg.padded k).typedBody msg.messageType n = .ok msg.body
  := typedBody_padded rfl hn rfl

/-- The body of an offer. -/
def offerBody (offer : AddressOffer) : Bytes :=
  toBeBytes offer.router.value ++ toBeBytes offer.addressPrefix
    ++ [offer.prefixLen, 0#8, 0#8, 0#8] ++ toBeBytes offer.candidate.value
    ++ toBeBytes offer.lifetime

/-- The offer that a body is read as. -/
def offerOf (b : Bytes) : AddressOffer where
  router := ⟨fromBeBytes 64 (slice b 0 8)⟩
  addressPrefix := fromBeBytes 64 (slice b 8 8)
  prefixLen := b.getD 16 0#8
  candidate := ⟨fromBeBytes 64 (slice b 20 8)⟩
  lifetime := fromBeBytes 32 (slice b 28 4)

theorem length_offerBody (offer : AddressOffer) :
  (offerBody offer).length = 32
  := by
  simp only [offerBody, List.length_append, length_toBeBytes, List.length_cons, List.length_nil]

theorem offerOf_offerBody (offer : AddressOffer) :
  offerOf (offerBody offer) = offer
  := by
  rw [offerOf, offerBody]
  simp (disch := simp) only [List.append_assoc, slice_append_right, slice_zero_append, slice_all,
    length_toBeBytes, List.getD_append_right, List.cons_append, List.nil_append, slice_cons_succ,
    List.getD_cons_zero, Nat.reduceSub, Nat.reduceDiv, fromBeBytes_toBeBytes]

/-- The body with the fields that were read from it is the body, if the reserved bytes are 0. -/
theorem offerBody_offerOf {b : Bytes} (hlen : b.length = 32)
    (hzeros : ¬ (slice b 17 3).any (fun v => v ≠ 0#8) = true) :
  offerBody (offerOf b) = b
  := by
  have hbytes : [b.getD 16 0#8, 0#8, 0#8, 0#8] = slice b 16 4 := by
    rw [← slice_append_slice b 16 1 3, slice_one (by omega) 0#8,
      slice_eq_replicate (by omega) hzeros]
    rfl
  rw [offerBody, offerOf, toBeBytes_slice b 0 8 rfl (by omega),
    toBeBytes_slice b 8 8 rfl (by omega), toBeBytes_slice b 20 8 rfl (by omega),
    toBeBytes_slice b 28 4 rfl (by omega), hbytes, slice_append_slice, slice_append_slice,
    slice_append_slice, slice_append_slice, slice_all hlen.le]

/-- Only the offers that are valid are built. -/
theorem addressOffer_eq_ok {transactionId : U32} {offer : AddressOffer} {msg : GctlMessage} :
  addressOffer transactionId offer = .ok msg ↔
    validateOffer offer = .ok () ∧ msg = new .addressOffer transactionId (offerBody offer)
  := by
  constructor
  · intro h
    obtain ⟨⟨⟩, hvalid, h⟩ := bind_eq_ok.mp h
    cases h
    exact ⟨hvalid, rfl⟩
  · rintro ⟨hvalid, rfl⟩
    rw [addressOffer, hvalid]
    rfl

/-- An offer is read from its own bytes only, and it is a valid one. -/
theorem parseAddressOffer_eq_ok {msg : GctlMessage} {offer : AddressOffer} :
  msg.parseAddressOffer = .ok offer ↔
    msg.messageType = .addressOffer ∧ validateOffer offer = .ok () ∧
      ∃ k, msg.body = offerBody offer ++ List.replicate k 0#8
  := by
  constructor
  · intro h
    obtain ⟨b, hb, h⟩ := bind_eq_ok.mp h
    obtain ⟨htype, hlen, hbody⟩ := typedBody_eq_ok.mp hb
    dsimp only at h
    split at h
    · cases h
    · next hzeros =>
      obtain ⟨⟨⟩, hvalid, h⟩ := bind_eq_ok.mp h
      cases h
      refine ⟨htype, hvalid, ?_⟩
      have hoffer := offerBody_offerOf hlen hzeros
      rw [offerOf] at hoffer
      rw [hoffer]
      exact hbody
  · rintro ⟨htype, hvalid, k, hbody⟩
    have hb : msg.typedBody .addressOffer 32 = .ok (offerBody offer) :=
      typedBody_padded htype (length_offerBody offer) hbody
    have hreserved : (slice (offerBody offer) 17 3).any (fun v => v ≠ 0#8) = false := by
      rw [offerBody]
      simp (disch := simp) only [List.append_assoc, slice_append_right, length_toBeBytes,
        List.cons_append, List.nil_append, slice_cons_succ, Nat.reduceSub, Nat.reduceDiv]
      rfl
    have hoffer := offerOf_offerBody offer
    rw [offerOf] at hoffer
    rw [parseAddressOffer, hb, ok_bind]
    dsimp only
    rw [hreserved, hoffer, hvalid]
    rfl

section Padded

variable (transactionId : U32) (k : ℕ)

theorem parseCreditRequest_padded (request : CreditRequest) :
  parseCreditRequest ((creditRequest transactionId request.requestedFlits).padded k) = .ok request
  := by
  have hbody := typedBody_of_padded (creditRequest transactionId request.requestedFlits) k
    (length_toBeBytes _)
  rw [parseCreditRequest, show typedBody _ .creditRequest 4 = _ from hbody]
  exact congrArg (fun c => Except.ok (CreditRequest.mk c)) (fromBeBytes_toBeBytes rfl _)

theorem parseCredit_padded (grant : CreditGrant) :
  parseCredit ((credit transactionId grant.grantedFlits).padded k) = .ok grant
  := by
  have hbody := typedBody_of_padded (credit transactionId grant.grantedFlits) k
    (length_toBeBytes _)
  rw [parseCredit, show typedBody _ .credit 4 = _ from hbody]
  exact congrArg (fun c => Except.ok (CreditGrant.mk c)) (fromBeBytes_toBeBytes rfl _)

theorem parseSolicit_padded (value : Solicit) :
  parseSolicit ((solicit transactionId value.serviceType value.scope).padded k) = .ok value
  := by
  obtain ⟨serviceType, ⟨⟩⟩ := value
  have hbody := typedBody_of_padded (n := 4) (solicit transactionId serviceType .link) k
    (by simp [solicit, new])
  rw [parseSolicit, show typedBody _ .solicit 4 = _ from hbody, ok_bind]
  simp [solicit, new, slice_zero_append, fromBeBytes_toBeBytes, DiscoveryScope.toWire,
    DiscoveryScope.fromWire]

theorem parseNodeAnnounce_padded (announce : NodeAnnounce) :
  parseNodeAnnounce ((nodeAnnounce transactionId announce).padded k) = .ok announce
  := by
  have hbody := typedBody_of_padded (n := 20) (nodeAnnounce transactionId announce) k
    (by simp [nodeAnnounce, new])
  rw [parseNodeAnnounce, show typedBody _ .nodeAnnounce 20 = _ from hbody, ok_bind, nodeAnnounce,
    new]
  simp (disch := simp) only [List.append_assoc, slice_append_right, slice_zero_append, slice_all,
    length_toBeBytes, Nat.reduceSub, Nat.reduceDiv, fromBeBytes_toBeBytes]

theorem parseReannounceSolicit_padded (value : ReannounceSolicit) :
  parseReannounceSolicit ((reannounceSolicit transactionId value.scope).padded k) = .ok value
  := by
  obtain ⟨⟨⟩⟩ := value
  have hbody := typedBody_of_padded (n := 4) (reannounceSolicit transactionId .link) k rfl
  rw [parseReannounceSolicit, show typedBody _ .reannounceSolicit 4 = _ from hbody]
  rfl

theorem parseAdvertise_padded (value : Advertise) :
  parseAdvertise ((advertise transactionId value).padded k) = .ok value
  := by
  have hbody := typedBody_of_padded (n := 20) (advertise transactionId value) k
    (by simp [advertise, new])
  rw [parseAdvertise, show typedBody _ .advertise 20 = _ from hbody, ok_bind, advertise, new]
  simp (disch := simp) only [List.append_assoc, slice_append_right, slice_zero_append, slice_all,
    length_toBeBytes, List.getD_append_right, List.cons_append, List.nil_append, slice_cons_succ,
    List.getD_cons_zero, List.getD_cons_succ, Nat.reduceSub, Nat.reduceDiv, fromBeBytes_toBeBytes,
    ne_eq, not_true_eq_false, if_false]

theorem parseAddressOffer_padded {offer : AddressOffer} {msg : GctlMessage}
    (h : addressOffer transactionId offer = .ok msg) :
  parseAddressOffer (msg.padded k) = .ok offer
  := by
  obtain ⟨hvalid, rfl⟩ := addressOffer_eq_ok.mp h
  exact parseAddressOffer_eq_ok.mpr ⟨rfl, hvalid, k, rfl⟩

theorem parseAddressClaim_padded (claim : AddressClaim) :
  parseAddressClaim ((addressClaim transactionId claim).padded k) = .ok claim
  := by
  have hbody := typedBody_of_padded (n := 16) (addressClaim transactionId claim) k
    (by simp [addressClaim, new])
  rw [parseAddressClaim, show typedBody _ .addressClaim 16 = _ from hbody, ok_bind, addressClaim,
    new]
  simp (disch := simp) only [slice_append_right, slice_zero_append, slice_all, length_toBeBytes,
    Nat.reduceSub, Nat.reduceDiv, fromBeBytes_toBeBytes]

theorem parseAddressNak_padded (nak : AddressNak) :
  parseAddressNak ((addressNak transactionId nak).padded k) = .ok nak
  := by
  have hbody := typedBody_of_padded (n := 12) (addressNak transactionId nak) k
    (by simp [addressNak, new])
  rw [parseAddressNak, show typedBody _ .addressNak 12 = _ from hbody, ok_bind, addressNak, new,
    padded]
  simp (disch := simp) only [slice_append_right, slice_zero_append, slice_all, length_toBeBytes,
    Nat.reduceSub, Nat.reduceDiv, fromBeBytes_toBeBytes]

end Padded

end GctlMessage

/-! ### The kinds of typed messages -/

/-- What a typed message says. -/
inductive GctlValue where
  | creditRequest (request : CreditRequest)
  | credit (grant : CreditGrant)
  | solicit (solicit : Solicit)
  | advertise (advertise : Advertise)
  | nodeAnnounce (announce : NodeAnnounce)
  | reannounceSolicit (solicit : ReannounceSolicit)
  | addressOffer (offer : AddressOffer)
  | addressClaim (claim : AddressClaim)
  | addressAck (ack : AddressAck)
  | addressNak (nak : AddressNak)
  deriving DecidableEq, Repr

namespace GctlValue

open GctlMessage

/-- The type of the message. -/
def messageType : GctlValue → GctlType
  | creditRequest _ => .creditRequest
  | credit _ => .credit
  | solicit _ => .solicit
  | advertise _ => .advertise
  | nodeAnnounce _ => .nodeAnnounce
  | reannounceSolicit _ => .reannounceSolicit
  | addressOffer _ => .addressOffer
  | addressClaim _ => .addressClaim
  | addressAck _ => .addressAck
  | addressNak _ => .addressNak

/-- The builder of the kind of the value. -/
def build (transactionId : U32) : GctlValue → Except Error GctlMessage
  | creditRequest request => .ok (.creditRequest transactionId request.requestedFlits)
  | credit grant => .ok (.credit transactionId grant.grantedFlits)
  | solicit value => .ok (.solicit transactionId value.serviceType value.scope)
  | advertise value => .ok (.advertise transactionId value)
  | nodeAnnounce announce => .ok (.nodeAnnounce transactionId announce)
  | reannounceSolicit value => .ok (.reannounceSolicit transactionId value.scope)
  | addressOffer offer => GctlMessage.addressOffer transactionId offer
  | addressClaim claim => .ok (.addressClaim transactionId claim)
  | addressAck ack => .ok (.addressAck transactionId ack)
  | addressNak nak => .ok (.addressNak transactionId nak)

/-- The parser for the messages of a type.  The other types have none. -/
def parse (msg : GctlMessage) : GctlType → Except Error GctlValue
  | .creditRequest => msg.parseCreditRequest.map creditRequest
  | .credit => msg.parseCredit.map credit
  | .solicit => msg.parseSolicit.map solicit
  | .advertise => msg.parseAdvertise.map advertise
  | .nodeAnnounce => msg.parseNodeAnnounce.map nodeAnnounce
  | .reannounceSolicit => msg.parseReannounceSolicit.map reannounceSolicit
  | .addressOffer => msg.parseAddressOffer.map addressOffer
  | .addressClaim => msg.parseAddressClaim.map addressClaim
  | .addressAck => msg.parseAddressAck.map addressAck
  | .addressNak => msg.parseAddressNak.map addressNak
  | _ => .error .unsupported

/-- A message whose type is another one is not parsed. -/
theorem messageType_of_parse {msg : GctlMessage} {t : GctlType} {v : GctlValue}
    (h : parse msg t = .ok v) :
  msg.messageType = t
  := by
  have hbody {α : Type} {t : GctlType} {n : ℕ} {f : Bytes → Except Error α} {g : α → GctlValue}
      (h : (msg.typedBody t n >>= f).map g = .ok v) : msg.messageType = t := by
    obtain ⟨x, hx, -⟩ := map_eq_ok.mp h
    obtain ⟨b, hb, -⟩ := bind_eq_ok.mp hx
    exact (typedBody_eq_ok.mp hb).1
  cases t <;> first
    | exact hbody h
    | cases h

/-- What a builder makes is parsed as what it was made of, whatever the padding. -/
theorem parse_padded {transactionId : U32} {v : GctlValue} {msg : GctlMessage}
    (h : v.build transactionId = .ok msg) (k : ℕ) :
  msg.version = 1#8 ∧ msg.transactionId = transactionId ∧ msg.messageType = v.messageType ∧
    parse (msg.padded k) v.messageType = .ok v
  := by
  cases v with
  | creditRequest request =>
    cases h
    refine ⟨rfl, rfl, rfl, ?_⟩
    rw [messageType, parse, parseCreditRequest_padded transactionId k request]
    rfl
  | credit grant =>
    cases h
    refine ⟨rfl, rfl, rfl, ?_⟩
    rw [messageType, parse, parseCredit_padded transactionId k grant]
    rfl
  | solicit value =>
    cases h
    refine ⟨rfl, rfl, rfl, ?_⟩
    rw [messageType, parse, parseSolicit_padded transactionId k value]
    rfl
  | advertise value =>
    cases h
    refine ⟨rfl, rfl, rfl, ?_⟩
    rw [messageType, parse, parseAdvertise_padded transactionId k value]
    rfl
  | nodeAnnounce announce =>
    cases h
    refine ⟨rfl, rfl, rfl, ?_⟩
    rw [messageType, parse, parseNodeAnnounce_padded transactionId k announce]
    rfl
  | reannounceSolicit value =>
    cases h
    refine ⟨rfl, rfl, rfl, ?_⟩
    rw [messageType, parse, parseReannounceSolicit_padded transactionId k value]
    rfl
  | addressOffer offer =>
    have h : GctlMessage.addressOffer transactionId offer = .ok msg := h
    obtain ⟨-, rfl⟩ := addressOffer_eq_ok.mp h
    refine ⟨rfl, rfl, rfl, ?_⟩
    rw [messageType, parse, parseAddressOffer_padded transactionId k h]
    rfl
  | addressClaim claim =>
    cases h
    refine ⟨rfl, rfl, rfl, ?_⟩
    rw [messageType, parse, parseAddressClaim_padded transactionId k claim]
    rfl
  | addressAck ack =>
    cases h
    refine ⟨rfl, rfl, rfl, ?_⟩
    have hparse : ((GctlMessage.addressAck transactionId ack).padded k).parseAddressAck = .ok ack :=
      parseAddressAck_padded transactionId ack k
    rw [messageType, parse, hparse]
    rfl
  | addressNak nak =>
    cases h
    refine ⟨rfl, rfl, rfl, ?_⟩
    rw [messageType, parse, parseAddressNak_padded transactionId k nak]
    rfl

/-- What a builder makes is encoded at every length that has room for it, and the bytes are read
as what it was made of and as nothing else.  The offers that are read are those that are
built. -/
theorem typed_codec :
  (∀ (transactionId : U32) (v : GctlValue) (msg : GctlMessage), v.build transactionId = .ok msg →
    ∀ total, msg.encodedLen ≤ total →
      ∃ bytes received, msg.encodeExact total = .ok bytes ∧ bytes.length = total ∧
        GctlMessage.decode bytes = .ok received ∧ received.transactionId = transactionId ∧
        parse received v.messageType = .ok v ∧
        ∀ t, t ≠ v.messageType → ∀ w, parse received t ≠ .ok w) ∧
  ∀ (msg : GctlMessage) (offer : AddressOffer), msg.parseAddressOffer = .ok offer →
    ∃ built, GctlMessage.addressOffer msg.transactionId offer = .ok built ∧
      ∃ k, msg.body = built.body ++ List.replicate k 0#8
  := by
  constructor
  · intro transactionId v msg h total htotal
    obtain ⟨hversion, hid, htype, hparse⟩ := parse_padded h (total - msg.encodedLen)
    obtain ⟨bytes, hencode, hlen, hdecode⟩ := decode_encodeExact hversion htotal
    refine ⟨bytes, _, hencode, hlen, hdecode, hid, hparse, ?_⟩
    intro t ht w hw
    exact ht ((messageType_of_parse hw).symm.trans htype)
  · intro msg offer h
    obtain ⟨-, hvalid, hbody⟩ := parseAddressOffer_eq_ok.mp h
    exact ⟨_, addressOffer_eq_ok.mpr ⟨hvalid, rfl⟩, hbody⟩

/-- An offer in a network with a prefix of 16 bits. -/
def sampleOffer : AddressOffer where
  router := ⟨0xabcd000000000001#64⟩
  addressPrefix := 0xabcd000000000000#64
  prefixLen := 16#8
  candidate := ⟨0xabcd000000000002#64⟩
  lifetime := 600#32

/-- The message of the offer. -/
def sampleMessage : GctlMessage :=
  GctlMessage.new .addressOffer 9#32 (offerBody sampleOffer)

theorem typed_codec_sample :
  (∃ bytes received, sampleMessage.encodeExact 64 = .ok bytes ∧ bytes.length = 64 ∧
    GctlMessage.decode bytes = .ok received ∧ received.transactionId = 9#32 ∧
    parse received .addressOffer = .ok (.addressOffer sampleOffer) ∧
    ∀ t, t ≠ .addressOffer → ∀ w, parse received t ≠ .ok w) ∧
  ∃ built, GctlMessage.addressOffer 9#32 sampleOffer = .ok built ∧
    ∃ k, (sampleMessage.padded 24).body = built.body ++ List.replicate k 0#8
  := by
  constructor
  · exact typed_codec.1 9#32 (.addressOffer sampleOffer) sampleMessage rfl 64 (by decide)
  · exact typed_codec.2 (sampleMessage.padded 24) sampleOffer (by decide +kernel)

end GctlValue

end SmolGnet
