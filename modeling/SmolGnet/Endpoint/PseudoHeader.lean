import SmolGnet.Endpoint.Core
import SmolGnet.Endpoint.Moves
import SmolGnet.Endpoint.Sizes

/-!
# The pseudo-header of the transport

The checksum of a transport packet covers the addresses of the packet below it.  The sender takes them
from its own address and the address it sends to.  The receiver takes the source from the packet, but
for the destination it takes its own primary address, whatever address the packet was sent to.  So the
two agree exactly on packets for the primary address.
-/

namespace SmolGnet

open Octets

/-! ### Decoding in another context -/

namespace GtsPacket

variable {pad pad' : Bytes → Prop} {ctx ctx' : GtsContext} {profile : Option StreamProfile}
  {crcOff coverage coverage' : ℕ} {packet : GtsPacket} {lower : GtsLowerPacket} {tail : Bytes}

/-- Checksums of the same bytes tell different pseudo-headers apart as far as the register does. -/
theorem computeCrc_eq_iff {gts : Bytes} :
  computeCrc ctx gts = computeCrc ctx' gts ↔ pseudoHeader ctx = pseudoHeader ctx'
  := by
  rw [computeCrc_eq, computeCrc_eq]
  constructor
  · intro h
    apply Crc32.updateBytes_inj
    have hvalue := (BitVec.xor_left_inj _).mp h
    exact congrArg Crc32.mk hvalue
  · intro h
    rw [h]

/-- The class is all that the form of a packet has from its context. -/
theorem layout_of_sizeClass (hclass : ctx'.sizeClass = ctx.sizeClass)
    (h : Layout pad ctx profile crcOff packet lower tail coverage) :
  Layout pad ctx' profile crcOff packet lower tail coverage
  := by
  have hadmits : ∀ {unreliable sp}, Admits ctx profile unreliable sp → Admits ctx' profile unreliable sp := by
    rintro unreliable sp ⟨hknown, hvalid, hunreliable, hfixed, hlimited⟩
    rw [← hclass] at hfixed hlimited
    exact ⟨hknown, hvalid, hunreliable, hfixed, hlimited⟩
  cases h with
  | control hfields hpad => exact .control hfields hpad
  | streamOpen hwire hcredit hpad => exact .streamOpen hwire hcredit hpad
  | connect hwire hcredit hcss => exact .connect hwire hcredit hcss
  | data h hbytes => exact .data (hadmits h) hbytes
  | datagram h hsequence hprobe hbytes => exact .datagram (hadmits h) hsequence hprobe hbytes

/-- What the checksum covers follows from the packet. -/
theorem coverage_unique (h : Layout pad ctx profile crcOff packet lower tail coverage)
    (h' : Layout pad' ctx' profile crcOff packet lower tail coverage') :
  coverage = coverage'
  := by
  cases h with
  | control hfields => exact ((layout_control_iff hfields).mp h').2.2.symm
  | streamOpen =>
    cases h' with
    | control hfields => cases hfields
    | streamOpen => rfl
  | @connect _ _ _ _ _ _ bytes k =>
    generalize bytes ++ List.replicate k 0#8 = tail at h'
    cases h' with
    | control hfields => cases hfields
    | connect => rfl
  | data =>
    cases h' with
    | control hfields => cases hfields
    | data => rfl
  | datagram hadmits =>
    cases h' with
    | control hfields => cases hfields
    | datagram hadmits' =>
      obtain rfl := Option.some_inj.mp (hadmits.known.symm.trans hadmits'.known)
      rfl

/-- A packet that was encoded for one context is decoded in another exactly if the checksum does not tell
the two apart. -/
theorem decode_other_iff {bytes : Bytes} (hencode : packet.encode ctx profile = .ok bytes)
    (hclass : ctx'.sizeClass = ctx.sizeClass) :
  decode bytes ctx' profile = .ok packet ↔ pseudoHeader ctx' = pseudoHeader ctx
  := by
  obtain ⟨lower, tail, coverage, hlayout, hlen, rfl⟩ := encode_eq_ok_iff.mp hencode
  rw [decode_eq_ok_iff, hclass]
  constructor
  · rintro ⟨lower', tail', coverage', hlayout', hlen', heq⟩
    obtain ⟨rfl, rfl, hcrc⟩ := packetBytes_inj (by omega) heq
    obtain rfl := coverage_unique hlayout hlayout'
    exact (computeCrc_eq_iff.mp hcrc).symm
  · intro hsame
    refine ⟨lower, tail, coverage, ?_, hlen, ?_⟩
    · exact (layout_of_sizeClass hclass hlayout).mono (fun _ _ => trivial)
    · rw [packetBytes, packetBytes, computeCrc_eq_iff.mpr hsame]

end GtsPacket

/-- Packets of these types are for a stream. -/
def GtsType.streamScoped (ty : GtsType) : Bool :=
  ty ∈ [data, dataEnd, datagram, ack, streamClose, streamCloseAck, streamReset, streamResetAck]

/-- The profile of the stream that a payload is for; it is looked up before the payload is decoded. -/
def gtsProfileFor (tunnels : BTreeMap U32 TunnelRecord) (payload : Bytes) :
    Except Error (Option StreamProfile) :=
  if payload.isEmpty then .error .invalidLength
  else do
    let ty ← GtsType.fromWire (payload.getD 0 0#8 &&& 0x0f#8)
    if !ty.streamScoped then .ok none
    else if payload.length < 6 then .error .invalidLength
    else
      match tunnels[(fromBeBytes 32 (slice payload 1 4) : U32)]? with
      | none => .error .unknownTunnel
      | some r =>
        match r.tunnel.streams[payload.getD 5 0#8]? with
        | none => .error .unknownStream
        | some s => .ok (some s.profile)

namespace LinkedEndpoint

variable {T T' : Transport}

/-! ### The two contexts -/

/-- The context of a packet that is sent to `remote`. -/
def sendContext (e : LinkedEndpoint T) (sizeClass : SizeClass) (remote : GdpAddress) : GtsContext where
  gdpVersion := 0#8
  sizeClass := sizeClass
  source := e.primaryAddress
  destination := remote

/-- The context of a packet that has arrived from `src`. -/
def receiveContext (e : LinkedEndpoint T) (src : GdpAddress) (packet : GdpPacket) : GtsContext where
  gdpVersion := packet.header.version
  sizeClass := packet.header.sizeClass
  source := src
  destination := e.primaryAddress

/-- The packet that is given to the link when the transport sends `packet` to `remote`. -/
def emitGts (e : LinkedEndpoint T) (remote : GdpAddress) (packet : GtsPacket)
    (profile : Option StreamProfile) : Except Error GdpPacket := do
  let sizeClass ← packet.chooseSizeClass profile
  let payload ← packet.encode (e.sendContext sizeClass remote) profile
  e.gtsPacket { remote, sizeClass, payload }

/-- The transport packet that has arrived from `src`, when the endpoint has the given tunnels. -/
def decodeGts (e : LinkedEndpoint T) (tunnels : BTreeMap U32 TunnelRecord) (src : GdpAddress)
    (packet : GdpPacket) : Except Error GtsPacket := do
  let profile ← gtsProfileFor tunnels packet.payload
  GtsPacket.decode packet.payload (e.receiveContext src packet) profile

/-- What is given to the link is queued. -/
theorem sendGtsPacket_of_emitGts {e : LinkedEndpoint T} {remote : GdpAddress} {packet : GtsPacket}
    {profile : Option StreamProfile} {sent : GdpPacket}
    (h : e.emitGts remote packet profile = .ok sent) :
  (e.sendGtsPacket remote packet profile).2 = { e with dlp := (e.dlp.queueDataPacket sent).2 }
  := by
  obtain ⟨sizeClass, hclass, h⟩ := bind_eq_ok.mp h
  obtain ⟨payload, hencode, h⟩ := bind_eq_ok.mp h
  rw [sendContext] at hencode
  rw [sendGtsPacket, hclass]
  dsimp only
  rw [hencode]
  dsimp only
  rw [sendGts, h]
  dsimp only
  split
  · next heq => rw [heq]
  · next heq => rw [heq]

/-- The endpoint `B` reads the packet `received` when `A` has sent the packet `sent`: both write packets
alike, a local prefix is that of `B`, and the hop limit may have been lowered on the way. -/
structure Carries (A : LinkedEndpoint T) (B : LinkedEndpoint T') (sent received : GdpPacket) : Prop where
  cfg : A.dlp.cfg = B.dlp.cfg
  local_prefix : ∀ destination source p, sent.header.addresses = .local destination source p →
    p = B.dlp.localPrefix &&& ~~~0xffff#64
  carried : ∃ hop ≤ sent.header.hopLimit, ∃ bytes,
    GdpPacket.encode { sent with header := { sent.header with hopLimit := hop } } A.dlp.cfg = .ok bytes ∧
    GdpPacket.decode bytes B.dlp.cfg B.dlp.localPrefix = .ok received

/-- The header of a packet has what it was made for. -/
theorem makeGdpHeader_fields {e : LinkedEndpoint T} {packetType : GdpType} {sizeClass : SizeClass}
    {source destination : GdpAddress} {header : GdpHeader}
    (h : e.makeGdpHeader packetType sizeClass source destination = .ok header) :
  header.version = 0#8 ∧ header.sizeClass = sizeClass ∧ header.source = source
  := by
  rw [makeGdpHeader] at h
  split at h
  · split at h
    · next localPrefix _ =>
      dsimp only at h
      split at h
      · next haddr =>
        rw [GdpHeader.local, if_neg (by decide), BitVec.and_assoc, BitVec.and_self] at h
        cases h
        refine ⟨rfl, rfl, ?_⟩
        rw [GdpHeader.source, GdpAddresses.effectiveSource, BitVec.and_assoc, BitVec.and_self,
          ← haddr.1, high_or_low]
      · cases h
        exact ⟨rfl, rfl, rfl⟩
    · cases h
      exact ⟨rfl, rfl, rfl⟩
  · cases h
    exact ⟨rfl, rfl, rfl⟩

/-- The packet arrives as it was sent, except for the hop limit. -/
theorem Carries.received_eq {A : LinkedEndpoint T} {B : LinkedEndpoint T'} {sent received : GdpPacket}
    (h : A.Carries B sent received) {localPrefix : U64} (hcanonical : sent.Canonical localPrefix) :
  ∃ hop, received = { sent with header := { sent.header with hopLimit := hop } }
  := by
  obtain ⟨hcfg, hlocal, hop, hle, bytes, hencode, hdecode⟩ := h
  refine ⟨hop, ?_⟩
  have hcarried : GdpPacket.Canonical B.dlp.localPrefix
      { sent with header := { sent.header with hopLimit := hop } } := by
    obtain ⟨⟨hversion, htype, hform⟩, hlength⟩ := hcanonical
    refine ⟨⟨hversion, htype, ?_⟩, hlength⟩
    intro destination source p haddr
    refine ⟨BitVec.le_trans hle (hform destination source p haddr).1, ?_⟩
    rw [hlocal destination source p haddr]
  rw [GdpPacket.encode_of_canonical hcarried] at hencode
  cases hencode
  rw [hcfg, GdpPacket.decode_wire hcarried] at hdecode
  cases hdecode
  rfl

/-- What a packet that is given to the link is. -/
theorem emitGts_eq_ok {e : LinkedEndpoint T} {remote : GdpAddress} {packet : GtsPacket}
    {profile : Option StreamProfile} {sent : GdpPacket}
    (h : e.emitGts remote packet profile = .ok sent) :
  sent.Canonical e.contextPrefix ∧ sent.header.version = 0#8 ∧
    sent.header.source = e.primaryAddress ∧
    packet.encode (e.sendContext sent.header.sizeClass remote) profile = .ok sent.payload
  := by
  obtain ⟨sizeClass, -, h⟩ := bind_eq_ok.mp h
  obtain ⟨payload, hencode, h⟩ := bind_eq_ok.mp h
  obtain ⟨header, hheader, h⟩ := bind_eq_ok.mp h
  obtain ⟨hcanonical, -, -, -⟩ := makeGdpHeader_spec ⟨2#8, rfl⟩ hheader
  obtain ⟨hversion, hsizeClass, hsource⟩ := makeGdpHeader_fields hheader
  rw [GdpPacket.new] at h
  split at h
  · cases h
  next hlength =>
  cases h
  rw [← show header.sizeClass = sizeClass from hsizeClass] at hencode
  exact ⟨⟨hcanonical, not_not.mp hlength⟩, hversion, hsource, hencode⟩

/-- A packet is carried by a link whose ends write packets alike and have the same local prefix, if it is
in the local form. -/
theorem carries_of_emitGts {A : LinkedEndpoint T} {B : LinkedEndpoint T'} {remote : GdpAddress}
    {packet : GtsPacket} {profile : Option StreamProfile} {sent : GdpPacket}
    (hsent : A.emitGts remote packet profile = .ok sent) (hcfg : A.dlp.cfg = B.dlp.cfg)
    (hlocal : ∀ destination source p, sent.header.addresses = .local destination source p →
      p = B.dlp.localPrefix &&& ~~~0xffff#64) :
  A.Carries B sent sent
  := by
  obtain ⟨⟨⟨hversion, htype, hform⟩, hlength⟩, -⟩ := emitGts_eq_ok hsent
  have hcanonical : sent.Canonical B.dlp.localPrefix := by
    refine ⟨⟨hversion, htype, ?_⟩, hlength⟩
    intro destination source p haddr
    exact ⟨(hform destination source p haddr).1, hlocal destination source p haddr⟩
  refine ⟨hcfg, hlocal, _, BitVec.le_refl _, _, GdpPacket.encode_of_canonical hcanonical _, ?_⟩
  rw [hcfg]
  exact GdpPacket.decode_wire hcanonical _

/-- The receiver has the context of the sender, and decodes what the sender has encoded, exactly if the
packet was sent to the receiver's primary address.  What was sent to another address is decoded only
if the checksum does not tell the two addresses apart. -/
theorem decodeGts_iff {A : LinkedEndpoint T} {B : LinkedEndpoint T'} {remote : GdpAddress}
    {packet : GtsPacket} {profile : Option StreamProfile} {sent received : GdpPacket}
    {tunnels : BTreeMap U32 TunnelRecord} (hsent : A.emitGts remote packet profile = .ok sent)
    (hcarries : A.Carries B sent received)
    (hprofile : gtsProfileFor tunnels received.payload = .ok profile) :
  let ctx := A.sendContext sent.header.sizeClass remote
  let ctx' := B.receiveContext received.header.source received
  (ctx' = ctx ∧ B.decodeGts tunnels received.header.source received = .ok packet ↔
      remote = B.primaryAddress) ∧
    (B.decodeGts tunnels received.header.source received = .ok packet ↔
      GtsPacket.pseudoHeader ctx' = GtsPacket.pseudoHeader ctx)
  := by
  intro ctx ctx'
  obtain ⟨hcanonical, hversion, hsource, hencode⟩ := emitGts_eq_ok hsent
  obtain ⟨hop, rfl⟩ := hcarries.received_eq hcanonical
  have hcontext : ctx' = ctx ↔ remote = B.primaryAddress := by
    constructor
    · intro h
      exact (congrArg GtsContext.destination h).symm
    · rintro rfl
      have hfields : ctx' = ⟨sent.header.version, sent.header.sizeClass, sent.header.source,
          B.primaryAddress⟩ := rfl
      rw [hfields, hversion, hsource]
      rfl
  have hdecode : B.decodeGts tunnels sent.header.source
      ⟨{ sent.header with hopLimit := hop }, sent.payload⟩ = .ok packet ↔
      GtsPacket.pseudoHeader ctx' = GtsPacket.pseudoHeader ctx := by
    rw [decodeGts, hprofile, ok_bind]
    exact GtsPacket.decode_other_iff hencode rfl
  refine ⟨⟨fun h => hcontext.mp h.1, fun h => ⟨hcontext.mpr h, ?_⟩⟩, hdecode⟩
  exact hdecode.mpr (congrArg GtsPacket.pseudoHeader (hcontext.mpr h))

theorem form_global {header : GdpHeader} (h : header.addresses.form = .global) (destination source : U16)
    (p : U64) :
  header.addresses ≠ .local destination source p
  := by
  intro haddr
  rw [haddr] at h
  cases h

/-- A request for a tunnel that is sent to the primary address of the other endpoint is decoded there. -/
theorem decodeGts_iff_connect :
  let config : EndpointConfig := ⟨32#32, .two, 8#8, none, false, 1#32, 32#32, ⟨true⟩⟩
  let packet : GtsPacket := .connect 1#32 2#32 ⟨false, true, false, false, .bidirectional, .msg128⟩
    4#8 ⟨List.replicate 16 1#8, rfl⟩
  ∃ A B : LinkedEndpoint .silent, new ⟨1#64⟩ config = .ok A ∧ new ⟨2#64⟩ config = .ok B ∧
    ∃ sent, A.emitGts ⟨2#64⟩ packet none = .ok sent ∧
      B.decodeGts ∅ sent.header.source sent = .ok packet
  := by
  intro config packet
  obtain ⟨A, hA⟩ : ∃ A : LinkedEndpoint .silent, new ⟨1#64⟩ config = .ok A := ⟨_, rfl⟩
  obtain ⟨B, hB⟩ : ∃ B : LinkedEndpoint .silent, new ⟨2#64⟩ config = .ok B := ⟨_, rfl⟩
  obtain ⟨sent, hsent, hform, hprofile⟩ : ∃ sent ∈ (A.emitGts ⟨2#64⟩ packet none).toOption,
      sent.header.addresses.form = .global ∧ gtsProfileFor ∅ sent.payload = .ok none := by
    cases hA
    decide +kernel
  rw [mem_toOption] at hsent
  have hcarries : A.Carries B sent sent := by
    refine carries_of_emitGts hsent ?_ (fun _ _ _ haddr => absurd haddr (form_global hform _ _ _))
    cases hA
    cases hB
    rfl
  refine ⟨A, B, hA, hB, sent, hsent, ((decodeGts_iff hsent hcarries hprofile).1.mpr ?_).2⟩
  cases hB
  rfl

/-- The same request, sent to the link-local address of the other endpoint, is not decoded there. -/
theorem decodeGts_linkLocal :
  let config : EndpointConfig := ⟨32#32, .two, 8#8, none, false, 1#32, 32#32, ⟨true⟩⟩
  let packet : GtsPacket := .connect 1#32 2#32 ⟨false, true, false, false, .bidirectional, .msg128⟩
    4#8 ⟨List.replicate 16 1#8, rfl⟩
  ∃ A B : LinkedEndpoint .silent, new ⟨1#64⟩ config = .ok A ∧ new ⟨2#64⟩ config = .ok B ∧
    B.acceptsDestination B.linkLocalAddress = true ∧ B.linkLocalAddress ≠ bootstrapAddress ∧
    ∃ sent, A.emitGts B.linkLocalAddress packet none = .ok sent ∧ A.Carries B sent sent ∧
      gtsProfileFor ∅ sent.payload = .ok none ∧
      B.receiveContext sent.header.source sent ≠ A.sendContext sent.header.sizeClass B.linkLocalAddress ∧
      B.decodeGts ∅ sent.header.source sent = .error .invalidCrc
  := by
  intro config packet
  obtain ⟨A, hA⟩ : ∃ A : LinkedEndpoint .silent, new ⟨1#64⟩ config = .ok A := ⟨_, rfl⟩
  obtain ⟨B, hB⟩ : ∃ B : LinkedEndpoint .silent, new ⟨2#64⟩ config = .ok B := ⟨_, rfl⟩
  obtain ⟨sent, hsent, hform, hprofile, hcontext, hdecode⟩ :
      ∃ sent ∈ (A.emitGts B.linkLocalAddress packet none).toOption,
        sent.header.addresses.form = .global ∧ gtsProfileFor ∅ sent.payload = .ok none ∧
        B.receiveContext sent.header.source sent ≠ A.sendContext sent.header.sizeClass B.linkLocalAddress ∧
        B.decodeGts ∅ sent.header.source sent = .error .invalidCrc := by
    cases hA
    cases hB
    decide +kernel
  rw [mem_toOption] at hsent
  have hcarries : A.Carries B sent sent := by
    refine carries_of_emitGts hsent ?_ (fun _ _ _ haddr => absurd haddr (form_global hform _ _ _))
    cases hA
    cases hB
    rfl
  refine ⟨A, B, hA, hB, ?_, ?_, sent, hsent, hcarries, hprofile, hcontext, hdecode⟩
  · cases hB
    rfl
  · cases hB
    decide

end LinkedEndpoint

end SmolGnet
