import SmolGnet.Routing.LongestPrefix

/-!
# A router is longest-prefix match

The program takes the headers of a packet apart and puts them together again: what leaves the
pipeline is the packet that came in, but for the hop limit of a packet that is forwarded.

So a router deals with every packet as the entry of the forwarding table with the longest prefix says.
-/

namespace SmolGnet

open Octets P4 P4Gdp

/-! ### The packet in the pipeline -/

/-- The hop limit is in the last digits of the first word. -/
theorem packWord_div (version packetType sizeClass : U8) (formBit : Bool) (crc hop hop' : U8) :
  (GdpHeader.packWord version packetType sizeClass formBit crc hop).toNat / 2 ^ 8
    = (GdpHeader.packWord version packetType sizeClass formBit crc hop').toNat / 2 ^ 8
  := by
  have hshift : GdpHeader.packWord version packetType sizeClass formBit crc hop >>> 8
      = GdpHeader.packWord version packetType sizeClass formBit crc hop' >>> 8 := by
    ext i hi
    interval_cases i <;> simp [GdpHeader.packWord]
  rw [← Nat.shiftRight_eq_div_pow, ← Nat.shiftRight_eq_div_pow, ← BitVec.toNat_ushiftRight, hshift,
    BitVec.toNat_ushiftRight]

namespace GdpPacket

/-- The packet with another hop limit. -/
def withHop (packet : GdpPacket) (hopLimit : U8) : GdpPacket :=
  { packet with header := { packet.header with hopLimit } }

section Wire

variable {packet : GdpPacket} {destination source : GdpAddress} (cfg : GdpWireConfig)

theorem four_le_length_wire :
  4 ≤ (packet.wire cfg).length
  := by
  rw [length_wire, GdpHeader.headerLen_eq]
  omega

/-- The first word of the packet. -/
theorem word_wire :
  fromBeBytes 32 (slice (packet.wire cfg) 0 4) = packet.header.word1 cfg
  := by
  rw [wire, slice_zero_append (length_toBeBytes _), fromBeBytes_toBeBytes (by rfl)]

/-- What follows the first word. -/
theorem drop_wire :
  (packet.wire cfg).drop 4 = packet.header.addressBytes ++ packet.payload
  := List.drop_left' (length_toBeBytes _)

variable (haddr : packet.header.addresses = .global destination source)

include haddr

theorem length_wire_global :
  20 ≤ (packet.wire cfg).length
  := by
  rw [length_wire, GdpHeader.headerLen, haddr]
  dsimp only
  omega

/-- The hop limit of a packet in the global form. -/
theorem hop_wire :
  (Header.read GdpBaseH (bitsOf (packet.wire cfg))).hop = packet.header.hopLimit
  := by
  have hhop := (wordFields (packet.four_le_length_wire cfg)).hop
  rw [word_wire, GdpHeader.word1, GdpHeader.packWord_hop] at hhop
  rw [← hhop, haddr]

/-- The bit for the form of a packet in the global form. -/
theorem localForm_wire :
  (Header.read GdpBaseH (bitsOf (packet.wire ⟨true⟩))).localForm ≠ 1#1
  := by
  have hform := (wordFields (packet.four_le_length_wire ⟨true⟩)).localForm
  rw [word_wire, GdpHeader.word1, GdpHeader.packWord_formBit, haddr] at hform
  exact of_decide_eq_false hform.symm

/-- A packet with another hop limit differs only in that field. -/
theorem read_wire_withHop (hopLimit : U8) :
  Header.read GdpBaseH (bitsOf ((packet.withHop hopLimit).wire cfg))
    = { Header.read GdpBaseH (bitsOf (packet.wire cfg)) with hop := hopLimit }
  := by
  have hhop : (Header.read GdpBaseH (bitsOf ((packet.withHop hopLimit).wire cfg))).hop = hopLimit :=
    (packet.withHop hopLimit).hop_wire cfg haddr
  have hword : ((packet.withHop hopLimit).header.word1 cfg).toNat / 2 ^ 8
      = (packet.header.word1 cfg).toNat / 2 ^ 8 := by
    apply packWord_div
  have hdiv : ∀ k, ((packet.withHop hopLimit).header.word1 cfg).toNat / 2 ^ (8 + k)
      = (packet.header.word1 cfg).toNat / 2 ^ (8 + k) := by
    intro k
    rw [Nat.pow_add, ← Nat.div_div_eq_div_mul, ← Nat.div_div_eq_div_mul, hword]
  rw [read_base (four_le_length_wire cfg), word_wire] at hhop ⊢
  rw [read_base (four_le_length_wire cfg), word_wire]
  dsimp only at hhop ⊢
  rw [hhop, hdiv 22, hdiv 18, hdiv 14, hdiv 13, hdiv 8, hdiv 0]

/-- The destination of a packet in the global form. -/
theorem destination_wire :
  (Header.read GdpGlobalH (bitsOf ((packet.wire cfg).drop 4))).destinationHi = destination.hi ∧
    (Header.read GdpGlobalH (bitsOf ((packet.wire cfg).drop 4))).destinationLo = destination.lo
  := by
  have hslice : ofBe (slice ((packet.wire cfg).drop 4) 0 8) = destination.value.toNat := by
    rw [drop_wire, GdpHeader.addressBytes, haddr]
    dsimp only
    rw [List.append_assoc, slice_zero_append (length_toBeBytes _), toBeBytes]
    exact ofBe_toBe destination.value.isLt
  have hlen := length_wire_global cfg haddr
  rw [read_global (by rw [List.length_drop]; omega), hslice]
  constructor
  · apply BitVec.eq_of_toNat_eq
    rw [BitVec.toNat_ofNat, GdpAddress.toNat_hi]
    have := destination.value.isLt
    omega
  · apply BitVec.eq_of_toNat_eq
    rw [BitVec.toNat_ofNat, GdpAddress.toNat_lo]

/-- The headers of a packet are written with another hop limit. -/
theorem bytesOf_headerBits (hopLimit : U8) :
  bytesOf (headerBits
      { base := some { Header.read GdpBaseH (bitsOf (packet.wire cfg)) with hop := hopLimit }
        globalAddr := some (Header.read GdpGlobalH (bitsOf ((packet.wire cfg).drop 4)))
        localAddr := none }) ++ (packet.wire cfg).drop 20
    = (packet.withHop hopLimit).wire cfg
  := by
  have hlen := length_wire_global cfg haddr
  have hlen' := (packet.withHop hopLimit).length_wire_global cfg haddr
  have hdrop : (packet.wire cfg).drop 4 = ((packet.withHop hopLimit).wire cfg).drop 4 :=
    (drop_wire cfg).trans (drop_wire cfg).symm
  have hbase : Header.bits (Header.read GdpBaseH (bitsOf ((packet.withHop hopLimit).wire cfg)))
      = bitsOf (((packet.withHop hopLimit).wire cfg).take 4) := by
    rw [Header.bits_read, show Header.size GdpBaseH = 8 * 4 from rfl, take_bitsOf]
    rw [length_bitsOf, show Header.size GdpBaseH = 8 * 4 from rfl]
    omega
  have hglobal : Header.bits
        (Header.read GdpGlobalH (bitsOf (((packet.withHop hopLimit).wire cfg).drop 4)))
      = bitsOf ((((packet.withHop hopLimit).wire cfg).drop 4).take 16) := by
    rw [Header.bits_read, show Header.size GdpGlobalH = 8 * 16 from rfl, take_bitsOf]
    rw [length_bitsOf, show Header.size GdpGlobalH = 8 * 16 from rfl, List.length_drop]
    omega
  have hrest : (packet.wire cfg).drop 20 = ((packet.withHop hopLimit).wire cfg).drop 20 := by
    have hdrop' := congrArg (List.drop 16) hdrop
    rw [List.drop_drop, List.drop_drop] at hdrop'
    exact hdrop'
  rw [← read_wire_withHop cfg haddr, hdrop, hrest, headerBits]
  simp only [Option.map_some, Option.getD_some, Option.map_none, Option.getD_none, List.append_nil]
  rw [hbase, hglobal, ← bitsOf_append, bytesOf_bitsOf, ← List.take_add, List.take_append_drop]

end Wire

end GdpPacket

/-- The headers that the parser finds in a packet in the global form. -/
def globalHeaders (bytes : Bytes) : HeadersT where
  base := some (Header.read GdpBaseH (bitsOf bytes))
  globalAddr := some (Header.read GdpGlobalH (bitsOf (bytes.drop 4)))
  localAddr := none

section Process

variable {packet : GdpPacket} {destination source : GdpAddress}
  (haddr : packet.header.addresses = .global destination source)
  {pipeline : List RouterTableEntry} {port egressPort : U16}

include haddr

/-- What the pipeline makes of a packet in the global form. -/
theorem processPacket_wire :
  processPacket pipeline port (packet.wire ⟨true⟩) =
    let (hdr, egress) := ingress pipeline port (globalHeaders (packet.wire ⟨true⟩))
    if egress.drop then some []
    else some [(bytesOf (headerBits hdr), (packet.wire ⟨true⟩).drop 20, egress.port)]
  := by
  have hlen := packet.length_wire_global ⟨true⟩ haddr
  have hform := packet.localForm_wire haddr
  rw [processPacket, parseStart_global hlen hform]
  dsimp only
  rw [bytesOf_bitsOf]
  rfl

/-- The hop limit that the program finds. -/
theorem hop_globalHeaders :
  ((globalHeaders (packet.wire ⟨true⟩)).base.getD default).hop = packet.header.hopLimit
  := packet.hop_wire ⟨true⟩ haddr

/-- A packet that the tables drop is dropped. -/
theorem processPacket_of_drop
    (htables : applyTables pipeline port (globalHeaders (packet.wire ⟨true⟩))
      = { port := egressPort, drop := true, transit := false, decided := true }) :
  processPacket pipeline port (packet.wire ⟨true⟩) = some []
  := by
  have hingress : ingress pipeline port (globalHeaders (packet.wire ⟨true⟩)) =
      (globalHeaders (packet.wire ⟨true⟩),
        { port := egressPort, drop := true, transit := false, decided := true }) := by
    rw [ingress, htables]
    rfl
  rw [processPacket_wire haddr, hingress]
  rfl

/-- A packet for which the tables decide on a port, but not to forward it, leaves as it is. -/
theorem processPacket_of_punt
    (htables : applyTables pipeline port (globalHeaders (packet.wire ⟨true⟩))
      = { port := egressPort, drop := false, transit := false, decided := true }) :
  ∃ headerData payloadData, headerData ++ payloadData = packet.wire ⟨true⟩ ∧
    processPacket pipeline port (packet.wire ⟨true⟩) = some [(headerData, payloadData, egressPort)]
  := by
  have hingress : ingress pipeline port (globalHeaders (packet.wire ⟨true⟩)) =
      (globalHeaders (packet.wire ⟨true⟩),
        { port := egressPort, drop := false, transit := false, decided := true }) := by
    rw [ingress, htables]
    rfl
  have hbytes := packet.bytesOf_headerBits ⟨true⟩ haddr packet.header.hopLimit
  rw [← GdpPacket.read_wire_withHop ⟨true⟩ haddr] at hbytes
  refine ⟨_, _, hbytes, ?_⟩
  rw [processPacket_wire haddr, hingress]
  rfl

/-- A packet that is forwarded, but must not take another hop, is dropped. -/
theorem processPacket_of_expired (hhop : packet.header.hopLimit < 2#8)
    (htables : applyTables pipeline port (globalHeaders (packet.wire ⟨true⟩))
      = { port := egressPort, drop := false, transit := true, decided := true }) :
  processPacket pipeline port (packet.wire ⟨true⟩) = some []
  := by
  have hexpired : packet.header.hopLimit = 0#8 ∨ packet.header.hopLimit = 1#8 := by bv_omega
  have hingress : ingress pipeline port (globalHeaders (packet.wire ⟨true⟩)) =
      (globalHeaders (packet.wire ⟨true⟩),
        { port := egressPort, drop := true, transit := true, decided := true }) := by
    rw [ingress, htables]
    dsimp only
    rw [hop_globalHeaders haddr, if_pos rfl]
    obtain hzero | hone := hexpired
    · rw [if_pos hzero]
    · rw [if_neg (by rw [hone]; decide), if_pos hone]
  rw [processPacket_wire haddr, hingress]
  rfl

/-- A packet that is forwarded leaves with a hop limit that is one less. -/
theorem processPacket_of_transit (hhop : ¬ packet.header.hopLimit < 2#8)
    (htables : applyTables pipeline port (globalHeaders (packet.wire ⟨true⟩))
      = { port := egressPort, drop := false, transit := true, decided := true }) :
  ∃ headerData payloadData,
    headerData ++ payloadData = (packet.withHop (packet.header.hopLimit - 1#8)).wire ⟨true⟩ ∧
    processPacket pipeline port (packet.wire ⟨true⟩) = some [(headerData, payloadData, egressPort)]
  := by
  have hingress : ingress pipeline port (globalHeaders (packet.wire ⟨true⟩)) =
      ({ globalHeaders (packet.wire ⟨true⟩) with
          base := some { Header.read GdpBaseH (bitsOf (packet.wire ⟨true⟩)) with
            hop := packet.header.hopLimit - 1#8 } },
        { port := egressPort, drop := false, transit := true, decided := true }) := by
    rw [ingress, htables]
    dsimp only
    rw [hop_globalHeaders haddr, if_pos rfl, if_neg (by bv_omega), if_neg (by bv_omega),
      ← packet.hop_wire ⟨true⟩ haddr]
    rfl
  refine ⟨_, _, packet.bytesOf_headerBits ⟨true⟩ haddr (packet.header.hopLimit - 1#8), ?_⟩
  rw [processPacket_wire haddr, hingress]
  rfl

end Process

/-! ### The router -/

/-- What is done with a packet for which the forwarding table has the entry. -/
def FibEntry.disposition (entry : FibEntry) (ingressPort : RouterPortId) (packet : GdpPacket) :
    RouterDisposition :=
  match entry.egressPort with
  | none => .punt ingressPort packet
  | some port =>
    if port ≠ ingressPort ∧ 2#8 ≤ packet.header.hopLimit then
      .forward port (packet.withHop (packet.header.hopLimit - 1#8))
    else .drop

theorem GdpPacket.Canonical.withHop {packet : GdpPacket} {destination source : GdpAddress}
    (h : packet.Canonical 0#64) (haddr : packet.header.addresses = .global destination source)
    (hopLimit : U8) :
  (packet.withHop hopLimit).Canonical 0#64
  := by
  refine ⟨⟨h.header.version_le, h.header.packetType_mem, ?_⟩, h.length_eq⟩
  intro _ _ _ hlocal
  rw [← show packet.header.addresses = (packet.withHop hopLimit).header.addresses from rfl,
    haddr] at hlocal
  cases hlocal

namespace StaticP4Router

variable {startup : RouterStartupConfig} {router : StaticP4Router}

/-- What the tables of a router are compiled from. -/
theorem compiled_of_new (h : new startup = .ok router) :
  router.cpuPort = routerPortCount ∧ ∃ st, Compiled routerPortCount st ∧
    router.pipeline = st.pipeline ∧ router.fib = st.fib
  := by
  rw [new, bind_eq_ok] at h
  obtain ⟨_, hvalid, h⟩ := h
  rw [bind_eq_ok] at h
  obtain ⟨st, hst, h⟩ := h
  cases h
  exact ⟨rfl, st, .of_compile (RouterStartupConfig.ports_lt hvalid) hst, rfl, rfl⟩

section Process

variable {ingressPort : RouterPortId} (hport : ingressPort < routerPortCount)
  {packet : GdpPacket} (hpacket : packet.Canonical 0#64)
  {destination source : GdpAddress} (haddr : packet.header.addresses = .global destination source)

include hport hpacket haddr

/-- A packet is dealt with as the entry with the longest prefix says. -/
theorem process_of_longest (h : new startup = .ok router) {entry : FibEntry}
    (hlongest : IsLongestMatch router.fib destination entry) :
  router.process ingressPort packet = some (.ok (entry.disposition ingressPort packet))
  := by
  obtain ⟨hcpu, st, hst, hpipeline, hfib⟩ := compiled_of_new h
  rw [hfib] at hlongest
  obtain ⟨hhi, hlo⟩ := packet.destination_wire ⟨true⟩ haddr
  have hglobal : (globalHeaders (packet.wire ⟨true⟩)).globalAddr = some _ := rfl
  have htables := hst.applyTables_of_longest hglobal hhi hlo ingressPort hlongest
  rw [process_of_encode hport haddr (GdpPacket.encode_of_canonical hpacket _), hpipeline,
    FibEntry.disposition]
  cases hegress : entry.egressPort with
  | none =>
    rw [hegress] at htables
    obtain ⟨headerData, payloadData, hbytes, hprocess⟩ := processPacket_of_punt haddr htables
    rw [hprocess, Option.map_some]
    dsimp only
    rw [hbytes, GdpPacket.decode_wire hpacket, ok_bind, if_pos hcpu.symm]
    rfl
  | some port =>
    rw [hegress] at htables
    have hlt := hst.ports entry hlongest.mem port hegress
    dsimp only
    by_cases hhop : packet.header.hopLimit < 2#8
    · rw [processPacket_of_expired haddr hhop htables, if_neg]
      · rfl
      · exact fun h => BitVec.not_le.mpr hhop h.2
    · obtain ⟨headerData, payloadData, hbytes, hprocess⟩ :=
        processPacket_of_transit haddr hhop htables
      have hne : port ≠ router.cpuPort := by
        rw [hcpu]
        exact BitVec.ne_of_lt hlt
      rw [hprocess, Option.map_some]
      dsimp only
      rw [hbytes, GdpPacket.decode_wire (hpacket.withHop haddr _), ok_bind, if_neg hne]
      by_cases hsame : port = ingressPort
      · rw [if_pos (.inr hsame), if_neg (fun h => h.1 hsame)]
        rfl
      · rw [if_neg (not_or.mpr ⟨BitVec.not_le.mpr hlt, hsame⟩),
          if_pos ⟨hsame, BitVec.not_lt.mp hhop⟩]
        rfl

/-- A packet to an address that is in no prefix is dropped. -/
theorem process_of_forall (h : new startup = .ok router)
    (hnone : ∀ entry ∈ router.fib, entry.gdpPrefix.contains destination = false) :
  router.process ingressPort packet = some (.ok .drop)
  := by
  obtain ⟨hcpu, st, hst, hpipeline, hfib⟩ := compiled_of_new h
  rw [hfib] at hnone
  obtain ⟨hhi, hlo⟩ := packet.destination_wire ⟨true⟩ haddr
  have hglobal : (globalHeaders (packet.wire ⟨true⟩)).globalAddr = some _ := rfl
  have htables := hst.applyTables_of_forall hglobal hhi hlo ingressPort hnone
  rw [process_of_encode hport haddr (GdpPacket.encode_of_canonical hpacket _), hpipeline,
    processPacket_of_drop haddr htables]
  rfl

end Process

/-- A router refuses a packet in the global form that cannot be encoded.  With every other one it deals as
the entry of its forwarding table with the longest prefix that contains the destination says, and drops it
if there is none; what it hands on is the packet as it is read, where the type has four bits.  The entries
without a port are those for the addresses of the router. -/
theorem process_longestPrefixMatch (h : new startup = .ok router) {ingressPort : RouterPortId}
    (hport : ingressPort < routerPortCount) {packet : GdpPacket}
    (hform : packet.header.addresses.form = .global) :
  if packet.payload.length ≠ packet.header.sizeClass.bytes then
    router.process ingressPort packet = some (.error .invalidLength)
  else if 3#8 < packet.header.version then
    router.process ingressPort packet = some (.error .invalidField)
  else
    let received : GdpPacket := { packet with header := { packet.header with
      packetType := GdpType.fromWire packet.header.packetType.toWire } }
    (∃ entry, IsLongestMatch router.fib packet.header.destination entry ∧
      (∀ other, IsLongestMatch router.fib packet.header.destination other → other = entry) ∧
      (entry.egressPort = none ↔ entry.origin = .bootstrap ∨ entry.origin = .routerLocal) ∧
      router.process ingressPort packet = some (.ok (entry.disposition ingressPort received))) ∨
    (∀ entry ∈ router.fib, entry.gdpPrefix.contains packet.header.destination = false) ∧
      router.process ingressPort packet = some (.ok .drop)
  := by
  have hencode := GdpPacket.encode_of_global hform ⟨true⟩
  obtain ⟨destination, source, haddr⟩ : ∃ destination source,
      packet.header.addresses = .global destination source := by
    cases haddr : packet.header.addresses with
    | «global» destination source => exact ⟨destination, source, rfl⟩
    | «local» destination source p =>
      rw [haddr] at hform
      cases hform
  split
  · next hlen =>
    rw [if_pos hlen] at hencode
    rw [process_of_error hport hencode]
  next hlen =>
  rw [if_neg hlen] at hencode
  split
  · next hversion =>
    rw [if_pos hversion] at hencode
    rw [process_of_error hport hencode]
  next hversion =>
  rw [if_neg hversion] at hencode
  intro received
  have hreceived : packet.received 0#64 = received := by
    rw [GdpPacket.received, GdpHeader.received, haddr]
    simp only [received, ← haddr]
  obtain ⟨hpacket, -⟩ := GdpPacket.wire_received hencode 0#64
  rw [hreceived] at hpacket hencode
  have haddr' : received.header.addresses = .global destination source := haddr
  have hsame : router.process ingressPort packet = router.process ingressPort received := by
    rw [process_of_encode hport haddr hencode,
      process_of_encode hport haddr' (GdpPacket.encode_of_canonical hpacket _)]
  obtain ⟨-, st, hst, -, hfib⟩ := compiled_of_new h
  have hdestination : packet.header.destination = destination := by
    rw [GdpHeader.destination, haddr, GdpAddresses.effectiveDestination]
  rw [hsame, hdestination]
  by_cases hnone : ∀ entry ∈ router.fib, entry.gdpPrefix.contains destination = false
  · exact .inr ⟨hnone, process_of_forall hport hpacket haddr' h hnone⟩
  · obtain ⟨first, hfirst, hcontains⟩ : ∃ entry ∈ router.fib,
        entry.gdpPrefix.contains destination = true := by simpa using hnone
    obtain ⟨entry, hentry⟩ := IsLongestMatch.exists hfirst hcontains
    refine .inl ⟨entry, hentry, ?_, ?_, process_of_longest hport hpacket haddr' h hentry⟩
    · intro other hother
      rw [hfib] at hentry hother
      exact hst.longestMatch_unique hentry hother
    · exact hst.owned entry (hfib ▸ hentry.mem)

/-- A route of 33 bits is taken, and not the one of 32 bits that contains it. -/
theorem process_longestPrefixMatch_split :
  let ports : List RouterPortConfig :=
    [⟨0#16, ⟨0xfe80000000000001#64⟩, none, none⟩, ⟨1#16, ⟨0xfe80000000000002#64⟩, none, none⟩]
  let short : GdpPrefix := ⟨⟨0x5000000000000000#64⟩, 32#8, by decide, by decide⟩
  let long : GdpPrefix := ⟨⟨0x5000000000000000#64⟩, 33#8, by decide, by decide⟩
  let packet : GdpPacket :=
    { header := .global .gts .empty 10#8 ⟨0x8000000000000001#64⟩ ⟨0x5000000012345678#64⟩
      payload := [] }
  ∃ router, new ⟨ports, [.direct short 0#16, .direct long 1#16]⟩ = .ok router ∧
    router.process 0#16 packet = some (.ok (.forward 1#16 (packet.withHop 9#8)))
  := by
  intro ports short long packet
  refine ⟨_, rfl, ?_⟩
  have hmatch := @process_longestPrefixMatch ⟨ports, [.direct short 0#16, .direct long 1#16]⟩ _ rfl
    0#16 (by decide) packet rfl
  rw [if_neg (by decide), if_neg (by decide)] at hmatch
  obtain ⟨entry, -, hunique, -, hprocess⟩ | ⟨hnone, -⟩ := hmatch
  · have hentry := hunique ⟨long, some 1#16, .static⟩
      ⟨by decide +kernel, by decide +kernel, by decide +kernel⟩
    rw [hprocess, ← hentry]
    decide +kernel
  · have hlong := hnone ⟨long, some 1#16, .static⟩ (by decide +kernel)
    revert hlong
    decide +kernel

/-- The payload of the first packet is longer than its size class says, and it is refused; the type of the
second one has more than four bits, and another one is handed on. -/
theorem not_process_unchanged :
  let ports : List RouterPortConfig :=
    [⟨0#16, ⟨0xfe80000000000001#64⟩, none, none⟩, ⟨1#16, ⟨0xfe80000000000002#64⟩, none, none⟩]
  let net : GdpPrefix := ⟨⟨0x5000000000000000#64⟩, 32#8, by decide, by decide⟩
  let header (packetType : GdpType) : GdpHeader :=
    .global packetType .empty 10#8 ⟨0x8000000000000001#64⟩ ⟨0x5000000012345678#64⟩
  ∃ router, new ⟨ports, [.direct net 1#16]⟩ = .ok router ∧
    IsLongestMatch router.fib ⟨0x5000000012345678#64⟩ ⟨net, some 1#16, .static⟩ ∧
    router.process 0#16 ⟨header .gts, [1#8]⟩ = some (.error .invalidLength) ∧
    router.process 0#16 ⟨header (.reserved 0x11#8), []⟩
      = some (.ok (.forward 1#16 (GdpPacket.withHop ⟨header .gctl, []⟩ 9#8)))
  := by
  intro ports net header
  refine ⟨_, rfl, ⟨?_, ?_, ?_⟩, ?_, ?_⟩
  · decide +kernel
  · decide +kernel
  · decide +kernel
  · decide +kernel
  · decide +kernel

end StaticP4Router

end SmolGnet
