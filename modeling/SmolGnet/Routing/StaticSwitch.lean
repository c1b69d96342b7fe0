import SmolGnet.Library.Machine
import SmolGnet.Library.TreeMap
import SmolGnet.Routing.Process

/-!
# The static switch

A switch knows on which ports the nodes with certain addresses are.  It programs two tables with them:
one has whole addresses, and one has the last 16 bits of the addresses, for packets in the local
form.  Both are exact-match tables.  A third one leads from every other port to that of a router.

So a packet in the local form is looked up by its 16 bits alone, whatever its prefix is.  Two nodes
whose addresses end in the same 16 bits have the same key, and then packets for one of them arrive at
the other.  When no two nodes do, packets in the local form arrive where they should.
-/

namespace SmolGnet

open Octets P4 P4Gdp

abbrev SwitchPortId := U16

def switchPortCount : U16 := 8#16

def switchMaxPortCount : U16 := 16#16

/-- What a switch does with a packet. -/
inductive SwitchDisposition where
  | forward (egressPort : SwitchPortId) (packet : GdpPacket)
  | drop
  deriving DecidableEq

/-! ### The tables -/

/-- The tables of the pipeline. -/
inductive SwitchTable where
  | globalNodes
  | localNodes
  | defaultRouter
  deriving DecidableEq, Repr

/-- An entry of a table of the pipeline.  The action of all of them is `forward`. -/
structure SwitchTableEntry where
  table : SwitchTable
  key : Bytes
  params : Bytes
  deriving DecidableEq, Repr

/-- The last 16 bits of an address. -/
def GdpAddress.suffix (address : GdpAddress) : U16 :=
  address.value.setWidth 16

def programGlobalNode (address : GdpAddress) (port : SwitchPortId) : SwitchTableEntry :=
  let hi : U32 := (address.value >>> 32).setWidth 32
  let lo : U32 := address.value.setWidth 32
  { table := .globalNodes, key := toLeBytes hi ++ toLeBytes lo, params := toLeBytes port }

def programLocalNode (suffix : U16) (port : SwitchPortId) : SwitchTableEntry where
  table := .localNodes
  key := toLeBytes suffix
  params := toLeBytes port

def programDefaultRouter (ingressPort routerPort : SwitchPortId) : SwitchTableEntry where
  table := .defaultRouter
  key := toLeBytes ingressPort
  params := toLeBytes routerPort

namespace SwitchTableEntry

/-- The port that the action is given. -/
def port (entry : SwitchTableEntry) : U16 :=
  fromLeBytes 16 entry.params

/-- An entry of `global_nodes`. -/
def globalNode (entry : SwitchTableEntry) : (U32 × U32) × U16 :=
  ((fromLeBytes 32 (slice entry.key 0 4), fromLeBytes 32 (slice entry.key 4 4)), entry.port)

/-- An entry of `local_nodes` or of `default_router`, whose keys are of 16 bits. -/
def word (entry : SwitchTableEntry) : U16 × U16 :=
  (fromLeBytes 16 entry.key, entry.port)

end SwitchTableEntry

/-- The lookup of a key in a table, as the program is generated with it. -/
structure TableLookup where
  find : {K : Type} → [DecidableEq K] → List (K × U16) → K → Option U16

/-- An exact-match lookup finds an entry with the key if there is one. -/
structure TableLookup.Exact (lookup : TableLookup) : Prop where
  mem : ∀ {K : Type} [DecidableEq K] (entries : List (K × U16)) (key : K) (port : U16),
    lookup.find entries key = some port → (key, port) ∈ entries
  complete : ∀ {K : Type} [DecidableEq K] (entries : List (K × U16)) (key : K),
    lookup.find entries key = none → ∀ port, (key, port) ∉ entries

/-- The lookup that finds the first entry with the key. -/
def TableLookup.firstMatch : TableLookup where
  find entries key := (entries.find? (·.1 = key)).map (·.2)

theorem TableLookup.exact_firstMatch :
  firstMatch.Exact
  := by
  constructor
  · intro K _ entries key port hfind
    obtain ⟨⟨key', port'⟩, hentry, hport⟩ := Option.map_eq_some_iff.mp hfind
    have hkey : key' = key := by simpa using List.find?_some hentry
    rw [← hkey, ← hport]
    exact List.mem_of_find?_eq_some hentry
  · intro K _ entries key hfind port hmem
    have hnone := List.find?_eq_none.mp (Option.map_eq_none_iff.mp hfind) _ hmem
    simp at hnone

/-! ### The switch -/

structure StaticP4Switch where
  pipeline : List SwitchTableEntry
  portCount : U16
  nodes : BTreeMap GdpAddress SwitchPortId
  defaultRouterPort : Option SwitchPortId

def validateGlobalNode (address : GdpAddress) : Except Error Unit :=
  if (address.value >>> 48).setWidth 16 = 0xfe80#16 then .error .invalidField else .ok ()

namespace StaticP4Switch

/-- A switch with no nodes. -/
def withPortCount (portCount : U16) : Except Error StaticP4Switch :=
  if portCount = 0#16 ∨ switchMaxPortCount < portCount then .error .invalidField
  else .ok { pipeline := [], portCount, nodes := ∅, defaultRouterPort := none }

/-- A switch of the usual size. -/
def new : StaticP4Switch where
  pipeline := []
  portCount := switchPortCount
  nodes := ∅
  defaultRouterPort := none

theorem withPortCount_switchPortCount :
  withPortCount switchPortCount = .ok new
  := rfl

def validatePort (sw : StaticP4Switch) (port : SwitchPortId) : Except Error Unit :=
  if sw.portCount ≤ port then .error .invalidField else .ok ()

/-- The entries for the nodes. -/
def nodeEntries (sw : StaticP4Switch) : List SwitchTableEntry :=
  sw.nodes.toList.flatMap fun node =>
    [programGlobalNode node.1 node.2, programLocalNode node.1.suffix node.2]

/-- The entries for the router. -/
def routerEntries (sw : StaticP4Switch) : List SwitchTableEntry :=
  match sw.defaultRouterPort with
  | none => []
  | some routerPort =>
    ((List.range sw.portCount.toNat).map (BitVec.ofNat 16)).filterMap fun ingressPort =>
      if ingressPort ≠ routerPort then some (programDefaultRouter ingressPort routerPort) else none

def rebuildPipeline (sw : StaticP4Switch) : StaticP4Switch :=
  { sw with pipeline := sw.nodeEntries ++ sw.routerEntries }

def setDefaultRouterPort (sw : StaticP4Switch) (port : SwitchPortId) :
    Except Error (Option SwitchPortId × StaticP4Switch) := do
  sw.validatePort port
  return (sw.defaultRouterPort, rebuildPipeline { sw with defaultRouterPort := some port })

def clearDefaultRouterPort (sw : StaticP4Switch) : Option SwitchPortId × StaticP4Switch :=
  let previous := sw.defaultRouterPort
  let sw := { sw with defaultRouterPort := none }
  (previous, if previous.isSome then sw.rebuildPipeline else sw)

def registerNode (sw : StaticP4Switch) (address : GdpAddress) (port : SwitchPortId) :
    Except Error (Option SwitchPortId × StaticP4Switch) := do
  sw.validatePort port
  validateGlobalNode address
  return (sw.nodes[address]?, rebuildPipeline { sw with nodes := sw.nodes.insert address port })

def removeNode (sw : StaticP4Switch) (address : GdpAddress) :
    Option SwitchPortId × StaticP4Switch :=
  let previous := sw.nodes[address]?
  let sw := { sw with nodes := sw.nodes.erase address }
  (previous, if previous.isSome then sw.rebuildPipeline else sw)

/-! ### The control -/

/-- Action `drop`. -/
def drop (egress : EgressMetadata) : EgressMetadata :=
  { egress with drop := true, decided := true }

/-- Action `forward`. -/
def forward (egress : EgressMetadata) (port : U16) : EgressMetadata :=
  { egress with port, transit := false, decided := true }

section Control

variable (lookup : TableLookup) (pipeline : List SwitchTableEntry)

/-- The entries of one of the tables. -/
def entriesOf (table : SwitchTable) : List SwitchTableEntry :=
  pipeline.filter (·.table = table)

/-- Apply the table `global_nodes`, whose default action is `allow`. -/
def applyGlobalNodes (addr : GdpGlobalH) (egress : EgressMetadata) : EgressMetadata :=
  let entries := (entriesOf pipeline .globalNodes).map (·.globalNode)
  (lookup.find entries (addr.destinationHi, addr.destinationLo)).elim egress (forward egress)

/-- Apply the table `local_nodes`, whose default action is `drop`. -/
def applyLocalNodes (addr : GdpLocalH) (egress : EgressMetadata) : EgressMetadata :=
  let entries := (entriesOf pipeline .localNodes).map (·.word)
  (lookup.find entries addr.destination).elim (drop egress) (forward egress)

/-- Apply the table `default_router`, whose default action is `drop`. -/
def applyDefaultRouter (port : U16) (egress : EgressMetadata) : EgressMetadata :=
  let entries := (entriesOf pipeline .defaultRouter).map (·.word)
  (lookup.find entries port).elim (drop egress) (forward egress)

/-- Control `ingress`. -/
def ingress (port : U16) (hdr : HeadersT) : EgressMetadata :=
  let egress := { port := 0#16, drop := false, transit := false, decided := false }
  match hdr.globalAddr, hdr.localAddr with
  | some addr, _ =>
    let egress := applyGlobalNodes lookup pipeline addr egress
    if egress.decided = false then applyDefaultRouter lookup pipeline port egress else egress
  | none, some addr => applyLocalNodes lookup pipeline addr egress
  | none, none => { egress with drop := true, decided := true }

/-- The packets that the pipeline makes of a packet: the bytes of the headers and of what follows
them, and the port.  `none` is a panic of the parser. -/
def processPacket (port : U16) (bytes : Bytes) : Option (List (Bytes × Bytes × U16)) :=
  match parseStart.run (bitsOf bytes) with
  | .error .tooShort => none
  | .error .rejected => some []
  | .ok (hdr, payload) =>
    let egress := ingress lookup pipeline port hdr
    if egress.drop then some []
    else some [(bytesOf (headerBits hdr), bytesOf payload, egress.port)]

end Control

/-- Run a packet through the pipeline.  `none` is a panic. -/
def process (lookup : TableLookup) (sw : StaticP4Switch) (ingressPort : SwitchPortId)
    (packet : GdpPacket) : Option (Except Error SwitchDisposition) :=
  match sw.validatePort ingressPort with
  | .error err => some (.error err)
  | .ok () =>
    let localPrefix := match packet.header.addresses with
      | .global .. => 0#64
      | .local _ _ p => p
    match packet.encode ⟨true⟩ with
    | .error err => some (.error err)
    | .ok bytes =>
      (processPacket lookup sw.pipeline ingressPort bytes).map fun outputs =>
        match outputs with
        | [] => .ok .drop
        | [(headerData, payloadData, egressPort)] =>
          if sw.portCount ≤ egressPort ∨ egressPort = ingressPort then .ok .drop
          else do
            let packet ← GdpPacket.decode (headerData ++ payloadData) ⟨true⟩ localPrefix
            return .forward egressPort packet
        | _ => .error .invalidState

end StaticP4Switch

/-! ### Packets in the local form -/

/-- The headers that the parser finds in a packet in the local form. -/
def localHeaders (bytes : Bytes) : HeadersT where
  base := some (Header.read GdpBaseH (bitsOf bytes))
  globalAddr := none
  localAddr := some (Header.read GdpLocalH (bitsOf (bytes.drop 4)))

namespace GdpPacket

variable {packet : GdpPacket} {destination source : U16} {p : U64}
  (haddr : packet.header.addresses = .local destination source p)

include haddr

theorem length_wire_local (cfg : GdpWireConfig) :
  8 ≤ (packet.wire cfg).length
  := by
  rw [length_wire, GdpHeader.headerLen, haddr]
  dsimp only
  omega

/-- The parser reads the headers of a packet in the local form. -/
theorem parseStart_wire_local :
  parseStart.run (bitsOf (packet.wire ⟨true⟩))
    = .ok (localHeaders (packet.wire ⟨true⟩), bitsOf ((packet.wire ⟨true⟩).drop 8))
  := by
  have hform := (wordFields (packet.four_le_length_wire ⟨true⟩)).localForm
  rw [word_wire, GdpHeader.word1, GdpHeader.packWord_formBit, haddr] at hform
  exact parseStart_local (packet.length_wire_local haddr _) (of_decide_eq_true hform.symm)

/-- The destination that the parser finds in a packet in the local form. -/
theorem destination_wire_local (cfg : GdpWireConfig) :
  (Header.read GdpLocalH (bitsOf ((packet.wire cfg).drop 4))).destination = destination
  := by
  have hslice : slice (packet.wire cfg) 4 4 = toBeBytes (GdpHeader.idsWord destination source) := by
    rw [wire, GdpHeader.addressBytes, haddr]
    exact slice_append (length_toBeBytes _) (length_toBeBytes _) _
  rw [ids_local (packet.length_wire_local haddr cfg), hslice, fromBeBytes_toBeBytes (by rfl),
    GdpHeader.idsWord_destination]

/-- The headers of a packet in the local form are written as they were read. -/
theorem bytesOf_headerBits_local (cfg : GdpWireConfig) :
  bytesOf (headerBits (localHeaders (packet.wire cfg))) ++ (packet.wire cfg).drop 8
    = packet.wire cfg
  := by
  have hlen := packet.length_wire_local haddr cfg
  have hbase : Header.bits (Header.read GdpBaseH (bitsOf (packet.wire cfg)))
      = bitsOf ((packet.wire cfg).take 4) := by
    rw [Header.bits_read, show Header.size GdpBaseH = 8 * 4 from rfl, take_bitsOf]
    rw [length_bitsOf, show Header.size GdpBaseH = 8 * 4 from rfl]
    omega
  have hlocal : Header.bits (Header.read GdpLocalH (bitsOf ((packet.wire cfg).drop 4)))
      = bitsOf (((packet.wire cfg).drop 4).take 4) := by
    rw [Header.bits_read, show Header.size GdpLocalH = 8 * 4 from rfl, take_bitsOf]
    rw [length_bitsOf, show Header.size GdpLocalH = 8 * 4 from rfl, List.length_drop]
    omega
  rw [headerBits, localHeaders]
  simp only [Option.map_some, Option.getD_some, Option.map_none, Option.getD_none, List.append_nil]
  rw [hbase, hlocal, ← bitsOf_append, bytesOf_bitsOf, ← List.take_add, List.take_append_drop]

end GdpPacket

theorem GdpHeader.addresses_received {header : GdpHeader} {destination source : U16} {p : U64}
    (haddr : header.addresses = .local destination source p) (localPrefix : U64) :
  (header.received localPrefix).addresses
    = .local destination source (localPrefix &&& ~~~0xffff#64)
  := by rw [received, haddr]

namespace StaticP4Switch

variable {lookup : TableLookup} {sw : StaticP4Switch}

theorem validatePort_eq_ok {port : SwitchPortId} :
  sw.validatePort port = .ok () ↔ port < sw.portCount
  := by
  rw [validatePort]
  split
  · next hle => simp [BitVec.not_lt.mpr hle]
  · next hlt => simp [BitVec.not_le.mp hlt]

/-- The entries of `local_nodes`. -/
def localEntries (sw : StaticP4Switch) : List (U16 × U16) :=
  (entriesOf sw.pipeline .localNodes).map (·.word)

section Process

variable {ingressPort : SwitchPortId} {packet : GdpPacket} {destination source : U16} {p : U64}
  (haddr : packet.header.addresses = .local destination source p)

include haddr

/-- What the pipeline makes of a packet in the local form. -/
theorem processPacket_wire_local :
  processPacket lookup sw.pipeline ingressPort (packet.wire ⟨true⟩) =
    (lookup.find sw.localEntries destination).elim (some [])
      fun port => some [(bytesOf (headerBits (localHeaders (packet.wire ⟨true⟩))),
        (packet.wire ⟨true⟩).drop 8, port)]
  := by
  have hdestination := packet.destination_wire_local haddr ⟨true⟩
  rw [processPacket, packet.parseStart_wire_local haddr]
  dsimp only
  rw [bytesOf_bitsOf]
  have hingress : ingress lookup sw.pipeline ingressPort (localHeaders (packet.wire ⟨true⟩))
      = (lookup.find sw.localEntries destination).elim
        { port := 0#16, drop := true, transit := false, decided := true }
        (fun port => { port, drop := false, transit := false, decided := true }) := by
    rw [← hdestination]
    rfl
  rw [hingress]
  cases lookup.find sw.localEntries destination with
  | none => rfl
  | some port => rfl

/-- A packet in the local form leaves at the port that is found for the 16 bits of its destination. -/
theorem process_local (hport : ingressPort < sw.portCount) {bytes : Bytes}
    (hencode : packet.encode ⟨true⟩ = .ok bytes) :
  sw.process lookup ingressPort packet =
    some (.ok ((lookup.find sw.localEntries destination).elim .drop fun port =>
      if sw.portCount ≤ port ∨ port = ingressPort then .drop else .forward port (packet.received p)))
  := by
  obtain ⟨hcanonical, hbytes⟩ := GdpPacket.wire_received hencode p
  have hreceived := GdpHeader.addresses_received haddr p
  rw [process, validatePort_eq_ok.mpr hport, hencode, haddr]
  dsimp only
  rw [hbytes, processPacket_wire_local hreceived]
  cases lookup.find sw.localEntries destination with
  | none => rfl
  | some port =>
    rw [Option.elim_some, Option.elim_some, Option.map_some]
    dsimp only
    split
    · rfl
    · rw [GdpPacket.bytesOf_headerBits_local hreceived, GdpPacket.decode_wire hcanonical]
      rfl

end Process

/-! ### What is programmed -/

/-- The pipeline has the entries for the nodes and the router, and the nodes are on ports of the
switch. -/
structure Programmed (sw : StaticP4Switch) : Prop where
  pipeline : sw.pipeline = sw.nodeEntries ++ sw.routerEntries
  ports : ∀ (address : GdpAddress) port, sw.nodes[address]? = some port → port < sw.portCount

/-- The keys of the entries of `local_nodes`. -/
def localKeys (sw : StaticP4Switch) : List Bytes :=
  (entriesOf sw.pipeline .localNodes).map (·.key)

namespace Programmed

theorem entriesOf_localNodes (h : sw.Programmed) :
  entriesOf sw.pipeline .localNodes
    = sw.nodes.toList.map fun node => programLocalNode node.1.suffix node.2
  := by
  have hrouter : sw.routerEntries.filter (·.table = .localNodes) = [] := by
    rw [List.filter_eq_nil_iff]
    intro entry hentry
    rw [routerEntries] at hentry
    split at hentry
    · cases hentry
    · obtain ⟨port, -, hport⟩ := List.mem_filterMap.mp hentry
      split at hport
      · cases hport
        simp [programDefaultRouter]
      · cases hport
  rw [entriesOf, h.pipeline, List.filter_append, hrouter, List.append_nil, nodeEntries,
    List.filter_flatMap, List.map_eq_flatMap]
  rfl

theorem localEntries_eq (h : sw.Programmed) :
  sw.localEntries = sw.nodes.toList.map fun node => (node.1.suffix, node.2)
  := by
  rw [localEntries, h.entriesOf_localNodes, List.map_map]
  apply List.map_congr_left
  intro node _
  rw [Function.comp_apply, SwitchTableEntry.word, SwitchTableEntry.port, programLocalNode,
    fromLeBytes_toLeBytes (by rfl), fromLeBytes_toLeBytes (by rfl)]

theorem mem_localEntries (h : sw.Programmed) {suffix : U16} {port : SwitchPortId} :
  (suffix, port) ∈ sw.localEntries ↔
    ∃ address : GdpAddress, sw.nodes[address]? = some port ∧ address.suffix = suffix
  := by
  rw [h.localEntries_eq, List.mem_map]
  constructor
  · rintro ⟨⟨address, port'⟩, hnode, heq⟩
    cases heq
    exact ⟨address, Std.ExtTreeMap.mem_toList_iff_getElem?_eq_some.mp hnode, rfl⟩
  · rintro ⟨address, hnode, rfl⟩
    exact ⟨(address, port), Std.ExtTreeMap.mem_toList_iff_getElem?_eq_some.mpr hnode, rfl⟩

end Programmed

/-- No two nodes have addresses that end in the same 16 bits. -/
def DistinctSuffixes (sw : StaticP4Switch) : Prop :=
  ∀ address ∈ sw.nodes, ∀ other ∈ sw.nodes, address.suffix = other.suffix → address = other

theorem toLeBytes_inj {w : ℕ} (hw : 8 * (w / 8) = w) {v v' : BitVec w}
    (h : toLeBytes v = toLeBytes v') :
  v = v'
  := by rw [← fromLeBytes_toLeBytes hw v, h, fromLeBytes_toLeBytes hw]

/-- The table for packets in the local form is a function if and only if no two nodes have addresses
that end in the same 16 bits. -/
theorem Programmed.nodup_localKeys_iff (h : sw.Programmed) :
  sw.localKeys.Nodup ↔ sw.DistinctSuffixes
  := by
  have hkeys : sw.localKeys = sw.nodes.keys.map fun address => toLeBytes address.suffix := by
    rw [localKeys, h.entriesOf_localNodes, ← Std.ExtTreeMap.map_fst_toList_eq_keys, List.map_map,
      List.map_map]
    rfl
  rw [hkeys, List.nodup_map_iff_inj_on Std.ExtTreeMap.nodup_keys]
  simp only [Std.ExtTreeMap.mem_keys]
  constructor
  · intro hinj address haddress other hother hsuffix
    exact hinj address haddress other hother (congrArg toLeBytes hsuffix)
  · intro hdistinct address haddress other hother hkey
    exact hdistinct address haddress other hother (toLeBytes_inj (by rfl) hkey)

/-! ### Delivery -/

/-- Every packet in the local form for a node leaves at the port of the node, if that is not where it
comes from.  Ports that the switch does not have are refused, and so are packets that cannot be
encoded. -/
def ForwardsLocal (lookup : TableLookup) (sw : StaticP4Switch) : Prop :=
  ∀ (ingressPort : SwitchPortId) (packet : GdpPacket) (destination source : U16) (p : U64)
    (port : SwitchPortId), packet.header.addresses = .local destination source p →
    sw.nodes[packet.header.destination]? = some port → port ≠ ingressPort →
    sw.process lookup ingressPort packet = some (do
      sw.validatePort ingressPort
      let _ ← packet.encode ⟨true⟩
      return .forward port (packet.received p))

/-- The table for packets in the local form has at most one entry for each key, and these packets
arrive at the nodes they are for. -/
structure DeliversLocal (lookup : TableLookup) (sw : StaticP4Switch) : Prop where
  nodup : sw.localKeys.Nodup
  forwards : sw.ForwardsLocal lookup

theorem suffix_destination {packet : GdpPacket} {destination source : U16} {p : U64}
    (haddr : packet.header.addresses = .local destination source p) :
  packet.header.destination.suffix = destination
  := by
  rw [GdpHeader.destination, haddr, GdpAddresses.effectiveDestination, GdpAddress.suffix]
  ext i hi
  simp only [BitVec.getElem_setWidth, BitVec.getLsbD_or, BitVec.getLsbD_and, BitVec.getLsbD_not,
    BitVec.getLsbD_setWidth]
  interval_cases i <;> simp

namespace Programmed

/-- With different last bits the port of a node is found. -/
theorem find_localEntries (h : sw.Programmed) (hlookup : lookup.Exact)
    (hdistinct : sw.DistinctSuffixes) {address : GdpAddress} {port : SwitchPortId}
    (hnode : sw.nodes[address]? = some port) :
  lookup.find sw.localEntries address.suffix = some port
  := by
  have hmem := h.mem_localEntries.mpr ⟨address, hnode, rfl⟩
  cases hfind : lookup.find sw.localEntries address.suffix with
  | none => exact absurd hmem (hlookup.complete _ _ hfind port)
  | some port' =>
    obtain ⟨other, hother, hsuffix⟩ := h.mem_localEntries.mp (hlookup.mem _ _ _ hfind)
    have heq : other = address := hdistinct other (TreeMap.mem_of_getElem? hother) address
      (TreeMap.mem_of_getElem? hnode) hsuffix
    rw [← hother, heq, hnode]

/-- A switch delivers the packets in the local form if and only if no two nodes have addresses that
end in the same 16 bits. -/
theorem deliversLocal_iff (h : sw.Programmed) (hlookup : lookup.Exact) :
  sw.DeliversLocal lookup ↔ sw.DistinctSuffixes
  := by
  constructor
  · intro hdelivers
    exact h.nodup_localKeys_iff.mp hdelivers.nodup
  · intro hdistinct
    refine ⟨h.nodup_localKeys_iff.mpr hdistinct, ?_⟩
    intro ingressPort packet destination source p port haddr hnode hne
    by_cases hport : ingressPort < sw.portCount
    · have hfind := h.find_localEntries hlookup hdistinct hnode
      have hlt := h.ports _ _ hnode
      rw [suffix_destination haddr] at hfind
      rw [validatePort_eq_ok.mpr hport]
      cases hencode : packet.encode ⟨true⟩ with
      | error err =>
        rw [process, validatePort_eq_ok.mpr hport, hencode]
        rfl
      | ok bytes =>
        rw [process_local haddr hport hencode, hfind, Option.elim_some,
          if_neg (not_or.mpr ⟨BitVec.not_le.mpr hlt, hne⟩)]
        rfl
    · rw [process, validatePort, if_pos (BitVec.not_lt.mp hport)]
      rfl

end Programmed

/-- An address is made of a prefix and its last 16 bits. -/
theorem prefix_or_suffix (address : GdpAddress) :
  address.value &&& ~~~0xffff#64 ||| address.suffix.setWidth 64 = address.value
  := by
  rw [GdpAddress.suffix]
  ext i hi
  simp only [BitVec.getElem_or, BitVec.getElem_and, BitVec.getElem_not, BitVec.getElem_setWidth,
    BitVec.getLsbD_setWidth]
  interval_cases i <;> simp [← BitVec.getLsbD_eq_getElem]

/-- A packet in the local form for an address. -/
def localPacket (address : GdpAddress) : GdpPacket :=
  ⟨⟨0#8, .gts, .empty, 1#8, .local address.suffix 0#16 (address.value &&& ~~~0xffff#64)⟩, []⟩

theorem canonical_localPacket (address : GdpAddress) :
  (localPacket address).Canonical address.value
  := by
  refine ⟨⟨(show 0#8 ≤ 3#8 by decide), ⟨2#8, rfl⟩, ?_⟩, rfl⟩
  rintro _ _ _ ⟨⟩
  exact ⟨(show 1#8 ≤ 15#8 by decide), rfl⟩

theorem destination_localPacket (address : GdpAddress) :
  (localPacket address).header.destination = address
  := by
  have hvalue := prefix_or_suffix address
  rw [GdpHeader.destination, localPacket, GdpAddresses.effectiveDestination, BitVec.and_assoc,
    BitVec.and_self, hvalue]

/-- Of two nodes on different ports whose addresses end in the same 16 bits, packets in the local form
arrive at one at most, whatever is found in the tables. -/
theorem not_forwardsLocal {address other : GdpAddress} {port port' ingressPort : SwitchPortId}
    (haddress : sw.nodes[address]? = some port) (hother : sw.nodes[other]? = some port')
    (hsuffix : address.suffix = other.suffix) (hne : port ≠ port')
    (hingress : ingressPort < sw.portCount) (hport : port ≠ ingressPort)
    (hport' : port' ≠ ingressPort) :
  ¬ sw.ForwardsLocal lookup
  := by
  intro hforwards
  have hpacket : ∀ (address : GdpAddress) port, sw.nodes[address]? = some port →
      port ≠ ingressPort →
      ∃ r, (lookup.find sw.localEntries address.suffix).elim .drop (fun port =>
        if sw.portCount ≤ port ∨ port = ingressPort then .drop else .forward port r)
        = SwitchDisposition.forward port r := by
    intro address port hnode hport
    have hencode := GdpPacket.encode_of_canonical (canonical_localPacket address) ⟨true⟩
    have hforward := hforwards ingressPort (localPacket address) _ _ _ port rfl
      (by rw [destination_localPacket, hnode]) hport
    rw [process_local rfl hingress hencode, hencode, validatePort_eq_ok.mpr hingress] at hforward
    exact ⟨_, Except.ok.inj (Option.some.inj hforward)⟩
  obtain ⟨r, hr⟩ := hpacket address port haddress hport
  obtain ⟨r', hr'⟩ := hpacket other port' hother hport'
  rw [← hsuffix] at hr'
  cases hfind : lookup.find sw.localEntries address.suffix with
  | none =>
    rw [hfind] at hr
    cases hr
  | some egressPort =>
    rw [hfind, Option.elim_some] at hr hr'
    split at hr
    · cases hr
    · next hforward =>
      rw [if_neg hforward] at hr'
      injection hr with hegress
      injection hr' with hegress'
      exact hne (hegress.symm.trans hegress')

/-! ### Runs -/

/-- The calls that change what a switch knows. -/
inductive Call where
  | registerNode (address : GdpAddress) (port : SwitchPortId)
  | removeNode (address : GdpAddress)
  | setDefaultRouterPort (port : SwitchPortId)
  | clearDefaultRouterPort
  deriving DecidableEq

/-- The switch after a call; a call that is refused leaves it as it was. -/
def step (sw : StaticP4Switch) : Call → StaticP4Switch
  | .registerNode address port => (sw.registerNode address port).toOption.elim sw Prod.snd
  | .removeNode address => (sw.removeNode address).2
  | .setDefaultRouterPort port => (sw.setDefaultRouterPort port).toOption.elim sw Prod.snd
  | .clearDefaultRouterPort => sw.clearDefaultRouterPort.2

/-- No other node has an address that ends in the same 16 bits as one that is registered. -/
def KeepsDistinct (sw : StaticP4Switch) : Call → Prop
  | .registerNode address port =>
    sw.validatePort port = .ok () → validateGlobalNode address = .ok () →
      ∀ other ∈ sw.nodes, other.suffix = address.suffix → other = address
  | _ => True

instance decidableKeepsDistinct (sw : StaticP4Switch) :
    ∀ call, Decidable (sw.KeepsDistinct call)
  | .registerNode address port =>
    decidable_of_iff (sw.validatePort port = .ok () → validateGlobalNode address = .ok () →
      ∀ other ∈ sw.nodes.keys, other.suffix = address.suffix → other = address)
      (by simp only [KeepsDistinct, Std.ExtTreeMap.mem_keys])
  | .removeNode _ => isTrue trivial
  | .setDefaultRouterPort _ => isTrue trivial
  | .clearDefaultRouterPort => isTrue trivial

/-- What a call does. -/
theorem step_cases (sw : StaticP4Switch) (call : Call) :
  sw.step call = sw ∨
  (∃ router, sw.step call = rebuildPipeline { sw with defaultRouterPort := router }) ∨
  (∃ address, sw.step call = rebuildPipeline { sw with nodes := sw.nodes.erase address }) ∨
  ∃ address port, call = .registerNode address port ∧ sw.validatePort port = .ok () ∧
    validateGlobalNode address = .ok () ∧
    sw.step call = rebuildPipeline { sw with nodes := sw.nodes.insert address port }
  := by
  cases call with
  | registerNode address port =>
    cases hport : sw.validatePort port with
    | error err =>
      left
      rw [step, registerNode, hport]
      rfl
    | ok =>
      cases hglobal : validateGlobalNode address with
      | error err =>
        left
        rw [step, registerNode, hport, hglobal]
        rfl
      | ok =>
        right; right; right
        refine ⟨address, port, rfl, hport, hglobal, ?_⟩
        rw [step, registerNode, hport, hglobal]
        rfl
  | removeNode address =>
    rw [step, removeNode]
    dsimp only
    split
    · exact .inr (.inr (.inl ⟨address, rfl⟩))
    · next hnone =>
      left
      have habsent : address ∉ sw.nodes := by
        rw [Std.ExtTreeMap.mem_iff_isSome_getElem?]
        exact hnone
      rw [show sw.nodes.erase address = sw.nodes from TreeMap.erase_eq_self habsent]
  | setDefaultRouterPort port =>
    cases hport : sw.validatePort port with
    | error err =>
      left
      rw [step, setDefaultRouterPort, hport]
      rfl
    | ok =>
      right; left
      refine ⟨some port, ?_⟩
      rw [step, setDefaultRouterPort, hport]
      rfl
  | clearDefaultRouterPort =>
    rw [step, clearDefaultRouterPort]
    dsimp only
    split
    · exact .inr (.inl ⟨none, rfl⟩)
    · next hnone =>
      left
      rw [Option.not_isSome_iff_eq_none] at hnone
      rw [← hnone]

/-- A switch that is programmed anew has the entries for its nodes. -/
theorem Programmed.of_rebuild
    (hports : ∀ (address : GdpAddress) port, sw.nodes[address]? = some port → port < sw.portCount) :
  sw.rebuildPipeline.Programmed
  := ⟨rfl, hports⟩

theorem Programmed.of_withPortCount {portCount : U16} (h : withPortCount portCount = .ok sw) :
  sw.Programmed
  := by
  rw [withPortCount] at h
  split at h
  · cases h
  · cases h
    exact ⟨rfl, by simp⟩

/-- Every call keeps the tables up to date. -/
theorem Programmed.step (h : sw.Programmed) (call : Call) :
  (sw.step call).Programmed
  := by
  obtain hsame | ⟨router, hrouter⟩ | ⟨address, herase⟩ | ⟨address, port, -, hport, -, hinsert⟩ :=
    sw.step_cases call
  · rw [hsame]
    exact h
  · rw [hrouter]
    exact .of_rebuild h.ports
  · rw [herase]
    refine .of_rebuild ?_
    intro other port hother
    dsimp only at hother
    rw [TreeMap.getElem?_erase] at hother
    split at hother
    · cases hother
    · exact h.ports other port hother
  · rw [hinsert]
    refine .of_rebuild ?_
    intro other port' hother
    dsimp only at hother
    rw [TreeMap.getElem?_insert] at hother
    split at hother
    · cases hother
      exact validatePort_eq_ok.mp hport
    · exact h.ports other port' hother

/-- A call that meets the condition keeps the last bits of the addresses different. -/
theorem DistinctSuffixes.step {call : Call} (h : sw.DistinctSuffixes)
    (hcall : sw.KeepsDistinct call) :
  (sw.step call).DistinctSuffixes
  := by
  obtain hsame | ⟨router, hrouter⟩ | ⟨address, herase⟩ |
    ⟨address, port, rfl, hport, hglobal, hinsert⟩ := sw.step_cases call
  · rw [hsame]
    exact h
  · rw [hrouter]
    exact h
  · rw [herase]
    intro a ha b hb hsuffix
    exact h a (Std.ExtTreeMap.mem_of_mem_erase ha) b (Std.ExtTreeMap.mem_of_mem_erase hb) hsuffix
  · rw [hinsert]
    have hnew := hcall hport hglobal
    intro a ha b hb hsuffix
    have ha' : address = a ∨ a ∈ sw.nodes := by simpa [rebuildPipeline] using ha
    have hb' : address = b ∨ b ∈ sw.nodes := by simpa [rebuildPipeline] using hb
    obtain rfl | ha' := ha'
    · obtain rfl | hb' := hb'
      · rfl
      · exact (hnew b hb' hsuffix.symm).symm
    · obtain rfl | hb' := hb'
      · exact hnew a ha' hsuffix
      · exact h a ha' b hb' hsuffix

/-- A call that leaves the last bits of the addresses different meets the condition. -/
theorem keepsDistinct_of_step {call : Call} (h : (sw.step call).DistinctSuffixes) :
  sw.KeepsDistinct call
  := by
  cases call with
  | registerNode address port =>
    intro hport hglobal other hother hsuffix
    have hstep : (sw.step (.registerNode address port)).nodes = sw.nodes.insert address port := by
      rw [StaticP4Switch.step, registerNode, hport, hglobal]
      rfl
    apply h
    · rw [hstep]
      simp [hother]
    · rw [hstep]
      simp
    · exact hsuffix
  | removeNode address => trivial
  | setDefaultRouterPort port => trivial
  | clearDefaultRouterPort => trivial

/-- In every state that a switch comes to, packets in the local form are delivered, if and only if no
node is registered while another one has an address that ends in the same 16 bits. -/
theorem delivers_local_run (hlookup : lookup.Exact) {portCount : U16}
    (h : withPortCount portCount = .ok sw) (calls : List Call) :
  (∀ past, past <+: calls → (Machine.run step sw past).DeliversLocal lookup) ↔
    Machine.Along step KeepsDistinct sw calls
  := by
  have hnone : sw.DistinctSuffixes := by
    rw [withPortCount] at h
    split at h
    · cases h
    · cases h
      intro address haddress
      simp at haddress
  refine Machine.forall_isPrefix_iff (I := fun sw => sw.Programmed ∧ sw.DistinctSuffixes)
    ?_ ?_ ?_ ⟨.of_withPortCount h, hnone⟩
  · rintro sw ⟨hprogrammed, hdistinct⟩
    exact (hprogrammed.deliversLocal_iff hlookup).mpr hdistinct
  · rintro sw call ⟨hprogrammed, hdistinct⟩ hcall
    exact ⟨hprogrammed.step call, hdistinct.step hcall⟩
  · rintro sw call ⟨hprogrammed, -⟩ hdelivers
    exact keepsDistinct_of_step (((hprogrammed.step call).deliversLocal_iff hlookup).mp hdelivers)

theorem delivers_local_run_sample :
  let calls : List Call := [.registerNode ⟨0x1200000000000042#64⟩ 7#16, .setDefaultRouterPort 3#16,
    .registerNode ⟨0x1200000000000043#64⟩ 6#16, .removeNode ⟨0x1200000000000042#64⟩,
    .registerNode ⟨0x3400000000000042#64⟩ 5#16, .clearDefaultRouterPort]
  ∀ past, past <+: calls → (Machine.run step new past).DeliversLocal .firstMatch
  := by
  intro calls
  apply (delivers_local_run TableLookup.exact_firstMatch withPortCount_switchPortCount calls).mpr
  decide +kernel

/-- Two nodes whose addresses end in the same 16 bits have the same key, and packets in the local form
do not arrive at both of them, whatever is found in the tables. -/
theorem not_delivers_local_run :
  let sw := Machine.run step new
    [.registerNode ⟨0x0001000000000005#64⟩ 1#16, .registerNode ⟨0x0002000000000005#64⟩ 2#16]
  sw.localKeys = [[5#8, 0#8], [5#8, 0#8]] ∧ ∀ lookup : TableLookup, ¬ sw.ForwardsLocal lookup
  := by
  intro sw
  constructor
  · decide +kernel
  · intro lookup
    exact @not_forwardsLocal lookup sw ⟨0x0001000000000005#64⟩ ⟨0x0002000000000005#64⟩ 1#16 2#16 0#16
      (by decide +kernel) (by decide +kernel) (by decide) (by decide) (by decide +kernel) (by decide)
      (by decide)

end StaticP4Switch

end SmolGnet
