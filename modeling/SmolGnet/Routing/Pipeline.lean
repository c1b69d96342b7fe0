import SmolGnet.Wire.P4Gdp
import SmolGnet.Routing.Forwarding

/-!
# The forwarding pipeline

The program that a `StaticP4Router` runs for every packet: the header is parsed, the tables are
applied, the hop limit is decremented, and the packet is put together again.  Global destinations
are looked up in two tables, one for prefixes longer than 32 bits, whose key has the high half of the
destination exactly and a prefix of the low half, and one for the others, which is looked up when the
first does not decide.

Together the two tables are one table of prefixes: every packet is dealt with as the entry with the
longest prefix of the forwarding table says.
-/

namespace SmolGnet

open Octets P4 P4Gdp

/-! ### The tables -/

/-- What the actions of the tables do. -/
inductive PipelineAction where
  | allow
  | drop
  | punt (cpuPort : U16)
  | forward (port : U16)
  deriving DecidableEq

/-- The integer with the given bytes, the least significant first. -/
def fromLeBytes (w : ℕ) (bytes : Bytes) : BitVec w :=
  fromBeBytes w bytes.reverse

namespace RouterTableEntry

/-- The action with its parameter. -/
def pipelineAction (entry : RouterTableEntry) : PipelineAction :=
  match entry.action with
  | .punt => .punt (fromLeBytes 16 entry.params)
  | .forward => .forward (fromLeBytes 16 entry.params)

/-- An entry of `global_long_routes`. -/
def longRoute (entry : RouterTableEntry) : TableEntry (U32 × U32) PipelineAction where
  hits key := fromLeBytes 32 (slice entry.key 0 4) = key.1 &&
    lpmMatches (fromBeBytes 32 (slice entry.key 4 4)) (entry.key.getD 8 0#8).toNat key.2
  prefixLen := (entry.key.getD 8 0#8).toNat
  action := entry.pipelineAction

/-- An entry of `global_short_routes`. -/
def shortRoute (entry : RouterTableEntry) : TableEntry U32 PipelineAction where
  hits key := lpmMatches (fromBeBytes 32 (slice entry.key 0 4)) (entry.key.getD 4 0#8).toNat key
  prefixLen := (entry.key.getD 4 0#8).toNat
  action := entry.pipelineAction

/-- An entry of `local_routes`. -/
def localRoute (entry : RouterTableEntry) : TableEntry (U16 × U16) PipelineAction where
  hits key := fromLeBytes 16 (slice entry.key 0 2) = key.1 &&
    fromLeBytes 16 (slice entry.key 2 2) = key.2
  prefixLen := 0
  action := entry.pipelineAction

end RouterTableEntry

/-- The entries of one of the tables. -/
def entriesOf (pipeline : List RouterTableEntry) (table : RouterTable) : List RouterTableEntry :=
  pipeline.filter (·.table = table)

/-! ### The control -/

/-- The metadata that the control sets. -/
structure EgressMetadata where
  port : U16
  drop : Bool
  transit : Bool
  decided : Bool
  deriving DecidableEq

/-- Run an action. -/
def PipelineAction.run (egress : EgressMetadata) : PipelineAction → EgressMetadata
  | .allow => egress
  | .drop => { egress with drop := true, decided := true, transit := false }
  | .punt cpuPort => { egress with port := cpuPort, decided := true, transit := false }
  | .forward port => { egress with port, decided := true, transit := true }

/-- Apply the tables. -/
def applyTables (pipeline : List RouterTableEntry) (port : U16) (hdr : HeadersT) :
    EgressMetadata :=
  let egress := { port := 0#16, drop := false, transit := false, decided := false }
  match hdr.globalAddr with
  | some addr =>
    let long := applyTable ((entriesOf pipeline .globalLongRoutes).map (·.longRoute)) .allow
      (addr.destinationHi, addr.destinationLo)
    let egress := long.run egress
    if egress.decided = false then
      let short := applyTable ((entriesOf pipeline .globalShortRoutes).map (·.shortRoute)) .drop
        addr.destinationHi
      short.run egress
    else egress
  | none =>
    let action := applyTable ((entriesOf pipeline .localRoutes).map (·.localRoute)) .drop
      (port, (hdr.localAddr.getD default).destination)
    action.run egress

/-- Control `ingress`. -/
def ingress (pipeline : List RouterTableEntry) (port : U16) (hdr : HeadersT) :
    HeadersT × EgressMetadata :=
  let egress := applyTables pipeline port hdr
  let base := hdr.base.getD default
  if egress.transit then
    if base.hop = 0#8 then (hdr, { egress with drop := true })
    else if base.hop = 1#8 then (hdr, { egress with drop := true })
    else ({ hdr with base := hdr.base.map fun base => { base with hop := base.hop - 1#8 } }, egress)
  else (hdr, egress)

/-- The bits of the headers that are valid. -/
def headerBits (hdr : HeadersT) : List Bool :=
  (hdr.base.map Header.bits).getD [] ++ (hdr.globalAddr.map Header.bits).getD []
    ++ (hdr.localAddr.map Header.bits).getD []

/-- The packets that the pipeline makes of a packet: the bytes of the headers and of what follows
them, and the port.  `none` is a panic of the parser. -/
def processPacket (pipeline : List RouterTableEntry) (port : U16) (bytes : Bytes) :
    Option (List (Bytes × Bytes × U16)) :=
  match parseStart.run (bitsOf bytes) with
  | .error .tooShort => none
  | .error .rejected => some []
  | .ok (hdr, payload) =>
    let (hdr, egress) := ingress pipeline port hdr
    if egress.drop then some []
    else some [(bytesOf (headerBits hdr), bytesOf payload, egress.port)]

/-! ### The router -/

/-- What a router does with a packet. -/
inductive RouterDisposition where
  | forward (egressPort : RouterPortId) (packet : GdpPacket)
  | punt (ingressPort : RouterPortId) (packet : GdpPacket)
  | drop
  deriving DecidableEq

namespace StaticP4Router

/-- Run a packet through the pipeline.  `none` is a panic. -/
def process (router : StaticP4Router) (ingressPort : RouterPortId) (packet : GdpPacket) :
    Option (Except Error RouterDisposition) :=
  if routerPortCount ≤ ingressPort then some (.error .invalidField)
  else
    let localPrefix := match packet.header.addresses with
      | .global .. => 0#64
      | .local _ _ p => p
    match packet.encode ⟨true⟩ with
    | .error err => some (.error err)
    | .ok bytes =>
      (processPacket router.pipeline ingressPort bytes).map fun outputs =>
        match outputs with
        | [] => .ok .drop
        | [(headerData, payloadData, port)] => do
          let packet ← GdpPacket.decode (headerData ++ payloadData) ⟨true⟩ localPrefix
          if port = router.cpuPort then return .punt ingressPort packet
          else if routerPortCount ≤ port ∨ port = ingressPort then return .drop
          else return .forward port packet
        | _ => .error .invalidState

/-- A packet that cannot be encoded is refused. -/
theorem process_of_error {router : StaticP4Router} {ingressPort : RouterPortId}
    (hport : ingressPort < routerPortCount) {packet : GdpPacket} {err : Error}
    (herr : packet.encode ⟨true⟩ = .error err) :
  router.process ingressPort packet = some (.error err)
  := by rw [process, if_neg (BitVec.not_le.mpr hport), herr]

/-- What is done with a packet in the global form. -/
theorem process_of_encode {router : StaticP4Router} {ingressPort : RouterPortId}
    (hport : ingressPort < routerPortCount) {packet : GdpPacket} {destination source : GdpAddress}
    (haddr : packet.header.addresses = .global destination source) {bytes : Bytes}
    (hbytes : packet.encode ⟨true⟩ = .ok bytes) :
  router.process ingressPort packet =
    (processPacket router.pipeline ingressPort bytes).map fun outputs =>
      match outputs with
      | [] => .ok .drop
      | [(headerData, payloadData, port)] => do
        let packet ← GdpPacket.decode (headerData ++ payloadData) ⟨true⟩ 0#64
        if port = router.cpuPort then return .punt ingressPort packet
        else if routerPortCount ≤ port ∨ port = ingressPort then return .drop
        else return .forward port packet
      | _ => .error .invalidState
  := by
  rw [process, if_neg (BitVec.not_le.mpr hport), haddr, hbytes]

end StaticP4Router

/-! ### What is compiled -/

/-- Every step of a loop that succeeds keeps the property. -/
theorem foldlM_keeps {ε σ α : Type} {f : σ → α → Except ε σ} {P : σ → Prop} {l : List α} {s s' : σ}
    (hstep : ∀ s a s', a ∈ l → f s a = .ok s' → P s → P s') (h : l.foldlM f s = .ok s') (hs : P s) :
  P s'
  := by
  induction l generalizing s with
  | nil =>
    cases h
    exact hs
  | cons a l ih =>
    rw [List.foldlM_cons, bind_eq_ok] at h
    obtain ⟨s₁, ha, hl⟩ := h
    exact ih (fun s a s' ha => hstep s a s' (List.mem_cons_of_mem _ ha)) hl
      (hstep s a s₁ List.mem_cons_self ha hs)

/-- A loop that succeeds has succeeded at every element. -/
theorem foldlM_mem {ε σ α : Type} {f : σ → α → Except ε σ} {l : List α} {s s' : σ}
    (h : l.foldlM f s = .ok s') {a : α} (ha : a ∈ l) :
  ∃ s₁ s₂, f s₁ a = .ok s₂
  := by
  induction l generalizing s with
  | nil => cases ha
  | cons b l ih =>
    rw [List.foldlM_cons, bind_eq_ok] at h
    obtain ⟨s₁, hb, hl⟩ := h
    rcases List.mem_cons.mp ha with rfl | ha
    · exact ⟨s, s₁, hb⟩
    · exact ih hl ha

/-- The entry of the pipeline for an entry of the forwarding table. -/
def FibEntry.program (cpuPort : U16) (entry : FibEntry) : RouterTableEntry :=
  match entry.egressPort with
  | none => programGlobal entry.gdpPrefix .punt (toLeBytes cpuPort)
  | some port => programGlobal entry.gdpPrefix .forward (toLeBytes port)

/-- The pipeline has the entries of the forwarding table, whose prefixes are different, and which
forward to ports of the router or are addresses of the router. -/
structure Compiled (cpuPort : U16) (st : CompiledFib) : Prop where
  pipeline : st.pipeline.filter (·.table ≠ .localRoutes) = st.fib.map (FibEntry.program cpuPort)
  programmed : ∀ p, p ∈ st.programmedGlobal ↔ p ∈ st.fib.map FibEntry.gdpPrefix
  nodup : (st.fib.map FibEntry.gdpPrefix).Nodup
  owned : ∀ entry ∈ st.fib,
    entry.egressPort = none ↔ entry.origin = .bootstrap ∨ entry.origin = .routerLocal
  ports : ∀ entry ∈ st.fib, ∀ port, entry.egressPort = some port → port < routerPortCount

namespace Compiled

variable {cpuPort : U16} {st st' : CompiledFib}

theorem table_programGlobal (p : GdpPrefix) (action : RouterTableAction) (params : Bytes) :
  (programGlobal p action params).table ≠ .localRoutes
  := by
  rw [programGlobal]
  split
  · nofun
  · nofun

/-- An entry for a prefix that is new. -/
theorem append (h : Compiled cpuPort st) (entry : FibEntry)
    (hnew : entry.gdpPrefix ∉ st.programmedGlobal)
    (howned : entry.egressPort = none ↔ entry.origin = .bootstrap ∨ entry.origin = .routerLocal)
    (hport : ∀ port, entry.egressPort = some port → port < routerPortCount) :
  Compiled cpuPort
    { pipeline := st.pipeline ++ [entry.program cpuPort]
      fib := st.fib ++ [entry]
      programmedGlobal := st.programmedGlobal.insert entry.gdpPrefix }
  where
  pipeline := by
    have htable : (entry.program cpuPort).table ≠ .localRoutes := by
      rw [FibEntry.program]
      split
      · apply table_programGlobal
      · apply table_programGlobal
    rw [List.filter_append, h.pipeline, List.map_append]
    simp [htable]
  programmed p := by
    rw [BTreeSet.mem_insert, h.programmed, List.map_append, List.mem_append]
    simp
  nodup := by
    rw [h.programmed] at hnew
    rw [List.map_append, List.map_singleton]
    rw [List.nodup_append]
    refine ⟨h.nodup, List.pairwise_singleton _ _, ?_⟩
    rintro p hp _ hentry rfl
    rw [List.mem_singleton] at hentry
    subst hentry
    exact hnew hp
  owned := by
    rw [List.forall_mem_append, List.forall_mem_singleton]
    exact ⟨h.owned, howned⟩
  ports := by
    rw [List.forall_mem_append, List.forall_mem_singleton]
    exact ⟨h.ports, hport⟩

theorem programAddress (h : Compiled cpuPort st) {address : GdpAddress}
    (hprogram : CompiledFib.programAddress cpuPort st address = .ok st') :
  Compiled cpuPort st'
  := by
  rw [CompiledFib.programAddress] at hprogram
  split at hprogram
  · cases hprogram
  split at hprogram
  · cases hprogram
    exact h
  · next p _ hnew =>
    cases hprogram
    exact h.append { gdpPrefix := p, egressPort := none, origin := .routerLocal } hnew
      (by simp) (by simp)

theorem programPort (h : Compiled cpuPort st) {port : RouterPortConfig}
    (hprogram : CompiledFib.programPort cpuPort st port = .ok st') :
  Compiled cpuPort st'
  := by
  rw [CompiledFib.programPort, bind_eq_ok] at hprogram
  obtain ⟨st₁, hst₁, hprogram⟩ := hprogram
  cases hprogram
  have h₁ := foldlM_keeps (P := Compiled cpuPort)
    (fun _ _ _ _ hprogram h => h.programAddress hprogram) hst₁ h
  refine ⟨?_, h₁.programmed, h₁.nodup, h₁.owned, h₁.ports⟩
  rw [List.filter_append, h₁.pipeline, List.filter_eq_nil_iff.mpr, List.append_nil]
  intro entry hentry
  obtain ⟨address, -, rfl⟩ := List.mem_map.mp hentry
  simp [programLocalPunt]

theorem programForward (h : Compiled cpuPort st) {origin : FibOrigin}
    (horigin : origin = .connected ∨ origin = .static) {route : GdpPrefix × RouterPortId}
    (hport : route.2 < routerPortCount)
    (hprogram : CompiledFib.programForward origin st route = .ok st') :
  Compiled cpuPort st'
  := by
  obtain ⟨hnew, rfl⟩ := CompiledFib.programForward_eq_ok.mp hprogram
  refine h.append { gdpPrefix := route.1, egressPort := some route.2, origin } hnew ?_ ?_
  · rcases horigin with rfl | rfl
    · simp
    · simp
  · rintro _ ⟨⟩
    exact hport

/-- What a configuration is compiled to. -/
theorem of_compile {startup : RouterStartupConfig}
    (hports : ∀ route ∈ connectedRoutes startup.ports ++ configuredRoutes startup.routes,
      route.2 < routerPortCount)
    (h : compileStartupFib cpuPort startup = .ok st) :
  Compiled cpuPort st
  := by
  rw [List.forall_mem_append] at hports
  rw [compileStartupFib, GdpPrefix.new_host] at h
  dsimp only at h
  rw [bind_eq_ok] at h
  obtain ⟨st₁, hst₁, h⟩ := h
  rw [bind_eq_ok] at h
  obtain ⟨st₂, hst₂, hst₃⟩ := h
  have hempty : Compiled cpuPort
      { pipeline := [], fib := [], programmedGlobal := (∅ : BTreeSet GdpPrefix) } :=
    ⟨rfl, by simp, List.nodup_nil, by simp, by simp⟩
  have h₀ := hempty.append
    { gdpPrefix := .host routerBootstrapAddress, egressPort := none, origin := .bootstrap }
    (by simp) (by simp) (by simp)
  have h₁ := foldlM_keeps (P := Compiled cpuPort)
    (fun _ _ _ _ hprogram h => h.programPort hprogram) hst₁ h₀
  have h₂ := foldlM_keeps (P := Compiled cpuPort)
    (fun _ route _ hroute hprogram h =>
      h.programForward (.inl rfl) (hports.1 route hroute) hprogram) hst₂ h₁
  exact foldlM_keeps (P := Compiled cpuPort)
    (fun _ route _ hroute hprogram h =>
      h.programForward (.inr rfl) (hports.2 route hroute) hprogram) hst₃ h₂

end Compiled

/-- Every route of a configuration that is accepted leads to a port of the router. -/
theorem RouterStartupConfig.ports_lt {startup : RouterStartupConfig}
    (h : startup.validate = .ok ()) :
  ∀ route ∈ connectedRoutes startup.ports ++ configuredRoutes startup.routes,
    route.2 < routerPortCount
  := by
  obtain ⟨hlen, c, c', hports, hroutes⟩ := validate_eq_ok.mp h
  rw [List.forall_mem_append]
  constructor
  · intro route hroute
    obtain ⟨port, hport, hroute⟩ := List.mem_filterMap.mp hroute
    obtain ⟨p, -, rfl⟩ := Option.map_eq_some_iff.mp hroute
    obtain ⟨i, hi, rfl⟩ := List.mem_iff_getElem.mp hport
    have hmem : (startup.ports[i], i) ∈ startup.ports.zipIdx := by
      rw [List.mem_zipIdx_iff_getElem?, List.getElem?_eq_getElem hi]
    obtain ⟨c₁, c₂, hvalid⟩ := foldlM_mem hports hmem
    rw [validatePort] at hvalid
    dsimp only at hvalid
    split at hvalid
    · cases hvalid
    · next hid =>
      rw [not_not] at hid
      rw [BitVec.lt_def, hid, ← hlen]
      exact hi
  · intro route hroute
    obtain ⟨config, hconfig, rfl⟩ := List.mem_map.mp hroute
    obtain ⟨c₁, c₂, hvalid⟩ := foldlM_mem hroutes hconfig
    rw [validateRoute] at hvalid
    split at hvalid
    · cases hvalid
    · next hclaimed => exact BitVec.not_le.mp fun hle => hclaimed (.inl hle)

end SmolGnet
