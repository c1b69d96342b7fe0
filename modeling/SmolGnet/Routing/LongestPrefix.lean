import SmolGnet.Routing.Pipeline
import Mathlib.Data.List.Nodup

/-!
# The two tables are one

An address is in a prefix if the bits before the last ones agree.  An entry for a prefix longer than
32 bits, whose key has the high half of the prefix exactly and a prefix of the low half, is hit by the
addresses in the prefix, and so is an entry for a shorter prefix, whose key has a prefix of the high
half.  Every prefix of the first table is longer than those of the second one: the first table decides
if and only if one of its prefixes contains the destination, and then that of the longest.

So the tables give the action of the entry of the forwarding table with the longest prefix.
-/

namespace SmolGnet

open Octets P4 P4Gdp

/-! ### Addresses in prefixes -/

namespace GdpPrefix

/-- The number of bits after the prefix. -/
def rest (p : GdpPrefix) : ℕ :=
  64 - p.prefixLen.toNat

theorem prefixLen_toNat_le (p : GdpPrefix) :
  p.prefixLen.toNat ≤ 64
  := p.prefixLen_le

/-- The bits that do not belong to the prefix are cleared. -/
theorem toNat_and_prefixMask (p : GdpPrefix) (v : U64) :
  (v &&& prefixMask p.prefixLen).toNat = v.toNat / 2 ^ p.rest * 2 ^ p.rest
  := by
  have hle := p.prefixLen_toNat_le
  have hshift : (64#8 - p.prefixLen).toNat = p.rest := by
    rw [rest, BitVec.toNat_sub_of_le p.prefixLen_le]
    rfl
  have hmask : v &&& prefixMask p.prefixLen = v >>> p.rest <<< p.rest := by
    rw [prefixMask, hshift]
    split
    · next h =>
      have hrest : p.rest = 64 := by
        rw [rest, h]
        rfl
      ext i hi
      simp [hrest]
    · ext i hi
      simp only [BitVec.getElem_and, BitVec.getElem_shiftLeft, BitVec.getElem_allOnes,
        BitVec.getElem_ushiftRight]
      by_cases h : i < p.rest
      · simp [h]
      · have hsum : p.rest + (i - p.rest) = i := by omega
        simp [h, hsum, BitVec.getLsbD_eq_getElem hi]
  have hdiv := Nat.div_mul_le_self v.toNat (2 ^ p.rest)
  rw [hmask, BitVec.toNat_shiftLeft, BitVec.toNat_ushiftRight, Nat.shiftRight_eq_div_pow,
    Nat.shiftLeft_eq, Nat.mod_eq_of_lt (Nat.lt_of_le_of_lt hdiv v.isLt)]

/-- The addresses in a prefix agree with it up to the last bits. -/
theorem contains_iff {p : GdpPrefix} {address : GdpAddress} :
  p.contains address = true ↔
    address.value.toNat / 2 ^ p.rest = p.network.value.toNat / 2 ^ p.rest
  := by
  have hpos : 0 < 2 ^ p.rest := Nat.two_pow_pos _
  have hcanonical := congrArg BitVec.toNat p.canonical
  rw [toNat_and_prefixMask] at hcanonical
  rw [contains, decide_eq_true_iff, ← BitVec.toNat_inj, toNat_and_prefixMask]
  constructor
  · intro h
    rw [← h, Nat.mul_div_cancel _ hpos]
  · intro h
    rw [h, hcanonical]

end GdpPrefix

/-- Two numbers agree up to `k` of the last `m` digits if and only if they agree before the last `m`
digits, and the last `m` digits agree up to `k` of them. -/
theorem div_two_pow_eq_iff {a b k m : ℕ} (hk : k ≤ m) :
  a / 2 ^ k = b / 2 ^ k ↔
    a / 2 ^ m = b / 2 ^ m ∧ a % 2 ^ m / 2 ^ k = b % 2 ^ m / 2 ^ k
  := by
  have hpow : 2 ^ m = 2 ^ k * 2 ^ (m - k) := by rw [← Nat.pow_add, Nat.add_sub_cancel' hk]
  rw [hpow, ← Nat.div_div_eq_div_mul, ← Nat.div_div_eq_div_mul, Nat.mod_mul_right_div_self,
    Nat.mod_mul_right_div_self]
  constructor
  · intro h
    rw [h]
    exact ⟨rfl, rfl⟩
  · rintro ⟨hdiv, hmod⟩
    rw [← Nat.div_add_mod (a / 2 ^ k) (2 ^ (m - k)), hdiv, hmod, Nat.div_add_mod]

/-! ### The keys of the tables -/

theorem fromLeBytes_toLeBytes {w : ℕ} (hw : 8 * (w / 8) = w) (v : BitVec w) :
  fromLeBytes w (toLeBytes v) = v
  := by rw [fromLeBytes, toLeBytes, List.reverse_reverse, fromBeBytes_toBeBytes hw]

@[simp]
theorem length_toLeBytes {w : ℕ} (v : BitVec w) :
  (toLeBytes v).length = w / 8
  := by rw [toLeBytes, List.length_reverse, length_toBeBytes]

/-- The high half of an address. -/
def GdpAddress.hi (address : GdpAddress) : U32 :=
  (address.value >>> 32).setWidth 32

/-- The low half of an address. -/
def GdpAddress.lo (address : GdpAddress) : U32 :=
  address.value.setWidth 32

theorem GdpAddress.toNat_hi (address : GdpAddress) :
  address.hi.toNat = address.value.toNat / 2 ^ 32
  := by
  have hlt := address.value.isLt
  rw [hi, BitVec.toNat_setWidth, BitVec.toNat_ushiftRight, Nat.shiftRight_eq_div_pow]
  omega

theorem GdpAddress.toNat_lo (address : GdpAddress) :
  address.lo.toNat = address.value.toNat % 2 ^ 32
  := BitVec.toNat_setWidth _ _

section Keys

variable {p : GdpPrefix} {action : RouterTableAction} {params : Bytes} {destination : GdpAddress}

/-- An entry of the first table is hit by the addresses in its prefix. -/
theorem longRoute_programGlobal (hlen : 32#8 < p.prefixLen) :
  (programGlobal p action params).longRoute.hits (destination.hi, destination.lo)
      = p.contains destination ∧
    (programGlobal p action params).longRoute.prefixLen = p.prefixLen.toNat - 32
  := by
  have hle := p.prefixLen_toNat_le
  have hlen' : 32 < p.prefixLen.toNat := hlen
  have hsub : (p.prefixLen - 32#8).toNat = p.prefixLen.toNat - 32 := by
    rw [BitVec.toNat_sub_of_le (BitVec.le_of_lt hlen)]
    rfl
  have hrest : 32 - (p.prefixLen.toNat - 32) = p.rest := by
    rw [GdpPrefix.rest]
    omega
  have hprogram : programGlobal p action params =
      { table := .globalLongRoutes
        action
        key := toLeBytes p.network.hi ++ toBeBytes p.network.lo ++ [p.prefixLen - 32#8]
        params } := if_pos hlen
  rw [hprogram]
  have hhi : slice (toLeBytes p.network.hi ++ toBeBytes p.network.lo ++ [p.prefixLen - 32#8]) 0 4
      = toLeBytes p.network.hi := by
    rw [List.append_assoc]
    exact slice_zero_append (length_toLeBytes _) _
  have hlo : slice (toLeBytes p.network.hi ++ toBeBytes p.network.lo ++ [p.prefixLen - 32#8]) 4 4
      = toBeBytes p.network.lo := by
    rw [List.append_assoc]
    exact slice_append (length_toLeBytes _) (length_toBeBytes _) _
  have hlast : (toLeBytes p.network.hi ++ toBeBytes p.network.lo ++ [p.prefixLen - 32#8]).getD 8 0#8
      = p.prefixLen - 32#8 := by
    simp
  constructor
  · rw [RouterTableEntry.longRoute]
    dsimp only
    rw [hhi, hlo, hlast, fromLeBytes_toLeBytes (by rfl), fromBeBytes_toBeBytes (by rfl), hsub,
      Bool.eq_iff_iff, Bool.and_eq_true, decide_eq_true_iff, lpmMatches_iff, hrest,
      GdpPrefix.contains_iff, div_two_pow_eq_iff (a := destination.value.toNat) (m := 32) (by omega),
      ← BitVec.toNat_inj, GdpAddress.toNat_hi, GdpAddress.toNat_hi, GdpAddress.toNat_lo, GdpAddress.toNat_lo]
    exact and_congr_left fun _ => eq_comm
  · rw [RouterTableEntry.longRoute]
    dsimp only
    rw [hlast, hsub]

/-- An entry of the second table is hit by the addresses in its prefix. -/
theorem shortRoute_programGlobal (hlen : ¬ 32#8 < p.prefixLen) :
  (programGlobal p action params).shortRoute.hits destination.hi = p.contains destination ∧
    (programGlobal p action params).shortRoute.prefixLen = p.prefixLen.toNat
  := by
  have hlen' : ¬ 32 < p.prefixLen.toNat := hlen
  have hrest : 2 ^ 32 * 2 ^ (32 - p.prefixLen.toNat) = 2 ^ p.rest := by
    rw [GdpPrefix.rest, ← Nat.pow_add]
    congr 1
    omega
  have hprogram : programGlobal p action params =
      { table := .globalShortRoutes
        action
        key := toBeBytes p.network.hi ++ [p.prefixLen]
        params } := if_neg hlen
  rw [hprogram]
  have hhi : slice (toBeBytes p.network.hi ++ [p.prefixLen]) 0 4 = toBeBytes p.network.hi :=
    slice_zero_append (length_toBeBytes _) _
  have hlast : (toBeBytes p.network.hi ++ [p.prefixLen]).getD 4 0#8 = p.prefixLen := by
    simp
  constructor
  · rw [RouterTableEntry.shortRoute]
    dsimp only
    rw [hhi, hlast, fromBeBytes_toBeBytes (by rfl), Bool.eq_iff_iff, lpmMatches_iff,
      GdpPrefix.contains_iff, GdpAddress.toNat_hi, GdpAddress.toNat_hi, Nat.div_div_eq_div_mul,
      Nat.div_div_eq_div_mul, hrest]
  · rw [RouterTableEntry.shortRoute]
    dsimp only
    rw [hlast]

end Keys

/-! ### The entry with the longest prefix -/

/-- The action for an entry. -/
def FibEntry.pipelineAction (cpuPort : U16) (entry : FibEntry) : PipelineAction :=
  match entry.egressPort with
  | none => .punt cpuPort
  | some port => .forward port

theorem pipelineAction_program (cpuPort : U16) (entry : FibEntry) :
  (entry.program cpuPort).pipelineAction = entry.pipelineAction cpuPort
  := by
  have hparams : ∀ p action params, (programGlobal p action params).action = action ∧
      (programGlobal p action params).params = params := by
    intro p action params
    rw [programGlobal]
    split
    · exact ⟨rfl, rfl⟩
    · exact ⟨rfl, rfl⟩
  rw [FibEntry.program, FibEntry.pipelineAction]
  cases entry.egressPort with
  | none =>
    dsimp only
    rw [RouterTableEntry.pipelineAction, (hparams _ _ _).1, (hparams _ _ _).2,
      fromLeBytes_toLeBytes (by rfl)]
  | some port =>
    dsimp only
    rw [RouterTableEntry.pipelineAction, (hparams _ _ _).1, (hparams _ _ _).2,
      fromLeBytes_toLeBytes (by rfl)]

section Program

variable (cpuPort : U16) (entry : FibEntry)

theorem program_eq_programGlobal :
  ∃ action params, entry.program cpuPort = programGlobal entry.gdpPrefix action params
  := by
  rw [FibEntry.program]
  split
  · exact ⟨_, _, rfl⟩
  · exact ⟨_, _, rfl⟩

/-- The table of an entry. -/
theorem table_program :
  (entry.program cpuPort).table =
    if 32#8 < entry.gdpPrefix.prefixLen then .globalLongRoutes else .globalShortRoutes
  := by
  obtain ⟨action, params, hprogram⟩ := program_eq_programGlobal cpuPort entry
  rw [hprogram, programGlobal]
  split
  · rfl
  · rfl

variable {entry}

theorem longRoute_program (hlen : 32#8 < entry.gdpPrefix.prefixLen) (destination : GdpAddress) :
  (entry.program cpuPort).longRoute.hits (destination.hi, destination.lo)
      = entry.gdpPrefix.contains destination ∧
    (entry.program cpuPort).longRoute.prefixLen = entry.gdpPrefix.prefixLen.toNat - 32
  := by
  obtain ⟨action, params, hprogram⟩ := program_eq_programGlobal cpuPort entry
  rw [hprogram]
  exact longRoute_programGlobal hlen

theorem shortRoute_program (hlen : ¬ 32#8 < entry.gdpPrefix.prefixLen) (destination : GdpAddress) :
  (entry.program cpuPort).shortRoute.hits destination.hi
      = entry.gdpPrefix.contains destination ∧
    (entry.program cpuPort).shortRoute.prefixLen = entry.gdpPrefix.prefixLen.toNat
  := by
  obtain ⟨action, params, hprogram⟩ := program_eq_programGlobal cpuPort entry
  rw [hprogram]
  exact shortRoute_programGlobal hlen

end Program

/-- The entry has the longest prefix of the table that contains the destination. -/
structure IsLongestMatch (fib : List FibEntry) (destination : GdpAddress) (entry : FibEntry) :
    Prop where
  mem : entry ∈ fib
  contains : entry.gdpPrefix.contains destination = true
  longest : ∀ other ∈ fib, other.gdpPrefix.contains destination = true →
    other.gdpPrefix.prefixLen ≤ entry.gdpPrefix.prefixLen

/-- If any entry contains the destination, one of them has the longest prefix. -/
theorem IsLongestMatch.exists {fib : List FibEntry} {destination : GdpAddress} {entry : FibEntry}
    (hmem : entry ∈ fib) (hcontains : entry.gdpPrefix.contains destination = true) :
  ∃ entry, IsLongestMatch fib destination entry
  := by
  have hentry : entry ∈ fib.filter (·.gdpPrefix.contains destination) :=
    List.mem_filter.mpr ⟨hmem, hcontains⟩
  cases h : (fib.filter (·.gdpPrefix.contains destination)).argmax (·.gdpPrefix.prefixLen.toNat) with
  | none =>
    rw [List.argmax_eq_none] at h
    rw [h] at hentry
    cases hentry
  | some longest =>
    obtain ⟨hlongest, hcontains⟩ := List.mem_filter.mp (List.argmax_mem h)
    refine ⟨longest, hlongest, hcontains, ?_⟩
    intro other hother hcontains'
    exact List.le_of_mem_argmax (List.mem_filter.mpr ⟨hother, hcontains'⟩) h

namespace Compiled

variable {cpuPort : U16} {st : CompiledFib} {destination : GdpAddress} {entry : FibEntry}

/-- Two entries of one length that contain the same address are the same. -/
theorem eq_of_contains (h : Compiled cpuPort st) {other : FibEntry} (hentry : entry ∈ st.fib)
    (hother : other ∈ st.fib) (hcontains : entry.gdpPrefix.contains destination = true)
    (hcontains' : other.gdpPrefix.contains destination = true)
    (hlen : other.gdpPrefix.prefixLen = entry.gdpPrefix.prefixLen) :
  other = entry
  := by
  apply List.inj_on_of_nodup_map h.nodup hother hentry
  exact GdpPrefix.eq_of_contains hcontains' hcontains hlen

/-- There is only one longest prefix. -/
theorem longestMatch_unique (h : Compiled cpuPort st) {other : FibEntry}
    (hentry : IsLongestMatch st.fib destination entry)
    (hother : IsLongestMatch st.fib destination other) :
  other = entry
  := by
  apply h.eq_of_contains hentry.mem hother.mem hentry.contains hother.contains
  exact BitVec.le_antisymm (hentry.longest _ hother.mem hother.contains)
    (hother.longest _ hentry.mem hentry.contains)

/-- The entries of the tables for global destinations. -/
theorem mem_entriesOf (h : Compiled cpuPort st) {table : RouterTable} (htable : table ≠ .localRoutes)
    {x : RouterTableEntry} :
  x ∈ entriesOf st.pipeline table ↔
    ∃ entry ∈ st.fib, (entry.program cpuPort).table = table ∧ entry.program cpuPort = x
  := by
  have hmem : x ∈ entriesOf st.pipeline table ↔
      x ∈ st.pipeline.filter (·.table ≠ .localRoutes) ∧ x.table = table := by
    rw [entriesOf, List.mem_filter, List.mem_filter, decide_eq_true_iff, decide_eq_true_iff]
    constructor
    · rintro ⟨hx, hxt⟩
      exact ⟨⟨hx, hxt ▸ htable⟩, hxt⟩
    · rintro ⟨⟨hx, -⟩, hxt⟩
      exact ⟨hx, hxt⟩
  rw [hmem, h.pipeline, List.mem_map]
  constructor
  · rintro ⟨⟨entry, hentry, rfl⟩, hxt⟩
    exact ⟨entry, hentry, hxt, rfl⟩
  · rintro ⟨entry, hentry, hxt, rfl⟩
    exact ⟨⟨entry, hentry, rfl⟩, hxt⟩

theorem mem_longRoutes (h : Compiled cpuPort st) {x : TableEntry (U32 × U32) PipelineAction} :
  x ∈ (entriesOf st.pipeline .globalLongRoutes).map (·.longRoute) ↔
    ∃ entry ∈ st.fib, 32#8 < entry.gdpPrefix.prefixLen ∧ (entry.program cpuPort).longRoute = x
  := by
  simp only [List.mem_map, h.mem_entriesOf (show RouterTable.globalLongRoutes ≠ _ by nofun), table_program]
  constructor
  · rintro ⟨_, ⟨entry, hentry, htable, rfl⟩, rfl⟩
    refine ⟨entry, hentry, ?_, rfl⟩
    by_contra hlen
    rw [if_neg hlen] at htable
    cases htable
  · rintro ⟨entry, hentry, hlen, rfl⟩
    exact ⟨_, ⟨entry, hentry, if_pos hlen, rfl⟩, rfl⟩

theorem mem_shortRoutes (h : Compiled cpuPort st) {x : TableEntry U32 PipelineAction} :
  x ∈ (entriesOf st.pipeline .globalShortRoutes).map (·.shortRoute) ↔
    ∃ entry ∈ st.fib, ¬ 32#8 < entry.gdpPrefix.prefixLen ∧ (entry.program cpuPort).shortRoute = x
  := by
  simp only [List.mem_map, h.mem_entriesOf (show RouterTable.globalShortRoutes ≠ _ by nofun), table_program]
  constructor
  · rintro ⟨_, ⟨entry, hentry, htable, rfl⟩, rfl⟩
    refine ⟨entry, hentry, ?_, rfl⟩
    intro hlen
    rw [if_pos hlen] at htable
    cases htable
  · rintro ⟨entry, hentry, hlen, rfl⟩
    exact ⟨_, ⟨entry, hentry, if_neg hlen, rfl⟩, rfl⟩

/-- No entry of the first table is hit unless a prefix of more than 32 bits contains the
destination. -/
theorem applyTable_long_of_forall (h : Compiled cpuPort st)
    (hnone : ∀ entry ∈ st.fib, entry.gdpPrefix.contains destination = true →
      ¬ 32#8 < entry.gdpPrefix.prefixLen) :
  applyTable ((entriesOf st.pipeline .globalLongRoutes).map (·.longRoute)) .allow
      (destination.hi, destination.lo)
    = .allow
  := by
  apply applyTable_of_forall
  intro x hx
  obtain ⟨entry, hentry, hlen, rfl⟩ := h.mem_longRoutes.mp hx
  rw [(longRoute_program cpuPort hlen destination).1]
  exact Bool.eq_false_iff.mpr fun hcontains => hnone entry hentry hcontains hlen

/-- The first table gives the action of the longest prefix, if that has more than 32 bits. -/
theorem applyTable_long (h : Compiled cpuPort st)
    (hlongest : IsLongestMatch st.fib destination entry) (hlen : 32#8 < entry.gdpPrefix.prefixLen) :
  applyTable ((entriesOf st.pipeline .globalLongRoutes).map (·.longRoute)) .allow
      (destination.hi, destination.lo)
    = entry.pipelineAction cpuPort
  := by
  obtain ⟨hhits, hprefixLen⟩ := longRoute_program cpuPort hlen destination
  rw [← pipelineAction_program]
  change _ = (entry.program cpuPort).longRoute.action
  apply applyTable_of_longest
  · exact h.mem_longRoutes.mpr ⟨entry, hlongest.mem, hlen, rfl⟩
  · rw [hhits, hlongest.contains]
  · intro x hx hhits'
    obtain ⟨other, hother, hlen', rfl⟩ := h.mem_longRoutes.mp hx
    rw [(longRoute_program cpuPort hlen' destination).1] at hhits'
    rw [(longRoute_program cpuPort hlen' destination).2, hprefixLen]
    exact Nat.sub_le_sub_right (hlongest.longest other hother hhits') 32
  · intro x hx hhits' hprefixLen'
    obtain ⟨other, hother, hlen', rfl⟩ := h.mem_longRoutes.mp hx
    rw [(longRoute_program cpuPort hlen' destination).1] at hhits'
    rw [(longRoute_program cpuPort hlen' destination).2, hprefixLen] at hprefixLen'
    have hlt : 32 < entry.gdpPrefix.prefixLen.toNat := hlen
    have hlt' : 32 < other.gdpPrefix.prefixLen.toNat := hlen'
    have heq : other = entry := by
      apply h.eq_of_contains hlongest.mem hother hlongest.contains hhits'
      apply BitVec.eq_of_toNat_eq
      omega
    rw [heq]

/-- The second table gives the action of the longest prefix otherwise. -/
theorem applyTable_short (h : Compiled cpuPort st)
    (hlongest : IsLongestMatch st.fib destination entry) (hlen : ¬ 32#8 < entry.gdpPrefix.prefixLen) :
  applyTable ((entriesOf st.pipeline .globalShortRoutes).map (·.shortRoute)) .drop destination.hi
    = entry.pipelineAction cpuPort
  := by
  obtain ⟨hhits, hprefixLen⟩ := shortRoute_program cpuPort hlen destination
  rw [← pipelineAction_program]
  change _ = (entry.program cpuPort).shortRoute.action
  apply applyTable_of_longest
  · exact h.mem_shortRoutes.mpr ⟨entry, hlongest.mem, hlen, rfl⟩
  · rw [hhits, hlongest.contains]
  · intro x hx hhits'
    obtain ⟨other, hother, hlen', rfl⟩ := h.mem_shortRoutes.mp hx
    rw [(shortRoute_program cpuPort hlen' destination).1] at hhits'
    rw [(shortRoute_program cpuPort hlen' destination).2, hprefixLen]
    exact hlongest.longest other hother hhits'
  · intro x hx hhits' hprefixLen'
    obtain ⟨other, hother, hlen', rfl⟩ := h.mem_shortRoutes.mp hx
    rw [(shortRoute_program cpuPort hlen' destination).1] at hhits'
    rw [(shortRoute_program cpuPort hlen' destination).2, hprefixLen] at hprefixLen'
    have heq : other = entry :=
      h.eq_of_contains hlongest.mem hother hlongest.contains hhits'
        (BitVec.eq_of_toNat_eq hprefixLen')
    rw [heq]

/-- The second table drops packets to an address that is in no prefix. -/
theorem applyTable_short_of_forall (h : Compiled cpuPort st)
    (hnone : ∀ entry ∈ st.fib, entry.gdpPrefix.contains destination = false) :
  applyTable ((entriesOf st.pipeline .globalShortRoutes).map (·.shortRoute)) .drop destination.hi
    = .drop
  := by
  apply applyTable_of_forall
  intro x hx
  obtain ⟨entry, hentry, hlen, rfl⟩ := h.mem_shortRoutes.mp hx
  rw [(shortRoute_program cpuPort hlen destination).1]
  exact hnone entry hentry

section Tables

variable {hdr : HeadersT} {addr : GdpGlobalH} (hglobal : hdr.globalAddr = some addr)
  (hhi : addr.destinationHi = destination.hi) (hlo : addr.destinationLo = destination.lo) (port : U16)

include hglobal hhi hlo

/-- The tables together give the action of the longest prefix. -/
theorem applyTables_of_longest (h : Compiled cpuPort st)
    (hlongest : IsLongestMatch st.fib destination entry) :
  applyTables st.pipeline port hdr =
    match entry.egressPort with
    | none => { port := cpuPort, drop := false, transit := false, decided := true }
    | some egressPort => { port := egressPort, drop := false, transit := true, decided := true }
  := by
  rw [applyTables, hglobal]
  dsimp only
  rw [hhi, hlo]
  by_cases hlen : 32#8 < entry.gdpPrefix.prefixLen
  · rw [h.applyTable_long hlongest hlen, FibEntry.pipelineAction]
    cases entry.egressPort with
    | none => rfl
    | some egressPort => rfl
  · have hnone : ∀ other ∈ st.fib, other.gdpPrefix.contains destination = true →
        ¬ 32#8 < other.gdpPrefix.prefixLen := by
      intro other hother hcontains hlt
      exact hlen (Nat.lt_of_lt_of_le hlt (hlongest.longest other hother hcontains))
    rw [h.applyTable_long_of_forall hnone, PipelineAction.run, if_pos rfl,
      h.applyTable_short hlongest hlen, FibEntry.pipelineAction]
    cases entry.egressPort with
    | none => rfl
    | some egressPort => rfl

/-- The tables drop packets to an address that is in no prefix. -/
theorem applyTables_of_forall (h : Compiled cpuPort st)
    (hnone : ∀ entry ∈ st.fib, entry.gdpPrefix.contains destination = false) :
  applyTables st.pipeline port hdr =
    { port := 0#16, drop := true, transit := false, decided := true }
  := by
  have hlong : ∀ entry ∈ st.fib, entry.gdpPrefix.contains destination = true →
      ¬ 32#8 < entry.gdpPrefix.prefixLen := by
    intro entry hentry hcontains
    rw [hnone entry hentry] at hcontains
    cases hcontains
  rw [applyTables, hglobal]
  dsimp only
  rw [hhi, hlo, h.applyTable_long_of_forall hlong, PipelineAction.run, if_pos rfl,
    h.applyTable_short_of_forall hnone]
  rfl

end Tables

end Compiled

end SmolGnet
