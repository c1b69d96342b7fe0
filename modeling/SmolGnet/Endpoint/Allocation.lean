import SmolGnet.Endpoint.Authority
import SmolGnet.Endpoint.Handlers
import SmolGnet.Library.Wheel
import SmolGnet.Library.Machine

/-!
# How addresses are allocated

An endpoint that assigns addresses tries the numbers of hosts one after the other, from the one after
the last that it has tried.  The numbers stand in a circle that leaves out 0, so that a search that
may take as many steps as there are numbers tries each of them: when it finds none, each address is
that of the router, or has been leased or offered.
-/

namespace SmolGnet

namespace AddressAuthority

/-- The address has been leased. -/
def Leased (authority : AddressAuthority) (address : GdpAddress) : Prop :=
  ∃ client, authority.leases[address.value]? = some client

/-- The address has been offered and not yet claimed. -/
def Pending (authority : AddressAuthority) (address : GdpAddress) : Prop :=
  ∃ (transactionId : U32) (p : PendingAuthorityOffer),
    authority.pending[transactionId]? = some p ∧ p.candidate = address

/-- A search or a claim. -/
inductive Op where
  | solicit (router client : GdpAddress) (transactionId : U32)
  | claim (client candidate : GdpAddress) (transactionId : U32)

/-- The authority after a search or a claim. -/
def step (authority : AddressAuthority) : Op → AddressAuthority
  | .solicit router client transactionId => authority.solicit router client transactionId
  | .claim client candidate transactionId => authority.claim client candidate transactionId

end AddressAuthority

namespace LinkedEndpoint

variable {T : Transport}

theorem authority_trySendGctlFrom (e : LinkedEndpoint T) (source remote : GdpAddress)
    (msg : GctlMessage) (sizeClass : Option SizeClass) :
  (e.trySendGctlFrom source remote msg sizeClass).2.authority = e.authority
  := by
  rw [trySendGctlFrom]
  split
  · rfl
  · next e' hsend =>
    rw [sendGctlFrom, bind_eq_ok] at hsend
    obtain ⟨packet, -, hsend⟩ := hsend
    obtain ⟨⟨n, dlp⟩, -, hsend⟩ := bind_eq_ok.mp hsend
    cases hsend
    rfl

/-- Answers leave the authority as it was. -/
theorem Replies.authority {Q : GctlMessage → Prop} {remote : GdpAddress} {e e' : LinkedEndpoint T}
    (h : Replies Q remote e e') :
  e'.authority = e.authority
  := by
  apply h.invariant (P := fun e' => e'.authority = e.authority) _ rfl
  intro e₁ reply _ hauthority
  rw [authority_trySendGctlFrom, hauthority]

/-- The endpoint does to its authority what a search for a router does. -/
theorem authority_handleRouterSolicit (e : LinkedEndpoint T) (src : GdpAddress) (msg : GctlMessage) :
  (e.handleRouterSolicit src msg).2.authority = e.authority ∨
    ∃ authority, e.authority = some authority ∧ (e.handleRouterSolicit src msg).2.authority =
      some (authority.solicit e.primaryAddress src msg.transactionId)
  := by
  obtain heq | ⟨authority, hauthority, hreplies⟩ := e.handleRouterSolicit_spec src msg
  · rw [heq]
    exact .inl rfl
  · exact .inr ⟨authority, hauthority, hreplies.authority⟩

/-- The endpoint does to its authority what a claim does. -/
theorem authority_handleAddressClaim (e : LinkedEndpoint T) (src : GdpAddress) (msg : GctlMessage) :
  (e.handleAddressClaim src msg).2.authority = e.authority ∨
    ∃ authority claim, e.authority = some authority ∧ msg.parseAddressClaim = .ok claim ∧
      (e.handleAddressClaim src msg).2.authority =
        some (authority.claim src claim.candidate msg.transactionId)
  := by
  obtain hreplies | ⟨authority, claim, hauthority, hclaim, -, hreplies⟩ :=
    e.handleAddressClaim_spec src msg
  · exact .inl hreplies.authority
  · exact .inr ⟨authority, claim, hauthority, hclaim, hreplies.authority⟩

end LinkedEndpoint

namespace AddressAuthority

/-- The lengths of prefixes that messages may have. -/
def ValidLength (prefixLen : U8) : Prop :=
  prefixLen = 16#8 ∨ prefixLen = 32#8 ∨ prefixLen = 48#8 ∨ prefixLen = 56#8

variable {authority : AddressAuthority} {router : GdpAddress}

/-- The mask of the hosts has the last bits of an address. -/
theorem hostMask_eq (h : ValidLength authority.config.prefixLen) :
  ∃ k, 0 < k ∧ k < 64 ∧ authority.hostMask.toNat = 2 ^ k - 1
  := by
  rw [hostMask]
  rcases h with h | h | h | h
  · exact ⟨48, by decide, by decide, by rw [h]; decide⟩
  · exact ⟨32, by decide, by decide, by rw [h]; decide⟩
  · exact ⟨16, by decide, by decide, by rw [h]; decide⟩
  · exact ⟨8, by decide, by decide, by rw [h]; decide⟩

/-- The mask does not change the number of a host. -/
theorem and_hostMask (h : ValidLength authority.config.prefixLen) {host : U64}
    (hle : host ≤ authority.hostMask) :
  host &&& authority.hostMask = host
  := by
  obtain ⟨k, hk, -, hmask⟩ := hostMask_eq h
  have hpos := Nat.two_pow_pos k
  rw [BitVec.le_def] at hle
  apply BitVec.eq_of_toNat_eq
  rw [BitVec.toNat_and, hmask, Nat.and_two_pow_sub_one_eq_mod, Nat.mod_eq_of_lt (by omega)]

/-- The number of the next host is in the circle. -/
structure InCircle (authority : AddressAuthority) : Prop where
  pos : 1#64 ≤ authority.nextHost
  le : authority.nextHost ≤ authority.hostMask

theorem InCircle.ne_zero (h : authority.InCircle) :
  authority.nextHost ≠ 0#64
  := by
  intro hzero
  have hpos := h.pos
  rw [hzero] at hpos
  exact absurd hpos (by decide)

/-- The address of a host. -/
def candidate (authority : AddressAuthority) (host : U64) : GdpAddress :=
  ⟨authority.config.addressPrefix ||| host⟩

/-- The address of a host cannot be given away. -/
def Blocked (authority : AddressAuthority) (router : GdpAddress) (host : U64) : Prop :=
  authority.candidate host = router ∨ authority.candidateInUse (authority.candidate host) = true

/-- The authority after one host has been tried. -/
def advance (authority : AddressAuthority) : AddressAuthority :=
  { authority with
    nextHost :=
      if (authority.nextHost + 1#64) &&& authority.hostMask = 0#64 then 1#64
      else (authority.nextHost + 1#64) &&& authority.hostMask }

/-- The next number is the one after it in the circle. -/
theorem toNat_advance (h : ValidLength authority.config.prefixLen) (hcircle : authority.InCircle) :
  authority.advance.nextHost.toNat =
      Wheel.next authority.hostMask.toNat authority.nextHost.toNat ∧
    authority.advance.InCircle
  := by
  obtain ⟨k, hk, hk', hmask⟩ := hostMask_eq h
  have hpow : 2 ^ k < 2 ^ 64 := Nat.pow_lt_pow_right (by decide) hk'
  have hpos : 1 ≤ authority.nextHost.toNat := hcircle.pos
  have hle : authority.nextHost.toNat ≤ authority.hostMask.toNat := hcircle.le
  have hand : ∀ v : U64, (v &&& authority.hostMask).toNat = v.toNat % 2 ^ k := by
    intro v
    rw [BitVec.toNat_and, hmask, Nat.and_two_pow_sub_one_eq_mod]
  have hnext : authority.advance.nextHost.toNat =
      Wheel.next authority.hostMask.toNat authority.nextHost.toNat := by
    have hadd : (authority.nextHost + 1#64).toNat = authority.nextHost.toNat + 1 := by
      rw [BitVec.toNat_add, BitVec.toNat_ofNat, Nat.mod_eq_of_lt (by omega)]
    rw [Wheel.next_eq hle, advance]
    dsimp only
    by_cases hlast : authority.nextHost.toNat = authority.hostMask.toNat
    · have hzero : (authority.nextHost + 1#64) &&& authority.hostMask = 0#64 := by
        apply BitVec.eq_of_toNat_eq
        have hsum : authority.nextHost.toNat + 1 = 2 ^ k := by omega
        rw [hand, hadd, hsum, Nat.mod_self]
        rfl
      rw [if_pos hlast, if_pos hzero]
      rfl
    · have hmod : ((authority.nextHost + 1#64) &&& authority.hostMask).toNat =
          authority.nextHost.toNat + 1 := by
        rw [hand, hadd, Nat.mod_eq_of_lt (by omega)]
      rw [if_neg hlast, if_neg, hmod]
      intro hzero
      rw [hzero] at hmod
      cases hmod
  refine ⟨hnext, ?_, ?_⟩
  · rw [BitVec.le_def, hnext, Wheel.next]
    exact Nat.le_add_left 1 _
  · have hmaskPos : 0 < authority.hostMask.toNat := by omega
    rw [BitVec.le_def, hnext]
    exact Wheel.next_le hmaskPos

/-- One host is tried, and then the others. -/
theorem searchCandidate_succ (h : ValidLength authority.config.prefixLen)
    (hcircle : authority.InCircle) (router : GdpAddress) (attempts : ℕ) :
  authority.Blocked router authority.nextHost ∧
      searchCandidate router (attempts + 1) authority =
        searchCandidate router attempts authority.advance ∨
    ¬ authority.Blocked router authority.nextHost ∧
      searchCandidate router (attempts + 1) authority =
        (.ok (authority.candidate authority.nextHost), authority.advance)
  := by
  have hself := and_hostMask h hcircle.le
  rw [searchCandidate, hself]
  dsimp only
  rw [if_neg hcircle.ne_zero]
  by_cases hblocked : authority.Blocked router authority.nextHost
  · refine .inl ⟨hblocked, if_neg ?_⟩
    rintro ⟨hrouter, hfree⟩
    rcases hblocked with heq | huse
    · exact hrouter heq
    · rw [Bool.not_eq_true'] at hfree
      exact Bool.false_ne_true (hfree.symm.trans huse)
  · refine .inr ⟨hblocked, if_pos ?_⟩
    obtain ⟨hrouter, hfree⟩ := not_or.mp hblocked
    exact ⟨hrouter, Bool.not_eq_true' _ |>.mpr (Bool.eq_false_iff.mpr hfree)⟩

/-- What a search finds is the address of a host that is not blocked; when it finds none, the hosts
that it has tried are blocked. -/
theorem searchCandidate_circle (router : GdpAddress) (attempts : ℕ)
    (h : ValidLength authority.config.prefixLen) (hcircle : authority.InCircle) :
  (searchCandidate router attempts authority).2.InCircle ∧
    (∀ address, (searchCandidate router attempts authority).1 = .ok address →
      ∃ host, host ≠ 0#64 ∧ host ≤ authority.hostMask ∧ address = authority.candidate host ∧
        ¬ authority.Blocked router host) ∧
    ∀ err, (searchCandidate router attempts authority).1 = .error err → err = .bufferFull ∧
      ∀ i < attempts, ∀ host : U64,
        host.toNat = (Wheel.next authority.hostMask.toNat)^[i] authority.nextHost.toNat →
        authority.Blocked router host
  := by
  induction attempts generalizing authority with
  | zero =>
    refine ⟨hcircle, nofun, ?_⟩
    rintro _ ⟨⟩
    exact ⟨rfl, nofun⟩
  | succ attempts ih =>
    obtain ⟨hnext, hadvance⟩ := toNat_advance h hcircle
    rcases searchCandidate_succ h hcircle router attempts with ⟨hblocked, heq⟩ | ⟨hfree, heq⟩
    · obtain ⟨hcircle', hfound, hnone⟩ := @ih authority.advance h hadvance
      rw [heq]
      refine ⟨hcircle', hfound, ?_⟩
      intro err herr
      obtain ⟨hfull, htried⟩ := hnone err herr
      refine ⟨hfull, ?_⟩
      intro i hi host hhost
      cases i with
      | zero =>
        rw [BitVec.eq_of_toNat_eq hhost]
        exact hblocked
      | succ i =>
        apply htried i (Nat.lt_of_succ_lt_succ hi)
        rw [hnext]
        exact hhost
    · rw [heq]
      refine ⟨hadvance, ?_, nofun⟩
      rintro _ ⟨⟩
      exact ⟨authority.nextHost, hcircle.ne_zero, hcircle.le, rfl, hfree⟩

theorem candidateInUse_iff {address : GdpAddress} :
  authority.candidateInUse address = true ↔ authority.Leased address ∨ authority.Pending address
  := by
  rw [candidateInUse, Bool.or_eq_true, Std.ExtTreeMap.contains_eq_isSome_getElem?,
    Option.isSome_iff_exists, List.any_eq_true, Pending]
  apply or_congr Iff.rfl
  simp only [TreeMap.mem_values_iff, decide_eq_true_eq]
  constructor
  · rintro ⟨p, ⟨k, hk⟩, hp⟩
    exact ⟨k, p, hk, hp⟩
  · rintro ⟨k, p, hk, hp⟩
    exact ⟨p, ⟨k, hk⟩, hp⟩

/-- In every run the numbers stay in the circle. -/
theorem inCircle_run {config : AddressAuthorityConfig} (hlen : ValidLength config.prefixLen)
    (ops : List Op) :
  (Machine.run step (new config) ops).config = config ∧
    (Machine.run step (new config) ops).InCircle
  := by
  refine Machine.invariant_run
    (P := fun authority : AddressAuthority => authority.config = config ∧ authority.InCircle)
    ?_ ?_ ops
  · rintro authority op ⟨rfl, hcircle⟩
    cases op with
    | solicit router client transactionId =>
      obtain ⟨hconfig, -⟩ := authority.allocateCandidate_spec router
      obtain ⟨hcircle', -⟩ := searchCandidate_circle router
        (max (min authority.hostMask.toNat 65535) 1) hlen hcircle
      rw [step, solicit]
      rw [← allocateCandidate] at hcircle'
      split
      · next halloc =>
        rw [halloc] at hconfig hcircle'
        exact ⟨hconfig, hcircle'⟩
      · next halloc =>
        rw [halloc] at hconfig hcircle'
        exact ⟨hconfig, hcircle'.pos, hcircle'.le⟩
    | claim client candidate transactionId =>
      rw [step, claim]
      split
      · exact ⟨rfl, hcircle⟩
      · split
        · exact ⟨rfl, hcircle.pos, hcircle.le⟩
        · exact ⟨rfl, hcircle⟩
  · obtain ⟨k, hk, -, hmask⟩ := @hostMask_eq (new config) hlen
    have hpow : 2 ^ 1 ≤ 2 ^ k := Nat.pow_le_pow_right (by decide) hk
    refine ⟨rfl, BitVec.le_refl _, ?_⟩
    rw [BitVec.le_def, hmask]
    change 1 ≤ _
    omega

/-- With a prefix of 48 or 56 bits a search tries every host. -/
theorem blocked_of_error (hlen : authority.config.prefixLen = 48#8 ∨ authority.config.prefixLen = 56#8)
    (hcircle : authority.InCircle) {err : Error}
    (h : (authority.allocateCandidate router).1 = .error err) {host : U64} (hne : host ≠ 0#64)
    (hle : host ≤ authority.hostMask) :
  authority.Blocked router host
  := by
  have hvalid : ValidLength authority.config.prefixLen := .inr (.inr hlen)
  have hattempts : max (min authority.hostMask.toNat 65535) 1 = authority.hostMask.toNat := by
    rw [hostMask]
    rcases hlen with hlen | hlen
    · rw [hlen]
      decide
    · rw [hlen]
      decide
  obtain ⟨-, -, hnone⟩ := searchCandidate_circle router
    (max (min authority.hostMask.toNat 65535) 1) hvalid hcircle
  obtain ⟨-, htried⟩ := hnone err h
  rw [hattempts] at htried
  have hpos : 0 < host.toNat := by
    apply Nat.pos_of_ne_zero
    intro hzero
    exact hne (BitVec.eq_of_toNat_eq hzero)
  obtain ⟨i, hi, hhost⟩ := Wheel.exists_iterate_next hcircle.pos hcircle.le hpos hle
  exact htried i hi host hhost.symm

/-- An address that is allocated is in the prefix and has a host, it is not that of the router, and
it has been neither leased nor offered.  With a prefix of 48 or 56 bits no address is allocated only
when those of all other hosts than the router have been leased or offered. -/
theorem allocation (config : AddressAuthorityConfig) (hlen : ValidLength config.prefixLen)
    (ops : List Op) (router : GdpAddress) :
  1#64 ≤ (Machine.run step (new config) ops).nextHost ∧
  (Machine.run step (new config) ops).nextHost ≤ config.hostMask ∧
  (∀ address, ((Machine.run step (new config) ops).allocateCandidate router).1 = .ok address →
    addressMatchesPrefix address config.addressPrefix config.prefixLen = .ok true ∧
    address.value &&& config.hostMask ≠ 0#64 ∧ address ≠ router ∧
    ¬ (Machine.run step (new config) ops).Leased address ∧
    ¬ (Machine.run step (new config) ops).Pending address) ∧
  ∀ err, ((Machine.run step (new config) ops).allocateCandidate router).1 = .error err →
    err = .bufferFull ∧
    (config.prefixLen = 48#8 ∨ config.prefixLen = 56#8 →
      ∀ host, host ≠ 0#64 → host ≤ config.hostMask → ⟨config.addressPrefix ||| host⟩ ≠ router →
        (Machine.run step (new config) ops).Leased ⟨config.addressPrefix ||| host⟩ ∨
        (Machine.run step (new config) ops).Pending ⟨config.addressPrefix ||| host⟩)
  := by
  obtain ⟨hconfig, hcircle⟩ := inCircle_run hlen ops
  generalize Machine.run step (new config) ops = authority at hconfig hcircle ⊢
  subst hconfig
  obtain ⟨-, hfound, hnone⟩ := searchCandidate_circle router
    (max (min authority.hostMask.toNat 65535) 1) hlen hcircle
  refine ⟨hcircle.pos, hcircle.le, ?_, ?_⟩
  · intro address halloc
    obtain ⟨host, hne, hle, rfl, hfree⟩ := hfound address halloc
    obtain ⟨-, -, hspec⟩ := authority.allocateCandidate_spec router
    obtain ⟨-, hcontains, hrouter⟩ := hspec _ halloc
    have hmask : prefixMask authority.config.prefixLen =
        .ok (BitVec.allOnes 64 <<< (64 - authority.config.prefixLen.toNat)) := if_pos hlen
    refine ⟨(contains_iff _ _ hmask).mp hcontains, ?_, hrouter,
      not_or.mp (mt candidateInUse_iff.mpr (not_or.mp hfree).2)⟩
    intro hzero
    have hhost : host &&& authority.config.hostMask = host := and_hostMask hlen hle
    have hvalue : (authority.candidate host).value = authority.config.addressPrefix ||| host := rfl
    rw [hvalue, BitVec.and_or_distrib_right, hhost, BitVec.or_eq_zero_iff] at hzero
    exact hne hzero.2
  · intro err herr
    refine ⟨(hnone err herr).1, ?_⟩
    intro hshort host hne hle hrouter
    rcases blocked_of_error hshort hcircle herr hne hle with heq | huse
    · exact absurd heq hrouter
    · exact candidateInUse_iff.mp huse

/-- After the first address has been offered the second one is free. -/
theorem allocation_second :
  ¬ (Machine.run step (new ⟨0x2001000000000000#64, 56#8, 60#32, 0#8, 0#32⟩)
      [.solicit ⟨0x2001000000000002#64⟩ ⟨0xfe80000000000007#64⟩ 1#32]).Pending
    ⟨0x2001000000000003#64⟩
  := by
  apply ((allocation _ (.inr (.inr (.inr rfl))) _ ⟨0x2001000000000002#64⟩).2.2.1 _ ?_).2.2.2.2
  decide +kernel

end AddressAuthority

end SmolGnet
