import SmolGnet.Library.LeaseBook
import SmolGnet.Library.TreeMap
import SmolGnet.Endpoint.Linked

/-!
# The book of an endpoint that assigns addresses

An endpoint that assigns addresses keeps a `LeaseBook`: the offers are found by the transaction of
the client, the leases by the address.  An address that is allocated is free, it has the prefix of
the configuration, and it is not the address of the endpoint itself.
-/

namespace SmolGnet

/-- The address is valid on one link only. -/
def GdpAddress.IsLinkLocal (address : GdpAddress) : Prop :=
  address.value &&& ~~~linkLocalSuffixMask = linkLocalPrefix

/-- A link-local address that an endpoint makes is not the bootstrap address. -/
theorem makeLinkLocal_spec {suffix : U64} {address : GdpAddress}
    (h : makeLinkLocal suffix = .ok address) :
  address.IsLinkLocal ∧ address ≠ bootstrapAddress
  := by
  rw [makeLinkLocal] at h
  split at h
  · cases h
  next hne =>
  cases h
  have hlow : (linkLocalPrefix ||| suffix &&& linkLocalSuffixMask) &&& linkLocalSuffixMask
      = suffix &&& linkLocalSuffixMask := by
    rw [BitVec.and_or_distrib_right, BitVec.and_assoc, BitVec.and_self,
      show linkLocalPrefix &&& linkLocalSuffixMask = 0#64 by decide, BitVec.zero_or]
  constructor
  · rw [GdpAddress.IsLinkLocal, BitVec.and_or_distrib_right, BitVec.and_assoc,
      show linkLocalSuffixMask &&& ~~~linkLocalSuffixMask = 0#64 by decide, BitVec.and_zero,
      BitVec.or_zero]
    decide
  · intro heq
    have hvalue := congrArg (fun a => a.value &&& linkLocalSuffixMask) heq
    dsimp only at hvalue
    rw [hlow] at hvalue
    exact hne (hvalue.trans (by decide))

/-- The bits of an address that the prefix does not fix. -/
def AddressAuthorityConfig.hostMask (config : AddressAuthorityConfig) : U64 :=
  (1#64 <<< (64 - config.prefixLen.toNat)) - 1#64

/-- The prefix contains the address. -/
def AddressAuthorityConfig.Contains (config : AddressAuthorityConfig) (address : GdpAddress) :
    Prop :=
  address.value &&& ~~~config.hostMask = config.addressPrefix &&& ~~~config.hostMask

/-- Where the length of the prefix is one that messages may have, its mask has the other bits. -/
theorem not_hostMask (config : AddressAuthorityConfig) {mask : U64}
    (h : prefixMask config.prefixLen = .ok mask) :
  ~~~config.hostMask = mask
  := by
  rw [AddressAuthorityConfig.hostMask]
  rw [prefixMask] at h
  split at h
  · next hlen =>
    cases h
    rcases hlen with hlen | hlen | hlen | hlen
    · rw [hlen]
      decide
    · rw [hlen]
      decide
    · rw [hlen]
      decide
    · rw [hlen]
      decide
  · cases h

/-- Where the length of the prefix is one that messages may have, this is how they are checked. -/
theorem contains_iff (config : AddressAuthorityConfig) (address : GdpAddress) {mask : U64}
    (h : prefixMask config.prefixLen = .ok mask) :
  config.Contains address ↔
    addressMatchesPrefix address config.addressPrefix config.prefixLen = .ok true
  := by
  rw [AddressAuthorityConfig.Contains, addressMatchesPrefix, h, not_hostMask config h]
  simp

namespace AddressAuthority

variable {authority : AddressAuthority} {router candidate client : GdpAddress}

/-- What is offered and what is leased to whom. -/
def book (authority : AddressAuthority) : LeaseBook U32 GdpAddress GdpAddress where
  offered transactionId := (authority.pending[transactionId]?).map (fun p => (p.client, p.candidate))
  leased address := authority.leases[address.value]?

theorem offered_book {transactionId : U32} :
  authority.book.offered transactionId = some (client, candidate) ↔
    authority.pending[transactionId]? = some ⟨client, candidate⟩
  := by
  rw [book]
  dsimp only
  rw [Option.map_eq_some_iff]
  constructor
  · rintro ⟨p, hp, heq⟩
    cases heq
    exact hp
  · intro hp
    exact ⟨_, hp, rfl⟩

/-- An address that is not in use is free. -/
theorem free_of_not_inUse (h : authority.candidateInUse candidate = false) :
  authority.book.Free candidate
  := by
  rw [candidateInUse, Bool.or_eq_false_iff, Std.ExtTreeMap.contains_eq_isSome_getElem?,
    Option.isSome_eq_false_iff, Option.isNone_iff_eq_none, List.any_eq_false] at h
  refine ⟨h.1, ?_⟩
  intro transactionId client' hoffered
  rw [offered_book] at hoffered
  simpa using h.2 _ (TreeMap.mem_values_of_getElem? hoffered)

/-- The search changes nothing but the number of the next host; what it finds is free, has the
prefix, and is not the router. -/
theorem searchCandidate_spec (router : GdpAddress) (attempts : ℕ) (authority : AddressAuthority) :
  (searchCandidate router attempts authority).2.config = authority.config ∧
    (searchCandidate router attempts authority).2.pending = authority.pending ∧
    (searchCandidate router attempts authority).2.leases = authority.leases ∧
    ∀ candidate, (searchCandidate router attempts authority).1 = .ok candidate →
      authority.book.Free candidate ∧ authority.config.Contains candidate ∧ candidate ≠ router
  := by
  induction attempts generalizing authority with
  | zero => exact ⟨rfl, rfl, rfl, nofun⟩
  | succ attempts ih =>
    rw [searchCandidate]
    dsimp only
    generalize (if (authority.nextHost + 1#64) &&& authority.hostMask = 0#64 then 1#64
      else (authority.nextHost + 1#64) &&& authority.hostMask) = next
    have hrest := ih { authority with nextHost := next }
    split
    · exact hrest
    split
    · next hok =>
      refine ⟨rfl, rfl, rfl, ?_⟩
      rintro _ ⟨⟩
      refine ⟨free_of_not_inUse ?_, ?_, hok.1⟩
      · exact (Bool.not_eq_true' _).mp hok.2
      · have hmask : authority.hostMask = authority.config.hostMask := rfl
        rw [AddressAuthorityConfig.Contains, BitVec.and_or_distrib_right, BitVec.and_assoc, hmask,
          show authority.config.hostMask &&& ~~~authority.config.hostMask = 0#64 from
            BitVec.and_not_self _, BitVec.and_zero, BitVec.or_zero]
    · exact hrest

/-- What is allocated. -/
theorem allocateCandidate_spec (authority : AddressAuthority) (router : GdpAddress) :
  (authority.allocateCandidate router).2.config = authority.config ∧
    (authority.allocateCandidate router).2.book = authority.book ∧
    ∀ candidate, (authority.allocateCandidate router).1 = .ok candidate →
      authority.book.Free candidate ∧ authority.config.Contains candidate ∧ candidate ≠ router
  := by
  obtain ⟨hconfig, hpending, hleases, hcandidate⟩ := searchCandidate_spec router
    (max (min authority.hostMask.toNat 65535) 1) authority
  refine ⟨hconfig, ?_, hcandidate⟩
  rw [book, book, allocateCandidate, hpending, hleases]

/-- A pending offer is an offer of the book. -/
theorem book_insert_pending (authority : AddressAuthority) (transactionId : U32)
    (client candidate : GdpAddress) :
  { authority with pending := authority.pending.insert transactionId ⟨client, candidate⟩ }.book
    = authority.book.offer transactionId client candidate
  := by
  rw [book, LeaseBook.offer]
  congr 1
  funext k
  rw [TreeMap.getElem?_insert, Function.update_apply]
  by_cases hk : transactionId = k
  · rw [if_pos hk, if_pos hk.symm]
    rfl
  · rw [if_neg hk, if_neg (Ne.symm hk)]
    rfl

/-- A claim that is answered accepts the offer. -/
theorem book_accept (authority : AddressAuthority) (transactionId : U32)
    (client candidate : GdpAddress) :
  { authority with
      pending := authority.pending.erase transactionId
      leases := authority.leases.insert candidate.value client }.book
    = authority.book.accept transactionId client candidate
  := by
  rw [book, LeaseBook.accept]
  congr 1
  · funext k
    rw [TreeMap.getElem?_erase, Function.update_apply]
    by_cases hk : transactionId = k
    · rw [if_pos hk, if_pos hk.symm]
      rfl
    · rw [if_neg hk, if_neg (Ne.symm hk)]
      rfl
  · funext a
    rw [TreeMap.getElem?_insert, Function.update_apply]
    by_cases ha : candidate = a
    · rw [if_pos (congrArg GdpAddress.value ha), if_pos ha.symm]
    · have hvalue : candidate.value ≠ a.value := by
        intro h
        cases candidate
        cases a
        exact ha (congrArg GdpAddress.mk h)
      rw [if_neg hvalue, if_neg (Ne.symm ha)]
      rfl

/-- An authority that has assigned no address has an empty book. -/
theorem book_new (config : AddressAuthorityConfig) :
  (new config).book = ⟨fun _ => none, fun _ => none⟩
  := by
  rw [book, new]
  simp

end AddressAuthority

end SmolGnet
