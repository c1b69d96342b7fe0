import SmolGnet.Endpoint.Pair

/-!
# Both ends agree on the streams

What is on its way opens only streams that the sender has and the receiver does not have, each of them
once.  So both ends agree on the streams that both have, and no stream is refused while the tunnel is
established.
-/

namespace SmolGnet

namespace Endpoint

/-! ### The invariant is kept -/

section Inv

variable {h : Bool → U32} {n : Bool → ℕ} {p : Pair} {d : Bool} {e' : Endpoint}

/-- The streams of one end stay as they are, and it opens no more. -/
theorem Inv.sameStreams (hinv : Inv h n p) (hsame : (p d).SameStreams e')
    (hend : EndInv d (h d) (h !d) (n d) e') (hopening : e'.opening.Sublist (p d).opening)
    (haddressed : ∀ y ∈ e'.outbox, Addressed d (h d) (h !d) y.2.2) :
  Inv h n (Function.update p d e')
  := by
  have hstreams : ∀ c id profile, HasStream (Function.update p d e' c) (h c) id profile ↔
      (p c).HasStream (h c) id profile := by
    intro c id profile
    obtain rfl | hc := eq_or_ne c d
    · rw [Function.update_self]
      exact hsame.hasStream_iff
    · rw [Function.update_of_ne hc]
  have hsublist : ∀ c, (Endpoint.opening (Function.update p d e' c)).Sublist (p c).opening := by
    intro c
    obtain rfl | hc := eq_or_ne c d
    · rw [Function.update_self]
      exact hopening
    · rw [Function.update_of_ne hc]
  refine ⟨?_, ?_, ?_, ?_, ?_⟩
  · intro c
    obtain rfl | hc := eq_or_ne c d
    · rw [Function.update_self]
      exact hend
    · rw [Function.update_of_ne hc]
      exact hinv.ends c
  · intro c id profile hown hthere
    rw [hstreams] at hthere ⊢
    exact hinv.agree c id profile hown hthere
  · intro c y hy
    obtain ⟨hown, hvalid, hhere, hthere⟩ := hinv.opening c y ((hsublist c).subset hy)
    refine ⟨hown, hvalid, (hstreams c _ _).mpr hhere, ?_⟩
    intro profile
    rw [hstreams]
    exact hthere profile
  · intro c
    exact (hinv.once c).sublist ((hsublist c).map _)
  · intro c
    obtain rfl | hc := eq_or_ne c d
    · rw [Function.update_self]
      exact haddressed
    · rw [Function.update_of_ne hc]
      exact hinv.addressed c

/-- One end acts, and opens nothing. -/
theorem Inv.quiet (hinv : Inv h n p) (hkeeps : (p d).Keeps e') (hsends : (p d).SendsQuiet e') :
  Inv h n (Function.update p d e')
  := by
  refine hinv.sameStreams hkeeps.sameStreams
    ((hinv.ends d).keeps hkeeps hsends.linkUp hsends.nextTunnel) ?_
    (hsends.addressed (hinv.addressed d))
  rw [hsends.opening_eq]

/-- What has been delivered is no longer on its way. -/
theorem Inv.delivered (hinv : Inv h n p) {x : GdpAddress × SizeClass × GtsPacket}
    {rest : List (GdpAddress × SizeClass × GtsPacket)} (hout : (p d).outbox = x :: rest) :
  let p' := Function.update p d ((p d).step .transmitted)
  Inv h n p' ∧ Addressed d (h d) (h !d) x.2.2 ∧
    ∀ y, x.2.2.opens = some y → Opens h p' d y ∧ y.1 ∉ (p' d).opening.map Prod.fst
  := by
  intro p'
  have hrest : ((p d).step .transmitted).outbox = rest := by
    rw [step, hout, List.tail_cons]
  have hopening : ((p d).step .transmitted).opening.Sublist (p d).opening := by
    rw [Endpoint.opening, Endpoint.opening, hrest, hout]
    exact (List.sublist_cons_self x rest).filterMap _
  have hsame : (p d).SameStreams ((p d).step .transmitted) := (Keeps.refl (p d)).sameStreams
  have hinv' : Inv h n p' := by
    refine hinv.sameStreams hsame ((hinv.ends d).keeps (Keeps.refl (p d)) rfl rfl) hopening ?_
    rw [hrest]
    intro y hy
    exact hinv.addressed d y (hout ▸ List.mem_cons_of_mem x hy)
  refine ⟨hinv', hinv.addressed d x (hout ▸ List.mem_cons_self), ?_⟩
  intro y hy
  have hcons : (p d).opening = y :: ((p d).step .transmitted).opening := by
    rw [Endpoint.opening, Endpoint.opening, hrest, hout, List.filterMap_cons, hy]
  have hp : p' (!d) = p !d := Function.update_of_ne (Bool.not_ne_self d) ..
  have hp' : p' d = (p d).step .transmitted := Function.update_self ..
  obtain ⟨hown, hvalid, hhere, hthere⟩ := hinv.opening d y (hcons ▸ List.mem_cons_self)
  refine ⟨⟨hown, hvalid, ?_, ?_⟩, ?_⟩
  · rw [hp', hsame.hasStream_iff]
    exact hhere
  · rw [hp]
    exact hthere
  · have honce := hinv.once d
    rw [hcons, List.map_cons, List.nodup_cons] at honce
    rw [hp']
    exact honce.1

theorem not_own_not {id : U8} (hown : Own d id) :
  ¬ Own (!d) id
  := by
  rw [Own] at hown ⊢
  cases d with
  | false => simpa using hown
  | true => simpa using hown

variable {x : U8 × StreamProfile}

/-- One end has a new stream of its own, and has told the other end or not. -/
theorem Inv.opens (hinv : Inv h n p) {m : ℕ} (hown : Own d x.1) (hvalid : x.2.validate = .ok x.2)
    (hnew : ∀ profile, ¬ (p d).HasStream (h d) x.1 profile) (hadds : (p d).AddsStream e' (h d) x)
    (hend : EndInv d (h d) (h !d) m e')
    (hopening : e'.opening = (p d).opening ∨ e'.opening = (p d).opening ++ [x])
    (haddressed : ∀ y ∈ e'.outbox, Addressed d (h d) (h !d) y.2.2) :
  Inv h (Function.update n d m) (Function.update p d e')
  := by
  have hn : Function.update n d m (!d) = n !d := Function.update_of_ne (Bool.not_ne_self d) ..
  have hp : Function.update p d e' (!d) = p !d := Function.update_of_ne (Bool.not_ne_self d) ..
  refine ⟨?_, ?_, ?_, ?_, ?_⟩
  · intro c
    obtain rfl | rfl := Bool.eq_or_eq_not c d
    · rw [Function.update_self, Function.update_self]
      exact hend
    · rw [hn, hp]
      exact hinv.ends !d
  · intro c id profile hid hthere
    obtain rfl | rfl := Bool.eq_or_eq_not c d
    · rw [hp] at hthere
      rw [Function.update_self]
      exact (hadds id profile).mpr (.inr (hinv.agree c id profile hid hthere))
    · rw [Bool.not_not, Function.update_self] at hthere
      rw [hp]
      obtain rfl | hthere := (hadds id profile).mp hthere
      · exact absurd hid (not_own_not hown)
      · rw [← Bool.not_not d] at hthere
        exact hinv.agree (!d) id profile hid hthere
  · intro c y hy
    obtain rfl | rfl := Bool.eq_or_eq_not c d
    · rw [Function.update_self] at hy
      have hy' : y ∈ (p c).opening ∨ y = x := by
        obtain hopening | hopening := hopening
        · exact .inl (hopening ▸ hy)
        · rw [hopening, List.mem_append, List.mem_singleton] at hy
          exact hy
      obtain hold | rfl := hy'
      · obtain ⟨hown', hvalid', hhere, hthere⟩ := hinv.opening c y hold
        refine ⟨hown', hvalid', ?_, ?_⟩
        · rw [Function.update_self]
          exact (hadds _ _).mpr (.inr hhere)
        · rw [hp]
          exact hthere
      · refine ⟨hown, hvalid, ?_, ?_⟩
        · rw [Function.update_self]
          exact (hadds _ _).mpr (.inl rfl)
        · intro profile hthere
          rw [hp] at hthere
          exact hnew profile (hinv.agree c y.1 profile hown hthere)
    · rw [hp] at hy
      obtain ⟨hown', hvalid', hhere, hthere⟩ := hinv.opening (!d) y hy
      refine ⟨hown', hvalid', ?_, ?_⟩
      · rw [hp]
        exact hhere
      · intro profile hhas
        rw [Bool.not_not, Function.update_self] at hhas
        obtain rfl | hhas := (hadds _ _).mp hhas
        · exact not_own_not hown hown'
        · rw [← Bool.not_not d] at hhas
          exact hthere profile hhas
  · intro c
    obtain rfl | rfl := Bool.eq_or_eq_not c d
    · rw [Function.update_self]
      obtain hopening | hopening := hopening
      · rw [hopening]
        exact hinv.once c
      · rw [hopening, List.map_append, List.map_singleton]
        refine List.nodup_append.mpr ⟨hinv.once c, List.nodup_cons.mpr ⟨List.not_mem_nil, .nil⟩, ?_⟩
        intro id hid id' hid'
        rw [List.mem_singleton] at hid'
        subst hid'
        rintro rfl
        obtain ⟨y, hy, heq⟩ := List.mem_map.mp hid
        exact hnew y.2 (heq ▸ (hinv.opening c y hy).here)
    · rw [hp]
      exact hinv.once !d
  · intro c
    obtain rfl | rfl := Bool.eq_or_eq_not c d
    · rw [Function.update_self]
      exact haddressed
    · rw [hp]
      exact hinv.addressed !d

/-- One end has a new stream, of which the other end has told it. -/
theorem Inv.accepts (hinv : Inv h n p) (hx : Opens h p d x)
    (honce : x.1 ∉ (p d).opening.map Prod.fst) (hadds : (p !d).AddsStream e' (h !d) x)
    (hend : EndInv (!d) (h !d) (h d) (n !d) e') (hopening : e'.opening = (p !d).opening)
    (haddressed : ∀ y ∈ e'.outbox, Addressed (!d) (h !d) (h d) y.2.2) :
  Inv h n (Function.update p (!d) e')
  := by
  have hp : Function.update p (!d) e' d = p d := Function.update_of_ne (Bool.not_ne_self d).symm ..
  refine ⟨?_, ?_, ?_, ?_, ?_⟩
  · intro c
    obtain rfl | rfl := Bool.eq_or_eq_not c d
    · rw [hp]
      exact hinv.ends c
    · rw [Function.update_self, Bool.not_not]
      exact hend
  · intro c id profile hid hthere
    obtain rfl | rfl := Bool.eq_or_eq_not c d
    · rw [Function.update_self] at hthere
      rw [hp]
      obtain rfl | hthere := (hadds id profile).mp hthere
      · exact hx.here
      · exact hinv.agree c id profile hid hthere
    · rw [Bool.not_not, hp] at hthere
      rw [Function.update_self]
      refine (hadds id profile).mpr (.inr (hinv.agree (!d) id profile hid ?_))
      rw [Bool.not_not]
      exact hthere
  · intro c y hy
    obtain rfl | rfl := Bool.eq_or_eq_not c d
    · rw [hp] at hy
      obtain ⟨hown, hvalid, hhere, hthere⟩ := hinv.opening c y hy
      refine ⟨hown, hvalid, ?_, ?_⟩
      · rw [hp]
        exact hhere
      · intro profile hhas
        rw [Function.update_self] at hhas
        obtain rfl | hhas := (hadds _ _).mp hhas
        · exact honce (List.mem_map.mpr ⟨y, hy, rfl⟩)
        · exact hthere profile hhas
    · rw [Function.update_self, hopening] at hy
      obtain ⟨hown, hvalid, hhere, hthere⟩ := hinv.opening (!d) y hy
      refine ⟨hown, hvalid, ?_, ?_⟩
      · rw [Function.update_self]
        exact (hadds _ _).mpr (.inr hhere)
      · rw [Bool.not_not] at hthere ⊢
        rw [hp]
        exact hthere
  · intro c
    obtain rfl | rfl := Bool.eq_or_eq_not c d
    · rw [hp]
      exact hinv.once c
    · rw [Function.update_self, hopening]
      exact hinv.once !d
  · intro c
    obtain rfl | rfl := Bool.eq_or_eq_not c d
    · rw [hp]
      exact hinv.addressed c
    · rw [Function.update_self, Bool.not_not]
      exact haddressed

/-- A number for a stream that one end opens is its own, and not in use. -/
theorem TunnelInv.alloc {other : U32} {m : ℕ} {t t' : GtsTunnel} {id : U8}
    (hinv : TunnelInv d other m t) (halloc : t.allocStreamId = .ok (id, t')) :
  (parityClass d)[m]? = some id ∧ Own d id ∧ id.toNat = firstId d + 2 * m ∧ t'.state = .established ∧
    t'.streams = t.streams ∧ t'.streams[id]? = none ∧ TunnelInv d other (m + 1) t'
  := by
  obtain ⟨hstate, hle, rfl, rfl⟩ := GtsTunnel.allocStreamId_eq_ok halloc
  have hid := hinv.next
  have hown : Own d t.nextStreamId := by
    rw [Own, hid, firstId]
    cases d with
    | false => simp
    | true => simp
  have hnext : (t.nextStreamId + 2#8).toNat = firstId d + 2 * (m + 1) := by
    rw [BitVec.not_lt, BitVec.le_def] at hle
    rw [BitVec.toNat_add, hid]
    simp only [BitVec.reduceToNat] at hle ⊢
    omega
  refine ⟨?_, hown, hid, hstate, rfl, ?_, ?_⟩
  · rw [getElem?_parityClass hid, if_neg hle]
  · cases hs : t.streams[t.nextStreamId]? with
    | none => rfl
    | some s =>
      have := hinv.below _ s hs hown
      omega
  · refine ⟨hinv.role, hnext, hinv.remote, hinv.known, hinv.zero, hinv.opened, ?_⟩
    intro k s hs hk
    have := hinv.below k s hs hk
    omega

/-- One end has a new stream, and has told the other end as far as it can. -/
theorem Inv.opensStream (hinv : Inv h n p) {r : TunnelRecord} {id : U8} {profile : StreamProfile}
    {t t₁ : GtsTunnel} (hr : (p d).record (h d) = .ok r)
    (halloc : r.tunnel.allocStreamId = .ok (id, t)) (hvalid : profile.validate = .ok profile)
    (hadd : t.addStream id profile true ((p d).openCredit profile) 0#8 = .ok t₁)
    (htunnels : e'.tunnels = (p d).tunnels.insert (h d)
      { r with tunnel := { t₁ with streams := t₁.streams.modify id GtsStream.markOpening } })
    (hlink : e'.linkUp = (p d).linkUp)
    (hout : e'.outbox = (p d).outbox ∨ ∃ sizeClass, e'.outbox = (p d).outbox ++
      [(r.peer, sizeClass, .streamOpen (h !d) id profile ((p d).openCredit profile))]) :
  Inv h (Function.update n d (n d + 1)) (Function.update p d e')
  := by
  have hr' := record_eq_ok hr
  obtain ⟨-, hown, hid, -, hsame, hnew, htunnel⟩ := ((hinv.ends d).only (h d) r hr').2.alloc halloc
  obtain ⟨-, -, s, hprofile, hlocal, ht₁⟩ := GtsTunnel.addStream_eq_ok hadd
  generalize ht₂ : ({ t₁ with streams := t₁.streams.modify id GtsStream.markOpening } : GtsTunnel) = t₂
    at htunnels
  subst ht₁
  have hstreams : ∀ i : U8, t₂.streams[i]? = if id = i then some s.markOpening else t.streams[i]? := by
    intro i
    rw [← ht₂]
    dsimp only
    rw [TreeMap.getElem?_modify, TreeMap.getElem?_insert]
    split
    · rfl
    · rfl
  have htunnel' : TunnelInv d (h !d) (n d + 1) t₂ := by
    refine htunnel.insert (Nat.le_refl _) ?_ ?_ ?_ ?_ hstreams (iff_of_true hlocal hown)
      (fun _ => by omega)
    · rw [← ht₂]
    · rw [← ht₂]
    · rw [← ht₂]
    · rw [← ht₂]
      exact htunnel.next
  rw [hsame] at hnew hstreams
  have hadds := addsStream_insert hr' htunnels hstreams hnew
  rw [GtsStream.markOpening, hprofile] at hadds
  have hnewStream : ∀ profile', ¬ (p d).HasStream (h d) id profile' := by
    rintro profile' ⟨r', s', hget, hs', -⟩
    rw [hr'] at hget
    cases hget
    rw [hnew] at hs'
    cases hs'
  have hend := (hinv.ends d).insert htunnels htunnel' hlink
  obtain hout | ⟨sizeClass, hout⟩ := hout
  · refine hinv.opens hown hvalid hnewStream hadds hend (.inl ?_) ?_
    · rw [Endpoint.opening, hout]
      rfl
    · rw [hout]
      exact hinv.addressed d
  · refine hinv.opens hown hvalid hnewStream hadds hend (.inr ?_) ?_
    · rw [Endpoint.opening, hout, List.filterMap_append]
      rfl
    · rw [hout, List.forall_mem_append, List.forall_mem_singleton]
      refine ⟨hinv.addressed d, rfl, ?_, ?_⟩
      · rintro rfl
        have : 0 < firstId d := by cases d <;> decide
        simp only [BitVec.reduceToNat] at hid
        omega
      · intro hunreliable
        rw [openCredit, hunreliable]
        rfl

/-- An application opens a stream. -/
theorem Inv.openStream (hinv : Inv h n p) (d : Bool) (k : U32) (profile : StreamProfile) :
  (∀ id, (p d).newStreamId k profile = some id → (parityClass d)[n d]? = some id) ∧
    Inv h (Function.update n d (n d + ((p d).newStreamId k profile).toList.length))
      (Function.update p d ((p d).openStream k profile).2)
  := by
  obtain ⟨hsame, hnone⟩ | ⟨hvalid, r, id, t, hr, halloc, hid, hadded⟩ := (p d).openStream_cases k profile
  · refine ⟨?_, ?_⟩
    · rw [hnone]
      nofun
    · rw [hsame, hnone, Option.toList_none, List.length_nil, Nat.add_zero, Function.update_eq_self,
        Function.update_eq_self]
      exact hinv
  obtain ⟨rfl, htunnel⟩ := (hinv.ends d).only k r (record_eq_ok hr)
  obtain ⟨hclass, -, -, hstate, -, hnew, htunnel'⟩ := htunnel.alloc halloc
  rw [hid]
  refine ⟨fun id' hid' => Option.some_inj.mp hid' ▸ hclass, ?_⟩
  obtain ⟨⟨err, herr⟩, -⟩ | ⟨t₁, hadd, hopened⟩ := hadded
  · have hnot : id ∉ t.streams := by
      rw [Std.ExtTreeMap.mem_iff_isSome_getElem?, hnew]
      nofun
    obtain ⟨t₁, hadd⟩ := GtsTunnel.exists_addStream hstate hnot hvalid true ((p d).openCredit profile) 0#8
    rw [herr] at hadd
    cases hadd
  obtain hopened | ⟨remote, hremote, hopened⟩ := hopened
  · rw [hopened]
    exact hinv.opensStream hr halloc hvalid hadd rfl rfl (.inl rfl)
  · have hremote' : remote = h !d := by
      obtain ⟨-, -, s, -, -, rfl⟩ := GtsTunnel.addStream_eq_ok hadd
      exact htunnel'.remote _ (GtsTunnel.remoteId_eq_ok hremote)
    obtain ⟨hlink, -, hsent⟩ := outbox_sendGts
      ((p d).setTunnel (h d) r { t₁ with streams := t₁.streams.modify id GtsStream.markOpening })
      r.peer (.streamOpen remote id profile ((p d).openCredit profile)) none
    rw [hopened]
    refine hinv.opensStream hr halloc hvalid hadd (tunnels_sendGts _ _ _ _) hlink ?_
    rw [← hremote']
    exact hsent

/-- A tunnel is asked for. -/
theorem Inv.connect (hinv : Inv h n p) (src : GdpAddress) {remoteId remoteReset : U32}
    {profile : StreamProfile} {credit : U8} {css : ServiceSelector} (hd : d = true)
    (hremote : remoteId = h d) (hx : Opens h p d (0#8, profile))
    (honce : 0#8 ∉ (p d).opening.map Prod.fst) :
  Inv h n (Function.update p (!d)
    ((p !d).handleConnect src remoteId remoteReset profile credit css).2)
  := by
  have hnone : (p !d).tunnels[h !d]? = none := by
    cases hr : (p !d).tunnels[h !d]? with
    | none => rfl
    | some r =>
      obtain ⟨s, hs⟩ := ((hinv.ends !d).only _ r hr).2.zero
      exact absurd ⟨r, s, hr, hs, rfl⟩ (hx.there s.profile)
  obtain ⟨hn, hnext⟩ := (hinv.ends !d).empty hnone
  cases hlistens : (p !d).listeners.lookup css with
  | none =>
    rw [handleConnect, hlistens, Function.update_eq_self]
    exact hinv
  | some listener =>
    obtain ⟨localCredit, t, ht, htunnels, hlink, hout⟩ :=
      (p !d).tunnels_handleConnect_of_validate src remoteId remoteReset credit hlistens hx.valid
    rw [hnext] at ht htunnels
    obtain ⟨s, hs, ht⟩ := bind_eq_ok.mp ht
    obtain ⟨hprofile, hopened⟩ := GtsStream.fields_of_new hs
    cases ht
    have hadds := addsStream_new hnone htunnels rfl
    rw [hprofile] at hadds
    refine hinv.accepts hx honce hadds ?_ ?_ ?_
    · have hend := hinv.ends !d
      rw [Bool.not_not] at hend
      refine hend.insert htunnels ?_ hlink
      rw [hn]
      refine tunnelInv_new ?_ ?_ ?_ (fun _ => rfl) rfl ?_
      · rw [hd]
        rfl
      · rw [hd]
        rfl
      · rintro _ ⟨⟩
        exact hremote
      · rw [hopened]
        exact iff_of_false Bool.false_ne_true (not_own_not hx.own)
    · obtain hout | ⟨sizeClass, hout⟩ := hout
      · rw [Endpoint.opening, hout]
        rfl
      · rw [Endpoint.opening, hout, List.filterMap_append]
        exact List.append_nil _
    · have haddressed := hinv.addressed !d
      rw [Bool.not_not] at haddressed
      obtain hout | ⟨sizeClass, hout⟩ := hout
      · rw [hout]
        exact haddressed
      · rw [hout, List.forall_mem_append, List.forall_mem_singleton]
        exact ⟨haddressed, hnext⟩

/-- A request for a tunnel is answered. -/
theorem Inv.connectAck (hinv : Inv h n p) (tunnelId : U32) {remoteId remoteReset : U32}
    {status credit : U8} (hremote : remoteId = h d) :
  Inv h n (Function.update p (!d)
    ((p !d).handleConnectAck tunnelId remoteId remoteReset status credit).2)
  := by
  have hreplaces := (p !d).replaces_handleConnectAck tunnelId remoteId remoteReset status credit
  obtain htunnels | ⟨r, t, hr, ⟨-, ht⟩, htunnels⟩ := hreplaces.tunnels
  · exact hinv.quiet (.of_tunnels htunnels) hreplaces.sends
  have hend := hinv.ends !d
  rw [Bool.not_not] at hend
  obtain ⟨rfl, htunnel⟩ := hend.only tunnelId r hr
  obtain ⟨-, hcontinues⟩ := GtsTunnel.continues_establishInitiator ht
  have hestablished : TunnelInv (!d) (h d) (n !d) { r.tunnel with
      remoteReceiveId := some remoteId, remoteResetId := some remoteReset, state := .established } := by
    refine ⟨htunnel.role, htunnel.next, ?_, fun _ => rfl, htunnel.zero, htunnel.opened, htunnel.below⟩
    rintro _ ⟨⟩
    exact hremote
  have hend' : EndInv (!d) (h !d) (h !!d) (n !d)
      ((p !d).handleConnectAck (h !d) remoteId remoteReset status credit).2 := by
    rw [Bool.not_not]
    exact hend.insert htunnels (hestablished.keeps hcontinues.keeps) hreplaces.sends.linkUp
  refine hinv.sameStreams ?_ hend' (hreplaces.sends.opening_eq ▸ List.Sublist.refl _)
    (hreplaces.sends.addressed (hinv.addressed !d))
  intro k
  rw [htunnels, TreeMap.getElem?_insert]
  split
  · next hk =>
    rw [← hk, hr]
    exact .some hcontinues.streams
  · exact (Keeps.refl (p !d)).sameStreams k

/-- An end is told of a stream that the other end has opened. -/
theorem Inv.streamOpen (hinv : Inv h n p) (tunnelId : U32) {id : U8} {profile : StreamProfile}
    {credit : U8} (hx : Opens h p d (id, profile)) (honce : id ∉ (p d).opening.map Prod.fst) :
  Inv h n (Function.update p (!d) ((p !d).handleStreamOpen tunnelId id profile credit).2)
  := by
  have hreplaces := (p !d).replaces_handleStreamOpen tunnelId id profile credit
  obtain htunnels | ⟨r, t, hr, ⟨-, localCredit, hadd⟩, htunnels⟩ := hreplaces.tunnels
  · exact hinv.quiet (.of_tunnels htunnels) hreplaces.sends
  have hend := hinv.ends !d
  have haddressed := hreplaces.sends.addressed (hinv.addressed !d)
  rw [Bool.not_not] at hend haddressed
  obtain ⟨rfl, htunnel⟩ := hend.only tunnelId r hr
  obtain ⟨-, hid, s, hprofile, hopened, rfl⟩ := GtsTunnel.addStream_eq_ok hadd
  have hnot : ¬ Own (!d) id := not_own_not hx.own
  have hstreams : ∀ k : U8, (r.tunnel.streams.insert id s)[k]? = if id = k then some s
      else r.tunnel.streams[k]? :=
    fun k => TreeMap.getElem?_insert _ _ _ _
  have htunnel' : TunnelInv (!d) (h d) (n !d) { r.tunnel with
      streams := r.tunnel.streams.insert id s } := by
    refine htunnel.insert (Nat.le_refl _) rfl rfl rfl htunnel.next hstreams ?_ (fun hown => ?_)
    · rw [hopened]
      exact iff_of_false Bool.false_ne_true hnot
    · exact absurd hown hnot
  have hadds := addsStream_insert hr htunnels hstreams (Std.ExtTreeMap.getElem?_eq_none hid)
  rw [hprofile] at hadds
  exact hinv.accepts hx honce hadds (hend.insert htunnels htunnel' hreplaces.sends.linkUp)
    hreplaces.sends.opening_eq haddressed

/-- What one end has sent reaches the other. -/
theorem Inv.receives (hinv : Inv h n p) (src : GdpAddress) (sizeClass : SizeClass) {packet : GtsPacket}
    (haddressed : Addressed d (h d) (h !d) packet)
    (hopens : ∀ x, packet.opens = some x → Opens h p d x ∧ x.1 ∉ (p d).opening.map Prod.fst) :
  Inv h n (Function.update p (!d) ((p !d).step (.receive src sizeClass packet)))
  := by
  cases packet with
  | connect remoteId remoteReset profile credit css =>
    obtain ⟨hx, honce⟩ := hopens _ rfl
    exact hinv.connect src haddressed.1 haddressed.2 hx honce
  | connectAck tunnelId remoteId remoteReset status credit => exact hinv.connectAck tunnelId haddressed
  | streamOpen tunnelId id profile credit =>
    obtain ⟨hx, honce⟩ := hopens _ rfl
    exact hinv.streamOpen tunnelId hx honce
  | _ => exact hinv.quiet (keeps_step _ trivial) (sends_step _ trivial)

/-- A call other than opening a stream opens nothing. -/
theorem quiet_of_isCall {a : Action} (ha : a.IsCall = true) (hopen : ∀ k profile, a ≠ .openStream k profile) :
  a.Quiet ∧ ∀ c, p.allocates c (.call d a) = none
  := by
  cases a with
  | openStream k profile => exact absurd rfl (hopen k profile)
  | connect => cases ha
  | receive => cases ha
  | linkChanged => cases ha
  | assigned => cases ha
  | transmitted => cases ha
  | _ => exact ⟨trivial, fun _ => rfl⟩

/-- The invariant is kept, and the numbers that are given out are the next ones of their class. -/
theorem Inv.step (hinv : Inv h n p) (a : Pair.Act) :
  (∀ c id, p.allocates c a = some id → (parityClass c)[n c]? = some id) ∧
    Inv h (fun c => n c + (p.allocates c a).toList.length) (p.step a)
  := by
  have hquiet : ∀ {p' : Pair}, (∀ c, p.allocates c a = none) → Inv h n p' →
      (∀ c id, p.allocates c a = some id → (parityClass c)[n c]? = some id) ∧
        Inv h (fun c => n c + (p.allocates c a).toList.length) p' := by
    intro p' hnone hinv'
    refine ⟨?_, ?_⟩
    · intro c id hid
      rw [hnone] at hid
      cases hid
    · simp only [hnone, Option.toList_none, List.length_nil, Nat.add_zero]
      exact hinv'
  cases a with
  | call d a =>
    rw [Pair.step]
    split
    · next ha =>
      by_cases hopen : ∃ k profile, a = .openStream k profile
      · obtain ⟨k, profile, rfl⟩ := hopen
        obtain ⟨hclass, hinv'⟩ := hinv.openStream d k profile
        have hallocates : ∀ c, p.allocates c (.call d (.openStream k profile))
            = if d = c then (p c).newStreamId k profile else none := fun _ => rfl
        refine ⟨?_, ?_⟩
        · intro c id hid
          rw [hallocates] at hid
          split at hid
          · next hc =>
            subst hc
            exact hclass id hid
          · cases hid
        · have hn : (fun c => n c + (p.allocates c (.call d (.openStream k profile))).toList.length)
              = Function.update n d (n d + ((p d).newStreamId k profile).toList.length) := by
            funext c
            rw [hallocates]
            obtain rfl | hc := eq_or_ne c d
            · rw [Function.update_self, if_pos rfl]
            · rw [Function.update_of_ne hc, if_neg hc.symm]
              rfl
          rw [hn]
          exact hinv'
      · have hopen' : ∀ k profile, a ≠ .openStream k profile := fun k profile heq =>
          hopen ⟨k, profile, heq⟩
        obtain ⟨ha', hnone⟩ := @quiet_of_isCall p d a ha hopen'
        exact hquiet hnone (hinv.quiet (keeps_step _ ha') (sends_step _ ha'))
    · next ha =>
      refine hquiet ?_ hinv
      intro c
      cases a with
      | openStream => exact absurd rfl ha
      | _ => rfl
  | deliver d =>
    refine hquiet (fun _ => rfl) ?_
    rw [Pair.step]
    split
    · exact hinv
    · next src sizeClass packet rest hout =>
      obtain ⟨hinv', haddressed, hopens⟩ := hinv.delivered hout
      have hp : Function.update p d ((p d).step .transmitted) (!d) = p !d :=
        Function.update_of_ne (Bool.not_ne_self d) ..
      have hreceived := hinv'.receives (p d).primaryAddress sizeClass haddressed hopens
      rw [hp] at hreceived
      exact hreceived

/-- The invariant holds after every run, and the numbers that are given out during the run are the next
ones of their class. -/
theorem Inv.run (hinv : Inv h n p) (as : List Pair.Act) :
  Inv h (fun c => n c + (Pair.allocated c p as).length) (Machine.run Pair.step p as) ∧
    ∀ c, Pair.allocated c p as <+: (parityClass c).drop (n c)
  := by
  induction as generalizing n p with
  | nil => exact ⟨hinv, fun c => List.nil_prefix⟩
  | cons a as ih =>
    obtain ⟨hclass, hnext⟩ := hinv.step a
    obtain ⟨hrun, hprefix⟩ := ih hnext
    refine ⟨?_, ?_⟩
    · simp only [Pair.allocated, List.length_append, ← Nat.add_assoc]
      exact hrun
    · intro c
      have hc := hprefix c
      rw [Pair.allocated]
      cases hid : p.allocates c a with
      | none =>
        rw [hid] at hc
        exact hc
      | some id =>
        rw [hid] at hc
        rw [List.drop_eq_getElem?_toList_append, hclass c id hid]
        exact List.prefix_append_right_inj _ |>.mpr hc

/-- The ends agree on a stream that both have. -/
theorem Inv.agrees (hinv : Inv h n p) {id : U8} (hown : Own d id) {r r' : TunnelRecord}
    {s s' : GtsStream} (hr : (p d).tunnels[h d]? = some r) (hr' : (p !d).tunnels[h !d]? = some r')
    (hs : r.tunnel.streams[id]? = some s) (hs' : r'.tunnel.streams[id]? = some s') :
  s.profile = s'.profile ∧ s.openedByLocal = true ∧ s'.openedByLocal = false
  := by
  obtain ⟨r₁, s₁, hr₁, hs₁, hprofile⟩ := hinv.agree d id s'.profile hown ⟨r', s', hr', hs', rfl⟩
  rw [hr] at hr₁
  cases hr₁
  rw [hs] at hs₁
  cases hs₁
  have hopened' := ((hinv.ends !d).only _ r' hr').2.opened id s' hs'
  refine ⟨hprofile, (((hinv.ends d).only _ r hr).2.opened id s hs).mpr hown, ?_⟩
  exact Bool.eq_false_iff.mpr (mt hopened'.mp (not_own_not hown))

/-- The numbers of an established tunnel are those of the class that have not been given out, in order,
and then there are no more. -/
theorem TunnelInv.allocStreamId_eq {other : U32} {m : ℕ} {t : GtsTunnel}
    (hinv : TunnelInv d other m t) (hstate : t.state = .established) :
  t.allocStreamId.map Prod.fst = match (parityClass d)[m]? with
    | some id => .ok id
    | none => .error .bufferFull
  := by
  rw [GtsTunnel.allocStreamId, if_neg (not_not.mpr hstate), getElem?_parityClass hinv.next]
  split
  · rfl
  · rfl

/-- The number of a stream that the other end opens is of the other end's kind. -/
theorem remoteStreamIdValid_of_own {id : U8} (hown : Own d id) (hzero : id ≠ 0#8) :
  remoteStreamIdValid (if !d then .initiator else .responder) id = true
  := by
  rw [Own] at hown
  cases d with
  | false => simpa [remoteStreamIdValid, hzero, ← BitVec.toNat_inj] using hown
  | true => simpa [remoteStreamIdValid, hzero, ← BitVec.toNat_inj] using hown

/-- A packet for the link has a size class, and is taken while the link is up. -/
theorem sendGts_streamAck {e : Endpoint} (hlink : e.linkUp = true) (remote : GdpAddress) (tunnelId : U32)
    (id status credit : U8) :
  (e.sendGts remote (.streamAck tunnelId id status credit) none).1 = .ok ()
  := by
  rw [sendGts]
  split
  · next hclass => cases hclass
  · rw [hlink]
    rfl

/-- A stream that an end has been asked to open is opened while its tunnel is established. -/
theorem Inv.accepted (hinv : Inv h n p) {r : TunnelRecord} (hr : (p !d).tunnels[h !d]? = some r)
    (hstate : r.tunnel.state = .established) {remote : GdpAddress} {sizeClass : SizeClass}
    {tunnelId : U32} {id : U8} {profile : StreamProfile} {credit : U8}
    (hsent : (remote, sizeClass, GtsPacket.streamOpen tunnelId id profile credit) ∈ (p d).outbox)
    (src : GdpAddress) :
  ((p !d).handleGts src sizeClass (.streamOpen tunnelId id profile credit)).1 = .ok ()
  := by
  obtain ⟨rfl, hzero, hcredit⟩ := hinv.addressed d _ hsent
  have hx : (id, profile) ∈ (p d).opening := List.mem_filterMap.mpr ⟨_, hsent, rfl⟩
  obtain ⟨hown, hvalid, -, hthere⟩ := hinv.opening d _ hx
  have hend := hinv.ends !d
  have htunnel := (hend.only _ r hr).2
  have hrecord : (p !d).record (h !d) = .ok r := record_of_getElem? hr
  have hnot : id ∉ r.tunnel.streams := by
    intro hmem
    obtain ⟨s, hs⟩ := Option.isSome_iff_exists.mp (Std.ExtTreeMap.mem_iff_isSome_getElem?.mp hmem)
    exact hthere s.profile ⟨r, s, hr, hs, rfl⟩
  obtain ⟨t, ht⟩ := GtsTunnel.exists_addStream hstate hnot hvalid false
    (if !profile.unreliable && profile.direction.openerMaySend then (p !d).gtsReceiveSlots else 0#8)
    credit
  obtain ⟨remoteId, hremote⟩ := Option.isSome_iff_exists.mp (htunnel.known hstate)
  have hremote' : t.remoteId = .ok remoteId := by
    obtain ⟨-, -, s, -, -, rfl⟩ := GtsTunnel.addStream_eq_ok ht
    rw [GtsTunnel.remoteId]
    dsimp only
    rw [hremote]
  rw [handleGts, handleStreamOpen, hrecord]
  dsimp only
  rw [htunnel.role, remoteStreamIdValid_of_own hown hzero, if_neg (by decide),
    if_neg (fun hc => hc.2 (hcredit hc.1)), ht]
  dsimp only
  rw [hremote']
  exact @sendGts_streamAck ((p !d).setTunnel (h !d) r t) hend.linkUp _ _ _ _ _

end Inv

/-! ### Two endpoints joined by one tunnel -/

/-- What an endpoint that has asked for a tunnel has sent. -/
theorem connect_eq_ok {e e' : Endpoint} {remote : GdpAddress} {css : ServiceSelector}
    {profile : StreamProfile} {k : U32} (hok : e.connect remote css profile = (.ok k, e')) :
  profile.validate = .ok profile ∧ e'.linkUp = true ∧
    (∃ t, GtsTunnel.initiator k e.nextReset css profile (e.localGtsCredit profile true) = .ok t ∧
      e'.tunnels = e.tunnels.insert k ⟨remote, t⟩) ∧
    ∃ sizeClass, e'.outbox = e.outbox ++
      [(remote, sizeClass, .connect k e.nextReset profile (e.localGtsCredit profile true) css)]
  := by
  rw [connect] at hok
  split at hok
  · cases hok
  next hvalid =>
  dsimp only [allocTunnel] at hok
  split at hok
  · cases hok
  next t ht =>
  rw [Endpoint.sendGts] at hok
  split at hok
  · cases hok
  next heq =>
  cases hok
  split at heq
  · cases heq
  split at heq
  · cases heq
  next hlink =>
  cases heq
  rw [StreamProfile.validate_eq_ok hvalid] at hvalid
  exact ⟨hvalid, by simpa using hlink, ⟨t, ht, rfl⟩, _, rfl⟩

section

variable {a b e : Endpoint} {remote : GdpAddress} {css : ServiceSelector} {profile : StreamProfile}
  {k : U32}

/-- The endpoint `a` has asked for a tunnel, and the endpoint `b` has not heard of it yet. -/
theorem inv_connect (htunnels : a.tunnels = ∅) (houtbox : a.outbox = [])
    (hconnect : a.connect remote css profile = (.ok k, e)) (htunnels' : b.tunnels = ∅)
    (houtbox' : b.outbox = []) (hlink' : b.linkUp = true) :
  Inv (fun d => if d then k else b.nextTunnel) (fun _ => 0) (Pair.of e b)
  := by
  obtain ⟨hvalid, hlink, ⟨t, ht, htunnels₁⟩, sizeClass, houtbox₁⟩ := connect_eq_ok hconnect
  rw [houtbox, List.nil_append] at houtbox₁
  obtain ⟨s, hs, ht⟩ := bind_eq_ok.mp ht
  obtain ⟨hprofile, hopened⟩ := GtsStream.fields_of_new hs
  cases ht
  have hnone : ∀ {c : Endpoint}, c.tunnels = ∅ → ∀ i : U32, c.tunnels[i]? = none := by
    intro c hc i
    rw [hc, Std.ExtTreeMap.getElem?_empty]
  have hhas : ∀ {c : Endpoint}, c.tunnels = ∅ → ∀ i id profile', ¬ c.HasStream i id profile' := by
    rintro c hc i id profile' ⟨r, -, hr, -⟩
    rw [hnone hc] at hr
    cases hr
  have hadds := addsStream_new (hnone htunnels k) htunnels₁ rfl
  rw [hprofile] at hadds
  rw [htunnels] at htunnels₁
  have hopening : e.opening = [(0#8, profile)] := by
    rw [opening, houtbox₁]
    rfl
  have hopening' : b.opening = [] := by
    rw [opening, houtbox']
    rfl
  refine ⟨?_, ?_, ?_, ?_, ?_⟩
  · rintro (_ | _)
    · refine ⟨hlink', ?_, fun _ => ⟨rfl, rfl⟩⟩
      intro i r hr
      rw [Pair.of, if_neg (by decide), hnone htunnels'] at hr
      cases hr
    · refine ⟨hlink, ?_, ?_⟩
      · intro i r hr
        rw [Pair.of, if_pos rfl, htunnels₁, TreeMap.getElem?_insert, Std.ExtTreeMap.getElem?_empty] at hr
        split at hr
        · next hi =>
          cases hr
          refine ⟨hi.symm, tunnelInv_new rfl rfl (by simp) (by simp) rfl ?_⟩
          rw [hopened]
          decide
        · cases hr
      · intro hr
        rw [Pair.of, if_pos rfl, htunnels₁, if_pos rfl, TreeMap.getElem?_insert, if_pos rfl] at hr
        cases hr
  · rintro (_ | _) id profile' hown hthere
    · obtain heq | hthere := (hadds id profile').mp hthere
      · cases heq
        exact absurd hown (by decide)
      · exact absurd hthere (hhas htunnels _ _ _)
    · exact absurd hthere (hhas htunnels' _ _ _)
  · rintro (_ | _) x hx
    · rw [Pair.of, if_neg (by decide), hopening'] at hx
      cases hx
    · rw [Pair.of, if_pos rfl, hopening, List.mem_singleton] at hx
      subst hx
      exact ⟨rfl, hvalid, (hadds _ _).mpr (.inl rfl), hhas htunnels' _ _⟩
  · rintro (_ | _)
    · rw [Pair.of, if_neg (by decide), hopening']
      exact .nil
    · rw [Pair.of, if_pos rfl, hopening]
      exact List.nodup_cons.mpr ⟨List.not_mem_nil, .nil⟩
  · rintro (_ | _)
    · rw [Pair.of, if_neg (by decide), houtbox']
      exact List.forall_mem_nil _
    · rw [Pair.of, if_pos rfl, houtbox₁, List.forall_mem_singleton]
      exact ⟨rfl, rfl⟩

/-- Two endpoints are joined by the one tunnel that `a` has asked `b` for, and act as they like.  A
stream that both have, has the same profile at both ends and has been opened by exactly one of them; a
stream that an end has been asked to open is opened while its tunnel is established; and the numbers for
streams that an end opens are those of its class, in order and each of them once. -/
theorem streams_agree (htunnels : a.tunnels = ∅) (houtbox : a.outbox = [])
    (hconnect : a.connect remote css profile = (.ok k, e)) (htunnels' : b.tunnels = ∅)
    (houtbox' : b.outbox = []) (hlink' : b.linkUp = true) (as : List Pair.Act) :
  let p := Machine.run Pair.step (Pair.of e b) as
  let h := fun d => if d then k else b.nextTunnel
  (∀ d i r, (p d).tunnels[i]? = some r → i = h d) ∧
    (∀ r r', (p true).tunnels[h true]? = some r → (p false).tunnels[h false]? = some r' →
      ∀ (id : U8) s s', r.tunnel.streams[id]? = some s → r'.tunnel.streams[id]? = some s' →
        s.profile = s'.profile ∧ s.openedByLocal = !s'.openedByLocal) ∧
    (∀ r r', (p true).tunnels[h true]? = some r → r.tunnel.state = .established →
      (p false).tunnels[h false]? = some r' → r'.tunnel.state = .established →
      ∀ d dst sizeClass tunnelId id profile credit rest,
        (p d).outbox = (dst, sizeClass, .streamOpen tunnelId id profile credit) :: rest →
        ((p !d).handleGts (p d).primaryAddress sizeClass
          (.streamOpen tunnelId id profile credit)).1 = .ok ()) ∧
    ∀ d, Pair.allocated d (Pair.of e b) as <+: parityClass d ∧
      (Pair.allocated d (Pair.of e b) as).Nodup ∧
      ∀ r, (p d).tunnels[h d]? = some r → r.tunnel.state = .established →
        r.tunnel.allocStreamId.map Prod.fst
          = match (parityClass d)[(Pair.allocated d (Pair.of e b) as).length]? with
            | some id => .ok id
            | none => .error .bufferFull
  := by
  intro p h
  obtain ⟨hinv, hallocated⟩ :=
    (inv_connect htunnels houtbox hconnect htunnels' houtbox' hlink').run as
  simp only [Nat.zero_add, List.drop_zero] at hinv hallocated
  refine ⟨fun d i r hr => ((hinv.ends d).only i r hr).1, ?_, ?_, ?_⟩
  · intro r r' hr hr' id s s' hs hs'
    by_cases hown : Own true id
    · obtain ⟨hprofile, hopened, hopened'⟩ := hinv.agrees hown hr hr' hs hs'
      rw [hopened, hopened']
      exact ⟨hprofile, rfl⟩
    · have hown' : Own false id := by
        rw [Own] at hown ⊢
        simpa using hown
      obtain ⟨hprofile, hopened, hopened'⟩ := hinv.agrees hown' hr' hr hs' hs
      rw [hopened, hopened']
      exact ⟨hprofile.symm, rfl⟩
  · intro r r' hr hstate hr' hstate' d dst sizeClass tunnelId id profile credit rest hout
    have hsent : (dst, sizeClass, GtsPacket.streamOpen tunnelId id profile credit) ∈ (p d).outbox := by
      rw [hout]
      exact List.mem_cons_self
    cases d with
    | false => exact @Inv.accepted h _ p false hinv r hr hstate _ _ _ _ _ _ hsent _
    | true => exact @Inv.accepted h _ p true hinv r' hr' hstate' _ _ _ _ _ _ hsent _
  · intro d
    refine ⟨hallocated d, (nodup_parityClass d).sublist (hallocated d).sublist, ?_⟩
    intro r hr hstate
    exact ((hinv.ends d).only _ r hr).2.allocStreamId_eq hstate

/-- Both ends open a stream at the same time, with different profiles, and then both have the streams 0,
1 and 2 and agree on them. -/
theorem streams_agree_crossing :
  let css : ServiceSelector := ⟨List.replicate 16 1#8, rfl⟩
  let reliable : StreamProfile := ⟨false, true, false, false, .bidirectional, .msg128⟩
  let unreliable : StreamProfile := ⟨true, true, true, false, .openerToPeer, .msg256⟩
  let as : List Pair.Act := [.deliver true, .deliver false, .call true (.openStream 1#32 reliable),
    .call false (.openStream 1#32 unreliable), .deliver true, .deliver false]
  ∃ a b e : Endpoint, a.connect ⟨2#64⟩ css reliable = (.ok 1#32, e) ∧
    let p := Machine.run Pair.step (Pair.of e b) as
    ∃ r ∈ (p true).tunnels[1#32]?, ∃ r' ∈ (p false).tunnels[1#32]?,
      r.tunnel.streams.keys = [0#8, 1#8, 2#8] ∧ r'.tunnel.streams.keys = [0#8, 1#8, 2#8] ∧
        ∀ (id : U8) s s', r.tunnel.streams[id]? = some s → r'.tunnel.streams[id]? = some s' →
          s.profile = s'.profile ∧ s.openedByLocal = !s'.openedByLocal
  := by
  intro css reliable unreliable as
  obtain ⟨a, ha⟩ : ∃ a, new ⟨1#64⟩ 4#8 = .ok a := ⟨_, rfl⟩
  obtain ⟨b, hb⟩ : ∃ b, new ⟨2#64⟩ 4#8 = .ok b := ⟨_, rfl⟩
  obtain ⟨e, he⟩ : ∃ e, a.connect ⟨2#64⟩ css reliable = (.ok 1#32, e) := by
    cases ha
    exact ⟨_, rfl⟩
  refine ⟨a, b.listen css ⟨4#8⟩, e, he, ?_⟩
  have hagree := streams_agree (by cases ha; rfl) (by cases ha; rfl) he
    (show (b.listen css ⟨4#8⟩).tunnels = ∅ by cases hb; rfl) (by cases hb; rfl) (by cases hb; rfl) as
  obtain ⟨r, hr, r', hr', hkeys, hkeys'⟩ :
      ∃ r ∈ (Machine.run Pair.step (Pair.of e (b.listen css ⟨4#8⟩)) as true).tunnels[1#32]?,
        ∃ r' ∈ (Machine.run Pair.step (Pair.of e (b.listen css ⟨4#8⟩)) as false).tunnels[1#32]?,
          r.tunnel.streams.keys = [0#8, 1#8, 2#8] ∧ r'.tunnel.streams.keys = [0#8, 1#8, 2#8] := by
    cases ha
    cases hb
    cases he
    decide +kernel
  refine ⟨r, hr, r', hr', hkeys, hkeys', hagree.2.1 r r' hr ?_⟩
  cases hb
  exact hr'

end

end Endpoint

end SmolGnet
