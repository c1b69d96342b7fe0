import SmolGnet.Endpoint.Actions
import SmolGnet.Library.Machine

/-!
# Two endpoints joined by a tunnel

Two endpoints are joined by one tunnel, and what one of them sends reaches the other in order and
without loss.  The applications at both ends open, use, close and reset streams as they like, also at
the same time.

A stream is opened by the end that owns its number: the initiator of the tunnel owns the even ones,
the responder the odd ones.  This module says what each end knows, and what an action of one end
changes of it.
-/

namespace SmolGnet

/-- The stream that the packet opens at the other end.  A tunnel is opened with stream 0. -/
def GtsPacket.opens : GtsPacket → Option (U8 × StreamProfile)
  | .connect _ _ profile _ _ => some (0#8, profile)
  | .streamOpen _ id profile _ => some (id, profile)
  | _ => none

theorem GtsPacket.opens_of_quiet {packet : GtsPacket} (hquiet : packet.Quiet) :
  packet.opens = none
  := by
  cases packet with
  | connect => cases hquiet
  | streamOpen => cases hquiet
  | _ => rfl

namespace Endpoint

/-- The action is a call on a tunnel that is there, or one that concerns no tunnel. -/
def Action.IsCall : Action → Bool
  | .connect .. => false
  | .receive .. => false
  | .linkChanged _ => false
  | .assigned _ => false
  | .transmitted => false
  | _ => true

/-! ### Two endpoints -/

/-- Two endpoints: the one that asks for the tunnel, and the one that is asked. -/
abbrev Pair := Bool → Endpoint

/-- What happens: an application acts, or a packet that one end has sent reaches the other. -/
inductive Pair.Act where
  | call (d : Bool) (a : Action)
  | deliver (d : Bool)
  deriving DecidableEq

/-- The endpoints after an action.  The packets that an end has sent are delivered in order. -/
def Pair.step (p : Pair) : Act → Pair
  | .call d a => if a.IsCall then Function.update p d ((p d).step a) else p
  | .deliver d =>
    match (p d).outbox with
    | [] => p
    | (_, sizeClass, packet) :: _ =>
      Function.update (Function.update p d ((p d).step .transmitted)) (!d)
        ((p !d).step (.receive (p d).primaryAddress sizeClass packet))

/-- The endpoint that asks for the tunnel, and the endpoint that is asked. -/
def Pair.of (a b : Endpoint) : Pair :=
  fun d => if d then a else b

/-- The number that `alloc_stream_id` gives at the end `d`. -/
def Pair.allocates (p : Pair) (d : Bool) : Act → Option U8
  | .call d' (.openStream h profile) => if d' = d then (p d).newStreamId h profile else none
  | _ => none

/-- The numbers that `alloc_stream_id` gives at the end `d` during a run. -/
def Pair.allocated (d : Bool) : Pair → List Act → List U8
  | _, [] => []
  | p, a :: as => (p.allocates d a).toList ++ allocated d (p.step a) as

/-- The end `d` owns the stream number. -/
def Own (d : Bool) (id : U8) : Prop :=
  id.toNat % 2 = if d then 0 else 1

instance (d : Bool) (id : U8) : Decidable (Own d id) :=
  inferInstanceAs (Decidable (_ = _))

/-- The numbers for streams that the end `d` opens: those of its parity from 1 to 253, but stream 0 is
opened with the tunnel. -/
def parityClass (d : Bool) : List U8 :=
  ((List.range 254).filter (fun n => n ≠ 0 ∧ n % 2 = if d then 0 else 1)).map (BitVec.ofNat 8)

/-- The first of these numbers. -/
def firstId (d : Bool) : ℕ :=
  if d then 2 else 1

/-- There are 126 even numbers and 127 odd ones, two apart. -/
theorem parityClass_eq (d : Bool) :
  parityClass d
    = (List.range (if d then 126 else 127)).map (fun n => BitVec.ofNat 8 (firstId d + 2 * n))
  := by
  cases d <;> decide +kernel

theorem nodup_parityClass (d : Bool) :
  (parityClass d).Nodup
  := by
  rw [parityClass_eq, List.nodup_map_iff_inj_on List.nodup_range]
  intro m hm n hn h
  rw [List.mem_range] at hm hn
  replace h := congrArg BitVec.toNat h
  rw [BitVec.toNat_ofNat, BitVec.toNat_ofNat] at h
  cases d with
  | false =>
    simp only [firstId, Bool.false_eq_true, if_false] at h hm hn
    omega
  | true =>
    simp only [firstId, if_true] at h hm hn
    omega

theorem getElem?_parityClass {d : Bool} {n : ℕ} {id : U8} (hid : id.toNat = firstId d + 2 * n) :
  (parityClass d)[n]? = if 253#8 < id then none else some id
  := by
  have hofNat : BitVec.ofNat 8 (firstId d + 2 * n) = id := by
    rw [← hid, BitVec.ofNat_toNat, BitVec.setWidth_eq]
  have hlast : 253#8 < id ↔ ¬ n < if d then 126 else 127 := by
    rw [BitVec.lt_def, hid, firstId]
    have := id.isLt
    cases d with
    | false => simp; omega
    | true => simp; omega
  rw [parityClass_eq, List.getElem?_map]
  by_cases hlt : 253#8 < id
  · rw [if_pos hlt, List.getElem?_eq_none, Option.map_none]
    rw [List.length_range]
    exact Nat.not_lt.mp (hlast.mp hlt)
  · rw [if_neg hlt, List.getElem?_range (not_not.mp (mt hlast.mpr hlt)), Option.map_some, hofNat]

/-! ### What the ends know -/

/-- The endpoint has a stream with the given number and profile. -/
def HasStream (e : Endpoint) (h : U32) (id : U8) (profile : StreamProfile) : Prop :=
  ∃ r s, e.tunnels[h]? = some r ∧ r.tunnel.streams[id]? = some s ∧ s.profile = profile

/-- The streams that are opened by what the endpoint has sent. -/
def opening (e : Endpoint) : List (U8 × StreamProfile) :=
  e.outbox.filterMap (fun x => x.2.2.opens)

/-- What the end `d` of a tunnel is, after it has given `n` numbers to streams.  `other` is the number
of the tunnel at the other end. -/
structure TunnelInv (d : Bool) (other : U32) (n : ℕ) (t : GtsTunnel) : Prop where
  role : t.role = if d then .initiator else .responder
  next : t.nextStreamId.toNat = firstId d + 2 * n
  remote : ∀ x, t.remoteReceiveId = some x → x = other
  known : t.state = .established → t.remoteReceiveId.isSome
  zero : ∃ s, t.streams[0#8]? = some s
  opened : ∀ (id : U8) s, t.streams[id]? = some s → (s.openedByLocal = true ↔ Own d id)
  below : ∀ (id : U8) s, t.streams[id]? = some s → Own d id → id.toNat < firstId d + 2 * n

/-- An endpoint with no tunnel other than `h`. -/
structure EndInv (d : Bool) (h other : U32) (n : ℕ) (e : Endpoint) : Prop where
  linkUp : e.linkUp = true
  only : ∀ (k : U32) r, e.tunnels[k]? = some r → k = h ∧ TunnelInv d other n r.tunnel
  empty : e.tunnels[h]? = none → n = 0 ∧ e.nextTunnel = h

/-- A packet from the end `d`, whose number for the tunnel is `own`, to the end whose number is
`other`. -/
def Addressed (d : Bool) (own other : U32) : GtsPacket → Prop
  | .connect id .. => d = true ∧ id = own
  | .connectAck _ id .. => id = own
  | .streamOpen id streamId profile credit =>
    id = other ∧ streamId ≠ 0#8 ∧ (profile.unreliable = true → credit = 0#8)
  | _ => True

/-- The end `d` opens a stream that it has and the other end does not have. -/
structure Opens (h : Bool → U32) (p : Pair) (d : Bool) (x : U8 × StreamProfile) : Prop where
  own : Own d x.1
  valid : x.2.validate = .ok x.2
  here : (p d).HasStream (h d) x.1 x.2
  there : ∀ profile, ¬ (p !d).HasStream (h !d) x.1 profile

/-- What holds of two endpoints with the tunnel numbers `h`, which have given `n` numbers to streams. -/
structure Inv (h : Bool → U32) (n : Bool → ℕ) (p : Pair) : Prop where
  ends : ∀ d, EndInv d (h d) (h !d) (n d) (p d)
  agree : ∀ d id profile, Own d id → (p !d).HasStream (h !d) id profile →
    (p d).HasStream (h d) id profile
  opening : ∀ d, ∀ x ∈ (p d).opening, Opens h p d x
  once : ∀ d, ((p d).opening.map Prod.fst).Nodup
  addressed : ∀ d, ∀ x ∈ (p d).outbox, Addressed d (h d) (h !d) x.2.2

/-! ### A tunnel is kept -/

/-- The tunnels of the endpoint are kept. -/
def Keeps (e e' : Endpoint) : Prop :=
  ∀ k : U32, Option.Rel (fun r r' => r.tunnel.Keeps r'.tunnel) e.tunnels[k]? e'.tunnels[k]?

section Keeps

variable {d : Bool} {h other : U32} {n : ℕ} {e e' : Endpoint} {t t' : GtsTunnel}

theorem Keeps.refl (e : Endpoint) :
  e.Keeps e
  := by
  intro k
  cases e.tunnels[k]? with
  | none => exact .none
  | some r => exact .some (GtsTunnel.Continues.refl r.tunnel).keeps

theorem Keeps.of_tunnels (htunnels : e'.tunnels = e.tunnels) :
  e.Keeps e'
  := by
  intro k
  rw [htunnels]
  exact Keeps.refl e k

/-- An end knows of a tunnel that is kept what it knew before. -/
theorem TunnelInv.keeps (hinv : TunnelInv d other n t) (hkeeps : t.Keeps t') :
  TunnelInv d other n t'
  := by
  refine ⟨?_, ?_, ?_, ?_, ?_, ?_, ?_⟩
  · rw [hkeeps.role]
    exact hinv.role
  · rw [hkeeps.nextStreamId]
    exact hinv.next
  · rw [hkeeps.remoteReceiveId]
    exact hinv.remote
  · rw [hkeeps.remoteReceiveId]
    exact fun hstate => hinv.known (hkeeps.established hstate)
  · obtain ⟨s, hs⟩ := hinv.zero
    obtain ⟨s', hs', -⟩ := TreeMap.exists_of_rel_left (hs ▸ hkeeps.streams 0#8)
    exact ⟨s', hs'⟩
  · intro id s' hs'
    obtain ⟨s, hs, hcontinues⟩ := TreeMap.exists_of_rel_right (hs' ▸ hkeeps.streams id)
    rw [hcontinues.openedByLocal]
    exact hinv.opened id s hs
  · intro id s' hs'
    obtain ⟨s, hs, -⟩ := TreeMap.exists_of_rel_right (hs' ▸ hkeeps.streams id)
    exact hinv.below id s hs

theorem EndInv.keeps (hinv : EndInv d h other n e) (hkeeps : e.Keeps e')
    (hlink : e'.linkUp = e.linkUp) (hnext : e'.nextTunnel = e.nextTunnel) :
  EndInv d h other n e'
  := by
  refine ⟨hlink.trans hinv.linkUp, ?_, ?_⟩
  · intro k r' hr'
    obtain ⟨r, hr, ht⟩ := TreeMap.exists_of_rel_right (hr' ▸ hkeeps k)
    obtain ⟨hk, htunnel⟩ := hinv.only k r hr
    exact ⟨hk, htunnel.keeps ht⟩
  · intro hnone
    rw [hnext]
    exact hinv.empty (TreeMap.eq_none_of_rel (hnone ▸ hkeeps h))

/-- The streams of the endpoint are kept. -/
def SameStreams (e e' : Endpoint) : Prop :=
  ∀ k : U32, Option.Rel
    (fun r r' => ∀ id : U8, Option.Rel GtsStream.Continues r.tunnel.streams[id]? r'.tunnel.streams[id]?)
    e.tunnels[k]? e'.tunnels[k]?

theorem Keeps.sameStreams (hkeeps : e.Keeps e') :
  e.SameStreams e'
  := by
  intro k
  have hk := hkeeps k
  generalize e.tunnels[k]? = x at hk ⊢
  generalize e'.tunnels[k]? = y at hk ⊢
  cases hk with
  | none => exact .none
  | some h => exact .some h.streams

/-- Streams that are kept have the profiles that they had. -/
theorem SameStreams.hasStream_iff (hsame : e.SameStreams e') {k : U32} {id : U8}
    {profile : StreamProfile} :
  e'.HasStream k id profile ↔ e.HasStream k id profile
  := by
  constructor
  · rintro ⟨r', s', hr', hs', rfl⟩
    obtain ⟨r, hr, ht⟩ := TreeMap.exists_of_rel_right (hr' ▸ hsame k)
    obtain ⟨s, hs, hcontinues⟩ := TreeMap.exists_of_rel_right (hs' ▸ ht id)
    exact ⟨r, s, hr, hs, hcontinues.profile.symm⟩
  · rintro ⟨r, s, hr, hs, rfl⟩
    obtain ⟨r', hr', ht⟩ := TreeMap.exists_of_rel_left (hr ▸ hsame k)
    obtain ⟨s', hs', hcontinues⟩ := TreeMap.exists_of_rel_left (hs ▸ ht id)
    exact ⟨r', s', hr', hs', hcontinues.profile⟩

/-- What opens nothing does not count. -/
theorem SendsQuiet.opening_eq (hsends : e.SendsQuiet e') :
  e'.opening = e.opening
  := by
  obtain ⟨out, hout, hquiet⟩ := hsends.outbox
  have hnone : out.filterMap (fun x => x.2.2.opens) = [] := by
    rw [List.filterMap_eq_nil_iff]
    exact fun x hx => GtsPacket.opens_of_quiet (hquiet x hx)
  rw [opening, opening, hout, List.filterMap_append, hnone, List.append_nil]

theorem addressed_of_quiet {packet : GtsPacket} {own : U32} (hquiet : packet.Quiet) :
  Addressed d own other packet
  := by
  cases packet with
  | connect => cases hquiet
  | connectAck => cases hquiet
  | streamOpen => cases hquiet
  | _ => trivial

theorem SendsQuiet.addressed (hsends : e.SendsQuiet e') {own : U32}
    (hinv : ∀ x ∈ e.outbox, Addressed d own other x.2.2) :
  ∀ x ∈ e'.outbox, Addressed d own other x.2.2
  := by
  obtain ⟨out, hout, hquiet⟩ := hsends.outbox
  rw [hout, List.forall_mem_append]
  exact ⟨hinv, fun x hx => addressed_of_quiet (hquiet x hx)⟩

end Keeps

/-- The action opens neither a tunnel nor a stream, and does not concern the link. -/
def Action.Quiet : Action → Prop
  | .connect .. => False
  | .openStream .. => False
  | .receive _ _ packet => packet.Quiet
  | .linkChanged _ => False
  | .transmitted => False
  | _ => True

section Quiet

variable {e : Endpoint} {a : Action}

/-- The tunnels are kept when nothing is opened. -/
theorem keeps_step (e : Endpoint) (ha : a.Quiet) :
  e.Keeps (e.step a)
  := by
  intro k
  have heffect := e.step_effect a k
  generalize e.tunnels[k]? = x at heffect ⊢
  generalize (e.step a).tunnels[k]? = y at heffect ⊢
  cases heffect with
  | unchanged =>
    cases x with
    | none => exact .none
    | some r => exact .some (GtsTunnel.Continues.refl r.tunnel).keeps
  | continues _ ht => exact .some ht.keeps
  | connects => cases ha
  | accepts => cases ha
  | establishes => cases ha
  | opens => cases ha
  | opened => cases ha
  | closing => exact .some (GtsTunnel.keeps_state _ (by decide))
  | closed => exact .some (GtsTunnel.keeps_state _ (by decide))
  | resets => exact .some (GtsTunnel.keeps_reset _)
  | reset => exact .some (GtsTunnel.keeps_reset _)

theorem sends_handleGts (e : Endpoint) (src : GdpAddress) (sizeClass : SizeClass) {packet : GtsPacket}
    (hquiet : packet.Quiet) :
  e.SendsQuiet (e.handleGts src sizeClass packet).2
  := by
  cases packet with
  | connect => cases hquiet
  | connectAck => cases hquiet
  | streamOpen => cases hquiet
  | streamAck h id status credit => exact (e.replaces_handleStreamAck h id status credit).sends
  | data h id => exact (e.replaces_handleData h sizeClass id _).sends
  | ack h id base bitmap credit => exact (e.replaces_handleAck h sizeClass id base bitmap credit).sends
  | datagram h id => exact (e.replaces_handleDatagram h sizeClass id _).sends
  | streamClose h id finalSequence ack =>
    exact (e.replaces_handleStreamClose h sizeClass id finalSequence ack).sends
  | tunnelClose h ack => exact (e.replaces_handleTunnelClose h ack).sends
  | reset h resetId => exact (e.replaces_handleReset h resetId).sends
  | streamReset h id reason ack => exact (e.replaces_handleStreamReset h id reason ack).sends

/-- What is sent opens nothing when nothing is opened. -/
theorem sends_step (e : Endpoint) (ha : a.Quiet) :
  e.SendsQuiet (e.step a)
  := by
  have hsame : ∀ {e' : Endpoint}, e'.outbox = e.outbox → e'.linkUp = e.linkUp →
      e'.nextTunnel = e.nextTunnel → e.SendsQuiet e' := by
    intro e' hout hlink hnext
    refine ⟨⟨[], ?_, List.forall_mem_nil _⟩, hlink, hnext⟩
    rw [hout, List.append_nil]
  cases a with
  | listen => exact hsame rfl rfl rfl
  | accept =>
    rw [step, accept]
    split
    · exact .refl e
    · exact hsame rfl rfl rfl
  | connect => cases ha
  | openStream => cases ha
  | send h id data now => exact (e.replaces_sendInner h id data false now).sends
  | sendEnd h id data now => exact (e.replaces_sendInner h id data true now).sends
  | recv h id => exact (e.replaces_recv h id).sends
  | closeStream h id => exact (e.replaces_closeStream h id).sends
  | resetStream h id reason => exact (e.replaces_resetStream h id reason).sends
  | closeTunnel h => exact (e.replaces_closeTunnel h).sends
  | resetTunnel h reason => exact (e.replaces_resetTunnel h reason).sends
  | tick now => exact e.sends_tick now
  | receive src sizeClass packet => exact e.sends_handleGts src sizeClass ha
  | linkChanged => cases ha
  | assigned => exact hsame rfl rfl rfl
  | transmitted => cases ha

end Quiet

/-! ### A stream is added -/

/-- The endpoint has the streams that it had, and one more. -/
def AddsStream (e e' : Endpoint) (k : U32) (x : U8 × StreamProfile) : Prop :=
  ∀ id profile, e'.HasStream k id profile ↔ (id, profile) = x ∨ e.HasStream k id profile

section AddsStream

variable {d : Bool} {h other : U32} {n m : ℕ} {e e' : Endpoint} {t t' : GtsTunnel} {id : U8}
  {s : GtsStream}

/-- A tunnel begins with stream 0. -/
theorem tunnelInv_new (hrole : t.role = if d then .initiator else .responder)
    (hnext : t.nextStreamId.toNat = firstId d) (hremote : ∀ x, t.remoteReceiveId = some x → x = other)
    (hknown : t.state = .established → t.remoteReceiveId.isSome)
    (hstreams : t.streams = (∅ : BTreeMap U8 GtsStream).insert 0#8 s)
    (hopened : s.openedByLocal = true ↔ Own d 0#8) :
  TunnelInv d other 0 t
  := by
  have hs : ∀ k : U8, t.streams[k]? = if 0#8 = k then some s else none := by
    intro k
    rw [hstreams, TreeMap.getElem?_insert, Std.ExtTreeMap.getElem?_empty]
  refine ⟨hrole, hnext, hremote, hknown, ⟨s, by rw [hs, if_pos rfl]⟩, ?_, ?_⟩
  · intro k s' hs'
    rw [hs] at hs'
    split at hs'
    · next hk =>
      cases hs'
      rw [← hk]
      exact hopened
    · cases hs'
  · intro k s' hs' _
    rw [hs] at hs'
    split at hs'
    · next hk =>
      have : 0 < firstId d := by cases d <;> decide
      rw [← hk]
      exact this
    · cases hs'

theorem TunnelInv.insert (hinv : TunnelInv d other n t) (hle : n ≤ m) (hrole : t'.role = t.role)
    (hremote : t'.remoteReceiveId = t.remoteReceiveId) (hstate : t'.state = t.state)
    (hnext : t'.nextStreamId.toNat = firstId d + 2 * m)
    (hstreams : ∀ k : U8, t'.streams[k]? = if id = k then some s else t.streams[k]?)
    (hopened : s.openedByLocal = true ↔ Own d id) (hbelow : Own d id → id.toNat < firstId d + 2 * m) :
  TunnelInv d other m t'
  := by
  refine ⟨hrole.trans hinv.role, hnext, ?_, ?_, ?_, ?_, ?_⟩
  · rw [hremote]
    exact hinv.remote
  · rw [hremote, hstate]
    exact hinv.known
  · rw [hstreams]
    split
    · exact ⟨s, rfl⟩
    · exact hinv.zero
  · intro k s' hs'
    rw [hstreams] at hs'
    split at hs'
    · next hk =>
      cases hs'
      rw [← hk]
      exact hopened
    · exact hinv.opened k s' hs'
  · intro k s' hs' hown
    rw [hstreams] at hs'
    split at hs'
    · next hk =>
      rw [← hk] at hown ⊢
      exact hbelow hown
    · have := hinv.below k s' hs' hown
      omega

theorem EndInv.insert (hinv : EndInv d h other n e) {r : TunnelRecord}
    (htunnels : e'.tunnels = e.tunnels.insert h r) (ht : TunnelInv d other m r.tunnel)
    (hlink : e'.linkUp = e.linkUp) :
  EndInv d h other m e'
  := by
  refine ⟨hlink.trans hinv.linkUp, ?_, ?_⟩
  · intro k r' hr'
    rw [htunnels, TreeMap.getElem?_insert] at hr'
    split at hr'
    · next hk =>
      cases hr'
      exact ⟨hk.symm, ht⟩
    · next hk => exact absurd (hinv.only k r' hr').1.symm hk
  · intro hnone
    rw [htunnels, TreeMap.getElem?_insert, if_pos rfl] at hnone
    cases hnone

theorem addsStream_insert {r : TunnelRecord} (hr : e.tunnels[h]? = some r)
    (htunnels : e'.tunnels = e.tunnels.insert h { r with tunnel := t' })
    (hstreams : ∀ k : U8, t'.streams[k]? = if id = k then some s else r.tunnel.streams[k]?)
    (hnone : r.tunnel.streams[id]? = none) :
  e.AddsStream e' h (id, s.profile)
  := by
  intro k profile
  have hr' : e'.tunnels[h]? = some { r with tunnel := t' } := by
    rw [htunnels, TreeMap.getElem?_insert, if_pos rfl]
  constructor
  · rintro ⟨r', s', hget, hs', rfl⟩
    rw [hr'] at hget
    cases hget
    rw [hstreams] at hs'
    split at hs'
    · next hk =>
      cases hs'
      rw [hk]
      exact .inl rfl
    · exact .inr ⟨r, s', hr, hs', rfl⟩
  · rintro (⟨⟨⟩⟩ | ⟨r', s', hget, hs', rfl⟩)
    · refine ⟨_, s, hr', ?_, rfl⟩
      rw [hstreams, if_pos rfl]
    · rw [hr] at hget
      cases hget
      refine ⟨_, s', hr', ?_, rfl⟩
      rw [hstreams, if_neg]
      · exact hs'
      · rintro rfl
        rw [hnone] at hs'
        cases hs'

/-- A tunnel with one stream is added. -/
theorem addsStream_new {r : TunnelRecord} (hnone : e.tunnels[h]? = none)
    (htunnels : e'.tunnels = e.tunnels.insert h r)
    (hstreams : r.tunnel.streams = (∅ : BTreeMap U8 GtsStream).insert id s) :
  e.AddsStream e' h (id, s.profile)
  := by
  intro k profile
  have hr : e'.tunnels[h]? = some r := by
    rw [htunnels, TreeMap.getElem?_insert, if_pos rfl]
  have hs : ∀ i : U8, r.tunnel.streams[i]? = if id = i then some s else none := by
    intro i
    rw [hstreams, TreeMap.getElem?_insert, Std.ExtTreeMap.getElem?_empty]
  constructor
  · rintro ⟨r', s', hget, hs', rfl⟩
    rw [hr] at hget
    cases hget
    rw [hs] at hs'
    split at hs'
    · next hk =>
      cases hs'
      rw [hk]
      exact .inl rfl
    · cases hs'
  · rintro (⟨⟨⟩⟩ | ⟨r', s', hget, -, -⟩)
    · exact ⟨r, s, hr, by rw [hs, if_pos rfl], rfl⟩
    · rw [hnone] at hget
      cases hget

end AddsStream

end Endpoint

end SmolGnet
