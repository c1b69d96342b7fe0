import SmolGnet.Endpoint.Actions
import SmolGnet.Library.Machine

/-!
# How a tunnel ends

A tunnel that is closed or reset is not used any more, and a tunnel that is closing or closed has no
stream that is still alive.  An endpoint keeps to this as long as the application does not close a
tunnel again that has ended, and the acknowledgement of a close arrives only for a tunnel whose streams
are all closed or reset: it is these two steps that an endpoint takes without looking at the state.
-/

namespace SmolGnet

namespace GtsTunnel

variable {t t' : GtsTunnel}

/-- No stream of the tunnel is alive. -/
def AllDead (t : GtsTunnel) : Prop :=
  ∀ (id : U8) (s : GtsStream), t.streams[id]? = some s → s.Dead

theorem hasOpenStream_eq_false_iff :
  Endpoint.hasOpenStream t = false ↔ t.AllDead
  := by
  have hdead : ∀ s : GtsStream, ((s.state ≠ .closed) && (s.state ≠ .reset)) ≠ true ↔ s.Dead := by
    intro s
    rw [GtsStream.Dead]
    cases s.state
    all_goals decide
  rw [Endpoint.hasOpenStream, List.any_eq_false]
  constructor
  · intro hclosed id s hs
    exact (hdead s).mp (hclosed s (TreeMap.mem_values_of_getElem? hs))
  · intro hdeads s hs
    obtain ⟨id, hs⟩ := TreeMap.mem_values_iff.mp hs
    exact (hdead s).mpr (hdeads id s hs)

/-- Streams that are dead stay so. -/
theorem AllDead.continues (h : t.AllDead) (ht : t.Continues t') :
  t'.AllDead
  := by
  intro id s' hs'
  have hrel := ht.streams id
  rw [hs'] at hrel
  cases hs : t.streams[id]? with
  | none =>
    rw [hs] at hrel
    cases hrel
  | some s =>
    rw [hs] at hrel
    cases hrel with
    | some hcontinues => exact hcontinues.dead (h id s hs)

theorem Continues.state_eq (h : t.Continues t') :
  t'.state = t.state
  := by rw [h.rest]

/-- A stream is added only to an established tunnel. -/
theorem state_of_addStream {id : U8} {profile : StreamProfile} {openedByLocal : Bool}
    {localCredit peerCredit : U8}
    (h : t.addStream id profile openedByLocal localCredit peerCredit = .ok t') :
  t.state = .established ∧ t'.state = .established
  := by
  rw [addStream] at h
  split at h
  · cases h
  next hok =>
  obtain ⟨hstate, -⟩ := not_or.mp hok
  obtain ⟨s, -, h⟩ := bind_eq_ok.mp h
  cases h
  exact ⟨not_not.mp hstate, not_not.mp hstate⟩

/-- A number is given out only in an established tunnel. -/
theorem state_of_allocStreamId {id : U8} (h : t.allocStreamId = .ok (id, t')) :
  t.state = .established ∧ t'.state = .established
  := by
  rw [allocStreamId] at h
  split at h
  · cases h
  next hstate =>
  split at h
  · cases h
  cases h
  exact ⟨not_not.mp hstate, not_not.mp hstate⟩

theorem state_of_initiator {id resetId : U32} {css : ServiceSelector} {profile : StreamProfile}
    {credit : U8} (h : initiator id resetId css profile credit = .ok t) :
  t.state = .connecting
  := by
  obtain ⟨s, -, h⟩ := bind_eq_ok.mp h
  cases h
  rfl

end GtsTunnel

namespace Endpoint

variable {e : Endpoint} {h : U32} {a : Action}

/-! ### Tunnels that have ended -/

/-- The tunnel has ended. -/
def Terminal (e : Endpoint) (h : U32) : Prop :=
  ∃ r, e.tunnels[h]? = some r ∧ (r.tunnel.state = .closed ∨ r.tunnel.state = .reset)

instance (e : Endpoint) (h : U32) : Decidable (e.Terminal h) :=
  inferInstanceAs (Decidable (∃ r ∈ e.tunnels[h]?, _))

/-- The tunnel is in use. -/
def Live (e : Endpoint) (h : U32) : Prop :=
  ∃ r, e.tunnels[h]? = some r ∧
    (r.tunnel.state = .connecting ∨ r.tunnel.state = .established ∨ r.tunnel.state = .closing)

instance (e : Endpoint) (h : U32) : Decidable (e.Live h) :=
  inferInstanceAs (Decidable (∃ r ∈ e.tunnels[h]?, _))

/-- The application closes the tunnel when all its streams are dead, or its number is given to a new
tunnel. -/
def Reuses (e : Endpoint) (h : U32) : Action → Prop
  | .closeTunnel k => k = h ∧ ∀ r, e.tunnels[h]? = some r → r.tunnel.AllDead
  | .connect _ _ profile => e.nextTunnel = h ∧ profile.validate = .ok profile
  | .receive _ _ (.connect _ _ profile _ css) =>
    e.nextTunnel = h ∧ (e.listeners.lookup css).isSome ∧ profile.validate = .ok profile
  | _ => False

/-- A tunnel that has ended is not in use again. -/
def Absorbing (e : Endpoint) (h : U32) (as : List Action) : Prop :=
  ∀ before after, before ++ after <+: as → (Machine.run step e before).Terminal h →
    ¬ (Machine.run step e (before ++ after)).Live h

theorem Terminal.not_live (hterminal : e.Terminal h) :
  ¬ e.Live h
  := by
  rintro ⟨r', hr', hlive⟩
  obtain ⟨r, hr, hstate⟩ := hterminal
  rw [hr] at hr'
  cases hr'
  rcases hstate with hstate | hstate
  · rw [hstate] at hlive
    simp at hlive
  · rw [hstate] at hlive
    simp at hlive

/-- A tunnel that has ended stays so unless it is closed again or its number is used again. -/
theorem Terminal.step (hterminal : e.Terminal h) (ha : ¬ e.Reuses h a) :
  (e.step a).Terminal h
  := by
  obtain ⟨r, hr, hstate⟩ := hterminal
  have hended : ∀ state : TunnelState, state ≠ .closed ∧ state ≠ .reset → r.tunnel.state ≠ state := by
    rintro state ⟨hclosed, hreset⟩ rfl
    exact hstate.elim hclosed hreset
  have heffect := e.step_effect a h
  rw [hr] at heffect
  generalize hx : (e.step a).tunnels[h]? = x at heffect
  cases heffect with
  | unchanged => exact ⟨r, hx, hstate⟩
  | continues _ ht => exact ⟨_, hx, by rwa [ht.state_eq]⟩
  | connects hnext ht =>
    obtain ⟨s, hs, -⟩ := GtsTunnel.initiator_eq_ok ht
    exact absurd ⟨hnext, GtsStream.validate_of_new hs⟩ ha
  | accepts hnext hlistens ht =>
    obtain ⟨s, hs, -⟩ := GtsTunnel.responder_eq_ok ht
    exact absurd ⟨hnext, hlistens, GtsStream.validate_of_new hs⟩ ha
  | establishes ht =>
    exact absurd (GtsTunnel.continues_establishInitiator ht).1 (hended _ (by decide))
  | opens halloc =>
    exact absurd (GtsTunnel.state_of_allocStreamId halloc).1 (hended _ (by decide))
  | opened _ hadd => exact absurd (GtsTunnel.state_of_addStream hadd).1 (hended _ (by decide))
  | closing hclosed =>
    refine absurd ⟨rfl, ?_⟩ ha
    intro r' hr'
    rw [hr] at hr'
    cases hr'
    exact GtsTunnel.hasOpenStream_eq_false_iff.mp hclosed
  | closed => exact ⟨_, hx, .inl rfl⟩
  | resets => exact ⟨_, hx, .inr rfl⟩
  | reset => exact ⟨_, hx, .inr rfl⟩

/-- A tunnel that is closed again, or whose number is used again, is in use again. -/
theorem live_of_reuses (hterminal : e.Terminal h) (ha : e.Reuses h a) :
  (e.step a).Live h
  := by
  obtain ⟨r, hr, -⟩ := hterminal
  cases a with
  | closeTunnel k =>
    obtain ⟨rfl, hdead⟩ := ha
    have hclosed := GtsTunnel.hasOpenStream_eq_false_iff.mpr (hdead r hr)
    have hrecord : e.record k = .ok r := record_of_getElem? hr
    have htunnels : (e.closeTunnel k).2.tunnels
        = (e.setTunnel k r { r.tunnel with state := .closing }).tunnels := by
      rw [closeTunnel, hrecord]
      dsimp only
      rw [hclosed, if_neg (by decide)]
      split
      · rfl
      · apply tunnels_sendGts
    refine ⟨{ r with tunnel := { r.tunnel with state := .closing } }, ?_, .inr (.inr rfl)⟩
    rw [Endpoint.step, htunnels, setTunnel, TreeMap.getElem?_insert, if_pos rfl]
  | connect remote css profile =>
    obtain ⟨rfl, hvalid⟩ := ha
    obtain ⟨t, ht, htunnels⟩ := e.tunnels_connect_of_validate remote css hvalid
    refine ⟨⟨remote, t⟩, ?_, .inl (GtsTunnel.state_of_initiator ht)⟩
    rw [Endpoint.step, htunnels, TreeMap.getElem?_insert, if_pos rfl]
  | receive src sizeClass packet =>
    cases packet with
    | connect remoteId remoteReset profile credit css =>
      obtain ⟨rfl, hlistens, hvalid⟩ := ha
      obtain ⟨listener, hlistens⟩ := Option.isSome_iff_exists.mp hlistens
      obtain ⟨localCredit, t, ht, htunnels, -⟩ :=
        e.tunnels_handleConnect_of_validate src remoteId remoteReset credit hlistens hvalid
      obtain ⟨-, -, -, hstate, -⟩ := GtsTunnel.responder_eq_ok ht
      refine ⟨⟨src, t⟩, ?_, .inr (.inl hstate)⟩
      rw [Endpoint.step, handleGts, htunnels, TreeMap.getElem?_insert, if_pos rfl]
    | _ => cases ha
  | _ => cases ha

/-- A tunnel that has ended is never in use again exactly as long as it is not closed again, and its
number is not used again. -/
theorem absorbing_iff (e : Endpoint) (h : U32) (as : List Action) :
  e.Absorbing h as ↔ Machine.Along step (fun e a => e.Terminal h → ¬ e.Reuses h a) e as
  := by
  constructor
  · intro habsorbing
    induction as generalizing e with
    | nil => trivial
    | cons a as ih =>
      constructor
      · intro hterminal hreuses
        exact habsorbing [] [a] (List.prefix_append [a] as) hterminal (live_of_reuses hterminal hreuses)
      · apply ih
        intro before after hprefix
        exact habsorbing (a :: before) after (List.cons_prefix_cons.mpr ⟨rfl, hprefix⟩)
  · rintro halong before after ⟨rest, rfl⟩ hterminal
    rw [List.append_assoc, Machine.along_append, Machine.along_append] at halong
    rw [Machine.run_append]
    apply Terminal.not_live
    apply Machine.invariant_along (P := fun e => e.Terminal h) _ hterminal halong.2.1
    intro e a hterminal ha
    exact hterminal.step (ha hterminal)

/-- A tunnel is established and reset by the application, which then closes it: it is closing. -/
theorem not_absorbing :
  let css : ServiceSelector := ⟨List.replicate 16 1#8, rfl⟩
  let profile : StreamProfile := ⟨false, true, false, false, .bidirectional, .msg128⟩
  let before : List Action :=
    [.connect ⟨2#64⟩ css profile, .receive ⟨2#64⟩ .ctrl32 (.connectAck 1#32 7#32 8#32 0#8 4#8),
      .resetTunnel 1#32 0#8]
  ∃ e, new ⟨1#64⟩ 4#8 = .ok e ∧ ¬ e.Absorbing 1#32 (before ++ [.closeTunnel 1#32])
  := by
  intro css profile before
  refine ⟨_, rfl, ?_⟩
  intro habsorbing
  refine habsorbing before [.closeTunnel 1#32] List.prefix_rfl ?_ ?_
  · decide +kernel
  · decide +kernel

/-! ### Tunnels that are closed -/

/-- The streams of a tunnel that is closing or closed are dead. -/
def StreamsEnded (e : Endpoint) : Prop :=
  ∀ (h : U32) r, e.tunnels[h]? = some r → r.tunnel.state = .closing ∨ r.tunnel.state = .closed →
    r.tunnel.AllDead

/-- The acknowledgement of a close arrives for a tunnel with a stream that is alive. -/
def ClosesOpen (e : Endpoint) : Action → Prop
  | .receive _ _ (.tunnelClose h true) =>
    ∃ r, e.tunnels[h]? = some r ∧ hasOpenStream r.tunnel = true
  | _ => False

theorem StreamsEnded.step (hended : e.StreamsEnded) (ha : ¬ e.ClosesOpen a) :
  (e.step a).StreamsEnded
  := by
  intro h r' hr' hstate
  have hlive : ∀ state : TunnelState, state ≠ .closing ∧ state ≠ .closed → r'.tunnel.state ≠ state := by
    rintro state ⟨hclosing, hclosed⟩ rfl
    exact hstate.elim hclosing hclosed
  have heffect := e.step_effect a h
  rw [hr'] at heffect
  generalize hx : e.tunnels[h]? = x at heffect
  cases heffect with
  | unchanged => exact hended h r' hx hstate
  | continues _ ht =>
    rw [ht.state_eq] at hstate
    exact (hended h _ hx hstate).continues ht
  | connects _ ht => exact absurd (GtsTunnel.state_of_initiator ht) (hlive _ (by decide))
  | accepts _ _ ht =>
    obtain ⟨-, -, -, hestablished, -⟩ := GtsTunnel.responder_eq_ok ht
    exact absurd hestablished (hlive _ (by decide))
  | establishes ht =>
    have hestablished := (GtsTunnel.continues_establishInitiator ht).2.state_eq
    exact absurd hestablished (hlive .established (by decide))
  | opens halloc hadd =>
    have hestablished := (GtsTunnel.state_of_allocStreamId halloc).2
    obtain rfl | ⟨t₁, hadd, rfl⟩ := hadd
    · exact absurd hestablished (hlive _ (by decide))
    · exact absurd (GtsTunnel.state_of_addStream hadd).2 (hlive _ (by decide))
  | opened _ hadd => exact absurd (GtsTunnel.state_of_addStream hadd).2 (hlive _ (by decide))
  | closing hclosed => exact GtsTunnel.hasOpenStream_eq_false_iff.mp hclosed
  | @closed _ _ ack r hclosed =>
    apply GtsTunnel.hasOpenStream_eq_false_iff.mp
    rcases hclosed with rfl | hclosed
    · by_contra hopen
      exact ha ⟨r, hx, Bool.not_eq_false _ ▸ hopen⟩
    · exact hclosed
  | resets => exact absurd rfl (hlive .reset (by decide))
  | reset => exact absurd rfl (hlive .reset (by decide))

/-- A tunnel that is closed like this has a stream that is alive. -/
theorem not_streamsEnded_of_closesOpen (ha : e.ClosesOpen a) :
  ¬ (e.step a).StreamsEnded
  := by
  intro hended
  cases a with
  | receive src sizeClass packet =>
    cases packet with
    | tunnelClose k ack =>
      cases ack with
      | true =>
        obtain ⟨r, hr, hopen⟩ := ha
        have hstep : (e.step (.receive src sizeClass (.tunnelClose k true))).tunnels
            = e.tunnels.insert k { r with tunnel := { r.tunnel with state := .closed } } := by
          have hrecord : e.record k = .ok r := record_of_getElem? hr
          rw [Endpoint.step, handleGts, handleTunnelClose, hrecord]
          rfl
        have hget : (e.step (.receive src sizeClass (.tunnelClose k true))).tunnels[k]?
            = some { r with tunnel := { r.tunnel with state := .closed } } := by
          rw [hstep, TreeMap.getElem?_insert, if_pos rfl]
        have hclosed := GtsTunnel.hasOpenStream_eq_false_iff.mpr (hended k _ hget (.inr rfl))
        exact Bool.false_ne_true (hclosed.symm.trans hopen)
      | false => cases ha
    | _ => cases ha
  | _ => cases ha

/-- No tunnel that is closing or closed ever has a stream that is alive, exactly as long as the
acknowledgement of a close arrives only for tunnels whose streams are dead. -/
theorem streamsEnded_iff {address : GdpAddress} {gtsReceiveSlots : U8}
    (hnew : new address gtsReceiveSlots = .ok e) (as : List Action) :
  (∀ bs, bs <+: as → (Machine.run step e bs).StreamsEnded) ↔
    Machine.Along step (fun e a => ¬ e.ClosesOpen a) e as
  := by
  have hempty : e.StreamsEnded := by
    rw [new] at hnew
    split at hnew
    · cases hnew
    · cases hnew
      intro h r hr
      rw [Std.ExtTreeMap.getElem?_empty] at hr
      cases hr
  apply Machine.forall_isPrefix_iff_along (I := fun _ => True) (fun _ _ _ => trivial)
  · intro e a _ hended ha
    exact hended.step ha
  · intro e a _ _ hended ha
    exact not_streamsEnded_of_closesOpen ha hended
  · trivial
  · exact hempty

/-- A tunnel whose stream is reset is closed, and the acknowledgement arrives. -/
theorem streamsEnded_iff_reset :
  let css : ServiceSelector := ⟨List.replicate 16 1#8, rfl⟩
  let profile : StreamProfile := ⟨false, true, false, false, .bidirectional, .msg128⟩
  let as : List Action :=
    [.connect ⟨2#64⟩ css profile, .receive ⟨2#64⟩ .ctrl32 (.connectAck 1#32 7#32 8#32 0#8 4#8),
      .resetStream 1#32 0#8 0#8, .closeTunnel 1#32,
      .receive ⟨2#64⟩ .ctrl32 (.tunnelClose 1#32 true)]
  ∃ e, new ⟨1#64⟩ 4#8 = .ok e ∧ ∀ bs, bs <+: as → (Machine.run step e bs).StreamsEnded
  := by
  intro css profile as
  obtain ⟨e, he⟩ : ∃ e, new ⟨1#64⟩ 4#8 = .ok e := ⟨_, rfl⟩
  have hclosed : ¬ ∃ r ∈ (Machine.run step e (as.take 4)).tunnels[1#32]?,
      hasOpenStream r.tunnel = true := by
    cases he
    decide +kernel
  exact ⟨e, he, (streamsEnded_iff he as).mpr ⟨id, id, id, id, hclosed, trivial⟩⟩

/-- The acknowledgement of a close arrives at an endpoint that has not closed its tunnel: the tunnel
is closed, and its stream is open. -/
theorem not_streamsEnded :
  let css : ServiceSelector := ⟨List.replicate 16 1#8, rfl⟩
  let profile : StreamProfile := ⟨false, true, false, false, .bidirectional, .msg128⟩
  let as : List Action :=
    [.connect ⟨2#64⟩ css profile, .receive ⟨2#64⟩ .ctrl32 (.connectAck 1#32 7#32 8#32 0#8 4#8),
      .receive ⟨2#64⟩ .ctrl32 (.tunnelClose 1#32 true)]
  ∃ e, new ⟨1#64⟩ 4#8 = .ok e ∧ ¬ (Machine.run step e as).StreamsEnded
  := by
  intro css profile as
  obtain ⟨e, he⟩ : ∃ e, new ⟨1#64⟩ 4#8 = .ok e := ⟨_, rfl⟩
  refine ⟨e, he, ?_⟩
  intro hended
  have hstream : ∃ r ∈ (Machine.run step e as).tunnels[1#32]?, r.tunnel.state = .closed ∧
      ∃ s ∈ r.tunnel.streams[0#8]?, ¬ s.Dead := by
    cases he
    decide +kernel
  obtain ⟨r, hr, hstate, s, hs, halive⟩ := hstream
  exact halive (hended 1#32 r hr (.inr hstate) 0#8 s hs)

end Endpoint

end SmolGnet
