import SmolGnet.Managed.Agreed

/-!
# Negotiation over an unreliable channel

Two managed endpoints whose control frames may be lost, repeated, delayed and reordered: a
frame that has been sent can be delivered at any later time, any number of times or never.
Whenever an endpoint has installed a profile, it is the one that the settings of the two
endpoints determine.
-/

namespace SmolGnet

open LinkSettings

variable {T : Transport} {x y : LinkSettings}

namespace DlpManagedEndpoint

variable {m m' : DlpManagedEndpoint T}

/-! ### What an endpoint knows and says -/

/-- Everything that the endpoint knows, has to send and has installed is what the settings of
the two ends determine. -/
structure Sound (x y : LinkSettings) (m : DlpManagedEndpoint T) : Prop extends
    Informed x y m where
  local_generation : IsGeneration m.localGeneration
  peer_generation : ∀ g, m.peerGeneration = some g → IsGeneration g
  queue : ∀ frame ∈ m.controlTx, Sends x y frame
  profile : ∀ p, m.negotiated = some p → p = agreedProfile x y ∧
    m.endpoint.dlp.vcMode = p.vcMode ∧ m.endpoint.dlp.rxBufferFlits = x.config.rxBufferFlits

/-- More frames are queued. -/
theorem Sound.queueControl (h : m.Sound x y) {frames : List DlpControlFrame}
    (hframes : ∀ frame ∈ frames, Sends x y frame) :
  Sound x y { m with controlTx := m.controlTx ++ frames }
  := by
  refine { h with queue := ?_ }
  intro frame hframe
  rcases List.mem_append.mp hframe with hmem | hmem
  · exact h.queue frame hmem
  · exact hframes frame hmem

theorem forall_mem_ite {b : Bool} {frame : DlpControlFrame} (h : Sends x y frame) :
  ∀ frame' ∈ (if b then [] else [frame]), Sends x y frame'
  := by
  cases b with
  | true => simp
  | false => simpa using h

/-- An endpoint that forgets the negotiation and says `HELLO`. -/
theorem Sound.hello {endpoint : LinkedEndpoint T} {g : U8} {peerGeneration : Option U8}
    {frames : List DlpControlFrame} (h : m.Sound x y) (hg : IsGeneration g)
    (hpeer : ∀ g, peerGeneration = some g → IsGeneration g)
    (hframes : ∀ frame ∈ frames, Sends x y frame) :
  Sound x y { { m with
    endpoint
    controlTx := frames
    localGeneration := g
    peerGeneration }.clearNegotiationState with state := .hello }.queueHelloInitial
  := by
  constructor
  · exact ⟨h.config, h.burst, nofun, nofun, nofun, nofun, nofun, nofun⟩
  · exact hg
  · exact hpeer
  · intro frame hframe
    rcases List.mem_append.mp hframe with hmem | hmem
    · exact hframes frame hmem
    · rw [List.mem_singleton.mp hmem]
      exact .hello g hg
  · nofun

theorem Sound.restart (h : m.Sound x y) (incrementGeneration : Bool) :
  Sound x y (m.restartNegotiation incrementGeneration false)
  := by
  cases incrementGeneration with
  | false => exact h.hello h.local_generation h.peer_generation nofun
  | true => exact h.hello (isGeneration_next _) h.peer_generation nofun

theorem Sound.greet (h : m.Sound x y) {g : U8} (hg : IsGeneration g) :
  Sound x y (m.greet g)
  := by
  have hack : Sends x y (.hello .acknowledgement m.localGeneration g) :=
    .helloAck m.localGeneration g h.local_generation hg
  have hqueue := h.queueControl (List.forall_mem_singleton.mpr hack)
  refine { hqueue with peer_generation := ?_ }
  rintro g' hg'
  cases hg'
  exact hg

theorem Sound.pendingOffers (h : m.Sound x y) :
  ∀ frame ∈ m.pendingOffers (parameterUnits x.config.rxBufferFlits)
    (parameterUnits x.maxBurstFlits), Sends x y frame
  := by
  have hcap : Sends x y (.capabilities .offer m.localGeneration
      (supportedModeFlags m.endpointConfig.vcMode) rateAll) := by
    rw [h.config]
    exact .capabilities m.localGeneration .offer h.local_generation
  have hparams : Sends x y (.linkParameters .offer m.localGeneration
      (parameterUnits x.config.rxBufferFlits) (parameterUnits x.maxBurstFlits)) :=
    .parameters m.localGeneration .offer h.local_generation
  intro frame hframe
  rcases List.mem_append.mp hframe with hmem | hmem
  · exact forall_mem_ite hcap frame hmem
  · exact forall_mem_ite hparams frame hmem

/-- The offers are those that the settings determine. -/
theorem Sound.start (hx : x.Valid) (h : m.Sound x y) :
  Sound x y m.maybeStartCapabilityExchange.2
  := by
  have hrx : encodeParameterUnits m.endpointConfig.rxBufferFlits
      = .ok (parameterUnits x.config.rxBufferFlits) := by
    rw [h.config]
    apply hx.rx.1
  have hburst : encodeParameterUnits m.maxBurstFlits = .ok (parameterUnits x.maxBurstFlits) := by
    rw [h.burst]
    apply hx.burst.1
  by_cases hready : m.helloAckSent ∧ m.helloAckReceived ∧ m.peerGeneration ≠ none
  · obtain ⟨hsent, hreceived, hpeer⟩ := hready
    rw [maybeStartCapabilityExchange_eq hrx hburst hpeer hsent]
    dsimp only
    rw [if_pos hreceived]
    exact { h.queueControl h.pendingOffers with }
  · rw [maybeStartCapabilityExchange, if_pos]
    · exact h
    · simp only [Bool.not_eq_true', Option.isNone_iff_eq_none]
      simp only [not_and_or, Bool.not_eq_true, not_not] at hready
      exact hready

/-! ### What a frame of the other end does -/

theorem Sound.heardCapabilities (h : m.Sound x y) (kind : DlpCapabilityKind) :
  Sound x y (m.heardCapabilities x y kind)
  := by
  cases kind with
  | offer =>
    have hqueue := h.queueControl (@forall_mem_ite x y m.capSelectionSent _
      (.capabilities m.localGeneration .selection h.local_generation))
    refine { hqueue with cap_offer := ?_, mode := ?_, rate := ?_ }
    · rintro offer ⟨⟩
      rfl
    · rintro mode ⟨⟩
      rfl
    · rintro rate ⟨⟩
      rfl
  | selection =>
    have hqueue := h.queueControl (@forall_mem_ite x y m.capConfirmationSent _
      (.capabilities m.localGeneration .confirmation h.local_generation))
    exact { hqueue with }
  | confirmation => exact { h with }

theorem Sound.heardParameters (h : m.Sound x y) (kind : DlpCapabilityKind) :
  Sound x y (m.heardParameters x y kind)
  := by
  cases kind with
  | offer =>
    have hqueue := h.queueControl (@forall_mem_ite x y m.paramsSelectionSent _
      (.parameters m.localGeneration .selection h.local_generation))
    refine { hqueue with params_offer := ?_, peer_rx := ?_, selected_burst := ?_ }
    · rintro offer ⟨⟩
      rfl
    · rintro rx ⟨⟩
      rfl
    · rintro burst ⟨⟩
      rfl
  | selection =>
    have hqueue := h.queueControl (@forall_mem_ite x y m.paramsConfirmationSent _
      (.parameters m.localGeneration .confirmation h.local_generation))
    exact { hqueue with }
  | confirmation => exact { h with }

/-- The profile that is installed is the one that the settings determine. -/
theorem Sound.install (h : m.Sound x y) :
  Sound x y m.maybeInstallProfile.2
  := by
  rw [maybeInstallProfile]
  split
  · exact h
  split
  · next mode burst peerRx hmode hburst hpeerRx =>
    split
    · exact h
    · next dlp hdlp =>
      obtain rfl := h.mode mode hmode
      obtain rfl := h.selected_burst burst hburst
      obtain rfl := h.peer_rx peerRx hpeerRx
      refine { h with profile := ?_ }
      rintro p ⟨⟩
      refine ⟨rfl, ?_⟩
      rw [DlpEndpoint.new] at hdlp
      split at hdlp
      · cases hdlp
      · cases hdlp
        exact ⟨rfl, congrArg EndpointConfig.rxBufferFlits h.config⟩
  · exact h

/-- Capabilities do nothing unless they are expected. -/
theorem onFrame_capabilities_ignored {g : U8} (kind : DlpCapabilityKind)
    (h : ¬ (m.peerGeneration = some g ∧ m.state = .negotiate)) :
  (m.onFrame (y.capabilities x g kind)).2 = m
  := by
  have hignored : ∀ kind profiles rates,
      (m.onFrame (.capabilities kind g profiles rates)).2 = m := by
    intro kind profiles rates
    rw [onFrame]
    split
    · rfl
    next hcurrent =>
    rw [onCapabilities.eq_def, if_pos]
    intro hstate
    exact h ⟨by simpa [frameIsCurrent] using hcurrent, hstate⟩
  cases kind with
  | offer => apply hignored
  | selection => apply hignored
  | confirmation => apply hignored

/-- Nor do parameters. -/
theorem onFrame_parameters_ignored {g : U8} (kind : DlpCapabilityKind)
    (h : ¬ (m.peerGeneration = some g ∧ m.state = .negotiate)) :
  (m.onFrame (y.parameters x g kind)).2 = m
  := by
  have hignored : ∀ kind rxWindowUnits burstUnits,
      (m.onFrame (.linkParameters kind g rxWindowUnits burstUnits)).2 = m := by
    intro kind rxWindowUnits burstUnits
    rw [onFrame]
    split
    · rfl
    next hcurrent =>
    rw [onLinkParameters.eq_def, if_pos]
    intro hstate
    exact h ⟨by simpa [frameIsCurrent] using hcurrent, hstate⟩
  cases kind with
  | offer => apply hignored
  | selection => apply hignored
  | confirmation => apply hignored

/-- A frame that the other end sends leaves the endpoint sound. -/
theorem Sound.onFrame (hx : x.Valid) (hy : y.Valid) (h : m.Sound x y) {frame : DlpControlFrame}
    (hframe : Sends y x frame) :
  Sound x y (m.onFrame frame).2
  := by
  cases hframe with
  | hello g hg =>
    have hreceives := receives_onFrame m (.hello .initial g 0#8)
    generalize (m.onFrame (.hello .initial g 0#8)).2 = m' at hreceives ⊢
    cases hreceives with
    | ignored => exact h
    | hello _ _ _ _ => exact (h.greet hg).start hx
    | nextHello current _ _ => exact ((h.restart m.wasLive).greet hg).start hx
  | helloAck g p hg hp =>
    have hreceives := receives_onFrame m (.hello .acknowledgement g p)
    generalize (m.onFrame (.hello .acknowledgement g p)).2 = m' at hreceives ⊢
    cases hreceives with
    | ignored => exact h
    | helloAck _ _ => exact Sound.start hx { h with }
    | firstHelloAck _ _ => exact Sound.start hx { h.greet hg with }
    | nextHelloAck current _ => exact Sound.start hx { (h.restart true).greet hg with }
  | reset g reason hg hreason =>
    have hreceives := receives_onFrame m (.reset g reason)
    generalize (m.onFrame (.reset g reason)).2 = m' at hreceives ⊢
    cases hreceives with
    | ignored => exact h
    | reset _ _ _ => exact h.hello (isGeneration_next _) nofun nofun
  | capabilities g kind hg =>
    by_cases hexpected : m.peerGeneration = some g ∧ m.state = .negotiate
    · rw [h.onFrame_capabilities hexpected.1 hexpected.2]
      split
      · exact (h.heardCapabilities kind).install
      · exact h
    · rw [onFrame_capabilities_ignored kind hexpected]
      exact h
  | parameters g kind hg =>
    by_cases hexpected : m.peerGeneration = some g ∧ m.state = .negotiate
    · rw [h.onFrame_parameters hx hy hexpected.1 hexpected.2]
      split
      · exact (h.heardParameters kind).install
      · exact h
    · rw [onFrame_parameters_ignored kind hexpected]
      exact h

/-- So does every operation. -/
theorem Sound.performs (h : m.Sound x y) (hm : Performs m m') :
  Sound x y m'
  := by
  cases hm with
  | carrierUp hstate => exact h.restart false
  | carrierDown =>
    constructor
    · exact ⟨h.config, h.burst, nofun, nofun, nofun, nofun, nofun, nofun⟩
    · exact h.local_generation
    · nofun
    · nofun
    · nofun
  | requestReset reason hstate hreason =>
    have hreset : Sends x y (.reset m.localGeneration reason) :=
      .reset m.localGeneration reason h.local_generation hreason
    exact h.hello (isGeneration_next _) nofun (List.forall_mem_singleton.mpr hreset)
  | pollControl =>
    refine { h with queue := ?_ }
    intro frame hframe
    exact h.queue frame (List.mem_of_mem_tail hframe)
  | finishCreditSync hstate hcredit => exact { h with }
  | usesLink m' hm =>
    have hsame := hm.sameConfig
    obtain ⟨endpoint, polls, rfl, -⟩ := hm
    refine { h with profile := ?_ }
    intro p hp
    obtain ⟨hprofile, hmode, hrx⟩ := h.profile p hp
    exact ⟨hprofile, hsame.vcMode.trans hmode, hsame.rxBufferFlits.trans hrx⟩

end DlpManagedEndpoint

/-! ### Two endpoints -/

/-- Two managed endpoints and the control frames that each of them has sent. -/
structure ControlNet (T : Transport) where
  ends : Bool → DlpManagedEndpoint T
  sent : Bool → List Bytes

namespace ControlNet

/-- What can happen: something is done with one of the endpoints, or a frame that the other
one has sent at some time is delivered to it. -/
inductive Action (T : Transport) where
  | op (side : Bool) (op : DlpManagedEndpoint.Op T)
  | deliver (side : Bool) (i : ℕ)

/-- The control frames that an operation sends. -/
def emitted (m : DlpManagedEndpoint T) : DlpManagedEndpoint.Op T → List Bytes
  | .pollControl => m.pollControl.1.toList
  | _ => []

/-- The endpoints after an action. -/
def step (s : ControlNet T) : Action T → ControlNet T
  | .op side op =>
    { ends := Function.update s.ends side ((s.ends side).perform op)
      sent := Function.update s.sent side (s.sent side ++ emitted (s.ends side) op) }
  | .deliver side i =>
    match (s.sent (!side))[i]? with
    | none => s
    | some bytes =>
      { s with ends := Function.update s.ends side ((s.ends side).receiveControl bytes).2 }

/-- Two endpoints that have sent nothing. -/
def init (ends : Bool → DlpManagedEndpoint T) : ControlNet T where
  ends := ends
  sent := fun _ => []

/-- Both endpoints are sound, and what they have sent is what they say. -/
structure Inv (settings : Bool → LinkSettings) (s : ControlNet T) : Prop where
  ends : ∀ side, (s.ends side).Sound (settings side) (settings !side)
  sent : ∀ side, ∀ bytes ∈ s.sent side,
    ∃ frame, bytes = DlpControlFrame.encode frame ∧
      Sends (settings side) (settings !side) frame

variable {settings : Bool → LinkSettings} {s : ControlNet T}

/-- One of the endpoints changes. -/
theorem Inv.update (h : s.Inv settings) {side : Bool} {m : DlpManagedEndpoint T}
    {sent : Bool → List Bytes} (hm : m.Sound (settings side) (settings !side))
    (hsent : ∀ side, ∀ bytes ∈ sent side, ∃ frame, bytes = DlpControlFrame.encode frame ∧
      Sends (settings side) (settings !side) frame) :
  Inv settings { ends := Function.update s.ends side m, sent }
  := by
  refine ⟨?_, hsent⟩
  intro side'
  by_cases hside : side' = side
  · rw [hside]
    dsimp only
    rw [Function.update_self]
    exact hm
  · dsimp only
    rw [Function.update_of_ne hside]
    exact h.ends side'

/-- What is sent comes from the queue. -/
theorem sends_of_emitted {m : DlpManagedEndpoint T} (h : m.Sound x y)
    {op : DlpManagedEndpoint.Op T} {bytes : Bytes} (hbytes : bytes ∈ emitted m op) :
  ∃ frame, bytes = DlpControlFrame.encode frame ∧ Sends x y frame
  := by
  cases op with
  | pollControl =>
    rw [emitted, DlpManagedEndpoint.pollControl] at hbytes
    split at hbytes
    · cases hbytes
    · next frame frames hqueue =>
      refine ⟨frame, List.mem_singleton.mp hbytes, h.queue frame ?_⟩
      rw [hqueue]
      exact List.mem_cons_self
  | _ => cases hbytes

theorem Inv.step (hvalid : ∀ side, (settings side).Valid) (h : s.Inv settings)
    (action : Action T) :
  (s.step action).Inv settings
  := by
  cases action with
  | op side op =>
    apply h.update ((h.ends side).performs (DlpManagedEndpoint.performs_perform _ op))
    intro side' bytes hbytes
    by_cases hside : side' = side
    · subst hside
      rw [Function.update_self] at hbytes
      rcases List.mem_append.mp hbytes with hmem | hmem
      · exact h.sent side' bytes hmem
      · exact sends_of_emitted (h.ends side') hmem
    · rw [Function.update_of_ne hside] at hbytes
      exact h.sent side' bytes hbytes
  | deliver side i =>
    rw [ControlNet.step]
    split
    · exact h
    · next bytes hbytes =>
      apply h.update _ h.sent
      obtain ⟨frame, rfl, hframe⟩ := h.sent (!side) bytes (List.mem_of_getElem? hbytes)
      rw [Bool.not_not] at hframe
      rw [DlpManagedEndpoint.receiveControl,
        hframe.decode_encode (hvalid !side) (hvalid side)]
      exact (h.ends side).onFrame (hvalid side) (hvalid !side) hframe

theorem Inv.init {ends : Bool → DlpManagedEndpoint T}
    (hfresh : ∀ side, DlpManagedEndpoint.Fresh (settings side).config
      (settings side).maxBurstFlits (ends side)) :
  (ControlNet.init ends).Inv settings
  := by
  constructor
  · intro side
    change (ends side).Sound _ _
    obtain ⟨⟨endpoint, hbuild, -⟩, -⟩ := (hfresh side).built
    rw [hbuild]
    constructor
    · exact ⟨rfl, rfl, nofun, nofun, nofun, nofun, nofun, nofun⟩
    · change IsGeneration 1#8
      unfold IsGeneration
      decide
    · nofun
    · nofun
    · nofun
  · nofun

theorem valid_of_fresh {m : DlpManagedEndpoint T}
    (hfresh : DlpManagedEndpoint.Fresh x.config x.maxBurstFlits m) :
  x.Valid
  := by
  obtain ⟨-, hrx, hburst⟩ := hfresh.built
  exact ⟨transmissible_of_encode hrx, transmissible_of_encode hburst⟩

/-- The highest mode that two ends with the modes `a` and `b` can both do. -/
def HighestCommon (a b mode : VcMode) : Prop :=
  mode.count ≤ a.count ∧ mode.count ≤ b.count ∧
    ∀ mode' : VcMode, mode'.count ≤ a.count → mode'.count ≤ b.count → mode'.count ≤ mode.count

theorem highestCommon_agreedMode (x y : LinkSettings) :
  HighestCommon x.config.vcMode y.config.vcMode (agreedMode x y)
  := by
  rw [HighestCommon, agreedMode]
  refine ⟨?_, ?_, ?_⟩
  · cases x.config.vcMode <;> cases y.config.vcMode <;> decide
  · cases x.config.vcMode <;> cases y.config.vcMode <;> decide
  · intro mode
    cases x.config.vcMode <;> cases y.config.vcMode <;> cases mode <;> decide

/-- Whatever happens to the frames, a profile that an endpoint has installed has the highest
mode of both, the lesser burst and the receive buffer of the other one, and its link has been
made with that mode and its own receive buffer; two profiles agree. -/
theorem profile_agreed {ends : Bool → DlpManagedEndpoint T}
    (hfresh : ∀ side, DlpManagedEndpoint.Fresh (settings side).config
      (settings side).maxBurstFlits (ends side))
    (actions : List (Action T)) :
  let s := Machine.run step (init ends) actions
  (∀ side p, (s.ends side).negotiated = some p →
    HighestCommon (settings side).config.vcMode (settings !side).config.vcMode p.vcMode ∧
    p.burstFlits.toNat
      = min (settings side).maxBurstFlits.toNat (settings !side).maxBurstFlits.toNat ∧
    p.peerRxBufferFlits = (settings !side).config.rxBufferFlits ∧
    (s.ends side).endpoint.dlp.vcMode = p.vcMode ∧
    (s.ends side).endpoint.dlp.rxBufferFlits = (settings side).config.rxBufferFlits) ∧
  ∀ p q, (s.ends false).negotiated = some p → (s.ends true).negotiated = some q →
    p.vcMode = q.vcMode ∧ p.burstFlits = q.burstFlits
  := by
  intro s
  have hvalid : ∀ side, (settings side).Valid := fun side => valid_of_fresh (hfresh side)
  have hinv : s.Inv settings := by
    refine Machine.invariant_run (P := Inv settings) ?_ (Inv.init hfresh) actions
    intro s action h
    exact h.step hvalid action
  constructor
  · intro side p hp
    obtain ⟨rfl, hmode, hrx⟩ := (hinv.ends side).profile p hp
    refine ⟨highestCommon_agreedMode _ _, ?_, rfl, hmode, hrx⟩
    apply toNat_minU32
  · intro p q hp hq
    obtain ⟨rfl, -⟩ := (hinv.ends false).profile p hp
    obtain ⟨rfl, -⟩ := (hinv.ends true).profile q hq
    exact ⟨agreedMode_comm _ _, agreedBurst_comm _ _⟩

/-- An endpoint with four channels and one with two negotiate.  Each of them is greeted twice,
and gets offers, selections and confirmations in another order than they were sent. -/
theorem profile_agreed_reordered :
  let polls : List (Action .silent) := [.op false .pollControl, .op true .pollControl]
  let deliver : ℕ → List (Action .silent) := fun i => [.deliver false i, .deliver true i]
  let actions : List (Action .silent) :=
    [.op false .carrierUp, .op true .carrierUp] ++ polls ++ deliver 0 ++ deliver 0 ++ polls ++
      polls ++ deliver 1 ++ polls ++ polls ++ deliver 4 ++ deliver 3 ++ polls ++ polls ++
      deliver 6 ++ deliver 5 ++ polls ++ polls ++ deliver 8 ++ deliver 7
  ∃ a b : DlpManagedEndpoint .silent,
    DlpManagedEndpoint.Fresh ⟨32#32, .four, 8#8, none, false, 1#32, 32#32, ⟨true⟩⟩ 16#32 a ∧
    DlpManagedEndpoint.Fresh ⟨64#32, .two, 8#8, none, false, 1#32, 32#32, ⟨true⟩⟩ 8#32 b ∧
    let s := Machine.run step (init (fun side => if side then b else a)) actions
    (s.ends false).negotiated.isSome ∧ (s.ends true).negotiated.isSome ∧
    ∀ p q, (s.ends false).negotiated = some p → (s.ends true).negotiated = some q →
      p.vcMode = q.vcMode ∧ p.burstFlits = q.burstFlits
  := by
  intro polls deliver actions
  refine ⟨_, _, .inl ⟨⟨7#64⟩, rfl⟩, .inl ⟨⟨8#64⟩, rfl⟩, ?_, ?_, ?_⟩
  · decide +kernel
  · decide +kernel
  · apply (@profile_agreed .silent
      (fun side =>
        if side then ⟨⟨64#32, .two, 8#8, none, false, 1#32, 32#32, ⟨true⟩⟩, 8#32⟩
        else ⟨⟨32#32, .four, 8#8, none, false, 1#32, 32#32, ⟨true⟩⟩, 16#32⟩) _ _ actions).2
    intro side
    cases side with
    | false => exact .inl ⟨⟨7#64⟩, rfl⟩
    | true => exact .inl ⟨⟨8#64⟩, rfl⟩

end ControlNet

end SmolGnet
