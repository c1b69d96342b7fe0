import SmolGnet.Managed.Runs

/-!
# Greetings

How a managed endpoint learns of the other end: from a `HELLO` or from the answer to its own.
The invariant of every run says what the endpoint knows in which state.  Two results follow
from it: when an endpoint without carrier stays down, and when a repeated `HELLO` changes
nothing.
-/

namespace SmolGnet

namespace DlpManagedEndpoint

variable {T : Transport} {m m' : DlpManagedEndpoint T}

/-! ### What a control frame can do -/

/-- The part of the state that is settled before capabilities and parameters are exchanged. -/
structure Session where
  endpointConfig : EndpointConfig
  maxBurstFlits : U32
  localGeneration : U8
  peerGeneration : Option U8
  helloAckSent : Bool
  helloAckReceived : Bool
  capOfferSent : Bool
  paramsOfferSent : Bool

/-- The session of an endpoint. -/
def session (m : DlpManagedEndpoint T) : Session where
  endpointConfig := m.endpointConfig
  maxBurstFlits := m.maxBurstFlits
  localGeneration := m.localGeneration
  peerGeneration := m.peerGeneration
  helloAckSent := m.helloAckSent
  helloAckReceived := m.helloAckReceived
  capOfferSent := m.capOfferSent
  paramsOfferSent := m.paramsOfferSent

/-- The profile that has been selected is installed, with a new end of the link. -/
def Installed (m : DlpManagedEndpoint T) : Prop :=
  ∃ p, m.negotiated = some p ∧ m.selectedMode = some p.vcMode ∧
    m.selectedBurst = some p.burstFlits ∧ m.selectedPeerRx = some p.peerRxBufferFlits ∧
    DlpEndpoint.new
      { gdp := m.endpointConfig.gdpWire
        localPrefix := m.endpointConfig.localContextPrefix.getD 0#64 &&& ~~~0xffff#64
        vcMode := p.vcMode
        rxBufferFlits := m.endpointConfig.rxBufferFlits
        controlWindowFlits := dlpReservedControlWindowFlits } = .ok m.endpoint.dlp

/-- Capabilities or parameters have been handled: the session is as before, and either the
endpoint still negotiates, with the link as it was, or it has installed a profile. -/
def Negotiates (m m' : DlpManagedEndpoint T) : Prop :=
  m'.session = m.session ∧
    (m'.state = .negotiate ∧ m'.endpoint = m.endpoint ∧ m'.negotiated = m.negotiated ∨
      m'.state = .creditSync ∧ m'.Installed)

theorem Negotiates.trans {m'' : DlpManagedEndpoint T} (h : Negotiates m m')
    (hstate : m'.state = .negotiate) (h' : Negotiates m' m'') :
  Negotiates m m''
  := by
  obtain ⟨hsession, hlink⟩ := h
  obtain ⟨hsession', hlink'⟩ := h'
  use hsession'.trans hsession
  rcases hlink with ⟨-, hendpoint, hnegotiated⟩ | ⟨hstate', -⟩
  · rcases hlink' with ⟨hstate', hendpoint', hnegotiated'⟩ | hinstalled
    · exact .inl ⟨hstate', hendpoint'.trans hendpoint, hnegotiated'.trans hnegotiated⟩
    · exact .inr hinstalled
  · rw [hstate] at hstate'
    cases hstate'

theorem negotiates_maybeInstallProfile (h : m.state = .negotiate) :
  Negotiates m m.maybeInstallProfile.2
  := by
  rw [maybeInstallProfile]
  split
  · exact ⟨rfl, .inl ⟨h, rfl, rfl⟩⟩
  split
  · next mode burst peerRx hmode hburst hpeerRx =>
    split
    · exact ⟨rfl, .inl ⟨h, rfl, rfl⟩⟩
    · next dlp hdlp => exact ⟨rfl, .inr ⟨rfl, _, rfl, hmode, hburst, hpeerRx, hdlp⟩⟩
  · exact ⟨rfl, .inl ⟨h, rfl, rfl⟩⟩

/-- The first of two steps leaves the endpoint negotiating, and then the profile is installed
if it can be. -/
theorem negotiates_andThen {x : Except Error Unit × DlpManagedEndpoint T}
    (hsession : x.2.session = m.session) (hstate : x.2.state = .negotiate)
    (hendpoint : x.2.endpoint = m.endpoint) (hnegotiated : x.2.negotiated = m.negotiated) :
  Negotiates m (andThen x (fun _ m => m.maybeInstallProfile)).2
  := by
  obtain ⟨r, m'⟩ := x
  have hfirst : Negotiates m m' := ⟨hsession, .inl ⟨hstate, hendpoint, hnegotiated⟩⟩
  cases r with
  | error err => exact hfirst
  | ok _ => exact hfirst.trans hstate (negotiates_maybeInstallProfile hstate)

theorem negotiates_onCapabilities (h : m.state = .negotiate) (kind : DlpCapabilityKind)
    (profiles rates : U8) :
  Negotiates m (m.onCapabilities kind profiles rates).2
  := by
  cases kind with
  | offer =>
    rw [onCapabilities, if_neg (not_not.mpr h)]
    dsimp only [onCapabilityOffer, queueControl]
    repeat' split
    all_goals exact negotiates_andThen rfl h rfl rfl
  | selection =>
    rw [onCapabilities, if_neg (not_not.mpr h)]
    dsimp only [onCapabilitySelection, queueControl]
    repeat' split
    all_goals exact negotiates_andThen rfl h rfl rfl
  | confirmation =>
    rw [onCapabilities, if_neg (not_not.mpr h)]
    dsimp only [onCapabilityConfirmation]
    repeat' split
    all_goals exact negotiates_andThen rfl h rfl rfl

theorem negotiates_onLinkParameters (h : m.state = .negotiate) (kind : DlpCapabilityKind)
    (rxWindowUnits burstUnits : U8) :
  Negotiates m (m.onLinkParameters kind rxWindowUnits burstUnits).2
  := by
  rw [onLinkParameters.eq_def, if_neg (not_not.mpr h)]
  split
  · exact ⟨rfl, .inl ⟨h, rfl, rfl⟩⟩
  split
  · exact ⟨rfl, .inl ⟨h, rfl, rfl⟩⟩
  cases kind with
  | offer =>
    dsimp only [onParameterOffer, queueControl]
    repeat' split
    all_goals exact negotiates_andThen rfl h rfl rfl
  | selection =>
    dsimp only [onParameterSelection, queueControl]
    repeat' split
    all_goals exact negotiates_andThen rfl h rfl rfl
  | confirmation =>
    dsimp only [onParameterConfirmation]
    repeat' split
    all_goals exact negotiates_andThen rfl h rfl rfl

/-- What a control frame can do. -/
inductive Receives (m : DlpManagedEndpoint T) : DlpControlFrame → DlpManagedEndpoint T → Prop
  | ignored (frame : DlpControlFrame) : Receives m frame m
  | hello (g p : U8) (h : m.peerGeneration = none → m.state ≠ .down)
      (hg : ∀ current, m.peerGeneration = some current → g = current) :
    Receives m (.hello .initial g p) (m.greet g).maybeStartCapabilityExchange.2
  | nextHello (current p : U8) (h : m.peerGeneration = some current) :
    Receives m (.hello .initial (nextGeneration current) p)
      ((m.restartNegotiation m.wasLive false).greet
        (nextGeneration current)).maybeStartCapabilityExchange.2
  | helloAck (g : U8) (h : m.peerGeneration = some g) :
    Receives m (.hello .acknowledgement g m.localGeneration)
      { m with helloAckReceived := true }.maybeStartCapabilityExchange.2
  | firstHelloAck (g : U8) (h : m.peerGeneration = none) :
    Receives m (.hello .acknowledgement g m.localGeneration)
      { m.greet g with helloAckReceived := true }.maybeStartCapabilityExchange.2
  | nextHelloAck (current : U8) (h : m.peerGeneration = some current) :
    Receives m (.hello .acknowledgement (nextGeneration current) m.localGeneration)
      { (m.restartNegotiation true false).greet (nextGeneration current) with
        helloAckReceived := true }.maybeStartCapabilityExchange.2
  | reset (g reason : U8) (h : m.peerGeneration = some g) :
    Receives m (.reset g reason) (m.afterReset [])
  | capabilities (kind : DlpCapabilityKind) (g profiles rates : U8)
      (h : m.peerGeneration = some g) (hstate : m.state = .negotiate) :
    Receives m (.capabilities kind g profiles rates) (m.onCapabilities kind profiles rates).2
  | linkParameters (kind : DlpCapabilityKind) (g rxWindowUnits burstUnits : U8)
      (h : m.peerGeneration = some g) (hstate : m.state = .negotiate) :
    Receives m (.linkParameters kind g rxWindowUnits burstUnits)
      (m.onLinkParameters kind rxWindowUnits burstUnits).2

/-- Every control frame does one of these things. -/
theorem receives_onFrame (m : DlpManagedEndpoint T) (frame : DlpControlFrame) :
  Receives m frame (m.onFrame frame).2
  := by
  cases frame with
  | hello kind g p =>
    cases kind with
    | initial =>
      rw [onFrame, onHello, onHelloInitial]
      split
      · next current hcurrent =>
        split
        · split
          · exact .ignored _
          · next h =>
            rw [not_not.mp h]
            exact .nextHello current p hcurrent
        · next h =>
          apply Receives.hello
          · simp [hcurrent]
          · intro c hc
            rw [hcurrent] at hc
            cases hc
            exact not_not.mp h
      · next hnone =>
        split
        · exact .ignored _
        · next hdown =>
          apply Receives.hello
          · intro _
            apply hdown
          · simp [hnone]
    | acknowledgement =>
      rw [onFrame, onHello, onHelloAck]
      split
      · exact .ignored _
      next hlocal =>
      rw [not_not.mp hlocal]
      split
      · next current hcurrent =>
        split
        · split
          · exact .ignored _
          · next h =>
            rw [not_not.mp h]
            exact .nextHelloAck current hcurrent
        · next h =>
          rw [← not_not.mp h]
          exact .helloAck current hcurrent
      · next hnone => exact .firstHelloAck g hnone
  | reset g reason =>
    rw [onFrame, onReset]
    split
    · exact .ignored _
    · next h => exact .reset g reason (not_not.mp h)
  | capabilities kind g profiles rates =>
    rw [onFrame]
    split
    · exact .ignored _
    next hcurrent =>
    by_cases hstate : m.state = .negotiate
    · exact .capabilities kind g profiles rates (by simpa [frameIsCurrent] using hcurrent) hstate
    · rw [onCapabilities.eq_def, if_pos hstate]
      exact .ignored _
  | linkParameters kind g rxWindowUnits burstUnits =>
    rw [onFrame]
    split
    · exact .ignored _
    next hcurrent =>
    by_cases hstate : m.state = .negotiate
    · exact .linkParameters kind g rxWindowUnits burstUnits
        (by simpa [frameIsCurrent] using hcurrent) hstate
    · rw [onLinkParameters.eq_def, if_pos hstate]
      exact .ignored _

/-! ### What an endpoint knows -/

/-- In every run, the parameters of an endpoint can be transmitted; without carrier it knows
nothing, has nothing to send, and its link is down; it has greeted the other end as soon as
it knows it; and it negotiates, with its offers sent, exactly when its own greeting has been
answered. -/
structure Inv (m : DlpManagedEndpoint T) : Prop where
  rx_units : ∃ units, encodeParameterUnits m.endpointConfig.rxBufferFlits = .ok units
  burst_units : ∃ units, encodeParameterUnits m.maxBurstFlits = .ok units
  down : m.state = .down →
    m.peerGeneration = none ∧ m.controlTx = [] ∧ m.endpoint.dlp.linkUp = false
  greeted : m.peerGeneration ≠ none → m.helloAckSent
  live : m.wasLive = m.helloAckReceived
  offered : m.helloAckReceived →
    m.peerGeneration ≠ none ∧ m.capOfferSent ∧ m.paramsOfferSent
  not_resetting : m.state ≠ .resetting

/-- The offers that have not been sent. -/
def pendingOffers (m : DlpManagedEndpoint T) (rxWindowUnits burstUnits : U8) :
    List DlpControlFrame :=
  (if m.capOfferSent then []
    else [.capabilities .offer m.localGeneration (supportedModeFlags m.endpointConfig.vcMode)
      rateAll]) ++
  if m.paramsOfferSent then []
    else [.linkParameters .offer m.localGeneration rxWindowUnits burstUnits]

/-- An endpoint that has greeted the other end starts to negotiate when it has been answered. -/
theorem maybeStartCapabilityExchange_eq {rxWindowUnits burstUnits : U8}
    (hrx : encodeParameterUnits m.endpointConfig.rxBufferFlits = .ok rxWindowUnits)
    (hburst : encodeParameterUnits m.maxBurstFlits = .ok burstUnits)
    (hpeer : m.peerGeneration ≠ none) (hsent : m.helloAckSent) :
  m.maybeStartCapabilityExchange = (.ok (),
    if m.helloAckReceived then
      { m with
        state := .negotiate
        controlTx := m.controlTx ++ m.pendingOffers rxWindowUnits burstUnits
        capOfferSent := true
        paramsOfferSent := true }
    else m)
  := by
  have hpeer' : m.peerGeneration.isNone = false := by
    rw [Option.isNone_eq_false_iff, Option.isSome_iff_ne_none]
    apply hpeer
  rw [maybeStartCapabilityExchange]
  cases hreceived : m.helloAckReceived with
  | false => simp
  | true =>
    rw [if_neg (by simp [hsent, hpeer'])]
    cases hcap : m.capOfferSent with
    | false =>
      cases hparams : m.paramsOfferSent with
      | false => simp [hcap, hparams, hrx, hburst, queueControl, pendingOffers]
      | true => simp [hcap, hparams, queueControl, pendingOffers]
    | true =>
      cases hparams : m.paramsOfferSent with
      | false => simp [hcap, hparams, hrx, hburst, queueControl, pendingOffers]
      | true => simp [hcap, hparams, pendingOffers]

/-- What is known after the exchange has been started, or not: data can not be sent. -/
theorem Inv.of_start (hrx : ∃ units, encodeParameterUnits m.endpointConfig.rxBufferFlits = .ok units)
    (hburst : ∃ units, encodeParameterUnits m.maxBurstFlits = .ok units)
    (hpeer : m.peerGeneration ≠ none) (hsent : m.helloAckSent)
    (hstate : m.helloAckReceived = false → m.state = .hello) :
  m.maybeStartCapabilityExchange.2.Inv ∧ m.maybeStartCapabilityExchange.2.dataPathActive = false
  := by
  obtain ⟨rxWindowUnits, hrx⟩ := hrx
  obtain ⟨burstUnits, hburst⟩ := hburst
  rw [maybeStartCapabilityExchange_eq hrx hburst hpeer hsent]
  dsimp only
  split
  · next hreceived =>
    refine ⟨⟨⟨_, hrx⟩, ⟨_, hburst⟩, nofun, fun _ => hsent, hreceived.symm, ?_, nofun⟩, rfl⟩
    exact fun _ => ⟨hpeer, rfl, rfl⟩
  · next hreceived =>
    have hstate := hstate (by simpa using hreceived)
    refine ⟨⟨⟨_, hrx⟩, ⟨_, hburst⟩, ?_, fun _ => hsent, ?_, ?_, ?_⟩, ?_⟩
    · simp [hstate]
    · simp [wasLive, hstate, hreceived]
    · intro h
      contradiction
    · simp [hstate]
    · simp [dataPathActive, hstate]

/-- An endpoint that is neither down nor live says `HELLO`. -/
theorem Inv.state_eq (h : m.Inv) (hdown : m.state ≠ .down) (hreceived : m.helloAckReceived = false) :
  m.state = .hello
  := by
  have hlive := h.live
  rw [hreceived, wasLive] at hlive
  have hresetting := h.not_resetting
  cases hstate : m.state with
  | hello => rfl
  | down => contradiction
  | resetting => contradiction
  | negotiate => simp [hstate] at hlive
  | creditSync => simp [hstate] at hlive
  | up => simp [hstate] at hlive

theorem Inv.not_down (h : m.Inv) {g : U8} (hpeer : m.peerGeneration = some g) :
  m.state ≠ .down
  := by
  intro hstate
  rw [(h.down hstate).1] at hpeer
  cases hpeer

theorem Inv.negotiates (h : m.Inv) (hstate : m.state = .negotiate) (hm : Negotiates m m') :
  m'.Inv
  := by
  obtain ⟨hsession, hlink⟩ := hm
  have hlive : m'.wasLive = m.wasLive := by
    rcases hlink with ⟨hstate', -⟩ | ⟨hstate', -⟩
    · simp [wasLive, hstate, hstate']
    · simp [wasLive, hstate, hstate']
  have hne : m'.state ≠ .down ∧ m'.state ≠ .resetting := by
    rcases hlink with ⟨hstate', -⟩ | ⟨hstate', -⟩
    · simp [hstate']
    · simp [hstate']
  have hconfig : m'.endpointConfig = m.endpointConfig := congrArg Session.endpointConfig hsession
  have hburst : m'.maxBurstFlits = m.maxBurstFlits := congrArg Session.maxBurstFlits hsession
  have hpeer : m'.peerGeneration = m.peerGeneration := congrArg Session.peerGeneration hsession
  have hsent : m'.helloAckSent = m.helloAckSent := congrArg Session.helloAckSent hsession
  have hreceived : m'.helloAckReceived = m.helloAckReceived :=
    congrArg Session.helloAckReceived hsession
  have hcap : m'.capOfferSent = m.capOfferSent := congrArg Session.capOfferSent hsession
  have hparams : m'.paramsOfferSent = m.paramsOfferSent := congrArg Session.paramsOfferSent hsession
  constructor
  · rw [hconfig]
    apply h.rx_units
  · rw [hburst]
    apply h.burst_units
  · intro hdown
    exact absurd hdown hne.1
  · rw [hpeer, hsent]
    apply h.greeted
  · rw [hlive, hreceived]
    apply h.live
  · rw [hreceived, hpeer, hcap, hparams]
    apply h.offered
  · apply hne.2

/-- A control frame keeps the invariant.  Unless it is ignored, the negotiation goes on, or
data can not be sent. -/
theorem Inv.receives {frame : DlpControlFrame} (h : m.Inv) (hm : Receives m frame m') :
  m'.Inv ∧
    (m' = m ∨ m'.dataPathActive = false ∨ m.state = .negotiate ∧ Negotiates m m')
  := by
  have hstart : ∀ {m₀ : DlpManagedEndpoint T},
      m₀.maybeStartCapabilityExchange.2.Inv ∧
        m₀.maybeStartCapabilityExchange.2.dataPathActive = false →
      m₀.maybeStartCapabilityExchange.2.Inv ∧
        (m₀.maybeStartCapabilityExchange.2 = m ∨
          m₀.maybeStartCapabilityExchange.2.dataPathActive = false ∨
          m.state = .negotiate ∧ Negotiates m m₀.maybeStartCapabilityExchange.2) :=
    fun hm₀ => ⟨hm₀.1, .inr (.inl hm₀.2)⟩
  cases hm with
  | ignored => exact ⟨h, .inl rfl⟩
  | hello g p hnone hg =>
    apply hstart
    apply Inv.of_start
    · exact h.rx_units
    · exact h.burst_units
    · simp [greet, queueHelloAck, queueControl]
    · rfl
    · intro hreceived
      apply h.state_eq _ hreceived
      cases hpeer : m.peerGeneration with
      | none => exact hnone hpeer
      | some current => exact h.not_down hpeer
  | nextHello current p hpeer =>
    apply hstart
    cases hlive : m.wasLive with
    | true =>
      apply Inv.of_start
      · exact h.rx_units
      · exact h.burst_units
      · simp [greet, queueHelloAck, queueControl]
      · rfl
      · intro _
        rfl
    | false =>
      apply Inv.of_start
      · exact h.rx_units
      · exact h.burst_units
      · simp [greet, queueHelloAck, queueControl]
      · rfl
      · intro _
        rfl
  | helloAck g hpeer =>
    have hne : m.peerGeneration ≠ none := by simp [hpeer]
    apply hstart
    apply Inv.of_start
    · exact h.rx_units
    · exact h.burst_units
    · exact hne
    · exact h.greeted hne
    · nofun
  | firstHelloAck g hpeer =>
    apply hstart
    apply Inv.of_start
    · exact h.rx_units
    · exact h.burst_units
    · simp [greet, queueHelloAck, queueControl]
    · rfl
    · nofun
  | nextHelloAck current hpeer =>
    apply hstart
    apply Inv.of_start
    · exact h.rx_units
    · exact h.burst_units
    · simp [greet, queueHelloAck, queueControl]
    · rfl
    · nofun
  | reset g reason hpeer =>
    exact ⟨⟨h.rx_units, h.burst_units, nofun, nofun, rfl, nofun, nofun⟩, .inr (.inl rfl)⟩
  | capabilities kind g profiles rates hpeer hstate =>
    have hnegotiates := negotiates_onCapabilities hstate kind profiles rates
    exact ⟨h.negotiates hstate hnegotiates, .inr (.inr ⟨hstate, hnegotiates⟩)⟩
  | linkParameters kind g rxWindowUnits burstUnits hpeer hstate =>
    have hnegotiates := negotiates_onLinkParameters hstate kind rxWindowUnits burstUnits
    exact ⟨h.negotiates hstate hnegotiates, .inr (.inr ⟨hstate, hnegotiates⟩)⟩

/-- Using the link does not take it up or down. -/
theorem UsesLink.sameConfig (h : UsesLink m m') :
  DlpEndpoint.SameConfig m.endpoint.dlp m'.endpoint.dlp
  := by
  obtain ⟨endpoint, polls, rfl, huses⟩ := h
  apply huses.invariant (P := DlpEndpoint.SameConfig m.endpoint.dlp)
  · intro d op hd hop
    apply hd.trans
    apply DlpEndpoint.sameConfig_step
    rintro up rfl
    exact hop
  · apply DlpEndpoint.SameConfig.refl

/-- An operation keeps the invariant. -/
theorem Inv.performs (h : m.Inv) (hm : Performs m m') :
  m'.Inv
  := by
  cases hm with
  | carrierUp hstate =>
    refine ⟨h.rx_units, h.burst_units, nofun, ?_, rfl, nofun, nofun⟩
    intro hpeer
    exact absurd (h.down hstate).1 hpeer
  | carrierDown =>
    exact ⟨h.rx_units, h.burst_units, fun _ => ⟨rfl, rfl, rfl⟩, nofun, rfl, nofun, nofun⟩
  | requestReset reason hstate hreason =>
    exact ⟨h.rx_units, h.burst_units, nofun, nofun, rfl, nofun, nofun⟩
  | pollControl =>
    refine ⟨h.rx_units, h.burst_units, ?_, h.greeted, h.live, h.offered, h.not_resetting⟩
    intro hstate
    obtain ⟨hpeer, hqueue, hlink⟩ := h.down hstate
    refine ⟨hpeer, ?_, hlink⟩
    dsimp only
    rw [hqueue, List.tail_nil]
  | finishCreditSync hstate hcredit =>
    refine ⟨h.rx_units, h.burst_units, nofun, h.greeted, ?_, h.offered, nofun⟩
    rw [← h.live, wasLive, wasLive, hstate]
    rfl
  | usesLink m' hm =>
    have hconfig := hm.sameConfig
    obtain ⟨endpoint, polls, rfl, -⟩ := hm
    refine ⟨h.rx_units, h.burst_units, ?_, h.greeted, h.live, h.offered, h.not_resetting⟩
    intro hstate
    obtain ⟨hpeer, hqueue, hlink⟩ := h.down hstate
    exact ⟨hpeer, hqueue, hconfig.linkUp.trans hlink⟩

/-- Every event keeps the invariant. -/
theorem Inv.step (h : m.Inv) (event : Event T) :
  (m.step event).Inv
  := by
  cases event with
  | op op => exact h.performs (performs_perform m op)
  | receiveControl bytes =>
    rw [DlpManagedEndpoint.step, receiveControl]
    split
    · exact h
    · next frame _ => exact (h.receives (receives_onFrame m frame)).1

/-- A configuration that is accepted can be transmitted. -/
theorem Fresh.built {config : EndpointConfig} {maxBurstFlits : U32}
    (h : Fresh config maxBurstFlits m) :
  (∃ endpoint, m = build endpoint config maxBurstFlits ∧ endpoint.dlp.linkUp = false) ∧
    (∃ units, encodeParameterUnits config.rxBufferFlits = .ok units) ∧
    ∃ units, encodeParameterUnits maxBurstFlits = .ok units
  := by
  have hvalid : ∀ {u}, validateConfig config maxBurstFlits = .ok u →
      (∃ units, encodeParameterUnits config.rxBufferFlits = .ok units) ∧
      ∃ units, encodeParameterUnits maxBurstFlits = .ok units := by
    intro u hu
    rw [validateConfig, bind_eq_ok] at hu
    obtain ⟨units, hrx, hu⟩ := hu
    rw [bind_eq_ok] at hu
    obtain ⟨units', hburst, -⟩ := hu
    exact ⟨⟨units, hrx⟩, units', hburst⟩
  rcases h with ⟨address, h⟩ | ⟨suffix, h⟩
  · rw [new, bind_eq_ok] at h
    obtain ⟨u, hu, h⟩ := h
    rw [bind_eq_ok] at h
    obtain ⟨endpoint, -, h⟩ := h
    cases h
    exact ⟨⟨_, rfl, rfl⟩, hvalid hu⟩
  · rw [unconfigured, bind_eq_ok] at h
    obtain ⟨u, hu, h⟩ := h
    rw [bind_eq_ok] at h
    obtain ⟨endpoint, -, h⟩ := h
    cases h
    exact ⟨⟨_, rfl, rfl⟩, hvalid hu⟩

theorem Inv.of_fresh {config : EndpointConfig} {maxBurstFlits : U32}
    (h : Fresh config maxBurstFlits m) :
  m.Inv
  := by
  obtain ⟨⟨endpoint, rfl, hlink⟩, hrx, hburst⟩ := h.built
  exact ⟨hrx, hburst, fun _ => ⟨rfl, rfl, hlink⟩, nofun, rfl, nofun, nofun⟩

/-- The invariant holds in every run. -/
theorem Inv.of_run {config : EndpointConfig} {maxBurstFlits : U32}
    (h : Fresh config maxBurstFlits m) (events : List (Event T)) :
  (Machine.run DlpManagedEndpoint.step m events).Inv
  := Machine.invariant_run (fun _ event h => h.step event) (Inv.of_fresh h) events

/-! ### Without carrier -/

/-- Control frames arrive one after the other. -/
def receiveAll (m : DlpManagedEndpoint T) (frames : List Bytes) : DlpManagedEndpoint T :=
  Machine.run (fun m bytes => (m.receiveControl bytes).2) m frames

/-- The endpoint is down, knows nothing of the other end, has nothing to send, and its link is
down. -/
def Detached (m : DlpManagedEndpoint T) : Prop :=
  m.state = .down ∧ m.peerGeneration = none ∧ m.controlTx = [] ∧ m.endpoint.dlp.linkUp = false

/-- The bytes are the answer to a greeting of the given generation. -/
def answersHello (generation : U8) (bytes : Bytes) : Bool :=
  match DlpControlFrame.decode bytes with
  | .ok (.hello .acknowledgement _ p) => p = generation
  | _ => false

theorem answersHello_iff {generation : U8} {bytes : Bytes} :
  answersHello generation bytes = true ↔
    ∃ g, DlpControlFrame.decode bytes = .ok (.hello .acknowledgement g generation)
  := by
  rw [answersHello]
  constructor
  · intro h
    split at h
    · next g p hdecode =>
      use g
      rw [hdecode, of_decide_eq_true h]
    · cases h
  · rintro ⟨g, hdecode⟩
    rw [hdecode]
    exact decide_eq_true rfl

/-- Once an endpoint is not down, control frames do not take it down. -/
theorem receives_not_down {frame : DlpControlFrame} (hstate : m.state ≠ .down)
    (hm : Receives m frame m') :
  m'.state ≠ .down
  := by
  have hstart : ∀ m₀ : DlpManagedEndpoint T, m₀.state ≠ .down →
      m₀.maybeStartCapabilityExchange.2.state ≠ .down := by
    intro m₀ hm₀
    rw [maybeStartCapabilityExchange]
    dsimp only [queueControl]
    repeat' split
    all_goals first | exact hm₀ | nofun
  cases hm with
  | ignored => exact hstate
  | hello g p hnone hg => exact hstart _ hstate
  | nextHello current p hpeer => exact hstart _ nofun
  | helloAck g hpeer => exact hstart _ hstate
  | firstHelloAck g hpeer => exact hstart _ hstate
  | nextHelloAck current hpeer => exact hstart _ nofun
  | reset g reason hpeer => nofun
  | capabilities kind g profiles rates hpeer hneg =>
    rcases (negotiates_onCapabilities hneg kind profiles rates).2 with ⟨hstate', -⟩ | ⟨hstate', -⟩
    · rw [hstate']
      nofun
    · rw [hstate']
      nofun
  | linkParameters kind g rxWindowUnits burstUnits hpeer hneg =>
    rcases (negotiates_onLinkParameters hneg kind rxWindowUnits burstUnits).2
      with ⟨hstate', -⟩ | ⟨hstate', -⟩
    · rw [hstate']
      nofun
    · rw [hstate']
      nofun

theorem receiveAll_not_down (hstate : m.state ≠ .down) (frames : List Bytes) :
  (m.receiveAll frames).state ≠ .down
  := by
  refine Machine.invariant_run (P := fun m : DlpManagedEndpoint T => m.state ≠ .down) ?_ hstate
    frames
  intro m bytes hstate
  rw [receiveControl]
  split
  · exact hstate
  · next frame _ => exact receives_not_down hstate (receives_onFrame m frame)

/-- A frame leaves a detached endpoint as it is, unless it answers a greeting of its
generation; then the endpoint is no longer down. -/
theorem Detached.receiveControl (h : m.Inv) (hm : m.Detached) (bytes : Bytes) :
  (answersHello m.localGeneration bytes = false → (m.receiveControl bytes).2 = m) ∧
    (answersHello m.localGeneration bytes = true → (m.receiveControl bytes).2.state ≠ .down)
  := by
  obtain ⟨hstate, hpeer, -, -⟩ := hm
  rw [answersHello_iff, ← Bool.not_eq_true, answersHello_iff]
  rw [DlpManagedEndpoint.receiveControl]
  split
  · next hdecode =>
    refine ⟨fun _ => rfl, ?_⟩
    rintro ⟨g, hg⟩
    rw [hdecode] at hg
    cases hg
  next frame hdecode =>
  constructor
  · intro hno
    have hreceives := receives_onFrame m frame
    generalize (m.onFrame frame).2 = m' at hreceives ⊢
    cases hreceives with
    | ignored => rfl
    | hello g p hnone hg => exact absurd hstate (hnone hpeer)
    | nextHello current p hcurrent => simp [hpeer] at hcurrent
    | helloAck g hg => simp [hpeer] at hg
    | firstHelloAck g _ => exact absurd ⟨g, hdecode⟩ hno
    | nextHelloAck current hcurrent => simp [hpeer] at hcurrent
    | reset g reason hg => simp [hpeer] at hg
    | capabilities kind g profiles rates hg _ => simp [hpeer] at hg
    | linkParameters kind g rxWindowUnits burstUnits hg _ => simp [hpeer] at hg
  · rintro ⟨g, hg⟩
    rw [hdecode] at hg
    cases hg
    obtain ⟨rxWindowUnits, hrx⟩ := h.rx_units
    obtain ⟨burstUnits, hburst⟩ := h.burst_units
    rw [onFrame, onHello, onHelloAck, if_neg (not_not.mpr rfl), hpeer]
    have hstart := @maybeStartCapabilityExchange_eq T { m.greet g with helloAckReceived := true }
      rxWindowUnits burstUnits hrx hburst nofun rfl
    dsimp only
    rw [hstart]
    nofun

/-- An endpoint without carrier stays down, and detached, exactly as long as no frame answers
a greeting of its generation. -/
theorem stays_detached_iff {config : EndpointConfig} {maxBurstFlits : U32}
    {m₀ : DlpManagedEndpoint T} (hfresh : Fresh config maxBurstFlits m₀)
    (events : List (Event T)) (hdown : (Machine.run step m₀ events).state = .down)
    (frames : List Bytes) :
  ((Machine.run step m₀ events).receiveAll frames).Detached ↔
    ∀ bytes ∈ frames, answersHello (Machine.run step m₀ events).localGeneration bytes = false
  := by
  have hinv := Inv.of_run hfresh events
  generalize Machine.run step m₀ events = m at hdown hinv ⊢
  have hdetached : m.Detached := ⟨hdown, hinv.down hdown⟩
  induction frames with
  | nil =>
    refine iff_of_true hdetached ?_
    simp
  | cons bytes frames ih =>
    rw [receiveAll, Machine.run_cons, List.forall_mem_cons]
    obtain ⟨hstay, hleave⟩ := hdetached.receiveControl hinv bytes
    cases hanswer : answersHello m.localGeneration bytes with
    | true =>
      refine iff_of_false ?_ (fun h => nomatch h.1)
      intro hafter
      exact receiveAll_not_down (hleave hanswer) frames hafter.1
    | false =>
      rw [hstay hanswer]
      exact ih.trans (iff_and_self.mpr (fun _ => rfl))

/-- A fresh endpoint is greeted, reset, and answered as if it had another generation. -/
theorem stays_detached_iff_greeted :
  let frames : List DlpControlFrame :=
    [.hello .initial 5#8 0#8, .reset 5#8 1#8, .hello .acknowledgement 5#8 2#8]
  ∃ m : DlpManagedEndpoint .silent,
    Fresh ⟨64#32, .four, 8#8, none, false, 1#32, 32#32, ⟨true⟩⟩ 16#32 m ∧
    (m.receiveAll (frames.map DlpControlFrame.encode)).Detached
  := by
  intro frames
  obtain ⟨m, hm⟩ : ∃ m : DlpManagedEndpoint .silent,
      Fresh ⟨64#32, .four, 8#8, none, false, 1#32, 32#32, ⟨true⟩⟩ 16#32 m :=
    ⟨_, .inl ⟨⟨7#64⟩, rfl⟩⟩
  obtain ⟨⟨endpoint, rfl, -⟩, -⟩ := hm.built
  refine ⟨_, hm, ?_⟩
  apply (stays_detached_iff hm [] rfl _).mpr
  change ∀ bytes ∈ _, answersHello 1#8 bytes = false
  decide +kernel

/-- A fresh endpoint without carrier is answered a greeting it has never sent.  It starts to
negotiate. -/
theorem started_without_carrier :
  let bytes := (DlpControlFrame.hello .acknowledgement 5#8 1#8).encode
  ∃ m : DlpManagedEndpoint .silent,
    Fresh ⟨64#32, .four, 8#8, none, false, 1#32, 32#32, ⟨true⟩⟩ 16#32 m ∧ m.state = .down ∧
    (m.receiveAll [bytes]).state = .negotiate ∧
    (m.receiveAll [bytes]).peerGeneration = some 5#8 ∧
    (m.receiveAll [bytes]).controlTx ≠ []
  := by
  refine ⟨_, .inl ⟨⟨7#64⟩, rfl⟩, ?_⟩
  decide +kernel

/-! ### A repeated greeting -/

theorem nextGeneration_ne :
  ∀ g : U8, nextGeneration g ≠ g
  := by decide

/-- Starting the exchange changes neither the generations nor what has been heard. -/
theorem maybeStartCapabilityExchange_keeps (m : DlpManagedEndpoint T) :
  m.maybeStartCapabilityExchange.2.localGeneration = m.localGeneration ∧
    m.maybeStartCapabilityExchange.2.peerGeneration = m.peerGeneration ∧
    m.maybeStartCapabilityExchange.2.helloAckReceived = m.helloAckReceived
  := by
  rw [maybeStartCapabilityExchange]
  dsimp only [queueControl]
  repeat' split
  all_goals exact ⟨rfl, rfl, rfl⟩

/-- While the generation of the other end is the same, so is that of this end, and the answer
to its greeting is not forgotten. -/
def Keeps (m m' : DlpManagedEndpoint T) : Prop :=
  m'.localGeneration = m.localGeneration ∧ (m.helloAckReceived → m'.helloAckReceived)

theorem keeps_of_performs {g : U8} (h : m.Inv) (hm : Performs m m')
    (hpeer : m.peerGeneration = some g) (hpeer' : m'.peerGeneration = some g) :
  Keeps m m'
  := by
  cases hm with
  | carrierUp hstate => exact absurd hstate (h.not_down hpeer)
  | carrierDown => cases hpeer'
  | requestReset reason hstate hreason => cases hpeer'
  | pollControl => exact ⟨rfl, id⟩
  | finishCreditSync hstate hcredit => exact ⟨rfl, id⟩
  | usesLink m' hm =>
    obtain ⟨endpoint, polls, rfl, -⟩ := hm
    exact ⟨rfl, id⟩

theorem keeps_of_negotiates (hm : Negotiates m m') :
  Keeps m m'
  := by
  have hlocal : m'.localGeneration = m.localGeneration := congrArg Session.localGeneration hm.1
  have hreceived : m'.helloAckReceived = m.helloAckReceived :=
    congrArg Session.helloAckReceived hm.1
  exact ⟨hlocal, fun h => hreceived.trans h⟩

theorem keeps_of_receives {g : U8} {frame : DlpControlFrame} (hm : Receives m frame m')
    (hpeer : m.peerGeneration = some g) (hpeer' : m'.peerGeneration = some g) :
  Keeps m m'
  := by
  cases hm with
  | ignored => exact ⟨rfl, id⟩
  | hello g' p hnone hg =>
    obtain ⟨hlocal, -, hreceived⟩ := maybeStartCapabilityExchange_keeps (m.greet g')
    exact ⟨hlocal, fun h => hreceived.trans h⟩
  | nextHello current p hcurrent =>
    rw [(maybeStartCapabilityExchange_keeps _).2.1] at hpeer'
    rw [hpeer] at hcurrent
    cases hcurrent
    exact absurd (Option.some.inj hpeer') (nextGeneration_ne g)
  | helloAck g' hg' =>
    obtain ⟨hlocal, -, hreceived⟩ :=
      maybeStartCapabilityExchange_keeps { m with helloAckReceived := true }
    exact ⟨hlocal, fun _ => hreceived⟩
  | firstHelloAck g' hnone =>
    rw [hpeer] at hnone
    cases hnone
  | nextHelloAck current hcurrent =>
    rw [(maybeStartCapabilityExchange_keeps _).2.1] at hpeer'
    rw [hpeer] at hcurrent
    cases hcurrent
    exact absurd (Option.some.inj hpeer') (nextGeneration_ne g)
  | reset g' reason hg' => cases hpeer'
  | capabilities kind g' profiles rates hg' hstate =>
    exact keeps_of_negotiates (negotiates_onCapabilities hstate kind profiles rates)
  | linkParameters kind g' rxWindowUnits burstUnits hg' hstate =>
    exact keeps_of_negotiates (negotiates_onLinkParameters hstate kind rxWindowUnits burstUnits)

theorem keeps_step {g : U8} (h : m.Inv) (event : Event T) (hpeer : m.peerGeneration = some g)
    (hpeer' : (m.step event).peerGeneration = some g) :
  Keeps m (m.step event)
  := by
  cases event with
  | op op => exact keeps_of_performs h (performs_perform m op) hpeer hpeer'
  | receiveControl bytes =>
    rw [DlpManagedEndpoint.step, receiveControl] at hpeer' ⊢
    cases hdecode : DlpControlFrame.decode bytes with
    | error err => exact ⟨rfl, id⟩
    | ok frame =>
      rw [hdecode] at hpeer'
      exact keeps_of_receives (receives_onFrame m frame) hpeer hpeer'

/-- While the other end is known to have the generation `g`, nothing is forgotten. -/
theorem keeps_run {g : U8} (h : m.Inv) (events : List (Event T))
    (hpeer : ∀ start, start <+: events → (Machine.run step m start).peerGeneration = some g) :
  Keeps m (Machine.run step m events)
  := by
  induction events generalizing m with
  | nil => exact ⟨rfl, id⟩
  | cons event events ih =>
    have hnow := hpeer [] List.nil_prefix
    have hnext := hpeer [event] (List.prefix_append [event] events)
    obtain ⟨hlocal, hreceived⟩ := keeps_step h event hnow hnext
    have hrest : ∀ start, start <+: events →
        (Machine.run step (m.step event) start).peerGeneration = some g := by
      intro start hstart
      apply hpeer (event :: start) (List.cons_prefix_cons.mpr ⟨rfl, hstart⟩)
    obtain ⟨hlocal', hreceived'⟩ := ih (h.step event) hrest
    exact ⟨hlocal'.trans hlocal, fun h => hreceived' (hreceived h)⟩

/-- The frame is accepted and changes nothing but that the other end is answered, if it does
that. -/
def Harmless (m : DlpManagedEndpoint T) (bytes : Bytes) : Prop :=
  let (result, m') := m.receiveControl bytes
  result = .ok () ∧ m'.state = m.state ∧ m'.negotiated = m.negotiated ∧
    m'.localGeneration = m.localGeneration ∧ m'.peerGeneration = m.peerGeneration ∧
    m'.endpoint.dlp = m.endpoint.dlp ∧
    (m'.controlTx = m.controlTx ∨ ∃ g,
      m'.controlTx = m.controlTx ++ [.hello .acknowledgement m.localGeneration g])

/-- Starting the exchange a second time puts an endpoint that has installed a profile back to
negotiating, and changes nothing else. -/
theorem Inv.restart_eq (h : m.Inv) {controlTx : List DlpControlFrame}
    (hpeer : m.peerGeneration ≠ none) :
  { m with controlTx }.maybeStartCapabilityExchange = (.ok (),
    if m.helloAckReceived then { m with state := .negotiate, controlTx }
    else { m with controlTx })
  := by
  obtain ⟨rxWindowUnits, hrx⟩ := h.rx_units
  obtain ⟨burstUnits, hburst⟩ := h.burst_units
  rw [@maybeStartCapabilityExchange_eq T { m with controlTx } rxWindowUnits burstUnits hrx hburst
    hpeer (h.greeted hpeer)]
  dsimp only
  split
  · next hreceived =>
    obtain ⟨-, hcap, hparams⟩ := h.offered hreceived
    simp [pendingOffers, hcap, hparams]
  · rfl

/-- A greeting of the known generation, or an answer when one has been received, is harmless
unless a profile has been installed: then the endpoint falls back to negotiating. -/
theorem Inv.harmless_iff {kind : DlpHelloKind} {g p : U8} {bytes : Bytes} (h : m.Inv)
    (hdecode : DlpControlFrame.decode bytes = .ok (.hello kind g p))
    (hpeer : m.peerGeneration = some g)
    (hack : kind = .acknowledgement → p = m.localGeneration ∧ m.helloAckReceived) :
  m.Harmless bytes ↔ m.state ≠ .creditSync ∧ m.state ≠ .up
  := by
  have hknown : m.peerGeneration ≠ none := by simp [hpeer]
  have hreceive : ∃ controlTx,
      (controlTx = m.controlTx ∨
        ∃ g', controlTx = m.controlTx ++ [.hello .acknowledgement m.localGeneration g']) ∧
      m.receiveControl bytes = { m with controlTx }.maybeStartCapabilityExchange := by
    rw [receiveControl, hdecode]
    cases kind with
    | initial =>
      refine ⟨_, .inr ⟨g, rfl⟩, ?_⟩
      dsimp only
      rw [onFrame, onHello, onHelloInitial, hpeer]
      dsimp only
      rw [if_neg (not_not.mpr rfl), greet, queueHelloAck, queueControl, ← hpeer,
        ← h.greeted hknown]
    | acknowledgement =>
      obtain ⟨hlocal, hreceived⟩ := hack rfl
      refine ⟨_, .inl rfl, ?_⟩
      dsimp only
      rw [onFrame, onHello, onHelloAck, if_neg (not_not.mpr hlocal), hpeer]
      dsimp only
      rw [if_neg (not_not.mpr rfl), ← hreceived]
  obtain ⟨controlTx, hqueue, hreceive⟩ := hreceive
  rw [h.restart_eq hknown] at hreceive
  rw [Harmless, hreceive]
  dsimp only
  cases hreceived : m.helloAckReceived with
  | false =>
    have hstate := h.state_eq (h.not_down hpeer) hreceived
    rw [if_neg nofun, hstate]
    refine iff_of_true ⟨rfl, ?_⟩ ⟨nofun, nofun⟩
    exact ⟨rfl, rfl, rfl, rfl, rfl, hqueue⟩
  | true =>
    rw [if_pos rfl]
    have hlive := h.live
    rw [hreceived, wasLive] at hlive
    cases hstate : m.state with
    | negotiate =>
      refine iff_of_true ⟨rfl, rfl, ?_⟩ ⟨nofun, nofun⟩
      exact ⟨rfl, rfl, rfl, rfl, hqueue⟩
    | creditSync => exact iff_of_false (fun hm => nomatch hm.2.1) (fun hm => hm.1 rfl)
    | up => exact iff_of_false (fun hm => nomatch hm.2.1) (fun hm => hm.2 rfl)
    | down => simp [hstate] at hlive
    | hello => simp [hstate] at hlive
    | resetting => simp [hstate] at hlive

/-- An answer after which the generations are those that it names has been taken as the answer
to the greeting of this end. -/
theorem helloAckReceived_of_names {g p : U8} {bytes : Bytes}
    (hdecode : DlpControlFrame.decode bytes = .ok (.hello .acknowledgement g p))
    (hpeer : (m.receiveControl bytes).2.peerGeneration = some g)
    (hlocal : p = (m.receiveControl bytes).2.localGeneration) :
  (m.receiveControl bytes).2.helloAckReceived
  := by
  rw [receiveControl, hdecode] at hpeer hlocal ⊢
  dsimp only at hpeer hlocal ⊢
  rw [onFrame, onHello, onHelloAck] at hpeer hlocal ⊢
  by_cases hnames : p ≠ m.localGeneration
  · rw [if_pos hnames] at hlocal
    contradiction
  rw [if_neg hnames] at hpeer hlocal ⊢
  cases hcurrent : m.peerGeneration with
  | none => rw [(maybeStartCapabilityExchange_keeps _).2.2]
  | some current =>
    rw [hcurrent] at hpeer hlocal
    dsimp only at hpeer hlocal ⊢
    by_cases hg : current ≠ g
    · rw [if_pos hg] at hpeer hlocal
      split at hpeer
      · rw [hcurrent] at hpeer
        exact absurd (Option.some.inj hpeer) hg
      · next hnext =>
        rw [if_neg hnext, (maybeStartCapabilityExchange_keeps _).1] at hlocal
        rw [not_not.mp hnames] at hlocal
        exact absurd hlocal.symm (nextGeneration_ne _)
    · rw [if_neg hg, (maybeStartCapabilityExchange_keeps _).2.2]

/-- An endpoint receives a `HELLO` again, after one that it has received while the other end
was known to have the same generation all the time.  The second one is harmless exactly when
no profile is installed yet. -/
theorem repeatedHello_harmless_iff {config : EndpointConfig} {maxBurstFlits : U32}
    {m₀ : DlpManagedEndpoint T} (hfresh : Fresh config maxBurstFlits m₀)
    (before after : List (Event T)) {bytes : Bytes} {kind : DlpHelloKind} {g p : U8}
    (hdecode : DlpControlFrame.decode bytes = .ok (.hello kind g p))
    (hpeer : ∀ start, start <+: after →
      (Machine.run step m₀ (before ++ .receiveControl bytes :: start)).peerGeneration = some g)
    (hnames : kind = .acknowledgement →
      p = (Machine.run step m₀ (before ++ .receiveControl bytes :: after)).localGeneration) :
  (Machine.run step m₀ (before ++ .receiveControl bytes :: after)).Harmless bytes ↔
    (Machine.run step m₀ (before ++ .receiveControl bytes :: after)).state ≠ .creditSync ∧
    (Machine.run step m₀ (before ++ .receiveControl bytes :: after)).state ≠ .up
  := by
  have hinv := Inv.of_run hfresh before
  simp only [Machine.run_append, Machine.run_cons] at hpeer hnames ⊢
  generalize Machine.run step m₀ before = m at hinv hpeer hnames ⊢
  have hinv' := hinv.step (.receiveControl bytes)
  have hkeeps := keeps_run hinv' after hpeer
  have hfinal : (Machine.run step (m.step (.receiveControl bytes)) after).Inv :=
    Machine.invariant_run (P := Inv) (fun _ event h => h.step event) hinv' after
  apply hfinal.harmless_iff hdecode (hpeer after (List.prefix_refl _))
  intro hkind
  have hp := hnames hkind
  refine ⟨hp, hkeeps.2 ?_⟩
  rw [hkeeps.1] at hp
  subst hkind
  exact helloAckReceived_of_names hdecode (hpeer [] List.nil_prefix) hp

/-- Frames arrive one after the other. -/
def arrivals (frames : List DlpControlFrame) : List (Event T) :=
  frames.map (fun frame => .receiveControl frame.encode)

/-- An endpoint is greeted, answered, and greeted again. -/
theorem repeatedHello_harmless_iff_negotiate :
  let bytes := (DlpControlFrame.hello .initial 5#8 0#8).encode
  let after : List (Event .silent) := arrivals [.hello .acknowledgement 5#8 1#8]
  ∃ m : DlpManagedEndpoint .silent,
    Fresh ⟨64#32, .four, 8#8, none, false, 1#32, 32#32, ⟨true⟩⟩ 16#32 m ∧
    (Machine.run step m ([.op .carrierUp] ++ .receiveControl bytes :: after)).Harmless bytes
  := by
  intro bytes after
  refine ⟨_, .inl ⟨⟨7#64⟩, rfl⟩, ?_⟩
  apply (@repeatedHello_harmless_iff .silent
    ⟨64#32, .four, 8#8, none, false, 1#32, 32#32, ⟨true⟩⟩ 16#32 _ (.inl ⟨⟨7#64⟩, rfl⟩)
    [.op .carrierUp] after bytes .initial 5#8 0#8 _ _ nofun).mpr
  · decide +kernel
  · decide +kernel
  · intro start hstart
    rw [← List.mem_inits] at hstart
    revert start
    decide +kernel

/-- An endpoint has been greeted, and has installed a profile with the other end.  When the
greeting arrives once more, it is back to negotiating. -/
theorem repeatedHello_restarts :
  let bytes := (DlpControlFrame.hello .initial 5#8 0#8).encode
  let after : List (Event .silent) := arrivals
    [.hello .acknowledgement 5#8 1#8, .capabilities .offer 5#8 0b11#8 0b111#8,
      .linkParameters .offer 5#8 8#8 4#8, .capabilities .selection 5#8 0b10#8 0b100#8,
      .linkParameters .selection 5#8 16#8 4#8, .capabilities .confirmation 5#8 0b10#8 0b100#8,
      .linkParameters .confirmation 5#8 8#8 4#8]
  ∃ m : DlpManagedEndpoint .silent,
    Fresh ⟨64#32, .four, 8#8, none, false, 1#32, 32#32, ⟨true⟩⟩ 16#32 m ∧
    (∀ start ∈ after.inits, (Machine.run step m
      ([.op .carrierUp] ++ .receiveControl bytes :: start)).peerGeneration = some 5#8) ∧
    let m' := Machine.run step m ([.op .carrierUp] ++ .receiveControl bytes :: after)
    m'.state = .creditSync ∧ (m'.receiveControl bytes).2.state = .negotiate ∧
      ¬ m'.Harmless bytes
  := by
  intro bytes after
  refine ⟨_, .inl ⟨⟨7#64⟩, rfl⟩, ?_⟩
  have hstate : ∀ m : DlpManagedEndpoint .silent, m.state = .creditSync →
      (m.receiveControl bytes).2.state = .negotiate → ¬ m.Harmless bytes := by
    intro m hm hm' hharmless
    have hsame : (m.receiveControl bytes).2.state = m.state := hharmless.2.1
    rw [hm, hm'] at hsame
    cases hsame
  refine ⟨?_, ?_, ?_, hstate _ ?_ ?_⟩
  all_goals decide +kernel

end DlpManagedEndpoint

end SmolGnet
