import SmolGnet.Library.Causal
import SmolGnet.Managed.Lossy

/-!
# The signals of a generation

In one generation each end of a managed link sends eight frames: it greets, answers, offers,
selects and confirms.  What an endpoint knows and has sent in a generation is determined by
the set of signals that it has received, and each signal that it receives makes it send the
signals that answer it.
-/

namespace SmolGnet

open LinkSettings

/-- The frames that an end sends in one generation. -/
inductive Signal where
  | hello
  | helloAck
  | capOffer
  | capSelection
  | capConfirmation
  | paramsOffer
  | paramsSelection
  | paramsConfirmation
  deriving DecidableEq, Repr

namespace Signal

/-- The frame of a signal from the end with the settings `x` to that with the settings `y`, in
the generation `n`. -/
def frame (x y : LinkSettings) (n : U8) : Signal → DlpControlFrame
  | hello => .hello .initial n 0#8
  | helloAck => .hello .acknowledgement n n
  | capOffer => x.capabilities y n .offer
  | capSelection => x.capabilities y n .selection
  | capConfirmation => x.capabilities y n .confirmation
  | paramsOffer => x.parameters y n .offer
  | paramsSelection => x.parameters y n .selection
  | paramsConfirmation => x.parameters y n .confirmation

/-- The signal that has to be received before. -/
def needs : Signal → Option Signal
  | hello => none
  | helloAck => some hello
  | capOffer => some helloAck
  | capSelection => some capOffer
  | capConfirmation => some capOffer
  | paramsOffer => some helloAck
  | paramsSelection => some paramsOffer
  | paramsConfirmation => some paramsOffer

/-- The signals that answer a signal. -/
def answers : Signal → List Signal
  | hello => [helloAck]
  | helloAck => [capOffer, paramsOffer]
  | capOffer => [capSelection]
  | capSelection => [capConfirmation]
  | capConfirmation => []
  | paramsOffer => [paramsSelection]
  | paramsSelection => [paramsConfirmation]
  | paramsConfirmation => []

/-- The signals that an end has sent that has received `heard`. -/
def said (heard : Signal → Bool) : Signal → Bool
  | hello => true
  | helloAck => heard hello
  | capOffer => heard helloAck
  | capSelection => heard capOffer
  | capConfirmation => heard capSelection
  | paramsOffer => heard helloAck
  | paramsSelection => heard paramsOffer
  | paramsConfirmation => heard paramsSelection

/-- With each signal the one that it needs has been received. -/
def Closed (heard : Signal → Bool) : Prop :=
  ∀ k j, heard k = true → k.needs = some j → heard j = true

/-- Everything has been selected and confirmed. -/
def complete (heard : Signal → Bool) : Bool :=
  heard capSelection && heard capConfirmation && heard paramsSelection &&
    heard paramsConfirmation

theorem frame_sends {x y : LinkSettings} {n : U8} (hn : IsGeneration n) (k : Signal) :
  Sends x y (k.frame x y n)
  := by
  cases k with
  | hello => exact .hello n hn
  | helloAck => exact .helloAck n n hn hn
  | capOffer => exact .capabilities n .offer hn
  | capSelection => exact .capabilities n .selection hn
  | capConfirmation => exact .capabilities n .confirmation hn
  | paramsOffer => exact .parameters n .offer hn
  | paramsSelection => exact .parameters n .selection hn
  | paramsConfirmation => exact .parameters n .confirmation hn

variable {heard : Signal → Bool}

theorem closed_none :
  Closed (fun _ => false)
  := nofun

theorem Closed.update (h : Closed heard) {k : Signal}
    (hneeds : ∀ j, k.needs = some j → heard j = true) :
  Closed (Function.update heard k true)
  := by
  intro i j hi hj
  have hbefore : heard j = true → Function.update heard k true j = true :=
    fun hj => Causal.takeAll_of_taken hj [k]
  apply hbefore
  by_cases hik : i = k
  · rw [hik] at hj
    exact hneeds j hj
  · rw [Function.update_of_ne hik] at hi
    exact h i j hi hj

/-- Who has received everything has received the greeting, the answer and the offers. -/
theorem Closed.of_complete (h : Closed heard) (hcomplete : complete heard = true) (k : Signal) :
  heard k = true
  := by
  rw [complete, Bool.and_eq_true, Bool.and_eq_true, Bool.and_eq_true] at hcomplete
  obtain ⟨⟨⟨hcs, hcc⟩, hps⟩, hpc⟩ := hcomplete
  have hco := h capSelection capOffer hcs rfl
  have hpo := h paramsSelection paramsOffer hps rfl
  have hack := h capOffer helloAck hco rfl
  have hhello := h helloAck hello hack rfl
  cases k with
  | hello => exact hhello
  | helloAck => exact hack
  | capOffer => exact hco
  | capSelection => exact hcs
  | capConfirmation => exact hcc
  | paramsOffer => exact hpo
  | paramsSelection => exact hps
  | paramsConfirmation => exact hpc

/-- A signal makes an end send the answers to it. -/
theorem said_update (heard : Signal → Bool) (k : Signal) :
  said (Function.update heard k true) = Causal.takeAll (said heard) k.answers
  := by
  funext j
  cases k <;> cases j <;> rfl

/-- The answers can be received after everything that has been sent before. -/
theorem ordered_answers (h : Closed heard) {k : Signal} (hk : heard k = false)
    (hneeds : ∀ j, k.needs = some j → heard j = true) :
  Causal.Ordered needs (said heard) k.answers
  := by
  cases k with
  | hello => exact ⟨hk, fun j hj => by cases hj; rfl, trivial⟩
  | helloAck =>
    have hhello := hneeds hello rfl
    refine ⟨hk, ?_, hk, ?_, trivial⟩
    · rintro j ⟨⟩
      exact hhello
    · rintro j ⟨⟩
      exact hhello
  | capOffer =>
    refine ⟨hk, ?_, trivial⟩
    rintro j ⟨⟩
    exact hneeds helloAck rfl
  | capSelection =>
    refine ⟨hk, ?_, trivial⟩
    rintro j ⟨⟩
    exact h capOffer helloAck (hneeds capOffer rfl) rfl
  | capConfirmation => trivial
  | paramsOffer =>
    refine ⟨hk, ?_, trivial⟩
    rintro j ⟨⟩
    exact hneeds helloAck rfl
  | paramsSelection =>
    refine ⟨hk, ?_, trivial⟩
    rintro j ⟨⟩
    exact h paramsOffer helloAck (hneeds paramsOffer rfl) rfl
  | paramsConfirmation => trivial

/-- Two ends that have received all that the other one has sent have received everything. -/
theorem all_heard {heard heard' : Signal → Bool} (h : heard' = said heard)
    (h' : heard = said heard') (k : Signal) :
  heard k = true
  := by
  have hhello : ∀ {a b : Signal → Bool}, a = said b → a hello = true := by
    intro a b hab
    rw [hab]
    rfl
  have hack : heard helloAck = true := by
    rw [h']
    exact hhello h
  have hack' : heard' helloAck = true := by
    rw [h]
    exact hhello h'
  have hco : heard capOffer = true := by
    rw [h']
    exact hack'
  have hco' : heard' capOffer = true := by
    rw [h]
    exact hack
  have hpo : heard paramsOffer = true := by
    rw [h']
    exact hack'
  have hpo' : heard' paramsOffer = true := by
    rw [h]
    exact hack
  have hcs' : heard' capSelection = true := by
    rw [h]
    exact hco
  have hps' : heard' paramsSelection = true := by
    rw [h]
    exact hpo
  cases k with
  | hello => exact hhello h'
  | helloAck => exact hack
  | capOffer => exact hco
  | paramsOffer => exact hpo
  | capSelection =>
    rw [h']
    exact hco'
  | paramsSelection =>
    rw [h']
    exact hpo'
  | capConfirmation =>
    rw [h']
    exact hcs'
  | paramsConfirmation =>
    rw [h']
    exact hps'

end Signal

/-! ### What an endpoint knows in a generation -/

namespace DlpManagedEndpoint

variable {T : Transport} {m m' : DlpManagedEndpoint T} {x y : LinkSettings} {n : U8}
  {heard : Signal → Bool}

/-- The endpoint has received the signals `heard` in the generation `n`. -/
structure Heard (x y : LinkSettings) (n : U8) (heard : Signal → Bool)
    (m : DlpManagedEndpoint T) : Prop where
  config : m.endpointConfig = x.config
  burst : m.maxBurstFlits = x.maxBurstFlits
  local_generation : m.localGeneration = n
  peer_generation : m.peerGeneration = if heard .hello then some n else none
  ack_sent : m.helloAckSent = heard .hello
  ack_received : m.helloAckReceived = heard .helloAck
  cap_offer_sent : m.capOfferSent = heard .helloAck
  params_offer_sent : m.paramsOfferSent = heard .helloAck
  cap_offer : m.peerCapOffer =
    if heard .capOffer then some ⟨supportedModeFlags y.config.vcMode, rateAll⟩ else none
  mode : m.selectedMode = if heard .capOffer then some (agreedMode x y) else none
  rate : m.selectedRate = if heard .capOffer then some agreedRate else none
  cap_selection_sent : m.capSelectionSent = heard .capOffer
  cap_confirmation_sent : m.capConfirmationSent = heard .capSelection
  cap_confirmation_received : m.capConfirmationReceived = heard .capConfirmation
  params_offer : m.peerParamsOffer =
    if heard .paramsOffer then some ⟨y.config.rxBufferFlits, y.maxBurstFlits⟩ else none
  peer_rx : m.selectedPeerRx =
    if heard .paramsOffer then some y.config.rxBufferFlits else none
  selected_burst : m.selectedBurst = if heard .paramsOffer then some (agreedBurst x y) else none
  params_selection_sent : m.paramsSelectionSent = heard .paramsOffer
  params_confirmation_sent : m.paramsConfirmationSent = heard .paramsSelection
  params_confirmation_received : m.paramsConfirmationReceived = heard .paramsConfirmation

/-- The state of an endpoint that has received the signals `heard`. -/
def InState (heard : Signal → Bool) (state : DlpControlState) : Prop :=
  if heard .helloAck then
    if Signal.complete heard then state = .creditSync ∨ state = .up else state = .negotiate
  else state = .hello

/-- The endpoint has received the signals `heard`, each after the one that it needs, and is in
the state for it. -/
structure Reached (x y : LinkSettings) (n : U8) (heard : Signal → Bool)
    (m : DlpManagedEndpoint T) : Prop extends Heard x y n heard m where
  closed : Signal.Closed heard
  in_state : InState heard m.state

theorem Heard.informed (h : m.Heard x y n heard) :
  m.Informed x y
  := by
  have hite : ∀ {α : Type} {b : Bool} {o : Option α} {a a' : α},
      (o = if b then some a else none) → o = some a' → a' = a := by
    intro α b o a a' ho ha'
    rw [ho] at ha'
    split at ha'
    · exact (Option.some.inj ha').symm
    · cases ha'
  constructor
  · exact h.config
  · exact h.burst
  · exact fun _ => hite h.cap_offer
  · exact fun _ => hite h.mode
  · exact fun _ => hite h.rate
  · exact fun _ => hite h.params_offer
  · exact fun _ => hite h.peer_rx
  · exact fun _ => hite h.selected_burst

/-- An endpoint that has not received everything and has been answered negotiates. -/
theorem Reached.negotiate (h : m.Reached x y n heard) {k : Signal} (hk : heard k = false)
    (hack : heard .helloAck = true) :
  m.state = .negotiate ∧ m.peerGeneration = some n
  := by
  have hstate := h.in_state
  have hcomplete : ¬ Signal.complete heard = true := by
    intro hcomplete
    rw [h.closed.of_complete hcomplete k] at hk
    cases hk
  rw [InState, if_pos hack, if_neg hcomplete] at hstate
  use hstate
  rw [h.peer_generation, if_pos (h.closed .helloAck .hello hack rfl)]

/-- What is installed. -/
theorem maybeInstallProfile_eq {mode : VcMode} {burst peerRx : U32} {dlp : DlpEndpoint}
    (hready : ¬ (m.state ≠ .negotiate ∨ !m.capConfirmationSent ∨ !m.capConfirmationReceived ∨
      !m.paramsConfirmationSent ∨ !m.paramsConfirmationReceived))
    (hmode : m.selectedMode = some mode) (hburst : m.selectedBurst = some burst)
    (hpeerRx : m.selectedPeerRx = some peerRx)
    (hdlp : DlpEndpoint.new
      { gdp := m.endpointConfig.gdpWire
        localPrefix := m.endpointConfig.localContextPrefix.getD 0#64 &&& ~~~0xffff#64
        vcMode := mode
        rxBufferFlits := m.endpointConfig.rxBufferFlits
        controlWindowFlits := dlpReservedControlWindowFlits } = .ok dlp) :
  m.maybeInstallProfile = (.ok (), { m with
    endpoint := { m.endpoint with dlp }
    negotiated := some ⟨mode, burst, peerRx, dlpReservedControlWindowFlits⟩
    state := .creditSync })
  := by
  rw [maybeInstallProfile, if_neg hready, hmode, hburst, hpeerRx]
  dsimp only
  rw [hdlp]

/-- Everything has been received, so the profile is installed; or nothing happens. -/
theorem Heard.install (hx : x.Valid) (h : m.Heard x y n heard) (hclosed : Signal.Closed heard)
    (hstate : m.state = .negotiate) (hack : heard .helloAck = true) :
  m.maybeInstallProfile.1 = .ok () ∧ m.maybeInstallProfile.2.Reached x y n heard ∧
    m.maybeInstallProfile.2.controlTx = m.controlTx
  := by
  cases hcomplete : Signal.complete heard with
  | true =>
    have hall := hclosed.of_complete hcomplete
    have hrx : m.endpointConfig.rxBufferFlits ≠ 0#32 := by
      intro hzero
      have hunits := hx.rx.1
      rw [← h.config, hzero] at hunits
      cases hunits
    have hnew : ∃ dlp, DlpEndpoint.new
        { gdp := m.endpointConfig.gdpWire
          localPrefix := m.endpointConfig.localContextPrefix.getD 0#64 &&& ~~~0xffff#64
          vcMode := agreedMode x y
          rxBufferFlits := m.endpointConfig.rxBufferFlits
          controlWindowFlits := dlpReservedControlWindowFlits } = .ok dlp := by
      rw [DlpEndpoint.new, if_neg]
      · exact ⟨_, rfl⟩
      · rintro (hzero | hzero)
        · exact hrx hzero
        · cases hzero
    obtain ⟨dlp, hdlp⟩ := hnew
    have hready : ¬ (m.state ≠ .negotiate ∨ !m.capConfirmationSent ∨
        !m.capConfirmationReceived ∨ !m.paramsConfirmationSent ∨
        !m.paramsConfirmationReceived) := by
      simp [hstate, h.cap_confirmation_sent, h.cap_confirmation_received,
        h.params_confirmation_sent, h.params_confirmation_received, hall]
    rw [maybeInstallProfile_eq hready (h.mode.trans (if_pos (hall _)))
      (h.selected_burst.trans (if_pos (hall _))) (h.peer_rx.trans (if_pos (hall _))) hdlp]
    refine ⟨rfl, ⟨{ h with }, hclosed, ?_⟩, rfl⟩
    rw [InState, if_pos hack, if_pos hcomplete]
    exact .inl rfl
  | false =>
    rw [maybeInstallProfile, if_pos]
    · refine ⟨rfl, ⟨h, hclosed, ?_⟩, rfl⟩
      rw [InState, if_pos hack, hcomplete]
      exact hstate
    · rw [Signal.complete] at hcomplete
      simp only [Bool.and_eq_false_iff] at hcomplete
      rw [h.cap_confirmation_sent, h.cap_confirmation_received, h.params_confirmation_sent,
        h.params_confirmation_received]
      simp only [Bool.not_eq_true']
      tauto

/-! ### What a signal does -/

/-- What is to be shown of the signal `k`: it is accepted, and answered. -/
def Takes (x y : LinkSettings) (n : U8) (heard : Signal → Bool) (m : DlpManagedEndpoint T)
    (k : Signal) : Prop :=
  (m.onFrame (k.frame y x n)).1 = .ok () ∧
    (m.onFrame (k.frame y x n)).2.Reached x y n (Function.update heard k true) ∧
    (m.onFrame (k.frame y x n)).2.controlTx
      = m.controlTx ++ k.answers.map (Signal.frame x y n)

theorem Reached.takes_hello (h : m.Reached x y n heard) (hk : heard .hello = false) :
  m.Takes x y n heard .hello
  := by
  have hpeer : m.peerGeneration = none := by rw [h.peer_generation, hk]; rfl
  have hack : heard .helloAck = false := by
    by_contra hack
    rw [h.closed .helloAck .hello (by simpa using hack) rfl] at hk
    cases hk
  have hstate : m.state = .hello := by
    have hstate := h.in_state
    rw [InState, hack] at hstate
    exact hstate
  have honFrame : m.onFrame (Signal.frame y x n .hello) = (.ok (), m.greet n) := by
    rw [Signal.frame, onFrame, onHello, onHelloInitial, hpeer]
    dsimp only
    rw [if_neg (by simp [hstate]), maybeStartCapabilityExchange, if_pos]
    right
    left
    change (!m.helloAckReceived) = true
    rw [h.ack_received, hack]
    rfl
  rw [Takes, honFrame]
  refine ⟨rfl, ⟨{ h with peer_generation := rfl, ack_sent := rfl }, ?_, ?_⟩, ?_⟩
  · exact h.closed.update (fun _ hneeds => by cases hneeds)
  · rw [InState, if_neg]
    · exact hstate
    · rw [Function.update_of_ne (by decide), hack]
      simp
  · change m.controlTx ++ _ = m.controlTx ++ _
    rw [h.local_generation]
    rfl

/-- An answer from the generation that the other end is known to have. -/
theorem onHelloAck_eq {g : U8} (hpeer : m.peerGeneration = some g) :
  m.onHelloAck g m.localGeneration
    = { m with helloAckReceived := true }.maybeStartCapabilityExchange
  := by
  rw [onHelloAck, if_neg (not_not.mpr rfl), hpeer]
  dsimp only
  rw [if_neg (not_not.mpr rfl)]

theorem Reached.takes_helloAck (hx : x.Valid) (h : m.Reached x y n heard)
    (hk : heard .helloAck = false) (hhello : heard .hello = true) :
  m.Takes x y n heard .helloAck
  := by
  have hpeer : m.peerGeneration = some n := by rw [h.peer_generation, if_pos hhello]
  have hrx : encodeParameterUnits m.endpointConfig.rxBufferFlits
      = .ok (parameterUnits x.config.rxBufferFlits) := by
    rw [h.config]
    apply hx.rx.1
  have hburst : encodeParameterUnits m.maxBurstFlits = .ok (parameterUnits x.maxBurstFlits) := by
    rw [h.burst]
    apply hx.burst.1
  have hsent : m.helloAckSent := h.ack_sent.trans hhello
  have honFrame : m.onFrame (Signal.frame y x n .helloAck) = (.ok (),
      { m with
        helloAckReceived := true
        state := .negotiate
        controlTx := m.controlTx ++ [x.capabilities y n .offer, x.parameters y n .offer]
        capOfferSent := true
        paramsOfferSent := true }) := by
    have hoffers : { m with helloAckReceived := true }.pendingOffers
        (parameterUnits x.config.rxBufferFlits) (parameterUnits x.maxBurstFlits)
        = [x.capabilities y n .offer, x.parameters y n .offer] := by
      rw [pendingOffers]
      dsimp only
      rw [h.cap_offer_sent, h.params_offer_sent, hk, h.config, h.local_generation]
      rfl
    have hlocal := h.local_generation
    rw [Signal.frame, onFrame, onHello]
    nth_rewrite 2 [← hlocal]
    rw [onHelloAck_eq hpeer, @maybeStartCapabilityExchange_eq T
      { m with helloAckReceived := true } _ _ hrx hburst (by simp [hpeer]) hsent, hoffers]
    rfl
  rw [Takes, honFrame]
  refine ⟨rfl, ⟨{ h with
    ack_received := rfl
    cap_offer_sent := rfl
    params_offer_sent := rfl }, ?_, ?_⟩, rfl⟩
  · apply h.closed.update
    rintro j ⟨⟩
    exact hhello
  · have hcomplete : ¬ Signal.complete (Function.update heard .helloAck true) = true := by
      intro hcomplete
      have hoffer := h.closed.of_complete hcomplete .capOffer
      rw [h.closed .capOffer .helloAck hoffer rfl] at hk
      cases hk
    rw [InState, if_pos (Function.update_self ..), if_neg hcomplete]

/-- The signal that carries capabilities. -/
def capabilitySignal : DlpCapabilityKind → Signal
  | .offer => .capOffer
  | .selection => .capSelection
  | .confirmation => .capConfirmation

/-- The signal that carries parameters. -/
def parameterSignal : DlpCapabilityKind → Signal
  | .offer => .paramsOffer
  | .selection => .paramsSelection
  | .confirmation => .paramsConfirmation

/-- What is known after capabilities of the other end. -/
theorem Heard.heardCapabilities (h : m.Heard x y n heard) {kind : DlpCapabilityKind}
    (hk : heard (capabilitySignal kind) = false) :
  (m.heardCapabilities x y kind).Heard x y n (Function.update heard (capabilitySignal kind) true) ∧
    (m.heardCapabilities x y kind).controlTx
      = m.controlTx ++ (capabilitySignal kind).answers.map (Signal.frame x y n)
  := by
  cases kind with
  | offer =>
    refine ⟨{ h with cap_offer := rfl, mode := rfl, rate := rfl, cap_selection_sent := rfl }, ?_⟩
    rw [DlpManagedEndpoint.heardCapabilities, h.cap_selection_sent.trans hk, h.local_generation]
    rfl
  | selection =>
    refine ⟨{ h with cap_confirmation_sent := rfl }, ?_⟩
    rw [DlpManagedEndpoint.heardCapabilities, h.cap_confirmation_sent.trans hk, h.local_generation]
    rfl
  | confirmation =>
    refine ⟨{ h with cap_confirmation_received := rfl }, ?_⟩
    exact (List.append_nil _).symm

/-- What is known after parameters of the other end. -/
theorem Heard.heardParameters (h : m.Heard x y n heard) {kind : DlpCapabilityKind}
    (hk : heard (parameterSignal kind) = false) :
  (m.heardParameters x y kind).Heard x y n (Function.update heard (parameterSignal kind) true) ∧
    (m.heardParameters x y kind).controlTx
      = m.controlTx ++ (parameterSignal kind).answers.map (Signal.frame x y n)
  := by
  cases kind with
  | offer =>
    refine ⟨{ h with
      params_offer := rfl
      peer_rx := rfl
      selected_burst := rfl
      params_selection_sent := rfl }, ?_⟩
    rw [DlpManagedEndpoint.heardParameters, h.params_selection_sent.trans hk, h.local_generation]
    rfl
  | selection =>
    refine ⟨{ h with params_confirmation_sent := rfl }, ?_⟩
    rw [DlpManagedEndpoint.heardParameters, h.params_confirmation_sent.trans hk, h.local_generation]
    rfl
  | confirmation =>
    refine ⟨{ h with params_confirmation_received := rfl }, ?_⟩
    exact (List.append_nil _).symm

theorem Reached.expectsCapabilities (h : m.Reached x y n heard) {kind : DlpCapabilityKind}
    (hneeds : ∀ j, (capabilitySignal kind).needs = some j → heard j = true) :
  m.expectsCapabilities kind = true ∧ heard .helloAck = true
  := by
  cases kind with
  | offer => exact ⟨rfl, hneeds .helloAck rfl⟩
  | selection =>
    have hoffer := hneeds .capOffer rfl
    refine ⟨?_, h.closed .capOffer .helloAck hoffer rfl⟩
    rw [DlpManagedEndpoint.expectsCapabilities, h.cap_offer, if_pos hoffer]
    rfl
  | confirmation =>
    have hoffer := hneeds .capOffer rfl
    refine ⟨?_, h.closed .capOffer .helloAck hoffer rfl⟩
    rw [DlpManagedEndpoint.expectsCapabilities, h.mode, h.rate, if_pos hoffer, if_pos hoffer]
    rfl

theorem Reached.expectsParameters (h : m.Reached x y n heard) {kind : DlpCapabilityKind}
    (hneeds : ∀ j, (parameterSignal kind).needs = some j → heard j = true) :
  m.expectsParameters kind = true ∧ heard .helloAck = true
  := by
  cases kind with
  | offer => exact ⟨rfl, hneeds .helloAck rfl⟩
  | selection =>
    have hoffer := hneeds .paramsOffer rfl
    refine ⟨?_, h.closed .paramsOffer .helloAck hoffer rfl⟩
    rw [DlpManagedEndpoint.expectsParameters, h.params_offer, if_pos hoffer]
    rfl
  | confirmation =>
    have hoffer := hneeds .paramsOffer rfl
    refine ⟨?_, h.closed .paramsOffer .helloAck hoffer rfl⟩
    rw [DlpManagedEndpoint.expectsParameters, h.peer_rx, h.selected_burst, if_pos hoffer,
      if_pos hoffer]
    rfl

theorem Reached.takes_capabilities (hx : x.Valid) (h : m.Reached x y n heard)
    {kind : DlpCapabilityKind} (hk : heard (capabilitySignal kind) = false)
    (hneeds : ∀ j, (capabilitySignal kind).needs = some j → heard j = true) :
  m.Takes x y n heard (capabilitySignal kind)
  := by
  obtain ⟨hexpects, hack⟩ := h.expectsCapabilities hneeds
  obtain ⟨hstate, hpeer⟩ := h.negotiate hk hack
  obtain ⟨hheard, hqueue⟩ := h.heardCapabilities hk
  have hframe : (capabilitySignal kind).frame y x n = y.capabilities x n kind := by
    cases kind with
    | offer => rfl
    | selection => rfl
    | confirmation => rfl
  have hstate' : (m.heardCapabilities x y kind).state = .negotiate := by
    cases kind with
    | offer => exact hstate
    | selection => exact hstate
    | confirmation => exact hstate
  rw [Takes, hframe, h.informed.onFrame_capabilities hpeer hstate, if_pos hexpects, ← hqueue]
  exact hheard.install hx (h.closed.update hneeds) hstate' (Causal.takeAll_of_taken hack [_])

theorem Reached.takes_parameters (hx : x.Valid) (hy : y.Valid) (h : m.Reached x y n heard)
    {kind : DlpCapabilityKind} (hk : heard (parameterSignal kind) = false)
    (hneeds : ∀ j, (parameterSignal kind).needs = some j → heard j = true) :
  m.Takes x y n heard (parameterSignal kind)
  := by
  obtain ⟨hexpects, hack⟩ := h.expectsParameters hneeds
  obtain ⟨hstate, hpeer⟩ := h.negotiate hk hack
  obtain ⟨hheard, hqueue⟩ := h.heardParameters hk
  have hframe : (parameterSignal kind).frame y x n = y.parameters x n kind := by
    cases kind with
    | offer => rfl
    | selection => rfl
    | confirmation => rfl
  have hstate' : (m.heardParameters x y kind).state = .negotiate := by
    cases kind with
    | offer => exact hstate
    | selection => exact hstate
    | confirmation => exact hstate
  rw [Takes, hframe, h.informed.onFrame_parameters hx hy hpeer hstate, if_pos hexpects, ← hqueue]
  exact hheard.install hx (h.closed.update hneeds) hstate' (Causal.takeAll_of_taken hack [_])

/-- A signal that has not been received, and comes after the one that it needs, is accepted
and answered. -/
theorem Reached.takes (hx : x.Valid) (hy : y.Valid) (h : m.Reached x y n heard) {k : Signal}
    (hk : heard k = false) (hneeds : ∀ j, k.needs = some j → heard j = true) :
  m.Takes x y n heard k
  := by
  cases k with
  | hello => exact h.takes_hello hk
  | helloAck => exact h.takes_helloAck hx hk (hneeds .hello rfl)
  | capOffer => exact @Reached.takes_capabilities T m x y n heard hx h .offer hk hneeds
  | capSelection => exact @Reached.takes_capabilities T m x y n heard hx h .selection hk hneeds
  | capConfirmation =>
    exact @Reached.takes_capabilities T m x y n heard hx h .confirmation hk hneeds
  | paramsOffer => exact @Reached.takes_parameters T m x y n heard hx hy h .offer hk hneeds
  | paramsSelection =>
    exact @Reached.takes_parameters T m x y n heard hx hy h .selection hk hneeds
  | paramsConfirmation =>
    exact @Reached.takes_parameters T m x y n heard hx hy h .confirmation hk hneeds

/-- A frame that is not a greeting does nothing when the other end is not known. -/
theorem onFrame_of_unknown {frame : DlpControlFrame} (hpeer : m.peerGeneration = none)
    (hframe : ∀ kind g p, frame ≠ .hello kind g p) :
  m.onFrame frame = (.ok (), m)
  := by
  cases frame with
  | hello kind g p => exact absurd rfl (hframe kind g p)
  | reset g reason =>
    rw [onFrame, onReset, if_pos]
    simp [hpeer]
  | capabilities kind g profiles rates =>
    rw [onFrame, if_pos]
    simp [frameIsCurrent, hpeer]
  | linkParameters kind g rxWindowUnits burstUnits =>
    rw [onFrame, if_pos]
    simp [frameIsCurrent, hpeer]

end DlpManagedEndpoint

end SmolGnet
