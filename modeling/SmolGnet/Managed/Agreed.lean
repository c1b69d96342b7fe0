import SmolGnet.Managed.Ceiling

/-!
# What two ends agree on

The settings of the two ends of a link determine everything that they tell each other when
they negotiate: each frame is known up to its generation.  An endpoint that has heard
nothing but such frames selects what its settings and those of the other end determine.
-/

namespace SmolGnet

/-! ### The agreement -/

/-- What an end of a managed link is made with. -/
structure LinkSettings where
  config : EndpointConfig
  maxBurstFlits : U32

/-- The units of a parameter that can be transmitted. -/
def parameterUnits (value : U32) : U8 :=
  (encodeParameterUnits value).toOption.getD 0#8

/-- A number that a generation can have. -/
def IsGeneration (g : U8) : Prop :=
  g ≠ 0#8 ∧ g ≤ 63#8

theorem isGeneration_next :
  ∀ g : U8, IsGeneration (nextGeneration g)
  := by
  unfold IsGeneration
  decide

/-- The parameter can be transmitted. -/
def Transmissible (value : U32) : Prop :=
  encodeParameterUnits value = .ok (parameterUnits value) ∧
    decodeParameterUnits (parameterUnits value) = .ok value ∧ parameterUnits value ≠ 0#8

theorem transmissible_of_encode {value : U32}
    (h : ∃ units, encodeParameterUnits value = .ok units) :
  Transmissible value
  := by
  obtain ⟨units, h⟩ := h
  rw [Transmissible, parameterUnits, h]
  refine ⟨rfl, ?_⟩
  change decodeParameterUnits units = .ok value ∧ units ≠ 0#8
  rw [encodeParameterUnits] at h
  split at h
  · cases h
  next hvalue =>
  dsimp only at h
  split at h
  · cases h
  next hunits =>
  cases h
  obtain ⟨hzero, hmod⟩ := not_or.mp hvalue
  obtain ⟨hunits, hle⟩ := not_or.mp hunits
  rw [not_not] at hmod
  have hdiv : (value / dlpControlParameterUnitFlits).toNat = value.toNat / 4 := rfl
  have hfour : value.toNat % 4 = 0 := congrArg BitVec.toNat hmod
  have hbound : value.toNat / 4 ≤ 255 := by
    rw [BitVec.not_lt, BitVec.le_def, hdiv] at hle
    exact hle
  have hpos : value.toNat / 4 ≠ 0 := by
    rw [← hdiv]
    exact fun h => hunits (BitVec.eq_of_toNat_eq h)
  have hset : ((value / dlpControlParameterUnitFlits).setWidth 8).toNat = value.toNat / 4 := by
    rw [BitVec.toNat_setWidth, hdiv]
    omega
  have hne : (value / dlpControlParameterUnitFlits).setWidth 8 ≠ 0#8 := by
    intro h
    rw [h] at hset
    exact hpos hset.symm
  refine ⟨?_, hne⟩
  rw [decodeParameterUnits, if_neg hne]
  congr 1
  apply BitVec.eq_of_toNat_eq
  rw [BitVec.toNat_mul, BitVec.toNat_setWidth, hset]
  change (value.toNat / 4 % 2 ^ 32 * 4) % 2 ^ 32 = value.toNat
  omega

namespace LinkSettings

/-- The parameters can be transmitted. -/
structure Valid (x : LinkSettings) : Prop where
  rx : Transmissible x.config.rxBufferFlits
  burst : Transmissible x.maxBurstFlits

/-- The highest mode that both ends can do. -/
def agreedMode (x y : LinkSettings) : VcMode :=
  match x.config.vcMode, y.config.vcMode with
  | .four, .four => .four
  | _, _ => .two

/-- The lesser burst of both ends. -/
def agreedBurst (x y : LinkSettings) : U32 :=
  minU32 x.maxBurstFlits y.maxBurstFlits

/-- The highest rate. -/
def agreedRate : U8 := 0b100#8

/-- The profile that the end with the settings `x` installs. -/
def agreedProfile (x y : LinkSettings) : DlpNegotiatedProfile where
  vcMode := agreedMode x y
  burstFlits := agreedBurst x y
  peerRxBufferFlits := y.config.rxBufferFlits
  peerControlWindowFlits := dlpReservedControlWindowFlits

variable {x y : LinkSettings}

theorem agreedMode_comm (x y : LinkSettings) :
  agreedMode x y = agreedMode y x
  := by
  rw [agreedMode, agreedMode]
  cases x.config.vcMode with
  | two =>
    cases y.config.vcMode with
    | two => rfl
    | four => rfl
  | four =>
    cases y.config.vcMode with
    | two => rfl
    | four => rfl

theorem toNat_minU32 (a b : U32) :
  (minU32 a b).toNat = min a.toNat b.toNat
  := by
  rw [minU32]
  split
  · next h =>
    rw [BitVec.lt_def] at h
    omega
  · next h =>
    rw [BitVec.not_lt, BitVec.le_def] at h
    omega

theorem agreedBurst_comm (x y : LinkSettings) :
  agreedBurst x y = agreedBurst y x
  := by
  apply BitVec.eq_of_toNat_eq
  rw [agreedBurst, agreedBurst, toNat_minU32, toNat_minU32, Nat.min_comm]

/-- The burst that both ends agree on is that of one of them. -/
theorem transmissible_agreedBurst (hx : x.Valid) (hy : y.Valid) :
  Transmissible (agreedBurst x y)
  := by
  rw [agreedBurst, minU32]
  split
  · apply hy.burst
  · apply hx.burst

theorem chooseVcMode_eq (x y : LinkSettings) :
  chooseVcMode x.config.vcMode (supportedModeFlags y.config.vcMode) = .ok (agreedMode x y)
  := by
  rw [agreedMode]
  cases x.config.vcMode with
  | two =>
    cases y.config.vcMode with
    | two => rfl
    | four => rfl
  | four =>
    cases y.config.vcMode with
    | two => rfl
    | four => rfl

theorem chooseRate_eq :
  chooseRate rateAll rateAll = .ok agreedRate
  := rfl

/-! ### What the ends tell each other -/

/-- The capabilities that the end with the settings `x` sends to that with the settings `y`. -/
def capabilities (x y : LinkSettings) (g : U8) : DlpCapabilityKind → DlpControlFrame
  | .offer => .capabilities .offer g (supportedModeFlags x.config.vcMode) rateAll
  | .selection => .capabilities .selection g (selectedModeFlag (agreedMode x y)) agreedRate
  | .confirmation =>
    .capabilities .confirmation g (selectedModeFlag (agreedMode x y)) agreedRate

/-- The parameters that the end with the settings `x` sends to that with the settings `y`. -/
def parameters (x y : LinkSettings) (g : U8) : DlpCapabilityKind → DlpControlFrame
  | .offer =>
    .linkParameters .offer g (parameterUnits x.config.rxBufferFlits)
      (parameterUnits x.maxBurstFlits)
  | .selection =>
    .linkParameters .selection g (parameterUnits y.config.rxBufferFlits)
      (parameterUnits (agreedBurst x y))
  | .confirmation =>
    .linkParameters .confirmation g (parameterUnits x.config.rxBufferFlits)
      (parameterUnits (agreedBurst x y))

/-- The frames that the end with the settings `x` sends to that with the settings `y`. -/
inductive Sends (x y : LinkSettings) : DlpControlFrame → Prop
  | hello (g : U8) (h : IsGeneration g) : Sends x y (.hello .initial g 0#8)
  | helloAck (g p : U8) (h : IsGeneration g) (hp : IsGeneration p) :
    Sends x y (.hello .acknowledgement g p)
  | reset (g reason : U8) (h : IsGeneration g) (hreason : reason ≤ 15#8) :
    Sends x y (.reset g reason)
  | capabilities (g : U8) (kind : DlpCapabilityKind) (h : IsGeneration g) :
    Sends x y (capabilities x y g kind)
  | parameters (g : U8) (kind : DlpCapabilityKind) (h : IsGeneration g) :
    Sends x y (parameters x y g kind)

theorem supportedModeFlags_spec (mode : VcMode) :
  supportedModeFlags mode ≠ 0#8 ∧ supportedModeFlags mode ≤ 15#8
  := by
  cases mode with
  | two => decide
  | four => decide

theorem selectedModeFlag_spec (mode : VcMode) :
  selectedModeFlag mode ≠ 0#8 ∧ selectedModeFlag mode ≤ 15#8 ∧
    isPowerOfTwo (selectedModeFlag mode)
  := by
  cases mode with
  | two => decide
  | four => decide

/-- What is sent arrives as it was sent. -/
theorem Sends.decode_encode {frame : DlpControlFrame} (hx : x.Valid) (hy : y.Valid)
    (h : Sends x y frame) :
  DlpControlFrame.decode frame.encode = .ok frame
  := by
  apply DlpControlFrame.decode_encode
  cases h with
  | hello g hg => exact ⟨hg.1, hg.2, by decide, by decide⟩
  | helloAck g p hg hp => exact ⟨hg.1, hg.2, hp.2, iff_of_false nofun hp.1⟩
  | reset g reason hg hreason => exact ⟨hg.1, hg.2, hreason⟩
  | capabilities g kind hg =>
    obtain ⟨hflags, hflagsle⟩ := supportedModeFlags_spec x.config.vcMode
    obtain ⟨hmode, hmodele, hpower⟩ := selectedModeFlag_spec (agreedMode x y)
    cases kind with
    | offer => exact ⟨hg.1, hg.2, hflags, hflagsle, by decide, by decide, fun h => absurd rfl h⟩
    | selection =>
      exact ⟨hg.1, hg.2, hmode, hmodele, by decide, by decide, fun _ => ⟨hpower, by decide⟩⟩
    | confirmation =>
      exact ⟨hg.1, hg.2, hmode, hmodele, by decide, by decide, fun _ => ⟨hpower, by decide⟩⟩
  | parameters g kind hg =>
    have hburst := transmissible_agreedBurst hx hy
    cases kind with
    | offer => exact ⟨hg.1, hg.2, hx.rx.2.2, hx.burst.2.2⟩
    | selection => exact ⟨hg.1, hg.2, hy.rx.2.2, hburst.2.2⟩
    | confirmation => exact ⟨hg.1, hg.2, hx.rx.2.2, hburst.2.2⟩

end LinkSettings

namespace DlpManagedEndpoint

open LinkSettings

variable {T : Transport} {m m' : DlpManagedEndpoint T} {x y : LinkSettings}

/-! ### An endpoint that has heard what it is told -/

/-- The endpoint has the settings `x`, and what it knows of the other end are the settings `y`. -/
structure Informed (x y : LinkSettings) (m : DlpManagedEndpoint T) : Prop where
  config : m.endpointConfig = x.config
  burst : m.maxBurstFlits = x.maxBurstFlits
  cap_offer : ∀ offer, m.peerCapOffer = some offer →
    offer = ⟨supportedModeFlags y.config.vcMode, rateAll⟩
  mode : ∀ mode, m.selectedMode = some mode → mode = agreedMode x y
  rate : ∀ rate, m.selectedRate = some rate → rate = agreedRate
  params_offer : ∀ offer, m.peerParamsOffer = some offer →
    offer = ⟨y.config.rxBufferFlits, y.maxBurstFlits⟩
  peer_rx : ∀ rx, m.selectedPeerRx = some rx → rx = y.config.rxBufferFlits
  selected_burst : ∀ burst, m.selectedBurst = some burst → burst = agreedBurst x y

/-- Capabilities of the other end can be made use of. -/
def expectsCapabilities (m : DlpManagedEndpoint T) : DlpCapabilityKind → Bool
  | .offer => true
  | .selection => m.peerCapOffer.isSome
  | .confirmation => m.selectedMode.isSome && m.selectedRate.isSome

/-- The endpoint after capabilities of the other end. -/
def heardCapabilities (x y : LinkSettings) (m : DlpManagedEndpoint T) :
    DlpCapabilityKind → DlpManagedEndpoint T
  | .offer =>
    { m with
      peerCapOffer := some ⟨supportedModeFlags y.config.vcMode, rateAll⟩
      selectedMode := some (agreedMode x y)
      selectedRate := some agreedRate
      controlTx := m.controlTx ++
        if m.capSelectionSent then [] else [x.capabilities y m.localGeneration .selection]
      capSelectionSent := true }
  | .selection =>
    { m with
      controlTx := m.controlTx ++
        if m.capConfirmationSent then []
        else [x.capabilities y m.localGeneration .confirmation]
      capConfirmationSent := true }
  | .confirmation => { m with capConfirmationReceived := true }

/-- Parameters of the other end can be made use of. -/
def expectsParameters (m : DlpManagedEndpoint T) : DlpCapabilityKind → Bool
  | .offer => true
  | .selection => m.peerParamsOffer.isSome
  | .confirmation => m.selectedPeerRx.isSome && m.selectedBurst.isSome

/-- The endpoint after parameters of the other end. -/
def heardParameters (x y : LinkSettings) (m : DlpManagedEndpoint T) :
    DlpCapabilityKind → DlpManagedEndpoint T
  | .offer =>
    { m with
      peerParamsOffer := some ⟨y.config.rxBufferFlits, y.maxBurstFlits⟩
      selectedPeerRx := some y.config.rxBufferFlits
      selectedBurst := some (agreedBurst x y)
      controlTx := m.controlTx ++
        if m.paramsSelectionSent then [] else [x.parameters y m.localGeneration .selection]
      paramsSelectionSent := true }
  | .selection =>
    { m with
      controlTx := m.controlTx ++
        if m.paramsConfirmationSent then []
        else [x.parameters y m.localGeneration .confirmation]
      paramsConfirmationSent := true }
  | .confirmation => { m with paramsConfirmationReceived := true }

theorem Informed.chooseVcMode (h : m.Informed x y) :
  chooseVcMode m.endpointConfig.vcMode (supportedModeFlags y.config.vcMode)
    = .ok (agreedMode x y)
  := by
  rw [h.config]
  apply chooseVcMode_eq

theorem Informed.minU32 (h : m.Informed x y) :
  minU32 m.maxBurstFlits y.maxBurstFlits = agreedBurst x y
  := by
  rw [h.burst, agreedBurst]

theorem Informed.onCapabilityOffer (h : m.Informed x y) :
  m.onCapabilityOffer (supportedModeFlags y.config.vcMode) rateAll
    = (.ok (), m.heardCapabilities x y .offer)
  := by
  have hoffer : ¬ (m.peerCapOffer.isSome ∧
      m.peerCapOffer ≠ some ⟨supportedModeFlags y.config.vcMode, rateAll⟩) := by
    rintro ⟨hsome, hne⟩
    obtain ⟨offer, hoffer⟩ := Option.isSome_iff_exists.mp hsome
    rw [hoffer, h.cap_offer offer hoffer] at hne
    exact hne rfl
  rw [DlpManagedEndpoint.onCapabilityOffer, if_neg hoffer]
  dsimp only
  rw [h.chooseVcMode, chooseRate_eq]
  dsimp only [queueControl, heardCapabilities]
  cases hsent : m.capSelectionSent with
  | false => simp [LinkSettings.capabilities]
  | true => simp

theorem Informed.onCapabilitySelection (h : m.Informed x y) :
  m.onCapabilitySelection (selectedModeFlag (agreedMode y x)) agreedRate
    = if m.expectsCapabilities .selection then (.ok (), m.heardCapabilities x y .selection)
      else (.error .invalidState, m)
  := by
  rw [DlpManagedEndpoint.onCapabilitySelection, expectsCapabilities]
  cases hoffer : m.peerCapOffer with
  | none => rfl
  | some offer =>
    dsimp only
    rw [h.cap_offer offer hoffer, h.chooseVcMode, chooseRate_eq]
    dsimp only [queueControl, heardCapabilities]
    rw [agreedMode_comm y x, if_neg (by simp)]
    cases hsent : m.capConfirmationSent with
    | false => simp [LinkSettings.capabilities, hoffer]
    | true => simp [← hsent]

theorem Informed.onCapabilityConfirmation (h : m.Informed x y) :
  m.onCapabilityConfirmation (selectedModeFlag (agreedMode y x)) agreedRate
    = if m.expectsCapabilities .confirmation then
        (.ok (), m.heardCapabilities x y .confirmation)
      else (.error .invalidState, m)
  := by
  rw [DlpManagedEndpoint.onCapabilityConfirmation, expectsCapabilities]
  cases hmode : m.selectedMode with
  | none => rfl
  | some mode =>
    cases hrate : m.selectedRate with
    | none => rfl
    | some rate =>
      obtain rfl := h.mode mode hmode
      obtain rfl := h.rate rate hrate
      dsimp only
      rw [agreedMode_comm y x, if_neg (by simp)]
      simp [heardCapabilities, hmode, hrate]

/-- What capabilities of the other end do. -/
theorem Informed.onFrame_capabilities (h : m.Informed x y) {g : U8}
    (hpeer : m.peerGeneration = some g) (hstate : m.state = .negotiate)
    (kind : DlpCapabilityKind) :
  m.onFrame (y.capabilities x g kind)
    = if m.expectsCapabilities kind then (m.heardCapabilities x y kind).maybeInstallProfile
      else (.error .invalidState, m)
  := by
  have hcurrent : ¬ (!m.frameIsCurrent g) = true := by simp [frameIsCurrent, hpeer]
  cases kind with
  | offer =>
    rw [LinkSettings.capabilities, onFrame, if_neg hcurrent, onCapabilities,
      if_neg (not_not.mpr hstate), h.onCapabilityOffer]
    rfl
  | selection =>
    rw [LinkSettings.capabilities, onFrame, if_neg hcurrent, onCapabilities,
      if_neg (not_not.mpr hstate), h.onCapabilitySelection]
    cases m.expectsCapabilities .selection with
    | false => rfl
    | true => rfl
  | confirmation =>
    rw [LinkSettings.capabilities, onFrame, if_neg hcurrent, onCapabilities,
      if_neg (not_not.mpr hstate), h.onCapabilityConfirmation]
    cases m.expectsCapabilities .confirmation with
    | false => rfl
    | true => rfl

theorem Informed.onParameterOffer (hx : x.Valid) (hy : y.Valid) (h : m.Informed x y) :
  m.onParameterOffer y.config.rxBufferFlits y.maxBurstFlits
    = (.ok (), m.heardParameters x y .offer)
  := by
  have hoffer : ¬ (m.peerParamsOffer.isSome ∧
      m.peerParamsOffer ≠ some ⟨y.config.rxBufferFlits, y.maxBurstFlits⟩) := by
    rintro ⟨hsome, hne⟩
    obtain ⟨offer, hoffer⟩ := Option.isSome_iff_exists.mp hsome
    rw [hoffer, h.params_offer offer hoffer] at hne
    exact hne rfl
  rw [DlpManagedEndpoint.onParameterOffer, if_neg hoffer]
  dsimp only
  rw [h.minU32, hy.rx.1]
  dsimp only
  rw [(transmissible_agreedBurst hx hy).1]
  dsimp only [queueControl, heardParameters]
  cases hsent : m.paramsSelectionSent with
  | false => simp [LinkSettings.parameters]
  | true => simp

theorem Informed.onParameterSelection (h : m.Informed x y) :
  m.onParameterSelection (parameterUnits x.config.rxBufferFlits)
      (parameterUnits (agreedBurst y x)) x.config.rxBufferFlits (agreedBurst y x)
    = if m.expectsParameters .selection then (.ok (), m.heardParameters x y .selection)
      else (.error .invalidState, m)
  := by
  rw [DlpManagedEndpoint.onParameterSelection, expectsParameters]
  cases hoffer : m.peerParamsOffer with
  | none => rfl
  | some offer =>
    dsimp only
    rw [h.params_offer offer hoffer, h.minU32, agreedBurst_comm y x,
      if_neg (by simp [h.config])]
    dsimp only [queueControl, heardParameters]
    cases hsent : m.paramsConfirmationSent with
    | false => simp [LinkSettings.parameters, hoffer]
    | true => simp [← hsent]

theorem Informed.onParameterConfirmation (h : m.Informed x y) :
  m.onParameterConfirmation y.config.rxBufferFlits (agreedBurst y x)
    = if m.expectsParameters .confirmation then (.ok (), m.heardParameters x y .confirmation)
      else (.error .invalidState, m)
  := by
  rw [DlpManagedEndpoint.onParameterConfirmation, expectsParameters]
  cases hrx : m.selectedPeerRx with
  | none => rfl
  | some rx =>
    cases hburst : m.selectedBurst with
    | none => rfl
    | some burst =>
      obtain rfl := h.peer_rx rx hrx
      obtain rfl := h.selected_burst burst hburst
      dsimp only
      rw [agreedBurst_comm y x, if_neg (by simp)]
      simp [heardParameters, hrx, hburst]

/-- What parameters of the other end do. -/
theorem Informed.onFrame_parameters (hx : x.Valid) (hy : y.Valid) (h : m.Informed x y) {g : U8}
    (hpeer : m.peerGeneration = some g) (hstate : m.state = .negotiate)
    (kind : DlpCapabilityKind) :
  m.onFrame (y.parameters x g kind)
    = if m.expectsParameters kind then (m.heardParameters x y kind).maybeInstallProfile
      else (.error .invalidState, m)
  := by
  have hcurrent : ¬ (!m.frameIsCurrent g) = true := by simp [frameIsCurrent, hpeer]
  have hburst := transmissible_agreedBurst hy hx
  cases kind with
  | offer =>
    rw [LinkSettings.parameters, onFrame, if_neg hcurrent, onLinkParameters,
      if_neg (not_not.mpr hstate), hy.rx.2.1, hy.burst.2.1]
    dsimp only
    rw [h.onParameterOffer hx hy]
    rfl
  | selection =>
    rw [LinkSettings.parameters, onFrame, if_neg hcurrent, onLinkParameters,
      if_neg (not_not.mpr hstate), hx.rx.2.1, hburst.2.1]
    dsimp only
    rw [h.onParameterSelection]
    cases m.expectsParameters .selection with
    | false => rfl
    | true => rfl
  | confirmation =>
    rw [LinkSettings.parameters, onFrame, if_neg hcurrent, onLinkParameters,
      if_neg (not_not.mpr hstate), hy.rx.2.1, hburst.2.1]
    dsimp only
    rw [h.onParameterConfirmation]
    cases m.expectsParameters .confirmation with
    | false => rfl
    | true => rfl

end DlpManagedEndpoint

end SmolGnet
