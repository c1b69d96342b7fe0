import SmolGnet.Managed.Agreed

/-!
# The words of control frames

Every word of 32 bits that is accepted as a control frame is the word of that frame: nothing
of it is ignored.  The frames that an endpoint queues are among those that are accepted, in
every run, so the other end reads them as they were queued.
-/

namespace SmolGnet

open Octets

/-! ### The numbers of kinds and opcodes -/

theorem DlpHelloKind.toWire_of_fromWire {v : U8} {kind : DlpHelloKind} (h : fromWire v = .ok kind) :
  kind.toWire = v.setWidth 32
  := by
  have hall : ∀ v : U8, ∀ kind ∈ [initial, acknowledgement], fromWire v = .ok kind →
      kind.toWire = v.setWidth 32 := by decide +kernel
  apply hall v kind _ h
  cases kind <;> decide

theorem DlpCapabilityKind.toWire_of_fromWire {v : U8} {kind : DlpCapabilityKind}
    (h : fromWire v = .ok kind) :
  kind.toWire = v.setWidth 32
  := by
  have hall : ∀ v : U8, ∀ kind ∈ [offer, selection, confirmation], fromWire v = .ok kind →
      kind.toWire = v.setWidth 32 := by decide +kernel
  apply hall v kind _ h
  cases kind <;> decide

theorem DlpControlOpcode.toWire_of_fromWire {v : U8} {opcode : DlpControlOpcode}
    (h : fromWire v = .ok opcode) :
  opcode.toWire = v.setWidth 32
  := by
  have hall : ∀ v : U8, ∀ opcode ∈ [hello, capabilities, reset, linkParameters],
      fromWire v = .ok opcode → opcode.toWire = v.setWidth 32 := by decide +kernel
  apply hall v opcode _ h
  cases opcode <;> decide

namespace DlpControlFrame

/-! ### Accepted words -/

/-- The opcode and the version of a word, in their place again. -/
theorem headWord_eq {word : U32} {opcode : DlpControlOpcode}
    (hopcode : DlpControlOpcode.fromWire ((word >>> 28 &&& 0xf#32).setWidth 8) = .ok opcode)
    (hversion : (word >>> 24 &&& 0xf#32).setWidth 8 = dlpControlVersion) :
  headWord opcode = word &&& 0xff000000#32
  := by
  rw [headWord, DlpControlOpcode.toWire_of_fromWire hopcode, ← hversion,
    setWidth_field _ (by decide), setWidth_field _ (by decide), shift_field, shift_field,
    ← BitVec.and_or_distrib_left]
  rfl

theorem field_le (x : U32) {m : U32} {b : U8} (h : m.toNat ≤ b.toNat) :
  (x &&& m).setWidth 8 ≤ b
  := by
  rw [BitVec.le_def, BitVec.toNat_setWidth, BitVec.toNat_and]
  exact (Nat.mod_le _ _).trans (Nat.and_le_right.trans h)

/-- A frame and the word it was read from. -/
def Reads (frame : DlpControlFrame) (word : U32) : Prop :=
  frame.Canonical ∧ frame.toWord = word

theorem reads_hello {word : U32} {frame : DlpControlFrame}
    (hhead : headWord .hello = word &&& 0xff000000#32) (h : decodeHello word = .ok frame) :
  frame.Reads word
  := by
  rw [decodeHello] at h
  split at h
  · cases h
  next hreserved =>
  obtain ⟨kind, hkind, h⟩ := bind_eq_ok.mp h
  dsimp only at h
  split at h
  · cases h
  next hg =>
  split at h
  · cases h
  next hinitial =>
  split at h
  · cases h
  next hack =>
  cases h
  constructor
  · refine ⟨hg, field_le _ (by decide), field_le _ (by decide), ?_⟩
    cases kind with
    | initial => exact iff_of_true rfl (by simpa using hinitial)
    | acknowledgement => exact iff_of_false (by simp) (by simpa using hack)
  · have hword : word &&& 0xfffffc00#32 = word :=
      and_eq_of_disjoint (not_not.mp hreserved) (by decide)
    rw [toWord, hhead, DlpHelloKind.toWire_of_fromWire hkind,
      show (0x3f#8 : U8) = (0x3f#32 : U32).setWidth 8 from rfl, and_field, and_field,
      setWidth_field _ (by decide), setWidth_field _ (by decide), setWidth_field _ (by decide),
      shift_field, shift_field, shift_field, ← BitVec.and_or_distrib_left,
      ← BitVec.and_or_distrib_left, ← BitVec.and_or_distrib_left]
    exact hword

theorem reads_capabilities {word : U32} {frame : DlpControlFrame}
    (hhead : headWord .capabilities = word &&& 0xff000000#32)
    (h : decodeCapabilities word = .ok frame) :
  frame.Reads word
  := by
  rw [decodeCapabilities] at h
  split at h
  · cases h
  next hreserved =>
  obtain ⟨kind, hkind, h⟩ := bind_eq_ok.mp h
  dsimp only at h
  split at h
  · cases h
  next hfields =>
  split at h
  · cases h
  next hpow =>
  cases h
  obtain ⟨hg, hfields⟩ := not_or.mp hfields
  obtain ⟨hprofiles, hrates⟩ := not_or.mp hfields
  constructor
  · refine ⟨hg, field_le _ (by decide), hprofiles, field_le _ (by decide), hrates,
      field_le _ (by decide), ?_⟩
    intro hkind'
    simpa [hkind'] using hpow
  · have hword : word &&& 0xfffffe00#32 = word :=
      and_eq_of_disjoint (not_not.mp hreserved) (by decide)
    rw [toWord, hhead, DlpCapabilityKind.toWire_of_fromWire hkind,
      show (0x3f#8 : U8) = (0x3f#32 : U32).setWidth 8 from rfl,
      show (0x0f#8 : U8) = (0xf#32 : U32).setWidth 8 from rfl,
      show (0x07#8 : U8) = (0x7#32 : U32).setWidth 8 from rfl, and_field, and_field, and_field,
      setWidth_field _ (by decide), setWidth_field _ (by decide), setWidth_field _ (by decide),
      setWidth_field _ (by decide), shift_field, shift_field, shift_field, shift_field,
      ← BitVec.and_or_distrib_left, ← BitVec.and_or_distrib_left, ← BitVec.and_or_distrib_left,
      ← BitVec.and_or_distrib_left]
    exact hword

theorem reads_reset {word : U32} {frame : DlpControlFrame}
    (hhead : headWord .reset = word &&& 0xff000000#32) (h : decodeReset word = .ok frame) :
  frame.Reads word
  := by
  rw [decodeReset] at h
  split at h
  · cases h
  next hreserved =>
  dsimp only at h
  split at h
  · cases h
  next hg =>
  cases h
  constructor
  · exact ⟨hg, field_le _ (by decide), field_le _ (by decide)⟩
  · have hword : word &&& 0xffffc000#32 = word :=
      and_eq_of_disjoint (not_not.mp hreserved) (by decide)
    rw [toWord, hhead, show (0x3f#8 : U8) = (0x3f#32 : U32).setWidth 8 from rfl,
      show (0x0f#8 : U8) = (0xf#32 : U32).setWidth 8 from rfl, and_field, and_field,
      setWidth_field _ (by decide), setWidth_field _ (by decide), shift_field, shift_field,
      ← BitVec.and_or_distrib_left, ← BitVec.and_or_distrib_left]
    exact hword

theorem reads_linkParameters {word : U32} {frame : DlpControlFrame}
    (hhead : headWord .linkParameters = word &&& 0xff000000#32)
    (h : decodeLinkParameters word = .ok frame) :
  frame.Reads word
  := by
  rw [decodeLinkParameters] at h
  obtain ⟨kind, hkind, h⟩ := bind_eq_ok.mp h
  dsimp only at h
  split at h
  · cases h
  next hfields =>
  cases h
  obtain ⟨hg, hfields⟩ := not_or.mp hfields
  obtain ⟨hrx, hburst⟩ := not_or.mp hfields
  constructor
  · exact ⟨hg, field_le _ (by decide), hrx, hburst⟩
  · rw [toWord, hhead, DlpCapabilityKind.toWire_of_fromWire hkind,
      show (0x3f#8 : U8) = (0x3f#32 : U32).setWidth 8 from rfl, and_field,
      setWidth_field _ (by decide), setWidth_field _ (by decide), setWidth_field _ (by decide),
      setWidth_field _ (by decide), shift_field, shift_field, shift_field,
      ← BitVec.and_or_distrib_left, ← BitVec.and_or_distrib_left, ← BitVec.and_or_distrib_left,
      ← BitVec.and_or_distrib_left]
    exact BitVec.and_allOnes

/-- A frame that is read is canonical, and it was read from its own word. -/
theorem reads_of_ofWord {word : U32} {frame : DlpControlFrame} (h : ofWord word = .ok frame) :
  frame.Reads word
  := by
  obtain ⟨opcode, hopcode, h⟩ := bind_eq_ok.mp h
  split at h
  · cases h
  next hversion =>
  have hhead := headWord_eq hopcode (not_not.mp hversion)
  cases opcode with
  | hello => exact reads_hello hhead h
  | capabilities => exact reads_capabilities hhead h
  | reset => exact reads_reset hhead h
  | linkParameters => exact reads_linkParameters hhead h

/-- A frame is read from its own bytes only. -/
theorem decode_eq_ok {bytes : Bytes} {frame : DlpControlFrame} :
  decode bytes = .ok frame ↔ frame.Canonical ∧ frame.encode = bytes
  := by
  constructor
  · intro h
    rw [decode] at h
    split at h
    · cases h
    · next hlen =>
      obtain ⟨hcanonical, hword⟩ := reads_of_ofWord h
      refine ⟨hcanonical, ?_⟩
      rw [encode, hword]
      apply toBeBytes_fromBeBytes
      rw [not_not.mp hlen]
  · rintro ⟨hcanonical, rfl⟩
    exact decode_encode hcanonical

end DlpControlFrame

/-! ### The queue of an endpoint -/

namespace DlpManagedEndpoint

variable {T : Transport} {m m' : DlpManagedEndpoint T}

/-- The generation of the endpoint fits into a frame, and every frame that is queued is one that
is accepted. -/
structure Queued (m : DlpManagedEndpoint T) : Prop where
  generation : IsGeneration m.localGeneration
  canonical : ∀ frame ∈ m.controlTx, frame.Canonical

theorem Queued.of_eq (h : m.Queued) (hgeneration : m'.localGeneration = m.localGeneration)
    (hqueue : m'.controlTx = m.controlTx) :
  m'.Queued
  := ⟨hgeneration ▸ h.generation, hqueue ▸ h.canonical⟩

theorem Queued.queueControl (h : m.Queued) {frame : DlpControlFrame} (hframe : frame.Canonical) :
  (m.queueControl frame).Queued
  := by
  refine ⟨h.generation, ?_⟩
  intro x hx
  rcases List.mem_append.mp hx with hx | hx
  · exact h.canonical x hx
  · rw [List.mem_singleton.mp hx]
    exact hframe

theorem Queued.hello (h : m.Queued) :
  m.queueHelloInitial.Queued
  := by
  apply h.queueControl
  exact ⟨h.generation.1, h.generation.2, by decide, iff_of_true rfl rfl⟩

theorem Queued.greet (h : m.Queued) {g : U8} (hg : IsGeneration g) :
  (m.greet g).Queued
  := by
  have hcanonical : (DlpControlFrame.hello .acknowledgement m.localGeneration g).Canonical :=
    ⟨h.generation.1, h.generation.2, hg.2, iff_of_false nofun hg.1⟩
  have hqueue := h.queueControl hcanonical
  exact ⟨hqueue.generation, hqueue.canonical⟩

theorem ne_zero_of_encodeParameterUnits {value : U32} {units : U8}
    (h : encodeParameterUnits value = .ok units) :
  units ≠ 0#8
  := by
  obtain ⟨hencode, -, hne⟩ := transmissible_of_encode ⟨units, h⟩
  rw [h] at hencode
  rw [Except.ok.inj hencode]
  exact hne

/-- The offers of an endpoint are accepted. -/
theorem Queued.pendingOffers (h : m.Queued) {rxWindowUnits burstUnits : U8}
    (hrx : rxWindowUnits ≠ 0#8) (hburst : burstUnits ≠ 0#8) :
  ∀ frame ∈ m.pendingOffers rxWindowUnits burstUnits, frame.Canonical
  := by
  obtain ⟨hg, hgle⟩ := h.generation
  obtain ⟨hmode, hmodele⟩ := LinkSettings.supportedModeFlags_spec m.endpointConfig.vcMode
  intro frame hframe
  rcases List.mem_append.mp hframe with hframe | hframe
  · split at hframe
    · cases hframe
    · rw [List.mem_singleton.mp hframe]
      exact ⟨hg, hgle, hmode, hmodele, by decide, by decide, fun hne => absurd rfl hne⟩
  · split at hframe
    · cases hframe
    · rw [List.mem_singleton.mp hframe]
      exact ⟨hg, hgle, hrx, hburst⟩

theorem Queued.start (h : m.Queued)
    (hrx : ∃ units, encodeParameterUnits m.endpointConfig.rxBufferFlits = .ok units)
    (hburst : ∃ units, encodeParameterUnits m.maxBurstFlits = .ok units)
    (hpeer : m.peerGeneration ≠ none) (hsent : m.helloAckSent) :
  m.maybeStartCapabilityExchange.2.Queued
  := by
  obtain ⟨rxWindowUnits, hrx⟩ := hrx
  obtain ⟨burstUnits, hburst⟩ := hburst
  rw [maybeStartCapabilityExchange_eq hrx hburst hpeer hsent]
  dsimp only
  split
  · refine ⟨h.generation, ?_⟩
    intro frame hframe
    rcases List.mem_append.mp hframe with hframe | hframe
    · exact h.canonical frame hframe
    · exact h.pendingOffers (ne_zero_of_encodeParameterUnits hrx)
        (ne_zero_of_encodeParameterUnits hburst) frame hframe
  · exact h

theorem Queued.restart (h : m.Queued) (incrementGeneration : Bool) :
  (m.restartNegotiation incrementGeneration false).Queued
  := by
  cases incrementGeneration with
  | false => exact Queued.hello ⟨h.generation, nofun⟩
  | true => exact Queued.hello ⟨isGeneration_next _, nofun⟩

/-- Installing a profile leaves the queue alone. -/
theorem queued_maybeInstallProfile (h : m.Queued) :
  m.maybeInstallProfile.2.Queued
  := by
  rw [maybeInstallProfile]
  repeat' split
  all_goals exact h.of_eq rfl rfl

theorem queued_andThen {x : Except Error Unit × DlpManagedEndpoint T} (h : x.2.Queued) :
  (andThen x (fun _ m => m.maybeInstallProfile)).2.Queued
  := andThen_invariant h (fun _ _ _ hm => queued_maybeInstallProfile hm)

theorem chooseRate_spec :
  ∀ rates rate, chooseRate rateAll rates = .ok rate →
    rate ≠ 0#8 ∧ rate ≤ 7#8 ∧ isPowerOfTwo rate
  := by
  intro rates rate h
  rw [chooseRate] at h
  repeat' split at h
  · cases h
    decide
  · cases h
    decide
  · cases h
    decide
  · cases h

theorem Queued.onCapabilities (h : m.Queued) (kind : DlpCapabilityKind) (profiles rates : U8) :
  (m.onCapabilities kind profiles rates).2.Queued
  := by
  obtain ⟨hg, hgle⟩ := h.generation
  rw [DlpManagedEndpoint.onCapabilities.eq_def]
  split
  · exact h
  apply queued_andThen
  cases kind with
  | offer =>
    dsimp only
    rw [onCapabilityOffer]
    split
    · exact h
    dsimp only
    split
    · exact h.of_eq rfl rfl
    next mode _ =>
    split
    · exact h.of_eq rfl rfl
    next rate hrate =>
    obtain ⟨hrate, hratele, hratepow⟩ := chooseRate_spec _ _ hrate
    obtain ⟨hmode, hmodele, hmodepow⟩ := LinkSettings.selectedModeFlag_spec mode
    split
    · have hframe : (DlpControlFrame.capabilities .selection m.localGeneration
          (selectedModeFlag mode) rate).Canonical :=
        ⟨hg, hgle, hmode, hmodele, hrate, hratele, fun _ => ⟨hmodepow, hratepow⟩⟩
      exact (h.queueControl hframe).of_eq rfl rfl
    · exact h.of_eq rfl rfl
  | selection =>
    dsimp only
    rw [onCapabilitySelection]
    split
    · exact h
    split
    · exact h
    next mode _ =>
    split
    · exact h
    next rate hrate =>
    split
    · exact h
    next heq =>
    obtain ⟨hprofiles, hrates⟩ := not_or.mp heq
    rw [not_not] at hprofiles hrates
    obtain ⟨hrate, hratele, hratepow⟩ := chooseRate_spec _ _ hrate
    obtain ⟨hmode, hmodele, hmodepow⟩ := LinkSettings.selectedModeFlag_spec mode
    split
    · have hframe : (DlpControlFrame.capabilities .confirmation m.localGeneration profiles
          rates).Canonical := by
        rw [hprofiles, hrates]
        exact ⟨hg, hgle, hmode, hmodele, hrate, hratele, fun _ => ⟨hmodepow, hratepow⟩⟩
      exact (h.queueControl hframe).of_eq rfl rfl
    · exact h
  | confirmation =>
    dsimp only
    rw [onCapabilityConfirmation.eq_def]
    repeat' split
    all_goals exact h.of_eq rfl rfl

theorem ne_zero_of_decodeParameterUnits {units : U8} {value : U32}
    (h : decodeParameterUnits units = .ok value) :
  units ≠ 0#8
  := by
  rintro rfl
  cases h

theorem Queued.onLinkParameters (h : m.Queued) (kind : DlpCapabilityKind)
    (rxWindowUnits burstUnits : U8) :
  (m.onLinkParameters kind rxWindowUnits burstUnits).2.Queued
  := by
  obtain ⟨hg, hgle⟩ := h.generation
  rw [DlpManagedEndpoint.onLinkParameters.eq_def]
  split
  · exact h
  split
  · exact h
  next rx hrx =>
  split
  · exact h
  next burst hburst =>
  apply queued_andThen
  cases kind with
  | offer =>
    dsimp only
    rw [onParameterOffer]
    split
    · exact h
    dsimp only
    split
    · split
      · exact h.of_eq rfl rfl
      next rxUnits hrxUnits =>
      split
      · exact h.of_eq rfl rfl
      next burstUnits hburstUnits =>
      have hframe : (DlpControlFrame.linkParameters .selection m.localGeneration rxUnits
          burstUnits).Canonical :=
        ⟨hg, hgle, ne_zero_of_encodeParameterUnits hrxUnits,
          ne_zero_of_encodeParameterUnits hburstUnits⟩
      exact (h.queueControl hframe).of_eq rfl rfl
    · exact h.of_eq rfl rfl
  | selection =>
    dsimp only
    rw [onParameterSelection]
    split
    · exact h
    split
    · exact h
    split
    · have hframe : (DlpControlFrame.linkParameters .confirmation m.localGeneration rxWindowUnits
          burstUnits).Canonical :=
        ⟨hg, hgle, ne_zero_of_decodeParameterUnits hrx, ne_zero_of_decodeParameterUnits hburst⟩
      exact (h.queueControl hframe).of_eq rfl rfl
    · exact h
  | confirmation =>
    dsimp only
    rw [onParameterConfirmation.eq_def]
    repeat' split
    all_goals exact h.of_eq rfl rfl

/-- The offers follow a greeting. -/
theorem Queued.startGreeted (h : m.Queued) {g : U8} (hg : IsGeneration g)
    (hrx : ∃ units, encodeParameterUnits m.endpointConfig.rxBufferFlits = .ok units)
    (hburst : ∃ units, encodeParameterUnits m.maxBurstFlits = .ok units) :
  (m.greet g).maybeStartCapabilityExchange.2.Queued ∧
    { m.greet g with helloAckReceived := true }.maybeStartCapabilityExchange.2.Queued
  := by
  have hgreet := h.greet hg
  constructor
  · exact hgreet.start hrx hburst nofun rfl
  · exact Queued.start (hgreet.of_eq rfl rfl) hrx hburst nofun rfl

/-- A frame that is accepted leaves the queue in order. -/
theorem Queued.receives {frame : DlpControlFrame} (hinv : m.Inv) (h : m.Queued)
    (hframe : frame.Canonical) (hm : Receives m frame m') :
  m'.Queued
  := by
  cases hm with
  | ignored => exact h
  | hello g p hnone hg =>
    exact (h.startGreeted ⟨hframe.1, hframe.2.1⟩ hinv.rx_units hinv.burst_units).1
  | nextHello current p hpeer =>
    obtain ⟨hconfig, hburst⟩ := sameSettings_restart m m.wasLive
    apply ((h.restart m.wasLive).startGreeted (isGeneration_next current) _ _).1
    · rw [hconfig]
      exact hinv.rx_units
    · rw [hburst]
      exact hinv.burst_units
  | helloAck g hpeer =>
    have hne : m.peerGeneration ≠ none := by simp [hpeer]
    exact Queued.start (h.of_eq rfl rfl) hinv.rx_units hinv.burst_units hne (hinv.greeted hne)
  | firstHelloAck g hpeer =>
    exact (h.startGreeted ⟨hframe.1, hframe.2.1⟩ hinv.rx_units hinv.burst_units).2
  | nextHelloAck current hpeer =>
    obtain ⟨hconfig, hburst⟩ := sameSettings_restart m true
    apply ((h.restart true).startGreeted (isGeneration_next current) _ _).2
    · rw [hconfig]
      exact hinv.rx_units
    · rw [hburst]
      exact hinv.burst_units
  | reset g reason hpeer => exact Queued.hello ⟨isGeneration_next _, nofun⟩
  | capabilities kind g profiles rates hpeer hstate => exact h.onCapabilities kind profiles rates
  | linkParameters kind g rxWindowUnits burstUnits hpeer hstate =>
    exact h.onLinkParameters kind rxWindowUnits burstUnits

theorem Queued.performs (h : m.Queued) (hm : Performs m m') :
  m'.Queued
  := by
  cases hm with
  | carrierUp hstate => exact h.restart false
  | carrierDown => exact ⟨h.generation, nofun⟩
  | requestReset reason hstate hreason =>
    have hreset : (DlpControlFrame.reset m.localGeneration reason).Canonical :=
      ⟨h.generation.1, h.generation.2, hreason⟩
    apply Queued.hello ⟨isGeneration_next _, ?_⟩
    intro frame hframe
    rw [List.mem_singleton.mp hframe]
    exact hreset
  | pollControl =>
    refine ⟨h.generation, ?_⟩
    intro frame hframe
    exact h.canonical frame (List.mem_of_mem_tail hframe)
  | finishCreditSync hstate hcredit => exact h.of_eq rfl rfl
  | usesLink m' hm =>
    obtain ⟨endpoint, polls, rfl, -⟩ := hm
    exact h.of_eq rfl rfl

/-- Every event leaves the queue in order, whatever bytes it brings. -/
theorem Queued.step (hinv : m.Inv) (h : m.Queued) (event : Event T) :
  (m.step event).Queued
  := by
  cases event with
  | op op => exact h.performs (performs_perform m op)
  | receiveControl bytes =>
    rw [DlpManagedEndpoint.step, receiveControl]
    split
    · exact h
    · next frame hframe =>
      exact h.receives hinv (DlpControlFrame.decode_eq_ok.mp hframe).1 (receives_onFrame m frame)

theorem Queued.of_run {config : EndpointConfig} {maxBurstFlits : U32}
    (h : Fresh config maxBurstFlits m) (events : List (Event T)) :
  (Machine.run DlpManagedEndpoint.step m events).Queued
  := by
  have hfresh : m.Inv ∧ m.Queued := by
    refine ⟨Inv.of_fresh h, ?_⟩
    obtain ⟨⟨endpoint, rfl, -⟩, -⟩ := h.built
    have hone : (1#8 : U8) ≠ 0#8 ∧ (1#8 : U8) ≤ 63#8 := by decide
    exact ⟨hone, nofun⟩
  exact (Machine.invariant_run (P := fun m : DlpManagedEndpoint T => m.Inv ∧ m.Queued)
    (fun _ event hm => ⟨hm.1.step event, hm.2.step hm.1 event⟩) hfresh events).2

/-- Control frames and the words that are accepted are the same: the bytes of a frame that is
read are those it was read from, and it is read from them.  What an endpoint sends, in
every run, is read as what it queued. -/
theorem control_words (T : Transport) :
  (∀ bytes frame, DlpControlFrame.decode bytes = .ok frame → frame.encode = bytes) ∧
  (∀ frame, (∃ bytes, DlpControlFrame.decode bytes = .ok frame) →
    DlpControlFrame.decode frame.encode = .ok frame) ∧
  ∀ (config : EndpointConfig) (maxBurstFlits : U32) (m : DlpManagedEndpoint T),
    Fresh config maxBurstFlits m → ∀ events bytes,
      (Machine.run DlpManagedEndpoint.step m events).pollControl.1 = some bytes →
      ∃ frame, (Machine.run DlpManagedEndpoint.step m events).controlTx.head? = some frame ∧
        DlpControlFrame.decode bytes = .ok frame ∧ IsGeneration frame.senderGeneration
  := by
  refine ⟨fun bytes frame h => (DlpControlFrame.decode_eq_ok.mp h).2, ?_, ?_⟩
  · rintro frame ⟨bytes, h⟩
    exact DlpControlFrame.decode_encode (DlpControlFrame.decode_eq_ok.mp h).1
  · intro config maxBurstFlits m h events bytes hpoll
    have hqueued := Queued.of_run h events
    rw [pollControl] at hpoll
    split at hpoll
    · cases hpoll
    · next frame frames hqueue =>
      cases hpoll
      have hcanonical := hqueued.canonical frame (by rw [hqueue]; exact List.mem_cons_self)
      refine ⟨frame, by rw [hqueue]; rfl, DlpControlFrame.decode_encode hcanonical, ?_⟩
      cases frame with
      | hello kind g p => exact ⟨hcanonical.1, hcanonical.2.1⟩
      | capabilities kind g profiles rates => exact ⟨hcanonical.1, hcanonical.2.1⟩
      | reset g reason => exact ⟨hcanonical.1, hcanonical.2.1⟩
      | linkParameters kind g rx burst => exact ⟨hcanonical.1, hcanonical.2.1⟩

/-- The first `HELLO` of an endpoint whose carrier has come up. -/
theorem control_words_hello :
  (DlpControlFrame.hello .acknowledgement 5#8 1#8).encode = [0x11#8, 0x45#8, 0x04#8, 0x00#8] ∧
  DlpControlFrame.decode (DlpControlFrame.hello .acknowledgement 5#8 1#8).encode
    = .ok (.hello .acknowledgement 5#8 1#8) ∧
  ∃ m : DlpManagedEndpoint .silent,
    Fresh ⟨64#32, .four, 8#8, none, false, 1#32, 32#32, ⟨true⟩⟩ 16#32 m ∧
    ∃ frame, (Machine.run DlpManagedEndpoint.step m [.op .carrierUp]).controlTx.head? = some frame ∧
      DlpControlFrame.decode (DlpControlFrame.hello .initial 1#8 0#8).encode = .ok frame ∧
      IsGeneration frame.senderGeneration
  := by
  have hdecode : DlpControlFrame.decode [0x11#8, 0x45#8, 0x04#8, 0x00#8]
      = .ok (.hello .acknowledgement 5#8 1#8) := by decide +kernel
  refine ⟨(control_words .silent).1 _ _ hdecode, (control_words .silent).2.1 _ ⟨_, hdecode⟩, _,
    .inl ⟨⟨7#64⟩, rfl⟩, ?_⟩
  exact (control_words .silent).2.2 ⟨64#32, .four, 8#8, none, false, 1#32, 32#32, ⟨true⟩⟩ 16#32 _
    (.inl ⟨⟨7#64⟩, rfl⟩) [.op .carrierUp] _ rfl

end DlpManagedEndpoint

end SmolGnet
