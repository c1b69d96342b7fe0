import SmolGnet.Managed.Hello

/-!
# The limit of credit

Whatever control frames, flits and frames arrive at a managed endpoint, as long as it sends
and receives data its credit stays within the receive buffer that the other end has told it,
and the credit that it has given stays within its own.  The end of the link that it uses is
made when the profile is installed, and from then on only a `CREDIT` that has been checked
against the limit brings credit.
-/

namespace SmolGnet

namespace DlpManagedEndpoint

variable {T : Transport} {m m' : DlpManagedEndpoint T}

/-! ### What is set when an endpoint is made -/

/-- The two endpoints have the same configuration. -/
def SameSettings (m m' : DlpManagedEndpoint T) : Prop :=
  m'.endpointConfig = m.endpointConfig ∧ m'.maxBurstFlits = m.maxBurstFlits

theorem sameSettings_start (m : DlpManagedEndpoint T) :
  SameSettings m m.maybeStartCapabilityExchange.2
  := by
  rw [maybeStartCapabilityExchange]
  dsimp only [queueControl]
  repeat' split
  all_goals exact ⟨rfl, rfl⟩

theorem sameSettings_restart (m : DlpManagedEndpoint T) (incrementGeneration : Bool) :
  SameSettings m (m.restartNegotiation incrementGeneration false)
  := by
  cases incrementGeneration with
  | false => exact ⟨rfl, rfl⟩
  | true => exact ⟨rfl, rfl⟩

theorem Negotiates.sameSettings (h : Negotiates m m') :
  SameSettings m m'
  := ⟨congrArg Session.endpointConfig h.1, congrArg Session.maxBurstFlits h.1⟩

theorem sameSettings_receives {frame : DlpControlFrame} (hm : Receives m frame m') :
  SameSettings m m'
  := by
  cases hm with
  | ignored => exact ⟨rfl, rfl⟩
  | hello g p hnone hg => apply sameSettings_start (m.greet g)
  | nextHello current p hpeer =>
    obtain ⟨hconfig, hburst⟩ := sameSettings_restart m m.wasLive
    obtain ⟨hconfig', hburst'⟩ := sameSettings_start
      ((m.restartNegotiation m.wasLive false).greet (nextGeneration current))
    exact ⟨hconfig'.trans hconfig, hburst'.trans hburst⟩
  | helloAck g hpeer => apply sameSettings_start { m with helloAckReceived := true }
  | firstHelloAck g hpeer =>
    apply sameSettings_start { m.greet g with helloAckReceived := true }
  | nextHelloAck current hpeer =>
    apply sameSettings_start { (m.restartNegotiation true false).greet (nextGeneration current)
      with helloAckReceived := true }
  | reset g reason hpeer => exact ⟨rfl, rfl⟩
  | capabilities kind g profiles rates hpeer hstate =>
    apply (negotiates_onCapabilities hstate kind profiles rates).sameSettings
  | linkParameters kind g rxWindowUnits burstUnits hpeer hstate =>
    apply (negotiates_onLinkParameters hstate kind rxWindowUnits burstUnits).sameSettings

theorem sameSettings_performs (hm : Performs m m') :
  SameSettings m m'
  := by
  cases hm with
  | usesLink m' hm =>
    obtain ⟨endpoint, polls, rfl, -⟩ := hm
    exact ⟨rfl, rfl⟩
  | _ => exact ⟨rfl, rfl⟩

/-- The configuration never changes. -/
theorem sameSettings_step (m : DlpManagedEndpoint T) (event : Event T) :
  SameSettings m (m.step event)
  := by
  cases event with
  | op op => apply sameSettings_performs (performs_perform m op)
  | receiveControl bytes =>
    rw [DlpManagedEndpoint.step, receiveControl]
    split
    · exact ⟨rfl, rfl⟩
    · next frame _ => apply sameSettings_receives (receives_onFrame m frame)

/-! ### The limit -/

/-- The credit of a link is within the receive buffer of the other end, and what it has given
is within its own. -/
structure WithinLimits (p : DlpNegotiatedProfile) (rxBufferFlits : U32) (d : DlpEndpoint) : Prop where
  credit : d.dataTxCredit.toNat ≤ p.peerRxBufferFlits.toNat
  accounted : d.Accounted 0
  rx_buffer : d.rxBufferFlits = rxBufferFlits

/-- Use of the link that brings credit within the limit only keeps the limits. -/
theorem WithinLimits.step {p : DlpNegotiatedProfile} {rxBufferFlits : U32} {d : DlpEndpoint}
    {op : DlpEndpoint.Op} (h : WithinLimits p rxBufferFlits d) (hop : Within (some p) d op) :
  WithinLimits p rxBufferFlits (d.step op)
  := by
  constructor
  · cases op with
    | grantDataTxCredit count =>
      obtain ⟨p', hp', hgrant⟩ := hop
      cases hp'
      have hlt := p.peerRxBufferFlits.isLt
      rw [DlpEndpoint.step, DlpEndpoint.grantDataTxCredit]
      dsimp only
      rw [toNat_saturatingAdd (by omega)]
      exact hgrant
    | _ =>
      apply Nat.le_trans _ h.credit
      apply d.txCredit_step (t := .data)
      rfl
  · apply h.accounted.step
  · have hsame : DlpEndpoint.SameConfig d (d.step op) := by
      apply DlpEndpoint.sameConfig_step
      rintro up rfl
      exact hop
    rw [hsame.rxBufferFlits]
    apply h.rx_buffer

/-- As long as data can be sent, a profile is installed and the link is within its limits. -/
def Limited (m : DlpManagedEndpoint T) : Prop :=
  m.dataPathActive →
    ∃ p, m.negotiated = some p ∧
      WithinLimits p m.endpointConfig.rxBufferFlits m.endpoint.dlp

/-- A link that has just been made is within the limits. -/
theorem Installed.withinLimits (h : m.Installed) :
  ∃ p, m.negotiated = some p ∧ WithinLimits p m.endpointConfig.rxBufferFlits m.endpoint.dlp
  := by
  obtain ⟨p, hp, -, -, -, hnew⟩ := h
  refine ⟨p, hp, ?_, DlpEndpoint.accounted_of_new hnew, ?_⟩
  · rw [DlpEndpoint.new] at hnew
    split at hnew
    · cases hnew
    · rw [← Except.ok.inj hnew]
      apply Nat.zero_le
  · rw [DlpEndpoint.new] at hnew
    split at hnew
    · cases hnew
    · rw [← Except.ok.inj hnew]

theorem Limited.receives {frame : DlpControlFrame} (hinv : m.Inv) (h : m.Limited)
    (hm : Receives m frame m') :
  m'.Limited
  := by
  intro hactive
  rcases (hinv.receives hm).2 with rfl | hinactive | ⟨-, hnegotiates⟩
  · exact h hactive
  · rw [hinactive] at hactive
    cases hactive
  · rcases hnegotiates.2 with ⟨hstate, -⟩ | ⟨-, hinstalled⟩
    · simp [dataPathActive, hstate] at hactive
    · exact hinstalled.withinLimits

theorem Limited.performs (h : m.Limited) (hm : Performs m m') :
  m'.Limited
  := by
  cases hm with
  | carrierUp hstate => nofun
  | carrierDown => nofun
  | requestReset reason hstate hreason => nofun
  | pollControl => exact h
  | finishCreditSync hstate hcredit =>
    intro _
    apply h
    simp [dataPathActive, hstate]
  | usesLink m' hm =>
    obtain ⟨endpoint, polls, rfl, huses⟩ := hm
    intro hactive
    obtain ⟨p, hp, hlimits⟩ := h hactive
    refine ⟨p, hp, ?_⟩
    rw [hp] at huses
    apply huses.invariant _ hlimits
    intro d op hd hop
    apply hd.step hop

theorem Limited.step (hinv : m.Inv) (h : m.Limited) (event : Event T) :
  (m.step event).Limited
  := by
  cases event with
  | op op => apply h.performs (performs_perform m op)
  | receiveControl bytes =>
    rw [DlpManagedEndpoint.step, receiveControl]
    split
    · exact h
    · next frame _ => apply h.receives hinv (receives_onFrame m frame)

/-! ### Credit above the limit -/

/-- A `CREDIT` above the limit is refused. -/
theorem handleManagedPacket_of_excess {e : LinkedEndpoint T} {packet : GdpPacket} {now : U64}
    {limit granted : U32} (hcredit : creditOf packet = some granted)
    (hexcess : limit.toNat < e.dlp.dataTxCredit.toNat + granted.toNat) :
  (e.handleManagedPacket packet now limit).2 = e
  := by
  rw [LinkedEndpoint.handleManagedPacket]
  split
  · rfl
  · next hvalid =>
    have hle := LinkedEndpoint.validateManagedCreditGrant_of_credit hcredit hvalid
    omega

/-- A flit that completes a `CREDIT` above the limit leaves the credit as it is. -/
theorem dataTxCredit_receiveFlit_of_excess {p : DlpNegotiatedProfile} {packet : GdpPacket}
    {granted : U32} {flit : Flit} (now : U64) (hp : m.negotiated = some p)
    (hcredit : creditOf packet = some granted)
    (hexcess : p.peerRxBufferFlits.toNat < m.endpoint.dlp.dataTxCredit.toNat + granted.toNat)
    (hpacket : (m.endpoint.dlp.receive flit).1 = .ok (some packet)) :
  (m.receiveFlit flit now).2.endpoint.dlp.dataTxCredit = m.endpoint.dlp.dataTxCredit
  := by
  rw [receiveFlit]
  split
  · rfl
  rw [hp]
  dsimp only
  have hsame : (m.endpoint.dlp.receive flit).2.dataTxCredit = m.endpoint.dlp.dataTxCredit :=
    (DlpEndpoint.sameSender_receive m.endpoint.dlp flit).txCredit .data
  rw [LinkedEndpoint.receiveManagedFlit]
  generalize m.endpoint.dlp.receive flit = received at hpacket hsame ⊢
  obtain ⟨result, dlp⟩ := received
  dsimp only at hpacket hsame
  rw [hpacket]
  dsimp only
  rw [@handleManagedPacket_of_excess T { m.endpoint with dlp } packet now p.peerRxBufferFlits
    granted hcredit]
  · exact hsame
  · dsimp only
    rw [hsame]
    exact hexcess

/-- So does a frame that holds such a `CREDIT`. -/
theorem dataTxCredit_receiveFrame_of_excess {p : DlpNegotiatedProfile} {packet : GdpPacket}
    {granted : U32} {frame : GnetFrame} (now : U64) (hp : m.negotiated = some p)
    (hcredit : creditOf packet = some granted)
    (hexcess : p.peerRxBufferFlits.toNat < m.endpoint.dlp.dataTxCredit.toNat + granted.toNat)
    (hpacket : (m.endpoint.dlp.receiveFrame frame).1 = .ok packet) :
  (m.receiveFrame frame now).2.endpoint.dlp.dataTxCredit = m.endpoint.dlp.dataTxCredit
  := by
  rw [receiveFrame]
  split
  · rfl
  rw [hp]
  dsimp only
  have hsame : (m.endpoint.dlp.receiveFrame frame).2.dataTxCredit = m.endpoint.dlp.dataTxCredit :=
    (DlpEndpoint.sameSender_receiveFrame m.endpoint.dlp frame).txCredit .data
  rw [LinkedEndpoint.receiveManagedFrame]
  generalize m.endpoint.dlp.receiveFrame frame = received at hpacket hsame ⊢
  obtain ⟨result, dlp⟩ := received
  dsimp only at hpacket hsame
  rw [hpacket]
  dsimp only
  rw [@handleManagedPacket_of_excess T { m.endpoint with dlp } packet now p.peerRxBufferFlits
    granted hcredit]
  · exact hsame
  · dsimp only
    rw [hsame]
    exact hexcess

/-- In every run a managed endpoint that sends and receives data has installed a profile; its
credit is within the receive buffer of the other end; what it has given and what it holds is
within its own; and a `CREDIT` above the limit leaves its credit as it is. -/
theorem credit_limited {config : EndpointConfig} {maxBurstFlits : U32}
    {m₀ : DlpManagedEndpoint T} (hfresh : Fresh config maxBurstFlits m₀)
    (events : List (Event T)) :
  let m := Machine.run step m₀ events
  (m.state = .creditSync ∨ m.state = .up → ∃ p, m.negotiated = some p ∧
    m.endpoint.dlp.dataTxCredit.toNat ≤ p.peerRxBufferFlits.toNat ∧
    m.endpoint.dlp.dataCreditOutstanding.toNat + m.endpoint.dlp.dataRxInUse.toNat
      ≤ config.rxBufferFlits.toNat) ∧
  ∀ p packet granted, m.negotiated = some p → creditOf packet = some granted →
    p.peerRxBufferFlits.toNat < m.endpoint.dlp.dataTxCredit.toNat + granted.toNat →
    (∀ flit now, (m.endpoint.dlp.receive flit).1 = .ok (some packet) →
      (m.receiveFlit flit now).2.endpoint.dlp.dataTxCredit = m.endpoint.dlp.dataTxCredit) ∧
    ∀ frame now, (m.endpoint.dlp.receiveFrame frame).1 = .ok packet →
      (m.receiveFrame frame now).2.endpoint.dlp.dataTxCredit = m.endpoint.dlp.dataTxCredit
  := by
  intro m
  have hrun : m.Inv ∧ m.Limited ∧ m.endpointConfig = config := by
    refine Machine.invariant_run (P := fun m : DlpManagedEndpoint T =>
      m.Inv ∧ m.Limited ∧ m.endpointConfig = config) ?_ ?_ events
    · rintro m event ⟨hinv, hlimited, hconfig⟩
      exact ⟨hinv.step event, hlimited.step hinv event,
        (sameSettings_step m event).1.trans hconfig⟩
    · refine ⟨Inv.of_fresh hfresh, ?_⟩
      obtain ⟨⟨endpoint, rfl, -⟩, -⟩ := hfresh.built
      exact ⟨nofun, rfl⟩
  obtain ⟨-, hlimited, hconfig⟩ := hrun
  constructor
  · intro hstate
    obtain ⟨p, hp, hlimits⟩ := hlimited (by simpa [dataPathActive] using hstate)
    refine ⟨p, hp, hlimits.credit, ?_⟩
    rw [← hconfig, ← hlimits.rx_buffer]
    apply hlimits.accounted.room
  · intro p packet granted hp hcredit hexcess
    constructor
    · intro flit now hpacket
      apply dataTxCredit_receiveFlit_of_excess now hp hcredit hexcess hpacket
    · intro frame now hpacket
      apply dataTxCredit_receiveFrame_of_excess now hp hcredit hexcess hpacket

/-- The other end negotiates with room for 32 flits, and gives credit for 1000 of them. -/
theorem credit_limited_excess :
  let events : List (Event .silent) := .op .carrierUp :: arrivals
    [.hello .initial 5#8 0#8, .hello .acknowledgement 5#8 1#8,
      .capabilities .offer 5#8 0b11#8 0b111#8, .linkParameters .offer 5#8 8#8 4#8,
      .capabilities .selection 5#8 0b10#8 0b100#8, .linkParameters .selection 5#8 16#8 4#8,
      .capabilities .confirmation 5#8 0b10#8 0b100#8, .linkParameters .confirmation 5#8 8#8 4#8]
  ∃ (m₀ : DlpManagedEndpoint .silent) (packet : GdpPacket) (frame : GnetFrame),
    Fresh ⟨64#32, .four, 8#8, none, false, 1#32, 32#32, ⟨true⟩⟩ 16#32 m₀ ∧
    (Machine.run step m₀ events).state = .creditSync ∧
    creditOf packet = some 1000#32 ∧
    ((Machine.run step m₀ events).endpoint.dlp.receiveFrame frame).1 = .ok packet ∧
    (∃ p, (Machine.run step m₀ events).negotiated = some p ∧
      (Machine.run step m₀ events).endpoint.dlp.dataTxCredit.toNat
        ≤ p.peerRxBufferFlits.toNat) ∧
    ((Machine.run step m₀ events).receiveFrame frame 0#64).2.endpoint.dlp.dataTxCredit
      = (Machine.run step m₀ events).endpoint.dlp.dataTxCredit
  := by
  intro events
  let packet : GdpPacket :=
    { header := GdpHeader.global .gctl .ctrl32 4#8 ⟨9#64⟩ ⟨7#64⟩
      payload := ((GctlMessage.credit 3#32 1000#32).encodeExact 32).toOption.getD [] }
  let frame : GnetFrame :=
    { vcid := Vcid.control, traffic := .control, bytes := (packet.encode ⟨true⟩).toOption.getD [] }
  obtain ⟨hlimit, hexcess⟩ := @credit_limited .silent
    ⟨64#32, .four, 8#8, none, false, 1#32, 32#32, ⟨true⟩⟩ 16#32 _ (.inl ⟨⟨7#64⟩, rfl⟩) events
  refine ⟨_, packet, frame, .inl ⟨⟨7#64⟩, rfl⟩, ?_, ?_, ?_, ?_, ?_⟩
  · decide +kernel
  · decide +kernel
  · decide +kernel
  · obtain ⟨p, hp, hcredit, -⟩ := hlimit (.inl (by decide +kernel))
    exact ⟨p, hp, hcredit⟩
  · apply (hexcess ⟨.four, 16#32, 32#32, 32#32⟩ packet 1000#32 _ _ _).2
    · decide +kernel
    · decide +kernel
    · decide +kernel
    · decide +kernel

end DlpManagedEndpoint

end SmolGnet
