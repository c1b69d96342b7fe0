import SmolGnet.Managed.Signals

/-!
# Bring-up and reset

Two managed endpoints with the carrier up, connected by control channels that keep all
frames in their order.  If no end is reset while it is still greeting the other one, then
every control frame is accepted, and when no frame is queued or under way both ends have
installed a profile.

The two ends go through the generations together.  Either both are in the same one, and each
has sent exactly what answers what it has received, after frames of earlier generations that
the other end does not listen to; or one end has been reset and the `RESET` is still on its
way to the other one.
-/

namespace SmolGnet

open LinkSettings

variable {T : Transport} {x y : LinkSettings}

/-! ### Two endpoints and their control channels -/

/-- Two managed endpoints, the control frames under way from the near one to the far one and
those that arrive from there, and whether a frame has been refused. -/
structure ControlLink (T : Transport) where
  near : DlpManagedEndpoint T
  far : DlpManagedEndpoint T
  sent : List Bytes
  arriving : List Bytes
  failed : Bool

namespace ControlLink

/-- What can happen at one end. -/
inductive LocalAction (T : Transport) where
  | requestReset (reason : U32)
  | pollControl
  | receiveControl
  | finishCreditSync
  | use (op : { op : DlpManagedEndpoint.Op T // op.isData = true })

/-- What can happen. -/
inductive Action (T : Transport) where
  | near (action : LocalAction T)
  | far (action : LocalAction T)

/-- The link as the other end sees it. -/
def swap (s : ControlLink T) : ControlLink T where
  near := s.far
  far := s.near
  sent := s.arriving
  arriving := s.sent
  failed := s.failed

/-- The link after something has happened at the near end. -/
def actNear (s : ControlLink T) : LocalAction T → ControlLink T
  | .requestReset reason => { s with near := s.near.perform (.requestReset reason) }
  | .pollControl =>
    { s with near := s.near.pollControl.2, sent := s.sent ++ s.near.pollControl.1.toList }
  | .receiveControl =>
    match s.arriving with
    | [] => s
    | bytes :: arriving =>
      let (result, near) := s.near.receiveControl bytes
      { s with near, arriving, failed := s.failed || !result.isOk }
  | .finishCreditSync => { s with near := s.near.perform .finishCreditSync }
  | .use op => { s with near := s.near.perform op.val }

/-- The link after something has happened at one of its ends. -/
def step (s : ControlLink T) : Action T → ControlLink T
  | .near action => s.actNear action
  | .far action => (s.swap.actNear action).swap

/-- Both ends have the carrier, and nothing has been sent. -/
def started (a b : DlpManagedEndpoint T) : ControlLink T where
  near := a.perform .carrierUp
  far := b.perform .carrierUp
  sent := []
  arriving := []
  failed := false

/-- The end is not reset while it is greeting the other one. -/
def GreetsFirst (m : DlpManagedEndpoint T) : LocalAction T → Prop
  | .requestReset reason => 0x0f#32 < reason ∨ m.wasLive = true
  | _ => True

instance (m : DlpManagedEndpoint T) : (action : LocalAction T) → Decidable (GreetsFirst m action)
  | .requestReset reason => inferInstanceAs (Decidable (0x0f#32 < reason ∨ m.wasLive = true))
  | .pollControl => isTrue trivial
  | .receiveControl => isTrue trivial
  | .finishCreditSync => isTrue trivial
  | .use _ => isTrue trivial

/-- Neither end is reset while it is greeting the other one. -/
def NotGreeting (s : ControlLink T) : Action T → Prop
  | .near action => GreetsFirst s.near action
  | .far action => GreetsFirst s.far action

instance (s : ControlLink T) : (action : Action T) → Decidable (s.NotGreeting action)
  | .near action => inferInstanceAs (Decidable (GreetsFirst s.near action))
  | .far action => inferInstanceAs (Decidable (GreetsFirst s.far action))

/-- No control frame is queued or under way. -/
def Quiet (s : ControlLink T) : Prop :=
  s.near.controlTx = [] ∧ s.far.controlTx = [] ∧ s.sent = [] ∧ s.arriving = []

instance (s : ControlLink T) : Decidable s.Quiet :=
  inferInstanceAs (Decidable (s.near.controlTx = [] ∧ s.far.controlTx = [] ∧ s.sent = [] ∧
    s.arriving = []))

/-! ### The frames of one direction -/

/-- The frames that are under way or queued are `frames`. -/
def Carries (wire : List Bytes) (queue frames : List DlpControlFrame) : Prop :=
  ∃ sent, wire = sent.map DlpControlFrame.encode ∧ sent ++ queue = frames

variable {wire : List Bytes} {queue frames : List DlpControlFrame}

theorem Carries.poll {frame : DlpControlFrame} (h : Carries wire (frame :: queue) frames) :
  Carries (wire ++ [frame.encode]) queue frames
  := by
  obtain ⟨sent, rfl, rfl⟩ := h
  refine ⟨sent ++ [frame], ?_, ?_⟩
  · rw [List.map_append, List.map_singleton]
  · rw [List.append_assoc, List.singleton_append]

theorem Carries.append (h : Carries wire queue frames) (new : List DlpControlFrame) :
  Carries wire (queue ++ new) (frames ++ new)
  := by
  obtain ⟨sent, rfl, rfl⟩ := h
  refine ⟨sent, rfl, ?_⟩
  rw [List.append_assoc]

theorem Carries.receive {bytes : Bytes} (h : Carries (bytes :: wire) queue frames) :
  ∃ frame rest, frames = frame :: rest ∧ bytes = DlpControlFrame.encode frame ∧
    Carries wire queue rest
  := by
  obtain ⟨sent, hwire, rfl⟩ := h
  cases sent with
  | nil => cases hwire
  | cons frame sent =>
    rw [List.map_cons, List.cons.injEq] at hwire
    exact ⟨frame, sent ++ queue, rfl, hwire.1, sent, hwire.2, rfl⟩

/-- When the queue is replaced, a first part of the frames remains. -/
theorem Carries.clear (h : Carries wire queue frames) (new : List DlpControlFrame) :
  ∃ first rest, frames = first ++ rest ∧ Carries wire new (first ++ new)
  := by
  obtain ⟨sent, hwire, rfl⟩ := h
  exact ⟨sent, queue, rfl, sent, hwire, rfl⟩

/-- A frame of an earlier generation, to which an end that does not know the other one does
not listen. -/
def IsStale (x y : LinkSettings) (frame : DlpControlFrame) : Prop :=
  Sends x y frame ∧ ∀ kind g p, frame ≠ .hello kind g p

/-- Stale frames, and then the signals of the generation `n` that the sender, which has
received `heard`, has sent and the receiver, which has received `heard'`, has not received. -/
def Flow (x y : LinkSettings) (n : U8) (heard heard' : Signal → Bool) (wire : List Bytes)
    (queue : List DlpControlFrame) : Prop :=
  ∃ stale signals,
    Carries wire queue (stale ++ signals.map (Signal.frame x y n)) ∧
    (∀ frame ∈ stale, IsStale x y frame) ∧ (stale ≠ [] → heard' .hello = false) ∧
    Causal.Ordered Signal.needs heard' signals ∧
    Causal.takeAll heard' signals = Signal.said heard

/-- Both ends are in the same generation. -/
def Lockstep (x y : LinkSettings) (s : ControlLink T) : Prop :=
  ∃ n heard heard', IsGeneration n ∧ s.near.Reached x y n heard ∧ s.far.Reached y x n heard' ∧
    Flow x y n heard heard' s.sent s.near.controlTx ∧
    Flow y x n heard' heard s.arriving s.far.controlTx

/-- The near end has been reset, and the `RESET` is on its way to the far end. -/
def Ahead (x y : LinkSettings) (s : ControlLink T) : Prop :=
  ∃ n heard reason signals stale, IsGeneration n ∧ reason ≤ 15#8 ∧
    s.near.Reached x y (nextGeneration n) (fun _ => false) ∧ s.far.Reached y x n heard ∧
    heard .hello = true ∧ Causal.Ordered Signal.needs heard signals ∧
    Carries s.sent s.near.controlTx (signals.map (Signal.frame x y n) ++
      [.reset n reason, .hello .initial (nextGeneration n) 0#8]) ∧
    Carries s.arriving s.far.controlTx stale ∧ ∀ frame ∈ stale, IsStale y x frame

/-- What holds in every run. -/
def Inv (x y : LinkSettings) (s : ControlLink T) : Prop :=
  s.failed = false ∧ (Lockstep x y s ∨ Ahead x y s ∨ Ahead y x s.swap)

variable {s : ControlLink T}

theorem Lockstep.swap (h : s.Lockstep x y) :
  s.swap.Lockstep y x
  := by
  obtain ⟨n, heard, heard', hn, hnear, hfar, hsent, harriving⟩ := h
  exact ⟨n, heard', heard, hn, hfar, hnear, harriving, hsent⟩

theorem Inv.swap (h : s.Inv x y) :
  s.swap.Inv y x
  := by
  obtain ⟨hfailed, hlockstep | hahead | hbehind⟩ := h
  · exact ⟨hfailed, .inl hlockstep.swap⟩
  · exact ⟨hfailed, .inr (.inr hahead)⟩
  · exact ⟨hfailed, .inr (.inl hbehind)⟩

/-! ### What happens at one end -/

variable {m : DlpManagedEndpoint T} {n : U8} {heard heard' : Signal → Bool}

theorem isStale_frame (hn : IsGeneration n) {k : Signal} (hhello : k ≠ .hello)
    (hack : k ≠ .helloAck) :
  IsStale x y (k.frame x y n)
  := by
  use Signal.frame_sends hn k
  intro kind g p
  cases k with
  | hello => exact absurd rfl hhello
  | helloAck => exact absurd rfl hack
  | _ => nofun

/-- What the other end sends arrives as it was sent. -/
theorem receiveControl_encode {frame : DlpControlFrame} (hx : x.Valid) (hy : y.Valid)
    (m : DlpManagedEndpoint T) (h : Sends x y frame) :
  m.receiveControl frame.encode = m.onFrame frame
  := by
  rw [DlpManagedEndpoint.receiveControl, h.decode_encode hx hy]

theorem reached_pollControl (h : m.Reached x y n heard) :
  m.pollControl.2.Reached x y n heard
  := by
  rw [DlpManagedEndpoint.pollControl]
  split
  · exact h
  · exact ⟨{ h.toHeard with }, h.closed, h.in_state⟩

theorem carries_pollControl (h : Carries wire m.controlTx frames) :
  Carries (wire ++ m.pollControl.1.toList) m.pollControl.2.controlTx frames
  := by
  rw [DlpManagedEndpoint.pollControl]
  split
  · rw [Option.toList_none, List.append_nil]
    exact h
  · next frame queue hqueue =>
    rw [hqueue] at h
    exact h.poll

theorem reached_use (h : m.Reached x y n heard) {op : DlpManagedEndpoint.Op T}
    (hop : op.isData = true) :
  (m.perform op).Reached x y n heard ∧ (m.perform op).controlTx = m.controlTx
  := by
  obtain ⟨endpoint, polls, heq, -⟩ := DlpManagedEndpoint.usesLink_perform m hop
  rw [heq]
  exact ⟨⟨{ h.toHeard with }, h.closed, h.in_state⟩, rfl⟩

theorem reached_finishCreditSync (h : m.Reached x y n heard) :
  (m.perform .finishCreditSync).Reached x y n heard ∧
    (m.perform .finishCreditSync).controlTx = m.controlTx
  := by
  rw [DlpManagedEndpoint.perform, DlpManagedEndpoint.finishCreditSync]
  split
  · exact ⟨h, rfl⟩
  next hstate =>
  split
  · exact ⟨h, rfl⟩
  refine ⟨⟨{ h.toHeard with }, h.closed, ?_⟩, rfl⟩
  have hin := h.in_state
  rw [not_not.mp hstate, DlpManagedEndpoint.InState] at hin
  rw [DlpManagedEndpoint.InState]
  split at hin
  · next hack =>
    rw [if_pos hack]
    split at hin
    · next hcomplete =>
      rw [if_pos hcomplete]
      exact .inr rfl
    · cases hin
  · cases hin

/-- What does not touch the signals that an end has received, nor the order of its frames,
keeps the invariant. -/
theorem Inv.quiet {near : DlpManagedEndpoint T} {sent : List Bytes} (h : s.Inv x y)
    (hreached : ∀ {x y n heard}, s.near.Reached x y n heard → near.Reached x y n heard)
    (hcarries : ∀ {frames}, Carries s.sent s.near.controlTx frames →
      Carries sent near.controlTx frames) :
  Inv x y { s with near, sent }
  := by
  obtain ⟨hfailed, hlockstep | hahead | hbehind⟩ := h
  · obtain ⟨n, heard, heard', hn, hnear, hfar, ⟨stale, signals, hsent, hflow⟩, harriving⟩ :=
      hlockstep
    refine ⟨hfailed, .inl ⟨n, heard, heard', hn, hreached hnear, hfar, ?_, harriving⟩⟩
    exact ⟨stale, signals, hcarries hsent, hflow⟩
  · obtain ⟨n, heard, reason, signals, stale, hn, hreason, hnear, hfar, hhello, hordered, hsent,
      harriving⟩ := hahead
    exact ⟨hfailed, .inr (.inl ⟨n, heard, reason, signals, stale, hn, hreason, hreached hnear,
      hfar, hhello, hordered, hcarries hsent, harriving⟩)⟩
  · obtain ⟨n, heard, reason, signals, stale, hn, hreason, hnear, hfar, hhello, hordered, hsent,
      harriving, hstale⟩ := hbehind
    exact ⟨hfailed, .inr (.inr ⟨n, heard, reason, signals, stale, hn, hreason, hnear,
      hreached hfar, hhello, hordered, hsent, hcarries harriving, hstale⟩)⟩

/-- An end that has been reset, or resets itself, has received nothing. -/
theorem reached_afterReset (h : m.Reached x y n heard) (queue : List DlpControlFrame) :
  (m.afterReset queue).Reached x y (nextGeneration n) (fun _ => false) ∧
    (m.afterReset queue).controlTx
      = queue ++ [.hello .initial (nextGeneration n) 0#8]
  := by
  obtain rfl := h.local_generation
  refine ⟨⟨⟨h.config, h.burst, rfl, rfl, rfl, rfl, rfl, rfl, rfl, rfl, rfl, rfl, rfl, rfl, rfl,
    rfl, rfl, rfl, rfl, rfl⟩, Signal.closed_none, rfl⟩, rfl⟩

/-- An end that is not greeting has been greeted and answered. -/
theorem heard_of_live (h : m.Reached x y n heard) (hlive : m.wasLive = true) :
  heard .helloAck = true ∧ heard .hello = true
  := by
  have hack : heard .helloAck = true := by
    by_contra hack
    have hin := h.in_state
    rw [DlpManagedEndpoint.InState, if_neg hack] at hin
    simp [DlpManagedEndpoint.wasLive, hin] at hlive
  exact ⟨hack, h.closed .helloAck .hello hack rfl⟩

theorem not_down_of_live (hlive : m.wasLive = true) :
  m.state ≠ .down
  := by
  intro hdown
  simp [DlpManagedEndpoint.wasLive, hdown] at hlive

/-- Signals that come after the answer to a greeting are stale in the next generation. -/
theorem isStale_signals (hn : IsGeneration n) {signals : List Signal}
    (hordered : Causal.Ordered Signal.needs heard signals) (hhello : heard .hello = true)
    (hack : heard .helloAck = true) :
  ∀ frame ∈ signals.map (Signal.frame x y n), IsStale x y frame
  := by
  intro frame hframe
  obtain ⟨k, hk, rfl⟩ := List.mem_map.mp hframe
  have hnot := hordered.not_taken k hk
  apply isStale_frame hn
  · rintro rfl
    rw [hhello] at hnot
    cases hnot
  · rintro rfl
    rw [hack] at hnot
    cases hnot

/-- A fresh generation: nothing has been received, and only the greeting is sent. -/
theorem flow_fresh {stale : List DlpControlFrame}
    (hcarries : Carries wire queue (stale ++ [.hello .initial n 0#8]))
    (hstale : ∀ frame ∈ stale, IsStale x y frame) :
  Flow x y n (fun _ => false) (fun _ => false) wire queue
  := by
  refine ⟨stale, [.hello], hcarries, hstale, fun _ => rfl, ⟨rfl, nofun, trivial⟩, ?_⟩
  funext k
  cases k <;> rfl

/-! ### Resets -/

/-- The near end is reset in the generation of both. -/
theorem Lockstep.requestReset (h : s.Lockstep x y) (hlive : s.near.wasLive = true) {reason : U8}
    (hreason : reason ≤ 15#8) :
  Ahead x y { s with near := s.near.afterReset [.reset s.near.localGeneration reason] }
  := by
  obtain ⟨n, heard, heard', hn, hnear, hfar, hsent, harriving⟩ := h
  obtain ⟨hack, hhello⟩ := heard_of_live hnear hlive
  obtain ⟨stale, signals, hcarries, -, hstale, hordered, -⟩ := hsent
  obtain ⟨stale', signals', hcarries', -, hstale', hordered', htake'⟩ := harriving
  have hgreeted : heard' .hello = true := by
    have hsaid := Causal.takeAll_of_taken hack signals'
    rw [htake'] at hsaid
    exact hsaid
  have hnone : stale = [] := by
    by_contra hne
    rw [hstale hne] at hgreeted
    cases hgreeted
  have hnone' : stale' = [] := by
    by_contra hne
    rw [hstale' hne] at hhello
    cases hhello
  obtain ⟨hfresh, hqueue⟩ := reached_afterReset hnear [.reset s.near.localGeneration reason]
  rw [hnone, List.nil_append] at hcarries
  rw [hnone', List.nil_append] at hcarries'
  obtain ⟨first, rest, hsplit, hclear⟩ := hcarries.clear
    [.reset n reason, .hello .initial (nextGeneration n) 0#8]
  obtain ⟨signals₁, signals₂, rfl, rfl, -⟩ := List.map_eq_append_iff.mp hsplit
  refine ⟨n, heard', reason, signals₁, _, hn, hreason, hfresh, hfar, hgreeted,
    (Causal.ordered_append.mp hordered).1, ?_, hcarries',
    isStale_signals hn hordered' hhello hack⟩
  rw [hqueue, hnear.local_generation]
  exact hclear

/-- The near end is reset while a `RESET` of the far end is on its way to it. -/
theorem Ahead.requestReset (h : s.swap.Ahead y x) (hlive : s.near.wasLive = true) {reason : U8}
    (hreason : reason ≤ 15#8) :
  Lockstep x y { s with near := s.near.afterReset [.reset s.near.localGeneration reason] }
  := by
  obtain ⟨n, heard, reason', signals, stale, hn, hreason', hfar, hnear, -, hordered, harriving,
    hsent, hstale⟩ := h
  change s.near.Reached x y n heard at hnear
  obtain ⟨hack, hhello⟩ := heard_of_live hnear hlive
  obtain ⟨hfresh, hqueue⟩ := reached_afterReset hnear [.reset s.near.localGeneration reason]
  obtain ⟨first, rest, rfl, hclear⟩ := hsent.clear
    [.reset n reason, .hello .initial (nextGeneration n) 0#8]
  have hreset : IsStale x y (.reset n reason) := ⟨.reset n reason hn hreason, nofun⟩
  have hreset' : IsStale y x (.reset n reason') := ⟨.reset n reason' hn hreason', nofun⟩
  refine ⟨nextGeneration n, _, _, isGeneration_next n, hfresh, hfar, ?_, ?_⟩
  · have hstale' : ∀ frame ∈ first ++ [.reset n reason], IsStale x y frame := by
      intro frame hframe
      rcases List.mem_append.mp hframe with hmem | hmem
      · exact hstale frame (List.mem_append_left rest hmem)
      · rw [List.mem_singleton.mp hmem]
        exact hreset
    have hlocal : s.near.localGeneration = n := hnear.local_generation
    refine flow_fresh ?_ hstale'
    rw [List.append_assoc]
    change Carries s.sent (s.near.afterReset _).controlTx _
    rw [hqueue, hlocal]
    exact hclear
  · have hstale' : ∀ frame ∈ signals.map (Signal.frame y x n) ++ [.reset n reason'],
        IsStale y x frame := by
      intro frame hframe
      rcases List.mem_append.mp hframe with hmem | hmem
      · exact isStale_signals hn hordered hhello hack frame hmem
      · rw [List.mem_singleton.mp hmem]
        exact hreset'
    refine flow_fresh ?_ hstale'
    rw [List.append_assoc]
    exact harriving

/-! ### Arrivals -/

/-- The link after a frame has arrived at the near end. -/
def received (s : ControlLink T) (bytes : Bytes) (arriving : List Bytes) : ControlLink T :=
  { s with near := (s.near.receiveControl bytes).2, arriving }

theorem Lockstep.receive (hx : x.Valid) (hy : y.Valid) (h : s.Lockstep x y) {bytes : Bytes}
    {arriving : List Bytes} (harriving : s.arriving = bytes :: arriving) :
  (s.near.receiveControl bytes).1 = .ok () ∧ (s.received bytes arriving).Lockstep x y
  := by
  obtain ⟨n, heard, heard', hn, hnear, hfar, hsent, harrive⟩ := h
  obtain ⟨stale, signals, hcarries, hstale, hunheard, hordered, htake⟩ := harrive
  rw [harriving] at hcarries
  obtain ⟨frame, rest, hframes, rfl, hrest⟩ := hcarries.receive
  rw [received]
  cases stale with
  | cons frame' stale =>
    obtain ⟨rfl, rfl⟩ := List.cons.inj hframes
    obtain ⟨hsends, hnothello⟩ := hstale frame' List.mem_cons_self
    have hpeer : s.near.peerGeneration = none := by
      rw [hnear.peer_generation, hunheard nofun]
      rfl
    rw [receiveControl_encode hy hx s.near hsends,
      DlpManagedEndpoint.onFrame_of_unknown hpeer hnothello]
    refine ⟨rfl, n, heard, heard', hn, hnear, hfar, hsent, ?_⟩
    refine ⟨stale, signals, hrest, ?_, fun _ => hunheard nofun, hordered, htake⟩
    intro frame hframe
    exact hstale frame (List.mem_cons_of_mem frame' hframe)
  | nil =>
    cases signals with
    | nil => cases hframes
    | cons k signals =>
      obtain ⟨rfl, rfl⟩ := List.cons.inj hframes
      obtain ⟨hk, hneeds, hordered⟩ := hordered
      obtain ⟨hok, hreached, hqueue⟩ := hnear.takes hx hy hk hneeds
      rw [receiveControl_encode hy hx s.near (Signal.frame_sends hn k)]
      refine ⟨hok, n, Function.update heard k true, heard', hn, hreached, hfar, ?_, ?_⟩
      · obtain ⟨stale', signals', hcarries', hstale', hunheard', hordered', htake'⟩ := hsent
        refine ⟨stale', signals' ++ k.answers, ?_, hstale', hunheard', ?_, ?_⟩
        · dsimp only
          rw [hqueue, List.map_append, ← List.append_assoc]
          exact hcarries'.append _
        · rw [Causal.ordered_append, htake']
          exact ⟨hordered', Signal.ordered_answers hnear.closed hk hneeds⟩
        · rw [Causal.takeAll_append, htake', Signal.said_update]
      · exact ⟨[], signals, hrest, nofun, fun h => absurd rfl h, hordered, htake⟩

theorem Ahead.receive (hx : x.Valid) (hy : y.Valid) (h : s.Ahead x y) {bytes : Bytes}
    {arriving : List Bytes} (harriving : s.arriving = bytes :: arriving) :
  (s.near.receiveControl bytes).1 = .ok () ∧ (s.received bytes arriving).Ahead x y
  := by
  obtain ⟨n, heard, reason, signals, stale, hn, hreason, hnear, hfar, hhello, hordered, hsent,
    hcarries, hstale⟩ := h
  rw [harriving] at hcarries
  obtain ⟨frame, rest, rfl, rfl, hrest⟩ := hcarries.receive
  obtain ⟨⟨hsends, hnothello⟩, hstale⟩ := List.forall_mem_cons.mp hstale
  rw [received, receiveControl_encode hy hx s.near hsends,
    DlpManagedEndpoint.onFrame_of_unknown hnear.peer_generation hnothello]
  exact ⟨rfl, n, heard, reason, signals, rest, hn, hreason, hnear, hfar, hhello, hordered, hsent,
    hrest, hstale⟩

/-- Only a greeting is answered by an answer to it. -/
theorem answers_ne {k j : Signal} (hk : k ≠ .hello) (hj : j ∈ k.answers) :
  j ≠ .hello ∧ j ≠ .helloAck
  := by
  cases k with
  | hello => exact absurd rfl hk
  | helloAck => revert j; decide
  | capOffer => revert j; decide
  | capSelection => revert j; decide
  | capConfirmation => cases hj
  | paramsOffer => revert j; decide
  | paramsSelection => revert j; decide
  | paramsConfirmation => cases hj

/-- What has been sent before the `RESET` is still accepted; the `RESET` brings both ends to
the same generation. -/
theorem Ahead.receive_far (hx : x.Valid) (hy : y.Valid) (h : s.swap.Ahead y x) {bytes : Bytes}
    {arriving : List Bytes} (harriving : s.arriving = bytes :: arriving) :
  (s.near.receiveControl bytes).1 = .ok () ∧
    ((s.received bytes arriving).Lockstep x y ∨ (s.received bytes arriving).swap.Ahead y x)
  := by
  obtain ⟨n, heard, reason, signals, stale, hn, hreason, hfar, hnear, hhello, hordered, hcarries,
    hsent, hstale⟩ := h
  change Carries s.arriving s.far.controlTx _ at hcarries
  change Carries s.sent s.near.controlTx stale at hsent
  change s.near.Reached x y n heard at hnear
  rw [harriving] at hcarries
  obtain ⟨frame, rest, hframes, rfl, hrest⟩ := hcarries.receive
  cases signals with
  | cons k signals =>
    obtain ⟨rfl, rfl⟩ := List.cons.inj hframes
    obtain ⟨hk, hneeds, hordered⟩ := hordered
    have hne : k ≠ .hello := by
      rintro rfl
      rw [hhello] at hk
      cases hk
    obtain ⟨hok, hreached, hqueue⟩ := hnear.takes hx hy hk hneeds
    rw [received, receiveControl_encode hy hx s.near (Signal.frame_sends hn k)]
    refine ⟨hok, .inr ⟨n, Function.update heard k true, reason, signals,
      stale ++ k.answers.map (Signal.frame x y n), hn, hreason, hfar, hreached,
      Causal.takeAll_of_taken hhello [k], hordered, hrest, ?_, ?_⟩⟩
    · change Carries s.sent (s.near.onFrame (k.frame y x n)).2.controlTx _
      rw [hqueue]
      exact hsent.append _
    · intro frame hframe
      rcases List.mem_append.mp hframe with hmem | hmem
      · exact hstale frame hmem
      · obtain ⟨j, hj, rfl⟩ := List.mem_map.mp hmem
        obtain ⟨hjhello, hjack⟩ := answers_ne hne hj
        exact isStale_frame hn hjhello hjack
  | nil =>
    obtain ⟨rfl, rfl⟩ := List.cons.inj hframes
    have hreset : Sends y x (.reset n reason) := .reset n reason hn hreason
    have hpeer : s.near.peerGeneration = some n := by
      rw [hnear.peer_generation, if_pos hhello]
    have honReset : s.near.onFrame (.reset n reason) = (.ok (), s.near.afterReset []) := by
      rw [DlpManagedEndpoint.onFrame, DlpManagedEndpoint.onReset, if_neg (not_not.mpr hpeer)]
      rfl
    rw [received, receiveControl_encode hy hx s.near hreset, honReset]
    obtain ⟨hfresh, hqueue⟩ := reached_afterReset hnear []
    obtain ⟨first, last, rfl, hclear⟩ := hsent.clear [.hello .initial (nextGeneration n) 0#8]
    refine ⟨rfl, .inl ⟨nextGeneration n, _, _, isGeneration_next n, hfresh, hfar, ?_, ?_⟩⟩
    · have hfirst : ∀ frame ∈ first, IsStale x y frame :=
        fun frame hframe => hstale frame (List.mem_append_left last hframe)
      refine flow_fresh ?_ hfirst
      change Carries s.sent (s.near.afterReset []).controlTx _
      rw [hqueue]
      exact hclear
    · have hnone : ∀ frame ∈ ([] : List DlpControlFrame), IsStale y x frame := by simp
      exact flow_fresh hrest hnone

/-! ### Every run -/

theorem setWidth_le {reason : U32} (h : ¬ 0x0f#32 < reason) :
  reason.setWidth 8 ≤ 15#8
  := by bv_omega

theorem Inv.requestReset (h : s.Inv x y) {reason : U32}
    (hgreets : GreetsFirst s.near (.requestReset reason)) :
  (s.actNear (.requestReset reason)).Inv x y
  := by
  rw [actNear]
  by_cases hreason : 0x0f#32 < reason
  · have hsame : s.near.perform (.requestReset reason) = s.near := by
      rw [DlpManagedEndpoint.perform, DlpManagedEndpoint.requestReset]
      split
      · rfl
      · rfl
    rw [hsame]
    exact h
  · have hlive : s.near.wasLive = true := hgreets.resolve_left hreason
    rw [DlpManagedEndpoint.perform_requestReset (not_down_of_live hlive) hreason]
    obtain ⟨hfailed, hlockstep | hahead | hbehind⟩ := h
    · exact ⟨hfailed, .inr (.inl (hlockstep.requestReset hlive (setWidth_le hreason)))⟩
    · obtain ⟨_, _, _, _, _, -, -, hnear, -⟩ := hahead
      cases (heard_of_live hnear hlive).1
    · exact ⟨hfailed, .inl (hbehind.requestReset hlive (setWidth_le hreason))⟩

theorem Inv.receiveControl (hx : x.Valid) (hy : y.Valid) (h : s.Inv x y) :
  (s.actNear .receiveControl).Inv x y
  := by
  rw [actNear.eq_def]
  dsimp only
  split
  · exact h
  next bytes arriving harriving =>
  obtain ⟨hfailed, hcases⟩ := h
  have hreceived : (s.near.receiveControl bytes).1 = .ok () ∧
      ((s.received bytes arriving).Lockstep x y ∨ (s.received bytes arriving).Ahead x y ∨
        (s.received bytes arriving).swap.Ahead y x) := by
    rcases hcases with hlockstep | hahead | hbehind
    · obtain ⟨hok, hlockstep⟩ := hlockstep.receive hx hy harriving
      exact ⟨hok, .inl hlockstep⟩
    · obtain ⟨hok, hahead⟩ := hahead.receive hx hy harriving
      exact ⟨hok, .inr (.inl hahead)⟩
    · obtain ⟨hok, hlockstep | hbehind⟩ := hbehind.receive_far hx hy harriving
      · exact ⟨hok, .inl hlockstep⟩
      · exact ⟨hok, .inr (.inr hbehind)⟩
  refine ⟨?_, hreceived.2⟩
  rw [hfailed, hreceived.1]
  rfl

/-- What happens at the near end keeps the invariant. -/
theorem Inv.actNear (hx : x.Valid) (hy : y.Valid) (h : s.Inv x y) (action : LocalAction T)
    (hgreets : GreetsFirst s.near action) :
  (s.actNear action).Inv x y
  := by
  cases action with
  | requestReset reason => exact h.requestReset hgreets
  | pollControl => exact h.quiet reached_pollControl carries_pollControl
  | receiveControl => exact h.receiveControl hx hy
  | finishCreditSync =>
    apply h.quiet (fun hreached => (reached_finishCreditSync hreached).1)
    intro frames hcarries
    have hqueue : (s.near.perform .finishCreditSync).controlTx = s.near.controlTx := by
      rw [DlpManagedEndpoint.perform, DlpManagedEndpoint.finishCreditSync]
      split
      · rfl
      split
      · rfl
      · rfl
    rw [hqueue]
    exact hcarries
  | use op =>
    apply h.quiet (fun hreached => (reached_use hreached op.property).1)
    intro frames hcarries
    obtain ⟨endpoint, polls, heq, -⟩ :=
      DlpManagedEndpoint.usesLink_perform s.near op.property
    rw [heq]
    exact hcarries

theorem Inv.step (hx : x.Valid) (hy : y.Valid) (h : s.Inv x y) (action : Action T)
    (hgreets : s.NotGreeting action) :
  (s.step action).Inv x y
  := by
  cases action with
  | near action => exact h.actNear hx hy action hgreets
  | far action => exact (h.swap.actNear hy hx action hgreets).swap

/-- An end that gets the carrier has received nothing. -/
theorem reached_carrierUp (hm : DlpManagedEndpoint.Fresh x.config x.maxBurstFlits m) :
  (m.perform .carrierUp).Reached x y 1#8 (fun _ => false) ∧
    (m.perform .carrierUp).controlTx = [.hello .initial 1#8 0#8]
  := by
  obtain ⟨⟨endpoint, rfl, -⟩, -⟩ := hm.built
  refine ⟨⟨⟨rfl, rfl, rfl, rfl, rfl, rfl, rfl, rfl, rfl, rfl, rfl, rfl, rfl, rfl, rfl,
    rfl, rfl, rfl, rfl, rfl⟩, Signal.closed_none, rfl⟩, rfl⟩

theorem Inv.started {a b : DlpManagedEndpoint T}
    (ha : DlpManagedEndpoint.Fresh x.config x.maxBurstFlits a)
    (hb : DlpManagedEndpoint.Fresh y.config y.maxBurstFlits b) :
  (ControlLink.started a b).Inv x y
  := by
  obtain ⟨hnear, hqueue⟩ := @reached_carrierUp T x y a ha
  obtain ⟨hfar, hqueue'⟩ := @reached_carrierUp T y x b hb
  have hone : IsGeneration 1#8 := by
    unfold IsGeneration
    decide
  have hflow : ∀ {x y : LinkSettings},
      Flow x y 1#8 (fun _ => false) (fun _ => false) [] [.hello .initial 1#8 0#8] := by
    intro x y
    have hnone : ∀ frame ∈ ([] : List DlpControlFrame), IsStale x y frame := nofun
    exact flow_fresh ⟨[], rfl, rfl⟩ hnone
  refine ⟨rfl, .inl ⟨1#8, _, _, hone, hnear, hfar, ?_, ?_⟩⟩
  · rw [ControlLink.started, hqueue]
    exact hflow
  · rw [ControlLink.started, hqueue']
    exact hflow

theorem Carries.eq_nil (h : Carries [] [] frames) :
  frames = []
  := by
  obtain ⟨sent, hsent, rfl⟩ := h
  rw [List.map_eq_nil_iff.mp hsent.symm, List.append_nil]

/-- All that has been sent has been received. -/
theorem Flow.eq_said (h : Flow x y n heard heard' [] []) :
  heard' = Signal.said heard
  := by
  obtain ⟨stale, signals, hcarries, -, -, -, htake⟩ := h
  have hnil := (List.append_eq_nil_iff.mp hcarries.eq_nil).2
  rw [List.map_eq_nil_iff.mp hnil] at htake
  exact htake

theorem state_of_all (h : m.Reached x y n heard) (hall : ∀ k, heard k = true) :
  m.state = .creditSync ∨ m.state = .up
  := by
  have hin := h.in_state
  have hcomplete : Signal.complete heard = true := by simp [Signal.complete, hall]
  rw [DlpManagedEndpoint.InState, if_pos (hall _), if_pos hcomplete] at hin
  exact hin

/-- When nothing is queued or under way, both ends have installed a profile. -/
theorem Inv.of_quiet (h : s.Inv x y) (hquiet : s.Quiet) :
  (s.near.state = .creditSync ∨ s.near.state = .up) ∧
    (s.far.state = .creditSync ∨ s.far.state = .up)
  := by
  obtain ⟨hnearq, hfarq, hsentq, harrq⟩ := hquiet
  obtain ⟨-, hlockstep | hahead | hbehind⟩ := h
  · obtain ⟨n, heard, heard', -, hnear, hfar, hsent, harriving⟩ := hlockstep
    rw [hsentq, hnearq] at hsent
    rw [harrq, hfarq] at harriving
    have hall := Signal.all_heard hsent.eq_said harriving.eq_said
    have hall' := Signal.all_heard harriving.eq_said hsent.eq_said
    exact ⟨state_of_all hnear hall, state_of_all hfar hall'⟩
  · obtain ⟨_, _, _, _, _, -, -, -, -, -, -, hsent, -⟩ := hahead
    rw [hsentq, hnearq] at hsent
    simpa using hsent.eq_nil
  · obtain ⟨_, _, _, _, _, -, -, -, -, -, -, hsent, -⟩ := hbehind
    change Carries s.arriving s.far.controlTx _ at hsent
    rw [harrq, hfarq] at hsent
    simpa using hsent.eq_nil

/-- If no end is reset while it is greeting the other one, no control frame is refused, and
when none is queued or under way both ends have installed a profile. -/
theorem bringUp_completes {a b : DlpManagedEndpoint T}
    (ha : DlpManagedEndpoint.Fresh x.config x.maxBurstFlits a)
    (hb : DlpManagedEndpoint.Fresh y.config y.maxBurstFlits b)
    (actions : List (Action T))
    (hgreets : Machine.Along step NotGreeting (started a b) actions) :
  let s := Machine.run step (started a b) actions
  s.failed = false ∧
    (s.Quiet → (s.near.state = .creditSync ∨ s.near.state = .up) ∧
      (s.far.state = .creditSync ∨ s.far.state = .up))
  := by
  intro s
  have hx : x.Valid := ControlNet.valid_of_fresh ha
  have hy : y.Valid := ControlNet.valid_of_fresh hb
  have hinv : s.Inv x y := by
    refine Machine.invariant_along (P := Inv x y) ?_ (Inv.started ha hb) hgreets
    intro s action h hok
    exact h.step hx hy action hok
  exact ⟨hinv.1, hinv.of_quiet⟩

/-- Each end sends a frame and receives one. -/
def exchange : List (Action T) :=
  [.near .pollControl, .far .pollControl, .near .receiveControl, .far .receiveControl]

/-- Two ends negotiate; then one of them is reset, and they negotiate once more. -/
theorem bringUp_completes_reset :
  let actions : List (Action .silent) := (List.replicate 8 exchange).flatten ++
    [.near (.requestReset 3#32)] ++ (List.replicate 9 exchange).flatten
  ∃ a b : DlpManagedEndpoint .silent,
    DlpManagedEndpoint.Fresh ⟨32#32, .four, 8#8, none, false, 1#32, 32#32, ⟨true⟩⟩ 16#32 a ∧
    DlpManagedEndpoint.Fresh ⟨64#32, .two, 8#8, none, false, 1#32, 32#32, ⟨true⟩⟩ 8#32 b ∧
    let s := Machine.run step (started a b) actions
    s.Quiet ∧ s.near.localGeneration = 2#8 ∧ s.failed = false ∧
      (s.near.state = .creditSync ∨ s.near.state = .up) ∧
      (s.far.state = .creditSync ∨ s.far.state = .up)
  := by
  intro actions
  have hcompletes := @bringUp_completes .silent
    ⟨⟨32#32, .four, 8#8, none, false, 1#32, 32#32, ⟨true⟩⟩, 16#32⟩
    ⟨⟨64#32, .two, 8#8, none, false, 1#32, 32#32, ⟨true⟩⟩, 8#32⟩ _ _
    (.inl ⟨⟨7#64⟩, rfl⟩) (.inl ⟨⟨8#64⟩, rfl⟩) actions (by decide +kernel)
  refine ⟨_, _, .inl ⟨⟨7#64⟩, rfl⟩, .inl ⟨⟨8#64⟩, rfl⟩, ?_, ?_, hcompletes.1, hcompletes.2 ?_⟩
  all_goals decide +kernel

/-- The near end has been greeted and answered, and is reset twice.  The far end knows it with
its first generation, and listens neither to the `RESET` of the second one nor to the
`HELLO` of the third one. -/
theorem bringUp_stuck :
  let actions : List (Action .silent) :=
    [.near .pollControl, .far .pollControl, .far .receiveControl, .far .pollControl,
      .near .receiveControl, .near .receiveControl, .near (.requestReset 0#32),
      .near (.requestReset 0#32), .near .pollControl, .near .pollControl,
      .far .receiveControl, .far .receiveControl]
  ∃ a b : DlpManagedEndpoint .silent,
    DlpManagedEndpoint.Fresh ⟨32#32, .four, 8#8, none, false, 1#32, 32#32, ⟨true⟩⟩ 16#32 a ∧
    DlpManagedEndpoint.Fresh ⟨64#32, .two, 8#8, none, false, 1#32, 32#32, ⟨true⟩⟩ 8#32 b ∧
    let s := Machine.run step (started a b) actions
    s.Quiet ∧ s.near.state = .hello ∧ s.far.state = .hello
  := by
  intro actions
  refine ⟨_, _, .inl ⟨⟨7#64⟩, rfl⟩, .inl ⟨⟨8#64⟩, rfl⟩, ?_⟩
  decide +kernel

/-- It is not enough that an end is never reset while a `RESET` of its own waits.  Here each end is
reset once: the near end while its first `HELLO` is on its way, and the far end after that `RESET`
has taken it to its second generation, of which the near end never hears. -/
example :
  let actions : List (Action .silent) :=
    [.near .pollControl, .near (.requestReset 0#32), .near .pollControl, .near .pollControl,
      .far .pollControl, .near .receiveControl, .near .pollControl, .far .receiveControl,
      .far .receiveControl, .far .receiveControl, .far .receiveControl, .far (.requestReset 0#32),
      .far .pollControl, .near .receiveControl, .far .pollControl, .near .receiveControl]
  ∃ a b : DlpManagedEndpoint .silent,
    DlpManagedEndpoint.Fresh ⟨32#32, .four, 8#8, none, false, 1#32, 32#32, ⟨true⟩⟩ 16#32 a ∧
    DlpManagedEndpoint.Fresh ⟨64#32, .two, 8#8, none, false, 1#32, 32#32, ⟨true⟩⟩ 8#32 b ∧
    let s := Machine.run step (started a b) actions
    s.Quiet ∧ s.near.state = .hello ∧ s.far.state = .hello
  := by
  intro actions
  refine ⟨_, _, .inl ⟨⟨7#64⟩, rfl⟩, .inl ⟨⟨8#64⟩, rfl⟩, ?_⟩
  decide +kernel

end ControlLink

end SmolGnet
