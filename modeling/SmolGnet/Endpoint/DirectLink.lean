import SmolGnet.Endpoint.FlitStall

/-!
# The direct link of two endpoints

A direct link attaches two endpoints to each other.  Pumping it hands the next flit of either to the
other, in turn, until neither has one.  So a pump is a run of the link of flits in which nothing stays in
flight, and a pump that succeeds leaves nothing behind, but for data behind a packet that is larger than
the buffer of its receiver.
-/

namespace SmolGnet

/-- The direct link of two endpoints. -/
structure DirectLink where
  attached : Bool
  deriving DecidableEq, Repr

namespace DirectLink

variable {T : Transport}

/-- A link that is not attached. -/
def new : DirectLink :=
  ⟨false⟩

/-- Attach the endpoints to each other, unless this has been done.  The credit for control flits is
given at once, that for data flits is sent. -/
def attach (link : DirectLink) (a b : LinkedEndpoint T) :
    Except Error Unit × DirectLink × LinkedEndpoint T × LinkedEndpoint T :=
  if link.attached then (.ok (), link, a, b)
  else
    let a := { a with dlp := a.dlp.grantControlTxCredit b.dlp.controlWindowFlits }
    let b := { b with dlp := b.dlp.grantControlTxCredit a.dlp.controlWindowFlits }
    match a.onLinkAttached b.linkLocalAddress with
    | (.error err, a) => (.error err, link, a, b)
    | (.ok _, a) =>
      match b.onLinkAttached a.linkLocalAddress with
      | (.error err, b) => (.error err, link, a, b)
      | (.ok _, b) => (.ok (), { link with attached := true }, a, b)

/-- Hand the next flit of `a` to `b`.  The credit for a control flit comes back once the flit has been
processed. -/
def pass (a b : LinkedEndpoint T) (now : U64) :
    Except Error Bool × LinkedEndpoint T × LinkedEndpoint T :=
  match a.pollTxFlit with
  | (.ok (some flit), a) =>
    match b.receiveFlit flit now with
    | (.error err, b) => (.error err, a, b)
    | (.ok _, b) =>
      if flit.vcid.isControl then
        (.ok true, { a with dlp := a.dlp.grantControlTxCredit 1#32 }, b)
      else (.ok true, a, b)
  | (.ok none, a) => (.ok false, a, b)
  | (.error err, a) => if err = .noCredit then (.ok false, a, b) else (.error err, a, b)

/-- Hand over flits in both directions until neither endpoint has one, where `moved` flits have been
handed over.  A round in which there is a flit hands one over, so that `maxFlits` rounds are enough. -/
def pumpLoop (now : U64) (maxFlits : ℕ) : ℕ → ℕ → LinkedEndpoint T → LinkedEndpoint T →
    Except Error ℕ × LinkedEndpoint T × LinkedEndpoint T
  | 0, _, a, b => (.error .bufferFull, a, b)
  | fuel + 1, moved, a, b =>
    if maxFlits ≤ moved then (.error .bufferFull, a, b)
    else
      match pass a b now with
      | (.error err, a, b) => (.error err, a, b)
      | (.ok first, a, b) =>
        match pass b a now with
        | (.error err, b, a) => (.error err, a, b)
        | (.ok second, b, a) =>
          if first || second then
            pumpLoop now maxFlits fuel (moved + first.toNat + second.toNat) a b
          else (.ok moved, a, b)

/-- Hand over all flits that the endpoints have for each other, but fail at `maxFlits` of them. -/
def pump (link : DirectLink) (a b : LinkedEndpoint T) (now : U64) (maxFlits : ℕ) :
    Except Error ℕ × DirectLink × LinkedEndpoint T × LinkedEndpoint T :=
  match link.attach a b with
  | (.error err, link, a, b) => (.error err, link, a, b)
  | (.ok _, link, a, b) =>
    let (result, a, b) := pumpLoop now maxFlits maxFlits 0 a b
    (result, link, a, b)

/-- It does not matter how many rounds there are, as long as they are enough. -/
theorem pumpLoop_fuel {now : U64} {maxFlits fuel fuel' moved : ℕ} {a b : LinkedEndpoint T}
    (h : maxFlits ≤ fuel + moved) (h' : maxFlits ≤ fuel' + moved) :
  pumpLoop now maxFlits fuel moved a b = pumpLoop now maxFlits fuel' moved a b
  := by
  induction fuel generalizing fuel' moved a b with
  | zero =>
    cases fuel' with
    | zero => rfl
    | succ fuel' => rw [pumpLoop, pumpLoop, if_pos (by omega)]
  | succ fuel ih =>
    cases fuel' with
    | zero => rw [pumpLoop, pumpLoop, if_pos (by omega)]
    | succ fuel' =>
      rw [pumpLoop, pumpLoop]
      congr 1
      rcases pass a b now with ⟨err | first, a, b⟩
      · rfl
      dsimp only
      rcases pass b a now with ⟨err | second, b, a⟩
      · rfl
      dsimp only
      split
      · next hmoved =>
        have hpos : 1 ≤ first.toNat + second.toNat := by
          cases first <;> cases second <;> simp_all
        exact ih (by omega) (by omega)
      · rfl

/-! ### Attaching -/

end DirectLink

namespace LinkedEndpoint

variable {T : Transport} {e : LinkedEndpoint T}

/-- Giving credit succeeds where the link is up. -/
theorem advertiseLinkCredit_isOk (hup : e.dlp.linkUp) (force : Bool) :
  (e.advertiseLinkCredit force).1 = .ok ()
  := by
  rw [advertiseLinkCredit]
  split
  · rfl
  next peer hpeer =>
  dsimp only
  split
  · rfl
  split
  · rfl
  rw [sendCredit]
  have hlen : (GctlMessage.credit e.nextControlTransaction e.dlp.grantableDataCredit).encodedLen
      ≤ SizeClass.ctrl32.bytes := by
    change 8 + (Octets.toBeBytes e.dlp.grantableDataCredit).length ≤ 32
    rw [Octets.length_toBeBytes]
    decide
  obtain ⟨e', hsend⟩ := @sendGctlFrom_isOk T e.useTransaction hup
    e.useTransaction.linkLocalAddress peer _ .ctrl32 rfl rfl hlen
  obtain ⟨packet, -, rfl⟩ := sendGctlFrom_queued (e := e.useTransaction) hup hsend
  rw [hsend]
  dsimp only
  rw [DlpEndpoint.noteDataCreditGranted, if_neg]
  exact BitVec.lt_irrefl _

end LinkedEndpoint

namespace DirectLink

variable {T : Transport}

/-- An endpoint is told of the other one. -/
theorem onLinkAttached_spec {config : EndpointConfig} {e : LinkedEndpoint T} (h : e.Fresh config)
    (peer : GdpAddress) {window : U32} (hwindow : window ≠ 0#32) :
  { e with dlp := e.dlp.grantControlTxCredit window }.onLinkAttached peer
    = (.ok (), (e.linkAttached peer window).2)
  := by
  obtain ⟨_, hdlp, -⟩ := FlitLink.fresh_dlp h
  obtain ⟨-, hnew⟩ := DlpEndpoint.new_eq_ok hdlp
  have hup : e.dlp.setLinkUp true = e.dlp := by
    rw [hnew]
    rfl
  have hok : ({ e with dlp := e.dlp.grantControlTxCredit window }.onLinkAttached peer).1 = .ok () := by
    apply LinkedEndpoint.advertiseLinkCredit_isOk
    change e.dlp.linkUp
    rw [hnew]
  rw [LinkedEndpoint.linkAttached, if_neg hwindow, hup]
  exact Prod.ext hok rfl

/-- Two new endpoints are attached to each other, each with the control window of the other. -/
theorem attach_new {configA configB : EndpointConfig} {a b : LinkedEndpoint T}
    (ha : a.Fresh configA) (hb : b.Fresh configB) :
  new.attach a b = (.ok (), ⟨true⟩, (FlitLink.attached a b).near, (FlitLink.attached a b).far)
  := by
  obtain ⟨_, -, -, -, -, -, hwindowA⟩ := FlitLink.fresh_dlp ha
  obtain ⟨_, -, -, -, -, -, hwindowB⟩ := FlitLink.fresh_dlp hb
  obtain ⟨-, hlocal⟩ := LinkedEndpoint.Moves.settings
    (FlitLink.moves_linkAttached a b.linkLocalAddress hwindowB)
  have hlocal' : (a.linkAttached b.linkLocalAddress b.dlp.controlWindowFlits).2.linkLocalAddress
      = a.linkLocalAddress := hlocal
  rw [attach, if_neg (by simp [new])]
  dsimp only
  rw [onLinkAttached_spec ha _ hwindowB]
  dsimp only
  have hfar := onLinkAttached_spec hb a.linkLocalAddress hwindowA
  rw [hlocal', show (a.dlp.grantControlTxCredit b.dlp.controlWindowFlits).controlWindowFlits
    = a.dlp.controlWindowFlits from rfl, hfar]
  rfl

end DirectLink

namespace FlitLink

variable {T : Transport} {s : FlitLink T}

/-! ### Pumping as a run -/

/-- What happens at the other end. -/
def Action.swap : Action T → Action T
  | .near action => .far action
  | .far action => .near action

theorem step_swap (s : FlitLink T) (action : Action T) :
  s.step action.swap = (s.swap.step action).swap
  := by
  cases action with
  | near action => rfl
  | far action => rfl

theorem run_swap (s : FlitLink T) (as : List (Action T)) :
  Machine.run step s (as.map Action.swap) = (Machine.run step s.swap as).swap
  := by
  induction as generalizing s with
  | nil => rfl
  | cons action as ih =>
    rw [List.map_cons, Machine.run_cons, Machine.run_cons, ih, step_swap]
    rfl

/-- What happens when the near end hands over a flit. -/
def passActions (s : FlitLink T) (now : U64) : List (Action T) :=
  match s.near.pollTxFlit.1 with
  | .ok (some flit) =>
    .near .pollTxFlit :: .far (.receiveFlit now) ::
      if (s.far.receiveFlit flit now).1.isOk && flit.vcid.isControl then
        [.near (.grantControlTxCredit 1#32)]
      else []
  | _ => [.near .pollTxFlit]

/-- What happens when the far end hands over a flit. -/
def passBackActions (s : FlitLink T) (now : U64) : List (Action T) :=
  (s.swap.passActions now).map Action.swap

/-- What happens when flits are handed over in both directions until neither end has one. -/
def pumpActions (now : U64) (maxFlits : ℕ) : ℕ → ℕ → FlitLink T → List (Action T)
  | 0, _, _ => []
  | fuel + 1, moved, s =>
    if maxFlits ≤ moved then []
    else
      let s₁ := Machine.run step s (s.passActions now)
      let s₂ := Machine.run step s₁ (s₁.passBackActions now)
      match (DirectLink.pass s.near s.far now).1, (DirectLink.pass s₁.far s₁.near now).1 with
      | .error _, _ => s.passActions now
      | .ok _, .error _ => s.passActions now ++ s₁.passBackActions now
      | .ok first, .ok second =>
        s.passActions now ++ s₁.passBackActions now ++
          if first || second then
            pumpActions now maxFlits fuel (moved + first.toNat + second.toNat) s₂
          else []

/-- Nothing is in flight. -/
def Empty (s : FlitLink T) : Prop :=
  s.sent = [] ∧ s.arriving = []

/-- The link after a flit of the near end has been handed over. -/
def passed (s : FlitLink T) (now : U64) : FlitLink T :=
  { s with
    near := (DirectLink.pass s.near s.far now).2.1
    far := (DirectLink.pass s.near s.far now).2.2 }

/-- To hand over a flit is to poll for it, and to receive it. -/
theorem run_passActions (h : s.Empty) (now : U64) :
  Machine.run step s (s.passActions now) = s.passed now
  := by
  obtain ⟨near, far, sent, arriving⟩ := s
  obtain ⟨hsent, harriving⟩ := h
  dsimp only at hsent harriving
  subst hsent harriving
  rw [passActions, passed, DirectLink.pass]
  dsimp only
  rcases hpoll : near.pollTxFlit with ⟨err | _ | flit, near'⟩
  · have hpolled : (⟨near, far, [], []⟩ : FlitLink T).pollTxFlit = ⟨near', far, [], []⟩ := by
      rw [FlitLink.pollTxFlit, hpoll]
    dsimp only
    split
    · exact hpolled
    · exact hpolled
  · have hpolled : (⟨near, far, [], []⟩ : FlitLink T).pollTxFlit = ⟨near', far, [], []⟩ := by
      rw [FlitLink.pollTxFlit, hpoll]
      rfl
    exact hpolled
  · have hpolled : (⟨near, far, [], []⟩ : FlitLink T).step (.near .pollTxFlit)
        = ⟨near', far, [flit], []⟩ := by
      change (⟨near, far, [], []⟩ : FlitLink T).pollTxFlit = _
      rw [FlitLink.pollTxFlit, hpoll]
      rfl
    have hreceived : (⟨near', far, [flit], []⟩ : FlitLink T).step (.far (.receiveFlit now))
        = ⟨near', (far.receiveFlit flit now).2, [], []⟩ := rfl
    dsimp only
    rw [Machine.run_cons, Machine.run_cons, hpolled, hreceived]
    rcases far.receiveFlit flit now with ⟨err | _, far'⟩
    · rfl
    · cases hcontrol : flit.vcid.isControl with
      | true => rfl
      | false => rfl

/-- The link after a flit of the far end has been handed over. -/
def passedBack (s : FlitLink T) (now : U64) : FlitLink T :=
  (s.swap.passed now).swap

theorem near_passedBack (s : FlitLink T) (now : U64) :
  (s.passedBack now).near = (DirectLink.pass s.far s.near now).2.2
  := rfl

theorem far_passedBack (s : FlitLink T) (now : U64) :
  (s.passedBack now).far = (DirectLink.pass s.far s.near now).2.1
  := rfl

theorem run_passBackActions (h : s.Empty) (now : U64) :
  Machine.run step s (s.passBackActions now) = s.passedBack now
  := by
  rw [passBackActions, run_swap, run_passActions ⟨h.2, h.1⟩, passedBack]

theorem Empty.passed (h : s.Empty) (now : U64) :
  (s.passed now).Empty
  := h

theorem Empty.passedBack (h : s.Empty) (now : U64) :
  (s.passedBack now).Empty
  := h

/-- To pump is to take the steps of a run. -/
theorem run_pumpActions (h : s.Empty) (now : U64) (maxFlits fuel moved : ℕ) :
  Machine.run step s (pumpActions now maxFlits fuel moved s) = { s with
    near := (DirectLink.pumpLoop now maxFlits fuel moved s.near s.far).2.1
    far := (DirectLink.pumpLoop now maxFlits fuel moved s.near s.far).2.2 }
  := by
  induction fuel generalizing s moved with
  | zero => rfl
  | succ fuel ih =>
    rw [pumpActions, DirectLink.pumpLoop]
    split
    · rfl
    dsimp only
    have hfirst := run_passActions h now
    have hsecond := run_passBackActions (h.passed now) now
    rw [hfirst, hsecond]
    rcases hpass : DirectLink.pass s.near s.far now with ⟨first, a, b⟩
    have hpassed : s.passed now = { s with near := a, far := b } := by rw [passed, hpass]
    rcases hback : DirectLink.pass b a now with ⟨second, b', a'⟩
    have hpassedBack : (s.passed now).passedBack now = { s with near := a', far := b' } := by
      rw [hpassed, passedBack, passed, show (FlitLink.swap { s with near := a, far := b }).near = b from rfl,
        show (FlitLink.swap { s with near := a, far := b }).far = a from rfl, hback]
      rfl
    have hback' : DirectLink.pass (s.passed now).far (s.passed now).near now = (second, b', a') := by
      rw [hpassed]
      exact hback
    rw [hback']
    cases first with
    | error err =>
      dsimp only
      rw [hfirst, hpassed]
    | ok first =>
      dsimp only
      rw [hback]
      cases second with
      | error err =>
        dsimp only
        rw [Machine.run_append, hfirst, hsecond, hpassedBack]
      | ok second =>
        dsimp only
        rw [Machine.run_append, Machine.run_append, hfirst, hsecond]
        split
        · rw [ih ((h.passed now).passedBack now), hpassedBack]
        · rw [hpassedBack]
          rfl

/-! ### What a pump leaves behind -/

variable {context : Option U64}

/-- Both ends have credit for control flits. -/
def HasControl (s : FlitLink T) : Prop :=
  s.near.dlp.controlTxCredit ≠ 0#32 ∧ s.far.dlp.controlTxCredit ≠ 0#32

instance decidableHasControl (s : FlitLink T) : Decidable s.HasControl :=
  inferInstanceAs (Decidable (_ ∧ _))

theorem Steady.run (h : Steady context s) {as : List (Action T)} (has : ∀ action ∈ as, action.NoCredit)
    (hreadable : ∀ bs, bs <+: as → Readable context (Machine.run step s bs)) :
  Steady context (Machine.run step s as)
  := by
  apply Machine.invariant_along steady_step h
  exact (Machine.along_of_forall _ has).and (Machine.along_of_forall_isPrefix hreadable)

theorem saturatingAdd_one_ne (count : U32) :
  saturatingAdd count 1#32 ≠ 0#32
  := by
  rw [saturatingAdd]
  split
  · decide
  · next hge =>
    intro hzero
    rw [hzero] at hge
    bv_omega

theorem noCredit_passActions (s : FlitLink T) (now : U64) :
  ∀ action ∈ s.passActions now, action.NoCredit
  := by
  intro action haction
  rw [passActions] at haction
  split at haction
  · simp only [List.mem_cons] at haction
    rcases haction with rfl | rfl | haction
    · trivial
    · trivial
    · split at haction
      · rw [List.mem_singleton] at haction
        rw [haction]
        trivial
      · cases haction
  · rw [List.mem_singleton] at haction
    rw [haction]
    trivial

theorem noCredit_passBackActions (s : FlitLink T) (now : U64) :
  ∀ action ∈ s.passBackActions now, action.NoCredit
  := by
  rw [passBackActions, List.forall_mem_map]
  intro action haction
  have hnoCredit := s.swap.noCredit_passActions now action haction
  cases action with
  | near action => exact hnoCredit
  | far action => exact hnoCredit

theorem noCredit_pumpActions (now : U64) (maxFlits fuel moved : ℕ) (s : FlitLink T) :
  ∀ action ∈ pumpActions now maxFlits fuel moved s, action.NoCredit
  := by
  induction fuel generalizing s moved with
  | zero => simp [pumpActions]
  | succ fuel ih =>
    rw [pumpActions]
    split
    · simp
    dsimp only
    split
    · exact s.noCredit_passActions now
    · rw [List.forall_mem_append]
      exact ⟨s.noCredit_passActions now, noCredit_passBackActions _ now⟩
    · rw [List.forall_mem_append, List.forall_mem_append]
      refine ⟨⟨s.noCredit_passActions now, noCredit_passBackActions _ now⟩, ?_⟩
      split
      · exact ih _ _
      · simp

/-- A flit of the near end is handed over: both ends keep credit for control flits, and if there was
no flit, then the near end is idle. -/
theorem Steady.passed (h : Steady context s) (hempty : s.Empty) (hcontrol : s.HasControl) (now : U64)
    (hreadable : ∀ bs, bs <+: s.passActions now → Readable context (Machine.run step s bs))
    {moved : Bool} (hok : (DirectLink.pass s.near s.far now).1 = .ok moved) :
  Steady context (s.passed now) ∧ (s.passed now).HasControl ∧
    (moved = false → (s.passed now).near.Idle ∧ (s.passed now).far = s.far)
  := by
  have hsteady : Steady context (Machine.run step s (s.passActions now)) :=
    h.run (s.noCredit_passActions now) hreadable
  rw [run_passActions hempty] at hsteady
  refine ⟨hsteady, ?_⟩
  have hidle := h.inv.idle_pollTxFlit
  have hkept := h.inv.controlTxCredit_pollTxFlit
  rw [FlitLink.passed]
  rw [DirectLink.pass] at hok ⊢
  rcases hpoll : s.near.pollTxFlit with ⟨err | _ | flit, near'⟩
  · rw [hpoll] at hok hidle hkept
    dsimp only at hok hidle hkept ⊢
    split at hok
    · next herr =>
      rw [if_pos herr]
      refine ⟨⟨?_, hcontrol.2⟩, fun _ => ⟨hidle (by simp) hcontrol.1, rfl⟩⟩
      rw [hkept (by simp)]
      exact hcontrol.1
    · cases hok
  · rw [hpoll] at hidle hkept
    dsimp only at hidle hkept ⊢
    refine ⟨⟨?_, hcontrol.2⟩, fun _ => ⟨hidle (by simp) hcontrol.1, rfl⟩⟩
    rw [hkept (by simp)]
    exact hcontrol.1
  · have hpolled : s.pollTxFlit = { s with near := near', sent := [flit] } := by
      rw [FlitLink.pollTxFlit, hpoll, hempty.1]
      rfl
    have hsame := (h.inv.pollTxFlit.swap.receiveFlit_same now).2
    rw [hpolled] at hsame
    have hfar : (s.far.receiveFlit flit now).2.dlp.controlTxCredit = s.far.dlp.controlTxCredit := hsame
    rw [hpoll] at hok hkept
    dsimp only at hok hkept ⊢
    generalize s.far.receiveFlit flit now = received at hok hfar ⊢
    obtain ⟨err | _, far'⟩ := received
    · cases hok
    · dsimp only at hok hfar ⊢
      split at hok
      · next hflit =>
        cases hok
        rw [if_pos hflit]
        exact ⟨⟨saturatingAdd_one_ne _, hfar ▸ hcontrol.2⟩, by simp⟩
      · next hflit =>
        cases hok
        rw [if_neg hflit]
        refine ⟨⟨?_, hfar ▸ hcontrol.2⟩, by simp⟩
        rw [hkept (by
          rintro flit' ⟨⟩
          rw [Vcid.traffic, if_neg hflit])]
        exact hcontrol.1

/-- A flit of the far end is handed over. -/
theorem Steady.passedBack (h : Steady context s) (hempty : s.Empty) (hcontrol : s.HasControl)
    (now : U64)
    (hreadable : ∀ bs, bs <+: s.passBackActions now → Readable context (Machine.run step s bs))
    {moved : Bool} (hok : (DirectLink.pass s.far s.near now).1 = .ok moved) :
  Steady context (s.passedBack now) ∧ (s.passedBack now).HasControl ∧
    (moved = false → (s.passedBack now).far.Idle ∧ (s.passedBack now).near = s.near)
  := by
  have hreadable' : ∀ bs, bs <+: s.swap.passActions now →
      Readable context (Machine.run step s.swap bs) := by
    intro bs hbs
    have hmapped := hreadable (bs.map Action.swap) (hbs.map Action.swap)
    rw [run_swap] at hmapped
    exact hmapped.swap
  obtain ⟨hsteady, hcontrol', hidle⟩ :=
    h.swap.passed ⟨hempty.2, hempty.1⟩ ⟨hcontrol.2, hcontrol.1⟩ now hreadable' hok
  exact ⟨hsteady.swap, ⟨hcontrol'.2, hcontrol'.1⟩, hidle⟩

/-- When flits have been handed over until neither end had one, both ends are idle. -/
theorem Steady.pumped {moved moved' : ℕ} (h : Steady context s) (hempty : s.Empty)
    (hcontrol : s.HasControl) (now : U64) (maxFlits fuel : ℕ)
    (hreadable : ∀ bs, bs <+: pumpActions now maxFlits fuel moved s →
      Readable context (Machine.run step s bs))
    (hok : (DirectLink.pumpLoop now maxFlits fuel moved s.near s.far).1 = .ok moved') :
  let s' := Machine.run step s (pumpActions now maxFlits fuel moved s)
  moved ≤ moved' ∧ moved' < maxFlits ∧ Steady context s' ∧ s'.HasControl ∧ s'.near.Idle ∧ s'.far.Idle
  := by
  induction fuel generalizing s moved with
  | zero => cases hok
  | succ fuel ih =>
    rw [pumpActions] at hreadable ⊢
    rw [DirectLink.pumpLoop] at hok
    split at hok
    · cases hok
    next hlt =>
    rw [if_neg hlt] at hreadable ⊢
    dsimp only at hreadable ⊢
    have hfirst := run_passActions hempty now
    have hsecond := run_passBackActions (hempty.passed now) now
    rw [hfirst, hsecond] at hreadable ⊢
    rcases hpass : DirectLink.pass s.near s.far now with ⟨err | first, a, b⟩
    · rw [hpass] at hok
      cases hok
    have hpassed : (s.passed now).near = a ∧ (s.passed now).far = b := by
      rw [FlitLink.passed, hpass]
      exact ⟨rfl, rfl⟩
    rw [hpass] at hok hreadable
    rw [hpassed.1, hpassed.2] at hreadable ⊢
    dsimp only at hok
    rcases hback : DirectLink.pass b a now with ⟨err | second, b', a'⟩
    · rw [hback] at hok
      cases hok
    have hpassedBack : ((s.passed now).passedBack now).near = a' ∧
        ((s.passed now).passedBack now).far = b' := by
      rw [near_passedBack, far_passedBack, hpassed.1, hpassed.2, hback]
      exact ⟨rfl, rfl⟩
    rw [hback] at hok hreadable
    dsimp only at hok hreadable ⊢
    have hrun : ∀ bs, Machine.run step s (s.passActions now ++ (s.passed now).passBackActions now ++ bs)
        = Machine.run step ((s.passed now).passedBack now) bs := by
      intro bs
      rw [Machine.run_append, Machine.run_append, hfirst, hsecond]
    obtain ⟨hsteady₁, hcontrol₁, hidle₁⟩ := h.passed hempty hcontrol now (by
      intro bs hbs
      rw [List.append_assoc] at hreadable
      exact hreadable bs (hbs.trans (List.prefix_append _ _)))
      (congrArg Prod.fst hpass)
    obtain ⟨hsteady₂, hcontrol₂, hidle₂⟩ := hsteady₁.passedBack (hempty.passed now) hcontrol₁ now (by
      intro bs hbs
      have hread := hreadable (s.passActions now ++ bs) (List.IsPrefix.trans
        ((List.prefix_append_right_inj _).mpr hbs) (List.prefix_append _ _))
      rwa [Machine.run_append, hfirst] at hread)
      (by rw [hpassed.1, hpassed.2, hback])
    rw [hrun]
    split at hok
    · next hmoved =>
      rw [if_pos hmoved] at hreadable ⊢
      have hnext := ih hsteady₂ ((hempty.passed now).passedBack now) hcontrol₂ (by
        intro bs hbs
        have hread := hreadable _ ((List.prefix_append_right_inj _).mpr hbs)
        rwa [hrun] at hread) (by rw [hpassedBack.1, hpassedBack.2]; exact hok)
      refine ⟨Nat.le_trans ?_ hnext.1, hnext.2⟩
      omega
    · next hmoved =>
      rw [if_neg hmoved]
      cases hok
      rw [Bool.or_eq_true, not_or, Bool.not_eq_true, Bool.not_eq_true] at hmoved
      obtain ⟨rfl, rfl⟩ := hmoved
      refine ⟨Nat.le_refl _, Nat.lt_of_not_le hlt, hsteady₂, hcontrol₂, ?_, (hidle₂ rfl).1⟩
      rw [Machine.run_nil, (hidle₂ rfl).2]
      exact (hidle₁ rfl).1

end FlitLink

namespace DirectLink

variable {T : Transport}

/-- What a pump of a direct link leaves behind: two new endpoints with the same channels and the same
wire format are attached to each other, and in every state of every run from there in which the
applications send no `CREDIT` and every control message of the link is read as it was written, where
nothing is in flight and both ends have credit for control flits, a pump that succeeds is a run of the
link that has handed over fewer flits than it may.  After it nothing is in flight, both ends still have
credit for control flits, no control flit waits, and a data flit waits exactly if the whole buffer of the
other end is taken up by the first flits of a packet that is larger than it. -/
theorem pump_drains {configA configB : EndpointConfig} {a b : LinkedEndpoint T}
    (ha : a.Fresh configA) (hb : b.Fresh configB) (hmode : configA.vcMode = configB.vcMode)
    (hwire : configA.gdpWire = configB.gdpWire) (as : List (FlitLink.Action T))
    (has : ∀ action ∈ as, action.NoCredit) {context : Option U64} (now : U64) (maxFlits : ℕ)
    (hempty : (Machine.run FlitLink.step (FlitLink.attached a b) as).Empty)
    (hcontrol : (Machine.run FlitLink.step (FlitLink.attached a b) as).HasControl)
    (hreadable : ∀ bs, bs <+: as ++ FlitLink.pumpActions now maxFlits maxFlits 0
        (Machine.run FlitLink.step (FlitLink.attached a b) as) →
      FlitLink.Readable context (Machine.run FlitLink.step (FlitLink.attached a b) bs))
    {moved : ℕ} {link : DirectLink} {a' b' : LinkedEndpoint T}
    (hpump : pump ⟨true⟩ (Machine.run FlitLink.step (FlitLink.attached a b) as).near
      (Machine.run FlitLink.step (FlitLink.attached a b) as).far now maxFlits
        = (.ok moved, link, a', b')) :
  let s := Machine.run FlitLink.step (FlitLink.attached a b) as
  let s' := Machine.run FlitLink.step s (FlitLink.pumpActions now maxFlits maxFlits 0 s)
  new.attach a b = (.ok (), ⟨true⟩, (FlitLink.attached a b).near, (FlitLink.attached a b).far) ∧
    s' = ⟨a', b', [], []⟩ ∧ moved < maxFlits ∧ s'.HasControl ∧
    a'.dlp.queuedControlFlits = 0 ∧ b'.dlp.queuedControlFlits = 0 ∧
    (a'.dlp.queuedDataFlits ≠ 0 ↔ b'.dlp.Overfull) ∧ (b'.dlp.queuedDataFlits ≠ 0 ↔ a'.dlp.Overfull)
  := by
  intro s s'
  have hsteady : FlitLink.Steady context s := by
    apply FlitLink.steady_run ha hb hmode hwire has
    intro bs hbs
    exact hreadable bs (hbs.trans (List.prefix_append _ _))
  have hloop : pumpLoop now maxFlits maxFlits 0 s.near s.far = (.ok moved, a', b') := by
    rw [pump, attach, if_pos rfl] at hpump
    dsimp only at hpump
    rw [Prod.mk.injEq, Prod.mk.injEq, Prod.mk.injEq] at hpump
    obtain ⟨hresult, -, ha', hb'⟩ := hpump
    exact Prod.ext hresult (Prod.ext ha' hb')
  have hstate : s' = ⟨a', b', [], []⟩ := by
    have hrun := FlitLink.run_pumpActions hempty now maxFlits maxFlits 0
    rw [hloop] at hrun
    refine hrun.trans ?_
    change FlitLink.mk a' b' s.sent s.arriving = _
    rw [hempty.1, hempty.2]
  obtain ⟨-, hlt, hsteady', hcontrol', hidle, hidle'⟩ := @FlitLink.Steady.pumped _ _ _ 0 _
    hsteady hempty hcontrol now maxFlits maxFlits (by
      intro bs hbs
      have hread := hreadable _ ((List.prefix_append_right_inj _).mpr hbs)
      rwa [Machine.run_append] at hread) (congrArg Prod.fst hloop)
  refine ⟨attach_new ha hb, hstate, hlt, hcontrol', ?_⟩
  change FlitLink.Steady context s' at hsteady'
  change s'.near.Idle at hidle
  change s'.far.Idle at hidle'
  have hwaits := hsteady'.waits_iff (by rw [hstate]) (by rw [hstate]) hidle hidle'
  have hwaits' := hsteady'.swap.waits_iff (by rw [hstate]; rfl) (by rw [hstate]; rfl) hidle' hidle
  rw [hstate] at hidle hidle' hwaits hwaits'
  exact ⟨hidle.1, hidle'.1, hwaits, hwaits'⟩

/-- The far end has a packet of five flits, and the near end has a buffer of four. -/
theorem pump_drains_five :
  let x : GtsSend := ⟨⟨7#64⟩, .empty, []⟩
  let as : List (FlitLink.Action .direct) := [.far (.app x)]
  ∃ a b : LinkedEndpoint .direct,
    a.Fresh ⟨4#32, .four, 8#8, none, false, 4#32, 32#32, ⟨true⟩⟩ ∧
    b.Fresh ⟨4#32, .four, 8#8, none, false, 4#32, 32#32, ⟨true⟩⟩ ∧
    let s := Machine.run FlitLink.step (FlitLink.attached a b) as
    (pump ⟨true⟩ s.near s.far 0#64 60).1 = .ok 56 ∧
    (pump ⟨true⟩ s.near s.far 0#64 60).2.2.2.dlp.queuedDataFlits = 1 ∧
    (pump ⟨true⟩ s.near s.far 0#64 60).2.2.1.dlp.Overfull
  := by
  intro x as
  have has : ∀ action ∈ as, action.NoCredit := by
    simp [as, FlitLink.Action.NoCredit, FlitLink.LocalAction.NoCredit]
  have hok : ∀ {result : Except Error ℕ} {n : ℕ}, result.toOption = some n → result = .ok n := by
    intro result n hsome
    cases result with
    | error err => cases hsome
    | ok n' =>
      cases hsome
      rfl
  let config : EndpointConfig := ⟨4#32, .four, 8#8, none, false, 4#32, 32#32, ⟨true⟩⟩
  have ha : @LinkedEndpoint.Fresh .direct config _ := .inl ⟨⟨7#64⟩, rfl⟩
  have hb : @LinkedEndpoint.Fresh .direct config _ := .inl ⟨⟨9#64⟩, rfl⟩
  refine ⟨_, _, ha, hb, ?_⟩
  intro s
  have hmoved : (pump ⟨true⟩ s.near s.far 0#64 60).1 = .ok 56 := hok (by decide +kernel)
  have hleft : (pump ⟨true⟩ s.near s.far 0#64 60).2.2.2.dlp.queuedDataFlits = 1 := by decide +kernel
  rcases hpump : pump ⟨true⟩ s.near s.far 0#64 60 with ⟨result, link, a', b'⟩
  rw [hpump] at hmoved hleft
  dsimp only at hmoved hleft
  subst hmoved
  refine ⟨rfl, hleft, ?_⟩
  apply (@pump_drains .direct config config _ _ ha hb rfl rfl as has none 0#64 60 ⟨rfl, rfl⟩
    (by decide +kernel) _ 56 link a' b' hpump).2.2.2.2.2.2.2.mp
  · rw [hleft]
    simp
  · intro bs hbs
    apply FlitLink.readable_run ha hb rfl rfl rfl rfl
    intro action haction
    rcases List.mem_append.mp (hbs.subset haction) with haction | haction
    · exact has action haction
    · exact FlitLink.noCredit_pumpActions _ _ _ _ _ action haction

end DirectLink

end SmolGnet
