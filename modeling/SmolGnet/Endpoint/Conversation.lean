import SmolGnet.Endpoint.Agreement
import SmolGnet.Endpoint.Exchange

/-!
# Two applications talk

Two endpoints are joined by one tunnel, and the network between them loses packets.  Those that it does not
lose arrive in order, except that a packet that carries a message of a reliable stream, or acknowledges
some, may also arrive late, and again.  The applications open, use, close and reset streams as they like.

What an application takes from a stream is what the other one has given to it, in order: from the first
message on if the stream is reliable, and otherwise with gaps.
-/

namespace SmolGnet

/-- The packet may arrive late or again: it carries a message of a reliable stream, or acknowledges
some. -/
def GtsPacket.MayRepeat : GtsPacket → Bool
  | .data .. => true
  | .ack .. => true
  | _ => false

namespace Endpoint

/-! ### Asking for the tunnel -/

/-- What an endpoint that asks for a tunnel sends, if it can. -/
theorem outbox_connect (e : Endpoint) (remote : GdpAddress) (css : ServiceSelector)
    (profile : StreamProfile) :
  (e.connect remote css profile).2.linkUp = e.linkUp ∧
    ((e.connect remote css profile).2.outbox = e.outbox ∨
      ∃ sizeClass, (e.connect remote css profile).2.outbox = e.outbox ++ [(remote, sizeClass,
        .connect e.nextTunnel e.nextReset profile (e.localGtsCredit profile true) css)])
  := by
  rw [connect]
  split
  · exact ⟨rfl, .inl rfl⟩
  dsimp only [allocTunnel]
  split
  · exact ⟨rfl, .inl rfl⟩
  next t ht =>
  obtain ⟨hlink, -, hsent⟩ := outbox_sendGts
    { e with
      nextTunnel := nextId e.nextTunnel
      nextReset := nextId e.nextReset
      tunnels := e.tunnels.insert e.nextTunnel ⟨remote, t⟩ }
    remote (.connect e.nextTunnel e.nextReset profile (e.localGtsCredit profile true) css) none
  split
  · next heq =>
    rw [← show _ = _ from congrArg Prod.snd heq]
    exact ⟨hlink, hsent⟩
  · next heq =>
    rw [← show _ = _ from congrArg Prod.snd heq]
    exact ⟨hlink, hsent⟩

/-- The end `true` asks for the tunnel. -/
theorem Inv.asks {h : Bool → U32} {n : Bool → ℕ} {p : Pair} (hinv : Inv h n p)
    (hempty : (p true).tunnels = ∅) (remote : GdpAddress) (css : ServiceSelector)
    (profile : StreamProfile) :
  ∃ n', Inv h n' (Function.update p true ((p true).connect remote css profile).2)
  := by
  have hnone : ∀ k : U32, (p true).tunnels[k]? = none := by
    intro k
    rw [hempty, Std.ExtTreeMap.getElem?_empty]
  cases hvalid : profile.validate with
  | error err =>
    use n
    rw [Endpoint.connect, hvalid, Function.update_eq_self]
    apply hinv
  | ok profile' =>
    rw [StreamProfile.validate_eq_ok hvalid] at hvalid
    obtain ⟨t, ht, htunnels⟩ := (p true).tunnels_connect_of_validate remote css hvalid
    obtain ⟨hlink, hout⟩ := (p true).outbox_connect remote css profile
    obtain ⟨hn, hnext⟩ := (hinv.ends true).empty (hnone _)
    rw [hnext] at ht htunnels hout
    obtain ⟨s, hs, ht⟩ := bind_eq_ok.mp ht
    obtain ⟨hprofile, hopened⟩ := GtsStream.fields_of_new hs
    cases ht
    have hadds := addsStream_new (hnone (h true)) htunnels rfl
    rw [hprofile] at hadds
    have hown : Own true 0#8 := by decide
    have hnew : ∀ profile', ¬ (p true).HasStream (h true) 0#8 profile' := by
      rintro profile' ⟨r, -, hr, -⟩
      rw [hnone] at hr
      cases hr
    have hend := (hinv.ends true).insert (m := 0) htunnels
      (tunnelInv_new rfl rfl (by simp) (by simp) rfl (iff_of_true hopened hown)) hlink
    obtain hout | ⟨sizeClass, hout⟩ := hout
    · refine ⟨_, hinv.opens hown hvalid hnew hadds hend (.inl ?_) ?_⟩
      · rw [Endpoint.opening, hout]
        rfl
      · rw [hout]
        apply hinv.addressed true
    · refine ⟨_, hinv.opens hown hvalid hnew hadds hend (.inr ?_) ?_⟩
      · rw [Endpoint.opening, hout, List.filterMap_append]
        rfl
      · rw [hout, List.forall_mem_append, List.forall_mem_singleton]
        exact ⟨hinv.addressed true, rfl, rfl⟩

/-! ### The applications -/

/-- An endpoint with all packets that it has ever sent, and the messages that its application has given to
the streams and taken from them. -/
structure Application where
  endpoint : Endpoint
  log : List GtsPacket
  sent : U32 → U8 → List (Bytes × Bool)
  taken : U32 → U8 → List Bytes

namespace Application

/-- Nothing has happened yet. -/
def new (endpoint : Endpoint) : Application where
  endpoint := endpoint
  log := []
  sent := fun _ _ => []
  taken := fun _ _ => []

/-- Something happens at the endpoint. -/
def act (x : Application) (a : Action) : Application :=
  let endpoint := x.endpoint.step a
  { endpoint
    log := x.log ++ (endpoint.outbox.drop x.endpoint.outbox.length).map (fun y => y.2.2)
    sent := fun h id => x.sent h id ++ x.endpoint.sends h id a
    taken := fun h id => x.taken h id ++ Inbox.returns x.endpoint h id a }

/-- The network has taken packets out of the outbox. -/
def withOutbox (x : Application) (outbox : List (GdpAddress × SizeClass × GtsPacket)) : Application :=
  { x with endpoint := { x.endpoint with outbox } }

/-- A tunnel is asked for by the end `true` only, and only once. -/
def allows (d : Bool) (x : Application) : Action → Bool
  | .connect .. => d && x.endpoint.tunnels.isEmpty
  | a => a.IsCall

end Application

/-- Two applications: the one whose endpoint asks for the tunnel, and the other one. -/
abbrev Conversation := Bool → Application

namespace Conversation

/-- What happens: an application calls its endpoint, the next packet that an end has sent arrives, a packet
is lost, or a packet that has been sent before arrives late or again. -/
inductive Act where
  | call (d : Bool) (a : Action)
  | deliver (d : Bool) (src : GdpAddress)
  | lose (d : Bool) (i : ℕ)
  | repeats (d : Bool) (i : ℕ) (src : GdpAddress) (sizeClass : SizeClass)

/-- The applications after an action. -/
def step (c : Conversation) : Act → Conversation
  | .call d a => if (c d).allows d a then Function.update c d ((c d).act a) else c
  | .deliver d src =>
    match (c d).endpoint.outbox with
    | [] => c
    | (_, sizeClass, packet) :: rest =>
      Function.update (Function.update c d ((c d).withOutbox rest)) (!d)
        ((c !d).act (.receive src sizeClass packet))
  | .lose d i => Function.update c d ((c d).withOutbox ((c d).endpoint.outbox.eraseIdx i))
  | .repeats d i src sizeClass =>
    match (c d).log[i]? with
    | none => c
    | some packet =>
      if packet.MayRepeat then Function.update c (!d) ((c !d).act (.receive src sizeClass packet)) else c

/-- Two endpoints, before anything has happened. -/
def start (e : Bool → Endpoint) : Conversation :=
  fun d => .new (e d)

/-! ### The directions of a stream -/

/-- The direction of a stream from the end `d` to the other end. -/
def flow (h : Bool → U32) (c : Conversation) (d : Bool) (id : U8) : StreamFlow where
  sender := (c d).endpoint.streamAt (h d) id
  receiver := (c !d).endpoint.streamAt (h !d) id
  packets := (c d).log.filterMap (GtsPacket.messageOn id)
  datagrams := (c d).endpoint.outbox.filterMap (fun x => x.2.2.datagramOn id)
  acks := (c !d).log.filterMap (GtsPacket.ackOn id)
  sent := (c d).sent (h d) id
  taken := (c !d).taken (h !d) id

/-- What holds of two applications whose endpoints are joined by a tunnel with the numbers `h`. -/
structure Inv (h : Bool → U32) (c : Conversation) : Prop where
  ends : ∃ n, Endpoint.Inv h n (fun d => (c d).endpoint)
  numbered : ∀ d, (c d).endpoint.StreamsNumbered (h d)
  logged : ∀ d, ∀ x ∈ (c d).endpoint.outbox, x.2.2 ∈ (c d).log
  flows : ∀ d id, (flow h c d id).Inv

variable {h : Bool → U32} {c : Conversation}

/-- The applications after something has happened at the end `d`, while the network took packets of the
other end. -/
def acted (c : Conversation) (d : Bool) (a : Action)
    (outbox : List (GdpAddress × SizeClass × GtsPacket)) : Conversation :=
  Function.update (Function.update c (!d) ((c !d).withOutbox outbox)) d ((c d).act a)

/-- What is done at the end `d` when the packet `input` of the other end arrives, or none. -/
def DoesAt (h : Bool → U32) (c : Conversation) (d : Bool) (a : Action) (input : Option GtsPacket) :
    Prop :=
  Does (c d).endpoint ((c d).endpoint.step a) (h d) input (fun id => (c d).endpoint.sends (h d) id a)
    (fun id => Inbox.returns (c d).endpoint (h d) id a)

section Acted

variable {d : Bool} {a : Action} {input : Option GtsPacket}
  {outbox : List (GdpAddress × SizeClass × GtsPacket)}

theorem acted_self (c : Conversation) (d : Bool) (a : Action)
    (outbox : List (GdpAddress × SizeClass × GtsPacket)) :
  c.acted d a outbox d = (c d).act a
  := by rw [acted, Function.update_self]

theorem acted_not (c : Conversation) (d : Bool) (a : Action)
    (outbox : List (GdpAddress × SizeClass × GtsPacket)) :
  c.acted d a outbox (!d) = (c !d).withOutbox outbox
  := by rw [acted, Function.update_of_ne (Bool.not_ne_self d), Function.update_self]

/-- The network has taken no packet. -/
theorem acted_outbox (c : Conversation) (d : Bool) (a : Action) :
  c.acted d a (c !d).endpoint.outbox = Function.update c d ((c d).act a)
  := by
  have hsame : Function.update c (!d) ((c !d).withOutbox (c !d).endpoint.outbox) = c :=
    Function.update_eq_self (!d) c
  rw [acted, hsame]

/-- What has been sent is in the log. -/
theorem log_act {x : Application} {out : List (GdpAddress × SizeClass × GtsPacket)}
    (hout : (x.endpoint.step a).outbox = x.endpoint.outbox ++ out) :
  (x.act a).log = x.log ++ out.map (fun y => y.2.2)
  := by rw [Application.act, hout, List.drop_left]

/-- Something happens at the end `d`, and every stream goes on in both directions. -/
theorem flows_acted (hflows : ∀ d id, (flow h c d id).Inv) (hdoes : DoesAt h c d a input)
    (hlogged : ∀ p ∈ input, p ∈ (c !d).log)
    (houtbox : ∀ id, (c !d).endpoint.outbox.filterMap (fun x => x.2.2.datagramOn id)
      = (input.bind (GtsPacket.datagramOn id)).toList ++ outbox.filterMap (fun x => x.2.2.datagramOn id))
    (k : Bool) (id : U8) :
  (flow h (c.acted d a outbox) k id).Inv
  := by
  obtain ⟨out, hout, hmoved⟩ := hdoes
  have hlog := log_act hout
  have hself := c.acted_self d a outbox
  have hother := c.acted_not d a outbox
  generalize c.acted d a outbox = c' at hself hother ⊢
  -- A packet that arrives is one that the other end has sent.
  have hfrom : ∀ {β : Type} (f : GtsPacket → Option β),
      ∀ m ∈ input.bind f, m ∈ (c !d).log.filterMap f := by
    intro β f m hm
    obtain ⟨p, hp, hpm⟩ := Option.bind_eq_some_iff.mp hm
    apply List.mem_filterMap.mpr ⟨p, hlogged p hp, hpm⟩
  obtain rfl | rfl := Bool.eq_or_eq_not k d
  · have hsends := (hflows k id).sends (hmoved id).sends (hfrom (GtsPacket.ackOn id))
    have heq : flow h c' k id = { flow h c k id with
        sender := ((c k).endpoint.step a).streamAt (h k) id
        packets := (flow h c k id).packets
          ++ (out.map (fun x => x.2.2)).filterMap (GtsPacket.messageOn id)
        datagrams := (flow h c k id).datagrams
          ++ (out.map (fun x => x.2.2)).filterMap (GtsPacket.datagramOn id)
        sent := (flow h c k id).sent ++ (c k).endpoint.sends (h k) id a } := by
      rw [flow, hself, hother, hlog, List.filterMap_append]
      simp only [flow, Application.act, hout, List.filterMap_append, List.filterMap_map]
      rfl
    rw [heq]
    apply hsends
  · have htakes : GtsStream.Takes (flow h c (!d) id).receiver
        (((c d).endpoint.step a).streamAt (h d) id)
        (input.bind (GtsPacket.messageOn id)) (input.bind (GtsPacket.datagramOn id))
        ((out.map (fun x => x.2.2)).filterMap (GtsPacket.ackOn id))
        (Inbox.returns (c d).endpoint (h d) id a) := by
      rw [flow, Bool.not_not]
      apply (hmoved id).takes
    have htaken := (hflows (!d) id).takes htakes (hfrom (GtsPacket.messageOn id)) (houtbox id)
    have heq : flow h c' (!d) id = { flow h c (!d) id with
        receiver := ((c d).endpoint.step a).streamAt (h d) id
        datagrams := outbox.filterMap (fun x => x.2.2.datagramOn id)
        acks := (flow h c (!d) id).acks
          ++ (out.map (fun x => x.2.2)).filterMap (GtsPacket.ackOn id)
        taken := (flow h c (!d) id).taken ++ Inbox.returns (c d).endpoint (h d) id a } := by
      rw [flow, hother, Bool.not_not, hself, hlog, List.filterMap_append, flow, Bool.not_not]
      rfl
    rw [heq]
    apply htaken

/-- Streams keep their numbers. -/
theorem numbered_of_does {e e' : Endpoint} {k : U32} {sent : U8 → List (Bytes × Bool)}
    {taken : U8 → List Bytes} (hdoes : Does e e' k input sent taken)
    (hnumbered : e.StreamsNumbered k) :
  e'.StreamsNumbered k
  := by
  obtain ⟨out, -, hmoved⟩ := hdoes
  intro id s' hs'
  have hgrows := (hmoved id).grows
  rw [hs'] at hgrows
  generalize hx : e.streamAt k id = x at hgrows
  cases hgrows with
  | opens hid => exact hid
  | goesOn hid => rw [hid, hnumbered id _ hx]

theorem endpoints_update (c : Conversation) (d : Bool) (x : Application) :
  (fun k => (Function.update c d x k).endpoint) = Function.update (fun k => (c k).endpoint) d x.endpoint
  := Function.comp_update Application.endpoint c d x

/-- Something happens at the end `d`. -/
theorem Inv.acted (hinv : Inv h c) (hdoes : DoesAt h c d a input)
    (hends : ∃ n, Endpoint.Inv h n (fun k => (c.acted d a outbox k).endpoint))
    (hlogged : ∀ p ∈ input, p ∈ (c !d).log) (hsubset : outbox ⊆ (c !d).endpoint.outbox)
    (houtbox : ∀ id, (c !d).endpoint.outbox.filterMap (fun x => x.2.2.datagramOn id)
      = (input.bind (GtsPacket.datagramOn id)).toList
        ++ outbox.filterMap (fun x => x.2.2.datagramOn id)) :
  Inv h (c.acted d a outbox)
  := by
  refine ⟨hends, ?_, ?_, flows_acted hinv.flows hdoes hlogged houtbox⟩
  · intro k
    obtain rfl | rfl := Bool.eq_or_eq_not k d
    · rw [acted_self]
      apply numbered_of_does hdoes (hinv.numbered k)
    · rw [acted_not]
      apply hinv.numbered (!d)
  · intro k
    obtain rfl | rfl := Bool.eq_or_eq_not k d
    · obtain ⟨out, hout, -⟩ := hdoes
      rw [acted_self, log_act hout]
      change ∀ x ∈ ((c k).endpoint.step a).outbox, _
      rw [hout, List.forall_mem_append]
      constructor
      · intro x hx
        apply List.mem_append_left _ (hinv.logged k x hx)
      · intro x hx
        apply List.mem_append_right _ (List.mem_map_of_mem hx)
    · rw [acted_not]
      intro x hx
      apply hinv.logged (!d) x (hsubset hx)

end Acted

/-! ### The invariant is kept -/

section Step

variable {d : Bool}

/-- The application of one end calls its endpoint. -/
theorem Inv.call (hinv : Inv h c) {a : Action} (hallows : (c d).allows d a = true) :
  Inv h (Function.update c d ((c d).act a))
  := by
  have hacted := c.acted_outbox d a
  obtain ⟨n, hends⟩ := hinv.ends
  have hend := hends.ends d
  have hcall : DoesAt h c d a none ∧
      ∃ n', Endpoint.Inv h n' (fun k => (Function.update c d ((c d).act a) k).endpoint) := by
    rw [endpoints_update]
    by_cases hconnect : ∃ remote css profile, a = .connect remote css profile
    · obtain ⟨remote, css, profile, rfl⟩ := hconnect
      obtain ⟨rfl, hempty⟩ := Bool.and_eq_true_iff.mp hallows
      replace hempty := Std.ExtTreeMap.isEmpty_iff.mp hempty
      have hnone : (c true).endpoint.tunnels[h true]? = none := by
        rw [hempty, Std.ExtTreeMap.getElem?_empty]
      exact ⟨does_connect hnone (hend.empty hnone).2 remote css profile,
        hends.asks hempty remote css profile⟩
    · have hcall : a.IsCall = true := by
        cases a with
        | connect => exact absurd ⟨_, _, _, rfl⟩ hconnect
        | _ => exact hallows
      have hstep := (hends.step (.call d a)).2
      rw [Pair.step, if_pos hcall] at hstep
      exact ⟨does_call hend.linkUp (fun k r hr => (hend.only k r hr).1) (hinv.numbered d) hcall,
        _, hstep⟩
  rw [← hacted] at hcall ⊢
  apply hinv.acted hcall.1 hcall.2
  · intro p hp
    cases hp
  · apply List.Subset.refl _
  · exact fun _ => rfl

/-- The next packet of one end arrives at the other. -/
theorem Inv.deliver (hinv : Inv h c) {dst : GdpAddress} {sizeClass : SizeClass} {packet : GtsPacket}
    {rest : List (GdpAddress × SizeClass × GtsPacket)}
    (hout : (c d).endpoint.outbox = (dst, sizeClass, packet) :: rest) (src : GdpAddress) :
  Inv h (Function.update (Function.update c d ((c d).withOutbox rest)) (!d)
    ((c !d).act (.receive src sizeClass packet)))
  := by
  have hacted : c.acted (!d) (.receive src sizeClass packet) rest
      = Function.update (Function.update c d ((c d).withOutbox rest)) (!d)
        ((c !d).act (.receive src sizeClass packet)) := by
    rw [Conversation.acted, Bool.not_not]
  obtain ⟨n, hends⟩ := hinv.ends
  obtain ⟨hinv', haddressed, hopens⟩ := hends.delivered hout
  have hreceived := hinv'.receives src sizeClass haddressed hopens
  have hp : Function.update (fun k => (c k).endpoint) d ((c d).endpoint.step .transmitted) (!d)
      = (c !d).endpoint := Function.update_of_ne (Bool.not_ne_self d) ..
  have htail : ((c d).withOutbox rest).endpoint = (c d).endpoint.step .transmitted := by
    rw [Endpoint.step, hout]
    rfl
  rw [← hacted]
  apply hinv.acted
  · apply does_receive (fun k r hr => ((hends.ends !d).only k r hr).1)
    rintro remoteId remoteReset profile credit css rfl
    obtain ⟨hx, -⟩ := hopens _ rfl
    have hnone : (c !d).endpoint.tunnels[h !d]? = none := by
      cases hr : (c !d).endpoint.tunnels[h !d]? with
      | none => rfl
      | some r =>
        obtain ⟨s, hs⟩ := ((hends.ends !d).only _ r hr).2.zero
        rw [← hp] at hr
        exact absurd ⟨r, s, hr, hs, rfl⟩ (hx.there s.profile)
    exact ⟨hnone, ((hends.ends !d).empty hnone).2⟩
  · use n
    rw [hacted, endpoints_update, endpoints_update, htail]
    rw [hp] at hreceived
    apply hreceived
  · rintro _ ⟨⟩
    rw [Bool.not_not]
    apply hinv.logged d (dst, sizeClass, packet)
    rw [hout]
    apply List.mem_cons_self
  · rw [Bool.not_not, hout]
    apply List.subset_cons_self _ _
  · intro id
    rw [Bool.not_not, hout, List.filterMap_cons, Option.bind_some]
    cases packet.datagramOn id with
    | none => rfl
    | some m => rfl

/-- A packet is lost. -/
theorem Inv.lose (hinv : Inv h c) (d : Bool) (i : ℕ) :
  Inv h (Function.update c d ((c d).withOutbox ((c d).endpoint.outbox.eraseIdx i)))
  := by
  have hsublist := List.eraseIdx_sublist (c d).endpoint.outbox i
  generalize (c d).endpoint.outbox.eraseIdx i = outbox at hsublist ⊢
  obtain ⟨n, hends⟩ := hinv.ends
  have hother : ∀ {k}, k ≠ d → Function.update c d ((c d).withOutbox outbox) k = c k :=
    fun hk => Function.update_of_ne hk ..
  refine ⟨⟨n, ?_⟩, ?_, ?_, ?_⟩
  · have hkeeps : (c d).endpoint.Keeps ((c d).withOutbox outbox).endpoint := .of_tunnels rfl
    rw [endpoints_update]
    apply hends.sameStreams hkeeps.sameStreams ((hends.ends d).keeps hkeeps rfl rfl)
    · apply hsublist.filterMap _
    · intro y hy
      apply hends.addressed d y (hsublist.subset hy)
  · intro k
    obtain rfl | hk := eq_or_ne k d
    · rw [Function.update_self]
      apply hinv.numbered k
    · rw [hother hk]
      apply hinv.numbered k
  · intro k
    obtain rfl | hk := eq_or_ne k d
    · rw [Function.update_self]
      intro x hx
      apply hinv.logged k x (hsublist.subset hx)
    · rw [hother hk]
      apply hinv.logged k
  · intro k id
    obtain rfl | rfl := Bool.eq_or_eq_not k d
    · have hflow := (hinv.flows k id).mono (List.Subset.refl _)
        (hsublist.filterMap (fun x => x.2.2.datagramOn id)) (List.Subset.refl _)
      rw [flow, Function.update_self, hother (Bool.not_ne_self k)]
      apply hflow
    · have hflow := hinv.flows (!d) id
      rw [flow, Bool.not_not] at hflow
      rw [flow, Bool.not_not, Function.update_self, hother (Bool.not_ne_self d)]
      apply hflow

/-- A packet of a reliable stream that has been sent arrives late, or again. -/
theorem Inv.repeats (hinv : Inv h c) {packet : GtsPacket} (hlog : packet ∈ (c d).log)
    (hrepeat : packet.MayRepeat = true) (src : GdpAddress) (sizeClass : SizeClass) :
  Inv h (Function.update c (!d) ((c !d).act (.receive src sizeClass packet)))
  := by
  have hacted := c.acted_outbox (!d) (.receive src sizeClass packet)
  have hquiet : packet.Quiet ∧ (∀ id, packet.datagramOn id = none) ∧ packet.opens = none := by
    cases packet with
    | data => exact ⟨trivial, fun _ => rfl, rfl⟩
    | ack => exact ⟨trivial, fun _ => rfl, rfl⟩
    | _ => cases hrepeat
  obtain ⟨hquiet, hdatagram, hopens⟩ := hquiet
  obtain ⟨n, hends⟩ := hinv.ends
  rw [← hacted]
  apply hinv.acted
  · apply does_receive (fun k r hr => ((hends.ends !d).only k r hr).1)
    rintro remoteId remoteReset profile credit css rfl
    cases hopens
  · use n
    rw [hacted, endpoints_update]
    have ha : (Action.receive src sizeClass packet).Quiet := hquiet
    apply hends.quiet (keeps_step _ ha) (sends_step _ ha)
  · rintro _ ⟨⟩
    rw [Bool.not_not]
    apply hlog
  · apply List.Subset.refl _
  · intro id
    rw [Option.bind_some, hdatagram]
    rfl

/-- Whatever happens, the invariant is kept. -/
theorem Inv.step (hinv : Inv h c) (act : Act) :
  Inv h (c.step act)
  := by
  cases act with
  | call d a =>
    rw [Conversation.step]
    split
    · next hallows => exact hinv.call hallows
    · apply hinv
  | deliver d src =>
    rw [Conversation.step]
    split
    · apply hinv
    · next hout => exact hinv.deliver hout src
  | lose d i => exact hinv.lose d i
  | repeats d i src sizeClass =>
    rw [Conversation.step]
    split
    · apply hinv
    next hget =>
    split
    · next hrepeat => exact hinv.repeats (List.mem_of_getElem? hget) hrepeat src sizeClass
    · apply hinv

end Step

/-! ### What the applications get -/

/-- Two endpoints without tunnels. -/
structure Unjoined (e : Bool → Endpoint) : Prop where
  tunnels : ∀ d, (e d).tunnels = ∅
  outbox : ∀ d, (e d).outbox = []
  linkUp : ∀ d, (e d).linkUp = true

/-- Endpoints that have just been made are not joined. -/
theorem unjoined_new {address address' : GdpAddress} {slots slots' : U8} {a b : Endpoint}
    (ha : Endpoint.new address slots = .ok a) (hb : Endpoint.new address' slots' = .ok b) :
  Unjoined (Pair.of a b)
  := by
  have hnew : ∀ {address slots e}, Endpoint.new address slots = .ok e →
      e.tunnels = ∅ ∧ e.outbox = [] ∧ e.linkUp = true := by
    intro address slots e he
    rw [Endpoint.new] at he
    split at he
    · cases he
    · cases he
      exact ⟨rfl, rfl, rfl⟩
  have hboth : ∀ d, (Pair.of a b d).tunnels = ∅ ∧ (Pair.of a b d).outbox = [] ∧
      (Pair.of a b d).linkUp = true := by
    rintro (_ | _)
    · apply hnew hb
    · apply hnew ha
  exact ⟨fun d => (hboth d).1, fun d => (hboth d).2.1, fun d => (hboth d).2.2⟩

/-- The invariant holds before anything has happened. -/
theorem inv_start {e : Bool → Endpoint} (he : Unjoined e) :
  Inv (fun d => (e d).nextTunnel) (start e)
  := by
  have hnone : ∀ d, ∀ k : U32, (e d).tunnels[k]? = none := by
    intro d k
    rw [he.tunnels, Std.ExtTreeMap.getElem?_empty]
  have hstart : ∀ d, (start e d).endpoint = e d := fun _ => rfl
  have hopening : ∀ d, (e d).opening = [] := by
    intro d
    rw [Endpoint.opening, he.outbox]
    rfl
  refine ⟨⟨fun _ => 0, ?_, ?_, ?_, ?_, ?_⟩, ?_, ?_, ?_⟩
  · intro d
    refine ⟨he.linkUp d, ?_, fun _ => ⟨rfl, rfl⟩⟩
    intro k r hr
    rw [hstart, hnone] at hr
    cases hr
  · rintro d id profile - ⟨r, -, hr, -⟩
    rw [hstart, hnone] at hr
    cases hr
  · intro d x hx
    rw [hstart, hopening] at hx
    cases hx
  · intro d
    rw [hstart, hopening]
    exact .nil
  · intro d x hx
    rw [hstart, he.outbox] at hx
    cases hx
  · intro d id s hs
    rw [hstart, streamAt_eq_none (hnone d _)] at hs
    cases hs
  · intro d x hx
    rw [hstart, he.outbox] at hx
    cases hx
  · intro d id
    have hflow : flow (fun d => (e d).nextTunnel) (start e) d id = ⟨none, none, [], [], [], [], []⟩ := by
      rw [flow, hstart, hstart, streamAt_eq_none (hnone d _), streamAt_eq_none (hnone (!d) _),
        he.outbox]
      rfl
    rw [hflow]
    apply StreamFlow.inv_empty

/-- The invariant holds after every run. -/
theorem inv_run {e : Bool → Endpoint} (he : Unjoined e) (as : List Act) :
  Inv (fun d => (e d).nextTunnel) (Machine.run step (start e) as)
  := Machine.invariant_run (P := Inv (fun d => (e d).nextTunnel)) (fun _ act hinv => hinv.step act)
    (inv_start he) as

/-- A stream that is there belongs to a tunnel. -/
theorem streamAt_eq_some {e : Endpoint} {k : U32} {id : U8} {s : GtsStream}
    (hs : e.streamAt k id = some s) :
  ∃ r, e.tunnels[k]? = some r ∧ r.tunnel.streams[id]? = some s
  := Option.bind_eq_some_iff.mp hs

/-- Both ends know whether a stream is reliable. -/
theorem Inv.kind (hinv : Inv h c) {d : Bool} {id : U8} {s : GtsStream}
    (hs : (c !d).endpoint.streamAt (h !d) id = some s) :
  (flow h c d id).Kind s.profile.unreliable
  := by
  obtain ⟨n, hends⟩ := hinv.ends
  obtain ⟨r, hr, hstream⟩ := streamAt_eq_some hs
  constructor
  · intro s' hs'
    obtain ⟨r', hr', hstream'⟩ := streamAt_eq_some hs'
    by_cases hown : Own d id
    · rw [(hends.agrees hown hr' hr hstream' hstream).1]
    · have hown' : Own (!d) id := by
        rw [Own] at hown ⊢
        cases d with
        | false => simpa using hown
        | true => simpa using hown
      have hagrees := @Endpoint.Inv.agrees h n _ (!d) hends id hown' r r' s s' hr
      rw [Bool.not_not] at hagrees
      rw [(hagrees hr' hstream hstream').1]
  · intro s' hs'
    rw [flow, hs] at hs'
    cases hs'
    rfl

/-- The only tunnel of an end is the one with its number. -/
theorem Inv.only (hinv : Inv h c) {d : Bool} {k : U32} {r : TunnelRecord}
    (hr : (c d).endpoint.tunnels[k]? = some r) :
  k = h d
  := by
  obtain ⟨n, hends⟩ := hinv.ends
  exact ((hends.ends d).only k r hr).1

/-- Two applications talk over one tunnel, and the network loses packets and repeats those of reliable
streams.  What an application takes from a stream is, in order, what the other one has given to it: the
first messages of a reliable stream, as long as its numbers have not been used up, and some of the messages
of an unreliable one. -/
theorem delivers_in_order {e : Bool → Endpoint} (he : Unjoined e) (as : List Act) :
  let c := Machine.run step (start e) as
  ∀ d k k' r id s, (c d).endpoint.tunnels[k]? = some r → (c !d).endpoint.streamAt k' id = some s →
    if s.profile.unreliable then ((c !d).taken k' id).Sublist (((c d).sent k id).map Prod.fst)
    else ((c d).sent k id).length < 2 ^ 32 →
      (c !d).taken k' id <+: ((c d).sent k id).map Prod.fst
  := by
  intro c d k k' r id s hr hs
  have hinv := inv_run he as
  obtain rfl := hinv.only hr
  obtain ⟨r', hr', -⟩ := streamAt_eq_some hs
  obtain rfl := hinv.only hr'
  have htaken := (hinv.flows d id).taken (hinv.kind hs)
  cases hrel : s.profile.unreliable with
  | false =>
    rw [hrel] at htaken
    rw [if_neg (by decide)]
    intro hlt
    apply htaken (fun _ => hlt)
  | true =>
    rw [hrel] at htaken
    rw [if_pos rfl]
    apply htaken (fun hfalse => by cases hfalse)

/-- The first message is lost and the second arrives before it; the first is sent again, and then also
arrives once more. -/
theorem delivers_in_order_repeated :
  let css : ServiceSelector := ⟨List.replicate 16 1#8, rfl⟩
  let profile : StreamProfile := ⟨false, true, false, false, .bidirectional, .msg128⟩
  let as : List Act := [.call false (.listen css ⟨4#8⟩), .call true (.connect ⟨2#64⟩ css profile),
    .deliver true ⟨1#64⟩, .deliver false ⟨2#64⟩, .call true (.send 1#32 0#8 [7#8] 0#64),
    .call true (.send 1#32 0#8 [8#8] 0#64), .lose true 0, .deliver true ⟨1#64⟩,
    .call true (.tick 1000#64), .deliver true ⟨1#64⟩, .repeats true 1 ⟨1#64⟩ .ctrl32,
    .call false (.recv 1#32 0#8), .call false (.recv 1#32 0#8), .call false (.recv 1#32 0#8)]
  ∃ e : Bool → Endpoint, Unjoined e ∧
    let c := Machine.run step (start e) as
    (c false).taken 1#32 0#8 = [[7#8], [8#8]] ∧
      (c false).taken 1#32 0#8 <+: ((c true).sent 1#32 0#8).map Prod.fst
  := by
  intro css profile as
  obtain ⟨a, ha⟩ : ∃ a, Endpoint.new ⟨1#64⟩ 4#8 = .ok a := ⟨_, rfl⟩
  obtain ⟨b, hb⟩ : ∃ b, Endpoint.new ⟨2#64⟩ 4#8 = .ok b := ⟨_, rfl⟩
  have he := unjoined_new ha hb
  have hrun : let c := Machine.run step (start (Pair.of a b)) as
      (c false).taken 1#32 0#8 = [[7#8], [8#8]] ∧ ((c true).sent 1#32 0#8).length < 2 ^ 32 ∧
        (c true).endpoint.tunnels[1#32]?.isSome ∧
        ∃ s ∈ (c false).endpoint.streamAt 1#32 0#8, s.profile.unreliable = false := by
    cases ha
    cases hb
    decide +kernel
  obtain ⟨htaken, hlt, htunnel, s, hs, hrel⟩ := hrun
  obtain ⟨r, hr⟩ := Option.isSome_iff_exists.mp htunnel
  have horder := delivers_in_order he as true 1#32 1#32 r 0#8 s hr hs
  rw [if_neg (by rw [hrel]; decide)] at horder
  exact ⟨_, he, htaken, horder hlt⟩

/-- When no message of a reliable stream is outstanding any more, the other application has taken all
messages or can take them, unless one of the ends has reset the stream. -/
theorem delivers_all {e : Bool → Endpoint} (he : Unjoined e) (as : List Act) :
  let c := Machine.run step (start e) as
  ∀ d k k' id s s', (c d).endpoint.streamAt k id = some s → (c !d).endpoint.streamAt k' id = some s' →
    s.profile.unreliable = false → ((c d).sent k id).length < 2 ^ 32 → s.state ≠ .reset →
    s'.state ≠ .reset → (∀ tx, s.reliableTx = some tx → tx.outstanding = ∅) →
    (c !d).taken k' id ++ s'.queued = ((c d).sent k id).map Prod.fst
  := by
  intro c d k k' id s s' hs hs' hrel hlt hlive hlive' hout
  have hinv := inv_run he as
  obtain ⟨r, hr, -⟩ := streamAt_eq_some hs
  obtain rfl := hinv.only hr
  obtain ⟨r', hr', -⟩ := streamAt_eq_some hs'
  obtain rfl := hinv.only hr'
  have hkind := hinv.kind hs'
  have hsame := hkind.1 s hs
  rw [hrel] at hsame
  rw [← hsame] at hkind
  have hall := (hinv.flows d id).complete hkind hlt
    (by
      intro s₁ hs₁
      cases hs.symm.trans hs₁
      exact ⟨hlive, hout⟩)
    (by
      intro s₁ hs₁
      cases hs'.symm.trans hs₁
      apply hlive')
  change (c !d).taken _ id ++ StreamFlow.waiting ((c !d).endpoint.streamAt _ id) = _ at hall
  rw [hs'] at hall
  apply hall

/-- One message has been taken, the other waits, and both have been acknowledged. -/
theorem delivers_all_waiting :
  let css : ServiceSelector := ⟨List.replicate 16 1#8, rfl⟩
  let profile : StreamProfile := ⟨false, true, false, false, .bidirectional, .msg128⟩
  let as : List Act := [.call false (.listen css ⟨4#8⟩), .call true (.connect ⟨2#64⟩ css profile),
    .deliver true ⟨1#64⟩, .deliver false ⟨2#64⟩, .call true (.send 1#32 0#8 [7#8] 0#64),
    .call true (.send 1#32 0#8 [8#8] 0#64), .deliver true ⟨1#64⟩, .lose false 0, .deliver true ⟨1#64⟩,
    .deliver false ⟨2#64⟩, .call false (.recv 1#32 0#8)]
  ∃ e : Bool → Endpoint, Unjoined e ∧
    let c := Machine.run step (start e) as
    ∃ s ∈ (c false).endpoint.streamAt 1#32 0#8, (c false).taken 1#32 0#8 = [[7#8]] ∧
      (c false).taken 1#32 0#8 ++ s.queued = ((c true).sent 1#32 0#8).map Prod.fst
  := by
  intro css profile as
  obtain ⟨a, ha⟩ : ∃ a, Endpoint.new ⟨1#64⟩ 4#8 = .ok a := ⟨_, rfl⟩
  obtain ⟨b, hb⟩ : ∃ b, Endpoint.new ⟨2#64⟩ 4#8 = .ok b := ⟨_, rfl⟩
  have he := unjoined_new ha hb
  have hrun : let c := Machine.run step (start (Pair.of a b)) as
      ((c true).sent 1#32 0#8).length < 2 ^ 32 ∧ (c false).taken 1#32 0#8 = [[7#8]] ∧
        ∃ s ∈ (c true).endpoint.streamAt 1#32 0#8, ∃ s' ∈ (c false).endpoint.streamAt 1#32 0#8,
          s.profile.unreliable = false ∧ s.state ≠ .reset ∧ s'.state ≠ .reset ∧
          s.reliableTx.all (fun tx => tx.outstanding = ∅) := by
    cases ha
    cases hb
    decide +kernel
  obtain ⟨hlt, htaken, s, hs, s', hs', hrel, hlive, hlive', hout⟩ := hrun
  refine ⟨_, he, s', hs', htaken,
    delivers_all he as true 1#32 1#32 0#8 s s' hs hs' hrel hlt hlive hlive' ?_⟩
  intro tx htx
  rw [htx] at hout
  simpa using hout

end Conversation

end Endpoint

end SmolGnet
