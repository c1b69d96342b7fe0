import SmolGnet.Endpoint.Core
import SmolGnet.Gts.Continues

/-!
# What happens to a tunnel

The application and the network act on an endpoint in any order.  `TunnelEffect` says once, for
every action, what it can do to the tunnel with a given number: a tunnel is there from the request
for it on, its streams change but keep their profile and do not come back to life, further streams are
added to it, and it is established, closed and reset.
-/

namespace SmolGnet

namespace Endpoint

/-- What the application, the link and the network do. -/
inductive Action where
  | listen (css : ServiceSelector) (config : ListenerConfig)
  | accept
  | connect (remote : GdpAddress) (css : ServiceSelector) (profile : StreamProfile)
  | openStream (h : U32) (profile : StreamProfile)
  | send (h : U32) (id : U8) (data : Bytes) (now : U64)
  | sendEnd (h : U32) (id : U8) (data : Bytes) (now : U64)
  | recv (h : U32) (id : U8)
  | closeStream (h : U32) (id : U8)
  | resetStream (h : U32) (id reason : U8)
  | closeTunnel (h : U32)
  | resetTunnel (h : U32) (reason : U8)
  | tick (now : U64)
  | receive (src : GdpAddress) (sizeClass : SizeClass) (packet : GtsPacket)
  | linkChanged (up : Bool)
  | assigned (address : GdpAddress)
  | transmitted
  deriving DecidableEq

/-- The packet that arrives. -/
def Action.received : Action → Option GtsPacket
  | .receive _ _ packet => some packet
  | _ => none

/-- The endpoint after an action. -/
def step (e : Endpoint) : Action → Endpoint
  | .listen css config => e.listen css config
  | .accept => e.accept.2
  | .connect remote css profile => (e.connect remote css profile).2
  | .openStream h profile => (e.openStream h profile).2
  | .send h id data now => (e.send h id data now).2
  | .sendEnd h id data now => (e.sendEnd h id data now).2
  | .recv h id => (e.recv h id).2
  | .closeStream h id => (e.closeStream h id).2
  | .resetStream h id reason => (e.resetStream h id reason).2
  | .closeTunnel h => (e.closeTunnel h).2
  | .resetTunnel h reason => (e.resetTunnel h reason).2
  | .tick now => (e.tick now).2
  | .receive src sizeClass packet => (e.handleGts src sizeClass packet).2
  | .linkChanged up => { e with linkUp := up }
  | .assigned address => { e with primaryAddress := address }
  | .transmitted => { e with outbox := e.outbox.tail }

/-- The credit that is granted on a stream that this end opens. -/
def openCredit (e : Endpoint) (profile : StreamProfile) : U8 :=
  if !profile.unreliable && profile.direction.peerMaySend then e.gtsReceiveSlots else 0#8

/-- What an action can do to the tunnel `h`. -/
inductive TunnelEffect (e : Endpoint) (h : U32) :
    Action → Option TunnelRecord → Option TunnelRecord → Prop where
  | unchanged (a : Action) (x : Option TunnelRecord) : TunnelEffect e h a x x
  | continues {a : Action} {r : TunnelRecord} {t : GtsTunnel}
      (haddressed : ∀ packet, a.received = some packet → packet.receiveTunnel = some h)
      (ht : r.tunnel.Continues t) :
    TunnelEffect e h a (some r) (some { r with tunnel := t })
  | connects {remote : GdpAddress} {css : ServiceSelector} {profile : StreamProfile}
      {x : Option TunnelRecord} {t : GtsTunnel} (hnext : e.nextTunnel = h)
      (ht : GtsTunnel.initiator e.nextTunnel e.nextReset css profile (e.localGtsCredit profile true)
        = .ok t) :
    TunnelEffect e h (.connect remote css profile) x (some ⟨remote, t⟩)
  | accepts {src : GdpAddress} {sizeClass : SizeClass} {remoteId remoteReset : U32}
      {profile : StreamProfile} {credit localCredit : U8} {css : ServiceSelector}
      {x : Option TunnelRecord} {t : GtsTunnel} (hnext : e.nextTunnel = h)
      (hlistens : (e.listeners.lookup css).isSome)
      (ht : GtsTunnel.responder e.nextTunnel e.nextReset remoteId remoteReset css profile localCredit
        credit = .ok t) :
    TunnelEffect e h (.receive src sizeClass (.connect remoteId remoteReset profile credit css)) x
      (some ⟨src, t⟩)
  | establishes {src : GdpAddress} {sizeClass : SizeClass} {remoteId remoteReset : U32} {credit : U8}
      {r : TunnelRecord} {t : GtsTunnel}
      (ht : r.tunnel.establishInitiator remoteId remoteReset credit = .ok t) :
    TunnelEffect e h (.receive src sizeClass (.connectAck h remoteId remoteReset 0#8 credit)) (some r)
      (some { r with tunnel := t })
  | opens {profile : StreamProfile} {r : TunnelRecord} {id : U8} {t t' : GtsTunnel}
      (halloc : r.tunnel.allocStreamId = .ok (id, t))
      (hadd : t' = t ∨ ∃ t₁, t.addStream id profile true (e.openCredit profile) 0#8 = .ok t₁ ∧
        t' = { t₁ with streams := t₁.streams.modify id GtsStream.markOpening }) :
    TunnelEffect e h (.openStream h profile) (some r) (some { r with tunnel := t' })
  | opened {src : GdpAddress} {sizeClass : SizeClass} {id : U8} {profile : StreamProfile}
      {credit localCredit : U8} {r : TunnelRecord} {t : GtsTunnel}
      (hid : remoteStreamIdValid r.tunnel.role id = true)
      (hadd : r.tunnel.addStream id profile false localCredit credit = .ok t) :
    TunnelEffect e h (.receive src sizeClass (.streamOpen h id profile credit)) (some r)
      (some { r with tunnel := t })
  | closing {r : TunnelRecord} (hclosed : hasOpenStream r.tunnel = false) :
    TunnelEffect e h (.closeTunnel h) (some r)
      (some { r with tunnel := { r.tunnel with state := .closing } })
  | closed {src : GdpAddress} {sizeClass : SizeClass} {ack : Bool} {r : TunnelRecord}
      (hclosed : ack = true ∨ hasOpenStream r.tunnel = false) :
    TunnelEffect e h (.receive src sizeClass (.tunnelClose h ack)) (some r)
      (some { r with tunnel := { r.tunnel with state := .closed } })
  | resets {reason : U8} {r : TunnelRecord} :
    TunnelEffect e h (.resetTunnel h reason) (some r) (some { r with tunnel := r.tunnel.reset })
  | reset {src : GdpAddress} {sizeClass : SizeClass} {reason : U8} {r : TunnelRecord} :
    TunnelEffect e h (.receive src sizeClass (.reset h r.tunnel.localResetId reason)) (some r)
      (some { r with tunnel := r.tunnel.reset })

/-- Some packets have been sent, none of which opens anything; the link and the numbers for tunnels
are as they were. -/
structure SendsQuiet (e e' : Endpoint) : Prop where
  outbox : ∃ out, e'.outbox = e.outbox ++ out ∧ ∀ x ∈ out, x.2.2.Quiet
  linkUp : e'.linkUp = e.linkUp
  nextTunnel : e'.nextTunnel = e.nextTunnel

/-- One tunnel of a table is replaced, or none, and packets are sent. -/
structure Replaces (e e' : Endpoint) (h : U32) (Q : TunnelRecord → GtsTunnel → Prop) : Prop where
  tunnels : e'.tunnels = e.tunnels ∨
    ∃ r t, e.tunnels[h]? = some r ∧ Q r t ∧ e'.tunnels = e.tunnels.insert h { r with tunnel := t }
  sends : e.SendsQuiet e'

section Replaces

variable {e e' e'' : Endpoint} {h : U32} {Q : TunnelRecord → GtsTunnel → Prop}

@[simp]
theorem tunnels_sendGts (e : Endpoint) (remote : GdpAddress) (packet : GtsPacket)
    (profile : Option StreamProfile) :
  (e.sendGts remote packet profile).2.tunnels = e.tunnels
  := by
  rw [sendGts]
  split
  · rfl
  · split
    · rfl
    · rfl

/-- A packet is sent, or it cannot be sent. -/
theorem outbox_sendGts (e : Endpoint) (remote : GdpAddress) (packet : GtsPacket)
    (profile : Option StreamProfile) :
  (e.sendGts remote packet profile).2.linkUp = e.linkUp ∧
    (e.sendGts remote packet profile).2.nextTunnel = e.nextTunnel ∧
    ((e.sendGts remote packet profile).2.outbox = e.outbox ∨
      ∃ sizeClass, (e.sendGts remote packet profile).2.outbox
        = e.outbox ++ [(remote, sizeClass, packet)])
  := by
  rw [sendGts]
  split
  · exact ⟨rfl, rfl, .inl rfl⟩
  · split
    · exact ⟨rfl, rfl, .inl rfl⟩
    · exact ⟨rfl, rfl, .inr ⟨_, rfl⟩⟩

theorem record_eq_ok {r : TunnelRecord} (hr : e.record h = .ok r) :
  e.tunnels[h]? = some r
  := by
  rw [record] at hr
  split at hr
  · next hsome =>
    cases hr
    exact hsome
  · cases hr

theorem record_of_getElem? {r : TunnelRecord} (hr : e.tunnels[h]? = some r) :
  e.record h = .ok r
  := by
  rw [record, hr]

theorem findStream_eq_ok {id : U8} {r : TunnelRecord} {s : GtsStream}
    (hfind : e.findStream h id = .ok (r, s)) :
  e.record h = .ok r ∧ r.tunnel.stream id = .ok s
  := by
  rw [findStream] at hfind
  split at hfind
  · cases hfind
  next r' hr =>
  split at hfind
  · cases hfind
  next s' hs =>
  cases hfind
  exact ⟨hr, hs⟩

/-- Where a stream is that is found. -/
theorem getElem?_of_findStream {id : U8} {r : TunnelRecord} {s : GtsStream}
    (hfind : e.findStream h id = .ok (r, s)) :
  e.tunnels[h]? = some r ∧ r.tunnel.streams[id]? = some s
  := by
  obtain ⟨hr, hs⟩ := findStream_eq_ok hfind
  exact ⟨record_eq_ok hr, GtsTunnel.stream_eq_ok_iff.mp hs⟩

theorem SendsQuiet.refl (e : Endpoint) :
  e.SendsQuiet e
  := ⟨⟨[], (List.append_nil _).symm, List.forall_mem_nil _⟩, rfl, rfl⟩

theorem SendsQuiet.sendGts (hsends : e.SendsQuiet e') (remote : GdpAddress) {packet : GtsPacket}
    (hquiet : packet.Quiet) (profile : Option StreamProfile) :
  e.SendsQuiet (e'.sendGts remote packet profile).2
  := by
  obtain ⟨⟨out, hout, hall⟩, hlink, hnext⟩ := hsends
  obtain ⟨hlink', hnext', hsent⟩ := e'.outbox_sendGts remote packet profile
  refine ⟨?_, hlink'.trans hlink, hnext'.trans hnext⟩
  obtain hsent | ⟨sizeClass, hsent⟩ := hsent
  · exact ⟨out, hsent.trans hout, hall⟩
  · refine ⟨out ++ [(remote, sizeClass, packet)], ?_, ?_⟩
    · rw [hsent, hout, List.append_assoc]
    · rw [List.forall_mem_append, List.forall_mem_singleton]
      exact ⟨hall, hquiet⟩

/-- Sending a packet changes no tunnel. -/
theorem Replaces.sendGts (hreplaces : e.Replaces e' h Q) (remote : GdpAddress) {packet : GtsPacket}
    (hquiet : packet.Quiet) (profile : Option StreamProfile) :
  e.Replaces (e'.sendGts remote packet profile).2 h Q
  := by
  refine ⟨?_, hreplaces.sends.sendGts remote hquiet profile⟩
  rw [tunnels_sendGts]
  exact hreplaces.tunnels

theorem replaces_self (e : Endpoint) (h : U32) (Q : TunnelRecord → GtsTunnel → Prop) :
  e.Replaces e h Q
  := ⟨.inl rfl, .refl e⟩

theorem replaces_setTunnel {r : TunnelRecord} {t : GtsTunnel} (hr : e.record h = .ok r) (hq : Q r t) :
  e.Replaces (e.setTunnel h r t) h Q
  := by
  refine ⟨.inr ⟨r, t, record_eq_ok hr, hq, rfl⟩, ⟨[], ?_, List.forall_mem_nil _⟩, rfl, rfl⟩
  exact (List.append_nil _).symm

/-- A stream of a tunnel is replaced. -/
theorem replaces_setStream {R : GtsStream → GtsStream → Prop} (hrefl : ∀ s, R s s) {id : U8}
    {r : TunnelRecord} {s s' : GtsStream} (hfind : e.findStream h id = .ok (r, s)) (hs : R s s') :
  e.Replaces (e.setStream h r id s') h (fun r t => r.tunnel.Related R t)
  := by
  obtain ⟨hr, hstream⟩ := findStream_eq_ok hfind
  exact replaces_setTunnel hr (GtsTunnel.related_insert hrefl hstream hs)

/-- Something happens to a stream of a tunnel. -/
theorem replaces_steps {id : U8} {r : TunnelRecord} {s s' : GtsStream}
    (hfind : e.findStream h id = .ok (r, s)) (hs : s.Steps s') :
  e.Replaces (e.setStream h r id s') h (fun r t => r.tunnel.Steps t)
  := replaces_setStream (fun _ => .same) hfind hs

theorem Replaces.imp {Q' : TunnelRecord → GtsTunnel → Prop} (hreplaces : e.Replaces e' h Q)
    (himp : ∀ r t, Q r t → Q' r t) :
  e.Replaces e' h Q'
  := by
  refine ⟨hreplaces.tunnels.imp_right ?_, hreplaces.sends⟩
  rintro ⟨r, t, hr, hq, htunnels⟩
  exact ⟨r, t, hr, himp r t hq, htunnels⟩

/-- What happens to the streams of a tunnel leaves it the same tunnel. -/
theorem Replaces.of_steps (hreplaces : e.Replaces e' h (fun r t => r.tunnel.Steps t)) :
  e.Replaces e' h (fun r t => r.tunnel.Continues t)
  := hreplaces.imp (fun _ _ => GtsTunnel.Steps.continues)

/-- What the replacement of a tunnel is for each number. -/
theorem Replaces.effect (hreplaces : e.Replaces e' h Q) {a : Action}
    (hq : ∀ r t, Q r t → e.TunnelEffect h a (some r) (some { r with tunnel := t })) (k : U32) :
  e.TunnelEffect k a e.tunnels[k]? e'.tunnels[k]?
  := by
  obtain htunnels | ⟨r, t, hr, hrt, htunnels⟩ := hreplaces.tunnels
  · rw [htunnels]
    apply TunnelEffect.unchanged
  · rw [htunnels, TreeMap.getElem?_insert]
    split
    · next hk =>
      subst hk
      rw [hr]
      exact hq r t hrt
    · apply TunnelEffect.unchanged

/-- A tunnel that continues when the application acts, or when time passes. -/
theorem Replaces.continues (hreplaces : e.Replaces e' h (fun r t => r.tunnel.Continues t))
    {a : Action} (ha : a.received = none) (k : U32) :
  e.TunnelEffect k a e.tunnels[k]? e'.tunnels[k]?
  := by
  refine hreplaces.effect (fun r t ht => .continues ?_ ht) k
  intro packet hpacket
  rw [ha] at hpacket
  cases hpacket

/-- A tunnel that continues when a packet for it arrives. -/
theorem Replaces.received (hreplaces : e.Replaces e' h (fun r t => r.tunnel.Continues t))
    {src : GdpAddress} {sizeClass : SizeClass} {packet : GtsPacket}
    (haddressed : packet.receiveTunnel = some h) (k : U32) :
  e.TunnelEffect k (.receive src sizeClass packet) e.tunnels[k]? e'.tunnels[k]?
  := by
  refine hreplaces.effect (fun r t ht => .continues ?_ ht) k
  rintro _ ⟨⟩
  exact haddressed

end Replaces

/-! ### The application -/

section Application

variable (e : Endpoint) (h : U32)

/-- A new tunnel has the next number. -/
theorem tunnels_connect_of_validate (remote : GdpAddress) (css : ServiceSelector)
    {profile : StreamProfile} (hvalid : profile.validate = .ok profile) :
  ∃ t, GtsTunnel.initiator e.nextTunnel e.nextReset css profile (e.localGtsCredit profile true)
      = .ok t ∧
    (e.connect remote css profile).2.tunnels = e.tunnels.insert e.nextTunnel ⟨remote, t⟩
  := by
  obtain ⟨t, ht⟩ : ∃ t, GtsTunnel.initiator e.nextTunnel e.nextReset css profile
      (e.localGtsCredit profile true) = .ok t := by
    rw [GtsTunnel.initiator, GtsStream.new, hvalid]
    exact ⟨_, rfl⟩
  refine ⟨t, ht, ?_⟩
  rw [connect, hvalid]
  dsimp only [allocTunnel, localGtsCredit] at ht ⊢
  rw [ht]
  dsimp only
  split
  · next heq => exact (congrArg (·.2.tunnels) heq).symm.trans (tunnels_sendGts _ _ _ _)
  · next heq => exact (congrArg (·.2.tunnels) heq).symm.trans (tunnels_sendGts _ _ _ _)

theorem tunnels_connect (remote : GdpAddress) (css : ServiceSelector) (profile : StreamProfile) :
  (e.connect remote css profile).2.tunnels = e.tunnels ∨
    ∃ t, GtsTunnel.initiator e.nextTunnel e.nextReset css profile (e.localGtsCredit profile true)
        = .ok t ∧
      (e.connect remote css profile).2.tunnels = e.tunnels.insert e.nextTunnel ⟨remote, t⟩
  := by
  cases hvalid : profile.validate with
  | error err =>
    rw [connect, hvalid]
    exact .inl rfl
  | ok p =>
    rw [StreamProfile.validate_eq_ok hvalid] at hvalid
    exact .inr (e.tunnels_connect_of_validate remote css hvalid)

/-- The number that a stream which the application opens is given. -/
def newStreamId (profile : StreamProfile) : Option U8 :=
  match profile.validate, e.record h with
  | .ok _, .ok r => r.tunnel.allocStreamId.toOption.map Prod.fst
  | _, _ => none

/-- A stream is added under the next number, and the other end is told of it, as far as it can be. -/
theorem openStream_cases (profile : StreamProfile) :
  (e.openStream h profile).2 = e ∧ e.newStreamId h profile = none ∨
    profile.validate = .ok profile ∧ ∃ r id t, e.record h = .ok r ∧
      r.tunnel.allocStreamId = .ok (id, t) ∧ e.newStreamId h profile = some id ∧
      ((∃ err, t.addStream id profile true (e.openCredit profile) 0#8 = .error err) ∧
          (e.openStream h profile).2 = e.setTunnel h r t ∨
        ∃ t₁, t.addStream id profile true (e.openCredit profile) 0#8 = .ok t₁ ∧
          ((e.openStream h profile).2 = e.setTunnel h r
              { t₁ with streams := t₁.streams.modify id GtsStream.markOpening } ∨
            ∃ remote, t₁.remoteId = .ok remote ∧
              (e.openStream h profile).2 = ((e.setTunnel h r
                  { t₁ with streams := t₁.streams.modify id GtsStream.markOpening }).sendGts r.peer
                (.streamOpen remote id profile (e.openCredit profile)) none).2))
  := by
  have hcredit : (if !profile.unreliable && profile.direction.peerMaySend then e.gtsReceiveSlots
      else 0#8) = e.openCredit profile := rfl
  rw [openStream, newStreamId]
  split
  · next herr =>
    rw [herr]
    exact .inl ⟨rfl, rfl⟩
  next hvalid =>
  rw [hvalid]
  split
  · next herr =>
    rw [herr]
    exact .inl ⟨rfl, rfl⟩
  next r hr =>
  rw [hr]
  split
  · next herr =>
    dsimp only
    rw [herr]
    exact .inl ⟨rfl, rfl⟩
  next id t halloc =>
  refine .inr ⟨by rw [StreamProfile.validate_eq_ok hvalid], r, id, t, rfl, halloc, ?_, ?_⟩
  · dsimp only
    rw [halloc]
    rfl
  dsimp only
  rw [hcredit]
  split
  · next err hadd => exact .inl ⟨⟨err, hadd⟩, rfl⟩
  next t₁ hadd =>
  refine .inr ⟨t₁, hadd, ?_⟩
  have hid : GtsTunnel.remoteId { t₁ with streams := t₁.streams.modify id GtsStream.markOpening }
      = t₁.remoteId := rfl
  rw [hid]
  cases hremote : t₁.remoteId with
  | error err => exact .inl rfl
  | ok remote =>
    refine .inr ⟨remote, rfl, ?_⟩
    dsimp only
    split
    · next heq => rw [heq]
    · next heq => rw [heq]

/-- What opening a stream does to a tunnel. -/
theorem openStream_effect (profile : StreamProfile) (k : U32) :
  e.TunnelEffect k (.openStream h profile) e.tunnels[k]? (e.openStream h profile).2.tunnels[k]?
  := by
  have hset : ∀ {r t}, e.record h = .ok r →
      e.TunnelEffect h (.openStream h profile) (some r) (some { r with tunnel := t }) →
      e.TunnelEffect k (.openStream h profile) e.tunnels[k]? (e.setTunnel h r t).tunnels[k]? := by
    intro r t hr heffect
    rw [setTunnel, TreeMap.getElem?_insert]
    split
    · next hk =>
      subst hk
      rw [record_eq_ok hr]
      exact heffect
    · apply TunnelEffect.unchanged
  obtain ⟨hsame, -⟩ | ⟨-, r, id, t, hr, halloc, -, hadded⟩ := e.openStream_cases h profile
  · rw [hsame]
    apply TunnelEffect.unchanged
  obtain ⟨-, hopened⟩ | ⟨t₁, hadd, hopened⟩ := hadded
  · rw [hopened]
    exact hset hr (.opens halloc (.inl rfl))
  · have heffect := hset hr (.opens halloc (.inr ⟨t₁, hadd, rfl⟩))
    obtain hopened | ⟨remote, -, hopened⟩ := hopened
    · rw [hopened]
      exact heffect
    · rw [hopened, tunnels_sendGts]
      exact heffect

theorem findStream_of_record {id : U8} {r : TunnelRecord} {s : GtsStream} {e : Endpoint} {h : U32}
    (hr : e.record h = .ok r) (hs : r.tunnel.stream id = .ok s) :
  e.findStream h id = .ok (r, s)
  := by
  rw [findStream, hr]
  dsimp only
  rw [hs]

theorem replaces_sendInner (id : U8) (data : Bytes) (isEnd : Bool) (now : U64) :
  e.Replaces (e.sendInner h id data isEnd now).2 h (fun r t => r.tunnel.Steps t)
  := by
  rw [sendInner]
  split
  · apply replaces_self
  next r hr =>
  split
  · apply replaces_self
  split
  · apply replaces_self
  split
  · apply replaces_self
  next s hs =>
  split
  · apply replaces_self
  next packet s' hsend =>
  have hreplaces := replaces_steps (findStream_of_record hr hs) (.sendPacket hsend)
  exact hreplaces.sendGts r.peer (GtsStream.quiet_sendPacket hsend) (some s.profile)

theorem replaces_recv (id : U8) :
  e.Replaces (e.recv h id).2 h (fun r t => ∃ s, r.tunnel.stream id = .ok s ∧
    t = { r.tunnel with streams := r.tunnel.streams.insert id s.recv.2 })
  := by
  rw [recv]
  split
  · apply replaces_self
  next r hr =>
  split
  · apply replaces_self
  split
  · apply replaces_self
  next s hs =>
  have hreplaces : e.Replaces (e.setStream h r id s.recv.2) h _ := replaces_setTunnel hr
    (Q := fun r t => ∃ s, r.tunnel.stream id = .ok s ∧
      t = { r.tunnel with streams := r.tunnel.streams.insert id s.recv.2 }) ⟨s, hs, rfl⟩
  dsimp only
  split
  · exact hreplaces
  next ack hack =>
  have hquiet : ack.Quiet := by
    split at hack
    · exact GtsStream.quiet_receiveCreditAck hack
    · cases hack
  have hsent := hreplaces.sendGts r.peer hquiet (some s.profile)
  split
  · next heq =>
    rw [heq] at hsent
    exact hsent
  · next heq =>
    rw [heq] at hsent
    exact hsent

/-- A tunnel from which the application takes a message continues. -/
theorem continues_of_recv {id : U8} (r : TunnelRecord) (t : GtsTunnel)
    (ht : ∃ s, r.tunnel.stream id = .ok s ∧
      t = { r.tunnel with streams := r.tunnel.streams.insert id s.recv.2 }) :
  r.tunnel.Continues t
  := by
  obtain ⟨s, hs, rfl⟩ := ht
  exact GtsTunnel.continues_insert hs s.continues_recv

theorem replaces_closeStream (id : U8) :
  e.Replaces (e.closeStream h id).2 h (fun r t => r.tunnel.Steps t)
  := by
  rw [closeStream]
  split
  · apply replaces_self
  next r s hfind =>
  split
  · apply replaces_self
  next hstate =>
  have hreplaces := replaces_steps hfind (.closing (by simpa [or_iff_not_imp_left] using hstate))
  dsimp only
  cases r.tunnel.remoteId with
  | error err => exact hreplaces
  | ok remote => exact hreplaces.sendGts _ (by trivial) _

/-- One stream of the tunnel is reset. -/
def ResetsStream (id : U8) (r : TunnelRecord) (t : GtsTunnel) : Prop :=
  ∃ s, r.tunnel.stream id = .ok s ∧
    t = { r.tunnel with streams := r.tunnel.streams.insert id s.reset }

/-- A tunnel one of whose streams is reset continues. -/
theorem ResetsStream.continues {id : U8} {r : TunnelRecord} {t : GtsTunnel}
    (ht : ResetsStream id r t) :
  r.tunnel.Continues t
  := by
  obtain ⟨s, hs, rfl⟩ := ht
  exact GtsTunnel.continues_insert hs (GtsStream.continues_reset s)

theorem replaces_resetStream (id reason : U8) :
  e.Replaces (e.resetStream h id reason).2 h (ResetsStream id)
  := by
  rw [resetStream]
  split
  · apply replaces_self
  next r s hfind =>
  obtain ⟨hr, hs⟩ := findStream_eq_ok hfind
  have hreplaces := replaces_setTunnel (Q := ResetsStream id) hr ⟨s, hs, rfl⟩
  split
  · exact hreplaces
  · exact hreplaces.sendGts _ (by trivial) _

theorem replaces_closeTunnel :
  e.Replaces (e.closeTunnel h).2 h
    (fun r t => hasOpenStream r.tunnel = false ∧ t = { r.tunnel with state := .closing })
  := by
  rw [closeTunnel]
  split
  · apply replaces_self
  next r hr =>
  split
  · apply replaces_self
  next hclosed =>
  have hreplaces := replaces_setTunnel hr
    (Q := fun r t => hasOpenStream r.tunnel = false ∧ t = { r.tunnel with state := .closing })
    ⟨Bool.eq_false_iff.mpr hclosed, rfl⟩
  split
  · exact hreplaces
  · exact hreplaces.sendGts _ (by trivial) _

theorem replaces_resetTunnel (reason : U8) :
  e.Replaces (e.resetTunnel h reason).2 h (fun r t => r.tunnel.remoteReceiveId.isSome ∧
    r.tunnel.remoteResetId.isSome ∧ t = r.tunnel.reset)
  := by
  rw [resetTunnel]
  split
  · apply replaces_self
  next r hr =>
  split
  · apply replaces_self
  · apply replaces_self
  · next remote resetId hremote hreset =>
    have hsome : r.tunnel.remoteReceiveId.isSome := by
      rw [GtsTunnel.remoteId_eq_ok hremote, Option.isSome_some]
    have hreplaces := replaces_setTunnel hr (Q := fun r t => r.tunnel.remoteReceiveId.isSome ∧
      r.tunnel.remoteResetId.isSome ∧ t = r.tunnel.reset) ⟨hsome, by rw [hreset]; rfl, rfl⟩
    exact hreplaces.sendGts _ (by trivial) _

end Application

/-! ### The network -/

section Network

variable (e : Endpoint) (h : U32)

/-- A tunnel that is asked for has the next number. -/
theorem tunnels_handleConnect_of_validate (src : GdpAddress) (remoteId remoteReset : U32)
    {profile : StreamProfile} (credit : U8) {css : ServiceSelector} {listener : ListenerConfig}
    (hlistens : e.listeners.lookup css = some listener) (hvalid : profile.validate = .ok profile) :
  ∃ localCredit t, GtsTunnel.responder e.nextTunnel e.nextReset remoteId remoteReset css profile
      localCredit credit = .ok t ∧
    let e' := (e.handleConnect src remoteId remoteReset profile credit css).2
    e'.tunnels = e.tunnels.insert e.nextTunnel ⟨src, t⟩ ∧ e'.linkUp = e.linkUp ∧
      (e'.outbox = e.outbox ∨ ∃ sizeClass, e'.outbox = e.outbox ++
        [(src, sizeClass, .connectAck remoteId e.nextTunnel e.nextReset 0#8 localCredit)])
  := by
  obtain ⟨t, ht⟩ : ∃ t, GtsTunnel.responder e.nextTunnel e.nextReset remoteId remoteReset css profile
      (if !profile.unreliable && profile.direction.openerMaySend then listener.receiveSlots else 0#8)
      credit = .ok t := by
    rw [GtsTunnel.responder, GtsStream.new, hvalid]
    exact ⟨_, rfl⟩
  refine ⟨_, t, ht, ?_⟩
  rw [handleConnect, hlistens]
  dsimp only [allocTunnel]
  rw [ht]
  obtain ⟨hlink, -, hsent⟩ := outbox_sendGts
    { e with
      nextTunnel := nextId e.nextTunnel
      nextReset := nextId e.nextReset
      tunnels := e.tunnels.insert e.nextTunnel ⟨src, t⟩
      accepted := e.accepted ++ [e.nextTunnel] }
    src (.connectAck remoteId e.nextTunnel e.nextReset 0#8
      (if !profile.unreliable && profile.direction.openerMaySend then listener.receiveSlots else 0#8))
    none
  exact ⟨tunnels_sendGts _ _ _ _, hlink, hsent⟩

theorem tunnels_handleConnect (src : GdpAddress) (remoteId remoteReset : U32)
    (profile : StreamProfile) (credit : U8) (css : ServiceSelector) :
  (e.handleConnect src remoteId remoteReset profile credit css).2.tunnels = e.tunnels ∨
    (e.listeners.lookup css).isSome ∧
    ∃ localCredit t, GtsTunnel.responder e.nextTunnel e.nextReset remoteId remoteReset css profile
        localCredit credit = .ok t ∧
      (e.handleConnect src remoteId remoteReset profile credit css).2.tunnels
        = e.tunnels.insert e.nextTunnel ⟨src, t⟩
  := by
  cases hlistens : e.listeners.lookup css with
  | none =>
    rw [handleConnect, hlistens]
    exact .inl rfl
  | some listener =>
    cases hvalid : profile.validate with
    | error err =>
      rw [handleConnect, hlistens]
      dsimp only [allocTunnel]
      rw [GtsTunnel.responder, GtsStream.new, hvalid]
      exact .inl rfl
    | ok p =>
      rw [StreamProfile.validate_eq_ok hvalid] at hvalid
      obtain ⟨localCredit, t, ht, htunnels, -⟩ :=
        e.tunnels_handleConnect_of_validate src remoteId remoteReset credit hlistens hvalid
      exact .inr ⟨rfl, localCredit, t, ht, htunnels⟩

theorem replaces_handleConnectAck (remoteId remoteReset : U32) (status credit : U8) :
  e.Replaces (e.handleConnectAck h remoteId remoteReset status credit).2 h
    (fun r t => status = 0#8 ∧ r.tunnel.establishInitiator remoteId remoteReset credit = .ok t)
  := by
  rw [handleConnectAck]
  split
  · apply replaces_self
  next hstatus =>
  split
  · apply replaces_self
  next r s hfind =>
  split
  · apply replaces_self
  split
  · apply replaces_self
  next t ht => exact replaces_setTunnel (findStream_eq_ok hfind).1 ⟨not_not.mp hstatus, ht⟩

theorem replaces_handleStreamOpen (id : U8) (profile : StreamProfile) (credit : U8) :
  e.Replaces (e.handleStreamOpen h id profile credit).2 h
    (fun r t => remoteStreamIdValid r.tunnel.role id = true ∧
      ∃ localCredit, r.tunnel.addStream id profile false localCredit credit = .ok t)
  := by
  rw [handleStreamOpen]
  split
  · apply replaces_self
  next r hr =>
  split
  · apply replaces_self
  next hid =>
  split
  · apply replaces_self
  dsimp only
  split
  · apply replaces_self
  next t hadd =>
  have hreplaces := replaces_setTunnel hr
    (Q := fun r t => remoteStreamIdValid r.tunnel.role id = true ∧
      ∃ localCredit, r.tunnel.addStream id profile false localCredit credit = .ok t)
    ⟨by simpa using hid, _, hadd⟩
  split
  · exact hreplaces
  · exact hreplaces.sendGts _ (by trivial) _

theorem replaces_handleStreamAck (id status credit : U8) :
  e.Replaces (e.handleStreamAck h id status credit).2 h (fun r t => r.tunnel.Steps t)
  := by
  rw [handleStreamAck]
  split
  · apply replaces_self
  split
  · apply replaces_self
  next r s hfind =>
  split
  · apply replaces_self
  split
  · apply replaces_self
  next s' hack => exact replaces_steps hfind (.applyOpenAck hack)

theorem replaces_handleData (sizeClass : SizeClass) (id : U8) (packet : GtsPacket) :
  e.Replaces (e.handleData sizeClass h id packet).2 h (fun r t => r.tunnel.Steps t)
  := by
  rw [handleData]
  split
  · apply replaces_self
  next r s hfind =>
  split
  · apply replaces_self
  split
  · apply replaces_self
  next ack s' hreceive =>
  have hreplaces := replaces_steps hfind (.receivePacket hreceive)
  split
  · exact hreplaces
  split
  · exact hreplaces.sendGts _ (by trivial) _
  · exact hreplaces

theorem replaces_handleDatagram (sizeClass : SizeClass) (id : U8) (packet : GtsPacket) :
  e.Replaces (e.handleDatagram sizeClass h id packet).2 h (fun r t => r.tunnel.Steps t)
  := by
  rw [handleDatagram]
  split
  · apply replaces_self
  next r s hfind =>
  split
  · apply replaces_self
  split
  · apply replaces_self
  next ack s' hreceive =>
  exact replaces_steps hfind (.receivePacket hreceive)

theorem replaces_handleAck (sizeClass : SizeClass) (id : U8) (base bitmap : U32) (credit : U8) :
  e.Replaces (e.handleAck sizeClass h id base bitmap credit).2 h (fun r t => r.tunnel.Steps t)
  := by
  rw [handleAck]
  split
  · apply replaces_self
  next r s hfind =>
  split
  · apply replaces_self
  split
  · apply replaces_self
  next s' hack => exact replaces_steps hfind (.onAck hack)

theorem replaces_handleStreamClose (sizeClass : SizeClass) (id : U8) (finalSequence : U32)
    (ack : Bool) :
  e.Replaces (e.handleStreamClose sizeClass h id finalSequence ack).2 h
    (fun r t => r.tunnel.Steps t)
  := by
  rw [handleStreamClose]
  split
  · apply replaces_self
  next r s hfind =>
  split
  · apply replaces_self
  have hreplaces := replaces_steps hfind .closed
  split
  · exact hreplaces
  split
  · exact hreplaces
  · exact hreplaces.sendGts _ (by trivial) _

theorem replaces_handleStreamReset (id reason : U8) (ack : Bool) :
  e.Replaces (e.handleStreamReset h id reason ack).2 h (ResetsStream id)
  := by
  rw [handleStreamReset]
  split
  · apply replaces_self
  next r s hfind =>
  obtain ⟨hr, hs⟩ := findStream_eq_ok hfind
  have hreplaces := replaces_setTunnel (Q := ResetsStream id) hr ⟨s, hs, rfl⟩
  split
  · exact hreplaces
  split
  · exact hreplaces
  · exact hreplaces.sendGts _ (by trivial) _

theorem replaces_handleTunnelClose (ack : Bool) :
  e.Replaces (e.handleTunnelClose h ack).2 h
    (fun r t => (ack = true ∨ hasOpenStream r.tunnel = false) ∧
      t = { r.tunnel with state := .closed })
  := by
  rw [handleTunnelClose]
  split
  · apply replaces_self
  next r hr =>
  split
  · next hack => exact replaces_setTunnel hr ⟨.inl hack, rfl⟩
  split
  · apply replaces_self
  next hclosed =>
  have hreplaces := replaces_setTunnel hr
    (Q := fun r t => (ack = true ∨ hasOpenStream r.tunnel = false) ∧
      t = { r.tunnel with state := .closed })
    ⟨.inr (Bool.eq_false_iff.mpr hclosed), rfl⟩
  split
  · exact hreplaces
  · exact hreplaces.sendGts _ (by trivial) _

theorem replaces_handleReset (resetId : U32) :
  e.Replaces (e.handleReset h resetId).2 h
    (fun r t => resetId = r.tunnel.localResetId ∧ t = r.tunnel.reset)
  := by
  rw [handleReset]
  split
  · apply replaces_self
  next r hr =>
  split
  · apply replaces_self
  next hreset => exact replaces_setTunnel hr ⟨not_not.mp hreset, rfl⟩

end Network

/-! ### Time -/

/-- The packets that are sent again change no tunnel. -/
theorem tunnels_sendPending (packets : List (GdpAddress × StreamProfile × GtsPacket)) (e : Endpoint) :
  (sendPending packets e).2.tunnels = e.tunnels
  := by
  rw [sendPending]
  refine sendEach_keeps (P := fun e' : Endpoint => e'.tunnels = e.tunnels) ?_ rfl
  intro x _ e' htunnels
  rw [tunnels_sendGts, htunnels]

theorem sends_sendPending {packets : List (GdpAddress × StreamProfile × GtsPacket)} {e e' : Endpoint}
    (hsends : e.SendsQuiet e') (hquiet : ∀ x ∈ packets, x.2.2.Quiet) :
  e.SendsQuiet (sendPending packets e').2
  := by
  apply sendEach_keeps _ hsends
  intro x hx e' hsends
  exact hsends.sendGts x.1 (hquiet x hx) (some x.2.1)

/-- What is due is found, and nothing is sent yet. -/
theorem sends_dueOfTunnels {now : U64} {l : List (U32 × TunnelRecord)} {e e' : Endpoint}
    (hsends : e.SendsQuiet e') :
  e.SendsQuiet (dueOfTunnels now l e').2 ∧
    ∀ packets, (dueOfTunnels now l e').1 = .ok packets → ∀ x ∈ packets, x.2.2.Quiet
  := by
  induction l generalizing e' with
  | nil =>
    refine ⟨hsends, ?_⟩
    rintro _ ⟨⟩
    exact List.forall_mem_nil _
  | cons x rest ih =>
    obtain ⟨h, r⟩ := x
    rw [dueOfTunnels]
    split
    · exact ih hsends
    split
    · exact ⟨hsends, nofun⟩
    next remote _ =>
    have hset : e.SendsQuiet (e'.setTunnel h r { r.tunnel with
        streams := r.tunnel.streams.map (fun _ s => (s.retransmitDue remote now).2) }) :=
      ⟨hsends.outbox, hsends.linkUp, hsends.nextTunnel⟩
    obtain ⟨hsends', hquiet⟩ := ih hset
    dsimp only
    split
    · next heq =>
      rw [heq] at hsends'
      exact ⟨hsends', nofun⟩
    · next packets e₁ heq =>
      rw [heq] at hsends' hquiet
      refine ⟨hsends', ?_⟩
      rintro _ ⟨⟩
      rw [List.forall_mem_append]
      refine ⟨?_, hquiet _ rfl⟩
      intro x hx
      obtain ⟨s, -, hx⟩ := List.mem_flatMap.mp hx
      obtain ⟨packet, hpacket, rfl⟩ := List.mem_map.mp hx
      exact GtsStream.quiet_retransmitDue hpacket

theorem sends_tick (e : Endpoint) (now : U64) :
  e.SendsQuiet (e.tick now).2
  := by
  obtain ⟨hdue, hquiet⟩ := @sends_dueOfTunnels now e.tunnels.toList _ _ (.refl e)
  rw [tick]
  generalize dueOfTunnels now e.tunnels.toList e = found at hdue hquiet
  obtain ⟨_ | packets, e₁⟩ := found
  · exact hdue
  · rw [snd_sendFound_ok]
    exact sends_sendPending hdue (hquiet packets rfl)

/-- What happens to the tunnels that are searched for what is due. -/
theorem dueOfTunnels_steps (now : U64) {l : List (U32 × TunnelRecord)} {e : Endpoint}
    (hl : ∀ x ∈ l, e.tunnels[x.1]? = some x.2) (hdistinct : l.Pairwise (fun x y => x.1 ≠ y.1))
    (k : U32) :
  (dueOfTunnels now l e).2.tunnels[k]? = e.tunnels[k]? ∨
    ∃ r t, (k, r) ∈ l ∧ r.tunnel.Steps t ∧
      (dueOfTunnels now l e).2.tunnels[k]? = some { r with tunnel := t }
  := by
  induction l generalizing e with
  | nil => exact .inl rfl
  | cons x rest ih =>
    obtain ⟨h, r⟩ := x
    obtain ⟨hr, hrest⟩ := List.forall_mem_cons.mp hl
    obtain ⟨hne, hdistinct⟩ := List.pairwise_cons.mp hdistinct
    rw [dueOfTunnels]
    split
    · refine (ih hrest hdistinct).imp_right ?_
      rintro ⟨r', t, hmem, hrest⟩
      exact ⟨r', t, List.mem_cons_of_mem _ hmem, hrest⟩
    split
    · exact .inl rfl
    next remote _ =>
    have hsteps := r.tunnel.related_map (R := GtsStream.Steps) (fun s => .retransmitDue remote now)
    let e₁ := e.setTunnel h r { r.tunnel with
      streams := r.tunnel.streams.map (fun _ s => (s.retransmitDue remote now).2) }
    have hget : ∀ k, e₁.tunnels[k]? = if h = k then some { r with tunnel := { r.tunnel with
        streams := r.tunnel.streams.map (fun _ s => (s.retransmitDue remote now).2) } }
        else e.tunnels[k]? :=
      fun k => TreeMap.getElem?_insert _ _ _ _
    have hrest₁ : ∀ x ∈ rest, e₁.tunnels[x.1]? = some x.2 := by
      intro x hx
      rw [hget, if_neg (hne x hx)]
      exact hrest x hx
    have hdue : (dueOfTunnels now rest e₁).2.tunnels[k]? = e.tunnels[k]? ∨
        ∃ r' t, (k, r') ∈ (h, r) :: rest ∧ r'.tunnel.Steps t ∧
          (dueOfTunnels now rest e₁).2.tunnels[k]? = some { r' with tunnel := t } := by
      obtain hsame | ⟨r', t, hmem, hrest'⟩ := ih hrest₁ hdistinct
      · rw [hsame, hget]
        split
        · next hk =>
          subst hk
          exact .inr ⟨r, _, List.mem_cons_self, hsteps, rfl⟩
        · exact .inl rfl
      · exact .inr ⟨r', t, List.mem_cons_of_mem _ hmem, hrest'⟩
    dsimp only
    split
    · next heq =>
      rw [heq] at hdue
      exact hdue
    · next heq =>
      rw [heq] at hdue
      exact hdue

/-- What happens to the tunnels when time passes. -/
theorem tick_steps (e : Endpoint) (now : U64) (k : U32) :
  (e.tick now).2.tunnels[k]? = e.tunnels[k]? ∨
    ∃ r t, e.tunnels[k]? = some r ∧ r.tunnel.Steps t ∧
      (e.tick now).2.tunnels[k]? = some { r with tunnel := t }
  := by
  have hl : ∀ x ∈ e.tunnels.toList, e.tunnels[x.1]? = some x.2 :=
    fun x hx => Std.ExtTreeMap.mem_toList_iff_getElem?_eq_some.mp hx
  have hdistinct : e.tunnels.toList.Pairwise (fun x y => x.1 ≠ y.1) := by
    refine Std.ExtTreeMap.distinct_keys_toList.imp ?_
    intro x y hne heq
    exact hne (heq ▸ Std.ReflCmp.compare_self)
  have hdue := dueOfTunnels_steps now hl hdistinct k
  have hdue' : (dueOfTunnels now e.tunnels.toList e).2.tunnels[k]? = e.tunnels[k]? ∨
      ∃ r t, e.tunnels[k]? = some r ∧ r.tunnel.Steps t ∧
        (dueOfTunnels now e.tunnels.toList e).2.tunnels[k]? = some { r with tunnel := t } := by
    refine hdue.imp_right ?_
    rintro ⟨r, t, hmem, hrest⟩
    exact ⟨r, t, hl _ hmem, hrest⟩
  have htunnels : (e.tick now).2.tunnels = (dueOfTunnels now e.tunnels.toList e).2.tunnels := by
    rw [tick]
    generalize dueOfTunnels now e.tunnels.toList e = found
    obtain ⟨_ | packets, e₁⟩ := found
    · rfl
    · rw [snd_sendFound_ok]
      apply tunnels_sendPending
  rw [htunnels]
  exact hdue'

/-! ### Any action -/

/-- What a packet does to the tunnel with a number. -/
theorem handleGts_effect (e : Endpoint) (src : GdpAddress) (sizeClass : SizeClass)
    (packet : GtsPacket) (k : U32) :
  e.TunnelEffect k (.receive src sizeClass packet) e.tunnels[k]?
    (e.handleGts src sizeClass packet).2.tunnels[k]?
  := by
  cases packet with
  | connect remoteId remoteReset profile credit css =>
    rw [handleGts]
    obtain htunnels | ⟨hlistens, localCredit, t, ht, htunnels⟩ :=
      e.tunnels_handleConnect src remoteId remoteReset profile credit css
    · rw [htunnels]
      apply TunnelEffect.unchanged
    · rw [htunnels, TreeMap.getElem?_insert]
      split
      · next hk => exact .accepts hk hlistens ht
      · apply TunnelEffect.unchanged
  | connectAck h remoteId remoteReset status credit =>
    refine (e.replaces_handleConnectAck h remoteId remoteReset status credit).effect ?_ k
    rintro r t ⟨rfl, ht⟩
    exact .establishes ht
  | streamOpen h id profile credit =>
    refine (e.replaces_handleStreamOpen h id profile credit).effect ?_ k
    rintro r t ⟨hid, localCredit, hadd⟩
    exact .opened hid hadd
  | streamAck h id status credit => exact (e.replaces_handleStreamAck h id status credit).of_steps.received rfl k
  | data h id seq data isEnd =>
    exact (e.replaces_handleData h sizeClass id (.data h id seq data isEnd)).of_steps.received rfl k
  | ack h id base bitmap credit =>
    exact (e.replaces_handleAck h sizeClass id base bitmap credit).of_steps.received rfl k
  | datagram h id seq data =>
    exact (e.replaces_handleDatagram h sizeClass id (.datagram h id seq data)).of_steps.received rfl k
  | streamClose h id finalSequence ack =>
    exact (e.replaces_handleStreamClose h sizeClass id finalSequence ack).of_steps.received rfl k
  | tunnelClose h ack =>
    refine (e.replaces_handleTunnelClose h ack).effect ?_ k
    rintro r _ ⟨hclosed, rfl⟩
    exact .closed hclosed
  | reset h resetId reason =>
    refine (e.replaces_handleReset h resetId).effect ?_ k
    rintro r _ ⟨rfl, rfl⟩
    exact .reset
  | streamReset h id reason ack =>
    have hreplaces := (e.replaces_handleStreamReset h id reason ack).imp (fun _ _ => ResetsStream.continues)
    exact hreplaces.received rfl k

/-- What an action does to the tunnel with a number. -/
theorem step_effect (e : Endpoint) (a : Action) (k : U32) :
  e.TunnelEffect k a e.tunnels[k]? (e.step a).tunnels[k]?
  := by
  cases a with
  | listen => apply TunnelEffect.unchanged
  | accept =>
    have haccept : e.accept.2.tunnels = e.tunnels := by
      rw [accept]
      split
      · rfl
      · rfl
    rw [step, haccept]
    apply TunnelEffect.unchanged
  | connect remote css profile =>
    rw [step]
    obtain htunnels | ⟨t, ht, htunnels⟩ := e.tunnels_connect remote css profile
    · rw [htunnels]
      apply TunnelEffect.unchanged
    · rw [htunnels, TreeMap.getElem?_insert]
      split
      · next hk => exact .connects hk ht
      · apply TunnelEffect.unchanged
  | openStream h profile => exact e.openStream_effect h profile k
  | send h id data now => exact (e.replaces_sendInner h id data false now).of_steps.continues rfl k
  | sendEnd h id data now => exact (e.replaces_sendInner h id data true now).of_steps.continues rfl k
  | recv h id => exact ((e.replaces_recv h id).imp continues_of_recv).continues rfl k
  | closeStream h id => exact (e.replaces_closeStream h id).of_steps.continues rfl k
  | resetStream h id reason =>
    have hreplaces := (e.replaces_resetStream h id reason).imp (fun _ _ => ResetsStream.continues)
    exact hreplaces.continues rfl k
  | closeTunnel h =>
    refine (e.replaces_closeTunnel h).effect ?_ k
    rintro r _ ⟨hclosed, rfl⟩
    exact .closing hclosed
  | resetTunnel h reason =>
    refine (e.replaces_resetTunnel h reason).effect ?_ k
    rintro r _ ⟨-, -, rfl⟩
    exact .resets
  | tick now =>
    rw [step]
    obtain hsame | ⟨r, t, hr, ht, hnew⟩ := e.tick_steps now k
    · rw [hsame]
      apply TunnelEffect.unchanged
    · rw [hnew, hr]
      exact .continues (fun _ hpacket => by cases hpacket) ht.continues
  | receive src sizeClass packet => exact e.handleGts_effect src sizeClass packet k
  | linkChanged => apply TunnelEffect.unchanged
  | assigned => apply TunnelEffect.unchanged
  | transmitted => apply TunnelEffect.unchanged

end Endpoint

end SmolGnet
