import SmolGnet.Endpoint.Actions
import SmolGnet.Library.Machine

/-!
# What a packet can reach

An endpoint finds the tunnel that a packet is for by the number in the packet, and does not look at the
address that the packet comes from.  A packet therefore changes no tunnel but the one it is addressed
to, and does not change whom that tunnel is with; a packet that resets a tunnel must know the number
for that as well.
-/

namespace SmolGnet

namespace Endpoint

variable {e : Endpoint} {h : U32}

/-- A tunnel that the packet asks for gets the number. -/
def GivesNumber (e : Endpoint) (h : U32) : GtsPacket → Prop
  | .connect .. => e.nextTunnel = h
  | _ => False

instance (e : Endpoint) (h : U32) (packet : GtsPacket) : Decidable (e.GivesNumber h packet) := by
  cases packet with
  | connect => exact inferInstanceAs (Decidable (_ = _))
  | _ => exact inferInstanceAs (Decidable False)

/-- The tunnel is between the same ends, whose numbers are known from the answer on. -/
structure SameEnds (r r' : TunnelRecord) : Prop where
  peer : r'.peer = r.peer
  role : r'.tunnel.role = r.tunnel.role
  css : r'.tunnel.css = r.tunnel.css
  localReceiveId : r'.tunnel.localReceiveId = r.tunnel.localReceiveId
  localResetId : r'.tunnel.localResetId = r.tunnel.localResetId
  remote : r.tunnel.state ≠ .connecting →
    r'.tunnel.remoteReceiveId = r.tunnel.remoteReceiveId ∧
      r'.tunnel.remoteResetId = r.tunnel.remoteResetId

namespace SameEnds

variable {r : TunnelRecord} {t : GtsTunnel}

theorem refl (r : TunnelRecord) :
  SameEnds r r
  := ⟨rfl, rfl, rfl, rfl, rfl, fun _ => ⟨rfl, rfl⟩⟩

theorem of_continues (ht : r.tunnel.Continues t) :
  SameEnds r { r with tunnel := t }
  := by
  rw [ht.rest]
  exact ⟨rfl, rfl, rfl, rfl, rfl, fun _ => ⟨rfl, rfl⟩⟩

theorem of_establishInitiator {remoteId remoteReset : U32} {credit : U8}
    (ht : r.tunnel.establishInitiator remoteId remoteReset credit = .ok t) :
  SameEnds r { r with tunnel := t }
  := by
  obtain ⟨hconnecting, hrest⟩ := GtsTunnel.continues_establishInitiator ht
  rw [hrest.rest]
  exact ⟨rfl, rfl, rfl, rfl, rfl, fun h => absurd hconnecting h⟩

theorem of_addStream {id : U8} {profile : StreamProfile} {openedByLocal : Bool}
    {localCredit peerCredit : U8}
    (ht : r.tunnel.addStream id profile openedByLocal localCredit peerCredit = .ok t) :
  SameEnds r { r with tunnel := t }
  := by
  rw [GtsTunnel.addStream] at ht
  split at ht
  · cases ht
  obtain ⟨s, -, ht⟩ := bind_eq_ok.mp ht
  cases ht
  exact ⟨rfl, rfl, rfl, rfl, rfl, fun _ => ⟨rfl, rfl⟩⟩

end SameEnds

/-- What a packet leaves of a tunnel. -/
theorem sameEnds_of_handleGts {r : TunnelRecord} (hr : e.tunnels[h]? = some r) (src : GdpAddress)
    (sizeClass : SizeClass) {packet : GtsPacket} (hconnect : ¬ e.GivesNumber h packet) :
  ∃ r', (e.handleGts src sizeClass packet).2.tunnels[h]? = some r' ∧ SameEnds r r'
  := by
  have heffect := e.handleGts_effect src sizeClass packet h
  rw [hr] at heffect
  generalize (e.handleGts src sizeClass packet).2.tunnels[h]? = x at heffect
  cases heffect with
  | unchanged => exact ⟨r, rfl, .refl r⟩
  | continues _ ht => exact ⟨_, rfl, .of_continues ht⟩
  | accepts hnext => exact absurd hnext hconnect
  | establishes ht => exact ⟨_, rfl, .of_establishInitiator ht⟩
  | opened _ hadd => exact ⟨_, rfl, .of_addStream hadd⟩
  | closed => exact ⟨_, rfl, rfl, rfl, rfl, rfl, rfl, fun _ => ⟨rfl, rfl⟩⟩
  | reset => exact ⟨_, rfl, rfl, rfl, rfl, rfl, rfl, fun _ => ⟨rfl, rfl⟩⟩

/-- A packet for another tunnel changes nothing. -/
theorem tunnel_of_not_addressed (src : GdpAddress) (sizeClass : SizeClass) {packet : GtsPacket}
    (haddressed : packet.receiveTunnel ≠ some h) (hconnect : ¬ e.GivesNumber h packet) :
  (e.handleGts src sizeClass packet).2.tunnels[h]? = e.tunnels[h]?
  := by
  have heffect := e.handleGts_effect src sizeClass packet h
  generalize (e.handleGts src sizeClass packet).2.tunnels[h]? = x at heffect
  generalize e.tunnels[h]? = y at heffect
  cases heffect with
  | unchanged => rfl
  | continues hreceived => exact absurd (hreceived packet rfl) haddressed
  | accepts hnext => exact absurd hnext hconnect
  | establishes => exact absurd rfl haddressed
  | opened => exact absurd rfl haddressed
  | closed => exact absurd rfl haddressed
  | reset => exact absurd rfl haddressed

/-- A reset with another number changes nothing. -/
theorem tunnel_of_wrong_reset {r : TunnelRecord} (hr : e.tunnels[h]? = some r) (src : GdpAddress)
    (sizeClass : SizeClass) {resetId : U32} (reason : U8)
    (hreset : resetId ≠ r.tunnel.localResetId) :
  (e.handleGts src sizeClass (.reset h resetId reason)).2.tunnels[h]? = some r
  := by
  have hrecord : e.record h = .ok r := record_of_getElem? hr
  rw [handleGts, handleReset, hrecord]
  dsimp only
  rw [if_pos hreset]
  exact hr

/-! ### Runs -/

/-- Every tunnel is kept under the number by which the other end addresses it. -/
def Numbered (e : Endpoint) : Prop :=
  ∀ (h : U32) r, e.tunnels[h]? = some r → r.tunnel.localReceiveId = h

theorem Numbered.step (hnumbered : e.Numbered) (a : Action) :
  (e.step a).Numbered
  := by
  intro h r' hr'
  have heffect := e.step_effect a h
  rw [hr'] at heffect
  generalize hx : e.tunnels[h]? = x at heffect
  cases heffect with
  | unchanged => exact hnumbered h r' hx
  | continues _ ht => exact (SameEnds.of_continues ht).localReceiveId.trans (hnumbered h _ hx)
  | connects hnext ht =>
    obtain ⟨s, -, ht⟩ := bind_eq_ok.mp ht
    cases ht
    exact hnext
  | accepts hnext _ ht =>
    obtain ⟨s, -, ht⟩ := bind_eq_ok.mp ht
    cases ht
    exact hnext
  | establishes ht =>
    exact (SameEnds.of_establishInitiator ht).localReceiveId.trans (hnumbered h _ hx)
  | @opens _ r id t t' halloc hadd =>
    have halloc' : t.localReceiveId = r.tunnel.localReceiveId := by
      rw [GtsTunnel.allocStreamId] at halloc
      split at halloc
      · cases halloc
      split at halloc
      · cases halloc
      cases halloc
      rfl
    have ht : t.localReceiveId = h := halloc'.trans (hnumbered h r hx)
    obtain rfl | ⟨t₁, hadd, rfl⟩ := hadd
    · exact ht
    · have hends := SameEnds.of_addStream (r := { r with tunnel := t }) hadd
      exact hends.localReceiveId.trans ht
  | opened _ hadd => exact (SameEnds.of_addStream hadd).localReceiveId.trans (hnumbered h _ hx)
  | @closing r _ => exact hnumbered h r hx
  | @closed _ _ _ r _ => exact hnumbered h r hx
  | @resets _ r => exact hnumbered h r hx
  | @reset _ _ _ r => exact hnumbered h r hx

/-- Whoever sends a packet, it changes only the tunnel that it is addressed to by number, and not whom
the tunnel is with; a reset needs the number for resets as well. -/
theorem packet_confined {address : GdpAddress} {gtsReceiveSlots : U8} {e₀ : Endpoint}
    (hnew : new address gtsReceiveSlots = .ok e₀) (as : List Action) {r : TunnelRecord}
    (hr : (Machine.run step e₀ as).tunnels[h]? = some r) (src : GdpAddress) (sizeClass : SizeClass)
    (packet : GtsPacket) (hconnect : ¬ (Machine.run step e₀ as).GivesNumber h packet) :
  let e' := ((Machine.run step e₀ as).handleGts src sizeClass packet).2
  r.tunnel.localReceiveId = h ∧
    (packet.receiveTunnel ≠ some h → e'.tunnels[h]? = some r) ∧
    (∀ resetId reason, packet = .reset h resetId reason → resetId ≠ r.tunnel.localResetId →
      e'.tunnels[h]? = some r) ∧
    ∃ r', e'.tunnels[h]? = some r' ∧ SameEnds r r'
  := by
  have hempty : e₀.Numbered := by
    rw [new] at hnew
    split at hnew
    · cases hnew
    · cases hnew
      intro h r hr
      rw [Std.ExtTreeMap.getElem?_empty] at hr
      cases hr
  have hnumbered := Machine.invariant_run (P := Numbered) (fun e a he => he.step a) hempty as
  refine ⟨hnumbered h r hr, ?_, ?_, sameEnds_of_handleGts hr src sizeClass hconnect⟩
  · intro haddressed
    rw [tunnel_of_not_addressed src sizeClass haddressed hconnect]
    exact hr
  · rintro resetId reason rfl hreset
    exact tunnel_of_wrong_reset hr src sizeClass reason hreset

/-- Two tunnels are open; a stranger resets a stream of the first, and the second stays as it is. -/
theorem packet_confined_stranger :
  let css : ServiceSelector := ⟨List.replicate 16 1#8, rfl⟩
  let profile : StreamProfile := ⟨false, true, false, false, .bidirectional, .msg128⟩
  let as : List Action := [.connect ⟨2#64⟩ css profile, .connect ⟨2#64⟩ css profile]
  ∃ e₀, new ⟨1#64⟩ 4#8 = .ok e₀ ∧
    ∃ r, (Machine.run step e₀ as).tunnels[2#32]? = some r ∧
      ((Machine.run step e₀ as).handleGts ⟨3#64⟩ .ctrl32 (.streamReset 1#32 0#8 0#8 true)).2.tunnels[2#32]?
        = some r
  := by
  intro css profile as
  obtain ⟨e₀, he₀⟩ : ∃ e₀, new ⟨1#64⟩ 4#8 = .ok e₀ := ⟨_, rfl⟩
  obtain ⟨r, hr⟩ : ∃ r, (Machine.run step e₀ as).tunnels[2#32]? = some r := by
    cases he₀
    exact ⟨_, rfl⟩
  have hconfined := packet_confined he₀ as hr ⟨3#64⟩ .ctrl32 (.streamReset 1#32 0#8 0#8 true) id
  exact ⟨e₀, he₀, r, hr, hconfined.2.1 (by decide)⟩

/-- A tunnel to one endpoint is established, and a packet from another endpoint resets its stream. -/
theorem stranger_resets_stream :
  let css : ServiceSelector := ⟨List.replicate 16 1#8, rfl⟩
  let profile : StreamProfile := ⟨false, true, false, false, .bidirectional, .msg128⟩
  let as : List Action :=
    [.connect ⟨2#64⟩ css profile, .receive ⟨2#64⟩ .ctrl32 (.connectAck 1#32 7#32 8#32 0#8 4#8)]
  ∃ e₀, new ⟨1#64⟩ 4#8 = .ok e₀ ∧
    ∃ r ∈ (Machine.run step e₀ as).tunnels[1#32]?, r.peer ≠ ⟨3#64⟩ ∧
      ∃ r' ∈ ((Machine.run step e₀ as).handleGts ⟨3#64⟩ .ctrl32
          (.streamReset 1#32 0#8 0#8 true)).2.tunnels[1#32]?,
        r'.tunnel.streams[0#8]? ≠ r.tunnel.streams[0#8]?
  := by
  intro css profile as
  refine ⟨_, rfl, ?_⟩
  decide +kernel

end Endpoint

end SmolGnet
