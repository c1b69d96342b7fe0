import SmolGnet.Dlp.Carry
import SmolGnet.Endpoint.Actions
import SmolGnet.Endpoint.Sizes
import SmolGnet.Routing.RouteTable

/-!
# When an endpoint has work to do

An endpoint has tunnels, a link and a table of routes.  `tickAt` removes the routes that have expired
and sends the messages again that are due; `pollAt` says when that is to be done next.  It takes the
first time at which a route expires, but only the time that is set for an acknowledgement, counted
from now, and not the times at which the messages have been sent.

So a message that was sent before is due before the time it says, and a route that expires just now is
not removed yet.  The schedule fits the work exactly in the states in which neither matters.
-/

namespace SmolGnet

/-- The number of routes an endpoint can have. -/
def endpointRouteCapacity : ℕ := 8

/-- The greatest `usize`. -/
def usizeMax : ℕ := 2 ^ 64 - 1

/-- An endpoint with its tunnels, its link and its routes. -/
structure RoutedEndpoint where
  transport : Endpoint
  link : LinkedEndpoint .silent
  routes : RouteTable endpointRouteCapacity

namespace RoutedEndpoint

/-- Queue a packet of the transport on the link. -/
def sendGts (e : RoutedEndpoint) (remote : GdpAddress) (packet : GtsPacket)
    (profile : Option StreamProfile) : Except Error Unit × RoutedEndpoint :=
  ((e.link.sendGtsPacket remote packet profile).1,
    { e with link := (e.link.sendGtsPacket remote packet profile).2 })

/-- Send again what is due; the result is the number of packets. -/
def tick (e : RoutedEndpoint) (now : U64) : Except Error ℕ × RoutedEndpoint :=
  let due := Endpoint.dueOfTunnels now e.transport.tunnels.toList e.transport
  sendFound sendGts (due.1, { e with transport := due.2 })

/-- Remove the routes that have expired, and send again what is due. -/
def tickAt (e : RoutedEndpoint) (now : Instant) : Except Error ℕ × RoutedEndpoint :=
  let (pruned, routes) := e.routes.pruneExpired now
  match tick { e with routes } now.millis with
  | (.error err, e) => (.error err, e)
  | (.ok transportWork, e) => (.ok (min (transportWork + pruned) usizeMax), e)

/-- When there is work to do. -/
def pollAt (e : RoutedEndpoint) (now : Instant) : PollAt :=
  if e.link.dlp.queuedFlits ≠ 0 then .now
  else
    let transportDeadline := now.add ⟨defaultRtoMs⟩
    match e.routes.nextExpiry with
    | some expiry =>
      if expiry ≤ now then .now
      else if expiry < transportDeadline then .time expiry
      else .time transportDeadline
    | none => .time transportDeadline

end RoutedEndpoint

/-! ### What is due -/

namespace ReliableTx

/-- The time from which on a message is due. -/
def dueAt (tx : ReliableTx) (p : PendingTx) : ℕ :=
  if tx.rtoMs = 0#64 then 0 else p.sentAt.toNat + tx.rtoMs.toNat

theorem isDue_iff {tx : ReliableTx} {now : U64} {p : PendingTx} :
  tx.isDue now p = true ↔ tx.dueAt p ≤ now.toNat
  := by
  rw [isDue, decide_eq_true_eq, dueAt, BitVec.le_def, toNat_saturatingSub]
  split
  · next h => simp [h]
  · next h =>
    have hpos : tx.rtoMs.toNat ≠ 0 := fun hzero => h (BitVec.eq_of_toNat_eq hzero)
    omega

/-- Nothing is due before the first of the times. -/
theorem due_eq_nil_iff {tx : ReliableTx} {now : U64} :
  (tx.due now).1 = [] ↔ ∀ p ∈ tx.outstanding.values, now.toNat < tx.dueAt p
  := by
  simp only [due, List.filterMap_eq_nil_iff, ite_eq_right_iff, reduceCtorEq, imp_false, isDue_iff,
    Nat.not_le, TreeMap.values_eq_map_toList, List.forall_mem_map]

end ReliableTx

/-- The times from which on the messages of a stream are due. -/
def GtsStream.dueTimes (s : GtsStream) : List ℕ :=
  match s.reliableTx with
  | none => []
  | some tx => tx.outstanding.values.map tx.dueAt

theorem GtsStream.retransmitDue_eq_nil_iff {s : GtsStream} {tunnelId : U32} {now : U64} :
  (s.retransmitDue tunnelId now).1 = [] ↔ ∀ d ∈ s.dueTimes, now.toNat < d
  := by
  rw [retransmitDue, dueTimes]
  cases s.reliableTx with
  | none => exact iff_of_true rfl (by simp)
  | some tx => rw [List.map_eq_nil_iff, ReliableTx.due_eq_nil_iff, List.forall_mem_map]

/-- If the tunnel is established, the other end is known. -/
def GtsTunnel.Known (t : GtsTunnel) : Prop :=
  t.state = .established → t.remoteReceiveId.isSome

namespace Endpoint

/-- The times from which on the messages of a tunnel are due. -/
def tunnelDueTimes (r : TunnelRecord) : List ℕ :=
  if r.tunnel.state = .established then r.tunnel.streams.values.flatMap GtsStream.dueTimes else []

/-- The times from which on the messages that have not been acknowledged are due. -/
def dueTimes (e : Endpoint) : List ℕ :=
  e.tunnels.values.flatMap tunnelDueTimes

/-- The packets of a tunnel that are due, if it is established. -/
def tunnelDuePackets (now : U64) (r : TunnelRecord) :
    List (GdpAddress × StreamProfile × GtsPacket) :=
  match r.tunnel.remoteReceiveId with
  | none => []
  | some remote => if r.tunnel.state = .established then dueOfTunnel r remote now else []

/-- The packets that are due. -/
def duePackets (e : Endpoint) (now : U64) : List (GdpAddress × StreamProfile × GtsPacket) :=
  e.tunnels.values.flatMap (tunnelDuePackets now)

theorem tunnelDuePackets_eq_nil_iff {r : TunnelRecord} (h : r.tunnel.Known) {now : U64} :
  tunnelDuePackets now r = [] ↔ ∀ d ∈ tunnelDueTimes r, now.toNat < d
  := by
  rw [tunnelDuePackets, tunnelDueTimes]
  by_cases hstate : r.tunnel.state = .established
  · obtain ⟨remote, hremote⟩ := Option.isSome_iff_exists.mp (h hstate)
    rw [hremote, if_pos hstate]
    dsimp only
    rw [if_pos hstate, dueOfTunnel, List.flatMap_eq_nil_iff]
    simp only [List.map_eq_nil_iff, GtsStream.retransmitDue_eq_nil_iff, List.mem_flatMap]
    constructor
    · rintro h d ⟨s, hs, hd⟩
      exact h s hs d hd
    · intro h s hs d hd
      exact h d ⟨s, hs, hd⟩
  · rw [if_neg hstate]
    refine iff_of_true ?_ nofun
    split
    · rfl
    · exact if_neg hstate

/-- No packet is due before the first of the times. -/
theorem duePackets_eq_nil_iff {e : Endpoint} (h : ∀ r ∈ e.tunnels.values, r.tunnel.Known) {now : U64} :
  e.duePackets now = [] ↔ ∀ d ∈ e.dueTimes, now.toNat < d
  := by
  rw [duePackets, List.flatMap_eq_nil_iff, dueTimes]
  simp only [List.mem_flatMap]
  constructor
  · rintro hnil d ⟨r, hr, hd⟩
    exact (tunnelDuePackets_eq_nil_iff (h r hr)).mp (hnil r hr) d hd
  · intro hall r hr
    rw [tunnelDuePackets_eq_nil_iff (h r hr)]
    intro d hd
    exact hall d ⟨r, hr, hd⟩

/-- The search finds the packets that are due. -/
theorem fst_dueOfTunnels {now : U64} {l : List (U32 × TunnelRecord)} (h : ∀ x ∈ l, x.2.tunnel.Known)
    (e : Endpoint) :
  (dueOfTunnels now l e).1 = .ok (l.flatMap (fun x => tunnelDuePackets now x.2))
  := by
  induction l generalizing e with
  | nil => rfl
  | cons x rest ih =>
    obtain ⟨hx, hrest⟩ := List.forall_mem_cons.mp h
    obtain ⟨k, r⟩ := x
    rw [dueOfTunnels, List.flatMap_cons, tunnelDuePackets]
    by_cases hstate : r.tunnel.state = .established
    · obtain ⟨remote, hremote⟩ := Option.isSome_iff_exists.mp (hx hstate)
      have hid : r.tunnel.remoteId = .ok remote := by rw [GtsTunnel.remoteId, hremote]
      rw [if_neg (not_not.mpr hstate), hid, hremote]
      dsimp only
      rw [if_pos hstate]
      have hfound := ih hrest (e.setTunnel k r { r.tunnel with
        streams := r.tunnel.streams.map (fun _ s => (s.retransmitDue remote now).2) })
      split
      · next heq =>
        rw [heq] at hfound
        cases hfound
      · next heq =>
        rw [heq] at hfound
        cases hfound
        rfl
    · rw [if_pos hstate, ih hrest e]
      congr 1
      split
      · rfl
      · rw [if_neg hstate, List.nil_append]

theorem fst_dueOfTunnels_toList {e : Endpoint} (h : ∀ r ∈ e.tunnels.values, r.tunnel.Known) (now : U64) :
  (dueOfTunnels now e.tunnels.toList e).1 = .ok (e.duePackets now)
  := by
  rw [TreeMap.values_eq_map_toList, List.forall_mem_map] at h
  rw [fst_dueOfTunnels h, duePackets, TreeMap.values_eq_map_toList, List.flatMap_map]

/-! ### Established tunnels -/

/-- A tunnel that has not been established anew has the other end it had. -/
theorem known_of_keeps {t t' : GtsTunnel} (hkeeps : t.Keeps t') (h : t.Known) :
  t'.Known
  := by
  intro hstate
  rw [hkeeps.remoteReceiveId]
  exact h (hkeeps.established hstate)

theorem known_of_addStream {t t' : GtsTunnel} {id : U8} {profile : StreamProfile}
    {openedByLocal : Bool} {localCredit peerCredit : U8}
    (hadd : t.addStream id profile openedByLocal localCredit peerCredit = .ok t') (h : t.Known) :
  t'.Known
  := by
  obtain ⟨-, -, s, -, -, rfl⟩ := GtsTunnel.addStream_eq_ok hadd
  exact h

/-- No action leaves an established tunnel without another end. -/
theorem TunnelEffect.known {e : Endpoint} {h : U32} {a : Action} {x y : Option TunnelRecord}
    (heffect : e.TunnelEffect h a x y) (hx : ∀ r ∈ x, r.tunnel.Known) :
  ∀ r ∈ y, r.tunnel.Known
  := by
  cases heffect with
  | unchanged => exact hx
  | continues _ ht =>
    rintro _ ⟨⟩
    exact known_of_keeps ht.keeps (hx _ rfl)
  | connects _ ht =>
    rintro _ ⟨⟩
    obtain ⟨s, -, ht⟩ := bind_eq_ok.mp ht
    cases ht
    exact nofun
  | accepts _ _ ht =>
    rintro _ ⟨⟩ _
    obtain ⟨-, -, -, -, hremote⟩ := GtsTunnel.responder_eq_ok ht
    rw [hremote]
    rfl
  | establishes ht =>
    rintro _ ⟨⟩ _
    obtain ⟨-, hcontinues⟩ := GtsTunnel.continues_establishInitiator ht
    rw [hcontinues.rest]
    rfl
  | @opens _ r _ _ _ halloc hadd =>
    rintro _ ⟨⟩
    obtain ⟨-, -, -, rfl⟩ := GtsTunnel.allocStreamId_eq_ok halloc
    have hr : r.tunnel.Known := hx r rfl
    obtain rfl | ⟨t₁, hadd, rfl⟩ := hadd
    · exact hr
    · have ht₁ : t₁.Known := known_of_addStream hadd hr
      exact ht₁
  | opened _ hadd =>
    rintro _ ⟨⟩
    exact known_of_addStream hadd (hx _ rfl)
  | closing _ =>
    rintro _ ⟨⟩
    exact nofun
  | closed _ =>
    rintro _ ⟨⟩
    exact nofun
  | resets =>
    rintro _ ⟨⟩
    exact nofun
  | reset =>
    rintro _ ⟨⟩
    exact nofun

/-- In every run from a new endpoint the other ends of the established tunnels are known. -/
theorem known_run {address : GdpAddress} {slots : U8} {e : Endpoint}
    (hnew : Endpoint.new address slots = .ok e) (actions : List Action) :
  ∀ r ∈ (Machine.run step e actions).tunnels.values, r.tunnel.Known
  := by
  have hempty : ∀ k : U32, ∀ r ∈ e.tunnels[k]?, r.tunnel.Known := by
    rw [Endpoint.new] at hnew
    split at hnew
    · cases hnew
    · cases hnew
      intro k r hr
      rw [Std.ExtTreeMap.getElem?_empty] at hr
      cases hr
  have hstep : ∀ (e : Endpoint) (a : Action), (∀ k : U32, ∀ r ∈ e.tunnels[k]?, r.tunnel.Known) →
      ∀ k : U32, ∀ r ∈ (e.step a).tunnels[k]?, r.tunnel.Known :=
    fun e a he k => (e.step_effect a k).known (he k)
  have hrun := Machine.invariant_run hstep hempty actions
  intro r hr
  obtain ⟨k, hk⟩ := TreeMap.mem_values_iff.mp hr
  exact hrun k r hk

end Endpoint

/-! ### What can be queued -/

namespace DlpEndpoint

/-- A data packet is queued on a data channel only. -/
theorem traffic_of_queueDataPacket {e e' : DlpEndpoint} {packet : GdpPacket} {n : ℕ}
    (h : e.queueDataPacket packet = (.ok n, e')) :
  e.nextDataVc.traffic = .data ∧ e.nextDataVc.val < e.vcMode.count
  := by
  rw [queueDataPacket, chooseDataVc] at h
  dsimp only at h
  split at h
  · next hqueue =>
    obtain ⟨-, hlt, ht, -⟩ := queuePacketOn_spec hqueue
    exact ⟨ht, hlt⟩
  · cases h

/-- A packet that is queued leaves the link as it was for other packets. -/
theorem fst_queueDataPacket {e e' : DlpEndpoint} {packet : GdpPacket} {n : ℕ}
    (h : e.queueDataPacket packet = (.ok n, e')) (other : GdpPacket) :
  (e'.queueDataPacket other).1 = (e.queueDataPacket other).1
  := by
  obtain ⟨htraffic, hlt⟩ := traffic_of_queueDataPacket h
  have heq := queueDataPacket_eq htraffic hlt packet
  rw [h] at heq
  split at heq
  · split at heq
    · cases heq
    · cases heq
      obtain ⟨htraffic', hlt'⟩ := succDataVc_spec e.vcMode e.nextDataVc
      rw [queueDataPacket_eq htraffic' hlt' other, queueDataPacket_eq htraffic hlt other]
      cases e.linkUp with
      | false => rfl
      | true => cases other.encode e.cfg <;> rfl
  · cases heq

end DlpEndpoint

/-- A payload that is queued leaves the endpoint as it was for other payloads. -/
theorem LinkedEndpoint.fst_sendGts {T : Transport} {e e' : LinkedEndpoint T} {x : GtsSend}
    (h : e.sendGts x = (.ok (), e')) :
  e'.primaryAddress = e.primaryAddress ∧ ∀ y, (e'.sendGts y).1 = (e.sendGts y).1
  := by
  rw [sendGts] at h
  split at h
  · cases h
  next packet _ =>
  split at h
  · cases h
  · next n dlp hqueue =>
    cases h
    refine ⟨rfl, ?_⟩
    intro y
    have hpacket : ({ e with dlp } : LinkedEndpoint T).gtsPacket y = e.gtsPacket y := rfl
    rw [sendGts, sendGts, hpacket]
    cases e.gtsPacket y with
    | error err => rfl
    | ok other =>
      have hother := DlpEndpoint.fst_queueDataPacket hqueue other
      dsimp only
      rcases hleft : dlp.queueDataPacket other with ⟨_ | _, _⟩ <;>
        rcases hright : e.dlp.queueDataPacket other with ⟨_ | _, _⟩ <;>
        rw [hleft, hright] at hother
      · cases hother
        rfl
      · cases hother
      · cases hother

/-- A packet that is queued leaves the endpoint as it was for other packets. -/
theorem LinkedEndpoint.fst_sendGtsPacket {T : Transport} {e e' : LinkedEndpoint T}
    {remote : GdpAddress} {packet : GtsPacket} {profile : Option StreamProfile}
    (h : e.sendGtsPacket remote packet profile = (.ok (), e')) (remote' : GdpAddress)
    (packet' : GtsPacket) (profile' : Option StreamProfile) :
  (e'.sendGtsPacket remote' packet' profile').1 = (e.sendGtsPacket remote' packet' profile').1
  := by
  rw [sendGtsPacket] at h
  split at h
  · cases h
  dsimp only at h
  split at h
  · cases h
  obtain ⟨haddress, hsend⟩ := fst_sendGts h
  rw [sendGtsPacket, sendGtsPacket, haddress]
  split
  · rfl
  dsimp only
  split
  · rfl
  · apply hsend

namespace RoutedEndpoint

/-- The packet can be queued. -/
def CanSend (e : RoutedEndpoint) (x : GdpAddress × StreamProfile × GtsPacket) : Prop :=
  (e.sendGts x.1 x.2.2 (some x.2.1)).1 = .ok ()

instance (e : RoutedEndpoint) (x : GdpAddress × StreamProfile × GtsPacket) : Decidable (e.CanSend x) :=
  inferInstanceAs (Decidable (_ = _))

/-- A packet that is queued leaves the endpoint as it was for other packets. -/
theorem canSend_of_sendGts {e e' : RoutedEndpoint} {remote : GdpAddress} {packet : GtsPacket}
    {profile : Option StreamProfile} (h : e.sendGts remote packet profile = (.ok (), e'))
    (x : GdpAddress × StreamProfile × GtsPacket) :
  e'.CanSend x ↔ e.CanSend x
  := by
  obtain ⟨hok, rfl⟩ := Prod.mk.inj h
  have hsend := LinkedEndpoint.fst_sendGtsPacket (Prod.ext hok rfl) x.1 x.2.2 (some x.2.1)
  rw [CanSend, CanSend, sendGts, sendGts, hsend]

/-- Packets are queued exactly when each of them can be queued. -/
theorem sendEach_eq_ok_iff (packets : List (GdpAddress × StreamProfile × GtsPacket))
    (e : RoutedEndpoint) :
  (sendEach sendGts packets e).1 = .ok () ↔ ∀ x ∈ packets, e.CanSend x
  := by
  induction packets generalizing e with
  | nil => exact iff_of_true rfl (List.forall_mem_nil _)
  | cons x rest ih =>
    obtain ⟨peer, profile, packet⟩ := x
    have hfirst : e.CanSend (peer, profile, packet) ↔
        (e.sendGts peer packet (some profile)).1 = .ok () := Iff.rfl
    rw [sendEach, List.forall_mem_cons, hfirst]
    rcases hsend : e.sendGts peer packet (some profile) with ⟨_ | _, e'⟩
    · simp only [reduceCtorEq, false_and]
    · simp only [ih, canSend_of_sendGts hsend, true_and]

/-! ### The work that is done -/

variable {e : RoutedEndpoint}

/-- The messages that are due are sent again, if all of them can be queued. -/
theorem tick_eq_ok_iff (hknown : ∀ r ∈ e.transport.tunnels.values, r.tunnel.Known) {now : U64}
    {n : ℕ} :
  (e.tick now).1 = .ok n ↔
    (∀ x ∈ e.transport.duePackets now, e.CanSend x) ∧ n = (e.transport.duePackets now).length
  := by
  have hfound := Endpoint.fst_dueOfTunnels_toList hknown now
  rw [tick]
  generalize Endpoint.dueOfTunnels now e.transport.tunnels.toList e.transport = due at hfound
  rw [hfound, fst_sendFound_ok_iff, sendEach_eq_ok_iff]
  exact Iff.rfl

/-- The routes that have expired are removed as well. -/
theorem tickAt_eq_ok_iff (hknown : ∀ r ∈ e.transport.tunnels.values, r.tunnel.Known) {now : Instant}
    {n : ℕ} :
  (e.tickAt now).1 = .ok n ↔
    (∀ x ∈ e.transport.duePackets now.millis, e.CanSend x) ∧
      n = min ((e.transport.duePackets now.millis).length + (e.routes.pruneExpired now).1) usizeMax
  := by
  have htick := @tick_eq_ok_iff { e with routes := (e.routes.pruneExpired now).2 } hknown now.millis
  have hroutes : ∀ x, CanSend { e with routes := (e.routes.pruneExpired now).2 } x ↔ e.CanSend x :=
    fun _ => Iff.rfl
  simp only [hroutes] at htick
  rw [tickAt]
  rcases hwork : tick { e with routes := (e.routes.pruneExpired now).2 } now.millis with
    ⟨err | work, e'⟩
  · rw [hwork] at htick
    simp only [hwork]
    exact iff_of_false nofun (fun h => nomatch htick.mpr ⟨h.1, rfl⟩)
  · rw [hwork] at htick
    obtain ⟨hsend, rfl⟩ := htick.mp rfl
    simp only [hwork]
    constructor
    · intro h
      cases h
      exact ⟨hsend, rfl⟩
    · rintro ⟨-, rfl⟩
      rfl

/-- There is nothing to do when no message is due and no route has expired. -/
theorem tickAt_eq_ok_zero_iff (hknown : ∀ r ∈ e.transport.tunnels.values, r.tunnel.Known)
    {now : Instant} :
  (e.tickAt now).1 = .ok 0 ↔
    (∀ d ∈ e.transport.dueTimes, now.millis.toNat < d) ∧
      ∀ expiry, e.routes.nextExpiry = some expiry → now ≤ expiry
  := by
  have hpos : 0 < usizeMax := by decide
  rw [tickAt_eq_ok_iff hknown, ← Endpoint.duePackets_eq_nil_iff hknown,
    ← RouteTable.pruneExpired_eq_zero_iff, ← List.length_eq_zero_iff]
  constructor
  · rintro ⟨-, hzero⟩
    omega
  · rintro ⟨hdue, hpruned⟩
    constructor
    · rw [List.length_eq_zero_iff.mp hdue]
      exact List.forall_mem_nil _
    · omega

/-- Something is done when a message is due or a route has expired, and the messages can be sent. -/
theorem tickAt_pos_iff (hknown : ∀ r ∈ e.transport.tunnels.values, r.tunnel.Known) {now : Instant} :
  (∃ n, 0 < n ∧ (e.tickAt now).1 = .ok n) ↔
    (∀ x ∈ e.transport.duePackets now.millis, e.CanSend x) ∧
      ((∃ d ∈ e.transport.dueTimes, d ≤ now.millis.toNat) ∨
        ∃ expiry, e.routes.nextExpiry = some expiry ∧ expiry < now)
  := by
  have hzero := @tickAt_eq_ok_zero_iff e hknown now
  have hexists : (∃ n, 0 < n ∧ (e.tickAt now).1 = .ok n) ↔
      (∀ x ∈ e.transport.duePackets now.millis, e.CanSend x) ∧ (e.tickAt now).1 ≠ .ok 0 := by
    constructor
    · rintro ⟨n, hpos, hn⟩
      refine ⟨((tickAt_eq_ok_iff hknown).mp hn).1, ?_⟩
      rw [hn]
      rintro ⟨⟩
      exact Nat.lt_irrefl 0 hpos
    · rintro ⟨hsend, hne⟩
      have hn := (tickAt_eq_ok_iff hknown).mpr ⟨hsend, rfl⟩
      refine ⟨_, ?_, hn⟩
      apply Nat.pos_of_ne_zero
      intro hzero
      rw [hzero] at hn
      exact hne hn
  rw [hexists, Ne, hzero, not_and_or]
  simp only [not_forall, Nat.not_lt, exists_prop, Instant.le_def, Instant.lt_def, Nat.not_le]

/-! ### The schedule -/

/-- The time that is set for an acknowledgement, from now on. -/
def transportDeadline (now : Instant) : Instant :=
  now.add ⟨defaultRtoMs⟩

/-- There is work to do now when the first route to expire does. -/
theorem pollAt_eq_now_iff (hqueue : e.link.dlp.queuedFlits = 0) {now : Instant} :
  e.pollAt now = .now ↔ ∃ expiry, e.routes.nextExpiry = some expiry ∧ expiry ≤ now
  := by
  rw [pollAt, if_neg (not_not.mpr hqueue)]
  cases e.routes.nextExpiry with
  | none => simp
  | some expiry =>
    dsimp only
    split
    · next hle => exact iff_of_true rfl ⟨expiry, rfl, hle⟩
    · next hlt =>
      refine iff_of_false ?_ ?_
      · split <;> exact nofun
      · rintro ⟨_, ⟨⟩, hle⟩
        exact hlt hle

/-- Otherwise there is when it does, or when the time for an acknowledgement has passed. -/
theorem exists_pollAt_eq_time (hqueue : e.link.dlp.queuedFlits = 0) {now : Instant}
    (hlater : ∀ expiry, e.routes.nextExpiry = some expiry → now < expiry) :
  ∃ t, e.pollAt now = .time t ∧ t ≤ transportDeadline now ∧
    (∀ expiry, e.routes.nextExpiry = some expiry → t ≤ expiry) ∧
    (t = transportDeadline now ∨ e.routes.nextExpiry = some t)
  := by
  rw [pollAt, if_neg (not_not.mpr hqueue)]
  cases hnext : e.routes.nextExpiry with
  | none => exact ⟨_, rfl, Nat.le_refl _, nofun, .inl rfl⟩
  | some expiry =>
    have hlt := hlater expiry hnext
    dsimp only
    rw [if_neg (Instant.not_le.mpr hlt)]
    split
    · next hbefore =>
      refine ⟨expiry, rfl, Nat.le_of_lt hbefore, ?_, .inr rfl⟩
      rintro _ ⟨⟩
      exact Nat.le_refl _
    · next hafter =>
      refine ⟨_, rfl, Nat.le_refl _, ?_, .inl rfl⟩
      rintro _ ⟨⟩
      exact Nat.not_lt.mp hafter

/-- What is scheduled for the time `now` fits the work. -/
def Scheduled (e : RoutedEndpoint) (now : Instant) : Prop :=
  (e.pollAt now = .now → ∃ n, 0 < n ∧ (e.tickAt now).1 = .ok n) ∧
  ∀ t, e.pollAt now = .time t → ∀ t', now ≤ t' → t' < t → (e.tickAt t').1 = .ok 0

/-- A route that expires has expired, or a message is due as well, and the messages that are due can
be queued; and as long as none expires, no message is due before the next one does, or the time for an
acknowledgement has passed from now on. -/
structure Timely (e : RoutedEndpoint) (now : Instant) : Prop where
  expired : ∀ expiry, e.routes.nextExpiry = some expiry → expiry ≤ now →
    (∀ x ∈ e.transport.duePackets now.millis, e.CanSend x) ∧
      ((∃ d ∈ e.transport.dueTimes, d ≤ now.millis.toNat) ∨ expiry < now)
  waiting : (∀ expiry, e.routes.nextExpiry = some expiry → now < expiry) →
    now < transportDeadline now → ∀ d ∈ e.transport.dueTimes,
      (transportDeadline now).millis.toNat ≤ d ∨
        ∃ expiry, e.routes.nextExpiry = some expiry ∧ expiry.millis.toNat ≤ d

theorem scheduled_iff (hknown : ∀ r ∈ e.transport.tunnels.values, r.tunnel.Known)
    (hqueue : e.link.dlp.queuedFlits = 0) (now : Instant) :
  e.Scheduled now ↔ e.Timely now
  := by
  constructor
  · rintro ⟨hnow, htime⟩
    constructor
    · intro expiry hnext hle
      obtain ⟨hsend, hwork⟩ :=
        (tickAt_pos_iff hknown).mp (hnow ((pollAt_eq_now_iff hqueue).mpr ⟨expiry, hnext, hle⟩))
      refine ⟨hsend, hwork.imp_right ?_⟩
      rintro ⟨expiry', hnext', hlt⟩
      rw [hnext] at hnext'
      cases hnext'
      exact hlt
    · intro hlater hdeadline d hd
      obtain ⟨t, hpoll, -, -, ht⟩ := exists_pollAt_eq_time hqueue hlater
      have hlt : now < t := by
        rcases ht with rfl | hnext
        · exact hdeadline
        · exact hlater t hnext
      have hle : t.millis.toNat ≤ d := by
        rw [Instant.lt_def] at hlt
        have hbound := t.millis.isLt
        -- the message is due at the later of now and its own time
        obtain ⟨t', ht'⟩ : ∃ t' : Instant, t'.millis.toNat = min (max now.millis.toNat d)
            (t.millis.toNat - 1) :=
          ⟨⟨.ofNat 64 (min (max now.millis.toNat d) (t.millis.toNat - 1))⟩, by
            rw [BitVec.toNat_ofNat, Nat.mod_eq_of_lt (by omega)]⟩
        have hzero := htime t hpoll t' (Instant.le_def.mpr (by omega)) (Instant.lt_def.mpr (by omega))
        have hnotDue := ((tickAt_eq_ok_zero_iff hknown).mp hzero).1 d hd
        omega
      rcases ht with rfl | hnext
      · exact .inl hle
      · exact .inr ⟨t, hnext, hle⟩
  · rintro ⟨hexpired, hwaiting⟩
    constructor
    · intro hpoll
      obtain ⟨expiry, hnext, hle⟩ := (pollAt_eq_now_iff hqueue).mp hpoll
      obtain ⟨hsend, hwork⟩ := hexpired expiry hnext hle
      exact (tickAt_pos_iff hknown).mpr
        ⟨hsend, hwork.imp_right (fun hlt => ⟨expiry, hnext, hlt⟩)⟩
    · intro t hpoll t' hle hlt
      have hlater : ∀ expiry, e.routes.nextExpiry = some expiry → now < expiry := by
        intro expiry hnext
        rw [← Instant.not_le]
        intro hle
        rw [(pollAt_eq_now_iff hqueue).mpr ⟨expiry, hnext, hle⟩] at hpoll
        cases hpoll
      obtain ⟨_, hpoll', hdeadline, hexpiry, -⟩ := exists_pollAt_eq_time hqueue hlater
      rw [hpoll] at hpoll'
      cases hpoll'
      rw [Instant.le_def] at hle hdeadline
      rw [Instant.lt_def] at hlt
      rw [tickAt_eq_ok_zero_iff hknown]
      constructor
      · intro d hd
        rcases hwaiting hlater (Instant.lt_def.mpr (by omega)) d hd with hafter | ⟨expiry, hnext, hafter⟩
        · omega
        · have hfirst := hexpiry expiry hnext
          rw [Instant.le_def] at hfirst
          omega
      · intro expiry hnext
        have hfirst := hexpiry expiry hnext
        rw [Instant.le_def] at hfirst ⊢
        omega

/-- The schedule fits the work exactly in the states in which no message is due before the time it
says, and no route expires just now. -/
theorem scheduled_iff_timely {address : GdpAddress} {slots : U8} {transport : Endpoint}
    (hnew : Endpoint.new address slots = .ok transport) (actions : List Endpoint.Action)
    (link : LinkedEndpoint .silent) (routes : RouteTable endpointRouteCapacity) (now : Instant)
    (hqueue : link.dlp.queuedFlits = 0) :
  Scheduled ⟨Machine.run Endpoint.step transport actions, link, routes⟩ now ↔
    Timely ⟨Machine.run Endpoint.step transport actions, link, routes⟩ now
  := scheduled_iff (Endpoint.known_run hnew actions) hqueue now

/-- The configuration `EndpointConfig::new(128)`. -/
def sampleConfig : EndpointConfig where
  rxBufferFlits := 128#32
  vcMode := .two
  gtsReceiveSlots := 32#8
  localContextPrefix := none
  preferLocalGdp := false
  creditUpdateThreshold := 1#32
  controlWindowFlits := 32#32
  gdpWire := ⟨true⟩

/-- A message has been sent at 800 and is due at 1300, the default route expires at 1250, and the link is
up: at 1000 the endpoint waits for the route, and at 1300 both the route and the message are due. -/
theorem scheduled_iff_timely_outstanding :
  let css : ServiceSelector := ⟨List.replicate 16 1#8, rfl⟩
  let profile : StreamProfile := ⟨false, true, false, false, .bidirectional, .msg128⟩
  let actions : List Endpoint.Action := [.connect ⟨2#64⟩ css profile,
    .receive ⟨2#64⟩ .ctrl32 (.connectAck 1#32 7#32 8#32 0#8 4#8), .send 1#32 0#8 [9#8] 800#64]
  ∃ transport link routes, Endpoint.new ⟨1#64⟩ 32#8 = .ok transport ∧
    LinkedEndpoint.new ⟨1#64⟩ sampleConfig = .ok link ∧
    (RouteTable.new endpointRouteCapacity).add
      { Route.newDefault ⟨2#64⟩ with expiresAt := some ⟨1250#64⟩ } = .ok routes ∧
    let transport := Machine.run Endpoint.step transport actions
    let link := (link.linkAttached ⟨2#64⟩ 32#32).2.pollTxFrame.2
    transport.dueTimes = [1300] ∧ pollAt ⟨transport, link, routes⟩ ⟨1000#64⟩ = .time ⟨1250#64⟩ ∧
      Scheduled ⟨transport, link, routes⟩ ⟨1000#64⟩ ∧ Scheduled ⟨transport, link, routes⟩ ⟨1300#64⟩
  := by
  intro css profile actions
  obtain ⟨transport, htransport⟩ : ∃ transport, Endpoint.new ⟨1#64⟩ 32#8 = .ok transport := ⟨_, rfl⟩
  obtain ⟨link, hlink⟩ : ∃ link : LinkedEndpoint .silent,
    LinkedEndpoint.new ⟨1#64⟩ sampleConfig = .ok link := ⟨_, rfl⟩
  obtain ⟨routes, hroutes⟩ : ∃ routes, (RouteTable.new endpointRouteCapacity).add
    { Route.newDefault ⟨2#64⟩ with expiresAt := some ⟨1250#64⟩ } = .ok routes := ⟨_, rfl⟩
  have hqueue : (link.linkAttached ⟨2#64⟩ 32#32).2.pollTxFrame.2.dlp.queuedFlits = 0 := by
    cases hlink
    decide +kernel
  have hnext : routes.nextExpiry = some ⟨1250#64⟩ := by
    cases hroutes
    decide +kernel
  have hdue : (Machine.run Endpoint.step transport actions).dueTimes = [1300] := by
    cases htransport
    decide +kernel
  have hpoll : pollAt ⟨Machine.run Endpoint.step transport actions,
      (link.linkAttached ⟨2#64⟩ 32#32).2.pollTxFrame.2, routes⟩ ⟨1000#64⟩ = .time ⟨1250#64⟩ := by
    rw [pollAt, if_neg (not_not.mpr hqueue), hnext]
    rfl
  have hsend : ∀ x ∈ (Machine.run Endpoint.step transport actions).duePackets 1300#64,
      CanSend ⟨Machine.run Endpoint.step transport actions,
        (link.linkAttached ⟨2#64⟩ 32#32).2.pollTxFrame.2, routes⟩ x := by
    cases htransport
    cases hlink
    cases hroutes
    decide +kernel
  have hiff := scheduled_iff_timely htransport actions
    (link.linkAttached ⟨2#64⟩ 32#32).2.pollTxFrame.2 routes
  refine ⟨transport, link, routes, htransport, hlink, hroutes, hdue, hpoll,
    (hiff _ hqueue).mpr ⟨?_, ?_⟩, (hiff _ hqueue).mpr ⟨?_, ?_⟩⟩
  · intro expiry hexpiry hle
    cases hnext.symm.trans hexpiry
    exact absurd hle (by decide)
  · intro _ _ d hd
    rw [hdue, List.mem_singleton] at hd
    subst hd
    exact .inr ⟨_, hnext, by decide⟩
  · intro expiry hexpiry hle
    cases hnext.symm.trans hexpiry
    refine ⟨hsend, .inl ⟨1300, ?_, by decide⟩⟩
    rw [hdue]
    exact List.mem_singleton_self 1300
  · intro hlater
    exact absurd (hlater _ hnext) (by decide)

/-- When the first route expires there is nothing to do yet. -/
theorem not_scheduled_at_expiry :
  ∃ transport link routes, Endpoint.new ⟨1#64⟩ 32#8 = .ok transport ∧
    LinkedEndpoint.new ⟨1#64⟩ sampleConfig = .ok link ∧
    (RouteTable.new endpointRouteCapacity).add
      { Route.newDefault ⟨2#64⟩ with expiresAt := some ⟨1250#64⟩ } = .ok routes ∧
    link.dlp.queuedFlits = 0 ∧ pollAt ⟨transport, link, routes⟩ ⟨1250#64⟩ = .now ∧
    (tickAt ⟨transport, link, routes⟩ ⟨1250#64⟩).1 = .ok 0
  := by
  refine ⟨_, _, _, rfl, rfl, rfl, ?_, ?_, ?_⟩
  · decide +kernel
  · decide +kernel
  · decide +kernel

end RoutedEndpoint

end SmolGnet
