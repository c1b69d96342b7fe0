import SmolGnet.Endpoint.Core
import SmolGnet.Endpoint.Moves
import SmolGnet.Endpoint.Sizes
import SmolGnet.Dlp.Carry

/-!
# What the link takes

`Endpoint.sendGts` fails when no class is found for a packet and when the link is down.  A whole
endpoint does more to send a packet: it encodes the packet, makes a header, and gives the result to
the link, and each of these can fail.  For the packets that an endpoint sends they do not, so the two
fail together.
-/

namespace SmolGnet

open Octets

namespace GtsPacket

/-- The packet is encoded in the class that is chosen for it, whatever the addresses are. -/
def Encodes (packet : GtsPacket) (profile : Option StreamProfile) : Prop :=
  ∀ ctx : GtsContext, packet.chooseSizeClass profile = .ok ctx.sizeClass →
    ∃ bytes, packet.encode ctx profile = .ok bytes

variable {packet : GtsPacket} {profile : Option StreamProfile} {ctx : GtsContext} {need : ℕ}

/-- A class that is chosen has room. -/
theorem le_bytes_of_chooseControlClass (hneed : packet.minimumLen profile = .ok need)
    {c : SizeClass} (hc : packet.chooseControlClass profile = .ok c) :
  need ≤ c.bytes
  := by
  rw [chooseControlClass, hneed] at hc
  dsimp only at hc
  split at hc
  · cases hc
  · next c' hfind =>
    cases hc
    simpa using List.find?_some hfind

/-- A packet without a message has the class of a control packet. -/
theorem chooseSizeClass_eq_of_controlFields {fields : GtsLowerPacket}
    (hfields : packet.controlFields = some fields) (profile : Option StreamProfile) :
  packet.chooseSizeClass profile = packet.chooseControlClass profile
  := by
  cases profile <;> cases packet <;> cases hfields <;> rfl

/-- A packet without a message needs the bytes of its fields and of the checksum. -/
theorem minimumLen_of_controlFields {fields : GtsLowerPacket}
    (hfields : packet.controlFields = some fields) (profile : Option StreamProfile) :
  packet.minimumLen profile = .ok (fields.wire.length + 4)
  := by
  cases packet <;> cases hfields <;>
    simp [minimumLen, GtsLowerPacket.wire, GtsLowerPacket.fields]

theorem encodes_control {fields : GtsLowerPacket} (hfields : packet.controlFields = some fields)
    (profile : Option StreamProfile) :
  packet.Encodes profile
  := by
  intro ctx hctx
  rw [chooseSizeClass_eq_of_controlFields hfields] at hctx
  have hroom := le_bytes_of_chooseControlClass (minimumLen_of_controlFields hfields profile) hctx
  refine ⟨_, encode_eq_ok_iff.mpr ⟨fields, List.replicate (ctx.sizeClass.bytes - 4
    - fields.wire.length) 0#8, _, .control hfields (zeros_replicate _), ?_, rfl⟩⟩
  rw [List.length_replicate]
  omega

theorem encodes_streamOpen {sp : StreamProfile} (hvalid : sp.validate = .ok sp) {credit : U8}
    (hcredit : ¬ (sp.unreliable ∧ credit ≠ 0#8)) (tunnelId : U32) (streamId : U8) :
  (streamOpen tunnelId streamId sp credit).Encodes none
  := by
  intro ctx hctx
  have hneed : (streamOpen tunnelId streamId sp credit).minimumLen none = .ok 14 := rfl
  have hroom := le_bytes_of_chooseControlClass hneed hctx
  refine ⟨_, encode_eq_ok_iff.mpr ⟨_, List.replicate (ctx.sizeClass.bytes - 14) 0#8, _,
    .streamOpen (StreamProfile.toWire_eq_ok_iff.mpr ⟨hvalid, rfl⟩) hcredit (zeros_replicate _), ?_,
    rfl⟩⟩
  simp only [GtsLowerPacket.wire, GtsLowerPacket.fields, List.length_cons, List.length_append,
    length_toBeBytes, List.length_replicate]
  omega

theorem encodes_connect {sp : StreamProfile} (hvalid : sp.validate = .ok sp) {credit : U8}
    (hcredit : ¬ (sp.unreliable ∧ credit ≠ 0#8)) (tunnel resetId : U32) (css : ServiceSelector) :
  (connect tunnel resetId sp credit css).Encodes none
  := by
  intro ctx hctx
  change (connect tunnel resetId sp credit css).chooseControlClass none = _ at hctx
  cases hcss : css.encode with
  | error err =>
    rw [chooseControlClass, minimumLen, hcss] at hctx
    cases hctx
  | ok bytes =>
    have hneed : (connect tunnel resetId sp credit css).minimumLen none
        = .ok (1 + 4 + 4 + 2 + 1 + bytes.length + 4) := by
      rw [minimumLen, hcss]
    have hroom := le_bytes_of_chooseControlClass hneed hctx
    refine ⟨_, encode_eq_ok_iff.mpr ⟨_, bytes ++ List.replicate
      (ctx.sizeClass.bytes - 16 - bytes.length) 0#8, _,
      .connect (StreamProfile.toWire_eq_ok_iff.mpr ⟨hvalid, rfl⟩) hcredit
        (ServiceSelector.encode_eq_ok_iff.mp hcss), ?_, rfl⟩⟩
    simp only [GtsLowerPacket.wire, GtsLowerPacket.fields, List.length_cons, List.length_append,
      length_toBeBytes, List.length_replicate]
    omega

/-- A message that a stream sends. -/
theorem encodes_of_sendPacket {s s' : GtsStream} (hvalid : s.profile.validate = .ok s.profile)
    {tunnelId : U32} {data : Bytes} {isEnd : Bool} {now : U64}
    (hsend : s.sendPacket tunnelId data isEnd now = .ok (packet, s')) :
  packet.Encodes (some s.profile)
  := by
  intro ctx hctx
  have hprofile : ({ s with openedByLocal := !s.openedByLocal } : GtsStream).profile = s.profile := rfl
  obtain ⟨c, hc, hencode, -⟩ := GtsStream.sizes_agree hvalid hprofile rfl hsend
  rw [hctx] at hc
  cases hc
  obtain ⟨bytes, hbytes, -⟩ := hencode ctx rfl
  use bytes, hbytes

end GtsPacket

namespace LinkedEndpoint

variable {T : Transport}

/-- A packet that is encoded is given to the link, which takes it exactly when it is up. -/
theorem sendGtsPacket_fst (l : LinkedEndpoint T) (hvc : l.dlp.nextDataVc.traffic = .data)
    (hlt : l.dlp.nextDataVc.val < l.dlp.vcMode.count) {remote : GdpAddress} {packet : GtsPacket}
    {profile : Option StreamProfile} {c : SizeClass} {payload : Bytes}
    (hclass : packet.chooseSizeClass profile = .ok c)
    (hencode : packet.encode ⟨0#8, c, l.primaryAddress, remote⟩ profile = .ok payload) :
  (l.sendGtsPacket remote packet profile).1 = if l.dlp.linkUp then .ok () else .error .linkDown
  := by
  obtain ⟨hlen, -⟩ := GtsPacket.decode_of_encode hencode
  obtain ⟨gdp, hgdp⟩ := l.exists_gtsPacket (x := { remote, sizeClass := c, payload }) hlen
  have hwire := GdpPacket.encode_of_canonical (gtsPacket_spec hgdp).1 l.dlp.cfg
  rw [sendGtsPacket, hclass]
  dsimp only
  rw [hencode]
  dsimp only
  rw [sendGts, hgdp]
  dsimp only
  rw [DlpEndpoint.queueDataPacket_eq hvc hlt, hwire]
  cases l.dlp.linkUp <;> rfl

end LinkedEndpoint

/-- An endpoint and its link fail together to send a packet. -/
theorem Endpoint.sendGts_fst_eq {T : Transport} (e : Endpoint) (l : LinkedEndpoint T)
    (hup : l.dlp.linkUp = e.linkUp) (hvc : l.dlp.nextDataVc.traffic = .data)
    (hlt : l.dlp.nextDataVc.val < l.dlp.vcMode.count) (remote : GdpAddress) {packet : GtsPacket}
    {profile : Option StreamProfile} (hencodes : packet.Encodes profile) :
  (e.sendGts remote packet profile).1 = (l.sendGtsPacket remote packet profile).1
  := by
  cases hclass : packet.chooseSizeClass profile with
  | error err => rw [sendGts, LinkedEndpoint.sendGtsPacket, hclass]
  | ok c =>
    obtain ⟨payload, hencode⟩ := hencodes ⟨0#8, c, l.primaryAddress, remote⟩ hclass
    rw [l.sendGtsPacket_fst hvc hlt hclass hencode, hup, sendGts, hclass]
    cases e.linkUp <;> rfl

end SmolGnet
