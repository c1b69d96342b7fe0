import SmolGnet.Wire.Checked
import SmolGnet.Wire.CheckedGctl
import SmolGnet.Endpoint.PseudoHeader

/-!
# What arrives does not make the endpoint panic

Before a GTS packet is decoded, the endpoint looks into its first bytes for the profile of the stream.
This does not panic, and so no decoder that an endpoint, a router or a node runs on bytes that have
arrived does.
-/

namespace SmolGnet

open Octets Checked

def gtsProfileForChecked (tunnels : BTreeMap U32 TunnelRecord) (payload : Bytes) :
    Checked Error (Option StreamProfile) :=
  if payload.isEmpty then throw .invalidLength
  else do
    let ty ← GtsType.fromWireChecked ((← index payload 0) &&& 0x0f#8)
    if !ty.streamScoped then return none
    else if payload.length < 6 then throw .invalidLength
    else do
      let tunnelId : U32 ← beInt 32 payload 1
      let streamId ← index payload 5
      match tunnels[tunnelId]? with
      | none => throw .unknownTunnel
      | some r =>
        match r.tunnel.streams[streamId]? with
        | none => throw .unknownStream
        | some s => return some s.profile

/-- The lookup of the profile does not panic. -/
theorem gtsProfileForChecked_gives (tunnels : BTreeMap U32 TunnelRecord) (payload : Bytes) :
  Gives (gtsProfileForChecked tunnels payload) (gtsProfileFor tunnels payload)
  := by
  refine .ite (fun _ => .throw _) fun hempty => ?_
  have hpos : 0 < payload.length := List.length_pos_of_ne_nil (by simpa using hempty)
  refine .ok_bind (.index hpos 0#8) ?_
  refine .bind (GtsType.fromWireChecked_gives _) fun ty _ => ?_
  refine .ite (fun _ => .pure _) fun _ => ?_
  refine .ite (fun _ => .throw _) fun hlen => ?_
  refine .ok_bind (.beInt (by omega)) (.ok_bind (.index (by omega) 0#8) ?_)
  cases tunnels[(fromBeBytes 32 (slice payload 1 4) : U32)]? with
  | none => exact .throw _
  | some r =>
    dsimp only
    cases r.tunnel.streams[payload.getD 5 0#8]? with
    | none => exact .throw _
    | some s => exact .pure _

/-- No decoder panics: on every byte string, for every context, profile and state of the endpoint, each
gives what it is modelled to give. -/
theorem decoders_do_not_panic :
  (∀ tunnels payload, Gives (gtsProfileForChecked tunnels payload) (gtsProfileFor tunnels payload)) ∧
  (∀ buf ctx profile, Gives (GtsPacket.decodeChecked buf ctx profile)
    (GtsPacket.decode buf ctx profile)) ∧
  (∀ buf, Gives (ServiceSelector.decodeChecked buf) (ServiceSelector.decode buf)) ∧
  (∀ buf cfg localPrefix, Gives (GdpPacket.decodeChecked buf cfg localPrefix)
    (GdpPacket.decode buf cfg localPrefix)) ∧
  (∀ buf, Gives (GctlMessage.decodeChecked buf) (GctlMessage.decode buf)) ∧
  (∀ msg t, Gives (GctlValue.parseChecked msg t) (GctlValue.parse msg t)) ∧
  ∀ buf, Gives (RoutingGctlMessage.decodeChecked buf) (RoutingGctlMessage.decode buf)
  := ⟨gtsProfileForChecked_gives, GtsPacket.decodeChecked_gives, ServiceSelector.decodeChecked_gives,
    GdpPacket.decodeChecked_gives, GctlMessage.decodeChecked_gives, GctlValue.parseChecked_gives,
    RoutingGctlMessage.decodeChecked_gives⟩

end SmolGnet
