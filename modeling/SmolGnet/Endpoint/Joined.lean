import SmolGnet.Endpoint.Core

/-!
# Endpoints with one stream

An endpoint that has one tunnel with one reliable stream is *joined* by it.  What its
operations and the packets of the stream do, is then to replace the state of the stream
and to send packets: each lemma below says by which state and which packets.
-/

namespace SmolGnet

namespace Endpoint

/-- The endpoint has the tunnel `h`, which is the tunnel `remote` at the other end, and
no others, and the tunnel has the stream `id`, with the state `s`, and no others. -/
def Joined (e : Endpoint) (h remote : U32) (id : U8) (s : GtsStream) : Prop :=
  ∃ r : TunnelRecord, e.tunnels = (∅ : BTreeMap U32 TunnelRecord).insert h r ∧
    r.tunnel.streams = (∅ : BTreeMap U8 GtsStream).insert id s ∧
    r.tunnel.state = .established ∧ r.tunnel.remoteReceiveId = some remote

/-- The state of the stream is now `s`, and packets that satisfy `P` have been sent. -/
def Outcome (e e' : Endpoint) (h remote : U32) (id : U8) (s : GtsStream)
    (P : GtsPacket → Prop) : Prop :=
  e'.Joined h remote id s ∧ ∃ out, e'.outbox = e.outbox ++ out ∧ ∀ x ∈ out, P x.2.2

variable {e e' : Endpoint} {h remote : U32} {id : U8} {s s' : GtsStream} {P : GtsPacket → Prop}

theorem Joined.outcome (hj : e.Joined h remote id s) (P : GtsPacket → Prop) :
  e.Outcome e h remote id s P
  := ⟨hj, [], (List.append_nil _).symm, by simp⟩

/-- What the operations look up. -/
theorem Joined.exists_record (hj : e.Joined h remote id s) :
  ∃ r, e.record h = .ok r ∧ r.tunnel.state = .established ∧ r.tunnel.remoteId = .ok remote ∧
    r.tunnel.stream id = .ok s ∧ ∀ s' P, e.Outcome (e.setStream h r id s') h remote id s' P
  := by
  obtain ⟨r, htunnels, hstreams, hstate, hremote⟩ := hj
  refine ⟨r, ?_, hstate, ?_, ?_, fun s' P => ⟨?_, [], (List.append_nil _).symm, by simp⟩⟩
  · rw [record, htunnels, TreeMap.getElem?_insert, if_pos rfl]
  · rw [GtsTunnel.remoteId, hremote]
  · rw [GtsTunnel.stream, hstreams, TreeMap.getElem?_insert, if_pos rfl]
  · refine ⟨{ r with tunnel := { r.tunnel with streams := r.tunnel.streams.insert id s' } }, ?_, ?_,
      hstate, hremote⟩
    · rw [setStream, setTunnel, htunnels, TreeMap.insert_insert]
    · rw [hstreams, TreeMap.insert_insert]

/-- Only the one stream of the one tunnel is found. -/
theorem Joined.findStream_eq (hj : e.Joined h remote id s) :
  ∃ r, r.tunnel.remoteId = .ok remote ∧ e.findStream h id = .ok (r, s) ∧
    ∀ s' P, e.Outcome (e.setStream h r id s') h remote id s' P
  := by
  obtain ⟨r, hr, -, hremote, hs, hset⟩ := hj.exists_record
  refine ⟨r, hremote, ?_, hset⟩
  rw [findStream, hr]
  dsimp only
  rw [hs]

theorem Joined.eq_of_findStream {tunnelId : U32} {streamId : U8} {x : TunnelRecord × GtsStream}
    (hj : e.Joined h remote id s) (hx : e.findStream tunnelId streamId = .ok x) :
  tunnelId = h ∧ streamId = id
  := by
  obtain ⟨r, htunnels, hstreams, -⟩ := hj
  rw [findStream, record, htunnels, TreeMap.getElem?_insert] at hx
  by_cases hh : h = tunnelId
  · subst hh
    rw [if_pos rfl] at hx
    dsimp only at hx
    rw [GtsTunnel.stream, hstreams, TreeMap.getElem?_insert] at hx
    by_cases hid : id = streamId
    · exact ⟨rfl, hid.symm⟩
    · rw [if_neg hid] at hx
      simp at hx
  · rw [if_neg hh] at hx
    simp at hx

/-- A packet is sent, or it cannot be sent and nothing changes. -/
theorem Outcome.sendGts {packet : GtsPacket} (ho : e.Outcome e' h remote id s P) (hp : P packet)
    (peer : GdpAddress) (profile : Option StreamProfile) :
  e.Outcome (e'.sendGts peer packet profile).2 h remote id s P
  := by
  rw [Endpoint.sendGts]
  split
  · exact ho
  · next sizeClass _ =>
    split
    · exact ho
    · obtain ⟨hj, out, hout, hall⟩ := ho
      refine ⟨hj, out ++ [(peer, sizeClass, packet)], ?_, ?_⟩
      · dsimp only
        rw [hout, List.append_assoc]
      · intro x hx
        rcases List.mem_append.mp hx with hx | hx
        · exact hall x hx
        · rw [List.mem_singleton] at hx
          rw [hx]
          exact hp

/-! ### What the application can do -/

/-- What sending a message does. -/
theorem Joined.sendInner (hj : e.Joined h remote id s) (data : Bytes) (isEnd : Bool) (now : U64) :
  (e.sendInner h id data isEnd now).2 = e ∨
  ∃ packet s', s.sendPacket remote data isEnd now = .ok (packet, s') ∧
    e.Outcome (e.sendInner h id data isEnd now).2 h remote id s' (· = packet)
  := by
  obtain ⟨r, hr, hstate, hremote, hs, hset⟩ := hj.exists_record
  rw [Endpoint.sendInner, hr]
  dsimp only
  rw [if_neg (not_not.mpr hstate), hremote]
  dsimp only
  rw [hs]
  dsimp only
  split
  · exact Or.inl rfl
  · next packet s' hsend =>
    refine Or.inr ⟨packet, s', hsend, ?_⟩
    exact (hset s' (· = packet)).sendGts rfl _ _

/-- What closing the stream does. -/
theorem Joined.closeStream (hj : e.Joined h remote id s) :
  (¬ (s.state = .open ∨ s.state = .closing) ∧ (e.closeStream h id).2 = e) ∨
  ((s.state = .open ∨ s.state = .closing) ∧
    e.Outcome (e.closeStream h id).2 h remote id { s with state := .closing }
      (· = .streamClose remote id 0#32 false))
  := by
  obtain ⟨r, hremote, hfind, hset⟩ := hj.findStream_eq
  rw [Endpoint.closeStream, hfind]
  dsimp only
  split
  · next hstate => exact Or.inl ⟨by simpa [not_or] using hstate, rfl⟩
  · next hstate =>
    right
    rw [hremote]
    refine ⟨by simpa [or_iff_not_imp_left] using hstate, ?_⟩
    exact (hset _ (· = .streamClose remote id 0#32 false)).sendGts (by simp) _ _

/-- A packet with an acknowledgement. -/
def IsAck (packet : GtsPacket) : Prop :=
  ∃ tunnelId streamId base bitmap credit, packet = .ack tunnelId streamId base bitmap credit

/-- What taking a message does. -/
theorem Joined.recv (hj : e.Joined h remote id s) :
  e.Outcome (e.recv h id).2 h remote id s.recv.2 IsAck
  := by
  obtain ⟨r, hr, -, hremote, hs, hset⟩ := hj.exists_record
  have ho := hset s.recv.2 IsAck
  rw [Endpoint.recv, hr]
  dsimp only
  rw [hremote]
  dsimp only
  rw [hs]
  dsimp only
  split
  · exact ho
  · next ack hack =>
    have hisAck : IsAck ack := by
      split at hack
      · rw [GtsStream.receiveCreditAck] at hack
        split at hack
        · cases hack
        · split at hack
          · cases hack
          · obtain ⟨a, -, rfl⟩ := Option.map_eq_some_iff.mp hack
            exact ⟨_, _, _, _, _, rfl⟩
      · cases hack
    have hsent := ho.sendGts hisAck r.peer (some s.profile)
    split
    · next heq =>
      rw [heq] at hsent
      exact hsent
    · next heq =>
      rw [heq] at hsent
      exact hsent

/-! ### What time does -/

/-- Packets are sent one after the other, as far as they can be sent. -/
theorem Outcome.sendPending {packets : List (GdpAddress × StreamProfile × GtsPacket)}
    (ho : e.Outcome e' h remote id s P) (hp : ∀ x ∈ packets, P x.2.2) :
  e.Outcome (Endpoint.sendPending packets e').2 h remote id s P
  := by
  rw [Endpoint.sendPending]
  refine sendEach_keeps (P := fun e' => e.Outcome e' h remote id s P) ?_ ho
  intro x hx e' ho
  exact ho.sendGts (hp x hx) x.1 (some x.2.1)

/-- What a tick does. -/
theorem Joined.tick (hj : e.Joined h remote id s) (now : U64) :
  e.Outcome (e.tick now).2 h remote id (s.retransmitDue remote now).2
    (· ∈ (s.retransmitDue remote now).1)
  := by
  obtain ⟨r, htunnels, hstreams, hstate, hremote⟩ := hj
  have hid : r.tunnel.remoteId = .ok remote := by rw [GtsTunnel.remoteId, hremote]
  have hdue : dueOfTunnels now e.tunnels.toList e = (.ok (dueOfTunnel r remote now ++ []),
      e.setTunnel h r { r.tunnel with
        streams := r.tunnel.streams.map (fun _ s => (s.retransmitDue remote now).2) }) := by
    rw [htunnels, TreeMap.toList_insert_empty, dueOfTunnels, if_neg (not_not.mpr hstate), hid]
    dsimp only
    rw [dueOfTunnels]
  have ho : e.Outcome (e.setTunnel h r { r.tunnel with
      streams := r.tunnel.streams.map (fun _ s => (s.retransmitDue remote now).2) }) h remote id
      (s.retransmitDue remote now).2 (· ∈ (s.retransmitDue remote now).1) := by
    refine ⟨⟨{ r with tunnel := { r.tunnel with
      streams := r.tunnel.streams.map (fun _ s => (s.retransmitDue remote now).2) } }, ?_, ?_, hstate,
      hremote⟩, [], (List.append_nil _).symm, by simp⟩
    · rw [setTunnel, htunnels, TreeMap.insert_insert]
    · rw [hstreams, TreeMap.map_insert_empty]
  have hdue' : ∀ x ∈ dueOfTunnel r remote now ++ [], x.2.2 ∈ (s.retransmitDue remote now).1 := by
    intro x hx
    rw [List.append_nil, dueOfTunnel, hstreams, TreeMap.values_insert_empty, List.flatMap_singleton]
      at hx
    obtain ⟨packet, hpacket, rfl⟩ := List.mem_map.mp hx
    exact hpacket
  rw [Endpoint.tick, hdue, snd_sendFound_ok]
  exact ho.sendPending hdue'

/-! ### What packets do -/

/-- A packet for a stream that is not there changes nothing. -/
theorem Joined.findStream_cases (hj : e.Joined h remote id s) (tunnelId : U32) (streamId : U8) :
  (∃ err, e.findStream tunnelId streamId = .error err) ∨
  ∃ r, tunnelId = h ∧ streamId = id ∧ e.findStream tunnelId streamId = .ok (r, s) ∧
    r.tunnel.remoteId = .ok remote ∧
    ∀ s' P, e.Outcome (e.setStream tunnelId r streamId s') h remote id s' P
  := by
  cases hx : e.findStream tunnelId streamId with
  | error err => exact Or.inl ⟨err, rfl⟩
  | ok x =>
    obtain ⟨rfl, rfl⟩ := hj.eq_of_findStream hx
    obtain ⟨r, hremote, hfind, hset⟩ := hj.findStream_eq
    rw [hfind] at hx
    cases hx
    exact Or.inr ⟨r, rfl, rfl, rfl, hremote, hset⟩

/-- What a message that arrives does. -/
theorem Joined.handleData (hj : e.Joined h remote id s) (sizeClass : SizeClass) (tunnelId : U32)
    (streamId : U8) (packet : GtsPacket) :
  (e.handleData sizeClass tunnelId streamId packet).2 = e ∨
  ∃ r ack s', e.findStream tunnelId streamId = .ok (r, s) ∧
    s.validateIncoming sizeClass packet = .ok () ∧ s.receivePacket packet = .ok (ack, s') ∧
    e.Outcome (e.handleData sizeClass tunnelId streamId packet).2 h remote id s' IsAck
  := by
  rw [Endpoint.handleData]
  rcases hj.findStream_cases tunnelId streamId with ⟨err, hfind⟩ | ⟨r, -, -, hfind, hremote, hset⟩
  · rw [hfind]
    exact Or.inl rfl
  · rw [hfind]
    dsimp only
    split
    · exact Or.inl rfl
    · next hvalid =>
      split
      · exact Or.inl rfl
      · next ack s' hreceive =>
        refine Or.inr ⟨r, ack, s', rfl, hvalid, hreceive, ?_⟩
        rw [hremote]
        dsimp only
        split
        · exact (hset s' IsAck).sendGts ⟨_, _, _, _, _, rfl⟩ _ _
        · exact hset s' IsAck

/-- What an acknowledgement that arrives does. -/
theorem Joined.handleAck (hj : e.Joined h remote id s) (sizeClass : SizeClass) (tunnelId : U32)
    (streamId : U8) (base bitmap : U32) (credit : U8) :
  (e.handleAck sizeClass tunnelId streamId base bitmap credit).2 = e ∨
  ∃ s', s.onAck base bitmap credit = .ok s' ∧
    e.Outcome (e.handleAck sizeClass tunnelId streamId base bitmap credit).2 h remote id s' IsAck
  := by
  rw [Endpoint.handleAck]
  rcases hj.findStream_cases tunnelId streamId with ⟨err, hfind⟩ | ⟨r, -, -, hfind, -, hset⟩
  · rw [hfind]
    exact Or.inl rfl
  · rw [hfind]
    dsimp only
    split
    · exact Or.inl rfl
    · split
      · exact Or.inl rfl
      · next s' hack => exact Or.inr ⟨s', hack, hset s' IsAck⟩

/-- What a packet that closes the stream does. -/
theorem Joined.handleStreamClose (hj : e.Joined h remote id s) (sizeClass : SizeClass)
    (tunnelId : U32) (streamId : U8) (finalSequence : U32) (ack : Bool) :
  (e.handleStreamClose sizeClass tunnelId streamId finalSequence ack).2 = e ∨
  e.Outcome (e.handleStreamClose sizeClass tunnelId streamId finalSequence ack).2 h remote id
    { s with state := .closed } (· = .streamClose remote id finalSequence true)
  := by
  rw [Endpoint.handleStreamClose]
  rcases hj.findStream_cases tunnelId streamId with ⟨err, hfind⟩ | ⟨r, -, hid, hfind, hremote, hset⟩
  · rw [hfind]
    exact Or.inl rfl
  · rw [hfind]
    dsimp only
    split
    · exact Or.inl rfl
    · right
      have ho := hset { s with state := .closed } (· = .streamClose remote id finalSequence true)
      split
      · exact ho
      · rw [hremote]
        exact ho.sendGts (by rw [hid]) _ _

/-! ### How endpoints are joined -/

/-- The endpoint that is asked for a tunnel has it when the first packet has arrived. -/
theorem joined_of_handleConnect
    {src : GdpAddress} {initiatorReceiveTunnel initiatorResetId : U32} {profile : StreamProfile}
    {credit : U8} {css : ServiceSelector} (hempty : e.tunnels = ∅)
    (hok : e.handleConnect src initiatorReceiveTunnel initiatorResetId profile credit css
      = (.ok (), e')) :
  ∃ localCredit s, GtsStream.new 0#8 profile false localCredit credit = .ok s ∧
    e'.Joined e.nextTunnel initiatorReceiveTunnel 0#8 s
  := by
  rw [handleConnect] at hok
  split at hok
  · cases hok
  · simp only [allocTunnel] at hok
    split at hok
    · cases hok
    · next t ht =>
      obtain ⟨s, hs, hstreams, hstate, hremote⟩ := GtsTunnel.responder_eq_ok ht
      rw [Endpoint.sendGts] at hok
      split at hok
      · cases hok
      · split at hok
        · cases hok
        · cases hok
          refine ⟨_, s, hs, ⟨src, t⟩, ?_, hstreams, hstate, hremote⟩
          dsimp only
          rw [hempty]

/-- The endpoint that asks for a tunnel has it, without another end, from then on. -/
theorem tunnels_of_connect
    {peer : GdpAddress} {css : ServiceSelector} {profile : StreamProfile} (hempty : e.tunnels = ∅)
    (hok : e.connect peer css profile = (.ok h, e')) :
  ∃ (s : GtsStream) (r : TunnelRecord),
    GtsStream.new 0#8 profile true (e.localGtsCredit profile true) 0#8 = .ok s ∧
    e'.tunnels = (∅ : BTreeMap U32 TunnelRecord).insert h r ∧
    r.tunnel.streams = (∅ : BTreeMap U8 GtsStream).insert 0#8 s
  := by
  rw [connect] at hok
  split at hok
  · cases hok
  · simp only [allocTunnel] at hok
    split at hok
    · cases hok
    · next t ht =>
      obtain ⟨s, hs, hstreams⟩ := GtsTunnel.initiator_eq_ok ht
      rw [Endpoint.sendGts] at hok
      split at hok
      · cases hok
      · next heq =>
        cases hok
        split at heq
        · cases heq
        · split at heq
          · cases heq
          · cases heq
            refine ⟨s, ⟨peer, t⟩, hs, ?_, hstreams⟩
            dsimp only
            rw [hempty]

/-- The credit of the other end is known from the answer on. -/
theorem new_peerCredit
    {profile : StreamProfile} {openedByLocal : Bool} {localCredit peerCredit credit : U8}
    (hs : GtsStream.new id profile openedByLocal localCredit peerCredit = .ok s) :
  GtsStream.new id profile openedByLocal localCredit credit
    = .ok { s with reliableTx := s.reliableTx.map (fun tx => { tx with peerCredit := credit }) }
  := by
  rw [GtsStream.new] at hs ⊢
  split at hs
  · cases hs
  · cases hs
    dsimp only
    cases profile.unreliable with
    | false => rfl
    | true => rfl

/-- The endpoint that asks for a tunnel has it, with the other end, when the answer has
arrived. -/
theorem joined_of_connect
    {e₀ : Endpoint} {peer : GdpAddress} {css : ServiceSelector} {profile : StreamProfile}
    {responderReceiveTunnel responderResetId : U32} {status credit : U8} (hempty : e₀.tunnels = ∅)
    (hconnect : e₀.connect peer css profile = (.ok h, e))
    (hack : e.handleConnectAck h responderReceiveTunnel responderResetId status credit
      = (.ok (), e')) :
  ∃ s, GtsStream.new 0#8 profile true (e₀.localGtsCredit profile true) credit = .ok s ∧
    e'.Joined h responderReceiveTunnel 0#8 s
  := by
  obtain ⟨s, r, hs, htunnels, hstreams⟩ := tunnels_of_connect hempty hconnect
  refine ⟨_, new_peerCredit hs, ?_⟩
  have hfind : e.findStream h 0#8 = .ok (r, s) := by
    rw [findStream, record, htunnels, TreeMap.getElem?_insert, if_pos rfl]
    dsimp only
    rw [GtsTunnel.stream, hstreams, TreeMap.getElem?_insert, if_pos rfl]
  rw [handleConnectAck] at hack
  split at hack
  · cases hack
  · rw [hfind] at hack
    dsimp only at hack
    split at hack
    · cases hack
    · split at hack
      · cases hack
      · next t ht =>
        cases hack
        obtain ⟨hstreams', hstate, hremote⟩ := GtsTunnel.establishInitiator_eq_ok hstreams ht
        refine ⟨{ r with tunnel := t }, ?_, hstreams', hstate, hremote⟩
        rw [setTunnel, htunnels, TreeMap.insert_insert]

end Endpoint

end SmolGnet
