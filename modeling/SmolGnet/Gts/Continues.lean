import SmolGnet.Gts.Tunnel

/-!
# How streams and tunnels continue

A stream keeps its profile and does not come back to life; a tunnel whose streams change is otherwise
the same.  `Continues` says this once for every operation of a stream.
-/

namespace SmolGnet

/-! ### Packets -/

/-- The tunnel of this end that the packet is for.  A `CONNECT` is for none. -/
def GtsPacket.receiveTunnel : GtsPacket → Option U32
  | .connect .. => none
  | .connectAck tunnelId .. => some tunnelId
  | .streamOpen tunnelId .. => some tunnelId
  | .streamAck tunnelId .. => some tunnelId
  | .data tunnelId .. => some tunnelId
  | .ack tunnelId .. => some tunnelId
  | .datagram tunnelId .. => some tunnelId
  | .streamClose tunnelId .. => some tunnelId
  | .tunnelClose tunnelId _ => some tunnelId
  | .reset tunnelId .. => some tunnelId
  | .streamReset tunnelId .. => some tunnelId

/-- The packet opens neither a tunnel nor a stream. -/
def GtsPacket.Quiet : GtsPacket → Prop
  | .connect .. => False
  | .connectAck .. => False
  | .streamOpen .. => False
  | _ => True

/-! ### Streams -/

namespace GtsStream

variable {s s' : GtsStream}

/-- The stream is closed or reset. -/
def Dead (s : GtsStream) : Prop :=
  s.state = .closed ∨ s.state = .reset

instance (s : GtsStream) : Decidable s.Dead :=
  inferInstanceAs (Decidable (_ ∨ _))

/-- The stream `s'` is the stream `s` later on: it is the same stream, and it has not come back to
life. -/
structure Continues (s s' : GtsStream) : Prop where
  id : s'.id = s.id
  profile : s'.profile = s.profile
  openedByLocal : s'.openedByLocal = s.openedByLocal
  dead : s.Dead → s'.Dead

theorem Continues.refl (s : GtsStream) :
  Continues s s
  := ⟨rfl, rfl, rfl, fun h => h⟩

/-- An operation that does not change the state of the stream. -/
theorem Continues.of_state (hid : s'.id = s.id) (hprofile : s'.profile = s.profile)
    (hopened : s'.openedByLocal = s.openedByLocal) (hstate : s'.state = s.state) :
  Continues s s'
  := ⟨hid, hprofile, hopened, fun h => by rwa [Dead, hstate]⟩

theorem continues_sendPacket {tunnelId : U32} {data : Bytes} {isEnd : Bool} {now : U64}
    {packet : GtsPacket} (h : s.sendPacket tunnelId data isEnd now = .ok (packet, s')) :
  Continues s s'
  := by
  rw [sendPacket] at h
  split at h
  · cases h
  split at h
  · cases h
  split at h
  · cases h
  split at h
  · cases h
  split at h
  · split at h
    · cases h
      exact .of_state rfl rfl rfl rfl
    · cases h
      exact .refl s
  · split at h
    · cases h
    split at h
    · cases h
    · cases h
      exact .of_state rfl rfl rfl rfl

theorem continues_recv (s : GtsStream) :
  Continues s s.recv.2
  := by
  rw [recv]
  split
  · split
    · exact .refl s
    · exact .of_state rfl rfl rfl rfl
  · split
    · exact .refl s
    · exact .of_state rfl rfl rfl rfl

theorem continues_retransmitDue (s : GtsStream) (tunnelId : U32) (now : U64) :
  Continues s (s.retransmitDue tunnelId now).2
  := by
  rw [retransmitDue]
  split
  · exact .refl s
  · exact .of_state rfl rfl rfl rfl

theorem continues_receivePacket {packet : GtsPacket} {reply : Option GtsPacket}
    (h : s.receivePacket packet = .ok (reply, s')) :
  Continues s s'
  := by
  rw [receivePacket.eq_def] at h
  split at h
  · cases h
  split at h
  · cases h
  split at h
  · split at h
    · cases h
    rw [receiveData] at h
    split at h
    · cases h
    split at h
    · cases h
    split at h
    · cases h
    · cases h
      exact .of_state rfl rfl rfl rfl
  · split at h
    · cases h
    rw [receiveDatagram.eq_def] at h
    split at h
    · cases h
    split at h
    · cases h
      exact .of_state rfl rfl rfl rfl
    split at h
    · cases h
    · split at h
      · cases h
        exact .refl s
      · cases h
        exact .of_state rfl rfl rfl rfl
    · cases h
      exact .of_state rfl rfl rfl rfl
  · cases h

theorem continues_onAck {base bitmap : U32} {credit : U8} (h : s.onAck base bitmap credit = .ok s') :
  Continues s s'
  := by
  rw [onAck] at h
  split at h
  · cases h
  split at h
  · cases h
  · cases h
    exact .of_state rfl rfl rfl rfl

theorem continues_applyOpenAck {credit : U8} (h : s.applyOpenAck credit = .ok s') :
  Continues s s'
  := by
  rw [applyOpenAck] at h
  split at h
  · cases h
  · next hopening =>
    cases h
    refine ⟨rfl, rfl, rfl, ?_⟩
    rw [Dead, not_not.mp hopening]
    nofun

/-- A stream that is open is being closed. -/
theorem continues_closing (h : s.state = .open ∨ s.state = .closing) :
  Continues s { s with state := .closing }
  := by
  refine ⟨rfl, rfl, rfl, ?_⟩
  rw [Dead]
  rcases h with h | h
  · rw [h]
    nofun
  · rw [h]
    nofun

theorem continues_closed (s : GtsStream) :
  Continues s { s with state := .closed }
  := ⟨rfl, rfl, rfl, fun _ => .inl rfl⟩

theorem continues_reset (s : GtsStream) :
  Continues s s.reset
  := ⟨rfl, rfl, rfl, fun _ => .inr rfl⟩

/-- The profile of a stream that is made is valid. -/
theorem validate_of_new {id : U8} {profile : StreamProfile} {openedByLocal : Bool}
    {localCredit peerCredit : U8} (h : new id profile openedByLocal localCredit peerCredit = .ok s) :
  profile.validate = .ok profile
  := by
  rw [new] at h
  split at h
  · cases h
  · next hvalid =>
    rw [hvalid, StreamProfile.validate_eq_ok hvalid]

/-- What can happen to a stream, except that the application takes a message from it and that it is
reset. -/
inductive Steps (s : GtsStream) : GtsStream → Prop where
  | same : Steps s s
  | sendPacket {s' : GtsStream} {tunnelId : U32} {data : Bytes} {isEnd : Bool} {now : U64}
      {packet : GtsPacket} (h : s.sendPacket tunnelId data isEnd now = .ok (packet, s')) : Steps s s'
  | retransmitDue (tunnelId : U32) (now : U64) : Steps s (s.retransmitDue tunnelId now).2
  | receivePacket {s' : GtsStream} {packet : GtsPacket} {reply : Option GtsPacket}
      (h : s.receivePacket packet = .ok (reply, s')) : Steps s s'
  | onAck {s' : GtsStream} {base bitmap : U32} {credit : U8} (h : s.onAck base bitmap credit = .ok s') :
      Steps s s'
  | applyOpenAck {s' : GtsStream} {credit : U8} (h : s.applyOpenAck credit = .ok s') : Steps s s'
  | closing (h : s.state = .open ∨ s.state = .closing) : Steps s { s with state := .closing }
  | closed : Steps s { s with state := .closed }

theorem Steps.continues (h : s.Steps s') :
  s.Continues s'
  := by
  cases h with
  | same => exact .refl s
  | sendPacket h => exact continues_sendPacket h
  | retransmitDue tunnelId now => exact continues_retransmitDue s tunnelId now
  | receivePacket h => exact continues_receivePacket h
  | onAck h => exact continues_onAck h
  | applyOpenAck h => exact continues_applyOpenAck h
  | closing h => exact continues_closing h
  | closed => exact continues_closed s

/-- What a stream sends opens nothing. -/
theorem quiet_sendPacket {tunnelId : U32} {data : Bytes} {isEnd : Bool} {now : U64}
    {packet : GtsPacket} (h : s.sendPacket tunnelId data isEnd now = .ok (packet, s')) :
  packet.Quiet
  := by
  rw [sendPacket] at h
  split at h
  · cases h
  split at h
  · cases h
  split at h
  · cases h
  split at h
  · cases h
  split at h
  · split at h
    · cases h
      trivial
    · cases h
      trivial
  · split at h
    · cases h
    split at h
    · cases h
    · cases h
      trivial

theorem quiet_receiveCreditAck {tunnelId : U32} {packet : GtsPacket}
    (h : s.receiveCreditAck tunnelId = some packet) :
  packet.Quiet
  := by
  rw [receiveCreditAck] at h
  split at h
  · cases h
  split at h
  · cases h
  obtain ⟨a, -, rfl⟩ := Option.map_eq_some_iff.mp h
  trivial

theorem quiet_retransmitDue {tunnelId : U32} {now : U64} {packet : GtsPacket}
    (h : packet ∈ (s.retransmitDue tunnelId now).1) :
  packet.Quiet
  := by
  rw [retransmitDue] at h
  split at h
  · cases h
  · obtain ⟨m, -, rfl⟩ := List.mem_map.mp h
    trivial

end GtsStream

/-! ### Tunnels -/

namespace GtsTunnel

variable {t t' : GtsTunnel}

/-- Something may have happened to streams of the tunnel. -/
structure Continues (t t' : GtsTunnel) : Prop where
  rest : t' = { t with streams := t'.streams }
  streams : ∀ id : U8, Option.Rel GtsStream.Continues t.streams[id]? t'.streams[id]?

/-- A relation between the streams of two tunnels that are the same otherwise. -/
structure Related (R : GtsStream → GtsStream → Prop) (t t' : GtsTunnel) : Prop where
  rest : t' = { t with streams := t'.streams }
  streams : ∀ id : U8, Option.Rel R t.streams[id]? t'.streams[id]?

/-- Something has happened to streams of the tunnel, except that the application took a message and
that one was reset. -/
abbrev Steps : GtsTunnel → GtsTunnel → Prop :=
  Related GtsStream.Steps

theorem Related.continues {R : GtsStream → GtsStream → Prop} (h : t.Related R t')
    (hcontinues : ∀ s s', R s s' → s.Continues s') :
  t.Continues t'
  := by
  use h.rest
  intro id
  apply TreeMap.rel_imp hcontinues (h.streams id)

theorem Steps.continues (h : t.Steps t') :
  t.Continues t'
  := Related.continues h (fun _ _ => GtsStream.Steps.continues)

/-- Something has happened to a stream. -/
theorem related_insert {R : GtsStream → GtsStream → Prop} (hrefl : ∀ s, R s s) {id : U8}
    {s s' : GtsStream} (hs : t.stream id = .ok s) (h : R s s') :
  t.Related R { t with streams := t.streams.insert id s' }
  := by
  refine ⟨rfl, ?_⟩
  intro k
  dsimp only
  rw [TreeMap.getElem?_insert]
  by_cases hk : id = k
  · subst hk
    rw [stream] at hs
    split at hs
    · next hsome =>
      cases hs
      rw [if_pos rfl, hsome]
      exact .some h
    · cases hs
  · rw [if_neg hk]
    cases t.streams[k]? with
    | none => exact .none
    | some s => exact .some (hrefl s)

/-- The same has happened to all streams. -/
theorem related_map {R : GtsStream → GtsStream → Prop} {f : GtsStream → GtsStream}
    (h : ∀ s, R s (f s)) :
  t.Related R { t with streams := t.streams.map (fun _ s => f s) }
  := by
  refine ⟨rfl, ?_⟩
  intro k
  dsimp only
  rw [Std.ExtTreeMap.getElem?_map]
  cases t.streams[k]? with
  | none => exact .none
  | some s => exact .some (h s)

theorem continues_insert {id : U8} {s s' : GtsStream} (hs : t.stream id = .ok s)
    (h : s.Continues s') :
  t.Continues { t with streams := t.streams.insert id s' }
  := (related_insert GtsStream.Continues.refl hs h).continues (fun _ _ h => h)

theorem continues_map {f : GtsStream → GtsStream} (h : ∀ s, GtsStream.Continues s (f s)) :
  t.Continues { t with streams := t.streams.map (fun _ s => f s) }
  := (related_map h).continues (fun _ _ h => h)

/-- What establishing a tunnel does. -/
theorem continues_establishInitiator {id resetId : U32} {credit : U8}
    (h : t.establishInitiator id resetId credit = .ok t') :
  t.state = .connecting ∧
    Continues { t with remoteReceiveId := some id, remoteResetId := some resetId, state := .established }
      t'
  := by
  rw [establishInitiator] at h
  split at h
  · cases h
  · next hconnecting =>
    cases h
    refine ⟨not_not.mp hconnecting, rfl, ?_⟩
    intro k
    dsimp only
    rw [TreeMap.getElem?_modify]
    split
    · cases t.streams[k]? with
      | none => exact .none
      | some s => exact .some (.of_state rfl rfl rfl rfl)
    · cases t.streams[k]? with
      | none => exact .none
      | some s => exact .some (.refl s)

/-- The tunnel `t'` is the tunnel `t` later on, while it is not established and no stream is added to
it. -/
structure Keeps (t t' : GtsTunnel) : Prop where
  role : t'.role = t.role
  nextStreamId : t'.nextStreamId = t.nextStreamId
  remoteReceiveId : t'.remoteReceiveId = t.remoteReceiveId
  established : t'.state = .established → t.state = .established
  streams : ∀ id : U8, Option.Rel GtsStream.Continues t.streams[id]? t'.streams[id]?

theorem Continues.refl (t : GtsTunnel) :
  Continues t t
  := by
  refine ⟨rfl, ?_⟩
  intro id
  cases t.streams[id]? with
  | none => exact .none
  | some s => exact .some (.refl s)

theorem Continues.keeps (h : t.Continues t') :
  t.Keeps t'
  := by
  refine ⟨?_, ?_, ?_, ?_, h.streams⟩
  · rw [h.rest]
  · rw [h.rest]
  · rw [h.rest]
  · rw [h.rest]
    exact id

/-- A tunnel that is being closed, or is closed. -/
theorem keeps_state (t : GtsTunnel) {state : TunnelState} (hstate : state ≠ .established) :
  t.Keeps { t with state := state }
  := ⟨rfl, rfl, rfl, fun h => absurd h hstate, (Continues.refl t).streams⟩

theorem keeps_reset (t : GtsTunnel) :
  t.Keeps t.reset
  := ⟨rfl, rfl, rfl, nofun, (continues_map GtsStream.continues_reset).streams⟩

end GtsTunnel

end SmolGnet
