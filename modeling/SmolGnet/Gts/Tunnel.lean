import SmolGnet.Gts.Stream

/-!
# Tunnels

A tunnel joins two endpoints and holds the streams between them.  Stream 0 is there from
the start; the further streams have even numbers when the initiator has opened them and
odd ones when the responder has.
-/

namespace SmolGnet

/-- Which side has asked for the tunnel. -/
inductive TunnelRole where
  | initiator
  | responder
  deriving DecidableEq, Repr

/-- The states of a tunnel. -/
inductive TunnelState where
  | connecting
  | established
  | closing
  | closed
  | reset
  deriving DecidableEq, Repr

/-- One end of a tunnel. -/
structure GtsTunnel where
  role : TunnelRole
  state : TunnelState
  localReceiveId : U32
  remoteReceiveId : Option U32
  localResetId : U32
  remoteResetId : Option U32
  css : ServiceSelector
  streams : BTreeMap U8 GtsStream
  nextStreamId : U8
  deriving DecidableEq

namespace GtsTunnel

/-- The tunnel of a side that asks for one. -/
def initiator (localReceiveId localResetId : U32) (css : ServiceSelector)
    (stream0Profile : StreamProfile) (localCredit : U8) : Except Error GtsTunnel := do
  let stream ← GtsStream.new 0#8 stream0Profile true localCredit 0#8
  .ok
    { role := .initiator
      state := .connecting
      localReceiveId
      remoteReceiveId := none
      localResetId
      remoteResetId := none
      css
      streams := (∅ : BTreeMap U8 GtsStream).insert 0#8 stream
      nextStreamId := 2#8 }

/-- The tunnel of a side that is asked for one. -/
def responder (localReceiveId localResetId remoteReceiveId remoteResetId : U32)
    (css : ServiceSelector) (stream0Profile : StreamProfile) (localCredit peerCredit : U8) :
    Except Error GtsTunnel := do
  let stream ← GtsStream.new 0#8 stream0Profile false localCredit peerCredit
  .ok
    { role := .responder
      state := .established
      localReceiveId
      remoteReceiveId := some remoteReceiveId
      localResetId
      remoteResetId := some remoteResetId
      css
      streams := (∅ : BTreeMap U8 GtsStream).insert 0#8 stream
      nextStreamId := 1#8 }

/-- The other side has accepted the tunnel. -/
def establishInitiator (t : GtsTunnel) (remoteReceiveId remoteResetId : U32) (peerCredit : U8) :
    Except Error GtsTunnel :=
  if t.state ≠ .connecting then .error .invalidState
  else
    .ok { t with
      remoteReceiveId := some remoteReceiveId
      remoteResetId := some remoteResetId
      state := .established
      streams := t.streams.modify 0#8 (fun s =>
        { s with reliableTx := s.reliableTx.map (fun tx => { tx with peerCredit }) }) }

/-- A number for a stream this side opens. -/
def allocStreamId (t : GtsTunnel) : Except Error (U8 × GtsTunnel) :=
  if t.state ≠ .established then .error .invalidState
  else if 253#8 < t.nextStreamId then .error .bufferFull
  else .ok (t.nextStreamId, { t with nextStreamId := t.nextStreamId + 2#8 })

/-- Add a stream. -/
def addStream (t : GtsTunnel) (id : U8) (profile : StreamProfile) (openedByLocal : Bool)
    (localCredit peerCredit : U8) : Except Error GtsTunnel :=
  if t.state ≠ .established ∨ id ∈ t.streams then .error .invalidState
  else do
    let stream ← GtsStream.new id profile openedByLocal localCredit peerCredit
    .ok { t with streams := t.streams.insert id stream }

/-- A stream, to be read or changed. -/
def stream (t : GtsTunnel) (id : U8) : Except Error GtsStream :=
  match t.streams[id]? with
  | some s => .ok s
  | none => .error .unknownStream

/-- The number of the tunnel on the other side. -/
def remoteId (t : GtsTunnel) : Except Error U32 :=
  match t.remoteReceiveId with
  | some id => .ok id
  | none => .error .invalidState

/-- Abandon the tunnel and its streams. -/
def reset (t : GtsTunnel) : GtsTunnel :=
  { t with
    state := .reset
    streams := t.streams.map (fun _ s => s.reset) }

/-! ### What is found -/

theorem stream_eq_ok_iff {t : GtsTunnel} {id : U8} {s : GtsStream} :
  t.stream id = .ok s ↔ t.streams[id]? = some s
  := by
  rw [stream]
  cases t.streams[id]? with
  | none => simp
  | some s' => simp

theorem remoteId_eq_ok {t : GtsTunnel} {id : U32} (h : t.remoteId = .ok id) :
  t.remoteReceiveId = some id
  := by
  rw [remoteId] at h
  split at h
  · next hsome =>
    cases h
    exact hsome
  · cases h

/-! ### What a new tunnel is -/

theorem initiator_eq_ok
    {localReceiveId localResetId : U32} {css : ServiceSelector} {profile : StreamProfile}
    {localCredit : U8} {t : GtsTunnel}
    (h : initiator localReceiveId localResetId css profile localCredit = .ok t) :
  ∃ s, GtsStream.new 0#8 profile true localCredit 0#8 = .ok s ∧
    t.streams = (∅ : BTreeMap U8 GtsStream).insert 0#8 s
  := by
  obtain ⟨s, hs, ht⟩ := bind_eq_ok.mp h
  cases ht
  exact ⟨s, hs, rfl⟩

theorem responder_eq_ok
    {localReceiveId localResetId remoteReceiveId remoteResetId : U32} {css : ServiceSelector}
    {profile : StreamProfile} {localCredit peerCredit : U8} {t : GtsTunnel}
    (h : responder localReceiveId localResetId remoteReceiveId remoteResetId css profile localCredit
      peerCredit = .ok t) :
  ∃ s, GtsStream.new 0#8 profile false localCredit peerCredit = .ok s ∧
    t.streams = (∅ : BTreeMap U8 GtsStream).insert 0#8 s ∧ t.state = .established ∧
    t.remoteReceiveId = some remoteReceiveId
  := by
  obtain ⟨s, hs, ht⟩ := bind_eq_ok.mp h
  cases ht
  exact ⟨s, hs, rfl, rfl, rfl⟩

/-- The other end of a tunnel and its credit are known from the answer on. -/
theorem establishInitiator_eq_ok
    {t t' : GtsTunnel} {remoteReceiveId remoteResetId : U32} {peerCredit : U8} {s : GtsStream}
    (hs : t.streams = (∅ : BTreeMap U8 GtsStream).insert 0#8 s)
    (h : t.establishInitiator remoteReceiveId remoteResetId peerCredit = .ok t') :
  t'.streams = (∅ : BTreeMap U8 GtsStream).insert 0#8
      { s with reliableTx := s.reliableTx.map (fun tx => { tx with peerCredit }) } ∧
    t'.state = .established ∧ t'.remoteReceiveId = some remoteReceiveId
  := by
  rw [establishInitiator] at h
  split at h
  · cases h
  · cases h
    refine ⟨?_, rfl, rfl⟩
    dsimp only
    rw [hs, TreeMap.modify_insert_empty]

/-! ### What a new stream is -/

/-- A number is given out in an established tunnel, and the next one is two further. -/
theorem allocStreamId_eq_ok {t t' : GtsTunnel} {id : U8} (h : t.allocStreamId = .ok (id, t')) :
  t.state = .established ∧ ¬ 253#8 < id ∧ id = t.nextStreamId ∧
    t' = { t with nextStreamId := id + 2#8 }
  := by
  rw [allocStreamId] at h
  split at h
  · cases h
  next hstate =>
  split at h
  · cases h
  next hle =>
  cases h
  exact ⟨not_not.mp hstate, hle, rfl, rfl⟩

section

variable {t t' : GtsTunnel} {id : U8} {profile : StreamProfile} {openedByLocal : Bool}
  {localCredit peerCredit : U8}

theorem addStream_eq_ok (h : t.addStream id profile openedByLocal localCredit peerCredit = .ok t') :
  t.state = .established ∧ id ∉ t.streams ∧ ∃ s, s.profile = profile ∧
    s.openedByLocal = openedByLocal ∧ t' = { t with streams := t.streams.insert id s }
  := by
  rw [addStream] at h
  split at h
  · cases h
  next hok =>
  obtain ⟨hstate, hid⟩ := not_or.mp hok
  obtain ⟨s, hs, h⟩ := bind_eq_ok.mp h
  cases h
  obtain ⟨hprofile, hopened⟩ := GtsStream.fields_of_new hs
  exact ⟨not_not.mp hstate, hid, s, hprofile, hopened, rfl⟩

/-- A stream with a valid profile and a new number can be added to an established tunnel. -/
theorem exists_addStream (hstate : t.state = .established) (hid : id ∉ t.streams)
    (hvalid : profile.validate = .ok profile) (openedByLocal : Bool) (localCredit peerCredit : U8) :
  ∃ t', t.addStream id profile openedByLocal localCredit peerCredit = .ok t'
  := by
  rw [addStream, if_neg (not_or.mpr ⟨not_not.mpr hstate, hid⟩), GtsStream.new, hvalid]
  exact ⟨_, rfl⟩

end

end GtsTunnel

end SmolGnet
