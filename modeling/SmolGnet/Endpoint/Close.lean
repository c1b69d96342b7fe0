import SmolGnet.Endpoint.Joined
import SmolGnet.Library.Machine

/-!
# Closing a stream

Two endpoints are joined by one reliable stream, over a channel that may drop, duplicate
and reorder packets: everything ever sent stays available, and a delivery picks any of it.

An end that is told that the stream closes, or that its own request to close it was
granted, closes the stream at once, and from then on rejects every message.  It does not
know whether messages are still on their way: the sequence number that the request to
close carries is always 0 and nobody looks at it.  The sender goes on to send those
messages again, in vain.  A message with the end mark has the same effect when it overtakes
others.  So no message is lost exactly as long as a packet that ends the stream is processed
only when all other messages that are outstanding at its sender have been accepted.
-/

namespace SmolGnet

namespace GtsStream

/-! ### What happens to a stream -/

/-- The message is outstanding. -/
def Outstanding (s : GtsStream) (seq : U32) (data : Bytes) (isEnd : Bool) : Prop :=
  ∃ tx sentAt, s.reliableTx = some tx ∧ tx.outstanding[seq]? = some ⟨data, isEnd, sentAt⟩

/-- The stream takes no more messages for sending. -/
def Silent (s : GtsStream) : Prop :=
  s.state ≠ .open ∨ s.localEnded = true

/-- The stream accepts no more messages from the other end. -/
def Shut (s : GtsStream) : Prop :=
  s.state = .closed ∨ s.remoteEnded = true

/-- Whatever happens to a stream other than a reset. -/
structure Follows (s s' : GtsStream) : Prop where
  id_eq : s'.id = s.id
  profile_eq : s'.profile = s.profile
  opened_eq : s'.openedByLocal = s.openedByLocal
  reset : s'.state = .reset → s.state = .reset
  silent : s.Silent → s'.Silent
  outstanding : ∀ seq data isEnd, s'.Outstanding seq data isEnd → s.Outstanding seq data isEnd ∨
    (¬ s.Silent ∧ s.validateSendLen data.length isEnd = .ok () ∧
      s.localMaySend s.openedByLocal = true ∧ (isEnd = true → s'.Silent))

variable {s s' : GtsStream}

theorem Follows.refl (s : GtsStream) :
  Follows s s
  := ⟨rfl, rfl, rfl, fun h => h, fun h => h, fun _ _ _ => Or.inl⟩

theorem follows_sendPacket
    {tunnelId : U32} {data : Bytes} {isEnd : Bool} {now : U64} {packet : GtsPacket}
    (hrel : s.profile.unreliable = false)
    (h : s.sendPacket tunnelId data isEnd now = .ok (packet, s')) :
  Follows s s' ∧ (s'.Shut → s.Shut) ∧
    ∃ seq, packet = .data tunnelId s.id seq data isEnd ∧ (isEnd = true → s'.Silent)
  := by
  obtain ⟨hopen, hended, hmay, hlen, tx, seq, tx', htx, hqueue, rfl, rfl⟩ :=
    sendPacket_eq_ok hrel h
  have hsilent : ¬ s.Silent := by
    simp [Silent, hopen, hended]
  have hend : isEnd = true →
      { s with reliableTx := some tx', localEnded := isEnd }.Silent := by
    rintro rfl
    exact Or.inr rfl
  refine ⟨⟨rfl, rfl, rfl, fun h => h, fun h => absurd h hsilent, ?_⟩, fun h => h, seq, rfl, hend⟩
  rintro seq' data' isEnd' ⟨tx'', sentAt, htx'', hget⟩
  cases htx''
  obtain ⟨-, rfl, rfl⟩ := ReliableTx.queue_eq_ok hqueue
  dsimp only at hget
  rw [TreeMap.getElem?_insert] at hget
  split at hget
  · cases hget
    exact Or.inr ⟨hsilent, hlen, hmay, hend⟩
  · exact Or.inl ⟨tx, sentAt, htx, hget⟩

theorem follows_closing (s : GtsStream) :
  Follows s { s with state := .closing } ∧ ({ s with state := .closing }.Shut → s.Shut)
  := by
  refine ⟨⟨rfl, rfl, rfl, ?_, fun _ => Or.inl (by simp), fun _ _ _ => Or.inl⟩, ?_⟩
  · rintro ⟨⟩
  · rintro (⟨⟨⟩⟩ | hended)
    exact Or.inr hended

theorem follows_closed (s : GtsStream) :
  Follows s { s with state := .closed }
  := by
  refine ⟨rfl, rfl, rfl, ?_, fun _ => Or.inl (by simp), fun _ _ _ => Or.inl⟩
  rintro ⟨⟩

theorem follows_recv (hrel : s.profile.unreliable = false) :
  Follows s s.recv.2 ∧ (s.recv.2.Shut → s.Shut)
  := by
  obtain ⟨heq, -⟩ := recv_eq hrel (Prod.mk.eta (p := s.recv)).symm
  rw [heq]
  exact ⟨⟨rfl, rfl, rfl, fun h => h, fun h => h, fun _ _ _ => Or.inl⟩, fun h => h⟩

theorem follows_retransmitDue (s : GtsStream) (tunnelId : U32) (now : U64) :
  Follows s (s.retransmitDue tunnelId now).2 ∧ ((s.retransmitDue tunnelId now).2.Shut → s.Shut)
  := by
  rw [retransmitDue]
  split
  · exact ⟨.refl s, fun h => h⟩
  · next tx htx =>
    refine ⟨⟨rfl, rfl, rfl, fun h => h, fun h => h, ?_⟩, fun h => h⟩
    rintro seq data isEnd ⟨tx', sentAt, htx', hget⟩
    cases htx'
    obtain ⟨p, hp, hpe⟩ := Option.map_eq_some_iff.mp ((tx.getElem?_due now seq).symm.trans hget)
    refine Or.inl ⟨tx, p.sentAt, htx, ?_⟩
    rw [hp]
    split at hpe
    · cases hpe
      rfl
    · cases hpe
      rfl

theorem mem_retransmitDue {tunnelId : U32} {now : U64} {packet : GtsPacket}
    (h : packet ∈ (s.retransmitDue tunnelId now).1) :
  ∃ seq data isEnd, packet = .data tunnelId s.id seq data isEnd ∧ s.Outstanding seq data isEnd
  := by
  rw [retransmitDue] at h
  split at h
  · cases h
  · next tx htx =>
    obtain ⟨⟨seq, data, isEnd⟩, hmem, rfl⟩ := List.mem_map.mp h
    obtain ⟨sentAt, hget⟩ := ReliableTx.mem_due hmem
    exact ⟨seq, data, isEnd, rfl, tx, sentAt, htx, hget⟩

theorem follows_receivePacket
    {tunnelId : U32} {streamId : U8} {seq : U32} {data : Bytes} {isEnd : Bool}
    {ack : Option GtsPacket} (hrel : s.profile.unreliable = false)
    (h : s.receivePacket (.data tunnelId streamId seq data isEnd) = .ok (ack, s')) :
  Follows s s' ∧ (s'.Shut → s.Shut ∨ isEnd = true)
  := by
  obtain ⟨_, _, _, _, _, _, _, heq, -, -, -, -, rfl⟩ := receivePacket_eq_ok hrel h
  cases heq
  refine ⟨⟨rfl, rfl, rfl, fun h => h, fun h => h, fun _ _ _ => Or.inl⟩, ?_⟩
  rintro (hclosed | hended)
  · exact Or.inl (Or.inl hclosed)
  · exact Or.inr hended

theorem follows_onAck {base bitmap : U32} {credit : U8} (h : s.onAck base bitmap credit = .ok s') :
  Follows s s' ∧ (s'.Shut → s.Shut)
  := by
  rw [onAck] at h
  split at h
  · cases h
  · split at h
    · cases h
    · next tx htx =>
      cases h
      refine ⟨⟨rfl, rfl, rfl, fun h => h, fun h => h, ?_⟩, fun h => h⟩
      rintro seq data isEnd ⟨tx', sentAt, htx', hget⟩
      cases htx'
      rw [ReliableTx.getElem?_onAck] at hget
      split at hget
      · cases hget
      · exact Or.inl ⟨tx, sentAt, htx, hget⟩

/-- One end of a reliable stream that has not been reset. -/
structure Regular (s : GtsStream) : Prop where
  reliable : s.profile.unreliable = false
  not_reset : s.state ≠ .reset
  outstanding : ∀ seq data isEnd, s.Outstanding seq data isEnd →
    s.validateSendLen data.length isEnd = .ok () ∧ s.localMaySend s.openedByLocal = true ∧
      (isEnd = true → s.Silent)

theorem validateSendLen_congr (h : s'.profile = s.profile) :
  s'.validateSendLen = s.validateSendLen
  := by
  funext dataLen isEnd
  simp only [validateSendLen, fixedUnreliableDataLen, fixedReliableEndCapacity,
    fixedReliableDataLen, h]

theorem localMaySend_congr (h : s'.profile = s.profile) :
  s'.localMaySend = s.localMaySend
  := by
  funext localIsOpener
  rw [localMaySend, localMaySend, h]

theorem Regular.follows (hs : s.Regular) (h : Follows s s') :
  s'.Regular
  := by
  refine ⟨h.profile_eq ▸ hs.reliable, fun hreset => hs.not_reset (h.reset hreset), ?_⟩
  intro seq data isEnd hout
  rw [validateSendLen_congr h.profile_eq, localMaySend_congr h.profile_eq, h.opened_eq]
  rcases h.outstanding seq data isEnd hout with hold | ⟨-, hnew⟩
  · obtain ⟨hlen, hmay, hsilent⟩ := hs.outstanding seq data isEnd hold
    exact ⟨hlen, hmay, fun hend => h.silent (hsilent hend)⟩
  · exact hnew

/-- A message that is outstanding is accepted by the other end, unless that is shut. -/
theorem Regular.admits {peer : GtsStream} (hs : s.Regular) (hpeer : peer.Regular)
    (hprofile : peer.profile = s.profile) (hopened : peer.openedByLocal = !s.openedByLocal)
    (hshut : ¬ peer.Shut) {seq : U32} {data : Bytes} {isEnd : Bool}
    (hout : s.Outstanding seq data isEnd) (tunnelId : U32) (streamId : U8) :
  ∃ c, (GtsPacket.data tunnelId streamId seq data isEnd).chooseSizeClass (some s.profile)
      = .ok c ∧
    peer.validateIncoming c (.data tunnelId streamId seq data isEnd) = .ok ()
  := by
  obtain ⟨hlen, hmay, -⟩ := hs.outstanding seq data isEnd hout
  obtain ⟨c, hc, hvalid⟩ :=
    chooseSizeClass_of_validateSendLen hs.reliable hprofile hlen tunnelId streamId seq
  have hremote : peer.remoteMaySend peer.openedByLocal = true := by
    rw [remoteMaySend, hopened, hprofile]
    rw [localMaySend] at hmay
    cases hlocal : s.openedByLocal with
    | true => simpa [hlocal] using hmay
    | false => simpa [hlocal] using hmay
  obtain ⟨hclosed, hended⟩ := not_or.mp hshut
  refine ⟨c, hc, ?_⟩
  rw [validateIncoming, if_neg (by simp [hclosed, hpeer.not_reset])]
  simp only [hpeer.reliable, hended, hremote, Bool.false_eq_true, or_self, Bool.not_true, if_false]
  exact hvalid

end GtsStream

namespace Endpoint

/-! ### What happens to an end -/

/-- A packet of the stream that is not about a reset, sent by an end whose stream is `s`:
an end that has sent a packet that ends the stream sends no more messages. -/
def Ordinary (s : GtsStream) (packet : GtsPacket) : Prop :=
  (∃ tunnelId streamId seq data isEnd, packet = .data tunnelId streamId seq data isEnd ∧
    (isEnd = true → s.Silent)) ∨
  IsAck packet ∨
  (∃ tunnelId streamId finalSequence ack,
    packet = .streamClose tunnelId streamId finalSequence ack) ∧ s.Silent

/-- The end has moved on, from the stream state `s` to `s'`. -/
def Moves (e e' : Endpoint) (h remote : U32) (id : U8) (s s' : GtsStream) : Prop :=
  GtsStream.Follows s s' ∧ e.Outcome e' h remote id s' (Ordinary s')

/-- The packet is a message that the stream takes. -/
def takes (s : GtsStream) (sizeClass : SizeClass) (packet : GtsPacket) : Bool :=
  (s.validateIncoming sizeClass packet).isOk && (s.receivePacket packet).isOk

/-- The message that is accepted when the packet arrives, if it is accepted and has not been
accepted before. -/
def accepts (e : Endpoint) (sizeClass : SizeClass) (packet : GtsPacket) :
    Option (U32 × Bytes × Bool) :=
  match packet with
  | .data tunnelId streamId seq data isEnd =>
    match e.findStream tunnelId streamId with
    | .error _ => none
    | .ok (_, s) =>
      if takes s sizeClass packet &&
        s.reliableRx.any (fun rx => rx.nextExpected ≤ seq && !rx.pending.contains seq)
      then some (seq, data, isEnd)
      else none
  | _ => none

/-- The packet ends what the stream accepts: it closes the stream, or it is the message
with the end mark and the stream takes it. -/
def endedBy (e : Endpoint) (sizeClass : SizeClass) (packet : GtsPacket) : Bool :=
  match packet with
  | .streamClose .. => true
  | .data tunnelId streamId _ _ isEnd =>
    match e.findStream tunnelId streamId with
    | .error _ => false
    | .ok (_, s) => isEnd && takes s sizeClass packet
  | _ => false

variable {e e' : Endpoint} {h remote : U32} {id : U8} {s s' : GtsStream}

theorem Ordinary.follows {packet : GtsPacket} (hp : Ordinary s packet)
    (h : GtsStream.Follows s s') :
  Ordinary s' packet
  := by
  rcases hp with ⟨tunnelId, streamId, seq, data, isEnd, rfl, hend⟩ | hack | ⟨hclose, hsilent⟩
  · exact Or.inl ⟨_, _, _, _, _, rfl, fun hisEnd => h.silent (hend hisEnd)⟩
  · exact Or.inr (Or.inl hack)
  · exact Or.inr (Or.inr ⟨hclose, h.silent hsilent⟩)

theorem Ordinary.silent {sizeClass : SizeClass} {packet : GtsPacket} (hp : Ordinary s packet)
    (hends : e.endedBy sizeClass packet = true) :
  s.Silent
  := by
  rcases hp with ⟨_, _, _, _, isEnd, rfl, hend⟩ | ⟨_, _, _, _, _, rfl⟩ | ⟨-, hsilent⟩
  · apply hend
    simp only [endedBy] at hends
    split at hends
    · cases hends
    · exact (Bool.and_eq_true_iff.mp hends).1
  · cases hends
  · exact hsilent

theorem Outcome.imp {P Q : GtsPacket → Prop} (ho : e.Outcome e' h remote id s P)
    (himp : ∀ packet, P packet → Q packet) :
  e.Outcome e' h remote id s Q
  := by
  obtain ⟨hj, out, hout, hall⟩ := ho
  exact ⟨hj, out, hout, fun x hx => himp _ (hall x hx)⟩

theorem moves_self (hj : e.Joined h remote id s) :
  e.Moves e h remote id s s
  := ⟨.refl s, hj.outcome _⟩

/-- What the application does, and time, does not shut the stream. -/
theorem Joined.moves_sendInner (hj : e.Joined h remote id s) (hs : s.Regular)
    (data : Bytes) (isEnd : Bool) (now : U64) :
  ∃ s', (s'.Shut → s.Shut) ∧ e.Moves (e.sendInner h id data isEnd now).2 h remote id s s'
  := by
  rcases hj.sendInner data isEnd now with heq | ⟨packet, s', hsend, ho⟩
  · rw [heq]
    exact ⟨s, fun h => h, moves_self hj⟩
  · obtain ⟨hfollows, hshut, seq, rfl, hend⟩ := GtsStream.follows_sendPacket hs.reliable hsend
    refine ⟨s', hshut, hfollows, ho.imp ?_⟩
    rintro _ rfl
    exact Or.inl ⟨_, _, _, _, _, rfl, hend⟩

theorem Joined.moves_recv (hj : e.Joined h remote id s) (hs : s.Regular) :
  ∃ s', (s'.Shut → s.Shut) ∧ e.Moves (e.recv h id).2 h remote id s s'
  := by
  obtain ⟨hfollows, hshut⟩ := GtsStream.follows_recv hs.reliable
  exact ⟨_, hshut, hfollows, hj.recv.imp fun _ hack => Or.inr (Or.inl hack)⟩

theorem Joined.moves_tick (hj : e.Joined h remote id s) (hs : s.Regular) (now : U64) :
  ∃ s', (s'.Shut → s.Shut) ∧ e.Moves (e.tick now).2 h remote id s s'
  := by
  obtain ⟨hfollows, hshut⟩ := GtsStream.follows_retransmitDue s remote now
  refine ⟨_, hshut, hfollows, (hj.tick now).imp ?_⟩
  intro packet hpacket
  obtain ⟨seq, data, isEnd, rfl, hout⟩ := GtsStream.mem_retransmitDue hpacket
  obtain ⟨-, -, hend⟩ := hs.outstanding seq data isEnd hout
  exact Or.inl ⟨_, _, _, _, _, rfl, fun hisEnd => hfollows.silent (hend hisEnd)⟩

theorem Joined.moves_closeStream (hj : e.Joined h remote id s) :
  ∃ s', (s'.Shut → s.Shut) ∧ e.Moves (e.closeStream h id).2 h remote id s s'
  := by
  rcases hj.closeStream with ⟨-, heq⟩ | ⟨-, ho⟩
  · rw [heq]
    exact ⟨s, fun h => h, moves_self hj⟩
  · obtain ⟨hfollows, hshut⟩ := GtsStream.follows_closing s
    refine ⟨_, hshut, hfollows, ho.imp ?_⟩
    rintro _ rfl
    exact Or.inr (Or.inr ⟨⟨_, _, _, _, rfl⟩, Or.inl (by simp)⟩)

/-- A packet arrives.  It shuts the stream only if it ends what the stream accepts. -/
theorem Joined.moves_handleGts
    {peer : GtsStream} {packet : GtsPacket} (hj : e.Joined h remote id s) (hs : s.Regular)
    (hp : Ordinary peer packet) (src : GdpAddress) (sizeClass : SizeClass) :
  ∃ s', (s'.Shut → s.Shut ∨ e.endedBy sizeClass packet = true) ∧
    e.Moves (e.handleGts src sizeClass packet).2 h remote id s s'
  := by
  rcases hp with ⟨tunnelId, streamId, seq, data, isEnd, rfl, -⟩ | ⟨_, _, _, _, _, rfl⟩ |
    ⟨⟨_, _, finalSequence, ack, rfl⟩, -⟩
  · rw [handleGts]
    rcases hj.handleData sizeClass tunnelId streamId (.data tunnelId streamId seq data isEnd)
      with heq | ⟨r, ack, s', hfind, hvalid, hreceive, ho⟩
    · rw [heq]
      exact ⟨s, Or.inl, moves_self hj⟩
    · obtain ⟨hfollows, hshut⟩ := GtsStream.follows_receivePacket hs.reliable hreceive
      refine ⟨s', fun h => (hshut h).imp_right ?_, hfollows, ho.imp fun _ h => Or.inr (Or.inl h)⟩
      rintro rfl
      simp only [endedBy, hfind, takes, hvalid, hreceive]
      rfl
  · rw [handleGts]
    rcases hj.handleAck sizeClass _ _ _ _ _ with heq | ⟨s', hack, ho⟩
    · rw [heq]
      exact ⟨s, Or.inl, moves_self hj⟩
    · obtain ⟨hfollows, hshut⟩ := GtsStream.follows_onAck hack
      exact ⟨s', fun h => Or.inl (hshut h), hfollows, ho.imp fun _ h => Or.inr (Or.inl h)⟩
  · rw [handleGts]
    rcases hj.handleStreamClose sizeClass _ _ finalSequence ack with heq | ho
    · rw [heq]
      exact ⟨s, Or.inl, moves_self hj⟩
    · refine ⟨_, fun _ => Or.inr rfl, GtsStream.follows_closed s, ho.imp ?_⟩
      rintro _ rfl
      exact Or.inr (Or.inr ⟨⟨_, _, _, _, rfl⟩, Or.inl (by simp)⟩)

end Endpoint

/-! ### Two ends -/

/-- Two endpoints with one stream, their numbers for its tunnel, and the messages of each
end that the other end has accepted. -/
structure EndpointPair where
  ends : Bool → Endpoint
  handles : Bool → U32
  id : U8
  accepted : Bool → List (U32 × Bytes × Bool)

namespace EndpointPair

/-- What can happen at the end `d`, or to a packet that the end `d` has sent. -/
inductive Action where
  | send (d : Bool) (data : Bytes) (isEnd : Bool) (now : U64)
  | closeStream (d : Bool)
  | tick (d : Bool) (now : U64)
  | recv (d : Bool)
  | deliver (d : Bool) (i : ℕ)
  deriving DecidableEq

/-- The endpoints are joined by a stream, and nothing is on its way. -/
def init (opener peer : Endpoint) (openerHandle peerHandle : U32) (id : U8) : EndpointPair where
  ends d := { (if d then opener else peer) with outbox := [] }
  handles d := if d then openerHandle else peerHandle
  id := id
  accepted _ := []

/-- Replace the end `d`. -/
def setEnd (s : EndpointPair) (d : Bool) (e : Endpoint) : EndpointPair :=
  { s with ends := Function.update s.ends d e }

/-- The packet with the number `i` that the end `d` has sent arrives at the other end. -/
def deliver (s : EndpointPair) (d : Bool) (i : ℕ) : EndpointPair :=
  match (s.ends d).outbox[i]? with
  | none => s
  | some (_, sizeClass, packet) =>
    { s.setEnd (!d) ((s.ends !d).handleGts (s.ends d).primaryAddress sizeClass packet).2 with
      accepted := Function.update s.accepted d
        (s.accepted d ++ ((s.ends !d).accepts sizeClass packet).toList) }

/-- One step. -/
def step (s : EndpointPair) : Action → EndpointPair
  | .send d data isEnd now =>
    s.setEnd d ((s.ends d).sendInner (s.handles d) s.id data isEnd now).2
  | .closeStream d => s.setEnd d ((s.ends d).closeStream (s.handles d) s.id).2
  | .tick d now => s.setEnd d ((s.ends d).tick now).2
  | .recv d => s.setEnd d ((s.ends d).recv (s.handles d) s.id).2
  | .deliver d i => s.deliver d i

/-- A packet of the end `d` that ends what the other end accepts arrives only when all
messages that are outstanding at the end `d` have been accepted, except the one that it
carries itself. -/
def CloseSafe (d : Bool) (s : EndpointPair) : Action → Prop
  | .deliver d' i => d' = d → ∀ peer sizeClass packet,
    (s.ends d).outbox[i]? = some (peer, sizeClass, packet) →
    (s.ends !d).endedBy sizeClass packet = true →
    ∀ r a, (s.ends d).findStream (s.handles d) s.id = .ok (r, a) →
    ∀ seq data isEnd, a.Outstanding seq data isEnd →
      (seq, data, isEnd) ∈ s.accepted d ∨
      (s.ends !d).accepts sizeClass packet = some (seq, data, isEnd)
  | _ => True

/-- Every message that is outstanding at the end `d` has been accepted by the other end, or
passes the checks of the other end when it is sent again. -/
def NothingLost (d : Bool) (s : EndpointPair) : Prop :=
  ∃ r r' a b, (s.ends d).findStream (s.handles d) s.id = .ok (r, a) ∧
    (s.ends !d).findStream (s.handles !d) s.id = .ok (r', b) ∧
    ∀ seq data isEnd, a.Outstanding seq data isEnd →
      (seq, data, isEnd) ∈ s.accepted d ∨
      ∃ c, (GtsPacket.data (s.handles !d) s.id seq data isEnd).chooseSizeClass (some a.profile)
          = .ok c ∧
        b.validateIncoming c (.data (s.handles !d) s.id seq data isEnd) = .ok ()

/-- The stream is `a` at the end `d` and `b` at the other end.  An end that accepts no more
messages has accepted all that are outstanding, and there will be no others. -/
structure Inv (d : Bool) (s : EndpointPair) (a b : GtsStream) : Prop where
  sender : (s.ends d).Joined (s.handles d) (s.handles !d) s.id a
  receiver : (s.ends !d).Joined (s.handles !d) (s.handles d) s.id b
  sent : ∀ x ∈ (s.ends d).outbox, Endpoint.Ordinary a x.2.2
  answered : ∀ x ∈ (s.ends !d).outbox, Endpoint.Ordinary b x.2.2
  sender_regular : a.Regular
  receiver_regular : b.Regular
  profile_eq : b.profile = a.profile
  opened_eq : b.openedByLocal = !a.openedByLocal
  shut : b.Shut → a.Silent ∧ ∀ seq data isEnd, a.Outstanding seq data isEnd →
    (seq, data, isEnd) ∈ s.accepted d

variable {d : Bool} {s : EndpointPair} {a b a' b' : GtsStream} {e : Endpoint}

/-- The packets that an end has sent remain ordinary. -/
theorem ordinary_of_moves {h remote : U32} {id : U8} {e₀ : Endpoint}
    (hsent : ∀ x ∈ e₀.outbox, Endpoint.Ordinary a x.2.2) (hm : e₀.Moves e h remote id a a') :
  ∀ x ∈ e.outbox, Endpoint.Ordinary a' x.2.2
  := by
  obtain ⟨hfollows, -, out, hout, hall⟩ := hm
  intro x hx
  rw [hout] at hx
  rcases List.mem_append.mp hx with hx | hx
  · exact (hsent x hx).follows hfollows
  · exact hall x hx

/-- The sender moves on. -/
theorem Inv.moveSender (h : s.Inv d a b)
    (hm : (s.ends d).Moves e (s.handles d) (s.handles !d) s.id a a') {l : Bool → _}
    (hl : l d = s.accepted d) :
  Inv d { s.setEnd d e with accepted := l } a' b
  := by
  have hfollows := hm.1
  refine
    { sender := ?_, receiver := ?_, sent := ?_, answered := ?_
      sender_regular := h.sender_regular.follows hfollows
      receiver_regular := h.receiver_regular
      profile_eq := h.profile_eq.trans hfollows.profile_eq.symm
      opened_eq := by rw [h.opened_eq, hfollows.opened_eq]
      shut := ?_ }
  · simpa [setEnd] using hm.2.1
  · simpa [setEnd] using h.receiver
  · simpa [setEnd] using ordinary_of_moves h.sent hm
  · simpa [setEnd] using h.answered
  · intro hshut
    obtain ⟨hsilent, hall⟩ := h.shut hshut
    refine ⟨hfollows.silent hsilent, ?_⟩
    intro seq data isEnd hout
    dsimp only
    rw [hl]
    rcases hfollows.outstanding seq data isEnd hout with hold | ⟨hnot, -⟩
    · exact hall seq data isEnd hold
    · exact absurd hsilent hnot

/-- The receiver moves on, and may accept messages. -/
theorem Inv.moveReceiver (h : s.Inv d a b)
    (hm : (s.ends !d).Moves e (s.handles !d) (s.handles d) s.id b b') {l : Bool → _}
    (hl : s.accepted d ⊆ l d)
    (hshut : b'.Shut → b.Shut ∨ (a.Silent ∧ ∀ seq data isEnd, a.Outstanding seq data isEnd →
      (seq, data, isEnd) ∈ l d)) :
  Inv d { s.setEnd (!d) e with accepted := l } a b'
  := by
  have hfollows := hm.1
  refine
    { sender := ?_, receiver := ?_, sent := ?_, answered := ?_
      sender_regular := h.sender_regular
      receiver_regular := h.receiver_regular.follows hfollows
      profile_eq := hfollows.profile_eq.trans h.profile_eq
      opened_eq := by rw [hfollows.opened_eq, h.opened_eq]
      shut := ?_ }
  · simpa [setEnd] using h.sender
  · simpa [setEnd] using hm.2.1
  · simpa [setEnd] using h.sent
  · simpa [setEnd] using ordinary_of_moves h.answered hm
  · intro hshut'
    rcases hshut hshut' with hold | hnew
    · obtain ⟨hsilent, hall⟩ := h.shut hold
      exact ⟨hsilent, fun seq data isEnd hout => hl (hall seq data isEnd hout)⟩
    · exact hnew

/-- One of the ends does something that does not shut the stream there. -/
theorem Inv.move (h : s.Inv d a b) (d' : Bool)
    (hm : ∀ t : GtsStream, ∀ remote, t.Regular →
      (s.ends d').Joined (s.handles d') remote s.id t →
      ∃ t', (t'.Shut → t.Shut) ∧ (s.ends d').Moves e (s.handles d') remote s.id t t') :
  ∃ a' b', Inv d (s.setEnd d' e) a' b'
  := by
  rcases Bool.eq_or_eq_not d' d with rfl | rfl
  · obtain ⟨a', -, hmoves⟩ := hm a _ h.sender_regular h.sender
    exact ⟨a', b, h.moveSender hmoves rfl⟩
  · obtain ⟨b', hshut, hmoves⟩ := hm b _ h.receiver_regular h.receiver
    exact ⟨a, b', h.moveReceiver hmoves (fun _ h => h) (fun h => Or.inl (hshut h))⟩

/-- A packet arrives. -/
theorem Inv.deliver (h : s.Inv d a b) {d' : Bool} {i : ℕ} (hsafe : s.CloseSafe d (.deliver d' i)) :
  ∃ a' b', Inv d (s.deliver d' i) a' b'
  := by
  rw [EndpointPair.deliver]
  split
  · exact ⟨a, b, h⟩
  · next peer sizeClass packet hpacket =>
    rcases Bool.eq_or_eq_not d' d with rfl | rfl
    · have hordinary := h.sent _ (List.mem_of_getElem? hpacket)
      obtain ⟨b', hshut, hmoves⟩ := h.receiver.moves_handleGts h.receiver_regular hordinary
        (s.ends d').primaryAddress sizeClass
      obtain ⟨r, -, hfind, -⟩ := h.sender.findStream_eq
      refine ⟨a, b', h.moveReceiver hmoves ?_ ?_⟩
      · rw [Function.update_self]
        exact List.subset_append_left ..
      · intro hshut'
        refine (hshut hshut').imp_right ?_
        intro hends
        refine ⟨hordinary.silent hends, ?_⟩
        intro seq data isEnd hout
        rw [Function.update_self, List.mem_append, Option.mem_toList]
        exact hsafe rfl peer sizeClass packet hpacket hends r a hfind seq data isEnd hout
    · have hordinary := h.answered _ (List.mem_of_getElem? hpacket)
      rw [Bool.not_not]
      obtain ⟨a', -, hmoves⟩ := h.sender.moves_handleGts h.sender_regular hordinary
        (s.ends !d).primaryAddress sizeClass
      refine ⟨a', b, h.moveSender hmoves ?_⟩
      exact Function.update_of_ne (by simp) ..

/-- One step. -/
theorem Inv.step (h : s.Inv d a b) {x : Action} (hsafe : s.CloseSafe d x) :
  ∃ a' b', Inv d (s.step x) a' b'
  := by
  cases x with
  | send d' data isEnd now => exact h.move d' fun t _ ht hj => hj.moves_sendInner ht data isEnd now
  | closeStream d' => exact h.move d' fun t _ _ hj => hj.moves_closeStream
  | tick d' now => exact h.move d' fun t _ ht hj => hj.moves_tick ht now
  | recv d' => exact h.move d' fun t _ ht hj => hj.moves_recv ht
  | deliver d' i => exact h.deliver hsafe

theorem Inv.nothingLost (h : s.Inv d a b) :
  s.NothingLost d
  := by
  obtain ⟨r, -, hfind, -⟩ := h.sender.findStream_eq
  obtain ⟨r', -, hfind', -⟩ := h.receiver.findStream_eq
  refine ⟨r, r', a, b, hfind, hfind', ?_⟩
  intro seq data isEnd hout
  by_cases hshut : b.Shut
  · exact Or.inl ((h.shut hshut).2 seq data isEnd hout)
  · exact Or.inr (h.sender_regular.admits h.receiver_regular h.profile_eq h.opened_eq hshut hout _ _)

/-- A new stream is open and nothing is outstanding. -/
theorem new_regular
    {id : U8} {profile : StreamProfile} {openedByLocal : Bool} {localCredit peerCredit : U8}
    (hrel : profile.unreliable = false)
    (h : GtsStream.new id profile openedByLocal localCredit peerCredit = .ok a) :
  a.Regular ∧ ¬ a.Shut ∧ a.profile = profile ∧ a.openedByLocal = openedByLocal
  := by
  rw [GtsStream.new_eq_ok hrel h]
  refine ⟨⟨hrel, by simp, ?_⟩, by simp [GtsStream.Shut], rfl, rfl⟩
  rintro seq data isEnd ⟨tx, sentAt, htx, hget⟩
  cases htx
  simp [ReliableTx.new] at hget

variable {opener peer : Endpoint} {openerHandle peerHandle : U32} {id : U8}
  {profile : StreamProfile} {sa sb : GtsStream}

/-- Before anything is sent. -/
theorem inv_init {openedByLocal : Bool} {localCredit peerCredit localCredit' peerCredit' : U8}
    (hrel : profile.unreliable = false)
    (ha : GtsStream.new id profile openedByLocal localCredit peerCredit = .ok a)
    (hb : GtsStream.new id profile (!openedByLocal) localCredit' peerCredit' = .ok b)
    (hsender : (s.ends d).Joined (s.handles d) (s.handles !d) s.id a)
    (hreceiver : (s.ends !d).Joined (s.handles !d) (s.handles d) s.id b)
    (hout : ∀ d, (s.ends d).outbox = []) :
  s.Inv d a b
  := by
  obtain ⟨hra, -, hpa, hoa⟩ := new_regular hrel ha
  obtain ⟨hrb, hshut, hpb, hob⟩ := new_regular hrel hb
  refine ⟨hsender, hreceiver, ?_, ?_, hra, hrb, hpb.trans hpa.symm, by rw [hob, hoa],
    fun h => absurd h hshut⟩
  · rw [hout]
    exact List.forall_mem_nil _
  · rw [hout]
    exact List.forall_mem_nil _

/-- No message is lost when a stream is closed, provided the packets that end it arrive only
when all other messages that are outstanding at their sender have been accepted. -/
theorem nothingLost_of_closeSafe
    {openerCredit openerPeerCredit peerCredit peerPeerCredit : U8}
    (hrel : profile.unreliable = false)
    (hsa : GtsStream.new id profile true openerCredit openerPeerCredit = .ok sa)
    (hsb : GtsStream.new id profile false peerCredit peerPeerCredit = .ok sb)
    (hopener : opener.Joined openerHandle peerHandle id sa)
    (hpeer : peer.Joined peerHandle openerHandle id sb) (d : Bool) (as : List Action)
    (hsafe : Machine.Along step (CloseSafe d) (init opener peer openerHandle peerHandle id) as) :
  (Machine.run step (init opener peer openerHandle peerHandle id) as).NothingLost d
  := by
  have hinit : ∃ a b, (init opener peer openerHandle peerHandle id).Inv d a b := by
    cases d with
    | true => exact ⟨sa, sb, inv_init hrel hsa hsb hopener hpeer (fun _ => rfl)⟩
    | false => exact ⟨sb, sa, inv_init hrel hsb hsa hpeer hopener (fun _ => rfl)⟩
  obtain ⟨a, b, hinv⟩ := Machine.invariant_along (P := fun s => ∃ a b, s.Inv d a b)
    (fun s x h hsafe => by
      obtain ⟨a, b, h⟩ := h
      exact h.step hsafe) hinit hsafe
  exact hinv.nothingLost

/-- Whether all messages that are outstanding have been accepted can be read off the list of
the messages that are outstanding. -/
theorem closeSafe_of_toList {d' : Bool} {i : ℕ}
    (h : ∀ r a tx, (s.ends d).findStream (s.handles d) s.id = .ok (r, a) → a.reliableTx = some tx →
      ∀ x ∈ tx.outstanding.toList, (x.1, x.2.data, x.2.isEnd) ∈ s.accepted d) :
  s.CloseSafe d (.deliver d' i)
  := by
  rintro - peer sizeClass packet - - r a hfind seq data isEnd ⟨tx, sentAt, htx, hget⟩
  exact Or.inl (h r a tx hfind htx _ (Std.ExtTreeMap.mem_toList_iff_getElem?_eq_some.mpr hget))

/-- An endpoint that offers a service and has room for two messages. -/
def endpointOfTwo (address : GdpAddress) : Except Error Endpoint :=
  (Endpoint.new address 2#8).map (fun e => e.listen .ones ⟨2#8⟩)

/-- The message arrives before the stream is closed; it is still outstanding after that, since
its acknowledgement has been lost. -/
theorem nothingLost_of_closeSafe_accepted :
  let profile : StreamProfile := ⟨false, true, false, false, .openerToPeer, .msg128⟩
  let css : ServiceSelector := ⟨List.replicate 16 1#8, rfl⟩
  let as : List Action :=
    [.send true [10#8] false 0#64, .deliver true 0, .closeStream true, .deliver true 1,
      .tick true 500#64]
  ∃ opener peer opener' peer' opener'', endpointOfTwo ⟨1#64⟩ = .ok opener ∧
    endpointOfTwo ⟨2#64⟩ = .ok peer ∧
    opener.connect peer.primaryAddress css profile = (.ok 1#32, opener') ∧
    peer.handleConnect opener.primaryAddress 1#32 0x10000001#32 profile 0#8 css
      = (.ok (), peer') ∧
    opener'.handleConnectAck 1#32 1#32 0x10000001#32 0#8 2#8 = (.ok (), opener'') ∧
    Machine.Along step (CloseSafe true) (init opener'' peer' 1#32 1#32 0#8) as ∧
    (Machine.run step (init opener'' peer' 1#32 1#32 0#8) as).NothingLost true
  := by
  intro profile css as
  obtain ⟨opener, hopener⟩ : ∃ e, endpointOfTwo ⟨1#64⟩ = .ok e := ⟨_, rfl⟩
  obtain ⟨peer, hpeer⟩ : ∃ e, endpointOfTwo ⟨2#64⟩ = .ok e := ⟨_, rfl⟩
  obtain ⟨opener', hconnect⟩ : ∃ e, opener.connect peer.primaryAddress css profile
      = (.ok 1#32, e) := by
    cases hopener
    cases hpeer
    exact ⟨_, rfl⟩
  obtain ⟨peer', hconnected⟩ : ∃ e, peer.handleConnect opener.primaryAddress 1#32 0x10000001#32
      profile 0#8 css = (.ok (), e) := by
    cases hopener
    cases hpeer
    exact ⟨_, rfl⟩
  obtain ⟨opener'', hack⟩ : ∃ e, opener'.handleConnectAck 1#32 1#32 0x10000001#32 0#8 2#8
      = (.ok (), e) := by
    cases hopener
    cases hpeer
    cases hconnect
    exact ⟨_, rfl⟩
  have hsafe : Machine.Along step (CloseSafe true) (init opener'' peer' 1#32 1#32 0#8) as := by
    cases hopener
    cases hpeer
    cases hconnect
    cases hconnected
    cases hack
    refine ⟨trivial, ?_, trivial, ?_, trivial, trivial⟩
    · rintro - _ _ _ ⟨⟩ hends
      cases hends
    · apply closeSafe_of_toList
      rintro r a tx ⟨⟩ ⟨⟩
      decide
  obtain ⟨sa, hsa, hjoined⟩ := Endpoint.joined_of_connect (by cases hopener; rfl) hconnect hack
  obtain ⟨credit, sb, hsb, hjoined'⟩ :=
    Endpoint.joined_of_handleConnect (by cases hpeer; rfl) hconnected
  have hnext : peer.nextTunnel = 1#32 := by
    cases hpeer
    rfl
  rw [hnext] at hjoined'
  exact ⟨opener, peer, opener', peer', opener'', hopener, hpeer, hconnect, hconnected, hack, hsafe,
    nothingLost_of_closeSafe rfl hsa hsb hjoined hjoined' true as hsafe⟩

/-- The message is lost, the stream is closed, and the packet that closes it arrives: the
message is still outstanding, and will not be accepted when it is sent again. -/
theorem lost_by_close :
  let profile : StreamProfile := ⟨false, true, false, false, .openerToPeer, .msg128⟩
  let css : ServiceSelector := ⟨List.replicate 16 1#8, rfl⟩
  let as : List Action := [.send true [10#8] false 0#64, .closeStream true, .deliver true 1]
  ∃ opener peer opener' peer' opener'', endpointOfTwo ⟨1#64⟩ = .ok opener ∧
    endpointOfTwo ⟨2#64⟩ = .ok peer ∧
    opener.connect peer.primaryAddress css profile = (.ok 1#32, opener') ∧
    peer.handleConnect opener.primaryAddress 1#32 0x10000001#32 profile 0#8 css
      = (.ok (), peer') ∧
    opener'.handleConnectAck 1#32 1#32 0x10000001#32 0#8 2#8 = (.ok (), opener'') ∧
    ¬ (Machine.run step (init opener'' peer' 1#32 1#32 0#8) as).NothingLost true
  := by
  intro profile css as
  refine ⟨_, _, _, _, _, rfl, rfl, rfl, rfl, rfl, ?_⟩
  rintro ⟨r, r', a, b, ⟨⟩, ⟨⟩, h⟩
  rcases h 0#32 [10#8] false ⟨_, 0#64, rfl, rfl⟩ with hmem | ⟨c, -, hvalid⟩
  · revert hmem
    decide
  · cases hvalid

end EndpointPair

end SmolGnet
