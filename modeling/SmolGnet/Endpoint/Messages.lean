import SmolGnet.Endpoint.Flow
import SmolGnet.Endpoint.Handover
import SmolGnet.Endpoint.Failure
import SmolGnet.Endpoint.Pair

/-!
# What an action does to the messages

Every action of an endpoint is one of a few things for the messages of each stream: a message is sent, or
sent again, or accepted, acknowledged, taken or lost, or nothing happens to it.  `Moved` says so for one
stream, and `Does` for all streams of a tunnel and for the packets that are sent.
-/

namespace SmolGnet

/-! ### Packets of a stream -/

namespace GtsPacket

/-- The message of a reliable stream that the packet carries. -/
def messageOn (id : U8) : GtsPacket → Option (U32 × Bytes × Bool)
  | .data _ streamId sequence m isEnd => if streamId = id then some (sequence, m, isEnd) else none
  | _ => none

/-- The message of an unreliable stream that the packet carries. -/
def datagramOn (id : U8) : GtsPacket → Option Bytes
  | .datagram _ streamId _ m => if streamId = id then some m else none
  | _ => none

/-- The messages of a stream that the packet acknowledges. -/
def ackOn (id : U8) : GtsPacket → Option Ack
  | .ack _ streamId base bitmap credit => if streamId = id then some ⟨base, bitmap, credit⟩ else none
  | _ => none

/-- The packet has nothing to do with the messages of the stream. -/
structure Off (id : U8) (packet : GtsPacket) : Prop where
  message : packet.messageOn id = none
  datagram : packet.datagramOn id = none
  ack : packet.ackOn id = none

/-- The packet has nothing to do with messages. -/
def Control (packet : GtsPacket) : Prop :=
  ∀ id, packet.Off id

theorem off_data {id streamId : U8} (hid : streamId ≠ id) (tunnelId sequence : U32) (data : Bytes)
    (isEnd : Bool) :
  (GtsPacket.data tunnelId streamId sequence data isEnd).Off id
  := ⟨if_neg hid, rfl, rfl⟩

theorem off_datagram {id streamId : U8} (hid : streamId ≠ id) (tunnelId : U32) (sequence : Option U32)
    (data : Bytes) :
  (GtsPacket.datagram tunnelId streamId sequence data).Off id
  := ⟨rfl, if_neg hid, rfl⟩

theorem off_ack {id streamId : U8} (hid : streamId ≠ id) (tunnelId base bitmap : U32) (credit : U8) :
  (GtsPacket.ack tunnelId streamId base bitmap credit).Off id
  := ⟨rfl, rfl, if_neg hid⟩

end GtsPacket

/-! ### One stream -/

namespace GtsStream

/-- A stream is opened with the number `id`, or it goes on as the stream that it is. -/
inductive Grows (id : U8) : Option GtsStream → Option GtsStream → Prop where
  | absent : Grows id none none
  | opens {s : GtsStream} (hid : s.id = id) (hvalid : s.profile.validate = .ok s.profile) :
    Grows id none (some s)
  | goesOn {s s' : GtsStream} (hid : s'.id = s.id) (hprofile : s'.profile = s.profile) :
    Grows id (some s) (some s')

/-- What may happen to the stream with the number `id` when the packet `input` arrives, or none, and the
packets `out` are sent. -/
structure Moved (id : U8) (input : Option GtsPacket) (x x' : Option GtsStream) (out : List GtsPacket)
    (sent : List (Bytes × Bool)) (taken : List Bytes) : Prop where
  sends : Sends x x' (input.bind (GtsPacket.ackOn id)) (out.filterMap (GtsPacket.messageOn id))
    (out.filterMap (GtsPacket.datagramOn id)) sent
  takes : Takes x x' (input.bind (GtsPacket.messageOn id)) (input.bind (GtsPacket.datagramOn id))
    (out.filterMap (GtsPacket.ackOn id)) taken
  grows : Grows id x x'

variable {id : U8} {input : Option GtsPacket} {x x' : Option GtsStream} {s s' : GtsStream}
  {out : List GtsPacket} {sent : List (Bytes × Bool)} {taken : List Bytes}

/-- Packets that have nothing to do with the messages do not count. -/
theorem Moved.append_off (h : Moved id input x x' out sent taken) {more : List GtsPacket}
    (hoff : ∀ p ∈ more, p.Off id) :
  Moved id input x x' (out ++ more) sent taken
  := by
  have hnil : ∀ {β : Type} (f : GtsPacket → Option β), (∀ p ∈ more, f p = none) →
      (out ++ more).filterMap f = out.filterMap f := by
    intro β f hf
    rw [List.filterMap_append, List.filterMap_eq_nil_iff.mpr hf, List.append_nil]
  refine ⟨?_, ?_, h.grows⟩
  · rw [hnil _ (fun p hp => (hoff p hp).message), hnil _ (fun p hp => (hoff p hp).datagram)]
    apply h.sends
  · rw [hnil _ (fun p hp => (hoff p hp).ack)]
    apply h.takes

theorem Moved.off (h : Moved id input x x' [] sent taken) (hoff : ∀ p ∈ out, p.Off id) :
  Moved id input x x' out sent taken
  := h.append_off hoff

/-- A stream to which nothing happens that concerns its messages. -/
theorem moved_quiet (input : Option GtsPacket) (hid : s'.id = s.id) (hprofile : s'.profile = s.profile)
    (hreset : s.state = .reset → s'.state = .reset) (credit : ReliableTx → U8)
    (htx : s'.reliableTx = s.reliableTx.map (fun tx => { tx with peerCredit := credit tx }))
    (hrx : s'.reliableRx = s.reliableRx) (hqueued : s'.unrelDelivered = s.unrelDelivered) :
  Moved id input (some s) (some s') [] [] []
  := ⟨.keeps _ hprofile hreset credit htx, .keeps _ _ hprofile hreset hrx hqueued,
    .goesOn hid hprofile⟩

theorem map_peerCredit (tx : Option ReliableTx) :
  tx = tx.map (fun tx => { tx with peerCredit := tx.peerCredit })
  := by
  cases tx <;> rfl

/-- A stream that only gets into another state. -/
theorem moved_state (input : Option GtsPacket) (s : GtsStream) (state : StreamState)
    (hreset : s.state = .reset → state = .reset) :
  Moved id input (some s) (some { s with state }) [] [] []
  := moved_quiet input rfl rfl hreset ReliableTx.peerCredit (map_peerCredit _) rfl rfl

theorem moved_self (id : U8) (input : Option GtsPacket) (x : Option GtsStream) :
  Moved id input x x [] [] []
  := by
  cases x with
  | none => exact ⟨.absent _, .absent _ _, .absent⟩
  | some s => exact moved_state input s s.state (fun h => h)

/-- A stream that is reset loses its messages. -/
theorem moved_reset (input : Option GtsPacket) (s : GtsStream) :
  Moved id input (some s) (some s.reset) [] [] []
  := by
  refine ⟨.forgets _ rfl rfl ?_, .forgets _ _ rfl rfl ?_, .goesOn rfl rfl⟩
  · intro tx htx
    obtain ⟨tx₀, -, rfl⟩ := Option.map_eq_some_iff.mp htx
    rfl
  · rw [queued, reset]
    dsimp only
    split
    · rfl
    · cases s.reliableRx with
      | none => rfl
      | some rx => rfl

/-- A stream is opened. -/
theorem moved_new (input : Option GtsPacket) {profile : StreamProfile} {openedByLocal : Bool}
    {localCredit peerCredit : U8} (hnew : new id profile openedByLocal localCredit peerCredit = .ok s)
    (state : StreamState) :
  Moved id input none (some { s with state }) [] [] []
  := by
  rw [new] at hnew
  split at hnew
  · cases hnew
  next hvalid =>
  rw [StreamProfile.validate_eq_ok hvalid] at hvalid
  cases hnew
  refine ⟨.opens _ ?_, .opens _ _ ?_ ?_, .opens rfl hvalid⟩
  · intro hrel
    dsimp only at hrel ⊢
    rw [hrel]
    exact ⟨_, rfl⟩
  · intro hrel
    dsimp only at hrel ⊢
    rw [hrel]
    exact ⟨_, rfl⟩
  · rw [queued]
    dsimp only
    cases profile.unreliable with
    | false => rfl
    | true => rfl

/-- A message is sent. -/
theorem moved_sendPacket (hid : s.id = id) {tunnelId : U32} {data : Bytes} {isEnd : Bool} {now : U64}
    {packet : GtsPacket} (h : s.sendPacket tunnelId data isEnd now = .ok (packet, s')) :
  Moved id none (some s) (some s') [packet] [(data, isEnd)] [] ∧ ∀ k, k ≠ id → packet.Off k
  := by
  cases hrel : s.profile.unreliable with
  | false =>
    obtain ⟨hstate, -, -, hlen, tx, seq, tx', htx, hqueue, rfl, rfl⟩ := sendPacket_eq_ok hrel h
    refine ⟨⟨?_, ?_, .goesOn rfl rfl⟩, fun k hk => GtsPacket.off_data (hid ▸ hk.symm) _ _ _ _⟩
    · have hmessage : [GtsPacket.data tunnelId s.id seq data isEnd].filterMap (GtsPacket.messageOn id)
          = [(seq, data, isEnd)] := List.filterMap_cons_some (if_pos hid)
      rw [hmessage]
      apply Sends.queues _ hrel _ _ htx _ hlen hqueue
      · rfl
      · rw [hstate]
        decide
      · rfl
    · exact .keeps _ _ rfl (fun h => h) rfl rfl
  | true =>
    obtain ⟨-, -, ⟨-, sequence, -, rfl⟩ | ⟨hrel', -⟩⟩ := packet_of_sendPacket h
    · have hsame : s'.id = s.id ∧ s'.profile = s.profile ∧ s'.state = s.state ∧
          s'.reliableTx = s.reliableTx ∧ s'.reliableRx = s.reliableRx ∧
          s'.unrelDelivered = s.unrelDelivered := by
        rw [sendPacket] at h
        split at h
        · cases h
        split at h
        · cases h
        split at h
        · cases h
        split at h
        · cases h
        split at h
        · cases h
          exact ⟨rfl, rfl, rfl, rfl, rfl, rfl⟩
        · cases h
          exact ⟨rfl, rfl, rfl, rfl, rfl, rfl⟩
      obtain ⟨hid', hprofile, hstate, htx, hrx, hqueued⟩ := hsame
      refine ⟨⟨?_, ?_, .goesOn hid' hprofile⟩,
        fun k hk => GtsPacket.off_datagram (hid ▸ hk.symm) _ _ _⟩
      · have hdatagram : [GtsPacket.datagram tunnelId s.id sequence data].filterMap
            (GtsPacket.datagramOn id) = [data] := List.filterMap_cons_some (if_pos hid)
        rw [hdatagram]
        apply Sends.emits _ hrel hprofile htx
      · exact .keeps _ _ hprofile (fun h => hstate.trans h) hrx hqueued
    · rw [hrel] at hrel'
      cases hrel'

theorem ackOn_ackPacket {streamId : U8} (hid : streamId = id) (tunnelId : U32) (a : Ack) :
  (ackPacket tunnelId streamId a).ackOn id = some a
  := if_pos hid

/-- A message is taken; an acknowledgement is sent if it was one of a reliable stream. -/
theorem moved_recv (hid : s.id = id) (tunnelId : U32) {m : Bytes} (hm : s.recv.1 = some m) :
  Moved id none (some s) (some s.recv.2) (s.recv.2.receiveCreditAck tunnelId).toList [] [m] ∧
    ∀ p ∈ s.recv.2.receiveCreditAck tunnelId, ∀ k, k ≠ id → p.Off k
  := by
  obtain ⟨hmessage, htail, hprofile, hstate, -⟩ := s.queued_recv
  have hcontinues := continues_recv s
  have htx : s.recv.2.reliableTx = s.reliableTx := by
    rw [recv]
    split
    · split
      · rfl
      · rfl
    · split
      · rfl
      · rfl
  have hack : ∀ p ∈ s.recv.2.receiveCreditAck tunnelId, ∃ rx a, s.recv.2.profile.unreliable = false ∧
      s.recv.2.reliableRx = some rx ∧ rx.ack = some a ∧ p = ackPacket tunnelId s.recv.2.id a := by
    intro p hp
    rw [Option.mem_def, receiveCreditAck] at hp
    split at hp
    · cases hp
    next hrel =>
    split at hp
    · cases hp
    next rx hrx =>
    obtain ⟨a, ha, rfl⟩ := Option.map_eq_some_iff.mp hp
    exact ⟨rx, a, by simpa using (not_or.mp hrel).1, hrx, ha, rfl⟩
  have hnone : ∀ {β : Type} (f : GtsPacket → Option β),
      (∀ a, f (ackPacket tunnelId s.recv.2.id a) = none) →
      (s.recv.2.receiveCreditAck tunnelId).toList.filterMap f = [] := by
    intro β f hf
    rw [List.filterMap_eq_nil_iff]
    intro p hp
    obtain ⟨rx, a, -, -, -, rfl⟩ := hack p (Option.mem_toList.mp hp)
    apply hf
  refine ⟨⟨?_, ?_, .goesOn hcontinues.id hprofile⟩, ?_⟩
  · rw [hnone (GtsPacket.messageOn id) (fun _ => rfl), hnone (GtsPacket.datagramOn id) (fun _ => rfl)]
    apply Sends.keeps _ hprofile (fun h => hstate.trans h) ReliableTx.peerCredit
    rw [htx]
    apply map_peerCredit
  · apply Takes.returns _ _ hprofile hstate
    · rw [hmessage] at hm
      rw [htail]
      apply List.eq_cons_of_mem_head? hm
    · intro hrel rx hrx
      obtain ⟨-, hrecv⟩ := recv_eq hrel (Prod.mk.eta (p := s.recv)).symm
      obtain ⟨-, hrx'⟩ := hrecv rx hrx
      refine ⟨hrx', ?_⟩
      intro a ha
      obtain ⟨p, hp, hpa⟩ := List.mem_filterMap.mp ha
      obtain ⟨rx₁, a₁, -, hrx₁, ha₁, rfl⟩ := hack p (Option.mem_toList.mp hp)
      rw [hrx'] at hrx₁
      cases hrx₁
      rw [ackOn_ackPacket (hcontinues.id.trans hid)] at hpa
      cases hpa
      apply ha₁
  · intro p hp k hk
    obtain ⟨rx, a, -, -, -, rfl⟩ := hack p hp
    apply GtsPacket.off_ack
    rw [hcontinues.id, hid]
    apply hk.symm

theorem reliable_of_receivePacket {tunnelId : U32} {streamId : U8} {seq : U32} {data : Bytes}
    {isEnd : Bool} {ack : Option GtsPacket}
    (h : s.receivePacket (.data tunnelId streamId seq data isEnd) = .ok (ack, s')) :
  s.profile.unreliable = false
  := by
  rw [receivePacket] at h
  split at h
  · cases h
  split at h
  · cases h
  split at h
  · cases h
  next hrel => simpa using hrel

/-- A message of a reliable stream arrives, and is acknowledged or not. -/
theorem moved_receive_data {tunnelId : U32} {streamId : U8} {seq : U32} {data : Bytes} {isEnd : Bool}
    {ack : Option GtsPacket} (hid : streamId = id)
    (h : s.receivePacket (.data tunnelId streamId seq data isEnd) = .ok (ack, s')) {remote : U32}
    (hout : ∀ p ∈ out, ∃ a, ack = some (ackPacket tunnelId streamId a) ∧
      p = ackPacket remote streamId a) :
  Moved id (some (.data tunnelId streamId seq data isEnd)) (some s) (some s') out [] []
  := by
  have hrel := reliable_of_receivePacket h
  have hstate : s.state ≠ .reset := by
    intro hreset
    rw [receivePacket, if_pos (.inr hreset)] at h
    cases h
  obtain ⟨_, _, _, _, rx, b, rx', heq, -, hrx, hreceive, hreply, rfl⟩ := receivePacket_eq_ok hrel h
  cases heq
  have hnone : ∀ {β : Type} (f : GtsPacket → Option β), (∀ a, f (ackPacket remote s.id a) = none) →
      out.filterMap f = [] := by
    intro β f hf
    rw [List.filterMap_eq_nil_iff]
    intro p hp
    obtain ⟨a, -, rfl⟩ := hout p hp
    apply hf
  refine ⟨?_, ?_, .goesOn rfl rfl⟩
  · rw [hnone (GtsPacket.messageOn id) (fun _ => rfl), hnone (GtsPacket.datagramOn id) (fun _ => rfl)]
    exact .keeps _ rfl (fun h => h) ReliableTx.peerCredit (map_peerCredit _)
  · have hmessage : (some (GtsPacket.data tunnelId s.id seq data isEnd)).bind (GtsPacket.messageOn id)
        = some (seq, data, isEnd) := if_pos hid
    rw [hmessage]
    apply Takes.accepts _ hrel _ hstate hrx _ hreceive
    · intro a ha
      obtain ⟨p, hp, hpa⟩ := List.mem_filterMap.mp ha
      obtain ⟨a', hack, rfl⟩ := hout p hp
      rw [hreply] at hack
      obtain ⟨a₀, ha₀, heq⟩ := Option.map_eq_some_iff.mp hack
      replace heq := congrArg (GtsPacket.ackOn id) heq
      rw [ackOn_ackPacket hid, ackOn_ackPacket hid] at heq
      rw [ackOn_ackPacket hid, ← heq, ← ha₀] at hpa
      apply hpa
    · rfl
    · rfl

/-- The answer to a message is an acknowledgement. -/
theorem eq_ackPacket_of_receivePacket {tunnelId : U32} {streamId : U8} {seq : U32} {data : Bytes}
    {isEnd : Bool} {reply : GtsPacket}
    (h : s.receivePacket (.data tunnelId streamId seq data isEnd) = .ok (some reply, s')) :
  ∃ a, reply = ackPacket tunnelId streamId a
  := by
  have hrel := reliable_of_receivePacket h
  obtain ⟨_, _, _, _, rx, b, rx', heq, -, -, -, hreply, -⟩ := receivePacket_eq_ok hrel h
  cases heq
  obtain ⟨a, -, heq⟩ := Option.map_eq_some_iff.mp hreply.symm
  exact ⟨a, heq.symm⟩

/-- A message of an unreliable stream arrives. -/
theorem moved_receive_datagram {tunnelId : U32} {streamId : U8} {sequence : Option U32} {data : Bytes}
    {ack : Option GtsPacket} (hid : streamId = id)
    (h : s.receivePacket (.datagram tunnelId streamId sequence data) = .ok (ack, s')) :
  Moved id (some (.datagram tunnelId streamId sequence data)) (some s) (some s') [] [] []
  := by
  have hdatagram : (some (GtsPacket.datagram tunnelId streamId sequence data)).bind
      (GtsPacket.datagramOn id) = some data := if_pos hid
  rw [receivePacket] at h
  split at h
  · cases h
  split at h
  · cases h
  split at h
  · cases h
  next hrel =>
  have hunrel : s.profile.unreliable = true := by simpa using hrel
  have hcollects : ∀ highest : Option U32, Moved id
      (some (.datagram tunnelId streamId sequence data)) (some s)
      (some { s with unrelRxHighest := highest, unrelDelivered := s.unrelDelivered ++ [data] })
      [] [] [] := by
    intro highest
    refine ⟨.keeps _ rfl (fun h => h) ReliableTx.peerCredit (map_peerCredit _), ?_, .goesOn rfl rfl⟩
    rw [hdatagram]
    apply Takes.collects _ hunrel
    · rfl
    · rfl
  rw [receiveDatagram.eq_def] at h
  split at h
  · cases h
  split at h
  · cases h
    apply hcollects s.unrelRxHighest
  split at h
  · cases h
  · split at h
    · cases h
      apply moved_self id _ (some s)
    · cases h
      apply hcollects _
  · cases h
    apply hcollects _

/-- An acknowledgement arrives. -/
theorem moved_onAck {tunnelId base bitmap : U32} {credit : U8}
    (h : s.onAck base bitmap credit = .ok s') :
  Moved id (some (.ack tunnelId id base bitmap credit)) (some s) (some s') [] [] []
  := by
  rw [onAck] at h
  split at h
  · cases h
  next hlive =>
  split at h
  · cases h
  next tx htx =>
  cases h
  refine ⟨?_, .keeps _ _ rfl (fun h => h) rfl rfl, .goesOn rfl rfl⟩
  have hack : (some (GtsPacket.ack tunnelId id base bitmap credit)).bind (GtsPacket.ackOn id)
      = some ⟨base, bitmap, credit⟩ := if_pos rfl
  rw [hack]
  apply Sends.acked _ (not_or.mp hlive).1 htx
  · rfl
  · rfl

/-- Some of what is due is sent again. -/
theorem moved_retransmitDue {tunnelId : U32} {now : U64}
    (hout : ∀ p ∈ out, p.Off id ∨ p ∈ (s.retransmitDue tunnelId now).1) :
  Moved id none (some s) (some (s.retransmitDue tunnelId now).2) out [] []
  := by
  have hnone : ∀ {β : Type} (f : GtsPacket → Option β), (∀ p, p.Off id → f p = none) →
      (∀ m : U32 × Bytes × Bool, f (.data tunnelId s.id m.1 m.2.1 m.2.2) = none) →
      out.filterMap f = [] := by
    intro β f hoff hdata
    rw [List.filterMap_eq_nil_iff]
    intro p hp
    rcases hout p hp with hp | hp
    · apply hoff p hp
    · rw [retransmitDue] at hp
      split at hp
      · cases hp
      · obtain ⟨m, -, rfl⟩ := List.mem_map.mp hp
        apply hdata
  rw [retransmitDue] at hout ⊢
  split at hout
  · apply (moved_self id none (some s)).off
    intro p hp
    rcases hout p hp with hp | hp
    · apply hp
    · cases hp
  next tx htx =>
  refine ⟨?_, ?_, .goesOn rfl rfl⟩
  · rw [hnone (GtsPacket.datagramOn id) (fun _ h => h.datagram) (fun _ => rfl)]
    apply Sends.resends _ _ _ _ htx
    · rfl
    · intro m hm
      obtain ⟨p, hp, hpm⟩ := List.mem_filterMap.mp hm
      rcases hout p hp with hp | hp
      · rw [hp.message] at hpm
        cases hpm
      · obtain ⟨m', hm', rfl⟩ := List.mem_map.mp hp
        rw [GtsPacket.messageOn] at hpm
        split at hpm
        · cases hpm
          apply hm'
        · cases hpm
    · rfl
    · rfl
  · rw [hnone (GtsPacket.ackOn id) (fun _ h => h.ack) (fun _ => rfl)]
    exact .keeps _ _ rfl (fun h => h) rfl rfl

/-- What is sent again belongs to the stream. -/
theorem off_retransmitDue {tunnelId : U32} {now : U64} {packet : GtsPacket}
    (h : packet ∈ (s.retransmitDue tunnelId now).1) (hid : s.id ≠ id) :
  packet.Off id
  := by
  rw [retransmitDue] at h
  split at h
  · cases h
  · obtain ⟨m, -, rfl⟩ := List.mem_map.mp h
    apply GtsPacket.off_data hid

/-- There is no message to take. -/
theorem recv_of_none (h : s.recv.1 = none) :
  s.recv.2 = s
  := by
  cases hrel : s.profile.unreliable with
  | true =>
    rw [recv, if_pos hrel] at h ⊢
    cases hd : s.unrelDelivered with
    | nil => rfl
    | cons m ms =>
      rw [hd] at h
      cases h
  | false =>
    rw [recv, if_neg (by simp [hrel])] at h ⊢
    cases hrx : s.reliableRx with
    | none => rfl
    | some rx =>
      rw [hrx] at h
      cases hd : rx.delivered with
      | nil =>
        simp only [ReliableRx.recv, hd]
        rw [← hrx]
      | cons m ms =>
        simp [ReliableRx.recv, hd] at h

end GtsStream

end SmolGnet
