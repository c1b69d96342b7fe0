import SmolGnet.Gts.Selective
import SmolGnet.Gts.Continues

/-!
# Duplicates

A sender whose acknowledgement was lost sends the packet again.  The receiver should take the
duplicate, change nothing, and acknowledge it; an error in place of the acknowledgement makes the
sender repeat itself for ever.

A duplicate of a message that has been put in order is acknowledged as long as the other end has
not ended the stream.  A duplicate of a message that waits goes through the checks of a new one:
there has to be room for it, and its place in the window needs a bit in the acknowledgement.
-/

namespace SmolGnet

/-! ### The receiver -/

namespace ReliableRx

/-- The messages that wait have their places in the window, above the expected one. -/
structure Placed (rx : ReliableRx) : Prop where
  windowed : rx.Windowed
  ahead : rx.Ahead

/-- A duplicate with this sequence number is taken and acknowledged: it is old, or it waits, there
is room for one more message, and its place has a bit once there are acknowledgements. -/
def Reacknowledges (rx : ReliableRx) (seq : U32) : Prop :=
  seq < rx.nextExpected ∨
    (seq ∈ rx.pending ∧ rx.used < rx.capacity ∧
      (rx.seenAny → rx.nextExpected = 0#32 ∨ seq - rx.nextExpected < 32#32))

instance (rx : ReliableRx) (seq : U32) : Decidable (rx.Reacknowledges seq) :=
  inferInstanceAs (Decidable (_ ∨ _))

theorem Placed.receive
    {rx rx' : ReliableRx} {seq : U32} {data : Bytes} {b : Bool} (h : rx.Placed)
    (hreceive : rx.receive seq data = .ok (b, rx')) :
  rx'.Placed
  := ⟨receive_windowed h.windowed hreceive, h.ahead.receive hreceive⟩

theorem Placed.recv {rx : ReliableRx} (h : rx.Placed) :
  rx.recv.2.Placed
  := by
  rw [ReliableRx.recv]
  split
  · exact h
  · exact ⟨h.windowed, h.ahead⟩

theorem placed_of_pending_empty {rx : ReliableRx} (h : rx.pending = ∅) :
  rx.Placed
  := by
  refine ⟨?_, ahead_of_pending_empty h⟩
  intro k hk
  rw [h] at hk
  cases Std.ExtTreeMap.not_mem_empty hk

/-- The acknowledgement covers the sequence numbers below the expected one and those that wait at a
place that has a bit.  When the expected number is 0 again, its base covers everything. -/
theorem ack_covers_iff {rx : ReliableRx} (hseen : rx.seenAny = true) (seq : U32) :
  (∃ a, rx.ack = some a ∧ acked a.base a.bitmap seq = true) ↔
    rx.nextExpected = 0#32 ∨ seq < rx.nextExpected ∨
      (seq ∈ rx.pending ∧ seq - rx.nextExpected < 32#32)
  := by
  have hack : rx.ack = some ⟨rx.nextExpected - 1#32, rx.bitmap (rx.nextExpected - 1#32),
      rx.credit⟩ := by
    simp [ack, hseen]
  rw [hack]
  simp only [Option.some.injEq, exists_eq_left']
  by_cases hzero : rx.nextExpected = 0#32
  · refine iff_of_true ?_ (.inl hzero)
    rw [acked, if_pos (by rw [hzero]; bv_omega)]
  · rw [acked_iff rx hzero]
    simp [hzero]

/-- A packet leaves a receiver as it is exactly when it is old, or a duplicate of a message that
waits and there is room. -/
theorem receive_self_iff {rx : ReliableRx} (h : rx.Placed) (seq : U32) (data : Bytes) :
  (∃ b, rx.receive seq data = .ok (b, rx)) ↔
    seq < rx.nextExpected ∨ (seq ∈ rx.pending ∧ rx.used < rx.capacity)
  := by
  constructor
  · rintro ⟨b, hreceive⟩
    obtain ⟨hlt, -⟩ | ⟨-, -, -, hrx⟩ | ⟨-, -, hroom, -, hrx⟩ := receive_eq_ok hreceive
    · exact .inl hlt
    · have hle := (drain_nextExpected rx.pending.size (rx.accept data)).1
      rw [← hrx, accept, List.length_append, List.length_singleton] at hle
      omega
    · refine .inr ⟨?_, hroom⟩
      rw [hrx]
      exact Std.ExtTreeMap.mem_insertIfNew_self
  · rintro (hlt | ⟨hmem, hroom⟩)
    · exact ⟨false, by rw [receive, if_pos hlt]⟩
    · have hahead := h.ahead seq hmem
      have hdist := (h.windowed seq hmem).2
      have hsame : rx.pending.insertIfNew seq data = rx.pending := by
        apply Std.ExtTreeMap.ext_getElem?
        intro k
        rw [TreeMap.getElem?_insertIfNew]
        split
        · next hk =>
          subst hk
          rw [Std.ExtTreeMap.getElem?_eq_some_getElem hmem]
          rfl
        · rfl
      use false
      rw [receive, if_neg (by bv_omega), if_neg (by bv_omega)]
      dsimp only
      have haccepted : ¬ (32#32 < seq - rx.nextExpected ∨ rx.capacity ≤ rx.used) := by
        rw [not_or, BitVec.not_lt]
        exact ⟨hdist, Nat.not_le.mpr hroom⟩
      rw [if_neg haccepted, hsame]

/-- A duplicate is taken, changes nothing and is acknowledged, once there are acknowledgements,
exactly under the condition. -/
theorem reacknowledges_iff {rx : ReliableRx} (h : rx.Placed) (seq : U32) (data : Bytes) :
  ((∃ b, rx.receive seq data = .ok (b, rx)) ∧
    (rx.seenAny → ∃ a, rx.ack = some a ∧ acked a.base a.bitmap seq = true)) ↔
    rx.Reacknowledges seq
  := by
  rw [receive_self_iff h, Reacknowledges]
  cases hseen : rx.seenAny with
  | false => simp
  | true =>
    simp only [ack_covers_iff hseen, forall_const]
    constructor
    · rintro ⟨hlt | ⟨hmem, hroom⟩, hcovers⟩
      · exact .inl hlt
      · have hahead := h.ahead seq hmem
        refine .inr ⟨hmem, hroom, ?_⟩
        obtain hzero | hlt | ⟨-, hdist⟩ := hcovers
        · exact .inl hzero
        · bv_omega
        · exact .inr hdist
    · rintro (hlt | ⟨hmem, hroom, hbit⟩)
      · exact ⟨.inl hlt, .inr (.inl hlt)⟩
      · refine ⟨.inr ⟨hmem, hroom⟩, ?_⟩
        obtain hzero | hdist := hbit
        · exact .inl hzero
        · exact .inr (.inr ⟨hmem, hdist⟩)

end ReliableRx

/-! ### The stream -/

namespace GtsStream

variable {s s' : GtsStream}

/-- The packet passes the checks and is taken, the stream is as it was, so that it hands over the
same messages afterwards, and the answer is an acknowledgement of the packet once a message has
come in order. -/
def Reacknowledges (s : GtsStream) (sizeClass : SizeClass) (packet : GtsPacket) : Prop :=
  s.validateIncoming sizeClass packet = .ok () ∧
    ∃ reply, s.receivePacket packet = .ok (reply, s) ∧
      ∀ rx, s.reliableRx = some rx → rx.seenAny →
        ∃ tunnelId seq data isEnd a, packet = .data tunnelId s.id seq data isEnd ∧
          reply = some (ackPacket tunnelId s.id a) ∧ acked a.base a.bitmap seq = true

/-- The other end has not ended the stream, and the receiver acknowledges duplicates of the
packet. -/
def Remembers (s : GtsStream) (packet : GtsPacket) : Prop :=
  s.remoteEnded = false ∧
    match packet with
    | .data _ _ seq _ _ => ∃ rx ∈ s.reliableRx, rx.Reacknowledges seq
    | _ => False

/-- The packet carries a message that this stream can have taken in this size class. -/
def Acceptable (s : GtsStream) (sizeClass : SizeClass) (packet : GtsPacket) : Prop :=
  ∃ tunnelId seq data isEnd, packet = .data tunnelId s.id seq data isEnd ∧
    s.remoteMaySend s.openedByLocal = true ∧ s.validateDataLen sizeClass data isEnd = .ok () ∧
    (isEnd = true → s.remoteEnded = true)

theorem ackPacket_inj {tunnelId : U32} {streamId : U8} {a a' : Ack}
    (h : ackPacket tunnelId streamId a = ackPacket tunnelId streamId a') :
  a = a'
  := by
  obtain ⟨base, bitmap, credit⟩ := a
  obtain ⟨base', bitmap', credit'⟩ := a'
  cases h
  rfl

/-- A duplicate of a message the stream has taken is acknowledged exactly when the stream remembers
it. -/
theorem reacknowledges_iff_remembers (hrel : s.profile.unreliable = false) (halive : ¬ s.Dead)
    (hplaced : ∀ rx ∈ s.reliableRx, rx.Placed) {sizeClass : SizeClass} {packet : GtsPacket}
    (haccepted : s.Acceptable sizeClass packet) :
  s.Reacknowledges sizeClass packet ↔ s.Remembers packet
  := by
  obtain ⟨tunnelId, seq, data, isEnd, rfl, hmay, hlen, hended⟩ := haccepted
  rw [Dead] at halive
  have hvalid : s.validateIncoming sizeClass (.data tunnelId s.id seq data isEnd) = .ok () ↔
      s.remoteEnded = false := by
    rw [validateIncoming, if_neg halive]
    cases hremote : s.remoteEnded with
    | true => simp
    | false => simp [hrel, hmay, hlen]
  rw [Reacknowledges, Remembers, hvalid]
  apply and_congr_right
  intro hremote
  have hend : isEnd = false := by
    cases isEnd with
    | false => rfl
    | true => rw [hended rfl] at hremote; cases hremote
  subst hend
  cases hrx : s.reliableRx with
  | none => simp [receivePacket, halive, hmay, hrel, receiveData, hremote, hrx]
  | some rx =>
    simp only [Option.mem_def, Option.some.injEq, exists_eq_left', forall_eq']
    rw [← ReliableRx.reacknowledges_iff (hplaced rx hrx) seq data]
    constructor
    · rintro ⟨reply, hreceive, hcovers⟩
      obtain ⟨_, _, _, _, rx₀, b, rx', hpacket, -, hrx₀, htaken, hreply, hs⟩ :=
        receivePacket_eq_ok hrel hreceive
      cases hpacket
      obtain rfl := Option.some.inj (hrx.symm.trans hrx₀)
      obtain rfl : rx = rx' := by
        have hsame := congrArg reliableRx hs
        exact Option.some.inj (hrx.symm.trans hsame)
      refine ⟨⟨b, htaken⟩, ?_⟩
      intro hseen
      obtain ⟨_, _, _, _, a, hpacket, hack, hcovered⟩ := hcovers hseen
      cases hpacket
      rw [hreply] at hack
      obtain ⟨a', ha', heq⟩ := Option.map_eq_some_iff.mp hack
      rw [← ackPacket_inj heq] at hcovered
      exact ⟨a', ha', hcovered⟩
    · rintro ⟨⟨b, htaken⟩, hcovers⟩
      refine ⟨rx.ack.map (ackPacket tunnelId s.id), ?_, ?_⟩
      · simp only [receivePacket, halive, hmay, hrel, receiveData, hremote, hrx, htaken, if_false,
          Bool.not_true, Bool.false_eq_true, ne_eq, not_true_eq_false, or_false, Bool.or_false]
        rw [← hrx, ← hremote]
      · intro hseen
        obtain ⟨a, ha, hcovered⟩ := hcovers hseen
        refine ⟨tunnelId, seq, data, false, a, rfl, ?_, hcovered⟩
        rw [ha, Option.map_some]

/-! ### Runs of a stream -/

/-- The stream `s'` is what `s` has become by an operation, whatever its state is. -/
structure Keeps (s s' : GtsStream) : Prop where
  id : s'.id = s.id
  profile : s'.profile = s.profile
  openedByLocal : s'.openedByLocal = s.openedByLocal
  remoteEnded : s.remoteEnded = true → s'.remoteEnded = true
  placed : (∀ rx ∈ s.reliableRx, rx.Placed) → ∀ rx ∈ s'.reliableRx, rx.Placed

theorem Keeps.refl (s : GtsStream) :
  Keeps s s
  := ⟨rfl, rfl, rfl, fun h => h, fun h => h⟩

/-- An operation that touches neither the receiver nor the mark of the end. -/
theorem Keeps.of_receiver (hid : s'.id = s.id) (hprofile : s'.profile = s.profile)
    (hopened : s'.openedByLocal = s.openedByLocal) (hended : s'.remoteEnded = s.remoteEnded)
    (hrx : s'.reliableRx = s.reliableRx) :
  Keeps s s'
  := ⟨hid, hprofile, hopened, fun h => hended.trans h, fun h => by rwa [hrx]⟩

theorem keeps_receivePacket (hrel : s.profile.unreliable = false) {packet : GtsPacket}
    {reply : Option GtsPacket} (h : s.receivePacket packet = .ok (reply, s')) :
  Keeps s s'
  := by
  obtain ⟨_, _, _, isEnd, rx, _, rx', -, hended, hrx, hreceive, -, rfl⟩ :=
    receivePacket_eq_ok hrel h
  refine ⟨rfl, rfl, rfl, fun h => absurd (hended.symm.trans h) Bool.false_ne_true, ?_⟩
  rintro hplaced _ ⟨⟩
  exact (hplaced rx hrx).receive hreceive

theorem keeps_sendPacket (hrel : s.profile.unreliable = false) {tunnelId : U32} {data : Bytes}
    {isEnd : Bool} {now : U64} {packet : GtsPacket}
    (h : s.sendPacket tunnelId data isEnd now = .ok (packet, s')) :
  Keeps s s'
  := by
  obtain ⟨-, -, -, -, _, _, _, -, -, -, rfl⟩ := sendPacket_eq_ok hrel h
  exact .of_receiver rfl rfl rfl rfl rfl

theorem keeps_onAck {base bitmap : U32} {credit : U8} (h : s.onAck base bitmap credit = .ok s') :
  Keeps s s'
  := by
  rw [onAck] at h
  split at h
  · cases h
  split at h
  · cases h
  · cases h
    exact .of_receiver rfl rfl rfl rfl rfl

theorem keeps_recv (s : GtsStream) :
  Keeps s s.recv.2
  := by
  rw [recv]
  split
  · split
    · exact .refl s
    · exact .of_receiver rfl rfl rfl rfl rfl
  · split
    · exact .refl s
    · next rx hrx =>
      refine ⟨rfl, rfl, rfl, fun h => h, ?_⟩
      rintro hplaced _ ⟨⟩
      exact (hplaced rx hrx).recv

theorem keeps_retransmitDue (s : GtsStream) (tunnelId : U32) (now : U64) :
  Keeps s (s.retransmitDue tunnelId now).2
  := by
  rw [retransmitDue]
  split
  · exact .refl s
  · exact .of_receiver rfl rfl rfl rfl rfl

theorem keeps_applyOpenAck {credit : U8} (h : s.applyOpenAck credit = .ok s') :
  Keeps s s'
  := by
  rw [applyOpenAck] at h
  split at h
  · cases h
  · cases h
    exact .of_receiver rfl rfl rfl rfl rfl

theorem keeps_reset (s : GtsStream) :
  Keeps s s.reset
  := by
  refine ⟨rfl, rfl, rfl, fun _ => rfl, ?_⟩
  intro _ rx hrx
  obtain ⟨rx₀, -, rfl⟩ := Option.map_eq_some_iff.mp hrx
  exact ReliableRx.placed_of_pending_empty rfl

/-- What the stream can have taken it can have taken afterwards. -/
theorem Keeps.acceptable (h : Keeps s s') {sizeClass : SizeClass} {packet : GtsPacket}
    (haccepted : s.Acceptable sizeClass packet) :
  s'.Acceptable sizeClass packet
  := by
  obtain ⟨tunnelId, seq, data, isEnd, rfl, hmay, hlen, hended⟩ := haccepted
  refine ⟨tunnelId, seq, data, isEnd, by rw [h.id], ?_, ?_, fun hend => h.remoteEnded (hended hend)⟩
  · rw [remoteMaySend, h.openedByLocal, h.profile]
    exact hmay
  · simp only [validateDataLen, fixedReliableDataLen, fixedReliableEndCapacity, h.profile]
    exact hlen

/-- What happens at a stream: a packet arrives in a size class and is checked before it is taken, or
one of its operations is called. -/
inductive Input
  | arrive (sizeClass : SizeClass) (packet : GtsPacket)
  | receivePacket (packet : GtsPacket)
  | sendPacket (tunnelId : U32) (data : Bytes) (isEnd : Bool) (now : U64)
  | onAck (base bitmap : U32) (credit : U8)
  | recv
  | retransmitDue (tunnelId : U32) (now : U64)
  | applyOpenAck (peerCredit : U8)
  | establish (peerCredit : U8)
  | markOpening
  | setState (state : StreamState)
  | reset

/-- A stream, with the packets that passed the checks and were taken. -/
structure Accepting where
  stream : GtsStream
  accepted : List (SizeClass × GtsPacket)

namespace Accepting

/-- One input; an operation that fails changes nothing. -/
def step (s : Accepting) : Input → Accepting
  | .arrive sizeClass packet =>
    match s.stream.validateIncoming sizeClass packet with
    | .error _ => s
    | .ok () =>
      match s.stream.receivePacket packet with
      | .error _ => s
      | .ok (_, stream) => ⟨stream, s.accepted ++ [(sizeClass, packet)]⟩
  | .receivePacket packet =>
    match s.stream.receivePacket packet with
    | .error _ => s
    | .ok (_, stream) => { s with stream }
  | .sendPacket tunnelId data isEnd now =>
    match s.stream.sendPacket tunnelId data isEnd now with
    | .error _ => s
    | .ok (_, stream) => { s with stream }
  | .onAck base bitmap credit =>
    match s.stream.onAck base bitmap credit with
    | .error _ => s
    | .ok stream => { s with stream }
  | .recv => { s with stream := s.stream.recv.2 }
  | .retransmitDue tunnelId now => { s with stream := (s.stream.retransmitDue tunnelId now).2 }
  | .applyOpenAck peerCredit =>
    match s.stream.applyOpenAck peerCredit with
    | .error _ => s
    | .ok stream => { s with stream }
  | .establish peerCredit =>
    { s with stream := { s.stream with
        reliableTx := s.stream.reliableTx.map (fun tx => { tx with peerCredit }) } }
  | .markOpening => { s with stream := s.stream.markOpening }
  | .setState state => { s with stream := { s.stream with state } }
  | .reset => { s with stream := s.stream.reset }

/-- What is known of a reliable stream after any run. -/
structure Inv (s : Accepting) : Prop where
  reliable : s.stream.profile.unreliable = false
  placed : ∀ rx ∈ s.stream.reliableRx, rx.Placed
  acceptable : ∀ p ∈ s.accepted, s.stream.Acceptable p.1 p.2

theorem Inv.keeps {s : Accepting} {stream : GtsStream} (h : s.Inv) (hkeeps : s.stream.Keeps stream) :
  Inv { s with stream }
  where
  reliable := by rw [hkeeps.profile]; exact h.reliable
  placed := hkeeps.placed h.placed
  acceptable p hp := hkeeps.acceptable (h.acceptable p hp)

/-- A packet that passes the checks and is taken can have been taken. -/
theorem Inv.arrive {s : Accepting} {stream : GtsStream} {sizeClass : SizeClass}
    {packet : GtsPacket} {reply : Option GtsPacket} (h : s.Inv)
    (hvalid : s.stream.validateIncoming sizeClass packet = .ok ())
    (hreceive : s.stream.receivePacket packet = .ok (reply, stream)) :
  Inv ⟨stream, s.accepted ++ [(sizeClass, packet)]⟩
  := by
  have hkeeps := keeps_receivePacket h.reliable hreceive
  refine { h.keeps hkeeps with acceptable := ?_ }
  intro p hp
  rcases List.mem_append.mp hp with hp | hp
  · exact hkeeps.acceptable (h.acceptable p hp)
  · obtain rfl := List.mem_singleton.mp hp
    obtain ⟨tunnelId, seq, data, isEnd, _, _, _, rfl, hended, -, -, -, rfl⟩ :=
      receivePacket_eq_ok h.reliable hreceive
    rw [validateIncoming] at hvalid
    split at hvalid
    · cases hvalid
    simp only [h.reliable, hended, Bool.false_eq_true, or_self, if_false] at hvalid
    split at hvalid
    · cases hvalid
    · next hmay =>
      have hmay' : s.stream.remoteMaySend s.stream.openedByLocal = true := by simpa using hmay
      exact ⟨tunnelId, seq, data, isEnd, rfl, hmay', hvalid, fun hend => hend⟩

theorem Inv.step {s : Accepting} (h : s.Inv) (i : Input) :
  (s.step i).Inv
  := by
  cases i with
  | arrive sizeClass packet =>
    rw [Accepting.step]
    split
    · exact h
    · next hvalid =>
      split
      · exact h
      · next hreceive => exact h.arrive hvalid hreceive
  | receivePacket packet =>
    rw [Accepting.step]
    split
    · exact h
    · next hreceive => exact h.keeps (keeps_receivePacket h.reliable hreceive)
  | sendPacket tunnelId data isEnd now =>
    rw [Accepting.step]
    split
    · exact h
    · next hsend => exact h.keeps (keeps_sendPacket h.reliable hsend)
  | onAck base bitmap credit =>
    rw [Accepting.step]
    split
    · exact h
    · next hack => exact h.keeps (keeps_onAck hack)
  | recv => exact h.keeps (keeps_recv s.stream)
  | retransmitDue tunnelId now => exact h.keeps (keeps_retransmitDue s.stream tunnelId now)
  | applyOpenAck peerCredit =>
    rw [Accepting.step]
    split
    · exact h
    · next hack => exact h.keeps (keeps_applyOpenAck hack)
  | establish peerCredit => exact h.keeps (.of_receiver rfl rfl rfl rfl rfl)
  | markOpening => exact h.keeps (.of_receiver rfl rfl rfl rfl rfl)
  | setState state => exact h.keeps (.of_receiver rfl rfl rfl rfl rfl)
  | reset => exact h.keeps (keeps_reset s.stream)

theorem inv_new {id : U8} {profile : StreamProfile} {openedByLocal : Bool}
    {localReceiveCredit peerReceiveCredit : U8} (hrel : profile.unreliable = false)
    (hnew : GtsStream.new id profile openedByLocal localReceiveCredit peerReceiveCredit = .ok s) :
  Inv ⟨s, []⟩
  := by
  obtain rfl := new_eq_ok hrel hnew
  refine ⟨hrel, ?_, fun _ hp => absurd hp List.not_mem_nil⟩
  rintro _ ⟨⟩
  exact ReliableRx.placed_of_pending_empty rfl

/-- After any run of a reliable stream that is neither closed nor reset, a duplicate of a packet that
was taken is acknowledged and changes nothing exactly when the other end has not ended the stream and
the message is either in order or waits, with room for one more and a place that has a bit. -/
theorem reacknowledged_iff {id : U8} {profile : StreamProfile} {openedByLocal : Bool}
    {localReceiveCredit peerReceiveCredit : U8} (hrel : profile.unreliable = false)
    (hnew : GtsStream.new id profile openedByLocal localReceiveCredit peerReceiveCredit = .ok s)
    (inputs : List Input) :
  let s' := Machine.run step ⟨s, []⟩ inputs
  s'.stream.state ≠ .closed → s'.stream.state ≠ .reset → ∀ sizeClass packet,
    (sizeClass, packet) ∈ s'.accepted →
      (s'.stream.Reacknowledges sizeClass packet ↔ s'.stream.Remembers packet)
  := by
  intro s' hclosed hreset sizeClass packet haccepted
  have hinv : s'.Inv := Machine.invariant_run (fun _ i h => h.step i) (inv_new hrel hnew) inputs
  have halive : ¬ s'.stream.Dead := by
    rintro (h | h)
    · exact hclosed h
    · exact hreset h
  exact reacknowledges_iff_remembers hinv.reliable halive hinv.placed
    (hinv.acceptable (sizeClass, packet) haccepted)

/-- The third message overtakes the second, and arrives again. -/
theorem reacknowledged_iff_early :
  let profile : StreamProfile := ⟨false, true, false, false, .bidirectional, .msg128⟩
  let packet : GtsPacket := .data 7#32 0#8 2#32 [2#8] false
  let inputs : List Input :=
    [.arrive .ctrl32 (.data 7#32 0#8 0#32 [0#8] false), .arrive .ctrl32 packet]
  ∃ s, GtsStream.new 0#8 profile true 3#8 3#8 = .ok s ∧
    (Machine.run step ⟨s, []⟩ inputs).stream.Reacknowledges .ctrl32 packet
  := by
  intro profile packet inputs
  obtain ⟨s, hs⟩ : ∃ s, GtsStream.new 0#8 profile true 3#8 3#8 = .ok s := ⟨_, rfl⟩
  have hrun : (Machine.run step ⟨s, []⟩ inputs).stream.state = .open ∧
      (.ctrl32, packet) ∈ (Machine.run step ⟨s, []⟩ inputs).accepted ∧
      (Machine.run step ⟨s, []⟩ inputs).stream.remoteEnded = false ∧
      ∃ rx ∈ (Machine.run step ⟨s, []⟩ inputs).stream.reliableRx, rx.Reacknowledges 2#32 := by
    cases hs
    decide +kernel
  obtain ⟨hopen, haccepted, hended, hrx⟩ := hrun
  refine ⟨s, hs, ?_⟩
  exact (reacknowledged_iff rfl hs inputs (by rw [hopen]; nofun) (by rw [hopen]; nofun) .ctrl32
    packet haccepted).mpr ⟨hended, hrx⟩

/-- The last message of a stream arrives, is acknowledged, and arrives again: it does not pass the
checks. -/
theorem not_reacknowledged_end :
  let profile : StreamProfile := ⟨false, true, false, false, .bidirectional, .msg128⟩
  let packet : GtsPacket := .data 7#32 0#8 0#32 [1#8] true
  ∃ s, GtsStream.new 0#8 profile true 3#8 3#8 = .ok s ∧
    (.ctrl32, packet) ∈ (step ⟨s, []⟩ (.arrive .ctrl32 packet)).accepted ∧
    (step ⟨s, []⟩ (.arrive .ctrl32 packet)).stream.state = .open ∧
    (step ⟨s, []⟩ (.arrive .ctrl32 packet)).stream.validateIncoming .ctrl32 packet
      = .error .profileViolation ∧
    (step ⟨s, []⟩ (.arrive .ctrl32 packet)).stream.receivePacket packet = .error .invalidState ∧
    ¬ (step ⟨s, []⟩ (.arrive .ctrl32 packet)).stream.Reacknowledges .ctrl32 packet
  := by
  intro profile packet
  obtain ⟨s, hs⟩ : ∃ s, GtsStream.new 0#8 profile true 3#8 3#8 = .ok s := ⟨_, rfl⟩
  have hrefused : (step ⟨s, []⟩ (.arrive .ctrl32 packet)).stream.validateIncoming .ctrl32 packet
      = .error .profileViolation := by
    cases hs
    decide +kernel
  refine ⟨s, hs, ?_, ?_, hrefused, ?_, ?_⟩
  · cases hs
    decide +kernel
  · cases hs
    decide +kernel
  · cases hs
    decide +kernel
  · rintro ⟨hvalid, -⟩
    rw [hrefused] at hvalid
    cases hvalid

/-- An early message fills the last room of the receiver, and arrives again: it is refused. -/
theorem not_reacknowledged_full :
  let profile : StreamProfile := ⟨false, true, false, false, .bidirectional, .msg128⟩
  let packet : GtsPacket := .data 7#32 0#8 1#32 [1#8] false
  ∃ s, GtsStream.new 0#8 profile true 1#8 1#8 = .ok s ∧
    (.ctrl32, packet) ∈ (step ⟨s, []⟩ (.arrive .ctrl32 packet)).accepted ∧
    (step ⟨s, []⟩ (.arrive .ctrl32 packet)).stream.receivePacket packet = .error .bufferFull
  := by
  intro profile packet
  obtain ⟨s, hs⟩ : ∃ s, GtsStream.new 0#8 profile true 1#8 1#8 = .ok s := ⟨_, rfl⟩
  refine ⟨s, hs, ?_⟩
  cases hs
  decide +kernel

end Accepting

end GtsStream

end SmolGnet
