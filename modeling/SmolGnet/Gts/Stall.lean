import SmolGnet.Gts.Stream
import SmolGnet.Library.Machine

/-!
# Credit refresh over a lossy channel

A sender without credit waits for an acknowledgement that brings some.  The receiver
makes acknowledgements only when a message arrives and when the application takes one,
and the sender sends again only messages that are outstanding.  So once nothing is in
flight and nothing is outstanding, a sender without credit stays without.

This happens when the acknowledgement that brings the credit is lost, because nobody
sends it again.  It does not happen as long as every acknowledgement that is lost leaves
something behind: a later acknowledgement, credit, or an outstanding message whose
retransmission makes the receiver answer once more.
-/

namespace SmolGnet

/-! ### One direction of a stream -/

/-- One direction of a reliable stream: the sender, the receiver and the acknowledgements
in flight, the oldest first. -/
structure Flow where
  tx : ReliableTx
  rx : ReliableRx
  acks : List Ack

namespace Flow

variable {f f' : Flow}

/-- What happens to a direction of a stream, the loss of acknowledgements apart. -/
inductive Step : Flow → Flow → Prop
  | stay (f : Flow) : Step f f
  | queue {f : Flow} {data : Bytes} {isEnd : Bool} {now : U64} {seq : U32} {tx : ReliableTx}
      (h : f.tx.queue data isEnd now = .ok (seq, tx)) :
      Step f { f with tx }
  | due (f : Flow) (now : U64) : Step f { f with tx := (f.tx.due now).2 }
  | receive {f : Flow} {seq : U32} {data : Bytes} {b : Bool} {rx : ReliableRx}
      (h : f.rx.receive seq data = .ok (b, rx)) :
      Step f { f with rx, acks := f.acks ++ rx.ack.toList }
  | recv {f : Flow} {m : Bytes} {rx : ReliableRx} (h : f.rx.recv = (some m, rx)) :
      Step f { f with rx, acks := f.acks ++ rx.ack.toList }
  | onAck {f : Flow} {a : Ack} {rest : List Ack} (h : f.acks = a :: rest) :
      Step f { f with tx := f.tx.onAck a.base a.bitmap a.credit, acks := rest }

/-- The acknowledgement at position `i` is lost. -/
def loseAck (f : Flow) (i : ℕ) : Flow :=
  { f with acks := f.acks.eraseIdx i }

/-- The credit of the sender once the acknowledgements in flight have arrived. -/
def finalCredit (f : Flow) : U8 :=
  match f.acks.getLast? with
  | some a => a.credit
  | none => f.tx.peerCredit

/-- The message is still outstanding once the acknowledgements in flight have arrived. -/
def Uncovered (f : Flow) (k : U32) : Prop :=
  k ∈ f.tx.outstanding ∧ ∀ a ∈ f.acks, acked a.base a.bitmap k = false

/-- The sender has credit once the acknowledgements in flight have arrived, or the
receiver has none to give, or a message will be sent again. -/
def Refreshable (f : Flow) : Prop :=
  f.finalCredit ≠ 0#8 ∨ f.rx.credit = 0#8 ∨ ∃ k, f.Uncovered k

/-- The loss of the acknowledgement at position `i` leaves something behind: a later
acknowledgement, a receiver without credit to give, credit for the sender, or a message
that will be sent again. -/
def LossHarmless (f : Flow) (i : ℕ) : Prop :=
  i + 1 < f.acks.length ∨ f.rx.credit = 0#8 ∨ (f.loseAck i).finalCredit ≠ 0#8 ∨
    ∃ k, (f.loseAck i).Uncovered k

/-- The invariant of a direction: it is refreshable, and the receiver that has delivered
a message answers. -/
structure Live (f : Flow) : Prop where
  refreshable : f.Refreshable
  seen : f.rx.delivered ≠ [] → f.rx.seenAny = true

theorem finalCredit_nil (h : f.acks = []) :
  f.finalCredit = f.tx.peerCredit
  := by
  rw [finalCredit, h]
  rfl

theorem finalCredit_of_getLast? {a : Ack} (h : f.acks.getLast? = some a) :
  f.finalCredit = a.credit
  := by
  rw [finalCredit, h]

/-- A receiver without credit to give has no room. -/
theorem credit_eq_zero {rx : ReliableRx} :
  rx.credit = 0#8 ↔ rx.capacity ≤ rx.used
  := by
  have hlt : min (rx.capacity - rx.used) 255 < 2 ^ 8 := by omega
  rw [ReliableRx.credit, BitVec.toNat_eq, BitVec.toNat_ofNat, Nat.mod_eq_of_lt hlt]
  simp only [BitVec.toNat_zero]
  omega

/-- A receiver that has delivered a message in order answers with its credit. -/
theorem ack_of_seenAny {rx : ReliableRx} (h : rx.seenAny = true) :
  ∃ a, rx.ack = some a ∧ a.credit = rx.credit
  := by
  rw [ReliableRx.ack, if_neg (by simp [h])]
  exact ⟨_, rfl, rfl⟩

/-- An answer of the receiver makes the direction refreshable. -/
theorem refreshable_of_answer {rx : ReliableRx} (h : rx.seenAny = true) :
  Refreshable { f with rx, acks := f.acks ++ rx.ack.toList }
  := by
  obtain ⟨a, ha, hcredit⟩ := ack_of_seenAny h
  have hlast : (f.acks ++ rx.ack.toList).getLast? = some a := by
    rw [ha, Option.toList_some, List.getLast?_concat]
  by_cases hzero : rx.credit = 0#8
  · exact Or.inr (Or.inl hzero)
  · apply Or.inl
    rw [finalCredit_of_getLast? hlast, hcredit]
    exact hzero

theorem Live.queue
    (h : f.Live) {data : Bytes} {isEnd : Bool} {now : U64} {seq : U32} {tx : ReliableTx}
    (hq : f.tx.queue data isEnd now = .ok (seq, tx)) :
  Live { f with tx }
  := by
  obtain ⟨-, -, rfl⟩ := ReliableTx.queue_eq_ok hq
  constructor
  · cases hlast : f.acks.getLast? with
    | none =>
      -- the new message is covered by nothing in flight
      have hnil : f.acks = [] := List.getLast?_eq_none_iff.mp hlast
      exact Or.inr (Or.inr ⟨f.tx.nextSequence, Std.ExtTreeMap.mem_insert_self, by simp [hnil]⟩)
    | some a =>
      rcases h.refreshable with hcredit | hzero | ⟨k, hmem, hk⟩
      · apply Or.inl
        simp only [finalCredit, hlast] at hcredit ⊢
        exact hcredit
      · exact Or.inr (Or.inl hzero)
      · exact Or.inr (Or.inr ⟨k, Std.ExtTreeMap.mem_insert.mpr (Or.inr hmem), hk⟩)
  · exact h.seen

theorem Live.due (h : f.Live) (now : U64) :
  Live { f with tx := (f.tx.due now).2 }
  := by
  constructor
  · rcases h.refreshable with hcredit | hzero | ⟨k, hmem, hk⟩
    · exact Or.inl hcredit
    · exact Or.inr (Or.inl hzero)
    · exact Or.inr (Or.inr ⟨k, Std.ExtTreeMap.mem_map.mpr hmem, hk⟩)
  · exact h.seen

theorem Live.receive
    (h : f.Live) {seq : U32} {data : Bytes} {b : Bool} {rx : ReliableRx}
    (hr : f.rx.receive seq data = .ok (b, rx)) :
  Live { f with rx, acks := f.acks ++ rx.ack.toList }
  := by
  by_cases hseen : rx.seenAny = true
  · exact ⟨refreshable_of_answer hseen, fun _ => hseen⟩
  · have hnone : rx.ack = none := by simp [ReliableRx.ack, hseen]
    rw [hnone, Option.toList_none, List.append_nil]
    obtain ⟨-, -, rfl⟩ | ⟨-, -, -, rfl⟩ | ⟨-, -, hroom, -, rfl⟩ := ReliableRx.receive_eq_ok hr
    · exact h
    · rw [(ReliableRx.drain_used _ _).2.2] at hseen
      exact absurd rfl hseen
    · constructor
      · rcases h.refreshable with hcredit | hzero | huncovered
        · exact Or.inl hcredit
        · have := credit_eq_zero.mp hzero
          omega
        · exact Or.inr (Or.inr huncovered)
      · exact h.seen

theorem Live.recv (h : f.Live) {m : Bytes} {rx : ReliableRx} (hr : f.rx.recv = (some m, rx)) :
  Live { f with rx, acks := f.acks ++ rx.ack.toList }
  := by
  have hseen : rx.seenAny = true := by
    rw [ReliableRx.recv] at hr
    split at hr
    · cases hr
    · next hdel =>
      cases hr
      apply h.seen
      simp [hdel]
  exact ⟨refreshable_of_answer hseen, fun _ => hseen⟩

theorem Live.onAck (h : f.Live) {a : Ack} {rest : List Ack} (ha : f.acks = a :: rest) :
  Live { f with tx := f.tx.onAck a.base a.bitmap a.credit, acks := rest }
  := by
  constructor
  · rcases h.refreshable with hcredit | hzero | ⟨k, hmem, hk⟩
    · apply Or.inl
      cases rest with
      | nil => rwa [finalCredit_of_getLast? (a := a) (by rw [ha]; rfl)] at hcredit
      | cons a' rest =>
        rw [finalCredit, ha, List.getLast?_cons_cons] at hcredit
        exact hcredit
    · exact Or.inr (Or.inl hzero)
    · rw [ha] at hk
      refine Or.inr (Or.inr ⟨k, ?_, fun a' ha' => hk a' (List.mem_cons_of_mem a ha')⟩)
      rw [Std.ExtTreeMap.mem_iff_isSome_getElem?, ReliableTx.getElem?_onAck,
        if_neg (by simp [hk a List.mem_cons_self])]
      exact Std.ExtTreeMap.mem_iff_isSome_getElem?.mp hmem
  · exact h.seen

/-- Whatever happens to a live direction, the loss of acknowledgements apart, it stays
live. -/
theorem Live.step (h : f.Live) (hstep : f.Step f') :
  f'.Live
  := by
  cases hstep with
  | stay => exact h
  | queue hq => exact h.queue hq
  | due now => exact h.due now
  | receive hr => exact h.receive hr
  | recv hr => exact h.recv hr
  | onAck ha => exact h.onAck ha

/-- The loss of an acknowledgement that is not the last keeps the final credit. -/
theorem getLast?_eraseIdx {α : Type*} {l : List α} {i : ℕ} (h : i + 1 < l.length) :
  (l.eraseIdx i).getLast? = l.getLast?
  := by
  rw [List.getLast?_eq_getElem?, List.getLast?_eq_getElem?, List.length_eraseIdx_of_lt (by omega),
    List.getElem?_eraseIdx_of_ge (by omega)]
  congr 1
  omega

theorem Live.loseAck (h : f.Live) {i : ℕ} (hok : f.LossHarmless i) :
  (f.loseAck i).Live
  := by
  constructor
  · rcases hok with hlater | hzero | hcredit | huncovered
    · rcases h.refreshable with hcredit | hzero | ⟨k, hmem, hk⟩
      · apply Or.inl
        rw [finalCredit, Flow.loseAck, getLast?_eraseIdx hlater]
        exact hcredit
      · exact Or.inr (Or.inl hzero)
      · exact Or.inr (Or.inr ⟨k, hmem, fun a ha => hk a (List.mem_of_mem_eraseIdx ha)⟩)
    · exact Or.inr (Or.inl hzero)
    · exact Or.inl hcredit
    · exact Or.inr (Or.inr huncovered)
  · exact h.seen

/-- A live direction without acknowledgements in flight and without outstanding messages,
whose receiver has credit to give, has a sender with credit. -/
theorem Live.peerCredit_ne_zero
    (h : f.Live) (hacks : f.acks = []) (hout : f.tx.outstanding = ∅)
    (hcredit : f.rx.credit ≠ 0#8) :
  f.tx.peerCredit ≠ 0#8
  := by
  rcases h.refreshable with hfinal | hzero | ⟨k, hmem, -⟩
  · rwa [finalCredit_nil hacks] at hfinal
  · contradiction
  · rw [hout] at hmem
    cases Std.ExtTreeMap.not_mem_empty hmem

end Flow

/-! ### The two ends of a stream -/

/-- The two ends of a stream, `true` the one that opened it, with what is in flight: the
messages each end has sent, in the class they travel in, and the acknowledgements of its
messages, the oldest first. -/
structure StreamPair where
  tunnelId : U32
  ends : Bool → GtsStream
  data : Bool → List (SizeClass × GtsPacket)
  acks : Bool → List Ack

namespace StreamPair

/-- What the two ends, the channel and the applications can do.  The Boolean is the
direction, named after the end that sends the messages. -/
inductive Action where
  | send (d : Bool) (bytes : Bytes) (isEnd : Bool) (now : U64)
  | tick (d : Bool) (now : U64)
  | deliverData (d : Bool)
  | loseData (d : Bool) (i : ℕ)
  | deliverAck (d : Bool)
  | loseAck (d : Bool) (i : ℕ)
  | recv (d : Bool)

/-- The ends of a new stream. -/
def init (tunnelId : U32) (opener peer : GtsStream) : StreamPair where
  tunnelId := tunnelId
  ends := fun d => if d then opener else peer
  data := fun _ => []
  acks := fun _ => []

/-- Send a packet in the class that is chosen for it. -/
def transmit (profile : StreamProfile) (packet : GtsPacket) : List (SizeClass × GtsPacket) :=
  match packet.chooseSizeClass (some profile) with
  | .ok sizeClass => [(sizeClass, packet)]
  | .error _ => []

/-- The acknowledgement in a packet. -/
def ackOf : GtsPacket → Option Ack
  | .ack _ _ base bitmap credit => some ⟨base, bitmap, credit⟩
  | _ => none

/-- A message arrives; the answer, if any, is to be sent. -/
def arrive (e : GtsStream) (p : SizeClass × GtsPacket) :
    Except Error (Option GtsPacket × GtsStream) := do
  e.validateIncoming p.1 p.2
  e.receivePacket p.2

/-- An acknowledgement arrives. -/
def arriveAck (e : GtsStream) (tunnelId : U32) (a : Ack) : Except Error GtsStream := do
  e.validateIncoming .ctrl32 (GtsStream.ackPacket tunnelId e.id a)
  e.onAck a.base a.bitmap a.credit

def send (s : StreamPair) (d : Bool) (bytes : Bytes) (isEnd : Bool) (now : U64) : StreamPair :=
  match (s.ends d).sendPacket s.tunnelId bytes isEnd now with
  | .error _ => s
  | .ok (packet, e) =>
    { s with
      ends := Function.update s.ends d e
      data := Function.update s.data d (s.data d ++ transmit (s.ends d).profile packet) }

def tick (s : StreamPair) (d : Bool) (now : U64) : StreamPair :=
  let (packets, e) := (s.ends d).retransmitDue s.tunnelId now
  { s with
    ends := Function.update s.ends d e
    data := Function.update s.data d
      (s.data d ++ packets.flatMap (transmit (s.ends d).profile)) }

def deliverData (s : StreamPair) (d : Bool) : StreamPair :=
  match s.data d with
  | [] => s
  | p :: rest =>
    match arrive (s.ends !d) p with
    | .error _ => { s with data := Function.update s.data d rest }
    | .ok (reply, e) =>
      { s with
        ends := Function.update s.ends (!d) e
        data := Function.update s.data d rest
        acks := Function.update s.acks d (s.acks d ++ (reply.bind ackOf).toList) }

def deliverAck (s : StreamPair) (d : Bool) : StreamPair :=
  match s.acks d with
  | [] => s
  | a :: rest =>
    match arriveAck (s.ends d) s.tunnelId a with
    | .error _ => { s with acks := Function.update s.acks d rest }
    | .ok e =>
      { s with
        ends := Function.update s.ends d e
        acks := Function.update s.acks d rest }

def recv (s : StreamPair) (d : Bool) : StreamPair :=
  match (s.ends !d).recv with
  | (none, e) => { s with ends := Function.update s.ends (!d) e }
  | (some _, e) =>
    { s with
      ends := Function.update s.ends (!d) e
      acks := Function.update s.acks d
        (s.acks d ++ ((e.receiveCreditAck s.tunnelId).bind ackOf).toList) }

/-- One step. -/
def step (s : StreamPair) : Action → StreamPair
  | .send d bytes isEnd now => s.send d bytes isEnd now
  | .tick d now => s.tick d now
  | .deliverData d => s.deliverData d
  | .loseData d i => { s with data := Function.update s.data d ((s.data d).eraseIdx i) }
  | .deliverAck d => s.deliverAck d
  | .loseAck d i => { s with acks := Function.update s.acks d ((s.acks d).eraseIdx i) }
  | .recv d => s.recv d

/-- The direction `d` of a reliable stream. -/
def flow (s : StreamPair) (d : Bool) : Option Flow :=
  match (s.ends d).reliableTx, (s.ends !d).reliableRx with
  | some tx, some rx => some ⟨tx, rx, s.acks d⟩
  | _, _ => none

/-- The stream has stalled in the direction `d`: nothing is in flight and nothing is
outstanding, the receiver has credit to give and the sender has none. -/
def Stalled (s : StreamPair) (d : Bool) : Prop :=
  (∀ e, s.data e = [] ∧ s.acks e = []) ∧
    ∃ f, s.flow d = some f ∧ f.tx.outstanding = ∅ ∧ f.rx.credit ≠ 0#8 ∧ f.tx.peerCredit = 0#8

/-- The step loses no acknowledgement of the direction `d`, or its loss is harmless. -/
def LossHarmless (d : Bool) (s : StreamPair) (a : Action) : Prop :=
  ∀ i f, a = .loseAck d i → s.flow d = some f → f.LossHarmless i

/-! ### The directions of a pair -/

/-- Both ends are open ends of a reliable stream, and `f` is its direction `d`. -/
structure Carries (s : StreamPair) (d : Bool) (f : Flow) : Prop where
  open_state : ∀ e, (s.ends e).state = .open
  reliable : ∀ e, (s.ends e).profile.unreliable = false
  tx_eq : (s.ends d).reliableTx = some f.tx
  rx_eq : (s.ends !d).reliableRx = some f.rx
  acks_eq : s.acks d = f.acks

variable {s s' : StreamPair} {d : Bool} {f f' : Flow}

theorem Carries.flow_eq (h : s.Carries d f) :
  s.flow d = some f
  := by
  rw [flow, h.tx_eq, h.rx_eq, h.acks_eq]

/-- Both ends stay open ends of a reliable stream when one of them is replaced by such
an end. -/
theorem Carries.update (h : s.Carries d f) {e : Bool} {st : GtsStream}
    (hstate : st.state = .open) (hprofile : st.profile = (s.ends e).profile) (e' : Bool) :
  (Function.update s.ends e st e').state = .open ∧
    (Function.update s.ends e st e').profile.unreliable = false
  := by
  by_cases he : e' = e
  · subst he
    rw [Function.update_self, hprofile]
    exact ⟨hstate, h.reliable e'⟩
  · rw [Function.update_of_ne he]
    exact ⟨h.open_state e', h.reliable e'⟩

/-- The end that sends in the direction `d` is replaced. -/
theorem Carries.setSender (h : s.Carries d f) {st : GtsStream} {tx : ReliableTx}
    {acks : List Ack} (hends : s'.ends = Function.update s.ends d st)
    (hstate : st.state = .open) (hprofile : st.profile = (s.ends d).profile)
    (htx : st.reliableTx = some tx) (hacks : s'.acks d = acks) :
  s'.Carries d { f with tx, acks }
  := by
  refine ⟨?_, ?_, ?_, ?_, hacks⟩
  · rw [hends]
    exact fun e' => (h.update hstate hprofile e').1
  · rw [hends]
    exact fun e' => (h.update hstate hprofile e').2
  · rw [hends, Function.update_self]
    exact htx
  · rw [hends, Function.update_of_ne (by simp)]
    exact h.rx_eq

/-- The end that receives in the direction `d` is replaced. -/
theorem Carries.setReceiver (h : s.Carries d f) {st : GtsStream} {rx : ReliableRx}
    {acks : List Ack} (hends : s'.ends = Function.update s.ends (!d) st)
    (hstate : st.state = .open) (hprofile : st.profile = (s.ends !d).profile)
    (hrx : st.reliableRx = some rx) (hacks : s'.acks d = acks) :
  s'.Carries d { f with rx, acks }
  := by
  refine ⟨?_, ?_, ?_, ?_, hacks⟩
  · rw [hends]
    exact fun e' => (h.update hstate hprofile e').1
  · rw [hends]
    exact fun e' => (h.update hstate hprofile e').2
  · rw [hends, Function.update_of_ne (by simp)]
    exact h.tx_eq
  · rw [hends, Function.update_self]
    exact hrx

theorem Carries.send (h : s.Carries d f) (e : Bool) (bytes : Bytes) (isEnd : Bool) (now : U64) :
  ∃ f', f.Step f' ∧ (s.send e bytes isEnd now).Carries d f'
  := by
  rw [StreamPair.send]
  split
  · exact ⟨f, .stay f, h⟩
  · next packet st hsend =>
    obtain ⟨hopen, -, -, -, tx, seq, tx', htx, hq, rfl, rfl⟩ :=
      GtsStream.sendPacket_eq_ok (h.reliable e) hsend
    by_cases hed : e = d
    · subst hed
      obtain rfl : tx = f.tx := Option.some.inj (htx.symm.trans h.tx_eq)
      exact ⟨_, .queue hq, h.setSender rfl hopen rfl rfl h.acks_eq⟩
    · obtain rfl : e = !d := Bool.eq_not_of_ne hed
      exact ⟨_, .stay f, h.setReceiver rfl hopen rfl h.rx_eq h.acks_eq⟩

theorem Carries.tick (h : s.Carries d f) (e : Bool) (now : U64) :
  ∃ f', f.Step f' ∧ (s.tick e now).Carries d f'
  := by
  rw [StreamPair.tick, GtsStream.retransmitDue]
  by_cases hed : e = d
  · subst hed
    rw [h.tx_eq]
    exact ⟨_, .due f now, h.setSender rfl (h.open_state e) rfl rfl h.acks_eq⟩
  · obtain rfl : e = !d := Bool.eq_not_of_ne hed
    refine ⟨_, .stay f, h.setReceiver rfl ?_ ?_ ?_ h.acks_eq⟩
    · split
      · exact h.open_state _
      · exact h.open_state _
    · split
      · rfl
      · rfl
    · split
      · exact h.rx_eq
      · exact h.rx_eq

/-- What the receiver of a reliable stream does with a message it accepts. -/
theorem arrive_eq_ok
    {e e' : GtsStream} (hrel : e.profile.unreliable = false) {p : SizeClass × GtsPacket}
    {reply : Option GtsPacket} (h : arrive e p = .ok (reply, e')) :
  ∃ seq data isEnd rx b rx', e.reliableRx = some rx ∧ rx.receive seq data = .ok (b, rx') ∧
    reply.bind ackOf = rx'.ack ∧ e' = { e with reliableRx := some rx', remoteEnded := isEnd }
  := by
  rw [arrive, bind_eq_ok] at h
  obtain ⟨_, -, h⟩ := h
  obtain ⟨tunnelId, seq, data, isEnd, rx, b, rx', -, -, hrx, hreceive, rfl, rfl⟩ :=
    GtsStream.receivePacket_eq_ok hrel h
  refine ⟨seq, data, isEnd, rx, b, rx', hrx, hreceive, ?_, rfl⟩
  cases rx'.ack with
  | none => rfl
  | some a => rfl

theorem Carries.deliverData (h : s.Carries d f) (e : Bool) :
  ∃ f', f.Step f' ∧ (s.deliverData e).Carries d f'
  := by
  rw [StreamPair.deliverData]
  split
  · exact ⟨f, .stay f, h⟩
  · next p rest hdata =>
    split
    · exact ⟨f, .stay f, { h with }⟩
    · next reply st harrive =>
      obtain ⟨seq, data, isEnd, rx, b, rx', hrx, hreceive, hreply, rfl⟩ :=
        arrive_eq_ok (h.reliable _) harrive
      by_cases hed : e = d
      · subst hed
        obtain rfl : rx = f.rx := Option.some.inj (hrx.symm.trans h.rx_eq)
        refine ⟨_, .receive hreceive, h.setReceiver rfl (h.open_state _) rfl rfl ?_⟩
        dsimp only
        rw [Function.update_self, h.acks_eq, hreply]
      · obtain rfl : e = !d := Bool.eq_not_of_ne hed
        rw [Bool.not_not]
        exact ⟨_, .stay f, h.setSender rfl (h.open_state d) rfl h.tx_eq
          ((Function.update_of_ne (by simp) _ _).trans h.acks_eq)⟩

/-- An open reliable stream takes every acknowledgement. -/
theorem arriveAck_eq_ok
    {e : GtsStream} {tx : ReliableTx} (hstate : e.state = .open)
    (hrel : e.profile.unreliable = false) (htx : e.reliableTx = some tx) (tunnelId : U32)
    (a : Ack) :
  arriveAck e tunnelId a
    = .ok { e with reliableTx := some (tx.onAck a.base a.bitmap a.credit) }
  := by
  have hvalid : e.validateIncoming .ctrl32 (GtsStream.ackPacket tunnelId e.id a) = .ok () := by
    rw [GtsStream.ackPacket, GtsStream.validateIncoming, if_neg (by simp [hstate])]
    simp [hrel]
  rw [arriveAck, hvalid]
  simp [bind, Except.bind, GtsStream.onAck, hstate, hrel, htx]

/-- An acknowledgement changes the sender only. -/
theorem exists_of_arriveAck
    {e e' : GtsStream} {tunnelId : U32} {a : Ack} (h : arriveAck e tunnelId a = .ok e') :
  ∃ tx, e' = { e with reliableTx := tx }
  := by
  rw [arriveAck, bind_eq_ok] at h
  obtain ⟨_, -, h⟩ := h
  rw [GtsStream.onAck] at h
  split at h
  · cases h
  · split at h
    · cases h
    · cases h
      exact ⟨_, rfl⟩

theorem Carries.deliverAck (h : s.Carries d f) (e : Bool) :
  ∃ f', f.Step f' ∧ (s.deliverAck e).Carries d f'
  := by
  rw [StreamPair.deliverAck]
  split
  · exact ⟨f, .stay f, h⟩
  · next a rest hacks =>
    by_cases hed : e = d
    · subst hed
      rw [arriveAck_eq_ok (h.open_state e) (h.reliable e) h.tx_eq]
      refine ⟨_, .onAck (h.acks_eq.symm.trans hacks), h.setSender rfl (h.open_state e) rfl rfl ?_⟩
      exact Function.update_self ..
    · obtain rfl : e = !d := Bool.eq_not_of_ne hed
      have hacks' : Function.update s.acks (!d) rest d = f.acks := by
        rw [Function.update_of_ne (by simp)]
        exact h.acks_eq
      split
      · exact ⟨f, .stay f, { h with acks_eq := hacks' }⟩
      · next st hack =>
        obtain ⟨tx, rfl⟩ := exists_of_arriveAck hack
        exact ⟨_, .stay f, h.setReceiver rfl (h.open_state _) rfl h.rx_eq hacks'⟩

theorem recv_of_none {rx : ReliableRx} (h : rx.recv.1 = none) :
  rx.recv.2 = rx
  := by
  rw [ReliableRx.recv] at h ⊢
  split at h
  · rfl
  · cases h

theorem Carries.recv (h : s.Carries d f) (e : Bool) :
  ∃ f', f.Step f' ∧ (s.recv e).Carries d f'
  := by
  rw [StreamPair.recv]
  by_cases hed : e = d
  · subst hed
    split
    · next st hrecv =>
      obtain ⟨hst, hrx⟩ := GtsStream.recv_eq (h.reliable _) hrecv
      obtain ⟨hm, hrx'⟩ := hrx f.rx h.rx_eq
      rw [recv_of_none hm.symm] at hrx'
      exact ⟨f, .stay f, h.setReceiver rfl (by rw [hst]; exact h.open_state _) (by rw [hst]) hrx'
        h.acks_eq⟩
    · next m st hrecv =>
      obtain ⟨hst, hrx⟩ := GtsStream.recv_eq (h.reliable _) hrecv
      obtain ⟨hm, hrx'⟩ := hrx f.rx h.rx_eq
      have hopen : st.state = .open := by
        rw [hst]
        exact h.open_state _
      have hprofile : st.profile = (s.ends !e).profile := by rw [hst]
      have hack : (st.receiveCreditAck s.tunnelId).bind ackOf = f.rx.recv.2.ack := by
        rw [GtsStream.receiveCreditAck, if_neg (by simp [hopen, hprofile, h.reliable]), hrx']
        cases hack : f.rx.recv.2.ack with
        | none => simp [hack]
        | some a => simp [hack, GtsStream.ackPacket, ackOf]
      refine ⟨_, .recv (Prod.ext hm.symm rfl), h.setReceiver rfl hopen hprofile hrx' ?_⟩
      dsimp only
      rw [Function.update_self, h.acks_eq, hack]
  · obtain rfl : e = !d := Bool.eq_not_of_ne hed
    rw [Bool.not_not]
    split
    · next st hrecv =>
      obtain ⟨hst, -⟩ := GtsStream.recv_eq (h.reliable _) hrecv
      refine ⟨_, .stay f, h.setSender rfl ?_ ?_ ?_ h.acks_eq⟩
      · rw [hst]
        exact h.open_state d
      · rw [hst]
      · rw [hst]
        exact h.tx_eq
    · next st hrecv =>
      obtain ⟨hst, -⟩ := GtsStream.recv_eq (h.reliable _) hrecv
      refine ⟨_, .stay f, h.setSender rfl ?_ ?_ ?_ ?_⟩
      · rw [hst]
        exact h.open_state d
      · rw [hst]
      · rw [hst]
        exact h.tx_eq
      · exact (Function.update_of_ne (by simp) _ _).trans h.acks_eq

/-- A step keeps the direction live, provided it loses no acknowledgement of it or its
loss is harmless. -/
theorem Carries.step (h : s.Carries d f) (hlive : f.Live) (a : Action)
    (hok : LossHarmless d s a) :
  ∃ f', (s.step a).Carries d f' ∧ f'.Live
  := by
  have hstep : (∃ f', f.Step f' ∧ (s.step a).Carries d f') →
      ∃ f', (s.step a).Carries d f' ∧ f'.Live := by
    rintro ⟨f', hf', h'⟩
    exact ⟨f', h', hlive.step hf'⟩
  cases a with
  | send e bytes isEnd now => exact hstep (h.send e bytes isEnd now)
  | tick e now => exact hstep (h.tick e now)
  | deliverData e => exact hstep (h.deliverData e)
  | loseData e i => exact ⟨f, { h with }, hlive⟩
  | deliverAck e => exact hstep (h.deliverAck e)
  | loseAck e i =>
    by_cases hed : e = d
    · subst hed
      refine ⟨f.loseAck i, { h with acks_eq := ?_ }, hlive.loseAck (hok i f rfl h.flow_eq)⟩
      simp only [StreamPair.step, Function.update_self, h.acks_eq, Flow.loseAck]
    · refine ⟨f, { h with acks_eq := ?_ }, hlive⟩
      simp only [StreamPair.step]
      rw [Function.update_of_ne (Ne.symm hed)]
      exact h.acks_eq
  | recv e => exact hstep (h.recv e)

/-- The receive credit the end that receives in the direction `d` starts with. -/
def receiveCredit (openerCredit peerCredit : U8) (d : Bool) : U8 :=
  if d then peerCredit else openerCredit

/-- A new stream is live in every direction that starts with credit. -/
theorem carries_init
    {id : U8} {profile : StreamProfile} {openerCredit peerCredit : U8}
    {opener peer : GtsStream} (hrel : profile.unreliable = false)
    (hopener : GtsStream.new id profile true openerCredit peerCredit = .ok opener)
    (hpeer : GtsStream.new id profile false peerCredit openerCredit = .ok peer)
    (tunnelId : U32) (hcredit : receiveCredit openerCredit peerCredit d ≠ 0#8) :
  ∃ f, (init tunnelId opener peer).Carries d f ∧ f.Live
  := by
  obtain rfl := GtsStream.new_eq_ok hrel hopener
  obtain rfl := GtsStream.new_eq_ok hrel hpeer
  cases d with
  | true =>
    refine ⟨⟨.new peerCredit, .new _, []⟩, ⟨?_, ?_, rfl, rfl, rfl⟩, Or.inl hcredit,
      by simp [ReliableRx.new]⟩
    · intro e
      cases e <;> rfl
    · intro e
      cases e <;> exact hrel
  | false =>
    refine ⟨⟨.new openerCredit, .new _, []⟩, ⟨?_, ?_, rfl, rfl, rfl⟩, Or.inl hcredit,
      by simp [ReliableRx.new]⟩
    · intro e
      cases e <;> rfl
    · intro e
      cases e <;> exact hrel

/-- A direction that starts with credit never stalls, provided every loss of an
acknowledgement is harmless. -/
theorem not_stalled
    {id : U8} {profile : StreamProfile} {openerCredit peerCredit : U8}
    {opener peer : GtsStream} (hrel : profile.unreliable = false)
    (hopener : GtsStream.new id profile true openerCredit peerCredit = .ok opener)
    (hpeer : GtsStream.new id profile false peerCredit openerCredit = .ok peer)
    (tunnelId : U32) (d : Bool) (hcredit : receiveCredit openerCredit peerCredit d ≠ 0#8)
    (as : List Action)
    (hok : Machine.Along step (LossHarmless d) (init tunnelId opener peer) as) :
  ¬ (Machine.run step (init tunnelId opener peer) as).Stalled d
  := by
  obtain ⟨f, hf, hlive⟩ := Machine.invariant_along
    (P := fun s => ∃ f, s.Carries d f ∧ f.Live)
    (fun s a ⟨f, hf, hlive⟩ hok => hf.step hlive a hok)
    (carries_init hrel hopener hpeer tunnelId hcredit) hok
  rintro ⟨hquiet, f', hf', hout, hgive, hzero⟩
  obtain rfl : f = f' := Option.some.inj (hf.flow_eq.symm.trans hf')
  have hacks : f.acks = [] := hf.acks_eq.symm.trans (hquiet d).2
  exact hlive.peerCredit_ne_zero hacks hout hgive hzero

/-- The acknowledgement of the first message is lost while the receiver has no credit to
give; the message is sent again and acknowledged once more. -/
theorem not_stalled_retransmitted :
  let profile : StreamProfile := ⟨false, true, false, false, .openerToPeer, .msg128⟩
  let as : List Action :=
    [.send true [0#8] false 0#64, .deliverData true, .loseAck true 0, .recv true,
      .tick true 500#64, .deliverData true, .deliverAck true, .deliverAck true]
  ∃ opener peer, GtsStream.new 0#8 profile true 0#8 1#8 = .ok opener ∧
    GtsStream.new 0#8 profile false 1#8 0#8 = .ok peer ∧
    Machine.Along step (LossHarmless true) (init 7#32 opener peer) as ∧
    ((Machine.run step (init 7#32 opener peer) as).flow true).map (fun f => f.rx.credit)
      = some 1#8 ∧
    ¬ (Machine.run step (init 7#32 opener peer) as).Stalled true
  := by
  intro profile as
  obtain ⟨opener, hopener⟩ : ∃ opener, GtsStream.new 0#8 profile true 0#8 1#8 = .ok opener :=
    ⟨_, rfl⟩
  obtain ⟨peer, hpeer⟩ : ∃ peer, GtsStream.new 0#8 profile false 1#8 0#8 = .ok peer := ⟨_, rfl⟩
  have hok : Machine.Along step (LossHarmless true) (init 7#32 opener peer) as := by
    cases hopener
    cases hpeer
    refine ⟨nofun, nofun, ?_, nofun, nofun, nofun, nofun, nofun, trivial⟩
    intro i f _ hf
    have hcredit := congrArg (Option.map (fun f => f.rx.credit)) hf
    exact Or.inr (Or.inl (Option.some.inj (hcredit.symm.trans (by decide))))
  have hrx : ((Machine.run step (init 7#32 opener peer) as).flow true).map (fun f => f.rx.credit)
      = some 1#8 := by
    cases hopener
    cases hpeer
    decide
  exact ⟨opener, peer, hopener, hpeer, hok, hrx,
    not_stalled rfl hopener hpeer 7#32 true (by decide) as hok⟩

/-- With room for one message, the acknowledgement that brings the credit after the
application has taken the message is lost: the stream has stalled. -/
theorem stalled_by_lost_refresh :
  let profile : StreamProfile := ⟨false, true, false, false, .openerToPeer, .msg128⟩
  ∃ opener peer, GtsStream.new 0#8 profile true 0#8 1#8 = .ok opener ∧
    GtsStream.new 0#8 profile false 1#8 0#8 = .ok peer ∧
    (Machine.run step (init 7#32 opener peer)
      [.send true [0#8] false 0#64, .deliverData true, .deliverAck true, .recv true,
        .loseAck true 0]).Stalled true
  := by
  intro profile
  refine ⟨_, _, rfl, rfl, ?_, _, rfl, ?_, ?_, ?_⟩
  · decide
  · decide
  · decide
  · decide

end StreamPair

end SmolGnet
