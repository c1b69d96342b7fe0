import SmolGnet.BoundedGts.Delivery

/-!
# Complete delivery by the heapless socket

When each of the at most 33 messages of a stream arrives once, in any order, and there is
room for each, then all of them are accepted and the application can take all of them.

The window admits sequence numbers up to 32 beyond the expected one, so it admits all
messages.  After each packet no message waits under the expected sequence number, hence
when all have arrived, all have been delivered.
-/

namespace SmolGnet

namespace RxView

open scoped Classical

variable {v v' : RxView} {id : U8} {i : ℕ} {m : RxMeta} {data : Bytes} {c c' : StreamCore}
  {G : U32 → Bytes → Bool → Prop} {messages : List (Bytes × Bool)}

/-! ### No message is left waiting -/

/-- A message waits under the expected sequence number. -/
def Awaits (v : RxView) (id : U8) : Prop :=
  ∃ c i m data, v.stream id = some c ∧ v.slots i = some (m, data) ∧ m.streamId = id ∧
    m.sequence = c.nextExpected ∧ m.disposition = .pending

theorem SameFor.awaits_iff (h : SameFor id v v') :
  v'.Awaits id ↔ v.Awaits id
  := by
  constructor
  · rintro ⟨c, i, m, data, hc, hi, hm, hseq, hpending⟩
    exact ⟨c, i, m, data, h.stream_eq ▸ hc, (h.slots_iff i m data hm).mp hi, hm, hseq, hpending⟩
  · rintro ⟨c, i, m, data, hc, hi, hm, hseq, hpending⟩
    exact ⟨c, i, m, data, h.stream_eq.trans hc, (h.slots_iff i m data hm).mpr hi, hm, hseq,
      hpending⟩

theorem awaits_of_remove (h : (v.setSlot i none).Awaits id) :
  v.Awaits id
  := by
  obtain ⟨c, j, m, data, hc, hj, hm⟩ := h
  rcases setSlot_eq_some.mp hj with ⟨-, heq⟩ | ⟨-, hj⟩
  · cases heq
  · exact ⟨c, j, m, data, hc, hj, hm⟩

theorem pending_pos (hi : v.IsPending i) (hlt : i < v.capacity) :
  0 < v.pending
  := Finset.card_pos.mpr ⟨i, Finset.mem_filter.mpr ⟨Finset.mem_range.mpr hlt, hi⟩⟩

/-- The state of a stream that is open and has ended only with its last message. -/
def Steady (messages : List (Bytes × Bool)) (c : StreamCore) : Prop :=
  c.state = .open ∧ (c.remoteEnded = true → c.nextExpected.toNat = messages.length)

/-- The expected message of the stream is delivered. -/
theorem Steady.advance
    {isEnd : Bool} (h : Steady messages c) (hlt : messages.length < 2 ^ 32)
    (hlast : ∀ i data, messages[i]? = some (data, true) → i + 1 = messages.length)
    (hdata : messages[c.nextExpected.toNat]? = some (data, isEnd)) :
  Steady messages (c.advance isEnd)
  := by
  obtain ⟨hsucc, hidx⟩ := toNat_succ_of_getElem? hlt hdata
  refine ⟨h.1, fun hended => ?_⟩
  rw [StreamCore.advance_nextExpected, hsucc]
  cases isEnd with
  | true => exact hlast _ _ hdata
  | false =>
    have := h.2 (by simpa [StreamCore.advance] using hended)
    omega

theorem Steady.arrival
    (h : Steady messages c) (hreceived : Received id messages v c) (hlt : messages.length < 2 ^ 32)
    (hlast : ∀ i data, messages[i]? = some (data, true) → i + 1 = messages.length)
    (hG : ∀ seq data isEnd, G seq data isEnd → messages[seq.toNat]? = some (data, isEnd))
    (ha : Arrival id G v v') (hc' : v'.stream id = some c') :
  Steady messages c'
  := by
  cases ha with
  | ignored =>
    cases hreceived.stream_eq.symm.trans hc'
    exact h
  | refused =>
    cases hreceived.stream_eq.symm.trans hc'
    exact h
  | early hc =>
    cases hreceived.stream_eq.symm.trans hc
    cases setStream_stream_self.symm.trans hc'
    exact h
  | expected hc hrel hpacket =>
    cases hreceived.stream_eq.symm.trans hc
    cases setStream_stream_self.symm.trans hc'
    have hseen : Steady messages c.seen := h
    exact hseen.advance hlt hlast (hG _ _ _ hpacket)
  | overtaken hc hrel =>
    cases hreceived.stream_eq.symm.trans hc
    cases hreceived.reliable.symm.trans hrel
  | datagram hc hrel =>
    cases hreceived.stream_eq.symm.trans hc
    cases hreceived.reliable.symm.trans hrel

theorem Steady.deliveries
    (h : Steady messages c) (hreceived : Received id messages v c) (hlt : messages.length < 2 ^ 32)
    (hlast : ∀ i data, messages[i]? = some (data, true) → i + 1 = messages.length)
    (hd : Relation.ReflTransGen (Deliver id) v v') :
  ∃ c', Received id messages v' c' ∧ Steady messages c'
  := by
  induction hd with
  | refl => exact ⟨c, hreceived, h⟩
  | tail _ hstep ih =>
    obtain ⟨c₁, hreceived₁, h₁⟩ := ih
    obtain ⟨⟨c₂, hreceived₂⟩, -⟩ := hreceived₁.deliver hlt hstep
    refine ⟨c₂, hreceived₂, ?_⟩
    cases hstep with
    | @mk c₀ m data i hc hi hid hseq =>
      cases hreceived₁.stream_eq.symm.trans hc
      cases setStream_stream_self.symm.trans hreceived₂.stream_eq
      have hdata := hreceived₁.genuine i m data hi hid
      rw [hseq] at hdata
      exact h₁.advance hlt hlast hdata

/-- When no message waits under the expected sequence number and all messages are held,
all have been delivered. -/
theorem Received.nextExpected_eq
    (h : Received id messages v c) (hdone : ¬ v.Awaits id)
    (hall : ∀ k : U32, k.toNat < messages.length → v.Holds id k) :
  c.nextExpected.toNat = messages.length
  := by
  by_contra hne
  have hle := h.next_le
  rcases hall c.nextExpected (by omega) with ⟨i, m, data, hi, hm, hseq⟩ | ⟨c', hc', hlt'⟩
  · apply hdone
    refine ⟨c, i, m, data, h.stream_eq, hi, hm, hseq, ?_⟩
    cases hdisp : m.disposition with
    | pending => rfl
    | delivered =>
      have := (h.delivered_iff i m data hi hm).mp hdisp
      bv_omega
  · cases h.stream_eq.symm.trans hc'
    exact absurd hlt' (BitVec.lt_irrefl _)

end RxView

namespace BoundedGtsSocket

variable {s s' : BoundedGtsSocket} {id : U8} {c : StreamCore} {messages : List (Bytes × Bool)}

/-- With enough rounds the delivery loop leaves no message waiting under the expected
sequence number. -/
theorem markContiguousDelivered_complete {n : ℕ} (h : s.stream id = some c)
    (hn : s.rxView.pending ≤ n) :
  ¬ (markContiguousDelivered id n s).2.rxView.Awaits id
  := by
  induction n generalizing s c with
  | zero =>
    rintro ⟨-, i, m, data, -, hi, -, -, hpending⟩
    have hpos := RxView.pending_pos ⟨m, data, hi, hpending⟩ (MessagePool.lt_capacity_of_get hi)
    exact absurd hn (Nat.not_le_of_lt hpos)
  | succ n ih =>
    obtain ⟨⟨idx, c'⟩, hfind, rfl⟩ := Option.map_eq_some_iff.mp h
    rw [markContiguousDelivered, hfind]
    dsimp only
    split
    · next hnone =>
      rintro ⟨c, i, m, data, hc, hi, hm, hseq, hpending⟩
      cases h.symm.trans hc
      have := MessagePool.find_eq_none.mp hnone i m (MessagePool.metadata_eq_some.mpr ⟨data, hi⟩)
      simp [isExpected, hm, hseq, hpending] at this
    · next i hi =>
      obtain ⟨m, hm, hexp⟩ := MessagePool.find_eq_some hi
      obtain ⟨data, hget⟩ := MessagePool.metadata_eq_some.mp hm
      have hpending : m.disposition = .pending := by
        simp only [isExpected, Bool.and_eq_true, decide_eq_true_eq] at hexp
        exact hexp.2
      obtain ⟨rx, hrx, hupd⟩ := MessagePool.setMetadata_of_get hget
        { m with disposition := .delivered, order := s.nextDeliveryOrder }
      have hview := @rxView_update s id idx c' (c'.advance m.isEnd) rx i _ hfind
        (findStream_eq_some hfind).2.1 hupd (nextOrder s.nextDeliveryOrder)
      rw [hm]
      dsimp only
      rw [hrx]
      dsimp only
      apply ih ((congrFun (congrArg RxView.stream hview) id).trans RxView.setStream_stream_self)
      have hwaits : s.rxView.IsPending i := ⟨m, data, hget, hpending⟩
      have hless := RxView.pending_deliver
        (x := some ({ m with disposition := .delivered, order := s.nextDeliveryOrder }, data))
        hwaits (MessagePool.lt_capacity_of_get hget) (by rintro _ _ ⟨⟩; rfl)
      apply Nat.le_of_succ_le_succ
      apply Nat.le_trans _ hn
      rw [show RxView.pending _ = RxView.pending _ from congrArg RxView.pending hview]
      exact hless

/-- The number of messages of the stream in the pool is less than the number of messages
when one of them is missing. -/
theorem rxCountFor_lt {k : ℕ} (h : RxView.Received id messages s.rxView c)
    (hk : k < messages.length)
    (hmissing : ∀ i m data, s.rxView.slots i = some (m, data) → m.streamId = id →
      m.sequence.toNat ≠ k) :
  s.rxCountFor id < messages.length
  := by
  have hentry : ∀ e ∈ s.rx.entries.filter (fun e => e.2.streamId = id),
      ∃ data, s.rxView.slots e.1 = some (e.2, data) ∧ e.2.streamId = id := by
    rintro ⟨i, m⟩ hmem
    obtain ⟨hmem, hm⟩ := List.mem_filter.mp hmem
    obtain ⟨data, hget⟩ := MessagePool.metadata_eq_some.mp (MessagePool.mem_entries.mp hmem)
    exact ⟨data, hget, of_decide_eq_true hm⟩
  have hnodup : ((s.rx.entries.filter (fun e => e.2.streamId = id)).map
      (fun e => e.2.sequence.toNat)).Nodup := by
    apply List.Nodup.map_on
    · rintro ⟨i, m⟩ hi ⟨j, m'⟩ hj heq
      obtain ⟨data, hi, hm⟩ := hentry _ hi
      obtain ⟨data', hj, hm'⟩ := hentry _ hj
      have hij := h.distinct i j m m' data data' hi hj hm hm' (BitVec.eq_of_toNat_eq heq)
      subst hij
      cases hi.symm.trans hj
      rfl
    · exact s.rx.nodup_entries.filter _
  have hsub : ((s.rx.entries.filter (fun e => e.2.streamId = id)).map
      (fun e => e.2.sequence.toNat)).toFinset ⊆ (Finset.range messages.length).erase k := by
    intro n hn
    obtain ⟨⟨i, m⟩, hmem, rfl⟩ := List.mem_map.mp (List.mem_toFinset.mp hn)
    obtain ⟨data, hi, hm⟩ := hentry _ hmem
    rw [Finset.mem_erase, Finset.mem_range]
    exact ⟨hmissing i m data hi hm, (List.getElem?_eq_some_iff.mp (h.genuine i m data hi hm)).1⟩
  have hcard := Finset.card_le_card hsub
  rw [List.toFinset_card_of_nodup hnodup, List.length_map, Finset.card_erase_of_mem
    (Finset.mem_range.mpr hk), Finset.card_range, ← List.countP_eq_length_filter] at hcard
  have hcount : s.rxCountFor id ≤ messages.length - 1 := hcard
  omega

/-- A packet with a new message for which there is room is accepted, and then no message
is left waiting under the expected sequence number. -/
theorem receive_of_hasRoom
    {seq : U32} {data : Bytes} {isEnd : Bool} (hc : s.stream id = some c)
    (hrel : c.profile.unreliable = false) (hstate : c.state = .open)
    (hended : c.remoteEnded = false) (hmay : remoteMaySend c = true)
    (hlen : validateSendLen c.profile data.length isEnd = .ok ())
    (hroom : HasRoom s c seq data) (hnew : ¬ s.rxView.Holds id seq) :
  ∃ a v, (s.receive id (some seq) data isEnd).1 = .ok a ∧
    RxView.Arrival id (fun seq' data' isEnd' => (seq', data', isEnd') = (seq, data, isEnd))
      s.rxView v ∧
    v.Stores id seq ∧
    Relation.ReflTransGen (RxView.Deliver id) v (s.receive id (some seq) data isEnd).2.rxView ∧
    ¬ (s.receive id (some seq) data isEnd).2.rxView.Awaits id
  := by
  obtain ⟨⟨idx, c'⟩, hfind, rfl⟩ := Option.map_eq_some_iff.mp hc
  dsimp only at hrel hstate hended hmay hlen hroom
  have heq : s.receive id (some seq) data isEnd = s.receiveReliable idx c' id seq data isEnd := by
    rw [receive, hfind]
    dsimp only
    rw [if_neg (by simp [hstate, hended]), if_neg (by simp [hmay]), hlen]
    dsimp only
    rw [if_neg (by simp [hrel])]
  rw [heq]
  obtain ⟨hknown, -⟩ | ⟨hfull, -⟩ | ⟨hstored, i, s', hi, hfree, heq', hview⟩ :=
    @receiveReliable_cases s id idx c' seq data isEnd hfind
  · rcases hknown with hlt | hstores
    · exact absurd (Or.inr ⟨c', hc, hlt⟩) hnew
    · exact absurd (Or.inl hstores) hnew
  · exact absurd hroom hfull
  · have harrival : RxView.Arrival id
          (fun seq' data' isEnd' => (seq', data', isEnd') = (seq, data, isEnd)) s.rxView s'.rxView ∧
        s'.rxView.Stores id seq ∧ ∃ c'', s'.rxView.stream id = some c'' := by
      rcases hview with ⟨hlt, hview⟩ | ⟨rfl, hview⟩
      · rw [hview]
        exact ⟨.early hc hrel rfl hlt hstored hi hfree,
          ⟨i, _, data, Function.update_self .., rfl, rfl⟩, _, RxView.setStream_stream_self⟩
      · rw [hview]
        exact ⟨.expected hc hrel rfl hstored hi hfree,
          ⟨i, _, data, Function.update_self .., rfl, rfl⟩, _, RxView.setStream_stream_self⟩
    obtain ⟨harrival, hstores, c'', hc''⟩ := harrival
    obtain ⟨a, ha⟩ := exists_deliverAndAck hc''
    rw [heq']
    refine ⟨a, s'.rxView, ha, harrival, hstores, (deliverAndAck_eq hc'').2, ?_⟩
    have hdone := markContiguousDelivered_complete hc'' s'.rxView.pending_le_capacity
    rw [deliverAndAck]
    have hok := (markContiguousDelivered_eq s'.rx.capacity hc'').1
    cases hmark : markContiguousDelivered id s'.rx.capacity s' with
    | mk result s'' =>
      rw [hmark] at hok
      dsimp only at hok
      subst hok
      rw [show s'.rxView.capacity = s'.rx.capacity from rfl, hmark] at hdone
      exact hdone

end BoundedGtsSocket

namespace BoundedReceiver

variable {s s' : BoundedReceiver} {id id' : U8} {messages : List (Bytes × Bool)}
  {arrived : List Packet}

/-- The packet that arrives on the stream `id`. -/
def packetOf (id : U8) : Action → Option Packet
  | .receive id' packet => if id' = id then some packet else none
  | _ => none

/-- The packets of the messages of a stream. -/
def packetsOf (messages : List (Bytes × Bool)) : List Packet :=
  messages.zipIdx.map (fun x => (some (BitVec.ofNat 32 x.2), x.1.1, x.1.2))

/-- The socket is ready for a packet of the stream `id`, which has `n` messages: the peer
may send such a message, the stream has room for `n` messages, and a free slot for this
one. -/
def Ready (id : U8) (n : ℕ) (s : BoundedReceiver) : Action → Prop
  | .receive id' (_, data, isEnd) => id' = id → ∃ c, s.socket.stream id = some c ∧
    BoundedGtsSocket.remoteMaySend c = true ∧
    BoundedGtsSocket.validateSendLen c.profile data.length isEnd = .ok () ∧
    n ≤ c.receiveCapacity.toNat ∧ data.length ≤ s.socket.rx.slotSize ∧ 0 < s.socket.rx.free
  | _ => True

/-- The stream is open, it holds the messages that have arrived, and no message is left
waiting under the expected sequence number. -/
structure Open (id : U8) (messages : List (Bytes × Bool)) (arrived : List Packet) (v : RxView) :
    Prop where
  steady : ∃ c, RxView.Received id messages v c ∧ RxView.Steady messages c
  holds_iff : ∀ k, v.Holds id k ↔ some k ∈ arrived.map Prod.fst
  done : ¬ v.Awaits id

/-- The packets that have arrived were accepted, and no others; the stream is open, or
there is no stream and nothing has arrived. -/
def Progress (id : U8) (messages : List (Bytes × Bool)) (arrived : List Packet)
    (s : BoundedReceiver) : Prop :=
  s.accepted id = arrived ∧
    ((RxView.Absent id s.socket.rxView ∧ arrived = []) ∨ Open id messages arrived s.socket.rxView)

theorem Open.sameFor {v v' : RxView} (h : Open id messages arrived v) (hsame : RxView.SameFor id v v') :
  Open id messages arrived v'
  := by
  obtain ⟨c, hreceived, hsteady⟩ := h.steady
  refine ⟨⟨c, hreceived.sameFor hsame, hsteady⟩, fun k => ?_, ?_⟩
  · rw [hsame.holds_iff, h.holds_iff]
  · rw [hsame.awaits_iff]
    exact h.done

theorem Progress.sameFor
    (h : Progress id messages arrived s)
    (hsame : RxView.SameFor id s.socket.rxView s'.socket.rxView)
    (haccepted : s'.accepted id = s.accepted id) :
  Progress id messages arrived s'
  := by
  refine ⟨haccepted.trans h.1, ?_⟩
  rcases h.2 with ⟨habsent, hnil⟩ | hopen
  · exact Or.inl ⟨habsent.sameFor hsame, hnil⟩
  · exact Or.inr (hopen.sameFor hsame)

theorem Progress.addStream
    {profile : StreamProfile} {openedByLocal : Bool} {receiveCapacity peerCredit : U8}
    (h : Progress id messages arrived s) (hrel : id' = id → profile.unreliable = false) :
  Progress id messages arrived (s.addStream id' profile openedByLocal receiveCapacity peerCredit)
  := by
  rw [BoundedReceiver.addStream]
  split
  · next socket heq =>
    obtain ⟨hnone, hview⟩ := rxView_addStream heq
    by_cases hid : id' = id
    · subst hid
      refine ⟨h.1, ?_⟩
      rcases h.2 with ⟨habsent, rfl⟩ | hopen
      · right
        dsimp only
        rw [hview]
        have hin := @inOrder_newStream id' messages 0 s.socket.rxView profile openedByLocal
          receiveCapacity peerCredit habsent (hrel rfl)
        refine ⟨⟨_, hin.toReceived, rfl, fun hsome => by cases hsome⟩, fun k => ?_, ?_⟩
        · simp only [List.map_nil, List.not_mem_nil, iff_false]
          rintro (⟨i, m, data, hi, hm, -⟩ | ⟨c, hc, hlt⟩)
          · exact habsent.2 i m data hi hm
          · cases hin.stream_eq.symm.trans hc
            exact absurd hlt (by simp [BoundedGtsSocket.newStream])
        · rintro ⟨c, i, m, data, -, hi, hm, -⟩
          exact habsent.2 i m data hi hm
      · obtain ⟨c, hreceived, -⟩ := hopen.steady
        cases hnone.symm.trans hreceived.stream_eq
    · refine h.sameFor ?_ rfl
      dsimp only
      rw [hview]
      exact (RxView.SameFor.refl id _).setStream hid _
  · exact h

theorem Progress.recvInto {out : Bytes} (h : Progress id messages arrived s) :
  Progress id messages arrived (s.recvInto id' out)
  := by
  obtain ⟨heq, -⟩ | ⟨i, m, data, hi, hm, hdel, -, hview, -, haccepted, -⟩ :=
    s.recvInto_cases id' out
  · rw [heq]
    exact h
  · by_cases hid : id' = id
    · subst hid
      refine ⟨(congrFun haccepted id').trans h.1, ?_⟩
      rw [hview]
      rcases h.2 with ⟨habsent, -⟩ | hopen
      · exact absurd hm (habsent.2 i m data hi)
      · right
        obtain ⟨c, hreceived, hsteady⟩ := hopen.steady
        refine ⟨⟨c, hreceived.remove i, hsteady⟩, fun k => ?_, fun hawaits => ?_⟩
        · rw [hreceived.holds_remove hi hdel, hopen.holds_iff]
        · exact hopen.done (RxView.awaits_of_remove hawaits)
    · refine h.sameFor ?_ (congrFun haccepted id)
      rw [hview]
      exact RxView.sameFor_remove hi (by rw [hm]; exact hid)

theorem accepted_receive_of_ne (s : BoundedReceiver) (packet : Packet) (hid : id' ≠ id) :
  (s.receive id' packet).accepted id = s.accepted id
  := by
  rw [BoundedReceiver.receive]
  split
  · exact Function.update_of_ne (Ne.symm hid) _ _
  · rfl

theorem accepted_receive {packet : Packet} {a : Option Ack}
    (h : (s.socket.receive id packet.1 packet.2.1 packet.2.2).1 = .ok a) :
  (s.receive id packet).accepted id = s.accepted id ++ [packet]
  := by
  rw [BoundedReceiver.receive]
  split
  · exact Function.update_self ..
  · next heq =>
    rw [heq] at h
    cases h

/-- A packet of another stream arrives. -/
theorem Progress.receive_of_ne
    {packet : Packet} (h : Progress id messages arrived s) (hid : id' ≠ id) :
  Progress id messages arrived (s.receive id' packet)
  := by
  obtain ⟨v, harrival, hsteps, -⟩ := @BoundedGtsSocket.receive_rxView s.socket id'
    (fun _ _ _ => True) packet.1 packet.2.1 packet.2.2 (fun _ _ => trivial)
  refine h.sameFor ?_ (accepted_receive_of_ne s packet hid)
  rw [socket_receive]
  exact (harrival.sameFor hid).trans (RxView.sameFor_of_deliveries hsteps hid)

/-- There is room for a message of at most 33 that has not arrived. -/
theorem hasRoom {c : StreamCore} {seq : U32} {data : Bytes} {isEnd : Bool}
    (hreceived : RxView.Received id messages s.socket.rxView c) (hn : messages.length ≤ 33)
    (hdata : messages[seq.toNat]? = some (data, isEnd)) (hnew : ¬ s.socket.rxView.Holds id seq)
    (hcapacity : messages.length ≤ c.receiveCapacity.toNat)
    (hfits : data.length ≤ s.socket.rx.slotSize) (hfree : 0 < s.socket.rx.free) :
  BoundedGtsSocket.HasRoom s.socket c seq data
  := by
  have hidx := (List.getElem?_eq_some_iff.mp hdata).1
  have hge : ¬ seq < c.nextExpected := fun hlt => hnew (Or.inr ⟨c, hreceived.stream_eq, hlt⟩)
  refine ⟨by bv_omega, ?_, hfits, hfree⟩
  obtain ⟨⟨idx, c'⟩, hfind, rfl⟩ := Option.map_eq_some_iff.mp hreceived.stream_eq
  rw [(BoundedGtsSocket.findStream_eq_some hfind).2.1]
  apply Nat.lt_of_lt_of_le _ hcapacity
  apply BoundedGtsSocket.rxCountFor_lt hreceived hidx
  intro i m data' hi hm heq
  exact hnew (Or.inl ⟨i, m, data', hi, hm, BitVec.eq_of_toNat_eq heq⟩)

/-- A packet of the stream arrives. -/
theorem Progress.receive
    {seq : U32} {data : Bytes} {isEnd : Bool} (h : Progress id messages arrived s)
    (hn : messages.length ≤ 33)
    (hlast : ∀ i data, messages[i]? = some (data, true) → i + 1 = messages.length)
    (hdata : messages[seq.toNat]? = some (data, isEnd))
    (hnew : some seq ∉ arrived.map Prod.fst)
    (hready : Ready id messages.length s (.receive id (some seq, data, isEnd))) :
  Progress id messages (arrived ++ [(some seq, data, isEnd)])
    (s.receive id (some seq, data, isEnd))
  := by
  obtain ⟨c, hc, hmay, hlen, hcapacity, hfits, hfree⟩ := hready rfl
  have hlt : messages.length < 2 ^ 32 := by omega
  rcases h.2 with ⟨habsent, -⟩ | hopen
  · cases habsent.1.symm.trans hc
  · obtain ⟨c', hreceived, hsteady⟩ := hopen.steady
    obtain rfl : c = c' := Option.some.inj (hc.symm.trans hreceived.stream_eq)
    rw [← hopen.holds_iff] at hnew
    have hended : c.remoteEnded = false := by
      by_contra hended
      have hall := hsteady.2 (by simpa using hended)
      have hidx := (List.getElem?_eq_some_iff.mp hdata).1
      exact hnew (Or.inr ⟨c, hc, by bv_omega⟩)
    obtain ⟨a, v, hok, harrival, hstores, hsteps, hdone⟩ := BoundedGtsSocket.receive_of_hasRoom hc
      hreceived.reliable hsteady.1 hended hmay hlen
      (hasRoom hreceived hn hdata hnew hcapacity hfits hfree) hnew
    have hG : ∀ seq' data' isEnd', (seq', data', isEnd') = (seq, data, isEnd) →
        messages[seq'.toNat]? = some (data', isEnd') := by
      rintro _ _ _ ⟨⟩
      exact hdata
    obtain ⟨⟨c₁, hreceived₁⟩, hmono, honly⟩ := hreceived.arrival hlt hG harrival
    have hsteady₁ := hsteady.arrival hreceived hlt hlast hG harrival hreceived₁.stream_eq
    obtain ⟨-, hholds⟩ := hreceived₁.deliveries hlt hsteps
    refine ⟨?_, Or.inr ?_⟩
    · have haccepted : (s.receive id (some seq, data, isEnd)).accepted id
          = s.accepted id ++ [(some seq, data, isEnd)] := accepted_receive hok
      rw [haccepted, h.1]
    · rw [socket_receive]
      refine ⟨hsteady₁.deliveries hreceived₁ hlt hlast hsteps, fun k => ?_, hdone⟩
      rw [hholds, List.map_append, List.mem_append, ← hopen.holds_iff]
      simp only [List.map_cons, List.map_nil, List.mem_singleton, Option.some.injEq]
      constructor
      · intro hk
        rcases honly k hk with hk | ⟨_, _, heq⟩
        · exact Or.inl hk
        · exact Or.inr (congrArg Prod.fst heq)
      · rintro (hk | rfl)
        · exact hmono k hk
        · exact Or.inl hstores

/-- Each of the packets of the stream arrives for the first time, and the socket is ready
for it. -/
theorem Progress.run
    {as : List Action} (h : Progress id messages arrived s) (hn : messages.length ≤ 33)
    (hlast : ∀ i data, messages[i]? = some (data, true) → i + 1 = messages.length)
    (hgenuine : ∀ a ∈ as, Genuine id messages a)
    (hseq : ∀ packet ∈ as.filterMap (packetOf id), ∃ seq, packet.1 = some seq)
    (hnodup : ((arrived ++ as.filterMap (packetOf id)).map Prod.fst).Nodup)
    (hready : Machine.Along step (Ready id messages.length) s as) :
  Progress id messages (arrived ++ as.filterMap (packetOf id)) (Machine.run step s as)
  := by
  induction as generalizing s arrived with
  | nil =>
    rw [List.filterMap_nil, List.append_nil]
    exact h
  | cons a as ih =>
    have hgenuine' := fun a' ha' => hgenuine a' (List.mem_cons_of_mem a ha')
    cases a with
    | addStream id' profile openedByLocal receiveCapacity peerCredit =>
      exact ih (h.addStream (hgenuine _ List.mem_cons_self)) hgenuine' hseq hnodup hready.2
    | recvInto id' out => exact ih h.recvInto hgenuine' hseq hnodup hready.2
    | receive id' packet =>
      by_cases hid : id' = id
      · subst hid
        rw [List.filterMap_cons_some (by rw [packetOf, if_pos rfl])] at hseq hnodup ⊢
        obtain ⟨sequence, data, isEnd⟩ := packet
        obtain ⟨seq, hsequence⟩ := hseq _ List.mem_cons_self
        dsimp only at hsequence
        subst hsequence
        rw [List.append_cons] at hnodup ⊢
        apply ih _ hgenuine' (fun p hp => hseq p (List.mem_cons_of_mem _ hp)) hnodup hready.2
        refine h.receive hn hlast (hgenuine _ List.mem_cons_self rfl) ?_ hready.1
        rw [List.map_append, List.map_append] at hnodup
        have hnodup' := (List.nodup_append.mp hnodup).1
        intro hmem
        exact (List.nodup_append.mp hnodup').2.2 _ hmem _ (List.mem_singleton_self _) rfl
      · rw [List.filterMap_cons_none (by rw [packetOf, if_neg hid])] at hseq hnodup ⊢
        exact ih (h.receive_of_ne hid) hgenuine' hseq hnodup hready.2

/-! ### Taking all messages -/

/-- All messages of the stream have been delivered, if it has any. -/
def AllDelivered (id : U8) (messages : List (Bytes × Bool)) (s : BoundedReceiver) : Prop :=
  messages = [] ∨ ∃ c, s.socket.stream id = some c ∧ c.nextExpected.toNat = messages.length

theorem AllDelivered.recvInto {out : Bytes} (h : AllDelivered id messages s) :
  AllDelivered id messages (s.recvInto id out)
  := by
  obtain ⟨heq, -⟩ | ⟨i, m, data, -, -, -, -, hview, -⟩ := s.recvInto_cases id out
  · rw [heq]
    exact h
  · rcases h with hnil | ⟨c, hc, hnext⟩
    · exact Or.inl hnil
    · exact Or.inr ⟨c, (congrFun (congrArg RxView.stream hview) id).trans hc, hnext⟩

/-- With enough room the next message is taken, until all are. -/
theorem length_taken_recvInto
    {out : Bytes} (h : Inv id messages s) (hall : AllDelivered id messages s)
    (hout : ∀ x ∈ messages, x.1.length ≤ out.length)
    (hlt : (s.taken id).length < messages.length) :
  (s.taken id).length + 1 ≤ ((s.recvInto id out).taken id).length
  := by
  obtain ⟨c, hc, hnext⟩ := hall.resolve_left (List.ne_nil_of_length_pos (Nat.zero_lt_of_lt hlt))
  obtain ⟨t, -, ⟨habsent, -⟩ | ⟨-, c', hin⟩⟩ := h
  · cases habsent.1.symm.trans hc
  · obtain rfl : c = c' := Option.some.inj (hc.symm.trans hin.stream_eq)
    obtain ⟨-, hnone⟩ | ⟨i, m, data, -, -, -, -, -, -, -, htaken⟩ := s.recvInto_cases id out
    · have hnat : (BitVec.ofNat 32 (s.taken id).length).toNat = (s.taken id).length := by
        rw [BitVec.toNat_ofNat, Nat.mod_eq_of_lt]
        have := c.nextExpected.isLt
        omega
      have hexp : BitVec.ofNat 32 (s.taken id).length < c.nextExpected := by
        rw [BitVec.lt_def, hnat, hnext]
        exact hlt
      obtain ⟨j, m, data, hj, hm, hseq⟩ := hin.waiting _ (by rw [hnat]) hexp
      have hdel := (hin.delivered_iff j m data hj hm).mpr (by rw [hseq]; exact hexp)
      refine absurd ⟨⟨data, hj⟩, hm, hdel⟩ (hnone c hc ?_ j m)
      intro i m data hi hm
      exact hout _ (List.mem_of_getElem? (hin.genuine i m data hi hm))
    · rw [htaken, Function.update_self, List.length_append, List.length_singleton]

/-- As many calls as there are messages left take all messages. -/
theorem taken_all
    {outs : List Bytes} (h : Inv id messages s) (hall : AllDelivered id messages s)
    (hout : ∀ out ∈ outs, ∀ x ∈ messages, x.1.length ≤ out.length)
    (hle : messages.length ≤ (s.taken id).length + outs.length) :
  (Machine.run step s (outs.map (.recvInto id))).taken id = messages.map received
  := by
  induction outs generalizing s with
  | nil =>
    apply h.taken_in_order.eq_of_length_le
    rw [List.length_map]
    exact hle
  | cons out outs ih =>
    rw [List.map_cons, Machine.run_cons]
    have hmono : (s.taken id).length ≤ ((s.recvInto id out).taken id).length := by
      obtain ⟨heq, -⟩ | ⟨i, m, data, -, -, -, -, -, -, -, htaken⟩ := s.recvInto_cases id out
      · rw [heq]
      · rw [htaken, Function.update_self, List.length_append]
        exact Nat.le_add_right _ _
    apply ih h.recvInto hall.recvInto (fun o ho => hout o (List.mem_cons_of_mem out ho))
    rw [List.length_cons] at hle
    by_cases hlt : (s.taken id).length < messages.length
    · have := length_taken_recvInto h hall (hout out List.mem_cons_self) hlt
      omega
    · omega

theorem mem_packetsOf {packet : Packet} :
  packet ∈ packetsOf messages ↔
    ∃ i, messages[i]? = some packet.2 ∧ packet.1 = some (BitVec.ofNat 32 i)
  := by
  obtain ⟨sequence, data, isEnd⟩ := packet
  rw [packetsOf, List.mem_map]
  constructor
  · rintro ⟨⟨x, i⟩, hmem, heq⟩
    cases heq
    exact ⟨i, List.mem_zipIdx_iff_getElem?.mp hmem, rfl⟩
  · rintro ⟨i, hi, rfl⟩
    exact ⟨((data, isEnd), i), List.mem_zipIdx_iff_getElem?.mpr hi, rfl⟩

/-- The packets of the messages have different sequence numbers. -/
theorem nodup_packetsOf (hlt : messages.length < 2 ^ 32) :
  ((packetsOf messages).map Prod.fst).Nodup
  := by
  have heq : (packetsOf messages).map Prod.fst
      = (List.range messages.length).map (fun i => some (BitVec.ofNat 32 i)) := by
    rw [List.range_eq_range', ← List.zipIdx_map_snd 0 messages, List.map_map, packetsOf,
      List.map_map]
    rfl
  rw [heq]
  apply List.Nodup.map_on _ List.nodup_range
  intro i hi j hj hij
  rw [List.mem_range] at hi hj
  have := congrArg BitVec.toNat (Option.some.inj hij)
  rw [BitVec.toNat_ofNat, BitVec.toNat_ofNat] at this
  omega

/-- The messages taken from a reliable stream are a prefix of its messages, in order, each
once, with their lengths, bytes and end marks.  When each of at most 33 messages arrives
once and the socket is ready for each, all are accepted, and all can be taken. -/
theorem delivered_in_order
    {socket : BoundedGtsSocket} (hfresh : socket.Fresh) (hlt : messages.length < 2 ^ 32)
    (as : List Action) (hgenuine : ∀ a ∈ as, Genuine id messages a)
    (hpackets : (Machine.run step (init socket) as).packets < 2 ^ 64) :
  (Machine.run step (init socket) as).taken id <+: messages.map received ∧
  (messages.length ≤ 33 →
    (∀ i data, messages[i]? = some (data, true) → i + 1 = messages.length) →
    (as.filterMap (packetOf id)).Perm (packetsOf messages) →
    Machine.Along step (Ready id messages.length) (init socket) as →
    (Machine.run step (init socket) as).accepted id = as.filterMap (packetOf id) ∧
    ∀ outs : List Bytes, messages.length ≤ outs.length →
      (∀ out ∈ outs, ∀ x ∈ messages, x.1.length ≤ out.length) →
      (Machine.run step (init socket) (as ++ outs.map (.recvInto id))).taken id
        = messages.map received)
  := by
  have hinv := inv_run hfresh hlt hgenuine hpackets
  refine ⟨hinv.taken_in_order, fun hn hlast hperm hready => ?_⟩
  have hinit : Progress id messages [] (init socket) := by
    refine ⟨rfl, Or.inl ⟨⟨hfresh.stream_eq id, ?_⟩, rfl⟩⟩
    intro i m data hi
    cases (hfresh.rx_eq i).symm.trans hi
  have hseq : ∀ packet ∈ as.filterMap (packetOf id), ∃ seq, packet.1 = some seq := by
    intro packet hpacket
    obtain ⟨i, -, hi⟩ := mem_packetsOf.mp (hperm.mem_iff.mp hpacket)
    exact ⟨_, hi⟩
  have hnodup : (([] ++ as.filterMap (packetOf id)).map Prod.fst).Nodup :=
    ((hperm.map Prod.fst).nodup_iff).mpr (nodup_packetsOf hlt)
  obtain ⟨haccepted, hopen⟩ := hinit.run hn hlast hgenuine hseq hnodup hready
  rw [List.nil_append] at haccepted hopen
  refine ⟨haccepted, fun outs hle hout => ?_⟩
  rw [Machine.run_append]
  apply taken_all hinv _ hout (hle.trans (Nat.le_add_left _ _))
  rcases hopen with ⟨-, hnil⟩ | hopen
  · left
    rw [hnil] at hperm
    have hlength := hperm.length_eq
    rw [packetsOf, List.length_map, List.length_zipIdx] at hlength
    exact List.eq_nil_of_length_eq_zero hlength.symm
  · right
    obtain ⟨c, hreceived, -⟩ := hopen.steady
    refine ⟨c, hreceived.stream_eq, hreceived.nextExpected_eq hopen.done fun k hk => ?_⟩
    rw [hopen.holds_iff, (hperm.map Prod.fst).mem_iff, List.mem_map]
    refine ⟨(some k, messages[k.toNat]), mem_packetsOf.mpr ⟨k.toNat, ?_, ?_⟩, rfl⟩
    · exact List.getElem?_eq_getElem hk
    · rw [BitVec.ofNat_toNat, BitVec.setWidth_eq]

/-- A socket with room for two streams, and for two messages of one byte. -/
def smallSocket : Except Error BoundedGtsSocket :=
  BoundedGtsSocket.new .responder 1#32 2#32 .ones [none, none] [.empty]
    [0#8] [.empty, .empty] [0#8, 0#8]

/-- Two messages arrive in the wrong order and are taken in the right one. -/
theorem delivered_in_order_swapped :
  let profile : StreamProfile := ⟨false, true, false, false, .openerToPeer, .msg128⟩
  let messages : List (Bytes × Bool) := [([10#8], false), ([11#8], true)]
  let as : List Action :=
    [.addStream 0#8 profile false 2#8 0#8, .receive 0#8 (some 1#32, [11#8], true),
      .receive 0#8 (some 0#32, [10#8], false)]
  ∃ socket, smallSocket = .ok socket ∧
    (∀ a ∈ as, Genuine 0#8 messages a) ∧
    (as.filterMap (packetOf 0#8)).Perm (packetsOf messages) ∧
    Machine.Along step (Ready 0#8 2) (init socket) as ∧
    (Machine.run step (init socket) as).taken 0#8 <+: messages.map received ∧
    (Machine.run step (init socket) as).accepted 0#8 = as.filterMap (packetOf 0#8) ∧
    (Machine.run step (init socket) (as ++ [[0#8], [0#8]].map (.recvInto 0#8))).taken 0#8
      = messages.map received
  := by
  intro profile messages as
  obtain ⟨socket, hsocket⟩ : ∃ socket, smallSocket = .ok socket := ⟨_, rfl⟩
  have hgenuine : ∀ a ∈ as, Genuine 0#8 messages a := by
    simp [as, Genuine, messages, profile]
  have hperm : (as.filterMap (packetOf 0#8)).Perm (packetsOf messages) := by decide
  have hrun : (Machine.run step (init socket) as).packets < 2 ^ 64 ∧
      Machine.Along step (Ready 0#8 2) (init socket) as := by
    cases hsocket
    refine ⟨by decide, trivial, fun _ => ?_, fun _ => ?_, trivial⟩
    · refine ⟨BoundedGtsSocket.newStream 0#8 profile false 2#8 0#8, ?_⟩
      decide
    · refine ⟨(BoundedGtsSocket.newStream 0#8 profile false 2#8 0#8).seen, ?_⟩
      decide
  obtain ⟨hpackets, hready⟩ := hrun
  obtain ⟨hpre, hall⟩ := delivered_in_order (BoundedGtsSocket.fresh_of_new hsocket)
    (by decide) as hgenuine hpackets
  have hlast : ∀ i data, messages[i]? = some (data, true) → i + 1 = messages.length := by
    intro i data hi
    match i with
    | 0 => cases hi
    | 1 => rfl
    | n + 2 => cases hi
  obtain ⟨haccepted, htaken⟩ := hall (by decide) hlast hperm hready
  exact ⟨socket, hsocket, hgenuine, hperm, hready, hpre, haccepted,
    htaken [[0#8], [0#8]] (by decide) (by decide)⟩

/-! ### The counter starts again -/

theorem nextOrder_iterate {n : ℕ} (hn : n + 1 < 2 ^ 64) :
  BoundedGtsSocket.nextOrder^[n] 1#64 = BitVec.ofNat 64 (n + 1)
  := by
  induction n with
  | zero => rfl
  | succ n ih =>
    rw [Function.iterate_succ_apply', ih (by omega)]
    apply BitVec.eq_of_toNat_eq
    rw [BoundedGtsSocket.toNat_nextOrder rfl]
    · rw [BitVec.toNat_ofNat, BitVec.toNat_ofNat]
      omega
    · rw [BitVec.toNat_ofNat]
      omega

/-- The socket with another delivery counter. -/
def withOrder (s : BoundedReceiver) (order : U64) (packets : ℕ) : BoundedReceiver :=
  { s with socket := { s.socket with nextDeliveryOrder := order }, packets }

/-- A packet that is refused although it was the expected one advances the delivery
counter each time it arrives. -/
theorem run_refused {packet : Packet} (n : ℕ) (order : U64) (packets : ℕ)
    (h : ∀ order packets, (s.withOrder order packets).step (.receive id packet)
      = s.withOrder (BoundedGtsSocket.nextOrder order) (packets + 1)) :
  Machine.run step (s.withOrder order packets) (List.replicate n (.receive id packet))
    = s.withOrder (BoundedGtsSocket.nextOrder^[n] order) (packets + n)
  := by
  induction n generalizing order packets with
  | zero => rfl
  | succ n ih =>
    rw [List.replicate_succ, Machine.run_cons, h, ih, Function.iterate_succ_apply,
      Nat.add_right_comm, Nat.add_assoc]

/-- After 2⁶⁴ - 2 packets on another stream, the first message of a stream is given the
greatest delivery number and the second one the least, and the second is taken first. -/
theorem swapped_by_wrapped_counter :
  let profile : StreamProfile := ⟨false, true, false, false, .openerToPeer, .msg128⟩
  let messages : List (Bytes × Bool) := [([10#8], false), ([11#8], false)]
  let as : List Action :=
    [.addStream 0#8 profile false 2#8 0#8, .addStream 2#8 profile false 2#8 0#8]
      ++ List.replicate (2 ^ 64 - 2) (.receive 2#8 (some 0#32, [0#8, 0#8], false))
      ++ [.receive 0#8 (some 0#32, [10#8], false), .receive 0#8 (some 1#32, [11#8], false),
        .recvInto 0#8 [0#8]]
  ∃ socket, smallSocket = .ok socket ∧ (∀ a ∈ as, Genuine 0#8 messages a) ∧
    ¬ (Machine.run step (init socket) as).taken 0#8 <+: messages.map received
  := by
  intro profile messages as
  obtain ⟨socket, hsocket⟩ : ∃ socket, smallSocket = .ok socket := ⟨_, rfl⟩
  refine ⟨socket, hsocket, ?_, ?_⟩
  · intro a ha
    rcases List.mem_append.mp ha with ha | ha
    · rcases List.mem_append.mp ha with ha | ha
      · simp only [List.mem_cons, List.not_mem_nil, or_false] at ha
        rcases ha with rfl | rfl
        · exact fun _ => rfl
        · exact fun _ => rfl
      · rw [List.eq_of_mem_replicate ha]
        intro h
        cases h
    · simp only [List.mem_cons, List.not_mem_nil, or_false] at ha
      rcases ha with rfl | rfl | rfl
      · exact fun _ => rfl
      · exact fun _ => rfl
      · trivial
  · have hadded : Machine.run step (init socket) [.addStream 0#8 profile false 2#8 0#8,
          .addStream 2#8 profile false 2#8 0#8]
        = (Machine.run step (init socket) [.addStream 0#8 profile false 2#8 0#8,
          .addStream 2#8 profile false 2#8 0#8]).withOrder 1#64 0 := by
      cases hsocket
      rfl
    rw [Machine.run_append, Machine.run_append, hadded, run_refused, nextOrder_iterate]
    · cases hsocket
      decide
    · decide
    · intro order packets
      cases hsocket
      with_unfolding_all rfl

end BoundedReceiver

end SmolGnet
