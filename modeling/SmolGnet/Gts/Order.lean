import SmolGnet.Gts.Link
import SmolGnet.Gts.Stream
import Mathlib.Data.List.Perm.Basic

/-!
# Arrival in any order

The messages of a reliable stream are sent one after the other, the last one with the end
mark, and their packets arrive in some order.  The receiver puts up to 33 messages back
into order, but it takes the end mark for the end of what arrives: a packet that comes
after the one with the end mark is rejected, although its message was sent before.  So
the messages are returned in the order of sending exactly when the packet with the end
mark arrives last.
-/

namespace SmolGnet

namespace GtsStream

/-! ### Whole streams -/

/-- Send the messages one after the other, the last one with the end mark.  Each packet
goes with the size class it travels in. -/
def sendAll (tunnelId : U32) :
    GtsStream → List (Bytes × U64) → Except Error (List (SizeClass × GtsPacket) × GtsStream)
  | s, [] => .ok ([], s)
  | s, (data, now) :: rest => do
    let (packet, s') ← s.sendPacket tunnelId data rest.isEmpty now
    let sizeClass ← packet.chooseSizeClass (some s.profile)
    let (packets, s'') ← sendAll tunnelId s' rest
    .ok ((sizeClass, packet) :: packets, s'')

/-- The packets arrive one after the other; the first that is not accepted ends it. -/
def arriveAll : GtsStream → List (SizeClass × GtsPacket) → Except Error GtsStream
  | s, [] => .ok s
  | s, (sizeClass, packet) :: rest => do
    s.validateIncoming sizeClass packet
    let (_, s') ← s.receivePacket packet
    arriveAll s' rest

/-- The results of `n` calls of `recv`. -/
def recvAll : ℕ → GtsStream → List (Option Bytes)
  | 0, _ => []
  | n + 1, s => s.recv.1 :: recvAll n s.recv.2

/-- The packet is that of the message with the index `i`, and the stream `b` accepts its
length. -/
def Genuine (b : GtsStream) (tunnelId : U32) (messages : List Bytes) (i : ℕ)
    (p : SizeClass × GtsPacket) : Prop :=
  ∃ data, messages[i]? = some data ∧
    p.2 = .data tunnelId b.id (BitVec.ofNat 32 i) data (decide (i + 1 = messages.length)) ∧
    b.validateDataLen p.1 data (decide (i + 1 = messages.length)) = .ok ()

/-! ### The sender -/

/-- The packets of the messages carry them in order, numbered from `k` on. -/
theorem sendAll_eq_ok
    {b : GtsStream} {tunnelId : U32} {messages : List (Bytes × U64)} {s s' : GtsStream}
    {tx : ReliableTx} {packets : List (SizeClass × GtsPacket)}
    (hrel : s.profile.unreliable = false) (hb : b.profile = s.profile)
    (htx : s.reliableTx = some tx) (h : sendAll tunnelId s messages = .ok (packets, s')) :
  packets.length = messages.length ∧
    ∀ i p, packets[i]? = some p → ∃ m, messages[i]? = some m ∧
      p.2 = .data tunnelId s.id (tx.nextSequence + BitVec.ofNat 32 i) m.1
        (decide (i + 1 = messages.length)) ∧
      b.validateDataLen p.1 m.1 (decide (i + 1 = messages.length)) = .ok ()
  := by
  induction messages generalizing s tx packets with
  | nil =>
    cases h
    simp
  | cons m rest ih =>
    obtain ⟨data, now⟩ := m
    rw [sendAll, bind_eq_ok] at h
    obtain ⟨⟨packet, s₁⟩, hsend, h⟩ := h
    obtain ⟨-, -, -, hlen, tx₀, seq, tx₁, htx₀, hqueue, rfl, rfl⟩ := sendPacket_eq_ok hrel hsend
    obtain ⟨c, hc, hvalid⟩ := chooseSizeClass_of_validateSendLen hrel hb hlen tunnelId s.id seq
    obtain rfl : tx₀ = tx := Option.some.inj (htx₀.symm.trans htx)
    obtain ⟨-, rfl, rfl⟩ := ReliableTx.queue_eq_ok hqueue
    dsimp only at h
    rw [hc, bind_eq_ok] at h
    obtain ⟨_, hc', h⟩ := h
    cases hc'
    rw [bind_eq_ok] at h
    obtain ⟨⟨packets', s₂⟩, hrest, h⟩ := h
    cases h
    obtain ⟨hlength, hpackets⟩ := ih (by exact hrel) (by exact hb) rfl hrest
    have hend : decide (0 + 1 = rest.length + 1) = rest.isEmpty := by
      cases rest <;> simp
    constructor
    · rw [List.length_cons, List.length_cons, hlength]
    · intro i p hp
      cases i with
      | zero =>
        cases hp
        use (data, now), rfl
        rw [List.length_cons, hend, BitVec.add_zero]
        use rfl, hvalid
      | succ i =>
        obtain ⟨m, hm, hpm, hpv⟩ := hpackets i p hp
        have hseq : tx₀.nextSequence + BitVec.ofNat 32 (i + 1)
            = tx₀.nextSequence + 1#32 + BitVec.ofNat 32 i := by
          rw [BitVec.add_assoc, BitVec.ofNat_add_ofNat, Nat.add_comm 1]
        have hlast : (i + 1 + 1 = rest.length + 1) = (i + 1 = rest.length) := by
          rw [Nat.add_right_cancel_iff]
        use m, hm
        simp only [List.length_cons, hseq, hlast]
        use hpm, hpv

/-- A side that has sent a message may send. -/
theorem localMaySend_of_sendAll
    {tunnelId : U32} {messages : List (Bytes × U64)} {s s' : GtsStream}
    {packets : List (SizeClass × GtsPacket)} (hrel : s.profile.unreliable = false)
    (hne : messages ≠ []) (h : sendAll tunnelId s messages = .ok (packets, s')) :
  s.localMaySend s.openedByLocal = true
  := by
  cases messages with
  | nil => contradiction
  | cons m rest =>
    rw [sendAll, bind_eq_ok] at h
    obtain ⟨⟨packet, s₁⟩, hsend, -⟩ := h
    exact (sendPacket_eq_ok hrel hsend).2.2.1

/-! ### The receiver -/

/-- The stream `b` has received some of the messages, none of which has been returned. -/
structure Arriving (b : GtsStream) (messages : List Bytes) (s : GtsStream)
    (rx : ReliableRx) : Prop where
  id_eq : s.id = b.id
  profile_eq : s.profile = b.profile
  opened_eq : s.openedByLocal = b.openedByLocal
  open_state : s.state = .open
  rx_eq : s.reliableRx = some rx
  inv : ReliableLink.RxInv messages [] rx
  windowed : rx.Windowed
  room : messages.length ≤ rx.capacity

variable {b s : GtsStream} {messages : List Bytes} {rx : ReliableRx} {tunnelId : U32}

/-- A packet is that of one message only. -/
theorem Genuine.seq_eq {i j : ℕ} {p : SizeClass × GtsPacket}
    (hi : b.Genuine tunnelId messages i p) (hj : b.Genuine tunnelId messages j p) :
  BitVec.ofNat 32 i = BitVec.ofNat 32 j
  := by
  obtain ⟨_, -, hpi, -⟩ := hi
  obtain ⟨_, -, hpj, -⟩ := hj
  rw [hpi] at hpj
  injection hpj

/-- With at most 33 messages and room for all of them, every packet is accepted as long as
the end has not arrived. -/
theorem Arriving.arrive
    (h : Arriving b messages s rx) (hrel : b.profile.unreliable = false)
    (hmay : b.remoteMaySend b.openedByLocal = true) (hended : s.remoteEnded = false)
    (hlen : messages.length ≤ 33) {i : ℕ} {p : SizeClass × GtsPacket}
    (hp : b.Genuine tunnelId messages i p) :
  ∃ ack s' rx', s.validateIncoming p.1 p.2 = .ok () ∧ s.receivePacket p.2 = .ok (ack, s') ∧
    Arriving b messages s' rx' ∧ s'.remoteEnded = decide (i + 1 = messages.length) ∧
    (∀ k, rx.Holds k → rx'.Holds k) ∧ rx'.Holds (BitVec.ofNat 32 i)
  := by
  obtain ⟨sizeClass, packet⟩ := p
  obtain ⟨data, hdata, rfl, hvalid⟩ := hp
  obtain ⟨hidx, -⟩ := List.getElem?_eq_some_iff.mp hdata
  have hseq : (BitVec.ofNat 32 i).toNat = i := by
    rw [BitVec.toNat_ofNat, Nat.mod_eq_of_lt (by omega)]
  have hrel' : s.profile.unreliable = false := by rw [h.profile_eq, hrel]
  have hmay' : s.remoteMaySend s.openedByLocal = true := by
    rw [remoteMaySend, h.profile_eq, h.opened_eq]
    exact hmay
  have hsize := h.inv.pending_size_le h.windowed
  have hdel := congrArg List.length h.inv.delivered_eq
  have hnext := h.inv.next_le
  have hroom := h.room
  rw [List.nil_append, List.length_take] at hdel
  have hok : ∃ b rx', rx.receive (BitVec.ofNat 32 i) data = .ok (b, rx') := by
    rw [ReliableRx.receive]
    split
    · exact ⟨_, _, rfl⟩
    · next hge =>
      have hused : rx.used < rx.capacity := by
        rw [ReliableRx.used]
        bv_omega
      split
      · rw [if_neg (by omega)]
        exact ⟨_, _, rfl⟩
      · next hne =>
        dsimp only
        rw [if_neg (by bv_omega)]
        exact ⟨_, _, rfl⟩
  obtain ⟨bb, rx', hreceive⟩ := hok
  obtain ⟨hinv, -, hmono, hheld⟩ := h.inv.receive (by omega) h.windowed (by rwa [hseq]) hreceive
  have hpacket := receivePacket_data h.open_state hrel' hmay' hended h.rx_eq hreceive tunnelId
    (decide (i + 1 = messages.length))
  rw [← h.id_eq]
  refine ⟨_, _, rx', ?_, hpacket, ?_, rfl, hmono, hheld⟩
  · rw [validateIncoming_data h.open_state hrel' hmay', if_neg (by simp [hended])]
    rw [← hvalid, validateDataLen, validateDataLen, fixedReliableEndCapacity,
      fixedReliableEndCapacity, fixedReliableDataLen, fixedReliableDataLen, h.profile_eq]
  · use h.id_eq, h.profile_eq, h.opened_eq, h.open_state, rfl, hinv,
      ReliableRx.receive_windowed h.windowed hreceive
    rw [(ReliableRx.receive_capacity hreceive).1]
    exact h.room

/-- All packets are accepted when none but the last has the end mark, and then the
receiver holds their messages. -/
theorem Arriving.arriveAll
    (h : Arriving b messages s rx) (hrel : b.profile.unreliable = false)
    (hmay : b.remoteMaySend b.openedByLocal = true) (hended : s.remoteEnded = false)
    (hlen : messages.length ≤ 33) {arrivals : List (SizeClass × GtsPacket)}
    (hgen : ∀ p ∈ arrivals, ∃ i, b.Genuine tunnelId messages i p)
    (hlast : ∀ p ∈ arrivals.dropLast, ¬ b.Genuine tunnelId messages (messages.length - 1) p) :
  ∃ s' rx', s.arriveAll arrivals = .ok s' ∧ Arriving b messages s' rx' ∧
    (∀ k, rx.Holds k → rx'.Holds k) ∧
    ∀ i, (∃ p ∈ arrivals, b.Genuine tunnelId messages i p) → rx'.Holds (BitVec.ofNat 32 i)
  := by
  induction arrivals generalizing s rx with
  | nil => exact ⟨s, rx, rfl, h, fun _ hk => hk, by simp⟩
  | cons p rest ih =>
    obtain ⟨i, hi⟩ := hgen p List.mem_cons_self
    obtain ⟨ack, s₁, rx₁, hvalid, hreceive, h₁, hended₁, hmono₁, hheld₁⟩ :=
      h.arrive hrel hmay hended hlen hi
    have hstep : s.arriveAll (p :: rest) = s₁.arriveAll rest := by
      rw [GtsStream.arriveAll, hvalid, hreceive]
      rfl
    have hheld : ∀ j, b.Genuine tunnelId messages j p → rx₁.Holds (BitVec.ofNat 32 j) := by
      intro j hj
      rw [← hi.seq_eq hj]
      exact hheld₁
    cases hrest : rest with
    | nil =>
      subst hrest
      refine ⟨s₁, rx₁, hstep, h₁, hmono₁, ?_⟩
      rintro j ⟨q, hq, hj⟩
      rw [List.mem_singleton] at hq
      subst hq
      exact hheld j hj
    | cons q rest' =>
      have hne : rest ≠ [] := by simp [hrest]
      have hnotend : s₁.remoteEnded = false := by
        rw [hended₁, decide_eq_false_iff_not]
        intro heq
        have hmem : p ∈ (p :: rest).dropLast := by
          rw [List.dropLast_cons_of_ne_nil hne]
          exact List.mem_cons_self
        apply hlast p hmem
        rwa [show messages.length - 1 = i by omega]
      obtain ⟨s₂, rx₂, hok, h₂, hmono₂, hheld₂⟩ := ih h₁ hnotend
        (fun q hq => hgen q (List.mem_cons_of_mem p hq))
        (fun q hq => hlast q (by
          rw [List.dropLast_cons_of_ne_nil hne]
          exact List.mem_cons_of_mem p hq))
      rw [← hrest, hstep]
      refine ⟨s₂, rx₂, hok, h₂, fun k hk => hmono₂ k (hmono₁ k hk), ?_⟩
      rintro j ⟨q, hq, hj⟩
      rcases List.mem_cons.mp hq with rfl | hq
      · exact hmono₂ _ (hheld j hj)
      · exact hheld₂ j ⟨q, hq, hj⟩

/-- When every message has arrived, all of them have been delivered. -/
theorem Arriving.delivered_eq (h : Arriving b messages s rx)
    (hall : ∀ i < messages.length, rx.Holds (BitVec.ofNat 32 i)) :
  rx.delivered = messages
  := by
  have hle := h.inv.next_le
  have hdel := h.inv.delivered_eq
  have hnext : rx.nextExpected.toNat = messages.length := by
    apply Nat.le_antisymm hle
    apply Nat.not_lt.mp
    intro hmissing
    have hheld := hall rx.nextExpected.toNat hmissing
    rw [BitVec.ofNat_toNat, BitVec.setWidth_eq] at hheld
    rcases hheld with hlt' | hmem
    · bv_omega
    · exact (h.windowed _ hmem).1 rfl
  rw [List.nil_append, hnext, List.take_length] at hdel
  exact hdel

/-- Everything delivered is returned in order. -/
theorem recvAll_eq (hrel : s.profile.unreliable = false) (hrx : s.reliableRx = some rx) :
  s.recvAll rx.delivered.length = rx.delivered.map some
  := by
  induction hdel : rx.delivered generalizing s rx with
  | nil => rfl
  | cons m rest ih =>
    have hrecv : s.recv = (some m, { s with reliableRx := some { rx with delivered := rest } }) := by
      rw [recv, if_neg (by simp [hrel]), hrx]
      simp only [ReliableRx.recv, hdel]
    rw [List.length_cons, recvAll, hrecv, List.map_cons]
    congr 1
    exact @ih { s with reliableRx := some { rx with delivered := rest } }
      { rx with delivered := rest } hrel rfl rfl

/-- After the end mark no packet with a message is accepted. -/
theorem arriveAll_of_ended
    {arrivals : List (SizeClass × GtsPacket)} (hended : s.remoteEnded = true)
    (hgen : ∀ p ∈ arrivals, ∃ i, b.Genuine tunnelId messages i p) {s' : GtsStream}
    (h : s.arriveAll arrivals = .ok s') :
  arrivals = []
  := by
  cases arrivals with
  | nil => rfl
  | cons p rest =>
    obtain ⟨sizeClass, packet⟩ := p
    obtain ⟨i, data, -, hpacket, -⟩ := hgen _ List.mem_cons_self
    dsimp only at hpacket
    subst hpacket
    rw [arriveAll, bind_eq_ok] at h
    obtain ⟨_, hvalid, -⟩ := h
    rw [validateIncoming] at hvalid
    split at hvalid
    · cases hvalid
    · simp [hended] at hvalid

theorem arriveAll_append (s : GtsStream) (l l' : List (SizeClass × GtsPacket)) :
  s.arriveAll (l ++ l') = s.arriveAll l >>= fun s => s.arriveAll l'
  := by
  induction l generalizing s with
  | nil => rfl
  | cons p l ih =>
    simp only [List.cons_append, arriveAll, ih, bind_assoc]

/-- A packet with the end mark that is accepted ends the stream. -/
theorem remoteEnded_of_receivePacket {s' : GtsStream} {ack : Option GtsPacket} {streamId : U8}
    {seq : U32} {data : Bytes}
    (h : s.receivePacket (.data tunnelId streamId seq data true) = .ok (ack, s')) :
  s'.remoteEnded = true
  := by
  rw [receivePacket] at h
  split at h
  · cases h
  · split at h
    · cases h
    · split at h
      · cases h
      · rw [receiveData] at h
        split at h
        · cases h
        · split at h
          · cases h
          · split at h
            · cases h
            · cases h
              simp

/-- Of the packets that are all accepted, only the last can have the end mark. -/
theorem eq_nil_of_arriveAll {l l' : List (SizeClass × GtsPacket)} {p : SizeClass × GtsPacket}
    (hp : b.Genuine tunnelId messages (messages.length - 1) p)
    (hgen : ∀ p ∈ l', ∃ i, b.Genuine tunnelId messages i p) {s' : GtsStream}
    (h : s.arriveAll (l ++ p :: l') = .ok s') :
  l' = []
  := by
  obtain ⟨sizeClass, packet⟩ := p
  obtain ⟨data, hdata, hpacket, -⟩ := hp
  obtain ⟨hidx, -⟩ := List.getElem?_eq_some_iff.mp hdata
  rw [decide_eq_true (by omega)] at hpacket
  dsimp only at hpacket
  subst hpacket
  rw [arriveAll_append, bind_eq_ok] at h
  obtain ⟨s₁, -, h⟩ := h
  rw [arriveAll, bind_eq_ok] at h
  obtain ⟨_, -, h⟩ := h
  rw [bind_eq_ok] at h
  obtain ⟨⟨ack, s₂⟩, hreceive, h⟩ := h
  exact arriveAll_of_ended (remoteEnded_of_receivePacket hreceive) hgen h

/-! ### Both ends -/

section Pair

variable {id : U8} {profile : StreamProfile} {opened : Bool} {la pa lb pb : U8} {a a' : GtsStream}
  {sent : List (Bytes × U64)} {packets arrivals : List (SizeClass × GtsPacket)}

/-- The packets of the messages are genuine, in order. -/
theorem genuine_of_sendAll
    (ha : new id profile opened la pa = .ok a) (hb : new id profile (!opened) lb pb = .ok b)
    (hrel : profile.unreliable = false) (hsend : sendAll tunnelId a sent = .ok (packets, a')) :
  packets.length = sent.length ∧
    ∀ i p, packets[i]? = some p → b.Genuine tunnelId (sent.map Prod.fst) i p
  := by
  obtain rfl := new_eq_ok hrel ha
  obtain rfl := new_eq_ok hrel hb
  obtain ⟨hlength, hpackets⟩ := sendAll_eq_ok (by exact hrel) rfl rfl hsend
  use hlength
  intro i p hp
  obtain ⟨m, hm, hpm, hpv⟩ := hpackets i p hp
  use m.1
  rw [List.getElem?_map, hm, List.length_map]
  use rfl, ?_, hpv
  rw [hpm, ReliableTx.new, BitVec.zero_add]

/-- The packets of at most 33 messages differ. -/
theorem nodup_of_genuine (hlen : packets.length ≤ 33)
    (hgen : ∀ i p, packets[i]? = some p → b.Genuine tunnelId messages i p) :
  packets.Nodup
  := by
  rw [List.nodup_iff_injective_getElem]
  intro i j hij
  have hi := hgen i packets[i] (List.getElem?_eq_getElem i.isLt)
  have hj := hgen j packets[i]
    ((List.getElem?_eq_getElem j.isLt).trans (congrArg some hij.symm))
  have hseq := congrArg BitVec.toNat (hi.seq_eq hj)
  have hilt := i.isLt
  have hjlt := j.isLt
  rw [BitVec.toNat_ofNat, BitVec.toNat_ofNat, Nat.mod_eq_of_lt (by omega),
    Nat.mod_eq_of_lt (by omega)] at hseq
  exact Fin.ext hseq

/-- If the packet with the end mark arrives last, no other has the end mark. -/
theorem not_genuine_of_mem_dropLast (hperm : arrivals.Perm packets) (hlen : packets.length ≤ 33)
    (hgen : ∀ i p, packets[i]? = some p → b.Genuine tunnelId messages i p)
    (hlength : packets.length = messages.length) (hlast : arrivals.getLast? = packets.getLast?)
    {p : SizeClass × GtsPacket} (hp : p ∈ arrivals.dropLast) :
  ¬ b.Genuine tunnelId messages (messages.length - 1) p
  := by
  intro hend
  obtain ⟨i, hi⟩ := List.mem_iff_getElem?.mp (hperm.mem_iff.mp (List.mem_of_mem_dropLast hp))
  obtain ⟨hilt, -⟩ := List.getElem?_eq_some_iff.mp hi
  have hseq := congrArg BitVec.toNat ((hgen i p hi).seq_eq hend)
  rw [BitVec.toNat_ofNat, BitVec.toNat_ofNat, Nat.mod_eq_of_lt (by omega),
    Nat.mod_eq_of_lt (by omega), ← hlength] at hseq
  have hpl : arrivals.getLast? = some p := by
    rw [hlast, List.getLast?_eq_getElem?, ← hseq, hi]
  have hnodup := hperm.nodup_iff.mpr (nodup_of_genuine hlen hgen)
  rw [← List.dropLast_append_getLast? p hpl, List.nodup_append] at hnodup
  exact hnodup.2.2 p hp p List.mem_cons_self rfl

theorem arriving_new (hrel : profile.unreliable = false)
    (hb : new id profile (!opened) lb pb = .ok b) (hcap : messages.length ≤ max lb.toNat 1) :
  Arriving b messages b (.new (max lb.toNat 1))
  := by
  obtain rfl := new_eq_ok hrel hb
  use rfl, rfl, rfl, rfl, rfl, ReliableLink.rxInv_new messages _, ReliableRx.windowed_new _, hcap

theorem remoteMaySend_of_localMaySend (hrel : profile.unreliable = false)
    (ha : new id profile opened la pa = .ok a) (hb : new id profile (!opened) lb pb = .ok b)
    (hmay : a.localMaySend a.openedByLocal = true) :
  b.remoteMaySend b.openedByLocal = true
  := by
  obtain rfl := new_eq_ok hrel ha
  obtain rfl := new_eq_ok hrel hb
  cases opened with
  | false => exact hmay
  | true => exact hmay

/-- At most 33 messages are sent on a reliable stream, the last one with the end mark, and
the other end has room for all of them.  Their packets, arriving in any order, are all
accepted and the messages are returned in the order of sending, exactly when the packet
with the end mark arrives last. -/
theorem returned_in_order_iff
    (ha : new id profile opened la pa = .ok a) (hb : new id profile (!opened) lb pb = .ok b)
    (hrel : profile.unreliable = false) (hsend : sendAll tunnelId a sent = .ok (packets, a'))
    (hlen : sent.length ≤ 33) (hcap : sent.length ≤ max lb.toNat 1)
    (hperm : arrivals.Perm packets) :
  (∃ b', b.arriveAll arrivals = .ok b' ∧
      b'.recvAll sent.length = sent.map (fun m => some m.1)) ↔
    arrivals.getLast? = packets.getLast?
  := by
  obtain ⟨hlength, hpackets⟩ := genuine_of_sendAll ha hb hrel hsend
  have hgen : ∀ p ∈ arrivals, ∃ i, b.Genuine tunnelId (sent.map Prod.fst) i p := by
    intro p hp
    obtain ⟨i, hi⟩ := List.mem_iff_getElem?.mp (hperm.mem_iff.mp hp)
    exact ⟨i, hpackets i p hi⟩
  have hend : ∀ p, packets.getLast? = some p →
      b.Genuine tunnelId (sent.map Prod.fst) ((sent.map Prod.fst).length - 1) p := by
    intro p hp
    rw [List.getLast?_eq_getElem?] at hp
    rw [List.length_map, ← hlength]
    exact hpackets _ p hp
  constructor
  · rintro ⟨b', harrive, -⟩
    cases hp : packets.getLast? with
    | none =>
      rw [List.getLast?_eq_none_iff.mp hp] at hperm
      rw [hperm.eq_nil, List.getLast?_nil]
    | some p =>
      obtain ⟨l, l', rfl⟩ := List.append_of_mem (hperm.mem_iff.mpr (List.mem_of_getLast? hp))
      have hnil := eq_nil_of_arriveAll (hend p hp)
        (fun q hq => hgen q (by simp [hq])) harrive
      rw [hnil, List.getLast?_concat]
  · intro hlast
    have hdrop : ∀ p ∈ arrivals.dropLast, _ := fun p =>
      not_genuine_of_mem_dropLast hperm (by omega) hpackets (by simpa using hlength) hlast
    by_cases hnil : sent = []
    · subst hnil
      rw [List.length_eq_zero_iff.mp hlength] at hperm
      rw [hperm.eq_nil]
      exact ⟨b, rfl, rfl⟩
    · have hmay := localMaySend_of_sendAll (by rw [new_eq_ok hrel ha]; exact hrel) hnil hsend
      obtain ⟨b', rx, harrive, h, -, hheld⟩ := (arriving_new hrel hb (by simpa using hcap)).arriveAll
        (by rw [new_eq_ok hrel hb]; exact hrel) (remoteMaySend_of_localMaySend hrel ha hb hmay)
        (by rw [new_eq_ok hrel hb]) (by simpa using hlen) hgen hdrop
      have hall : ∀ i < (sent.map Prod.fst).length, rx.Holds (BitVec.ofNat 32 i) := by
        intro i hi
        rw [List.length_map, ← hlength] at hi
        have hmem := List.getElem?_eq_getElem hi
        exact hheld i ⟨_, hperm.mem_iff.mpr (List.mem_of_getElem? hmem), hpackets i _ hmem⟩
      have hrecv := recvAll_eq (by rw [h.profile_eq, new_eq_ok hrel hb]; exact hrel) h.rx_eq
      rw [h.delivered_eq hall, List.length_map, List.map_map] at hrecv
      exact ⟨b', harrive, hrecv⟩

end Pair

/-- Three messages whose first two packets arrive in the other order. -/
theorem returned_in_order_iff_swapped :
  let profile : StreamProfile := ⟨false, true, false, false, .openerToPeer, .msg128⟩
  let p₀ := (.ctrl32, .data 7#32 0#8 0#32 [0#8] false)
  let p₁ := (.ctrl32, .data 7#32 0#8 1#32 [1#8] false)
  let p₂ := (.ctrl32, .data 7#32 0#8 2#32 [2#8] true)
  ∃ a b a', new 0#8 profile true 3#8 3#8 = .ok a ∧ new 0#8 profile false 3#8 3#8 = .ok b ∧
    sendAll 7#32 a [([0#8], 0#64), ([1#8], 1#64), ([2#8], 2#64)] = .ok ([p₀, p₁, p₂], a') ∧
    ∃ b', b.arriveAll [p₁, p₀, p₂] = .ok b' ∧ b'.recvAll 3 = [some [0#8], some [1#8], some [2#8]]
  := by
  intro profile p₀ p₁ p₂
  obtain ⟨a, ha⟩ : ∃ a, new 0#8 profile true 3#8 3#8 = .ok a := ⟨_, rfl⟩
  obtain ⟨b, hb⟩ : ∃ b, new 0#8 profile false 3#8 3#8 = .ok b := ⟨_, rfl⟩
  obtain ⟨a', hsend⟩ : ∃ a', sendAll 7#32 a [([0#8], 0#64), ([1#8], 1#64), ([2#8], 2#64)]
      = .ok ([p₀, p₁, p₂], a') := by
    cases ha
    exact ⟨_, rfl⟩
  have hiff := returned_in_order_iff ha hb rfl hsend (by decide) (by decide)
    (List.Perm.swap p₀ p₁ [p₂])
  exact ⟨a, b, a', ha, hb, hsend, hiff.mpr rfl⟩

/-- Two messages whose packets arrive in the other order: the packet with the end mark
overtakes the other, which is then rejected. -/
theorem rejected_after_end :
  let profile : StreamProfile := ⟨false, true, false, false, .openerToPeer, .msg128⟩
  let p₀ := (.ctrl32, .data 7#32 0#8 0#32 [0#8] false)
  let p₁ := (.ctrl32, .data 7#32 0#8 1#32 [1#8] true)
  ∃ a b a', new 0#8 profile true 2#8 2#8 = .ok a ∧ new 0#8 profile false 2#8 2#8 = .ok b ∧
    sendAll 7#32 a [([0#8], 0#64), ([1#8], 1#64)] = .ok ([p₀, p₁], a') ∧
    b.arriveAll [p₁, p₀] = .error .profileViolation ∧
    ¬ ∃ b', b.arriveAll [p₁, p₀] = .ok b' ∧ b'.recvAll 2 = [some [0#8], some [1#8]]
  := by
  intro profile p₀ p₁
  have hrejected : ∀ b, new 0#8 profile false 2#8 2#8 = .ok b →
      b.arriveAll [p₁, p₀] = .error .profileViolation := by
    rintro _ ⟨⟩
    decide
  obtain ⟨b, hb⟩ : ∃ b, new 0#8 profile false 2#8 2#8 = .ok b := ⟨_, rfl⟩
  refine ⟨_, b, _, rfl, hb, rfl, hrejected b hb, ?_⟩
  rintro ⟨b', harrive, -⟩
  rw [hrejected b hb] at harrive
  cases harrive

end GtsStream

end SmolGnet
