import SmolGnet.Endpoint.Recv
import SmolGnet.Gts.Link

/-!
# The messages of a stream

A `StreamFlow` is one direction of a stream: the stream at the end that sends and at the end that receives,
either of which may not be there yet, what is on its way between them, and which messages have been sent
and taken.  `Sends` and `Takes` say what can happen to the messages at the two ends, whatever the
operation was.  The messages of a reliable stream go on as those of a `ReliableLink`, and those of an
unreliable stream are taken in the order in which they were sent.

An end that resets the stream loses its messages, and the other end may not know.  What the ends of the
`ReliableLink` are then is what they were when the stream was reset.
-/

namespace SmolGnet

/-! ### What is known of a link -/

namespace ReliableLink

variable {s : ReliableLink}

/-- Credit does not matter. -/
theorem Inv.of_tx (h : s.Inv) {tx : ReliableTx} (hnext : tx.nextSequence = s.tx.nextSequence)
    (hout : tx.outstanding = s.tx.outstanding) :
  Inv { s with tx }
  := by
  refine ⟨?_, ?_, h.packets, h.receiver, h.windowed, ?_, h.acks⟩
  · rw [hnext]
    apply h.next_seq
  · rw [hout]
    apply h.outstanding
  · rw [hout]
    apply h.held

/-- What is no longer on its way does not matter. -/
theorem Inv.mono (h : s.Inv) {packets : List (U32 × Bytes × Bool)} {acks : List Ack}
    (hpackets : packets ⊆ s.packets) (hacks : acks ⊆ s.acks) :
  Inv { s with packets, acks }
  := by
  refine ⟨h.next_seq, h.outstanding, ?_, h.receiver, h.windowed, h.held, ?_⟩
  · intro p hp
    apply h.packets p (hpackets hp)
  · intro a ha
    apply h.acks a (hacks ha)

/-- As long as nothing has arrived, any new receiver will do. -/
theorem Inv.of_new (h : s.Inv) {capacity capacity' : ℕ} (hrx : s.rx = .new capacity) :
  Inv { s with rx := .new capacity' }
  := by
  have hheld : ∀ k, (ReliableRx.new capacity').Holds k ↔ s.rx.Holds k := by
    intro k
    rw [hrx]
    rfl
  have hreturned : s.returned = [] := by
    have heq := h.receiver.delivered_eq
    rw [hrx] at heq
    apply List.append_eq_nil_iff.mp heq |>.1
  refine ⟨h.next_seq, h.outstanding, h.packets, ?_, ReliableRx.windowed_new _, ?_, ?_⟩
  · dsimp only
    rw [hreturned]
    apply rxInv_new
  · intro k hk
    rw [hheld]
    apply h.held k hk
  · intro a ha k hk
    rw [hheld]
    apply h.acks a ha k hk

/-- A packet that is on its way arrives. -/
theorem Inv.receive (h : s.Inv) (hlt : s.queued.length < 2 ^ 32) {seq : U32} {data : Bytes}
    {isEnd b : Bool} {rx : ReliableRx} (hpacket : (seq, data, isEnd) ∈ s.packets)
    (hreceive : s.rx.receive seq data = .ok (b, rx)) :
  Inv { s with rx }
  := by
  obtain ⟨i, hi⟩ := List.mem_iff_getElem?.mp hpacket
  have hdeliver := inv_deliverPacket h i hlt
  simp only [deliverPacket, hi, hreceive] at hdeliver
  apply hdeliver

/-- An acknowledgement that is on its way arrives. -/
theorem Inv.onAck (h : s.Inv) {a : Ack} (ha : a ∈ s.acks) :
  Inv { s with tx := s.tx.onAck a.base a.bitmap a.credit }
  := by
  obtain ⟨i, hi⟩ := List.mem_iff_getElem?.mp ha
  have hdeliver := inv_deliverAck h i
  simp only [deliverAck, hi] at hdeliver
  apply hdeliver

/-- The receiver has sent an acknowledgement, or none. -/
theorem Inv.acknowledge (h : s.Inv) {acks : List Ack} (hacks : ∀ a ∈ acks, s.rx.ack = some a) :
  Inv { s with acks := s.acks ++ acks }
  := by
  refine ⟨h.next_seq, h.outstanding, h.packets, h.receiver, h.windowed, h.held, ?_⟩
  intro a ha k hk
  rcases List.mem_append.mp ha with ha | ha
  · apply h.acks a ha k hk
  · apply ReliableRx.holds_of_acked h.receiver.seen (hacks a ha) hk

end ReliableLink

/-! ### What can happen to the messages -/

namespace GtsStream

/-- What can happen to the messages that a stream sends: the stream is `x` before and `x'` after, an
acknowledgement may have arrived, packets and datagrams are sent, and the last list is that of the
messages that the application has given to the stream. -/
inductive Sends : Option GtsStream → Option GtsStream → Option Ack → List (U32 × Bytes × Bool) →
    List Bytes → List (Bytes × Bool) → Prop where
  | absent (ack : Option Ack) : Sends none none ack [] [] []
  | opens {s : GtsStream} (ack : Option Ack)
      (hnew : s.profile.unreliable = false → ∃ credit, s.reliableTx = some (.new credit)) :
    Sends none (some s) ack [] [] []
  | keeps {s s' : GtsStream} (ack : Option Ack) (hprofile : s'.profile = s.profile)
      (hreset : s.state = .reset → s'.state = .reset) (credit : ReliableTx → U8)
      (htx : s'.reliableTx = s.reliableTx.map (fun tx => { tx with peerCredit := credit tx })) :
    Sends (some s) (some s') ack [] [] []
  | forgets {s s' : GtsStream} (ack : Option Ack) (hprofile : s'.profile = s.profile)
      (hreset : s'.state = .reset) (htx : ∀ tx, s'.reliableTx = some tx → tx.outstanding = ∅) :
    Sends (some s) (some s') ack [] [] []
  | queues {s s' : GtsStream} {tx tx' : ReliableTx} {seq : U32} {data : Bytes} {isEnd : Bool} {now : U64}
      (ack : Option Ack) (hrel : s.profile.unreliable = false) (hprofile : s'.profile = s.profile)
      (hstate : s.state ≠ .reset) (htx : s.reliableTx = some tx) (htx' : s'.reliableTx = some tx')
      (hlen : s.validateSendLen data.length isEnd = .ok ())
      (hqueue : tx.queue data isEnd now = .ok (seq, tx')) :
    Sends (some s) (some s') ack [(seq, data, isEnd)] [] [(data, isEnd)]
  | emits {s s' : GtsStream} {data : Bytes} {isEnd : Bool} (ack : Option Ack)
      (hunrel : s.profile.unreliable = true) (hprofile : s'.profile = s.profile)
      (htx : s'.reliableTx = s.reliableTx) :
    Sends (some s) (some s') ack [] [data] [(data, isEnd)]
  | resends {s s' : GtsStream} {tx : ReliableTx} {now : U64} (ack : Option Ack)
      (packets : List (U32 × Bytes × Bool)) (hprofile : s'.profile = s.profile)
      (hstate : s'.state = s.state) (htx : s.reliableTx = some tx)
      (htx' : s'.reliableTx = some (tx.due now).2) (hpackets : packets ⊆ (tx.due now).1) :
    Sends (some s) (some s') ack packets [] []
  | acked {s s' : GtsStream} {tx : ReliableTx} {a : Ack} (hprofile : s'.profile = s.profile)
      (hstate : s.state ≠ .reset) (htx : s.reliableTx = some tx)
      (htx' : s'.reliableTx = some (tx.onAck a.base a.bitmap a.credit)) :
    Sends (some s) (some s') (some a) [] [] []

/-- What can happen to the messages that a stream receives: the stream is `x` before and `x'` after, a
packet or a datagram may have arrived, acknowledgements are sent, and the last list is that of the messages
that the application has taken from the stream. -/
inductive Takes : Option GtsStream → Option GtsStream → Option (U32 × Bytes × Bool) → Option Bytes →
    List Ack → List Bytes → Prop where
  | absent (packet : Option (U32 × Bytes × Bool)) (datagram : Option Bytes) :
    Takes none none packet datagram [] []
  | opens {s : GtsStream} (packet : Option (U32 × Bytes × Bool)) (datagram : Option Bytes)
      (hnew : s.profile.unreliable = false → ∃ capacity, s.reliableRx = some (.new capacity))
      (hqueued : s.queued = []) :
    Takes none (some s) packet datagram [] []
  | keeps {s s' : GtsStream} (packet : Option (U32 × Bytes × Bool)) (datagram : Option Bytes)
      (hprofile : s'.profile = s.profile) (hreset : s.state = .reset → s'.state = .reset)
      (hrx : s'.reliableRx = s.reliableRx) (hqueued : s'.unrelDelivered = s.unrelDelivered) :
    Takes (some s) (some s') packet datagram [] []
  | forgets {s s' : GtsStream} (packet : Option (U32 × Bytes × Bool)) (datagram : Option Bytes)
      (hprofile : s'.profile = s.profile) (hreset : s'.state = .reset) (hqueued : s'.queued = []) :
    Takes (some s) (some s') packet datagram [] []
  | accepts {s s' : GtsStream} {rx rx' : ReliableRx} {seq : U32} {data : Bytes} {isEnd b : Bool}
      {acks : List Ack} (datagram : Option Bytes) (hrel : s.profile.unreliable = false)
      (hprofile : s'.profile = s.profile) (hstate : s.state ≠ .reset)
      (hrx : s.reliableRx = some rx) (hrx' : s'.reliableRx = some rx')
      (hreceive : rx.receive seq data = .ok (b, rx')) (hacks : ∀ a ∈ acks, rx'.ack = some a) :
    Takes (some s) (some s') (some (seq, data, isEnd)) datagram acks []
  | collects {s s' : GtsStream} {data : Bytes} (packet : Option (U32 × Bytes × Bool))
      (hunrel : s.profile.unreliable = true) (hprofile : s'.profile = s.profile)
      (hqueued : s'.unrelDelivered = s.unrelDelivered ++ [data]) :
    Takes (some s) (some s') packet (some data) [] []
  | returns {s s' : GtsStream} {m : Bytes} {acks : List Ack} (packet : Option (U32 × Bytes × Bool))
      (datagram : Option Bytes) (hprofile : s'.profile = s.profile) (hstate : s'.state = s.state)
      (hqueued : s.queued = m :: s'.queued)
      (hrx : s.profile.unreliable = false → ∀ rx, s.reliableRx = some rx →
        s'.reliableRx = some rx.recv.2 ∧ ∀ a ∈ acks, rx.recv.2.ack = some a) :
    Takes (some s) (some s') packet datagram acks [m]

end GtsStream

/-! ### One direction of a stream -/

/-- One direction of a stream. -/
structure StreamFlow where
  sender : Option GtsStream
  receiver : Option GtsStream
  packets : List (U32 × Bytes × Bool)
  datagrams : List Bytes
  acks : List Ack
  sent : List (Bytes × Bool)
  taken : List Bytes

namespace StreamFlow

/-- Wherever the stream is there, it is reliable, or unreliable. -/
def Kind (f : StreamFlow) (unreliable : Bool) : Prop :=
  (∀ s, f.sender = some s → s.profile.unreliable = unreliable) ∧
    ∀ s, f.receiver = some s → s.profile.unreliable = unreliable

/-- The stream sends as `tx`, or it did so until it was reset. -/
def Transmits (x : Option GtsStream) (tx : ReliableTx) : Prop :=
  match x with
  | none => tx.nextSequence = 0#32 ∧ tx.outstanding = ∅
  | some s => s.reliableTx = some tx ∨
      s.state = .reset ∧ ∀ tx', s.reliableTx = some tx' → tx'.outstanding = ∅

/-- The stream receives as `rx`, or it did so until it was reset. -/
def Receives (x : Option GtsStream) (rx : ReliableRx) : Prop :=
  match x with
  | none => ∃ capacity, rx = .new capacity
  | some s => s.reliableRx = some rx ∨ s.state = .reset ∧ s.queued = []

/-- The messages that wait for the application. -/
def waiting (x : Option GtsStream) : List Bytes :=
  x.elim [] GtsStream.queued

/-- What is on its way is what was sent, and messages are taken in order.  Numbers repeat after `2 ^ 32`
messages. -/
structure Inv (f : StreamFlow) : Prop where
  reliable : f.Kind false → f.sent.length < 2 ^ 32 → ∃ tx rx, Transmits f.sender tx ∧
    Receives f.receiver rx ∧ ReliableLink.Inv ⟨tx, rx, f.packets, f.acks, f.sent, f.taken⟩
  unreliable : f.Kind true →
    (f.taken ++ waiting f.receiver ++ f.datagrams).Sublist (f.sent.map Prod.fst)

variable {f : StreamFlow}

/-- Nothing has been opened yet. -/
theorem inv_empty :
  Inv ⟨none, none, [], [], [], [], []⟩
  := by
  refine ⟨fun _ _ => ?_, fun _ => List.Sublist.refl _⟩
  exact ⟨.new 0#8, .new 0, ⟨rfl, rfl⟩, ⟨0, rfl⟩, ReliableLink.inv_init 0#8 0⟩

/-- What is no longer on its way does not matter. -/
theorem Inv.mono (h : f.Inv) {packets : List (U32 × Bytes × Bool)} {datagrams : List Bytes}
    {acks : List Ack} (hpackets : packets ⊆ f.packets) (hdatagrams : datagrams.Sublist f.datagrams)
    (hacks : acks ⊆ f.acks) :
  Inv { f with packets, datagrams, acks }
  := by
  constructor
  · intro hkind hlt
    obtain ⟨tx, rx, htx, hrx, hlink⟩ := h.reliable hkind hlt
    exact ⟨tx, rx, htx, hrx, hlink.mono hpackets hacks⟩
  · intro hkind
    apply List.Sublist.trans _ (h.unreliable hkind)
    apply List.Sublist.append_left hdatagrams

/-! ### At the end that sends -/

theorem transmits_of_map {s s' : GtsStream} {tx : ReliableTx} {credit : ReliableTx → U8}
    (hreset : s.state = .reset → s'.state = .reset)
    (htx : s'.reliableTx = s.reliableTx.map (fun tx => { tx with peerCredit := credit tx }))
    (h : Transmits (some s) tx) :
  ∃ tx', Transmits (some s') tx' ∧ tx'.nextSequence = tx.nextSequence ∧ tx'.outstanding = tx.outstanding
  := by
  rcases h with hlive | ⟨hstate, hnone⟩
  · rw [hlive] at htx
    exact ⟨_, .inl htx, rfl, rfl⟩
  · refine ⟨tx, .inr ⟨hreset hstate, ?_⟩, rfl, rfl⟩
    intro tx' htx'
    rw [htx] at htx'
    obtain ⟨tx₀, htx₀, rfl⟩ := Option.map_eq_some_iff.mp htx'
    apply hnone tx₀ htx₀

/-- The profile of the sender never changes. -/
theorem profile_eq_of_sends {s : GtsStream} {x : Option GtsStream} {ack : Option Ack}
    {packets : List (U32 × Bytes × Bool)} {datagrams : List Bytes} {sent : List (Bytes × Bool)}
    (h : GtsStream.Sends (some s) x ack packets datagrams sent) :
  ∃ s', x = some s' ∧ s'.profile = s.profile
  := by
  cases h with
  | keeps _ hprofile => exact ⟨_, rfl, hprofile⟩
  | forgets _ hprofile => exact ⟨_, rfl, hprofile⟩
  | queues _ _ hprofile => exact ⟨_, rfl, hprofile⟩
  | emits _ _ hprofile => exact ⟨_, rfl, hprofile⟩
  | resends _ _ hprofile => exact ⟨_, rfl, hprofile⟩
  | acked hprofile => exact ⟨_, rfl, hprofile⟩

/-- Where the sender is of a kind, the stream was. -/
theorem Kind.of_sends {x : Option GtsStream} {unreliable : Bool} {ack : Option Ack}
    {packets : List (U32 × Bytes × Bool)} {datagrams : List Bytes} {sent : List (Bytes × Bool)}
    (hkind : Kind { f with sender := x } unreliable)
    (hsends : GtsStream.Sends f.sender x ack packets datagrams sent) :
  f.Kind unreliable
  := by
  refine ⟨?_, hkind.2⟩
  intro s hs
  rw [hs] at hsends
  obtain ⟨s', rfl, hprofile⟩ := profile_eq_of_sends hsends
  rw [← hprofile]
  exact hkind.1 s' rfl

/-- Nothing is due when nothing is outstanding. -/
theorem due_of_outstanding_eq_empty {tx : ReliableTx} (h : tx.outstanding = ∅) (now : U64) :
  (tx.due now).1 = [] ∧ (tx.due now).2.outstanding = ∅
  := by
  rw [ReliableTx.due, h]
  exact ⟨rfl, rfl⟩

/-- Whatever happens at the end that sends, the messages of a reliable stream go on as those of a link
do. -/
theorem transmits_of_sends {tx : ReliableTx} {rx : ReliableRx} {onWay : List (U32 × Bytes × Bool)}
    {acks₀ : List Ack} {sent₀ : List (Bytes × Bool)} {taken₀ : List Bytes} {x y : Option GtsStream}
    {ack : Option Ack} {packets : List (U32 × Bytes × Bool)} {datagrams : List Bytes} {sent : List (Bytes × Bool)}
    (hsends : GtsStream.Sends x y ack packets datagrams sent)
    (hrel : ∀ s, y = some s → s.profile.unreliable = false) (hack : ∀ a ∈ ack, a ∈ acks₀)
    (hlt : (sent₀ ++ sent).length < 2 ^ 32) (htx : Transmits x tx)
    (hlink : ReliableLink.Inv ⟨tx, rx, onWay, acks₀, sent₀, taken₀⟩) :
  ∃ tx', Transmits y tx' ∧
    ReliableLink.Inv ⟨tx', rx, onWay ++ packets, acks₀, sent₀ ++ sent, taken₀⟩
  := by
  cases hsends with
  | absent =>
    simp only [List.append_nil]
    exact ⟨tx, htx, hlink⟩
  | opens _ hnew =>
    obtain ⟨credit, hcredit⟩ := hnew (hrel _ rfl)
    simp only [List.append_nil]
    exact ⟨_, .inl hcredit, hlink.of_tx htx.1.symm htx.2.symm⟩
  | keeps _ hprofile hreset credit hmap =>
    obtain ⟨tx', htx', hnext, hout⟩ := transmits_of_map hreset hmap htx
    simp only [List.append_nil]
    exact ⟨tx', htx', hlink.of_tx hnext hout⟩
  | forgets _ hprofile hreset hnone =>
    simp only [List.append_nil]
    exact ⟨tx, .inr ⟨hreset, hnone⟩, hlink⟩
  | @queues s s' tx₁ tx' seq data isEnd now _ _ _ hstate htx₁ htx' _ hqueue =>
    rcases htx with hlive | ⟨hreset, -⟩
    · rw [htx₁] at hlive
      cases hlive
      have hnext := ReliableLink.inv_queue hlink data isEnd now
      simp only [ReliableLink.queue, hqueue] at hnext
      exact ⟨tx', .inl htx', hnext hlt⟩
    · exact absurd hreset hstate
  | emits _ hunrel hprofile =>
    have hreliable := hrel _ rfl
    rw [hprofile, hunrel] at hreliable
    cases hreliable
  | @resends s s' tx₁ now _ _ _ hstate htx₁ htx' hpackets =>
    simp only [List.append_nil]
    rcases htx with hlive | ⟨hreset, hnone⟩
    · rw [htx₁] at hlive
      cases hlive
      refine ⟨_, .inl htx', (ReliableLink.inv_due hlink now).mono ?_ (List.Subset.refl _)⟩
      apply List.append_subset.mpr
      exact ⟨List.subset_append_left _ _, List.subset_append_of_subset_right _ hpackets⟩
    · obtain ⟨hdue, hempty⟩ := due_of_outstanding_eq_empty (hnone tx₁ htx₁) now
      rw [hdue] at hpackets
      rw [List.subset_nil.mp hpackets, List.append_nil]
      refine ⟨tx, .inr ⟨hstate.trans hreset, ?_⟩, hlink⟩
      intro tx₂ htx₂
      rw [htx'] at htx₂
      cases htx₂
      exact hempty
  | acked _ hstate htx₁ htx' =>
    simp only [List.append_nil]
    rcases htx with hlive | ⟨hreset, -⟩
    · rw [htx₁] at hlive
      cases hlive
      exact ⟨_, .inl htx', hlink.onAck (hack _ rfl)⟩
    · exact absurd hreset hstate

/-- The messages that an unreliable stream is given are sent as they are. -/
theorem datagrams_eq_of_sends {x y : Option GtsStream} {ack : Option Ack}
    {packets : List (U32 × Bytes × Bool)} {datagrams : List Bytes} {sent : List (Bytes × Bool)}
    (hsends : GtsStream.Sends x y ack packets datagrams sent)
    (hunrel : ∀ s, y = some s → s.profile.unreliable = true) :
  datagrams = sent.map Prod.fst
  := by
  cases hsends with
  | queues _ hrel hprofile =>
    have hkind := hunrel _ rfl
    rw [hprofile, hrel] at hkind
    cases hkind
  | _ => rfl

/-- Whatever happens at the end that sends, the stream goes on. -/
theorem Inv.sends (h : f.Inv) {x : Option GtsStream} {ack : Option Ack}
    {packets : List (U32 × Bytes × Bool)} {datagrams : List Bytes} {sent : List (Bytes × Bool)}
    (hsends : GtsStream.Sends f.sender x ack packets datagrams sent) (hack : ∀ a ∈ ack, a ∈ f.acks) :
  Inv { f with
    sender := x
    packets := f.packets ++ packets
    datagrams := f.datagrams ++ datagrams
    sent := f.sent ++ sent }
  := by
  constructor
  · intro hkind hlt
    have hle : f.sent.length ≤ (f.sent ++ sent).length := by simp
    obtain ⟨tx, rx, htx, hrx, hlink⟩ := h.reliable (hkind.of_sends hsends) (Nat.lt_of_le_of_lt hle hlt)
    obtain ⟨tx', htx', hlink'⟩ := transmits_of_sends hsends hkind.1 hack hlt htx hlink
    exact ⟨tx', rx, htx', hrx, hlink'⟩
  · intro hkind
    have hold := h.unreliable (hkind.of_sends hsends)
    dsimp only
    rw [List.map_append, ← List.append_assoc, datagrams_eq_of_sends hsends hkind.1]
    exact hold.append (List.Sublist.refl _)

/-! ### At the end that receives -/

/-- The profile of the receiver never changes. -/
theorem profile_eq_of_takes {s : GtsStream} {x : Option GtsStream}
    {packet : Option (U32 × Bytes × Bool)} {datagram : Option Bytes} {acks : List Ack}
    {taken : List Bytes} (h : GtsStream.Takes (some s) x packet datagram acks taken) :
  ∃ s', x = some s' ∧ s'.profile = s.profile
  := by
  cases h with
  | keeps _ _ hprofile => exact ⟨_, rfl, hprofile⟩
  | forgets _ _ hprofile => exact ⟨_, rfl, hprofile⟩
  | accepts _ _ hprofile => exact ⟨_, rfl, hprofile⟩
  | collects _ _ hprofile => exact ⟨_, rfl, hprofile⟩
  | returns _ _ hprofile => exact ⟨_, rfl, hprofile⟩

/-- Where the receiver is of a kind, the stream was. -/
theorem Kind.of_takes {x : Option GtsStream} {unreliable : Bool}
    {packet : Option (U32 × Bytes × Bool)} {datagram : Option Bytes} {acks : List Ack}
    {taken : List Bytes} (hkind : Kind { f with receiver := x } unreliable)
    (htakes : GtsStream.Takes f.receiver x packet datagram acks taken) :
  f.Kind unreliable
  := by
  refine ⟨hkind.1, ?_⟩
  intro s hs
  rw [hs] at htakes
  obtain ⟨s', rfl, hprofile⟩ := profile_eq_of_takes htakes
  rw [← hprofile]
  exact hkind.2 s' rfl

theorem queued_of_reliable {s : GtsStream} {rx : ReliableRx} (hrel : s.profile.unreliable = false)
    (hrx : s.reliableRx = some rx) :
  s.queued = rx.delivered
  := by
  rw [GtsStream.queued, hrel, hrx]
  rfl

theorem queued_of_unreliable {s : GtsStream} (hunrel : s.profile.unreliable = true) :
  s.queued = s.unrelDelivered
  := by
  rw [GtsStream.queued, hunrel]
  rfl

/-- A queue that has not been touched. -/
theorem queued_congr {s s' : GtsStream} (hprofile : s'.profile = s.profile)
    (hrx : s'.reliableRx = s.reliableRx) (hqueued : s'.unrelDelivered = s.unrelDelivered) :
  s'.queued = s.queued
  := by rw [GtsStream.queued, GtsStream.queued, hprofile, hrx, hqueued]

/-- Whatever happens at the end that receives, the messages of a reliable stream go on as those of a link
do. -/
theorem receives_of_takes {tx : ReliableTx} {rx : ReliableRx} {onWay : List (U32 × Bytes × Bool)}
    {acks₀ : List Ack} {sent₀ : List (Bytes × Bool)} {taken₀ : List Bytes} {x y : Option GtsStream}
    {packet : Option (U32 × Bytes × Bool)} {datagram : Option Bytes} {acks : List Ack}
    {taken : List Bytes} (htakes : GtsStream.Takes x y packet datagram acks taken)
    (hrel : ∀ s, y = some s → s.profile.unreliable = false) (hpacket : ∀ p ∈ packet, p ∈ onWay)
    (hlt : sent₀.length < 2 ^ 32) (hrx : Receives x rx)
    (hlink : ReliableLink.Inv ⟨tx, rx, onWay, acks₀, sent₀, taken₀⟩) :
  ∃ rx', Receives y rx' ∧ ReliableLink.Inv ⟨tx, rx', onWay, acks₀ ++ acks, sent₀, taken₀ ++ taken⟩
  := by
  cases htakes with
  | absent =>
    simp only [List.append_nil]
    exact ⟨rx, hrx, hlink⟩
  | opens _ _ hnew =>
    obtain ⟨capacity, rfl⟩ := hrx
    obtain ⟨capacity', hnew⟩ := hnew (hrel _ rfl)
    simp only [List.append_nil]
    exact ⟨_, .inl hnew, hlink.of_new rfl⟩
  | keeps _ _ hprofile hreset hsame hqueued =>
    simp only [List.append_nil]
    refine ⟨rx, ?_, hlink⟩
    rcases hrx with hlive | ⟨hstate, hempty⟩
    · exact .inl (hsame.trans hlive)
    · exact .inr ⟨hreset hstate, (queued_congr hprofile hsame hqueued).trans hempty⟩
  | forgets _ _ _ hreset hqueued =>
    simp only [List.append_nil]
    exact ⟨rx, .inr ⟨hreset, hqueued⟩, hlink⟩
  | @accepts s s' rx₁ rx' seq data isEnd b acks _ _ _ hstate hrx₁ hrx' hreceive hacks =>
    simp only [List.append_nil]
    rcases hrx with hlive | ⟨hreset, -⟩
    · rw [hrx₁] at hlive
      cases hlive
      have hreceived := hlink.receive hlt (hpacket _ rfl) hreceive
      exact ⟨rx', .inl hrx', hreceived.acknowledge hacks⟩
    · exact absurd hreset hstate
  | collects _ hunrel hprofile =>
    have hreliable := hrel _ rfl
    rw [hprofile, hunrel] at hreliable
    cases hreliable
  | @returns s s' m acks _ _ hprofile _ hqueued hrecv =>
    have hreliable := hrel _ rfl
    rw [hprofile] at hreliable
    rcases hrx with hlive | ⟨-, hempty⟩
    · obtain ⟨hrx', hacks⟩ := hrecv hreliable rx hlive
      rw [queued_of_reliable hreliable hlive] at hqueued
      have hnext := ReliableLink.inv_recv hlink
      simp only [ReliableLink.recv, ReliableRx.recv, hqueued] at hnext hrx' hacks
      exact ⟨_, .inl hrx', hnext.acknowledge hacks⟩
    · rw [hempty] at hqueued
      cases hqueued

/-- The messages of an unreliable stream are taken, or they are lost, in the order in which they have
arrived. -/
theorem sublist_of_takes {x y : Option GtsStream} {packet : Option (U32 × Bytes × Bool)}
    {datagram : Option Bytes} {acks : List Ack} {taken : List Bytes}
    (htakes : GtsStream.Takes x y packet datagram acks taken)
    (hunrel : ∀ s, y = some s → s.profile.unreliable = true) :
  (taken ++ waiting y).Sublist (waiting x ++ datagram.toList)
  := by
  cases htakes with
  | absent => apply List.nil_sublist
  | opens _ _ _ hqueued =>
    rw [waiting, Option.elim, hqueued]
    apply List.nil_sublist
  | keeps _ _ hprofile _ hrx hqueued =>
    rw [waiting, Option.elim, queued_congr hprofile hrx hqueued]
    apply List.sublist_append_left
  | forgets _ _ _ _ hqueued =>
    rw [waiting, Option.elim, hqueued]
    apply List.nil_sublist
  | accepts _ hrel hprofile =>
    have hkind := hunrel _ rfl
    rw [hprofile, hrel] at hkind
    cases hkind
  | collects _ hkind hprofile hqueued =>
    rw [waiting, waiting, Option.elim, Option.elim, queued_of_unreliable hkind,
      queued_of_unreliable (hprofile ▸ hkind), hqueued]
    apply List.Sublist.refl
  | returns _ _ _ _ hqueued =>
    rw [waiting, waiting, Option.elim, Option.elim, hqueued]
    apply List.sublist_append_left

/-- Whatever happens at the end that receives, the stream goes on. -/
theorem Inv.takes (h : f.Inv) {x : Option GtsStream} {packet : Option (U32 × Bytes × Bool)}
    {datagram : Option Bytes} {datagrams : List Bytes} {acks : List Ack} {taken : List Bytes}
    (htakes : GtsStream.Takes f.receiver x packet datagram acks taken)
    (hpacket : ∀ p ∈ packet, p ∈ f.packets) (hdatagram : f.datagrams = datagram.toList ++ datagrams) :
  Inv { f with
    receiver := x
    datagrams := datagrams
    acks := f.acks ++ acks
    taken := f.taken ++ taken }
  := by
  constructor
  · intro hkind hlt
    obtain ⟨tx, rx, htx, hrx, hlink⟩ := h.reliable (hkind.of_takes htakes) hlt
    obtain ⟨rx', hrx', hlink'⟩ := receives_of_takes htakes hkind.2 hpacket hlt hrx hlink
    exact ⟨tx, rx', htx, hrx', hlink'⟩
  · intro hkind
    have hold := h.unreliable (hkind.of_takes htakes)
    rw [hdatagram, ← List.append_assoc, List.append_assoc f.taken] at hold
    apply List.Sublist.trans _ hold
    dsimp only
    rw [List.append_assoc f.taken]
    exact ((sublist_of_takes htakes hkind.2).append_left _).append_right _

/-! ### What the application gets -/

/-- What has been taken from a stream and what waits is, in order, what was sent, from the first message
on if the stream is reliable. -/
theorem Inv.taken (h : f.Inv) {unreliable : Bool} (hkind : f.Kind unreliable)
    (hlt : unreliable = false → f.sent.length < 2 ^ 32) :
  if unreliable then f.taken.Sublist (f.sent.map Prod.fst) else f.taken <+: f.sent.map Prod.fst
  := by
  cases unreliable with
  | false =>
    obtain ⟨tx, rx, -, -, hlink⟩ := h.reliable hkind (hlt rfl)
    rw [if_neg (by decide)]
    apply (List.prefix_append f.taken rx.delivered).trans
    have heq := hlink.receiver.delivered_eq
    dsimp only at heq
    rw [heq]
    apply List.take_prefix
  | true =>
    rw [if_pos rfl]
    apply List.Sublist.trans _ (h.unreliable hkind)
    rw [List.append_assoc]
    apply List.sublist_append_left

/-- When no message of a reliable stream is outstanding, all that were sent have been taken or wait, unless
one of the ends has reset the stream. -/
theorem Inv.complete (h : f.Inv) (hkind : f.Kind false) (hlt : f.sent.length < 2 ^ 32)
    (hsender : ∀ s, f.sender = some s → s.state ≠ .reset ∧
      ∀ tx, s.reliableTx = some tx → tx.outstanding = ∅)
    (hreceiver : ∀ s, f.receiver = some s → s.state ≠ .reset) :
  f.taken ++ waiting f.receiver = f.sent.map Prod.fst
  := by
  obtain ⟨tx, rx, htx, hrx, hlink⟩ := h.reliable hkind hlt
  have hout : tx.outstanding = ∅ := by
    cases hx : f.sender with
    | none =>
      rw [hx] at htx
      apply htx.2
    | some s =>
      rw [hx] at htx
      obtain ⟨hlive, hempty⟩ := hsender s hx
      rcases htx with htx | ⟨hreset, -⟩
      · apply hempty tx htx
      · exact absurd hreset hlive
  have hwaiting : waiting f.receiver = rx.delivered := by
    cases hx : f.receiver with
    | none =>
      rw [hx] at hrx
      obtain ⟨capacity, rfl⟩ := hrx
      rfl
    | some s =>
      rw [hx] at hrx
      rcases hrx with hrx | ⟨hreset, -⟩
      · apply queued_of_reliable (hkind.2 s hx) hrx
      · exact absurd hreset (hreceiver s hx)
  have hheld : ∀ k : U32, k.toNat < f.sent.length → rx.Holds k := by
    intro k hk
    rcases hlink.held k hk with hmem | hholds
    · dsimp only at hmem
      rw [hout] at hmem
      exact absurd hmem (by simp)
    · apply hholds
  have hnext : rx.nextExpected.toNat = f.sent.length := by
    have hle := hlink.receiver.next_le
    rw [List.length_map] at hle
    dsimp only at hle
    apply Nat.le_antisymm hle
    by_contra hnot
    rcases hheld rx.nextExpected (by omega) with hlt' | hmem
    · exact absurd hlt' (BitVec.lt_irrefl _)
    · exact absurd rfl (hlink.windowed _ hmem).1
  have heq := hlink.receiver.delivered_eq
  dsimp only at heq
  rw [hwaiting, heq, hnext]
  apply List.take_of_length_le
  rw [List.length_map]

end StreamFlow

end SmolGnet
