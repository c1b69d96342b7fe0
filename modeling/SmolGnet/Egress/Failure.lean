import SmolGnet.Egress.Scheduler
import SmolGnet.Dlp.Carry

/-!
# Rounds that fail

A round that fails should lose nothing: what it has not handed to the link should still wait, and the
scheduler should be in order.  It is so when the round fails at once, because packets still wait at
the link.  When the link refuses a packet, the packet has been taken from its queue and its flow from
`ready`, and neither is put back.
-/

namespace SmolGnet

open RoundRobin

namespace RouterEgressScheduler

variable {s s' : RouterEgressScheduler} {flow : EgressFlowId} {packet : GdpPacket}

/-- After a round every packet that waited has been handed to the link or waits still, in order;
`queuedPackets` is the number of packets that wait; and `ready` has the flows with packets, each
once and scheduled. -/
structure Lossless (s : RouterEgressScheduler) (round : Round) : Prop where
  fifo : ∀ flow, admittedOf flow (admissions round.admitted) ++ round.scheduler.waiting flow
    = s.waiting flow
  queuedPackets : round.scheduler.queuedPackets
    = (round.scheduler.flows.values.map (fun entry => entry.packets.length)).sum
  nodup : round.scheduler.ready.Nodup
  mem_ready : ∀ flow, flow ∈ round.scheduler.ready ↔ round.scheduler.waiting flow ≠ []
  scheduled : ∀ flow ∈ round.scheduler.ready, ∃ entry : FlowQueue,
    round.scheduler.flows[flow]? = some entry ∧ entry.scheduled = true

/-- Packets wait at the link, or it accepts the packets that the round takes. -/
def Admissible (s : RouterEgressScheduler) (link : DlpV01.DlpLink) : Prop :=
  link.endpoint.queuedDataFlits ≠ 0 ∨
    ∃ link', Accepts link (s.queues.upcoming (roundCapacity link)) link'

/-! ### The link -/

/-- A link on a valid channel accepts packets as long as it is up and they have encodings. -/
theorem exists_accepts_iff {link : DlpV01.DlpLink} (ht : link.endpoint.nextDataVc.traffic = .data)
    (hlt : link.endpoint.nextDataVc.val < link.endpoint.vcMode.count) {packets : List GdpPacket} :
  (∃ link', Accepts link packets link') ↔
    ∀ packet ∈ packets, link.state = .up ∧ link.endpoint.linkUp = true ∧
      ∃ bytes, packet.encode link.endpoint.cfg = .ok bytes
  := by
  induction packets generalizing link with
  | nil => exact iff_of_true ⟨link, rfl⟩ nofun
  | cons packet packets ih =>
    have hqueue := DlpEndpoint.queueDataPacket_eq ht hlt packet
    have hvc := DlpEndpoint.succDataVc_spec link.endpoint.vcMode link.endpoint.nextDataVc
    simp only [Accepts, exists_and_left, List.forall_mem_cons]
    rw [DlpV01.DlpLink.queueDataPacket, DlpV01.DlpLink.requireUp]
    by_cases hstate : link.state = .up
    · cases hup : link.endpoint.linkUp with
      | false => simp [hstate, hqueue, hup]
      | true =>
        cases hencode : packet.encode link.endpoint.cfg with
        | error err => simp [hstate, hqueue, hup, hencode]
        | ok bytes =>
          simp only [hstate, hqueue, hup, hencode, if_true]
          rw [ih hvc.1 hvc.2]
          simp
    · simp [hstate]

/-! ### A round -/

/-- The packet that is taken was the first of its flow. -/
theorem waiting_of_takePacket {ready : List EgressFlowId} {remains : Bool}
    (h : takePacket { s with ready } flow = some (packet, remains, s')) :
  s.waiting flow = packet :: s'.waiting flow
  := by
  rw [takePacket] at h
  split at h
  · cases h
  next entry hentry =>
  split at h
  · cases h
  next packets hpackets =>
  cases h
  rw [waiting_insert, Function.update_self, waiting]
  dsimp only at hentry
  rw [hentry, Option.map_some, Option.getD_some, hpackets]

/-- A round succeeds when the link accepts the packets it takes.  Otherwise it fails, and a flow has
lost a packet. -/
theorem Consistent.admitUpTo_cases (h : s.Consistent) (capacity : ℕ) (link : DlpV01.DlpLink)
    (done : List (EgressFlowId × GdpPacket)) :
  ∃ round admitted, RouterEgressScheduler.admitUpTo capacity s link done = some round ∧
    round.admitted = done ++ admitted ∧
    (((∃ n, round.result = .ok n) ∧ ∃ link', Accepts link (s.queues.upcoming capacity) link') ∨
      ((∃ err, round.result = .error err) ∧
        (¬ ∃ link', Accepts link (s.queues.upcoming capacity) link') ∧
        ∃ flow, (admittedOf flow (admissions admitted) ++ round.scheduler.waiting flow).length + 1
          = (s.waiting flow).length))
  := by
  induction capacity generalizing s link done with
  | zero =>
    exact ⟨_, [], rfl, (List.append_nil done).symm, .inl ⟨⟨_, rfl⟩, link, rfl⟩⟩
  | succ capacity ih =>
    rw [RouterEgressScheduler.admitUpTo]
    cases hready : s.ready with
    | nil =>
      refine ⟨_, [], rfl, (List.append_nil done).symm, .inl ⟨⟨_, rfl⟩, link, ?_⟩⟩
      rw [Queues.upcoming_of_ring_nil _ hready]
      rfl
    | cons flow ready =>
    obtain ⟨packet, remains, s₁, s', htake, hreschedule, hstep, h'⟩ := h.take hready
    have hwaiting := waiting_of_takePacket htake
    dsimp only
    rw [htake, hstep.upcoming]
    dsimp only
    cases hqueue : link.queueDataPacket packet with
    | mk result link' =>
    cases result with
    | error err =>
      refine ⟨_, [], rfl, (List.append_nil done).symm, .inr ⟨⟨err, rfl⟩, ?_, flow, ?_⟩⟩
      · rintro ⟨_, ⟨n, hn⟩, -⟩
        rw [hqueue] at hn
        cases hn
      · rw [hwaiting]
        rfl
    | ok flits =>
      dsimp only
      rw [hreschedule]
      dsimp only
      obtain ⟨round, admitted, hround, hadmitted, hcases⟩ := ih h' link' (done ++ [(flow, packet)])
      have haccepts : (∃ link'', Accepts link (packet :: s'.queues.upcoming capacity) link'') ↔
          ∃ link'', Accepts link' (s'.queues.upcoming capacity) link'' := by
        simp only [Accepts, hqueue, Except.ok.injEq, exists_eq', true_and]
      refine ⟨round, (flow, packet) :: admitted, hround, ?_, ?_⟩
      · rw [hadmitted, List.append_assoc, List.singleton_append]
      rw [haccepts]
      obtain hok | ⟨herr, hrefused, flow', hlost⟩ := hcases
      · exact .inl hok
      · refine .inr ⟨herr, hrefused, flow', ?_⟩
        have hfifo : admittedOf flow' [.admitted flow packet] ++ s'.waiting flow'
            = s.waiting flow' ++ [] := hstep.fifo flow'
        have hadmissions : admissions ((flow, packet) :: admitted)
            = [.admitted flow packet] ++ admissions admitted := rfl
        rw [hadmissions, admittedOf_append, List.append_assoc, List.length_append,
          Nat.add_assoc, hlost, ← List.length_append, hfifo, List.append_nil]

/-- A round at a link where packets still wait fails and changes nothing. -/
theorem Consistent.lossless_busy (h : s.Consistent) (link : DlpV01.DlpLink) :
  Lossless s { result := .error .invalidState, admitted := [], scheduler := s, link }
  where
  fifo _ := rfl
  queuedPackets := h.sum_packets
  nodup := h.ringed.nodup
  mem_ready := h.ringed.mem_ring
  scheduled flow hflow := by
    have hmem := (h.mem_ready flow).mp hflow
    obtain ⟨entry, hentry⟩ := Option.isSome_iff_exists.mp
      (Std.ExtTreeMap.mem_iff_isSome_getElem?.mp hmem)
    exact ⟨entry, hentry, (h.scheduled flow entry hentry).1⟩

/-- A round that fails has lost nothing exactly when packets waited at the link or it would have
accepted the packets of the round. -/
theorem Consistent.lossless_iff (h : s.Consistent) (link : DlpV01.DlpLink) :
  ∃ round, s.scheduleRound link = some round ∧
    ((∀ err, round.result = .error err → Lossless s round) ↔ s.Admissible link)
  := by
  rw [RouterEgressScheduler.scheduleRound]
  split
  · next hbusy => exact ⟨_, rfl, iff_of_true (fun _ _ => h.lossless_busy link) (.inl hbusy)⟩
  · next hidle =>
    obtain ⟨round, admitted, hround, hadmitted, hcases⟩ :=
      h.admitUpTo_cases (roundCapacity link) link []
    rw [List.nil_append] at hadmitted
    subst hadmitted
    refine ⟨round, hround, ?_⟩
    obtain ⟨⟨n, hn⟩, haccepts⟩ | ⟨⟨err, herr⟩, hrefused, flow, hlost⟩ := hcases
    · refine iff_of_true ?_ (.inr haccepts)
      rw [hn]
      simp
    · refine iff_of_false ?_ ?_
      · intro hlossless
        rw [(hlossless err herr).fifo flow] at hlost
        exact Nat.succ_ne_self _ hlost
      · rintro (hbusy | haccepts)
        · exact hidle hbusy
        · exact hrefused haccepts

/-! ### Runs -/

/-- A call on the scheduler. -/
inductive Call
  | enqueue (flow : EgressFlowId) (packet : GdpPacket)
  | scheduleRound (link : DlpV01.DlpLink)

/-- The scheduler after a call; after a panic it is not used again. -/
def step (s : RouterEgressScheduler) : Call → RouterEgressScheduler
  | .enqueue flow packet => s.enqueue flow packet
  | .scheduleRound link =>
    match s.scheduleRound link with
    | none => s
    | some round => round.scheduler

/-- The call does not panic, and if it is a round that fails, it loses nothing. -/
def Keeps (s : RouterEgressScheduler) : Call → Prop
  | .enqueue _ _ => True
  | .scheduleRound link =>
    ∃ round, s.scheduleRound link = some round ∧
      ∀ err, round.result = .error err → Lossless s round

/-- If the call is a round, packets wait at the link or it accepts the packets of the round. -/
def Admits (s : RouterEgressScheduler) : Call → Prop
  | .enqueue _ _ => True
  | .scheduleRound link => s.Admissible link

theorem Consistent.keeps_iff (h : s.Consistent) (call : Call) :
  s.Keeps call ↔ s.Admits call
  := by
  cases call with
  | enqueue flow packet => exact Iff.rfl
  | scheduleRound link =>
    obtain ⟨round, hround, hiff⟩ := h.lossless_iff link
    rw [Keeps, Admits, ← hiff, hround]
    simp only [Option.some.injEq, exists_eq_left']

theorem Consistent.step (h : s.Consistent) {call : Call} (hadmits : s.Admits call) :
  (s.step call).Consistent
  := by
  cases call with
  | enqueue flow packet => exact h.enqueue flow packet
  | scheduleRound link =>
    obtain ⟨round, hround, hok⟩ := h.scheduleRound link
    rw [RouterEgressScheduler.step, hround]
    by_cases hbusy : link.endpoint.queuedDataFlits ≠ 0
    · rw [RouterEgressScheduler.scheduleRound, if_pos hbusy] at hround
      cases hround
      exact h
    · obtain ⟨round', _, hround', -, ⟨⟨n, hn⟩, -⟩ | ⟨-, hrefused, -⟩⟩ :=
        h.admitUpTo_cases (roundCapacity link) link []
      · rw [RouterEgressScheduler.scheduleRound, if_neg hbusy, hround'] at hround
        cases hround
        exact (hok n hn).2.2.1
      · exact absurd (hadmits.resolve_left hbusy) hrefused

/-- In a run of a scheduler no round that fails loses anything, exactly as long as every round is at a
link where packets still wait, or that accepts the packets of the round. -/
theorem failed_rounds_lossless_iff (calls : List Call) :
  Machine.Along step Keeps new calls ↔ Machine.Along step Admits new calls
  := by
  apply Machine.along_iff (I := Consistent)
  · intro s call h
    exact h.keeps_iff call
  · intro s call h hadmits
    exact h.step hadmits
  · exact consistent_new

/-- The only packet is offered to a link that is down: the round fails, and the packet is neither at
the link nor with the scheduler, which still counts it. -/
theorem lost_by_down :
  let flow : EgressFlowId := ⟨⟨1#64⟩, ⟨2#64⟩, 0#64⟩
  let s := new.enqueue flow emptyPacket
  ∃ link round, DlpV01.DlpLink.new ⟨⟨true⟩, 0#64, .two, 8#32, 32#32⟩ = .ok link ∧
    s.waiting flow = [emptyPacket] ∧ s.scheduleRound link = some round ∧
    round.result = .error .linkDown ∧ round.link.endpoint.dataTxQueue = [] ∧
    round.scheduler.waiting flow = [] ∧ round.scheduler.ready = [] ∧
    round.scheduler.queuedPackets = 1 ∧ ¬ Machine.Along step Keeps new
      [.enqueue flow emptyPacket, .scheduleRound link]
  := by
  intro flow s
  refine ⟨_, _, rfl, rfl, rfl, rfl, rfl, rfl, rfl, rfl, ?_⟩
  rintro ⟨-, ⟨round, hround, hlossless⟩, -⟩
  cases hround
  have hfifo := (hlossless .linkDown rfl).fifo flow
  cases hfifo

end RouterEgressScheduler

end SmolGnet
