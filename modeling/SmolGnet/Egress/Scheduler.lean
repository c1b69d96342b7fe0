import SmolGnet.Library.RoundRobin
import SmolGnet.Library.TreeMap
import SmolGnet.Dlp.Port
import SmolGnet.Routing.Types

/-!
# The egress scheduler of a router

A `RouterEgressScheduler` holds the packets that wait for a link, a queue for each flow.  The flows
with packets stand in `ready`; a round takes one packet of each flow at the front, as many as the
link has data channels, and hands them to the link.

The scheduler is a round robin: no packet is lost, each flow's packets reach the link in order, and
a flow that waits is overtaken at most once by each other flow.
-/

namespace SmolGnet

open RoundRobin

/-- The identity of a flow. -/
structure EgressFlowId where
  source : GdpAddress
  destination : GdpAddress
  transport : U64
  deriving DecidableEq

instance : Ord EgressFlowId where
  compare := compareLex (compareOn (·.source))
    (compareLex (compareOn (·.destination)) (compareOn (·.transport)))

instance : Std.TransOrd EgressFlowId :=
  inferInstanceAs (Std.TransCmp (compareLex _ (compareLex _ _)))

instance : Std.LawfulEqOrd EgressFlowId where
  eq_of_compare {f g} h := by
    change compareLex _ (compareLex _ _) f g = _ at h
    rw [compareLex_eq_eq, compareLex_eq_eq] at h
    obtain ⟨hsource, hdestination, htransport⟩ := h
    have hs : f.source = g.source := Std.LawfulEqOrd.eq_of_compare hsource
    have hd : f.destination = g.destination := Std.LawfulEqOrd.eq_of_compare hdestination
    have ht : f.transport = g.transport := Std.LawfulEqOrd.eq_of_compare htransport
    cases f
    cases g
    simp_all

/-- The packets of a flow that wait. -/
structure FlowQueue where
  packets : List GdpPacket
  scheduled : Bool
  deriving DecidableEq

/-- The scheduler in front of a link. -/
structure RouterEgressScheduler where
  flows : Std.ExtTreeMap EgressFlowId FlowQueue
  ready : List EgressFlowId
  queuedPackets : ℕ

namespace RouterEgressScheduler

/-- No packet waits. -/
def new : RouterEgressScheduler where
  flows := ∅
  ready := []
  queuedPackets := 0

/-- A packet of a flow is to be sent. -/
def enqueue (s : RouterEgressScheduler) (flow : EgressFlowId) (packet : GdpPacket) :
    RouterEgressScheduler :=
  let entry := s.flows[flow]?.getD { packets := [], scheduled := false }
  let packets := entry.packets ++ [packet]
  if !entry.scheduled then
    { flows := s.flows.insert flow { packets, scheduled := true }
      ready := s.ready ++ [flow]
      queuedPackets := s.queuedPackets + 1 }
  else
    { s with
      flows := s.flows.insert flow { packets, scheduled := entry.scheduled }
      queuedPackets := s.queuedPackets + 1 }

/-- Take the first packet of the flow that was first in `ready`, and whether others remain.
`none` is a panic. -/
def takePacket (s : RouterEgressScheduler) (flow : EgressFlowId) :
    Option (GdpPacket × Bool × RouterEgressScheduler) :=
  match s.flows[flow]? with
  | none => none
  | some entry =>
    match entry.packets with
    | [] => none
    | packet :: packets =>
      some (packet, !packets.isEmpty,
        { s with flows := s.flows.insert flow { packets, scheduled := false } })

/-- A flow of which a packet has been taken goes to the end of `ready`, or it is removed.
`none` is a panic. -/
def reschedule (s : RouterEgressScheduler) (flow : EgressFlowId) (remains : Bool) :
    Option RouterEgressScheduler :=
  if remains then
    match s.flows[flow]? with
    | none => none
    | some entry =>
      some { s with
        flows := s.flows.insert flow { entry with scheduled := true }
        ready := s.ready ++ [flow] }
  else some { s with flows := s.flows.erase flow }

/-- The outcome of a round: its result, the packets that the link has taken, of which the source
keeps only the number, the scheduler and the link. -/
structure Round where
  result : Except Error ℕ
  admitted : List (EgressFlowId × GdpPacket)
  scheduler : RouterEgressScheduler
  link : DlpV01.DlpLink

/-- The rest of a round in which the link takes at most `capacity` further packets.
`none` is a panic. -/
def admitUpTo : ℕ → RouterEgressScheduler → DlpV01.DlpLink → List (EgressFlowId × GdpPacket) →
    Option Round
  | 0, scheduler, link, admitted => some { result := .ok admitted.length, admitted, scheduler, link }
  | capacity + 1, scheduler, link, admitted =>
    match scheduler.ready with
    | [] => some { result := .ok admitted.length, admitted, scheduler, link }
    | flow :: ready =>
      match takePacket { scheduler with ready } flow with
      | none => none
      | some (packet, remains, scheduler) =>
        match link.queueDataPacket packet with
        | (.error err, link) => some { result := .error err, admitted, scheduler, link }
        | (.ok _, link) =>
          match reschedule { scheduler with queuedPackets := scheduler.queuedPackets - 1 } flow
              remains with
          | none => none
          | some scheduler => admitUpTo capacity scheduler link (admitted ++ [(flow, packet)])

/-- How many packets a link takes in a round. -/
def roundCapacity (link : DlpV01.DlpLink) : ℕ :=
  match link.endpoint.vcMode with
  | .two => 1
  | .four => 3

/-- The link takes one packet of each of the flows that are first.  `none` is a panic. -/
def scheduleRound (s : RouterEgressScheduler) (link : DlpV01.DlpLink) : Option Round :=
  if link.endpoint.queuedDataFlits ≠ 0 then
    some { result := .error .invalidState, admitted := [], scheduler := s, link }
  else admitUpTo (roundCapacity link) s link []

/-! ### The scheduler is a round robin -/

/-- The packets of a flow that wait. -/
def waiting (s : RouterEgressScheduler) (flow : EgressFlowId) : List GdpPacket :=
  (s.flows[flow]?.map FlowQueue.packets).getD []

/-- The queues and the ring that the scheduler keeps. -/
def queues (s : RouterEgressScheduler) : Queues EgressFlowId GdpPacket where
  waiting := s.waiting
  ring := s.ready

/-- The ring is in order, every flow that is kept has packets and is scheduled, and the number of
packets is right. -/
structure Consistent (s : RouterEgressScheduler) : Prop where
  ringed : s.queues.Ringed
  scheduled : ∀ (flow : EgressFlowId) (entry : FlowQueue), s.flows[flow]? = some entry →
    entry.scheduled = true ∧ entry.packets ≠ []
  queuedPackets : s.queuedPackets = s.queues.load

variable {s s' : RouterEgressScheduler} {flow : EgressFlowId} {packet : GdpPacket}

theorem consistent_new :
  new.Consistent
  where
  ringed := by
    refine ⟨List.nodup_nil, ?_⟩
    intro flow
    simp [queues, waiting, new]
  scheduled := by
    intro flow entry hentry
    simp [new] at hentry
  queuedPackets := rfl

theorem queues_new :
  new.queues = Queues.empty
  := by
  rw [queues, Queues.empty]
  congr 1

/-- What waits when the entry of one flow is replaced. -/
theorem waiting_insert (flows : Std.ExtTreeMap EgressFlowId FlowQueue) (ready : List EgressFlowId)
    (queuedPackets : ℕ) (flow : EgressFlowId) (entry : FlowQueue) :
  waiting { flows := flows.insert flow entry, ready, queuedPackets }
    = Function.update (waiting { flows, ready, queuedPackets }) flow entry.packets
  := by
  funext flow'
  rw [waiting, TreeMap.getElem?_insert]
  by_cases hflow : flow = flow'
  · subst hflow
    rw [if_pos rfl, Function.update_self]
    rfl
  · rw [if_neg hflow, Function.update_of_ne (Ne.symm hflow)]
    rfl

/-- What waits when the entry of one flow is removed. -/
theorem waiting_erase (flows : Std.ExtTreeMap EgressFlowId FlowQueue) (ready : List EgressFlowId)
    (queuedPackets : ℕ) (flow : EgressFlowId) :
  waiting { flows := flows.erase flow, ready, queuedPackets }
    = Function.update (waiting { flows, ready, queuedPackets }) flow []
  := by
  funext flow'
  rw [waiting, TreeMap.getElem?_erase]
  by_cases hflow : flow = flow'
  · subst hflow
    rw [if_pos rfl, Function.update_self]
    rfl
  · rw [if_neg hflow, Function.update_of_ne (Ne.symm hflow)]
    rfl

/-- To enqueue a packet is to enqueue it in the ring. -/
theorem Consistent.queues_enqueue (h : s.Consistent) (flow : EgressFlowId) (packet : GdpPacket) :
  (s.enqueue flow packet).queues = s.queues.enqueue flow packet
  := by
  rw [enqueue]
  cases hentry : s.flows[flow]? with
  | none =>
    have hempty : s.waiting flow = [] := by rw [waiting, hentry]; rfl
    rw [Option.getD_none]
    dsimp only
    rw [Bool.not_false, if_pos rfl, queues, waiting_insert, Queues.enqueue]
    change _ = Queues.mk (Function.update s.waiting flow (s.waiting flow ++ [packet]))
      (if s.waiting flow = [] then s.ready ++ [flow] else s.ready)
    rw [hempty, if_pos rfl]
    rfl
  | some entry =>
    obtain ⟨hscheduled, hpackets⟩ := h.scheduled flow entry hentry
    have hwaiting : s.waiting flow = entry.packets := by rw [waiting, hentry]; rfl
    rw [Option.getD_some, hscheduled]
    rw [if_neg (by decide), queues, waiting_insert, Queues.enqueue]
    change _ = Queues.mk (Function.update s.waiting flow (s.waiting flow ++ [packet]))
      (if s.waiting flow = [] then s.ready ++ [flow] else s.ready)
    rw [hwaiting, if_neg hpackets]
    rfl

theorem Consistent.enqueue (h : s.Consistent) (flow : EgressFlowId) (packet : GdpPacket) :
  (s.enqueue flow packet).Consistent
  where
  ringed := by
    rw [h.queues_enqueue]
    exact h.ringed.enqueue flow packet
  scheduled flow' entry' hentry' := by
    rw [RouterEgressScheduler.enqueue] at hentry'
    split at hentry'
    · rw [TreeMap.getElem?_insert] at hentry'
      split at hentry'
      · cases hentry'
        exact ⟨rfl, List.append_ne_nil_of_right_ne_nil _ (List.cons_ne_nil packet [])⟩
      · exact h.scheduled flow' entry' hentry'
    · next hscheduled =>
      rw [TreeMap.getElem?_insert] at hentry'
      split at hentry'
      · cases hentry'
        refine ⟨?_, List.append_ne_nil_of_right_ne_nil _ (List.cons_ne_nil packet [])⟩
        simpa using hscheduled
      · exact h.scheduled flow' entry' hentry'
  queuedPackets := by
    rw [h.queues_enqueue, h.ringed.load_enqueue, ← h.queuedPackets, RouterEgressScheduler.enqueue]
    split
    · rfl
    · rfl

/-- The first flow has a packet; it is taken, and the flow is scheduled again if others remain. -/
theorem Consistent.take (h : s.Consistent) {ready : List EgressFlowId}
    (hready : s.ready = flow :: ready) :
  ∃ packet remains s₁ s', takePacket { s with ready } flow = some (packet, remains, s₁) ∧
    reschedule { s₁ with queuedPackets := s₁.queuedPackets - 1 } flow remains = some s' ∧
    Queues.Step s.queues (.admitted flow packet) s'.queues ∧ s'.Consistent
  := by
  have hmem : flow ∈ s.queues.ring := by
    rw [queues, hready]
    exact List.mem_cons_self
  have hwork : s.waiting flow ≠ [] := (h.ringed.mem_ring flow).mp hmem
  cases hentry : s.flows[flow]? with
  | none =>
    rw [waiting, hentry] at hwork
    exact absurd rfl hwork
  | some entry =>
  obtain ⟨packets, scheduled⟩ := entry
  have hwaiting : s.waiting flow = packets := by
    rw [waiting, hentry]
    rfl
  rw [hwaiting] at hwork
  obtain ⟨packet, packets, rfl⟩ := List.exists_cons_of_ne_nil hwork
  have hstep := Queues.Step.admitted (q := s.queues) hready hwaiting
  have hload := h.ringed.load_admit hready hwaiting
  have hringed := h.ringed.step hstep
  rw [← h.queuedPackets] at hload
  cases packets with
  | nil =>
    refine ⟨packet, false, _, _, by rw [takePacket, hentry]; rfl, rfl, ?_⟩
    have hqueues : queues
        { flows := (s.flows.insert flow { packets := [], scheduled := false }).erase flow
          ready
          queuedPackets := s.queuedPackets - 1 }
        = { waiting := Function.update s.queues.waiting flow [], ring := ready } := by
      rw [queues, waiting_erase, waiting_insert, Function.update_idem]
      rfl
    refine ⟨?_, ?_, ?_, ?_⟩
    · rw [hqueues]
      exact hstep
    · rw [hqueues]
      exact hringed
    · intro flow' entry' hentry'
      rw [TreeMap.getElem?_erase, TreeMap.getElem?_insert] at hentry'
      split at hentry'
      · cases hentry'
      · exact h.scheduled flow' entry' hentry'
    · rw [hqueues]
      exact Nat.pred_eq_of_eq_succ hload.symm
  | cons next packets =>
    have hreschedule : reschedule
        { flows := s.flows.insert flow { packets := next :: packets, scheduled := false }
          ready
          queuedPackets := s.queuedPackets - 1 } flow true
        = some
          { flows := (s.flows.insert flow { packets := next :: packets, scheduled := false }).insert
              flow { packets := next :: packets, scheduled := true }
            ready := ready ++ [flow]
            queuedPackets := s.queuedPackets - 1 } := by
      rw [reschedule, if_pos rfl, TreeMap.getElem?_insert, if_pos rfl]
    refine ⟨packet, true, _, _, by rw [takePacket, hentry]; rfl, hreschedule, ?_⟩
    have hqueues : queues
        { flows := (s.flows.insert flow { packets := next :: packets, scheduled := false }).insert
            flow { packets := next :: packets, scheduled := true }
          ready := ready ++ [flow]
          queuedPackets := s.queuedPackets - 1 }
        = { waiting := Function.update s.queues.waiting flow (next :: packets)
            ring := ready ++ [flow] } := by
      rw [queues, waiting_insert, waiting_insert, Function.update_idem]
      rfl
    refine ⟨?_, ?_, ?_, ?_⟩
    · rw [hqueues]
      exact hstep
    · rw [hqueues]
      exact hringed
    · intro flow' entry' hentry'
      rw [TreeMap.getElem?_insert, TreeMap.getElem?_insert] at hentry'
      split at hentry'
      · cases hentry'
        exact ⟨rfl, List.cons_ne_nil next packets⟩
      · exact h.scheduled flow' entry' hentry'
    · rw [hqueues]
      exact Nat.pred_eq_of_eq_succ hload.symm

/-! ### Rounds -/

/-- The link accepts the packets, one after the other. -/
def Accepts : DlpV01.DlpLink → List GdpPacket → DlpV01.DlpLink → Prop
  | link, [], link' => link' = link
  | link, packet :: packets, link' =>
    (∃ n, (link.queueDataPacket packet).1 = .ok n) ∧
      Accepts (link.queueDataPacket packet).2 packets link'

/-- The entries of the log for the packets that a link has taken. -/
def admissions (admitted : List (EgressFlowId × GdpPacket)) :
    List (Entry EgressFlowId GdpPacket) :=
  admitted.map fun taken => .admitted taken.1 taken.2

/-- A round that does not fail serves the flows that are first, at most `capacity` of them, and the
link accepts what is taken. -/
theorem Consistent.admitUpTo (h : s.Consistent) (capacity : ℕ) (link : DlpV01.DlpLink)
    (done : List (EgressFlowId × GdpPacket)) :
  ∃ round admitted, admitUpTo capacity s link done = some round ∧ round.admitted = done ++ admitted ∧
    admitted.length ≤ capacity ∧ ∀ n, round.result = .ok n →
      n = round.admitted.length ∧ round.scheduler.Consistent ∧
      Queues.Run s.queues (admissions admitted) round.scheduler.queues ∧
      Accepts link (admitted.map Prod.snd) round.link
  := by
  induction capacity generalizing s link done with
  | zero =>
    refine ⟨_, [], rfl, (List.append_nil done).symm, Nat.le_refl 0, ?_⟩
    rintro n ⟨⟩
    exact ⟨rfl, h, .nil s.queues, rfl⟩
  | succ capacity ih =>
    rw [RouterEgressScheduler.admitUpTo]
    cases hready : s.ready with
    | nil =>
      refine ⟨_, [], rfl, (List.append_nil done).symm, Nat.zero_le _, ?_⟩
      rintro n ⟨⟩
      exact ⟨rfl, h, .nil s.queues, rfl⟩
    | cons flow ready =>
    obtain ⟨packet, remains, s₁, s', htake, hreschedule, hstep, h'⟩ := h.take hready
    dsimp only
    rw [htake]
    dsimp only
    cases hqueue : link.queueDataPacket packet with
    | mk result link' =>
    cases result with
    | error err => exact ⟨_, [], rfl, (List.append_nil done).symm, Nat.zero_le _, nofun⟩
    | ok flits =>
      dsimp only
      rw [hreschedule]
      obtain ⟨round, admitted, hround, hadmitted, hlength, hok⟩ :=
        ih h' link' (done ++ [(flow, packet)])
      refine ⟨round, (flow, packet) :: admitted, hround, ?_, Nat.succ_le_succ hlength, ?_⟩
      · rw [hadmitted, List.append_assoc, List.singleton_append]
      · intro n hn
        obtain ⟨hn, hconsistent, hrun, haccepts⟩ := hok n hn
        refine ⟨hn, hconsistent, .cons hstep hrun, ?_⟩
        rw [List.map_cons, Accepts, hqueue]
        exact ⟨⟨flits, rfl⟩, haccepts⟩

theorem Consistent.scheduleRound (h : s.Consistent) (link : DlpV01.DlpLink) :
  ∃ round, s.scheduleRound link = some round ∧ ∀ n, round.result = .ok n →
    n = round.admitted.length ∧ n ≤ roundCapacity link ∧ round.scheduler.Consistent ∧
    Queues.Run s.queues (admissions round.admitted) round.scheduler.queues ∧
    Accepts link (round.admitted.map Prod.snd) round.link
  := by
  rw [RouterEgressScheduler.scheduleRound]
  split
  · exact ⟨_, rfl, nofun⟩
  · obtain ⟨round, admitted, hround, hadmitted, hlength, hok⟩ := h.admitUpTo (roundCapacity link) link []
    rw [List.nil_append] at hadmitted
    subst hadmitted
    refine ⟨round, hround, ?_⟩
    intro n hn
    obtain ⟨hlen, hrest⟩ := hok n hn
    exact ⟨hlen, hlen ▸ hlength, hrest⟩

/-! ### Runs -/

/-- The scheduler that calls lead to, none of which fails, and the log of what was enqueued and
what links have taken. -/
inductive Reaches : List (Entry EgressFlowId GdpPacket) → RouterEgressScheduler → Prop
  | new : Reaches [] new
  | enqueue {log : List (Entry EgressFlowId GdpPacket)} {s : RouterEgressScheduler}
      (h : Reaches log s) (flow : EgressFlowId) (packet : GdpPacket) :
      Reaches (log ++ [.enqueued flow packet]) (s.enqueue flow packet)
  | scheduleRound {log : List (Entry EgressFlowId GdpPacket)} {s : RouterEgressScheduler}
      {link : DlpV01.DlpLink} {round : Round} {n : ℕ} (h : Reaches log s)
      (hround : s.scheduleRound link = some round) (hok : round.result = .ok n) :
      Reaches (log ++ admissions round.admitted) round.scheduler

variable {log : List (Entry EgressFlowId GdpPacket)}

/-- The log is what has happened to the queues. -/
theorem Reaches.run (h : Reaches log s) :
  s.Consistent ∧ Queues.Run Queues.empty log s.queues
  := by
  induction h with
  | new =>
    rw [queues_new]
    exact ⟨consistent_new, .nil _⟩
  | enqueue _ flow packet ih =>
    obtain ⟨hconsistent, hrun⟩ := ih
    refine ⟨hconsistent.enqueue flow packet, hrun.append ?_⟩
    rw [hconsistent.queues_enqueue]
    exact .single (.enqueued _ flow packet)
  | @scheduleRound log s link round n _ hround hok ih =>
    obtain ⟨hconsistent, hrun⟩ := ih
    obtain ⟨round', hround', hok'⟩ := hconsistent.scheduleRound link
    rw [hround'] at hround
    cases hround
    obtain ⟨-, -, hconsistent', hrun', -⟩ := hok' n hok
    exact ⟨hconsistent', hrun.append hrun'⟩

/-- The flows that are kept are those of the ring. -/
theorem Consistent.mem_ready (h : s.Consistent) (flow : EgressFlowId) :
  flow ∈ s.ready ↔ flow ∈ s.flows
  := by
  have hmem : flow ∈ s.ready ↔ s.waiting flow ≠ [] := h.ringed.mem_ring flow
  rw [hmem, waiting, Std.ExtTreeMap.mem_iff_isSome_getElem?]
  cases hentry : s.flows[flow]? with
  | none => simp
  | some entry => simpa using (h.scheduled flow entry hentry).2

/-- The packets that wait are those of all the queues. -/
theorem Consistent.sum_packets (h : s.Consistent) :
  s.queuedPackets = (s.flows.values.map (fun entry => entry.packets.length)).sum
  := by
  rw [h.queuedPackets, Queues.load, TreeMap.sum_values s.flows _ h.ringed.nodup h.mem_ready]
  apply congrArg List.sum
  apply List.map_congr_left
  intro flow _
  change (s.waiting flow).length = _
  rw [waiting]
  cases s.flows[flow]? with
  | none => rfl
  | some entry => rfl

/-- Whatever is enqueued and however many rounds links are offered, the flows with packets stand in
`ready`, each once, and none is kept without packets; the number of packets is the sum over the
queues; what links have taken of a flow, and then what waits, is what was enqueued for it; a round
does not panic and takes one packet or three at most, which the link accepts in order; and from when
a flow has a packet until the flow is next served every other flow is served at most once. -/
theorem scheduler_fair (h : Reaches log s) :
  (s.ready.Nodup ∧ ∀ flow, (flow ∈ s.ready ↔ s.waiting flow ≠ []) ∧
      (flow ∈ s.ready ↔ flow ∈ s.flows)) ∧
    s.queuedPackets = (s.flows.values.map (fun entry => entry.packets.length)).sum ∧
    (∀ flow, admittedOf flow log ++ s.waiting flow = enqueuedOf flow log) ∧
    (∀ link, ∃ round, s.scheduleRound link = some round ∧ ∀ n, round.result = .ok n →
      n = round.admitted.length ∧ n ≤ roundCapacity link ∧
      Accepts link (round.admitted.map Prod.snd) round.link) ∧
    ∀ before mid after flow, log = before ++ mid ++ after →
      (admittedOf flow before).length < (enqueuedOf flow before).length →
      admittedOf flow mid = [] → ∀ other, (admittedOf other mid).length ≤ 1
  := by
  obtain ⟨hconsistent, hrun⟩ := h.run
  refine ⟨⟨hconsistent.ringed.nodup, fun flow => ⟨hconsistent.ringed.mem_ring flow,
    hconsistent.mem_ready flow⟩⟩, hconsistent.sum_packets, hrun.fifo, ?_, ?_⟩
  · intro link
    obtain ⟨round, hround, hok⟩ := hconsistent.scheduleRound link
    refine ⟨round, hround, ?_⟩
    intro n hn
    obtain ⟨hlength, hcapacity, -, -, haccepts⟩ := hok n hn
    exact ⟨hlength, hcapacity, haccepts⟩
  · rintro before mid after flow rfl hwork hflow
    obtain ⟨q', hrun, -⟩ := hrun.of_append
    obtain ⟨q, hbefore, hmid⟩ := hrun.of_append
    have hfifo := hbefore.fifo flow
    have hwaiting : q.waiting flow ≠ [] := by
      intro hempty
      rw [hempty, List.append_nil] at hfifo
      rw [hfifo] at hwork
      exact Nat.lt_irrefl _ hwork
    exact (Queues.ringed_empty.run hbefore).overtaking hmid hwaiting hflow

/-- An empty packet. -/
def emptyPacket : GdpPacket where
  header :=
    { version := 1
      packetType := .gts
      sizeClass := .empty
      hopLimit := 16
      addresses := .global ⟨0x1000#64⟩ ⟨0x2000#64⟩ }
  payload := []

/-- `scheduler_fair` at two flows, of which a link with two channels takes the first. -/
theorem scheduler_fair_two :
  ∃ endpoint round, DlpEndpoint.new ⟨⟨true⟩, 0#64, .two, 8#32, 32#32⟩ = .ok endpoint ∧
    ((new.enqueue ⟨⟨1#64⟩, ⟨2#64⟩, 0#64⟩ emptyPacket).enqueue ⟨⟨3#64⟩, ⟨2#64⟩, 0#64⟩
      emptyPacket).scheduleRound { endpoint, state := .up, generation := 0#32 } = some round ∧
    round.admitted = [(⟨⟨1#64⟩, ⟨2#64⟩, 0#64⟩, emptyPacket)] ∧ round.scheduler.ready.Nodup
  := by
  have hround : ∃ endpoint round, DlpEndpoint.new ⟨⟨true⟩, 0#64, .two, 8#32, 32#32⟩ = .ok endpoint ∧
      ((new.enqueue ⟨⟨1#64⟩, ⟨2#64⟩, 0#64⟩ emptyPacket).enqueue ⟨⟨3#64⟩, ⟨2#64⟩, 0#64⟩
        emptyPacket).scheduleRound { endpoint, state := .up, generation := 0#32 } = some round ∧
      round.result = .ok 1 ∧ round.admitted = [(⟨⟨1#64⟩, ⟨2#64⟩, 0#64⟩, emptyPacket)] :=
    ⟨_, _, rfl, rfl, rfl, rfl⟩
  obtain ⟨endpoint, round, hnew, hround, hok, hadmitted⟩ := hround
  have hreach := Reaches.scheduleRound (.enqueue (.enqueue .new _ _) _ _) hround hok
  exact ⟨endpoint, round, hnew, hround, hadmitted, (scheduler_fair hreach).1.1⟩

end RouterEgressScheduler

end SmolGnet
