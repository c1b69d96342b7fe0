import SmolGnet.Dlp.Holds
import SmolGnet.Library.Machine

/-!
# Bursts

A burst fills a buffer with flits; `pollTx` sends one flit at a time.  A burst drains the queue of
control frames and then that of data frames, as far as their credit goes, while `pollTx` decides
between them for each flit.  Both come to the same, because a frame leaves its queue with its last
flit: every frame that is queued has a flit left (`Live`), so no frame is taken off without sending.
-/

namespace SmolGnet

open Octets

/-- An encoded packet is not empty. -/
theorem GdpPacket.encode_pos {packet : GdpPacket} {cfg : GdpWireConfig} {bytes : Bytes}
    (h : packet.encode cfg = .ok bytes) :
  0 < bytes.length
  := by
  obtain ⟨p, -, rfl⟩ := exists_canonical_of_encode h 0#64
  rw [GdpPacket.length_wire, GdpHeader.headerLen_eq]
  omega

namespace DlpEndpoint

variable {e e' : DlpEndpoint}

/-! ### Queues in which every frame has a flit left -/

/-- Every frame that is queued has a flit left. -/
def Live (e : DlpEndpoint) : Prop :=
  e.Holds (fun _ frame => 0 < frame.remainingFlits)

theorem exists_nextFlit {frame : TxFrame} (h : 0 < frame.remainingFlits) :
  ∃ flit, frame.nextFlit = some (flit, { frame with flitOffset := frame.flitOffset + 1 })
  := by
  rw [TxFrame.remainingFlits] at h
  rw [TxFrame.nextFlit, if_neg (by omega)]
  exact ⟨_, rfl⟩

/-- From a queue in which every frame has a flit left either nothing is sent, for want of frames or
of credit, or a flit is, and the other flits are sent from what it leaves. -/
theorem emitQueueFlits_cases {queue : List TxFrame} (hlive : ∀ frame ∈ queue, 0 < frame.remainingFlits)
    (credit : U32) :
  (∀ room, emitQueueFlits room queue credit = ([], queue, credit)) ∨
    ∃ flit queue' credit', (∀ frame ∈ queue', 0 < frame.remainingFlits) ∧
      ∀ room, emitQueueFlits (room + 1) queue credit =
        (flit :: (emitQueueFlits room queue' credit').1, (emitQueueFlits room queue' credit').2)
  := by
  by_cases hcredit : credit = 0#32
  · left
    intro room
    cases room with
    | zero => rfl
    | succ room => rw [emitQueueFlits, if_pos hcredit]
  cases queue with
  | nil =>
    left
    intro room
    cases room with
    | zero => rfl
    | succ room => rw [emitQueueFlits, if_neg hcredit]; rfl
  | cons front rest =>
    obtain ⟨hfront, hrest⟩ := List.forall_mem_cons.mp hlive
    obtain ⟨flit, hflit⟩ := exists_nextFlit hfront
    right
    refine ⟨flit, if TxFrame.remainingFlits { front with flitOffset := front.flitOffset + 1 } = 0
      then rest else { front with flitOffset := front.flitOffset + 1 } :: rest, credit - 1#32, ?_, ?_⟩
    · split
      · exact hrest
      · next hleft => exact List.forall_mem_cons.mpr ⟨Nat.pos_of_ne_zero hleft, hrest⟩
    · intro room
      have hdrop : (front :: rest).dropWhile (fun frame => frame.nextFlit.isNone) = front :: rest := by
        rw [List.dropWhile_cons_of_neg]
        rw [hflit]
        simp
      rw [emitQueueFlits, if_neg hcredit, hdrop]
      dsimp only
      rw [hflit]

/-! ### Flits of an endpoint -/

/-- The flits for a buffer with `room` places, control flits first, and the endpoint without
them. -/
def emit (e : DlpEndpoint) (room : ℕ) : List Flit × DlpEndpoint :=
  let control := emitQueueFlits room e.controlTxQueue e.controlTxCredit
  let data := emitQueueFlits (room - control.1.length) e.dataTxQueue e.dataTxCredit
  (control.1 ++ data.1,
    { e with
      controlTxQueue := control.2.1
      controlTxCredit := control.2.2
      dataTxQueue := data.2.1
      dataTxCredit := data.2.2 })

/-- What is reported when no flit is sent. -/
def idle (e : DlpEndpoint) : Except Error (List Flit) :=
  if e.controlTxQueue = [] ∧ e.dataTxQueue = [] then .ok [] else .error .noCredit

theorem pollTxBurst_eq (hup : e.linkUp = true) (room : ℕ) :
  e.pollTxBurst (room + 1) =
    if (e.emit (room + 1)).1 ≠ [] then (.ok (e.emit (room + 1)).1, (e.emit (room + 1)).2)
    else ((e.emit (room + 1)).2.idle, (e.emit (room + 1)).2)
  := by
  have hburst : e.pollTxBurst (room + 1) =
      if (e.emit (room + 1)).1 ≠ [] then (.ok (e.emit (room + 1)).1, (e.emit (room + 1)).2)
      else if (e.emit (room + 1)).2.controlTxQueue = [] ∧ (e.emit (room + 1)).2.dataTxQueue = [] then
        (.ok [], (e.emit (room + 1)).2)
      else (.error .noCredit, (e.emit (room + 1)).2) := by
    rw [pollTxBurst, if_neg (by simp [hup]), if_neg (Nat.succ_ne_zero room)]
    rfl
  rw [hburst, idle]
  split
  · rfl
  · split
    · rfl
    · rfl

/-- An endpoint whose frames have flits left sends nothing at all, or it sends a flit, and the others
from what that leaves. -/
theorem Live.emit_cases (h : e.Live) :
  (∀ room, e.emit room = ([], e)) ∨
    ∃ (flit : Flit) (e' : DlpEndpoint), e'.Live ∧ e'.linkUp = e.linkUp ∧
      ∀ room, e.emit (room + 1) = (flit :: (e'.emit room).1, (e'.emit room).2)
  := by
  obtain ⟨hcontrol, hdata⟩ := holds_iff.mp h
  rcases emitQueueFlits_cases hcontrol e.controlTxCredit with
    hidle | ⟨flit, queue, credit, hqueue, hemit⟩
  · rcases emitQueueFlits_cases hdata e.dataTxCredit with
      hidle' | ⟨flit, queue, credit, hqueue, hemit⟩
    · left
      intro room
      rw [emit, hidle, hidle']
      rfl
    · right
      refine ⟨flit, { e with dataTxQueue := queue, dataTxCredit := credit },
        holds_iff.mpr ⟨hcontrol, hqueue⟩, rfl, ?_⟩
      intro room
      rw [emit, emit, hidle, hidle]
      dsimp only [List.length_nil]
      rw [Nat.sub_zero, Nat.sub_zero, hemit]
      rfl
  · right
    refine ⟨flit, { e with controlTxQueue := queue, controlTxCredit := credit },
      holds_iff.mpr ⟨hqueue, hdata⟩, rfl, ?_⟩
    intro room
    rw [emit, emit, hemit]
    dsimp only
    rw [List.length_cons, Nat.add_sub_add_right]
    rfl

/-- The frames that are left have flits left. -/
theorem Live.emit (h : e.Live) (room : ℕ) :
  (e.emit room).2.Live
  := by
  induction room generalizing e with
  | zero => exact h
  | succ room ih =>
    rcases h.emit_cases with hidle | ⟨flit, e', hlive, -, hemit⟩
    · rw [hidle]
      exact h
    · rw [hemit]
      exact ih hlive

/-! ### The frames of every run have flits left -/

/-- The frame of a packet has a flit. -/
theorem Enqueues.remainingFlits_pos {packet : GdpPacket} {t : LinkTraffic} {frame : TxFrame}
    (h : e.Enqueues packet t frame) :
  0 < frame.remainingFlits
  := by
  have hpos := GdpPacket.encode_pos h.encoded
  rw [TxFrame.remainingFlits, TxFrame.flitLen, h.unsent]
  omega

/-- Every operation leaves frames with flits left. -/
theorem Live.step (h : e.Live) (op : Op) :
  (e.step op).Live
  := Holds.step h (fun _ _ _ hleft => hleft) op (fun _ _ _ _ hframe => hframe.remainingFlits_pos)

/-! ### Polling flit by flit -/

/-- The results of `n` successive polls for one flit, and the endpoint after them. -/
def pollTxs : ℕ → DlpEndpoint → List (Except Error (Option Flit)) × DlpEndpoint
  | 0, e => ([], e)
  | n + 1, e => (e.pollTx.1 :: (pollTxs n e.pollTx.2).1, (pollTxs n e.pollTx.2).2)

/-- A burst and a poll of an endpoint that sends nothing. -/
theorem pollTxBurst_of_idle (hup : e.linkUp = true) (hidle : ∀ room, e.emit room = ([], e))
    (room : ℕ) :
  e.pollTxBurst (room + 1) = (e.idle, e)
  := by
  rw [pollTxBurst_eq hup, hidle, if_neg (by simp)]

theorem pollTx_of_idle (hup : e.linkUp = true) (hidle : ∀ room, e.emit room = ([], e)) :
  e.pollTx = (e.idle.map List.head?, e)
  := by
  rw [pollTx, pollTxBurst_of_idle hup hidle]
  cases e.idle with
  | error err => rfl
  | ok flits => rfl

/-- A poll of an endpoint that sends a flit. -/
theorem pollTx_of_emit (hup : e.linkUp = true) {flit : Flit}
    (hemit : e.emit 1 = ([flit], e')) :
  e.pollTx = (.ok (some flit), e')
  := by
  rw [pollTx, pollTxBurst_eq hup 0, hemit, if_pos (List.cons_ne_nil flit [])]
  rfl

/-- The flits for a buffer are those of as many polls. -/
theorem Live.pollTxs_emit (h : e.Live) (hup : e.linkUp = true) (room : ℕ) :
  pollTxs (e.emit room).1.length e =
    ((e.emit room).1.map (fun flit => .ok (some flit)), (e.emit room).2)
  := by
  induction room generalizing e with
  | zero => rfl
  | succ room ih =>
    rcases h.emit_cases with hidle | ⟨flit, e', hlive, hup', hemit⟩
    · rw [hidle]
      rfl
    · have hpoll : e.pollTx = (.ok (some flit), e') := pollTx_of_emit hup (hemit 0)
      rw [hemit, List.length_cons, pollTxs, hpoll]
      dsimp only
      rw [ih hlive (hup'.trans hup), List.map_cons]

/-- A burst and polls for one flit, from an endpoint whose frames have flits left. -/
theorem Live.burst_eq (h : e.Live) (hup : e.linkUp = true) {room : ℕ} (hroom : 1 ≤ room) :
  (∀ flits, (e.pollTxBurst room).1 = .ok flits →
    pollTxs flits.length e = (flits.map (fun flit => .ok (some flit)), (e.pollTxBurst room).2)) ∧
  ((e.pollTxBurst room).1 = .ok [] → e.pollTx = (.ok none, e) ∧ (e.pollTxBurst room).2 = e) ∧
  ((e.pollTxBurst room).1 = .error .noCredit →
    e.pollTx = (.error .noCredit, e) ∧ (e.pollTxBurst room).2 = e)
  := by
  obtain ⟨room, rfl⟩ := Nat.exists_eq_add_of_le' hroom
  rcases h.emit_cases with hidle | ⟨flit, e', -, -, hemit⟩
  · have hpoll := pollTx_of_idle hup hidle
    rw [pollTxBurst_of_idle hup hidle, idle] at *
    split at hpoll
    · next hempty =>
      rw [if_pos hempty]
      refine ⟨?_, fun _ => ⟨hpoll, rfl⟩, nofun⟩
      rintro _ ⟨⟩
      rfl
    · next hqueued =>
      rw [if_neg hqueued]
      exact ⟨nofun, nofun, fun _ => ⟨hpoll, rfl⟩⟩
  · have hpolls := h.pollTxs_emit hup (room + 1)
    rw [pollTxBurst_eq hup, if_pos (by rw [hemit]; exact List.cons_ne_nil _ _)]
    refine ⟨?_, ?_, nofun⟩
    · rintro _ ⟨⟩
      exact hpolls
    · rw [hemit]
      nofun

/-- After any run of an endpoint that is up, a burst into a buffer that is not empty sends the flits
that as many polls for one flit send, in the same order and with the same effect; and when it sends
none, a poll reports the same, and both leave the endpoint as it is. -/
theorem burst_eq_polls {config : DlpConfig} (hnew : new config = .ok e) (ops : List Op) :
  let e' := Machine.run step e ops
  e'.linkUp = true → ∀ room, 1 ≤ room →
    (∀ flits, (e'.pollTxBurst room).1 = .ok flits →
      pollTxs flits.length e' = (flits.map (fun flit => .ok (some flit)), (e'.pollTxBurst room).2)) ∧
    ((e'.pollTxBurst room).1 = .ok [] → e'.pollTx = (.ok none, e') ∧ (e'.pollTxBurst room).2 = e') ∧
    ((e'.pollTxBurst room).1 = .error .noCredit →
      e'.pollTx = (.error .noCredit, e') ∧ (e'.pollTxBurst room).2 = e')
  := by
  intro e' hup room hroom
  have hlive : e'.Live :=
    Machine.invariant_run (P := Live) (fun _ op h => Live.step h op) (holds_of_new hnew) ops
  exact hlive.burst_eq hup hroom

/-- A control packet of two flits and a data packet wait, with credit for the first and for one flit of
the second. -/
theorem burst_eq_polls_preempted :
  let packet : GdpPacket := ⟨⟨0#8, .gts, .empty, 1#8, .local 1#16 2#16 0#64⟩, []⟩
  let ops : List Op := [.grantDataTxCredit 1#32, .grantControlTxCredit 2#32,
    .queueDataPacket packet, .queuePacketOn .control 0 packet]
  ∃ e, new ⟨⟨true⟩, 0#64, .two, 8#32, 32#32⟩ = .ok e ∧
    ∃ flits, ((Machine.run step e ops).pollTxBurst 8).1 = .ok flits ∧ flits.length = 3 ∧
      (pollTxs 3 (Machine.run step e ops)).1 = flits.map (fun flit => .ok (some flit))
  := by
  intro packet ops
  obtain ⟨e, he⟩ : ∃ e, new ⟨⟨true⟩, 0#64, .two, 8#32, 32#32⟩ = .ok e := ⟨_, rfl⟩
  have hburst : (Machine.run step e ops).linkUp = true ∧
      ((Machine.run step e ops).pollTxBurst 8).1.toOption.map List.length = some 3 := by
    cases he
    decide +kernel
  obtain ⟨hup, hburst⟩ := hburst
  obtain ⟨flits, hsome, hlength⟩ := Option.map_eq_some_iff.mp hburst
  have hflits := mem_toOption.mp hsome
  refine ⟨e, he, flits, hflits, hlength, ?_⟩
  have hpolls := (burst_eq_polls he ops hup 8 (by decide)).1 flits hflits
  rw [hlength] at hpolls
  rw [hpolls]

end DlpEndpoint

end SmolGnet
