import SmolGnet.Dlp.Holds
import SmolGnet.Dlp.Port

/-!
# Generations of a link

What a port returns and what it sends since a reset is made of what has arrived and what has been
submitted since then.  A packet that was put together is made of flits of one channel, in the order
in which they arrived; a flit that is sent is a flit of the frame of a packet that was submitted.
-/

namespace SmolGnet

open Octets

/-- The bytes are those of some of the flits, which arrived on the channel `vcid`. -/
def Gathers (flits : List Flit) (vcid : Vcid) (bytes : Bytes) : Prop :=
  ∃ part : List Flit, part.Sublist flits ∧ (∀ flit ∈ part, flit.vcid = vcid) ∧
    bytes = part.flatMap (fun flit => toBeBytes flit.data)

/-- The packet is put together from some of the flits, which arrived on one channel. -/
def PutTogether (cfg : GdpWireConfig) (localPrefix : U64) (flits : List Flit)
    (packet : GdpPacket) : Prop :=
  ∃ vcid bytes n, Gathers flits vcid bytes ∧
    GdpPacket.decode (bytes.take n) cfg localPrefix = .ok packet

theorem Gathers.nil (flits : List Flit) (vcid : Vcid) :
  Gathers flits vcid []
  := ⟨[], List.nil_sublist flits, nofun, rfl⟩

theorem Gathers.mono {flits flits' : List Flit} {vcid : Vcid} {bytes : Bytes}
    (h : Gathers flits vcid bytes) (hflits : flits.Sublist flits') :
  Gathers flits' vcid bytes
  := by
  obtain ⟨part, hpart, hvcid, rfl⟩ := h
  exact ⟨part, hpart.trans hflits, hvcid, rfl⟩

theorem Gathers.push {flits : List Flit} {flit : Flit} {bytes : Bytes}
    (h : Gathers flits flit.vcid bytes) :
  Gathers (flits ++ [flit]) flit.vcid (bytes ++ toBeBytes flit.data)
  := by
  obtain ⟨part, hpart, hvcid, rfl⟩ := h
  refine ⟨part ++ [flit], hpart.append (List.Sublist.refl [flit]), ?_, ?_⟩
  · rw [List.forall_mem_append, List.forall_mem_singleton]
    exact ⟨hvcid, rfl⟩
  · rw [List.flatMap_append, List.flatMap_singleton]

theorem PutTogether.mono {cfg : GdpWireConfig} {localPrefix : U64} {flits flits' : List Flit}
    {packet : GdpPacket} (h : PutTogether cfg localPrefix flits packet)
    (hflits : flits.Sublist flits') :
  PutTogether cfg localPrefix flits' packet
  := by
  obtain ⟨vcid, bytes, n, hbytes, hdecode⟩ := h
  exact ⟨vcid, bytes, n, hbytes.mono hflits, hdecode⟩

namespace DlpEndpoint

variable {e e' : DlpEndpoint} {flits : List Flit}

/-! ### Reception -/

/-- What the channels hold of unfinished packets are some of the flits. -/
def Gathered (flits : List Flit) (e : DlpEndpoint) : Prop :=
  ∀ vcid s, e.rx vcid = some s → Gathers flits vcid s.bytes

theorem Gathered.mono {flits' : List Flit} (h : e.Gathered flits) (hflits : flits.Sublist flits') :
  e.Gathered flits'
  := fun vcid s hs => (h vcid s hs).mono hflits

theorem Gathered.congr (h : e.Gathered flits) (hrx : e'.rx = e.rx) :
  e'.Gathered flits
  := by
  intro vcid s hs
  rw [hrx] at hs
  exact h vcid s hs

theorem Gathered.setRx (h : e.Gathered flits) {vcid : Vcid} {x : Option RxSegment}
    (hx : ∀ s ∈ x, Gathers flits vcid s.bytes) :
  (e.setRx vcid x).Gathered flits
  := by
  intro vcid' s hs
  by_cases hvcid : vcid' = vcid
  · subst hvcid
    rw [setRx_rx_self] at hs
    exact hx s hs
  · rw [setRx_rx_of_ne e x hvcid] at hs
    exact h vcid' s hs

theorem Gathered.releaseSegment (h : e.Gathered flits) (t : LinkTraffic) (n : ℕ) :
  (e.releaseSegment t n).Gathered flits
  := by
  obtain ⟨_, _, _, hreleased⟩ := sameGranted_releaseSegment e t n
  cases t with
  | control => exact h
  | data => exact h

/-- A flit is added to what its channel holds. -/
theorem Gathered.extendSegment (h : e.Gathered flits) {s : RxSegment} {flit : Flit}
    (hs : Gathers flits flit.vcid s.bytes) :
  (e.extendSegment s flit).2.Gathered (flits ++ [flit]) ∧
    ∀ packet, (e.extendSegment s flit).1 = .ok (some packet) →
      PutTogether e.cfg e.localPrefix (flits ++ [flit]) packet
  := by
  have hmore : flits.Sublist (flits ++ [flit]) := List.sublist_append_left flits [flit]
  have hgathered := h.mono hmore
  have hpush : Gathers (flits ++ [flit]) flit.vcid (s.push flit.data).bytes := hs.push
  rw [DlpEndpoint.extendSegment]
  split
  · refine ⟨hgathered.setRx ?_, fun _ hok => by cases hok⟩
    rintro _ ⟨⟩
    exact hs.mono hmore
  split
  · refine ⟨hgathered.setRx ?_, fun _ hok => by cases hok⟩
    rintro _ ⟨⟩
    exact hpush
  · have hcleared : (e.setRx flit.vcid none).Gathered (flits ++ [flit]) := hgathered.setRx (by simp)
    have hreleased := hcleared.releaseSegment (s.push flit.data).traffic (s.push flit.data).receivedFlits
    have hsettings : ∀ t n, ((e.setRx flit.vcid none).releaseSegment t n).cfg = e.cfg ∧
        ((e.setRx flit.vcid none).releaseSegment t n).localPrefix = e.localPrefix := by
      intro t n
      cases t with
      | control => exact ⟨rfl, rfl⟩
      | data => exact ⟨rfl, rfl⟩
    rw [finishSegment]
    obtain ⟨hcfg, hlocal⟩ := hsettings (s.push flit.data).traffic (s.push flit.data).receivedFlits
    split
    · next packet hdecode =>
      rw [hcfg, hlocal] at hdecode
      refine ⟨hreleased, ?_⟩
      rintro _ ⟨⟩
      exact ⟨_, _, _, hpush, hdecode⟩
    · exact ⟨hreleased, fun _ hok => by cases hok⟩

theorem Gathered.receiveSegment (h : e.Gathered flits) (flit : Flit) :
  (e.receiveSegment flit).2.Gathered (flits ++ [flit]) ∧
    ∀ packet, (e.receiveSegment flit).1 = .ok (some packet) →
      PutTogether e.cfg e.localPrefix (flits ++ [flit]) packet
  := by
  rw [DlpEndpoint.receiveSegment]
  split
  · next s hs => exact h.extendSegment (h _ s hs)
  split
  · next s hs =>
    apply h.extendSegment
    rw [DlpEndpoint.openSegment] at hs
    split at hs
    · cases hs
    · cases hs
      apply Gathers.nil
  · exact ⟨(h.releaseSegment _ _).mono (List.sublist_append_left flits [flit]), fun _ hok => by cases hok⟩

/-- A packet that a flit completes is made of flits that have arrived. -/
theorem Gathered.receive (h : e.Gathered flits) (flit : Flit) :
  (e.receive flit).2.Gathered (flits ++ [flit]) ∧
    ∀ packet, (e.receive flit).1 = .ok (some packet) →
      PutTogether e.cfg e.localPrefix (flits ++ [flit]) packet
  := by
  have hgathered := h.mono (List.sublist_append_left flits [flit])
  rw [DlpEndpoint.receive]
  split
  · exact ⟨hgathered, fun _ hok => by cases hok⟩
  split
  · exact ⟨hgathered, fun _ hok => by cases hok⟩
  split
  · exact ⟨hgathered, fun _ hok => by cases hok⟩
  split
  · exact h.receiveSegment flit
  · split
    · next e' htake =>
      rw [takeDataFlit] at htake
      split at htake
      · cases htake
      split at htake
      · cases htake
      cases htake
      exact Gathered.receiveSegment (e := { e with
        dataCreditOutstanding := e.dataCreditOutstanding - 1#32
        dataRxInUse := e.dataRxInUse + 1#32 }) h flit
    · exact ⟨hgathered, fun _ hok => by cases hok⟩

/-- A frame does not touch what the channels hold. -/
theorem rx_receiveFrame (e : DlpEndpoint) (frame : GnetFrame) :
  (e.receiveFrame frame).2.rx = e.rx
  := by
  rw [receiveFrame]
  dsimp only
  repeat' split
  all_goals rfl

/-! ### Transmission -/

/-- The bytes of the frames that wait to be sent satisfy `Q`. -/
def Waits (Q : Bytes → Prop) (e : DlpEndpoint) : Prop :=
  e.Holds (fun _ frame => Q frame.bytes)

theorem lasting_bytes (Q : Bytes → Prop) :
  Lasting (fun _ frame => Q frame.bytes)
  := fun _ _ h _ => h

/-! ### Credit -/

/-- The endpoint has given no credit for data that is left, and none of its room is in use. -/
def Unused (e : DlpEndpoint) : Prop :=
  e.dataCreditOutstanding = 0#32 ∧ e.dataRxInUse = 0#32

theorem Unused.sameReceiver (h : e.Unused) (he : SameReceiver e e') :
  e'.Unused
  := by
  obtain ⟨_, _, _, _, _, rfl⟩ := he
  exact h

/-- Releasing room that is not in use does nothing. -/
theorem saturatingSub_zero (n : U32) :
  saturatingSub 0#32 n = 0#32
  := by
  rw [saturatingSub]
  split
  · rfl
  · bv_omega

theorem Unused.releaseSegment (h : e.Unused) (t : LinkTraffic) (n : ℕ) :
  (e.releaseSegment t n).Unused
  := by
  cases t with
  | control => exact h
  | data =>
    refine ⟨h.1, ?_⟩
    rw [DlpEndpoint.releaseSegment, releaseDataSegment, h.2]
    apply saturatingSub_zero

theorem Unused.receiveSegment (h : e.Unused) (flit : Flit) :
  (e.receiveSegment flit).2.Unused
  := by
  have hextend : ∀ s : RxSegment, (e.extendSegment s flit).2.Unused := by
    intro s
    rw [DlpEndpoint.extendSegment]
    split
    · exact h
    split
    · exact h
    · rw [finishSegment]
      have hrelease := Unused.releaseSegment (e := e.setRx flit.vcid none) h
        (s.push flit.data).traffic (s.push flit.data).receivedFlits
      split
      · exact hrelease
      · exact hrelease
  rw [DlpEndpoint.receiveSegment]
  split
  · apply hextend
  split
  · apply hextend
  · apply h.releaseSegment

/-- A data flit is refused without credit. -/
theorem Unused.receive (h : e.Unused) (flit : Flit) :
  (e.receive flit).2.Unused
  := by
  rw [DlpEndpoint.receive]
  split
  · exact h
  split
  · exact h
  split
  · exact h
  split
  · exact h.receiveSegment flit
  split
  · next htake =>
    rw [takeDataFlit, if_pos h.1] at htake
    cases htake
  · exact h

theorem Unused.receiveBurst (h : e.Unused) (flits : List Flit) (packets : List GdpPacket) :
  (e.receiveBurst flits packets).2.2.Unused
  := by
  induction flits generalizing e packets with
  | nil => exact h
  | cons flit flits ih =>
    have hnext := h.receive flit
    rw [DlpEndpoint.receiveBurst]
    generalize e.receive flit = r at hnext ⊢
    obtain ⟨_ | _ | packet, e'⟩ := r
    · exact hnext
    · exact ih hnext packets
    · have hrest := ih hnext (packets ++ [packet])
      dsimp only
      generalize e'.receiveBurst flits (packets ++ [packet]) = r at hrest ⊢
      obtain ⟨_ | _, _⟩ := r
      · exact hrest
      · exact hrest

/-- A data frame is refused without credit, unless it takes none. -/
theorem Unused.receiveFrame (h : e.Unused) (frame : GnetFrame) :
  (e.receiveFrame frame).2.Unused
  := by
  rw [DlpEndpoint.receiveFrame]
  dsimp only
  split
  · exact h
  split
  · exact h
  split
  · exact h
  split
  · exact h
  split
  · exact h
  split
  · exact h
  split
  · exact h
  next hcount _ =>
  rw [h.1] at hcount
  have hzero : BitVec.ofNat 32 frame.flitLen = 0#32 := by bv_omega
  rw [h.1, h.2, hzero]
  exact ⟨rfl, saturatingSub_zero _⟩

/-- Only giving credit for data makes any of it come to be in use. -/
theorem Unused.step (h : e.Unused) {op : Op} (hop : ∀ count, op ≠ .noteDataCreditGranted count) :
  (e.step op).Unused
  := by
  cases op with
  | noteDataCreditGranted count => exact absurd rfl (hop count)
  | grantDataTxCredit count => exact h
  | grantControlTxCredit count => exact h
  | setLocalPrefix localPrefix => exact h
  | setLinkUp up =>
    cases up with
    | true => exact h
    | false => exact ⟨rfl, rfl⟩
  | queuePacketOn t vcid packet =>
    rw [DlpEndpoint.step]
    cases he : e.queuePacketOn t vcid packet with
    | error err => exact h
    | ok r => exact h.sameReceiver (sameReceiver_queuePacketOn he)
  | queueDataPacket packet => exact h.sameReceiver (sameReceiver_queueDataPacket e packet)
  | pollTxFrame =>
    rw [DlpEndpoint.step]
    cases he : e.pollTxFrame with
    | error err => exact h
    | ok r => exact h.sameReceiver (sameReceiver_pollTxFrame he)
  | pollTxBurst room => exact h.sameReceiver (sameReceiver_pollTxBurst e room)
  | pollTx => exact h.sameReceiver (sameReceiver_pollTx e)
  | receiveFrame frame => exact h.receiveFrame frame
  | receive flit => exact h.receive flit
  | receiveBurst flits => exact h.receiveBurst flits []
  | resetVc vcid =>
    rw [DlpEndpoint.step]
    cases he : e.resetVc vcid with
    | error err => exact h
    | ok e' =>
    rw [DlpEndpoint.resetVc] at he
    split at he
    · cases he
    cases he
    split
    · exact Unused.releaseSegment (e := e.setRx vcid none) h _ _
    · exact h

/-! ### Operations through the link -/

/-- The endpoint is left as it is or takes the operation. -/
def Op.Takes (op : Op) (e e' : DlpEndpoint) : Prop :=
  e' = e ∨ e' = e.step op

end DlpEndpoint

namespace DlpV01.DlpLink

variable (l : DlpLink)

theorem takes_receive (flit : Flit) :
  (DlpEndpoint.Op.receive flit).Takes l.endpoint (l.receive flit).2.endpoint
  := by
  rw [receive]
  cases l.requireUp with
  | error err => exact Or.inl rfl
  | ok _ => exact Or.inr rfl

theorem takes_receiveFrame (frame : GnetFrame) :
  (DlpEndpoint.Op.receiveFrame frame).Takes l.endpoint (l.receiveFrame frame).2.endpoint
  := by
  rw [receiveFrame]
  cases l.requireUp with
  | error err => exact Or.inl rfl
  | ok _ => exact Or.inr rfl

theorem takes_pollTx :
  DlpEndpoint.Op.pollTx.Takes l.endpoint l.pollTx.2.endpoint
  := by
  rw [pollTx]
  cases l.requireUp with
  | error err => exact Or.inl rfl
  | ok _ => exact Or.inr rfl

theorem takes_pollTxBurst (room : ℕ) :
  (DlpEndpoint.Op.pollTxBurst room).Takes l.endpoint (l.pollTxBurst room).2.endpoint
  := by
  rw [pollTxBurst]
  cases l.requireUp with
  | error err => exact Or.inl rfl
  | ok _ => exact Or.inr rfl

theorem takes_pollTxFrame :
  DlpEndpoint.Op.pollTxFrame.Takes l.endpoint
    ((l.pollTxFrame.map Prod.snd).toOption.getD l).endpoint
  := by
  rw [pollTxFrame]
  cases l.requireUp with
  | error err => exact Or.inl rfl
  | ok _ =>
  apply Or.inr
  rw [DlpEndpoint.step]
  cases l.endpoint.pollTxFrame with
  | error err => rfl
  | ok r => rfl

theorem takes_queueDataPacket (packet : GdpPacket) :
  (DlpEndpoint.Op.queueDataPacket packet).Takes l.endpoint (l.queueDataPacket packet).2.endpoint
  := by
  rw [queueDataPacket]
  cases l.requireUp with
  | error err => exact Or.inl rfl
  | ok _ => exact Or.inr rfl

theorem takes_queueControlPacket (packet : GdpPacket) :
  (DlpEndpoint.Op.queuePacketOn .control Vcid.control packet).Takes l.endpoint
    (((l.queueControlPacket packet).map Prod.snd).toOption.getD l).endpoint
  := by
  rw [queueControlPacket, DlpEndpoint.queueControlPacket]
  cases l.requireUp with
  | error err => exact Or.inl rfl
  | ok _ =>
  apply Or.inr
  rw [DlpEndpoint.step]
  cases l.endpoint.queuePacketOn .control Vcid.control packet with
  | error err => rfl
  | ok r => rfl

end DlpV01.DlpLink

namespace DlpGdpPort

/-! ### What a port holds -/

/-- The flits that arrive in a run. -/
def receivedFlits (past : List Action) : List Flit :=
  past.filterMap fun
    | .physicalReceiveFlit flit => some flit
    | _ => none

/-- The frames that arrive in a run. -/
def receivedFrames (past : List Action) : List GnetFrame :=
  past.filterMap fun
    | .physicalReceiveFrame frame => some frame
    | _ => none

/-- The packets that are submitted in a run. -/
def submitted (past : List Action) : List GdpPacket :=
  past.filterMap fun
    | .transmitGdp packet => some packet
    | _ => none

/-- The packet is a frame that has arrived, or is put together from flits that have. -/
def Arrived (cfg : GdpWireConfig) (localPrefix : U64) (past : List Action)
    (packet : GdpPacket) : Prop :=
  (∃ frame ∈ receivedFrames past, GdpPacket.decode frame.bytes cfg localPrefix = .ok packet) ∨
    PutTogether cfg localPrefix (receivedFlits past) packet

/-- The bytes are those of a packet that has been submitted. -/
def Submitted (cfg : GdpWireConfig) (past : List Action) (bytes : Bytes) : Prop :=
  ∃ packet ∈ submitted past, packet.encode cfg = .ok bytes

/-- All that the port holds comes from what has happened in `past`. -/
structure Holds (cfg : GdpWireConfig) (localPrefix : U64) (past : List Action)
    (p : DlpGdpPort) : Prop where
  cfg_eq : p.link.endpoint.cfg = cfg
  localPrefix_eq : p.link.endpoint.localPrefix = localPrefix
  gathered : p.link.endpoint.Gathered (receivedFlits past)
  received : ∀ packet ∈ p.received, Arrived cfg localPrefix past packet
  waits : p.link.endpoint.Waits (Submitted cfg past)

variable {cfg : GdpWireConfig} {localPrefix : U64} {past more : List Action} {p p' : DlpGdpPort}

theorem Arrived.append {packet : GdpPacket} (h : Arrived cfg localPrefix past packet) :
  Arrived cfg localPrefix (past ++ more) packet
  := by
  obtain ⟨frame, hframe, hdecode⟩ | h := h
  · refine Or.inl ⟨frame, ?_, hdecode⟩
    rw [receivedFrames, List.filterMap_append]
    exact List.mem_append_left _ hframe
  · apply Or.inr
    apply h.mono
    rw [receivedFlits, receivedFlits, List.filterMap_append]
    apply List.sublist_append_left

theorem Submitted.append {bytes : Bytes} (h : Submitted cfg past bytes) :
  Submitted cfg (past ++ more) bytes
  := by
  obtain ⟨packet, hpacket, hencode⟩ := h
  refine ⟨packet, ?_, hencode⟩
  rw [submitted, List.filterMap_append]
  exact List.mem_append_left _ hpacket

/-- More may have happened. -/
theorem Holds.append (h : p.Holds cfg localPrefix past) (more : List Action) :
  p.Holds cfg localPrefix (past ++ more)
  where
  cfg_eq := h.cfg_eq
  localPrefix_eq := h.localPrefix_eq
  gathered := by
    apply h.gathered.mono
    rw [receivedFlits, receivedFlits, List.filterMap_append]
    apply List.sublist_append_left
  received packet hpacket := (h.received packet hpacket).append
  waits t frame hframe := (h.waits t frame hframe).append

/-- A reset leaves nothing that came from what happened before it. -/
theorem holds_reset (p : DlpGdpPort) (past : List Action) :
  p.reset.Holds p.link.endpoint.cfg p.link.endpoint.localPrefix past
  := ⟨rfl, rfl, nofun, nofun, DlpEndpoint.holds_of_queues_eq_nil rfl rfl⟩

/-- An operation of the sender takes packets that have been submitted. -/
theorem Holds.sameReceiver (h : p.Holds cfg localPrefix past) {e : DlpEndpoint}
    (he : p.link.endpoint.SameReceiver e) (hwaits : e.Waits (Submitted cfg past)) :
  Holds cfg localPrefix past { p with link := { p.link with endpoint := e } }
  := by
  obtain ⟨_, _, _, _, _, rfl⟩ := he
  exact ⟨h.cfg_eq, h.localPrefix_eq, h.gathered, h.received, hwaits⟩

/-- An operation of the receiver leaves what has arrived. -/
theorem Holds.sameSender (h : p.Holds cfg localPrefix past) {e : DlpEndpoint}
    {received : List GdpPacket} (he : p.link.endpoint.SameSender e)
    (hgathered : e.Gathered (receivedFlits past))
    (hreceived : ∀ packet ∈ received, Arrived cfg localPrefix past packet) :
  Holds cfg localPrefix past { link := { p.link with endpoint := e }, received }
  := by
  obtain ⟨_, _, _, _, rfl⟩ := he
  exact ⟨h.cfg_eq, h.localPrefix_eq, hgathered, hreceived, h.waits⟩

theorem Holds.physicalReceiveFlit (h : p.Holds cfg localPrefix past) (flit : Flit) :
  (p.physicalReceiveFlit flit).2.Holds cfg localPrefix (past ++ [.physicalReceiveFlit flit])
  := by
  have hmore := h.append [.physicalReceiveFlit flit]
  have hflits : receivedFlits (past ++ [.physicalReceiveFlit flit])
      = receivedFlits past ++ [flit] := List.filterMap_append
  obtain ⟨hgathered, hpacket⟩ := h.gathered.receive flit
  rw [← hflits] at hgathered hpacket
  have hsame := DlpEndpoint.sameSender_receive p.link.endpoint flit
  rw [DlpGdpPort.physicalReceiveFlit, DlpV01.DlpLink.receive]
  cases p.link.requireUp with
  | error err => exact hmore
  | ok _ =>
  dsimp only
  generalize p.link.endpoint.receive flit = r at hgathered hpacket hsame ⊢
  obtain ⟨_ | _ | packet, e⟩ := r
  · exact hmore.sameSender hsame hgathered hmore.received
  · exact hmore.sameSender hsame hgathered hmore.received
  · apply hmore.sameSender hsame hgathered
    rw [List.forall_mem_append, List.forall_mem_singleton]
    refine ⟨hmore.received, Or.inr ?_⟩
    rw [← h.cfg_eq, ← h.localPrefix_eq]
    exact hpacket packet rfl

theorem Holds.physicalReceiveFrame (h : p.Holds cfg localPrefix past) (frame : GnetFrame) :
  (p.physicalReceiveFrame frame).2.Holds cfg localPrefix (past ++ [.physicalReceiveFrame frame])
  := by
  have hmore := h.append [.physicalReceiveFrame frame]
  have hframe : frame ∈ receivedFrames (past ++ [.physicalReceiveFrame frame]) := by
    rw [receivedFrames, List.filterMap_append]
    exact List.mem_append_right _ (List.mem_singleton_self frame)
  have hrx := DlpEndpoint.rx_receiveFrame p.link.endpoint frame
  have hsame := DlpEndpoint.sameSender_receiveFrame p.link.endpoint frame
  have hdecode := @DlpEndpoint.decode_of_receiveFrame p.link.endpoint frame
  rw [DlpGdpPort.physicalReceiveFrame, DlpV01.DlpLink.receiveFrame]
  cases p.link.requireUp with
  | error err => exact hmore
  | ok _ =>
  dsimp only
  generalize p.link.endpoint.receiveFrame frame = r at hrx hdecode hsame ⊢
  obtain ⟨_ | packet, e⟩ := r
  · exact hmore.sameSender hsame (hmore.gathered.congr hrx) hmore.received
  · apply hmore.sameSender hsame (hmore.gathered.congr hrx)
    rw [List.forall_mem_append, List.forall_mem_singleton]
    refine ⟨hmore.received, Or.inl ⟨frame, hframe, ?_⟩⟩
    rw [← h.cfg_eq, ← h.localPrefix_eq]
    exact hdecode rfl

/-- The flits that a burst takes are flits of packets that have been submitted. -/
theorem Holds.physicalPollTxBurst (h : p.Holds cfg localPrefix past) (room : ℕ) :
  (p.physicalPollTxBurst room).2.Holds cfg localPrefix past ∧
    ∀ flits, (p.physicalPollTxBurst room).1 = .ok flits → ∀ flit ∈ flits,
      ∃ frame : TxFrame, Submitted cfg past frame.bytes ∧ flit ∈ frame.flits
  := by
  obtain ⟨hwaits, hflits⟩ := DlpEndpoint.Holds.pollTxBurst h.waits (DlpEndpoint.lasting_bytes _) room
  rw [DlpGdpPort.physicalPollTxBurst, DlpV01.DlpLink.pollTxBurst]
  cases p.link.requireUp with
  | error err => exact ⟨h, nofun⟩
  | ok _ =>
    refine ⟨h.sameReceiver (DlpEndpoint.sameReceiver_pollTxBurst _ room) hwaits, ?_⟩
    intro flits hok flit hflit
    obtain ⟨_, hframe⟩ := hflits flits hok flit hflit
    exact hframe

/-- The flit that the link takes is one of a packet that has been submitted. -/
theorem Holds.physicalPollTxFlit (h : p.Holds cfg localPrefix past) :
  p.physicalPollTxFlit.2.Holds cfg localPrefix past ∧
    ∀ flit, p.physicalPollTxFlit.1 = .ok (some flit) →
      ∃ frame : TxFrame, Submitted cfg past frame.bytes ∧ flit ∈ frame.flits
  := by
  obtain ⟨hwaits, hflit⟩ := DlpEndpoint.Holds.pollTx h.waits (DlpEndpoint.lasting_bytes _)
  rw [DlpGdpPort.physicalPollTxFlit, DlpV01.DlpLink.pollTx]
  cases p.link.requireUp with
  | error err => exact ⟨h, nofun⟩
  | ok _ =>
    refine ⟨h.sameReceiver (DlpEndpoint.sameReceiver_pollTx _) hwaits, ?_⟩
    intro flit hok
    obtain ⟨_, hframe⟩ := hflit flit hok
    exact hframe

/-- The frame that the link takes is that of a packet that has been submitted. -/
theorem Holds.physicalPollTxFrame (h : p.Holds cfg localPrefix past) {frame : Option GnetFrame}
    (hpoll : p.physicalPollTxFrame = .ok (frame, p')) :
  p'.Holds cfg localPrefix past ∧ ∀ f ∈ frame, Submitted cfg past f.bytes
  := by
  rw [DlpGdpPort.physicalPollTxFrame, DlpV01.DlpLink.pollTxFrame] at hpoll
  cases hup : p.link.requireUp with
  | error err =>
    rw [hup] at hpoll
    cases hpoll
  | ok _ =>
  cases he : p.link.endpoint.pollTxFrame with
  | error err =>
    rw [hup, he] at hpoll
    cases hpoll
  | ok r =>
    obtain ⟨frame', e⟩ := r
    rw [hup, he] at hpoll
    cases hpoll
    obtain ⟨hwaits, hframe⟩ := DlpEndpoint.Holds.pollTxFrame h.waits he
    refine ⟨h.sameReceiver (DlpEndpoint.sameReceiver_pollTxFrame he) hwaits, ?_⟩
    intro f hf
    obtain ⟨_, front, hfront, rfl⟩ := hframe f hf
    exact hfront

theorem Holds.transmitGdp (h : p.Holds cfg localPrefix past) (packet : GdpPacket) :
  (p.transmitGdp packet).2.Holds cfg localPrefix (past ++ [.transmitGdp packet])
  := by
  have hmore := h.append [.transmitGdp packet]
  have hpacket : packet ∈ submitted (past ++ [.transmitGdp packet]) := by
    rw [submitted, List.filterMap_append]
    exact List.mem_append_right _ (List.mem_singleton_self packet)
  have hnew : ∀ t frame, p.link.endpoint.Enqueues packet t frame →
      Submitted cfg (past ++ [.transmitGdp packet]) frame.bytes := by
    intro t frame hframe
    refine ⟨packet, hpacket, ?_⟩
    rw [← h.cfg_eq]
    exact hframe.encoded
  have hdata : ({ p with link := (p.link.queueDataPacket packet).2 } : DlpGdpPort).Holds cfg
      localPrefix (past ++ [.transmitGdp packet]) := by
    have hwaits := DlpEndpoint.Holds.queueDataPacket hmore.waits hnew
    have hsame := DlpEndpoint.sameReceiver_queueDataPacket p.link.endpoint packet
    rw [DlpV01.DlpLink.queueDataPacket]
    cases p.link.requireUp with
    | error err => exact hmore
    | ok _ => exact hmore.sameReceiver hsame hwaits
  rw [DlpGdpPort.transmitGdp]
  split
  · rw [DlpV01.DlpLink.queueControlPacket]
    cases p.link.requireUp with
    | error err => exact hmore
    | ok _ =>
    cases hqueue : p.link.endpoint.queueControlPacket packet with
    | error err => exact hmore
    | ok r =>
      obtain ⟨n, e⟩ := r
      exact hmore.sameReceiver (DlpEndpoint.sameReceiver_queuePacketOn hqueue)
        (DlpEndpoint.Holds.queuePacketOn hmore.waits hnew hqueue)
  · exact hdata
  · exact hdata

/-! ### What a step does to the endpoint of the link -/

/-- The operation of the endpoint that something at the port comes down to. -/
def Action.op : Action → Option DlpEndpoint.Op
  | .beginRecovery => some (.setLinkUp true)
  | .completeRecovery => none
  | .reset => some (.setLinkUp false)
  | .physicalReceiveFlit flit => some (.receive flit)
  | .physicalReceiveFrame frame => some (.receiveFrame frame)
  | .physicalPollTxFlit => some .pollTx
  | .physicalPollTxBurst room => some (.pollTxBurst room)
  | .physicalPollTxFrame => some .pollTxFrame
  | .grantPeerDataCredit _ count => some (.noteDataCreditGranted count)
  | .takePeerDataCredit _ count => some (.grantDataTxCredit count)
  | .grantPeerControlCredit count => some (.grantControlTxCredit count)
  | .pollGdp => none
  | .transmitGdp packet =>
    some (if packet.header.packetType = .gctl then .queuePacketOn .control Vcid.control packet
      else .queueDataPacket packet)

/-- Both ends of a grant note it. -/
theorem grantPeerDataCredit_ok {receiver sender receiver' sender' : DlpGdpPort} {count : U32}
    (h : receiver.grantPeerDataCredit sender count = .ok (receiver', sender')) :
  (∃ granted, receiver.link.endpoint.noteDataCreditGranted count = .ok granted ∧
    receiver' = { receiver with link := { receiver.link with endpoint := granted } }) ∧
    sender' = { sender with
      link := { sender.link with endpoint := sender.link.endpoint.grantDataTxCredit count } }
  := by
  rw [grantPeerDataCredit, DlpV01.DlpLink.grantPeerDataCredit] at h
  cases hreceiver : receiver.link.requireUp with
  | error err =>
    rw [hreceiver] at h
    cases h
  | ok _ =>
  cases hsender : sender.link.requireUp with
  | error err =>
    rw [hreceiver, hsender] at h
    cases h
  | ok _ =>
  cases hnote : receiver.link.endpoint.noteDataCreditGranted count with
  | error err =>
    rw [hreceiver, hsender, hnote] at h
    cases h
  | ok granted =>
    rw [hreceiver, hsender, hnote] at h
    cases h
    exact ⟨⟨granted, rfl, rfl⟩, rfl⟩

/-- What arrives at the port reaches the link. -/
theorem link_physicalReceiveFlit (p : DlpGdpPort) (flit : Flit) :
  (p.physicalReceiveFlit flit).2.link = (p.link.receive flit).2
  := by
  rw [DlpGdpPort.physicalReceiveFlit]
  generalize p.link.receive flit = r
  obtain ⟨_ | _ | _, _⟩ := r
  · rfl
  · rfl
  · rfl

theorem link_physicalReceiveFrame (p : DlpGdpPort) (frame : GnetFrame) :
  (p.physicalReceiveFrame frame).2.link = (p.link.receiveFrame frame).2
  := by
  rw [DlpGdpPort.physicalReceiveFrame]
  generalize p.link.receiveFrame frame = r
  obtain ⟨_ | _, _⟩ := r
  · rfl
  · rfl

theorem takes_transmitGdp (p : DlpGdpPort) (packet : GdpPacket) :
  ∃ op ∈ Action.op (.transmitGdp packet),
    op.Takes p.link.endpoint (p.transmitGdp packet).2.link.endpoint
  := by
  refine ⟨_, rfl, ?_⟩
  rw [DlpGdpPort.transmitGdp]
  split
  · next hgctl =>
    rw [hgctl]
    have htakes := p.link.takes_queueControlPacket packet
    dsimp only
    generalize p.link.queueControlPacket packet = r at htakes ⊢
    obtain _ | ⟨_, _⟩ := r
    · exact Or.inl rfl
    · exact htakes
  · next hgctl =>
    split
    · contradiction
    · apply p.link.takes_queueDataPacket
    · apply p.link.takes_queueDataPacket

/-- Submitting a packet grants no credit. -/
theorem grants_transmitGdp {packet : GdpPacket} {op : DlpEndpoint.Op} {t : LinkTraffic}
    (hop : op ∈ Action.op (.transmitGdp packet)) :
  op.grants t = false
  := by
  rw [Action.op] at hop
  cases hop
  split
  · rfl
  · rfl

/-- A step leaves the endpoint as it is or takes the operation. -/
theorem endpoint_step (p : DlpGdpPort) (a : Action) :
  (p.step a).link.endpoint = p.link.endpoint ∨
    ∃ op ∈ a.op, op.Takes p.link.endpoint (p.step a).link.endpoint
  := by
  cases a with
  | beginRecovery =>
    rw [DlpGdpPort.step, DlpGdpPort.beginRecovery, DlpV01.DlpLink.beginRecovery]
    split
    · exact Or.inl rfl
    · exact Or.inr ⟨_, rfl, Or.inr rfl⟩
  | completeRecovery =>
    rw [DlpGdpPort.step, DlpGdpPort.completeRecovery, DlpV01.DlpLink.completeRecovery]
    split
    · exact Or.inl rfl
    · exact Or.inl rfl
  | reset => exact Or.inr ⟨_, rfl, Or.inr rfl⟩
  | physicalReceiveFlit flit =>
    refine Or.inr ⟨_, rfl, ?_⟩
    rw [DlpGdpPort.step, link_physicalReceiveFlit]
    apply p.link.takes_receive
  | physicalReceiveFrame frame =>
    refine Or.inr ⟨_, rfl, ?_⟩
    rw [DlpGdpPort.step, link_physicalReceiveFrame]
    apply p.link.takes_receiveFrame
  | physicalPollTxFlit => exact Or.inr ⟨_, rfl, p.link.takes_pollTx⟩
  | physicalPollTxBurst room => exact Or.inr ⟨_, rfl, p.link.takes_pollTxBurst room⟩
  | physicalPollTxFrame =>
    refine Or.inr ⟨_, rfl, ?_⟩
    have htakes := p.link.takes_pollTxFrame
    rw [DlpGdpPort.step, DlpGdpPort.physicalPollTxFrame]
    generalize p.link.pollTxFrame = r at htakes ⊢
    obtain _ | ⟨_, _⟩ := r
    · exact Or.inl rfl
    · exact htakes
  | grantPeerDataCredit sender count =>
    rw [DlpGdpPort.step]
    cases hgrant : p.grantPeerDataCredit sender count with
    | error err => exact Or.inl rfl
    | ok r =>
      obtain ⟨⟨granted, hnote, hp⟩, -⟩ := grantPeerDataCredit_ok hgrant
      refine Or.inr ⟨_, rfl, Or.inr ?_⟩
      rw [DlpEndpoint.step, hnote]
      exact congrArg (fun p => p.link.endpoint) hp
  | takePeerDataCredit receiver count =>
    rw [DlpGdpPort.step]
    cases hgrant : receiver.grantPeerDataCredit p count with
    | error err => exact Or.inl rfl
    | ok r =>
      obtain ⟨-, hp⟩ := grantPeerDataCredit_ok hgrant
      exact Or.inr ⟨_, rfl, Or.inr (congrArg (fun p => p.link.endpoint) hp)⟩
  | grantPeerControlCredit count =>
    rw [DlpGdpPort.step, DlpGdpPort.grantPeerControlCredit, DlpV01.DlpLink.grantPeerControlCredit]
    cases p.link.requireUp with
    | error err => exact Or.inl rfl
    | ok _ => exact Or.inr ⟨_, rfl, Or.inr rfl⟩
  | pollGdp => exact Or.inl rfl
  | transmitGdp packet => exact Or.inr (p.takes_transmitGdp packet)

/-- What every operation of the endpoint keeps, apart from some, is kept by every step that does
not come down to one of these. -/
theorem endpoint_keeps {P : DlpEndpoint → Prop} {a : Action}
    (hop : ∀ op ∈ a.op, ∀ e, P e → P (e.step op)) (h : P p.link.endpoint) :
  P (p.step a).link.endpoint
  := by
  obtain hsame | ⟨op, hmem, hsame | hstep⟩ := endpoint_step p a
  · rwa [hsame]
  · rwa [hsame]
  · rw [hstep]
    exact hop op hmem _ h

/-! ### Runs since a reset -/

/-- Whatever happens, the port holds only what comes from what has happened. -/
theorem Holds.step (h : p.Holds cfg localPrefix past) (a : Action) :
  (p.step a).Holds cfg localPrefix (past ++ [a])
  := by
  have hmore := h.append [a]
  cases a with
  | beginRecovery =>
    rw [DlpGdpPort.step, DlpGdpPort.beginRecovery, DlpV01.DlpLink.beginRecovery]
    split
    · exact hmore
    · exact ⟨h.cfg_eq, h.localPrefix_eq, hmore.gathered, hmore.received, hmore.waits⟩
  | completeRecovery =>
    rw [DlpGdpPort.step, DlpGdpPort.completeRecovery, DlpV01.DlpLink.completeRecovery]
    split
    · exact hmore
    · exact ⟨h.cfg_eq, h.localPrefix_eq, hmore.gathered, hmore.received, hmore.waits⟩
  | reset =>
    rw [← h.cfg_eq, ← h.localPrefix_eq]
    apply holds_reset
  | physicalReceiveFlit flit => exact h.physicalReceiveFlit flit
  | physicalReceiveFrame frame => exact h.physicalReceiveFrame frame
  | physicalPollTxFlit => exact hmore.physicalPollTxFlit.1
  | physicalPollTxBurst room => exact (hmore.physicalPollTxBurst room).1
  | physicalPollTxFrame =>
    rw [DlpGdpPort.step]
    cases hpoll : p.physicalPollTxFrame with
    | error err => exact hmore
    | ok r => exact (hmore.physicalPollTxFrame hpoll).1
  | grantPeerDataCredit sender count =>
    rw [DlpGdpPort.step]
    cases hgrant : p.grantPeerDataCredit sender count with
    | error err => exact hmore
    | ok r =>
      obtain ⟨⟨granted, hnote, hp⟩, -⟩ := grantPeerDataCredit_ok hgrant
      rw [DlpEndpoint.noteDataCreditGranted] at hnote
      split at hnote
      · cases hnote
      cases hnote
      rw [Except.map, Except.toOption, Option.getD, hp]
      exact ⟨h.cfg_eq, h.localPrefix_eq, hmore.gathered, hmore.received, hmore.waits⟩
  | takePeerDataCredit receiver count =>
    rw [DlpGdpPort.step]
    cases hgrant : receiver.grantPeerDataCredit p count with
    | error err => exact hmore
    | ok r =>
      obtain ⟨-, hp⟩ := grantPeerDataCredit_ok hgrant
      rw [Except.map, Except.toOption, Option.getD, hp]
      exact ⟨h.cfg_eq, h.localPrefix_eq, hmore.gathered, hmore.received, hmore.waits⟩
  | grantPeerControlCredit count =>
    rw [DlpGdpPort.step, DlpGdpPort.grantPeerControlCredit, DlpV01.DlpLink.grantPeerControlCredit]
    cases p.link.requireUp with
    | error err => exact hmore
    | ok _ => exact ⟨h.cfg_eq, h.localPrefix_eq, hmore.gathered, hmore.received, hmore.waits⟩
  | pollGdp =>
    refine ⟨h.cfg_eq, h.localPrefix_eq, hmore.gathered, ?_, hmore.waits⟩
    intro packet hpacket
    exact hmore.received packet (List.mem_of_mem_tail hpacket)
  | transmitGdp packet => exact h.transmitGdp packet

/-- Credit is there only where it has been granted. -/
structure Granted (past : List Action) (e : DlpEndpoint) : Prop where
  control : (∀ count, .grantPeerControlCredit count ∉ past) → e.controlTxCredit = 0#32
  data : (∀ receiver count, .takePeerDataCredit receiver count ∉ past) → e.dataTxCredit = 0#32
  outstanding : (∀ sender count, .grantPeerDataCredit sender count ∉ past) → e.Unused

theorem granted_reset (p : DlpGdpPort) (past : List Action) :
  Granted past p.reset.link.endpoint
  := ⟨fun _ => rfl, fun _ => rfl, fun _ => ⟨rfl, rfl⟩⟩

theorem Granted.step (h : Granted past p.link.endpoint) (a : Action) :
  Granted (past ++ [a]) (p.step a).link.endpoint
  where
  control hpast := by
    apply endpoint_keeps (P := fun e => e.controlTxCredit = 0#32)
    · intro op hop e he
      have hgrants : op.grants .control = false := by
        cases a with
        | grantPeerControlCredit n =>
          exact absurd (List.mem_append_right _ (List.mem_singleton_self _)) (hpast n)
        | transmitGdp packet => exact grants_transmitGdp hop
        | completeRecovery | pollGdp => cases hop
        | _ =>
          cases hop
          rfl
      have hle : (e.step op).controlTxCredit.toNat ≤ e.controlTxCredit.toNat :=
        e.txCredit_step hgrants
      bv_omega
    · exact h.control fun count hcount => hpast count (List.mem_append_left _ hcount)
  data hpast := by
    apply endpoint_keeps (P := fun e => e.dataTxCredit = 0#32)
    · intro op hop e he
      have hgrants : op.grants .data = false := by
        cases a with
        | takePeerDataCredit receiver n =>
          exact absurd (List.mem_append_right _ (List.mem_singleton_self _)) (hpast receiver n)
        | transmitGdp packet => exact grants_transmitGdp hop
        | completeRecovery | pollGdp => cases hop
        | _ =>
          cases hop
          rfl
      have hle : (e.step op).dataTxCredit.toNat ≤ e.dataTxCredit.toNat := e.txCredit_step hgrants
      bv_omega
    · exact h.data fun receiver count hcount =>
        hpast receiver count (List.mem_append_left _ hcount)
  outstanding hpast := by
    apply endpoint_keeps (P := DlpEndpoint.Unused)
    · intro op hop e he
      apply he.step
      rintro count rfl
      cases a with
      | grantPeerDataCredit sender n =>
        cases hop
        exact hpast sender count (List.mem_append_right _ (List.mem_singleton_self _))
      | transmitGdp packet =>
        rw [Action.op] at hop
        split at hop
        · cases hop
        · cases hop
      | _ => cases hop
    · exact h.outstanding fun sender count hcount =>
        hpast sender count (List.mem_append_left _ hcount)

/-- What a port gives out, and the credit it has, when `past` has happened since a reset. -/
structure Isolated (past : List Action) (p : DlpGdpPort) : Prop where
  returned : ∀ packet ∈ p.pollGdp.1,
    Arrived p.link.endpoint.cfg p.link.endpoint.localPrefix past packet
  flit : ∀ flit, p.physicalPollTxFlit.1 = .ok (some flit) →
    ∃ frame : TxFrame, Submitted p.link.endpoint.cfg past frame.bytes ∧ flit ∈ frame.flits
  burst : ∀ room flits, (p.physicalPollTxBurst room).1 = .ok flits → ∀ flit ∈ flits,
    ∃ frame : TxFrame, Submitted p.link.endpoint.cfg past frame.bytes ∧ flit ∈ frame.flits
  frame : ∀ frame p', p.physicalPollTxFrame = .ok (some frame, p') →
    Submitted p.link.endpoint.cfg past frame.bytes
  granted : Granted past p.link.endpoint

theorem Holds.isolated (h : p.Holds cfg localPrefix past) (hcredit : Granted past p.link.endpoint) :
  p.Isolated past
  where
  returned packet hpacket := by
    rw [h.cfg_eq, h.localPrefix_eq]
    exact h.received packet (List.mem_of_head? hpacket)
  flit := by
    rw [h.cfg_eq]
    exact h.physicalPollTxFlit.2
  burst room := by
    rw [h.cfg_eq]
    exact (h.physicalPollTxBurst room).2
  frame frame p' hpoll := by
    rw [h.cfg_eq]
    exact (h.physicalPollTxFrame hpoll).2 frame rfl
  granted := hcredit

/-- The settings of the two ports, which channel the next data packet takes, and which generation
their links are in agree. -/
structure SameSettings (p p' : DlpGdpPort) : Prop where
  cfg : p'.link.endpoint.cfg = p.link.endpoint.cfg
  localPrefix : p'.link.endpoint.localPrefix = p.link.endpoint.localPrefix
  vcMode : p'.link.endpoint.vcMode = p.link.endpoint.vcMode
  rxBufferFlits : p'.link.endpoint.rxBufferFlits = p.link.endpoint.rxBufferFlits
  controlWindowFlits : p'.link.endpoint.controlWindowFlits = p.link.endpoint.controlWindowFlits
  nextDataVc : p'.link.endpoint.nextDataVc = p.link.endpoint.nextDataVc
  generation : p'.link.generation = p.link.generation

/-- A reset forgets everything but the settings. -/
theorem SameSettings.reset (h : SameSettings p p') :
  p'.reset = p.reset
  := by
  simp only [DlpGdpPort.reset, DlpV01.DlpLink.reset, DlpEndpoint.setLinkUp, Bool.false_eq_true,
    if_false, h.cfg, h.localPrefix, h.vcMode, h.rxBufferFlits, h.controlWindowFlits, h.nextDataVc,
    h.generation]

/-- Whatever a port does and receives, what it returns and sends since a reset comes from what has
arrived and what has been submitted since, credit is there only where it has been granted since, and
a port that did something else before the reset behaves the same after it. -/
theorem generations_isolated (p : DlpGdpPort) (before after : List Action) :
  (Machine.run step p (before ++ .reset :: after)).Isolated after ∧
    ∀ p', SameSettings (Machine.run step p before) p' →
      Machine.run step p' (.reset :: after) = Machine.run step p (before ++ .reset :: after)
  := by
  rw [Machine.run_append]
  generalize Machine.run step p before = q
  constructor
  · obtain ⟨hholds, hgranted⟩ := @Machine.history_run _ _ step
      (fun past s => s.Holds q.link.endpoint.cfg q.link.endpoint.localPrefix past ∧
        Granted past s.link.endpoint)
      (fun past s a h => ⟨h.1.step a, h.2.step a⟩) _ ⟨holds_reset q [], granted_reset q []⟩ after
    exact hholds.isolated hgranted
  · intro p' hp'
    rw [Machine.run_cons, Machine.run_cons, step, step, hp'.reset]

end DlpGdpPort

end SmolGnet
