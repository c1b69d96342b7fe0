import SmolGnet.Dlp.Credit
import SmolGnet.Endpoint.Ends

/-!
# Two endpoints on a link of flits

Two endpoints attached to each other, and the flits in flight from each to the other.  Credit
for data flits travels in `CREDIT` messages, on the link that it governs: each direction is a
`DlpLink` whose grants are the `CREDIT` messages on their way in the other direction.

A `CREDIT` has to be understood by the end it is for: the two ends use the same channels and the
same wire format, and either the addresses of the link are never written in the local form, or
both ends have the same local context.
-/

namespace SmolGnet

/-! ### The links of the two directions -/

namespace DlpLink

variable {localPrefix : U64} {s : DlpLink}

/-- A link does not depend on what its receiver has to send, nor on what its sender has
received. -/
theorem Inv.of_same (h : s.Inv localPrefix) {a b : DlpEndpoint}
    (ha : DlpEndpoint.SameSender s.a a) (hb : DlpEndpoint.SameReceiver s.b b) :
  Inv localPrefix { s with a, b }
  := by
  obtain ⟨_, _, _, _, rfl⟩ := ha
  obtain ⟨_, _, _, _, _, rfl⟩ := hb
  exact { h with }

/-- Only the receiver reads local prefixes. -/
theorem Inv.setLocalPrefix_a (h : s.Inv localPrefix) (p : U64) :
  Inv localPrefix { s with a := s.a.setLocalPrefix p }
  := { h with }

/-- A log as it is read where the local prefix is `p`. -/
def logWithin (log : LinkTraffic → List GdpPacket) (p : U64) : LinkTraffic → List GdpPacket :=
  fun t => (log t).map (·.within p)

/-- In another local context the same frames carry the same packets, as they are read
there. -/
theorem carrying_within {cfg : GdpWireConfig} {mode : VcMode} {t : LinkTraffic}
    {rx : Vcid → Option RxSegment} {left : List Flit} {queued yielded : List GdpPacket}
    {frames : List (TxFrame × GdpPacket)} {n : ℕ}
    (h : Carrying cfg localPrefix mode t rx left queued yielded frames n) (p : U64) :
  Carrying cfg p mode t rx left (queued.map (·.within p)) (yielded.map (·.within p))
    (frames.map (fun f => (f.1, f.2.within p))) n
  := by
  constructor
  · rw [List.forall_mem_map]
    intro f hf
    obtain ⟨hcanonical, hbytes⟩ := h.carries f hf
    exact ⟨hcanonical.within p, hbytes.trans (GdpPacket.wire_within f.2 p cfg).symm⟩
  · rw [List.forall_mem_map]
    exact h.channel
  · rw [← h.logs, List.map_append, List.map_map, List.map_map]
    rfl
  · rw [h.left_eq, List.flatMap_map]
  · intro f hf
    rw [List.head?_map] at hf
    obtain ⟨g, hg, rfl⟩ := Option.mem_map.mp hf
    exact h.started g hg
  · intro hnil
    exact h.idle (List.map_eq_nil_iff.mp hnil)
  · intro vcid hvcid
    rw [h.held vcid hvcid]
    cases frames with
    | nil => rfl
    | cons f frames => rfl

/-- The receiver of a link changes its local context. -/
theorem Inv.setLocalPrefix_b (h : s.Inv localPrefix) (p : U64) :
  Inv (p &&& ~~~0xffff#64) { s with
    b := s.b.setLocalPrefix p
    queued := logWithin s.queued (p &&& ~~~0xffff#64)
    yielded := logWithin s.yielded (p &&& ~~~0xffff#64) }
  := by
  obtain ⟨framesC, n, hcontrol⟩ := h.control
  obtain ⟨framesD, hdata⟩ := h.data
  exact { h with
    local_prefix := rfl
    control := ⟨_, n, carrying_within hcontrol _⟩
    data := ⟨_, carrying_within hdata _⟩ }

end DlpLink

/-! ### Packets on their way -/

/-- The control packets that have been queued and not yielded. -/
def underWay (queued yielded : LinkTraffic → List GdpPacket) : List GdpPacket :=
  (queued .control).drop (yielded .control).length

/-- The credit in a list of packets. -/
def credits (packets : List GdpPacket) : List U32 :=
  packets.filterMap creditOf

namespace DlpLink

variable {localPrefix : U64} {s : DlpLink}

/-- What has been yielded are the first of the packets that have been queued. -/
theorem Inv.underWay_eq (h : s.Inv localPrefix) :
  s.yielded .control ++ underWay s.queued s.yielded = s.queued .control
  := by
  obtain ⟨frames, n, hcontrol⟩ := h.control
  rw [underWay, ← hcontrol.logs, List.drop_left]

theorem Inv.canonical_of_mem_underWay (h : s.Inv localPrefix) :
  ∀ packet ∈ underWay s.queued s.yielded, packet.Canonical localPrefix
  := by
  obtain ⟨frames, n, hcontrol⟩ := h.control
  intro packet hpacket
  rw [underWay, ← hcontrol.logs, List.drop_left] at hpacket
  obtain ⟨f, hf, rfl⟩ := List.mem_map.mp hpacket
  rw [← h.local_prefix]
  exact (hcontrol.carries f hf).canonical

theorem Inv.underWay_append (h : s.Inv localPrefix) (packet : GdpPacket) :
  underWay (append s.queued .control packet) s.yielded
    = underWay s.queued s.yielded ++ [packet]
  := by
  have hlen := congrArg List.length h.underWay_eq
  rw [List.length_append] at hlen
  rw [underWay, append_self, List.drop_append_of_le_length (by omega)]
  rfl

end DlpLink

theorem underWay_append_data (queued yielded : LinkTraffic → List GdpPacket)
    (packet : GdpPacket) :
  underWay (DlpLink.append queued .data packet) yielded = underWay queued yielded
  := by
  rw [underWay, DlpLink.append_of_ne queued packet (by nofun)]
  rfl

theorem underWay_within (queued yielded : LinkTraffic → List GdpPacket) (p : U64) :
  underWay (DlpLink.logWithin queued p) (DlpLink.logWithin yielded p)
    = (underWay queued yielded).map (·.within p)
  := by
  rw [underWay, DlpLink.logWithin, DlpLink.logWithin, List.length_map, ← List.map_drop]
  rfl

theorem creditOf_within (packet : GdpPacket) (p : U64) :
  creditOf (packet.within p) = creditOf packet
  := creditOf_congr (packet.packetType_within p) (packet.payload_within p)

theorem credits_within (packets : List GdpPacket) (p : U64) :
  credits (packets.map (·.within p)) = credits packets
  := by
  rw [credits, List.filterMap_map]
  congr 1
  funext packet
  apply creditOf_within

/-! ### The pair of endpoints -/

/-- Two endpoints, and the flits in flight from the near one and those in flight to it. -/
structure FlitLink (T : Transport) where
  near : LinkedEndpoint T
  far : LinkedEndpoint T
  sent : List Flit
  arriving : List Flit

namespace FlitLink

variable {T : Transport}

/-- What can happen at one end. -/
inductive LocalAction (T : Transport) where
  | app (op : T.Op)
  | sendGctl (remote : GdpAddress) (msg : GctlMessage) (sizeClass : SizeClass)
  | solicitRouter (transactionId : U32)
  | enableAddressAuthority (config : AddressAuthorityConfig)
  | takeEchoReply (transactionId : U32)
  | takeGctl
  | grantControlTxCredit (count : U32)
  | pollTxFlit
  | pollTxBurst (room : ℕ)
  | receiveFlit (now : U64)

/-- What can happen. -/
inductive Action (T : Transport) where
  | near (action : LocalAction T)
  | far (action : LocalAction T)

/-- The link as the other end sees it. -/
def swap (s : FlitLink T) : FlitLink T where
  near := s.far
  far := s.near
  sent := s.arriving
  arriving := s.sent

/-- The near end is polled for a flit. -/
def pollTxFlit (s : FlitLink T) : FlitLink T :=
  match s.near.pollTxFlit with
  | (.ok flit, near) => { s with near, sent := s.sent ++ flit.toList }
  | (.error _, near) => { s with near }

/-- The link layer of the near end is polled with a buffer of `room` flits. -/
def pollTxBurst (s : FlitLink T) (room : ℕ) : FlitLink T :=
  match s.near.dlp.pollTxBurst room with
  | (.ok flits, dlp) => { s with near := { s.near with dlp }, sent := s.sent ++ flits }
  | (.error _, dlp) => { s with near := { s.near with dlp } }

/-- The first flit in flight to the near end arrives. -/
def receiveFlit (s : FlitLink T) (now : U64) : FlitLink T :=
  match s.arriving with
  | [] => s
  | flit :: arriving => { s with near := (s.near.receiveFlit flit now).2, arriving }

/-- The link after something has happened at the near end. -/
def actNear (s : FlitLink T) : LocalAction T → FlitLink T
  | .app op => { s with near := (s.near.app op).2 }
  | .sendGctl remote msg sizeClass => { s with near := (s.near.sendGctl remote msg sizeClass).2 }
  | .solicitRouter transactionId => { s with near := (s.near.solicitRouter transactionId).2 }
  | .enableAddressAuthority config => { s with near := s.near.enableAddressAuthority config }
  | .takeEchoReply transactionId => { s with near := (s.near.takeEchoReply transactionId).2 }
  | .takeGctl => { s with near := s.near.takeGctl.2 }
  | .grantControlTxCredit count =>
    { s with near := { s.near with dlp := s.near.dlp.grantControlTxCredit count } }
  | .pollTxFlit => s.pollTxFlit
  | .pollTxBurst room => s.pollTxBurst room
  | .receiveFlit now => s.receiveFlit now

/-- The link after something has happened at one of its ends. -/
def step (s : FlitLink T) : Action T → FlitLink T
  | .near action => s.actNear action
  | .far action => (s.swap.actNear action).swap

/-- The two ends are attached to each other, each with the control window of the other. -/
def attached (a b : LinkedEndpoint T) : FlitLink T where
  near := (a.linkAttached b.linkLocalAddress b.dlp.controlWindowFlits).2
  far := (b.linkAttached a.linkLocalAddress a.dlp.controlWindowFlits).2
  sent := []
  arriving := []

/-- The application sends no `CREDIT`. -/
def LocalAction.NoCredit : LocalAction T → Prop
  | .sendGctl _ msg _ => msg.messageType ≠ .credit
  | _ => True

/-- The application sends no `CREDIT` at the end where the action happens. -/
def Action.NoCredit : Action T → Prop
  | .near action => action.NoCredit
  | .far action => action.NoCredit

/-! ### Both ends understand each other -/

/-- A `CREDIT` is read as it was written: the addresses of the link are written in the global
form only, or both ends have the local context `context`. -/
def Readable (context : Option U64) (s : FlitLink T) : Prop :=
  match context with
  | none =>
    ¬ s.near.WritesLocal s.near.linkLocalAddress s.far.linkLocalAddress ∧
      ¬ s.far.WritesLocal s.far.linkLocalAddress s.near.linkLocalAddress
  | some p => s.near.contextPrefix = p ∧ s.far.contextPrefix = p

instance (context : Option U64) (s : FlitLink T) : Decidable (Readable context s) :=
  match context with
  | none => inferInstanceAs (Decidable (¬ _ ∧ ¬ _))
  | some _ => inferInstanceAs (Decidable (_ = _ ∧ _ = _))

/-- One direction as a link of its own. -/
def forward (s : FlitLink T) (grants : List U32) (queued yielded : LinkTraffic → List GdpPacket) :
    DlpLink where
  a := s.near.dlp
  b := s.far.dlp
  flits := s.sent
  grants := grants
  queued := queued
  yielded := yielded
  errors := []

/-- The packets on their way from the near end are carried by the link of this direction; every
`CREDIT` among them is for the far end. -/
structure Direction (context : Option U64) (s : FlitLink T) (grants : List U32)
    (queued yielded : LinkTraffic → List GdpPacket) : Prop where
  link : (s.forward grants queued yielded).Inv s.far.dlp.localPrefix
  peer : s.near.peerLinkLocal = some s.far.linkLocalAddress
  context_eq : s.near.dlp.localPrefix = s.near.contextPrefix
  plain : ∀ packet ∈ queued .data, creditOf packet = none
  addressed : ∀ packet ∈ underWay queued yielded, creditOf packet ≠ none →
    packet.header.destination = s.far.linkLocalAddress ∧
      (packet.header.addresses.form = .global ∨ context ≠ none)

/-- The invariant: the grants of either direction are the `CREDIT` messages on their way in the
other direction. -/
def Inv (context : Option U64) (s : FlitLink T) : Prop :=
  ∃ queued yielded queued' yielded',
    Direction context s (credits (underWay queued' yielded')) queued yielded ∧
    Direction context s.swap (credits (underWay queued yielded)) queued' yielded'

section Step

variable {context : Option U64} {s : FlitLink T} {grants : List U32}
  {queued yielded : LinkTraffic → List GdpPacket} {d : DlpEndpoint}

theorem Readable.swap (h : Readable context s) :
  Readable context s.swap
  := by
  cases context with
  | none => exact ⟨h.2, h.1⟩
  | some p => exact ⟨h.2, h.1⟩

theorem Inv.swap (h : Inv context s) :
  Inv context s.swap
  := by
  obtain ⟨queued, yielded, queued', yielded', hforward, hback⟩ := h
  exact ⟨queued', yielded', queued, yielded, hback, hforward⟩

/-- The near end with another end of the link. -/
def withDlp (s : FlitLink T) (dlp : DlpEndpoint) : FlitLink T :=
  { s with near := { s.near with dlp } }

theorem Direction.sameSender (h : Direction context s grants queued yielded)
    (hd : DlpEndpoint.SameSender s.near.dlp d) :
  Direction context (s.withDlp d) grants queued yielded
  := by
  have hlink := h.link.of_same hd (.refl _)
  obtain ⟨_, _, _, _, rfl⟩ := hd
  exact { h with link := hlink }

theorem Direction.sameReceiver (h : Direction context s.swap grants queued yielded)
    (hd : DlpEndpoint.SameReceiver s.near.dlp d) :
  Direction context (s.withDlp d).swap grants queued yielded
  := by
  have hlink := h.link.of_same (.refl _) hd
  obtain ⟨_, _, _, _, _, rfl⟩ := hd
  exact { h with link := hlink }

/-- A packet is queued as it is read at the other end. -/
theorem queuePacketOn_within {packet : GdpPacket} {p : U64} (h : packet.Canonical p)
    (t : LinkTraffic) (vcid : Vcid) (p' : U64) :
  d.queuePacketOn t vcid (packet.within p') = d.queuePacketOn t vcid packet
  := by
  have hencode : (packet.within p').encode d.cfg = packet.encode d.cfg := by
    rw [GdpPacket.encode_of_canonical (h.within p'), GdpPacket.encode_of_canonical h,
      GdpPacket.wire_within]
  rw [DlpEndpoint.queuePacketOn, DlpEndpoint.queuePacketOn, hencode]

theorem Direction.underWay_append (h : Direction context s grants queued yielded)
    (packet : GdpPacket) :
  underWay (DlpLink.append queued .control packet) yielded = underWay queued yielded ++ [packet]
  := h.link.underWay_append packet

theorem Direction.queueControl (h : Direction context s grants queued yielded)
    {packet : GdpPacket} {p : U64} {n : ℕ} (hp : packet.Canonical p)
    (hqueue : s.near.dlp.queueControlPacket packet = .ok (n, d))
    (haddressed : creditOf packet ≠ none →
      (packet.within s.far.dlp.localPrefix).header.destination = s.far.linkLocalAddress ∧
        ((packet.within s.far.dlp.localPrefix).header.addresses.form = .global ∨
          context ≠ none)) :
  Direction context (s.withDlp d) grants
    (DlpLink.append queued .control (packet.within s.far.dlp.localPrefix)) yielded
  := by
  have hqueue' : s.near.dlp.queueControlPacket (packet.within s.far.dlp.localPrefix)
      = .ok (n, d) := (queuePacketOn_within hp _ _ _).trans hqueue
  have hlink := h.link.queueControl (hp.within s.far.dlp.localPrefix)
  rw [DlpLink.queueControl, show (s.forward grants queued yielded).a.queueControlPacket
    (packet.within s.far.dlp.localPrefix) = _ from hqueue'] at hlink
  obtain ⟨_, _, _, _, _, rfl⟩ := DlpEndpoint.sameReceiver_queuePacketOn hqueue
  refine { h with link := hlink, plain := ?_, addressed := ?_ }
  · rw [DlpLink.append_of_ne _ _ (by simp)]
    exact h.plain
  · rw [h.underWay_append, List.forall_mem_append, List.forall_mem_singleton, creditOf_within]
    exact ⟨h.addressed, haddressed⟩

theorem Direction.queueData (h : Direction context s grants queued yielded)
    {packet : GdpPacket} {p : U64} (hp : packet.Canonical p) (hplain : creditOf packet = none) :
  ∃ queued', Direction context (s.withDlp (s.near.dlp.queueDataPacket packet).2) grants queued'
    yielded ∧ underWay queued' yielded = underWay queued yielded
  := by
  use DlpLink.append queued .data (packet.within s.far.dlp.localPrefix)
  have hqueue' : s.near.dlp.queueDataPacket (packet.within s.far.dlp.localPrefix)
      = s.near.dlp.queueDataPacket packet := by
    rw [DlpEndpoint.queueDataPacket, DlpEndpoint.queueDataPacket]
    dsimp only
    rw [queuePacketOn_within hp]
  have hlink := h.link.queueData (hp.within s.far.dlp.localPrefix)
  obtain ⟨n, hok⟩ := DlpEndpoint.queueDataPacket_of_canonical h.link.a_up h.link.next_vc.1
    h.link.next_vc.2 hp
  have hok' : s.near.dlp.queueDataPacket packet
      = (.ok n, (s.near.dlp.queueDataPacket packet).2) := by
    rw [show s.near.dlp.queueDataPacket packet = _ from hok]
  rw [DlpLink.queueData, show (s.forward grants queued yielded).a.queueDataPacket
    (packet.within s.far.dlp.localPrefix) = _ from hqueue'.trans hok'] at hlink
  obtain ⟨_, _, _, _, _, hd⟩ := s.near.dlp.sameReceiver_queueDataPacket packet
  rw [hd] at hlink ⊢
  refine ⟨{ h with link := hlink, plain := ?_, addressed := ?_ }, ?_⟩
  · rw [DlpLink.append_self, List.forall_mem_append, List.forall_mem_singleton, creditOf_within]
    exact ⟨h.plain, hplain⟩
  · rw [underWay_append_data]
    exact h.addressed
  · apply underWay_append_data

/-- The near end notes credit that it gives. -/
theorem Direction.noteCredit (h : Direction context s.swap grants queued yielded) {grant : U32}
    (hnote : s.near.dlp.noteDataCreditGranted grant = .ok d) :
  Direction context (s.withDlp d).swap (grants ++ [grant]) queued yielded
  := by
  have hlink := h.link.noteCredit grant
  rw [DlpLink.noteCredit, show (s.swap.forward grants queued yielded).b.noteDataCreditGranted grant
    = _ from hnote] at hlink
  rw [DlpEndpoint.noteDataCreditGranted] at hnote
  split at hnote
  · cases hnote
  · cases hnote
    exact { h with link := hlink }

/-! ### The moves of the near end -/

/-- Only the settings and the link of the near end matter. -/
theorem Inv.of_settings (h : Inv context (s.withDlp d)) {e : LinkedEndpoint T}
    (hconfig : e.config = s.near.config) (hlocal : e.linkLocalAddress = s.near.linkLocalAddress)
    (hpeer : e.peerLinkLocal = s.near.peerLinkLocal) (hdlp : e.dlp = d) :
  Inv context { s with near := e }
  := by
  subst hdlp
  obtain ⟨queued, yielded, queued', yielded', hforward, hback⟩ := h
  refine ⟨queued, yielded, queued', yielded', ?_, ?_⟩
  · refine { hforward with peer := ?_, context_eq := ?_ }
    · exact hpeer.trans hforward.peer
    · apply hforward.context_eq.trans
      rw [LinkedEndpoint.contextPrefix, LinkedEndpoint.contextPrefix, hconfig]
      rfl
  · refine { hback with peer := ?_, addressed := ?_ }
    · exact hback.peer.trans (congrArg some hlocal.symm)
    · intro packet hpacket hcredit
      obtain ⟨hdestination, hform⟩ := hback.addressed packet hpacket hcredit
      exact ⟨hdestination.trans hlocal.symm, hform⟩

theorem Inv.control (h : Inv context s) {source remote : GdpAddress} {msg : GctlMessage}
    {sizeClass : Option SizeClass} {e : LinkedEndpoint T} (hmsg : msg.messageType ≠ .credit)
    (hsend : s.near.sendGctlFrom source remote msg sizeClass = .ok e) :
  Inv context { s with near := e }
  := by
  obtain ⟨packet, hholds, n, hqueue, heq⟩ := LinkedEndpoint.sendGctlFrom_eq_ok hsend
  obtain ⟨padding, hdecode⟩ := hholds.payload
  have hcredit : creditOf packet = none := creditOf_of_messageType hdecode hmsg
  obtain ⟨queued, yielded, queued', yielded', hforward, hback⟩ := h
  have hforward' := hforward.queueControl hholds.canonical hqueue (fun hne => absurd hcredit hne)
  have hback' := hback.sameReceiver (DlpEndpoint.sameReceiver_queuePacketOn hqueue)
  have hcredits : credits (underWay queued yielded) = credits (underWay
      (DlpLink.append queued .control (packet.within s.far.dlp.localPrefix)) yielded) := by
    rw [hforward.underWay_append, credits, credits, List.filterMap_append, List.filterMap_cons,
      creditOf_within, hcredit, List.filterMap_nil, List.append_nil]
  rw [hcredits] at hback'
  rw [heq]
  exact ⟨_, _, _, _, hforward', hback'⟩

/-- A `CREDIT` is read at the other end as it was written. -/
theorem Direction.readable {grants' : List U32}
    {queued' yielded' : LinkTraffic → List GdpPacket}
    (h : Direction context s grants queued yielded)
    (hback : Direction context s.swap grants' queued' yielded') (hr : Readable context s)
    {msg : GctlMessage} {packet : GdpPacket}
    (hholds : s.near.Holds s.near.linkLocalAddress s.far.linkLocalAddress msg packet) :
  packet.within s.far.dlp.localPrefix = packet ∧
    (packet.header.addresses.form = .global ∨ context ≠ none)
  := by
  cases context with
  | none =>
    have hform := hholds.form.resolve_right hr.1
    exact ⟨GdpPacket.within_of_global hform _, .inl hform⟩
  | some p =>
    have hcontext : s.far.dlp.localPrefix = s.near.contextPrefix :=
      hback.context_eq.trans (hr.2.trans hr.1.symm)
    rw [hcontext]
    exact ⟨hholds.canonical.within_eq, .inr nofun⟩

theorem Inv.credit (h : Inv context s) (hr : Readable context s) {peer : GdpAddress}
    {transactionId grant : U32} (hpeer : ∀ p ∈ s.near.peerLinkLocal, peer = p)
    (hgrant : grant ≤ s.near.dlp.grantableDataCredit) :
  Inv context { s with near := (s.near.sendCredit peer transactionId grant).2 }
  := by
  rw [LinkedEndpoint.sendCredit]
  split
  · exact h
  next e hsend =>
  obtain ⟨packet, hholds, n, hqueue, heq⟩ := LinkedEndpoint.sendGctlFrom_eq_ok hsend
  obtain ⟨queued, yielded, queued', yielded', hforward, hback⟩ := h
  obtain rfl : peer = s.far.linkLocalAddress := hpeer _ hforward.peer
  have hcredit : creditOf packet = some grant := hholds.creditOf_eq
  obtain ⟨hwithin, hform⟩ := hforward.readable hback hr hholds
  have hforward' := hforward.queueControl hholds.canonical hqueue (by
    intro _
    rw [hwithin]
    exact ⟨hholds.destination, hform⟩)
  have hback' := hback.sameReceiver (DlpEndpoint.sameReceiver_queuePacketOn hqueue)
  have hcredits : credits (underWay queued yielded) ++ [grant] = credits (underWay
      (DlpLink.append queued .control (packet.within s.far.dlp.localPrefix)) yielded) := by
    rw [hforward.underWay_append, credits, credits, List.filterMap_append, List.filterMap_cons,
      creditOf_within, hcredit]
    rfl
  split
  · next err hnote =>
    exfalso
    obtain ⟨_, _, _, _, _, hd⟩ := DlpEndpoint.sameReceiver_queuePacketOn hqueue
    rw [DlpEndpoint.noteDataCreditGranted, if_neg] at hnote
    · cases hnote
    · rw [hd]
      exact BitVec.not_lt.mpr hgrant
  · next dlp hnote =>
    have hnoted : DlpEndpoint.SameSender e.dlp dlp := by
      rw [DlpEndpoint.noteDataCreditGranted] at hnote
      split at hnote
      · cases hnote
      · cases hnote
        exact ⟨_, _, _, _, rfl⟩
    have hforward'' := Direction.sameSender (s := s.withDlp e.dlp) hforward' hnoted
    have hback'' := Direction.noteCredit (s := s.withDlp e.dlp) hback' hnote
    rw [hcredits] at hback''
    rw [heq]
    exact ⟨_, _, _, _, hforward'', hback''⟩

theorem Inv.data (h : Inv context s) (x : GtsSend) :
  Inv context { s with near := (s.near.sendGts x).2 }
  := by
  rcases s.near.sendGts_spec x with heq | ⟨packet, hcanonical, htype, heq⟩
  · rw [heq]
    exact h
  · obtain ⟨queued, yielded, queued', yielded', hforward, hback⟩ := h
    have hplain : creditOf packet = none := by
      rw [creditOf, if_neg]
      rw [htype]
      simp
    obtain ⟨queued'', hforward', hunder⟩ := hforward.queueData hcanonical hplain
    have hback' := hback.sameReceiver (s.near.dlp.sameReceiver_queueDataPacket packet)
    rw [← hunder] at hback'
    rw [heq]
    exact ⟨_, _, _, _, hforward', hback'⟩

/-- Whether the addresses are read as written depends on the settings of the ends only. -/
theorem Readable.of_settings {e e' : LinkedEndpoint T} (hconfig : e'.config = e.config)
    (hlocal : e'.linkLocalAddress = e.linkLocalAddress) :
  Readable context { s with near := e' } ↔ Readable context { s with near := e }
  := by
  cases context with
  | none =>
    simp only [Readable, LinkedEndpoint.WritesLocal, LinkedEndpoint.contextPrefix, hconfig, hlocal]
  | some p => simp only [Readable, LinkedEndpoint.contextPrefix, hconfig]

/-- The local context of the near end changes. -/
theorem Inv.inContext (h : Inv context s) (hr : Readable context s) {p : U64}
    (hr' : Readable context { s with near := s.near.inContext p }) :
  Inv context { s with near := s.near.inContext p }
  := by
  obtain ⟨queued, yielded, queued', yielded', hforward, hback⟩ := h
  have hsame : ∀ packet ∈ underWay queued' yielded', creditOf packet ≠ none →
      packet.within (p &&& ~~~0xffff#64) = packet := by
    intro packet hpacket hcredit
    rcases (hback.addressed packet hpacket hcredit).2 with hform | hsome
    · exact GdpPacket.within_of_global hform _
    · have hcanonical := hback.link.canonical_of_mem_underWay packet hpacket
      obtain ⟨q, rfl⟩ := Option.ne_none_iff_exists'.mp hsome
      have hq : s.near.contextPrefix = p &&& ~~~0xffff#64 := hr.1.trans hr'.1.symm
      rw [← hq, ← hforward.context_eq]
      exact hcanonical.within_eq
  refine ⟨queued, yielded, DlpLink.logWithin queued' (p &&& ~~~0xffff#64),
    DlpLink.logWithin yielded' (p &&& ~~~0xffff#64), ?_, ?_⟩
  · rw [underWay_within, credits_within]
    exact { hforward with link := hforward.link.setLocalPrefix_a p, context_eq := rfl }
  · refine { hback with link := hback.link.setLocalPrefix_b p, plain := ?_, addressed := ?_ }
    · rw [DlpLink.logWithin, List.forall_mem_map]
      intro packet hpacket
      rw [creditOf_within]
      exact hback.plain packet hpacket
    · rw [underWay_within, List.forall_mem_map]
      intro packet hpacket hcredit
      rw [creditOf_within] at hcredit
      rw [hsame packet hpacket hcredit]
      exact hback.addressed packet hpacket hcredit

/-- The endpoint at the near end keeps the invariant with whatever it does on its own. -/
theorem upholds (context : Option U64) (s : FlitLink T) :
  LinkedEndpoint.Upholds (fun e => Readable context { s with near := e })
    (fun e => Inv context { s with near := e })
  where
  settings {e _} h hconfig hlocal hpeer hdlp :=
    Inv.of_settings (s := { s with near := e }) (d := e.dlp) h hconfig hlocal hpeer hdlp
  readable := Readable.of_settings
  control {e _ _ _ _ _} h hmsg hsend := Inv.control (s := { s with near := e }) h hmsg hsend
  data {e} x h := Inv.data (s := { s with near := e }) h x
  credit {e _ _ _} h hr hpeer hgrant := Inv.credit (s := { s with near := e }) h hr hpeer hgrant
  inContext {e _} h hr hr' := Inv.inContext (s := { s with near := e }) h hr hr'

theorem Inv.moves (h : Inv context s) (hr : Readable context s) {e : LinkedEndpoint T}
    (hmoves : LinkedEndpoint.Moves s.near e) :
  Inv context { s with near := e }
  := (upholds context s).moves h hr hmoves

theorem Inv.handles (h : Inv context s) (hr : Readable context s) {e : LinkedEndpoint T}
    (hr' : Readable context { s with near := e }) (hhandles : LinkedEndpoint.Handles s.near e) :
  Inv context { s with near := e }
  := (upholds context s).handles h hr hr' hhandles

/-- The near end asks for credit. -/
theorem Inv.maybeRequestLinkCredit (h : Inv context s) :
  Inv context { s with near := s.near.maybeRequestLinkCredit.2 }
  := (upholds context s).maybeRequestLinkCredit h

end Step

end FlitLink

end SmolGnet
