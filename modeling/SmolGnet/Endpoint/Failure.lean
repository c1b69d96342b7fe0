import SmolGnet.Endpoint.Actions
import SmolGnet.Endpoint.Sizes
import SmolGnet.Library.Machine

/-!
# Calls of the application that fail

A call that returns an error should leave the transport as it was, so that the application can make
it again.  Each call changes the tunnel first and gives the packet to the link afterwards, though, and
what it has changed stays when the packet cannot be sent: because the link is down, because the other
end is not known yet, or because the name of the service has no encoding.

As long as no call fails there, the calls that fail can be left out of a run: what is in the tunnels
and what is sent is the same without them.
-/

namespace SmolGnet

/-- The zero selector has no encoding, and the others have one that fits into a packet. -/
theorem ServiceSelector.encode_cases (s : ServiceSelector) :
  (s.bytes = List.replicate 16 0#8 ∧ ∃ err, s.encode = .error err) ∨
    s.bytes ≠ List.replicate 16 0#8 ∧ ∃ bytes, s.encode = .ok bytes ∧ bytes.length ≤ 17
  := by
  rw [encode, canonicalWire]
  by_cases hzero : s.bytes = List.replicate 16 0#8
  · rw [if_pos hzero]
    exact .inl ⟨hzero, _, rfl⟩
  · rw [if_neg hzero]
    refine .inr ⟨hzero, ?_⟩
    have hlen := s.length_eq
    split
    · next h => split at h <;> [split at h; skip] <;> cases h
    · exact ⟨_, rfl, by simp⟩
    · next v h =>
      refine ⟨_, rfl, ?_⟩
      split at h
      · split at h
        · cases h
        · cases h
          simp
      · cases h
    · next v h =>
      refine ⟨_, rfl, ?_⟩
      split at h
      · split at h <;> cases h
      · cases h
        simp [hlen]

/-- A request for a tunnel has a class exactly when the name of the service has an encoding. -/
theorem GtsPacket.chooseSizeClass_connect_cases (tunnel resetId : U32) (profile : StreamProfile)
    (credit : U8) (css : ServiceSelector) :
  (css.bytes = List.replicate 16 0#8 ∧
      ∃ err, (connect tunnel resetId profile credit css).chooseSizeClass none = .error err) ∨
    css.bytes ≠ List.replicate 16 0#8 ∧
      ∃ c, (connect tunnel resetId profile credit css).chooseSizeClass none = .ok c
  := by
  rw [chooseSizeClass.eq_def]
  dsimp only
  rw [chooseControlClass, minimumLen]
  obtain ⟨hzero, err, herr⟩ | ⟨hne, bytes, hbytes, hlen⟩ := css.encode_cases
  · rw [herr]
    exact .inl ⟨hzero, err, rfl⟩
  · rw [hbytes]
    obtain ⟨c, hc, -⟩ := @smallestWithin_of_le (1 + 4 + 4 + 2 + 1 + bytes.length + 4) .ctrl64 (by
      rw [SizeClass.bytes]
      omega)
    rw [smallestWithin] at hc
    refine .inr ⟨hne, ?_⟩
    dsimp only
    split
    · next hnone =>
      rw [hnone] at hc
      cases hc
    · exact ⟨_, rfl⟩

namespace GtsStream

/-- The stream takes the message and gives it a number. -/
def Numbers (s : GtsStream) (data : Bytes) (isEnd : Bool) : Prop :=
  s.state = .open ∧ s.localEnded = false ∧ s.localMaySend s.openedByLocal = true ∧
    s.validateSendLen data.length isEnd = .ok () ∧
    if s.profile.unreliable then s.profile.sequenced = true
    else ∃ tx ∈ s.reliableTx, tx.peerCredit ≠ 0#8

variable {s s' : GtsStream} {data : Bytes} {isEnd : Bool}

/-- A message that a stream does not take gets no number. -/
theorem not_numbers_of_sendPacket {tunnelId : U32} {now : U64} {err : Error}
    (h : s.sendPacket tunnelId data isEnd now = .error err) :
  ¬ s.Numbers data isEnd
  := by
  rintro ⟨hstate, hended, hmay, hlen, hcase⟩
  rw [sendPacket, if_neg (by simp [hstate]), if_neg (by simp [hended]), if_neg (by simp [hmay]),
    hlen] at h
  dsimp only at h
  split at h
  · split at h
    · cases h
    · cases h
  · next hrel =>
    rw [if_neg hrel] at hcase
    obtain ⟨tx, htx, hcredit⟩ := hcase
    rw [Option.mem_def.mp htx] at h
    dsimp only at h
    rw [ReliableTx.queue_of_credit hcredit] at h
    cases h

/-- A stream that has taken a message is another one exactly when it has given it a number. -/
theorem numbers_iff_of_sendPacket {tunnelId : U32} {now : U64} {packet : GtsPacket}
    (h : s.sendPacket tunnelId data isEnd now = .ok (packet, s')) :
  s.Numbers data isEnd ↔ s' ≠ s
  := by
  rw [sendPacket] at h
  split at h
  · cases h
  next hstate =>
  split at h
  · cases h
  next hended =>
  split at h
  · cases h
  next hmay =>
  split at h
  · cases h
  next hlen =>
  simp only [Numbers, not_not.mp hstate, Bool.eq_false_iff.mpr hended, hlen, true_and]
  rw [and_iff_right (by simpa using hmay)]
  split at h
  · next hunrel =>
    rw [if_pos hunrel]
    split at h
    · next hseq =>
      cases h
      refine iff_of_true hseq ?_
      intro heq
      have hnext := congrArg unrelTxSequence heq
      dsimp only at hnext
      bv_omega
    · next hseq =>
      cases h
      exact iff_of_false hseq (fun hne => hne rfl)
  · next hrel =>
    rw [if_neg hrel]
    split at h
    · cases h
    next tx htx =>
    split at h
    · cases h
    next seq tx' hqueue =>
    cases h
    obtain ⟨hcredit, -, rfl⟩ := ReliableTx.queue_eq_ok hqueue
    refine iff_of_true ⟨tx, htx, hcredit⟩ ?_
    intro heq
    have hnext := congrArg (fun s => s.reliableTx.map ReliableTx.nextSequence) heq
    simp only [htx, Option.map_some, Option.some.injEq] at hnext
    bv_omega

/-- A packet that a stream has made has a class. -/
theorem exists_chooseSizeClass_of_sendPacket {tunnelId : U32} {now : U64} {packet : GtsPacket}
    (h : s.sendPacket tunnelId data isEnd now = .ok (packet, s')) :
  ∃ c, packet.chooseSizeClass (some s.profile) = .ok c
  := by
  obtain ⟨-, hlen, ⟨hunrel, sequence, -, rfl⟩ | ⟨hrel, sequence, rfl⟩⟩ := packet_of_sendPacket h
  · obtain ⟨c, hc, -⟩ :=
      chooseSizeClass_of_validateSendLen_datagram hunrel rfl hlen tunnelId s.id sequence
    use c, hc
  · obtain ⟨c, hc, -⟩ := chooseSizeClass_of_validateSendLen hrel rfl hlen tunnelId s.id sequence
    use c, hc

end GtsStream

namespace Endpoint

variable {e e' : Endpoint} {h : U32} {id : U8}

/-- A failure, with what is left of the endpoint, has left the endpoint as it was. -/
def Harmless {α : Type} (result : Except Error α × Endpoint) (e : Endpoint) : Prop :=
  ∀ err, result.1 = .error err → result.2 = e

theorem harmless_error_iff {α : Type} {err : Error} :
  Harmless ((.error err, e') : Except Error α × Endpoint) e ↔ e' = e
  := ⟨fun h => h err rfl, fun h _ _ => h⟩

theorem harmless_error {α : Type} (err : Error) (e : Endpoint) :
  Harmless ((.error err, e) : Except Error α × Endpoint) e
  := harmless_error_iff.mpr rfl

theorem harmless_ok {α : Type} (a : α) (e e' : Endpoint) :
  Harmless ((.ok a, e') : Except Error α × Endpoint) e
  := nofun

/-- A packet with a class is sent exactly when the link is up. -/
theorem sendGts_of_class {remote : GdpAddress} {packet : GtsPacket} {profile : Option StreamProfile}
    {c : SizeClass} (hc : packet.chooseSizeClass profile = .ok c) :
  e.sendGts remote packet profile =
    if e.linkUp then (.ok (), { e with outbox := e.outbox ++ [(remote, c, packet)] })
    else (.error .linkDown, e)
  := by
  rw [sendGts, hc]
  cases e.linkUp <;> rfl

theorem harmless_sendGts_iff {remote : GdpAddress} {packet : GtsPacket}
    {profile : Option StreamProfile} {c : SizeClass} (hc : packet.chooseSizeClass profile = .ok c) :
  Harmless (e'.sendGts remote packet profile) e ↔ (e'.linkUp = false → e' = e)
  := by
  rw [sendGts_of_class hc]
  cases e'.linkUp with
  | true => exact iff_of_true (harmless_ok _ _ _) nofun
  | false => simp [harmless_error_iff]

/-- A tunnel is replaced by itself. -/
theorem setTunnel_eq_self_iff {r : TunnelRecord} {t : GtsTunnel} (hr : e.record h = .ok r) :
  e.setTunnel h r t = e ↔ t = r.tunnel
  := by
  have hget := record_eq_ok hr
  constructor
  · intro heq
    have := congrArg (fun e => e.tunnels[h]?) heq
    simp only [setTunnel, TreeMap.getElem?_insert, if_true, hget, Option.some.injEq] at this
    exact congrArg TunnelRecord.tunnel this
  · rintro rfl
    rw [setTunnel, TreeMap.insert_eq_self hget]

/-- A stream is replaced by itself. -/
theorem setStream_eq_self_iff {r : TunnelRecord} {s s' : GtsStream}
    (hfind : e.findStream h id = .ok (r, s)) :
  e.setStream h r id s' = e ↔ s' = s
  := by
  have hget := (getElem?_of_findStream hfind).2
  rw [setStream, setTunnel_eq_self_iff (findStream_eq_ok hfind).1]
  constructor
  · intro heq
    have := congrArg (fun t => t.streams[id]?) heq
    simpa only [TreeMap.getElem?_insert, if_true, hget, Option.some.injEq] using this
  · rintro rfl
    rw [TreeMap.insert_eq_self hget]

/-! ### What a call wastes -/

/-- A packet for the other end of a tunnel cannot be sent. -/
def Unreachable (e : Endpoint) (t : GtsTunnel) : Prop :=
  e.linkUp = false ∨ t.remoteReceiveId = none

/-- The stream numbers the message, and the packet cannot be sent. -/
def WastesMessage (e : Endpoint) (h : U32) (id : U8) (data : Bytes) (isEnd : Bool) : Prop :=
  e.linkUp = false ∧ ∃ r s, e.findStream h id = .ok (r, s) ∧ r.tunnel.state = .established ∧
    r.tunnel.remoteReceiveId.isSome ∧ s.Numbers data isEnd

/-- The call passes its checks and changes something, and the packet for it cannot be sent. -/
def Wastes (e : Endpoint) : Action → Prop
  | .connect _ css profile =>
    profile.validate = .ok profile ∧ (e.linkUp = false ∨ css.bytes = List.replicate 16 0#8)
  | .openStream h profile =>
    profile.validate = .ok profile ∧ ∃ r, e.record h = .ok r ∧ r.tunnel.state = .established ∧
      r.tunnel.nextStreamId ≤ 253#8 ∧
      (r.tunnel.nextStreamId ∈ r.tunnel.streams ∨ e.Unreachable r.tunnel)
  | .send h id data _ => e.WastesMessage h id data false
  | .sendEnd h id data _ => e.WastesMessage h id data true
  | .closeStream h id =>
    ∃ r s, e.findStream h id = .ok (r, s) ∧ s.state = .open ∧ e.Unreachable r.tunnel
  | .resetStream h id _ =>
    ∃ r s, e.findStream h id = .ok (r, s) ∧ s.reset ≠ s ∧ e.Unreachable r.tunnel
  | .closeTunnel h =>
    ∃ r, e.record h = .ok r ∧ hasOpenStream r.tunnel = false ∧ r.tunnel.state ≠ .closing ∧
      e.Unreachable r.tunnel
  | .resetTunnel h _ =>
    e.linkUp = false ∧ ∃ r, e.record h = .ok r ∧ r.tunnel.remoteReceiveId.isSome ∧
      r.tunnel.remoteResetId.isSome ∧ r.tunnel.reset ≠ r.tunnel
  | _ => False

/-- Whether a call of the application that asks for a packet to be sent succeeds.  All else does. -/
def outcome (e : Endpoint) : Action → Except Error Unit
  | .connect remote css profile => (e.connect remote css profile).1.map (fun _ => ())
  | .openStream h profile => (e.openStream h profile).1.map (fun _ => ())
  | .send h id data now => (e.send h id data now).1
  | .sendEnd h id data now => (e.sendEnd h id data now).1
  | .closeStream h id => (e.closeStream h id).1
  | .resetStream h id reason => (e.resetStream h id reason).1
  | .closeTunnel h => (e.closeTunnel h).1
  | .resetTunnel h reason => (e.resetTunnel h reason).1
  | _ => .ok ()

theorem harmless_map_iff {α β : Type} {f : α → β} {x : Except Error α} :
  Harmless (x.map f, e') e ↔ Harmless (x, e') e
  := by
  cases x with
  | error err => exact harmless_error_iff.trans harmless_error_iff.symm
  | ok a => exact iff_of_true (harmless_ok _ _ _) (harmless_ok _ _ _)

/-! ### The calls -/

/-- What has been changed is kept when the tunnel has no other end or the link is down. -/
theorem harmless_reply_iff (hlink : e'.linkUp = e.linkUp) (t : GtsTunnel) (peer : GdpAddress)
    (packet : U32 → GtsPacket)
    (hclass : ∀ remote, ∃ c, (packet remote).chooseSizeClass none = .ok c) :
  Harmless (match t.remoteId with
    | .error err => (.error err, e')
    | .ok remote => e'.sendGts peer (packet remote) none) e ↔ (e.Unreachable t → e' = e)
  := by
  rw [GtsTunnel.remoteId, Unreachable]
  cases t.remoteReceiveId with
  | none => simp [harmless_error_iff]
  | some remote =>
    obtain ⟨c, hc⟩ := hclass remote
    simp [harmless_sendGts_iff hc, hlink]

theorem harmless_closeStream_iff (e : Endpoint) (h : U32) (id : U8) :
  Harmless (e.closeStream h id) e ↔ ¬ e.Wastes (.closeStream h id)
  := by
  rw [closeStream, Wastes]
  split
  · next herr =>
    refine iff_of_true (harmless_error _ _) ?_
    rintro ⟨r, s, hfind, -⟩
    rw [herr] at hfind
    cases hfind
  next r s hfind =>
  simp only [hfind, Except.ok.injEq, Prod.mk.injEq, existsAndEq, and_true, true_and]
  split
  · next hstate => exact iff_of_true (harmless_error _ _) (fun h => hstate.1 h.1)
  next hstate =>
  have hlink : (e.setStream h r id { s with state := .closing }).linkUp = e.linkUp := rfl
  refine (harmless_reply_iff hlink r.tunnel r.peer (fun remote =>
    .streamClose remote id (if s.profile.unreliable then 0#32 else 0#32) false)
    (fun remote => ⟨_, rfl⟩)).trans ?_
  rw [setStream_eq_self_iff hfind]
  have hself : ({ s with state := .closing } : GtsStream) = s ↔ s.state ≠ .open := by
    constructor
    · intro heq hopen
      have := congrArg GtsStream.state heq
      rw [hopen] at this
      cases this
    · intro hopen
      have hclosing : s.state = .closing := by
        by_contra hne
        exact hstate ⟨hopen, hne⟩
      rw [← hclosing]
  rw [hself]
  tauto

theorem harmless_resetStream_iff (e : Endpoint) (h : U32) (id reason : U8) :
  Harmless (e.resetStream h id reason) e ↔ ¬ e.Wastes (.resetStream h id reason)
  := by
  rw [resetStream, Wastes]
  split
  · next herr =>
    refine iff_of_true (harmless_error _ _) ?_
    rintro ⟨r, s, hfind, -⟩
    rw [herr] at hfind
    cases hfind
  next r s hfind =>
  simp only [hfind, Except.ok.injEq, Prod.mk.injEq, existsAndEq, and_true, true_and]
  have hlink : (e.setStream h r id s.reset).linkUp = e.linkUp := rfl
  refine (harmless_reply_iff hlink r.tunnel r.peer (fun remote => .streamReset remote id reason false)
    (fun remote => ⟨_, rfl⟩)).trans ?_
  rw [setStream_eq_self_iff hfind]
  tauto

theorem harmless_closeTunnel_iff (e : Endpoint) (h : U32) :
  Harmless (e.closeTunnel h) e ↔ ¬ e.Wastes (.closeTunnel h)
  := by
  rw [closeTunnel, Wastes]
  split
  · next herr =>
    refine iff_of_true (harmless_error _ _) ?_
    rintro ⟨r, hr, -⟩
    rw [herr] at hr
    cases hr
  next r hr =>
  simp only [hr, Except.ok.injEq, existsAndEq, true_and]
  split
  · next halive => exact iff_of_true (harmless_error _ _) (fun h => by simp [halive] at h)
  next hdead =>
  have hlink : (e.setTunnel h r { r.tunnel with state := .closing }).linkUp = e.linkUp := rfl
  refine (harmless_reply_iff hlink r.tunnel r.peer (fun remote => .tunnelClose remote false)
    (fun remote => ⟨_, rfl⟩)).trans ?_
  rw [setTunnel_eq_self_iff hr]
  have hself : ({ r.tunnel with state := .closing } : GtsTunnel) = r.tunnel ↔
      r.tunnel.state = .closing := by
    constructor
    · intro heq
      exact (congrArg GtsTunnel.state heq).symm
    · intro hclosing
      rw [← hclosing]
  rw [hself]
  have hdead' : hasOpenStream r.tunnel = false := Bool.eq_false_iff.mpr hdead
  tauto

theorem harmless_resetTunnel_iff (e : Endpoint) (h : U32) (reason : U8) :
  Harmless (e.resetTunnel h reason) e ↔ ¬ e.Wastes (.resetTunnel h reason)
  := by
  rw [resetTunnel, Wastes]
  split
  · next herr =>
    refine iff_of_true (harmless_error _ _) ?_
    rintro ⟨-, r, hr, -⟩
    rw [herr] at hr
    cases hr
  next r hr =>
  simp only [hr, Except.ok.injEq, existsAndEq, true_and]
  rw [GtsTunnel.remoteId]
  cases hremote : r.tunnel.remoteReceiveId with
  | none => exact iff_of_true (harmless_error _ _) (by simp)
  | some remote =>
    cases hreset : r.tunnel.remoteResetId with
    | none => exact iff_of_true (harmless_error _ _) (by simp)
    | some resetId =>
      have hclass : ∃ c, (GtsPacket.reset remote resetId reason).chooseSizeClass none = .ok c :=
        ⟨_, rfl⟩
      obtain ⟨c, hc⟩ := hclass
      simp only [harmless_sendGts_iff hc, setTunnel_eq_self_iff hr, Option.isSome_some, true_and,
        not_and, not_not, ne_eq]
      exact Iff.rfl

theorem harmless_sendInner_iff (e : Endpoint) (h : U32) (id : U8) (data : Bytes) (isEnd : Bool)
    (now : U64) :
  Harmless (e.sendInner h id data isEnd now) e ↔ ¬ e.WastesMessage h id data isEnd
  := by
  rw [sendInner, WastesMessage]
  split
  · next herr =>
    refine iff_of_true (harmless_error _ _) ?_
    rintro ⟨-, r, s, hfind, -⟩
    rw [(findStream_eq_ok hfind).1] at herr
    cases herr
  next r hr =>
  have hrecord : ∀ {r' s}, e.findStream h id = .ok (r', s) →
      r' = r ∧ r.tunnel.stream id = .ok s := by
    intro r' s hfind
    obtain ⟨hr', hs⟩ := findStream_eq_ok hfind
    rw [hr] at hr'
    cases hr'
    exact ⟨rfl, hs⟩
  split
  · next hstate =>
    refine iff_of_true (harmless_error _ _) ?_
    rintro ⟨-, r', s, hfind, hestablished, -⟩
    obtain ⟨rfl, -⟩ := hrecord hfind
    exact hstate hestablished
  next hstate =>
  split
  · next hremote =>
    refine iff_of_true (harmless_error _ _) ?_
    rintro ⟨-, r', s, hfind, -, hsome, -⟩
    obtain ⟨rfl, -⟩ := hrecord hfind
    obtain ⟨remote, hsome⟩ := Option.isSome_iff_exists.mp hsome
    rw [GtsTunnel.remoteId, hsome] at hremote
    cases hremote
  next remote hremote =>
  split
  · next hs =>
    refine iff_of_true (harmless_error _ _) ?_
    rintro ⟨-, r', s, hfind, -⟩
    rw [(hrecord hfind).2] at hs
    cases hs
  next s hs =>
  have hfind := findStream_of_record hr hs
  have hsome : r.tunnel.remoteReceiveId.isSome := by
    rw [GtsTunnel.remoteId_eq_ok hremote, Option.isSome_some]
  simp only [hfind, Except.ok.injEq, Prod.mk.injEq, existsAndEq, true_and, not_not.mp hstate, hsome]
  split
  · next hsend =>
    refine iff_of_true (harmless_error _ _) ?_
    rintro ⟨-, hnumbers⟩
    exact GtsStream.not_numbers_of_sendPacket hsend hnumbers
  next packet s' hsend =>
  obtain ⟨c, hc⟩ := GtsStream.exists_chooseSizeClass_of_sendPacket hsend
  rw [harmless_sendGts_iff hc, setStream_eq_self_iff hfind,
    GtsStream.numbers_iff_of_sendPacket hsend, not_and, not_not]
  exact Iff.rfl

theorem nextId_ne (n : U32) :
  nextId n ≠ n
  := by
  rw [nextId]
  split <;> bv_omega

theorem harmless_connect_iff (e : Endpoint) (remote : GdpAddress) (css : ServiceSelector)
    (profile : StreamProfile) :
  Harmless (e.connect remote css profile) e ↔ ¬ e.Wastes (.connect remote css profile)
  := by
  rw [Wastes]
  cases hvalid : profile.validate with
  | error err =>
    rw [connect, hvalid]
    exact iff_of_true (harmless_error _ _) (by simp)
  | ok p =>
    obtain rfl := StreamProfile.validate_eq_ok hvalid
    obtain ⟨t, ht⟩ : ∃ t, GtsTunnel.initiator e.nextTunnel e.nextReset css p
        (e.localGtsCredit p true) = .ok t := by
      rw [GtsTunnel.initiator, GtsStream.new, hvalid]
      exact ⟨_, rfl⟩
    -- What fails from here on has used up a number.
    have hwasted : ∀ {α : Type} {x : Except Error α} {e' : Endpoint} {err : Error},
        x = .error err → e'.nextTunnel = nextId e.nextTunnel → ¬ Harmless (x, e') e := by
      rintro α _ e' err rfl hnext
      rw [harmless_error_iff]
      rintro rfl
      exact nextId_ne _ hnext.symm
    rw [connect, hvalid]
    dsimp only [allocTunnel, localGtsCredit] at ht ⊢
    rw [ht]
    dsimp only
    obtain ⟨hzero, err, herr⟩ | ⟨hne, c, hc⟩ := GtsPacket.chooseSizeClass_connect_cases e.nextTunnel
      e.nextReset p (if p.unreliable then 0#8 else if (if true then p.direction.peerMaySend
        else p.direction.openerMaySend) then e.gtsReceiveSlots else 0#8) css
    · rw [sendGts, herr]
      exact iff_of_false (hwasted rfl rfl) (by simp [hzero])
    · rw [sendGts_of_class hc]
      dsimp only
      cases hlink : e.linkUp with
      | true => exact iff_of_true (harmless_ok _ _ _) (by simpa using hne)
      | false => exact iff_of_false (hwasted rfl rfl) (by simp)

theorem harmless_openStream_iff (e : Endpoint) (h : U32) (profile : StreamProfile) :
  Harmless (e.openStream h profile) e ↔ ¬ e.Wastes (.openStream h profile)
  := by
  rw [Wastes, openStream]
  cases hvalid : profile.validate with
  | error err => exact iff_of_true (harmless_error _ _) (by simp)
  | ok p =>
  obtain rfl := StreamProfile.validate_eq_ok hvalid
  cases hr : e.record h with
  | error err => exact iff_of_true (harmless_error _ _) (by simp)
  | ok r =>
  simp only [true_and, Except.ok.injEq, existsAndEq]
  cases halloc : r.tunnel.allocStreamId with
  | error err =>
    refine iff_of_true (harmless_error _ _) ?_
    rintro ⟨hstate, hnext, -⟩
    rw [GtsTunnel.allocStreamId, if_neg (not_not.mpr hstate), if_neg (BitVec.not_lt.mpr hnext)]
      at halloc
    cases halloc
  | ok x =>
  obtain ⟨id, t⟩ := x
  obtain ⟨hstate, hle, rfl, rfl⟩ := GtsTunnel.allocStreamId_eq_ok halloc
  -- What fails from here on has used up a number.
  have hwasted : ∀ {α : Type} {x : Except Error α} {t : GtsTunnel} {err : Error},
      x = .error err → t.nextStreamId = r.tunnel.nextStreamId + 2#8 →
        ¬ Harmless (x, e.setTunnel h r t) e := by
    rintro α _ t err rfl hnext
    rw [harmless_error_iff, setTunnel_eq_self_iff hr]
    rintro rfl
    bv_omega
  dsimp only
  rw [GtsTunnel.addStream]
  by_cases hmem : r.tunnel.nextStreamId ∈ r.tunnel.streams
  · rw [if_pos (.inr hmem)]
    refine iff_of_false (hwasted rfl rfl) ?_
    rw [not_not]
    exact ⟨hstate, BitVec.not_lt.mp hle, .inl hmem⟩
  rw [if_neg (by simp [hstate, hmem]), GtsStream.new, hvalid]
  simp only [hstate, BitVec.not_lt.mp hle, hmem, true_and, false_or, ok_bind]
  rw [GtsTunnel.remoteId, Unreachable]
  dsimp only
  cases hremote : r.tunnel.remoteReceiveId with
  | none => exact iff_of_false (hwasted rfl rfl) (by simp)
  | some remote =>
    dsimp only
    rw [sendGts_of_class (c := .ctrl32) rfl]
    rw [show (e.setTunnel h r _).linkUp = e.linkUp from rfl]
    cases hlink : e.linkUp with
    | true => exact iff_of_true (harmless_ok _ _ _) (by simp)
    | false => exact iff_of_false (hwasted rfl rfl) (by simp)

/-! ### All calls -/

/-- A call that fails leaves the endpoint as it was, unless it has passed its checks and changed
something when the packet for it turns out not to be sent. -/
theorem harmless_step_iff (e : Endpoint) (a : Action) :
  (∀ err, e.outcome a = .error err → e.step a = e) ↔ ¬ e.Wastes a
  := by
  cases a with
  | connect remote css profile =>
    exact harmless_map_iff.trans (harmless_connect_iff e remote css profile)
  | openStream h profile => exact harmless_map_iff.trans (harmless_openStream_iff e h profile)
  | send h id data now => exact harmless_sendInner_iff e h id data false now
  | sendEnd h id data now => exact harmless_sendInner_iff e h id data true now
  | closeStream h id => exact harmless_closeStream_iff e h id
  | resetStream h id reason => exact harmless_resetStream_iff e h id reason
  | closeTunnel h => exact harmless_closeTunnel_iff e h
  | resetTunnel h reason => exact harmless_resetTunnel_iff e h reason
  | _ => exact iff_of_true nofun (fun h => h)

/-- Whether an action succeeds. -/
def succeeds (e : Endpoint) (a : Action) : Bool :=
  (e.outcome a).isOk

/-- The calls that fail leave the endpoint as it was, and they can be left out of the run, exactly in
the runs in which no call wastes anything. -/
theorem failed_calls_iff (e : Endpoint) (as : List Action) :
  (Machine.Along step (fun e a => ∀ err, e.outcome a = .error err → e.step a = e) e as ∧
      ∀ past, past <+: as →
        Machine.run step e (Machine.kept step succeeds e past) = Machine.run step e past) ↔
    Machine.Along step (fun e a => ¬ e.Wastes a) e as
  := by
  have hiff : Machine.Along step (fun e a => ∀ err, e.outcome a = .error err → e.step a = e) e as ↔
      Machine.Along step (fun e a => ¬ e.Wastes a) e as :=
    Machine.along_iff (I := fun _ => True) (fun e a _ => harmless_step_iff e a)
      (fun _ _ _ _ => trivial) trivial
  rw [← hiff, and_iff_left_iff_imp]
  rintro h past ⟨rest, rfl⟩
  apply Machine.run_kept
  apply ((Machine.along_append e past rest).mp h).1.imp
  intro e a ha hfails
  rw [succeeds] at hfails
  cases herr : e.outcome a with
  | ok _ =>
    rw [herr] at hfails
    cases hfails
  | error err => apply ha err herr

/-- The link is down when a message is sent.  The call fails, but the message has its number, and when
the link is up again it is sent. -/
theorem not_harmless_send :
  let profile : StreamProfile := ⟨false, true, false, false, .bidirectional, .msg128⟩
  let css : ServiceSelector := ⟨List.replicate 16 1#8, rfl⟩
  let call : Action := .send 1#32 0#8 [9#8] 0#64
  ∃ e₀, Endpoint.new ⟨1#64⟩ 4#8 = .ok e₀ ∧
    let e := Machine.run step e₀
      [.connect ⟨2#64⟩ css profile, .receive ⟨2#64⟩ .ctrl32 (.connectAck 1#32 7#32 8#32 0#8 4#8),
        .transmitted, .linkChanged false]
    e.outcome call = .error .linkDown ∧ e.step call ≠ e ∧
      (Machine.run step e [call, .linkChanged true, .tick 1000#64]).outbox
        = [(⟨2#64⟩, .ctrl32, .data 7#32 0#8 0#32 [9#8] false)] ∧
      (Machine.run step e [.linkChanged true, .tick 1000#64]).outbox = []
  := by
  intro profile css call
  refine ⟨_, rfl, ?_⟩
  decide +kernel

end Endpoint

end SmolGnet
