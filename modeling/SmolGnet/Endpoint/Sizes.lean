import SmolGnet.Gts.Stream
import SmolGnet.Wire.GtsRoundTrip
import SmolGnet.Endpoint.Linked

/-!
# Sizes of messages

Four rules say how long a message of a stream may be: what the stream lets the application send, the
class that is chosen for the packet, what the encoder writes, and what the other end accepts.  They
agree.  So a packet that a stream has made, with the sequence number and the credit that it has used,
is lost on the way to the link only if the link does not take it.
-/

namespace SmolGnet

open Octets

/-! ### From the class to the encoding -/

/-- A message has bytes of a length that it fits into. -/
theorem exists_messageBytes {hasLength : Bool} {data : Bytes} {m : ℕ}
    (hlength : hasLength = true → data.length + 2 ≤ m ∧ data.length < 2 ^ 16)
    (hfixed : hasLength = false → data.length = m) :
  ∃ bytes, MessageBytes hasLength data bytes ∧ bytes.length = m
  := by
  cases hasLength with
  | false => exact ⟨data, messageBytes_false.mpr rfl, hfixed rfl⟩
  | true =>
    obtain ⟨hroom, hlt⟩ := hlength rfl
    refine ⟨_, messageBytes_true.mpr ⟨hlt, m - 2 - data.length, rfl⟩, ?_⟩
    simp only [List.length_append, length_toBeBytes, List.length_replicate]
    omega

/-- The lengths of the classes. -/
theorem SizeClass.bytes_cases (c : SizeClass) :
  c.bytes ≤ 3 ∨ 32 ≤ c.bytes ∧ c.bytes ≤ 8192
  := by
  cases c <;> decide

section

variable {sp : StreamProfile} {ctx : GtsContext} {data : Bytes}

/-- A message of a reliable stream that fits into its packet is encoded. -/
theorem encode_data (hadmits : Admits ctx (some sp) false sp) {isEnd : Bool}
    (hlength : (sp.variableLen || isEnd) = true → data.length + 16 ≤ ctx.sizeClass.bytes)
    (hfixed : (sp.variableLen || isEnd) = false → data.length + 14 = ctx.sizeClass.bytes)
    (tunnelId : U32) (streamId : U8) (sequence : U32) :
  ∃ bytes, (GtsPacket.data tunnelId streamId sequence data isEnd).encode ctx (some sp) = .ok bytes
  := by
  have hclass := ctx.sizeClass.bytes_cases
  have hroom : 32 ≤ ctx.sizeClass.bytes := by
    cases hcase : sp.variableLen || isEnd with
    | true =>
      have := hlength hcase
      omega
    | false =>
      have := hfixed hcase
      omega
  obtain ⟨bytes, hbytes, hlen⟩ :=
    @exists_messageBytes (sp.variableLen || isEnd) data (ctx.sizeClass.bytes - 14)
      (fun h => by have := hlength h; omega) (fun h => by have := hfixed h; omega)
  have hprobe : toBeBytes (fromBeBytes 16 (bytes.take 2)) ++ bytes.drop 2 = bytes := by
    rw [toBeBytes_fromBeBytes, List.take_append_drop]
    rw [List.length_take_of_le (by omega)]
  refine ⟨_, GtsPacket.encode_eq_ok_iff.mpr
    ⟨_, bytes.drop 2, _, .data hadmits (hprobe.symm ▸ hbytes), ?_, rfl⟩⟩
  simp only [GtsLowerPacket.wire, GtsLowerPacket.fields, List.length_cons, List.length_append,
    length_toBeBytes, List.length_drop, hlen]
  omega

/-- A message of an unreliable stream that fits into its packet is encoded. -/
theorem encode_datagram (hadmits : Admits ctx (some sp) true sp) {sequence : Option U32}
    (hsequence : sequence.isSome = sp.sequenced)
    (hlength : sp.variableLen = true →
      data.length + GtsStream.datagramOverhead sp ≤ ctx.sizeClass.bytes)
    (hfixed : sp.variableLen = false →
      data.length + (if sp.sequenced then 14 else 10) = ctx.sizeClass.bytes)
    (tunnelId : U32) (streamId : U8) :
  ∃ bytes, (GtsPacket.datagram tunnelId streamId sequence data).encode ctx (some sp) = .ok bytes
  := by
  have hclass := ctx.sizeClass.bytes_cases
  have hoptions : (sequence.elim [] toBeBytes).length = if sp.sequenced then 4 else 0 := by
    rw [← hsequence]
    cases sequence <;> simp
  have hfits : sp.variableLen = true →
      data.length + 2 + (sequence.elim [] toBeBytes).length + 10 ≤ ctx.sizeClass.bytes := by
    intro h
    have hroom := hlength h
    rw [GtsStream.datagramOverhead] at hroom
    rw [hoptions]
    split at hroom
    · next hseq =>
      rw [if_pos hseq]
      omega
    · next hseq =>
      rw [if_neg hseq]
      omega
  have hfills : sp.variableLen = false →
      data.length + (sequence.elim [] toBeBytes).length + 10 = ctx.sizeClass.bytes := by
    intro h
    have hroom := hfixed h
    rw [hoptions]
    split at hroom
    · next hseq =>
      rw [if_pos hseq]
      omega
    · next hseq =>
      rw [if_neg hseq]
      omega
  have hroom : 32 ≤ ctx.sizeClass.bytes := by
    cases hcase : sp.variableLen with
    | true =>
      have := hfits hcase
      omega
    | false =>
      have := hfills hcase
      omega
  have hshort : (sequence.elim [] toBeBytes).length ≤ 4 := by
    rw [hoptions]
    split <;> omega
  obtain ⟨bytes, hbytes, hlen⟩ := @exists_messageBytes sp.variableLen data
    (ctx.sizeClass.bytes - 10 - (sequence.elim [] toBeBytes).length)
    (fun h => by have := hfits h; omega) (fun h => by have := hfills h; omega)
  have hrest : (sequence.elim [] toBeBytes ++ bytes).length = ctx.sizeClass.bytes - 10 := by
    rw [List.length_append, hlen]
    omega
  refine ⟨_, GtsPacket.encode_eq_ok_iff.mpr ⟨_, (sequence.elim [] toBeBytes ++ bytes).drop 6, _,
    .datagram hadmits hsequence (toList_probe_append_drop (by omega)) hbytes, ?_, rfl⟩⟩
  rw [List.length_drop, hrest]
  simp only [GtsLowerPacket.wire, GtsLowerPacket.fields, List.length_cons, List.length_append,
    length_toBeBytes, Vector.length_toList]
  omega

end

/-! ### What the stream lets pass -/

namespace GtsStream

variable {s s' : GtsStream} {c : SizeClass} {data : Bytes} {isEnd : Bool}

/-- What the length of a message of a reliable stream has to be in a packet. -/
theorem fits_of_validateDataLen (h : s.validateDataLen c data isEnd = .ok ()) :
  (s.profile.variableLen = false → c = s.profile.sizeClass) ∧
    (s.profile.variableLen = true → c.toWire ≤ s.profile.sizeClass.toWire) ∧
    ((s.profile.variableLen || isEnd) = true → data.length + 16 ≤ c.bytes) ∧
    ((s.profile.variableLen || isEnd) = false → data.length + 14 = c.bytes)
  := by
  rw [validateDataLen] at h
  cases hvar : s.profile.variableLen with
  | true =>
    rw [if_pos hvar, reject_eq_ok, Bool.or_eq_false_iff, decide_eq_false_iff_not,
      decide_eq_false_iff_not] at h
    refine ⟨by simp, fun _ => BitVec.not_lt.mp h.1, fun _ => Nat.not_lt.mp h.2, ?_⟩
    intro hno
    cases hno
  | false =>
    rw [if_neg (by simp [hvar])] at h
    split at h
    · cases h
    next hclass =>
    rw [not_not] at hclass
    refine ⟨fun _ => hclass, by simp, ?_⟩
    rw [Bool.false_or]
    cases isEnd with
    | true =>
      rw [if_pos rfl, fixedReliableEndCapacity, checkedLen_bind_eq_ok, reject_eq_ok,
        decide_eq_false_iff_not] at h
      refine ⟨fun _ => ?_, by simp⟩
      rw [hclass]
      omega
    | false =>
      rw [if_neg (by decide), fixedReliableDataLen, checkedLen_bind_eq_ok, reject_eq_ok,
        decide_eq_false_iff_not, not_not] at h
      refine ⟨by simp, fun _ => ?_⟩
      rw [hclass]
      omega

/-- What the length of a message of an unreliable stream has to be in a packet. -/
theorem fits_of_validateDatagramLen (h : s.validateDatagramLen c data = .ok ()) :
  (s.profile.variableLen = false → c = s.profile.sizeClass) ∧
    (s.profile.variableLen = true → c.toWire ≤ s.profile.sizeClass.toWire) ∧
    (s.profile.variableLen = true → data.length + datagramOverhead s.profile ≤ c.bytes) ∧
    (s.profile.variableLen = false →
      data.length + (if s.profile.sequenced then 14 else 10) = c.bytes)
  := by
  rw [validateDatagramLen] at h
  cases hvar : s.profile.variableLen with
  | true =>
    rw [if_pos hvar, reject_eq_ok, Bool.or_eq_false_iff, decide_eq_false_iff_not,
      decide_eq_false_iff_not] at h
    exact ⟨nofun, fun _ => BitVec.not_lt.mp h.1, fun _ => Nat.not_lt.mp h.2, nofun⟩
  | false =>
    rw [if_neg (by simp [hvar])] at h
    split at h
    · cases h
    next hclass =>
    rw [not_not] at hclass
    rw [fixedUnreliableDataLen, checkedLen_bind_eq_ok, reject_eq_ok, decide_eq_false_iff_not,
      not_not] at h
    refine ⟨fun _ => hclass, nofun, nofun, fun _ => ?_⟩
    rw [hclass]
    omega

/-- As `chooseSizeClass_of_validateSendLen`, for a message of an unreliable stream. -/
theorem chooseSizeClass_of_validateSendLen_datagram (hunrel : s.profile.unreliable = true)
    (hprofile : s'.profile = s.profile) (h : s.validateSendLen data.length isEnd = .ok ())
    (tunnelId : U32) (streamId : U8) (sequence : Option U32) :
  ∃ c, (GtsPacket.datagram tunnelId streamId sequence data).chooseSizeClass (some s.profile)
      = .ok c ∧ s'.validateDatagramLen c data = .ok ()
  := by
  rw [validateSendLen, if_pos hunrel] at h
  split at h
  · cases h
  have hneed : (GtsPacket.datagram tunnelId streamId sequence data).minimumLen (some s.profile)
      = .ok (6 + (if s.profile.sequenced then 4 else 0) + (if s.profile.variableLen then 2 else 0)
        + data.length + 4) := by
    simp [GtsPacket.minimumLen, hunrel]
  simp only [GtsPacket.chooseSizeClass, hneed, validateDatagramLen, hprofile]
  cases hvar : s.profile.variableLen with
  | true =>
    rw [if_pos hvar, reject_eq_ok, decide_eq_false_iff_not, Nat.not_lt] at h
    have hroom : 6 + (if s.profile.sequenced then 4 else 0) + 2 + data.length + 4
        = data.length + datagramOverhead s.profile := by
      rw [datagramOverhead]
      split <;> omega
    obtain ⟨c, hc, hfits, hle⟩ := GtsPacket.smallestWithin_of_le (hroom ▸ h)
    refine ⟨c, ?_, ?_⟩
    · rw [if_pos rfl, if_pos rfl, hc]
    · rw [if_pos rfl, reject_eq_ok, Bool.or_eq_false_iff, decide_eq_false_iff_not,
        decide_eq_false_iff_not, ← hroom]
      exact ⟨BitVec.not_lt.mpr hle, Nat.not_lt.mpr hfits⟩
  | false =>
    rw [if_neg (by simp [hvar]), fixedUnreliableDataLen, checkedLen_bind_eq_ok, reject_eq_ok,
      decide_eq_false_iff_not, not_not] at h
    refine ⟨s.profile.sizeClass, ?_, ?_⟩
    · simp only [Bool.false_eq_true, if_false]
      rw [if_neg]
      split at h
      · next hseq =>
        rw [if_pos hseq]
        omega
      · next hseq =>
        rw [if_neg hseq]
        omega
    · rw [if_neg (by decide), if_neg (not_not.mpr rfl), fixedUnreliableDataLen, hprofile,
        checkedLen_bind_eq_ok, reject_eq_ok, decide_eq_false_iff_not, not_not]
      exact h

/-- What sending a message requires, and the packet that carries it. -/
theorem packet_of_sendPacket {tunnelId : U32} {now : U64} {packet : GtsPacket}
    (h : s.sendPacket tunnelId data isEnd now = .ok (packet, s')) :
  s.localMaySend s.openedByLocal = true ∧ s.validateSendLen data.length isEnd = .ok () ∧
    ((s.profile.unreliable = true ∧ ∃ sequence : Option U32, sequence.isSome = s.profile.sequenced ∧
        packet = .datagram tunnelId s.id sequence data) ∨
      (s.profile.unreliable = false ∧ ∃ sequence,
        packet = .data tunnelId s.id sequence data isEnd))
  := by
  cases hrel : s.profile.unreliable with
  | false =>
    obtain ⟨-, -, hmay, hlen, tx, seq, tx', -, -, rfl, -⟩ := sendPacket_eq_ok hrel h
    exact ⟨hmay, hlen, .inr ⟨rfl, seq, rfl⟩⟩
  | true =>
    rw [sendPacket] at h
    split at h
    · cases h
    split at h
    · cases h
    split at h
    · cases h
    next hmay =>
    split at h
    · cases h
    next hlen =>
    refine ⟨by simpa using hmay, hlen, .inl ⟨rfl, ?_⟩⟩
    split at h
    · next hseq =>
      cases h
      exact ⟨some _, hseq.symm, rfl⟩
    · next hseq =>
      cases h
      exact ⟨none, by simpa using hseq, rfl⟩

end GtsStream

namespace LinkedEndpoint

variable {T : Transport}

/-- Send a packet of a stream: choose its class, encode it, and give it to the link. -/
def sendGtsPacket (e : LinkedEndpoint T) (remote : GdpAddress) (packet : GtsPacket)
    (profile : Option StreamProfile) : Except Error Unit × LinkedEndpoint T :=
  match packet.chooseSizeClass profile with
  | .error err => (.error err, e)
  | .ok sizeClass =>
    let ctx : GtsContext :=
      { gdpVersion := 0#8, sizeClass, source := e.primaryAddress, destination := remote }
    match packet.encode ctx profile with
    | .error err => (.error err, e)
    | .ok payload => e.sendGts { remote, sizeClass, payload }

/-- A payload as long as its class says is given to the link. -/
theorem exists_gtsPacket (e : LinkedEndpoint T) {x : GtsSend}
    (hlen : x.payload.length = x.sizeClass.bytes) :
  ∃ packet, e.gtsPacket x = .ok packet
  := by
  obtain ⟨header, hheader, hclass⟩ : ∃ header,
      e.makeGdpHeader .gts x.sizeClass e.primaryAddress x.remote = .ok header ∧
        header.sizeClass = x.sizeClass := by
    rw [makeGdpHeader]
    split
    · split
      · dsimp only
        split
        · exact ⟨_, rfl, rfl⟩
        · exact ⟨_, rfl, rfl⟩
      · exact ⟨_, rfl, rfl⟩
    · exact ⟨_, rfl, rfl⟩
  refine ⟨⟨header, x.payload⟩, ?_⟩
  rw [gtsPacket, hheader, ok_bind, GdpPacket.new, if_neg (by rw [hclass, not_not]; exact hlen)]

/-- Sending a packet that is encoded fails only if the link does not take it. -/
theorem sendGtsPacket_eq (e : LinkedEndpoint T) {remote : GdpAddress} {packet : GtsPacket}
    {profile : Option StreamProfile} {c : SizeClass} {payload : Bytes}
    (hclass : packet.chooseSizeClass profile = .ok c)
    (hencode : packet.encode ⟨0#8, c, e.primaryAddress, remote⟩ profile = .ok payload) :
  ∃ gdp, (e.sendGtsPacket remote packet profile).1
    = (e.dlp.queueDataPacket gdp).1.map (fun _ => ())
  := by
  obtain ⟨hlen, -⟩ := GtsPacket.decode_of_encode hencode
  obtain ⟨gdp, hgdp⟩ := e.exists_gtsPacket (x := { remote, sizeClass := c, payload }) hlen
  use gdp
  rw [sendGtsPacket, hclass]
  dsimp only
  rw [hencode]
  dsimp only
  rw [sendGts, hgdp]
  dsimp only
  split
  · next h => rw [h]; rfl
  · next h => rw [h]; rfl

end LinkedEndpoint

namespace GtsStream

/-- A packet that a stream has made has a class, in which it is encoded, and decoded to what it was,
and in which the other end accepts it.  So only the link may fail to take it. -/
theorem sizes_agree {sender sender' receiver : GtsStream}
    (hvalid : sender.profile.validate = .ok sender.profile)
    (hprofile : receiver.profile = sender.profile)
    (hopener : receiver.openedByLocal = !sender.openedByLocal) {tunnelId : U32} {data : Bytes}
    {isEnd : Bool} {now : U64} {packet : GtsPacket}
    (hsend : sender.sendPacket tunnelId data isEnd now = .ok (packet, sender')) :
  ∃ c, packet.chooseSizeClass (some sender.profile) = .ok c ∧
    (∀ ctx : GtsContext, ctx.sizeClass = c → ∃ bytes,
      packet.encode ctx (some sender.profile) = .ok bytes ∧
      GtsPacket.decode bytes ctx (some sender.profile) = .ok packet) ∧
    (receiver.state ≠ .closed → receiver.state ≠ .reset → receiver.remoteEnded = false →
      receiver.validateIncoming c packet = .ok ()) ∧
    ∀ (T : Transport) (e : LinkedEndpoint T) (remote : GdpAddress), ∃ gdp,
      (e.sendGtsPacket remote packet (some sender.profile)).1
        = (e.dlp.queueDataPacket gdp).1.map (fun _ => ())
  := by
  obtain ⟨hmay, hlen, hpacket⟩ := packet_of_sendPacket hsend
  have hremote : receiver.remoteMaySend receiver.openedByLocal = true := by
    rw [remoteMaySend, hopener, hprofile]
    rw [localMaySend] at hmay
    cases hcase : sender.openedByLocal
    · rw [hcase] at hmay
      exact hmay
    · rw [hcase] at hmay
      exact hmay
  -- It is enough to encode the packet in every context of the class that is chosen.
  suffices hsuffices : ∃ c, packet.chooseSizeClass (some sender.profile) = .ok c ∧
      (∀ ctx : GtsContext, ctx.sizeClass = c → ∃ bytes,
        packet.encode ctx (some sender.profile) = .ok bytes) ∧
      (receiver.state ≠ .closed → receiver.state ≠ .reset → receiver.remoteEnded = false →
        receiver.validateIncoming c packet = .ok ()) by
    obtain ⟨c, hclass, hencode, hincoming⟩ := hsuffices
    refine ⟨c, hclass, ?_, hincoming, ?_⟩
    · intro ctx hctx
      obtain ⟨bytes, hbytes⟩ := hencode ctx hctx
      exact ⟨bytes, hbytes, (GtsPacket.decode_of_encode hbytes).2⟩
    · intro T e remote
      obtain ⟨payload, hpayload⟩ := hencode ⟨0#8, c, e.primaryAddress, remote⟩ rfl
      exact e.sendGtsPacket_eq hclass hpayload
  rcases hpacket with ⟨hunrel, sequence, hsequence, rfl⟩ | ⟨hrel, sequence, rfl⟩
  · obtain ⟨c, hclass, hfits⟩ :=
      chooseSizeClass_of_validateSendLen_datagram hunrel hprofile hlen tunnelId sender.id sequence
    obtain ⟨hfixed, hlimited, hroom, hfills⟩ := fits_of_validateDatagramLen hfits
    rw [hprofile] at hfixed hlimited hroom hfills
    refine ⟨c, hclass, ?_, ?_⟩
    · rintro ctx rfl
      exact encode_datagram ⟨rfl, hvalid, hunrel, hfixed, hlimited⟩ hsequence hroom hfills _ _
    · intro hclosed hreset _
      rw [validateIncoming, if_neg (not_or.mpr ⟨hclosed, hreset⟩), if_neg (by simp [hprofile, hunrel]), if_neg (by simp [hremote]),
        if_neg (by simp [hprofile, hsequence]), hfits]
  · obtain ⟨c, hclass, hfits⟩ :=
      chooseSizeClass_of_validateSendLen hrel hprofile hlen tunnelId sender.id sequence
    obtain ⟨hfixed, hlimited, hroom, hfills⟩ := fits_of_validateDataLen hfits
    rw [hprofile] at hfixed hlimited hroom hfills
    refine ⟨c, hclass, ?_, ?_⟩
    · rintro ctx rfl
      exact encode_data ⟨rfl, hvalid, hrel, hfixed, hlimited⟩ hroom hfills _ _ _
    · intro hclosed hreset hended
      rw [validateIncoming, if_neg (not_or.mpr ⟨hclosed, hreset⟩), if_neg (by simp [hprofile, hrel, hended]), if_neg (by simp [hremote]), hfits]

/-- The last message of a stream with fixed messages, shorter than the others. -/
theorem sizes_agree_short_end :
  let profile : StreamProfile := ⟨false, false, false, false, .bidirectional, .ctrl64⟩
  ∃ sender sender' receiver : GtsStream, ∃ packet, new 2#8 profile true 4#8 4#8 = .ok sender ∧
    new 2#8 profile false 4#8 4#8 = .ok receiver ∧
    sender.sendPacket 7#32 [1#8, 2#8, 3#8] true 0#64 = .ok (packet, sender') ∧
    packet.chooseSizeClass (some profile) = .ok .ctrl64 ∧
    receiver.validateIncoming .ctrl64 packet = .ok ()
  := by
  intro profile
  have hagree : ∀ {sender sender' receiver : GtsStream} {packet : GtsPacket},
      new 2#8 profile true 4#8 4#8 = .ok sender → new 2#8 profile false 4#8 4#8 = .ok receiver →
      sender.sendPacket 7#32 [1#8, 2#8, 3#8] true 0#64 = .ok (packet, sender') →
      packet.chooseSizeClass (some profile) = .ok .ctrl64 →
      receiver.validateIncoming .ctrl64 packet = .ok () := by
    intro sender sender' receiver packet hsender hreceiver hsend hclass
    have hs := new_eq_ok rfl hsender
    have hr := new_eq_ok rfl hreceiver
    have hprofile : receiver.profile = sender.profile := by rw [hs, hr]
    have hopener : receiver.openedByLocal = !sender.openedByLocal := by
      rw [hs, hr]
      rfl
    obtain ⟨c, hc, -, hincoming, -⟩ := sizes_agree (by rw [hs]; rfl) hprofile hopener hsend
    rw [hs, hclass] at hc
    cases hc
    rw [hr] at hincoming ⊢
    exact hincoming nofun nofun rfl
  exact ⟨_, _, _, _, rfl, rfl, rfl, rfl, hagree rfl rfl rfl rfl⟩

end GtsStream

end SmolGnet
