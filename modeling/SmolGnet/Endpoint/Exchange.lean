import SmolGnet.Endpoint.Messages

/-!
# What an action does to all streams

An endpoint has one tunnel, with the number `h`, or none.  `Does` says what an action has done: the packets
that it has sent, and for every stream of the tunnel what has happened to the messages.
-/

namespace SmolGnet

namespace Endpoint

/-! ### The streams of a tunnel -/

/-- A stream of the tunnel `h`, if it is there. -/
def streamAt (e : Endpoint) (h : U32) (id : U8) : Option GtsStream :=
  e.tunnels[h]?.bind (fun r => r.tunnel.streams[id]?)

/-- There is no other tunnel than `h`. -/
def Only (e : Endpoint) (h : U32) : Prop :=
  ∀ (k : U32) r, e.tunnels[k]? = some r → k = h

/-- The streams have the numbers under which they are found. -/
def StreamsNumbered (e : Endpoint) (h : U32) : Prop :=
  ∀ id s, e.streamAt h id = some s → s.id = id

/-- What has been done: packets have been sent, and for every stream something has happened when the packet
`input` arrived, or none. -/
def Does (e e' : Endpoint) (h : U32) (input : Option GtsPacket) (sent : U8 → List (Bytes × Bool))
    (taken : U8 → List Bytes) : Prop :=
  ∃ out, e'.outbox = e.outbox ++ out ∧ ∀ id, GtsStream.Moved id input (e.streamAt h id)
    (e'.streamAt h id) (out.map (fun x => x.2.2)) (sent id) (taken id)

section Streams

variable {e e' : Endpoint} {h : U32} {input : Option GtsPacket} {sent : U8 → List (Bytes × Bool)}
  {taken : U8 → List Bytes}

theorem streamAt_of_record {r : TunnelRecord} (hr : e.record h = .ok r) (id : U8) :
  e.streamAt h id = r.tunnel.streams[id]?
  := by
  rw [streamAt, record_eq_ok hr]
  rfl

theorem streamAt_congr (htunnels : e'.tunnels = e.tunnels) (id : U8) :
  e'.streamAt h id = e.streamAt h id
  := by rw [streamAt, streamAt, htunnels]

theorem streamAt_insert {r : TunnelRecord} (htunnels : e'.tunnels = e.tunnels.insert h r) (id : U8) :
  e'.streamAt h id = r.tunnel.streams[id]?
  := by
  rw [streamAt, htunnels, TreeMap.getElem?_insert, if_pos rfl]
  rfl

theorem streamAt_setTunnel (e : Endpoint) (h : U32) (r : TunnelRecord) (t : GtsTunnel) (id : U8) :
  (e.setTunnel h r t).streamAt h id = t.streams[id]?
  := by
  have hset : (e.setTunnel h r t).tunnels = e.tunnels.insert h { r with tunnel := t } := rfl
  rw [streamAt_insert hset]

theorem streamAt_eq_none (hnone : e.tunnels[h]? = none) (id : U8) :
  e.streamAt h id = none
  := by
  rw [streamAt, hnone]
  rfl

/-- Nothing has been done that concerns the tunnel. -/
theorem does_same (input : Option GtsPacket) (htunnels : e'.tunnels = e.tunnels)
    (houtbox : e'.outbox = e.outbox) :
  Does e e' h input (fun _ => []) (fun _ => [])
  := by
  refine ⟨[], by rw [houtbox, List.append_nil], ?_⟩
  intro id
  rw [streamAt_congr htunnels]
  apply GtsStream.moved_self

/-- Each stream of the tunnel has changed, and nothing has been sent. -/
theorem does_setTunnel {r : TunnelRecord} {t : GtsTunnel} (hr : e.record h = .ok r)
    (hmoved : ∀ id : U8, GtsStream.Moved id input r.tunnel.streams[id]? t.streams[id]? [] [] []) :
  Does e (e.setTunnel h r t) h input (fun _ => []) (fun _ => [])
  := by
  refine ⟨[], (List.append_nil _).symm, ?_⟩
  intro id
  rw [streamAt_of_record hr, streamAt_setTunnel]
  apply hmoved

/-- A packet that does not concern messages is sent, or it cannot be sent. -/
theorem Does.sendGts (hdoes : Does e e' h input sent taken) (remote : GdpAddress) {packet : GtsPacket}
    (hcontrol : packet.Control) (profile : Option StreamProfile) :
  Does e (e'.sendGts remote packet profile).2 h input sent taken
  := by
  obtain ⟨out, hout, hmoved⟩ := hdoes
  have hsame := streamAt_congr (h := h) (tunnels_sendGts e' remote packet profile)
  obtain ⟨-, -, hsent | ⟨sizeClass, hsent⟩⟩ := e'.outbox_sendGts remote packet profile
  · refine ⟨out, by rw [hsent, hout], ?_⟩
    intro id
    rw [hsame]
    apply hmoved
  · refine ⟨out ++ [(remote, sizeClass, packet)], by rw [hsent, hout, List.append_assoc], ?_⟩
    intro id
    rw [hsame, List.map_append]
    apply (hmoved id).append_off
    intro p hp
    rw [List.mem_singleton.mp hp]
    apply hcontrol

/-- One stream has changed. -/
theorem does_setStream {id : U8} {r : TunnelRecord} {s s' : GtsStream}
    (hfind : e.findStream h id = .ok (r, s)) {out : List (GdpAddress × SizeClass × GtsPacket)}
    (houtbox : e'.outbox = e.outbox ++ out) (htunnels : e'.tunnels = (e.setStream h r id s').tunnels)
    (hmoved : GtsStream.Moved id input (some s) (some s') (out.map (fun x => x.2.2)) (sent id) (taken id))
    (hoff : ∀ k, k ≠ id → (∀ x ∈ out, x.2.2.Off k) ∧ sent k = [] ∧ taken k = []) :
  Does e e' h input sent taken
  := by
  obtain ⟨hr, -⟩ := findStream_eq_ok hfind
  obtain ⟨-, hs⟩ := getElem?_of_findStream hfind
  refine ⟨out, houtbox, ?_⟩
  intro k
  rw [streamAt_of_record hr, streamAt_congr htunnels, setStream, streamAt_setTunnel]
  dsimp only
  rw [TreeMap.getElem?_insert]
  by_cases hk : id = k
  · subst hk
    rw [hs, if_pos rfl]
    apply hmoved
  · obtain ⟨hout, hsent, htaken⟩ := hoff k (Ne.symm hk)
    rw [if_neg hk, hsent, htaken]
    apply (GtsStream.moved_self k input _).off
    rw [List.forall_mem_map]
    apply hout

/-- One stream has changed, and nothing has been sent. -/
theorem does_setStream_quiet {id : U8} {r : TunnelRecord} {s s' : GtsStream}
    (hfind : e.findStream h id = .ok (r, s))
    (hmoved : GtsStream.Moved id input (some s) (some s') [] [] []) :
  Does e (e.setStream h r id s') h input (fun _ => []) (fun _ => [])
  := by
  apply @does_setStream e _ h input (fun _ => []) (fun _ => []) id r s s' hfind []
  · exact (List.append_nil _).symm
  · rfl
  · apply hmoved
  · intro k _
    exact ⟨List.forall_mem_nil _, rfl, rfl⟩

/-- Only calls on the tunnel `h` find a tunnel. -/
theorem Only.record (honly : e.Only h) {k : U32} {r : TunnelRecord} (hr : e.record k = .ok r) :
  k = h
  := honly k r (record_eq_ok hr)

theorem StreamsNumbered.id_eq (hnumbered : e.StreamsNumbered h) {id : U8} {r : TunnelRecord}
    {s : GtsStream} (hfind : e.findStream h id = .ok (r, s)) :
  s.id = id
  := by
  obtain ⟨hr, hs⟩ := getElem?_of_findStream hfind
  apply hnumbered
  rw [streamAt, hr]
  apply hs

end Streams

/-! ### What the application does -/

/-- The messages that an action gives to the stream. -/
def sends (e : Endpoint) (h : U32) (id : U8) : Action → List (Bytes × Bool)
  | .send h' id' data now =>
    if h' = h ∧ id' = id ∧ (e.send h' id' data now).1.isOk then [(data, false)] else []
  | .sendEnd h' id' data now =>
    if h' = h ∧ id' = id ∧ (e.sendEnd h' id' data now).1.isOk then [(data, true)] else []
  | _ => []

section Application

variable {e : Endpoint} {h : U32}

/-- While the link is up, a message is sent, or the call fails and does nothing. -/
theorem sendInner_cases (hup : e.linkUp = true) (h : U32) (id : U8) (data : Bytes) (isEnd : Bool)
    (now : U64) :
  (∃ err, e.sendInner h id data isEnd now = (.error err, e)) ∨
    ∃ r s remote packet s' c, e.findStream h id = .ok (r, s) ∧
      s.sendPacket remote data isEnd now = .ok (packet, s') ∧
      packet.chooseSizeClass (some s.profile) = .ok c ∧
      e.sendInner h id data isEnd now
        = (.ok (), { e.setStream h r id s' with outbox := e.outbox ++ [(r.peer, c, packet)] })
  := by
  rw [sendInner]
  split
  · next err _ => exact .inl ⟨err, rfl⟩
  next r hr =>
  split
  · exact .inl ⟨_, rfl⟩
  split
  · next err _ => exact .inl ⟨err, rfl⟩
  next remote _ =>
  split
  · next err _ => exact .inl ⟨err, rfl⟩
  next s hs =>
  split
  · next err _ => exact .inl ⟨err, rfl⟩
  next packet s' hsend =>
  obtain ⟨c, hc⟩ := GtsStream.exists_chooseSizeClass_of_sendPacket hsend
  have hup' : (e.setStream h r id s').linkUp = true := hup
  refine .inr ⟨r, s, remote, packet, s', c, findStream_of_record hr hs, hsend, hc, ?_⟩
  rw [sendGts_of_class hc, if_pos hup']
  rfl

/-- A message is sent, or the call fails. -/
theorem does_sendInner (hup : e.linkUp = true) (honly : e.Only h) (hnumbered : e.StreamsNumbered h)
    (k : U32) (id : U8) (data : Bytes) (isEnd : Bool) (now : U64) :
  Does e (e.sendInner k id data isEnd now).2 h none
    (fun i => if k = h ∧ id = i ∧ (e.sendInner k id data isEnd now).1.isOk then [(data, isEnd)]
      else []) (fun _ => [])
  := by
  obtain ⟨err, heq⟩ | ⟨r, s, remote, packet, s', c, hfind, hsend, -, heq⟩ :=
    sendInner_cases hup k id data isEnd now
  · have hnone : ∀ i, ¬ (k = h ∧ id = i ∧ (Except.error err : Except Error Unit).isOk = true) := by
      rintro i ⟨-, -, hok⟩
      cases hok
    simp only [heq, if_neg (hnone _)]
    apply does_same none rfl rfl
  · obtain rfl := honly.record (findStream_eq_ok hfind).1
    obtain ⟨hmoved, hoff⟩ := GtsStream.moved_sendPacket (hnumbered.id_eq hfind) hsend
    rw [heq]
    apply @does_setStream e _ k none _ _ id r s s' hfind [(r.peer, c, packet)]
    · rfl
    · rfl
    · rw [if_pos ⟨rfl, rfl, rfl⟩]
      apply hmoved
    · intro i hi
      refine ⟨?_, ?_, rfl⟩
      · rw [List.forall_mem_singleton]
        apply hoff i hi
      · rw [if_neg]
        rintro ⟨-, hid, -⟩
        apply hi hid.symm

/-- While the link is up, a message is taken, and acknowledged if need be, or there is none. -/
theorem recv_eq_of_up (hup : e.linkUp = true) (h : U32) (id : U8) :
  ((e.recv h id).2 = e ∧ ∀ m, (e.recv h id).1 ≠ .ok (some m)) ∨
    ∃ r s m remote out, e.findStream h id = .ok (r, s) ∧ s.recv.1 = some m ∧
      out.map (fun x => x.2.2) = (s.recv.2.receiveCreditAck remote).toList ∧
      e.recv h id = (.ok (some m), { e.setStream h r id s.recv.2 with outbox := e.outbox ++ out })
  := by
  rw [recv]
  split
  · exact .inl ⟨rfl, by simp⟩
  next r hr =>
  split
  · exact .inl ⟨rfl, by simp⟩
  next remote _ =>
  split
  · exact .inl ⟨rfl, by simp⟩
  next s hs =>
  have hfind := findStream_of_record hr hs
  dsimp only
  cases hm : s.recv.1 with
  | none =>
    refine .inl ⟨?_, by simp⟩
    rw [GtsStream.recv_of_none hm]
    exact (setStream_eq_self_iff hfind).mpr rfl
  | some m =>
    rw [Option.isSome_some, if_pos rfl]
    right
    cases hack : s.recv.2.receiveCreditAck remote with
    | none =>
      refine ⟨r, s, m, remote, [], hfind, hm, by rw [hack]; rfl, ?_⟩
      simp only [List.append_nil]
      rfl
    | some ack =>
      obtain ⟨c, hc⟩ := GtsStream.chooseSizeClass_receiveCreditAck hack s.profile
      have hup' : (e.setStream h r id s.recv.2).linkUp = true := hup
      refine ⟨r, s, m, remote, [(r.peer, c, ack)], hfind, hm, by rw [hack]; rfl, ?_⟩
      dsimp only
      rw [sendGts_of_class hc, if_pos hup']
      rfl

/-- A message is taken, or there is none. -/
theorem does_recv (hup : e.linkUp = true) (honly : e.Only h) (hnumbered : e.StreamsNumbered h)
    (k : U32) (id : U8) :
  Does e (e.recv k id).2 h none (fun _ => []) (fun i => Inbox.returns e h i (.recv k id))
  := by
  obtain ⟨heq, hno⟩ | ⟨r, s, m, remote, out, hfind, hm, hout, heq⟩ := recv_eq_of_up hup k id
  · have hnone : ∀ i, Inbox.returns e h i (.recv k id) = [] := by
      intro i
      rw [Inbox.returns]
      split
      · next m hm => exact absurd hm (hno m)
      · rfl
    simp only [heq, hnone]
    apply does_same none rfl rfl
  · obtain rfl := honly.record (findStream_eq_ok hfind).1
    obtain ⟨hmoved, hoff⟩ := GtsStream.moved_recv (hnumbered.id_eq hfind) remote hm
    have hreturns : ∀ i, Inbox.returns e k i (.recv k id) = if id = i then [m] else [] := by
      intro i
      rw [Inbox.returns, heq]
      simp
    rw [heq]
    apply @does_setStream e _ k none _ _ id r s _ hfind out
    · rfl
    · rfl
    · rw [hreturns, if_pos rfl, hout]
      apply hmoved
    · intro i hi
      refine ⟨?_, rfl, ?_⟩
      · intro x hx
        apply hoff _ _ i hi
        apply Option.mem_toList.mp
        rw [← hout]
        apply List.mem_map_of_mem hx
      · rw [hreturns, if_neg hi.symm]

/-- Something is done, and the other end of the tunnel is told, if it is known. -/
theorem Does.reply {e' : Endpoint} {input : Option GtsPacket} {sent : U8 → List (Bytes × Bool)}
    {taken : U8 → List Bytes} (hdoes : Does e e' h input sent taken) (t : GtsTunnel)
    (peer : GdpAddress) {packet : U32 → GtsPacket} (hcontrol : ∀ remote, (packet remote).Control) :
  Does e ((match t.remoteId with
    | .error err => (.error err, e')
    | .ok remote => e'.sendGts peer (packet remote) none) : Except Error Unit × Endpoint).2
    h input sent taken
  := by
  split
  · apply hdoes
  · apply hdoes.sendGts peer (hcontrol _)

theorem does_closeStream (honly : e.Only h) (k : U32) (id : U8) :
  Does e (e.closeStream k id).2 h none (fun _ => []) (fun _ => [])
  := by
  rw [closeStream]
  split
  · apply does_same none rfl rfl
  next r s hfind =>
  obtain rfl := honly.record (findStream_eq_ok hfind).1
  split
  · apply does_same none rfl rfl
  next hstate =>
  apply (does_setStream_quiet hfind _).reply
  · exact fun _ _ => ⟨rfl, rfl, rfl⟩
  · apply GtsStream.moved_state
    intro hreset
    simp [hreset] at hstate

theorem does_resetStream (honly : e.Only h) (k : U32) (id reason : U8) :
  Does e (e.resetStream k id reason).2 h none (fun _ => []) (fun _ => [])
  := by
  rw [resetStream]
  split
  · apply does_same none rfl rfl
  next r s hfind =>
  obtain rfl := honly.record (findStream_eq_ok hfind).1
  apply (does_setStream_quiet hfind (GtsStream.moved_reset none s)).reply
  exact fun _ _ => ⟨rfl, rfl, rfl⟩

/-- A tunnel whose streams stay as they are. -/
theorem does_setTunnel_same {input : Option GtsPacket} {r : TunnelRecord} {t : GtsTunnel}
    (hr : e.record h = .ok r) (hstreams : t.streams = r.tunnel.streams) :
  Does e (e.setTunnel h r t) h input (fun _ => []) (fun _ => [])
  := by
  apply does_setTunnel hr
  intro id
  rw [hstreams]
  apply GtsStream.moved_self

/-- A tunnel that is reset loses all messages. -/
theorem does_setTunnel_reset {input : Option GtsPacket} {r : TunnelRecord}
    (hr : e.record h = .ok r) :
  Does e (e.setTunnel h r r.tunnel.reset) h input (fun _ => []) (fun _ => [])
  := by
  apply does_setTunnel hr
  intro id
  rw [GtsTunnel.reset]
  dsimp only
  rw [Std.ExtTreeMap.getElem?_map]
  cases r.tunnel.streams[id]? with
  | none => apply GtsStream.moved_self
  | some s => apply GtsStream.moved_reset

theorem does_closeTunnel (honly : e.Only h) (k : U32) :
  Does e (e.closeTunnel k).2 h none (fun _ => []) (fun _ => [])
  := by
  rw [closeTunnel]
  split
  · apply does_same none rfl rfl
  next r hr =>
  obtain rfl := honly.record hr
  split
  · apply does_same none rfl rfl
  apply (does_setTunnel_same hr _).reply
  · exact fun _ _ => ⟨rfl, rfl, rfl⟩
  · rfl

theorem does_resetTunnel (honly : e.Only h) (k : U32) (reason : U8) :
  Does e (e.resetTunnel k reason).2 h none (fun _ => []) (fun _ => [])
  := by
  rw [resetTunnel]
  split
  · apply does_same none rfl rfl
  next r hr =>
  obtain rfl := honly.record hr
  split
  · apply does_same none rfl rfl
  · apply does_same none rfl rfl
  · apply (does_setTunnel_reset hr).sendGts
    exact fun _ => ⟨rfl, rfl, rfl⟩

/-- A stream is added to a tunnel. -/
theorem does_addStream {input : Option GtsPacket} {r : TunnelRecord} {t t₁ t' : GtsTunnel} {id : U8}
    {profile : StreamProfile} {openedByLocal : Bool} {localCredit peerCredit : U8}
    (hr : e.record h = .ok r) (hstreams : t.streams = r.tunnel.streams)
    (hadd : t.addStream id profile openedByLocal localCredit peerCredit = .ok t₁)
    (state : Option StreamState)
    (ht' : ∀ k : U8, t'.streams[k]? = if id = k then
      t₁.streams[k]?.map (fun s => { s with state := state.getD s.state }) else t₁.streams[k]?) :
  Does e (e.setTunnel h r t') h input (fun _ => []) (fun _ => [])
  := by
  rw [GtsTunnel.addStream] at hadd
  split at hadd
  · cases hadd
  next hok =>
  obtain ⟨s, hs, hadd⟩ := bind_eq_ok.mp hadd
  cases hadd
  apply does_setTunnel hr
  intro k
  rw [ht']
  dsimp only
  rw [TreeMap.getElem?_insert, hstreams]
  by_cases hk : id = k
  · subst hk
    have hnone : r.tunnel.streams[id]? = none := by
      rw [← hstreams]
      apply Std.ExtTreeMap.getElem?_eq_none
      exact (not_or.mp hok).2
    rw [if_pos rfl, if_pos rfl, hnone]
    apply GtsStream.moved_new _ hs
  · rw [if_neg hk, if_neg hk]
    apply GtsStream.moved_self

theorem does_openStream (honly : e.Only h) (k : U32) (profile : StreamProfile) :
  Does e (e.openStream k profile).2 h none (fun _ => []) (fun _ => [])
  := by
  obtain ⟨hsame, -⟩ | ⟨-, r, id, t, hr, halloc, -, hadded⟩ := e.openStream_cases k profile
  · rw [hsame]
    apply does_same none rfl rfl
  obtain rfl := honly.record hr
  obtain ⟨-, -, -, rfl⟩ := GtsTunnel.allocStreamId_eq_ok halloc
  obtain ⟨-, hopened⟩ | ⟨t₁, hadd, hopened⟩ := hadded
  · rw [hopened]
    exact does_setTunnel_same hr rfl
  · have hset : Does e (e.setTunnel k r { t₁ with streams := t₁.streams.modify id GtsStream.markOpening })
        k none (fun _ => []) (fun _ => []) := by
      apply does_addStream hr _ hadd (some .opening)
      · intro i
        rw [TreeMap.getElem?_modify]
        rfl
      · rfl
    obtain hopened | ⟨remote, -, hopened⟩ := hopened
    · rw [hopened]
      apply hset
    · rw [hopened]
      apply hset.sendGts
      exact fun _ => ⟨rfl, rfl, rfl⟩

/-- A tunnel with one stream is there. -/
theorem does_newTunnel {e' : Endpoint} {input : Option GtsPacket} (hnone : e.tunnels[h]? = none)
    {r : TunnelRecord} (htunnels : e'.tunnels = e.tunnels.insert h r) {profile : StreamProfile}
    {openedByLocal : Bool} {localCredit peerCredit : U8} {s : GtsStream}
    (hs : GtsStream.new 0#8 profile openedByLocal localCredit peerCredit = .ok s)
    (hstreams : r.tunnel.streams = (∅ : BTreeMap U8 GtsStream).insert 0#8 s)
    (houtbox : e'.outbox = e.outbox) :
  Does e e' h input (fun _ => []) (fun _ => [])
  := by
  refine ⟨[], by rw [houtbox, List.append_nil], ?_⟩
  intro id
  rw [streamAt_eq_none hnone, streamAt_insert htunnels, hstreams, TreeMap.getElem?_insert,
    Std.ExtTreeMap.getElem?_empty]
  by_cases hid : 0#8 = id
  · subst hid
    rw [if_pos rfl]
    apply GtsStream.moved_new input hs s.state
  · rw [if_neg hid]
    apply GtsStream.moved_self

/-- The first tunnel is asked for. -/
theorem does_connect (hnone : e.tunnels[h]? = none) (hnext : e.nextTunnel = h) (remote : GdpAddress)
    (css : ServiceSelector) (profile : StreamProfile) :
  Does e (e.connect remote css profile).2 h none (fun _ => []) (fun _ => [])
  := by
  rw [connect]
  split
  · apply does_same none rfl rfl
  dsimp only [allocTunnel]
  split
  · exact does_same none rfl rfl
  next t ht =>
  obtain ⟨s, hs, ht⟩ := bind_eq_ok.mp ht
  cases ht
  subst hnext
  generalize hsent : sendGts _ _ _ _ = sent
  have hdoes : Does e sent.2 e.nextTunnel none (fun _ => []) (fun _ => []) := by
    rw [← hsent]
    apply Does.sendGts
    · exact does_newTunnel hnone rfl hs rfl rfl
    · exact fun _ => ⟨rfl, rfl, rfl⟩
  obtain ⟨result, e'⟩ := sent
  cases result with
  | error err => exact hdoes
  | ok _ => exact hdoes

/-- The packets that are sent again are the first of those that are due. -/
theorem outbox_sendPending (packets : List (GdpAddress × StreamProfile × GtsPacket)) (e : Endpoint) :
  ∃ out, (sendPending packets e).2.outbox = e.outbox ++ out ∧
    ∀ x ∈ out, ∃ y ∈ packets, x.2.2 = y.2.2
  := by
  rw [sendPending]
  refine sendEach_keeps (P := fun e' : Endpoint => ∃ out, e'.outbox = e.outbox ++ out ∧
    ∀ x ∈ out, ∃ y ∈ packets, x.2.2 = y.2.2) ?_ ⟨[], (List.append_nil _).symm, List.forall_mem_nil _⟩
  rintro y hy e' ⟨out, hout, hall⟩
  obtain hsame | ⟨sizeClass, hsent⟩ := (e'.outbox_sendGts y.1 y.2.2 (some y.2.1)).2.2
  · exact ⟨out, hsame.trans hout, hall⟩
  · refine ⟨out ++ [(y.1, sizeClass, y.2.2)], ?_, ?_⟩
    · rw [hsent, hout, List.append_assoc]
    · exact List.forall_mem_append.mpr ⟨hall, List.forall_mem_singleton.mpr ⟨y, hy, rfl⟩⟩

/-- There is at most one tunnel to look through. -/
theorem Only.toList_tunnels (honly : e.Only h) :
  e.tunnels.toList = [] ∨ ∃ r, e.record h = .ok r ∧ e.tunnels.toList = [(h, r)]
  := by
  have hall : ∀ x ∈ e.tunnels.toList, x.1 = h ∧ e.tunnels[x.1]? = some x.2 := by
    intro x hx
    have hget := Std.ExtTreeMap.mem_toList_iff_getElem?_eq_some.mp hx
    exact ⟨honly _ _ hget, hget⟩
  have hdistinct := @Std.ExtTreeMap.distinct_keys_toList _ _ _ e.tunnels _
  generalize e.tunnels.toList = l at hall hdistinct
  rcases l with _ | ⟨⟨k, r⟩, _ | ⟨y, rest⟩⟩
  · exact .inl rfl
  · obtain ⟨rfl, hget⟩ := hall (k, r) List.mem_cons_self
    exact .inr ⟨r, by rw [Endpoint.record, hget], rfl⟩
  · obtain ⟨hx, -⟩ := hall (k, r) List.mem_cons_self
    obtain ⟨hy, -⟩ := hall y (List.mem_cons_of_mem _ List.mem_cons_self)
    have hne := (List.pairwise_cons.mp hdistinct).1 y List.mem_cons_self
    rw [hx, hy] at hne
    exact absurd Std.ReflCmp.compare_self hne

/-- What is found to be due, and what becomes of it. -/
theorem tick_cases (honly : e.Only h) (now : U64) :
  (e.tick now).2 = e ∨ ∃ r remote, e.record h = .ok r ∧
    (e.tick now).2 = (sendPending (dueOfTunnel r remote now) (e.setTunnel h r { r.tunnel with
      streams := r.tunnel.streams.map (fun _ s => (s.retransmitDue remote now).2) })).2
  := by
  have hsnd : ∀ {packets e'}, dueOfTunnels now e.tunnels.toList e = (.ok packets, e') →
      (e.tick now).2 = (sendPending packets e').2 := by
    intro packets e' heq
    rw [tick, heq, snd_sendFound_ok, sendPending]
  rcases honly.toList_tunnels with hlist | ⟨r, hr, hlist⟩
  · left
    rw [hlist] at hsnd
    apply hsnd rfl
  rw [hlist] at hsnd
  by_cases hstate : r.tunnel.state ≠ .established
  · left
    have hdue : dueOfTunnels now [(h, r)] e = (.ok [], e) := by
      rw [dueOfTunnels, if_pos hstate]
      rfl
    apply hsnd hdue
  cases hremote : r.tunnel.remoteId with
  | error err =>
    left
    rw [tick, hlist, dueOfTunnels, if_neg hstate, hremote, sendFound]
  | ok remote =>
    refine .inr ⟨r, remote, hr, hsnd ?_⟩
    rw [dueOfTunnels, if_neg hstate, hremote]
    dsimp only
    rw [dueOfTunnels]
    dsimp only
    rw [List.append_nil]

/-- What is due is sent again. -/
theorem does_tick (honly : e.Only h) (hnumbered : e.StreamsNumbered h) (now : U64) :
  Does e (e.tick now).2 h none (fun _ => []) (fun _ => [])
  := by
  obtain heq | ⟨r, remote, hr, heq⟩ := tick_cases honly now
  · rw [heq]
    apply does_same none rfl rfl
  obtain ⟨out, hout, hdue⟩ := outbox_sendPending (dueOfTunnel r remote now) (e.setTunnel h r
    { r.tunnel with streams := r.tunnel.streams.map (fun _ s => (s.retransmitDue remote now).2) })
  rw [heq]
  refine ⟨out, hout, ?_⟩
  intro id
  rw [streamAt_congr (tunnels_sendPending _ _), streamAt_setTunnel, streamAt_of_record hr]
  dsimp only
  rw [Std.ExtTreeMap.getElem?_map]
  have hstreams : ∀ {k : U8} {s : GtsStream}, r.tunnel.streams[k]? = some s → s.id = k := by
    intro k s hs
    apply hnumbered
    rw [streamAt_of_record hr, hs]
  -- A packet that is sent again belongs to the stream that it has been sent on.
  have hof : ∀ p ∈ out.map (fun x => x.2.2), p.Off id ∨
      ∃ s, r.tunnel.streams[id]? = some s ∧ p ∈ (s.retransmitDue remote now).1 := by
    rw [List.forall_mem_map]
    intro x hx
    obtain ⟨y, hy, heq⟩ := hdue x hx
    obtain ⟨s, hs, hy⟩ := List.mem_flatMap.mp hy
    obtain ⟨packet, hpacket, rfl⟩ := List.mem_map.mp hy
    obtain ⟨k, hk⟩ := TreeMap.mem_values_iff.mp hs
    rw [heq]
    by_cases hid : k = id
    · subst hid
      exact .inr ⟨s, hk, hpacket⟩
    · left
      apply GtsStream.off_retransmitDue hpacket
      rw [hstreams hk]
      apply hid
  cases hs : r.tunnel.streams[id]? with
  | none =>
    apply (GtsStream.moved_self id none none).off
    intro p hp
    rcases hof p hp with hoff | ⟨s, hs', -⟩
    · apply hoff
    · rw [hs] at hs'
      cases hs'
  | some s =>
    apply GtsStream.moved_retransmitDue
    intro p hp
    rcases hof p hp with hoff | ⟨s', hs', hmem⟩
    · exact .inl hoff
    · rw [hs] at hs'
      cases hs'
      exact .inr hmem

end Application

/-! ### What a packet does -/

section Network

variable {e : Endpoint} {h : U32}

/-- Another endpoint opens the first tunnel. -/
theorem does_handleConnect (hnone : e.tunnels[h]? = none) (hnext : e.nextTunnel = h) (src : GdpAddress)
    (remoteId remoteReset : U32) (profile : StreamProfile) (credit : U8) (css : ServiceSelector)
    (input : Option GtsPacket) :
  Does e (e.handleConnect src remoteId remoteReset profile credit css).2 h input (fun _ => [])
    (fun _ => [])
  := by
  rw [handleConnect]
  split
  · apply does_same input rfl rfl
  dsimp only [allocTunnel]
  split
  · exact does_same input rfl rfl
  next t ht =>
  obtain ⟨s, hs, ht⟩ := bind_eq_ok.mp ht
  cases ht
  subst hnext
  apply Does.sendGts
  · exact does_newTunnel hnone rfl hs rfl rfl
  · exact fun _ => ⟨rfl, rfl, rfl⟩

theorem does_handleConnectAck (honly : e.Only h) (k remoteId remoteReset : U32) (status credit : U8)
    (input : Option GtsPacket) :
  Does e (e.handleConnectAck k remoteId remoteReset status credit).2 h input (fun _ => []) (fun _ => [])
  := by
  rw [handleConnectAck]
  split
  · apply does_same input rfl rfl
  split
  · apply does_same input rfl rfl
  next r s hfind =>
  obtain ⟨hr, -⟩ := findStream_eq_ok hfind
  obtain rfl := honly.record hr
  split
  · apply does_same input rfl rfl
  split
  · exact does_same input rfl rfl
  next t ht =>
  rw [GtsTunnel.establishInitiator] at ht
  split at ht
  · cases ht
  cases ht
  apply does_setTunnel hr
  intro id
  dsimp only
  rw [TreeMap.getElem?_modify]
  by_cases hid : 0#8 = id
  · subst hid
    rw [if_pos rfl]
    cases r.tunnel.streams[0#8]? with
    | none => apply GtsStream.moved_self
    | some s =>
      exact GtsStream.moved_quiet input rfl rfl (fun h => h) (fun _ => credit) rfl rfl rfl
  · rw [if_neg hid]
    apply GtsStream.moved_self

theorem does_handleStreamOpen (honly : e.Only h) (k : U32) (id : U8) (profile : StreamProfile)
    (credit : U8) (input : Option GtsPacket) :
  Does e (e.handleStreamOpen k id profile credit).2 h input (fun _ => []) (fun _ => [])
  := by
  rw [handleStreamOpen]
  split
  · apply does_same input rfl rfl
  next r hr =>
  obtain rfl := honly.record hr
  split
  · apply does_same input rfl rfl
  split
  · apply does_same input rfl rfl
  dsimp only
  split
  · apply does_same input rfl rfl
  next t hadd =>
  apply (does_addStream hr rfl hadd none _).reply
  · exact fun _ _ => ⟨rfl, rfl, rfl⟩
  · intro i
    split
    · cases t.streams[i]? <;> rfl
    · rfl

theorem does_handleStreamAck (honly : e.Only h) (k : U32) (id status credit : U8)
    (input : Option GtsPacket) :
  Does e (e.handleStreamAck k id status credit).2 h input (fun _ => []) (fun _ => [])
  := by
  rw [handleStreamAck]
  split
  · apply does_same input rfl rfl
  split
  · apply does_same input rfl rfl
  next r s hfind =>
  obtain rfl := honly.record (findStream_eq_ok hfind).1
  split
  · apply does_same input rfl rfl
  split
  · apply does_same input rfl rfl
  next s' hack =>
  apply does_setStream_quiet hfind
  rw [GtsStream.applyOpenAck] at hack
  split at hack
  · cases hack
  next hstate =>
  cases hack
  apply GtsStream.moved_quiet input _ _ _ (fun _ => credit)
  · rfl
  · rfl
  · rfl
  · rfl
  · rfl
  · intro hreset
    simp [hreset] at hstate

/-- What a stream accepts, it accepts before it has been reset. -/
theorem ne_reset_of_validateIncoming {s : GtsStream} {sizeClass : SizeClass} {packet : GtsPacket}
    (hvalid : s.validateIncoming sizeClass packet = .ok ()) :
  s.state ≠ .reset
  := by
  intro hreset
  rw [GtsStream.validateIncoming.eq_def, if_pos (.inr hreset)] at hvalid
  cases hvalid

theorem does_handleStreamClose (honly : e.Only h) (sizeClass : SizeClass) (k : U32) (id : U8)
    (finalSequence : U32) (ack : Bool) (input : Option GtsPacket) :
  Does e (e.handleStreamClose sizeClass k id finalSequence ack).2 h input (fun _ => []) (fun _ => [])
  := by
  rw [handleStreamClose]
  split
  · apply does_same input rfl rfl
  next r s hfind =>
  obtain rfl := honly.record (findStream_eq_ok hfind).1
  split
  · apply does_same input rfl rfl
  next hvalid =>
  have hset : Does e (e.setStream k r id { s with state := .closed }) k input (fun _ => [])
      (fun _ => []) := by
    apply does_setStream_quiet hfind
    apply GtsStream.moved_state
    intro hreset
    exact absurd hreset (ne_reset_of_validateIncoming hvalid)
  split
  · apply hset
  · apply hset.reply
    exact fun _ _ => ⟨rfl, rfl, rfl⟩

/-- A message of a reliable stream arrives. -/
theorem does_handleData (honly : e.Only h) (sizeClass : SizeClass) (k : U32) (id : U8) (seq : U32)
    (data : Bytes) (isEnd : Bool) :
  Does e (e.handleData sizeClass k id (.data k id seq data isEnd)).2 h
    (some (.data k id seq data isEnd)) (fun _ => []) (fun _ => [])
  := by
  rw [handleData]
  split
  · apply does_same _ rfl rfl
  next r s hfind =>
  obtain rfl := honly.record (findStream_eq_ok hfind).1
  split
  · apply does_same _ rfl rfl
  split
  · apply does_same _ rfl rfl
  next ack s' hreceive =>
  have hsent : ∀ {e' : Endpoint} {out : List (GdpAddress × SizeClass × GtsPacket)} {remote : U32},
      e'.tunnels = (e.setStream k r id s').tunnels → e'.outbox = e.outbox ++ out →
      (∀ x ∈ out, ∃ a, ack = some (GtsStream.ackPacket k id a) ∧
        x.2.2 = GtsStream.ackPacket remote id a) →
      Does e e' k (some (.data k id seq data isEnd)) (fun _ => []) (fun _ => []) := by
    intro e' out remote htunnels houtbox hout
    apply does_setStream hfind houtbox htunnels
    · apply GtsStream.moved_receive_data rfl hreceive
      rw [List.forall_mem_map]
      apply hout
    · intro i hi
      refine ⟨?_, rfl, rfl⟩
      intro x hx
      obtain ⟨a, -, heq⟩ := hout x hx
      rw [heq]
      apply GtsPacket.off_ack hi.symm
  have hquiet := @hsent (e.setStream k r id s') [] 0#32 rfl (List.append_nil _).symm
    (List.forall_mem_nil _)
  dsimp only
  split
  · apply hquiet
  next remote _ =>
  split
  · next tunnelId' id' base bitmap credit =>
    obtain ⟨a, ha⟩ := GtsStream.eq_ackPacket_of_receivePacket hreceive
    cases ha
    obtain ⟨-, -, hsame | ⟨sizeClass, hsame⟩⟩ := (e.setStream k r id s').outbox_sendGts r.peer
      (GtsStream.ackPacket remote id a) (some s.profile)
    · apply @hsent _ _ remote (tunnels_sendGts _ _ _ _) (hsame.trans (List.append_nil _).symm)
      exact List.forall_mem_nil _
    · apply hsent (tunnels_sendGts _ _ _ _) hsame
      rw [List.forall_mem_singleton]
      exact ⟨a, rfl, rfl⟩
  · apply hquiet

/-- A message of an unreliable stream arrives. -/
theorem does_handleDatagram (honly : e.Only h) (sizeClass : SizeClass) (k : U32) (id : U8)
    (sequence : Option U32) (data : Bytes) :
  Does e (e.handleDatagram sizeClass k id (.datagram k id sequence data)).2 h
    (some (.datagram k id sequence data)) (fun _ => []) (fun _ => [])
  := by
  rw [handleDatagram]
  split
  · apply does_same _ rfl rfl
  next r s hfind =>
  obtain rfl := honly.record (findStream_eq_ok hfind).1
  split
  · apply does_same _ rfl rfl
  split
  · apply does_same _ rfl rfl
  next ack s' hreceive =>
  apply does_setStream_quiet hfind
  apply GtsStream.moved_receive_datagram rfl hreceive

/-- An acknowledgement arrives. -/
theorem does_handleAck (honly : e.Only h) (sizeClass : SizeClass) (k : U32) (id : U8)
    (base bitmap : U32) (credit : U8) :
  Does e (e.handleAck sizeClass k id base bitmap credit).2 h (some (.ack k id base bitmap credit))
    (fun _ => []) (fun _ => [])
  := by
  rw [handleAck]
  split
  · apply does_same _ rfl rfl
  next r s hfind =>
  obtain rfl := honly.record (findStream_eq_ok hfind).1
  split
  · apply does_same _ rfl rfl
  split
  · apply does_same _ rfl rfl
  next s' hack =>
  apply does_setStream_quiet hfind
  apply GtsStream.moved_onAck hack

theorem does_handleStreamReset (honly : e.Only h) (k : U32) (id reason : U8) (ack : Bool)
    (input : Option GtsPacket) :
  Does e (e.handleStreamReset k id reason ack).2 h input (fun _ => []) (fun _ => [])
  := by
  rw [handleStreamReset]
  split
  · apply does_same input rfl rfl
  next r s hfind =>
  obtain rfl := honly.record (findStream_eq_ok hfind).1
  have hset := does_setStream_quiet hfind (GtsStream.moved_reset input s)
  split
  · apply hset
  · apply hset.reply
    exact fun _ _ => ⟨rfl, rfl, rfl⟩

theorem does_handleTunnelClose (honly : e.Only h) (k : U32) (ack : Bool) (input : Option GtsPacket) :
  Does e (e.handleTunnelClose k ack).2 h input (fun _ => []) (fun _ => [])
  := by
  rw [handleTunnelClose]
  split
  · apply does_same input rfl rfl
  next r hr =>
  obtain rfl := honly.record hr
  split
  · exact does_setTunnel_same hr rfl
  split
  · exact does_same input rfl rfl
  apply (does_setTunnel_same hr _).reply
  · exact fun _ _ => ⟨rfl, rfl, rfl⟩
  · rfl

theorem does_handleReset (honly : e.Only h) (k resetId : U32) (input : Option GtsPacket) :
  Does e (e.handleReset k resetId).2 h input (fun _ => []) (fun _ => [])
  := by
  rw [handleReset]
  split
  · apply does_same input rfl rfl
  next r hr =>
  obtain rfl := honly.record hr
  split
  · apply does_same input rfl rfl
  · apply does_setTunnel_reset hr

/-- What a packet does that arrives.  A tunnel is opened only where there is none. -/
theorem does_receive (honly : e.Only h) (src : GdpAddress) (sizeClass : SizeClass) (packet : GtsPacket)
    (hconnect : ∀ remoteId remoteReset profile credit css,
      packet = .connect remoteId remoteReset profile credit css →
        e.tunnels[h]? = none ∧ e.nextTunnel = h) :
  Does e (e.step (.receive src sizeClass packet)) h (some packet) (fun _ => []) (fun _ => [])
  := by
  cases packet with
  | connect remoteId remoteReset profile credit css =>
    obtain ⟨hnone, hnext⟩ := hconnect _ _ _ _ _ rfl
    apply does_handleConnect hnone hnext
  | connectAck k remoteId remoteReset status credit => apply does_handleConnectAck honly
  | streamOpen k id profile credit => apply does_handleStreamOpen honly
  | streamAck k id status credit => apply does_handleStreamAck honly
  | data k id seq data isEnd => apply does_handleData honly
  | ack k id base bitmap credit => apply does_handleAck honly
  | datagram k id sequence data => apply does_handleDatagram honly
  | streamClose k id finalSequence ack => apply does_handleStreamClose honly
  | tunnelClose k ack => apply does_handleTunnelClose honly
  | reset k resetId reason => apply does_handleReset honly
  | streamReset k id reason ack => apply does_handleStreamReset honly

end Network

/-! ### Any call -/

/-- What a call of the application does. -/
theorem does_call {e : Endpoint} {h : U32} (hup : e.linkUp = true) (honly : e.Only h)
    (hnumbered : e.StreamsNumbered h) {a : Action} (ha : a.IsCall = true) :
  Does e (e.step a) h none (fun id => e.sends h id a) (fun id => Inbox.returns e h id a)
  := by
  cases a with
  | listen css config => exact does_same none rfl rfl
  | accept =>
    rw [step, accept]
    split
    · apply does_same none rfl rfl
    · apply does_same none rfl rfl
  | connect => cases ha
  | openStream k profile => apply does_openStream honly
  | send k id data now => apply does_sendInner hup honly hnumbered
  | sendEnd k id data now => apply does_sendInner hup honly hnumbered
  | recv k id => apply does_recv hup honly hnumbered
  | closeStream k id => apply does_closeStream honly
  | resetStream k id reason => apply does_resetStream honly
  | closeTunnel k => apply does_closeTunnel honly
  | resetTunnel k reason => apply does_resetTunnel honly
  | tick now => apply does_tick honly hnumbered
  | receive => cases ha
  | linkChanged => cases ha
  | assigned => cases ha
  | transmitted => cases ha

end Endpoint

end SmolGnet
