import SmolGnet.Wire.Gdp

/-!
# GTS packets

The packets of the transport, the profile of a stream, and the size class in which a
packet travels.  A packet of a stream with fixed messages has the class of the profile;
every other packet has the smallest class it fits into.
-/

namespace SmolGnet

/-! ### Service selectors -/

/-- The name of a service, 16 bytes. -/
structure ServiceSelector where
  bytes : Bytes
  length_eq : bytes.length = 16
  deriving DecidableEq

/-- The three forms in which a service selector is encoded. -/
inductive CssWire where
  | registered (code : U8)
  | short (v : Bytes)
  | full (v : Bytes)
  deriving DecidableEq

/-- Every byte is an upper-case letter or a digit. -/
def validShort (bytes : Bytes) : Bool :=
  bytes.all (fun b => (0x41#8 ≤ b && b ≤ 0x5a#8) || (0x30#8 ≤ b && b ≤ 0x39#8))

/-- The code of a registered name: `FILE` or `GRPC`. -/
def shortToRegistered (v : Bytes) : Option U8 :=
  if v = [0x46#8, 0x49#8, 0x4c#8, 0x45#8] then some 1#8
  else if v = [0x47#8, 0x52#8, 0x50#8, 0x43#8] then some 2#8
  else none

namespace ServiceSelector

/-- The service that is used in the examples of runs. -/
def ones : ServiceSelector :=
  ⟨List.replicate 16 1#8, rfl⟩

/-- The form in which the selector is encoded. -/
def canonicalWire (s : ServiceSelector) : Except Error CssWire :=
  if s.bytes = List.replicate 16 0#8 then .error .invalidField
  else if (s.bytes.drop 4).all (fun b => b = 0#8) ∧ validShort (s.bytes.take 4) then
    match shortToRegistered (s.bytes.take 4) with
    | some c => .ok (.registered c)
    | none => .ok (.short (s.bytes.take 4))
  else .ok (.full s.bytes)

/-- The bytes of the selector. -/
def encode (s : ServiceSelector) : Except Error Bytes :=
  match s.canonicalWire with
  | .error err => .error err
  | .ok (.registered c) => .ok [0x00#8, c]
  | .ok (.short v) => .ok (0x40#8 :: v)
  | .ok (.full v) => .ok (0x80#8 :: v)

end ServiceSelector

/-! ### Profiles -/

/-- Which side of a stream may send. -/
inductive Direction where
  | openerToPeer
  | peerToOpener
  | bidirectional
  deriving DecidableEq, Repr

namespace Direction

/-- The side that opened the stream may send. -/
def openerMaySend : Direction → Bool
  | openerToPeer => true
  | peerToOpener => false
  | bidirectional => true

/-- The other side may send. -/
def peerMaySend : Direction → Bool
  | openerToPeer => false
  | peerToOpener => true
  | bidirectional => true

end Direction

/-- What the two sides have agreed on for a stream. -/
structure StreamProfile where
  unreliable : Bool
  variableLen : Bool
  sequenced : Bool
  uncheckedPayload : Bool
  direction : Direction
  sizeClass : SizeClass
  deriving DecidableEq, Repr

/-- A reliable stream is neither sequenced nor unchecked. -/
def StreamProfile.validate (p : StreamProfile) : Except Error StreamProfile :=
  if !p.unreliable ∧ (p.sequenced ∨ p.uncheckedPayload) then .error .profileViolation
  else .ok p

theorem StreamProfile.validate_eq_ok {p q : StreamProfile} (h : p.validate = .ok q) :
  q = p
  := by
  rw [validate] at h
  split at h
  · cases h
  · cases h
    rfl

/-! ### Packets -/

/-- The packets of the transport. -/
inductive GtsPacket where
  | connect (initiatorReceiveTunnel initiatorResetId : U32) (profile : StreamProfile)
      (initialReceiveCredit : U8) (css : ServiceSelector)
  | connectAck (initiatorReceiveTunnel responderReceiveTunnel responderResetId : U32)
      (status initialReceiveCredit : U8)
  | streamOpen (tunnelId : U32) (streamId : U8) (profile : StreamProfile)
      (initialReceiveCredit : U8)
  | streamAck (tunnelId : U32) (streamId status initialReceiveCredit : U8)
  | data (tunnelId : U32) (streamId : U8) (sequence : U32) (data : Bytes) (isEnd : Bool)
  | ack (tunnelId : U32) (streamId : U8) (ackBase receiveBitmap : U32) (receiveCredit : U8)
  | datagram (tunnelId : U32) (streamId : U8) (sequence : Option U32) (data : Bytes)
  | streamClose (tunnelId : U32) (streamId : U8) (finalSequence : U32) (ack : Bool)
  | tunnelClose (tunnelId : U32) (ack : Bool)
  | reset (tunnelId resetId : U32) (reason : U8)
  | streamReset (tunnelId : U32) (streamId reason : U8) (ack : Bool)
  deriving DecidableEq

namespace GtsPacket

/-- The number of bytes the packet needs. -/
def minimumLen (packet : GtsPacket) (profile : Option StreamProfile) : Except Error ℕ :=
  match packet with
  | connect _ _ _ _ css =>
    match css.encode with
    | .ok bytes => .ok (1 + 4 + 4 + 2 + 1 + bytes.length + 4)
    | .error err => .error err
  | connectAck .. => .ok (1 + 4 + 4 + 4 + 1 + 1 + 1 + 4)
  | streamOpen .. => .ok (1 + 4 + 1 + 2 + 1 + 1 + 4)
  | streamAck .. => .ok (1 + 4 + 1 + 1 + 1 + 1 + 4)
  | ack .. => .ok 20
  | streamClose .. => .ok (1 + 4 + 1 + 4 + 4)
  | tunnelClose .. => .ok (1 + 4 + 4)
  | reset .. => .ok (1 + 4 + 4 + 1 + 4)
  | streamReset .. => .ok 12
  | .data _ _ _ bytes isEnd =>
    match profile with
    | none => .error .profileViolation
    | some p =>
      if p.unreliable then .error .profileViolation
      else .ok (10 + (if p.variableLen || isEnd then 2 else 0) + bytes.length + 4)
  | datagram _ _ _ bytes =>
    match profile with
    | none => .error .profileViolation
    | some p =>
      if !p.unreliable then .error .profileViolation
      else
        .ok (6 + (if p.sequenced then 4 else 0) + (if p.variableLen then 2 else 0)
          + bytes.length + 4)

/-- The smallest class for `need` bytes, if the limit allows it. -/
def smallestWithin (need : ℕ) (limit : SizeClass) : Except Error SizeClass :=
  match SizeClass.smallestFor need with
  | none => .error .messageTooLarge
  | some c => if limit.toWire < c.toWire then .error .messageTooLarge else .ok c

/-- The class of a packet that is not a message of a stream. -/
def chooseControlClass (packet : GtsPacket) (profile : Option StreamProfile) :
    Except Error SizeClass :=
  match packet.minimumLen profile with
  | .error err => .error err
  | .ok need =>
    match SizeClass.smallestFor need with
    | none => .error .messageTooLarge
    | some c => .ok c

/-- The class in which the packet travels. -/
def chooseSizeClass (packet : GtsPacket) (profile : Option StreamProfile) :
    Except Error SizeClass :=
  match profile, packet with
  | some p, .data _ _ _ _ isEnd =>
    match packet.minimumLen (some p) with
    | .error err => .error err
    | .ok need =>
      if p.variableLen then smallestWithin need p.sizeClass
      else if isEnd then
        if p.sizeClass.bytes < need then .error .messageTooLarge else .ok p.sizeClass
      else if need ≠ p.sizeClass.bytes then .error .invalidLength
      else .ok p.sizeClass
  | some p, datagram .. =>
    match packet.minimumLen (some p) with
    | .error err => .error err
    | .ok need =>
      if p.variableLen then smallestWithin need p.sizeClass
      else if need ≠ p.sizeClass.bytes then .error .invalidLength
      else .ok p.sizeClass
  | _, _ => packet.chooseControlClass profile

end GtsPacket

/-! ### The choice of a class -/

/-- In a list of classes in increasing order, the first with room for `need` bytes is at
most any other with room for them. -/
theorem SizeClass.find?_le {l : List SizeClass}
    (hl : l.Pairwise (fun c c' => c.toWire < c'.toWire)) {need : ℕ} {limit : SizeClass}
    (hmem : limit ∈ l) (h : need ≤ limit.bytes) :
  ∃ c, l.find? (fun c => need ≤ c.bytes) = some c ∧ need ≤ c.bytes ∧ c.toWire ≤ limit.toWire
  := by
  induction l with
  | nil => cases hmem
  | cons c l ih =>
    obtain ⟨hc, hl⟩ := List.pairwise_cons.mp hl
    by_cases hroom : need ≤ c.bytes
    · use c, List.find?_cons_of_pos (by simpa using hroom), hroom
      rcases List.mem_cons.mp hmem with rfl | hmem
      · apply BitVec.le_refl
      · apply BitVec.le_of_lt (hc limit hmem)
    · rcases List.mem_cons.mp hmem with rfl | hmem
      · contradiction
      · rw [List.find?_cons_of_neg (by simpa using hroom)]
        apply ih hl hmem

/-- Some class within the limit has room for what fits into the limit. -/
theorem GtsPacket.smallestWithin_of_le {need : ℕ} {limit : SizeClass}
    (h : need ≤ limit.bytes) :
  ∃ c, smallestWithin need limit = .ok c ∧ need ≤ c.bytes ∧ c.toWire ≤ limit.toWire
  := by
  have hmem : limit ∈ SizeClass.all := by cases limit <;> decide
  obtain ⟨c, hc, hroom, hle⟩ := SizeClass.find?_le (by decide) hmem h
  use c
  rw [smallestWithin, SizeClass.smallestFor, hc]
  use if_neg (BitVec.not_lt.mpr hle), hroom, hle

end SmolGnet
