import SmolGnet.Basic
import SmolGnet.Library.Octets

/-!
# Control frames of a managed link

The frames with which the two ends of a link agree on how to use it.  Each is one word of
32 bits: an opcode, a version, the generation of the sender and the fields of the opcode.
-/

namespace SmolGnet

open Octets

/-- The version of control frames. -/
def dlpControlVersion : U8 := 1#8

/-- The kinds of a `HELLO` frame. -/
inductive DlpHelloKind where
  | initial
  | acknowledgement
  deriving DecidableEq, Repr

namespace DlpHelloKind

/-- The number of the kind, `self as u32`. -/
def toWire : DlpHelloKind → U32
  | initial => 0#32
  | acknowledgement => 1#32

/-- The kind with the number `v`. -/
def fromWire (v : U8) : Except Error DlpHelloKind :=
  if v = 0#8 then .ok initial
  else if v = 1#8 then .ok acknowledgement
  else .error .invalidField

end DlpHelloKind

/-- The kinds of a frame with capabilities or parameters. -/
inductive DlpCapabilityKind where
  | offer
  | selection
  | confirmation
  deriving DecidableEq, Repr

namespace DlpCapabilityKind

/-- The number of the kind, `self as u32`. -/
def toWire : DlpCapabilityKind → U32
  | offer => 0#32
  | selection => 1#32
  | confirmation => 2#32

/-- The kind with the number `v`. -/
def fromWire (v : U8) : Except Error DlpCapabilityKind :=
  if v = 0#8 then .ok offer
  else if v = 1#8 then .ok selection
  else if v = 2#8 then .ok confirmation
  else .error .invalidField

end DlpCapabilityKind

/-- The opcodes of control frames. -/
inductive DlpControlOpcode where
  | hello
  | capabilities
  | reset
  | linkParameters
  deriving DecidableEq, Repr

namespace DlpControlOpcode

/-- The number of the opcode, `self as u32`. -/
def toWire : DlpControlOpcode → U32
  | hello => 0x1#32
  | capabilities => 0x2#32
  | reset => 0x3#32
  | linkParameters => 0x8#32

/-- The opcode with the number `v`. -/
def fromWire (v : U8) : Except Error DlpControlOpcode :=
  if v = 0x1#8 then .ok hello
  else if v = 0x2#8 then .ok capabilities
  else if v = 0x3#8 then .ok reset
  else if v = 0x8#8 then .ok linkParameters
  else .error .unsupported

end DlpControlOpcode

/-- A control frame. -/
inductive DlpControlFrame where
  | hello (kind : DlpHelloKind) (senderGeneration peerGeneration : U8)
  | capabilities (kind : DlpCapabilityKind) (senderGeneration profiles rates : U8)
  | reset (senderGeneration reason : U8)
  | linkParameters (kind : DlpCapabilityKind) (senderGeneration rxWindowUnits burstUnits : U8)
  deriving DecidableEq, Repr

/-- `v.is_power_of_two()`. -/
def isPowerOfTwo (v : U8) : Bool :=
  v ≠ 0#8 && v &&& (v - 1#8) = 0#8

namespace DlpControlFrame

/-- The generation of the sender. -/
def senderGeneration : DlpControlFrame → U8
  | hello _ g _ => g
  | capabilities _ g _ _ => g
  | reset g _ => g
  | linkParameters _ g _ _ => g

/-- The opcode and the version in their place. -/
def headWord (opcode : DlpControlOpcode) : U32 :=
  opcode.toWire <<< 28 ||| dlpControlVersion.setWidth 32 <<< 24

/-- The word of a frame. -/
def toWord : DlpControlFrame → U32
  | hello kind g peer =>
    headWord .hello ||| kind.toWire <<< 22 ||| (g &&& 0x3f#8).setWidth 32 <<< 16
      ||| (peer &&& 0x3f#8).setWidth 32 <<< 10
  | capabilities kind g profiles rates =>
    headWord .capabilities ||| (g &&& 0x3f#8).setWidth 32 <<< 18 ||| kind.toWire <<< 16
      ||| (profiles &&& 0x0f#8).setWidth 32 <<< 12 ||| (rates &&& 0x07#8).setWidth 32 <<< 9
  | reset g reason =>
    headWord .reset ||| (g &&& 0x3f#8).setWidth 32 <<< 18
      ||| (reason &&& 0x0f#8).setWidth 32 <<< 14
  | linkParameters kind g rxWindowUnits burstUnits =>
    headWord .linkParameters ||| (g &&& 0x3f#8).setWidth 32 <<< 18 ||| kind.toWire <<< 16
      ||| rxWindowUnits.setWidth 32 <<< 8 ||| burstUnits.setWidth 32

/-- The bytes of a frame. -/
def encode (frame : DlpControlFrame) : Bytes :=
  toBeBytes frame.toWord

/-- The `HELLO` frame of a word. -/
def decodeHello (word : U32) : Except Error DlpControlFrame :=
  if word &&& 0x3ff#32 ≠ 0#32 then .error .nonCanonical
  else do
    let kind ← DlpHelloKind.fromWire ((word >>> 22 &&& 0x3#32).setWidth 8)
    let senderGeneration : U8 := (word >>> 16 &&& 0x3f#32).setWidth 8
    let peerGeneration : U8 := (word >>> 10 &&& 0x3f#32).setWidth 8
    if senderGeneration = 0#8 then .error .invalidField
    else if kind = .initial ∧ peerGeneration ≠ 0#8 then .error .invalidField
    else if kind = .acknowledgement ∧ peerGeneration = 0#8 then .error .invalidField
    else .ok (hello kind senderGeneration peerGeneration)

/-- The `CAPABILITIES` frame of a word. -/
def decodeCapabilities (word : U32) : Except Error DlpControlFrame :=
  if word &&& 0x1ff#32 ≠ 0#32 then .error .nonCanonical
  else do
    let senderGeneration : U8 := (word >>> 18 &&& 0x3f#32).setWidth 8
    let kind ← DlpCapabilityKind.fromWire ((word >>> 16 &&& 0x3#32).setWidth 8)
    let profiles : U8 := (word >>> 12 &&& 0xf#32).setWidth 8
    let rates : U8 := (word >>> 9 &&& 0x7#32).setWidth 8
    if senderGeneration = 0#8 ∨ profiles = 0#8 ∨ rates = 0#8 then .error .invalidField
    else if kind ≠ .offer ∧ (!isPowerOfTwo profiles ∨ !isPowerOfTwo rates) then
      .error .invalidField
    else .ok (capabilities kind senderGeneration profiles rates)

/-- The `RESET` frame of a word. -/
def decodeReset (word : U32) : Except Error DlpControlFrame :=
  if word &&& 0x3fff#32 ≠ 0#32 then .error .nonCanonical
  else
    let senderGeneration : U8 := (word >>> 18 &&& 0x3f#32).setWidth 8
    let reason : U8 := (word >>> 14 &&& 0xf#32).setWidth 8
    if senderGeneration = 0#8 then .error .invalidField
    else .ok (reset senderGeneration reason)

/-- The `LINK_PARAMETERS` frame of a word. -/
def decodeLinkParameters (word : U32) : Except Error DlpControlFrame := do
  let senderGeneration : U8 := (word >>> 18 &&& 0x3f#32).setWidth 8
  let kind ← DlpCapabilityKind.fromWire ((word >>> 16 &&& 0x3#32).setWidth 8)
  let rxWindowUnits : U8 := (word >>> 8 &&& 0xff#32).setWidth 8
  let burstUnits : U8 := (word &&& 0xff#32).setWidth 8
  if senderGeneration = 0#8 ∨ rxWindowUnits = 0#8 ∨ burstUnits = 0#8 then .error .invalidField
  else .ok (linkParameters kind senderGeneration rxWindowUnits burstUnits)

/-- The frame of a word. -/
def ofWord (word : U32) : Except Error DlpControlFrame := do
  let opcode ← DlpControlOpcode.fromWire ((word >>> 28 &&& 0xf#32).setWidth 8)
  if (word >>> 24 &&& 0xf#32).setWidth 8 ≠ dlpControlVersion then .error .unsupported
  else
    match opcode with
    | .hello => decodeHello word
    | .capabilities => decodeCapabilities word
    | .reset => decodeReset word
    | .linkParameters => decodeLinkParameters word

/-- The frame that the whole of `bytes` encodes. -/
def decode (bytes : Bytes) : Except Error DlpControlFrame :=
  if bytes.length ≠ 4 then .error .invalidLength
  else ofWord (fromBeBytes 32 bytes)

/-! ### Reading a frame back -/

/-- The fields of a frame fit into the bits there are for them and are not 0 where that is
excluded. -/
def Canonical : DlpControlFrame → Prop
  | hello kind g peer =>
    g ≠ 0#8 ∧ g ≤ 63#8 ∧ peer ≤ 63#8 ∧ (kind = .initial ↔ peer = 0#8)
  | capabilities kind g profiles rates =>
    g ≠ 0#8 ∧ g ≤ 63#8 ∧ profiles ≠ 0#8 ∧ profiles ≤ 15#8 ∧ rates ≠ 0#8 ∧ rates ≤ 7#8 ∧
      (kind ≠ .offer → isPowerOfTwo profiles ∧ isPowerOfTwo rates)
  | reset g reason => g ≠ 0#8 ∧ g ≤ 63#8 ∧ reason ≤ 15#8
  | linkParameters _ g rxWindowUnits burstUnits =>
    g ≠ 0#8 ∧ g ≤ 63#8 ∧ rxWindowUnits ≠ 0#8 ∧ burstUnits ≠ 0#8

theorem and_63_of_le :
  ∀ v : U8, v ≤ 63#8 → v &&& 0x3f#8 = v
  := by decide

theorem and_15_of_le :
  ∀ v : U8, v ≤ 15#8 → v &&& 0x0f#8 = v
  := by decide

theorem and_7_of_le :
  ∀ v : U8, v ≤ 7#8 → v &&& 0x07#8 = v
  := by decide

/-! ### Reading the fields of a word -/

/-- What stands in a word above the bit `lo`, as far as the mask goes. -/
def readField (word : U32) (lo : ℕ) (mask : U32) : U8 :=
  (word >>> lo &&& mask).setWidth 8

/-- A field is read of the parts of a word one by one. -/
theorem readField_or (a b mask : U32) (lo : ℕ) :
  readField (a ||| b) lo mask = readField a lo mask ||| readField b lo mask
  := by
  rw [readField, BitVec.ushiftRight_or_distrib, BitVec.and_or_distrib_right, BitVec.setWidth_or]
  rfl

/-- The fields of a `HELLO` are read back. -/
theorem hello_fields (kind : DlpHelloKind) (g peer : U8) :
  readField (hello kind g peer).toWord 28 0xf#32 = 0x1#8 ∧
    readField (hello kind g peer).toWord 24 0xf#32 = dlpControlVersion ∧
    readField (hello kind g peer).toWord 22 0x3#32 = kind.toWire.setWidth 8 ∧
    readField (hello kind g peer).toWord 16 0x3f#32 = g &&& 0x3f#8 ∧
    readField (hello kind g peer).toWord 10 0x3f#32 = peer &&& 0x3f#8 ∧
    (hello kind g peer).toWord &&& 0x3ff#32 = 0#32
  := by
  have hg : ∀ g : U8,
      readField ((g &&& 0x3f#8).setWidth 32 <<< 16) 28 0xf#32 = 0#8 ∧
      readField ((g &&& 0x3f#8).setWidth 32 <<< 16) 24 0xf#32 = 0#8 ∧
      readField ((g &&& 0x3f#8).setWidth 32 <<< 16) 22 0x3#32 = 0#8 ∧
      readField ((g &&& 0x3f#8).setWidth 32 <<< 16) 16 0x3f#32 = g &&& 0x3f#8 ∧
      readField ((g &&& 0x3f#8).setWidth 32 <<< 16) 10 0x3f#32 = 0#8 ∧
      (g &&& 0x3f#8).setWidth 32 <<< 16 &&& 0x3ff#32 = 0#32 := by
    decide +kernel
  have hpeer : ∀ peer : U8,
      readField ((peer &&& 0x3f#8).setWidth 32 <<< 10) 28 0xf#32 = 0#8 ∧
      readField ((peer &&& 0x3f#8).setWidth 32 <<< 10) 24 0xf#32 = 0#8 ∧
      readField ((peer &&& 0x3f#8).setWidth 32 <<< 10) 22 0x3#32 = 0#8 ∧
      readField ((peer &&& 0x3f#8).setWidth 32 <<< 10) 16 0x3f#32 = 0#8 ∧
      readField ((peer &&& 0x3f#8).setWidth 32 <<< 10) 10 0x3f#32 = peer &&& 0x3f#8 ∧
      (peer &&& 0x3f#8).setWidth 32 <<< 10 &&& 0x3ff#32 = 0#32 := by
    decide +kernel
  have hhead :
      readField (headWord .hello) 28 0xf#32 = 0x1#8 ∧
      readField (headWord .hello) 24 0xf#32 = dlpControlVersion ∧
      readField (headWord .hello) 22 0x3#32 = 0#8 ∧
      readField (headWord .hello) 16 0x3f#32 = 0#8 ∧
      readField (headWord .hello) 10 0x3f#32 = 0#8 ∧
      headWord .hello &&& 0x3ff#32 = 0#32 := by
    decide
  have hkind :
      readField (kind.toWire <<< 22) 28 0xf#32 = 0#8 ∧
      readField (kind.toWire <<< 22) 24 0xf#32 = 0#8 ∧
      readField (kind.toWire <<< 22) 22 0x3#32 = kind.toWire.setWidth 8 ∧
      readField (kind.toWire <<< 22) 16 0x3f#32 = 0#8 ∧
      readField (kind.toWire <<< 22) 10 0x3f#32 = 0#8 ∧
      kind.toWire <<< 22 &&& 0x3ff#32 = 0#32 := by
    cases kind <;> decide
  simp only [toWord, readField_or, BitVec.and_or_distrib_right, hhead, hkind, hg, hpeer,
    BitVec.or_zero, BitVec.zero_or, and_self]

theorem ofWord_hello {kind : DlpHelloKind} {g peer : U8} (h : (hello kind g peer).Canonical) :
  ofWord (hello kind g peer).toWord = .ok (hello kind g peer)
  := by
  obtain ⟨hg, hgle, hpeer, hkind⟩ := h
  obtain ⟨hopcode, hversion, hk, hgen, hpeergen, hzero⟩ := hello_fields kind g peer
  rw [readField] at hopcode hversion hk hgen hpeergen
  have hfrom : DlpHelloKind.fromWire (kind.toWire.setWidth 8) = .ok kind := by
    cases kind <;> rfl
  rw [ofWord, hopcode, hversion, show DlpControlOpcode.fromWire 0x1#8 = .ok .hello from rfl,
    ok_bind, if_neg (not_not.mpr rfl), decodeHello, if_neg (not_not.mpr hzero), hk, hgen,
    hpeergen, and_63_of_le g hgle, and_63_of_le peer hpeer, hfrom, ok_bind]
  dsimp only
  rw [if_neg hg, if_neg, if_neg]
  · rintro ⟨rfl, hnone⟩
    cases hkind.mpr hnone
  · rintro ⟨rfl, hsome⟩
    exact hsome (hkind.mp rfl)

/-- The fields of `CAPABILITIES` are read back. -/
theorem capabilities_fields (kind : DlpCapabilityKind) (g profiles rates : U8) :
  readField (capabilities kind g profiles rates).toWord 28 0xf#32 = 0x2#8 ∧
    readField (capabilities kind g profiles rates).toWord 24 0xf#32 = dlpControlVersion ∧
    readField (capabilities kind g profiles rates).toWord 18 0x3f#32 = g &&& 0x3f#8 ∧
    readField (capabilities kind g profiles rates).toWord 16 0x3#32 = kind.toWire.setWidth 8 ∧
    readField (capabilities kind g profiles rates).toWord 12 0xf#32 = profiles &&& 0x0f#8 ∧
    readField (capabilities kind g profiles rates).toWord 9 0x7#32 = rates &&& 0x07#8 ∧
    (capabilities kind g profiles rates).toWord &&& 0x1ff#32 = 0#32
  := by
  have hg : ∀ g : U8,
      readField ((g &&& 0x3f#8).setWidth 32 <<< 18) 28 0xf#32 = 0#8 ∧
      readField ((g &&& 0x3f#8).setWidth 32 <<< 18) 24 0xf#32 = 0#8 ∧
      readField ((g &&& 0x3f#8).setWidth 32 <<< 18) 18 0x3f#32 = g &&& 0x3f#8 ∧
      readField ((g &&& 0x3f#8).setWidth 32 <<< 18) 16 0x3#32 = 0#8 ∧
      readField ((g &&& 0x3f#8).setWidth 32 <<< 18) 12 0xf#32 = 0#8 ∧
      readField ((g &&& 0x3f#8).setWidth 32 <<< 18) 9 0x7#32 = 0#8 ∧
      (g &&& 0x3f#8).setWidth 32 <<< 18 &&& 0x1ff#32 = 0#32 := by
    decide +kernel
  have hprofiles : ∀ profiles : U8,
      readField ((profiles &&& 0x0f#8).setWidth 32 <<< 12) 28 0xf#32 = 0#8 ∧
      readField ((profiles &&& 0x0f#8).setWidth 32 <<< 12) 24 0xf#32 = 0#8 ∧
      readField ((profiles &&& 0x0f#8).setWidth 32 <<< 12) 18 0x3f#32 = 0#8 ∧
      readField ((profiles &&& 0x0f#8).setWidth 32 <<< 12) 16 0x3#32 = 0#8 ∧
      readField ((profiles &&& 0x0f#8).setWidth 32 <<< 12) 12 0xf#32 = profiles &&& 0x0f#8 ∧
      readField ((profiles &&& 0x0f#8).setWidth 32 <<< 12) 9 0x7#32 = 0#8 ∧
      (profiles &&& 0x0f#8).setWidth 32 <<< 12 &&& 0x1ff#32 = 0#32 := by
    decide +kernel
  have hrates : ∀ rates : U8,
      readField ((rates &&& 0x07#8).setWidth 32 <<< 9) 28 0xf#32 = 0#8 ∧
      readField ((rates &&& 0x07#8).setWidth 32 <<< 9) 24 0xf#32 = 0#8 ∧
      readField ((rates &&& 0x07#8).setWidth 32 <<< 9) 18 0x3f#32 = 0#8 ∧
      readField ((rates &&& 0x07#8).setWidth 32 <<< 9) 16 0x3#32 = 0#8 ∧
      readField ((rates &&& 0x07#8).setWidth 32 <<< 9) 12 0xf#32 = 0#8 ∧
      readField ((rates &&& 0x07#8).setWidth 32 <<< 9) 9 0x7#32 = rates &&& 0x07#8 ∧
      (rates &&& 0x07#8).setWidth 32 <<< 9 &&& 0x1ff#32 = 0#32 := by
    decide +kernel
  have hhead :
      readField (headWord .capabilities) 28 0xf#32 = 0x2#8 ∧
      readField (headWord .capabilities) 24 0xf#32 = dlpControlVersion ∧
      readField (headWord .capabilities) 18 0x3f#32 = 0#8 ∧
      readField (headWord .capabilities) 16 0x3#32 = 0#8 ∧
      readField (headWord .capabilities) 12 0xf#32 = 0#8 ∧
      readField (headWord .capabilities) 9 0x7#32 = 0#8 ∧
      headWord .capabilities &&& 0x1ff#32 = 0#32 := by
    decide
  have hkind :
      readField (kind.toWire <<< 16) 28 0xf#32 = 0#8 ∧
      readField (kind.toWire <<< 16) 24 0xf#32 = 0#8 ∧
      readField (kind.toWire <<< 16) 18 0x3f#32 = 0#8 ∧
      readField (kind.toWire <<< 16) 16 0x3#32 = kind.toWire.setWidth 8 ∧
      readField (kind.toWire <<< 16) 12 0xf#32 = 0#8 ∧
      readField (kind.toWire <<< 16) 9 0x7#32 = 0#8 ∧
      kind.toWire <<< 16 &&& 0x1ff#32 = 0#32 := by
    cases kind <;> decide
  simp only [toWord, readField_or, BitVec.and_or_distrib_right, hhead, hkind, hg, hprofiles,
    hrates, BitVec.or_zero, BitVec.zero_or, and_self]

theorem fromWire_toWire (kind : DlpCapabilityKind) :
  DlpCapabilityKind.fromWire (kind.toWire.setWidth 8) = .ok kind
  := by
  cases kind with
  | offer => rfl
  | selection => rfl
  | confirmation => rfl

theorem ofWord_capabilities {kind : DlpCapabilityKind} {g profiles rates : U8}
    (h : (capabilities kind g profiles rates).Canonical) :
  ofWord (capabilities kind g profiles rates).toWord = .ok (capabilities kind g profiles rates)
  := by
  obtain ⟨hg, hgle, hprofiles, hprofilesle, hrates, hratesle, hpow⟩ := h
  obtain ⟨hopcode, hversion, hgen, hk, hp, hr, hzero⟩ := capabilities_fields kind g profiles rates
  rw [readField] at hopcode hversion hgen hk hp hr
  rw [ofWord, hopcode, hversion,
    show DlpControlOpcode.fromWire 0x2#8 = .ok .capabilities from rfl, ok_bind,
    if_neg (not_not.mpr rfl), decodeCapabilities, if_neg (not_not.mpr hzero), hk, hgen, hp, hr,
    and_63_of_le g hgle, and_15_of_le profiles hprofilesle, and_7_of_le rates hratesle,
    fromWire_toWire, ok_bind]
  dsimp only
  rw [if_neg (by simp [hg, hprofiles, hrates]), if_neg]
  rintro ⟨hoffer, hnot⟩
  obtain ⟨hpp, hrp⟩ := hpow hoffer
  simp [hpp, hrp] at hnot

/-- The fields of a `RESET` are read back. -/
theorem reset_fields (g reason : U8) :
  readField (reset g reason).toWord 28 0xf#32 = 0x3#8 ∧
    readField (reset g reason).toWord 24 0xf#32 = dlpControlVersion ∧
    readField (reset g reason).toWord 18 0x3f#32 = g &&& 0x3f#8 ∧
    readField (reset g reason).toWord 14 0xf#32 = reason &&& 0x0f#8 ∧
    (reset g reason).toWord &&& 0x3fff#32 = 0#32
  := by
  have hg : ∀ g : U8,
      readField ((g &&& 0x3f#8).setWidth 32 <<< 18) 28 0xf#32 = 0#8 ∧
      readField ((g &&& 0x3f#8).setWidth 32 <<< 18) 24 0xf#32 = 0#8 ∧
      readField ((g &&& 0x3f#8).setWidth 32 <<< 18) 18 0x3f#32 = g &&& 0x3f#8 ∧
      readField ((g &&& 0x3f#8).setWidth 32 <<< 18) 14 0xf#32 = 0#8 ∧
      (g &&& 0x3f#8).setWidth 32 <<< 18 &&& 0x3fff#32 = 0#32 := by
    decide +kernel
  have hreason : ∀ reason : U8,
      readField ((reason &&& 0x0f#8).setWidth 32 <<< 14) 28 0xf#32 = 0#8 ∧
      readField ((reason &&& 0x0f#8).setWidth 32 <<< 14) 24 0xf#32 = 0#8 ∧
      readField ((reason &&& 0x0f#8).setWidth 32 <<< 14) 18 0x3f#32 = 0#8 ∧
      readField ((reason &&& 0x0f#8).setWidth 32 <<< 14) 14 0xf#32 = reason &&& 0x0f#8 ∧
      (reason &&& 0x0f#8).setWidth 32 <<< 14 &&& 0x3fff#32 = 0#32 := by
    decide +kernel
  have hhead :
      readField (headWord .reset) 28 0xf#32 = 0x3#8 ∧
      readField (headWord .reset) 24 0xf#32 = dlpControlVersion ∧
      readField (headWord .reset) 18 0x3f#32 = 0#8 ∧
      readField (headWord .reset) 14 0xf#32 = 0#8 ∧
      headWord .reset &&& 0x3fff#32 = 0#32 := by
    decide
  simp only [toWord, readField_or, BitVec.and_or_distrib_right, hhead, hg, hreason,
    BitVec.or_zero, BitVec.zero_or, and_self]

theorem ofWord_reset {g reason : U8} (h : (reset g reason).Canonical) :
  ofWord (reset g reason).toWord = .ok (reset g reason)
  := by
  obtain ⟨hg, hgle, hreason⟩ := h
  obtain ⟨hopcode, hversion, hgen, hr, hzero⟩ := reset_fields g reason
  rw [readField] at hopcode hversion hgen hr
  rw [ofWord, hopcode, hversion, show DlpControlOpcode.fromWire 0x3#8 = .ok .reset from rfl,
    ok_bind, if_neg (not_not.mpr rfl), decodeReset, if_neg (not_not.mpr hzero), hgen, hr,
    and_63_of_le g hgle, and_15_of_le reason hreason]
  dsimp only
  rw [if_neg hg]

/-- The fields of `LINK_PARAMETERS` are read back. -/
theorem linkParameters_fields (kind : DlpCapabilityKind) (g rx burst : U8) :
  readField (linkParameters kind g rx burst).toWord 28 0xf#32 = 0x8#8 ∧
    readField (linkParameters kind g rx burst).toWord 24 0xf#32 = dlpControlVersion ∧
    readField (linkParameters kind g rx burst).toWord 18 0x3f#32 = g &&& 0x3f#8 ∧
    readField (linkParameters kind g rx burst).toWord 16 0x3#32 = kind.toWire.setWidth 8 ∧
    readField (linkParameters kind g rx burst).toWord 8 0xff#32 = rx ∧
    readField (linkParameters kind g rx burst).toWord 0 0xff#32 = burst
  := by
  have hg : ∀ g : U8,
      readField ((g &&& 0x3f#8).setWidth 32 <<< 18) 28 0xf#32 = 0#8 ∧
      readField ((g &&& 0x3f#8).setWidth 32 <<< 18) 24 0xf#32 = 0#8 ∧
      readField ((g &&& 0x3f#8).setWidth 32 <<< 18) 18 0x3f#32 = g &&& 0x3f#8 ∧
      readField ((g &&& 0x3f#8).setWidth 32 <<< 18) 16 0x3#32 = 0#8 ∧
      readField ((g &&& 0x3f#8).setWidth 32 <<< 18) 8 0xff#32 = 0#8 ∧
      readField ((g &&& 0x3f#8).setWidth 32 <<< 18) 0 0xff#32 = 0#8 := by
    decide +kernel
  have hrx : ∀ rx : U8,
      readField (rx.setWidth 32 <<< 8) 28 0xf#32 = 0#8 ∧
      readField (rx.setWidth 32 <<< 8) 24 0xf#32 = 0#8 ∧
      readField (rx.setWidth 32 <<< 8) 18 0x3f#32 = 0#8 ∧
      readField (rx.setWidth 32 <<< 8) 16 0x3#32 = 0#8 ∧
      readField (rx.setWidth 32 <<< 8) 8 0xff#32 = rx ∧
      readField (rx.setWidth 32 <<< 8) 0 0xff#32 = 0#8 := by
    decide +kernel
  have hburst : ∀ burst : U8,
      readField (burst.setWidth 32) 28 0xf#32 = 0#8 ∧
      readField (burst.setWidth 32) 24 0xf#32 = 0#8 ∧
      readField (burst.setWidth 32) 18 0x3f#32 = 0#8 ∧
      readField (burst.setWidth 32) 16 0x3#32 = 0#8 ∧
      readField (burst.setWidth 32) 8 0xff#32 = 0#8 ∧
      readField (burst.setWidth 32) 0 0xff#32 = burst := by
    decide +kernel
  have hhead :
      readField (headWord .linkParameters) 28 0xf#32 = 0x8#8 ∧
      readField (headWord .linkParameters) 24 0xf#32 = dlpControlVersion ∧
      readField (headWord .linkParameters) 18 0x3f#32 = 0#8 ∧
      readField (headWord .linkParameters) 16 0x3#32 = 0#8 ∧
      readField (headWord .linkParameters) 8 0xff#32 = 0#8 ∧
      readField (headWord .linkParameters) 0 0xff#32 = 0#8 := by
    decide
  have hkind :
      readField (kind.toWire <<< 16) 28 0xf#32 = 0#8 ∧
      readField (kind.toWire <<< 16) 24 0xf#32 = 0#8 ∧
      readField (kind.toWire <<< 16) 18 0x3f#32 = 0#8 ∧
      readField (kind.toWire <<< 16) 16 0x3#32 = kind.toWire.setWidth 8 ∧
      readField (kind.toWire <<< 16) 8 0xff#32 = 0#8 ∧
      readField (kind.toWire <<< 16) 0 0xff#32 = 0#8 := by
    cases kind <;> decide
  simp only [toWord, readField_or, hhead, hkind, hg, hrx, hburst,
    BitVec.or_zero, BitVec.zero_or, and_self]

theorem ofWord_linkParameters {kind : DlpCapabilityKind} {g rx burst : U8}
    (h : (linkParameters kind g rx burst).Canonical) :
  ofWord (linkParameters kind g rx burst).toWord = .ok (linkParameters kind g rx burst)
  := by
  obtain ⟨hg, hgle, hrx, hburst⟩ := h
  obtain ⟨hopcode, hversion, hgen, hk, hx, hb⟩ := linkParameters_fields kind g rx burst
  rw [readField] at hopcode hversion hgen hk hx
  rw [readField, BitVec.ushiftRight_zero] at hb
  rw [ofWord, hopcode, hversion,
    show DlpControlOpcode.fromWire 0x8#8 = .ok .linkParameters from rfl, ok_bind,
    if_neg (not_not.mpr rfl), decodeLinkParameters, hk, hgen, hx, hb, and_63_of_le g hgle,
    fromWire_toWire, ok_bind]
  dsimp only
  rw [if_neg (by simp [hg, hrx, hburst])]

/-- A canonical frame is read back. -/
theorem decode_encode {frame : DlpControlFrame} (h : frame.Canonical) :
  decode frame.encode = .ok frame
  := by
  rw [decode, encode, if_neg (not_not.mpr (length_toBeBytes _)), fromBeBytes_toBeBytes rfl]
  cases frame with
  | hello kind g peer => apply ofWord_hello h
  | capabilities kind g profiles rates => apply ofWord_capabilities h
  | reset g reason => apply ofWord_reset h
  | linkParameters kind g rx burst => apply ofWord_linkParameters h

end DlpControlFrame

end SmolGnet
