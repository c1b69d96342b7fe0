import SmolGnet.Library.Checked
import SmolGnet.Wire.GtsCodec

/-!
# The decoders of packets do not panic

The decoders of GDP packets, of service selectors and of GTS packets step by step, with all the
indices, the slices, the differences and the conversions to arrays that the program has: each panics
where it is not defined.

None of them does.  The lengths are checked by different functions: the caller checks the length of
the packet, the parser of the fixed fields that these are there, and what is read after them stays in
front of the checksum.  So every decoder gives on every byte string what it is modelled to give.
-/

namespace SmolGnet

open Octets Checked

/-! ### GDP packets -/

/-- The lengths of the size classes in the order of their numbers. -/
def sizeClassBytes : List ℕ :=
  [0, 3, 32, 64, 128, 192, 256, 384, 512, 768, 1024, 1280, 1500, 2048, 4096, 8192]

def SizeClass.bytesChecked (c : SizeClass) : Checked Error ℕ :=
  index sizeClassBytes c.toWire.toNat

theorem SizeClass.bytesChecked_gives (c : SizeClass) :
  Gives c.bytesChecked (.ok c.bytes)
  := by cases c <;> rfl

namespace GdpHeader

def decodeAddressesChecked (buf : Bytes) (word : U32) (localPrefix : U64) :
    AddressForm → Checked Error (U8 × GdpAddresses)
  | .global =>
    if buf.length < 20 then throw .invalidLength
    else do
      let destination ← arrayOr .invalidLength 8 (← range buf 4 12)
      let source ← arrayOr .invalidLength 8 (← range buf 12 20)
      return ((word &&& 0xff#32).setWidth 8,
        .global ⟨fromBeBytes 64 destination.val⟩ ⟨fromBeBytes 64 source.val⟩)
  | .local =>
    if buf.length < 8 then throw .invalidLength
    else do
      let ids ← arrayOr .invalidLength 4 (← range buf 4 8)
      let ids := fromBeBytes 32 ids.val
      return ((word &&& 0x0f#32).setWidth 8,
        .local ((ids >>> 16).setWidth 16) (ids.setWidth 16) (localPrefix &&& ~~~0xffff#64))

def decodeChecked (buf : Bytes) (cfg : GdpWireConfig) (localPrefix : U64) :
    Checked Error GdpHeader :=
  if buf.length < 4 then throw .invalidLength
  else do
    let word ← arrayOr .invalidLength 4 (← range buf 0 4)
    let word := fromBeBytes 32 word.val
    let version := (word >>> 30 &&& 3#32).setWidth 8
    let packetType := GdpType.fromWire ((word >>> 26 &&& 0x0f#32).setWidth 8)
    let sizeClass ← ofExcept (SizeClass.fromWire ((word >>> 22 &&& 0x0f#32).setWidth 8))
    let form := cfg.formFromBit (word >>> 21 &&& 1#32 != 0#32)
    let receivedCrc := (word >>> 8 &&& 0xff#32).setWidth 8
    let (hopLimit, addresses) ← decodeAddressesChecked buf word localPrefix form
    let header := { version, packetType, sizeClass, hopLimit, addresses : GdpHeader }
    if header.crc8 cfg ≠ receivedCrc then throw .invalidCrc else return header

theorem decodeAddressesChecked_gives (buf : Bytes) (word : U32) (localPrefix : U64)
    (form : AddressForm) :
  Gives (decodeAddressesChecked buf word localPrefix form) (decodeAddresses buf word localPrefix form)
  := by
  cases form with
  | «global» =>
    refine .ite (fun _ => .throw _) fun hlen => ?_
    have hlen := not_lt.mp hlen
    refine .ok_bind (.range (by omega) (by omega)) ?_
    refine .ok_bind (.arrayOr _ (length_slice (by omega))) ?_
    refine .ok_bind (.range (by omega) (by omega)) ?_
    refine .ok_bind (.arrayOr _ (length_slice (by omega))) ?_
    exact .pure _
  | «local» =>
    refine .ite (fun _ => .throw _) fun hlen => ?_
    have hlen := not_lt.mp hlen
    refine .ok_bind (.range (by omega) (by omega)) ?_
    refine .ok_bind (.arrayOr _ (length_slice (by omega))) ?_
    exact .pure _

theorem decodeChecked_gives (buf : Bytes) (cfg : GdpWireConfig) (localPrefix : U64) :
  Gives (decodeChecked buf cfg localPrefix) (decode buf cfg localPrefix)
  := by
  refine .ite (fun _ => .throw _) fun hlen => ?_
  have hlen := not_lt.mp hlen
  refine .ok_bind (.range (by omega) (by omega)) ?_
  refine .ok_bind (.arrayOr _ (length_slice (by omega))) ?_
  refine .bind (.ofExcept _) fun sizeClass _ => ?_
  refine .bind (decodeAddressesChecked_gives buf _ localPrefix _) fun addresses _ => ?_
  exact .ite (fun _ => .throw _) fun _ => .pure _

end GdpHeader

/-- The packet that the whole of `buf` encodes. -/
def GdpPacket.decodeChecked (buf : Bytes) (cfg : GdpWireConfig) (localPrefix : U64) :
    Checked Error GdpPacket := do
  let header ← GdpHeader.decodeChecked buf cfg localPrefix
  let headerLen := header.headerLen
  let total := headerLen + (← header.sizeClass.bytesChecked)
  if buf.length ≠ total then throw .invalidLength
  else do
    let payload ← rangeFrom buf headerLen
    return ⟨header, payload⟩

/-- The decoder of GDP packets does not panic. -/
theorem GdpPacket.decodeChecked_gives (buf : Bytes) (cfg : GdpWireConfig) (localPrefix : U64) :
  Gives (decodeChecked buf cfg localPrefix) (decode buf cfg localPrefix)
  := by
  refine .bind (GdpHeader.decodeChecked_gives buf cfg localPrefix) fun header _ => ?_
  refine .ok_bind header.sizeClass.bytesChecked_gives ?_
  refine .ite (fun _ => .throw _) fun hlen => ?_
  exact .ok_bind (.rangeFrom (by omega)) (.pure _)

/-! ### Service selectors -/

namespace ServiceSelector

def shortRawChecked (v : Arr U8 4) : Checked Error ServiceSelector :=
  if !validShort v.val then throw .invalidField
  else do
    let x ← copyFromSlice ⟨List.replicate 16 0#8, List.length_replicate⟩ 4 v.val
    return ⟨x.val, x.property⟩

def registeredChecked (code : U8) : Checked Error ServiceSelector :=
  match registeredToShort code with
  | none => throw .invalidField
  | some s => do
    let s ← array 4 s
    shortRawChecked s

def shortChecked (v : Arr U8 4) : Checked Error ServiceSelector :=
  if (shortToRegistered v.val).isSome then throw .nonCanonical else shortRawChecked v

def fullChecked (v : Arr U8 16) : Checked Error ServiceSelector :=
  if v.val = List.replicate 16 0#8 then throw .invalidField
  else do
    if (← rangeFrom v.val 4).all (fun b => b = 0#8) then
      let a ← array 4 (← rangeTo v.val 4)
      if validShort a.val then throw .nonCanonical else return ⟨v.val, v.property⟩
    else return ⟨v.val, v.property⟩

/-- The selector at the front of `buf`, and the number of its bytes. -/
def decodeChecked (buf : Bytes) : Checked Error (ServiceSelector × ℕ) :=
  if buf.isEmpty then throw .invalidLength
  else do
    if (← index buf 0) &&& 0x3f#8 ≠ 0#8 then throw .invalidField
    else
      let form := (← index buf 0) >>> 6
      if form = 0#8 then
        if buf.length < 2 then throw .invalidLength
        else do
          let s ← registeredChecked (← index buf 1)
          return (s, 2)
      else if form = 1#8 then
        if buf.length < 5 then throw .invalidLength
        else do
          let s ← array 4 (← range buf 1 5)
          if (shortToRegistered s.val).isSome then throw .nonCanonical
          else do
            let s ← shortChecked s
            return (s, 5)
      else if form = 2#8 then
        if buf.length < 17 then throw .invalidLength
        else do
          let v ← array 16 (← range buf 1 17)
          let s ← fullChecked v
          return (s, 17)
      else throw .invalidField

theorem shortRawChecked_gives (v : Arr U8 4) :
  Gives (shortRawChecked v) (shortRaw v.val v.property)
  := by
  refine .ite (fun _ => .throw _) fun _ => ?_
  exact .ok_bind (.copyFromSlice _ ⟨by decide, v.property⟩) (.pure _)

theorem length_registeredToShort {code : U8} {v : Bytes} (h : registeredToShort code = some v) :
  v.length = 4
  := by
  rw [registeredToShort] at h
  split at h
  · cases h
    rfl
  · split at h
    · cases h
      rfl
    · cases h

theorem registeredChecked_gives (code : U8) :
  Gives (registeredChecked code) (registered code)
  := by
  rw [registeredChecked, registered]
  split
  · next hnone =>
    split
    · exact .throw _
    · next hsome =>
      rw [hnone] at hsome
      cases hsome
  · next s hs =>
    split
    · next hnone =>
      rw [hs] at hnone
      cases hnone
    · next s' hlen hs' =>
      rw [hs] at hs'
      cases hs'
      exact .ok_bind (.array (length_registeredToShort hs)) (shortRawChecked_gives _)

theorem shortChecked_gives (v : Arr U8 4) :
  Gives (shortChecked v) (short v.val v.property)
  := .ite (fun _ => .throw _) fun _ => shortRawChecked_gives v

theorem fullChecked_gives (v : Arr U8 16) :
  Gives (fullChecked v) (full v.val v.property)
  := by
  have hlen := v.property
  refine .ite (fun _ => .throw _) fun _ => ?_
  refine .ok_bind (.rangeFrom (by omega)) ?_
  by_cases hzeros : (v.val.drop 4).all (fun b => b = 0#8) = true
  · rw [if_pos hzeros]
    refine .ok_bind (.rangeTo (by omega)) ?_
    refine .ok_bind (.array (List.length_take_of_le (by omega))) ?_
    by_cases hshort : validShort (v.val.take 4) = true
    · rw [if_pos hshort, if_pos ⟨hzeros, hshort⟩]
      exact .throw _
    · rw [if_neg hshort, if_neg (fun h => hshort h.2)]
      exact .pure _
  · rw [if_neg hzeros, if_neg (fun h => hzeros h.1)]
    exact .pure _

/-- The decoder of service selectors does not panic. -/
theorem decodeChecked_gives (buf : Bytes) :
  Gives (decodeChecked buf) (decode buf)
  := by
  cases buf with
  | nil => exact .throw _
  | cons first rest =>
    refine .ok_bind (.index (Nat.succ_pos _) 0#8) ?_
    refine .ite (fun _ => .throw _) fun _ => ?_
    refine .ok_bind (.index (Nat.succ_pos _) 0#8) ?_
    refine .ite (fun _ => ?_) fun _ => .ite (fun _ => ?_) fun _ => .ite (fun _ => ?_) fun _ => .throw _
    · cases rest with
      | nil => exact .throw _
      | cons code rest =>
        rw [if_neg (by simp)]
        refine .ok_bind (.index (by simp) 0#8) ?_
        exact .bind (registeredChecked_gives code) fun _ _ => .pure _
    · by_cases hlen : rest.length < 4
      · rw [dif_pos hlen, if_pos (by rw [List.length_cons]; omega)]
        exact .throw _
      · rw [dif_neg hlen, if_neg (by rw [List.length_cons]; omega)]
        refine .ok_bind (.range (by omega) (by rw [List.length_cons]; omega)) ?_
        refine .ok_bind (.array (length_slice (by rw [List.length_cons]; omega))) ?_
        refine .ite (fun _ => .throw _) fun _ => ?_
        exact .bind (shortChecked_gives _) fun _ _ => .pure _
    · by_cases hlen : rest.length < 16
      · rw [dif_pos hlen, if_pos (by rw [List.length_cons]; omega)]
        exact .throw _
      · rw [dif_neg hlen, if_neg (by rw [List.length_cons]; omega)]
        refine .ok_bind (.range (by omega) (by rw [List.length_cons]; omega)) ?_
        refine .ok_bind (.array (length_slice (by rw [List.length_cons]; omega))) ?_
        exact .bind (fullChecked_gives _) fun _ _ => .pure _

/-- The decoder takes no more than there is. -/
theorem le_length_of_decode {buf : Bytes} {css : ServiceSelector} {n : ℕ}
    (h : decode buf = .ok (css, n)) :
  n ≤ buf.length
  := by
  obtain ⟨bytes, -, rfl, hroom⟩ := decode_eq_ok_iff.mp h
  exact hroom.length_le

end ServiceSelector

/-! ### The fixed fields of GTS packets -/

/-- A program that reads at a position, which moves. -/
abbrev CheckedReader (α : Type) := StateT ℕ (ExceptT Error Option) α

/-- Read the integer of more than one byte at a position. -/
def readBeChecked (w : ℕ) (buf : Bytes) (limit : ℕ) : CheckedReader (BitVec w) :=
  fun pos =>
    if limit < pos + w / 8 then throw .invalidLength
    else do
      let v ← arrayOr .invalidLength (w / 8) (← range buf pos (pos + w / 8))
      return (fromBeBytes w v.val, pos + w / 8)

def readU32Checked : Bytes → ℕ → CheckedReader U32 := readBeChecked 32

def readU16Checked : Bytes → ℕ → CheckedReader U16 := readBeChecked 16

def readU8Checked (buf : Bytes) (limit : ℕ) : CheckedReader U8 :=
  fun pos =>
    if limit ≤ pos then throw .invalidLength
    else do
      let v ← index buf pos
      return (v, pos + 1)

theorem size_probe (a b c d e f : U8) :
  #[a, b, c, d, e, f].size = 6
  := rfl

def readFieldsChecked (buf : Bytes) (limit : ℕ) :
    GtsType → CheckedReader GtsLowerPacket
  | .connect => do
    let initiatorReceiveTunnel ← readU32Checked buf limit
    let initiatorResetId ← readU32Checked buf limit
    let profile ← readU16Checked buf limit
    let initialReceiveCredit ← readU8Checked buf limit
    return .connect initiatorReceiveTunnel initiatorResetId profile initialReceiveCredit
  | .connectAck => do
    let initiatorReceiveTunnel ← readU32Checked buf limit
    let responderReceiveTunnel ← readU32Checked buf limit
    let responderResetId ← readU32Checked buf limit
    let status ← readU8Checked buf limit
    let initialReceiveCredit ← readU8Checked buf limit
    let reserved ← readU8Checked buf limit
    return .connectAck initiatorReceiveTunnel responderReceiveTunnel responderResetId status
      initialReceiveCredit reserved
  | .streamOpen => do
    let tunnelId ← readU32Checked buf limit
    let streamId ← readU8Checked buf limit
    let profile ← readU16Checked buf limit
    let initialReceiveCredit ← readU8Checked buf limit
    let reserved ← readU8Checked buf limit
    return .streamOpen tunnelId streamId profile initialReceiveCredit reserved
  | .streamAck => do
    let tunnelId ← readU32Checked buf limit
    let streamId ← readU8Checked buf limit
    let status ← readU8Checked buf limit
    let initialReceiveCredit ← readU8Checked buf limit
    let reserved ← readU8Checked buf limit
    return .streamAck tunnelId streamId status initialReceiveCredit reserved
  | .data => readData false
  | .dataEnd => readData true
  | .ack => do
    let tunnelId ← readU32Checked buf limit
    let streamId ← readU8Checked buf limit
    let ackBase ← readU32Checked buf limit
    let receiveBitmap ← readU32Checked buf limit
    let receiveCredit ← readU8Checked buf limit
    let reserved ← readU8Checked buf limit
    return .ack tunnelId streamId ackBase receiveBitmap receiveCredit reserved
  | .datagram => do
    let tunnelId ← readU32Checked buf limit
    let streamId ← readU8Checked buf limit
    let probe0 ← readU8Checked buf limit
    let probe1 ← readU8Checked buf limit
    let probe2 ← readU8Checked buf limit
    let probe3 ← readU8Checked buf limit
    let probe4 ← readU8Checked buf limit
    let probe5 ← readU8Checked buf limit
    return .datagram tunnelId streamId ⟨#[probe0, probe1, probe2, probe3, probe4, probe5],
      size_probe probe0 probe1 probe2 probe3 probe4 probe5⟩
  | .streamClose => readStreamClose false
  | .streamCloseAck => readStreamClose true
  | .tunnelClose => readTunnelClose false
  | .tunnelCloseAck => readTunnelClose true
  | .reset => do
    let tunnelId ← readU32Checked buf limit
    let resetId ← readU32Checked buf limit
    let reason ← readU8Checked buf limit
    return .reset tunnelId resetId reason
  | .streamReset => readStreamReset false
  | .streamResetAck => readStreamReset true
  | .reserved => throw .unsupported
where
  readData (isEnd : Bool) : CheckedReader GtsLowerPacket := do
    let tunnelId ← readU32Checked buf limit
    let streamId ← readU8Checked buf limit
    let sequence ← readU32Checked buf limit
    let optionProbe ← readU16Checked buf limit
    return .data tunnelId streamId sequence isEnd optionProbe
  readStreamClose (ack : Bool) : CheckedReader GtsLowerPacket := do
    let tunnelId ← readU32Checked buf limit
    let streamId ← readU8Checked buf limit
    let finalSequence ← readU32Checked buf limit
    return .streamClose tunnelId streamId finalSequence ack
  readTunnelClose (ack : Bool) : CheckedReader GtsLowerPacket := do
    let tunnelId ← readU32Checked buf limit
    return .tunnelClose tunnelId ack
  readStreamReset (ack : Bool) : CheckedReader GtsLowerPacket := do
    let tunnelId ← readU32Checked buf limit
    let streamId ← readU8Checked buf limit
    let reason ← readU8Checked buf limit
    let reserved ← readU8Checked buf limit
    return .streamReset tunnelId streamId reason reserved ack

/-- The type with a number.  The branch for a number of more than four bits is a panic. -/
def GtsType.fromWireChecked (v : U8) : Checked Error GtsType :=
  index GtsType.all (v &&& 0x0f#8).toNat

def parseLowerChecked (buf : Bytes) : Checked Error GtsLowerPacket :=
  if buf.length < 5 then throw .invalidLength
  else do
    if (← index buf 0) >>> 4 ≠ 0#8 then throw .unsupported
    else
      let ty ← GtsType.fromWireChecked ((← index buf 0) &&& 0x0f#8)
      let prefixLen ← ofExcept (lowerPrefixLen ty)
      if buf.length < prefixLen + 4 then throw .invalidLength
      else (readFieldsChecked buf prefixLen ty).run' 1

section Read

variable {buf : Bytes} {limit : ℕ} (hlimit : limit ≤ buf.length)

include hlimit

theorem readBeChecked_gives (w : ℕ) :
  GivesFrom (readBeChecked w buf limit) (readBe w buf limit)
  := by
  intro pos
  refine .ite (fun _ => .throw _) fun hpos => ?_
  have hpos := not_lt.mp hpos
  refine .ok_bind (.range (by omega) (by omega)) ?_
  rw [Nat.add_sub_cancel_left]
  exact .ok_bind (.arrayOr _ (length_slice (by omega))) (.pure _)

theorem readU8Checked_gives :
  GivesFrom (readU8Checked buf limit) (readU8 buf limit)
  := by
  intro pos
  by_cases hpos : limit ≤ pos
  · have hread : (readU8 buf limit).run pos = .error .invalidLength := if_pos (by omega)
    rw [hread, show (readU8Checked buf limit).run pos = throw .invalidLength from if_pos hpos]
    exact .throw _
  · have hbyte : fromBeBytes 8 (slice buf pos (8 / 8)) = buf.getD pos 0#8 := by
      rw [slice_one (by omega) 0#8, ← toBeBytes_byte, fromBeBytes_toBeBytes rfl]
    have hread : (readU8 buf limit).run pos = .ok (buf.getD pos 0#8, pos + 1) := by
      rw [← hbyte]
      exact if_neg (by omega)
    rw [hread, show (readU8Checked buf limit).run pos = (do
      let v ← index buf pos
      return (v, pos + 1)) from if_neg hpos]
    exact .ok_bind (.index (by omega) 0#8) (.pure _)

theorem readU32Checked_gives :
  GivesFrom (readU32Checked buf limit) (readU32 buf limit)
  := readBeChecked_gives hlimit 32

theorem readU16Checked_gives :
  GivesFrom (readU16Checked buf limit) (readU16 buf limit)
  := readBeChecked_gives hlimit 16

theorem readFieldsChecked_gives (ty : GtsType) :
  GivesFrom (readFieldsChecked buf limit ty) (readFields buf limit ty)
  := by
  have u8 := readU8Checked_gives hlimit
  have u16 := readU16Checked_gives hlimit
  have u32 := readU32Checked_gives hlimit
  cases ty with
  | reserved => exact .throw _
  | connect =>
    exact u32.bind fun _ => u32.bind fun _ => u16.bind fun _ => u8.bind fun _ => .pure _
  | connectAck =>
    exact u32.bind fun _ => u32.bind fun _ => u32.bind fun _ => u8.bind fun _ => u8.bind fun _ =>
      u8.bind fun _ => .pure _
  | streamOpen =>
    exact u32.bind fun _ => u8.bind fun _ => u16.bind fun _ => u8.bind fun _ => u8.bind fun _ =>
      .pure _
  | streamAck =>
    exact u32.bind fun _ => u8.bind fun _ => u8.bind fun _ => u8.bind fun _ => u8.bind fun _ =>
      .pure _
  | data => exact u32.bind fun _ => u8.bind fun _ => u32.bind fun _ => u16.bind fun _ => .pure _
  | dataEnd => exact u32.bind fun _ => u8.bind fun _ => u32.bind fun _ => u16.bind fun _ => .pure _
  | ack =>
    exact u32.bind fun _ => u8.bind fun _ => u32.bind fun _ => u32.bind fun _ => u8.bind fun _ =>
      u8.bind fun _ => .pure _
  | datagram =>
    exact u32.bind fun _ => u8.bind fun _ => u8.bind fun _ => u8.bind fun _ => u8.bind fun _ =>
      u8.bind fun _ => u8.bind fun _ => u8.bind fun _ => .pure _
  | streamClose => exact u32.bind fun _ => u8.bind fun _ => u32.bind fun _ => .pure _
  | streamCloseAck => exact u32.bind fun _ => u8.bind fun _ => u32.bind fun _ => .pure _
  | tunnelClose => exact u32.bind fun _ => .pure _
  | tunnelCloseAck => exact u32.bind fun _ => .pure _
  | reset => exact u32.bind fun _ => u32.bind fun _ => u8.bind fun _ => .pure _
  | streamReset => exact u32.bind fun _ => u8.bind fun _ => u8.bind fun _ => u8.bind fun _ => .pure _
  | streamResetAck =>
    exact u32.bind fun _ => u8.bind fun _ => u8.bind fun _ => u8.bind fun _ => .pure _

end Read

theorem GtsType.fromWireChecked_gives (v : U8) :
  Gives (fromWireChecked v) (fromWire v)
  := by
  refine .index ?_ reserved
  rw [BitVec.toNat_and]
  exact Nat.lt_succ_of_le Nat.and_le_right

/-- The parser of the fixed fields does not panic. -/
theorem parseLowerChecked_gives (buf : Bytes) :
  Gives (parseLowerChecked buf) (parseLower buf)
  := by
  refine .ite (fun _ => .throw _) fun hlen => ?_
  refine .ok_bind (.index (by omega) 0#8) ?_
  refine .ite (fun _ => .throw _) fun _ => ?_
  refine .ok_bind (.index (by omega) 0#8) ?_
  refine .bind (GtsType.fromWireChecked_gives _) fun ty _ => ?_
  refine .bind (.ofExcept _) fun prefixLen _ => ?_
  refine .ite (fun _ => .throw _) fun hroom => ?_
  exact (readFieldsChecked_gives (by omega) ty).run' 1

/-! ### The checksum -/

def Crc32.updateBytesChecked (c : Crc32) (bytes : Bytes) : Checked Error Crc32 :=
  bytes.foldlM (fun c b => do
    let idx := (c.value >>> 24).setWidth 8 ^^^ b
    let entry ← index makeCrc32Table idx.toNat
    return { value := (c.value <<< 8) ^^^ entry }) c

def computeCrcChecked (ctx : GtsContext) (gts : Bytes) : Checked Error U32 := do
  let c ← (GtsPacket.pseudoHeader ctx).updateBytesChecked gts
  return c.finalize

theorem Crc32.updateBytesChecked_gives (c : Crc32) (bytes : Bytes) :
  Gives (c.updateBytesChecked bytes) (.ok (c.updateBytes bytes))
  := by
  refine .foldlM (fun c b => ?_) c bytes
  dsimp only
  rw [makeCrc32Table, getD_fillTable]
  exact .ok_bind (.index_of_some (getElem?_fillTable crc32Entry _)) (.pure _)

theorem computeCrcChecked_gives (ctx : GtsContext) (gts : Bytes) :
  Gives (computeCrcChecked ctx gts) (.ok (computeCrc ctx gts))
  := (Crc32.updateBytesChecked_gives _ gts).ok_bind (.pure _)

/-! ### GTS packets -/

/-- The message at a position.  The length of what is left is computed also when the message has a
length of its own. -/
def takePayloadChecked (buf : Bytes) (crcOff pos : ℕ) (valid : Option ℕ) : Checked Error Bytes := do
  let rest ← sub crcOff pos
  let n := valid.getD rest
  if crcOff < pos + n then throw .invalidLength
  else do
    let data ← range buf pos (pos + n)
    if valid.isSome then
      if (← range buf (pos + n) crcOff).any (fun b => b ≠ 0#8) then throw .invalidField
      else return data
    else return data

/-- The sequence number at the front of the options of a message, and where it ends. -/
def sequenceChecked (probe : Bytes) (sequenced : Bool) : Checked Error (Option U32 × ℕ) :=
  if sequenced then do
    let value := fromBeBytes 32
      [← index probe 0, ← index probe 1, ← index probe 2, ← index probe 3]
    return (some value, 4)
  else return (none, 0)

/-- The length in the options of a message, and where it ends. -/
def lengthChecked (probe : Bytes) (optionPos : ℕ) (variableLen : Bool) :
    Checked Error (Option ℕ × ℕ) :=
  if variableLen then do
    let value := fromBeBytes 16 [← index probe optionPos, ← index probe (optionPos + 1)]
    return (some value.toNat, optionPos + 2)
  else return (none, optionPos)

def readPacketChecked (buf : Bytes) (ctx : GtsContext) (profile : Option StreamProfile)
    (crcOff : ℕ) : GtsLowerPacket → Checked Error (GtsPacket × ℕ)
  | .connect initiatorReceiveTunnel initiatorResetId profileWire initialReceiveCredit => do
    let streamProfile ← ofExcept (StreamProfile.fromWire profileWire)
    if streamProfile.unreliable ∧ initialReceiveCredit ≠ 0#8 then throw .profileViolation
    else do
      let pos := 12
      let (css, n) ← ServiceSelector.decodeChecked (← range buf pos crcOff)
      if (← range buf (pos + n) crcOff).any (fun b => b ≠ 0#8) then throw .invalidField
      else
        return (.connect initiatorReceiveTunnel initiatorResetId streamProfile initialReceiveCredit
          css, crcOff)
  | .connectAck initiatorReceiveTunnel responderReceiveTunnel responderResetId status
      initialReceiveCredit reserved =>
    if reserved ≠ 0#8 then throw .invalidField
    else
      return (.connectAck initiatorReceiveTunnel responderReceiveTunnel responderResetId status
        initialReceiveCredit, crcOff)
  | .streamOpen tunnelId streamId profileWire initialReceiveCredit reserved => do
    let streamProfile ← ofExcept (StreamProfile.fromWire profileWire)
    if reserved ≠ 0#8 ∨ (streamProfile.unreliable ∧ initialReceiveCredit ≠ 0#8) then
      throw .profileViolation
    else return (.streamOpen tunnelId streamId streamProfile initialReceiveCredit, crcOff)
  | .streamAck tunnelId streamId status initialReceiveCredit reserved =>
    if reserved ≠ 0#8 then throw .invalidField
    else return (.streamAck tunnelId streamId status initialReceiveCredit, crcOff)
  | .data tunnelId streamId sequence isEnd optionProbe => do
    let sp ← ofExcept (messageProfile profile)
    if sp.unreliable ∨ (!sp.variableLen ∧ ctx.sizeClass ≠ sp.sizeClass)
        ∨ (sp.variableLen ∧ sp.sizeClass.toWire < ctx.sizeClass.toWire) then
      throw .profileViolation
    else do
      let (pos, valid) :=
        if isEnd ∨ sp.variableLen then (12, some optionProbe.toNat) else (10, none)
      let data ← takePayloadChecked buf crcOff pos valid
      return (.data tunnelId streamId sequence data isEnd, pos)
  | .ack tunnelId streamId ackBase receiveBitmap receiveCredit reserved =>
    if reserved ≠ 0#8 then throw .invalidField
    else return (.ack tunnelId streamId ackBase receiveBitmap receiveCredit, crcOff)
  | .datagram tunnelId streamId optionProbe => do
    let sp ← ofExcept (messageProfile profile)
    if !sp.unreliable ∨ (!sp.variableLen ∧ ctx.sizeClass ≠ sp.sizeClass)
        ∨ (sp.variableLen ∧ sp.sizeClass.toWire < ctx.sizeClass.toWire) then
      throw .profileViolation
    else do
      let (sequence, optionPos) ← sequenceChecked optionProbe.toList sp.sequenced
      let (valid, optionPos) ← lengthChecked optionProbe.toList optionPos sp.variableLen
      let pos := 6 + optionPos
      let data ← takePayloadChecked buf crcOff pos valid
      return (.datagram tunnelId streamId sequence data, pos)
  | .streamClose tunnelId streamId finalSequence isAck =>
    return (.streamClose tunnelId streamId finalSequence isAck, crcOff)
  | .tunnelClose tunnelId isAck => return (.tunnelClose tunnelId isAck, crcOff)
  | .reset tunnelId resetId reason => return (.reset tunnelId resetId reason, crcOff)
  | .streamReset tunnelId streamId reason reserved isAck =>
    if reserved ≠ 0#8 then throw .invalidField
    else return (.streamReset tunnelId streamId reason isAck, crcOff)

def finishDecodeChecked (buf : Bytes) (ctx : GtsContext) (profile : Option StreamProfile)
    (lower : GtsLowerPacket) : Checked Error GtsPacket := do
  let crcOff ← sub buf.length 4
  let (packet, metaEnd) ← readPacketChecked buf ctx profile crcOff lower
  let unchecked := uncheckedMessage profile lower.packetType
  let got ← arrayOr .invalidLength 4 (← rangeFrom buf crcOff)
  let got := fromBeBytes 32 got.val
  let want ← computeCrcChecked ctx (← rangeTo buf (if unchecked then metaEnd else crcOff))
  if got ≠ want then throw .invalidCrc else return packet

/-- The packet that `buf` encodes. -/
def GtsPacket.decodeChecked (buf : Bytes) (ctx : GtsContext) (profile : Option StreamProfile) :
    Checked Error GtsPacket := do
  if buf.length ≠ (← ctx.sizeClass.bytesChecked) ∨ buf.length < 5 then throw .invalidLength
  else do
    let lower ← parseLowerChecked buf
    finishDecodeChecked buf ctx profile lower

theorem takePayloadChecked_gives {buf : Bytes} {crcOff pos : ℕ} (hpos : pos ≤ crcOff)
    (hcrcOff : crcOff ≤ buf.length) (valid : Option ℕ) :
  Gives (takePayloadChecked buf crcOff pos valid) (takePayload buf crcOff pos valid)
  := by
  refine .ok_bind (.sub hpos) ?_
  rw [takePayload]
  dsimp only
  generalize valid.getD (crcOff - pos) = n
  refine .ite (fun _ => .throw _) fun hlen => ?_
  have hlen := not_lt.mp hlen
  refine .ok_bind (.range (by omega) (by omega)) ?_
  rw [Nat.add_sub_cancel_left]
  cases valid with
  | none => exact .pure _
  | some _ =>
    refine .ok_bind (.range hlen hcrcOff) ?_
    by_cases hzeros : (slice buf (pos + n) (crcOff - (pos + n))).any (fun b => b ≠ 0#8) = true
    · rw [if_pos hzeros, if_pos ⟨rfl, hzeros⟩]
      exact .throw _
    · rw [if_neg hzeros, if_neg fun h => hzeros h.2]
      exact .pure _

theorem sequenceChecked_gives {probe : Bytes} (hprobe : probe.length = 6) (sequenced : Bool) :
  ∃ sequence optionPos, optionPos ≤ 4 ∧
    (if sequenced then (some (fromBeBytes 32 (slice probe 0 4)), 4) else (none, 0))
      = (sequence, optionPos) ∧
    Gives (sequenceChecked probe sequenced) (.ok (sequence, optionPos))
  := by
  cases sequenced with
  | false => exact ⟨none, 0, by decide, rfl, .pure _⟩
  | true =>
    refine ⟨_, 4, le_rfl, rfl, ?_⟩
    rw [← slice_append_slice probe 0 2 2, slice_two (by omega) 0#8, slice_two (by omega) 0#8]
    exact .ok_bind (.index (by omega) 0#8) (.ok_bind (.index (by omega) 0#8)
      (.ok_bind (.index (by omega) 0#8) (.ok_bind (.index (by omega) 0#8) (.pure _))))

theorem lengthChecked_gives {probe : Bytes} {optionPos : ℕ} (hprobe : optionPos + 1 < probe.length)
    (variableLen : Bool) :
  ∃ valid pos, pos ≤ optionPos + 2 ∧
    (if variableLen then (some (fromBeBytes 16 (slice probe optionPos 2)).toNat, optionPos + 2)
      else (none, optionPos)) = (valid, pos) ∧
    Gives (lengthChecked probe optionPos variableLen) (.ok (valid, pos))
  := by
  cases variableLen with
  | false => exact ⟨none, optionPos, by omega, rfl, .pure _⟩
  | true =>
    refine ⟨_, optionPos + 2, le_rfl, rfl, ?_⟩
    rw [slice_two hprobe 0#8]
    exact .ok_bind (.index (by omega) 0#8) (.ok_bind (.index hprobe 0#8) (.pure _))

theorem readPacketChecked_gives {buf : Bytes} (ctx : GtsContext) (profile : Option StreamProfile)
    {lower : GtsLowerPacket} (hlen : lower.wire.length + 4 ≤ buf.length) :
  Gives (readPacketChecked buf ctx profile (buf.length - 4) lower)
    (readPacket buf ctx profile lower)
  := by
  cases lower with
  | connect initiatorReceiveTunnel initiatorResetId profileWire initialReceiveCredit =>
    have hlen : 12 + 4 ≤ buf.length := hlen
    refine .bind (.ofExcept _) fun streamProfile _ => ?_
    refine .ite (fun _ => .throw _) fun _ => ?_
    refine .ok_bind (.range (by omega) (by omega)) ?_
    refine .bind (ServiceSelector.decodeChecked_gives _) ?_
    rintro ⟨css, n⟩ hcss
    have hn := ServiceSelector.le_length_of_decode hcss
    rw [length_slice (by omega)] at hn
    refine .ok_bind (.range (by omega) (by omega)) ?_
    exact .ite (fun _ => .throw _) fun _ => .pure _
  | connectAck => exact .ite (fun _ => .throw _) fun _ => .pure _
  | streamOpen =>
    refine .bind (.ofExcept _) fun streamProfile _ => ?_
    exact .ite (fun _ => .throw _) fun _ => .pure _
  | streamAck => exact .ite (fun _ => .throw _) fun _ => .pure _
  | data tunnelId streamId sequence isEnd optionProbe =>
    have hlen : 12 + 4 ≤ buf.length := hlen
    refine .bind (.ofExcept _) fun sp _ => ?_
    refine .ite (fun _ => .throw _) fun _ => ?_
    by_cases hoption : isEnd = true ∨ sp.variableLen = true
    · rw [if_pos hoption]
      exact .bind (takePayloadChecked_gives (by omega) (by omega) _) fun _ _ => .pure _
    · rw [if_neg hoption]
      exact .bind (takePayloadChecked_gives (by omega) (by omega) _) fun _ _ => .pure _
  | ack => exact .ite (fun _ => .throw _) fun _ => .pure _
  | datagram tunnelId streamId optionProbe =>
    have hwire := Except.ok.inj
      (GtsLowerPacket.datagram tunnelId streamId optionProbe).lowerPrefixLen_packetType
    have hprobe : optionProbe.toList.length = 6 := optionProbe.length_toList
    refine .bind (.ofExcept _) fun sp _ => ?_
    refine .ite (fun _ => .throw _) fun _ => ?_
    obtain ⟨sequence, optionPos, hpos, hsequence, hgives⟩ :=
      sequenceChecked_gives hprobe sp.sequenced
    refine .ok_bind hgives ?_
    rw [hsequence]
    obtain ⟨valid, pos, hpos', hvalid, hgives'⟩ :=
      @lengthChecked_gives optionProbe.toList optionPos (by omega) sp.variableLen
    refine .ok_bind hgives' ?_
    dsimp only
    rw [hvalid]
    exact .bind (takePayloadChecked_gives (by omega) (by omega) valid) fun _ _ => .pure _
  | streamClose => exact .pure _
  | tunnelClose => exact .pure _
  | reset => exact .pure _
  | streamReset => exact .ite (fun _ => .throw _) fun _ => .pure _

theorem le_of_takePayload {buf : Bytes} {crcOff pos : ℕ} {valid : Option ℕ} {data : Bytes}
    (h : takePayload buf crcOff pos valid = .ok data) :
  pos ≤ crcOff
  := by
  rw [takePayload] at h
  split at h
  · cases h
  · omega

/-- The options of a message end in front of the checksum. -/
theorem le_of_readPacket {buf : Bytes} {ctx : GtsContext} {profile : Option StreamProfile}
    {lower : GtsLowerPacket} {packet : GtsPacket} {metaEnd : ℕ}
    (h : readPacket buf ctx profile lower = .ok (packet, metaEnd)) :
  metaEnd ≤ buf.length - 4
  := by
  have hcontrol : ∀ {c : Prop} [Decidable c] {err : Error} {packet' : GtsPacket},
      (if c then .error err else .ok (packet', buf.length - 4))
        = Except.ok (packet, metaEnd) → metaEnd ≤ buf.length - 4 := by
    intro c _ err packet' h
    split at h
    · cases h
    · cases h
      exact le_rfl
  cases lower with
  | connect =>
    obtain ⟨sp, -, h⟩ := bind_eq_ok.mp h
    dsimp only at h
    split at h
    · cases h
    · obtain ⟨css, -, h⟩ := bind_eq_ok.mp h
      exact hcontrol h
  | connectAck => exact hcontrol h
  | streamOpen =>
    obtain ⟨sp, -, h⟩ := bind_eq_ok.mp h
    exact hcontrol h
  | streamAck => exact hcontrol h
  | data =>
    obtain ⟨sp, -, h⟩ := bind_eq_ok.mp h
    dsimp only at h
    split at h
    · cases h
    · obtain ⟨data, hdata, h⟩ := bind_eq_ok.mp h
      cases h
      exact le_of_takePayload hdata
  | ack => exact hcontrol h
  | datagram =>
    obtain ⟨sp, -, h⟩ := bind_eq_ok.mp h
    dsimp only at h
    split at h
    · cases h
    · obtain ⟨data, hdata, h⟩ := bind_eq_ok.mp h
      cases h
      exact le_of_takePayload hdata
  | streamClose =>
    cases h
    exact le_rfl
  | tunnelClose =>
    cases h
    exact le_rfl
  | reset =>
    cases h
    exact le_rfl
  | streamReset => exact hcontrol h

theorem finishDecodeChecked_gives {buf : Bytes} (ctx : GtsContext) (profile : Option StreamProfile)
    {lower : GtsLowerPacket} (hlen : lower.wire.length + 4 ≤ buf.length) :
  Gives (finishDecodeChecked buf ctx profile lower) (finishDecode buf ctx profile lower)
  := by
  refine .ok_bind (.sub (by omega)) ?_
  refine .bind (readPacketChecked_gives ctx profile hlen) ?_
  rintro ⟨packet, metaEnd⟩ hpacket
  have hle := le_of_readPacket hpacket
  have hcovered : (if uncheckedMessage profile lower.packetType then metaEnd else buf.length - 4)
      ≤ buf.length := by
    split
    · omega
    · omega
  refine .ok_bind (.rangeFrom (by omega)) ?_
  refine .ok_bind (.arrayOr _ (by rw [List.length_drop]; omega)) ?_
  refine .ok_bind (.rangeTo hcovered) ?_
  refine .ok_bind (computeCrcChecked_gives ctx _) ?_
  exact .ite (fun _ => .throw _) fun _ => .pure _

/-- The decoder of GTS packets does not panic. -/
theorem GtsPacket.decodeChecked_gives (buf : Bytes) (ctx : GtsContext)
    (profile : Option StreamProfile) :
  Gives (decodeChecked buf ctx profile) (decode buf ctx profile)
  := by
  refine .ok_bind ctx.sizeClass.bytesChecked_gives ?_
  refine .ite (fun _ => .throw _) fun _ => ?_
  refine .bind (parseLowerChecked_gives buf) fun lower hlower => ?_
  obtain ⟨tail, rfl, htail⟩ := parseLower_eq_ok_iff.mp hlower
  apply finishDecodeChecked_gives
  rw [List.length_append]
  omega

end SmolGnet
