import SmolGnet.Wire.Gts

/-!
# Service selectors on the wire

A service selector has one encoding: the code of a registered name, a short name that is not
registered, or 16 bytes that are neither.  The decoder accepts exactly the encodings, with
anything after them.
-/

namespace SmolGnet

open Octets

/-- The name of a registered code: `FILE` or `GRPC`. -/
def registeredToShort (code : U8) : Option Bytes :=
  if code = 1#8 then some [0x46#8, 0x49#8, 0x4c#8, 0x45#8]
  else if code = 2#8 then some [0x47#8, 0x52#8, 0x50#8, 0x43#8]
  else none

namespace ServiceSelector

/-- The selector with a short name, which may be a registered one. -/
def shortRaw (v : Bytes) (hlen : v.length = 4) : Except Error ServiceSelector :=
  if !validShort v then .error .invalidField
  else .ok ⟨copyInto (List.replicate 16 0#8) 0 v, by
    rw [length_copyInto (by simp [hlen]), List.length_replicate]⟩

/-- The selector with a registered name. -/
def registered (code : U8) : Except Error ServiceSelector :=
  match h : registeredToShort code with
  | none => .error .invalidField
  | some s => shortRaw s (by
    rw [registeredToShort] at h
    split at h
    · cases h
      rfl
    · split at h
      · cases h
        rfl
      · cases h)

/-- The selector with a short name that is not registered. -/
def short (v : Bytes) (hlen : v.length = 4) : Except Error ServiceSelector :=
  if (shortToRegistered v).isSome then .error .nonCanonical else shortRaw v hlen

/-- The selector with the given bytes, which are not a short name. -/
def full (v : Bytes) (hlen : v.length = 16) : Except Error ServiceSelector :=
  if v = List.replicate 16 0#8 then .error .invalidField
  else if (v.drop 4).all (fun b => b = 0#8) ∧ validShort (v.take 4) then .error .nonCanonical
  else .ok ⟨v, hlen⟩

/-- The selector at the front of `buf`, and the number of its bytes. -/
def decode (buf : Bytes) : Except Error (ServiceSelector × ℕ) :=
  match buf with
  | [] => .error .invalidLength
  | first :: rest =>
    if first &&& 0x3f#8 ≠ 0#8 then .error .invalidField
    else if first >>> 6 = 0#8 then
      match rest with
      | [] => .error .invalidLength
      | code :: _ => do
        let s ← registered code
        return (s, 2)
    else if first >>> 6 = 1#8 then
      if h : rest.length < 4 then .error .invalidLength
      else if (shortToRegistered (rest.take 4)).isSome then .error .nonCanonical
      else do
        let s ← short (rest.take 4) (List.length_take_of_le (not_lt.mp h))
        return (s, 5)
    else if first >>> 6 = 2#8 then
      if h : rest.length < 16 then .error .invalidLength
      else do
        let s ← full (rest.take 16) (List.length_take_of_le (not_lt.mp h))
        return (s, 17)
    else .error .invalidField

/-! ### The encodings -/

/-- The bytes consist of a short name and zeros. -/
def Named (bytes v : Bytes) : Prop :=
  v.length = 4 ∧ validShort v ∧ bytes = v ++ List.replicate 12 0#8

/-- A selector and its encoding. -/
inductive Encoding (s : ServiceSelector) : Bytes → Prop where
  | registered {code : U8} {v : Bytes} (hcode : shortToRegistered v = some code)
      (hname : Named s.bytes v) : Encoding s [0x00#8, code]
  | short {v : Bytes} (hcode : shortToRegistered v = none) (hname : Named s.bytes v) :
      Encoding s (0x40#8 :: v)
  | full (hzero : s.bytes ≠ List.replicate 16 0#8) (hname : ∀ v, ¬ Named s.bytes v) :
      Encoding s (0x80#8 :: s.bytes)

theorem registeredToShort_eq_some_iff {code : U8} {v : Bytes} :
  registeredToShort code = some v ↔ shortToRegistered v = some code
  := by
  rw [registeredToShort, shortToRegistered]
  constructor
  · intro h
    split at h
    · next hcode =>
      cases h
      rw [if_pos rfl, hcode]
    · split at h
      · next hcode =>
        cases h
        rw [if_neg (by decide), if_pos rfl, hcode]
      · cases h
  · intro h
    split at h
    · next hname =>
      cases h
      rw [if_pos rfl, hname]
    · split at h
      · next hname =>
        cases h
        rw [if_neg (by decide), if_pos rfl, hname]
      · cases h

/-- What the encoder asks to find out whether the selector has a short name. -/
theorem named_iff {bytes : Bytes} (hlen : bytes.length = 16) :
  ((bytes.drop 4).all (fun b => b = 0#8) ∧ validShort (bytes.take 4) = true) ↔
    Named bytes (bytes.take 4)
  := by
  have hdrop : (bytes.drop 4).length = 12 := by rw [List.length_drop, hlen]
  rw [Named, List.length_take_of_le (by omega)]
  constructor
  · rintro ⟨hzero, hshort⟩
    refine ⟨rfl, hshort, ?_⟩
    have heq : bytes.drop 4 = List.replicate 12 0#8 := by
      rw [List.eq_replicate_iff]
      refine ⟨hdrop, fun b hb => ?_⟩
      exact of_decide_eq_true (List.all_eq_true.mp hzero b hb)
    rw [← heq, List.take_append_drop]
  · rintro ⟨-, hshort, heq⟩
    refine ⟨?_, hshort⟩
    have hzero : bytes.drop 4 = List.replicate 12 0#8 := by
      apply @List.append_cancel_left _ (bytes.take 4)
      rw [List.take_append_drop, ← heq]
    rw [hzero]
    decide

/-- The name of a selector with a short name. -/
theorem Named.take_eq {bytes v : Bytes} (h : Named bytes v) :
  bytes.take 4 = v
  := by
  rw [h.2.2, List.take_left' h.1]

theorem Named.length_eq {bytes v : Bytes} (h : Named bytes v) :
  bytes.length = 16
  := by
  rw [h.2.2, List.length_append, h.1, List.length_replicate]

/-- A selector with a short name is not the zero selector. -/
theorem Named.ne_zero {bytes v : Bytes} (h : Named bytes v) :
  bytes ≠ List.replicate 16 0#8
  := by
  rintro rfl
  have hshort := h.2.1
  rw [← h.take_eq] at hshort
  revert hshort
  decide

/-- The encoder gives the encoding. -/
theorem encode_eq_ok_iff {s : ServiceSelector} {bytes : Bytes} :
  s.encode = .ok bytes ↔ Encoding s bytes
  := by
  rw [encode, canonicalWire]
  by_cases hzero : s.bytes = List.replicate 16 0#8
  · rw [if_pos hzero]
    constructor
    · intro h
      cases h
    · intro h
      cases h with
      | registered hcode hname => exact absurd hzero hname.ne_zero
      | short hcode hname => exact absurd hzero hname.ne_zero
      | full hne hname => exact absurd hzero hne
  · rw [if_neg hzero]
    by_cases hname : Named s.bytes (s.bytes.take 4)
    · rw [if_pos ((named_iff s.length_eq).mpr hname)]
      cases hcode : shortToRegistered (s.bytes.take 4) with
      | some code =>
        constructor
        · intro h
          cases h
          exact .registered hcode hname
        · intro h
          cases h with
          | registered hcode' hname' =>
            rw [hname'.take_eq, hcode'] at hcode
            cases hcode
            rfl
          | short hcode' hname' =>
            rw [hname'.take_eq, hcode'] at hcode
            cases hcode
          | full _ hno => exact absurd hname (hno _)
      | none =>
        constructor
        · intro h
          cases h
          exact .short hcode hname
        · intro h
          cases h with
          | registered hcode' hname' =>
            rw [hname'.take_eq, hcode'] at hcode
            cases hcode
          | short hcode' hname' => rw [hname'.take_eq]
          | full _ hno => exact absurd hname (hno _)
    · rw [if_neg (mt (named_iff s.length_eq).mp hname)]
      have hno : ∀ v, ¬ Named s.bytes v := by
        intro v hv
        rw [← hv.take_eq] at hv
        exact hname hv
      constructor
      · intro h
        cases h
        exact .full hzero hno
      · intro h
        cases h with
        | registered hcode' hname' => exact absurd hname' (hno _)
        | short hcode' hname' => exact absurd hname' (hno _)
        | full _ _ => rfl

/-! ### Reading a selector back -/

theorem shortRaw_eq_ok_iff {v : Bytes} {hlen : v.length = 4} {s : ServiceSelector} :
  shortRaw v hlen = .ok s ↔ Named s.bytes v
  := by
  have hbytes : copyInto (List.replicate 16 0#8) 0 v = v ++ List.replicate 12 0#8 := by
    rw [copyInto_zero, hlen, List.drop_replicate]
  rw [shortRaw]
  split
  · next hshort =>
    constructor
    · intro h
      cases h
    · intro h
      simp [h.2.1] at hshort
  · next hshort =>
    constructor
    · intro h
      cases h
      exact ⟨hlen, by simpa using hshort, hbytes⟩
    · rintro ⟨-, -, h⟩
      congr 1
      cases s
      congr 1
      exact hbytes.trans h.symm

theorem registered_eq_ok_iff {code : U8} {s : ServiceSelector} :
  registered code = .ok s ↔ ∃ v, shortToRegistered v = some code ∧ Named s.bytes v
  := by
  rw [registered]
  split
  · next hnone =>
    constructor
    · intro h
      cases h
    · rintro ⟨v, hcode, -⟩
      rw [registeredToShort_eq_some_iff.mpr hcode] at hnone
      cases hnone
  · next v hsome =>
    rw [shortRaw_eq_ok_iff]
    constructor
    · intro h
      exact ⟨v, registeredToShort_eq_some_iff.mp hsome, h⟩
    · rintro ⟨v', hcode, h⟩
      rw [registeredToShort_eq_some_iff.mpr hcode] at hsome
      cases hsome
      exact h

theorem full_eq_ok_iff {v : Bytes} {hlen : v.length = 16} {s : ServiceSelector} :
  full v hlen = .ok s ↔ s.bytes = v ∧ v ≠ List.replicate 16 0#8 ∧ ∀ name, ¬ Named v name
  := by
  rw [full]
  by_cases hzero : v = List.replicate 16 0#8
  · rw [if_pos hzero]
    constructor
    · intro h
      cases h
    · rintro ⟨-, hne, -⟩
      exact absurd hzero hne
  · rw [if_neg hzero]
    by_cases hname : Named v (v.take 4)
    · rw [if_pos ((named_iff hlen).mpr hname)]
      constructor
      · intro h
        cases h
      · rintro ⟨-, -, hno⟩
        exact absurd hname (hno _)
    · rw [if_neg (mt (named_iff hlen).mp hname)]
      constructor
      · intro h
        cases h
        refine ⟨rfl, hzero, fun name h => ?_⟩
        rw [← h.take_eq] at h
        exact hname h
      · rintro ⟨heq, -, -⟩
        congr 1
        cases s
        congr 1
        exact heq.symm

/-- The last six bits of the first byte are 0, and the other two say which form follows. -/
theorem first_eq {first kind : U8} (hlow : first &&& 0x3f#8 = 0#8) (hkind : first >>> 6 = kind) :
  first = kind <<< 6
  := by
  subst hkind
  revert hlow
  revert first
  decide

/-- What is accepted starts with an encoding. -/
theorem encoding_of_decode {buf : Bytes} {s : ServiceSelector} {n : ℕ} (h : decode buf = .ok (s, n)) :
  ∃ bytes, Encoding s bytes ∧ bytes.length = n ∧ bytes <+: buf
  := by
  rw [decode.eq_def] at h
  split at h
  · cases h
  next first rest =>
  split at h
  · cases h
  next hlow =>
  rw [not_not] at hlow
  split at h
  · next hkind =>
    split at h
    · cases h
    next code _ =>
    obtain ⟨s', hs', heq⟩ := bind_eq_ok.mp h
    cases heq
    obtain ⟨v, hcode, hname⟩ := registered_eq_ok_iff.mp hs'
    rw [first_eq hlow hkind]
    exact ⟨_, .registered hcode hname, rfl, ⟨_, rfl⟩⟩
  split at h
  · next hkind =>
    split at h
    · cases h
    split at h
    · cases h
    next hlen hcode =>
    obtain ⟨s', hs', heq⟩ := bind_eq_ok.mp h
    cases heq
    rw [short, if_neg hcode, shortRaw_eq_ok_iff] at hs'
    rw [first_eq hlow hkind]
    refine ⟨_, .short (by simpa using hcode) hs', ?_, ?_⟩
    · rw [List.length_cons, hs'.1]
    · exact List.cons_prefix_cons.mpr ⟨rfl, List.take_prefix 4 rest⟩
  split at h
  · next hkind =>
    split at h
    · cases h
    next hlen =>
    obtain ⟨s', hs', heq⟩ := bind_eq_ok.mp h
    cases heq
    obtain ⟨hbytes, hzero, hname⟩ := full_eq_ok_iff.mp hs'
    rw [first_eq hlow hkind]
    refine ⟨_, .full (hbytes ▸ hzero) (hbytes ▸ hname), ?_, ?_⟩
    · rw [List.length_cons, s.length_eq]
    · rw [hbytes]
      exact List.cons_prefix_cons.mpr ⟨rfl, List.take_prefix 16 rest⟩
  · cases h

/-- An encoding is accepted, whatever follows it. -/
theorem decode_append_of_encoding {s : ServiceSelector} {bytes : Bytes} (h : Encoding s bytes)
    (tail : Bytes) :
  decode (bytes ++ tail) = .ok (s, bytes.length)
  := by
  cases h with
  | @registered code v hcode hname =>
    change (registered code >>= fun s => .ok (s, 2)) = _
    rw [registered_eq_ok_iff.mpr ⟨v, hcode, hname⟩]
    rfl
  | @short v hcode hname =>
    have htake : (v ++ tail).take 4 = v := List.take_left' hname.1
    have hroom : ¬ (v ++ tail).length < 4 := by
      rw [List.length_append, hname.1]
      omega
    rw [List.cons_append, decode.eq_def]
    dsimp only
    rw [if_neg (by decide), if_neg (by decide), if_pos (by decide),
      dif_neg hroom, if_neg (by rw [htake, hcode]; decide)]
    have hshort : ∀ hlen, ServiceSelector.short ((v ++ tail).take 4) hlen = .ok s := by
      rw [htake]
      intro hlen
      rw [ServiceSelector.short, hcode, if_neg (by decide), shortRaw_eq_ok_iff]
      exact hname
    rw [hshort, List.length_cons, hname.1]
    rfl
  | full hzero hname =>
    have htake : (s.bytes ++ tail).take 16 = s.bytes := List.take_left' s.length_eq
    have hroom : ¬ (s.bytes ++ tail).length < 16 := by
      rw [List.length_append, s.length_eq]
      omega
    rw [List.cons_append, decode.eq_def]
    dsimp only
    rw [if_neg (by decide), if_neg (by decide), if_neg (by decide),
      if_pos (by decide), dif_neg hroom]
    have hfull : ∀ hlen, ServiceSelector.full ((s.bytes ++ tail).take 16) hlen = .ok s := by
      rw [htake]
      intro hlen
      rw [full_eq_ok_iff]
      exact ⟨rfl, hzero, hname⟩
    rw [hfull, List.length_cons, s.length_eq]
    rfl

/-- The decoder accepts the encodings, whatever follows them, and nothing else. -/
theorem decode_eq_ok_iff {buf : Bytes} {s : ServiceSelector} {n : ℕ} :
  decode buf = .ok (s, n) ↔ ∃ bytes, Encoding s bytes ∧ bytes.length = n ∧ bytes <+: buf
  := by
  constructor
  · exact encoding_of_decode
  · rintro ⟨bytes, henc, rfl, tail, rfl⟩
    exact decode_append_of_encoding henc tail

/-! ### The encoder over a buffer -/

/-- The number of bytes of a form of a selector. -/
def need : CssWire → ℕ
  | .registered _ => 2
  | .short _ => 5
  | .full _ => 17

/-- Write a form of a selector at the front of `out`. -/
def write (out : Bytes) : CssWire → Bytes
  | .registered c => copyInto (copyInto out 0 [0x00#8]) 1 [c]
  | .short v => copyInto (copyInto out 0 [0x40#8]) 1 v
  | .full v => copyInto (copyInto out 0 [0x80#8]) 1 v

/-- The number of bytes of the selector. -/
def encodedLen (s : ServiceSelector) : Except Error ℕ := do
  let wire ← s.canonicalWire
  return need wire

/-- Write the selector at the front of `out`; also the number of bytes written. -/
def encodeInto (s : ServiceSelector) (out : Bytes) : Except Error (Bytes × ℕ) := do
  let wire ← s.canonicalWire
  if out.length < need wire then .error .bufferFull
  else return (write out wire, need wire)

theorem canonicalWire_of_encoding {s : ServiceSelector} {bytes : Bytes} (h : Encoding s bytes) :
  ∃ wire, s.canonicalWire = .ok wire ∧ need wire = bytes.length ∧
    ∀ out, write out wire = copyInto out 0 bytes
  := by
  have hwrite : ∀ (out v : Bytes) (b : U8),
      copyInto (copyInto out 0 [b]) 1 v = copyInto out 0 (b :: v) := by
    intro out v b
    rw [copyInto_zero, @copyInto_append _ [b] 1 rfl, copyInto_zero, List.drop_drop, List.length_cons,
      List.length_cons, List.length_nil, Nat.add_comm v.length]
    rfl
  have henc := encode_eq_ok_iff.mpr h
  rw [encode] at henc
  cases hwire : s.canonicalWire with
  | error err =>
    rw [hwire] at henc
    cases henc
  | ok wire =>
    rw [hwire] at henc
    refine ⟨wire, rfl, ?_⟩
    cases wire with
    | registered code =>
      cases henc
      exact ⟨rfl, fun out => hwrite out _ _⟩
    | short v =>
      cases henc
      refine ⟨?_, fun out => hwrite out _ _⟩
      cases h with
      | short hcode hname => rw [List.length_cons, hname.1, need]
    | full v =>
      cases henc
      refine ⟨?_, fun out => hwrite out _ _⟩
      cases h with
      | full hzero hname => rw [List.length_cons, s.length_eq, need]

/-- The encoding is written into a buffer that has room for it, and the rest is kept. -/
theorem encodeInto_eq {s : ServiceSelector} {bytes out : Bytes} (h : Encoding s bytes)
    (hroom : bytes.length ≤ out.length) :
  s.encodeInto out = .ok (copyInto out 0 bytes, bytes.length)
  := by
  obtain ⟨wire, hwire, hneed, hwrite⟩ := canonicalWire_of_encoding h
  rw [encodeInto, hwire]
  change (if out.length < need wire then _ else _) = _
  rw [if_neg (by omega), hneed, hwrite]
  rfl

/-- The bytes of a selector are what is written into a buffer of the announced length. -/
theorem encode_eq_encodeInto (s : ServiceSelector) :
  s.encode = (do
    let len ← s.encodedLen
    let written ← s.encodeInto (List.replicate len 0#8)
    return written.1.take written.2)
  := by
  cases henc : s.encode with
  | error err =>
    rw [encode] at henc
    rw [encodedLen]
    cases hwire : s.canonicalWire with
    | error err' =>
      rw [hwire] at henc
      cases henc
      rfl
    | ok wire =>
      rw [hwire] at henc
      cases wire with
      | registered code => cases henc
      | short v => cases henc
      | full v => cases henc
  | ok bytes =>
    have h := encode_eq_ok_iff.mp henc
    obtain ⟨wire, hwire, hneed, -⟩ := canonicalWire_of_encoding h
    have hlen : s.encodedLen = .ok bytes.length := by
      rw [encodedLen, hwire, ← hneed]
      rfl
    have hinto := @encodeInto_eq s bytes (List.replicate bytes.length 0#8) h (by simp)
    rw [hlen]
    change _ = (s.encodeInto (List.replicate bytes.length 0#8) >>= _)
    rw [hinto, copyInto_zero]
    change _ = Except.ok (List.take _ _)
    rw [List.take_left]

/-! ### One encoding -/

/-- Every selector but the zero selector has an encoding. -/
theorem exists_encoding {s : ServiceSelector} (hzero : s.bytes ≠ List.replicate 16 0#8) :
  ∃ bytes, Encoding s bytes
  := by
  by_cases hname : ∃ v, Named s.bytes v
  · obtain ⟨v, hname⟩ := hname
    cases hcode : shortToRegistered v with
    | some code => exact ⟨_, .registered hcode hname⟩
    | none => exact ⟨_, .short hcode hname⟩
  · exact ⟨_, .full hzero (not_exists.mp hname)⟩

/-- A selector has one encoding. -/
theorem Encoding.unique {s : ServiceSelector} {bytes bytes' : Bytes} (h : Encoding s bytes)
    (h' : Encoding s bytes') :
  bytes = bytes'
  := by
  rw [← encode_eq_ok_iff] at h h'
  rw [h] at h'
  exact Except.ok.inj h'

/-- What was decoded is encoded to the bytes that the decoder took. -/
theorem encode_of_decode {buf : Bytes} {s : ServiceSelector} {n : ℕ}
    (h : decode buf = .ok (s, n)) :
  s.encode = .ok (buf.take n) ∧ n ≤ buf.length
  := by
  obtain ⟨bytes, henc, rfl, hprefix⟩ := decode_eq_ok_iff.mp h
  refine ⟨?_, hprefix.length_le⟩
  rw [encode_eq_ok_iff, ← List.prefix_iff_eq_take.mp hprefix]
  exact henc

/-- The three constructors never give one selector. -/
theorem constructors_disjoint {code : U8} {v w : Bytes} {hv : v.length = 4} {hw : w.length = 16}
    {s : ServiceSelector} :
  ¬ (registered code = .ok s ∧ short v hv = .ok s) ∧
  ¬ (registered code = .ok s ∧ full w hw = .ok s) ∧
  ¬ (short v hv = .ok s ∧ full w hw = .ok s)
  := by
  have hshort : short v hv = .ok s → shortToRegistered v = none ∧ Named s.bytes v := by
    intro h
    rw [short] at h
    split at h
    · cases h
    · next hcode => exact ⟨by simpa using hcode, shortRaw_eq_ok_iff.mp h⟩
  refine ⟨?_, ?_, ?_⟩
  · rintro ⟨hreg, h⟩
    obtain ⟨v', hcode, hname⟩ := registered_eq_ok_iff.mp hreg
    obtain ⟨hnone, hname'⟩ := hshort h
    rw [← hname'.take_eq, hname.take_eq, hcode] at hnone
    cases hnone
  · rintro ⟨hreg, h⟩
    obtain ⟨v', -, hname⟩ := registered_eq_ok_iff.mp hreg
    obtain ⟨hbytes, -, hno⟩ := full_eq_ok_iff.mp h
    exact hno v' (hbytes ▸ hname)
  · rintro ⟨h, hfull⟩
    obtain ⟨hbytes, -, hno⟩ := full_eq_ok_iff.mp hfull
    exact hno v (hbytes ▸ (hshort h).2)

/--
Every selector but the zero selector is read back from its encoding, whatever follows it, and no
shorter byte string is read as that selector.  Whatever is decoded to a selector begins with the
encoding of it, so a registered code, a short name and 16 bytes never stand for one selector.
-/
theorem one_encoding :
  (∀ s : ServiceSelector, s.bytes ≠ List.replicate 16 0#8 → ∃ bytes, s.encode = .ok bytes ∧
    (∀ tail, decode (bytes ++ tail) = .ok (s, bytes.length)) ∧
    ∀ (buf : Bytes) (n : ℕ), decode buf = .ok (s, n) → bytes.length ≤ buf.length) ∧
  (∀ (buf : Bytes) (s : ServiceSelector) (n : ℕ), decode buf = .ok (s, n) →
    s.encode = .ok (buf.take n)) ∧
  ∀ (code : U8) (v w : Bytes) (hv : v.length = 4) (hw : w.length = 16) (s : ServiceSelector),
    ¬ (registered code = .ok s ∧ short v hv = .ok s) ∧
    ¬ (registered code = .ok s ∧ full w hw = .ok s) ∧
    ¬ (short v hv = .ok s ∧ full w hw = .ok s)
  := by
  refine ⟨?_, fun buf s n h => (encode_of_decode h).1, fun _ _ _ _ _ _ => constructors_disjoint⟩
  intro s hzero
  obtain ⟨bytes, henc⟩ := exists_encoding hzero
  refine ⟨bytes, encode_eq_ok_iff.mpr henc, ?_, ?_⟩
  · intro tail
    exact decode_eq_ok_iff.mpr ⟨bytes, henc, rfl, List.prefix_append bytes tail⟩
  · intro buf n h
    obtain ⟨bytes', henc', -, hprefix⟩ := decode_eq_ok_iff.mp h
    rw [henc.unique henc']
    exact hprefix.length_le

/-- A selector that is no name, and one byte string that is decoded. -/
theorem one_encoding_ones :
  (∃ bytes, ones.encode = .ok bytes ∧
    (∀ tail, decode (bytes ++ tail) = .ok (ones, bytes.length)) ∧
    ∀ (buf : Bytes) (n : ℕ), decode buf = .ok (ones, n) → bytes.length ≤ buf.length) ∧
  ones.encode = .ok ((0x80#8 :: ones.bytes).take 17)
  :=
  ⟨one_encoding.1 ones (by decide), one_encoding.2.1 (0x80#8 :: ones.bytes) ones 17 (by decide)⟩

end ServiceSelector

end SmolGnet
