import LadoFlow.Protocol.Frame

/-!
# Kotlin byte access

Network-order reads and writes of the Android application. Kotlin bytes are signed and widen by
sign extension, so each read masks the sign away; the lemmas relate a read of the signed array to
the read of the unsigned string it holds. Array sizes and offsets are natural numbers.
-/

namespace LadoFlow.Android

open Framework

inductive ProtocolViolation where
  | invalidMagic
  | invalidHeaderLength
  | unsupportedVersion
  | unknownMessageType
  | unknownFrameFlags
  | payloadTooLarge
  | bufferLimitExceeded
  | unexpectedMessageType
  | nonMonotonicSequence
  | invalidPayload
  | invalidUtf8
  deriving DecidableEq, Repr

structure LdflProtocolException where
  violation : ProtocolViolation
  message : String
  deriving DecidableEq, Repr

def protocolFailure {α : Type} (violation : ProtocolViolation) (message : String) :
    Except LdflProtocolException α :=
  .error { violation, message }

def requireProtocol (condition : Prop) [Decidable condition] (message : String)
    (violation : ProtocolViolation := .invalidPayload) : Except LdflProtocolException Unit :=
  if condition then .ok () else protocolFailure violation message

@[simp] theorem requireProtocol_eq_ok {condition : Prop} [Decidable condition] {message : String}
    {violation : ProtocolViolation} {u : Unit} :
    requireProtocol condition message violation = .ok u ↔ condition := by
  rw [requireProtocol]
  split <;> simp_all [protocolFailure]

theorem requireProtocol_of {condition : Prop} [Decidable condition] {message : String}
    {violation : ProtocolViolation} (h : condition) :
    requireProtocol condition message violation = .ok () :=
  requireProtocol_eq_ok.mpr h

theorem requireProtocol_bind {α : Type} {condition : Prop} [Decidable condition]
    {message : String} {violation : ProtocolViolation} {next : Unit → Except LdflProtocolException α}
    {a : α} :
    (requireProtocol condition message violation >>= next) = .ok a ↔
      condition ∧ next () = .ok a := by
  rw [bind_eq_ok]
  constructor
  · rintro ⟨_, h, hnext⟩
    exact ⟨requireProtocol_eq_ok.mp h, hnext⟩
  · rintro ⟨h, hnext⟩
    exact ⟨(), requireProtocol_eq_ok.mpr h, hnext⟩

/-- A Kotlin `ByteArray`. -/
abbrev SignedBytes := List Int8

/-- The signed array with the bit patterns of a byte string. -/
def signed (bytes : Bytes) : SignedBytes := bytes.map UInt8.toInt8

@[simp] theorem signed_length (bytes : Bytes) : (signed bytes).length = bytes.length :=
  List.length_map _

@[simp] theorem signed_append (front rest : Bytes) :
    signed (front ++ rest) = signed front ++ signed rest :=
  List.map_append

theorem signed_drop (bytes : Bytes) (n : Nat) : signed (bytes.drop n) = (signed bytes).drop n :=
  List.map_drop

theorem signed_take (bytes : Bytes) (n : Nat) : signed (bytes.take n) = (signed bytes).take n :=
  List.map_take

/-- The byte string with the bit patterns of a signed array. -/
def unsigned (bytes : SignedBytes) : Bytes := bytes.map Int8.toUInt8

@[simp] theorem signed_unsigned (bytes : SignedBytes) : signed (unsigned bytes) = bytes := by
  rw [signed, unsigned, List.map_map]
  exact List.map_id bytes

@[simp] theorem unsigned_signed (bytes : Bytes) : unsigned (signed bytes) = bytes := by
  rw [signed, unsigned, List.map_map]
  exact List.map_id bytes

theorem signed_inj {a b : Bytes} : signed a = signed b ↔ a = b := by
  refine ⟨fun h => ?_, congrArg signed⟩
  rw [← unsigned_signed a, h, unsigned_signed]

section Reads

variable (bytes : SignedBytes) (offset : Nat)

def readU8 : Int32 := (bytes.getD offset 0).toInt32 &&& 0xff

def readU16 : Int32 := (readU8 bytes offset <<< 8) ||| readU8 bytes (offset + 1)

def readI16 : Int16 := (readU16 bytes offset).toInt16

def readU32 : UInt32 :=
  ((readU8 bytes offset).toUInt32 <<< 24) ||| ((readU8 bytes (offset + 1)).toUInt32 <<< 16) |||
    ((readU8 bytes (offset + 2)).toUInt32 <<< 8) ||| (readU8 bytes (offset + 3)).toUInt32

/-- Eight rounds of shifting the accumulated value and adding the next byte. -/
def readU64 : UInt64 :=
  (List.range 8).foldl
    (fun value index => (value <<< 8) ||| (readU8 bytes (offset + index)).toUInt32.toUInt64) 0

end Reads

section Writes

/-- `ByteArrayOutputStream.write` keeps the low eight bits. -/
def writeByte (value : Int32) : SignedBytes := [value.toInt8]

def writeU8 (value : Int32) : Except LdflProtocolException SignedBytes := do
  requireProtocol (0 ≤ value ∧ value ≤ 0xff) "u8 value is out of range"
  .ok (writeByte value)

def writeU16 (value : Int32) : Except LdflProtocolException SignedBytes := do
  requireProtocol (0 ≤ value ∧ value ≤ 0xffff) "u16 value is out of range"
  .ok (writeByte (value.toUInt32 >>> 8).toInt32 ++ writeByte value)

def writeI16 (value : Int16) : Except LdflProtocolException SignedBytes :=
  writeU16 (value.toInt32 &&& 0xffff)

def writeU32 (value : UInt32) : SignedBytes :=
  writeByte (value >>> 24).toInt32 ++ writeByte (value >>> 16).toInt32 ++
    writeByte (value >>> 8).toInt32 ++ writeByte value.toInt32

def writeU64 (value : UInt64) : SignedBytes :=
  ([56, 48, 40, 32, 24, 16, 8, 0] : List UInt64).flatMap fun shift =>
    writeByte (value >>> shift).toUInt32.toInt32

end Writes

/-- UTF-8 decoding that reports malformed input. -/
def decodeStrictUtf8 (bytes : SignedBytes) : Except LdflProtocolException String :=
  match fromUtf8 (unsigned bytes) with
  | some text => .ok text
  | none => protocolFailure .invalidUtf8 "Protocol string is not valid UTF-8"

theorem decodeStrictUtf8_signed {bytes : Bytes} {text : String} :
    decodeStrictUtf8 (signed bytes) = .ok text ↔ utf8Bytes text = bytes := by
  rw [← fromUtf8_eq_some, decodeStrictUtf8, unsigned_signed]
  cases fromUtf8 bytes <;> simp [protocolFailure]

/-- A 16-bit field as a Kotlin `Int`. -/
def widen16 (value : UInt16) : Int32 := value.toUInt32.toInt32

/-- An 8-bit field as a Kotlin `Int`. -/
def widen8 (value : UInt8) : Int32 := value.toUInt32.toInt32

theorem toInt_widen16 (value : UInt16) : (widen16 value).toInt = value.toNat := by
  have hlt := value.toNat_lt
  have hnat : (widen16 value).toBitVec.toNat = value.toNat := by simp [widen16]
  rw [← hnat] at hlt ⊢
  exact BitVec.toInt_eq_toNat_of_lt (by omega)

theorem toInt_widen8 (value : UInt8) : (widen8 value).toInt = value.toNat := by
  have hlt := value.toNat_lt
  have hnat : (widen8 value).toBitVec.toNat = value.toNat := by simp [widen8]
  rw [← hnat] at hlt ⊢
  exact BitVec.toInt_eq_toNat_of_lt (by omega)

theorem widen16_inj {a b : UInt16} : widen16 a = widen16 b ↔ a = b := by
  rw [← Int32.toInt_inj, toInt_widen16, toInt_widen16, Int.ofNat_inj, UInt16.toNat_inj]

theorem widen8_inj {a b : UInt8} : widen8 a = widen8 b ↔ a = b := by
  rw [← Int32.toInt_inj, toInt_widen8, toInt_widen8, Int.ofNat_inj, UInt8.toNat_inj]

/-- The 16-bit fields are the values that pass the range checks of the writer. -/
theorem exists_widen16 {value : Int32} :
    (0 ≤ value ∧ value ≤ 0xffff) ↔ ∃ v : UInt16, widen16 v = value := by
  simp only [Int32.le_iff_toInt_le, ← Int32.toInt_inj, toInt_widen16]
  constructor
  · rintro ⟨hlo, hhi⟩
    have hlo : 0 ≤ value.toInt := hlo
    have hhi : value.toInt ≤ 65535 := hhi
    refine ⟨UInt16.ofNat value.toInt.toNat, ?_⟩
    rw [UInt16.toNat_ofNat_of_lt' (by rw [UInt16.size]; omega)]
    omega
  · rintro ⟨v, hv⟩
    have hlt := v.toNat_lt
    rw [← hv]
    exact ⟨by change (0 : Int) ≤ _; omega, by change _ ≤ (65535 : Int); omega⟩

theorem exists_widen8 {value : Int32} :
    (0 ≤ value ∧ value ≤ 0xff) ↔ ∃ v : UInt8, widen8 v = value := by
  simp only [Int32.le_iff_toInt_le, ← Int32.toInt_inj, toInt_widen8]
  constructor
  · rintro ⟨hlo, hhi⟩
    have hlo : 0 ≤ value.toInt := hlo
    have hhi : value.toInt ≤ 255 := hhi
    refine ⟨UInt8.ofNat value.toInt.toNat, ?_⟩
    rw [UInt8.toNat_ofNat_of_lt' (by rw [UInt8.size]; omega)]
    omega
  · rintro ⟨v, hv⟩
    have hlt := v.toNat_lt
    rw [← hv]
    exact ⟨by change (0 : Int) ≤ _; omega, by change _ ≤ (255 : Int); omega⟩

theorem widen16_le {a b : UInt16} : widen16 a ≤ widen16 b ↔ a ≤ b := by
  rw [Int32.le_iff_toInt_le, toInt_widen16, toInt_widen16, Int.ofNat_le, UInt16.le_iff_toNat_le]

theorem le_min_int32 {a b c : Int32} : a ≤ min b c ↔ a ≤ b ∧ a ≤ c := by
  change a ≤ (if b ≤ c then b else c) ↔ _
  simp only [Int32.le_iff_toInt_le]
  split <;> omega

theorem one_le_widen16 {value : UInt16} : 1 ≤ widen16 value ↔ value ≠ 0 := by
  have h : (1 : Int32) = widen16 1 := rfl
  rw [h, widen16_le, UInt16.le_iff_toNat_le, Ne, ← UInt16.toNat_inj]
  exact Nat.one_le_iff_ne_zero

theorem widen16_le_max (value : UInt16) : widen16 value ≤ 0xffff :=
  (exists_widen16.mpr ⟨value, rfl⟩).2

theorem zero_le_widen16 (value : UInt16) : 0 ≤ widen16 value :=
  (exists_widen16.mpr ⟨value, rfl⟩).1

/-- A Kotlin `Int` used as a length. -/
def toLength (value : Int32) : Nat := value.toInt.toNat

@[simp] theorem toLength_widen16 (value : UInt16) : toLength (widen16 value) = value.toNat := by
  rw [toLength, toInt_widen16, Int.toNat_natCast]

@[simp] theorem toLength_widen8 (value : UInt8) : toLength (widen8 value) = value.toNat := by
  rw [toLength, toInt_widen8, Int.toNat_natCast]

theorem widen8_ofNat (n : Nat) (h : n < 2 ^ 8) : widen8 (UInt8.ofNat n) = Int32.ofNat n := by
  rw [← Int32.toInt_inj, toInt_widen8, UInt8.toNat_ofNat_of_lt' h,
    Int32.toInt_ofNat_of_lt (by omega)]

theorem widen16_ofNat (n : Nat) (h : n < 2 ^ 16) : widen16 (UInt16.ofNat n) = Int32.ofNat n := by
  rw [← Int32.toInt_inj, toInt_widen16, UInt16.toNat_ofNat_of_lt' h,
    Int32.toInt_ofNat_of_lt (by omega)]

theorem toInt16_widen16 (value : UInt16) : (widen16 value).toInt16 = value.toInt16 := by
  apply Int16.toBitVec_inj.mp
  change (value.toBitVec.setWidth 32).signExtend 16 = value.toBitVec
  rw [BitVec.signExtend_eq_setWidth_of_le _ (by decide), BitVec.setWidth_setWidth_of_le _ (by decide),
    BitVec.setWidth_eq]

/-- Masking commutes with widening, so the two languages reject the same bits. -/
theorem widen16_mask (value mask : UInt16) :
    widen16 value &&& ~~~widen16 mask = widen16 (value &&& ~~~mask) := by
  apply Int32.toBitVec_inj.mp
  change value.toBitVec.setWidth 32 &&& ~~~mask.toBitVec.setWidth 32 =
    (value.toBitVec &&& ~~~mask.toBitVec).setWidth 32
  ext i hi
  simp only [BitVec.getElem_and, BitVec.getElem_not, BitVec.getElem_setWidth, BitVec.getLsbD_and,
    BitVec.getLsbD_not]
  by_cases h16 : i < 16
  · simp [h16]
  · simp [BitVec.getLsbD_of_ge value.toBitVec i (by omega)]

theorem widen16_known {value mask : UInt16} :
    widen16 value &&& ~~~widen16 mask = 0 ↔ value &&& ~~~mask = 0 := by
  rw [widen16_mask, ← widen16_inj]
  rfl

section ReadLemmas

variable (bytes : Bytes) (offset : Nat)

/-- The sign extension of a byte is masked away. -/
theorem signed_byte (b : UInt8) : b.toInt8.toInt32 &&& 0xff = widen8 b := by
  obtain ⟨⟨⟨b, hb⟩⟩⟩ := b
  revert hb b
  decide +kernel

/-- The bytes at an offset that is followed by enough of them. -/
theorem take_drop_cons {n : Nat} (h : offset + (n + 1) ≤ bytes.length) :
    (bytes.drop offset).take (n + 1) =
      bytes.getD offset 0 :: (bytes.drop (offset + 1)).take n := by
  have hlt : offset < bytes.length := by omega
  rw [List.drop_eq_getElem_cons hlt, List.take_succ_cons, List.getD_eq_getElem?_getD,
    List.getElem?_eq_getElem hlt, Option.getD_some]

theorem getD_signed (h : offset < bytes.length) :
    (signed bytes).getD offset 0 = (bytes.getD offset 0).toInt8 := by
  rw [signed, List.getD_eq_getElem?_getD, List.getD_eq_getElem?_getD, List.getElem?_map,
    List.getElem?_eq_getElem h, Option.map_some, Option.getD_some, Option.getD_some]

theorem readU8_byte (h : offset < bytes.length) :
    readU8 (signed bytes) offset = widen8 (bytes.getD offset 0) := by
  rw [readU8, ← signed_byte, getD_signed bytes offset h]

private theorem readWord_one (h : offset < bytes.length) :
    (Framework.readWord bytes offset : UInt8) = bytes.getD offset 0 := by
  rw [readWord, width_uint8, take_drop_cons bytes offset (n := 0) (by omega)]
  simp [fromBeBytes, beNat, Word.ofNat]

theorem readU8_signed (h : offset + 1 ≤ bytes.length) :
    readU8 (signed bytes) offset = widen8 (Protocol.readU8 bytes offset) := by
  rw [readU8_byte bytes offset (by omega), Protocol.readU8, readWord_one bytes offset (by omega)]

/-- Disjoint bits: or is addition. -/
private theorem mul_or {low n : Nat} (high : Nat) (h : low < 2 ^ n) :
    high * 2 ^ n ||| low = high * 2 ^ n + low := by
  rw [← Nat.shiftLeft_eq, ← Nat.shiftLeft_add_eq_or_of_lt h]

theorem readU16_signed (h : offset + 2 ≤ bytes.length) :
    readU16 (signed bytes) offset = widen16 (Protocol.readU16 bytes offset) := by
  rw [readU16, readU8_byte bytes _ (by omega), readU8_byte bytes _ (by omega), Protocol.readU16,
    readWord, width_uint16, take_drop_cons bytes offset (by omega),
    take_drop_cons bytes _ (by omega)]
  generalize bytes.getD offset 0 = b0, bytes.getD (offset + 1) 0 = b1
  have h0 := b0.toNat_lt
  have h1 := b1.toNat_lt
  have hor := mul_or b0.toNat h1
  apply Int32.toBitVec_inj.mp
  apply BitVec.eq_of_toNat_eq
  simp [widen8, widen16, fromBeBytes, beNat, Word.ofNat, Nat.shiftLeft_eq]
  rw [Nat.mod_eq_of_lt (by omega), Nat.mod_eq_of_lt (by omega)]
  exact hor

theorem readI16_signed (h : offset + 2 ≤ bytes.length) :
    readI16 (signed bytes) offset = Protocol.readI16 bytes offset := by
  rw [readI16, readU16_signed bytes offset h, toInt16_widen16]
  rfl

theorem readU32_signed (h : offset + 4 ≤ bytes.length) :
    readU32 (signed bytes) offset = Protocol.readU32 bytes offset := by
  rw [readU32, readU8_byte bytes _ (by omega), readU8_byte bytes _ (by omega),
    readU8_byte bytes _ (by omega), readU8_byte bytes _ (by omega), Protocol.readU32,
    readWord, width_uint32, take_drop_cons bytes offset (by omega),
    take_drop_cons bytes _ (by omega), take_drop_cons bytes _ (by omega),
    take_drop_cons bytes _ (by omega)]
  generalize bytes.getD offset 0 = b0, bytes.getD (offset + 1) 0 = b1,
    bytes.getD (offset + 2) 0 = b2, bytes.getD (offset + 3) 0 = b3
  have h0 := b0.toNat_lt
  have h1 := b1.toNat_lt
  have h2 := b2.toNat_lt
  have h3 := b3.toNat_lt
  have hor1 : b0.toNat * 2 ^ 24 ||| b1.toNat * 2 ^ 16 = (b0.toNat * 256 + b1.toNat) * 2 ^ 16 := by
    rw [mul_or _ (by omega)]
    omega
  have hor2 : (b0.toNat * 256 + b1.toNat) * 2 ^ 16 ||| b2.toNat * 2 ^ 8 =
      ((b0.toNat * 256 + b1.toNat) * 256 + b2.toNat) * 2 ^ 8 := by
    rw [mul_or _ (by omega)]
    omega
  have hor3 := mul_or ((b0.toNat * 256 + b1.toNat) * 256 + b2.toNat) h3
  simp only [Nat.reducePow] at hor1 hor2 hor3
  apply UInt32.toNat_inj.mp
  simp [widen8, fromBeBytes, beNat, Word.ofNat, Nat.shiftLeft_eq]
  rw [Nat.mod_eq_of_lt (by omega), Nat.mod_eq_of_lt (by omega), Nat.mod_eq_of_lt (by omega), hor1,
    hor2, hor3]
  omega

/-- The accumulation loop of `readU64` computes the big-endian value. -/
private theorem foldl_shift (digits : Bytes) (value : UInt64) (k : Nat)
    (hvalue : value.toNat < 256 ^ k) (hk : k + digits.length ≤ 8) :
    (digits.foldl (fun (value : UInt64) b => (value <<< 8) ||| (widen8 b).toUInt32.toUInt64)
        value).toNat =
      value.toNat * 256 ^ digits.length + beNat digits := by
  induction digits generalizing value k with
  | nil => simp [beNat]
  | cons b digits ih =>
    rw [List.length_cons] at hk
    have hb := b.toNat_lt
    have hpow : 256 ^ k * 256 ≤ 2 ^ 64 := by
      rw [← Nat.pow_succ]
      exact Nat.pow_le_pow_right (by decide : 0 < 256) (by omega : k + 1 ≤ 8)
    have hmul : value.toNat * 2 ^ 8 + b.toNat < 256 ^ k * 256 := by
      have := Nat.mul_le_mul_right 256 (Nat.succ_le_of_lt hvalue)
      omega
    have hstep : ((value <<< 8) ||| (widen8 b).toUInt32.toUInt64).toNat =
        value.toNat * 2 ^ 8 + b.toNat := by
      have hmod : value.toNat * 2 ^ 8 % 2 ^ 64 = value.toNat * 2 ^ 8 :=
        Nat.mod_eq_of_lt (Nat.lt_of_le_of_lt (Nat.le_add_right _ _) (Nat.lt_of_lt_of_le hmul hpow))
      rw [← mul_or _ hb, ← hmod]
      simp [widen8, Nat.shiftLeft_eq]
    rw [List.foldl_cons, ih _ (k + 1) (by rw [hstep, Nat.pow_succ]; exact hmul) (by omega), hstep,
      List.length_cons, beNat, Nat.pow_succ]
    ring

theorem readU64_signed (h : offset + 8 ≤ bytes.length) :
    readU64 (signed bytes) offset = Protocol.readU64 bytes offset := by
  have hbytes : (bytes.drop offset).take 8 =
      (List.range 8).map fun index => bytes.getD (offset + index) 0 := by
    rw [take_drop_cons bytes _ (by omega), take_drop_cons bytes _ (by omega),
      take_drop_cons bytes _ (by omega), take_drop_cons bytes _ (by omega),
      take_drop_cons bytes _ (by omega), take_drop_cons bytes _ (by omega),
      take_drop_cons bytes _ (by omega), take_drop_cons bytes _ (by omega)]
    rfl
  have hfold : readU64 (signed bytes) offset = ((bytes.drop offset).take 8).foldl
      (fun (value : UInt64) b => (value <<< 8) ||| (widen8 b).toUInt32.toUInt64) 0 := by
    have hreads : (List.range 8).map (fun index => readU8 (signed bytes) (offset + index)) =
        (List.range 8).map (fun index => widen8 (bytes.getD (offset + index) 0)) := by
      apply List.map_congr_left
      intro index hindex
      have hlt := List.mem_range.mp hindex
      exact readU8_byte bytes _ (by omega)
    have hfoldl : ∀ f : Nat → Int32, (List.range 8).foldl
          (fun (value : UInt64) index => (value <<< 8) ||| (f index).toUInt32.toUInt64) 0 =
        ((List.range 8).map f).foldl
          (fun (value : UInt64) b => (value <<< 8) ||| b.toUInt32.toUInt64) 0 := by
      intro f
      rw [List.foldl_map]
    rw [hbytes, List.foldl_map, readU64, hfoldl, hreads, ← hfoldl]
  apply UInt64.toNat_inj.mp
  have hlen : ((bytes.drop offset).take 8).length = 8 := by
    rw [List.length_take, List.length_drop]
    omega
  have hlt := beNat_lt ((bytes.drop offset).take 8)
  rw [hfold, foldl_shift _ 0 0 (by decide) (by omega)]
  rw [hlen] at hlt
  simp only [Protocol.readU64, readWord, fromBeBytes, Word.ofNat, width_uint64]
  rw [UInt64.toNat_ofNat_of_lt' (by rw [UInt64.size]; omega)]
  simp

end ReadLemmas

section WriteLemmas

/-- A written byte is the low byte of the two's-complement pattern. -/
theorem writeByte_eq (value : Int32) {n : Nat} (h : value.toBitVec.toNat % 256 = n % 256) :
    writeByte value = signed [UInt8.ofNat n] := by
  rw [writeByte, signed, List.map_singleton]
  congr 1
  apply Int8.toBitVec_inj.mp
  change value.toBitVec.signExtend 8 = BitVec.ofNat 8 n
  rw [BitVec.signExtend_eq_setWidth_of_le _ (by decide)]
  apply BitVec.eq_of_toNat_eq
  simpa using h

theorem writeU8_widen8 (value : UInt8) : writeU8 (widen8 value) = .ok (signed (toBeBytes value)) := by
  have hrange := exists_widen8.mpr ⟨value, rfl⟩
  rw [writeU8, requireProtocol_of hrange, bind_ok, writeByte_eq (n := value.toNat)]
  · simp
  · simp [widen8]

theorem writeU16_widen16 (value : UInt16) :
    writeU16 (widen16 value) = .ok (signed (toBeBytes value)) := by
  have hrange := exists_widen16.mpr ⟨value, rfl⟩
  rw [writeU16, requireProtocol_of hrange, bind_ok,
    writeByte_eq (n := value.toNat / 256 ^ 1), writeByte_eq (n := value.toNat / 256 ^ 0)]
  · rfl
  · simp [widen16]
  · simp [widen16, Nat.shiftRight_eq_div_pow]

theorem writeI16_eq (value : Int16) : writeI16 value = .ok (signed (toBeBytes value)) := by
  have hwiden : value.toInt32 &&& 0xffff = widen16 value.toUInt16 := by
    apply Int32.toBitVec_inj.mp
    change value.toBitVec.signExtend 32 &&& 0xffff#32 = value.toBitVec.setWidth 32
    have hmask : ∀ i : Fin 32, (0xffff#32)[i] = decide (i.val < 16) := by decide
    ext i hi
    have hbit : (0xffff#32)[i] = decide (i < 16) := hmask ⟨i, hi⟩
    rw [BitVec.getElem_and, BitVec.getElem_signExtend, BitVec.getElem_setWidth, hbit]
    by_cases h16 : i < 16
    · simp [h16]
    · simp [h16, BitVec.getLsbD_of_ge value.toBitVec i (by omega)]
  rw [writeI16, hwiden, writeU16_widen16]
  rfl

theorem writeU32_eq (value : UInt32) : writeU32 value = signed (toBeBytes value) := by
  rw [writeU32, writeByte_eq (n := value.toNat / 256 ^ 3), writeByte_eq (n := value.toNat / 256 ^ 2),
    writeByte_eq (n := value.toNat / 256 ^ 1), writeByte_eq (n := value.toNat / 256 ^ 0)]
  · rfl
  all_goals simp [Nat.shiftRight_eq_div_pow]

theorem writeU64_eq (value : UInt64) : writeU64 value = signed (toBeBytes value) := by
  have hbyte (shift : UInt64) (k : Nat) (hk : 256 ^ k = 2 ^ (shift.toNat % 64)) :
      writeByte (value >>> shift).toUInt32.toInt32 = signed [UInt8.ofNat (value.toNat / 256 ^ k)] := by
    apply writeByte_eq
    simp [Nat.shiftRight_eq_div_pow, hk]
  simp only [writeU64, List.flatMap_cons, List.flatMap_nil]
  rw [hbyte 56 7 rfl, hbyte 48 6 rfl, hbyte 40 5 rfl, hbyte 32 4 rfl, hbyte 24 3 rfl,
    hbyte 16 2 rfl, hbyte 8 1 rfl, hbyte 0 0 rfl]
  rfl

end WriteLemmas

end LadoFlow.Android
