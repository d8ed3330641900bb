import LadoFlow.Android.FrameCodec
import LadoFlow.Protocol.Message

/-!
# Kotlin hello and capabilities
-/

namespace LadoFlow.Android

open Framework
open Protocol (Role Hello Capabilities)

def helloPrefixBytes : Nat := 22
def maxImplementationNameBytes : Nat := 64
def capabilitiesBytes : Nat := 20

namespace EndpointRole

def wireValue : Role → Int32
  | .host => 1
  | .display => 2

def fromWire (value : Int32) : Except LdflProtocolException Role :=
  decodeTagOr Role.entries wireValue value ⟨.invalidPayload, s!"Unknown endpoint role {value}"⟩

theorem wireValue_eq (role : Role) : wireValue role = widen8 role.code := by
  cases role <;> rfl

theorem fromWire_eq_ok {value : UInt8} {role : Role} :
    fromWire (widen8 value) = .ok role ↔ value = role.code := by
  rw [← widen8_inj, ← wireValue_eq]
  exact decodeTagOr_eq_ok _ wireValue (by intro k; cases k <;> decide)
    (by intro a b; cases a <;> cases b <;> decide)

end EndpointRole

def validateImplementationName (name : String) : Except LdflProtocolException Unit := do
  let bytes := signed (utf8Bytes name)
  requireProtocol (bytes ≠ []) "Implementation name must not be empty"
  requireProtocol (bytes.length ≤ maxImplementationNameBytes)
    s!"Implementation name exceeds {maxImplementationNameBytes} UTF-8 bytes"
  requireProtocol (!Protocol.containsNull name) "Implementation name contains a null byte"

theorem isEmpty_iff (text : String) : text.isEmpty ↔ utf8Bytes text = [] := by
  rw [utf8Bytes, Array.toList_eq_nil_iff, ← Array.size_eq_zero_iff]
  exact beq_iff_eq

theorem validateImplementationName_eq_ok {name : String} {u : Unit} :
    validateImplementationName name = .ok u ↔
      Protocol.validateImplementationName name = .ok () := by
  simp only [validateImplementationName, bind_eq_ok, requireProtocol_eq_ok,
    Protocol.validateImplementationName, ite_error_eq_ok, isEmpty_iff, signed_length]
  simp [signed, maxImplementationNameBytes, Protocol.maxImplementationNameBytes]

/-- The checks of the hello constructor. -/
def HelloPayload.init (minProtocol maxProtocol : Int32) (nonce : SignedBytes)
    (implementationName : String) : Except LdflProtocolException Unit := do
  requireProtocol (1 ≤ minProtocol ∧ minProtocol ≤ 0xffff)
    "Minimum protocol version must be non-zero"
  requireProtocol (minProtocol ≤ maxProtocol ∧ maxProtocol ≤ 0xffff)
    "Minimum protocol version exceeds maximum"
  requireProtocol (nonce.length = 16) "Hello nonce must be exactly 16 bytes"
  validateImplementationName implementationName

structure HelloPayload where
  minProtocol : Int32
  maxProtocol : Int32
  role : Role
  nonce : SignedBytes
  implementationName : String
  valid : HelloPayload.init minProtocol maxProtocol nonce implementationName = .ok ()

namespace HelloPayload

def new (minProtocol maxProtocol : Int32) (role : Role) (nonce : SignedBytes)
    (implementationName : String) : Except LdflProtocolException HelloPayload :=
  checked (init minProtocol maxProtocol nonce implementationName) fun valid =>
  .ok { minProtocol, maxProtocol, role, nonce, implementationName, valid }

def encode (hello : HelloPayload) : Except LdflProtocolException SignedBytes := do
  let nameBytes := signed (utf8Bytes hello.implementationName)
  .ok ((← writeU16 hello.minProtocol) ++ (← writeU16 hello.maxProtocol) ++
    (← writeU8 (EndpointRole.wireValue hello.role)) ++ (← writeU8 (Int32.ofNat nameBytes.length)) ++
    hello.nonce ++ nameBytes)

def decode (payload : SignedBytes) : Except LdflProtocolException HelloPayload := do
  requireProtocol (payload.length ≥ helloPrefixBytes) "Hello payload is truncated"
  let nameLength := readU8 payload 5
  requireProtocol (payload.length = helloPrefixBytes + toLength nameLength)
    "Hello implementation-name length does not match payload"
  new (readU16 payload 0) (readU16 payload 2) (← EndpointRole.fromWire (readU8 payload 4))
    ((payload.drop 6).take 16) (← decodeStrictUtf8 (payload.drop 22))

theorem init_widen {minProtocol maxProtocol : UInt16} {nonce : SignedBytes}
    {implementationName : String} {u : Unit} :
    init (widen16 minProtocol) (widen16 maxProtocol) nonce implementationName = .ok u ↔
      Protocol.validateProtocolRange minProtocol maxProtocol = .ok () ∧ nonce.length = 16 ∧
        Protocol.validateImplementationName implementationName = .ok () := by
  simp only [init, requireProtocol_bind, one_le_widen16, widen16_le, widen16_le_max,
    validateImplementationName_eq_ok, Protocol.validateProtocolRange,
    ite_error_eq_ok]
  simp [and_assoc]

/-- The Kotlin payload with the field values of a Rust hello. -/
def ofHello (hello : Hello) : HelloPayload where
  minProtocol := widen16 hello.minProtocol
  maxProtocol := widen16 hello.maxProtocol
  role := hello.role
  nonce := signed hello.nonce.val
  implementationName := hello.implementationName
  valid := init_widen.mpr ⟨hello.range_valid, by simp [hello.nonce.property], hello.name_valid⟩

theorem new_eq_ok {minProtocol maxProtocol : Int32} {role : Role} {nonce : SignedBytes}
    {implementationName : String} {payload : HelloPayload} :
    new minProtocol maxProtocol role nonce implementationName = .ok payload ↔
      payload.minProtocol = minProtocol ∧ payload.maxProtocol = maxProtocol ∧
      payload.role = role ∧ payload.nonce = nonce ∧
      payload.implementationName = implementationName := by
  constructor
  · intro h
    obtain ⟨_, h⟩ := checked_eq_ok.mp h
    cases h
    exact ⟨rfl, rfl, rfl, rfl, rfl⟩
  · rintro ⟨rfl, rfl, rfl, rfl, rfl⟩
    exact checked_ok _ payload.valid

theorem ofHello_bijective : Function.Bijective ofHello := by
  constructor
  · intro a b h
    simp only [ofHello, HelloPayload.mk.injEq, widen16_inj, signed_inj] at h
    obtain ⟨hmin, hmax, hrole, hnonce, hname⟩ := h
    exact Hello.ext hmin hmax hrole (Subtype.ext hnonce) hname
  · rintro ⟨minProtocol, maxProtocol, role, nonce, name, hvalid⟩
    have hchecks := hvalid
    simp only [init, requireProtocol_bind] at hchecks
    obtain ⟨⟨hmin, hmin'⟩, ⟨hmax, hmax'⟩, -⟩ := hchecks
    have hzero : (0 : Int32) ≤ 1 := by decide
    obtain ⟨minProtocol, rfl⟩ := exists_widen16.mp ⟨Int32.le_trans hzero hmin, hmin'⟩
    obtain ⟨maxProtocol, rfl⟩ :=
      exists_widen16.mp ⟨Int32.le_trans (zero_le_widen16 minProtocol) hmax, hmax'⟩
    obtain ⟨hrange, hnonce, hname⟩ := init_widen.mp hvalid
    refine ⟨⟨minProtocol, maxProtocol, role, ⟨unsigned nonce, ?_⟩, name, hrange, hname⟩, ?_⟩
    · rw [← signed_length, signed_unsigned, hnonce]
    · simp only [ofHello, signed_unsigned]

theorem encode_ofHello (hello : Hello) : encode (ofHello hello) = .ok (signed hello.wire) := by
  have hlen := hello.name_length ▸ UInt8.toNat_lt _
  simp only [encode, ofHello, writeU16_widen16, EndpointRole.wireValue_eq, writeU8_widen8,
    signed_length, ← widen8_ofNat _ hlen, bind_ok, Hello.wire, signed_append]

theorem decode_signed {payload : Bytes} {hello : Hello} :
    decode (signed payload) = .ok (ofHello hello) ↔ hello.wire = payload := by
  rw [Hello.wire_eq_iff, decode]
  by_cases hle : payload.length < helloPrefixBytes
  · have hle' : ¬ Protocol.helloPrefixLen ≤ payload.length := Nat.not_le.mpr hle
    simp [requireProtocol_bind, hle, hle']
  · have hroom : 22 ≤ payload.length := Nat.not_lt.mp hle
    rw [requireProtocol_of (by simpa using Nat.not_lt.mp hle), bind_ok,
      readU8_signed _ _ (by omega), readU8_signed _ _ (by omega), readU16_signed _ _ (by omega),
      readU16_signed _ _ (by omega)]
    simp only [bind_eq_ok, requireProtocol_eq_ok, EndpointRole.fromWire_eq_ok, ← signed_drop,
      ← signed_take, decodeStrictUtf8_signed, new_eq_ok, ofHello, widen16_inj, signed_inj,
      toLength_widen8, signed_length]
    constructor
    · rintro ⟨_, hlen, role, hrole, name, hname, hmin, hmax, rfl, hnonce, rfl⟩
      exact ⟨hroom, hmin.symm, hmax.symm, hrole, hlen, hnonce.symm, hname⟩
    · rintro ⟨-, hmin, hmax, hrole, hlen, hnonce, hname⟩
      exact ⟨(), hlen, _, hrole, _, hname, hmin.symm, hmax.symm, rfl, hnonce.symm, rfl⟩

instance : LdflPayload Hello HelloPayload where
  ofRust := ofHello
  encode := encode
  decode := decode

theorem wireEquivalent : WireEquivalent Hello :=
  wireEquivalent_of ofHello_bijective Hello.encode_eq (fun _ _ => Hello.decode_eq_ok)
    encode_ofHello fun _ _ => decode_signed

end HelloPayload

abbrev CodecCapabilities := BitSet (0b111 : Int32)
abbrev InputCapabilities := BitSet (0b111 : Int32)
abbrev FeatureFlags := BitSet (0b111 : UInt32)

def CodecCapabilities.h264 : CodecCapabilities := .of 1 (.refl true)

def InputCapabilities.none : InputCapabilities := .of 0 (.refl true)
def InputCapabilities.pointer : InputCapabilities := .of 1 (.refl true)
def InputCapabilities.touch : InputCapabilities := .of 2 (.refl true)
def InputCapabilities.keyboard : InputCapabilities := .of 4 (.refl true)

/-- The check for H.264 reads the same bit in both languages. -/
theorem CodecCapabilities.contains_h264 {codecs : Protocol.CodecSet} :
    (widenBits mask111 codecs).contains CodecCapabilities.h264 ↔
      codecs.bits &&& Protocol.CodecSet.h264.bits ≠ 0 := by
  have hone : codecs.bits &&& 1 ≠ 0 ↔ codecs.bits &&& 1 = 1 := by
    simp only [ne_eq, ← UInt16.toNat_inj, UInt16.toNat_and]
    simp only [UInt16.toNat_one, Nat.and_one_is_mod, UInt16.toNat_zero]
    omega
  have hand : widen16 codecs.bits &&& widen16 1 = widen16 (codecs.bits &&& 1) := rfl
  change decide (widen16 codecs.bits &&& widen16 1 = widen16 1) = true ↔ codecs.bits &&& 1 ≠ 0
  rw [decide_eq_true_iff, hand, widen16_inj, hone]

def CodecCapabilities.fromBits (bits : Int32) : Except LdflProtocolException CodecCapabilities :=
  BitSet.ofBits bits ⟨.invalidPayload, "Unknown codec capability bits 0x" ++ toHex bits⟩

def InputCapabilities.fromBits (bits : Int32) : Except LdflProtocolException InputCapabilities :=
  BitSet.ofBits bits ⟨.invalidPayload, "Unknown input capability bits 0x" ++ toHex bits⟩

def FeatureFlags.fromBits (bits : UInt32) : Except LdflProtocolException FeatureFlags :=
  BitSet.ofBits bits ⟨.invalidPayload, "Unknown feature capability bits 0x" ++
    String.ofList (Nat.toDigits 16 bits.toNat)⟩

/-- The checks of the capabilities constructor. -/
def CapabilitiesPayload.init (maxWidth maxHeight : Int32) (maxRefreshMillihz maxBitrateKbps : UInt32)
    (codecs : CodecCapabilities) : Except LdflProtocolException Unit := do
  requireProtocol ((1 ≤ maxWidth ∧ maxWidth ≤ 0xffff) ∧ 1 ≤ maxHeight ∧ maxHeight ≤ 0xffff)
    "Maximum display dimensions must be non-zero u16 values"
  requireProtocol (maxRefreshMillihz ≠ 0) "Maximum refresh rate must be non-zero"
  requireProtocol (maxBitrateKbps ≠ 0) "Maximum bitrate must be non-zero"
  requireProtocol (codecs.bits ≠ 0) "At least one codec must be supported"

structure CapabilitiesPayload where
  maxWidth : Int32
  maxHeight : Int32
  maxRefreshMillihz : UInt32
  maxBitrateKbps : UInt32
  codecs : CodecCapabilities
  input : InputCapabilities
  features : FeatureFlags
  valid : CapabilitiesPayload.init maxWidth maxHeight maxRefreshMillihz maxBitrateKbps codecs =
    .ok ()
  deriving DecidableEq

namespace CapabilitiesPayload

def new (maxWidth maxHeight : Int32) (maxRefreshMillihz maxBitrateKbps : UInt32)
    (codecs : CodecCapabilities) (input : InputCapabilities) (features : FeatureFlags) :
    Except LdflProtocolException CapabilitiesPayload :=
  checked (init maxWidth maxHeight maxRefreshMillihz maxBitrateKbps codecs) fun valid =>
  .ok { maxWidth, maxHeight, maxRefreshMillihz, maxBitrateKbps, codecs, input, features, valid }

def encode (caps : CapabilitiesPayload) : Except LdflProtocolException SignedBytes := do
  .ok ((← writeU16 caps.maxWidth) ++ (← writeU16 caps.maxHeight) ++
    writeU32 caps.maxRefreshMillihz ++ writeU32 caps.maxBitrateKbps ++
    (← writeU16 caps.codecs.bits) ++ (← writeU16 caps.input.bits) ++ writeU32 caps.features.bits)

def decode (payload : SignedBytes) : Except LdflProtocolException CapabilitiesPayload := do
  requireProtocol (payload.length = capabilitiesBytes)
    s!"Capabilities payload must be exactly {capabilitiesBytes} bytes"
  new (readU16 payload 0) (readU16 payload 2) (readU32 payload 4) (readU32 payload 8)
    (← CodecCapabilities.fromBits (readU16 payload 12))
    (← InputCapabilities.fromBits (readU16 payload 14))
    (← FeatureFlags.fromBits (readU32 payload 16))

theorem init_widen {maxWidth maxHeight : UInt16} {maxRefreshMillihz maxBitrateKbps : UInt32}
    {codecs : Protocol.CodecSet} {u : Unit} :
    init (widen16 maxWidth) (widen16 maxHeight) maxRefreshMillihz maxBitrateKbps
        (widenBits mask111 codecs) = .ok u ↔
      Capabilities.validate maxWidth maxHeight maxRefreshMillihz maxBitrateKbps codecs =
        .ok () := by
  have hbits : (widenBits mask111 codecs).bits = 0 ↔ codecs.bits = 0 := widen16_inj (b := 0)
  simp only [init, requireProtocol_bind, requireProtocol_eq_ok, one_le_widen16, widen16_le_max,
    Capabilities.validate, ite_error_eq_ok, Protocol.CodecSet.isEmpty]
  simp [and_assoc, hbits]

/-- The Kotlin payload with the field values of Rust capabilities. -/
def ofCapabilities (caps : Capabilities) : CapabilitiesPayload where
  maxWidth := widen16 caps.maxWidth
  maxHeight := widen16 caps.maxHeight
  maxRefreshMillihz := caps.maxRefreshMillihz
  maxBitrateKbps := caps.maxBitrateKbps
  codecs := widenBits mask111 caps.codecs
  input := widenBits mask111 caps.input
  features := caps.features
  valid := init_widen.mpr caps.valid

theorem new_eq_ok {maxWidth maxHeight : Int32} {maxRefreshMillihz maxBitrateKbps : UInt32}
    {codecs : CodecCapabilities} {input : InputCapabilities} {features : FeatureFlags}
    {payload : CapabilitiesPayload} :
    new maxWidth maxHeight maxRefreshMillihz maxBitrateKbps codecs input features = .ok payload ↔
      payload.maxWidth = maxWidth ∧ payload.maxHeight = maxHeight ∧
      payload.maxRefreshMillihz = maxRefreshMillihz ∧ payload.maxBitrateKbps = maxBitrateKbps ∧
      payload.codecs = codecs ∧ payload.input = input ∧ payload.features = features := by
  constructor
  · intro h
    obtain ⟨_, h⟩ := checked_eq_ok.mp h
    cases h
    exact ⟨rfl, rfl, rfl, rfl, rfl, rfl, rfl⟩
  · rintro ⟨rfl, rfl, rfl, rfl, rfl, rfl, rfl⟩
    exact checked_ok _ payload.valid

theorem ofCapabilities_bijective : Function.Bijective ofCapabilities := by
  constructor
  · intro a b h
    simp only [ofCapabilities, CapabilitiesPayload.mk.injEq, widen16_inj] at h
    obtain ⟨hw, hh, hr, hb, hc, hi, hf⟩ := h
    exact Capabilities.ext hw hh hr hb ((widenBits_bijective mask111).1 hc)
      ((widenBits_bijective mask111).1 hi) hf
  · rintro ⟨maxWidth, maxHeight, refresh, bitrate, codecs, input, features, hvalid⟩
    have hchecks := hvalid
    simp only [init, requireProtocol_bind] at hchecks
    obtain ⟨⟨⟨hw, hw'⟩, hh, hh'⟩, -⟩ := hchecks
    have hzero : (0 : Int32) ≤ 1 := by decide
    obtain ⟨maxWidth, rfl⟩ := exists_widen16.mp ⟨Int32.le_trans hzero hw, hw'⟩
    obtain ⟨maxHeight, rfl⟩ := exists_widen16.mp ⟨Int32.le_trans hzero hh, hh'⟩
    obtain ⟨codecs, rfl⟩ := (widenBits_bijective mask111).2 codecs
    obtain ⟨input, rfl⟩ := (widenBits_bijective mask111).2 input
    exact ⟨⟨maxWidth, maxHeight, refresh, bitrate, codecs, input, features,
      init_widen.mp hvalid⟩, rfl⟩

theorem encode_ofCapabilities (caps : Capabilities) :
    encode (ofCapabilities caps) = .ok (signed caps.wire) := by
  simp only [encode, ofCapabilities, widenBits, writeU16_widen16, writeU32_eq, bind_ok,
    Capabilities.wire, signed_append]

theorem decode_signed {payload : Bytes} {caps : Capabilities} :
    decode (signed payload) = .ok (ofCapabilities caps) ↔ caps.wire = payload := by
  rw [Capabilities.wire_eq_iff, decode]
  by_cases hlen : payload.length = capabilitiesBytes
  · have hroom : payload.length = 20 := hlen
    rw [requireProtocol_of (by simpa using hlen), bind_ok, readU16_signed _ _ (by omega),
      readU16_signed _ _ (by omega), readU32_signed _ _ (by omega), readU32_signed _ _ (by omega),
      readU16_signed _ _ (by omega), readU16_signed _ _ (by omega), readU32_signed _ _ (by omega)]
    simp only [bind_eq_ok, new_eq_ok, ofCapabilities, widen16_inj, CodecCapabilities.fromBits,
      InputCapabilities.fromBits, FeatureFlags.fromBits, BitSet.ofBits_eq_ok]
    constructor
    · rintro ⟨codecs, hc, input, hi, features, hf, hw, hh, hr, hb, rfl, rfl, rfl⟩
      exact ⟨hroom, hw.symm, hh.symm, hr.symm, hb.symm, widen16_inj.mp hc, widen16_inj.mp hi, hf⟩
    · rintro ⟨-, hw, hh, hr, hb, hc, hi, hf⟩
      exact ⟨_, widen16_inj.mpr hc, _, widen16_inj.mpr hi, _, hf, hw.symm, hh.symm, hr.symm,
        hb.symm, rfl, rfl, rfl⟩
  · have hlen' : ¬ payload.length = Protocol.capabilitiesLen := hlen
    simp [requireProtocol_bind, hlen, hlen']

instance : LdflPayload Capabilities CapabilitiesPayload where
  ofRust := ofCapabilities
  encode := encode
  decode := decode

theorem wireEquivalent : WireEquivalent Capabilities :=
  wireEquivalent_of ofCapabilities_bijective Capabilities.encode_eq
    (fun _ _ => Capabilities.decode_eq_ok) encode_ofCapabilities fun _ _ => decode_signed

end CapabilitiesPayload

end LadoFlow.Android
