import LadoFlow.Protocol.WirePayload

/-!
# Hello and capabilities

The two reliable control payloads that open a session. Values carry the validation of their
constructors.
-/

namespace LadoFlow.Protocol

open Framework

def helloPrefixLen : Nat := 22

def capabilitiesLen : Nat := 20

/-- Maximum UTF-8 byte length of the implementation name in a hello payload. -/
def maxImplementationNameBytes : Nat := 64

/-- Endpoint role declared during session negotiation. -/
inductive Role where
  | host
  | display
  deriving DecidableEq, Repr

namespace Role

def entries : List Role := [.host, .display]

def code : Role → UInt8
  | .host => 1
  | .display => 2

def tryFrom (value : UInt8) : Except ProtocolError Role :=
  decodeTagOr entries code value (.invalidPayload "unknown endpoint role")

theorem tryFrom_eq_ok {value : UInt8} {role : Role} :
    tryFrom value = .ok role ↔ value = role.code :=
  decodeTagOr_eq_ok entries code (by intro r; cases r <;> decide)
    (by intro a b; cases a <;> cases b <;> decide)

end Role

def validateProtocolRange (minProtocol maxProtocol : UInt16) : Except ProtocolError Unit :=
  if minProtocol = 0 then .error (.invalidPayload "minimum protocol version must be non-zero")
  else if minProtocol > maxProtocol then
    .error (.invalidPayload "minimum protocol version exceeds maximum")
  else .ok ()

def containsNull (text : String) : Bool := text.toList.contains '\x00'

def validateImplementationName (name : String) : Except ProtocolError Unit :=
  if name.isEmpty then .error (.invalidPayload "implementation name must not be empty")
  else if (utf8Bytes name).length > maxImplementationNameBytes then
    .error (.invalidPayload "implementation name is too long")
  else if containsNull name then
    .error (.invalidPayload "implementation name contains a null byte")
  else .ok ()

theorem validateImplementationName_length {name : String}
    (h : validateImplementationName name = .ok ()) :
    (utf8Bytes name).length ≤ maxImplementationNameBytes := by
  simp only [validateImplementationName, ite_error_eq_ok] at h
  exact Nat.le_of_not_lt h.2.1

/-- Per-session random value. -/
abbrev Nonce := { bytes : Bytes // bytes.length = 16 }

/-- First reliable control payload exchanged by two endpoints. -/
@[ext] structure Hello where
  minProtocol : UInt16
  maxProtocol : UInt16
  role : Role
  nonce : Nonce
  implementationName : String
  range_valid : validateProtocolRange minProtocol maxProtocol = .ok ()
  name_valid : validateImplementationName implementationName = .ok ()
  deriving DecidableEq

namespace Hello

def new (minProtocol maxProtocol : UInt16) (role : Role) (nonce : Nonce)
    (implementationName : String) : Except ProtocolError Hello :=
  checked (validateProtocolRange minProtocol maxProtocol) fun range_valid =>
  checked (validateImplementationName implementationName) fun name_valid =>
  .ok { minProtocol, maxProtocol, role, nonce, implementationName, range_valid, name_valid }

/-- The bytes that `encode` appends. -/
def wire (hello : Hello) : Bytes :=
  toBeBytes hello.minProtocol ++ toBeBytes hello.maxProtocol ++ toBeBytes hello.role.code ++
    toBeBytes (UInt8.ofNat (utf8Bytes hello.implementationName).length) ++ hello.nonce.val ++
    utf8Bytes hello.implementationName

def encode (hello : Hello) : Except ProtocolError Bytes := do
  validateProtocolRange hello.minProtocol hello.maxProtocol
  validateImplementationName hello.implementationName
  if (utf8Bytes hello.implementationName).length ≥ UInt8.size then
    .error (.invalidPayload "implementation name is too long")
  else .ok hello.wire

def decode (payload : Bytes) : Except ProtocolError Hello :=
  if hlen : payload.length < helloPrefixLen then
    .error (.invalidPayload "hello payload is truncated")
  else do
  let minProtocol := readU16 payload 0
  let maxProtocol := readU16 payload 2
  let role ← Role.tryFrom (readU8 payload 4)
  let nameLen := (readU8 payload 5).toNat
  let expectedLen := helloPrefixLen + nameLen
  if payload.length ≠ expectedLen then
    .error (.invalidPayload "hello implementation-name length does not match payload")
  else do
  let nonce : Nonce := ⟨(payload.drop 6).take 16, by
    rw [helloPrefixLen] at hlen
    simp only [List.length_take, List.length_drop]
    omega⟩
  let implementationName ← stringFromUtf8 (payload.drop 22)
  Hello.new minProtocol maxProtocol role nonce implementationName

theorem new_eq_ok {minProtocol maxProtocol : UInt16} {role : Role} {nonce : Nonce}
    {implementationName : String} {hello : Hello} :
    new minProtocol maxProtocol role nonce implementationName = .ok hello ↔
      hello.minProtocol = minProtocol ∧ hello.maxProtocol = maxProtocol ∧ hello.role = role ∧
      hello.nonce = nonce ∧ hello.implementationName = implementationName := by
  constructor
  · intro h
    simp only [new, checked_eq_ok] at h
    obtain ⟨_, _, h⟩ := h
    cases h
    exact ⟨rfl, rfl, rfl, rfl, rfl⟩
  · rintro ⟨rfl, rfl, rfl, rfl, rfl⟩
    rw [new, checked_ok _ hello.range_valid, checked_ok _ hello.name_valid]

theorem name_length (hello : Hello) :
    (UInt8.ofNat (utf8Bytes hello.implementationName).length).toNat =
      (utf8Bytes hello.implementationName).length := by
  have hlen := validateImplementationName_length hello.name_valid
  rw [maxImplementationNameBytes] at hlen
  exact UInt8.toNat_ofNat_of_lt' (by rw [UInt8.size]; omega)

theorem encode_eq (hello : Hello) : hello.encode = .ok hello.wire := by
  have hlen := hello.name_length ▸ UInt8.toNat_lt_size _
  rw [encode, hello.range_valid, hello.name_valid, bind_ok, bind_ok, if_neg (by omega)]

theorem wire_eq_iff {payload : Bytes} {hello : Hello} :
    hello.wire = payload ↔ helloPrefixLen ≤ payload.length ∧
      readU16 payload 0 = hello.minProtocol ∧ readU16 payload 2 = hello.maxProtocol ∧
      readU8 payload 4 = hello.role.code ∧
      payload.length = helloPrefixLen + (readU8 payload 5).toNat ∧
      (payload.drop 6).take 16 = hello.nonce.val ∧
      utf8Bytes hello.implementationName = payload.drop 22 := by
  rw [wire]
  simp only [List.append_assoc]
  rw [word_eq]
  simp only [word_eq_drop, slice_eq_drop _ _ _ _ hello.nonce.property, Nat.reduceAdd,
    Nat.reduceLT, width_uint16, width_uint8, readU8, readU16, helloPrefixLen]
  constructor
  · rintro ⟨-, hmin, -, hmax, -, hrole, -, hlen, hle, hnonce, hname⟩
    refine ⟨hle, hmin, hmax, hrole, ?_, hnonce, hname⟩
    rw [hlen, name_length, hname, List.length_drop]
    omega
  · rintro ⟨hle, hmin, hmax, hrole, hlen, hnonce, hname⟩
    refine ⟨by omega, hmin, by omega, hmax, by omega, hrole, by omega, ?_, hle, hnonce, hname⟩
    rw [← UInt8.toNat_inj, name_length, hname, List.length_drop]
    omega

theorem decode_eq_ok {payload : Bytes} {hello : Hello} :
    decode payload = .ok hello ↔ hello.wire = payload := by
  rw [wire_eq_iff, decode]
  by_cases hle : payload.length < helloPrefixLen
  · simp [hle]
  simp only [dif_neg hle, bind_eq_ok, ite_error_eq_ok, Role.tryFrom_eq_ok, stringFromUtf8_eq_ok,
    new_eq_ok]
  constructor
  · rintro ⟨role, hrole, hlen, name, hname, hmin, hmax, rfl, hnonce, rfl⟩
    exact ⟨by omega, hmin.symm, hmax.symm, hrole, by simpa using hlen, by rw [hnonce], hname⟩
  · rintro ⟨-, hmin, hmax, hrole, hlen, hnonce, hname⟩
    exact ⟨hello.role, hrole, by simpa using hlen, hello.implementationName, hname, hmin.symm,
      hmax.symm, rfl, Subtype.ext hnonce.symm, rfl⟩

instance : WirePayload Hello where
  kind := .hello
  rebuild v := new v.minProtocol v.maxProtocol v.role v.nonce v.implementationName
  encode := encode
  decode := decode

theorem canonical : CanonicalPayload Hello := by
  refine canonicalPayload_of (fun v => ?_) encode_eq (fun v => ?_) fun _ _ => decode_eq_ok
  · exact new_eq_ok.mpr ⟨rfl, rfl, rfl, rfl, rfl⟩
  · have hname := validateImplementationName_length v.name_valid
    obtain ⟨hle, -, -, -, hlen, -⟩ := wire_eq_iff.mp (rfl : v.wire = v.wire)
    have hbyte := UInt8.toNat_lt (readU8 v.wire 5)
    rw [helloPrefixLen] at hlen
    exact Nat.le_trans (by omega : v.wire.length ≤ 22 + 256) (by decide)

end Hello

/-- Supported encoded video formats. -/
abbrev CodecSet := BitSet (0b111 : UInt16)

namespace CodecSet

def h264 : CodecSet := .of 1 (.refl true)
def hevc : CodecSet := .of 2 (.refl true)
def av1 : CodecSet := .of 4 (.refl true)

def fromBits (bits : UInt16) : Except ProtocolError CodecSet :=
  BitSet.ofBits bits (.invalidPayload "unknown codec capability")

def isEmpty (codecs : CodecSet) : Bool := codecs.bits = 0

end CodecSet

/-- Input event families a display can return to its host. -/
abbrev InputCapabilities := BitSet (0b111 : UInt16)

namespace InputCapabilities

def pointer : InputCapabilities := .of 1 (.refl true)
def touch : InputCapabilities := .of 2 (.refl true)
def keyboard : InputCapabilities := .of 4 (.refl true)

def fromBits (bits : UInt16) : Except ProtocolError InputCapabilities :=
  BitSet.ofBits bits (.invalidPayload "unknown input capability")

end InputCapabilities

/-- Optional session behavior independent of codecs and input. -/
abbrev FeatureFlags := BitSet (0b111 : UInt32)

namespace FeatureFlags

def dynamicRotation : FeatureFlags := .of 1 (.refl true)
def remoteCursor : FeatureFlags := .of 2 (.refl true)
def audio : FeatureFlags := .of 4 (.refl true)

def fromBits (bits : UInt32) : Except ProtocolError FeatureFlags :=
  BitSet.ofBits bits (.invalidPayload "unknown feature capability")

end FeatureFlags

/-- The checks of the capability constructor. -/
def Capabilities.validate (maxWidth maxHeight : UInt16) (maxRefreshMillihz maxBitrateKbps : UInt32)
    (codecs : CodecSet) : Except ProtocolError Unit :=
  if maxWidth = 0 ∨ maxHeight = 0 then
    .error (.invalidPayload "maximum display dimensions must be non-zero")
  else if maxRefreshMillihz = 0 then
    .error (.invalidPayload "maximum refresh rate must be non-zero")
  else if maxBitrateKbps = 0 then
    .error (.invalidPayload "maximum bitrate must be non-zero")
  else if CodecSet.isEmpty codecs then
    .error (.invalidPayload "at least one codec must be supported")
  else .ok ()

/-- Bounded display and interaction capabilities advertised by an endpoint. -/
@[ext] structure Capabilities where
  maxWidth : UInt16
  maxHeight : UInt16
  maxRefreshMillihz : UInt32
  maxBitrateKbps : UInt32
  codecs : CodecSet
  input : InputCapabilities
  features : FeatureFlags
  valid : Capabilities.validate maxWidth maxHeight maxRefreshMillihz maxBitrateKbps codecs = .ok ()
  deriving DecidableEq

namespace Capabilities

def new (maxWidth maxHeight : UInt16) (maxRefreshMillihz maxBitrateKbps : UInt32)
    (codecs : CodecSet) (input : InputCapabilities) (features : FeatureFlags) :
    Except ProtocolError Capabilities :=
  checked (validate maxWidth maxHeight maxRefreshMillihz maxBitrateKbps codecs) fun valid =>
  .ok { maxWidth, maxHeight, maxRefreshMillihz, maxBitrateKbps, codecs, input, features, valid }

def wire (caps : Capabilities) : Bytes :=
  toBeBytes caps.maxWidth ++ toBeBytes caps.maxHeight ++ toBeBytes caps.maxRefreshMillihz ++
    toBeBytes caps.maxBitrateKbps ++ toBeBytes caps.codecs.bits ++ toBeBytes caps.input.bits ++
    toBeBytes caps.features.bits

def encode (caps : Capabilities) : Except ProtocolError Bytes := do
  let _ ← new caps.maxWidth caps.maxHeight caps.maxRefreshMillihz caps.maxBitrateKbps caps.codecs
    caps.input caps.features
  .ok caps.wire

def decode (payload : Bytes) : Except ProtocolError Capabilities :=
  if payload.length ≠ capabilitiesLen then
    .error (.invalidPayload "capabilities payload must be exactly 20 bytes")
  else do
  let maxWidth := readU16 payload 0
  let maxHeight := readU16 payload 2
  let maxRefreshMillihz := readU32 payload 4
  let maxBitrateKbps := readU32 payload 8
  let codecs ← CodecSet.fromBits (readU16 payload 12)
  let input ← InputCapabilities.fromBits (readU16 payload 14)
  let features ← FeatureFlags.fromBits (readU32 payload 16)
  new maxWidth maxHeight maxRefreshMillihz maxBitrateKbps codecs input features

theorem new_eq_ok {maxWidth maxHeight : UInt16} {maxRefreshMillihz maxBitrateKbps : UInt32}
    {codecs : CodecSet} {input : InputCapabilities} {features : FeatureFlags}
    {caps : Capabilities} :
    new maxWidth maxHeight maxRefreshMillihz maxBitrateKbps codecs input features = .ok caps ↔
      caps.maxWidth = maxWidth ∧ caps.maxHeight = maxHeight ∧
      caps.maxRefreshMillihz = maxRefreshMillihz ∧ caps.maxBitrateKbps = maxBitrateKbps ∧
      caps.codecs = codecs ∧ caps.input = input ∧ caps.features = features := by
  constructor
  · intro h
    obtain ⟨_, h⟩ := checked_eq_ok.mp h
    cases h
    exact ⟨rfl, rfl, rfl, rfl, rfl, rfl, rfl⟩
  · rintro ⟨rfl, rfl, rfl, rfl, rfl, rfl, rfl⟩
    exact checked_ok _ caps.valid

theorem maxBitrateKbps_ne_zero (caps : Capabilities) : caps.maxBitrateKbps ≠ 0 := by
  have h := caps.valid
  simp only [validate, ite_error_eq_ok] at h
  exact h.2.2.1

theorem encode_eq (caps : Capabilities) : caps.encode = .ok caps.wire := by
  rw [encode, new_eq_ok.mpr ⟨rfl, rfl, rfl, rfl, rfl, rfl, rfl⟩, bind_ok]

theorem wire_eq_iff {payload : Bytes} {caps : Capabilities} :
    caps.wire = payload ↔ payload.length = capabilitiesLen ∧
      readU16 payload 0 = caps.maxWidth ∧ readU16 payload 2 = caps.maxHeight ∧
      readU32 payload 4 = caps.maxRefreshMillihz ∧ readU32 payload 8 = caps.maxBitrateKbps ∧
      readU16 payload 12 = caps.codecs.bits ∧ readU16 payload 14 = caps.input.bits ∧
      readU32 payload 16 = caps.features.bits := by
  rw [wire]
  simp only [List.append_assoc]
  rw [word_eq]
  simp only [word_eq_drop, last_word_eq_drop, Nat.reduceAdd, width_uint16, width_uint32, readU16,
    readU32, capabilitiesLen]
  constructor
  · rintro ⟨-, hw, -, hh, -, hr, -, hb, -, hc, -, hi, hlen, hf⟩
    exact ⟨hlen.symm, hw, hh, hr, hb, hc, hi, hf⟩
  · rintro ⟨hlen, hw, hh, hr, hb, hc, hi, hf⟩
    simp [*]

theorem decode_eq_ok {payload : Bytes} {caps : Capabilities} :
    decode payload = .ok caps ↔ caps.wire = payload := by
  rw [wire_eq_iff, decode]
  simp only [bind_eq_ok, ite_error_eq_ok, CodecSet.fromBits, InputCapabilities.fromBits,
    FeatureFlags.fromBits, BitSet.ofBits_eq_ok, new_eq_ok, not_not, ne_eq]
  constructor
  · rintro ⟨hlen, codecs, hc, input, hi, features, hf, hw, hh, hr, hb, rfl, rfl, rfl⟩
    exact ⟨hlen, hw.symm, hh.symm, hr.symm, hb.symm, hc, hi, hf⟩
  · rintro ⟨hlen, hw, hh, hr, hb, hc, hi, hf⟩
    exact ⟨hlen, _, hc, _, hi, _, hf, hw.symm, hh.symm, hr.symm, hb.symm, rfl, rfl, rfl⟩

instance : WirePayload Capabilities where
  kind := .capabilities
  rebuild v := new v.maxWidth v.maxHeight v.maxRefreshMillihz v.maxBitrateKbps v.codecs v.input
    v.features
  encode := encode
  decode := decode

theorem canonical : CanonicalPayload Capabilities := by
  refine canonicalPayload_of (fun v => ?_) encode_eq (fun v => ?_) fun _ _ => decode_eq_ok
  · exact new_eq_ok.mpr ⟨rfl, rfl, rfl, rfl, rfl, rfl, rfl⟩
  · rw [(wire_eq_iff.mp (rfl : v.wire = v.wire)).1]
    decide

end Capabilities

end LadoFlow.Protocol
