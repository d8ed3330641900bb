import LadoFlow.Protocol.Message

/-!
# Liveness and error payloads
-/

namespace LadoFlow.Protocol

open Framework

def pingLen : Nat := 16

def pongLen : Nat := 32

def errorPrefixLen : Nat := 5

/-- Maximum UTF-8 byte length of an error diagnostic. -/
def maxErrorDiagnosticBytes : Nat := 1024

/-- Liveness request carrying an opaque correlation token and send timestamp. -/
@[ext] structure Ping where
  token : UInt64
  clientSendTimestampMicros : UInt64
  deriving DecidableEq, Repr

namespace Ping

def new (token clientSendTimestampMicros : UInt64) : Ping := { token, clientSendTimestampMicros }

def wire (ping : Ping) : Bytes := toBeBytes ping.token ++ toBeBytes ping.clientSendTimestampMicros

def encode (ping : Ping) : Except ProtocolError Bytes := .ok ping.wire

def decode (payload : Bytes) : Except ProtocolError Ping :=
  if payload.length ≠ pingLen then
    .error (.invalidPayload "ping payload must be exactly 16 bytes")
  else .ok (new (readU64 payload 0) (readU64 payload 8))

theorem wire_eq_iff {payload : Bytes} {ping : Ping} :
    ping.wire = payload ↔ payload.length = pingLen ∧ readU64 payload 0 = ping.token ∧
      readU64 payload 8 = ping.clientSendTimestampMicros := by
  rw [wire, word_eq, last_word_eq_drop]
  simp only [Nat.reduceAdd, width_uint64, readU64, pingLen]
  constructor
  · rintro ⟨-, ht, hlen, hs⟩
    exact ⟨hlen.symm, ht, hs⟩
  · rintro ⟨hlen, ht, hs⟩
    simp [*]

theorem decode_eq_ok {payload : Bytes} {ping : Ping} :
    decode payload = .ok ping ↔ ping.wire = payload := by
  simp only [wire_eq_iff, decode, ite_error_eq_ok, ne_eq, not_not, new, Except.ok.injEq,
    Ping.ext_iff]

instance : WirePayload Ping where
  kind := .ping
  rebuild v := .ok (new v.token v.clientSendTimestampMicros)
  encode := encode
  decode := decode

theorem canonical : CanonicalPayload Ping := by
  refine canonicalPayload_of (fun _ => rfl) (fun _ => rfl) (fun v => ?_) fun _ _ => decode_eq_ok
  rw [(wire_eq_iff.mp (rfl : v.wire = v.wire)).1]
  decide

end Ping

def Pong.validate (serverReceiveTimestampMicros serverSendTimestampMicros : UInt64) :
    Except ProtocolError Unit :=
  if serverSendTimestampMicros < serverReceiveTimestampMicros then
    .error (.invalidPayload "pong server send timestamp precedes receive timestamp")
  else .ok ()

/-- Liveness response with the four timestamps needed for clock-offset estimation. -/
@[ext] structure Pong where
  token : UInt64
  clientSendTimestampMicros : UInt64
  serverReceiveTimestampMicros : UInt64
  serverSendTimestampMicros : UInt64
  valid : Pong.validate serverReceiveTimestampMicros serverSendTimestampMicros = .ok ()
  deriving DecidableEq

namespace Pong

def new (token clientSendTimestampMicros serverReceiveTimestampMicros
    serverSendTimestampMicros : UInt64) : Except ProtocolError Pong :=
  checked (validate serverReceiveTimestampMicros serverSendTimestampMicros) fun valid =>
  .ok { token, clientSendTimestampMicros, serverReceiveTimestampMicros, serverSendTimestampMicros
        valid }

def wire (pong : Pong) : Bytes :=
  toBeBytes pong.token ++ toBeBytes pong.clientSendTimestampMicros ++
    toBeBytes pong.serverReceiveTimestampMicros ++ toBeBytes pong.serverSendTimestampMicros

def encode (pong : Pong) : Except ProtocolError Bytes := do
  let _ ← new pong.token pong.clientSendTimestampMicros pong.serverReceiveTimestampMicros
    pong.serverSendTimestampMicros
  .ok pong.wire

def decode (payload : Bytes) : Except ProtocolError Pong :=
  if payload.length ≠ pongLen then
    .error (.invalidPayload "pong payload must be exactly 32 bytes")
  else new (readU64 payload 0) (readU64 payload 8) (readU64 payload 16) (readU64 payload 24)

theorem new_eq_ok {token clientSendTimestampMicros serverReceiveTimestampMicros
    serverSendTimestampMicros : UInt64} {pong : Pong} :
    new token clientSendTimestampMicros serverReceiveTimestampMicros serverSendTimestampMicros =
        .ok pong ↔
      pong.token = token ∧ pong.clientSendTimestampMicros = clientSendTimestampMicros ∧
      pong.serverReceiveTimestampMicros = serverReceiveTimestampMicros ∧
      pong.serverSendTimestampMicros = serverSendTimestampMicros := by
  constructor
  · intro h
    obtain ⟨_, h⟩ := checked_eq_ok.mp h
    cases h
    exact ⟨rfl, rfl, rfl, rfl⟩
  · rintro ⟨rfl, rfl, rfl, rfl⟩
    exact checked_ok _ pong.valid

theorem encode_eq (pong : Pong) : pong.encode = .ok pong.wire := by
  rw [encode, new_eq_ok.mpr ⟨rfl, rfl, rfl, rfl⟩, bind_ok]

theorem wire_eq_iff {payload : Bytes} {pong : Pong} :
    pong.wire = payload ↔ payload.length = pongLen ∧ readU64 payload 0 = pong.token ∧
      readU64 payload 8 = pong.clientSendTimestampMicros ∧
      readU64 payload 16 = pong.serverReceiveTimestampMicros ∧
      readU64 payload 24 = pong.serverSendTimestampMicros := by
  rw [wire]
  simp only [List.append_assoc]
  rw [word_eq]
  simp only [word_eq_drop, last_word_eq_drop, Nat.reduceAdd, width_uint64, readU64, pongLen]
  constructor
  · rintro ⟨-, ht, -, hc, -, hr, hlen, hs⟩
    exact ⟨hlen.symm, ht, hc, hr, hs⟩
  · rintro ⟨hlen, ht, hc, hr, hs⟩
    simp [*]

theorem decode_eq_ok {payload : Bytes} {pong : Pong} :
    decode payload = .ok pong ↔ pong.wire = payload := by
  simp only [wire_eq_iff, decode, ite_error_eq_ok, ne_eq, not_not, new_eq_ok]
  constructor
  · rintro ⟨hlen, ht, hc, hr, hs⟩
    exact ⟨hlen, ht.symm, hc.symm, hr.symm, hs.symm⟩
  · rintro ⟨hlen, ht, hc, hr, hs⟩
    exact ⟨hlen, ht.symm, hc.symm, hr.symm, hs.symm⟩

instance : WirePayload Pong where
  kind := .pong
  rebuild v := new v.token v.clientSendTimestampMicros v.serverReceiveTimestampMicros
    v.serverSendTimestampMicros
  encode := encode
  decode := decode

theorem canonical : CanonicalPayload Pong := by
  refine canonicalPayload_of (fun v => ?_) encode_eq (fun v => ?_) fun _ _ => decode_eq_ok
  · exact new_eq_ok.mpr ⟨rfl, rfl, rfl, rfl⟩
  · rw [(wire_eq_iff.mp (rfl : v.wire = v.wire)).1]
    decide

end Pong

/-- Stable cross-platform error categories carried by an error message. -/
inductive ErrorCode where
  | protocolViolation
  | unsupported
  | configurationRejected
  | unauthorized
  | busy
  | encoderFailure
  | decoderFailure
  | inputRejected
  | resourceExhausted
  | internal
  deriving DecidableEq, Repr

namespace ErrorCode

def entries : List ErrorCode :=
  [.protocolViolation, .unsupported, .configurationRejected, .unauthorized, .busy, .encoderFailure,
    .decoderFailure, .inputRejected, .resourceExhausted, .internal]

def code : ErrorCode → UInt16
  | .protocolViolation => 1
  | .unsupported => 2
  | .configurationRejected => 3
  | .unauthorized => 4
  | .busy => 5
  | .encoderFailure => 6
  | .decoderFailure => 7
  | .inputRejected => 8
  | .resourceExhausted => 9
  | .internal => 10

def tryFrom (value : UInt16) : Except ProtocolError ErrorCode :=
  decodeTagOr entries code value (.invalidPayload "unknown error code")

theorem tryFrom_eq_ok {value : UInt16} {kind : ErrorCode} :
    tryFrom value = .ok kind ↔ value = kind.code :=
  decodeTagOr_eq_ok entries code (by intro k; cases k <;> decide)
    (by intro a b; cases a <;> cases b <;> decide)

end ErrorCode

def validateDiagnostic (diagnostic : String) : Except ProtocolError Unit :=
  if (utf8Bytes diagnostic).length > maxErrorDiagnosticBytes then
    .error (.invalidPayload "error diagnostic is too long")
  else if containsNull diagnostic then
    .error (.invalidPayload "error diagnostic contains a null byte")
  else .ok ()

theorem validateDiagnostic_length {diagnostic : String} (h : validateDiagnostic diagnostic = .ok ()) :
    (utf8Bytes diagnostic).length ≤ maxErrorDiagnosticBytes := by
  simp only [validateDiagnostic, ite_error_eq_ok] at h
  exact Nat.le_of_not_lt h.1

/-- Wire form of a Boolean field. -/
def boolByte : Bool → UInt8
  | false => 0
  | true => 1

/-- A Boolean field, which must be zero or one. -/
def decodeBool (value : UInt8) (error : ProtocolError) : Except ProtocolError Bool :=
  decodeTagOr [false, true] boolByte value error

theorem decodeBool_eq_ok {value : UInt8} {error : ProtocolError} {b : Bool} :
    decodeBool value error = .ok b ↔ value = boolByte b :=
  decodeTagOr_eq_ok [false, true] boolByte (by decide) (by intro a b; cases a <;> cases b <;> decide)

/-- Stable error code, retry hint, and bounded human-readable diagnostic. -/
@[ext] structure ErrorMessage where
  code : ErrorCode
  retryable : Bool
  diagnostic : String
  valid : validateDiagnostic diagnostic = .ok ()
  deriving DecidableEq

namespace ErrorMessage

def new (code : ErrorCode) (retryable : Bool) (diagnostic : String) :
    Except ProtocolError ErrorMessage :=
  checked (validateDiagnostic diagnostic) fun valid => .ok { code, retryable, diagnostic, valid }

def wire (message : ErrorMessage) : Bytes :=
  toBeBytes message.code.code ++ toBeBytes (boolByte message.retryable) ++
    toBeBytes (UInt16.ofNat (utf8Bytes message.diagnostic).length) ++ utf8Bytes message.diagnostic

def encode (message : ErrorMessage) : Except ProtocolError Bytes := do
  validateDiagnostic message.diagnostic
  if (utf8Bytes message.diagnostic).length ≥ UInt16.size then
    .error (.invalidPayload "error diagnostic is too long")
  else .ok message.wire

def decode (payload : Bytes) : Except ProtocolError ErrorMessage :=
  if payload.length < errorPrefixLen then .error (.invalidPayload "error payload is truncated")
  else if payload.length > errorPrefixLen + maxErrorDiagnosticBytes then
    .error (.invalidPayload "error diagnostic is too long")
  else do
  let code ← ErrorCode.tryFrom (readU16 payload 0)
  let retryable ← decodeBool (readU8 payload 2)
    (.invalidPayload "boolean error field must be zero or one")
  let diagnosticLen := (readU16 payload 3).toNat
  let expectedLen := errorPrefixLen + diagnosticLen
  if payload.length ≠ expectedLen then
    .error (.invalidPayload "error diagnostic length does not match payload")
  else do
  let diagnostic ← stringFromUtf8 (payload.drop errorPrefixLen)
  new code retryable diagnostic

theorem new_eq_ok {code : ErrorCode} {retryable : Bool} {diagnostic : String}
    {message : ErrorMessage} :
    new code retryable diagnostic = .ok message ↔
      message.code = code ∧ message.retryable = retryable ∧ message.diagnostic = diagnostic := by
  constructor
  · intro h
    obtain ⟨_, h⟩ := checked_eq_ok.mp h
    cases h
    exact ⟨rfl, rfl, rfl⟩
  · rintro ⟨rfl, rfl, rfl⟩
    exact checked_ok _ message.valid

theorem diagnostic_length (message : ErrorMessage) :
    (UInt16.ofNat (utf8Bytes message.diagnostic).length).toNat =
      (utf8Bytes message.diagnostic).length := by
  have hlen := validateDiagnostic_length message.valid
  rw [maxErrorDiagnosticBytes] at hlen
  exact UInt16.toNat_ofNat_of_lt' (by rw [UInt16.size]; omega)

theorem encode_eq (message : ErrorMessage) : message.encode = .ok message.wire := by
  have hlen := message.diagnostic_length ▸ UInt16.toNat_lt_size _
  rw [encode, message.valid, bind_ok, if_neg (by omega)]

theorem wire_eq_iff {payload : Bytes} {message : ErrorMessage} :
    message.wire = payload ↔ errorPrefixLen ≤ payload.length ∧
      readU16 payload 0 = message.code.code ∧ readU8 payload 2 = boolByte message.retryable ∧
      payload.length = errorPrefixLen + (readU16 payload 3).toNat ∧
      utf8Bytes message.diagnostic = payload.drop errorPrefixLen := by
  rw [wire]
  simp only [List.append_assoc]
  rw [word_eq]
  simp only [word_eq_drop, Nat.reduceAdd, width_uint16, width_uint8, readU8, readU16,
    errorPrefixLen]
  constructor
  · rintro ⟨-, hcode, -, hretry, hle, hlen, htext⟩
    refine ⟨hle, hcode, hretry, ?_, htext⟩
    rw [hlen, diagnostic_length, htext, List.length_drop]
    omega
  · rintro ⟨hle, hcode, hretry, hlen, htext⟩
    refine ⟨by omega, hcode, by omega, hretry, hle, ?_, htext⟩
    rw [← UInt16.toNat_inj, diagnostic_length, htext, List.length_drop]
    omega

theorem wire_length_le (message : ErrorMessage) :
    message.wire.length ≤ errorPrefixLen + maxErrorDiagnosticBytes := by
  have hlen := validateDiagnostic_length message.valid
  obtain ⟨hle, -, -, -, htext⟩ := wire_eq_iff.mp (rfl : message.wire = message.wire)
  rw [htext, List.length_drop] at hlen
  omega

theorem decode_eq_ok {payload : Bytes} {message : ErrorMessage} :
    decode payload = .ok message ↔ message.wire = payload := by
  rw [decode]
  simp only [bind_eq_ok, ite_error_eq_ok, ErrorCode.tryFrom_eq_ok, decodeBool_eq_ok,
    stringFromUtf8_eq_ok, new_eq_ok, ne_eq, not_not]
  constructor
  · rintro ⟨hle, -, code, hcode, retryable, hretry, hlen, diagnostic, htext, rfl, rfl, rfl⟩
    exact wire_eq_iff.mpr ⟨by omega, hcode, hretry, hlen, htext⟩
  · intro h
    have hmax := h ▸ message.wire_length_le
    obtain ⟨hle, hcode, hretry, hlen, htext⟩ := wire_eq_iff.mp h
    exact ⟨by omega, by omega, _, hcode, _, hretry, hlen, _, htext, rfl, rfl, rfl⟩

instance : WirePayload ErrorMessage where
  kind := .error
  rebuild v := new v.code v.retryable v.diagnostic
  encode := encode
  decode := decode

theorem canonical : CanonicalPayload ErrorMessage := by
  refine canonicalPayload_of (fun v => ?_) encode_eq (fun v => ?_) fun _ _ => decode_eq_ok
  · exact new_eq_ok.mpr ⟨rfl, rfl, rfl⟩
  · exact Nat.le_trans v.wire_length_le (by decide)

end ErrorMessage

end LadoFlow.Protocol
