import LadoFlow.Android.FrameCodec
import LadoFlow.Protocol.Control

/-!
# Kotlin liveness and error payloads
-/

namespace LadoFlow.Android

open Framework
open Protocol (Ping Pong ErrorCode ErrorMessage)

def pingBytes : Nat := 16
def pongBytes : Nat := 32
def errorPrefixBytes : Nat := 5
def maxErrorDiagnosticBytes : Nat := 1024

structure PingPayload where
  token : UInt64
  clientSendTimestampMicros : UInt64
  deriving DecidableEq

namespace PingPayload

def encode (ping : PingPayload) : Except LdflProtocolException SignedBytes :=
  .ok (writeU64 ping.token ++ writeU64 ping.clientSendTimestampMicros)

def decode (payload : SignedBytes) : Except LdflProtocolException PingPayload := do
  requireProtocol (payload.length = pingBytes) s!"Ping payload must be exactly {pingBytes} bytes"
  .ok { token := readU64 payload 0, clientSendTimestampMicros := readU64 payload 8 }

def ofPing (ping : Ping) : PingPayload where
  token := ping.token
  clientSendTimestampMicros := ping.clientSendTimestampMicros

theorem decode_signed {payload : Bytes} {ping : Ping} :
    decode (signed payload) = .ok (ofPing ping) ↔ ping.wire = payload := by
  rw [Ping.wire_eq_iff, decode, requireProtocol_bind, signed_length]
  refine and_congr_right fun hlen => ?_
  have hroom : payload.length = 16 := hlen
  rw [readU64_signed _ _ (by omega), readU64_signed _ _ (by omega)]
  simp only [ofPing, Except.ok.injEq, PingPayload.mk.injEq]

instance : LdflPayload Ping PingPayload where
  ofRust := ofPing
  encode := encode
  decode := decode

theorem wireEquivalent : WireEquivalent Ping := by
  refine wireEquivalent_of ⟨?_, ?_⟩ (fun _ => rfl) (fun _ _ => Ping.decode_eq_ok) (fun v => ?_)
    fun _ _ => decode_signed
  · rintro ⟨a, b⟩ ⟨c, d⟩ h
    cases h
    rfl
  · rintro ⟨a, b⟩
    exact ⟨⟨a, b⟩, rfl⟩
  · change encode (ofPing v) = _
    rw [encode, writeU64_eq, writeU64_eq, Ping.wire, signed_append]
    rfl

end PingPayload

def PongPayload.init (serverReceiveTimestampMicros serverSendTimestampMicros : UInt64) :
    Except LdflProtocolException Unit :=
  requireProtocol (serverSendTimestampMicros ≥ serverReceiveTimestampMicros)
    "Pong server send timestamp precedes receive timestamp"

structure PongPayload where
  token : UInt64
  clientSendTimestampMicros : UInt64
  serverReceiveTimestampMicros : UInt64
  serverSendTimestampMicros : UInt64
  valid : PongPayload.init serverReceiveTimestampMicros serverSendTimestampMicros = .ok ()
  deriving DecidableEq

namespace PongPayload

def new (token clientSendTimestampMicros serverReceiveTimestampMicros
    serverSendTimestampMicros : UInt64) : Except LdflProtocolException PongPayload :=
  checked (init serverReceiveTimestampMicros serverSendTimestampMicros) fun valid =>
  .ok { token, clientSendTimestampMicros, serverReceiveTimestampMicros, serverSendTimestampMicros
        valid }

def encode (pong : PongPayload) : Except LdflProtocolException SignedBytes :=
  .ok (writeU64 pong.token ++ writeU64 pong.clientSendTimestampMicros ++
    writeU64 pong.serverReceiveTimestampMicros ++ writeU64 pong.serverSendTimestampMicros)

def decode (payload : SignedBytes) : Except LdflProtocolException PongPayload := do
  requireProtocol (payload.length = pongBytes) s!"Pong payload must be exactly {pongBytes} bytes"
  new (readU64 payload 0) (readU64 payload 8) (readU64 payload 16) (readU64 payload 24)

theorem init_eq_ok {receive send : UInt64} {u : Unit} :
    init receive send = .ok u ↔ Pong.validate receive send = .ok () := by
  simp [init, Pong.validate]

def ofPong (pong : Pong) : PongPayload where
  token := pong.token
  clientSendTimestampMicros := pong.clientSendTimestampMicros
  serverReceiveTimestampMicros := pong.serverReceiveTimestampMicros
  serverSendTimestampMicros := pong.serverSendTimestampMicros
  valid := init_eq_ok.mpr pong.valid

theorem new_eq_ok {token clientSendTimestampMicros serverReceiveTimestampMicros
    serverSendTimestampMicros : UInt64} {payload : PongPayload} :
    new token clientSendTimestampMicros serverReceiveTimestampMicros serverSendTimestampMicros =
        .ok payload ↔
      payload.token = token ∧ payload.clientSendTimestampMicros = clientSendTimestampMicros ∧
      payload.serverReceiveTimestampMicros = serverReceiveTimestampMicros ∧
      payload.serverSendTimestampMicros = serverSendTimestampMicros := by
  constructor
  · intro h
    obtain ⟨_, h⟩ := checked_eq_ok.mp h
    cases h
    exact ⟨rfl, rfl, rfl, rfl⟩
  · rintro ⟨rfl, rfl, rfl, rfl⟩
    exact checked_ok _ payload.valid

theorem decode_signed {payload : Bytes} {pong : Pong} :
    decode (signed payload) = .ok (ofPong pong) ↔ pong.wire = payload := by
  rw [Pong.wire_eq_iff, decode, requireProtocol_bind, signed_length]
  refine and_congr_right fun hlen => ?_
  have hroom : payload.length = 32 := hlen
  rw [readU64_signed _ _ (by omega), readU64_signed _ _ (by omega), readU64_signed _ _ (by omega),
    readU64_signed _ _ (by omega), new_eq_ok]
  exact and_congr eq_comm (and_congr eq_comm (and_congr eq_comm eq_comm))

instance : LdflPayload Pong PongPayload where
  ofRust := ofPong
  encode := encode
  decode := decode

theorem wireEquivalent : WireEquivalent Pong := by
  refine wireEquivalent_of ⟨?_, ?_⟩ Pong.encode_eq (fun _ _ => Pong.decode_eq_ok) (fun v => ?_)
    fun _ _ => decode_signed
  · intro a b h
    obtain ⟨ht, hc, hr, hs⟩ := PongPayload.mk.inj h
    exact Pong.ext ht hc hr hs
  · rintro ⟨token, client, receive, send, hvalid⟩
    exact ⟨⟨token, client, receive, send, init_eq_ok.mp hvalid⟩, rfl⟩
  · change encode (ofPong v) = _
    simp only [encode, ofPong, writeU64_eq, Pong.wire, signed_append]

end PongPayload

namespace RemoteErrorCode

def wireValue : ErrorCode → Int32
  | .protocolViolation => 1
  | .unsupported => 2
  | .configurationRejected => 3
  | .unauthorized => 4
  | .busy => 5
  | .encoderFailure => 6
  | .decoderFailure => 7
  | .inputRejected => 8
  | .resourceExhausted => 9
  | .internal => 10

def fromWire (value : Int32) : Except LdflProtocolException ErrorCode :=
  decodeTagOr ErrorCode.entries wireValue value
    ⟨.invalidPayload, s!"Unknown remote error code {value}"⟩

def name : ErrorCode → String
  | .protocolViolation => "ProtocolViolation"
  | .unsupported => "Unsupported"
  | .configurationRejected => "ConfigurationRejected"
  | .unauthorized => "Unauthorized"
  | .busy => "Busy"
  | .encoderFailure => "EncoderFailure"
  | .decoderFailure => "DecoderFailure"
  | .inputRejected => "InputRejected"
  | .resourceExhausted => "ResourceExhausted"
  | .internal => "Internal"

theorem wireValue_eq (code : ErrorCode) : wireValue code = widen16 code.code := by
  cases code <;> rfl

theorem fromWire_eq_ok {value : UInt16} {code : ErrorCode} :
    fromWire (widen16 value) = .ok code ↔ value = code.code := by
  rw [← widen16_inj, ← wireValue_eq]
  exact decodeTagOr_eq_ok _ wireValue (by intro k; cases k <;> decide)
    (by intro a b; cases a <;> cases b <;> decide)

end RemoteErrorCode

/-- Wire value of a Boolean field. -/
def booleanValue (value : Bool) : Int32 := if value then 1 else 0

/-- A Boolean field, which must be zero or one. -/
def decodeBoolean (value : Int32) (message : String) : Except LdflProtocolException Bool :=
  decodeTagOr [false, true] booleanValue value ⟨.invalidPayload, message⟩

theorem booleanValue_eq (value : Bool) : booleanValue value = widen8 (Protocol.boolByte value) := by
  cases value <;> rfl

theorem decodeBoolean_eq_ok {value : UInt8} {message : String} {b : Bool} :
    decodeBoolean (widen8 value) message = .ok b ↔ value = Protocol.boolByte b := by
  rw [← widen8_inj, ← booleanValue_eq]
  exact decodeTagOr_eq_ok _ booleanValue (by decide) (by intro a b; cases a <;> cases b <;> decide)

def validateDiagnostic (diagnostic : String) : Except LdflProtocolException Unit := do
  let bytes := signed (utf8Bytes diagnostic)
  requireProtocol (bytes.length ≤ maxErrorDiagnosticBytes)
    s!"Error diagnostic exceeds {maxErrorDiagnosticBytes} UTF-8 bytes"
  requireProtocol (!Protocol.containsNull diagnostic) "Error diagnostic contains a null byte"

theorem validateDiagnostic_eq_ok {diagnostic : String} {u : Unit} :
    validateDiagnostic diagnostic = .ok u ↔ Protocol.validateDiagnostic diagnostic = .ok () := by
  simp only [validateDiagnostic, requireProtocol_bind, requireProtocol_eq_ok,
    Protocol.validateDiagnostic, ite_error_eq_ok, signed_length]
  simp [maxErrorDiagnosticBytes, Protocol.maxErrorDiagnosticBytes]

structure RemoteErrorPayload where
  code : ErrorCode
  retryable : Bool
  diagnostic : String
  valid : validateDiagnostic diagnostic = .ok ()

namespace RemoteErrorPayload

def new (code : ErrorCode) (retryable : Bool) (diagnostic : String) :
    Except LdflProtocolException RemoteErrorPayload :=
  checked (validateDiagnostic diagnostic) fun valid => .ok { code, retryable, diagnostic, valid }

def encode (message : RemoteErrorPayload) : Except LdflProtocolException SignedBytes := do
  let diagnosticBytes := signed (utf8Bytes message.diagnostic)
  .ok ((← writeU16 (RemoteErrorCode.wireValue message.code)) ++
    (← writeU8 (booleanValue message.retryable)) ++
    (← writeU16 (Int32.ofNat diagnosticBytes.length)) ++ diagnosticBytes)

def decode (payload : SignedBytes) : Except LdflProtocolException RemoteErrorPayload := do
  requireProtocol (payload.length ≥ errorPrefixBytes) "Error payload is truncated"
  let diagnosticLength := toLength (readU16 payload 3)
  requireProtocol (diagnosticLength ≤ maxErrorDiagnosticBytes)
    s!"Error diagnostic exceeds {maxErrorDiagnosticBytes} UTF-8 bytes"
  requireProtocol (payload.length = errorPrefixBytes + diagnosticLength)
    "Error diagnostic length does not match payload"
  new (← RemoteErrorCode.fromWire (readU16 payload 0))
    (← decodeBoolean (readU8 payload 2) "Error retryable field must be zero or one")
    (← decodeStrictUtf8 (payload.drop errorPrefixBytes))

def ofErrorMessage (message : ErrorMessage) : RemoteErrorPayload where
  code := message.code
  retryable := message.retryable
  diagnostic := message.diagnostic
  valid := validateDiagnostic_eq_ok.mpr message.valid

theorem new_eq_ok {code : ErrorCode} {retryable : Bool} {diagnostic : String}
    {payload : RemoteErrorPayload} :
    new code retryable diagnostic = .ok payload ↔
      payload.code = code ∧ payload.retryable = retryable ∧ payload.diagnostic = diagnostic := by
  constructor
  · intro h
    obtain ⟨_, h⟩ := checked_eq_ok.mp h
    cases h
    exact ⟨rfl, rfl, rfl⟩
  · rintro ⟨rfl, rfl, rfl⟩
    exact checked_ok _ payload.valid

theorem decode_signed {payload : Bytes} {message : ErrorMessage} :
    decode (signed payload) = .ok (ofErrorMessage message) ↔ message.wire = payload := by
  rw [ErrorMessage.wire_eq_iff, decode, requireProtocol_bind, signed_length]
  refine and_congr_right fun hle => ?_
  have hroom : 5 ≤ payload.length := hle
  rw [readU16_signed _ _ (by omega), readU16_signed _ _ (by omega), readU8_signed _ _ (by omega)]
  rw [requireProtocol_bind, requireProtocol_bind]
  simp only [bind_eq_ok, RemoteErrorCode.fromWire_eq_ok, decodeBoolean_eq_ok, ← signed_drop,
    decodeStrictUtf8_signed, new_eq_ok, ofErrorMessage, toLength_widen16]
  constructor
  · rintro ⟨-, hlen, code, hcode, retryable, hretry, diagnostic, htext, rfl, rfl, rfl⟩
    exact ⟨hcode, hretry, hlen, htext⟩
  · rintro ⟨hcode, hretry, hlen, htext⟩
    refine ⟨?_, hlen, _, hcode, _, hretry, _, htext, rfl, rfl, rfl⟩
    -- The length field is bounded because the diagnostic it announces is.
    have hmax := Protocol.validateDiagnostic_length message.valid
    rw [htext, List.length_drop, hlen, Nat.add_sub_cancel_left] at hmax
    exact hmax

theorem encode_ofErrorMessage (message : ErrorMessage) :
    encode (ofErrorMessage message) = .ok (signed message.wire) := by
  have hlen := message.diagnostic_length ▸ UInt16.toNat_lt _
  simp only [encode, ofErrorMessage, RemoteErrorCode.wireValue_eq, booleanValue_eq,
    writeU16_widen16, writeU8_widen8, signed_length, ← widen16_ofNat _ hlen, bind_ok,
    ErrorMessage.wire, signed_append]

instance : LdflPayload ErrorMessage RemoteErrorPayload where
  ofRust := ofErrorMessage
  encode := encode
  decode := decode

theorem wireEquivalent : WireEquivalent ErrorMessage := by
  refine wireEquivalent_of ⟨?_, ?_⟩ ErrorMessage.encode_eq (fun _ _ => ErrorMessage.decode_eq_ok)
    encode_ofErrorMessage fun _ _ => decode_signed
  · intro a b h
    obtain ⟨hc, hr, hd⟩ := RemoteErrorPayload.mk.inj h
    exact ErrorMessage.ext hc hr hd
  · rintro ⟨code, retryable, diagnostic, hvalid⟩
    exact ⟨⟨code, retryable, diagnostic, validateDiagnostic_eq_ok.mp hvalid⟩, rfl⟩

end RemoteErrorPayload

end LadoFlow.Android
