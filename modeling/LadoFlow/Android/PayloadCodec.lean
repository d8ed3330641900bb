import LadoFlow.Android.DisplayPayloads
import LadoFlow.Android.HandshakePayloads
import LadoFlow.Android.InputPayload
import LadoFlow.Android.TelemetryPayload

/-!
# Wire equivalence of the two implementations

`PayloadCodec` dispatches on the message family. The Rust and Kotlin codecs agree on every frame
and on every payload of every family.
-/

namespace LadoFlow.Android

open Framework
open Protocol (MessageType Frame Payload WirePayload)

/-- The Kotlin payload class of each message family. -/
def KotlinPayload : MessageType → Type
  | .hello => HelloPayload
  | .capabilities => CapabilitiesPayload
  | .displayConfig => DisplayConfigPayload
  | .videoFrame => VideoFramePayload
  | .input => InputPayload
  | .telemetry => TelemetryPayload
  | .ping => PingPayload
  | .pong => PongPayload
  | .error => RemoteErrorPayload

namespace PayloadCodec

def encode : (messageType : MessageType) → KotlinPayload messageType →
    Except LdflProtocolException SignedBytes
  | .hello => HelloPayload.encode
  | .capabilities => CapabilitiesPayload.encode
  | .displayConfig => DisplayConfigPayload.encode
  | .videoFrame => VideoFramePayload.encode
  | .input => InputPayload.encode
  | .telemetry => TelemetryPayload.encode
  | .ping => PingPayload.encode
  | .pong => PongPayload.encode
  | .error => RemoteErrorPayload.encode

def decode : (messageType : MessageType) → SignedBytes →
    Except LdflProtocolException (KotlinPayload messageType)
  | .hello => HelloPayload.decode
  | .capabilities => CapabilitiesPayload.decode
  | .displayConfig => DisplayConfigPayload.decode
  | .videoFrame => VideoFramePayload.decode
  | .input => InputPayload.decode
  | .telemetry => TelemetryPayload.decode
  | .ping => PingPayload.decode
  | .pong => PongPayload.decode
  | .error => RemoteErrorPayload.decode

/-- The Kotlin payload with the field values of a Rust payload. -/
def ofPayload : (messageType : MessageType) → Payload messageType → KotlinPayload messageType
  | .hello => HelloPayload.ofHello
  | .capabilities => CapabilitiesPayload.ofCapabilities
  | .displayConfig => DisplayConfigPayload.ofDisplayConfig
  | .videoFrame => VideoFramePayload.ofVideoFrame
  | .input => InputPayload.ofInputEvent
  | .telemetry => TelemetryPayload.ofTelemetry
  | .ping => PingPayload.ofPing
  | .pong => PongPayload.ofPong
  | .error => RemoteErrorPayload.ofErrorMessage

instance (messageType : MessageType) :
    LdflPayload (Payload messageType) (KotlinPayload messageType) where
  ofRust := ofPayload messageType
  encode := encode messageType
  decode := decode messageType

theorem wireEquivalent : (messageType : MessageType) → WireEquivalent (Payload messageType)
  | .hello => HelloPayload.wireEquivalent
  | .capabilities => CapabilitiesPayload.wireEquivalent
  | .displayConfig => DisplayConfigPayload.wireEquivalent
  | .videoFrame => VideoFramePayload.wireEquivalent
  | .input => InputPayload.wireEquivalent
  | .telemetry => TelemetryPayload.wireEquivalent
  | .ping => PingPayload.wireEquivalent
  | .pong => PongPayload.wireEquivalent
  | .error => RemoteErrorPayload.wireEquivalent

end PayloadCodec

/-- The two implementations of the protocol are wire-equivalent: the maps between their values
are bijections that copy the fields, both encoders write the same bytes for them, and both
decoders accept the same strings with the same result. -/
theorem rust_kotlin_wire_equivalent :
    (Function.Bijective FrameCodec.ofFrame ∧
      (∀ bytes : Bytes, (FrameCodec.decodePrefix (signed bytes) 0).toOption =
        (Frame.decodePrefix bytes).toOption.map (DecodeOutcome.map FrameCodec.ofFrame)) ∧
      ∀ frame : Frame, FrameCodec.encode (FrameCodec.ofFrame frame) = .ok (signed frame.encode)) ∧
    ∀ kind : MessageType,
      Function.Bijective (PayloadCodec.ofPayload kind) ∧
      (∀ bytes : Bytes, (PayloadCodec.decode kind (signed bytes)).toOption =
        (WirePayload.decode bytes : Except _ (Payload kind)).toOption.map
          (PayloadCodec.ofPayload kind)) ∧
      ∀ v : Payload kind, (PayloadCodec.encode kind (PayloadCodec.ofPayload kind v)).toOption =
        (WirePayload.encode v).toOption.map signed := by
  refine ⟨⟨FrameCodec.ofFrame_bijective, ?_, FrameCodec.encode_ofFrame⟩, ?_⟩
  · intro bytes
    exact FrameCodec.decodePrefix_signed (Nat.zero_le _)
  · intro kind
    have h := PayloadCodec.wireEquivalent kind
    exact ⟨h.bijective, h.decode_eq, h.encode_eq⟩

end LadoFlow.Android
