import LadoFlow.Protocol.Display
import LadoFlow.Protocol.Input

/-!
# Telemetry, and the nine payload families

The last payload format, and the statement that every family's codec is canonical.
-/

namespace LadoFlow.Protocol

open Framework

def telemetryLen : Nat := 51

/-- Largest individual pipeline-stage duration accepted by version one. -/
def maxStageDurationMicros : UInt32 := 60000000

/-- Largest reported queue depth accepted by version one. -/
def maxTelemetryQueueDepth : UInt16 := 4096

/-- One million parts per million, representing complete loss. -/
def maxLossPartsPerMillion : UInt32 := 1000000

/-- Coarse device thermal pressure suitable for cross-platform policy. -/
inductive ThermalState where
  | unknown
  | nominal
  | fair
  | serious
  | critical
  deriving DecidableEq, Repr

namespace ThermalState

def entries : List ThermalState := [.unknown, .nominal, .fair, .serious, .critical]

def code : ThermalState → UInt8
  | .unknown => 0
  | .nominal => 1
  | .fair => 2
  | .serious => 3
  | .critical => 4

def tryFrom (value : UInt8) : Except ProtocolError ThermalState :=
  decodeTagOr entries code value (.invalidPayload "unknown thermal state")

theorem tryFrom_eq_ok {value : UInt8} {state : ThermalState} :
    tryFrom value = .ok state ↔ value = state.code :=
  decodeTagOr_eq_ok entries code (by intro k; cases k <;> decide)
    (by intro a b; cases a <;> cases b <;> decide)

end ThermalState

/-- Each stage duration is within the version-one limit. -/
def StageTimings.validate (capture encode transport decode presentation : UInt32) :
    Except ProtocolError Unit :=
  if [capture, encode, transport, decode, presentation].any (· > maxStageDurationMicros) then
    .error (.invalidPayload "telemetry stage duration exceeds version-one limit")
  else .ok ()

/-- Per-frame pipeline durations in microseconds. -/
@[ext] structure StageTimings where
  capture : UInt32
  encode : UInt32
  transport : UInt32
  decode : UInt32
  presentation : UInt32
  valid : StageTimings.validate capture encode transport decode presentation = .ok ()
  deriving DecidableEq

namespace StageTimings

def new (capture encode transport decode presentation : UInt32) :
    Except ProtocolError StageTimings :=
  checked (validate capture encode transport decode presentation) fun valid =>
  .ok { capture, encode, transport, decode, presentation, valid }

/-- The bytes that `encode_into` appends. -/
def wire (timings : StageTimings) : Bytes :=
  toBeBytes timings.capture ++ toBeBytes timings.encode ++ toBeBytes timings.transport ++
    toBeBytes timings.decode ++ toBeBytes timings.presentation

theorem new_eq_ok {capture encode transport decode presentation : UInt32}
    {timings : StageTimings} :
    new capture encode transport decode presentation = .ok timings ↔
      timings.capture = capture ∧ timings.encode = encode ∧ timings.transport = transport ∧
      timings.decode = decode ∧ timings.presentation = presentation := by
  constructor
  · intro h
    obtain ⟨_, h⟩ := checked_eq_ok.mp h
    cases h
    exact ⟨rfl, rfl, rfl, rfl, rfl⟩
  · rintro ⟨rfl, rfl, rfl, rfl, rfl⟩
    exact checked_ok _ timings.valid

end StageTimings

/-- The bounds of the telemetry constructor beyond its stage timings. -/
def Telemetry.validate (queueDepth : UInt16) (lossPartsPerMillion : UInt32) :
    Except ProtocolError Unit :=
  if queueDepth > maxTelemetryQueueDepth then
    .error (.invalidPayload "telemetry queue depth exceeds version-one limit")
  else if lossPartsPerMillion > maxLossPartsPerMillion then
    .error (.invalidPayload "telemetry loss ratio exceeds one million parts per million")
  else .ok ()

/-- Bounded latency, pacing, loss, and device-health sample. -/
@[ext] structure Telemetry where
  sampleTimestampMicros : UInt64
  frameId : UInt64
  timings : StageTimings
  queueDepth : UInt16
  lossPartsPerMillion : UInt32
  droppedFrames : UInt32
  lateFrames : UInt32
  thermalState : ThermalState
  valid : Telemetry.validate queueDepth lossPartsPerMillion = .ok ()
  deriving DecidableEq

namespace Telemetry

def new (sampleTimestampMicros frameId : UInt64) (timings : StageTimings) (queueDepth : UInt16)
    (lossPartsPerMillion droppedFrames lateFrames : UInt32) (thermalState : ThermalState) :
    Except ProtocolError Telemetry := do
  StageTimings.validate timings.capture timings.encode timings.transport timings.decode
    timings.presentation
  checked (validate queueDepth lossPartsPerMillion) fun valid =>
    .ok { sampleTimestampMicros, frameId, timings, queueDepth, lossPartsPerMillion, droppedFrames
          lateFrames, thermalState, valid }

def wire (sample : Telemetry) : Bytes :=
  toBeBytes sample.sampleTimestampMicros ++ toBeBytes sample.frameId ++ sample.timings.wire ++
    toBeBytes sample.queueDepth ++ toBeBytes sample.lossPartsPerMillion ++
    toBeBytes sample.droppedFrames ++ toBeBytes sample.lateFrames ++
    toBeBytes sample.thermalState.code

def encode (sample : Telemetry) : Except ProtocolError Bytes := do
  let _ ← new sample.sampleTimestampMicros sample.frameId sample.timings sample.queueDepth
    sample.lossPartsPerMillion sample.droppedFrames sample.lateFrames sample.thermalState
  .ok sample.wire

def decode (payload : Bytes) : Except ProtocolError Telemetry :=
  if payload.length ≠ telemetryLen then
    .error (.invalidPayload "telemetry payload must be exactly 51 bytes")
  else do
  let timings ← StageTimings.new (readU32 payload 16) (readU32 payload 20) (readU32 payload 24)
    (readU32 payload 28) (readU32 payload 32)
  let thermalState ← ThermalState.tryFrom (readU8 payload 50)
  new (readU64 payload 0) (readU64 payload 8) timings (readU16 payload 36) (readU32 payload 38)
    (readU32 payload 42) (readU32 payload 46) thermalState

theorem new_eq_ok {sampleTimestampMicros frameId : UInt64} {timings : StageTimings}
    {queueDepth : UInt16} {lossPartsPerMillion droppedFrames lateFrames : UInt32}
    {thermalState : ThermalState} {sample : Telemetry} :
    new sampleTimestampMicros frameId timings queueDepth lossPartsPerMillion droppedFrames
        lateFrames thermalState = .ok sample ↔
      sample.sampleTimestampMicros = sampleTimestampMicros ∧ sample.frameId = frameId ∧
      sample.timings = timings ∧ sample.queueDepth = queueDepth ∧
      sample.lossPartsPerMillion = lossPartsPerMillion ∧ sample.droppedFrames = droppedFrames ∧
      sample.lateFrames = lateFrames ∧ sample.thermalState = thermalState := by
  rw [new, timings.valid, bind_ok]
  constructor
  · intro h
    obtain ⟨_, h⟩ := checked_eq_ok.mp h
    cases h
    exact ⟨rfl, rfl, rfl, rfl, rfl, rfl, rfl, rfl⟩
  · rintro ⟨rfl, rfl, rfl, rfl, rfl, rfl, rfl, rfl⟩
    exact checked_ok _ sample.valid

theorem encode_eq (sample : Telemetry) : sample.encode = .ok sample.wire := by
  rw [encode, new_eq_ok.mpr ⟨rfl, rfl, rfl, rfl, rfl, rfl, rfl, rfl⟩, bind_ok]

theorem wire_eq_iff {payload : Bytes} {sample : Telemetry} :
    sample.wire = payload ↔ payload.length = telemetryLen ∧
      readU64 payload 0 = sample.sampleTimestampMicros ∧ readU64 payload 8 = sample.frameId ∧
      readU32 payload 16 = sample.timings.capture ∧ readU32 payload 20 = sample.timings.encode ∧
      readU32 payload 24 = sample.timings.transport ∧ readU32 payload 28 = sample.timings.decode ∧
      readU32 payload 32 = sample.timings.presentation ∧
      readU16 payload 36 = sample.queueDepth ∧
      readU32 payload 38 = sample.lossPartsPerMillion ∧
      readU32 payload 42 = sample.droppedFrames ∧ readU32 payload 46 = sample.lateFrames ∧
      readU8 payload 50 = sample.thermalState.code := by
  rw [wire, StageTimings.wire]
  simp only [List.append_assoc]
  rw [word_eq]
  simp only [word_eq_drop, last_word_eq_drop, Nat.reduceAdd, width_uint64, width_uint32,
    width_uint16, width_uint8, readU8, readU16, readU32, readU64, telemetryLen]
  constructor
  · rintro ⟨-, h0, -, h1, -, h2, -, h3, -, h4, -, h5, -, h6, -, h7, -, h8, -, h9, -, h10, hlen, h11⟩
    exact ⟨hlen.symm, h0, h1, h2, h3, h4, h5, h6, h7, h8, h9, h10, h11⟩
  · rintro ⟨hlen, h0, h1, h2, h3, h4, h5, h6, h7, h8, h9, h10, h11⟩
    simp [*]

theorem decode_eq_ok {payload : Bytes} {sample : Telemetry} :
    decode payload = .ok sample ↔ sample.wire = payload := by
  rw [wire_eq_iff, decode]
  simp only [bind_eq_ok, ite_error_eq_ok, StageTimings.new_eq_ok, ThermalState.tryFrom_eq_ok,
    new_eq_ok, ne_eq, not_not]
  constructor
  · rintro ⟨hlen, timings, ⟨h2, h3, h4, h5, h6⟩, state, h11, h0, h1, rfl, h7, h8, h9, h10, rfl⟩
    exact ⟨hlen, h0.symm, h1.symm, h2.symm, h3.symm, h4.symm, h5.symm, h6.symm, h7.symm, h8.symm,
      h9.symm, h10.symm, h11⟩
  · rintro ⟨hlen, h0, h1, h2, h3, h4, h5, h6, h7, h8, h9, h10, h11⟩
    exact ⟨hlen, _, ⟨h2.symm, h3.symm, h4.symm, h5.symm, h6.symm⟩, _, h11, h0.symm, h1.symm, rfl,
      h7.symm, h8.symm, h9.symm, h10.symm, rfl⟩

instance : WirePayload Telemetry where
  kind := .telemetry
  rebuild v := do
    let timings ← StageTimings.new v.timings.capture v.timings.encode v.timings.transport
      v.timings.decode v.timings.presentation
    new v.sampleTimestampMicros v.frameId timings v.queueDepth v.lossPartsPerMillion
      v.droppedFrames v.lateFrames v.thermalState
  encode := encode
  decode := decode

theorem canonical : CanonicalPayload Telemetry := by
  refine canonicalPayload_of (fun v => ?_) encode_eq (fun v => ?_) fun _ _ => decode_eq_ok
  · refine bind_eq_ok.mpr ⟨v.timings, StageTimings.new_eq_ok.mpr ⟨rfl, rfl, rfl, rfl, rfl⟩, ?_⟩
    exact new_eq_ok.mpr ⟨rfl, rfl, rfl, rfl, rfl, rfl, rfl, rfl⟩
  · rw [(wire_eq_iff.mp (rfl : v.wire = v.wire)).1]
    decide

end Telemetry

/-- The payload type of each message family. -/
def Payload : MessageType → Type
  | .hello => Hello
  | .capabilities => Capabilities
  | .displayConfig => DisplayConfig
  | .videoFrame => VideoFrame
  | .input => InputEvent
  | .telemetry => Telemetry
  | .ping => Ping
  | .pong => Pong
  | .error => ErrorMessage

instance Payload.wirePayload : (kind : MessageType) → WirePayload (Payload kind)
  | .hello => inferInstanceAs (WirePayload Hello)
  | .capabilities => inferInstanceAs (WirePayload Capabilities)
  | .displayConfig => inferInstanceAs (WirePayload DisplayConfig)
  | .videoFrame => inferInstanceAs (WirePayload VideoFrame)
  | .input => inferInstanceAs (WirePayload InputEvent)
  | .telemetry => inferInstanceAs (WirePayload Telemetry)
  | .ping => inferInstanceAs (WirePayload Ping)
  | .pong => inferInstanceAs (WirePayload Pong)
  | .error => inferInstanceAs (WirePayload ErrorMessage)

theorem Payload.kind_eq (kind : MessageType) : WirePayload.kind (Payload kind) = kind := by
  cases kind <;> rfl

/-- Payload values carry the checks of their constructors. -/
theorem Payload.constructible (kind : MessageType) (v : Payload kind) : Constructible v :=
  match kind, v with
  | .hello, _ => Hello.new_eq_ok.mpr ⟨rfl, rfl, rfl, rfl, rfl⟩
  | .capabilities, _ => Capabilities.new_eq_ok.mpr ⟨rfl, rfl, rfl, rfl, rfl, rfl, rfl⟩
  | .displayConfig, _ => DisplayConfig.new_eq_ok.mpr ⟨rfl, rfl, rfl, rfl, rfl, rfl⟩
  | .videoFrame, (v : VideoFrame) => bind_eq_ok.mpr
    ⟨v.metadata, VideoFrameMetadata.new_eq_ok.mpr ⟨rfl, rfl, rfl, rfl⟩,
      VideoFrame.new_eq_ok.mpr ⟨rfl, rfl⟩⟩
  | .input, _ => InputEvent.new_eq_ok.mpr ⟨rfl, rfl⟩
  | .telemetry, (v : Telemetry) => bind_eq_ok.mpr
    ⟨v.timings, StageTimings.new_eq_ok.mpr ⟨rfl, rfl, rfl, rfl, rfl⟩,
      Telemetry.new_eq_ok.mpr ⟨rfl, rfl, rfl, rfl, rfl, rfl, rfl, rfl⟩⟩
  | .ping, _ => rfl
  | .pong, _ => Pong.new_eq_ok.mpr ⟨rfl, rfl, rfl, rfl⟩
  | .error, _ => ErrorMessage.new_eq_ok.mpr ⟨rfl, rfl, rfl⟩

theorem Payload.canonical (kind : MessageType) : CanonicalPayload (Payload kind) :=
  match kind with
  | .hello => Hello.canonical
  | .capabilities => Capabilities.canonical
  | .displayConfig => DisplayConfig.canonical
  | .videoFrame => VideoFrame.canonical
  | .input => InputEvent.canonical
  | .telemetry => Telemetry.canonical
  | .ping => Ping.canonical
  | .pong => Pong.canonical
  | .error => ErrorMessage.canonical

/-- Every payload codec is canonical: constructible values encode within the limit and decode
back, and the decoder accepts exactly the encodings of constructible values. -/
theorem payload_codecs_canonical (kind : MessageType) :
    (∀ v : Payload kind, Constructible v → ∃ bytes, WirePayload.encode v = .ok bytes ∧
      bytes.length ≤ kind.payloadLimit ∧ WirePayload.decode bytes = .ok v) ∧
    (∀ (bytes : Bytes) (v : Payload kind), WirePayload.decode bytes = .ok v →
      Constructible v ∧ WirePayload.encode v = .ok bytes) ∧
    ∀ (bytes : Bytes) (v : Payload kind),
      WirePayload.decode bytes = .ok v ↔ Constructible v ∧ WirePayload.encode v = .ok bytes := by
  have h := Payload.canonical kind
  refine ⟨?_, h.decode_valid, h.accepts_iff⟩
  have hencode := h.encode_valid
  rw [Payload.kind_eq] at hencode
  exact hencode

theorem payload_codecs_canonical_ping :
    ∃ bytes, WirePayload.encode (Ping.new 7 9 : Payload .ping) = .ok bytes ∧
      bytes.length ≤ MessageType.ping.payloadLimit ∧
      WirePayload.decode bytes = .ok (Ping.new 7 9 : Payload .ping) :=
  (payload_codecs_canonical .ping).1 (Ping.new 7 9) rfl

end LadoFlow.Protocol
