import LadoFlow.Android.FrameCodec
import LadoFlow.Protocol.Telemetry

/-!
# Kotlin telemetry
-/

namespace LadoFlow.Android

open Framework
open Protocol (Telemetry)

def maxStageDurationMicros : UInt32 := 60000000
def maxTelemetryQueueDepth : Int32 := 4096
def maxLossPartsPerMillion : UInt32 := 1000000
def telemetryBytes : Nat := 51

namespace ThermalState

open Protocol (ThermalState)

def wireValue : ThermalState → Int32
  | .unknown => 0
  | .nominal => 1
  | .fair => 2
  | .serious => 3
  | .critical => 4

def fromWire (value : Int32) : Except LdflProtocolException ThermalState :=
  decodeTagOr Protocol.ThermalState.entries wireValue value
    ⟨.invalidPayload, s!"Unknown thermal state {value}"⟩

theorem wireValue_eq (state : ThermalState) : wireValue state = widen8 state.code := by
  cases state <;> rfl

theorem fromWire_eq_ok {value : UInt8} {state : ThermalState} :
    fromWire (widen8 value) = .ok state ↔ value = state.code := by
  rw [← widen8_inj, ← wireValue_eq]
  exact decodeTagOr_eq_ok _ wireValue (by intro k; cases k <;> decide)
    (by intro a b; cases a <;> cases b <;> decide)

end ThermalState

def StageTimings.init (captureMicros encodeMicros transportMicros decodeMicros
    presentationMicros : UInt32) : Except LdflProtocolException Unit :=
  requireProtocol
    ([captureMicros, encodeMicros, transportMicros, decodeMicros, presentationMicros].all
      (· ≤ maxStageDurationMicros))
    "Telemetry stage duration exceeds the version-one limit"

structure StageTimings where
  captureMicros : UInt32
  encodeMicros : UInt32
  transportMicros : UInt32
  decodeMicros : UInt32
  presentationMicros : UInt32
  valid : StageTimings.init captureMicros encodeMicros transportMicros decodeMicros
    presentationMicros = .ok ()
  deriving DecidableEq

namespace StageTimings

def new (captureMicros encodeMicros transportMicros decodeMicros presentationMicros : UInt32) :
    Except LdflProtocolException StageTimings :=
  checked (init captureMicros encodeMicros transportMicros decodeMicros presentationMicros)
    fun valid =>
  .ok { captureMicros, encodeMicros, transportMicros, decodeMicros, presentationMicros, valid }

def encodeInto (timings : StageTimings) : SignedBytes :=
  writeU32 timings.captureMicros ++ writeU32 timings.encodeMicros ++
    writeU32 timings.transportMicros ++ writeU32 timings.decodeMicros ++
    writeU32 timings.presentationMicros

theorem init_eq_ok {capture encode transport decode presentation : UInt32} {u : Unit} :
    init capture encode transport decode presentation = .ok u ↔
      Protocol.StageTimings.validate capture encode transport decode presentation = .ok () := by
  have hmax : maxStageDurationMicros = Protocol.maxStageDurationMicros := rfl
  rw [init, requireProtocol_eq_ok, Protocol.StageTimings.validate, ite_error_eq_ok, hmax]
  simp only [List.all_cons, List.all_nil, List.any_cons, List.any_nil, Bool.and_eq_true,
    Bool.or_eq_true, decide_eq_true_eq, not_or, UInt32.not_lt, gt_iff_lt]
  simp

def ofTimings (timings : Protocol.StageTimings) : StageTimings where
  captureMicros := timings.capture
  encodeMicros := timings.encode
  transportMicros := timings.transport
  decodeMicros := timings.decode
  presentationMicros := timings.presentation
  valid := init_eq_ok.mpr timings.valid

theorem new_eq_ok {capture encode transport decode presentation : UInt32}
    {timings : Protocol.StageTimings} :
    new capture encode transport decode presentation = .ok (ofTimings timings) ↔
      Protocol.StageTimings.new capture encode transport decode presentation = .ok timings := by
  rw [Protocol.StageTimings.new_eq_ok]
  constructor
  · intro h
    obtain ⟨_, h⟩ := checked_eq_ok.mp h
    obtain ⟨h0, h1, h2, h3, h4⟩ := StageTimings.mk.inj (Except.ok.inj h)
    exact ⟨h0.symm, h1.symm, h2.symm, h3.symm, h4.symm⟩
  · rintro ⟨rfl, rfl, rfl, rfl, rfl⟩
    exact checked_ok _ (ofTimings timings).valid

theorem ofTimings_bijective : Function.Bijective ofTimings := by
  constructor
  · intro a b h
    obtain ⟨h0, h1, h2, h3, h4⟩ := StageTimings.mk.inj h
    exact Protocol.StageTimings.ext h0 h1 h2 h3 h4
  · rintro ⟨capture, encode, transport, decode, presentation, hvalid⟩
    exact ⟨⟨capture, encode, transport, decode, presentation, init_eq_ok.mp hvalid⟩, rfl⟩

end StageTimings

def TelemetryPayload.init (queueDepth : Int32) (lossPartsPerMillion : UInt32) :
    Except LdflProtocolException Unit := do
  requireProtocol (0 ≤ queueDepth ∧ queueDepth ≤ maxTelemetryQueueDepth)
    "Telemetry queue depth exceeds the version-one limit"
  requireProtocol (lossPartsPerMillion ≤ maxLossPartsPerMillion)
    "Telemetry loss exceeds one million parts per million"

structure TelemetryPayload where
  sampleTimestampMicros : UInt64
  frameId : UInt64
  timings : StageTimings
  queueDepth : Int32
  lossPartsPerMillion : UInt32
  droppedFrames : UInt32
  lateFrames : UInt32
  thermalState : Protocol.ThermalState
  valid : TelemetryPayload.init queueDepth lossPartsPerMillion = .ok ()
  deriving DecidableEq

namespace TelemetryPayload

def new (sampleTimestampMicros frameId : UInt64) (timings : StageTimings) (queueDepth : Int32)
    (lossPartsPerMillion droppedFrames lateFrames : UInt32)
    (thermalState : Protocol.ThermalState) : Except LdflProtocolException TelemetryPayload :=
  checked (init queueDepth lossPartsPerMillion) fun valid =>
  .ok { sampleTimestampMicros, frameId, timings, queueDepth, lossPartsPerMillion, droppedFrames
        lateFrames, thermalState, valid }

def encode (sample : TelemetryPayload) : Except LdflProtocolException SignedBytes := do
  .ok (writeU64 sample.sampleTimestampMicros ++ writeU64 sample.frameId ++
    sample.timings.encodeInto ++ (← writeU16 sample.queueDepth) ++
    writeU32 sample.lossPartsPerMillion ++ writeU32 sample.droppedFrames ++
    writeU32 sample.lateFrames ++ (← writeU8 (ThermalState.wireValue sample.thermalState)))

def decode (payload : SignedBytes) : Except LdflProtocolException TelemetryPayload := do
  requireProtocol (payload.length = telemetryBytes)
    s!"Telemetry payload must be exactly {telemetryBytes} bytes"
  let timings ← StageTimings.new (readU32 payload 16) (readU32 payload 20) (readU32 payload 24)
    (readU32 payload 28) (readU32 payload 32)
  let thermalState ← ThermalState.fromWire (readU8 payload 50)
  new (readU64 payload 0) (readU64 payload 8) timings (readU16 payload 36) (readU32 payload 38)
    (readU32 payload 42) (readU32 payload 46) thermalState

theorem init_widen {queueDepth : UInt16} {lossPartsPerMillion : UInt32} {u : Unit} :
    init (widen16 queueDepth) lossPartsPerMillion = .ok u ↔
      Telemetry.validate queueDepth lossPartsPerMillion = .ok () := by
  have hmax : maxTelemetryQueueDepth = widen16 Protocol.maxTelemetryQueueDepth := rfl
  have hloss : maxLossPartsPerMillion = Protocol.maxLossPartsPerMillion := rfl
  simp only [init, requireProtocol_bind, requireProtocol_eq_ok, zero_le_widen16, true_and, hmax,
    widen16_le, Telemetry.validate, ite_error_eq_ok, hloss]
  simp

def ofTelemetry (sample : Telemetry) : TelemetryPayload where
  sampleTimestampMicros := sample.sampleTimestampMicros
  frameId := sample.frameId
  timings := StageTimings.ofTimings sample.timings
  queueDepth := widen16 sample.queueDepth
  lossPartsPerMillion := sample.lossPartsPerMillion
  droppedFrames := sample.droppedFrames
  lateFrames := sample.lateFrames
  thermalState := sample.thermalState
  valid := init_widen.mpr sample.valid

theorem new_eq_ok {sampleTimestampMicros frameId : UInt64} {timings : StageTimings}
    {queueDepth : Int32} {lossPartsPerMillion droppedFrames lateFrames : UInt32}
    {thermalState : Protocol.ThermalState} {sample : TelemetryPayload} :
    new sampleTimestampMicros frameId timings queueDepth lossPartsPerMillion droppedFrames
        lateFrames thermalState = .ok sample ↔
      sample.sampleTimestampMicros = sampleTimestampMicros ∧ sample.frameId = frameId ∧
      sample.timings = timings ∧ sample.queueDepth = queueDepth ∧
      sample.lossPartsPerMillion = lossPartsPerMillion ∧ sample.droppedFrames = droppedFrames ∧
      sample.lateFrames = lateFrames ∧ sample.thermalState = thermalState := by
  constructor
  · intro h
    obtain ⟨_, h⟩ := checked_eq_ok.mp h
    cases h
    exact ⟨rfl, rfl, rfl, rfl, rfl, rfl, rfl, rfl⟩
  · rintro ⟨rfl, rfl, rfl, rfl, rfl, rfl, rfl, rfl⟩
    exact checked_ok _ sample.valid

theorem ofTelemetry_bijective : Function.Bijective ofTelemetry := by
  constructor
  · intro a b h
    obtain ⟨h0, h1, h2, h3, h4, h5, h6, h7⟩ := TelemetryPayload.mk.inj h
    exact Telemetry.ext h0 h1 (StageTimings.ofTimings_bijective.1 h2) (widen16_inj.mp h3) h4 h5 h6
      h7
  · rintro ⟨timestamp, frameId, timings, depth, loss, dropped, late, thermal, hvalid⟩
    obtain ⟨timings, rfl⟩ := StageTimings.ofTimings_bijective.2 timings
    have hchecks := hvalid
    simp only [init, requireProtocol_bind] at hchecks
    obtain ⟨⟨hlo, hhi⟩, -⟩ := hchecks
    have hmax : maxTelemetryQueueDepth ≤ 0xffff := by decide
    obtain ⟨depth, rfl⟩ := exists_widen16.mp ⟨hlo, Int32.le_trans hhi hmax⟩
    exact ⟨⟨timestamp, frameId, timings, depth, loss, dropped, late, thermal,
      init_widen.mp hvalid⟩, rfl⟩

theorem encode_ofTelemetry (sample : Telemetry) :
    encode (ofTelemetry sample) = .ok (signed sample.wire) := by
  simp only [encode, ofTelemetry, StageTimings.ofTimings, StageTimings.encodeInto,
    ThermalState.wireValue_eq, writeU64_eq, writeU32_eq, writeU16_widen16, writeU8_widen8, bind_ok,
    Telemetry.wire, Protocol.StageTimings.wire, signed_append]

theorem decode_signed {payload : Bytes} {sample : Telemetry} :
    decode (signed payload) = .ok (ofTelemetry sample) ↔ sample.wire = payload := by
  rw [← Telemetry.decode_eq_ok, decode, requireProtocol_bind, Telemetry.decode, ite_error_eq_ok,
    signed_length, ne_eq, not_not]
  refine and_congr_right fun hlen => ?_
  have hroom : payload.length = 51 := hlen
  rw [readU32_signed _ _ (by omega), readU32_signed _ _ (by omega), readU32_signed _ _ (by omega),
    readU32_signed _ _ (by omega), readU32_signed _ _ (by omega), readU8_signed _ _ (by omega),
    readU64_signed _ _ (by omega), readU64_signed _ _ (by omega), readU16_signed _ _ (by omega),
    readU32_signed _ _ (by omega), readU32_signed _ _ (by omega), readU32_signed _ _ (by omega)]
  simp only [bind_eq_ok, ThermalState.fromWire_eq_ok, Protocol.ThermalState.tryFrom_eq_ok,
    new_eq_ok, Telemetry.new_eq_ok, ofTelemetry, widen16_inj]
  constructor
  · rintro ⟨timings, ht, state, hs, h0, h1, rfl, h3, h4, h5, h6, h7⟩
    exact ⟨_, StageTimings.new_eq_ok.mp ht, state, hs, h0, h1, rfl, h3, h4, h5, h6, h7⟩
  · rintro ⟨timings, ht, state, hs, h0, h1, rfl, h3, h4, h5, h6, h7⟩
    exact ⟨_, StageTimings.new_eq_ok.mpr ht, state, hs, h0, h1, rfl, h3, h4, h5, h6, h7⟩

instance : LdflPayload Telemetry TelemetryPayload where
  ofRust := ofTelemetry
  encode := encode
  decode := decode

theorem wireEquivalent : WireEquivalent Telemetry :=
  wireEquivalent_of ofTelemetry_bijective Telemetry.encode_eq
    (fun _ _ => Telemetry.decode_eq_ok) encode_ofTelemetry fun _ _ => decode_signed

end TelemetryPayload

end LadoFlow.Android
