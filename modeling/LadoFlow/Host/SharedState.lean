import LadoFlow.Host.Runtime
import LadoFlow.Media.Scheduler
import LadoFlow.Protocol.Control
import LadoFlow.Protocol.Telemetry

/-!
# State shared with the desktop windows

The session and the counters that the snapshots show. One runtime worker writes them, and resets
them in part when it starts, recovers or fails.
-/

namespace LadoFlow.Host

open LadoFlow.Protocol LadoFlow.Core LadoFlow.Media LadoFlow.Transport Framework

inductive SessionPhaseView where
  | idle
  | negotiating
  | connected
  | streaming
  | recovering
  | stopped
  | failed
  deriving DecidableEq, Repr

def latencyWindow : Nat := 240
def sentVideoHistory : Nat := 1024
def loopbackTransportName : String := "In-memory duplex"
def usbTransportName : String := "Android Open Accessory USB"
def tetherTransportName : String := "Android USB tether TCP"

/-- The latest latency samples in microseconds, oldest first. -/
structure LatencyAggregator where
  samplesMicros : List Nat
  totalSampleCount : Nat
  deriving DecidableEq, Repr

namespace LatencyAggregator

def new : LatencyAggregator := ⟨[], 0⟩

/-- A duration given in microseconds of 64 bits is never too large. -/
def record (latency : LatencyAggregator) (micros : Nat) : LatencyAggregator where
  samplesMicros :=
    (if latency.samplesMicros.length = latencyWindow then latency.samplesMicros.drop 1
      else latency.samplesMicros) ++ [micros]
  totalSampleCount := countUp latency.totalSampleCount 1

end LatencyAggregator

structure SharedState where
  phase : SessionPhaseView
  session : Option Session
  config : Option LoopbackConfig
  transport : String
  peerName : Option String
  lastError : Option HostError
  startedAt : Option Duration
  latency : LatencyAggregator
  framesProduced : Nat
  framesPresented : Nat
  framesDropped : Nat
  framesSuperseded : Nat
  queueDepth : Nat
  sentVideoOrdinals : List (UInt64 × Nat)
  deriving DecidableEq

/-- An encoded picture of the capture stream. -/
structure H264AccessUnit where
  bytes : Bytes
  timestamp : Duration
  duration : Duration
  keyframe : Bool
  deriving DecidableEq

namespace SharedState

def new : SharedState where
  phase := .idle
  session := none
  config := none
  transport := "No active transport"
  peerName := none
  lastError := none
  startedAt := none
  latency := .new
  framesProduced := 0
  framesPresented := 0
  framesDropped := 0
  framesSuperseded := 0
  queueDepth := 0
  sentVideoOrdinals := []

def resetForStart (config : LoopbackConfig) (session : Session) (now : Duration) : SharedState where
  phase := .streaming
  session := some session
  config := some config
  transport := loopbackTransportName
  peerName := some "LadoFlow synthetic display"
  lastError := none
  startedAt := some now
  latency := .new
  framesProduced := 0
  framesPresented := 0
  framesDropped := 0
  framesSuperseded := 0
  queueDepth := 0
  sentVideoOrdinals := []

def resetForAndroidNegotiation (config : LoopbackConfig) (transport : String) (now : Duration) :
    SharedState where
  phase := .negotiating
  session := none
  config := some config
  transport := transport
  peerName := none
  lastError := none
  startedAt := some now
  latency := .new
  framesProduced := 0
  framesPresented := 0
  framesDropped := 0
  framesSuperseded := 0
  queueDepth := 0
  sentVideoOrdinals := []

section Transitions

variable (state : SharedState)

def establishAndroidControl (config : LoopbackConfig) (session : Session) (peerName : String) :
    SharedState :=
  { state with
    phase := .connected
    session := some session
    config := some config
    peerName := some peerName
    lastError := none }

/-- The session is told about the loss and then dropped. -/
def beginUsbRecovery (error : String) (attempt : UInt32) (delayMillis : Nat) : SharedState :=
  { state with
    phase := .recovering
    session := none
    peerName := none
    lastError := some (.text (s!"USB link lost: {error}. Reconnect attempt {attempt} starts in " ++
      s!"{delayMillis} ms"))
    queueDepth := 0
    sentVideoOrdinals := [] }

def beginUsbRenegotiation (config : LoopbackConfig) : SharedState :=
  { state with
    phase := .negotiating
    session := none
    config := some config
    peerName := none
    lastError := none
    queueDepth := 0
    sentVideoOrdinals := [] }

def failAndroidSession (error : HostError) : SharedState :=
  { state with
    phase := .failed
    session := none
    peerName := none
    lastError := some error
    queueDepth := 0
    sentVideoOrdinals := [] }

/-- The latest sent frames with their place among all frames of the run. -/
def recordSentVideo (sequence : UInt64) : SharedState :=
  let framesProduced := countUp state.framesProduced 1
  let sent := state.sentVideoOrdinals ++ [(sequence, framesProduced)]
  { state with
    phase := .streaming
    framesProduced
    sentVideoOrdinals := sent.drop (sent.length - sentVideoHistory) }

/-- The place of the reported frame, unless it is zero or forgotten. -/
def presentedOrdinal (frameId : UInt64) : Option Nat :=
  if frameId = 0 then none
  else (state.sentVideoOrdinals.reverse.find? fun sent => sent.1 = frameId).map (·.2)

def applyUsbTelemetry (telemetry : Telemetry) : SharedState :=
  let framesDropped := telemetry.droppedFrames.toNat
  let framesPresented := match state.presentedOrdinal telemetry.frameId with
    | some ordinal => ordinal - framesDropped
    | none => state.framesPresented
  let timings := telemetry.timings
  let totalLatencyMicros := timings.capture.toNat + timings.encode.toNat +
    timings.transport.toNat + timings.decode.toNat + timings.presentation.toNat
  { state with
    framesDropped
    queueDepth := telemetry.queueDepth.toNat
    framesPresented
    latency := if totalLatencyMicros > 0 then state.latency.record totalLatencyMicros
      else state.latency }

end Transitions

end SharedState

/-- `Duration::checked_add` -/
def checkedAdd (a b : Duration) : Option Duration :=
  if h : a.nanos + b.nanos ≤ Duration.maxNanos then some ⟨a.nanos + b.nanos, h⟩ else none

def durationMicrosU64 (duration : Duration) : UInt64 :=
  UInt64.ofNat (min (duration.nanos / 1000) u64Max)

def durationMicrosU32 (duration : Duration) : Except HostError UInt32 :=
  if duration.nanos / 1000 < 2 ^ 32 then .ok (UInt32.ofNat (duration.nanos / 1000))
  else .error (.text "synthetic frame duration exceeds protocol range")

/-- The frame of one access unit; its identifier is its sequence. -/
def h264Frame (unit : H264AccessUnit) (mediaClockOffset : Duration) (sequence : UInt64) :
    Except HostError Frame :=
  match checkedAdd mediaClockOffset unit.timestamp with
  | none => .error (.text "H.264 capture timestamp overflowed")
  | some captureTime =>
  match checkedAdd captureTime unit.duration with
  | none => .error (.text "H.264 presentation timestamp overflowed")
  | some presentationTime => do
  let duration ← durationMicrosU32 unit.duration
  let metadata ← liftProtocol (VideoFrameMetadata.new sequence (durationMicrosU64 captureTime)
    (durationMicrosU64 presentationTime) duration)
  let payload ← liftProtocol (VideoFrame.new metadata unit.bytes)
  let flags := if unit.keyframe then FrameFlags.keyframe else FrameFlags.none
  liftProtocol (Frame.fromPayload flags sequence payload)

/-- Send one access unit. A frame that was sent with the last sequence is not recorded. -/
def sendUsbH264AccessUnit (trySend : Packet → Except HostError Unit) (state : SharedState)
    (unit : H264AccessUnit) (mediaClockOffset : Duration) (nextSequence : UInt64) :
    Except HostError (SharedState × UInt64) := do
  let frame ← h264Frame unit mediaClockOffset nextSequence
  let _ ← trySend (.media frame.encode)
  match Session.checkedSucc64 nextSequence with
  | none => .error (.text "host LDFL sequence is exhausted")
  | some next => .ok (state.recordSentVideo nextSequence, next)

end LadoFlow.Host
