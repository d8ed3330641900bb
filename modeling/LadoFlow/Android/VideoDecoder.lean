import LadoFlow.Android.DisplayPayloads
import LadoFlow.Android.H264FrameGate

/-!
# The decoder boundary

States, events and metrics that a video decoder publishes to its session.
-/

namespace LadoFlow.Android

inductive HardwareAccelerationEvidence where
  | reportedHardware
  | reportedSoftware
  | notReportedByPlatform
  deriving DecidableEq, Repr

structure VideoDecoderBackend where
  codecName : String
  hardwareAcceleration : HardwareAccelerationEvidence
  lowLatencyFeatureEnabled : Bool
  deriving DecidableEq

inductive VideoDecoderState where
  | idle
  | awaitingSurface (configuration : Option DisplayConfigPayload)
  | awaitingConfiguration
  | awaitingKeyframe (configuration : DisplayConfigPayload)
  | running (configuration : DisplayConfigPayload) (backend : VideoDecoderBackend)
  | recovering (configuration : DisplayConfigPayload) (attempt : Int32) (reason : String)
  | failed (message : String) (recoverableOnKeyframe : Bool)
  | closed
  deriving DecidableEq

inductive VideoDecoderEvent where
  | frameDropped (frameId : Option UInt64) (reason : DecoderDropReason) (detail : String)
      (count : Nat)
  | outputReleasedToSurface (frameId : UInt64) (presentationTimestampMicros : Int64)
      (decodeDurationMicros : UInt32)
  | outputFormatChanged (width height : Option Int32)
  | warning (message : String)
  | failure (message : String)
  | endOfStream
  deriving DecidableEq

/-- Cumulative decoder snapshot. -/
structure VideoDecoderMetrics where
  outputsReleasedToSurface : Nat
  droppedFrames : Nat
  queueDepth : Nat
  lastReleasedFrameId : Option UInt64
  lastDecodeDurationMicros : Option UInt32
  deriving DecidableEq

def VideoDecoderMetrics.zero : VideoDecoderMetrics := ⟨0, 0, 0, none, none⟩

/-- A configuration that the session and the decoder support. -/
def DisplayConfigPayload.hd : DisplayConfigPayload := ⟨1280, 720, 60000, 8000, .h264, .h264Main, rfl⟩

/-- `Long.saturatingAdd` -/
def saturatingAddLong (a b : Nat) : Nat := min (a + b) (2 ^ 63 - 1)

namespace VideoDecoderState

/-- The decoder has a Surface and takes frames. -/
def surfaceReady : VideoDecoderState → Bool
  | awaitingKeyframe _ | running _ _ | recovering _ _ _ => true
  | _ => false

end VideoDecoderState

end LadoFlow.Android
