import LadoFlow.Core.Session
import LadoFlow.Framework.Saturating

/-!
# Frames and their timeline

Media frames with codec-neutral metadata, and the exact rational timeline of a frame rate. The
intermediate values of the `u128` arithmetic fit, so it is arithmetic on natural numbers.
-/

namespace LadoFlow.Core.Duration

open Framework

def max : Duration := ⟨maxNanos, Nat.le_refl _⟩

/-- The duration of that many nanoseconds, or the longest one. -/
def ofNanos (nanos : Nat) : Duration := ⟨Nat.min nanos maxNanos, Nat.min_le_right _ _⟩

def saturatingAdd (a b : Duration) : Duration :=
  ⟨saturatingSum maxNanos a.nanos b.nanos, saturatingSum_le⟩

def saturatingSub (a b : Duration) : Duration :=
  ⟨a.nanos - b.nanos, Nat.le_trans (Nat.sub_le _ _) a.le_max⟩

def maximum (a b : Duration) : Duration := if a.nanos ≤ b.nanos then b else a

end LadoFlow.Core.Duration

namespace LadoFlow.Media

open Framework LadoFlow.Core

def u64Max : Nat := 2 ^ 64 - 1

inductive FrameRateError where
  | zeroNumerator
  | zeroDenominator
  deriving DecidableEq, Repr

/-- A positive rational number of frames per second. -/
structure FrameRate where
  numerator : UInt32
  denominator : UInt32
  numerator_ne : numerator ≠ 0
  denominator_ne : denominator ≠ 0
  deriving DecidableEq, Repr

namespace FrameRate

def new (numerator denominator : UInt32) : Except FrameRateError FrameRate :=
  if hnumerator : numerator = 0 then .error .zeroNumerator
  else if hdenominator : denominator = 0 then .error .zeroDenominator
  else .ok ⟨numerator, denominator, hnumerator, hdenominator⟩

def fromHz (framesPerSecond : UInt32) : Except FrameRateError FrameRate := new framesPerSecond 1

def timestamp (rate : FrameRate) (frameIndex : Nat) : Duration :=
  let scaledSeconds := frameIndex * rate.denominator.toNat
  let wholeSeconds := scaledSeconds / rate.numerator.toNat
  let fractionalUnits := scaledSeconds % rate.numerator.toNat
  if wholeSeconds > u64Max then .max
  else .ofNanos (wholeSeconds * 10 ^ 9 + fractionalUnits * 10 ^ 9 / rate.numerator.toNat)

def frameDuration (rate : FrameRate) (frameIndex : Nat) : Duration :=
  (rate.timestamp (saturatingSum u64Max frameIndex 1)).saturatingSub (rate.timestamp frameIndex)

/-- The latest frame whose timestamp is not after `elapsed`. -/
def frameAtOrBefore (rate : FrameRate) (elapsed : Duration) : Nat :=
  let exclusiveNanos := elapsed.nanos + 1
  let scaled := exclusiveNanos * rate.numerator.toNat - 1
  let divisor := rate.denominator.toNat * 10 ^ 9
  Nat.min (scaled / divisor) u64Max

theorem frameAtOrBefore_le (rate : FrameRate) (elapsed : Duration) :
    rate.frameAtOrBefore elapsed ≤ u64Max := Nat.min_le_right _ _

end FrameRate

structure FrameDimensions where
  width : UInt32
  height : UInt32
  width_ne : width ≠ 0
  height_ne : height ≠ 0
  deriving DecidableEq, Repr

structure VideoFormat where
  dimensions : FrameDimensions
  frameRate : FrameRate
  deriving DecidableEq, Repr

inductive FrameKind where
  | key
  | delta
  deriving DecidableEq, Repr

/-- Times are relative to the origin of the stream. -/
structure FrameMetadata where
  sequence : UInt64
  captureTime : Duration
  presentationTime : Duration
  duration : Duration
  kind : FrameKind
  format : VideoFormat
  deriving DecidableEq, Repr

structure MediaFrame where
  metadata : FrameMetadata
  payload : Bytes
  deriving DecidableEq, Repr

end LadoFlow.Media
