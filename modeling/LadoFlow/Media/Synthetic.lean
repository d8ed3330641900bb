import LadoFlow.Media.Metadata

/-!
# Synthetic frames

A deterministic source of opaque frames. Every frame of the timeline has its own sequence, and key
frames come at a fixed interval.
-/

namespace LadoFlow.Media

open Framework LadoFlow.Core

inductive FrameDimensionsError where
  | zeroWidth
  | zeroHeight
  deriving DecidableEq, Repr

def FrameDimensions.new (width height : UInt32) : Except FrameDimensionsError FrameDimensions :=
  if hwidth : width = 0 then .error .zeroWidth
  else if hheight : height = 0 then .error .zeroHeight
  else .ok ⟨width, height, hwidth, hheight⟩

def maxSyntheticPayloadBytes : Nat := 16 * 1024 * 1024

inductive SyntheticConfigError where
  | emptyPayload
  | payloadTooLarge (requested limit : Nat)
  | zeroKeyframeInterval
  deriving DecidableEq, Repr

/-- Validated settings of a synthetic stream. -/
structure SyntheticConfig where
  format : VideoFormat
  payloadBytes : Nat
  keyframeInterval : UInt64
  seed : UInt64
  payloadBytes_pos : 0 < payloadBytes
  payloadBytes_le : payloadBytes ≤ maxSyntheticPayloadBytes
  keyframeInterval_ne : keyframeInterval ≠ 0

namespace SyntheticConfig

def new (format : VideoFormat) (payloadBytes : Nat) (keyframeInterval : UInt64) :
    Except SyntheticConfigError SyntheticConfig :=
  if hempty : payloadBytes = 0 then .error .emptyPayload
  else if hlarge : payloadBytes > maxSyntheticPayloadBytes then
    .error (.payloadTooLarge payloadBytes maxSyntheticPayloadBytes)
  else if hinterval : keyframeInterval = 0 then .error .zeroKeyframeInterval
  else .ok
    { format, payloadBytes, keyframeInterval
      seed := 0
      payloadBytes_pos := Nat.pos_of_ne_zero hempty
      payloadBytes_le := Nat.le_of_not_lt hlarge
      keyframeInterval_ne := hinterval }

def withSeed (config : SyntheticConfig) (seed : UInt64) : SyntheticConfig := { config with seed }

theorem new_eq_ok {format : VideoFormat} {payloadBytes : Nat} {keyframeInterval : UInt64}
    {config : SyntheticConfig} (h : new format payloadBytes keyframeInterval = .ok config) :
    config.format = format ∧ config.payloadBytes = payloadBytes ∧
      config.keyframeInterval = keyframeInterval := by
  rw [new] at h
  split at h
  · cases h
  split at h
  · cases h
  split at h
  · cases h
  · cases h
    exact ⟨rfl, rfl, rfl⟩

end SyntheticConfig

def rotateLeft17 (value : UInt64) : UInt64 := value <<< 17 ||| value >>> 47

def mix64 (value : UInt64) : UInt64 :=
  let value := value + 0x9e3779b97f4a7c15
  let value := (value ^^^ value >>> 30) * 0xbf58476d1ce4e5b9
  let value := (value ^^^ value >>> 27) * 0x94d049bb133111eb
  value ^^^ value >>> 31

/-- Little-endian words of eight bytes; the last one may be cut. -/
def makePayload (sequence seed : UInt64) (payloadBytes : Nat) : Bytes :=
  ((List.range ((payloadBytes + 7) / 8)).flatMap fun blockIndex =>
    let input := seed ^^^ rotateLeft17 sequence ^^^ UInt64.ofNat blockIndex * 0xd6e8feb86659fd93
    (toBeBytes (mix64 input)).reverse).take payloadBytes

theorem makePayload_length (sequence seed : UInt64) (payloadBytes : Nat) :
    (makePayload sequence seed payloadBytes).length = payloadBytes := by
  have hblocks : ∀ (blocks : List Nat) (word : Nat → UInt64),
      (blocks.flatMap fun blockIndex => (toBeBytes (word blockIndex)).reverse).length =
        8 * blocks.length := by
    intro blocks word
    induction blocks with
    | nil => rfl
    | cons block blocks ih =>
      rw [List.flatMap_cons, List.length_append, ih, List.length_reverse, toBeBytes_length,
        width_uint64, List.length_cons]
      omega
  rw [makePayload, List.length_take, hblocks, List.length_range]
  omega

structure SyntheticFrameProducer where
  config : SyntheticConfig
  nextSequence : Option UInt64

namespace SyntheticFrameProducer

def new (config : SyntheticConfig) : SyntheticFrameProducer := ⟨config, some 0⟩

variable (producer : SyntheticFrameProducer)

/-- Move forward to `sequence`; the number of frames that are skipped. -/
def advanceToSequence (sequence : UInt64) : UInt64 × SyntheticFrameProducer :=
  match producer.nextSequence with
  | none => (0, producer)
  | some current =>
    if sequence ≤ current then (0, producer)
    else (sequence - current, { producer with nextSequence := some sequence })

def frame (sequence : UInt64) : MediaFrame :=
  let rate := producer.config.format.frameRate
  let presentationTime := rate.timestamp sequence.toNat
  let kind := if sequence % producer.config.keyframeInterval = 0 then .key else .delta
  { metadata :=
      { sequence
        captureTime := presentationTime
        presentationTime
        duration := rate.frameDuration sequence.toNat
        kind
        format := producer.config.format }
    payload := makePayload sequence producer.config.seed producer.config.payloadBytes }

def nextFrame : Option MediaFrame × SyntheticFrameProducer :=
  match producer.nextSequence with
  | none => (none, producer)
  | some sequence =>
    (some (producer.frame sequence),
      { producer with nextSequence := Session.checkedSucc64 sequence })

end SyntheticFrameProducer

end LadoFlow.Media
