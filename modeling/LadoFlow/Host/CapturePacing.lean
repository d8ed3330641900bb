import LadoFlow.Framework.Trace
import LadoFlow.Host.SharedState

/-!
# Pacing of the screen capture

The capture thread takes frames from a queue and passes those to the encoder that its schedule
accepts. The answers of the graphics calls are part of the frame that they are made for.
-/

namespace LadoFlow.Host

open Framework
open LadoFlow.Core

/-- A frame from the capture pool: when it is taken from the queue, and what the calls made for it
answer. -/
structure CapturedFrame where
  capturedAt : Duration
  contentSize : Except String (Int × Int)
  close : Except String Unit
  recreate : Except String Unit
  newProcessor : Except String Unit
  convert : Except String Unit
  encodeTexture : Except String Unit
  sendBatch : Except String Unit

inductive Received where
  | frame (frame : CapturedFrame)
  | failed (error : String)
  | timeout
  | disconnected

/-- The schedule, the frame dimensions of the processor, and the capture times so far of the last
accepted frame and of the frames passed to the encoder. -/
structure CapturePipeline where
  frameInterval : Duration
  nextFrameAt : Duration
  inputDimensions : Nat × Nat
  accepted : Option Duration
  encoded : List Duration
  deriving DecidableEq

def positiveDimension (value : Int) (label : String) : Except String Nat :=
  if 0 < value ∧ value < 2 ^ 32 then .ok value.toNat
  else .error s!"Windows capture returned invalid {label}: {value}"

def durationTo100ns (duration : Duration) : Except String Nat :=
  let ticks := duration.nanos / 100
  if ticks < 2 ^ 63 then .ok ticks else .error "capture timestamp exceeds Media Foundation range"

def CapturedFrame.dimensions (frame : CapturedFrame) : Except String (Nat × Nat) := do
  let (width, height) ←
    frame.contentSize.mapError fun error => s!"failed to query streaming frame size: {error}"
  let width ← positiveDimension width "streaming frame width"
  let height ← positiveDimension height "streaming frame height"
  return (width, height)

namespace CapturePipeline

def start (frameInterval : Duration) (inputDimensions : Nat × Nat) : CapturePipeline :=
  ⟨frameInterval, .ofNanos 0, inputDimensions, none, []⟩

variable (s : CapturePipeline)

/-- One interval after the last deadline, or now when that is more than an interval ago. -/
def nextDeadline (capturedAt : Duration) : Duration :=
  let next := (checkedAdd s.nextFrameAt s.frameInterval).getD capturedAt
  if (capturedAt.saturatingSub next).nanos > s.frameInterval.nanos then capturedAt else next

def resize (frame : CapturedFrame) (dimensions : Nat × Nat) :
    Except String Unit × CapturePipeline :=
  match frame.close with
  | .error error => (.error s!"failed to close resized capture frame: {error}", s)
  | .ok () =>
  match frame.recreate with
  | .error error => (.error s!"failed to resize capture frame pool: {error}", s)
  | .ok () =>
  match frame.newProcessor with
  | .error error => (.error error, s)
  | .ok () => (.ok (), { s with inputDimensions := dimensions, nextFrameAt := frame.capturedAt })

def encode (frame : CapturedFrame) : Except String Unit × CapturePipeline :=
  match frame.convert with
  | .error error => (.error error, s)
  | .ok () =>
  match durationTo100ns frame.capturedAt with
  | .error error => (.error error, s)
  | .ok _ =>
  let s := { s with encoded := s.encoded ++ [frame.capturedAt] }
  match frame.encodeTexture with
  | .error error => (.error error, s)
  | .ok () =>
  match frame.close with
  | .error error => (.error s!"failed to close captured frame: {error}", s)
  | .ok () => (frame.sendBatch, s)

def processFrame (frame : CapturedFrame) : Except String Unit × CapturePipeline :=
  if frame.capturedAt.nanos < s.nextFrameAt.nanos then (.ok (), s)
  else
  let s := { s with
    nextFrameAt := s.nextDeadline frame.capturedAt
    accepted := some frame.capturedAt }
  match frame.dimensions with
  | .error error => (.error error, s)
  | .ok dimensions =>
    if s.inputDimensions ≠ dimensions then s.resize frame dimensions else s.encode frame

def processNextFrame : Received → Except String Unit × CapturePipeline
  | .frame frame => s.processFrame frame
  | .failed error => (.error error, s)
  | .timeout => (.ok (), s)
  | .disconnected => (.error "Windows capture callback stopped unexpectedly", s)

/-- Turns of the loop until it is cancelled or fails: whether the source is closed, and what the wait
for a frame ends with. -/
def run (s : CapturePipeline) : List (Bool × Received) → Except String Unit × CapturePipeline
  | [] => (.ok (), s)
  | (sourceClosed, received) :: turns =>
    if sourceClosed then (.error "selected Windows capture source was closed or removed", s)
    else
    match s.processNextFrame received with
    | (.error error, s) => (.error error, s)
    | (.ok (), s) => s.run turns

/-- The capture time leaves two intervals before the longest duration. -/
def InRange (frameInterval : Duration) : Received → Prop
  | .frame frame => frame.capturedAt.nanos + 2 * frameInterval.nanos ≤ Duration.maxNanos
  | _ => True

instance (frameInterval : Duration) (received : Received) :
    Decidable (InRange frameInterval received) := by
  unfold InRange
  split <;> infer_instance

variable {s} {frame : CapturedFrame} {received : Received}

theorem checkedAdd_exact {a b : Duration} (h : a.nanos + b.nanos ≤ Duration.maxNanos) :
    ∃ sum, checkedAdd a b = some sum ∧ sum.nanos = a.nanos + b.nanos := ⟨_, dif_pos h, rfl⟩

theorem le_nextDeadline {capturedAt : Duration} (h : s.nextFrameAt.nanos ≤ capturedAt.nanos) :
    s.nextFrameAt.nanos ≤ (s.nextDeadline capturedAt).nanos := by
  have hnext : s.nextFrameAt.nanos ≤
      ((checkedAdd s.nextFrameAt s.frameInterval).getD capturedAt).nanos := by
    by_cases hrange : s.nextFrameAt.nanos + s.frameInterval.nanos ≤ Duration.maxNanos
    · obtain ⟨sum, hsum, hnanos⟩ := checkedAdd_exact hrange
      rw [hsum, Option.getD_some, hnanos]
      exact Nat.le_add_right _ _
    · have hnone : checkedAdd s.nextFrameAt s.frameInterval = none := dif_neg hrange
      rw [hnone, Option.getD_none]
      exact h
  rw [nextDeadline]
  split
  · exact h
  · exact hnext

/-- An accepted frame moves the deadline by at least one interval and leaves it at most one interval
behind. -/
theorem nextDeadline_bounds {capturedAt : Duration} (h : s.nextFrameAt.nanos ≤ capturedAt.nanos)
    (hrange : capturedAt.nanos + 2 * s.frameInterval.nanos ≤ Duration.maxNanos) :
    s.nextFrameAt.nanos + s.frameInterval.nanos ≤ (s.nextDeadline capturedAt).nanos ∧
      capturedAt.nanos ≤ (s.nextDeadline capturedAt).nanos + s.frameInterval.nanos := by
  obtain ⟨sum, hsum, hnanos⟩ :=
    @checkedAdd_exact s.nextFrameAt s.frameInterval (by omega)
  have hlate : (capturedAt.saturatingSub sum).nanos = capturedAt.nanos - sum.nanos := rfl
  rw [nextDeadline, hsum, Option.getD_some]
  simp only [hlate]
  split
  · omega
  · omega

/-- What a turn does to the schedule and to the frames passed to the encoder. -/
theorem processNextFrame_effect (s : CapturePipeline) (received : Received) :
    (s.processNextFrame received).2 = s ∨
      ∃ frame, received = .frame frame ∧ s.nextFrameAt.nanos ≤ frame.capturedAt.nanos ∧
        ∃ next dimensions encoded, (s.processNextFrame received).2 =
            ⟨s.frameInterval, next, dimensions, some frame.capturedAt, encoded⟩ ∧
          (next = s.nextDeadline frame.capturedAt ∧
              (encoded = s.encoded ∨ encoded = s.encoded ++ [frame.capturedAt]) ∨
            next = frame.capturedAt ∧ encoded = s.encoded) := by
  cases received with
  | failed error => exact .inl rfl
  | timeout => exact .inl rfl
  | disconnected => exact .inl rfl
  | frame frame =>
    rw [processNextFrame, processFrame]
    by_cases hearly : frame.capturedAt.nanos < s.nextFrameAt.nanos
    · rw [if_pos hearly]
      exact .inl rfl
    rw [if_neg hearly]
    refine .inr ⟨frame, rfl, Nat.le_of_not_lt hearly, ?_⟩
    cases frame.dimensions with
    | error error => exact ⟨_, _, _, rfl, .inl ⟨rfl, .inl rfl⟩⟩
    | ok dimensions =>
      simp only
      split
      · rw [resize]
        cases frame.close with
        | error error => exact ⟨_, _, _, rfl, .inl ⟨rfl, .inl rfl⟩⟩
        | ok _ =>
        cases frame.recreate with
        | error error => exact ⟨_, _, _, rfl, .inl ⟨rfl, .inl rfl⟩⟩
        | ok _ =>
        cases frame.newProcessor with
        | error error => exact ⟨_, _, _, rfl, .inl ⟨rfl, .inl rfl⟩⟩
        | ok _ => exact ⟨_, _, _, rfl, .inr ⟨rfl, rfl⟩⟩
      · rw [encode]
        cases frame.convert with
        | error error => exact ⟨_, _, _, rfl, .inl ⟨rfl, .inl rfl⟩⟩
        | ok _ =>
        cases durationTo100ns frame.capturedAt with
        | error error => exact ⟨_, _, _, rfl, .inl ⟨rfl, .inl rfl⟩⟩
        | ok _ =>
        cases frame.encodeTexture with
        | error error => exact ⟨_, _, _, rfl, .inl ⟨rfl, .inr rfl⟩⟩
        | ok _ =>
        cases frame.close with
        | error error => exact ⟨_, _, _, rfl, .inl ⟨rfl, .inr rfl⟩⟩
        | ok _ => exact ⟨_, _, _, rfl, .inl ⟨rfl, .inr rfl⟩⟩

/-- The deadline moves forward only. -/
theorem processNextFrame_le (s : CapturePipeline) (received : Received) :
    s.nextFrameAt.nanos ≤ (s.processNextFrame received).2.nextFrameAt.nanos := by
  rcases processNextFrame_effect s received with
    hsame | ⟨frame, -, hdue, next, dimensions, encoded, hafter, hnext⟩
  · rw [hsame]
  · rw [hafter]
    rcases hnext with ⟨rfl, -⟩ | ⟨rfl, -⟩
    · exact le_nextDeadline hdue
    · exact hdue

theorem run_le (s : CapturePipeline) (turns : List (Bool × Received)) :
    s.nextFrameAt.nanos ≤ (s.run turns).2.nextFrameAt.nanos := by
  induction turns generalizing s with
  | nil => exact Nat.le_refl _
  | cons turn turns ih =>
    have hstep := processNextFrame_le s turn.2
    rw [run]
    split
    · exact Nat.le_refl _
    cases hnext : s.processNextFrame turn.2 with | mk result after =>
    rw [hnext] at hstep
    cases result with
    | error error => exact hstep
    | ok _ => exact Nat.le_trans hstep (ih after)

theorem run_append_le (s : CapturePipeline) (turns more : List (Bool × Received)) :
    (s.run turns).2.nextFrameAt.nanos ≤ (s.run (turns ++ more)).2.nextFrameAt.nanos := by
  induction turns generalizing s with
  | nil => exact run_le s more
  | cons turn turns ih =>
    rw [List.cons_append, run, run]
    split
    · exact Nat.le_refl _
    cases s.processNextFrame turn.2 with | mk result after =>
    cases result with
    | error error => exact Nat.le_refl _
    | ok _ => exact ih after

/-- The deadline keeps up with the last accepted frame and with the number of frames encoded since any
of them. -/
structure Paced (interval : Duration) (s : CapturePipeline) : Prop where
  interval_eq : s.frameInterval = interval
  lag : ∀ accepted, s.accepted = some accepted →
    accepted.nanos ≤ s.nextFrameAt.nanos + interval.nanos
  since : ∀ (i : Nat) (first : Duration), s.encoded[i]? = some first →
    first.nanos + (s.encoded.length - i) * interval.nanos ≤
      s.nextFrameAt.nanos + 2 * interval.nanos
  window : ∀ (i j : Nat) (first last : Duration), i ≤ j → s.encoded[i]? = some first →
    s.encoded[j]? = some last →
    first.nanos + (j - i) * interval.nanos ≤ last.nanos + 2 * interval.nanos

variable {interval : Duration}

/-- A later deadline that keeps up with an accepted frame that is not encoded. -/
theorem paced_skip (h : s.Paced interval) {next capturedAt : Duration} {dimensions : Nat × Nat}
    (hnext : s.nextFrameAt.nanos ≤ next.nanos)
    (hlag : capturedAt.nanos ≤ next.nanos + interval.nanos) :
    Paced interval ⟨s.frameInterval, next, dimensions, some capturedAt, s.encoded⟩ := by
  refine ⟨h.interval_eq, ?_, ?_, h.window⟩
  · intro accepted haccepted
    cases haccepted
    exact hlag
  · intro i first hfirst
    have := h.since i first hfirst
    simp only
    omega

/-- An encoded frame uses up one interval of the schedule. -/
theorem paced_encode (h : s.Paced interval) {next capturedAt : Duration} {dimensions : Nat × Nat}
    (hdue : s.nextFrameAt.nanos ≤ capturedAt.nanos)
    (hnext : s.nextFrameAt.nanos + interval.nanos ≤ next.nanos)
    (hlag : capturedAt.nanos ≤ next.nanos + interval.nanos) :
    Paced interval
      ⟨s.frameInterval, next, dimensions, some capturedAt, s.encoded ++ [capturedAt]⟩ := by
  refine ⟨h.interval_eq, ?_, ?_, ?_⟩
  · intro accepted haccepted
    cases haccepted
    exact hlag
  · intro i first hfirst
    simp only [List.length_append, List.length_singleton]
    rcases getElem?_snoc hfirst with ⟨hfirst, hi⟩ | ⟨rfl, hi⟩
    · have hsince := h.since i first hfirst
      have hone : s.encoded.length + 1 - i = s.encoded.length - i + 1 := by omega
      rw [hone, Nat.add_mul, Nat.one_mul]
      omega
    · have hone : s.encoded.length + 1 - i = 1 := by omega
      rw [hone, Nat.one_mul]
      omega
  · intro i j first last hij hfirst hlast
    rcases getElem?_snoc hlast with ⟨hlast, hj⟩ | ⟨rfl, hj⟩
    · rcases getElem?_snoc hfirst with ⟨hfirst, -⟩ | ⟨-, hi⟩
      · exact h.window i j first last hij hfirst hlast
      · omega
    · rcases getElem?_snoc hfirst with ⟨hfirst, -⟩ | ⟨rfl, hi⟩
      · have hsince := h.since i first hfirst
        rw [hj]
        omega
      · have hzero : j - i = 0 := by omega
        rw [hzero, Nat.zero_mul]
        omega

theorem paced_step (h : s.Paced interval) (hrange : InRange interval received) :
    (s.processNextFrame received).2.Paced interval := by
  rcases processNextFrame_effect s received with
    hsame | ⟨frame, rfl, hdue, next, dimensions, encoded, hafter, hnext⟩
  · rw [hsame]
    exact h
  · have hbounds := nextDeadline_bounds hdue (h.interval_eq ▸ hrange)
    rw [h.interval_eq] at hbounds
    rw [hafter]
    rcases hnext with ⟨rfl, rfl | rfl⟩ | ⟨rfl, rfl⟩
    · exact paced_skip h (Nat.le_trans (Nat.le_add_right _ _) hbounds.1) hbounds.2
    · exact paced_encode h hdue hbounds.1 hbounds.2
    · exact paced_skip h hdue (Nat.le_add_right _ _)

theorem paced_run (h : s.Paced interval) {turns : List (Bool × Received)}
    (hrange : ∀ turn ∈ turns, InRange interval turn.2) : (s.run turns).2.Paced interval := by
  induction turns generalizing s with
  | nil => exact h
  | cons turn turns ih =>
    have hstep := paced_step h (hrange turn List.mem_cons_self)
    rw [run]
    split
    · exact h
    cases hnext : s.processNextFrame turn.2 with | mk result after =>
    rw [hnext] at hstep
    cases result with
    | error error => exact hstep
    | ok _ => exact ih hstep (fun turn hturn => hrange turn (List.mem_cons_of_mem _ hturn))

/-- Frames that are encoded one after the other are at least an interval apart but for three of them,
and the deadline moves forward only and stays within an interval of the last accepted frame. -/
theorem encoded_paced {inputDimensions : Nat × Nat} {turns : List (Bool × Received)}
    (hrange : ∀ turn ∈ turns, InRange interval turn.2) :
    let s := ((start interval inputDimensions).run turns).2
    (∀ (i j : Nat) (first last : Duration), i ≤ j → s.encoded[i]? = some first →
      s.encoded[j]? = some last →
      (((j - i + 1 : Nat) : Int) - 3) * interval.nanos ≤ (last.nanos : Int) - first.nanos) ∧
    (∀ accepted, s.accepted = some accepted →
      accepted.nanos ≤ s.nextFrameAt.nanos + interval.nanos) ∧
    ∀ more, s.nextFrameAt.nanos ≤
      ((start interval inputDimensions).run (turns ++ more)).2.nextFrameAt.nanos := by
  intro s
  have hstart : (start interval inputDimensions).Paced interval :=
    ⟨rfl, by simp [start], by simp [start], by simp [start]⟩
  have hpaced : s.Paced interval := paced_run hstart hrange
  refine ⟨?_, hpaced.lag, run_append_le _ turns⟩
  intro i j first last hij hfirst hlast
  have hwindow := hpaced.window i j first last hij hfirst hlast
  have hcount : (((j - i + 1 : Nat) : Int) - 3) * interval.nanos =
      ((j - i) * interval.nanos : Nat) - 2 * interval.nanos := by
    push_cast
    ring
  rw [hcount]
  omega

/-- A frame of 1920 by 1080 pixels whose calls all succeed. -/
def frameOf (millis : UInt64) : Bool × Received :=
  (false, .frame ⟨.fromMillis millis, .ok (1920, 1080), .ok (), .ok (), .ok (), .ok (), .ok (), .ok ()⟩)

/-- Three frames pass at once when the first of them is two intervals late. -/
def burst : List (Bool × Received) := [frameOf 20, frameOf 20, frameOf 20, frameOf 20, frameOf 30]

theorem encoded_paced_burst :
    ((start (.fromMillis 10) (1920, 1080)).run burst).2.encoded =
        [.fromMillis 20, .fromMillis 20, .fromMillis 20, .fromMillis 30] ∧
      ∀ (i j : Nat) (first last : Duration), i ≤ j →
        ((start (.fromMillis 10) (1920, 1080)).run burst).2.encoded[i]? = some first →
        ((start (.fromMillis 10) (1920, 1080)).run burst).2.encoded[j]? = some last →
        (((j - i + 1 : Nat) : Int) - 3) * (Duration.fromMillis 10).nanos ≤
          (last.nanos : Int) - first.nanos := by
  exact ⟨by decide, (@encoded_paced (.fromMillis 10) (1920, 1080) burst (by decide)).1⟩

end CapturePipeline

end LadoFlow.Host
