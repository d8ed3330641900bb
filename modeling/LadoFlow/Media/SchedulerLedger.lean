import LadoFlow.Framework.Machine
import LadoFlow.Media.Scheduler

/-!
# The scheduler accounts for every frame and every slot

Over any sequence of calls, the windows taken so far and the current one together account for every
submitted frame and for every slot that the pacer consumed.
-/

namespace LadoFlow.Media

open Framework LadoFlow.Core

inductive SchedulerCall where
  | submit (frame : MediaFrame) (now : Duration)
  | poll (now : Duration)
  | takeMetrics

/-- A scheduler and the metrics its caller has taken. -/
structure Diagnosed where
  scheduler : LatestFrameScheduler
  taken : List SchedulerMetrics

namespace Diagnosed

def start (config : SchedulerConfig) (streamOrigin : Duration) : Diagnosed :=
  ⟨.new config streamOrigin, []⟩

def call (s : Diagnosed) : SchedulerCall → Diagnosed
  | .submit frame now => { s with scheduler := (s.scheduler.submit frame now).2 }
  | .poll now => { s with scheduler := (s.scheduler.poll now).2 }
  | .takeMetrics =>
    let (metrics, scheduler) := s.scheduler.takeMetrics
    { scheduler, taken := s.taken ++ [metrics] }

def machine : Machine Diagnosed SchedulerCall := ⟨fun s call => some (s.call call)⟩

/-- A counter summed over all windows. -/
def total (s : Diagnosed) (counter : SchedulerMetrics → Nat) : Nat :=
  (s.taken.map counter).sum + counter s.scheduler.metrics

end Diagnosed

/-- No counter of the window has reached the limit of `u64`. -/
structure SchedulerMetrics.Unsaturated (metrics : SchedulerMetrics) : Prop where
  submitted : metrics.submittedFrames < u64Max
  presented : metrics.presentedFrames < u64Max
  stale : metrics.droppedStaleFrames < u64Max
  superseded : metrics.droppedSupersededFrames < u64Max
  oversized : metrics.droppedOversizedFrames < u64Max
  ticks : metrics.pacingTicks < u64Max
  idle : metrics.idlePacingTicks < u64Max

instance (metrics : SchedulerMetrics) : Decidable metrics.Unsaturated :=
  decidable_of_iff (metrics.submittedFrames < u64Max ∧ metrics.presentedFrames < u64Max ∧
      metrics.droppedStaleFrames < u64Max ∧ metrics.droppedSupersededFrames < u64Max ∧
      metrics.droppedOversizedFrames < u64Max ∧ metrics.pacingTicks < u64Max ∧
      metrics.idlePacingTicks < u64Max)
    ⟨fun ⟨h₁, h₂, h₃, h₄, h₅, h₆, h₇⟩ => ⟨h₁, h₂, h₃, h₄, h₅, h₆, h₇⟩,
      fun ⟨h₁, h₂, h₃, h₄, h₅, h₆, h₇⟩ => ⟨h₁, h₂, h₃, h₄, h₅, h₆, h₇⟩⟩

/-- The counters of a window, up to a common offset on each side. -/
structure LatestFrameScheduler.Moves (before after : LatestFrameScheduler) : Prop where
  frames : after.metrics.submittedFrames + before.metrics.presentedFrames +
      before.metrics.droppedStaleFrames + before.metrics.droppedSupersededFrames +
      before.metrics.droppedOversizedFrames + before.pending.toList.length =
    before.metrics.submittedFrames + after.metrics.presentedFrames +
      after.metrics.droppedStaleFrames + after.metrics.droppedSupersededFrames +
      after.metrics.droppedOversizedFrames + after.pending.toList.length
  ticks : after.metrics.pacingTicks + before.metrics.presentedFrames +
      before.metrics.idlePacingTicks =
    before.metrics.pacingTicks + after.metrics.presentedFrames + after.metrics.idlePacingTicks
  slots : after.metrics.pacingTicks + after.metrics.skippedPacingTicks + before.pacer.consumed =
    before.metrics.pacingTicks + before.metrics.skippedPacingTicks + after.pacer.consumed

theorem countUp_one {counter : Nat} (h : counter < u64Max) : countUp counter 1 = counter + 1 :=
  saturatingSum_eq h

namespace LatestFrameScheduler

variable {scheduler : LatestFrameScheduler} {frame : MediaFrame} {now : Duration}

theorem submit_moves (hroom : scheduler.metrics.Unsaturated) :
    scheduler.Moves (scheduler.submit frame now).2 := by
  have hsubmitted := countUp_one hroom.submitted
  have hstale := countUp_one hroom.stale
  have hsuperseded := countUp_one hroom.superseded
  have hoversized := countUp_one hroom.oversized
  rw [submit]
  split
  · constructor
    all_goals simp [SchedulerMetrics.recordSubmitted, SchedulerMetrics.recordOversized, hsubmitted,
      hoversized]
    all_goals omega
  split
  · constructor
    all_goals simp [SchedulerMetrics.recordSubmitted, SchedulerMetrics.recordStale, hsubmitted,
      hstale]
    all_goals omega
  cases hpending : scheduler.pending with
  | none =>
    constructor
    all_goals simp [SchedulerMetrics.recordSubmitted, hsubmitted, hpending]
    all_goals omega
  | some pending =>
    simp only
    split
    · constructor
      all_goals simp [SchedulerMetrics.recordSubmitted, SchedulerMetrics.recordSuperseded,
        hsubmitted, hsuperseded, hpending]
      all_goals omega
    · constructor
      all_goals simp [SchedulerMetrics.recordSubmitted, SchedulerMetrics.recordSuperseded,
        hsubmitted, hsuperseded, hpending]
      all_goals omega

theorem poll_moves (hroom : scheduler.metrics.Unsaturated)
    (hslots : scheduler.metrics.pacingTicks + scheduler.metrics.skippedPacingTicks ≤
      scheduler.pacer.consumed) :
    scheduler.Moves (scheduler.poll now).2 := by
  have hpresented := countUp_one hroom.presented
  have hstale := countUp_one hroom.stale
  have hticks := countUp_one hroom.ticks
  have hidle := countUp_one hroom.idle
  rcases @FramePacer.poll_cases scheduler.pacer now with
    ⟨tick, hdue, hconsumed, -⟩ | ⟨hwait, hpacer⟩
  · -- A due slot: the skipped slots fit, since the pacer has no more than `2 ^ 64` of them.
    have hbound := (scheduler.pacer.poll now).2.consumed_le
    have hskipped : countUp scheduler.metrics.skippedPacingTicks tick.skipped =
        scheduler.metrics.skippedPacingTicks + tick.skipped :=
      saturatingSum_eq (by omega)
    rw [poll]
    cases hpoll : scheduler.pacer.poll now with | mk decision pacer =>
    rw [hpoll] at hdue hconsumed hbound
    cases hdue
    simp only at hconsumed ⊢
    cases hpending : scheduler.pending with
    | none =>
      constructor
      all_goals simp [SchedulerMetrics.recordPacingTick, SchedulerMetrics.recordIdleTick, hticks,
        hskipped, hidle, hpending]
      all_goals omega
    | some pending =>
      simp only
      split
      · constructor
        all_goals simp [SchedulerMetrics.recordPacingTick, SchedulerMetrics.recordIdleTick,
          SchedulerMetrics.recordStale, hticks, hskipped, hidle, hstale, hpending]
        all_goals omega
      split
      · constructor
        all_goals simp [SchedulerMetrics.recordPacingTick, SchedulerMetrics.recordIdleTick, hticks,
          hskipped, hidle, hpending]
        all_goals omega
      · constructor
        all_goals simp [SchedulerMetrics.recordPacingTick, SchedulerMetrics.recordPresented, hticks,
          hskipped, hpresented, hpending]
        all_goals omega
  · rw [poll]
    cases hpoll : scheduler.pacer.poll now with | mk decision pacer =>
    rw [hpoll] at hwait hpacer
    cases hpacer
    rcases hwait with ⟨deadline, rfl⟩ | rfl
    · constructor <;> rfl
    · constructor <;> rfl

end LatestFrameScheduler

/-- The windows account for every frame and every slot. -/
structure Diagnosed.Conserved (s : Diagnosed) : Prop where
  frames : s.total (·.submittedFrames) = s.total (·.presentedFrames) +
    s.total (·.droppedStaleFrames) + s.total (·.droppedSupersededFrames) +
    s.total (·.droppedOversizedFrames) + s.scheduler.pending.toList.length
  ticks : s.total (·.pacingTicks) = s.total (·.presentedFrames) + s.total (·.idlePacingTicks)
  slots : s.total (·.pacingTicks) + s.total (·.skippedPacingTicks) = s.scheduler.pacer.consumed

namespace Diagnosed

variable {s t : Diagnosed}

theorem conserved_start (config : SchedulerConfig) (streamOrigin : Duration) :
    (start config streamOrigin).Conserved := ⟨rfl, rfl, rfl⟩

theorem conserved_moves {scheduler : LatestFrameScheduler} (h : s.Conserved)
    (hmoves : s.scheduler.Moves scheduler) : Conserved { s with scheduler } := by
  obtain ⟨hframes, hticks, hslots⟩ := h
  obtain ⟨hframes', hticks', hslots'⟩ := hmoves
  simp only [total] at hframes hticks hslots
  constructor <;> simp only [total] <;> omega

theorem total_takeMetrics (counter : SchedulerMetrics → Nat)
    (hzero : counter .default = 0) : (s.call .takeMetrics).total counter = s.total counter := by
  simp only [call, LatestFrameScheduler.takeMetrics, total, List.map_append, List.map_cons,
    List.map_nil, List.sum_append, List.sum_cons, List.sum_nil, hzero, Nat.add_zero]

theorem conserved_call (h : s.Conserved) (hroom : s.scheduler.metrics.Unsaturated)
    (call : SchedulerCall) : (s.call call).Conserved := by
  cases call with
  | submit frame now => exact conserved_moves h (LatestFrameScheduler.submit_moves hroom)
  | poll now =>
    have hslots : s.scheduler.metrics.pacingTicks + s.scheduler.metrics.skippedPacingTicks ≤
        s.scheduler.pacer.consumed := by
      have hslots := h.slots
      simp only [total] at hslots
      omega
    exact conserved_moves h (LatestFrameScheduler.poll_moves hroom hslots)
  | takeMetrics =>
    constructor
    · rw [total_takeMetrics _ rfl, total_takeMetrics _ rfl, total_takeMetrics _ rfl,
        total_takeMetrics _ rfl, total_takeMetrics _ rfl]
      exact h.frames
    · rw [total_takeMetrics _ rfl, total_takeMetrics _ rfl, total_takeMetrics _ rfl]
      exact h.ticks
    · rw [total_takeMetrics _ rfl, total_takeMetrics _ rfl]
      exact h.slots

/-- Until a counter saturates, every sequence of calls conserves frames and ticks. -/
theorem scheduler_conserves {config : SchedulerConfig} {streamOrigin : Duration}
    {calls : List SchedulerCall}
    (hroom : machine.Admits (fun s _ => s.scheduler.metrics.Unsaturated)
      (start config streamOrigin) calls)
    (hrun : machine.run (start config streamOrigin) calls = some s) :
    s.total (·.submittedFrames) = s.total (·.presentedFrames) +
        s.total (·.droppedStaleFrames) + s.total (·.droppedSupersededFrames) +
        s.total (·.droppedOversizedFrames) + (if s.scheduler.pending.isSome then 1 else 0) ∧
      s.total (·.pacingTicks) = s.total (·.presentedFrames) + s.total (·.idlePacingTicks) ∧
      s.total (·.pacingTicks) + s.total (·.skippedPacingTicks) =
        s.scheduler.pacer.nextTick.getD (2 ^ 64) := by
  have hconserved : s.Conserved := by
    apply machine.run_invariant_of_admits (fun s _ => s.scheduler.metrics.Unsaturated) Conserved ?_
      (conserved_start config streamOrigin) hroom hrun
    intro before call after hbefore hguard hstep
    cases hstep
    exact conserved_call hbefore hguard call
  refine ⟨?_, hconserved.ticks, hconserved.slots⟩
  rw [hconserved.frames]
  cases s.scheduler.pending with
  | none => rfl
  | some pending => rfl

/-- A scheduler at 30 Hz that keeps frames of up to a kibibyte for 100 ms. -/
def thirtyHertz : SchedulerConfig where
  frameRate := ⟨30, 1, by decide, by decide⟩
  maxFrameAge := .fromMillis 100
  maxFrameBytes := 1024
  maxFrameBytes_ne := by decide

/-- A frame of the 30 Hz timeline. -/
def frameAt (sequence : UInt64) (payload : Bytes) : MediaFrame where
  metadata :=
    { sequence
      captureTime := thirtyHertz.frameRate.timestamp sequence.toNat
      presentationTime := thirtyHertz.frameRate.timestamp sequence.toNat
      duration := thirtyHertz.frameRate.frameDuration sequence.toNat
      kind := .delta
      format := ⟨⟨1920, 1080, by decide, by decide⟩, thirtyHertz.frameRate⟩ }
  payload

/-- Two windows: a frame is replaced and its successor dispatched, then one frame stays pending. -/
def twoWindows : List SchedulerCall :=
  [.submit (frameAt 0 []) (.fromMillis 0), .submit (frameAt 1 []) (.fromMillis 1),
    .poll (.fromMillis 34), .takeMetrics, .submit (frameAt 4 []) (.fromMillis 60),
    .poll (.fromMillis 70)]

theorem scheduler_conserves_twoWindows : ∃ s,
    machine.run (start thirtyHertz (.fromMillis 0)) twoWindows = some s ∧
      s.total (·.submittedFrames) = 3 ∧ s.total (·.presentedFrames) = 1 ∧
      s.total (·.submittedFrames) = s.total (·.presentedFrames) +
        s.total (·.droppedStaleFrames) + s.total (·.droppedSupersededFrames) +
        s.total (·.droppedOversizedFrames) + (if s.scheduler.pending.isSome then 1 else 0) := by
  refine ⟨_, rfl, by decide +kernel, by decide +kernel, ?_⟩
  exact (@scheduler_conserves _ thirtyHertz (.fromMillis 0) twoWindows (by decide +kernel) rfl).1

end Diagnosed

end LadoFlow.Media
