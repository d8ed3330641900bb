import Mathlib.Data.Prod.Lex
import LadoFlow.Media.Metadata

/-!
# Pacing and the one-frame queue

A pacer selects slots of the frame timeline, and a scheduler keeps the newest frame until a slot is
due. Tick indices and counters are natural numbers that stay in the range of `u64`.
-/

namespace LadoFlow.Media

open Framework LadoFlow.Core

structure PacingTick where
  index : Nat
  deadline : Duration
  skipped : Nat
  deriving DecidableEq, Repr

inductive PaceDecision where
  | due (tick : PacingTick)
  | waitUntil (deadline : Duration)
  | exhausted
  deriving DecidableEq, Repr

structure FramePacer where
  frameRate : FrameRate
  origin : Duration
  nextTick : Option Nat
  nextTick_le : ∀ tick, nextTick = some tick → tick ≤ u64Max
  deriving DecidableEq

namespace FramePacer

theorem zero_le_u64Max : ∀ tick, some 0 = some tick → tick ≤ u64Max := by
  intro tick h
  cases h
  exact Nat.zero_le _

def new (frameRate : FrameRate) (origin : Duration) : FramePacer :=
  ⟨frameRate, origin, some 0, zero_le_u64Max⟩

variable (pacer : FramePacer)

def deadline (tick : Nat) : Duration :=
  pacer.origin.saturatingAdd (pacer.frameRate.timestamp tick)

def nextDeadline : Option Duration := pacer.nextTick.map pacer.deadline

/-- `checked_add(1)` -/
def following (tick : Nat) : Option Nat := if tick < u64Max then some (tick + 1) else none

theorem following_le {tick : Nat} : ∀ next, following tick = some next → next ≤ u64Max := by
  intro next h
  rw [following] at h
  split at h
  · cases h
    assumption
  · cases h

def poll (now : Duration) : PaceDecision × FramePacer :=
  match pacer.nextTick with
  | none => (.exhausted, pacer)
  | some nextTick =>
    let nextDeadline := pacer.deadline nextTick
    if now.nanos < nextDeadline.nanos then (.waitUntil nextDeadline, pacer)
    else
    let elapsed := now.saturatingSub pacer.origin
    let dueTick := Nat.max (pacer.frameRate.frameAtOrBefore elapsed) nextTick
    (.due ⟨dueTick, pacer.deadline dueTick, dueTick - nextTick⟩,
      { pacer with nextTick := following dueTick, nextTick_le := following_le })

/-- The slots that were consumed: the next tick index, or all of them. -/
def consumed : Nat := pacer.nextTick.getD (u64Max + 1)

theorem consumed_le : pacer.consumed ≤ u64Max + 1 := by
  rw [consumed]
  cases htick : pacer.nextTick with
  | none => exact Nat.le_refl _
  | some tick => exact Nat.le_succ_of_le (pacer.nextTick_le tick htick)

variable {pacer} {now : Duration}

/-- Only a due slot moves the pacer, past that slot and the ones it skips. -/
theorem poll_cases :
    (∃ tick, (pacer.poll now).1 = .due tick ∧
      (pacer.poll now).2.consumed = pacer.consumed + tick.skipped + 1 ∧
      (pacer.poll now).2.consumed = tick.index + 1) ∨
    ((∃ deadline, (pacer.poll now).1 = .waitUntil deadline) ∨ (pacer.poll now).1 = .exhausted) ∧
      (pacer.poll now).2 = pacer := by
  rw [poll]
  split
  · exact .inr ⟨.inr rfl, rfl⟩
  · rename_i nextTick htick
    by_cases hnow : now.nanos < (pacer.deadline nextTick).nanos
    · simp only [if_pos hnow]
      exact .inr ⟨.inl ⟨_, rfl⟩, trivial⟩
    · simp only [if_neg hnow]
      left
      have hnext := pacer.nextTick_le nextTick htick
      have hframe := pacer.frameRate.frameAtOrBefore_le (now.saturatingSub pacer.origin)
      have hconsumed : pacer.consumed = nextTick := by rw [consumed, htick]; rfl
      generalize pacer.frameRate.frameAtOrBefore (now.saturatingSub pacer.origin) = frame at hframe
      have hdue : frame.max nextTick ≤ u64Max := Nat.max_le.mpr ⟨hframe, hnext⟩
      have hge : nextTick ≤ frame.max nextTick := Nat.le_max_right _ _
      have hafter : (following (frame.max nextTick)).getD (u64Max + 1) =
          frame.max nextTick + 1 := by
        rw [following]
        by_cases hlt : frame.max nextTick < u64Max
        · rw [if_pos hlt, Option.getD_some]
        · rw [if_neg hlt, Option.getD_none]
          omega
      refine ⟨_, rfl, ?_, hafter⟩
      rw [hconsumed]
      refine hafter.trans ?_
      simp only
      omega

end FramePacer

inductive SchedulerConfigError where
  | zeroFrameByteLimit
  deriving DecidableEq, Repr

structure SchedulerConfig where
  frameRate : FrameRate
  maxFrameAge : Duration
  maxFrameBytes : Nat
  maxFrameBytes_ne : maxFrameBytes ≠ 0
  deriving DecidableEq, Repr

def SchedulerConfig.new (frameRate : FrameRate) (maxFrameAge : Duration) (maxFrameBytes : Nat) :
    Except SchedulerConfigError SchedulerConfig :=
  if h : maxFrameBytes = 0 then .error .zeroFrameByteLimit
  else .ok ⟨frameRate, maxFrameAge, maxFrameBytes, h⟩

inductive SubmitOutcome where
  | queued
  | replaced (droppedSequence : UInt64)
  | droppedStale (sequence : UInt64)
  | droppedSuperseded (sequence keptSequence : UInt64)
  | droppedOversized (sequence : UInt64) (payloadBytes limit : Nat)
  deriving DecidableEq, Repr

inductive IdleReason where
  | queueEmpty
  | frameNotDue
  deriving DecidableEq, Repr

structure ScheduledFrame where
  frame : MediaFrame
  pacingTick : PacingTick
  queueTime : Duration
  pacingLateness : Duration
  frameLatency : Duration
  deriving DecidableEq, Repr

inductive PollOutcome where
  | ready (scheduled : ScheduledFrame)
  | waitingUntil (deadline : Duration)
  | idle (tick : PacingTick) (reason : IdleReason)
  | droppedStale (sequence : UInt64) (tick : PacingTick)
  | exhausted
  deriving DecidableEq, Repr

structure SchedulerMetrics where
  submittedFrames : Nat
  presentedFrames : Nat
  droppedStaleFrames : Nat
  droppedSupersededFrames : Nat
  droppedOversizedFrames : Nat
  pacingTicks : Nat
  skippedPacingTicks : Nat
  idlePacingTicks : Nat
  totalQueueTime : Duration
  maxQueueTime : Duration
  totalPacingLateness : Duration
  maxPacingLateness : Duration
  totalFrameLatency : Duration
  maxFrameLatency : Duration
  deriving DecidableEq, Repr

/-- `saturating_add` on a `u64` counter. -/
def countUp (counter more : Nat) : Nat := saturatingSum u64Max counter more

namespace SchedulerMetrics

def default : SchedulerMetrics :=
  let zero : Duration := .ofNanos 0
  ⟨0, 0, 0, 0, 0, 0, 0, 0, zero, zero, zero, zero, zero, zero⟩

variable (metrics : SchedulerMetrics)

def recordSubmitted : SchedulerMetrics :=
  { metrics with submittedFrames := countUp metrics.submittedFrames 1 }

def recordStale : SchedulerMetrics :=
  { metrics with droppedStaleFrames := countUp metrics.droppedStaleFrames 1 }

def recordSuperseded : SchedulerMetrics :=
  { metrics with droppedSupersededFrames := countUp metrics.droppedSupersededFrames 1 }

def recordOversized : SchedulerMetrics :=
  { metrics with droppedOversizedFrames := countUp metrics.droppedOversizedFrames 1 }

def recordPacingTick (tick : PacingTick) : SchedulerMetrics :=
  { metrics with
    pacingTicks := countUp metrics.pacingTicks 1
    skippedPacingTicks := countUp metrics.skippedPacingTicks tick.skipped }

def recordIdleTick : SchedulerMetrics :=
  { metrics with idlePacingTicks := countUp metrics.idlePacingTicks 1 }

def recordPresented (queueTime pacingLateness frameLatency : Duration) : SchedulerMetrics :=
  { metrics with
    presentedFrames := countUp metrics.presentedFrames 1
    totalQueueTime := metrics.totalQueueTime.saturatingAdd queueTime
    maxQueueTime := metrics.maxQueueTime.maximum queueTime
    totalPacingLateness := metrics.totalPacingLateness.saturatingAdd pacingLateness
    maxPacingLateness := metrics.maxPacingLateness.maximum pacingLateness
    totalFrameLatency := metrics.totalFrameLatency.saturatingAdd frameLatency
    maxFrameLatency := metrics.maxFrameLatency.maximum frameLatency }

end SchedulerMetrics

structure PendingFrame where
  frame : MediaFrame
  enqueuedAt : Duration
  deriving DecidableEq, Repr

/-- Presentation time first, then the sequence. -/
def frameOrder (metadata : FrameMetadata) : Nat ×ₗ Nat :=
  toLex (metadata.presentationTime.nanos, metadata.sequence.toNat)

structure LatestFrameScheduler where
  config : SchedulerConfig
  streamOrigin : Duration
  pacer : FramePacer
  pending : Option PendingFrame
  metrics : SchedulerMetrics
  deriving DecidableEq

namespace LatestFrameScheduler

def new (config : SchedulerConfig) (streamOrigin : Duration) : LatestFrameScheduler :=
  ⟨config, streamOrigin, .new config.frameRate streamOrigin, none, .default⟩

variable (scheduler : LatestFrameScheduler)

def absoluteTime (streamTime : Duration) : Duration :=
  scheduler.streamOrigin.saturatingAdd streamTime

def isStale (metadata : FrameMetadata) (now : Duration) : Bool :=
  let staleAfter := (scheduler.absoluteTime metadata.presentationTime).saturatingAdd
    scheduler.config.maxFrameAge
  now.nanos > staleAfter.nanos

/-- Reset the diagnostic window and return its values. -/
def takeMetrics : SchedulerMetrics × LatestFrameScheduler :=
  (scheduler.metrics, { scheduler with metrics := .default })

def submit (frame : MediaFrame) (now : Duration) : SubmitOutcome × LatestFrameScheduler :=
  let metrics := scheduler.metrics.recordSubmitted
  let sequence := frame.metadata.sequence
  let payloadBytes := frame.payload.length
  if payloadBytes > scheduler.config.maxFrameBytes then
    (.droppedOversized sequence payloadBytes scheduler.config.maxFrameBytes,
      { scheduler with metrics := metrics.recordOversized })
  else if scheduler.isStale frame.metadata now then
    (.droppedStale sequence, { scheduler with metrics := metrics.recordStale })
  else
  match scheduler.pending with
  | some pending =>
    if frameOrder frame.metadata ≤ frameOrder pending.frame.metadata then
      (.droppedSuperseded sequence pending.frame.metadata.sequence,
        { scheduler with metrics := metrics.recordSuperseded })
    else
      (.replaced pending.frame.metadata.sequence,
        { scheduler with pending := some ⟨frame, now⟩, metrics := metrics.recordSuperseded })
  | none => (.queued, { scheduler with pending := some ⟨frame, now⟩, metrics })

def poll (now : Duration) : PollOutcome × LatestFrameScheduler :=
  match scheduler.pacer.poll now with
  | (.waitUntil deadline, pacer) => (.waitingUntil deadline, { scheduler with pacer })
  | (.exhausted, pacer) => (.exhausted, { scheduler with pacer })
  | (.due tick, pacer) =>
    let metrics := scheduler.metrics.recordPacingTick tick
    match scheduler.pending with
    | none => (.idle tick .queueEmpty, { scheduler with pacer, metrics := metrics.recordIdleTick })
    | some pending =>
      let metadata := pending.frame.metadata
      if scheduler.isStale metadata now then
        (.droppedStale metadata.sequence tick,
          { scheduler with
            pacer
            pending := none
            metrics := metrics.recordStale.recordIdleTick })
      else
      let presentationTarget := scheduler.absoluteTime metadata.presentationTime
      if now.nanos < presentationTarget.nanos then
        (.idle tick .frameNotDue, { scheduler with pacer, metrics := metrics.recordIdleTick })
      else
      let queueTime := now.saturatingSub pending.enqueuedAt
      let pacingLateness := now.saturatingSub tick.deadline
      let frameLatency := now.saturatingSub (scheduler.absoluteTime metadata.captureTime)
      (.ready ⟨pending.frame, tick, queueTime, pacingLateness, frameLatency⟩,
        { scheduler with
          pacer
          pending := none
          metrics := metrics.recordPresented queueTime pacingLateness frameLatency })

end LatestFrameScheduler

end LadoFlow.Media
