import LadoFlow.Media.PresentationOrder

/-!
# What the scheduler dispatches

Over any sequence of calls, each dispatched frame was submitted, leaves once, and leaves within its
window. The pending frame is the newest acceptable one since the slot was last emptied.
-/

namespace LadoFlow.Media

open Framework LadoFlow.Core

/-- A scheduler with the frames submitted to it, the acceptable ones since its slot was last emptied,
and the dispatched ones with the times of their dispatch. -/
structure Watched where
  scheduler : LatestFrameScheduler
  submitted : List MediaFrame
  eligible : List MediaFrame
  dispatched : List (MediaFrame × Duration)

namespace Watched

open Presented (Acceptable submit_effect poll_effect)

def start (config : SchedulerConfig) (streamOrigin : Duration) : Watched :=
  ⟨.new config streamOrigin, [], [], []⟩

instance (scheduler : LatestFrameScheduler) (frame : MediaFrame) (now : Duration) :
    Decidable (Acceptable scheduler frame now) := by
  unfold Acceptable
  infer_instance

def submit (s : Watched) (frame : MediaFrame) (now : Duration) : Watched :=
  { s with
    scheduler := (s.scheduler.submit frame now).2
    submitted := s.submitted ++ [frame]
    eligible := if Acceptable s.scheduler frame now then s.eligible ++ [frame] else s.eligible }

def poll (s : Watched) (now : Duration) : Watched :=
  let scheduler := (s.scheduler.poll now).2
  match (s.scheduler.poll now).1 with
  | .ready scheduled =>
    { s with scheduler, eligible := [], dispatched := s.dispatched ++ [(scheduled.frame, now)] }
  | .droppedStale _ _ => { s with scheduler, eligible := [] }
  | _ => { s with scheduler }

def call (s : Watched) : SchedulerCall → Watched
  | .submit frame now => s.submit frame now
  | .poll now => s.poll now
  | .takeMetrics => { s with scheduler := s.scheduler.takeMetrics.2 }

def machine : Machine Watched SchedulerCall := ⟨fun s call => some (s.call call)⟩

/-- The frame fits and leaves between its presentation time and the end of its age, where these are
below the longest duration. -/
def InWindow (config : SchedulerConfig) (streamOrigin : Duration)
    (entry : MediaFrame × Duration) : Prop :=
  let target := streamOrigin.nanos + entry.1.metadata.presentationTime.nanos
  entry.1.payload.length ≤ config.maxFrameBytes ∧
    (target ≤ Duration.maxNanos → target ≤ entry.2.nanos) ∧
    entry.2.nanos ≤ target + config.maxFrameAge.nanos

/-- The pending frame is the newest of these; nothing is pending when there are none. -/
def Newest (pending : Option PendingFrame) (eligible : List MediaFrame) : Prop :=
  match pending with
  | none => eligible = []
  | some pending => pending.frame ∈ eligible ∧
      ∀ frame ∈ eligible, frameOrder frame.metadata ≤ frameOrder pending.frame.metadata

/-- The dispatched frames and the pending one, in the order in which they leave. -/
def line (s : Watched) : List MediaFrame :=
  s.dispatched.map (·.1) ++ s.scheduler.pending.toList.map (·.frame)

structure Safe (config : SchedulerConfig) (streamOrigin : Duration) (s : Watched) : Prop where
  config_eq : s.scheduler.config = config
  origin_eq : s.scheduler.streamOrigin = streamOrigin
  line : s.line.Sublist s.submitted
  fits : ∀ pending, s.scheduler.pending = some pending →
    pending.frame.payload.length ≤ config.maxFrameBytes
  window : ∀ entry ∈ s.dispatched, InWindow config streamOrigin entry
  newest : Newest s.scheduler.pending s.eligible

variable {config : SchedulerConfig} {streamOrigin : Duration} {s t : Watched}

theorem submit_settings (scheduler : LatestFrameScheduler) (frame : MediaFrame) (now : Duration) :
    (scheduler.submit frame now).2.config = scheduler.config ∧
      (scheduler.submit frame now).2.streamOrigin = scheduler.streamOrigin := by
  rw [LatestFrameScheduler.submit]
  split
  · exact ⟨rfl, rfl⟩
  split
  · exact ⟨rfl, rfl⟩
  cases scheduler.pending with
  | none => exact ⟨rfl, rfl⟩
  | some pending =>
    simp only
    split
    · exact ⟨rfl, rfl⟩
    · exact ⟨rfl, rfl⟩

theorem poll_settings (scheduler : LatestFrameScheduler) (now : Duration) :
    (scheduler.poll now).2.config = scheduler.config ∧
      (scheduler.poll now).2.streamOrigin = scheduler.streamOrigin := by
  rw [LatestFrameScheduler.poll]
  cases scheduler.pacer.poll now with | mk decision pacer =>
  cases decision with
  | waitUntil deadline => exact ⟨rfl, rfl⟩
  | exhausted => exact ⟨rfl, rfl⟩
  | due tick =>
    cases scheduler.pending with
    | none => exact ⟨rfl, rfl⟩
    | some pending =>
      simp only
      by_cases hstale : scheduler.isStale pending.frame.metadata now = true
      · rw [if_pos hstale]
        exact ⟨rfl, rfl⟩
      rw [if_neg hstale]
      by_cases hearly : now.nanos <
          (scheduler.absoluteTime pending.frame.metadata.presentationTime).nanos
      · rw [if_pos hearly]
        exact ⟨rfl, rfl⟩
      · rw [if_neg hearly]
        exact ⟨rfl, rfl⟩

/-- A frame that is due and not stale leaves in its window. -/
theorem inWindow_of_due {frame : MediaFrame} {now : Duration}
    (hfits : frame.payload.length ≤ s.scheduler.config.maxFrameBytes)
    (hfresh : s.scheduler.isStale frame.metadata now = false)
    (hdue : (s.scheduler.absoluteTime frame.metadata.presentationTime).nanos ≤ now.nanos) :
    InWindow s.scheduler.config s.scheduler.streamOrigin (frame, now) := by
  have htarget : (s.scheduler.absoluteTime frame.metadata.presentationTime).nanos =
      Nat.min (s.scheduler.streamOrigin.nanos + frame.metadata.presentationTime.nanos)
        Duration.maxNanos := rfl
  have hstaleAfter : now.nanos ≤
      Nat.min ((s.scheduler.absoluteTime frame.metadata.presentationTime).nanos +
        s.scheduler.config.maxFrameAge.nanos) Duration.maxNanos := by
    rw [LatestFrameScheduler.isStale] at hfresh
    exact Nat.le_of_not_lt (of_decide_eq_false hfresh)
  refine ⟨hfits, ?_, ?_⟩
  · intro hrange
    simp only
    rw [htarget] at hdue
    exact Nat.le_trans (Nat.le_min.mpr ⟨Nat.le_refl _, hrange⟩) hdue
  · have hbefore := Nat.le_trans hstaleAfter (Nat.min_le_left _ _)
    rw [htarget] at hbefore
    exact Nat.le_trans hbefore (Nat.add_le_add_right (Nat.min_le_left _ _) _)

theorem newest_snoc_older {queued : PendingFrame} {eligible : List MediaFrame} {frame : MediaFrame}
    (h : Newest (some queued) eligible)
    (hle : frameOrder frame.metadata ≤ frameOrder queued.frame.metadata) :
    Newest (some queued) (eligible ++ [frame]) := by
  refine ⟨List.mem_append_left _ h.1, ?_⟩
  intro other hother
  rcases List.mem_append.mp hother with hother | hother
  · exact h.2 other hother
  · rw [List.mem_singleton.mp hother]
    exact hle

theorem newest_snoc_newer {pending : Option PendingFrame} {eligible : List MediaFrame}
    {frame : MediaFrame} {now : Duration} (h : Newest pending eligible)
    (hnewer : ∀ queued, pending = some queued →
      frameOrder queued.frame.metadata < frameOrder frame.metadata) :
    Newest (some ⟨frame, now⟩) (eligible ++ [frame]) := by
  refine ⟨List.mem_append_right _ (List.mem_singleton_self _), ?_⟩
  intro other hother
  rcases List.mem_append.mp hother with hother | hother
  · cases pending with
    | none =>
      rw [show eligible = [] from h] at hother
      cases hother
    | some queued => exact Std.le_trans (h.2 other hother) (hnewer queued rfl).le
  · rw [List.mem_singleton.mp hother]

theorem safe_submit (h : s.Safe config streamOrigin) (frame : MediaFrame) (now : Duration) :
    (s.submit frame now).Safe config streamOrigin := by
  obtain ⟨hconfig, horigin⟩ := submit_settings s.scheduler frame now
  have hdispatched : (s.dispatched.map (·.1)).Sublist s.submitted :=
    (List.sublist_append_left _ _).trans h.line
  rcases submit_effect s.scheduler frame now with
    ⟨hdropped, hsame⟩ | ⟨hok, ⟨queued, hqueued, hle⟩, hsame⟩ | ⟨hok, hnewer, hnow⟩
  · refine ⟨hconfig.trans h.config_eq, horigin.trans h.origin_eq, ?_, ?_, h.window, ?_⟩
    · rw [line, submit, hsame]
      exact h.line.trans (List.sublist_append_left _ _)
    · rw [submit, hsame]
      exact h.fits
    · simp only [submit, hsame, if_neg hdropped]
      exact h.newest
  · refine ⟨hconfig.trans h.config_eq, horigin.trans h.origin_eq, ?_, ?_, h.window, ?_⟩
    · rw [line, submit, hsame]
      exact h.line.trans (List.sublist_append_left _ _)
    · rw [submit, hsame]
      exact h.fits
    · have hnewest := h.newest
      rw [hqueued] at hnewest
      simp only [submit, hsame, if_pos hok, hqueued]
      exact newest_snoc_older hnewest hle
  · refine ⟨hconfig.trans h.config_eq, horigin.trans h.origin_eq, ?_, ?_, h.window, ?_⟩
    · rw [line, submit, hnow]
      exact hdispatched.append (List.Sublist.refl _)
    · rw [submit, hnow]
      intro pending hpending
      cases hpending
      rw [← h.config_eq]
      exact hok.1
    · simp only [submit, hnow, if_pos hok]
      exact newest_snoc_newer h.newest hnewer

theorem safe_poll (h : s.Safe config streamOrigin) (now : Duration) :
    (s.poll now).Safe config streamOrigin := by
  obtain ⟨hconfig, horigin⟩ := poll_settings s.scheduler now
  have hdispatched : (s.dispatched.map (·.1)).Sublist s.submitted :=
    (List.sublist_append_left _ _).trans h.line
  rcases poll_effect s.scheduler now with
    ⟨scheduled, queued, hready, hqueued, hframe, hfresh, hdue, hempty⟩ |
      ⟨⟨sequence, tick, hstale⟩, hempty⟩ | ⟨hready, hstale, hsame⟩
  · have hpoll : s.poll now = ⟨(s.scheduler.poll now).2, s.submitted, [],
        s.dispatched ++ [(queued.frame, now)]⟩ := by
      rw [poll, hready, ← hframe]
    have hfits : queued.frame.payload.length ≤ s.scheduler.config.maxFrameBytes := by
      rw [h.config_eq]
      exact h.fits queued hqueued
    rw [hpoll]
    refine ⟨hconfig.trans h.config_eq, horigin.trans h.origin_eq, ?_, ?_, ?_, ?_⟩
    · have hline := h.line
      rw [line, hqueued] at hline
      rw [line, hempty, List.map_append]
      simpa using hline
    · rw [hempty]
      intro pending hpending
      cases hpending
    · intro entry hentry
      rcases List.mem_append.mp hentry with hentry | hentry
      · exact h.window entry hentry
      · rw [List.mem_singleton.mp hentry, ← h.config_eq, ← h.origin_eq]
        exact inWindow_of_due hfits hfresh hdue
    · rw [hempty]
      rfl
  · have hpoll : s.poll now = ⟨(s.scheduler.poll now).2, s.submitted, [], s.dispatched⟩ := by
      rw [poll, hstale]
    rw [hpoll]
    refine ⟨hconfig.trans h.config_eq, horigin.trans h.origin_eq, ?_, ?_, h.window, ?_⟩
    · rw [line, hempty]
      simpa using hdispatched
    · rw [hempty]
      intro pending hpending
      cases hpending
    · rw [hempty]
      rfl
  · have hpoll : s.poll now =
        ⟨(s.scheduler.poll now).2, s.submitted, s.eligible, s.dispatched⟩ := by
      rw [poll]
      cases houtcome : (s.scheduler.poll now).1 with
      | ready scheduled => exact absurd houtcome (hready scheduled)
      | droppedStale sequence tick => exact absurd houtcome (hstale sequence tick)
      | _ => rfl
    rw [hpoll]
    refine ⟨hconfig.trans h.config_eq, horigin.trans h.origin_eq, ?_, ?_, h.window, ?_⟩
    · rw [line, hsame]
      exact h.line
    · rw [hsame]
      exact h.fits
    · rw [hsame]
      exact h.newest

theorem safe_call (h : s.Safe config streamOrigin) (call : SchedulerCall) :
    (s.call call).Safe config streamOrigin := by
  cases call with
  | submit frame now => exact safe_submit h frame now
  | poll now => exact safe_poll h now
  | takeMetrics => exact ⟨h.config_eq, h.origin_eq, h.line, h.fits, h.window, h.newest⟩

theorem safe_run {calls : List SchedulerCall}
    (hrun : machine.run (start config streamOrigin) calls = some s) :
    s.Safe config streamOrigin := by
  have hstart : (start config streamOrigin).Safe config streamOrigin :=
    ⟨rfl, rfl, List.Sublist.refl _, by simp [start, LatestFrameScheduler.new],
      List.forall_mem_nil _, rfl⟩
  apply machine.run_invariant (Safe config streamOrigin) ?_ hstart hrun
  intro before call after hbefore hstep
  cases hstep
  exact safe_call hbefore call

/-- The dispatched frames are a subsequence of the submitted ones and leave in their windows, the
pending frame is the newest acceptable one since the slot was last emptied, and increasing submissions
are dispatched in increasing order. -/
theorem dispatch_safe {calls : List SchedulerCall}
    (hrun : machine.run (start config streamOrigin) calls = some s) :
    (s.dispatched.map (·.1)).Sublist s.submitted ∧
      (∀ entry ∈ s.dispatched, InWindow config streamOrigin entry) ∧
      Newest s.scheduler.pending s.eligible ∧
      (s.submitted.Pairwise (fun a b => frameOrder a.metadata < frameOrder b.metadata) →
        (s.dispatched.map (·.1)).Pairwise
          fun a b => frameOrder a.metadata < frameOrder b.metadata) := by
  have hsafe := safe_run hrun
  have hsublist : (s.dispatched.map (·.1)).Sublist s.submitted :=
    (List.sublist_append_left _ _).trans hsafe.line
  exact ⟨hsublist, hsafe.window, hsafe.newest, fun hincreasing => hincreasing.sublist hsublist⟩

/-- A frame is replaced, its successor waits for its time and leaves, and a stale one is dropped. -/
def replacedThenStale : List SchedulerCall :=
  [.submit (Diagnosed.frameAt 0 []) (.fromMillis 0), .submit (Diagnosed.frameAt 1 []) (.fromMillis 1),
    .poll (.fromMillis 2), .poll (.fromMillis 40), .submit (Diagnosed.frameAt 2 []) (.fromMillis 70),
    .poll (.fromMillis 500)]

theorem dispatch_safe_replacedThenStale : ∃ s,
    machine.run (start Diagnosed.thirtyHertz (.fromMillis 0)) replacedThenStale = some s ∧
      s.dispatched = [(Diagnosed.frameAt 1 [], .fromMillis 40)] ∧ s.eligible = [] ∧
      (s.dispatched.map (·.1)).Sublist s.submitted ∧
      (∀ entry ∈ s.dispatched, InWindow Diagnosed.thirtyHertz (.fromMillis 0) entry) ∧
      Newest s.scheduler.pending s.eligible := by
  refine ⟨_, rfl, by decide +kernel, by decide +kernel, ?_⟩
  have hsafe := @dispatch_safe Diagnosed.thirtyHertz (.fromMillis 0) _ replacedThenStale rfl
  exact ⟨hsafe.1, hsafe.2.1, hsafe.2.2.1⟩

end Watched

end LadoFlow.Media
