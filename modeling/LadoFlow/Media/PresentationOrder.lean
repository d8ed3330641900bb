import LadoFlow.Media.SchedulerLedger

/-!
# The order of the dispatched frames

Newer than is decided against the queued frame. While a frame is queued, only newer frames take its
place; a frame that enters the empty queue is compared with nothing.
-/

namespace LadoFlow.Media

open Framework LadoFlow.Core

/-- A scheduler and the frames that it has dispatched. -/
structure Presented where
  scheduler : LatestFrameScheduler
  dispatched : List MediaFrame

namespace Presented

def start (config : SchedulerConfig) (streamOrigin : Duration) : Presented :=
  ⟨.new config streamOrigin, []⟩

def outcome (s : Presented) (outcome : PollOutcome) (scheduler : LatestFrameScheduler) :
    Presented :=
  match outcome with
  | .ready scheduled => ⟨scheduler, s.dispatched ++ [scheduled.frame]⟩
  | _ => { s with scheduler }

def call (s : Presented) : SchedulerCall → Presented
  | .submit frame now => { s with scheduler := (s.scheduler.submit frame now).2 }
  | .poll now => s.outcome (s.scheduler.poll now).1 (s.scheduler.poll now).2
  | .takeMetrics => { s with scheduler := s.scheduler.takeMetrics.2 }

def machine : Machine Presented SchedulerCall := ⟨fun s call => some (s.call call)⟩

/-- The scheduler would queue the frame if nothing else were queued. -/
def Acceptable (scheduler : LatestFrameScheduler) (frame : MediaFrame) (now : Duration) : Prop :=
  frame.payload.length ≤ scheduler.config.maxFrameBytes ∧
    scheduler.isStale frame.metadata now = false

/-- A frame that enters the empty queue is newer than every frame dispatched before. -/
def EntersNewer (s : Presented) : SchedulerCall → Prop
  | .submit frame now => s.scheduler.pending = none → Acceptable s.scheduler frame now →
    ∀ sent ∈ s.dispatched, frameOrder sent.metadata < frameOrder frame.metadata
  | _ => True

instance (s : Presented) (call : SchedulerCall) : Decidable (s.EntersNewer call) := by
  unfold EntersNewer Acceptable
  split <;> infer_instance

/-- The dispatched frames and the queued one, in the order in which they leave. -/
def line (s : Presented) : List MediaFrame :=
  s.dispatched ++ s.scheduler.pending.toList.map (·.frame)

def Ordered (s : Presented) : Prop :=
  s.line.Pairwise fun a b => frameOrder a.metadata < frameOrder b.metadata

variable {s t : Presented}

/-- Everything that a submission can do to the queue. -/
theorem submit_effect (scheduler : LatestFrameScheduler) (frame : MediaFrame) (now : Duration) :
    ¬Acceptable scheduler frame now ∧
        (scheduler.submit frame now).2.pending = scheduler.pending ∨
      Acceptable scheduler frame now ∧ (∃ queued, scheduler.pending = some queued ∧
          frameOrder frame.metadata ≤ frameOrder queued.frame.metadata) ∧
        (scheduler.submit frame now).2.pending = scheduler.pending ∨
      Acceptable scheduler frame now ∧ (∀ queued, scheduler.pending = some queued →
          frameOrder queued.frame.metadata < frameOrder frame.metadata) ∧
        (scheduler.submit frame now).2.pending = some ⟨frame, now⟩ := by
  generalize hresult : scheduler.submit frame now = result
  rw [LatestFrameScheduler.submit] at hresult
  by_cases hsize : frame.payload.length > scheduler.config.maxFrameBytes
  · rw [if_pos hsize] at hresult
    cases hresult
    exact .inl ⟨fun h => Nat.not_le_of_lt hsize h.1, rfl⟩
  by_cases hstale : scheduler.isStale frame.metadata now = true
  · rw [if_neg hsize, if_pos hstale] at hresult
    cases hresult
    exact .inl ⟨fun h => Bool.false_ne_true (h.2.symm.trans hstale), rfl⟩
  rw [if_neg hsize, if_neg hstale] at hresult
  have hacceptable : Acceptable scheduler frame now :=
    ⟨Nat.le_of_not_lt hsize, eq_false_of_ne_true hstale⟩
  right
  cases hpending : scheduler.pending with
  | none =>
    rw [hpending] at hresult
    cases hresult
    exact .inr ⟨hacceptable, by simp, rfl⟩
  | some queued =>
    rw [hpending] at hresult
    by_cases hle : frameOrder frame.metadata ≤ frameOrder queued.frame.metadata
    · simp only [if_pos hle] at hresult
      cases hresult
      exact .inl ⟨hacceptable, ⟨queued, rfl, hle⟩, rfl⟩
    · simp only [if_neg hle] at hresult
      cases hresult
      refine .inr ⟨hacceptable, ?_, rfl⟩
      intro other hother
      cases hother
      exact lt_of_not_ge hle

/-- What a submission does to the queue. -/
theorem submit_pending (scheduler : LatestFrameScheduler) (frame : MediaFrame) (now : Duration) :
    (scheduler.submit frame now).2.pending = scheduler.pending ∨
      (scheduler.submit frame now).2.pending = some ⟨frame, now⟩ ∧
        Acceptable scheduler frame now ∧
        ∀ queued, scheduler.pending = some queued →
          frameOrder queued.frame.metadata < frameOrder frame.metadata := by
  rcases submit_effect scheduler frame now with ⟨-, hsame⟩ | ⟨-, -, hsame⟩ | ⟨hok, hnewer, hqueued⟩
  · exact .inl hsame
  · exact .inl hsame
  · exact .inr ⟨hqueued, hok, hnewer⟩

/-- Everything that a poll can do to the queue. A frame is dispatched when it is due and not stale. -/
theorem poll_effect (scheduler : LatestFrameScheduler) (now : Duration) :
    (∃ scheduled queued, (scheduler.poll now).1 = .ready scheduled ∧
      scheduler.pending = some queued ∧ scheduled.frame = queued.frame ∧
      scheduler.isStale queued.frame.metadata now = false ∧
      (scheduler.absoluteTime queued.frame.metadata.presentationTime).nanos ≤ now.nanos ∧
      (scheduler.poll now).2.pending = none) ∨
    (∃ sequence tick, (scheduler.poll now).1 = .droppedStale sequence tick) ∧
      (scheduler.poll now).2.pending = none ∨
    (∀ scheduled, (scheduler.poll now).1 ≠ .ready scheduled) ∧
      (∀ sequence tick, (scheduler.poll now).1 ≠ .droppedStale sequence tick) ∧
      (scheduler.poll now).2.pending = scheduler.pending := by
  generalize hresult : scheduler.poll now = result
  rw [LatestFrameScheduler.poll] at hresult
  cases hpoll : scheduler.pacer.poll now with | mk decision pacer =>
  rw [hpoll] at hresult
  cases decision with
  | waitUntil deadline =>
    cases hresult
    exact .inr (.inr ⟨by simp, by simp, rfl⟩)
  | exhausted =>
    cases hresult
    exact .inr (.inr ⟨by simp, by simp, rfl⟩)
  | due tick =>
    cases hpending : scheduler.pending with
    | none =>
      simp only [hpending] at hresult
      cases hresult
      exact .inr (.inr ⟨by simp, by simp, rfl⟩)
    | some pending =>
      simp only [hpending] at hresult
      by_cases hstale : scheduler.isStale pending.frame.metadata now = true
      · rw [if_pos hstale] at hresult
        cases hresult
        exact .inr (.inl ⟨⟨_, _, rfl⟩, rfl⟩)
      rw [if_neg hstale] at hresult
      by_cases hearly : now.nanos <
          (scheduler.absoluteTime pending.frame.metadata.presentationTime).nanos
      · rw [if_pos hearly] at hresult
        cases hresult
        exact .inr (.inr ⟨by simp, by simp, rfl⟩)
      · rw [if_neg hearly] at hresult
        cases hresult
        exact .inl ⟨_, pending, rfl, rfl, rfl, eq_false_of_ne_true hstale,
          Nat.le_of_not_lt hearly, rfl⟩

/-- What a poll dispatches was queued, and the queue is empty afterwards. -/
theorem poll_pending (scheduler : LatestFrameScheduler) (now : Duration) :
    (∃ scheduled, (scheduler.poll now).1 = .ready scheduled ∧
      scheduler.pending.map (·.frame) = some scheduled.frame ∧
      (scheduler.poll now).2.pending = none) ∨
    (∀ scheduled, (scheduler.poll now).1 ≠ .ready scheduled) ∧
      ((scheduler.poll now).2.pending = scheduler.pending ∨
        (scheduler.poll now).2.pending = none) := by
  rcases poll_effect scheduler now with ⟨scheduled, queued, hready, hpending, hframe, -, -, hempty⟩ |
    ⟨⟨sequence, tick, hdropped⟩, hempty⟩ | ⟨hready, -, hsame⟩
  · exact .inl ⟨scheduled, hready, by rw [hpending, hframe]; rfl, hempty⟩
  · exact .inr ⟨by simp [hdropped], .inr hempty⟩
  · exact .inr ⟨hready, .inl hsame⟩

theorem ordered_append {sent : List MediaFrame} {frame : MediaFrame}
    (hsent : sent.Pairwise fun a b => frameOrder a.metadata < frameOrder b.metadata)
    (hnewer : ∀ other ∈ sent, frameOrder other.metadata < frameOrder frame.metadata) :
    (sent ++ [frame]).Pairwise fun a b => frameOrder a.metadata < frameOrder b.metadata := by
  apply List.pairwise_append.mpr
  refine ⟨hsent, List.pairwise_singleton _ _, ?_⟩
  intro other hother last hlast
  rw [List.mem_singleton.mp hlast]
  exact hnewer other hother

theorem ordered_dispatched (h : s.Ordered) :
    s.dispatched.Pairwise fun a b => frameOrder a.metadata < frameOrder b.metadata :=
  (List.pairwise_append.mp h).1

theorem ordered_submit {frame : MediaFrame} {now : Duration} (h : s.Ordered)
    (hnewer : s.EntersNewer (.submit frame now)) : (s.call (.submit frame now)).Ordered := by
  rcases submit_pending s.scheduler frame now with hsame | ⟨hqueued, hacceptable, hreplaced⟩
  · rw [Ordered, line, call, hsame]
    exact h
  · rw [Ordered, line, call, hqueued]
    apply ordered_append (ordered_dispatched h)
    intro sent hsent
    cases hpending : s.scheduler.pending with
    | none => exact hnewer hpending hacceptable sent hsent
    | some queued =>
      have hbefore : frameOrder sent.metadata < frameOrder queued.frame.metadata := by
        apply (List.pairwise_append.mp h).2.2 sent hsent
        rw [hpending]
        exact List.mem_singleton_self _
      exact hbefore.trans (hreplaced queued hpending)

theorem ordered_poll {now : Duration} (h : s.Ordered) : (s.call (.poll now)).Ordered := by
  rcases poll_pending s.scheduler now with
    ⟨scheduled, hready, hpending, hempty⟩ | ⟨hother, hqueue⟩
  · rw [Ordered, line, call, hready, outcome]
    simp only [hempty]
    obtain ⟨pending, hpending, hframe⟩ := Option.map_eq_some_iff.mp hpending
    rw [Ordered, line, hpending] at h
    simpa [hframe] using h
  · have hcall : s.call (.poll now) = { s with scheduler := (s.scheduler.poll now).2 } := by
      rw [call]
      cases hready : (s.scheduler.poll now).1 with
      | ready scheduled => exact absurd hready (hother scheduled)
      | _ => rfl
    rw [Ordered, line, hcall]
    rcases hqueue with hsame | hempty
    · rw [hsame]
      exact h
    · rw [hempty]
      simpa using ordered_dispatched h

theorem ordered_call (h : s.Ordered) (call : SchedulerCall) (hnewer : s.EntersNewer call) :
    (s.call call).Ordered := by
  cases call with
  | submit frame now => exact ordered_submit h hnewer
  | poll now => exact ordered_poll h
  | takeMetrics => exact h

/-- Where every frame that enters the empty queue is newer than the dispatched ones, the dispatched
frames are strictly increasing. -/
theorem dispatched_increasing {config : SchedulerConfig} {streamOrigin : Duration}
    {calls : List SchedulerCall}
    (hnewer : machine.Admits EntersNewer (start config streamOrigin) calls)
    (hrun : machine.run (start config streamOrigin) calls = some s) :
    s.dispatched.Pairwise fun a b => frameOrder a.metadata < frameOrder b.metadata := by
  have hstart : (start config streamOrigin).Ordered := List.Pairwise.nil
  apply ordered_dispatched
  apply machine.run_invariant_of_admits EntersNewer Ordered ?_ hstart hnewer hrun
  intro before call after hbefore hguard hstep
  cases hstep
  exact ordered_call hbefore call hguard

/-- Frames of the timeline in any order while one is queued. -/
def reordered : List SchedulerCall :=
  [.submit (Diagnosed.frameAt 1 []) (.fromMillis 1),
    .submit (Diagnosed.frameAt 0 []) (.fromMillis 2),
    .poll (.fromMillis 34), .submit (Diagnosed.frameAt 3 []) (.fromMillis 60),
    .submit (Diagnosed.frameAt 2 []) (.fromMillis 61), .poll (.fromMillis 101)]

theorem dispatched_increasing_reordered : ∃ s,
    machine.run (start Diagnosed.thirtyHertz (.fromMillis 0)) reordered = some s ∧
      s.dispatched = [Diagnosed.frameAt 1 [], Diagnosed.frameAt 3 []] ∧
      s.dispatched.Pairwise fun a b => frameOrder a.metadata < frameOrder b.metadata := by
  refine ⟨_, rfl, by decide +kernel, ?_⟩
  exact @dispatched_increasing _ Diagnosed.thirtyHertz (.fromMillis 0) reordered
    (by decide +kernel) rfl

/-- A frame that is late but not stale. -/
def late : List SchedulerCall :=
  [.submit (Diagnosed.frameAt 1 []) (.fromMillis 34), .poll (.fromMillis 34),
    .submit (Diagnosed.frameAt 0 []) (.fromMillis 40), .poll (.fromMillis 67)]

/-- The queue is empty when the late frame comes, so it follows the newer one. -/
theorem dispatched_backwards : ∃ s,
    machine.run (start Diagnosed.thirtyHertz (.fromMillis 0)) late = some s ∧
      s.dispatched = [Diagnosed.frameAt 1 [], Diagnosed.frameAt 0 []] ∧
      ¬s.dispatched.Pairwise fun a b => frameOrder a.metadata < frameOrder b.metadata := by
  refine ⟨_, rfl, by decide +kernel, by decide +kernel⟩

end Presented

end LadoFlow.Media
