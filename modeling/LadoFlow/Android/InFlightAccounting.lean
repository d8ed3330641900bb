import LadoFlow.Android.DecoderEffects

/-!
# The in-flight reservation over whole runs

Callers, MediaCodec and the codec thread interleave. The window holds one slot for every waiting
frame task and every access unit in the pipeline, and one more for every access unit that a
MediaCodec exception stranded outside the ledger.
-/

namespace LadoFlow.Android

open Framework

/-- One step of the threads around the decoder. -/
inductive DecoderStep where
  | submit (frame : LdflFrame)
  | setOutputSurface (surface : Option Nat)
  | applyConfiguration (configuration : DisplayConfigPayload)
  | reset (reason : String)
  | close
  | codecCallback (task : HandlerTask)
  | runTask (platform : CodecPlatform)

namespace AndroidMediaCodecVideoDecoder

def step (d : AndroidMediaCodecVideoDecoder) : DecoderStep → Option AndroidMediaCodecVideoDecoder
  | .submit frame => some (d.submit frame).2
  | .setOutputSurface surface => some (d.setOutputSurface surface)
  | .applyConfiguration configuration => some (d.applyConfiguration configuration)
  | .reset reason => some (d.reset reason)
  | .close => some d.close
  | .codecCallback task => if task.isCodecCallback then some (d.post task).2 else none
  | .runTask platform => d.runTask platform

def machine : Machine AndroidMediaCodecVideoDecoder DecoderStep where
  step := step

/-- The step strands no access unit: MediaCodec takes every input that the task queues, and every
output that the task has already taken from the ledger. -/
def KeepsSlots (d : AndroidMediaCodecVideoDecoder) : DecoderStep → Prop
  | .runTask platform => d.tasks.head?.all (!d.strands platform ·)
  | _ => True

instance (d : AndroidMediaCodecVideoDecoder) : (s : DecoderStep) → Decidable (d.KeepsSlots s)
  | .runTask platform => inferInstanceAs (Decidable (d.tasks.head?.all (!d.strands platform ·)))
  | .submit _ | .setOutputSurface _ | .applyConfiguration _ | .reset _ | .close
  | .codecCallback _ => isTrue trivial

/-- One slot for every waiting frame task and every access unit in the pipeline. -/
structure SlotsConserved (d : AndroidMediaCodecVideoDecoder) : Prop where
  depth : d.inFlightWindow.depth = d.frameTasks + d.pipeline.depth
  le_capacity : d.inFlightWindow.depth ≤ d.inFlightWindow.capacity
  nonneg : 0 ≤ d.inFlightWindow.depth
  drained : d.frameTasks = 0 → d.pipeline.depth = 0 → d.inFlightWindow.depth = 0

/-- Slots that belong neither to a waiting frame task nor to the pipeline. -/
def excess (d : AndroidMediaCodecVideoDecoder) : Int := d.held - d.frameTasks

section Steps

variable {d next : AndroidMediaCodecVideoDecoder}

theorem excess_post {task : HandlerTask} (h : task.isFrame = false) :
    (d.post task).2.excess = d.excess := by
  rw [post]
  split
  · rfl
  · simp [excess, held, frameTasks, h]

theorem excess_postUnlessClosed {task : HandlerTask} (h : task.isFrame = false) :
    (d.postUnlessClosed task).excess = d.excess := by
  rw [postUnlessClosed]
  split
  · rfl
  · exact excess_post h

theorem excess_close : d.close.excess = d.excess := by
  rw [close]
  split
  · rfl
  · exact excess_post rfl

theorem excess_scheduleSubmissionOverflowRecovery :
    d.scheduleSubmissionOverflowRecovery.excess = d.excess := by
  have hpost : ({ d with submissionOverflowPending := true }.post .overflowRecovery).2.excess =
      d.excess := excess_post rfl
  rw [scheduleSubmissionOverflowRecovery]
  simp only
  split
  · rfl
  split
  · exact hpost
  · exact hpost

theorem excess_submit (frame : LdflFrame) : (d.submit frame).2.excess = d.excess := by
  rw [submit]
  simp only
  split
  · rfl
  split
  · exact excess_scheduleSubmissionOverflowRecovery
  · rw [post]
    cases d.looperQuit with
    | true =>
      simp [updateQueueDepth, excess, held, frameTasks, releaseInFlight,
        DecoderInFlightWindow.release, DecoderInFlightWindow.acquire]
    | false =>
      simp [updateQueueDepth, excess, held, frameTasks, HandlerTask.isFrame,
        DecoderInFlightWindow.acquire]
      omega

/-- Only the codec thread loses slots, and only on a stranding task. -/
theorem excess_runTask {platform : CodecPlatform} (h : d.runTask platform = some next) :
    next.excess = d.excess + (if d.tasks.head?.any (d.strands platform) then 1 else 0) := by
  rw [runTask] at h
  split at h
  · cases h
  · rename_i task tasks htasks
    cases h
    have hkeeps := execute_keeps platform { d with tasks } task
    have hheld := execute_held platform { d with tasks } task
    have hstrands : { d with tasks }.strands platform task = d.strands platform task := by
      cases task <;> rfl
    have hbefore : { d with tasks }.held = d.held := rfl
    rw [hstrands, hbefore] at hheld
    simp only [excess, frameTasks, hheld, hkeeps.tasks, htasks, List.countP_cons, List.head?_cons,
      Option.any_some]
    cases task.isFrame <;> simp <;> omega

theorem keepsSlots_iff {s : DecoderStep} (hstep : d.step s = some next) :
    next.excess = d.excess ∧ d.KeepsSlots s ∨ next.excess = d.excess + 1 ∧ ¬d.KeepsSlots s := by
  cases s with
  | submit frame =>
    cases hstep
    exact .inl ⟨excess_submit frame, trivial⟩
  | setOutputSurface surface =>
    cases hstep
    exact .inl ⟨excess_postUnlessClosed rfl, trivial⟩
  | applyConfiguration configuration =>
    cases hstep
    exact .inl ⟨excess_postUnlessClosed rfl, trivial⟩
  | reset reason =>
    cases hstep
    exact .inl ⟨excess_postUnlessClosed rfl, trivial⟩
  | close =>
    cases hstep
    exact .inl ⟨excess_close, trivial⟩
  | codecCallback task =>
    rw [step] at hstep
    split at hstep
    · rename_i hcallback
      cases hstep
      exact .inl ⟨excess_post (by cases task <;> first | rfl | cases hcallback), trivial⟩
    · cases hstep
  | runTask platform =>
    have hrun := excess_runTask hstep
    simp only [KeepsSlots]
    cases htask : d.tasks.head? with
    | none =>
      rw [htask] at hrun
      exact .inl ⟨by simpa using hrun, rfl⟩
    | some task =>
      rw [htask] at hrun
      simp only [Option.any_some, Option.all_some] at hrun ⊢
      cases hstrands : d.strands platform task with
      | false => exact .inl ⟨by simpa [hstrands] using hrun, rfl⟩
      | true => exact .inr ⟨by simpa [hstrands] using hrun, by simp⟩

/-- The window never overfills. -/
def Bounded (d : AndroidMediaCodecVideoDecoder) : Prop :=
  d.inFlightWindow.occupied ≤ d.inFlightWindow.capacity

theorem bounded_post {task : HandlerTask} (h : d.Bounded) : (d.post task).2.Bounded := by
  rw [post]
  split
  · exact h
  · exact h

theorem bounded_postUnlessClosed {task : HandlerTask} (h : d.Bounded) :
    (d.postUnlessClosed task).Bounded := by
  rw [postUnlessClosed]
  split
  · exact h
  · exact bounded_post h

theorem bounded_scheduleSubmissionOverflowRecovery (h : d.Bounded) :
    d.scheduleSubmissionOverflowRecovery.Bounded := by
  have hpost : ({ d with submissionOverflowPending := true }.post .overflowRecovery).2.Bounded :=
    bounded_post h
  rw [scheduleSubmissionOverflowRecovery]
  simp only
  split
  · exact h
  split
  · exact hpost
  · exact hpost

theorem bounded_submit {frame : LdflFrame} (h : d.Bounded) : (d.submit frame).2.Bounded := by
  rw [submit]
  simp only
  split
  · exact h
  split
  · exact bounded_scheduleSubmissionOverflowRecovery h
  · rename_i havailable
    have hroom : d.inFlightWindow.occupied < d.inFlightWindow.capacity := by
      simpa [DecoderInFlightWindow.available] using havailable
    have hacquired : ({ d with
        submissions := d.submissions + 1
        inFlightWindow := d.inFlightWindow.acquire }.updateQueueDepth).Bounded :=
      Int.add_one_le_of_lt hroom
    split
    · exact bounded_post hacquired
    · exact (Int.sub_le_self _ (Int.natCast_nonneg 1)).trans (bounded_post hacquired)

theorem bounded_step {s : DecoderStep} (h : d.Bounded) (hstep : d.step s = some next) :
    next.Bounded := by
  cases s with
  | submit frame =>
    cases hstep
    exact bounded_submit h
  | setOutputSurface surface =>
    cases hstep
    exact bounded_postUnlessClosed h
  | applyConfiguration configuration =>
    cases hstep
    exact bounded_postUnlessClosed h
  | reset reason =>
    cases hstep
    exact bounded_postUnlessClosed h
  | close =>
    cases hstep
    rw [close]
    split
    · exact h
    · exact bounded_post h
  | codecCallback task =>
    rw [step] at hstep
    split at hstep
    · cases hstep
      exact bounded_post h
    · cases hstep
  | runTask platform =>
    rw [step, runTask] at hstep
    split at hstep
    · cases hstep
    · rename_i task tasks htasks
      cases hstep
      have hkeeps := execute_keeps platform { d with tasks } task
      rw [Bounded, hkeeps.windowCapacity]
      exact hkeeps.occupied.trans h

end Steps

/-- A run conserves the reservation exactly when none of its tasks strands an access unit. -/
theorem slotsConserved_iff {maxInFlightAccessUnits : Nat} {h : 0 < maxInFlightAccessUnits}
    {steps : List DecoderStep} {d : AndroidMediaCodecVideoDecoder}
    (hrun : machine.run (new maxInFlightAccessUnits h) steps = some d) :
    SlotsConserved d ↔ machine.Admits KeepsSlots (new maxInFlightAccessUnits h) steps := by
  obtain ⟨hle, hiff⟩ := machine.run_eq_iff_admits KeepsSlots excess
    (by
      intro s a t hkeeps hstep
      rcases keepsSlots_iff hstep with hsame | hraised
      · exact hsame.1
      · exact absurd hkeeps hraised.2)
    (by
      intro s a t hstrands hstep
      rcases keepsSlots_iff hstep with hsame | hraised
      · exact absurd hsame.2 hstrands
      · rw [hraised.1]
        omega) hrun
  have hzero : (new maxInFlightAccessUnits h).excess = 0 := rfl
  rw [hzero] at hle hiff
  have hstart : (new maxInFlightAccessUnits h).Bounded := Int.natCast_nonneg _
  have hbounded : d.Bounded := machine.run_invariant Bounded
    (fun _ _ _ hbefore hstep => bounded_step hbefore hstep) hstart hrun
  rw [← hiff]
  simp only [excess, held] at hle ⊢
  constructor
  · intro hconserved
    have hdepth := hconserved.depth
    rw [DecoderInFlightWindow.depth] at hdepth
    omega
  · intro hexact
    have hdepth : d.inFlightWindow.depth = d.frameTasks + d.pipeline.depth := by
      rw [DecoderInFlightWindow.depth]
      omega
    refine ⟨hdepth, hbounded, by omega, ?_⟩
    intro hframes hpipeline
    rw [hdepth, hframes, hpipeline]
    rfl

/-- A keyframe reaches the running codec, which then offers its first input buffer. -/
def oneKeyframe (last : CodecPlatform) : List DecoderStep :=
  [.setOutputSurface (some 0), .applyConfiguration .hd, .runTask .working, .runTask .working,
    .submit keyUnit, .runTask .working, .codecCallback (.inputBufferAvailable 0 0), .runTask last]

theorem slotsConserved_iff_oneKeyframe :
    ∃ d, machine.run (new 8 (by decide)) (oneKeyframe .working) = some d ∧
      d.pipeline.depth = 1 ∧ SlotsConserved d := by
  have hreached : (machine.run (new 8 (by decide)) (oneKeyframe .working)).any
      (fun d => d.pipeline.depth = 1) = true := by decide
  obtain ⟨d, hrun, hdepth⟩ := (Option.any_eq_true _ _).mp hreached
  refine ⟨d, hrun, of_decide_eq_true hdepth, ?_⟩
  apply (slotsConserved_iff hrun).mpr
  decide

/-- The access unit fails on its way into MediaCodec: nothing is queued anywhere, and one slot
stays taken. -/
theorem slots_lost_on_queueInputBuffer_failure :
    ∃ d, machine.run (new 8 (by decide)) (oneKeyframe .refusingInput) = some d ∧
      d.frameTasks = 0 ∧ d.pipeline.depth = 0 ∧ d.inFlightWindow.depth = 1 ∧
      ¬SlotsConserved d := by
  have hreached : (machine.run (new 8 (by decide)) (oneKeyframe .refusingInput)).any (fun d =>
      d.frameTasks = 0 ∧ d.pipeline.depth = 0 ∧ d.inFlightWindow.depth = 1) = true := by decide
  obtain ⟨d, hrun, hslots⟩ := (Option.any_eq_true _ _).mp hreached
  obtain ⟨hframes, hpipeline, hdepth⟩ := of_decide_eq_true hslots
  refine ⟨d, hrun, hframes, hpipeline, hdepth, ?_⟩
  intro hconserved
  have hzero := hconserved.drained hframes hpipeline
  rw [hdepth] at hzero
  cases hzero

end AndroidMediaCodecVideoDecoder

end LadoFlow.Android
