import LadoFlow.Android.DisplayEffects

/-!
# Surface readiness at rest

The session learns the readiness of the Surface from the decoder state only. Accepting a
configuration clears it, so the decoder has to publish a state that the session has not just
handled.
-/

namespace LadoFlow.Android

open Framework

namespace AndroidDisplay

open AndroidMediaCodecVideoDecoder AndroidDisplaySession

/-- No Handler task waits and every decoder state is handled. -/
def AtRest (display : AndroidDisplay) : Prop :=
  display.decoder.tasks = [] ∧ display.seenState = some display.decoder.state

/-- At rest, session and decoder agree on the Surface. -/
def ReadinessAgrees (display : AndroidDisplay) : Prop :=
  AtRest display → display.session.activeConfiguration.isSome = true →
    display.session.failed = false →
    (display.session.surfaceReady = true ↔ display.decoder.state.surfaceReady = true)

/-- A configuration is not accepted while the decoder already awaits its keyframe and the session
knows it. -/
def AnnouncesConfiguration (display : AndroidDisplay) (step : DisplayStep) : Prop :=
  ∀ configuration ∈ display.accepts step,
    display.seenState ≠ some (.awaitingKeyframe configuration)

instance (display : AndroidDisplay) (step : DisplayStep) :
    Decidable (display.AnnouncesConfiguration step) :=
  inferInstanceAs (Decidable (∀ configuration ∈ display.accepts step, _))

/-- The decoder is on its way to the idle state of an accepted configuration. -/
inductive Approaches (configuration : DisplayConfigPayload) (d : AndroidMediaCodecVideoDecoder) :
    Prop
  | queued (ahead behind : List HandlerTask)
      (htasks : d.tasks = ahead ++ .applyConfiguration configuration :: behind)
      (hbehind : ∀ task ∈ behind, task.awaitsFrames = true)
  | settled (h : Settled configuration d) (htasks : ∀ task ∈ d.tasks, task.awaitsFrames = true)

/-- The session has not handled a decoder state since it accepted the configuration. -/
structure Waiting (configuration : DisplayConfigPayload) (display : AndroidDisplay) : Prop where
  surfaceReady : display.session.surfaceReady = false
  seenState : display.seenState ≠ some (.awaitingKeyframe configuration)
  codec : configuration.codec = .h264
  approaches : Approaches configuration display.decoder

/-- The readiness is that of the last handled decoder state. -/
def Handled (display : AndroidDisplay) : Prop :=
  ∃ seen, display.seenState = some seen ∧ display.session.surfaceReady = seen.surfaceReady

structure ReadinessInv (display : AndroidDisplay) : Prop where
  isOpen : Open display
  agrees : display.decoder.Agrees
  configured : display.session.surfaceReady = true → display.decoder.configuration.isSome = true
  hello : display.session.activeConfiguration.isSome = true →
    display.session.remoteHello.isSome = true
  settled : ∀ configuration, display.session.activeConfiguration = some configuration →
    display.session.failed = false → Handled display ∨ Waiting configuration display

variable {display after : AndroidDisplay} {step : DisplayStep}
  {configuration : DisplayConfigPayload} {d next : AndroidMediaCodecVideoDecoder}
  {extra : List HandlerTask}

theorem Approaches.of_queues (h : Approaches configuration d) (hqueues : Queues extra d next)
    (hextra : ∀ task ∈ extra, task.awaitsFrames = true) : Approaches configuration next := by
  cases h with
  | queued ahead behind htasks hbehind =>
    refine .queued ahead (behind ++ extra) ?_ ?_
    · rw [hqueues.tasks, htasks]
      simp
    · intro task htask
      exact (List.mem_append.mp htask).elim (hbehind task) (hextra task)
  | settled h htasks =>
    refine .settled ⟨?_, ?_, ?_⟩ ?_
    · rw [hqueues.configuration]
      exact h.configuration
    · rw [hqueues.activeCodec]
      exact h.activeCodec
    · rw [hqueues.state, hqueues.outputSurface]
      exact h.state
    · intro task htask
      rw [hqueues.tasks] at htask
      exact (List.mem_append.mp htask).elim (htasks task) (hextra task)

theorem Approaches.execute {task : HandlerTask} {tasks : List HandlerTask}
    (platform : CodecPlatform) (hopen : d.closed = false) (hcodec : configuration.codec = .h264)
    (htasks : d.tasks = task :: tasks) (h : Approaches configuration d) :
    Approaches configuration ({ d with tasks }.execute platform task) := by
  have hkept : ({ d with tasks }.execute platform task).tasks = tasks :=
    (execute_keeps platform { d with tasks } task).tasks
  cases h with
  | queued ahead behind hqueue hbehind =>
    cases ahead with
    | nil =>
      rw [htasks] at hqueue
      cases hqueue
      exact .settled (runApplyConfiguration_settled (d := { d with tasks }) hopen hcodec)
        (by rwa [hkept])
    | cons first ahead =>
      rw [htasks] at hqueue
      cases hqueue
      exact .queued ahead behind hkept hbehind
  | settled h hawaits =>
    rw [htasks] at hawaits
    refine .settled (execute_settled (d := { d with tasks }) hopen
      (hawaits task List.mem_cons_self) { h with }) ?_
    rw [hkept]
    intro other hother
    exact hawaits other (List.mem_cons_of_mem _ hother)

theorem readiness_surfaceReady (hagrees : d.Agrees) {ready : Bool}
    (hready : ready = true → d.configuration.isSome = true) :
    readiness ready d.state = d.state.surfaceReady := by
  have hnone (h : d.configuration.isNone = true) : ready = false := by
    rw [Bool.eq_false_iff]
    intro htrue
    have hsome := hready htrue
    rw [Option.isNone_iff_eq_none] at h
    rw [h] at hsome
    cases hsome
  rw [Agrees] at hagrees
  cases hstate : d.state with
  | idle | awaitingConfiguration =>
    rw [hstate] at hagrees
    exact hnone hagrees
  | _ => rfl

theorem configured_of_surfaceReady (hagrees : d.Agrees) (h : d.state.surfaceReady = true) :
    d.configuration.isSome = true := by
  rw [Agrees] at hagrees
  cases hstate : d.state with
  | awaitingKeyframe | running | recovering =>
    rw [hstate] at hagrees
    exact hagrees
  | _ =>
    rw [hstate] at h
    cases h

theorem handleDecoderMetrics_samePicture (session : AndroidDisplaySession)
    (metrics : VideoDecoderMetrics) :
    (session.handleDecoderMetrics metrics).activeConfiguration = session.activeConfiguration ∧
      (session.handleDecoderMetrics metrics).surfaceReady = session.surfaceReady ∧
      (session.handleDecoderMetrics metrics).failed = session.failed ∧
      (session.handleDecoderMetrics metrics).remoteHello = session.remoteHello := by
  rw [handleDecoderMetrics]
  split
  · simp only
    split <;> exact ⟨rfl, rfl, rfl, rfl⟩
  · exact ⟨rfl, rfl, rfl, rfl⟩

theorem ReadinessInv.of_queues (hinv : ReadinessInv display)
    (hqueues : Queues extra display.decoder after.decoder) :
    after.decoder.Agrees ∧ Open after ∧
      (display.decoder.configuration.isSome = true → after.decoder.configuration.isSome = true) := by
  refine ⟨?_, hinv.isOpen.of_queues hqueues, ?_⟩
  · rw [Agrees, hqueues.state, hqueues.configuration]
    exact hinv.agrees
  · rw [hqueues.configuration]
    exact id

theorem ReadinessInv.preserved (hinv : ReadinessInv display)
    (hannounces : display.AnnouncesConfiguration step) (hstep : display.step step = some after) :
    ReadinessInv after := by
  cases step_effect hinv.isOpen hstep with
  | kept extra hnone hsame hpicture hmoves hqueues hextra hseen =>
    obtain ⟨hagrees, hopen, hconfigured⟩ := hinv.of_queues hqueues
    refine ⟨hopen, hagrees, ?_, ?_, ?_⟩
    · rw [hpicture.surfaceReady]
      exact fun hready => hconfigured (hinv.configured hready)
    · rw [hpicture.activeConfiguration]
      exact fun hactive => hpicture.remoteHello (hinv.hello hactive)
    · intro configuration hactive hhealthy
      rw [hpicture.activeConfiguration] at hactive
      rcases hinv.settled configuration hactive (hpicture.failed hhealthy) with hhandled | hwaiting
      · left
        rw [Handled, hseen, hpicture.surfaceReady]
        exact hhandled
      · right
        have hnot := hwaiting.surfaceReady
        refine ⟨hpicture.surfaceReady.trans hnot, ?_, hwaiting.codec,
          hwaiting.approaches.of_queues hqueues (hextra hnot)⟩
        rw [hseen]
        exact hwaiting.seenState
  | ended extra hnone hsame h hmoves hqueues hseen =>
    obtain ⟨hagrees, hopen, hconfigured⟩ := hinv.of_queues hqueues
    refine ⟨hopen, hagrees, fun hready => hconfigured (hinv.configured (h.surfaceReady hready)),
      ?_, ?_⟩
    · simp [h.activeConfiguration]
    · simp [h.activeConfiguration]
  | restarted extra hnone h hqueues hseen =>
    obtain ⟨hagrees, hopen, hconfigured⟩ := hinv.of_queues hqueues
    refine ⟨hopen, hagrees, ?_, ?_, ?_⟩
    · simp [h.surfaceReady]
    · simp [h.activeConfiguration]
    · simp [h.activeConfiguration]
  | configured configuration haccepts hsame hcodec h hqueues hseen =>
    obtain ⟨hagrees, hopen, hconfigured⟩ := hinv.of_queues hqueues
    refine ⟨hopen, hagrees, ?_, fun _ => h.remoteHello, ?_⟩
    · simp [h.surfaceReady]
    · intro active hactive hhealthy
      right
      rw [h.activeConfiguration] at hactive
      cases hactive
      refine ⟨h.surfaceReady, ?_, hcodec, .queued display.decoder.tasks [] hqueues.tasks (by simp)⟩
      rw [hseen]
      exact hannounces configuration haccepts
  | stateHandled extra hnone hsame h hmoves hqueues hseen =>
    obtain ⟨hagrees, hopen, hconfigured⟩ := hinv.of_queues hqueues
    have hready := readiness_surfaceReady hinv.agrees hinv.configured
    refine ⟨hopen, hagrees, ?_, ?_, ?_⟩
    · rw [h.surfaceReady, hready]
      intro hafter
      apply hconfigured
      split at hafter
      · exact configured_of_surfaceReady hinv.agrees hafter
      · exact hinv.configured hafter
    · rw [h.activeConfiguration, h.remoteHello]
      exact hinv.hello
    · intro configuration hactive hhealthy
      left
      rw [h.activeConfiguration] at hactive
      have hboth : display.session.activeConfiguration.isSome = true ∧
          display.session.remoteHello.isSome = true := by
        have hsome : display.session.activeConfiguration.isSome = true := by simp [hactive]
        exact ⟨hsome, hinv.hello hsome⟩
      refine ⟨display.decoder.state, hseen, ?_⟩
      rw [h.surfaceReady, if_pos hboth, hready]
  | metricsHandled hmetrics h hdecoder hseen =>
    obtain ⟨hactive, hready, hfailed, hhello⟩ := handleDecoderMetrics_samePicture
      { display.session with calls := [] } display.decoder.metrics
    rw [← h] at hactive hready hfailed hhello
    have hqueues : Queues [] display.decoder after.decoder := by
      rw [hdecoder]
      exact Queues.refl _
    obtain ⟨hagrees, hopen, hconfigured⟩ := hinv.of_queues hqueues
    refine ⟨hopen, hagrees, ?_, ?_, ?_⟩
    · rw [hready]
      exact fun hafter => hconfigured (hinv.configured hafter)
    · rw [hactive, hhello]
      exact hinv.hello
    · intro configuration hafter hhealthy
      rw [hactive] at hafter
      rw [hfailed] at hhealthy
      rcases hinv.settled configuration hafter hhealthy with hhandled | hwaiting
      · left
        rw [Handled, hseen, hready]
        exact hhandled
      · right
        refine ⟨hready.trans hwaiting.surfaceReady, ?_, hwaiting.codec, ?_⟩
        · rw [hseen]
          exact hwaiting.seenState
        · rw [hdecoder]
          exact hwaiting.approaches
  | ran platform task tasks hrun htasks h =>
    have hopen := (step_effect hinv.isOpen hstep).open hinv.isOpen
    have hclose : task ≠ .close := by
      intro heq
      exact hinv.isOpen.noClose (by simp [htasks, heq])
    rw [h] at hopen ⊢
    refine ⟨hopen, execute_agrees task hinv.agrees, ?_, hinv.hello, ?_⟩
    · intro hready
      exact execute_configured (d := { display.decoder with tasks }) hclose
        (hinv.configured hready)
    · intro configuration hactive hhealthy
      rcases hinv.settled configuration hactive hhealthy with hhandled | hwaiting
      · exact .inl hhandled
      · exact .inr ⟨hwaiting.surfaceReady, hwaiting.seenState, hwaiting.codec,
          hwaiting.approaches.execute platform hinv.isOpen.closed hwaiting.codec htasks⟩

theorem ReadinessInv.readinessAgrees (hinv : ReadinessInv display) : ReadinessAgrees display := by
  rintro ⟨htasks, hseen⟩ hsome hhealthy
  obtain ⟨configuration, hactive⟩ := Option.isSome_iff_exists.mp hsome
  rcases hinv.settled configuration hactive hhealthy with ⟨seen, hlast, hready⟩ | hwaiting
  · rw [hseen] at hlast
    cases hlast
    rw [hready]
  · have hnot : display.decoder.state.surfaceReady = false := by
      cases hwaiting.approaches with
      | queued ahead behind hqueue => simp [htasks] at hqueue
      | settled h =>
        have hidle := hwaiting.seenState
        rw [hseen, h.state] at hidle
        rw [h.state]
        cases hsurface : display.decoder.outputSurface with
        | none => rfl
        | some surface =>
          rw [hsurface] at hidle
          exact absurd rfl hidle
    rw [hwaiting.surfaceReady, hnot]

theorem readinessInv_new (localCapabilities : CapabilitiesPayload) (maxInFlightAccessUnits : Nat)
    (h : 0 < maxInFlightAccessUnits) :
    ReadinessInv (new localCapabilities maxInFlightAccessUnits h) :=
  ⟨open_new _ _ h, rfl, Bool.noConfusion, Bool.noConfusion, by simp [new, AndroidDisplaySession.new]⟩

/-- Over any number of generations, session and decoder agree on the Surface whenever they rest. -/
theorem surfaceReady_iff_at_rest (localCapabilities : CapabilitiesPayload)
    {maxInFlightAccessUnits : Nat} (hcapacity : 0 < maxInFlightAccessUnits)
    {steps : List DisplayStep} {display : AndroidDisplay}
    (hannounces : machine.Admits AnnouncesConfiguration
      (new localCapabilities maxInFlightAccessUnits hcapacity) steps)
    (hrun : machine.run (new localCapabilities maxInFlightAccessUnits hcapacity) steps =
      some display) : ReadinessAgrees display :=
  (machine.run_invariant_of_admits AnnouncesConfiguration ReadinessInv
    (fun _ _ _ hinv hguard hstep => hinv.preserved hguard hstep) (readinessInv_new _ _ hcapacity)
    hannounces hrun).readinessAgrees

theorem surfaceReady_iff_at_rest_connected : ∃ display,
    machine.run fullHd firstConnection = some display ∧ AtRest display ∧
    display.session.surfaceReady = true ∧ ReadinessAgrees display := by
  have hreached : (machine.run fullHd firstConnection).any (fun display =>
      display.decoder.tasks = [] ∧ display.seenState = some display.decoder.state ∧
      display.session.surfaceReady) = true := by
    decide +kernel
  obtain ⟨display, hrun, hend⟩ := (Option.any_eq_true _ _).mp hreached
  obtain ⟨htasks, hseen, hready⟩ := of_decide_eq_true hend
  exact ⟨display, hrun, ⟨htasks, hseen⟩, hready,
    surfaceReady_iff_at_rest .fullHd _ (by decide +kernel) hrun⟩

/-- The host reconnects on the same Surface with the same configuration and sends a keyframe. -/
def reconnect : List DisplayStep :=
  firstConnection ++ [.transport .quiet .android (.detached "LadoFlow Host"), .runTask .working] ++
    DisplayStep.connect ++ [.inboundFrame .quiet keyUnit]

/-- The decoder awaits a keyframe, and the keyframe stays in the buffer before the Surface. -/
theorem surfaceReady_stuck_after_reconnect : ∃ display,
    machine.run fullHd reconnect = some display ∧ AtRest display ∧
    display.session.activeConfiguration = some .hd ∧ display.session.failed = false ∧
    display.decoder.state = .awaitingKeyframe .hd ∧
    display.session.pendingSurfaceFrames = [keyUnit] ∧ ¬ReadinessAgrees display := by
  have hreached : (machine.run fullHd reconnect).any (fun display =>
      display.decoder.tasks = [] ∧ display.seenState = some display.decoder.state ∧
      display.session.activeConfiguration = some .hd ∧ display.session.failed = false ∧
      display.decoder.state = .awaitingKeyframe .hd ∧
      display.session.pendingSurfaceFrames = [keyUnit] ∧
      display.session.surfaceReady = false) = true := by
    decide +kernel
  obtain ⟨display, hrun, hend⟩ := (Option.any_eq_true _ _).mp hreached
  obtain ⟨htasks, hseen, hactive, hhealthy, hstate, hpending, hready⟩ := of_decide_eq_true hend
  refine ⟨display, hrun, ⟨htasks, hseen⟩, hactive, hhealthy, hstate, hpending, ?_⟩
  intro hagrees
  have hiff := hagrees ⟨htasks, hseen⟩ (by rw [hactive]; rfl) hhealthy
  rw [hready, hstate] at hiff
  cases hiff.mpr rfl

end AndroidDisplay

end LadoFlow.Android
