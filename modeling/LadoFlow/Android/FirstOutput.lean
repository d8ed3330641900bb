import LadoFlow.Android.DisplayEffects

/-!
# The first output of a configuration

`Displaying` compares the cumulative output counter of the decoder with its value when the
configuration was accepted. Outputs of the configuration before it count as well until the decoder
has applied the new one.
-/

namespace LadoFlow.Android

open Framework

/-- A display with the last accepted configuration and the number of frames submitted before. -/
structure OutputHistory where
  display : AndroidDisplay
  accepted : Option (DisplayConfigPayload × Nat)

namespace OutputHistory

open AndroidDisplaySession AndroidMediaCodecVideoDecoder

def step (h : OutputHistory) (step : DisplayStep) : Option OutputHistory :=
  (h.display.step step).map fun display =>
    { display
      accepted :=
        match h.display.accepts step with
        | some configuration => some (configuration, h.display.decoder.submissions)
        | none => h.accepted }

def machine : Machine OutputHistory DisplayStep where
  step := step

def new (localCapabilities : CapabilitiesPayload) (maxInFlightAccessUnits : Nat)
    (h : 0 < maxInFlightAccessUnits) : OutputHistory :=
  ⟨.new localCapabilities maxInFlightAccessUnits h, none⟩

/-- Whoever sees `Displaying` sees an output of a frame submitted for that configuration. -/
def DisplaysOutput (h : OutputHistory) : Prop :=
  ∀ hostName configuration, h.display.session.state = .displaying hostName configuration →
    ∃ acceptedAt, h.accepted = some (configuration, acceptedAt) ∧
      ∃ submission ∈ h.display.decoder.releases, acceptedAt ≤ submission

end OutputHistory

def HandlerTask.appliesConfiguration : HandlerTask → Bool
  | applyConfiguration _ => true
  | _ => false

namespace OutputHistory

open AndroidDisplaySession AndroidMediaCodecVideoDecoder

/-- No output goes to the Surface while an accepted configuration waits to be applied. -/
def HoldsOutputs (h : OutputHistory) : DisplayStep → Prop
  | .runTask platform => h.display.session.activeConfiguration.isSome = true →
      h.display.decoder.tasks.any (·.appliesConfiguration) = true →
      h.display.decoder.tasks.head?.all (!h.display.decoder.releasesOutput platform ·) = true
  | _ => True

instance (h : OutputHistory) : (step : DisplayStep) → Decidable (h.HoldsOutputs step)
  | .runTask _ => inferInstanceAs (Decidable (_ → _ → _ = true))
  | .transport .. | .inboundFrame .. | .sendFailure .. | .decoderState _ | .decoderMetrics
  | .decoderEvent | .telemetryTimer _ | .pingTimer _ | .input _ | .write | .setOutputSurface _
  | .codecCallback _ => isTrue trivial

/-- Frame tasks of frames submitted since the configuration was accepted. -/
def Recent (acceptedAt : Nat) (tasks : List HandlerTask) : Prop :=
  ∀ submission frame, .frame submission frame ∈ tasks → acceptedAt ≤ submission

/-- Older access units are gone, or will be once the configuration is applied. -/
inductive Separated (acceptedAt : Nat) (d : AndroidMediaCodecVideoDecoder) : Prop
  | queued (ahead : List HandlerTask) (configuration : DisplayConfigPayload)
      (behind : List HandlerTask)
      (htasks : d.tasks = ahead ++ .applyConfiguration configuration :: behind)
      (hbehind : Recent acceptedAt behind)
  | applied (htasks : Recent acceptedAt d.tasks)
      (hunits : ∀ unit ∈ d.pipeline.units, acceptedAt ≤ unit.1)

/-- The counter above the baseline counts recent outputs only. -/
structure Counts (acceptedAt : Nat) (session : AndroidDisplaySession)
    (d : AndroidMediaCodecVideoDecoder) : Prop where
  submissions : acceptedAt ≤ d.submissions
  outputs : d.metrics.outputsReleasedToSurface ≤
    session.surfaceOutputBaseline + d.releases.countP (acceptedAt ≤ ·)
  separated : Separated acceptedAt d

structure Inv (h : OutputHistory) : Prop where
  isOpen : AndroidDisplay.Open h.display
  counts : ∀ configuration, h.display.session.activeConfiguration = some configuration →
    ∃ acceptedAt, h.accepted = some (configuration, acceptedAt) ∧
      Counts acceptedAt h.display.session h.display.decoder
  displays : DisplaysOutput h

section Steps

variable {step : DisplayStep} {acceptedAt : Nat} {session next : AndroidDisplaySession}
  {d d' : AndroidMediaCodecVideoDecoder} {extra : List HandlerTask}

theorem Recent.append {tasks : List HandlerTask} (h : Recent acceptedAt tasks)
    (hextra : Recent acceptedAt extra) : Recent acceptedAt (tasks ++ extra) := by
  intro submission frame hmem
  exact (List.mem_append.mp hmem).elim (h submission frame) (hextra submission frame)

theorem releases_queues (h : Queues extra d d') : d'.releases = d.releases := by
  rw [releases, h.history, releases]

theorem recent_queues (h : Queues extra d d') (hle : acceptedAt ≤ d.submissions) :
    Recent acceptedAt extra :=
  fun submission frame hmem => hle.trans (h.numbered submission frame hmem)

theorem Separated.of_queues (h : Separated acceptedAt d) (hqueues : Queues extra d d')
    (hextra : Recent acceptedAt extra) : Separated acceptedAt d' := by
  cases h with
  | queued ahead configuration behind htasks hbehind =>
    refine .queued ahead configuration (behind ++ extra) ?_ (hbehind.append hextra)
    rw [hqueues.tasks, htasks]
    simp
  | applied htasks hunits =>
    refine .applied ?_ ?_
    · rw [hqueues.tasks]
      exact htasks.append hextra
    · rw [hqueues.pipeline]
      exact hunits

theorem Counts.of_queues (h : Counts acceptedAt session d) (hqueues : Queues extra d d')
    (hbaseline : next.surfaceOutputBaseline = session.surfaceOutputBaseline ∨
      next.surfaceOutputBaseline = d.metrics.outputsReleasedToSurface) :
    Counts acceptedAt next d' := by
  refine ⟨h.submissions.trans hqueues.submissions, ?_,
    h.separated.of_queues hqueues (recent_queues hqueues h.submissions)⟩
  rw [hqueues.outputs, releases_queues hqueues]
  rcases hbaseline with hsame | hraised
  · rw [hsame]
    exact h.outputs
  · rw [hraised]
    exact Nat.le_add_right _ _

theorem Separated.execute {task : HandlerTask} {tasks : List HandlerTask}
    (platform : CodecPlatform) (hopen : d.closed = false) (htasks : d.tasks = task :: tasks)
    (h : Separated acceptedAt d) :
    Separated acceptedAt ({ d with tasks }.execute platform task) := by
  have hkept : ({ d with tasks }.execute platform task).tasks = tasks :=
    (execute_keeps platform { d with tasks } task).tasks
  cases h with
  | queued ahead configuration behind hqueue hbehind =>
    rw [htasks] at hqueue
    cases ahead with
    | nil =>
      cases hqueue
      refine .applied (by rwa [hkept]) ?_
      have hunits : ({ d with tasks }.execute platform (.applyConfiguration configuration)).pipeline.units =
          [] := runApplyConfiguration_units (d := { d with tasks }) hopen configuration
      rw [hunits]
      simp
    | cons first ahead =>
      cases hqueue
      exact .queued ahead configuration behind hkept hbehind
  | applied hrecent hunits =>
    rw [htasks] at hrecent
    refine .applied ?_ ?_
    · rw [hkept]
      intro submission frame hmem
      exact hrecent submission frame (List.mem_cons_of_mem _ hmem)
    · intro unit hunit
      rcases (execute_flow platform { d with tasks } task).units unit hunit with
        hold | ⟨frame, htask, -⟩
      · exact hunits unit hold
      · exact hrecent unit.1 frame (by simp [htask])

/-- The task at the head of the queue shows an output only when nothing old is left. -/
theorem Counts.execute {task : HandlerTask} {tasks : List HandlerTask} (platform : CodecPlatform)
    (hopen : d.closed = false) (htasks : d.tasks = task :: tasks)
    (hholds : d.tasks.any (·.appliesConfiguration) = true → d.releasesOutput platform task = false)
    (h : Counts acceptedAt session d) :
    Counts acceptedAt session ({ d with tasks }.execute platform task) := by
  have hkeeps := execute_keeps platform { d with tasks } task
  refine ⟨h.submissions.trans hkeeps.submissions.ge, ?_, h.separated.execute platform hopen htasks⟩
  have houtputs := h.outputs
  rcases (execute_flow platform { d with tasks } task).output with
    hsilent | ⟨hreleases, unit, hshows⟩
  · have hle := hsilent.outputs
    rw [hsilent.releases]
    exact hle.trans houtputs
  · have hrecent : acceptedAt ≤ unit.1 := by
      cases h.separated with
      | queued ahead configuration behind hqueue =>
        have hwaits : d.tasks.any (·.appliesConfiguration) = true := by
          rw [hqueue]
          simp [HandlerTask.appliesConfiguration]
        have hheld := hholds hwaits
        have hsame : d.releasesOutput platform task =
            { d with tasks }.releasesOutput platform task := by
          cases task <;> rfl
        rw [hsame, hreleases] at hheld
        cases hheld
      | applied _ hunits => exact hunits unit hshows.mem
    have hle := hshows.outputs
    have hcount : { d with tasks }.releases = d.releases := rfl
    change _ ≤ d.metrics.outputsReleasedToSurface + 1 at hle
    rw [hshows.releases, hcount, List.countP_append]
    simp only [List.countP_singleton, hrecent, decide_true, if_true]
    omega

/-- Nothing new is displayed. -/
theorem DisplaysOutput.of_same {h : OutputHistory} {display : AndroidDisplay}
    (hdisplays : DisplaysOutput h)
    (hstate : isDisplaying display.session.state = true →
      display.session.state = h.display.session.state)
    (hreleases : ∀ submission ∈ h.display.decoder.releases,
      submission ∈ display.decoder.releases) : DisplaysOutput ⟨display, h.accepted⟩ := by
  intro hostName configuration hdisplaying
  have hsame := hstate (by rw [hdisplaying]; rfl)
  rw [hsame] at hdisplaying
  obtain ⟨acceptedAt, haccepted, submission, hmem, hle⟩ :=
    hdisplays hostName configuration hdisplaying
  exact ⟨acceptedAt, haccepted, submission, hreleases submission hmem, hle⟩

theorem DisplaysOutput.of_queues {h : OutputHistory} {display : AndroidDisplay}
    (hdisplays : DisplaysOutput h)
    (hstate : isDisplaying display.session.state = true →
      display.session.state = h.display.session.state)
    (hqueues : Queues extra h.display.decoder display.decoder) :
    DisplaysOutput ⟨display, h.accepted⟩ := by
  refine hdisplays.of_same hstate ?_
  rw [releases_queues hqueues]
  exact fun _ => id

theorem displaysOutput_of_not {h : OutputHistory}
    (hstate : isDisplaying h.display.session.state = false) : DisplaysOutput h := by
  intro hostName configuration hdisplaying
  rw [hdisplaying] at hstate
  cases hstate

/-- The metrics publish `Displaying` only above the baseline. -/
theorem handleDecoderMetrics_displays (session : AndroidDisplaySession)
    (metrics : VideoDecoderMetrics) :
    (session.handleDecoderMetrics metrics).activeConfiguration = session.activeConfiguration ∧
      (session.handleDecoderMetrics metrics).surfaceOutputBaseline =
        session.surfaceOutputBaseline ∧
      ((session.handleDecoderMetrics metrics).state = session.state ∨
        ∃ hostName configuration, session.activeConfiguration = some configuration ∧
          (session.handleDecoderMetrics metrics).state = .displaying hostName configuration ∧
          session.surfaceOutputBaseline < metrics.outputsReleasedToSurface) := by
  rw [handleDecoderMetrics]
  split
  · rename_i configuration hello hactive hhello
    simp only
    split
    · rename_i hshows
      simp only [showsOutput, Bool.and_eq_true, decide_eq_true_eq] at hshows
      exact ⟨rfl, rfl, .inr ⟨hello.implementationName, configuration, hactive, rfl, hshows.2⟩⟩
    · exact ⟨rfl, rfl, .inl rfl⟩
  · exact ⟨rfl, rfl, .inl rfl⟩

/-- An output above the baseline is a recent one. -/
theorem Counts.exists_recent (h : Counts acceptedAt session d)
    (hlt : session.surfaceOutputBaseline < d.metrics.outputsReleasedToSurface) :
    ∃ submission ∈ d.releases, acceptedAt ≤ submission := by
  have houtputs := h.outputs
  have hpos : 0 < d.releases.countP (acceptedAt ≤ ·) := by omega
  obtain ⟨submission, hmem, hle⟩ := List.countP_pos_iff.mp hpos
  exact ⟨submission, hmem, of_decide_eq_true hle⟩

theorem Inv.preserved {h after : OutputHistory} (hinv : Inv h) (hholds : h.HoldsOutputs step)
    (hstep : h.step step = some after) : Inv after := by
  obtain ⟨display, hdisplay, rfl⟩ := Option.map_eq_some_iff.mp hstep
  have heffect := AndroidDisplay.step_effect hinv.isOpen hdisplay
  have hopen := heffect.open hinv.isOpen
  cases heffect with
  | kept extra hnone hsame hpicture hmoves hqueues hextra hseen =>
    simp only [hnone]
    refine ⟨hopen, ?_, hinv.displays.of_queues hpicture.state hqueues⟩
    intro configuration hactive
    rw [hpicture.activeConfiguration] at hactive
    obtain ⟨acceptedAt, haccepted, hcounts⟩ := hinv.counts configuration hactive
    exact ⟨acceptedAt, haccepted, hcounts.of_queues hqueues (.inl hpicture.surfaceOutputBaseline)⟩
  | ended extra hnone hsame hends hmoves hqueues hseen =>
    simp only [hnone]
    refine ⟨hopen, ?_, hinv.displays.of_queues hends.state hqueues⟩
    simp [hends.activeConfiguration]
  | restarted extra hnone hrestarts hqueues hseen =>
    refine ⟨hopen, ?_, displaysOutput_of_not hrestarts.state⟩
    simp [hrestarts.activeConfiguration]
  | configured configuration haccepts hsame hcodec hconfigured hqueues hseen =>
    refine ⟨hopen, ?_, displaysOutput_of_not hconfigured.state⟩
    intro active hactive
    rw [hconfigured.activeConfiguration] at hactive
    cases hactive
    simp only [haccepts]
    refine ⟨_, rfl, hqueues.submissions, ?_, ?_⟩
    · rw [hqueues.outputs, hconfigured.surfaceOutputBaseline]
      exact Nat.le_add_right _ _
    · exact .queued h.display.decoder.tasks configuration [] hqueues.tasks (by simp [Recent])
  | stateHandled extra hnone hsame hhandled hmoves hqueues hseen =>
    simp only [hnone]
    refine ⟨hopen, ?_, hinv.displays.of_queues hhandled.state hqueues⟩
    intro configuration hactive
    rw [hhandled.activeConfiguration] at hactive
    obtain ⟨acceptedAt, haccepted, hcounts⟩ := hinv.counts configuration hactive
    exact ⟨acceptedAt, haccepted, hcounts.of_queues hqueues hhandled.surfaceOutputBaseline⟩
  | metricsHandled hmetrics hsession hdecoder hseen =>
    subst hmetrics
    obtain ⟨hactive, hbaseline, hstate⟩ := handleDecoderMetrics_displays
      { h.display.session with calls := [] } h.display.decoder.metrics
    rw [← hsession] at hactive hbaseline hstate
    refine ⟨hopen, ?_, ?_⟩
    · intro configuration hafter
      rw [hactive] at hafter
      obtain ⟨acceptedAt, haccepted, hcounts⟩ := hinv.counts configuration hafter
      refine ⟨acceptedAt, haccepted, ?_⟩
      simp only [hdecoder]
      exact hcounts.of_queues (Queues.refl _) (.inl hbaseline)
    · rcases hstate with hsame | ⟨hostName, configuration, hshown, hpublished, hlt⟩
      · refine hinv.displays.of_same (fun _ => hsame) ?_
        rw [hdecoder]
        exact fun _ => id
      · intro name shown hdisplaying
        rw [hpublished] at hdisplaying
        cases hdisplaying
        obtain ⟨acceptedAt, haccepted, hcounts⟩ := hinv.counts configuration hshown
        refine ⟨acceptedAt, haccepted, ?_⟩
        simp only [hdecoder]
        exact hcounts.exists_recent hlt
  | ran platform task tasks hrun htasks hran =>
    subst hrun
    subst hran
    refine ⟨hopen, ?_, ?_⟩
    · intro configuration hactive
      obtain ⟨acceptedAt, haccepted, hcounts⟩ := hinv.counts configuration hactive
      refine ⟨acceptedAt, haccepted,
        hcounts.execute platform hinv.isOpen.closed htasks ?_⟩
      intro hwaits
      have hheld := hholds (by rw [show h.display.session.activeConfiguration = _ from hactive]; rfl)
        hwaits
      simpa [htasks] using hheld
    · refine hinv.displays.of_same (fun _ => rfl) ?_
      intro submission hmem
      rcases (execute_flow platform { h.display.decoder with tasks } task).output with
        hsilent | ⟨-, unit, hshows⟩
      · simp only [hsilent.releases]
        exact hmem
      · simp only [hshows.releases]
        exact List.mem_append_left _ hmem

end Steps

theorem inv_new (localCapabilities : CapabilitiesPayload) (maxInFlightAccessUnits : Nat)
    (h : 0 < maxInFlightAccessUnits) : Inv (new localCapabilities maxInFlightAccessUnits h) := by
  refine ⟨AndroidDisplay.open_new _ _ h, ?_, displaysOutput_of_not rfl⟩
  intro configuration hactive
  cases hactive

/-- In every interleaving, `Displaying` follows an output of its own configuration. -/
theorem displaying_after_output (localCapabilities : CapabilitiesPayload)
    {maxInFlightAccessUnits : Nat} (hcapacity : 0 < maxInFlightAccessUnits)
    {steps : List DisplayStep} {h : OutputHistory}
    (hholds : machine.Admits HoldsOutputs (new localCapabilities maxInFlightAccessUnits hcapacity)
      steps)
    (hrun : machine.run (new localCapabilities maxInFlightAccessUnits hcapacity) steps = some h) :
    DisplaysOutput h :=
  (machine.run_invariant_of_admits HoldsOutputs Inv
    (fun _ _ _ hinv hguard hstep => hinv.preserved hguard hstep) (inv_new _ _ hcapacity) hholds
    hrun).displays

def fullHd : OutputHistory := ⟨.fullHd, none⟩

/-- The first connection up to a keyframe inside the codec. -/
def decoding : List DisplayStep := AndroidDisplay.firstConnection ++ DisplayStep.decodeKeyframe

theorem displaying_after_output_keyframe : ∃ h,
    machine.run fullHd (decoding ++ [.keyframeOutput, .runTask .working, .decoderMetrics]) =
      some h ∧
    h.display.session.state = .displaying "LadoFlow Host" .hd ∧
    h.display.decoder.releases = [0] ∧ DisplaysOutput h := by
  have hreached : (machine.run fullHd
      (decoding ++ [.keyframeOutput, .runTask .working, .decoderMetrics])).any (fun h =>
        h.display.session.state = .displaying "LadoFlow Host" .hd ∧
        h.display.decoder.releases = [0]) = true := by
    decide +kernel
  obtain ⟨h, hrun, hend⟩ := (Option.any_eq_true _ _).mp hreached
  obtain ⟨hstate, hreleases⟩ := of_decide_eq_true hend
  exact ⟨h, hrun, hstate, hreleases, displaying_after_output .fullHd _ (by decide +kernel) hrun⟩

def largerConfiguration : DisplayConfigPayload :=
  ⟨1920, 1080, 60000, 8000, .h264, .h264Main, .refl _⟩

/-- The host asks for a larger picture. -/
def enlarge : List DisplayStep :=
  ((LdflFrame.fromPayload .none 4 ⟨.displayConfig, largerConfiguration⟩).toOption.map
    (.inboundFrame .quiet)).toList

/-- The output of the old keyframe is released between the acceptance and the task that applies
the larger configuration. -/
def outputBeforeApply : List DisplayStep :=
  decoding ++ [.keyframeOutput] ++ enlarge ++
    [.decoderState .quiet, .runTask .working, .decoderMetrics]

/-- The larger picture is displayed, and none of its frames was ever submitted. -/
theorem displaying_before_output : ∃ h,
    machine.run fullHd outputBeforeApply = some h ∧
    h.display.session.state = .displaying "LadoFlow Host" largerConfiguration ∧
    h.accepted = some (largerConfiguration, 1) ∧ h.display.decoder.releases = [0] ∧
    ¬DisplaysOutput h := by
  have hreached : (machine.run fullHd outputBeforeApply).any (fun h =>
      h.display.session.state = .displaying "LadoFlow Host" largerConfiguration ∧
      h.accepted = some (largerConfiguration, 1) ∧ h.display.decoder.releases = [0]) = true := by
    decide +kernel
  obtain ⟨h, hrun, hend⟩ := (Option.any_eq_true _ _).mp hreached
  obtain ⟨hstate, haccepted, hreleases⟩ := of_decide_eq_true hend
  refine ⟨h, hrun, hstate, haccepted, hreleases, ?_⟩
  intro hdisplays
  obtain ⟨acceptedAt, hsame, submission, hmem, hle⟩ := hdisplays _ _ hstate
  rw [haccepted] at hsame
  rw [hreleases] at hmem
  cases hsame
  cases List.mem_singleton.mp hmem
  cases hle

end OutputHistory

end LadoFlow.Android
