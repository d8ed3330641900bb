import LadoFlow.Android.DecoderEffects

/-!
# What the decoder shows to its session

The published state, the counters and the access units behind them, for every Handler task and
for every call that posts one.
-/

namespace LadoFlow.Android

def PipelineEvent.released? : PipelineEvent → Option Nat
  | enqueued .. => none
  | releasedToSurface submission => some submission

/-- Tasks that start no decoding. -/
def HandlerTask.awaitsFrames : HandlerTask → Bool
  | setOutputSurface _ | reset _ => true
  | task => task.isCodecCallback

namespace AndroidMediaCodecVideoDecoder

/-- The submissions released to the Surface, oldest first. -/
def releases (d : AndroidMediaCodecVideoDecoder) : List Nat := d.history.filterMap (·.released?)

/-- The task releases an access unit to the Surface. -/
def releasesOutput (platform : CodecPlatform) (d : AndroidMediaCodecVideoDecoder) :
    HandlerTask → Bool
  | .outputBufferAvailable codec index info => d.isActive codec && info.render &&
      (d.pipeline.takeOutput info.presentationTimeUs (platform.nanoTime index)).isSome &&
      (platform.releaseOutputBuffer index true).isOk
  | _ => false

/-- The counters show no new output. -/
structure Silent (before after : AndroidMediaCodecVideoDecoder) : Prop where
  releases : after.releases = before.releases
  outputs : after.metrics.outputsReleasedToSurface ≤ before.metrics.outputsReleasedToSurface
  lastReleased : after.metrics.lastReleasedFrameId = before.metrics.lastReleasedFrameId ∨
    after.metrics.lastReleasedFrameId = none

/-- The counters show the output of one access unit. -/
structure Shows (unit : Nat × UInt64) (before after : AndroidMediaCodecVideoDecoder) : Prop where
  mem : unit ∈ before.pipeline.units
  releases : after.releases = before.releases ++ [unit.1]
  outputs : after.metrics.outputsReleasedToSurface ≤ before.metrics.outputsReleasedToSurface + 1
  lastReleased : after.metrics.lastReleasedFrameId = some unit.2

/-- Where access units come from and where they go during one task. -/
structure FlowEffect (platform : CodecPlatform) (task : HandlerTask)
    (before after : AndroidMediaCodecVideoDecoder) : Prop where
  units : ∀ unit ∈ after.pipeline.units, unit ∈ before.pipeline.units ∨
    ∃ frame, task = .frame unit.1 frame ∧ frame.videoFrameId = some unit.2
  dropped : after.metrics.droppedFrames + after.pipeline.depth ≤
    before.metrics.droppedFrames + before.pipeline.depth + (if task.isFrame then 1 else 0)
  output : Silent before after ∨
    before.releasesOutput platform task = true ∧ ∃ unit, Shows unit before after

section Flow

variable {platform : CodecPlatform} {task : HandlerTask}
  {d before after : AndroidMediaCodecVideoDecoder}

theorem Silent.refl (d : AndroidMediaCodecVideoDecoder) : Silent d d :=
  ⟨rfl, Nat.le_refl _, .inl rfl⟩

theorem Drains.silent {stranded : Nat} (h : Drains stranded before after) : Silent before after :=
  ⟨by rw [releases, h.history, releases], h.outputsReleasedToSurface.le, .inl h.lastReleasedFrameId⟩

theorem Drains.flow {stranded : Nat} (h : Drains stranded before after) :
    FlowEffect platform task before after :=
  ⟨fun unit hunit => .inl (h.units unit hunit), h.dropped.trans (Nat.le_add_right _ _),
    .inl h.silent⟩

theorem FrameEffect.silent {stranded submission : Nat} {frame : LdflFrame}
    (h : FrameEffect stranded submission frame before after) : Silent before after := by
  refine ⟨?_, h.outputsReleasedToSurface.le, .inl h.lastReleasedFrameId⟩
  rcases h.history with hsame | ⟨hadmitted, -⟩
  · rw [releases, hsame, releases]
  · simp [releases, hadmitted, PipelineEvent.released?]

theorem FrameEffect.flow {stranded submission : Nat} {frame : LdflFrame}
    (h : FrameEffect stranded submission frame before after) :
    FlowEffect platform (.frame submission frame) before after := by
  refine ⟨?_, h.dropped, .inl h.silent⟩
  intro unit hunit
  rcases h.units unit hunit with hold | ⟨rfl, hframe⟩
  · exact .inl hold
  · exact .inr ⟨frame, rfl, hframe⟩

/-- Without a release, an output callback only drains. -/
theorem onOutputBufferAvailable_drained {codec index : Nat} {info : BufferInfo}
    (h : d.releasesOutput platform (.outputBufferAvailable codec index info) = false) :
    ∃ stranded, Drains stranded d (d.onOutputBufferAvailable platform codec index info) := by
  rw [onOutputBufferAvailable]
  rw [releasesOutput] at h
  cases hactive : d.isActive codec with
  | false => exact ⟨0, Drains.refl d⟩
  | true =>
    cases hrender : info.render with
    | false =>
      simp only [Bool.false_eq_true, if_false, not_true_eq_false]
      split
      · exact ⟨0, handleCodecFailure_drains d _ _⟩
      · exact ⟨0, finishOutput_drains d info⟩
    | true =>
      simp only [if_true, not_true_eq_false, if_false]
      cases htake : d.pipeline.takeOutput info.presentationTimeUs (platform.nanoTime index) with
      | none =>
        simp only
        split
        · exact ⟨0, handleCodecFailure_drains d _ _⟩
        · exact ⟨0, handleCodecFailure_drains d _ _⟩
      | some taken =>
        cases hrelease : platform.releaseOutputBuffer index true with
        | error exception => exact ⟨1, outputFailure_drains htake exception⟩
        | ok _ =>
          rw [hactive, hrender, htake, hrelease] at h
          cases h

theorem OutputEffect.flow {stranded : Nat} {info : BufferInfo}
    (h : OutputEffect stranded info before after)
    (hreleases : before.releasesOutput platform task = true) :
    FlowEffect platform task before after := by
  cases h with
  | drained h => exact h.flow
  | released output pipeline nanos hstranded htake h =>
    obtain ⟨hdepth, -, hmem, hunits⟩ := DecoderPipelineLedger.takeOutput_some htake
    refine ⟨fun unit hunit => .inl (hunits unit (h.units unit hunit)), ?_, .inr ⟨hreleases, ?_⟩⟩
    · have hdropped := h.dropped
      change _ ≤ before.metrics.droppedFrames + pipeline.depth at hdropped
      omega
    · refine ⟨(output.submission, output.frameId), hmem, ?_, ?_, h.lastReleasedFrameId⟩
      · rw [AndroidMediaCodecVideoDecoder.releases, h.history]
        simp [AndroidMediaCodecVideoDecoder.releases, releaseOutput, emit, recordOutput,
          releaseInFlight, updateQueueDepth, PipelineEvent.released?]
      · rw [h.outputsReleasedToSurface]
        exact saturatingAddLong_le _ _

/-- Only the pipeline, the counters and the history matter. -/
theorem FlowEffect.of_same {middle : AndroidMediaCodecVideoDecoder}
    (h : FlowEffect platform task before middle) (hpipeline : after.pipeline = middle.pipeline)
    (hmetrics : after.metrics = middle.metrics) (hhistory : after.history = middle.history) :
    FlowEffect platform task before after := by
  obtain ⟨hunits, hdropped, houtput⟩ := h
  have hreleases : after.releases = middle.releases := by rw [releases, hhistory, releases]
  refine ⟨by rwa [hpipeline], by rwa [hmetrics, hpipeline], ?_⟩
  rcases houtput with hsilent | ⟨hreleased, unit, hshows⟩
  · refine .inl ⟨hreleases.trans hsilent.releases, ?_, ?_⟩
    · rw [hmetrics]
      exact hsilent.outputs
    · rw [hmetrics]
      exact hsilent.lastReleased
  · refine .inr ⟨hreleased, unit, hshows.mem, hreleases.trans hshows.releases, ?_, ?_⟩
    · rw [hmetrics]
      exact hshows.outputs
    · rw [hmetrics]
      exact hshows.lastReleased

theorem execute_flow (platform : CodecPlatform) (d : AndroidMediaCodecVideoDecoder)
    (task : HandlerTask) : FlowEffect platform task d (d.execute platform task) := by
  cases task with
  | setOutputSurface surface =>
    rw [execute, runSetOutputSurface]
    split
    · exact (Drains.refl d).flow
    · exact (discardCodecPipeline_drains d _ _).flow.of_same rfl rfl rfl
  | applyConfiguration configuration =>
    rw [execute, runApplyConfiguration]
    split
    · exact (Drains.refl d).flow
    · simp only
      split
      · exact (discardCodecPipeline_drains d _ _).flow.of_same rfl rfl rfl
      · exact (discardCodecPipeline_drains d _ _).flow.of_same rfl rfl rfl
  | frame submission frame =>
    rw [execute]
    split
    · exact ⟨fun unit hunit => .inl hunit, Nat.le_add_right _ _, .inl ⟨rfl, Nat.le_refl _, .inl rfl⟩⟩
    · exact (processSubmittedFrame_effect platform d submission frame).flow
  | reset reason =>
    rw [execute, runReset]
    split
    · exact (Drains.refl d).flow
    · exact ⟨by simp [releaseCodec, releaseInFlight, updateQueueDepth, emit], Nat.zero_le _,
        .inl ⟨rfl, Nat.zero_le _, .inr rfl⟩⟩
  | overflowRecovery =>
    rw [execute, runOverflowRecovery]
    simp only
    split
    · exact (Drains.refl d).flow.of_same rfl rfl rfl
    · exact (Drains.refl d).flow.of_same rfl rfl rfl
  | close => exact (releaseCodec_drains d).flow.of_same rfl rfl rfl
  | inputBufferAvailable codec index =>
    exact (onInputBufferAvailable_drains platform d codec index).flow
  | outputBufferAvailable codec index info =>
    cases hreleases : d.releasesOutput platform (.outputBufferAvailable codec index info) with
    | true => exact (onOutputBufferAvailable_effect platform d codec index info).flow hreleases
    | false =>
      obtain ⟨stranded, hdrains⟩ := onOutputBufferAvailable_drained hreleases
      exact hdrains.flow
  | outputFormatChanged codec width height =>
    rw [execute, onOutputFormatChanged]
    split
    · exact (Drains.refl d).flow
    · exact (Drains.refl d).flow.of_same rfl rfl rfl
  | codecError codec diagnosticInfo =>
    rw [execute, onError]
    split
    · exact (Drains.refl d).flow
    · exact (handleCodecFailure_drains d _ _).flow

/-- A new configuration discards the pipeline. -/
theorem runApplyConfiguration_units (hopen : d.closed = false)
    (configuration : DisplayConfigPayload) :
    (d.runApplyConfiguration configuration).pipeline.units = [] := by
  have hdiscard : (d.discardCodecPipeline .configurationChanged
      "DisplayConfig changed; discarded in-flight access units").pipeline.units = [] := by
    rw [discardCodecPipeline]
    split <;> rfl
  rw [runApplyConfiguration, if_neg (by simp [hopen])]
  simp only
  split
  · exact hdiscard
  · exact hdiscard

end Flow

section PublishedState

/-- The published state fits the presence of a configuration. -/
def agrees (configuration : Option DisplayConfigPayload) : VideoDecoderState → Bool
  | .idle | .awaitingConfiguration => configuration.isNone
  | .awaitingKeyframe _ | .running .. | .recovering .. => configuration.isSome
  | .awaitingSurface _ | .failed .. | .closed => true

def Agrees (d : AndroidMediaCodecVideoDecoder) : Prop := agrees d.configuration d.state = true

variable {platform : CodecPlatform} {d : AndroidMediaCodecVideoDecoder}

theorem agrees_idleState (surface : Option Nat) (configuration : Option DisplayConfigPayload) :
    agrees configuration (idleState surface configuration) = true := by
  cases surface <;> cases configuration <;> rfl

theorem discardCodecPipeline_state (reason : DecoderDropReason) (detail : String) :
    (d.discardCodecPipeline reason detail).state = d.state := by
  rw [discardCodecPipeline]
  split <;> rfl

theorem handleCodecFailure_agrees (message : String) (reason : DecoderDropReason)
    (additionallyDropped : Nat) :
    (d.handleCodecFailure message reason additionallyDropped).Agrees := by
  have hconfiguration : (d.handleCodecFailure message reason additionallyDropped).configuration =
      d.configuration := rfl
  rw [Agrees, hconfiguration]
  simp only [handleCodecFailure]
  split
  · rename_i configuration surface hle hsome hsurface
    rw [show d.configuration = some configuration from hsome]
    rfl
  · rfl

theorem pumpLoop_agrees (active : ActiveCodec) (buffers : List Nat) (h : d.Agrees) :
    (pumpLoop platform active buffers d).Agrees := by
  induction buffers generalizing d with
  | nil => exact h
  | cons index buffers ih =>
    rw [pumpLoop]
    split
    · exact h
    · simp only
      split
      · exact handleCodecFailure_agrees _ _ _
      · exact ih h

theorem pumpInput_agrees (h : d.Agrees) : (d.pumpInput platform).Agrees := by
  rw [pumpInput]
  split
  · exact h
  · exact pumpLoop_agrees _ _ h

theorem ensureCodec_agrees (configuration : DisplayConfigPayload)
    (parameterSets : H264ParameterSets) (hsome : d.configuration.isSome = true) (h : d.Agrees) :
    (d.ensureCodec platform configuration parameterSets).Agrees := by
  rw [ensureCodec]
  split
  · exact h
  · exact h
  · split
    · exact handleCodecFailure_agrees _ _ _
    · simp only
      split
      · exact handleCodecFailure_agrees _ _ _
      · exact hsome

theorem enterPipeline_agrees (pipeline : DecoderPipelineLedger) (pending : PendingInput)
    (configuration : DisplayConfigPayload) (parameterSets : H264ParameterSets)
    (warning : Option String) (hsome : d.configuration.isSome = true) (h : d.Agrees) :
    (d.enterPipeline platform pipeline pending configuration parameterSets warning).Agrees := by
  rw [enterPipeline]
  apply pumpInput_agrees
  cases warning with
  | none => exact ensureCodec_agrees configuration parameterSets hsome h
  | some warning => exact ensureCodec_agrees configuration parameterSets hsome h

theorem handlePipelineOverflow_agrees (pending : PendingInput) (parameterSets : H264ParameterSets)
    (configuration : DisplayConfigPayload) (hsome : d.configuration.isSome = true) (h : d.Agrees) :
    (d.handlePipelineOverflow platform pending parameterSets configuration).2.Agrees := by
  rw [handlePipelineOverflow]
  simp only
  split
  · split
    · exact enterPipeline_agrees _ _ _ _ _ hsome h
    · exact h
  · exact hsome

theorem processReady_agrees (pending : PendingInput) (parameterSets : H264ParameterSets)
    (requiresCodecRestart : Bool) (configuration : DisplayConfigPayload)
    (hsome : d.configuration.isSome = true) (h : d.Agrees) :
    (d.processReady platform pending parameterSets requiresCodecRestart configuration).2.Agrees := by
  have hdiscard : ∀ warned : AndroidMediaCodecVideoDecoder, warned.configuration.isSome = true →
      warned.Agrees → (warned.discardCodecPipeline .keyframeRecovery
        "Keyframe restarted the decoder and superseded older access units").configuration.isSome =
          true ∧ (warned.discardCodecPipeline .keyframeRecovery
        "Keyframe restarted the decoder and superseded older access units").Agrees := by
    intro warned hwarned hagrees
    rw [Agrees, discardCodecPipeline_state, (discardCodecPipeline_drains warned _ _).configuration]
    exact ⟨hwarned, hagrees⟩
  have hwarned : ∀ (warn : Prop) [Decidable warn] (event : VideoDecoderEvent),
      (if warn then d.emit event else d).configuration.isSome = true ∧
        (if warn then d.emit event else d).Agrees := by
    intro warn _ event
    split
    · exact ⟨hsome, h⟩
    · exact ⟨hsome, h⟩
  rw [processReady]
  obtain ⟨hconfigured, hagrees⟩ := hwarned (pending.input.isKeyframe ∧ ¬pending.input.containsIdr)
    (.warning s!"LDFL KEYFRAME {pending.input.frameId} contains no H.264 IDR NAL")
  cases requiresCodecRestart with
  | false =>
    simp only [Bool.false_eq_true, if_false]
    split
    · exact handlePipelineOverflow_agrees _ _ _ hconfigured hagrees
    · exact enterPipeline_agrees _ _ _ _ _ hconfigured hagrees
  | true =>
    obtain ⟨hcleared, hstill⟩ := hdiscard _ hconfigured hagrees
    simp only [if_true]
    split
    · exact handlePipelineOverflow_agrees _ _ _ hcleared hstill
    · exact enterPipeline_agrees _ _ _ _ _ hcleared hstill

theorem processDropped_agrees (frameId : Option UInt64) (reason : DecoderDropReason)
    (detail : String) (configuration : DisplayConfigPayload)
    (hsome : d.configuration.isSome = true) (h : d.Agrees) :
    (d.processDropped frameId reason detail configuration).Agrees := by
  simp only [processDropped]
  split <;> first | exact hsome | exact h

theorem processSubmittedFrame_agrees (submission : Nat) (frame : LdflFrame) (h : d.Agrees) :
    (d.processSubmittedFrame platform submission frame).Agrees := by
  have hframe : (d.processFrame platform submission frame).2.Agrees := by
    rw [processFrame]
    split
    · exact h
    · rename_i configuration hfilter
      have hsome : d.configuration.isSome = true := by
        rw [(Option.filter_eq_some_iff.mp hfilter).1]
        rfl
      split
      · exact h
      · rw [processDecision.eq_def]
        split
        · exact processDropped_agrees _ _ _ _ hsome h
        · exact processReady_agrees _ _ _ _ hsome h
  rw [processSubmittedFrame]
  split
  · exact hframe
  · exact hframe

theorem finishOutput_agrees (info : BufferInfo) (h : d.Agrees) : (d.finishOutput info).Agrees := by
  rw [finishOutput]
  split
  · simp only
    split
    · rename_i configuration hconfiguration
      rw [Agrees]
      simp only [hconfiguration]
      rfl
    · rw [Agrees]
      simp only [discardCodecPipeline_state,
        (discardCodecPipeline_drains (d.emit .endOfStream) _ _).configuration]
      exact h
  · exact h

theorem onOutputBufferAvailable_agrees (codec index : Nat) (info : BufferInfo) (h : d.Agrees) :
    (d.onOutputBufferAvailable platform codec index info).Agrees := by
  rw [onOutputBufferAvailable]
  split
  · exact h
  split
  · split
    · split <;> exact handleCodecFailure_agrees _ _ _
    · simp only
      split
      · exact handleCodecFailure_agrees _ _ _
      · exact finishOutput_agrees info h
  · split
    · exact handleCodecFailure_agrees _ _ _
    · exact finishOutput_agrees info h

theorem execute_agrees (task : HandlerTask) (h : d.Agrees) : (d.execute platform task).Agrees := by
  cases task with
  | setOutputSurface surface =>
    rw [execute, runSetOutputSurface]
    split
    · exact h
    · exact agrees_idleState _ _
  | applyConfiguration configuration =>
    rw [execute, runApplyConfiguration]
    split
    · exact h
    · simp only
      split
      · rfl
      · exact agrees_idleState _ _
  | frame submission frame =>
    rw [execute]
    split
    · exact h
    · exact processSubmittedFrame_agrees submission frame h
  | reset reason =>
    rw [execute, runReset]
    split
    · exact h
    · exact agrees_idleState _ _
  | overflowRecovery =>
    rw [execute, runOverflowRecovery]
    simp only
    split
    · exact h
    · rw [Agrees]
      simp only [emit]
      split <;> simp_all [agrees]
  | close => rfl
  | inputBufferAvailable codec index =>
    rw [execute, onInputBufferAvailable]
    split
    · exact h
    · exact pumpInput_agrees h
  | outputBufferAvailable codec index info => exact onOutputBufferAvailable_agrees codec index info h
  | outputFormatChanged codec width height =>
    rw [execute, onOutputFormatChanged]
    split <;> exact h
  | codecError codec diagnosticInfo =>
    rw [execute, onError]
    split
    · exact h
    · exact handleCodecFailure_agrees _ _ _

/-- No task takes a configuration away, except the last one. -/
theorem execute_configured {task : HandlerTask} (hclose : task ≠ .close)
    (h : d.configuration.isSome = true) :
    (d.execute platform task).configuration.isSome = true := by
  cases task with
  | setOutputSurface surface =>
    rw [execute, runSetOutputSurface]
    split
    · exact h
    · simpa only [(discardCodecPipeline_drains d _ _).configuration] using h
  | applyConfiguration configuration =>
    rw [execute, runApplyConfiguration]
    split
    · exact h
    · simp only
      split <;> rfl
  | frame submission frame =>
    rw [execute]
    split
    · exact h
    · rw [(processSubmittedFrame_effect platform d submission frame).configuration]
      exact h
  | reset reason =>
    rw [execute, runReset]
    split <;> exact h
  | overflowRecovery =>
    rw [execute, runOverflowRecovery]
    simp only
    split <;> exact h
  | close => exact absurd rfl hclose
  | inputBufferAvailable codec index =>
    rw [execute, (onInputBufferAvailable_drains platform d codec index).configuration]
    exact h
  | outputBufferAvailable codec index info =>
    cases onOutputBufferAvailable_effect platform d codec index info with
    | drained heffect =>
      rw [execute, heffect.configuration]
      exact h
    | released output pipeline nanos hstranded htake heffect =>
      rw [execute, heffect.configuration]
      exact h
  | outputFormatChanged codec width height =>
    rw [execute, onOutputFormatChanged]
    split <;> exact h
  | codecError codec diagnosticInfo =>
    rw [execute, onError]
    split
    · exact h
    · rw [(handleCodecFailure_drains d _ _).configuration]
      exact h

/-- The configuration is applied, and no frame has reached the decoder since. -/
structure Settled (applied : DisplayConfigPayload) (d : AndroidMediaCodecVideoDecoder) :
    Prop where
  configuration : d.configuration = some applied
  activeCodec : d.activeCodec = none
  state : d.state = idleState d.outputSurface (some applied)

theorem runApplyConfiguration_settled {configuration : DisplayConfigPayload}
    (hopen : d.closed = false) (hcodec : configuration.codec = .h264) :
    Settled configuration (d.runApplyConfiguration configuration) := by
  rw [runApplyConfiguration, if_neg (by simp [hopen])]
  simp only [hcodec, ne_eq, not_true_eq_false, if_false]
  exact ⟨rfl, discardCodecPipeline_activeCodec d _ _, rfl⟩

theorem isActive_none (h : d.activeCodec = none) (codec : Nat) : d.isActive codec = false := by
  rw [isActive, h]
  rfl

theorem execute_settled {configuration : DisplayConfigPayload} {task : HandlerTask}
    (hopen : d.closed = false) (htask : task.awaitsFrames = true) (h : Settled configuration d) :
    Settled configuration (d.execute platform task) := by
  have hinactive := isActive_none h.activeCodec
  cases task with
  | setOutputSurface surface =>
    rw [execute, runSetOutputSurface]
    split
    · exact h
    · have hdiscard := discardCodecPipeline_drains d .surfaceInvalidated
        "Decoder Surface changed; discarded in-flight access units"
      have hsame := hdiscard.configuration.trans h.configuration
      exact ⟨hsame, discardCodecPipeline_activeCodec d _ _, congrArg (idleState surface) hsame⟩
  | reset reason =>
    rw [execute, runReset, if_neg (by simp [hopen])]
    exact ⟨h.configuration, rfl, congrArg (idleState d.outputSurface) h.configuration⟩
  | inputBufferAvailable codec index =>
    simp only [execute, onInputBufferAvailable, h.activeCodec, Option.filter_none]
    exact h
  | outputBufferAvailable codec index info =>
    simpa [execute, onOutputBufferAvailable, hinactive] using h
  | outputFormatChanged codec width height =>
    simpa [execute, onOutputFormatChanged, hinactive] using h
  | codecError codec diagnosticInfo =>
    simpa [execute, onError, hinactive] using h
  | applyConfiguration | frame | overflowRecovery | close => cases htask

end PublishedState

section Callers

/-- What calls from outside do to an open decoder: they post tasks and reserve slots. -/
structure Queues (extra : List HandlerTask) (before after : AndroidMediaCodecVideoDecoder) :
    Prop where
  tasks : after.tasks = before.tasks ++ extra
  closed : after.closed = before.closed
  looperQuit : after.looperQuit = before.looperQuit
  state : after.state = before.state
  configuration : after.configuration = before.configuration
  outputSurface : after.outputSurface = before.outputSurface
  activeCodec : after.activeCodec = before.activeCodec
  pipeline : after.pipeline = before.pipeline
  history : after.history = before.history
  outputs : after.metrics.outputsReleasedToSurface = before.metrics.outputsReleasedToSurface
  dropped : after.metrics.droppedFrames = before.metrics.droppedFrames
  lastReleased : after.metrics.lastReleasedFrameId = before.metrics.lastReleasedFrameId
  submissions : before.submissions ≤ after.submissions
  numbered : ∀ submission frame, .frame submission frame ∈ extra → before.submissions ≤ submission
  noClose : .close ∉ extra

variable {d before middle after : AndroidMediaCodecVideoDecoder} {extra later : List HandlerTask}

theorem Queues.refl (d : AndroidMediaCodecVideoDecoder) : Queues [] d d :=
  ⟨by simp, rfl, rfl, rfl, rfl, rfl, rfl, rfl, rfl, rfl, rfl, rfl, Nat.le_refl _, by simp, by simp⟩

theorem Queues.trans (h : Queues extra before middle) (h' : Queues later middle after) :
    Queues (extra ++ later) before after where
  tasks := by rw [h'.tasks, h.tasks, List.append_assoc]
  closed := h'.closed.trans h.closed
  looperQuit := h'.looperQuit.trans h.looperQuit
  state := h'.state.trans h.state
  configuration := h'.configuration.trans h.configuration
  outputSurface := h'.outputSurface.trans h.outputSurface
  activeCodec := h'.activeCodec.trans h.activeCodec
  pipeline := h'.pipeline.trans h.pipeline
  history := h'.history.trans h.history
  outputs := h'.outputs.trans h.outputs
  dropped := h'.dropped.trans h.dropped
  lastReleased := h'.lastReleased.trans h.lastReleased
  submissions := h.submissions.trans h'.submissions
  numbered := by
    intro submission frame hmem
    rcases List.mem_append.mp hmem with hfirst | hsecond
    · exact h.numbered submission frame hfirst
    · exact h.submissions.trans (h'.numbered submission frame hsecond)
  noClose hmem := (List.mem_append.mp hmem).elim h.noClose h'.noClose

theorem post_queues {task : HandlerTask} (hquit : d.looperQuit = false)
    (hframe : task.isFrame = false) (hclose : task ≠ .close) :
    Queues [task] d (d.post task).2 := by
  rw [post, if_neg (by simp [hquit])]
  refine { Queues.refl d with tasks := rfl, numbered := ?_, noClose := by simpa using hclose.symm }
  intro submission frame hmem
  cases List.mem_singleton.mp hmem
  cases hframe

theorem postUnlessClosed_queues {task : HandlerTask} (hopen : d.closed = false)
    (hquit : d.looperQuit = false) (hframe : task.isFrame = false) (hclose : task ≠ .close) :
    Queues [task] d (d.postUnlessClosed task) := by
  rw [postUnlessClosed, if_neg (by simp [hopen])]
  exact post_queues hquit hframe hclose

theorem submitted_queues (d : AndroidMediaCodecVideoDecoder) : Queues [] d d.submitted :=
  { Queues.refl d with submissions := Nat.le_succ _ }

/-- A frame becomes a task, or is refused without one. -/
theorem submit_queues (hopen : d.closed = false) (hquit : d.looperQuit = false)
    (frame : LdflFrame) :
    (d.submit frame).1 = true ∧ Queues [.frame d.submissions frame] d (d.submit frame).2 ∨
      (d.submit frame).1 = false ∧ ∃ extra, (∀ task ∈ extra, task = .overflowRecovery) ∧
        Queues extra d (d.submit frame).2 := by
  by_cases hvideo : frame.messageType = .videoFrame
  · cases havailable : d.inFlightWindow.available with
    | true =>
      left
      rw [submit_accepted hopen hvideo havailable hquit]
      refine ⟨rfl, { Queues.refl d with
        tasks := rfl
        submissions := Nat.le_succ _
        numbered := ?_
        noClose := by simp }⟩
      intro submission other hmem
      cases List.mem_singleton.mp hmem
      exact Nat.le_refl _
    | false =>
      right
      rw [submit_full hopen hvideo havailable, scheduleSubmissionOverflowRecovery]
      refine ⟨rfl, ?_⟩
      split
      · exact ⟨[], by simp, submitted_queues d⟩
      · have hpost : Queues [.overflowRecovery]
            { d.submitted with submissionOverflowPending := true }
            ({ d.submitted with submissionOverflowPending := true }.post .overflowRecovery).2 :=
          post_queues hquit rfl HandlerTask.noConfusion
        have hposted : ({ d.submitted with submissionOverflowPending := true }.post
            .overflowRecovery).1 = true := by
          simp [post, submitted, hquit]
        refine ⟨[.overflowRecovery], by simp, ?_⟩
        simp only [hposted, if_true]
        have hnumbered : Queues [] d { d.submitted with submissionOverflowPending := true } :=
          { submitted_queues d with }
        exact hnumbered.trans hpost
  · right
    have hrefused : d.submit frame = (false, d.submitted) := by
      rw [submit, if_pos (.inr hvideo), submitted]
    rw [hrefused]
    exact ⟨rfl, [], by simp, submitted_queues d⟩

end Callers

end AndroidMediaCodecVideoDecoder

end LadoFlow.Android
