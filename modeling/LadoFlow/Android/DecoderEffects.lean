import LadoFlow.Android.MediaCodecDecoder

/-!
# Effects of decoder tasks

What each Handler task does to the pipeline, the window and the counters, once for all invariants.
-/

namespace LadoFlow.Android

namespace AndroidMediaCodecVideoDecoder

/-- Reserved slots that no access unit of the pipeline accounts for. -/
def held (d : AndroidMediaCodecVideoDecoder) : Int := d.inFlightWindow.occupied - d.pipeline.depth

/-- What codec work does to the decoder when it neither admits nor outputs an access unit: units
may leave the pipeline as drops. The stranded ones leave without their slot. -/
structure Drains (stranded : Nat) (before after : AndroidMediaCodecVideoDecoder) : Prop where
  closed : after.closed = before.closed
  looperQuit : after.looperQuit = before.looperQuit
  tasks : after.tasks = before.tasks
  outputSurface : after.outputSurface = before.outputSurface
  configuration : after.configuration = before.configuration
  submissionOverflowPending : after.submissionOverflowPending = before.submissionOverflowPending
  submissions : after.submissions = before.submissions
  history : after.history = before.history
  gate : after.gate = before.gate ∨ after.gate = before.gate.awaitNextKeyframe
  outputsReleasedToSurface :
    after.metrics.outputsReleasedToSurface = before.metrics.outputsReleasedToSurface
  lastReleasedFrameId : after.metrics.lastReleasedFrameId = before.metrics.lastReleasedFrameId
  dropped : after.metrics.droppedFrames + after.pipeline.depth ≤
    before.metrics.droppedFrames + before.pipeline.depth
  units : ∀ unit ∈ after.pipeline.units, unit ∈ before.pipeline.units
  windowCapacity : after.inFlightWindow.capacity = before.inFlightWindow.capacity
  pipelineCapacity : after.pipeline.capacity = before.pipeline.capacity
  occupied : after.inFlightWindow.occupied ≤ before.inFlightWindow.occupied
  held : after.held = before.held + stranded

variable {d before after : AndroidMediaCodecVideoDecoder}

theorem Drains.refl (d : AndroidMediaCodecVideoDecoder) : Drains 0 d d where
  closed := rfl
  looperQuit := rfl
  tasks := rfl
  outputSurface := rfl
  configuration := rfl
  submissionOverflowPending := rfl
  submissions := rfl
  history := rfl
  gate := .inl rfl
  outputsReleasedToSurface := rfl
  lastReleasedFrameId := rfl
  dropped := Nat.le_refl _
  units _ hunit := hunit
  windowCapacity := rfl
  pipelineCapacity := rfl
  occupied := Int.le_refl _
  held := by simp

theorem Drains.trans {first second : Nat} {middle : AndroidMediaCodecVideoDecoder}
    (h : Drains first before middle) (h' : Drains second middle after) :
    Drains (first + second) before after where
  closed := h'.closed.trans h.closed
  looperQuit := h'.looperQuit.trans h.looperQuit
  tasks := h'.tasks.trans h.tasks
  outputSurface := h'.outputSurface.trans h.outputSurface
  configuration := h'.configuration.trans h.configuration
  submissionOverflowPending := h'.submissionOverflowPending.trans h.submissionOverflowPending
  submissions := h'.submissions.trans h.submissions
  history := h'.history.trans h.history
  gate := by
    rcases h'.gate with hgate | hgate <;> rw [hgate]
    · exact h.gate
    · rcases h.gate with hbefore | hbefore <;> rw [hbefore] <;> exact .inr rfl
  outputsReleasedToSurface := h'.outputsReleasedToSurface.trans h.outputsReleasedToSurface
  lastReleasedFrameId := h'.lastReleasedFrameId.trans h.lastReleasedFrameId
  dropped := h'.dropped.trans h.dropped
  units unit hunit := h.units unit (h'.units unit hunit)
  windowCapacity := h'.windowCapacity.trans h.windowCapacity
  pipelineCapacity := h'.pipelineCapacity.trans h.pipelineCapacity
  occupied := h'.occupied.trans h.occupied
  held := by
    rw [h'.held, h.held]
    push_cast
    omega

theorem Drains.awaitNextKeyframe {stranded : Nat} (h : Drains stranded before after) :
    Drains stranded before { after with gate := after.gate.awaitNextKeyframe } :=
  { h with
    gate := by
      rcases h.gate with hgate | hgate
      · exact .inr (congrArg H264FrameGate.awaitNextKeyframe hgate)
      · refine .inr ?_
        rw [hgate]
        rfl }

theorem saturatingAddLong_le (a b : Nat) : saturatingAddLong a b ≤ a + b := Nat.min_le_left _ _

theorem releaseCodec_drains (d : AndroidMediaCodecVideoDecoder) : Drains 0 d d.releaseCodec :=
  { Drains.refl d with
    dropped := Nat.le_add_right _ _
    units := by
      intro unit hunit
      cases hunit
    occupied := Int.sub_le_self _ (Int.natCast_nonneg _)
    held := by simp [held, releaseCodec, releaseInFlight, updateQueueDepth,
      DecoderInFlightWindow.release] }

theorem drop_metrics (frameId : Option UInt64) (reason : DecoderDropReason) (detail : String)
    (count : Nat) :
    (d.drop frameId reason detail count).metrics.outputsReleasedToSurface =
        d.metrics.outputsReleasedToSurface ∧
      (d.drop frameId reason detail count).metrics.lastReleasedFrameId =
        d.metrics.lastReleasedFrameId ∧
      (d.drop frameId reason detail count).metrics.droppedFrames ≤
        d.metrics.droppedFrames + count := by
  simp only [drop, emit]
  split
  · exact ⟨rfl, rfl, saturatingAddLong_le _ _⟩
  · exact ⟨rfl, rfl, Nat.le_add_right _ _⟩

theorem discardCodecPipeline_drains (d : AndroidMediaCodecVideoDecoder)
    (reason : DecoderDropReason) (detail : String) :
    Drains 0 d (d.discardCodecPipeline reason detail) := by
  have hrelease := releaseCodec_drains d
  rw [discardCodecPipeline]
  split
  · have hmetrics := d.releaseCodec.drop_metrics none reason detail d.pipeline.depth
    exact { hrelease with
      outputsReleasedToSurface := hmetrics.1
      lastReleasedFrameId := hmetrics.2.1
      dropped := hmetrics.2.2 }
  · exact hrelease

theorem discardCodecPipeline_activeCodec (d : AndroidMediaCodecVideoDecoder)
    (reason : DecoderDropReason) (detail : String) :
    (d.discardCodecPipeline reason detail).activeCodec = none := by
  rw [discardCodecPipeline]
  split <;> rfl

/-- A failure drains the pipeline and counts the units that have already left it. -/
theorem handleCodecFailure_effect (d : AndroidMediaCodecVideoDecoder) (message : String)
    (reason : DecoderDropReason) (additionallyDropped : Nat) :
    let after := d.handleCodecFailure message reason additionallyDropped
    Drains 0 d { after with metrics := d.metrics } ∧ after.pipeline.depth = 0 ∧
      after.gate = d.gate.awaitNextKeyframe ∧
      after.metrics.outputsReleasedToSurface = d.metrics.outputsReleasedToSurface ∧
      after.metrics.lastReleasedFrameId = d.metrics.lastReleasedFrameId ∧
      after.metrics.droppedFrames ≤
        d.metrics.droppedFrames + (d.pipeline.depth + additionallyDropped) := by
  have hrelease := releaseCodec_drains d
  have hmetrics := d.releaseCodec.drop_metrics none reason message
    (d.pipeline.depth + additionallyDropped)
  refine ⟨?_, rfl, rfl, hmetrics⟩
  exact { hrelease with gate := .inr rfl }

theorem handleCodecFailure_drains (d : AndroidMediaCodecVideoDecoder) (message : String)
    (reason : DecoderDropReason) : Drains 0 d (d.handleCodecFailure message reason 0) := by
  obtain ⟨hdrains, hdepth, -, houtputs, hlast, hdropped⟩ :=
    d.handleCodecFailure_effect message reason 0
  exact { hdrains with
    outputsReleasedToSurface := houtputs
    lastReleasedFrameId := hlast
    dropped := by omega }

/-- Some access unit fails on its way into its input buffer. -/
def pumpFails (platform : CodecPlatform) (buffers : List Nat) (pending : List PendingInput) :
    Bool :=
  (buffers.zip pending).any fun unit => !(platform.queueInput unit.1 unit.2.input).isOk

/-- The step of the pump that moves one access unit into MediaCodec. -/
theorem markQueued_drains {pending : PendingInput} {pipeline : DecoderPipelineLedger}
    (h : d.pipeline.takePending = some (pending, pipeline)) (nanos : Int64) :
    Drains 0 d { d with pipeline := pipeline.markQueued pending nanos } :=
  have hdepth := DecoderPipelineLedger.depth_markQueued nanos h
  { Drains.refl d with
    dropped := by rw [hdepth]
    units := fun _ hunit => DecoderPipelineLedger.mem_units_markQueued h hunit
    pipelineCapacity := by
      rw [DecoderPipelineLedger.markQueued, (DecoderPipelineLedger.takePending_some h).1]
    held := by simp [AndroidMediaCodecVideoDecoder.held, hdepth] }

/-- An access unit that fails on its way into MediaCodec is outside the ledger. -/
theorem pumpFailure_drains {pending : PendingInput} {pipeline : DecoderPipelineLedger}
    (h : d.pipeline.takePending = some (pending, pipeline)) (message : String) :
    Drains 1 d ({ d with pipeline }.handleCodecFailure message .codecFailure 1) := by
  have hdepth := DecoderPipelineLedger.depth_takePending h
  have hcapacity : pipeline.capacity = d.pipeline.capacity := by
    rw [(DecoderPipelineLedger.takePending_some h).1]
  obtain ⟨hdrains, hzero, -, houtputs, hlast, hdropped⟩ :=
    { d with pipeline }.handleCodecFailure_effect message .codecFailure 1
  have hheld := hdrains.held
  exact { hdrains with
    outputsReleasedToSurface := houtputs
    lastReleasedFrameId := hlast
    dropped := by
      rw [hzero, hdepth]
      exact hdropped
    units := by
      intro unit hunit
      cases hunit
    pipelineCapacity := hdrains.pipelineCapacity.trans hcapacity
    held := by
      simp only [AndroidMediaCodecVideoDecoder.held] at hheld ⊢
      rw [hdepth]
      push_cast
      omega }

theorem updateQueueDepth_drains (d : AndroidMediaCodecVideoDecoder)
    (activeCodec : Option ActiveCodec) : Drains 0 d { d with activeCodec }.updateQueueDepth :=
  { Drains.refl d with }

theorem pumpLoop_drains (platform : CodecPlatform) (active : ActiveCodec) (buffers : List Nat)
    (d : AndroidMediaCodecVideoDecoder) :
    Drains (if pumpFails platform buffers d.pipeline.pending then 1 else 0) d
      (pumpLoop platform active buffers d) := by
  induction buffers generalizing d with
  | nil => exact updateQueueDepth_drains _ _
  | cons index buffers ih =>
    rw [pumpLoop]
    cases htake : d.pipeline.takePending with
    | none =>
      have hpending : d.pipeline.pending = [] := by
        rw [DecoderPipelineLedger.takePending] at htake
        split at htake
        · assumption
        · cases htake
      rw [hpending]
      exact updateQueueDepth_drains _ _
    | some taken =>
      obtain ⟨pending, pipeline⟩ := taken
      obtain ⟨hpipeline, hpending⟩ := DecoderPipelineLedger.takePending_some htake
      rw [hpending]
      simp only
      cases hqueue : platform.queueInput index pending.input with
      | error exception =>
        simp only [pumpFails, List.zip_cons_cons, List.any_cons, hqueue]
        exact pumpFailure_drains htake _
      | ok _ =>
        simp only [pumpFails, List.zip_cons_cons, List.any_cons, hqueue]
        have hmove := markQueued_drains htake (platform.nanoTime index)
        have hrest := ih { d with
          pipeline := pipeline.markQueued pending (platform.nanoTime index) }
        have hall := hmove.trans hrest
        rw [Nat.zero_add] at hall
        exact hall

/-- The pump would fail on these pending access units. -/
def strandsPending (platform : CodecPlatform) (activeCodec : Option ActiveCodec)
    (pending : List PendingInput) : Bool :=
  activeCodec.any fun active => pumpFails platform active.availableInputBuffers pending

theorem pumpInput_drains (platform : CodecPlatform) (d : AndroidMediaCodecVideoDecoder) :
    Drains (if strandsPending platform d.activeCodec d.pipeline.pending then 1 else 0) d
      (d.pumpInput platform) := by
  rw [pumpInput]
  cases d.activeCodec with
  | none => exact Drains.refl d
  | some active => exact pumpLoop_drains platform active active.availableInputBuffers d

theorem ensureCodec_drains (platform : CodecPlatform) (d : AndroidMediaCodecVideoDecoder)
    (configuration : DisplayConfigPayload) (parameterSets : H264ParameterSets) :
    Drains 0 d (d.ensureCodec platform configuration parameterSets) := by
  rw [ensureCodec]
  split
  · exact Drains.refl d
  · exact Drains.refl d
  · split
    · exact handleCodecFailure_drains d _ _
    · simp only
      split
      · exact { handleCodecFailure_drains _ _ _ with }
      · exact { Drains.refl d with }

/-- A fresh codec has no input buffer yet, and a failed one takes no input. -/
theorem strandsPending_ensureCodec (platform : CodecPlatform) (d : AndroidMediaCodecVideoDecoder)
    (configuration : DisplayConfigPayload) (parameterSets : H264ParameterSets) :
    strandsPending platform (d.ensureCodec platform configuration parameterSets).activeCodec
        (d.ensureCodec platform configuration parameterSets).pipeline.pending =
      strandsPending platform d.activeCodec d.pipeline.pending := by
  rw [ensureCodec]
  split
  · rfl
  · rfl
  · rename_i hactive hsurface
    rw [hactive]
    split
    · rfl
    · simp only
      split <;> rfl

theorem warn_drains (d : AndroidMediaCodecVideoDecoder) (message : Option String) :
    Drains 0 d (d.updateQueueDepth.warn message) ∧
      (d.updateQueueDepth.warn message).activeCodec = d.activeCodec ∧
      (d.updateQueueDepth.warn message).pipeline = d.pipeline := by
  cases message with
  | none => exact ⟨{ Drains.refl d with }, rfl, rfl⟩
  | some message => exact ⟨{ Drains.refl d with }, rfl, rfl⟩

theorem ensureCodec_pumpInput_drains (platform : CodecPlatform)
    (d : AndroidMediaCodecVideoDecoder) (configuration : DisplayConfigPayload)
    (parameterSets : H264ParameterSets) :
    Drains (if strandsPending platform d.activeCodec d.pipeline.pending then 1 else 0) d
      ((d.ensureCodec platform configuration parameterSets).pumpInput platform) := by
  have hensure := ensureCodec_drains platform d configuration parameterSets
  have hpump := pumpInput_drains platform (d.ensureCodec platform configuration parameterSets)
  have hall := hensure.trans hpump
  rw [strandsPending_ensureCodec, Nat.zero_add] at hall
  exact hall

theorem enterPipeline_drains (platform : CodecPlatform) (d : AndroidMediaCodecVideoDecoder)
    (pipeline : DecoderPipelineLedger) (pending : PendingInput)
    (configuration : DisplayConfigPayload) (parameterSets : H264ParameterSets)
    (warning : Option String) :
    Drains (if strandsPending platform d.activeCodec pipeline.pending then 1 else 0)
      (d.recordEnqueued pipeline pending)
      (d.enterPipeline platform pipeline pending configuration parameterSets warning) := by
  obtain ⟨hwarn, hactive, hpipeline⟩ := warn_drains (d.recordEnqueued pipeline pending) warning
  have hstart := ensureCodec_pumpInput_drains platform
    ((d.recordEnqueued pipeline pending).updateQueueDepth.warn warning) configuration parameterSets
  have hall := hwarn.trans hstart
  rw [hactive, hpipeline, Nat.zero_add] at hall
  exact hall

/-- What the task of a submitted frame does: the frame enters the pipeline or is dropped, and its
slot goes with it. -/
structure FrameEffect (stranded submission : Nat) (frame : LdflFrame)
    (before after : AndroidMediaCodecVideoDecoder) : Prop where
  closed : after.closed = before.closed
  looperQuit : after.looperQuit = before.looperQuit
  tasks : after.tasks = before.tasks
  outputSurface : after.outputSurface = before.outputSurface
  configuration : after.configuration = before.configuration
  submissionOverflowPending : after.submissionOverflowPending = before.submissionOverflowPending
  submissions : after.submissions = before.submissions
  history : after.history = before.history ∨
    after.history = before.history ++ [.enqueued submission frame.isKeyframe] ∧
      (frame.isKeyframe = false → before.gate.awaitingKeyframe = false)
  gate : after.history = before.history → after.gate.awaitingKeyframe = false →
    before.gate.awaitingKeyframe = false
  outputsReleasedToSurface :
    after.metrics.outputsReleasedToSurface = before.metrics.outputsReleasedToSurface
  lastReleasedFrameId : after.metrics.lastReleasedFrameId = before.metrics.lastReleasedFrameId
  dropped : after.metrics.droppedFrames + after.pipeline.depth ≤
    before.metrics.droppedFrames + before.pipeline.depth + 1
  units : ∀ unit ∈ after.pipeline.units, unit ∈ before.pipeline.units ∨
    unit.1 = submission ∧ frame.videoFrameId = some unit.2
  windowCapacity : after.inFlightWindow.capacity = before.inFlightWindow.capacity
  pipelineCapacity : after.pipeline.capacity = before.pipeline.capacity
  occupied : after.inFlightWindow.occupied ≤ before.inFlightWindow.occupied
  held : after.held = before.held - 1 + stranded

variable {submission : Nat} {frame : LdflFrame}

/-- A frame that is dropped gives its slot back. -/
theorem FrameEffect.of_drop (gate : H264FrameGate) (frameId : Option UInt64)
    (reason : DecoderDropReason) (detail : String) {count : Nat} (state : VideoDecoderState)
    (hgate : gate.awaitingKeyframe = false → d.gate.awaitingKeyframe = false)
    (hcount : count ≤ 1) :
    FrameEffect 0 submission frame d
      (({ { d with gate }.drop frameId reason detail count with state }).releaseInFlight 1) :=
  have hmetrics := { d with gate }.drop_metrics frameId reason detail count
  { closed := rfl
    looperQuit := rfl
    tasks := rfl
    outputSurface := rfl
    configuration := rfl
    submissionOverflowPending := rfl
    submissions := rfl
    history := .inl rfl
    gate := fun _ => hgate
    outputsReleasedToSurface := hmetrics.1
    lastReleasedFrameId := hmetrics.2.1
    dropped := by
      have hdropped := hmetrics.2.2
      change ({ d with gate }.drop frameId reason detail count).metrics.droppedFrames +
        d.pipeline.depth ≤ d.metrics.droppedFrames + d.pipeline.depth + 1
      change _ ≤ d.metrics.droppedFrames + count at hdropped
      omega
    units := fun _ hunit => .inl hunit
    windowCapacity := rfl
    pipelineCapacity := rfl
    occupied := Int.sub_le_self _ (Int.natCast_nonneg 1)
    held := by
      simp only [AndroidMediaCodecVideoDecoder.held, releaseInFlight, updateQueueDepth, drop, emit,
        DecoderInFlightWindow.release]
      push_cast
      omega }

/-- A frame that enters the pipeline takes its slot along. -/
theorem FrameEffect.of_enqueue {stranded : Nat} {gate : H264FrameGate}
    {prepared entered : AndroidMediaCodecVideoDecoder} {pipeline : DecoderPipelineLedger}
    {pending : PendingInput} (hprepare : Drains 0 { d with gate } prepared)
    (henqueue : prepared.pipeline.enqueue pending = some pipeline)
    (hentered : Drains stranded (prepared.recordEnqueued pipeline pending) entered)
    (hsubmission : pending.submission = submission)
    (hkey : pending.input.isKeyframe = frame.isKeyframe)
    (hframeId : frame.videoFrameId = some pending.input.frameId)
    (hchain : frame.isKeyframe = false → d.gate.awaitingKeyframe = false) :
    FrameEffect stranded submission frame d entered := by
  obtain ⟨-, hpipeline, hdepth⟩ := DecoderPipelineLedger.enqueue_some henqueue
  have hhistory : entered.history = d.history ++ [.enqueued submission frame.isKeyframe] := by
    rw [hentered.history, recordEnqueued, hprepare.history, hsubmission, hkey]
  refine
    { closed := hentered.closed.trans hprepare.closed
      looperQuit := hentered.looperQuit.trans hprepare.looperQuit
      tasks := hentered.tasks.trans hprepare.tasks
      outputSurface := hentered.outputSurface.trans hprepare.outputSurface
      configuration := hentered.configuration.trans hprepare.configuration
      submissionOverflowPending :=
        hentered.submissionOverflowPending.trans hprepare.submissionOverflowPending
      submissions := hentered.submissions.trans hprepare.submissions
      history := .inr ⟨hhistory, hchain⟩
      gate := ?_
      outputsReleasedToSurface :=
        hentered.outputsReleasedToSurface.trans hprepare.outputsReleasedToSurface
      lastReleasedFrameId := hentered.lastReleasedFrameId.trans hprepare.lastReleasedFrameId
      dropped := ?_
      units := ?_
      windowCapacity := hentered.windowCapacity.trans hprepare.windowCapacity
      pipelineCapacity := ?_
      occupied := hentered.occupied.trans hprepare.occupied
      held := ?_ }
  · intro hsame
    rw [hhistory] at hsame
    have hlength := congrArg List.length hsame
    simp at hlength
  · have hbefore := hprepare.dropped
    have hafter := hentered.dropped
    change _ ≤ prepared.metrics.droppedFrames + pipeline.depth at hafter
    change _ ≤ d.metrics.droppedFrames + d.pipeline.depth at hbefore
    omega
  · intro unit hunit
    rcases DecoderPipelineLedger.mem_units_enqueue henqueue (hentered.units unit hunit) with
      rfl | hold
    · exact .inr ⟨hsubmission, hframeId⟩
    · exact .inl (hprepare.units unit hold)
  · rw [hentered.pipelineCapacity]
    change pipeline.capacity = _
    rw [hpipeline]
    exact hprepare.pipelineCapacity
  · have hbefore := hprepare.held
    have hafter := hentered.held
    simp only [AndroidMediaCodecVideoDecoder.held, recordEnqueued] at hbefore hafter ⊢
    omega

/-- The decoder after the task of a frame: an unretained reservation is released. -/
def settle (processed : Bool × AndroidMediaCodecVideoDecoder) : AndroidMediaCodecVideoDecoder :=
  if processed.1 then processed.2 else processed.2.releaseInFlight 1

theorem drop_drains {count : Nat} (hdepth : d.pipeline.depth = 0) (frameId : Option UInt64)
    (reason : DecoderDropReason) (detail : String)
    (hcount : d.metrics.droppedFrames + count ≤
      before.metrics.droppedFrames + before.pipeline.depth) (h : Drains 0 before d) :
    Drains 0 before (d.drop frameId reason detail count) :=
  have hmetrics := d.drop_metrics frameId reason detail count
  { h with
    outputsReleasedToSurface := hmetrics.1.trans h.outputsReleasedToSurface
    lastReleasedFrameId := hmetrics.2.1.trans h.lastReleasedFrameId
    dropped := by
      have hdropped := hmetrics.2.2
      change _ + d.pipeline.depth ≤ _
      omega }

theorem handlePipelineOverflow_effect (platform : CodecPlatform) {gate : H264FrameGate}
    {prepared : AndroidMediaCodecVideoDecoder} {pending : PendingInput}
    (parameterSets : H264ParameterSets) (configuration : DisplayConfigPayload)
    (hprepare : Drains 0 { d with gate } prepared)
    (hsubmission : pending.submission = submission)
    (hkey : pending.input.isKeyframe = frame.isKeyframe)
    (hframeId : frame.videoFrameId = some pending.input.frameId)
    (hchain : frame.isKeyframe = false → d.gate.awaitingKeyframe = false) :
    FrameEffect 0 submission frame d
      (settle (prepared.handlePipelineOverflow platform pending parameterSets configuration)) := by
  have hreleased := hprepare.trans (releaseCodec_drains prepared)
  have hdropped := hprepare.dropped
  change _ ≤ d.metrics.droppedFrames + d.pipeline.depth at hdropped
  rw [handlePipelineOverflow]
  simp only
  split
  · generalize hdrop : prepared.releaseCodec.drop none .queueOverflow _ _ = emptied
    have hemptied : Drains 0 { d with gate } emptied := by
      rw [← hdrop]
      exact drop_drains rfl _ _ _ hdropped hreleased
    have hdepth : emptied.pipeline.depth = 0 := by
      rw [← hdrop]
      rfl
    cases henqueue : emptied.pipeline.enqueue pending with
    | none =>
      have hfull := DecoderPipelineLedger.enqueue_none.mp henqueue
      have hpos := emptied.pipeline.capacity_pos
      omega
    | some pipeline =>
      have hactive : emptied.activeCodec = none := by
        rw [← hdrop]
        rfl
      have hentered := enterPipeline_drains platform emptied pipeline pending configuration
        parameterSets (some s!"Decoder queue recovered on keyframe {pending.input.frameId}")
      rw [hactive] at hentered
      exact FrameEffect.of_enqueue hemptied henqueue hentered hsubmission hkey hframeId hchain
  · have hmetrics := { prepared.releaseCodec with
      gate := prepared.releaseCodec.gate.awaitNextKeyframe }.drop_metrics
      (some pending.input.frameId) .queueOverflow
      "Decoder queue overflowed; dropped the dependent chain and now awaits KEYFRAME"
      (prepared.pipeline.depth + 1)
    have hheld := hreleased.held
    exact
      { hreleased with
        history := .inl hreleased.history
        gate := by
          intro _ hopen
          cases hopen
        outputsReleasedToSurface := hmetrics.1.trans hreleased.outputsReleasedToSurface
        lastReleasedFrameId := hmetrics.2.1.trans hreleased.lastReleasedFrameId
        dropped := by
          have hcount := hmetrics.2.2
          change _ ≤ prepared.metrics.droppedFrames + (prepared.pipeline.depth + 1) at hcount
          exact Nat.le_trans hcount (Nat.succ_le_succ hdropped)
        units := by
          intro unit hunit
          cases hunit
        occupied := (Int.sub_le_self _ (Int.natCast_nonneg 1)).trans hreleased.occupied
        held := by
          simp only [AndroidMediaCodecVideoDecoder.held, settle, releaseInFlight, updateQueueDepth,
            drop, emit, DecoderInFlightWindow.release, Bool.false_eq_true, if_false] at hheld ⊢
          push_cast
          omega }

/-- An admitted access unit whose pump fails leaves its slot behind. -/
def strandsReady (platform : CodecPlatform) (d : AndroidMediaCodecVideoDecoder)
    (pending : PendingInput) (requiresCodecRestart : Bool) : Bool :=
  !requiresCodecRestart && decide (d.pipeline.depth < d.pipeline.capacity) &&
    strandsPending platform d.activeCodec (d.pipeline.pending ++ [pending])

theorem processReady_effect (platform : CodecPlatform) {gate : H264FrameGate}
    {pending : PendingInput} (parameterSets : H264ParameterSets) (requiresCodecRestart : Bool)
    (configuration : DisplayConfigPayload) (hsubmission : pending.submission = submission)
    (hkey : pending.input.isKeyframe = frame.isKeyframe)
    (hframeId : frame.videoFrameId = some pending.input.frameId)
    (hchain : frame.isKeyframe = false → d.gate.awaitingKeyframe = false) :
    FrameEffect (if d.strandsReady platform pending requiresCodecRestart then 1 else 0)
      submission frame d
      (settle ({ d with gate }.processReady platform pending parameterSets requiresCodecRestart
        configuration)) := by
  rw [processReady]
  generalize hwarn : (if pending.input.isKeyframe ∧ ¬pending.input.containsIdr then
    { d with gate }.emit _ else { d with gate }) = warned
  have hwarned : Drains 0 { d with gate } warned ∧ warned.activeCodec = d.activeCodec ∧
      warned.pipeline = d.pipeline := by
    rw [← hwarn]
    split
    · exact ⟨{ Drains.refl { d with gate } with }, rfl, rfl⟩
    · exact ⟨Drains.refl _, rfl, rfl⟩
  obtain ⟨hdrains, hactive, hpipeline⟩ := hwarned
  cases requiresCodecRestart with
  | true =>
    rw [if_pos rfl]
    have hprepare := hdrains.trans (discardCodecPipeline_drains warned .keyframeRecovery
      "Keyframe restarted the decoder and superseded older access units")
    have hactive := discardCodecPipeline_activeCodec warned .keyframeRecovery
      "Keyframe restarted the decoder and superseded older access units"
    generalize warned.discardCodecPipeline .keyframeRecovery
      "Keyframe restarted the decoder and superseded older access units" = prepared at hprepare hactive ⊢
    cases henqueue : prepared.pipeline.enqueue pending with
    | none =>
      exact handlePipelineOverflow_effect platform parameterSets configuration hprepare hsubmission
        hkey hframeId hchain
    | some pipeline =>
      have hentered := enterPipeline_drains platform prepared pipeline pending configuration
        parameterSets none
      rw [hactive] at hentered
      exact FrameEffect.of_enqueue hprepare henqueue hentered hsubmission hkey hframeId hchain
  | false =>
    rw [if_neg Bool.false_ne_true]
    cases henqueue : warned.pipeline.enqueue pending with
    | none =>
      have hfull := DecoderPipelineLedger.enqueue_none.mp henqueue
      rw [hpipeline] at hfull
      have hstrands : d.strandsReady platform pending false = false := by
        simp only [strandsReady, Bool.and_eq_false_iff, decide_eq_false_iff_not]
        exact .inl (.inr (by omega))
      rw [hstrands]
      exact handlePipelineOverflow_effect platform parameterSets configuration hdrains hsubmission
        hkey hframeId hchain
    | some pipeline =>
      obtain ⟨hroom, hnext, -⟩ := DecoderPipelineLedger.enqueue_some henqueue
      have hentered := enterPipeline_drains platform warned pipeline pending configuration
        parameterSets none
      have hstrands : strandsPending platform warned.activeCodec pipeline.pending =
          d.strandsReady platform pending false := by
        rw [hpipeline] at hroom hnext
        simp only [strandsReady, hactive, hnext, hroom, Bool.not_false, decide_true, Bool.true_and]
      rw [hstrands] at hentered
      exact FrameEffect.of_enqueue hdrains henqueue hentered hsubmission hkey hframeId hchain

theorem processDropped_eq (frameId : Option UInt64) (reason : DecoderDropReason) (detail : String)
    (configuration : DisplayConfigPayload) :
    ∃ state, d.processDropped frameId reason detail configuration =
      { d.drop frameId reason detail (if reason.countsAsVideoDrop then 1 else 0) with state } := by
  cases reason <;> exact ⟨_, rfl⟩

def strandsDecision (platform : CodecPlatform) (d : AndroidMediaCodecVideoDecoder)
    (submission : Nat) : H264GateDecision → Bool
  | .ready input _ requiresCodecRestart =>
    d.strandsReady platform ⟨submission, input⟩ requiresCodecRestart
  | .dropped .. => false

theorem processDecision_effect (platform : CodecPlatform) {decision : H264GateDecision}
    {gate : H264FrameGate} (configuration : DisplayConfigPayload)
    (h : H264FrameGate.Effect d.gate frame decision gate) :
    FrameEffect (if d.strandsDecision platform submission decision then 1 else 0) submission frame d
      (settle ({ d with gate }.processDecision platform configuration submission decision)) := by
  cases h with
  | ready input parameterSets restart gate hkey hframeId hchain hnext =>
    exact processReady_effect platform parameterSets restart configuration rfl hkey hframeId hchain
  | closed frameId reason detail gate hnext =>
    obtain ⟨state, hstate⟩ := { d with gate }.processDropped_eq frameId reason detail configuration
    rw [processDecision, hstate]
    refine FrameEffect.of_drop gate frameId reason detail state ?_ (by split <;> decide)
    intro hopen
    rw [hnext] at hopen
    cases hopen
  | kept frameId reason detail gate hopen hgap =>
    obtain ⟨state, hstate⟩ := { d with gate }.processDropped_eq frameId reason detail configuration
    rw [processDecision, hstate]
    exact FrameEffect.of_drop gate frameId reason detail state (fun _ => hopen)
      (by split <;> decide)

/-- Processing the frame strands its access unit or an older one outside the ledger. -/
def strandsFrame (platform : CodecPlatform) (d : AndroidMediaCodecVideoDecoder) (submission : Nat)
    (frame : LdflFrame) : Bool :=
  (d.configuration.filter (·.codec = .h264)).isSome && d.outputSurface.isSome &&
    d.strandsDecision platform submission (d.gate.offer frame).1

theorem FrameEffect.of_refused (frameId : Option UInt64) (reason : DecoderDropReason)
    (detail : String) :
    FrameEffect 0 submission frame d (settle (false, d.drop frameId reason detail 1)) := by
  have hdrop := @FrameEffect.of_drop d submission frame d.gate frameId reason detail 1 d.state id
    (Nat.le_refl 1)
  exact hdrop

theorem processSubmittedFrame_effect (platform : CodecPlatform) (d : AndroidMediaCodecVideoDecoder)
    (submission : Nat) (frame : LdflFrame) :
    FrameEffect (if d.strandsFrame platform submission frame then 1 else 0) submission frame d
      (d.processSubmittedFrame platform submission frame) := by
  change FrameEffect _ _ _ _ (settle (d.processFrame platform submission frame))
  rw [processFrame, strandsFrame]
  cases d.configuration.filter (·.codec = .h264) with
  | none =>
    simp only [Option.isSome_none, Bool.false_and, if_neg Bool.false_ne_true]
    exact FrameEffect.of_refused _ _ _
  | some configuration =>
    simp only [Option.isSome_some, Bool.true_and]
    by_cases hsurface : d.outputSurface = none
    · rw [if_pos hsurface, hsurface]
      simp only [Option.isSome_none, Bool.false_and, if_neg Bool.false_ne_true]
      exact FrameEffect.of_refused _ _ _
    · rw [if_neg hsurface, Option.isSome_iff_ne_none.mpr hsurface, Bool.true_and]
      exact processDecision_effect platform configuration (d.gate.offer_effect frame)

/-- The access unit of a refused output has left the ledger, but not the window. -/
theorem outputFailure_drains {output : CorrelatedDecoderOutput} {pipeline : DecoderPipelineLedger}
    {timestamp nanos : Int64}
    (h : d.pipeline.takeOutput timestamp nanos = some (output, pipeline))
    (exception : CodecException) : Drains 1 d ({ d with pipeline }.outputFailure exception) := by
  obtain ⟨hdepth, hcapacity, -, hunits⟩ := DecoderPipelineLedger.takeOutput_some h
  have hfail := handleCodecFailure_drains { d with pipeline }
    (exception.getD "Unable to release MediaCodec output") .codecFailure
  have hdropped := hfail.dropped
  have hheld := hfail.held
  exact { hfail with
    dropped := by
      change _ ≤ d.metrics.droppedFrames + pipeline.depth at hdropped
      exact hdropped.trans (by omega)
    units := fun unit hunit => hunits unit (hfail.units unit hunit)
    pipelineCapacity := hfail.pipelineCapacity.trans hcapacity
    held := by
      simp only [AndroidMediaCodecVideoDecoder.held, outputFailure] at hheld ⊢
      rw [hdepth]
      push_cast
      omega }

theorem finishOutput_drains (d : AndroidMediaCodecVideoDecoder) (info : BufferInfo) :
    Drains 0 d (d.finishOutput info) := by
  rw [finishOutput]
  split
  · have hdiscard := discardCodecPipeline_drains (d.emit .endOfStream) .codecFailure
      "End of stream discarded trailing in-flight access units"
    simp only
    split
    · exact { hdiscard.awaitNextKeyframe with }
    · exact { hdiscard.awaitNextKeyframe with }
  · exact Drains.refl d

/-- An output callback either drains the decoder or releases one access unit to the Surface. -/
inductive OutputEffect (stranded : Nat) (info : BufferInfo)
    (d after : AndroidMediaCodecVideoDecoder) : Prop
  | drained (h : Drains stranded d after)
  | released (output : CorrelatedDecoderOutput) (pipeline : DecoderPipelineLedger) (nanos : Int64)
      (hstranded : stranded = 0)
      (htake : d.pipeline.takeOutput info.presentationTimeUs nanos = some (output, pipeline))
      (h : Drains 0 ({ d with pipeline }.releaseOutput output info) after)

/-- MediaCodec refuses an output whose access unit has already left the ledger. -/
def strandsOutput (platform : CodecPlatform) (d : AndroidMediaCodecVideoDecoder)
    (codec index : Nat) (info : BufferInfo) : Bool :=
  d.isActive codec && info.render &&
    (d.pipeline.takeOutput info.presentationTimeUs (platform.nanoTime index)).isSome &&
    !(platform.releaseOutputBuffer index true).isOk

theorem onOutputBufferAvailable_effect (platform : CodecPlatform)
    (d : AndroidMediaCodecVideoDecoder) (codec index : Nat) (info : BufferInfo) :
    OutputEffect (if d.strandsOutput platform codec index info then 1 else 0) info d
      (d.onOutputBufferAvailable platform codec index info) := by
  rw [onOutputBufferAvailable, strandsOutput]
  cases d.isActive codec with
  | false => exact .drained (Drains.refl d)
  | true =>
    cases info.render with
    | false =>
      simp only [Bool.true_and, Bool.false_and, Bool.false_eq_true, if_false, not_true_eq_false]
      split
      · exact .drained (handleCodecFailure_drains d _ _)
      · exact .drained (finishOutput_drains d info)
    | true =>
      simp only [Bool.true_and, if_true, not_true_eq_false, if_false]
      cases htake : d.pipeline.takeOutput info.presentationTimeUs (platform.nanoTime index) with
      | none =>
        simp only [Option.isSome_none, Bool.false_and, Bool.false_eq_true, if_false]
        split
        · exact .drained (handleCodecFailure_drains d _ _)
        · exact .drained (handleCodecFailure_drains d _ _)
      | some taken =>
        obtain ⟨output, pipeline⟩ := taken
        simp only [Option.isSome_some, Bool.true_and]
        cases platform.releaseOutputBuffer index true with
        | error exception => exact .drained (outputFailure_drains htake exception)
        | ok _ => exact .released output pipeline _ rfl htake (finishOutput_drains _ info)

/-- The task leaves an access unit outside the ledger whose slot nobody releases. -/
def strands (platform : CodecPlatform) (d : AndroidMediaCodecVideoDecoder) : HandlerTask → Bool
  | .frame submission frame => !d.closed && d.strandsFrame platform submission frame
  | .inputBufferAvailable codec index =>
    strandsPending platform ((d.activeCodec.filter (·.codec = codec)).map fun active =>
      { active with availableInputBuffers := active.availableInputBuffers ++ [index] })
      d.pipeline.pending
  | .outputBufferAvailable codec index info => d.strandsOutput platform codec index info
  | _ => false

theorem onInputBufferAvailable_drains (platform : CodecPlatform)
    (d : AndroidMediaCodecVideoDecoder) (codec index : Nat) :
    Drains (if d.strands platform (.inputBufferAvailable codec index) then 1 else 0) d
      (d.onInputBufferAvailable platform codec index) := by
  rw [onInputBufferAvailable, strands]
  cases d.activeCodec.filter (·.codec = codec) with
  | none => exact Drains.refl d
  | some active =>
    exact { pumpInput_drains platform { d with activeCodec := some { active with
      availableInputBuffers := active.availableInputBuffers ++ [index] } } with }

/-- What no task changes; a task only frees slots, and the two flags change only with their own
tasks. -/
structure Keeps (task : HandlerTask) (before after : AndroidMediaCodecVideoDecoder) : Prop where
  closed : after.closed = before.closed
  tasks : after.tasks = before.tasks
  submissions : after.submissions = before.submissions
  windowCapacity : after.inFlightWindow.capacity = before.inFlightWindow.capacity
  pipelineCapacity : after.pipeline.capacity = before.pipeline.capacity
  occupied : after.inFlightWindow.occupied ≤ before.inFlightWindow.occupied
  overflowPending : after.submissionOverflowPending = true →
    before.submissionOverflowPending = true ∧ task ≠ .overflowRecovery
  looperQuit : after.looperQuit = true → before.looperQuit = true ∨ task = .close

variable {task : HandlerTask}

theorem Drains.keeps {stranded : Nat} (h : Drains stranded before after)
    (htask : task ≠ .overflowRecovery) : Keeps task before after :=
  { h with
    overflowPending := fun hpending => ⟨h.submissionOverflowPending.symm.trans hpending, htask⟩
    looperQuit := fun hquit => .inl (h.looperQuit.symm.trans hquit) }

theorem FrameEffect.keeps {stranded : Nat}
    (h : FrameEffect stranded submission frame before after) :
    Keeps (.frame submission frame) before after :=
  { h with
    overflowPending := fun hpending =>
      ⟨h.submissionOverflowPending.symm.trans hpending, HandlerTask.noConfusion⟩
    looperQuit := fun hquit => .inl (h.looperQuit.symm.trans hquit) }

theorem OutputEffect.keeps {stranded : Nat} {info : BufferInfo}
    (h : OutputEffect stranded info before after) (htask : task ≠ .overflowRecovery) :
    Keeps task before after := by
  cases h with
  | drained h => exact h.keeps htask
  | released output pipeline nanos hstranded htake h =>
    exact { h.keeps htask with
      pipelineCapacity :=
        h.pipelineCapacity.trans (DecoderPipelineLedger.takeOutput_some htake).2.1
      occupied := h.occupied.trans (Int.sub_le_self _ (Int.natCast_nonneg 1)) }

theorem execute_keeps (platform : CodecPlatform) (d : AndroidMediaCodecVideoDecoder)
    (task : HandlerTask) : Keeps task d (d.execute platform task) := by
  cases task with
  | setOutputSurface surface =>
    rw [execute, runSetOutputSurface]
    split
    · exact (Drains.refl d).keeps HandlerTask.noConfusion
    · exact { (discardCodecPipeline_drains d _ _).keeps HandlerTask.noConfusion with }
  | applyConfiguration configuration =>
    rw [execute, runApplyConfiguration]
    split
    · exact (Drains.refl d).keeps HandlerTask.noConfusion
    · simp only
      split
      · exact { (discardCodecPipeline_drains d _ _).keeps HandlerTask.noConfusion with }
      · exact { (discardCodecPipeline_drains d _ _).keeps HandlerTask.noConfusion with }
  | frame submission frame =>
    rw [execute]
    split
    · exact { (Drains.refl d).keeps HandlerTask.noConfusion with
        occupied := Int.sub_le_self _ (Int.natCast_nonneg 1) }
    · exact (processSubmittedFrame_effect platform d submission frame).keeps
  | reset reason =>
    rw [execute, runReset]
    split
    · exact (Drains.refl d).keeps HandlerTask.noConfusion
    · exact { (releaseCodec_drains d).keeps HandlerTask.noConfusion with }
  | overflowRecovery =>
    rw [execute, runOverflowRecovery]
    simp only
    split
    · exact ⟨rfl, rfl, rfl, rfl, rfl, Int.le_refl _, Bool.noConfusion, .inl⟩
    · exact ⟨rfl, rfl, rfl, rfl, rfl, Int.le_refl _, Bool.noConfusion, .inl⟩
  | close =>
    exact { (releaseCodec_drains d).keeps HandlerTask.noConfusion with
      looperQuit := fun _ => .inr rfl }
  | inputBufferAvailable codec index =>
    exact (onInputBufferAvailable_drains platform d codec index).keeps HandlerTask.noConfusion
  | outputBufferAvailable codec index info =>
    exact (onOutputBufferAvailable_effect platform d codec index info).keeps
      HandlerTask.noConfusion
  | outputFormatChanged codec width height =>
    rw [execute, onOutputFormatChanged]
    split
    · exact (Drains.refl d).keeps HandlerTask.noConfusion
    · exact { (Drains.refl d).keeps HandlerTask.noConfusion with }
  | codecError codec diagnosticInfo =>
    rw [execute, onError]
    split
    · exact (Drains.refl d).keeps HandlerTask.noConfusion
    · exact (handleCodecFailure_drains d _ _).keeps HandlerTask.noConfusion

theorem OutputEffect.held {stranded : Nat} {info : BufferInfo}
    (h : OutputEffect stranded info before after) : after.held = before.held + stranded := by
  cases h with
  | drained h => exact h.held
  | released output pipeline nanos hstranded htake h =>
    have hdepth := (DecoderPipelineLedger.takeOutput_some htake).1
    rw [h.held, hstranded]
    simp only [AndroidMediaCodecVideoDecoder.held, releaseOutput, releaseInFlight, updateQueueDepth,
      recordOutput, emit, DecoderInFlightWindow.release]
    push_cast
    omega

/-- A frame task gives up the slot of its frame; a stranding task loses track of one more. -/
theorem execute_held (platform : CodecPlatform) (d : AndroidMediaCodecVideoDecoder)
    (task : HandlerTask) :
    (d.execute platform task).held =
      d.held - (if task.isFrame then 1 else 0) + (if d.strands platform task then 1 else 0) := by
  cases task with
  | setOutputSurface surface =>
    have hdiscard := (discardCodecPipeline_drains d .surfaceInvalidated
      "Decoder Surface changed; discarded in-flight access units").held
    rw [execute, runSetOutputSurface]
    split
    · simp [HandlerTask.isFrame, strands]
    · simpa [HandlerTask.isFrame, strands, held] using hdiscard
  | applyConfiguration configuration =>
    have hdiscard := (discardCodecPipeline_drains d .configurationChanged
      "DisplayConfig changed; discarded in-flight access units").held
    rw [execute, runApplyConfiguration]
    split
    · simp [HandlerTask.isFrame, strands]
    · simp only
      split <;> simpa [HandlerTask.isFrame, strands, held, emit] using hdiscard
  | frame submission frame =>
    rw [execute]
    split
    · rename_i hclosed
      simp [HandlerTask.isFrame, strands, hclosed, held, releaseInFlight, updateQueueDepth,
        DecoderInFlightWindow.release]
      omega
    · rename_i hopen
      have hframe := (processSubmittedFrame_effect platform d submission frame).held
      rw [hframe]
      cases hstrands : d.strandsFrame platform submission frame <;>
        simp [HandlerTask.isFrame, strands, hopen, hstrands]
  | reset reason =>
    have hrelease := (releaseCodec_drains d).held
    rw [execute, runReset]
    split
    · simp [HandlerTask.isFrame, strands]
    · simpa [HandlerTask.isFrame, strands, held, emit] using hrelease
  | overflowRecovery =>
    rw [execute, runOverflowRecovery]
    simp only
    split <;> simp [HandlerTask.isFrame, strands, held, emit]
  | close => simpa [execute, runClose, HandlerTask.isFrame, strands, held]
      using (releaseCodec_drains d).held
  | inputBufferAvailable codec index =>
    have hpump := (onInputBufferAvailable_drains platform d codec index).held
    rw [execute, hpump]
    simp [HandlerTask.isFrame]
  | outputBufferAvailable codec index info =>
    have houtput := (onOutputBufferAvailable_effect platform d codec index info).held
    rw [execute, houtput]
    cases hstrands : d.strandsOutput platform codec index info <;>
      simp [HandlerTask.isFrame, strands, hstrands]
  | outputFormatChanged codec width height =>
    rw [execute, onOutputFormatChanged]
    split <;> simp [HandlerTask.isFrame, strands, held, emit]
  | codecError codec diagnosticInfo =>
    rw [execute, onError]
    split
    · simp [HandlerTask.isFrame, strands]
    · rw [(handleCodecFailure_drains d _ _).held]
      simp [HandlerTask.isFrame, strands]

section Submit

variable {d : AndroidMediaCodecVideoDecoder} {frame : LdflFrame}

/-- The caller's view of `submit`: the frame is numbered in any case. -/
def submitted (d : AndroidMediaCodecVideoDecoder) : AndroidMediaCodecVideoDecoder :=
  { d with submissions := d.submissions + 1 }

/-- The decoder after an accepted frame. -/
def accepted (d : AndroidMediaCodecVideoDecoder) (frame : LdflFrame) :
    AndroidMediaCodecVideoDecoder :=
  { { d.submitted with inFlightWindow := d.inFlightWindow.acquire }.updateQueueDepth with
    tasks := d.tasks ++ [.frame d.submissions frame] }

theorem submit_closed (h : d.closed = true) : d.submit frame = (false, d.submitted) := by
  simp [submit, submitted, h]

theorem submit_full (hopen : d.closed = false) (hvideo : frame.messageType = .videoFrame)
    (hfull : d.inFlightWindow.available = false) :
    d.submit frame = (false, d.submitted.scheduleSubmissionOverflowRecovery) := by
  simp [submit, submitted, hopen, hvideo, hfull]

theorem submit_accepted (hopen : d.closed = false) (hvideo : frame.messageType = .videoFrame)
    (havailable : d.inFlightWindow.available = true) (hquit : d.looperQuit = false) :
    d.submit frame = (true, d.accepted frame) := by
  simp [submit, submitted, accepted, post, updateQueueDepth, hopen, hvideo, havailable, hquit]

end Submit

end AndroidMediaCodecVideoDecoder

end LadoFlow.Android
