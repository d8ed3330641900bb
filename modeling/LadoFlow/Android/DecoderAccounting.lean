import LadoFlow.Android.InFlightAccounting

/-!
# Decoder metrics over whole runs

Every frame whose task has run is released to the Surface, counted as dropped, left out on purpose,
or still in the pipeline. An output that MediaCodec refuses after its access unit has left the
ledger is in none of them.
-/

namespace LadoFlow.Android

open Framework

namespace AndroidMediaCodecVideoDecoder

/-- The access units that the counters and the ledger account for. -/
def accounted (d : AndroidMediaCodecVideoDecoder) : Nat :=
  d.metrics.outputsReleasedToSurface + d.metrics.droppedFrames + d.pipeline.depth

/-- No counter has reached its end. -/
def Unsaturated (d : AndroidMediaCodecVideoDecoder) : Prop :=
  d.metrics.outputsReleasedToSurface < 2 ^ 63 - 1 ∧ d.metrics.droppedFrames < 2 ^ 63 - 1

/-- The account grows by `gain`, as long as no counter saturates. -/
def Balances (gain : Int) (before after : AndroidMediaCodecVideoDecoder) : Prop :=
  after.Unsaturated → before.Unsaturated ∧ (after.accounted : Int) = before.accounted + gain

section Balance

variable {d before middle after : AndroidMediaCodecVideoDecoder} {gain gain' : Int}

theorem Balances.trans (h : Balances gain before middle) (h' : Balances gain' middle after) :
    Balances (gain + gain') before after := by
  intro hafter
  obtain ⟨hmiddle, hsecond⟩ := h' hafter
  obtain ⟨hbefore, hfirst⟩ := h hmiddle
  exact ⟨hbefore, by omega⟩

theorem Balances.of_eq (h : Balances gain before after) (hgain : gain = gain') :
    Balances gain' before after :=
  hgain ▸ h

/-- The counters stay as they are and the depth changes by `gain`. -/
theorem balances_of_depth
    (houtputs : after.metrics.outputsReleasedToSurface = before.metrics.outputsReleasedToSurface)
    (hdropped : after.metrics.droppedFrames = before.metrics.droppedFrames)
    (hdepth : (after.pipeline.depth : Int) = before.pipeline.depth + gain) :
    Balances gain before after := by
  intro hafter
  simp only [Unsaturated, accounted, houtputs, hdropped] at hafter ⊢
  push_cast
  exact ⟨hafter, by omega⟩

/-- Neither the counters nor the pipeline change. -/
theorem balances_of_same
    (houtputs : after.metrics.outputsReleasedToSurface = before.metrics.outputsReleasedToSurface)
    (hdropped : after.metrics.droppedFrames = before.metrics.droppedFrames)
    (hpipeline : after.pipeline = before.pipeline) : Balances 0 before after :=
  balances_of_depth houtputs hdropped (by rw [hpipeline, Int.add_zero])

theorem Balances.refl (d : AndroidMediaCodecVideoDecoder) : Balances 0 d d :=
  balances_of_same rfl rfl rfl

/-- The account after the counters and the pipeline have been carried over. -/
theorem Balances.carry (h : Balances gain before middle)
    (houtputs : after.metrics.outputsReleasedToSurface = middle.metrics.outputsReleasedToSurface)
    (hdropped : after.metrics.droppedFrames = middle.metrics.droppedFrames)
    (hpipeline : after.pipeline = middle.pipeline) : Balances gain before after :=
  (h.trans (balances_of_same houtputs hdropped hpipeline)).of_eq (Int.add_zero gain)

theorem saturatingAddLong_lt {a b : Nat} (h : saturatingAddLong a b < 2 ^ 63 - 1) :
    a < 2 ^ 63 - 1 ∧ saturatingAddLong a b = a + b := by
  rw [saturatingAddLong] at h ⊢
  omega

theorem drop_balances (d : AndroidMediaCodecVideoDecoder) (frameId : Option UInt64)
    (reason : DecoderDropReason) (detail : String) (count : Nat) :
    Balances count d (d.drop frameId reason detail count) := by
  by_cases hcount : count > 0
  · intro hafter
    simp only [Unsaturated, accounted, drop, emit, hcount, if_true] at hafter ⊢
    obtain ⟨houtputs, hdropped⟩ := hafter
    obtain ⟨hroom, hsum⟩ := saturatingAddLong_lt hdropped
    rw [hsum]
    push_cast
    exact ⟨⟨houtputs, hroom⟩, by omega⟩
  · have hzero : count = 0 := by omega
    subst hzero
    exact balances_of_same rfl rfl rfl

theorem releaseCodec_balances (d : AndroidMediaCodecVideoDecoder) :
    Balances (-d.pipeline.depth) d d.releaseCodec := by
  refine balances_of_depth rfl rfl ?_
  have hdepth : d.releaseCodec.pipeline.depth = 0 := rfl
  rw [hdepth]
  omega

theorem discardCodecPipeline_balances (d : AndroidMediaCodecVideoDecoder)
    (reason : DecoderDropReason) (detail : String) :
    Balances 0 d (d.discardCodecPipeline reason detail) := by
  have hrelease := d.releaseCodec_balances
  rw [discardCodecPipeline]
  split
  · have hdrop := d.releaseCodec.drop_balances none reason detail d.pipeline.depth
    exact (hrelease.trans hdrop).of_eq (by omega)
  · exact hrelease.of_eq (by omega)

/-- A failure counts what the pipeline held and what has already left it. -/
theorem handleCodecFailure_balances (d : AndroidMediaCodecVideoDecoder) (message : String)
    (reason : DecoderDropReason) (additionallyDropped : Nat) :
    Balances additionallyDropped d (d.handleCodecFailure message reason additionallyDropped) := by
  have hrelease := d.releaseCodec_balances
  have hdrop := d.releaseCodec.drop_balances none reason message
    (d.pipeline.depth + additionallyDropped)
  have hcounted := (hrelease.trans hdrop).of_eq
    (show _ = (additionallyDropped : Int) by push_cast; omega)
  exact hcounted.carry rfl rfl rfl

theorem pumpLoop_balances (platform : CodecPlatform) (active : ActiveCodec) (buffers : List Nat)
    (d : AndroidMediaCodecVideoDecoder) : Balances 0 d (pumpLoop platform active buffers d) := by
  induction buffers generalizing d with
  | nil => exact balances_of_same rfl rfl rfl
  | cons index buffers ih =>
    rw [pumpLoop]
    cases htake : d.pipeline.takePending with
    | none => exact balances_of_same rfl rfl rfl
    | some taken =>
      obtain ⟨pending, pipeline⟩ := taken
      simp only
      cases hqueue : platform.queueInput index pending.input with
      | error exception =>
        -- The access unit in hand is the one that the failure counts on top.
        have hdepth := DecoderPipelineLedger.depth_takePending htake
        have htaken : Balances (-1) d { d with pipeline } :=
          balances_of_depth rfl rfl (by simp only [hdepth]; push_cast; omega)
        have hfailed := { d with pipeline }.handleCodecFailure_balances
          (exception.getD "Unable to queue MediaCodec input") .codecFailure 1
        exact (htaken.trans hfailed).of_eq (by omega)
      | ok _ =>
        have hdepth := DecoderPipelineLedger.depth_markQueued (platform.nanoTime index) htake
        have hqueued : Balances 0 d { d with
            pipeline := pipeline.markQueued pending (platform.nanoTime index) } :=
          balances_of_depth rfl rfl (by simp only [hdepth]; omega)
        exact hqueued.trans (ih _)

theorem pumpInput_balances (platform : CodecPlatform) (d : AndroidMediaCodecVideoDecoder) :
    Balances 0 d (d.pumpInput platform) := by
  rw [pumpInput]
  cases d.activeCodec with
  | none => exact Balances.refl d
  | some active => exact pumpLoop_balances platform active active.availableInputBuffers d

theorem ensureCodec_balances (platform : CodecPlatform) (d : AndroidMediaCodecVideoDecoder)
    (configuration : DisplayConfigPayload) (parameterSets : H264ParameterSets) :
    Balances 0 d (d.ensureCodec platform configuration parameterSets) := by
  rw [ensureCodec]
  split
  · exact Balances.refl d
  · exact Balances.refl d
  · split
    · exact handleCodecFailure_balances d _ _ 0
    · rename_i backend hconfigure
      have hcreated : Balances 0 d { d with
          activeCodec := some ⟨d.createdCodecs, backend, []⟩
          createdCodecs := d.createdCodecs + 1 } := balances_of_same rfl rfl rfl
      simp only
      split
      · exact hcreated.trans (handleCodecFailure_balances _ _ _ 0)
      · exact hcreated.carry rfl rfl rfl

theorem enterPipeline_balances (platform : CodecPlatform) (d : AndroidMediaCodecVideoDecoder)
    {pipeline : DecoderPipelineLedger} {pending : PendingInput}
    (henqueue : d.pipeline.enqueue pending = some pipeline) (configuration : DisplayConfigPayload)
    (parameterSets : H264ParameterSets) (warning : Option String) :
    Balances 1 d
      (d.enterPipeline platform pipeline pending configuration parameterSets warning) := by
  have hdepth := (DecoderPipelineLedger.enqueue_some henqueue).2.2
  have hwarned : Balances 1 d
      ((d.recordEnqueued pipeline pending).updateQueueDepth.warn warning) := by
    cases warning with
    | none => exact balances_of_depth rfl rfl (by show (pipeline.depth : Int) = _; omega)
    | some message => exact balances_of_depth rfl rfl (by show (pipeline.depth : Int) = _; omega)
  have hstarted := hwarned.trans (ensureCodec_balances platform _ configuration parameterSets)
  exact hstarted.trans (pumpInput_balances platform _)

/-- The frame task leaves its frame out of the counters on purpose. -/
def leavesOut (d : AndroidMediaCodecVideoDecoder) (frame : LdflFrame) : Bool :=
  (d.configuration.filter (·.codec = .h264)).isSome && d.outputSurface.isSome &&
    match (d.gate.offer frame).1 with
    | .dropped _ reason _ => !reason.countsAsVideoDrop
    | .ready .. => false

theorem settle_balances {processed : Bool × AndroidMediaCodecVideoDecoder}
    (h : Balances gain d processed.2) : Balances gain d (settle processed) := by
  rw [settle]
  split
  · exact h
  · exact h.carry rfl rfl rfl

theorem handlePipelineOverflow_balances (platform : CodecPlatform)
    (d : AndroidMediaCodecVideoDecoder) (pending : PendingInput)
    (parameterSets : H264ParameterSets) (configuration : DisplayConfigPayload) :
    Balances 1 d (d.handlePipelineOverflow platform pending parameterSets configuration).2 := by
  have hrelease := d.releaseCodec_balances
  rw [handlePipelineOverflow]
  simp only
  split
  · generalize hdrop : d.releaseCodec.drop none .queueOverflow _ _ = emptied
    have hemptied : Balances 0 d emptied := by
      rw [← hdrop]
      exact (hrelease.trans (drop_balances _ _ _ _ _)).of_eq (by omega)
    have hdepth : emptied.pipeline.depth = 0 := by
      rw [← hdrop]
      rfl
    cases henqueue : emptied.pipeline.enqueue pending with
    | none =>
      have hfull := DecoderPipelineLedger.enqueue_none.mp henqueue
      have hpos := emptied.pipeline.capacity_pos
      omega
    | some pipeline =>
      exact hemptied.trans (enterPipeline_balances platform emptied henqueue _ _ _)
  · have hclosed : Balances (-d.pipeline.depth) d
        { d.releaseCodec with gate := d.releaseCodec.gate.awaitNextKeyframe } :=
      hrelease.carry rfl rfl rfl
    have hdrop := hclosed.trans (drop_balances _ (some pending.input.frameId) .queueOverflow
      "Decoder queue overflowed; dropped the dependent chain and now awaits KEYFRAME"
      (d.pipeline.depth + 1))
    have hcounted := hdrop.of_eq (show _ = (1 : Int) by push_cast; omega)
    exact hcounted.carry rfl rfl rfl

theorem processReady_balances (platform : CodecPlatform) (d : AndroidMediaCodecVideoDecoder)
    (pending : PendingInput) (parameterSets : H264ParameterSets) (requiresCodecRestart : Bool)
    (configuration : DisplayConfigPayload) :
    Balances 1 d (d.processReady platform pending parameterSets requiresCodecRestart
      configuration).2 := by
  rw [processReady]
  generalize hwarn : (if pending.input.isKeyframe ∧ ¬pending.input.containsIdr then d.emit _
    else d) = warned
  have hwarned : Balances 0 d warned := by
    rw [← hwarn]
    split
    · exact balances_of_same rfl rfl rfl
    · exact Balances.refl d
  generalize hrestart : (if requiresCodecRestart = true then warned.discardCodecPipeline _ _
    else warned) = prepared
  have hprepared : Balances 0 d prepared := by
    rw [← hrestart]
    split
    · exact hwarned.trans (discardCodecPipeline_balances warned _ _)
    · exact hwarned
  cases henqueue : prepared.pipeline.enqueue pending with
  | none =>
    exact hprepared.trans
      (handlePipelineOverflow_balances platform prepared pending parameterSets configuration)
  | some pipeline =>
    exact hprepared.trans (enterPipeline_balances platform prepared henqueue _ _ _)

theorem processDropped_balances (d : AndroidMediaCodecVideoDecoder) (frameId : Option UInt64)
    (reason : DecoderDropReason) (detail : String) (configuration : DisplayConfigPayload) :
    Balances (if reason.countsAsVideoDrop then 1 else 0) d
      (d.processDropped frameId reason detail configuration) := by
  obtain ⟨state, hstate⟩ := d.processDropped_eq frameId reason detail configuration
  have hdrop := d.drop_balances frameId reason detail (if reason.countsAsVideoDrop then 1 else 0)
  rw [hstate]
  have hcarried : Balances _ d
      { d.drop frameId reason detail (if reason.countsAsVideoDrop then 1 else 0) with state } :=
    hdrop.carry rfl rfl rfl
  apply hcarried.of_eq
  split <;> rfl

theorem processSubmittedFrame_balances (platform : CodecPlatform)
    (d : AndroidMediaCodecVideoDecoder) (submission : Nat) (frame : LdflFrame) :
    Balances (if d.leavesOut frame then 0 else 1) d
      (d.processSubmittedFrame platform submission frame) := by
  change Balances _ d (settle (d.processFrame platform submission frame))
  apply settle_balances
  rw [processFrame, leavesOut]
  cases d.configuration.filter (·.codec = .h264) with
  | none => exact drop_balances d none .noConfiguration _ 1
  | some configuration =>
    by_cases hsurface : d.outputSurface = none
    · simp only [hsurface, if_true, Option.isSome_none, Bool.and_false, Bool.false_and,
        Bool.false_eq_true, if_false]
      exact drop_balances d none .noSurface _ 1
    · have hpresent : d.outputSurface.isSome = true := Option.isSome_iff_ne_none.mpr hsurface
      simp only [hsurface, if_false, hpresent, Option.isSome_some, Bool.true_and]
      have hoffered : Balances 0 d { d with gate := (d.gate.offer frame).2 } :=
        balances_of_same rfl rfl rfl
      cases (d.gate.offer frame).1 with
      | dropped frameId reason detail =>
        have hdropped := hoffered.trans (processDropped_balances _ frameId reason detail configuration)
        apply hdropped.of_eq
        by_cases hcounts : reason.countsAsVideoDrop = true
        · simp [hcounts]
        · simp [hcounts]
      | ready input parameterSets requiresCodecRestart =>
        exact hoffered.trans (processReady_balances platform _ ⟨submission, input⟩ parameterSets
          requiresCodecRestart configuration)

theorem takeOutput_balances {output : CorrelatedDecoderOutput} {pipeline : DecoderPipelineLedger}
    {timestamp nanos : Int64}
    (h : d.pipeline.takeOutput timestamp nanos = some (output, pipeline)) :
    Balances (-1) d { d with pipeline } := by
  have hdepth := (DecoderPipelineLedger.takeOutput_some h).1
  exact balances_of_depth rfl rfl (by simp only [hdepth]; push_cast; omega)

theorem releaseOutput_balances (d : AndroidMediaCodecVideoDecoder)
    (output : CorrelatedDecoderOutput) (info : BufferInfo) :
    Balances 1 d (d.releaseOutput output info) := by
  intro hafter
  obtain ⟨houtputs, hdropped⟩ := hafter
  change saturatingAddLong d.metrics.outputsReleasedToSurface 1 < _ at houtputs
  obtain ⟨hroom, hsum⟩ := saturatingAddLong_lt houtputs
  refine ⟨⟨hroom, hdropped⟩, ?_⟩
  change ((saturatingAddLong d.metrics.outputsReleasedToSurface 1 + d.metrics.droppedFrames +
    d.pipeline.depth : Nat) : Int) = d.accounted + 1
  rw [hsum, accounted]
  push_cast
  omega

theorem finishOutput_balances (d : AndroidMediaCodecVideoDecoder) (info : BufferInfo) :
    Balances 0 d (d.finishOutput info) := by
  rw [finishOutput]
  split
  · have hended : Balances 0 d (d.emit .endOfStream) := balances_of_same rfl rfl rfl
    have hdiscard := hended.trans (discardCodecPipeline_balances _ .codecFailure
      "End of stream discarded trailing in-flight access units")
    simp only
    split
    · exact hdiscard.carry rfl rfl rfl
    · exact hdiscard.carry rfl rfl rfl
  · exact Balances.refl d

/-- An output that MediaCodec refuses leaves the account. -/
theorem onOutputBufferAvailable_balances (platform : CodecPlatform)
    (d : AndroidMediaCodecVideoDecoder) (codec index : Nat) (info : BufferInfo) :
    Balances (if d.strandsOutput platform codec index info then -1 else 0) d
      (d.onOutputBufferAvailable platform codec index info) := by
  rw [onOutputBufferAvailable, strandsOutput]
  cases d.isActive codec with
  | false => exact Balances.refl d
  | true =>
    cases info.render with
    | false =>
      simp only [Bool.true_and, Bool.false_and, Bool.false_eq_true, if_false, not_true_eq_false]
      split
      · exact handleCodecFailure_balances d _ _ 0
      · exact finishOutput_balances d info
    | true =>
      simp only [Bool.true_and, if_true, not_true_eq_false, if_false]
      cases htake : d.pipeline.takeOutput info.presentationTimeUs (platform.nanoTime index) with
      | none =>
        simp only [Option.isSome_none, Bool.false_and, Bool.false_eq_true, if_false]
        split
        · exact handleCodecFailure_balances d _ _ 0
        · exact handleCodecFailure_balances d _ _ 0
      | some taken =>
        obtain ⟨output, pipeline⟩ := taken
        simp only [Option.isSome_some, Bool.true_and]
        have htaken := takeOutput_balances htake
        cases platform.releaseOutputBuffer index true with
        | error exception => exact htaken.trans (handleCodecFailure_balances _ _ _ 0)
        | ok _ =>
          have hreleased := htaken.trans (releaseOutput_balances _ output info)
          exact hreleased.trans (finishOutput_balances _ info)

/-- The task at the head of the queue has been taken. -/
def withTasks (d : AndroidMediaCodecVideoDecoder) (tasks : List HandlerTask) :
    AndroidMediaCodecVideoDecoder :=
  { d with tasks }

/-- What the task adds to the account of an open decoder. -/
def taskGain (platform : CodecPlatform) (d : AndroidMediaCodecVideoDecoder) : HandlerTask → Int
  | .frame _ frame => if d.leavesOut frame then 0 else 1
  | .outputBufferAvailable codec index info =>
    if d.strandsOutput platform codec index info then -1 else 0
  | _ => 0

theorem execute_balances (platform : CodecPlatform) {task : HandlerTask} (hopen : d.closed = false)
    (hreset : ∀ reason, task ≠ .reset reason) (hclose : task ≠ .close) :
    Balances (d.taskGain platform task) d (d.execute platform task) := by
  cases task with
  | setOutputSurface surface =>
    rw [execute, runSetOutputSurface]
    split
    · exact Balances.refl d
    · exact (discardCodecPipeline_balances d _ _).carry rfl rfl rfl
  | applyConfiguration configuration =>
    rw [execute, runApplyConfiguration]
    split
    · exact Balances.refl d
    · simp only
      split
      · exact (discardCodecPipeline_balances d _ _).carry rfl rfl rfl
      · exact (discardCodecPipeline_balances d _ _).carry rfl rfl rfl
  | frame submission frame =>
    rw [execute, hopen]
    exact processSubmittedFrame_balances platform d submission frame
  | reset reason => exact absurd rfl (hreset reason)
  | overflowRecovery =>
    rw [execute, runOverflowRecovery]
    simp only
    split
    · exact balances_of_same rfl rfl rfl
    · exact balances_of_same rfl rfl rfl
  | close => exact absurd rfl hclose
  | inputBufferAvailable codec index =>
    rw [execute, onInputBufferAvailable]
    split
    · exact Balances.refl d
    · exact (balances_of_same rfl rfl rfl).trans (pumpInput_balances platform _)
  | outputBufferAvailable codec index info =>
    exact onOutputBufferAvailable_balances platform d codec index info
  | outputFormatChanged codec width height =>
    rw [execute, onOutputFormatChanged]
    split
    · exact Balances.refl d
    · exact balances_of_same rfl rfl rfl
  | codecError codec diagnosticInfo =>
    rw [execute, onError]
    split
    · exact Balances.refl d
    · exact handleCodecFailure_balances d _ _ 0

/-- A reset starts the account at zero. -/
theorem accounted_runReset (reason : String) (hopen : d.closed = false) :
    (d.runReset reason).accounted = 0 := by
  rw [runReset, hopen]
  rfl

end Balance

section Callers

variable {d after : AndroidMediaCodecVideoDecoder}

/-- What a call from outside the codec thread leaves as it is. -/
structure Outside (before after : AndroidMediaCodecVideoDecoder) : Prop where
  balances : Balances 0 before after
  closed : before.closed = true → after.closed = true
  close : .close ∈ after.tasks → .close ∈ before.tasks ∨ after.closed = true

theorem outside_post {task : HandlerTask} (htask : task = .close → d.closed = true) :
    Outside d (d.post task).2 := by
  rw [post]
  split
  · exact ⟨Balances.refl d, id, .inl⟩
  · refine ⟨balances_of_same rfl rfl rfl, id, ?_⟩
    intro hclose
    rcases List.mem_append.mp hclose with hold | hnew
    · exact .inl hold
    · exact .inr (htask (List.mem_singleton.mp hnew).symm)

theorem Outside.carry {middle : AndroidMediaCodecVideoDecoder} (h : Outside d middle)
    (houtputs : after.metrics.outputsReleasedToSurface = middle.metrics.outputsReleasedToSurface)
    (hdropped : after.metrics.droppedFrames = middle.metrics.droppedFrames)
    (hpipeline : after.pipeline = middle.pipeline) (hclosed : after.closed = middle.closed)
    (htasks : after.tasks = middle.tasks) : Outside d after where
  balances := h.balances.carry houtputs hdropped hpipeline
  closed := by
    rw [hclosed]
    exact h.closed
  close := by
    rw [hclosed, htasks]
    exact h.close

theorem outside_postUnlessClosed {task : HandlerTask} (htask : task ≠ .close) :
    Outside d (d.postUnlessClosed task) := by
  rw [postUnlessClosed]
  split
  · exact ⟨Balances.refl d, id, .inl⟩
  · exact outside_post fun hclose => absurd hclose htask

theorem outside_close : Outside d d.close := by
  rw [close]
  split
  · exact ⟨Balances.refl d, id, .inl⟩
  · have hposted : Outside { d with closed := true } ({ d with closed := true }.post .close).2 :=
      outside_post fun _ => rfl
    refine ⟨?_, fun _ => hposted.closed rfl, fun _ => .inr (hposted.closed rfl)⟩
    exact (balances_of_same rfl rfl rfl).trans hposted.balances

theorem outside_scheduleSubmissionOverflowRecovery :
    Outside d d.scheduleSubmissionOverflowRecovery := by
  rw [scheduleSubmissionOverflowRecovery]
  split
  · exact ⟨Balances.refl d, id, .inl⟩
  · have hposted : Outside { d with submissionOverflowPending := true }
        ({ d with submissionOverflowPending := true }.post .overflowRecovery).2 :=
      outside_post HandlerTask.noConfusion
    have hscheduled : Outside d
        ({ d with submissionOverflowPending := true }.post .overflowRecovery).2 :=
      ⟨(balances_of_same rfl rfl rfl).trans hposted.balances, hposted.closed, hposted.close⟩
    simp only
    split
    · exact hscheduled
    · exact hscheduled.carry rfl rfl rfl rfl rfl

theorem outside_submit (frame : LdflFrame) : Outside d (d.submit frame).2 := by
  have hcounted : Outside d { d with submissions := d.submissions + 1 } :=
    ⟨balances_of_same rfl rfl rfl, id, .inl⟩
  rw [submit]
  simp only
  split
  · exact hcounted
  split
  · have hscheduled := outside_scheduleSubmissionOverflowRecovery
      (d := { d with submissions := d.submissions + 1 })
    exact ⟨hcounted.balances.trans hscheduled.balances, hscheduled.closed, hscheduled.close⟩
  · generalize hacquire : ({ d with
      submissions := d.submissions + 1
      inFlightWindow := d.inFlightWindow.acquire }.updateQueueDepth :
      AndroidMediaCodecVideoDecoder) = acquired
    have hacquired : Outside d acquired := by
      rw [← hacquire]
      exact hcounted.carry rfl rfl rfl rfl rfl
    have hposted : Outside acquired (acquired.post (.frame d.submissions frame)).2 :=
      outside_post HandlerTask.noConfusion
    have hsubmitted : Outside d (acquired.post (.frame d.submissions frame)).2 := by
      refine ⟨hacquired.balances.trans hposted.balances,
        fun hclosed => hposted.closed (hacquired.closed hclosed), ?_⟩
      intro hclose
      rcases hposted.close hclose with hold | hnew
      · rcases hacquired.close hold with hbefore | hclosed
        · exact .inl hbefore
        · exact .inr (hposted.closed hclosed)
      · exact .inr hnew
    split
    · exact hsubmitted
    · exact hsubmitted.carry rfl rfl rfl rfl rfl

end Callers

end AndroidMediaCodecVideoDecoder

/-- A decoder with the frames whose task has run since the last reset, those among them that the
gate left out on purpose, and the outputs that MediaCodec refused. -/
structure DecoderAccount where
  decoder : AndroidMediaCodecVideoDecoder
  processed : Nat
  leftOut : Nat
  refused : Nat

namespace DecoderAccount

open AndroidMediaCodecVideoDecoder

def new (maxInFlightAccessUnits : Nat) (h : 0 < maxInFlightAccessUnits) : DecoderAccount :=
  ⟨.new maxInFlightAccessUnits h, 0, 0, 0⟩

/-- The codec thread runs `task` and is left in `next`. -/
def record (a : DecoderAccount) (platform : CodecPlatform) (next : AndroidMediaCodecVideoDecoder) :
    HandlerTask → DecoderAccount
  | .reset _ => ⟨next, 0, 0, 0⟩
  | .frame _ frame =>
    { a with
      decoder := next
      processed := a.processed + 1
      leftOut := a.leftOut + if a.decoder.leavesOut frame then 1 else 0 }
  | .outputBufferAvailable codec index info =>
    { a with
      decoder := next
      refused := a.refused + if a.decoder.strandsOutput platform codec index info then 1 else 0 }
  | _ => { a with decoder := next }

def step (a : DecoderAccount) : DecoderStep → Option DecoderAccount
  | .runTask platform =>
    match a.decoder.tasks with
    | [] => none
    | task :: tasks =>
      some (a.record platform ((a.decoder.withTasks tasks).execute platform task) task)
  | s => (a.decoder.step s).map fun next => { a with decoder := next }

def machine : Machine DecoderAccount DecoderStep where
  step := step

/-- Released, dropped and left out frames and the pipeline make up the processed frames. -/
def Exact (a : DecoderAccount) : Prop :=
  a.processed = a.decoder.metrics.outputsReleasedToSurface + a.decoder.metrics.droppedFrames +
    a.leftOut + a.decoder.pipeline.depth

/-- Refused outputs are all that is missing. -/
structure Inv (a : DecoderAccount) : Prop where
  close : .close ∈ a.decoder.tasks → a.decoder.closed = true
  account : a.decoder.closed = false → a.decoder.Unsaturated →
    a.processed = a.decoder.accounted + a.leftOut + a.refused

section Runs

variable {a b : DecoderAccount}

/-- The run of the account is the run of its decoder. -/
theorem step_decoder {s : DecoderStep} (h : a.step s = some b) :
    a.decoder.step s = some b.decoder := by
  cases s with
  | runTask platform =>
    rw [step] at h
    show a.decoder.runTask platform = some b.decoder
    rw [runTask]
    cases htasks : a.decoder.tasks with
    | nil =>
      rw [htasks] at h
      cases h
    | cons task tasks =>
      rw [htasks] at h
      cases h
      cases task <;> rfl
  | codecCallback task =>
    obtain ⟨next, hnext, rfl⟩ := Option.map_eq_some_iff.mp h
    exact hnext
  | submit frame => cases h; rfl
  | setOutputSurface surface => cases h; rfl
  | applyConfiguration configuration => cases h; rfl
  | reset reason => cases h; rfl
  | close => cases h; rfl

theorem Inv.outside (h : Inv a) {next : AndroidMediaCodecVideoDecoder}
    (houtside : Outside a.decoder next) : Inv { a with decoder := next } where
  close hclose := by
    rcases houtside.close hclose with hold | hclosed
    · exact houtside.closed (h.close hold)
    · exact hclosed
  account hopen hunsaturated := by
    have hbefore : a.decoder.closed = false := by
      by_contra hclosed
      rw [houtside.closed (by simpa using hclosed)] at hopen
      cases hopen
    obtain ⟨hroom, hsame⟩ := houtside.balances hunsaturated
    have haccount := h.account hbefore hroom
    show a.processed = next.accounted + a.leftOut + a.refused
    omega

theorem Inv.runTask (h : Inv a) {platform : CodecPlatform} {task : HandlerTask}
    {tasks : List HandlerTask} (htasks : a.decoder.tasks = task :: tasks) :
    Inv (a.record platform ((a.decoder.withTasks tasks).execute platform task) task) := by
  have hkeeps := execute_keeps platform (a.decoder.withTasks tasks) task
  have hdecoder : (a.record platform ((a.decoder.withTasks tasks).execute platform task) task).decoder =
      (a.decoder.withTasks tasks).execute platform task := by
    cases task <;> rfl
  constructor
  · rw [hdecoder, hkeeps.tasks, hkeeps.closed]
    intro hclose
    apply h.close
    rw [htasks]
    exact List.mem_cons_of_mem task hclose
  · rw [hdecoder, hkeeps.closed]
    intro hopen hunsaturated
    have hclose : task ≠ .close := by
      intro hclose
      have hclosed := h.close (by rw [htasks, hclose]; exact List.mem_cons_self)
      have hopen' : a.decoder.closed = false := hopen
      rw [hclosed] at hopen'
      cases hopen'
    by_cases hreset : ∃ reason, task = .reset reason
    · obtain ⟨reason, rfl⟩ := hreset
      have hzero := accounted_runReset (d := a.decoder.withTasks tasks) reason hopen
      show 0 = ((a.decoder.withTasks tasks).runReset reason).accounted + 0 + 0
      rw [hzero]
    · have hbalances := execute_balances (d := a.decoder.withTasks tasks) platform hopen
        (fun reason hsame => hreset ⟨reason, hsame⟩) hclose
      obtain ⟨hroom, hgain⟩ := hbalances hunsaturated
      have haccount := h.account hopen hroom
      have hbefore : (a.decoder.withTasks tasks).accounted = a.decoder.accounted := rfl
      rw [hbefore] at hgain
      cases task with
      | reset reason => exact absurd ⟨reason, rfl⟩ hreset
      | close => exact absurd rfl hclose
      | frame submission frame =>
        have hsame : (a.decoder.withTasks tasks).leavesOut frame = a.decoder.leavesOut frame := rfl
        simp only [taskGain, hsame] at hgain
        show a.processed + 1 = _ + (a.leftOut + if a.decoder.leavesOut frame then 1 else 0) +
          a.refused
        split at hgain
        · rename_i hleft
          rw [if_pos hleft]
          omega
        · rename_i hcounted
          rw [if_neg hcounted]
          omega
      | outputBufferAvailable codec index info =>
        have hsame : (a.decoder.withTasks tasks).strandsOutput platform codec index info =
            a.decoder.strandsOutput platform codec index info := rfl
        simp only [taskGain, hsame] at hgain
        show a.processed = _ + a.leftOut +
          (a.refused + if a.decoder.strandsOutput platform codec index info then 1 else 0)
        split at hgain
        · rename_i hrefused
          rw [if_pos hrefused]
          omega
        · rename_i htaken
          rw [if_neg htaken]
          omega
      | _ =>
        simp only [taskGain] at hgain
        show a.processed = _ + a.leftOut + a.refused
        omega

theorem Inv.step (h : Inv a) {s : DecoderStep} (hstep : a.step s = some b) : Inv b := by
  cases s with
  | submit frame =>
    cases hstep
    exact h.outside (outside_submit frame)
  | setOutputSurface surface =>
    cases hstep
    exact h.outside (outside_postUnlessClosed HandlerTask.noConfusion)
  | applyConfiguration configuration =>
    cases hstep
    exact h.outside (outside_postUnlessClosed HandlerTask.noConfusion)
  | reset reason =>
    cases hstep
    exact h.outside (outside_postUnlessClosed HandlerTask.noConfusion)
  | close =>
    cases hstep
    exact h.outside outside_close
  | codecCallback task =>
    obtain ⟨next, hnext, rfl⟩ := Option.map_eq_some_iff.mp hstep
    rw [AndroidMediaCodecVideoDecoder.step] at hnext
    split at hnext
    · rename_i hcallback
      cases hnext
      apply h.outside
      apply outside_post
      intro hclose
      rw [hclose] at hcallback
      cases hcallback
    · cases hnext
  | runTask platform =>
    rw [DecoderAccount.step] at hstep
    split at hstep
    · cases hstep
    · rename_i task tasks htasks
      cases hstep
      exact h.runTask htasks

/-- The metrics account for every processed frame exactly when MediaCodec has refused no output
since the last reset. -/
theorem metrics_exact_iff {maxInFlightAccessUnits : Nat} {h : 0 < maxInFlightAccessUnits}
    {steps : List DecoderStep} (hrun : machine.run (new maxInFlightAccessUnits h) steps = some a)
    (hopen : a.decoder.closed = false) (hunsaturated : a.decoder.Unsaturated) :
    a.Exact ↔ a.refused = 0 := by
  have hstart : Inv (new maxInFlightAccessUnits h) :=
    ⟨fun hclose => absurd hclose List.not_mem_nil, fun _ _ => rfl⟩
  have hinv : Inv a := machine.run_invariant Inv (fun _ _ _ hbefore hstep => hbefore.step hstep)
    hstart hrun
  have haccount := hinv.account hopen hunsaturated
  rw [accounted] at haccount
  rw [Exact]
  omega

instance (d : AndroidMediaCodecVideoDecoder) : Decidable d.Unsaturated :=
  inferInstanceAs (Decidable (_ ∧ _))

/-- `releaseOutputBuffer` throws for a rendered output. -/
def refusingOutput : CodecPlatform :=
  { CodecPlatform.working with
    releaseOutputBuffer := fun _ render => if render then .error none else .ok () }

/-- The codec returns the keyframe to a decoder whose platform is `last`. -/
def oneOutput (last : CodecPlatform) : List DecoderStep :=
  oneKeyframe .working ++
    [.codecCallback (.outputBufferAvailable 0 0 ⟨0, 1, 1000⟩), .runTask last]

theorem metrics_exact_iff_oneOutput :
    ∃ a, machine.run (new 8 (by decide)) (oneOutput .working) = some a ∧ a.processed = 1 ∧
      (a.Exact ↔ a.refused = 0) ∧ a.refused = 0 := by
  have hreached : (machine.run (new 8 (by decide)) (oneOutput .working)).any (fun a =>
      a.processed = 1 ∧ a.refused = 0 ∧ a.decoder.closed = false ∧ a.decoder.Unsaturated) =
      true := by
    decide +kernel
  obtain ⟨a, hrun, hfacts⟩ := (Option.any_eq_true _ _).mp hreached
  obtain ⟨hprocessed, hrefused, hopen, hunsaturated⟩ := of_decide_eq_true hfacts
  exact ⟨a, hrun, hprocessed, metrics_exact_iff hrun hopen hunsaturated, hrefused⟩

/-- The refused output is neither released nor dropped, and the pipeline is empty. -/
theorem metrics_lose_refused_output :
    ∃ a, machine.run (new 8 (by decide)) (oneOutput refusingOutput) = some a ∧
      a.processed = 1 ∧ a.decoder.closed = false ∧ a.decoder.Unsaturated ∧
      a.decoder.accounted = 0 ∧ a.leftOut = 0 ∧ ¬a.Exact := by
  have hreached : (machine.run (new 8 (by decide)) (oneOutput refusingOutput)).any (fun a =>
      a.processed = 1 ∧ a.decoder.closed = false ∧ a.decoder.Unsaturated ∧
      a.decoder.accounted = 0 ∧ a.leftOut = 0) = true := by
    decide +kernel
  obtain ⟨a, hrun, hfacts⟩ := (Option.any_eq_true _ _).mp hreached
  obtain ⟨hprocessed, hopen, hunsaturated, hzero, hleft⟩ := of_decide_eq_true hfacts
  refine ⟨a, hrun, hprocessed, hopen, hunsaturated, hzero, hleft, ?_⟩
  rw [accounted] at hzero
  rw [Exact]
  omega

end Runs

end DecoderAccount

end LadoFlow.Android
