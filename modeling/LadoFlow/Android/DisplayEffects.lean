import LadoFlow.Android.Display

/-!
# Effects of display steps

What one step of the session or of its decoder can do, with every guard: the one inversion that the
invariants of the display rest on.
-/

namespace LadoFlow.Android

open Framework

/-- Where video frames go in a step of the session: frames that were buffered or just received
become tasks, stay buffered, or are counted as dropped. -/
structure Moves (received : List LdflFrame) (extra : List HandlerTask) (decoderDropped : Nat)
    (before after : AndroidDisplaySession) : Prop where
  total : after.localDroppedVideoFrames + after.pendingSurfaceFrames.length +
      extra.countP (·.isFrame) ≤
    before.localDroppedVideoFrames + before.pendingSurfaceFrames.length + received.length
  pending : ∀ frame ∈ after.pendingSurfaceFrames,
    frame ∈ before.pendingSurfaceFrames ∨ frame ∈ received
  queued : ∀ submission frame, .frame submission frame ∈ extra →
    frame ∈ before.pendingSurfaceFrames ∨ frame ∈ received
  lastReleased : after.lastReleasedFrameId = before.lastReleasedFrameId
  dropped : after.metrics.droppedVideoFrames = before.metrics.droppedVideoFrames ∨
    before.activeConfiguration.isSome = true ∧
      after.metrics.droppedVideoFrames ≤ after.localDroppedVideoFrames + decoderDropped

namespace AndroidDisplaySession

variable {env : SessionEnvironment} {session before after : AndroidDisplaySession}
  {received : List LdflFrame} {extra : List HandlerTask} {decoderDropped : Nat}

theorem countP_awaitsFrames (h : ∀ task ∈ extra, task.awaitsFrames = true) :
    extra.countP (·.isFrame) = 0 := by
  rw [List.countP_eq_zero]
  intro task htask hframe
  have hawaits := h task htask
  cases task <;> simp_all [HandlerTask.isFrame, HandlerTask.awaitsFrames,
    HandlerTask.isCodecCallback]

theorem not_frame_of_awaitsFrames (h : ∀ task ∈ extra, task.awaitsFrames = true)
    {submission : Nat} {frame : LdflFrame} : .frame submission frame ∉ extra := by
  intro hmem
  cases h _ hmem

theorem countP_overflowRecovery (h : ∀ task ∈ extra, task = .overflowRecovery) :
    extra.countP (·.isFrame) = 0 := by
  rw [List.countP_eq_zero]
  intro task htask
  rw [h task htask]
  simp [HandlerTask.isFrame]

theorem Quiet.moves (h : Quiet before after) (received : List LdflFrame) (decoderDropped : Nat)
    (hextra : ∀ task ∈ extra, task.awaitsFrames = true) :
    Moves received extra decoderDropped before after where
  total := by
    rw [countP_awaitsFrames hextra, h.localDroppedVideoFrames, h.pendingSurfaceFrames]
    omega
  pending frame hframe := .inl (h.pendingSurfaceFrames ▸ hframe)
  queued _ _ hmem := absurd hmem (not_frame_of_awaitsFrames hextra)
  lastReleased := h.lastReleasedFrameId
  dropped := .inl h.droppedVideoFrames

theorem Ends.moves (h : Ends before after) (received : List LdflFrame) (decoderDropped : Nat)
    (hextra : ∀ task ∈ extra, task.awaitsFrames = true) :
    Moves received extra decoderDropped before after where
  total := by
    rw [countP_awaitsFrames hextra, h.localDroppedVideoFrames]
    rcases h.pendingSurfaceFrames with hsame | hnone
    · rw [hsame]
      omega
    · rw [hnone, List.length_nil]
      omega
  pending frame hframe := by
    rcases h.pendingSurfaceFrames with hsame | hnone
    · exact .inl (hsame ▸ hframe)
    · rw [hnone] at hframe
      cases hframe
  queued _ _ hmem := absurd hmem (not_frame_of_awaitsFrames hextra)
  lastReleased := h.lastReleasedFrameId
  dropped := .inl h.droppedVideoFrames

/-- Counting frames as dropped. -/
theorem recordDroppedVideo_counts (env : SessionEnvironment) (session : AndroidDisplaySession)
    (count : Nat) :
    let after := session.recordDroppedVideo env count
    after.localDroppedVideoFrames ≤ session.localDroppedVideoFrames + count ∧
      after.pendingSurfaceFrames = session.pendingSurfaceFrames ∧
      after.lastReleasedFrameId = session.lastReleasedFrameId ∧ after.calls = session.calls ∧
      (after.metrics.droppedVideoFrames = session.metrics.droppedVideoFrames ∨
        after.metrics.droppedVideoFrames ≤
          after.localDroppedVideoFrames + env.metrics.droppedFrames) := by
  simp only [recordDroppedVideo]
  split
  · exact ⟨Nat.le_add_right _ _, rfl, rfl, rfl, .inl rfl⟩
  · exact ⟨AndroidMediaCodecVideoDecoder.saturatingAddLong_le _ _, rfl, rfl, rfl,
      .inr (AndroidMediaCodecVideoDecoder.saturatingAddLong_le _ _)⟩

/-- A frame that the decoder refuses. -/
theorem recordDroppedVideo_moves (env : SessionEnvironment) (session : AndroidDisplaySession)
    (frame : LdflFrame) (hactive : session.activeConfiguration.isSome = true)
    (hextra : ∀ task ∈ extra, task = .overflowRecovery) :
    Moves [frame] extra env.metrics.droppedFrames session (session.recordDroppedVideo env 1) ∧
      (session.recordDroppedVideo env 1).calls = session.calls := by
  obtain ⟨hlocal, hpending, hlast, hcalls, hdropped⟩ := recordDroppedVideo_counts env session 1
  have hcount := countP_overflowRecovery hextra
  refine ⟨⟨?_, ?_, ?_, hlast, hdropped.imp_right (⟨hactive, ·⟩)⟩, hcalls⟩
  · rw [hpending, hcount, List.length_singleton]
    omega
  · intro other hother
    rw [hpending] at hother
    exact .inl hother
  · intro submission other hmem
    cases hextra _ hmem

/-- The queue depth plays no part. -/
theorem Moves.updateQueueDepthMetric (env : SessionEnvironment)
    (h : Moves received extra decoderDropped before after) :
    Moves received extra decoderDropped before (after.updateQueueDepthMetric env) := by
  obtain ⟨queueDepth, heq⟩ := updateQueueDepthMetric_eq env after
  rw [heq]
  exact { h with }

theorem updateQueueDepthMetric_calls (env : SessionEnvironment) (session : AndroidDisplaySession) :
    (session.updateQueueDepthMetric env).calls = session.calls := by
  obtain ⟨queueDepth, heq⟩ := updateQueueDepthMetric_eq env session
  rw [heq]

theorem handleDecoderMetrics_calls (session : AndroidDisplaySession)
    (metrics : VideoDecoderMetrics) : (session.handleDecoderMetrics metrics).calls = session.calls := by
  rw [handleDecoderMetrics]
  split
  · simp only
    split <;> rfl
  · rfl

theorem enqueueUntilSurfaceReady_moves (env : SessionEnvironment)
    (session : AndroidDisplaySession) (frame : LdflFrame)
    (hactive : session.activeConfiguration.isSome = true) :
    Moves [frame] [] env.metrics.droppedFrames session
        (session.enqueueUntilSurfaceReady env frame) ∧
      (session.enqueueUntilSurfaceReady env frame).calls = session.calls := by
  have hcounts := recordDroppedVideo_counts env session
  rw [enqueueUntilSurfaceReady]
  simp only
  split
  · obtain ⟨hlocal, hpending, hlast, hcalls, hdropped⟩ :=
      hcounts session.pendingSurfaceFrames.length
    refine ⟨Moves.updateQueueDepthMetric env
      ⟨?_, ?_, by simp, hlast, hdropped.imp_right (⟨hactive, ·⟩)⟩,
      (updateQueueDepthMetric_calls env _).trans hcalls⟩
    · simpa using hlocal
    · intro other hother
      exact .inr hother
  split
  · obtain ⟨hlocal, hpending, hlast, hcalls, hdropped⟩ := hcounts 1
    refine ⟨⟨?_, ?_, by simp, hlast, hdropped.imp_right (⟨hactive, ·⟩)⟩, hcalls⟩
    · rw [hpending]
      simp only [List.countP_nil, List.length_singleton]
      omega
    · intro other hother
      exact .inl (hpending ▸ hother)
  split
  · obtain ⟨hlocal, hpending, hlast, hcalls, hdropped⟩ :=
      hcounts (session.pendingSurfaceFrames.length + 1)
    refine ⟨Moves.updateQueueDepthMetric env
      ⟨?_, by simp, by simp, hlast, hdropped.imp_right (⟨hactive, ·⟩)⟩,
      (updateQueueDepthMetric_calls env _).trans hcalls⟩
    simp only [List.countP_nil, List.length_singleton, List.length_nil]
    omega
  · refine ⟨Moves.updateQueueDepthMetric env ⟨?_, ?_, by simp, rfl, .inl rfl⟩,
      updateQueueDepthMetric_calls env _⟩
    · simp only [List.length_append, List.countP_nil, List.length_singleton]
      omega
    · intro other hother
      exact List.mem_append.mp hother

end AndroidDisplaySession

namespace AndroidMediaCodecVideoDecoder

open AndroidDisplaySession

variable {d : AndroidMediaCodecVideoDecoder} {calls : List CollaboratorCall}

theorem performAll_resets (hopen : d.closed = false) (hquit : d.looperQuit = false)
    (h : OnlyResets calls) : ∃ extra, (∀ task ∈ extra, HandlerTask.awaitsFrames task = true) ∧
      Queues extra d (d.performAll calls) := by
  induction calls generalizing d with
  | nil => exact ⟨[], by simp, Queues.refl d⟩
  | cons call calls ih =>
    have hrest : OnlyResets calls := fun other hother => h other (List.mem_cons_of_mem _ hother)
    rcases h call List.mem_cons_self with ⟨viewport, rfl⟩ | ⟨reason, rfl⟩
    · exact ih hopen hquit hrest
    · have hreset : Queues [.reset reason] d (d.reset reason) :=
        postUnlessClosed_queues hopen hquit rfl HandlerTask.noConfusion
      obtain ⟨extra, hextra, hqueues⟩ := ih (hreset.closed.trans hopen)
        (hreset.looperQuit.trans hquit) hrest
      refine ⟨.reset reason :: extra, ?_, hreset.trans hqueues⟩
      intro task htask
      rcases List.mem_cons.mp htask with rfl | hlater
      · rfl
      · exact hextra task hlater

theorem performAll_append (later : List CollaboratorCall) :
    d.performAll (calls ++ later) = (d.performAll calls).performAll later :=
  List.foldl_append

/-- The rest of the buffered frames becomes tasks up to the first one that the decoder refuses.
All calls so far have brought the decoder from `d` to `current`. -/
structure Drained (d current : AndroidMediaCodecVideoDecoder) (rest : List LdflFrame)
    (extra : List HandlerTask) (before after : AndroidDisplaySession) : Prop where
  queues : Queues extra current (d.performAll after.calls)
  total : after.localDroppedVideoFrames + extra.countP (·.isFrame) ≤
    before.localDroppedVideoFrames + rest.length
  pending : after.pendingSurfaceFrames = []
  queued : ∀ submission frame, .frame submission frame ∈ extra → frame ∈ rest
  dropped : after.metrics.droppedVideoFrames = before.metrics.droppedVideoFrames ∨
    after.metrics.droppedVideoFrames ≤ after.localDroppedVideoFrames + d.metrics.droppedFrames

theorem Drained.updateQueueDepthMetric {current : AndroidMediaCodecVideoDecoder}
    {rest : List LdflFrame} {extra : List HandlerTask} {before after : AndroidDisplaySession}
    (env : SessionEnvironment) (h : Drained d current rest extra before after) :
    Drained d current rest extra before (after.updateQueueDepthMetric env) := by
  obtain ⟨queueDepth, heq⟩ := updateQueueDepthMetric_eq env after
  rw [heq]
  exact { h with }

theorem drainLoop_drained (hopen : d.closed = false) (hquit : d.looperQuit = false)
    (surroundings : Surroundings) {frames : List LdflFrame} {accepted : List HandlerTask}
    (rest before : List LdflFrame) (session : AndroidDisplaySession)
    (hframes : frames = before ++ rest) (hcalls : session.calls = before.map .submit)
    (hbefore : Queues accepted d (d.performAll (before.map .submit))) :
    ∃ extra, Drained d (d.performAll (before.map .submit)) rest extra session
      (drainLoop (d.view surroundings frames) before.length rest session) := by
  induction rest generalizing before accepted session with
  | nil =>
    refine ⟨[], Drained.updateQueueDepthMetric _ ⟨?_, by simp, rfl, by simp, .inl rfl⟩⟩
    rw [hcalls]
    exact Queues.refl _
  | cons frame rest ih =>
    have hlater : (before ++ [frame]).length = before.length + 1 := by simp
    have hshifted : frames = (before ++ [frame]) ++ rest := by simp [hframes]
    have hnext : d.performAll ((before ++ [frame]).map .submit) =
        ((d.performAll (before.map .submit)).submit frame).2 := by
      rw [List.map_append, performAll_append]
      rfl
    have hview : d.view surroundings frames before.length =
        (d.performAll (before.map .submit)).environment surroundings := by
      rw [view, hframes, List.take_left]
    have hviewNext : d.view surroundings frames (before.length + 1) =
        ((d.performAll (before.map .submit)).submit frame).2.environment surroundings := by
      rw [view, hshifted, ← hlater, List.take_left, hnext]
    have hrecorded : (session.record (.submit frame)).calls = (before ++ [frame]).map .submit := by
      simp [record, hcalls]
    rw [drainLoop]
    simp only [hview, hviewNext]
    rcases submit_queues (hbefore.closed.trans hopen) (hbefore.looperQuit.trans hquit) frame with
      ⟨haccepted, hqueues⟩ | ⟨hrefused, extra, hextra, hqueues⟩
    · rw [if_pos (show (AndroidMediaCodecVideoDecoder.environment _ _).submit frame = true from
        haccepted)]
      rw [← hnext] at hqueues
      obtain ⟨extra, hrest⟩ := ih (before ++ [frame]) (session.record (.submit frame)) hshifted
        hrecorded (hbefore.trans hqueues)
      rw [hlater] at hrest
      refine ⟨_, hqueues.trans hrest.queues, ?_, hrest.pending, ?_, hrest.dropped⟩
      · have htotal := hrest.total
        change _ ≤ session.localDroppedVideoFrames + rest.length at htotal
        have hone : [HandlerTask.frame (d.performAll (before.map .submit)).submissions frame].countP
            (·.isFrame) = 1 := rfl
        rw [List.countP_append, hone, List.length_cons]
        omega
      · intro submission other hmem
        rcases List.mem_append.mp hmem with hfirst | hsecond
        · cases List.mem_singleton.mp hfirst
          exact List.mem_cons_self
        · exact List.mem_cons_of_mem _ (hrest.queued submission other hsecond)
    · rw [if_neg (show ¬(AndroidMediaCodecVideoDecoder.environment _ _).submit frame = true from
        by simp [environment, hrefused])]
      have hnoFrame := countP_overflowRecovery hextra
      obtain ⟨hlocal, -, -, hsame, hdropped⟩ := recordDroppedVideo_counts
        (((d.performAll (before.map .submit)).submit frame).2.environment surroundings)
        (session.record (.submit frame)) 1
      refine ⟨extra, Drained.updateQueueDepthMetric _ ⟨?_, ?_, rfl, ?_, ?_⟩⟩
      · simp only [hsame, hrecorded, hnext]
        exact hqueues
      · change _ ≤ session.localDroppedVideoFrames + 1 at hlocal
        simp only [hnoFrame, List.length_cons]
        omega
      · intro submission other hmem
        cases hextra _ hmem
      · have hcount : ((d.performAll (before.map .submit)).submit frame).2.metrics.droppedFrames =
            d.metrics.droppedFrames := hqueues.dropped.trans hbefore.dropped
        change _ ∨ _ ≤ _ + ((d.performAll (before.map .submit)).submit frame).2.metrics.droppedFrames
          at hdropped
        rw [hcount] at hdropped
        exact hdropped

end AndroidMediaCodecVideoDecoder

/-- What a step leaves of the picture. -/
structure Picture (before after : AndroidDisplaySession) : Prop where
  activeConfiguration : after.activeConfiguration = before.activeConfiguration
  surfaceReady : after.surfaceReady = before.surfaceReady
  surfaceOutputBaseline : after.surfaceOutputBaseline = before.surfaceOutputBaseline
  failed : after.failed = false → before.failed = false
  remoteHello : before.remoteHello.isSome = true → after.remoteHello.isSome = true
  state : AndroidDisplaySession.isDisplaying after.state = true → after.state = before.state

theorem AndroidDisplaySession.SamePicture.picture {before after : AndroidDisplaySession}
    (h : SamePicture before after) : Picture before after where
  activeConfiguration := h.activeConfiguration
  surfaceReady := h.surfaceReady
  surfaceOutputBaseline := h.surfaceOutputBaseline
  failed hhealthy := h.failed.symm.trans hhealthy
  remoteHello hsome := by
    rw [h.remoteHello]
    exact hsome
  state _ := h.state

/-- A configuration is accepted while the decoder has shown this many outputs. -/
structure Configured (configuration : DisplayConfigPayload) (outputs : Nat)
    (before after : AndroidDisplaySession) : Prop where
  activeConfiguration : after.activeConfiguration = some configuration
  surfaceReady : after.surfaceReady = false
  surfaceOutputBaseline : after.surfaceOutputBaseline = outputs
  remoteHello : after.remoteHello.isSome = true
  pendingSurfaceFrames : after.pendingSurfaceFrames = []
  localDroppedVideoFrames : after.localDroppedVideoFrames = before.localDroppedVideoFrames
  lastReleasedFrameId : after.lastReleasedFrameId = before.lastReleasedFrameId
  droppedVideoFrames : after.metrics.droppedVideoFrames = before.metrics.droppedVideoFrames
  state : AndroidDisplaySession.isDisplaying after.state = false

/-- The session handles a decoder state and submits what it buffered. -/
structure StateHandled (decoder : AndroidMediaCodecVideoDecoder)
    (before after : AndroidDisplaySession) : Prop where
  activeConfiguration : after.activeConfiguration = before.activeConfiguration
  remoteHello : after.remoteHello = before.remoteHello
  failed : after.failed = false → before.failed = false
  surfaceReady : after.surfaceReady =
    if before.activeConfiguration.isSome ∧ before.remoteHello.isSome
    then AndroidDisplaySession.readiness before.surfaceReady decoder.state else before.surfaceReady
  surfaceOutputBaseline : after.surfaceOutputBaseline = before.surfaceOutputBaseline ∨
    after.surfaceOutputBaseline = decoder.metrics.outputsReleasedToSurface
  state : AndroidDisplaySession.isDisplaying after.state = true → after.state = before.state

namespace AndroidDisplay

open AndroidMediaCodecVideoDecoder AndroidDisplaySession

/-- What one step can do to the display. -/
inductive Effect (display : AndroidDisplay) (step : DisplayStep) (after : AndroidDisplay) : Prop
  | kept (extra : List HandlerTask) (hnone : display.accepts step = none)
      (hsame : step.restarts = false) (hpicture : Picture display.session after.session)
      (hmoves : Moves step.received extra display.decoder.metrics.droppedFrames display.session
        after.session)
      (hqueues : Queues extra display.decoder after.decoder)
      (hextra : display.session.surfaceReady = false → ∀ task ∈ extra, task.awaitsFrames = true)
      (hseen : after.seenState = display.seenState)
  | ended (extra : List HandlerTask) (hnone : display.accepts step = none)
      (hsame : step.restarts = false) (h : Ends { display.session with calls := [] } after.session)
      (hmoves : Moves step.received extra display.decoder.metrics.droppedFrames display.session
        after.session)
      (hqueues : Queues extra display.decoder after.decoder)
      (hseen : after.seenState = display.seenState)
  | restarted (extra : List HandlerTask) (hnone : display.accepts step = none)
      (h : Restarts { display.session with calls := [] } after.session)
      (hqueues : Queues extra display.decoder after.decoder)
      (hseen : after.seenState = display.seenState)
  | configured (configuration : DisplayConfigPayload)
      (haccepts : display.accepts step = some configuration) (hsame : step.restarts = false)
      (hcodec : configuration.codec = .h264)
      (h : Configured configuration display.decoder.metrics.outputsReleasedToSurface
        display.session after.session)
      (hqueues : Queues [.applyConfiguration configuration] display.decoder after.decoder)
      (hseen : after.seenState = display.seenState)
  | stateHandled (extra : List HandlerTask) (hnone : display.accepts step = none)
      (hsame : step.restarts = false) (h : StateHandled display.decoder display.session after.session)
      (hmoves : Moves step.received extra display.decoder.metrics.droppedFrames display.session
        after.session)
      (hqueues : Queues extra display.decoder after.decoder)
      (hseen : after.seenState = some display.decoder.state)
  | metricsHandled (hstep : step = .decoderMetrics)
      (h : after.session = { display.session with calls := [] }.handleDecoderMetrics
        display.decoder.metrics)
      (hdecoder : after.decoder = display.decoder) (hseen : after.seenState = display.seenState)
  | ran (platform : CodecPlatform) (task : HandlerTask) (tasks : List HandlerTask)
      (hstep : step = .runTask platform) (htasks : display.decoder.tasks = task :: tasks)
      (h : after = { display with
        decoder := { display.decoder with tasks }.execute platform task })

variable {display after : AndroidDisplay}

/-- The decoder takes calls. -/
structure Open (display : AndroidDisplay) : Prop where
  closed : display.decoder.closed = false
  looperQuit : display.decoder.looperQuit = false
  noClose : .close ∉ display.decoder.tasks

variable {step : DisplayStep} {base : AndroidDisplay}
  {handler : AndroidDisplaySession → AndroidDisplaySession}

theorem effect_of_quiet (hnone : display.accepts step = none) (hsame : step.restarts = false)
    (hsession : base.session = display.session) (hbase : Queues [] display.decoder base.decoder)
    (hseen : base.seenState = display.seenState)
    (h : Quiet { display.session with calls := [] } (handler { display.session with calls := [] })) :
    Effect display step (base.handle handler) := by
  have hcalls : (handler { base.session with calls := [] }).calls = [] := by
    rw [hsession]
    exact h.calls
  refine .kept [] hnone hsame ?_ ?_ ?_ (by simp) hseen
  · simp only [handle, hsession]
    exact { h with }
  · simp only [handle, hsession]
    have hnone : ∀ task ∈ ([] : List HandlerTask), task.awaitsFrames = true := by simp
    exact { h.moves step.received display.decoder.metrics.droppedFrames hnone with }
  · simp only [handle, hcalls]
    exact hbase

theorem effect_of_ends (hopen : Open display) (hnone : display.accepts step = none)
    (hsame : step.restarts = false) (hsession : base.session = display.session)
    (hbase : Queues [] display.decoder base.decoder) (hseen : base.seenState = display.seenState)
    (h : Ends { display.session with calls := [] } (handler { display.session with calls := [] })) :
    Effect display step (base.handle handler) := by
  obtain ⟨calls, hcalls, hresets⟩ := h.calls
  rw [List.nil_append] at hcalls
  obtain ⟨extra, hextra, hqueues⟩ := performAll_resets (hbase.closed.trans hopen.closed)
    (hbase.looperQuit.trans hopen.looperQuit) hresets
  refine .ended extra hnone hsame ?_ ?_ ?_ hseen
  · simp only [handle, hsession]
    exact h
  · simp only [handle, hsession]
    exact { h.moves step.received display.decoder.metrics.droppedFrames hextra with }
  · simp only [handle, hsession, hcalls]
    exact hbase.trans hqueues

theorem effect_of_restarts (hopen : Open display) (hnone : display.accepts step = none)
    (h : Restarts { display.session with calls := [] }
      (handler { display.session with calls := [] })) :
    Effect display step (display.handle handler) := by
  obtain ⟨calls, hcalls, hresets⟩ := h.calls
  rw [List.nil_append] at hcalls
  obtain ⟨extra, hextra, hqueues⟩ := performAll_resets hopen.closed hopen.looperQuit hresets
  refine .restarted extra hnone h ?_ rfl
  simp only [handle, hcalls]
  exact hqueues

theorem effect_of_inboundFrame (hopen : Open display) (surroundings : Surroundings)
    (frame : LdflFrame) :
    Effect display (.inboundFrame surroundings frame) (display.handle
      (handleInboundFrame (display.decoder.environment surroundings) · frame)) := by
  cases handleInboundFrame_effect (display.decoder.environment surroundings)
    { display.session with calls := [] } frame with
  | kept hnone h => exact effect_of_quiet hnone rfl rfl (Queues.refl _) rfl h
  | ended hnone h => exact effect_of_ends hopen hnone rfl rfl (Queues.refl _) rfl h
  | configured configuration hello haccepted hhello hcodec h =>
    have hqueues : Queues [.applyConfiguration configuration] display.decoder
        (display.decoder.applyConfiguration configuration) :=
      postUnlessClosed_queues hopen.closed hopen.looperQuit rfl HandlerTask.noConfusion
    refine .configured configuration haccepted rfl hcodec ?_ ?_ rfl
    · simp only [handle, h]
      exact ⟨rfl, rfl, rfl, by simp [applyDisplayConfiguration, record, hhello], rfl, rfl, rfl, rfl,
        rfl⟩
    · simp only [handle, h]
      exact hqueues
  | buffered hvideo hactive hready h =>
    obtain ⟨hmoves, hcalls⟩ := enqueueUntilSurfaceReady_moves
      (display.decoder.environment surroundings) { { display.session with calls := [] } with
        inboundHighest := some frame.sequence } frame hactive
    have hpicture := enqueueUntilSurfaceReady_samePicture
      (display.decoder.environment surroundings) { { display.session with calls := [] } with
        inboundHighest := some frame.sequence } frame
    refine .kept [] ?_ rfl ?_ ?_ ?_ (by simp) rfl
    · rw [accepts, acceptedConfiguration, if_pos (.inr (.inl hvideo))]
    · simp only [handle, h]
      exact { hpicture.picture with }
    · simp only [handle, h, DisplayStep.received, if_pos hvideo]
      exact { hmoves with }
    · simp only [handle, h, hcalls]
      exact Queues.refl _
  | submitted hvideo hactive hready h =>
    have hnone : display.accepts (.inboundFrame surroundings frame) = none := by
      rw [accepts, acceptedConfiguration, if_pos (.inr (.inl hvideo))]
    have hready' : display.session.surfaceReady = true := hready
    have hbusy : display.session.surfaceReady = false →
        ∀ extra : List HandlerTask, ∀ task ∈ extra, task.awaitsFrames = true := by
      intro hnot
      rw [hready'] at hnot
      cases hnot
    rcases submit_queues hopen.closed hopen.looperQuit frame with
      ⟨haccepted, hqueues⟩ | ⟨hrefused, extra, hextra, hqueues⟩
    · have hafter : handleInboundFrame (display.decoder.environment surroundings)
          { display.session with calls := [] } frame = { display.session with
            inboundHighest := some frame.sequence
            calls := [.submit frame] } := by
        rw [h]
        simp only [record, environment, haccepted, if_true]
        rfl
      refine .kept [.frame display.decoder.submissions frame] hnone rfl ?_ ?_ ?_ (hbusy · _) rfl
      · simp only [handle, hafter]
        exact ⟨rfl, rfl, rfl, id, id, fun _ => rfl⟩
      · simp only [handle, hafter, DisplayStep.received, if_pos hvideo]
        refine ⟨Nat.le_refl _, fun _ => .inl, ?_, rfl, .inl rfl⟩
        intro submission other hmem
        cases List.mem_singleton.mp hmem
        exact .inr List.mem_cons_self
      · simp only [handle, hafter]
        exact hqueues
    · have hafter : handleInboundFrame (display.decoder.environment surroundings)
          { display.session with calls := [] } frame = { display.session with
            inboundHighest := some frame.sequence
            calls := [.submit frame] }.recordDroppedVideo
              (display.decoder.environment surroundings) 1 := by
        rw [h]
        simp only [record, environment, hrefused, Bool.false_eq_true, if_false]
        rfl
      have hpicture := recordDroppedVideo_samePicture (display.decoder.environment surroundings)
        { display.session with
          inboundHighest := some frame.sequence
          calls := [.submit frame] } 1
      obtain ⟨hmoves, hcalls⟩ := recordDroppedVideo_moves
        (display.decoder.environment surroundings)
        { display.session with
          inboundHighest := some frame.sequence
          calls := [.submit frame] } frame hactive hextra
      refine .kept extra hnone rfl ?_ ?_ ?_ (hbusy · _) rfl
      · simp only [handle, hafter]
        exact { hpicture.picture with }
      · simp only [handle, hafter, DisplayStep.received, if_pos hvideo]
        exact { hmoves with }
      · simp only [handle, hafter, hcalls]
        exact hqueues

theorem effect_of_decoderState (hopen : Open display) (surroundings : Surroundings) :
    Effect display (.decoderState surroundings)
      { display.handle (·.handleDecoderState (display.decoder.view surroundings
          display.session.pendingSurfaceFrames) display.decoder.state) with
        seenState := some display.decoder.state } := by
  obtain ⟨shown, hshown, hafter⟩ := handleDecoderState_effect
    (display.decoder.view surroundings display.session.pendingSurfaceFrames) display.decoder.state
    { display.session with calls := [] }
  have hbaseline : shown.surfaceOutputBaseline = display.session.surfaceOutputBaseline ∨
      shown.surfaceOutputBaseline = display.decoder.metrics.outputsReleasedToSurface :=
    hshown.surfaceOutputBaseline
  rcases hafter with hsame | ⟨hready, hactive, hdrains⟩
  · refine .stateHandled [] rfl rfl ?_ ?_ ?_ rfl
    · simp only [handle, hsame]
      exact ⟨hshown.activeConfiguration, hshown.remoteHello, hshown.failed, hshown.surfaceReady,
        hbaseline, hshown.state⟩
    · simp only [handle, hsame]
      refine ⟨?_, ?_, by simp, hshown.lastReleasedFrameId, .inl ?_⟩
      · rw [hshown.localDroppedVideoFrames, hshown.pendingSurfaceFrames]
        simp [DisplayStep.received]
      · intro frame hframe
        exact .inl (hshown.pendingSurfaceFrames ▸ hframe)
      · rw [hshown.metrics]
    · simp only [handle, hsame, hshown.calls]
      exact Queues.refl _
  · have hloop : shown.drainPendingSurfaceFrames
        (display.decoder.view surroundings display.session.pendingSurfaceFrames) =
          drainLoop (display.decoder.view surroundings display.session.pendingSurfaceFrames) 0
            display.session.pendingSurfaceFrames shown := by
      rw [drainPendingSurfaceFrames, if_pos hready, hshown.pendingSurfaceFrames]
    obtain ⟨extra, hdrained⟩ := drainLoop_drained hopen.closed hopen.looperQuit surroundings
      display.session.pendingSurfaceFrames [] shown (List.nil_append _).symm hshown.calls
      (Queues.refl _)
    have hpicture := drainLoop_samePicture
      (display.decoder.view surroundings display.session.pendingSurfaceFrames) 0
      display.session.pendingSurfaceFrames shown
    rw [hloop] at hdrains
    rw [List.length_nil] at hdrained
    refine .stateHandled extra rfl rfl ?_ ?_ ?_ rfl
    · simp only [handle, hdrains]
      refine ⟨hpicture.activeConfiguration.trans hshown.activeConfiguration,
        hpicture.remoteHello.trans hshown.remoteHello,
        fun hhealthy => hshown.failed (hpicture.failed.symm.trans hhealthy),
        hpicture.surfaceReady.trans hshown.surfaceReady, ?_, ?_⟩
      · rw [hpicture.surfaceOutputBaseline]
        exact hbaseline
      · rw [hpicture.state]
        exact hshown.state
    · simp only [handle, hdrains]
      refine ⟨?_, ?_, ?_, hpicture.lastReleasedFrameId.trans hshown.lastReleasedFrameId, ?_⟩
      · have htotal := hdrained.total
        rw [hshown.localDroppedVideoFrames] at htotal
        rw [hdrained.pending]
        simpa [DisplayStep.received] using htotal
      · rw [hdrained.pending]
        simp
      · intro submission frame hmem
        exact .inl (hdrained.queued submission frame hmem)
      · have hdropped := hdrained.dropped
        rw [hshown.metrics] at hdropped
        exact hdropped.imp_right (⟨hactive, ·⟩)
    · simp only [handle, hdrains]
      exact hdrained.queues

theorem step_effect (hopen : Open display) (h : display.step step = some after) :
    Effect display step after := by
  cases step with
  | transport surroundings identity transport =>
    cases h
    cases hresets : transport.resetsProtocol with
    | true => exact effect_of_restarts hopen rfl (handleTransportState_restarts _ _ _ hresets)
    | false =>
      exact effect_of_quiet rfl hresets rfl (Queues.refl _) rfl
        (handleTransportState_quiet _ _ _ hresets)
  | inboundFrame surroundings frame =>
    cases h
    exact effect_of_inboundFrame hopen surroundings frame
  | sendFailure generation reason =>
    cases h
    exact effect_of_quiet rfl rfl rfl (Queues.refl _) rfl (handleSendFailure_quiet _ _)
  | decoderState surroundings =>
    rw [AndroidDisplay.step] at h
    split at h
    · cases h
    · cases h
      exact effect_of_decoderState hopen surroundings
  | decoderMetrics =>
    rw [AndroidDisplay.step] at h
    split at h
    · cases h
    · cases h
      have hcalls : ({ display.session with calls := [] }.handleDecoderMetrics
          display.decoder.metrics).calls = [] := handleDecoderMetrics_calls _ _
      refine .metricsHandled rfl rfl ?_ rfl
      simp only [handle, hcalls]
      rfl
  | decoderEvent =>
    rw [AndroidDisplay.step] at h
    split at h
    · cases h
    · rename_i event events hevents
      cases h
      have hbase : Queues [] display.decoder { display.decoder with events } :=
        { Queues.refl display.decoder with }
      cases handleDecoderEvent_effect { display.session with calls := [] } event with
      | kept hquiet => exact effect_of_quiet rfl rfl rfl hbase rfl hquiet
      | ended hends => exact effect_of_ends hopen rfl rfl rfl hbase rfl hends
  | telemetryTimer surroundings =>
    cases h
    exact effect_of_quiet rfl rfl rfl (Queues.refl _) rfl (sendTelemetryNow_quiet _ _)
  | pingTimer surroundings =>
    cases h
    exact effect_of_quiet rfl rfl rfl (Queues.refl _) rfl (sendPing_quiet _ _)
  | input emission =>
    cases h
    exact effect_of_quiet rfl rfl rfl (Queues.refl _) rfl (submitInput_quiet _ _)
  | write =>
    cases h
    exact effect_of_quiet rfl rfl rfl (Queues.refl _) rfl (write_quiet _)
  | setOutputSurface surface =>
    cases h
    have hqueues : Queues [.setOutputSurface surface] display.decoder
        (display.decoder.setOutputSurface surface) :=
      postUnlessClosed_queues hopen.closed hopen.looperQuit rfl HandlerTask.noConfusion
    exact .kept _ rfl rfl { Quiet.refl display.session with }
      ((Quiet.refl display.session).moves _ _ (by simp [HandlerTask.awaitsFrames])) hqueues
      (by simp [HandlerTask.awaitsFrames]) rfl
  | codecCallback task =>
    rw [AndroidDisplay.step] at h
    split at h
    · rename_i hcallback
      cases h
      have hawaits : ∀ other ∈ [task], other.awaitsFrames = true := by
        intro other hother
        rw [List.mem_singleton.mp hother]
        cases task <;> first | rfl | cases hcallback
      have hqueues : Queues [task] display.decoder (display.decoder.post task).2 :=
        post_queues hopen.looperQuit (by cases task <;> first | rfl | cases hcallback)
          (by rintro rfl; cases hcallback)
      exact .kept _ rfl rfl { Quiet.refl display.session with }
        ((Quiet.refl display.session).moves _ _ hawaits) hqueues (fun _ => hawaits) rfl
    · cases h
  | runTask platform =>
    obtain ⟨decoder, hrun, hafter⟩ := Option.map_eq_some_iff.mp h
    rw [runTask] at hrun
    split at hrun
    · cases hrun
    · rename_i task tasks htasks
      cases hrun
      exact .ran platform task tasks rfl htasks hafter.symm

theorem Open.of_queues {extra : List HandlerTask} (hopen : Open display)
    (h : Queues extra display.decoder after.decoder) : Open after := by
  refine ⟨h.closed.trans hopen.closed, h.looperQuit.trans hopen.looperQuit, ?_⟩
  rw [h.tasks]
  intro hmem
  exact (List.mem_append.mp hmem).elim hopen.noClose h.noClose

theorem Effect.open (hopen : Open display) (h : Effect display step after) : Open after := by
  cases h with
  | kept _ _ _ _ _ hqueues | ended _ _ _ _ _ hqueues | restarted _ _ _ hqueues
  | configured _ _ _ _ _ hqueues | stateHandled _ _ _ _ _ hqueues => exact hopen.of_queues hqueues
  | metricsHandled hstep h hdecoder =>
    have hqueues : Queues [] display.decoder after.decoder := by
      rw [hdecoder]
      exact Queues.refl _
    exact hopen.of_queues hqueues
  | ran platform task tasks hstep htasks h =>
    have hclose := hopen.noClose
    rw [htasks, List.mem_cons, not_or] at hclose
    have hkeeps := execute_keeps platform { display.decoder with tasks } task
    rw [h]
    refine ⟨hkeeps.closed.trans hopen.closed, ?_, ?_⟩
    · rw [Bool.eq_false_iff]
      intro hquit
      rcases hkeeps.looperQuit hquit with hbefore | htask
      · exact Bool.eq_false_iff.mp hopen.looperQuit hbefore
      · exact hclose.1 htask.symm
    · rw [hkeeps.tasks]
      exact hclose.2

theorem open_new (localCapabilities : CapabilitiesPayload) (maxInFlightAccessUnits : Nat)
    (h : 0 < maxInFlightAccessUnits) : Open (new localCapabilities maxInFlightAccessUnits h) :=
  ⟨rfl, rfl, by simp [new, AndroidMediaCodecVideoDecoder.new]⟩

end AndroidDisplay

end LadoFlow.Android
