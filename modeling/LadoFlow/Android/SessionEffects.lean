import LadoFlow.Android.SessionFailure

/-!
# Effects of session handlers

What a handler does to the picture on the display and to the counters behind the telemetry, once
for all invariants of the session with its decoder.
-/

namespace LadoFlow.Android

open Framework

namespace AndroidDisplaySession

/-- A negotiated session takes the configuration, and it is not active yet. -/
def acceptsConfiguration (env : SessionEnvironment) (session : AndroidDisplaySession)
    (frame : LdflFrame) (configuration : DisplayConfigPayload) : Bool :=
  match session.negotiated, session.remoteCapabilities, session.remoteHello with
  | true, some hostCapabilities, some _ =>
    !(session.activeConfiguration = none ∧ frame.sequence ≠ 2) &&
      (invalidReason session.localCapabilities hostCapabilities configuration
        (env.configurationRejectionReason configuration)).isNone &&
      session.activeConfiguration ≠ some configuration
  | _, _, _ => false

/-- The configuration of a frame that the session accepts and that is not active yet. -/
def acceptedConfiguration (env : SessionEnvironment) (session : AndroidDisplaySession)
    (frame : LdflFrame) : Option DisplayConfigPayload :=
  if session.isStale frame ∨ frame.messageType = .videoFrame ∨ session.failed then none
  else
  match frame.decodePayload with
  | .ok ⟨.displayConfig, configuration⟩ =>
    if session.acceptsConfiguration env frame configuration then some configuration else none
  | _ => none

/-- A handler that changes neither the picture nor the counters. -/
structure Quiet (before after : AndroidDisplaySession) : Prop where
  activeConfiguration : after.activeConfiguration = before.activeConfiguration
  surfaceReady : after.surfaceReady = before.surfaceReady
  surfaceOutputBaseline : after.surfaceOutputBaseline = before.surfaceOutputBaseline
  pendingSurfaceFrames : after.pendingSurfaceFrames = before.pendingSurfaceFrames
  localDroppedVideoFrames : after.localDroppedVideoFrames = before.localDroppedVideoFrames
  lastReleasedFrameId : after.lastReleasedFrameId = before.lastReleasedFrameId
  droppedVideoFrames : after.metrics.droppedVideoFrames = before.metrics.droppedVideoFrames
  calls : after.calls = before.calls
  failed : after.failed = false → before.failed = false
  remoteHello : before.remoteHello.isSome = true → after.remoteHello.isSome = true
  state : isDisplaying after.state = true → after.state = before.state

/-- The only decoder calls are resets. -/
def OnlyResets (calls : List CollaboratorCall) : Prop :=
  ∀ call ∈ calls, (∃ viewport, call = .updateViewport viewport) ∨ ∃ reason, call = .resetDecoder reason

/-- A handler that takes the configuration away within the generation. -/
structure Ends (before after : AndroidDisplaySession) : Prop where
  activeConfiguration : after.activeConfiguration = none
  surfaceReady : after.surfaceReady = true → before.surfaceReady = true
  pendingSurfaceFrames : after.pendingSurfaceFrames = before.pendingSurfaceFrames ∨
    after.pendingSurfaceFrames = []
  localDroppedVideoFrames : after.localDroppedVideoFrames = before.localDroppedVideoFrames
  lastReleasedFrameId : after.lastReleasedFrameId = before.lastReleasedFrameId
  droppedVideoFrames : after.metrics.droppedVideoFrames = before.metrics.droppedVideoFrames
  calls : ∃ extra, after.calls = before.calls ++ extra ∧ OnlyResets extra
  state : isDisplaying after.state = true → after.state = before.state

/-- A handler that begins a generation. -/
structure Restarts (before after : AndroidDisplaySession) : Prop where
  activeConfiguration : after.activeConfiguration = none
  surfaceReady : after.surfaceReady = false
  pendingSurfaceFrames : after.pendingSurfaceFrames = []
  localDroppedVideoFrames : after.localDroppedVideoFrames = 0
  lastReleasedFrameId : after.lastReleasedFrameId = 0
  droppedVideoFrames : after.metrics.droppedVideoFrames = 0
  calls : ∃ extra, after.calls = before.calls ++ extra ∧ OnlyResets extra
  state : isDisplaying after.state = false

/-- What one inbound frame does. -/
inductive InboundEffect (env : SessionEnvironment) (session : AndroidDisplaySession)
    (frame : LdflFrame) (after : AndroidDisplaySession) : Prop
  | kept (hnone : session.acceptedConfiguration env frame = none) (h : Quiet session after)
  | ended (hnone : session.acceptedConfiguration env frame = none) (h : Ends session after)
  | configured (configuration : DisplayConfigPayload) (hello : HelloPayload)
      (haccepted : session.acceptedConfiguration env frame = some configuration)
      (hhello : session.remoteHello = some hello) (hcodec : configuration.codec = .h264)
      (h : after = { session with inboundHighest := some frame.sequence }.applyDisplayConfiguration
        env hello configuration)
  | buffered (hvideo : frame.messageType = .videoFrame)
      (hactive : session.activeConfiguration.isSome = true) (hready : session.surfaceReady = false)
      (h : after = { session with
        inboundHighest := some frame.sequence }.enqueueUntilSurfaceReady env frame)
  | submitted (hvideo : frame.messageType = .videoFrame)
      (hactive : session.activeConfiguration.isSome = true) (hready : session.surfaceReady = true)
      (h : after =
        let session := { session with inboundHighest := some frame.sequence }.record (.submit frame)
        if env.submit frame then session else session.recordDroppedVideo env 1)

section Handlers

variable {env : SessionEnvironment} {session before after : AndroidDisplaySession}

theorem Quiet.refl (session : AndroidDisplaySession) : Quiet session session :=
  ⟨rfl, rfl, rfl, rfl, rfl, rfl, rfl, rfl, id, id, fun _ => rfl⟩

theorem updateQueueDepthMetric_eq (env : SessionEnvironment) (session : AndroidDisplaySession) :
    ∃ queueDepth, session.updateQueueDepthMetric env =
      { session with metrics := { session.metrics with queueDepth } } := by
  simp only [updateQueueDepthMetric]
  split
  · exact ⟨_, rfl⟩
  · exact ⟨session.metrics.queueDepth, rfl⟩

theorem Quiet.updateQueueDepthMetric (env : SessionEnvironment) (session : AndroidDisplaySession) :
    Quiet session (session.updateQueueDepthMetric env) := by
  obtain ⟨queueDepth, heq⟩ := updateQueueDepthMetric_eq env session
  rw [heq]
  exact { Quiet.refl session with }

theorem onlyResets_viewport (viewport : Option RemoteViewport) :
    OnlyResets [.updateViewport viewport] := by
  intro call hcall
  exact .inl ⟨viewport, List.mem_singleton.mp hcall⟩

theorem onlyResets_reset (viewport : Option RemoteViewport) (reason : String) :
    OnlyResets [.updateViewport viewport, .resetDecoder reason] := by
  intro call hcall
  rcases List.mem_cons.mp hcall with hviewport | hreset
  · exact .inl ⟨viewport, hviewport⟩
  · exact .inr ⟨reason, List.mem_singleton.mp hreset⟩

theorem OnlyResets.append {calls later : List CollaboratorCall} (h : OnlyResets calls)
    (h' : OnlyResets later) : OnlyResets (calls ++ later) := by
  intro call hcall
  rcases List.mem_append.mp hcall with hfirst | hsecond
  · exact h call hfirst
  · exact h' call hsecond

theorem rejectProtocol_ends (env : SessionEnvironment) (session : AndroidDisplaySession)
    (code : Protocol.ErrorCode) (diagnostic : String) :
    Ends session (session.rejectProtocol env code diagnostic) := by
  have hends : ∀ queueDepth, Ends session { session with
      activeConfiguration := none
      negotiated := false
      failed := true
      surfaceReady := false
      pendingSurfaceFrames := []
      metrics := { session.metrics with queueDepth }
      calls := (session.calls ++ [.updateViewport none]) ++ [.resetDecoder diagnostic]
      state := .failed diagnostic true .protocol } := by
    intro queueDepth
    refine ⟨rfl, Bool.noConfusion, .inr rfl, rfl, rfl, rfl, ?_, Bool.noConfusion⟩
    exact ⟨_, List.append_assoc .., onlyResets_reset none diagnostic⟩
  rw [rejectProtocol]
  obtain ⟨queueDepth, heq⟩ := updateQueueDepthMetric_eq env { session with
    activeConfiguration := none
    negotiated := false
    failed := true
    surfaceReady := false
    pendingSurfaceFrames := [] }
  simp only [heq, record]
  split
  · exact { hends queueDepth with }
  · exact hends queueDepth

theorem Ends.of_start {start : AndroidDisplaySession} (h : Ends start after)
    (hquiet : Quiet before start) : Ends before after where
  activeConfiguration := h.activeConfiguration
  surfaceReady hready := hquiet.surfaceReady.symm.trans (h.surfaceReady hready)
  pendingSurfaceFrames := by
    rw [← hquiet.pendingSurfaceFrames]
    exact h.pendingSurfaceFrames
  localDroppedVideoFrames := h.localDroppedVideoFrames.trans hquiet.localDroppedVideoFrames
  lastReleasedFrameId := h.lastReleasedFrameId.trans hquiet.lastReleasedFrameId
  droppedVideoFrames := h.droppedVideoFrames.trans hquiet.droppedVideoFrames
  calls := by
    rw [← hquiet.calls]
    exact h.calls
  state hdisplaying := by
    have hstart := h.state hdisplaying
    rw [hstart] at hdisplaying ⊢
    exact hquiet.state hdisplaying

/-- Control traffic: quiet, or the end of the configuration. -/
inductive ControlEffect (before after : AndroidDisplaySession) : Prop
  | kept (h : Quiet before after)
  | ended (h : Ends before after)

theorem finishNegotiationIfReady_effect (env : SessionEnvironment)
    (session : AndroidDisplaySession) :
    ControlEffect session (session.finishNegotiationIfReady env) := by
  rw [finishNegotiationIfReady]
  split
  · split
    · exact .ended (rejectProtocol_ends env session _ _)
    · exact .kept { Quiet.refl session with state := Bool.noConfusion }
  · exact .kept (Quiet.refl session)

theorem ControlEffect.of_start {start : AndroidDisplaySession} (h : ControlEffect start after)
    (hquiet : Quiet before start) (hkept : Quiet start after → Quiet before after) :
    ControlEffect before after := by
  cases h with
  | kept h => exact .kept (hkept h)
  | ended h => exact .ended (h.of_start hquiet)

theorem ifActive_effect (name : String) (action : AndroidDisplaySession → AndroidDisplaySession)
    (h : Quiet session (action session)) : ControlEffect session (session.ifActive env name action) := by
  rw [ifActive]
  split
  · exact .ended (rejectProtocol_ends env session _ _)
  · exact .kept h

theorem Quiet.trans {middle : AndroidDisplaySession} (h : Quiet before middle)
    (h' : Quiet middle after) : Quiet before after where
  activeConfiguration := h'.activeConfiguration.trans h.activeConfiguration
  surfaceReady := h'.surfaceReady.trans h.surfaceReady
  surfaceOutputBaseline := h'.surfaceOutputBaseline.trans h.surfaceOutputBaseline
  pendingSurfaceFrames := h'.pendingSurfaceFrames.trans h.pendingSurfaceFrames
  localDroppedVideoFrames := h'.localDroppedVideoFrames.trans h.localDroppedVideoFrames
  lastReleasedFrameId := h'.lastReleasedFrameId.trans h.lastReleasedFrameId
  droppedVideoFrames := h'.droppedVideoFrames.trans h.droppedVideoFrames
  calls := h'.calls.trans h.calls
  failed hhealthy := h.failed (h'.failed hhealthy)
  remoteHello hsome := h'.remoteHello (h.remoteHello hsome)
  state hdisplaying := by
    have hmiddle := h'.state hdisplaying
    rw [hmiddle] at hdisplaying ⊢
    exact h.state hdisplaying

theorem invalidReason_rejection (localCapabilities hostCapabilities : CapabilitiesPayload)
    (configuration : DisplayConfigPayload) (rejection : Option String) :
    invalidReason localCapabilities hostCapabilities configuration
        (if configuration.codec = .h264 ∧ configuration.profile = .h264Main then rejection
          else none) =
      invalidReason localCapabilities hostCapabilities configuration rejection := by
  by_cases hsupported : configuration.codec = .h264 ∧ configuration.profile = .h264Main
  · rw [if_pos hsupported]
  · rw [if_neg hsupported]
    by_cases hcodec : configuration.codec = .h264
    · have hprofile : configuration.profile ≠ .h264Main := fun h => hsupported ⟨hcodec, h⟩
      simp only [invalidReason, hprofile, ne_eq, not_false_eq_true, if_true]
    · simp only [invalidReason, hcodec, ne_eq, not_false_eq_true, if_true]

theorem codec_of_invalidReason_none {localCapabilities hostCapabilities : CapabilitiesPayload}
    {configuration : DisplayConfigPayload} {rejection : Option String}
    (h : invalidReason localCapabilities hostCapabilities configuration rejection = none) :
    configuration.codec = .h264 := by
  by_contra hcodec
  rw [invalidReason, if_pos hcodec] at h
  cases h

theorem handleDisplayConfiguration_accepts (session : AndroidDisplaySession) {frame : LdflFrame}
    {configuration : DisplayConfigPayload}
    (h : session.acceptsConfiguration env frame configuration = true) :
    ∃ hello, session.remoteHello = some hello ∧ configuration.codec = .h264 ∧
      session.handleDisplayConfiguration env frame configuration =
        session.applyDisplayConfiguration env hello configuration := by
  rw [acceptsConfiguration] at h
  rw [handleDisplayConfiguration]
  split at h
  · rename_i hostCapabilities hello hnegotiated hcapabilities hhello
    simp only [Bool.and_eq_true, Bool.not_eq_true', decide_eq_false_iff_not, decide_eq_true_eq,
      Option.isNone_iff_eq_none] at h
    obtain ⟨⟨hsequence, hvalid⟩, hnew⟩ := h
    refine ⟨hello, hhello, codec_of_invalidReason_none hvalid, ?_⟩
    simp only [hnegotiated, hcapabilities, hhello, invalidReason_rejection, hvalid]
    rw [if_neg hsequence, if_neg hnew]
  · cases h

/-- A configuration that is not accepted anew is rejected, or active already. -/
theorem handleDisplayConfiguration_refused {frame : LdflFrame}
    {configuration : DisplayConfigPayload}
    (h : session.acceptsConfiguration env frame configuration = false) :
    session.handleDisplayConfiguration env frame configuration = session ∨
      ∃ code diagnostic, session.handleDisplayConfiguration env frame configuration =
        session.rejectProtocol env code diagnostic := by
  rw [acceptsConfiguration] at h
  rw [handleDisplayConfiguration]
  split
  · rename_i hostCapabilities hello hnegotiated hcapabilities hhello
    simp only [hnegotiated, hcapabilities, hhello] at h
    by_cases hsequence : session.activeConfiguration = none ∧ frame.sequence ≠ 2
    · rw [if_pos hsequence]
      exact .inr ⟨_, _, rfl⟩
    · rw [if_neg hsequence]
      simp only [invalidReason_rejection]
      split
      · exact .inr ⟨_, _, rfl⟩
      · rename_i hvalid
        simp only [hsequence, hvalid, decide_false, Bool.not_false, Option.isNone_none,
          Bool.and_self, Bool.true_and, decide_eq_false_iff_not, not_not] at h
        rw [if_pos h]
        exact .inl rfl
  · exact .inr ⟨_, _, rfl⟩

theorem handleDisplayConfiguration_refuses {frame : LdflFrame}
    {configuration : DisplayConfigPayload}
    (h : session.acceptsConfiguration env frame configuration = false) :
    ControlEffect session (session.handleDisplayConfiguration env frame configuration) := by
  rcases handleDisplayConfiguration_refused h with hsame | ⟨code, diagnostic, hrejects⟩
  · rw [hsame]
    exact .kept (Quiet.refl session)
  · rw [hrejects]
    exact .ended (rejectProtocol_ends env session code diagnostic)

theorem handleRemoteError_ends (payload : RemoteErrorPayload) :
    Ends session (session.handleRemoteError payload) := by
  refine ⟨rfl, id, .inl rfl, rfl, rfl, rfl, ?_, Bool.noConfusion⟩
  exact ⟨_, List.append_assoc .., onlyResets_reset none _⟩

/-- Every control payload but an accepted configuration. -/
theorem handlePayload_effect (env : SessionEnvironment) (session : AndroidDisplaySession)
    (frame : LdflFrame) (payload : AnyPayload)
    (h : ∀ configuration, payload = ⟨.displayConfig, configuration⟩ →
      session.acceptsConfiguration env frame configuration = false) :
    ControlEffect session (session.handlePayload env frame payload) := by
  have hrejects : ∀ code diagnostic,
      ControlEffect session (session.rejectProtocol env code diagnostic) := fun _ _ =>
    .ended (rejectProtocol_ends env session _ _)
  obtain ⟨kind, value⟩ := payload
  cases kind with
  | hello =>
    simp only [handlePayload, handleRemoteHello]
    split
    · exact hrejects _ _
    split
    · exact hrejects _ _
    split
    · exact hrejects _ _
    · have hquiet : Quiet session { session with remoteHello := some value } :=
        { Quiet.refl session with remoteHello := fun _ => rfl }
      exact (finishNegotiationIfReady_effect env _).of_start hquiet hquiet.trans
  | capabilities =>
    simp only [handlePayload, handleRemoteCapabilities]
    split
    · exact hrejects _ _
    · have hquiet : Quiet session { session with remoteCapabilities := some value } :=
        { Quiet.refl session with }
      exact (finishNegotiationIfReady_effect env _).of_start hquiet hquiet.trans
  | displayConfig => exact handleDisplayConfiguration_refuses (h value rfl)
  | ping =>
    apply ifActive_effect
    simp only [respondToPing]
    split
    · exact { Quiet.refl session with }
    · exact Quiet.refl session
  | pong => exact ifActive_effect _ _ (Quiet.refl session)
  | telemetry => exact ifActive_effect _ _ (Quiet.refl session)
  | error => exact .ended (handleRemoteError_ends value)
  | input | videoFrame =>
    simp only [handlePayload]
    exact hrejects _ _

theorem handleInboundFrame_effect (env : SessionEnvironment) (session : AndroidDisplaySession)
    (frame : LdflFrame) :
    InboundEffect env session frame (session.handleInboundFrame env frame) := by
  rw [handleInboundFrame]
  by_cases hstale : session.isStale frame = true
  · have hnone : session.acceptedConfiguration env frame = none := by
      rw [acceptedConfiguration, if_pos (.inl hstale)]
    rw [isStale] at hstale
    rw [if_pos hstale]
    exact .ended hnone (rejectProtocol_ends env session _ _)
  have hfresh := hstale
  rw [isStale] at hfresh
  rw [if_neg hfresh]
  have hquiet : Quiet session { session with inboundHighest := some frame.sequence } :=
    { Quiet.refl session with }
  simp only
  by_cases hvideo : frame.messageType = .videoFrame
  · have hnone : session.acceptedConfiguration env frame = none := by
      rw [acceptedConfiguration, if_pos (.inr (.inl hvideo))]
    rw [if_pos hvideo, handleMediaFrame]
    by_cases hfailed : session.failed = true
    · rw [if_pos hfailed]
      exact .kept hnone hquiet
    rw [if_neg hfailed]
    split
    · exact .ended hnone ((rejectProtocol_ends env _ _ _).of_start hquiet)
    · rename_i hnegotiated
      have hactive : session.activeConfiguration.isSome = true :=
        Option.isSome_iff_ne_none.mpr fun hnone => hnegotiated (.inr hnone)
      by_cases hready : session.surfaceReady = true
      · rw [if_neg (by simp [hready])]
        exact .submitted hvideo hactive hready rfl
      · rw [if_pos (by simp [hready])]
        exact .buffered hvideo hactive (Bool.eq_false_iff.mpr hready) rfl
  · rw [if_neg hvideo, handleControlFrame]
    by_cases hfailed : session.failed = true
    · have hnone : session.acceptedConfiguration env frame = none := by
        rw [acceptedConfiguration, if_pos (.inr (.inr hfailed))]
      rw [if_pos hfailed]
      exact .kept hnone hquiet
    rw [if_neg hfailed]
    have haccepted : session.acceptedConfiguration env frame =
        match frame.decodePayload with
        | .ok ⟨.displayConfig, configuration⟩ =>
          if session.acceptsConfiguration env frame configuration then some configuration else none
        | _ => none := by
      rw [acceptedConfiguration, if_neg (by simp [hstale, hvideo, hfailed])]
    cases hdecode : frame.decodePayload with
    | error exception =>
      rw [hdecode] at haccepted
      exact .ended haccepted ((rejectProtocol_ends env _ _ _).of_start hquiet)
    | ok payload =>
      rw [hdecode] at haccepted
      have hcontrol (hnone : session.acceptedConfiguration env frame = none)
          (hrefused : ∀ configuration, payload = ⟨.displayConfig, configuration⟩ →
            session.acceptsConfiguration env frame configuration = false) :
          InboundEffect env session frame ({ session with
            inboundHighest := some frame.sequence }.handlePayload env frame payload) := by
        cases handlePayload_effect env { session with inboundHighest := some frame.sequence } frame
          payload hrefused with
        | kept h => exact .kept hnone (hquiet.trans h)
        | ended h => exact .ended hnone (h.of_start hquiet)
      obtain ⟨kind, value⟩ := payload
      cases kind with
      | displayConfig =>
        simp only at haccepted
        cases haccepts : session.acceptsConfiguration env frame value with
        | false =>
          rw [haccepts] at haccepted
          refine hcontrol haccepted ?_
          intro configuration heq
          cases heq
          exact haccepts
        | true =>
          rw [haccepts] at haccepted
          obtain ⟨hello, hhello, hcodec, heq⟩ := handleDisplayConfiguration_accepts
            { session with inboundHighest := some frame.sequence } haccepts
          exact .configured value hello haccepted hhello hcodec heq
      | _ => exact hcontrol haccepted (by simp)

theorem resetProtocol_restarts (env : SessionEnvironment) (session : AndroidDisplaySession)
    (reason : String) (state : AndroidDisplaySessionState) (hstate : isDisplaying state = false) :
    Restarts session { session.resetProtocol env reason with state } := by
  simp only [resetProtocol]
  split
  · refine ⟨rfl, rfl, rfl, rfl, rfl, rfl, ?_, hstate⟩
    exact ⟨_, List.append_assoc .., onlyResets_reset none reason⟩
  · exact ⟨rfl, rfl, rfl, rfl, rfl, rfl, ⟨_, rfl, onlyResets_viewport none⟩, hstate⟩

theorem failLocal_restarts {start : AndroidDisplaySession} (h : Restarts before start)
    (reason : String) : Restarts before (start.failLocal env reason) := by
  obtain ⟨queueDepth, heq⟩ := updateQueueDepthMetric_eq env { start with
    activeConfiguration := none
    negotiated := false
    failed := true
    surfaceReady := false
    pendingSurfaceFrames := [] }
  obtain ⟨extra, hcalls, hresets⟩ := h.calls
  simp only [failLocal, heq, record]
  refine ⟨rfl, rfl, rfl, h.localDroppedVideoFrames, h.lastReleasedFrameId, h.droppedVideoFrames,
    ⟨extra ++ [.updateViewport none, .resetDecoder reason], ?_,
      hresets.append (onlyResets_reset none reason)⟩, rfl⟩
  simp [hcalls]

theorem beginHandshake_restarts (env : SessionEnvironment) (session : AndroidDisplaySession)
    (name : String) (nonce : SignedBytes) (implementationName : String) :
    Restarts session (session.beginHandshake env name nonce implementationName) := by
  have hreset := resetProtocol_restarts env session "Starting a new LDFL generation"
    (.handshaking name) rfl
  have hstart : Restarts session { session.resetProtocol env "Starting a new LDFL generation" with
      accessoryName := name, outbound := some .new, state := .handshaking name } :=
    { hreset with }
  simp only [beginHandshake]
  split
  · exact failLocal_restarts hstart _
  split
  · exact { hstart with }
  · exact hstart

theorem handleTransportState_restarts (env : SessionEnvironment) (session : AndroidDisplaySession)
    (identity : Identity) {transport : UsbTransportState}
    (h : transport.resetsProtocol = true) :
    Restarts session (session.handleTransportState env identity transport) := by
  cases transport with
  | opening => cases h
  | connected | tetherConnected => exact beginHandshake_restarts _ _ _ _ _
  | awaitingPermission | detached => exact { resetProtocol_restarts env session _ _ rfl with }
  | _ => exact resetProtocol_restarts env session _ _ rfl

theorem handleTransportState_quiet (env : SessionEnvironment) (session : AndroidDisplaySession)
    (identity : Identity) {transport : UsbTransportState}
    (h : transport.resetsProtocol = false) :
    Quiet session (session.handleTransportState env identity transport) := by
  cases transport with
  | opening => exact { Quiet.refl session with state := Bool.noConfusion }
  | _ => cases h

theorem handleSendFailure_quiet (generation : Nat) (reason : String) :
    Quiet session (session.handleSendFailure generation reason) := by
  rw [handleSendFailure]
  split
  · exact { Quiet.refl session with failed := Bool.noConfusion, state := Bool.noConfusion }
  · exact Quiet.refl session

theorem sendTelemetryNow_quiet (env : SessionEnvironment) (session : AndroidDisplaySession) :
    Quiet session (session.sendTelemetryNow env) := by
  rw [sendTelemetryNow]
  split
  · exact Quiet.refl session
  split
  · exact { Quiet.updateQueueDepthMetric env session with }
  · exact Quiet.updateQueueDepthMetric env session

theorem sendPing_quiet (env : SessionEnvironment) (session : AndroidDisplaySession) :
    Quiet session (session.sendPing env) := by
  rw [sendPing]
  split
  · exact Quiet.refl session
  · exact { Quiet.refl session with }

theorem submitInput_quiet (session : AndroidDisplaySession) (emission : AndroidInputEmission) :
    Quiet session (session.submitInput emission) := by
  rw [submitInput]
  split
  · exact Quiet.refl session
  split
  · exact { Quiet.refl session with }
  split
  · exact Quiet.refl session
  · exact { Quiet.refl session with }
  · simp only
    split
    · exact { Quiet.refl session with }
    · exact { Quiet.refl session with }

theorem write_quiet (session : AndroidDisplaySession) : Quiet session (session.callback .write) := by
  rw [callback]
  split
  · exact { Quiet.refl session with }
  · exact Quiet.refl session

theorem handleDecoderEvent_effect (session : AndroidDisplaySession) (event : VideoDecoderEvent) :
    ControlEffect session (session.handleDecoderEvent event) := by
  cases event with
  | endOfStream =>
    rw [handleDecoderEvent]
    simp only [record]
    split
    · exact .ended ⟨rfl, id, .inl rfl, rfl, rfl, rfl, ⟨_, rfl, onlyResets_viewport none⟩,
        Bool.noConfusion⟩
    · exact .ended ⟨rfl, id, .inl rfl, rfl, rfl, rfl, ⟨_, rfl, onlyResets_viewport none⟩,
        fun _ => rfl⟩
  | _ => exact .kept (Quiet.refl session)

/-- What a handled decoder state makes of the readiness. -/
def readiness (ready : Bool) : VideoDecoderState → Bool
  | .idle | .awaitingConfiguration => ready
  | state => state.surfaceReady

/-- A decoder state is handled, and buffered frames are not yet submitted. -/
structure StateShown (view : Nat → SessionEnvironment) (state : VideoDecoderState)
    (before after : AndroidDisplaySession) : Prop where
  activeConfiguration : after.activeConfiguration = before.activeConfiguration
  remoteHello : after.remoteHello = before.remoteHello
  failed : after.failed = false → before.failed = false
  surfaceReady : after.surfaceReady =
    if before.activeConfiguration.isSome ∧ before.remoteHello.isSome
    then readiness before.surfaceReady state else before.surfaceReady
  surfaceOutputBaseline : after.surfaceOutputBaseline = before.surfaceOutputBaseline ∨
    after.surfaceOutputBaseline = (view 0).metrics.outputsReleasedToSurface
  pendingSurfaceFrames : after.pendingSurfaceFrames = before.pendingSurfaceFrames
  localDroppedVideoFrames : after.localDroppedVideoFrames = before.localDroppedVideoFrames
  lastReleasedFrameId : after.lastReleasedFrameId = before.lastReleasedFrameId
  metrics : after.metrics = before.metrics
  calls : after.calls = before.calls
  state : isDisplaying after.state = true → after.state = before.state

theorem handleDecoderState_effect (view : Nat → SessionEnvironment) (state : VideoDecoderState)
    (session : AndroidDisplaySession) : ∃ shown, StateShown view state session shown ∧
      (session.handleDecoderState view state = shown ∨
        shown.surfaceReady = true ∧ session.activeConfiguration.isSome = true ∧
          session.handleDecoderState view state = shown.drainPendingSurfaceFrames view) := by
  have hkeep (hello : HelloPayload) (configuration : DisplayConfigPayload)
      (h : isDisplaying (if isDisplaying session.state then session.state
        else .connected hello.implementationName configuration) = true) :
      (if isDisplaying session.state then session.state
        else .connected hello.implementationName configuration) = session.state := by
    split at h
    · rename_i hdisplaying
      rw [if_pos hdisplaying]
    · cases h
  rw [handleDecoderState]
  split
  · rename_i configuration hello hconfiguration hhello
    have hboth : session.activeConfiguration.isSome ∧ session.remoteHello.isSome := by
      simp [hconfiguration, hhello]
    cases state with
    | awaitingKeyframe | running =>
      refine ⟨{ session with
        surfaceReady := true
        state := if isDisplaying session.state then session.state
          else .connected hello.implementationName configuration }, ?_, .inr ⟨rfl, hboth.1, rfl⟩⟩
      exact ⟨rfl, rfl, id, (if_pos hboth).symm, .inl rfl, rfl, rfl, rfl, rfl, rfl,
        hkeep hello configuration⟩
    | recovering applied attempt reason =>
      exact ⟨{ session with surfaceReady := true, state := .recovering attempt reason },
        ⟨rfl, rfl, id, (if_pos hboth).symm, .inl rfl, rfl, rfl, rfl, rfl, rfl, Bool.noConfusion⟩,
        .inr ⟨rfl, hboth.1, rfl⟩⟩
    | awaitingSurface =>
      exact ⟨session.suspendSurface (view 0) (.configured hello.implementationName configuration),
        ⟨rfl, rfl, id, (if_pos hboth).symm, .inr rfl, rfl, rfl, rfl, rfl, rfl, Bool.noConfusion⟩,
        .inl rfl⟩
    | failed message recoverableOnKeyframe =>
      cases recoverableOnKeyframe with
      | true =>
        exact ⟨session.suspendSurface (view 0) (.recovering 1 message),
          ⟨rfl, rfl, id, (if_pos hboth).symm, .inr rfl, rfl, rfl, rfl, rfl, rfl, Bool.noConfusion⟩,
          .inl rfl⟩
      | false =>
        exact ⟨{ session.suspendSurface (view 0) (.failed message true .decoder) with
            failed := true },
          ⟨rfl, rfl, Bool.noConfusion, (if_pos hboth).symm, .inr rfl, rfl, rfl, rfl, rfl, rfl,
            Bool.noConfusion⟩, .inl rfl⟩
    | closed =>
      exact ⟨{ session with
          surfaceReady := false
          failed := true
          state := .failed "Android decoder closed" true .decoder },
        ⟨rfl, rfl, Bool.noConfusion, (if_pos hboth).symm, .inl rfl, rfl, rfl, rfl, rfl, rfl,
          Bool.noConfusion⟩, .inl rfl⟩
    | awaitingConfiguration | idle =>
      exact ⟨session, ⟨rfl, rfl, id, (if_pos hboth).symm, .inl rfl, rfl, rfl, rfl, rfl, rfl,
        fun _ => rfl⟩, .inl rfl⟩
  · rename_i hmissing
    have hnot : ¬(session.activeConfiguration.isSome ∧ session.remoteHello.isSome) := by
      intro hboth
      obtain ⟨configuration, hconfiguration⟩ := Option.isSome_iff_exists.mp hboth.1
      obtain ⟨hello, hhello⟩ := Option.isSome_iff_exists.mp hboth.2
      exact hmissing configuration hello hconfiguration hhello
    exact ⟨session, ⟨rfl, rfl, id, (if_neg hnot).symm, .inl rfl, rfl, rfl, rfl, rfl, rfl,
      fun _ => rfl⟩, .inl rfl⟩

/-- The picture is the same after the buffered frames are submitted. -/
structure SamePicture (before after : AndroidDisplaySession) : Prop where
  activeConfiguration : after.activeConfiguration = before.activeConfiguration
  remoteHello : after.remoteHello = before.remoteHello
  failed : after.failed = before.failed
  surfaceReady : after.surfaceReady = before.surfaceReady
  surfaceOutputBaseline : after.surfaceOutputBaseline = before.surfaceOutputBaseline
  lastReleasedFrameId : after.lastReleasedFrameId = before.lastReleasedFrameId
  state : after.state = before.state

theorem SamePicture.refl (session : AndroidDisplaySession) : SamePicture session session :=
  ⟨rfl, rfl, rfl, rfl, rfl, rfl, rfl⟩

theorem SamePicture.trans {middle : AndroidDisplaySession} (h : SamePicture before middle)
    (h' : SamePicture middle after) : SamePicture before after where
  activeConfiguration := h'.activeConfiguration.trans h.activeConfiguration
  remoteHello := h'.remoteHello.trans h.remoteHello
  failed := h'.failed.trans h.failed
  surfaceReady := h'.surfaceReady.trans h.surfaceReady
  surfaceOutputBaseline := h'.surfaceOutputBaseline.trans h.surfaceOutputBaseline
  lastReleasedFrameId := h'.lastReleasedFrameId.trans h.lastReleasedFrameId
  state := h'.state.trans h.state

theorem updateQueueDepthMetric_samePicture (env : SessionEnvironment)
    (session : AndroidDisplaySession) :
    SamePicture session (session.updateQueueDepthMetric env) := by
  obtain ⟨queueDepth, heq⟩ := updateQueueDepthMetric_eq env session
  rw [heq]
  exact { SamePicture.refl session with }

theorem recordDroppedVideo_samePicture (env : SessionEnvironment)
    (session : AndroidDisplaySession) (count : Nat) :
    SamePicture session (session.recordDroppedVideo env count) := by
  rw [recordDroppedVideo]
  split
  · exact SamePicture.refl session
  · exact { SamePicture.refl session with }

theorem drainLoop_samePicture (view : Nat → SessionEnvironment) (submitted : Nat)
    (frames : List LdflFrame) (session : AndroidDisplaySession) :
    SamePicture session (drainLoop view submitted frames session) := by
  induction frames generalizing submitted session with
  | nil =>
    have hdepth := updateQueueDepthMetric_samePicture (view submitted)
      { session with pendingSurfaceFrames := [] }
    exact { hdepth with }
  | cons frame frames ih =>
    rw [drainLoop]
    simp only
    split
    · have hrest := ih (submitted + 1) (session.record (.submit frame))
      exact { hrest with }
    · have hdropped := recordDroppedVideo_samePicture (view (submitted + 1))
        (session.record (.submit frame)) 1
      have hdepth := updateQueueDepthMetric_samePicture (view (submitted + 1))
        { (session.record (.submit frame)).recordDroppedVideo (view (submitted + 1)) 1 with
          pendingSurfaceFrames := []
          awaitingSurfaceKeyframe := true }
      have hstart : SamePicture session
          { (session.record (.submit frame)).recordDroppedVideo (view (submitted + 1)) 1 with
            pendingSurfaceFrames := []
            awaitingSurfaceKeyframe := true } := { hdropped with }
      exact hstart.trans hdepth

theorem enqueueUntilSurfaceReady_samePicture (env : SessionEnvironment)
    (session : AndroidDisplaySession) (frame : LdflFrame) :
    SamePicture session (session.enqueueUntilSurfaceReady env frame) := by
  have hdropped := recordDroppedVideo_samePicture env session
  rw [enqueueUntilSurfaceReady]
  simp only
  split
  · refine SamePicture.trans ?_ (updateQueueDepthMetric_samePicture env _)
    exact { hdropped _ with }
  split
  · exact hdropped 1
  split
  · refine SamePicture.trans ?_ (updateQueueDepthMetric_samePicture env _)
    exact { hdropped _ with }
  · refine SamePicture.trans ?_ (updateQueueDepthMetric_samePicture env _)
    exact { SamePicture.refl session with }

end Handlers

end AndroidDisplaySession

end LadoFlow.Android
