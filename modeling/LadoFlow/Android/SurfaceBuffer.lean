import LadoFlow.Android.VideoAccounting

/-!
# The frames kept for the Surface

The session keeps a keyframe and the frames received directly after it until the decoder has a
Surface. Only losing a Surface after frames went to the decoder leaves no keyframe to begin with.
-/

namespace LadoFlow.Android

open Framework
open Protocol (ErrorCode)

namespace AndroidDisplaySession

/-- A handler that clears the kept frames or leaves them, and the wait for them, alone. -/
inductive KeepsFrames (before after : AndroidDisplaySession) : Prop
  | cleared (hpending : after.pendingSurfaceFrames = [])
  | kept (hpending : after.pendingSurfaceFrames = before.pendingSurfaceFrames)
      (hawaiting : after.awaitingSurfaceKeyframe = before.awaitingSurfaceKeyframe)
      (hready : after.surfaceReady = true → before.surfaceReady = true)
      (hfailed : after.failed = false → before.failed = false)

section Handlers

variable (env : SessionEnvironment) (session : AndroidDisplaySession)

theorem KeepsFrames.refl : KeepsFrames session session := .kept rfl rfl id id

variable {session} in
theorem KeepsFrames.of_start {start after : AndroidDisplaySession} (h : KeepsFrames start after)
    (hstart : KeepsFrames session start) : KeepsFrames session after := by
  cases h with
  | cleared hpending => exact .cleared hpending
  | kept hpending hawaiting hready hfailed =>
    cases hstart with
    | cleared hnone => exact .cleared (hpending.trans hnone)
    | kept hpending' hawaiting' hready' hfailed' =>
      exact .kept (hpending.trans hpending') (hawaiting.trans hawaiting')
        (fun h => hready' (hready h)) (fun h => hfailed' (hfailed h))

theorem updateQueueDepthMetric_keepsFrames :
    KeepsFrames session (session.updateQueueDepthMetric env) := by
  obtain ⟨queueDepth, heq⟩ := updateQueueDepthMetric_eq env session
  rw [heq]
  exact .kept rfl rfl id id

theorem rejectProtocol_clears (code : ErrorCode) (diagnostic : String) :
    (session.rejectProtocol env code diagnostic).pendingSurfaceFrames = [] := by
  obtain ⟨queueDepth, heq⟩ := updateQueueDepthMetric_eq env { session with
    activeConfiguration := none
    negotiated := false
    failed := true
    surfaceReady := false
    pendingSurfaceFrames := [] }
  simp only [rejectProtocol, heq]
  split
  · rfl
  · rfl

theorem rejectProtocol_keepsFrames (code : ErrorCode) (diagnostic : String) :
    KeepsFrames session (session.rejectProtocol env code diagnostic) :=
  .cleared (rejectProtocol_clears env session code diagnostic)

theorem finishNegotiationIfReady_keepsFrames :
    KeepsFrames session (session.finishNegotiationIfReady env) := by
  rw [finishNegotiationIfReady]
  split
  · split
    · exact rejectProtocol_keepsFrames env session _ _
    · exact .kept rfl rfl id id
  · exact .refl session

theorem handleRemoteHello_keepsFrames (frame : LdflFrame) (hello : HelloPayload) :
    KeepsFrames session (session.handleRemoteHello env frame hello) := by
  rw [handleRemoteHello]
  split
  · exact rejectProtocol_keepsFrames env session _ _
  split
  · exact rejectProtocol_keepsFrames env session _ _
  split
  · exact rejectProtocol_keepsFrames env session _ _
  · apply (finishNegotiationIfReady_keepsFrames env _).of_start
    exact .kept rfl rfl id id

theorem handleRemoteCapabilities_keepsFrames (frame : LdflFrame)
    (capabilities : CapabilitiesPayload) :
    KeepsFrames session (session.handleRemoteCapabilities env frame capabilities) := by
  rw [handleRemoteCapabilities]
  split
  · exact rejectProtocol_keepsFrames env session _ _
  · apply (finishNegotiationIfReady_keepsFrames env _).of_start
    exact .kept rfl rfl id id

/-- A configuration is refused, active already, or clears the frames. -/
theorem handleDisplayConfiguration_keepsFrames (frame : LdflFrame)
    (configuration : DisplayConfigPayload) :
    KeepsFrames session (session.handleDisplayConfiguration env frame configuration) := by
  simp only [handleDisplayConfiguration, invalidReason_rejection]
  split
  · split
    · exact rejectProtocol_keepsFrames env session _ _
    split
    · exact rejectProtocol_keepsFrames env session _ _
    split
    · exact .refl session
    · exact .cleared rfl
  · exact rejectProtocol_keepsFrames env session _ _

theorem ifActive_keepsFrames (name : String)
    (action : AndroidDisplaySession → AndroidDisplaySession)
    (haction : KeepsFrames session (action session)) :
    KeepsFrames session (session.ifActive env name action) := by
  rw [ifActive]
  split
  · exact rejectProtocol_keepsFrames env session _ _
  · exact haction

theorem handlePayload_keepsFrames (frame : LdflFrame) (payload : AnyPayload) :
    KeepsFrames session (session.handlePayload env frame payload) := by
  obtain ⟨messageType, value⟩ := payload
  cases messageType with
  | hello => exact handleRemoteHello_keepsFrames env session frame value
  | capabilities => exact handleRemoteCapabilities_keepsFrames env session frame value
  | displayConfig => exact handleDisplayConfiguration_keepsFrames env session frame value
  | ping =>
    have hpong : KeepsFrames session (respondToPing env value session) := by
      simp only [respondToPing]
      split
      · exact .kept rfl rfl id id
      · exact .refl session
    exact ifActive_keepsFrames env session _ _ hpong
  | pong | telemetry => exact ifActive_keepsFrames env session _ _ (.refl session)
  | error => exact .kept rfl rfl id Bool.noConfusion
  | input | videoFrame =>
    rw [handlePayload]
    exact rejectProtocol_keepsFrames env session _ _

theorem handleControlFrame_keepsFrames (frame : LdflFrame) :
    KeepsFrames session (session.handleControlFrame env frame) := by
  rw [handleControlFrame]
  split
  · exact .refl session
  split
  · exact rejectProtocol_keepsFrames env session _ _
  · exact handlePayload_keepsFrames env session frame _

theorem handleTransportState_keepsFrames (identity : Identity) (transport : UsbTransportState) :
    KeepsFrames session (session.handleTransportState env identity transport) := by
  cases hresets : transport.resetsProtocol with
  | true =>
    exact .cleared (handleTransportState_restarts env session identity hresets).pendingSurfaceFrames
  | false =>
    cases transport with
    | opening => exact .kept rfl rfl id id
    | _ => cases hresets

theorem handleDecoderEvent_keepsFrames (event : VideoDecoderEvent) :
    KeepsFrames session (session.handleDecoderEvent event) := by
  cases event with
  | endOfStream =>
    simp only [handleDecoderEvent]
    split
    · exact .kept rfl rfl id id
    · exact .kept rfl rfl id id
  | _ => exact .refl session

theorem handleDecoderMetrics_keepsFrames (metrics : VideoDecoderMetrics) :
    KeepsFrames session (session.handleDecoderMetrics metrics) := by
  rw [handleDecoderMetrics]
  split
  · simp only
    split
    · exact .kept rfl rfl id id
    · exact .kept rfl rfl id id
  · exact .refl session

theorem handleSendFailure_keepsFrames (generation : Nat) (reason : String) :
    KeepsFrames session (session.handleSendFailure generation reason) := by
  rw [handleSendFailure]
  split
  · exact .kept rfl rfl id Bool.noConfusion
  · exact .refl session

theorem sendTelemetryNow_keepsFrames : KeepsFrames session (session.sendTelemetryNow env) := by
  have hdepth := updateQueueDepthMetric_keepsFrames env session
  rw [sendTelemetryNow]
  split
  · exact .refl session
  split
  · cases hdepth with
    | cleared hpending => exact .cleared hpending
    | kept hpending hawaiting hready hfailed => exact .kept hpending hawaiting hready hfailed
  · exact hdepth

theorem sendPing_keepsFrames : KeepsFrames session (session.sendPing env) := by
  rw [sendPing]
  split
  · exact .refl session
  · exact .kept rfl rfl id id

theorem submitInput_keepsFrames (emission : AndroidInputEmission) :
    KeepsFrames session (session.submitInput emission) := by
  rw [submitInput]
  split
  · exact .refl session
  split
  · exact .kept rfl rfl id id
  split
  · exact .refl session
  · exact .kept rfl rfl id id
  · simp only
    split
    · exact .kept rfl rfl id id
    · exact .kept rfl rfl id id

theorem write_keepsFrames : KeepsFrames session (session.callback .write) := by
  rw [callback]
  split
  · exact .kept rfl rfl id id
  · exact .refl session

/-- The kept frames are gone whenever the decoder may take some. -/
theorem drainLoop_clears (view : Nat → SessionEnvironment) (frames : List LdflFrame)
    (session : AndroidDisplaySession) (submitted : Nat) :
    (drainLoop view submitted frames session).pendingSurfaceFrames = [] := by
  induction frames generalizing session submitted with
  | nil =>
    obtain ⟨queueDepth, heq⟩ := updateQueueDepthMetric_eq (view submitted)
      { session with pendingSurfaceFrames := [] }
    rw [drainLoop, heq]
  | cons frame frames ih =>
    rw [drainLoop]
    simp only
    split
    · exact ih _ _
    · obtain ⟨queueDepth, heq⟩ := updateQueueDepthMetric_eq (view (submitted + 1))
        { (session.record (.submit frame)).recordDroppedVideo (view (submitted + 1)) 1 with
          pendingSurfaceFrames := []
          awaitingSurfaceKeyframe := true }
      rw [heq]

theorem handleDecoderState_keepsFrames (view : Nat → SessionEnvironment)
    (state : VideoDecoderState) :
    KeepsFrames session (session.handleDecoderState view state) := by
  by_cases hdrains : session.drains state = true
  · obtain ⟨shown, _, hafter⟩ := handleDecoderState_drains session view state hdrains
    rw [hafter]
    exact .cleared (drainLoop_clears view _ shown 0)
  cases hconfiguration : session.activeConfiguration with
  | none => simpa [handleDecoderState, hconfiguration] using KeepsFrames.refl session
  | some configuration =>
  cases hhello : session.remoteHello with
  | none => simpa [handleDecoderState, hconfiguration, hhello] using KeepsFrames.refl session
  | some hello =>
  have hready : state.surfaceReady = false := by
    simpa [drains, hconfiguration, hhello] using hdrains
  simp only [handleDecoderState, hconfiguration, hhello]
  cases state with
  | awaitingKeyframe | running | recovering => cases hready
  | failed message recoverableOnKeyframe =>
    cases recoverableOnKeyframe with
    | true => exact .kept rfl rfl Bool.noConfusion id
    | false => exact .kept rfl rfl Bool.noConfusion Bool.noConfusion
  | awaitingSurface => exact .kept rfl rfl Bool.noConfusion id
  | closed => exact .kept rfl rfl Bool.noConfusion Bool.noConfusion
  | awaitingConfiguration | idle => exact .refl session

/-- A frame before the Surface is ready begins the kept frames, is dropped with or without them,
or follows them. -/
theorem enqueueUntilSurfaceReady_frames (frame : LdflFrame) :
    let after := session.enqueueUntilSurfaceReady env frame
    if frame.isKeyframe then
      after.pendingSurfaceFrames = [frame] ∧ after.awaitingSurfaceKeyframe = false
    else if session.awaitingSurfaceKeyframe then
      after.pendingSurfaceFrames = session.pendingSurfaceFrames
    else if session.pendingSurfaceFrames.length ≥ 3 then after.pendingSurfaceFrames = []
    else
      after.pendingSurfaceFrames = session.pendingSurfaceFrames ++ [frame] ∧
        after.awaitingSurfaceKeyframe = false := by
  have hdepth : ∀ session : AndroidDisplaySession,
      (session.updateQueueDepthMetric env).pendingSurfaceFrames = session.pendingSurfaceFrames ∧
        (session.updateQueueDepthMetric env).awaitingSurfaceKeyframe =
          session.awaitingSurfaceKeyframe := by
    intro session
    obtain ⟨queueDepth, heq⟩ := updateQueueDepthMetric_eq env session
    rw [heq]
    exact ⟨rfl, rfl⟩
  rw [enqueueUntilSurfaceReady, LdflFrame.isKeyframe]
  by_cases hkeyframe : frame.flags.contains FrameFlags.keyframe = true
  · rw [if_pos hkeyframe, if_pos hkeyframe]
    exact hdepth _
  rw [if_neg hkeyframe, if_neg hkeyframe]
  by_cases hawaiting : session.awaitingSurfaceKeyframe = true
  · rw [if_pos hawaiting, if_pos hawaiting]
    exact (recordDroppedVideo_kept env session 1).1
  rw [if_neg hawaiting, if_neg hawaiting]
  by_cases hfull : session.pendingSurfaceFrames.length ≥ 3
  · rw [if_pos hfull, if_pos hfull]
    exact (hdepth _).1
  · rw [if_neg hfull, if_neg hfull]
    exact ⟨(hdepth _).1, (hdepth _).2.trans (by simpa using hawaiting)⟩

end Handlers

/-- The frame would be the first one in the buffer, and no keyframe is awaited. -/
def opensBuffer (session : AndroidDisplaySession) (frame : LdflFrame) : Bool :=
  !session.isStale frame && decide (frame.messageType = .videoFrame) && !session.failed &&
    session.negotiated && session.activeConfiguration.isSome && !session.surfaceReady &&
    session.pendingSurfaceFrames.isEmpty && !session.awaitingSurfaceKeyframe

end AndroidDisplaySession

/-- A session with the video frames it received so far. -/
structure SurfaceBuffer where
  session : AndroidDisplaySession
  received : List LdflFrame

namespace SurfaceBuffer

open AndroidDisplaySession

def new (localCapabilities : CapabilitiesPayload) : SurfaceBuffer :=
  ⟨AndroidDisplaySession.new localCapabilities, []⟩

/-- The video frame that a step brings. -/
def brings : LifetimeStep → List LdflFrame
  | .callback (.inboundFrame _ frame) => if frame.messageType = .videoFrame then [frame] else []
  | _ => []

def machine : Machine SurfaceBuffer LifetimeStep where
  step s step := some ⟨s.session.advance step, s.received ++ brings step⟩

/-- Nothing, or a keyframe and at most two frames received directly after it. -/
def DecodableRun (s : SurfaceBuffer) : Prop :=
  s.session.pendingSurfaceFrames = [] ∨ ∃ key frames,
    s.session.pendingSurfaceFrames = key :: frames ∧ key.isKeyframe = true ∧ frames.length ≤ 2 ∧
      key :: frames <:+: s.received

/-- A delta frame finds the buffer begun, or a keyframe awaited. -/
def OpensWithKeyframe (s : SurfaceBuffer) : LifetimeStep → Prop
  | .callback (.inboundFrame _ frame) =>
    s.session.opensBuffer frame = true → frame.isKeyframe = true
  | _ => True

instance : DecidableRel OpensWithKeyframe
  | _, .callback (.inboundFrame ..) => inferInstanceAs (Decidable (_ → _))
  | _, .callback (.decoderEvent _) | _, .callback (.decoderMetrics _)
  | _, .callback (.decoderState ..) | _, .callback (.sendFailure ..)
  | _, .callback (.telemetryTimer _) | _, .callback (.pingTimer _) | _, .callback (.input _)
  | _, .callback .write | _, .transport .. => .isTrue trivial

/-- The kept frames are the last ones received, unless the session failed since. -/
structure Buffering (s : SurfaceBuffer) : Prop where
  surfaceReady : s.session.surfaceReady = false
  awaiting : s.session.awaitingSurfaceKeyframe = false
  begins : ∃ key frames, s.session.pendingSurfaceFrames = key :: frames ∧ key.isKeyframe = true
  length : s.session.pendingSurfaceFrames.length ≤ 3
  received : s.session.pendingSurfaceFrames <:+: s.received
  last : s.session.failed = false → s.session.pendingSurfaceFrames <:+ s.received

def Inv (s : SurfaceBuffer) : Prop := s.session.pendingSurfaceFrames = [] ∨ s.Buffering

variable {s : SurfaceBuffer}

theorem Inv.decodableRun (h : s.Inv) : s.DecodableRun := by
  cases h with
  | inl hempty => exact .inl hempty
  | inr hbuffering =>
    obtain ⟨key, frames, hpending, hkeyframe⟩ := hbuffering.begins
    have hlength := hbuffering.length
    have hreceived := hbuffering.received
    rw [hpending] at hlength hreceived
    refine .inr ⟨key, frames, hpending, hkeyframe, ?_, hreceived⟩
    rw [List.length_cons] at hlength
    omega

/-- Without a new video frame the kept frames stay what they are, or go. -/
theorem Inv.keepsFrames (h : s.Inv) {after : AndroidDisplaySession}
    (hkeeps : KeepsFrames s.session after) : Inv ⟨after, s.received⟩ := by
  cases hkeeps with
  | cleared hpending => exact .inl hpending
  | kept hpending hawaiting hready hfailed =>
    cases h with
    | inl hempty => exact .inl (hpending.trans hempty)
    | inr hbuffering =>
      have hnotReady : after.surfaceReady = false := by
        by_contra hafter
        have hbefore := hready (eq_true_of_ne_false hafter)
        rw [hbuffering.surfaceReady] at hbefore
        cases hbefore
      refine .inr ⟨hnotReady, hawaiting.trans hbuffering.awaiting, ?_, ?_, ?_, ?_⟩
      · simpa only [hpending] using hbuffering.begins
      · simpa only [hpending] using hbuffering.length
      · simpa only [hpending] using hbuffering.received
      · intro hafter
        simpa only [hpending] using hbuffering.last (hfailed hafter)

/-- A frame that follows the kept ones. -/
theorem Buffering.append (h : s.Buffering) {after : AndroidDisplaySession} {frame : LdflFrame}
    (hready : after.surfaceReady = false) (hawaiting : after.awaitingSurfaceKeyframe = false)
    (hpending : after.pendingSurfaceFrames = s.session.pendingSurfaceFrames ++ [frame])
    (hroom : s.session.pendingSurfaceFrames.length < 3) (hfailed : s.session.failed = false) :
    Buffering ⟨after, s.received ++ [frame]⟩ := by
  obtain ⟨key, frames, hbegins, hkeyframe⟩ := h.begins
  obtain ⟨before, hbefore⟩ := h.last hfailed
  have hlast : after.pendingSurfaceFrames <:+ s.received ++ [frame] := by
    rw [hpending, ← hbefore, List.append_assoc]
    exact List.suffix_append before _
  refine ⟨hready, hawaiting, ⟨key, frames ++ [frame], ?_, hkeyframe⟩, ?_, hlast.isInfix,
    fun _ => hlast⟩
  · rw [hpending, hbegins, List.cons_append]
  · simp only [hpending, List.length_append, List.length_singleton]
    omega

/-- A frame that a failed session ignores. -/
theorem Inv.ignored (h : s.Inv) {after : AndroidDisplaySession} (frame : LdflFrame)
    (hready : after.surfaceReady = s.session.surfaceReady)
    (hawaiting : after.awaitingSurfaceKeyframe = s.session.awaitingSurfaceKeyframe)
    (hpending : after.pendingSurfaceFrames = s.session.pendingSurfaceFrames)
    (hfailed : after.failed = true) : Inv ⟨after, s.received ++ [frame]⟩ := by
  cases h with
  | inl hempty => exact .inl (hpending.trans hempty)
  | inr hbuffering =>
    refine .inr ⟨hready.trans hbuffering.surfaceReady, hawaiting.trans hbuffering.awaiting,
      ?_, ?_, ?_, ?_⟩
    · simpa only [hpending] using hbuffering.begins
    · simpa only [hpending] using hbuffering.length
    · rw [hpending]
      exact hbuffering.received.trans (List.prefix_append _ _).isInfix
    · intro hafter
      rw [hfailed] at hafter
      cases hafter

/-- The frame is kept or dropped until the Surface is ready. -/
theorem Inv.enqueue (h : s.Inv) (env : SessionEnvironment) {start : AndroidDisplaySession}
    {frame : LdflFrame} (hready : start.surfaceReady = false)
    (hawaiting : start.awaitingSurfaceKeyframe = s.session.awaitingSurfaceKeyframe)
    (hpending : start.pendingSurfaceFrames = s.session.pendingSurfaceFrames)
    (hfailed : s.session.failed = false)
    (hopens : s.session.pendingSurfaceFrames = [] → s.session.awaitingSurfaceKeyframe = false →
      frame.isKeyframe = true) :
    Inv ⟨start.enqueueUntilSurfaceReady env frame, s.received ++ [frame]⟩ := by
  have hframes := enqueueUntilSurfaceReady_frames env start frame
  have hnotReady : (start.enqueueUntilSurfaceReady env frame).surfaceReady = false :=
    (enqueueUntilSurfaceReady_samePicture env start frame).surfaceReady.trans hready
  simp only [hawaiting, hpending] at hframes
  by_cases hkeyframe : frame.isKeyframe = true
  · rw [if_pos hkeyframe] at hframes
    obtain ⟨hkept, hbegun⟩ := hframes
    have hlast : (start.enqueueUntilSurfaceReady env frame).pendingSurfaceFrames <:+
        s.received ++ [frame] := by
      rw [hkept]
      exact List.suffix_append s.received [frame]
    refine .inr ⟨hnotReady, hbegun, ⟨frame, [], hkept, hkeyframe⟩, ?_, hlast.isInfix,
      fun _ => hlast⟩
    simp [hkept]
  rw [if_neg hkeyframe] at hframes
  by_cases hawaits : s.session.awaitingSurfaceKeyframe = true
  · rw [if_pos hawaits] at hframes
    cases h with
    | inl hempty => exact .inl (hframes.trans hempty)
    | inr hbuffering =>
      rw [hbuffering.awaiting] at hawaits
      cases hawaits
  rw [if_neg hawaits] at hframes
  by_cases hfull : s.session.pendingSurfaceFrames.length ≥ 3
  · rw [if_pos hfull] at hframes
    exact .inl hframes
  · rw [if_neg hfull] at hframes
    cases h with
    | inl hempty => exact absurd (hopens hempty (by simpa using hawaits)) hkeyframe
    | inr hbuffering =>
      exact .inr (hbuffering.append hnotReady hframes.2 hframes.1 (by omega) hfailed)

theorem Inv.videoFrame (h : s.Inv) {env : SessionEnvironment} {frame : LdflFrame}
    (hvideo : frame.messageType = .videoFrame)
    (hopens : s.session.opensBuffer frame = true → frame.isKeyframe = true) :
    Inv ⟨s.session.handleInboundFrame env frame, s.received ++ [frame]⟩ := by
  rw [handleInboundFrame]
  by_cases hstale : s.session.inboundHighest.any (frame.sequence ≤ ·) = true
  · rw [if_pos hstale]
    exact .inl (rejectProtocol_clears env s.session _ _)
  rw [if_neg hstale]
  have hfresh : s.session.isStale frame = false := by simpa [isStale] using hstale
  simp only [if_pos hvideo]
  rw [handleMediaFrame]
  by_cases hfailed : s.session.failed = true
  · rw [if_pos hfailed]
    exact h.ignored frame rfl rfl rfl hfailed
  rw [if_neg hfailed]
  by_cases hinactive : ¬s.session.negotiated = true ∨ s.session.activeConfiguration = none
  · rw [if_pos hinactive]
    exact .inl (rejectProtocol_clears env _ _ _)
  rw [if_neg hinactive]
  rw [not_or, not_not] at hinactive
  by_cases hready : s.session.surfaceReady = true
  · rw [if_neg (not_not.mpr hready)]
    have hempty : s.session.pendingSurfaceFrames = [] := by
      cases h with
      | inl hempty => exact hempty
      | inr hbuffering =>
        rw [hbuffering.surfaceReady] at hready
        cases hready
    split
    · exact .inl hempty
    · exact .inl ((recordDroppedVideo_kept env _ 1).1.trans hempty)
  · rw [if_pos hready]
    have hwaiting : s.session.surfaceReady = false := by simpa using hready
    have hhealthy : s.session.failed = false := by simpa using hfailed
    apply h.enqueue env
    · exact hwaiting
    · rfl
    · rfl
    · exact hhealthy
    intro hempty hawaits
    apply hopens
    have hactive := Option.isSome_iff_ne_none.mpr hinactive.2
    simp [opensBuffer, hfresh, hvideo, hfailed, hinactive.1, hactive, hwaiting, hempty, hawaits]

theorem Inv.step {step : LifetimeStep} (h : s.Inv) (hopens : OpensWithKeyframe s step)
    {t : SurfaceBuffer} (hstep : machine.step s step = some t) : t.Inv := by
  have hquiet : ∀ {step : LifetimeStep}, brings step = [] →
      KeepsFrames s.session (s.session.advance step) →
      Inv ⟨s.session.advance step, s.received ++ brings step⟩ := by
    intro step hnone hkeeps
    rw [hnone, List.append_nil]
    exact h.keepsFrames hkeeps
  cases hstep
  cases step with
  | transport env identity state =>
    exact hquiet rfl (handleTransportState_keepsFrames env s.session identity state)
  | callback callback =>
    cases callback with
    | inboundFrame env frame =>
      by_cases hvideo : frame.messageType = .videoFrame
      · simp only [brings, if_pos hvideo]
        exact h.videoFrame hvideo hopens
      · have hkeeps : KeepsFrames s.session (s.session.handleInboundFrame env frame) := by
          rw [handleInboundFrame]
          split
          · exact rejectProtocol_keepsFrames env s.session _ _
          · exact (handleControlFrame_keepsFrames env _ frame).of_start (.kept rfl rfl id id)
        have hnone : brings (.callback (.inboundFrame env frame)) = [] := if_neg hvideo
        exact hquiet hnone hkeeps
    | decoderEvent event => exact hquiet rfl (handleDecoderEvent_keepsFrames s.session event)
    | decoderMetrics metrics => exact hquiet rfl (handleDecoderMetrics_keepsFrames s.session metrics)
    | decoderState view state =>
      exact hquiet rfl (handleDecoderState_keepsFrames s.session view state)
    | sendFailure generation reason =>
      exact hquiet rfl (handleSendFailure_keepsFrames s.session generation reason)
    | telemetryTimer env => exact hquiet rfl (sendTelemetryNow_keepsFrames env s.session)
    | pingTimer env => exact hquiet rfl (sendPing_keepsFrames env s.session)
    | input emission => exact hquiet rfl (submitInput_keepsFrames s.session emission)
    | write => exact hquiet rfl (write_keepsFrames s.session)

/-- Where no delta frame opens the buffer, it holds a decodable run in every state. -/
theorem buffer_decodable (localCapabilities : CapabilitiesPayload) {steps : List LifetimeStep}
    {s : SurfaceBuffer}
    (hopens : machine.Admits OpensWithKeyframe (new localCapabilities) steps)
    (hrun : machine.run (new localCapabilities) steps = some s) : s.DecodableRun := by
  have hnew : (new localCapabilities).Inv := .inl rfl
  have hinv := machine.run_invariant_of_admits OpensWithKeyframe Inv
    (fun _ _ _ h hguard hstep => h.step hguard hstep) hnew hopens hrun
  exact hinv.decodableRun

/-- A host connects, negotiates and asks for one configuration. -/
def configured : List LifetimeStep :=
  .transport .fresh .android (.connected "LadoFlow Host") ::
    hostOpening.map (.callback <| .inboundFrame .fresh ·)

def receive (frame : LdflFrame) : LifetimeStep := .callback (.inboundFrame .fresh frame)

def decoderState (state : VideoDecoderState) : LifetimeStep :=
  .callback (.decoderState (fun _ => .fresh) state)

/-- The keyframe after `keyUnit`. -/
def nextKeyUnit : LdflFrame := { keyUnit with sequence := 4 }

/-- The Surface is lost after a keyframe went to the decoder. -/
def reacquired : List LifetimeStep :=
  configured ++ [receive keyUnit, decoderState (.awaitingKeyframe .hd),
    decoderState (.awaitingSurface (some .hd)), receive nextKeyUnit, receive deltaUnit]

theorem buffer_decodable_reacquired : ∃ s,
    machine.run (new .fullHd) reacquired = some s ∧
      s.session.pendingSurfaceFrames = [nextKeyUnit, deltaUnit] ∧ s.DecodableRun := by
  refine ⟨_, rfl, by decide +kernel, ?_⟩
  exact @buffer_decodable .fullHd reacquired _ (by decide +kernel) rfl

/-- The Surface is lost after a keyframe went to the decoder, and a delta frame comes next. -/
theorem buffer_opens_with_delta : ∃ s,
    machine.run (new .fullHd) (configured ++ [receive keyUnit,
        decoderState (.awaitingKeyframe .hd), decoderState (.awaitingSurface (some .hd)),
        receive deltaUnit]) = some s ∧
      s.session.pendingSurfaceFrames = [deltaUnit] ∧ ¬s.DecodableRun := by
  have hreached : (machine.run (new .fullHd) (configured ++ [receive keyUnit,
      decoderState (.awaitingKeyframe .hd), decoderState (.awaitingSurface (some .hd)),
      receive deltaUnit])).any (·.session.pendingSurfaceFrames = [deltaUnit]) = true := by
    decide +kernel
  obtain ⟨s, hrun, hend⟩ := (Option.any_eq_true _ _).mp hreached
  have hpending : s.session.pendingSurfaceFrames = [deltaUnit] := of_decide_eq_true hend
  refine ⟨s, hrun, hpending, ?_⟩
  intro hdecodable
  rw [DecodableRun, hpending] at hdecodable
  cases hdecodable with
  | inl hempty => cases hempty
  | inr hrun =>
    obtain ⟨key, frames, hbegins, hkeyframe, _⟩ := hrun
    have hdelta : deltaUnit.isKeyframe = false := by decide
    cases hbegins
    rw [hdelta] at hkeyframe
    cases hkeyframe

end SurfaceBuffer

end LadoFlow.Android
