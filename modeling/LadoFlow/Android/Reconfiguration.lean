import LadoFlow.Android.SessionEffects

/-!
# Reconfiguration of a negotiated session

The host changes resolution or orientation with another configuration. The rule for the first
configuration applies whenever none is active, and the end of a stream takes the active one away.
-/

namespace LadoFlow.Android

open Framework

namespace AndroidDisplaySession

/-- H.264 Main within the limits of both sides, and taken by the decoder. -/
structure Compatible (env : SessionEnvironment) (session : AndroidDisplaySession)
    (configuration : DisplayConfigPayload) : Prop where
  codec : configuration.codec = .h264
  profile : configuration.profile = .h264Main
  decoder : env.configurationRejectionReason configuration = none
  limits : ∀ capabilities, capabilities = session.localCapabilities ∨
      session.remoteCapabilities = some capabilities →
    configuration.width ≤ capabilities.maxWidth ∧ configuration.height ≤ capabilities.maxHeight ∧
      configuration.refreshMillihz ≤ capabilities.maxRefreshMillihz ∧
      configuration.bitrateKbps ≤ capabilities.maxBitrateKbps

/-- The configuration is the active one of a session that has not failed. -/
def Configured (session : AndroidDisplaySession) (configuration : DisplayConfigPayload) : Prop :=
  session.activeConfiguration = some configuration ∧ session.failed = false

instance (session : AndroidDisplaySession) (configuration : DisplayConfigPayload) :
    Decidable (session.Configured configuration) :=
  inferInstanceAs (Decidable (_ ∧ _))

end AndroidDisplaySession

/-- A session with whether a configuration was accepted in its generation, and whether the stream
ended since the last one. -/
structure ConfigurationHistory where
  session : AndroidDisplaySession
  accepted : Bool
  ended : Bool

namespace ConfigurationHistory

open AndroidDisplaySession

def new (localCapabilities : CapabilitiesPayload) : ConfigurationHistory :=
  ⟨.new localCapabilities, false, false⟩

def restarts : LifetimeStep → Bool
  | .transport _ _ state => state.resetsProtocol
  | .callback _ => false

def endsStream : LifetimeStep → Bool
  | .callback (.decoderEvent .endOfStream) => true
  | _ => false

/-- The configuration that a step makes active. -/
def accepts (session : AndroidDisplaySession) : LifetimeStep → Option DisplayConfigPayload
  | .callback (.inboundFrame env frame) => session.acceptedConfiguration env frame
  | _ => none

def advance (h : ConfigurationHistory) (step : LifetimeStep) : ConfigurationHistory where
  session := h.session.advance step
  accepted := !restarts step && (h.accepted || (accepts h.session step).isSome)
  ended := !restarts step && (endsStream step || h.ended && (accepts h.session step).isNone)

def machine : Machine ConfigurationHistory LifetimeStep where
  step h step := some (h.advance step)

end ConfigurationHistory

namespace AndroidDisplaySession

/-- What a step of a generation keeps of the negotiation. -/
structure Proceeds (before after : AndroidDisplaySession) : Prop where
  remoteHello : before.remoteHello.isSome = true → after.remoteHello.isSome = true
  remoteCapabilities : before.remoteCapabilities.isSome = true →
    after.remoteCapabilities.isSome = true
  inboundHighest : ∀ sequence, before.inboundHighest = some sequence →
    ∃ later, after.inboundHighest = some later ∧ sequence ≤ later
  negotiated : after.negotiated = true → before.negotiated = true ∨
    ¬(before.remoteHello.isSome = true ∧ before.remoteCapabilities.isSome = true) ∧
      after.remoteHello.isSome = true ∧ after.remoteCapabilities.isSome = true
  failed : after.failed = false → before.failed = false

/-- A step that leaves the configuration of a healthy session alone. -/
structure Keeps (before after : AndroidDisplaySession) : Prop extends Proceeds before after where
  activeConfiguration : after.failed = false →
    after.activeConfiguration = before.activeConfiguration

section Handlers

variable {env : SessionEnvironment} {session before after : AndroidDisplaySession}

theorem Proceeds.refl (session : AndroidDisplaySession) : Proceeds session session where
  remoteHello := id
  remoteCapabilities := id
  inboundHighest sequence h := ⟨sequence, h, UInt64.le_refl sequence⟩
  negotiated := .inl
  failed := id

theorem Keeps.refl (session : AndroidDisplaySession) : Keeps session session :=
  { Proceeds.refl session with activeConfiguration := fun _ => rfl }

theorem Keeps.trans {middle : AndroidDisplaySession} (h : Keeps before middle)
    (h' : Keeps middle after) : Keeps before after where
  remoteHello hsome := h'.remoteHello (h.remoteHello hsome)
  remoteCapabilities hsome := h'.remoteCapabilities (h.remoteCapabilities hsome)
  inboundHighest sequence hsequence := by
    obtain ⟨later, hlater, hle⟩ := h.inboundHighest sequence hsequence
    obtain ⟨last, hlast, hle'⟩ := h'.inboundHighest later hlater
    exact ⟨last, hlast, UInt64.le_trans hle hle'⟩
  negotiated hafter := by
    rcases h'.negotiated hafter with hmiddle | ⟨hnot, hboth⟩
    · rcases h.negotiated hmiddle with hbefore | ⟨hnot, hhello, hcapabilities⟩
      · exact .inl hbefore
      · exact .inr ⟨hnot, h'.remoteHello hhello, h'.remoteCapabilities hcapabilities⟩
    · refine .inr ⟨?_, hboth⟩
      intro hboth
      exact hnot ⟨h.remoteHello hboth.1, h.remoteCapabilities hboth.2⟩
  failed hhealthy := h.failed (h'.failed hhealthy)
  activeConfiguration hhealthy :=
    (h'.activeConfiguration hhealthy).trans (h.activeConfiguration (h'.failed hhealthy))

theorem updateQueueDepthMetric_keeps (env : SessionEnvironment) (session : AndroidDisplaySession) :
    Keeps session (session.updateQueueDepthMetric env) := by
  obtain ⟨queueDepth, heq⟩ := updateQueueDepthMetric_eq env session
  rw [heq]
  exact { Keeps.refl session with }

theorem recordDroppedVideo_keeps (env : SessionEnvironment) (session : AndroidDisplaySession)
    (count : Nat) : Keeps session (session.recordDroppedVideo env count) := by
  rw [recordDroppedVideo]
  split
  · exact Keeps.refl session
  · exact { Keeps.refl session with }

theorem rejectProtocol_keeps (env : SessionEnvironment) (session : AndroidDisplaySession)
    (code : Protocol.ErrorCode) (diagnostic : String) :
    Keeps session (session.rejectProtocol env code diagnostic) := by
  have hrejects : ∀ metrics calls state outbound, Keeps session { session with
      activeConfiguration := none
      negotiated := false
      failed := true
      surfaceReady := false
      pendingSurfaceFrames := []
      metrics
      calls
      state
      outbound } := by
    intro metrics calls state outbound
    exact { Proceeds.refl session with
      negotiated := Bool.noConfusion
      failed := Bool.noConfusion
      activeConfiguration := Bool.noConfusion }
  rw [rejectProtocol]
  obtain ⟨queueDepth, heq⟩ := updateQueueDepthMetric_eq env { session with
    activeConfiguration := none
    negotiated := false
    failed := true
    surfaceReady := false
    pendingSurfaceFrames := [] }
  simp only [heq, record]
  split
  · exact hrejects _ _ _ _
  · exact hrejects _ _ _ _

/-- The negotiation ends when the last of its two frames arrives. -/
theorem finishNegotiationIfReady_keeps {start : AndroidDisplaySession} (h : Keeps before start)
    (hnot : ¬(before.remoteHello.isSome = true ∧ before.remoteCapabilities.isSome = true)) :
    Keeps before (start.finishNegotiationIfReady env) := by
  rw [finishNegotiationIfReady]
  split
  · rename_i hello capabilities hhello hcapabilities
    split
    · exact h.trans (rejectProtocol_keeps env start _ _)
    · refine { h with negotiated := fun _ => .inr ⟨hnot, ?_, ?_⟩ }
      · exact Option.isSome_iff_exists.mpr ⟨hello, hhello⟩
      · exact Option.isSome_iff_exists.mpr ⟨capabilities, hcapabilities⟩
  · exact h

theorem handleRemoteHello_keeps (frame : LdflFrame) (hello : HelloPayload) :
    Keeps session (session.handleRemoteHello env frame hello) := by
  rw [handleRemoteHello]
  split
  · exact rejectProtocol_keeps env session _ _
  · rename_i hfirst
    split
    · exact rejectProtocol_keeps env session _ _
    · split
      · exact rejectProtocol_keeps env session _ _
      · apply finishNegotiationIfReady_keeps
        · exact { Keeps.refl session with remoteHello := fun _ => rfl, negotiated := .inl }
        · intro hboth
          exact hfirst (.inr (.inl hboth.1))

theorem handleRemoteCapabilities_keeps (frame : LdflFrame) (capabilities : CapabilitiesPayload) :
    Keeps session (session.handleRemoteCapabilities env frame capabilities) := by
  rw [handleRemoteCapabilities]
  split
  · exact rejectProtocol_keeps env session _ _
  · rename_i hfirst
    apply finishNegotiationIfReady_keeps
    · exact { Keeps.refl session with remoteCapabilities := fun _ => rfl, negotiated := .inl }
    · intro hboth
      exact hfirst (.inr (.inr hboth.2))

theorem ifActive_keeps (name : String) (action : AndroidDisplaySession → AndroidDisplaySession)
    (h : Keeps session (action session)) : Keeps session (session.ifActive env name action) := by
  rw [ifActive]
  split
  · exact rejectProtocol_keeps env session _ _
  · exact h

theorem handlePayload_keeps (frame : LdflFrame) (payload : AnyPayload)
    (hnew : ∀ configuration, payload = ⟨.displayConfig, configuration⟩ →
      session.acceptsConfiguration env frame configuration = false) :
    Keeps session (session.handlePayload env frame payload) := by
  obtain ⟨kind, value⟩ := payload
  cases kind with
  | hello => exact handleRemoteHello_keeps frame value
  | capabilities => exact handleRemoteCapabilities_keeps frame value
  | displayConfig =>
    rcases handleDisplayConfiguration_refused (hnew value rfl) with hsame | ⟨code, text, hrejects⟩
    · rw [handlePayload, hsame]
      exact Keeps.refl session
    · rw [handlePayload, hrejects]
      exact rejectProtocol_keeps env session code text
  | ping =>
    apply ifActive_keeps
    simp only [respondToPing]
    split
    · exact { Keeps.refl session with }
    · exact Keeps.refl session
  | pong => exact ifActive_keeps "Pong" id (Keeps.refl session)
  | telemetry => exact ifActive_keeps "Telemetry" id (Keeps.refl session)
  | error =>
    exact { Proceeds.refl session with
      negotiated := Bool.noConfusion
      failed := Bool.noConfusion
      activeConfiguration := Bool.noConfusion }
  | input | videoFrame =>
    simp only [handlePayload]
    exact rejectProtocol_keeps env session _ _

theorem enqueueUntilSurfaceReady_keeps (frame : LdflFrame) :
    Keeps session (session.enqueueUntilSurfaceReady env frame) := by
  have hdropped := recordDroppedVideo_keeps env session
  rw [enqueueUntilSurfaceReady]
  simp only
  split
  · refine Keeps.trans ?_ (updateQueueDepthMetric_keeps env _)
    exact { hdropped session.pendingSurfaceFrames.length with }
  split
  · exact hdropped 1
  split
  · refine Keeps.trans ?_ (updateQueueDepthMetric_keeps env _)
    exact { hdropped (session.pendingSurfaceFrames.length + 1) with }
  · refine Keeps.trans ?_ (updateQueueDepthMetric_keeps env _)
    exact { Keeps.refl session with }

theorem handleMediaFrame_keeps (frame : LdflFrame) :
    Keeps session (session.handleMediaFrame env frame) := by
  simp only [handleMediaFrame]
  split
  · exact Keeps.refl session
  split
  · exact rejectProtocol_keeps env session _ _
  split
  · exact enqueueUntilSurfaceReady_keeps frame
  split
  · exact { Keeps.refl session with }
  · have hsubmitted : Keeps session (session.record (.submit frame)) := { Keeps.refl session with }
    exact hsubmitted.trans (recordDroppedVideo_keeps env _ 1)

/-- The host sequence moves on to a frame that is not stale. -/
theorem Keeps.of_received {frame : LdflFrame} (hfresh : session.isStale frame = false)
    (h : Keeps { session with inboundHighest := some frame.sequence } after) :
    Keeps session after := by
  have hstart : Keeps session { session with inboundHighest := some frame.sequence } := by
    refine { Keeps.refl session with inboundHighest := ?_ }
    intro sequence hsequence
    rw [isStale, hsequence, Option.any_some, decide_eq_false_iff_not] at hfresh
    exact ⟨frame.sequence, rfl, UInt64.le_of_lt (UInt64.not_le.mp hfresh)⟩
  exact hstart.trans h

theorem handleInboundFrame_keeps {frame : LdflFrame}
    (hnone : session.acceptedConfiguration env frame = none) :
    Keeps session (session.handleInboundFrame env frame) := by
  rw [handleInboundFrame]
  split
  · exact rejectProtocol_keeps env session _ _
  · rename_i hnew
    have hfresh : session.isStale frame = false := (Bool.not_eq_true _).mp hnew
    apply Keeps.of_received hfresh
    simp only
    split
    · exact handleMediaFrame_keeps frame
    · rename_i hcontrol
      rw [handleControlFrame]
      split
      · exact Keeps.refl _
      · rename_i hhealthy
        split
        · exact rejectProtocol_keeps env _ _ _
        · rename_i payload hdecode
          apply handlePayload_keeps
          intro configuration hpayload
          have hopen : ¬(session.isStale frame = true ∨ frame.messageType = .videoFrame ∨
              session.failed = true) := by
            rw [hfresh]
            exact not_or.mpr ⟨Bool.false_ne_true, not_or.mpr ⟨hcontrol, hhealthy⟩⟩
          rw [acceptedConfiguration, if_neg hopen, hdecode, hpayload] at hnone
          simp only [ite_eq_right_iff, reduceCtorEq, imp_false] at hnone
          exact (Bool.not_eq_true _).mp hnone

/-- A configuration is accepted by a negotiated session, and as the first one at sequence 2. -/
theorem acceptedConfiguration_negotiated {frame : LdflFrame} {configuration : DisplayConfigPayload}
    (haccepted : session.acceptedConfiguration env frame = some configuration) :
    session.negotiated = true ∧ session.remoteHello.isSome = true ∧
      session.remoteCapabilities.isSome = true ∧
      (session.activeConfiguration = none → frame.sequence = 2) := by
  rw [acceptedConfiguration] at haccepted
  split at haccepted
  · cases haccepted
  · split at haccepted
    · split at haccepted
      · rename_i haccepts
        simp only [acceptsConfiguration] at haccepts
        split at haccepts
        · rename_i hostCapabilities hello hnegotiated hcapabilities hhello
          simp only [Bool.and_eq_true, Bool.not_eq_true', decide_eq_false_iff_not] at haccepts
          refine ⟨hnegotiated, by rw [hhello]; rfl, by rw [hcapabilities]; rfl, ?_⟩
          intro hnone
          by_contra hsequence
          exact haccepts.1.1 ⟨hnone, hsequence⟩
        · cases haccepts
      · cases haccepted
    · cases haccepted

theorem acceptedConfiguration_fresh {frame : LdflFrame} {configuration : DisplayConfigPayload}
    (haccepted : session.acceptedConfiguration env frame = some configuration) :
    session.isStale frame = false ∧ session.failed = false := by
  rw [acceptedConfiguration] at haccepted
  split at haccepted
  · cases haccepted
  · rename_i hopen
    simp only [not_or, Bool.not_eq_true] at hopen
    exact ⟨hopen.1, hopen.2.2⟩

/-- An accepted configuration is the active one. -/
theorem handleInboundFrame_configures {frame : LdflFrame} {configuration : DisplayConfigPayload}
    (haccepted : session.acceptedConfiguration env frame = some configuration) :
    ∃ hello, session.remoteHello = some hello ∧
      session.handleInboundFrame env frame =
        { session with inboundHighest := some frame.sequence }.applyDisplayConfiguration env hello
          configuration := by
  have hvideo : frame.messageType ≠ .videoFrame := by
    intro hvideo
    rw [acceptedConfiguration, if_pos (.inr (.inl hvideo))] at haccepted
    cases haccepted
  cases handleInboundFrame_effect env session frame with
  | kept hnone => rw [hnone] at haccepted; cases haccepted
  | ended hnone => rw [hnone] at haccepted; cases haccepted
  | configured other hello hother hhello hcodec h =>
    rw [hother] at haccepted
    cases haccepted
    exact ⟨hello, hhello, h⟩
  | buffered hbuffered => exact absurd hbuffered hvideo
  | submitted hsubmitted => exact absurd hsubmitted hvideo

theorem drainLoop_keeps (view : Nat → SessionEnvironment) (submitted : Nat)
    (frames : List LdflFrame) (session : AndroidDisplaySession) :
    Keeps session (drainLoop view submitted frames session) := by
  induction frames generalizing submitted session with
  | nil =>
    refine Keeps.trans ?_ (updateQueueDepthMetric_keeps (view submitted) _)
    exact { Keeps.refl session with }
  | cons frame frames ih =>
    rw [drainLoop]
    simp only
    split
    · have hrest := ih (submitted + 1) (session.record (.submit frame))
      exact { hrest with }
    · refine Keeps.trans ?_ (updateQueueDepthMetric_keeps (view (submitted + 1)) _)
      have hdropped := recordDroppedVideo_keeps (view (submitted + 1))
        (session.record (.submit frame)) 1
      exact { hdropped with }

theorem drainPendingSurfaceFrames_keeps (view : Nat → SessionEnvironment) :
    Keeps session (session.drainPendingSurfaceFrames view) := by
  rw [drainPendingSurfaceFrames]
  split
  · exact drainLoop_keeps view 0 _ session
  · exact updateQueueDepthMetric_keeps (view 0) session

theorem handleDecoderState_keepsNegotiation (view : Nat → SessionEnvironment) (state : VideoDecoderState) :
    Keeps session (session.handleDecoderState view state) := by
  rw [handleDecoderState]
  split
  · split
    · refine Keeps.trans ?_ (drainPendingSurfaceFrames_keeps view)
      exact { Keeps.refl session with }
    · refine Keeps.trans ?_ (drainPendingSurfaceFrames_keeps view)
      exact { Keeps.refl session with }
    · refine Keeps.trans ?_ (drainPendingSurfaceFrames_keeps view)
      exact { Keeps.refl session with }
    · exact { Keeps.refl session with }
    · split
      · exact { Keeps.refl session with }
      · exact { Keeps.refl session with
          failed := Bool.noConfusion
          activeConfiguration := Bool.noConfusion }
    · exact { Keeps.refl session with
          failed := Bool.noConfusion
          activeConfiguration := Bool.noConfusion }
    · exact Keeps.refl session
    · exact Keeps.refl session
  · exact Keeps.refl session

theorem handleDecoderMetrics_keeps (metrics : VideoDecoderMetrics) :
    Keeps session (session.handleDecoderMetrics metrics) := by
  rw [handleDecoderMetrics]
  split
  · simp only
    split <;> exact { Keeps.refl session with }
  · exact Keeps.refl session

theorem sendControl_keeps (payload : AnyPayload) : Keeps session (session.sendControl payload) :=
  { Keeps.refl session with }

theorem sendTelemetryNow_keeps : Keeps session (session.sendTelemetryNow env) := by
  have hdepth := updateQueueDepthMetric_keeps env session
  rw [sendTelemetryNow]
  split
  · exact Keeps.refl session
  split
  · exact hdepth.trans (sendControl_keeps _)
  · exact hdepth

theorem submitInput_keeps (emission : AndroidInputEmission) :
    Keeps session (session.submitInput emission) := by
  rw [submitInput]
  split
  · exact Keeps.refl session
  split
  · exact { Keeps.refl session with }
  split
  · exact Keeps.refl session
  · exact { Keeps.refl session with }
  · simp only
    split
    · exact { Keeps.refl session with }
    · exact { Keeps.refl session with }

/-- Every callback but an accepted configuration and the end of a stream. -/
theorem callback_keeps {step : SessionStep}
    (hnone : ConfigurationHistory.accepts session (.callback step) = none)
    (hstream : ConfigurationHistory.endsStream (.callback step) = false) :
    Keeps session (session.callback step) := by
  cases step with
  | inboundFrame env frame => exact handleInboundFrame_keeps hnone
  | decoderEvent event =>
    cases event with
    | endOfStream => cases hstream
    | _ => exact Keeps.refl session
  | decoderMetrics metrics => exact handleDecoderMetrics_keeps metrics
  | decoderState view state => exact handleDecoderState_keepsNegotiation view state
  | sendFailure generation reason =>
    simp only [callback, handleSendFailure]
    split
    · exact { Keeps.refl session with
          failed := Bool.noConfusion
          activeConfiguration := Bool.noConfusion }
    · exact Keeps.refl session
  | telemetryTimer env => exact sendTelemetryNow_keeps
  | pingTimer env =>
    simp only [callback, sendPing]
    split
    · exact Keeps.refl session
    · exact { Keeps.refl session with }
  | input emission => exact submitInput_keeps emission
  | write =>
    simp only [callback]
    split
    · exact { Keeps.refl session with }
    · exact Keeps.refl session

/-- The end of a stream takes the configuration away and nothing else. -/
theorem handleDecoderEvent_ends :
    Proceeds session (session.handleDecoderEvent .endOfStream) ∧
      (session.handleDecoderEvent .endOfStream).activeConfiguration = none := by
  rw [handleDecoderEvent]
  simp only [record]
  split
  · exact ⟨{ Proceeds.refl session with }, rfl⟩
  · exact ⟨{ Proceeds.refl session with }, rfl⟩

theorem beginHandshake_negotiated (env : SessionEnvironment) (session : AndroidDisplaySession)
    (name : String) (nonce : SignedBytes) (implementationName : String) :
    (session.beginHandshake env name nonce implementationName).negotiated = false := by
  have hreset : (session.resetProtocol env "Starting a new LDFL generation").negotiated = false := by
    simp only [resetProtocol]
    split <;> rfl
  simp only [beginHandshake]
  split
  · simp [failLocal, record]
  · split
    · exact hreset
    · exact hreset

theorem handleTransportState_negotiated (env : SessionEnvironment)
    (session : AndroidDisplaySession) (identity : Identity) {transport : UsbTransportState}
    (h : transport.resetsProtocol = true) :
    (session.handleTransportState env identity transport).negotiated = false := by
  have hreset : ∀ reason, (session.resetProtocol env reason).negotiated = false := by
    intro reason
    simp only [resetProtocol]
    split <;> rfl
  cases transport with
  | opening => cases h
  | connected | tetherConnected => exact beginHandshake_negotiated env session _ _ _
  | _ => exact hreset _

end Handlers

end AndroidDisplaySession

namespace ConfigurationHistory

open AndroidDisplaySession

variable {h : ConfigurationHistory}

/-- Without an active configuration the stream has ended, once the first one was accepted. -/
structure Inv (h : ConfigurationHistory) : Prop where
  negotiated : h.session.negotiated = true →
    h.session.remoteHello.isSome = true ∧ h.session.remoteCapabilities.isSome = true
  accepted : h.accepted = true →
    h.session.remoteHello.isSome = true ∧ h.session.remoteCapabilities.isSome = true ∧
      ∃ sequence, h.session.inboundHighest = some sequence ∧ 2 ≤ sequence
  configured : h.session.failed = false → h.session.activeConfiguration ≠ none → h.accepted = true
  active : h.session.negotiated = true → h.session.failed = false → h.accepted = true →
    (h.session.activeConfiguration = none ↔ h.ended = true)

theorem inv_new (localCapabilities : CapabilitiesPayload) : Inv (new localCapabilities) where
  negotiated := Bool.noConfusion
  accepted := Bool.noConfusion
  configured _ hactive := absurd rfl hactive
  active := Bool.noConfusion

/-- A step that proceeds keeps what the invariant says about the negotiation. -/
theorem Inv.of_proceeds (hinv : Inv h) {after : AndroidDisplaySession}
    (hproceeds : Proceeds h.session after) :
    (after.negotiated = true →
      after.remoteHello.isSome = true ∧ after.remoteCapabilities.isSome = true) ∧
      (h.accepted = true → after.remoteHello.isSome = true ∧
        after.remoteCapabilities.isSome = true ∧
        ∃ sequence, after.inboundHighest = some sequence ∧ 2 ≤ sequence) ∧
      (after.negotiated = true → h.accepted = true → h.session.negotiated = true) := by
  refine ⟨?_, ?_, ?_⟩
  · intro hafter
    rcases hproceeds.negotiated hafter with hbefore | ⟨-, hboth⟩
    · have hparts := hinv.negotiated hbefore
      exact ⟨hproceeds.remoteHello hparts.1, hproceeds.remoteCapabilities hparts.2⟩
    · exact hboth
  · intro haccepted
    obtain ⟨hhello, hcapabilities, sequence, hsequence, hsecond⟩ := hinv.accepted haccepted
    obtain ⟨later, hlater, hle⟩ := hproceeds.inboundHighest sequence hsequence
    exact ⟨hproceeds.remoteHello hhello, hproceeds.remoteCapabilities hcapabilities, later, hlater,
      UInt64.le_trans hsecond hle⟩
  · intro hafter haccepted
    rcases hproceeds.negotiated hafter with hbefore | ⟨hnot, -⟩
    · exact hbefore
    · obtain ⟨hhello, hcapabilities, -⟩ := hinv.accepted haccepted
      exact absurd ⟨hhello, hcapabilities⟩ hnot

theorem Inv.of_keeps (hinv : Inv h) {after : AndroidDisplaySession} (hkeeps : Keeps h.session after) :
    Inv ⟨after, h.accepted, h.ended⟩ := by
  obtain ⟨hnegotiated, haccepted, hbefore⟩ := hinv.of_proceeds hkeeps.toProceeds
  refine ⟨hnegotiated, haccepted, ?_, ?_⟩
  · intro hhealthy hactive
    rw [hkeeps.activeConfiguration hhealthy] at hactive
    exact hinv.configured (hkeeps.failed hhealthy) hactive
  intro hafter hhealthy hsome
  rw [hkeeps.activeConfiguration hhealthy]
  exact hinv.active (hbefore hafter hsome) (hkeeps.failed hhealthy) hsome

theorem Inv.of_ended (hinv : Inv h) {after : AndroidDisplaySession}
    (hproceeds : Proceeds h.session after) (hnone : after.activeConfiguration = none) :
    Inv ⟨after, h.accepted, true⟩ := by
  obtain ⟨hnegotiated, haccepted, -⟩ := hinv.of_proceeds hproceeds
  exact ⟨hnegotiated, haccepted, fun _ hactive => absurd hnone hactive,
    fun _ _ _ => iff_of_true hnone rfl⟩

/-- The first configuration has sequence 2, and every later one a higher sequence. -/
theorem Inv.of_configured (hinv : Inv h) {env : SessionEnvironment} {frame : LdflFrame}
    {configuration : DisplayConfigPayload}
    (haccepted : h.session.acceptedConfiguration env frame = some configuration) :
    Inv ⟨h.session.handleInboundFrame env frame, true, false⟩ := by
  obtain ⟨hfresh, hhealthy⟩ := acceptedConfiguration_fresh haccepted
  obtain ⟨hnegotiated, hhello, hcapabilities, hfirst⟩ := acceptedConfiguration_negotiated haccepted
  obtain ⟨hello, hremote, hafter⟩ := handleInboundFrame_configures haccepted
  have hsequence : 2 ≤ frame.sequence := by
    by_cases hnone : h.session.activeConfiguration = none
    · rw [hfirst hnone]
      exact UInt64.le_refl 2
    · obtain ⟨-, -, highest, hhighest, hsecond⟩ := hinv.accepted (hinv.configured hhealthy hnone)
      rw [isStale, hhighest, Option.any_some, decide_eq_false_iff_not] at hfresh
      exact UInt64.le_trans hsecond (UInt64.le_of_lt (UInt64.not_le.mp hfresh))
  rw [hafter]
  refine ⟨fun _ => ⟨hhello, hcapabilities⟩,
    fun _ => ⟨hhello, hcapabilities, frame.sequence, rfl, hsequence⟩, fun _ _ => rfl, ?_⟩
  intro _ _ _
  exact iff_of_false (Option.some_ne_none configuration) Bool.false_ne_true

theorem Inv.advance (hinv : Inv h) (step : LifetimeStep) : Inv (h.advance step) := by
  cases step with
  | transport env identity state =>
    cases hresets : state.resetsProtocol with
    | true =>
      have hnegotiated := handleTransportState_negotiated env h.session identity hresets
      have hnone := (handleTransportState_restarts env h.session identity hresets).activeConfiguration
      simp only [ConfigurationHistory.advance, restarts, hresets, Bool.not_true, Bool.false_and]
      refine ⟨?_, Bool.noConfusion, fun _ hactive => absurd hnone hactive, fun _ _ => Bool.noConfusion⟩
      intro hafter
      cases hnegotiated.symm.trans hafter
    | false =>
      have hkeeps : Keeps h.session (h.session.advance (.transport env identity state)) := by
        cases state with
        | opening => exact { Keeps.refl h.session with }
        | _ => cases hresets
      have hnext := hinv.of_keeps hkeeps
      simpa only [ConfigurationHistory.advance, restarts, hresets, accepts, endsStream,
        Bool.not_false, Bool.true_and, Option.isSome_none, Bool.or_false, Option.isNone_none,
        Bool.and_true, Bool.false_or] using hnext
  | callback step =>
    cases haccepts : accepts h.session (.callback step) with
    | some configuration =>
      cases step with
      | inboundFrame env frame =>
        have hnext := hinv.of_configured haccepts
        simpa only [ConfigurationHistory.advance, AndroidDisplaySession.advance, callback, restarts,
          haccepts, endsStream, Bool.not_false, Bool.true_and, Option.isSome_some, Bool.or_true, Option.isNone_some, Bool.and_false,
          Bool.or_self] using hnext
      | _ => cases haccepts
    | none =>
      cases hstream : endsStream (.callback step) with
      | true =>
        have hend : step = .decoderEvent .endOfStream := by
          simp only [endsStream] at hstream
          split at hstream
          · rename_i heq
            cases heq
            rfl
          · cases hstream
        obtain ⟨hproceeds, hnone⟩ := @handleDecoderEvent_ends h.session
        have hnext := hinv.of_ended hproceeds hnone
        subst hend
        simpa only [ConfigurationHistory.advance, AndroidDisplaySession.advance, callback, restarts,
          haccepts, endsStream, Bool.not_false, Bool.true_and, Option.isSome_none, Bool.or_false,
          Bool.true_or] using hnext
      | false =>
        have hnext := hinv.of_keeps (callback_keeps haccepts hstream)
        simpa only [ConfigurationHistory.advance, AndroidDisplaySession.advance, restarts, haccepts,
          hstream, Bool.not_false, Bool.true_and, Option.isSome_none, Bool.or_false, Option.isNone_none, Bool.and_true,
          Bool.false_or] using hnext

theorem not_gt_min_int32 {value bound bound' : Int32} (h : value ≤ bound) (h' : value ≤ bound') :
    ¬value > min bound bound' := by
  change ¬(if bound ≤ bound' then bound else bound') < value
  split
  · exact Int32.not_lt.mpr h
  · exact Int32.not_lt.mpr h'

theorem not_gt_min_uint32 {value bound bound' : UInt32} (h : value ≤ bound) (h' : value ≤ bound') :
    ¬value > min bound bound' := by
  change ¬(if bound ≤ bound' then bound else bound') < value
  split
  · exact UInt32.not_lt.mpr h
  · exact UInt32.not_lt.mpr h'

/-- A configuration within all limits has no invalid reason. -/
theorem invalidReason_of_compatible {env : SessionEnvironment} {session : AndroidDisplaySession}
    {configuration : DisplayConfigPayload} {hostCapabilities : CapabilitiesPayload}
    (hcompatible : session.Compatible env configuration)
    (hhost : session.remoteCapabilities = some hostCapabilities) :
    invalidReason session.localCapabilities hostCapabilities configuration
      (env.configurationRejectionReason configuration) = none := by
  obtain ⟨hwidth, hheight, hrefresh, hbitrate⟩ := hcompatible.limits _ (.inl rfl)
  obtain ⟨hwidth', hheight', hrefresh', hbitrate'⟩ := hcompatible.limits _ (.inr hhost)
  have hsize : ¬(configuration.width >
        min session.localCapabilities.maxWidth hostCapabilities.maxWidth ∨
      configuration.height >
        min session.localCapabilities.maxHeight hostCapabilities.maxHeight) :=
    not_or.mpr ⟨not_gt_min_int32 hwidth hwidth', not_gt_min_int32 hheight hheight'⟩
  simp only [invalidReason]
  rw [if_neg (not_not.mpr hcompatible.codec), if_neg (not_not.mpr hcompatible.profile),
    if_neg hsize, if_neg (not_gt_min_uint32 hrefresh hrefresh'),
    if_neg (not_gt_min_uint32 hbitrate hbitrate'), hcompatible.decoder]

/-- A fresh compatible configuration is refused only as a first one that is not at sequence 2. -/
theorem handleInboundFrame_compatible {env : SessionEnvironment} {session : AndroidDisplaySession}
    {frame : LdflFrame} {configuration : DisplayConfigPayload}
    (hnegotiated : session.negotiated = true) (hhealthy : session.failed = false)
    (hhello : session.remoteHello.isSome = true)
    (hcapabilities : session.remoteCapabilities.isSome = true)
    (htype : frame.messageType = .displayConfig)
    (hdecode : frame.decodePayload = .ok ⟨.displayConfig, configuration⟩)
    (hfresh : session.isStale frame = false)
    (hcompatible : session.Compatible env configuration) :
    (session.handleInboundFrame env frame).Configured configuration ↔
      ¬(session.activeConfiguration = none ∧ frame.sequence ≠ 2) := by
  obtain ⟨hello, hremote⟩ := Option.isSome_iff_exists.mp hhello
  obtain ⟨hostCapabilities, hhost⟩ := Option.isSome_iff_exists.mp hcapabilities
  have hvalid := invalidReason_of_compatible hcompatible hhost
  rw [isStale] at hfresh
  have hhandled : session.handleInboundFrame env frame =
      { session with inboundHighest := some frame.sequence }.handleDisplayConfiguration env frame
        configuration := by
    simp [handleInboundFrame, handleControlFrame, handlePayload, hfresh, htype, hhealthy, hdecode]
  rw [hhandled, handleDisplayConfiguration]
  simp only [hnegotiated, hhost, hremote, invalidReason_rejection, hvalid]
  by_cases hfirst : session.activeConfiguration = none ∧ frame.sequence ≠ 2
  · rw [if_pos hfirst]
    apply iff_of_false
    · intro hconfigured
      have hfailed := hconfigured.2
      rw [(rejectProtocol_fails env _ _ _).failed] at hfailed
      cases hfailed
    · exact not_not.mpr hfirst
  · rw [if_neg hfirst]
    apply iff_of_true
    · split
      · rename_i hsame
        exact ⟨hsame, hhealthy⟩
      · exact ⟨rfl, hhealthy⟩
    · exact hfirst

/-- Once a configuration was accepted, a negotiated session takes another compatible one exactly when
the stream has not ended since. -/
theorem reconfigures_iff (localCapabilities : CapabilitiesPayload) {steps : List LifetimeStep}
    (hrun : machine.run (new localCapabilities) steps = some h)
    (hnegotiated : h.session.negotiated = true) (hhealthy : h.session.failed = false)
    (haccepted : h.accepted = true) {env : SessionEnvironment} {frame : LdflFrame}
    {configuration : DisplayConfigPayload} (htype : frame.messageType = .displayConfig)
    (hdecode : frame.decodePayload = .ok ⟨.displayConfig, configuration⟩)
    (hnewer : ∀ sequence, h.session.inboundHighest = some sequence → sequence < frame.sequence)
    (hcompatible : h.session.Compatible env configuration) :
    (h.session.handleInboundFrame env frame).Configured configuration ↔ h.ended = false := by
  have hinv : Inv h := by
    apply machine.run_invariant Inv ?_ (inv_new localCapabilities) hrun
    intro before step after hbefore hstep
    cases hstep
    exact hbefore.advance step
  obtain ⟨hhello, hcapabilities, highest, hhighest, hsecond⟩ := hinv.accepted haccepted
  have hlater := hnewer highest hhighest
  have hfresh : h.session.isStale frame = false := by
    rw [isStale, hhighest, Option.any_some, decide_eq_false_iff_not]
    exact UInt64.not_le.mpr hlater
  have hsequence : frame.sequence ≠ 2 := by
    intro htwo
    rw [htwo] at hlater
    exact UInt64.lt_irrefl 2 (UInt64.lt_of_le_of_lt hsecond hlater)
  rw [handleInboundFrame_compatible hnegotiated hhealthy hhello hcapabilities htype hdecode hfresh
    hcompatible, and_iff_left hsequence, hinv.active hnegotiated hhealthy haccepted,
    Bool.not_eq_true]

end ConfigurationHistory

/-- Full HD at half the frame rate. -/
def DisplayConfigPayload.fullHd30 : DisplayConfigPayload :=
  ⟨1920, 1080, 30000, 16000, .h264, .h264Main, rfl⟩

/-- The host asks for another resolution. -/
def resizeFrame : LdflFrame where
  messageType := .displayConfig
  flags := .none
  sequence := 3
  payload := (DisplayConfigPayload.encode .fullHd30).toOption.getD []
  payload_le := by decide

theorem resizeFrame_decodePayload :
    resizeFrame.decodePayload = .ok ⟨.displayConfig, DisplayConfigPayload.fullHd30⟩ := by
  have hdecode : (DisplayConfigPayload.decode resizeFrame.payload).toOption = some .fullHd30 := by
    decide
  have hvalue : PayloadCodec.decode .displayConfig resizeFrame.payload =
      .ok DisplayConfigPayload.fullHd30 := toOption_eq_some.mp hdecode
  change PayloadCodec.decode .displayConfig resizeFrame.payload >>= (fun value =>
    Except.ok (AnyPayload.mk .displayConfig value)) = _
  rw [hvalue]
  rfl

namespace ConfigurationHistory

open AndroidDisplaySession

/-- A host connects, negotiates and asks for one configuration. -/
def firstConfiguration : List LifetimeStep :=
  .transport .fresh .android (.connected "LadoFlow Host") ::
    hostOpening.map (.callback <| .inboundFrame .fresh ·)

/-- The session is negotiated and healthy, has had a configuration and is at sequence 2. -/
def AwaitsResize (h : ConfigurationHistory) : Prop :=
  h.session.negotiated = true ∧ h.session.failed = false ∧ h.accepted = true ∧
    h.session.inboundHighest = some 2 ∧ h.session.localCapabilities = .fullHd ∧
    h.session.remoteCapabilities = some .fullHd

instance (h : ConfigurationHistory) : Decidable h.AwaitsResize :=
  inferInstanceAs (Decidable (_ ∧ _))

theorem AwaitsResize.compatible {h : ConfigurationHistory} (hawaits : h.AwaitsResize) :
    h.session.Compatible .fresh .fullHd30 := by
  obtain ⟨-, -, -, -, hlocal, hremote⟩ := hawaits
  refine ⟨rfl, rfl, rfl, ?_⟩
  intro capabilities hcapabilities
  have hfullHd : capabilities = .fullHd := by
    rcases hcapabilities with hown | hhost
    · rw [hown, hlocal]
    · rw [hremote] at hhost
      exact (Option.some.inj hhost).symm
  rw [hfullHd]
  decide

/-- The host changes the resolution while the stream runs. -/
theorem reconfigures_iff_running : ∃ h,
    machine.run (new .fullHd) firstConfiguration = some h ∧ h.ended = false ∧
      (h.session.handleInboundFrame .fresh resizeFrame).Configured .fullHd30 := by
  have hreached : (machine.run (new .fullHd) firstConfiguration).any
      (fun h => h.AwaitsResize ∧ h.ended = false) = true := by
    decide +kernel
  obtain ⟨h, hrun, hend⟩ := (Option.any_eq_true _ _).mp hreached
  obtain ⟨hawaits, hended⟩ := of_decide_eq_true hend
  obtain ⟨hnegotiated, hhealthy, haccepted, hhighest, -, -⟩ := id hawaits
  refine ⟨h, hrun, hended, ?_⟩
  apply (reconfigures_iff .fullHd hrun hnegotiated hhealthy haccepted rfl resizeFrame_decodePayload ?_
    hawaits.compatible).mpr hended
  intro sequence hsequence
  rw [hhighest] at hsequence
  cases hsequence
  decide

/-- The stream ends, and the compatible configuration that follows rejects the session. -/
theorem resize_rejected_after_end : ∃ h,
    machine.run (new .fullHd) (firstConfiguration ++ [.callback (.decoderEvent .endOfStream)]) =
      some h ∧ h.AwaitsResize ∧ h.session.Compatible .fresh .fullHd30 ∧
      (h.session.handleInboundFrame .fresh resizeFrame).state =
        .failed "Initial DisplayConfig must be host sequence 2" true .protocol ∧
      ¬(h.session.handleInboundFrame .fresh resizeFrame).Configured .fullHd30 := by
  have hreached : (machine.run (new .fullHd)
      (firstConfiguration ++ [.callback (.decoderEvent .endOfStream)])).any (fun h =>
        h.AwaitsResize ∧ (h.session.handleInboundFrame .fresh resizeFrame).state =
          .failed "Initial DisplayConfig must be host sequence 2" true .protocol ∧
        ¬(h.session.handleInboundFrame .fresh resizeFrame).Configured .fullHd30) = true := by
    decide +kernel
  obtain ⟨h, hrun, hend⟩ := (Option.any_eq_true _ _).mp hreached
  obtain ⟨hawaits, hstate, hnot⟩ := of_decide_eq_true hend
  exact ⟨h, hrun, hawaits, hawaits.compatible, hstate, hnot⟩

end ConfigurationHistory

end LadoFlow.Android
