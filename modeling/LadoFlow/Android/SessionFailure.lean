import LadoFlow.Android.SessionCallbacks
import LadoFlow.Framework.Machine

/-!
# Failure of a protocol generation

The callbacks of one generation in any order, with every payload that they queue. A failure is
meant to be final until the next generation.
-/

namespace LadoFlow.Android

open Framework
open Protocol (MessageType ErrorCode)

def AndroidDisplaySessionState.isFailed : AndroidDisplaySessionState → Bool
  | failed .. => true
  | _ => false

/-- A callback into the session between two protocol resets, or one turn of its writer. -/
inductive SessionStep where
  | inboundFrame (env : SessionEnvironment) (frame : LdflFrame)
  | decoderEvent (event : VideoDecoderEvent)
  | decoderMetrics (metrics : VideoDecoderMetrics)
  | decoderState (view : Nat → SessionEnvironment) (state : VideoDecoderState)
  | sendFailure (generation : Nat) (reason : String)
  | telemetryTimer (env : SessionEnvironment)
  | pingTimer (env : SessionEnvironment)
  | input (emission : AndroidInputEmission)
  | write

/-- A transport state, or a callback within the generation that it began. -/
inductive LifetimeStep where
  | transport (env : SessionEnvironment) (identity : AndroidDisplaySession.Identity)
      (state : UsbTransportState)
  | callback (step : SessionStep)

namespace AndroidDisplaySession

def callback (session : AndroidDisplaySession) : SessionStep → AndroidDisplaySession
  | .inboundFrame env frame => session.handleInboundFrame env frame
  | .decoderEvent event => session.handleDecoderEvent event
  | .decoderMetrics metrics => session.handleDecoderMetrics metrics
  | .decoderState view state => session.handleDecoderState view state
  | .sendFailure generation reason => session.handleSendFailure generation reason
  | .telemetryTimer env => session.sendTelemetryNow env
  | .pingTimer env => session.sendPing env
  | .input emission => session.submitInput emission
  | .write =>
    match session.outbound.bind (·.writeNext) with
    | some (_, mux) => { session with outbound := some mux }
    | none => session

def advance (session : AndroidDisplaySession) : LifetimeStep → AndroidDisplaySession
  | .transport env identity state => session.handleTransportState env identity state
  | .callback step => session.callback step

/-- What a lane gained. -/
def gained (before after : List OutboundPayload) : List MessageType :=
  (after.drop before.length).map (·.payload.messageType)

/-- The message types that a callback queued. -/
def newlyQueued (before after : AndroidDisplaySession) : List MessageType :=
  match before.outbound, after.outbound with
  | some first, some second =>
    gained first.control second.control ++ gained first.criticalInput second.criticalInput ++
      gained first.coalescibleInput second.coalescibleInput
  | _, _ => []

end AndroidDisplaySession

structure QueuedMessage where
  messageType : MessageType
  hasFailed : Bool

/-- A session with whether it ever failed in this generation, and the messages that its callbacks
queued, each with whether the session had failed by then. -/
structure GenerationHistory where
  session : AndroidDisplaySession
  hasFailed : Bool
  queued : List QueuedMessage

namespace GenerationHistory

open AndroidDisplaySession

/-- The generation that a transport state begins. -/
def start (session : AndroidDisplaySession) (env : SessionEnvironment) (identity : Identity)
    (transport : UsbTransportState) : GenerationHistory :=
  let session := session.handleTransportState env identity transport
  { session, hasFailed := session.failed, queued := [] }

def callback (h : GenerationHistory) (step : SessionStep) : GenerationHistory :=
  let after := h.session.callback step
  let hasFailed := h.hasFailed || after.failed
  { session := after
    hasFailed
    queued := h.queued ++ (newlyQueued h.session after).map (⟨·, hasFailed⟩) }

def machine : Machine GenerationHistory SessionStep where
  step h step := some (h.callback step)

def errors (h : GenerationHistory) : Nat := h.queued.countP (·.messageType = .error)

/-- A failure is final: the state stays failed, nothing but an error is queued, and that once. -/
structure FailureSticky (h : GenerationHistory) : Prop where
  state : h.hasFailed = true → h.session.state.isFailed = true
  queued : ∀ message ∈ h.queued, message.hasFailed = true →
    message.messageType ∉ [MessageType.input, .telemetry, .ping, .pong]
  errors : h.errors ≤ 1

end GenerationHistory

/-- The decoder states after which the session is failed, or as it was. -/
def VideoDecoderState.keepsFailure : VideoDecoderState → Bool
  | idle | awaitingConfiguration | closed => true
  | failed _ recoverableOnKeyframe => !recoverableOnKeyframe
  | _ => false

namespace AndroidDisplaySession

/-- The session would show what the decoder reports. -/
def shows (session : AndroidDisplaySession) : Bool :=
  session.activeConfiguration.isSome && session.remoteHello.isSome

/-- The control payloads that a callback appends. -/
def Appends (extra : List OutboundPayload) (before after : AndroidDisplaySession) : Prop :=
  after.outbound = before.outbound.map fun mux => { mux with control := mux.control ++ extra }

theorem appends_nil {before after : AndroidDisplaySession} (h : after.outbound = before.outbound) :
    Appends [] before after := by
  rw [Appends, h]
  cases before.outbound <;> simp

theorem appends_sendControl {before after : AndroidDisplaySession}
    (h : after.outbound = before.outbound) (payload : AnyPayload) :
    Appends [⟨payload, .none⟩] before (after.sendControl payload) := by
  rw [Appends, sendControl, h]
  rfl

theorem gained_append (before extra : List OutboundPayload) :
    gained before (before ++ extra) = extra.map (·.payload.messageType) := by
  simp [gained]

theorem gained_self (lane : List OutboundPayload) : gained lane lane = [] := by
  simp [gained]

theorem newlyQueued_of_appends {extra : List OutboundPayload} {before after : AndroidDisplaySession}
    (h : Appends extra before after) :
    newlyQueued before after = [] ∨
      newlyQueued before after = extra.map (·.payload.messageType) := by
  rw [newlyQueued, h]
  cases before.outbound with
  | none => exact .inl rfl
  | some mux =>
    right
    simp [gained_append, gained_self]

/-- A callback that ends the generation queues nothing but its error. -/
structure Fails (before after : AndroidDisplaySession) : Prop where
  failed : after.failed = true
  state : after.state.isFailed = true
  queued : ∃ extra, Appends extra before after ∧
    (extra = [] ∨ ∃ payload, extra = [⟨⟨.error, payload⟩, .none⟩])

/-- What a callback does to the failure flag, and which control payloads it queues then. -/
inductive Handled (before after : AndroidDisplaySession) : Prop
  | failed (h : Fails before after)
  | healthy (extra : List OutboundPayload) (hfailed : after.failed = before.failed)
      (hextra : Appends extra before after)
      (hpong : ∀ payload ∈ extra, payload.payload.messageType = .pong)

section Handlers

variable (env : SessionEnvironment) (session : AndroidDisplaySession)

theorem Handled.of_eq {before after : AndroidDisplaySession}
    (hfailed : after.failed = before.failed) (houtbound : after.outbound = before.outbound) :
    Handled before after :=
  .healthy [] hfailed (appends_nil houtbound) (by simp)

theorem Handled.of_start {before start after : AndroidDisplaySession} (h : Handled start after)
    (hfailed : start.failed = before.failed) (houtbound : start.outbound = before.outbound) :
    Handled before after := by
  cases h with
  | failed h =>
    obtain ⟨extra, hextra, hpayload⟩ := h.queued
    refine .failed ⟨h.failed, h.state, extra, ?_, hpayload⟩
    rw [Appends, hextra, houtbound]
  | healthy extra hafter hextra hpong =>
    refine .healthy extra (hafter.trans hfailed) ?_ hpong
    rw [Appends, hextra, houtbound]

@[simp] theorem updateQueueDepthMetric_state :
    (session.updateQueueDepthMetric env).state = session.state := by
  simp only [updateQueueDepthMetric]
  split <;> rfl

theorem newlyQueued_same {before after : AndroidDisplaySession}
    (houtbound : after.outbound = before.outbound) : newlyQueued before after = [] := by
  rcases newlyQueued_of_appends (appends_nil houtbound) with hnone | hnone
  · exact hnone
  · exact hnone

theorem rejectProtocol_fails (code : ErrorCode) (diagnostic : String) :
    Fails session (session.rejectProtocol env code diagnostic) := by
  simp only [rejectProtocol]
  split
  · rename_i payload hpayload
    exact ⟨by simp [sendControl, record], rfl, _, appends_sendControl (by simp [record]) _,
      .inr ⟨payload, rfl⟩⟩
  · exact ⟨by simp [record], rfl, [], appends_nil (by simp [record]), .inl rfl⟩

theorem rejectProtocol_handled (code : ErrorCode) (diagnostic : String) :
    Handled session (session.rejectProtocol env code diagnostic) :=
  .failed (rejectProtocol_fails env session code diagnostic)

theorem finishNegotiationIfReady_handled : Handled session (session.finishNegotiationIfReady env) := by
  rw [finishNegotiationIfReady]
  split
  · split
    · exact rejectProtocol_handled _ _ _ _
    · exact .of_eq rfl rfl
  · exact .of_eq rfl rfl

theorem handleDisplayConfiguration_handled (frame : LdflFrame)
    (configuration : DisplayConfigPayload) :
    Handled session (session.handleDisplayConfiguration env frame configuration) := by
  rw [handleDisplayConfiguration]
  split
  · split
    · exact rejectProtocol_handled _ _ _ _
    · simp only
      split
      · exact rejectProtocol_handled _ _ _ _
      · split
        · exact .of_eq rfl rfl
        · exact .of_eq rfl rfl
  · exact rejectProtocol_handled _ _ _ _

theorem ifActive_handled (name : String) (action : AndroidDisplaySession → AndroidDisplaySession)
    (haction : Handled session (action session)) :
    Handled session (session.ifActive env name action) := by
  rw [ifActive]
  split
  · exact rejectProtocol_handled _ _ _ _
  · exact haction

theorem handlePayload_handled (frame : LdflFrame) (payload : AnyPayload) :
    Handled session (session.handlePayload env frame payload) := by
  obtain ⟨kind, value⟩ := payload
  cases kind with
  | hello =>
    simp only [handlePayload, handleRemoteHello]
    split
    · exact rejectProtocol_handled _ _ _ _
    split
    · exact rejectProtocol_handled _ _ _ _
    split
    · exact rejectProtocol_handled _ _ _ _
    · exact (finishNegotiationIfReady_handled env _).of_start rfl rfl
  | capabilities =>
    simp only [handlePayload, handleRemoteCapabilities]
    split
    · exact rejectProtocol_handled _ _ _ _
    · exact (finishNegotiationIfReady_handled env _).of_start rfl rfl
  | displayConfig => exact handleDisplayConfiguration_handled env session frame value
  | ping =>
    apply ifActive_handled
    simp only [respondToPing]
    split
    · exact .healthy [⟨⟨.pong, _⟩, .none⟩] rfl (appends_sendControl rfl _) (by simp)
    · exact .of_eq rfl rfl
  | pong => exact ifActive_handled env session _ _ (.of_eq rfl rfl)
  | telemetry => exact ifActive_handled env session _ _ (.of_eq rfl rfl)
  | error => exact .failed ⟨rfl, rfl, [], appends_nil rfl, .inl rfl⟩
  | input | videoFrame =>
    simp only [handlePayload]
    exact rejectProtocol_handled _ _ _ _

theorem enqueueUntilSurfaceReady_handled (frame : LdflFrame) :
    Handled session (session.enqueueUntilSurfaceReady env frame) := by
  simp only [enqueueUntilSurfaceReady]
  split_ifs <;> exact .of_eq (by simp) (by simp)

theorem handleInboundFrame_handled (frame : LdflFrame) :
    Handled session (session.handleInboundFrame env frame) := by
  simp only [handleInboundFrame]
  split
  · exact rejectProtocol_handled _ _ _ _
  split
  · simp only [handleMediaFrame]
    split
    · exact .of_eq rfl rfl
    split
    · exact (rejectProtocol_handled _ _ _ _).of_start rfl rfl
    split
    · exact (enqueueUntilSurfaceReady_handled _ _ _).of_start rfl rfl
    split
    · exact .of_eq rfl rfl
    · exact .of_eq (by simp [record]) (by simp [record])
  · rw [handleControlFrame]
    split
    · exact .of_eq rfl rfl
    split
    · exact (rejectProtocol_handled _ _ _ _).of_start rfl rfl
    · exact (handlePayload_handled _ _ _ _).of_start rfl rfl

/-- A failed session reacts to stale frames only. -/
theorem handleInboundFrame_failed {frame : LdflFrame} (hfailed : session.failed = true)
    (hfresh : session.isStale frame = false) :
    session.handleInboundFrame env frame =
      { session with inboundHighest := some frame.sequence } := by
  rw [isStale] at hfresh
  simp only [handleInboundFrame, hfresh, Bool.false_eq_true, if_false]
  split
  · simp [handleMediaFrame, hfailed]
  · simp [handleControlFrame, hfailed]

/-- The part of a session that the failure property reads. -/
structure SamePublication (before after : AndroidDisplaySession) : Prop where
  failed : after.failed = before.failed
  state : after.state = before.state
  outbound : after.outbound = before.outbound

theorem drainLoop_samePublication (view : Nat → SessionEnvironment) (submitted : Nat)
    (frames : List LdflFrame) (session : AndroidDisplaySession) :
    SamePublication session (drainLoop view submitted frames session) := by
  induction frames generalizing submitted session with
  | nil => exact ⟨by simp [drainLoop], by simp [drainLoop], by simp [drainLoop]⟩
  | cons frame frames ih =>
    rw [drainLoop]
    simp only
    split
    · have hrest := ih (submitted + 1) (session.record (.submit frame))
      exact ⟨hrest.failed, hrest.state, hrest.outbound⟩
    · refine ⟨by simp [record], ?_, by simp [record]⟩
      simp only [updateQueueDepthMetric_state, recordDroppedVideo]
      split <;> rfl

theorem drainPendingSurfaceFrames_samePublication (view : Nat → SessionEnvironment) :
    SamePublication session (session.drainPendingSurfaceFrames view) := by
  rw [drainPendingSurfaceFrames]
  split
  · exact drainLoop_samePublication view 0 _ session
  · exact ⟨by simp, by simp, by simp⟩

/-- A decoder state publishes, and never queues. -/
theorem handleDecoderState_outbound (view : Nat → SessionEnvironment) (state : VideoDecoderState) :
    (session.handleDecoderState view state).outbound = session.outbound := by
  rw [handleDecoderState]
  split
  · split
    · exact (drainPendingSurfaceFrames_samePublication _ view).outbound
    · exact (drainPendingSurfaceFrames_samePublication _ view).outbound
    · exact (drainPendingSurfaceFrames_samePublication _ view).outbound
    · rfl
    · split <;> rfl
    · rfl
    · rfl
    · rfl
  · rfl

theorem handleDecoderState_failed (view : Nat → SessionEnvironment) (state : VideoDecoderState)
    (h : (session.handleDecoderState view state).failed = true) (hhealthy : session.failed = false) :
    (session.handleDecoderState view state).state.isFailed = true := by
  revert h
  rw [handleDecoderState]
  split
  · split
    · rw [(drainPendingSurfaceFrames_samePublication _ view).failed]
      simp [hhealthy]
    · rw [(drainPendingSurfaceFrames_samePublication _ view).failed]
      simp [hhealthy]
    · rw [(drainPendingSurfaceFrames_samePublication _ view).failed]
      simp [hhealthy]
    · simp [suspendSurface, hhealthy]
    · split
      · simp [suspendSurface, hhealthy]
      · intro _
        rfl
    · intro _
      rfl
    · simp [hhealthy]
    · simp [hhealthy]
  · simp [hhealthy]

/-- A failed session that shows nothing, or a decoder state that keeps failures. -/
theorem handleDecoderState_keepsFailure (view : Nat → SessionEnvironment)
    {state : VideoDecoderState} (hfailed : session.failed = true)
    (hstate : session.state.isFailed = true)
    (hguard : session.shows = true → state.keepsFailure = true) :
    (session.handleDecoderState view state).failed = true ∧
      (session.handleDecoderState view state).state.isFailed = true := by
  rw [handleDecoderState]
  split
  · rename_i configuration hello hconfiguration hhello
    have hkeeps := hguard (by simp [shows, hconfiguration, hhello])
    cases state with
    | failed message recoverableOnKeyframe =>
      simp only [VideoDecoderState.keepsFailure, Bool.not_eq_true'] at hkeeps
      simp only [hkeeps, Bool.false_eq_true, if_false]
      exact ⟨trivial, rfl⟩
    | closed => exact ⟨rfl, rfl⟩
    | idle => exact ⟨hfailed, hstate⟩
    | awaitingConfiguration => exact ⟨hfailed, hstate⟩
    | _ => cases hkeeps
  · exact ⟨hfailed, hstate⟩

theorem gained_nil {before after : List OutboundPayload} (h : after.length ≤ before.length) :
    gained before after = [] := by
  rw [gained, List.drop_eq_nil_of_le h]
  rfl

theorem receiveNext_lengths {mux next : SessionOutboundMux} {payload : OutboundPayload}
    (h : mux.receiveNext = some (payload, next)) :
    next.control.length ≤ mux.control.length ∧
      next.criticalInput.length ≤ mux.criticalInput.length ∧
      next.coalescibleInput.length ≤ mux.coalescibleInput.length := by
  rw [SessionOutboundMux.receiveNext] at h
  split at h <;> cases h <;> simp_all

theorem writeNext_lengths {mux next : SessionOutboundMux} {result : Except String LdflFrame}
    (h : mux.writeNext = some (result, next)) :
    next.control.length ≤ mux.control.length ∧
      next.criticalInput.length ≤ mux.criticalInput.length ∧
      next.coalescibleInput.length ≤ mux.coalescibleInput.length := by
  rw [SessionOutboundMux.writeNext] at h
  split at h
  · cases h
  · rename_i payload taken hreceive
    have hlengths := receiveNext_lengths hreceive
    simp only at h
    split at h
    · cases h
      exact hlengths
    · split at h <;> cases h <;> split <;> exact hlengths

end Handlers

end AndroidDisplaySession

namespace GenerationHistory

open AndroidDisplaySession

/-- A failed session is neither shown another decoder state or output, nor the end of the stream,
and after its error it receives no stale frame. -/
def KeepsFailure (h : GenerationHistory) : SessionStep → Prop
  | .inboundFrame _ frame => h.session.isStale frame = true → h.errors = 0
  | .decoderEvent event => h.session.failed = true → event = .endOfStream →
      h.session.remoteHello = none
  | .decoderMetrics metrics => h.session.failed = true → h.session.shows = true →
      h.session.showsOutput metrics = false
  | .decoderState _ state => h.session.failed = true → h.session.shows = true →
      state.keepsFailure = true
  | _ => True

instance (h : GenerationHistory) : (step : SessionStep) → Decidable (h.KeepsFailure step)
  | .inboundFrame .. | .decoderEvent _ | .decoderMetrics _ | .decoderState .. => by
    unfold KeepsFailure
    infer_instance
  | .sendFailure .. | .telemetryTimer _ | .pingTimer _ | .input _ | .write => .isTrue trivial

/-- One callback: it ends failed and queues at most the first error, or it stays healthy and
queues no error. -/
inductive StepOutcome (h : GenerationHistory) (after : AndroidDisplaySession) : Prop
  | failed (hfailed : after.failed = true) (hstate : after.state.isFailed = true)
      (hqueued : newlyQueued h.session after = [] ∨
        newlyQueued h.session after = [.error] ∧ h.errors = 0)
  | healthy (hfailed : after.failed = false) (hbefore : h.session.failed = false)
      (hqueued : .error ∉ newlyQueued h.session after)

structure Inv (h : GenerationHistory) : Prop where
  sticky : FailureSticky h
  hasFailed : h.hasFailed = h.session.failed
  healthy : h.session.failed = false → h.errors = 0

variable {h : GenerationHistory}

theorem Inv.state (hinv : Inv h) (hfailed : h.session.failed = true) :
    h.session.state.isFailed = true :=
  hinv.sticky.state (hinv.hasFailed.trans hfailed)

theorem StepOutcome.of_quiet {after : AndroidDisplaySession}
    (hqueued : newlyQueued h.session after = []) (hfailed : after.failed = h.session.failed)
    (hstate : h.session.failed = true → after.state.isFailed = true) : StepOutcome h after := by
  cases hbefore : h.session.failed with
  | true => exact .failed (hfailed.trans hbefore) (hstate hbefore) (.inl hqueued)
  | false => exact .healthy (hfailed.trans hbefore) hbefore (by simp [hqueued])

/-- A callback that only publishes. -/
theorem StepOutcome.of_same {after : AndroidDisplaySession}
    (houtbound : after.outbound = h.session.outbound) (hfailed : after.failed = h.session.failed)
    (hstate : h.session.failed = true → after.state.isFailed = true) : StepOutcome h after :=
  .of_quiet (newlyQueued_same houtbound) hfailed hstate

theorem StepOutcome.of_fails {after : AndroidDisplaySession} (hfails : Fails h.session after)
    (herrors : h.errors = 0) : StepOutcome h after := by
  obtain ⟨extra, hextra, hpayload⟩ := hfails.queued
  refine .failed hfails.failed hfails.state ?_
  rcases newlyQueued_of_appends hextra with hnone | hsome
  · exact .inl hnone
  · rcases hpayload with rfl | ⟨payload, rfl⟩
    · exact .inl hsome
    · exact .inr ⟨hsome, herrors⟩

theorem StepOutcome.of_appends {after : AndroidDisplaySession} {extra : List OutboundPayload}
    (hextra : Appends extra h.session after) (hfailed : after.failed = h.session.failed)
    (hbefore : h.session.failed = false)
    (herror : ∀ payload ∈ extra, payload.payload.messageType ≠ .error) : StepOutcome h after := by
  refine .healthy (hfailed.trans hbefore) hbefore ?_
  rcases newlyQueued_of_appends hextra with hnone | hsome
  · simp [hnone]
  · rw [hsome]
    intro hmem
    obtain ⟨payload, hpayload, htype⟩ := List.mem_map.mp hmem
    exact herror payload hpayload htype

theorem StepOutcome.of_handled {after : AndroidDisplaySession} (hhandled : Handled h.session after)
    (hbefore : h.session.failed = false) (herrors : h.errors = 0) : StepOutcome h after := by
  cases hhandled with
  | failed hfails => exact .of_fails hfails herrors
  | healthy extra hfailed hextra hpong =>
    refine .of_appends hextra hfailed hbefore ?_
    intro payload hpayload
    rw [hpong payload hpayload]
    exact MessageType.noConfusion

theorem inboundFrame_outcome (hinv : Inv h) {env : SessionEnvironment} {frame : LdflFrame}
    (hkeeps : h.session.isStale frame = true → h.errors = 0) :
    StepOutcome h (h.session.handleInboundFrame env frame) := by
  cases hfailed : h.session.failed with
  | false =>
    exact .of_handled (handleInboundFrame_handled env _ frame) hfailed (hinv.healthy hfailed)
  | true =>
    cases hstale : h.session.isStale frame with
    | false =>
      rw [handleInboundFrame_failed env _ hfailed hstale]
      exact .of_same rfl rfl hinv.state
    | true =>
      have herrors := hkeeps hstale
      rw [isStale] at hstale
      simp only [handleInboundFrame, hstale, if_true]
      exact .of_fails (rejectProtocol_fails env _ _ _) herrors

theorem decoderEvent_outcome (hinv : Inv h) {event : VideoDecoderEvent}
    (hkeeps : h.session.failed = true → event = .endOfStream → h.session.remoteHello = none) :
    StepOutcome h (h.session.handleDecoderEvent event) := by
  cases event with
  | endOfStream =>
    rw [handleDecoderEvent]
    simp only [record]
    split
    · rename_i hello hhello
      refine .of_same rfl rfl ?_
      intro hfailed
      rw [hkeeps hfailed rfl] at hhello
      cases hhello
    · exact .of_same rfl rfl hinv.state
  | _ => exact .of_same rfl rfl hinv.state

theorem decoderMetrics_outcome (hinv : Inv h) {metrics : VideoDecoderMetrics}
    (hkeeps : h.session.failed = true → h.session.shows = true →
      h.session.showsOutput metrics = false) :
    StepOutcome h (h.session.handleDecoderMetrics metrics) := by
  rw [handleDecoderMetrics]
  split
  · rename_i configuration hello hconfiguration hhello
    have hsame : (h.session.recordDecoderMetrics metrics).showsOutput metrics =
        h.session.showsOutput metrics := rfl
    simp only [hsame]
    split
    · rename_i hshows
      refine .of_same rfl rfl ?_
      intro hfailed
      rw [hkeeps hfailed (by simp [shows, hconfiguration, hhello])] at hshows
      cases hshows
    · exact .of_same rfl rfl hinv.state
  · exact .of_same rfl rfl hinv.state

theorem decoderState_outcome (hinv : Inv h) {view : Nat → SessionEnvironment}
    {state : VideoDecoderState}
    (hkeeps : h.session.failed = true → h.session.shows = true → state.keepsFailure = true) :
    StepOutcome h (h.session.handleDecoderState view state) := by
  have hqueued := newlyQueued_same (handleDecoderState_outbound h.session view state)
  cases hfailed : h.session.failed with
  | true =>
    obtain ⟨hafter, hstate⟩ := handleDecoderState_keepsFailure h.session view hfailed
      (hinv.state hfailed) (hkeeps hfailed)
    exact .failed hafter hstate (.inl hqueued)
  | false =>
    cases hafter : (h.session.handleDecoderState view state).failed with
    | true => exact .failed hafter (handleDecoderState_failed _ view state hafter hfailed) (.inl hqueued)
    | false => exact .healthy hafter hfailed (by simp [hqueued])

theorem telemetryTimer_outcome (hinv : Inv h) (env : SessionEnvironment) :
    StepOutcome h (h.session.sendTelemetryNow env) := by
  rw [sendTelemetryNow]
  split
  · exact .of_same rfl rfl hinv.state
  · rename_i hreports
    have hhealthy : h.session.failed = false := by
      simp only [reports, not_or, not_not, Bool.and_eq_true, Bool.not_eq_true'] at hreports
      exact hreports.1.1.2
    split
    · exact .of_appends (appends_sendControl (by simp) _) (by simp [sendControl]) hhealthy (by simp)
    · exact .of_same (by simp) (by simp) (by simpa using hinv.state)

theorem pingTimer_outcome (hinv : Inv h) (env : SessionEnvironment) :
    StepOutcome h (h.session.sendPing env) := by
  rw [sendPing]
  split
  · exact .of_same rfl rfl hinv.state
  · rename_i hreports
    have hhealthy : h.session.failed = false := by
      simp only [reports, not_not, Bool.and_eq_true, Bool.not_eq_true'] at hreports
      exact hreports.1.2
    exact .of_appends (appends_sendControl rfl _) rfl hhealthy (by simp)

theorem input_outcome (hinv : Inv h) (emission : AndroidInputEmission) :
    StepOutcome h (h.session.submitInput emission) := by
  rw [submitInput]
  split
  · exact .of_same rfl rfl hinv.state
  · rename_i haccepts
    have hhealthy : h.session.failed = false := by
      cases hfailed : h.session.failed with
      | false => rfl
      | true =>
        have hstate := hinv.state hfailed
        cases hpublished : h.session.state <;>
          simp_all [acceptsInput, AndroidDisplaySessionState.isFailed]
    split
    · exact .of_same rfl rfl (by simp [hhealthy])
    split
    · exact .of_same rfl rfl hinv.state
    · rename_i mux delivery hmux hdelivery
      refine .healthy hhealthy hhealthy ?_
      simp [newlyQueued, hmux, SessionOutboundMux.sendCriticalInput, gained_append, gained_self]
    · rename_i mux delivery hmux hdelivery
      simp only [SessionOutboundMux.trySendCoalescibleInput]
      split
      · refine .healthy hhealthy hhealthy ?_
        simp [newlyQueued, hmux, gained_append, gained_self]
      · exact .of_same rfl rfl (by simp [hhealthy])

theorem write_outcome (hinv : Inv h) : StepOutcome h (h.session.callback .write) := by
  simp only [AndroidDisplaySession.callback]
  split
  · rename_i result next hwrite
    obtain ⟨mux, hmux, hnext⟩ := Option.bind_eq_some_iff.mp hwrite
    obtain ⟨hcontrol, hcritical, hcoalescible⟩ := writeNext_lengths hnext
    refine .of_quiet ?_ rfl hinv.state
    simp [newlyQueued, hmux, gained_nil hcontrol, gained_nil hcritical, gained_nil hcoalescible]
  · exact .of_same rfl rfl hinv.state

theorem callback_outcome (hinv : Inv h) {step : SessionStep} (hkeeps : h.KeepsFailure step) :
    StepOutcome h (h.session.callback step) := by
  cases step with
  | inboundFrame env frame => exact inboundFrame_outcome hinv hkeeps
  | decoderEvent event => exact decoderEvent_outcome hinv hkeeps
  | decoderMetrics metrics => exact decoderMetrics_outcome hinv hkeeps
  | decoderState view state => exact decoderState_outcome hinv hkeeps
  | sendFailure generation reason =>
    simp only [AndroidDisplaySession.callback, handleSendFailure]
    split
    · exact .failed rfl rfl (.inl (newlyQueued_same rfl))
    · exact .of_same rfl rfl hinv.state
  | telemetryTimer env => exact telemetryTimer_outcome hinv env
  | pingTimer env => exact pingTimer_outcome hinv env
  | input emission => exact input_outcome hinv emission
  | write => exact write_outcome hinv

theorem errors_callback (step : SessionStep) :
    (h.callback step).errors =
      h.errors + (newlyQueued h.session (h.session.callback step)).count .error := by
  simp only [errors, callback, List.countP_append, List.countP_map, List.count]
  rfl

theorem inv_callback (hinv : Inv h) {step : SessionStep} (hkeeps : h.KeepsFailure step) :
    Inv (h.callback step) := by
  have herrors := errors_callback (h := h) step
  cases callback_outcome hinv hkeeps with
  | failed hfailed hstate hqueued =>
    refine ⟨⟨fun _ => hstate, ?_, ?_⟩, ?_, ?_⟩
    · intro message hmessage
      rcases List.mem_append.mp hmessage with hold | hnew
      · exact hinv.sticky.queued message hold
      · obtain ⟨messageType, htype, rfl⟩ := List.mem_map.mp hnew
        have herror : messageType = .error := by
          rcases hqueued with hnone | ⟨hone, _⟩
          · simp [hnone] at htype
          · simpa [hone] using htype
        simp [herror]
    · rw [herrors]
      rcases hqueued with hnone | ⟨hone, hzero⟩
      · simpa [hnone] using hinv.sticky.errors
      · simp [hone, hzero]
    · simp [callback, hfailed]
    · intro hhealthy
      cases hfailed.symm.trans hhealthy
  | healthy hfailed hbefore hqueued =>
    have hnever : h.hasFailed = false := hinv.hasFailed.trans hbefore
    have hzero : (h.callback step).errors = 0 := by
      rw [herrors, hinv.healthy hbefore, List.count_eq_zero_of_not_mem hqueued]
    refine ⟨⟨?_, ?_, hzero.le.trans (Nat.zero_le 1)⟩, ?_, fun _ => hzero⟩
    · simp [callback, hnever, hfailed]
    · intro message hmessage
      rcases List.mem_append.mp hmessage with hold | hnew
      · exact hinv.sticky.queued message hold
      · obtain ⟨messageType, htype, rfl⟩ := List.mem_map.mp hnew
        simp [hnever, hfailed]
    · simp [callback, hnever, hfailed]

theorem resetProtocol_failed (session : AndroidDisplaySession) (env : SessionEnvironment)
    (reason : String) : (session.resetProtocol env reason).failed = false := by
  simp only [resetProtocol]
  split <;> rfl

theorem beginHandshake_failed (session : AndroidDisplaySession) (env : SessionEnvironment)
    (name : String) (nonce : SignedBytes) (implementationName : String)
    (h : (session.beginHandshake env name nonce implementationName).failed = true) :
    (session.beginHandshake env name nonce implementationName).state.isFailed = true := by
  revert h
  simp only [beginHandshake]
  split
  · intro _
    rfl
  split <;> simp [sendControl, resetProtocol_failed]

theorem inv_start (session : AndroidDisplaySession) (env : SessionEnvironment)
    (identity : Identity) {transport : UsbTransportState}
    (hresets : transport.resetsProtocol = true) : Inv (start session env identity transport) := by
  refine ⟨⟨?_, by simp [start], by simp [start, errors]⟩, rfl, fun _ => rfl⟩
  cases transport with
  | opening => cases hresets
  | connected | tetherConnected => exact beginHandshake_failed _ _ _ _ _
  | _ => simp [start, handleTransportState, resetProtocol_failed]

/-- A display that a host opened over a cable. -/
def opened : GenerationHistory :=
  start (.new .fullHd) .fresh .android (.connected "LadoFlow Host")

/-- The session is configured, then its writer fails. -/
def writerFails : List SessionStep :=
  hostOpening.map (.inboundFrame .fresh) ++
    [.decoderState (fun _ => .fresh) (.awaitingKeyframe .hd), .sendFailure 1 "USB write failed"]

/-- The decoder reports an output after the writer failed, and the user touches the screen. -/
def outputAfterFailure : List SessionStep :=
  writerFails ++ [.decoderMetrics ⟨1, 0, 0, some 3, some 900⟩,
    .input ⟨⟨0, .focusInput true, rfl⟩, .critical⟩]

end GenerationHistory

end LadoFlow.Android
