import LadoFlow.Android.DisplayEffects

/-!
# Telemetry of one protocol generation

The session counts dropped frames and remembers the last released frame per generation; the decoder
keeps its own counters until a reset task runs. A report speaks of its own generation when the
decoder holds nothing of an earlier one once a configuration is accepted.
-/

namespace LadoFlow.Android

open Framework

def AnyPayload.telemetry? : AnyPayload → Option TelemetryPayload
  | ⟨.telemetry, telemetry⟩ => some telemetry
  | _ => none

namespace AndroidDisplaySession

/-- The telemetry reports that wait for the writer of this generation. -/
def queuedTelemetry (session : AndroidDisplaySession) : List TelemetryPayload :=
  match session.outbound with
  | some mux => mux.control.filterMap (·.payload.telemetry?)
  | none => []

section Outbound

variable {env : SessionEnvironment} {session before after : AndroidDisplaySession}
  {telemetry : TelemetryPayload} {extra : List OutboundPayload}

theorem queuedTelemetry_congr (h : after.outbound = before.outbound) :
    after.queuedTelemetry = before.queuedTelemetry := by
  rw [queuedTelemetry, h, queuedTelemetry]

theorem queuedTelemetry_appends (h : Appends extra before after)
    (hmem : telemetry ∈ after.queuedTelemetry) :
    telemetry ∈ before.queuedTelemetry ∨ ∃ payload ∈ extra, payload.payload.telemetry? = some telemetry := by
  rw [queuedTelemetry, h] at hmem
  rw [queuedTelemetry]
  cases hmux : before.outbound with
  | none =>
    rw [hmux] at hmem
    cases hmem
  | some mux =>
    rw [hmux] at hmem
    simp only [Option.map_some, List.filterMap_append, List.mem_append] at hmem
    exact hmem.imp_right List.mem_filterMap.mp

theorem telemetry_messageType {payload : AnyPayload} (h : payload.telemetry? = some telemetry) :
    payload.messageType = .telemetry := by
  obtain ⟨kind, value⟩ := payload
  cases kind <;> first | rfl | cases h

/-- Answers to inbound frames are no reports. -/
theorem Handled.queuedTelemetry (h : Handled before after)
    (hmem : telemetry ∈ after.queuedTelemetry) : telemetry ∈ before.queuedTelemetry := by
  cases h with
  | failed h =>
    obtain ⟨extra, hextra, hpayload⟩ := h.queued
    rcases queuedTelemetry_appends hextra hmem with hold | ⟨payload, hnew, hreport⟩
    · exact hold
    · rcases hpayload with rfl | ⟨error, rfl⟩
      · cases hnew
      · cases List.mem_singleton.mp hnew
        cases hreport
  | healthy extra hfailed hextra hpong =>
    rcases queuedTelemetry_appends hextra hmem with hold | ⟨payload, hnew, hreport⟩
    · exact hold
    · have htype := telemetry_messageType hreport
      rw [hpong payload hnew] at htype
      cases htype

theorem resetProtocol_outbound (env : SessionEnvironment) (session : AndroidDisplaySession)
    (reason : String) : (session.resetProtocol env reason).outbound = none := by
  simp only [resetProtocol]
  split <;> rfl

theorem beginHandshake_queuedTelemetry (env : SessionEnvironment)
    (session : AndroidDisplaySession) (name : String) (nonce : SignedBytes)
    (implementationName : String) :
    (session.beginHandshake env name nonce implementationName).queuedTelemetry = [] := by
  simp only [beginHandshake]
  split
  · simp [queuedTelemetry, failLocal, record, SessionOutboundMux.new]
  split
  · rfl
  · rfl

theorem handleTransportState_queuedTelemetry (env : SessionEnvironment)
    (session : AndroidDisplaySession) (identity : Identity) (transport : UsbTransportState)
    (hmem : telemetry ∈ (session.handleTransportState env identity transport).queuedTelemetry) :
    telemetry ∈ session.queuedTelemetry ∧ transport.resetsProtocol = false := by
  cases transport with
  | opening => exact ⟨hmem, rfl⟩
  | connected | tetherConnected =>
    rw [handleTransportState, beginHandshake_queuedTelemetry] at hmem
    cases hmem
  | _ =>
    simp [handleTransportState, queuedTelemetry, resetProtocol_outbound] at hmem

theorem writeNext_control {mux next : SessionOutboundMux} {result : Except String LdflFrame}
    (h : mux.writeNext = some (result, next)) {payload : OutboundPayload}
    (hmem : payload ∈ next.control) : payload ∈ mux.control := by
  rw [SessionOutboundMux.writeNext] at h
  split at h
  · cases h
  · rename_i taken rest hreceive
    have hcontrol : next.control = rest.control := by
      simp only at h
      split at h
      · cases h
        rfl
      · split at h <;> cases h <;> split <;> rfl
    rw [hcontrol] at hmem
    rw [SessionOutboundMux.receiveNext] at hreceive
    split at hreceive
    · rename_i hfirst
      cases hreceive
      rw [hfirst]
      exact List.mem_cons_of_mem _ hmem
    · cases hreceive
      exact hmem
    · cases hreceive
      exact hmem
    · cases hreceive

theorem handleSendFailure_queuedTelemetry (session : AndroidDisplaySession) {generation : Nat}
    {reason : String}
    (hmem : telemetry ∈ (session.handleSendFailure generation reason).queuedTelemetry) :
    telemetry ∈ session.queuedTelemetry := by
  rw [handleSendFailure] at hmem
  split at hmem <;> exact hmem

theorem handleDecoderMetrics_queuedTelemetry (session : AndroidDisplaySession)
    {metrics : VideoDecoderMetrics}
    (hmem : telemetry ∈ (session.handleDecoderMetrics metrics).queuedTelemetry) :
    telemetry ∈ session.queuedTelemetry := by
  rw [handleDecoderMetrics] at hmem
  split at hmem
  · simp only at hmem
    split at hmem <;> exact hmem
  · exact hmem

theorem handleDecoderEvent_queuedTelemetry (session : AndroidDisplaySession)
    {event : VideoDecoderEvent}
    (hmem : telemetry ∈ (session.handleDecoderEvent event).queuedTelemetry) :
    telemetry ∈ session.queuedTelemetry := by
  cases event with
  | endOfStream =>
    simp only [handleDecoderEvent, record] at hmem
    split at hmem <;> exact hmem
  | _ => exact hmem

theorem sendPing_queuedTelemetry (session : AndroidDisplaySession)
    (hmem : telemetry ∈ (session.sendPing env).queuedTelemetry) :
    telemetry ∈ session.queuedTelemetry := by
  rw [sendPing] at hmem
  split at hmem
  · exact hmem
  · rcases queuedTelemetry_appends (appends_sendControl rfl _) hmem with
      hold | ⟨sent, hsent, hreport⟩
    · exact hold
    · cases List.mem_singleton.mp hsent
      cases hreport

theorem submitInput_queuedTelemetry (session : AndroidDisplaySession)
    {emission : AndroidInputEmission}
    (hmem : telemetry ∈ (session.submitInput emission).queuedTelemetry) :
    telemetry ∈ session.queuedTelemetry := by
  rw [submitInput] at hmem
  split at hmem
  · exact hmem
  split at hmem
  · exact hmem
  split at hmem
  · exact hmem
  · rename_i mux delivery hmux hdelivery
    rw [queuedTelemetry, hmux]
    exact hmem
  · rename_i mux delivery hmux hdelivery
    simp only [SessionOutboundMux.trySendCoalescibleInput] at hmem
    split at hmem
    · rw [queuedTelemetry, hmux]
      exact hmem
    · exact hmem

theorem write_queuedTelemetry (session : AndroidDisplaySession)
    (hmem : telemetry ∈ (session.callback .write).queuedTelemetry) :
    telemetry ∈ session.queuedTelemetry := by
  rw [callback] at hmem
  split at hmem
  · rename_i result next hwrite
    obtain ⟨mux, hmux, hnext⟩ := Option.bind_eq_some_iff.mp hwrite
    obtain ⟨payload, hpayload, hreport⟩ := List.mem_filterMap.mp hmem
    rw [queuedTelemetry, hmux]
    exact List.mem_filterMap.mpr ⟨payload, writeNext_control hnext hpayload, hreport⟩
  · exact hmem

theorem sendTelemetryNow_queuedTelemetry (session : AndroidDisplaySession)
    (hmem : telemetry ∈ (session.sendTelemetryNow env).queuedTelemetry) :
    telemetry ∈ session.queuedTelemetry ∨ session.telemetry env = .ok telemetry := by
  rw [sendTelemetryNow] at hmem
  split at hmem
  · exact .inl hmem
  split at hmem
  · rename_i payload htelemetry
    have hdepth : (session.updateQueueDepthMetric env).outbound = session.outbound := by simp
    rcases queuedTelemetry_appends (appends_sendControl hdepth _) hmem with
      hold | ⟨sent, hsent, hreport⟩
    · exact .inl hold
    · cases List.mem_singleton.mp hsent
      cases hreport
      exact .inr htelemetry
  · rw [queuedTelemetry_congr (show _ = session.outbound by simp)] at hmem
    exact .inl hmem

theorem telemetry_eq_ok (h : session.telemetry env = .ok telemetry) :
    telemetry.frameId = session.lastReleasedFrameId ∧
      telemetry.droppedFrames.toNat ≤ session.metrics.droppedVideoFrames := by
  simp only [AndroidDisplaySession.telemetry, bind_eq_ok, TelemetryPayload.new] at h
  obtain ⟨timings, -, hnew⟩ := h
  obtain ⟨hvalid, hok⟩ := checked_eq_ok.mp hnew
  cases hok
  refine ⟨rfl, ?_⟩
  rw [UInt32.toNat_ofNat']
  exact (Nat.mod_le _ _).trans (Nat.min_le_left _ _)

end Outbound

end AndroidDisplaySession

/-- A display with the video frames received in the current generation. -/
structure TelemetryHistory where
  display : AndroidDisplay
  received : List LdflFrame

namespace TelemetryHistory

open AndroidDisplaySession AndroidMediaCodecVideoDecoder

def step (h : TelemetryHistory) (step : DisplayStep) : Option TelemetryHistory :=
  (h.display.step step).map fun display =>
    { display, received := if step.restarts then [] else h.received ++ step.received }

def machine : Machine TelemetryHistory DisplayStep where
  step := step

def new (localCapabilities : CapabilitiesPayload) (maxInFlightAccessUnits : Nat)
    (h : 0 < maxInFlightAccessUnits) : TelemetryHistory :=
  ⟨.new localCapabilities maxInFlightAccessUnits h, []⟩

/-- The id of a frame received in this generation. -/
def Known (received : List LdflFrame) (frameId : UInt64) : Prop :=
  ∃ frame ∈ received, frame.videoFrameId = some frameId

/-- Every report speaks of frames of its own generation. -/
def TelemetryLocal (h : TelemetryHistory) : Prop :=
  ∀ telemetry ∈ h.display.session.queuedTelemetry,
    (telemetry.frameId = 0 ∨ Known h.received telemetry.frameId) ∧
      telemetry.droppedFrames.toNat ≤ h.received.length

/-- The decoder holds no frame and no count. -/
def isClean (d : AndroidMediaCodecVideoDecoder) : Prop :=
  d.metrics.lastReleasedFrameId = none ∧ d.metrics.droppedFrames = 0 ∧ d.pipeline.depth = 0 ∧
    d.frameTasks = 0

/-- The first configuration of a generation finds a clean decoder. -/
def StartsClean (h : TelemetryHistory) (step : DisplayStep) : Prop :=
  (h.display.accepts step).isSome = true → h.display.session.activeConfiguration = none →
    isClean h.display.decoder

instance (h : TelemetryHistory) (step : DisplayStep) : Decidable (h.StartsClean step) :=
  inferInstanceAs (Decidable (_ → _ → _ ∧ _ ∧ _ ∧ _))

/-- What the session itself remembers of its generation. -/
structure SessionLocal (session : AndroidDisplaySession) (received : List LdflFrame) : Prop where
  total : session.localDroppedVideoFrames + session.pendingSurfaceFrames.length ≤ received.length
  pending : ∀ frame ∈ session.pendingSurfaceFrames, frame ∈ received
  dropped : session.metrics.droppedVideoFrames ≤ received.length
  lastReleased : session.lastReleasedFrameId = 0 ∨ Known received session.lastReleasedFrameId

/-- The decoder works for the generation of its session: every received frame is counted at most
once on its way. -/
structure DecoderLocal (session : AndroidDisplaySession) (d : AndroidMediaCodecVideoDecoder)
    (received : List LdflFrame) : Prop where
  total : session.localDroppedVideoFrames + session.pendingSurfaceFrames.length + d.frameTasks +
    d.metrics.droppedFrames + d.pipeline.depth ≤ received.length
  units : ∀ unit ∈ d.pipeline.units, Known received unit.2
  tasks : ∀ submission frame, .frame submission frame ∈ d.tasks → frame ∈ received
  lastReleased : ∀ frameId, d.metrics.lastReleasedFrameId = some frameId → Known received frameId

structure Inv (h : TelemetryHistory) : Prop where
  isOpen : AndroidDisplay.Open h.display
  session : SessionLocal h.display.session h.received
  decoder : h.display.session.activeConfiguration.isSome = true →
    DecoderLocal h.display.session h.display.decoder h.received
  telemetry : TelemetryLocal h

section Steps

variable {display after : AndroidDisplay} {step : DisplayStep} {received more : List LdflFrame}
  {session next : AndroidDisplaySession} {d : AndroidMediaCodecVideoDecoder}
  {extra : List HandlerTask}

theorem Known.append {frameId : UInt64} (h : Known received frameId) (more : List LdflFrame) :
    Known (received ++ more) frameId := by
  obtain ⟨frame, hmem, hid⟩ := h
  exact ⟨frame, List.mem_append_left _ hmem, hid⟩

/-- A report comes from the lane before the step, or from the telemetry timer. -/
theorem step_queuedTelemetry (hstep : display.step step = some after)
    {telemetry : TelemetryPayload} (hmem : telemetry ∈ after.session.queuedTelemetry) :
    telemetry ∈ display.session.queuedTelemetry ∧ step.restarts = false ∨
      ∃ surroundings, step = .telemetryTimer surroundings ∧
        display.session.telemetry (display.decoder.environment surroundings) = .ok telemetry := by
  have hstart : { display.session with calls := [] }.queuedTelemetry =
      display.session.queuedTelemetry := rfl
  rw [← hstart]
  cases step with
  | transport surroundings identity transport =>
    cases hstep
    exact .inl (handleTransportState_queuedTelemetry _ { display.session with calls := [] }
      identity transport hmem)
  | inboundFrame surroundings frame =>
    cases hstep
    have hhandled := handleInboundFrame_handled (display.decoder.environment surroundings)
      { display.session with calls := [] } frame
    exact .inl ⟨hhandled.queuedTelemetry hmem, rfl⟩
  | sendFailure generation reason =>
    cases hstep
    exact .inl ⟨handleSendFailure_queuedTelemetry { display.session with calls := [] } hmem, rfl⟩
  | decoderState surroundings =>
    rw [AndroidDisplay.step] at hstep
    split at hstep
    · cases hstep
    · cases hstep
      rw [← queuedTelemetry_congr (handleDecoderState_outbound _ _ _)]
      exact .inl ⟨hmem, rfl⟩
  | decoderMetrics =>
    rw [AndroidDisplay.step] at hstep
    split at hstep
    · cases hstep
    · cases hstep
      exact .inl ⟨handleDecoderMetrics_queuedTelemetry { display.session with calls := [] } hmem,
        rfl⟩
  | decoderEvent =>
    rw [AndroidDisplay.step] at hstep
    split at hstep
    · cases hstep
    · rename_i event events hevents
      cases hstep
      exact .inl ⟨handleDecoderEvent_queuedTelemetry { display.session with calls := [] } hmem, rfl⟩
  | telemetryTimer surroundings =>
    cases hstep
    rcases sendTelemetryNow_queuedTelemetry { display.session with calls := [] } hmem with
      hold | hnew
    · exact .inl ⟨hold, rfl⟩
    · exact .inr ⟨surroundings, rfl, hnew⟩
  | pingTimer surroundings =>
    cases hstep
    exact .inl ⟨sendPing_queuedTelemetry { display.session with calls := [] } hmem, rfl⟩
  | input emission =>
    cases hstep
    exact .inl ⟨submitInput_queuedTelemetry { display.session with calls := [] } hmem, rfl⟩
  | write =>
    cases hstep
    exact .inl ⟨write_queuedTelemetry { display.session with calls := [] } hmem, rfl⟩
  | setOutputSurface surface =>
    cases hstep
    exact .inl ⟨hmem, rfl⟩
  | codecCallback task =>
    rw [AndroidDisplay.step] at hstep
    split at hstep
    · cases hstep
      exact .inl ⟨hmem, rfl⟩
    · cases hstep
  | runTask platform =>
    obtain ⟨decoder, -, hafter⟩ := Option.map_eq_some_iff.mp hstep
    rw [← hafter] at hmem
    exact .inl ⟨hmem, rfl⟩

theorem SessionLocal.of_moves (h : SessionLocal session received)
    (hmoves : Moves more extra d.metrics.droppedFrames session next)
    (hdecoder : session.activeConfiguration.isSome = true → DecoderLocal session d received) :
    SessionLocal next (received ++ more) where
  total := by
    have hsession := h.total
    have htotal := hmoves.total
    rw [List.length_append]
    omega
  pending frame hframe := by
    rcases hmoves.pending frame hframe with hold | hnew
    · exact List.mem_append_left _ (h.pending frame hold)
    · exact List.mem_append_right _ hnew
  dropped := by
    rw [List.length_append]
    rcases hmoves.dropped with hsame | ⟨hactive, hle⟩
    · rw [hsame]
      exact h.dropped.trans (Nat.le_add_right _ _)
    · have hdropped := (hdecoder hactive).total
      have htotal := hmoves.total
      omega
  lastReleased := by
    rw [hmoves.lastReleased]
    exact h.lastReleased.imp_right (Known.append · more)

theorem DecoderLocal.of_moves {d' : AndroidMediaCodecVideoDecoder}
    (h : DecoderLocal session d received) (hsession : SessionLocal session received)
    (hmoves : Moves more extra d.metrics.droppedFrames session next)
    (hqueues : Queues extra d d') : DecoderLocal next d' (received ++ more) where
  total := by
    have hbefore := h.total
    have htotal := hmoves.total
    rw [frameTasks] at hbefore
    rw [frameTasks, hqueues.tasks, hqueues.dropped, hqueues.pipeline, List.countP_append,
      List.length_append]
    omega
  units unit hunit := by
    rw [hqueues.pipeline] at hunit
    exact (h.units unit hunit).append more
  tasks submission frame hmem := by
    rw [hqueues.tasks] at hmem
    rcases List.mem_append.mp hmem with hold | hnew
    · exact List.mem_append_left _ (h.tasks submission frame hold)
    · rcases hmoves.queued submission frame hnew with hpending | hreceived
      · exact List.mem_append_left _ (hsession.pending frame hpending)
      · exact List.mem_append_right _ hreceived
  lastReleased frameId hlast := by
    rw [hqueues.lastReleased] at hlast
    exact (h.lastReleased frameId hlast).append more

theorem DecoderLocal.of_clean (hclean : isClean d)
    (hsession : SessionLocal session received) : DecoderLocal session d received := by
  obtain ⟨hlast, hdropped, hdepth, htasks⟩ := hclean
  refine ⟨?_, ?_, ?_, ?_⟩
  · have htotal := hsession.total
    omega
  · have hunits : d.pipeline.units = [] := by
      rw [← List.length_eq_zero_iff, DecoderPipelineLedger.length_units]
      exact hdepth
    simp [hunits]
  · intro submission frame hmem
    rw [frameTasks, List.countP_eq_zero] at htasks
    exact absurd rfl (htasks _ hmem)
  · simp [hlast]

/-- Executing a task moves frames on, and counts none twice. -/
theorem DecoderLocal.execute {task : HandlerTask} {tasks : List HandlerTask}
    (platform : CodecPlatform) (htasks : d.tasks = task :: tasks)
    (h : DecoderLocal session d received) :
    DecoderLocal session ({ d with tasks }.execute platform task) received := by
  have hkept : ({ d with tasks }.execute platform task).tasks = tasks :=
    (execute_keeps platform { d with tasks } task).tasks
  have hflow := execute_flow platform { d with tasks } task
  have hknown (submission : Nat) (frame : LdflFrame) (hmem : .frame submission frame ∈ task :: tasks) :
      frame ∈ received := by
    rw [← htasks] at hmem
    exact h.tasks submission frame hmem
  refine ⟨?_, ?_, ?_, ?_⟩
  · have htotal := h.total
    have hdropped := hflow.dropped
    rw [frameTasks, htasks, List.countP_cons] at htotal
    rw [frameTasks, hkept]
    change _ ≤ d.metrics.droppedFrames + d.pipeline.depth + _ at hdropped
    omega
  · intro unit hunit
    rcases hflow.units unit hunit with hold | ⟨frame, htask, hid⟩
    · exact h.units unit hold
    · exact ⟨frame, hknown unit.1 frame (by simp [htask]), hid⟩
  · intro submission frame hmem
    rw [hkept] at hmem
    exact hknown submission frame (List.mem_cons_of_mem _ hmem)
  · intro frameId hlast
    rcases hflow.output with hsilent | ⟨-, unit, hshows⟩
    · rcases hsilent.lastReleased with hsame | hnone
      · exact h.lastReleased frameId (hsame ▸ hlast)
      · rw [hnone] at hlast
        cases hlast
    · rw [hshows.lastReleased] at hlast
      cases hlast
      exact h.units unit hshows.mem

theorem handleDecoderMetrics_counts (session : AndroidDisplaySession)
    (metrics : VideoDecoderMetrics) :
    (session.handleDecoderMetrics metrics).activeConfiguration = session.activeConfiguration ∧
      (session.handleDecoderMetrics metrics).localDroppedVideoFrames =
        session.localDroppedVideoFrames ∧
      (session.handleDecoderMetrics metrics).pendingSurfaceFrames = session.pendingSurfaceFrames := by
  rw [handleDecoderMetrics]
  split
  · simp only
    split <;> exact ⟨rfl, rfl, rfl⟩
  · exact ⟨rfl, rfl, rfl⟩

theorem handleDecoderMetrics_local (h : SessionLocal session received)
    (hdecoder : session.activeConfiguration.isSome = true → DecoderLocal session d received) :
    SessionLocal (session.handleDecoderMetrics d.metrics) received := by
  rw [handleDecoderMetrics]
  split
  · rename_i configuration hello hactive hhello
    have hlocal := hdecoder (by simp [hactive])
    have hrecorded : SessionLocal (session.recordDecoderMetrics d.metrics) received := by
      refine ⟨h.total, h.pending, ?_, ?_⟩
      · have hle : (session.recordDecoderMetrics d.metrics).metrics.droppedVideoFrames ≤
            session.localDroppedVideoFrames + d.metrics.droppedFrames := saturatingAddLong_le _ _
        have htotal := hlocal.total
        omega
      · cases hlast : d.metrics.lastReleasedFrameId with
        | none =>
          have hsame : (session.recordDecoderMetrics d.metrics).lastReleasedFrameId =
              session.lastReleasedFrameId := by
            simp [recordDecoderMetrics, hlast]
          rw [hsame]
          exact h.lastReleased
        | some frameId =>
          have hnew : (session.recordDecoderMetrics d.metrics).lastReleasedFrameId = frameId := by
            simp [recordDecoderMetrics, hlast]
          rw [hnew]
          exact .inr (hlocal.lastReleased frameId hlast)
    simp only
    split
    · exact { hrecorded with }
    · exact hrecorded
  · exact h

theorem Inv.telemetryLocal {h : TelemetryHistory} (hinv : Inv h)
    (hstep : h.display.step step = some after)
    (hsame : step.restarts = false → received = h.received ++ step.received) :
    TelemetryLocal ⟨after, received⟩ := by
  intro telemetry hmem
  have hgrows (hkeep : step.restarts = false)
      (hreport : (telemetry.frameId = 0 ∨ Known h.received telemetry.frameId) ∧
        telemetry.droppedFrames.toNat ≤ h.received.length) :
      (telemetry.frameId = 0 ∨ Known received telemetry.frameId) ∧
        telemetry.droppedFrames.toNat ≤ received.length := by
    rw [hsame hkeep]
    refine ⟨hreport.1.imp_right (Known.append · _), hreport.2.trans ?_⟩
    rw [List.length_append]
    exact Nat.le_add_right _ _
  rcases step_queuedTelemetry hstep hmem with ⟨hold, hkeep⟩ | ⟨surroundings, rfl, htelemetry⟩
  · exact hgrows hkeep (hinv.telemetry telemetry hold)
  · obtain ⟨hid, hdropped⟩ := telemetry_eq_ok htelemetry
    refine hgrows rfl ⟨?_, hdropped.trans hinv.session.dropped⟩
    rw [hid]
    exact hinv.session.lastReleased

theorem Inv.preserved {h next : TelemetryHistory} (hinv : Inv h) (hclean : h.StartsClean step)
    (hstep : h.step step = some next) : Inv next := by
  obtain ⟨after, hafter, rfl⟩ := Option.map_eq_some_iff.mp hstep
  have heffect := AndroidDisplay.step_effect hinv.isOpen hafter
  have hopen := heffect.open hinv.isOpen
  have htelemetry : TelemetryLocal
      ⟨after, if step.restarts then [] else h.received ++ step.received⟩ :=
    hinv.telemetryLocal hafter fun hsame => if_neg (by simp [hsame])
  cases heffect with
  | kept extra hnone hsame hpicture hmoves hqueues hextra hseen =>
    simp only [hsame, Bool.false_eq_true, if_false] at htelemetry ⊢
    refine ⟨hopen, hinv.session.of_moves hmoves hinv.decoder, ?_, htelemetry⟩
    intro hactive
    rw [hpicture.activeConfiguration] at hactive
    exact (hinv.decoder hactive).of_moves hinv.session hmoves hqueues
  | ended extra hnone hsame hends hmoves hqueues hseen =>
    simp only [hsame, Bool.false_eq_true, if_false] at htelemetry ⊢
    refine ⟨hopen, hinv.session.of_moves hmoves hinv.decoder, ?_, htelemetry⟩
    simp [hends.activeConfiguration]
  | restarted extra hnone hrestarts hqueues hseen =>
    refine ⟨hopen, ⟨?_, ?_, ?_, .inl hrestarts.lastReleasedFrameId⟩, ?_, htelemetry⟩
    · simp [hrestarts.localDroppedVideoFrames, hrestarts.pendingSurfaceFrames]
    · simp [hrestarts.pendingSurfaceFrames]
    · simp [hrestarts.droppedVideoFrames]
    · simp [hrestarts.activeConfiguration]
  | configured configuration haccepts hsame hcodec hconfigured hqueues hseen =>
    have hmoves : Moves step.received [.applyConfiguration configuration]
        h.display.decoder.metrics.droppedFrames h.display.session after.session := by
      refine ⟨?_, ?_, by simp, hconfigured.lastReleasedFrameId,
        .inl hconfigured.droppedVideoFrames⟩
      · rw [hconfigured.localDroppedVideoFrames, hconfigured.pendingSurfaceFrames]
        simp [HandlerTask.isFrame]
        omega
      · simp [hconfigured.pendingSurfaceFrames]
    simp only [hsame, Bool.false_eq_true, if_false] at htelemetry ⊢
    refine ⟨hopen, hinv.session.of_moves hmoves hinv.decoder, ?_, htelemetry⟩
    intro _
    refine DecoderLocal.of_moves ?_ hinv.session hmoves hqueues
    by_cases hactive : h.display.session.activeConfiguration = none
    · exact .of_clean (hclean (by simp [haccepts]) hactive) hinv.session
    · exact hinv.decoder (Option.isSome_iff_ne_none.mpr hactive)
  | stateHandled extra hnone hsame hhandled hmoves hqueues hseen =>
    simp only [hsame, Bool.false_eq_true, if_false] at htelemetry ⊢
    refine ⟨hopen, hinv.session.of_moves hmoves hinv.decoder, ?_, htelemetry⟩
    intro hactive
    rw [hhandled.activeConfiguration] at hactive
    exact (hinv.decoder hactive).of_moves hinv.session hmoves hqueues
  | metricsHandled hmetrics hsession hdecoder hseen =>
    subst hmetrics
    simp only [DisplayStep.restarts, DisplayStep.received, Bool.false_eq_true, if_false,
      List.append_nil] at htelemetry ⊢
    have hstart : SessionLocal { h.display.session with calls := [] } h.received :=
      { hinv.session with }
    have hdecoderLocal (hactive : h.display.session.activeConfiguration.isSome = true) :
        DecoderLocal { h.display.session with calls := [] } h.display.decoder h.received :=
      { hinv.decoder hactive with }
    obtain ⟨hactive, hlocal, hpending⟩ := handleDecoderMetrics_counts
      { h.display.session with calls := [] } h.display.decoder.metrics
    rw [← hsession] at hactive hlocal hpending
    refine ⟨hopen, ?_, ?_, htelemetry⟩
    · rw [hsession]
      exact handleDecoderMetrics_local hstart hdecoderLocal
    · intro hsome
      rw [hactive] at hsome
      have hbefore := hinv.decoder hsome
      simp only [hdecoder]
      refine { hbefore with total := ?_ }
      rw [hlocal, hpending]
      exact hbefore.total
  | ran platform task tasks hrun htasks hran =>
    subst hrun
    simp only [DisplayStep.restarts, DisplayStep.received, Bool.false_eq_true, if_false,
      List.append_nil] at htelemetry ⊢
    rw [hran] at hopen htelemetry ⊢
    exact ⟨hopen, hinv.session,
      fun hactive => (hinv.decoder hactive).execute platform htasks, htelemetry⟩

end Steps

theorem inv_new (localCapabilities : CapabilitiesPayload) (maxInFlightAccessUnits : Nat)
    (h : 0 < maxInFlightAccessUnits) : Inv (new localCapabilities maxInFlightAccessUnits h) := by
  refine ⟨AndroidDisplay.open_new _ _ h, ⟨Nat.le_refl _, ?_, Nat.le_refl _, .inl rfl⟩,
    Bool.noConfusion, ?_⟩
  · intro frame hframe
    cases hframe
  · intro telemetry hmem
    cases hmem

/-- Over any number of generations, reports speak of the generation that queued them. -/
theorem telemetry_local (localCapabilities : CapabilitiesPayload) {maxInFlightAccessUnits : Nat}
    (hcapacity : 0 < maxInFlightAccessUnits) {steps : List DisplayStep} {h : TelemetryHistory}
    (hclean : machine.Admits StartsClean (new localCapabilities maxInFlightAccessUnits hcapacity)
      steps)
    (hrun : machine.run (new localCapabilities maxInFlightAccessUnits hcapacity) steps = some h) :
    TelemetryLocal h :=
  (machine.run_invariant_of_admits StartsClean Inv
    (fun _ _ _ hinv hguard hstep => hinv.preserved hguard hstep) (inv_new _ _ hcapacity) hclean
    hrun).telemetry

def fullHd : TelemetryHistory := ⟨.fullHd, []⟩

/-- A connection that shows one keyframe. -/
def showKeyframe : List DisplayStep :=
  AndroidDisplay.firstConnection ++ DisplayStep.decodeKeyframe ++
    [.keyframeOutput, .runTask .working]

def reportedFrames (h : TelemetryHistory) : List UInt64 :=
  h.display.session.queuedTelemetry.map (·.frameId)

theorem telemetry_local_keyframe : ∃ h,
    machine.run fullHd (showKeyframe ++ [.decoderMetrics, .telemetryTimer .quiet]) = some h ∧
    h.reportedFrames = [3] ∧ h.received = [keyUnit] ∧ TelemetryLocal h := by
  have hreached : (machine.run fullHd
      (showKeyframe ++ [.decoderMetrics, .telemetryTimer .quiet])).any
      (fun h => h.reportedFrames = [3] ∧ h.received = [keyUnit]) = true := by
    decide +kernel
  obtain ⟨h, hrun, hend⟩ := (Option.any_eq_true _ _).mp hreached
  obtain ⟨hreported, hreceived⟩ := of_decide_eq_true hend
  exact ⟨h, hrun, hreported, hreceived, telemetry_local .fullHd _ (by decide +kernel) hrun⟩

/-- The writer fails before the accessory detaches, so the decoder is not reset for the next
host. -/
def reconnectAfterSendFailure : List DisplayStep :=
  showKeyframe ++ [.sendFailure 1 "USB write failed",
    .transport .quiet .android (.detached "LadoFlow Host")] ++ DisplayStep.connect ++
    [.decoderMetrics, .telemetryTimer .quiet]

/-- The second host is told that its frame 3 was released, and has sent none. -/
theorem telemetry_from_earlier_generation : ∃ h,
    machine.run fullHd reconnectAfterSendFailure = some h ∧ h.received = [] ∧
    h.reportedFrames = [3] ∧ ¬TelemetryLocal h := by
  have hreached : (machine.run fullHd reconnectAfterSendFailure).any
      (fun h => h.received = [] ∧ h.reportedFrames = [3]) = true := by
    decide +kernel
  obtain ⟨h, hrun, hend⟩ := (Option.any_eq_true _ _).mp hreached
  obtain ⟨hreceived, hreported⟩ := of_decide_eq_true hend
  refine ⟨h, hrun, hreceived, hreported, ?_⟩
  intro hlocal
  have hmem : (3 : UInt64) ∈ h.display.session.queuedTelemetry.map (·.frameId) := by
    rw [reportedFrames] at hreported
    simp [hreported]
  obtain ⟨telemetry, htelemetry, hid⟩ := List.mem_map.mp hmem
  rcases (hlocal telemetry htelemetry).1 with hzero | ⟨frame, hframe, -⟩
  · rw [hid] at hzero
    cases hzero
  · rw [hreceived] at hframe
    cases hframe

end TelemetryHistory

end LadoFlow.Android
