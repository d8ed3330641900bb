import LadoFlow.Android.SessionEffects
import LadoFlow.Host.InjectedInput
import LadoFlow.System.TouchStream

/-!
# Input that both endpoints negotiated

The display sends no input event whose family is outside one of the two masks, so the host never
ends a session over one. Sender and receiver compute the intersection on their own.
-/

namespace LadoFlow.Android.AndroidDisplaySession

open Framework

/-- The capabilities on both sides stay, or the host had not advertised any. -/
structure KeepsCapabilities (before after : AndroidDisplaySession) : Prop where
  localCapabilities : after.localCapabilities = before.localCapabilities
  remoteCapabilities : after.remoteCapabilities = before.remoteCapabilities ∨
    before.remoteCapabilities = none

section Handlers

variable (env : SessionEnvironment) (session : AndroidDisplaySession)

theorem KeepsCapabilities.refl : KeepsCapabilities session session := ⟨rfl, .inl rfl⟩

variable {session} in
theorem KeepsCapabilities.of_eq {after : AndroidDisplaySession}
    (hlocal : after.localCapabilities = session.localCapabilities)
    (hremote : after.remoteCapabilities = session.remoteCapabilities) :
    KeepsCapabilities session after := ⟨hlocal, .inl hremote⟩

variable {session} in
theorem KeepsCapabilities.trans {middle after : AndroidDisplaySession}
    (h : KeepsCapabilities session middle) (h' : KeepsCapabilities middle after) :
    KeepsCapabilities session after := by
  refine ⟨h'.localCapabilities.trans h.localCapabilities, ?_⟩
  cases h.remoteCapabilities with
  | inr hnone => exact .inr hnone
  | inl hsame =>
    cases h'.remoteCapabilities with
    | inl hsame' => exact .inl (hsame'.trans hsame)
    | inr hnone => exact .inr (hsame.symm.trans hnone)

theorem updateQueueDepthMetric_keepsCapabilities :
    KeepsCapabilities session (session.updateQueueDepthMetric env) := by
  obtain ⟨queueDepth, heq⟩ := updateQueueDepthMetric_eq env session
  rw [heq]
  exact .of_eq rfl rfl

theorem recordDroppedVideo_keepsCapabilities (count : Nat) :
    KeepsCapabilities session (session.recordDroppedVideo env count) := by
  rw [recordDroppedVideo]
  split
  · exact .refl session
  · exact .of_eq rfl rfl

theorem rejectProtocol_keepsCapabilities (code : Protocol.ErrorCode) (diagnostic : String) :
    KeepsCapabilities session (session.rejectProtocol env code diagnostic) := by
  obtain ⟨queueDepth, heq⟩ := updateQueueDepthMetric_eq env { session with
    activeConfiguration := none
    negotiated := false
    failed := true
    surfaceReady := false
    pendingSurfaceFrames := [] }
  simp only [rejectProtocol, heq]
  split
  · exact .of_eq rfl rfl
  · exact .of_eq rfl rfl

theorem finishNegotiationIfReady_keepsCapabilities :
    KeepsCapabilities session (session.finishNegotiationIfReady env) := by
  rw [finishNegotiationIfReady]
  split
  · split
    · exact rejectProtocol_keepsCapabilities env session _ _
    · exact .of_eq rfl rfl
  · exact .refl session

theorem handlePayload_keepsCapabilities (frame : LdflFrame) (payload : AnyPayload) :
    KeepsCapabilities session (session.handlePayload env frame payload) := by
  have hactive : ∀ name action, KeepsCapabilities session (action session) →
      KeepsCapabilities session (session.ifActive env name action) := by
    intro name action haction
    rw [ifActive]
    split
    · exact rejectProtocol_keepsCapabilities env session _ _
    · exact haction
  obtain ⟨messageType, value⟩ := payload
  cases messageType with
  | hello =>
    simp only [handlePayload, handleRemoteHello]
    split
    · exact rejectProtocol_keepsCapabilities env session _ _
    split
    · exact rejectProtocol_keepsCapabilities env session _ _
    split
    · exact rejectProtocol_keepsCapabilities env session _ _
    · apply KeepsCapabilities.trans ?_ (finishNegotiationIfReady_keepsCapabilities env _)
      exact .of_eq rfl rfl
  | capabilities =>
    simp only [handlePayload, handleRemoteCapabilities]
    split
    · exact rejectProtocol_keepsCapabilities env session _ _
    · rename_i hfirst
      simp only [not_or, Option.not_isSome_iff_eq_none] at hfirst
      apply KeepsCapabilities.trans ?_ (finishNegotiationIfReady_keepsCapabilities env _)
      exact ⟨rfl, .inr hfirst.2.2⟩
  | displayConfig =>
    simp only [handlePayload, handleDisplayConfiguration]
    split
    · split
      · exact rejectProtocol_keepsCapabilities env session _ _
      split
      · exact rejectProtocol_keepsCapabilities env session _ _
      split
      · exact .refl session
      · exact .of_eq rfl rfl
    · exact rejectProtocol_keepsCapabilities env session _ _
  | ping =>
    have hpong : KeepsCapabilities session (respondToPing env value session) := by
      simp only [respondToPing]
      split
      · exact .of_eq rfl rfl
      · exact .refl session
    exact hactive _ _ hpong
  | pong | telemetry => exact hactive _ _ (.refl session)
  | error => exact .of_eq rfl rfl
  | input | videoFrame =>
    rw [handlePayload]
    exact rejectProtocol_keepsCapabilities env session _ _

theorem handleMediaFrame_keepsCapabilities (frame : LdflFrame) :
    KeepsCapabilities session (session.handleMediaFrame env frame) := by
  rw [handleMediaFrame]
  split
  · exact .refl session
  split
  · exact rejectProtocol_keepsCapabilities env session _ _
  split
  · simp only [enqueueUntilSurfaceReady]
    have hdropped := recordDroppedVideo_keepsCapabilities env session
    split
    · apply KeepsCapabilities.trans ?_ (updateQueueDepthMetric_keepsCapabilities env _)
      exact ⟨(hdropped _).localCapabilities, (hdropped _).remoteCapabilities⟩
    split
    · exact hdropped 1
    split
    · apply KeepsCapabilities.trans ?_ (updateQueueDepthMetric_keepsCapabilities env _)
      exact ⟨(hdropped _).localCapabilities, (hdropped _).remoteCapabilities⟩
    · apply KeepsCapabilities.trans ?_ (updateQueueDepthMetric_keepsCapabilities env _)
      exact .of_eq rfl rfl
  · simp only
    split
    · exact .of_eq rfl rfl
    · apply KeepsCapabilities.trans ?_ (recordDroppedVideo_keepsCapabilities env _ 1)
      exact .of_eq rfl rfl

theorem handleInboundFrame_keepsCapabilities (frame : LdflFrame) :
    KeepsCapabilities session (session.handleInboundFrame env frame) := by
  have hstart : KeepsCapabilities session
      { session with inboundHighest := some frame.sequence } := .of_eq rfl rfl
  rw [handleInboundFrame]
  split
  · exact rejectProtocol_keepsCapabilities env session _ _
  simp only
  split
  · exact hstart.trans (handleMediaFrame_keepsCapabilities env _ frame)
  · apply hstart.trans
    rw [handleControlFrame]
    split
    · exact .refl _
    split
    · exact rejectProtocol_keepsCapabilities env _ _ _
    · exact handlePayload_keepsCapabilities env _ frame _

theorem drainLoop_keepsCapabilities (view : Nat → SessionEnvironment) (frames : List LdflFrame)
    (session : AndroidDisplaySession) (submitted : Nat) :
    KeepsCapabilities session (drainLoop view submitted frames session) := by
  induction frames generalizing session submitted with
  | nil =>
    rw [drainLoop]
    apply KeepsCapabilities.trans ?_ (updateQueueDepthMetric_keepsCapabilities _ _)
    exact .of_eq rfl rfl
  | cons frame frames ih =>
    have hrecord : KeepsCapabilities session (session.record (.submit frame)) := .of_eq rfl rfl
    rw [drainLoop]
    simp only
    split
    · exact hrecord.trans (ih _ _)
    · apply KeepsCapabilities.trans ?_ (updateQueueDepthMetric_keepsCapabilities _ _)
      have hdropped := hrecord.trans
        (recordDroppedVideo_keepsCapabilities (view (submitted + 1)) _ 1)
      exact ⟨hdropped.localCapabilities, hdropped.remoteCapabilities⟩

theorem handleDecoderState_keepsCapabilities (view : Nat → SessionEnvironment)
    (state : VideoDecoderState) :
    KeepsCapabilities session (session.handleDecoderState view state) := by
  have hdrain : ∀ shown, KeepsCapabilities session shown →
      KeepsCapabilities session (shown.drainPendingSurfaceFrames view) := by
    intro shown hshown
    rw [drainPendingSurfaceFrames]
    split
    · exact hshown.trans (drainLoop_keepsCapabilities view _ shown 0)
    · exact hshown.trans (updateQueueDepthMetric_keepsCapabilities _ _)
  rw [handleDecoderState]
  split
  · split
    · exact hdrain _ (.of_eq rfl rfl)
    · exact hdrain _ (.of_eq rfl rfl)
    · exact hdrain _ (.of_eq rfl rfl)
    · exact .of_eq rfl rfl
    · split
      · exact .of_eq rfl rfl
      · exact .of_eq rfl rfl
    · exact .of_eq rfl rfl
    · exact .refl session
    · exact .refl session
  · exact .refl session

/-- Only the Capabilities frame of the host changes what the session knows of it. -/
theorem callback_keepsCapabilities (step : SessionStep) :
    KeepsCapabilities session (session.callback step) := by
  cases step with
  | inboundFrame env frame => exact handleInboundFrame_keepsCapabilities env session frame
  | decoderEvent event =>
    cases event with
    | endOfStream =>
      simp only [callback, handleDecoderEvent]
      split
      · exact .of_eq rfl rfl
      · exact .of_eq rfl rfl
    | _ => exact .refl session
  | decoderMetrics metrics =>
    simp only [callback, handleDecoderMetrics]
    split
    · split
      · exact .of_eq rfl rfl
      · exact .of_eq rfl rfl
    · exact .refl session
  | decoderState view state => exact handleDecoderState_keepsCapabilities session view state
  | sendFailure generation reason =>
    simp only [callback, handleSendFailure]
    split
    · exact .of_eq rfl rfl
    · exact .refl session
  | telemetryTimer env =>
    have hdepth := updateQueueDepthMetric_keepsCapabilities env session
    simp only [callback, sendTelemetryNow]
    split
    · exact .refl session
    split
    · exact ⟨hdepth.localCapabilities, hdepth.remoteCapabilities⟩
    · exact hdepth
  | pingTimer env =>
    simp only [callback, sendPing]
    split
    · exact .refl session
    · exact .of_eq rfl rfl
  | input emission =>
    simp only [callback, submitInput]
    split
    · exact .refl session
    split
    · exact .of_eq rfl rfl
    split
    · exact .refl session
    · exact .of_eq rfl rfl
    · split
      · exact .of_eq rfl rfl
      · exact .of_eq rfl rfl
  | write =>
    simp only [callback]
    split
    · exact .of_eq rfl rfl
    · exact .refl session

end Handlers

end LadoFlow.Android.AndroidDisplaySession

namespace LadoFlow.System

open Framework
open LadoFlow.Protocol (Capabilities InputCapabilities InputEvent)
open LadoFlow.Host (InBoth requireNegotiatedInput requireNegotiatedInput_eq_ok HostConnection
  HostHandshake SharedState ConnectionEnvironment)
open LadoFlow.Transport (Packet)
open LadoFlow.Android (AndroidDisplaySession InputEventBody InputPayload CapabilitiesPayload
  LifetimeStep LdflFrame OutboundPayload SessionOutboundMux SessionEnvironment widen16 widenBits
  mask111)
open LadoFlow.Android.AndroidDisplaySession (KeepsCapabilities)

section Masks

theorem widen16_and (a b : UInt16) : widen16 (a &&& b) = widen16 a &&& widen16 b := by
  apply Int32.toBitVec_inj.mp
  change (a.toBitVec &&& b.toBitVec).setWidth 32 =
    a.toBitVec.setWidth 32 &&& b.toBitVec.setWidth 32
  exact BitVec.setWidth_and

theorem widenBits_contains (set other : InputCapabilities) :
    (widenBits mask111 set).contains (widenBits mask111 other) = set.contains other := by
  simp only [BitSet.contains, widenBits, ← widen16_and, Android.widen16_inj]

/-- The filter of the display and the gate of the host are the same table. -/
theorem isSupportedBy_iff (negotiated : InputCapabilities) (event : InputEvent) :
    (InputEventBody.ofKind event.kind).isSupportedBy (widenBits mask111 negotiated) = true ↔
      requireNegotiatedInput event negotiated = .ok () := by
  have hpointer : Android.InputCapabilities.pointer =
      widenBits mask111 Protocol.InputCapabilities.pointer := rfl
  have htouch : Android.InputCapabilities.touch =
      widenBits mask111 Protocol.InputCapabilities.touch := rfl
  have hkeyboard : Android.InputCapabilities.keyboard =
      widenBits mask111 Protocol.InputCapabilities.keyboard := rfl
  have hnone : widenBits mask111 negotiated ≠ Android.InputCapabilities.none ↔
      negotiated.bits ≠ 0 := by
    rw [not_iff_not]
    constructor
    · intro h
      exact (Android.widen16_inj (b := 0)).mp (congrArg BitSet.bits h)
    · intro h
      have hzero : (widenBits mask111 negotiated).bits = 0 :=
        (Android.widen16_inj (b := 0)).mpr h
      exact BitSet.ext hzero
  rw [requireNegotiatedInput]
  cases event.kind with
  | pointerMove | pointerButton | wheel =>
    simp [InputEventBody.ofKind, InputEventBody.isSupportedBy, hpointer, widenBits_contains]
  | key => simp [InputEventBody.ofKind, InputEventBody.isSupportedBy, hkeyboard, widenBits_contains]
  | touch => simp [InputEventBody.ofKind, InputEventBody.isSupportedBy, htouch, widenBits_contains]
  | focus =>
    simp only [InputEventBody.ofKind, InputEventBody.isSupportedBy, decide_eq_true_eq, hnone]
    simp

/-- The intersection that the display computes is the one of the host. -/
theorem negotiatedInput_eq {session : AndroidDisplaySession} {host display : Capabilities}
    {negotiated : InputCapabilities}
    (hbits : negotiated.bits = host.input.bits &&& display.input.bits)
    (hlocal : session.localCapabilities = .ofCapabilities display)
    (hremote : session.remoteCapabilities = some (.ofCapabilities host)) :
    session.negotiatedInput = some (widenBits mask111 negotiated) := by
  have hwide : session.localCapabilities.input.bits &&&
      (CapabilitiesPayload.ofCapabilities host).input.bits =
        (widenBits mask111 negotiated).bits := by
    rw [hlocal]
    show widen16 display.input.bits &&& widen16 host.input.bits = widen16 negotiated.bits
    rw [← widen16_and, hbits, UInt16.and_comm]
  rw [AndroidDisplaySession.negotiatedInput, hremote, Option.bind_some,
    Android.InputCapabilities.fromBits, BitSet.ofBits_eq_ok.mpr hwide]
  rfl

end Masks

/-- Everything that waits for the writer. -/
def waiting (mux : SessionOutboundMux) : List OutboundPayload :=
  mux.control ++ mux.criticalInput ++ mux.coalescibleInput

def queued (session : AndroidDisplaySession) : List OutboundPayload :=
  (session.outbound.map waiting).getD []

/-- The frame that a step hands to the transport. -/
def emittedFrame (session : AndroidDisplaySession) : LifetimeStep → Option LdflFrame
  | .callback .write =>
    match session.outbound.bind (·.writeNext) with
    | some (.ok frame, _) => some frame
    | _ => none
  | _ => none

/-- The life of a display session, with its written frames. Each frame stands with the host
capabilities of its generation. -/
structure EmittedInput where
  session : AndroidDisplaySession
  written : List (LdflFrame × Option CapabilitiesPayload)

namespace EmittedInput

def start (capabilities : CapabilitiesPayload) : EmittedInput := ⟨.new capabilities, []⟩

def advance (e : EmittedInput) (step : LifetimeStep) : EmittedInput where
  session := e.session.advance step
  written := e.written ++ (emittedFrame e.session step).toList.map fun frame =>
    (frame, e.session.remoteCapabilities)

def machine : Machine EmittedInput LifetimeStep where
  step e step := some (e.advance step)

end EmittedInput

/-- An input payload that the session may send, or a payload of another family. -/
def Supported (session : AndroidDisplaySession) (outbound : OutboundPayload) : Prop :=
  outbound.payload.messageType = .input → ∃ payload : InputPayload,
    outbound = ⟨⟨.input, payload⟩, .none⟩ ∧
    session.negotiatedInput.any (payload.event.isSupportedBy ·) = true

section Queue

variable {session after : AndroidDisplaySession} {outbound : OutboundPayload}

theorem supported_other (h : outbound.payload.messageType ≠ .input) : Supported session outbound :=
  fun hinput => absurd hinput h

theorem Supported.keep (h : Supported session outbound) (hkeeps : KeepsCapabilities session after) :
    Supported after outbound := by
  intro hinput
  obtain ⟨payload, heq, hsupported⟩ := h hinput
  refine ⟨payload, heq, ?_⟩
  cases hkeeps.remoteCapabilities with
  | inl hsame =>
    rw [AndroidDisplaySession.negotiatedInput, hsame, hkeeps.localCapabilities]
    exact hsupported
  | inr hnone =>
    rw [AndroidDisplaySession.negotiatedInput, hnone] at hsupported
    cases hsupported

theorem receiveNext_waiting {mux taken : SessionOutboundMux}
    (h : mux.receiveNext = some (outbound, taken)) : outbound ∈ waiting mux ∧
      ∀ other ∈ waiting taken, other ∈ waiting mux := by
  rw [SessionOutboundMux.receiveNext] at h
  split at h
  · rename_i hcontrol
    cases h
    simp only [waiting, hcontrol]
    constructor
    · simp
    · intro other hother
      simpa using Or.inr (by simpa using hother)
  · rename_i hcontrol hcritical
    cases h
    simp only [waiting, hcontrol, hcritical]
    constructor
    · simp
    · intro other hother
      simpa using Or.inr (by simpa using hother)
  · rename_i hcontrol hcritical hmotion
    cases h
    simp only [waiting, hcontrol, hcritical, hmotion]
    constructor
    · simp
    · intro other hother
      simpa using Or.inr (by simpa using hother)
  · cases h

/-- The writer only takes from the lanes, and frames what it takes. -/
theorem writeNext_waiting {mux next : SessionOutboundMux} {result : Except String LdflFrame}
    (h : mux.writeNext = some (result, next)) :
    (∀ other ∈ waiting next, other ∈ waiting mux) ∧ ∀ frame, result = .ok frame →
      ∃ outbound ∈ waiting mux, ∃ sequence,
        LdflFrame.fromPayload outbound.flags sequence outbound.payload = .ok frame := by
  cases hexhausted : mux.sequenceExhausted with
  | true =>
    obtain ⟨-, error, herror⟩ := writeNext_exhausted h hexhausted
    rw [SessionOutboundMux.writeNext] at h
    split at h
    · cases h
    · rename_i outbound taken hreceive
      have hlanes := (receiveNext_waiting hreceive).2
      have hsame : waiting next = waiting taken := by
        split at h
        · cases h
          rfl
        · simp only at h
          split at h <;> split at h <;> cases h <;> rfl
      refine ⟨hsame ▸ hlanes, ?_⟩
      intro frame hframe
      rw [herror] at hframe
      cases hframe
  | false =>
    obtain ⟨outbound, taken, sequence, hreceive, hsame, hresult⟩ := writeNext_fresh h hexhausted
    obtain ⟨hmem, hlanes⟩ := receiveNext_waiting hreceive
    have hwaiting : waiting next = waiting taken := by
      rw [waiting, hsame.control, hsame.criticalInput, hsame.coalescibleInput]
      rfl
    refine ⟨hwaiting ▸ hlanes, ?_⟩
    intro frame hframe
    refine ⟨outbound, hmem, sequence, ?_⟩
    rw [hframe] at hresult
    split at hresult
    · rename_i built hbuilt
      cases hresult
      exact hbuilt
    · cases hresult

open LadoFlow.Android.AndroidDisplaySession (Appends)

variable (session) in
/-- A callback queues an input event only after its check. -/
theorem callback_queued (step : Android.SessionStep) :
    ∀ outbound ∈ queued (session.callback step),
      outbound ∈ queued session ∨ Supported session outbound := by
  intro outbound hmem
  by_cases hhandler : TouchStream.isHandler step = true
  · obtain ⟨extra, hextra, hother⟩ := handler_appends session hhandler
    rw [queued, hextra] at hmem
    cases houtbound : session.outbound with
    | none =>
      rw [houtbound] at hmem
      cases hmem
    | some mux =>
      rw [houtbound] at hmem
      have hsplit : outbound ∈ waiting mux ∨ outbound ∈ extra := by
        simp only [Option.map_some, Option.getD_some, waiting, List.mem_append] at hmem ⊢
        tauto
      cases hsplit with
      | inl hold =>
        left
        rw [queued, houtbound]
        exact hold
      | inr hnew => exact .inr (supported_other (hother outbound hnew))
  cases step with
  | input emission =>
    cases hpasses : passes session emission with
    | false =>
      left
      rwa [queued, show (session.callback (.input emission)).outbound = session.outbound from
        submitInput_blocked session emission hpasses] at hmem
    | true =>
      obtain ⟨mux, houtbound, hafter⟩ := submitInput_passed session emission hpasses
      have hchecked : session.negotiatedInput.any
          (emission.payload.event.isSupportedBy ·) = true := by
        simp only [passes, Bool.and_eq_true] at hpasses
        exact hpasses.1.2
      have hsplit : outbound ∈ waiting mux ∨ outbound = ⟨⟨.input, emission.payload⟩, .none⟩ := by
        rw [queued, show (session.callback (.input emission)).outbound = _ from hafter] at hmem
        cases hdelivery : emission.delivery with
        | critical =>
          simp only [hdelivery, Option.map_some, Option.getD_some, waiting,
            SessionOutboundMux.sendCriticalInput, List.mem_append, List.mem_singleton] at hmem ⊢
          tauto
        | coalescible =>
          simp only [hdelivery, Option.map_some, Option.getD_some, waiting, List.mem_append,
            List.mem_singleton] at hmem ⊢
          tauto
      cases hsplit with
      | inl hold =>
        left
        rw [queued, houtbound]
        exact hold
      | inr hnew =>
        right
        intro hinput
        exact ⟨emission.payload, hnew, hchecked⟩
  | write =>
    left
    simp only [AndroidDisplaySession.callback] at hmem
    split at hmem
    · rename_i result next hwrite
      obtain ⟨mux, houtbound, hwrite⟩ := Option.bind_eq_some_iff.mp hwrite
      rw [queued, houtbound]
      exact (writeNext_waiting hwrite).1 outbound hmem
    · exact hmem
  | _ => exact absurd rfl hhandler

variable (session) in
/-- A protocol reset forgets the lanes, and a generation starts with control payloads only. -/
theorem handleTransportState_queued (env : SessionEnvironment)
    (identity : AndroidDisplaySession.Identity) (state : Android.UsbTransportState) :
    (session.handleTransportState env identity state).localCapabilities =
        session.localCapabilities ∧
      ((session.handleTransportState env identity state).remoteCapabilities =
          session.remoteCapabilities ∧
        queued (session.handleTransportState env identity state) = queued session ∨
      ∀ outbound ∈ queued (session.handleTransportState env identity state),
        outbound.payload.messageType ≠ .input) := by
  have hreset : ∀ reason, (session.resetProtocol env reason).localCapabilities =
      session.localCapabilities ∧ (session.resetProtocol env reason).outbound = none := by
    intro reason
    simp only [AndroidDisplaySession.resetProtocol]
    split
    · exact ⟨rfl, rfl⟩
    · exact ⟨rfl, rfl⟩
  have hstopped : ∀ reason (after : AndroidDisplaySession),
      after.localCapabilities = (session.resetProtocol env reason).localCapabilities →
      after.outbound = (session.resetProtocol env reason).outbound →
      after.localCapabilities = session.localCapabilities ∧
        (after.remoteCapabilities = session.remoteCapabilities ∧ queued after = queued session ∨
          ∀ outbound ∈ queued after, outbound.payload.messageType ≠ .input) := by
    intro reason after hlocal houtbound
    refine ⟨hlocal.trans (hreset reason).1, .inr ?_⟩
    rw [queued, houtbound, (hreset reason).2]
    intro outbound hmem
    cases hmem
  have hbegins : ∀ name, (session.beginHandshake env name identity.nonce
        identity.implementationName).localCapabilities = session.localCapabilities ∧
      ∀ outbound ∈ queued (session.beginHandshake env name identity.nonce
        identity.implementationName), outbound.payload.messageType ≠ .input := by
    intro name
    constructor
    · have hlocal := (hreset "Starting a new LDFL generation").1
      simp only [AndroidDisplaySession.beginHandshake]
      split
      · simpa [AndroidDisplaySession.failLocal, AndroidDisplaySession.record] using hlocal
      split
      · exact hlocal
      · exact hlocal
    · obtain ⟨mux, houtbound, hcritical, hmotion, hcontrol⟩ :=
        TouchStream.beginHandshake_lanes session env name identity
      rw [queued, houtbound, Option.map_some, Option.getD_some, waiting, hcritical, hmotion,
        List.append_nil, List.append_nil]
      exact hcontrol
  cases state with
  | opening displayName => exact ⟨rfl, .inl ⟨rfl, rfl⟩⟩
  | connected | tetherConnected => exact ⟨(hbegins _).1, .inr (hbegins _).2⟩
  | _ => exact hstopped _ _ rfl rfl

end Queue

namespace EmittedInput

open LadoFlow.Host (UsbControl ControlEnvironment frameOf)
open LadoFlow.Host.HostConnection (advertisedIn injectedIn)
open LadoFlow.Protocol (Frame)

variable {display : Capabilities} {e : EmittedInput}

/-- The lanes hold supported input only, so every written input frame passes the gate of a host
with the capabilities of its generation. -/
structure Inv (display : Capabilities) (e : EmittedInput) : Prop where
  localCapabilities : e.session.localCapabilities = .ofCapabilities display
  queued : ∀ outbound ∈ queued e.session, Supported e.session outbound
  written : ∀ frame host (negotiated : InputCapabilities),
    (frame, some (CapabilitiesPayload.ofCapabilities host)) ∈ e.written →
    negotiated.bits = host.input.bits &&& display.input.bits → frame.messageType = .input →
    ∃ event, received frame = some event ∧ requireNegotiatedInput event negotiated = .ok ()

theorem inv_start (display : Capabilities) : Inv display (start (.ofCapabilities display)) where
  localCapabilities := rfl
  queued _ hmem := absurd hmem List.not_mem_nil
  written _ _ _ hmem := absurd hmem List.not_mem_nil

theorem Inv.emitted (h : Inv display e) {step : LifetimeStep} {frame : LdflFrame}
    (hemitted : emittedFrame e.session step = some frame) {host : Capabilities}
    (hremote : e.session.remoteCapabilities = some (.ofCapabilities host))
    {negotiated : InputCapabilities}
    (hbits : negotiated.bits = host.input.bits &&& display.input.bits)
    (hinput : frame.messageType = .input) :
    ∃ event, received frame = some event ∧ requireNegotiatedInput event negotiated = .ok () := by
  rw [emittedFrame.eq_def] at hemitted
  split at hemitted
  · split at hemitted
    · rename_i written next hwrite
      cases hemitted
      obtain ⟨mux, houtbound, hwrite⟩ := Option.bind_eq_some_iff.mp hwrite
      obtain ⟨outbound, hmem, sequence, hframed⟩ := (writeNext_waiting hwrite).2 frame rfl
      have hqueued : outbound ∈ System.queued e.session := by
        rw [System.queued, houtbound]
        exact hmem
      rw [messageType_of_fromPayload hframed] at hinput
      obtain ⟨payload, rfl, hsupported⟩ := h.queued outbound hqueued hinput
      obtain ⟨event, rfl⟩ := InputPayload.ofInputEvent_bijective.2 payload
      obtain ⟨built, hbuilt, hreceived⟩ := received_input event sequence
      cases hframed.symm.trans hbuilt
      refine ⟨event, hreceived, ?_⟩
      rw [negotiatedInput_eq hbits h.localCapabilities hremote] at hsupported
      exact (isSupportedBy_iff negotiated event).mp hsupported
    · cases hemitted
  · cases hemitted

theorem Inv.advance (h : Inv display e) (step : LifetimeStep) : Inv display (e.advance step) := by
  have hsession : (e.session.advance step).localCapabilities = e.session.localCapabilities ∧
      ∀ outbound ∈ System.queued (e.session.advance step),
        Supported (e.session.advance step) outbound := by
    cases step with
    | transport env identity state =>
      obtain ⟨hlocal, hkeeps⟩ := handleTransportState_queued e.session env identity state
      refine ⟨hlocal, ?_⟩
      intro outbound hmem
      cases hkeeps with
      | inl hsame =>
        have hold : outbound ∈ System.queued e.session := hsame.2 ▸ hmem
        exact (h.queued outbound hold).keep (.of_eq hlocal hsame.1)
      | inr hother => exact supported_other (hother outbound hmem)
    | callback step =>
      have hkeeps := AndroidDisplaySession.callback_keepsCapabilities e.session step
      refine ⟨hkeeps.localCapabilities, ?_⟩
      intro outbound hmem
      cases callback_queued e.session step outbound hmem with
      | inl hold => exact (h.queued outbound hold).keep hkeeps
      | inr hnew => exact hnew.keep hkeeps
  refine ⟨hsession.1.trans h.localCapabilities, hsession.2, ?_⟩
  intro frame host negotiated hmem hbits hinput
  rcases List.mem_append.mp hmem with hold | hnew
  · exact h.written frame host negotiated hold hbits hinput
  · obtain ⟨emitted, hemitted, heq⟩ := List.mem_map.mp hnew
    obtain ⟨rfl, hremote⟩ := Prod.mk.inj heq
    exact h.emitted (Option.mem_toList.mp hemitted) hremote hbits hinput

/-- The host injects only events whose family both endpoints advertised. The display that it talks
to writes no other input, so the host hands every input frame of that display to the injector. -/
theorem input_negotiated {handshake : HostHandshake} {shared : SharedState}
    {deliveries : List (ConnectionEnvironment × Packet)} {c : HostConnection}
    (hfresh : handshake.displayCapabilities = none)
    (hrun : HostConnection.machine.run (.start handshake shared) deliveries = some c) :
    (∀ event ∈ injectedIn c.actions, ∃ display, advertisedIn c.actions = [display] ∧
      InBoth handshake.hostCapabilities.input display.input event.kind) ∧
    ∀ inputCapabilities nextSequence, c.phase = .active inputCapabilities nextSequence →
      ∃ display, advertisedIn c.actions = [display] ∧
        ∀ steps e, machine.run (start (.ofCapabilities display)) steps = some e →
        ∀ frame : Frame, (Android.FrameCodec.ofFrame frame,
            some (CapabilitiesPayload.ofCapabilities handshake.hostCapabilities)) ∈ e.written →
        frame.header.kind = .input →
        ∃ event, frame.decodePayload InputEvent = .ok event ∧
          InBoth handshake.hostCapabilities.input display.input event.kind ∧
          ∀ (env : ControlEnvironment) (control : UsbControl),
            (control.applyInput env inputCapabilities frame).2 =
              control.record frame.header.sequence (.injectInput event) := by
  have hgated := HostConnection.gated_run hfresh hrun
  refine ⟨hgated.injected, ?_⟩
  intro inputCapabilities nextSequence hactive
  obtain ⟨display, hadvertised, hbits⟩ := hgated.active inputCapabilities nextSequence hactive
  refine ⟨display, hadvertised, ?_⟩
  intro steps e hemits frame hmem hinput
  have hinv : Inv display e := machine.run_invariant (Inv display)
    (fun _ step _ h hstep => Option.some.inj hstep ▸ h.advance step) (inv_start display) hemits
  obtain ⟨event, hreceived, hrequired⟩ :=
    hinv.written _ handshake.hostCapabilities inputCapabilities hmem hbits hinput
  have hdecoded : frame.decodePayload InputEvent = .ok event := by
    rw [received_ofFrame] at hreceived
    exact toOption_eq_some.mp hreceived
  refine ⟨event, hdecoded, (requireNegotiatedInput_eq_ok hbits event).mp hrequired, ?_⟩
  intro env control
  rw [UsbControl.applyInput, hdecoded]
  simp only [Host.liftProtocol, hrequired]
  cases env.inject event with
  | error error => rfl
  | ok done => rfl

section Runs

open LadoFlow.Android (AndroidInputEmission)
open LadoFlow.Host (largeDisplay controlPacket)
open LadoFlow.Host.HostConnection (introduction working negotiating fullHdHandshake)

theorem tap_valid : (Protocol.InputEventKind.touch 0 .begin 100 200 30000).validate = .ok () := rfl

def tap : InputEvent := ⟨20, .touch 0 .begin 100 200 30000, tap_valid⟩

/-- The host negotiates with a display, which connects and then submits the input twice: once as a
touch and once as a key that is not negotiated. -/
def tapping (host : Capabilities) : List LifetimeStep :=
  .transport .fresh .android (.connected "Host") ::
    ([(0, ⟨.hello, Android.HelloPayload.host⟩), (1, ⟨.capabilities, .ofCapabilities host⟩),
      (2, ⟨.displayConfig, Android.DisplayConfigPayload.hd⟩)].filterMap
        fun (sequence, payload) => (LdflFrame.fromPayload .none sequence payload).toOption).map
      (fun frame => .callback (.inboundFrame .fresh frame)) ++
    [.callback (.decoderState (fun _ => .fresh) (.awaitingKeyframe .hd)), .callback .write,
      .callback .write, .callback (.input ⟨.ofInputEvent tap, .critical⟩), .callback .write]

/-- The connection of a host with this display, up to its first touch. -/
def tapped : List (ConnectionEnvironment × Packet) :=
  introduction ++ ([controlPacket 10 tap].filterMap (·.toOption)).map (working, ·)

/-- The frame of the touch. -/
def tapFrame : Option Frame := (Frame.fromPayload Protocol.FrameFlags.none 2 tap).toOption

/-- The input that an active connection takes, and its next sequence. -/
def activeInput (c : HostConnection) : Option (InputCapabilities × UInt64) :=
  match c.phase with
  | .active inputCapabilities nextSequence => some (inputCapabilities, nextSequence)
  | _ => none

theorem activeInput_eq_some {c : HostConnection} {active : InputCapabilities × UInt64}
    (h : activeInput c = some active) : c.phase = .active active.1 active.2 := by
  rw [activeInput] at h
  split at h
  · rename_i hphase
    cases h
    exact hphase
  · cases h

theorem input_negotiated_tap : ∃ handshake c e frame event,
    fullHdHandshake = .ok handshake ∧
    HostConnection.machine.run (.start handshake negotiating) tapped = some c ∧
    injectedIn c.actions = [tap] ∧
    machine.run (start (.ofCapabilities largeDisplay)) (tapping handshake.hostCapabilities) =
      some e ∧
    (Android.FrameCodec.ofFrame frame,
      some (CapabilitiesPayload.ofCapabilities handshake.hostCapabilities)) ∈ e.written ∧
    frame.decodePayload InputEvent = .ok event ∧
    InBoth handshake.hostCapabilities.input largeDisplay.input event.kind := by
  have hreached : fullHdHandshake.toOption.any (fun handshake =>
      decide (handshake.displayCapabilities = none) &&
      ((HostConnection.machine.run (.start handshake negotiating) tapped).any (fun c =>
        decide (injectedIn c.actions = [tap] ∧ advertisedIn c.actions = [largeDisplay]) &&
        (activeInput c).isSome) &&
      (machine.run (start (.ofCapabilities largeDisplay))
          (tapping handshake.hostCapabilities)).any fun e => tapFrame.any fun frame =>
        decide (frame.header.kind = .input ∧ (Android.FrameCodec.ofFrame frame,
          some (CapabilitiesPayload.ofCapabilities handshake.hostCapabilities)) ∈ e.written))) =
      true := by
    decide +kernel
  obtain ⟨handshake, hwith, hreached⟩ := (Option.any_eq_true _ _).mp hreached
  simp only [Bool.and_eq_true] at hreached
  obtain ⟨hfresh, hhost, hdisplay⟩ := hreached
  obtain ⟨c, hrun, hc⟩ := (Option.any_eq_true _ _).mp hhost
  obtain ⟨e, hemits, he⟩ := (Option.any_eq_true _ _).mp hdisplay
  obtain ⟨frame, -, hframe⟩ := (Option.any_eq_true _ _).mp he
  obtain ⟨hactions, hactive⟩ := (Bool.and_eq_true _ _).mp hc
  obtain ⟨hinjected, hadvertised⟩ := of_decide_eq_true hactions
  obtain ⟨hinput, hwritten⟩ := of_decide_eq_true hframe
  obtain ⟨active, hactive⟩ := Option.isSome_iff_exists.mp hactive
  obtain ⟨display, hadvertised', hemitted⟩ :=
    (input_negotiated (of_decide_eq_true hfresh) hrun).2 active.1 active.2
      (activeInput_eq_some hactive)
  cases hadvertised.symm.trans hadvertised'
  obtain ⟨event, hdecoded, hboth, -⟩ := hemitted _ e hemits frame hwritten hinput
  exact ⟨handshake, c, e, frame, event, toOption_eq_some.mp hwith, hrun, hinjected, hemits,
    hwritten, hdecoded, hboth⟩

end Runs

end EmittedInput

end LadoFlow.System
