import LadoFlow.Android.InputController
import LadoFlow.Android.SessionFailure
import LadoFlow.Host.InputInjector

/-!
# Touches from the display to the host

The input controller, the session with its gate and its outbound lanes, and the native controller of
the host. The link is a queue, so a frame is handled by the host when the writer sends it. Begin,
End, Cancel and focus travel in the critical lane and overtake the motion in the other.
-/

namespace LadoFlow.System

open Framework
open LadoFlow.Protocol (Contact TouchSignal ContactAutomaton.run ContactAutomaton.step InputEvent
  InputEventKind Frame)
open LadoFlow.Host (NativeInputController CoordinateMapper OsCall)
open LadoFlow.Android (AndroidDisplaySession AndroidInputController AndroidInputEmission
  OutboundPayload SessionOutboundMux SessionEnvironment SessionStep LdflFrame RemoteViewport
  CollaboratorCall MotionEvent InputEventBody coalescibleInputCapacity signed unsigned widen16)

/-- The picture from which a mapper takes its source coordinates. -/
def pictureOf (mapper : CoordinateMapper) : RemoteViewport where
  codedWidth := widen16 mapper.sourceWidth
  codedHeight := widen16 mapper.sourceHeight
  width_range := by
    have hvalid := mapper.valid
    simp only [CoordinateMapper.validate, ite_error_eq_ok, not_or] at hvalid
    exact ⟨Android.one_le_widen16.mpr hvalid.1.1, Android.widen16_le_max _⟩
  height_range := by
    have hvalid := mapper.valid
    simp only [CoordinateMapper.validate, ite_error_eq_ok, not_or] at hvalid
    exact ⟨Android.one_le_widen16.mpr hvalid.1.2, Android.widen16_le_max _⟩

/-- Windows accepts every injection. -/
def accepting : OsCall → Except String Unit := fun _ => .ok ()

/-- The input event that the host reads from a frame of the display. -/
def received (frame : LdflFrame) : Option InputEvent :=
  match Android.FrameCodec.encode frame with
  | .error _ => none
  | .ok bytes =>
    match Frame.decodePrefix (unsigned bytes) with
    | .ok (.complete frame _) => (frame.decodePayload InputEvent).toOption
    | _ => none

/-- What a queued payload says about contacts. -/
def payloadSignal (outbound : OutboundPayload) : TouchSignal :=
  match outbound.payload with
  | ⟨.input, payload⟩ => payload.event.signal
  | _ => .other

def isTouch : InputEventKind → Bool
  | .touch .. => true
  | _ => false

def failed {α : Type} : Except String α → Bool
  | .ok _ => false
  | .error _ => true

/-- `announced` holds the contacts that the display has opened and not closed by what it passed to
its lanes, `refused` the touches that the host did not accept. -/
structure TouchStream where
  session : AndroidDisplaySession
  input : AndroidInputController
  announced : Finset Contact
  host : NativeInputController
  refused : List InputEvent

inductive TouchStep where
  | motion (viewWidth viewHeight : Int32) (event : MotionEvent)
  | focus (monotonicMicros : UInt64) (focused : Bool)
  | otherInput (emission : AndroidInputEmission)
  | callback (monotonicMicros : UInt64) (step : SessionStep)
  | write

/-- The session's input gate is open, and the lane has room. -/
def passes (session : AndroidDisplaySession) (emission : AndroidInputEmission) : Bool :=
  AndroidDisplaySession.acceptsInput session.state &&
    session.negotiatedInput.any (emission.payload.event.isSupportedBy ·) &&
    session.outbound.any fun mux => emission.delivery = .critical ||
      decide (mux.coalescibleInput.length < coalescibleInputCapacity)

def announce (announced : Finset Contact) : TouchSignal → Finset Contact
  | .touch contactId .begin => insert contactId announced
  | .touch contactId .end | .touch contactId .cancel => announced.erase contactId
  | .focusLost => ∅
  | .touch _ .move | .other => announced

namespace TouchStream

/-- A generation that has just begun, with a new controller on the host. -/
def start (session : AndroidDisplaySession) (env : SessionEnvironment) (accessoryName : String)
    (identity : AndroidDisplaySession.Identity) (mapper : CoordinateMapper) : TouchStream where
  session := session.beginHandshake env accessoryName identity.nonce identity.implementationName
  input := .new
  announced := ∅
  host := .new mapper
  refused := []

def picture (s : TouchStream) : RemoteViewport := pictureOf s.host.mapper

def emit (s : TouchStream) (emission : AndroidInputEmission) : TouchStream :=
  { s with
    session := s.session.submitInput emission
    announced := if passes s.session emission then
        announce s.announced emission.payload.event.signal
      else s.announced }

def emitAll (s : TouchStream) (emissions : List AndroidInputEmission) : TouchStream :=
  emissions.foldl emit s

def motion (s : TouchStream) (viewWidth viewHeight : Int32) (event : MotionEvent) :
    TouchStream × List AndroidInputEmission :=
  let (_, emissions, input) := s.input.onTouchEvent viewWidth viewHeight event
  ({ s with input }, emissions)

/-- The viewports that a callback hands to the input controller. -/
def viewports (calls : List CollaboratorCall) : List (Option RemoteViewport) :=
  calls.filterMap fun
    | .updateViewport viewport => some viewport
    | _ => none

def updateViewports (monotonicMicros : UInt64) (input : AndroidInputController) :
    List (Option RemoteViewport) → List AndroidInputEmission × AndroidInputController
  | [] => ([], input)
  | viewport :: viewports =>
    let (emissions, input) := input.updateViewport monotonicMicros viewport
    let (later, input) := updateViewports monotonicMicros input viewports
    (emissions ++ later, input)

/-- A callback other than an input or a turn of the writer, with the calls it makes. -/
def runHandler (s : TouchStream) (step : SessionStep) : AndroidDisplaySession :=
  { s.session with calls := [] }.callback step

def isHandler : SessionStep → Bool
  | .input _ | .write => false
  | _ => true

/-- The host sends one configuration, so every viewport is its picture. -/
def keepsPicture (s : TouchStream) (step : SessionStep) : Bool :=
  isHandler step && (viewports (s.runHandler step).calls).all fun viewport =>
    viewport.all (decide <| · = s.picture)

/-- The cancels of a callback; they pass the gate of the state that it has not replaced yet. -/
def viewportChange (s : TouchStream) (monotonicMicros : UInt64) (step : SessionStep) :
    TouchStream × List AndroidInputEmission :=
  let (emissions, input) := updateViewports monotonicMicros s.input
    (viewports (s.runHandler step).calls)
  ({ s with input }, emissions)

def deliver (s : TouchStream) (event : InputEvent) : TouchStream :=
  let (result, host) := s.host.inject accepting event
  { s with
    host
    refused := if isTouch event.kind && failed result then s.refused ++ [event] else s.refused }

/-- One turn of the writer; the host handles what it sent. -/
def write (s : TouchStream) : Option TouchStream := do
  let (result, mux) ← s.session.outbound.bind (·.writeNext)
  let s := { s with session := { s.session with outbound := some mux } }
  match result with
  | .error _ => some s
  | .ok frame =>
    match received frame with
    | some event => some (s.deliver event)
    | none => some s

def step (s : TouchStream) : TouchStep → Option TouchStream
  | .motion viewWidth viewHeight event =>
    let (s, emissions) := s.motion viewWidth viewHeight event
    some (s.emitAll emissions)
  | .focus monotonicMicros focused =>
    some (s.emit (AndroidInputController.onFocusChanged monotonicMicros focused))
  | .otherInput emission =>
    if emission.payload.event.signal = .other then some (s.emit emission) else none
  | .callback monotonicMicros step =>
    if s.keepsPicture step then
      let (s, emissions) := s.viewportChange monotonicMicros step
      let s := s.emitAll emissions
      some { s with session := s.runHandler step }
    else none
  | .write => s.write

def machine : Machine TouchStream TouchStep := ⟨step⟩

/-- The motion that is still queued. -/
def queuedMotion (s : TouchStream) : List TouchSignal :=
  match s.session.outbound with
  | some mux => mux.coalescibleInput.map payloadSignal
  | none => []

/-- The signal continues what the display has announced, and does not overtake a move. -/
def Follows (s : TouchStream) : TouchSignal → Prop
  | .touch contactId .begin => contactId ∉ s.announced
  | .touch contactId .move => contactId ∈ s.announced
  | .touch contactId .end | .touch contactId .cancel =>
    contactId ∈ s.announced ∧ .touch contactId .move ∉ s.queuedMotion
  | .focusLost => ∀ contactId, .touch contactId .move ∉ s.queuedMotion
  | .other => True

def Continues (s : TouchStream) (emission : AndroidInputEmission) : Prop :=
  passes s.session emission = true → s.Follows emission.payload.event.signal

def ContinuesAll (s : TouchStream) : List AndroidInputEmission → Prop
  | [] => True
  | emission :: emissions => s.Continues emission ∧ (s.emit emission).ContinuesAll emissions

/-- The condition on a step: everything it emits continues what was announced. -/
def Consistent (s : TouchStream) : TouchStep → Prop
  | .motion viewWidth viewHeight event =>
    let (s, emissions) := s.motion viewWidth viewHeight event
    s.ContinuesAll emissions
  | .focus monotonicMicros focused =>
    s.Continues (AndroidInputController.onFocusChanged monotonicMicros focused)
  | .callback monotonicMicros step =>
    let (s, emissions) := s.viewportChange monotonicMicros step
    s.ContinuesAll emissions
  | .otherInput _ | .write => True

end TouchStream

section Wire

open LadoFlow.Android (InputPayload InputPayload.ofInputEvent AnyPayload)

theorem received_ofFrame (frame : Frame) :
    received (Android.FrameCodec.ofFrame frame) = (frame.decodePayload InputEvent).toOption := by
  have hprefix := frame.decodePrefix_encode []
  rw [List.append_nil] at hprefix
  simp only [received, Android.FrameCodec.encode_ofFrame, Android.unsigned_signed, hprefix]

/-- The host reads back the event that the display framed. -/
theorem received_input (event : InputEvent) (sequence : UInt64) :
    ∃ frame, LdflFrame.fromPayload .none sequence ⟨.input, InputPayload.ofInputEvent event⟩ =
      .ok frame ∧ received frame = some event := by
  obtain ⟨frame, -, -, -, hdecode, hframe, -⟩ :=
    LdflFrame.exists_framed .input event Protocol.FrameFlags.none sequence
  refine ⟨Android.FrameCodec.ofFrame frame, hframe, ?_⟩
  have hevent : frame.decodePayload InputEvent = .ok event := hdecode
  rw [received_ofFrame, hevent]
  rfl

/-- Other families hold no input event. -/
theorem received_other {frame : LdflFrame} (h : frame.messageType ≠ .input) :
    received frame = none := by
  obtain ⟨rust, rfl⟩ := Android.FrameCodec.ofFrame_bijective.2 frame
  have hkind : rust.header.kind ≠ Protocol.WirePayload.kind InputEvent := h
  rw [received_ofFrame, Frame.decodePayload, if_pos hkind]
  rfl

/-- A framed payload keeps its family. -/
theorem messageType_of_fromPayload {flags : Android.FrameFlags} {sequence : UInt64}
    {payload : AnyPayload} {frame : LdflFrame}
    (h : LdflFrame.fromPayload flags sequence payload = .ok frame) :
    frame.messageType = payload.messageType := by
  obtain ⟨bytes, -, hnew⟩ := bind_eq_ok.mp h
  rw [LdflFrame.new] at hnew
  split at hnew
  · cases hnew
    rfl
  · cases hnew

end Wire

section Outbound

open LadoFlow.Android.AndroidDisplaySession (Appends appends_nil appends_sendControl)

variable {mux next : SessionOutboundMux} {result : Except String LdflFrame}

/-- The lanes hold the same. -/
structure SameLanes (before after : SessionOutboundMux) : Prop where
  control : after.control = before.control
  criticalInput : after.criticalInput = before.criticalInput
  coalescibleInput : after.coalescibleInput = before.coalescibleInput

/-- The writer frames the next payload while its sequence lasts. -/
theorem writeNext_fresh (h : mux.writeNext = some (result, next))
    (hfresh : mux.sequenceExhausted = false) : ∃ outbound taken sequence,
      mux.receiveNext = some (outbound, taken) ∧ SameLanes taken next ∧
      result = match LdflFrame.fromPayload outbound.flags sequence outbound.payload with
        | .ok frame => .ok frame
        | .error exception => .error exception.message := by
  rw [SessionOutboundMux.writeNext] at h
  split at h
  · cases h
  case h_2 outbound taken hreceive =>
    have htaken : taken.sequenceExhausted = mux.sequenceExhausted := by
      rw [SessionOutboundMux.receiveNext] at hreceive
      split at hreceive <;> cases hreceive <;> rfl
    rw [htaken, hfresh] at h
    simp only [Bool.false_eq_true, if_false] at h
    refine ⟨outbound, taken, taken.nextSequence, hreceive, ?_⟩
    split at h
    · cases h
      split <;> exact ⟨⟨rfl, rfl, rfl⟩, by simp_all⟩
    · cases h
      split <;> exact ⟨⟨rfl, rfl, rfl⟩, by simp_all⟩

/-- An exhausted writer sends nothing more. -/
theorem writeNext_exhausted (h : mux.writeNext = some (result, next))
    (hexhausted : mux.sequenceExhausted = true) :
    next.sequenceExhausted = true ∧ ∃ error, result = .error error := by
  rw [SessionOutboundMux.writeNext] at h
  split at h
  · cases h
  case h_2 outbound taken hreceive =>
    have htaken : taken.sequenceExhausted = true := by
      rw [SessionOutboundMux.receiveNext] at hreceive
      split at hreceive <;> cases hreceive <;> exact hexhausted
    rw [if_pos htaken] at h
    cases h
    exact ⟨htaken, _, rfl⟩

variable (session : AndroidDisplaySession) (emission : AndroidInputEmission)

theorem submitInput_blocked (h : passes session emission = false) :
    (session.submitInput emission).outbound = session.outbound := by
  rw [AndroidDisplaySession.submitInput]
  split
  · rfl
  case isFalse haccepts =>
    split
    · rfl
    case isFalse hsupported =>
      rw [not_not] at haccepts hsupported
      split
      · rfl
      case h_2 _ _ mux houtbound hdelivery =>
        simp [passes, haccepts, hsupported, houtbound, hdelivery] at h
      case h_3 _ _ mux houtbound hdelivery =>
        have hfull : ¬mux.coalescibleInput.length < coalescibleInputCapacity := by
          simpa [passes, haccepts, hsupported, houtbound, hdelivery] using h
        simp only [SessionOutboundMux.trySendCoalescibleInput, if_neg hfull, Bool.false_eq_true,
          if_false]
        rfl

theorem submitInput_passed (h : passes session emission = true) :
    ∃ mux, session.outbound = some mux ∧ (session.submitInput emission).outbound =
      some (match emission.delivery with
        | .critical => mux.sendCriticalInput emission.payload
        | .coalescible => { mux with
            coalescibleInput := mux.coalescibleInput ++ [⟨⟨.input, emission.payload⟩, .none⟩] }) := by
  simp only [passes, Bool.and_eq_true] at h
  obtain ⟨⟨haccepts, hsupported⟩, hroom⟩ := h
  obtain ⟨mux, houtbound, hroom⟩ := (Option.any_eq_true _ _).mp hroom
  refine ⟨mux, houtbound, ?_⟩
  rw [AndroidDisplaySession.submitInput, if_neg (not_not.mpr haccepts),
    if_neg (not_not.mpr hsupported), houtbound]
  cases hdelivery : emission.delivery with
  | critical => rfl
  | coalescible =>
    have hlt : mux.coalescibleInput.length < coalescibleInputCapacity := by
      simpa [hdelivery] using hroom
    simp only [SessionOutboundMux.trySendCoalescibleInput, if_pos hlt, if_true]

/-- A handler queues control payloads only. -/
theorem handler_appends {step : SessionStep} (h : TouchStream.isHandler step = true) :
    ∃ extra, Appends extra session (session.callback step) ∧
      ∀ payload ∈ extra, payload.payload.messageType ≠ .input := by
  have hnil {after : AndroidDisplaySession} (hafter : after.outbound = session.outbound) :
      ∃ extra, Appends extra session after ∧
        ∀ payload ∈ extra, payload.payload.messageType ≠ .input :=
    ⟨[], appends_nil hafter, List.forall_mem_nil _⟩
  cases step with
  | input | write => cases h
  | inboundFrame env frame =>
    cases session.handleInboundFrame_handled env frame with
    | failed hfails =>
      obtain ⟨extra, hextra, herror⟩ := hfails.queued
      refine ⟨extra, hextra, ?_⟩
      intro payload hpayload
      cases herror with
      | inl hnone =>
        rw [hnone] at hpayload
        cases hpayload
      | inr hone =>
        obtain ⟨error, rfl⟩ := hone
        rw [List.mem_singleton.mp hpayload]
        exact nofun
    | healthy extra _ hextra hpong =>
      refine ⟨extra, hextra, ?_⟩
      intro payload hpayload hinput
      rw [hpong payload hpayload] at hinput
      cases hinput
  | decoderEvent event =>
    refine hnil ?_
    cases event with
    | endOfStream =>
      simp only [AndroidDisplaySession.callback, AndroidDisplaySession.handleDecoderEvent]
      split <;> rfl
    | _ => rfl
  | decoderMetrics metrics =>
    refine hnil ?_
    simp only [AndroidDisplaySession.callback, AndroidDisplaySession.handleDecoderMetrics]
    split
    · split <;> rfl
    · rfl
  | decoderState view state => exact hnil (session.handleDecoderState_outbound view state)
  | sendFailure generation reason =>
    refine hnil ?_
    simp only [AndroidDisplaySession.callback, AndroidDisplaySession.handleSendFailure]
    split <;> rfl
  | telemetryTimer env =>
    simp only [AndroidDisplaySession.callback, AndroidDisplaySession.sendTelemetryNow]
    split
    · exact hnil rfl
    split
    · exact ⟨_, appends_sendControl (by simp) _, by simp⟩
    · exact hnil (by simp)
  | pingTimer env =>
    simp only [AndroidDisplaySession.callback, AndroidDisplaySession.sendPing]
    split
    · exact hnil rfl
    · exact ⟨_, appends_sendControl rfl _, by simp⟩

end Outbound

namespace TouchStream

open LadoFlow.Android (Emits InputPayload AndroidInputController.MapsInto)
open LadoFlow.Android.AndroidDisplaySession (Appends)

/-- An input payload that touches nothing outside the picture. -/
def Carried (picture : RemoteViewport) (outbound : OutboundPayload) : Prop :=
  ∃ payload : InputPayload, outbound = ⟨⟨.input, payload⟩, .none⟩ ∧ payload.event.Inside picture

/-- The critical lane leads the host from its contacts to the announced ones, and the queued motion
moves announced contacts. -/
structure Lanes (picture : RemoteViewport) (announced active : Finset Contact)
    (mux : SessionOutboundMux) : Prop where
  control : ∀ outbound ∈ mux.control, outbound.payload.messageType ≠ .input
  critical : ContactAutomaton.run active (mux.criticalInput.map payloadSignal) = some announced
  motion : ∀ outbound ∈ mux.coalescibleInput, payloadSignal outbound = .other ∨
    ∃ contactId ∈ announced, payloadSignal outbound = .touch contactId .move
  criticalCarried : ∀ outbound ∈ mux.criticalInput, Carried picture outbound
  motionCarried : ∀ outbound ∈ mux.coalescibleInput, Carried picture outbound

structure Inv (s : TouchStream) : Prop where
  refused : s.refused = []
  input : s.input.MapsInto s.picture
  lanes : ∃ mux, s.session.outbound = some mux ∧
    (mux.sequenceExhausted = false → Lanes s.picture s.announced s.host.active mux)

section Emission

variable {picture : RemoteViewport} {announced active : Finset Contact} {mux : SessionOutboundMux}
  {emission : AndroidInputEmission}

theorem mem_queuedMotion {s : TouchStream} (houtbound : s.session.outbound = some mux)
    {contactId : Contact} {outbound : OutboundPayload} (hmem : outbound ∈ mux.coalescibleInput)
    (hsignal : payloadSignal outbound = .touch contactId .move) :
    .touch contactId .move ∈ s.queuedMotion := by
  rw [queuedMotion, houtbound, ← hsignal]
  exact List.mem_map_of_mem hmem

/-- Contacts that no queued move needs may be closed. -/
theorem Lanes.shrink (h : Lanes picture announced active mux) {next : Finset Contact}
    (hnext : ∀ contactId ∈ announced, (∃ outbound ∈ mux.coalescibleInput,
      payloadSignal outbound = .touch contactId .move) → contactId ∈ next) :
    ∀ outbound ∈ mux.coalescibleInput, payloadSignal outbound = .other ∨
      ∃ contactId ∈ next, payloadSignal outbound = .touch contactId .move := by
  intro outbound hmem
  cases h.motion outbound hmem with
  | inl hother => exact .inl hother
  | inr hmove =>
    obtain ⟨contactId, hannounced, hsignal⟩ := hmove
    exact .inr ⟨contactId, hnext contactId hannounced ⟨outbound, hmem, hsignal⟩, hsignal⟩

/-- A critical payload that the automaton allows after the announced ones. -/
theorem Lanes.push_critical (h : Lanes picture announced active mux) {next : Finset Contact}
    (hemits : Emits picture emission)
    (hstep : ContactAutomaton.step announced emission.payload.event.signal = some next)
    (hmotion : ∀ outbound ∈ mux.coalescibleInput, payloadSignal outbound = .other ∨
      ∃ contactId ∈ next, payloadSignal outbound = .touch contactId .move) :
    Lanes picture next active (mux.sendCriticalInput emission.payload) := by
  refine ⟨h.control, ?_, hmotion, ?_, h.motionCarried⟩
  · rw [SessionOutboundMux.sendCriticalInput, List.map_append]
    exact Protocol.ContactAutomaton.run_concat h.critical hstep
  · intro outbound hmem
    cases List.mem_append.mp hmem with
    | inl hold => exact h.criticalCarried outbound hold
    | inr hnew => exact ⟨emission.payload, List.mem_singleton.mp hnew, hemits.inside⟩

/-- What continues the announcement is allowed by the automaton, and strands no queued move. -/
theorem Continues.step {s : TouchStream} (h : s.Continues emission)
    (hlanes : Lanes picture s.announced active mux) (houtbound : s.session.outbound = some mux)
    (hpasses : passes s.session emission = true) :
    ContactAutomaton.step s.announced emission.payload.event.signal =
        some (announce s.announced emission.payload.event.signal) ∧
      ∀ outbound ∈ mux.coalescibleInput, payloadSignal outbound = .other ∨
        ∃ contactId ∈ announce s.announced emission.payload.event.signal,
          payloadSignal outbound = .touch contactId .move := by
  have hallowed := h hpasses
  have hkeeps : ∀ outbound ∈ mux.coalescibleInput, payloadSignal outbound = .other ∨
      ∃ contactId ∈ s.announced, payloadSignal outbound = .touch contactId .move := hlanes.motion
  cases hsignal : emission.payload.event.signal with
  | touch contactId phase =>
    rw [hsignal] at hallowed
    cases phase with
    | begin =>
      simp only [Follows] at hallowed
      refine ⟨?_, hlanes.shrink ?_⟩
      · simp only [ContactAutomaton.step, announce, if_neg hallowed]
      · intro other hother _
        exact Finset.mem_insert_of_mem hother
    | move =>
      simp only [Follows] at hallowed
      exact ⟨by simp only [ContactAutomaton.step, announce, if_pos hallowed], hkeeps⟩
    | «end» | cancel =>
      simp only [Follows] at hallowed
      obtain ⟨hannounced, hpending⟩ := hallowed
      refine ⟨by simp only [ContactAutomaton.step, announce, if_pos hannounced], hlanes.shrink ?_⟩
      intro other hother hmove
      obtain ⟨outbound, hmem, hsignal⟩ := hmove
      refine Finset.mem_erase.mpr ⟨?_, hother⟩
      intro heq
      rw [heq] at hsignal
      exact hpending (mem_queuedMotion houtbound hmem hsignal)
  | focusLost =>
    rw [hsignal] at hallowed
    simp only [Follows] at hallowed
    refine ⟨rfl, hlanes.shrink ?_⟩
    intro other _ hmove
    obtain ⟨outbound, hmem, hsignal⟩ := hmove
    exact absurd (mem_queuedMotion houtbound hmem hsignal) (hallowed other)
  | other => exact ⟨rfl, hkeeps⟩

theorem Lanes.push_motion (h : Lanes picture announced active mux) {next : Finset Contact}
    (hemits : Emits picture emission) (hdelivery : emission.delivery = .coalescible)
    (hstep : ContactAutomaton.step announced emission.payload.event.signal = some next) :
    next = announced ∧ Lanes picture announced active { mux with
      coalescibleInput := mux.coalescibleInput ++ [⟨⟨.input, emission.payload⟩, .none⟩] } := by
  have hsignal : payloadSignal ⟨⟨.input, emission.payload⟩, .none⟩ =
      emission.payload.event.signal := rfl
  have hnew : next = announced ∧ (emission.payload.event.signal = .other ∨
      ∃ contactId ∈ announced, emission.payload.event.signal = .touch contactId .move) := by
    cases hemits.lane hdelivery with
    | inl hother =>
      rw [hother] at hstep ⊢
      cases hstep
      exact ⟨rfl, .inl rfl⟩
    | inr hmove =>
      obtain ⟨contactId, hmove⟩ := hmove
      rw [hmove, ContactAutomaton.step] at hstep
      split at hstep
      case isTrue hannounced =>
        cases hstep
        exact ⟨rfl, .inr ⟨contactId, hannounced, hmove⟩⟩
      case isFalse => cases hstep
  refine ⟨hnew.1, h.control, h.critical, ?_, h.criticalCarried, ?_⟩
  · intro outbound hmem
    cases List.mem_append.mp hmem with
    | inl hold => exact h.motion outbound hold
    | inr hlast =>
      rw [List.mem_singleton.mp hlast, hsignal]
      exact hnew.2
  · intro outbound hmem
    cases List.mem_append.mp hmem with
    | inl hold => exact h.motionCarried outbound hold
    | inr hlast => exact ⟨emission.payload, List.mem_singleton.mp hlast, hemits.inside⟩

theorem Inv.emit {s : TouchStream} (h : Inv s) (hemits : Emits s.picture emission)
    (hcontinues : s.Continues emission) : Inv (s.emit emission) := by
  obtain ⟨mux, houtbound, hlanes⟩ := h.lanes
  refine ⟨h.refused, h.input, ?_⟩
  by_cases hpasses : passes s.session emission = true
  · obtain ⟨current, hcurrent, hafter⟩ := submitInput_passed s.session emission hpasses
    rw [houtbound] at hcurrent
    cases hcurrent
    refine ⟨_, hafter, ?_⟩
    intro hfresh
    have hfresh : mux.sequenceExhausted = false := by
      cases hdelivery : emission.delivery <;> rw [hdelivery] at hfresh <;> exact hfresh
    have hold := hlanes hfresh
    obtain ⟨hstep, hmotion⟩ := hcontinues.step hold houtbound hpasses
    simp only [TouchStream.emit, if_pos hpasses]
    cases hdelivery : emission.delivery with
    | critical => exact hold.push_critical hemits hstep hmotion
    | coalescible =>
      obtain ⟨hsame, hpushed⟩ := hold.push_motion hemits hdelivery hstep
      rw [hsame]
      exact hpushed
  · have hblocked := submitInput_blocked s.session emission (Bool.eq_false_iff.mpr hpasses)
    refine ⟨mux, hblocked.trans houtbound, ?_⟩
    simp only [TouchStream.emit, if_neg hpasses]
    exact hlanes

theorem Inv.emitAll {s : TouchStream} (h : Inv s) {emissions : List AndroidInputEmission}
    (hemits : ∀ emission ∈ emissions, Emits s.picture emission)
    (hcontinues : s.ContinuesAll emissions) : Inv (s.emitAll emissions) := by
  induction emissions generalizing s with
  | nil => exact h
  | cons emission emissions ih =>
    have hfirst := h.emit (hemits emission List.mem_cons_self) hcontinues.1
    exact ih hfirst (fun later hlater => hemits later (List.mem_cons_of_mem _ hlater)) hcontinues.2

end Emission

section Steps

variable {s t : TouchStream}

/-- The controller may change as long as it maps into the picture. -/
theorem Inv.with_input (h : Inv s) {input : AndroidInputController}
    (hinput : input.MapsInto s.picture) : Inv { s with input } := ⟨h.refused, hinput, h.lanes⟩

theorem Inv.motion (h : Inv s) {viewWidth viewHeight : Int32} {event : MotionEvent}
    (hconsistent : s.Consistent (.motion viewWidth viewHeight event))
    (hstep : s.step (.motion viewWidth viewHeight event) = some t) : Inv t := by
  obtain ⟨hemits, hmaps⟩ := h.input.onTouchEvent viewWidth viewHeight event
  cases hstep
  exact (h.with_input hmaps).emitAll hemits hconsistent

theorem updateViewports_mapsInto {picture : RemoteViewport} {input : AndroidInputController}
    (h : input.MapsInto picture) (monotonicMicros : UInt64)
    {viewports : List (Option RemoteViewport)}
    (hviewports : ∀ viewport ∈ viewports, ∀ current ∈ viewport, current = picture) :
    (∀ emission ∈ (updateViewports monotonicMicros input viewports).1, Emits picture emission) ∧
      (updateViewports monotonicMicros input viewports).2.MapsInto picture := by
  induction viewports generalizing input with
  | nil => exact ⟨List.forall_mem_nil _, h⟩
  | cons viewport viewports ih =>
    obtain ⟨hfirst, hnext⟩ := h.updateViewport monotonicMicros
      (hviewports viewport List.mem_cons_self)
    obtain ⟨hlater, hlast⟩ := ih hnext fun later hlater =>
      hviewports later (List.mem_cons_of_mem _ hlater)
    refine ⟨?_, hlast⟩
    intro emission hmem
    cases List.mem_append.mp hmem with
    | inl hmem => exact hfirst emission hmem
    | inr hmem => exact hlater emission hmem

theorem keepsPicture_viewports {step : SessionStep} (h : s.keepsPicture step = true) :
    isHandler step = true ∧ ∀ viewport ∈ viewports (s.runHandler step).calls,
      ∀ current ∈ viewport, current = s.picture := by
  rw [keepsPicture, Bool.and_eq_true] at h
  refine ⟨h.1, ?_⟩
  intro viewport hviewport current hcurrent
  have hall := List.all_eq_true.mp h.2 viewport hviewport
  exact of_decide_eq_true ((Option.all_eq_true _ _).mp hall current hcurrent)

/-- A handler leaves the input lanes alone. -/
theorem Inv.runHandler (h : Inv s) {step : SessionStep} (hhandler : isHandler step = true) :
    Inv { s with session := s.runHandler step } := by
  obtain ⟨mux, houtbound, hlanes⟩ := h.lanes
  obtain ⟨extra, hextra, hcontrol⟩ := handler_appends { s.session with calls := [] } hhandler
  have hafter : (s.runHandler step).outbound =
      some { mux with control := mux.control ++ extra } := by
    have hmap := hextra
    rw [Appends, houtbound] at hmap
    exact hmap
  refine ⟨h.refused, h.input, _, hafter, ?_⟩
  intro hfresh
  have hold := hlanes hfresh
  refine ⟨?_, hold.critical, hold.motion, hold.criticalCarried, hold.motionCarried⟩
  intro outbound hmem
  cases List.mem_append.mp hmem with
  | inl hmem => exact hold.control outbound hmem
  | inr hmem => exact hcontrol outbound hmem

theorem Inv.callback (h : Inv s) {monotonicMicros : UInt64} {step : SessionStep}
    (hconsistent : s.Consistent (.callback monotonicMicros step))
    (hstep : s.step (.callback monotonicMicros step) = some t) : Inv t := by
  simp only [TouchStream.step] at hstep
  split at hstep
  case isFalse => cases hstep
  case isTrue hkeeps =>
    obtain ⟨hhandler, hviewports⟩ := keepsPicture_viewports hkeeps
    obtain ⟨hemits, hmaps⟩ := updateViewports_mapsInto h.input monotonicMicros hviewports
    cases hstep
    exact ((h.with_input hmaps).emitAll hemits hconsistent).runHandler hhandler

theorem Inv.focus (h : Inv s) {monotonicMicros : UInt64} {focused : Bool}
    (hconsistent : s.Consistent (.focus monotonicMicros focused))
    (hstep : s.step (.focus monotonicMicros focused) = some t) : Inv t := by
  cases hstep
  exact h.emit (AndroidInputController.onFocusChanged_emits monotonicMicros focused) hconsistent

theorem inside_of_signal_other {picture : RemoteViewport} {payload : InputPayload}
    (h : payload.event.signal = .other) : payload.event.Inside picture := by
  cases hevent : payload.event with
  | touchInput contactId phase x y pressure =>
    have hvalid := payload.valid
    rw [hevent] at h hvalid
    simp only [InputEventBody.init, Android.requireProtocol_bind] at hvalid
    have hlt : contactId.toInt.toNat < 16 := by
      have hmax : contactId.toInt < 16 := Int32.lt_iff_toInt_lt.mp hvalid.1.2
      omega
    rw [InputEventBody.signal, dif_pos hlt] at h
    cases h
  | _ => trivial

theorem Inv.otherInput (h : Inv s) {emission : AndroidInputEmission}
    (hstep : s.step (.otherInput emission) = some t) : Inv t := by
  simp only [TouchStream.step] at hstep
  split at hstep
  case isFalse => cases hstep
  case isTrue hother =>
    cases hstep
    refine h.emit ⟨inside_of_signal_other hother, fun _ => .inl hother⟩ ?_
    intro _
    rw [hother]
    trivial

section Write

variable {picture : RemoteViewport} {announced active : Finset Contact} {mux : SessionOutboundMux}

theorem inside_of_carried {mapper : CoordinateMapper} {event : InputEvent}
    (h : (InputPayload.ofInputEvent event).event.Inside (pictureOf mapper)) :
    ∀ contactId phase x y pressure, event.kind = .touch contactId phase x y pressure →
      x < mapper.sourceWidth ∧ y < mapper.sourceHeight := by
  intro contactId phase x y pressure hkind
  have hlt {a b : UInt16} (hab : widen16 a < widen16 b) : a < b := by
    rw [← UInt16.not_le, ← Android.widen16_le, Int32.not_le]
    exact hab
  simp only [InputPayload.ofInputEvent, hkind, InputEventBody.ofKind, InputEventBody.Inside] at h
  exact ⟨hlt h.1, hlt h.2⟩

/-- The host follows the automaton, and refuses no touch that it allows. -/
theorem deliver_allowed {event : InputEvent} {down : Finset Contact}
    (hinside : (InputPayload.ofInputEvent event).event.Inside s.picture)
    (hstep : ContactAutomaton.step s.host.active event.kind.signal = some down) :
    (s.deliver event).refused = s.refused ∧ (s.deliver event).host.active = down ∧
      (s.deliver event).picture = s.picture := by
  obtain ⟨hactive, hmapper, haccepted⟩ := @NativeInputController.inject_active accepting s.host down
    event (fun _ => rfl) (inside_of_carried hinside) hstep
  refine ⟨?_, hactive, by rw [picture, picture, TouchStream.deliver, hmapper]⟩
  simp only [TouchStream.deliver]
  by_cases htouch : isTouch event.kind = true
  · cases hkind : event.kind with
    | touch contactId phase x y pressure =>
      rw [haccepted contactId phase x y pressure hkind]
      simp [failed]
    | _ =>
      rw [hkind] at htouch
      cases htouch
  · simp [htouch]

/-- The lanes after the writer has taken a payload that the host handles to `active`. -/
theorem Inv.with_mux (h : Inv s) {next : SessionOutboundMux}
    (hlanes : next.sequenceExhausted = false →
      Lanes s.picture s.announced s.host.active next) :
    Inv { s with session := { s.session with outbound := some next } } :=
  ⟨h.refused, h.input, next, rfl, hlanes⟩

theorem Inv.delivered (h : Inv s) {next : SessionOutboundMux} {event : InputEvent}
    {down : Finset Contact} (hinside : (InputPayload.ofInputEvent event).event.Inside s.picture)
    (hstep : ContactAutomaton.step s.host.active event.kind.signal = some down)
    (hlanes : Lanes s.picture s.announced down next) :
    Inv ({ s with session := { s.session with outbound := some next } }.deliver event) := by
  obtain ⟨hrefused, hactive, hpicture⟩ :=
    deliver_allowed (s := { s with session := { s.session with outbound := some next } }) hinside hstep
  refine ⟨hrefused.trans h.refused, ?_, next, rfl, ?_⟩
  · rw [hpicture]
    exact h.input
  · intro _
    rw [hpicture, hactive]
    exact hlanes

theorem Lanes.of_same {before after : SessionOutboundMux}
    (hlanes : Lanes picture announced active before) (h : SameLanes before after) :
    Lanes picture announced active after :=
  ⟨h.control ▸ hlanes.control, h.criticalInput ▸ hlanes.critical, h.coalescibleInput ▸ hlanes.motion,
    h.criticalInput ▸ hlanes.criticalCarried, h.coalescibleInput ▸ hlanes.motionCarried⟩

/-- What the writer takes from the lanes, and what is left for the host to expect. -/
inductive Taken (picture : RemoteViewport) (announced active : Finset Contact)
    (outbound : OutboundPayload) (taken : SessionOutboundMux) : Prop
  | control (hother : outbound.payload.messageType ≠ .input)
      (hlanes : Lanes picture announced active taken)
  | input (hcarried : Carried picture outbound) (down : Finset Contact)
      (hstep : ContactAutomaton.step active (payloadSignal outbound) = some down)
      (hlanes : Lanes picture announced down taken)

theorem Lanes.receiveNext (h : Lanes picture announced active mux) {outbound : OutboundPayload}
    {taken : SessionOutboundMux} (hreceive : mux.receiveNext = some (outbound, taken)) :
    Taken picture announced active outbound taken := by
  rw [SessionOutboundMux.receiveNext] at hreceive
  split at hreceive
  case h_1 payload control hcontrol =>
    cases hreceive
    have hmem := h.control
    rw [hcontrol] at hmem
    refine .control (hmem _ List.mem_cons_self) ⟨?_, h.critical, h.motion, h.criticalCarried,
      h.motionCarried⟩
    intro other hother
    exact hmem other (List.mem_cons_of_mem _ hother)
  case h_2 payload criticalInput _ hcritical =>
    cases hreceive
    have hcarried := h.criticalCarried
    have hrun := h.critical
    rw [hcritical] at hcarried hrun
    obtain ⟨down, hstep, hrest⟩ := Protocol.ContactAutomaton.run_cons.mp hrun
    refine .input (hcarried _ List.mem_cons_self) down hstep ⟨h.control, hrest, h.motion, ?_,
      h.motionCarried⟩
    intro other hother
    exact hcarried other (List.mem_cons_of_mem _ hother)
  case h_3 payload coalescibleInput _ hcritical hmotion =>
    cases hreceive
    -- With an empty critical lane, the host holds exactly the announced contacts.
    have hactive : active = announced := by
      have hrun := h.critical
      rw [hcritical] at hrun
      exact Option.some.inj hrun
    have hcarried := h.motionCarried
    have hmoves := h.motion
    rw [hmotion] at hcarried hmoves
    have hstep : ContactAutomaton.step active (payloadSignal outbound) = some active := by
      cases hmoves outbound List.mem_cons_self with
      | inl hother =>
        rw [hother]
        rfl
      | inr hmove =>
        obtain ⟨contactId, hannounced, hsignal⟩ := hmove
        rw [hsignal, ContactAutomaton.step, if_pos (hactive ▸ hannounced)]
    refine .input (hcarried _ List.mem_cons_self) active hstep ⟨h.control, h.critical, ?_,
      h.criticalCarried, ?_⟩
    · intro other hother
      exact hmoves other (List.mem_cons_of_mem _ hother)
    · intro other hother
      exact hcarried other (List.mem_cons_of_mem _ hother)
  case h_4 => cases hreceive

theorem Inv.write (h : Inv s) (hstep : s.step .write = some t) : Inv t := by
  obtain ⟨mux, houtbound, hlanes⟩ := h.lanes
  simp only [TouchStream.step, TouchStream.write, houtbound, Option.bind_some,
    Option.bind_eq_bind, Option.bind_eq_some_iff] at hstep
  obtain ⟨⟨result, next⟩, hnext, hstep⟩ := hstep
  simp only at hstep
  cases hexhausted : mux.sequenceExhausted with
  | true =>
    obtain ⟨hstill, error, rfl⟩ := writeNext_exhausted hnext hexhausted
    cases hstep
    refine h.with_mux ?_
    intro hfresh
    rw [hstill] at hfresh
    cases hfresh
  | false =>
    obtain ⟨outbound, taken, sequence, hreceive, hsame, hresult⟩ := writeNext_fresh hnext hexhausted
    cases (hlanes hexhausted).receiveNext hreceive with
    | control hother htaken =>
      have hafter := h.with_mux fun _ => htaken.of_same hsame
      split at hstep
      · cases hstep
        exact hafter
      case h_2 frame =>
        split at hresult
        case h_2 => cases hresult
        case h_1 hframe =>
          cases hresult
          have htype := messageType_of_fromPayload hframe
          rw [received_other (htype ▸ hother)] at hstep
          cases hstep
          exact hafter
    | input hcarried down hallowed htaken =>
      obtain ⟨payload, rfl, hinside⟩ := hcarried
      obtain ⟨event, rfl⟩ := InputPayload.ofInputEvent_bijective.2 payload
      obtain ⟨frame, hframe, hreceived⟩ := received_input event sequence
      rw [hframe] at hresult
      subst hresult
      simp only [hreceived] at hstep
      cases hstep
      have hsignal : payloadSignal ⟨⟨.input, InputPayload.ofInputEvent event⟩, .none⟩ =
          event.kind.signal := InputEventBody.signal_ofKind event.kind
      rw [hsignal] at hallowed
      exact h.delivered hinside hallowed (htaken.of_same hsame)

end Write

end Steps

theorem Inv.preserved {s t : TouchStream} {step : TouchStep} (h : Inv s)
    (hconsistent : s.Consistent step) (hstep : s.step step = some t) : Inv t := by
  cases step with
  | motion viewWidth viewHeight event => exact h.motion hconsistent hstep
  | focus monotonicMicros focused => exact h.focus hconsistent hstep
  | otherInput emission => exact h.otherInput hstep
  | callback monotonicMicros step => exact h.callback hconsistent hstep
  | write => exact h.write hstep

section Generation

variable (session : AndroidDisplaySession) (env : SessionEnvironment) (accessoryName : String)
  (identity : AndroidDisplaySession.Identity) (mapper : CoordinateMapper)

/-- A generation starts with empty input lanes. -/
theorem beginHandshake_lanes : ∃ mux,
    (session.beginHandshake env accessoryName identity.nonce identity.implementationName).outbound =
      some mux ∧ mux.criticalInput = [] ∧ mux.coalescibleInput = [] ∧
      ∀ outbound ∈ mux.control, outbound.payload.messageType ≠ .input := by
  simp only [AndroidDisplaySession.beginHandshake]
  split
  · refine ⟨.new, ?_, rfl, rfl, ?_⟩
    · simp [AndroidDisplaySession.failLocal, AndroidDisplaySession.record]
    · simp [SessionOutboundMux.new]
  split
  · refine ⟨_, rfl, rfl, rfl, ?_⟩
    simp [SessionOutboundMux.new, SessionOutboundMux.sendControl]
  · refine ⟨.new, rfl, rfl, rfl, ?_⟩
    simp [SessionOutboundMux.new]

theorem inv_start : Inv (start session env accessoryName identity mapper) := by
  obtain ⟨mux, houtbound, hcritical, hmotion, hcontrol⟩ :=
    beginHandshake_lanes session env accessoryName identity
  refine ⟨rfl, AndroidInputController.mapsInto_new _, mux, houtbound, ?_⟩
  intro _
  have hactive : (NativeInputController.new mapper).active = ∅ := by
    ext contactId
    simp [NativeInputController.new]
  refine ⟨hcontrol, ?_, ?_, ?_, ?_⟩
  · rw [hcritical]
    simp [start, hactive]
  · rw [hmotion]
    exact List.forall_mem_nil _
  · rw [hcritical]
    exact List.forall_mem_nil _
  · rw [hmotion]
    exact List.forall_mem_nil _

/-- In every run whose inputs continue what the display has announced, the host accepts every touch,
however the writer is scheduled. -/
theorem touches_accepted {steps : List TouchStep} {s : TouchStream}
    (hconsistent : machine.Admits Consistent (start session env accessoryName identity mapper) steps)
    (hrun : machine.run (start session env accessoryName identity mapper) steps = some s) :
    s.refused = [] := by
  have hinv := machine.run_invariant_of_admits Consistent Inv
    (fun _ _ _ h hstep => h.preserved hstep)
    (inv_start session env accessoryName identity mapper) hconsistent hrun
  exact hinv.refused

end Generation

section Runs

instance (s : TouchStream) : (signal : TouchSignal) → Decidable (s.Follows signal)
  | .touch _ .begin => inferInstanceAs (Decidable (_ ∉ _))
  | .touch _ .move => inferInstanceAs (Decidable (_ ∈ _))
  | .touch _ .end | .touch _ .cancel => inferInstanceAs (Decidable (_ ∧ _))
  | .focusLost => inferInstanceAs (Decidable (∀ _, _ ∉ _))
  | .other => .isTrue trivial

instance (s : TouchStream) (emission : AndroidInputEmission) : Decidable (s.Continues emission) :=
  inferInstanceAs (Decidable (_ → _))

instance decidableContinuesAll (s : TouchStream) :
    (emissions : List AndroidInputEmission) → Decidable (s.ContinuesAll emissions)
  | [] => .isTrue trivial
  | emission :: emissions =>
    have := decidableContinuesAll (s.emit emission) emissions
    inferInstanceAs (Decidable (_ ∧ _))

instance (s : TouchStream) : (step : TouchStep) → Decidable (s.Consistent step)
  | .motion viewWidth viewHeight event =>
    decidableContinuesAll (s.motion viewWidth viewHeight event).1
      (s.motion viewWidth viewHeight event).2
  | .callback monotonicMicros step =>
    decidableContinuesAll (s.viewportChange monotonicMicros step).1
      (s.viewportChange monotonicMicros step).2
  | .focus .. => inferInstanceAs (Decidable (s.Continues _))
  | .otherInput _ | .write => .isTrue trivial

theorem hdScreen_valid : CoordinateMapper.validate 1280 720 ⟨0, 0, 1280, 720⟩ ⟨0, 0, 1280, 720⟩ =
    .ok () := by
  decide

def hdScreen : CoordinateMapper := ⟨1280, 720, ⟨0, 0, 1280, 720⟩, ⟨0, 0, 1280, 720⟩, hdScreen_valid⟩

/-- A full-HD display in a new generation. -/
def connected : TouchStream := start (.new .fullHd) .fresh "Host" .android hdScreen

/-- The host opens the session, and the decoder is ready. -/
def opening : List TouchStep :=
  Android.hostOpening.map (fun frame => .callback 0 (.inboundFrame .fresh frame)) ++
    [.callback 0 (.decoderState (fun _ => .fresh) (.awaitingKeyframe .hd))]

/-- One finger at one place. -/
def finger (action : Android.MotionAction) : TouchStep :=
  .motion 1280 720
    { isFromMouse := false
      actionMasked := action
      pointers := [{ pointerId := 5, locate := fun _ => ⟨true, 640, 360⟩, pressure := 30000 }]
      actionIndex := 0
      eventTime := 20 }

def writes (count : Nat) : List TouchStep := List.replicate count .write

/-- The writer keeps up with a finger that goes down, moves and goes up. -/
def slowTap : List TouchStep :=
  opening ++ writes 2 ++ [finger .down, .write, finger .move, .write, finger .up, .write]

theorem touches_accepted_slowTap :
    ∃ s, machine.run connected slowTap = some s ∧ s.host.injected.length = 3 ∧ s.refused = [] := by
  have hreached : (machine.run connected slowTap).any
      (fun s => decide (s.host.injected.length = 3)) = true := by
    decide +kernel
  obtain ⟨s, hrun, hinjected⟩ := (Option.any_eq_true _ _).mp hreached
  exact ⟨s, hrun, of_decide_eq_true hinjected,
    touches_accepted (.new .fullHd) .fresh "Host" .android hdScreen (by decide +kernel) hrun⟩

/-- The same finger is faster than the writer. -/
def fastTap : List TouchStep :=
  opening ++ writes 2 ++ [finger .down, finger .move, finger .up] ++ writes 3

/-- A begin that the decoder's recovery keeps from the lanes. -/
private def droppedBegin : List TouchStep :=
  Android.hostOpening.map (fun frame => .callback 0 (.inboundFrame .fresh frame)) ++
    [finger .down, .callback 0 (.decoderState (fun _ => .fresh) (.awaitingKeyframe .hd)),
      finger .move] ++ writes 3

/-- A finger that stays down while the window loses its focus. -/
private def liftedFinger : List TouchStep :=
  opening ++ writes 2 ++ [finger .down, .write, .focus 21 false, .write, finger .move, .write]

/-- The steps are a run, after which the host has refused an input. -/
def Refuses (steps : List TouchStep) : Prop :=
  ∃ s, machine.run connected steps = some s ∧ s.refused ≠ []

/-- The end overtakes the move, and the host refuses the move of a contact that is up; so it does for
a begin that the gate dropped and for a contact that a focus loss lifted. -/
theorem touch_refused : Refuses fastTap ∧ Refuses droppedBegin ∧ Refuses liftedFinger := by
  have hrefuses : ∀ steps, (machine.run connected steps).any (fun s => decide (s.refused ≠ [])) =
      true → Refuses steps := by
    intro steps hreached
    obtain ⟨s, hrun, hrefused⟩ := (Option.any_eq_true _ _).mp hreached
    exact ⟨s, hrun, of_decide_eq_true hrefused⟩
  exact ⟨hrefuses _ (by decide +kernel), hrefuses _ (by decide +kernel),
    hrefuses _ (by decide +kernel)⟩

end Runs

end TouchStream

end LadoFlow.System
