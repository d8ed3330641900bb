import LadoFlow.Android.MouseKeyboard
import LadoFlow.Host.HeldInput
import LadoFlow.System.TouchStream

/-!
# Keys and buttons from the display to the host

Presses and releases pass the gate of the session one by one. Whatever passes reaches the pressed
sets of the host in order, so a key stays down there exactly when its press passed and its release
did not.
-/

namespace LadoFlow.System

open Framework
open LadoFlow.Protocol (InputEventKind InputEvent Frame)
open LadoFlow.Host (NativeInputController CoordinateMapper HeldCode hidUsageToKey heldSignal
  keySignal)
open LadoFlow.Android (AndroidDisplaySession AndroidInputController AndroidInputEmission
  OutboundPayload SessionOutboundMux SessionEnvironment SessionStep LdflFrame MotionEvent
  GenericMotionEvent GenericMotionAction KeyEvent InputEventBody InputPayload InputCapabilities
  AndroidHidUsageMapper.usageForKeyCode toPointerButton)

/-- A key or mouse button of the display device. -/
inductive DeviceCode where
  | key (keyCode : Int32)
  | button (actionButton : Int32)
  deriving DecidableEq, Repr

/-- The usage of the wire, as the host reads it. -/
def wireUsage (usage : Int32) : UInt16 := .ofNat usage.toInt.toNat

/-- What the host holds while the device holds the code. -/
def DeviceCode.held : DeviceCode → Option HeldCode
  | .key keyCode => (AndroidHidUsageMapper.usageForKeyCode keyCode).map (.key <| wireUsage ·)
  | .button actionButton => (toPointerButton actionButton).map .button

/-- What an event of the display says about the keys and buttons of the host. -/
def bodySignal : InputEventBody → HeldSignal HeldCode
  | .keyInput usage state _ => keySignal (wireUsage usage) state
  | .pointerButtonInput button state => (HeldCode.button button).signal state
  | .focusInput false => .clear
  | _ => .quiet

def payloadHeld (outbound : OutboundPayload) : HeldSignal HeldCode :=
  match outbound.payload with
  | ⟨.input, payload⟩ => bodySignal payload.event
  | _ => .quiet

/-- `device` holds the keys and buttons that are down on the device, `announced` those that are down
after everything that passed the gate. -/
structure KeyStream where
  session : AndroidDisplaySession
  input : AndroidInputController
  device : Finset DeviceCode
  announced : Finset HeldCode
  host : NativeInputController
  writerStopped : Bool

inductive KeyStep where
  | key (event : KeyEvent)
  | mouse (viewWidth viewHeight : Int32) (event : GenericMotionEvent)
  | touch (viewWidth viewHeight : Int32) (event : MotionEvent)
  | focus (monotonicMicros : UInt64) (focused : Bool)
  | callback (monotonicMicros : UInt64) (step : SessionStep)
  | write

/-- What an input event does to the keys and buttons of the device. -/
def KeyStep.deviceSignal : KeyStep → HeldSignal DeviceCode
  | .key event =>
    match event.action with
    | .down => .press (.key event.keyCode)
    | .up => .release (.key event.keyCode)
    | .other => .quiet
  | .mouse _ _ event =>
    if event.isFromMouse then
      match event.actionMasked with
      | .buttonPress => .press (.button event.actionButton)
      | .buttonRelease => .release (.button event.actionButton)
      | _ => .quiet
    else .quiet
  | _ => .quiet

namespace KeyStream

/-- A generation that has just begun, with a new controller on the host. -/
def start (session : AndroidDisplaySession) (env : SessionEnvironment) (accessoryName : String)
    (identity : AndroidDisplaySession.Identity) (mapper : CoordinateMapper) : KeyStream where
  session := session.beginHandshake env accessoryName identity.nonce identity.implementationName
  input := .new
  device := ∅
  announced := ∅
  host := .new mapper
  writerStopped := false

def emit (s : KeyStream) (emission : AndroidInputEmission) : KeyStream :=
  { s with
    session := s.session.submitInput emission
    announced := if passes s.session emission then
        (bodySignal emission.payload.event).apply s.announced
      else s.announced }

def emitAll (s : KeyStream) (emissions : List AndroidInputEmission) : KeyStream :=
  emissions.foldl emit s

/-- A callback other than an input or a turn of the writer, with the calls it makes. -/
def runHandler (s : KeyStream) (step : SessionStep) : AndroidDisplaySession :=
  { s.session with calls := [] }.callback step

/-- The cancels of a callback pass the gate of the state that it has not replaced yet. -/
def callback (s : KeyStream) (monotonicMicros : UInt64) (step : SessionStep) : KeyStream :=
  let (emissions, input) := TouchStream.updateViewports monotonicMicros s.input
    (TouchStream.viewports (s.runHandler step).calls)
  let s := { s with input }.emitAll emissions
  { s with session := s.runHandler step }

/-- One turn of the writer; the host handles what it sent. The writer stops at a failure. -/
def write (s : KeyStream) : Option KeyStream := do
  if s.writerStopped then none
  else
  let (result, mux) ← s.session.outbound.bind (·.writeNext)
  let s := { s with session := { s.session with outbound := some mux } }
  match result with
  | .error _ => some { s with writerStopped := true }
  | .ok frame =>
    match received frame with
    | some event => some { s with host := (s.host.inject accepting event).2 }
    | none => some s

/-- The device's keys and buttons follow the event. -/
def track (s : KeyStream) (step : KeyStep) : KeyStream :=
  { s with device := step.deviceSignal.apply s.device }

def step (s : KeyStream) : KeyStep → Option KeyStream
  | .key event => some ((s.track (.key event)).emitAll (AndroidInputController.onKeyEvent event).2)
  | .mouse viewWidth viewHeight event =>
    some ((s.track (.mouse viewWidth viewHeight event)).emitAll
      (s.input.onGenericMotionEvent viewWidth viewHeight event).2)
  | .touch viewWidth viewHeight event =>
    let (_, emissions, input) := s.input.onTouchEvent viewWidth viewHeight event
    some ({ s with input }.emitAll emissions)
  | .focus monotonicMicros focused =>
    some (s.emit (AndroidInputController.onFocusChanged monotonicMicros focused))
  | .callback monotonicMicros step =>
    if TouchStream.isHandler step then some (s.callback monotonicMicros step) else none
  | .write => s.write

def machine : Machine KeyStream KeyStep := ⟨step⟩

/-- The published state accepts input, and both sides have the capability. -/
def Opens (s : KeyStream) (capability : InputCapabilities) : Prop :=
  AndroidDisplaySession.acceptsInput s.session.state = true ∧
    s.session.negotiatedInput.any (·.contains capability) = true

/-- The display has let the host press the code and not release it. -/
def Announces (s : KeyStream) (code : DeviceCode) : Prop := ∃ held ∈ code.held, held ∈ s.announced

/-- The condition on a step: the gate is open for a release that the host waits for. -/
def ReleasesPass (s : KeyStream) : KeyStep → Prop
  | .key event => event.action = .up → s.Announces (.key event.keyCode) → s.Opens .keyboard
  | .mouse viewWidth viewHeight event =>
    event.isFromMouse = true → event.actionMasked = .buttonRelease →
      s.Announces (.button event.actionButton) →
        s.Opens .pointer ∧ (s.input.transform viewWidth viewHeight).isSome = true
  | _ => True

/-- Everything accepted for sending has reached the host. -/
def Delivered (s : KeyStream) : Prop :=
  s.writerStopped = false ∧
    ∀ mux ∈ s.session.outbound, mux.criticalInput = [] ∧ mux.coalescibleInput = []

/-- Nothing is held on the device, and the host has everything. -/
def Settled (s : KeyStream) : Prop := s.device = ∅ ∧ s.Delivered

end KeyStream

section Signals

open LadoFlow.Android (AndroidInputController.pointerMove AndroidInputController.pointerButton
  AndroidInputController.wheel AndroidInputController.touch)

theorem wireUsage_widen16 (usage : UInt16) : wireUsage (Android.widen16 usage) = usage := by
  rw [wireUsage, Android.toInt_widen16, Int.toNat_natCast, UInt16.ofNat_toNat]

/-- The host reads the signal that the display sent. -/
theorem bodySignal_ofKind (kind : InputEventKind) :
    bodySignal (.ofKind kind) = heldSignal kind := by
  cases kind with
  | key usage state modifiers =>
    simp only [InputEventBody.ofKind, bodySignal, heldSignal, wireUsage_widen16]
  | focus focused => cases focused <;> rfl
  | _ => rfl

/-- Only presses, releases and focus losses say something, and they are never coalesced. -/
def Quiet (emission : AndroidInputEmission) : Prop :=
  bodySignal emission.payload.event = .quiet

theorem touch_quiet (timestamp : UInt64) (contactId : Protocol.Contact)
    (phase : Protocol.TouchPhase) (point : Android.RemotePixel) (pressure : UInt16)
    (critical : Bool) :
    Quiet (AndroidInputController.touch timestamp contactId phase point pressure critical) := rfl

theorem cancelTouches_quiet (controller : AndroidInputController) (timestamp : UInt64) :
    ∀ emission ∈ (controller.cancelTouches timestamp).1, Quiet emission := by
  intro emission hemission
  obtain ⟨entry, -, rfl⟩ := List.mem_map.mp hemission
  exact touch_quiet ..

theorem updateViewport_quiet (monotonicMicros : UInt64) (controller : AndroidInputController)
    (viewport : Option Android.RemoteViewport) :
    ∀ emission ∈ (controller.updateViewport monotonicMicros viewport).1, Quiet emission := by
  rw [AndroidInputController.updateViewport]
  split
  · exact cancelTouches_quiet controller monotonicMicros
  · simp

theorem updateViewports_quiet (monotonicMicros : UInt64) (controller : AndroidInputController)
    (viewports : List (Option Android.RemoteViewport)) :
    ∀ emission ∈ (TouchStream.updateViewports monotonicMicros controller viewports).1,
      Quiet emission := by
  induction viewports generalizing controller with
  | nil => simp [TouchStream.updateViewports]
  | cons viewport viewports ih =>
    intro emission hmem
    cases List.mem_append.mp hmem with
    | inl hfirst => exact updateViewport_quiet monotonicMicros controller viewport emission hfirst
    | inr hlater => exact ih _ emission hlater

theorem moveLoop_quiet (transform : Android.ViewportTransform) (timestamp : UInt64)
    (controller : AndroidInputController) (pointers : List Android.MotionPointer) :
    ∀ emission ∈ (AndroidInputController.moveLoop transform timestamp controller pointers).1,
      Quiet emission := by
  induction pointers generalizing controller with
  | nil => simp [AndroidInputController.moveLoop]
  | cons pointer pointers ih =>
    rw [AndroidInputController.moveLoop]
    split
    · exact ih controller
    · intro emission hmem
      cases List.mem_cons.mp hmem with
      | inl hfirst => exact hfirst ▸ touch_quiet ..
      | inr hlater => exact ih _ emission hlater

theorem onTouchEvent_quiet (controller : AndroidInputController) (viewWidth viewHeight : Int32)
    (event : MotionEvent) :
    ∀ emission ∈ (controller.onTouchEvent viewWidth viewHeight event).2.1, Quiet emission := by
  simp only [AndroidInputController.onTouchEvent]
  split
  · simp
  split
  · simp
  cases event.actionMasked with
  | down | pointerDown =>
    simp only
    split
    · simp
    split
    · simp
    · simp [touch_quiet]
  | move => exact moveLoop_quiet _ _ controller event.pointers
  | up | pointerUp =>
    simp only
    split
    · simp
    · simp [touch_quiet]
  | cancel => exact cancelTouches_quiet controller _
  | other => simp

end Signals

namespace KeyStream

open LadoFlow.Android.AndroidDisplaySession (Appends)

/-- The input lanes hold input, and nothing that may be dropped says anything. -/
structure Lanes (mux : SessionOutboundMux) : Prop where
  control : ∀ outbound ∈ mux.control, outbound.payload.messageType ≠ .input
  critical : ∀ outbound ∈ mux.criticalInput, ∃ payload : InputPayload,
    outbound = ⟨⟨.input, payload⟩, .none⟩
  motion : ∀ outbound ∈ mux.coalescibleInput, ∃ payload : InputPayload,
    outbound = ⟨⟨.input, payload⟩, .none⟩ ∧ bodySignal payload.event = .quiet

/-- The critical lane leads the host from what it holds to what the display has announced. -/
structure Follows (s : KeyStream) (mux : SessionOutboundMux) (held : Finset HeldCode) : Prop where
  lanes : Lanes mux
  host : s.host.Holds held
  lane : heldAfter held (mux.criticalInput.map payloadHeld) = s.announced

/-- While the writer runs, the host will hold what the display has announced. -/
def Synchronized (s : KeyStream) : Prop :=
  ∃ mux, s.session.outbound = some mux ∧ (s.writerStopped = false → ∃ held, s.Follows mux held)

/-- Every code of the host is the code of something that the device holds. -/
def Covers (device : Finset DeviceCode) (announced : Finset HeldCode) : Prop :=
  ∀ held ∈ announced, ∃ code ∈ device, held ∈ code.held

structure Inv (s : KeyStream) : Prop where
  synchronized : s.Synchronized
  covers : Covers s.device s.announced

/-- The keys of the device and the touches of the controller do not matter to the host. -/
theorem Synchronized.of_eq {s t : KeyStream} (h : s.Synchronized) (hsession : t.session = s.session)
    (hannounced : t.announced = s.announced) (hhost : t.host = s.host)
    (hwriter : t.writerStopped = s.writerStopped) : t.Synchronized := by
  obtain ⟨mux, houtbound, hfollows⟩ := h
  refine ⟨mux, hsession ▸ houtbound, ?_⟩
  intro hrunning
  obtain ⟨held, hlanes, hholds, hlane⟩ := hfollows (hwriter ▸ hrunning)
  exact ⟨held, hlanes, hhost ▸ hholds, hannounced ▸ hlane⟩

/-- A host that has everything holds what the display has announced. -/
theorem Synchronized.delivered {s : KeyStream} (h : s.Synchronized) (hdelivered : s.Delivered) :
    s.host.Holds s.announced := by
  obtain ⟨hwriter, hempty⟩ := hdelivered
  obtain ⟨mux, houtbound, hfollows⟩ := h
  obtain ⟨held, -, hhost, hlane⟩ := hfollows hwriter
  rw [(hempty mux houtbound).1, List.map_nil, heldAfter_nil] at hlane
  exact hlane ▸ hhost

/-- A settled host holds nothing. -/
theorem Inv.settled {s : KeyStream} (h : Inv s) (hsettled : s.Settled) :
    s.host.pressedKeys = [] ∧ s.host.pressedButtons = [] := by
  obtain ⟨hdevice, hdelivered⟩ := hsettled
  apply ((h.synchronized.delivered hdelivered).of_eq_empty _).empty
  apply Finset.eq_empty_of_forall_notMem
  intro held hheld
  obtain ⟨code, hcode, -⟩ := h.covers held hheld
  rw [hdevice] at hcode
  exact Finset.notMem_empty code hcode

section Emission

variable {s : KeyStream} {emission : AndroidInputEmission} {mux : SessionOutboundMux}

/-- A critical payload tells the host what the display announces with it. -/
theorem Lanes.push_critical (h : Lanes mux) (payload : InputPayload) :
    Lanes (mux.sendCriticalInput payload) := by
  refine ⟨h.control, ?_, h.motion⟩
  intro outbound hmem
  cases List.mem_append.mp hmem with
  | inl hold => exact h.critical outbound hold
  | inr hnew => exact ⟨payload, List.mem_singleton.mp hnew⟩

theorem Lanes.push_motion (h : Lanes mux) {payload : InputPayload}
    (hquiet : bodySignal payload.event = .quiet) : Lanes { mux with
      coalescibleInput := mux.coalescibleInput ++ [⟨⟨.input, payload⟩, .none⟩] } := by
  refine ⟨h.control, h.critical, ?_⟩
  intro outbound hmem
  cases List.mem_append.mp hmem with
  | inl hold => exact h.motion outbound hold
  | inr hnew => exact ⟨payload, List.mem_singleton.mp hnew, hquiet⟩

theorem Synchronized.emit (h : s.Synchronized)
    (hquiet : emission.delivery = .coalescible → Quiet emission) : (s.emit emission).Synchronized := by
  obtain ⟨mux, houtbound, hfollows⟩ := h
  by_cases hpasses : passes s.session emission = true
  · obtain ⟨current, hcurrent, hafter⟩ := submitInput_passed s.session emission hpasses
    rw [houtbound] at hcurrent
    cases hcurrent
    refine ⟨_, hafter, ?_⟩
    intro hwriter
    obtain ⟨held, hlanes, hhost, hlane⟩ := hfollows hwriter
    refine ⟨held, ?_, hhost, ?_⟩
    · cases hdelivery : emission.delivery with
      | critical => exact hlanes.push_critical emission.payload
      | coalescible => exact hlanes.push_motion (hquiet hdelivery)
    · simp only [KeyStream.emit, if_pos hpasses]
      cases hdelivery : emission.delivery with
      | critical =>
        simp only [SessionOutboundMux.sendCriticalInput, List.map_append, heldAfter_append, hlane]
        rfl
      | coalescible =>
        have hsilent := hquiet hdelivery
        rw [Quiet] at hsilent
        rw [hsilent, HeldSignal.apply_quiet]
        exact hlane
  · have hblocked := submitInput_blocked s.session emission (Bool.eq_false_iff.mpr hpasses)
    refine ⟨mux, hblocked.trans houtbound, ?_⟩
    intro hwriter
    obtain ⟨held, hlanes, hhost, hlane⟩ := hfollows hwriter
    refine ⟨held, hlanes, hhost, ?_⟩
    simp only [KeyStream.emit, if_neg hpasses]
    exact hlane

theorem Synchronized.emitAll (h : s.Synchronized) {emissions : List AndroidInputEmission}
    (hquiet : ∀ emission ∈ emissions, emission.delivery = .coalescible → Quiet emission) :
    (s.emitAll emissions).Synchronized := by
  induction emissions generalizing s with
  | nil => exact h
  | cons emission emissions ih =>
    have hfirst := h.emit (hquiet emission List.mem_cons_self)
    exact ih hfirst fun later hlater => hquiet later (List.mem_cons_of_mem _ hlater)

@[simp] theorem emit_device : (s.emit emission).device = s.device := rfl

theorem emit_announced_quiet (h : Quiet emission) : (s.emit emission).announced = s.announced := by
  rw [Quiet] at h
  simp only [KeyStream.emit, h, HeldSignal.apply_quiet, ite_self]

theorem emitAll_quiet {emissions : List AndroidInputEmission}
    (h : ∀ emission ∈ emissions, Quiet emission) :
    (s.emitAll emissions).announced = s.announced ∧ (s.emitAll emissions).device = s.device := by
  induction emissions generalizing s with
  | nil => exact ⟨rfl, rfl⟩
  | cons emission emissions ih =>
    obtain ⟨hannounced, hdevice⟩ :=
      @ih (s.emit emission) fun later hlater => h later (List.mem_cons_of_mem _ hlater)
    exact ⟨hannounced.trans (emit_announced_quiet (h emission List.mem_cons_self)), hdevice⟩

/-- The gate does not depend on what it let through. -/
theorem Opens.emit {capability : InputCapabilities} (h : s.Opens capability) :
    (s.emit emission).Opens capability := by
  have hkeeps : (s.session.submitInput emission).state = s.session.state ∧
      (s.session.submitInput emission).negotiatedInput = s.session.negotiatedInput := by
    rw [AndroidDisplaySession.submitInput]
    split
    · exact ⟨rfl, rfl⟩
    split
    · exact ⟨rfl, rfl⟩
    split
    · exact ⟨rfl, rfl⟩
    · exact ⟨rfl, rfl⟩
    · simp only
      split <;> exact ⟨rfl, rfl⟩
  simp only [Opens, KeyStream.emit, hkeeps]
  exact h

/-- An open gate passes what may not be dropped. -/
theorem Opens.passes {capability : InputCapabilities} (h : s.Opens capability)
    (hsynchronized : s.Synchronized) (hdelivery : emission.delivery = .critical)
    (hsupported : ∀ capabilities, emission.payload.event.isSupportedBy capabilities =
      capabilities.contains capability) : passes s.session emission = true := by
  obtain ⟨mux, houtbound, -⟩ := hsynchronized
  obtain ⟨haccepts, hnegotiated⟩ := h
  simp only [System.passes, haccepts, hsupported, hnegotiated, houtbound, hdelivery]
  rfl

theorem mem_announced {other : HeldCode} (h : other ∈ (s.emit emission).announced) :
    bodySignal emission.payload.event = .press other ∨ other ∈ s.announced := by
  simp only [KeyStream.emit] at h
  split at h
  · exact HeldSignal.mem_apply h
  · exact .inr h

/-- A press announces the code of what the device now holds. -/
theorem covers_press (h : Covers s.device s.announced) {code : DeviceCode} {held : HeldCode}
    (hheld : held ∈ code.held)
    (hsignal : ∀ other, bodySignal emission.payload.event = .press other → other = held) :
    Covers (insert code s.device) (s.emit emission).announced := by
  intro other hother
  cases mem_announced hother with
  | inl hpress => exact ⟨code, Finset.mem_insert_self _ _, hsignal other hpress ▸ hheld⟩
  | inr hold =>
    obtain ⟨found, hfound, hcode⟩ := h other hold
    exact ⟨found, Finset.mem_insert_of_mem hfound, hcode⟩

/-- A release that the host waits for passes, so nothing announced has the code that goes up. -/
theorem covers_release (h : Covers s.device s.announced) {code : DeviceCode} {held : HeldCode}
    (hheld : code.held = some held) (hsignal : bodySignal emission.payload.event = .release held)
    (hpasses : held ∈ s.announced → passes s.session emission = true) :
    Covers (s.device.erase code) (s.emit emission).announced := by
  intro other hother
  have hne : other ≠ held := by
    intro heq
    subst heq
    by_cases hpass : passes s.session emission = true
    · simp only [KeyStream.emit, if_pos hpass, hsignal] at hother
      exact HeldSignal.notMem_apply_release _ _ hother
    · simp only [KeyStream.emit, if_neg hpass] at hother
      exact hpass (hpasses hother)
  have hold : other ∈ s.announced := by
    cases mem_announced hother with
    | inl hpress =>
      rw [hsignal] at hpress
      cases hpress
    | inr hold => exact hold
  obtain ⟨found, hfound, hcode⟩ := h other hold
  refine ⟨found, Finset.mem_erase.mpr ⟨?_, hfound⟩, hcode⟩
  intro heq
  rw [heq, hheld] at hcode
  exact hne (Option.some.inj hcode).symm

/-- What the device no longer reports to the host is not announced. -/
theorem covers_silent_release (h : Covers s.device s.announced) {code : DeviceCode}
    (hunannounced : ¬s.Announces code) : Covers (s.device.erase code) s.announced := by
  intro other hother
  obtain ⟨found, hfound, hcode⟩ := h other hother
  refine ⟨found, Finset.mem_erase.mpr ⟨?_, hfound⟩, hcode⟩
  intro heq
  exact hunannounced ⟨other, heq ▸ hcode, hother⟩

theorem covers_insert (h : Covers s.device s.announced) (code : DeviceCode) :
    Covers (insert code s.device) s.announced := by
  intro other hother
  obtain ⟨found, hfound, hcode⟩ := h other hother
  exact ⟨found, Finset.mem_insert_of_mem hfound, hcode⟩

end Emission

section Steps

open LadoFlow.Android (AndroidInputController.KeyEmits AndroidInputController.MouseEmits
  AndroidInputController.onKeyEvent_emits AndroidInputController.onGenericMotionEvent_emits
  AndroidInputController.pointerMove AndroidInputController.pointerButton)

variable {s t : KeyStream}

theorem Synchronized.track (h : s.Synchronized) (step : KeyStep) : (s.track step).Synchronized :=
  h.of_eq rfl rfl rfl rfl

theorem Synchronized.with_input (h : s.Synchronized) (input : AndroidInputController) :
    Synchronized { s with input } :=
  h.of_eq rfl rfl rfl rfl

theorem keyEmits_quiet {event : KeyEvent} {emissions : List AndroidInputEmission}
    (h : AndroidInputController.KeyEmits event emissions) :
    ∀ emission ∈ emissions, emission.delivery = .coalescible → Quiet emission := by
  cases h with
  | silent => simp
  | sends usage state modifiers emission husage haction hevent hdelivery => simp [hdelivery]

theorem motion_quiet {emission : AndroidInputEmission}
    (h : (∃ timestamp point, emission = AndroidInputController.pointerMove timestamp point) ∨
      ∃ timestamp deltaX deltaY, emission = AndroidInputController.wheel timestamp deltaX deltaY) :
    Quiet emission := by
  cases h with
  | inl hmove =>
    obtain ⟨timestamp, point, rfl⟩ := hmove
    rfl
  | inr hwheel =>
    obtain ⟨timestamp, deltaX, deltaY, rfl⟩ := hwheel
    rfl

theorem mouseEmits_quiet {transform : Option Android.ViewportTransform}
    {event : GenericMotionEvent} {emissions : List AndroidInputEmission}
    (h : AndroidInputController.MouseEmits transform event emissions) :
    ∀ emission ∈ emissions, emission.delivery = .coalescible → Quiet emission := by
  cases h with
  | silent => simp
  | motion emission haction hmotion => simp [motion_quiet hmotion]
  | button button state timestamp point =>
    intro emission hmem hdelivery
    cases List.mem_cons.mp hmem with
    | inl hmove =>
      rw [hmove]
      rfl
    | inr hbutton =>
      rw [List.mem_singleton.mp hbutton] at hdelivery
      cases hdelivery

/-- A handler leaves the input lanes alone. -/
theorem Synchronized.runHandler (h : s.Synchronized) {step : SessionStep}
    (hhandler : TouchStream.isHandler step = true) :
    Synchronized { s with session := s.runHandler step } := by
  obtain ⟨mux, houtbound, hfollows⟩ := h
  obtain ⟨extra, hextra, hcontrol⟩ := handler_appends { s.session with calls := [] } hhandler
  have hafter : (s.runHandler step).outbound =
      some { mux with control := mux.control ++ extra } := by
    have hmap := hextra
    rw [Appends, houtbound] at hmap
    exact hmap
  refine ⟨_, hafter, ?_⟩
  intro hwriter
  obtain ⟨held, hlanes, hhost, hlane⟩ := hfollows hwriter
  refine ⟨held, ⟨?_, hlanes.critical, hlanes.motion⟩, hhost, hlane⟩
  intro outbound hmem
  cases List.mem_append.mp hmem with
  | inl hmem => exact hlanes.control outbound hmem
  | inr hmem => exact hcontrol outbound hmem

section Write

variable {mux taken : SessionOutboundMux} {outbound : OutboundPayload}

theorem Lanes.of_same {before after : SessionOutboundMux} (h : Lanes before)
    (hsame : SameLanes before after) : Lanes after :=
  ⟨hsame.control ▸ h.control, hsame.criticalInput ▸ h.critical, hsame.coalescibleInput ▸ h.motion⟩

/-- What the writer takes: a control payload, or an input payload whose signal the critical lane has
first, if it says anything. -/
inductive Taken (mux : SessionOutboundMux) (outbound : OutboundPayload)
    (taken : SessionOutboundMux) : Prop
  | control (hother : outbound.payload.messageType ≠ .input)
    (hsame : taken.criticalInput = mux.criticalInput)
  | input (payload : InputPayload) (houtbound : outbound = ⟨⟨.input, payload⟩, .none⟩)
    (hlane : ∀ held, heldAfter held (mux.criticalInput.map payloadHeld) =
      heldAfter ((bodySignal payload.event).apply held) (taken.criticalInput.map payloadHeld))

theorem Lanes.receiveNext (h : Lanes mux) (hreceive : mux.receiveNext = some (outbound, taken)) :
    Lanes taken ∧ Taken mux outbound taken := by
  rw [SessionOutboundMux.receiveNext] at hreceive
  split at hreceive
  case h_1 payload control hcontrol =>
    cases hreceive
    have hmem := h.control
    rw [hcontrol] at hmem
    refine ⟨⟨?_, h.critical, h.motion⟩, .control (hmem _ List.mem_cons_self) rfl⟩
    intro other hother
    exact hmem other (List.mem_cons_of_mem _ hother)
  case h_2 payload criticalInput _ hcritical =>
    cases hreceive
    have hcarried := h.critical
    rw [hcritical] at hcarried
    obtain ⟨payload, hpayload⟩ := hcarried _ List.mem_cons_self
    refine ⟨⟨h.control, ?_, h.motion⟩, .input payload hpayload ?_⟩
    · intro other hother
      exact hcarried other (List.mem_cons_of_mem _ hother)
    · intro held
      rw [hcritical, hpayload]
      rfl
  case h_3 payload coalescibleInput _ hcritical hmotion =>
    cases hreceive
    have hcarried := h.motion
    rw [hmotion] at hcarried
    obtain ⟨payload, hpayload, hquiet⟩ := hcarried _ List.mem_cons_self
    refine ⟨⟨h.control, h.critical, ?_⟩, .input payload hpayload ?_⟩
    · intro other hother
      exact hcarried other (List.mem_cons_of_mem _ hother)
    · intro held
      rw [hquiet, HeldSignal.apply_quiet]
  case h_4 => cases hreceive

theorem Synchronized.write (h : s.Synchronized) (hstep : s.step .write = some t) :
    t.Synchronized ∧ t.device = s.device ∧ t.announced = s.announced := by
  obtain ⟨mux, houtbound, hfollows⟩ := h
  simp only [KeyStream.step, KeyStream.write] at hstep
  split at hstep
  case isTrue => cases hstep
  case isFalse hrunning =>
    rw [Bool.not_eq_true] at hrunning
    obtain ⟨held, hlanes, hhost, hlane⟩ := hfollows hrunning
    simp only [houtbound, Option.bind_some, Option.bind_eq_bind, Option.bind_eq_some_iff] at hstep
    obtain ⟨⟨result, next⟩, hnext, hstep⟩ := hstep
    simp only at hstep
    cases result with
    | error reason =>
      cases hstep
      refine ⟨⟨next, rfl, ?_⟩, rfl, rfl⟩
      intro hwriter
      cases hwriter
    | ok frame =>
      have hfresh : mux.sequenceExhausted = false := by
        cases hexhausted : mux.sequenceExhausted with
        | false => rfl
        | true =>
          obtain ⟨-, error, herror⟩ := writeNext_exhausted hnext hexhausted
          cases herror
      obtain ⟨outbound, taken, sequence, hreceive, hsame, hresult⟩ := writeNext_fresh hnext hfresh
      obtain ⟨htaken, hkind⟩ := hlanes.receiveNext hreceive
      split at hresult
      case h_2 => cases hresult
      case h_1 hframe =>
        cases hresult
        cases hkind with
        | control hother hcritical =>
          have htype := messageType_of_fromPayload hframe
          simp only [received_other (htype ▸ hother)] at hstep
          cases hstep
          refine ⟨⟨next, rfl, ?_⟩, rfl, rfl⟩
          intro _
          refine ⟨held, htaken.of_same hsame, hhost, ?_⟩
          rw [hsame.criticalInput, hcritical]
          exact hlane
        | input payload hpayload hsignal =>
          obtain ⟨event, rfl⟩ := InputPayload.ofInputEvent_bijective.2 payload
          obtain ⟨sent, hsent, hreceived⟩ := received_input event sequence
          rw [hpayload, hsent] at hframe
          cases hframe
          simp only [hreceived] at hstep
          cases hstep
          refine ⟨⟨next, rfl, ?_⟩, rfl, rfl⟩
          intro _
          have hbody : bodySignal (InputPayload.ofInputEvent event).event = heldSignal event.kind :=
            bodySignal_ofKind event.kind
          refine ⟨_, htaken.of_same hsame, hhost.inject (fun _ => rfl) event, ?_⟩
          rw [hsame.criticalInput, ← hbody, ← hsignal]
          exact hlane

end Write

/-- Every step keeps the host behind what the display announces. -/
theorem Synchronized.preserved (h : s.Synchronized) {step : KeyStep}
    (hstep : s.step step = some t) : t.Synchronized := by
  cases step with
  | key event =>
    cases hstep
    exact (h.track _).emitAll (keyEmits_quiet (AndroidInputController.onKeyEvent_emits event))
  | mouse viewWidth viewHeight event =>
    cases hstep
    exact (h.track _).emitAll (mouseEmits_quiet
      (AndroidInputController.onGenericMotionEvent_emits s.input viewWidth viewHeight event))
  | touch viewWidth viewHeight event =>
    cases hstep
    apply (h.with_input _).emitAll
    intro emission hmem _
    exact onTouchEvent_quiet s.input viewWidth viewHeight event emission hmem
  | focus monotonicMicros focused =>
    cases hstep
    apply h.emit
    intro hdelivery
    cases hdelivery
  | callback monotonicMicros step =>
    simp only [KeyStream.step] at hstep
    split at hstep
    case isFalse => cases hstep
    case isTrue hhandler =>
      cases hstep
      have hcancelled := updateViewports_quiet monotonicMicros s.input
        (TouchStream.viewports (s.runHandler step).calls)
      apply Synchronized.runHandler _ hhandler
      exact (h.with_input _).emitAll fun emission hmem _ => hcancelled emission hmem
  | write => exact (h.write hstep).1

theorem covers_key (hsynchronized : s.Synchronized) (h : Covers s.device s.announced)
    {event : KeyEvent} (hpasses : s.ReleasesPass (.key event))
    {emissions : List AndroidInputEmission}
    (hemits : AndroidInputController.KeyEmits event emissions) :
    Covers ((s.track (.key event)).emitAll emissions).device
      ((s.track (.key event)).emitAll emissions).announced := by
  cases hemits with
  | silent hsilent =>
    simp only [emitAll, List.foldl_nil, KeyStream.track, KeyStep.deviceSignal]
    cases haction : event.action with
    | down => exact covers_insert h _
    | up =>
      apply covers_silent_release h
      intro hannounced
      obtain ⟨held, hheld, -⟩ := hannounced
      simp [DeviceCode.held, hsilent haction] at hheld
    | other => exact h
  | sends usage state modifiers emission husage haction hevent hdelivery =>
    have hheld : (DeviceCode.key event.keyCode).held = some (.key (wireUsage usage)) := by
      simp [DeviceCode.held, husage]
    cases state with
    | pressed =>
      have hdevice : ((s.track (.key event)).emitAll [emission]).device =
          insert (.key event.keyCode) s.device := by
        simp [emitAll, KeyStream.track, KeyStep.deviceSignal, haction, HeldSignal.apply]
      rw [hdevice]
      apply covers_press h hheld
      intro other hpress
      rw [hevent, bodySignal, keySignal] at hpress
      split at hpress
      · cases hpress
        rfl
      · cases hpress
    | released =>
      have hdevice : ((s.track (.key event)).emitAll [emission]).device =
          s.device.erase (.key event.keyCode) := by
        simp [emitAll, KeyStream.track, KeyStep.deviceSignal, haction, HeldSignal.apply]
      rw [hdevice]
      apply covers_release h hheld
      · rw [hevent, bodySignal, keySignal]
      · intro hannounced
        have hopens := hpasses haction ⟨_, hheld, hannounced⟩
        apply hopens.passes hsynchronized hdelivery
        simp [hevent, InputEventBody.isSupportedBy]

theorem covers_mouse (hsynchronized : s.Synchronized) (h : Covers s.device s.announced)
    {viewWidth viewHeight : Int32} {event : GenericMotionEvent}
    (hpasses : s.ReleasesPass (.mouse viewWidth viewHeight event))
    {emissions : List AndroidInputEmission}
    (hemits : AndroidInputController.MouseEmits (s.input.transform viewWidth viewHeight) event
      emissions) :
    Covers ((s.track (.mouse viewWidth viewHeight event)).emitAll emissions).device
      ((s.track (.mouse viewWidth viewHeight event)).emitAll emissions).announced := by
  cases hemits with
  | silent hsilent =>
    simp only [emitAll, List.foldl_nil, KeyStream.track, KeyStep.deviceSignal]
    by_cases hmouse : event.isFromMouse = true
    · rw [if_pos hmouse]
      cases haction : event.actionMasked with
      | buttonPress => exact covers_insert h _
      | buttonRelease =>
        apply covers_silent_release h
        intro hannounced
        obtain ⟨-, htransform⟩ := hpasses hmouse haction hannounced
        obtain ⟨held, hheld, -⟩ := hannounced
        simp [DeviceCode.held, hsilent hmouse haction htransform] at hheld
      | _ => exact h
    · rw [if_neg hmouse]
      exact h
  | motion emission haction hmotion =>
    have hsame : (KeyStep.mouse viewWidth viewHeight event).deviceSignal = .quiet := by
      simp only [KeyStep.deviceSignal]
      split
      · split <;> simp_all
      · rfl
    have hannounced : (s.emit emission).announced = s.announced :=
      emit_announced_quiet (motion_quiet hmotion)
    have hdevice : (s.track (.mouse viewWidth viewHeight event)).device = s.device := by
      rw [KeyStream.track, hsame]
      rfl
    intro held hheld
    obtain ⟨code, hcode, hcovers⟩ := h held (hannounced ▸ hheld)
    exact ⟨code, hdevice ▸ hcode, hcovers⟩
  | button button state timestamp point hbutton hmouse haction =>
    -- The move before the button says nothing, and leaves the gate as it is.
    have hmove : Quiet (AndroidInputController.pointerMove timestamp point) := rfl
    have hmoved : Covers s.device
        (s.emit (AndroidInputController.pointerMove timestamp point)).announced := by
      rw [emit_announced_quiet hmove]
      exact h
    have hheld : (DeviceCode.button event.actionButton).held = some (.button button) := by
      simp [DeviceCode.held, hbutton]
    cases state with
    | pressed =>
      have hdevice : ((s.track (.mouse viewWidth viewHeight event)).emitAll
          [AndroidInputController.pointerMove timestamp point,
            AndroidInputController.pointerButton timestamp button .pressed]).device =
          insert (.button event.actionButton) s.device := by
        simp [emitAll, KeyStream.track, KeyStep.deviceSignal, haction, hmouse, HeldSignal.apply]
      rw [hdevice]
      apply covers_press hmoved hheld
      intro other hpress
      cases hpress
      rfl
    | released =>
      have hdevice : ((s.track (.mouse viewWidth viewHeight event)).emitAll
          [AndroidInputController.pointerMove timestamp point,
            AndroidInputController.pointerButton timestamp button .released]).device =
          s.device.erase (.button event.actionButton) := by
        simp [emitAll, KeyStream.track, KeyStep.deviceSignal, haction, hmouse, HeldSignal.apply]
      rw [hdevice]
      apply covers_release hmoved hheld rfl
      intro hannounced
      rw [emit_announced_quiet hmove] at hannounced
      obtain ⟨hopens, -⟩ := hpasses hmouse haction ⟨_, hheld, hannounced⟩
      apply hopens.emit.passes
      · exact hsynchronized.emit fun _ => hmove
      · rfl
      · intro capabilities
        rfl

theorem covers_quiet (h : Covers s.device s.announced) (input : AndroidInputController)
    {emissions : List AndroidInputEmission} (hquiet : ∀ emission ∈ emissions, Quiet emission) :
    Covers ({ s with input }.emitAll emissions).device
      ({ s with input }.emitAll emissions).announced := by
  obtain ⟨hannounced, hdevice⟩ := @emitAll_quiet { s with input } emissions hquiet
  rw [hannounced, hdevice]
  exact h

/-- A step whose release passes keeps what the host holds within what the device holds. -/
theorem Inv.preserved {step : KeyStep} (h : Inv s) (hpasses : s.ReleasesPass step)
    (hstep : s.step step = some t) : Inv t := by
  refine ⟨h.synchronized.preserved hstep, ?_⟩
  cases step with
  | key event =>
    cases hstep
    exact covers_key h.synchronized h.covers hpasses
      (AndroidInputController.onKeyEvent_emits event)
  | mouse viewWidth viewHeight event =>
    cases hstep
    exact covers_mouse h.synchronized h.covers hpasses
      (AndroidInputController.onGenericMotionEvent_emits s.input viewWidth viewHeight event)
  | touch viewWidth viewHeight event =>
    cases hstep
    exact covers_quiet h.covers _ (onTouchEvent_quiet s.input viewWidth viewHeight event)
  | focus monotonicMicros focused =>
    cases hstep
    intro held hheld
    cases mem_announced hheld with
    | inl hpress => cases focused <;> cases hpress
    | inr hold => exact h.covers held hold
  | callback monotonicMicros step =>
    simp only [KeyStream.step] at hstep
    split at hstep
    case isFalse => cases hstep
    case isTrue hhandler =>
      cases hstep
      have hcancelled := updateViewports_quiet monotonicMicros s.input
        (TouchStream.viewports (s.runHandler step).calls)
      exact covers_quiet h.covers _ hcancelled
  | write =>
    obtain ⟨-, hdevice, hannounced⟩ := h.synchronized.write hstep
    rw [hdevice, hannounced]
    exact h.covers

end Steps

section Generation

variable (session : AndroidDisplaySession) (env : SessionEnvironment) (accessoryName : String)
  (identity : AndroidDisplaySession.Identity) (mapper : CoordinateMapper)

theorem inv_start : Inv (start session env accessoryName identity mapper) := by
  obtain ⟨mux, houtbound, hcritical, hmotion, hcontrol⟩ :=
    TouchStream.beginHandshake_lanes session env accessoryName identity
  constructor
  · refine ⟨mux, houtbound, ?_⟩
    intro _
    refine ⟨∅, ⟨hcontrol, by simp [hcritical], by simp [hmotion]⟩, NativeInputController.holds_new _,
      ?_⟩
    rw [hcritical]
    rfl
  · intro held hheld
    exact absurd hheld (Finset.notMem_empty held)

/-- In every run, a host that has everything holds exactly what the display has announced. -/
theorem host_holds_announced {steps : List KeyStep} {s : KeyStream}
    (hrun : machine.run (start session env accessoryName identity mapper) steps = some s)
    (hdelivered : s.Delivered) : s.host.Holds s.announced := by
  have hsynchronized := machine.run_invariant Synchronized (fun _ _ _ h hstep => h.preserved hstep)
    (inv_start session env accessoryName identity mapper).synchronized hrun
  exact hsynchronized.delivered hdelivered

/-- In every run whose gate is open for the releases that the host waits for, a host that has
everything holds nothing once the device does. -/
theorem host_holds_nothing {steps : List KeyStep} {s : KeyStream}
    (hpasses : machine.Admits ReleasesPass (start session env accessoryName identity mapper) steps)
    (hrun : machine.run (start session env accessoryName identity mapper) steps = some s)
    (hsettled : s.Settled) : s.host.pressedKeys = [] ∧ s.host.pressedButtons = [] := by
  have hinv := machine.run_invariant_of_admits ReleasesPass Inv
    (fun _ _ _ h hstep => h.preserved hstep)
    (inv_start session env accessoryName identity mapper) hpasses hrun
  exact hinv.settled hsettled

end Generation

section Runs

instance (s : KeyStream) (capability : InputCapabilities) : Decidable (s.Opens capability) :=
  inferInstanceAs (Decidable (_ ∧ _))

instance (s : KeyStream) (code : DeviceCode) : Decidable (s.Announces code) :=
  decidable_of_iff (code.held.any (· ∈ s.announced) = true) (by
    rw [Option.any_eq_true]
    simp [Announces])

instance (s : KeyStream) : (step : KeyStep) → Decidable (s.ReleasesPass step)
  | .key _ => inferInstanceAs (Decidable (_ → _ → _))
  | .mouse .. => inferInstanceAs (Decidable (_ → _ → _ → _))
  | .touch .. | .focus .. | .callback .. | .write => .isTrue trivial

instance (s : KeyStream) : Decidable s.Delivered := inferInstanceAs (Decidable (_ ∧ _))

instance (s : KeyStream) : Decidable s.Settled := inferInstanceAs (Decidable (_ ∧ _))

/-- Up to full HD, with a pointer, a touch screen and a keyboard. -/
def everyInput : Android.CapabilitiesPayload :=
  { Android.CapabilitiesPayload.fullHd with input := .of 0b111 (.refl true) }

def connected : KeyStream := start (.new everyInput) .fresh "Host" .android TouchStream.hdScreen

/-- The host negotiates every input, and the decoder is ready. -/
def opening : List KeyStep :=
  ([(0, ⟨.hello, Android.HelloPayload.host⟩), (1, ⟨.capabilities, everyInput⟩),
    (2, ⟨.displayConfig, Android.DisplayConfigPayload.hd⟩)].filterMap
    fun (sequence, payload) => (LdflFrame.fromPayload .none sequence payload).toOption).map
    (fun frame => .callback 0 (.inboundFrame .fresh frame)) ++
    [.callback 0 (.decoderState (fun _ => .fresh) (.awaitingKeyframe .hd))]

def writes (count : Nat) : List KeyStep := List.replicate count .write

/-- The key A. -/
def letter (action : Android.KeyAction) : KeyStep := .key ⟨action, 29, 0, 0, 20⟩

/-- The primary button of a mouse at one place. -/
def primary (action : GenericMotionAction) : KeyStep :=
  .mouse 1280 720
    { isFromMouse := true
      actionMasked := action
      pointer := { pointerId := 0, locate := fun _ => ⟨true, 640, 360⟩, pressure := 0 }
      actionButton := 1
      horizontalScroll := 0
      verticalScroll := 0
      eventTime := 20 }

/-- A key and a button go down and up while the session is connected. -/
def click : List KeyStep :=
  opening ++ writes 2 ++ [letter .down, primary .buttonPress] ++ writes 3 ++
    [letter .up, primary .buttonRelease] ++ writes 3

theorem host_holds_nothing_click :
    ∃ s, machine.run connected click = some s ∧ s.host.injected.length = 6 ∧
      s.host.pressedKeys = [] ∧ s.host.pressedButtons = [] := by
  have hreached : (machine.run connected click).any
      (fun s => decide (s.host.injected.length = 6 ∧ s.Settled)) = true := by
    decide +kernel
  obtain ⟨s, hrun, hreached⟩ := (Option.any_eq_true _ _).mp hreached
  obtain ⟨hinjected, hsettled⟩ := of_decide_eq_true hreached
  exact ⟨s, hrun, hinjected, host_holds_nothing (.new everyInput) .fresh "Host" .android
    TouchStream.hdScreen (by decide +kernel) hrun hsettled⟩

/-- The decoder recovers while the key and the button are down, and they go up before it is back. -/
def recoveredClick : List KeyStep :=
  opening ++ writes 2 ++ [letter .down, primary .buttonPress] ++ writes 3 ++
    [.callback 0 (.decoderState (fun _ => .fresh) (.recovering .hd 1 "codec reset")),
      letter .up, primary .buttonRelease,
      .callback 0 (.decoderState (fun _ => .fresh) (.awaitingKeyframe .hd))]

/-- The gate drops the releases, and the host keeps the key and the button down. -/
theorem host_holds_released : ∃ s, machine.run connected recoveredClick = some s ∧ s.Settled ∧
    s.Opens .keyboard ∧ s.Opens .pointer ∧
    s.host.pressedKeys = [4] ∧ s.host.pressedButtons = [.primary] := by
  have hreached : (machine.run connected recoveredClick).any
      (fun s => decide (s.Settled ∧ s.Opens .keyboard ∧ s.Opens .pointer ∧
        s.host.pressedKeys = [4] ∧ s.host.pressedButtons = [.primary])) = true := by
    decide +kernel
  obtain ⟨s, hrun, hreached⟩ := (Option.any_eq_true _ _).mp hreached
  exact ⟨s, hrun, of_decide_eq_true hreached⟩

end Runs

end KeyStream

end LadoFlow.System
