import LadoFlow.Protocol.Contact
import Mathlib.Logic.Function.Basic

/-!
# Windows input injection

`NativeInputController` keeps the remote input state of one display session and injects each event
through Windows. The answers of Windows are an argument of every operation.
-/

namespace LadoFlow.Host

open LadoFlow.Protocol Framework

structure ScreenPoint where
  x : Int32
  y : Int32
  deriving DecidableEq, Repr

/-- `RECT` -/
structure Rect where
  left : Int32
  top : Int32
  right : Int32
  bottom : Int32
  deriving DecidableEq, Repr

def validateRect (rect : Rect) (name : String) : Except String Unit :=
  if rect.right ≤ rect.left ∨ rect.bottom ≤ rect.top then .error (name ++ " has invalid geometry")
  else .ok ()

/-- `i32::try_from` -/
def tryFromI32 (value : Int) : Option Int32 :=
  if -2 ^ 31 ≤ value ∧ value < 2 ^ 31 then some (Int32.ofInt value) else none

/-- The products stay below `2 ^ 48`, far from the bounds of `i64`. -/
def scaleCoordinate (value sourceExtent : UInt16) (targetStart targetEnd : Int32) (axis : String) :
    Except String Int32 :=
  if value ≥ sourceExtent then
    .error s!"remote {axis} coordinate {value} exceeds negotiated extent {sourceExtent}"
  else
  let targetExtent := targetEnd.toInt - targetStart.toInt
  if sourceExtent = 1 ∨ targetExtent = 1 then .ok targetStart
  else
  let scaled := (value.toNat * (targetExtent - 1)).tdiv (sourceExtent.toNat - 1)
  match tryFromI32 (targetStart.toInt + scaled) with
  | some mapped => .ok mapped
  | none => .error s!"mapped Windows {axis} coordinate overflowed"

def normalizedMouseMax : Int := 65535

def normalizeVirtualCoordinate (value start stop : Int32) : Except String Int32 :=
  if value < start ∨ value ≥ stop then
    .error (s!"mapped input coordinate {value} lies outside Windows virtual desktop " ++
      s!"{start}..{stop}")
  else
  let extent := stop.toInt - start.toInt
  let normalized :=
    if extent = 1 then 0
    else ((value.toInt - start.toInt) * normalizedMouseMax).tdiv (extent - 1)
  match tryFromI32 normalized with
  | some mapped => .ok mapped
  | none => .error "normalized mouse coordinate overflowed"

def CoordinateMapper.validate (sourceWidth sourceHeight : UInt16) (target virtualDesktop : Rect) :
    Except String Unit := do
  if sourceWidth = 0 ∨ sourceHeight = 0 then .error "input source dimensions must be non-zero"
  else
  validateRect target "selected Windows display"
  validateRect virtualDesktop "Windows virtual desktop"

structure CoordinateMapper where
  sourceWidth : UInt16
  sourceHeight : UInt16
  target : Rect
  virtualDesktop : Rect
  valid : CoordinateMapper.validate sourceWidth sourceHeight target virtualDesktop = .ok ()
  deriving DecidableEq

namespace CoordinateMapper

def screenPoint (mapper : CoordinateMapper) (x y : UInt16) : Except String ScreenPoint := do
  .ok
    { x := ← scaleCoordinate x mapper.sourceWidth mapper.target.left mapper.target.right "x"
      y := ← scaleCoordinate y mapper.sourceHeight mapper.target.top mapper.target.bottom "y" }

def normalizedMouse (mapper : CoordinateMapper) (point : ScreenPoint) :
    Except String ScreenPoint := do
  .ok
    { x := ← normalizeVirtualCoordinate point.x mapper.virtualDesktop.left
        mapper.virtualDesktop.right
      y := ← normalizeVirtualCoordinate point.y mapper.virtualDesktop.top
        mapper.virtualDesktop.bottom }

theorem validateRect_eq_ok {rect : Rect} {name : String} {u : Unit} :
    validateRect rect name = .ok u ↔ rect.left < rect.right ∧ rect.top < rect.bottom := by
  simp [validateRect, Int32.not_le]

theorem target_valid (mapper : CoordinateMapper) :
    mapper.target.left < mapper.target.right ∧ mapper.target.top < mapper.target.bottom := by
  have hvalid := mapper.valid
  simp only [validate, ite_error_eq_ok, bind_eq_ok, validateRect_eq_ok] at hvalid
  obtain ⟨-, -, htarget, -⟩ := hvalid
  exact htarget

end CoordinateMapper

/-- A coordinate inside the source maps into the target. -/
theorem scaleCoordinate_ok {value sourceExtent : UInt16} {targetStart targetEnd : Int32}
    (axis : String) (hvalue : value < sourceExtent) (htarget : targetStart < targetEnd) :
    ∃ mapped, scaleCoordinate value sourceExtent targetStart targetEnd axis = .ok mapped := by
  simp only [scaleCoordinate, if_neg (UInt16.not_le.mpr hvalue)]
  split
  · exact ⟨_, rfl⟩
  · rename_i hextent
    rw [not_or] at hextent
    have hlt : value.toNat < sourceExtent.toNat := UInt16.lt_iff_toNat_lt.mp hvalue
    have hone : sourceExtent.toNat ≠ 1 := fun h => hextent.1 (UInt16.toNat_inj.mp h)
    have hspan : targetStart.toInt < targetEnd.toInt := Int32.lt_iff_toInt_lt.mp htarget
    have hend := targetEnd.toInt_lt
    have hstart := targetStart.le_toInt
    have hnonneg : 0 ≤ (value.toNat : Int) * (targetEnd.toInt - targetStart.toInt - 1) :=
      Int.mul_nonneg (by omega) (by omega)
    have hscaled : ((value.toNat : Int) * (targetEnd.toInt - targetStart.toInt - 1)).tdiv
        (sourceExtent.toNat - 1) ≤ targetEnd.toInt - targetStart.toInt - 1 := by
      rw [Int.tdiv_eq_ediv_of_nonneg hnonneg]
      refine Int.ediv_le_of_le_mul (by omega) ?_
      rw [Int.mul_comm]
      exact Int.mul_le_mul_of_nonneg_left (by omega) (by omega)
    have hpos := Int.tdiv_nonneg hnonneg (by omega : 0 ≤ (sourceExtent.toNat : Int) - 1)
    rw [tryFromI32, if_pos (by omega)]
    exact ⟨_, rfl⟩

theorem CoordinateMapper.screenPoint_ok (mapper : CoordinateMapper) {x y : UInt16}
    (hx : x < mapper.sourceWidth) (hy : y < mapper.sourceHeight) :
    ∃ point, mapper.screenPoint x y = .ok point := by
  obtain ⟨mappedX, hmappedX⟩ := scaleCoordinate_ok "x" hx mapper.target_valid.1
  obtain ⟨mappedY, hmappedY⟩ := scaleCoordinate_ok "y" hy mapper.target_valid.2
  exact ⟨⟨mappedX, mappedY⟩, by rw [screenPoint, hmappedX, bind_ok, hmappedY, bind_ok]⟩

structure ActiveTouch where
  point : ScreenPoint
  pressure : UInt16
  deriving DecidableEq, Repr

structure KeyMapping where
  virtualKey : UInt16
  extended : Bool
  deriving DecidableEq, Repr

def hidUsageToKey (usage : UInt16) : Option KeyMapping :=
  if 0x04 ≤ usage ∧ usage ≤ 0x1d then some ⟨0x41 + usage - 0x04, false⟩
  else if 0x1e ≤ usage ∧ usage ≤ 0x26 then some ⟨0x31 + usage - 0x1e, false⟩
  else if 0x3a ≤ usage ∧ usage ≤ 0x45 then some ⟨0x70 + usage - 0x3a, false⟩
  else if 0x59 ≤ usage ∧ usage ≤ 0x61 then some ⟨0x61 + usage - 0x59, false⟩
  else
  match usage with
  | 0x27 => some ⟨0x30, false⟩
  | 0x28 => some ⟨0x0d, false⟩
  | 0x29 => some ⟨0x1b, false⟩
  | 0x2a => some ⟨0x08, false⟩
  | 0x2b => some ⟨0x09, false⟩
  | 0x2c => some ⟨0x20, false⟩
  | 0x2d => some ⟨0xbd, false⟩
  | 0x2e => some ⟨0xbb, false⟩
  | 0x2f => some ⟨0xdb, false⟩
  | 0x30 => some ⟨0xdd, false⟩
  | 0x31 => some ⟨0xdc, false⟩
  | 0x33 => some ⟨0xba, false⟩
  | 0x34 => some ⟨0xde, false⟩
  | 0x35 => some ⟨0xc0, false⟩
  | 0x36 => some ⟨0xbc, false⟩
  | 0x37 => some ⟨0xbe, false⟩
  | 0x38 => some ⟨0xbf, false⟩
  | 0x39 => some ⟨0x14, false⟩
  | 0x46 => some ⟨0x2c, true⟩
  | 0x47 => some ⟨0x91, false⟩
  | 0x48 => some ⟨0x13, false⟩
  | 0x49 => some ⟨0x2d, true⟩
  | 0x4a => some ⟨0x24, true⟩
  | 0x4b => some ⟨0x21, true⟩
  | 0x4c => some ⟨0x2e, true⟩
  | 0x4d => some ⟨0x23, true⟩
  | 0x4e => some ⟨0x22, true⟩
  | 0x4f => some ⟨0x27, true⟩
  | 0x50 => some ⟨0x25, true⟩
  | 0x51 => some ⟨0x28, true⟩
  | 0x52 => some ⟨0x26, true⟩
  | 0x53 => some ⟨0x90, true⟩
  | 0x54 => some ⟨0x6f, true⟩
  | 0x55 => some ⟨0x6a, false⟩
  | 0x56 => some ⟨0x6d, false⟩
  | 0x57 => some ⟨0x6b, false⟩
  | 0x58 => some ⟨0x0d, true⟩
  | 0x62 => some ⟨0x60, false⟩
  | 0x63 => some ⟨0x6e, false⟩
  | 0x65 => some ⟨0x5d, true⟩
  | 0xe0 => some ⟨0xa2, false⟩
  | 0xe1 => some ⟨0xa0, false⟩
  | 0xe2 => some ⟨0xa4, false⟩
  | 0xe3 => some ⟨0x5b, true⟩
  | 0xe4 => some ⟨0xa3, true⟩
  | 0xe5 => some ⟨0xa1, false⟩
  | 0xe6 => some ⟨0xa5, true⟩
  | 0xe7 => some ⟨0x5c, true⟩
  | _ => none

/-- The flag combinations that a touch frame uses. -/
inductive PointerFlags where
  | down
  | update
  | up
  | canceled
  deriving DecidableEq, Repr

def touchPointerFlags : TouchPhase → PointerFlags
  | .begin => .down
  | .move => .update
  | .end => .up
  | .cancel => .canceled

/-- `POINTER_TOUCH_INFO` -/
structure TouchInfo where
  pointerId : UInt32
  pointerFlags : PointerFlags
  point : ScreenPoint
  contactRect : Rect
  pressure : UInt32
  deriving DecidableEq, Repr

def touchContactRadius : Int := 2
def touchPressureMax : UInt32 := 1024

/-- `i32::saturating_add` -/
def saturatingAddI32 (a : Int32) (b : Int) : Int32 :=
  Int32.ofInt (max (-2 ^ 31) (min (a.toInt + b) (2 ^ 31 - 1)))

def touchInfo (contactId : Contact) (contact : ActiveTouch) (pointerFlags : PointerFlags)
    (bounds : Rect) : TouchInfo where
  pointerId := UInt32.ofNat (contactId.val + 1)
  pointerFlags := pointerFlags
  point := contact.point
  contactRect :=
    { left := max (saturatingAddI32 contact.point.x (-touchContactRadius)) bounds.left
      top := max (saturatingAddI32 contact.point.y (-touchContactRadius)) bounds.top
      right := min (saturatingAddI32 contact.point.x touchContactRadius) bounds.right
      bottom := min (saturatingAddI32 contact.point.y touchContactRadius) bounds.bottom }
  pressure := contact.pressure.toUInt32 * touchPressureMax / 65535

def touchFrame (touches : Contact → Option ActiveTouch) (changed : Option (Contact × TouchPhase))
    (bounds : Rect) : List TouchInfo :=
  (List.finRange 16).filterMap fun contactId =>
    (touches contactId).map fun contact =>
      let flags :=
        match changed with
        | none => .canceled
        | some (changedId, phase) =>
          if contactId = changedId then touchPointerFlags phase else .update
      touchInfo contactId contact flags bounds

/-- A request to Windows. -/
inductive OsCall where
  | initializeTouch
  | touchInput (contacts : List TouchInfo)
  | mouseMove (point : ScreenPoint)
  | mouseButton (button : PointerButton) (state : ButtonState)
  | wheel (deltaX deltaY : Int16)
  | keyboard (mapping : KeyMapping) (state : ButtonState)
  deriving DecidableEq

/-- Remote input state of one negotiated display session. -/
structure NativeInputController where
  mapper : CoordinateMapper
  pressedButtons : List PointerButton
  pressedKeys : List UInt16
  touches : Contact → Option ActiveTouch
  /-- The injections that Windows accepted, in order. -/
  injected : List OsCall

namespace NativeInputController

variable (os : OsCall → Except String Unit)

def new (mapper : CoordinateMapper) : NativeInputController := ⟨mapper, [], [], fun _ => none, []⟩

def send (controller : NativeInputController) (call : OsCall) :
    Except String Unit × NativeInputController :=
  match os call with
  | .ok () => (.ok (), { controller with injected := controller.injected ++ [call] })
  | .error error => (.error error, controller)

def pointerMove (controller : NativeInputController) (x y : UInt16) :
    Except String Unit × NativeInputController :=
  match (do controller.mapper.normalizedMouse (← controller.mapper.screenPoint x y)) with
  | .ok point => controller.send os (.mouseMove point)
  | .error error => (.error error, controller)

def pointerButton (controller : NativeInputController) (button : PointerButton)
    (state : ButtonState) : Except String Unit × NativeInputController :=
  let pressed := decide (state = .pressed)
  if decide (button ∈ controller.pressedButtons) = pressed then (.ok (), controller)
  else
  match controller.send os (.mouseButton button state) with
  | (.error error, controller) => (.error error, controller)
  | (.ok (), controller) => (.ok (),
    if pressed then { controller with pressedButtons := button :: controller.pressedButtons }
    else { controller with pressedButtons := controller.pressedButtons.erase button })

def wheel (controller : NativeInputController) (deltaX deltaY : Int16) :
    Except String Unit × NativeInputController :=
  if deltaX = 0 ∧ deltaY = 0 then (.ok (), controller)
  else controller.send os (.wheel deltaX deltaY)

def key (controller : NativeInputController) (usage : UInt16) (state : ButtonState) :
    Except String Unit × NativeInputController :=
  match hidUsageToKey usage with
  | none => (.error ("unsupported USB HID keyboard usage 0x" ++
      (String.ofList (Nat.toDigits 16 usage.toNat)).leftpad 4 '0'), controller)
  | some mapping =>
    let pressed := decide (state = .pressed)
    if decide (usage ∈ controller.pressedKeys) = pressed then (.ok (), controller)
    else
    match controller.send os (.keyboard mapping state) with
    | (.error error, controller) => (.error error, controller)
    | (.ok (), controller) => (.ok (),
      if pressed then { controller with pressedKeys := usage :: controller.pressedKeys }
      else { controller with pressedKeys := controller.pressedKeys.erase usage })

def touch (controller : NativeInputController) (contactId : Contact) (phase : TouchPhase)
    (x y pressure : UInt16) : Except String Unit × NativeInputController :=
  match os .initializeTouch with
  | .error error => (.error error, controller)
  | .ok () =>
  match controller.mapper.screenPoint x y with
  | .error error => (.error error, controller)
  | .ok point =>
  if phase = .begin ∧ (controller.touches contactId).isSome then
    (.error s!"touch contact {contactId} began twice", controller)
  else if phase ≠ .begin ∧ (controller.touches contactId).isNone then
    (.error s!"touch contact {contactId} changed before begin", controller)
  else
  let next := Function.update controller.touches contactId (some ⟨point, pressure⟩)
  let contacts := touchFrame next (some (contactId, phase)) controller.mapper.virtualDesktop
  match controller.send os (.touchInput contacts) with
  | (.error error, controller) => (.error error, controller)
  | (.ok (), controller) => (.ok (),
    if phase = .end ∨ phase = .cancel then
      { controller with touches := Function.update next contactId none }
    else { controller with touches := next })

def cancelTouches (controller : NativeInputController) :
    Except String Unit × NativeInputController :=
  if ∀ contactId, controller.touches contactId = none then (.ok (), controller)
  else
  match os .initializeTouch with
  | .error error => (.error error, controller)
  | .ok () =>
  match controller.send os
      (.touchInput (touchFrame controller.touches none controller.mapper.virtualDesktop)) with
  | (.error error, controller) => (.error error, controller)
  | (.ok (), controller) => (.ok (), { controller with touches := fun _ => none })

/-- Attempt every release and keep the errors; the source visits the sets in no fixed order. -/
def attemptAll {α : Type} (release : NativeInputController → α →
    Except String Unit × NativeInputController) :
    NativeInputController → List α → List String × NativeInputController
  | controller, [] => ([], controller)
  | controller, a :: as =>
    match release controller a with
    | (.ok (), controller) => attemptAll release controller as
    | (.error error, controller) =>
      let (errors, controller) := attemptAll release controller as
      (error :: errors, controller)

def releaseAll (controller : NativeInputController) :
    Except String Unit × NativeInputController :=
  let touches := controller.cancelTouches os
  let touchErrors := match touches.1 with
    | .ok () => []
    | .error error => [error]
  let buttons := attemptAll (fun controller button => controller.pointerButton os button .released)
    touches.2 touches.2.pressedButtons
  let keys := attemptAll (fun controller usage => controller.key os usage .released)
    buttons.2 buttons.2.pressedKeys
  let errors := touchErrors ++ buttons.1 ++ keys.1
  (if errors = [] then .ok ()
    else .error ("failed to release remote Windows input state: " ++ "; ".intercalate errors),
    keys.2)

/-- An index past the contact table would panic; a decoded event has none. -/
def inject (controller : NativeInputController) (event : InputEvent) :
    Except String Unit × NativeInputController :=
  match event.kind with
  | .pointerMove x y => controller.pointerMove os x y
  | .pointerButton button state => controller.pointerButton os button state
  | .wheel deltaX deltaY => controller.wheel os deltaX deltaY
  | .key usage state _ => controller.key os usage state
  | .touch contactId phase x y pressure =>
    if h : contactId.toNat < 16 then controller.touch os ⟨contactId.toNat, h⟩ phase x y pressure
    else (.error s!"index out of bounds: the len is 16 but the index is {contactId}", controller)
  | .focus true => (.ok (), controller)
  | .focus false => controller.releaseAll os

section Contacts

variable {os} {controller : NativeInputController}

/-- The contacts that are down. -/
def active (controller : NativeInputController) : Finset Contact :=
  Finset.univ.filter fun contactId => (controller.touches contactId).isSome

@[simp] theorem mem_active {contactId : Contact} :
    contactId ∈ controller.active ↔ controller.touches contactId ≠ none := by
  simp [active, Option.isSome_iff_ne_none]

theorem active_of_touches {other : NativeInputController} (h : other.touches = controller.touches) :
    other.active = controller.active := by
  simp only [active, h]

/-- Events that leave the contacts alone. -/
structure Keeps (before after : NativeInputController) : Prop where
  touches : after.touches = before.touches
  mapper : after.mapper = before.mapper

theorem Keeps.trans {a b c : NativeInputController} (hab : Keeps a b) (hbc : Keeps b c) :
    Keeps a c :=
  ⟨hbc.touches.trans hab.touches, hbc.mapper.trans hab.mapper⟩

theorem send_keeps (call : OsCall) : Keeps controller (controller.send os call).2 := by
  rw [send]
  split <;> exact ⟨rfl, rfl⟩

theorem pointerMove_keeps (x y : UInt16) : Keeps controller (controller.pointerMove os x y).2 := by
  simp only [pointerMove]
  split
  · exact send_keeps _
  · exact ⟨rfl, rfl⟩

theorem pointerButton_keeps (button : PointerButton) (state : ButtonState) :
    Keeps controller (controller.pointerButton os button state).2 := by
  have hsend := @send_keeps os controller (.mouseButton button state)
  simp only [pointerButton]
  split
  · exact ⟨rfl, rfl⟩
  · split
    · rename_i error after hresult
      rw [hresult] at hsend
      exact hsend
    · rename_i after hresult
      rw [hresult] at hsend
      split <;> exact ⟨hsend.touches, hsend.mapper⟩

theorem wheel_keeps (deltaX deltaY : Int16) :
    Keeps controller (controller.wheel os deltaX deltaY).2 := by
  rw [wheel]
  split
  · exact ⟨rfl, rfl⟩
  · exact send_keeps _

theorem key_keeps (usage : UInt16) (state : ButtonState) :
    Keeps controller (controller.key os usage state).2 := by
  simp only [key]
  split
  · exact ⟨rfl, rfl⟩
  · rename_i mapping hmapping
    have hsend := @send_keeps os controller (.keyboard mapping state)
    split
    · exact ⟨rfl, rfl⟩
    · split
      · rename_i error after hresult
        rw [hresult] at hsend
        exact hsend
      · rename_i after hresult
        rw [hresult] at hsend
        split <;> exact ⟨hsend.touches, hsend.mapper⟩

theorem attemptAll_keeps {α : Type} {release : NativeInputController → α →
    Except String Unit × NativeInputController}
    (hrelease : ∀ controller a, Keeps controller (release controller a).2) (as : List α) :
    Keeps controller (attemptAll release controller as).2 := by
  induction as generalizing controller with
  | nil => exact ⟨rfl, rfl⟩
  | cons a as ih =>
    have ha := hrelease controller a
    simp only [attemptAll]
    split
    · rename_i after hresult
      rw [hresult] at ha
      exact ha.trans ih
    · rename_i error after hresult
      rw [hresult] at ha
      exact ha.trans ih

theorem releaseAll_active (hos : ∀ call, os call = .ok ()) :
    (controller.releaseAll os).2.active = ∅ ∧
      (controller.releaseAll os).2.mapper = controller.mapper := by
  have hcancel : (∀ contactId, (controller.cancelTouches os).2.touches contactId = none) ∧
      (controller.cancelTouches os).2.mapper = controller.mapper := by
    rw [cancelTouches]
    split
    · rename_i hnone
      exact ⟨hnone, rfl⟩
    · simp only [send, hos]
      exact ⟨fun _ => trivial, trivial⟩
  have hkeeps : Keeps (controller.cancelTouches os).2 (controller.releaseAll os).2 :=
    (attemptAll_keeps (fun controller button => pointerButton_keeps button .released) _).trans
      (attemptAll_keeps (fun controller usage => key_keeps usage .released) _)
  constructor
  · ext contactId
    rw [mem_active, hkeeps.touches, hcancel.1]
    simp
  · exact hkeeps.mapper.trans hcancel.2

/-- A phase that the contact allows is injected and recorded. -/
theorem touch_accepted {contactId : Contact} {phase : TouchPhase} {x y pressure : UInt16}
    (hos : ∀ call, os call = .ok ()) (hx : x < controller.mapper.sourceWidth)
    (hy : y < controller.mapper.sourceHeight)
    (hphase : phase = .begin ↔ controller.touches contactId = none) :
    ∃ contact injected, controller.touch os contactId phase x y pressure = (.ok (),
      { controller with
        touches := Function.update controller.touches contactId
          (if phase = .end ∨ phase = .cancel then none else some contact)
        injected }) := by
  obtain ⟨point, hpoint⟩ := controller.mapper.screenPoint_ok hx hy
  have htwice : ¬(phase = .begin ∧ (controller.touches contactId).isSome) := by
    rintro ⟨hbegin, hsome⟩
    rw [hphase.mp hbegin] at hsome
    cases hsome
  have hbefore : ¬(phase ≠ .begin ∧ (controller.touches contactId).isNone) := by
    rintro ⟨hbegin, hnone⟩
    exact hbegin (hphase.mpr (Option.isNone_iff_eq_none.mp hnone))
  refine ⟨⟨point, pressure⟩, controller.injected ++ [.touchInput (touchFrame
    (Function.update controller.touches contactId (some ⟨point, pressure⟩))
    (some (contactId, phase)) controller.mapper.virtualDesktop)], ?_⟩
  simp only [touch, hos, hpoint, send, if_neg htwice, if_neg hbefore]
  split
  · rw [Function.update_idem]
  · rfl

theorem touch_active {down : Finset Contact} {contactId : Contact} {phase : TouchPhase}
    {x y pressure : UInt16} (hos : ∀ call, os call = .ok ())
    (hx : x < controller.mapper.sourceWidth) (hy : y < controller.mapper.sourceHeight)
    (hstep : ContactAutomaton.step controller.active (.touch contactId phase) = some down) :
    (controller.touch os contactId phase x y pressure).1 = .ok () ∧
      (controller.touch os contactId phase x y pressure).2.active = down ∧
      (controller.touch os contactId phase x y pressure).2.mapper = controller.mapper := by
  have hphase : phase = .begin ↔ controller.touches contactId = none := by
    cases phase <;> simp only [ContactAutomaton.step, mem_active] at hstep <;>
      split at hstep <;> simp_all
  obtain ⟨contact, injected, htouch⟩ := @touch_accepted os controller contactId phase x y pressure
    hos hx hy hphase
  rw [htouch]
  refine ⟨rfl, ?_, rfl⟩
  ext other
  rw [mem_active]
  -- The sets differ at the changed contact only.
  cases phase <;> simp only [ContactAutomaton.step] at hstep <;> split at hstep <;> cases hstep <;>
    by_cases hother : other = contactId <;> simp_all

/-- The controller follows the contact automaton, and accepts every touch that it allows. -/
theorem inject_active {down : Finset Contact} {event : InputEvent}
    (hos : ∀ call, os call = .ok ())
    (hinside : ∀ contactId phase x y pressure, event.kind = .touch contactId phase x y pressure →
      x < controller.mapper.sourceWidth ∧ y < controller.mapper.sourceHeight)
    (hstep : ContactAutomaton.step controller.active event.kind.signal = some down) :
    (controller.inject os event).2.active = down ∧
      (controller.inject os event).2.mapper = controller.mapper ∧
      ∀ contactId phase x y pressure, event.kind = .touch contactId phase x y pressure →
        (controller.inject os event).1 = .ok () := by
  rw [inject]
  cases hkind : event.kind with
  | pointerMove x y =>
    rw [hkind] at hstep
    cases hstep
    have hkeeps := @pointerMove_keeps os controller x y
    exact ⟨active_of_touches hkeeps.touches, hkeeps.mapper, nofun⟩
  | pointerButton button state =>
    rw [hkind] at hstep
    cases hstep
    have hkeeps := @pointerButton_keeps os controller button state
    exact ⟨active_of_touches hkeeps.touches, hkeeps.mapper, nofun⟩
  | wheel deltaX deltaY =>
    rw [hkind] at hstep
    cases hstep
    have hkeeps := @wheel_keeps os controller deltaX deltaY
    exact ⟨active_of_touches hkeeps.touches, hkeeps.mapper, nofun⟩
  | key usage state modifiers =>
    rw [hkind] at hstep
    cases hstep
    have hkeeps := @key_keeps os controller usage state
    exact ⟨active_of_touches hkeeps.touches, hkeeps.mapper, nofun⟩
  | touch contactId phase x y pressure =>
    have hindex := event.contactId_lt hkind
    obtain ⟨hx, hy⟩ := hinside contactId phase x y pressure hkind
    rw [hkind, InputEventKind.signal, dif_pos hindex] at hstep
    obtain ⟨hok, hactive, hmapper⟩ :=
      @touch_active os controller down ⟨contactId.toNat, hindex⟩ phase x y pressure hos hx hy hstep
    simp only [dif_pos hindex]
    exact ⟨hactive, hmapper, fun _ _ _ _ _ _ => hok⟩
  | focus focused =>
    rw [hkind] at hstep
    cases focused with
    | true =>
      cases hstep
      exact ⟨rfl, rfl, nofun⟩
    | false =>
      cases hstep
      exact ⟨(releaseAll_active hos).1, (releaseAll_active hos).2, nofun⟩

end Contacts

end NativeInputController

end LadoFlow.Host
