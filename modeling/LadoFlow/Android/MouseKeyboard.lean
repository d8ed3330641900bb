import LadoFlow.Android.InputController

/-!
# Mouse and keyboard input of the display

`AndroidInputController.onGenericMotionEvent` and `onKeyEvent`. A mouse button is sent as a move to
its place, which may be coalesced, and the button itself, which may not. Key codes become the usages
of the USB keyboard page.
-/

namespace LadoFlow.Android

open Framework
open Protocol (ButtonState PointerButton)

/-- `eventTime.coerceAtLeast(0).toULong() * MICROS_PER_MILLISECOND` -/
def eventMicros (eventTime : Int64) : UInt64 :=
  (if eventTime < 0 then 0 else eventTime).toUInt64 * 1000

/-- `MotionEvent.getActionMasked`, as far as generic motion tells the actions apart. -/
inductive GenericMotionAction where
  | hoverMove
  | move
  | buttonPress
  | buttonRelease
  | scroll
  | other
  deriving DecidableEq, Repr

/-- The scroll axes are in wheel units, rounded; an axis that is not finite counts as zero. -/
structure GenericMotionEvent where
  isFromMouse : Bool
  actionMasked : GenericMotionAction
  pointer : MotionPointer
  actionButton : Int32
  horizontalScroll : Int32
  verticalScroll : Int32
  eventTime : Int64

/-- `Int.toPointerButton`, by the bits of `MotionEvent.BUTTON_PRIMARY` to `BUTTON_FORWARD`. -/
def toPointerButton (actionButton : Int32) : Option PointerButton :=
  [((1 : Int32), PointerButton.primary), (2, .secondary), (4, .middle), (8, .back),
    (16, .forward)].lookup actionButton

/-- `Float.wheelDelta` after the rounding -/
def wheelDelta (units : Int32) : Int16 := (coerceIn units (-32768) 32767).toInt16

inductive KeyAction where
  | down
  | up
  | other
  deriving DecidableEq, Repr

structure KeyEvent where
  action : KeyAction
  keyCode : Int32
  repeatCount : Int32
  metaState : Int32
  eventTime : Int64
  deriving DecidableEq

namespace AndroidHidUsageMapper

/-- The key codes outside the four consecutive ranges. -/
def singleUsages : List (Int32 × Int32) :=
  -- 0, ENTER, ESCAPE, DEL, TAB, SPACE
  [(7, 0x27), (66, 0x28), (111, 0x29), (67, 0x2a), (61, 0x2b), (62, 0x2c),
  -- MINUS, EQUALS, LEFT_BRACKET, RIGHT_BRACKET, BACKSLASH
    (69, 0x2d), (70, 0x2e), (71, 0x2f), (72, 0x30), (73, 0x31),
  -- SEMICOLON, APOSTROPHE, GRAVE, COMMA, PERIOD, SLASH, CAPS_LOCK
    (74, 0x33), (75, 0x34), (68, 0x35), (55, 0x36), (56, 0x37), (76, 0x38), (115, 0x39),
  -- SYSRQ, SCROLL_LOCK, BREAK, INSERT, MOVE_HOME, PAGE_UP, FORWARD_DEL, MOVE_END, PAGE_DOWN
    (120, 0x46), (116, 0x47), (121, 0x48), (124, 0x49), (122, 0x4a), (92, 0x4b), (112, 0x4c),
    (123, 0x4d), (93, 0x4e),
  -- DPAD_RIGHT, DPAD_LEFT, DPAD_DOWN, DPAD_UP, NUM_LOCK
    (22, 0x4f), (21, 0x50), (20, 0x51), (19, 0x52), (143, 0x53),
  -- NUMPAD_DIVIDE, MULTIPLY, SUBTRACT, ADD, ENTER, 0, DOT, and MENU
    (154, 0x54), (155, 0x55), (156, 0x56), (157, 0x57), (160, 0x58), (144, 0x62), (158, 0x63),
    (82, 0x65),
  -- CTRL, SHIFT, ALT and META, left and right
    (113, 0xe0), (59, 0xe1), (57, 0xe2), (117, 0xe3), (114, 0xe4), (60, 0xe5), (58, 0xe6),
    (118, 0xe7)]

/-- The usage of a key code in the range that begins with `first` at `usage`. -/
def offsetUsage (usage first keyCode : Int32) : Int32 := usage + keyCode - first

def usageForKeyCode (keyCode : Int32) : Option Int32 :=
  -- A to Z, 1 to 9, F1 to F12, NUMPAD_1 to NUMPAD_9
  if 29 ≤ keyCode ∧ keyCode ≤ 54 then some (offsetUsage 0x04 29 keyCode)
  else if 8 ≤ keyCode ∧ keyCode ≤ 16 then some (offsetUsage 0x1e 8 keyCode)
  else if 131 ≤ keyCode ∧ keyCode ≤ 142 then some (offsetUsage 0x3a 131 keyCode)
  else if 145 ≤ keyCode ∧ keyCode ≤ 153 then some (offsetUsage 0x59 145 keyCode)
  else singleUsages.lookup keyCode

/-- Each modifier bit with its mask in the meta state. -/
def modifierMasks : List (Int32 × Int32) :=
  -- META_SHIFT_ON, CTRL_ON, ALT_ON, META_ON, CAPS_LOCK_ON, NUM_LOCK_ON
  [(0x1, 1), (0x1000, 2), (0x2, 4), (0x10000, 8), (0x100000, 16), (0x200000, 32)]

def modifierBits (metaState : Int32) : Int32 :=
  modifierMasks.foldl (fun bits (mask, bit) => if metaState &&& mask ≠ 0 then bits ||| bit else bits) 0

theorem modifierBits_known (metaState : Int32) : modifierBits metaState &&& ~~~0b111111 = 0 := by
  simp only [modifierBits, modifierMasks, List.foldl]
  split_ifs <;> decide

/-- The source's check of the bits never fails. -/
def modifiers (metaState : Int32) : KeyModifiers :=
  ⟨modifierBits metaState, modifierBits_known metaState⟩

theorem modifiers_fromBits (metaState : Int32) :
    KeyModifiers.fromBits (modifierBits metaState) = .ok (modifiers metaState) :=
  BitSet.ofBits_eq_ok.mpr rfl

theorem singleUsages_range : ∀ entry ∈ singleUsages, 1 ≤ entry.2 ∧ entry.2 ≤ 0xffff := by
  have hall : singleUsages.all (fun entry => decide (1 ≤ entry.2 ∧ entry.2 ≤ 0xffff)) = true := by
    decide
  intro entry hentry
  exact of_decide_eq_true (List.all_eq_true.mp hall entry hentry)

theorem offsetUsage_range {usage first last keyCode : Int32}
    (hkey : first ≤ keyCode ∧ keyCode ≤ last) (hfirst : 0 ≤ first) (hlast : last ≤ 0xff)
    (husage : 1 ≤ usage ∧ usage ≤ 0xff) :
    1 ≤ offsetUsage usage first keyCode ∧ offsetUsage usage first keyCode ≤ 0xffff := by
  have hzero : (0 : Int32).toInt = 0 := rfl
  have hone : (1 : Int32).toInt = 1 := rfl
  have hbyte : (0xff : Int32).toInt = 0xff := rfl
  have hmax : (0xffff : Int32).toInt = 0xffff := rfl
  simp only [Int32.le_iff_toInt_le, hzero, hone, hbyte] at hkey hfirst hlast husage
  have hsum : (usage + keyCode).toInt = usage.toInt + keyCode.toInt := by
    rw [Int32.toInt_add, Int.bmod_eq_of_le (by omega) (by omega)]
  have hoffset : (offsetUsage usage first keyCode).toInt =
      usage.toInt + keyCode.toInt - first.toInt := by
    rw [offsetUsage, Int32.toInt_sub, hsum, Int.bmod_eq_of_le (by omega) (by omega)]
  rw [Int32.le_iff_toInt_le, Int32.le_iff_toInt_le, hoffset, hone, hmax]
  omega

/-- Every usage that a key code has is one that the wire carries. -/
theorem usageForKeyCode_range {keyCode usage : Int32} (h : usageForKeyCode keyCode = some usage) :
    1 ≤ usage ∧ usage ≤ 0xffff := by
  rw [usageForKeyCode] at h
  split_ifs at h with hletter hdigit hfunction hnumpad
  · cases h
    exact offsetUsage_range hletter (by decide) (by decide) (by decide)
  · cases h
    exact offsetUsage_range hdigit (by decide) (by decide) (by decide)
  · cases h
    exact offsetUsage_range hfunction (by decide) (by decide) (by decide)
  · cases h
    exact offsetUsage_range hnumpad (by decide) (by decide) (by decide)
  · obtain ⟨before, after, hsplit, -⟩ := List.lookup_eq_some_iff.mp h
    apply singleUsages_range (keyCode, usage)
    rw [hsplit]
    simp

end AndroidHidUsageMapper

namespace AndroidInputController

theorem pointerMove_valid (point : RemotePixel) :
    (InputEventBody.pointerMoveInput point.x point.y).init = .ok () := by
  simp only [InputEventBody.init, requireCoordinate]
  rw [requireProtocol_of point.x_range, requireProtocol_of point.y_range]
  rfl

theorem keyInput_valid {keyCode usage : Int32}
    (h : AndroidHidUsageMapper.usageForKeyCode keyCode = some usage) (state : ButtonState)
    (modifiers : KeyModifiers) : (InputEventBody.keyInput usage state modifiers).init = .ok () :=
  requireProtocol_of (AndroidHidUsageMapper.usageForKeyCode_range h)

def pointerMove (timestamp : UInt64) (point : RemotePixel) : AndroidInputEmission where
  payload :=
    { timestampMicros := timestamp
      event := .pointerMoveInput point.x point.y
      valid := pointerMove_valid point }
  delivery := .coalescible

def pointerButton (timestamp : UInt64) (button : PointerButton) (state : ButtonState) :
    AndroidInputEmission where
  payload :=
    { timestampMicros := timestamp
      event := .pointerButtonInput button state
      valid := rfl }
  delivery := .critical

def wheel (timestamp : UInt64) (deltaX deltaY : Int16) : AndroidInputEmission where
  payload := { timestampMicros := timestamp, event := .wheelInput deltaX deltaY, valid := rfl }
  delivery := .coalescible

variable (controller : AndroidInputController)

/-- Whether the event was handled, and what it emits. -/
def onGenericMotionEvent (viewWidth viewHeight : Int32) (event : GenericMotionEvent) :
    Bool × List AndroidInputEmission :=
  if ¬event.isFromMouse then (false, [])
  else
  match controller.transform viewWidth viewHeight with
  | none => (false, [])
  | some transform =>
    let point := transform.mapClamped event.pointer
    let timestamp := eventMicros event.eventTime
    match event.actionMasked with
    | .hoverMove | .move => (true, [pointerMove timestamp point])
    | .buttonPress | .buttonRelease =>
      match toPointerButton event.actionButton with
      | none => (false, [])
      | some button =>
        let state := if event.actionMasked = .buttonPress then .pressed else .released
        (true, [pointerMove timestamp point, pointerButton timestamp button state])
    | .scroll =>
      (true, [wheel timestamp (wheelDelta event.horizontalScroll) (wheelDelta event.verticalScroll)])
    | .other => (false, [])

/-- Whether the event was handled, and what it emits. A repeated press is handled silently. -/
def onKeyEvent (event : KeyEvent) : Bool × List AndroidInputEmission :=
  if event.action ≠ .down ∧ event.action ≠ .up then (false, [])
  else
  match husage : AndroidHidUsageMapper.usageForKeyCode event.keyCode with
  | none => (false, [])
  | some usage =>
    if event.action = .down ∧ event.repeatCount > 0 then (true, [])
    else
      let state := if event.action = .down then .pressed else .released
      let modifiers := AndroidHidUsageMapper.modifiers event.metaState
      (true, [{
        payload :=
          { timestampMicros := eventMicros event.eventTime
            event := .keyInput usage state modifiers
            valid := keyInput_valid husage state modifiers }
        delivery := .critical }])

/-- What a key event emits: nothing, or one key that may not be dropped. A mapped release is always
sent. -/
inductive KeyEmits (event : KeyEvent) : List AndroidInputEmission → Prop
  | silent (h : event.action = .up → AndroidHidUsageMapper.usageForKeyCode event.keyCode = none) :
    KeyEmits event []
  | sends (usage : Int32) (state : ButtonState) (modifiers : KeyModifiers)
    (emission : AndroidInputEmission)
    (husage : AndroidHidUsageMapper.usageForKeyCode event.keyCode = some usage)
    (haction : event.action = if state = .pressed then .down else .up)
    (hevent : emission.payload.event = .keyInput usage state modifiers)
    (hdelivery : emission.delivery = .critical) : KeyEmits event [emission]

theorem onKeyEvent_emits (event : KeyEvent) : KeyEmits event (onKeyEvent event).2 := by
  rw [onKeyEvent]
  split
  case isTrue hother =>
    apply KeyEmits.silent
    intro hup
    exact absurd hup hother.2
  case isFalse haction =>
    split
    case h_1 hnone => exact .silent fun _ => hnone
    case h_2 usage husage =>
      split
      case isTrue hrepeated =>
        apply KeyEmits.silent
        intro hup
        rw [hup] at hrepeated
        cases hrepeated.1
      case isFalse =>
        by_cases hdown : event.action = .down
        · exact .sends usage .pressed (AndroidHidUsageMapper.modifiers event.metaState) _ husage hdown
            (by simp [hdown]) rfl
        · have hup : event.action = .up := by
            by_contra hup
            exact haction ⟨hdown, hup⟩
          exact .sends usage .released (AndroidHidUsageMapper.modifiers event.metaState) _ husage hup
            (by simp [hup]) rfl

/-- What a mouse event emits: motion that may be dropped, or a button after the move to its place. A
known button is always sent while there is a transform. -/
inductive MouseEmits (transform : Option ViewportTransform) (event : GenericMotionEvent) :
    List AndroidInputEmission → Prop
  | silent (h : event.isFromMouse = true → event.actionMasked = .buttonRelease →
      transform.isSome = true → toPointerButton event.actionButton = none) :
    MouseEmits transform event []
  | motion (emission : AndroidInputEmission)
    (haction : event.actionMasked ≠ .buttonPress ∧ event.actionMasked ≠ .buttonRelease)
    (hmotion : (∃ timestamp point, emission = pointerMove timestamp point) ∨
      ∃ timestamp deltaX deltaY, emission = wheel timestamp deltaX deltaY) :
    MouseEmits transform event [emission]
  | button (button : PointerButton) (state : ButtonState) (timestamp : UInt64) (point : RemotePixel)
    (hbutton : toPointerButton event.actionButton = some button)
    (hmouse : event.isFromMouse = true)
    (haction : event.actionMasked = if state = .pressed then .buttonPress else .buttonRelease) :
    MouseEmits transform event [pointerMove timestamp point, pointerButton timestamp button state]

theorem onGenericMotionEvent_emits (viewWidth viewHeight : Int32) (event : GenericMotionEvent) :
    MouseEmits (controller.transform viewWidth viewHeight) event
      (controller.onGenericMotionEvent viewWidth viewHeight event).2 := by
  rw [onGenericMotionEvent]
  split
  case isTrue hother =>
    apply MouseEmits.silent
    intro hmouse
    exact absurd hmouse hother
  case isFalse hmouse =>
    rw [not_not] at hmouse
    split
    case h_1 hnone =>
      apply MouseEmits.silent
      intro _ _ hsome
      rw [hnone] at hsome
      cases hsome
    case h_2 transform htransform =>
      cases haction : event.actionMasked with
      | hoverMove | move =>
        apply MouseEmits.motion
        · simp [haction]
        · exact .inl ⟨_, _, rfl⟩
      | scroll =>
        apply MouseEmits.motion
        · simp [haction]
        · exact .inr ⟨_, _, _, rfl⟩
      | other =>
        apply MouseEmits.silent
        simp [haction]
      | buttonPress =>
        cases hbutton : toPointerButton event.actionButton with
        | none =>
          apply MouseEmits.silent
          simp [haction]
        | some button => exact .button button .pressed _ _ hbutton hmouse haction
      | buttonRelease =>
        cases hbutton : toPointerButton event.actionButton with
        | none => exact .silent fun _ _ _ => hbutton
        | some button => exact .button button .released _ _ hbutton hmouse haction

end AndroidInputController

end LadoFlow.Android
