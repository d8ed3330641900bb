import LadoFlow.Framework.Held
import LadoFlow.Host.InputInjector

/-!
# Keys and buttons that the host holds down

While Windows accepts every injection, the pressed sets of the native controller follow the presses,
releases and focus losses of its events. Usages that the host does not know are never held.
-/

namespace LadoFlow.Host

open LadoFlow.Protocol Framework

inductive HeldCode where
  | key (usage : UInt16)
  | button (button : PointerButton)
  deriving DecidableEq, Repr

def HeldCode.signal (code : HeldCode) : ButtonState → HeldSignal HeldCode
  | .pressed => .press code
  | .released => .release code

def keySignal (usage : UInt16) : ButtonState → HeldSignal HeldCode
  | .pressed => if (hidUsageToKey usage).isSome then .press (.key usage) else .quiet
  | .released => .release (.key usage)

/-- What an input event says about keys and buttons. -/
def heldSignal : InputEventKind → HeldSignal HeldCode
  | .key usage state _ => keySignal usage state
  | .pointerButton button state => (HeldCode.button button).signal state
  | .focus false => .clear
  | _ => .quiet

/-- The set that keeps `a` in or out, as the source updates its pressed sets. -/
def pressed {α : Type} [DecidableEq α] (values : List α) (a : α) (state : ButtonState) : List α :=
  if decide (a ∈ values) = decide (state = .pressed) then values
  else if state = .pressed then a :: values
  else values.erase a

section Pressed

variable {α : Type} [DecidableEq α] {values : List α}

theorem pressed_nodup (h : values.Nodup) (a : α) (state : ButtonState) :
    (pressed values a state).Nodup := by
  rw [pressed]
  split
  · exact h
  case isFalse hchanges =>
    split
    case isTrue hpressed =>
      apply List.nodup_cons.mpr
      refine ⟨?_, h⟩
      intro hmem
      apply hchanges
      simp [hmem, hpressed]
    case isFalse => exact h.erase a

theorem mem_pressed {a b : α} : b ∈ pressed values a .pressed ↔ b = a ∨ b ∈ values := by
  by_cases hmem : a ∈ values
  · simp only [pressed, hmem, decide_true, if_true]
    constructor
    · exact .inr
    · intro h
      cases h with
      | inl heq => exact heq ▸ hmem
      | inr hold => exact hold
  · simp [pressed, hmem]

theorem mem_released (h : values.Nodup) {a b : α} :
    b ∈ pressed values a .released ↔ b ≠ a ∧ b ∈ values := by
  by_cases hmem : a ∈ values
  · simp [pressed, hmem, h.mem_erase_iff]
  · simp only [pressed, hmem, decide_false, reduceCtorEq, if_true]
    constructor
    · intro hold
      refine ⟨?_, hold⟩
      intro heq
      exact hmem (heq ▸ hold)
    · exact And.right

end Pressed

namespace NativeInputController

variable {os : OsCall → Except String Unit} {controller : NativeInputController}
  {held : Finset HeldCode}

def presses (controller : NativeInputController) : HeldCode → Prop
  | .key usage => usage ∈ controller.pressedKeys
  | .button button => button ∈ controller.pressedButtons

/-- The pressed sets hold exactly `held`, and only keys that the host can release. -/
structure Holds (controller : NativeInputController) (held : Finset HeldCode) : Prop where
  buttons : controller.pressedButtons.Nodup
  keys : controller.pressedKeys.Nodup
  known : ∀ usage ∈ controller.pressedKeys, (hidUsageToKey usage).isSome = true
  mem : ∀ code, code ∈ held ↔ controller.presses code

theorem holds_new (mapper : CoordinateMapper) : Holds (new mapper) ∅ := by
  refine ⟨List.nodup_nil, List.nodup_nil, by simp [new], ?_⟩
  intro code
  cases code <;> simp [presses, new]

theorem Holds.empty (h : controller.Holds ∅) :
    controller.pressedKeys = [] ∧ controller.pressedButtons = [] := by
  constructor
  · apply List.eq_nil_iff_forall_not_mem.mpr
    intro usage hmem
    exact Finset.notMem_empty _ ((h.mem (.key usage)).mpr hmem)
  · apply List.eq_nil_iff_forall_not_mem.mpr
    intro button hmem
    exact Finset.notMem_empty _ ((h.mem (.button button)).mpr hmem)

theorem Holds.of_eq_empty (h : controller.Holds held) (hempty : held = ∅) : controller.Holds ∅ :=
  hempty ▸ h

/-- The pressed sets of two controllers agree. -/
structure SameHeld (before after : NativeInputController) : Prop where
  buttons : after.pressedButtons = before.pressedButtons
  keys : after.pressedKeys = before.pressedKeys

theorem Holds.of_same {after : NativeInputController} (h : controller.Holds held)
    (hsame : SameHeld controller after) : after.Holds held := by
  refine ⟨hsame.buttons ▸ h.buttons, hsame.keys ▸ h.keys, hsame.keys ▸ h.known, ?_⟩
  intro code
  rw [h.mem]
  cases code with
  | key usage => simp only [presses, hsame.keys]
  | button button => simp only [presses, hsame.buttons]

theorem send_same (call : OsCall) : SameHeld controller (controller.send os call).2 := by
  rw [send]
  split <;> exact ⟨rfl, rfl⟩

theorem same_of_send {call : OsCall} {result : Except String Unit} {after : NativeInputController}
    (h : controller.send os call = (result, after)) : SameHeld controller after := by
  have hsame := @send_same os controller call
  rw [h] at hsame
  exact hsame

theorem pointerMove_same (x y : UInt16) :
    SameHeld controller (controller.pointerMove os x y).2 := by
  simp only [pointerMove]
  split
  · exact send_same _
  · exact ⟨rfl, rfl⟩

theorem wheel_same (deltaX deltaY : Int16) :
    SameHeld controller (controller.wheel os deltaX deltaY).2 := by
  rw [wheel]
  split
  · exact ⟨rfl, rfl⟩
  · exact send_same _

theorem touch_same (contactId : Contact) (phase : TouchPhase) (x y pressure : UInt16) :
    SameHeld controller (controller.touch os contactId phase x y pressure).2 := by
  have hsame : SameHeld controller controller := ⟨rfl, rfl⟩
  simp only [touch]
  split
  · exact hsame
  split
  · exact hsame
  split
  · exact hsame
  split
  · exact hsame
  split
  case h_1 hresult => exact same_of_send hresult
  case h_2 hresult =>
    have hsend := same_of_send hresult
    split <;> exact ⟨hsend.buttons, hsend.keys⟩

theorem cancelTouches_same : SameHeld controller (controller.cancelTouches os).2 := by
  have hsame : SameHeld controller controller := ⟨rfl, rfl⟩
  simp only [cancelTouches]
  split
  · exact hsame
  split
  · exact hsame
  split
  case h_1 hresult => exact same_of_send hresult
  case h_2 hresult =>
    have hsend := same_of_send hresult
    exact ⟨hsend.buttons, hsend.keys⟩

section Accepting

variable (hos : ∀ call, os call = .ok ())

include hos

theorem pointerButton_pressed (button : PointerButton) (state : ButtonState) :
    (controller.pointerButton os button state).2.pressedButtons =
        pressed controller.pressedButtons button state ∧
      (controller.pointerButton os button state).2.pressedKeys = controller.pressedKeys := by
  simp only [pointerButton, send, hos, pressed, decide_eq_true_eq]
  split
  · exact ⟨rfl, rfl⟩
  · split <;> exact ⟨rfl, rfl⟩

theorem key_pressed {usage : UInt16} (hknown : (hidUsageToKey usage).isSome = true)
    (state : ButtonState) :
    (controller.key os usage state).2.pressedKeys = pressed controller.pressedKeys usage state ∧
      (controller.key os usage state).2.pressedButtons = controller.pressedButtons := by
  obtain ⟨mapping, hmapping⟩ := Option.isSome_iff_exists.mp hknown
  simp only [key, hmapping, send, hos, pressed, decide_eq_true_eq]
  split
  · exact ⟨rfl, rfl⟩
  · split <;> exact ⟨rfl, rfl⟩

theorem Holds.pointerButton (h : controller.Holds held) (button : PointerButton)
    (state : ButtonState) : Holds (controller.pointerButton os button state).2
      (((HeldCode.button button).signal state).apply held) := by
  obtain ⟨hbuttons, hkeys⟩ := @pointerButton_pressed os controller hos button state
  refine ⟨hbuttons ▸ pressed_nodup h.buttons button state, hkeys ▸ h.keys, hkeys ▸ h.known, ?_⟩
  intro code
  cases code with
  | key usage =>
    cases state <;> simp [presses, HeldCode.signal, HeldSignal.apply, hkeys, h.mem]
  | button other =>
    cases state with
    | pressed => simp [presses, HeldCode.signal, HeldSignal.apply, hbuttons, h.mem, mem_pressed]
    | released =>
      simp [presses, HeldCode.signal, HeldSignal.apply, hbuttons, h.mem, mem_released h.buttons]

theorem Holds.key_press (h : controller.Holds held) {usage : UInt16}
    (hknown : (hidUsageToKey usage).isSome = true) :
    Holds (controller.key os usage .pressed).2 ((HeldSignal.press (HeldCode.key usage)).apply held) := by
  obtain ⟨hkeys, hbuttons⟩ := @key_pressed os controller hos usage hknown .pressed
  refine ⟨hbuttons ▸ h.buttons, hkeys ▸ pressed_nodup h.keys usage .pressed, ?_, ?_⟩
  · intro other hother
    rw [hkeys] at hother
    cases mem_pressed.mp hother with
    | inl heq => exact heq ▸ hknown
    | inr hold => exact h.known other hold
  · intro code
    cases code with
    | button button => simp [presses, HeldSignal.apply, hbuttons, h.mem]
    | key other => simp [presses, HeldSignal.apply, hkeys, h.mem, mem_pressed]

theorem Holds.key_release_known (h : controller.Holds held) {usage : UInt16}
    (hknown : (hidUsageToKey usage).isSome = true) :
    Holds (controller.key os usage .released).2
      ((HeldSignal.release (HeldCode.key usage)).apply held) := by
  obtain ⟨hkeys, hbuttons⟩ := @key_pressed os controller hos usage hknown .released
  refine ⟨hbuttons ▸ h.buttons, hkeys ▸ pressed_nodup h.keys usage .released, ?_, ?_⟩
  · intro other hother
    rw [hkeys] at hother
    exact h.known other ((mem_released h.keys).mp hother).2
  · intro code
    cases code with
    | button button => simp [presses, HeldSignal.apply, hbuttons, h.mem]
    | key other => simp [presses, HeldSignal.apply, hkeys, h.mem, mem_released h.keys]

end Accepting

/-- A key that the host does not know is refused. -/
theorem key_unknown {usage : UInt16} (h : (hidUsageToKey usage).isSome = false)
    (state : ButtonState) : (controller.key os usage state).2 = controller := by
  have hnone : hidUsageToKey usage = none := by simpa using h
  simp [NativeInputController.key, hnone]

/-- The host holds no key that it does not know, so it need not release one. -/
theorem Holds.key_release (hos : ∀ call, os call = .ok ()) (h : controller.Holds held)
    (usage : UInt16) : Holds (controller.key os usage .released).2
      ((HeldSignal.release (HeldCode.key usage)).apply held) := by
  by_cases hknown : (hidUsageToKey usage).isSome = true
  · exact h.key_release_known hos hknown
  · have hfree : HeldCode.key usage ∉ held := by
      intro hmem
      exact hknown (h.known usage ((h.mem (.key usage)).mp hmem))
    rw [key_unknown (Bool.eq_false_iff.mpr hknown), HeldSignal.apply, Finset.erase_eq_of_notMem hfree]
    exact h

theorem Holds.key (hos : ∀ call, os call = .ok ()) (h : controller.Holds held) (usage : UInt16)
    (state : ButtonState) :
    Holds (controller.key os usage state).2 ((keySignal usage state).apply held) := by
  cases state with
  | pressed =>
    by_cases hknown : (hidUsageToKey usage).isSome = true
    · simp only [keySignal, hknown, if_true]
      exact h.key_press hos hknown
    · simp only [keySignal, hknown, Bool.false_eq_true, if_false]
      rw [key_unknown (Bool.eq_false_iff.mpr hknown)]
      exact h
  | released => exact h.key_release hos usage

/-- Attempting every release releases every code. -/
theorem Holds.attemptAll {α : Type} {code : α → HeldCode}
    {release : NativeInputController → α → Except String Unit × NativeInputController}
    (hrelease : ∀ {controller held} a, Holds controller held →
      Holds (release controller a).2 ((HeldSignal.release (code a)).apply held))
    (h : controller.Holds held) (as : List α) :
    Holds (attemptAll release controller as).2
      (heldAfter held ((as.map code).map .release)) := by
  induction as generalizing controller held with
  | nil => exact h
  | cons a as ih =>
    have hfirst := hrelease a h
    simp only [NativeInputController.attemptAll]
    split
    case h_1 after hresult =>
      rw [hresult] at hfirst
      exact ih hfirst
    case h_2 error after hresult =>
      rw [hresult] at hfirst
      exact ih hfirst

/-- A focus loss releases everything. -/
theorem Holds.releaseAll (hos : ∀ call, os call = .ok ()) (h : controller.Holds held) :
    Holds (controller.releaseAll os).2 ∅ := by
  have htouches := h.of_same (@cancelTouches_same os controller)
  have hbuttons := htouches.attemptAll (fun button h => h.pointerButton hos button .released)
    (controller.cancelTouches os).2.pressedButtons
  have hkeys := hbuttons.attemptAll (fun usage h => h.key_release hos usage)
    (NativeInputController.attemptAll (fun controller button =>
      controller.pointerButton os button .released) (controller.cancelTouches os).2
      (controller.cancelTouches os).2.pressedButtons).2.pressedKeys
  apply hkeys.of_eq_empty
  apply Finset.eq_empty_of_forall_notMem
  intro code hcode
  obtain ⟨hheld, hkey⟩ := mem_heldAfter_releases.mp hcode
  cases code with
  | key usage => exact hkey (List.mem_map_of_mem ((hbuttons.mem (.key usage)).mp hheld))
  | button button =>
    obtain ⟨hheld, hbutton⟩ := mem_heldAfter_releases.mp hheld
    exact hbutton (List.mem_map_of_mem ((htouches.mem (.button button)).mp hheld))

/-- The pressed sets follow the signals of the events. -/
theorem Holds.inject (hos : ∀ call, os call = .ok ()) (h : controller.Holds held)
    (event : InputEvent) :
    Holds (controller.inject os event).2 ((heldSignal event.kind).apply held) := by
  rw [NativeInputController.inject]
  cases event.kind with
  | pointerMove x y => exact h.of_same (pointerMove_same x y)
  | pointerButton button state => exact h.pointerButton hos button state
  | wheel deltaX deltaY => exact h.of_same (wheel_same deltaX deltaY)
  | key usage state modifiers => exact h.key hos usage state
  | touch contactId phase x y pressure =>
    simp only
    split
    · exact h.of_same (touch_same _ phase x y pressure)
    · exact h
  | focus focused =>
    cases focused with
    | true => exact h
    | false => exact h.releaseAll hos

end NativeInputController

end LadoFlow.Host
