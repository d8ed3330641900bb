import LadoFlow.Framework.Stroke
import LadoFlow.Framework.Trace
import LadoFlow.Host.HeldInput
import Mathlib.Data.List.Nodup
import Mathlib.Logic.Relation

/-!
# The controller mirrors the injected state

Whatever Windows accepts or refuses, what the controller records as down is what the accepted
injections left down: each button and each key alternates, and each contact runs through whole
strokes of touch frames.
-/

namespace LadoFlow.Host

open LadoFlow.Protocol Framework

section Keys

theorem hidUsageToKey_lt {usage : UInt16} {mapping : KeyMapping}
    (h : hidUsageToKey usage = some mapping) : usage.toNat < 232 := by
  unfold hidUsageToKey at h
  split at h
  case isTrue hrange =>
    have hle : usage.toNat ≤ 0x1d := UInt16.le_iff_toNat_le.mp hrange.2
    omega
  split at h
  case isTrue hrange =>
    have hle : usage.toNat ≤ 0x26 := UInt16.le_iff_toNat_le.mp hrange.2
    omega
  split at h
  case isTrue hrange =>
    have hle : usage.toNat ≤ 0x45 := UInt16.le_iff_toNat_le.mp hrange.2
    omega
  split at h
  case isTrue hrange =>
    have hle : usage.toNat ≤ 0x61 := UInt16.le_iff_toNat_le.mp hrange.2
    omega
  split at h
  all_goals first | (cases h; done) | decide

/-- No two usages share a Windows key. -/
theorem hidUsageToKey_inj {usage other : UInt16} {mapping : KeyMapping}
    (h : hidUsageToKey usage = some mapping) (hother : hidUsageToKey other = some mapping) :
    usage = other := by
  have hnodup : (((List.range 232).filter fun n => (hidUsageToKey (UInt16.ofNat n)).isSome).map
      fun n => hidUsageToKey (UInt16.ofNat n)).Nodup := by
    decide +kernel
  have hlisted : ∀ {usage : UInt16}, hidUsageToKey usage = some mapping →
      usage.toNat ∈ (List.range 232).filter fun n => (hidUsageToKey (UInt16.ofNat n)).isSome := by
    intro usage h
    apply List.mem_filter.mpr
    exact ⟨List.mem_range.mpr (hidUsageToKey_lt h), by simp [h]⟩
  apply UInt16.toNat_inj.mp
  apply List.inj_on_of_nodup_map hnodup (hlisted h) (hlisted hother)
  simp only [UInt16.ofNat_toNat, h, hother]

end Keys

/-! ## What the accepted injections say of one input -/

def buttonState (button : PointerButton) : OsCall → Option ButtonState
  | .mouseButton other state => if other = button then some state else none
  | _ => none

def keyState (usage : UInt16) : OsCall → Option ButtonState
  | .keyboard mapping state => if hidUsageToKey usage = some mapping then some state else none
  | _ => none

/-- The flags of the contact in a touch frame that mentions it. -/
def contactFlags (contactId : Contact) : OsCall → Option PointerFlags
  | .touchInput contacts =>
    (contacts.find? fun info => info.pointerId = UInt32.ofNat (contactId.val + 1)).map
      (·.pointerFlags)
  | _ => none

def buttonMark : ButtonState → Mark
  | .pressed => .opening
  | .released => .closing

/-- Both ends of a contact carry `POINTER_FLAG_UP`. -/
def pointerMark : PointerFlags → Mark
  | .down => .opening
  | .update => .inside
  | .up | .canceled => .closing

theorem buttonMark_ne_inside (state : ButtonState) : buttonMark state ≠ .inside := by
  cases state <;> decide

def changedFlags (changed : Option (Contact × TouchPhase)) (contactId : Contact) : PointerFlags :=
  match changed with
  | none => .canceled
  | some (changedId, phase) => if contactId = changedId then touchPointerFlags phase else .update

theorem pointerId_inj {first second : Contact}
    (h : UInt32.ofNat (first.val + 1) = UInt32.ofNat (second.val + 1)) : first = second := by
  have hnat := congrArg UInt32.toNat h
  rw [UInt32.toNat_ofNat_of_lt' (by have := first.isLt; simp [UInt32.size]; omega),
    UInt32.toNat_ofNat_of_lt' (by have := second.isLt; simp [UInt32.size]; omega)] at hnat
  exact Fin.ext (by omega)

/-- A frame mentions exactly the occupied slots, each with its own flags. -/
theorem contactFlags_touchFrame (touches : Contact → Option ActiveTouch)
    (changed : Option (Contact × TouchPhase)) (bounds : Rect) (contactId : Contact) :
    contactFlags contactId (.touchInput (touchFrame touches changed bounds)) =
      (touches contactId).map fun _ => changedFlags changed contactId := by
  have hfound : ∀ other : Contact, ((touches other).map fun contact =>
      touchInfo other contact (changedFlags changed other) bounds).any
        (fun info => info.pointerId = UInt32.ofNat (contactId.val + 1)) = true ↔
      other = contactId ∧ (touches other).isSome = true := by
    intro other
    cases htouch : touches other with
    | none => simp
    | some contact =>
      simp only [Option.map_some, Option.any_some, touchInfo, decide_eq_true_eq, Option.isSome_some,
        and_true]
      constructor
      · exact pointerId_inj
      · intro heq
        rw [heq]
  have hframe : touchFrame touches changed bounds = (List.finRange 16).filterMap fun other =>
      (touches other).map fun contact =>
        touchInfo other contact (changedFlags changed other) bounds := rfl
  rw [contactFlags, hframe, List.find?_filterMap]
  cases hslot : (List.finRange 16).find? fun other => ((touches other).map fun contact =>
      touchInfo other contact (changedFlags changed other) bounds).any
        fun info => info.pointerId = UInt32.ofNat (contactId.val + 1) with
  | none =>
    have hfree := List.find?_eq_none.mp hslot contactId (List.mem_finRange contactId)
    rw [hfound] at hfree
    have hnone : touches contactId = none := by simpa using hfree
    simp [hnone]
  | some other =>
    have hother := List.find?_some hslot
    rw [hfound] at hother
    obtain ⟨contact, hcontact⟩ := Option.isSome_iff_exists.mp hother.2
    rw [hother.1] at hcontact
    simp [hother.1, hcontact, touchInfo]

namespace NativeInputController

variable {os : OsCall → Except String Unit} {controller after : NativeInputController}

/-- What an operation that fails nowhere does to the state: at most one injection, recorded. -/
inductive Injection (before : NativeInputController) : NativeInputController → Prop where
  | none : Injection before before
  | mouseMove (point : ScreenPoint) :
    Injection before { before with injected := before.injected ++ [.mouseMove point] }
  | wheel (deltaX deltaY : Int16) :
    Injection before { before with injected := before.injected ++ [.wheel deltaX deltaY] }
  | button (button : PointerButton) (state : ButtonState)
    (hchanges : decide (button ∈ before.pressedButtons) ≠ decide (state = .pressed)) :
    Injection before
      { before with
        pressedButtons := pressed before.pressedButtons button state
        injected := before.injected ++ [.mouseButton button state] }
  | key (usage : UInt16) (mapping : KeyMapping) (state : ButtonState)
    (hmapping : hidUsageToKey usage = some mapping)
    (hchanges : decide (usage ∈ before.pressedKeys) ≠ decide (state = .pressed)) :
    Injection before
      { before with
        pressedKeys := pressed before.pressedKeys usage state
        injected := before.injected ++ [.keyboard mapping state] }
  | touch (contactId : Contact) (phase : TouchPhase) (contact : ActiveTouch)
    (hphase : phase = .begin ↔ before.touches contactId = none) :
    Injection before
      { before with
        touches := Function.update before.touches contactId
          (if phase = .end ∨ phase = .cancel then none else some contact)
        injected := before.injected ++
          [.touchInput (touchFrame (Function.update before.touches contactId (some contact))
            (some (contactId, phase)) before.mapper.virtualDesktop)] }
  | cancel :
    Injection before
      { before with
        touches := fun _ => none
        injected := before.injected ++
          [.touchInput (touchFrame before.touches none before.mapper.virtualDesktop)] }

/-- An operation fails and changes nothing, or succeeds with at most one injection. -/
def Atomic (before : NativeInputController) (result : Except String Unit × NativeInputController) :
    Prop :=
  (∃ error, result = (.error error, before)) ∨
    ∃ after, result = (.ok (), after) ∧ Injection before after

theorem pointerMove_atomic (x y : UInt16) : Atomic controller (controller.pointerMove os x y) := by
  simp only [pointerMove]
  split
  case h_1 point hpoint =>
    rw [send]
    split
    case h_1 => exact .inr ⟨_, rfl, .mouseMove point⟩
    case h_2 error herror => exact .inl ⟨error, rfl⟩
  case h_2 error herror => exact .inl ⟨error, rfl⟩

theorem wheel_atomic (deltaX deltaY : Int16) :
    Atomic controller (controller.wheel os deltaX deltaY) := by
  rw [wheel]
  split
  case isTrue => exact .inr ⟨controller, rfl, .none⟩
  case isFalse =>
    rw [send]
    split
    case h_1 => exact .inr ⟨_, rfl, .wheel deltaX deltaY⟩
    case h_2 error herror => exact .inl ⟨error, rfl⟩

theorem pressed_of_changes {α : Type} [DecidableEq α] {values : List α} {a : α}
    {state : ButtonState} (h : decide (a ∈ values) ≠ decide (state = .pressed)) :
    pressed values a state = if state = .pressed then a :: values else values.erase a := by
  rw [pressed, if_neg h]

theorem pointerButton_atomic (button : PointerButton) (state : ButtonState) :
    Atomic controller (controller.pointerButton os button state) := by
  simp only [pointerButton]
  split
  case isTrue => exact .inr ⟨controller, rfl, .none⟩
  case isFalse hchanges =>
    have hinjection := Injection.button button state hchanges
    rw [pressed_of_changes hchanges] at hinjection
    rw [send]
    cases hcall : os (.mouseButton button state) with
    | error error => exact .inl ⟨error, rfl⟩
    | ok u =>
      refine .inr ⟨_, rfl, ?_⟩
      cases state
      · exact hinjection
      · exact hinjection

theorem key_atomic (usage : UInt16) (state : ButtonState) :
    Atomic controller (controller.key os usage state) := by
  simp only [key]
  split
  case h_1 => exact .inl ⟨_, rfl⟩
  case h_2 mapping hmapping =>
    split
    case isTrue => exact .inr ⟨controller, rfl, .none⟩
    case isFalse hchanges =>
      have hinjection := Injection.key usage mapping state hmapping hchanges
      rw [pressed_of_changes hchanges] at hinjection
      rw [send]
      cases hcall : os (.keyboard mapping state) with
      | error error => exact .inl ⟨error, rfl⟩
      | ok u =>
        refine .inr ⟨_, rfl, ?_⟩
        cases state
        · exact hinjection
        · exact hinjection

theorem touch_atomic (contactId : Contact) (phase : TouchPhase) (x y pressure : UInt16) :
    Atomic controller (controller.touch os contactId phase x y pressure) := by
  simp only [touch]
  split
  case h_1 => exact .inl ⟨_, rfl⟩
  case h_2 =>
    split
    case h_1 => exact .inl ⟨_, rfl⟩
    case h_2 point hpoint =>
      split
      case isTrue => exact .inl ⟨_, rfl⟩
      case isFalse htwice =>
        split
        case isTrue => exact .inl ⟨_, rfl⟩
        case isFalse hbefore =>
          have hphase : phase = .begin ↔ controller.touches contactId = none := by
            rw [not_and] at htwice hbefore
            constructor
            · intro hbegin
              simpa using htwice hbegin
            · intro hnone
              by_contra hbegin
              exact hbefore hbegin (by simp [hnone])
          have hinjection := Injection.touch contactId phase ⟨point, pressure⟩ hphase
          rw [send]
          cases hcall : os (.touchInput (touchFrame
              (Function.update controller.touches contactId (some ⟨point, pressure⟩))
              (some (contactId, phase)) controller.mapper.virtualDesktop)) with
          | error error => exact .inl ⟨error, rfl⟩
          | ok u =>
            refine .inr ⟨_, rfl, ?_⟩
            simp only [Function.update_idem]
            split
            case isTrue hends =>
              rw [if_pos hends] at hinjection
              exact hinjection
            case isFalse hlasts =>
              rw [if_neg hlasts] at hinjection
              exact hinjection

theorem cancelTouches_atomic : Atomic controller (controller.cancelTouches os) := by
  simp only [cancelTouches]
  split
  case isTrue => exact .inr ⟨controller, rfl, .none⟩
  case isFalse =>
    split
    case h_1 error herror => exact .inl ⟨error, rfl⟩
    case h_2 =>
      rw [send]
      cases hcall : os (.touchInput (touchFrame controller.touches none
          controller.mapper.virtualDesktop)) with
      | error error => exact .inl ⟨error, rfl⟩
      | ok u => exact .inr ⟨_, rfl, .cancel⟩

/-- Only the loss of the focus injects more than once. -/
theorem inject_atomic {event : InputEvent} (hfocus : event.kind ≠ .focus false) :
    Atomic controller (controller.inject os event) := by
  rw [inject]
  cases hkind : event.kind with
  | pointerMove x y => exact pointerMove_atomic x y
  | pointerButton button state => exact pointerButton_atomic button state
  | wheel deltaX deltaY => exact wheel_atomic deltaX deltaY
  | key usage state modifiers => exact key_atomic usage state
  | touch contactId phase x y pressure =>
    simp only
    split
    · exact touch_atomic _ phase x y pressure
    · exact .inl ⟨_, rfl⟩
  | focus focused =>
    cases focused with
    | true => exact .inr ⟨controller, rfl, .none⟩
    | false => exact absurd hkind hfocus

theorem Atomic.injection {result : Except String Unit × NativeInputController}
    (h : Atomic controller result) : Injection controller result.2 := by
  rcases h with ⟨error, hresult⟩ | ⟨after, hresult, hinjection⟩
  · rw [hresult]
    exact .none
  · rw [hresult]
    exact hinjection

theorem Atomic.unchanged {result : Except String Unit × NativeInputController} {error : String}
    (h : Atomic controller result) (herror : result.1 = .error error) : result.2 = controller := by
  rcases h with ⟨error, hresult⟩ | ⟨after, hresult, hinjection⟩
  · rw [hresult]
  · rw [hresult] at herror
    cases herror

theorem attemptAll_injections {α : Type}
    {release : NativeInputController → α → Except String Unit × NativeInputController}
    (hrelease : ∀ controller a, Atomic controller (release controller a)) (as : List α) :
    Relation.ReflTransGen Injection controller (attemptAll release controller as).2 := by
  induction as generalizing controller with
  | nil => exact .refl
  | cons a as ih =>
    have hfirst := (hrelease controller a).injection
    simp only [attemptAll]
    split
    case h_1 next hresult =>
      rw [hresult] at hfirst
      exact .head hfirst ih
    case h_2 error next hresult =>
      rw [hresult] at hfirst
      exact .head hfirst ih

theorem releaseAll_injections :
    Relation.ReflTransGen Injection controller (controller.releaseAll os).2 := by
  have hcancel := (@cancelTouches_atomic os controller).injection
  have hbuttons := @attemptAll_injections (controller.cancelTouches os).2 _
    (fun controller button => controller.pointerButton os button .released)
    (fun _ button => pointerButton_atomic button .released)
    (controller.cancelTouches os).2.pressedButtons
  exact .head hcancel (hbuttons.trans (attemptAll_injections
    (fun _ usage => key_atomic usage .released) _))

theorem inject_injections (event : InputEvent) :
    Relation.ReflTransGen Injection controller (controller.inject os event).2 := by
  by_cases hfocus : event.kind = .focus false
  · rw [inject, hfocus]
    exact releaseAll_injections
  · exact .single (inject_atomic hfocus).injection

/-- The records agree with what the accepted injections left down. -/
structure Mirrors (controller : NativeInputController) : Prop where
  buttons_nodup : controller.pressedButtons.Nodup
  keys_nodup : controller.pressedKeys.Nodup
  known : ∀ usage ∈ controller.pressedKeys, (hidUsageToKey usage).isSome = true
  buttons : ∀ button,
    openAfter buttonMark (controller.injected.filterMap (buttonState button)) =
      some (decide (button ∈ controller.pressedButtons))
  keys : ∀ usage,
    openAfter buttonMark (controller.injected.filterMap (keyState usage)) =
      some (decide (usage ∈ controller.pressedKeys))
  contacts : ∀ contactId,
    openAfter pointerMark (controller.injected.filterMap (contactFlags contactId)) =
      some (controller.touches contactId).isSome

theorem mirrors_new (mapper : CoordinateMapper) : Mirrors (new mapper) := by
  refine ⟨List.nodup_nil, List.nodup_nil, by simp [new], ?_, ?_, ?_⟩ <;> simp [new]

/-- A press or release that changes the set is the next entry of its log. -/
theorem openAfter_pressed {α : Type} [DecidableEq α] {values : List α} {a b : α}
    {state : ButtonState} {log : List ButtonState} (hnodup : values.Nodup)
    (hchanges : decide (a ∈ values) ≠ decide (state = .pressed))
    (h : openAfter buttonMark log = some (decide (b ∈ values))) :
    openAfter buttonMark (log ++ (if a = b then some state else none).toList) =
      some (decide (b ∈ pressed values a state)) := by
  by_cases heq : a = b
  · rw [heq] at hchanges ⊢
    rw [if_pos rfl, Option.toList_some, openAfter_snoc, h, Option.bind_some]
    cases state with
    | pressed =>
      have hfree : b ∉ values := by simpa using hchanges
      simp [hfree, mem_pressed, buttonMark, Mark.next]
    | released =>
      have hheld : b ∈ values := by simpa using hchanges
      simp [hheld, mem_released hnodup, buttonMark, Mark.next]
  · have hne : b ≠ a := fun h => heq h.symm
    rw [if_neg heq, Option.toList_none, List.append_nil, h]
    cases state with
    | pressed => simp [mem_pressed, hne]
    | released => simp [mem_released hnodup, hne]

/-- A frame that moves one contact gives each other contact an update. -/
theorem openAfter_touch {touches : Contact → Option ActiveTouch} {changedId contactId : Contact}
    {phase : TouchPhase} {contact : ActiveTouch} {log : List PointerFlags}
    (hphase : phase = .begin ↔ touches changedId = none)
    (h : openAfter pointerMark log = some (touches contactId).isSome) :
    openAfter pointerMark (log ++ ((Function.update touches changedId (some contact) contactId).map
        fun _ => changedFlags (some (changedId, phase)) contactId).toList) =
      some (Function.update touches changedId
        (if phase = .end ∨ phase = .cancel then none else some contact) contactId).isSome := by
  by_cases heq : contactId = changedId
  · rw [heq, Function.update_self, Function.update_self, Option.map_some, Option.toList_some,
      openAfter_snoc, ← heq, h, Option.bind_some]
    simp only [changedFlags, heq, if_true]
    cases phase with
    | begin => simp [hphase.mp rfl, touchPointerFlags, pointerMark, Mark.next]
    | move | «end» | cancel =>
      have hsome : (touches changedId).isSome = true := by
        rw [Option.isSome_iff_ne_none]
        intro hnone
        cases hphase.mpr hnone
      simp [hsome, touchPointerFlags, pointerMark, Mark.next]
  · rw [Function.update_of_ne heq, Function.update_of_ne heq]
    cases hslot : touches contactId with
    | none =>
      rw [hslot] at h
      simpa using h
    | some other =>
      rw [hslot] at h
      rw [Option.map_some, Option.toList_some, openAfter_snoc, h, Option.bind_some]
      simp [changedFlags, heq, pointerMark, Mark.next]

theorem openAfter_cancel {touches : Contact → Option ActiveTouch} {contactId : Contact}
    {log : List PointerFlags} (h : openAfter pointerMark log = some (touches contactId).isSome) :
    openAfter pointerMark (log ++ ((touches contactId).map
      fun _ => changedFlags none contactId).toList) = some false := by
  cases hslot : touches contactId with
  | none =>
    rw [hslot] at h
    simpa using h
  | some contact =>
    rw [hslot] at h
    rw [Option.map_some, Option.toList_some, openAfter_snoc, h, Option.bind_some]
    simp [changedFlags, pointerMark, Mark.next]

/-- A log that ignores the call keeps its state. -/
theorem openAfter_ignored {α : Type} {mark : α → Mark} {f : OsCall → Option α} {log : List OsCall}
    {call : OsCall} {down : Bool} (hcall : f call = none)
    (h : openAfter mark (log.filterMap f) = some down) :
    openAfter mark ((log ++ [call]).filterMap f) = some down := by
  rw [filterMap_snoc, hcall, Option.toList_none, List.append_nil]
  exact h

theorem Mirrors.injection (h : Mirrors controller) (hinjection : Injection controller after) :
    Mirrors after := by
  cases hinjection with
  | none => exact h
  | mouseMove point =>
    refine ⟨h.buttons_nodup, h.keys_nodup, h.known, ?_, ?_, ?_⟩
    · exact fun button => openAfter_ignored rfl (h.buttons button)
    · exact fun usage => openAfter_ignored rfl (h.keys usage)
    · exact fun contactId => openAfter_ignored rfl (h.contacts contactId)
  | wheel deltaX deltaY =>
    refine ⟨h.buttons_nodup, h.keys_nodup, h.known, ?_, ?_, ?_⟩
    · exact fun button => openAfter_ignored rfl (h.buttons button)
    · exact fun usage => openAfter_ignored rfl (h.keys usage)
    · exact fun contactId => openAfter_ignored rfl (h.contacts contactId)
  | button button state hchanges =>
    refine ⟨pressed_nodup h.buttons_nodup button state, h.keys_nodup, h.known, ?_, ?_, ?_⟩
    · intro other
      rw [filterMap_snoc]
      exact openAfter_pressed h.buttons_nodup hchanges (h.buttons other)
    · exact fun usage => openAfter_ignored rfl (h.keys usage)
    · exact fun contactId => openAfter_ignored rfl (h.contacts contactId)
  | key usage mapping state hmapping hchanges =>
    refine ⟨h.buttons_nodup, pressed_nodup h.keys_nodup usage state, ?_, ?_, ?_, ?_⟩
    · intro other hother
      cases state with
      | pressed =>
        cases mem_pressed.mp hother with
        | inl heq => rw [heq, hmapping, Option.isSome_some]
        | inr hold => exact h.known other hold
      | released => exact h.known other ((mem_released h.keys_nodup).mp hother).2
    · exact fun button => openAfter_ignored rfl (h.buttons button)
    · intro other
      have hsame : hidUsageToKey other = some mapping ↔ usage = other := by
        constructor
        · exact hidUsageToKey_inj hmapping
        · intro heq
          rw [← heq, hmapping]
      rw [filterMap_snoc]
      simp only [keyState, hsame]
      exact openAfter_pressed h.keys_nodup hchanges (h.keys other)
    · exact fun contactId => openAfter_ignored rfl (h.contacts contactId)
  | touch changedId phase contact hphase =>
    refine ⟨h.buttons_nodup, h.keys_nodup, h.known, ?_, ?_, ?_⟩
    · exact fun button => openAfter_ignored rfl (h.buttons button)
    · exact fun usage => openAfter_ignored rfl (h.keys usage)
    · intro contactId
      rw [filterMap_snoc, contactFlags_touchFrame]
      exact openAfter_touch hphase (h.contacts contactId)
  | cancel =>
    refine ⟨h.buttons_nodup, h.keys_nodup, h.known, ?_, ?_, ?_⟩
    · exact fun button => openAfter_ignored rfl (h.buttons button)
    · exact fun usage => openAfter_ignored rfl (h.keys usage)
    · intro contactId
      rw [filterMap_snoc, contactFlags_touchFrame]
      exact openAfter_cancel (h.contacts contactId)

theorem Mirrors.injections (h : Mirrors controller)
    (hinjections : Relation.ReflTransGen Injection controller after) : Mirrors after := by
  induction hinjections with
  | refl => exact h
  | tail _ hinjection ih => exact ih.injection hinjection

/-! ## Releasing everything -/

def refusal (os : OsCall → Except String Unit) (call : OsCall) : Option String :=
  match os call with
  | .ok () => none
  | .error error => some error

/-- A touch frame also needs the touch device. -/
def releaseRefusal (os : OsCall → Except String Unit) : OsCall → Option String
  | .touchInput contacts => (refusal os .initializeTouch).or (refusal os (.touchInput contacts))
  | call => refusal os call

def cancelFrame (controller : NativeInputController) : OsCall :=
  .touchInput (touchFrame controller.touches none controller.mapper.virtualDesktop)

def keyRelease (usage : UInt16) : Option OsCall :=
  (hidUsageToKey usage).map fun mapping => .keyboard mapping .released

def cancelCalls (controller : NativeInputController) : List OsCall :=
  if ∀ contactId, controller.touches contactId = none then [] else [controller.cancelFrame]

/-- The releases of everything that is down, in the order in which they are attempted. -/
def releases (controller : NativeInputController) : List OsCall :=
  controller.cancelCalls ++
    controller.pressedButtons.map (fun button => .mouseButton button .released) ++
    controller.pressedKeys.filterMap keyRelease

/-- Every release is attempted: it is injected and its record cleared, or its error is kept. -/
structure Released (os : OsCall → Except String Unit) (before : NativeInputController)
    (result : Except String Unit × NativeInputController) : Prop where
  errors : result.1 = if before.releases.filterMap (releaseRefusal os) = [] then .ok ()
    else .error ("failed to release remote Windows input state: " ++
      "; ".intercalate (before.releases.filterMap (releaseRefusal os)))
  injected : result.2.injected =
    before.injected ++ before.releases.filter fun call => (releaseRefusal os call).isNone
  touches : result.2.touches =
    if (releaseRefusal os before.cancelFrame).isSome then before.touches else fun _ => none
  buttons : ∀ button, button ∈ result.2.pressedButtons ↔ button ∈ before.pressedButtons ∧
    (releaseRefusal os (.mouseButton button .released)).isSome
  keys : ∀ usage, usage ∈ result.2.pressedKeys ↔ usage ∈ before.pressedKeys ∧
    ∃ call, keyRelease usage = some call ∧ (releaseRefusal os call).isSome

/-- The attempt to release one thing that is held. -/
def ReleasesOne {α : Type} [DecidableEq α] (os : OsCall → Except String Unit)
    (held : NativeInputController → List α) (before : NativeInputController) (a : α)
    (call : OsCall) (result : Except String Unit × NativeInputController) : Prop :=
  match releaseRefusal os call with
  | some error => result = (.error error, before)
  | none => result.1 = .ok () ∧ held result.2 = (held before).erase a ∧
      result.2.injected = before.injected ++ [call]

theorem pointerButton_releases {button : PointerButton}
    (hheld : button ∈ controller.pressedButtons) :
    ReleasesOne os pressedButtons controller button (.mouseButton button .released)
      (controller.pointerButton os button .released) := by
  simp only [ReleasesOne, releaseRefusal, refusal, pointerButton, hheld, send]
  cases hcall : os (.mouseButton button .released) with
  | error error => simp
  | ok u => simp

theorem key_releases {usage : UInt16} {call : OsCall} (hcall : keyRelease usage = some call)
    (hheld : usage ∈ controller.pressedKeys) :
    ReleasesOne os pressedKeys controller usage call (controller.key os usage .released) := by
  obtain ⟨mapping, hmapping, rfl⟩ := Option.map_eq_some_iff.mp hcall
  simp only [ReleasesOne, releaseRefusal, refusal, key, hmapping, hheld, send]
  cases hcall : os (.keyboard mapping .released) with
  | error error => simp
  | ok u => simp

/-- What attempting the release of each thing in `as` comes to. -/
structure Attempted {α : Type} (os : OsCall → Except String Unit)
    (held : NativeInputController → List α) (call : α → Option OsCall)
    (before : NativeInputController) (as : List α)
    (result : List String × NativeInputController) : Prop where
  errors : result.1 = (as.filterMap call).filterMap (releaseRefusal os)
  injected : result.2.injected =
    before.injected ++ (as.filterMap call).filter fun c => (releaseRefusal os c).isNone
  held : ∀ a, a ∈ held result.2 ↔ a ∈ held before ∧
    (a ∈ as → ∃ c, call a = some c ∧ (releaseRefusal os c).isSome)

theorem attemptAll_attempted {α : Type} [DecidableEq α]
    {release : NativeInputController → α → Except String Unit × NativeInputController}
    {held : NativeInputController → List α} {call : α → Option OsCall}
    (hrelease : ∀ {controller a c}, call a = some c → a ∈ held controller →
      ReleasesOne os held controller a c (release controller a))
    {as : List α} (hcalls : ∀ a ∈ as, ∃ c, call a = some c) (has : as.Nodup)
    (hnodup : (held controller).Nodup) (hheld : ∀ a ∈ as, a ∈ held controller) :
    Attempted os held call controller as (attemptAll release controller as) := by
  induction as generalizing controller with
  | nil => exact ⟨rfl, by simp [attemptAll], by simp [attemptAll]⟩
  | cons a as ih =>
    obtain ⟨hfresh, hrest⟩ := List.nodup_cons.mp has
    obtain ⟨c, hc⟩ := hcalls a List.mem_cons_self
    have hone := hrelease hc (hheld a List.mem_cons_self)
    have hcallsRest : ∀ b ∈ as, ∃ c, call b = some c :=
      fun b hb => hcalls b (List.mem_cons_of_mem a hb)
    have hheldRest : ∀ b ∈ as, b ∈ held controller := fun b hb => hheld b (List.mem_cons_of_mem a hb)
    rw [ReleasesOne] at hone
    cases hrefusal : releaseRefusal os c with
    | some error =>
      simp only [hrefusal] at hone
      have hafter := ih hcallsRest hrest hnodup hheldRest
      simp only [attemptAll, hone]
      refine ⟨?_, ?_, ?_⟩
      · rw [List.filterMap_cons_some hc, List.filterMap_cons_some hrefusal, hafter.errors]
      · rw [List.filterMap_cons_some hc, List.filter_cons_of_neg (by simp [hrefusal])]
        exact hafter.injected
      · intro b
        rw [hafter.held]
        by_cases hba : b = a
        · rw [hba]
          simp [hfresh, hc, hrefusal]
        · simp [hba]
    | none =>
      simp only [hrefusal] at hone
      obtain ⟨hok, herased, hinjected⟩ := hone
      have hresult : release controller a = (.ok (), (release controller a).2) :=
        Prod.ext hok rfl
      have hnodupRest : (held (release controller a).2).Nodup := by
        rw [herased]
        exact hnodup.erase a
      have hstill : ∀ b ∈ as, b ∈ held (release controller a).2 := by
        intro b hb
        have hba : b ≠ a := fun heq => hfresh (heq ▸ hb)
        rw [herased, List.mem_erase_of_ne hba]
        exact hheldRest b hb
      have hafter := ih hcallsRest hrest hnodupRest hstill
      rw [attemptAll, hresult]
      refine ⟨?_, ?_, ?_⟩
      · rw [List.filterMap_cons_some hc, List.filterMap_cons_none hrefusal]
        exact hafter.errors
      · rw [List.filterMap_cons_some hc, List.filter_cons_of_pos (by simp [hrefusal])]
        rw [hafter.injected, hinjected, List.append_assoc, List.singleton_append]
      · intro b
        rw [hafter.held, herased, hnodup.mem_erase_iff]
        by_cases hba : b = a
        · rw [hba]
          simp [hc, hrefusal]
        · simp [hba]

/-- What no single release touches stays as it is. -/
theorem attemptAll_frame {α β : Type}
    {release : NativeInputController → α → Except String Unit × NativeInputController}
    (f : NativeInputController → β)
    (hrelease : ∀ controller a, f (release controller a).2 = f controller) (as : List α) :
    f (attemptAll release controller as).2 = f controller := by
  induction as generalizing controller with
  | nil => rfl
  | cons a as ih =>
    have hfirst := hrelease controller a
    simp only [attemptAll]
    split
    case h_1 after hresult =>
      rw [hresult] at hfirst
      exact ih.trans hfirst
    case h_2 error after hresult =>
      rw [hresult] at hfirst
      exact ih.trans hfirst

theorem pointerButton_pressedKeys (button : PointerButton) (state : ButtonState) :
    (controller.pointerButton os button state).2.pressedKeys = controller.pressedKeys := by
  simp only [pointerButton, send]
  split
  · rfl
  · cases os (.mouseButton button state) with
    | error error => rfl
    | ok u => cases state <;> rfl

theorem key_pressedButtons (usage : UInt16) (state : ButtonState) :
    (controller.key os usage state).2.pressedButtons = controller.pressedButtons := by
  simp only [key, send]
  split
  · rfl
  · rename_i mapping hmapping
    split
    · rfl
    · cases os (.keyboard mapping state) with
      | error error => rfl
      | ok u => cases state <;> rfl

def errorsOf : Except String Unit → List String
  | .ok () => []
  | .error error => [error]

theorem cancelTouches_frame (hdown : ¬∀ contactId, controller.touches contactId = none) :
    controller.cancelTouches os =
      match releaseRefusal os controller.cancelFrame with
      | some error => (.error error, controller)
      | none => (.ok (),
          { controller with
            touches := fun _ => none
            injected := controller.injected ++ [controller.cancelFrame] }) := by
  rw [cancelTouches, if_neg hdown]
  simp only [releaseRefusal, cancelFrame, refusal, send]
  cases os .initializeTouch with
  | error error => rfl
  | ok u =>
    cases os (.touchInput (touchFrame controller.touches none
        controller.mapper.virtualDesktop)) with
    | error error => rfl
    | ok u => rfl

/-- The touch frame is attempted once, when a contact is down. -/
theorem cancelTouches_attempted :
    errorsOf (controller.cancelTouches os).1 = controller.cancelCalls.filterMap (releaseRefusal os) ∧
    (controller.cancelTouches os).2.injected = controller.injected ++
      controller.cancelCalls.filter (fun call => (releaseRefusal os call).isNone) ∧
    (controller.cancelTouches os).2.touches =
      if (releaseRefusal os controller.cancelFrame).isSome then controller.touches
      else fun _ => none := by
  by_cases hnone : ∀ contactId, controller.touches contactId = none
  · have hcalls : controller.cancelCalls = [] := by rw [cancelCalls, if_pos hnone]
    have hidle : controller.cancelTouches os = (.ok (), controller) := by
      rw [cancelTouches, if_pos hnone]
    have hempty : controller.touches = fun _ => none := funext hnone
    simp [errorsOf, hidle, hcalls, hempty]
  · have hcalls : controller.cancelCalls = [controller.cancelFrame] := by
      rw [cancelCalls, if_neg hnone]
    rw [cancelTouches_frame hnone, hcalls]
    cases hrefusal : releaseRefusal os controller.cancelFrame with
    | some error => simp [errorsOf, hrefusal]
    | none => simp [errorsOf, hrefusal]

def releaseButtons (os : OsCall → Except String Unit) (controller : NativeInputController) :
    List String × NativeInputController :=
  attemptAll (fun controller button => controller.pointerButton os button .released) controller
    controller.pressedButtons

def releaseKeys (os : OsCall → Except String Unit) (controller : NativeInputController) :
    List String × NativeInputController :=
  attemptAll (fun controller usage => controller.key os usage .released) controller
    controller.pressedKeys

theorem releaseButtons_attempted (hnodup : controller.pressedButtons.Nodup) :
    Attempted os pressedButtons (fun button => some (.mouseButton button .released)) controller
      controller.pressedButtons (controller.releaseButtons os) := by
  apply attemptAll_attempted
  · intro controller button call hcall hheld
    cases hcall
    exact pointerButton_releases hheld
  · exact fun button _ => ⟨_, rfl⟩
  · exact hnodup
  · exact hnodup
  · exact fun button hbutton => hbutton

theorem releaseButtons_frame :
    (controller.releaseButtons os).2.pressedKeys = controller.pressedKeys ∧
      (controller.releaseButtons os).2.touches = controller.touches := by
  constructor
  · exact attemptAll_frame pressedKeys (fun _ button => pointerButton_pressedKeys button .released) _
  · exact (attemptAll_keeps (fun _ button => pointerButton_keeps button .released) _).touches

theorem releaseKeys_attempted (hnodup : controller.pressedKeys.Nodup)
    (hknown : ∀ usage ∈ controller.pressedKeys, (hidUsageToKey usage).isSome = true) :
    Attempted os pressedKeys keyRelease controller controller.pressedKeys
      (controller.releaseKeys os) := by
  apply attemptAll_attempted
  · intro controller usage call hcall hheld
    exact key_releases hcall hheld
  · intro usage husage
    obtain ⟨mapping, hmapping⟩ := Option.isSome_iff_exists.mp (hknown usage husage)
    exact ⟨_, by rw [keyRelease, hmapping, Option.map_some]⟩
  · exact hnodup
  · exact hnodup
  · exact fun usage husage => husage

theorem releaseKeys_frame :
    (controller.releaseKeys os).2.pressedButtons = controller.pressedButtons ∧
      (controller.releaseKeys os).2.touches = controller.touches := by
  constructor
  · exact attemptAll_frame pressedButtons (fun _ usage => key_pressedButtons usage .released) _
  · exact (attemptAll_keeps (fun _ usage => key_keeps usage .released) _).touches

theorem Mirrors.released (h : Mirrors controller) :
    Released os controller (controller.releaseAll os) := by
  obtain ⟨hcancelErrors, hcancelInjected, hcancelTouches⟩ := @cancelTouches_attempted os controller
  have hsame := @cancelTouches_same os controller
  have hbuttons := @releaseButtons_attempted os (controller.cancelTouches os).2
    (hsame.buttons ▸ h.buttons_nodup)
  have hbuttonFrame := @releaseButtons_frame os (controller.cancelTouches os).2
  rw [hsame.keys] at hbuttonFrame
  have hkeys := @releaseKeys_attempted os ((controller.cancelTouches os).2.releaseButtons os).2
    (hbuttonFrame.1 ▸ h.keys_nodup) (hbuttonFrame.1 ▸ h.known)
  have hkeyFrame := @releaseKeys_frame os ((controller.cancelTouches os).2.releaseButtons os).2
  have hstate : (controller.releaseAll os).2 =
      (((controller.cancelTouches os).2.releaseButtons os).2.releaseKeys os).2 := rfl
  refine ⟨?_, ?_, ?_, ?_, ?_⟩
  · have hresult : ∃ errors, errors = errorsOf (controller.cancelTouches os).1 ++
        ((controller.cancelTouches os).2.releaseButtons os).1 ++
        (((controller.cancelTouches os).2.releaseButtons os).2.releaseKeys os).1 ∧
        (controller.releaseAll os).1 = if errors = [] then .ok ()
          else .error ("failed to release remote Windows input state: " ++
            "; ".intercalate errors) := ⟨_, rfl, rfl⟩
    obtain ⟨errors, herrors, hresult⟩ := hresult
    have hreleases : errors = controller.releases.filterMap (releaseRefusal os) := by
      rw [herrors, hcancelErrors, hbuttons.errors, hkeys.errors, hbuttonFrame.1, hsame.buttons]
      simp only [releases, List.filterMap_append, List.filterMap_eq_map']
    rw [hresult, hreleases]
  · rw [hstate, hkeys.injected, hbuttons.injected, hcancelInjected, hbuttonFrame.1, hsame.buttons]
    simp only [releases, List.filter_append, List.filterMap_eq_map', List.append_assoc]
  · rw [hstate, hkeyFrame.2, hbuttonFrame.2, hcancelTouches]
  · intro button
    rw [hstate, hkeyFrame.1, hbuttons.held, hsame.buttons]
    simp only [Option.some.injEq, exists_eq_left']
    constructor
    · intro hheld
      exact ⟨hheld.1, hheld.2 hheld.1⟩
    · intro hheld
      exact ⟨hheld.1, fun _ => hheld.2⟩
  · intro usage
    rw [hstate, hkeys.held, hbuttonFrame.1]
    constructor
    · intro hheld
      exact ⟨hheld.1, hheld.2 hheld.1⟩
    · intro hheld
      exact ⟨hheld.1, fun _ => hheld.2⟩

/-- Without a refusal nothing stays down. -/
theorem Released.empty {result : Except String Unit × NativeInputController}
    (h : Released os controller result)
    (haccepted : ∀ call ∈ controller.releases, releaseRefusal os call = none) :
    result.1 = .ok () ∧ result.2.pressedButtons = [] ∧ result.2.pressedKeys = [] ∧
      ∀ contactId, result.2.touches contactId = none := by
  refine ⟨?_, ?_, ?_, ?_⟩
  · have hnone : controller.releases.filterMap (releaseRefusal os) = [] :=
      List.filterMap_eq_nil_iff.mpr haccepted
    rw [h.errors, if_pos hnone]
  · apply List.eq_nil_iff_forall_not_mem.mpr
    intro button hbutton
    obtain ⟨hheld, hrefused⟩ := (h.buttons button).mp hbutton
    have hcall := haccepted (.mouseButton button .released) (by simp [releases, hheld])
    simp [hcall] at hrefused
  · apply List.eq_nil_iff_forall_not_mem.mpr
    intro usage husage
    obtain ⟨hheld, call, hcall, hrefused⟩ := (h.keys usage).mp husage
    have hmem : call ∈ controller.releases := by
      apply List.mem_append_right
      exact List.mem_filterMap.mpr ⟨usage, hheld, hcall⟩
    simp [haccepted call hmem] at hrefused
  · intro contactId
    rw [h.touches]
    by_cases hnone : ∀ contactId, controller.touches contactId = none
    · split
      · exact hnone contactId
      · rfl
    · have hcalls : controller.cancelCalls = [controller.cancelFrame] := by
        rw [cancelCalls, if_neg hnone]
      have hcall := haccepted controller.cancelFrame (by simp [releases, hcalls])
      simp [hcall]

/-- The states of a session: Windows answers each injection as it likes, and the sets of buttons and
keys are visited in any order. -/
inductive Reached (mapper : CoordinateMapper) : NativeInputController → Prop where
  | new : Reached mapper (new mapper)
  | visit {controller : NativeInputController} {buttons : List PointerButton} {keys : List UInt16}
    (h : Reached mapper controller) (hbuttons : buttons.Perm controller.pressedButtons)
    (hkeys : keys.Perm controller.pressedKeys) :
    Reached mapper { controller with pressedButtons := buttons, pressedKeys := keys }
  | inject {controller : NativeInputController} (os : OsCall → Except String Unit)
    (event : InputEvent) (h : Reached mapper controller) :
    Reached mapper (controller.inject os event).2

theorem Reached.mirrors {mapper : CoordinateMapper} (h : Reached mapper controller) :
    Mirrors controller := by
  induction h with
  | new => exact mirrors_new mapper
  | visit h hbuttons hkeys ih =>
    refine ⟨hbuttons.nodup_iff.mpr ih.buttons_nodup, hkeys.nodup_iff.mpr ih.keys_nodup, ?_, ?_, ?_,
      ih.contacts⟩
    · exact fun usage husage => ih.known usage (hkeys.mem_iff.mp husage)
    · intro button
      rw [ih.buttons]
      simp only [hbuttons.mem_iff]
    · intro usage
      rw [ih.keys]
      simp only [hkeys.mem_iff]
  | inject os event h ih => exact ih.injections (inject_injections event)

/-- The log is down, up, down, and so on. -/
def Alternates (log : List ButtonState) : Prop :=
  ∀ i state, log[i]? = some state → (state = .pressed ↔ i % 2 = 0)

theorem alternates_of_openAfter {log : List ButtonState} {down : Bool}
    (h : openAfter buttonMark log = some down) :
    Alternates log ∧ (down = true ↔ log.getLast? = some .pressed) := by
  constructor
  · intro i state hstate
    rw [← openAfter_alternates h (fun a _ => buttonMark_ne_inside a) i state hstate]
    cases state <;> simp [buttonMark]
  · rw [openAfter_last h]
    constructor
    · rintro ⟨last, hlast, hmark⟩
      cases last with
      | pressed => exact hlast
      | released => exact absurd rfl hmark
    · intro hlast
      exact ⟨.pressed, hlast, by decide⟩

/-- What the controller holds down is what the accepted injections left down, whatever failed. -/
theorem injections_mirrored {mapper : CoordinateMapper} (h : Reached mapper controller) :
    (∀ button, Alternates (controller.injected.filterMap (buttonState button)) ∧
      (button ∈ controller.pressedButtons ↔
        (controller.injected.filterMap (buttonState button)).getLast? = some .pressed)) ∧
    (∀ usage, Alternates (controller.injected.filterMap (keyState usage)) ∧
      (usage ∈ controller.pressedKeys ↔
        (controller.injected.filterMap (keyState usage)).getLast? = some .pressed)) ∧
    (∀ contactId,
      InStrokes pointerMark (controller.injected.filterMap (contactFlags contactId))
        (controller.touches contactId).isSome ∧
      ((controller.touches contactId).isSome = true ↔
        ∃ flags, (controller.injected.filterMap (contactFlags contactId)).getLast? = some flags ∧
          pointerMark flags ≠ .closing)) ∧
    (∀ os event error, event.kind ≠ .focus false →
      (controller.inject os event).1 = .error error → (controller.inject os event).2 = controller) ∧
    ∀ os, Released os controller (controller.releaseAll os) ∧
      ((∀ call ∈ controller.releases, releaseRefusal os call = none) →
        (controller.releaseAll os).1 = .ok () ∧ (controller.releaseAll os).2.pressedButtons = [] ∧
          (controller.releaseAll os).2.pressedKeys = [] ∧
          ∀ contactId, (controller.releaseAll os).2.touches contactId = none) := by
  have hmirrors := h.mirrors
  refine ⟨?_, ?_, ?_, ?_, ?_⟩
  · intro button
    have hbutton := alternates_of_openAfter (hmirrors.buttons button)
    rw [decide_eq_true_eq] at hbutton
    exact hbutton
  · intro usage
    have hkey := alternates_of_openAfter (hmirrors.keys usage)
    rw [decide_eq_true_eq] at hkey
    exact hkey
  · intro contactId
    have hcontact := hmirrors.contacts contactId
    exact ⟨inStrokes_of_openAfter hcontact, openAfter_last hcontact⟩
  · intro os event error hfocus herror
    exact (inject_atomic hfocus).unchanged herror
  · intro os
    have hreleased := @Mirrors.released os controller hmirrors
    exact ⟨hreleased, hreleased.empty⟩

def wholeDesktop : CoordinateMapper where
  sourceWidth := 1920
  sourceHeight := 1080
  target := ⟨0, 0, 1920, 1080⟩
  virtualDesktop := ⟨0, 0, 1920, 1080⟩
  valid := rfl

/-- A press, then a focus loss whose release Windows refuses. -/
def refusedRelease : NativeInputController :=
  let held := ((new wholeDesktop).inject (fun _ => .ok ())
    ⟨0, .pointerButton .primary .pressed, rfl⟩).2
  (held.inject (fun _ => .error "refused") ⟨1, .focus false, rfl⟩).2

theorem injections_mirrored_refusedRelease :
    .primary ∈ refusedRelease.pressedButtons ∧
      (refusedRelease.injected.filterMap (buttonState .primary)).getLast? = some .pressed := by
  have hmirrored := @injections_mirrored refusedRelease wholeDesktop (.inject _ _ (.inject _ _ .new))
  have hheld : .primary ∈ refusedRelease.pressedButtons := by decide
  exact ⟨hheld, (hmirrored.1 .primary).2.mp hheld⟩

end NativeInputController

end LadoFlow.Host
