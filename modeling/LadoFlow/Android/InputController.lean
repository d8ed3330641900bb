import LadoFlow.Android.SessionCallbacks
import LadoFlow.Protocol.Contact

/-!
# Touch input of the display

`AndroidInputController` turns motion events into touch payloads. It knows which platform pointers
are down, under which contact and where each was last. The double-precision arithmetic of
`ViewportTransform` is an argument of each pointer; its results are coerced here.
-/

namespace LadoFlow.Android

open Framework
open Protocol (Contact TouchPhase TouchSignal)

/-- `Int.coerceIn` -/
def coerceIn (value minimum maximum : Int32) : Int32 :=
  if value < minimum then minimum else if maximum < value then maximum else value

theorem coerceIn_range {minimum maximum : Int32} (h : minimum ≤ maximum) (value : Int32) :
    minimum ≤ coerceIn value minimum maximum ∧ coerceIn value minimum maximum ≤ maximum := by
  rw [coerceIn]
  split
  · exact ⟨Int32.le_refl _, h⟩
  case isFalse hlow =>
    split
    · exact ⟨h, Int32.le_refl _⟩
    case isFalse hhigh => exact ⟨Int32.not_lt.mp hlow, Int32.not_lt.mp hhigh⟩

theorem pred_extent {extent : Int32} (h : 1 ≤ extent ∧ extent ≤ 0xffff) :
    0 ≤ extent - 1 ∧ extent - 1 < extent := by
  simp only [Int32.le_iff_toInt_le, Int32.lt_iff_toInt_lt, Int32.toInt_sub] at h ⊢
  have hone : (1 : Int32).toInt = 1 := rfl
  have hzero : (0 : Int32).toInt = 0 := rfl
  have hmax : (0xffff : Int32).toInt = 0xffff := rfl
  rw [hone, hmax] at h
  rw [hone, hzero, Int.bmod_eq_of_le (by omega) (by omega)]
  omega

/-- A coded pixel fits the unsigned 16-bit fields of a touch. -/
structure RemotePixel where
  x : Int32
  y : Int32
  x_range : 0 ≤ x ∧ x ≤ 0xffff
  y_range : 0 ≤ y ∧ y ≤ 0xffff
  deriving DecidableEq

theorem zero_coordinate : (0 : Int32) ≤ 0 ∧ (0 : Int32) ≤ 0xffff := by
  decide

def RemotePixel.origin : RemotePixel := ⟨0, 0, zero_coordinate, zero_coordinate⟩

namespace RemoteViewport

/-- The pixel lies in the coded picture. -/
def Contains (viewport : RemoteViewport) (pixel : RemotePixel) : Prop :=
  pixel.x < viewport.codedWidth ∧ pixel.y < viewport.codedHeight

end RemoteViewport

/-- The outcome of the floating-point part of a transform: whether the position lies on the content,
and the rounded source pixel before it is coerced into the picture. -/
structure ViewPosition where
  onContent : Bool
  column : Int32
  row : Int32

structure ViewportTransform where
  viewWidth : Int32
  viewHeight : Int32
  viewport : RemoteViewport

/-- One pointer of a motion event, with its pressure on the 16-bit scale. -/
structure MotionPointer where
  pointerId : Int32
  locate : ViewportTransform → ViewPosition
  pressure : UInt16

namespace ViewportTransform

variable (transform : ViewportTransform) (pointer : MotionPointer)

theorem coordinate_range {extent : Int32} (h : 1 ≤ extent ∧ extent ≤ 0xffff) (value : Int32) :
    (0 ≤ coerceIn value 0 (extent - 1) ∧ coerceIn value 0 (extent - 1) ≤ 0xffff) ∧
      coerceIn value 0 (extent - 1) < extent := by
  obtain ⟨hlow, hhigh⟩ := pred_extent h
  obtain ⟨hmin, hmax⟩ := coerceIn_range hlow value
  have hlt := Int32.lt_of_le_of_lt hmax hhigh
  exact ⟨⟨hmin, Int32.le_trans (Int32.le_of_lt hlt) h.2⟩, hlt⟩

def mapClamped : RemotePixel where
  x := coerceIn (pointer.locate transform).column 0 (transform.viewport.codedWidth - 1)
  y := coerceIn (pointer.locate transform).row 0 (transform.viewport.codedHeight - 1)
  x_range := (coordinate_range transform.viewport.width_range _).1
  y_range := (coordinate_range transform.viewport.height_range _).1

def map : Option RemotePixel :=
  if (pointer.locate transform).onContent then some (transform.mapClamped pointer) else none

theorem mapClamped_inside : transform.viewport.Contains (transform.mapClamped pointer) :=
  ⟨(coordinate_range transform.viewport.width_range _).2,
    (coordinate_range transform.viewport.height_range _).2⟩

theorem map_inside {point : RemotePixel} (h : transform.map pointer = some point) :
    transform.viewport.Contains point := by
  rw [map] at h
  split at h
  · cases h
    exact transform.mapClamped_inside pointer
  · cases h

end ViewportTransform

/-- `MotionEvent.getActionMasked`, as far as the controller tells the actions apart. -/
inductive MotionAction where
  | down
  | pointerDown
  | move
  | up
  | pointerUp
  | cancel
  | other
  deriving DecidableEq, Repr

structure MotionEvent where
  isFromMouse : Bool
  actionMasked : MotionAction
  pointers : List MotionPointer
  actionIndex : Fin pointers.length
  eventTime : Int64

namespace MotionEvent

def actionPointer (event : MotionEvent) : MotionPointer := event.pointers.get event.actionIndex

def timestampMicros (event : MotionEvent) : UInt64 :=
  (if event.eventTime < 0 then 0 else event.eventTime).toUInt64 * 1000

end MotionEvent

/-- The contact of each platform pointer, in the order of their beginnings. -/
structure TouchContactTracker where
  contacts : List (Int32 × Contact)
  pointers_nodup : (contacts.map Prod.fst).Nodup
  contacts_nodup : (contacts.map Prod.snd).Nodup

namespace TouchContactTracker

def new : TouchContactTracker := ⟨[], .nil, .nil⟩

variable (tracker : TouchContactTracker)

def contactId (platformPointerId : Int32) : Option Contact :=
  tracker.contacts.lookup platformPointerId

/-- The lowest contact that no pointer holds. -/
def available : Option Contact :=
  (List.finRange 16).find? (· ∉ tracker.contacts.map Prod.snd)

theorem pointer_fresh {platformPointerId : Int32}
    (h : tracker.contactId platformPointerId = none) :
    platformPointerId ∉ tracker.contacts.map Prod.fst := by
  intro hmem
  obtain ⟨entry, hentry, rfl⟩ := List.mem_map.mp hmem
  have hne := List.lookup_eq_none_iff.mp h entry hentry
  simp at hne

theorem available_fresh {contact : Contact} (h : tracker.available = some contact) :
    contact ∉ tracker.contacts.map Prod.snd := by
  have hfound := List.find?_some h
  exact of_decide_eq_true hfound

theorem nodup_concat {α : Type} {values : List α} {value : α} (h : values.Nodup)
    (hfresh : value ∉ values) : (values ++ [value]).Nodup := by
  rw [List.nodup_append]
  refine ⟨h, List.nodup_singleton value, ?_⟩
  intro other hother last hlast heq
  rw [List.mem_singleton.mp hlast] at heq
  exact hfresh (heq ▸ hother)

def push (platformPointerId : Int32) (contact : Contact)
    (hpointer : tracker.contactId platformPointerId = none)
    (hcontact : tracker.available = some contact) : TouchContactTracker where
  contacts := tracker.contacts ++ [(platformPointerId, contact)]
  pointers_nodup := by
    rw [List.map_append]
    exact nodup_concat tracker.pointers_nodup (tracker.pointer_fresh hpointer)
  contacts_nodup := by
    rw [List.map_append]
    exact nodup_concat tracker.contacts_nodup (tracker.available_fresh hcontact)

def begin (platformPointerId : Int32) : Option (Contact × TouchContactTracker) :=
  match hpointer : tracker.contactId platformPointerId with
  | some contact => some (contact, tracker)
  | none =>
    match hcontact : tracker.available with
    | some contact => some (contact, tracker.push platformPointerId contact hpointer hcontact)
    | none => none

def «end» (platformPointerId : Int32) : TouchContactTracker where
  contacts := tracker.contacts.filter (·.1 ≠ platformPointerId)
  pointers_nodup := tracker.pointers_nodup.sublist (List.filter_sublist.map _)
  contacts_nodup := tracker.contacts_nodup.sublist (List.filter_sublist.map _)

def cancelAll : List (Int32 × Contact) × TouchContactTracker := (tracker.contacts, new)

end TouchContactTracker

structure AndroidInputController where
  touchContacts : TouchContactTracker
  lastTouchPixels : Int32 → Option RemotePixel
  viewport : Option RemoteViewport

namespace AndroidInputController

def new : AndroidInputController := ⟨.new, fun _ => none, none⟩

theorem touch_valid (contactId : Contact) (phase : TouchPhase) (point : RemotePixel)
    (pressure : UInt16) : (InputEventBody.touchInput (widen8 (.ofNat contactId)) phase point.x point.y
      (widen16 pressure)).init = .ok () := by
  have hcontact : widen8 (.ofNat contactId) < maxTouchContacts := by
    revert contactId
    decide
  simp only [InputEventBody.init, requireCoordinate]
  rw [requireProtocol_of ⟨(exists_widen8.mpr ⟨_, rfl⟩).1, hcontact⟩, requireProtocol_of point.x_range,
    requireProtocol_of point.y_range,
    requireProtocol_of ⟨zero_le_widen16 pressure, widen16_le_max pressure⟩]
  rfl

def touch (timestamp : UInt64) (contactId : Contact) (phase : TouchPhase) (point : RemotePixel)
    (pressure : UInt16) (critical : Bool) : AndroidInputEmission where
  payload :=
    { timestampMicros := timestamp
      event := .touchInput (widen8 (.ofNat contactId)) phase point.x point.y (widen16 pressure)
      valid := touch_valid contactId phase point pressure }
  delivery := if critical then .critical else .coalescible

variable (controller : AndroidInputController)

def transform (viewWidth viewHeight : Int32) : Option ViewportTransform :=
  match controller.viewport with
  | none => none
  | some viewport =>
    if viewWidth ≤ 0 ∨ viewHeight ≤ 0 then none else some ⟨viewWidth, viewHeight, viewport⟩

/-- Cancel every contact where it was last. -/
def cancelTouches (timestamp : UInt64) : List AndroidInputEmission × AndroidInputController :=
  let (contacts, touchContacts) := controller.touchContacts.cancelAll
  (contacts.map fun (platformId, contactId) =>
    touch timestamp contactId .cancel ((controller.lastTouchPixels platformId).getD .origin) 0 true,
    { controller with touchContacts, lastTouchPixels := fun _ => none })

def updateViewport (monotonicMicros : UInt64) (viewport : Option RemoteViewport) :
    List AndroidInputEmission × AndroidInputController :=
  if controller.viewport ≠ viewport then
    let (emissions, controller) := controller.cancelTouches monotonicMicros
    (emissions, { controller with viewport })
  else ([], controller)

def moveLoop (transform : ViewportTransform) (timestamp : UInt64) :
    AndroidInputController → List MotionPointer →
      List AndroidInputEmission × AndroidInputController
  | controller, [] => ([], controller)
  | controller, pointer :: pointers =>
    match controller.touchContacts.contactId pointer.pointerId with
    | none => moveLoop transform timestamp controller pointers
    | some contactId =>
      let point := transform.mapClamped pointer
      let (emissions, controller) := moveLoop transform timestamp
        { controller with
          lastTouchPixels := Function.update controller.lastTouchPixels pointer.pointerId (some point) }
        pointers
      (touch timestamp contactId .move point pointer.pressure false :: emissions, controller)

/-- Whether the event was handled, and what it emits. -/
def onTouchEvent (viewWidth viewHeight : Int32) (event : MotionEvent) :
    Bool × List AndroidInputEmission × AndroidInputController :=
  if event.isFromMouse then (false, [], controller)
  else
  match controller.transform viewWidth viewHeight with
  | none => (false, [], controller)
  | some transform =>
    let timestamp := event.timestampMicros
    let pointer := event.actionPointer
    match event.actionMasked with
    | .down | .pointerDown =>
      match transform.map pointer with
      | none => (false, [], controller)
      | some point =>
        match controller.touchContacts.begin pointer.pointerId with
        | none => (false, [], controller)
        | some (contactId, touchContacts) =>
          (true, [touch timestamp contactId .begin point pointer.pressure true],
            { controller with
              touchContacts
              lastTouchPixels :=
                Function.update controller.lastTouchPixels pointer.pointerId (some point) })
    | .move => (true, moveLoop transform timestamp controller event.pointers)
    | .up | .pointerUp =>
      match controller.touchContacts.contactId pointer.pointerId with
      | none => (false, [], controller)
      | some contactId =>
        (true, [touch timestamp contactId .end (transform.mapClamped pointer) pointer.pressure true],
          { controller with
            touchContacts := controller.touchContacts.end pointer.pointerId
            lastTouchPixels := Function.update controller.lastTouchPixels pointer.pointerId none })
    | .cancel => (true, controller.cancelTouches timestamp)
    | .other => (false, [], controller)

def onFocusChanged (monotonicMicros : UInt64) (focused : Bool) : AndroidInputEmission where
  payload := { timestampMicros := monotonicMicros, event := .focusInput focused, valid := rfl }
  delivery := .critical

end AndroidInputController

/-- What an event of the display says about contacts. -/
def InputEventBody.signal : InputEventBody → TouchSignal
  | .touchInput contactId phase _ _ _ =>
    if h : contactId.toInt.toNat < 16 then .touch ⟨contactId.toInt.toNat, h⟩ phase else .other
  | .focusInput false => .focusLost
  | _ => .other

/-- A touch lies in the coded picture. -/
def InputEventBody.Inside (viewport : RemoteViewport) : InputEventBody → Prop
  | .touchInput _ _ x y _ => x < viewport.codedWidth ∧ y < viewport.codedHeight
  | _ => True

theorem InputEventBody.signal_ofKind (kind : Protocol.InputEventKind) :
    (InputEventBody.ofKind kind).signal = kind.signal := by
  cases kind with
  | touch contactId phase x y pressure =>
    have hcontact : (widen8 contactId).toInt.toNat = contactId.toNat := by
      rw [toInt_widen8, Int.toNat_natCast]
    simp only [ofKind, signal, Protocol.InputEventKind.signal, hcontact]
  | focus focused => cases focused <;> rfl
  | _ => rfl

/-- The picture holds what an emission touches, and nothing but motion may be coalesced. -/
structure Emits (viewport : RemoteViewport) (emission : AndroidInputEmission) : Prop where
  inside : emission.payload.event.Inside viewport
  lane : emission.delivery = .coalescible → emission.payload.event.signal = .other ∨
    ∃ contact, emission.payload.event.signal = .touch contact .move

/-- The controller maps into the picture while it has a viewport. -/
structure AndroidInputController.MapsInto (viewport : RemoteViewport)
    (controller : AndroidInputController) : Prop where
  current : ∀ current ∈ controller.viewport, current = viewport
  pixels : ∀ platformId, ∀ pixel ∈ controller.lastTouchPixels platformId, viewport.Contains pixel

namespace AndroidInputController

section Emissions

variable {viewport : RemoteViewport} {controller : AndroidInputController}

theorem mapsInto_new (viewport : RemoteViewport) : MapsInto viewport new where
  current := nofun
  pixels := nofun

theorem touch_signal (timestamp : UInt64) (contactId : Contact) (phase : TouchPhase)
    (point : RemotePixel) (pressure : UInt16) (critical : Bool) :
    (touch timestamp contactId phase point pressure critical).payload.event.signal =
      .touch contactId phase := by
  have hcontact : (widen8 (.ofNat contactId)).toInt.toNat = contactId := by
    rw [toInt_widen8, Int.toNat_natCast]
    exact UInt8.toNat_ofNat_of_lt' (Nat.lt_trans contactId.isLt (by decide))
  simp only [touch, InputEventBody.signal, hcontact, contactId.isLt, dite_true]

theorem touch_emits {timestamp : UInt64} {contactId : Contact} {phase : TouchPhase}
    {point : RemotePixel} {pressure : UInt16} {critical : Bool} (hpoint : viewport.Contains point)
    (hlane : critical = true ∨ phase = .move) :
    Emits viewport (touch timestamp contactId phase point pressure critical) := by
  refine ⟨hpoint, ?_⟩
  intro hdelivery
  cases hlane with
  | inl hcritical =>
    rw [hcritical] at hdelivery
    cases hdelivery
  | inr hmove =>
    rw [touch_signal, hmove]
    exact .inr ⟨contactId, rfl⟩

theorem onFocusChanged_emits (monotonicMicros : UInt64) (focused : Bool) :
    Emits viewport (onFocusChanged monotonicMicros focused) := by
  refine ⟨trivial, ?_⟩
  intro hdelivery
  cases hdelivery

theorem origin_inside (viewport : RemoteViewport) : viewport.Contains .origin := by
  have hpos : (0 : Int32) < 1 := by decide
  exact ⟨Int32.lt_of_lt_of_le hpos viewport.width_range.1,
    Int32.lt_of_lt_of_le hpos viewport.height_range.1⟩

theorem MapsInto.getD (h : MapsInto viewport controller) (platformId : Int32) :
    viewport.Contains ((controller.lastTouchPixels platformId).getD .origin) := by
  cases hpixel : controller.lastTouchPixels platformId with
  | none => exact origin_inside viewport
  | some pixel => exact h.pixels platformId pixel hpixel

/-- A pixel of the picture may be recorded for any pointer. -/
theorem MapsInto.update (h : MapsInto viewport controller) (touchContacts : TouchContactTracker)
    (platformId : Int32) {point : Option RemotePixel}
    (hpoint : ∀ pixel ∈ point, viewport.Contains pixel) :
    MapsInto viewport { controller with
      touchContacts
      lastTouchPixels := Function.update controller.lastTouchPixels platformId point } := by
  refine ⟨h.current, ?_⟩
  intro other pixel hpixel
  by_cases hother : other = platformId
  · subst hother
    simp only [Function.update_self] at hpixel
    exact hpoint pixel hpixel
  · simp only [Function.update_of_ne hother] at hpixel
    exact h.pixels other pixel hpixel

theorem MapsInto.cancelTouches (h : MapsInto viewport controller) (timestamp : UInt64) :
    (∀ emission ∈ (controller.cancelTouches timestamp).1, Emits viewport emission) ∧
      MapsInto viewport (controller.cancelTouches timestamp).2 := by
  constructor
  · intro emission hemission
    obtain ⟨entry, -, rfl⟩ := List.mem_map.mp hemission
    exact touch_emits (h.getD entry.1) (.inl rfl)
  · exact ⟨h.current, nofun⟩

theorem MapsInto.updateViewport (h : MapsInto viewport controller) (monotonicMicros : UInt64)
    {next : Option RemoteViewport} (hnext : ∀ current ∈ next, current = viewport) :
    (∀ emission ∈ (controller.updateViewport monotonicMicros next).1, Emits viewport emission) ∧
      MapsInto viewport (controller.updateViewport monotonicMicros next).2 := by
  obtain ⟨hemits, hmaps⟩ := h.cancelTouches monotonicMicros
  rw [AndroidInputController.updateViewport]
  split
  · exact ⟨hemits, hnext, hmaps.pixels⟩
  · exact ⟨nofun, h⟩

theorem MapsInto.moveLoop (h : MapsInto viewport controller) {transform : ViewportTransform}
    (htransform : transform.viewport = viewport) (timestamp : UInt64)
    (pointers : List MotionPointer) :
    (∀ emission ∈ (moveLoop transform timestamp controller pointers).1, Emits viewport emission) ∧
      MapsInto viewport (moveLoop transform timestamp controller pointers).2 := by
  induction pointers generalizing controller with
  | nil => exact ⟨nofun, h⟩
  | cons pointer pointers ih =>
    rw [AndroidInputController.moveLoop]
    split
    · exact ih h
    case h_2 contactId _ =>
      have hpoint : viewport.Contains (transform.mapClamped pointer) :=
        htransform ▸ transform.mapClamped_inside pointer
      have hsome : ∀ pixel ∈ some (transform.mapClamped pointer), viewport.Contains pixel := by
        simpa using hpoint
      have hnext := h.update controller.touchContacts pointer.pointerId hsome
      obtain ⟨hemits, hmaps⟩ := ih hnext
      refine ⟨?_, hmaps⟩
      intro emission hemission
      cases List.mem_cons.mp hemission with
      | inl hfirst =>
        subst hfirst
        exact touch_emits hpoint (.inr rfl)
      | inr hrest => exact hemits emission hrest

theorem transform_viewport {viewWidth viewHeight : Int32} {transform : ViewportTransform}
    (h : MapsInto viewport controller)
    (htransform : controller.transform viewWidth viewHeight = some transform) :
    transform.viewport = viewport := by
  simp only [AndroidInputController.transform] at htransform
  split at htransform
  · cases htransform
  case h_2 current hcurrent =>
    split at htransform
    · cases htransform
    · cases htransform
      exact h.current current hcurrent

/-- Every touch of a motion event lies in the picture. -/
theorem MapsInto.onTouchEvent (h : MapsInto viewport controller) (viewWidth viewHeight : Int32)
    (event : MotionEvent) :
    (∀ emission ∈ (controller.onTouchEvent viewWidth viewHeight event).2.1,
      Emits viewport emission) ∧
      MapsInto viewport (controller.onTouchEvent viewWidth viewHeight event).2.2 := by
  have hsilent : (∀ emission ∈ ([] : List AndroidInputEmission), Emits viewport emission) ∧
      MapsInto viewport controller := ⟨nofun, h⟩
  simp only [AndroidInputController.onTouchEvent]
  split
  · exact hsilent
  split
  · exact hsilent
  case h_2 transform htransform =>
    have hviewport := transform_viewport h htransform
    have hclamped : viewport.Contains (transform.mapClamped event.actionPointer) :=
      hviewport ▸ transform.mapClamped_inside event.actionPointer
    cases event.actionMasked with
    | down | pointerDown =>
      simp only
      split
      · exact hsilent
      case h_2 point hpoint =>
        have hinside : viewport.Contains point := hviewport ▸ transform.map_inside _ hpoint
        split
        · exact hsilent
        case h_2 contactId touchContacts _ =>
          refine ⟨?_, h.update _ _ (by simpa using hinside)⟩
          intro emission hemission
          rw [List.mem_singleton.mp hemission]
          exact touch_emits hinside (.inl rfl)
    | move => exact h.moveLoop hviewport _ _
    | up | pointerUp =>
      simp only
      split
      · exact hsilent
      case h_2 contactId _ =>
        refine ⟨?_, h.update _ _ nofun⟩
        intro emission hemission
        rw [List.mem_singleton.mp hemission]
        exact touch_emits hclamped (.inl rfl)
    | cancel => exact h.cancelTouches _
    | other => exact hsilent

end Emissions

end AndroidInputController

end LadoFlow.Android
