import LadoFlow.Framework.FloorScale
import LadoFlow.Host.InputInjector

/-!
# The mapping of remote coordinates

Both scalings are floors of a fraction of the source range. Per axis they keep the order and the ends
of their ranges, and no intermediate value leaves the range of `i64`.
-/

namespace LadoFlow.Host

open Framework LadoFlow.Protocol

def InI64 (value : Int) : Prop := -2 ^ 63 ≤ value ∧ value < 2 ^ 63

/-- Every value that `scale_coordinate` computes in `i64`. -/
def scaleIntermediates (value sourceExtent : UInt16) (targetStart targetEnd : Int32) : List Int :=
  let targetExtent := targetEnd.toInt - targetStart.toInt
  let scaled := (value.toNat * (targetExtent - 1)).tdiv (sourceExtent.toNat - 1)
  [targetExtent, targetExtent - 1, value.toNat * (targetExtent - 1), scaled,
    targetStart.toInt + scaled]

/-- Every value that `normalize_virtual_coordinate` computes in `i64`. -/
def normalizeIntermediates (value start stop : Int32) : List Int :=
  let extent := stop.toInt - start.toInt
  let product := (value.toInt - start.toInt) * normalizedMouseMax
  [extent, extent - 1, value.toInt - start.toInt, product, product.tdiv (extent - 1)]

theorem tryFromI32_ok {value : Int} (hlow : -2 ^ 31 ≤ value) (hhigh : value < 2 ^ 31) :
    ∃ mapped, tryFromI32 value = some mapped ∧ mapped.toInt = value := by
  refine ⟨_, if_pos ⟨hlow, hhigh⟩, ?_⟩
  exact Int32.toInt_ofInt_of_le hlow hhigh

theorem tdiv_floorScale {num den x : Nat} : ((x : Int) * num).tdiv den = floorScale num den x := by
  rw [Int.tdiv_eq_ediv_of_nonneg (Int.mul_nonneg (Int.natCast_nonneg x) (Int.natCast_nonneg num)),
    floorScale, Int.natCast_ediv, Int.natCast_mul]

section Scale

variable {value sourceExtent : UInt16} {targetStart targetEnd : Int32}

/-- The scaled offset, in a form that the one-pixel ranges share. -/
def scaledOffset (value sourceExtent : UInt16) (targetStart targetEnd : Int32) : Nat :=
  floorScale (targetEnd.toInt - targetStart.toInt - 1).toNat (sourceExtent.toNat - 1) value.toNat

theorem scaledOffset_le (hvalue : value < sourceExtent) :
    scaledOffset value sourceExtent targetStart targetEnd ≤
      (targetEnd.toInt - targetStart.toInt - 1).toNat := by
  have hlt := UInt16.lt_iff_toNat_lt.mp hvalue
  exact floorScale_le (by omega)

theorem tdiv_scaledOffset (hvalue : value < sourceExtent) (htarget : targetStart < targetEnd) :
    ((value.toNat : Int) * (targetEnd.toInt - targetStart.toInt - 1)).tdiv (sourceExtent.toNat - 1) =
      scaledOffset value sourceExtent targetStart targetEnd := by
  have hlt := UInt16.lt_iff_toNat_lt.mp hvalue
  have hspan := Int32.lt_iff_toInt_lt.mp htarget
  have hextent : targetEnd.toInt - targetStart.toInt - 1 =
      ((targetEnd.toInt - targetStart.toInt - 1).toNat : Int) := by omega
  have hsource : (sourceExtent.toNat : Int) - 1 = ((sourceExtent.toNat - 1 : Nat) : Int) := by omega
  rw [hextent, hsource, tdiv_floorScale]
  rfl

theorem scaleCoordinate_eq (axis : String) (hvalue : value < sourceExtent)
    (htarget : targetStart < targetEnd) :
    ∃ mapped, scaleCoordinate value sourceExtent targetStart targetEnd axis = .ok mapped ∧
      mapped.toInt =
        targetStart.toInt + scaledOffset value sourceExtent targetStart targetEnd := by
  have hlt := UInt16.lt_iff_toNat_lt.mp hvalue
  have hspan := Int32.lt_iff_toInt_lt.mp htarget
  have hle := @scaledOffset_le value sourceExtent targetStart targetEnd hvalue
  simp only [scaleCoordinate, if_neg (UInt16.not_le.mpr hvalue)]
  by_cases hone : sourceExtent = 1 ∨ targetEnd.toInt - targetStart.toInt = 1
  · rw [if_pos hone]
    refine ⟨targetStart, rfl, ?_⟩
    have hzero : scaledOffset value sourceExtent targetStart targetEnd = 0 := by
      rcases hone with rfl | hone
      · have hvalue : value.toNat = 0 := Nat.lt_one_iff.mp hlt
        rw [scaledOffset, hvalue, floorScale_zero]
      · omega
    omega
  · rw [if_neg hone, tdiv_scaledOffset hvalue htarget]
    have hend := targetEnd.toInt_lt
    have hstart := targetStart.le_toInt
    obtain ⟨mapped, hmapped, htoInt⟩ := @tryFromI32_ok
      (targetStart.toInt + scaledOffset value sourceExtent targetStart targetEnd)
      (by omega) (by omega)
    rw [hmapped]
    exact ⟨mapped, rfl, htoInt⟩

theorem scaleIntermediates_fit (hvalue : value < sourceExtent) (htarget : targetStart < targetEnd) :
    ∀ number ∈ scaleIntermediates value sourceExtent targetStart targetEnd, InI64 number := by
  have hspan := Int32.lt_iff_toInt_lt.mp htarget
  have hle := @scaledOffset_le value sourceExtent targetStart targetEnd hvalue
  have hend := targetEnd.toInt_lt
  have hstart := targetStart.le_toInt
  have hproduct : (value.toNat : Int) * (targetEnd.toInt - targetStart.toInt - 1) ≤
      2 ^ 16 * 2 ^ 32 := by
    have hnat := value.toNat_lt
    exact Int.mul_le_mul (by omega) (by omega) (by omega) (by omega)
  have hnonneg : 0 ≤ (value.toNat : Int) * (targetEnd.toInt - targetStart.toInt - 1) :=
    Int.mul_nonneg (by omega) (by omega)
  intro number hnumber
  simp only [scaleIntermediates, tdiv_scaledOffset hvalue htarget, List.mem_cons,
    List.not_mem_nil, or_false] at hnumber
  rcases hnumber with rfl | rfl | rfl | rfl | rfl
  · exact ⟨by omega, by omega⟩
  · exact ⟨by omega, by omega⟩
  · exact ⟨by omega, by omega⟩
  · exact ⟨by omega, by omega⟩
  · exact ⟨by omega, by omega⟩

end Scale

section Normalize

variable {value start stop : Int32}

def normalizedOffset (value start stop : Int32) : Nat :=
  floorScale 65535 (stop.toInt - start.toInt - 1).toNat (value.toInt - start.toInt).toNat

theorem normalizedOffset_le (hstart : start ≤ value) (hstop : value < stop) :
    normalizedOffset value start stop ≤ 65535 := by
  have hlow := Int32.le_iff_toInt_le.mp hstart
  have hhigh := Int32.lt_iff_toInt_lt.mp hstop
  exact floorScale_le (by omega)

theorem tdiv_normalizedOffset (hstart : start ≤ value) (hstop : value < stop) :
    ((value.toInt - start.toInt) * normalizedMouseMax).tdiv (stop.toInt - start.toInt - 1) =
      normalizedOffset value start stop := by
  have hlow := Int32.le_iff_toInt_le.mp hstart
  have hhigh := Int32.lt_iff_toInt_lt.mp hstop
  have hoffset : value.toInt - start.toInt = ((value.toInt - start.toInt).toNat : Int) := by omega
  have hextent : stop.toInt - start.toInt - 1 =
      ((stop.toInt - start.toInt - 1).toNat : Int) := by omega
  have hmax : normalizedMouseMax = ((65535 : Nat) : Int) := rfl
  rw [hoffset, hextent, hmax, tdiv_floorScale]
  rfl

theorem normalizeVirtualCoordinate_eq (hstart : start ≤ value) (hstop : value < stop) :
    ∃ mapped, normalizeVirtualCoordinate value start stop = .ok mapped ∧
      mapped.toInt = normalizedOffset value start stop := by
  have hlow := Int32.le_iff_toInt_le.mp hstart
  have hhigh := Int32.lt_iff_toInt_lt.mp hstop
  have hle := normalizedOffset_le hstart hstop
  have hinside : ¬(value < start ∨ value ≥ stop) := by
    rw [not_or]
    exact ⟨Int32.not_lt.mpr hstart, Int32.not_le.mpr hstop⟩
  simp only [normalizeVirtualCoordinate, if_neg hinside]
  have hnormalized : (if stop.toInt - start.toInt = 1 then (0 : Int)
      else ((value.toInt - start.toInt) * normalizedMouseMax).tdiv (stop.toInt - start.toInt - 1)) =
      normalizedOffset value start stop := by
    by_cases hone : stop.toInt - start.toInt = 1
    · have hzero : (value.toInt - start.toInt).toNat = 0 := by omega
      rw [if_pos hone, normalizedOffset, hzero, floorScale_zero]
      rfl
    · rw [if_neg hone, tdiv_normalizedOffset hstart hstop]
  rw [hnormalized]
  obtain ⟨mapped, hmapped, htoInt⟩ := @tryFromI32_ok (normalizedOffset value start stop : Int)
    (by omega) (by omega)
  rw [hmapped]
  exact ⟨mapped, rfl, htoInt⟩

theorem normalizeIntermediates_fit (hstart : start ≤ value) (hstop : value < stop) :
    ∀ number ∈ normalizeIntermediates value start stop, InI64 number := by
  have hlow := Int32.le_iff_toInt_le.mp hstart
  have hhigh := Int32.lt_iff_toInt_lt.mp hstop
  have hle := normalizedOffset_le hstart hstop
  have hmax : normalizedMouseMax = 65535 := rfl
  have hend := stop.toInt_lt
  have hbegin := start.le_toInt
  intro number hnumber
  simp only [normalizeIntermediates, tdiv_normalizedOffset hstart hstop, List.mem_cons,
    List.not_mem_nil, or_false] at hnumber
  rcases hnumber with rfl | rfl | rfl | rfl | rfl
  · exact ⟨by omega, by omega⟩
  · exact ⟨by omega, by omega⟩
  · exact ⟨by omega, by omega⟩
  · rw [hmax]
    exact ⟨by omega, by omega⟩
  · exact ⟨by omega, by omega⟩

end Normalize

/-- What the two scalings do along one axis. -/
structure AxisLaw (axis : String) (sourceExtent : UInt16)
    (targetStart targetEnd desktopStart desktopEnd : Int32) : Prop where
  total : ∀ value < sourceExtent, ∃ screen mouse,
    scaleCoordinate value sourceExtent targetStart targetEnd axis = .ok screen ∧
      normalizeVirtualCoordinate screen desktopStart desktopEnd = .ok mouse ∧
      targetStart ≤ screen ∧ screen < targetEnd ∧ 0 ≤ mouse.toInt ∧ mouse.toInt ≤ 65535 ∧
      (∀ number ∈ scaleIntermediates value sourceExtent targetStart targetEnd, InI64 number) ∧
      ∀ number ∈ normalizeIntermediates screen desktopStart desktopEnd, InI64 number
  screen_mono : ∀ value value' screen screen',
    scaleCoordinate value sourceExtent targetStart targetEnd axis = .ok screen →
    scaleCoordinate value' sourceExtent targetStart targetEnd axis = .ok screen' →
    value ≤ value' → screen ≤ screen'
  screen_first : scaleCoordinate 0 sourceExtent targetStart targetEnd axis = .ok targetStart
  screen_last : sourceExtent ≠ 1 → ∃ screen,
    scaleCoordinate (sourceExtent - 1) sourceExtent targetStart targetEnd axis = .ok screen ∧
      screen.toInt = targetEnd.toInt - 1
  mouse_mono : ∀ screen screen' mouse mouse',
    normalizeVirtualCoordinate screen desktopStart desktopEnd = .ok mouse →
    normalizeVirtualCoordinate screen' desktopStart desktopEnd = .ok mouse' →
    screen ≤ screen' → mouse ≤ mouse'
  mouse_first : normalizeVirtualCoordinate desktopStart desktopStart desktopEnd = .ok 0
  mouse_last : desktopEnd.toInt - desktopStart.toInt ≠ 1 → ∀ screen : Int32,
    screen.toInt = desktopEnd.toInt - 1 →
    normalizeVirtualCoordinate screen desktopStart desktopEnd = .ok 65535

theorem scaleCoordinate_inside {value sourceExtent : UInt16} {targetStart targetEnd screen : Int32}
    {axis : String}
    (h : scaleCoordinate value sourceExtent targetStart targetEnd axis = .ok screen) :
    value < sourceExtent := by
  rw [scaleCoordinate] at h
  split at h
  · cases h
  · rename_i hvalue
    exact UInt16.not_le.mp hvalue

theorem normalizeVirtualCoordinate_inside {value start stop mouse : Int32}
    (h : normalizeVirtualCoordinate value start stop = .ok mouse) : start ≤ value ∧ value < stop := by
  rw [normalizeVirtualCoordinate] at h
  split at h
  · cases h
  · rename_i hvalue
    rw [not_or] at hvalue
    exact ⟨Int32.not_lt.mp hvalue.1, Int32.not_le.mp hvalue.2⟩

section Axis

variable {axis : String} {value value' sourceExtent : UInt16}
  {targetStart targetEnd screen screen' start stop mouse mouse' : Int32}

theorem scaleCoordinate_mono (htarget : targetStart < targetEnd)
    (h : scaleCoordinate value sourceExtent targetStart targetEnd axis = .ok screen)
    (h' : scaleCoordinate value' sourceExtent targetStart targetEnd axis = .ok screen')
    (hle : value ≤ value') : screen ≤ screen' := by
  obtain ⟨mapped, hmapped, htoInt⟩ := scaleCoordinate_eq axis (scaleCoordinate_inside h) htarget
  obtain ⟨mapped', hmapped', htoInt'⟩ :=
    scaleCoordinate_eq axis (scaleCoordinate_inside h') htarget
  rw [h] at hmapped
  rw [h'] at hmapped'
  cases hmapped
  cases hmapped'
  have hspan := Int32.lt_iff_toInt_lt.mp htarget
  have hmono : scaledOffset value sourceExtent targetStart targetEnd ≤
      scaledOffset value' sourceExtent targetStart targetEnd :=
    floorScale_mono (UInt16.le_iff_toNat_le.mp hle)
  rw [Int32.le_iff_toInt_le]
  omega

theorem scaleCoordinate_first (axis : String) (hsource : 0 < sourceExtent)
    (htarget : targetStart < targetEnd) :
    scaleCoordinate 0 sourceExtent targetStart targetEnd axis = .ok targetStart := by
  obtain ⟨screen, hscreen, htoInt⟩ := scaleCoordinate_eq axis hsource htarget
  have hzero : scaledOffset 0 sourceExtent targetStart targetEnd = 0 := floorScale_zero
  rw [hscreen]
  congr 1
  apply Int32.toInt_inj.mp
  omega

theorem scaleCoordinate_last (axis : String) (hsource : 0 < sourceExtent) (hone : sourceExtent ≠ 1)
    (htarget : targetStart < targetEnd) :
    ∃ screen, scaleCoordinate (sourceExtent - 1) sourceExtent targetStart targetEnd axis = .ok screen ∧
      screen.toInt = targetEnd.toInt - 1 := by
  have hpos := UInt16.lt_iff_toNat_lt.mp hsource
  have hspan := Int32.lt_iff_toInt_lt.mp htarget
  have hlast : (sourceExtent - 1).toNat = sourceExtent.toNat - 1 :=
    UInt16.toNat_sub_of_le _ _ (UInt16.le_iff_toNat_le.mpr hpos)
  have hvalue : sourceExtent - 1 < sourceExtent := by
    rw [UInt16.lt_iff_toNat_lt, hlast]
    exact Nat.sub_lt hpos Nat.one_pos
  have hmany : 0 < sourceExtent.toNat - 1 := by
    have hne : sourceExtent.toNat ≠ 1 := fun h => hone (UInt16.toNat_inj.mp h)
    have hzero : (0 : UInt16).toNat = 0 := rfl
    omega
  obtain ⟨screen, hscreen, htoInt⟩ := scaleCoordinate_eq axis hvalue htarget
  have htop : scaledOffset (sourceExtent - 1) sourceExtent targetStart targetEnd =
      (targetEnd.toInt - targetStart.toInt - 1).toNat := by
    rw [scaledOffset, hlast, floorScale_self hmany]
  exact ⟨screen, hscreen, by omega⟩

theorem normalizeVirtualCoordinate_mono
    (h : normalizeVirtualCoordinate screen start stop = .ok mouse)
    (h' : normalizeVirtualCoordinate screen' start stop = .ok mouse') (hle : screen ≤ screen') :
    mouse ≤ mouse' := by
  obtain ⟨hlow, hhigh⟩ := normalizeVirtualCoordinate_inside h
  obtain ⟨hlow', hhigh'⟩ := normalizeVirtualCoordinate_inside h'
  obtain ⟨mapped, hmapped, htoInt⟩ := normalizeVirtualCoordinate_eq hlow hhigh
  obtain ⟨mapped', hmapped', htoInt'⟩ := normalizeVirtualCoordinate_eq hlow' hhigh'
  rw [h] at hmapped
  rw [h'] at hmapped'
  cases hmapped
  cases hmapped'
  have horder := Int32.le_iff_toInt_le.mp hle
  have hmono : normalizedOffset screen start stop ≤ normalizedOffset screen' start stop :=
    floorScale_mono (Int.toNat_le_toNat (by omega))
  rw [Int32.le_iff_toInt_le]
  omega

theorem normalizeVirtualCoordinate_first (hrange : start < stop) :
    normalizeVirtualCoordinate start start stop = .ok 0 := by
  obtain ⟨mouse, hmouse, htoInt⟩ := normalizeVirtualCoordinate_eq (Int32.le_refl start) hrange
  have hzero : normalizedOffset start start stop = 0 := by
    rw [normalizedOffset, Int.sub_self]
    exact floorScale_zero
  rw [hmouse]
  congr 1
  apply Int32.toInt_inj.mp
  rw [htoInt, hzero]
  rfl

theorem normalizeVirtualCoordinate_last (hrange : start < stop)
    (hone : stop.toInt - start.toInt ≠ 1) (hlast : screen.toInt = stop.toInt - 1) :
    normalizeVirtualCoordinate screen start stop = .ok 65535 := by
  have hspan := Int32.lt_iff_toInt_lt.mp hrange
  have hlow : start ≤ screen := Int32.le_iff_toInt_le.mpr (by omega)
  have hhigh : screen < stop := Int32.lt_iff_toInt_lt.mpr (by omega)
  obtain ⟨mouse, hmouse, htoInt⟩ := normalizeVirtualCoordinate_eq hlow hhigh
  have htop : normalizedOffset screen start stop = 65535 := by
    have hoffset : screen.toInt - start.toInt = stop.toInt - start.toInt - 1 := by omega
    rw [normalizedOffset, hoffset]
    exact floorScale_self (by omega)
  rw [hmouse]
  congr 1
  apply Int32.toInt_inj.mp
  rw [htoInt, htop]
  rfl

end Axis

theorem axis_law (axis : String) {sourceExtent : UInt16}
    {targetStart targetEnd desktopStart desktopEnd : Int32} (hsource : sourceExtent ≠ 0)
    (htarget : targetStart < targetEnd) (hdesktop : desktopStart < desktopEnd)
    (hstart : desktopStart ≤ targetStart) (hend : targetEnd ≤ desktopEnd) :
    AxisLaw axis sourceExtent targetStart targetEnd desktopStart desktopEnd := by
  have hpos : 0 < sourceExtent := UInt16.pos_iff_ne_zero.mpr hsource
  constructor
  · intro value hvalue
    obtain ⟨screen, hscreen, htoInt⟩ := scaleCoordinate_eq axis hvalue htarget
    have hle := @scaledOffset_le value sourceExtent targetStart targetEnd hvalue
    have hspan := Int32.lt_iff_toInt_lt.mp htarget
    have hinside : targetStart ≤ screen ∧ screen < targetEnd := by
      rw [Int32.le_iff_toInt_le, Int32.lt_iff_toInt_lt]
      omega
    have hlow : desktopStart ≤ screen := Int32.le_trans hstart hinside.1
    have hhigh : screen < desktopEnd := Int32.lt_of_lt_of_le hinside.2 hend
    obtain ⟨mouse, hmouse, hnormalized⟩ := normalizeVirtualCoordinate_eq hlow hhigh
    have hmax := normalizedOffset_le hlow hhigh
    exact ⟨screen, mouse, hscreen, hmouse, hinside.1, hinside.2, by omega, by omega,
      scaleIntermediates_fit hvalue htarget, normalizeIntermediates_fit hlow hhigh⟩
  · intro value value' screen screen' h h' hle
    exact scaleCoordinate_mono htarget h h' hle
  · exact scaleCoordinate_first axis hpos htarget
  · intro hone
    exact scaleCoordinate_last axis hpos hone htarget
  · intro screen screen' mouse mouse' h h' hle
    exact normalizeVirtualCoordinate_mono h h' hle
  · exact normalizeVirtualCoordinate_first hdesktop
  · intro hone screen hlast
    exact normalizeVirtualCoordinate_last hdesktop hone hlast

def Rect.Contains (rect : Rect) (point : ScreenPoint) : Prop :=
  rect.left ≤ point.x ∧ point.x < rect.right ∧ rect.top ≤ point.y ∧ point.y < rect.bottom

def Rect.Within (rect bounds : Rect) : Prop :=
  bounds.left ≤ rect.left ∧ rect.right ≤ bounds.right ∧ bounds.top ≤ rect.top ∧
    rect.bottom ≤ bounds.bottom

theorem toInt_saturatingAddI32 (a : Int32) (b : Int) :
    (saturatingAddI32 a b).toInt = max (-2 ^ 31) (min (a.toInt + b) (2 ^ 31 - 1)) := by
  apply Int32.toInt_ofInt_of_le
  · exact le_max_left _ _
  · omega

theorem toInt_max (a b : Int32) : (max a b).toInt = max a.toInt b.toInt := by
  rw [show max a b = if a ≤ b then b else a from rfl]
  by_cases h : a ≤ b
  · rw [if_pos h, max_eq_right (Int32.le_iff_toInt_le.mp h)]
  · rw [if_neg h, max_eq_left (Int32.lt_iff_toInt_lt.mp (Int32.not_le.mp h)).le]

theorem toInt_min (a b : Int32) : (min a b).toInt = min a.toInt b.toInt := by
  rw [show min a b = if a ≤ b then a else b from rfl]
  by_cases h : a ≤ b
  · rw [if_pos h, min_eq_left (Int32.le_iff_toInt_le.mp h)]
  · rw [if_neg h, min_eq_right (Int32.lt_iff_toInt_lt.mp (Int32.not_le.mp h)).le]

/-- The contact area holds its point and is cut off at the bounds. -/
theorem contactRect_contains {contactId : Contact} {contact : ActiveTouch} {flags : PointerFlags}
    {bounds : Rect} (h : bounds.Contains contact.point) :
    (touchInfo contactId contact flags bounds).contactRect.Contains contact.point ∧
      (touchInfo contactId contact flags bounds).contactRect.Within bounds := by
  have hleft := bounds.left.le_toInt
  have htop := bounds.top.le_toInt
  have hright := bounds.right.toInt_lt
  have hbottom := bounds.bottom.toInt_lt
  have hradius : touchContactRadius = 2 := rfl
  simp only [Rect.Contains, Rect.Within, touchInfo, Int32.le_iff_toInt_le, Int32.lt_iff_toInt_lt,
    toInt_max, toInt_min, toInt_saturatingAddI32, hradius] at h ⊢
  omega

/-- For every target inside the virtual desktop and every remote coordinate inside the source, both
scalings succeed without overflow, keep the order and the ends of their ranges on both axes, and the
contact area of a touch there holds its point and stays on the desktop. -/
theorem coordinates_mapped (mapper : CoordinateMapper)
    (hinside : mapper.target.Within mapper.virtualDesktop) :
    AxisLaw "x" mapper.sourceWidth mapper.target.left mapper.target.right
      mapper.virtualDesktop.left mapper.virtualDesktop.right ∧
    AxisLaw "y" mapper.sourceHeight mapper.target.top mapper.target.bottom
      mapper.virtualDesktop.top mapper.virtualDesktop.bottom ∧
    ∀ x y, x < mapper.sourceWidth → y < mapper.sourceHeight → ∃ point mouse,
      mapper.screenPoint x y = .ok point ∧ mapper.normalizedMouse point = .ok mouse ∧
      scaleCoordinate x mapper.sourceWidth mapper.target.left mapper.target.right "x" =
        .ok point.x ∧
      scaleCoordinate y mapper.sourceHeight mapper.target.top mapper.target.bottom "y" =
        .ok point.y ∧
      normalizeVirtualCoordinate point.x mapper.virtualDesktop.left mapper.virtualDesktop.right =
        .ok mouse.x ∧
      normalizeVirtualCoordinate point.y mapper.virtualDesktop.top mapper.virtualDesktop.bottom =
        .ok mouse.y ∧
      mapper.target.Contains point ∧
      ∀ contactId pressure flags,
        let area := (touchInfo contactId ⟨point, pressure⟩ flags mapper.virtualDesktop).contactRect
        area.Contains point ∧ area.Within mapper.virtualDesktop := by
  have hvalid := mapper.valid
  simp only [CoordinateMapper.validate, ite_error_eq_ok, bind_eq_ok,
    CoordinateMapper.validateRect_eq_ok, not_or] at hvalid
  obtain ⟨⟨hwidth, hheight⟩, -, htarget, hdesktop⟩ := hvalid
  have hx := axis_law "x" hwidth htarget.1 hdesktop.1 hinside.1 hinside.2.1
  have hy := axis_law "y" hheight htarget.2 hdesktop.2 hinside.2.2.1 hinside.2.2.2
  refine ⟨hx, hy, ?_⟩
  intro x y hxin hyin
  obtain ⟨screenX, mouseX, hscreenX, hmouseX, hlowX, hhighX, -⟩ := hx.total x hxin
  obtain ⟨screenY, mouseY, hscreenY, hmouseY, hlowY, hhighY, -⟩ := hy.total y hyin
  have hdesktopContains : mapper.virtualDesktop.Contains ⟨screenX, screenY⟩ :=
    ⟨Int32.le_trans hinside.1 hlowX, Int32.lt_of_lt_of_le hhighX hinside.2.1,
      Int32.le_trans hinside.2.2.1 hlowY, Int32.lt_of_lt_of_le hhighY hinside.2.2.2⟩
  refine ⟨⟨screenX, screenY⟩, ⟨mouseX, mouseY⟩, ?_, ?_, hscreenX, hscreenY, hmouseX, hmouseY,
    ⟨hlowX, hhighX, hlowY, hhighY⟩, ?_⟩
  · rw [CoordinateMapper.screenPoint, hscreenX, bind_ok, hscreenY, bind_ok]
  · rw [CoordinateMapper.normalizedMouse, hmouseX, bind_ok, hmouseY, bind_ok]
  · intro contactId pressure flags
    exact contactRect_contains hdesktopContains

/-- A monitor left of the main one. -/
def leftMonitor : CoordinateMapper where
  sourceWidth := 1280
  sourceHeight := 720
  target := ⟨-1280, 0, 0, 1024⟩
  virtualDesktop := ⟨-1280, 0, 1920, 1080⟩
  valid := rfl

theorem coordinates_mapped_leftMonitor :
    leftMonitor.screenPoint 1279 719 = .ok ⟨-1, 1023⟩ ∧
      AxisLaw "x" 1280 (-1280) 0 (-1280) 1920 ∧ AxisLaw "y" 720 0 1024 0 1080 := by
  have hinside : leftMonitor.target.Within leftMonitor.virtualDesktop :=
    ⟨by decide, by decide, by decide, by decide⟩
  have hmapped := coordinates_mapped leftMonitor hinside
  exact ⟨rfl, hmapped.1, hmapped.2.1⟩

end LadoFlow.Host
