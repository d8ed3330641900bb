import LadoFlow.Host.DisplaySources
import Mathlib.Data.List.Destutter

/-!
# The mode of the virtual display

A session brings the virtual display that it was started for to the negotiated size. It leaves every other
monitor as it is, and the modes that it sets are never stored.
-/

namespace LadoFlow.Host

structure DisplayMode where
  width : UInt32
  height : UInt32
  refreshHz : UInt32
  deriving DecidableEq

/-- `DEVMODEW`; a change sets the fields that `dmFields` names. -/
structure DevMode where
  dmFields : UInt32
  dmPosition : Int32 × Int32
  dmDisplayOrientation : UInt32
  dmBitsPerPel : UInt32
  dmPelsWidth : UInt32
  dmPelsHeight : UInt32
  dmDisplayFrequency : UInt32
  deriving DecidableEq

def dmPelsWidthField : UInt32 := 0x80000
def dmPelsHeightField : UInt32 := 0x100000
def dmDisplayFrequencyField : UInt32 := 0x400000

def cdsTest : UInt32 := 2

def maxEnumeratedDisplayModes : Nat := 4096
def maxReportedDisplayModes : Nat := 24
def virtualDisplayRefreshHz : UInt32 := 60
def displayModeApplyTimeoutSecs : Nat := 5

/-- The arguments of `ChangeDisplaySettingsExW`. -/
structure DisplayChange where
  deviceName : String
  mode : DevMode
  flags : UInt32
  deriving DecidableEq

/-- What one poll of the wait sees: the monitors, and the current mode of a device. -/
structure ModeObservation where
  monitors : MonitorEnumeration
  current : String → Option DevMode

/-- What Windows answers in the order of the calls. The modes of a device are those up to the first index
that it does not know. -/
structure ModeAnswers where
  monitors : MonitorEnumeration
  current : String → Option DevMode
  modes : String → List DevMode
  native : String → Option DevMode
  testReply : Int32
  applyReply : Int32
  polls : List ModeObservation
  lastPoll : ModeObservation

/-- The result of an alignment with the changes that it asked for. -/
structure AlignmentRun where
  result : Except String Unit
  changes : List DisplayChange

def alignmentTarget (monitors : List MonitorSource) (displayId : Option String) :
    Except String (Option MonitorSource) :=
  match displayId with
  | none => .ok none
  | some id => do
    let monitor ← selectMonitor monitors (some id)
    if !monitor.display.virtualDisplay then .ok none
    else if monitor.deviceName = "" then .error "LadoFlow virtual display has no Win32 device name"
    else .ok (some monitor)

def displayModeFromNative (mode : DevMode) : DisplayMode :=
  ⟨mode.dmPelsWidth, mode.dmPelsHeight, mode.dmDisplayFrequency⟩

def queryCurrentNativeDisplayMode (answer : String → Option DevMode) (deviceName : String) :
    Except String DevMode :=
  match answer deviceName with
  | some mode => .ok mode
  | none => .error s!"EnumDisplaySettingsExW could not read the current mode for {deviceName}"

def queryCurrentDisplayMode (answer : String → Option DevMode) (deviceName : String) :
    Except String DisplayMode :=
  (queryCurrentNativeDisplayMode answer deviceName).map displayModeFromNative

/-- The order by width, height and refresh rate. -/
def DisplayMode.notAfter (left right : DisplayMode) : Bool :=
  ((compare left.width right.width).then
    ((compare left.height right.height).then (compare left.refreshHz right.refreshHz))).isLE

def enumerateDisplayModes (modes : List DevMode) (deviceName : String) :
    Except String (List DisplayMode) :=
  if maxEnumeratedDisplayModes ≤ modes.length then
    .error (s!"Windows display-mode enumeration for {deviceName} exceeded the " ++
      s!"{maxEnumeratedDisplayModes}-entry safety bound")
  else
    let listed := ((modes.map displayModeFromNative).mergeSort DisplayMode.notAfter).destutter (· ≠ ·)
    if listed = [] then
      .error s!"Windows reported no display modes for LadoFlow device {deviceName}"
    else .ok listed

def selectExactDisplayMode (modes : List DisplayMode) (width height refreshHz : UInt32) :
    Option DisplayMode :=
  modes.find? fun mode => mode.width = width && mode.height = height && mode.refreshHz = refreshHz

def DisplayMode.text (mode : DisplayMode) : String := s!"{mode.width}x{mode.height}@{mode.refreshHz}"

def formatDisplayModes (modes : List DisplayMode) : String :=
  let formatted := ", ".intercalate ((modes.take maxReportedDisplayModes).map (·.text))
  let more := modes.length - maxReportedDisplayModes
  if maxReportedDisplayModes < modes.length then formatted ++ s!", ... ({more} more)" else formatted

def displayChangeReason (result : Int32) : String :=
  if result = -6 then "dual-view configuration rejected"
  else if result = -4 then "invalid mode-switch flags"
  else if result = -2 then "display mode is not supported"
  else if result = -5 then "invalid display-mode parameter"
  else if result = -1 then "display driver rejected the request"
  else if result = -3 then "display profile could not be updated"
  else if result = 1 then "Windows requires a restart for this mode"
  else "unknown display-mode error"

def ensureDisplayChangeSuccess (operation : String) (result : Int32) : Except String Unit :=
  if result = 0 then .ok ()
  else .error (s!"failed to {operation} LadoFlow virtual display mode: {displayChangeReason result} " ++
    s!"(DISP_CHANGE {result})")

/-- The mode that a change asks for: the current one with the size and the rate of the request. -/
def DevMode.requesting (native : DevMode) (requested : DisplayMode) : DevMode :=
  { native with
    dmFields := dmPelsWidthField ||| dmPelsHeightField ||| dmDisplayFrequencyField
    dmPelsWidth := requested.width
    dmPelsHeight := requested.height
    dmDisplayFrequency := requested.refreshHz }

section Alignment

variable (answers : ModeAnswers) (deviceName : String) (requested : DisplayMode)

def applyDisplayMode : AlignmentRun :=
  match queryCurrentNativeDisplayMode answers.native deviceName with
  | .error error => ⟨.error error, []⟩
  | .ok native =>
    let mode := native.requesting requested
    match ensureDisplayChangeSuccess "validate" answers.testReply with
    | .error error => ⟨.error error, [⟨deviceName, mode, cdsTest⟩]⟩
    | .ok () =>
      ⟨ensureDisplayChangeSuccess "apply" answers.applyReply,
        [⟨deviceName, mode, cdsTest⟩, ⟨deviceName, mode, 0⟩]⟩

/-- What a poll sees of the display, unless it is at the requested mode. -/
def ModeObservation.differs (observation : ModeObservation) (displayId : String) : Option String :=
  match (enumerateMonitors observation.monitors).bind fun monitors =>
      selectMonitor monitors (some displayId) with
  | .error error => some error
  | .ok monitor =>
    match queryCurrentDisplayMode observation.current monitor.deviceName with
    | .error error => some error
    | .ok current =>
      if monitor.display.width = requested.width.toNat ∧
          monitor.display.height = requested.height.toNat ∧ current.refreshHz = requested.refreshHz ∧
          current.width = requested.width ∧ current.height = requested.height then none
      else some (s!"observed {monitor.display.width}x{monitor.display.height} geometry and " ++
        s!"{current.text} Hz current mode")

/-- The last poll is the first one past the deadline. -/
def waitForDisplayMode (displayId : String) (lastPoll : ModeObservation) :
    List ModeObservation → Except String Unit
  | [] =>
    match lastPoll.differs requested displayId with
    | none => .ok ()
    | some lastObservation =>
      .error (s!"LadoFlow virtual display did not reach {requested.text} Hz within " ++
        s!"{displayModeApplyTimeoutSecs} seconds ({lastObservation})")
  | poll :: polls =>
    match poll.differs requested displayId with
    | none => .ok ()
    | some _ => waitForDisplayMode displayId lastPoll polls

def AlignmentRun.failed (error : String) : AlignmentRun := ⟨.error error, []⟩

/-- The alignment of a virtual display. -/
def alignDisplay (target : MonitorSource) : AlignmentRun :=
  match queryCurrentDisplayMode answers.current target.deviceName with
  | .error error => .failed error
  | .ok current =>
    if current = requested then ⟨.ok (), []⟩
    else
      match enumerateDisplayModes (answers.modes target.deviceName) target.deviceName with
      | .error error => .failed error
      | .ok available =>
        match selectExactDisplayMode available requested.width requested.height requested.refreshHz with
        | none =>
          .failed (s!"LadoFlow virtual display does not advertise {requested.text} Hz; available modes: " ++
            formatDisplayModes available)
        | some mode =>
          match applyDisplayMode answers target.deviceName mode with
          | ⟨.error error, changes⟩ => ⟨.error error, changes⟩
          | ⟨.ok (), changes⟩ =>
            ⟨waitForDisplayMode mode target.display.id answers.lastPoll answers.polls, changes⟩

end Alignment

def prepareCaptureDisplayMode (answers : ModeAnswers) (displayId : Option String)
    (width height : UInt16) : AlignmentRun :=
  if width = 0 ∨ height = 0 then
    .failed "negotiated Windows display dimensions must be non-zero"
  else
    match (enumerateMonitors answers.monitors).bind fun monitors => alignmentTarget monitors displayId with
    | .error error => .failed error
    | .ok none => ⟨.ok (), []⟩
    | .ok (some target) =>
      alignDisplay answers ⟨width.toUInt32, height.toUInt32, virtualDisplayRefreshHz⟩ target

end LadoFlow.Host
