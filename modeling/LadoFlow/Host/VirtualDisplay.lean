import LadoFlow.Framework.Json
import LadoFlow.Host.DisplaySources
import LadoFlow.Host.TetherDiscovery

/-!
# The virtual display as the host sees it

The host runs the controller, reads the object that it prints, and shows a status. Enabling and disabling
wait until Windows lists the monitor, or lists it no longer.
-/

namespace LadoFlow.Host

open Framework Framework.Json

def controllerProtocolVersion : UInt16 := 1
def successHresult : List Char := "0x00000000".toList

structure ControllerReport where
  protocolVersion : UInt16
  serviceInstalled : Bool
  serviceState : List Char
  state : List Char
  requestResult : List Char
  lastError : List Char
  deviceInstanceId : List Char
  generation : UInt64
  changed : Bool
  deriving DecidableEq

section Deserialize

variable (members : Members)

/-- The one member of that name; members that the report does not have are ignored. -/
def field (name : String) : Option Scalar :=
  match members.filter (·.1 = name.toList) with
  | [found] => some found.2
  | _ => none

def booleanField (name : String) : Option Bool :=
  match field members name with
  | some (.boolean value) => some value
  | _ => none

def textField (name : String) : Option (List Char) :=
  match field members name with
  | some (.text value) => some value
  | _ => none

/-- A number of a type with that many values. -/
def naturalField (name : String) (values : Nat) : Option Nat :=
  match field members name with
  | some (.natural value) => if value < values then some value else none
  | _ => none

def deserialize : Option ControllerReport := do
  let protocolVersion ← naturalField members "protocolVersion" UInt16.size
  let serviceInstalled ← booleanField members "serviceInstalled"
  let serviceState ← textField members "serviceState"
  let state ← textField members "state"
  let requestResult ← textField members "requestResult"
  let lastError ← textField members "lastError"
  let deviceInstanceId ← textField members "deviceInstanceId"
  let generation ← naturalField members "generation" UInt64.size
  let changed ← booleanField members "changed"
  return {
    protocolVersion := .ofNat protocolVersion
    serviceInstalled
    serviceState
    state
    requestResult
    lastError
    deviceInstanceId
    generation := .ofNat generation
    changed }

end Deserialize

/-- Why there is no outcome of a controller run. -/
inductive ControllerError where
  | notRun (message : String)
  | json
  | report (message : String)
  deriving DecidableEq

def invalidHresult (value : List Char) : ControllerError :=
  .report ("invalid HRESULT `" ++ String.ofList value ++ "`")

/-- `strip_prefix("0x")` -/
def stripHexPrefix : List Char → Option (List Char)
  | '0' :: 'x' :: rest => some rest
  | _ => none

def parseHresult (value : List Char) : Except ControllerError UInt32 :=
  match stripHexPrefix value with
  | none => .error (invalidHresult value)
  | some hex =>
    if hex.length ≠ 8 || !hex.all (hexValue · |>.isSome) then .error (invalidHresult value)
    else
      match hexNumber hex with
      | none => .error (invalidHresult value)
      | some number => .ok (.ofNat number)

def hresultSucceeded (value : List Char) : Except ControllerError Bool := do
  return (← parseHresult value) &&& 0x80000000 = 0

/-- `encode_utf16().count()` -/
def utf16Length (text : List Char) : Nat :=
  (text.map fun character => if character.toNat < 0x10000 then 1 else 2).sum

def validateReport (report : ControllerReport) : Except ControllerError Unit := do
  if report.protocolVersion ≠ controllerProtocolVersion then
    throw (.report ("virtual-display controller protocol " ++ toString report.protocolVersion ++
      " is incompatible with host protocol " ++ toString controllerProtocolVersion))
  let _requestResult ← parseHresult report.requestResult
  let _lastError ← parseHresult report.lastError
  if 260 ≤ utf16Length report.deviceInstanceId then
    throw (.report "virtual-display controller returned an oversized device ID")

inductive VirtualDisplayState where
  | unsupported
  | clientMissing
  | notInstalled
  | serviceStopped
  | ready
  | enabling
  | enabled
  | disabling
  | failed
  | stopping
  deriving DecidableEq, Repr

structure VirtualDisplayStatus where
  state : VirtualDisplayState
  detail : String
  serviceInstalled : Bool
  serviceState : List Char
  enabled : Bool
  deviceInstanceId : Option (List Char)
  lastError : Option (List Char)
  generation : UInt64
  deriving DecidableEq

/-- The state of a running service by its name. -/
def stateFromName (state : List Char) : Except ControllerError VirtualDisplayState :=
  if state = "ready".toList then .ok .ready
  else if state = "enabling".toList then .ok .enabling
  else if state = "enabled".toList then .ok .enabled
  else if state = "disabling".toList then .ok .disabling
  else if state = "failed".toList then .ok .failed
  else if state = "stopping".toList then .ok .stopping
  else if state = "unavailable".toList then .ok .serviceStopped
  else .error (.report ("virtual-display controller returned unknown state `" ++
    String.ofList state ++ "`"))

def reportState (report : ControllerReport) : Except ControllerError VirtualDisplayState :=
  if !report.serviceInstalled then .ok .notInstalled
  else if report.serviceState ≠ "running".toList then .ok .serviceStopped
  else stateFromName report.state

def stateDetail (state : VirtualDisplayState) (lastError : Option (List Char)) : String :=
  match state with
  | .notInstalled =>
    "LadoFlow virtual-display service is not installed. Install the Windows host package to " ++
      "enable a true extended desktop."
  | .serviceStopped => "LadoFlow virtual-display service is installed but not running."
  | .ready => "LadoFlow virtual-display service is ready; the virtual monitor is disabled."
  | .enabling => "Windows is creating the LadoFlow virtual monitor."
  | .enabled => "LadoFlow virtual monitor is enabled and available to Windows."
  | .disabling => "Windows is removing the LadoFlow virtual monitor."
  | .failed =>
    "LadoFlow virtual-display device failed: " ++
      String.ofList (lastError.getD "unknown HRESULT".toList) ++ "."
  | .stopping => "LadoFlow virtual-display service is stopping."
  -- A report does not come to the states of a host without a controller.
  | .unsupported | .clientMissing => ""

def statusFromReport (report : ControllerReport) : Except ControllerError VirtualDisplayStatus := do
  validateReport report
  let lastError := if report.lastError ≠ successHresult then some report.lastError else none
  let state ← reportState report
  return {
    state
    detail := stateDetail state lastError
    serviceInstalled := report.serviceInstalled
    serviceState := report.serviceState
    enabled := state = .enabled
    deviceInstanceId := if report.deviceInstanceId = [] then none else some report.deviceInstanceId
    lastError
    generation := report.generation }

structure ControllerOutcome where
  report : ControllerReport
  processSucceeded : Bool

/-- What `run_controller` makes of a process that exited; `parse` is the JSON parser. -/
def controllerOutcome {ε : Type} (parse : List Char → Except ε Members) (exitCode : Nat)
    (stdout : List Char) : Except ControllerError ControllerOutcome :=
  match parse (trim stdout) with
  | .error _ => .error .json
  | .ok members =>
    match deserialize members with
    | none => .error .json
    | some report =>
      match validateReport report with
      | .error error => .error error
      | .ok _ => .ok ⟨report, exitCode = 0⟩

def clientMissingStatus : VirtualDisplayStatus where
  state := .clientMissing
  detail :=
    "LadoFlow virtual-display controller is not bundled with this host build. Existing-monitor " ++
      "capture remains available."
  serviceInstalled := false
  serviceState := "unavailable".toList
  enabled := false
  deviceInstanceId := none
  lastError := none
  generation := 0

structure VirtualDisplayActionReport where
  passed : Bool
  status : VirtualDisplayStatus
  selectedDisplayId : Option String

/-- One enumeration of the wait for the monitor. -/
abbrev MonitorPoll := Except String (List DisplaySource)

/-- The enumeration behind which the deadline has passed; an enumeration that fails looks at the clock
once before it. -/
structure LastPoll where
  displays : MonitorPoll
  lateAtError : Bool

section Enable

variable (baselineIds : List String) (status : VirtualDisplayStatus)

def appearedDetail (selected : String) : String :=
  if selected ∈ baselineIds then "LadoFlow virtual display is enabled and selected."
  else "LadoFlow virtual display appeared and was selected automatically."

/-- The report that an enumeration with the monitor ends the wait with. -/
def monitorAppeared (displays : List DisplaySource) : Option VirtualDisplayActionReport :=
  (displays.find? (·.virtualDisplay)).map fun display =>
    ⟨true, { status with detail := appearedDetail baselineIds display.id }, some display.id⟩

def monitorMissing : VirtualDisplayActionReport where
  passed := false
  status :=
    { status with
      detail :=
        "The service enabled the software device, but no active LadoFlow HMONITOR appeared within " ++
          "12 seconds. Check driver installation and Device Manager." }
  selectedDisplayId := none

def enumerationFailed (message error : String) : VirtualDisplayActionReport where
  passed := false
  status := { status with detail := message ++ error }
  selectedDisplayId := none

def lastAppearPoll (last : LastPoll) : VirtualDisplayActionReport :=
  match last.displays with
  | .ok displays => (monitorAppeared baselineIds status displays).getD (monitorMissing status)
  | .error error =>
    if last.lateAtError then
      enumerationFailed status "The service enabled the device, but monitor enumeration failed: " error
    else monitorMissing status

/-- The polls before the deadline, then the one behind it. -/
def waitForMonitor (last : LastPoll) : List MonitorPoll → VirtualDisplayActionReport
  | [] => lastAppearPoll baselineIds status last
  | .error _ :: polls => waitForMonitor last polls
  | .ok displays :: polls =>
    match monitorAppeared baselineIds status displays with
    | some report => report
    | none => waitForMonitor last polls

/-- Where the controller of this host stands: not bundled, or run. -/
abbrev ControllerRunResult := Option (Except ControllerError ControllerOutcome)

def failureDetail (action : String) (outcome : ControllerOutcome) (detail : String) : String :=
  "Virtual display " ++ action ++ " failed (request " ++ String.ofList outcome.report.requestResult ++
    ", device " ++ String.ofList outcome.report.lastError ++ "). " ++ detail

def enable (baseline : MonitorPoll) (controller : ControllerRunResult) (polls : List MonitorPoll)
    (last : LastPoll) : Except ControllerError VirtualDisplayActionReport := do
  let baselineIds := (baseline.toOption.getD []).map (·.id)
  match controller with
  | none => return ⟨false, clientMissingStatus, none⟩
  | some run =>
    let outcome ← run
    let status ← statusFromReport outcome.report
    let succeeded ← if outcome.processSucceeded then hresultSucceeded outcome.report.requestResult
      else pure false
    if !(succeeded && status.enabled) then
      return ⟨false, { status with detail := failureDetail "enable" outcome status.detail }, none⟩
    return waitForMonitor baselineIds status last polls

end Enable

section Disable

variable (changed : Bool) (status : VirtualDisplayStatus)

def disabledDetail : String :=
  if changed then "LadoFlow virtual display was disabled and removed from the active desktop."
  else "LadoFlow virtual display was already disabled."

def monitorRemoved : VirtualDisplayActionReport :=
  ⟨true, { status with detail := disabledDetail changed }, none⟩

def lastRemovePoll : MonitorPoll → VirtualDisplayActionReport
  | .ok displays =>
    if displays.all (!·.virtualDisplay) then monitorRemoved changed status
    else
      ⟨false, { status with
        detail := "The service closed the software-device handle, but Windows still reported the " ++
          "virtual monitor after 8 seconds." }, none⟩
  | .error error =>
    enumerationFailed status
      "The service disabled the device, but monitor removal could not be verified: " error

def waitForRemoval (last : MonitorPoll) : List MonitorPoll → VirtualDisplayActionReport
  | [] => lastRemovePoll changed status last
  | .error _ :: polls => waitForRemoval last polls
  | .ok displays :: polls =>
    if displays.all (!·.virtualDisplay) then monitorRemoved changed status
    else waitForRemoval last polls

def disable (controller : ControllerRunResult) (polls : List MonitorPoll) (last : MonitorPoll) :
    Except ControllerError VirtualDisplayActionReport := do
  match controller with
  | none => return ⟨false, clientMissingStatus, none⟩
  | some run =>
    let outcome ← run
    let status ← statusFromReport outcome.report
    let succeeded ← if outcome.processSucceeded then hresultSucceeded outcome.report.requestResult
      else pure false
    if !succeeded then
      return ⟨false, { status with detail := failureDetail "disable" outcome status.detail }, none⟩
    return waitForRemoval outcome.report.changed status last polls

end Disable

end LadoFlow.Host
