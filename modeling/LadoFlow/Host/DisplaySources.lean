import LadoFlow.Host.InputInjector
import Mathlib.Data.List.Infix
import Mathlib.Tactic.Common

/-!
# The displays of a Windows host

The monitors of the desktop in the order of the list, each id once. A monitor is the virtual display when the
adapter behind its name, or the monitor at that adapter, says so in one of its texts.
-/

namespace LadoFlow.Host

structure DisplaySource where
  id : String
  name : String
  width : Nat
  height : Nat
  primary : Bool
  virtualDisplay : Bool
  deriving DecidableEq

/-- A device that `EnumDisplayDevicesW` lists, with its texts as they are read. -/
structure DisplayDevice where
  deviceName : String
  deviceString : String
  deviceId : String
  deviceKey : String
  deriving DecidableEq

structure DisplayAdapter where
  device : DisplayDevice
  monitor : Option DisplayDevice
  deriving DecidableEq

structure MonitorInfo where
  rect : Rect
  device : String
  primary : Bool
  deriving DecidableEq

/-- What the callback meets at a monitor, with the adapters that are listed at that time. -/
structure MonitorVisit where
  handle : Nat
  info : Except String MonitorInfo
  adapters : List DisplayAdapter

/-- The visits of `EnumDisplayMonitors`, and its last error unless it completes. -/
structure MonitorEnumeration where
  visits : List MonitorVisit
  completed : Except String Unit

structure MonitorSource where
  handle : Nat
  rect : Rect
  deviceName : String
  display : DisplaySource
  deriving DecidableEq

structure DisplayDeviceIdentity where
  deviceId : String := ""
  virtualDisplay : Bool := false
  deriving DecidableEq

def maxDisplayAdapters : Nat := 64

def eqIgnoreAsciiCase (left right : String) : Bool :=
  left.toList.map Char.toLower = right.toList.map Char.toLower

def isLadoflowVirtualIdentity (parts : List String) : Bool :=
  let normalized := ((parts.flatMap String.toList).filter Char.isAlphanum).map Char.toLower
  decide ("ladoflowvirtualdisplay".toList <:+: normalized)

namespace DisplayAdapter

variable (adapter : DisplayAdapter)

/-- The texts of the adapter and of its first monitor. -/
def identityParts : List String :=
  [adapter.device.deviceString, adapter.device.deviceId, adapter.device.deviceKey] ++
    match adapter.monitor with
    | none => []
    | some monitor => [monitor.deviceString, monitor.deviceId, monitor.deviceKey]

def identity : DisplayDeviceIdentity where
  deviceId := ((adapter.identityParts.drop 1).find? fun value => value ≠ "").getD ""
  virtualDisplay := isLadoflowVirtualIdentity adapter.identityParts

end DisplayAdapter

def findAdapter (adapters : List DisplayAdapter) (expectedName : String) : Option DisplayAdapter :=
  (adapters.take maxDisplayAdapters).find? fun adapter =>
    eqIgnoreAsciiCase adapter.device.deviceName expectedName

def queryDisplayDeviceIdentity (adapters : List DisplayAdapter) (expectedName : String) :
    DisplayDeviceIdentity :=
  if expectedName = "" then {}
  else
    match findAdapter adapters expectedName with
    | none => {}
    | some adapter => adapter.identity

/-- The name without the prefix of a device path. -/
def shortName (devicePath : String) : String :=
  match List.isPrefixOf? "\\\\.\\".toList devicePath.toList with
  | some (first :: rest) => String.ofList (first :: rest)
  | _ => "Windows display"

section Enumeration

variable (visit : MonitorVisit)

def sourceId (devicePath : String) (identity : DisplayDeviceIdentity) : String :=
  if identity.virtualDisplay && identity.deviceId ≠ "" then "ladoflow:" ++ identity.deviceId
  else if devicePath = "" then "hmonitor:0x" ++ String.ofList (Nat.toDigits 16 visit.handle)
  else devicePath

def enumerateMonitor : Except String MonitorSource :=
  match visit.info with
  | .error error => .error ("GetMonitorInfoW failed: " ++ error)
  | .ok info =>
    let width := info.rect.right.toInt - info.rect.left.toInt
    let height := info.rect.bottom.toInt - info.rect.top.toInt
    if width < 0 ∨ height < 0 then .error "GetMonitorInfoW returned invalid monitor geometry"
    else if width = 0 ∨ height = 0 then .error "GetMonitorInfoW returned an empty monitor rectangle"
    else
      let identity := queryDisplayDeviceIdentity visit.adapters info.device
      .ok {
        handle := visit.handle
        rect := info.rect
        deviceName := info.device
        display := {
          id := sourceId visit info.device identity
          name := if identity.virtualDisplay then "LadoFlow Virtual Display" else shortName info.device
          width := width.toNat
          height := height.toNat
          primary := info.primary
          virtualDisplay := identity.virtualDisplay } }

end Enumeration

/-- The primary monitor first, then by id. -/
def MonitorSource.notAfter (left right : MonitorSource) : Bool :=
  ((compare right.display.primary left.display.primary).then
    (compare left.display.id right.display.id)).isLE

/-- The first monitor of each id that was not seen before. -/
def retainFirst (seen : List String) : List MonitorSource → List MonitorSource
  | [] => []
  | monitor :: monitors =>
    if monitor.display.id ∈ seen then retainFirst seen monitors
    else monitor :: retainFirst (monitor.display.id :: seen) monitors

def enumerateMonitors (enumeration : MonitorEnumeration) : Except String (List MonitorSource) := do
  let monitors ← enumeration.visits.mapM enumerateMonitor
  let () ← enumeration.completed.mapError ("EnumDisplayMonitors returned false: " ++ ·)
  .ok (retainFirst [] (monitors.mergeSort MonitorSource.notAfter))

def enumerateDisplaySources (enumeration : MonitorEnumeration) : Except String (List DisplaySource) :=
  (enumerateMonitors enumeration).map fun monitors => monitors.map (·.display)

def selectMonitor (monitors : List MonitorSource) (displayId : Option String) :
    Except String MonitorSource :=
  match displayId with
  | some id =>
    match monitors.find? (·.display.id = id) with
    | some monitor => .ok monitor
    | none => .error s!"selected Windows display `{id}` is no longer available"
  | none =>
    match (monitors.find? (·.display.primary)).or monitors.head? with
    | some monitor => .ok monitor
    | none => .error "Windows reported no active display sources"

end LadoFlow.Host
