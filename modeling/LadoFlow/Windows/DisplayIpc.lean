import Mathlib.Tactic.Common

/-!
# The pipe protocol of the display service

One request and one response on a named pipe. A response repeats the command and the correlation id of
its request and shows the state of the device.
-/

namespace LadoFlow.Windows.Ipc

def kMagic : UInt32 := 0x4456464c
def kVersion : UInt16 := 1
def kDeviceInstanceIdCapacity : Nat := 260

inductive Command where
  | status
  | enable
  | disable
  | ping
  deriving DecidableEq, Repr

namespace Command

def value : Command → UInt32
  | status => 1
  | enable => 2
  | disable => 3
  | ping => 4

/-- `static_cast<Command>`, where the value names a command -/
def ofValue (value : UInt32) : Option Command :=
  if value = 1 then some status
  else if value = 2 then some enable
  else if value = 3 then some disable
  else if value = 4 then some ping
  else none

end Command

inductive ServiceState where
  | unavailable
  | starting
  | ready
  | enabling
  | enabled
  | disabling
  | failed
  | stopping
  deriving DecidableEq, Repr

def ServiceState.value : ServiceState → UInt32
  | unavailable => 0
  | starting => 1
  | ready => 2
  | enabling => 3
  | enabled => 4
  | disabling => 5
  | failed => 6
  | stopping => 7

/-- A wide string in a buffer of fixed size. -/
abbrev DeviceInstanceId := Vector UInt16 kDeviceInstanceIdCapacity

namespace DeviceInstanceId

/-- `fill(L'\0')` -/
def empty : DeviceInstanceId := .replicate kDeviceInstanceIdCapacity 0

/-- `wcsncpy_s` with `_TRUNCATE`: the units before the terminator as far as they fit, and a terminator;
the rest of the buffer stays. -/
def wcsncpy (destination : DeviceInstanceId) (source : List UInt16) : DeviceInstanceId :=
  let copied := (source.takeWhile (· ≠ 0)).take (kDeviceInstanceIdCapacity - 1)
  .ofFn fun i =>
    match copied[i.val]? with
    | some unit => unit
    | none => if i.val = copied.length then 0 else destination[i]

end DeviceInstanceId

structure Request where
  magic : UInt32
  version : UInt16
  size : UInt16
  commandValue : UInt32
  reserved : UInt32
  correlationId : UInt64
  deriving DecidableEq, Repr

structure Response where
  magic : UInt32
  version : UInt16
  size : UInt16
  commandValue : UInt32
  stateValue : UInt32
  requestResult : Int32
  lastError : Int32
  serviceProcessId : UInt32
  generation : UInt64
  correlationId : UInt64
  changed : UInt32
  reserved : UInt32
  deviceInstanceId : DeviceInstanceId
  deriving DecidableEq

def isKnownCommand (value : UInt32) : Bool := value ≥ Command.status.value && value ≤ Command.ping.value

def isKnownState (value : UInt32) : Bool := value ≤ ServiceState.stopping.value

def sizeOfRequest : UInt16 := 24
def sizeOfResponse : UInt16 := 572

def makeRequest (command : Command) (correlationId : UInt64) : Request where
  magic := kMagic
  version := kVersion
  size := sizeOfRequest
  commandValue := command.value
  reserved := 0
  correlationId

def validateRequest (request : Request) : Bool :=
  request.magic == kMagic && request.version == kVersion && request.size == sizeOfRequest &&
    request.reserved == 0 && request.correlationId != 0 && isKnownCommand request.commandValue

def makeResponse (request : Request) (state : ServiceState) (requestResult lastError : Int32)
    (processId : UInt32) (generation : UInt64) (changed : Bool) : Response where
  magic := kMagic
  version := kVersion
  size := sizeOfResponse
  commandValue := request.commandValue
  stateValue := state.value
  requestResult
  lastError
  serviceProcessId := processId
  generation
  correlationId := request.correlationId
  changed := if changed then 1 else 0
  reserved := 0
  deviceInstanceId := .empty

def validateResponse (request : Request) (response : Response) : Bool :=
  response.magic == kMagic && response.version == kVersion && response.size == sizeOfResponse &&
    response.commandValue == request.commandValue &&
    response.correlationId == request.correlationId && response.reserved == 0 &&
    response.changed ≤ 1 && isKnownState response.stateValue

theorem ofValue_value (command : Command) : Command.ofValue command.value = some command := by
  cases command <;> rfl

/-- The known commands are those that the service runs. -/
theorem isKnownCommand_iff (value : UInt32) :
    isKnownCommand value = true ↔ ∃ command, Command.ofValue value = some command := by
  constructor
  · intro h
    simp only [isKnownCommand, Command.value, Bool.and_eq_true, decide_eq_true_eq, ge_iff_le,
      UInt32.le_iff_toNat_le] at h
    have hcases : value = 1 ∨ value = 2 ∨ value = 3 ∨ value = 4 := by
      simp only [← UInt32.toNat_inj]
      have hone : (1 : UInt32).toNat = 1 := rfl
      have htwo : (2 : UInt32).toNat = 2 := rfl
      have hthree : (3 : UInt32).toNat = 3 := rfl
      have hfour : (4 : UInt32).toNat = 4 := rfl
      omega
    rcases hcases with rfl | rfl | rfl | rfl
    · exact ⟨.status, rfl⟩
    · exact ⟨.enable, rfl⟩
    · exact ⟨.disable, rfl⟩
    · exact ⟨.ping, rfl⟩
  · rintro ⟨command, h⟩
    rw [Command.ofValue] at h
    split_ifs at h with h1 h2 h3 h4
    · rw [h1]
      rfl
    · rw [h2]
      rfl
    · rw [h3]
      rfl
    · rw [h4]
      rfl

theorem isKnownState_value (state : ServiceState) : isKnownState state.value = true := by
  cases state <;> rfl

/-- A response is valid for the request that it was made for, whatever id it shows. -/
theorem validateResponse_makeResponse (request : Request) (state : ServiceState)
    (requestResult lastError : Int32) (processId : UInt32) (generation : UInt64) (changed : Bool)
    (deviceInstanceId : DeviceInstanceId) :
    validateResponse request { makeResponse request state requestResult lastError processId generation
      changed with deviceInstanceId } = true := by
  have hstate := isKnownState_value state
  cases changed <;> simp [validateResponse, makeResponse, hstate]

theorem DeviceInstanceId.wcsncpy_empty :
    DeviceInstanceId.empty.wcsncpy DeviceInstanceId.empty.toList = .empty := by
  have hnone : DeviceInstanceId.empty.toList.takeWhile (· ≠ 0) = [] := by
    rw [DeviceInstanceId.empty, Vector.toList_replicate, List.takeWhile_replicate]
    rfl
  rw [DeviceInstanceId.wcsncpy, hnone]
  ext i hi
  simp [DeviceInstanceId.empty]

end LadoFlow.Windows.Ipc
