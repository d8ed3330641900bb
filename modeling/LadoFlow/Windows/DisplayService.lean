import LadoFlow.Framework.Lease
import LadoFlow.Windows.DisplayIpc

/-!
# The virtual-display service

The owner of the software device executes the requests of the pipe one after another. How an event, a
device and its completion come out is up to the operating system.
-/

namespace LadoFlow.Windows

open Framework Ipc

/-- A handle of a software device; the null handle is none. -/
structure HSWDEVICE where
  value : UInt64
  value_ne : value ≠ 0
  deriving DecidableEq, Repr

def failed (result : Int32) : Bool := result < 0

def facilityWin32 : UInt32 := 7

/-- `HRESULT_FROM_WIN32` -/
def hresultFromWin32 (error : UInt32) : Int32 :=
  if error.toInt32 ≤ 0 then error.toInt32
  else ((error &&& (0xFFFF : UInt32)) ||| facilityWin32 <<< (16 : UInt32) ||| 0x80000000).toInt32

def errorInvalidData : UInt32 := 13
def errorCancelled : UInt32 := 1223
def errorTimeout : UInt32 := 1460
def eNotImpl : Int32 := (0x80004001 : UInt32).toInt32

structure DeviceSnapshot where
  state : ServiceState
  lastError : Int32
  generation : UInt64
  deviceInstanceId : DeviceInstanceId
  deriving DecidableEq

structure DeviceCreationContext where
  result : Int32
  deviceInstanceId : DeviceInstanceId

/-- What the callback of the device creation leaves in its context. -/
def deviceCreationCallback (createResult : Int32) (deviceInstanceId : Option (List UInt16)) :
    DeviceCreationContext where
  result := createResult
  deviceInstanceId :=
    match deviceInstanceId with
    | none => .empty
    | some text => if failed createResult then .empty else DeviceInstanceId.empty.wcsncpy text

/-- The result of `SwDeviceCreate`, which gives a handle just when it does not fail. -/
structure SwDeviceCreate where
  result : Int32
  candidate : Option HSWDEVICE
  contract : candidate.isSome = !failed result

/-- How the wait for the completion of the device ends. -/
inductive DeviceWait where
  | completed (createResult : Int32) (deviceInstanceId : Option (List UInt16))
  | stopRequested
  | timedOut
  | failed (lastError : UInt32)

/-- The outcomes of the calls inside `Enable`; the event is created where there is no error. -/
structure EnableOutcome where
  eventError : Option UInt32
  deviceCreation : SwDeviceCreate
  wait : DeviceWait

/-- The handle and the published state. The source does not store the handles that were obtained and
closed. -/
structure DeviceOwner where
  device : Option HSWDEVICE
  snapshot : DeviceSnapshot
  calls : List (LeaseEvent HSWDEVICE)
  deriving DecidableEq

namespace DeviceOwner

def new : DeviceOwner := ⟨none, ⟨.ready, 0, 1, .empty⟩, []⟩

variable (owner : DeviceOwner)

def setState (state : ServiceState) (result : Int32) : DeviceOwner :=
  { owner with
    snapshot := { owner.snapshot with
      state, lastError := result, generation := owner.snapshot.generation + 1 } }

def setIdentity (deviceInstanceId : DeviceInstanceId) : DeviceOwner :=
  { owner with snapshot := { owner.snapshot with deviceInstanceId } }

def clearDeviceIdentity : DeviceOwner := owner.setIdentity .empty

def closeDevice : DeviceOwner :=
  match owner.device with
  | none => owner.clearDeviceIdentity
  | some device =>
    clearDeviceIdentity { owner with device := none, calls := owner.calls ++ [.released device] }

/-- `m_device = candidate` -/
def hold (candidate : Option HSWDEVICE) : DeviceOwner :=
  { owner with
    device := candidate
    calls := owner.calls ++ (candidate.map LeaseEvent.acquired).toList }

/-- After a device is held: the result, whether the device is new, and the owner. -/
def awaitDevice (wait : DeviceWait) : Int32 × Bool × DeviceOwner :=
  match wait with
  | .completed createResult deviceInstanceId =>
    let context := deviceCreationCallback createResult deviceInstanceId
    if failed context.result then
      (context.result, false, owner.closeDevice.setState .failed context.result)
    else (0, true, (owner.setIdentity context.deviceInstanceId).setState .enabled 0)
  | .stopRequested =>
    let result := hresultFromWin32 errorCancelled
    (result, false, owner.closeDevice.setState .stopping result)
  | .timedOut =>
    let result := hresultFromWin32 errorTimeout
    (result, false, owner.closeDevice.setState .failed result)
  | .failed lastError =>
    let result := hresultFromWin32 lastError
    (result, false, owner.closeDevice.setState .failed result)

/-- The result, the changed flag and the owner. -/
def enable (outcome : EnableOutcome) : Int32 × Bool × DeviceOwner :=
  if owner.device.isSome ∧ owner.snapshot.state = .enabled then
    (0, false, { owner with snapshot := { owner.snapshot with lastError := 0 } })
  else
  let owner := if owner.device.isSome then owner.closeDevice else owner
  let owner := owner.setState .enabling 0
  match outcome.eventError with
  | some lastError =>
    let result := hresultFromWin32 lastError
    (result, false, owner.setState .failed result)
  | none =>
  let result := outcome.deviceCreation.result
  if failed result then (result, false, owner.setState .failed result)
  else (owner.hold outcome.deviceCreation.candidate).awaitDevice outcome.wait

def disable (stopping : Bool) : Int32 × Bool × DeviceOwner :=
  let state : ServiceState := if stopping then .stopping else .ready
  if owner.device.isSome then (0, true, ((owner.setState .disabling 0).closeDevice).setState state 0)
  else (0, false, owner.clearDeviceIdentity.setState state 0)

def shutdown : DeviceOwner := (owner.disable true).2.2

end DeviceOwner

/-- A request on the pipe, with what the operating system does while it is executed. -/
structure PipeRequest where
  request : Request
  outcome : EnableOutcome
  processId : UInt32

/-- The result, the changed flag and the owner after the command. -/
def dispatch (owner : DeviceOwner) (pipe : PipeRequest) : Int32 × Bool × DeviceOwner :=
  if validateRequest pipe.request = false then (hresultFromWin32 errorInvalidData, false, owner)
  else
  match Command.ofValue pipe.request.commandValue with
  | some .enable => owner.enable pipe.outcome
  | some .disable => owner.disable false
  | some .status => (0, false, owner)
  | some .ping => (0, false, owner)
  | none => (eNotImpl, false, owner)

def executeRequest (owner : DeviceOwner) (pipe : PipeRequest) : Response × DeviceOwner :=
  let (result, changed, owner) := dispatch owner pipe
  let snapshot := owner.snapshot
  let response := makeResponse pipe.request snapshot.state result snapshot.lastError pipe.processId
    snapshot.generation changed
  ({ response with
    deviceInstanceId := response.deviceInstanceId.wcsncpy snapshot.deviceInstanceId.toList }, owner)

/-- The owner after the requests, in order. -/
def serve (owner : DeviceOwner) (requests : List PipeRequest) : DeviceOwner :=
  requests.foldl (fun owner pipe => (executeRequest owner pipe).2) owner

end LadoFlow.Windows
