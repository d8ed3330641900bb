import LadoFlow.Framework.Json
import LadoFlow.Windows.DisplayService

/-!
# The controller of the virtual display

`LadoFlowVirtualDisplay` asks the service for its status or for a change, over the pipe, and prints one JSON
object. What the service manager and the pipe answer is the environment; the service itself is the one that
`DisplayService` models.
-/

namespace LadoFlow.Windows

open Framework Framework.Json Ipc

def serviceStopped : UInt32 := 1
def serviceStartPending : UInt32 := 2
def serviceStopPending : UInt32 := 3
def serviceRunning : UInt32 := 4
def serviceContinuePending : UInt32 := 5
def servicePausePending : UInt32 := 6
def servicePaused : UInt32 := 7

def errorServiceAlreadyRunning : UInt32 := 1056
def errorServiceDoesNotExist : UInt32 := 1060
def errorServiceNotActive : UInt32 := 1062
def eAccessDenied : Int32 := (0x80070005 : UInt32).toInt32

structure ServiceSnapshot where
  installed : Bool
  state : UInt32
  processId : UInt32
  win32ExitCode : UInt32
  deriving DecidableEq, Repr

def ServiceSnapshot.initial : ServiceSnapshot := ⟨false, serviceStopped, 0, 0⟩

/-- `SERVICE_STATUS_PROCESS`, as far as it is read -/
structure ServiceStatusProcess where
  currentState : UInt32
  processId : UInt32
  win32ExitCode : UInt32

def ServiceSnapshot.refreshed (snapshot : ServiceSnapshot) (status : ServiceStatusProcess) :
    ServiceSnapshot :=
  { snapshot with
    state := status.currentState
    processId := status.processId
    win32ExitCode := status.win32ExitCode }

/-- `std::setw` with a fill character -/
def setw (width : Nat) (fill : Char) (text : List Char) : List Char :=
  List.replicate (width - text.length) fill ++ text

/-- A unit of a wide string as the character that it is below the surrogates. -/
def wideChar (unit : UInt16) : Char := Char.ofNat unit.toNat

def escapeUnit (unit : UInt16) : List Char :=
  if wideChar unit = backslash then [backslash, backslash]
  else if wideChar unit = quote then [backslash, quote]
  else if unit = 8 then [backslash, 'b']
  else if unit = 12 then [backslash, 'f']
  else if unit = 10 then [backslash, 'n']
  else if unit = 13 then [backslash, 'r']
  else if unit = 9 then [backslash, 't']
  else if unit < 0x20 then backslash :: 'u' :: setw 4 '0' (Nat.toDigits 16 unit.toNat)
  else [wideChar unit]

def escapeJson (value : List UInt16) : List Char := value.flatMap escapeUnit

def formatResult (result : Int32) : List Char :=
  "0x".toList ++ setw 8 '0' ((Nat.toDigits 16 result.toUInt32.toNat).map Char.toUpper)

def scmStateName (state : UInt32) : String :=
  if state = serviceStartPending then "starting"
  else if state = serviceRunning then "running"
  else if state = serviceStopPending then "stopping"
  else if state = servicePaused ∨ state = servicePausePending then "paused"
  else if state = serviceContinuePending then "continuing"
  else "stopped"

def Ipc.stateName : ServiceState → String
  | .starting => "starting"
  | .ready => "ready"
  | .enabling => "enabling"
  | .enabled => "enabled"
  | .disabling => "disabling"
  | .failed => "failed"
  | .stopping => "stopping"
  | .unavailable => "unavailable"

/-- `static_cast<ServiceState>`, where the value names a state -/
def Ipc.ServiceState.ofValue (value : UInt32) : ServiceState :=
  if value = 1 then .starting
  else if value = 2 then .ready
  else if value = 3 then .enabling
  else if value = 4 then .enabled
  else if value = 5 then .disabling
  else if value = 6 then .failed
  else if value = 7 then .stopping
  else .unavailable

def quoted (text : List Char) : List Char := quote :: text ++ [quote]

/-- `"name":value` -/
def member (name : String) (value : List Char) : List Char :=
  quote :: name.toList ++ quote :: ':' :: value

def boolText (value : Bool) : List Char := (if value then "true" else "false").toList

def numberText (value : Nat) : List Char := Nat.toDigits 10 value

/-- The members between braces, separated by commas. -/
def object (members : List (List Char)) : List Char :=
  openBrace :: [','].intercalate members ++ [closeBrace]

def lineFeed : Char := Char.ofNat 10

def printUnavailable (service : ServiceSnapshot) (result : Int32) (changed : Bool) : List Char :=
  object
    [member "protocolVersion" (numberText kVersion.toNat),
      member "serviceInstalled" (boolText service.installed),
      member "serviceState" (quoted (scmStateName service.state).toList),
      member "state" (quoted "unavailable".toList),
      member "pid" (numberText service.processId.toNat),
      member "requestResult" (quoted (formatResult result)),
      member "lastError" (quoted (formatResult result)),
      member "deviceInstanceId" (quoted []),
      member "generation" (numberText 0),
      member "changed" (boolText changed)] ++ [lineFeed]

/-- The id is printed up to its terminator. -/
def printResponse (service : ServiceSnapshot) (response : Response) : List Char :=
  object
    [member "protocolVersion" (numberText response.version.toNat),
      member "serviceInstalled" (boolText true),
      member "serviceState" (quoted (scmStateName service.state).toList),
      member "state" (quoted (stateName (.ofValue response.stateValue)).toList),
      member "pid" (numberText response.serviceProcessId.toNat),
      member "requestResult" (quoted (formatResult response.requestResult)),
      member "lastError" (quoted (formatResult response.lastError)),
      member "deviceInstanceId"
        (quoted (escapeJson (response.deviceInstanceId.toList.takeWhile (· ≠ 0)))),
      member "generation" (numberText response.generation.toNat),
      member "changed" (boolText (response.changed ≠ 0))] ++ [lineFeed]

/-- How the service manager answers a query. -/
inductive QueryOutcome where
  | noManager (lastError : UInt32)
  | notOpened (lastError : UInt32)
  | notQueried (lastError : UInt32)
  | queried (status : ServiceStatusProcess)

def queryService : QueryOutcome → Bool × ServiceSnapshot
  | .noManager lastError => (false, { ServiceSnapshot.initial with win32ExitCode := lastError })
  | .notOpened lastError =>
    (false,
      { ServiceSnapshot.initial with
        win32ExitCode := lastError
        installed := lastError ≠ errorServiceDoesNotExist })
  | .notQueried lastError =>
    (false, { ServiceSnapshot.initial with installed := true, win32ExitCode := lastError })
  | .queried status => (true, { ServiceSnapshot.initial with installed := true }.refreshed status)

/-- One round of the wait for the service. -/
structure StartRound where
  startError : Option UInt32
  refresh : Except UInt32 ServiceStatusProcess

/-- Whether a start has been attempted by now, or why the wait ends. -/
def attemptStart (round : StartRound) (attempted : Bool) (snapshot : ServiceSnapshot) :
    Except Int32 Bool :=
  if snapshot.state = serviceStopped then
    if attempted then
      .error (hresultFromWin32
        (if snapshot.win32ExitCode = 0 then errorServiceNotActive else snapshot.win32ExitCode))
    else
      match round.startError with
      | none => .ok true
      | some lastError =>
        if lastError ≠ errorServiceAlreadyRunning then .error (hresultFromWin32 lastError) else .ok true
  else .ok attempted

/-- One round: the result with which the wait ends, or what the next round starts from. -/
def startRound (snapshot : ServiceSnapshot) (attempted : Bool) (round : StartRound) :
    Except (Int32 × ServiceSnapshot) (ServiceSnapshot × Bool) :=
  if snapshot.state = serviceRunning then .error (0, snapshot)
  else
    match attemptStart round attempted snapshot with
    | .error result => .error (result, snapshot)
    | .ok attempted =>
      match round.refresh with
      | .error lastError =>
        .error (hresultFromWin32 lastError, { snapshot with win32ExitCode := lastError })
      | .ok status => .ok (snapshot.refreshed status, attempted)

/-- The deadline passes with the last round. -/
def ensureServiceRunning (snapshot : ServiceSnapshot) (attempted : Bool) (round : StartRound) :
    List StartRound → Int32 × ServiceSnapshot
  | [] =>
    match startRound snapshot attempted round with
    | .error ended => ended
    | .ok (refreshed, _) => (hresultFromWin32 errorTimeout, refreshed)
  | next :: rest =>
    match startRound snapshot attempted round with
    | .error ended => ended
    | .ok (refreshed, attempted) => ensureServiceRunning refreshed attempted next rest

/-- The transaction fails before or after the service has executed the request, or brings bytes back. -/
inductive Transaction where
  | failed (lastError : UInt32) (executed : Bool)
  | completed (bytesRead : UInt32)

/-- What the pipe answers; `counter` is what the correlation id is mixed from. -/
structure PipeCall where
  waitError : Option UInt32
  createError : Option UInt32
  serverProcessId : Except UInt32 UInt32
  modeError : Option UInt32
  counter : UInt64
  transaction : Transaction
  outcome : EnableOutcome
  ownProcessId : UInt32

def nextCorrelationId (counter : UInt64) : UInt64 := if counter = 0 then 1 else counter

def transact (owner : DeviceOwner) (pipe : PipeRequest) :
    Transaction → Except Int32 Response × DeviceOwner
  | .failed lastError executed =>
    (.error (hresultFromWin32 lastError), if executed then (executeRequest owner pipe).2 else owner)
  | .completed bytesRead =>
    let (response, after) := executeRequest owner pipe
    if bytesRead ≠ sizeOfResponse.toUInt32 || !validateResponse pipe.request response then
      (.error (hresultFromWin32 errorInvalidData), after)
    else (.ok response, after)

def callService (owner : DeviceOwner) (command : Command) (service : ServiceSnapshot)
    (call : PipeCall) : Except Int32 Response × DeviceOwner :=
  if service.state ≠ serviceRunning || service.processId = 0 then
    (.error (hresultFromWin32 errorServiceNotActive), owner)
  else
    match call.waitError, call.createError, call.serverProcessId, call.modeError with
    | some lastError, _, _, _ => (.error (hresultFromWin32 lastError), owner)
    | none, some lastError, _, _ => (.error (hresultFromWin32 lastError), owner)
    | none, none, .error lastError, _ => (.error (hresultFromWin32 lastError), owner)
    | none, none, .ok serverProcessId, modeError =>
      if serverProcessId ≠ service.processId then (.error eAccessDenied, owner)
      else
        match modeError with
        | some lastError => (.error (hresultFromWin32 lastError), owner)
        | none =>
          transact owner
            ⟨makeRequest command (nextCorrelationId call.counter), call.outcome, call.ownProcessId⟩
            call.transaction

structure ControllerEnvironment where
  query : QueryOutcome
  startableError : Option UInt32
  firstRound : StartRound
  laterRounds : List StartRound
  call : PipeCall

/-- What a run of the controller prints, its exit code, and the service behind it. -/
structure ControllerRun where
  exitCode : Nat
  output : List Char
  owner : DeviceOwner

section Execute

variable (owner : DeviceOwner) (command : Command) (environment : ControllerEnvironment)

def finishCall (snapshot : ServiceSnapshot) : ControllerRun :=
  match callService owner command snapshot environment.call with
  | (.error result, after) => ⟨24, printUnavailable snapshot result false, after⟩
  | (.ok response, after) =>
    ⟨if failed response.requestResult then 25 else 0, printResponse snapshot response, after⟩

def startAndCall (snapshot : ServiceSnapshot) : ControllerRun :=
  let startable := snapshot.state = serviceStopped || snapshot.state = serviceStopPending
  match startable, environment.startableError with
  | true, some lastError => ⟨22, printUnavailable snapshot (hresultFromWin32 lastError) false, owner⟩
  | _, _ =>
    let (startResult, snapshot) :=
      ensureServiceRunning snapshot false environment.firstRound environment.laterRounds
    if failed startResult then ⟨22, printUnavailable snapshot startResult false, owner⟩
    else finishCall owner command environment snapshot

def execute (startService : Bool) : ControllerRun :=
  let (queried, snapshot) := queryService environment.query
  if !queried then
    ⟨if command = .status then 0
      else if snapshot.win32ExitCode = errorServiceDoesNotExist then 20 else 21,
      printUnavailable snapshot (hresultFromWin32 snapshot.win32ExitCode) false, owner⟩
  else if startService then startAndCall owner command environment snapshot
  else if snapshot.state ≠ serviceRunning then
    ⟨if command = .status then 0 else 23,
      printUnavailable snapshot (hresultFromWin32 errorServiceNotActive) false, owner⟩
  else finishCall owner command environment snapshot

end Execute

/-- The command of a command line with one argument, and whether it starts the service. -/
def commandLine (argument : String) : Option (Command × Bool) :=
  if argument = "start" then some (.enable, true)
  else if argument = "stop" ∨ argument = "remove" then some (.disable, false)
  else if argument = "status" then some (.status, false)
  else none

end LadoFlow.Windows
