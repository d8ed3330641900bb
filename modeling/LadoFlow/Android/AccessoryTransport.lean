import LadoFlow.Android.ReconnectPolicy
import LadoFlow.Android.SessionCallbacks
import Mathlib.Logic.Function.Basic

/-!
# The accessory transport

`AndroidUsbAccessoryTransport` as a machine. The main thread runs the callbacks, the calls and the
coroutines between their suspension points; the blocking open and the I/O session run elsewhere. A
connection is known by the open job that asked for it.
-/

namespace LadoFlow.Android

open Framework

structure UsbAccessoryIdentity where
  manufacturer : Option String
  model : Option String
  description : Option String
  version : Option String
  serial : Option String
  deriving DecidableEq

/-- `Char.isWhitespace` -/
def isWhitespace (character : Char) : Bool :=
  character.toNat ∈ [0x20, 0xA0, 0x1680, 0x2028, 0x2029, 0x202F, 0x205F, 0x3000] ||
    (0x09 ≤ character.toNat && character.toNat ≤ 0x0D) ||
    (0x1C ≤ character.toNat && character.toNat ≤ 0x1F) ||
    (0x2000 ≤ character.toNat && character.toNat ≤ 0x200A)

def isNotBlank (text : String) : Bool := !text.toList.all isWhitespace

def ladoFlowAccessoryManufacturer : String := "LadoFlow"
def ladoFlowAccessoryModel : String := "LadoFlow Host"

namespace UsbAccessoryIdentity

variable (identity : UsbAccessoryIdentity)

def displayName : String :=
  ((identity.description.filter isNotBlank).or (identity.model.filter isNotBlank)).getD
    "LadoFlow USB host"

def isLadoFlowHost : Bool :=
  identity.manufacturer = some ladoFlowAccessoryManufacturer &&
    identity.model = some ladoFlowAccessoryModel

end UsbAccessoryIdentity

/-- The accessory as the USB service lists it; equality looks at the URI too. -/
structure UsbAccessory where
  identity : UsbAccessoryIdentity
  uri : Option String
  deriving DecidableEq

/-- `UsbTransportState` as this transport publishes it, with all of its data. -/
inductive AccessoryTransportState where
  | stopped
  | waitingForAccessory
  | awaitingPermission (accessory : UsbAccessoryIdentity)
  | opening (accessory : UsbAccessoryIdentity)
  | connected (accessory : UsbAccessoryIdentity)
  | detached (accessory : UsbAccessoryIdentity)
  | recovering (accessory : UsbAccessoryIdentity) (attempt : Int32) (delayMillis : Int64)
    (reason : String)
  | error (accessory : UsbAccessoryIdentity) (reason : String) (retryable : Bool)
  | unsupported (reason : String)
  deriving DecidableEq

/-- What the display session reads of the state. -/
def AccessoryTransportState.view : AccessoryTransportState → UsbTransportState
  | stopped => .stopped
  | waitingForAccessory => .waitingForAccessory
  | awaitingPermission accessory => .awaitingPermission accessory.displayName
  | opening accessory => .opening accessory.displayName
  | connected accessory => .connected accessory.displayName
  | detached accessory => .detached accessory.displayName
  | recovering _ attempt _ reason => .recovering attempt reason
  | error _ reason retryable => .error reason retryable
  | unsupported reason => .unsupported reason

def resolveUsbDetachState (current : Option UsbAccessoryIdentity) (detached : UsbAccessoryIdentity)
    (stillAttached foreground userPaused : Bool) : Option AccessoryTransportState :=
  if current ≠ some detached || stillAttached then none
  else if foreground && !userPaused then some (.detached detached)
  else some .stopped

inductive UsbIoFailureKind where
  | endOfStream
  | io
  | protocol
  deriving DecidableEq

/-- `UsbIoSessionState` of a session that was started. -/
inductive UsbIoSessionState where
  | running
  | closed
  | failed (kind : UsbIoFailureKind) (message : String)
  deriving DecidableEq

/-- What the USB service answers in one step of the main thread. -/
structure UsbManagerView where
  accessoryList : Option (List UsbAccessory)
  hasPermission : UsbAccessory → Bool
  requestPermission : UsbAccessory → Except (Option String) Unit

def UsbManagerView.isAttached (usbManager : UsbManagerView) (accessory : UsbAccessory) : Bool :=
  usbManager.accessoryList.any (·.contains accessory)

/-- What the blocking part of an open job came to; a job that is cancelled early does not run it. -/
inductive OpenResult where
  | notRun
  | threw (message : Option String)
  | noDescriptor
  | connection
  deriving DecidableEq

inductive OpenPoint where
  | opening
  | returned (result : OpenResult)
  deriving DecidableEq

structure OpenJob where
  accessory : UsbAccessory
  cancelled : Bool
  point : OpenPoint
  deriving DecidableEq

/-- `sessionStateJob` with what its coroutine captures. -/
structure SessionStateJob where
  session : Nat
  accessory : UsbAccessory
  deriving DecidableEq

structure AccessoryConfig where
  usbAccessorySupported : Bool
  reconnectPolicy : UsbReconnectPolicy

/-- `opened` and `closures` record the connections that were opened and those that were closed. -/
structure AccessoryTransport where
  started : Bool
  closed : Bool
  receiving : Bool
  foreground : Bool
  userPaused : Bool
  permissionRequestInFlight : Bool
  currentAccessory : Option UsbAccessory
  sessionStateJob : Option SessionStateJob
  openJob : Option Nat
  reconnectJob : Option UsbAccessory
  reconnectAttempt : Int32
  session : Option Nat
  state : AccessoryTransportState
  launched : Nat
  jobs : Nat → Option OpenJob
  sessions : Nat → Option UsbIoSessionState
  opened : List Nat
  closures : List Nat

inductive AccessoryStep where
  | start
  | onStart (usbManager : UsbManagerView)
  | onStop
  | handleIntent (accessory : Option UsbAccessory) (usbManager : UsbManagerView)
  | retry (usbManager : UsbManagerView)
  | disconnect
  | close
  | permissionResult (accessory : Option UsbAccessory) (granted : Bool)
    (usbManager : UsbManagerView)
  | accessoryDetached (accessory : Option UsbAccessory) (usbManager : UsbManagerView)
  | openReturned (job : Nat) (result : OpenResult)
  | resumeOpen (job : Nat) (usbManager : UsbManagerView)
    (earlyFailure : Option (UsbIoFailureKind × String))
  | sessionFails (session : Nat) (kind : UsbIoFailureKind) (message : String)
  | collectFailure (usbManager : UsbManagerView)
  | reconnectFires (usbManager : UsbManagerView)

namespace AccessoryTransport

def initial : AccessoryTransport where
  started := false
  closed := false
  receiving := false
  foreground := false
  userPaused := false
  permissionRequestInFlight := false
  currentAccessory := none
  sessionStateJob := none
  openJob := none
  reconnectJob := none
  reconnectAttempt := 0
  session := none
  state := .stopped
  launched := 0
  jobs _ := none
  sessions _ := none
  opened := []
  closures := []

def unsupported : AccessoryTransportState :=
  .unsupported "This Android device does not report USB Accessory support"

section Operations

variable (config : AccessoryConfig) (usbManager : UsbManagerView) (s : AccessoryTransport)

/-- `terminate` and `close` of the I/O session: the first of them closes the connection. -/
def endSession (session : Nat) (last : UsbIoSessionState) : AccessoryTransport :=
  if s.sessions session = some .running then
    { s with
      sessions := Function.update s.sessions session (some last)
      closures := s.closures ++ [session] }
  else s

def closeActiveSession : AccessoryTransport :=
  let cleared := { s with sessionStateJob := none, session := none }
  match s.session with
  | some session => cleared.endSession session .closed
  | none => cleared

def cancelJob (job : Nat) : AccessoryTransport :=
  { s with
    jobs := Function.update s.jobs job ((s.jobs job).map fun open' => { open' with cancelled := true }) }

def cancelOpenJob : AccessoryTransport :=
  match s.openJob with
  | some job => { s.cancelJob job with openJob := none }
  | none => s

def cancelConnectionWork : AccessoryTransport := { s.cancelOpenJob with reconnectJob := none }

/-- A closed transport has cancelled its scope, in which no coroutine starts. -/
def launchOpen (accessory : UsbAccessory) : AccessoryTransport :=
  if s.closed then s
  else
    { s with
      openJob := some s.launched
      launched := s.launched + 1
      jobs := Function.update s.jobs s.launched (some ⟨accessory, false, .opening⟩)
      state := .opening accessory.identity }

def maybeOpenAccessory (accessory : UsbAccessory) : AccessoryTransport :=
  if !s.foreground || s.userPaused || !usbManager.isAttached accessory then s
  else if s.session.isSome && s.currentAccessory = some accessory then s
  else s.cancelOpenJob.launchOpen accessory

def requestPermission (accessory : UsbAccessory) : AccessoryTransport :=
  if s.permissionRequestInFlight then s
  else
    match usbManager.requestPermission accessory with
    | .ok _ =>
      { s with
        permissionRequestInFlight := true
        state := .awaitingPermission accessory.identity }
    | .error message =>
      { s with
        permissionRequestInFlight := false
        state := .error accessory.identity
          (message.getD "Unable to request Android USB permission") true }

def openOrRequest (accessory : UsbAccessory) : AccessoryTransport :=
  if usbManager.hasPermission accessory then s.maybeOpenAccessory usbManager accessory
  else s.requestPermission usbManager accessory

def handleAttachedAccessory (accessory : UsbAccessory) : AccessoryTransport :=
  if !accessory.identity.isLadoFlowHost then s
  else if !s.foreground || s.userPaused then
    { s with currentAccessory := some accessory, state := .stopped }
  else { s with currentAccessory := some accessory }.openOrRequest usbManager accessory

def scanAttachedAccessories : AccessoryTransport :=
  if s.closed || s.userPaused || !s.foreground || !config.usbAccessorySupported then s
  else
    match usbManager.accessoryList.bind (·.find? (·.identity.isLadoFlowHost)) with
    | none =>
      { { s with currentAccessory := none }.closeActiveSession with state := .waitingForAccessory }
    | some accessory => s.handleAttachedAccessory usbManager accessory

/-- `delay` of the policy; the attempt passed `shouldRetry`, so it is at least 1. -/
def launchReconnect (accessory : UsbAccessory) (attempt : Int32) (reason : String) :
    AccessoryTransport :=
  match config.reconnectPolicy.delayMillis attempt with
  | none => s
  | some delayMillis =>
    { s with
      state := .recovering accessory.identity attempt delayMillis reason
      reconnectJob := if s.closed then none else some accessory }

def retryLater (accessory : UsbAccessory) (reason : String) : AccessoryTransport :=
  let attempt := s.reconnectAttempt + 1
  let counted := { s with reconnectAttempt := attempt }
  if !config.reconnectPolicy.shouldRetry attempt then
    { counted with state := .error accessory.identity reason true }
  else counted.launchReconnect config accessory attempt reason

def scheduleReconnect (accessory : UsbAccessory) (reason : String) : AccessoryTransport :=
  let idle := s.closeActiveSession
  if !s.foreground || s.userPaused || !usbManager.isAttached accessory then
    { idle with
      state := if s.foreground && !s.userPaused then .waitingForAccessory else .stopped }
  else idle.retryLater config accessory reason

def install (job : Nat) (accessory : UsbAccessory) : AccessoryTransport :=
  { s.closeActiveSession with
    session := some job
    sessions := Function.update s.closeActiveSession.sessions job (some .running)
    sessionStateJob := some ⟨job, accessory⟩
    reconnectAttempt := 0
    state := .connected accessory.identity }

/-- The collector's reaction to a session that failed. -/
def sessionFailed (accessory : UsbAccessory) (message : String) : AccessoryTransport :=
  { s with session := none }.scheduleReconnect config usbManager accessory message

/-- The session may fail before its collector is stored; the stored one has then nothing to do. -/
def activate (job : Nat) (accessory : UsbAccessory)
    (earlyFailure : Option (UsbIoFailureKind × String)) : AccessoryTransport :=
  match earlyFailure with
  | none => s.install job accessory
  | some (kind, message) =>
    { ((s.install job accessory).endSession job (.failed kind message)).sessionFailed config
        usbManager accessory message with
      sessionStateJob := some ⟨job, accessory⟩ }

def closeConnection (job : Nat) : AccessoryTransport := { s with closures := s.closures ++ [job] }

/-- The check behind the suspension; a cancelled job does not come to it. -/
def accepts (job : OpenJob) : Bool :=
  !job.cancelled && s.foreground && !s.userPaused && s.currentAccessory = some job.accessory &&
    usbManager.isAttached job.accessory

def finishOpen (id : Nat) (job : OpenJob) (earlyFailure : Option (UsbIoFailureKind × String)) :
    OpenResult → AccessoryTransport
  -- An exception of the blocking part wins over the cancellation of the job.
  | .threw message =>
    s.scheduleReconnect config usbManager job.accessory
      (message.getD "UsbManager.openAccessory failed")
  | .notRun => s
  | .noDescriptor =>
    if job.cancelled then s
    else s.scheduleReconnect config usbManager job.accessory
      "UsbManager.openAccessory returned no descriptor"
  | .connection =>
    if s.accepts usbManager job then s.activate config usbManager id job.accessory earlyFailure
    else s.closeConnection id

def removeJob (id : Nat) : AccessoryTransport := { s with jobs := Function.update s.jobs id none }

def resumeOpen (id : Nat) (earlyFailure : Option (UsbIoFailureKind × String)) :
    Option AccessoryTransport :=
  match s.jobs id with
  | some job =>
    match job.point with
    | .returned result => some ((s.removeJob id).finishOpen config usbManager id job earlyFailure result)
    | .opening => none
  | none => none

/-- The blocking part ends on its own thread; the connection is stored where the job will find it. -/
def openReturned (id : Nat) (result : OpenResult) : Option AccessoryTransport :=
  match s.jobs id with
  | some job =>
    if job.point = .opening ∧ (result = .notRun → job.cancelled = true) then
      some
        { s with
          jobs := Function.update s.jobs id (some { job with point := .returned result })
          opened := if result = .connection then s.opened ++ [id] else s.opened }
    else none
  | none => none

def collectFailure : Option AccessoryTransport :=
  match s.sessionStateJob with
  | some job =>
    match s.sessions job.session with
    | some (.failed _ message) =>
      if s.session = some job.session then
        some (s.sessionFailed config usbManager job.accessory message)
      else some s
    | _ => none
  | none => none

def reconnectFires : Option AccessoryTransport :=
  s.reconnectJob.map fun accessory => { s with reconnectJob := none }.openOrRequest usbManager accessory

def start : AccessoryTransport :=
  if s.started then s
  else if !config.usbAccessorySupported then { s with started := true, state := unsupported }
  else { s with started := true, receiving := true }

def onStart : AccessoryTransport :=
  let shown := { s with foreground := true }
  if !config.usbAccessorySupported then { shown with state := unsupported }
  else if s.userPaused then shown
  else shown.scanAttachedAccessories config usbManager

def stopWork : AccessoryTransport :=
  { s.cancelConnectionWork.closeActiveSession with state := .stopped }

def onStop : AccessoryTransport := { s with foreground := false }.stopWork

def disconnect : AccessoryTransport := { s with userPaused := true }.stopWork

def retry : AccessoryTransport :=
  let resumed := { s with userPaused := false, reconnectAttempt := 0 }
  if !config.usbAccessorySupported then { resumed with state := unsupported }
  else if s.foreground then resumed.scanAttachedAccessories config usbManager
  else resumed

def close : AccessoryTransport :=
  if s.closed then s
  else { s with closed := true, receiving := if s.started then false else s.receiving }.stopWork

def onPermissionResult (accessory : UsbAccessory) (granted : Bool) : AccessoryTransport :=
  if !accessory.identity.isLadoFlowHost then s
  else if granted then
    { s with currentAccessory := some accessory }.maybeOpenAccessory usbManager accessory
  else
    { s with
      currentAccessory := some accessory
      state := .error accessory.identity "Android USB accessory permission was denied" true }

def permissionResult (accessory : Option UsbAccessory) (granted : Bool) : AccessoryTransport :=
  let answered := { s with permissionRequestInFlight := false }
  match accessory.or s.currentAccessory with
  | none => answered
  | some accessory => answered.onPermissionResult usbManager accessory granted

def accessoryDetached (detached : UsbAccessory) : AccessoryTransport :=
  match resolveUsbDetachState (s.currentAccessory.map (·.identity)) detached.identity
      (usbManager.isAttached detached) s.foreground s.userPaused with
  | none => s
  | some detachedState =>
    { { s with
        permissionRequestInFlight := false
        currentAccessory := none
        reconnectAttempt := 0 }.stopWork with
      state := detachedState }

end Operations

def next (config : AccessoryConfig) (s : AccessoryTransport) :
    AccessoryStep → Option AccessoryTransport
  | .start => some (s.start config)
  | .onStart usbManager => some (s.onStart config usbManager)
  | .onStop => some s.onStop
  | .handleIntent none _ => some s
  | .handleIntent (some accessory) usbManager => some (s.handleAttachedAccessory usbManager accessory)
  | .retry usbManager => some (s.retry config usbManager)
  | .disconnect => some s.disconnect
  | .close => some s.close
  | .permissionResult accessory granted usbManager =>
    if s.receiving then some (s.permissionResult usbManager accessory granted) else none
  | .accessoryDetached none _ => if s.receiving then some s else none
  | .accessoryDetached (some accessory) usbManager =>
    if s.receiving then some (s.accessoryDetached usbManager accessory) else none
  | .openReturned job result => s.openReturned job result
  | .resumeOpen job usbManager earlyFailure => s.resumeOpen config usbManager job earlyFailure
  | .sessionFails session kind message =>
    if s.sessions session = some .running then some (s.endSession session (.failed kind message))
    else none
  | .collectFailure usbManager => s.collectFailure config usbManager
  | .reconnectFires usbManager => s.reconnectFires usbManager

def machine (config : AccessoryConfig) : Machine AccessoryTransport AccessoryStep where
  step := next config

end AccessoryTransport

end LadoFlow.Android
