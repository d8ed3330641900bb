import LadoFlow.Framework.Machine
import LadoFlow.Host.LoopbackWorker
import LadoFlow.Host.UsbControl

/-!
# Calls on the desktop runtime

`DesktopRuntime` as a machine over the threads that call it and the workers that it starts. Every
section under one lock is one step; `start` keeps the worker lock from its check to its end, while
`stop` and a pairing release it before they write the shared state.
-/

namespace LadoFlow.Host

open LadoFlow.Protocol LadoFlow.Core LadoFlow.Transport Framework

theorem loopbackHostCodecs_valid : (3 : UInt16) &&& ~~~0b111 = 0 := rfl

theorem loopbackHostInput_valid : (7 : UInt16) &&& ~~~0b111 = 0 := rfl

theorem loopbackDisplayInput_valid : (3 : UInt16) &&& ~~~0b111 = 0 := rfl

theorem loopbackHostNonce_length : (List.replicate 16 (0x48 : UInt8)).length = 16 :=
  List.length_replicate

theorem loopbackDisplayNonce_length : (List.replicate 16 (0x44 : UInt8)).length = 16 :=
  List.length_replicate

/-- The session of a loopback, between two peers of the same process. -/
def negotiatedSession (config : LoopbackConfig) : Except HostError Session := do
  let hostHello ← liftProtocol (Hello.new protocolVersion protocolVersion .host
    ⟨List.replicate 16 0x48, loopbackHostNonce_length⟩ "LadoFlow desktop")
  let displayHello ← liftProtocol (Hello.new protocolVersion protocolVersion .display
    ⟨List.replicate 16 0x44, loopbackDisplayNonce_length⟩ "LadoFlow synthetic display")
  let hostCapabilities ← liftProtocol (Capabilities.new config.width config.height
    (config.fps.toUInt32 * 1000) 40000 ⟨3, loopbackHostCodecs_valid⟩
    ⟨7, loopbackHostInput_valid⟩ FeatureFlags.remoteCursor)
  let displayCapabilities ← liftProtocol (Capabilities.new config.width config.height
    (config.fps.toUInt32 * 1000) 20000 CodecSet.h264 ⟨3, loopbackDisplayInput_valid⟩
    FeatureFlags.remoteCursor)
  let agreement ← liftNegotiation
    (negotiate hostHello hostCapabilities displayHello displayCapabilities)
  let started := (HostHandshake.startSession agreement none).run.run Session.new
  (started.1.mapError HostError.session).map fun _ => started.2

namespace SharedState

variable (state : SharedState)

/-- What `stop` writes after its worker has been joined. -/
def closeStopped : SharedState :=
  { state with
    session := state.session.map fun session => (Session.close.run.run session).2
    phase := .stopped }

/-- What a pairing writes. -/
def resetForPairing : SharedState where
  phase := .idle
  session := none
  config := none
  transport := tetherTransportName
  peerName := none
  lastError := none
  startedAt := none
  latency := .new
  framesProduced := 0
  framesPresented := 0
  framesDropped := 0
  framesSuperseded := 0
  queueDepth := 0
  sentVideoOrdinals := []

/-- `disconnect_android_usb` stops only such a session. -/
def isUsbSessionActive : Bool :=
  (state.transport = usbTransportName || state.transport = tetherTransportName) &&
    (state.phase = .negotiating || state.phase = .connected || state.phase = .streaming ||
      state.phase = .recovering)

end SharedState

/-- One section in which a worker writes the shared state. -/
inductive WorkerUpdate where
  | establish (config : LoopbackConfig) (session : Session) (peerName : String)
  | recovery (error : String) (attempt : UInt32) (delayMillis : Nat)
  | renegotiation (config : LoopbackConfig)
  | fail (error : HostError)
  | sentVideo (sequence : UInt64)
  | telemetry (telemetry : Telemetry)
  | control (sequence : UInt64)
  | dropped (count : Nat)
  | sent (superseded : Nat)
  | presented (sequence : UInt64) (latency : Duration)
  | drained

namespace WorkerUpdate

def apply (state : SharedState) : WorkerUpdate → SharedState
  | establish config session peerName => state.establishAndroidControl config session peerName
  | recovery error attempt delayMillis => state.beginUsbRecovery error attempt delayMillis
  | renegotiation config => state.beginUsbRenegotiation config
  | fail error => state.failAndroidSession error
  | sentVideo sequence => state.recordSentVideo sequence
  | telemetry report => state.applyUsbTelemetry report
  | control sequence => (state.observeSequence sequence).2
  | dropped count => state.countDropped count
  | sent superseded => state.countSent superseded
  | presented sequence latency =>
    match state.observePresented sequence with
    | (false, state) => state.countDropped 1
    | (true, state) => state.countPresented.recordLatency latency
  | drained => { state with queueDepth := 0 }

def replacesSession : WorkerUpdate → Bool
  | establish .. | recovery .. | renegotiation .. | fail .. => true
  | sentVideo .. | telemetry .. | control .. | dropped .. | sent .. | presented .. | drained => false

end WorkerUpdate

structure WorkerThread where
  cancelled : Bool
  finished : Bool
  panicked : Bool
  deriving DecidableEq

inductive SessionRoute where
  | tether
  | usb
  | loopback
  deriving DecidableEq

def SessionRoute.spawnFailure (route : SessionRoute) (error : String) : String :=
  match route with
  | tether => "failed to start USB-tether session worker: " ++ error
  | usb => "failed to start USB session worker: " ++ error
  | loopback => "failed to start loopback worker: " ++ error

inductive DesktopCall where
  | start (config : LoopbackConfig)
  | stop
  | disconnectAndroidUsb
  | pairAndroidTether

/-- Where a call is; `nested` is set while a disconnect runs `stop`. -/
inductive CallPoint where
  | startLocking (config : LoopbackConfig)
  | startJoining (config : LoopbackConfig) (worker : Nat)
  | startTaking (config : LoopbackConfig)
  | startProbing (config : LoopbackConfig) (tether : Bool)
  | startResetting (config : LoopbackConfig) (route : SessionRoute)
  | startNegotiating (config : LoopbackConfig)
  | startSpawning (route : SessionRoute)
  | startStoring (worker : Nat)
  | stopTaking (nested : Bool)
  | stopCancelling (nested : Bool) (worker : Nat)
  | stopJoining (nested : Bool) (worker : Nat)
  | stopClosing (nested : Bool)
  | disconnectReading
  | disconnectTaking
  | disconnectUsb
  | pairChecking
  | pairUsb
  | pairDropping
  | pairConnecting
  | pairStoring
  | pairWriting
  | returned (result : Except HostError Unit)
  deriving DecidableEq

namespace CallPoint

/-- `start` keeps the worker lock. -/
def holdsLock : CallPoint → Bool
  | startJoining .. | startTaking _ | startProbing .. | startResetting .. | startNegotiating _ |
    startSpawning _ | startStoring _ => true
  | _ => false

/-- A stop or a pairing is between its section on the worker slot and its section on the shared
state. -/
def isSettling : CallPoint → Bool
  | stopCancelling .. | stopJoining .. | stopClosing _ => true
  | pairUsb | pairDropping | pairConnecting | pairStoring | pairWriting => true
  | _ => false

/-- The worker outside the slot that a call holds. -/
def owns : CallPoint → Option Nat
  | stopCancelling _ worker | stopJoining _ worker | startStoring worker => some worker
  | _ => none

/-- The worker for which the shared state was reset; it may not be spawned yet. -/
def prepared (next : Nat) : CallPoint → Option Nat
  | startSpawning _ => some next
  | startStoring worker => some worker
  | _ => none

end CallPoint

/-- What a section finds outside the runtime. -/
inductive CallInput where
  | proceed
  | clock (now : Duration)
  | usb (connected : Bool)
  | tetherClosed (lastError : Option String)
  | spawned (result : Except String Unit)
  | usbDisconnected (result : Except HostError Unit)
  | paired (result : Except HostError Unit)

inductive DesktopStep where
  | call (call : DesktopCall)
  | advance (thread : Nat) (input : CallInput)
  | worker (worker : Nat) (update : WorkerUpdate)
  | finish (worker : Nat) (panicked : Bool)

/-- Workers and calls are known by their place. `sessionOwner` is the worker on whose behalf the
shared session was last replaced or closed; none after a stop, a pairing or a failed start. -/
structure DesktopRuntime where
  shared : SharedState
  sessionOwner : Option Nat
  slot : Option Nat
  workers : List WorkerThread
  workerLock : Option Nat
  tetherConnection : Bool
  calls : List CallPoint

namespace DesktopRuntime

def initial : DesktopRuntime where
  shared := .new
  sessionOwner := none
  slot := none
  workers := []
  workerLock := none
  tetherConnection := false
  calls := []

section Sections

variable (s : DesktopRuntime)

def isRunning (worker : Nat) : Bool := s.workers[worker]?.any (!·.finished)

def isCancelled (worker : Nat) : Bool := s.workers[worker]?.any (·.cancelled)

def hasPanicked (worker : Nat) : Bool := s.workers[worker]?.any (·.panicked)

def moveTo (thread : Nat) (point : CallPoint) : DesktopRuntime :=
  { s with calls := s.calls.set thread point }

/-- `start` ends and drops the worker lock. -/
def release (thread : Nat) (result : Except HostError Unit) : DesktopRuntime :=
  { s.moveTo thread (.returned result) with workerLock := none }

def firstPoint : DesktopCall → CallPoint
  | .start config =>
    match config.validate with
    | .error error => .returned (.error error)
    | .ok config => .startLocking config
  | .stop => .stopTaking false
  | .disconnectAndroidUsb => .disconnectReading
  | .pairAndroidTether => .pairChecking

def startLock (thread : Nat) (config : LoopbackConfig) : Option DesktopRuntime :=
  if s.workerLock.isSome then none
  else
    match s.slot with
    | none => some { s.moveTo thread (.startTaking config) with workerLock := some thread }
    | some worker =>
      if s.isRunning worker then
        some (s.moveTo thread (.returned (.error
          (.text "a display session is already running"))))
      else
        some
          { s.moveTo thread (.startJoining config worker) with
            workerLock := some thread
            slot := none }

def startJoin (thread : Nat) (config : LoopbackConfig) (worker : Nat) : DesktopRuntime :=
  if s.hasPanicked worker then
    s.release thread (.error (.text "the previous loopback worker panicked"))
  else s.moveTo thread (.startTaking config)

def startTake (thread : Nat) (config : LoopbackConfig) : DesktopRuntime :=
  { s.moveTo thread (.startProbing config s.tetherConnection) with tetherConnection := false }

def startRoute (tether usb : Bool) : SessionRoute :=
  if tether then .tether else if usb then .usb else .loopback

def tetherClosedText (lastError : Option String) : String :=
  "Android USB-tether link is no longer ready: " ++
    lastError.getD "the authenticated socket closed before streaming" ++ ". Pair again."

/-- The connection of a tether was lost before the session. -/
def startTetherClosed (thread : Nat) (lastError : Option String) : DesktopRuntime :=
  { s.release thread (.error (.text "Android USB-tether link closed; pair the display again")) with
    shared := s.shared.failAndroidSession (.text (tetherClosedText lastError))
    sessionOwner := none }

/-- The shared state is reset for the worker that comes next. -/
def startReset (thread : Nat) (route : SessionRoute) (shared : SharedState) : DesktopRuntime :=
  { s.moveTo thread (.startSpawning route) with
    shared
    sessionOwner := some s.workers.length }

def startFail (thread : Nat) (error : HostError) : DesktopRuntime :=
  { s.release thread (.error error) with shared := { s.shared with phase := .failed } }

def startNegotiate (thread : Nat) (config : LoopbackConfig) (now : Duration) : DesktopRuntime :=
  match negotiatedSession config with
  | .error error => s.startFail thread error
  | .ok session => s.startReset thread .loopback (.resetForStart config session now)

def startSpawn (thread : Nat) : DesktopRuntime :=
  { s.moveTo thread (.startStoring s.workers.length) with
    workers := s.workers ++ [⟨false, false, false⟩] }

def startStore (thread worker : Nat) : DesktopRuntime :=
  { s.release thread (.ok ()) with slot := some worker }

/-- What follows `stop`. -/
def stopEnd (nested : Bool) : CallPoint := if nested then .disconnectTaking else .returned (.ok ())

def stopTake (thread : Nat) (nested : Bool) : Option DesktopRuntime :=
  if s.workerLock.isSome then none
  else
    match s.slot with
    | none => some (s.moveTo thread (.stopClosing nested))
    | some worker =>
      some { s.moveTo thread (.stopCancelling nested worker) with slot := none }

def stopCancel (thread : Nat) (nested : Bool) (worker : Nat) : DesktopRuntime :=
  { s.moveTo thread (.stopJoining nested worker) with
    workers := s.workers.modify worker fun state => { state with cancelled := true } }

def stopJoin (thread : Nat) (nested : Bool) (worker : Nat) : Option DesktopRuntime :=
  if s.isRunning worker then none
  else if s.hasPanicked worker then
    some (s.moveTo thread (.returned (.error
      (.text "the loopback worker panicked while stopping"))))
  else some (s.moveTo thread (.stopClosing nested))

def stopClose (thread : Nat) (nested : Bool) : DesktopRuntime :=
  { s.moveTo thread (stopEnd nested) with
    shared := s.shared.closeStopped
    sessionOwner := if s.shared.session.isSome then none else s.sessionOwner }

def pairCheck (thread : Nat) : Option DesktopRuntime :=
  if s.workerLock.isSome then none
  else if s.slot.any s.isRunning then
    some (s.moveTo thread (.returned (.error
      (.text "stop the active display session before pairing Android"))))
  else some (s.moveTo thread .pairUsb)

/-- A part of a pairing that may fail. -/
def pairGoesOn (thread : Nat) (point : CallPoint) : Except HostError Unit → DesktopRuntime
  | .ok () => s.moveTo thread point
  | .error error => s.moveTo thread (.returned (.error error))

def pairWrite (thread : Nat) : DesktopRuntime :=
  { s.moveTo thread (.returned (.ok ())) with
    shared := .resetForPairing
    sessionOwner := none }

end Sections

section Steps

variable (s : DesktopRuntime)

/-- The next section of `start` under the worker lock. -/
def startNext (thread : Nat) (point : CallPoint) (input : CallInput) : Option DesktopRuntime :=
  match point, input with
  | .startJoining config worker, .proceed => some (s.startJoin thread config worker)
  | .startTaking config, .proceed => some (s.startTake thread config)
  | .startProbing config tether, .usb connected =>
    some (s.moveTo thread (.startResetting config (startRoute tether connected)))
  | .startResetting _ .tether, .tetherClosed lastError =>
    some (s.startTetherClosed thread lastError)
  | .startResetting config .tether, .clock now =>
    some (s.startReset thread .tether
      (.resetForAndroidNegotiation config tetherTransportName now))
  | .startResetting config .usb, .clock now =>
    some (s.startReset thread .usb (.resetForAndroidNegotiation config usbTransportName now))
  | .startResetting config .loopback, .proceed =>
    some
      { s.moveTo thread (.startNegotiating config) with
        shared := { s.shared with phase := .negotiating } }
  | .startNegotiating config, .clock now => some (s.startNegotiate thread config now)
  | .startSpawning route, .spawned (.error error) =>
    some (s.startFail thread (.text (route.spawnFailure error)))
  | .startSpawning _, .spawned (.ok ()) => some (s.startSpawn thread)
  | .startStoring worker, .proceed => some (s.startStore thread worker)
  | _, _ => none

def advanceCall (thread : Nat) (point : CallPoint) (input : CallInput) : Option DesktopRuntime :=
  match point, input with
  | .startLocking config, .proceed => s.startLock thread config
  | .stopTaking nested, .proceed => s.stopTake thread nested
  | .stopCancelling nested worker, .proceed => some (s.stopCancel thread nested worker)
  | .stopJoining nested worker, .proceed => s.stopJoin thread nested worker
  | .stopClosing nested, .proceed => some (s.stopClose thread nested)
  | .disconnectReading, .proceed =>
    some (s.moveTo thread
      (if s.shared.isUsbSessionActive then .stopTaking true else .disconnectTaking))
  | .disconnectTaking, .proceed =>
    some { s.moveTo thread .disconnectUsb with tetherConnection := false }
  | .disconnectUsb, .usbDisconnected result => some (s.moveTo thread (.returned result))
  | .pairChecking, .proceed => s.pairCheck thread
  | .pairUsb, .usbDisconnected result => some (s.pairGoesOn thread .pairDropping result)
  | .pairDropping, .proceed =>
    some { s.moveTo thread .pairConnecting with tetherConnection := false }
  | .pairConnecting, .paired result => some (s.pairGoesOn thread .pairStoring result)
  | .pairStoring, .proceed => some { s.moveTo thread .pairWriting with tetherConnection := true }
  | .pairWriting, .proceed => some (s.pairWrite thread)
  | point, input => s.startNext thread point input

def next (s : DesktopRuntime) : DesktopStep → Option DesktopRuntime
  | .call call => some { s with calls := s.calls ++ [firstPoint call] }
  | .advance thread input =>
    match s.calls[thread]? with
    | none => none
    | some point => s.advanceCall thread point input
  | .worker worker update =>
    if s.isRunning worker then
      some
        { s with
          shared := update.apply s.shared
          sessionOwner := if update.replacesSession then some worker else s.sessionOwner }
    else none
  | .finish worker panicked =>
    if s.isRunning worker then
      some
        { s with
          workers := s.workers.modify worker fun state => { state with finished := true, panicked } }
    else none

def machine : Machine DesktopRuntime DesktopStep where
  step := next

end Steps

end DesktopRuntime

end LadoFlow.Host
