import LadoFlow.Framework.Machine
import LadoFlow.Host.UsbAccessory
import LadoFlow.Host.UsbDiscovery
import Mathlib.Logic.Function.Basic

/-!
# The accessory manager

The calls of `UsbAccessoryManager` and its bulk workers, with one step for each section under a lock, each
look at a flag and each wait. A session is known by the handle that it was opened with.
-/

namespace LadoFlow.Host

open Framework

inductive UsbLinkState where
  | unsupported
  | ready
  | connecting
  | connected
  | failed
  deriving DecidableEq, Repr

/-- `LinkStatus` with its counters. -/
structure UsbLinkStatus where
  phase : UsbLinkState
  detail : String
  counters : LinkStatus
  deriving DecidableEq

namespace UsbLinkStatus

def default : UsbLinkStatus where
  phase := .ready
  detail := "Android USB has not been connected in this app session"
  counters := .default

def of (phase : UsbLinkState) (detail : String) : UsbLinkStatus := { default with phase, detail }

def connecting : UsbLinkStatus := of .connecting "Negotiating Android Open Accessory mode"

def claimed : UsbLinkStatus :=
  of .connected "Android Open Accessory interface is claimed and the duplex bulk worker is active"

def cancelled : UsbLinkStatus := of .ready reconnectCancelledDetail

end UsbLinkStatus

/-- Where a bulk worker stands: in its loop, behind the release of its interface, or at its end. -/
inductive BulkThreadPoint where
  | pumping
  | released (result release : Except String Unit)
  | finished
  | panicked
  deriving DecidableEq

structure BulkThread where
  cancelled : Bool
  point : BulkThreadPoint
  deriving DecidableEq

/-- The worker still has its handle. -/
def BulkThread.isLive (thread : BulkThread) : Bool :=
  match thread.point with
  | .pumping | .released .. => true
  | .finished | .panicked => false

/-- The detail of a worker that nobody told to stop. -/
def unexpectedEnd : Except String Unit → Except String Unit → String
  | .error error, .error releaseError => s!"{error}; releasing USB interface also failed: {releaseError}"
  | .error error, .ok () => error
  | .ok (), .error releaseError =>
    s!"Android USB worker ended; interface release failed: {releaseError}"
  | .ok (), .ok () => "Android USB bulk worker ended unexpectedly"

/-- What `run_bulk_session` leaves in the status. -/
def BulkThread.settle (thread : BulkThread) (result release : Except String Unit)
    (status : UsbLinkStatus) : UsbLinkStatus :=
  if thread.cancelled then
    match release with
    | .error error =>
      { status with
        phase := .failed
        detail := s!"Android USB stopped, but releasing its interface failed: {error}" }
    | .ok () => { status with phase := .ready, detail := "Android USB bulk session stopped cleanly" }
  else { status with phase := .failed, detail := unexpectedEnd result release }

/-- `prepare` without a flag of the caller, `reconnect` with one. -/
inductive UsbCall where
  | prepare (cancellable : Bool)
  | disconnect
  | closeRuntimeSession
  deriving DecidableEq

/-- Where a call stands. It is named after what it does next. -/
inductive UsbCallPoint where
  | entered (cancellable : Bool)
  | taking (call : UsbCall)
  | stopping (call : UsbCall) (session : Nat)
  | joining (call : UsbCall) (session : Nat)
  | connecting (cancellable : Bool)
  | opening (cancellable : Bool)
  | opened (cancellable : Bool) (handle : Nat)
  | claiming (cancellable : Bool) (handle : Nat)
  | spawning (cancellable : Bool) (handle : Nat)
  | started (cancellable : Bool) (session : Nat)
  | installing (session : Nat)
  | discarding (session : Nat)
  | discarded (session : Nat)
  | cancelling
  | failing (error : String)
  | reading
  | closing (call : UsbCall)
  | returned (result : Except String Unit)
  deriving DecidableEq

/-- What a step of a call reads: the flag of the caller, the opened handle and the result of the spawn. -/
structure UsbCallInput where
  cancelled : Bool
  opened : Except String Nat
  spawned : Except String Unit
  deriving DecidableEq

inductive UsbManagerStep where
  | call (thread : Nat) (call : UsbCall)
  | advance (thread : Nat) (input : UsbCallInput)
  | count (session : Nat) (counters : LinkStatus)
  | pumpEnds (session : Nat) (result release : Except String Unit)
  | settles (session : Nat)
  | panics (session : Nat)

/-- `opened` and `closed` record the handles that the calls opened and those that were dropped. -/
structure UsbManager where
  session : Option Nat
  status : UsbLinkStatus
  workers : Nat → Option BulkThread
  calls : Nat → UsbCallPoint
  opened : List Nat
  closed : List Nat

namespace UsbManager

def initial : UsbManager where
  session := none
  status := .default
  workers _ := none
  calls _ := .returned (.ok ())
  opened := []
  closed := []

section Steps

variable (s : UsbManager) (thread : Nat)

def moveTo (point : UsbCallPoint) : UsbManager :=
  { s with calls := Function.update s.calls thread point }

@[simp] theorem moveTo_session (point : UsbCallPoint) : (s.moveTo thread point).session = s.session := rfl

@[simp] theorem moveTo_status (point : UsbCallPoint) : (s.moveTo thread point).status = s.status := rfl

@[simp] theorem moveTo_workers (point : UsbCallPoint) : (s.moveTo thread point).workers = s.workers := rfl

/-- The next point behind `stop_active_session`. -/
def stopped : UsbCall → UsbCallPoint
  | .prepare cancellable => .connecting cancellable
  | .disconnect => .reading
  | .closeRuntimeSession => .closing .closeRuntimeSession

def take (call : UsbCall) : UsbManager :=
  match s.session with
  | none => s.moveTo thread (stopped call)
  | some session => { s with session := none }.moveTo thread (.stopping call session)

def cancelWorker (session : Nat) : UsbManager :=
  { s with
    workers := Function.update s.workers session
      ((s.workers session).map fun worker => { worker with cancelled := true }) }

/-- `JoinHandle::join` of a session's worker, with whether it panicked. -/
def joined (session : Nat) : Option Bool :=
  match s.workers session with
  | some ⟨_, .finished⟩ => some false
  | some ⟨_, .panicked⟩ => some true
  | _ => none

def join (call : UsbCall) (session : Nat) : Option UsbManager :=
  match s.joined session with
  | none => none
  | some false => some (s.moveTo thread (stopped call))
  | some true =>
    some (s.moveTo thread (.returned (.error "Android USB bulk worker panicked while stopping")))

def drop (handle : Nat) : UsbManager := { s with closed := s.closed ++ [handle] }

def openAccessory (cancelled : Bool) (cancellable : Bool) : Except String Nat → Option UsbManager
  | .error error =>
    some (s.moveTo thread (if cancellable && cancelled then .cancelling else .failing error))
  | .ok handle =>
    if handle ∈ s.opened then none
    else some ({ s with opened := s.opened ++ [handle] }.moveTo thread (.opened cancellable handle))

def spawn (cancellable : Bool) (handle : Nat) : Except String Unit → UsbManager
  | .error error =>
    (s.drop handle).moveTo thread (.failing s!"failed to start Android USB bulk worker: {error}")
  | .ok () =>
    { s with workers := Function.update s.workers handle (some ⟨false, .pumping⟩) }.moveTo thread
      (.started cancellable handle)

def setStatus (status : UsbLinkStatus) : UsbManager := { s with status }

def closedStatus : UsbCall → UsbLinkStatus
  | .disconnect => .of .ready "Android USB session disconnected by the user"
  | _ => .of .ready "Android USB transport closed with the display session"

/-- One step of a call. -/
def advance (input : UsbCallInput) : Option UsbManager :=
  match s.calls thread with
  | .entered cancellable =>
    some (s.moveTo thread
      (if cancellable && input.cancelled then .cancelling else .taking (.prepare cancellable)))
  | .taking call => some (s.take thread call)
  | .stopping call session => some ((s.cancelWorker session).moveTo thread (.joining call session))
  | .joining call session => s.join thread call session
  | .connecting cancellable => some ((s.setStatus .connecting).moveTo thread (.opening cancellable))
  | .opening cancellable => s.openAccessory thread input.cancelled cancellable input.opened
  | .opened cancellable handle =>
    if cancellable && input.cancelled then some ((s.drop handle).moveTo thread .cancelling)
    else some (s.moveTo thread (.claiming cancellable handle))
  | .claiming cancellable handle =>
    some ((s.setStatus .claimed).moveTo thread (.spawning cancellable handle))
  | .spawning cancellable handle => some (s.spawn thread cancellable handle input.spawned)
  | .started cancellable session =>
    some (s.moveTo thread
      (if cancellable && input.cancelled then .discarding session else .installing session))
  | .installing session =>
    some ({ s with session := some session }.moveTo thread (.returned (.ok ())))
  | .discarding session => some ((s.cancelWorker session).moveTo thread (.discarded session))
  | .discarded session => (s.joined session).map fun _ => s.moveTo thread .cancelling
  | .cancelling =>
    some ((s.setStatus .cancelled).moveTo thread (.returned (.error reconnectCancelledDetail)))
  | .failing error =>
    some ((s.setStatus (.of .failed error)).moveTo thread (.returned (.error error)))
  | .reading =>
    some (s.moveTo thread
      (if s.status.phase = .failed then .returned (.error s.status.detail) else .closing .disconnect))
  | .closing call => some ((s.setStatus (closedStatus call)).moveTo thread (.returned (.ok ())))
  | .returned _ => none

def firstPoint : UsbCall → UsbCallPoint
  | .prepare cancellable => .entered cancellable
  | .disconnect => .taking .disconnect
  | .closeRuntimeSession => .taking .closeRuntimeSession

def next (step : UsbManagerStep) : Option UsbManager :=
  match step with
  | .call thread call =>
    match s.calls thread with
    | .returned _ => some (s.moveTo thread (firstPoint call))
    | _ => none
  | .advance thread input => s.advance thread input
  | .count session counters =>
    match s.workers session with
    | some ⟨_, .pumping⟩ => some (s.setStatus { s.status with counters })
    | _ => none
  | .pumpEnds session result release =>
    match s.workers session with
    | some ⟨cancelled, .pumping⟩ =>
      some { s with
        workers := Function.update s.workers session (some ⟨cancelled, .released result release⟩) }
    | _ => none
  | .settles session =>
    match s.workers session with
    | some ⟨cancelled, .released result release⟩ =>
      some { s.drop session with
        status := BulkThread.settle ⟨cancelled, .released result release⟩ result release s.status
        workers := Function.update s.workers session (some ⟨cancelled, .finished⟩) }
    | _ => none
  | .panics session =>
    match s.workers session with
    | some ⟨cancelled, .pumping⟩ =>
      some { s.drop session with
        workers := Function.update s.workers session (some ⟨cancelled, .panicked⟩) }
    | _ => none

end Steps

def machine : Machine UsbManager UsbManagerStep where
  step s step := s.next step

/-- `AccessorySession::is_connected`; a worker that panics leaves its endpoint connected. -/
def sessionConnected (s : UsbManager) : Bool :=
  match s.session.bind s.workers with
  | some ⟨_, .pumping⟩ | some ⟨_, .panicked⟩ => true
  | _ => false

def runtimeStatus (s : UsbManager) : Option (UsbLinkState × String) :=
  let counters := s.status.counters
  if s.status.phase = .ready &&
      s.status.detail = "Android USB has not been connected in this app session" then
    none
  else if s.sessionConnected && s.status.phase = .connected then
    some (s.status.phase, s!"{s.status.detail}; received {counters.framesRead} frames / " ++
      s!"{counters.bytesRead} bytes, sent {counters.framesWritten} frames / " ++
      s!"{counters.bytesWritten} bytes")
  else some (s.status.phase, s.status.detail)

end UsbManager

end LadoFlow.Host
