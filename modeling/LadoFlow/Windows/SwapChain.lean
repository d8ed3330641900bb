import LadoFlow.Windows.DisplayService

/-!
# Swap chains of the virtual monitor

IddCx hands a swap chain to the monitor object, and a thread of its own serves that swap chain until it is
told to stop or the swap chain ends. The callbacks of the monitor come one at a time; a callback that lets a
processor go waits for its thread.
-/

namespace LadoFlow.Windows

def ePending : Int32 := (0x8000000A : UInt32).toInt32
def statusSuccess : Int32 := 0
def statusInvalidDeviceState : Int32 := (0xC0000184 : UInt32).toInt32
def statusInsufficientResources : Int32 := (0xC000009A : UInt32).toInt32
def waitObject0 : UInt32 := 0
def waitTimeout : UInt32 := 258

inductive MonitorCallback (α : Type) where
  | assignSwapChain (chain : α)
  | unassignSwapChain
  | cleanup
  deriving DecidableEq

/-- What crosses the border to IddCx. A handle is empty where the driver passes a null handle. -/
inductive SwapChainEvent (α : Type) where
  | given (chain : α)
  | setDevice (handle : Option α) (result : Int32)
  | releaseAndAcquireBuffer (handle : Option α) (result : Int32)
  | finishedProcessingFrame (handle : Option α) (result : Int32)
  | delete (handle : Option α)
  | returned (callback : MonitorCallback α) (status : Int32)
  deriving DecidableEq

/-- Where the thread of a processor stands: before the query for the device, before a call on the swap
chain, before the return of the wait, behind `ProcessFrames`, or returned. -/
inductive ProcessorPoint where
  | query
  | setDevice
  | acquire
  | wait
  | finish
  | exit
  | returned
  deriving DecidableEq

inductive ProcessorStep where
  | queryInterface (result : Int32)
  | setDevice (result : Int32)
  | releaseAndAcquireBuffer (result : Int32)
  | waitForMultipleObjects (result : UInt32)
  | finishedProcessingFrame (result : Int32)
  | deleteSwapChain

structure SwapChainProcessor (α : Type) where
  swapChain : Option α
  stopEvent : Bool
  framesProcessed : UInt64
  point : ProcessorPoint
  deriving DecidableEq

namespace SwapChainProcessor

variable {α : Type} (p : SwapChainProcessor α)

def start (chain : α) : SwapChainProcessor α where
  swapChain := some chain
  stopEvent := false
  framesProcessed := 0
  point := .query

/-- The step of the thread with what it calls. The wait reports the stop event only when it is set. -/
def next (step : ProcessorStep) : Option (SwapChainProcessor α × List (SwapChainEvent α)) :=
  match p.point, step with
  | .query, .queryInterface result =>
    some ({ p with point := if failed result then .exit else .setDevice }, [])
  | .setDevice, .setDevice result =>
    some ({ p with point := if failed result then .exit else .acquire }, [.setDevice p.swapChain result])
  | .acquire, .releaseAndAcquireBuffer result =>
    some
      ({ p with point := if result = ePending then .wait else if failed result then .exit else .finish },
        [.releaseAndAcquireBuffer p.swapChain result])
  | .wait, .waitForMultipleObjects result =>
    if result = waitObject0 || result = waitTimeout then some ({ p with point := .acquire }, [])
    else if result = waitObject0 + 1 && !p.stopEvent then none
    else some ({ p with point := .exit }, [])
  | .finish, .finishedProcessingFrame result =>
    if failed result then
      some ({ p with point := .exit }, [.finishedProcessingFrame p.swapChain result])
    else
      some
        ({ p with framesProcessed := p.framesProcessed + 1, point := .acquire },
          [.finishedProcessingFrame p.swapChain result])
  | .exit, .deleteSwapChain =>
    match p.swapChain with
    | none => some ({ p with point := .returned }, [])
    | some chain => some ({ p with swapChain := none, point := .returned }, [.delete (some chain)])
  | _, _ => none

end SwapChainProcessor

/-- `Direct3DDevice::Initialize` from the results of its calls. -/
def Direct3DDevice.initialize (createFactory enumAdapter createDevice : Int32) : Int32 :=
  if failed createFactory then createFactory
  else if failed enumAdapter then enumAdapter
  else createDevice

/-- How the calls of `AssignSwapChain` come out. -/
structure ProcessorStart where
  deviceAllocated : Bool
  createFactory : Int32
  enumAdapter : Int32
  createDevice : Int32
  processorAllocated : Bool
  stopEventCreated : Bool
  threadCreated : Bool
  deriving DecidableEq

/-- The part of `AssignSwapChain` behind `UnassignSwapChain`: the processor with its running thread, or the
status of the failure. -/
def ProcessorStart.run {α : Type} (calls : ProcessorStart) (chain : α) :
    Except Int32 (SwapChainProcessor α) :=
  if calls.deviceAllocated then
    let result :=
      Direct3DDevice.initialize calls.createFactory calls.enumAdapter calls.createDevice
    if failed result then .error result
    else if calls.processorAllocated && calls.stopEventCreated && calls.threadCreated then
      .ok (.start chain)
    else .error statusInsufficientResources
  else .error statusInsufficientResources

/-- Where the callback of the monitor stands: none runs, it waits for the thread of the processor that it
lets go, it is about to start a processor, or it is about to return. -/
inductive CallbackPoint (α : Type) where
  | idle
  | joining (callback : MonitorCallback α)
  | starting (chain : α)
  | returning (callback : MonitorCallback α) (status : Int32)
  deriving DecidableEq

/-- The monitor object; `context` says that its wrapper still holds a `MonitorContext`. -/
structure MonitorContext (α : Type) where
  context : Bool
  processor : Option (SwapChainProcessor α)
  running : CallbackPoint α
  deriving DecidableEq

inductive MonitorStep (α : Type) where
  | call (callback : MonitorCallback α)
  | joined
  | start (calls : ProcessorStart)
  | return
  | processor (step : ProcessorStep)

namespace MonitorContext

variable {α : Type} (s : MonitorContext α)

def initial : MonitorContext α where
  context := true
  processor := none
  running := .idle

/-- What a callback does once the old processor is gone. -/
def released (callback : MonitorCallback α) : MonitorContext α :=
  match callback with
  | .assignSwapChain chain => { s with processor := none, running := .starting chain }
  | .unassignSwapChain => { s with processor := none, running := .returning callback statusSuccess }
  | .cleanup =>
    { s with context := false, processor := none, running := .returning callback statusSuccess }

/-- `m_processor.reset()` up to the wait for the thread. -/
def unassignSwapChain (callback : MonitorCallback α) : MonitorContext α :=
  match s.processor with
  | none => s.released callback
  | some p =>
    { s with processor := some { p with stopEvent := true }, running := .joining callback }

/-- A callback reaches the driver. -/
def call (callback : MonitorCallback α) : MonitorContext α × List (SwapChainEvent α) :=
  match callback with
  | .assignSwapChain chain =>
    if s.context then (s.unassignSwapChain callback, [.given chain])
    else
      ({ s with running := .returning callback statusInvalidDeviceState },
        [.given chain, .delete (some chain)])
  | .unassignSwapChain | .cleanup =>
    if s.context then (s.unassignSwapChain callback, [])
    else ({ s with running := .returning callback statusSuccess }, [])

/-- The rest of `AssignSwapChain`. -/
def start (calls : ProcessorStart) (chain : α) : MonitorContext α × List (SwapChainEvent α) :=
  match calls.run chain with
  | .ok p =>
    ({ s with processor := some p, running := .returning (.assignSwapChain chain) statusSuccess }, [])
  | .error status =>
    ({ s with running := .returning (.assignSwapChain chain) status }, [.delete (some chain)])

def next (step : MonitorStep α) : Option (MonitorContext α × List (SwapChainEvent α)) :=
  match step with
  | .call callback => if s.running matches .idle then some (s.call callback) else none
  | .joined =>
    match s.running, s.processor with
    | .joining callback, some p =>
      if p.point = .returned then some (s.released callback, []) else none
    | _, _ => none
  | .start calls =>
    match s.running with
    | .starting chain => some (s.start calls chain)
    | _ => none
  | .return =>
    match s.running with
    | .returning callback status => some ({ s with running := .idle }, [.returned callback status])
    | _ => none
  | .processor step =>
    match s.processor with
    | none => none
    | some p => (p.next step).map fun moved => ({ s with processor := some moved.1 }, moved.2)

end MonitorContext

end LadoFlow.Windows
