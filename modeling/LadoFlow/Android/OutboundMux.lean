import LadoFlow.Android.SessionOutboundMux
import LadoFlow.Framework.Machine
import LadoFlow.Framework.Trace
import Mathlib.Data.Finset.Card

/-!
# The outbound writer, one channel operation at a time

`SessionOutboundMux` with a step for every operation on a channel: the senders, the priority scan of
the three lanes, the select that waits for any of them, and the call of `sendFrame`. The log records
what enters a lane and what the writer does.
-/

namespace LadoFlow.Android

open Framework

inductive OutboundLane where
  | control
  | criticalInput
  | coalescibleInput
  deriving DecidableEq, Repr

inductive ChannelResult (α : Type) where
  | value (payload : α)
  | failed
  | closed

/-- A buffered channel. The senders that found it full wait in order. -/
structure OutboundChannel (α : Type) where
  capacity : Nat
  buffer : List α
  suspended : List α
  closed : Bool

namespace OutboundChannel

variable {α : Type}

def new (capacity : Nat) : OutboundChannel α := ⟨capacity, [], [], false⟩

def hasRoom (channel : OutboundChannel α) : Bool :=
  !channel.closed && decide (channel.buffer.length < channel.capacity)

/-- A send on a closed channel throws; one on a full channel waits. -/
def send (channel : OutboundChannel α) (payload : α) : OutboundChannel α :=
  if channel.closed then channel
  else if channel.buffer.length < channel.capacity then
    { channel with buffer := channel.buffer ++ [payload] }
  else { channel with suspended := channel.suspended ++ [payload] }

def trySend (channel : OutboundChannel α) (payload : α) : Bool × OutboundChannel α :=
  if channel.hasRoom then (true, { channel with buffer := channel.buffer ++ [payload] })
  else (false, channel)

/-- A waiting sender is cancelled. -/
def cancelSend (channel : OutboundChannel α) (index : Nat) : OutboundChannel α :=
  { channel with suspended := channel.suspended.eraseIdx index }

def close (channel : OutboundChannel α) : OutboundChannel α := { channel with closed := true }

/-- A receive makes room for the first waiting sender. A closed channel still delivers what it
holds. -/
def tryReceive (channel : OutboundChannel α) : ChannelResult α × OutboundChannel α :=
  match channel.buffer with
  | payload :: buffer =>
    (.value payload,
      { channel with
        buffer := buffer ++ channel.suspended.take 1
        suspended := channel.suspended.drop 1 })
  | [] => (if channel.closed then .closed else .failed, channel)

end OutboundChannel

/-- How a call of `sendFrame` ends. -/
inductive SendOutcome where
  | written
  | refused
  | threw (message : Option String)
  | cancelled
  deriving DecidableEq, Repr

/-- Where the write loop stands: in the scan of `receiveNext`, in its select, with a payload in hand,
in `sendFrame`, or ended with the reason it gave to `onSendFailure`. -/
inductive WriterPoint (α : Type) where
  | scan (lane : OutboundLane) (closedLanes : Finset OutboundLane)
  | select (closedLanes : Finset OutboundLane)
  | received (lane : OutboundLane) (payload : α)
  | sending
  | stopped (failure : Option String)

inductive OutboundEvent (α : Type) where
  | accepted (lane : OutboundLane) (payload : α)
  | passedOver (lane : OutboundLane)
  | scanned (lane : OutboundLane) (payload : α)
  | selected (lane : OutboundLane) (payload : α)
  | passed (lane : OutboundLane) (payload : α) (frame : LdflFrame)
  | returned (outcome : SendOutcome)

inductive OutboundTurn (α : Type) where
  | sendControl (payload : α)
  | sendCriticalInput (payload : α)
  | trySendCoalescibleInput (payload : α)
  | cancelSend (lane : OutboundLane) (index : Nat)
  | close (lane : OutboundLane)
  | receiveAvailable
  | select (lane : OutboundLane)
  | frame
  | sendFrame (outcome : SendOutcome)
  | cancelled

structure OutboundMux (α : Type) where
  lanes : OutboundLane → OutboundChannel α
  nextSequence : UInt64
  sequenceExhausted : Bool
  point : WriterPoint α

/-- The mux with what happened to it. -/
structure OutboundHistory (α : Type) where
  mux : OutboundMux α
  log : List (OutboundEvent α)

def defaultCapacity : OutboundLane → Nat
  | .control => 32
  | .criticalInput => 64
  | .coalescibleInput => coalescibleInputCapacity

namespace OutboundMux

variable {α : Type}

def new (capacity : OutboundLane → Nat) : OutboundMux α where
  lanes lane := .new (capacity lane)
  nextSequence := 0
  sequenceExhausted := false
  point := .scan .control ∅

def setLane (mux : OutboundMux α) (lane : OutboundLane) (channel : OutboundChannel α) :
    OutboundMux α :=
  { mux with lanes := Function.update mux.lanes lane channel }

def send (mux : OutboundMux α) (lane : OutboundLane) (payload : α) :
    OutboundMux α × List (OutboundEvent α) :=
  (mux.setLane lane ((mux.lanes lane).send payload),
    if (mux.lanes lane).hasRoom then [.accepted lane payload] else [])

def trySendCoalescibleInput (mux : OutboundMux α) (payload : α) :
    OutboundMux α × List (OutboundEvent α) :=
  match (mux.lanes .coalescibleInput).trySend payload with
  | (true, channel) =>
    (mux.setLane .coalescibleInput channel, [.accepted .coalescibleInput payload])
  | (false, _) => (mux, [])

/-- The waiting sender that a receive lets into the lane. -/
def resumed (mux : OutboundMux α) (lane : OutboundLane) : List (OutboundEvent α) :=
  ((mux.lanes lane).suspended.take 1).map (.accepted lane)

/-- The scan goes on with the next lane, and ends in the select unless every lane is closed. -/
def afterScan (closedLanes : Finset OutboundLane) : OutboundLane → WriterPoint α
  | .control => .scan .criticalInput closedLanes
  | .criticalInput => .scan .coalescibleInput closedLanes
  | .coalescibleInput => if closedLanes.card = 3 then .stopped none else .select closedLanes

def receiveAvailable (mux : OutboundMux α) (lane : OutboundLane)
    (closedLanes : Finset OutboundLane) : OutboundMux α × List (OutboundEvent α) :=
  if lane ∈ closedLanes then ({ mux with point := afterScan closedLanes lane }, [.passedOver lane])
  else
  match (mux.lanes lane).tryReceive with
  | (.value payload, channel) =>
    ({ mux.setLane lane channel with point := .received lane payload },
      .scanned lane payload :: mux.resumed lane)
  | (.closed, _) =>
    ({ mux with point := afterScan (insert lane closedLanes) lane }, [.passedOver lane])
  | (.failed, _) => ({ mux with point := afterScan closedLanes lane }, [.passedOver lane])

/-- The select completes with one of its lanes: with a payload, or because the lane is closed. -/
def select (mux : OutboundMux α) (lane : OutboundLane) (closedLanes : Finset OutboundLane) :
    Option (OutboundMux α × List (OutboundEvent α)) :=
  if lane ∈ closedLanes then none
  else
  match (mux.lanes lane).tryReceive with
  | (.value payload, channel) =>
    some ({ mux.setLane lane channel with point := .received lane payload },
      .selected lane payload :: mux.resumed lane)
  | (.closed, _) => some ({ mux with point := .scan .control (insert lane closedLanes) }, [])
  | (.failed, _) => none

/-- The last sequence is used once. -/
def advanceSequence (mux : OutboundMux α) : OutboundMux α :=
  if mux.nextSequence = 0xFFFFFFFFFFFFFFFF then { mux with sequenceExhausted := true }
  else { mux with nextSequence := mux.nextSequence + 1 }

/-- The turn of `writeLoop` from the received payload to the call of `sendFrame`. -/
def frame (framed : α → OutboundPayload) (mux : OutboundMux α) (lane : OutboundLane) (payload : α) :
    OutboundMux α × List (OutboundEvent α) :=
  if mux.sequenceExhausted then
    ({ mux with point := .stopped (some "LDFL sender sequence exhausted") }, [])
  else
  let sequence := mux.nextSequence
  let mux := mux.advanceSequence
  match LdflFrame.fromPayload (framed payload).flags sequence (framed payload).payload with
  | .ok frame => ({ mux with point := .sending }, [.passed lane payload frame])
  | .error exception => ({ mux with point := .stopped (some exception.message) }, [])

def sent : SendOutcome → WriterPoint α
  | .written => .scan .control ∅
  | .refused => .stopped (some "USB session closed before an outbound LDFL frame was written")
  | .threw message => .stopped (some (message.getD "Outbound LDFL writer failed"))
  | .cancelled => .stopped none

def step (framed : α → OutboundPayload) (mux : OutboundMux α) :
    OutboundTurn α → Option (OutboundMux α × List (OutboundEvent α))
  | .sendControl payload => some (mux.send .control payload)
  | .sendCriticalInput payload => some (mux.send .criticalInput payload)
  | .trySendCoalescibleInput payload => some (mux.trySendCoalescibleInput payload)
  | .cancelSend lane index => some (mux.setLane lane ((mux.lanes lane).cancelSend index), [])
  | .close lane => some (mux.setLane lane (mux.lanes lane).close, [])
  | .receiveAvailable =>
    match mux.point with
    | .scan lane closedLanes => some (mux.receiveAvailable lane closedLanes)
    | _ => none
  | .select lane =>
    match mux.point with
    | .select closedLanes => mux.select lane closedLanes
    | _ => none
  | .frame =>
    match mux.point with
    | .received lane payload => some (mux.frame framed lane payload)
    | _ => none
  | .sendFrame outcome =>
    match mux.point with
    | .sending => some ({ mux with point := sent outcome }, [.returned outcome])
    | _ => none
  | .cancelled =>
    match mux.point with
    | .select _ => some ({ mux with point := .stopped none }, [])
    | _ => none

end OutboundMux

namespace OutboundHistory

variable {α : Type}

def start (capacity : OutboundLane → Nat) : OutboundHistory α := ⟨.new capacity, []⟩

def step (framed : α → OutboundPayload) (s : OutboundHistory α) (turn : OutboundTurn α) :
    Option (OutboundHistory α) :=
  match s.mux.step framed turn with
  | some (mux, events) => some ⟨mux, s.log ++ events⟩
  | none => none

def machine (framed : α → OutboundPayload) : Machine (OutboundHistory α) (OutboundTurn α) :=
  ⟨step framed⟩

end OutboundHistory

end LadoFlow.Android
