import LadoFlow.Framework.Machine
import LadoFlow.Framework.Codec
import LadoFlow.Host.AccessUnit
import LadoFlow.Host.SharedState
import Mathlib.Data.List.Infix

/-!
# The hardware encoder of the capture

A texture goes into the transform when it asks for one, and the call waits for an access unit that is not
older. What the transform, its events and the clock answer are the labels.
-/

namespace LadoFlow.Host

open Framework LadoFlow.Core

/-- How `ProcessOutput` answers; a change of the stream comes with the renegotiation of its type. -/
inductive ProcessOutput where
  | sample (sample : Option MediaSample)
  | needMoreInput
  | streamChange (renegotiated : Except String Unit)
  | failed (error : String)

structure OutputCall where
  /-- whether the transform provides the sample -/
  streamInfo : Except String Bool
  outputSample : Except String Unit
  processOutput : ProcessOutput

def takeOutput (call : OutputCall) : Except String (Option EncodedAccessUnit) := do
  let providesSamples ← call.streamInfo.mapError fun error =>
    "failed to query encoder output buffer requirements: " ++ error
  if !providesSamples then call.outputSample
  match call.processOutput with
  | .needMoreInput => throw "encoder needs more input"
  | .streamChange renegotiated =>
    let _ ← renegotiated
    return none
  | .failed error => throw ("failed to receive encoder output: " ++ error)
  | .sample none => return none
  | .sample (some sample) => return some (← sample.readAccessUnit)

/-- What `GetEvent` gives, and what the event says. -/
inductive EncoderEvent where
  | noEvents
  | notPolled (error : String)
  | statusNotRead (error : String)
  | failedStatus (error : String)
  | typeNotRead (error : String)
  | needInput
  | haveOutput (call : OutputCall)
  | other

/-- Where a call of `encode_texture` stands. -/
inductive EncoderPoint where
  | idle
  | awaitingInput (timestamp100ns : Int64)
  | awaitingOutput (timestamp100ns : Int64)
  | takingOutputs (outputs : List EncodedAccessUnit)
  | failed (error : String)
  deriving DecidableEq

/-- The state of the encoder, with the access units taken from the transform, the results of the calls with
their timestamps, and the numbers of the requests for input and of the inputs. -/
structure HardwareEncoder where
  asynchronous : Bool
  inputReady : Bool
  pendingOutputs : List EncodedAccessUnit
  point : EncoderPoint
  taken : List EncodedAccessUnit
  returned : List (Option Int64 × List EncodedAccessUnit)
  requests : Nat
  inputs : Nat
  deriving DecidableEq

inductive EncoderTurn where
  | encodeTexture (sample : Except String Unit) (timestamp100ns : Int64)
  | pump (late : Bool) (event : EncoderEvent)
  | processInput (result : Except String Unit)
  | takeOutput (call : OutputCall)

namespace HardwareEncoder

def start (asynchronous : Bool) : HardwareEncoder where
  asynchronous
  inputReady := !asynchronous
  pendingOutputs := []
  point := .idle
  taken := []
  returned := []
  requests := 0
  inputs := 0

section Steps

variable (s : HardwareEncoder)

def fail (error : String) : HardwareEncoder := { s with point := .failed error }

/-- An output without bytes is not kept. -/
def keep (outputs : List EncodedAccessUnit) : Option EncodedAccessUnit → List EncodedAccessUnit
  | none => outputs
  | some output => if output.bytes.isEmpty then outputs else outputs ++ [output]

def pumpEvent : EncoderEvent → Except String HardwareEncoder
  | .noEvents => .ok s
  | .notPolled error => .error ("failed to poll real-time encoder event: " ++ error)
  | .statusNotRead error => .error ("failed to read real-time encoder event status: " ++ error)
  | .failedStatus error => .error ("real-time encoder event failed: " ++ error)
  | .typeNotRead error => .error ("failed to read real-time encoder event type: " ++ error)
  | .needInput => .ok { s with inputReady := true, requests := s.requests + 1 }
  | .haveOutput call => do
    let output ← Host.takeOutput call
    return { s with pendingOutputs := keep s.pendingOutputs output, taken := keep s.taken output }
  | .other => .ok s

def pumpStreamEvent (late : Bool) (event : EncoderEvent) : Except String HardwareEncoder :=
  if late then .error "real-time H.264 encoder event timed out" else s.pumpEvent event

def reaches (timestamp100ns : Int64) (unit : EncodedAccessUnit) : Bool :=
  unit.timestamp100ns.any (timestamp100ns ≤ ·)

/-- The call ends with these units. -/
def finish (timestamp100ns : Option Int64) (units : List EncodedAccessUnit) : HardwareEncoder :=
  { s with point := .idle, returned := s.returned ++ [(timestamp100ns, units)] }

/-- The outputs are looked at behind every event that is awaited for them. -/
def awaitOutput (timestamp100ns : Int64) : HardwareEncoder :=
  if s.pendingOutputs.any (reaches timestamp100ns) then
    { s.finish (some timestamp100ns) s.pendingOutputs with pendingOutputs := [] }
  else s

def needsMoreInput (error : String) : Bool := "needs more input".toList <:+: error.toList

def step : EncoderTurn → Option HardwareEncoder
  | .encodeTexture sample timestamp100ns =>
    match s.point, sample with
    | .idle, .error error => some (s.fail error)
    | .idle, .ok _ => some { s with point := .awaitingInput timestamp100ns }
    | _, _ => none
  | .pump late event =>
    match s.point, s.pumpStreamEvent late event with
    | .awaitingInput _, .error error => if s.inputReady then none else some (s.fail error)
    | .awaitingInput _, .ok pumped => if s.inputReady then none else some pumped
    | .awaitingOutput _, .error error => some (s.fail error)
    | .awaitingOutput timestamp100ns, .ok pumped => some (pumped.awaitOutput timestamp100ns)
    | _, _ => none
  | .processInput result =>
    match s.point, result with
    | .awaitingInput _, .error error =>
      if s.inputReady then some (s.fail ("real-time encoder rejected NV12 texture: " ++ error)) else none
    | .awaitingInput timestamp100ns, .ok _ =>
      if !s.inputReady then none
      else if s.asynchronous then
        some { s with inputReady := false, inputs := s.inputs + 1, point := .awaitingOutput timestamp100ns }
      else some { s with inputs := s.inputs + 1, point := .takingOutputs [] }
    | _, _ => none
  | .takeOutput call =>
    match s.point, Host.takeOutput call with
    | .takingOutputs outputs, .ok output =>
      some { s with point := .takingOutputs (keep outputs output), taken := keep s.taken output }
    | .takingOutputs outputs, .error error =>
      some (if needsMoreInput error then s.finish none outputs else s.fail error)
    | _, _ => none

end Steps

def machine : Machine HardwareEncoder EncoderTurn := ⟨step⟩

end HardwareEncoder

/-- `media_time_to_duration` -/
def mediaTimeToDuration (value100ns : Int64) (allowZero : Bool) (field : String) :
    Except String Duration :=
  if value100ns < 0 ∨ (!allowZero && value100ns == 0) then
    .error ("Windows H.264 access-unit " ++ field ++ " must be " ++
      (if allowZero then "non-negative" else "positive"))
  else
    let nanoseconds := value100ns.toInt.toNat * 100
    if nanoseconds < 2 ^ 64 then .ok (.ofNanos nanoseconds)
    else .error ("Windows H.264 access-unit " ++ field ++ " is out of range")

structure H264StreamBatch where
  encoderName : String
  accessUnits : List H264AccessUnit
  deriving DecidableEq

/-- One unit, behind the timestamp of the one before it. -/
def convertAccessUnit (previousTimestamp : Option Duration) (unit : EncodedAccessUnit) :
    Except String H264AccessUnit := do
  if unit.bytes.isEmpty then throw "Windows H.264 encoder returned an empty access unit"
  let timestamp ← mediaTimeToDuration
    (← unit.timestamp100ns.elim (throw "Windows H.264 access unit has no timestamp") pure) true "timestamp"
  let duration ← mediaTimeToDuration
    (← unit.duration100ns.elim (throw "Windows H.264 access unit has no duration") pure) false "duration"
  if previousTimestamp.any (timestamp.nanos < ·.nanos) then
    throw "Windows H.264 access-unit timestamps moved backwards"
  return { bytes := unit.bytes, timestamp, duration, keyframe := unit.keyframe }

def convertAccessUnits (previousTimestamp : Option Duration) :
    List EncodedAccessUnit → Except String (List H264AccessUnit)
  | [] => .ok []
  | unit :: encoded => do
    let accessUnit ← convertAccessUnit previousTimestamp unit
    return accessUnit :: (← convertAccessUnits (some accessUnit.timestamp) encoded)

def convertH264AccessUnits (encoderName : String) (encoded : List EncodedAccessUnit) :
    Except String H264StreamBatch := do
  if encoded.isEmpty then throw "Windows H.264 encoder returned an empty access-unit batch"
  return ⟨encoderName, ← convertAccessUnits none encoded⟩

end LadoFlow.Host
