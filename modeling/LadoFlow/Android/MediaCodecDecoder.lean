import LadoFlow.Android.DecoderPipeline
import LadoFlow.Android.VideoDecoder

/-!
# The MediaCodec decoder

`AndroidMediaCodecVideoDecoder` as a queue of Handler tasks. Callers post tasks and reserve slots
of the in-flight window; one codec thread runs the tasks in order. What MediaCodec answers during
a task is a parameter of that task.
-/

namespace LadoFlow.Android

open Framework
open Protocol (MessageType VideoCodec)

/-- `MediaCodec.BufferInfo` -/
structure BufferInfo where
  flags : UInt32
  size : Int32
  presentationTimeUs : Int64
  deriving DecidableEq

namespace BufferInfo

def codecConfig (info : BufferInfo) : Bool := info.flags &&& 2 ≠ 0

def endOfStream (info : BufferInfo) : Bool := info.flags &&& 4 ≠ 0

def render (info : BufferInfo) : Bool := !info.codecConfig && info.size > 0

end BufferInfo

/-- The message of a caught exception. -/
abbrev CodecException := Option String

/-- What MediaCodec and the clock answer while one Handler task runs. -/
structure CodecPlatform where
  /-- Codec selection, creation and `configure`. -/
  configure : DisplayConfigPayload → H264ParameterSets → Nat →
    Except CodecException VideoDecoderBackend
  start : Except CodecException Unit
  /-- The remaining bytes of an input buffer. -/
  getInputBuffer : Nat → Except CodecException (Option Nat)
  queueInputBuffer : Nat → H264DecoderInput → Except CodecException Unit
  releaseOutputBuffer : Nat → Bool → Except CodecException Unit
  nanoTime : Nat → Int64

/-- Copy one access unit into an input buffer and queue it. -/
def CodecPlatform.queueInput (platform : CodecPlatform) (index : Nat) (input : H264DecoderInput) :
    Except CodecException Unit := do
  match ← platform.getInputBuffer index with
  | none => .error (some "MediaCodec returned no input buffer")
  | some remaining =>
    if input.accessUnit.length > remaining then
      .error (some (s!"Encoded access unit is {input.accessUnit.length} bytes but codec input " ++
        s!"capacity is {remaining} bytes"))
    else platform.queueInputBuffer index input

/-- A platform on which every MediaCodec call succeeds. -/
def CodecPlatform.working : CodecPlatform where
  configure _ _ _ := .ok ⟨"c2.android.avc.decoder", .reportedSoftware, false⟩
  start := .ok ()
  getInputBuffer _ := .ok (some 65536)
  queueInputBuffer _ _ := .ok ()
  releaseOutputBuffer _ _ := .ok ()
  nanoTime _ := 0

/-- `queueInputBuffer` throws. -/
def CodecPlatform.refusingInput : CodecPlatform :=
  { CodecPlatform.working with queueInputBuffer := fun _ _ => .error none }

inductive HandlerTask where
  | setOutputSurface (surface : Option Nat)
  | applyConfiguration (configuration : DisplayConfigPayload)
  | frame (submission : Nat) (frame : LdflFrame)
  | reset (reason : String)
  | overflowRecovery
  | close
  | inputBufferAvailable (codec index : Nat)
  | outputBufferAvailable (codec index : Nat) (info : BufferInfo)
  | outputFormatChanged (codec : Nat) (width height : Option Int32)
  | codecError (codec : Nat) (diagnosticInfo : String)
  deriving DecidableEq

namespace HandlerTask

def isFrame : HandlerTask → Bool
  | frame .. => true
  | _ => false

/-- Tasks that MediaCodec posts. -/
def isCodecCallback : HandlerTask → Bool
  | inputBufferAvailable .. | outputBufferAvailable .. | outputFormatChanged .. | codecError .. =>
    true
  | _ => false

end HandlerTask

/-- What happens to an access unit, by the position of its frame among the submitted ones. -/
inductive PipelineEvent where
  | enqueued (submission : Nat) (isKeyframe : Bool)
  | releasedToSurface (submission : Nat)
  deriving DecidableEq

/-- The running codec; its backend and its free input buffers come and go with it. -/
structure ActiveCodec where
  codec : Nat
  backend : VideoDecoderBackend
  availableInputBuffers : List Nat
  deriving DecidableEq

/-- Surfaces and codecs are identities. The last two fields are history that the source does not
store: how many frames were submitted, and the pipeline events so far. -/
structure AndroidMediaCodecVideoDecoder where
  closed : Bool
  looperQuit : Bool
  tasks : List HandlerTask
  gate : H264FrameGate
  inFlightWindow : DecoderInFlightWindow
  pipeline : DecoderPipelineLedger
  state : VideoDecoderState
  metrics : VideoDecoderMetrics
  events : List VideoDecoderEvent
  outputSurface : Option Nat
  configuration : Option DisplayConfigPayload
  activeCodec : Option ActiveCodec
  createdCodecs : Nat
  consecutiveCodecFailures : Int32
  submissionOverflowPending : Bool
  submissions : Nat
  history : List PipelineEvent

def maxConsecutiveCodecFailures : Int32 := 3

/-- `extraBufferCapacity` of the event flow, which drops its oldest event when full. -/
def eventBufferCapacity : Nat := 64

def VideoCodec.name : VideoCodec → String
  | .h264 => "H264"
  | .hevc => "Hevc"
  | .av1 => "Av1"

def DecoderDropReason.countsAsVideoDrop : DecoderDropReason → Bool
  | unexpectedMessageType | parameterSetsOnly => false
  | _ => true

namespace AndroidMediaCodecVideoDecoder

def new (maxInFlightAccessUnits : Nat) (h : 0 < maxInFlightAccessUnits) :
    AndroidMediaCodecVideoDecoder where
  closed := false
  looperQuit := false
  tasks := []
  gate := .new
  inFlightWindow := ⟨maxInFlightAccessUnits, h, 0⟩
  pipeline := .new maxInFlightAccessUnits h
  state := .idle
  metrics := .zero
  events := []
  outputSurface := none
  configuration := none
  activeCodec := none
  createdCodecs := 0
  consecutiveCodecFailures := 0
  submissionOverflowPending := false
  submissions := 0
  history := []

/-- Handler tasks of submitted frames that have not run yet. -/
def frameTasks (d : AndroidMediaCodecVideoDecoder) : Nat := d.tasks.countP (·.isFrame)

section Publishing

variable (d : AndroidMediaCodecVideoDecoder)

def emit (event : VideoDecoderEvent) : AndroidMediaCodecVideoDecoder :=
  let events := d.events ++ [event]
  { d with events := events.drop (events.length - eventBufferCapacity) }

def warn (message : Option String) : AndroidMediaCodecVideoDecoder :=
  match message with
  | some message => d.emit (.warning message)
  | none => d

def updateQueueDepth : AndroidMediaCodecVideoDecoder :=
  { d with metrics := { d.metrics with queueDepth := d.inFlightWindow.depth.toNat } }

def releaseInFlight (count : Nat) : AndroidMediaCodecVideoDecoder :=
  { d with inFlightWindow := d.inFlightWindow.release count }.updateQueueDepth

def drop (frameId : Option UInt64) (reason : DecoderDropReason) (detail : String) (count : Nat) :
    AndroidMediaCodecVideoDecoder :=
  { d with
    metrics :=
      if count > 0 then
        { d.metrics with
          droppedFrames := saturatingAddLong d.metrics.droppedFrames count
          queueDepth := d.inFlightWindow.depth.toNat }
      else d.metrics }.emit (.frameDropped frameId reason detail count)

def recordOutput (output : CorrelatedDecoderOutput) : AndroidMediaCodecVideoDecoder :=
  { d with
    consecutiveCodecFailures := 0
    metrics := { d.metrics with
      outputsReleasedToSurface := saturatingAddLong d.metrics.outputsReleasedToSurface 1
      queueDepth := d.inFlightWindow.depth.toNat
      lastReleasedFrameId := some output.frameId
      lastDecodeDurationMicros := some output.decodeDurationMicros } }

/-- Drop the codec and everything in the pipeline; the count is `pipeline.depth` before. -/
def releaseCodec : AndroidMediaCodecVideoDecoder :=
  { d with activeCodec := none, pipeline := d.pipeline.discardAll }.releaseInFlight
    d.pipeline.depth

def discardCodecPipeline (reason : DecoderDropReason) (detail : String) :
    AndroidMediaCodecVideoDecoder :=
  let discarded := d.pipeline.depth
  let d := d.releaseCodec
  if discarded > 0 then d.drop none reason detail discarded else d

def handleCodecFailure (message : String) (reason : DecoderDropReason)
    (additionallyDropped : Nat) : AndroidMediaCodecVideoDecoder :=
  let discarded := d.pipeline.depth + additionallyDropped
  let d := d.releaseCodec
  let d := d.drop none reason message discarded
  let d := { d with gate := d.gate.awaitNextKeyframe }.emit (.failure message)
  let d := { d with consecutiveCodecFailures := d.consecutiveCodecFailures + 1 }
  { d with
    state :=
      match decide (d.consecutiveCodecFailures ≤ maxConsecutiveCodecFailures), d.configuration,
          d.outputSurface with
      | true, some configuration, some _ =>
        .recovering configuration d.consecutiveCodecFailures message
      | _, _, _ => .failed message false }

end Publishing

section Tasks

variable (platform : CodecPlatform)

/-- The loop of `pumpInput` over the available input buffers. -/
def pumpLoop (active : ActiveCodec) :
    List Nat → AndroidMediaCodecVideoDecoder → AndroidMediaCodecVideoDecoder
  | [], d =>
    { d with activeCodec := some { active with availableInputBuffers := [] } }.updateQueueDepth
  | index :: buffers, d =>
    match d.pipeline.takePending with
    | none =>
      { d with
        activeCodec := some { active with availableInputBuffers := index :: buffers }
      }.updateQueueDepth
    | some (pending, pipeline) =>
      let d := { d with pipeline }
      match platform.queueInput index pending.input with
      | .error exception =>
        -- The access unit has left the ledger, so the failure path cannot release its slot.
        d.handleCodecFailure (exception.getD "Unable to queue MediaCodec input") .codecFailure 1
      | .ok () =>
        pumpLoop active buffers
          { d with pipeline := pipeline.markQueued pending (platform.nanoTime index) }

variable (d : AndroidMediaCodecVideoDecoder)

def pumpInput : AndroidMediaCodecVideoDecoder :=
  match d.activeCodec with
  | none => d
  | some active => pumpLoop platform active active.availableInputBuffers d

def ensureCodec (configuration : DisplayConfigPayload) (parameterSets : H264ParameterSets) :
    AndroidMediaCodecVideoDecoder :=
  match d.activeCodec, d.outputSurface with
  | some _, _ => d
  | none, none => d
  | none, some surface =>
    match platform.configure configuration parameterSets surface with
    | .error exception =>
      d.handleCodecFailure (exception.getD "Unable to configure Android MediaCodec") .codecFailure 0
    | .ok backend =>
      let d := { d with
        activeCodec := some ⟨d.createdCodecs, backend, []⟩
        createdCodecs := d.createdCodecs + 1 }
      match platform.start with
      | .error exception =>
        d.handleCodecFailure (exception.getD "Unable to configure Android MediaCodec")
          .codecFailure 0
      | .ok () => { d with state := .running configuration backend }

/-- `activeCodec === codec` -/
def isActive (codec : Nat) : Bool := d.activeCodec.any (·.codec = codec)

/-- The state without a codec. -/
def idleState (outputSurface : Option Nat) (configuration : Option DisplayConfigPayload) :
    VideoDecoderState :=
  match outputSurface, configuration with
  | none, configuration => .awaitingSurface configuration
  | some _, none => .awaitingConfiguration
  | some _, some configuration => .awaitingKeyframe configuration

/-- The ledger after a successful `enqueue`. -/
def recordEnqueued (pipeline : DecoderPipelineLedger) (pending : PendingInput) :
    AndroidMediaCodecVideoDecoder :=
  { d with
    pipeline
    history := d.history ++ [.enqueued pending.submission pending.input.isKeyframe] }

/-- The ledger has taken the access unit; give it to a codec. -/
def enterPipeline (pipeline : DecoderPipelineLedger) (pending : PendingInput)
    (configuration : DisplayConfigPayload) (parameterSets : H264ParameterSets)
    (warning : Option String) : AndroidMediaCodecVideoDecoder :=
  let d := (d.recordEnqueued pipeline pending).updateQueueDepth.warn warning
  (d.ensureCodec platform configuration parameterSets).pumpInput platform

/-- The outcome tells whether the pipeline kept the reservation of the frame. -/
def handlePipelineOverflow (pending : PendingInput) (parameterSets : H264ParameterSets)
    (configuration : DisplayConfigPayload) : Bool × AndroidMediaCodecVideoDecoder :=
  let previouslyInFlight := d.pipeline.depth
  let d := d.releaseCodec
  if pending.input.isKeyframe then
    let d := d.drop none .queueOverflow
      (s!"Keyframe {pending.input.frameId} superseded {previouslyInFlight} in-flight access units")
      previouslyInFlight
    match d.pipeline.enqueue pending with
    | some pipeline =>
      (true, d.enterPipeline platform pipeline pending configuration parameterSets
        (some s!"Decoder queue recovered on keyframe {pending.input.frameId}"))
    -- `check` fails; `processSubmittedFrame` reports it.
    | none => (false, d.emit (.failure "Check failed."))
  else
    let d := { d with gate := d.gate.awaitNextKeyframe }
    let d := d.drop (some pending.input.frameId) .queueOverflow
      "Decoder queue overflowed; dropped the dependent chain and now awaits KEYFRAME"
      (previouslyInFlight + 1)
    (false, { d with
      state := .recovering configuration 1
        "Decoder queue overflowed; waiting for a fresh keyframe" })

def processReady (pending : PendingInput) (parameterSets : H264ParameterSets)
    (requiresCodecRestart : Bool) (configuration : DisplayConfigPayload) :
    Bool × AndroidMediaCodecVideoDecoder :=
  let d :=
    if pending.input.isKeyframe ∧ ¬pending.input.containsIdr then
      d.emit (.warning s!"LDFL KEYFRAME {pending.input.frameId} contains no H.264 IDR NAL")
    else d
  let d :=
    if requiresCodecRestart then
      d.discardCodecPipeline .keyframeRecovery
        "Keyframe restarted the decoder and superseded older access units"
    else d
  match d.pipeline.enqueue pending with
  | none => d.handlePipelineOverflow platform pending parameterSets configuration
  | some pipeline => (true, d.enterPipeline platform pipeline pending configuration parameterSets none)

def processDropped (frameId : Option UInt64) (reason : DecoderDropReason) (detail : String)
    (configuration : DisplayConfigPayload) : AndroidMediaCodecVideoDecoder :=
  let d := d.drop frameId reason detail (if reason.countsAsVideoDrop then 1 else 0)
  match reason with
  | .awaitingKeyframe | .missingParameterSets | .parameterSetsOnly =>
    { d with state := .awaitingKeyframe configuration }
  | .timestampDiscontinuity => { d with state := .recovering configuration 1 detail }
  | _ => d

def processDecision (configuration : DisplayConfigPayload) (submission : Nat) :
    H264GateDecision → Bool × AndroidMediaCodecVideoDecoder
  | .dropped frameId reason detail =>
    (false, d.processDropped frameId reason detail configuration)
  | .ready input parameterSets requiresCodecRestart =>
    d.processReady platform ⟨submission, input⟩ parameterSets requiresCodecRestart configuration

/-- True once the reservation of the frame belongs to the pipeline. -/
def processFrame (submission : Nat) (frame : LdflFrame) : Bool × AndroidMediaCodecVideoDecoder :=
  match d.configuration.filter (·.codec = .h264) with
  | none => (false, d.drop none .noConfiguration "No active H.264 DisplayConfig" 1)
  | some configuration =>
    if d.outputSurface = none then
      (false, d.drop none .noSurface "No valid decoder output Surface" 1)
    else
      { d with gate := (d.gate.offer frame).2 }.processDecision platform configuration submission
        (d.gate.offer frame).1

def processSubmittedFrame (submission : Nat) (frame : LdflFrame) :
    AndroidMediaCodecVideoDecoder :=
  let processed := d.processFrame platform submission frame
  if processed.1 then processed.2 else processed.2.releaseInFlight 1

def runSetOutputSurface (surface : Option Nat) : AndroidMediaCodecVideoDecoder :=
  if d.closed ∨ d.outputSurface = surface then d
  else
  let d := d.discardCodecPipeline .surfaceInvalidated
    "Decoder Surface changed; discarded in-flight access units"
  { d with
    gate := d.gate.awaitNextKeyframe
    outputSurface := surface
    consecutiveCodecFailures := 0
    state := idleState surface d.configuration }

def runApplyConfiguration (configuration : DisplayConfigPayload) : AndroidMediaCodecVideoDecoder :=
  if d.closed then d
  else
  let d := d.discardCodecPipeline .configurationChanged
    "DisplayConfig changed; discarded in-flight access units"
  let d := { d with
    gate := d.gate.reset true
    consecutiveCodecFailures := 0
    configuration := some configuration }
  if configuration.codec ≠ .h264 then
    { d with
      state := .failed (VideoCodec.name configuration.codec ++
        " decode is not enabled in the Android v1 boundary") false }.emit
      (.failure ("Unsupported decoder codec " ++ VideoCodec.name configuration.codec))
  else { d with state := idleState d.outputSurface (some configuration) }

def runReset (reason : String) : AndroidMediaCodecVideoDecoder :=
  if d.closed then d
  else
  let d := d.releaseCodec
  let d := { d with
    gate := d.gate.awaitNextKeyframe
    consecutiveCodecFailures := 0
    metrics := .zero }.emit (.warning ("Decoder reset: " ++ reason))
  { d with state := idleState d.outputSurface d.configuration }

def runOverflowRecovery : AndroidMediaCodecVideoDecoder :=
  let d := { d with submissionOverflowPending := false }
  if d.closed then d
  else
  let d := { d with gate := d.gate.awaitNextKeyframe }.emit
    (.warning ("Decoder admission window overflowed; preserving the accepted prefix " ++
      "and waiting for a fresh keyframe"))
  { d with
    state :=
      match d.configuration, d.outputSurface with
      | none, _ => .awaitingConfiguration
      | some configuration, none => .awaitingSurface configuration
      | some configuration, some _ => .recovering configuration 1
          "Decoder queue overflowed; waiting for a fresh keyframe" }

def runClose : AndroidMediaCodecVideoDecoder :=
  { d.releaseCodec with
    outputSurface := none
    configuration := none
    state := .closed
    looperQuit := true }

def onInputBufferAvailable (codec index : Nat) : AndroidMediaCodecVideoDecoder :=
  match d.activeCodec.filter (·.codec = codec) with
  | none => d
  | some active =>
    let availableInputBuffers := active.availableInputBuffers ++ [index]
    { d with activeCodec := some { active with availableInputBuffers } }.pumpInput platform

/-- The tail of an output callback: the end of the stream stops the codec. -/
def finishOutput (info : BufferInfo) : AndroidMediaCodecVideoDecoder :=
  if info.endOfStream then
    let d := d.emit .endOfStream
    let d := d.discardCodecPipeline .codecFailure
      "End of stream discarded trailing in-flight access units"
    let d := { d with gate := d.gate.awaitNextKeyframe }
    match d.configuration with
    | some configuration => { d with state := .awaitingKeyframe configuration }
    | none => d
  else d

def outputFailure (exception : CodecException) : AndroidMediaCodecVideoDecoder :=
  d.handleCodecFailure (exception.getD "Unable to release MediaCodec output") .codecFailure 0

def releaseOutput (output : CorrelatedDecoderOutput) (info : BufferInfo) :
    AndroidMediaCodecVideoDecoder :=
  let d := (d.releaseInFlight 1).recordOutput output
  let released := PipelineEvent.releasedToSurface output.submission
  { d with history := d.history ++ [released] }.emit
    (.outputReleasedToSurface output.frameId info.presentationTimeUs output.decodeDurationMicros)

def onOutputBufferAvailable (codec index : Nat) (info : BufferInfo) :
    AndroidMediaCodecVideoDecoder :=
  if ¬d.isActive codec then d
  else if info.render then
    match d.pipeline.takeOutput info.presentationTimeUs (platform.nanoTime index) with
    | none =>
      match platform.releaseOutputBuffer index false with
      | .error exception => d.outputFailure exception
      | .ok () => d.handleCodecFailure
          s!"MediaCodec output timestamp {info.presentationTimeUs} has no queued Host frame"
          .outputCorrelationLost 0
    | some (correlated, pipeline) =>
      let d := { d with pipeline }
      match platform.releaseOutputBuffer index true with
      | .error exception => d.outputFailure exception
      | .ok () => (d.releaseOutput correlated info).finishOutput info
  else
    match platform.releaseOutputBuffer index false with
    | .error exception => d.outputFailure exception
    | .ok () => d.finishOutput info

def onOutputFormatChanged (codec : Nat) (width height : Option Int32) :
    AndroidMediaCodecVideoDecoder :=
  if ¬d.isActive codec then d else d.emit (.outputFormatChanged width height)

def onError (codec : Nat) (diagnosticInfo : String) : AndroidMediaCodecVideoDecoder :=
  if ¬d.isActive codec then d
  else
    d.handleCodecFailure (if diagnosticInfo.isEmpty then "MediaCodec failed" else diagnosticInfo)
      .codecFailure 0

def execute : HandlerTask → AndroidMediaCodecVideoDecoder
  | .setOutputSurface surface => d.runSetOutputSurface surface
  | .applyConfiguration configuration => d.runApplyConfiguration configuration
  | .frame submission frame =>
    if d.closed then d.releaseInFlight 1 else d.processSubmittedFrame platform submission frame
  | .reset reason => d.runReset reason
  | .overflowRecovery => d.runOverflowRecovery
  | .close => d.runClose
  | .inputBufferAvailable codec index => d.onInputBufferAvailable platform codec index
  | .outputBufferAvailable codec index info => d.onOutputBufferAvailable platform codec index info
  | .outputFormatChanged codec width height => d.onOutputFormatChanged codec width height
  | .codecError codec diagnosticInfo => d.onError codec diagnosticInfo

/-- The codec thread takes the next task. -/
def runTask : Option AndroidMediaCodecVideoDecoder :=
  match d.tasks with
  | [] => none
  | task :: tasks => some ({ d with tasks }.execute platform task)

end Tasks

section Callers

variable (d : AndroidMediaCodecVideoDecoder)

/-- `Handler.post`; a looper that has quit takes no more tasks. -/
def post (task : HandlerTask) : Bool × AndroidMediaCodecVideoDecoder :=
  if d.looperQuit then (false, d) else (true, { d with tasks := d.tasks ++ [task] })

def postUnlessClosed (task : HandlerTask) : AndroidMediaCodecVideoDecoder :=
  if d.closed then d else (d.post task).2

def setOutputSurface (surface : Option Nat) : AndroidMediaCodecVideoDecoder :=
  d.postUnlessClosed (.setOutputSurface surface)

def applyConfiguration (configuration : DisplayConfigPayload) : AndroidMediaCodecVideoDecoder :=
  d.postUnlessClosed (.applyConfiguration configuration)

def reset (reason : String) : AndroidMediaCodecVideoDecoder := d.postUnlessClosed (.reset reason)

def close : AndroidMediaCodecVideoDecoder :=
  if d.closed then d else ({ d with closed := true }.post .close).2

def scheduleSubmissionOverflowRecovery : AndroidMediaCodecVideoDecoder :=
  if d.submissionOverflowPending then d
  else
  let posted := { d with submissionOverflowPending := true }.post .overflowRecovery
  if posted.1 then posted.2 else { posted.2 with submissionOverflowPending := false }

def submit (frame : LdflFrame) : Bool × AndroidMediaCodecVideoDecoder :=
  let submission := d.submissions
  let d := { d with submissions := submission + 1 }
  if d.closed ∨ frame.messageType ≠ .videoFrame then (false, d)
  else if ¬d.inFlightWindow.available then (false, d.scheduleSubmissionOverflowRecovery)
  else
  let d := { d with inFlightWindow := d.inFlightWindow.acquire }.updateQueueDepth
  let posted := d.post (.frame submission frame)
  if posted.1 then posted else (false, posted.2.releaseInFlight 1)

end Callers

end AndroidMediaCodecVideoDecoder

end LadoFlow.Android
