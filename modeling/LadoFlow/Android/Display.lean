import LadoFlow.Android.DecoderFlow
import LadoFlow.Android.SessionEffects

/-!
# The session with its decoder

`AndroidDisplaySession` on the main thread and `AndroidMediaCodecVideoDecoder` on its codec thread.
A handler of the session runs to its end, then its calls on the decoder take effect. A collector
of a state flow is resumed only while the current value differs from the last one it handled, and
may skip values in between.
-/

namespace LadoFlow.Android

open Framework

/-- What the session reads besides its decoder state: the codec list and the clock. -/
structure Surroundings where
  configurationRejectionReason : DisplayConfigPayload → Option String
  receiveMicros : UInt64
  sendMicros : UInt64

namespace AndroidMediaCodecVideoDecoder

def environment (d : AndroidMediaCodecVideoDecoder) (surroundings : Surroundings) :
    SessionEnvironment where
  configurationRejectionReason := surroundings.configurationRejectionReason
  metrics := d.metrics
  submit frame := (d.submit frame).1
  receiveMicros := surroundings.receiveMicros
  sendMicros := surroundings.sendMicros

def perform (d : AndroidMediaCodecVideoDecoder) : CollaboratorCall → AndroidMediaCodecVideoDecoder
  | .updateViewport _ => d
  | .resetDecoder reason => d.reset reason
  | .applyConfiguration configuration => d.applyConfiguration configuration
  | .submit frame => (d.submit frame).2

def performAll (d : AndroidMediaCodecVideoDecoder) (calls : List CollaboratorCall) :
    AndroidMediaCodecVideoDecoder :=
  calls.foldl perform d

/-- The decoder as the session sees it after its first submissions. -/
def view (d : AndroidMediaCodecVideoDecoder) (surroundings : Surroundings)
    (frames : List LdflFrame) (submitted : Nat) : SessionEnvironment :=
  (d.performAll ((frames.take submitted).map .submit)).environment surroundings

end AndroidMediaCodecVideoDecoder

structure AndroidDisplay where
  session : AndroidDisplaySession
  decoder : AndroidMediaCodecVideoDecoder
  /-- The last decoder state that the session handled. -/
  seenState : Option VideoDecoderState
  seenMetrics : Option VideoDecoderMetrics

inductive DisplayStep where
  | transport (surroundings : Surroundings) (identity : AndroidDisplaySession.Identity)
      (state : UsbTransportState)
  | inboundFrame (surroundings : Surroundings) (frame : LdflFrame)
  | sendFailure (generation : Nat) (reason : String)
  | decoderState (surroundings : Surroundings)
  | decoderMetrics
  | decoderEvent
  | telemetryTimer (surroundings : Surroundings)
  | pingTimer (surroundings : Surroundings)
  | input (emission : AndroidInputEmission)
  | write
  | setOutputSurface (surface : Option Nat)
  | codecCallback (task : HandlerTask)
  | runTask (platform : CodecPlatform)

namespace AndroidDisplay

open AndroidMediaCodecVideoDecoder AndroidDisplaySession

def new (localCapabilities : CapabilitiesPayload) (maxInFlightAccessUnits : Nat)
    (h : 0 < maxInFlightAccessUnits) : AndroidDisplay where
  session := .new localCapabilities
  decoder := .new maxInFlightAccessUnits h
  seenState := none
  seenMetrics := none

/-- Run one handler of the session and then its calls on the decoder. -/
def handle (display : AndroidDisplay) (handler : AndroidDisplaySession → AndroidDisplaySession) :
    AndroidDisplay :=
  let session := handler { display.session with calls := [] }
  { display with session, decoder := display.decoder.performAll session.calls }

def step (display : AndroidDisplay) : DisplayStep → Option AndroidDisplay
  | .transport surroundings identity transport =>
    some (display.handle
      (·.handleTransportState (display.decoder.environment surroundings) identity transport))
  | .inboundFrame surroundings frame =>
    some (display.handle
      (AndroidDisplaySession.handleInboundFrame (display.decoder.environment surroundings) · frame))
  | .sendFailure generation reason =>
    some (display.handle (·.handleSendFailure generation reason))
  | .decoderState surroundings =>
    if display.seenState = some display.decoder.state then none
    else
      let view := display.decoder.view surroundings display.session.pendingSurfaceFrames
      some { display.handle (·.handleDecoderState view display.decoder.state) with
        seenState := some display.decoder.state }
  | .decoderMetrics =>
    if display.seenMetrics = some display.decoder.metrics then none
    else
      some { display.handle (·.handleDecoderMetrics display.decoder.metrics) with
        seenMetrics := some display.decoder.metrics }
  | .decoderEvent =>
    match display.decoder.events with
    | [] => none
    | event :: events =>
      some ({ display with decoder := { display.decoder with events } }.handle
        (·.handleDecoderEvent event))
  | .telemetryTimer surroundings =>
    some (display.handle
      (AndroidDisplaySession.sendTelemetryNow (display.decoder.environment surroundings) ·))
  | .pingTimer surroundings =>
    some (display.handle
      (AndroidDisplaySession.sendPing (display.decoder.environment surroundings) ·))
  | .input emission => some (display.handle (·.submitInput emission))
  | .write => some (display.handle (·.callback .write))
  | .setOutputSurface surface =>
    some { display with decoder := display.decoder.setOutputSurface surface }
  | .codecCallback task =>
    if task.isCodecCallback then some { display with decoder := (display.decoder.post task).2 }
    else none
  | .runTask platform =>
    (display.decoder.runTask platform).map fun decoder => { display with decoder }

def machine : Machine AndroidDisplay DisplayStep where
  step := step

/-- The configuration that a step accepts. -/
def accepts (display : AndroidDisplay) : DisplayStep → Option DisplayConfigPayload
  | .inboundFrame surroundings frame =>
    display.session.acceptedConfiguration (display.decoder.environment surroundings) frame
  | _ => none

end AndroidDisplay

namespace DisplayStep

/-- The video frame that a step delivers. -/
def received : DisplayStep → List LdflFrame
  | inboundFrame _ frame => if frame.messageType = .videoFrame then [frame] else []
  | _ => []

/-- The step begins a protocol generation. -/
def restarts : DisplayStep → Bool
  | transport _ _ state => state.resetsProtocol
  | _ => false

end DisplayStep

def Surroundings.quiet : Surroundings := ⟨fun _ => none, 0, 0⟩

namespace DisplayStep

/-- A Surface appears before the host does. -/
def attach : List DisplayStep := [.setOutputSurface (some 0), .runTask .working]

/-- A host connects and its configuration reaches the decoder. -/
def connect : List DisplayStep :=
  .transport .quiet .android (.connected "LadoFlow Host") ::
    hostOpening.map (.inboundFrame .quiet) ++ [.runTask .working]

/-- The host sends a keyframe, and the first codec of the decoder takes it in. -/
def decodeKeyframe : List DisplayStep :=
  [.inboundFrame .quiet keyUnit, .runTask .working, .codecCallback (.inputBufferAvailable 0 0),
    .runTask .working]

/-- The codec announces the output of the keyframe. -/
def keyframeOutput : DisplayStep := .codecCallback (.outputBufferAvailable 0 0 ⟨0, 1, 1000⟩)

end DisplayStep

namespace AndroidDisplay

/-- A display with room for eight access units. -/
def fullHd : AndroidDisplay := new .fullHd 8 (Nat.succ_pos 7)

def firstConnection : List DisplayStep :=
  DisplayStep.attach ++ DisplayStep.connect ++ [.decoderState .quiet]

end AndroidDisplay

end LadoFlow.Android
