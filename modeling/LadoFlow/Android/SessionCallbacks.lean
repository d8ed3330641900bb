import LadoFlow.Android.DisplaySession

/-!
# Callbacks of the display session

The transport, the decoder, the outbound writer, the timers and the input controller call into the
session. A decoder callback may submit several frames, so it sees one environment per submission.
-/

namespace LadoFlow.Android

open Framework
open Protocol (MessageType)

/-- Transport states with the data that the session reads. -/
inductive UsbTransportState where
  | stopped
  | waitingForAccessory
  | awaitingPermission (displayName : String)
  | opening (displayName : String)
  | connected (displayName : String)
  | tetherListening (address : String) (port failedHandshakes : Int32)
  | tetherAuthenticating (hostAddress : String)
  | tetherConnected (hostAddress : String)
  | detached (displayName : String)
  | recovering (attempt : Int32) (reason : String)
  | error (reason : String) (retryable : Bool)
  | unsupported (reason : String)
  deriving DecidableEq

/-- Every transport state but `Opening` resets the protocol. -/
def UsbTransportState.resetsProtocol : UsbTransportState → Bool
  | opening _ => false
  | _ => true

inductive InputDelivery where
  | critical
  | coalescible
  deriving DecidableEq, Repr

structure AndroidInputEmission where
  payload : InputPayload
  delivery : InputDelivery
  deriving DecidableEq

def InputEventBody.isSupportedBy (capabilities : InputCapabilities) : InputEventBody → Bool
  | pointerMoveInput .. | pointerButtonInput .. | wheelInput .. =>
    capabilities.contains InputCapabilities.pointer
  | touchInput .. => capabilities.contains InputCapabilities.touch
  | keyInput .. => capabilities.contains InputCapabilities.keyboard
  | focusInput _ => capabilities ≠ InputCapabilities.none

namespace AndroidDisplaySession

variable (env : SessionEnvironment) (session : AndroidDisplaySession)

/-- The nonce and the implementation name of a hello. -/
structure Identity where
  nonce : SignedBytes
  implementationName : String

def handleTransportState (identity : Identity) : UsbTransportState → AndroidDisplaySession
  | .stopped => { session.resetProtocol env "USB transport stopped" with state := .stopped }
  | .waitingForAccessory =>
    { session.resetProtocol env "Waiting for USB accessory" with state := .waitingForAccessory }
  | .awaitingPermission displayName =>
    { session.resetProtocol env "Waiting for Android USB permission" with
      accessoryName := displayName
      state := .waitingForPermission displayName }
  | .opening displayName =>
    { session with accessoryName := displayName, state := .handshaking displayName }
  | .connected displayName =>
    session.beginHandshake env displayName identity.nonce identity.implementationName
  | .tetherListening address port failedHandshakes =>
    { session.resetProtocol env "Waiting for an authenticated USB tether host" with
      state := .waitingForTetherHost address port failedHandshakes }
  | .tetherAuthenticating hostAddress =>
    { session.resetProtocol env "Authenticating USB tether host" with
      state := .authenticatingTether hostAddress }
  | .tetherConnected hostAddress =>
    session.beginHandshake env ("USB tether host " ++ hostAddress) identity.nonce
      identity.implementationName
  | .detached displayName =>
    { session.resetProtocol env "USB accessory detached" with
      accessoryName := displayName
      state := .deviceDisconnected displayName }
  | .recovering attempt reason =>
    { session.resetProtocol env "USB link recovering" with state := .recovering attempt reason }
  | .error reason retryable =>
    { session.resetProtocol env "USB transport error" with
      state := .failed reason retryable .transport }
  | .unsupported reason =>
    { session.resetProtocol env "USB accessory unsupported" with state := .unsupported reason }

/-- The frame does not advance the host sequence. -/
def isStale (frame : LdflFrame) : Bool := session.inboundHighest.any (frame.sequence ≤ ·)

/-- `onSendFailure` of the outbound mux that a generation created. -/
def handleSendFailure (generation : Nat) (reason : String) : AndroidDisplaySession :=
  if generation = session.protocolGeneration then
    { session with failed := true, state := .failed reason true .transport }
  else session

def recordDroppedInput : AndroidDisplaySession :=
  { session with
    metrics := { session.metrics with
      droppedInputEvents := session.metrics.droppedInputEvents + 1 } }

/-- The input families that both sides advertised. -/
def negotiatedInput : Option InputCapabilities :=
  session.remoteCapabilities.bind fun capabilities =>
    (InputCapabilities.fromBits
      (session.localCapabilities.input.bits &&& capabilities.input.bits)).toOption

/-- Input passes only while the published state is connected or displaying. -/
def acceptsInput : AndroidDisplaySessionState → Bool
  | .connected .. | .displaying .. => true
  | _ => false

def submitInput (emission : AndroidInputEmission) : AndroidDisplaySession :=
  if ¬acceptsInput session.state then session
  else if ¬session.negotiatedInput.any (emission.payload.event.isSupportedBy ·) then
    session.recordDroppedInput
  else
  match session.outbound, emission.delivery with
  | none, _ => session
  | some mux, .critical =>
    { session with outbound := some (mux.sendCriticalInput emission.payload) }
  | some mux, .coalescible =>
    let sent := mux.trySendCoalescibleInput emission.payload
    if sent.1 then { session with outbound := some sent.2 } else session.recordDroppedInput

def handleDecoderEvent : VideoDecoderEvent → AndroidDisplaySession
  | .endOfStream =>
    let session := { session with activeConfiguration := none }.record (.updateViewport none)
    match session.remoteHello with
    | some hello => { session with state := .ready hello.implementationName }
    | none => session
  | _ => session

/-- The metrics snapshot that the session keeps. -/
def recordDecoderMetrics (decoderMetrics : VideoDecoderMetrics) : AndroidDisplaySession :=
  { session with
    lastReleasedFrameId := decoderMetrics.lastReleasedFrameId.getD session.lastReleasedFrameId
    metrics := { session.metrics with
      outputsReleasedToSurface := decoderMetrics.outputsReleasedToSurface
      droppedVideoFrames :=
        saturatingAddLong session.localDroppedVideoFrames decoderMetrics.droppedFrames
      queueDepth := min (session.pendingSurfaceFrames.length + decoderMetrics.queueDepth)
        (toLength maxTelemetryQueueDepth)
      latestDecodeDurationMicros := decoderMetrics.lastDecodeDurationMicros } }

/-- The metrics show an output released for the active configuration. -/
def showsOutput (decoderMetrics : VideoDecoderMetrics) : Bool :=
  session.surfaceReady && decoderMetrics.lastReleasedFrameId.isSome &&
    decide (decoderMetrics.outputsReleasedToSurface > session.surfaceOutputBaseline)

def handleDecoderMetrics (decoderMetrics : VideoDecoderMetrics) : AndroidDisplaySession :=
  match session.activeConfiguration, session.remoteHello with
  | some configuration, some hello =>
    let session := session.recordDecoderMetrics decoderMetrics
    if session.showsOutput decoderMetrics then
      { session with state := .displaying hello.implementationName configuration }
    else session
  | _, _ => session

/-- Submit the buffered frames in order; the first rejection discards the rest. -/
def drainLoop (view : Nat → SessionEnvironment) :
    Nat → List LdflFrame → AndroidDisplaySession → AndroidDisplaySession
  | submitted, [], session =>
    { session with pendingSurfaceFrames := [] }.updateQueueDepthMetric (view submitted)
  | submitted, frame :: frames, session =>
    let session := session.record (.submit frame)
    if (view submitted).submit frame then drainLoop view (submitted + 1) frames session
    else
    let env := view (submitted + 1)
    { session.recordDroppedVideo env 1 with
      pendingSurfaceFrames := []
      awaitingSurfaceKeyframe := true }.updateQueueDepthMetric env

def drainPendingSurfaceFrames (view : Nat → SessionEnvironment) : AndroidDisplaySession :=
  if session.surfaceReady then drainLoop view 0 session.pendingSurfaceFrames session
  else session.updateQueueDepthMetric (view 0)

/-- The decoder can show nothing; outputs from now on count for the next Surface. -/
def suspendSurface (state : AndroidDisplaySessionState) : AndroidDisplaySession :=
  { session with
    surfaceReady := false
    surfaceOutputBaseline := env.metrics.outputsReleasedToSurface
    state }

def isDisplaying : AndroidDisplaySessionState → Bool
  | .displaying .. => true
  | _ => false

def handleDecoderState (view : Nat → SessionEnvironment) (decoderState : VideoDecoderState) :
    AndroidDisplaySession :=
  match session.activeConfiguration, session.remoteHello with
  | some configuration, some hello =>
    match decoderState with
    | .awaitingKeyframe _ | .running .. =>
      { session with
        surfaceReady := true
        state := if isDisplaying session.state then session.state
          else .connected hello.implementationName configuration }.drainPendingSurfaceFrames view
    | .recovering _ attempt reason =>
      { session with
        surfaceReady := true
        state := .recovering attempt reason }.drainPendingSurfaceFrames view
    | .awaitingSurface _ =>
      session.suspendSurface (view 0) (.configured hello.implementationName configuration)
    | .failed message recoverableOnKeyframe =>
      if recoverableOnKeyframe then session.suspendSurface (view 0) (.recovering 1 message)
      else
        { session.suspendSurface (view 0) (.failed message true .decoder) with failed := true }
    | .closed =>
      { session with
        surfaceReady := false
        failed := true
        state := .failed "Android decoder closed" true .decoder }
    | .awaitingConfiguration | .idle => session
  | _, _ => session

/-- The session reports: negotiated, healthy and configured. -/
def reports : Bool := session.negotiated && !session.failed && session.activeConfiguration.isSome

/-- The payload of one telemetry report. -/
def telemetry : Except LdflProtocolException TelemetryPayload := do
  let timings ← StageTimings.new 0 0 0 (session.metrics.latestDecodeDurationMicros.getD 0) 0
  TelemetryPayload.new env.sendMicros session.lastReleasedFrameId timings
    (Int32.ofNat (min (session.pendingSurfaceFrames.length + env.metrics.queueDepth)
      (toLength maxTelemetryQueueDepth))) 0
    (UInt32.ofNat (min session.metrics.droppedVideoFrames 0xFFFFFFFF)) 0 .unknown

def sendTelemetryNow : AndroidDisplaySession :=
  if ¬session.reports ∨ session.outbound.isNone then session
  else
  match session.telemetry env with
  | .ok payload => (session.updateQueueDepthMetric env).sendControl ⟨.telemetry, payload⟩
  | .error _ => session.updateQueueDepthMetric env

/-- One turn of the ping loop. -/
def sendPing : AndroidDisplaySession :=
  if ¬session.reports then session
  else
  let token := session.pingToken
  { session with
    pingToken := if token = 0xFFFFFFFFFFFFFFFF then 0 else token + 1 }.sendControl
    ⟨.ping, ⟨token, env.sendMicros⟩⟩

end AndroidDisplaySession

theorem hostHello_valid :
    HelloPayload.init 1 1 (List.replicate 16 9) "LadoFlow Host" = .ok () := by
  decide

def HelloPayload.host : HelloPayload :=
  ⟨1, 1, .host, List.replicate 16 9, "LadoFlow Host", hostHello_valid⟩

/-- Up to full HD, with a pointer and a touch screen. -/
def CapabilitiesPayload.fullHd : CapabilitiesPayload :=
  ⟨1920, 1080, 60000, 20000, .h264, .of 0b11 (.refl true), .of 0 (.refl true), .refl _⟩

/-- A host that negotiates and asks for one configuration. -/
def hostOpening : List LdflFrame :=
  [(0, ⟨.hello, HelloPayload.host⟩), (1, ⟨.capabilities, CapabilitiesPayload.fullHd⟩),
    (2, ⟨.displayConfig, DisplayConfigPayload.hd⟩)].filterMap
    fun (sequence, payload) => (LdflFrame.fromPayload .none sequence payload).toOption

def AndroidDisplaySession.Identity.android : AndroidDisplaySession.Identity :=
  ⟨List.replicate 16 7, "LadoFlow Android"⟩

/-- A decoder that takes every frame and has shown none. -/
def SessionEnvironment.fresh : SessionEnvironment := ⟨fun _ => none, .zero, fun _ => true, 0, 0⟩

end LadoFlow.Android
