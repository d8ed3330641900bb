import LadoFlow.Android.VideoDecoder

/-!
# The display session

Negotiation and inbound frames of `AndroidDisplaySession` within one protocol generation. A
handler reads the decoder through a view of it and records the calls it makes on the decoder and
on the input controller.
-/

namespace LadoFlow.Android

open Framework
open Protocol (MessageType Role VideoCodec CodecProfile ErrorCode)

structure RemoteViewport where
  codedWidth : Int32
  codedHeight : Int32
  width_range : 1 ≤ codedWidth ∧ codedWidth ≤ 0xffff
  height_range : 1 ≤ codedHeight ∧ codedHeight ≤ 0xffff
  deriving DecidableEq

/-- The viewport of a configuration; its rotation is always the default. -/
def DisplayConfigPayload.viewport (configuration : DisplayConfigPayload) : RemoteViewport where
  codedWidth := configuration.width
  codedHeight := configuration.height
  width_range := (requireProtocol_bind.mp configuration.valid).1.1
  height_range := (requireProtocol_bind.mp configuration.valid).1.2

inductive DisplaySessionFailureKind where
  | transport
  | protocol
  | decoder
  | «local»
  deriving DecidableEq, Repr

inductive AndroidDisplaySessionState where
  | stopped
  | waitingForAccessory
  | waitingForTetherHost (address : String) (port failedHandshakes : Int32)
  | authenticatingTether (hostAddress : String)
  | waitingForPermission (accessoryName : String)
  | handshaking (accessoryName : String)
  | ready (hostName : String)
  | configured (hostName : String) (configuration : DisplayConfigPayload)
  | connected (hostName : String) (configuration : DisplayConfigPayload)
  | deviceDisconnected (accessoryName : String)
  | displaying (hostName : String) (configuration : DisplayConfigPayload)
  | recovering (attempt : Int32) (reason : String)
  | failed (reason : String) (retryable : Bool) (kind : DisplaySessionFailureKind)
  | unsupported (reason : String)
  deriving DecidableEq

structure AndroidDisplaySessionMetrics where
  outputsReleasedToSurface : Nat
  droppedVideoFrames : Nat
  droppedInputEvents : Nat
  queueDepth : Nat
  latestDecodeDurationMicros : Option UInt32
  deriving DecidableEq

def AndroidDisplaySessionMetrics.zero : AndroidDisplaySessionMetrics := ⟨0, 0, 0, 0, none⟩

/-- What the session sees of its decoder and clock while it runs one handler. -/
structure SessionEnvironment where
  configurationRejectionReason : DisplayConfigPayload → Option String
  metrics : VideoDecoderMetrics
  submit : LdflFrame → Bool
  receiveMicros : UInt64
  sendMicros : UInt64

/-- A call of the session on its decoder or its input controller. -/
inductive CollaboratorCall where
  | updateViewport (viewport : Option RemoteViewport)
  | resetDecoder (reason : String)
  | applyConfiguration (configuration : DisplayConfigPayload)
  | submit (frame : LdflFrame)
  deriving DecidableEq

structure AndroidDisplaySession where
  localCapabilities : CapabilitiesPayload
  outbound : Option SessionOutboundMux
  accessoryName : String
  remoteHello : Option HelloPayload
  remoteCapabilities : Option CapabilitiesPayload
  negotiated : Bool
  failed : Bool
  activeConfiguration : Option DisplayConfigPayload
  protocolGeneration : Nat
  surfaceReady : Bool
  awaitingSurfaceKeyframe : Bool
  pendingSurfaceFrames : List LdflFrame
  localDroppedVideoFrames : Nat
  surfaceOutputBaseline : Nat
  lastReleasedFrameId : UInt64
  pingToken : UInt64
  inboundHighest : Option UInt64
  state : AndroidDisplaySessionState
  metrics : AndroidDisplaySessionMetrics
  calls : List CollaboratorCall

namespace AndroidDisplaySession

def new (localCapabilities : CapabilitiesPayload) : AndroidDisplaySession where
  localCapabilities := localCapabilities
  outbound := none
  accessoryName := "LadoFlow Host"
  remoteHello := none
  remoteCapabilities := none
  negotiated := false
  failed := false
  activeConfiguration := none
  protocolGeneration := 0
  surfaceReady := false
  awaitingSurfaceKeyframe := true
  pendingSurfaceFrames := []
  localDroppedVideoFrames := 0
  surfaceOutputBaseline := 0
  lastReleasedFrameId := 0
  pingToken := 0
  inboundHighest := none
  state := .stopped
  metrics := .zero
  calls := []

def record (session : AndroidDisplaySession) (call : CollaboratorCall) : AndroidDisplaySession :=
  { session with calls := session.calls ++ [call] }

def sendControl (session : AndroidDisplaySession) (payload : AnyPayload) :
    AndroidDisplaySession :=
  { session with outbound := session.outbound.map (·.sendControl payload) }

def updateQueueDepthMetric (env : SessionEnvironment) (session : AndroidDisplaySession) :
    AndroidDisplaySession :=
  let depth := min (session.pendingSurfaceFrames.length + env.metrics.queueDepth)
    (toLength maxTelemetryQueueDepth)
  if session.metrics.queueDepth ≠ depth then
    { session with metrics := { session.metrics with queueDepth := depth } }
  else session

def recordDroppedVideo (env : SessionEnvironment) (session : AndroidDisplaySession)
    (count : Nat) : AndroidDisplaySession :=
  if count = 0 then session
  else
  let dropped := saturatingAddLong session.localDroppedVideoFrames count
  { session with
    localDroppedVideoFrames := dropped
    metrics := { session.metrics with
      droppedVideoFrames := saturatingAddLong dropped env.metrics.droppedFrames } }

/-- A diagnostic that is no valid error payload raises an exception after the state change. -/
def rejectProtocol (env : SessionEnvironment) (session : AndroidDisplaySession)
    (code : ErrorCode) (diagnostic : String) : AndroidDisplaySession :=
  let session := { session with
    activeConfiguration := none
    negotiated := false
    failed := true
    surfaceReady := false
    pendingSurfaceFrames := [] }
  let session := session.updateQueueDepthMetric env
  let session := session.record (.updateViewport none)
  let session := session.record (.resetDecoder diagnostic)
  let session := { session with state := .failed diagnostic true .protocol }
  match RemoteErrorPayload.new code true diagnostic with
  | .ok payload => session.sendControl ⟨.error, payload⟩
  | .error _ => session

def failLocal (env : SessionEnvironment) (session : AndroidDisplaySession) (reason : String) :
    AndroidDisplaySession :=
  let session := { session with
    activeConfiguration := none
    negotiated := false
    failed := true
    surfaceReady := false
    pendingSurfaceFrames := [] }
  let session := session.updateQueueDepthMetric env
  let session := session.record (.updateViewport none)
  let session := session.record (.resetDecoder reason)
  { session with state := .failed reason false .local }

/-- Whether the published state belongs to a negotiated session. -/
def heldSession : AndroidDisplaySessionState → Bool
  | .configured .. | .connected .. | .displaying .. | .recovering .. | .ready _ => true
  | _ => false

def resetProtocol (env : SessionEnvironment) (session : AndroidDisplaySession)
    (reason : String) : AndroidDisplaySession :=
  let session := { session with
    protocolGeneration := session.protocolGeneration + 1
    outbound := none
    remoteHello := none
    remoteCapabilities := none
    negotiated := false
    failed := false
    activeConfiguration := none
    surfaceReady := false
    awaitingSurfaceKeyframe := true
    pendingSurfaceFrames := []
    inboundHighest := none
    localDroppedVideoFrames := 0
    surfaceOutputBaseline := env.metrics.outputsReleasedToSurface
    metrics := .zero
    lastReleasedFrameId := 0
    pingToken := 0 }
  let session := session.record (.updateViewport none)
  if heldSession session.state then session.record (.resetDecoder reason) else session

def beginHandshake (env : SessionEnvironment) (session : AndroidDisplaySession) (name : String)
    (nonce : SignedBytes) (implementationName : String) : AndroidDisplaySession :=
  let session := session.resetProtocol env "Starting a new LDFL generation"
  let session := { session with
    accessoryName := name
    outbound := some .new
    state := .handshaking name }
  if nonce.length ≠ 16 then
    session.failLocal env s!"Nonce source returned {nonce.length} bytes instead of 16"
  else
  match HelloPayload.new ldflProtocolVersion ldflProtocolVersion .display nonce
      implementationName with
  | .ok hello =>
    (session.sendControl ⟨.hello, hello⟩).sendControl ⟨.capabilities, session.localCapabilities⟩
  | .error _ => session

def finishNegotiationIfReady (env : SessionEnvironment) (session : AndroidDisplaySession) :
    AndroidDisplaySession :=
  match session.remoteHello, session.remoteCapabilities with
  | some hello, some capabilities =>
    if ¬session.localCapabilities.codecs.contains CodecCapabilities.h264 ∨
        ¬capabilities.codecs.contains CodecCapabilities.h264 then
      session.rejectProtocol env .unsupported "No common H.264 codec capability"
    else { session with negotiated := true, state := .ready hello.implementationName }
  | _, _ => session

def handleRemoteHello (env : SessionEnvironment) (session : AndroidDisplaySession)
    (frame : LdflFrame) (hello : HelloPayload) : AndroidDisplaySession :=
  if frame.sequence ≠ 0 ∨ session.remoteHello.isSome ∨ session.remoteCapabilities.isSome then
    session.rejectProtocol env .protocolViolation
      "Host Hello must be the first frame at sequence 0 and may appear once"
  else if hello.role ≠ .host then
    session.rejectProtocol env .protocolViolation "Remote Hello role must be Host"
  else if ¬(hello.minProtocol ≤ ldflProtocolVersion ∧ ldflProtocolVersion ≤ hello.maxProtocol) then
    session.rejectProtocol env .unsupported "Host does not support LDFL v1"
  else { session with remoteHello := some hello }.finishNegotiationIfReady env

def handleRemoteCapabilities (env : SessionEnvironment) (session : AndroidDisplaySession)
    (frame : LdflFrame) (capabilities : CapabilitiesPayload) : AndroidDisplaySession :=
  if frame.sequence ≠ 1 ∨ session.remoteHello.isNone ∨ session.remoteCapabilities.isSome then
    session.rejectProtocol env .protocolViolation
      "Host Capabilities must follow Hello at sequence 1 and may appear once"
  else { session with remoteCapabilities := some capabilities }.finishNegotiationIfReady env

/-- The first failing check of a configuration; the decoder is asked last. -/
def invalidReason (localCapabilities hostCapabilities : CapabilitiesPayload)
    (configuration : DisplayConfigPayload) (decoderRejection : Option String) : Option String :=
  let maximumWidth := min localCapabilities.maxWidth hostCapabilities.maxWidth
  let maximumHeight := min localCapabilities.maxHeight hostCapabilities.maxHeight
  let maximumRefresh := min localCapabilities.maxRefreshMillihz hostCapabilities.maxRefreshMillihz
  let maximumBitrate := min localCapabilities.maxBitrateKbps hostCapabilities.maxBitrateKbps
  if configuration.codec ≠ .h264 then some "Android v1 currently enables H.264 only"
  else if configuration.profile ≠ .h264Main then
    some "Android v1 session currently accepts H.264 Main only"
  else if configuration.width > maximumWidth ∨ configuration.height > maximumHeight then
    some (s!"DisplayConfig {configuration.width}x{configuration.height}" ++
      " exceeds negotiated limits")
  else if configuration.refreshMillihz > maximumRefresh then
    some "DisplayConfig refresh exceeds negotiated limits"
  else if configuration.bitrateKbps > maximumBitrate then
    some "DisplayConfig bitrate exceeds negotiated limits"
  else decoderRejection

def applyDisplayConfiguration (env : SessionEnvironment) (session : AndroidDisplaySession)
    (hello : HelloPayload) (configuration : DisplayConfigPayload) : AndroidDisplaySession :=
  let session := { session with
    activeConfiguration := some configuration
    surfaceReady := false
    surfaceOutputBaseline := env.metrics.outputsReleasedToSurface
    awaitingSurfaceKeyframe := true
    pendingSurfaceFrames := [] }
  let session := session.record (.updateViewport (some configuration.viewport))
  let session := session.record (.applyConfiguration configuration)
  { session with state := .configured hello.implementationName configuration }

def handleDisplayConfiguration (env : SessionEnvironment) (session : AndroidDisplaySession)
    (frame : LdflFrame) (configuration : DisplayConfigPayload) : AndroidDisplaySession :=
  match session.negotiated, session.remoteCapabilities, session.remoteHello with
  | true, some hostCapabilities, some hello =>
    if session.activeConfiguration = none ∧ frame.sequence ≠ 2 then
      session.rejectProtocol env .configurationRejected
        "Initial DisplayConfig must be host sequence 2"
    else
    let decoderRejection :=
      if configuration.codec = .h264 ∧ configuration.profile = .h264Main then
        env.configurationRejectionReason configuration
      else none
    match invalidReason session.localCapabilities hostCapabilities configuration
        decoderRejection with
    | some reason => session.rejectProtocol env .configurationRejected reason
    | none =>
      if session.activeConfiguration = some configuration then session
      else session.applyDisplayConfiguration env hello configuration
  | _, _, _ => session.rejectProtocol env .configurationRejected
      "DisplayConfig arrived before Hello/Capabilities negotiation completed"

def ifActive (env : SessionEnvironment) (session : AndroidDisplaySession) (frameName : String)
    (action : AndroidDisplaySession → AndroidDisplaySession) : AndroidDisplaySession :=
  if session.activeConfiguration = none then
    session.rejectProtocol env .protocolViolation
      (frameName ++ " arrived before DisplayConfig was accepted")
  else action session

def respondToPing (env : SessionEnvironment) (ping : PingPayload)
    (session : AndroidDisplaySession) : AndroidDisplaySession :=
  match PongPayload.new ping.token ping.clientSendTimestampMicros env.receiveMicros
      (max env.sendMicros env.receiveMicros) with
  | .ok pong => session.sendControl ⟨.pong, pong⟩
  | .error _ => session

def handleRemoteError (session : AndroidDisplaySession) (payload : RemoteErrorPayload) :
    AndroidDisplaySession :=
  let reported := "Host reported " ++ RemoteErrorCode.name payload.code
  let session := { session with activeConfiguration := none, negotiated := false, failed := true }
  let session := session.record (.updateViewport none)
  let session := session.record (.resetDecoder reported)
  let reason := if payload.diagnostic.isEmpty then reported else payload.diagnostic
  { session with state := .failed reason payload.retryable .protocol }

def handlePayload (env : SessionEnvironment) (session : AndroidDisplaySession)
    (frame : LdflFrame) : AnyPayload → AndroidDisplaySession
  | ⟨.hello, hello⟩ => session.handleRemoteHello env frame hello
  | ⟨.capabilities, capabilities⟩ => session.handleRemoteCapabilities env frame capabilities
  | ⟨.displayConfig, configuration⟩ => session.handleDisplayConfiguration env frame configuration
  | ⟨.ping, ping⟩ => session.ifActive env "Ping" (respondToPing env ping)
  | ⟨.pong, _⟩ => session.ifActive env "Pong" id
  | ⟨.telemetry, _⟩ => session.ifActive env "Telemetry" id
  | ⟨.error, payload⟩ => session.handleRemoteError payload
  | ⟨.input, _⟩ => session.rejectProtocol env .inputRejected
      "Host-to-display Input frames are invalid in LDFL v1"
  | ⟨.videoFrame, _⟩ => session.rejectProtocol env .protocolViolation
      "VideoFrame arrived on the control stream unexpectedly"

def handleControlFrame (env : SessionEnvironment) (session : AndroidDisplaySession)
    (frame : LdflFrame) : AndroidDisplaySession :=
  if session.failed then session
  else
  match frame.decodePayload with
  | .error exception => session.rejectProtocol env .protocolViolation exception.message
  | .ok payload => session.handlePayload env frame payload

def enqueueUntilSurfaceReady (env : SessionEnvironment) (session : AndroidDisplaySession)
    (frame : LdflFrame) : AndroidDisplaySession :=
  let keyframe := frame.flags.contains FrameFlags.keyframe
  if keyframe then
    let session := session.recordDroppedVideo env session.pendingSurfaceFrames.length
    { session with pendingSurfaceFrames := [frame], awaitingSurfaceKeyframe := false }
      |>.updateQueueDepthMetric env
  else if session.awaitingSurfaceKeyframe then session.recordDroppedVideo env 1
  else if session.pendingSurfaceFrames.length ≥ 3 then
    let session := session.recordDroppedVideo env (session.pendingSurfaceFrames.length + 1)
    { session with pendingSurfaceFrames := [], awaitingSurfaceKeyframe := true }
      |>.updateQueueDepthMetric env
  else
    { session with pendingSurfaceFrames := session.pendingSurfaceFrames ++ [frame] }
      |>.updateQueueDepthMetric env

def handleMediaFrame (env : SessionEnvironment) (session : AndroidDisplaySession)
    (frame : LdflFrame) : AndroidDisplaySession :=
  if session.failed then session
  else if ¬session.negotiated ∨ session.activeConfiguration = none then
    session.rejectProtocol env .configurationRejected
      "VideoFrame arrived before an accepted DisplayConfig"
  else if ¬session.surfaceReady then session.enqueueUntilSurfaceReady env frame
  else
  let session := session.record (.submit frame)
  if env.submit frame then session else session.recordDroppedVideo env 1

def handleInboundFrame (env : SessionEnvironment) (session : AndroidDisplaySession)
    (frame : LdflFrame) : AndroidDisplaySession :=
  if session.inboundHighest.any (frame.sequence ≤ ·) then
    session.rejectProtocol env .protocolViolation
      (s!"LDFL sequence {frame.sequence} is duplicate or stale after " ++
        s!"{session.inboundHighest.getD 0}")
  else
  let session := { session with inboundHighest := some frame.sequence }
  if frame.messageType = .videoFrame then session.handleMediaFrame env frame
  else session.handleControlFrame env frame

section Frame

variable (env : SessionEnvironment) (session : AndroidDisplaySession)

/-- The part of a session that handlers leave alone: the advertisement, and the outbound lanes
up to one more control payload. -/
structure Extends (before after : AndroidDisplaySession) : Prop where
  localCapabilities : after.localCapabilities = before.localCapabilities
  outbound : ∃ extra : List OutboundPayload, extra.length ≤ 1 ∧
    after.outbound = before.outbound.map fun mux => { mux with control := mux.control ++ extra }

theorem extends_of_eq {before after : AndroidDisplaySession}
    (hlocal : after.localCapabilities = before.localCapabilities)
    (houtbound : after.outbound = before.outbound) : Extends before after := by
  refine ⟨hlocal, [], Nat.zero_le 1, ?_⟩
  rw [houtbound]
  cases before.outbound <;> simp

theorem Extends.of_eq {before start after : AndroidDisplaySession} (h : Extends start after)
    (hlocal : start.localCapabilities = before.localCapabilities)
    (houtbound : start.outbound = before.outbound) : Extends before after :=
  ⟨hlocal ▸ h.localCapabilities, houtbound ▸ h.outbound⟩

theorem extends_sendControl {before after : AndroidDisplaySession}
    (hlocal : after.localCapabilities = before.localCapabilities)
    (houtbound : after.outbound = before.outbound) (payload : AnyPayload) :
    Extends before (after.sendControl payload) :=
  ⟨hlocal, [⟨payload, .none⟩], Nat.le_refl 1, by rw [sendControl, houtbound]; rfl⟩

@[simp] theorem updateQueueDepthMetric_outbound :
    (session.updateQueueDepthMetric env).outbound = session.outbound := by
  simp only [updateQueueDepthMetric]
  split <;> rfl

@[simp] theorem updateQueueDepthMetric_localCapabilities :
    (session.updateQueueDepthMetric env).localCapabilities = session.localCapabilities := by
  simp only [updateQueueDepthMetric]
  split <;> rfl

@[simp] theorem recordDroppedVideo_outbound (count : Nat) :
    (session.recordDroppedVideo env count).outbound = session.outbound := by
  simp only [recordDroppedVideo]
  split <;> rfl

@[simp] theorem recordDroppedVideo_localCapabilities (count : Nat) :
    (session.recordDroppedVideo env count).localCapabilities = session.localCapabilities := by
  simp only [recordDroppedVideo]
  split <;> rfl

theorem rejectProtocol_extends (code : ErrorCode) (diagnostic : String) :
    Extends session (session.rejectProtocol env code diagnostic) := by
  simp only [rejectProtocol]
  split
  · exact extends_sendControl (by simp [record]) (by simp [record]) _
  · exact extends_of_eq (by simp [record]) (by simp [record])

theorem finishNegotiationIfReady_extends :
    Extends session (session.finishNegotiationIfReady env) := by
  rw [finishNegotiationIfReady]
  split
  · split
    · exact rejectProtocol_extends _ _ _ _
    · exact extends_of_eq rfl rfl
  · exact extends_of_eq rfl rfl

theorem handleDisplayConfiguration_extends (frame : LdflFrame)
    (configuration : DisplayConfigPayload) :
    Extends session (session.handleDisplayConfiguration env frame configuration) := by
  rw [handleDisplayConfiguration]
  split
  · split
    · exact rejectProtocol_extends _ _ _ _
    · simp only
      split
      · exact rejectProtocol_extends _ _ _ _
      · split
        · exact extends_of_eq rfl rfl
        · exact extends_of_eq rfl rfl
  · exact rejectProtocol_extends _ _ _ _

theorem ifActive_extends (name : String) (action : AndroidDisplaySession → AndroidDisplaySession)
    (haction : Extends session (action session)) :
    Extends session (session.ifActive env name action) := by
  rw [ifActive]
  split
  · exact rejectProtocol_extends _ _ _ _
  · exact haction

theorem handlePayload_extends (frame : LdflFrame) (payload : AnyPayload) :
    Extends session (session.handlePayload env frame payload) := by
  obtain ⟨kind, value⟩ := payload
  cases kind with
  | hello =>
    simp only [handlePayload, handleRemoteHello]
    split
    · exact rejectProtocol_extends _ _ _ _
    split
    · exact rejectProtocol_extends _ _ _ _
    split
    · exact rejectProtocol_extends _ _ _ _
    · exact (finishNegotiationIfReady_extends env _).of_eq rfl rfl
  | capabilities =>
    simp only [handlePayload, handleRemoteCapabilities]
    split
    · exact rejectProtocol_extends _ _ _ _
    · exact (finishNegotiationIfReady_extends env _).of_eq rfl rfl
  | displayConfig => exact handleDisplayConfiguration_extends env session frame value
  | ping =>
    refine ifActive_extends env session _ _ ?_
    simp only [respondToPing]
    split
    · exact extends_sendControl rfl rfl _
    · exact extends_of_eq rfl rfl
  | pong => exact ifActive_extends env session _ _ (extends_of_eq rfl rfl)
  | telemetry => exact ifActive_extends env session _ _ (extends_of_eq rfl rfl)
  | error => exact extends_of_eq rfl rfl
  | input | videoFrame =>
    simp only [handlePayload]
    exact rejectProtocol_extends _ _ _ _

theorem enqueueUntilSurfaceReady_extends (frame : LdflFrame) :
    Extends session (session.enqueueUntilSurfaceReady env frame) := by
  simp only [enqueueUntilSurfaceReady]
  split_ifs <;> exact extends_of_eq (by simp) (by simp)

theorem handleMediaFrame_extends (frame : LdflFrame) :
    Extends session (session.handleMediaFrame env frame) := by
  simp only [handleMediaFrame]
  split
  · exact extends_of_eq rfl rfl
  split
  · exact rejectProtocol_extends _ _ _ _
  split
  · exact enqueueUntilSurfaceReady_extends env session frame
  split
  · exact extends_of_eq rfl rfl
  · exact extends_of_eq (by simp [record]) (by simp [record])

theorem handleControlFrame_extends (frame : LdflFrame) :
    Extends session (session.handleControlFrame env frame) := by
  rw [handleControlFrame]
  split
  · exact extends_of_eq rfl rfl
  split
  · exact rejectProtocol_extends _ _ _ _
  · exact handlePayload_extends env session frame _

theorem handleInboundFrame_extends (frame : LdflFrame) :
    Extends session (session.handleInboundFrame env frame) := by
  simp only [handleInboundFrame]
  split
  · exact rejectProtocol_extends _ _ _ _
  split
  · exact (handleMediaFrame_extends env _ frame).of_eq rfl rfl
  · exact (handleControlFrame_extends env _ frame).of_eq rfl rfl

end Frame

section Handlers

variable {env : SessionEnvironment} {d : AndroidDisplaySession} {frame : LdflFrame}

theorem receive_hello {hello : HelloPayload} (hhighest : d.inboundHighest = none)
    (hremote : d.remoteHello = none) (hcapabilities : d.remoteCapabilities = none)
    (hfailed : d.failed = false) (htype : frame.messageType = .hello)
    (hsequence : frame.sequence = 0) (hdecode : frame.decodePayload = .ok ⟨.hello, hello⟩)
    (hrole : hello.role = .host) (hversion : hello.minProtocol ≤ ldflProtocolVersion ∧
      ldflProtocolVersion ≤ hello.maxProtocol) :
    d.handleInboundFrame env frame =
      { d with inboundHighest := some 0, remoteHello := some hello } := by
  simp [handleInboundFrame, handleControlFrame, handlePayload, handleRemoteHello,
    finishNegotiationIfReady, hhighest, hremote, hcapabilities, hfailed, htype, hsequence,
    hdecode, hrole, hversion]

theorem receive_capabilities {hello : HelloPayload} {capabilities : CapabilitiesPayload}
    (hhighest : d.inboundHighest = some 0) (hremote : d.remoteHello = some hello)
    (hcapabilities : d.remoteCapabilities = none) (hfailed : d.failed = false)
    (htype : frame.messageType = .capabilities) (hsequence : frame.sequence = 1)
    (hdecode : frame.decodePayload = .ok ⟨.capabilities, capabilities⟩) :
    d.handleInboundFrame env frame = finishNegotiationIfReady env
      { d with inboundHighest := some 1, remoteCapabilities := some capabilities } := by
  simp [handleInboundFrame, handleControlFrame, handlePayload, handleRemoteCapabilities,
    hhighest, hremote, hcapabilities, hfailed, htype, hsequence, hdecode]

theorem receive_configuration {hello : HelloPayload} {capabilities : CapabilitiesPayload}
    {configuration : DisplayConfigPayload} (hhighest : d.inboundHighest = some 1)
    (hremote : d.remoteHello = some hello) (hcapabilities : d.remoteCapabilities = some capabilities)
    (hnegotiated : d.negotiated = true) (hfailed : d.failed = false)
    (hactive : d.activeConfiguration = none) (htype : frame.messageType = .displayConfig)
    (hsequence : frame.sequence = 2)
    (hdecode : frame.decodePayload = .ok ⟨.displayConfig, configuration⟩)
    (hcodec : configuration.codec = .h264) (hprofile : configuration.profile = .h264Main)
    (hvalid : ∀ rejection,
      invalidReason d.localCapabilities capabilities configuration rejection = rejection) :
    d.handleInboundFrame env frame =
      match env.configurationRejectionReason configuration with
      | some reason => rejectProtocol env { d with inboundHighest := some 2 }
          .configurationRejected reason
      | none => applyDisplayConfiguration env { d with inboundHighest := some 2 } hello
          configuration := by
  cases hreject : env.configurationRejectionReason configuration <;>
    simp [handleInboundFrame, handleControlFrame, handlePayload, handleDisplayConfiguration,
      hhighest, hremote, hcapabilities, hnegotiated, hfailed, hactive, htype, hsequence, hdecode,
      hcodec, hprofile, hvalid, hreject]

/-- What a streamed frame leaves alone. -/
structure KeepsActive (before : AndroidDisplaySession) (sequence : UInt64)
    (after : AndroidDisplaySession) : Prop where
  inboundHighest : after.inboundHighest = some sequence
  negotiated : after.negotiated = before.negotiated
  failed : after.failed = before.failed
  activeConfiguration : after.activeConfiguration = before.activeConfiguration

theorem receive_pong {pong : PongPayload} (hhighest : ¬d.inboundHighest.any (frame.sequence ≤ ·))
    (hfailed : d.failed = false) (hactive : d.activeConfiguration ≠ none)
    (htype : frame.messageType = .pong) (hdecode : frame.decodePayload = .ok ⟨.pong, pong⟩) :
    KeepsActive d frame.sequence (d.handleInboundFrame env frame) := by
  have hhandle : d.handleInboundFrame env frame =
      { d with inboundHighest := some frame.sequence } := by
    simp [handleInboundFrame, handleControlFrame, handlePayload, ifActive, hfailed, hactive, htype,
      hdecode, if_neg hhighest]
  rw [hhandle]
  exact ⟨rfl, rfl, rfl, rfl⟩

@[simp] theorem recordDroppedVideo_active (env : SessionEnvironment) (d : AndroidDisplaySession)
    (count : Nat) : (d.recordDroppedVideo env count).inboundHighest = d.inboundHighest ∧
      (d.recordDroppedVideo env count).negotiated = d.negotiated ∧
      (d.recordDroppedVideo env count).failed = d.failed ∧
      (d.recordDroppedVideo env count).activeConfiguration = d.activeConfiguration := by
  simp only [recordDroppedVideo]
  split <;> exact ⟨rfl, rfl, rfl, rfl⟩

@[simp] theorem updateQueueDepthMetric_active (env : SessionEnvironment)
    (d : AndroidDisplaySession) :
    (d.updateQueueDepthMetric env).inboundHighest = d.inboundHighest ∧
      (d.updateQueueDepthMetric env).negotiated = d.negotiated ∧
      (d.updateQueueDepthMetric env).failed = d.failed ∧
      (d.updateQueueDepthMetric env).activeConfiguration = d.activeConfiguration := by
  simp only [updateQueueDepthMetric]
  split <;> exact ⟨rfl, rfl, rfl, rfl⟩

theorem receive_video (hhighest : ¬d.inboundHighest.any (frame.sequence ≤ ·))
    (hfailed : d.failed = false) (hactive : d.activeConfiguration ≠ none)
    (hnegotiated : d.negotiated = true) (htype : frame.messageType = .videoFrame) :
    KeepsActive d frame.sequence (d.handleInboundFrame env frame) := by
  simp only [handleInboundFrame, if_neg hhighest, htype, if_true, handleMediaFrame, hfailed,
    hnegotiated, hactive, enqueueUntilSurfaceReady]
  simp only [Bool.false_eq_true, if_false, not_true_eq_false, or_self]
  split_ifs <;> constructor <;> simp [record, hfailed, hnegotiated]

end Handlers

end AndroidDisplaySession

end LadoFlow.Android
