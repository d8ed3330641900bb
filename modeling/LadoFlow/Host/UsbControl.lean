import LadoFlow.Host.SharedState

/-!
# Control packets of a display

The host takes the handshake and then the active control frames of one connection. Each frame that
it acts upon has a newer sequence than the one before, across both phases.
-/

namespace LadoFlow.Host

open LadoFlow.Protocol LadoFlow.Core LadoFlow.Transport Framework

/-- The derived `Debug` text of an error category. -/
def errorCodeDebugName : ErrorCode → String
  | .protocolViolation => "ProtocolViolation"
  | .unsupported => "Unsupported"
  | .configurationRejected => "ConfigurationRejected"
  | .unauthorized => "Unauthorized"
  | .busy => "Busy"
  | .encoderFailure => "EncoderFailure"
  | .decoderFailure => "DecoderFailure"
  | .inputRejected => "InputRejected"
  | .resourceExhausted => "ResourceExhausted"
  | .internal => "Internal"

/-- What a frame of the display makes the host do. -/
inductive HostAction where
  | storeHello (hello : Hello)
  | storeCapabilities (capabilities : Capabilities)
  | sendPong (pong : Pong)
  | injectInput (event : InputEvent)
  | applyTelemetry (telemetry : Telemetry)
  | reportError (message : ErrorMessage)
  deriving DecidableEq

/-- The clock readings, the transport and the injector that one packet meets. -/
structure ControlEnvironment where
  receivedAt : UInt64
  answeredAt : UInt64
  send : Packet → Except HostError Unit
  inject : InputEvent → Except String Unit

/-- The state behind `handle_usb_control`, and the actions so far with their sequences. -/
structure UsbControl where
  shared : SharedState
  nextSequence : UInt64
  actions : List (UInt64 × HostAction)

def requireNegotiatedInput (event : InputEvent) (capabilities : InputCapabilities) :
    Except HostError Unit :=
  let require (required : InputCapabilities) : Except HostError Unit :=
    if capabilities.contains required then .ok ()
    else .error (.text (s!"Android sent InputCapabilities({required.bits}) input" ++
      " without negotiating that capability"))
  match event.kind with
  | .pointerMove .. | .pointerButton .. | .wheel .. => require InputCapabilities.pointer
  | .key .. => require InputCapabilities.keyboard
  | .touch .. => require InputCapabilities.touch
  | .focus _ =>
    if capabilities.bits ≠ 0 then .ok ()
    else .error (.text "Android sent focus input without a negotiated input capability")

/-- Observe a sequence in the shared session; only a newer one is accepted. -/
def SharedState.observeSequence (shared : SharedState) (sequence : UInt64) :
    Except HostError Unit × SharedState :=
  match shared.session with
  | none => (.error (.text "active USB control arrived without a session"), shared)
  | some session =>
    match (Session.observeSequence sequence).run.run session with
    | (.error error, session) => (.error (.session error), { shared with session := some session })
    | (.ok (.accepted _), session) => (.ok (), { shared with session := some session })
    | (.ok _, session) =>
      (.error (.text s!"Android LDFL sequence {sequence} is duplicate or stale"),
        { shared with session := some session })

namespace UsbControl

section Frames

variable (env : ControlEnvironment) (control : UsbControl)

def record (sequence : UInt64) (action : HostAction) : UsbControl :=
  { control with actions := control.actions ++ [(sequence, action)] }

/-- The answer to a ping and its packet. -/
def pong (frame : Frame) : Except HostError (Pong × Packet) := do
  let request ← liftProtocol (frame.decodePayload Ping)
  let response ← liftProtocol
    (Pong.new request.token request.clientSendTimestampMicros env.receivedAt env.answeredAt)
  let packet ← controlPacket control.nextSequence response
  .ok (response, packet)

def answerPing (frame : Frame) : Except HostError Unit × UsbControl :=
  match control.pong env frame with
  | .error error => (.error error, control)
  | .ok (response, packet) =>
  match env.send packet with
  | .error error => (.error error, control)
  | .ok () =>
    let control := control.record frame.header.sequence (.sendPong response)
    match Session.checkedSucc64 control.nextSequence with
    | none => (.error (.text "host LDFL sequence is exhausted"), control)
    | some nextSequence => (.ok (), { control with nextSequence })

def applyInput (inputCapabilities : InputCapabilities) (frame : Frame) :
    Except HostError Unit × UsbControl :=
  match liftProtocol (frame.decodePayload InputEvent) with
  | .error error => (.error error, control)
  | .ok event =>
  match requireNegotiatedInput event inputCapabilities with
  | .error error => (.error error, control)
  | .ok () =>
    let control := control.record frame.header.sequence (.injectInput event)
    match env.inject event with
    | .error error =>
      (.error (.text ("failed to apply Android input on Windows: " ++ error)), control)
    | .ok () => (.ok (), control)

def handleFrame (inputCapabilities : InputCapabilities) (frame : Frame) :
    Except HostError Unit × UsbControl :=
  let sequence := frame.header.sequence
  match frame.header.kind with
  | .ping => control.answerPing env frame
  | .pong =>
    match liftProtocol (frame.decodePayload Pong) with
    | .error error => (.error error, control)
    | .ok _ => (.ok (), control)
  | .input => control.applyInput env inputCapabilities frame
  | .telemetry =>
    match liftProtocol (frame.decodePayload Telemetry) with
    | .error error => (.error error, control)
    | .ok telemetry =>
      let control := { control with shared := control.shared.applyUsbTelemetry telemetry }
      (.ok (), control.record sequence (.applyTelemetry telemetry))
  | .error =>
    match liftProtocol (frame.decodePayload ErrorMessage) with
    | .error error => (.error error, control)
    | .ok message =>
      (.error (.text ("Android display reported " ++ errorCodeDebugName message.code ++ ": " ++
        message.diagnostic)), control.record sequence (.reportError message))
  | kind =>
    (.error (.text ("Android sent unexpected " ++ debugName kind ++ " after LDFL negotiation")),
      control)

def handleUsbControl (inputCapabilities : InputCapabilities) (packet : Packet) :
    Except HostError Unit × UsbControl :=
  match Frame.decodePrefix packet.payload with
  | .error error => (.error (.protocol error), control)
  | .ok (.needMoreData _) => (.error (.text "Android sent a partial LDFL control frame"), control)
  | .ok (.complete frame consumed) =>
    if consumed ≠ packet.len then
      (.error (.text "Android control packet contains trailing LDFL bytes"), control)
    else
    match control.shared.observeSequence frame.header.sequence with
    | (.error error, shared) => (.error error, { control with shared })
    | (.ok (), shared) => { control with shared }.handleFrame env inputCapabilities frame

end Frames

end UsbControl

end LadoFlow.Host
