import LadoFlow.Android.DisplaySession
import LadoFlow.Framework.Machine
import LadoFlow.Host.HostProtocol

/-!
# Host and display handshake

The host's `negotiate_host_transport` and the inbound handling of the display session as two
parties joined by two FIFO channels. Each party encodes and decodes with its own codec.
-/

namespace LadoFlow.System

open Framework
open LadoFlow.Protocol (Hello Capabilities DisplayConfig Pong VideoFrame Nonce MessageType Frame
  Payload WirePayload)
open LadoFlow.Transport (Packet)
open LadoFlow.Host
open LadoFlow.Android (AndroidDisplaySession SessionEnvironment DisplayConfigPayload
  SessionOutboundMux HelloPayload CapabilitiesPayload signed unsigned)

/-- Where `negotiate_host_transport` stands, and the active loop after it. -/
inductive HostPhase where
  | opening (packets : List Packet)
  | waiting
  | configuring (established : EstablishedHostSession)
  | established (established : EstablishedHostSession) (nextSequence : Option UInt64)
  | failed (error : HostError)

/-- What the active loop sends: a reply to a ping or an encoded frame. -/
inductive StreamPayload where
  | pong (pong : Pong)
  | video (flags : Protocol.FrameFlags) (frame : VideoFrame)

structure HandshakeState where
  host : HostPhase
  handshake : HostHandshake
  display : AndroidDisplaySession
  toDisplay : List Packet
  toHost : List Packet
  /-- Every packet the host has sent, in order. -/
  hostSent : List Packet
  /-- Every packet the display has sent, in order. -/
  displaySent : List Packet

/-- The display of a run, given by the field values it announces. -/
structure DisplayParty where
  capabilities : Capabilities
  nonce : Nonce
  implementationName : String
  name_valid : Protocol.validateImplementationName implementationName = .ok ()
  accessoryName : String
  environment : SessionEnvironment

inductive HandshakeAction where
  | hostSend
  | hostReceive
  | hostInterrupt (error : HostError)
  | hostStream (payload : StreamPayload)
  | displayWrite
  | displayReceive (environment : SessionEnvironment)

namespace HandshakeState

def start (config : HostProtocolConfig) (nonce : Nonce) (party : DisplayParty) :
    Except HostError HandshakeState := do
  let handshake ← HostHandshake.withNonce config nonce
  let packets ← handshake.initialPackets
  .ok
    { host := .opening packets
      handshake
      display := (AndroidDisplaySession.new (.ofCapabilities party.capabilities)).beginHandshake
        party.environment party.accessoryName (signed party.nonce.val) party.implementationName
      toDisplay := []
      toHost := []
      hostSent := []
      displaySent := [] }

/-- The host's transport accepts a packet. -/
def sendToDisplay (s : HandshakeState) (packet : Packet) : HandshakeState :=
  { s with toDisplay := s.toDisplay ++ [packet], hostSent := s.hostSent ++ [packet] }

def hostSend (s : HandshakeState) : Option HandshakeState :=
  match s.host with
  | .opening [] => some { s with host := .waiting }
  | .opening (packet :: packets) => some { s.sendToDisplay packet with host := .opening packets }
  | .configuring established =>
    match controlPacket displayConfigSequence established.displayConfig with
    | .ok packet => some { s.sendToDisplay packet with
        host := .established established (some established.nextSequence) }
    | .error error => some { s with host := .failed error }
  | .waiting | .established .. | .failed _ => none

def hostReceive (s : HandshakeState) : Option HandshakeState :=
  match s.host, s.toHost with
  | .waiting, packet :: toHost =>
    match s.handshake.accept packet with
    | .ok (handshake, none) => some { s with handshake, toHost }
    | .ok (handshake, some established) =>
      some { s with handshake, toHost, host := .configuring established }
    | .error error => some { s with toHost, host := .failed error }
  | _, _ => none

/-- A cancellation, the deadline or a transport error during the negotiation. -/
def hostInterrupt (s : HandshakeState) (error : HostError) : Option HandshakeState :=
  match s.host with
  | .opening _ | .waiting | .configuring _ => some { s with host := .failed error }
  | .established .. | .failed _ => none

def streamPacket (sequence : UInt64) : StreamPayload → Except Protocol.ProtocolError Packet
  | .pong pong => do
    .ok (.control (← Frame.fromPayload Protocol.FrameFlags.none sequence pong).encode)
  | .video flags frame => do .ok (.media (← Frame.fromPayload flags sequence frame).encode)

def hostStream (s : HandshakeState) (payload : StreamPayload) : Option HandshakeState :=
  match s.host with
  | .established established (some sequence) =>
    match streamPacket sequence payload with
    | .ok packet => some { s.sendToDisplay packet with
        host := .established established (Core.Session.checkedSucc64 sequence) }
    | .error _ => some { s with host := .established established none }
  | _ => none

/-- One turn of the display's write loop. -/
def displayWrite (s : HandshakeState) : Option HandshakeState := do
  let mux ← s.display.outbound
  let (result, mux) ← mux.writeNext
  let display := { s.display with outbound := some mux }
  match result with
  | .error _ => some { s with display }
  | .ok frame =>
    match Android.FrameCodec.encode frame with
    | .error _ => some { s with display }
    | .ok bytes =>
      let packet := Packet.control (unsigned bytes)
      some { s with
        display
        toHost := s.toHost ++ [packet]
        displaySent := s.displaySent ++ [packet] }

/-- The display handles the next frame of the host. -/
def displayReceive (rejection : DisplayConfigPayload → Option String) (s : HandshakeState)
    (environment : SessionEnvironment) : Option HandshakeState :=
  match s.toDisplay with
  | [] => none
  | packet :: toDisplay =>
    match Android.FrameCodec.decodePrefix (signed packet.payload) 0 with
    | .ok (.complete frame _) =>
      let environment := { environment with configurationRejectionReason := rejection }
      some { s with toDisplay, display := s.display.handleInboundFrame environment frame }
    | _ => some { s with toDisplay }

def step (rejection : DisplayConfigPayload → Option String) (s : HandshakeState) :
    HandshakeAction → Option HandshakeState
  | .hostSend => s.hostSend
  | .hostReceive => s.hostReceive
  | .hostInterrupt error => s.hostInterrupt error
  | .hostStream payload => s.hostStream payload
  | .displayWrite => s.displayWrite
  | .displayReceive environment => s.displayReceive rejection environment

/-- The parties with a decoder that rejects configurations by `rejection`. -/
def machine (rejection : DisplayConfigPayload → Option String) :
    Machine HandshakeState HandshakeAction := ⟨step rejection⟩

end HandshakeState

end LadoFlow.System
