import LadoFlow.Android.AccessoryTransport
import LadoFlow.Android.IncrementalFrameDecoder
import LadoFlow.Android.OutboundWaiting
import LadoFlow.Framework.Machine

/-!
# The phone's I/O session

`UsbIoSession` from its start: the read loop decodes what the transport's stream gives and hands the frames
on, the write loop encodes the frames that callers queue, and the first of failure and `close` releases the
queues, the connection and the job, one after the other. A step is what one thread does between two
operations that another thread can see.
-/

namespace LadoFlow.Android

open Framework Protocol

def usbReadBufferBytes : Nat := 64 * 1024

def usbInboundQueueCapacity : Nat := 8

def usbOutboundQueueCapacity : Nat := 64

/-- What `closeResources` releases. -/
inductive UsbIoResource where
  | inbound
  | controlOutbound
  | connection
  | sessionJob
  deriving DecidableEq

/-- What a read of the connection gives. -/
inductive UsbRead where
  | count (bytes : SignedBytes)
  | endOfStream
  | threw (message : Option String)

/-- Where the read loop stands: it has frames left to hand on, or none and reads; it waits for room in the
inbound queue; it has returned. -/
inductive UsbReadPoint where
  | running (frames : List LdflFrame)
  | sending (frames : List LdflFrame)
  | returned

inductive UsbWritePoint where
  | receiving
  | writing (frame : LdflFrame)
  | returned

/-- What happened at the two ends of the session. -/
structure UsbIoLog where
  bytesRead : SignedBytes
  received : List LdflFrame
  queued : List LdflFrame
  taken : List LdflFrame
  bytesWritten : SignedBytes
  connectionCloses : Nat

structure UsbIoSession where
  decoder : IncrementalFrameDecoder
  inboundSequences : MonotonicSequenceValidator
  inbound : OutboundChannel LdflFrame
  controlOutbound : OutboundChannel LdflFrame
  state : UsbIoSessionState
  /-- What is left to release once the session has terminated. -/
  terminated : Option (List UsbIoResource)
  reader : UsbReadPoint
  writer : UsbWritePoint
  log : UsbIoLog

inductive UsbIoStep where
  | read (result : UsbRead)
  | deliver
  | resumeRead
  | cancelRead
  | take
  | write (failure : Option (Nat × Option String))
  | cancelWrite
  | sendControl (frame : LdflFrame)
  | trySendControl (frame : LdflFrame)
  | cancelSend (index : Nat)
  | receive
  | close
  | closeResource

/-- The bytes that a step takes from the connection. -/
def UsbIoStep.bytes : UsbIoStep → Option SignedBytes
  | .read (.count bytes) => some bytes
  | _ => none

namespace UsbIoSession

def start : UsbIoSession where
  decoder := .new
  inboundSequences := ⟨none⟩
  inbound := .new usbInboundQueueCapacity
  controlOutbound := .new usbOutboundQueueCapacity
  state := .running
  terminated := none
  reader := .running []
  writer := .receiving
  log := ⟨[], [], [], [], [], 0⟩

/-- The first of failure and `close` decides the state. -/
def terminateAs (s : UsbIoSession) (state : UsbIoSessionState) : UsbIoSession :=
  match s.terminated with
  | some _ => s
  | none => { s with
      state
      terminated := some [.inbound, .controlOutbound, .connection, .sessionJob] }

def terminate (s : UsbIoSession) (kind : UsbIoFailureKind) (message : String) : UsbIoSession :=
  s.terminateAs (.failed kind message)

def close (s : UsbIoSession) : UsbIoSession := s.terminateAs .closed

/-- The read loop leaves by a failure. -/
def failRead (s : UsbIoSession) (kind : UsbIoFailureKind) (message : String) : UsbIoSession :=
  { s.terminate kind message with reader := .returned }

def failWrite (s : UsbIoSession) (message : String) : UsbIoSession :=
  { s.terminate .io message with writer := .returned }

def read (s : UsbIoSession) : UsbRead → UsbIoSession
  | .endOfStream =>
    if s.decoder.bufferedBytes > 0 then
      s.failRead .protocol s!"Transport ended with {s.decoder.bufferedBytes} trailing LDFL bytes"
    else s.failRead .endOfStream "Transport reached end of stream"
  | .threw message => s.failRead .io (message.getD "Transport read failed")
  | .count [] => s
  | .count bytes =>
    let s := { s with log.bytesRead := s.log.bytesRead ++ bytes }
    match s.decoder.push bytes with
    | (decoder, .error exception) => { s with decoder }.failRead .protocol exception.message
    | (decoder, .ok frames) => { s with decoder, reader := .running frames }

/-- One frame is checked and sent to the inbound queue, with `frames` behind it. -/
def deliver (s : UsbIoSession) (frame : LdflFrame) (frames : List LdflFrame) : UsbIoSession :=
  match s.inboundSequences.observe frame.sequence with
  | .error exception => s.failRead .protocol exception.message
  | .ok inboundSequences =>
    let s := { s with inboundSequences }
    if s.inbound.closed then s.failRead .io "Channel was closed"
    else { s with
      inbound := s.inbound.send frame
      reader := if s.inbound.hasRoom then .running frames else .sending frames }

/-- The frame goes out whole, or a part of it goes out and the stream fails. -/
def write (s : UsbIoSession) (frame : LdflFrame) (failure : Option (Nat × Option String)) :
    UsbIoSession :=
  match FrameCodec.encode frame, failure with
  | .error exception, _ => s.failWrite exception.message
  | .ok bytes, none => { s with
      writer := .receiving
      log.bytesWritten := s.log.bytesWritten ++ bytes }
  | .ok bytes, some (part, message) =>
    { s with log.bytesWritten := s.log.bytesWritten ++ bytes.take part }.failWrite
      (message.getD "Transport write failed")

def closeResource (s : UsbIoSession) : UsbIoResource → UsbIoSession
  | .inbound => { s with inbound := s.inbound.close }
  | .controlOutbound => { s with controlOutbound := s.controlOutbound.close }
  | .connection => { s with log.connectionCloses := s.log.connectionCloses + 1 }
  | .sessionJob => s

/-- A frame enters the outbound queue, or its sender waits behind it; the call throws for a video frame and
once the queue is closed. -/
def sendControl (s : UsbIoSession) (frame : LdflFrame) : UsbIoSession :=
  if frame.messageType = .videoFrame then s
  else if s.controlOutbound.closed then s
  else { s with
    controlOutbound := s.controlOutbound.send frame
    log.queued := s.log.queued ++ [frame] }

def trySendControl (s : UsbIoSession) (frame : LdflFrame) : Bool × UsbIoSession :=
  if frame.messageType = .videoFrame then (false, s)
  else match s.controlOutbound.trySend frame with
    | (true, controlOutbound) => (true, { s with controlOutbound, log.queued := s.log.queued ++ [frame] })
    | (false, _) => (false, s)

def next (s : UsbIoSession) : UsbIoStep → Option UsbIoSession
  | .read result =>
    match s.reader, result with
    | .running [], .count bytes => if bytes.length ≤ usbReadBufferBytes then some (s.read result) else none
    | .running [], _ => some (s.read result)
    | _, _ => none
  | .deliver =>
    match s.reader with
    | .running (frame :: frames) => some (s.deliver frame frames)
    | _ => none
  | .resumeRead =>
    match s.reader, s.inbound.suspended with
    | .sending frames, [] => some { s with reader := .running frames }
    | _, _ => none
  | .cancelRead =>
    match s.reader, s.terminated with
    | .sending _, some [] => some { s with inbound := s.inbound.cancelSend 0, reader := .returned }
    | _, _ => none
  | .take =>
    match s.writer, s.controlOutbound.tryReceive with
    | .receiving, (.value frame, controlOutbound) => some { s with
        controlOutbound
        writer := .writing frame
        log.taken := s.log.taken ++ [frame] }
    | .receiving, (.closed, _) => some { s with writer := .returned }
    | _, _ => none
  | .write failure =>
    match s.writer with
    | .writing frame => some (s.write frame failure)
    | _ => none
  | .cancelWrite =>
    match s.writer, s.terminated with
    | .receiving, some [] => some { s with writer := .returned }
    | _, _ => none
  | .sendControl frame => some (s.sendControl frame)
  | .trySendControl frame => some (s.trySendControl frame).2
  | .cancelSend index =>
    some { s with controlOutbound := s.controlOutbound.cancelSend index }
  | .receive =>
    match s.inbound.tryReceive with
    | (.value frame, inbound) => some { s with inbound, log.received := s.log.received ++ [frame] }
    | _ => none
  | .close => some s.close
  | .closeResource =>
    match s.terminated with
    | some (resource :: resources) => some { s.closeResource resource with terminated := some resources }
    | _ => none

def machine : Framework.Machine UsbIoSession UsbIoStep where
  step := next

end UsbIoSession

end LadoFlow.Android
