import LadoFlow.Transport.StreamLedger

/-!
# The TCP worker

`pump_tcp_stream` with one step for each critical section of the link and each call of the socket.
The application holds the first endpoint of the link and the worker the second.
-/

namespace LadoFlow.Transport

open LadoFlow.Protocol Framework

def tcpIoChunkBytes : Nat := 64 * 1024

theorem tcpControlLimits_valid : 0 < 64 ∧ 0 < frameHeaderLen + maxControlPayload ∧
    frameHeaderLen + maxControlPayload ≤ 4 * 1024 * 1024 := by decide

theorem tcpMediaLimits_valid : 0 < 3 ∧ 0 < frameHeaderLen + maxMediaPayload ∧
    frameHeaderLen + maxMediaPayload ≤ 32 * 1024 * 1024 := by decide

def tcpControlLimits : QueueLimits :=
  validQueueLimits 64 (4 * 1024 * 1024) (frameHeaderLen + maxControlPayload) tcpControlLimits_valid

def tcpMediaLimits : QueueLimits :=
  validQueueLimits 3 (32 * 1024 * 1024) (frameHeaderLen + maxMediaPayload) tcpMediaLimits_valid

def tcpQueueConfig : LoopbackConfig := ⟨tcpControlLimits, tcpMediaLimits⟩

inductive ConnectionState where
  | connected
  | disconnected
  deriving DecidableEq, Repr

/-- What a socket or USB call reports. -/
inductive IoResult (α : Type) where
  | ok (value : α)
  | wouldBlock
  | interrupted
  | failed
  deriving DecidableEq, Repr

def IoResult.value {α : Type} : IoResult α → Option α
  | .ok value => some value
  | .wouldBlock => none
  | .interrupted => none
  | .failed => none

inductive TcpStreamError where
  | outboundQueueInvalid (error : LdflStreamError)
  | inboundStreamInvalid (error : LdflStreamError)
  | readFailed
  | inboundQueueRejected (error : SendError)
  | writeMadeNoProgress
  | writeFailed
  deriving DecidableEq

/-- `u64::saturating_add` -/
def saturatingAddU64 (a b : Nat) : Nat := min (a + b) (2 ^ 64 - 1)

/-- `Ok` as a last error is the text for a peer that closed the stream. -/
structure TcpTransportStatus where
  state : ConnectionState
  bytesRead : Nat
  bytesWritten : Nat
  framesRead : Nat
  framesWritten : Nat
  lastError : Option (Except TcpStreamError Unit)
  deriving DecidableEq

namespace TcpTransportStatus

def new : TcpTransportStatus := ⟨.connected, 0, 0, 0, 0, none⟩

def countRead (status : TcpTransportStatus) (bytes frames : Nat) : TcpTransportStatus :=
  { status with
    bytesRead := saturatingAddU64 status.bytesRead bytes
    framesRead := saturatingAddU64 status.framesRead frames }

def countBytesWritten (status : TcpTransportStatus) (written : Nat) : TcpTransportStatus :=
  { status with bytesWritten := saturatingAddU64 status.bytesWritten written }

def countFrameWritten (status : TcpTransportStatus) : TcpTransportStatus :=
  { status with framesWritten := saturatingAddU64 status.framesWritten 1 }

end TcpTransportStatus

structure PendingWrite where
  packet : Packet
  offset : Nat
  deriving DecidableEq

namespace PendingWrite

/-- The slice of one `write` call. -/
def chunk (pending : PendingWrite) : Bytes :=
  let stop := min (saturatingAdd pending.offset tcpIoChunkBytes) pending.packet.len
  (pending.packet.payload.take stop).drop pending.offset

end PendingWrite

/-- Where the worker stands in its loop, or the result with which it left it. -/
inductive TcpPoint where
  | loopHead
  | drain
  | next
  | write
  | read
  | stopped (result : Except TcpStreamError Unit)
  deriving DecidableEq

structure TcpPacketTransport where
  link : Link
  cancel : Bool
  status : TcpTransportStatus
  decoder : LdflPacketDecoder
  call : MuxCall
  outgoing : Option PendingWrite
  inbound : List Packet
  point : TcpPoint

inductive TcpTurn where
  | trySend (packet : Packet)
  | tryReceive (channel : Channel)
  | shutdown
  | checkCancel
  | drainInbound
  | next
  | writePending (result : IoResult Nat)
  | read (result : IoResult Bytes)
  deriving DecidableEq

namespace TcpPacketTransport

def start : TcpPacketTransport where
  link := .new tcpQueueConfig
  cancel := false
  status := .new
  decoder := .new
  call := .start
  outgoing := none
  inbound := []
  point := .loopHead

/-- The end of `run_tcp_stream`. -/
def finish (transport : TcpPacketTransport) (result : Except TcpStreamError Unit) :
    TcpPacketTransport :=
  { transport with
    link := transport.link.disconnect.2
    point := .stopped result
    status :=
      { transport.status with
        state := .disconnected
        lastError := if transport.cancel then transport.status.lastError else some result } }

def trySend (transport : TcpPacketTransport) (packet : Packet) :
    Except SendError SendReport × TcpPacketTransport :=
  let (result, link) := transport.link.trySend .first packet
  (result, { transport with link })

def tryReceive (transport : TcpPacketTransport) (channel : Channel) :
    Except ReceiveError (Option Packet) × TcpPacketTransport :=
  let (result, link) := transport.link.tryReceive .first channel
  (result, { transport with link })

def checkCancel (transport : TcpPacketTransport) : TcpPacketTransport :=
  if transport.cancel then transport.finish (.ok ()) else { transport with point := .drain }

/-- A pending packet is finished before the mux is asked for another. -/
def afterDrain (transport : TcpPacketTransport) : TcpPoint :=
  if transport.outgoing.isNone then .next else .write

/-- One iteration of `drain_inbound`. -/
def drainInbound (transport : TcpPacketTransport) : TcpPacketTransport :=
  match transport.inbound with
  | [] => { transport with point := transport.afterDrain }
  | packet :: inbound =>
    match transport.link.trySend .second packet with
    | (.ok _, link) => { transport with link, inbound }
    | (.error (.full packet _ _), link) =>
      { transport with link, inbound := packet :: inbound, point := transport.afterDrain }
    | (.error error, link) =>
      { transport with link, inbound }.finish (.error (.inboundQueueRejected error))

/-- Nothing is read while decoded packets wait for the application. -/
def afterWrite (transport : TcpPacketTransport) : TcpPoint :=
  if transport.inbound.isEmpty then .read else .loopHead

def next (transport : TcpPacketTransport) : TcpPacketTransport × StreamEvent :=
  let (call, link, result) := transport.call.advance transport.link .second
  let transport := { transport with call, link }
  match result with
  | none => (transport, .silent)
  | some (.error error) => (transport.finish (.error (.outboundQueueInvalid error)), .silent)
  | some (.ok none) => ({ transport with point := transport.afterWrite }, .silent)
  | some (.ok (some packet)) =>
    ({ transport with outgoing := some ⟨packet, 0⟩, point := .write }, .emitted packet)

/-- The check that follows a call of `write_pending`. -/
def afterPending (transport : TcpPacketTransport) (pending : PendingWrite) : TcpPacketTransport :=
  if pending.offset = pending.packet.len then
    { transport with
      status := transport.status.countFrameWritten
      outgoing := none
      point := transport.afterWrite }
  else { transport with outgoing := some pending, point := transport.afterWrite }

def writePending (transport : TcpPacketTransport) (pending : PendingWrite) :
    IoResult Nat → TcpPacketTransport × StreamEvent
  | .ok 0 => (transport.finish (.error .writeMadeNoProgress), .silent)
  | .ok written =>
    ({ transport with status := transport.status.countBytesWritten written }.afterPending
        { pending with offset := saturatingAdd pending.offset written },
      .sent (pending.chunk.take written))
  | .wouldBlock => (transport.afterPending pending, .silent)
  | .interrupted => (transport.afterPending pending, .silent)
  | .failed => (transport.finish (.error .writeFailed), .silent)

def read (transport : TcpPacketTransport) : IoResult Bytes → TcpPacketTransport × StreamEvent
  | .ok [] => (transport.finish (.ok ()), .silent)
  | .ok bytes =>
    match transport.decoder.push bytes with
    | (decoder, .error error) =>
      ({ transport with decoder }.finish (.error (.inboundStreamInvalid error)), .consumed bytes [])
    | (decoder, .ok packets) =>
      ({ transport with
          decoder
          status := transport.status.countRead bytes.length packets.length
          inbound := transport.inbound ++ packets
          point := .loopHead },
        .consumed bytes packets)
  | .wouldBlock => ({ transport with point := .loopHead }, .silent)
  | .interrupted => ({ transport with point := .loopHead }, .silent)
  | .failed => (transport.finish (.error .readFailed), .silent)

/-- A write takes at most its slice and a read fills at most its buffer. -/
def step (transport : TcpPacketTransport) :
    TcpTurn → Option (TcpPacketTransport × StreamEvent)
  | .trySend packet =>
    match transport.trySend packet with
    | (.ok _, transport) => some (transport, .accepted packet)
    | (.error _, transport) => some (transport, .silent)
  | .tryReceive channel =>
    match transport.tryReceive channel with
    | (.ok (some packet), transport) => some (transport, .received channel packet)
    | (_, transport) => some (transport, .silent)
  | .shutdown => some ({ transport with cancel := true }, .silent)
  | .checkCancel =>
    if transport.point = .loopHead then some (transport.checkCancel, .silent) else none
  | .drainInbound =>
    if transport.point = .drain then some (transport.drainInbound, .silent) else none
  | .next => if transport.point = .next then some transport.next else none
  | .writePending result =>
    match transport.outgoing with
    | some pending =>
      if transport.point = .write ∧ ∀ written ∈ result.value, written ≤ pending.chunk.length
      then some (transport.writePending pending result) else none
    | none => none
  | .read result =>
    if transport.point = .read ∧ ∀ bytes ∈ result.value, bytes.length ≤ tcpIoChunkBytes
    then some (transport.read result) else none

/-- An iteration of `drain_inbound` ends the loop with the first packet in place, hands the packet to
the application's queue, or stops the worker. -/
theorem drainInbound_cases (transport : TcpPacketTransport) :
    ((∀ packet ∈ transport.inbound.head?, ∃ depth limits,
        (transport.link.trySend .second packet).1 = .error (.full packet depth limits)) ∧
      transport.drainInbound = { transport with point := transport.afterDrain }) ∨
    (∃ packet waiting report link, transport.inbound = packet :: waiting ∧
      transport.link.trySend .second packet = (.ok report, link) ∧
      transport.drainInbound = { transport with link, inbound := waiting }) ∨
    ∃ packet waiting error, transport.inbound = packet :: waiting ∧
      (transport.link.trySend .second packet).1 = .error error ∧
      (∀ depth limits, error ≠ .full packet depth limits) ∧
      transport.drainInbound =
        { transport with inbound := waiting }.finish (.error (.inboundQueueRejected error)) := by
  cases hinbound : transport.inbound with
  | nil =>
    refine .inl ⟨nofun, ?_⟩
    simp only [drainInbound, hinbound]
  | cons packet waiting =>
    cases hsend : transport.link.trySend .second packet with
    | mk result link =>
      cases result with
      | ok report =>
        refine .inr (.inl ⟨packet, waiting, report, link, rfl, hsend, ?_⟩)
        simp only [drainInbound, hinbound, hsend]
      | error error =>
        have hlink := Link.trySend_error hsend
        subst hlink
        cases error with
        | full returned depth limits =>
          have hreturned := Link.trySend_full hsend
          subst hreturned
          refine .inl ⟨?_, ?_⟩
          · intro head hhead
            cases hhead
            exact ⟨depth, limits, by rw [hsend]⟩
          · simp only [drainInbound, hinbound, hsend]
        | disconnected returned =>
          refine .inr (.inr ⟨packet, waiting, .disconnected returned, rfl, by rw [hsend], nofun, ?_⟩)
          simp only [drainInbound, hinbound, hsend]
        | packetTooLarge returned size limit =>
          refine .inr (.inr
            ⟨packet, waiting, .packetTooLarge returned size limit, rfl, by rw [hsend], nofun, ?_⟩)
          simp only [drainInbound, hinbound, hsend]

@[simp] theorem finish_point (transport : TcpPacketTransport) (result : Except TcpStreamError Unit) :
    (transport.finish result).point = .stopped result := rfl

/-- Everything a turn can do. -/
inductive Turned (transport : TcpPacketTransport) :
    TcpTurn → TcpPacketTransport → StreamEvent → Prop
  | accepted (packet : Packet) (report : SendReport) (link : Link)
      (hsend : transport.link.trySend .first packet = (.ok report, link)) :
      Turned transport (.trySend packet) { transport with link } (.accepted packet)
  | refused (packet : Packet) : Turned transport (.trySend packet) transport .silent
  | received (channel : Channel) (packet : Packet) (link : Link)
      (hreceive : transport.link.tryReceive .first channel = (.ok (some packet), link)) :
      Turned transport (.tryReceive channel) { transport with link } (.received channel packet)
  | nothing (channel : Channel) : Turned transport (.tryReceive channel) transport .silent
  | shutdown : Turned transport .shutdown { transport with cancel := true } .silent
  | checkCancel (hpoint : transport.point = .loopHead) :
      Turned transport .checkCancel transport.checkCancel .silent
  | drainInbound (hpoint : transport.point = .drain) :
      Turned transport .drainInbound transport.drainInbound .silent
  | next (hpoint : transport.point = .next) :
      Turned transport .next transport.next.1 transport.next.2
  | writePending (hpoint : transport.point = .write) (pending : PendingWrite)
      (houtgoing : transport.outgoing = some pending) (result : IoResult Nat)
      (hsize : ∀ written ∈ result.value, written ≤ pending.chunk.length) :
      Turned transport (.writePending result) (transport.writePending pending result).1
        (transport.writePending pending result).2
  | read (hpoint : transport.point = .read) (result : IoResult Bytes)
      (hsize : ∀ bytes ∈ result.value, bytes.length ≤ tcpIoChunkBytes) :
      Turned transport (.read result) (transport.read result).1 (transport.read result).2

theorem step_turned {transport after : TcpPacketTransport} {turn : TcpTurn} {event : StreamEvent}
    (h : transport.step turn = some (after, event)) : Turned transport turn after event := by
  cases turn with
  | trySend packet =>
    simp only [step, trySend] at h
    cases hsend : transport.link.trySend .first packet with
    | mk result link =>
      rw [hsend] at h
      cases result with
      | ok report =>
        cases h
        exact .accepted packet report link hsend
      | error error =>
        rw [Link.trySend_error hsend] at h
        cases h
        exact .refused packet
  | tryReceive channel =>
    simp only [step, tryReceive] at h
    cases hreceive : transport.link.tryReceive .first channel with
    | mk result link =>
      have hsame := Link.tryReceive_none hreceive
      rw [hreceive] at h
      cases result with
      | error error =>
        rw [hsame nofun] at h
        cases h
        exact .nothing channel
      | ok packet =>
        cases packet with
        | none =>
          rw [hsame nofun] at h
          cases h
          exact .nothing channel
        | some packet =>
          cases h
          exact .received channel packet link hreceive
  | shutdown =>
    cases h
    exact .shutdown
  | checkCancel =>
    obtain ⟨hpoint, h⟩ := Option.ite_none_right_eq_some.mp h
    cases h
    exact .checkCancel hpoint
  | drainInbound =>
    obtain ⟨hpoint, h⟩ := Option.ite_none_right_eq_some.mp h
    cases h
    exact .drainInbound hpoint
  | next =>
    obtain ⟨hpoint, h⟩ := Option.ite_none_right_eq_some.mp h
    have hturned : Turned transport .next transport.next.1 transport.next.2 := .next hpoint
    rw [Option.some.inj h] at hturned
    exact hturned
  | writePending result =>
    simp only [step] at h
    split at h
    · rename_i pending houtgoing
      obtain ⟨⟨hpoint, hsize⟩, h⟩ := Option.ite_none_right_eq_some.mp h
      have hturned := Turned.writePending hpoint pending houtgoing result hsize
      rw [Option.some.inj h] at hturned
      exact hturned
    · cases h
  | read result =>
    obtain ⟨⟨hpoint, hsize⟩, h⟩ := Option.ite_none_right_eq_some.mp h
    have hturned := Turned.read hpoint result hsize
    rw [Option.some.inj h] at hturned
    exact hturned

@[simp] theorem afterWrite_ne_stopped (transport : TcpPacketTransport)
    (result : Except TcpStreamError Unit) : transport.afterWrite ≠ .stopped result := by
  rw [afterWrite]
  split <;> exact nofun

@[simp] theorem afterDrain_ne_stopped (transport : TcpPacketTransport)
    (result : Except TcpStreamError Unit) : transport.afterDrain ≠ .stopped result := by
  rw [afterDrain]
  split <;> exact nofun

@[simp] theorem afterPending_ne_stopped (transport : TcpPacketTransport) (pending : PendingWrite)
    (result : Except TcpStreamError Unit) :
    (transport.afterPending pending).point ≠ .stopped result := by
  rw [afterPending]
  split <;> exact afterWrite_ne_stopped _ _

theorem running_of_point {transport : TcpPacketTransport} {point : TcpPoint}
    (hpoint : transport.point = point) (hrunning : ∀ result, point ≠ .stopped result)
    (result : Except TcpStreamError Unit) : transport.point ≠ .stopped result := by
  rw [hpoint]
  exact hrunning result

end TcpPacketTransport

/-- A worker with its application and the ledger of both. -/
structure TcpHistory where
  transport : TcpPacketTransport
  ledger : StreamLedger

namespace TcpHistory

def start : TcpHistory := ⟨.start, .empty⟩

def step (s : TcpHistory) (turn : TcpTurn) : Option TcpHistory :=
  match s.transport.step turn with
  | some (transport, event) => some ⟨transport, s.ledger.apply event⟩
  | none => none

def machine : Machine TcpHistory TcpTurn := ⟨step⟩

theorem step_turned {s t : TcpHistory} {turn : TcpTurn} (h : s.step turn = some t) :
    ∃ event, s.transport.Turned turn t.transport event ∧ t.ledger = s.ledger.apply event := by
  rw [step] at h
  cases hturn : s.transport.step turn with
  | none =>
    rw [hturn] at h
    cases h
  | some result =>
    obtain ⟨transport, event⟩ := result
    rw [hturn] at h
    cases h
    exact ⟨event, TcpPacketTransport.step_turned hturn, rfl⟩

end TcpHistory

end LadoFlow.Transport
