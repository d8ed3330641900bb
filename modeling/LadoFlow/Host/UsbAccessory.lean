import LadoFlow.Transport.StreamLedger

/-!
# The accessory worker

`pump_bulk_stream` with one step for each critical section of the link and each bulk transfer, and
the disconnect of `run_bulk_session` at its end. The application holds the first endpoint of the
link and the worker the second.
-/

namespace LadoFlow.Host

open LadoFlow.Protocol LadoFlow.Transport Framework

def bulkTransferBytes : Nat := 64 * 1024

theorem usbControlLimits_valid : 0 < 64 ∧ 0 < frameHeaderLen + maxControlPayload ∧
    frameHeaderLen + maxControlPayload ≤ 4 * 1024 * 1024 := by decide

theorem usbMediaLimits_valid : 0 < 3 ∧ 0 < frameHeaderLen + maxMediaPayload ∧
    frameHeaderLen + maxMediaPayload ≤ 32 * 1024 * 1024 := by decide

def usbControlLimits : QueueLimits :=
  validQueueLimits 64 (4 * 1024 * 1024) (frameHeaderLen + maxControlPayload) usbControlLimits_valid

def usbMediaLimits : QueueLimits :=
  validQueueLimits 3 (32 * 1024 * 1024) (frameHeaderLen + maxMediaPayload) usbMediaLimits_valid

def usbQueueConfig : Transport.LoopbackConfig := ⟨usbControlLimits, usbMediaLimits⟩

/-- What a bulk transfer reports. -/
inductive BulkResult (α : Type) where
  | ok (value : α)
  | timeout
  | failed
  deriving DecidableEq, Repr

def BulkResult.value {α : Type} : BulkResult α → Option α
  | .ok value => some value
  | .timeout => none
  | .failed => none

inductive BulkError where
  | outgoingQueueInvalid (error : LdflStreamError)
  | writeFailed
  | writeMadeNoProgress
  | writeReported (written chunk : Nat)
  | streamInvalid (error : LdflStreamError)
  | queueRejected (error : SendError)
  | readFailed
  deriving DecidableEq

/-- `u64::saturating_add` of a counter. -/
def addCount (count added : Nat) : Nat := min (count + added) (2 ^ 64 - 1)

/-- The counters of the session. -/
structure LinkStatus where
  bytesRead : Nat
  bytesWritten : Nat
  framesRead : Nat
  framesWritten : Nat
  deriving DecidableEq

namespace LinkStatus

def default : LinkStatus := ⟨0, 0, 0, 0⟩

def countWritten (status : LinkStatus) (written : Nat) : LinkStatus :=
  { status with
    bytesWritten := addCount status.bytesWritten written
    framesWritten := addCount status.framesWritten 1 }

def countRead (status : LinkStatus) (count frames : Nat) : LinkStatus :=
  { status with
    bytesRead := addCount status.bytesRead count
    framesRead := addCount status.framesRead frames }

end LinkStatus

/-- The packet in `write_chunked` and how much of it is written. -/
structure ChunkedWrite where
  payload : Bytes
  offset : Nat
  deriving DecidableEq

def ChunkedWrite.chunk (outgoing : ChunkedWrite) : Bytes :=
  let stop := min (saturatingAdd outgoing.offset bulkTransferBytes) outgoing.payload.length
  (outgoing.payload.take stop).drop outgoing.offset

/-- Where the worker stands in its loop, or the result with which it left it. `count` and `frames`
are the size of the last transfer and the number of its packets. -/
inductive BulkPoint where
  | loopHead
  | next
  | write (outgoing : ChunkedWrite)
  | read
  | deliver (packets : List Packet) (count frames : Nat)
  | stopped (result : Except BulkError Unit)
  deriving DecidableEq

structure BulkWorker where
  link : Link
  cancel : Bool
  status : LinkStatus
  decoder : LdflPacketDecoder
  call : MuxCall
  point : BulkPoint

inductive BulkTurn where
  | trySend (packet : Packet)
  | tryReceive (channel : Channel)
  | stop
  | checkCancel
  | next
  | writeBulk (result : BulkResult Nat)
  | readBulk (result : BulkResult Bytes)
  | deliver
  deriving DecidableEq

/-- The packets of the last transfer that are not in the queues. -/
def BulkPoint.packets : BulkPoint → List Packet
  | .deliver packets _ _ => packets
  | .loopHead => []
  | .next => []
  | .write _ => []
  | .read => []
  | .stopped _ => []

namespace BulkWorker

def start : BulkWorker where
  link := .new usbQueueConfig
  cancel := false
  status := .default
  decoder := .new
  call := .start
  point := .loopHead

def finish (worker : BulkWorker) (result : Except BulkError Unit) : BulkWorker :=
  { worker with link := worker.link.disconnect.2, point := .stopped result }

def trySend (worker : BulkWorker) (packet : Packet) : Except SendError SendReport × BulkWorker :=
  let (result, link) := worker.link.trySend .first packet
  (result, { worker with link })

def tryReceive (worker : BulkWorker) (channel : Channel) :
    Except ReceiveError (Option Packet) × BulkWorker :=
  let (result, link) := worker.link.tryReceive .first channel
  (result, { worker with link })

def checkCancel (worker : BulkWorker) : BulkWorker :=
  if worker.cancel then worker.finish (.ok ()) else { worker with point := .next }

/-- The condition of the loop in `write_chunked`, and the counters after it. -/
def writeLoop (worker : BulkWorker) (outgoing : ChunkedWrite) : BulkWorker :=
  if outgoing.offset < outgoing.payload.length then { worker with point := .write outgoing }
  else { worker with status := worker.status.countWritten outgoing.offset, point := .read }

def next (worker : BulkWorker) : BulkWorker × StreamEvent :=
  let (call, link, result) := worker.call.advance worker.link .second
  let worker := { worker with call, link }
  match result with
  | none => (worker, .silent)
  | some (.error error) => (worker.finish (.error (.outgoingQueueInvalid error)), .silent)
  | some (.ok none) => ({ worker with point := .read }, .silent)
  | some (.ok (some packet)) => (worker.writeLoop ⟨packet.payload, 0⟩, .emitted packet)

def writeBulk (worker : BulkWorker) (outgoing : ChunkedWrite) :
    BulkResult Nat → BulkWorker × StreamEvent
  | .ok 0 => (worker.finish (.error .writeMadeNoProgress), .silent)
  | .ok written =>
    if written > outgoing.chunk.length then
      (worker.finish (.error (.writeReported written outgoing.chunk.length)), .silent)
    else
      (worker.writeLoop { outgoing with offset := outgoing.offset + written },
        .sent (outgoing.chunk.take written))
  | .timeout => (worker.finish (.error .writeFailed), .silent)
  | .failed => (worker.finish (.error .writeFailed), .silent)

def readBulk (worker : BulkWorker) : BulkResult Bytes → BulkWorker × StreamEvent
  | .ok [] => ({ worker with point := .loopHead }, .silent)
  | .timeout => ({ worker with point := .loopHead }, .silent)
  | .ok bytes =>
    match worker.decoder.push bytes with
    | (decoder, .error error) =>
      ({ worker with decoder }.finish (.error (.streamInvalid error)), .consumed bytes [])
    | (decoder, .ok packets) =>
      ({ worker with decoder, point := .deliver packets bytes.length packets.length },
        .consumed bytes packets)
  | .failed => (worker.finish (.error .readFailed), .silent)

/-- One iteration of the loop over the decoded packets; any refusal ends the worker. -/
def deliver (worker : BulkWorker) (packets : List Packet) (count frames : Nat) : BulkWorker :=
  match packets with
  | [] => { worker with status := worker.status.countRead count frames, point := .loopHead }
  | packet :: packets =>
    match worker.link.trySend .second packet with
    | (.ok _, link) => { worker with link, point := .deliver packets count frames }
    | (.error error, link) => { worker with link }.finish (.error (.queueRejected error))

/-- A read fills at most its buffer. -/
def step (worker : BulkWorker) : BulkTurn → Option (BulkWorker × StreamEvent)
  | .trySend packet =>
    match worker.trySend packet with
    | (.ok _, worker) => some (worker, .accepted packet)
    | (.error _, worker) => some (worker, .silent)
  | .tryReceive channel =>
    match worker.tryReceive channel with
    | (.ok (some packet), worker) => some (worker, .received channel packet)
    | (_, worker) => some (worker, .silent)
  | .stop => some ({ worker with cancel := true }, .silent)
  | .checkCancel =>
    if worker.point = .loopHead then some (worker.checkCancel, .silent) else none
  | .next => if worker.point = .next then some worker.next else none
  | .writeBulk result =>
    match worker.point with
    | .write outgoing => some (worker.writeBulk outgoing result)
    | _ => none
  | .readBulk result =>
    if worker.point = .read ∧ ∀ bytes ∈ result.value, bytes.length ≤ bulkTransferBytes
    then some (worker.readBulk result) else none
  | .deliver =>
    match worker.point with
    | .deliver packets count frames => some (worker.deliver packets count frames, .silent)
    | _ => none

/-- Everything a turn can do. -/
inductive Turned (worker : BulkWorker) : BulkTurn → BulkWorker → StreamEvent → Prop
  | accepted (packet : Packet) (report : SendReport) (link : Link)
      (hsend : worker.link.trySend .first packet = (.ok report, link)) :
      Turned worker (.trySend packet) { worker with link } (.accepted packet)
  | refused (packet : Packet) : Turned worker (.trySend packet) worker .silent
  | received (channel : Channel) (packet : Packet) (link : Link)
      (hreceive : worker.link.tryReceive .first channel = (.ok (some packet), link)) :
      Turned worker (.tryReceive channel) { worker with link } (.received channel packet)
  | nothing (channel : Channel) : Turned worker (.tryReceive channel) worker .silent
  | stop : Turned worker .stop { worker with cancel := true } .silent
  | checkCancel (hpoint : worker.point = .loopHead) :
      Turned worker .checkCancel worker.checkCancel .silent
  | next (hpoint : worker.point = .next) : Turned worker .next worker.next.1 worker.next.2
  | writeBulk (outgoing : ChunkedWrite) (hpoint : worker.point = .write outgoing)
      (result : BulkResult Nat) :
      Turned worker (.writeBulk result) (worker.writeBulk outgoing result).1
        (worker.writeBulk outgoing result).2
  | readBulk (hpoint : worker.point = .read) (result : BulkResult Bytes)
      (hsize : ∀ bytes ∈ result.value, bytes.length ≤ bulkTransferBytes) :
      Turned worker (.readBulk result) (worker.readBulk result).1 (worker.readBulk result).2
  | deliver (packets : List Packet) (count frames : Nat)
      (hpoint : worker.point = .deliver packets count frames) :
      Turned worker .deliver (worker.deliver packets count frames) .silent

theorem step_turned {worker after : BulkWorker} {turn : BulkTurn} {event : StreamEvent}
    (h : worker.step turn = some (after, event)) : Turned worker turn after event := by
  cases turn with
  | trySend packet =>
    simp only [step, trySend] at h
    cases hsend : worker.link.trySend .first packet with
    | mk result link =>
      rw [hsend] at h
      cases result with
      | ok report =>
        cases h
        exact .accepted packet report link hsend
      | error error =>
        rw [Link.trySend_error hsend] at h
        cases h
        exact .refused packet
  | tryReceive channel =>
    simp only [step, tryReceive] at h
    cases hreceive : worker.link.tryReceive .first channel with
    | mk result link =>
      have hsame := Link.tryReceive_none hreceive
      rw [hreceive] at h
      cases result with
      | error error =>
        rw [hsame nofun] at h
        cases h
        exact .nothing channel
      | ok packet =>
        cases packet with
        | none =>
          rw [hsame nofun] at h
          cases h
          exact .nothing channel
        | some packet =>
          cases h
          exact .received channel packet link hreceive
  | stop =>
    cases h
    exact .stop
  | checkCancel =>
    obtain ⟨hpoint, h⟩ := Option.ite_none_right_eq_some.mp h
    cases h
    exact .checkCancel hpoint
  | next =>
    obtain ⟨hpoint, h⟩ := Option.ite_none_right_eq_some.mp h
    have hturned : Turned worker .next worker.next.1 worker.next.2 := .next hpoint
    rw [Option.some.inj h] at hturned
    exact hturned
  | writeBulk result =>
    simp only [step] at h
    split at h
    · rename_i outgoing hpoint
      have hturned := Turned.writeBulk outgoing hpoint result
      rw [Option.some.inj h] at hturned
      exact hturned
    · cases h
  | readBulk result =>
    obtain ⟨⟨hpoint, hsize⟩, h⟩ := Option.ite_none_right_eq_some.mp h
    have hturned := Turned.readBulk hpoint result hsize
    rw [Option.some.inj h] at hturned
    exact hturned
  | deliver =>
    simp only [step] at h
    split at h
    · rename_i packets count frames hpoint
      cases h
      exact .deliver packets count frames hpoint
    · cases h

theorem running_of_point {worker : BulkWorker} {point : BulkPoint} (hpoint : worker.point = point)
    (hrunning : ∀ result, point ≠ .stopped result) (result : Except BulkError Unit) :
    worker.point ≠ .stopped result := by
  rw [hpoint]
  exact hrunning result

end BulkWorker

/-- A worker with its application and the ledger of both. -/
structure BulkHistory where
  worker : BulkWorker
  ledger : StreamLedger

namespace BulkHistory

def start : BulkHistory := ⟨.start, .empty⟩

def step (s : BulkHistory) (turn : BulkTurn) : Option BulkHistory :=
  match s.worker.step turn with
  | some (worker, event) => some ⟨worker, s.ledger.apply event⟩
  | none => none

def machine : Machine BulkHistory BulkTurn := ⟨step⟩

theorem step_turned {s t : BulkHistory} {turn : BulkTurn} (h : s.step turn = some t) :
    ∃ event, s.worker.Turned turn t.worker event ∧ t.ledger = s.ledger.apply event := by
  rw [step] at h
  cases hturn : s.worker.step turn with
  | none =>
    rw [hturn] at h
    cases h
  | some result =>
    obtain ⟨worker, event⟩ := result
    rw [hturn] at h
    cases h
    exact ⟨event, BulkWorker.step_turned hturn, rfl⟩

end BulkHistory

end LadoFlow.Host
