import LadoFlow.Host.SharedState
import LadoFlow.Media.Synthetic
import LadoFlow.Transport.QueueInvariant

/-!
# The loopback worker

A synthetic producer sends frames to a display in the same process. The worker does not read the
queue of the link; it reconstructs its depth from the reports of the sends and from the frames whose
send time it remembers.
-/

namespace LadoFlow.Host

open LadoFlow.Protocol LadoFlow.Core LadoFlow.Media LadoFlow.Transport Framework

def mediaStreamKey : SupersessionKey := ⟨1⟩

/-- The packet of one frame; only a key frame cannot be superseded. -/
def protocolPacket (frame : MediaFrame) : Except HostError Packet := do
  let metadata := frame.metadata
  let duration ← durationMicrosU32 metadata.duration
  let wireMetadata ← liftProtocol (VideoFrameMetadata.new metadata.sequence
    (durationMicrosU64 metadata.captureTime) (durationMicrosU64 metadata.presentationTime) duration)
  let videoFrame ← liftProtocol (VideoFrame.new wireMetadata frame.payload)
  let flags := if metadata.kind = .key then FrameFlags.keyframe else FrameFlags.none
  let wireFrame ← liftProtocol (Frame.fromPayload flags metadata.sequence videoFrame)
  .ok (if metadata.kind = .key then .media wireFrame.encode
    else .replaceableMedia mediaStreamKey wireFrame.encode)

/-- The sequence of the video frame that a packet holds whole. -/
def presentedSequence (packet : Packet) : Option UInt64 :=
  match Frame.decodePrefix packet.payload with
  | .ok (.complete frame consumed) =>
    if consumed ≠ packet.len then none
    else
    match frame.decodePayload VideoFrame with
    | .ok videoFrame => some videoFrame.metadata.frameId
    | .error _ => none
  | _ => none

/-- The clock readings of one iteration. -/
structure LoopbackClock where
  polled : Duration
  sent : Duration
  presented : Duration

namespace SharedState

variable (state : SharedState)

def countDropped (count : Nat) : SharedState :=
  { state with framesDropped := countUp state.framesDropped count }

/-- An active session observes the sequence; whether the frame may be presented. -/
def observePresented (sequence : UInt64) : Bool × SharedState :=
  match state.session with
  | none => (true, state)
  | some session =>
    if session.phase = .active then
      match (Session.observeSequence sequence).run.run session with
      | (.error _, session) => (false, { state with session := some session })
      | (.ok _, session) => (true, { state with session := some session })
    else (true, state)

/-- A latency beyond 64 bits of microseconds counts as a drop. -/
def recordLatency (latency : Duration) : SharedState :=
  if latency.nanos / 1000 ≤ u64Max then
    { state with latency := state.latency.record (latency.nanos / 1000) }
  else state.countDropped 1

def countSent (superseded : Nat) : SharedState :=
  { state with
    framesProduced := countUp state.framesProduced 1
    framesSuperseded := countUp state.framesSuperseded superseded
    queueDepth := Transport.saturatingAdd (state.queueDepth - superseded) 1 }

def countPresented : SharedState :=
  { state with
    framesPresented := countUp state.framesPresented 1
    queueDepth := state.queueDepth - 1 }

end SharedState

/-- The variables of the loop. The host is the first endpoint of the link. -/
structure LoopbackWorker where
  link : Link
  producer : SyntheticFrameProducer
  pacer : FramePacer
  sentAt : UInt64 → Option Duration
  lastKeySequence : Option UInt64
  shared : SharedState

namespace LoopbackWorker

/-- The worker for a configuration that its constructors accept. -/
def new (config : LoopbackConfig) (shared : SharedState) : Option LoopbackWorker := do
  let frameRate ← (FrameRate.fromHz config.fps.toUInt32).toOption
  let dimensions ← (FrameDimensions.new config.width.toUInt32 config.height.toUInt32).toOption
  let synthetic ← (SyntheticConfig.new ⟨dimensions, frameRate⟩ (4 * 1024)
    (config.fps.toUInt64 * 2)).toOption
  some
    { link := .new .default
      producer := .new (synthetic.withSeed 0x4c44464c)
      pacer := .new frameRate (.ofNanos 0)
      sentAt := fun _ => none
      lastKeySequence := none
      shared }

variable (worker : LoopbackWorker)

/-- The packets on their way to the display. -/
def mediaQueue : List Packet := worker.link.firstToSecond.media.packets

/-- The packet joins the queue, or the frame is dropped. -/
def send (sequence : UInt64) (isKey : Bool) (packet : Packet) (now : Duration) : LoopbackWorker :=
  match worker.link.trySend .first packet with
  | (.error _, link) => { worker with link, shared := worker.shared.countDropped 1 }
  | (.ok report, link) =>
    let superseded := report.superseded.packets
    let sentAt := if superseded > 0 then
        fun queued => if some queued = worker.lastKeySequence then worker.sentAt queued else none
      else worker.sentAt
    { worker with
      link
      lastKeySequence := if isKey then some sequence else worker.lastKeySequence
      sentAt := fun queued => if queued = sequence then some now else sentAt queued
      shared := worker.shared.countSent superseded }

def presentLatest (now : Duration) : LoopbackWorker :=
  match worker.link.tryReceive .second .media with
  | (.ok (some packet), link) =>
    let worker := { worker with link }
    match presentedSequence packet with
    | none => { worker with shared := worker.shared.countDropped 1 }
    | some sequence =>
    match worker.sentAt sequence with
    | none => worker
    | some startedAt =>
      let sentAt := fun queued => if queued = sequence then none else worker.sentAt queued
      match worker.shared.observePresented sequence with
      | (false, shared) => { worker with sentAt, shared := shared.countDropped 1 }
      | (true, shared) =>
        { worker with
          sentAt
          shared := shared.countPresented.recordLatency (now.saturatingSub startedAt) }
  | (_, link) => { worker with link }

/-- Send the frame of a due slot, and present one frame except at every 120th. -/
def deliver (frame : MediaFrame) (clock : LoopbackClock) : LoopbackWorker :=
  match protocolPacket frame with
  | .error _ => { worker with shared := worker.shared.countDropped 1 }
  | .ok packet =>
    let sequence := frame.metadata.sequence
    let worker := worker.send sequence (frame.metadata.kind = .key) packet clock.sent
    if sequence % 120 ≠ 0 then worker.presentLatest clock.presented else worker

/-- Skip the slots before the due one. -/
def skipTo (tick : PacingTick) : LoopbackWorker :=
  if tick.skipped > 0 then
    { worker with
      producer := (worker.producer.advanceToSequence (UInt64.ofNat tick.index)).2
      shared := worker.shared.countDropped tick.skipped }
  else worker

/-- One iteration of the loop, or none when the loop ends. -/
def iterate (clock : LoopbackClock) : Option LoopbackWorker :=
  match worker.pacer.poll clock.polled with
  | (.exhausted, _) => none
  | (.waitUntil _, _) => some worker
  | (.due tick, pacer) =>
    let worker := { worker with pacer }.skipTo tick
    match worker.producer.nextFrame with
    | (none, _) => none
    | (some frame, producer) => some ({ worker with producer }.deliver frame clock)

def machine : Machine LoopbackWorker LoopbackClock := ⟨iterate⟩

end LoopbackWorker

end LadoFlow.Host
