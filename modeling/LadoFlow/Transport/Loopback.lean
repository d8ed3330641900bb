import LadoFlow.Transport.Packet

/-!
# The in-memory link

Two endpoints share one locked link: a bounded control queue and a bounded media queue in each
direction. Every operation below is one critical section of the lock.
-/

namespace LadoFlow.Transport

structure LoopbackConfig where
  control : QueueLimits
  media : QueueLimits
  deriving DecidableEq, Repr

def defaultControlLimits : QueueLimits where
  maxPackets := 64
  maxQueuedBytes := 4 * 1024 * 1024
  maxPacketBytes := 64 * 1024
  packets_pos := by decide
  packet_bytes_pos := by decide
  packet_bytes_le := by decide

def defaultMediaLimits : QueueLimits where
  maxPackets := 3
  maxQueuedBytes := 32 * 1024 * 1024
  maxPacketBytes := 16 * 1024 * 1024
  packets_pos := by decide
  packet_bytes_pos := by decide
  packet_bytes_le := by decide

def LoopbackConfig.default : LoopbackConfig := ⟨defaultControlLimits, defaultMediaLimits⟩

structure BoundedQueue where
  limits : QueueLimits
  packets : List Packet
  queuedBytes : Nat
  deriving DecidableEq, Repr

namespace BoundedQueue

def new (limits : QueueLimits) : BoundedQueue := ⟨limits, [], 0⟩

def depth (queue : BoundedQueue) : QueueDepth := ⟨queue.packets.length, queue.queuedBytes⟩

/-- Whether `packet` makes the queued packet obsolete. -/
def supersedes (packet queued : Packet) : Bool :=
  packet.supersessionKey.isSome && queued.supersessionKey = packet.supersessionKey

def supersededBy (queue : BoundedQueue) (packet : Packet) : QueueDepth :=
  queue.packets.foldl
    (fun depth queued =>
      if supersedes packet queued then depth.saturatingAdd ⟨1, queued.len⟩ else depth)
    ⟨0, 0⟩

def tryPush (queue : BoundedQueue) (packet : Packet) :
    Except SendError SendReport × BoundedQueue :=
  let packetSize := packet.len
  if packetSize > queue.limits.maxPacketBytes then
    (.error (.packetTooLarge packet packetSize queue.limits.maxPacketBytes), queue)
  else
  let superseded := queue.supersededBy packet
  let retainedPackets := queue.packets.length - superseded.packets
  let retainedBytes := queue.queuedBytes - superseded.bytes
  let packetSlotsFull := retainedPackets ≥ queue.limits.maxPackets
  let byteCapacityFull := packetSize > queue.limits.maxQueuedBytes - retainedBytes
  if packetSlotsFull ∨ byteCapacityFull then
    (.error (.full packet queue.depth queue.limits), queue)
  else
    (.ok ⟨superseded⟩,
      { queue with
        packets := queue.packets.filter (fun queued => !supersedes packet queued) ++ [packet]
        queuedBytes := retainedBytes + packetSize })

def pop (queue : BoundedQueue) : Option Packet × BoundedQueue :=
  match queue.packets with
  | [] => (none, queue)
  | packet :: packets =>
    (some packet, { queue with packets, queuedBytes := queue.queuedBytes - packet.len })

def clear (queue : BoundedQueue) : QueueDepth × BoundedQueue :=
  (queue.depth, { queue with packets := [], queuedBytes := 0 })

/-- A push either fails and changes nothing, or appends the packet to what it does not
supersede. -/
theorem tryPush_cases (queue : BoundedQueue) (packet : Packet) :
    (∃ error, queue.tryPush packet = (.error error, queue)) ∨
    ∃ report queue', queue.tryPush packet = (.ok report, queue') ∧
      queue'.packets =
        queue.packets.filter (fun queued => !supersedes packet queued) ++ [packet] := by
  rw [tryPush]
  split
  · exact .inl ⟨_, rfl⟩
  · simp only
    split
    · exact .inl ⟨_, rfl⟩
    · exact .inr ⟨_, _, rfl, rfl⟩

theorem pop_cases (queue : BoundedQueue) :
    (queue.packets = [] ∧ queue.pop = (none, queue)) ∨
    ∃ packet queue', queue.pop = (some packet, queue') ∧
      queue.packets = packet :: queue'.packets := by
  rw [pop]
  cases h : queue.packets with
  | nil => exact .inl ⟨rfl, rfl⟩
  | cons packet packets => exact .inr ⟨packet, _, rfl, rfl⟩

end BoundedQueue

/-- The two queues of one direction. -/
structure Direction where
  control : BoundedQueue
  media : BoundedQueue
  deriving DecidableEq, Repr

namespace Direction

def new (config : LoopbackConfig) : Direction := ⟨.new config.control, .new config.media⟩

def queue (direction : Direction) : Channel → BoundedQueue
  | .control => direction.control
  | .media => direction.media

def setQueue (direction : Direction) (queue : BoundedQueue) : Channel → Direction
  | .control => { direction with control := queue }
  | .media => { direction with media := queue }

def tryPush (direction : Direction) (packet : Packet) :
    Except SendError SendReport × Direction :=
  let (result, queue) := (direction.queue packet.channel).tryPush packet
  (result, direction.setQueue queue packet.channel)

def pop (direction : Direction) (channel : Channel) : Option Packet × Direction :=
  let (packet, queue) := (direction.queue channel).pop
  (packet, direction.setQueue queue channel)

def clear (direction : Direction) : (QueueDepth × QueueDepth) × Direction :=
  let (controlDepth, control) := direction.control.clear
  let (mediaDepth, media) := direction.media.clear
  ((controlDepth, mediaDepth), { control, media })

@[simp] theorem queue_setQueue (direction : Direction) (queue : BoundedQueue)
    (channel : Channel) : (direction.setQueue queue channel).queue channel = queue := by
  cases channel <;> rfl

theorem queue_setQueue_ne (direction : Direction) (queue : BoundedQueue)
    {channel other : Channel} (h : other ≠ channel) :
    (direction.setQueue queue channel).queue other = direction.queue other := by
  cases channel <;> cases other <;> first | rfl | exact absurd rfl h

@[simp] theorem setQueue_queue (direction : Direction) (channel : Channel) :
    direction.setQueue (direction.queue channel) channel = direction := by
  cases channel <;> rfl

end Direction

inductive Side where
  | first
  | second
  deriving DecidableEq, Repr

structure Link where
  connected : Bool
  firstToSecond : Direction
  secondToFirst : Direction
  deriving DecidableEq, Repr

/-- Queue contents discarded across both directions by a disconnect. -/
structure DisconnectReport where
  wasConnected : Bool
  control : QueueDepth
  media : QueueDepth
  deriving DecidableEq, Repr

namespace Link

def new (config : LoopbackConfig) : Link := ⟨true, .new config, .new config⟩

def outgoing (link : Link) : Side → Direction
  | .first => link.firstToSecond
  | .second => link.secondToFirst

def incoming (link : Link) : Side → Direction
  | .first => link.secondToFirst
  | .second => link.firstToSecond

def setOutgoing (link : Link) (direction : Direction) : Side → Link
  | .first => { link with firstToSecond := direction }
  | .second => { link with secondToFirst := direction }

def setIncoming (link : Link) (direction : Direction) : Side → Link
  | .first => { link with secondToFirst := direction }
  | .second => { link with firstToSecond := direction }

@[simp] theorem outgoing_setOutgoing (link : Link) (direction : Direction) (side : Side) :
    (link.setOutgoing direction side).outgoing side = direction := by
  cases side <;> rfl

@[simp] theorem incoming_setIncoming (link : Link) (direction : Direction) (side : Side) :
    (link.setIncoming direction side).incoming side = direction := by
  cases side <;> rfl

def clear (link : Link) : (QueueDepth × QueueDepth) × Link :=
  let ((control₁, media₁), firstToSecond) := link.firstToSecond.clear
  let ((control₂, media₂), secondToFirst) := link.secondToFirst.clear
  ((control₁.saturatingAdd control₂, media₁.saturatingAdd media₂),
    { link with firstToSecond, secondToFirst })

/-- `LoopbackEndpoint::try_send` at the endpoint on `side`. -/
def trySend (link : Link) (side : Side) (packet : Packet) :
    Except SendError SendReport × Link :=
  if !link.connected then (.error (.disconnected packet), link)
  else
  let (result, direction) := (link.outgoing side).tryPush packet
  (result, link.setOutgoing direction side)

/-- `LoopbackEndpoint::try_receive` at the endpoint on `side`. -/
def tryReceive (link : Link) (side : Side) (channel : Channel) :
    Except ReceiveError (Option Packet) × Link :=
  if !link.connected then (.error .disconnected, link)
  else
  let (packet, direction) := (link.incoming side).pop channel
  (.ok packet, link.setIncoming direction side)

def disconnect (link : Link) : DisconnectReport × Link :=
  let ((control, media), cleared) := { link with connected := false }.clear
  (⟨link.connected, control, media⟩, cleared)

def reconnect (link : Link) : Bool × Link :=
  if link.connected then (false, link)
  else
  let (_, cleared) := link.clear
  (true, { cleared with connected := true })

/-- Everything a send on a connected link can do. -/
theorem trySend_cases {link : Link} (hconn : link.connected = true) (side : Side)
    (packet : Packet) :
    (∃ error, link.trySend side packet = (.error error, link)) ∨
    ∃ report link', link.trySend side packet = (.ok report, link') ∧ link'.connected = true ∧
      ((link'.outgoing side).queue packet.channel).packets =
        ((link.outgoing side).queue packet.channel).packets.filter
          (fun queued => !BoundedQueue.supersedes packet queued) ++ [packet] ∧
      ∀ other, other ≠ packet.channel →
        (link'.outgoing side).queue other = (link.outgoing side).queue other := by
  rw [trySend, hconn]
  rcases ((link.outgoing side).queue packet.channel).tryPush_cases packet with
    ⟨error, h⟩ | ⟨report, queue', h, hpackets⟩
  · refine .inl ⟨error, ?_⟩
    simp only [Direction.tryPush, h, Direction.setQueue_queue]
    cases side <;> rfl
  · refine .inr ⟨report, link.setOutgoing ((link.outgoing side).setQueue queue' packet.channel) side,
      ?_, ?_, ?_, fun other hne => ?_⟩
    · simp only [Direction.tryPush, h]
      rfl
    · cases side <;> exact hconn
    · rw [outgoing_setOutgoing, Direction.queue_setQueue, hpackets]
    · rw [outgoing_setOutgoing, Direction.queue_setQueue_ne _ _ hne]

/-- Everything a receive on a connected link can do. -/
theorem tryReceive_cases {link : Link} (hconn : link.connected = true) (side : Side)
    (channel : Channel) :
    (((link.incoming side).queue channel).packets = [] ∧
      link.tryReceive side channel = (.ok none, link)) ∨
    ∃ packet link', link.tryReceive side channel = (.ok (some packet), link') ∧
      link'.connected = true ∧
      ((link.incoming side).queue channel).packets =
        packet :: ((link'.incoming side).queue channel).packets ∧
      ∀ other, other ≠ channel →
        (link'.incoming side).queue other = (link.incoming side).queue other := by
  rw [tryReceive, hconn]
  rcases ((link.incoming side).queue channel).pop_cases with
    ⟨hempty, h⟩ | ⟨packet, queue', h, hpackets⟩
  · refine .inl ⟨hempty, ?_⟩
    simp only [Direction.pop, h, Direction.setQueue_queue]
    cases side <;> rfl
  · refine .inr ⟨packet, link.setIncoming ((link.incoming side).setQueue queue' channel) side,
      ?_, ?_, ?_, fun other hne => ?_⟩
    · simp only [Direction.pop, h]
      rfl
    · cases side <;> exact hconn
    · rw [incoming_setIncoming, Direction.queue_setQueue, hpackets]
    · rw [incoming_setIncoming, Direction.queue_setQueue_ne _ _ hne]

end Link

end LadoFlow.Transport
