import LadoFlow.Transport.TcpStream

/-!
# The inbound direction of the TCP worker

On a valid stream, however it is cut into reads, the decoder returns no error, the inbound queues
accept every packet or ask to wait, and the application receives the decoded packets in order.
-/

namespace LadoFlow.Transport

open LadoFlow.Protocol Framework

/-- The lanes of a link keep the limits they were made with, and their accounting. -/
def Link.Accounted (config : LoopbackConfig) (link : Link) : Prop :=
  ∀ side channel, (link.lane side channel).limits = config.limits channel ∧
    (link.lane side channel).Bounded

theorem tcpQueueConfig_range : LinkHistory.UsizeRange tcpQueueConfig := by
  intro channel
  cases channel <;> decide

section Accounted

variable {config : LoopbackConfig} {link after : Link}

theorem Link.accounted_new (config : LoopbackConfig) : (Link.new config).Accounted config := by
  intro side channel
  rw [Link.lane_new]
  exact ⟨rfl, BoundedQueue.bounded_new _⟩

@[simp] theorem BoundedQueue.tryPush_limits (queue : BoundedQueue) (packet : Packet) :
    (queue.tryPush packet).2.limits = queue.limits := by
  rw [tryPush]
  split
  · rfl
  · simp only
    split <;> rfl

@[simp] theorem BoundedQueue.pop_limits (queue : BoundedQueue) :
    queue.pop.2.limits = queue.limits := by
  rw [pop]
  split <;> rfl

theorem Link.Accounted.setLane {queue : BoundedQueue} {side : Side} {channel : Channel}
    (h : link.Accounted config) (hlimits : queue.limits = config.limits channel)
    (hbounded : queue.Bounded) : (link.setLane queue side channel).Accounted config := by
  intro other channel'
  by_cases hlane : other = side ∧ channel' = channel
  · obtain ⟨hside, hchannel⟩ := hlane
    subst hside hchannel
    rw [lane_setLane_self]
    exact ⟨hlimits, hbounded⟩
  · rw [lane_setLane_ne hlane]
    exact h other channel'

theorem Link.Accounted.trySend (h : link.Accounted config) (hrange : LinkHistory.UsizeRange config)
    (side : Side) (packet : Packet) : (link.trySend side packet).2.Accounted config := by
  cases hconnected : link.connected with
  | false =>
    rw [trySend_disconnected hconnected]
    exact h
  | true =>
    obtain ⟨hlimits, hbounded⟩ := h side packet.channel
    obtain ⟨hpackets, hbytes⟩ := hrange packet.channel
    rw [← hlimits] at hpackets hbytes
    rw [trySend_eq hconnected]
    apply h.setLane
    · rw [BoundedQueue.tryPush_limits]
      exact hlimits
    · exact hbounded.push (BoundedQueue.tryPush_effect hbounded hpackets hbytes)

theorem Link.Accounted.tryReceive (h : link.Accounted config) (side : Side) (channel : Channel) :
    (link.tryReceive side channel).2.Accounted config := by
  cases hconnected : link.connected with
  | false =>
    rw [tryReceive_disconnected hconnected]
    exact h
  | true =>
    obtain ⟨hlimits, hbounded⟩ := h side.other channel
    rw [tryReceive_eq hconnected]
    apply h.setLane
    · rw [BoundedQueue.pop_limits]
      exact hlimits
    · exact hbounded.pop

theorem Link.Accounted.disconnect (h : link.Accounted config) :
    link.disconnect.2.Accounted config := by
  intro side channel
  rw [disconnect_lane]
  exact ⟨(h side channel).1, BoundedQueue.bounded_clear _⟩

theorem MuxCall.Effect.accounted {side : Side} {call call' : MuxCall}
    {result : Option NextResult} (heffect : call.Effect link side call' after result)
    (h : link.Accounted config) : after.Accounted config := by
  cases heffect with
  | passed => exact h
  | empty => exact h
  | failed => exact h
  | idle => exact h
  | emitted => exact h
  | took point channel packet queue _ _ hpop =>
    obtain ⟨hlimits, hbounded⟩ := h side.other channel
    have hlimits' := BoundedQueue.pop_limits (link.lane side.other channel)
    have hbounded' := hbounded.pop
    rw [hpop] at hlimits' hbounded'
    exact h.setLane (hlimits'.trans hlimits) hbounded'

/-- A packet within the size limit is accepted by the empty queue. -/
theorem Link.Accounted.trySend_empty (h : link.Accounted config) (hconnected : link.connected = true)
    {side : Side} {packet : Packet} (hempty : (link.lane side packet.channel).packets = [])
    (hsize : packet.len ≤ (config.limits packet.channel).maxPacketBytes) :
    ∃ report, (link.trySend side packet).1 = .ok report := by
  obtain ⟨hlimits, hbounded⟩ := h side packet.channel
  have hbytes := hbounded.bytes_eq
  rw [hempty, totalBytes_nil] at hbytes
  rw [← hlimits] at hsize
  have hpackets := (link.lane side packet.channel).limits.packets_pos
  have hcapacity := (link.lane side packet.channel).limits.packet_bytes_le
  have hnone : (link.lane side packet.channel).supersededBy packet = ⟨0, 0⟩ := by
    rw [BoundedQueue.supersededBy, hempty]
    rfl
  refine ⟨⟨⟨0, 0⟩⟩, ?_⟩
  rw [trySend_eq hconnected, BoundedQueue.tryPush, if_neg (by omega)]
  simp only [hnone, hempty, hbytes, List.length_nil]
  rw [if_neg (by omega)]

end Accounted

/-- A critical section of `next` takes from the lanes of the other side only. -/
theorem MuxCall.Effect.frame {link after : Link} {side : Side} {call call' : MuxCall}
    {result : Option NextResult} (heffect : call.Effect link side call' after result) :
    after.connected = link.connected ∧
      ∀ channel, after.lane side channel = link.lane side channel := by
  cases heffect with
  | passed => exact ⟨rfl, fun _ => rfl⟩
  | empty => exact ⟨rfl, fun _ => rfl⟩
  | failed => exact ⟨rfl, fun _ => rfl⟩
  | idle => exact ⟨rfl, fun _ => rfl⟩
  | emitted => exact ⟨rfl, fun _ => rfl⟩
  | took =>
    refine ⟨Link.setLane_connected, ?_⟩
    intro channel
    apply Link.lane_setLane_ne
    cases side <;> simp [Side.other]

/-- Two ledgers that agree on the inbound direction. -/
structure StreamLedger.SameInbound (ledger ledger' : StreamLedger) : Prop where
  received : ledger'.received = ledger.received
  decoded : ledger'.decoded = ledger.decoded
  consumed : ledger'.consumed = ledger.consumed

/-- The packet fits its channel: it is the packet of a frame within the protocol's limits. -/
def FromFrame (packet : Packet) : Prop := ∃ frame : Frame, packet = packetFromFrame frame

theorem FromFrame.key {packet : Packet} (h : FromFrame packet) : packet.supersessionKey = none := by
  obtain ⟨frame, hframe⟩ := h
  rw [hframe]
  exact packetFromFrame_key frame

/-- A frame within its payload limit fits the queue of its channel. -/
theorem len_le_of_frame {packet : Packet} {frame : Frame} (hpayload : packet.payload = frame.encode)
    (hchannel : packet.channel = channelForMessage frame.header.kind) :
    packet.len ≤ (tcpQueueConfig.limits packet.channel).maxPacketBytes := by
  have hlimit := frame.header.payloadLen_le
  rw [Packet.len, hpayload, hchannel, Frame.encode_length, Frame.encodedLen, frame.payload_length]
  cases hkind : frame.header.kind <;> rw [hkind] at hlimit <;>
    exact Nat.add_le_add_left hlimit frameHeaderLen

theorem FromFrame.len_le {packet : Packet} (h : FromFrame packet) :
    packet.len ≤ (tcpQueueConfig.limits packet.channel).maxPacketBytes := by
  obtain ⟨frame, hframe⟩ := h
  subst hframe
  exact len_le_of_frame (packetFromFrame_payload frame) (packetFromFrame_channel frame)

theorem Link.Accounted.trySend_room {link : Link} {packet : Packet} {side : Side}
    (h : link.Accounted tcpQueueConfig) (hconnected : link.connected = true)
    (hframe : FromFrame packet) :
    ((link.lane side packet.channel).HasRoom packet →
      ∃ report, (link.trySend side packet).1 = .ok report) ∧
    (¬(link.lane side packet.channel).HasRoom packet →
      ∃ error, (link.trySend side packet).1 = .error error) := by
  have hsize := hframe.len_le
  rw [← (h side packet.channel).1] at hsize
  rw [Link.trySend_eq hconnected]
  exact BoundedQueue.tryPush_room hframe.key hsize

namespace TcpPacketTransport

/-- The inbound direction of the worker and its ledger. -/
structure Reads (transport : TcpPacketTransport) (ledger : StreamLedger) : Prop where
  connected : (∀ result, transport.point ≠ .stopped result) → transport.link.connected = true
  accounted : transport.link.Accounted tcpQueueConfig
  decodes : ∃ frames, Decodes transport.decoder ledger frames
  delivers : Delivers transport.link transport.inbound ledger
  inbound : ∀ packet ∈ transport.inbound, FromFrame packet
  bytesRead : transport.status.bytesRead = min ledger.consumed.length (2 ^ 64 - 1)
  framesRead : transport.status.framesRead = min ledger.decoded.length (2 ^ 64 - 1)
  stream_valid : ∀ error, transport.point ≠ .stopped (.error (.inboundStreamInvalid error))
  queue_accepts : ∀ error, transport.point ≠ .stopped (.error (.inboundQueueRejected error))

theorem reads_start : Reads start .empty where
  connected := fun _ => rfl
  accounted := Link.accounted_new _
  decodes := ⟨[], decodes_new⟩
  delivers := delivers_new _
  inbound := by simp [start]
  bytesRead := rfl
  framesRead := rfl
  stream_valid := by simp [start]
  queue_accepts := by simp [start]

variable {transport : TcpPacketTransport} {ledger ledger' : StreamLedger}

theorem Reads.sameLedger (h : Reads transport ledger) (hsame : ledger.SameInbound ledger') :
    Reads transport ledger' := by
  obtain ⟨frames, hdecodes⟩ := h.decodes
  refine ⟨h.connected, h.accounted, ⟨frames, ?_⟩, ⟨?_, ?_⟩, h.inbound, ?_, ?_, h.stream_valid,
    h.queue_accepts⟩
  · refine ⟨hdecodes.limit, hdecodes.partial_frame, ?_, ?_⟩
    · rw [hsame.consumed]
      exact hdecodes.consumed
    · rw [hsame.decoded]
      exact hdecodes.decoded
  · rw [hsame.received, hsame.decoded]
    exact h.delivers.received
  · rw [hsame.received, hsame.decoded]
    exact h.delivers.exact
  · rw [hsame.consumed]
    exact h.bytesRead
  · rw [hsame.decoded]
    exact h.framesRead

/-- Moving on to another point of the loop. -/
theorem Reads.goto (h : Reads transport ledger) (point : TcpPoint)
    (hrunning : ∀ result, transport.point ≠ .stopped result)
    (hpoint : ∀ result, point ≠ .stopped result) : Reads { transport with point } ledger where
  connected := fun _ => h.connected hrunning
  accounted := h.accounted
  decodes := h.decodes
  delivers := h.delivers
  inbound := h.inbound
  bytesRead := h.bytesRead
  framesRead := h.framesRead
  stream_valid := fun _ => hpoint _
  queue_accepts := fun _ => hpoint _

theorem Reads.finish (h : Reads transport ledger) (result : Except TcpStreamError Unit)
    (hstream : ∀ error, result ≠ .error (.inboundStreamInvalid error))
    (hqueue : ∀ error, result ≠ .error (.inboundQueueRejected error)) :
    Reads (transport.finish result) ledger where
  connected := fun hrunning => absurd rfl (hrunning result)
  accounted := h.accounted.disconnect
  decodes := h.decodes
  delivers := h.delivers.stop _
  inbound := h.inbound
  bytesRead := h.bytesRead
  framesRead := h.framesRead
  stream_valid := fun error hpoint => hstream error (TcpPoint.stopped.inj hpoint)
  queue_accepts := fun error hpoint => hqueue error (TcpPoint.stopped.inj hpoint)

/-- A change of the outbound lanes alone. -/
theorem Reads.relink (h : Reads transport ledger) {link : Link}
    (hconnected : link.connected = transport.link.connected) (haccounted : link.Accounted tcpQueueConfig)
    (hlanes : ∀ channel, link.lane .second channel = transport.link.lane .second channel) :
    Reads { transport with link } ledger where
  connected := fun hrunning => hconnected.trans (h.connected hrunning)
  accounted := haccounted
  decodes := h.decodes
  delivers := h.delivers.relink (fun hlink => hconnected.symm.trans hlink) hlanes
  inbound := h.inbound
  bytesRead := h.bytesRead
  framesRead := h.framesRead
  stream_valid := h.stream_valid
  queue_accepts := h.queue_accepts

theorem Reads.trySend (h : Reads transport ledger) (packet : Packet) :
    Reads (transport.trySend packet).2 ledger := by
  obtain ⟨hconnected, hlanes⟩ := transport.link.trySend_frame .first packet
  rw [TcpPacketTransport.trySend]
  exact h.relink hconnected (h.accounted.trySend tcpQueueConfig_range .first packet) fun channel =>
    hlanes .second channel (by simp)

theorem Reads.tryReceive (h : Reads transport ledger) {channel : Channel} {link : Link}
    {packet : Packet}
    (hreceive : transport.link.tryReceive .first channel = (.ok (some packet), link)) :
    Reads { transport with link } (ledger.apply (.received channel packet)) := by
  obtain ⟨frames, hdecodes⟩ := h.decodes
  have haccounted := h.accounted.tryReceive .first channel
  have hconnected := (transport.link.tryReceive_frame .first channel).1
  rw [hreceive] at haccounted hconnected
  exact
    { connected := fun hrunning => hconnected.trans (h.connected hrunning)
      accounted := haccounted
      decodes := ⟨frames, hdecodes.limit, hdecodes.partial_frame, hdecodes.consumed, hdecodes.decoded⟩
      delivers := h.delivers.receive hreceive
      inbound := h.inbound
      bytesRead := h.bytesRead
      framesRead := h.framesRead
      stream_valid := h.stream_valid
      queue_accepts := h.queue_accepts }

/-- A connected inbound queue accepts the packet of a frame or asks to wait. -/
theorem Reads.accepts_or_full (h : Reads transport ledger)
    (hconnected : transport.link.connected = true) (side : Side) {packet : Packet}
    (hframe : FromFrame packet) :
    (∃ report, (transport.link.trySend side packet).1 = .ok report) ∨
      ∃ depth limits, (transport.link.trySend side packet).1 = .error (.full packet depth limits) := by
  have hsize := hframe.len_le
  rw [← (h.accounted side packet.channel).1] at hsize
  rw [Link.trySend_eq hconnected, BoundedQueue.tryPush, if_neg (by omega)]
  simp only
  split
  · exact .inr ⟨_, _, rfl⟩
  · exact .inl ⟨_, rfl⟩

theorem Reads.drainInbound (h : Reads transport ledger) (hpoint : transport.point = .drain) :
    Reads transport.drainInbound ledger := by
  have hrunning := running_of_point hpoint (by simp)
  have hconnected := h.connected hrunning
  rcases transport.drainInbound_cases with ⟨_, hdrain⟩ |
    ⟨packet, waiting, report, link, hinbound, hsend, hdrain⟩ |
    ⟨packet, waiting, error, hinbound, hsend, hfull, hdrain⟩
  · rw [hdrain]
    exact h.goto _ hrunning transport.afterDrain_ne_stopped
  · have hdelivers := h.delivers
    have hframes := h.inbound
    have haccounted := h.accounted.trySend tcpQueueConfig_range .second packet
    have hlink := (transport.link.trySend_frame .second packet).1
    rw [hinbound] at hdelivers hframes
    rw [hsend] at haccounted hlink
    rw [hdrain]
    exact
      { connected := fun _ => hlink.trans hconnected
        accounted := haccounted
        decodes := h.decodes
        delivers := hdelivers.deliver (hframes packet List.mem_cons_self).key hsend
        inbound := fun queued hqueued => hframes queued (List.mem_cons_of_mem packet hqueued)
        bytesRead := h.bytesRead
        framesRead := h.framesRead
        stream_valid := h.stream_valid
        queue_accepts := h.queue_accepts }
  · have hframe := h.inbound packet (by rw [hinbound]; exact List.mem_cons_self)
    rcases h.accepts_or_full hconnected .second hframe with ⟨report, hok⟩ | ⟨depth, limits, herror⟩
    · cases hsend.symm.trans hok
    · cases hsend.symm.trans herror
      exact absurd rfl (hfull depth limits)

/-- A step of the outbound direction. -/
structure Outward (transport after : TcpPacketTransport) : Prop where
  connected : after.link.connected = transport.link.connected
  accounted : transport.link.Accounted tcpQueueConfig → after.link.Accounted tcpQueueConfig
  lanes : ∀ channel, after.link.lane .second channel = transport.link.lane .second channel
  decoder : after.decoder = transport.decoder
  inbound : after.inbound = transport.inbound
  bytesRead : after.status.bytesRead = transport.status.bytesRead
  framesRead : after.status.framesRead = transport.status.framesRead
  running : ∀ result, after.point ≠ .stopped result

theorem Reads.outward {after : TcpPacketTransport} (h : Reads transport ledger)
    (hrunning : ∀ result, transport.point ≠ .stopped result) (hout : Outward transport after) :
    Reads after ledger where
  connected := fun _ => hout.connected.trans (h.connected hrunning)
  accounted := hout.accounted h.accounted
  decodes := by
    rw [hout.decoder]
    exact h.decodes
  delivers := by
    rw [hout.inbound]
    exact h.delivers.relink (fun hlink => hout.connected.symm.trans hlink) hout.lanes
  inbound := by
    rw [hout.inbound]
    exact h.inbound
  bytesRead := by
    rw [hout.bytesRead]
    exact h.bytesRead
  framesRead := by
    rw [hout.framesRead]
    exact h.framesRead
  stream_valid := fun _ => hout.running _
  queue_accepts := fun _ => hout.running _

theorem sameInbound_event (result : Option NextResult) :
    ledger.SameInbound (ledger.apply (MuxCall.event result)) := by
  cases result with
  | none => exact ⟨rfl, rfl, rfl⟩
  | some result =>
    cases result with
    | error error => exact ⟨rfl, rfl, rfl⟩
    | ok packet => cases packet <;> exact ⟨rfl, rfl, rfl⟩

theorem next_event (transport : TcpPacketTransport) :
    transport.next.2 = MuxCall.event (transport.call.advance transport.link .second).2.2 := by
  rw [next]
  cases transport.call.advance transport.link .second with
  | mk call rest =>
    obtain ⟨link, result⟩ := rest
    cases result with
    | none => rfl
    | some result =>
      cases result with
      | error error => rfl
      | ok packet => cases packet <;> rfl

theorem Reads.next (h : Reads transport ledger) (hpoint : transport.point = .next) :
    Reads transport.next.1 (ledger.apply transport.next.2) := by
  have hrunning := running_of_point hpoint (by simp)
  rw [next_event]
  apply Reads.sameLedger ?_ (sameInbound_event _)
  have heffect : transport.call.Effect transport.link .second _ _ _ := MuxCall.advance_effect
  rw [TcpPacketTransport.next]
  cases hadvance : transport.call.advance transport.link .second with
  | mk call rest =>
    obtain ⟨link, result⟩ := rest
    rw [hadvance] at heffect
    obtain ⟨hconnected, hlanes⟩ := heffect.frame
    have haccounted : transport.link.Accounted tcpQueueConfig → link.Accounted tcpQueueConfig :=
      heffect.accounted
    have hmoved : Outward transport { transport with call, link } :=
      ⟨hconnected, haccounted, hlanes, rfl, rfl, rfl, rfl, hrunning⟩
    simp only
    cases result with
    | none => exact h.outward hrunning hmoved
    | some result =>
      cases result with
      | error error => exact (h.outward hrunning hmoved).finish _ (by simp) (by simp)
      | ok packet =>
        cases packet with
        | none =>
          exact h.outward hrunning ⟨hconnected, haccounted, hlanes, rfl, rfl, rfl, rfl,
            afterWrite_ne_stopped _⟩
        | some packet =>
          exact h.outward hrunning ⟨hconnected, haccounted, hlanes, rfl, rfl, rfl, rfl, (by simp)⟩

theorem afterPending_outward (pending : PendingWrite) :
    Outward transport (transport.afterPending pending) := by
  rw [afterPending]
  split
  · exact ⟨rfl, id, fun _ => rfl, rfl, rfl, rfl, rfl, transport.afterWrite_ne_stopped⟩
  · exact ⟨rfl, id, fun _ => rfl, rfl, rfl, rfl, rfl, transport.afterWrite_ne_stopped⟩

theorem Reads.writePending (h : Reads transport ledger) (hpoint : transport.point = .write)
    (pending : PendingWrite) (result : IoResult Nat) :
    Reads (transport.writePending pending result).1
      (ledger.apply (transport.writePending pending result).2) := by
  have hrunning := running_of_point hpoint (by simp)
  cases result with
  | wouldBlock => exact h.outward hrunning (afterPending_outward pending)
  | interrupted => exact h.outward hrunning (afterPending_outward pending)
  | failed => exact h.finish _ (by simp) (by simp)
  | ok written =>
    cases written with
    | zero => exact h.finish _ (by simp) (by simp)
    | succ written =>
      have hsent : ledger.SameInbound
          (ledger.apply (.sent (pending.chunk.take (written + 1)))) := ⟨rfl, rfl, rfl⟩
      have hcounted : Reads { transport with
          status := transport.status.countBytesWritten (written + 1) } ledger :=
        h.outward hrunning ⟨rfl, id, fun _ => rfl, rfl, rfl, rfl, rfl, hrunning⟩
      exact (hcounted.outward hrunning (afterPending_outward
        { pending with offset := saturatingAdd pending.offset (written + 1) })).sameLedger hsent

theorem min_saturatingAddU64 {count total added : Nat} (h : count = min total (2 ^ 64 - 1)) :
    saturatingAddU64 count added = min (total + added) (2 ^ 64 - 1) := by
  rw [saturatingAddU64, h]
  omega

theorem Reads.read (h : Reads transport ledger) (hpoint : transport.point = .read)
    {result : IoResult Bytes} (hsize : ∀ bytes ∈ result.value, bytes.length ≤ tcpIoChunkBytes)
    (hvalid : ∀ bytes ∈ result.value, ValidPrefix (ledger.consumed ++ bytes)) :
    Reads (transport.read result).1 (ledger.apply (transport.read result).2) := by
  have hrunning := running_of_point hpoint (by simp)
  cases result with
  | wouldBlock => exact h.goto .loopHead hrunning (by simp)
  | interrupted => exact h.goto .loopHead hrunning (by simp)
  | failed => exact h.finish _ (by simp) (by simp)
  | ok bytes =>
    cases bytes with
    | nil => exact h.finish _ (by simp) (by simp)
    | cons byte bytes =>
      have hchunk : (byte :: bytes).length ≤ frameHeaderLen + maxMediaPayload :=
        Nat.le_trans (hsize _ rfl) (by decide)
      obtain ⟨frames, hdecodes⟩ := h.decodes
      obtain ⟨decoder, completed, hpush, hdecodes'⟩ := hdecodes.push hchunk (hvalid _ rfl)
      simp only [TcpPacketTransport.read, hpush]
      exact
        { connected := fun _ => h.connected hrunning
          accounted := h.accounted
          decodes := ⟨frames ++ completed, hdecodes'⟩
          delivers := h.delivers.consume _
          inbound := by
            intro packet hpacket
            rcases List.mem_append.mp hpacket with hold | hnew
            · exact h.inbound packet hold
            · obtain ⟨frame, -, hframe⟩ := List.mem_map.mp hnew
              exact ⟨frame, hframe.symm⟩
          bytesRead := by
            simp only [StreamLedger.apply, List.length_append]
            exact min_saturatingAddU64 h.bytesRead
          framesRead := by
            simp only [StreamLedger.apply, List.length_append]
            exact min_saturatingAddU64 h.framesRead
          stream_valid := by simp
          queue_accepts := by simp }

end TcpPacketTransport

namespace TcpHistory

/-- What the socket returns continues a stream of frames. -/
def ReadsFrames (s : TcpHistory) : TcpTurn → Prop
  | .read result => ∀ bytes ∈ result.value, ValidPrefix (s.ledger.consumed ++ bytes)
  | _ => True

/-- What the socket returns is the next part of the stream. -/
def ReadsFrom (frames : List Frame) (s : TcpHistory) : TcpTurn → Prop
  | .read result => ∀ bytes ∈ result.value,
    s.ledger.consumed ++ bytes <+: Frame.stream.encodeAll frames
  | _ => True

theorem ReadsFrom.readsFrames {frames : List Frame} {s : TcpHistory} {turn : TcpTurn}
    (h : s.ReadsFrom frames turn) : s.ReadsFrames turn := by
  cases turn with
  | read result =>
    intro bytes hbytes
    obtain ⟨more, hmore⟩ := h bytes hbytes
    exact ⟨frames, more, hmore⟩
  | _ => trivial

/-- The inbound direction of a worker on a stream of frames. -/
def Reads (s : TcpHistory) : Prop := s.transport.Reads s.ledger

theorem reads_step {s t : TcpHistory} {turn : TcpTurn} (h : s.Reads) (hframes : s.ReadsFrames turn)
    (hstep : s.step turn = some t) : t.Reads := by
  have hreads : s.transport.Reads s.ledger := h
  obtain ⟨transport, ledger⟩ := t
  obtain ⟨event, hturned, hledger⟩ := step_turned hstep
  simp only at hturned hledger
  subst hledger
  show transport.Reads _
  cases hturned with
  | accepted packet report link hsend =>
    have hsent := hreads.trySend packet
    rw [TcpPacketTransport.trySend, hsend] at hsent
    exact hsent.sameLedger ⟨rfl, rfl, rfl⟩
  | refused packet => exact hreads
  | received channel packet link hreceive => exact hreads.tryReceive hreceive
  | nothing channel => exact hreads
  | shutdown =>
    exact ⟨hreads.connected, hreads.accounted, hreads.decodes, hreads.delivers, hreads.inbound,
      hreads.bytesRead, hreads.framesRead, hreads.stream_valid, hreads.queue_accepts⟩
  | checkCancel hpoint =>
    simp only [TcpPacketTransport.checkCancel]
    split
    · exact hreads.finish _ (by simp) (by simp)
    · exact hreads.goto _ (TcpPacketTransport.running_of_point hpoint (by simp)) (by simp)
  | drainInbound hpoint => exact hreads.drainInbound hpoint
  | next hpoint => exact hreads.next hpoint
  | writePending hpoint pending _ result _ => exact hreads.writePending hpoint pending result
  | read hpoint result hsize => exact hreads.read hpoint hsize hframes

/-- In every run of the worker on frames, whatever the cut into reads and the consumer do: the decoder
returns no error, and no packet is refused but by a full queue; every decoded packet that waits is
accepted or finds a full queue, and is accepted by the empty queue; and so is every frame that the
application sends on an empty outbound queue. -/
theorem limits_coherent (frames : List Frame) {turns : List TcpTurn} {s : TcpHistory}
    (hframes : machine.Admits (ReadsFrom frames) start turns)
    (hrun : machine.run start turns = some s) :
    (∀ error, s.transport.point ≠ .stopped (.error (.inboundStreamInvalid error))) ∧
    (∀ error, s.transport.point ≠ .stopped (.error (.inboundQueueRejected error))) ∧
    (s.transport.link.connected = true → ∀ packet ∈ s.transport.inbound,
      ((∃ report, (s.transport.link.trySend .second packet).1 = .ok report) ∨
        ∃ depth limits,
          (s.transport.link.trySend .second packet).1 = .error (.full packet depth limits)) ∧
      ((s.transport.link.lane .second packet.channel).packets = [] →
        ∃ report, (s.transport.link.trySend .second packet).1 = .ok report)) ∧
    (s.transport.link.connected = true → ∀ kind flags sequence payload frame,
      Frame.new kind flags sequence payload = .ok frame → ∀ packet : Packet,
        packet.payload = frame.encode → packet.channel = channelForMessage kind →
        (s.transport.link.lane .first packet.channel).packets = [] →
        ∃ report, (s.transport.trySend packet).1 = .ok report) := by
  have hstart : start.Reads := TcpPacketTransport.reads_start
  have h : s.Reads := machine.run_invariant_of_admits (ReadsFrom frames) Reads
    (fun _ _ _ h hguard hstep => reads_step h hguard.readsFrames hstep) hstart hframes hrun
  refine ⟨h.stream_valid, h.queue_accepts, ?_, ?_⟩
  · intro hconnected packet hpacket
    have hframe := h.inbound packet hpacket
    refine ⟨h.accepts_or_full hconnected .second hframe, ?_⟩
    intro hempty
    exact h.accounted.trySend_empty hconnected hempty hframe.len_le
  · intro hconnected kind flags sequence payload frame hnew packet hpayload hchannel hempty
    obtain ⟨hkind, -⟩ := Frame.new_eq_ok.mp hnew
    rw [← hkind] at hchannel
    exact h.accounted.trySend_empty hconnected hempty (len_le_of_frame hpayload hchannel)

instance (frames : List Frame) (s : TcpHistory) : (turn : TcpTurn) →
    Decidable (s.ReadsFrom frames turn)
  | .read result => inferInstanceAs (Decidable (∀ bytes ∈ result.value, _ <+: _))
  | .trySend _ | .tryReceive _ | .shutdown | .checkCancel | .drainInbound | .next
  | .writePending _ => .isTrue trivial

/-- A ping cut inside its header. -/
private def cutPing : List TcpTurn :=
  [.checkCancel, .drainInbound, .next, .next, .next,
    .read (.ok ((Frame.empty .ping 7).encode.take 5)), .checkCancel, .drainInbound, .next, .next,
    .next, .read (.ok ((Frame.empty .ping 7).encode.drop 5))]

theorem limits_coherent_cutPing :
    ∃ s, machine.run start cutPing = some s ∧
      s.transport.inbound = [packetFromFrame (.empty .ping 7)] ∧
      ∀ error, s.transport.point ≠ .stopped (.error (.inboundStreamInvalid error)) := by
  have hframes : machine.Admits (ReadsFrom [.empty .ping 7]) start cutPing := by decide +kernel
  refine ⟨_, rfl, by decide +kernel, ?_⟩
  exact (limits_coherent [.empty .ping 7] hframes rfl).1

end TcpHistory

end LadoFlow.Transport
