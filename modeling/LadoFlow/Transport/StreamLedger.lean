import LadoFlow.Transport.MuxConservation

/-!
# What a byte-stream worker carries

A worker stands between a byte stream and the second endpoint of a link. The ledger records what
the application sent and received, which packets and bytes the worker moved; the predicates say how
they belong together, for either direction and whatever the worker's loop looks like.
-/

namespace LadoFlow.Transport

open LadoFlow.Protocol Framework

/-- One observable act of the application or of the worker. -/
inductive StreamEvent where
  | silent
  | accepted (packet : Packet)
  | received (channel : Channel) (packet : Packet)
  | emitted (packet : Packet)
  | sent (bytes : Bytes)
  | consumed (bytes : Bytes) (packets : List Packet)
  deriving DecidableEq

structure StreamLedger where
  /-- What the application's `try_send` accepted. -/
  accepted : List Packet
  /-- What the application's `try_receive` returned for each channel. -/
  received : Channel → List Packet
  /-- What the mux returned to the worker. -/
  emitted : List Packet
  /-- What the decoder returned to the worker. -/
  decoded : List Packet
  /-- What the worker wrote to the stream. -/
  sent : Bytes
  /-- What the worker read from the stream. -/
  consumed : Bytes

namespace StreamLedger

def empty : StreamLedger := ⟨[], fun _ => [], [], [], [], []⟩

def apply (ledger : StreamLedger) : StreamEvent → StreamLedger
  | .silent => ledger
  | .accepted packet => { ledger with accepted := ledger.accepted ++ [packet] }
  | .received channel packet =>
    { ledger with
      received := Function.update ledger.received channel (ledger.received channel ++ [packet]) }
  | .emitted packet => { ledger with emitted := ledger.emitted ++ [packet] }
  | .sent bytes => { ledger with sent := ledger.sent ++ bytes }
  | .consumed bytes packets =>
    { ledger with
      consumed := ledger.consumed ++ bytes
      decoded := ledger.decoded ++ packets }

end StreamLedger

/-- The packets of a channel. -/
def onChannel (channel : Channel) (packets : List Packet) : List Packet :=
  packets.filter fun packet => packet.channel = channel

@[simp] theorem onChannel_nil (channel : Channel) : onChannel channel [] = [] := rfl

@[simp] theorem onChannel_append (channel : Channel) (first second : List Packet) :
    onChannel channel (first ++ second) = onChannel channel first ++ onChannel channel second :=
  List.filter_append ..

theorem onChannel_cons (channel : Channel) (packet : Packet) (packets : List Packet) :
    onChannel channel (packet :: packets) = onChannel channel [packet] ++ onChannel channel packets := by
  rw [← onChannel_append]
  rfl

theorem onChannel_singleton_self (packet : Packet) : onChannel packet.channel [packet] = [packet] := by
  simp [onChannel]

theorem onChannel_singleton_ne {channel : Channel} {packet : Packet}
    (h : packet.channel ≠ channel) : onChannel channel [packet] = [] := by
  simp [onChannel, h]

/-- A packet without a key supersedes nothing. -/
theorem BoundedQueue.tryPush_unkeyed {queue after : BoundedQueue} {packet : Packet}
    {report : SendReport} (hkey : packet.supersessionKey = none)
    (h : queue.tryPush packet = (.ok report, after)) : after.packets = queue.packets ++ [packet] := by
  rcases queue.tryPush_cases packet with ⟨error, hpush⟩ | ⟨_, _, hpush, hpackets⟩
  · cases h.symm.trans hpush
  · cases h.symm.trans hpush
    rw [hpackets]
    simp [supersedes, hkey]

theorem BoundedQueue.pop_packets {queue after : BoundedQueue} {packet : Packet}
    (h : queue.pop = (some packet, after)) : queue.packets = packet :: after.packets := by
  rcases queue.pop_cases with ⟨_, hpop⟩ | ⟨_, _, hpop, hpackets⟩
  · cases h.symm.trans hpop
  · cases h.symm.trans hpop
    exact hpackets

/-- A free slot of the queue, and free bytes for the packet. -/
def BoundedQueue.HasRoom (queue : BoundedQueue) (packet : Packet) : Prop :=
  queue.packets.length < queue.limits.maxPackets ∧
    packet.len ≤ queue.limits.maxQueuedBytes - queue.queuedBytes

instance (queue : BoundedQueue) (packet : Packet) : Decidable (queue.HasRoom packet) :=
  inferInstanceAs (Decidable (_ ∧ _))

theorem BoundedQueue.supersededBy_unkeyed {queue : BoundedQueue} {packet : Packet}
    (hkey : packet.supersessionKey = none) : queue.supersededBy packet = ⟨0, 0⟩ := by
  have hnone : ∀ queued, supersedes packet queued = false := by
    intro queued
    simp [supersedes, hkey]
  have hfold : ∀ packets : List Packet, packets.foldl (fun depth queued =>
      if supersedes packet queued then depth.saturatingAdd ⟨1, queued.len⟩ else depth)
        (⟨0, 0⟩ : QueueDepth) = ⟨0, 0⟩ := by
    intro packets
    induction packets with
    | nil => rfl
    | cons queued packets ih =>
      rw [List.foldl_cons, hnone, if_neg (by simp)]
      exact ih
  exact hfold queue.packets

/-- A packet within the size limit is accepted exactly when the queue has room for it. -/
theorem BoundedQueue.tryPush_room {queue : BoundedQueue} {packet : Packet}
    (hkey : packet.supersessionKey = none) (hsize : packet.len ≤ queue.limits.maxPacketBytes) :
    (queue.HasRoom packet → ∃ report, (queue.tryPush packet).1 = .ok report) ∧
      (¬queue.HasRoom packet → ∃ error, (queue.tryPush packet).1 = .error error) := by
  rw [tryPush, if_neg (by omega)]
  simp only [supersededBy_unkeyed hkey, HasRoom]
  constructor
  · intro hroom
    rw [if_neg (by omega)]
    exact ⟨_, rfl⟩
  · intro hfull
    rw [if_pos (by omega)]
    exact ⟨_, rfl⟩

/-- What a send without a key does to the lanes. -/
theorem Link.trySend_lane {link after : Link} {side : Side} {packet : Packet} {report : SendReport}
    (hkey : packet.supersessionKey = none) (h : link.trySend side packet = (.ok report, after)) :
    link.connected = true ∧ after.connected = true ∧
    (after.lane side packet.channel).packets =
      (link.lane side packet.channel).packets ++ [packet] ∧
    ∀ other channel, ¬(other = side ∧ channel = packet.channel) →
      after.lane other channel = link.lane other channel := by
  cases hconnected : link.connected with
  | false =>
    rw [Link.trySend_disconnected hconnected] at h
    cases h
  | true =>
    rw [Link.trySend_eq hconnected] at h
    cases hpush : (link.lane side packet.channel).tryPush packet with
    | mk result queue =>
      rw [hpush] at h
      cases h
      refine ⟨rfl, by simp [hconnected], ?_, fun other channel => Link.lane_setLane_ne⟩
      rw [Link.lane_setLane_self]
      exact BoundedQueue.tryPush_unkeyed hkey hpush

/-- A call touches no lane but its own, and never connects or disconnects the link. -/
theorem Link.trySend_frame (link : Link) (side : Side) (packet : Packet) :
    (link.trySend side packet).2.connected = link.connected ∧ ∀ other channel, other ≠ side →
      (link.trySend side packet).2.lane other channel = link.lane other channel := by
  cases hconnected : link.connected with
  | false =>
    rw [trySend_disconnected hconnected]
    exact ⟨hconnected, fun _ _ _ => rfl⟩
  | true =>
    rw [trySend_eq hconnected]
    refine ⟨by simp [hconnected], ?_⟩
    intro other channel hother
    exact lane_setLane_ne fun hsame => hother hsame.1

theorem Link.tryReceive_frame (link : Link) (side : Side) (channel : Channel) :
    (link.tryReceive side channel).2.connected = link.connected ∧ ∀ other channel',
      other ≠ side.other →
        (link.tryReceive side channel).2.lane other channel' = link.lane other channel' := by
  cases hconnected : link.connected with
  | false =>
    rw [tryReceive_disconnected hconnected]
    exact ⟨hconnected, fun _ _ _ => rfl⟩
  | true =>
    rw [tryReceive_eq hconnected]
    refine ⟨by simp [hconnected], ?_⟩
    intro other channel' hother
    exact lane_setLane_ne fun hsame => hother hsame.1

/-- A receive that returns no packet changes nothing. -/
theorem Link.tryReceive_none {link after : Link} {side : Side} {channel : Channel}
    {result : Except ReceiveError (Option Packet)} (h : link.tryReceive side channel = (result, after))
    (hnone : ∀ packet, result ≠ .ok (some packet)) : after = link := by
  cases hconnected : link.connected with
  | false =>
    rw [tryReceive_disconnected hconnected] at h
    cases h
    rfl
  | true =>
    rw [tryReceive_eq hconnected] at h
    rcases (link.lane side.other channel).pop_cases with ⟨_, hpop⟩ | ⟨packet, queue, hpop, _⟩
    · rw [hpop] at h
      cases h
      simp
    · rw [hpop] at h
      cases h
      exact absurd rfl (hnone packet)

theorem Link.trySend_error {link after : Link} {side : Side} {packet : Packet} {error : SendError}
    (h : link.trySend side packet = (.error error, after)) : after = link := by
  cases hconnected : link.connected with
  | false =>
    rw [Link.trySend_disconnected hconnected] at h
    cases h
    rfl
  | true =>
    rw [Link.trySend_eq hconnected] at h
    rcases (link.lane side packet.channel).tryPush_cases packet with
      ⟨error', hpush⟩ | ⟨report, queue, hpush, _⟩
    · rw [hpush] at h
      cases h
      simp
    · rw [hpush] at h
      cases h

/-- A refused packet comes back. -/
theorem Link.trySend_full {link after : Link} {side : Side} {packet returned : Packet}
    {depth : QueueDepth} {limits : QueueLimits}
    (h : link.trySend side packet = (.error (.full returned depth limits), after)) :
    returned = packet := by
  cases hconnected : link.connected with
  | false =>
    rw [Link.trySend_disconnected hconnected] at h
    cases h
  | true =>
    rw [Link.trySend_eq hconnected, BoundedQueue.tryPush] at h
    split at h
    · cases h
    · simp only at h
      split at h
      · cases h
        rfl
      · cases h

theorem Link.tryReceive_lane {link after : Link} {side : Side} {channel : Channel} {packet : Packet}
    (h : link.tryReceive side channel = (.ok (some packet), after)) :
    link.connected = true ∧ after.connected = true ∧
    (link.lane side.other channel).packets =
      packet :: (after.lane side.other channel).packets ∧
    ∀ other channel', ¬(other = side.other ∧ channel' = channel) →
      after.lane other channel' = link.lane other channel' := by
  cases hconnected : link.connected with
  | false =>
    rw [Link.tryReceive_disconnected hconnected] at h
    cases h
  | true =>
    rw [Link.tryReceive_eq hconnected] at h
    cases hpop : (link.lane side.other channel).pop with
    | mk popped queue =>
      rw [hpop] at h
      simp only [Prod.mk.injEq, Except.ok.injEq] at h
      obtain ⟨hpopped, hafter⟩ := h
      subst hpopped hafter
      refine ⟨rfl, by simp [hconnected], ?_, fun other channel' => Link.lane_setLane_ne⟩
      rw [Link.lane_setLane_self]
      exact BoundedQueue.pop_packets hpop

/-- The bytes are the beginning of a stream of frames. -/
def ValidPrefix (bytes : Bytes) : Prop :=
  ∃ frames more, bytes ++ more = Frame.stream.encodeAll frames

/-- The decoder has returned the packets of the whole frames it was given, and keeps the rest. -/
structure Decodes (decoder : LdflPacketDecoder) (ledger : StreamLedger) (frames : List Frame) :
    Prop where
  limit : decoder.decoder.bufferLimit = UInt64.ofNat maxBufferedBytes
  partial_frame : Frame.stream.NeedsMore decoder.decoder.buffer
  consumed : ledger.consumed = Frame.stream.encodeAll frames ++ decoder.decoder.buffer
  decoded : ledger.decoded = frames.map packetFromFrame

theorem decodes_new : Decodes .new .empty [] :=
  ⟨rfl, FrameDecoder.needsMore_nil, rfl, rfl⟩

theorem frame_encode_length_le (frame : Frame) :
    frame.encode.length ≤ frameHeaderLen + maxMediaPayload := by
  have hlimit := frame.header.kind.payloadLimit_le
  have hpayload := frame.header.payloadLen_le
  have hlength := frame.payload_length
  rw [Frame.encode_length, Frame.encodedLen]
  omega

/-- A read of at most half the decoder's ceiling continues a valid stream without an error, and
returns the packets of the frames it completes. -/
theorem Decodes.push {decoder : LdflPacketDecoder} {ledger : StreamLedger} {frames : List Frame}
    {chunk : Bytes} (h : Decodes decoder ledger frames)
    (hchunk : chunk.length ≤ frameHeaderLen + maxMediaPayload)
    (hvalid : ValidPrefix (ledger.consumed ++ chunk)) :
    ∃ decoder' completed, decoder.push chunk = (decoder', .ok (completed.map packetFromFrame)) ∧
      Decodes decoder' (ledger.apply (.consumed chunk (completed.map packetFromFrame)))
        (frames ++ completed) := by
  obtain ⟨whole, more, hwhole⟩ := hvalid
  rw [h.consumed, List.append_assoc, List.append_assoc] at hwhole
  obtain ⟨todo, -, htodo⟩ := Frame.stream.encodeAll_prefix hwhole
  have hbuffer : decoder.decoder.buffer.length ≤ frameHeaderLen + maxMediaPayload := by
    cases todo with
    | nil =>
      have hlength := congrArg List.length htodo
      simp only [List.length_append, PrefixDecoder.encodeAll_nil, List.length_nil] at hlength
      omega
    | cons frame todo =>
      rw [← List.append_nil (Frame.stream.encodeAll _)] at htodo
      have hlt := h.partial_frame.length_lt Frame.stream htodo
      have hle := frame_encode_length_le frame
      change _ < frame.encode.length at hlt
      omega
  have hlimit : decoder.decoder.buffer.length + chunk.length ≤
      decoder.decoder.bufferLimit.toNat := by
    rw [h.limit]
    have hmax : (UInt64.ofNat maxBufferedBytes).toNat = maxBufferedBytes := by decide
    rw [hmax, maxBufferedBytes]
    omega
  have hfront : ∃ completed rest, decoder.decoder.buffer ++ chunk =
      Frame.stream.encodeAll completed ++ rest ∧ Frame.stream.NeedsMore rest := by
    rw [← List.append_assoc, ← List.append_nil (Frame.stream.encodeAll _)] at htodo
    rcases Frame.stream.split_prefix todo [] _ _ htodo with
      ⟨completed, _, rest, -, hsplit, -, -, hrest⟩ | ⟨rest, hsplit, hnil⟩
    · exact ⟨completed, rest, hsplit, hrest⟩
    · have hempty : rest = [] := (List.append_eq_nil_iff.mp hnil).1
      exact ⟨todo, rest, hsplit, by rw [hempty]; exact FrameDecoder.needsMore_nil⟩
  obtain ⟨completed, rest, hsplit, hrest⟩ := hfront
  refine ⟨⟨{ decoder.decoder with buffer := rest }⟩, completed, ?_, ?_⟩
  · rw [LdflPacketDecoder.push, FrameDecoder.push_eq hlimit,
      PrefixDecoder.push_needsMore _ hsplit hrest]
  · refine ⟨h.limit, hrest, ?_, ?_⟩
    · simp only [StreamLedger.apply]
      rw [h.consumed, List.append_assoc, hsplit, PrefixDecoder.encodeAll_append, List.append_assoc]
    · simp only [StreamLedger.apply]
      rw [h.decoded, List.map_append]

/-- The bytes that two workers have read determine what they have decoded. -/
theorem Decodes.decoded_eq {decoder decoder' : LdflPacketDecoder} {ledger ledger' : StreamLedger}
    {frames frames' : List Frame} (h : Decodes decoder ledger frames)
    (h' : Decodes decoder' ledger' frames') (hconsumed : ledger.consumed = ledger'.consumed) :
    ledger.decoded = ledger'.decoded := by
  have hrun := Frame.stream.drain_needsMore frames h.partial_frame
  rw [← h.consumed, hconsumed, h'.consumed,
    Frame.stream.drain_needsMore frames' h'.partial_frame] at hrun
  simp only [Except.ok.injEq, Prod.mk.injEq] at hrun
  rw [h.decoded, h'.decoded, hrun.2]

/-- What was decoded from the beginning of a stream is the beginning of its packets. -/
theorem Decodes.decoded_prefix {decoder : LdflPacketDecoder} {ledger : StreamLedger}
    {frames whole : List Frame} (h : Decodes decoder ledger frames)
    (hwhole : ledger.consumed <+: Frame.stream.encodeAll whole) :
    ledger.decoded <+: whole.map packetFromFrame := by
  obtain ⟨more, hmore⟩ := hwhole
  rw [h.consumed, List.append_assoc] at hmore
  obtain ⟨todo, hframes, -⟩ := Frame.stream.encodeAll_prefix hmore
  rw [h.decoded, hframes, List.map_append]
  exact List.prefix_append _ _

/-- What was decoded for a channel is received, queued for the application or waiting in the worker.
A worker that has disconnected the link keeps the received packets a prefix. -/
structure Delivers (link : Link) (waiting : List Packet) (ledger : StreamLedger) : Prop where
  received : ∀ channel, ledger.received channel <+: onChannel channel ledger.decoded
  exact : link.connected = true → ∀ channel,
    ledger.received channel ++ (link.lane .second channel).packets ++ onChannel channel waiting =
      onChannel channel ledger.decoded

/-- What was accepted for a channel is emitted, held by the mux or queued for it. -/
structure Emits (link : Link) (mux : LdflPacketMux) (ledger : StreamLedger) : Prop where
  emitted : ∀ channel, onChannel channel ledger.emitted <+: onChannel channel ledger.accepted
  exact : link.connected = true → ∀ channel,
    onChannel channel ledger.emitted ++ (mux.slot channel).toList ++
      (link.lane .first channel).packets = onChannel channel ledger.accepted

section Inbound

variable {link after : Link} {waiting packets : List Packet} {ledger : StreamLedger}
  {packet : Packet} {report : SendReport}

theorem delivers_new (config : LoopbackConfig) : Delivers (.new config) [] .empty := by
  constructor
  · intro channel
    exact List.nil_prefix
  · intro _ channel
    rw [Link.lane_new]
    rfl

/-- Nothing that touches only the outbound lanes matters to the inbound direction. -/
theorem Delivers.relink (h : Delivers link waiting ledger)
    (hconnected : after.connected = true → link.connected = true)
    (hlanes : ∀ channel, after.lane .second channel = link.lane .second channel) :
    Delivers after waiting ledger := by
  refine ⟨h.received, ?_⟩
  intro hafter channel
  rw [hlanes]
  exact h.exact (hconnected hafter) channel

theorem Delivers.deliver (h : Delivers link (packet :: waiting) ledger)
    (hkey : packet.supersessionKey = none)
    (hsend : link.trySend .second packet = (.ok report, after)) : Delivers after waiting ledger := by
  obtain ⟨hconnected, -, hlane, hother⟩ := Link.trySend_lane hkey hsend
  refine ⟨h.received, ?_⟩
  intro _ channel
  have hexact := h.exact hconnected channel
  rw [onChannel_cons] at hexact
  rw [← hexact]
  by_cases hchannel : packet.channel = channel
  · subst hchannel
    rw [hlane, onChannel_singleton_self]
    simp
  · rw [hother .second channel fun hsame => hchannel hsame.2.symm,
      onChannel_singleton_ne hchannel, List.nil_append]

theorem Delivers.receive {channel : Channel} (h : Delivers link waiting ledger)
    (hreceive : link.tryReceive .first channel = (.ok (some packet), after)) :
    Delivers after waiting (ledger.apply (.received channel packet)) := by
  obtain ⟨hconnected, -, hlane, hother⟩ := Link.tryReceive_lane hreceive
  have hexact := h.exact hconnected
  have hlines : ∀ other, (ledger.apply (.received channel packet)).received other ++
      (after.lane .second other).packets ++ onChannel other waiting =
        onChannel other ledger.decoded := by
    intro other
    rw [← hexact other]
    simp only [StreamLedger.apply]
    by_cases hchannel : other = channel
    · subst hchannel
      have hqueue : (link.lane .second other).packets =
          packet :: (after.lane .second other).packets := hlane
      simp [hqueue]
    · rw [Function.update_of_ne hchannel, hother .second other fun hsame => hchannel hsame.2]
  refine ⟨?_, fun _ => hlines⟩
  intro other
  rw [StreamLedger.apply, ← hlines other, List.append_assoc]
  exact List.prefix_append _ _

theorem Delivers.consume (h : Delivers link waiting ledger) (bytes : Bytes) :
    Delivers link (waiting ++ packets) (ledger.apply (.consumed bytes packets)) := by
  constructor
  · intro channel
    simp only [StreamLedger.apply, onChannel_append]
    exact (h.received channel).trans (List.prefix_append _ _)
  · intro hconnected channel
    simp only [StreamLedger.apply, onChannel_append]
    rw [← h.exact hconnected channel]
    simp

/-- A worker that stops disconnects the link and drops what the application has not received. -/
theorem Delivers.stop (h : Delivers link waiting ledger) (left : List Packet) :
    Delivers link.disconnect.2 left ledger := by
  refine ⟨h.received, ?_⟩
  intro hconnected
  cases hconnected

theorem Delivers.received_eq {channel : Channel} (h : Delivers link waiting ledger) (hconnected : link.connected = true)
    (hqueued : (link.lane .second channel).packets = []) (hwaiting : waiting = []) :
    ledger.received channel = onChannel channel ledger.decoded := by
  have hexact := h.exact hconnected channel
  rw [hqueued, hwaiting, List.append_nil, onChannel_nil, List.append_nil] at hexact
  exact hexact

end Inbound

/-- Every packet on its way out is on its own channel and has no key. -/
structure Lines (link : Link) (mux : LdflPacketMux) : Prop where
  queued : ∀ channel, ∀ packet ∈ (link.lane .first channel).packets,
    packet.channel = channel ∧ packet.supersessionKey = none
  held : ∀ channel, ∀ packet ∈ mux.slot channel,
    packet.channel = channel ∧ packet.supersessionKey = none

section Outbound

variable {link after : Link} {mux : LdflPacketMux} {ledger : StreamLedger}
  {packet : Packet} {report : SendReport}

theorem emits_new (config : LoopbackConfig) : Emits (.new config) .default .empty := by
  constructor
  · intro channel
    exact List.nil_prefix
  · intro _ channel
    rw [Link.lane_new]
    cases channel <;> rfl

theorem lines_new (config : LoopbackConfig) : Lines (.new config) .default := by
  constructor
  · intro channel packet hpacket
    rw [Link.lane_new] at hpacket
    cases hpacket
  · intro channel packet hpacket
    cases channel <;> cases hpacket

/-- Nothing that touches only the inbound lanes matters to the outbound direction. -/
theorem Emits.relink (h : Emits link mux ledger)
    (hconnected : after.connected = true → link.connected = true)
    (hlanes : ∀ channel, after.lane .first channel = link.lane .first channel) :
    Emits after mux ledger := by
  refine ⟨h.emitted, ?_⟩
  intro hafter channel
  rw [hlanes]
  exact h.exact (hconnected hafter) channel

theorem Lines.relink (h : Lines link mux)
    (hlanes : ∀ channel, after.lane .first channel = link.lane .first channel) :
    Lines after mux := by
  refine ⟨?_, h.held⟩
  intro channel
  rw [hlanes]
  exact h.queued channel

theorem Emits.stop (h : Emits link mux ledger) : Emits link.disconnect.2 mux ledger := by
  refine ⟨h.emitted, ?_⟩
  intro hconnected
  cases hconnected

theorem Lines.stop (h : Lines link mux) : Lines link.disconnect.2 mux := by
  refine ⟨?_, h.held⟩
  intro channel packet hpacket
  rw [Link.disconnect_lane] at hpacket
  cases hpacket

theorem Emits.accept (h : Emits link mux ledger) (hkey : packet.supersessionKey = none)
    (hsend : link.trySend .first packet = (.ok report, after)) :
    Emits after mux (ledger.apply (.accepted packet)) := by
  obtain ⟨hconnected, -, hlane, hother⟩ := Link.trySend_lane hkey hsend
  constructor
  · intro channel
    simp only [StreamLedger.apply, onChannel_append]
    exact (h.emitted channel).trans (List.prefix_append _ _)
  · intro _ channel
    simp only [StreamLedger.apply, onChannel_append]
    rw [← h.exact hconnected channel]
    by_cases hchannel : packet.channel = channel
    · subst hchannel
      rw [hlane, onChannel_singleton_self]
      simp
    · rw [hother .first channel fun hsame => hchannel hsame.2.symm,
        onChannel_singleton_ne hchannel, List.append_nil]

theorem Lines.accept (h : Lines link mux) (hkey : packet.supersessionKey = none)
    (hsend : link.trySend .first packet = (.ok report, after)) : Lines after mux := by
  obtain ⟨-, -, hlane, hother⟩ := Link.trySend_lane hkey hsend
  refine ⟨?_, h.held⟩
  intro channel queued hqueued
  by_cases hchannel : packet.channel = channel
  · subst hchannel
    rw [hlane, List.mem_append] at hqueued
    rcases hqueued with hold | hnew
    · exact h.queued _ queued hold
    · rw [List.mem_singleton.mp hnew]
      exact ⟨rfl, hkey⟩
  · rw [hother .first channel fun hsame => hchannel hsame.2.symm] at hqueued
    exact h.queued channel queued hqueued

/-- What a critical section of `next` emits. -/
def MuxCall.event : Option NextResult → StreamEvent
  | some (.ok (some packet)) => .emitted packet
  | some (.ok none) => .silent
  | some (.error _) => .silent
  | none => .silent

/-- A critical section of `next` moves packets along their lines; an emitted packet is one frame. -/
theorem MuxCall.Effect.moves {call call' : MuxCall} {result : Option NextResult}
    (heffect : call.Effect link .second call' after result) (hconnected : link.connected = true)
    (hlines : Lines link call.mux) (h : Emits link call.mux ledger) :
    Lines after call'.mux ∧ Emits after call'.mux (ledger.apply (event result)) ∧
      after.connected = link.connected ∧
      (∀ channel, after.lane .second channel = link.lane .second channel) ∧
      ∀ packet, result = some (.ok (some packet)) → ∃ frame, packet = packetFromFrame frame := by
  cases heffect with
  | passed => exact ⟨hlines, h, rfl, fun _ => rfl, by simp⟩
  | empty => exact ⟨hlines, h, rfl, fun _ => rfl, by simp⟩
  | failed => exact ⟨hlines, h, rfl, fun _ => rfl, by simp⟩
  | idle => exact ⟨hlines, h, rfl, fun _ => rfl, by simp⟩
  | took point channel packet queue _ hslot hpop =>
    have hqueue : (link.lane .first channel).packets = packet :: queue.packets :=
      BoundedQueue.pop_packets hpop
    have hqueued := hlines.queued channel
    rw [hqueue] at hqueued
    refine ⟨⟨?_, ?_⟩, ⟨h.emitted, ?_⟩, Link.setLane_connected, ?_, by simp⟩
    · intro other queued hmem
      by_cases hchannel : other = channel
      · subst hchannel
        rw [Side.other, Link.lane_setLane_self] at hmem
        exact hqueued queued (List.mem_cons_of_mem packet hmem)
      · rw [Side.other, Link.lane_setLane_ne fun hsame => hchannel hsame.2] at hmem
        exact hlines.queued other queued hmem
    · intro other held hheld
      by_cases hchannel : other = channel
      · subst hchannel
        rw [LdflPacketMux.slot_setSlot] at hheld
        cases hheld
        exact hqueued packet List.mem_cons_self
      · rw [LdflPacketMux.slot_setSlot_ne _ _ hchannel] at hheld
        exact hlines.held other held hheld
    · intro _ other
      rw [event, StreamLedger.apply, ← h.exact hconnected other]
      by_cases hchannel : other = channel
      · subst hchannel
        rw [LdflPacketMux.slot_setSlot, Side.other, Link.lane_setLane_self, hslot, hqueue]
        simp
      · rw [LdflPacketMux.slot_setSlot_ne _ _ hchannel, Side.other,
          Link.lane_setLane_ne fun hsame => hchannel hsame.2]
    · intro other
      rw [Side.other, Link.lane_setLane_ne]
      simp
  | emitted channel packet sequence hslot hsequence hleast =>
    obtain ⟨hchannel, hkey⟩ := hlines.held channel packet hslot
    subst hchannel
    have hlines' : ∀ other, onChannel other (ledger.emitted ++ [packet]) ++
        ((call.mux.setSlot none packet.channel).slot other).toList =
          onChannel other ledger.emitted ++ (call.mux.slot other).toList := by
      intro other
      rw [onChannel_append]
      by_cases hsame : other = packet.channel
      · subst hsame
        rw [LdflPacketMux.slot_setSlot, onChannel_singleton_self, hslot]
        simp
      · rw [LdflPacketMux.slot_setSlot_ne _ _ hsame,
          onChannel_singleton_ne fun heq => hsame heq.symm, List.append_nil]
    refine ⟨⟨hlines.queued, ?_⟩, ⟨?_, ?_⟩, rfl, fun _ => rfl, ?_⟩
    · intro other held hheld
      by_cases hsame : other = packet.channel
      · subst hsame
        rw [LdflPacketMux.slot_setSlot] at hheld
        cases hheld
      · rw [LdflPacketMux.slot_setSlot_ne _ _ hsame] at hheld
        exact hlines.held other held hheld
    · intro other
      show onChannel other (ledger.emitted ++ [packet]) <+: onChannel other ledger.accepted
      rw [← h.exact hconnected other, ← hlines' other, List.append_assoc]
      exact List.prefix_append _ _
    · intro _ other
      show onChannel other (ledger.emitted ++ [packet]) ++ _ ++ _ = onChannel other ledger.accepted
      rw [← h.exact hconnected other, ← hlines' other]
    · intro emittedPacket hemitted
      cases hemitted
      obtain ⟨frame, hpayload, hframe, -⟩ := frame_of_ldflPacketSequence hsequence
      exact ⟨frame, eq_packetFromFrame hkey hpayload hframe⟩

end Outbound

end LadoFlow.Transport
