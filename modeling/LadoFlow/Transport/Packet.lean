import LadoFlow.Protocol.Frame

/-!
# Packets and queue limits

The owned bytes that a packet transport carries, the bounds of its queues and the results of its
nonblocking calls.
-/

namespace LadoFlow.Transport

open LadoFlow.Protocol Framework

/-- Independent delivery lane used by a transport. -/
inductive Channel where
  | control
  | media
  deriving DecidableEq, Repr

/-- Application-defined identity for replaceable media packets. -/
structure SupersessionKey where
  value : UInt64
  deriving DecidableEq, Repr

structure Packet where
  channel : Channel
  supersessionKey : Option SupersessionKey
  payload : Bytes
  deriving DecidableEq, Repr

namespace Packet

def control (payload : Bytes) : Packet := ⟨.control, none, payload⟩

def media (payload : Bytes) : Packet := ⟨.media, none, payload⟩

def replaceableMedia (key : SupersessionKey) (payload : Bytes) : Packet :=
  ⟨.media, some key, payload⟩

def len (packet : Packet) : Nat := packet.payload.length

end Packet

inductive QueueLimitsError where
  | zeroPacketCapacity
  | zeroByteCapacity
  | zeroPacketSizeLimit
  | packetSizeLimitExceedsCapacity (maxPacketBytes maxQueuedBytes : Nat)
  deriving DecidableEq, Repr

/-- Validated packet-count and byte limits for one channel queue. -/
structure QueueLimits where
  maxPackets : Nat
  maxQueuedBytes : Nat
  maxPacketBytes : Nat
  packets_pos : 0 < maxPackets
  packet_bytes_pos : 0 < maxPacketBytes
  packet_bytes_le : maxPacketBytes ≤ maxQueuedBytes
  deriving DecidableEq, Repr

/-- The limits of a byte-stream worker, whose constants are checked when it is compiled. -/
def validQueueLimits (maxPackets maxQueuedBytes maxPacketBytes : Nat)
    (h : 0 < maxPackets ∧ 0 < maxPacketBytes ∧ maxPacketBytes ≤ maxQueuedBytes) : QueueLimits :=
  ⟨maxPackets, maxQueuedBytes, maxPacketBytes, h.1, h.2.1, h.2.2⟩

def QueueLimits.new (maxPackets maxQueuedBytes maxPacketBytes : Nat) :
    Except QueueLimitsError QueueLimits :=
  if hpackets : maxPackets = 0 then .error .zeroPacketCapacity
  else if maxQueuedBytes = 0 then .error .zeroByteCapacity
  else if hbytes : maxPacketBytes = 0 then .error .zeroPacketSizeLimit
  else if hle : maxPacketBytes > maxQueuedBytes then
    .error (.packetSizeLimitExceedsCapacity maxPacketBytes maxQueuedBytes)
  else .ok
    { maxPackets, maxQueuedBytes, maxPacketBytes
      packets_pos := Nat.pos_of_ne_zero hpackets
      packet_bytes_pos := Nat.pos_of_ne_zero hbytes
      packet_bytes_le := Nat.le_of_not_lt hle }

/-- Current occupancy of one or more queues. -/
structure QueueDepth where
  packets : Nat
  bytes : Nat
  deriving DecidableEq, Repr

def saturatingAdd (a b : Nat) : Nat := min (a + b) usizeMax

def QueueDepth.saturatingAdd (a b : QueueDepth) : QueueDepth :=
  ⟨Transport.saturatingAdd a.packets b.packets, Transport.saturatingAdd a.bytes b.bytes⟩

/-- Successful enqueue details. -/
structure SendReport where
  superseded : QueueDepth
  deriving DecidableEq, Repr

/-- Enqueue failure that preserves ownership of the packet. -/
inductive SendError where
  | disconnected (packet : Packet)
  | full (packet : Packet) (depth : QueueDepth) (limits : QueueLimits)
  | packetTooLarge (packet : Packet) (size limit : Nat)
  deriving DecidableEq, Repr

inductive ReceiveError where
  | disconnected
  deriving DecidableEq, Repr

end LadoFlow.Transport
