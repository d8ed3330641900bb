import LadoFlow.Framework.Machine
import LadoFlow.Transport.Loopback
import Mathlib.Data.List.Basic

/-!
# Bounds and order of the loopback queues

What a bounded queue keeps over every sequence of pushes, pops and clears: its byte counter is
exact, its limits hold, a supersession key occurs once, and packets without a key keep their order.
-/

namespace LadoFlow.Transport

open LadoFlow.Protocol Framework

/-- The bytes of a list of packets. -/
def totalBytes (packets : List Packet) : Nat := (packets.map Packet.len).sum

@[simp] theorem totalBytes_nil : totalBytes [] = 0 := rfl

@[simp] theorem totalBytes_cons (packet : Packet) (packets : List Packet) :
    totalBytes (packet :: packets) = packet.len + totalBytes packets := by
  simp [totalBytes]

@[simp] theorem totalBytes_append (first second : List Packet) :
    totalBytes (first ++ second) = totalBytes first + totalBytes second := by
  simp [totalBytes]

/-- A filter splits the bytes. -/
theorem totalBytes_filter (p : Packet → Bool) (packets : List Packet) :
    totalBytes (packets.filter p) + totalBytes (packets.filter fun packet => !p packet) =
      totalBytes packets := by
  induction packets with
  | nil => rfl
  | cons packet packets ih =>
    by_cases hp : p packet
    · simp only [hp, List.filter_cons_of_pos, Bool.not_true, Bool.false_eq_true, not_false_eq_true,
        List.filter_cons_of_neg, totalBytes_cons]
      omega
    · simp only [hp, Bool.false_eq_true, not_false_eq_true, List.filter_cons_of_neg, Bool.not_false,
        List.filter_cons_of_pos, totalBytes_cons]
      omega

namespace BoundedQueue

/-- The queued packets that `packet` makes obsolete. -/
def obsolete (queue : BoundedQueue) (packet : Packet) : List Packet :=
  queue.packets.filter (supersedes packet)

/-- The queued packets that a push of `packet` keeps. -/
def survivors (queue : BoundedQueue) (packet : Packet) : List Packet :=
  queue.packets.filter fun queued => !supersedes packet queued

/-- The bounds of a queue with exact accounting. -/
structure Bounded (queue : BoundedQueue) : Prop where
  bytes_eq : queue.queuedBytes = totalBytes queue.packets
  bytes_le : queue.queuedBytes ≤ queue.limits.maxQueuedBytes
  packets_le : queue.packets.length ≤ queue.limits.maxPackets
  packet_le : ∀ packet ∈ queue.packets, packet.len ≤ queue.limits.maxPacketBytes
  key_unique : ∀ key, (queue.packets.filter fun packet =>
    decide (packet.supersessionKey = some key)).length ≤ 1

/-- The subtractions of `try_push` and `pop` stay above zero. -/
structure NoUnderflow (queue : BoundedQueue) (packet : Packet) : Prop where
  packets : (queue.supersededBy packet).packets ≤ queue.packets.length
  bytes : (queue.supersededBy packet).bytes ≤ queue.queuedBytes
  capacity : queue.queuedBytes - (queue.supersededBy packet).bytes ≤ queue.limits.maxQueuedBytes
  pop : ∀ head ∈ queue.packets.head?, head.len ≤ queue.queuedBytes

/-- What a push may do. -/
inductive PushEffect (queue : BoundedQueue) (packet : Packet) :
    Except SendError SendReport × BoundedQueue → Prop
  | tooLarge (hsize : queue.limits.maxPacketBytes < packet.len) : PushEffect queue packet
      (.error (.packetTooLarge packet packet.len queue.limits.maxPacketBytes), queue)
  | full (hsize : packet.len ≤ queue.limits.maxPacketBytes)
      (hfull : queue.limits.maxPackets ≤ (queue.survivors packet).length ∨
        queue.limits.maxQueuedBytes < totalBytes (queue.survivors packet) + packet.len) :
      PushEffect queue packet (.error (.full packet queue.depth queue.limits), queue)
  | queued {after : BoundedQueue} (hsize : packet.len ≤ queue.limits.maxPacketBytes)
      (hpackets : (queue.survivors packet).length < queue.limits.maxPackets)
      (hbytes : totalBytes (queue.survivors packet) + packet.len ≤ queue.limits.maxQueuedBytes)
      (hlimits : after.limits = queue.limits)
      (hafter : after.packets = queue.survivors packet ++ [packet])
      (hqueued : after.queuedBytes = totalBytes (queue.survivors packet) + packet.len) :
      PushEffect queue packet
        (.ok ⟨⟨(queue.obsolete packet).length, totalBytes (queue.obsolete packet)⟩⟩, after)

variable {queue : BoundedQueue} {packet : Packet}

/-- The counting loop is exact below the range of `usize`. -/
theorem supersededBy_fold (packet : Packet) (packets : List Packet) (depth : QueueDepth)
    (hpackets : depth.packets + packets.length ≤ usizeMax)
    (hbytes : depth.bytes + totalBytes packets ≤ usizeMax) :
    packets.foldl (fun depth queued =>
      if supersedes packet queued then depth.saturatingAdd ⟨1, queued.len⟩ else depth) depth =
    ⟨depth.packets + (packets.filter (supersedes packet)).length,
      depth.bytes + totalBytes (packets.filter (supersedes packet))⟩ := by
  induction packets generalizing depth with
  | nil => rfl
  | cons queued packets ih =>
    simp only [List.length_cons, totalBytes_cons] at hpackets hbytes
    rw [List.foldl_cons]
    by_cases hkey : supersedes packet queued
    · have hadd : depth.saturatingAdd ⟨1, queued.len⟩ =
          ⟨depth.packets + 1, depth.bytes + queued.len⟩ := by
        simp only [QueueDepth.saturatingAdd, saturatingAdd, QueueDepth.mk.injEq]
        omega
      rw [if_pos hkey, hadd, ih]
      · simp only [hkey, List.filter_cons_of_pos, List.length_cons, totalBytes_cons,
          QueueDepth.mk.injEq]
        omega
      · simp only
        omega
      · simp only
        omega
    · rw [if_neg hkey, ih depth (by omega) (by omega), List.filter_cons_of_neg hkey]

theorem supersededBy_eq (hbounded : queue.Bounded) (hpackets : queue.limits.maxPackets ≤ usizeMax)
    (hbytes : queue.limits.maxQueuedBytes ≤ usizeMax) :
    queue.supersededBy packet =
      ⟨(queue.obsolete packet).length, totalBytes (queue.obsolete packet)⟩ := by
  have hlength := hbounded.packets_le
  have htotal := hbounded.bytes_le
  rw [hbounded.bytes_eq] at htotal
  rw [supersededBy, supersededBy_fold]
  · simp only [Nat.zero_add, obsolete]
  · simp only
    omega
  · simp only
    omega

theorem noUnderflow (hbounded : queue.Bounded) (hpackets : queue.limits.maxPackets ≤ usizeMax)
    (hbytes : queue.limits.maxQueuedBytes ≤ usizeMax) : queue.NoUnderflow packet := by
  have hlength := List.length_eq_length_filter_add (l := queue.packets) (supersedes packet)
  have htotal := totalBytes_filter (supersedes packet) queue.packets
  have heq := hbounded.bytes_eq
  have hle := hbounded.bytes_le
  constructor
  · rw [supersededBy_eq hbounded hpackets hbytes]
    change (queue.packets.filter _).length ≤ _
    omega
  · rw [supersededBy_eq hbounded hpackets hbytes]
    change totalBytes (queue.packets.filter _) ≤ _
    omega
  · omega
  · intro head hhead
    cases hqueue : queue.packets with
    | nil =>
      rw [hqueue] at hhead
      cases hhead
    | cons first rest =>
      rw [hqueue] at hhead heq
      cases hhead
      rw [totalBytes_cons] at heq
      omega

/-- Everything a push can do. -/
theorem tryPush_effect (hbounded : queue.Bounded) (hpackets : queue.limits.maxPackets ≤ usizeMax)
    (hbytes : queue.limits.maxQueuedBytes ≤ usizeMax) :
    PushEffect queue packet (queue.tryPush packet) := by
  have hlength : (queue.obsolete packet).length + (queue.survivors packet).length =
      queue.packets.length := (List.length_eq_length_filter_add _).symm
  have htotal : totalBytes (queue.obsolete packet) + totalBytes (queue.survivors packet) =
      totalBytes queue.packets := totalBytes_filter _ _
  have heq := hbounded.bytes_eq
  have hle := hbounded.bytes_le
  rw [tryPush]
  split
  · rename_i hsize
    exact .tooLarge hsize
  · rename_i hsize
    have hsize : packet.len ≤ queue.limits.maxPacketBytes := Nat.not_lt.mp hsize
    simp only [supersededBy_eq hbounded hpackets hbytes]
    split
    · rename_i hfull
      refine .full hsize ?_
      omega
    · rename_i hroom
      apply PushEffect.queued hsize
      · omega
      · omega
      · rfl
      · rfl
      · simp only
        omega

theorem filter_key_survivors (queue : BoundedQueue) (packet : Packet) {key : SupersessionKey}
    (hkey : packet.supersessionKey = some key) :
    (queue.survivors packet).filter (fun queued =>
      decide (queued.supersessionKey = some key)) = [] := by
  rw [survivors, List.filter_filter, List.filter_eq_nil_iff]
  intro queued _
  simp [supersedes, hkey]

theorem Bounded.push {after : BoundedQueue} {result : Except SendError SendReport}
    (hbounded : queue.Bounded) (h : PushEffect queue packet (result, after)) : after.Bounded := by
  cases h with
  | tooLarge => exact hbounded
  | full => exact hbounded
  | queued hsize hpackets hbytes hlimits hafter hqueued =>
    have hsurvivors : ∀ queued ∈ queue.survivors packet, queued ∈ queue.packets := by
      intro queued hqueued
      exact (List.mem_filter.mp hqueued).1
    constructor
    · rw [hqueued, hafter]
      simp
    · rw [hqueued, hlimits]
      exact hbytes
    · rw [hafter, hlimits, List.length_append]
      exact hpackets
    · intro queued hqueued
      rw [hlimits]
      rw [hafter] at hqueued
      rcases List.mem_append.mp hqueued with hold | hnew
      · exact hbounded.packet_le queued (hsurvivors queued hold)
      · rw [List.mem_singleton.mp hnew]
        exact hsize
    · intro key
      rw [hafter, List.filter_append]
      by_cases hkey : packet.supersessionKey = some key
      · -- Every queued packet with the new packet's key is gone.
        rw [filter_key_survivors queue packet hkey]
        simp [hkey]
      · have hold := hbounded.key_unique key
        have hsub : ((queue.survivors packet).filter fun queued =>
            decide (queued.supersessionKey = some key)).length ≤
            (queue.packets.filter fun queued =>
              decide (queued.supersessionKey = some key)).length :=
          (List.Sublist.filter _ List.filter_sublist).length_le
        simp [hkey]
        omega

theorem Bounded.pop (hbounded : queue.Bounded) : queue.pop.2.Bounded := by
  rw [BoundedQueue.pop]
  cases hqueue : queue.packets with
  | nil => exact hbounded
  | cons head rest =>
    have heq := hbounded.bytes_eq
    have hle := hbounded.bytes_le
    have hlength := hbounded.packets_le
    rw [hqueue] at heq hlength
    rw [totalBytes_cons] at heq
    rw [List.length_cons] at hlength
    constructor
    · simp only
      omega
    · simp only
      omega
    · simp only
      omega
    · intro queued hqueued
      exact hbounded.packet_le queued (by rw [hqueue]; exact List.mem_cons_of_mem head hqueued)
    · intro key
      have hold := hbounded.key_unique key
      rw [hqueue] at hold
      have hsub := (List.Sublist.filter (fun queued : Packet =>
        decide (queued.supersessionKey = some key)) (List.sublist_cons_self head rest)).length_le
      exact Nat.le_trans hsub hold

theorem bounded_new (limits : QueueLimits) : (BoundedQueue.new limits).Bounded :=
  ⟨rfl, Nat.zero_le _, Nat.zero_le _, nofun, fun _ => Nat.zero_le _⟩

theorem bounded_clear (queue : BoundedQueue) : queue.clear.2.Bounded := by
  constructor
  · rfl
  · exact Nat.zero_le _
  · exact Nat.zero_le _
  · exact nofun
  · intro key
    exact Nat.zero_le _

end BoundedQueue

inductive QueueAction where
  | push (packet : Packet)
  | pop
  | clear
  deriving DecidableEq

/-- A queue with the packets without a key that it accepted and returned since it was last
cleared. -/
structure QueueHistory where
  queue : BoundedQueue
  accepted : List Packet
  popped : List Packet
  deriving DecidableEq

namespace QueueHistory

/-- Packets that no later packet supersedes. -/
def keyless (packet : Packet) : Bool := packet.supersessionKey.isNone

def start (limits : QueueLimits) : QueueHistory := ⟨.new limits, [], []⟩

def push (s : QueueHistory) (packet : Packet) : QueueHistory :=
  match s.queue.tryPush packet with
  | (.ok _, queue) => { s with queue, accepted := s.accepted ++ [packet].filter keyless }
  | (.error _, queue) => { s with queue }

def pop (s : QueueHistory) : QueueHistory :=
  match s.queue.pop with
  | (some packet, queue) => { s with queue, popped := s.popped ++ [packet].filter keyless }
  | (none, queue) => { s with queue }

def clear (s : QueueHistory) : QueueHistory := start s.queue.clear.2.limits

def machine : Machine QueueHistory QueueAction where
  step
    | s, .push packet => some (s.push packet)
    | s, .pop => some s.pop
    | s, .clear => some s.clear

/-- The invariant of a queue with its history. -/
structure Invariant (limits : QueueLimits) (s : QueueHistory) : Prop where
  limits_eq : s.queue.limits = limits
  bounded : s.queue.Bounded
  fifo : s.accepted = s.popped ++ s.queue.packets.filter keyless

variable {limits : QueueLimits} {s : QueueHistory}

/-- A packet without a key is never obsolete. -/
theorem filter_keyless_survivors (queue : BoundedQueue) (packet : Packet) :
    (queue.survivors packet).filter keyless = queue.packets.filter keyless := by
  rw [BoundedQueue.survivors, List.filter_filter]
  apply List.filter_congr
  intro queued _
  cases hkey : queued.supersessionKey with
  | none =>
    cases hnew : packet.supersessionKey with
    | none => simp [keyless, BoundedQueue.supersedes, hkey, hnew]
    | some key => simp [keyless, BoundedQueue.supersedes, hkey, hnew]
  | some key => simp [keyless, hkey]

theorem Invariant.push (h : Invariant limits s) (hpackets : limits.maxPackets ≤ usizeMax)
    (hbytes : limits.maxQueuedBytes ≤ usizeMax) (packet : Packet) :
    Invariant limits (s.push packet) := by
  have hlimits := h.limits_eq
  subst hlimits
  have heffect : BoundedQueue.PushEffect s.queue packet (s.queue.tryPush packet) :=
    BoundedQueue.tryPush_effect h.bounded hpackets hbytes
  rw [QueueHistory.push]
  generalize hresult : s.queue.tryPush packet = result at heffect
  have hbounded := h.bounded.push heffect
  cases heffect with
  | tooLarge => exact ⟨rfl, h.bounded, h.fifo⟩
  | full => exact ⟨rfl, h.bounded, h.fifo⟩
  | queued hsize hcount htotal hlimits hafter hqueued =>
    refine ⟨hlimits, hbounded, ?_⟩
    simp only
    rw [hafter, List.filter_append, filter_keyless_survivors, h.fifo, List.append_assoc]

theorem Invariant.pop (h : Invariant limits s) : Invariant limits s.pop := by
  have hbounded := h.bounded.pop
  have hfifo := h.fifo
  rw [QueueHistory.pop]
  rw [BoundedQueue.pop] at hbounded ⊢
  cases hqueue : s.queue.packets with
  | nil => exact ⟨h.limits_eq, h.bounded, h.fifo⟩
  | cons packet packets =>
    rw [hqueue] at hbounded hfifo
    refine ⟨h.limits_eq, hbounded, ?_⟩
    simp only
    rw [hfifo, List.append_assoc, ← List.filter_append, List.singleton_append]

theorem Invariant.clear (h : Invariant limits s) : Invariant limits s.clear :=
  ⟨h.limits_eq, BoundedQueue.bounded_new _, rfl⟩

/-- The accounting, the limits and the order of a queue hold after every sequence of operations;
every further push acts on exactly the packets it supersedes. The limits have the range of
`usize`. -/
theorem bounded_queue_accounting (limits : QueueLimits) (hpackets : limits.maxPackets ≤ usizeMax)
    (hbytes : limits.maxQueuedBytes ≤ usizeMax) {actions : List QueueAction} {s : QueueHistory}
    (hrun : machine.run (start limits) actions = some s) :
    s.queue.limits = limits ∧ s.queue.Bounded ∧
      s.accepted = s.popped ++ s.queue.packets.filter keyless ∧
      ∀ packet, s.queue.NoUnderflow packet ∧
        BoundedQueue.PushEffect s.queue packet (s.queue.tryPush packet) := by
  have hinvariant : Invariant limits s := by
    refine machine.run_invariant (Invariant limits) ?_ ?_ hrun
    · intro s action t hs hstep
      cases action with
      | push packet =>
        cases hstep
        exact hs.push hpackets hbytes packet
      | pop =>
        cases hstep
        exact hs.pop
      | clear =>
        cases hstep
        exact hs.clear
    · exact ⟨rfl, BoundedQueue.bounded_new limits, rfl⟩
  obtain ⟨hlimits, hbounded, hfifo⟩ := hinvariant
  subst hlimits
  refine ⟨rfl, hbounded, hfifo, ?_⟩
  intro packet
  exact ⟨BoundedQueue.noUnderflow hbounded hpackets hbytes,
    BoundedQueue.tryPush_effect hbounded hpackets hbytes⟩

/-- A cursor image is replaced, an unkeyed packet passes it in the queue. -/
theorem bounded_queue_accounting_replaced :
    ∃ s, machine.run (start defaultMediaLimits) [.push (.replaceableMedia ⟨7⟩ [1, 2, 3]),
        .push (.media [4]), .push (.replaceableMedia ⟨7⟩ [5, 6]), .pop] = some s ∧
      s.queue.packets = [.replaceableMedia ⟨7⟩ [5, 6]] ∧ s.queue.queuedBytes = 2 ∧
      s.accepted = s.popped := by
  refine ⟨_, rfl, by decide, by decide, ?_⟩
  obtain ⟨-, -, hfifo, -⟩ := bounded_queue_accounting defaultMediaLimits (by decide) (by decide)
    (rfl : machine.run (start defaultMediaLimits) [.push (.replaceableMedia ⟨7⟩ [1, 2, 3]),
      .push (.media [4]), .push (.replaceableMedia ⟨7⟩ [5, 6]), .pop] = some _)
  exact hfifo.trans (List.append_nil _)

end QueueHistory

end LadoFlow.Transport
