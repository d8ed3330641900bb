import LadoFlow.Android.H264FrameGate
import LadoFlow.Android.TelemetryPayload

/-!
# In-flight access units

The capacity reservation that spans the caller, the codec thread and MediaCodec, and the ledger of
the access units that the codec thread holds.
-/

namespace LadoFlow.Android

open Framework

/-- Capacity reservation; a release that leaves a negative count would stop the codec thread. -/
structure DecoderInFlightWindow where
  capacity : Nat
  capacity_pos : 0 < capacity
  occupied : Int

namespace DecoderInFlightWindow

def depth (window : DecoderInFlightWindow) : Int := window.occupied

/-- Whether `tryAcquire` takes a slot. -/
def available (window : DecoderInFlightWindow) : Bool := window.occupied < window.capacity

def acquire (window : DecoderInFlightWindow) : DecoderInFlightWindow :=
  { window with occupied := window.occupied + 1 }

def release (window : DecoderInFlightWindow) (count : Nat) : DecoderInFlightWindow :=
  { window with occupied := window.occupied - count }

end DecoderInFlightWindow

/-- An access unit that waits for an input buffer. The ledger entries also keep the position of
their frame among the submitted ones, which the source does not store. -/
structure PendingInput where
  submission : Nat
  input : H264DecoderInput
  deriving DecidableEq

structure CorrelatedDecoderOutput where
  submission : Nat
  frameId : UInt64
  decodeDurationMicros : UInt32
  deriving DecidableEq

structure QueuedFrame where
  submission : Nat
  frameId : UInt64
  queuedAtNanos : Int64
  deriving DecidableEq

/-- The per-timestamp queues in insertion order. -/
abbrev TimestampQueues := List (Int64 × List QueuedFrame)

namespace TimestampQueues

/-- `getOrPut(timestamp) { ArrayDeque() }.addLast(frame)` -/
def push (timestamp : Int64) (frame : QueuedFrame) : TimestampQueues → TimestampQueues
  | [] => [(timestamp, [frame])]
  | (key, frames) :: rest =>
    if key = timestamp then (key, frames ++ [frame]) :: rest
    else (key, frames) :: push timestamp frame rest

/-- The oldest frame of a timestamp; its queue is removed with its last frame. -/
def poll (timestamp : Int64) : TimestampQueues → Option (QueuedFrame × TimestampQueues)
  | [] => none
  | (key, frames) :: rest =>
    if key = timestamp then
      match frames with
      | [] => none
      | frame :: frames => some (frame, if frames = [] then rest else (key, frames) :: rest)
    else
      match poll timestamp rest with
      | some (frame, rest) => some (frame, (key, frames) :: rest)
      | none => none

/-- All queued frames. -/
def frames (queues : TimestampQueues) : List QueuedFrame := queues.flatMap (·.2)

def size (queues : TimestampQueues) : Nat := (queues.map (·.2.length)).sum

theorem size_push (timestamp : Int64) (frame : QueuedFrame) (queues : TimestampQueues) :
    size (push timestamp frame queues) = size queues + 1 := by
  induction queues with
  | nil => rfl
  | cons entry rest ih =>
    obtain ⟨key, frames⟩ := entry
    rw [push]
    split
    · simp [size]
      omega
    · simp only [size, List.map_cons, List.sum_cons] at ih ⊢
      omega

theorem mem_frames_push {timestamp : Int64} {frame other : QueuedFrame} {queues : TimestampQueues}
    (h : other ∈ frames (push timestamp frame queues)) : other = frame ∨ other ∈ frames queues := by
  induction queues with
  | nil => exact .inl (by simpa [frames, push] using h)
  | cons entry rest ih =>
    obtain ⟨key, queued⟩ := entry
    rw [push] at h
    split at h
    · simp only [frames, List.flatMap_cons, List.mem_append, List.mem_singleton] at h ⊢
      tauto
    · simp only [frames, List.flatMap_cons, List.mem_append] at h ih ⊢
      tauto

theorem poll_some {timestamp : Int64} {queues rest : TimestampQueues} {frame : QueuedFrame}
    (h : poll timestamp queues = some (frame, rest)) :
    size queues = size rest + 1 ∧ frame ∈ frames queues ∧
      ∀ other ∈ frames rest, other ∈ frames queues := by
  induction queues generalizing rest with
  | nil => cases h
  | cons entry tail ih =>
    obtain ⟨key, queued⟩ := entry
    simp only [poll] at h
    split at h
    · cases queued with
      | nil => cases h
      | cons first others =>
        cases h
        by_cases hempty : others = []
        · subst hempty
          rw [if_pos rfl]
          refine ⟨by simp [size]; omega, by simp [frames], ?_⟩
          intro other hother
          exact List.mem_flatMap.mpr ((List.mem_flatMap.mp hother).imp fun entry hentry =>
            ⟨List.mem_cons_of_mem _ hentry.1, hentry.2⟩)
        · rw [if_neg hempty]
          refine ⟨by simp [size]; omega, by simp [frames], ?_⟩
          intro other hother
          simp only [frames, List.flatMap_cons, List.mem_append] at hother ⊢
          exact hother.imp_left (List.mem_cons_of_mem _)
    · cases hpoll : poll timestamp tail with
      | none =>
        rw [hpoll] at h
        cases h
      | some polled =>
        rw [hpoll] at h
        cases h
        obtain ⟨hsize, hmem, hrest⟩ := ih hpoll
        simp only [size, frames, List.map_cons, List.sum_cons, List.flatMap_cons,
          List.mem_append] at hsize hmem hrest ⊢
        refine ⟨by omega, .inr hmem, ?_⟩
        intro other hother
        exact hother.imp_right (hrest other)

end TimestampQueues

/-- Access units pending input, and inputs already queued into MediaCodec. -/
structure DecoderPipelineLedger where
  capacity : Nat
  capacity_pos : 0 < capacity
  pending : List PendingInput
  queuedByTimestamp : TimestampQueues

namespace DecoderPipelineLedger

def new (capacity : Nat) (capacity_pos : 0 < capacity) : DecoderPipelineLedger :=
  ⟨capacity, capacity_pos, [], []⟩

def depth (ledger : DecoderPipelineLedger) : Nat :=
  ledger.pending.length + ledger.queuedByTimestamp.size

/-- `enqueue`, when it returns true. -/
def enqueue (ledger : DecoderPipelineLedger) (input : PendingInput) :
    Option DecoderPipelineLedger :=
  if ledger.depth ≥ ledger.capacity then none
  else some { ledger with pending := ledger.pending ++ [input] }

def takePending (ledger : DecoderPipelineLedger) : Option (PendingInput × DecoderPipelineLedger) :=
  match ledger.pending with
  | [] => none
  | input :: pending => some (input, { ledger with pending })

def markQueued (ledger : DecoderPipelineLedger) (pending : PendingInput)
    (queuedAtNanos : Int64) : DecoderPipelineLedger :=
  { ledger with
    queuedByTimestamp := ledger.queuedByTimestamp.push pending.input.presentationTimestampMicros
      ⟨pending.submission, pending.input.frameId, queuedAtNanos⟩ }

/-- The decode duration of an output, within the range of the telemetry payload. -/
def decodeDurationMicros (queuedAtNanos outputAvailableAtNanos : Int64) : UInt32 :=
  let elapsedMicros := max (outputAvailableAtNanos - queuedAtNanos) 0 / 1000
  UInt32.ofNat (min elapsedMicros.toInt.toNat maxStageDurationMicros.toNat)

def takeOutput (ledger : DecoderPipelineLedger) (presentationTimestampMicros : Int64)
    (outputAvailableAtNanos : Int64) : Option (CorrelatedDecoderOutput × DecoderPipelineLedger) :=
  match ledger.queuedByTimestamp.poll presentationTimestampMicros with
  | some (frame, queuedByTimestamp) =>
    some (⟨frame.submission, frame.frameId,
        decodeDurationMicros frame.queuedAtNanos outputAvailableAtNanos⟩,
      { ledger with queuedByTimestamp })
  | none => none

def discardAll (ledger : DecoderPipelineLedger) : DecoderPipelineLedger :=
  { ledger with pending := [], queuedByTimestamp := [] }

/-- Submission and frame id of every access unit in the ledger. -/
def units (ledger : DecoderPipelineLedger) : List (Nat × UInt64) :=
  ledger.pending.map (fun pending => (pending.submission, pending.input.frameId)) ++
    ledger.queuedByTimestamp.frames.map fun frame => (frame.submission, frame.frameId)

@[simp] theorem depth_new (capacity : Nat) (h : 0 < capacity) : (new capacity h).depth = 0 := rfl

@[simp] theorem depth_discardAll (ledger : DecoderPipelineLedger) :
    ledger.discardAll.depth = 0 := rfl

@[simp] theorem units_discardAll (ledger : DecoderPipelineLedger) :
    ledger.discardAll.units = [] := rfl

/-- The depth counts the access units. -/
theorem length_units (ledger : DecoderPipelineLedger) : ledger.units.length = ledger.depth := by
  simp [units, depth, TimestampQueues.frames, TimestampQueues.size, List.length_flatMap]

variable {ledger next : DecoderPipelineLedger} {input : PendingInput}

theorem enqueue_some (h : ledger.enqueue input = some next) :
    ledger.depth < ledger.capacity ∧ next = { ledger with pending := ledger.pending ++ [input] } ∧
      next.depth = ledger.depth + 1 := by
  rw [enqueue] at h
  split at h
  · cases h
  · cases h
    refine ⟨by omega, rfl, ?_⟩
    simp [depth]
    omega

theorem enqueue_none : ledger.enqueue input = none ↔ ledger.capacity ≤ ledger.depth := by
  rw [enqueue]
  split <;> simp_all

theorem mem_units_enqueue (h : ledger.enqueue input = some next) {unit : Nat × UInt64}
    (hmem : unit ∈ next.units) :
    unit = (input.submission, input.input.frameId) ∨ unit ∈ ledger.units := by
  rw [(enqueue_some h).2.1] at hmem
  simp only [units, List.map_append, List.map_cons, List.map_nil, List.mem_append,
    List.mem_singleton] at hmem ⊢
  tauto

theorem takePending_some (h : ledger.takePending = some (input, next)) :
    next = { ledger with pending := next.pending } ∧ ledger.pending = input :: next.pending := by
  rw [takePending] at h
  split at h
  · cases h
  · rename_i hpending
    cases h
    exact ⟨rfl, hpending⟩

theorem depth_takePending (h : ledger.takePending = some (input, next)) :
    ledger.depth = next.depth + 1 := by
  obtain ⟨hnext, hpending⟩ := takePending_some h
  rw [hnext]
  simp only [depth, hpending, List.length_cons]
  omega

theorem takeOutput_some {timestamp nanos : Int64} {output : CorrelatedDecoderOutput}
    (h : ledger.takeOutput timestamp nanos = some (output, next)) :
    ledger.depth = next.depth + 1 ∧ next.capacity = ledger.capacity ∧
      (output.submission, output.frameId) ∈ ledger.units ∧
      ∀ unit ∈ next.units, unit ∈ ledger.units := by
  rw [takeOutput] at h
  split at h
  · rename_i frame queues hpoll
    cases h
    obtain ⟨hsize, hmem, hrest⟩ := TimestampQueues.poll_some hpoll
    refine ⟨by simp only [depth]; omega, rfl, ?_, ?_⟩
    · exact List.mem_append_right _ (List.mem_map_of_mem hmem)
    · intro unit hunit
      simp only [units, List.mem_append, List.mem_map] at hunit ⊢
      rcases hunit with hpending | ⟨other, hother, rfl⟩
      · exact .inl hpending
      · exact .inr ⟨other, hrest other hother, rfl⟩
  · cases h

/-- Moving the oldest pending access unit into MediaCodec keeps the depth. -/
theorem depth_markQueued (nanos : Int64) (h : ledger.takePending = some (input, next)) :
    (next.markQueued input nanos).depth = ledger.depth := by
  have hdepth := depth_takePending h
  simp only [depth, markQueued, TimestampQueues.size_push] at hdepth ⊢
  omega

theorem mem_units_markQueued {nanos : Int64} (h : ledger.takePending = some (input, next))
    {unit : Nat × UInt64} (hmem : unit ∈ (next.markQueued input nanos).units) :
    unit ∈ ledger.units := by
  obtain ⟨hnext, hpending⟩ := takePending_some h
  rw [hnext] at hmem
  simp only [units, markQueued, List.mem_append, List.mem_map, hpending] at hmem ⊢
  rcases hmem with ⟨other, hother, rfl⟩ | ⟨other, hother, rfl⟩
  · exact .inl ⟨other, List.mem_cons_of_mem _ hother, rfl⟩
  · rcases TimestampQueues.mem_frames_push hother with rfl | hold
    · exact .inl ⟨input, List.mem_cons_self, rfl⟩
    · exact .inr ⟨other, hold, rfl⟩

end DecoderPipelineLedger

end LadoFlow.Android
