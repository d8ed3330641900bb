import LadoFlow.Android.DecoderPipeline
import Mathlib.Data.List.Nodup
import Mathlib.Data.List.Perm.Basic

/-!
# The decoder ledger keeps its frames apart

The queued frames of a timestamp form a lane: the codec's outputs take them in the order in which they
were queued, whatever timestamps it repeats or invents.
-/

namespace LadoFlow.Android

namespace TimestampQueues

/-- The frames that wait with a timestamp, oldest first. -/
def lane (timestamp : Int64) : TimestampQueues → List QueuedFrame
  | [] => []
  | (key, frames) :: rest => if key = timestamp then frames else lane timestamp rest

/-- Every timestamp has at most one queue, and no queue is empty. -/
structure WellKeyed (queues : TimestampQueues) : Prop where
  keys : (queues.map Prod.fst).Nodup
  nonempty : ∀ entry ∈ queues, entry.2 ≠ []

variable {timestamp other : Int64} {frame : QueuedFrame} {queues rest : TimestampQueues}

theorem wellKeyed_nil : WellKeyed [] := ⟨List.nodup_nil, List.forall_mem_nil _⟩

theorem WellKeyed.tail {entry : Int64 × List QueuedFrame} (h : WellKeyed (entry :: queues)) :
    WellKeyed queues :=
  ⟨(List.nodup_cons.mp h.keys).2, fun other hother => h.nonempty other (List.mem_cons_of_mem _ hother)⟩

theorem lane_of_notMem (h : timestamp ∉ queues.map Prod.fst) : lane timestamp queues = [] := by
  induction queues with
  | nil => rfl
  | cons entry rest ih =>
    rw [List.map_cons, List.mem_cons, not_or] at h
    rw [lane, if_neg (Ne.symm h.1)]
    exact ih h.2

section Push

theorem lane_push (timestamp other : Int64) (frame : QueuedFrame) (queues : TimestampQueues) :
    lane other (push timestamp frame queues) =
      if timestamp = other then lane other queues ++ [frame] else lane other queues := by
  induction queues with
  | nil => simp [push, lane]
  | cons entry rest ih =>
    obtain ⟨key, frames⟩ := entry
    rw [push]
    by_cases hkey : key = timestamp
    · subst hkey
      by_cases hother : key = other
      · simp [lane, hother]
      · simp [lane, hother]
    · rw [if_neg hkey]
      by_cases hother : key = other
      · have hne : timestamp ≠ other := fun heq => hkey (hother.trans heq.symm)
        simp [lane, hother, hne]
      · simp only [lane, if_neg hother]
        exact ih

theorem mem_keys_push (h : other ∈ (push timestamp frame queues).map Prod.fst) :
    other = timestamp ∨ other ∈ queues.map Prod.fst := by
  induction queues with
  | nil => exact .inl (by simpa [push] using h)
  | cons entry rest ih =>
    obtain ⟨key, frames⟩ := entry
    rw [push] at h
    split at h
    · exact .inr h
    · rw [List.map_cons, List.mem_cons] at h
      rcases h with hkey | hrest
      · exact .inr (by rw [hkey]; exact List.mem_cons_self)
      · exact (ih hrest).imp_right (List.mem_cons_of_mem _)

theorem WellKeyed.push (h : WellKeyed queues) (timestamp : Int64) (frame : QueuedFrame) :
    WellKeyed (push timestamp frame queues) := by
  induction queues with
  | nil => exact ⟨List.nodup_singleton _, by simp [TimestampQueues.push]⟩
  | cons entry rest ih =>
    obtain ⟨key, frames⟩ := entry
    have hrest := ih h.tail
    have hkey := (List.nodup_cons.mp h.keys).1
    rw [TimestampQueues.push]
    split
    · refine ⟨h.keys, ?_⟩
      intro entry hentry
      rcases List.mem_cons.mp hentry with rfl | hentry
      · simp
      · exact h.tail.nonempty entry hentry
    · rename_i hne
      refine ⟨List.nodup_cons.mpr ⟨?_, hrest.keys⟩, ?_⟩
      · intro hmem
        rcases mem_keys_push hmem with heq | hold
        · exact hne heq
        · exact hkey hold
      · intro entry hentry
        rcases List.mem_cons.mp hentry with rfl | hentry
        · exact h.nonempty _ List.mem_cons_self
        · exact hrest.nonempty entry hentry

theorem frames_push_perm (timestamp : Int64) (frame : QueuedFrame) (queues : TimestampQueues) :
    (frames (push timestamp frame queues)).Perm (frame :: frames queues) := by
  induction queues with
  | nil => exact List.Perm.refl _
  | cons entry rest ih =>
    obtain ⟨key, queued⟩ := entry
    rw [push]
    split
    · simp only [frames, List.flatMap_cons, List.append_assoc, List.singleton_append]
      exact List.perm_middle
    · simp only [frames, List.flatMap_cons] at ih ⊢
      exact (ih.append_left queued).trans List.perm_middle

end Push

section Poll

theorem poll_eq_none : poll timestamp queues = none ↔ lane timestamp queues = [] := by
  induction queues with
  | nil => simp [poll, lane]
  | cons entry rest ih =>
    obtain ⟨key, queued⟩ := entry
    simp only [poll, lane]
    split
    · cases queued with
      | nil => simp
      | cons first others => simp
    · rw [← ih]
      cases poll timestamp rest with
      | none => simp
      | some polled => simp

/-- What was polled is a frame of some queue; the others stay, in their order. -/
theorem poll_parts (h : poll timestamp queues = some (frame, rest)) :
    (frames queues).Perm (frame :: frames rest) ∧
      (rest.map Prod.fst).Sublist (queues.map Prod.fst) := by
  induction queues generalizing rest with
  | nil => cases h
  | cons entry tail ih =>
    obtain ⟨key, queued⟩ := entry
    simp only [poll] at h
    split at h
    · cases queued with
      | nil => cases h
      | cons first others =>
        cases h
        by_cases hempty : others = []
        · rw [if_pos hempty, hempty]
          exact ⟨List.Perm.refl _, List.sublist_cons_self _ _⟩
        · rw [if_neg hempty]
          exact ⟨List.Perm.refl _, List.Sublist.refl _⟩
    · cases hpoll : poll timestamp tail with
      | none =>
        rw [hpoll] at h
        cases h
      | some polled =>
        rw [hpoll] at h
        cases h
        obtain ⟨hperm, hkeys⟩ := ih hpoll
        refine ⟨?_, hkeys.cons_cons key⟩
        simp only [frames, List.flatMap_cons] at hperm ⊢
        exact (hperm.append_left queued).trans List.perm_middle

/-- Polling takes the oldest frame of the lane and leaves the other lanes. -/
theorem WellKeyed.poll (h : WellKeyed queues) (hpoll : poll timestamp queues = some (frame, rest)) :
    lane timestamp queues = frame :: lane timestamp rest ∧
      (∀ other, other ≠ timestamp → lane other rest = lane other queues) ∧ WellKeyed rest := by
  induction queues generalizing rest with
  | nil => cases hpoll
  | cons entry tail ih =>
    obtain ⟨key, queued⟩ := entry
    have hkey := (List.nodup_cons.mp h.keys).1
    simp only [TimestampQueues.poll] at hpoll
    split at hpoll
    · rename_i hsame
      subst hsame
      cases queued with
      | nil => cases hpoll
      | cons first others =>
        cases hpoll
        by_cases hempty : others = []
        · rw [if_pos hempty]
          refine ⟨?_, ?_, h.tail⟩
          · rw [lane_of_notMem hkey]
            simp [lane, hempty]
          · intro other hother
            rw [lane, if_neg (Ne.symm hother)]
        · rw [if_neg hempty]
          refine ⟨by simp [lane], ?_, h.keys, ?_⟩
          · intro other hother
            simp [lane, Ne.symm hother]
          · intro entry hentry
            rcases List.mem_cons.mp hentry with rfl | hentry
            · exact hempty
            · exact h.tail.nonempty entry hentry
    · rename_i hne
      cases hfound : TimestampQueues.poll timestamp tail with
      | none =>
        rw [hfound] at hpoll
        cases hpoll
      | some polled =>
        rw [hfound] at hpoll
        cases hpoll
        obtain ⟨hlane, hothers, hrest⟩ := ih h.tail hfound
        have hsublist := (poll_parts hfound).2
        refine ⟨?_, ?_, List.nodup_cons.mpr ⟨fun hmem => hkey (hsublist.subset hmem), hrest.keys⟩, ?_⟩
        · simp only [lane, if_neg hne]
          exact hlane
        · intro other hother
          simp only [lane]
          rw [hothers other hother]
        · intro entry hentry
          rcases List.mem_cons.mp hentry with rfl | hentry
          · exact h.nonempty _ List.mem_cons_self
          · exact hrest.nonempty entry hentry

end Poll

end TimestampQueues

namespace DecoderPipelineLedger

/-- `discardAll` with the count that it returns. -/
def discardAllCounted (ledger : DecoderPipelineLedger) : Nat × DecoderPipelineLedger :=
  (ledger.depth, ledger.discardAll)

/-- The frames that were queued into the codec with a timestamp and are not out yet. -/
def waiting (ledger : DecoderPipelineLedger) (timestamp : Int64) : List QueuedFrame :=
  ledger.queuedByTimestamp.lane timestamp

def submissions (ledger : DecoderPipelineLedger) : List Nat := ledger.units.map Prod.fst

variable {ledger next : DecoderPipelineLedger} {pending : PendingInput} {timestamp nanos : Int64}

theorem submissions_enqueue (h : ledger.enqueue pending = some next) :
    next.submissions.Perm (pending.submission :: ledger.submissions) := by
  rw [(enqueue_some h).2.1]
  simp only [submissions, units, List.map_append, List.map_cons, List.map_nil, List.append_assoc,
    List.singleton_append]
  exact List.perm_middle

theorem submissions_markQueued (h : ledger.takePending = some (pending, next)) (nanos : Int64) :
    (next.markQueued pending nanos).submissions.Perm ledger.submissions := by
  obtain ⟨hnext, hpending⟩ := takePending_some h
  have hframes := TimestampQueues.frames_push_perm pending.input.presentationTimestampMicros
    ⟨pending.submission, pending.input.frameId, nanos⟩ ledger.queuedByTimestamp
  have hqueues : next.queuedByTimestamp = ledger.queuedByTimestamp := by rw [hnext]
  simp only [submissions, units, markQueued, hpending, hqueues, List.map_append, List.map_map,
    List.map_cons, List.cons_append]
  refine ((hframes.map _).append_left _).trans ?_
  rw [List.map_cons]
  exact List.perm_middle

theorem submissions_takeOutput {output : CorrelatedDecoderOutput}
    (h : ledger.takeOutput timestamp nanos = some (output, next)) :
    ledger.submissions.Perm (output.submission :: next.submissions) := by
  rw [takeOutput] at h
  split at h
  · rename_i frame queues hpoll
    cases h
    obtain ⟨hframes, -⟩ := TimestampQueues.poll_parts hpoll
    simp only [submissions, units, List.map_append, List.map_map]
    refine ((hframes.map _).append_left _).trans ?_
    rw [List.map_cons]
    exact List.perm_middle
  · cases h

theorem takeOutput_eq_none : ledger.takeOutput timestamp nanos = none ↔ ledger.waiting timestamp = [] := by
  rw [waiting, ← TimestampQueues.poll_eq_none, takeOutput]
  cases ledger.queuedByTimestamp.poll timestamp with
  | none => simp
  | some polled => simp

theorem decodeDurationMicros_le (queuedAtNanos outputAvailableAtNanos : Int64) :
    decodeDurationMicros queuedAtNanos outputAvailableAtNanos ≤ maxStageDurationMicros := by
  rw [decodeDurationMicros, UInt32.le_iff_toNat_le]
  refine Nat.le_trans (Nat.mod_le _ _) (Nat.min_le_right _ _)

/-- An output is the oldest frame that waits with its timestamp. -/
theorem takeOutput_waiting {output : CorrelatedDecoderOutput}
    (hkeyed : ledger.queuedByTimestamp.WellKeyed)
    (h : ledger.takeOutput timestamp nanos = some (output, next)) :
    ∃ frame, ledger.waiting timestamp = frame :: next.waiting timestamp ∧
      output = ⟨frame.submission, frame.frameId, decodeDurationMicros frame.queuedAtNanos nanos⟩ ∧
      (∀ other, other ≠ timestamp → next.waiting other = ledger.waiting other) ∧
      next.pending = ledger.pending ∧ next.queuedByTimestamp.WellKeyed := by
  rw [takeOutput] at h
  split at h
  · rename_i frame queues hpoll
    cases h
    obtain ⟨hlane, hothers, hrest⟩ := hkeyed.poll hpoll
    exact ⟨frame, hlane, rfl, hothers, rfl, hrest⟩
  · cases h

end DecoderPipelineLedger

inductive LedgerCall where
  | enqueue (input : H264DecoderInput)
  /-- `takePending`, and `markQueued` of the same input -/
  | queueNext (queuedAtNanos : Int64)
  | takeOutput (presentationTimestampMicros outputAvailableAtNanos : Int64)
  | discardAll
  deriving DecidableEq

/-- A ledger with what its calls have returned. The frames that were queued and the outputs are kept
since the ledger was last emptied. -/
structure LedgerHistory where
  ledger : DecoderPipelineLedger
  enqueued : Nat
  discarded : Nat
  /-- the submissions of all outputs -/
  delivered : List Nat
  queued : List (Int64 × QueuedFrame)
  outputs : List (Int64 × CorrelatedDecoderOutput)

namespace LedgerHistory

open DecoderPipelineLedger

def new (capacity : Nat) (capacity_pos : 0 < capacity) : LedgerHistory :=
  ⟨.new capacity capacity_pos, 0, 0, [], [], []⟩

variable (history : LedgerHistory)

def call : LedgerCall → LedgerHistory
  | .enqueue input =>
    match history.ledger.enqueue ⟨history.enqueued, input⟩ with
    | none => history
    | some ledger => { history with ledger, enqueued := history.enqueued + 1 }
  | .queueNext queuedAtNanos =>
    match history.ledger.takePending with
    | none => history
    | some (pending, ledger) =>
      { history with
        ledger := ledger.markQueued pending queuedAtNanos
        queued := history.queued ++ [(pending.input.presentationTimestampMicros,
          ⟨pending.submission, pending.input.frameId, queuedAtNanos⟩)] }
  | .takeOutput timestamp nanos =>
    match history.ledger.takeOutput timestamp nanos with
    | none => history
    | some (output, ledger) =>
      { history with
        ledger
        delivered := history.delivered ++ [output.submission]
        outputs := history.outputs ++ [(timestamp, output)] }
  | .discardAll =>
    let (count, ledger) := history.ledger.discardAllCounted
    { history with ledger, discarded := history.discarded + count, queued := [], outputs := [] }

def run (calls : List LedgerCall) : LedgerHistory := calls.foldl call history

/-- The frames that were queued with the timestamp, in queueing order. -/
def queuedWith (timestamp : Int64) : List (Nat × UInt64) :=
  (history.queued.filter (·.1 = timestamp)).map fun entry => (entry.2.submission, entry.2.frameId)

/-- The frames that came out with the timestamp, in output order. -/
def outputsWith (timestamp : Int64) : List (Nat × UInt64) :=
  (history.outputs.filter (·.1 = timestamp)).map fun entry => (entry.2.submission, entry.2.frameId)

def waitingWith (timestamp : Int64) : List (Nat × UInt64) :=
  (history.ledger.waiting timestamp).map fun frame => (frame.submission, frame.frameId)

/-- Every accepted input is in the ledger, out, or discarded, and the lanes agree with what was queued. -/
structure Exact (history : LedgerHistory) : Prop where
  wellKeyed : history.ledger.queuedByTimestamp.WellKeyed
  depth : history.ledger.depth + history.delivered.length + history.discarded = history.enqueued
  capacity : history.ledger.depth ≤ history.ledger.capacity
  lanes : ∀ timestamp,
    history.queuedWith timestamp = history.outputsWith timestamp ++ history.waitingWith timestamp
  once : (history.ledger.submissions ++ history.delivered).Nodup
  numbered : ∀ submission ∈ history.ledger.submissions ++ history.delivered,
    submission < history.enqueued

section Calls

variable {history : LedgerHistory}

theorem exact_new (capacity : Nat) (capacity_pos : 0 < capacity) : (new capacity capacity_pos).Exact where
  wellKeyed := TimestampQueues.wellKeyed_nil
  depth := rfl
  capacity := Nat.zero_le _
  lanes := fun _ => rfl
  once := List.nodup_nil
  numbered := List.forall_mem_nil _

theorem Exact.enqueue (h : history.Exact) (input : H264DecoderInput) :
    (history.call (.enqueue input)).Exact := by
  rw [call]
  split
  · exact h
  · rename_i ledger hledger
    obtain ⟨hroom, hnext, hdepth⟩ := enqueue_some hledger
    have hperm : (ledger.submissions ++ history.delivered).Perm
        (history.enqueued :: (history.ledger.submissions ++ history.delivered)) :=
      (submissions_enqueue hledger).append_right _
    have hqueues : ledger.queuedByTimestamp = history.ledger.queuedByTimestamp := by rw [hnext]
    have hcapacity : ledger.capacity = history.ledger.capacity := by rw [hnext]
    refine ⟨hqueues ▸ h.wellKeyed, ?_, ?_, ?_, ?_, ?_⟩
    · have := h.depth
      simp only
      omega
    · rw [hcapacity, hdepth]
      exact hroom
    · intro timestamp
      rw [waitingWith, waiting, hqueues]
      exact h.lanes timestamp
    · refine hperm.nodup_iff.mpr (List.nodup_cons.mpr ⟨?_, h.once⟩)
      intro hmem
      exact Nat.lt_irrefl _ (h.numbered _ hmem)
    · intro submission hmem
      rcases List.mem_cons.mp (hperm.mem_iff.mp hmem) with rfl | hold
      · exact Nat.lt_succ_self _
      · exact Nat.lt_succ_of_lt (h.numbered _ hold)

theorem Exact.queueNext (h : history.Exact) (nanos : Int64) :
    (history.call (.queueNext nanos)).Exact := by
  rw [call]
  split
  · exact h
  · rename_i pending ledger hledger
    obtain ⟨hnext, -⟩ := takePending_some hledger
    have hperm := (submissions_markQueued hledger nanos).append_right history.delivered
    have hqueues : ledger.queuedByTimestamp = history.ledger.queuedByTimestamp := by rw [hnext]
    have hcapacity : ledger.capacity = history.ledger.capacity := by rw [hnext]
    have hdepth := depth_markQueued nanos hledger
    refine ⟨?_, ?_, ?_, ?_, hperm.nodup_iff.mpr h.once, ?_⟩
    · rw [markQueued, hqueues]
      exact h.wellKeyed.push _ _
    · rw [hdepth]
      exact h.depth
    · rw [hdepth, markQueued, hcapacity]
      exact h.capacity
    · intro timestamp
      have hlanes := h.lanes timestamp
      simp only [queuedWith, outputsWith, waitingWith, waiting, markQueued, hqueues,
        TimestampQueues.lane_push, List.filter_append, List.map_append] at hlanes ⊢
      by_cases hsame : pending.input.presentationTimestampMicros = timestamp
      · simp [hsame, hlanes]
      · simp [hsame, hlanes]
    · intro submission hmem
      exact h.numbered _ (hperm.mem_iff.mp hmem)

theorem Exact.takeOutput (h : history.Exact) (timestamp nanos : Int64) :
    (history.call (.takeOutput timestamp nanos)).Exact := by
  rw [call]
  split
  · exact h
  · rename_i output ledger hledger
    obtain ⟨hdepth, hcapacity, -, -⟩ := takeOutput_some hledger
    obtain ⟨frame, hlane, houtput, hothers, -, hkeyed⟩ := takeOutput_waiting h.wellKeyed hledger
    have hperm : (ledger.submissions ++ (history.delivered ++ [output.submission])).Perm
        (history.ledger.submissions ++ history.delivered) := by
      rw [← List.append_assoc]
      refine (List.perm_append_singleton _ _).trans ?_
      rw [← List.cons_append]
      exact (submissions_takeOutput hledger).symm.append_right _
    refine ⟨hkeyed, ?_, ?_, ?_, hperm.nodup_iff.mpr h.once, ?_⟩
    · have := h.depth
      simp only [List.length_append, List.length_singleton]
      omega
    · have := h.capacity
      simp only
      omega
    · intro other
      have hlanes := h.lanes other
      simp only [queuedWith, outputsWith, waitingWith, List.filter_append, List.map_append]
        at hlanes ⊢
      by_cases hsame : timestamp = other
      · subst hsame
        rw [hlanes, hlane, houtput]
        simp
      · rw [hlanes, hothers other (Ne.symm hsame)]
        simp [hsame]
    · intro submission hmem
      exact h.numbered _ (hperm.mem_iff.mp hmem)

theorem Exact.discardAll (h : history.Exact) : (history.call .discardAll).Exact where
  wellKeyed := TimestampQueues.wellKeyed_nil
  depth := by
    have := h.depth
    simp only [call, discardAllCounted, depth_discardAll]
    omega
  capacity := Nat.zero_le _
  lanes := fun _ => rfl
  once := (List.nodup_append.mp h.once).2.1
  numbered := fun submission hmem => h.numbered submission (List.mem_append_right _ hmem)

theorem Exact.call (h : history.Exact) (c : LedgerCall) : (history.call c).Exact := by
  cases c with
  | enqueue input => exact h.enqueue input
  | queueNext nanos => exact h.queueNext nanos
  | takeOutput timestamp nanos => exact h.takeOutput timestamp nanos
  | discardAll => exact h.discardAll

theorem capacity_call (history : LedgerHistory) (c : LedgerCall) :
    (history.call c).ledger.capacity = history.ledger.capacity := by
  cases c with
  | enqueue input =>
    rw [LedgerHistory.call]
    split
    · rfl
    · rename_i hledger
      rw [(enqueue_some hledger).2.1]
  | queueNext nanos =>
    rw [LedgerHistory.call]
    split
    · rfl
    · rename_i hledger
      rw [markQueued, (takePending_some hledger).1]
  | takeOutput timestamp nanos =>
    rw [LedgerHistory.call]
    split
    · rfl
    · rename_i hledger
      exact (takeOutput_some hledger).2.1
  | discardAll => rfl

theorem Exact.run (h : history.Exact) (calls : List LedgerCall) :
    (history.run calls).Exact ∧ (history.run calls).ledger.capacity = history.ledger.capacity := by
  induction calls generalizing history with
  | nil => exact ⟨h, rfl⟩
  | cons c calls ih =>
    obtain ⟨hexact, hcapacity⟩ := ih (h.call c)
    exact ⟨hexact, hcapacity.trans (history.capacity_call c)⟩

end Calls

/-- After any calls the depth counts the accepted inputs that are neither out nor discarded, every output
is the oldest frame that waits with its timestamp, and emptying the ledger returns its depth. -/
theorem ledger_exact (capacity : Nat) (capacity_pos : 0 < capacity) (calls : List LedgerCall) :
    let history := (new capacity capacity_pos).run calls
    let ledger := history.ledger
    (ledger.depth + history.delivered.length + history.discarded = history.enqueued ∧
      ledger.depth ≤ capacity) ∧
    (∀ entry ∈ ledger.queuedByTimestamp, entry.2 ≠ []) ∧
    (∀ timestamp, history.queuedWith timestamp =
      history.outputsWith timestamp ++ history.waitingWith timestamp) ∧
    history.delivered.Nodup ∧
    (∀ timestamp nanos, ledger.takeOutput timestamp nanos = none ↔ ledger.waiting timestamp = []) ∧
    (∀ timestamp nanos output next, ledger.takeOutput timestamp nanos = some (output, next) →
      (∃ frame, ledger.waiting timestamp = frame :: next.waiting timestamp ∧
        output = ⟨frame.submission, frame.frameId, decodeDurationMicros frame.queuedAtNanos nanos⟩) ∧
      (∀ other, other ≠ timestamp → next.waiting other = ledger.waiting other) ∧
      next.pending = ledger.pending ∧ output.decodeDurationMicros ≤ maxStageDurationMicros) ∧
    (ledger.discardAllCounted.1 = ledger.depth ∧ ledger.discardAllCounted.2.depth = 0 ∧
      ledger.discardAllCounted.2.units = []) := by
  intro history ledger
  obtain ⟨hexact, hcapacity⟩ := (exact_new capacity capacity_pos).run calls
  refine ⟨⟨hexact.depth, Nat.le_trans hexact.capacity (Nat.le_of_eq hcapacity)⟩, hexact.wellKeyed.nonempty, hexact.lanes,
    (List.nodup_append.mp hexact.once).2.1, fun _ _ => takeOutput_eq_none, ?_, rfl, rfl, rfl⟩
  intro timestamp nanos output next houtput
  obtain ⟨frame, hwaiting, hsame, hothers, hpending, -⟩ :=
    takeOutput_waiting hexact.wellKeyed houtput
  refine ⟨⟨frame, hwaiting, hsame⟩, hothers, hpending, ?_⟩
  rw [hsame]
  exact decodeDurationMicros_le _ _

/-- Two inputs with one timestamp wait in the codec. -/
def sameTimestamp : List LedgerCall :=
  [.enqueue ⟨7, 5, 0, [], true, false, true⟩, .enqueue ⟨8, 5, 0, [], false, false, false⟩,
    .queueNext 1000, .queueNext 2000]

theorem ledger_exact_sameTimestamp :
    let ledger := ((new 2 (by decide)).run sameTimestamp).ledger
    ∃ output next, ledger.takeOutput 5 61000 = some (output, next) ∧ output = ⟨0, 7, 60⟩ ∧
      next.waiting 5 = [⟨1, 8, 2000⟩] := by
  intro ledger
  obtain ⟨output, next, hsome⟩ : ∃ output next, ledger.takeOutput 5 61000 = some (output, next) :=
    ⟨_, _, rfl⟩
  obtain ⟨⟨frame, hwaiting, houtput⟩, -⟩ :=
    (ledger_exact 2 (by decide) sameTimestamp).2.2.2.2.2.1 5 61000 output next hsome
  have hlane : ledger.waiting 5 = [⟨0, 7, 1000⟩, ⟨1, 8, 2000⟩] := by decide
  obtain ⟨hframe, hrest⟩ := List.cons.inj (hlane.symm.trans hwaiting)
  refine ⟨output, next, hsome, ?_, hrest.symm⟩
  rw [houtput, ← hframe]
  decide

end LedgerHistory

end LadoFlow.Android
