import LadoFlow.Host.LoopbackLedger
import LadoFlow.Media.PacerLaw

/-!
# The synthetic producer follows the pacer

The pacer and the producer count the slots of one timeline on their own. Both counters show the same
next slot before every iteration, up to the last one, after which both are used up.
-/

namespace LadoFlow.Media

open LadoFlow.Core

theorem checkedSucc64_toNat (sequence : UInt64) :
    (Session.checkedSucc64 sequence).map UInt64.toNat = FramePacer.following sequence.toNat := by
  have hmax : (0xFFFFFFFFFFFFFFFF : UInt64).toNat = u64Max := by decide
  have hlt := sequence.toNat_lt
  rw [Session.checkedSucc64, FramePacer.following]
  by_cases hlast : sequence = 0xFFFFFFFFFFFFFFFF
  · have hat : ¬sequence.toNat < u64Max := by
      rw [hlast, hmax]
      exact Nat.lt_irrefl _
    rw [if_pos hlast, if_neg hat, Option.map_none]
  · have hne : sequence.toNat ≠ u64Max := by
      intro heq
      exact hlast (UInt64.toNat_inj.mp (heq.trans hmax.symm))
    have hbelow : sequence.toNat < u64Max := by
      rw [u64Max] at hne ⊢
      omega
    have hone : (1 : UInt64).toNat = 1 := rfl
    rw [if_neg hlast, if_pos hbelow, Option.map_some, UInt64.toNat_add, hone]
    rw [u64Max] at hbelow
    congr 1
    omega

/-- The producer and the pacer have the same next slot. -/
def Lockstep (pacer : FramePacer) (producer : SyntheticFrameProducer) : Prop :=
  pacer.nextTick = producer.nextSequence.map UInt64.toNat

section Lockstep

variable {pacer : FramePacer} {producer : SyntheticFrameProducer} {now : Duration}
  {tick : PacingTick}

theorem toNat_ofNat_index {index : Nat} (h : index ≤ u64Max) : (UInt64.ofNat index).toNat = index := by
  apply UInt64.toNat_ofNat_of_lt'
  rw [u64Max] at h
  exact Nat.lt_of_le_of_lt h (by decide)

/-- Both are used up together. -/
theorem Lockstep.exhausted (h : Lockstep pacer producer) :
    pacer.nextTick = none ↔ producer.nextSequence = none := by
  rw [h, Option.map_eq_none_iff]

theorem Lockstep.next (h : Lockstep pacer producer) {next : Nat} (hnext : pacer.nextTick = some next) :
    ∃ current, producer.nextSequence = some current ∧ current.toNat = next := by
  rw [h] at hnext
  exact Option.map_eq_some_iff.mp hnext

/-- Advancing to a due slot skips what the pacer skipped, and the slot is the next one. -/
theorem Lockstep.advance (h : Lockstep pacer producer) (hdue : (pacer.poll now).1 = .due tick) :
    tick.index ≤ u64Max ∧ tick.skipped ≤ tick.index ∧
      (producer.advanceToSequence (UInt64.ofNat tick.index)).1.toNat = tick.skipped ∧
      (producer.advanceToSequence (UInt64.ofNat tick.index)).2 =
        { producer with nextSequence := some (UInt64.ofNat tick.index) } ∧
      (tick.skipped = 0 → producer.nextSequence = some (UInt64.ofNat tick.index)) := by
  obtain ⟨next, hnext, -, hindex, hskipped, -⟩ := FramePacer.poll_due hdue
  obtain ⟨current, hcurrent, hvalue⟩ := h.next hnext
  have hfound := pacer.frameRate.frameAtOrBefore_le (now.saturatingSub pacer.origin)
  have hle := pacer.nextTick_le next hnext
  have hbound : tick.index ≤ u64Max := by
    rw [hindex]
    exact Nat.max_le.mpr ⟨hfound, hle⟩
  have hge : next ≤ tick.index := by
    rw [hindex]
    exact Nat.le_max_right _ _
  have hnat := toNat_ofNat_index hbound
  have hsame : tick.skipped = 0 → producer.nextSequence = some (UInt64.ofNat tick.index) := by
    intro hzero
    have hequal : current = UInt64.ofNat tick.index := by
      apply UInt64.toNat_inj.mp
      omega
    rw [hcurrent, hequal]
  refine ⟨hbound, by omega, ?_, ?_, hsame⟩
  · rw [SyntheticFrameProducer.advanceToSequence, hcurrent]
    simp only
    split
    · rename_i hreached
      have hback := UInt64.le_iff_toNat_le.mp hreached
      show 0 = tick.skipped
      omega
    · rename_i hahead
      have hlater := UInt64.le_iff_toNat_le.mp (UInt64.le_of_lt (UInt64.not_le.mp hahead))
      rw [UInt64.toNat_sub_of_le _ _ (UInt64.le_iff_toNat_le.mpr hlater)]
      omega
  · rw [SyntheticFrameProducer.advanceToSequence, hcurrent]
    simp only
    split
    · rename_i hreached
      have hback := UInt64.le_iff_toNat_le.mp hreached
      rw [← hsame (by omega)]
    · rfl

end Lockstep

end LadoFlow.Media

namespace LadoFlow.Host

open LadoFlow.Core LadoFlow.Media LadoFlow.Transport

namespace LoopbackWorker

section Iterations

variable {worker : LoopbackWorker} {clock : LoopbackClock} {tick : PacingTick}

/-- At a due slot the producer stands at that slot, whether or not slots were skipped. -/
theorem skipTo_producer {now : Duration} (h : Lockstep worker.pacer worker.producer)
    (hdue : (worker.pacer.poll now).1 = .due tick) (pacer : FramePacer) :
    (skipTo { worker with pacer } tick).producer =
        { worker.producer with nextSequence := some (UInt64.ofNat tick.index) } ∧
      (skipTo { worker with pacer } tick).pacer = pacer := by
  obtain ⟨-, -, -, hadvanced, hsame⟩ := h.advance hdue
  rw [skipTo]
  split
  · exact ⟨hadvanced, rfl⟩
  · rename_i hnone
    refine ⟨?_, rfl⟩
    rw [← hsame (by omega)]

/-- An iteration at a due slot sends the frame of that slot. -/
theorem iterate_due (h : Lockstep worker.pacer worker.producer)
    (hdue : (worker.pacer.poll clock.polled).1 = .due tick) :
    worker.iterate clock = some (deliver
      { skipTo { worker with pacer := (worker.pacer.poll clock.polled).2 } tick with
        producer :=
          { worker.producer with
            nextSequence := Session.checkedSucc64 (UInt64.ofNat tick.index) } }
      (worker.producer.frame (UInt64.ofNat tick.index)) clock) := by
  rw [iterate]
  generalize hpoll : worker.pacer.poll clock.polled = polled
  obtain ⟨decision, pacer⟩ := polled
  have hdecision : decision = .due tick := by
    rw [hpoll] at hdue
    exact hdue
  subst hdecision
  obtain ⟨hproducer, -⟩ := skipTo_producer h hdue pacer
  simp only [hproducer, SyntheticFrameProducer.nextFrame]
  rfl

theorem iterate_waitUntil {deadline : Duration}
    (hwait : (worker.pacer.poll clock.polled).1 = .waitUntil deadline) :
    worker.iterate clock = some worker := by
  rw [iterate]
  generalize worker.pacer.poll clock.polled = polled at hwait
  obtain ⟨decision, pacer⟩ := polled
  cases hwait
  rfl

theorem iterate_exhausted (hend : (worker.pacer.poll clock.polled).1 = .exhausted) :
    worker.iterate clock = none := by
  rw [iterate]
  generalize worker.pacer.poll clock.polled = polled at hend
  obtain ⟨decision, pacer⟩ := polled
  cases hend
  rfl

theorem poll_exhausted {pacer : FramePacer} {now : Duration} :
    (pacer.poll now).1 = .exhausted ↔ pacer.nextTick = none := by
  rw [FramePacer.poll]
  cases pacer.nextTick with
  | none => simp
  | some next =>
    by_cases hnow : now.nanos < (pacer.deadline next).nanos
    · simp [hnow]
    · simp [hnow]

theorem lockstep_iterate (h : Lockstep worker.pacer worker.producer) {after : LoopbackWorker}
    (hstep : worker.iterate clock = some after) : Lockstep after.pacer after.producer := by
  cases hdecision : (worker.pacer.poll clock.polled).1 with
  | due tick =>
    rw [iterate_due h hdecision] at hstep
    cases hstep
    obtain ⟨hbound, -⟩ := h.advance hdecision
    obtain ⟨next, -, -, -, -, hafter⟩ := FramePacer.poll_due hdecision
    obtain ⟨-, hpacer⟩ := skipTo_producer h hdecision (worker.pacer.poll clock.polled).2
    rw [(deliver_capture _ clock).1, (deliver_capture _ clock).2, Lockstep, hpacer, hafter,
      checkedSucc64_toNat, toNat_ofNat_index hbound]
  | waitUntil deadline =>
    rw [iterate_waitUntil hdecision] at hstep
    cases hstep
    exact h
  | exhausted =>
    rw [iterate_exhausted hdecision] at hstep
    cases hstep

/-- Only the end of the slots ends the loop. -/
theorem iterate_eq_none (h : Lockstep worker.pacer worker.producer) :
    worker.iterate clock = none ↔ worker.pacer.nextTick = none := by
  rw [← @poll_exhausted _ clock.polled]
  cases hdecision : (worker.pacer.poll clock.polled).1 with
  | due tick => simp [iterate_due h hdecision]
  | waitUntil deadline => simp [iterate_waitUntil hdecision]
  | exhausted => simp [iterate_exhausted hdecision]

end Iterations

section Runs

variable (synthetic : SyntheticConfig) (rate : FrameRate) (origin : Duration) (link : Link)
  (sentAt : UInt64 → Option Duration) (shared : SharedState)

/-- The worker before its first iteration. -/
def beforeFirst : LoopbackWorker where
  link
  producer := .new synthetic
  pacer := .new rate origin
  sentAt
  lastKeySequence := none
  shared

/-- In every run of the loop, at a due slot the producer skips as many frames as the pacer skipped slots
and produces the frame of that slot; the loop ends when both have used up their slots. -/
theorem loopback_lockstep {clocks : List LoopbackClock} {worker : LoopbackWorker}
    (hrun : machine.run (beforeFirst synthetic rate origin link sentAt shared) clocks = some worker) :
    (∀ now tick, (worker.pacer.poll now).1 = .due tick →
      tick.index ≤ u64Max ∧ tick.skipped ≤ tick.index ∧
        (worker.producer.advanceToSequence (UInt64.ofNat tick.index)).1 =
          UInt64.ofNat tick.skipped ∧
        ∃ frame, (skipTo { worker with pacer := (worker.pacer.poll now).2 } tick).producer.nextFrame.1 =
            some frame ∧ frame.metadata.sequence.toNat = tick.index) ∧
      (worker.pacer.nextTick = none ↔ worker.producer.nextSequence = none) ∧
      ∀ clock, worker.iterate clock = none ↔ worker.pacer.nextTick = none := by
  have hstart : Lockstep (FramePacer.new rate origin) (SyntheticFrameProducer.new synthetic) := rfl
  have hlockstep : Lockstep worker.pacer worker.producer :=
    machine.run_invariant (fun worker => Lockstep worker.pacer worker.producer)
      (fun _ _ _ h hstep => lockstep_iterate h hstep) hstart hrun
  refine ⟨?_, hlockstep.exhausted, fun clock => iterate_eq_none hlockstep⟩
  intro now tick hdue
  obtain ⟨hbound, hskipped, hcount, -, -⟩ := hlockstep.advance hdue
  refine ⟨hbound, hskipped, ?_, ?_⟩
  · apply UInt64.toNat_inj.mp
    rw [hcount, toNat_ofNat_index (hskipped.trans hbound)]
  · obtain ⟨hproducer, -⟩ := skipTo_producer hlockstep hdue (worker.pacer.poll now).2
    rw [hproducer]
    exact ⟨_, rfl, toNat_ofNat_index hbound⟩

def sixtyHertz : FrameRate := ⟨60000, 1000, by decide, by decide⟩

def shortFrames : SyntheticConfig where
  format := ⟨⟨640, 480, by decide, by decide⟩, sixtyHertz⟩
  payloadBytes := 48
  keyframeInterval := 120
  seed := 0
  payloadBytes_pos := by decide
  payloadBytes_le := by decide
  keyframeInterval_ne := by decide

/-- The first poll comes after a tenth of a second. -/
theorem loopback_lockstep_delayed :
    let worker := beforeFirst shortFrames sixtyHertz (.ofNanos 0) (.new .default) (fun _ => none) .new
    (worker.pacer.poll (.ofNanos 100000000)).1 = .due ⟨6, .ofNanos 100000000, 6⟩ ∧
      (worker.producer.advanceToSequence 6).1 = 6 := by
  intro worker
  have hdue : (worker.pacer.poll (.ofNanos 100000000)).1 = .due ⟨6, .ofNanos 100000000, 6⟩ := by
    decide
  have hrun : machine.run worker [] = some worker := rfl
  exact ⟨hdue, ((loopback_lockstep _ _ _ _ _ _ hrun).1 _ _ hdue).2.2.1⟩

end Runs

end LoopbackWorker

end LadoFlow.Host
