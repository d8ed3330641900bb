import LadoFlow.Media.Scheduler
import LadoFlow.Media.Timeline

/-!
# The pacer selects the newest due slot

Over any sequence of polls no slot is used twice and every slot is used or counted as skipped. A due
slot is the greatest one whose deadline has passed.
-/

namespace LadoFlow.Media

open Framework LadoFlow.Core

def PaceDecision.tick : PaceDecision → Option PacingTick
  | .due tick => some tick
  | _ => none

namespace FramePacer

/-- Poll at each of the times in turn. -/
def polls (pacer : FramePacer) : List Duration → List PaceDecision × FramePacer
  | [] => ([], pacer)
  | now :: times =>
    let (decision, pacer) := pacer.poll now
    let (decisions, pacer) := pacer.polls times
    (decision :: decisions, pacer)

def dueTicks (decisions : List PaceDecision) : List PacingTick := decisions.filterMap (·.tick)

variable {pacer : FramePacer} {now : Duration} {tick : PacingTick}

/-- Polling moves the next tick only. -/
theorem poll_timeline :
    (pacer.poll now).2.frameRate = pacer.frameRate ∧ (pacer.poll now).2.origin = pacer.origin := by
  rw [poll]
  split
  · exact ⟨rfl, rfl⟩
  · rename_i next hnext
    by_cases hnow : now.nanos < (pacer.deadline next).nanos
    · simp only [if_pos hnow, and_self]
    · simp only [if_neg hnow, and_self]

theorem poll_deadline (index : Nat) : (pacer.poll now).2.deadline index = pacer.deadline index := by
  rw [deadline, deadline, poll_timeline.1, poll_timeline.2]

/-- What is known when a slot is due: the next tick was reached, and the pacer moves past the slot
that the search finds, or past the next tick where that is later. -/
theorem poll_due (h : (pacer.poll now).1 = .due tick) :
    ∃ next, pacer.nextTick = some next ∧ (pacer.deadline next).nanos ≤ now.nanos ∧
      tick.index =
        Nat.max (pacer.frameRate.frameAtOrBefore (now.saturatingSub pacer.origin)) next ∧
      tick.skipped = tick.index - next ∧
      (pacer.poll now).2.nextTick = following tick.index := by
  rw [poll] at h ⊢
  split at h
  · cases h
  · rename_i next hnext
    by_cases hnow : now.nanos < (pacer.deadline next).nanos
    · simp only [if_pos hnow] at h
      cases h
    · simp only [if_neg hnow] at h ⊢
      cases h
      exact ⟨next, hnext, Nat.le_of_not_lt hnow, rfl, rfl, rfl⟩

theorem origin_le_deadline (index : Nat) : pacer.origin.nanos ≤ (pacer.deadline index).nanos := by
  have hmax := pacer.origin.le_max
  exact Nat.le_min.mpr ⟨Nat.le_add_right _ _, hmax⟩

/-- The slots whose deadlines have passed are those up to the one found. -/
theorem deadline_le_iff (hnow : now.nanos < Duration.maxNanos)
    (horigin : pacer.origin.nanos ≤ now.nanos) {index : Nat} (hindex : index ≤ u64Max) :
    (pacer.deadline index).nanos ≤ now.nanos ↔
      index ≤ pacer.frameRate.frameAtOrBefore (now.saturatingSub pacer.origin) := by
  have helapsed : (now.saturatingSub pacer.origin).nanos = now.nanos - pacer.origin.nanos := rfl
  have hshort : (now.saturatingSub pacer.origin).nanos < Duration.maxNanos := by omega
  have hdeadline : (pacer.deadline index).nanos =
      Nat.min (pacer.origin.nanos + (pacer.frameRate.timestamp index).nanos)
        Duration.maxNanos := rfl
  rw [← pacer.frameRate.timestamp_le_iff hshort hindex, helapsed, hdeadline]
  constructor
  · intro h
    rcases min_le_iff.mp h with h | h
    · omega
    · omega
  · intro h
    exact Nat.le_trans (Nat.min_le_left _ _) (by omega)

theorem due_isGreatest (hnow : now.nanos < Duration.maxNanos)
    (h : (pacer.poll now).1 = .due tick) :
    IsGreatest {index | index ≤ u64Max ∧ (pacer.deadline index).nanos ≤ now.nanos} tick.index := by
  obtain ⟨next, hnext, hreached, hfound, -, -⟩ := poll_due h
  have horigin := Nat.le_trans (origin_le_deadline next) hreached
  have hle := pacer.nextTick_le next hnext
  have hbefore := (deadline_le_iff hnow horigin hle).mp hreached
  have hindex : tick.index =
      pacer.frameRate.frameAtOrBefore (now.saturatingSub pacer.origin) := by
    rw [hfound]
    exact Nat.max_eq_left hbefore
  have hframe := pacer.frameRate.frameAtOrBefore_le (now.saturatingSub pacer.origin)
  rw [hindex]
  constructor
  · exact ⟨hframe, (deadline_le_iff hnow horigin hframe).mpr (Nat.le_refl _)⟩
  · intro index hpassed
    exact (deadline_le_iff hnow horigin hpassed.1).mp hpassed.2

/-- After a due slot, the same time gives no other slot. -/
theorem poll_again (hnow : now.nanos < Duration.maxNanos) (h : (pacer.poll now).1 = .due tick) :
    tick.index = u64Max ∧ ((pacer.poll now).2.poll now).1 = .exhausted ∨
      ∃ later, ((pacer.poll now).2.poll now).1 = .waitUntil later ∧ now.nanos < later.nanos := by
  have hgreatest := due_isGreatest hnow h
  obtain ⟨next, hnext, hreached, -, -, hafter⟩ := poll_due h
  by_cases hlast : tick.index < u64Max
  · right
    rw [following, if_pos hlast] at hafter
    have hlater : now.nanos < ((pacer.poll now).2.deadline (tick.index + 1)).nanos := by
      rw [poll_deadline]
      apply Nat.lt_of_not_le
      intro hpassed
      have habove := hgreatest.2 ⟨hlast, hpassed⟩
      omega
    refine ⟨_, ?_, hlater⟩
    generalize (pacer.poll now).2 = moved at hafter hlater
    rw [poll]
    simp only [hafter, if_pos hlater]
  · left
    have hmember := hgreatest.1.1
    rw [following, if_neg hlast] at hafter
    refine ⟨by omega, ?_⟩
    generalize (pacer.poll now).2 = moved at hafter
    rw [poll]
    simp only [hafter]

/-- Over any polls the slots increase from the next tick on, and the used and skipped ones together are
those that were consumed. -/
theorem polls_consume (pacer : FramePacer) (times : List Duration) :
    (dueTicks (pacer.polls times).1).Pairwise (·.index < ·.index) ∧
      (∀ tick ∈ dueTicks (pacer.polls times).1, pacer.consumed ≤ tick.index) ∧
      pacer.consumed + ((dueTicks (pacer.polls times).1).map (1 + ·.skipped)).sum =
        (pacer.polls times).2.consumed := by
  induction times generalizing pacer with
  | nil => exact ⟨.nil, List.forall_mem_nil _, rfl⟩
  | cons now times ih =>
    obtain ⟨hincreasing, habove, hsum⟩ := ih (pacer.poll now).2
    simp only [polls, dueTicks]
    rcases @poll_cases pacer now with
      ⟨tick, hdue, hconsumed, hindex⟩ | ⟨hother, hsame⟩
    · have hcons : (PaceDecision.due tick :: ((pacer.poll now).2.polls times).1).filterMap (·.tick) =
          tick :: dueTicks ((pacer.poll now).2.polls times).1 := rfl
      rw [hdue, hcons]
      refine ⟨List.pairwise_cons.mpr ⟨?_, hincreasing⟩, ?_, ?_⟩
      · intro later hlater
        have := habove later hlater
        omega
      · intro other hother
        rcases List.mem_cons.mp hother with rfl | hother
        · omega
        · have := habove other hother
          omega
      · rw [List.map_cons, List.sum_cons, ← hsum]
        omega
    · have hcons : ((pacer.poll now).1 :: ((pacer.poll now).2.polls times).1).filterMap (·.tick) =
          dueTicks ((pacer.poll now).2.polls times).1 := by
        rcases hother with ⟨deadline, hwait⟩ | hexhausted
        · rw [hwait]
          rfl
        · rw [hexhausted]
          rfl
      rw [hcons]
      rw [hsame] at hincreasing habove hsum ⊢
      exact ⟨hincreasing, habove, hsum⟩

end FramePacer

end LadoFlow.Media
