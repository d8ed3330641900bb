import Mathlib.Algebra.BigOperators.Intervals
import Mathlib.Algebra.Order.BigOperators.Group.Finset
import LadoFlow.Framework.Checked
import LadoFlow.Media.Timeline

/-!
# The law of the timeline

Timestamps and the search that inverts them match at every nanosecond, the frame durations add up, and
none of the `u128` operations behind them leaves its range.
-/

namespace LadoFlow.Core.Duration

def asSecs (duration : Duration) : Nat := duration.nanos / 10 ^ 9

def subsecNanos (duration : Duration) : Nat := duration.nanos % 10 ^ 9

/-- `Duration::new`, which stops where the seconds overflow. -/
def new (secs nanos : Nat) : Option Duration :=
  if h : secs * 10 ^ 9 + nanos ≤ maxNanos then some ⟨secs * 10 ^ 9 + nanos, h⟩ else none

theorem new_eq_some {secs nanos : Nat} (h : secs * 10 ^ 9 + nanos ≤ maxNanos) :
    new secs nanos = some (.ofNanos (secs * 10 ^ 9 + nanos)) := by
  have hkept : (ofNanos (secs * 10 ^ 9 + nanos)).nanos = secs * 10 ^ 9 + nanos := Nat.min_eq_left h
  rw [new, dif_pos h]
  generalize secs * 10 ^ 9 + nanos = total at h hkept
  cases hduration : ofNanos total with
  | mk shown le =>
    rw [hduration] at hkept
    cases hkept
    rfl

end LadoFlow.Core.Duration

namespace LadoFlow.Media

open Framework LadoFlow.Core

namespace FrameRate

/-- `timestamp` with the checks of its arithmetic. -/
def timestampChecked (rate : FrameRate) (frameIndex : UInt64) : Option Duration := do
  let scaledSeconds ← checkedMul 128 frameIndex.toNat rate.denominator.toNat
  let wholeSeconds ← checkedDiv scaledSeconds rate.numerator.toNat
  let fractionalUnits ← checkedMod scaledSeconds rate.numerator.toNat
  if wholeSeconds > u64Max then some .max
  else do
    let scaledNanos ← checkedMul 128 fractionalUnits (10 ^ 9)
    let nanos ← checkedDiv scaledNanos rate.numerator.toNat
    if nanos ≥ 2 ^ 32 then some .max else Duration.new wholeSeconds nanos

/-- `frame_at_or_before` with the checks of its arithmetic. -/
def frameAtOrBeforeChecked (rate : FrameRate) (elapsed : Duration) : Option Nat := do
  let secsNanos ← checkedMul 128 elapsed.asSecs (10 ^ 9)
  let asNanos ← checkedAdd 128 secsNanos elapsed.subsecNanos
  let exclusiveNanos ← checkedAdd 128 asNanos 1
  let product ← checkedMul 128 exclusiveNanos rate.numerator.toNat
  let scaled ← checkedSub product 1
  let divisor ← checkedMul 128 rate.denominator.toNat (10 ^ 9)
  let quotient ← checkedDiv scaled divisor
  some (if quotient ≤ u64Max then quotient else u64Max)

variable (rate : FrameRate)

theorem timestampChecked_eq (frameIndex : UInt64) :
    rate.timestampChecked frameIndex = some (rate.timestamp frameIndex.toNat) := by
  have hnum := rate.numerator_pos
  have hscaled : checkedMul 128 frameIndex.toNat rate.denominator.toNat =
      some (frameIndex.toNat * rate.denominator.toNat) :=
    checkedMul_eq frameIndex.toNat_lt rate.denominator.toNat_lt (by decide)
  rw [timestampChecked, timestamp, bind_of_eq_some hscaled,
    bind_of_eq_some (checkedDiv_eq hnum), bind_of_eq_some (checkedMod_eq hnum)]
  have hbelow := Nat.mod_lt (frameIndex.toNat * rate.denominator.toNat) hnum
  generalize frameIndex.toNat * rate.denominator.toNat % rate.numerator.toNat = units at hbelow ⊢
  generalize frameIndex.toNat * rate.denominator.toNat / rate.numerator.toNat = whole
  by_cases hlong : whole > u64Max
  · rw [if_pos hlong]
    simp only [hlong, if_true]
  · have hproduct : checkedMul 128 units (10 ^ 9) = some (units * 10 ^ 9) :=
      checkedMul_eq (Nat.lt_trans hbelow rate.numerator.toNat_lt) (by decide : 10 ^ 9 < 2 ^ 30)
        (by decide)
    have hnanos : units * 10 ^ 9 / rate.numerator.toNat < 10 ^ 9 := by
      rw [Nat.div_lt_iff_lt_mul hnum, Nat.mul_comm]
      exact Nat.mul_lt_mul_of_pos_left hbelow (by decide)
    rw [if_neg hlong, bind_of_eq_some hproduct, bind_of_eq_some (checkedDiv_eq hnum)]
    simp only [hlong, if_false]
    generalize units * 10 ^ 9 / rate.numerator.toNat = nanos at hnanos
    have hfits : whole * 10 ^ 9 + nanos ≤ Duration.maxNanos := by
      rw [u64Max] at hlong
      rw [Duration.maxNanos]
      omega
    rw [if_neg (by omega), Duration.new_eq_some hfits]

theorem frameAtOrBeforeChecked_eq (elapsed : Duration) :
    rate.frameAtOrBeforeChecked elapsed = some (rate.frameAtOrBefore elapsed) := by
  have hnum := rate.numerator_pos
  have hdivisor : 0 < rate.denominator.toNat * 10 ^ 9 :=
    Nat.mul_pos rate.denominator_pos (by decide)
  have hmax := elapsed.le_max
  rw [Duration.maxNanos] at hmax
  have hsecs : checkedMul 128 elapsed.asSecs (10 ^ 9) = some (elapsed.asSecs * 10 ^ 9) := by
    refine checkedMul_eq (m := 64) ?_ (by decide : 10 ^ 9 < 2 ^ 30) (by decide)
    rw [Duration.asSecs]
    omega
  have hsplit : elapsed.asSecs * 10 ^ 9 + elapsed.subsecNanos = elapsed.nanos := by
    rw [Duration.asSecs, Duration.subsecNanos]
    omega
  have hnanos : checkedAdd 128 (elapsed.asSecs * 10 ^ 9) elapsed.subsecNanos =
      some elapsed.nanos := by
    rw [checkedAdd_eq (by rw [hsplit]; omega), hsplit]
  have hexclusive : checkedAdd 128 elapsed.nanos 1 = some (elapsed.nanos + 1) :=
    checkedAdd_eq (by omega)
  have hproduct : checkedMul 128 (elapsed.nanos + 1) rate.numerator.toNat =
      some ((elapsed.nanos + 1) * rate.numerator.toNat) :=
    checkedMul_eq (m := 94) (by omega) rate.numerator.toNat_lt (by decide)
  have hscaled : checkedSub ((elapsed.nanos + 1) * rate.numerator.toNat) 1 =
      some ((elapsed.nanos + 1) * rate.numerator.toNat - 1) :=
    checkedSub_eq (Nat.mul_pos (Nat.succ_pos _) hnum)
  have hunit : checkedMul 128 rate.denominator.toNat (10 ^ 9) =
      some (rate.denominator.toNat * 10 ^ 9) :=
    checkedMul_eq rate.denominator.toNat_lt (by decide : 10 ^ 9 < 2 ^ 30) (by decide)
  rw [frameAtOrBeforeChecked, frameAtOrBefore, bind_of_eq_some hsecs, bind_of_eq_some hnanos,
    bind_of_eq_some hexclusive, bind_of_eq_some hproduct, bind_of_eq_some hscaled,
    bind_of_eq_some hunit, bind_of_eq_some (checkedDiv_eq hdivisor)]
  generalize ((elapsed.nanos + 1) * rate.numerator.toNat - 1) / (rate.denominator.toNat * 10 ^ 9) =
    quotient
  rw [← Nat.min_def]

theorem frameDuration_nanos {index : Nat} (h : index < u64Max) :
    (rate.frameDuration index).nanos =
      (rate.timestamp (index + 1)).nanos - (rate.timestamp index).nanos := by
  rw [frameDuration, saturatingSum_eq h]
  rfl

/-- The durations of consecutive frames add up to the time between their ends. -/
theorem sum_frameDuration {first last : Nat} (hle : first ≤ last) (hlast : last ≤ u64Max) :
    ∑ index ∈ Finset.Ico first last, (rate.frameDuration index).nanos =
      (rate.timestamp last).nanos - (rate.timestamp first).nanos := by
  have hmono : Monotone fun k => (rate.timestamp (first + k)).nanos := by
    intro i j hij
    exact rate.timestamp_mono (Nat.add_le_add_left hij first)
  calc ∑ index ∈ Finset.Ico first last, (rate.frameDuration index).nanos
      = ∑ k ∈ Finset.range (last - first), (rate.frameDuration (first + k)).nanos :=
        Finset.sum_Ico_eq_sum_range _ _ _
    _ = ∑ k ∈ Finset.range (last - first),
          ((rate.timestamp (first + (k + 1))).nanos - (rate.timestamp (first + k)).nanos) := by
        apply Finset.sum_congr rfl
        intro k hk
        rw [Finset.mem_range] at hk
        exact rate.frameDuration_nanos (by omega)
    _ = (rate.timestamp (first + (last - first))).nanos - (rate.timestamp (first + 0)).nanos :=
        Finset.sum_range_tsub hmono _
    _ = (rate.timestamp last).nanos - (rate.timestamp first).nanos := by
        rw [Nat.add_sub_cancel' hle, Nat.add_zero]

/-- Timestamps are floors of the exact times, cut at the longest duration, and the search for the frame
at a time inverts them below it. -/
theorem timeline_galois :
    (∀ index : UInt64, (rate.timestamp index.toNat).nanos =
      min (index.toNat * rate.denominator.toNat * 10 ^ 9 / rate.numerator.toNat)
        Duration.max.nanos) ∧
    (∀ i j : UInt64, i ≤ j → (rate.timestamp i.toNat).nanos ≤ (rate.timestamp j.toNat).nanos) ∧
    (∀ (elapsed : Duration) (index : UInt64), elapsed.nanos < Duration.max.nanos →
      ((rate.timestamp index.toNat).nanos ≤ elapsed.nanos ↔
        index.toNat ≤ rate.frameAtOrBefore elapsed)) ∧
    (∀ first last : UInt64, first ≤ last →
      ∑ index ∈ Finset.Ico first.toNat last.toNat, (rate.frameDuration index).nanos =
        (rate.timestamp last.toNat).nanos - (rate.timestamp first.toNat).nanos) ∧
    (∀ index, rate.timestampChecked index = some (rate.timestamp index.toNat)) ∧
    ∀ elapsed, rate.frameAtOrBeforeChecked elapsed = some (rate.frameAtOrBefore elapsed) := by
  have hle : ∀ index : UInt64, index.toNat ≤ u64Max := fun index => Nat.le_sub_one_of_lt index.toNat_lt
  refine ⟨?_, ?_, ?_, ?_, rate.timestampChecked_eq, rate.frameAtOrBeforeChecked_eq⟩
  · intro index
    rw [timestamp_nanos, slotNanos, floorScale, Nat.mul_assoc]
    rfl
  · intro i j hij
    exact rate.timestamp_mono (UInt64.le_iff_toNat_le.mp hij)
  · intro elapsed index helapsed
    exact rate.timestamp_le_iff helapsed (hle index)
  · intro first last horder
    exact rate.sum_frameDuration (UInt64.le_iff_toNat_le.mp horder) (hle last)

def filmRate : FrameRate := ⟨30000, 1001, by decide, by decide⟩

/-- One nanosecond before the second frame of a film at 30000/1001 Hz, and at it. -/
theorem timeline_galois_film :
    ¬1 ≤ filmRate.frameAtOrBefore (.ofNanos 33366665) ∧
      1 ≤ filmRate.frameAtOrBefore (.ofNanos 33366666) := by
  have hlaw := filmRate.timeline_galois.2.2.1
  have hbefore := hlaw (.ofNanos 33366665) 1 (by decide)
  have hat := hlaw (.ofNanos 33366666) 1 (by decide)
  exact ⟨fun h => absurd (hbefore.mpr h) (by decide), hat.mp (by decide)⟩

end FrameRate

end LadoFlow.Media
