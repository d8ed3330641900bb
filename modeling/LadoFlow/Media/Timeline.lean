import LadoFlow.Framework.FloorScale
import LadoFlow.Media.Metadata

/-!
# The timeline of a frame rate

Slot times are floors of rational multiples of the frame duration. Searching the timeline inverts
them exactly, for every rate.
-/

namespace LadoFlow.Media

open Framework LadoFlow.Core

namespace FrameRate

variable (rate : FrameRate)

theorem numerator_pos : 0 < rate.numerator.toNat := by
  have hne := rate.numerator_ne
  rw [Nat.pos_iff_ne_zero]
  intro hzero
  exact hne (UInt32.toNat_inj.mp hzero)

theorem denominator_pos : 0 < rate.denominator.toNat := by
  have hne := rate.denominator_ne
  rw [Nat.pos_iff_ne_zero]
  intro hzero
  exact hne (UInt32.toNat_inj.mp hzero)

/-- The time of a slot in nanoseconds, without a limit. -/
def slotNanos (index : Nat) : Nat :=
  floorScale (rate.denominator.toNat * 10 ^ 9) rate.numerator.toNat index

/-- A timestamp saturates only when the slot is later than the longest duration. -/
theorem timestamp_nanos (index : Nat) :
    (rate.timestamp index).nanos = Nat.min (rate.slotNanos index) Duration.maxNanos := by
  have hpos := rate.numerator_pos
  have hslot : index * rate.denominator.toNat / rate.numerator.toNat * 10 ^ 9 +
      index * rate.denominator.toNat % rate.numerator.toNat * 10 ^ 9 / rate.numerator.toNat =
        rate.slotNanos index := by
    rw [floorScale_split hpos, slotNanos, floorScale, floorScale, Nat.mul_assoc]
  rw [timestamp]
  simp only [hslot]
  split
  · rename_i hwhole
    have hlong : Duration.maxNanos ≤ rate.slotNanos index := by
      refine Nat.le_trans ?_ (hslot ▸ Nat.le_add_right _ _)
      rw [Duration.maxNanos]
      rw [u64Max] at hwhole
      omega
    exact (Nat.min_eq_right hlong).symm
  · rfl

theorem timestamp_mono {i j : Nat} (h : i ≤ j) :
    (rate.timestamp i).nanos ≤ (rate.timestamp j).nanos := by
  rw [timestamp_nanos, timestamp_nanos]
  exact min_le_min_right _ (floorScale_mono h)

/-- Below the longest duration, the slots up to the one found are those that have begun. -/
theorem timestamp_le_iff {elapsed : Duration} (helapsed : elapsed.nanos < Duration.maxNanos)
    {index : Nat} (hindex : index ≤ u64Max) :
    (rate.timestamp index).nanos ≤ elapsed.nanos ↔ index ≤ rate.frameAtOrBefore elapsed := by
  have hunit : 0 < rate.denominator.toNat * 10 ^ 9 :=
    Nat.mul_pos rate.denominator_pos (by decide)
  have hslot : rate.slotNanos index ≤ elapsed.nanos ↔
      index ≤ lastAtOrBelow (rate.denominator.toNat * 10 ^ 9) rate.numerator.toNat elapsed.nanos :=
    floorScale_le_iff hunit rate.numerator_pos
  have hfound : rate.frameAtOrBefore elapsed =
      Nat.min (lastAtOrBelow (rate.denominator.toNat * 10 ^ 9) rate.numerator.toNat
        elapsed.nanos) u64Max := rfl
  rw [timestamp_nanos, hfound]
  constructor
  · intro h
    rcases min_le_iff.mp h with h | h
    · exact Nat.le_min.mpr ⟨hslot.mp h, hindex⟩
    · omega
  · intro h
    exact Nat.le_trans (Nat.min_le_left _ _) (hslot.mpr (Nat.le_min.mp h).1)

end FrameRate

end LadoFlow.Media
