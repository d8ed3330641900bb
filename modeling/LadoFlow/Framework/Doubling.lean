import Mathlib.Order.MinMax
import Mathlib.Data.Nat.Find
import Mathlib.Algebra.Group.Nat.Defs
import Mathlib.Tactic.Common

/-!
# Doubling up to a limit

A value that doubles in every round until it reaches a limit, in closed form: its ends, its order, and
the first round that passes a power of two.
-/

namespace Framework

/-- The value after some rounds. -/
def doubledUpTo (limit start rounds : Nat) : Nat := min (start * 2 ^ rounds) limit

variable {limit start : Nat}

theorem doubledUpTo_zero (h : start ≤ limit) : doubledUpTo limit start 0 = start := by
  simp [doubledUpTo, h]

theorem doubledUpTo_succ (limit start rounds : Nat) :
    doubledUpTo limit start (rounds + 1) = min (doubledUpTo limit start rounds * 2) limit := by
  have hpow : start * 2 ^ (rounds + 1) = start * 2 ^ rounds * 2 := by
    rw [Nat.pow_succ, Nat.mul_assoc]
  simp only [doubledUpTo, hpow]
  omega

theorem doubledUpTo_le (limit start rounds : Nat) : doubledUpTo limit start rounds ≤ limit :=
  Nat.min_le_right _ _

theorem doubledUpTo_mono {i j : Nat} (h : i ≤ j) :
    doubledUpTo limit start i ≤ doubledUpTo limit start j :=
  min_le_min_right _ (Nat.mul_le_mul_left start (Nat.pow_le_pow_right (by decide) h))

theorem le_doubledUpTo (h : start ≤ limit) (rounds : Nat) : start ≤ doubledUpTo limit start rounds := by
  calc start = doubledUpTo limit start 0 := (doubledUpTo_zero h).symm
    _ ≤ doubledUpTo limit start rounds := doubledUpTo_mono (Nat.zero_le _)

/-- From one, the power of two is not passed before its own round. -/
theorem doubledUpTo_one_lt {width i : Nat} (h : i < width) : doubledUpTo limit 1 i < 2 ^ width := by
  calc doubledUpTo limit 1 i ≤ 1 * 2 ^ i := Nat.min_le_left _ _
    _ = 2 ^ i := Nat.one_mul _
    _ < 2 ^ width := Nat.pow_lt_pow_right (by decide) h

/-- From two on, a power of two below the limit is passed one round earlier, for a first time. -/
theorem exists_first_passing {width : Nat} (hstart : 2 ≤ start) (hlimit : 2 ^ width ≤ limit)
    (hwidth : 0 < width) :
    ∃ first < width, 2 ^ width ≤ doubledUpTo limit start first ∧
      ∀ i < first, doubledUpTo limit start i < 2 ^ width := by
  have hlast : 2 ^ width ≤ start * 2 ^ (width - 1) := by
    obtain ⟨before, rfl⟩ := Nat.exists_eq_add_of_lt hwidth
    rw [Nat.zero_add, Nat.add_sub_cancel, Nat.pow_succ, Nat.mul_comm]
    exact Nat.mul_le_mul_right _ hstart
  have hexists : ∃ i, 2 ^ width ≤ start * 2 ^ i := ⟨width - 1, hlast⟩
  refine ⟨Nat.find hexists, ?_, Nat.le_min.mpr ⟨Nat.find_spec hexists, hlimit⟩, ?_⟩
  · have hle := Nat.find_le hlast (h := hexists)
    omega
  · intro i hi
    have hnot := Nat.find_min hexists hi
    have hle : doubledUpTo limit start i ≤ start * 2 ^ i := Nat.min_le_left _ _
    omega

end Framework
