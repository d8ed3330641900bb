import Mathlib.Order.Bounds.Basic
import Mathlib.Tactic.Common

/-!
# Scaling by a fraction, rounded down

The floor of `x * num / den` as a function of `x`: its values at the ends of the range, its order,
the form that divides before it multiplies, and its inverse.
-/

namespace Framework

def floorScale (num den x : Nat) : Nat := x * num / den

variable {num den : Nat}

@[simp] theorem floorScale_zero : floorScale num den 0 = 0 := by simp [floorScale]

/-- The end of the source range is the end of the target range. -/
theorem floorScale_self (hden : 0 < den) : floorScale num den den = num :=
  Nat.mul_div_cancel_left num hden

theorem floorScale_mono {x y : Nat} (h : x ≤ y) : floorScale num den x ≤ floorScale num den y :=
  Nat.div_le_div_right (Nat.mul_le_mul_right num h)

theorem floorScale_le {x : Nat} (h : x ≤ den) : floorScale num den x ≤ num := by
  rcases Nat.eq_zero_or_pos den with rfl | hden
  · rw [floorScale, Nat.div_zero]
    exact Nat.zero_le _
  · calc floorScale num den x ≤ floorScale num den den := floorScale_mono h
      _ = num := floorScale_self hden

theorem floorScale_mono_num {num' x : Nat} (h : num ≤ num') :
    floorScale num den x ≤ floorScale num' den x :=
  Nat.div_le_div_right (Nat.mul_le_mul_left x h)

theorem scale_split (num den x : Nat) : x * num = den * (x / den * num) + x % den * num := by
  calc x * num = (den * (x / den) + x % den) * num := by rw [Nat.div_add_mod]
    _ = den * (x / den * num) + x % den * num := by rw [Nat.add_mul, Nat.mul_assoc]

/-- Dividing first keeps the products small and gives the same value. -/
theorem floorScale_split (hden : 0 < den) (x : Nat) :
    x / den * num + x % den * num / den = floorScale num den x := by
  rw [floorScale, scale_split num den x, Nat.mul_add_div hden]

/-- The last `x` whose scaled value is at most `y`. -/
def lastAtOrBelow (num den y : Nat) : Nat := ((y + 1) * den - 1) / num

/-- The two roundings match: a scaled value is at most `y` up to that last one. -/
theorem floorScale_le_iff (hnum : 0 < num) (hden : 0 < den) {x y : Nat} :
    floorScale num den x ≤ y ↔ x ≤ lastAtOrBelow num den y := by
  have hpos : 0 < (y + 1) * den := Nat.mul_pos (Nat.succ_pos y) hden
  rw [floorScale, lastAtOrBelow, Nat.le_div_iff_mul_le hnum, ← Nat.lt_add_one_iff,
    Nat.div_lt_iff_lt_mul hden]
  omega

end Framework
