import Mathlib.Algebra.Group.Nat.Defs
import Mathlib.Tactic.Common

/-!
# Checked machine arithmetic

Operations on unsigned values of a given width that stop the program where the result does not fit. A
product fits when the widths of its factors do.
-/

namespace Framework

/-- The value, when it fits. -/
def fitted (width value : Nat) : Option Nat := if value < 2 ^ width then some value else none

def checkedAdd (width a b : Nat) : Option Nat := fitted width (a + b)
def checkedMul (width a b : Nat) : Option Nat := fitted width (a * b)
def checkedSub (a b : Nat) : Option Nat := if b ≤ a then some (a - b) else none
def checkedDiv (a b : Nat) : Option Nat := if b = 0 then none else some (a / b)
def checkedMod (a b : Nat) : Option Nat := if b = 0 then none else some (a % b)

variable {width a b : Nat}

/-- A step that does not stop hands its value on. -/
theorem bind_of_eq_some {α β : Type} {x : Option α} {a : α} (h : x = some a) (f : α → Option β) :
    (x >>= f) = f a := by
  rw [h]
  rfl

theorem checkedAdd_eq (h : a + b < 2 ^ width) : checkedAdd width a b = some (a + b) := if_pos h

theorem mul_fits {m n : Nat} (ha : a < 2 ^ m) (hb : b < 2 ^ n) (hwidth : m + n ≤ width) :
    a * b < 2 ^ width := by
  calc a * b < 2 ^ m * 2 ^ n := Nat.mul_lt_mul'' ha hb
    _ = 2 ^ (m + n) := (Nat.pow_add 2 m n).symm
    _ ≤ 2 ^ width := Nat.pow_le_pow_right (by decide) hwidth

theorem checkedMul_eq {m n : Nat} (ha : a < 2 ^ m) (hb : b < 2 ^ n) (hwidth : m + n ≤ width) :
    checkedMul width a b = some (a * b) := if_pos (mul_fits ha hb hwidth)

theorem checkedSub_eq (h : b ≤ a) : checkedSub a b = some (a - b) := if_pos h

theorem checkedDiv_eq (h : 0 < b) : checkedDiv a b = some (a / b) := if_neg (Nat.ne_of_gt h)

theorem checkedMod_eq (h : 0 < b) : checkedMod a b = some (a % b) := if_neg (Nat.ne_of_gt h)

end Framework
