import Mathlib.Tactic.Common

/-!
# Saturating counters

A counter in a natural number that stops at a limit. Below the limit an increment is exact.
-/

namespace Framework

def saturatingSum (limit a b : Nat) : Nat := min (a + b) limit

variable {limit a b : Nat}

theorem saturatingSum_eq (h : a + b ≤ limit) : saturatingSum limit a b = a + b :=
  Nat.min_eq_left h

theorem saturatingSum_le : saturatingSum limit a b ≤ limit := Nat.min_le_right _ _

end Framework
