import Mathlib.Algebra.Order.BigOperators.Group.List
import Mathlib.Algebra.Order.Floor.Div
import Mathlib.Data.Nat.Dist
import Mathlib.Order.Lattice
import LadoFlow.Framework.FloorScale

/-!
# Order statistics, means and ranks

The `k`-th smallest element of a list is defined by counting, so it does not depend on an order of
the list. The means of numbers in an interval stay in it. The rank of a percentile is a ceiling that
can be computed from quotients and remainders.
-/

namespace Framework

section Order

variable {α : Type} [LinearOrder α] {xs sorted : List α} {j k : Nat} {x y : α}

/-- Fewer than `k` elements are below `x`, and at least `k` are at most `x`. -/
structure IsKthSmallest (xs : List α) (k : Nat) (x : α) : Prop where
  mem : x ∈ xs
  below : xs.countP (· < x) < k
  upTo : k ≤ xs.countP (· ≤ x)

theorem isKthSmallest_split {front back : List α} (hperm : (front ++ x :: back).Perm xs)
    (hsorted : (front ++ x :: back).Pairwise (· ≤ ·)) : IsKthSmallest xs (front.length + 1) x := by
  obtain ⟨-, hrest, hacross⟩ := List.pairwise_append.mp hsorted
  refine ⟨hperm.subset (by simp), ?_, ?_⟩
  · have hback : (x :: back).countP (· < x) = 0 := by
      apply List.countP_eq_zero.mpr
      intro other hother
      cases List.mem_cons.mp hother with
      | inl heq => simp [heq]
      | inr hlater => simpa using (List.pairwise_cons.mp hrest).1 other hlater
    have hfront := @List.countP_le_length _ (· < x) front
    rw [← hperm.countP_eq, List.countP_append, hback]
    omega
  · have hfront : front.countP (· ≤ x) = front.length := by
      apply List.countP_eq_length.mpr
      intro other hother
      simpa using hacross other hother x List.mem_cons_self
    rw [← hperm.countP_eq, List.countP_append, hfront, List.countP_cons_of_pos (by simp)]
    omega

/-- The place of an element in the sorted list is its rank. -/
theorem isKthSmallest_sorted (hperm : sorted.Perm xs) (hsorted : sorted.Pairwise (· ≤ ·)) {i : Nat}
    (hi : i < sorted.length) : IsKthSmallest xs (i + 1) sorted[i] := by
  have hsplit : sorted.take i ++ sorted[i] :: sorted.drop (i + 1) = sorted := by
    rw [List.getElem_cons_drop, List.take_append_drop]
  have hkth := @isKthSmallest_split _ _ xs sorted[i] (sorted.take i) (sorted.drop (i + 1))
    (by rw [hsplit]; exact hperm) (by rw [hsplit]; exact hsorted)
  rw [List.length_take, Nat.min_eq_left hi.le] at hkth
  exact hkth

theorem IsKthSmallest.le (hx : IsKthSmallest xs j x) (hy : IsKthSmallest xs k y) (h : j ≤ k) :
    x ≤ y := by
  by_contra hlt
  have hbelow : xs.countP (· ≤ y) ≤ xs.countP (· < x) := by
    apply List.countP_mono_left
    intro other _ hother
    simp only [decide_eq_true_eq] at hother ⊢
    exact lt_of_le_of_lt hother (lt_of_not_ge hlt)
  have hfew := hx.below
  have hmany := hy.upTo
  omega

theorem IsKthSmallest.least (hx : IsKthSmallest xs 1 x) (hy : y ∈ xs) : x ≤ y := by
  have hnone : xs.countP (· < x) = 0 := by
    have hfew := hx.below
    omega
  have hfree := List.countP_eq_zero.mp hnone y hy
  simpa using hfree

theorem IsKthSmallest.greatest (hx : IsKthSmallest xs xs.length x) (hy : y ∈ xs) : y ≤ x := by
  have hall : xs.countP (· ≤ x) = xs.length :=
    Nat.le_antisymm List.countP_le_length hx.upTo
  simpa using List.countP_eq_length.mp hall y hy

theorem isLeast_head (hperm : sorted.Perm xs) (hsorted : sorted.Pairwise (· ≤ ·))
    (h : sorted.head? = some x) : IsLeast { y | y ∈ xs } x := by
  obtain ⟨tail, rfl⟩ := List.head?_eq_some_iff.mp h
  have hfirst := @isKthSmallest_split _ _ xs x [] tail hperm hsorted
  exact ⟨hfirst.mem, fun y hy => hfirst.least hy⟩

theorem isGreatest_getLast (hperm : sorted.Perm xs) (hsorted : sorted.Pairwise (· ≤ ·))
    (h : sorted.getLast? = some x) : IsGreatest { y | y ∈ xs } x := by
  obtain ⟨front, rfl⟩ := List.getLast?_eq_some_iff.mp h
  have hlast := @isKthSmallest_split _ _ xs x front [] hperm hsorted
  have hlength : front.length + 1 = xs.length := by
    rw [← hperm.length_eq, List.length_append, List.length_singleton]
  rw [hlength] at hlast
  exact ⟨hlast.mem, fun y hy => hlast.greatest hy⟩

end Order

section Means

variable {xs : List Nat} {low high : Nat}

theorem le_mean (hne : xs ≠ []) (h : ∀ x ∈ xs, low ≤ x) : low ≤ xs.sum / xs.length := by
  have hpos : 0 < xs.length := List.length_pos_iff.mpr hne
  have hsum := List.card_nsmul_le_sum xs low h
  rw [smul_eq_mul] at hsum
  rw [Nat.le_div_iff_mul_le hpos, Nat.mul_comm]
  exact hsum

theorem mean_le (h : ∀ x ∈ xs, x ≤ high) : xs.sum / xs.length ≤ high := by
  have hsum := List.sum_le_card_nsmul xs high h
  rw [smul_eq_mul] at hsum
  exact Nat.div_le_of_le_mul hsum

/-- The distances of neighbours, in order. -/
def adjacentDistances (xs : List Nat) : List Nat := List.zipWith Nat.dist xs.tail xs

@[simp] theorem adjacentDistances_length : (adjacentDistances xs).length = xs.length - 1 := by
  rw [adjacentDistances, List.length_zipWith, List.length_tail]
  omega

theorem adjacentDistances_cons_cons (x y : Nat) :
    adjacentDistances (x :: y :: xs) = Nat.dist y x :: adjacentDistances (y :: xs) := rfl

theorem adjacentDistances_le (hlow : ∀ x ∈ xs, low ≤ x) (hhigh : ∀ x ∈ xs, x ≤ high) :
    ∀ distance ∈ adjacentDistances xs, distance ≤ high - low := by
  induction xs with
  | nil => simp [adjacentDistances]
  | cons x xs ih =>
    cases xs with
    | nil => simp [adjacentDistances]
    | cons y xs =>
      intro distance hdistance
      rw [adjacentDistances_cons_cons] at hdistance
      cases List.mem_cons.mp hdistance with
      | inl hfirst =>
        have hxlow := hlow x (by simp)
        have hxhigh := hhigh x (by simp)
        have hylow := hlow y (by simp)
        have hyhigh := hhigh y (by simp)
        rw [hfirst, Nat.dist]
        omega
      | inr hrest =>
        exact ih (fun z hz => hlow z (List.mem_cons_of_mem x hz))
          (fun z hz => hhigh z (List.mem_cons_of_mem x hz)) distance hrest

end Means

section Ranks

variable {num den : Nat}

/-- The ceiling of a fraction of `x`, dividing before multiplying. -/
theorem ceilScale_split (hden : 0 < den) (x : Nat) :
    x / den * num + (x % den * num) ⌈/⌉ den = (x * num) ⌈/⌉ den := by
  have hx : x * num + den - 1 = den * (x / den * num) + (x % den * num + den - 1) := by
    have hsplit := scale_split num den x
    omega
  rw [Nat.ceilDiv_eq_add_pred_div, Nat.ceilDiv_eq_add_pred_div, hx, Nat.mul_add_div hden]

theorem ceilScale_pos (hnum : 0 < num) (hden : 0 < den) {x : Nat} (hx : 0 < x) :
    0 < (x * num) ⌈/⌉ den := by
  rw [Nat.ceilDiv_eq_add_pred_div]
  apply Nat.div_pos _ hden
  have hpos := Nat.mul_pos hx hnum
  omega

theorem ceilScale_le (hnum : num ≤ den) (hden : 0 < den) (x : Nat) : (x * num) ⌈/⌉ den ≤ x := by
  rw [ceilDiv_le_iff_le_smul hden, smul_eq_mul, Nat.mul_comm den]
  exact Nat.mul_le_mul_left x hnum

theorem ceilScale_mono {num' x : Nat} (hnum : num ≤ num') :
    (x * num) ⌈/⌉ den ≤ (x * num') ⌈/⌉ den := by
  rw [Nat.ceilDiv_eq_add_pred_div, Nat.ceilDiv_eq_add_pred_div]
  apply Nat.div_le_div_right
  have hmul := Nat.mul_le_mul_left x hnum
  omega

end Ranks

end Framework
