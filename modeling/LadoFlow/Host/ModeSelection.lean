import LadoFlow.Host.HostProtocol
import Mathlib.Algebra.Order.Field.Rat
import Mathlib.Algebra.Order.Ring.Abs
import Mathlib.Data.Prod.Lex
import Mathlib.Tactic.FieldSimp
import Mathlib.Tactic.Linarith
import Mathlib.Tactic.Ring

/-!
# The choice of a display mode

The comparator of the modes multiplies across instead of dividing. It is the order of the aspect error,
with the larger area first among equals, so the chosen mode is the best one that fits.
-/

namespace LadoFlow.Host

section Compare

variable {α β : Type} [LinearOrder α] [LinearOrder β]

/-- Comparing reads no more than the strict order. -/
theorem compare_congr {a b : α} {c d : β} (hlt : a < b ↔ c < d) (hgt : b < a ↔ d < c) :
    compare a b = compare c d := by
  rcases lt_trichotomy a b with h | h | h
  · rw [compare_lt_iff_lt.mpr h, compare_lt_iff_lt.mpr (hlt.mp h)]
  · have hnot : ¬a < b := h.not_lt
    have hnot' : ¬b < a := h.not_gt
    have heq : c = d := le_antisymm (not_lt.mp (hgt.not.mp hnot')) (not_lt.mp (hlt.not.mp hnot))
    rw [compare_eq_iff_eq.mpr h, compare_eq_iff_eq.mpr heq]
  · rw [compare_gt_iff_gt.mpr h, compare_gt_iff_gt.mpr (hgt.mp h)]

/-- Cross multiplication compares the quotients. -/
theorem compare_cross {a b c d : Nat} (hb : 0 < b) (hd : 0 < d) :
    compare (a * d) (c * b) = compare ((a : ℚ) / b) ((c : ℚ) / d) := by
  have hb' : (0 : ℚ) < b := Nat.cast_pos.mpr hb
  have hd' : (0 : ℚ) < d := Nat.cast_pos.mpr hd
  apply compare_congr
  · rw [div_lt_div_iff₀ hb' hd']
    exact_mod_cast Iff.rfl
  · rw [div_lt_div_iff₀ hd' hb']
    exact_mod_cast Iff.rfl

/-- Where the comparator is the order of a key, the chosen element has the least key. -/
theorem minBy_le {γ : Type} {cmp : γ → γ → Ordering} {key : γ → α} {as : List γ} {best : γ}
    (hcmp : ∀ a ∈ as, ∀ b ∈ as, cmp a b = compare (key a) (key b))
    (h : minBy cmp as = some best) : ∀ a ∈ as, key best ≤ key a := by
  have hfold : ∀ (rest : List γ) (first : γ), (first :: rest) ⊆ as →
      rest.foldl (fun best next => if cmp best next = .gt then next else best) first ∈ as ∧
      ∀ a ∈ first :: rest,
        key (rest.foldl (fun best next => if cmp best next = .gt then next else best) first) ≤
          key a := by
    intro rest
    induction rest with
    | nil =>
      intro first hsub
      refine ⟨hsub List.mem_cons_self, ?_⟩
      intro a ha
      rw [List.mem_singleton.mp ha]
      exact le_refl _
    | cons next rest ih =>
      intro first hsub
      have hfirst : first ∈ as := hsub List.mem_cons_self
      have hnext : next ∈ as := hsub (List.mem_cons_of_mem _ List.mem_cons_self)
      have hrest : rest ⊆ as :=
        fun a ha => hsub (List.mem_cons_of_mem _ (List.mem_cons_of_mem _ ha))
      rw [List.foldl_cons]
      by_cases hgt : cmp first next = .gt
      · rw [if_pos hgt]
        have hless : key next < key first := by
          rw [hcmp first hfirst next hnext] at hgt
          exact compare_gt_iff_gt.mp hgt
        obtain ⟨hmem, hle⟩ := ih next (List.cons_subset.mpr ⟨hnext, hrest⟩)
        refine ⟨hmem, ?_⟩
        intro a ha
        rcases List.mem_cons.mp ha with rfl | ha
        · exact (hle next List.mem_cons_self).trans hless.le
        · exact hle a ha
      · rw [if_neg hgt]
        have hless : key first ≤ key next := by
          rw [hcmp first hfirst next hnext] at hgt
          exact compare_le_iff_le.mp hgt
        obtain ⟨hmem, hle⟩ := ih first (List.cons_subset.mpr ⟨hfirst, hrest⟩)
        refine ⟨hmem, ?_⟩
        intro a ha
        rcases List.mem_cons.mp ha with rfl | ha
        · exact hle a List.mem_cons_self
        rcases List.mem_cons.mp ha with rfl | ha
        · exact (hle first List.mem_cons_self).trans hless
        · exact hle a (List.mem_cons_of_mem _ ha)
  cases as with
  | nil => cases h
  | cons first rest =>
    cases h
    exact (hfold rest first (List.Subset.refl _)).2

end Compare

variable (requestedWidth requestedHeight : UInt16)

def modeArea (mode : UInt16 × UInt16) : Nat := mode.1.toNat * mode.2.toNat

/-- The difference of the aspect ratios. -/
def aspectError (mode : UInt16 × UInt16) : ℚ :=
  |(mode.1.toNat : ℚ) / mode.2.toNat - (requestedWidth.toNat : ℚ) / requestedHeight.toNat|

/-- A smaller key fits better: the aspect error in units of the requested height, then the area. -/
def fitKey (mode : UInt16 × UInt16) : ℚ ×ₗ Natᵒᵈ :=
  toLex ((aspectDelta requestedWidth requestedHeight mode : ℚ) / mode.2.toNat,
    OrderDual.toDual (modeArea mode))

theorem height_pos {mode : UInt16 × UInt16} (h : mode.2 ≠ 0) : 0 < mode.2.toNat := by
  rw [Nat.pos_iff_ne_zero]
  intro hzero
  exact h (UInt16.toNat_inj.mp hzero)

theorem compareModeFit_eq {left right : UInt16 × UInt16} (hleft : left.2 ≠ 0)
    (hright : right.2 ≠ 0) :
    compareModeFit left right requestedWidth requestedHeight =
      compare (fitKey requestedWidth requestedHeight left)
        (fitKey requestedWidth requestedHeight right) := by
  have harea : compare (right.1.toNat * right.2.toNat) (left.1.toNat * left.2.toNat) =
      compare (OrderDual.toDual (modeArea left)) (OrderDual.toDual (modeArea right)) :=
    compare_congr Iff.rfl Iff.rfl
  rw [compareModeFit, compare_cross (height_pos hleft) (height_pos hright), harea]
  rfl

theorem cast_aspectDelta (mode : UInt16 × UInt16) :
    (aspectDelta requestedWidth requestedHeight mode : ℚ) =
      |(mode.1.toNat : ℚ) * requestedHeight.toNat - requestedWidth.toNat * mode.2.toNat| := by
  rw [aspectDelta]
  rcases Nat.le_total (mode.1.toNat * requestedHeight.toNat)
      (requestedWidth.toNat * mode.2.toNat) with h | h
  · have hcast : (mode.1.toNat : ℚ) * requestedHeight.toNat ≤
        requestedWidth.toNat * mode.2.toNat := by exact_mod_cast h
    rw [max_eq_right h, min_eq_left h, Nat.cast_sub h, abs_of_nonpos (by linarith)]
    push_cast
    ring
  · have hcast : (requestedWidth.toNat : ℚ) * mode.2.toNat ≤
        mode.1.toNat * requestedHeight.toNat := by exact_mod_cast h
    rw [max_eq_left h, min_eq_right h, Nat.cast_sub h, abs_of_nonneg (by linarith)]
    push_cast
    ring

/-- The first part of the key is the aspect error times the requested height. -/
theorem delta_div_height {mode : UInt16 × UInt16} (hmode : mode.2 ≠ 0)
    (hrequested : requestedHeight ≠ 0) :
    (aspectDelta requestedWidth requestedHeight mode : ℚ) / mode.2.toNat =
      aspectError requestedWidth requestedHeight mode * requestedHeight.toNat := by
  have hheight : (0 : ℚ) < mode.2.toNat := Nat.cast_pos.mpr (height_pos hmode)
  have hrequest : (0 : ℚ) < requestedHeight.toNat :=
    Nat.cast_pos.mpr (@height_pos (0, requestedHeight) hrequested)
  rw [cast_aspectDelta, aspectError, div_eq_iff hheight.ne', mul_assoc,
    ← abs_of_pos (mul_pos hrequest hheight), ← abs_mul]
  congr 1
  field_simp

/-- The mode is in the ladder, has the orientation of the request, and fits it and the maxima. -/
def Candidate (requestedWidth requestedHeight maxWidth maxHeight : UInt16)
    (mode : UInt16 × UInt16) : Prop :=
  mode ∈ negotiatedLandscapeModes ∧ (mode.1 ≥ mode.2 ↔ requestedWidth ≥ requestedHeight) ∧
    mode.1 ≤ requestedWidth ∧ mode.2 ≤ requestedHeight ∧ mode.1 ≤ maxWidth ∧ mode.2 ≤ maxHeight

/-- No candidate has a smaller aspect error, nor a larger area with the same error. -/
def Optimal (requestedWidth requestedHeight maxWidth maxHeight : UInt16)
    (mode : UInt16 × UInt16) : Prop :=
  Candidate requestedWidth requestedHeight maxWidth maxHeight mode ∧
    ∀ other, Candidate requestedWidth requestedHeight maxWidth maxHeight other →
      aspectError requestedWidth requestedHeight mode ≤
          aspectError requestedWidth requestedHeight other ∧
        (aspectError requestedWidth requestedHeight mode =
            aspectError requestedWidth requestedHeight other → modeArea other ≤ modeArea mode)

variable {requestedWidth requestedHeight} {maxWidth maxHeight : UInt16}

theorem ladder_height_ne : ∀ mode ∈ negotiatedLandscapeModes, mode.2 ≠ 0 := by
  have hall : negotiatedLandscapeModes.all (fun mode => mode.2 ≠ 0) = true := by decide
  intro mode hmode
  exact of_decide_eq_true (List.all_eq_true.mp hall mode hmode)

theorem mem_candidates {mode : UInt16 × UInt16} :
    mode ∈ negotiatedLandscapeModes.filter
        (fits requestedWidth requestedHeight maxWidth maxHeight) ↔
      Candidate requestedWidth requestedHeight maxWidth maxHeight mode := by
  rw [List.mem_filter, Candidate, fits_iff]

theorem Candidate.requestedHeight_ne {mode : UInt16 × UInt16}
    (h : Candidate requestedWidth requestedHeight maxWidth maxHeight mode) :
    requestedHeight ≠ 0 := by
  intro hzero
  have hheight := height_pos (ladder_height_ne mode h.1)
  have hle := UInt16.le_iff_toNat_le.mp h.2.2.2.1
  rw [hzero] at hle
  exact Nat.not_lt_zero _ (Nat.lt_of_lt_of_le hheight hle)

theorem fitKey_le {mode other : UInt16 × UInt16}
    (hmode : Candidate requestedWidth requestedHeight maxWidth maxHeight mode)
    (hother : Candidate requestedWidth requestedHeight maxWidth maxHeight other)
    (h : fitKey requestedWidth requestedHeight mode ≤ fitKey requestedWidth requestedHeight other) :
    aspectError requestedWidth requestedHeight mode ≤
        aspectError requestedWidth requestedHeight other ∧
      (aspectError requestedWidth requestedHeight mode =
          aspectError requestedWidth requestedHeight other → modeArea other ≤ modeArea mode) := by
  have hrequest := hmode.requestedHeight_ne
  have hpos : (0 : ℚ) < requestedHeight.toNat :=
    Nat.cast_pos.mpr (@height_pos (0, requestedHeight) hrequest)
  rw [fitKey, fitKey, Prod.Lex.toLex_le_toLex] at h
  simp only [delta_div_height requestedWidth requestedHeight (ladder_height_ne mode hmode.1) hrequest,
    delta_div_height requestedWidth requestedHeight (ladder_height_ne other hother.1) hrequest] at h
  rcases h with hless | ⟨hsame, harea⟩
  · have hlt := lt_of_mul_lt_mul_right hless hpos.le
    exact ⟨hlt.le, fun heq => absurd heq hlt.ne⟩
  · exact ⟨(mul_right_cancel₀ hpos.ne' hsame).le, fun _ => OrderDual.toDual_le_toDual.mp harea⟩

/-- The request is kept when it fits; otherwise the best candidate is chosen, and the choice fails only
without one. -/
theorem selectBoundedDisplayDimensions_cases (requestedWidth requestedHeight maxWidth maxHeight) :
    (requestedWidth ≤ maxWidth ∧ requestedHeight ≤ maxHeight ∧
      selectBoundedDisplayDimensions requestedWidth requestedHeight maxWidth maxHeight =
        .ok (requestedWidth, requestedHeight)) ∨
    ¬(requestedWidth ≤ maxWidth ∧ requestedHeight ≤ maxHeight) ∧
      ((∃ mode, selectBoundedDisplayDimensions requestedWidth requestedHeight maxWidth maxHeight =
          .ok mode ∧ Optimal requestedWidth requestedHeight maxWidth maxHeight mode) ∨
        (∃ error, selectBoundedDisplayDimensions requestedWidth requestedHeight maxWidth maxHeight =
          .error error) ∧
        ¬∃ mode, Candidate requestedWidth requestedHeight maxWidth maxHeight mode) := by
  rw [selectBoundedDisplayDimensions]
  by_cases hfit : requestedWidth ≤ maxWidth ∧ requestedHeight ≤ maxHeight
  · rw [if_pos hfit]
    exact .inl ⟨hfit.1, hfit.2, rfl⟩
  · rw [if_neg hfit]
    refine .inr ⟨hfit, ?_⟩
    simp only
    split
    · rename_i mode hbest
      left
      have hcandidate := mem_candidates.mp (minBy_mem hbest)
      refine ⟨mode, rfl, hcandidate, ?_⟩
      intro other hother
      apply fitKey_le hcandidate hother
      apply minBy_le ?_ hbest other (mem_candidates.mpr hother)
      intro a ha b hb
      exact compareModeFit_eq requestedWidth requestedHeight
        (ladder_height_ne a (List.mem_filter.mp ha).1) (ladder_height_ne b (List.mem_filter.mp hb).1)
    · rename_i hnone
      right
      refine ⟨⟨_, rfl⟩, ?_⟩
      rintro ⟨mode, hmode⟩
      have hmem := mem_candidates.mpr hmode
      rw [minBy_eq_none.mp hnone] at hmem
      cases hmem

/-- The products of the comparator stay far below the range of `u64`. -/
theorem mode_products (requestedWidth requestedHeight : UInt16) (left right : UInt16 × UInt16) :
    left.1.toNat * requestedHeight.toNat < 2 ^ 32 ∧
      requestedWidth.toNat * left.2.toNat < 2 ^ 32 ∧ modeArea left < 2 ^ 32 ∧
      aspectDelta requestedWidth requestedHeight left * right.2.toNat < 2 ^ 48 := by
  have hproduct : ∀ a b : UInt16, a.toNat * b.toNat < 2 ^ 32 := by
    intro a b
    calc a.toNat * b.toNat < 2 ^ 16 * 2 ^ 16 := Nat.mul_lt_mul'' a.toNat_lt b.toNat_lt
      _ = 2 ^ 32 := rfl
  have hdelta : aspectDelta requestedWidth requestedHeight left < 2 ^ 32 :=
    Nat.lt_of_le_of_lt (Nat.sub_le _ _) (Nat.max_lt.mpr ⟨hproduct _ _, hproduct _ _⟩)
  have hcross : aspectDelta requestedWidth requestedHeight left * right.2.toNat < 2 ^ 48 := by
    calc aspectDelta requestedWidth requestedHeight left * right.2.toNat < 2 ^ 32 * 2 ^ 16 :=
          Nat.mul_lt_mul'' hdelta right.2.toNat_lt
      _ = 2 ^ 48 := rfl
  exact ⟨hproduct _ _, hproduct _ _, hproduct _ _, hcross⟩

/-- For all dimensions the choice is the request itself, or else the best mode that fits, or else it
fails without one. The comparator is a total preorder on all modes of a positive height, and none of
its products leaves the range of `u64`. -/
theorem mode_selection_optimal (requestedWidth requestedHeight maxWidth maxHeight : UInt16) :
    (requestedWidth ≤ maxWidth ∧ requestedHeight ≤ maxHeight →
      selectBoundedDisplayDimensions requestedWidth requestedHeight maxWidth maxHeight =
        .ok (requestedWidth, requestedHeight)) ∧
    (¬(requestedWidth ≤ maxWidth ∧ requestedHeight ≤ maxHeight) →
      (∀ mode, selectBoundedDisplayDimensions requestedWidth requestedHeight maxWidth maxHeight =
        .ok mode → Optimal requestedWidth requestedHeight maxWidth maxHeight mode) ∧
      ((∃ error, selectBoundedDisplayDimensions requestedWidth requestedHeight maxWidth maxHeight =
          .error error) ↔
        ¬∃ mode, Candidate requestedWidth requestedHeight maxWidth maxHeight mode)) ∧
    (∀ a b c : UInt16 × UInt16, a.2 ≠ 0 → b.2 ≠ 0 → c.2 ≠ 0 →
      let cmp := fun left right => compareModeFit left right requestedWidth requestedHeight
      cmp a b = (cmp b a).swap ∧ (cmp a b ≠ .gt → cmp b c ≠ .gt → cmp a c ≠ .gt)) ∧
    ∀ left right : UInt16 × UInt16, left.1.toNat * requestedHeight.toNat < 2 ^ 64 ∧
      requestedWidth.toNat * left.2.toNat < 2 ^ 64 ∧ modeArea left < 2 ^ 64 ∧
      aspectDelta requestedWidth requestedHeight left * right.2.toNat < 2 ^ 64 := by
  refine ⟨?_, ?_, ?_, ?_⟩
  · intro hfit
    rw [selectBoundedDisplayDimensions, if_pos hfit]
  · intro hfit
    rcases selectBoundedDisplayDimensions_cases requestedWidth requestedHeight maxWidth maxHeight with
      ⟨hwidth, hheight, -⟩ | ⟨-, ⟨mode, hmode, hoptimal⟩ | ⟨⟨error, herror⟩, hnone⟩⟩
    · exact absurd ⟨hwidth, hheight⟩ hfit
    · rw [hmode]
      refine ⟨?_, ?_⟩
      · intro other hother
        cases hother
        exact hoptimal
      · exact iff_of_false (by simp) (not_not.mpr ⟨mode, hoptimal.1⟩)
    · rw [herror]
      exact ⟨by simp, iff_of_true ⟨error, rfl⟩ hnone⟩
  · intro a b c ha hb hc
    simp only [compareModeFit_eq requestedWidth requestedHeight ha hb,
      compareModeFit_eq requestedWidth requestedHeight hb ha,
      compareModeFit_eq requestedWidth requestedHeight hb hc,
      compareModeFit_eq requestedWidth requestedHeight ha hc, ne_eq]
    refine ⟨Std.OrientedCmp.eq_swap, ?_⟩
    intro hab hbc
    exact compare_le_iff_le.mpr ((compare_le_iff_le.mp hab).trans (compare_le_iff_le.mp hbc))
  · intro left right
    obtain ⟨h₁, h₂, h₃, h₄⟩ := mode_products requestedWidth requestedHeight left right
    exact ⟨by omega, by omega, by omega, by omega⟩

example : selectBoundedDisplayDimensions 2560 1600 2000 1200 = .ok (1920, 1200) := by
  decide +kernel

end LadoFlow.Host
