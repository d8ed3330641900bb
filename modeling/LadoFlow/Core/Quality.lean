import LadoFlow.Core.Latency

/-!
# Quality adaptation

Stream limits recommended from the latest latency snapshot, inside the negotiated capabilities. A
worse snapshot never recommends more, and a larger limit never less.
-/

namespace LadoFlow.Core

open Framework

inductive QualityTier where
  | high
  | balanced
  | constrained
  deriving DecidableEq, Repr

/-- Concrete stream limits recommended for the next encoder configuration. -/
structure QualityRecommendation where
  tier : QualityTier
  width : UInt16
  height : UInt16
  refreshMillihz : UInt32
  bitrateKbps : UInt32
  deriving DecidableEq, Repr

inductive QualityPolicyError where
  | thresholdsOutOfOrder
  deriving DecidableEq, Repr

/-- Thresholds that the constructor accepts. -/
@[ext] structure QualityPolicy where
  highP95 : Duration
  highJitter : Duration
  constrainedP95 : Duration
  constrainedJitter : Duration
  p95_lt : highP95.nanos < constrainedP95.nanos
  jitter_lt : highJitter.nanos < constrainedJitter.nanos
  deriving DecidableEq, Repr

def scaleU16Percent (value percent : UInt16) : UInt16 :=
  let whole := (value / 100) * percent
  let remainder := ((value % 100) * percent) / 100
  max (whole + remainder) 1

def scaleU32Percent (value percent : UInt32) : UInt32 :=
  let whole := (value / 100) * percent
  let remainder := ((value % 100) * percent) / 100
  max (whole + remainder) 1

namespace QualityTier

def dimensionPercent : QualityTier → UInt16
  | .high => 100
  | .balanced => 75
  | .constrained => 50

def bitratePercent : QualityTier → UInt32
  | .high => 100
  | .balanced => 70
  | .constrained => 40

def refreshCap : QualityTier → UInt32
  | .high => 0xFFFFFFFF
  | .balanced => 60000
  | .constrained => 30000

end QualityTier

namespace QualityPolicy

def new (highP95 highJitter constrainedP95 constrainedJitter : Duration) :
    Except QualityPolicyError QualityPolicy :=
  if h : highP95.nanos ≥ constrainedP95.nanos ∨ highJitter.nanos ≥ constrainedJitter.nanos then
    .error .thresholdsOutOfOrder
  else .ok
    { highP95, highJitter, constrainedP95, constrainedJitter
      p95_lt := Nat.lt_of_not_le fun hle => h (.inl hle)
      jitter_lt := Nat.lt_of_not_le fun hle => h (.inr hle) }

def default : QualityPolicy :=
  ⟨.fromMillis 40, .fromMillis 8, .fromMillis 90, .fromMillis 20, by decide, by decide⟩

def snapshotTier (policy : QualityPolicy) (snapshot : LatencySnapshot) : QualityTier :=
  if snapshot.p95.nanos ≤ policy.highP95.nanos ∧ snapshot.jitter.nanos ≤ policy.highJitter.nanos then
    .high
  else if snapshot.p95.nanos ≥ policy.constrainedP95.nanos ∨
      snapshot.jitter.nanos ≥ policy.constrainedJitter.nanos then .constrained
  else .balanced

def recommend (policy : QualityPolicy) (capabilities : NegotiatedCapabilities)
    (snapshot : Option LatencySnapshot) : QualityRecommendation :=
  let tier := (snapshot.map policy.snapshotTier).getD .balanced
  { tier
    width := scaleU16Percent capabilities.maxWidth tier.dimensionPercent
    height := scaleU16Percent capabilities.maxHeight tier.dimensionPercent
    refreshMillihz := min capabilities.maxRefreshMillihz tier.refreshCap
    bitrateKbps := scaleU32Percent capabilities.maxBitrateKbps tier.bitratePercent }

/-- The policies are those that `new` returns. -/
theorem new_eq_ok {highP95 highJitter constrainedP95 constrainedJitter : Duration}
    {policy : QualityPolicy} :
    new highP95 highJitter constrainedP95 constrainedJitter = .ok policy ↔
      policy.highP95 = highP95 ∧ policy.highJitter = highJitter ∧
        policy.constrainedP95 = constrainedP95 ∧ policy.constrainedJitter = constrainedJitter := by
  rw [new]
  constructor
  · intro h
    split at h
    · cases h
    · cases h
      exact ⟨rfl, rfl, rfl, rfl⟩
  · rintro ⟨rfl, rfl, rfl, rfl⟩
    have hp95 := policy.p95_lt
    have hjitter := policy.jitter_lt
    rw [dif_neg (by omega)]

end QualityPolicy

/-! ## Scaling -/

/-- A percentage of a value, rounded down, and never zero. -/
def scaledPercent (value percent : Nat) : Nat := max 1 (floorScale percent 100 value)

theorem scaledPercent_le {value percent : Nat} (hpercent : percent ≤ 100) (hvalue : 1 ≤ value) :
    scaledPercent value percent ≤ value := by
  have hscaled : floorScale percent 100 value ≤ floorScale 100 100 value :=
    floorScale_mono_num hpercent
  have hwhole : floorScale 100 100 value = value := Nat.mul_div_cancel value (by decide)
  rw [scaledPercent]
  omega

theorem scaledPercent_mono {value value' percent percent' : Nat} (hvalue : value ≤ value')
    (hpercent : percent ≤ percent') : scaledPercent value percent ≤ scaledPercent value' percent' :=
  max_le_max le_rfl ((floorScale_mono hvalue).trans (floorScale_mono_num hpercent))

/-- The intermediate values of the split scaling fit a word that holds the value. -/
structure SplitFits (value percent limit : Nat) : Prop where
  whole : value / 100 * percent < limit
  product : value % 100 * percent < limit
  sum : value / 100 * percent + value % 100 * percent / 100 < limit

theorem splitFits {value percent limit : Nat} (hpercent : percent ≤ 100) (hvalue : value < limit)
    (hlimit : 9900 < limit) : SplitFits value percent limit := by
  have hwhole : value / 100 * percent ≤ value / 100 * 100 := Nat.mul_le_mul_left _ hpercent
  have hproduct : value % 100 * percent ≤ value % 100 * 100 := Nat.mul_le_mul_left _ hpercent
  exact ⟨by omega, by omega, by omega⟩

theorem max_toNat16 (a b : UInt16) : (max a b).toNat = max a.toNat b.toNat := by
  change (if a ≤ b then b else a).toNat = _
  split
  · rename_i hle
    exact (Nat.max_eq_right (UInt16.le_iff_toNat_le.mp hle)).symm
  · rename_i hlt
    have hlt := UInt16.lt_iff_toNat_lt.mp (UInt16.not_le.mp hlt)
    exact (Nat.max_eq_left hlt.le).symm

theorem max_toNat32 (a b : UInt32) : (max a b).toNat = max a.toNat b.toNat := by
  change (if a ≤ b then b else a).toNat = _
  split
  · rename_i hle
    exact (Nat.max_eq_right (UInt32.le_iff_toNat_le.mp hle)).symm
  · rename_i hlt
    have hlt := UInt32.lt_iff_toNat_lt.mp (UInt32.not_le.mp hlt)
    exact (Nat.max_eq_left hlt.le).symm

theorem scaleU16Percent_toNat {value percent : UInt16} (h : percent.toNat ≤ 100) :
    (scaleU16Percent value percent).toNat = scaledPercent value.toNat percent.toNat := by
  have hfits := splitFits h value.toNat_lt (by decide)
  have hwhole : (value / 100 * percent).toNat = value.toNat / 100 * percent.toNat := by
    rw [UInt16.toNat_mul, UInt16.toNat_div]
    exact Nat.mod_eq_of_lt hfits.whole
  have hremainder : (value % 100 * percent / 100).toNat =
      value.toNat % 100 * percent.toNat / 100 := by
    rw [UInt16.toNat_div, UInt16.toNat_mul, UInt16.toNat_mod]
    exact congrArg (· / 100) (Nat.mod_eq_of_lt hfits.product)
  have hsum : (value / 100 * percent + value % 100 * percent / 100).toNat =
      floorScale percent.toNat 100 value.toNat := by
    rw [UInt16.toNat_add, hwhole, hremainder, Nat.mod_eq_of_lt hfits.sum,
      floorScale_split (by decide)]
  rw [scaleU16Percent, max_toNat16, hsum, scaledPercent, Nat.max_comm]
  rfl

theorem scaleU32Percent_toNat {value percent : UInt32} (h : percent.toNat ≤ 100) :
    (scaleU32Percent value percent).toNat = scaledPercent value.toNat percent.toNat := by
  have hfits := splitFits h value.toNat_lt (by decide)
  have hwhole : (value / 100 * percent).toNat = value.toNat / 100 * percent.toNat := by
    rw [UInt32.toNat_mul, UInt32.toNat_div]
    exact Nat.mod_eq_of_lt hfits.whole
  have hremainder : (value % 100 * percent / 100).toNat =
      value.toNat % 100 * percent.toNat / 100 := by
    rw [UInt32.toNat_div, UInt32.toNat_mul, UInt32.toNat_mod]
    exact congrArg (· / 100) (Nat.mod_eq_of_lt hfits.product)
  have hsum : (value / 100 * percent + value % 100 * percent / 100).toNat =
      floorScale percent.toNat 100 value.toNat := by
    rw [UInt32.toNat_add, hwhole, hremainder, Nat.mod_eq_of_lt hfits.sum,
      floorScale_split (by decide)]
  rw [scaleU32Percent, max_toNat32, hsum, scaledPercent, Nat.max_comm]
  rfl

theorem min_toNat32 (a b : UInt32) : (min a b).toNat = min a.toNat b.toNat := by
  change (if a ≤ b then a else b).toNat = _
  split
  · rename_i hle
    exact (Nat.min_eq_left (UInt32.le_iff_toNat_le.mp hle)).symm
  · rename_i hlt
    have hlt := UInt32.lt_iff_toNat_lt.mp (UInt32.not_le.mp hlt)
    exact (Nat.min_eq_right hlt.le).symm

/-! ## Recommendations -/

structure NonZeroLimits (capabilities : NegotiatedCapabilities) : Prop where
  width : capabilities.maxWidth ≠ 0
  height : capabilities.maxHeight ≠ 0
  refresh : capabilities.maxRefreshMillihz ≠ 0
  bitrate : capabilities.maxBitrateKbps ≠ 0

/-- Each value is at least one and at most the negotiated maximum. -/
structure WithinLimits (capabilities : NegotiatedCapabilities)
    (recommendation : QualityRecommendation) : Prop where
  width : 1 ≤ recommendation.width ∧ recommendation.width ≤ capabilities.maxWidth
  height : 1 ≤ recommendation.height ∧ recommendation.height ≤ capabilities.maxHeight
  refresh : 1 ≤ recommendation.refreshMillihz ∧
    recommendation.refreshMillihz ≤ capabilities.maxRefreshMillihz
  bitrate : 1 ≤ recommendation.bitrateKbps ∧ recommendation.bitrateKbps ≤ capabilities.maxBitrateKbps

structure AtMost (less more : QualityRecommendation) : Prop where
  width : less.width ≤ more.width
  height : less.height ≤ more.height
  refresh : less.refreshMillihz ≤ more.refreshMillihz
  bitrate : less.bitrateKbps ≤ more.bitrateKbps

namespace QualityTier

theorem percents_le (tier : QualityTier) :
    tier.dimensionPercent.toNat ≤ 100 ∧ tier.bitratePercent.toNat ≤ 100 := by
  cases tier <;> decide

theorem refreshCap_pos (tier : QualityTier) : 1 ≤ tier.refreshCap.toNat := by
  cases tier <;> decide

/-- The order of the tiers. -/
def level : QualityTier → Nat
  | .constrained => 0
  | .balanced => 1
  | .high => 2

theorem limits_mono {worse better : QualityTier} (h : worse.level ≤ better.level) :
    worse.dimensionPercent.toNat ≤ better.dimensionPercent.toNat ∧
      worse.bitratePercent.toNat ≤ better.bitratePercent.toNat ∧
      worse.refreshCap.toNat ≤ better.refreshCap.toNat := by
  revert h
  cases worse <;> cases better <;> decide

end QualityTier

section Scaled

variable {value higher : UInt16} {word larger : UInt32} {tier : QualityTier}

theorem dimension_within (hvalue : value ≠ 0) :
    1 ≤ scaleU16Percent value tier.dimensionPercent ∧
      scaleU16Percent value tier.dimensionPercent ≤ value := by
  have hpos : 1 ≤ value.toNat := Nat.pos_of_ne_zero fun hzero => hvalue (UInt16.toNat_inj.mp hzero)
  rw [UInt16.le_iff_toNat_le, UInt16.le_iff_toNat_le, scaleU16Percent_toNat tier.percents_le.1]
  exact ⟨Nat.le_max_left _ _, scaledPercent_le tier.percents_le.1 hpos⟩

theorem bitrate_within (hvalue : word ≠ 0) :
    1 ≤ scaleU32Percent word tier.bitratePercent ∧
      scaleU32Percent word tier.bitratePercent ≤ word := by
  have hpos : 1 ≤ word.toNat := Nat.pos_of_ne_zero fun hzero => hvalue (UInt32.toNat_inj.mp hzero)
  rw [UInt32.le_iff_toNat_le, UInt32.le_iff_toNat_le, scaleU32Percent_toNat tier.percents_le.2]
  exact ⟨Nat.le_max_left _ _, scaledPercent_le tier.percents_le.2 hpos⟩

theorem refresh_within (hvalue : word ≠ 0) :
    1 ≤ min word tier.refreshCap ∧ min word tier.refreshCap ≤ word := by
  have hpos : 1 ≤ word.toNat := Nat.pos_of_ne_zero fun hzero => hvalue (UInt32.toNat_inj.mp hzero)
  have hcap := tier.refreshCap_pos
  rw [UInt32.le_iff_toNat_le, UInt32.le_iff_toNat_le, min_toNat32]
  exact ⟨Nat.le_min.mpr ⟨hpos, hcap⟩, Nat.min_le_left _ _⟩

variable {worse better : QualityTier} (htier : worse.level ≤ better.level)

include htier

theorem dimension_mono (h : value ≤ higher) :
    scaleU16Percent value worse.dimensionPercent ≤
      scaleU16Percent higher better.dimensionPercent := by
  rw [UInt16.le_iff_toNat_le, scaleU16Percent_toNat worse.percents_le.1,
    scaleU16Percent_toNat better.percents_le.1]
  exact scaledPercent_mono (UInt16.le_iff_toNat_le.mp h) (QualityTier.limits_mono htier).1

theorem bitrate_mono (h : word ≤ larger) :
    scaleU32Percent word worse.bitratePercent ≤ scaleU32Percent larger better.bitratePercent := by
  rw [UInt32.le_iff_toNat_le, scaleU32Percent_toNat worse.percents_le.2,
    scaleU32Percent_toNat better.percents_le.2]
  exact scaledPercent_mono (UInt32.le_iff_toNat_le.mp h) (QualityTier.limits_mono htier).2.1

theorem refresh_mono (h : word ≤ larger) :
    min word worse.refreshCap ≤ min larger better.refreshCap := by
  rw [UInt32.le_iff_toNat_le, min_toNat32, min_toNat32]
  exact min_le_min (UInt32.le_iff_toNat_le.mp h) (QualityTier.limits_mono htier).2.2

end Scaled

namespace QualityPolicy

variable (policy : QualityPolicy)

/-- The gap between the thresholds is balanced on both sides, so the tiers do not cross. -/
theorem snapshotTier_level {better worse : LatencySnapshot} (hp95 : better.p95.nanos ≤ worse.p95.nanos)
    (hjitter : better.jitter.nanos ≤ worse.jitter.nanos) :
    (policy.snapshotTier worse).level ≤ (policy.snapshotTier better).level := by
  have hp95Lt := policy.p95_lt
  have hjitterLt := policy.jitter_lt
  simp only [snapshotTier]
  split_ifs <;> simp only [QualityTier.level] <;> omega

/-- Recommendations stay inside the negotiated limits, follow the latency and follow the limits, and
the split scaling is exact. -/
theorem recommend_monotone :
    (∀ capabilities snapshot, NonZeroLimits capabilities →
      WithinLimits capabilities (policy.recommend capabilities snapshot)) ∧
    (∀ capabilities (better worse : LatencySnapshot), better.p95.nanos ≤ worse.p95.nanos →
      better.jitter.nanos ≤ worse.jitter.nanos →
      AtMost (policy.recommend capabilities (some worse))
        (policy.recommend capabilities (some better))) ∧
    (∀ (lower higher : NegotiatedCapabilities) snapshot,
      (lower.maxWidth ≤ higher.maxWidth →
        (policy.recommend lower snapshot).width ≤ (policy.recommend higher snapshot).width) ∧
      (lower.maxHeight ≤ higher.maxHeight →
        (policy.recommend lower snapshot).height ≤ (policy.recommend higher snapshot).height) ∧
      (lower.maxRefreshMillihz ≤ higher.maxRefreshMillihz →
        (policy.recommend lower snapshot).refreshMillihz ≤
          (policy.recommend higher snapshot).refreshMillihz) ∧
      (lower.maxBitrateKbps ≤ higher.maxBitrateKbps →
        (policy.recommend lower snapshot).bitrateKbps ≤
          (policy.recommend higher snapshot).bitrateKbps)) ∧
    (∀ value percent : UInt16, percent.toNat ≤ 100 →
      (scaleU16Percent value percent).toNat = max 1 (value.toNat * percent.toNat / 100) ∧
      SplitFits value.toNat percent.toNat (2 ^ 16)) ∧
    ∀ value percent : UInt32, percent.toNat ≤ 100 →
      (scaleU32Percent value percent).toNat = max 1 (value.toNat * percent.toNat / 100) ∧
      SplitFits value.toNat percent.toNat (2 ^ 32) := by
  refine ⟨?_, ?_, ?_, ?_, ?_⟩
  · intro capabilities snapshot hlimits
    exact ⟨dimension_within hlimits.width, dimension_within hlimits.height,
      refresh_within hlimits.refresh, bitrate_within hlimits.bitrate⟩
  · intro capabilities better worse hp95 hjitter
    have htier := policy.snapshotTier_level hp95 hjitter
    exact ⟨dimension_mono htier (UInt16.le_refl _), dimension_mono htier (UInt16.le_refl _),
      refresh_mono htier (UInt32.le_refl _), bitrate_mono htier (UInt32.le_refl _)⟩
  · intro lower higher snapshot
    exact ⟨dimension_mono le_rfl, dimension_mono le_rfl, refresh_mono le_rfl, bitrate_mono le_rfl⟩
  · intro value percent hpercent
    exact ⟨scaleU16Percent_toNat hpercent, splitFits hpercent value.toNat_lt (by decide)⟩
  · intro value percent hpercent
    exact ⟨scaleU32Percent_toNat hpercent, splitFits hpercent value.toNat_lt (by decide)⟩

end QualityPolicy

end LadoFlow.Core
