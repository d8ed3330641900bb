import LadoFlow.Core.Session
import LadoFlow.Framework.OrderStatistics
import LadoFlow.Framework.Saturating
import LadoFlow.Framework.Trace
import Mathlib.Data.List.DropRight
import Mathlib.GroupTheory.GroupAction.Ring

/-!
# Rolling latency statistics

A bounded window of latency samples and its summary: extremes, mean, two percentiles and jitter.
-/

namespace LadoFlow.Core

open Framework

/-- `NonZeroUsize` on a 64-bit machine. -/
structure NonZeroUsize where
  value : Nat
  pos : 0 < value
  lt : value < 2 ^ 64
  deriving Repr

def tryFromU64 (value : Nat) : Option UInt64 :=
  if value < 2 ^ 64 then some (UInt64.ofNat value) else none

namespace Duration

def asMicros (duration : Duration) : Nat := duration.nanos / 1000

def fromMicros (micros : UInt64) : Duration where
  nanos := micros.toNat * 1000
  le_max := by
    have hlt := micros.toNat_lt
    rw [maxNanos]
    omega

end Duration

inductive TelemetryError where
  | sampleTooLarge
  deriving DecidableEq, Repr

/-- Immutable summary of the current rolling latency window. -/
structure LatencySnapshot where
  sampleCount : Nat
  totalSampleCount : Nat
  min : Duration
  mean : Duration
  p50 : Duration
  p95 : Duration
  max : Duration
  jitter : Duration
  deriving DecidableEq, Repr

/-- The samples are in arrival order, oldest first. -/
structure LatencyAggregator where
  samplesMicros : List UInt64
  capacity : NonZeroUsize
  totalSampleCount : Nat
  deriving Repr

/-- `usize::div_ceil` -/
def divCeil (a b : Nat) : Nat := if 0 < a % b then a / b + 1 else a / b

/-- The rank that `nearest_rank` computes from the number of samples. -/
def splitRank (length percentile : Nat) : Nat :=
  length / 100 * percentile + divCeil (length % 100 * percentile) 100

def nearestRank (sorted : List UInt64) (percentile : Nat) : UInt64 :=
  sorted[max (splitRank sorted.length percentile) 1 - 1]?.getD 0

/-- `u64::abs_diff` -/
def absDiff (a b : UInt64) : UInt64 := if a < b then b - a else a - b

def meanAdjacentDifference (samples : List UInt64) : UInt64 :=
  if samples.length < 2 then 0
  else
  match samples with
  | [] => 0
  | first :: rest =>
    let (_, differenceSum) := rest.foldl
      (fun (previous, differenceSum) current =>
        (current, differenceSum + (absDiff current previous).toNat)) (first, 0)
    (tryFromU64 (differenceSum / (samples.length - 1))).getD 0xFFFFFFFFFFFFFFFF

namespace LatencyAggregator

def new (capacity : NonZeroUsize) : LatencyAggregator := ⟨[], capacity, 0⟩

def record (aggregator : LatencyAggregator) (latency : Duration) :
    Except TelemetryError Unit × LatencyAggregator :=
  match tryFromU64 latency.asMicros with
  | none => (.error .sampleTooLarge, aggregator)
  | some micros =>
    let samples :=
      if aggregator.samplesMicros.length = aggregator.capacity.value then
        aggregator.samplesMicros.drop 1
      else aggregator.samplesMicros
    (.ok (),
      { aggregator with
        samplesMicros := samples ++ [micros]
        totalSampleCount := saturatingSum (2 ^ 64 - 1) aggregator.totalSampleCount 1 })

def snapshot (aggregator : LatencyAggregator) : Option LatencySnapshot :=
  if aggregator.samplesMicros = [] then none
  else do
  let sorted := aggregator.samplesMicros.mergeSort fun a b => a ≤ b
  let sum := (sorted.map UInt64.toNat).sum
  let meanMicros ← tryFromU64 (sum / sorted.length)
  let jitterMicros := meanAdjacentDifference aggregator.samplesMicros
  let minMicros ← sorted.head?
  let maxMicros ← sorted.getLast?
  some
    { sampleCount := sorted.length
      totalSampleCount := aggregator.totalSampleCount
      min := .fromMicros minMicros
      mean := .fromMicros meanMicros
      p50 := .fromMicros (nearestRank sorted 50)
      p95 := .fromMicros (nearestRank sorted 95)
      max := .fromMicros maxMicros
      jitter := .fromMicros jitterMicros }

end LatencyAggregator

/-! ## What the statistics of a window are -/

structure Statistics (samples : List Nat) (least mean p50 p95 greatest jitter : Nat) : Prop where
  least : IsLeast { x | x ∈ samples } least
  mean : mean = samples.sum / samples.length
  p50 : IsKthSmallest samples ((samples.length * 50) ⌈/⌉ 100) p50
  p95 : IsKthSmallest samples ((samples.length * 95) ⌈/⌉ 100) p95
  greatest : IsGreatest { x | x ∈ samples } greatest
  jitter : jitter = (adjacentDistances samples).sum / (samples.length - 1)

section Ordered

variable {samples : List Nat} {least mean p50 p95 greatest jitter : Nat}
  (h : Statistics samples least mean p50 p95 greatest jitter)

include h

theorem Statistics.percentiles_ordered : least ≤ p50 ∧ p50 ≤ p95 ∧ p95 ≤ greatest :=
  ⟨h.least.2 h.p50.mem, h.p50.le h.p95 (ceilScale_mono (by decide)), h.greatest.2 h.p95.mem⟩

theorem Statistics.mean_between : least ≤ mean ∧ mean ≤ greatest := by
  have hne : samples ≠ [] := List.ne_nil_of_mem h.least.1
  rw [h.mean]
  exact ⟨le_mean hne fun x hx => h.least.2 hx, mean_le fun x hx => h.greatest.2 hx⟩

theorem Statistics.jitter_le : jitter ≤ greatest - least := by
  have hmean := mean_le (adjacentDistances_le (fun x hx => h.least.2 hx)
    fun x hx => h.greatest.2 hx)
  rw [adjacentDistances_length] at hmean
  rw [h.jitter]
  exact hmean

end Ordered

/-! ## The computed statistics -/

theorem tryFromU64_of_lt {value : Nat} (h : value < 2 ^ 64) :
    ∃ word, tryFromU64 value = some word ∧ word.toNat = value :=
  ⟨UInt64.ofNat value, if_pos h, UInt64.toNat_ofNat_of_lt' h⟩

theorem divCeil_eq {a b : Nat} (hb : 0 < b) : divCeil a b = a ⌈/⌉ b := by
  have hlt := Nat.mod_lt a hb
  have hsplit := Nat.div_add_mod a b
  rw [divCeil, Nat.ceilDiv_eq_add_pred_div]
  split
  · have hsum : a + b - 1 = b * (a / b + 1) + (a % b - 1) := by
      rw [Nat.mul_add, Nat.mul_one]
      omega
    have hlow : (a % b - 1) / b = 0 := Nat.div_eq_of_lt (by omega)
    rw [hsum, Nat.mul_add_div hb, hlow]
  · have hsum : a + b - 1 = b * (a / b) + (b - 1) := by omega
    have hlow : (b - 1) / b = 0 := Nat.div_eq_of_lt (by omega)
    rw [hsum, Nat.mul_add_div hb, hlow, Nat.add_zero]

theorem splitRank_eq (length percentile : Nat) :
    splitRank length percentile = (length * percentile) ⌈/⌉ 100 := by
  rw [splitRank, divCeil_eq (by decide), ceilScale_split (by decide)]

theorem splitRank_bounds {length percentile : Nat} (hlength : 0 < length)
    (hpercentile : 0 < percentile) (hle : percentile ≤ 100) :
    1 ≤ splitRank length percentile ∧ splitRank length percentile ≤ length := by
  rw [splitRank_eq]
  exact ⟨ceilScale_pos hpercentile (by decide) hlength, ceilScale_le hle (by decide) length⟩

theorem nearestRank_kthSmallest {samples : List Nat} {sorted : List UInt64} {percentile : Nat}
    (hperm : (sorted.map UInt64.toNat).Perm samples)
    (hsorted : (sorted.map UInt64.toNat).Pairwise (· ≤ ·)) (hne : sorted ≠ [])
    (hpercentile : 0 < percentile) (hle : percentile ≤ 100) :
    IsKthSmallest samples ((samples.length * percentile) ⌈/⌉ 100)
      (nearestRank sorted percentile).toNat := by
  have hlength : samples.length = sorted.length := by rw [← hperm.length_eq, List.length_map]
  obtain ⟨hone, hrank⟩ := splitRank_bounds (List.length_pos_iff.mpr hne) hpercentile hle
  have hindex : splitRank sorted.length percentile - 1 < sorted.length := by omega
  have hkth := isKthSmallest_sorted hperm hsorted
    (i := splitRank sorted.length percentile - 1) (by rw [List.length_map]; exact hindex)
  rw [Nat.sub_add_cancel hone, List.getElem_map] at hkth
  rw [nearestRank, Nat.max_eq_left hone, List.getElem?_eq_getElem hindex, Option.getD_some,
    hlength, ← splitRank_eq]
  exact hkth

theorem absDiff_toNat (a b : UInt64) : (absDiff a b).toNat = Nat.dist a.toNat b.toNat := by
  rw [absDiff]
  split
  · rename_i hlt
    have hlt := UInt64.lt_iff_toNat_lt.mp hlt
    rw [UInt64.toNat_sub_of_le _ _ (UInt64.le_iff_toNat_le.mpr hlt.le), Nat.dist]
    omega
  · rename_i hle
    have hle := UInt64.le_iff_toNat_le.mp (UInt64.not_lt.mp hle)
    rw [UInt64.toNat_sub_of_le _ _ (UInt64.le_iff_toNat_le.mpr hle), Nat.dist]
    omega

/-- The loop adds the distance of each sample to the one before. -/
theorem foldl_absDiff (first : UInt64) (rest : List UInt64) (total : Nat) :
    (rest.foldl (fun (previous, differenceSum) current =>
      (current, differenceSum + (absDiff current previous).toNat)) (first, total)).2 =
      total + (adjacentDistances ((first :: rest).map UInt64.toNat)).sum := by
  induction rest generalizing first total with
  | nil => simp [adjacentDistances]
  | cons second rest ih =>
    have hdistances : adjacentDistances ((first :: second :: rest).map UInt64.toNat) =
        Nat.dist second.toNat first.toNat ::
          adjacentDistances ((second :: rest).map UInt64.toNat) := rfl
    rw [List.foldl_cons, ih, hdistances, List.sum_cons, absDiff_toNat, Nat.add_assoc]

theorem samples_lt (samples : List UInt64) : ∀ x ∈ samples.map UInt64.toNat, x ≤ 2 ^ 64 - 1 := by
  intro x hx
  obtain ⟨sample, -, rfl⟩ := List.mem_map.mp hx
  have hlt := sample.toNat_lt
  omega

theorem distances_le (samples : List UInt64) :
    ∀ distance ∈ adjacentDistances (samples.map UInt64.toNat), distance ≤ 2 ^ 64 - 1 := by
  have hbound := adjacentDistances_le (fun x _ => Nat.zero_le x) (samples_lt samples)
  rw [Nat.sub_zero] at hbound
  exact hbound

theorem meanAdjacentDifference_toNat (samples : List UInt64) :
    (meanAdjacentDifference samples).toNat =
      (adjacentDistances (samples.map UInt64.toNat)).sum / (samples.length - 1) := by
  cases samples with
  | nil => rfl
  | cons first rest =>
    simp only [meanAdjacentDifference]
    split
    case isTrue hshort =>
      have hnone : adjacentDistances ((first :: rest).map UInt64.toNat) = [] := by
        apply List.length_eq_zero_iff.mp
        rw [adjacentDistances_length, List.length_map]
        omega
      rw [hnone]
      simp
    case isFalse =>
      have hmean := mean_le (distances_le (first :: rest))
      rw [adjacentDistances_length, List.length_map] at hmean
      obtain ⟨word, hword, hvalue⟩ := tryFromU64_of_lt
        (Nat.lt_of_le_of_lt hmean (by decide : 2 ^ 64 - 1 < 2 ^ 64))
      simp only [foldl_absDiff, Nat.zero_add, hword, Option.getD_some, hvalue]

section Snapshot

variable (window : List UInt64)

theorem sorted_perm : ((window.mergeSort fun a b => a ≤ b).map UInt64.toNat).Perm
    (window.map UInt64.toNat) :=
  (List.mergeSort_perm window _).map _

theorem sorted_pairwise :
    ((window.mergeSort fun a b => a ≤ b).map UInt64.toNat).Pairwise (· ≤ ·) := by
  have htrans : ∀ a b c : UInt64, decide (a ≤ b) = true → decide (b ≤ c) = true →
      decide (a ≤ c) = true := by
    intro a b c hab hbc
    simp only [decide_eq_true_eq] at hab hbc ⊢
    exact UInt64.le_trans hab hbc
  have htotal : ∀ a b : UInt64, (decide (a ≤ b) || decide (b ≤ a)) = true := by
    intro a b
    simpa using UInt64.le_total a b
  have hsorted := List.pairwise_mergeSort htrans htotal window
  apply List.pairwise_map.mpr
  apply hsorted.imp
  intro a b hab
  exact UInt64.le_iff_toNat_le.mp (of_decide_eq_true hab)

theorem sorted_length : (window.mergeSort fun a b => a ≤ b).length = window.length :=
  (List.mergeSort_perm window _).length_eq

end Snapshot

namespace LatencyAggregator

/-- The snapshot of a window with samples shows its statistics. -/
theorem snapshot_statistics {aggregator : LatencyAggregator} (hne : aggregator.samplesMicros ≠ []) :
    ∃ least mean p50 p95 greatest jitter : UInt64,
      aggregator.snapshot = some
        { sampleCount := aggregator.samplesMicros.length
          totalSampleCount := aggregator.totalSampleCount
          min := .fromMicros least
          mean := .fromMicros mean
          p50 := .fromMicros p50
          p95 := .fromMicros p95
          max := .fromMicros greatest
          jitter := .fromMicros jitter } ∧
      Statistics (aggregator.samplesMicros.map UInt64.toNat) least.toNat mean.toNat p50.toNat
        p95.toNat greatest.toNat jitter.toNat := by
  have hperm := sorted_perm aggregator.samplesMicros
  have hsorted := sorted_pairwise aggregator.samplesMicros
  have hlength := sorted_length aggregator.samplesMicros
  have hsortedNe : (aggregator.samplesMicros.mergeSort fun a b => a ≤ b) ≠ [] := by
    apply List.length_pos_iff.mp
    rw [hlength]
    exact List.length_pos_iff.mpr hne
  have hhead := List.head?_eq_some_head hsortedNe
  have hlast := List.getLast?_eq_some_getLast hsortedNe
  have hleast := isLeast_head hperm hsorted (by rw [List.head?_map, hhead, Option.map_some])
  have hgreatest := isGreatest_getLast hperm hsorted
    (by rw [List.getLast?_map, hlast, Option.map_some])
  have hbound := mean_le (samples_lt (aggregator.samplesMicros.mergeSort fun a b => a ≤ b))
  rw [List.length_map] at hbound
  obtain ⟨mean, hmean, hvalue⟩ := tryFromU64_of_lt
    (Nat.lt_of_le_of_lt hbound (by decide : 2 ^ 64 - 1 < 2 ^ 64))
  refine ⟨_, mean, nearestRank _ 50, nearestRank _ 95, _,
    meanAdjacentDifference aggregator.samplesMicros, ?_, hleast, ?_,
    nearestRank_kthSmallest hperm hsorted hsortedNe (by decide) (by decide),
    nearestRank_kthSmallest hperm hsorted hsortedNe (by decide) (by decide), hgreatest, ?_⟩
  · rw [snapshot, if_neg hne]
    simp only [hmean, hhead, hlast]
    rw [← hlength]
    rfl
  · rw [hvalue, hperm.sum_eq, hlength, List.length_map]
  · rw [meanAdjacentDifference_toNat, List.length_map]

/-! ## The window -/

theorem record_error {aggregator : LatencyAggregator} {latency : Duration} {error : TelemetryError}
    (h : (aggregator.record latency).1 = .error error) :
    (aggregator.record latency).2 = aggregator := by
  rw [record] at h ⊢
  cases hmicros : tryFromU64 latency.asMicros with
  | none => rfl
  | some micros =>
    rw [hmicros] at h
    cases h

def recordAll (capacity : NonZeroUsize) (latencies : List Duration) : LatencyAggregator :=
  latencies.foldl (fun aggregator latency => (aggregator.record latency).2) (new capacity)

/-- The samples of the calls that succeed, in order. -/
def recorded (latencies : List Duration) : List UInt64 :=
  latencies.filterMap fun latency => tryFromU64 latency.asMicros

theorem rtake_snoc {α : Type} {n : Nat} (hn : 0 < n) (xs : List α) (x : α) :
    (xs ++ [x]).rtake n =
      (if (xs.rtake n).length = n then (xs.rtake n).drop 1 else xs.rtake n) ++ [x] := by
  have hlength : (xs.rtake n).length = min n xs.length := by
    rw [List.rtake, List.length_drop]
    omega
  obtain ⟨m, rfl⟩ := Nat.exists_eq_add_of_lt hn
  rw [Nat.zero_add, List.rtake_concat_succ]
  congr 1
  split
  case isTrue hfull =>
    rw [List.rtake, List.rtake, List.drop_drop]
    congr 1
    rw [Nat.zero_add] at hlength
    omega
  case isFalse hpart =>
    rw [Nat.zero_add] at hlength
    have hshort : xs.length ≤ m := by omega
    rw [List.rtake, List.rtake, Nat.sub_eq_zero_of_le hshort, Nat.sub_eq_zero_of_le (by omega)]

theorem recordAll_window (capacity : NonZeroUsize) (latencies : List Duration) :
    (recordAll capacity latencies).samplesMicros = (recorded latencies).rtake capacity.value ∧
      (recordAll capacity latencies).capacity = capacity := by
  induction latencies using List.reverseRecOn with
  | nil => exact ⟨(List.rtake_nil _).symm, rfl⟩
  | append_singleton latencies latency ih =>
    obtain ⟨hwindow, hcapacity⟩ := ih
    have hstep : recordAll capacity (latencies ++ [latency]) =
        ((recordAll capacity latencies).record latency).2 := by
      rw [recordAll, List.foldl_append]
      rfl
    rw [hstep, record, recorded, filterMap_snoc, ← recorded]
    cases hmicros : tryFromU64 latency.asMicros with
    | none =>
      rw [Option.toList_none, List.append_nil]
      exact ⟨hwindow, hcapacity⟩
    | some micros =>
      rw [Option.toList_some, rtake_snoc capacity.pos]
      simp only [hwindow, hcapacity, and_self]

/-! ## Machine arithmetic -/

/-- The intermediate values of a snapshot fit the words that hold them. -/
structure Fits (window : List UInt64) : Prop where
  length : window.length < 2 ^ 64
  quotient : ∀ percentile ∈ [50, 95], window.length / 100 * percentile < 2 ^ 64
  remainder : ∀ percentile ∈ [50, 95], window.length % 100 * percentile < 2 ^ 64
  rank : ∀ percentile ∈ [50, 95], window ≠ [] →
    1 ≤ splitRank window.length percentile ∧ splitRank window.length percentile ≤ window.length
  sum : (window.map UInt64.toNat).sum < 2 ^ 128
  differenceSum : (adjacentDistances (window.map UInt64.toNat)).sum < 2 ^ 128

theorem sum_lt {xs : List Nat} (hlength : xs.length < 2 ^ 64) (h : ∀ x ∈ xs, x ≤ 2 ^ 64 - 1) :
    xs.sum < 2 ^ 128 := by
  have hsum := List.sum_le_card_nsmul xs (2 ^ 64 - 1) h
  rw [smul_eq_mul] at hsum
  have hproduct : xs.length * (2 ^ 64 - 1) ≤ 2 ^ 64 * (2 ^ 64 - 1) :=
    Nat.mul_le_mul_right _ hlength.le
  omega

theorem fits_of_length {window : List UInt64} (h : window.length < 2 ^ 64) : Fits window := by
  refine ⟨h, ?_, ?_, ?_, ?_, ?_⟩
  · intro percentile hpercentile
    have hle : percentile ≤ 100 := by
      rcases List.mem_pair.mp hpercentile with rfl | rfl <;> decide
    have hproduct := Nat.mul_le_mul_left (window.length / 100) hle
    have hwhole := Nat.div_mul_le_self window.length 100
    omega
  · intro percentile hpercentile
    have hle : percentile ≤ 100 := by
      rcases List.mem_pair.mp hpercentile with rfl | rfl <;> decide
    have hproduct := Nat.mul_le_mul_left (window.length % 100) hle
    have hpart := Nat.mod_lt window.length (by decide : 0 < 100)
    omega
  · intro percentile hpercentile hne
    have hpos := List.length_pos_iff.mpr hne
    rcases List.mem_pair.mp hpercentile with rfl | rfl
    · exact splitRank_bounds hpos (by decide) (by decide)
    · exact splitRank_bounds hpos (by decide) (by decide)
  · exact sum_lt (by rw [List.length_map]; exact h) (samples_lt window)
  · apply sum_lt _ (distances_le window)
    rw [adjacentDistances_length, List.length_map]
    omega

theorem fromMicros_le {a b : UInt64} (h : a.toNat ≤ b.toNat) :
    (Duration.fromMicros a).nanos ≤ (Duration.fromMicros b).nanos :=
  Nat.mul_le_mul_right 1000 h

/-- After any calls the window holds the last samples, and a snapshot shows its exact statistics. -/
theorem statistics_exact (capacity : NonZeroUsize) (latencies : List Duration) :
    let aggregator := recordAll capacity latencies
    let window := aggregator.samplesMicros
    window = (recorded latencies).rtake (min capacity.value (recorded latencies).length) ∧
    (∀ latency error, (aggregator.record latency).1 = .error error →
      (aggregator.record latency).2 = aggregator) ∧
    (window = [] → aggregator.snapshot = none) ∧
    (window ≠ [] → ∃ snapshot, ∃ least mean p50 p95 greatest jitter : UInt64,
      aggregator.snapshot = some snapshot ∧
      snapshot.min = .fromMicros least ∧ snapshot.mean = .fromMicros mean ∧
      snapshot.p50 = .fromMicros p50 ∧ snapshot.p95 = .fromMicros p95 ∧
      snapshot.max = .fromMicros greatest ∧ snapshot.jitter = .fromMicros jitter ∧
      snapshot.sampleCount = window.length ∧
      Statistics (window.map UInt64.toNat) least.toNat mean.toNat p50.toNat p95.toNat
        greatest.toNat jitter.toNat ∧
      snapshot.min.nanos ≤ snapshot.p50.nanos ∧ snapshot.p50.nanos ≤ snapshot.p95.nanos ∧
      snapshot.p95.nanos ≤ snapshot.max.nanos ∧ snapshot.min.nanos ≤ snapshot.mean.nanos ∧
      snapshot.mean.nanos ≤ snapshot.max.nanos ∧
      snapshot.jitter.nanos ≤ snapshot.max.nanos - snapshot.min.nanos) ∧
    (∀ length percentile : Nat, 0 < length → 0 < percentile → percentile ≤ 100 →
      splitRank length percentile = (length * percentile) ⌈/⌉ 100 ∧
      1 ≤ splitRank length percentile ∧ splitRank length percentile ≤ length) ∧
    Fits window := by
  intro aggregator window
  obtain ⟨hwindow, hcapacity⟩ := recordAll_window capacity latencies
  have hmin : (recorded latencies).rtake capacity.value =
      (recorded latencies).rtake (min capacity.value (recorded latencies).length) := by
    rw [List.rtake, List.rtake]
    congr 1
    omega
  have hlength : window.length < 2 ^ 64 := by
    have hlt := capacity.lt
    show (recordAll capacity latencies).samplesMicros.length < 2 ^ 64
    rw [hwindow, List.rtake, List.length_drop]
    omega
  refine ⟨hwindow.trans hmin, fun latency error => record_error, ?_, ?_,
    fun length percentile hpos hpercentile hle =>
      ⟨splitRank_eq length percentile, splitRank_bounds hpos hpercentile hle⟩,
    fits_of_length hlength⟩
  · intro hempty
    exact if_pos hempty
  · intro hne
    obtain ⟨least, mean, p50, p95, greatest, jitter, hsnapshot, hstatistics⟩ :=
      snapshot_statistics hne
    obtain ⟨hp50, hp95, hmax⟩ := hstatistics.percentiles_ordered
    obtain ⟨hmeanLow, hmeanHigh⟩ := hstatistics.mean_between
    refine ⟨_, least, mean, p50, p95, greatest, jitter, hsnapshot, rfl, rfl, rfl, rfl, rfl, rfl, rfl,
      hstatistics, fromMicros_le hp50, fromMicros_le hp95, fromMicros_le hmax,
      fromMicros_le hmeanLow, fromMicros_le hmeanHigh, ?_⟩
    have hjitter := Nat.mul_le_mul_right 1000 hstatistics.jitter_le
    rw [Nat.sub_mul] at hjitter
    exact hjitter

end LatencyAggregator

end LadoFlow.Core
