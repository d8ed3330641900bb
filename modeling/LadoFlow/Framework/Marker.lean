import Mathlib.Data.List.Infix
import Mathlib.Tactic.Common

/-!
# Marked streams

Units of a stream stand behind markers of two lengths: the short marker is two zeros and a one, the
long marker has one more zero in front. A scanner takes the first marker it meets and prefers the
long form. Units that hold no short marker and do not end in a zero are found again exactly.
-/

namespace Framework

inductive Marker where
  | short
  | long
  deriving DecidableEq, Repr

namespace Marker

def length : Marker → Nat
  | short => 3
  | long => 4

section Symbols

variable {α : Type} (zero one : α)

def symbols : Marker → List α
  | short => [zero, zero, one]
  | long => [zero, zero, zero, one]

/-- The stream of some units, each behind its marker. -/
def join (units : List (Marker × List α)) : List α :=
  units.flatMap fun unit => unit.1.symbols zero one ++ unit.2

@[simp] theorem symbols_length (marker : Marker) : (marker.symbols zero one).length = marker.length := by
  cases marker <;> rfl

@[simp] theorem join_nil : join zero one [] = [] := rfl

@[simp] theorem join_cons (marker : Marker) (unit : List α) (units : List (Marker × List α)) :
    join zero one ((marker, unit) :: units) =
      marker.symbols zero one ++ (unit ++ join zero one units) := by
  simp [join]

theorem short_infix_symbols (marker : Marker) :
    short.symbols zero one <:+: marker.symbols zero one := by
  cases marker with
  | short => exact List.infix_rfl
  | long => exact (List.suffix_cons zero _).isInfix

theorem symbols_map {β : Type} (f : α → β) (marker : Marker) :
    (marker.symbols zero one).map f = marker.symbols (f zero) (f one) := by
  cases marker <;> rfl

theorem join_map {β : Type} (f : α → β) (units : List (Marker × List α)) :
    (join zero one units).map f =
      join (f zero) (f one) (units.map fun unit => (unit.1, unit.2.map f)) := by
  induction units with
  | nil => rfl
  | cons unit units ih =>
    rw [join_cons, List.map_append, List.map_append, symbols_map, ih, List.map_cons, join_cons]

/-- A proper part of a marker ends in a zero. -/
theorem getLast?_of_prefix_symbols {zero one : α} {marker : Marker} {part : List α}
    (hstart : part <+: marker.symbols zero one) (hpart : part ≠ [])
    (hproper : part ≠ marker.symbols zero one) : part.getLast? = some zero := by
  have htake := List.prefix_iff_eq_take.mp hstart
  have hlength := hstart.length_le
  have hpos := List.length_pos_iff.mpr hpart
  rw [symbols_length] at hlength
  cases marker with
  | short =>
    obtain h | h | h : part.length = 1 ∨ part.length = 2 ∨ part.length = 3 := by
      simp only [length] at hlength
      omega
    · rw [htake, h]
      rfl
    · rw [htake, h]
      rfl
    · rw [h] at htake
      exact absurd htake hproper
  | long =>
    obtain h | h | h | h :
        part.length = 1 ∨ part.length = 2 ∨ part.length = 3 ∨ part.length = 4 := by
      simp only [length] at hlength
      omega
    · rw [htake, h]
      rfl
    · rw [htake, h]
      rfl
    · rw [htake, h]
      rfl
    · rw [h] at htake
      exact absurd htake hproper

end Symbols

variable {α : Type} [DecidableEq α] (zero one : α)

/-- The marker at the front of a stream; the long form is preferred. -/
def front (stream : List α) : Option Marker :=
  if stream.take 4 = long.symbols zero one then some long
  else if stream.take 3 = short.symbols zero one then some short
  else none

/-- No marker begins inside of the unit, the stream after it included. -/
def Clear (unit rest : List α) : Prop :=
  ∀ i < unit.length, front zero one ((unit ++ rest).drop i) = none

/-- Every unit is clear in the stream that the units make. -/
def Scanned : List (Marker × List α) → Prop
  | [] => True
  | (_, unit) :: units => Clear zero one unit (join zero one units) ∧ Scanned units

/-- The rest of the stream behind each marker, where a long marker is sighted at both of its
first two symbols. -/
def sightings : List α → List (List α)
  | [] => []
  | symbol :: rest =>
    ((front zero one (symbol :: rest)).map fun marker =>
      (symbol :: rest).drop marker.length).toList ++ sightings rest

variable {zero one}

@[simp] theorem front_nil : front zero one [] = none := rfl

theorem front_symbols (hne : zero ≠ one) (marker : Marker) (rest : List α) :
    front zero one (marker.symbols zero one ++ rest) = some marker := by
  cases marker with
  | short => simp [front, symbols, hne.symm]
  | long => simp [front, symbols]

theorem front_one (hne : zero ≠ one) (rest : List α) : front zero one (one :: rest) = none := by
  simp [front, symbols, hne.symm]

theorem front_zero_one (hne : zero ≠ one) (rest : List α) :
    front zero one (zero :: one :: rest) = none := by
  simp [front, symbols, hne.symm]

theorem front_eq_some {stream : List α} {marker : Marker}
    (h : front zero one stream = some marker) :
    ∃ rest, stream = marker.symbols zero one ++ rest := by
  rw [front] at h
  split at h
  · rename_i hlong
    cases h
    exact ⟨stream.drop 4, by rw [← hlong, List.take_append_drop]⟩
  · split at h
    · rename_i hshort
      cases h
      exact ⟨stream.drop 3, by rw [← hshort, List.take_append_drop]⟩
    · cases h

theorem front_map {β : Type} [DecidableEq β] {f : α → β} (hf : Function.Injective f)
    (stream : List α) :
    front (f zero) (f one) (stream.map f) = front zero one stream := by
  have hlong : (stream.map f).take 4 = long.symbols (f zero) (f one) ↔
      stream.take 4 = long.symbols zero one := by
    rw [← symbols_map, ← List.map_take, (List.map_injective_iff.mpr hf).eq_iff]
  have hshort : (stream.map f).take 3 = short.symbols (f zero) (f one) ↔
      stream.take 3 = short.symbols zero one := by
    rw [← symbols_map, ← List.map_take, (List.map_injective_iff.mpr hf).eq_iff]
  simp only [front, hlong, hshort]

theorem clear_nil (rest : List α) : Clear zero one [] rest := fun _ h => absurd h (Nat.not_lt_zero _)

theorem clear_cons {symbol : α} {unit rest : List α} :
    Clear zero one (symbol :: unit) rest ↔
      front zero one (symbol :: (unit ++ rest)) = none ∧ Clear zero one unit rest := by
  constructor
  · intro h
    constructor
    · exact h 0 (Nat.succ_pos _)
    · intro i hi
      exact h (i + 1) (Nat.succ_lt_succ hi)
  · intro h i hi
    cases i with
    | zero => exact h.1
    | succ i => exact h.2 i (Nat.lt_of_succ_lt_succ hi)

/-- A clear unit holds no short marker. -/
theorem Clear.not_infix (hne : zero ≠ one) {unit rest : List α} (h : Clear zero one unit rest) :
    ¬short.symbols zero one <:+: unit := by
  intro hinfix
  obtain ⟨before, after, rfl⟩ := hinfix
  have hroom : before.length < (before ++ short.symbols zero one ++ after).length := by
    simp only [List.length_append, symbols_length, length]
    omega
  have hnone := h before.length hroom
  rw [List.append_assoc, List.append_assoc, List.drop_left, front_symbols hne] at hnone
  cases hnone

/-- A unit without a short marker that does not end in a zero is clear in every stream. -/
theorem clear_of_not_infix {unit : List α} (hunit : ¬short.symbols zero one <:+: unit)
    (hlast : unit.getLast? ≠ some zero) (rest : List α) : Clear zero one unit rest := by
  intro i hi
  cases hfront : front zero one ((unit ++ rest).drop i) with
  | none => rfl
  | some marker =>
    exfalso
    obtain ⟨tail, htail⟩ := front_eq_some hfront
    rw [List.drop_append_of_le_length hi.le] at htail
    have hpart : unit.drop i ≠ [] := by
      rw [← List.length_pos_iff, List.length_drop]
      omega
    have hwhole : ¬marker.symbols zero one <+: unit.drop i := by
      intro hstart
      apply hunit
      exact (short_infix_symbols zero one marker).trans
        (hstart.isInfix.trans (List.drop_suffix i unit).isInfix)
    rcases List.prefix_or_prefix_of_prefix (List.prefix_append _ tail)
      (htail ▸ List.prefix_append (unit.drop i) rest) with hstart | hstart
    · exact hwhole hstart
    · apply hlast
      rw [← getLast?_of_prefix_symbols hstart hpart
        fun h => hwhole (h ▸ List.prefix_rfl), List.getLast?_drop, if_neg (by omega)]

theorem scanned_of_not_infix {units : List (Marker × List α)}
    (hunits : ∀ unit ∈ units, ¬short.symbols zero one <:+: unit.2 ∧
      unit.2.getLast? ≠ some zero) : Scanned zero one units := by
  induction units with
  | nil => trivial
  | cons unit units ih =>
    have hunit := hunits unit List.mem_cons_self
    constructor
    · exact clear_of_not_infix hunit.1 hunit.2 _
    · exact ih fun other hother => hunits other (List.mem_cons_of_mem _ hother)

theorem Scanned.clear {units : List (Marker × List α)} (h : Scanned zero one units)
    {unit : Marker × List α} (hmem : unit ∈ units) : ∃ rest, Clear zero one unit.2 rest := by
  induction units with
  | nil => cases hmem
  | cons head units ih =>
    rcases List.mem_cons.mp hmem with rfl | hrest
    · exact ⟨_, h.1⟩
    · exact ih h.2 hrest

/-- Every stream splits into a clear front and scanned units. -/
theorem exists_scanned (zero one : α) (stream : List α) :
    ∃ unit units, stream = unit ++ join zero one units ∧
      Clear zero one unit (join zero one units) ∧ Scanned zero one units := by
  induction hlength : stream.length using Nat.strongRecOn generalizing stream with
  | _ n ih =>
    cases hfront : front zero one stream with
    | some marker =>
      obtain ⟨rest, rfl⟩ := front_eq_some hfront
      have hshorter : rest.length < n := by
        rw [← hlength, List.length_append, symbols_length]
        cases marker <;> simp [length]
      obtain ⟨unit, units, rfl, hclear, hscanned⟩ := ih rest.length hshorter rest rfl
      refine ⟨[], (marker, unit) :: units, ?_, clear_nil _, hclear, hscanned⟩
      rw [join_cons, List.nil_append]
    | none =>
      cases stream with
      | nil => exact ⟨[], [], rfl, clear_nil _, trivial⟩
      | cons symbol rest =>
        obtain ⟨unit, units, rfl, hclear, hscanned⟩ := ih rest.length
          (by rw [← hlength]; exact Nat.lt_succ_self _) rest rfl
        exact ⟨symbol :: unit, units, rfl, clear_cons.mpr ⟨hfront, hclear⟩, hscanned⟩

theorem Clear.map {β : Type} [DecidableEq β] {f : α → β} (hf : Function.Injective f)
    {unit rest : List α} (h : Clear zero one unit rest) :
    Clear (f zero) (f one) (unit.map f) (rest.map f) := by
  intro i hi
  rw [← List.map_append, ← List.map_drop, front_map hf]
  exact h i (by rwa [List.length_map] at hi)

theorem Scanned.map {β : Type} [DecidableEq β] {f : α → β} (hf : Function.Injective f)
    {units : List (Marker × List α)} (h : Scanned zero one units) :
    Scanned (f zero) (f one) (units.map fun unit => (unit.1, unit.2.map f)) := by
  induction units with
  | nil => trivial
  | cons unit units ih =>
    constructor
    · rw [← join_map]
      exact h.1.map hf
    · exact ih h.2

theorem sightings_clear {unit rest : List α} (h : Clear zero one unit rest) :
    sightings zero one (unit ++ rest) = sightings zero one rest := by
  induction unit with
  | nil => rfl
  | cons symbol unit ih =>
    have hclear := clear_cons.mp h
    rw [List.cons_append, sightings, hclear.1]
    exact ih hclear.2

theorem mem_sightings_symbols (hne : zero ≠ one) (marker : Marker) {rest tail : List α} :
    tail ∈ sightings zero one (marker.symbols zero one ++ rest) ↔
      tail = rest ∨ tail ∈ sightings zero one rest := by
  have hshort : ∀ tail, tail ∈ sightings zero one (short.symbols zero one ++ rest) ↔
      tail = rest ∨ tail ∈ sightings zero one rest := by
    intro tail
    have hfront := front_symbols hne short rest
    simp only [symbols, List.cons_append, List.nil_append] at hfront ⊢
    simp [sightings, hfront, front_zero_one hne, front_one hne, length]
  cases marker with
  | short => exact hshort tail
  | long =>
    have hfront := front_symbols hne long rest
    have hlong : long.symbols zero one ++ rest = zero :: (short.symbols zero one ++ rest) := rfl
    rw [hlong, sightings, ← hlong, hfront, List.mem_append, hshort]
    simp [symbols, length]

end Marker

end Framework
