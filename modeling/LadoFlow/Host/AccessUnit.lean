import LadoFlow.Framework.BigEndian
import LadoFlow.Framework.Loop
import LadoFlow.Framework.Marker

/-!
# Encoded access units of the host

The encoder output is marked as a keyframe by its clean point or by an IDR unit in its bytes. The
NAL units are counted by a loop that jumps behind each start code; their types are read at every
index where a start code begins, so that a long start code is read twice.
-/

namespace LadoFlow.Host

open Framework

/-- The loop stands at an index with the start codes counted so far. -/
structure NalCount where
  index : Nat
  count : Nat

def countStep (bytes : Bytes) (state : NalCount) : NalCount ⊕ Nat :=
  if state.index + 3 ≤ bytes.length then
    if state.index + 4 ≤ bytes.length ∧ (bytes.drop state.index).take 4 = [0, 0, 0, 1] then
      .inl ⟨state.index + 4, state.count + 1⟩
    else if (bytes.drop state.index).take 3 = [0, 0, 1] then
      .inl ⟨state.index + 3, state.count + 1⟩
    else .inl ⟨state.index + 1, state.count⟩
  else .inr state.count

def countLoop (bytes : Bytes) : Loop NalCount Nat where
  step := countStep bytes
  measure state := bytes.length - state.index
  decreases := by
    intro state next h
    rw [countStep] at h
    split at h
    · split at h
      · cases h
        simp only
        omega
      · split at h <;> cases h <;> simp only <;> omega
    · cases h

def countAnnexBNalUnits (bytes : Bytes) : Nat := (countLoop bytes).run ⟨0, 0⟩

/-- The index behind a start code. -/
def payloadIndex (bytes : Bytes) (index : Nat) : Option Nat :=
  if (bytes.drop index).take 4 = [0, 0, 0, 1] then some (index + 4)
  else if (bytes.drop index).take 3 = [0, 0, 1] then some (index + 3)
  else none

def annexBNalTypes (bytes : Bytes) : List UInt8 :=
  (List.range bytes.length).filterMap fun index => do
    let payloadIndex ← payloadIndex bytes index
    let header ← bytes[payloadIndex]?
    pure (header &&& 0x1f)

def annexBContainsIdr (bytes : Bytes) : Bool := (annexBNalTypes bytes).any (· == 5)

/-- An encoder output sample as the runtime hands it out. -/
structure MediaSample where
  bytes : Except String Bytes
  cleanPoint : Option UInt32
  sampleTime : Option Int64
  sampleDuration : Option Int64

structure EncodedAccessUnit where
  bytes : Bytes
  timestamp100ns : Option Int64
  duration100ns : Option Int64
  keyframe : Bool
  deriving DecidableEq

namespace MediaSample

def isCleanPoint (sample : MediaSample) : Bool := sample.cleanPoint.any (· ≠ 0)

def readAccessUnit (sample : MediaSample) : Except String EncodedAccessUnit := do
  let bytes ← sample.bytes
  pure
    { bytes
      timestamp100ns := sample.sampleTime
      duration100ns := sample.sampleDuration
      keyframe := sample.isCleanPoint || annexBContainsIdr bytes }

end MediaSample

theorem zero_ne_one : (0 : UInt8) ≠ 1 := by decide

/-- The loop jumps behind the marker at its index. -/
theorem countStep_front {bytes : Bytes} {index count : Nat} {marker : Marker}
    (h : Marker.front 0 1 (bytes.drop index) = some marker) :
    countStep bytes ⟨index, count⟩ = .inl ⟨index + marker.length, count + 1⟩ := by
  have hroom : index + marker.length ≤ bytes.length := by
    obtain ⟨rest, hrest⟩ := Marker.front_eq_some h
    have hlength := congrArg List.length hrest
    rw [List.length_drop, List.length_append, Marker.symbols_length] at hlength
    have hpos : 0 < marker.length := by cases marker <;> decide
    omega
  rw [Marker.front] at h
  split at h
  · rename_i hlong
    cases h
    change index + 4 ≤ bytes.length at hroom
    simp only [countStep]
    rw [if_pos (by omega), if_pos ⟨hroom, hlong⟩]
    rfl
  · rename_i hlong
    split at h
    · rename_i hshort
      cases h
      change index + 3 ≤ bytes.length at hroom
      change (bytes.drop index).take 3 = [0, 0, 1] at hshort
      simp only [countStep]
      rw [if_pos hroom, if_neg fun hboth => hlong hboth.2, if_pos hshort]
      rfl
    · cases h

/-- The loop passes over an index without a marker. -/
theorem countLoop_skip {bytes : Bytes} {index count : Nat}
    (h : Marker.front 0 1 (bytes.drop index) = none) :
    (countLoop bytes).run ⟨index, count⟩ = (countLoop bytes).run ⟨index + 1, count⟩ := by
  have hnone : ¬(bytes.drop index).take 4 = [0, 0, 0, 1] ∧
      ¬(bytes.drop index).take 3 = [0, 0, 1] := by
    rw [Marker.front] at h
    split at h
    · cases h
    · split at h
      · cases h
      · exact ⟨‹_›, ‹_›⟩
  by_cases hroom : index + 3 ≤ bytes.length
  · apply (countLoop bytes).run_inl
    simp [countLoop, countStep, hroom, hnone.1, hnone.2]
  · have hdone : ∀ index', index ≤ index' → (countLoop bytes).run ⟨index', count⟩ = count := by
      intro index' hle
      apply (countLoop bytes).run_inr
      have hout : ¬index' + 3 ≤ bytes.length := by omega
      simp [countLoop, countStep, hout]
    rw [hdone index le_rfl, hdone (index + 1) (Nat.le_succ _)]

theorem countLoop_clear {bytes before unit rest : Bytes} {count : Nat}
    (hsplit : bytes = before ++ (unit ++ rest)) (hclear : Marker.Clear 0 1 unit rest) :
    (countLoop bytes).run ⟨before.length, count⟩ =
      (countLoop bytes).run ⟨before.length + unit.length, count⟩ := by
  induction unit generalizing before with
  | nil => rfl
  | cons byte unit ih =>
    have hfront := Marker.clear_cons.mp hclear
    rw [countLoop_skip (by rw [hsplit, List.drop_left]; exact hfront.1)]
    have hrest := @ih (before ++ [byte]) (by rw [hsplit]; simp) hfront.2
    rw [List.length_append, List.length_singleton] at hrest
    rw [hrest, List.length_cons, Nat.add_assoc, Nat.add_comm 1]

/-- The loop counts the markers of scanned units. -/
theorem countLoop_run {bytes before unit : Bytes} {units : List (Marker × Bytes)} {count : Nat}
    (hsplit : bytes = before ++ (unit ++ Marker.join 0 1 units))
    (hclear : Marker.Clear 0 1 unit (Marker.join 0 1 units)) (hscanned : Marker.Scanned 0 1 units) :
    (countLoop bytes).run ⟨before.length, count⟩ = count + units.length := by
  rw [countLoop_clear hsplit hclear]
  induction units generalizing before unit count with
  | nil =>
    apply (countLoop bytes).run_inr
    have hlength : bytes.length = before.length + unit.length := by rw [hsplit]; simp
    have hout : ¬before.length + unit.length + 3 ≤ bytes.length := by omega
    simp [countLoop, countStep, hout]
  | cons next units ih =>
    obtain ⟨marker, later⟩ := next
    rw [Marker.join_cons] at hsplit
    have hfront : Marker.front 0 1 (bytes.drop (before.length + unit.length)) = some marker := by
      rw [hsplit, ← List.append_assoc, ← List.length_append, List.drop_left]
      exact Marker.front_symbols zero_ne_one marker _
    have hbefore : (before ++ unit ++ marker.symbols 0 1).length =
        before.length + unit.length + marker.length := by
      simp [Nat.add_assoc]
    have hlater : bytes =
        before ++ unit ++ marker.symbols 0 1 ++ (later ++ Marker.join 0 1 units) := by
      rw [hsplit]
      simp only [List.append_assoc]
    rw [(countLoop bytes).run_inl (countStep_front hfront), ← hbefore,
      countLoop_clear hlater hscanned.1, ih hlater hscanned.1 hscanned.2, List.length_cons]
    omega

theorem countAnnexBNalUnits_join {units : List (Marker × Bytes)}
    (hscanned : Marker.Scanned 0 1 units) :
    countAnnexBNalUnits (Marker.join 0 1 units) = units.length := by
  have hrun := @countLoop_run _ [] [] units 0 rfl (Marker.clear_nil _) hscanned
  rwa [Nat.zero_add] at hrun

/-- The types are read behind each sighted marker. -/
theorem annexBNalTypes_eq (bytes : Bytes) :
    annexBNalTypes bytes =
      (Marker.sightings 0 1 bytes).filterMap fun rest => rest.head?.map (· &&& 0x1f) := by
  have hindex : ∀ bytes : Bytes, ∀ index : Nat,
      (payloadIndex bytes index).bind (fun payloadIndex =>
        bytes[payloadIndex]?.map (· &&& 0x1f)) =
      (Marker.front 0 1 (bytes.drop index)).bind fun marker =>
        ((bytes.drop index).drop marker.length).head?.map (· &&& 0x1f) := by
    intro bytes index
    rw [payloadIndex, Marker.front]
    simp only [Marker.symbols]
    by_cases hlong : (bytes.drop index).take 4 = [0, 0, 0, 1]
    · simp [hlong, Marker.length, List.head?_drop]
    · by_cases hshort : (bytes.drop index).take 3 = [0, 0, 1]
      · simp [hlong, hshort, Marker.length, List.head?_drop]
      · simp [hlong, hshort]
  have htypes : ∀ bytes : Bytes, annexBNalTypes bytes =
      (List.range bytes.length).filterMap fun index =>
        (Marker.front 0 1 (bytes.drop index)).bind fun marker =>
          ((bytes.drop index).drop marker.length).head?.map (· &&& 0x1f) := by
    intro bytes
    rw [annexBNalTypes]
    congr 1
    funext index
    rw [← hindex]
    cases payloadIndex bytes index with
    | none => rfl
    | some payload => cases hheader : bytes[payload]? <;> simp [hheader]
  rw [htypes]
  induction bytes with
  | nil => rfl
  | cons byte bytes ih =>
    rw [List.length_cons, List.range_succ_eq_map, List.filterMap_cons, List.filterMap_map,
      Marker.sightings, List.filterMap_append, ← ih]
    simp only [List.drop_zero]
    cases Marker.front 0 1 (byte :: bytes) with
    | none => rfl
    | some marker =>
      simp only [Option.bind_some, Option.map_some, Option.toList_some, List.filterMap_cons,
        List.filterMap_nil]
      cases ((byte :: bytes).drop marker.length).head?.map (· &&& 0x1f) <;> rfl

/-- The types in the bytes of scanned units are the types of their first bytes. -/
theorem mem_annexBNalTypes_join {units : List (Marker × Bytes)} {type : UInt8}
    (hscanned : Marker.Scanned 0 1 units) (hunits : ∀ unit ∈ units, unit.2 ≠ []) :
    type ∈ annexBNalTypes (Marker.join 0 1 units) ↔
      ∃ unit ∈ units, unit.2.head?.map (· &&& 0x1f) = some type := by
  induction units with
  | nil => simp [annexBNalTypes]
  | cons unit units ih =>
    obtain ⟨marker, payload⟩ := unit
    have hrest := ih hscanned.2 fun other hother => hunits other (List.mem_cons_of_mem _ hother)
    rw [annexBNalTypes_eq, List.mem_filterMap] at hrest
    have hhead : (payload ++ Marker.join 0 1 units).head? = payload.head? := by
      cases payload with
      | nil => exact absurd rfl (hunits _ List.mem_cons_self)
      | cons first rest => rfl
    simp only [annexBNalTypes_eq, Marker.join_cons, List.mem_filterMap,
      Marker.mem_sightings_symbols zero_ne_one, Marker.sightings_clear hscanned.1, or_and_right,
      exists_or, exists_eq_left, hhead, hrest, List.mem_cons]

end LadoFlow.Host
