import LadoFlow.Android.H264AnnexB
import LadoFlow.Framework.Marker

/-!
# The grammar of Annex-B access units

The inspection reads an access unit as start codes and the NAL units behind them. It accepts
exactly the concatenations whose units have a valid header, and finds again every unit that holds
no start code of its own.
-/

namespace LadoFlow.Android

open Framework

/-- The first byte is there, clears the forbidden bit and has a specified type. -/
def ValidNalHeader (nal : SignedBytes) : Prop :=
  ∃ first, nal.head? = some first ∧ first.toInt32 &&& forbiddenZeroBit = 0 ∧
    first.toInt32 &&& nalTypeMask ≠ 0

/-- A NAL unit that survives framing: nothing in it looks like a start code and no zero of it is
lost to the start code that follows. -/
structure WellFormedNal (nal : SignedBytes) : Prop where
  header : ValidNalHeader nal
  noStartCode : ¬[0, 0, 1] <:+: nal
  noTrailingZero : nal.getLast? ≠ some 0

/-- The last unit of a type. -/
def lastOfType (type : Int32) (nals : List SignedBytes) : Option SignedBytes :=
  (nals.filter fun nal => nalTypeOf nal = some type).getLast?

/-- What the inspection says about the NAL units of an access unit. -/
structure H264AnnexBInspection.Reports (inspection : H264AnnexBInspection)
    (nals : List SignedBytes) : Prop where
  types : inspection.nalUnitTypes.map some = nals.map nalTypeOf
  sequenceParameterSet :
    inspection.sequenceParameterSet.map (·.bytes) = lastOfType nalTypeSps nals
  pictureParameterSet :
    inspection.pictureParameterSet.map (·.bytes) = lastOfType nalTypePps nals
  containsVcl : inspection.containsVcl = true ↔
    ∃ type ∈ inspection.nalUnitTypes, nalTypeNonIdrSlice ≤ type ∧ type ≤ nalTypeIdrSlice
  containsIdr : inspection.containsIdr = true ↔ nalTypeIdrSlice ∈ inspection.nalUnitTypes

theorem lastOfType_append (type : Int32) (nals : List SignedBytes) (nal : SignedBytes) :
    lastOfType type (nals ++ [nal]) =
      if nalTypeOf nal = some type then some nal else lastOfType type nals := by
  rw [lastOfType, List.filter_append]
  by_cases h : nalTypeOf nal = some type
  · simp [h]
  · simp [h, lastOfType]

namespace H264AnnexB

/-- The header byte behind the widening mask. -/
theorem header_masks (first : Int8) :
    first.toInt32 &&& 0xff &&& forbiddenZeroBit = first.toInt32 &&& forbiddenZeroBit ∧
      first.toInt32 &&& 0xff &&& nalTypeMask = first.toInt32 &&& nalTypeMask := by
  constructor <;> rw [Int32.and_assoc] <;> rfl

theorem addNal_eq_ok {before after : H264AnnexBInspection} {nal : SignedBytes}
    (h : addNal before nal = .ok after) : ValidNalHeader nal := by
  cases nal with
  | nil => cases h
  | cons first rest =>
    have hmasks := header_masks first
    simp only [addNal, hmasks.1, hmasks.2] at h
    split at h
    · cases h
    · rename_i hforbidden
      split at h
      · cases h
      · rename_i htype
        exact ⟨first, rfl, not_not.mp hforbidden, htype⟩

/-- A unit with a valid header is added to the report. -/
theorem addNal_reports {before : H264AnnexBInspection} {nals : List SignedBytes}
    {nal : SignedBytes} (hreports : before.Reports nals) (hvalid : ValidNalHeader nal) :
    ∃ after, addNal before nal = .ok after ∧ after.Reports (nals ++ [nal]) := by
  obtain ⟨first, hhead, hforbidden, htype⟩ := hvalid
  cases nal with
  | nil => cases hhead
  | cons first rest =>
    cases hhead
    have hmasks := header_masks first
    have hnalType : nalTypeOf (first :: rest) = some (first.toInt32 &&& nalTypeMask) := rfl
    simp only [addNal, hmasks.1, hmasks.2, hforbidden, htype, ne_eq, not_true_eq_false, if_false]
    refine ⟨_, rfl, ?_, ?_, ?_, ?_, ?_⟩
    · simp [hreports.types, hnalType]
    · rw [lastOfType_append, ← hreports.sequenceParameterSet]
      by_cases h : nalTypeOf (first :: rest) = some nalTypeSps <;> simp [h]
    · rw [lastOfType_append, ← hreports.pictureParameterSet]
      by_cases h : nalTypeOf (first :: rest) = some nalTypePps <;> simp [h]
    · simp [hreports.containsVcl, or_and_right, exists_or]
    · simp only [Bool.or_eq_true, beq_iff_eq, List.mem_append, List.mem_singleton,
        hreports.containsIdr]
      exact or_congr Iff.rfl eq_comm

/-- The inspection of the NAL units alone. -/
def addNals (inspection : H264AnnexBInspection) (nals : List SignedBytes) :
    Except String H264AnnexBInspection :=
  nals.foldlM addNal inspection

theorem addNals_cons (inspection : H264AnnexBInspection) (nal : SignedBytes)
    (nals : List SignedBytes) :
    addNals inspection (nal :: nals) =
      addNal inspection nal >>= fun next => addNals next nals := by
  rw [addNals, List.foldlM_cons]
  rfl

theorem addNals_reports {before : H264AnnexBInspection} {earlier nals : List SignedBytes}
    (hreports : before.Reports earlier) (hvalid : ∀ nal ∈ nals, ValidNalHeader nal) :
    ∃ after, addNals before nals = .ok after ∧ after.Reports (earlier ++ nals) := by
  induction nals generalizing before earlier with
  | nil => exact ⟨before, rfl, by rwa [List.append_nil]⟩
  | cons nal nals ih =>
    obtain ⟨next, hadd, hnext⟩ := addNal_reports hreports (hvalid nal List.mem_cons_self)
    obtain ⟨after, hrest, hafter⟩ := ih hnext fun other hother =>
      hvalid other (List.mem_cons_of_mem _ hother)
    refine ⟨after, ?_, ?_⟩
    · rw [addNals_cons, hadd]
      exact hrest
    · rwa [List.append_assoc] at hafter

theorem addNals_eq_ok {before after : H264AnnexBInspection} {nals : List SignedBytes}
    (h : addNals before nals = .ok after) : ∀ nal ∈ nals, ValidNalHeader nal := by
  induction nals generalizing before with
  | nil => exact fun nal hnal => absurd hnal List.not_mem_nil
  | cons nal nals ih =>
    rw [addNals_cons] at h
    obtain ⟨next, hadd, hrest⟩ := bind_eq_ok.mp h
    intro other hother
    rcases List.mem_cons.mp hother with rfl | hlater
    · exact addNal_eq_ok hadd
    · exact ih hrest other hlater

theorem reports_empty : emptyInspection.Reports [] where
  types := rfl
  sequenceParameterSet := rfl
  pictureParameterSet := rfl
  containsVcl := by simp [emptyInspection]
  containsIdr := by simp [emptyInspection]

/-- The start code at the front is the marker at the front. -/
theorem startCodeAt_eq (offset : Nat) (bytes : SignedBytes) :
    (startCodeAt offset bytes).map (fun startCode => (startCode.offset, startCode.length)) =
      (Marker.front 0 1 bytes).map fun marker => (offset, marker.length) := by
  rw [startCodeAt, Marker.front]
  simp only [Marker.symbols]
  by_cases hlong : bytes.take 4 = [0, 0, 0, 1]
  · simp [hlong, Marker.length]
  · by_cases hshort : bytes.take 3 = [0, 0, 1] <;> simp [hlong, hshort, Marker.length]

theorem startCodeAt_of_front {offset : Nat} {bytes : SignedBytes} {marker : Marker}
    (h : Marker.front 0 1 bytes = some marker) :
    ∃ startCode, startCodeAt offset bytes = some startCode ∧ startCode.offset = offset ∧
      startCode.length = marker.length := by
  have heq := startCodeAt_eq offset bytes
  rw [h] at heq
  cases hcode : startCodeAt offset bytes with
  | none => rw [hcode] at heq; cases heq
  | some startCode =>
    rw [hcode] at heq
    simp only [Option.map_some, Option.some.injEq, Prod.mk.injEq] at heq
    exact ⟨startCode, rfl, heq⟩

theorem startCodeAt_of_front_none {offset : Nat} {bytes : SignedBytes}
    (h : Marker.front 0 1 bytes = none) : startCodeAt offset bytes = none := by
  have heq := startCodeAt_eq offset bytes
  rw [h] at heq
  exact Option.map_eq_none_iff.mp heq

/-- The search passes over clear bytes. -/
theorem scanStartCode_clear {offset : Nat} {nal rest : SignedBytes}
    (h : Marker.Clear 0 1 nal rest) :
    scanStartCode offset (nal ++ rest) = scanStartCode (offset + nal.length) rest := by
  induction nal generalizing offset with
  | nil => rfl
  | cons byte nal ih =>
    have hclear := Marker.clear_cons.mp h
    rw [List.cons_append, scanStartCode, startCodeAt_of_front_none hclear.1]
    simp only
    rw [ih hclear.2, List.length_cons, Nat.add_assoc, Nat.add_comm 1]

theorem zero_ne_one : (0 : Int8) ≠ 1 := by decide

theorem scanStartCode_symbols (offset : Nat) (marker : Marker) (rest : SignedBytes) :
    ∃ startCode, scanStartCode offset (marker.symbols 0 1 ++ rest) = some startCode ∧
      startCode.offset = offset ∧ startCode.length = marker.length := by
  have hfront := Marker.front_symbols zero_ne_one marker rest
  obtain ⟨startCode, hcode, hstart⟩ := @startCodeAt_of_front offset _ _ hfront
  refine ⟨startCode, ?_, hstart⟩
  cases hbytes : marker.symbols 0 1 ++ rest with
  | nil => rw [hbytes] at hfront; cases hfront
  | cons byte bytes => rw [scanStartCode, ← hbytes, hcode]

/-- The bytes between a start code and the next one. -/
theorem nal_at {accessUnit before nal rest : SignedBytes} {marker : Marker} {startCode : StartCode}
    (hsplit : accessUnit = before ++ (marker.symbols 0 1 ++ (nal ++ rest)))
    (hoffset : startCode.offset = before.length) (hlength : startCode.length = marker.length) :
    accessUnit.drop (startCode.offset + startCode.length) = nal ++ rest := by
  rw [hsplit, hoffset, hlength, ← List.append_assoc,
    List.drop_left' (by rw [List.length_append, Marker.symbols_length])]

/-- The last unit ends the loop. -/
theorem scanStep_last {accessUnit before nal : SignedBytes} {marker : Marker} {scan : Scan}
    (hsplit : accessUnit = before ++ (marker.symbols 0 1 ++ (nal ++ [])))
    (hoffset : scan.startCode.offset = before.length)
    (hlength : scan.startCode.length = marker.length) (hclear : Marker.Clear 0 1 nal []) :
    scanStep accessUnit scan = .inr (addNal scan.inspection nal) := by
  have hdrop := nal_at hsplit hoffset hlength
  have hnext : findStartCode accessUnit (scan.startCode.offset + scan.startCode.length) = none := by
    rw [findStartCode, hdrop, scanStartCode_clear hclear]
    rfl
  have hend : accessUnit.length - (scan.startCode.offset + scan.startCode.length) = nal.length := by
    rw [← List.length_drop, hdrop, List.append_nil]
  simp only [scanStep, hnext, hdrop, Option.map_none, Option.getD_none, hend, List.append_nil,
    List.take_length]
  cases addNal scan.inspection nal <;> rfl

/-- Every other unit ends where the next start code is found. -/
theorem scanStep_next {accessUnit before nal rest : SignedBytes} {marker next : Marker} {scan : Scan}
    (hsplit : accessUnit =
      before ++ (marker.symbols 0 1 ++ (nal ++ (next.symbols 0 1 ++ rest))))
    (hoffset : scan.startCode.offset = before.length)
    (hlength : scan.startCode.length = marker.length)
    (hclear : Marker.Clear 0 1 nal (next.symbols 0 1 ++ rest)) :
    ∃ startCode : StartCode, startCode.offset = before.length + marker.length + nal.length ∧
      startCode.length = next.length ∧
      (∀ message, addNal scan.inspection nal = .error message →
        scanStep accessUnit scan = .inr (.error message)) ∧
      ∀ inspection, addNal scan.inspection nal = .ok inspection →
        scanStep accessUnit scan = .inl ⟨startCode, inspection⟩ := by
  have hdrop := nal_at hsplit hoffset hlength
  obtain ⟨startCode, hcode, hstart, hlong⟩ := scanStartCode_symbols
    (scan.startCode.offset + scan.startCode.length + nal.length) next rest
  have hnext : findStartCode accessUnit (scan.startCode.offset + scan.startCode.length) =
      some startCode := by
    rw [findStartCode, hdrop, scanStartCode_clear hclear, hcode]
  have hend : startCode.offset - (scan.startCode.offset + scan.startCode.length) = nal.length := by
    omega
  refine ⟨startCode, by rw [hstart, hoffset, hlength], hlong, ?_, ?_⟩
  · intro message hadd
    simp [scanStep, hnext, hdrop, hend, hadd]
  · intro inspection hadd
    simp [scanStep, hnext, hdrop, hend, hadd]

/-- The loop at a start code adds the units behind it, one after the other. -/
theorem scanLoop_run {accessUnit before nal : SignedBytes} {marker : Marker}
    {units : List (Marker × SignedBytes)} {scan : Scan}
    (hsplit : accessUnit = before ++ (marker.symbols 0 1 ++ (nal ++ Marker.join 0 1 units)))
    (hoffset : scan.startCode.offset = before.length)
    (hlength : scan.startCode.length = marker.length)
    (hclear : Marker.Clear 0 1 nal (Marker.join 0 1 units)) (hscanned : Marker.Scanned 0 1 units) :
    (scanLoop accessUnit).run scan = addNals scan.inspection (nal :: units.map (·.2)) := by
  induction units generalizing before marker nal scan with
  | nil =>
    rw [(scanLoop accessUnit).run_inr (scanStep_last hsplit hoffset hlength hclear), addNals_cons]
    cases addNal scan.inspection nal <;> rfl
  | cons unit units ih =>
    obtain ⟨next, later⟩ := unit
    rw [Marker.join_cons] at hsplit hclear
    obtain ⟨startCode, hstart, hlong, hstops, hgoes⟩ := scanStep_next hsplit hoffset hlength hclear
    rw [addNals_cons]
    cases hadd : addNal scan.inspection nal with
    | error message =>
      rw [(scanLoop accessUnit).run_inr (hstops message hadd)]
      rfl
    | ok inspection =>
      rw [(scanLoop accessUnit).run_inl (hgoes inspection hadd)]
      apply @ih (before ++ (marker.symbols 0 1 ++ nal)) later next
      · rw [hsplit]
        simp only [List.append_assoc]
      · simp only [hstart, List.length_append, Marker.symbols_length]
        omega
      · exact hlong
      · exact hscanned.1
      · exact hscanned.2

/-- The inspection of scanned units is the inspection of the NAL units alone. -/
theorem inspect_join {units : List (Marker × SignedBytes)} (hunits : units ≠ [])
    (hscanned : Marker.Scanned 0 1 units) :
    inspect (Marker.join 0 1 units) = addNals emptyInspection (units.map (·.2)) := by
  cases units with
  | nil => exact absurd rfl hunits
  | cons unit units =>
    obtain ⟨marker, nal⟩ := unit
    obtain ⟨startCode, hcode, hstart, hlong⟩ :=
      scanStartCode_symbols 0 marker (nal ++ Marker.join 0 1 units)
    have hfind : findStartCode (Marker.join 0 1 ((marker, nal) :: units)) 0 = some startCode := by
      rw [findStartCode, List.drop_zero, Marker.join_cons, hcode]
    have hne : Marker.join 0 1 ((marker, nal) :: units) ≠ [] := by
      rw [Marker.join_cons]
      cases marker <;> exact List.cons_ne_nil _ _
    rw [inspect, if_neg hne, hfind]
    simp only [hstart, ne_eq, not_true_eq_false, if_false]
    exact @scanLoop_run _ [] _ _ _ _ (by rw [Marker.join_cons]; rfl) hstart hlong hscanned.1
      hscanned.2

/-- An accepted access unit begins with a start code and splits into scanned units. -/
theorem exists_units {accessUnit : SignedBytes} {inspection : H264AnnexBInspection}
    (h : inspect accessUnit = .ok inspection) :
    ∃ units, units ≠ [] ∧ accessUnit = Marker.join 0 1 units ∧ Marker.Scanned 0 1 units := by
  obtain ⟨nal, units, hsplit, hclear, hscanned⟩ := Marker.exists_scanned 0 1 accessUnit
  have hfind : findStartCode accessUnit 0 = scanStartCode nal.length (Marker.join 0 1 units) := by
    rw [findStartCode, List.drop_zero, hsplit, scanStartCode_clear hclear, Nat.zero_add]
  rw [inspect] at h
  split at h
  · cases h
  · cases units with
    | nil =>
      rw [hfind] at h
      cases h
    | cons unit units =>
      obtain ⟨marker, later⟩ := unit
      obtain ⟨startCode, hcode, hstart, -⟩ :=
        scanStartCode_symbols nal.length marker (later ++ Marker.join 0 1 units)
      rw [hfind, Marker.join_cons, hcode] at h
      simp only [hstart] at h
      split at h
      · cases h
      · rename_i hzero
        have hnil := List.length_eq_zero_iff.mp (not_not.mp hzero)
        subst hnil
        exact ⟨(marker, later) :: units, List.cons_ne_nil _ _, hsplit, hscanned⟩

/-- Well-formed NAL units behind any start codes are reported exactly, and whatever is accepted is
the concatenation of start codes and the reported units, each with a valid header. -/
theorem inspect_exact :
    (∀ units : List (Marker × SignedBytes), units ≠ [] → (∀ unit ∈ units, WellFormedNal unit.2) →
      ∃ inspection, inspect (Marker.join 0 1 units) = .ok inspection ∧
        inspection.Reports (units.map (·.2))) ∧
    ∀ (accessUnit : SignedBytes) (inspection : H264AnnexBInspection),
      inspect accessUnit = .ok inspection →
      ∃ units : List (Marker × SignedBytes), units ≠ [] ∧ accessUnit = Marker.join 0 1 units ∧
        inspection.Reports (units.map (·.2)) ∧
        ∀ unit ∈ units, ValidNalHeader unit.2 ∧ ¬[0, 0, 1] <:+: unit.2 := by
  constructor
  · intro units hunits hwell
    have hscanned : Marker.Scanned (0 : Int8) 1 units := by
      apply Marker.scanned_of_not_infix
      intro unit hunit
      exact ⟨(hwell unit hunit).noStartCode, (hwell unit hunit).noTrailingZero⟩
    rw [inspect_join hunits hscanned]
    apply addNals_reports reports_empty
    intro nal hnal
    obtain ⟨unit, hunit, rfl⟩ := List.mem_map.mp hnal
    exact (hwell unit hunit).header
  · intro accessUnit inspection haccepted
    obtain ⟨units, hunits, hjoin, hscanned⟩ := exists_units haccepted
    rw [hjoin, inspect_join hunits hscanned] at haccepted
    have hvalid := addNals_eq_ok haccepted
    obtain ⟨reported, hadd, hreports⟩ := addNals_reports reports_empty hvalid
    rw [haccepted] at hadd
    cases hadd
    refine ⟨units, hunits, hjoin, hreports, ?_⟩
    intro unit hunit
    obtain ⟨rest, hclear⟩ := hscanned.clear hunit
    exact ⟨hvalid _ (List.mem_map_of_mem hunit), hclear.not_infix zero_ne_one⟩

/-- Both parameter sets and an IDR slice, behind start codes of both lengths. -/
def keyUnits : List (Marker × SignedBytes) :=
  [(.long, [0x67, 1]), (.short, [0x68, 0, 0, 2]), (.long, [0x65, 3])]

theorem keyUnits_wellFormed : ∀ unit ∈ keyUnits, WellFormedNal unit.2 := by
  have hheader : ∀ first ∈ [(0x67 : Int8), 0x68, 0x65],
      first.toInt32 &&& forbiddenZeroBit = 0 ∧ first.toInt32 &&& nalTypeMask ≠ 0 := by
    decide +kernel
  have hshape : ∀ unit ∈ keyUnits, (∃ first ∈ [(0x67 : Int8), 0x68, 0x65],
      unit.2.head? = some first) ∧ ¬[0, 0, 1] <:+: unit.2 ∧ unit.2.getLast? ≠ some 0 := by
    decide +kernel
  intro unit hunit
  obtain ⟨⟨first, hfirst, hhead⟩, hcode, hlast⟩ := hshape unit hunit
  exact ⟨⟨first, hhead, hheader first hfirst⟩, hcode, hlast⟩

theorem inspect_exact_keyUnits :
    ∃ inspection, inspect
        [0, 0, 0, 1, 0x67, 1, 0, 0, 1, 0x68, 0, 0, 2, 0, 0, 0, 1, 0x65, 3] = .ok inspection ∧
      inspection.Reports [[0x67, 1], [0x68, 0, 0, 2], [0x65, 3]] ∧
      ∃ units : List (Marker × SignedBytes), units ≠ [] ∧
        inspection.Reports (units.map (·.2)) ∧ ∀ unit ∈ units, ValidNalHeader unit.2 := by
  obtain ⟨inspection, hinspect, hreports⟩ := inspect_exact.1 keyUnits (by decide) keyUnits_wellFormed
  obtain ⟨units, hne, -, hunits, hvalid⟩ := inspect_exact.2 _ inspection hinspect
  exact ⟨inspection, hinspect, hreports, units, hne, hunits, fun unit hunit =>
    (hvalid unit hunit).1⟩

end H264AnnexB

end LadoFlow.Android
