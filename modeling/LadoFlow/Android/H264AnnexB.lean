import LadoFlow.Android.Binary
import LadoFlow.Framework.Loop

/-!
# Annex-B access units

Strict inspection of one H.264 access unit: the NAL units between its start codes, with the
parameter sets they carry.
-/

namespace LadoFlow.Android

open Framework

def forbiddenZeroBit : Int32 := 0x80
def nalTypeMask : Int32 := 0x1f
def nalTypeNonIdrSlice : Int32 := 1
def nalTypeIdrSlice : Int32 := 5
def nalTypeSps : Int32 := 7
def nalTypePps : Int32 := 8

/-- The type in the first byte of a NAL unit. -/
def nalTypeOf (nal : SignedBytes) : Option Int32 := nal.head?.map (·.toInt32 &&& nalTypeMask)

/-- A NAL unit of a given type, without its start code. -/
structure NalUnit (type : Int32) where
  bytes : SignedBytes
  type_eq : nalTypeOf bytes = some type
  deriving DecidableEq

/-- Codec-specific data needed to start a fresh decoder; the units have the types that the
constructor checks. -/
structure H264ParameterSets where
  sequenceParameterSet : NalUnit nalTypeSps
  pictureParameterSet : NalUnit nalTypePps
  deriving DecidableEq

structure H264AnnexBInspection where
  nalUnitTypes : List Int32
  sequenceParameterSet : Option (NalUnit nalTypeSps)
  pictureParameterSet : Option (NalUnit nalTypePps)
  containsVcl : Bool
  containsIdr : Bool
  deriving DecidableEq

namespace H264AnnexB

structure StartCode where
  offset : Nat
  length : Nat
  length_pos : 0 < length

/-- The start code at the front of the bytes; the long form is preferred. -/
def startCodeAt (offset : Nat) (bytes : SignedBytes) : Option StartCode :=
  if bytes.take 4 = [0, 0, 0, 1] then some ⟨offset, 4, Nat.succ_pos 3⟩
  else if bytes.take 3 = [0, 0, 1] then some ⟨offset, 3, Nat.succ_pos 2⟩
  else none

/-- The first start code of the bytes, which begin at `offset` in the access unit. -/
def scanStartCode (offset : Nat) : SignedBytes → Option StartCode
  | [] => none
  | byte :: rest =>
    match startCodeAt offset (byte :: rest) with
    | some startCode => some startCode
    | none => scanStartCode (offset + 1) rest

def findStartCode (bytes : SignedBytes) (fromIndex : Nat) : Option StartCode :=
  scanStartCode fromIndex (bytes.drop fromIndex)

theorem startCodeAt_offset {offset : Nat} {bytes : SignedBytes} {startCode : StartCode}
    (h : startCodeAt offset bytes = some startCode) : startCode.offset = offset := by
  rw [startCodeAt] at h
  split at h
  · cases h
    rfl
  · split at h
    · cases h
      rfl
    · cases h

theorem scanStartCode_range {offset : Nat} {bytes : SignedBytes} {startCode : StartCode}
    (h : scanStartCode offset bytes = some startCode) :
    offset ≤ startCode.offset ∧ startCode.offset < offset + bytes.length := by
  induction bytes generalizing offset with
  | nil => cases h
  | cons byte rest ih =>
    rw [scanStartCode] at h
    rw [List.length_cons]
    split at h
    · rename_i found hfound
      cases h
      have hoffset := startCodeAt_offset hfound
      omega
    · have hrest := ih h
      omega

theorem findStartCode_range {bytes : SignedBytes} {fromIndex : Nat} {startCode : StartCode}
    (h : findStartCode bytes fromIndex = some startCode) :
    fromIndex ≤ startCode.offset ∧ startCode.offset < bytes.length := by
  have hrange := scanStartCode_range h
  rw [List.length_drop] at hrange
  omega

def emptyInspection : H264AnnexBInspection := ⟨[], none, none, false, false⟩

/-- Record one NAL unit; the last parameter set of each kind wins. -/
def addNal (inspection : H264AnnexBInspection) (nal : SignedBytes) :
    Except String H264AnnexBInspection :=
  match nal with
  | [] => .error "H.264 Annex-B stream contains an empty NAL unit"
  | first :: rest =>
    let header := first.toInt32 &&& 0xff
    let nalType := header &&& nalTypeMask
    if header &&& forbiddenZeroBit ≠ 0 then
      .error "H.264 NAL unit sets forbidden_zero_bit"
    else if nalType = 0 then .error "H.264 NAL unit type zero is unspecified"
    else .ok
      { nalUnitTypes := inspection.nalUnitTypes ++ [nalType]
        sequenceParameterSet :=
          if h : nalTypeOf (first :: rest) = some nalTypeSps then some ⟨first :: rest, h⟩
          else inspection.sequenceParameterSet
        pictureParameterSet :=
          if h : nalTypeOf (first :: rest) = some nalTypePps then some ⟨first :: rest, h⟩
          else inspection.pictureParameterSet
        containsVcl := inspection.containsVcl ||
          (nalTypeNonIdrSlice ≤ nalType && nalType ≤ nalTypeIdrSlice)
        containsIdr := inspection.containsIdr || nalType == nalTypeIdrSlice }

/-- The inspection loop stands at a start code. -/
structure Scan where
  startCode : StartCode
  inspection : H264AnnexBInspection

/-- One turn of the loop: the NAL unit up to the next start code or the end. -/
def scanStep (accessUnit : SignedBytes) (scan : Scan) :
    Scan ⊕ Except String H264AnnexBInspection :=
  let nalStart := scan.startCode.offset + scan.startCode.length
  let nextStartCode := findStartCode accessUnit nalStart
  let nalEnd := (nextStartCode.map (·.offset)).getD accessUnit.length
  match addNal scan.inspection ((accessUnit.drop nalStart).take (nalEnd - nalStart)) with
  | .error message => .inr (.error message)
  | .ok inspection =>
    match nextStartCode with
    | some startCode => .inl ⟨startCode, inspection⟩
    | none => .inr (.ok inspection)

theorem scanStep_advances {accessUnit : SignedBytes} {scan next : Scan}
    (h : scanStep accessUnit scan = .inl next) :
    scan.startCode.offset < next.startCode.offset ∧ next.startCode.offset < accessUnit.length := by
  simp only [scanStep] at h
  split at h
  · cases h
  · split at h
    · rename_i startCode hfind
      cases h
      have hrange := findStartCode_range hfind
      have hpos := scan.startCode.length_pos
      exact ⟨by simp only; omega, hrange.2⟩
    · cases h

def scanLoop (accessUnit : SignedBytes) : Loop Scan (Except String H264AnnexBInspection) where
  step := scanStep accessUnit
  measure scan := accessUnit.length - scan.startCode.offset
  decreases := by
    intro scan next h
    have hadvances := scanStep_advances h
    omega

def inspect (accessUnit : SignedBytes) : Except String H264AnnexBInspection :=
  if accessUnit = [] then .error "H.264 access unit is empty"
  else
  match findStartCode accessUnit 0 with
  | none => .error "H.264 access unit has no Annex-B start code"
  | some firstStartCode =>
    if firstStartCode.offset ≠ 0 then
      .error "H.264 Annex-B access unit has bytes before its first start code"
    else (scanLoop accessUnit).run ⟨firstStartCode, emptyInspection⟩

end H264AnnexB

end LadoFlow.Android
