import LadoFlow.Android.H264Grammar
import LadoFlow.Host.AccessUnit

/-!
# Access units on both sides

The host and the display parse an access unit with different scanners. On every unit that the
display accepts they count the same NAL units and see the same IDR units, so that the host flags a
keyframe on account of its bytes only when the display finds the IDR unit too.
-/

namespace LadoFlow.System

open Framework
open Android (signed unsigned)
open Android.H264AnnexB (inspect)
open Host (annexBContainsIdr annexBNalTypes countAnnexBNalUnits)

theorem toUInt8_injective : Function.Injective Int8.toUInt8 :=
  Function.LeftInverse.injective (fun _ => rfl : Function.LeftInverse UInt8.toInt8 Int8.toUInt8)

/-- The widened header has the type that the byte has. -/
theorem idr_header (first : UInt8) :
    first.toInt8.toInt32 &&& Android.nalTypeMask = Android.nalTypeIdrSlice ↔
      first &&& 0x1f = 5 := by
  obtain ⟨⟨⟨first, hfirst⟩⟩⟩ := first
  revert hfirst first
  decide +kernel

theorem nalTypeOf_signed_idr (nal : Bytes) :
    Android.nalTypeOf (signed nal) = some Android.nalTypeIdrSlice ↔
      nal.head?.map (· &&& 0x1f) = some 5 := by
  cases nal with
  | nil => simp [Android.nalTypeOf, signed]
  | cons first rest => simp [Android.nalTypeOf, signed, idr_header]

/-- An access unit that the display accepts splits alike on both sides. -/
theorem exists_shared_units {bytes : Bytes} {inspection : Android.H264AnnexBInspection}
    (h : inspect (signed bytes) = .ok inspection) :
    ∃ units : List (Marker × Bytes), bytes = Marker.join 0 1 units ∧ Marker.Scanned 0 1 units ∧
      (∀ unit ∈ units, unit.2 ≠ []) ∧
      inspection.Reports (units.map fun unit => signed unit.2) := by
  obtain ⟨units, hunits, hjoin, hscanned⟩ := Android.H264AnnexB.exists_units h
  rw [hjoin, Android.H264AnnexB.inspect_join hunits hscanned] at h
  have hvalid := Android.H264AnnexB.addNals_eq_ok h
  obtain ⟨reported, hadd, hreports⟩ :=
    Android.H264AnnexB.addNals_reports Android.H264AnnexB.reports_empty hvalid
  rw [h] at hadd
  cases hadd
  have hunsigned : Marker.Scanned 0 1 (units.map fun unit => (unit.1, unsigned unit.2)) :=
    hscanned.map toUInt8_injective
  refine ⟨_, ?_, hunsigned, ?_, ?_⟩
  · have hbytes := congrArg unsigned hjoin
    rw [Android.unsigned_signed] at hbytes
    rw [hbytes]
    exact Marker.join_map 0 1 Int8.toUInt8 units
  · intro unit hunit hnil
    obtain ⟨source, hsource, rfl⟩ := List.mem_map.mp hunit
    obtain ⟨first, hhead, -⟩ := hvalid _ (List.mem_map_of_mem hsource)
    rw [List.map_eq_nil_iff.mp hnil] at hhead
    cases hhead
  · rw [List.map_map]
    have hback : ((fun unit : Marker × Bytes => signed unit.2) ∘
        fun unit : Marker × Android.SignedBytes => (unit.1, unsigned unit.2)) = (·.2) := by
      funext unit
      exact Android.signed_unsigned unit.2
    rwa [hback]

/-- On every byte string that the display accepts, the host finds an IDR unit exactly when the
display does and counts the NAL units that the display reports; the keyframe flag of the host is the
clean point of the encoder or the IDR unit that the display sees. -/
theorem annexB_parsed_alike {bytes : Bytes} {inspection : Android.H264AnnexBInspection}
    (haccepted : inspect (signed bytes) = .ok inspection) :
    annexBContainsIdr bytes = inspection.containsIdr ∧
      countAnnexBNalUnits bytes = inspection.nalUnitTypes.length ∧
      ∀ (sample : Host.MediaSample) (accessUnit : Host.EncodedAccessUnit),
        sample.readAccessUnit = .ok accessUnit → accessUnit.bytes = bytes →
        accessUnit.keyframe = (sample.isCleanPoint || inspection.containsIdr) := by
  obtain ⟨units, hjoin, hscanned, hunits, hreports⟩ := exists_shared_units haccepted
  have hidr : annexBContainsIdr bytes = inspection.containsIdr := by
    have hdisplay : Android.nalTypeIdrSlice ∈ inspection.nalUnitTypes ↔
        ∃ unit ∈ units, Android.nalTypeOf (signed unit.2) = some Android.nalTypeIdrSlice := by
      rw [← List.mem_map_of_injective (Option.some_injective _), hreports.types, List.map_map,
        List.mem_map]
      rfl
    rw [Bool.eq_iff_iff, hreports.containsIdr, hdisplay, annexBContainsIdr, List.any_eq_true]
    simp only [beq_iff_eq, exists_eq_right, nalTypeOf_signed_idr]
    rw [hjoin]
    exact Host.mem_annexBNalTypes_join hscanned hunits
  refine ⟨hidr, ?_, ?_⟩
  · have hlength := congrArg List.length hreports.types
    rw [List.length_map, List.length_map, List.length_map] at hlength
    rw [hjoin, Host.countAnnexBNalUnits_join hscanned, hlength]
  · intro sample accessUnit hread hbytes
    obtain ⟨found, hfound, hunit⟩ := bind_eq_ok.mp hread
    cases hunit
    rw [← hidr, ← hbytes]

/-- A parameter set behind a short start code and an IDR unit behind a long one. -/
def sharedUnit : Bytes := [0, 0, 1, 0x67, 1, 0, 0, 0, 1, 0x65, 2]

theorem annexB_parsed_alike_sharedUnit :
    annexBContainsIdr sharedUnit = true ∧ countAnnexBNalUnits sharedUnit = 2 ∧
      (Host.MediaSample.readAccessUnit ⟨.ok sharedUnit, some 0, none, none⟩).toOption.map
        (·.keyframe) = some true := by
  cases haccepted : inspect (signed sharedUnit) with
  | error message =>
    have herror : (inspect (signed sharedUnit)).toOption.isSome = true := by decide
    rw [haccepted] at herror
    cases herror
  | ok inspection =>
    have hreport : (inspect (signed sharedUnit)).toOption.map
        (fun inspection => (inspection.containsIdr, inspection.nalUnitTypes.length)) =
          some (true, 2) := by decide
    rw [haccepted] at hreport
    have hvalues := Option.some.inj hreport
    have hidr : inspection.containsIdr = true := congrArg Prod.fst hvalues
    have hcount : inspection.nalUnitTypes.length = 2 := congrArg Prod.snd hvalues
    obtain ⟨hhost, hnals, hflag⟩ := annexB_parsed_alike haccepted
    refine ⟨hhost.trans hidr, hnals.trans hcount, ?_⟩
    have hkeyframe := hflag ⟨.ok sharedUnit, some 0, none, none⟩
      ⟨sharedUnit, none, none, annexBContainsIdr sharedUnit⟩ rfl rfl
    change annexBContainsIdr sharedUnit = _ at hkeyframe
    change some (annexBContainsIdr sharedUnit) = some true
    rw [hkeyframe, hidr]
    rfl

end LadoFlow.System
