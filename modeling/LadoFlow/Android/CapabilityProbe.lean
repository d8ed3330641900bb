import LadoFlow.Android.HandshakePayloads
import LadoFlow.Android.VideoDecoder
import Mathlib.Algebra.Order.Floor.Ring
import Mathlib.Data.Rat.Floor
import Mathlib.Order.Interval.Set.OrdConnected

/-!
# Capability probe

The probe asks the platform decoders for a rectangle of display modes that one of them supports as
whole modes, and advertises that rectangle with one refresh rate and one bitrate. The decoder checks
each configuration again before it is accepted. Rates are rational numbers of hertz.
-/

namespace LadoFlow.Android

open Framework
open Protocol (VideoCodec CodecProfile)

/-- Ordered fallback modes of the host; a policy and no protocol field. -/
def coordinatedHostDisplayModes : List (Int32 × Int32) :=
  [(2732, 2048), (2560, 1600), (2560, 1440), (2048, 1536), (1920, 1200), (1920, 1080),
    (1600, 1200), (1366, 768), (1280, 800), (1280, 720), (1024, 768), (1024, 640), (960, 600),
    (960, 540), (800, 600), (800, 500), (640, 480), (640, 400)]

def minimumRefreshMillihz : UInt32 := 30000

def avcProfileMain : Int32 := 2

def HardwareAccelerationEvidence.selectionRank : HardwareAccelerationEvidence → Nat
  | reportedHardware => 0
  | notReportedByPlatform => 1
  | reportedSoftware => 2

/-- The video limits of a decoder; a question of the platform that throws has no answer. -/
structure VideoCapabilities where
  supportedWidthUpper : Int32
  supportedHeightUpper : Int32
  areSizeAndRateSupported : Int32 → Int32 → ℚ → Option Bool
  supportedFrameRateUpper : Int32 → Int32 → Option ℚ
  bitrateLower : Int32
  bitrateUpper : Int32

/-- The capabilities of a decoder for H.264. -/
structure AvcCapabilities where
  profiles : List Int32
  video : Option VideoCapabilities
  lowLatency : Bool

structure MediaCodecInfo where
  name : String
  isEncoder : Bool
  supportsAvc : Bool
  capabilities : Option AvcCapabilities
  isHardwareAccelerated : Bool
  isSoftwareOnly : Bool

/-- The decoder list of a device, and what its platform version reports about one. -/
structure MediaPlatform where
  codecInfos : List MediaCodecInfo
  reportsAcceleration : Bool
  reportsLowLatency : Bool

structure DisplayLimits where
  width : Int32
  height : Int32
  maximumRefreshHertz : ℚ

structure AdvertisableStandardModes where
  maximumWidth : Int32
  maximumHeight : Int32
  maximumRefreshHertz : ℚ

structure DecoderProbe where
  decoderName : String
  hardwareAcceleration : HardwareAccelerationEvidence
  maximumWidth : Int32
  maximumHeight : Int32
  maximumRefreshMillihz : UInt32
  maximumBitrateKbps : UInt32
  deriving DecidableEq

structure AndroidDisplayCapabilityEvidence where
  capabilities : CapabilitiesPayload
  decoderName : String
  hardwareAcceleration : HardwareAccelerationEvidence
  probeWidth : Int32
  probeHeight : Int32

inductive ProbeFailure where
  | unsupportedOperation (message : String)
  | payload (exception : LdflProtocolException)
  deriving DecidableEq, Repr

/-- `Long.coerceIn(1L, UInt.MAX_VALUE)` -/
def coerceInUInt (value : Int) : UInt32 := UInt32.ofNat (max 1 (min value 4294967295)).toNat

/-- The mode lies within the bounds. -/
def modeWithin (maximumWidth maximumHeight : Int32) (mode : Int32 × Int32) : Bool :=
  mode.1 ≤ maximumWidth && mode.2 ≤ maximumHeight

/-- The highest rate of a mode that the decoder supports at the minimum rate. -/
def supportedRefreshUpper (video : VideoCapabilities) (mode : Int32 × Int32) : Option ℚ :=
  if (video.areSizeAndRateSupported mode.1 mode.2 (minimumRefreshMillihz.toNat / 1000)).getD false
  then video.supportedFrameRateUpper mode.1 mode.2
  else none

/-- The rectangle up to a candidate, when every mode in it is supported. -/
def advertisableUpTo (video : VideoCapabilities) (display : DisplayLimits)
    (candidate : Int32 × Int32) : Option AdvertisableStandardModes :=
  let advertisedModes := coordinatedHostDisplayModes.filter (modeWithin candidate.1 candidate.2)
  let supportedRefreshUppers := advertisedModes.filterMap (supportedRefreshUpper video)
  if supportedRefreshUppers.length ≠ advertisedModes.length then none
  else
  match supportedRefreshUppers.min? with
  | none => none
  | some supportedRefreshUpper =>
    let commonRefreshUpper := min display.maximumRefreshHertz supportedRefreshUpper
    if commonRefreshUpper * 1000 ≥ minimumRefreshMillihz.toNat then
      some ⟨candidate.1, candidate.2, commonRefreshUpper⟩
    else none

def findAdvertisableStandardModes (video : VideoCapabilities) (display : DisplayLimits) :
    Option AdvertisableStandardModes :=
  let physicalWidth := max display.width display.height
  let physicalHeight := min display.width display.height
  let candidateCaps := coordinatedHostDisplayModes.filter fun mode =>
    modeWithin physicalWidth physicalHeight mode &&
      modeWithin video.supportedWidthUpper video.supportedHeightUpper mode
  candidateCaps.findSome? (advertisableUpTo video display)

def accelerationEvidence (reportsAcceleration : Bool) (info : MediaCodecInfo) :
    HardwareAccelerationEvidence :=
  if reportsAcceleration then
    if info.isHardwareAccelerated then .reportedHardware
    else if info.isSoftwareOnly then .reportedSoftware
    else .notReportedByPlatform
  else .notReportedByPlatform

def probeDecoder (reportsAcceleration : Bool) (info : MediaCodecInfo) (display : DisplayLimits) :
    Option DecoderProbe := do
  let capabilities ← info.capabilities
  if avcProfileMain ∉ capabilities.profiles then none
  else
  let video ← capabilities.video
  let supportedModes ← findAdvertisableStandardModes video display
  some
    { decoderName := info.name
      hardwareAcceleration := accelerationEvidence reportsAcceleration info
      maximumWidth := supportedModes.maximumWidth
      maximumHeight := supportedModes.maximumHeight
      maximumRefreshMillihz := coerceInUInt ⌊supportedModes.maximumRefreshHertz * 1000⌋
      maximumBitrateKbps := coerceInUInt (video.bitrateUpper.toInt.tdiv 1000) }

/-- The UTF-16 code units that order two strings. -/
def utf16Units (text : String) : List Nat :=
  text.toList.flatMap fun c =>
    if c.toNat < 0x10000 then [c.toNat]
    else [0xd800 + (c.toNat - 0x10000) / 0x400, 0xdc00 + (c.toNat - 0x10000) % 0x400]

def compareNames (left right : String) : Ordering := compare (utf16Units left) (utf16Units right)

namespace DecoderProbe

def probeArea (probe : DecoderProbe) : Int :=
  probe.maximumWidth.toInt * probe.maximumHeight.toInt

/-- Hardware first, then the larger mode, the higher rate and the name. -/
def compareProbe (left right : DecoderProbe) : Ordering :=
  (compare left.hardwareAcceleration.selectionRank right.hardwareAcceleration.selectionRank).then
    ((compare right.probeArea left.probeArea).then
      ((compare right.maximumRefreshMillihz left.maximumRefreshMillihz).then
        (compareNames left.decoderName right.decoderName)))

end DecoderProbe

/-- `sortedWith`, which keeps the order of equal elements. -/
def sortedWith {α : Type} (cmp : α → α → Ordering) (as : List α) : List α :=
  as.mergeSort fun left right => cmp left right != .gt

namespace MediaPlatform

def avcDecoders (platform : MediaPlatform) : List MediaCodecInfo :=
  (platform.codecInfos.filter fun info => !info.isEncoder).filter (·.supportsAvc)

def probeCandidates (platform : MediaPlatform) (display : DisplayLimits) : List DecoderProbe :=
  sortedWith DecoderProbe.compareProbe
    ((platform.avcDecoders.filterMap
      (probeDecoder platform.reportsAcceleration · display)).filter
        fun probe => probe.maximumRefreshMillihz ≥ minimumRefreshMillihz)

end MediaPlatform

def androidDisplayInputCapabilities : InputCapabilities := .of 0b111 (.refl true)

def androidDisplayFeatureCapabilities : FeatureFlags := .of 0 (.refl true)

def probeAndroidDisplayCapabilities (platform : MediaPlatform) (display : DisplayLimits) :
    Except ProbeFailure AndroidDisplayCapabilityEvidence :=
  match platform.probeCandidates display with
  | [] => .error (.unsupportedOperation
      "No Android H.264 Main decoder can sustain at least 30 Hz at a display-sized mode")
  | selected :: _ =>
    match CapabilitiesPayload.new selected.maximumWidth selected.maximumHeight
        selected.maximumRefreshMillihz selected.maximumBitrateKbps CodecCapabilities.h264
        androidDisplayInputCapabilities androidDisplayFeatureCapabilities with
    | .error exception => .error (.payload exception)
    | .ok capabilities => .ok
      { capabilities
        decoderName := selected.decoderName
        hardwareAcceleration := selected.hardwareAcceleration
        probeWidth := selected.maximumWidth
        probeHeight := selected.maximumHeight }

/-- The decoder takes the exact size, rate and bitrate of the configuration. -/
def AvcCapabilities.supportsH264Main (capabilities : AvcCapabilities)
    (configuration : DisplayConfigPayload) : Bool :=
  if avcProfileMain ∉ capabilities.profiles then false
  else
  match capabilities.video with
  | none => false
  | some video =>
    let refreshHertz : ℚ := configuration.refreshMillihz.toNat / 1000
    let sizeAndRateSupported :=
      (video.areSizeAndRateSupported configuration.width configuration.height refreshHertz).getD
        false
    if !sizeAndRateSupported then false
    else
    let bitrateBitsPerSecond : Int := configuration.bitrateKbps.toNat * 1000
    decide (bitrateBitsPerSecond ≤ 2147483647) &&
      decide (video.bitrateLower.toInt ≤ bitrateBitsPerSecond ∧
        bitrateBitsPerSecond ≤ video.bitrateUpper.toInt)

structure DecoderSelection where
  codecName : String
  hardwareAcceleration : HardwareAccelerationEvidence
  lowLatencySupported : Bool
  deriving DecidableEq

def DecoderSelection.compareSelection (left right : DecoderSelection) : Ordering :=
  (compare left.hardwareAcceleration.selectionRank right.hardwareAcceleration.selectionRank).then
    (compareNames left.codecName right.codecName)

namespace MediaPlatform

/-- A decoder that supports the configuration. -/
def selection (platform : MediaPlatform) (configuration : DisplayConfigPayload)
    (info : MediaCodecInfo) : Option DecoderSelection := do
  let capabilities ← info.capabilities
  if !capabilities.supportsH264Main configuration then none
  else
  some
    { codecName := info.name
      hardwareAcceleration := accelerationEvidence platform.reportsAcceleration info
      lowLatencySupported := platform.reportsLowLatency && capabilities.lowLatency }

def selectAvcDecoder (platform : MediaPlatform) (configuration : DisplayConfigPayload) :
    Except String DecoderSelection :=
  if configuration.codec ≠ .h264 then
    .error "Android v1 MediaCodec boundary supports H.264 only"
  else if configuration.profile ≠ .h264Main then
    .error "Android v1 MediaCodec boundary supports H.264 Main only"
  else
  match sortedWith DecoderSelection.compareSelection
      (platform.avcDecoders.filterMap (platform.selection configuration)) with
  | [] => .error
    (s!"No Android H.264 Main decoder supports {configuration.width}x{configuration.height} " ++
      s!"at {configuration.refreshMillihz} mHz and {configuration.bitrateKbps} kbps")
  | selected :: _ => .ok selected

def configurationRejectionReason (platform : MediaPlatform)
    (configuration : DisplayConfigPayload) : Option String :=
  match platform.selectAvcDecoder configuration with
  | .error message => some message
  | .ok _ => none

end MediaPlatform

/-- The answers of a decoder fit together: for each size the supported rates are an interval with the
reported upper end, and the bitrates begin at 1 kbps or below and reach it. -/
structure VideoCapabilities.Consistent (video : VideoCapabilities) : Prop where
  rates : ∀ width height upper, video.supportedFrameRateUpper width height = some upper →
    ∃ rates : Set ℚ, rates.OrdConnected ∧ IsGreatest rates upper ∧
      ∀ rate, video.areSizeAndRateSupported width height rate = some true ↔ rate ∈ rates
  bitrates : video.bitrateLower.toInt ≤ 1000 ∧ 1000 ≤ video.bitrateUpper.toInt

/-- The answers of a decoder about H.264 video fit together. -/
def MediaCodecInfo.Consistent (info : MediaCodecInfo) : Prop :=
  ∀ capabilities video, info.capabilities = some capabilities →
    capabilities.video = some video → video.Consistent

/-- The probe of the decoder is the one that is advertised. -/
def MediaPlatform.IsProbed (platform : MediaPlatform) (display : DisplayLimits)
    (info : MediaCodecInfo) : Prop :=
  info ∈ platform.avcDecoders ∧
    probeDecoder platform.reportsAcceleration info display =
      (platform.probeCandidates display).head?

theorem mem_sortedWith {α : Type} {cmp : α → α → Ordering} {as : List α} {a : α} :
    a ∈ sortedWith cmp as ↔ a ∈ as :=
  List.mem_mergeSort

theorem getD_false_eq_true {answer : Option Bool} : answer.getD false = true ↔ answer = some true := by
  cases answer <;> simp

/-- Every mode in an advertised rectangle is supported from the minimum to the common rate. -/
theorem advertisableUpTo_modes {video : VideoCapabilities} {display : DisplayLimits}
    {candidate : Int32 × Int32} {modes : AdvertisableStandardModes}
    (h : advertisableUpTo video display candidate = some modes) :
    modes.maximumWidth = candidate.1 ∧ modes.maximumHeight = candidate.2 ∧
      (minimumRefreshMillihz.toNat : ℚ) ≤ modes.maximumRefreshHertz * 1000 ∧
      ∀ mode ∈ coordinatedHostDisplayModes, modeWithin candidate.1 candidate.2 mode = true →
        ∃ upper, modes.maximumRefreshHertz ≤ upper ∧
          video.supportedFrameRateUpper mode.1 mode.2 = some upper ∧
          video.areSizeAndRateSupported mode.1 mode.2 (minimumRefreshMillihz.toNat / 1000) =
            some true := by
  simp only [advertisableUpTo] at h
  split at h
  · cases h
  · rename_i hlength
    split at h
    · cases h
    · rename_i lowest hlowest
      split at h
      · rename_i hrate
        cases h
        refine ⟨rfl, rfl, hrate, ?_⟩
        intro mode hmode hwithin
        have hadvertised := List.mem_filter.mpr ⟨hmode, hwithin⟩
        have hsome := List.filterMap_length_eq_length.mp (not_not.mp hlength) mode hadvertised
        obtain ⟨upper, hupper⟩ := Option.isSome_iff_exists.mp hsome
        have hmem := List.mem_filterMap.mpr ⟨mode, hadvertised, hupper⟩
        have hle := (List.min?_eq_some_iff.mp hlowest).2 upper hmem
        rw [supportedRefreshUpper] at hupper
        split at hupper
        · rename_i hsupported
          exact ⟨upper, (min_le_right _ _).trans hle, hupper, getD_false_eq_true.mp hsupported⟩
        · cases hupper
      · cases h

/-- A decoder supports every rate between the minimum and its upper end. -/
theorem VideoCapabilities.Consistent.between {video : VideoCapabilities} (h : video.Consistent)
    {width height : Int32} {upper low rate : ℚ}
    (hupper : video.supportedFrameRateUpper width height = some upper)
    (hlow : video.areSizeAndRateSupported width height low = some true) (hle : low ≤ rate)
    (hrate : rate ≤ upper) : video.areSizeAndRateSupported width height rate = some true := by
  obtain ⟨rates, hconnected, hgreatest, hmem⟩ := h.rates width height upper hupper
  apply (hmem rate).mpr
  exact hconnected.out ((hmem low).mp hlow) hgreatest.1 ⟨hle, hrate⟩

theorem le_of_le_coerceInUInt {value : Int} {bound : UInt32} (h : bound ≤ coerceInUInt value)
    (hpos : 1 ≤ value) : (bound.toNat : Int) ≤ value := by
  have hle := UInt32.le_iff_toNat_le.mp h
  rw [coerceInUInt, UInt32.toNat_ofNat'] at hle
  have hmod := Nat.mod_le (max 1 (min value 4294967295)).toNat (2 ^ 32)
  omega

/-- A rate under the floor of a frequency in millihertz is under the frequency. -/
theorem rate_le_of_millihz {millihz : UInt32} {hertz : ℚ} (h : millihz ≤ coerceInUInt ⌊hertz * 1000⌋)
    (hpos : 1 ≤ ⌊hertz * 1000⌋) : (millihz.toNat : ℚ) / 1000 ≤ hertz := by
  have hfloor := Int.le_floor.mp (le_of_le_coerceInUInt h hpos)
  push_cast at hfloor
  linarith

theorem one_le_floor_of_minimum {hertz : ℚ}
    (h : (minimumRefreshMillihz.toNat : ℚ) ≤ hertz * 1000) : 1 ≤ ⌊hertz * 1000⌋ := by
  apply Int.le_floor.mpr
  have hminimum : (minimumRefreshMillihz.toNat : ℚ) = 30000 := by
    have hnat : minimumRefreshMillihz.toNat = 30000 := by decide
    rw [hnat]
    rfl
  rw [hminimum] at h
  push_cast
  linarith

theorem bitrate_le_of_kbps {kbps : UInt32} {upper : Int32}
    (h : kbps ≤ coerceInUInt (upper.toInt.tdiv 1000)) (hupper : 1000 ≤ upper.toInt) :
    (kbps.toNat : Int) * 1000 ≤ upper.toInt := by
  have hdiv : upper.toInt.tdiv 1000 = upper.toInt / 1000 :=
    Int.tdiv_eq_ediv_of_nonneg (by omega)
  rw [hdiv] at h
  have hle := le_of_le_coerceInUInt h (by omega)
  omega

theorem DisplayConfigPayload.bitrateKbps_pos (configuration : DisplayConfigPayload) :
    0 < configuration.bitrateKbps.toNat := by
  have hvalid := configuration.valid
  simp only [DisplayConfigPayload.init, requireProtocol_bind, requireProtocol_eq_ok] at hvalid
  apply Nat.pos_of_ne_zero
  intro hzero
  have hbitrate : configuration.bitrateKbps = 0 := UInt32.toNat_inj.mp hzero
  simp [hbitrate] at hvalid

/-- A mode of the table within the probed limits, from the minimum rate on, is supported. -/
theorem probeDecoder_supports {reportsAcceleration : Bool} {info : MediaCodecInfo}
    {display : DisplayLimits} {probe : DecoderProbe}
    (hprobe : probeDecoder reportsAcceleration info display = some probe)
    (hconsistent : info.Consistent)
    {configuration : DisplayConfigPayload}
    (hmode : (configuration.width, configuration.height) ∈ coordinatedHostDisplayModes)
    (hsize : modeWithin probe.maximumWidth probe.maximumHeight
      (configuration.width, configuration.height) = true)
    (hminimum : minimumRefreshMillihz ≤ configuration.refreshMillihz)
    (hrefresh : configuration.refreshMillihz ≤ probe.maximumRefreshMillihz)
    (hbitrate : configuration.bitrateKbps ≤ probe.maximumBitrateKbps) :
    ∃ capabilities, info.capabilities = some capabilities ∧
      capabilities.supportsH264Main configuration = true := by
  cases hcapabilities : info.capabilities with
  | none => simp [probeDecoder, hcapabilities] at hprobe
  | some capabilities =>
    refine ⟨capabilities, rfl, ?_⟩
    by_cases hprofile : avcProfileMain ∉ capabilities.profiles
    · simp [probeDecoder, hcapabilities, hprofile] at hprobe
    · cases hvideo : capabilities.video with
      | none => simp [probeDecoder, hcapabilities, hvideo] at hprobe
      | some video =>
        have hfits := hconsistent capabilities video hcapabilities hvideo
        cases hmodes : findAdvertisableStandardModes video display with
        | none => simp [probeDecoder, hcapabilities, hvideo, hmodes] at hprobe
        | some modes =>
          simp only [probeDecoder, hcapabilities, hprofile, hvideo, hmodes, Option.bind_eq_bind,
            Option.bind_some, if_false, Option.some.injEq] at hprobe
          subst hprobe
          simp only [findAdvertisableStandardModes] at hmodes
          obtain ⟨candidate, -, hcandidate⟩ := List.exists_of_findSome?_eq_some hmodes
          obtain ⟨hwidth, hheight, hlowest, hsupported⟩ := advertisableUpTo_modes hcandidate
          simp only [hwidth, hheight] at hsize
          obtain ⟨upper, hupper, hreported, hatMinimum⟩ := hsupported _ hmode hsize
          have hrate := rate_le_of_millihz hrefresh (one_le_floor_of_minimum hlowest)
          have hlow : (minimumRefreshMillihz.toNat : ℚ) / 1000 ≤
              configuration.refreshMillihz.toNat / 1000 := by
            have hle : (minimumRefreshMillihz.toNat : ℚ) ≤ configuration.refreshMillihz.toNat :=
              Nat.cast_le.mpr (UInt32.le_iff_toNat_le.mp hminimum)
            linarith
          have hanswer := hfits.between hreported hatMinimum hlow (hrate.trans hupper)
          have hbits := bitrate_le_of_kbps hbitrate hfits.bitrates.2
          have hpositive := configuration.bitrateKbps_pos
          have hmax := video.bitrateUpper.toInt_lt
          have hfirst := hfits.bitrates.1
          simp only [AvcCapabilities.supportsH264Main, if_neg hprofile, hvideo, hanswer,
            Option.getD_some, Bool.not_true, Bool.false_eq_true, if_false, Bool.and_eq_true,
            decide_eq_true_eq]
          omega

/-- The advertised limits are those of a probed decoder at 30 Hz or more. -/
theorem probeAndroidDisplayCapabilities_ok {platform : MediaPlatform} {display : DisplayLimits}
    {evidence : AndroidDisplayCapabilityEvidence}
    (h : probeAndroidDisplayCapabilities platform display = .ok evidence) :
    ∃ probe, (platform.probeCandidates display).head? = some probe ∧
      (∃ info, platform.IsProbed display info) ∧
      evidence.capabilities.maxWidth = probe.maximumWidth ∧
      evidence.capabilities.maxHeight = probe.maximumHeight ∧
      evidence.capabilities.maxRefreshMillihz = probe.maximumRefreshMillihz ∧
      evidence.capabilities.maxBitrateKbps = probe.maximumBitrateKbps := by
  simp only [probeAndroidDisplayCapabilities] at h
  cases hcandidates : platform.probeCandidates display with
  | nil => simp [hcandidates] at h
  | cons selected rest =>
    simp only [hcandidates] at h
    split at h
    · cases h
    · rename_i capabilities hnew
      cases h
      obtain ⟨hwidth, hheight, hrefresh, hbitrate, -⟩ := CapabilitiesPayload.new_eq_ok.mp hnew
      have hmem : selected ∈ platform.probeCandidates display := by simp [hcandidates]
      have hprobed := (List.mem_filter.mp (mem_sortedWith.mp hmem)).1
      obtain ⟨info, hinfo, hprobe⟩ := List.mem_filterMap.mp hprobed
      refine ⟨selected, rfl, ⟨info, hinfo, ?_⟩, hwidth, hheight, hrefresh, hbitrate⟩
      rw [hprobe, hcandidates]
      rfl

namespace MediaPlatform

/-- A configuration that some decoder supports is not rejected. -/
theorem configurationRejectionReason_of_supports {platform : MediaPlatform}
    {configuration : DisplayConfigPayload} (hcodec : configuration.codec = .h264)
    (hprofile : configuration.profile = .h264Main) {info : MediaCodecInfo}
    (hinfo : info ∈ platform.avcDecoders) {capabilities : AvcCapabilities}
    (hcapabilities : info.capabilities = some capabilities)
    (hsupports : capabilities.supportsH264Main configuration = true) :
    platform.configurationRejectionReason configuration = none := by
  have hselection : ∃ selection, platform.selection configuration info = some selection := by
    simp [selection, hcapabilities, hsupports]
  obtain ⟨selection, hselection⟩ := hselection
  have hmem := List.mem_filterMap.mpr ⟨info, hinfo, hselection⟩
  have hsorted := (@mem_sortedWith _ DecoderSelection.compareSelection _ _).mpr hmem
  rw [configurationRejectionReason, selectAvcDecoder, if_neg (not_not.mpr hcodec),
    if_neg (not_not.mpr hprofile)]
  split
  · rename_i message herror
    split at herror
    · rename_i hnone
      rw [hnone] at hsorted
      cases hsorted
    · cases herror
  · rfl

end MediaPlatform

end LadoFlow.Android
