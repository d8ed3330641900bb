import LadoFlow.Android.CapabilityProbe
import LadoFlow.System.Agreement

/-!
# Advertised capability envelope

The display advertises one rectangle of sizes with one refresh rate and one bitrate; the host picks a
whole mode in it. The decoder behind the advertisement accepts every configuration the host picks for
a mode of the shared table.
-/

namespace LadoFlow.System

open Framework
open LadoFlow.Protocol (Capabilities DisplayConfig)
open LadoFlow.Host
open LadoFlow.Android (widen16 signed CapabilitiesPayload DisplayConfigPayload MediaPlatform
  DisplayLimits AndroidDisplayCapabilityEvidence AndroidDisplaySession)

/-- Both sides know the same modes, in one order. -/
theorem modes_agree : Android.coordinatedHostDisplayModes =
    negotiatedLandscapeModes.map fun mode => (widen16 mode.1, widen16 mode.2) := by
  decide

/-- For a request of a mode in the table, the host only offers modes in the table. -/
theorem offeredSize_mem {requested : HostProtocolConfig} {size : UInt16 × UInt16}
    (hladder : (requested.width, requested.height) ∈ negotiatedLandscapeModes)
    (h : OfferedSize requested size) : size ∈ negotiatedLandscapeModes := by
  rcases h with rfl | ⟨hmem, -⟩
  · exact hladder
  · exact hmem

/-- The host never offers a rate under that of the probe. -/
theorem offeredRefresh_minimum {requested : HostProtocolConfig} {refresh : UInt32}
    (h : OfferedRefresh requested refresh) : Android.minimumRefreshMillihz ≤ refresh := by
  rcases h with rfl | ⟨-, rfl⟩
  · rcases requested.refreshHz_cases with h | h <;> rw [h] <;> decide
  · decide

/-- What the host reads from the bytes of a display is what the display advertised. -/
theorem capabilities_received {advertised : CapabilitiesPayload} {payload : Bytes}
    {capabilities : Capabilities} (hsent : advertised.encode = .ok (signed payload))
    (hreceived : Capabilities.decode payload = .ok capabilities) :
    advertised = .ofCapabilities capabilities := by
  obtain ⟨sent, rfl⟩ := CapabilitiesPayload.ofCapabilities_bijective.2 advertised
  rw [CapabilitiesPayload.encode_ofCapabilities, Except.ok.injEq, Android.signed_inj] at hsent
  have hdecoded := Capabilities.decode_eq_ok.mpr hsent
  rw [hreceived, Except.ok.injEq] at hdecoded
  rw [hdecoded]

/-- The configuration of an established session is compatible with both endpoints. -/
theorem establish_compatible {handshake : HostHandshake} {established : EstablishedHostSession}
    {capabilities : Capabilities} (hstored : handshake.displayCapabilities = some capabilities)
    (h : handshake.establish = .ok established) :
    Compatible handshake.config (Core.intersect handshake.hostCapabilities capabilities)
      established.displayConfig := by
  cases hhello : handshake.displayHello with
  | none => simp [HostHandshake.establish, hhello] at h
  | some hello =>
    simp only [HostHandshake.establish, hhello, hstored, bind_eq_ok, liftNegotiation_eq_ok] at h
    obtain ⟨agreement, hagreement, config, hconfig, h⟩ := h
    obtain ⟨-, -, -, hagreed⟩ := Core.negotiate_eq_ok.mp hagreement
    have hcompatible := selectDisplayConfig_ok hconfig
    rw [hagreed] at hcompatible
    split at h
    · cases h
    · cases h
      exact hcompatible

section Envelope

variable {platform : MediaPlatform} {display : DisplayLimits}
  {evidence : AndroidDisplayCapabilityEvidence} {handshake : HostHandshake}
  {established : EstablishedHostSession} {payload : Bytes} {capabilities : Capabilities}

/-- A host that negotiates with the advertised capabilities for a mode of the table at 30 or 60 Hz
selects a configuration that the probed decoder supports, and the display finds no reason to reject
it. -/
theorem advertised_envelope_sound (hconsistent : ∀ info ∈ platform.avcDecoders, info.Consistent)
    (hprobe : Android.probeAndroidDisplayCapabilities platform display = .ok evidence)
    (hsent : evidence.capabilities.encode = .ok (signed payload))
    (hreceived : Capabilities.decode payload = .ok capabilities)
    (hstored : handshake.displayCapabilities = some capabilities)
    (hladder : (handshake.config.width, handshake.config.height) ∈ negotiatedLandscapeModes)
    (hestablish : handshake.establish = .ok established) :
    (∃ info, platform.IsProbed display info) ∧
      (∀ info, platform.IsProbed display info → ∃ avc, info.capabilities = some avc ∧
        avc.supportsH264Main (.ofDisplayConfig established.displayConfig) = true) ∧
      AndroidDisplaySession.invalidReason evidence.capabilities
        (.ofCapabilities handshake.hostCapabilities) (.ofDisplayConfig established.displayConfig)
        (platform.configurationRejectionReason (.ofDisplayConfig established.displayConfig)) =
          none := by
  have hadvertised := capabilities_received hsent hreceived
  have hcompatible := establish_compatible hstored hestablish
  obtain ⟨probe, hhead, hprobed, hwidth, hheight, hrefresh, hbitrate⟩ :=
    Android.probeAndroidDisplayCapabilities_ok hprobe
  rw [hadvertised] at hwidth hheight hrefresh hbitrate
  simp only [CapabilitiesPayload.ofCapabilities] at hwidth hheight hrefresh hbitrate
  obtain ⟨hw, hh, hr, hb⟩ := hcompatible.limits
  simp only [Core.intersect, Core.le_min_uint16, Core.le_min_uint32] at hw hh hr hb
  have hmode : ((DisplayConfigPayload.ofDisplayConfig established.displayConfig).width,
      (DisplayConfigPayload.ofDisplayConfig established.displayConfig).height) ∈
        Android.coordinatedHostDisplayModes := by
    rw [modes_agree]
    exact List.mem_map.mpr ⟨_, offeredSize_mem hladder hcompatible.size, rfl⟩
  have hsize : Android.modeWithin probe.maximumWidth probe.maximumHeight
      ((DisplayConfigPayload.ofDisplayConfig established.displayConfig).width,
        (DisplayConfigPayload.ofDisplayConfig established.displayConfig).height) = true := by
    rw [← hwidth, ← hheight]
    simp [Android.modeWithin, DisplayConfigPayload.ofDisplayConfig, Android.widen16_le, hw.2, hh.2]
  have hsupports : ∀ info, platform.IsProbed display info → ∃ avc, info.capabilities = some avc ∧
      avc.supportsH264Main (.ofDisplayConfig established.displayConfig) = true := by
    intro info hinfo
    have hselected := hinfo.2.trans hhead
    exact Android.probeDecoder_supports hselected (hconsistent info hinfo.1) hmode hsize
      (offeredRefresh_minimum hcompatible.refresh) (hrefresh ▸ hr.2) (hbitrate ▸ hb.2)
  refine ⟨hprobed, hsupports, ?_⟩
  obtain ⟨info, hinfo⟩ := hprobed
  obtain ⟨avc, havc, hsupported⟩ := hsupports info hinfo
  rw [hadvertised, invalidReason_within hcompatible.codec hcompatible.profile hcompatible.limits]
  exact platform.configurationRejectionReason_of_supports hcompatible.codec hcompatible.profile
    hinfo.1 havc hsupported

end Envelope

/-- A decoder of 1080p at up to 50 Hz and 12 Mbit/s. -/
def steadyVideo : Android.VideoCapabilities where
  supportedWidthUpper := 1920
  supportedHeightUpper := 1088
  areSizeAndRateSupported _ _ rate := some (decide (1 ≤ rate ∧ rate ≤ 50))
  supportedFrameRateUpper _ _ := some 50
  bitrateLower := 1
  bitrateUpper := 12000000

def steadyDecoder : Android.MediaCodecInfo where
  name := "c2.avc.decoder"
  isEncoder := false
  supportsAvc := true
  capabilities := some ⟨[Android.avcProfileMain], some steadyVideo, false⟩
  isHardwareAccelerated := true
  isSoftwareOnly := false

def steadyPlatform : MediaPlatform := ⟨[steadyDecoder], true, false⟩

theorem steadyVideo_consistent : steadyVideo.Consistent where
  rates width height upper hupper := by
    have hupper : upper = 50 := (Option.some.inj hupper).symm
    subst hupper
    refine ⟨Set.Icc 1 50, Set.ordConnected_Icc, isGreatest_Icc (by norm_num), ?_⟩
    intro rate
    simp [steadyVideo]
  bitrates := by decide

theorem steadyDecoder_consistent : steadyDecoder.Consistent := by
  intro capabilities video hcapabilities hvideo
  cases hcapabilities
  cases hvideo
  exact steadyVideo_consistent

def steadyParty : DisplayParty :=
  { tablet with
    capabilities :=
      { maxWidth := 1920
        maxHeight := 1080
        maxRefreshMillihz := 50000
        maxBitrateKbps := 12000
        codecs := Protocol.CodecSet.h264
        input := .of 0b111 (.refl true)
        features := .of 0 (.refl true)
        valid := rfl } }

theorem steady_probe : ∃ evidence,
    Android.probeAndroidDisplayCapabilities steadyPlatform ⟨1080, 1920, 60⟩ = .ok evidence ∧
      evidence.capabilities = .ofCapabilities steadyParty.capabilities := by
  have hprobes : (steadyPlatform.avcDecoders.filterMap
      (Android.probeDecoder true · ⟨1080, 1920, 60⟩)).filter
        (fun probe => probe.maximumRefreshMillihz ≥ Android.minimumRefreshMillihz) =
      [⟨"c2.avc.decoder", .reportedHardware, 1920, 1080, 50000, 12000⟩] := by
    decide +kernel
  have hcandidates : steadyPlatform.probeCandidates ⟨1080, 1920, 60⟩ =
      [⟨"c2.avc.decoder", .reportedHardware, 1920, 1080, 50000, 12000⟩] := by
    rw [MediaPlatform.probeCandidates, Android.sortedWith]
    exact (congrArg (List.mergeSort · _) hprobes).trans (List.mergeSort_singleton _)
  rw [Android.probeAndroidDisplayCapabilities, hcandidates]
  exact ⟨_, rfl, rfl⟩

/-- A request of 1440p at 60 Hz that has heard from the display. -/
def steadyHandshake : HostHandshake :=
  complete ⟨2560, 1440, 60, by decide⟩ ⟨List.replicate 16 9, rfl⟩ steadyParty

/-- The host wants 60 Hz, the decoder sustains 50 Hz, and 30 Hz is accepted. -/
theorem advertised_envelope_sound_steady : ∃ (evidence : AndroidDisplayCapabilityEvidence)
    (established : EstablishedHostSession),
    Android.probeAndroidDisplayCapabilities steadyPlatform ⟨1080, 1920, 60⟩ = .ok evidence ∧
      established.displayConfig.refreshMillihz = 30000 ∧
      AndroidDisplaySession.invalidReason evidence.capabilities
        (.ofCapabilities steadyHandshake.hostCapabilities)
        (.ofDisplayConfig established.displayConfig)
        (steadyPlatform.configurationRejectionReason
          (.ofDisplayConfig established.displayConfig)) = none := by
  obtain ⟨evidence, hprobe, hcapabilities⟩ := steady_probe
  have hestablish : steadyHandshake.establish.toOption.any
      (·.displayConfig.refreshMillihz = 30000) = true := by
    decide +kernel
  have hconsistent : ∀ info ∈ steadyPlatform.avcDecoders, info.Consistent := by
    intro info hinfo
    have hsteady : info = steadyDecoder := List.mem_singleton.mp hinfo
    rw [hsteady]
    exact steadyDecoder_consistent
  have hsent : evidence.capabilities.encode = .ok (signed steadyParty.capabilities.wire) := by
    rw [hcapabilities]
    exact CapabilitiesPayload.encode_ofCapabilities _
  cases hcomplete : steadyHandshake.establish with
  | error error =>
    rw [hcomplete] at hestablish
    cases hestablish
  | ok established =>
    rw [hcomplete] at hestablish
    have hsound := advertised_envelope_sound hconsistent hprobe hsent
      (Capabilities.decode_eq_ok.mpr rfl) rfl (by decide) hcomplete
    exact ⟨evidence, established, hprobe, of_decide_eq_true hestablish, hsound.2.2⟩

end LadoFlow.System
