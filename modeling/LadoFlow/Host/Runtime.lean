import LadoFlow.Host.HostProtocol

/-!
# From the negotiated configuration to the encoder

The checks between the request of the user and the parameters of the encoder, on the path of an
Android control session.
-/

namespace LadoFlow.Host

open LadoFlow.Protocol LadoFlow.Core Framework

/-- The request of the user, and later the negotiated mode. -/
structure LoopbackConfig where
  width : UInt16
  height : UInt16
  fps : UInt16
  deriving DecidableEq, Repr

def LoopbackConfig.validate (config : LoopbackConfig) : Except HostError LoopbackConfig :=
  if config.width = 0 ∨ config.height = 0 then
    .error (.text "loopback dimensions must be non-zero")
  else if ¬(config.fps = 30 ∨ config.fps = 60) then
    .error (.text "loopback refresh rate must be 30 or 60 Hz")
  else .ok config

def integerRefreshHz (refreshMillihz : UInt32) : Except HostError UInt16 :=
  if refreshMillihz % 1000 ≠ 0 then
    .error (.text (s!"negotiated refresh rate {refreshMillihz} mHz " ++
      "cannot drive the integer-Hz runtime"))
  else if refreshMillihz / 1000 > 0xFFFF then
    .error (.text "negotiated refresh rate exceeds the desktop range")
  else .ok (refreshMillihz / 1000).toUInt16

def H264StreamConfig.validate (width height fps : UInt16) (bitrateKbps : UInt32) :
    Except HostError Unit :=
  if width = 0 ∨ height = 0 ∨ width % 2 ≠ 0 ∨ height % 2 ≠ 0 then
    .error (.text "H.264 dimensions must be non-zero and even")
  else if ¬(fps = 30 ∨ fps = 60) then
    .error (.text "H.264 stream frame rate must be 30 or 60 Hz")
  else if bitrateKbps = 0 then .error (.text "H.264 stream bitrate must be non-zero")
  else .ok ()

structure H264StreamConfig where
  width : UInt16
  height : UInt16
  fps : UInt16
  bitrateKbps : UInt32
  valid : H264StreamConfig.validate width height fps bitrateKbps = .ok ()
  deriving DecidableEq

def H264StreamConfig.new (width height fps : UInt16) (bitrateKbps : UInt32) :
    Except HostError H264StreamConfig :=
  checked (validate width height fps bitrateKbps) fun valid =>
  .ok { width, height, fps, bitrateKbps, valid }

/-- The bitrate of the encoder in bits per second. -/
def H264StreamConfig.encoderBitrate (config : H264StreamConfig) : Except HostError UInt32 :=
  if config.bitrateKbps.toNat * 1000 ≥ 2 ^ 32 then
    .error (.text "H.264 bitrate exceeds the Windows encoder range")
  else .ok (config.bitrateKbps * 1000)

def negotiatedRuntimeParameters (established : EstablishedHostSession) :
    Except HostError (LoopbackConfig × InputCapabilities) :=
  match established.session.agreement with
  | none => .error (.text "established USB session has no negotiated agreement")
  | some agreement => do
    let input ← liftProtocol (InputCapabilities.fromBits agreement.capabilities.inputBits)
    let fps ← integerRefreshHz established.displayConfig.refreshMillihz
    .ok (⟨established.displayConfig.width, established.displayConfig.height, fps⟩, input)

/-- The parameters that the session hands to the encoder after it sent the configuration. -/
def streamParameters (established : EstablishedHostSession) :
    Except HostError (H264StreamConfig × UInt32) := do
  let (config, _) ← negotiatedRuntimeParameters established
  let stream ← H264StreamConfig.new config.width config.height config.fps
    established.displayConfig.bitrateKbps
  let bitrate ← stream.encoderBitrate
  .ok (stream, bitrate)

/-- Both dimensions are even. -/
def EvenSize (width height : UInt16) : Prop := width % 2 = 0 ∧ height % 2 = 0

instance (width height : UInt16) : Decidable (EvenSize width height) :=
  inferInstanceAs (Decidable (_ ∧ _))

theorem mem_negotiatedLandscapeModes_even {mode : UInt16 × UInt16}
    (h : mode ∈ negotiatedLandscapeModes) : EvenSize mode.1 mode.2 := by
  have hmodes : negotiatedLandscapeModes.all (fun mode => EvenSize mode.1 mode.2) = true := by
    decide
  exact of_decide_eq_true (List.all_eq_true.mp hmodes mode h)

/-- An odd size is chosen only when it was requested and fits. -/
theorem selectBoundedDisplayDimensions_even_iff {width height maxWidth maxHeight : UInt16}
    {size : UInt16 × UInt16}
    (h : selectBoundedDisplayDimensions width height maxWidth maxHeight = .ok size) :
    EvenSize size.1 size.2 ↔ EvenSize width height ∨ ¬(width ≤ maxWidth ∧ height ≤ maxHeight) := by
  rw [selectBoundedDisplayDimensions] at h
  by_cases hfit : width ≤ maxWidth ∧ height ≤ maxHeight
  · rw [if_pos hfit] at h
    cases h
    simp only [hfit, and_self, not_true_eq_false, or_false]
  · rw [if_neg hfit] at h
    simp only at h
    split at h
    · rename_i mode hmin
      cases h
      have hmem := (List.mem_filter.mp (minBy_mem hmin)).1
      simp only [mem_negotiatedLandscapeModes_even hmem, hfit, not_false_eq_true, or_true]
    · cases h

/-- Every rate that the host offers drives the runtime. -/
theorem integerRefreshHz_offered {requested : HostProtocolConfig} {refresh : UInt32}
    (h : OfferedRefresh requested refresh) :
    ∃ fps, integerRefreshHz refresh = .ok fps ∧ (fps = 30 ∨ fps = 60) := by
  rcases h with rfl | ⟨-, rfl⟩
  · rcases requested.refreshHz_cases with hrate | hrate
    · exact ⟨30, by rw [hrate]; rfl, .inl rfl⟩
    · exact ⟨60, by rw [hrate]; rfl, .inr rfl⟩
  · exact ⟨30, rfl, .inl rfl⟩

theorem H264StreamConfig.new_eq_ok {width height fps : UInt16} {bitrateKbps : UInt32}
    {config : H264StreamConfig} :
    new width height fps bitrateKbps = .ok config ↔
      config.width = width ∧ config.height = height ∧ config.fps = fps ∧
        config.bitrateKbps = bitrateKbps := by
  constructor
  · intro h
    obtain ⟨hvalid, h⟩ := checked_eq_ok.mp h
    cases h
    exact ⟨rfl, rfl, rfl, rfl⟩
  · rintro ⟨rfl, rfl, rfl, rfl⟩
    exact checked_eq_ok.mpr ⟨config.valid, rfl⟩

/-- The encoder checks the evenness of a size and nothing else that the protocol leaves open. -/
theorem H264StreamConfig.exists_new_iff {width height fps : UInt16} {bitrateKbps : UInt32}
    (hwidth : width ≠ 0) (hheight : height ≠ 0) (hfps : fps = 30 ∨ fps = 60)
    (hbitrate : bitrateKbps ≠ 0) :
    (∃ config, new width height fps bitrateKbps = .ok config) ↔ EvenSize width height := by
  constructor
  · rintro ⟨config, h⟩
    obtain ⟨hvalid, -⟩ := checked_eq_ok.mp h
    simp only [validate, ite_error_eq_ok] at hvalid
    exact ⟨by tauto, by tauto⟩
  · intro heven
    have hvalid : validate width height fps bitrateKbps = .ok () := by
      rw [validate, if_neg, if_neg (not_not.mpr hfps), if_neg hbitrate]
      simp only [hwidth, hheight, heven.1, heven.2, ne_eq, not_true_eq_false, or_self,
        not_false_eq_true]
    exact ⟨_, checked_ok _ hvalid⟩

theorem inputCapabilities_fromBits_and (a b : InputCapabilities) :
    ∃ input, InputCapabilities.fromBits (a.bits &&& b.bits) = .ok input := by
  have hknown : a.bits &&& b.bits &&& ~~~(0b111 : UInt16) = 0 := by
    rw [UInt16.and_assoc, b.known, UInt16.and_zero]
  exact ⟨⟨_, hknown⟩, BitSet.ofBits_eq_ok.mpr rfl⟩

section Established

variable {config : HostProtocolConfig} {nonce : Nonce} {handshake : HostHandshake}
  {hello : Hello} {capabilities : Capabilities} {sequence : Option UInt64}
  {established : EstablishedHostSession}

theorem withNonce_capabilities (h : HostHandshake.withNonce config nonce = .ok handshake) :
    handshake.config = config ∧ handshake.hostCapabilities.maxWidth = config.width ∧
      handshake.hostCapabilities.maxHeight = config.height ∧
      handshake.hostCapabilities.maxBitrateKbps = 40000 := by
  simp only [HostHandshake.withNonce, bind_eq_ok, liftProtocol_eq_ok, Capabilities.new_eq_ok] at h
  obtain ⟨hostHello, -, hostCapabilities, ⟨hwidth, hheight, -, hbitrate, -⟩, h⟩ := h
  cases h
  exact ⟨rfl, hwidth, hheight, hbitrate⟩

/-- The session holds the intersection of the capabilities, and a configuration selected for it. -/
theorem HostHandshake.establish_selected
    (h : HostHandshake.establish { handshake with
      displayHello := some hello, displayCapabilities := some capabilities,
      highestDisplaySequence := sequence } = .ok established) :
    ∃ agreement, agreement.capabilities = intersect handshake.hostCapabilities capabilities ∧
      established.session.agreement = some agreement ∧
      selectDisplayConfig handshake.config agreement = .ok established.displayConfig := by
  simp only [HostHandshake.establish, bind_eq_ok, liftNegotiation_eq_ok, negotiate_eq_ok] at h
  obtain ⟨agreement, ⟨-, -, -, rfl⟩, displayConfig, hconfig, h⟩ := h
  cases sequence <;> cases h <;> exact ⟨_, rfl, rfl, hconfig⟩

theorem selectDisplayConfig_even_iff {agreement : NegotiatedSession}
    {displayConfig : DisplayConfig} (h : selectDisplayConfig config agreement = .ok displayConfig) :
    EvenSize displayConfig.width displayConfig.height ↔
      EvenSize config.width config.height ∨ ¬(config.width ≤ agreement.capabilities.maxWidth ∧
        config.height ≤ agreement.capabilities.maxHeight) := by
  simp only [selectDisplayConfig, ite_error_eq_ok, bind_eq_ok, liftProtocol_eq_ok,
    DisplayConfig.new_eq_ok] at h
  obtain ⟨-, size, hsize, -, -, hwidth, hheight, -⟩ := h
  rw [hwidth, hheight]
  exact selectBoundedDisplayDimensions_even_iff hsize

theorem DisplayConfig.fields_ne_zero (displayConfig : DisplayConfig) :
    displayConfig.width ≠ 0 ∧ displayConfig.height ≠ 0 ∧ displayConfig.bitrateKbps ≠ 0 := by
  have h := displayConfig.valid
  simp only [DisplayConfig.validate, ite_error_eq_ok] at h
  tauto

/-- The session starts its encoder exactly when the configuration has an even size. -/
theorem streamParameters_iff_even
    (hwith : HostHandshake.withNonce config nonce = .ok handshake)
    (h : HostHandshake.establish { handshake with
      displayHello := some hello, displayCapabilities := some capabilities,
      highestDisplaySequence := sequence } = .ok established) :
    (∃ parameters, streamParameters established = .ok parameters) ↔
      EvenSize established.displayConfig.width established.displayConfig.height := by
  obtain ⟨hconfig, -, -, hmax⟩ := withNonce_capabilities hwith
  obtain ⟨agreement, hlimits, hagreement, hselect⟩ := HostHandshake.establish_selected h
  have hcompatible := selectDisplayConfig_ok hselect
  obtain ⟨fps, hfps, hrate⟩ := integerRefreshHz_offered hcompatible.refresh
  obtain ⟨input, hinput⟩ :=
    inputCapabilities_fromBits_and handshake.hostCapabilities.input capabilities.input
  have hbits : agreement.capabilities.inputBits =
      handshake.hostCapabilities.input.bits &&& capabilities.input.bits := by
    rw [hlimits]
    rfl
  have hbitrate : established.displayConfig.bitrateKbps ≤ 40000 := by
    have hle := hcompatible.limits.2.2.2
    rw [hlimits] at hle
    rw [← hmax]
    exact (le_min_uint32.mp hle).1
  obtain ⟨hwidth, hheight, hkbps⟩ := DisplayConfig.fields_ne_zero established.displayConfig
  rw [← H264StreamConfig.exists_new_iff hwidth hheight hrate hkbps]
  simp only [streamParameters, negotiatedRuntimeParameters, hagreement, hbits, hinput, hfps,
    liftProtocol, bind_ok]
  constructor
  · intro hparameters
    obtain ⟨parameters, hparameters⟩ := hparameters
    obtain ⟨stream, hstream, -⟩ := bind_eq_ok.mp hparameters
    exact ⟨stream, hstream⟩
  · intro hstream
    obtain ⟨stream, hstream⟩ := hstream
    have hrange : ¬stream.bitrateKbps.toNat * 1000 ≥ 2 ^ 32 := by
      rw [(H264StreamConfig.new_eq_ok.mp hstream).2.2.2]
      have hnat : established.displayConfig.bitrateKbps.toNat ≤ 40000 :=
        UInt32.le_iff_toNat_le.mp hbitrate
      omega
    refine ⟨(stream, stream.bitrateKbps * 1000), ?_⟩
    simp only [hstream, bind_ok, H264StreamConfig.encoderBitrate, if_neg hrange]

end Established

/-- Both constructors accept the same requests. -/
theorem HostProtocolConfig.exists_new {request : LoopbackConfig}
    (h : request.validate = .ok request) :
    ∃ config, HostProtocolConfig.new request.width request.height request.fps = .ok config ∧
      config.width = request.width ∧ config.height = request.height := by
  simp only [LoopbackConfig.validate, ite_error_eq_ok] at h
  have hvalid : HostProtocolConfig.validate request.width request.height request.fps = .ok () := by
    rw [HostProtocolConfig.validate, if_neg h.1, if_neg h.2.1]
  exact ⟨_, checked_ok _ hvalid, rfl, rfl⟩

/-- The host can stream what it committed to exactly when the request is even or does not fit the
display. -/
theorem committed_streamable_iff {request : LoopbackConfig}
    (hrequest : request.validate = .ok request) :
    ∃ config, HostProtocolConfig.new request.width request.height request.fps = .ok config ∧
      ∀ nonce handshake, HostHandshake.withNonce config nonce = .ok handshake →
      ∀ hello capabilities sequence established,
        HostHandshake.establish { handshake with
          displayHello := some hello, displayCapabilities := some capabilities,
          highestDisplaySequence := sequence } = .ok established →
        ((∃ parameters, streamParameters established = .ok parameters) ↔
          EvenSize request.width request.height ∨
            ¬(request.width ≤ capabilities.maxWidth ∧ request.height ≤ capabilities.maxHeight)) := by
  obtain ⟨config, hnew, hwidth, hheight⟩ := HostProtocolConfig.exists_new hrequest
  refine ⟨config, hnew, ?_⟩
  intro nonce handshake hwith hello capabilities sequence established h
  obtain ⟨hconfig, hmaxWidth, hmaxHeight, -⟩ := withNonce_capabilities hwith
  obtain ⟨agreement, hlimits, -, hselect⟩ := HostHandshake.establish_selected h
  have hfitWidth : config.width ≤ agreement.capabilities.maxWidth ↔
      request.width ≤ capabilities.maxWidth := by
    simp [hlimits, intersect, le_min_uint16, hmaxWidth, hwidth]
  have hfitHeight : config.height ≤ agreement.capabilities.maxHeight ↔
      request.height ≤ capabilities.maxHeight := by
    simp [hlimits, intersect, le_min_uint16, hmaxHeight, hheight]
  rw [hconfig] at hselect
  rw [streamParameters_iff_even hwith h, selectDisplayConfig_even_iff hselect, hfitWidth,
    hfitHeight, hwidth, hheight]

/-- A display that decodes up to 3840x2160 at 60 Hz. -/
def largeDisplay : Capabilities where
  maxWidth := 3840
  maxHeight := 2160
  maxRefreshMillihz := 60000
  maxBitrateKbps := 12000
  codecs := CodecSet.h264
  input := InputCapabilities.touch
  features := FeatureFlags.remoteCursor
  valid := rfl

theorem androidName_valid : validateImplementationName "LadoFlow Android" = .ok () := by decide

def androidHello : Hello where
  minProtocol := 1
  maxProtocol := 1
  role := .display
  nonce := ⟨List.replicate 16 0x44, by decide⟩
  implementationName := "LadoFlow Android"
  range_valid := rfl
  name_valid := androidName_valid

def hostNonce : Nonce := ⟨List.replicate 16 0x11, by decide⟩

/-- The outcome of a handshake with the large display. -/
def establishLarge (request : LoopbackConfig) : Except HostError EstablishedHostSession := do
  let config ← HostProtocolConfig.new request.width request.height request.fps
  let handshake ← HostHandshake.withNonce config hostNonce
  HostHandshake.establish { handshake with
    displayHello := some androidHello, displayCapabilities := some largeDisplay,
    highestDisplaySequence := some 1 }

theorem committed_streamable_even :
    LoopbackConfig.validate ⟨1920, 1080, 60⟩ = .ok ⟨1920, 1080, 60⟩ ∧
      ∃ established parameters, establishLarge ⟨1920, 1080, 60⟩ = .ok established ∧
        streamParameters established = .ok parameters := by
  have hrequest : LoopbackConfig.validate ⟨1920, 1080, 60⟩ = .ok ⟨1920, 1080, 60⟩ := rfl
  refine ⟨hrequest, ?_⟩
  obtain ⟨config, hnew, hstream⟩ := committed_streamable_iff hrequest
  cases hnew
  have heven : EvenSize 1920 1080 := by decide
  have h := (hstream hostNonce _ rfl androidHello largeDisplay (some 1) _ rfl).mpr (.inl heven)
  obtain ⟨parameters, hparameters⟩ := h
  exact ⟨_, parameters, rfl, hparameters⟩

theorem committed_streamable_odd :
    LoopbackConfig.validate ⟨1921, 1081, 60⟩ = .ok ⟨1921, 1081, 60⟩ ∧
      ∃ established, establishLarge ⟨1921, 1081, 60⟩ = .ok established ∧
        streamParameters established =
          .error (.text "H.264 dimensions must be non-zero and even") :=
  ⟨rfl, _, rfl, rfl⟩

end LadoFlow.Host
