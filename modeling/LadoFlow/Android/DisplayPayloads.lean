import LadoFlow.Android.FrameCodec
import LadoFlow.Protocol.Display

/-!
# Kotlin display configuration and video frames
-/

namespace LadoFlow.Android

open Framework
open Protocol (VideoCodec CodecProfile DisplayConfig VideoFrame)

def videoFrameMetadataBytes : Nat := 28
def maxEncodedVideoBytes : Nat := ldflMaxMediaPayloadBytes - videoFrameMetadataBytes
def displayConfigBytes : Nat := 14

namespace VideoCodec

def wireValue : VideoCodec → Int32
  | .h264 => 1
  | .hevc => 2
  | .av1 => 3

def fromWire (value : Int32) : Except LdflProtocolException VideoCodec :=
  decodeTagOr Protocol.VideoCodec.entries wireValue value
    ⟨.invalidPayload, s!"Unknown video codec {value}"⟩

theorem wireValue_eq (codec : VideoCodec) : wireValue codec = widen8 codec.code := by
  cases codec <;> rfl

theorem fromWire_eq_ok {value : UInt8} {codec : VideoCodec} :
    fromWire (widen8 value) = .ok codec ↔ value = codec.code := by
  rw [← widen8_inj, ← wireValue_eq]
  exact decodeTagOr_eq_ok _ wireValue (by intro k; cases k <;> decide)
    (by intro a b; cases a <;> cases b <;> decide)

end VideoCodec

namespace CodecProfile

def wireValue : CodecProfile → Int32
  | .h264Baseline => 1
  | .h264Main => 2
  | .h264High => 3
  | .hevcMain => 16
  | .hevcMain10 => 17
  | .av1Main => 32

def codec : CodecProfile → VideoCodec
  | .h264Baseline => .h264
  | .h264Main => .h264
  | .h264High => .h264
  | .hevcMain => .hevc
  | .hevcMain10 => .hevc
  | .av1Main => .av1

def fromWire (value : Int32) : Except LdflProtocolException CodecProfile :=
  decodeTagOr Protocol.CodecProfile.entries wireValue value
    ⟨.invalidPayload, s!"Unknown codec profile {value}"⟩

theorem wireValue_eq (profile : CodecProfile) : wireValue profile = widen8 profile.code := by
  cases profile <;> rfl

theorem codec_eq (profile : CodecProfile) : codec profile = profile.codec := by
  cases profile <;> rfl

theorem fromWire_eq_ok {value : UInt8} {profile : CodecProfile} :
    fromWire (widen8 value) = .ok profile ↔ value = profile.code := by
  rw [← widen8_inj, ← wireValue_eq]
  exact decodeTagOr_eq_ok _ wireValue (by intro k; cases k <;> decide)
    (by intro a b; cases a <;> cases b <;> decide)

end CodecProfile

/-- The checks of the display-configuration constructor. -/
def DisplayConfigPayload.init (width height : Int32) (refreshMillihz bitrateKbps : UInt32)
    (codec : VideoCodec) (profile : CodecProfile) : Except LdflProtocolException Unit := do
  requireProtocol ((1 ≤ width ∧ width ≤ 0xffff) ∧ 1 ≤ height ∧ height ≤ 0xffff)
    "Display dimensions must be non-zero u16 values"
  requireProtocol (refreshMillihz ≠ 0) "Display refresh rate must be non-zero"
  requireProtocol (bitrateKbps ≠ 0) "Display bitrate must be non-zero"
  requireProtocol (CodecProfile.codec profile = codec)
    "Codec profile does not belong to selected codec"

structure DisplayConfigPayload where
  width : Int32
  height : Int32
  refreshMillihz : UInt32
  bitrateKbps : UInt32
  codec : VideoCodec
  profile : CodecProfile
  valid : DisplayConfigPayload.init width height refreshMillihz bitrateKbps codec profile = .ok ()
  deriving DecidableEq

namespace DisplayConfigPayload

def new (width height : Int32) (refreshMillihz bitrateKbps : UInt32) (codec : VideoCodec)
    (profile : CodecProfile) : Except LdflProtocolException DisplayConfigPayload :=
  checked (init width height refreshMillihz bitrateKbps codec profile) fun valid =>
  .ok { width, height, refreshMillihz, bitrateKbps, codec, profile, valid }

def encode (config : DisplayConfigPayload) : Except LdflProtocolException SignedBytes := do
  .ok ((← writeU16 config.width) ++ (← writeU16 config.height) ++ writeU32 config.refreshMillihz ++
    writeU32 config.bitrateKbps ++ (← writeU8 (VideoCodec.wireValue config.codec)) ++
    (← writeU8 (CodecProfile.wireValue config.profile)))

def decode (payload : SignedBytes) : Except LdflProtocolException DisplayConfigPayload := do
  requireProtocol (payload.length = displayConfigBytes)
    s!"Display-config payload must be exactly {displayConfigBytes} bytes"
  new (readU16 payload 0) (readU16 payload 2) (readU32 payload 4) (readU32 payload 8)
    (← VideoCodec.fromWire (readU8 payload 12)) (← CodecProfile.fromWire (readU8 payload 13))

theorem init_widen {width height : UInt16} {refreshMillihz bitrateKbps : UInt32}
    {codec : VideoCodec} {profile : CodecProfile} {u : Unit} :
    init (widen16 width) (widen16 height) refreshMillihz bitrateKbps codec profile = .ok u ↔
      DisplayConfig.validate width height refreshMillihz bitrateKbps codec profile = .ok () := by
  simp only [init, requireProtocol_bind, requireProtocol_eq_ok, one_le_widen16, widen16_le_max,
    DisplayConfig.validate, ite_error_eq_ok, CodecProfile.codec_eq]
  simp [and_assoc]

/-- The Kotlin payload with the field values of a Rust configuration. -/
def ofDisplayConfig (config : DisplayConfig) : DisplayConfigPayload where
  width := widen16 config.width
  height := widen16 config.height
  refreshMillihz := config.refreshMillihz
  bitrateKbps := config.bitrateKbps
  codec := config.codec
  profile := config.profile
  valid := init_widen.mpr config.valid

theorem new_eq_ok {width height : Int32} {refreshMillihz bitrateKbps : UInt32}
    {codec : VideoCodec} {profile : CodecProfile} {payload : DisplayConfigPayload} :
    new width height refreshMillihz bitrateKbps codec profile = .ok payload ↔
      payload.width = width ∧ payload.height = height ∧
      payload.refreshMillihz = refreshMillihz ∧ payload.bitrateKbps = bitrateKbps ∧
      payload.codec = codec ∧ payload.profile = profile := by
  constructor
  · intro h
    obtain ⟨_, h⟩ := checked_eq_ok.mp h
    cases h
    exact ⟨rfl, rfl, rfl, rfl, rfl, rfl⟩
  · rintro ⟨rfl, rfl, rfl, rfl, rfl, rfl⟩
    exact checked_ok _ payload.valid

theorem ofDisplayConfig_bijective : Function.Bijective ofDisplayConfig := by
  constructor
  · intro a b h
    simp only [ofDisplayConfig, DisplayConfigPayload.mk.injEq, widen16_inj] at h
    obtain ⟨hw, hh, hr, hb, hc, hp⟩ := h
    exact DisplayConfig.ext hw hh hr hb hc hp
  · rintro ⟨width, height, refresh, bitrate, codec, profile, hvalid⟩
    have hchecks := hvalid
    simp only [init, requireProtocol_bind] at hchecks
    obtain ⟨⟨⟨hw, hw'⟩, hh, hh'⟩, -⟩ := hchecks
    have hzero : (0 : Int32) ≤ 1 := by decide
    obtain ⟨width, rfl⟩ := exists_widen16.mp ⟨Int32.le_trans hzero hw, hw'⟩
    obtain ⟨height, rfl⟩ := exists_widen16.mp ⟨Int32.le_trans hzero hh, hh'⟩
    exact ⟨⟨width, height, refresh, bitrate, codec, profile, init_widen.mp hvalid⟩, rfl⟩

theorem encode_ofDisplayConfig (config : DisplayConfig) :
    encode (ofDisplayConfig config) = .ok (signed config.wire) := by
  simp only [encode, ofDisplayConfig, VideoCodec.wireValue_eq, CodecProfile.wireValue_eq,
    writeU16_widen16, writeU8_widen8, writeU32_eq, bind_ok, DisplayConfig.wire, signed_append]

theorem decode_signed {payload : Bytes} {config : DisplayConfig} :
    decode (signed payload) = .ok (ofDisplayConfig config) ↔ config.wire = payload := by
  rw [DisplayConfig.wire_eq_iff, decode, requireProtocol_bind, signed_length]
  refine and_congr_right fun hlen => ?_
  have hroom : payload.length = 14 := hlen
  rw [readU16_signed _ _ (by omega), readU16_signed _ _ (by omega), readU32_signed _ _ (by omega),
    readU32_signed _ _ (by omega), readU8_signed _ _ (by omega), readU8_signed _ _ (by omega)]
  simp only [bind_eq_ok, VideoCodec.fromWire_eq_ok, CodecProfile.fromWire_eq_ok, new_eq_ok,
    ofDisplayConfig, widen16_inj]
  constructor
  · rintro ⟨codec, hc, profile, hp, hw, hh, hr, hb, rfl, rfl⟩
    exact ⟨hw.symm, hh.symm, hr.symm, hb.symm, hc, hp⟩
  · rintro ⟨hw, hh, hr, hb, hc, hp⟩
    exact ⟨_, hc, _, hp, hw.symm, hh.symm, hr.symm, hb.symm, rfl, rfl⟩

instance : LdflPayload DisplayConfig DisplayConfigPayload where
  ofRust := ofDisplayConfig
  encode := encode
  decode := decode

theorem wireEquivalent : WireEquivalent DisplayConfig :=
  wireEquivalent_of ofDisplayConfig_bijective DisplayConfig.encode_eq
    (fun _ _ => DisplayConfig.decode_eq_ok) encode_ofDisplayConfig fun _ _ => decode_signed

end DisplayConfigPayload

def VideoFrameMetadata.init (durationMicros : UInt32) : Except LdflProtocolException Unit :=
  requireProtocol (durationMicros ≠ 0) "Video frame duration must be non-zero"

structure VideoFrameMetadata where
  frameId : UInt64
  captureTimestampMicros : UInt64
  presentationTimestampMicros : UInt64
  durationMicros : UInt32
  valid : VideoFrameMetadata.init durationMicros = .ok ()
  deriving DecidableEq

namespace VideoFrameMetadata

def new (frameId captureTimestampMicros presentationTimestampMicros : UInt64)
    (durationMicros : UInt32) : Except LdflProtocolException VideoFrameMetadata :=
  checked (init durationMicros) fun valid =>
  .ok { frameId, captureTimestampMicros, presentationTimestampMicros, durationMicros, valid }

def encodeInto (metadata : VideoFrameMetadata) : SignedBytes :=
  writeU64 metadata.frameId ++ writeU64 metadata.captureTimestampMicros ++
    writeU64 metadata.presentationTimestampMicros ++ writeU32 metadata.durationMicros

def decode (payload : SignedBytes) : Except LdflProtocolException VideoFrameMetadata :=
  new (readU64 payload 0) (readU64 payload 8) (readU64 payload 16) (readU32 payload 24)

theorem init_eq_ok {durationMicros : UInt32} {u : Unit} :
    init durationMicros = .ok u ↔ Protocol.VideoFrameMetadata.validate durationMicros = .ok () := by
  simp [init, Protocol.VideoFrameMetadata.validate]

def ofMetadata (metadata : Protocol.VideoFrameMetadata) : VideoFrameMetadata where
  frameId := metadata.frameId
  captureTimestampMicros := metadata.captureTimestampMicros
  presentationTimestampMicros := metadata.presentationTimestampMicros
  durationMicros := metadata.durationMicros
  valid := init_eq_ok.mpr metadata.valid

theorem new_eq_ok {frameId captureTimestampMicros presentationTimestampMicros : UInt64}
    {durationMicros : UInt32} {metadata : Protocol.VideoFrameMetadata} :
    new frameId captureTimestampMicros presentationTimestampMicros durationMicros =
        .ok (ofMetadata metadata) ↔
      Protocol.VideoFrameMetadata.new frameId captureTimestampMicros presentationTimestampMicros
        durationMicros = .ok metadata := by
  rw [Protocol.VideoFrameMetadata.new_eq_ok]
  constructor
  · intro h
    obtain ⟨_, h⟩ := checked_eq_ok.mp h
    obtain ⟨h0, h1, h2, h3⟩ := VideoFrameMetadata.mk.inj (Except.ok.inj h)
    exact ⟨h0.symm, h1.symm, h2.symm, h3.symm⟩
  · rintro ⟨rfl, rfl, rfl, rfl⟩
    exact checked_ok _ (ofMetadata metadata).valid

theorem ofMetadata_bijective : Function.Bijective ofMetadata := by
  constructor
  · intro a b h
    obtain ⟨h0, h1, h2, h3⟩ := VideoFrameMetadata.mk.inj h
    exact Protocol.VideoFrameMetadata.ext h0 h1 h2 h3
  · rintro ⟨frameId, capture, presentation, duration, hvalid⟩
    exact ⟨⟨frameId, capture, presentation, duration, init_eq_ok.mp hvalid⟩, rfl⟩

end VideoFrameMetadata

def validateAccessUnit (bytes : SignedBytes) : Except LdflProtocolException Unit := do
  requireProtocol (bytes ≠ []) "Encoded video access unit must not be empty"
  requireProtocol (bytes.length ≤ maxEncodedVideoBytes)
    "Encoded video access unit exceeds the version-one media limit" .payloadTooLarge

theorem validateAccessUnit_signed {bytes : Bytes} {u : Unit} :
    validateAccessUnit (signed bytes) = .ok u ↔
      Protocol.validateEncodedBytes bytes = .ok () := by
  rw [Protocol.validateEncodedBytes_eq_ok, validateAccessUnit, requireProtocol_bind,
    requireProtocol_eq_ok, signed_length, ← List.length_pos_iff, signed_length]
  exact Iff.rfl

structure VideoFramePayload where
  metadata : VideoFrameMetadata
  accessUnit : SignedBytes
  valid : validateAccessUnit accessUnit = .ok ()
  deriving DecidableEq

namespace VideoFramePayload

def new (metadata : VideoFrameMetadata) (accessUnit : SignedBytes) :
    Except LdflProtocolException VideoFramePayload :=
  checked (validateAccessUnit accessUnit) fun valid => .ok { metadata, accessUnit, valid }

def encode (frame : VideoFramePayload) : Except LdflProtocolException SignedBytes := do
  validateAccessUnit frame.accessUnit
  .ok (frame.metadata.encodeInto ++ frame.accessUnit)

def decode (payload : SignedBytes) : Except LdflProtocolException VideoFramePayload := do
  requireProtocol (payload.length ≤ ldflMaxMediaPayloadBytes)
    "VideoFrame payload exceeds the 16 MiB limit" .payloadTooLarge
  requireProtocol (payload.length > videoFrameMetadataBytes)
    "Video-frame payload is missing metadata or encoded bytes"
  new (← VideoFrameMetadata.decode payload) (payload.drop videoFrameMetadataBytes)

def ofVideoFrame (frame : VideoFrame) : VideoFramePayload where
  metadata := VideoFrameMetadata.ofMetadata frame.metadata
  accessUnit := signed frame.encodedBytes
  valid := validateAccessUnit_signed.mpr frame.valid

theorem new_eq_ok {metadata : VideoFrameMetadata} {accessUnit : SignedBytes}
    {frame : VideoFramePayload} :
    new metadata accessUnit = .ok frame ↔
      frame.metadata = metadata ∧ frame.accessUnit = accessUnit := by
  constructor
  · intro h
    obtain ⟨_, h⟩ := checked_eq_ok.mp h
    cases h
    exact ⟨rfl, rfl⟩
  · rintro ⟨rfl, rfl⟩
    exact checked_ok _ frame.valid

theorem ofVideoFrame_bijective : Function.Bijective ofVideoFrame := by
  constructor
  · intro a b h
    obtain ⟨hm, hb⟩ := VideoFramePayload.mk.inj h
    exact VideoFrame.ext (VideoFrameMetadata.ofMetadata_bijective.1 hm) (signed_inj.mp hb)
  · rintro ⟨metadata, accessUnit, hvalid⟩
    obtain ⟨metadata, rfl⟩ := VideoFrameMetadata.ofMetadata_bijective.2 metadata
    rw [← signed_unsigned accessUnit] at hvalid
    refine ⟨⟨metadata, unsigned accessUnit, validateAccessUnit_signed.mp hvalid⟩, ?_⟩
    simp only [ofVideoFrame, signed_unsigned]

theorem encode_ofVideoFrame (frame : VideoFrame) :
    encode (ofVideoFrame frame) = .ok (signed frame.wire) := by
  rw [encode, (ofVideoFrame frame).valid, bind_ok]
  simp only [ofVideoFrame, VideoFrameMetadata.ofMetadata, VideoFrameMetadata.encodeInto,
    writeU64_eq, writeU32_eq, VideoFrame.wire, Protocol.VideoFrameMetadata.wire, signed_append]

/-- Kotlin reads the metadata from the whole payload, Rust from its first 28 bytes. -/
theorem metadata_decode_signed {payload : Bytes} (h : 28 ≤ payload.length)
    {metadata : Protocol.VideoFrameMetadata} :
    VideoFrameMetadata.decode (signed payload) = .ok (VideoFrameMetadata.ofMetadata metadata) ↔
      Protocol.VideoFrameMetadata.decode (payload.take 28) = .ok metadata := by
  rw [VideoFrameMetadata.decode, readU64_signed _ _ (by omega), readU64_signed _ _ (by omega),
    readU64_signed _ _ (by omega), readU32_signed _ _ (by omega), VideoFrameMetadata.new_eq_ok,
    Protocol.VideoFrameMetadata.decode]
  simp (disch := simp) only [Protocol.readU64, Protocol.readU32, readWord_take]

theorem decode_signed {payload : Bytes} {frame : VideoFrame} :
    decode (signed payload) = .ok (ofVideoFrame frame) ↔ frame.wire = payload := by
  rw [← VideoFrame.decode_eq_ok, decode, requireProtocol_bind, requireProtocol_bind,
    VideoFrame.decode, ite_error_eq_ok, ite_error_eq_ok, signed_length]
  simp only [Nat.not_lt, Nat.not_le, gt_iff_lt]
  refine and_congr Iff.rfl (and_congr_right fun hlen => ?_)
  have hroom : 28 < payload.length := hlen
  simp only [bind_eq_ok, new_eq_ok, VideoFrame.new_eq_ok, ← signed_drop, ofVideoFrame, signed_inj]
  constructor
  · rintro ⟨metadata, hm, rfl, hb⟩
    exact ⟨_, (metadata_decode_signed (by omega)).mp hm, rfl, hb⟩
  · rintro ⟨metadata, hm, rfl, hb⟩
    exact ⟨_, (metadata_decode_signed (by omega)).mpr hm, rfl, hb⟩

instance : LdflPayload VideoFrame VideoFramePayload where
  ofRust := ofVideoFrame
  encode := encode
  decode := decode

theorem wireEquivalent : WireEquivalent VideoFrame :=
  wireEquivalent_of ofVideoFrame_bijective VideoFrame.encode_eq
    (fun _ _ => VideoFrame.decode_eq_ok) encode_ofVideoFrame fun _ _ => decode_signed

end VideoFramePayload

end LadoFlow.Android
