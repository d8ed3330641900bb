import LadoFlow.Protocol.Message

/-!
# Display configuration and video frames
-/

namespace LadoFlow.Protocol

open Framework

def displayConfigLen : Nat := 14

/-- Number of metadata bytes at the beginning of a video-frame payload. -/
def videoFrameMetadataLen : Nat := 28

/-- Largest encoded access unit that fits in one version-one media frame. -/
def maxEncodedVideoBytes : Nat := maxMediaPayload - videoFrameMetadataLen

/-- Encoded video format selected for a session. -/
inductive VideoCodec where
  | h264
  | hevc
  | av1
  deriving DecidableEq, Repr

namespace VideoCodec

def entries : List VideoCodec := [.h264, .hevc, .av1]

def code : VideoCodec → UInt8
  | .h264 => 1
  | .hevc => 2
  | .av1 => 3

/-- Capability bit corresponding to this codec. -/
def capability : VideoCodec → CodecSet
  | .h264 => CodecSet.h264
  | .hevc => CodecSet.hevc
  | .av1 => CodecSet.av1

def tryFrom (value : UInt8) : Except ProtocolError VideoCodec :=
  decodeTagOr entries code value (.invalidPayload "unknown video codec")

theorem tryFrom_eq_ok {value : UInt8} {codec : VideoCodec} :
    tryFrom value = .ok codec ↔ value = codec.code :=
  decodeTagOr_eq_ok entries code (by intro k; cases k <;> decide)
    (by intro a b; cases a <;> cases b <;> decide)

end VideoCodec

/-- Version-one codec profiles with portable hardware-decoder mappings. -/
inductive CodecProfile where
  | h264Baseline
  | h264Main
  | h264High
  | hevcMain
  | hevcMain10
  | av1Main
  deriving DecidableEq, Repr

namespace CodecProfile

def entries : List CodecProfile :=
  [.h264Baseline, .h264Main, .h264High, .hevcMain, .hevcMain10, .av1Main]

def code : CodecProfile → UInt8
  | .h264Baseline => 1
  | .h264Main => 2
  | .h264High => 3
  | .hevcMain => 16
  | .hevcMain10 => 17
  | .av1Main => 32

/-- Codec family to which the profile belongs. -/
def codec : CodecProfile → VideoCodec
  | .h264Baseline | .h264Main | .h264High => .h264
  | .hevcMain | .hevcMain10 => .hevc
  | .av1Main => .av1

def tryFrom (value : UInt8) : Except ProtocolError CodecProfile :=
  decodeTagOr entries code value (.invalidPayload "unknown codec profile")

theorem tryFrom_eq_ok {value : UInt8} {profile : CodecProfile} :
    tryFrom value = .ok profile ↔ value = profile.code :=
  decodeTagOr_eq_ok entries code (by intro k; cases k <;> decide)
    (by intro a b; cases a <;> cases b <;> decide)

end CodecProfile

/-- The checks of the display-configuration constructor. -/
def DisplayConfig.validate (width height : UInt16) (refreshMillihz bitrateKbps : UInt32)
    (codec : VideoCodec) (profile : CodecProfile) : Except ProtocolError Unit :=
  if width = 0 ∨ height = 0 then .error (.invalidPayload "display dimensions must be non-zero")
  else if refreshMillihz = 0 then
    .error (.invalidPayload "display refresh rate must be non-zero")
  else if bitrateKbps = 0 then .error (.invalidPayload "display bitrate must be non-zero")
  else if profile.codec ≠ codec then
    .error (.invalidPayload "codec profile does not belong to selected codec")
  else .ok ()

/-- Negotiated display and encoder configuration. -/
@[ext] structure DisplayConfig where
  width : UInt16
  height : UInt16
  refreshMillihz : UInt32
  bitrateKbps : UInt32
  codec : VideoCodec
  profile : CodecProfile
  valid : DisplayConfig.validate width height refreshMillihz bitrateKbps codec profile = .ok ()
  deriving DecidableEq

namespace DisplayConfig

def new (width height : UInt16) (refreshMillihz bitrateKbps : UInt32) (codec : VideoCodec)
    (profile : CodecProfile) : Except ProtocolError DisplayConfig :=
  checked (validate width height refreshMillihz bitrateKbps codec profile) fun valid =>
  .ok { width, height, refreshMillihz, bitrateKbps, codec, profile, valid }

def wire (config : DisplayConfig) : Bytes :=
  toBeBytes config.width ++ toBeBytes config.height ++ toBeBytes config.refreshMillihz ++
    toBeBytes config.bitrateKbps ++ toBeBytes config.codec.code ++ toBeBytes config.profile.code

def encode (config : DisplayConfig) : Except ProtocolError Bytes := do
  let _ ← new config.width config.height config.refreshMillihz config.bitrateKbps config.codec
    config.profile
  .ok config.wire

def decode (payload : Bytes) : Except ProtocolError DisplayConfig :=
  if payload.length ≠ displayConfigLen then
    .error (.invalidPayload "display-config payload must be exactly 14 bytes")
  else do
  new (readU16 payload 0) (readU16 payload 2) (readU32 payload 4) (readU32 payload 8)
    (← VideoCodec.tryFrom (readU8 payload 12)) (← CodecProfile.tryFrom (readU8 payload 13))

theorem new_eq_ok {width height : UInt16} {refreshMillihz bitrateKbps : UInt32}
    {codec : VideoCodec} {profile : CodecProfile} {config : DisplayConfig} :
    new width height refreshMillihz bitrateKbps codec profile = .ok config ↔
      config.width = width ∧ config.height = height ∧ config.refreshMillihz = refreshMillihz ∧
      config.bitrateKbps = bitrateKbps ∧ config.codec = codec ∧ config.profile = profile := by
  constructor
  · intro h
    obtain ⟨_, h⟩ := checked_eq_ok.mp h
    cases h
    exact ⟨rfl, rfl, rfl, rfl, rfl, rfl⟩
  · rintro ⟨rfl, rfl, rfl, rfl, rfl, rfl⟩
    exact checked_ok _ config.valid

theorem encode_eq (config : DisplayConfig) : config.encode = .ok config.wire := by
  rw [encode, new_eq_ok.mpr ⟨rfl, rfl, rfl, rfl, rfl, rfl⟩, bind_ok]

theorem wire_eq_iff {payload : Bytes} {config : DisplayConfig} :
    config.wire = payload ↔ payload.length = displayConfigLen ∧
      readU16 payload 0 = config.width ∧ readU16 payload 2 = config.height ∧
      readU32 payload 4 = config.refreshMillihz ∧ readU32 payload 8 = config.bitrateKbps ∧
      readU8 payload 12 = config.codec.code ∧ readU8 payload 13 = config.profile.code := by
  rw [wire]
  simp only [List.append_assoc]
  rw [word_eq]
  simp only [word_eq_drop, last_word_eq_drop, Nat.reduceAdd, width_uint16, width_uint32,
    width_uint8, readU8, readU16, readU32, displayConfigLen]
  constructor
  · rintro ⟨-, hw, -, hh, -, hr, -, hb, -, hc, hlen, hp⟩
    exact ⟨hlen.symm, hw, hh, hr, hb, hc, hp⟩
  · rintro ⟨hlen, hw, hh, hr, hb, hc, hp⟩
    simp [*]

theorem decode_eq_ok {payload : Bytes} {config : DisplayConfig} :
    decode payload = .ok config ↔ config.wire = payload := by
  rw [wire_eq_iff, decode]
  simp only [bind_eq_ok, ite_error_eq_ok, VideoCodec.tryFrom_eq_ok, CodecProfile.tryFrom_eq_ok,
    new_eq_ok, ne_eq, not_not]
  constructor
  · rintro ⟨hlen, codec, hc, profile, hp, hw, hh, hr, hb, rfl, rfl⟩
    exact ⟨hlen, hw.symm, hh.symm, hr.symm, hb.symm, hc, hp⟩
  · rintro ⟨hlen, hw, hh, hr, hb, hc, hp⟩
    exact ⟨hlen, _, hc, _, hp, hw.symm, hh.symm, hr.symm, hb.symm, rfl, rfl⟩

instance : WirePayload DisplayConfig where
  kind := .displayConfig
  rebuild v := new v.width v.height v.refreshMillihz v.bitrateKbps v.codec v.profile
  encode := encode
  decode := decode

theorem canonical : CanonicalPayload DisplayConfig := by
  refine canonicalPayload_of (fun v => ?_) encode_eq (fun v => ?_) fun _ _ => decode_eq_ok
  · exact new_eq_ok.mpr ⟨rfl, rfl, rfl, rfl, rfl, rfl⟩
  · rw [(wire_eq_iff.mp (rfl : v.wire = v.wire)).1]
    decide

end DisplayConfig

def VideoFrameMetadata.validate (durationMicros : UInt32) : Except ProtocolError Unit :=
  if durationMicros = 0 then .error (.invalidPayload "video frame duration must be non-zero")
  else .ok ()

/-- Fixed-size presentation metadata preceding encoded video bytes. -/
@[ext] structure VideoFrameMetadata where
  frameId : UInt64
  captureTimestampMicros : UInt64
  presentationTimestampMicros : UInt64
  durationMicros : UInt32
  valid : VideoFrameMetadata.validate durationMicros = .ok ()
  deriving DecidableEq

namespace VideoFrameMetadata

def new (frameId captureTimestampMicros presentationTimestampMicros : UInt64)
    (durationMicros : UInt32) : Except ProtocolError VideoFrameMetadata :=
  checked (validate durationMicros) fun valid =>
  .ok { frameId, captureTimestampMicros, presentationTimestampMicros, durationMicros, valid }

/-- The bytes that `encode_into` appends. -/
def wire (metadata : VideoFrameMetadata) : Bytes :=
  toBeBytes metadata.frameId ++ toBeBytes metadata.captureTimestampMicros ++
    toBeBytes metadata.presentationTimestampMicros ++ toBeBytes metadata.durationMicros

def decode (payload : Bytes) : Except ProtocolError VideoFrameMetadata :=
  new (readU64 payload 0) (readU64 payload 8) (readU64 payload 16) (readU32 payload 24)

theorem new_eq_ok {frameId captureTimestampMicros presentationTimestampMicros : UInt64}
    {durationMicros : UInt32} {metadata : VideoFrameMetadata} :
    new frameId captureTimestampMicros presentationTimestampMicros durationMicros =
        .ok metadata ↔
      metadata.frameId = frameId ∧ metadata.captureTimestampMicros = captureTimestampMicros ∧
      metadata.presentationTimestampMicros = presentationTimestampMicros ∧
      metadata.durationMicros = durationMicros := by
  constructor
  · intro h
    obtain ⟨_, h⟩ := checked_eq_ok.mp h
    cases h
    exact ⟨rfl, rfl, rfl, rfl⟩
  · rintro ⟨rfl, rfl, rfl, rfl⟩
    exact checked_ok _ metadata.valid

@[simp] theorem wire_length (metadata : VideoFrameMetadata) :
    metadata.wire.length = videoFrameMetadataLen := by
  simp [wire, videoFrameMetadataLen]

theorem decode_eq_ok {payload : Bytes} {metadata : VideoFrameMetadata}
    (hlen : payload.length = videoFrameMetadataLen) :
    decode payload = .ok metadata ↔ metadata.wire = payload := by
  rw [wire, decode, new_eq_ok]
  simp only [List.append_assoc]
  rw [word_eq]
  rw [videoFrameMetadataLen] at hlen
  simp only [word_eq_drop, last_word_eq_drop, Nat.reduceAdd, width_uint64, width_uint32, readU64,
    readU32, hlen, Nat.reduceLeDiff, true_and]
  exact and_congr eq_comm (and_congr eq_comm (and_congr eq_comm eq_comm))

end VideoFrameMetadata

def validateEncodedBytes (encodedBytes : Bytes) : Except ProtocolError Unit :=
  if encodedBytes.isEmpty then
    .error (.invalidPayload "encoded video access unit must not be empty")
  else if encodedBytes.length > maxEncodedVideoBytes then
    .error (.payloadTooLarge .videoFrame
      (min usizeMax (videoFrameMetadataLen + encodedBytes.length)) maxMediaPayload)
  else .ok ()

theorem validateEncodedBytes_eq_ok {encodedBytes : Bytes} :
    validateEncodedBytes encodedBytes = .ok () ↔
      0 < encodedBytes.length ∧ encodedBytes.length ≤ maxEncodedVideoBytes := by
  simp [validateEncodedBytes, ite_error_eq_ok, List.length_pos_iff]

/-- One encoded video access unit and its presentation metadata. -/
@[ext] structure VideoFrame where
  metadata : VideoFrameMetadata
  encodedBytes : Bytes
  valid : validateEncodedBytes encodedBytes = .ok ()
  deriving DecidableEq

namespace VideoFrame

def new (metadata : VideoFrameMetadata) (encodedBytes : Bytes) : Except ProtocolError VideoFrame :=
  checked (validateEncodedBytes encodedBytes) fun valid => .ok { metadata, encodedBytes, valid }

def wire (frame : VideoFrame) : Bytes := frame.metadata.wire ++ frame.encodedBytes

def encode (frame : VideoFrame) : Except ProtocolError Bytes := do
  validateEncodedBytes frame.encodedBytes
  .ok frame.wire

def decode (payload : Bytes) : Except ProtocolError VideoFrame :=
  if payload.length > maxMediaPayload then
    .error (.payloadTooLarge .videoFrame payload.length maxMediaPayload)
  else if payload.length ≤ videoFrameMetadataLen then
    .error (.invalidPayload "video-frame payload is missing metadata or encoded bytes")
  else do
  new (← VideoFrameMetadata.decode (payload.take videoFrameMetadataLen))
    (payload.drop videoFrameMetadataLen)

theorem new_eq_ok {metadata : VideoFrameMetadata} {encodedBytes : Bytes} {frame : VideoFrame} :
    new metadata encodedBytes = .ok frame ↔
      frame.metadata = metadata ∧ frame.encodedBytes = encodedBytes := by
  constructor
  · intro h
    obtain ⟨_, h⟩ := checked_eq_ok.mp h
    cases h
    exact ⟨rfl, rfl⟩
  · rintro ⟨rfl, rfl⟩
    exact checked_ok _ frame.valid

theorem encode_eq (frame : VideoFrame) : frame.encode = .ok frame.wire := by
  rw [encode, frame.valid, bind_ok]

theorem wire_eq_iff {payload : Bytes} {frame : VideoFrame} :
    frame.wire = payload ↔ videoFrameMetadataLen ≤ payload.length ∧
      payload.take videoFrameMetadataLen = frame.metadata.wire ∧
      frame.encodedBytes = payload.drop videoFrameMetadataLen := by
  rw [wire, slice_eq _ _ _ frame.metadata.wire_length (by decide)]

theorem wire_length (frame : VideoFrame) :
    videoFrameMetadataLen < frame.wire.length ∧ frame.wire.length ≤ maxMediaPayload := by
  obtain ⟨hpos, hmax⟩ := validateEncodedBytes_eq_ok.mp frame.valid
  have hlimit : videoFrameMetadataLen ≤ maxMediaPayload := by decide
  rw [maxEncodedVideoBytes] at hmax
  simp only [wire, List.length_append, VideoFrameMetadata.wire_length]
  omega

theorem decode_eq_ok {payload : Bytes} {frame : VideoFrame} :
    decode payload = .ok frame ↔ frame.wire = payload := by
  rw [decode]
  simp only [bind_eq_ok, ite_error_eq_ok, new_eq_ok]
  constructor
  · rintro ⟨-, hlen, metadata, hm, rfl, hb⟩
    have htake : (payload.take videoFrameMetadataLen).length = videoFrameMetadataLen := by
      rw [List.length_take]
      omega
    exact wire_eq_iff.mpr
      ⟨by omega, ((VideoFrameMetadata.decode_eq_ok htake).mp hm).symm, hb⟩
  · intro h
    have hlen := h ▸ frame.wire_length
    obtain ⟨hle, hm, hb⟩ := wire_eq_iff.mp h
    refine ⟨by omega, by omega, frame.metadata, ?_, rfl, hb⟩
    exact (VideoFrameMetadata.decode_eq_ok (by rw [hm, VideoFrameMetadata.wire_length])).mpr hm.symm

instance : WirePayload VideoFrame where
  kind := .videoFrame
  rebuild v := do
    let metadata ← VideoFrameMetadata.new v.metadata.frameId v.metadata.captureTimestampMicros
      v.metadata.presentationTimestampMicros v.metadata.durationMicros
    new metadata v.encodedBytes
  encode := encode
  decode := decode

theorem canonical : CanonicalPayload VideoFrame := by
  refine canonicalPayload_of (fun v => ?_) encode_eq (fun v => v.wire_length.2)
    fun _ _ => decode_eq_ok
  refine bind_eq_ok.mpr ⟨v.metadata, ?_, new_eq_ok.mpr ⟨rfl, rfl⟩⟩
  exact VideoFrameMetadata.new_eq_ok.mpr ⟨rfl, rfl, rfl, rfl⟩

end VideoFrame

end LadoFlow.Protocol
