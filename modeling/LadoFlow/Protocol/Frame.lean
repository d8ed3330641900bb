import LadoFlow.Framework.Stream

/-!
# LDFL frame codec

The binary frame boundary of `ladoflow-protocol`: message identifiers, validated flags, the
24-byte header in network byte order, and the decoder of one frame at the front of a buffer.
Headers and frames carry their validation, so a value of type `Frame` is one that the public
constructor accepts.
-/

namespace LadoFlow.Protocol

open Framework

/-- First protocol generation used during pre-alpha development. -/
def protocolVersion : UInt16 := 1

/-- The ASCII bytes of `LDFL`. -/
def frameMagic : Bytes := [0x4c, 0x44, 0x46, 0x4c]

theorem frameMagic_length : frameMagic.length = 4 := by simp [frameMagic]

def frameHeaderLen : Nat := 24

def frameHeaderLenU16 : UInt16 := 24

def maxControlPayload : Nat := 64 * 1024

def maxMediaPayload : Nat := 16 * 1024 * 1024

def maxBufferedBytes : Nat := 2 * (frameHeaderLen + maxMediaPayload)

/-- Largest value of the machine word that counts bytes on the 64-bit targets. -/
def usizeMax : Nat := 2 ^ 64 - 1

inductive MessageType where
  | hello
  | capabilities
  | displayConfig
  | videoFrame
  | input
  | telemetry
  | ping
  | pong
  | error
  deriving DecidableEq, Repr

inductive ProtocolError where
  | invalidMagic (found : Bytes)
  | invalidHeaderLength (found : UInt16)
  | unsupportedVersion (found supported : UInt16)
  | unknownMessageType (value : UInt16)
  | unknownFrameFlags (bits : UInt16)
  | payloadTooLarge (kind : MessageType) (length limit : Nat)
  | bufferLimitExceeded (attempted limit : Nat)
  | unexpectedMessageType (expected actual : MessageType)
  | invalidPayload (reason : String)
  | invalidUtf8
  deriving DecidableEq, Repr

namespace MessageType

def entries : List MessageType :=
  [.hello, .capabilities, .displayConfig, .videoFrame, .input, .telemetry, .ping, .pong, .error]

/-- The numeric identifier used in the frame header. -/
def code : MessageType → UInt16
  | .hello => 1
  | .capabilities => 2
  | .displayConfig => 3
  | .videoFrame => 4
  | .input => 5
  | .telemetry => 6
  | .ping => 7
  | .pong => 8
  | .error => 9

def payloadLimit : MessageType → Nat
  | .videoFrame => maxMediaPayload
  | _ => maxControlPayload

def tryFrom (value : UInt16) : Except ProtocolError MessageType :=
  decodeTagOr entries code value (.unknownMessageType value)

theorem tryFrom_eq_ok {value : UInt16} {kind : MessageType} :
    tryFrom value = .ok kind ↔ value = kind.code :=
  decodeTagOr_eq_ok entries code (by intro k; cases k <;> decide)
    (by intro a b; cases a <;> cases b <;> decide)

theorem payloadLimit_le (kind : MessageType) : kind.payloadLimit ≤ maxMediaPayload := by
  cases kind <;> decide

end MessageType

/-- Frame flags after rejecting bits unknown to this protocol version. -/
abbrev FrameFlags := BitSet (0b111 : UInt16)

namespace FrameFlags

def none : FrameFlags := .of 0 (.refl true)
def keyframe : FrameFlags := .of 1 (.refl true)
def endOfStream : FrameFlags := .of 2 (.refl true)
def ackRequired : FrameFlags := .of 4 (.refl true)

def fromBits (bits : UInt16) : Except ProtocolError FrameFlags :=
  BitSet.ofBits bits (.unknownFrameFlags bits)

theorem fromBits_eq_ok {bits : UInt16} {flags : FrameFlags} :
    fromBits bits = .ok flags ↔ bits = flags.bits :=
  BitSet.ofBits_eq_ok

end FrameFlags

def validatePayloadLen (kind : MessageType) (payloadLen : Nat) :
    Except ProtocolError (PLift (payloadLen ≤ kind.payloadLimit)) :=
  if h : payloadLen > kind.payloadLimit then
    .error (.payloadTooLarge kind payloadLen kind.payloadLimit)
  else .ok ⟨Nat.le_of_not_lt h⟩

theorem validatePayloadLen_ok {kind : MessageType} {payloadLen : Nat}
    (h : payloadLen ≤ kind.payloadLimit) : validatePayloadLen kind payloadLen = .ok ⟨h⟩ := by
  rw [validatePayloadLen, dif_neg (by omega)]

def payloadLenToUsize (kind : MessageType) (payloadLen : UInt32) :
    Except ProtocolError { n : Nat // n = payloadLen.toNat } :=
  if payloadLen.toNat ≤ usizeMax then .ok ⟨payloadLen.toNat, rfl⟩
  else .error (.payloadTooLarge kind usizeMax kind.payloadLimit)

theorem payloadLenToUsize_ok (kind : MessageType) (payloadLen : UInt32) :
    payloadLenToUsize kind payloadLen = .ok ⟨payloadLen.toNat, rfl⟩ := by
  have h := payloadLen.toNat_lt
  rw [payloadLenToUsize, if_pos (by rw [usizeMax]; omega)]

@[simp] abbrev readU8 (bytes : Bytes) (offset : Nat) : UInt8 := readWord bytes offset
@[simp] abbrev readU16 (bytes : Bytes) (offset : Nat) : UInt16 := readWord bytes offset
@[simp] abbrev readU32 (bytes : Bytes) (offset : Nat) : UInt32 := readWord bytes offset
@[simp] abbrev readU64 (bytes : Bytes) (offset : Nat) : UInt64 := readWord bytes offset
@[simp] abbrev readI16 (bytes : Bytes) (offset : Nat) : Int16 := readWord bytes offset

/-- Validated fixed-size metadata preceding every payload. -/
@[ext] structure FrameHeader where
  version : UInt16
  kind : MessageType
  flags : FrameFlags
  sequence : UInt64
  payloadLen : UInt32
  version_eq : version = protocolVersion
  payloadLen_le : payloadLen.toNat ≤ kind.payloadLimit
  deriving DecidableEq

namespace FrameHeader

def new (kind : MessageType) (flags : FrameFlags) (sequence : UInt64) (payloadLen : Nat) :
    Except ProtocolError { header : FrameHeader // header.payloadLen.toNat = payloadLen } := do
  let fits ← validatePayloadLen kind payloadLen
  if h : payloadLen < 2 ^ 32 then
    have hlen : (UInt32.ofNat payloadLen).toNat = payloadLen := UInt32.toNat_ofNat_of_lt' h
    .ok ⟨{ version := protocolVersion, kind, flags, sequence
           payloadLen := UInt32.ofNat payloadLen
           version_eq := rfl
           payloadLen_le := by rw [hlen]; exact fits.down }, hlen⟩
  else .error (.payloadTooLarge kind payloadLen kind.payloadLimit)

def encode (header : FrameHeader) : Bytes :=
  frameMagic ++ toBeBytes header.version ++ toBeBytes frameHeaderLenU16 ++
    toBeBytes header.kind.code ++ toBeBytes header.flags.bits ++ toBeBytes header.sequence ++
    toBeBytes header.payloadLen

def decode (bytes : Bytes) : Except ProtocolError FrameHeader :=
  let foundMagic := bytes.take 4
  if foundMagic ≠ frameMagic then .error (.invalidMagic foundMagic) else
  let version := readU16 bytes 4
  if hv : version ≠ protocolVersion then
    .error (.unsupportedVersion version protocolVersion)
  else
  let headerLen := readU16 bytes 6
  if headerLen.toNat ≠ frameHeaderLen then .error (.invalidHeaderLength headerLen) else do
  let kind ← MessageType.tryFrom (readU16 bytes 8)
  let flags ← FrameFlags.fromBits (readU16 bytes 10)
  let sequence := readU64 bytes 12
  let payloadLen := readU32 bytes 20
  let payloadLenUsize ← payloadLenToUsize kind payloadLen
  let fits ← validatePayloadLen kind payloadLenUsize.val
  .ok { version, kind, flags, sequence, payloadLen
        version_eq := Decidable.not_not.mp hv
        payloadLen_le := by rw [← payloadLenUsize.property]; exact fits.down }

@[simp] theorem encode_length (header : FrameHeader) : header.encode.length = frameHeaderLen := by
  simp [encode, frameMagic, frameHeaderLen]

/-- The decoder accepts exactly the field values it returns. -/
theorem decode_eq_ok {bytes : Bytes} {header : FrameHeader} :
    decode bytes = .ok header ↔
      bytes.take 4 = frameMagic ∧ readU16 bytes 4 = header.version ∧
      readU16 bytes 6 = frameHeaderLenU16 ∧ readU16 bytes 8 = header.kind.code ∧
      readU16 bytes 10 = header.flags.bits ∧ readU64 bytes 12 = header.sequence ∧
      readU32 bytes 20 = header.payloadLen := by
  have hlenU16 : ∀ v : UInt16, v.toNat = frameHeaderLen ↔ v = frameHeaderLenU16 := by
    intro v
    rw [← UInt16.toNat_inj]
    rfl
  constructor
  · intro h
    simp only [decode, ite_error_eq_ok, ne_eq, not_not] at h
    obtain ⟨hmagic, h⟩ := h
    split at h
    · cases h
    rename_i hv
    simp only [bind_eq_ok, ite_error_eq_ok, not_not, MessageType.tryFrom_eq_ok,
      FrameFlags.fromBits_eq_ok] at h
    obtain ⟨hlen, kind, hkind, flags, hflags, n, -, fits, -, h⟩ := h
    cases h
    exact ⟨hmagic, rfl, (hlenU16 _).mp hlen, hkind, hflags, rfl, rfl⟩
  · rintro ⟨hmagic, hversion, hlen, hkind, hflags, hsequence, hpayload⟩
    have hv := header.version_eq
    have hp := header.payloadLen_le
    have hlen' := (hlenU16 _).mpr hlen
    rw [decode, if_neg (by simpa using hmagic), dif_neg (by rw [hversion]; simpa using hv),
      if_neg (by simpa using hlen'), MessageType.tryFrom_eq_ok.mpr hkind,
      FrameFlags.fromBits_eq_ok.mpr hflags]
    simp only [bind_ok, payloadLenToUsize_ok, hversion, hsequence, hpayload]
    rw [validatePayloadLen_ok hp, bind_ok]

theorem encode_eq_iff {bytes : Bytes} {header : FrameHeader} :
    header.encode = bytes ↔ bytes.length = frameHeaderLen ∧ decode bytes = .ok header := by
  rw [decode_eq_ok, encode]
  simp only [List.append_assoc]
  rw [slice_eq _ _ _ frameMagic_length (by decide)]
  simp only [word_eq_drop, last_word_eq_drop, Nat.reduceAdd, frameHeaderLen, width_uint16,
    width_uint32, width_uint64, readU16, readU32, readU64]
  constructor
  · rintro ⟨-, hmagic, -, hversion, -, hheader, -, hkind, -, hflags, -, hsequence, hlen, hpayload⟩
    exact ⟨hlen.symm, hmagic, hversion, hheader, hkind, hflags, hsequence, hpayload⟩
  · rintro ⟨hlen, hmagic, hversion, hheader, hkind, hflags, hsequence, hpayload⟩
    simp [*]

theorem decode_encode (header : FrameHeader) : decode header.encode = .ok header :=
  (encode_eq_iff.mp rfl).2

end FrameHeader

/-- Owned protocol frame with a validated header and bounded payload. -/
@[ext] structure Frame where
  header : FrameHeader
  payload : Bytes
  payload_length : payload.length = header.payloadLen.toNat
  deriving DecidableEq

namespace Frame

def new (kind : MessageType) (flags : FrameFlags) (sequence : UInt64) (payload : Bytes) :
    Except ProtocolError Frame := do
  let header ← FrameHeader.new kind flags sequence payload.length
  .ok ⟨header.val, payload, header.property.symm⟩

/-- The frame without a payload. -/
def empty (kind : MessageType) (sequence : UInt64) : Frame where
  header := ⟨protocolVersion, kind, .none, sequence, 0, rfl, Nat.zero_le _⟩
  payload := []
  payload_length := rfl

/-- The frames are exactly the values that `new` builds from a payload within the limit. -/
theorem new_eq_ok {kind : MessageType} {flags : FrameFlags} {sequence : UInt64} {payload : Bytes}
    {frame : Frame} :
    new kind flags sequence payload = .ok frame ↔ frame.header.kind = kind ∧
      frame.header.flags = flags ∧ frame.header.sequence = sequence ∧ frame.payload = payload := by
  constructor
  · intro h
    simp only [new, FrameHeader.new, bind_eq_ok] at h
    obtain ⟨header, ⟨fits, -, hheader⟩, h⟩ := h
    split at hheader
    · cases hheader
      cases h
      exact ⟨rfl, rfl, rfl, rfl⟩
    · cases hheader
  · rintro ⟨rfl, rfl, rfl, rfl⟩
    have hlen := frame.payload_length
    have hfits : frame.payload.length ≤ frame.header.kind.payloadLimit :=
      hlen ▸ frame.header.payloadLen_le
    have hword : frame.payload.length < 2 ^ 32 := hlen ▸ frame.header.payloadLen.toNat_lt
    have hback : UInt32.ofNat frame.payload.length = frame.header.payloadLen := by
      rw [hlen]
      exact UInt32.ofNat_toNat
    rw [new, FrameHeader.new, validatePayloadLen_ok hfits, bind_ok, dif_pos hword, bind_ok]
    congr 1
    ext1
    · ext1 <;> simp [hback, frame.header.version_eq]
    · rfl

theorem new_self (frame : Frame) :
    new frame.header.kind frame.header.flags frame.header.sequence frame.payload = .ok frame :=
  new_eq_ok.mpr ⟨rfl, rfl, rfl, rfl⟩

theorem new_of_le {kind : MessageType} {payload : Bytes}
    (h : payload.length ≤ kind.payloadLimit) (flags : FrameFlags) (sequence : UInt64) :
    ∃ frame, new kind flags sequence payload = .ok frame := by
  have hlimit := kind.payloadLimit_le
  have hword : payload.length < 2 ^ 32 := by
    rw [maxMediaPayload] at hlimit
    omega
  rw [new, FrameHeader.new, validatePayloadLen_ok h, bind_ok, dif_pos hword, bind_ok]
  exact ⟨_, rfl⟩

def encodedLen (frame : Frame) : Nat := frameHeaderLen + frame.payload.length

def encode (frame : Frame) : Bytes := frame.header.encode ++ frame.payload

def decodePrefix (bytes : Bytes) : Except ProtocolError (DecodeOutcome Frame) :=
  if bytes.length < frameHeaderLen then .ok (.needMoreData frameHeaderLen) else do
  let header ← FrameHeader.decode (bytes.take frameHeaderLen)
  let payloadLen ← payloadLenToUsize header.kind header.payloadLen
  let totalLen := frameHeaderLen + payloadLen.val
  if h : bytes.length < totalLen then .ok (.needMoreData totalLen)
  else
    .ok (.complete ⟨header, (bytes.drop frameHeaderLen).take payloadLen.val, by
      have hp := payloadLen.property
      rw [List.length_take, List.length_drop]
      omega⟩ totalLen)

@[simp] theorem encode_length (frame : Frame) : frame.encode.length = frame.encodedLen := by
  simp [encode, encodedLen]

variable {bytes : Bytes} {frame : Frame} {consumed minimum : Nat}

theorem decodePrefix_header {header : FrameHeader} (hlen : frameHeaderLen ≤ bytes.length)
    (h : bytes.take frameHeaderLen = header.encode) :
    decodePrefix bytes = 
      if h : bytes.length < frameHeaderLen + header.payloadLen.toNat then
        .ok (.needMoreData (frameHeaderLen + header.payloadLen.toNat))
      else .ok (.complete ⟨header, (bytes.drop frameHeaderLen).take header.payloadLen.toNat, by 
        rw [List.length_take, List.length_drop]
        omega⟩ (frameHeaderLen + header.payloadLen.toNat)) := by
  rw [decodePrefix, if_neg (by omega), h, FrameHeader.decode_encode]
  simp only [bind_ok, payloadLenToUsize_ok]

theorem decodePrefix_encode (frame : Frame) (rest : Bytes) :
    decodePrefix (frame.encode ++ rest) = .ok (.complete frame frame.encode.length) := by
  have hp := frame.payload_length
  have htake : (frame.encode ++ rest).take frameHeaderLen = frame.header.encode := by
    rw [encode, List.append_assoc]
    exact List.take_left' frame.header.encode_length
  have hlen : frameHeaderLen + frame.header.payloadLen.toNat ≤ (frame.encode ++ rest).length := by
    simp only [List.length_append, encode_length, encodedLen, hp]
    omega
  rw [decodePrefix_header (by omega) htake, dif_neg (by omega)]
  congr 2
  · ext1
    · rfl
    · change ((frame.header.encode ++ frame.payload ++ rest).drop frameHeaderLen).take _ = frame.payload
      rw [List.append_assoc, List.drop_left' frame.header.encode_length]
      exact List.take_left' hp
  · rw [encode_length, encodedLen, hp]

theorem encode_ne_nil (frame : Frame) : frame.encode ≠ [] := by
  intro h
  have hlen := congrArg List.length h
  simp [encodedLen, frameHeaderLen] at hlen

theorem decodePrefix_short (h : bytes.length < frameHeaderLen) :
    decodePrefix bytes = .ok (.needMoreData frameHeaderLen) := by
  rw [decodePrefix, if_pos h]

/-- Past the header length the outcome is decided by the header alone: it is malformed, or it
announces the length that separates an incomplete frame from a complete one. -/
theorem decodePrefix_cases (h : frameHeaderLen ≤ bytes.length) :
    (∃ e, ∀ more, decodePrefix (bytes ++ more) = .error e) ∨
      ∃ header, bytes.take frameHeaderLen = FrameHeader.encode header := by
  have htake : (bytes.take frameHeaderLen).length = frameHeaderLen := by
    rw [List.length_take]
    omega
  cases hd : FrameHeader.decode (bytes.take frameHeaderLen) with
  | error e =>
    refine .inl ⟨e, fun more => ?_⟩
    rw [decodePrefix, if_neg (by simp; omega), List.take_append_of_le_length h, hd, bind_error]
  | ok header => exact .inr ⟨header, (FrameHeader.encode_eq_iff.mpr ⟨htake, hd⟩).symm⟩

theorem decodePrefix_error {e : ProtocolError} :
    decodePrefix bytes = .error e ↔
      frameHeaderLen ≤ bytes.length ∧ decodePrefix (bytes.take frameHeaderLen) = .error e := by
  by_cases hlen : frameHeaderLen ≤ bytes.length
  · have htake : (bytes.take frameHeaderLen).length = frameHeaderLen := by
      rw [List.length_take]
      omega
    rcases decodePrefix_cases htake.ge with
      ⟨e', he⟩ | ⟨header, hh⟩
    · have hwhole := he (bytes.drop frameHeaderLen)
      have hfront := he []
      rw [List.take_append_drop] at hwhole
      rw [List.append_nil] at hfront
      simp [hwhole, hfront, hlen]
    · have hfront := decodePrefix_header htake.ge hh
      rw [List.take_take, Nat.min_self] at hh
      have hwhole := decodePrefix_header hlen hh
      rw [hwhole, hfront]
      split <;> split <;> simp
  · rw [decodePrefix_short (by omega)]
    simp [hlen]

theorem decodePrefix_complete (h : decodePrefix bytes = .ok (.complete frame consumed)) :
    consumed ≤ bytes.length ∧ frame.encode = bytes.take consumed := by
  by_cases hlen : frameHeaderLen ≤ bytes.length
  · rcases decodePrefix_cases hlen with ⟨e, he⟩ | ⟨header, hh⟩
    · have he := he []
      rw [List.append_nil, h] at he
      cases he
    · rw [decodePrefix_header hlen hh] at h
      split at h
      · cases h
      rename_i htotal
      cases h
      refine ⟨by omega, ?_⟩
      rw [encode, ← hh]
      exact (List.take_add ..).symm
  · rw [decodePrefix_short (by omega)] at h
    cases h

theorem decodePrefix_needMoreData (h : decodePrefix bytes = .ok (.needMoreData minimum)) :
    bytes.length < minimum ∧ ∀ more, (bytes ++ more).length < minimum →
      decodePrefix (bytes ++ more) = .ok (.needMoreData minimum) := by
  by_cases hlen : frameHeaderLen ≤ bytes.length
  · rcases decodePrefix_cases hlen with ⟨e, he⟩ | ⟨header, hh⟩
    · have he := he []
      rw [List.append_nil, h] at he
      cases he
    · rw [decodePrefix_header hlen hh] at h
      split at h
      case isFalse => cases h
      rename_i htotal
      cases h
      refine ⟨htotal, fun more hmore => ?_⟩
      have hlong : frameHeaderLen ≤ (bytes ++ more).length := by
        rw [List.length_append]
        omega
      rw [decodePrefix_header hlong (List.take_append_of_le_length hlen ▸ hh), dif_pos hmore]
  · rw [decodePrefix_short (by omega)] at h
    cases h
    exact ⟨by omega, fun more hmore => decodePrefix_short hmore⟩

/-- The frame codec as a prefix decoder. -/
def stream : PrefixDecoder ProtocolError Frame where
  encode := encode
  decode := decodePrefix
  headerLen := frameHeaderLen
  encode_ne_nil := encode_ne_nil
  decode_encode := decodePrefix_encode
  decode_complete := decodePrefix_complete
  decode_error := decodePrefix_error

end Frame

/-- The codec laws of one frame, for every continuation of the byte string. -/
theorem frame_codec_canonical :
    (∀ (frame : Frame) (rest : Bytes), Frame.decodePrefix (frame.encode ++ rest) =
      .ok (.complete frame frame.encode.length)) ∧
    (∀ (bytes : Bytes) (frame : Frame) (consumed : Nat),
      Frame.decodePrefix bytes = .ok (.complete frame consumed) →
        consumed ≤ bytes.length ∧ frame.encode = bytes.take consumed) ∧
    (∀ (bytes : Bytes) (minimum : Nat),
      Frame.decodePrefix bytes = .ok (.needMoreData minimum) →
        bytes.length < minimum ∧ ∀ (more : Bytes) (frame : Frame) (consumed : Nat),
          (bytes ++ more).length < minimum →
            Frame.decodePrefix (bytes ++ more) ≠ .ok (.complete frame consumed)) := by
  refine ⟨Frame.decodePrefix_encode, fun _ _ _ => Frame.decodePrefix_complete, ?_⟩
  intro bytes minimum h
  obtain ⟨hlt, hmore⟩ := Frame.decodePrefix_needMoreData h
  refine ⟨hlt, fun more frame consumed hshort hc => ?_⟩
  rw [hmore more hshort] at hc
  cases hc

theorem frame_codec_canonical_empty : (([] : Bytes).length < frameHeaderLen) ∧
    ∀ (more : Bytes) (frame : Frame) (consumed : Nat), ([] ++ more).length < frameHeaderLen →
      Frame.decodePrefix ([] ++ more) ≠ .ok (.complete frame consumed) :=
  frame_codec_canonical.2.2 [] frameHeaderLen rfl

end LadoFlow.Protocol
