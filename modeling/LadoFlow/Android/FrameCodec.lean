import LadoFlow.Android.Binary
import LadoFlow.Protocol.WirePayload

/-!
# Kotlin frame codec

`FrameCodec` of the Android application, and its agreement with the Rust frame codec on every
byte string. Both codecs share the enumeration of message families; the wire values and limits
below are those of the Kotlin tables.
-/

namespace LadoFlow.Android

open Framework
open Protocol (MessageType Frame FrameHeader WirePayload)

def ldflProtocolVersion : Int32 := 1
def ldflFrameHeaderBytes : Nat := 24
def ldflMaxControlPayloadBytes : Nat := 64 * 1024
def ldflMaxMediaPayloadBytes : Nat := 16 * 1024 * 1024
def ldflDefaultBufferLimitBytes : Nat := 2 * (ldflFrameHeaderBytes + ldflMaxMediaPayloadBytes)

def frameMagic : SignedBytes := [76, 68, 70, 76]

/-- Kotlin `Int.toString(16)`. -/
def toHex (value : Int32) : String :=
  let digits := String.ofList (Nat.toDigits 16 value.toInt.natAbs)
  if value < 0 then "-" ++ digits else digits

namespace MessageType

def wireValue : MessageType → Int32
  | .hello => 1
  | .capabilities => 2
  | .displayConfig => 3
  | .videoFrame => 4
  | .input => 5
  | .telemetry => 6
  | .ping => 7
  | .pong => 8
  | .error => 9

def payloadLimit : MessageType → Nat
  | .hello => ldflMaxControlPayloadBytes
  | .capabilities => ldflMaxControlPayloadBytes
  | .displayConfig => ldflMaxControlPayloadBytes
  | .videoFrame => ldflMaxMediaPayloadBytes
  | .input => ldflMaxControlPayloadBytes
  | .telemetry => ldflMaxControlPayloadBytes
  | .ping => ldflMaxControlPayloadBytes
  | .pong => ldflMaxControlPayloadBytes
  | .error => ldflMaxControlPayloadBytes

def name : MessageType → String
  | .hello => "Hello"
  | .capabilities => "Capabilities"
  | .displayConfig => "DisplayConfig"
  | .videoFrame => "VideoFrame"
  | .input => "Input"
  | .telemetry => "Telemetry"
  | .ping => "Ping"
  | .pong => "Pong"
  | .error => "Error"

def fromWire (value : Int32) : Except LdflProtocolException MessageType :=
  decodeTagOr Protocol.MessageType.entries wireValue value
    ⟨.unknownMessageType, s!"Unknown LDFL message type {value}"⟩

theorem wireValue_eq (kind : MessageType) : wireValue kind = widen16 kind.code := by
  cases kind <;> rfl

theorem payloadLimit_eq (kind : MessageType) : payloadLimit kind = kind.payloadLimit := by
  cases kind <;> rfl

theorem fromWire_eq_ok {value : UInt16} {kind : MessageType} :
    fromWire (widen16 value) = .ok kind ↔ value = kind.code := by
  rw [← widen16_inj, ← wireValue_eq]
  exact decodeTagOr_eq_ok _ wireValue (by intro k; cases k <;> decide)
    (by intro a b; cases a <;> cases b <;> decide)

end MessageType

section Masks

variable {mask : UInt16} {wide : Int32}

/-- The Kotlin value of a 16-bit set, for the same mask. -/
def widenBits (hmask : wide = widen16 mask) (set : BitSet mask) : BitSet wide :=
  ⟨widen16 set.bits, hmask ▸ widen16_known.mpr set.known⟩

theorem ofBits_widen {ε : Type} (hmask : wide = widen16 mask) {bits : UInt16} {error : ε}
    {set : BitSet mask} :
    BitSet.ofBits (widen16 bits) error = .ok (widenBits hmask set) ↔ bits = set.bits := by
  rw [BitSet.ofBits_eq_ok]
  exact widen16_inj

theorem widenBits_bijective (hmask : wide = widen16 mask) :
    Function.Bijective (widenBits hmask) := by
  constructor
  · intro a b h
    exact BitSet.ext (widen16_inj.mp (congrArg BitSet.bits h))
  · rintro ⟨bits, hknown⟩
    subst hmask
    -- A bit above the field width is outside the mask.
    have hback : widen16 bits.toUInt32.toUInt16 = bits := by
      apply Int32.toBitVec_inj.mp
      change (bits.toBitVec.setWidth 16).setWidth 32 = bits.toBitVec
      have hzero : bits.toBitVec &&& ~~~mask.toBitVec.setWidth 32 = 0#32 :=
        congrArg Int32.toBitVec hknown
      ext i hi
      have hbit := congrArg (fun v : BitVec 32 => v[i]) hzero
      simp only [BitVec.getElem_and, BitVec.getElem_not, BitVec.getElem_setWidth,
        BitVec.getElem_zero] at hbit
      simp only [BitVec.getElem_setWidth, BitVec.getLsbD_setWidth]
      by_cases h16 : i < 16
      · simp [h16, BitVec.getLsbD_eq_getElem hi]
      · simp_all [BitVec.getLsbD_of_ge mask.toBitVec i (by omega)]
    refine ⟨⟨bits.toUInt32.toUInt16, ?_⟩, BitSet.ext hback⟩
    rw [← widen16_known, hback]
    exact hknown

end Masks

/-- The mask of the flag families with three known bits. -/
theorem mask111 : (0b111 : Int32) = widen16 0b111 := rfl

abbrev FrameFlags := BitSet (0b111 : Int32)

def FrameFlags.fromBits (bits : Int32) : Except LdflProtocolException FrameFlags :=
  BitSet.ofBits bits ⟨.unknownFrameFlags,
    "Unknown LDFL frame flags 0x" ++ ((toHex bits).leftpad 4 '0')⟩

structure LdflFrame where
  messageType : MessageType
  flags : FrameFlags
  sequence : UInt64
  payload : SignedBytes
  payload_le : payload.length ≤ MessageType.payloadLimit messageType
  deriving DecidableEq

def LdflFrame.new (messageType : MessageType) (flags : FrameFlags) (sequence : UInt64)
    (payload : SignedBytes) : Except LdflProtocolException LdflFrame :=
  if h : payload.length ≤ MessageType.payloadLimit messageType then
    .ok { messageType, flags, sequence, payload, payload_le := h }
  else protocolFailure .payloadTooLarge
    (MessageType.name messageType ++ s!" payload is {payload.length} bytes; " ++
      s!"limit is {MessageType.payloadLimit messageType} bytes")

namespace FrameCodec

def encode (frame : LdflFrame) : Except LdflProtocolException SignedBytes := do
  .ok (frameMagic ++ (← writeU16 ldflProtocolVersion) ++ (← writeU16 24) ++
    (← writeU16 (MessageType.wireValue frame.messageType)) ++ (← writeU16 frame.flags.bits) ++
    writeU64 frame.sequence ++ writeU32 (UInt32.ofNat frame.payload.length) ++ frame.payload)

/-- The validated header fields: family, flags, sequence and payload length. -/
def decodeHeader (bytes : SignedBytes) (offset : Nat) :
    Except LdflProtocolException (MessageType × FrameFlags × UInt64 × Nat) := do
  if (List.range 4).any fun index => bytes.getD (offset + index) 0 != frameMagic.getD index 0 then
    protocolFailure .invalidMagic "Invalid LDFL frame magic"
  else
  let version := readU16 bytes (offset + 4)
  requireProtocol (version = ldflProtocolVersion)
    s!"Unsupported LDFL version {version}; supported version is {ldflProtocolVersion}"
    .unsupportedVersion
  let headerLength := readU16 bytes (offset + 6)
  requireProtocol (headerLength = 24) s!"Invalid LDFL header length {headerLength}"
    .invalidHeaderLength
  let messageType ← MessageType.fromWire (readU16 bytes (offset + 8))
  let flags ← FrameFlags.fromBits (readU16 bytes (offset + 10))
  let sequence := readU64 bytes (offset + 12)
  let payloadLength := (readU32 bytes (offset + 20)).toNat
  requireProtocol (payloadLength ≤ MessageType.payloadLimit messageType)
    (MessageType.name messageType ++ s!" payload is {payloadLength} bytes; " ++
      s!"limit is {MessageType.payloadLimit messageType} bytes") .payloadTooLarge
  .ok (messageType, flags, sequence, payloadLength)

/-- Decode the frame at `offset`, which the caller keeps within the array. -/
def decodePrefix (bytes : SignedBytes) (offset : Nat) :
    Except LdflProtocolException (DecodeOutcome LdflFrame) := do
  let available := bytes.length - offset
  if available < ldflFrameHeaderBytes then .ok (.needMoreData ldflFrameHeaderBytes) else
  let (messageType, flags, sequence, payloadLength) ← decodeHeader bytes offset
  let totalLength := ldflFrameHeaderBytes + payloadLength
  if available < totalLength then .ok (.needMoreData totalLength) else
  let payloadOffset := offset + ldflFrameHeaderBytes
  let frame ← LdflFrame.new messageType flags sequence ((bytes.drop payloadOffset).take payloadLength)
  .ok (.complete frame totalLength)

/-- The Kotlin frame with the field values of a Rust frame. -/
def ofFrame (frame : Frame) : LdflFrame where
  messageType := frame.header.kind
  flags := widenBits mask111 frame.header.flags
  sequence := frame.header.sequence
  payload := signed frame.payload
  payload_le := by
    rw [signed_length, MessageType.payloadLimit_eq, frame.payload_length]
    exact frame.header.payloadLen_le

theorem ofFrame_bijective : Function.Bijective ofFrame := by
  constructor
  · intro a b h
    simp only [ofFrame, LdflFrame.mk.injEq] at h
    obtain ⟨hkind, hflags, hsequence, hpayload⟩ := h
    have hpayload := signed_inj.mp hpayload
    have hflags := (widenBits_bijective mask111).1 hflags
    have ha := a.new_self
    rw [hkind, hflags, hsequence, hpayload, b.new_self] at ha
    injection ha with ha
    exact ha.symm
  · rintro ⟨kind, flags, sequence, payload, hle⟩
    obtain ⟨flags, rfl⟩ := (widenBits_bijective mask111).2 flags
    have hle : (unsigned payload).length ≤ kind.payloadLimit := by
      rw [← signed_length, signed_unsigned, ← MessageType.payloadLimit_eq]
      exact hle
    obtain ⟨frame, hframe⟩ := Frame.new_of_le hle flags sequence
    obtain ⟨rfl, rfl, rfl, hpayload⟩ := Frame.new_eq_ok.mp hframe
    refine ⟨frame, ?_⟩
    simp only [ofFrame, hpayload, signed_unsigned]

theorem encode_ofFrame (frame : Frame) : encode (ofFrame frame) = .ok (signed frame.encode) := by
  have hmagic : frameMagic = signed Protocol.frameMagic := by decide
  have hversion : ldflProtocolVersion = widen16 frame.header.version := by
    rw [frame.header.version_eq]
    rfl
  have hheader : (24 : Int32) = widen16 Protocol.frameHeaderLenU16 := rfl
  have hlen : UInt32.ofNat frame.payload.length = frame.header.payloadLen := by
    rw [frame.payload_length]
    exact UInt32.ofNat_toNat
  simp only [encode, ofFrame, hversion, hheader, MessageType.wireValue_eq, widenBits,
    writeU16_widen16, bind_ok, writeU64_eq, writeU32_eq, signed_length, hlen, hmagic,
    Frame.encode, FrameHeader.encode, signed_append]

variable {bytes : Bytes} {offset : Nat}

private theorem magic_iff (h : offset + 4 ≤ bytes.length) :
    ((List.range 4).any fun index =>
      (signed bytes).getD (offset + index) 0 != frameMagic.getD index 0) = false ↔
      (bytes.drop offset).take 4 = Protocol.frameMagic := by
  have hbyte (a : UInt8) (b : UInt8) : a.toInt8 = b.toInt8 ↔ a = b :=
    ⟨fun heq => congrArg Int8.toUInt8 heq, congrArg UInt8.toInt8⟩
  rw [take_drop_cons bytes _ (by omega), take_drop_cons bytes _ (by omega),
    take_drop_cons bytes _ (by omega), take_drop_cons bytes _ (by omega)]
  simp only [List.range, List.range.loop, List.any_cons, List.any_nil, Nat.add_zero]
  rw [getD_signed bytes _ (by omega), getD_signed bytes _ (by omega),
    getD_signed bytes _ (by omega), getD_signed bytes _ (by omega)]
  generalize bytes.getD offset 0 = b0, bytes.getD (offset + 1) 0 = b1,
    bytes.getD (offset + 2) 0 = b2, bytes.getD (offset + 3) 0 = b3
  change (b0.toInt8 != UInt8.toInt8 0x4c || (b1.toInt8 != UInt8.toInt8 0x44 ||
    (b2.toInt8 != UInt8.toInt8 0x46 || (b3.toInt8 != UInt8.toInt8 0x4c || false)))) = false ↔ _
  simp only [Bool.or_eq_false_iff, bne_eq_false_iff_eq, hbyte, Protocol.frameMagic,
    List.cons.injEq, List.take_zero, and_true]

/-- The Kotlin header checks accept what the Rust header decoder accepts. -/
theorem decodeHeader_eq_ok (h : offset + 24 ≤ bytes.length)
    {kind : MessageType} {flags : Protocol.FrameFlags} {sequence : UInt64} {n : Nat} :
    decodeHeader (signed bytes) offset = .ok (kind, widenBits mask111 flags, sequence, n) ↔
      ∃ header, FrameHeader.decode ((bytes.drop offset).take 24) = .ok header ∧
        header.kind = kind ∧ header.flags = flags ∧ header.sequence = sequence ∧
        header.payloadLen.toNat = n := by
  simp only [decodeHeader]
  rw [readU16_signed _ _ (by omega), readU16_signed _ _ (by omega), readU16_signed _ _ (by omega),
    readU16_signed _ _ (by omega), readU32_signed _ _ (by omega), readU64_signed _ _ (by omega)]
  simp (disch := simp) only [FrameHeader.decode_eq_ok, Protocol.readU16, Protocol.readU32,
    Protocol.readU64, readWord_take, readWord_drop, List.take_take]
  constructor
  · intro hk
    split at hk
    · cases hk
    rename_i hmagic
    have hmagic : (bytes.drop offset).take 4 = Protocol.frameMagic :=
      (magic_iff (by omega)).mp (Bool.not_eq_true _ ▸ hmagic)
    simp only [bind_eq_ok, requireProtocol_eq_ok, MessageType.fromWire_eq_ok, Except.ok.injEq,
      Prod.mk.injEq, FrameFlags.fromBits] at hk
    obtain ⟨_, hversion, _, hheader, _, hkind, _, hflags, _, hle, rfl, rfl, rfl, rfl⟩ := hk
    have hversion : readWord bytes (offset + 4) = Protocol.protocolVersion :=
      widen16_inj.mp hversion
    have hheader : readWord bytes (offset + 6) = Protocol.frameHeaderLenU16 :=
      widen16_inj.mp hheader
    rw [MessageType.payloadLimit_eq] at hle
    exact ⟨⟨Protocol.protocolVersion, _, flags, readWord bytes (offset + 12),
      readWord bytes (offset + 20), rfl, hle⟩, ⟨by simpa using hmagic, hversion, hheader, hkind,
        (ofBits_widen mask111).mp hflags, rfl, rfl⟩, rfl, rfl, rfl, rfl⟩
  · rintro ⟨header, ⟨hmagic, hversion, hheader, hkind, hflags, hsequence, hpayload⟩, rfl, rfl, rfl,
      rfl⟩
    rw [if_neg (by rw [(magic_iff (by omega)).mpr (by simpa using hmagic)]; decide)]
    have hle := header.payloadLen_le
    rw [header.version_eq] at hversion
    rw [requireProtocol_of (by rw [hversion]; rfl), bind_ok,
      requireProtocol_of (by rw [hheader]; rfl), bind_ok,
      MessageType.fromWire_eq_ok.mpr hkind, bind_ok, FrameFlags.fromBits,
      (ofBits_widen mask111).mpr hflags, bind_ok,
      requireProtocol_of (by rw [hpayload, MessageType.payloadLimit_eq]; exact hle), bind_ok,
      hsequence, hpayload]

/-- Both frame decoders agree on complete, incomplete and malformed input at every offset. -/
theorem decodePrefix_signed (h : offset ≤ bytes.length) :
    (decodePrefix (signed bytes) offset).toOption =
      (Frame.decodePrefix (bytes.drop offset)).toOption.map (DecodeOutcome.map ofFrame) := by
  have hlen : (bytes.drop offset).length = bytes.length - offset := List.length_drop
  have hheader : ldflFrameHeaderBytes = Protocol.frameHeaderLen := rfl
  rw [decodePrefix, signed_length, ← hlen, hheader]
  by_cases hshort : (bytes.drop offset).length < Protocol.frameHeaderLen
  · rw [Frame.decodePrefix_short hshort, if_pos hshort]
    rfl
  rw [if_neg hshort]
  have hroom : offset + 24 ≤ bytes.length := by
    rw [Protocol.frameHeaderLen] at hshort
    omega
  cases hd : FrameHeader.decode ((bytes.drop offset).take Protocol.frameHeaderLen) with
  | error e =>
    have hrust : Frame.decodePrefix (bytes.drop offset) = .error e := by
      rw [Frame.decodePrefix, if_neg hshort, hd, bind_error]
    cases hk : decodeHeader (signed bytes) offset with
    | error e' =>
      rw [hrust, bind_error]
      rfl
    | ok fields =>
      obtain ⟨kind, flags, sequence, n⟩ := fields
      obtain ⟨flags, rfl⟩ := (widenBits_bijective mask111).2 flags
      obtain ⟨header, hd', -⟩ := (decodeHeader_eq_ok hroom).mp hk
      change FrameHeader.decode ((bytes.drop offset).take Protocol.frameHeaderLen) = _ at hd'
      rw [hd] at hd'
      cases hd'
  | ok header =>
    have hk := (decodeHeader_eq_ok hroom).mpr ⟨header, hd, rfl, rfl, rfl, rfl⟩
    have htake : ((bytes.drop offset).take Protocol.frameHeaderLen).length =
        Protocol.frameHeaderLen := by
      rw [List.length_take]
      omega
    have hrust := Frame.decodePrefix_header (by omega)
      (FrameHeader.encode_eq_iff.mpr ⟨htake, hd⟩).symm
    rw [hk, bind_ok, hrust]
    dsimp only
    by_cases htotal : (bytes.drop offset).length <
        Protocol.frameHeaderLen + header.payloadLen.toNat
    · rw [if_pos htotal, dif_pos htotal]
      rfl
    · have hpayload : (signed bytes).drop (offset + Protocol.frameHeaderLen) =
          signed ((bytes.drop offset).drop Protocol.frameHeaderLen) := by
        rw [signed_drop, signed_drop, List.drop_drop]
      have hle := header.payloadLen_le
      rw [← MessageType.payloadLimit_eq] at hle
      rw [if_neg htotal, dif_neg htotal, hpayload, ← signed_take, LdflFrame.new,
        dif_pos (by simp only [signed_length, List.length_take]; omega), bind_ok]
      rfl

end FrameCodec

/-- A Kotlin payload class and the Rust type it mirrors. `ofRust` copies the field values. -/
class LdflPayload (α : Type) (κ : outParam Type) [WirePayload α] where
  ofRust : α → κ
  encode : κ → Except LdflProtocolException SignedBytes
  decode : SignedBytes → Except LdflProtocolException κ

/-- Equal field values have equal encodings, and the decoders accept the same strings. -/
structure WireEquivalent (α : Type) {κ : Type} [WirePayload α] [LdflPayload α κ] : Prop where
  bijective : Function.Bijective (LdflPayload.ofRust : α → κ)
  encode_eq : ∀ v : α, (LdflPayload.encode α (LdflPayload.ofRust v)).toOption =
    (WirePayload.encode v).toOption.map signed
  decode_eq : ∀ bytes : Bytes, (LdflPayload.decode α (signed bytes)).toOption =
    (WirePayload.decode bytes : Except _ α).toOption.map LdflPayload.ofRust

theorem wireEquivalent_of {α κ : Type} [WirePayload α] [LdflPayload α κ] {wire : α → Bytes}
    (hbijective : Function.Bijective (LdflPayload.ofRust : α → κ))
    (hencode : ∀ v : α, WirePayload.encode v = .ok (wire v))
    (hdecode : ∀ (bytes : Bytes) (v : α), WirePayload.decode bytes = .ok v ↔ wire v = bytes)
    (hencode' : ∀ v : α, LdflPayload.encode α (LdflPayload.ofRust v) = .ok (signed (wire v)))
    (hdecode' : ∀ (bytes : Bytes) (v : α),
      LdflPayload.decode α (signed bytes) = .ok (LdflPayload.ofRust v) ↔ wire v = bytes) :
    WireEquivalent α where
  bijective := hbijective
  encode_eq := by
    intro v
    rw [hencode v, hencode' v]
    rfl
  decode_eq := by
    intro bytes
    cases hr : (WirePayload.decode bytes : Except _ α) with
    | ok v =>
      rw [(hdecode' bytes v).mpr ((hdecode bytes v).mp hr)]
      rfl
    | error e =>
      cases hk : LdflPayload.decode α (signed bytes) with
      | error e' => rfl
      | ok w =>
        obtain ⟨v, rfl⟩ := hbijective.2 w
        rw [(hdecode bytes v).mpr ((hdecode' bytes v).mp hk)] at hr
        cases hr

end LadoFlow.Android
