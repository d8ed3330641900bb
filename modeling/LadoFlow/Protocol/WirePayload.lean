import LadoFlow.Protocol.Frame

/-!
# Typed payloads

The interface of every payload that can be placed inside a frame, and the laws its codec has to
satisfy: each value the public constructor accepts has one encoding within the frame family's
limit, and the decoder accepts nothing else.
-/

namespace LadoFlow.Protocol

open Framework

def stringFromUtf8 (bytes : Bytes) : Except ProtocolError String :=
  match fromUtf8 bytes with
  | some text => .ok text
  | none => .error .invalidUtf8

theorem stringFromUtf8_eq_ok {bytes : Bytes} {text : String} :
    stringFromUtf8 bytes = .ok text ↔ utf8Bytes text = bytes := by
  rw [← fromUtf8_eq_some, stringFromUtf8]
  cases fromUtf8 bytes <;> simp

/-- Typed payload that can be placed inside a protocol frame. `rebuild` is the public
constructor applied to the value's own fields. -/
class WirePayload (α : Type) where
  kind : MessageType
  rebuild : α → Except ProtocolError α
  encode : α → Except ProtocolError Bytes
  decode : Bytes → Except ProtocolError α

/-- Values that the public constructor returns. -/
def Constructible {α : Type} [WirePayload α] (value : α) : Prop :=
  WirePayload.rebuild value = .ok value

/-- The codec of a payload type is canonical within its frame family's limit. -/
def CanonicalPayload (α : Type) [WirePayload α] : Prop :=
  Canonical (Constructible : α → Prop) WirePayload.encode WirePayload.decode
    (WirePayload.kind α).payloadLimit

theorem canonicalPayload_of {α : Type} [WirePayload α] {wire : α → Bytes}
    (hrebuild : ∀ v : α, Constructible v)
    (hencode : ∀ v : α, WirePayload.encode v = .ok (wire v))
    (hlimit : ∀ v : α, (wire v).length ≤ (WirePayload.kind α).payloadLimit)
    (hdecode : ∀ (bytes : Bytes) (v : α), WirePayload.decode bytes = .ok v ↔ wire v = bytes) :
    CanonicalPayload α where
  encode_valid v _ := ⟨wire v, hencode v, hlimit v, (hdecode _ v).mpr rfl⟩
  decode_valid bytes v h := ⟨hrebuild v, by rw [hencode, (hdecode bytes v).mp h]⟩

namespace Frame

variable {α : Type} [WirePayload α]

/-- Encode a typed payload in a frame with its required kind. -/
def fromPayload (flags : FrameFlags) (sequence : UInt64) (payload : α) :
    Except ProtocolError Frame := do
  Frame.new (WirePayload.kind α) flags sequence (← WirePayload.encode payload)

/-- Decode the frame as a typed payload after checking its kind. -/
def decodePayload (α : Type) [WirePayload α] (frame : Frame) : Except ProtocolError α :=
  if frame.header.kind ≠ WirePayload.kind α then
    .error (.unexpectedMessageType (WirePayload.kind α) frame.header.kind)
  else WirePayload.decode frame.payload

/-- A payload survives being framed and read back. -/
theorem decodePayload_fromPayload (h : CanonicalPayload α) {value : α}
    (hv : Constructible value) (flags : FrameFlags) (sequence : UInt64) :
    ∃ frame, fromPayload flags sequence value = .ok frame ∧ frame.header.sequence = sequence ∧
      frame.decodePayload α = .ok value := by
  obtain ⟨bytes, hencode, hlimit, hdecode⟩ := h.encode_valid value hv
  obtain ⟨frame, hframe⟩ := new_of_le hlimit flags sequence
  obtain ⟨hkind, -, hsequence, hpayload⟩ := new_eq_ok.mp hframe
  refine ⟨frame, by rw [fromPayload, hencode, bind_ok, hframe], hsequence, ?_⟩
  rw [decodePayload, if_neg (by simpa using hkind), hpayload, hdecode]

end Frame

end LadoFlow.Protocol
