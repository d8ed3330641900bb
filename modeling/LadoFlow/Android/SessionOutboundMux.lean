import LadoFlow.Android.PayloadCodec

/-!
# Outbound lanes of the display session

Payloads wait in three lanes. The writer takes the next payload by priority and only then assigns
the global sender sequence, so the order of the takes is the order on the wire.
-/

namespace LadoFlow.Android

open Framework
open Protocol (MessageType Frame Payload WirePayload)

/-- A payload of any message family. -/
structure AnyPayload where
  messageType : MessageType
  value : KotlinPayload messageType

namespace LdflFrame

def fromPayload (flags : FrameFlags) (sequence : UInt64) (payload : AnyPayload) :
    Except LdflProtocolException LdflFrame := do
  LdflFrame.new payload.messageType flags sequence
    (← PayloadCodec.encode payload.messageType payload.value)

def decodePayload (frame : LdflFrame) : Except LdflProtocolException AnyPayload := do
  .ok ⟨frame.messageType, ← PayloadCodec.decode frame.messageType frame.payload⟩

/-- Framing a payload in either language gives the same frame, and reading it back gives the
payload in both. -/
theorem exists_framed (kind : MessageType) (v : Payload kind) (flags : Protocol.FrameFlags)
    (sequence : UInt64) : ∃ frame : Frame,
      Frame.fromPayload flags sequence v = .ok frame ∧ frame.header.kind = kind ∧
      frame.header.sequence = sequence ∧ frame.decodePayload (Payload kind) = .ok v ∧
      fromPayload (widenBits mask111 flags) sequence ⟨kind, PayloadCodec.ofPayload kind v⟩ =
        .ok (FrameCodec.ofFrame frame) ∧
      (FrameCodec.ofFrame frame).decodePayload = .ok ⟨kind, PayloadCodec.ofPayload kind v⟩ := by
  obtain ⟨bytes, hencode, hlimit, hdecode⟩ :=
    (Payload.canonical kind).encode_valid v (Payload.constructible kind v)
  have hwire := PayloadCodec.wireEquivalent kind
  obtain ⟨frame, hframe⟩ := Frame.new_of_le hlimit flags sequence
  obtain ⟨hkind, hflags, hsequence, hpayload⟩ := Frame.new_eq_ok.mp hframe
  rw [Payload.kind_eq] at hkind
  subst hkind hflags hsequence hpayload
  have hkotlin : PayloadCodec.encode frame.header.kind (PayloadCodec.ofPayload _ v) =
      .ok (signed frame.payload) := by
    have h := hwire.encode_eq v
    rw [hencode] at h
    exact toOption_eq_some.mp h
  have hback : PayloadCodec.decode frame.header.kind (signed frame.payload) =
      .ok (PayloadCodec.ofPayload _ v) := by
    have h := hwire.decode_eq frame.payload
    rw [hdecode] at h
    exact toOption_eq_some.mp h
  refine ⟨frame, ?_, rfl, rfl, ?_, ?_, ?_⟩
  · rw [Frame.fromPayload, hencode, bind_ok, hframe]
  · rw [Frame.decodePayload, if_neg (by simp [Payload.kind_eq]), hdecode]
  · change (PayloadCodec.encode frame.header.kind (PayloadCodec.ofPayload _ v) >>= _) = _
    rw [hkotlin, bind_ok, LdflFrame.new]
    exact dif_pos (FrameCodec.ofFrame frame).payload_le
  · change (PayloadCodec.decode frame.header.kind (signed frame.payload) >>= _) = _
    rw [hback]
    rfl

end LdflFrame

def FrameFlags.none : FrameFlags := .of 0 (.refl true)
def FrameFlags.keyframe : FrameFlags := .of 1 (.refl true)

structure OutboundPayload where
  payload : AnyPayload
  flags : FrameFlags

/-- `coalescibleInputCapacity` -/
def coalescibleInputCapacity : Nat := 32

/-- The queued payloads of each lane. A sender suspended on a full control or critical lane keeps
its place in the lane. -/
structure SessionOutboundMux where
  control : List OutboundPayload
  criticalInput : List OutboundPayload
  coalescibleInput : List OutboundPayload
  nextSequence : UInt64
  sequenceExhausted : Bool

namespace SessionOutboundMux

def new : SessionOutboundMux := ⟨[], [], [], 0, false⟩

def sendControl (mux : SessionOutboundMux) (payload : AnyPayload) : SessionOutboundMux :=
  { mux with control := mux.control ++ [⟨payload, .none⟩] }

def sendCriticalInput (mux : SessionOutboundMux) (payload : InputPayload) : SessionOutboundMux :=
  { mux with criticalInput := mux.criticalInput ++ [⟨⟨.input, payload⟩, .none⟩] }

def trySendCoalescibleInput (mux : SessionOutboundMux) (payload : InputPayload) :
    Bool × SessionOutboundMux :=
  if mux.coalescibleInput.length < coalescibleInputCapacity then
    (true, { mux with coalescibleInput := mux.coalescibleInput ++ [⟨⟨.input, payload⟩, .none⟩] })
  else (false, mux)

/-- The payload the writer takes: control before critical input before motion. -/
def receiveNext (mux : SessionOutboundMux) : Option (OutboundPayload × SessionOutboundMux) :=
  match mux.control, mux.criticalInput, mux.coalescibleInput with
  | payload :: control, _, _ => some (payload, { mux with control })
  | [], payload :: criticalInput, _ => some (payload, { mux with criticalInput })
  | [], [], payload :: coalescibleInput => some (payload, { mux with coalescibleInput })
  | [], [], [] => none

/-- One turn of the write loop up to the call of `sendFrame`. -/
def writeNext (mux : SessionOutboundMux) :
    Option (Except String LdflFrame × SessionOutboundMux) :=
  match mux.receiveNext with
  | none => none
  | some (outbound, mux) =>
    if mux.sequenceExhausted then some (.error "LDFL sender sequence exhausted", mux)
    else
    let sequence := mux.nextSequence
    let mux :=
      if mux.nextSequence = 0xFFFFFFFFFFFFFFFF then { mux with sequenceExhausted := true }
      else { mux with nextSequence := mux.nextSequence + 1 }
    match LdflFrame.fromPayload outbound.flags sequence outbound.payload with
    | .ok frame => some (.ok frame, mux)
    | .error exception => some (.error exception.message, mux)

end SessionOutboundMux

end LadoFlow.Android
