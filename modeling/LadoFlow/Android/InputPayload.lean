import LadoFlow.Android.ControlPayloads
import LadoFlow.Protocol.Input

/-!
# Kotlin input events
-/

namespace LadoFlow.Android

open Framework
open Protocol (ButtonState PointerButton TouchPhase InputEventKind InputEvent)

def maxTouchContacts : Int32 := 16
def inputHeaderBytes : Nat := 9

namespace ButtonState

def wireValue : ButtonState → Int32
  | .released => 0
  | .pressed => 1

def fromWire (value : Int32) : Except LdflProtocolException ButtonState :=
  decodeTagOr Protocol.ButtonState.entries wireValue value
    ⟨.invalidPayload, s!"Unknown button state {value}"⟩

theorem wireValue_eq (state : ButtonState) : wireValue state = widen8 state.code := by
  cases state <;> rfl

theorem fromWire_eq_ok {value : UInt8} {state : ButtonState} :
    fromWire (widen8 value) = .ok state ↔ value = state.code := by
  rw [← widen8_inj, ← wireValue_eq]
  exact decodeTagOr_eq_ok _ wireValue (by intro k; cases k <;> decide)
    (by intro a b; cases a <;> cases b <;> decide)

end ButtonState

namespace PointerButton

def wireValue : PointerButton → Int32
  | .primary => 1
  | .secondary => 2
  | .middle => 3
  | .back => 4
  | .forward => 5

def fromWire (value : Int32) : Except LdflProtocolException PointerButton :=
  decodeTagOr Protocol.PointerButton.entries wireValue value
    ⟨.invalidPayload, s!"Unknown pointer button {value}"⟩

theorem wireValue_eq (button : PointerButton) : wireValue button = widen8 button.code := by
  cases button <;> rfl

theorem fromWire_eq_ok {value : UInt8} {button : PointerButton} :
    fromWire (widen8 value) = .ok button ↔ value = button.code := by
  rw [← widen8_inj, ← wireValue_eq]
  exact decodeTagOr_eq_ok _ wireValue (by intro k; cases k <;> decide)
    (by intro a b; cases a <;> cases b <;> decide)

end PointerButton

namespace TouchPhase

def wireValue : TouchPhase → Int32
  | .begin => 1
  | .move => 2
  | .end => 3
  | .cancel => 4

def fromWire (value : Int32) : Except LdflProtocolException TouchPhase :=
  decodeTagOr Protocol.TouchPhase.entries wireValue value
    ⟨.invalidPayload, s!"Unknown touch phase {value}"⟩

theorem wireValue_eq (phase : TouchPhase) : wireValue phase = widen8 phase.code := by
  cases phase <;> rfl

theorem fromWire_eq_ok {value : UInt8} {phase : TouchPhase} :
    fromWire (widen8 value) = .ok phase ↔ value = phase.code := by
  rw [← widen8_inj, ← wireValue_eq]
  exact decodeTagOr_eq_ok _ wireValue (by intro k; cases k <;> decide)
    (by intro a b; cases a <;> cases b <;> decide)

end TouchPhase

abbrev KeyModifiers := BitSet (0b111111 : Int32)

theorem mask111111 : (0b111111 : Int32) = widen16 0b111111 := rfl

def KeyModifiers.fromBits (bits : Int32) : Except LdflProtocolException KeyModifiers :=
  BitSet.ofBits bits ⟨.invalidPayload, "Unknown keyboard modifier bits 0x" ++ toHex bits⟩

inductive InputEventBody where
  | pointerMoveInput (x y : Int32)
  | pointerButtonInput (button : PointerButton) (state : ButtonState)
  | wheelInput (deltaX deltaY : Int16)
  | keyInput (usage : Int32) (state : ButtonState) (modifiers : KeyModifiers)
  | touchInput (contactId : Int32) (phase : TouchPhase) (x y pressure : Int32)
  | focusInput (focused : Bool)
  deriving DecidableEq

def requireCoordinate (value : Int32) (name : String) : Except LdflProtocolException Unit :=
  requireProtocol (0 ≤ value ∧ value ≤ 0xffff) (name ++ " must fit an unsigned 16-bit field")

namespace InputEventBody

def wireKind : InputEventBody → Int32
  | .pointerMoveInput .. => 1
  | .pointerButtonInput .. => 2
  | .wheelInput .. => 3
  | .keyInput .. => 4
  | .touchInput .. => 5
  | .focusInput .. => 6

/-- The checks of the event constructors. -/
def init : InputEventBody → Except LdflProtocolException Unit
  | .pointerMoveInput x y => do
    requireCoordinate x "x"
    requireCoordinate y "y"
  | .pointerButtonInput .. => .ok ()
  | .wheelInput .. => .ok ()
  | .keyInput usage _ _ =>
    requireProtocol (1 ≤ usage ∧ usage ≤ 0xffff) "Keyboard HID usage must be a non-zero u16"
  | .touchInput contactId _ x y pressure => do
    requireProtocol (0 ≤ contactId ∧ contactId < maxTouchContacts)
      "Touch contact identifier is out of range"
    requireCoordinate x "x"
    requireCoordinate y "y"
    requireCoordinate pressure "pressure"
  | .focusInput _ => .ok ()

/-- The bytes of an event after its timestamp and kind. -/
def encode : InputEventBody → Except LdflProtocolException SignedBytes
  | .pointerMoveInput x y => do .ok ((← writeU16 x) ++ (← writeU16 y))
  | .pointerButtonInput button state => do
    .ok ((← writeU8 (PointerButton.wireValue button)) ++ (← writeU8 (ButtonState.wireValue state)))
  | .wheelInput deltaX deltaY => do .ok ((← writeI16 deltaX) ++ (← writeI16 deltaY))
  | .keyInput usage state modifiers => do
    .ok ((← writeU16 usage) ++ (← writeU8 (ButtonState.wireValue state)) ++
      (← writeU16 modifiers.bits))
  | .touchInput contactId phase x y pressure => do
    .ok ((← writeU8 contactId) ++ (← writeU8 (TouchPhase.wireValue phase)) ++ (← writeU16 x) ++
      (← writeU16 y) ++ (← writeU16 pressure))
  | .focusInput focused => writeU8 (booleanValue focused)

/-- The Kotlin event with the field values of a Rust event. -/
def ofKind : InputEventKind → InputEventBody
  | .pointerMove x y => .pointerMoveInput (widen16 x) (widen16 y)
  | .pointerButton button state => .pointerButtonInput button state
  | .wheel deltaX deltaY => .wheelInput deltaX deltaY
  | .key usage state modifiers => .keyInput (widen16 usage) state (widenBits mask111111 modifiers)
  | .touch contactId phase x y pressure =>
    .touchInput (widen8 contactId) phase (widen16 x) (widen16 y) (widen16 pressure)
  | .focus focused => .focusInput focused

theorem wireKind_ofKind (kind : InputEventKind) : wireKind (ofKind kind) = widen8 kind.wireKind := by
  cases kind <;> rfl

theorem encode_ofKind (kind : InputEventKind) : encode (ofKind kind) = .ok (signed kind.wire) := by
  cases kind <;>
    simp only [encode, ofKind, InputEventKind.wire, PointerButton.wireValue_eq,
      ButtonState.wireValue_eq, TouchPhase.wireValue_eq, booleanValue_eq, widenBits,
      writeU16_widen16, writeU8_widen8, writeI16_eq, bind_ok, signed_append]

theorem requireCoordinate_widen16 (value : UInt16) (name : String) :
    requireCoordinate (widen16 value) name = .ok () :=
  requireProtocol_of ⟨zero_le_widen16 value, widen16_le_max value⟩

theorem contact_range {contactId : UInt8} :
    (0 ≤ widen8 contactId ∧ widen8 contactId < maxTouchContacts) ↔
      contactId < Protocol.maxTouchContacts := by
  have hzero := (exists_widen8.mpr ⟨contactId, rfl⟩).1
  have hmax : maxTouchContacts = widen8 Protocol.maxTouchContacts := rfl
  rw [hmax, Int32.lt_iff_toInt_lt, toInt_widen8, toInt_widen8, Int.ofNat_lt,
    UInt8.lt_iff_toNat_lt]
  simp [hzero]

theorem init_ofKind {kind : InputEventKind} {u : Unit} :
    init (ofKind kind) = .ok u ↔ kind.validate = .ok () := by
  cases kind with
  | pointerMove x y =>
    simp [init, ofKind, requireCoordinate_widen16, InputEventKind.validate]
  | pointerButton button state => simp [init, ofKind, InputEventKind.validate]
  | wheel deltaX deltaY => simp [init, ofKind, InputEventKind.validate]
  | key usage state modifiers =>
    simp only [init, ofKind, requireProtocol_eq_ok, one_le_widen16, widen16_le_max, and_true]
    unfold InputEventKind.validate
    split <;> simp_all
  | touch contactId phase x y pressure =>
    simp only [init, ofKind, requireProtocol_bind, requireCoordinate_widen16, bind_ok, contact_range,
      InputEventKind.validate, ite_error_eq_ok]
    simp
  | focus focused => simp [init, ofKind, InputEventKind.validate]

theorem ofKind_injective : Function.Injective ofKind := by
  intro a b h
  cases a <;> cases b <;> simp_all [ofKind, widen16_inj, widen8_inj]
  exact (widenBits_bijective mask111111).1 h.2.2

theorem exists_ofKind {event : InputEventBody} (h : event.init = .ok ()) :
    ∃ kind, ofKind kind = event := by
  cases event with
  | pointerMoveInput x y =>
    simp only [init, requireCoordinate, requireProtocol_bind, requireProtocol_eq_ok] at h
    obtain ⟨x, rfl⟩ := exists_widen16.mp h.1
    obtain ⟨y, rfl⟩ := exists_widen16.mp h.2
    exact ⟨.pointerMove x y, rfl⟩
  | pointerButtonInput button state => exact ⟨.pointerButton button state, rfl⟩
  | wheelInput deltaX deltaY => exact ⟨.wheel deltaX deltaY, rfl⟩
  | keyInput usage state modifiers =>
    simp only [init, requireProtocol_eq_ok] at h
    have hzero : (0 : Int32) ≤ 1 := by decide
    obtain ⟨usage, rfl⟩ := exists_widen16.mp ⟨Int32.le_trans hzero h.1, h.2⟩
    obtain ⟨modifiers, rfl⟩ := (widenBits_bijective mask111111).2 modifiers
    exact ⟨.key usage state modifiers, rfl⟩
  | touchInput contactId phase x y pressure =>
    simp only [init, requireCoordinate, requireProtocol_bind, requireProtocol_eq_ok] at h
    obtain ⟨⟨hlo, hhi⟩, hx, hy, hp⟩ := h
    have hmax : maxTouchContacts ≤ 0xff := by decide
    obtain ⟨contactId, rfl⟩ := exists_widen8.mp ⟨hlo, Int32.le_trans (Int32.le_of_lt hhi) hmax⟩
    obtain ⟨x, rfl⟩ := exists_widen16.mp hx
    obtain ⟨y, rfl⟩ := exists_widen16.mp hy
    obtain ⟨pressure, rfl⟩ := exists_widen16.mp hp
    exact ⟨.touch contactId phase x y pressure, rfl⟩
  | focusInput focused => exact ⟨.focus focused, rfl⟩

end InputEventBody

structure InputPayload where
  timestampMicros : UInt64
  event : InputEventBody
  valid : event.init = .ok ()
  deriving DecidableEq

namespace InputPayload

def new (timestampMicros : UInt64) (event : InputEventBody) :
    Except LdflProtocolException InputPayload :=
  checked event.init fun valid => .ok { timestampMicros, event, valid }

def encode (payload : InputPayload) : Except LdflProtocolException SignedBytes := do
  .ok (writeU64 payload.timestampMicros ++ (← writeU8 payload.event.wireKind) ++
    (← payload.event.encode))

def requireExactLength (payload : SignedBytes) (expected : Nat) :
    Except LdflProtocolException Unit :=
  requireProtocol (payload.length = expected)
    s!"Input event length {payload.length} does not match its kind ({expected})"

/-- The event announced by the kind byte; its constructor's checks run in `new`. -/
def decodeEvent (payload : SignedBytes) : Except LdflProtocolException InputEventBody := do
  let kind := readU8 payload 8
  if kind = 1 then
    requireExactLength payload 13
    .ok (.pointerMoveInput (readU16 payload 9) (readU16 payload 11))
  else if kind = 2 then
    requireExactLength payload 11
    .ok (.pointerButtonInput (← PointerButton.fromWire (readU8 payload 9))
      (← ButtonState.fromWire (readU8 payload 10)))
  else if kind = 3 then
    requireExactLength payload 13
    .ok (.wheelInput (readI16 payload 9) (readI16 payload 11))
  else if kind = 4 then
    requireExactLength payload 14
    .ok (.keyInput (readU16 payload 9) (← ButtonState.fromWire (readU8 payload 11))
      (← KeyModifiers.fromBits (readU16 payload 12)))
  else if kind = 5 then
    requireExactLength payload 17
    .ok (.touchInput (readU8 payload 9) (← TouchPhase.fromWire (readU8 payload 10))
      (readU16 payload 11) (readU16 payload 13) (readU16 payload 15))
  else if kind = 6 then
    requireExactLength payload 10
    .ok (.focusInput (← decodeBoolean (readU8 payload 9) "Boolean input field must be zero or one"))
  else protocolFailure .invalidPayload s!"Unknown input event kind {kind}"

def decode (payload : SignedBytes) : Except LdflProtocolException InputPayload := do
  requireProtocol (payload.length ≥ inputHeaderBytes) "Input payload is truncated"
  let event ← decodeEvent payload
  new (readU64 payload 0) event

def ofInputEvent (event : InputEvent) : InputPayload where
  timestampMicros := event.timestampMicros
  event := InputEventBody.ofKind event.kind
  valid := InputEventBody.init_ofKind.mpr event.valid

theorem new_eq_ok {timestampMicros : UInt64} {event : InputEventBody} {payload : InputPayload} :
    new timestampMicros event = .ok payload ↔
      payload.timestampMicros = timestampMicros ∧ payload.event = event := by
  constructor
  · intro h
    obtain ⟨_, h⟩ := checked_eq_ok.mp h
    cases h
    exact ⟨rfl, rfl⟩
  · rintro ⟨rfl, rfl⟩
    exact checked_ok _ payload.valid

theorem ofInputEvent_bijective : Function.Bijective ofInputEvent := by
  constructor
  · intro a b h
    obtain ⟨ht, hk⟩ := InputPayload.mk.inj h
    exact InputEvent.ext ht (InputEventBody.ofKind_injective hk)
  · rintro ⟨timestampMicros, event, hvalid⟩
    obtain ⟨kind, rfl⟩ := InputEventBody.exists_ofKind hvalid
    exact ⟨⟨timestampMicros, kind, InputEventBody.init_ofKind.mp hvalid⟩, rfl⟩

theorem encode_ofInputEvent (event : InputEvent) :
    encode (ofInputEvent event) = .ok (signed event.wire) := by
  simp only [encode, ofInputEvent, InputEventBody.wireKind_ofKind, InputEventBody.encode_ofKind,
    writeU64_eq, writeU8_widen8, bind_ok, InputEvent.wire, signed_append]

theorem requireExactLength_bind {α : Type} {payload : Bytes} {expected : Nat}
    {next : Unit → Except LdflProtocolException α} {a : α} :
    (requireExactLength (signed payload) expected >>= next) = .ok a ↔
      payload.length = expected ∧ next () = .ok a := by
  rw [requireExactLength, requireProtocol_bind, signed_length]

theorem tag_signed {payload : Bytes} (h : 9 ≤ payload.length) (n : UInt8) (m : Int32)
    (hm : m = widen8 n) : readU8 (signed payload) 8 = m ↔ Protocol.readU8 payload 8 = n := by
  rw [readU8_signed _ _ (by omega), hm, widen8_inj]

theorem decodeKind_of_decodeEvent {payload : Bytes} {kind : InputEventKind} (h : 9 ≤ payload.length)
    (hk : decodeEvent (signed payload) = .ok (InputEventBody.ofKind kind)) :
    InputEvent.decodeKind payload = .ok kind := by
  rw [InputEvent.decodeKind_eq_ok, InputEvent.kind_wire_eq_iff]
  rw [decodeEvent] at hk
  simp only [tag_signed h 1 1 rfl, tag_signed h 2 2 rfl, tag_signed h 3 3 rfl, tag_signed h 4 4 rfl,
    tag_signed h 5 5 rfl, tag_signed h 6 6 rfl] at hk
  split at hk
  · rename_i htag1
    obtain ⟨hlen, hk⟩ := requireExactLength_bind.mp hk
    rw [readU16_signed _ _ (by omega), readU16_signed _ _ (by omega)] at hk
    cases kind <;> simp only [InputEventBody.ofKind, Except.ok.injEq, reduceCtorEq,
      InputEventBody.pointerMoveInput.injEq, widen16_inj] at hk
    exact ⟨htag1, hlen, hk⟩
  split at hk
  · rename_i htag2
    obtain ⟨hlen, hk⟩ := requireExactLength_bind.mp hk
    rw [readU8_signed _ _ (by omega), readU8_signed _ _ (by omega)] at hk
    simp only [bind_eq_ok, PointerButton.fromWire_eq_ok, ButtonState.fromWire_eq_ok] at hk
    obtain ⟨button, hb, state, hs, hk⟩ := hk
    cases kind <;> simp only [InputEventBody.ofKind, Except.ok.injEq, reduceCtorEq,
      InputEventBody.pointerButtonInput.injEq] at hk
    obtain ⟨rfl, rfl⟩ := hk
    exact ⟨htag2, hlen, hb, hs⟩
  split at hk
  · rename_i htag3
    obtain ⟨hlen, hk⟩ := requireExactLength_bind.mp hk
    rw [readI16_signed _ _ (by omega), readI16_signed _ _ (by omega)] at hk
    cases kind <;> simp only [InputEventBody.ofKind, Except.ok.injEq, reduceCtorEq,
      InputEventBody.wheelInput.injEq] at hk
    exact ⟨htag3, hlen, hk⟩
  split at hk
  · rename_i htag4
    obtain ⟨hlen, hk⟩ := requireExactLength_bind.mp hk
    rw [readU16_signed _ _ (by omega), readU8_signed _ _ (by omega),
      readU16_signed _ _ (by omega)] at hk
    simp only [bind_eq_ok, ButtonState.fromWire_eq_ok, KeyModifiers.fromBits,
      BitSet.ofBits_eq_ok] at hk
    obtain ⟨state, hs, modifiers, hm, hk⟩ := hk
    cases kind <;> simp only [InputEventBody.ofKind, Except.ok.injEq, reduceCtorEq,
      InputEventBody.keyInput.injEq, widen16_inj] at hk
    obtain ⟨hu, rfl, rfl⟩ := hk
    exact ⟨htag4, hlen, hu, hs, widen16_inj.mp hm⟩
  split at hk
  · rename_i htag5
    obtain ⟨hlen, hk⟩ := requireExactLength_bind.mp hk
    rw [readU8_signed _ _ (by omega), readU8_signed _ _ (by omega),
      readU16_signed _ _ (by omega), readU16_signed _ _ (by omega),
      readU16_signed _ _ (by omega)] at hk
    simp only [bind_eq_ok, TouchPhase.fromWire_eq_ok] at hk
    obtain ⟨phase, hp, hk⟩ := hk
    cases kind <;> simp only [InputEventBody.ofKind, Except.ok.injEq, reduceCtorEq,
      InputEventBody.touchInput.injEq, widen16_inj, widen8_inj] at hk
    obtain ⟨hc, rfl, hrest⟩ := hk
    exact ⟨htag5, hlen, hc, hp, hrest⟩
  split at hk
  · rename_i htag6
    obtain ⟨hlen, hk⟩ := requireExactLength_bind.mp hk
    rw [readU8_signed _ _ (by omega)] at hk
    simp only [bind_eq_ok, decodeBoolean_eq_ok] at hk
    obtain ⟨focused, hf, hk⟩ := hk
    cases kind <;> simp only [InputEventBody.ofKind, Except.ok.injEq, reduceCtorEq,
      InputEventBody.focusInput.injEq] at hk
    subst hk
    exact ⟨htag6, hlen, hf⟩
  · cases hk

theorem decodeEvent_of_decodeKind {payload : Bytes} {kind : InputEventKind} (h : 9 ≤ payload.length)
    (hk : InputEvent.decodeKind payload = .ok kind) :
    decodeEvent (signed payload) = .ok (InputEventBody.ofKind kind) := by
  rw [InputEvent.decodeKind_eq_ok, InputEvent.kind_wire_eq_iff] at hk
  obtain ⟨hkind, hk⟩ := hk
  rw [decodeEvent]
  simp only [tag_signed h 1 1 rfl, tag_signed h 2 2 rfl, tag_signed h 3 3 rfl, tag_signed h 4 4 rfl,
    tag_signed h 5 5 rfl, tag_signed h 6 6 rfl]
  cases kind with
  | pointerMove x y =>
    change Protocol.readU8 payload 8 = 1 at hkind
    obtain ⟨hlen, rfl, rfl⟩ := hk
    rw [if_pos hkind, requireExactLength_bind, readU16_signed _ _ (by rw [hlen]; decide),
      readU16_signed _ _ (by rw [hlen]; decide)]
    exact ⟨hlen, rfl⟩
  | pointerButton button state =>
    change Protocol.readU8 payload 8 = 2 at hkind
    obtain ⟨hlen, hb, hs⟩ := hk
    rw [if_neg (by rw [hkind]; decide), if_pos hkind, requireExactLength_bind,
      readU8_signed _ _ (by rw [hlen]; decide), readU8_signed _ _ (by rw [hlen]; decide),
      PointerButton.fromWire_eq_ok.mpr hb, ButtonState.fromWire_eq_ok.mpr hs]
    exact ⟨hlen, rfl⟩
  | wheel deltaX deltaY =>
    change Protocol.readU8 payload 8 = 3 at hkind
    obtain ⟨hlen, rfl, rfl⟩ := hk
    rw [if_neg (by rw [hkind]; decide), if_neg (by rw [hkind]; decide), if_pos hkind,
      requireExactLength_bind, readI16_signed _ _ (by rw [hlen]; decide),
      readI16_signed _ _ (by rw [hlen]; decide)]
    exact ⟨hlen, rfl⟩
  | key usage state modifiers =>
    change Protocol.readU8 payload 8 = 4 at hkind
    obtain ⟨hlen, rfl, hs, hm⟩ := hk
    rw [if_neg (by rw [hkind]; decide), if_neg (by rw [hkind]; decide),
      if_neg (by rw [hkind]; decide), if_pos hkind, requireExactLength_bind,
      readU16_signed _ _ (by rw [hlen]; decide), readU8_signed _ _ (by rw [hlen]; decide),
      readU16_signed _ _ (by rw [hlen]; decide), ButtonState.fromWire_eq_ok.mpr hs,
      KeyModifiers.fromBits, (ofBits_widen mask111111).mpr hm]
    exact ⟨hlen, rfl⟩
  | touch contactId phase x y pressure =>
    change Protocol.readU8 payload 8 = 5 at hkind
    obtain ⟨hlen, rfl, hp, rfl, rfl, rfl⟩ := hk
    rw [if_neg (by rw [hkind]; decide), if_neg (by rw [hkind]; decide),
      if_neg (by rw [hkind]; decide), if_neg (by rw [hkind]; decide), if_pos hkind,
      requireExactLength_bind, readU8_signed _ _ (by rw [hlen]; decide),
      readU8_signed _ _ (by rw [hlen]; decide), readU16_signed _ _ (by rw [hlen]; decide),
      readU16_signed _ _ (by rw [hlen]; decide), readU16_signed _ _ (by rw [hlen]; decide),
      TouchPhase.fromWire_eq_ok.mpr hp]
    exact ⟨hlen, rfl⟩
  | focus focused =>
    change Protocol.readU8 payload 8 = 6 at hkind
    obtain ⟨hlen, hf⟩ := hk
    rw [if_neg (by rw [hkind]; decide), if_neg (by rw [hkind]; decide),
      if_neg (by rw [hkind]; decide), if_neg (by rw [hkind]; decide),
      if_neg (by rw [hkind]; decide), if_pos hkind, requireExactLength_bind,
      readU8_signed _ _ (by rw [hlen]; decide), decodeBoolean_eq_ok.mpr hf]
    exact ⟨hlen, rfl⟩

/-- Both decoders select the same branch and read the same fields in it. -/
theorem decodeEvent_signed {payload : Bytes} {kind : InputEventKind} (h : 9 ≤ payload.length) :
    decodeEvent (signed payload) = .ok (InputEventBody.ofKind kind) ↔
      InputEvent.decodeKind payload = .ok kind :=
  ⟨decodeKind_of_decodeEvent h, decodeEvent_of_decodeKind h⟩

theorem decode_signed {payload : Bytes} {event : InputEvent} :
    decode (signed payload) = .ok (ofInputEvent event) ↔ event.wire = payload := by
  rw [InputEvent.wire_eq_iff, decode, requireProtocol_bind, signed_length]
  refine and_congr_right fun hle => ?_
  have hroom : 9 ≤ payload.length := hle
  rw [← InputEvent.decodeKind_eq_ok, readU64_signed _ _ (by omega)]
  simp only [bind_eq_ok, new_eq_ok, ofInputEvent]
  constructor
  · rintro ⟨body, hb, ht, rfl⟩
    exact ⟨ht.symm, (decodeEvent_signed hroom).mp hb⟩
  · rintro ⟨ht, hk⟩
    exact ⟨_, (decodeEvent_signed hroom).mpr hk, ht.symm, rfl⟩

instance : LdflPayload InputEvent InputPayload where
  ofRust := ofInputEvent
  encode := encode
  decode := decode

theorem wireEquivalent : WireEquivalent InputEvent :=
  wireEquivalent_of ofInputEvent_bijective InputEvent.encode_eq
    (fun _ _ => InputEvent.decode_eq_ok) encode_ofInputEvent fun _ _ => decode_signed

end InputPayload

end LadoFlow.Android
