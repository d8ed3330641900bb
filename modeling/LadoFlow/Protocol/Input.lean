import LadoFlow.Protocol.Control

/-!
# Reverse input events
-/

namespace LadoFlow.Protocol

open Framework

def inputHeaderLen : Nat := 9
def pointerMoveLen : Nat := inputHeaderLen + 4
def pointerButtonLen : Nat := inputHeaderLen + 2
def wheelLen : Nat := inputHeaderLen + 4
def keyLen : Nat := inputHeaderLen + 5
def touchLen : Nat := inputHeaderLen + 8
def focusLen : Nat := inputHeaderLen + 1

/-- Maximum number of independently tracked touch contacts in version one. -/
def maxTouchContacts : UInt8 := 16

/-- Pressed or released state for a pointer button or keyboard key. -/
inductive ButtonState where
  | released
  | pressed
  deriving DecidableEq, Repr

namespace ButtonState

def entries : List ButtonState := [.released, .pressed]

def code : ButtonState → UInt8
  | .released => 0
  | .pressed => 1

def tryFrom (value : UInt8) : Except ProtocolError ButtonState :=
  decodeTagOr entries code value (.invalidPayload "unknown button state")

theorem tryFrom_eq_ok {value : UInt8} {state : ButtonState} :
    tryFrom value = .ok state ↔ value = state.code :=
  decodeTagOr_eq_ok entries code (by intro k; cases k <;> decide)
    (by intro a b; cases a <;> cases b <;> decide)

end ButtonState

/-- Pointer buttons supported by the version-one input subset. -/
inductive PointerButton where
  | primary
  | secondary
  | middle
  | back
  | forward
  deriving DecidableEq, Repr

namespace PointerButton

def entries : List PointerButton := [.primary, .secondary, .middle, .back, .forward]

def code : PointerButton → UInt8
  | .primary => 1
  | .secondary => 2
  | .middle => 3
  | .back => 4
  | .forward => 5

def tryFrom (value : UInt8) : Except ProtocolError PointerButton :=
  decodeTagOr entries code value (.invalidPayload "unknown pointer button")

theorem tryFrom_eq_ok {value : UInt8} {button : PointerButton} :
    tryFrom value = .ok button ↔ value = button.code :=
  decodeTagOr_eq_ok entries code (by intro k; cases k <;> decide)
    (by intro a b; cases a <;> cases b <;> decide)

end PointerButton

/-- Lifecycle phase for one direct-touch contact. -/
inductive TouchPhase where
  | begin
  | move
  | end
  | cancel
  deriving DecidableEq, Repr

namespace TouchPhase

def entries : List TouchPhase := [.begin, .move, .end, .cancel]

def code : TouchPhase → UInt8
  | .begin => 1
  | .move => 2
  | .end => 3
  | .cancel => 4

def tryFrom (value : UInt8) : Except ProtocolError TouchPhase :=
  decodeTagOr entries code value (.invalidPayload "unknown touch phase")

theorem tryFrom_eq_ok {value : UInt8} {phase : TouchPhase} :
    tryFrom value = .ok phase ↔ value = phase.code :=
  decodeTagOr_eq_ok entries code (by intro k; cases k <;> decide)
    (by intro a b; cases a <;> cases b <;> decide)

end TouchPhase

/-- Snapshot of keyboard modifiers accompanying a key transition: shift, control, alt, meta,
caps lock and num lock. -/
abbrev KeyModifiers := BitSet (0b111111 : UInt16)

def KeyModifiers.fromBits (bits : UInt16) : Except ProtocolError KeyModifiers :=
  BitSet.ofBits bits (.invalidPayload "unknown keyboard modifier")

/-- Practical, bounded input event variants supported by protocol version one. -/
inductive InputEventKind where
  | pointerMove (x y : UInt16)
  | pointerButton (button : PointerButton) (state : ButtonState)
  | wheel (deltaX deltaY : Int16)
  | key (usage : UInt16) (state : ButtonState) (modifiers : KeyModifiers)
  | touch (contactId : UInt8) (phase : TouchPhase) (x y pressure : UInt16)
  | focus (focused : Bool)
  deriving DecidableEq

namespace InputEventKind

def wireKind : InputEventKind → UInt8
  | .pointerMove .. => 1
  | .pointerButton .. => 2
  | .wheel .. => 3
  | .key .. => 4
  | .touch .. => 5
  | .focus .. => 6

def validate : InputEventKind → Except ProtocolError Unit
  | .key 0 _ _ => .error (.invalidPayload "keyboard usage must be non-zero")
  | .touch contactId _ _ _ _ =>
    if contactId ≥ maxTouchContacts then
      .error (.invalidPayload "touch contact identifier is out of range")
    else .ok ()
  | _ => .ok ()

/-- The bytes of an event after its timestamp and kind. -/
def wire : InputEventKind → Bytes
  | .pointerMove x y => toBeBytes x ++ toBeBytes y
  | .pointerButton button state => toBeBytes button.code ++ toBeBytes state.code
  | .wheel deltaX deltaY => toBeBytes deltaX ++ toBeBytes deltaY
  | .key usage state modifiers =>
    toBeBytes usage ++ toBeBytes state.code ++ toBeBytes modifiers.bits
  | .touch contactId phase x y pressure =>
    toBeBytes contactId ++ toBeBytes phase.code ++ toBeBytes x ++ toBeBytes y ++
      toBeBytes pressure
  | .focus focused => toBeBytes (boolByte focused)

end InputEventKind

def requireLen (payload : Bytes) (expected : Nat) : Except ProtocolError Unit :=
  if payload.length = expected then .ok ()
  else .error (.invalidPayload "input event length does not match its kind")

theorem requireLen_eq_ok {payload : Bytes} {expected : Nat} {u : Unit} :
    requireLen payload expected = .ok u ↔ payload.length = expected := by
  rw [requireLen]
  split <;> simp_all

/-- Timestamped input payload. The enclosing frame sequence is its event identity. -/
@[ext] structure InputEvent where
  timestampMicros : UInt64
  kind : InputEventKind
  valid : kind.validate = .ok ()
  deriving DecidableEq

namespace InputEvent

def new (timestampMicros : UInt64) (kind : InputEventKind) : Except ProtocolError InputEvent :=
  checked kind.validate fun valid => .ok { timestampMicros, kind, valid }

def wire (event : InputEvent) : Bytes :=
  toBeBytes event.timestampMicros ++ toBeBytes event.kind.wireKind ++ event.kind.wire

def encode (event : InputEvent) : Except ProtocolError Bytes := do
  event.kind.validate
  .ok event.wire

/-- The event kind announced by the byte after the timestamp. -/
def decodeKind (payload : Bytes) : Except ProtocolError InputEventKind := do
  match readU8 payload 8 with
  | 1 =>
    requireLen payload pointerMoveLen
    .ok (.pointerMove (readU16 payload 9) (readU16 payload 11))
  | 2 =>
    requireLen payload pointerButtonLen
    .ok (.pointerButton (← PointerButton.tryFrom (readU8 payload 9))
      (← ButtonState.tryFrom (readU8 payload 10)))
  | 3 =>
    requireLen payload wheelLen
    .ok (.wheel (readI16 payload 9) (readI16 payload 11))
  | 4 =>
    requireLen payload keyLen
    .ok (.key (readU16 payload 9) (← ButtonState.tryFrom (readU8 payload 11))
      (← KeyModifiers.fromBits (readU16 payload 12)))
  | 5 =>
    requireLen payload touchLen
    .ok (.touch (readU8 payload 9) (← TouchPhase.tryFrom (readU8 payload 10)) (readU16 payload 11)
      (readU16 payload 13) (readU16 payload 15))
  | 6 =>
    requireLen payload focusLen
    .ok (.focus (← decodeBool (readU8 payload 9)
      (.invalidPayload "boolean input field must be zero or one")))
  | _ => .error (.invalidPayload "unknown input event kind")

def decode (payload : Bytes) : Except ProtocolError InputEvent :=
  if payload.length < inputHeaderLen then .error (.invalidPayload "input payload is truncated")
  else do
  let timestampMicros := readU64 payload 0
  let kind ← decodeKind payload
  new timestampMicros kind

theorem new_eq_ok {timestampMicros : UInt64} {kind : InputEventKind} {event : InputEvent} :
    new timestampMicros kind = .ok event ↔
      event.timestampMicros = timestampMicros ∧ event.kind = kind := by
  constructor
  · intro h
    obtain ⟨_, h⟩ := checked_eq_ok.mp h
    cases h
    exact ⟨rfl, rfl⟩
  · rintro ⟨rfl, rfl⟩
    exact checked_ok _ event.valid

theorem encode_eq (event : InputEvent) : event.encode = .ok event.wire := by
  rw [encode, event.valid, bind_ok]

/-- The layout of each event kind, as the words read after the header. -/
theorem kind_wire_eq_iff {payload : Bytes} {kind : InputEventKind} :
    kind.wire = payload.drop inputHeaderLen ↔ match kind with
      | .pointerMove x y =>
        payload.length = pointerMoveLen ∧ readU16 payload 9 = x ∧ readU16 payload 11 = y
      | .pointerButton button state => payload.length = pointerButtonLen ∧
        readU8 payload 9 = button.code ∧ readU8 payload 10 = state.code
      | .wheel deltaX deltaY =>
        payload.length = wheelLen ∧ readI16 payload 9 = deltaX ∧ readI16 payload 11 = deltaY
      | .key usage state modifiers => payload.length = keyLen ∧ readU16 payload 9 = usage ∧
        readU8 payload 11 = state.code ∧ readU16 payload 12 = modifiers.bits
      | .touch contactId phase x y pressure => payload.length = touchLen ∧
        readU8 payload 9 = contactId ∧ readU8 payload 10 = phase.code ∧
        readU16 payload 11 = x ∧ readU16 payload 13 = y ∧ readU16 payload 15 = pressure
      | .focus focused => payload.length = focusLen ∧ readU8 payload 9 = boolByte focused := by
  cases kind <;>
    simp only [InputEventKind.wire, List.append_assoc, word_eq_drop, last_word_eq_drop,
      inputHeaderLen, pointerMoveLen, pointerButtonLen, wheelLen, keyLen, touchLen, focusLen,
      Nat.reduceAdd, width_uint8, width_uint16, width_int16, readU8, readU16, readI16]
  all_goals
    constructor
    · intro h
      simp_all
    · intro h
      simp_all

theorem decodeKind_eq_ok {payload : Bytes} {kind : InputEventKind} :
    decodeKind payload = .ok kind ↔
      readU8 payload 8 = kind.wireKind ∧ kind.wire = payload.drop inputHeaderLen := by
  rw [kind_wire_eq_iff]
  constructor
  · intro h
    unfold decodeKind at h
    split at h <;> try cases h
    all_goals
      rename_i htag
      simp only [bind_eq_ok, requireLen_eq_ok, PointerButton.tryFrom_eq_ok,
        ButtonState.tryFrom_eq_ok, TouchPhase.tryFrom_eq_ok, KeyModifiers.fromBits,
        BitSet.ofBits_eq_ok, decodeBool_eq_ok, Except.ok.injEq] at h
    · obtain ⟨_, hlen, rfl⟩ := h
      exact ⟨htag, hlen, rfl, rfl⟩
    · obtain ⟨_, hlen, button, hb, state, hs, rfl⟩ := h
      exact ⟨htag, hlen, hb, hs⟩
    · obtain ⟨_, hlen, rfl⟩ := h
      exact ⟨htag, hlen, rfl, rfl⟩
    · obtain ⟨_, hlen, state, hs, modifiers, hm, rfl⟩ := h
      exact ⟨htag, hlen, rfl, hs, hm⟩
    · obtain ⟨_, hlen, phase, hp, rfl⟩ := h
      exact ⟨htag, hlen, rfl, hp, rfl, rfl, rfl⟩
    · obtain ⟨_, hlen, focused, hf, rfl⟩ := h
      exact ⟨htag, hlen, hf⟩
  · rintro ⟨htag, h⟩
    unfold decodeKind
    cases kind <;> simp only [InputEventKind.wireKind] at htag h <;> rw [htag] <;>
      simp only [bind_eq_ok, requireLen_eq_ok, PointerButton.tryFrom_eq_ok,
        ButtonState.tryFrom_eq_ok, TouchPhase.tryFrom_eq_ok, KeyModifiers.fromBits,
        BitSet.ofBits_eq_ok, decodeBool_eq_ok, h]
    all_goals simp

theorem wire_eq_iff {payload : Bytes} {event : InputEvent} :
    event.wire = payload ↔ inputHeaderLen ≤ payload.length ∧
      readU64 payload 0 = event.timestampMicros ∧ readU8 payload 8 = event.kind.wireKind ∧
      event.kind.wire = payload.drop inputHeaderLen := by
  rw [wire, List.append_assoc, word_eq, word_eq_drop]
  simp only [Nat.reduceAdd, width_uint64, width_uint8, inputHeaderLen, readU64, readU8]
  constructor
  · rintro ⟨-, ht, hlen, hk, hrest⟩
    exact ⟨hlen, ht, hk, hrest⟩
  · rintro ⟨hlen, ht, hk, hrest⟩
    exact ⟨by omega, ht, hlen, hk, hrest⟩

theorem decode_eq_ok {payload : Bytes} {event : InputEvent} :
    decode payload = .ok event ↔ event.wire = payload := by
  rw [wire_eq_iff, decode]
  simp only [bind_eq_ok, ite_error_eq_ok, decodeKind_eq_ok, new_eq_ok, Nat.not_lt]
  constructor
  · rintro ⟨hlen, kind, ⟨hk, hrest⟩, ht, rfl⟩
    exact ⟨hlen, ht.symm, hk, hrest⟩
  · rintro ⟨hlen, ht, hk, hrest⟩
    exact ⟨hlen, _, ⟨hk, hrest⟩, ht.symm, rfl⟩

theorem wire_length_le (event : InputEvent) : event.wire.length ≤ touchLen := by
  have hkind : event.kind.wire.length ≤ 8 := by
    cases event.kind <;> simp [InputEventKind.wire]
  simp only [wire, List.length_append, toBeBytes_length, width_uint64, width_uint8, touchLen,
    inputHeaderLen]
  omega

instance : WirePayload InputEvent where
  kind := .input
  rebuild v := new v.timestampMicros v.kind
  encode := encode
  decode := decode

theorem canonical : CanonicalPayload InputEvent := by
  refine canonicalPayload_of (fun v => ?_) encode_eq (fun v => ?_) fun _ _ => decode_eq_ok
  · exact new_eq_ok.mpr ⟨rfl, rfl⟩
  · exact Nat.le_trans v.wire_length_le (by decide)

end InputEvent

end LadoFlow.Protocol
