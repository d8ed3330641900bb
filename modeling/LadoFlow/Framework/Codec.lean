import LadoFlow.Framework.BigEndian

/-!
# Canonical codecs

A codec is canonical when every valid value has an encoding that decodes to it and every string
the decoder accepts is the encoding of the valid value it returns.
-/

namespace Framework

section Results

variable {ε α β : Type}

@[simp] theorem bind_ok (a : α) (f : α → Except ε β) : (Except.ok a >>= f) = f a := rfl

@[simp] theorem bind_error (e : ε) (f : α → Except ε β) :
    ((Except.error e : Except ε α) >>= f) = .error e := rfl

theorem bind_eq_ok {x : Except ε α} {f : α → Except ε β} {b : β} :
    (x >>= f) = .ok b ↔ ∃ a, x = .ok a ∧ f a = .ok b := by
  cases x with
  | error e => simp
  | ok a => simp

theorem toOption_eq_some {x : Except ε α} {a : α} : x.toOption = some a ↔ x = .ok a := by
  cases x <;> simp [Except.toOption]

theorem ite_error_eq_ok {p : Prop} [Decidable p] {e : ε} {x : Except ε α} {a : α} :
    (if p then .error e else x) = .ok a ↔ ¬p ∧ x = .ok a := by
  split <;> simp_all

/-- Run a check and continue with the evidence that it passed. -/
def checked (check : Except ε Unit) (next : check = .ok () → Except ε α) : Except ε α :=
  match check, next with
  | .ok (), next => next rfl
  | .error e, _ => .error e

theorem checked_eq_ok {check : Except ε Unit} {next : check = .ok () → Except ε α} {a : α} :
    checked check next = .ok a ↔ ∃ h, next h = .ok a := by
  cases check with
  | error e => simp [checked]
  | ok u => simp [checked]

theorem checked_ok {check : Except ε Unit} (next : check = .ok () → Except ε α)
    (h : check = .ok ()) : checked check next = next h := by
  subst h
  rfl

theorem mem_of_mapM_eq_ok {f : α → Except ε β} {as : List α} {bs : List β} {b : β}
    (h : as.mapM f = .ok bs) (hb : b ∈ bs) : ∃ a ∈ as, f a = .ok b := by
  induction as generalizing bs with
  | nil =>
    cases h
    cases hb
  | cons a as ih =>
    rw [List.mapM_cons] at h
    obtain ⟨b', hb', h⟩ := bind_eq_ok.mp h
    obtain ⟨bs', hbs', h⟩ := bind_eq_ok.mp h
    cases h
    rcases List.mem_cons.mp hb with rfl | hb
    · exact ⟨a, List.mem_cons_self, hb'⟩
    · obtain ⟨a', ha', heq⟩ := ih hbs' hb
      exact ⟨a', List.mem_cons_of_mem _ ha', heq⟩

end Results

section Tags

variable {ε α β : Type} [DecidableEq β]

/-- The first entry of an enumeration whose code is `value`. -/
def decodeTag (entries : List α) (code : α → β) (value : β) : Option α :=
  entries.find? fun entry => code entry = value

theorem decodeTag_eq_some (entries : List α) (code : α → β)
    (hall : ∀ a, a ∈ entries) (hinj : Function.Injective code) {value : β} {a : α} :
    decodeTag entries code value = some a ↔ value = code a := by
  constructor
  · intro h
    have hcode : code a = value := by simpa using List.find?_some h
    exact hcode.symm
  · rintro rfl
    cases h : decodeTag entries code (code a) with
    | none =>
      have hnone := List.find?_eq_none.mp h a (hall a)
      simp at hnone
    | some b =>
      have hb : code b = code a := by simpa using List.find?_some h
      rw [hinj hb]

/-- The entry whose code is `value`, or `error`. -/
def decodeTagOr (entries : List α) (code : α → β) (value : β) (error : ε) : Except ε α :=
  match decodeTag entries code value with
  | some entry => .ok entry
  | none => .error error

theorem decodeTagOr_eq_ok (entries : List α) (code : α → β)
    (hall : ∀ a, a ∈ entries) (hinj : Function.Injective code) {value : β} {error : ε} {a : α} :
    decodeTagOr entries code value error = .ok a ↔ value = code a := by
  rw [← decodeTag_eq_some entries code hall hinj, decodeTagOr]
  cases decodeTag entries code value <;> simp

end Tags

section Masks

variable {ε α : Type} [AndOp α] [Complement α] [OfNat α 0]

/-- A bit set with no bit outside `mask`. -/
@[ext] structure BitSet (mask : α) where
  bits : α
  known : bits &&& ~~~mask = 0
  deriving DecidableEq, Repr

variable {mask : α} [DecidableEq α]

def BitSet.ofBits (bits : α) (error : ε) : Except ε (BitSet mask) :=
  if h : bits &&& ~~~mask = 0 then .ok ⟨bits, h⟩ else .error error

/-- A constant bit set, with the evaluated check of its bits. -/
abbrev BitSet.of (bits : α) (known : decide (bits &&& ~~~mask = 0) = true) : BitSet mask :=
  ⟨bits, of_decide_eq_true known⟩

/-- Whether the set contains every bit of `other`. -/
def BitSet.contains (set other : BitSet mask) : Bool := set.bits &&& other.bits = other.bits

theorem BitSet.ofBits_eq_ok {bits : α} {error : ε} {set : BitSet mask} :
    ofBits bits error = .ok set ↔ bits = set.bits := by
  rw [ofBits]
  constructor
  · intro h
    split at h
    · cases h
      rfl
    · cases h
  · rintro rfl
    rw [dif_pos set.known]

end Masks

section Text

/-- The UTF-8 bytes of a string. -/
def utf8Bytes (text : String) : Bytes := text.toByteArray.data.toList

/-- The string with the given UTF-8 bytes, if they are well formed. -/
def fromUtf8 (bytes : Bytes) : Option String := String.fromUTF8? ⟨bytes.toArray⟩

theorem fromUtf8_eq_some {bytes : Bytes} {text : String} :
    fromUtf8 bytes = some text ↔ utf8Bytes text = bytes := by
  rw [fromUtf8, String.fromUTF8?]
  constructor
  · intro h
    split at h
    · cases h
      rfl
    · cases h
  · rintro rfl
    have hback : (⟨(utf8Bytes text).toArray⟩ : ByteArray) = text.toByteArray := rfl
    rw [dif_pos (by rw [hback]; exact text.isValidUTF8)]
    rfl

end Text

section Canonical

variable {ε α : Type}

/-- Laws of a codec over the values that satisfy `Valid`, with encodings of at most `limit`
bytes. -/
structure Canonical (Valid : α → Prop) (encode : α → Except ε Bytes)
    (decode : Bytes → Except ε α) (limit : Nat) : Prop where
  encode_valid : ∀ v, Valid v → ∃ bytes, encode v = .ok bytes ∧ bytes.length ≤ limit ∧
    decode bytes = .ok v
  decode_valid : ∀ bytes v, decode bytes = .ok v → Valid v ∧ encode v = .ok bytes

variable {Valid : α → Prop} {encode : α → Except ε Bytes} {decode : Bytes → Except ε α}
  {limit : Nat}

/-- A canonical decoder accepts exactly the image of the encoder. -/
theorem Canonical.accepts_iff (h : Canonical Valid encode decode limit) (bytes : Bytes) (v : α) :
    decode bytes = .ok v ↔ Valid v ∧ encode v = .ok bytes := by
  refine ⟨h.decode_valid bytes v, ?_⟩
  rintro ⟨hv, he⟩
  obtain ⟨bytes', he', -, hd⟩ := h.encode_valid v hv
  rw [he] at he'
  cases he'
  exact hd

end Canonical

end Framework
