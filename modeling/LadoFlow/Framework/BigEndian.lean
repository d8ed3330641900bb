import Mathlib.Data.Nat.Basic
import Mathlib.Tactic.Ring
import Mathlib.Tactic.Common

/-!
# Big-endian words in byte strings

Network byte order for machine words of any width, and reads of a word at a byte offset.
A layout is written as an append of words and read back at offsets; the lemmas below turn an
equation between a layout and a string into equations between the fields and the words read at
their offsets.
-/

namespace Framework

abbrev Bytes := List UInt8

/-- The `n` low-order base-256 digits of `value`, most significant first. -/
def beBytes : Nat → Nat → Bytes
  | 0, _ => []
  | n + 1, value => UInt8.ofNat (value / 256 ^ n) :: beBytes n value

/-- The value of a digit string, most significant first. -/
def beNat : Bytes → Nat
  | [] => 0
  | b :: bytes => b.toNat * 256 ^ bytes.length + beNat bytes

@[simp] theorem beBytes_length (n value : Nat) : (beBytes n value).length = n := by
  induction n with
  | zero => rfl
  | succ n ih => simp [beBytes, ih]

theorem beNat_lt (bytes : Bytes) : beNat bytes < 256 ^ bytes.length := by
  induction bytes with
  | nil => simp [beNat]
  | cons b bytes ih =>
    have hb : b.toNat + 1 ≤ 256 := b.toNat_lt
    have hmul := Nat.mul_le_mul_right (256 ^ bytes.length) hb
    rw [beNat, List.length_cons, Nat.pow_succ]
    rw [Nat.add_mul, Nat.one_mul] at hmul
    omega

theorem beNat_beBytes (n value : Nat) : beNat (beBytes n value) = value % 256 ^ n := by
  induction n with
  | zero => simp [beBytes, beNat, Nat.mod_one]
  | succ n ih =>
    have hbyte : (UInt8.ofNat (value / 256 ^ n)).toNat = value / 256 ^ n % 256 :=
      UInt8.toNat_ofNat'
    rw [beBytes, beNat, ih, beBytes_length, hbyte, Nat.pow_succ, Nat.mod_mul]
    ring

/-- Digits above the `n`-th do not reach the low `m ≤ n` digits. -/
private theorem beBytes_add_mul (n high low m : Nat) (hm : m ≤ n) :
    beBytes m (high * 256 ^ n + low) = beBytes m low := by
  induction m with
  | zero => rfl
  | succ m ih =>
    have hpos : 0 < 256 ^ m := Nat.pow_pos (by decide)
    have hsplit : 256 ^ n = 256 ^ m * (256 * 256 ^ (n - (m + 1))) := by
      rw [← Nat.pow_succ', ← Nat.pow_add]
      congr 1
      omega
    have hdiv : (high * 256 ^ n + low) / 256 ^ m =
        low / 256 ^ m + 256 * (high * 256 ^ (n - (m + 1))) := by
      rw [hsplit, show high * (256 ^ m * (256 * 256 ^ (n - (m + 1)))) + low =
        low + 256 ^ m * (256 * (high * 256 ^ (n - (m + 1)))) by ring]
      exact Nat.add_mul_div_left _ _ hpos
    rw [beBytes, beBytes, ih (by omega), hdiv]
    congr 1
    apply UInt8.toNat_inj.mp
    simp only [UInt8.toNat_ofNat']
    omega

theorem beBytes_beNat (bytes : Bytes) : beBytes bytes.length (beNat bytes) = bytes := by
  induction bytes with
  | nil => rfl
  | cons b bytes ih =>
    have hlt := beNat_lt bytes
    have hpos : 0 < 256 ^ bytes.length := Nat.pow_pos (by decide)
    rw [List.length_cons, beBytes, beNat, beBytes_add_mul _ _ _ _ le_rfl, ih]
    congr 1
    rw [Nat.mul_comm, Nat.mul_add_div hpos, Nat.div_eq_of_lt hlt, Nat.add_zero]
    exact UInt8.ofNat_toNat

/-- A machine word that occupies `width` bytes. -/
class Word (α : Type) where
  width : Nat
  toNat : α → Nat
  ofNat : Nat → α
  width_pos : 0 < width
  toNat_lt : ∀ v, toNat v < 256 ^ width
  ofNat_toNat : ∀ v, ofNat (toNat v) = v
  toNat_ofNat : ∀ n, n < 256 ^ width → toNat (ofNat n) = n

instance : Word UInt8 where
  width := 1
  toNat := UInt8.toNat
  ofNat := UInt8.ofNat
  width_pos := by decide
  toNat_lt v := v.toNat_lt
  ofNat_toNat _ := UInt8.ofNat_toNat
  toNat_ofNat n h := by simp only [UInt8.toNat_ofNat']; omega

instance : Word UInt16 where
  width := 2
  toNat := UInt16.toNat
  ofNat := UInt16.ofNat
  width_pos := by decide
  toNat_lt v := v.toNat_lt
  ofNat_toNat _ := UInt16.ofNat_toNat
  toNat_ofNat n h := by simp only [UInt16.toNat_ofNat']; omega

instance : Word UInt32 where
  width := 4
  toNat := UInt32.toNat
  ofNat := UInt32.ofNat
  width_pos := by decide
  toNat_lt v := v.toNat_lt
  ofNat_toNat _ := UInt32.ofNat_toNat
  toNat_ofNat n h := by simp only [UInt32.toNat_ofNat']; omega

instance : Word UInt64 where
  width := 8
  toNat := UInt64.toNat
  ofNat := UInt64.ofNat
  width_pos := by decide
  toNat_lt v := v.toNat_lt
  ofNat_toNat _ := UInt64.ofNat_toNat
  toNat_ofNat n h := by simp only [UInt64.toNat_ofNat']; omega

/-- Signed words travel as their two's-complement bit pattern. -/
instance : Word Int16 where
  width := 2
  toNat v := v.toUInt16.toNat
  ofNat n := (UInt16.ofNat n).toInt16
  width_pos := by decide
  toNat_lt v := v.toUInt16.toNat_lt
  ofNat_toNat v := by rw [UInt16.ofNat_toNat]; rfl
  toNat_ofNat n h := by
    change (UInt16.ofNat n).toNat = n
    simp only [UInt16.toNat_ofNat']
    omega

@[simp] theorem width_uint8 : Word.width UInt8 = 1 := rfl
@[simp] theorem width_uint16 : Word.width UInt16 = 2 := rfl
@[simp] theorem width_uint32 : Word.width UInt32 = 4 := rfl
@[simp] theorem width_uint64 : Word.width UInt64 = 8 := rfl
@[simp] theorem width_int16 : Word.width Int16 = 2 := rfl

section Words

variable {α : Type} [Word α]

def toBeBytes (value : α) : Bytes := beBytes (Word.width α) (Word.toNat value)

def fromBeBytes (bytes : Bytes) : α := Word.ofNat (beNat bytes)

/-- The word stored at byte `offset`. -/
def readWord (bytes : Bytes) (offset : Nat) : α :=
  fromBeBytes ((bytes.drop offset).take (Word.width α))

@[simp] theorem toBeBytes_length (value : α) : (toBeBytes value).length = Word.width α :=
  beBytes_length _ _

@[simp] theorem fromBeBytes_toBeBytes (value : α) : fromBeBytes (toBeBytes value) = value := by
  rw [fromBeBytes, toBeBytes, beNat_beBytes, Nat.mod_eq_of_lt (Word.toNat_lt value)]
  exact Word.ofNat_toNat value

theorem toBeBytes_fromBeBytes (bytes : Bytes) (h : bytes.length = Word.width α) :
    toBeBytes (fromBeBytes bytes : α) = bytes := by
  have hlt := beNat_lt bytes
  rw [h] at hlt
  rw [toBeBytes, fromBeBytes, Word.toNat_ofNat _ hlt, ← h]
  exact beBytes_beNat bytes

theorem readWord_drop (bytes : Bytes) (skip offset : Nat) :
    (readWord (bytes.drop skip) offset : α) = readWord bytes (skip + offset) := by
  rw [readWord, readWord, List.drop_drop]

theorem readWord_take (bytes : Bytes) (n offset : Nat) (h : offset + Word.width α ≤ n) :
    (readWord (bytes.take n) offset : α) = readWord bytes offset := by
  rw [readWord, readWord, List.drop_take, List.take_take, Nat.min_eq_left (by omega)]

end Words

section Layouts

variable {α : Type} [Word α]

/-- A slice of known length at the front of a suffix. -/
theorem slice_eq_drop (front rest bytes : Bytes) (offset : Nat) {n : Nat} (hn : front.length = n)
    (hpos : 0 < n) :
    front ++ rest = bytes.drop offset ↔ offset + n ≤ bytes.length ∧
      (bytes.drop offset).take n = front ∧ rest = bytes.drop (offset + n) := by
  subst hn
  constructor
  · intro h
    have hlen := congrArg List.length h
    rw [List.length_append, List.length_drop] at hlen
    refine ⟨by omega, ?_, ?_⟩
    · rw [← h, List.take_left]
    · rw [← List.drop_drop, ← h, List.drop_left]
  · rintro ⟨-, hfront, hrest⟩
    rw [hrest, ← List.drop_drop]
    nth_rewrite 1 [← hfront]
    exact List.take_append_drop _ _

theorem slice_eq (front rest bytes : Bytes) {n : Nat} (hn : front.length = n) (hpos : 0 < n) :
    front ++ rest = bytes ↔ n ≤ bytes.length ∧ bytes.take n = front ∧ rest = bytes.drop n := by
  simpa only [List.drop_zero, Nat.zero_add] using slice_eq_drop front rest bytes 0 hn hpos

/-- A word at the front of a suffix is the word read there. -/
theorem word_eq_drop (value : α) (rest bytes : Bytes) (offset : Nat) :
    toBeBytes value ++ rest = bytes.drop offset ↔ offset + Word.width α ≤ bytes.length ∧
      readWord bytes offset = value ∧ rest = bytes.drop (offset + Word.width α) := by
  rw [slice_eq_drop _ rest bytes offset (toBeBytes_length value) Word.width_pos]
  refine and_congr_right fun hlen => and_congr_left fun _ => ?_
  rw [readWord]
  constructor
  · intro h
    rw [h, fromBeBytes_toBeBytes]
  · rintro rfl
    refine (toBeBytes_fromBeBytes _ ?_).symm
    rw [List.length_take, List.length_drop]
    omega

theorem word_eq (value : α) (rest bytes : Bytes) :
    toBeBytes value ++ rest = bytes ↔ Word.width α ≤ bytes.length ∧
      readWord bytes 0 = value ∧ rest = bytes.drop (Word.width α) := by
  simpa only [List.drop_zero, Nat.zero_add] using word_eq_drop value rest bytes 0

theorem last_word_eq_drop (value : α) (bytes : Bytes) (offset : Nat) :
    toBeBytes value = bytes.drop offset ↔
      offset + Word.width α = bytes.length ∧ readWord bytes offset = value := by
  have h := word_eq_drop value [] bytes offset
  rw [List.append_nil] at h
  rw [h, eq_comm (a := ([] : Bytes)), List.drop_eq_nil_iff]
  constructor
  · rintro ⟨hle, hread, hge⟩
    exact ⟨by omega, hread⟩
  · rintro ⟨hlen, hread⟩
    exact ⟨by omega, hread, by omega⟩

end Layouts

@[simp] theorem toBeBytes_uint8 (b : UInt8) : toBeBytes b = [b] := by
  simp [toBeBytes, beBytes, Word.toNat]

end Framework
