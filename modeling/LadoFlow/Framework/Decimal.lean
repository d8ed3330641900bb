import Mathlib.Data.List.TakeWhile
import Mathlib.Tactic.Common

/-!
# Decimal numerals

A string of digits without a leading zero is the numeral of its value.
-/

namespace Framework

/-- A numeral has no leading zero, but for zero itself. -/
def Numeral (digits : List Char) : Prop :=
  digits ≠ [] ∧ (∀ digit ∈ digits, digit.isDigit = true) ∧ (digits.head? = some '0' → digits.length = 1)

/-- The longest run of a kind is the one that something else follows. -/
theorem takeWhile_dropWhile_iff {α : Type} {p : α → Bool} {text run rest : List α} :
    text.takeWhile p = run ∧ text.dropWhile p = rest ↔
      text = run ++ rest ∧ (∀ a ∈ run, p a = true) ∧ ∀ a ∈ rest.head?, p a = false := by
  constructor
  · rintro ⟨rfl, rfl⟩
    refine ⟨List.takeWhile_append_dropWhile.symm, fun a => List.mem_takeWhile_imp, ?_⟩
    intro a ha
    have hnot := List.head?_dropWhile_not p text
    rw [Option.mem_def.mp ha] at hnot
    simpa using hnot
  · rintro ⟨rfl, hrun, hrest⟩
    rw [List.takeWhile_append_of_pos hrun, List.dropWhile_append_of_pos hrun]
    cases rest with
    | nil => simp
    | cons a rest =>
      have ha := hrest a rfl
      simp [ha]

theorem digitChar_of_isDigit {digit : Char} (h : digit.isDigit = true) :
    Nat.digitChar (digit.toNat - 48) = digit ∧ digit.toNat - 48 < 10 := by
  simp only [Char.isDigit, Bool.and_eq_true, decide_eq_true_eq, UInt32.le_iff_toNat_le] at h
  have hlow : 48 ≤ digit.toNat := h.1
  have hhigh : digit.toNat ≤ 57 := h.2
  refine ⟨?_, by omega⟩
  apply Char.toNat_inj.mp
  rw [Nat.toNat_digitChar_of_lt_ten (by omega)]
  omega

theorem toDigits_step {value : Nat} (hpos : 0 < value) {digit : Char} (h : digit.isDigit = true) :
    Nat.toDigits 10 (10 * value + (digit.toNat - 48)) = Nat.toDigits 10 value ++ [digit] := by
  obtain ⟨hchar, hlt⟩ := digitChar_of_isDigit h
  rw [← Nat.toDigits_append_toDigits (by decide) hpos hlt, Nat.toDigits_of_lt_base hlt, hchar]

/-- The digits behind a positive value. -/
theorem toDigits_ofDigitChars_append {digits : List Char} (hdigits : ∀ digit ∈ digits, digit.isDigit = true)
    {value : Nat} (hpos : 0 < value) :
    Nat.toDigits 10 (Nat.ofDigitChars 10 digits value) = Nat.toDigits 10 value ++ digits := by
  induction digits generalizing value with
  | nil => simp
  | cons digit digits ih =>
    rw [Nat.ofDigitChars_cons]
    have hdigit := hdigits digit List.mem_cons_self
    rw [ih (fun d hd => hdigits d (List.mem_cons_of_mem digit hd)) (by omega)]
    show Nat.toDigits 10 (10 * value + (digit.toNat - 48)) ++ digits = _
    rw [toDigits_step hpos hdigit, List.append_assoc, List.singleton_append]

theorem Numeral.toDigits_value {digits : List Char} (h : Numeral digits) :
    Nat.toDigits 10 (Nat.ofDigitChars 10 digits 0) = digits := by
  obtain ⟨hne, hdigits, hzero⟩ := h
  cases digits with
  | nil => exact absurd rfl hne
  | cons first rest =>
    obtain ⟨hchar, hlt⟩ := digitChar_of_isDigit (hdigits first List.mem_cons_self)
    have hrest : ∀ digit ∈ rest, digit.isDigit = true :=
      fun digit hmem => hdigits digit (List.mem_cons_of_mem first hmem)
    rw [Nat.ofDigitChars_cons]
    show Nat.toDigits 10 (Nat.ofDigitChars 10 rest (10 * 0 + (first.toNat - 48))) = _
    rw [Nat.mul_zero, Nat.zero_add]
    by_cases hfirst : first.toNat - 48 = 0
    · have hchar0 : first = '0' := by
        rw [← hchar, hfirst]
        rfl
      subst hchar0
      have hlength := hzero rfl
      have hnil : rest = [] := by simpa using hlength
      subst hnil
      rfl
    · rw [toDigits_ofDigitChars_append hrest (by omega), Nat.toDigits_of_lt_base hlt, hchar,
        List.singleton_append]

theorem numeral_toDigits (value : Nat) : Numeral (Nat.toDigits 10 value) := by
  induction value using Nat.strongRecOn with
  | ind value ih =>
    refine ⟨Nat.toDigits_ne_nil, fun digit => Nat.isDigit_of_mem_toDigits (by decide) (by decide), ?_⟩
    by_cases hsmall : value < 10
    · rw [Nat.toDigits_of_lt_base hsmall]
      simp
    · rw [Nat.toDigits_of_base_le (by decide) (by omega)]
      obtain ⟨hne, -, hzero⟩ := ih (value / 10) (by omega)
      have hvalue := @Nat.ofDigitChars_ten_toDigits (value / 10)
      cases hdigits : Nat.toDigits 10 (value / 10) with
      | nil => exact absurd hdigits hne
      | cons first rest =>
        rintro hhead
        -- a single leading zero would be the numeral of zero
        have hfirst : first = '0' := by simpa using hhead
        have hlength := hzero (by rw [hdigits, hfirst]; rfl)
        have hnil : rest = [] := by simpa [hdigits] using hlength
        rw [hdigits, hfirst, hnil] at hvalue
        have : (0 : Nat) = value / 10 := hvalue
        omega

theorem numeral_iff {digits : List Char} : Numeral digits ↔ ∃ value, digits = Nat.toDigits 10 value := by
  constructor
  · exact fun h => ⟨_, h.toDigits_value.symm⟩
  · rintro ⟨value, rfl⟩
    exact numeral_toDigits value

end Framework
