import LadoFlow.Android.PairingCode
import Mathlib.Logic.Relation

/-!
# Pairing codes pass through the user

The display shows the code, the user types it, and the host reads it. A text keeps its meaning under
everything that a user may change: the case of letters, separators, and look-alike characters.
-/

namespace LadoFlow.System

open LadoFlow.Transport LadoFlow.Android Framework

def IsSeparator (character : Char) : Prop := character = '-' ∨ character = ' '

/-- One change that the user makes to a text. -/
inductive Retyped : List Char → List Char → Prop where
  | letterCase (front back : List Char) {shown typed : Char} (h : shown.toUpper = typed.toUpper) :
    Retyped (front ++ shown :: back) (front ++ typed :: back)
  | insert (front back : List Char) {separator : Char} (h : IsSeparator separator) :
    Retyped (front ++ back) (front ++ separator :: back)
  | remove (front back : List Char) {separator : Char} (h : IsSeparator separator) :
    Retyped (front ++ separator :: back) (front ++ back)
  | zero (front back : List Char) : Retyped (front ++ '0' :: back) (front ++ 'O' :: back)
  | one (front back : List Char) {typed : Char} (h : typed = 'I' ∨ typed = 'L') :
    Retyped (front ++ '1' :: back) (front ++ typed :: back)

/-- The symbols of a text without separators, case and aliases. -/
def normalised (text : List Char) : List Char := (compact text).map canonicalSymbol

/-- A Crockford symbol or one of its input aliases, in either case. -/
def IsSymbol (character : Char) : Prop :=
  character.toUpper ∈ crockfordAlphabet ∨ character.toUpper ∈ ['O', 'I', 'L']

section Separators

theorem toUpper_cases (character : Char) :
    character.toUpper = character ∨ (97 ≤ character.toNat ∧ 65 ≤ character.toUpper.toNat) := by
  by_cases hlower : 'a'.val ≤ character.val ∧ character.val ≤ 'z'.val
  · right
    have hlow : 97 ≤ character.val.toNat := UInt32.le_iff_toNat_le.mp hlower.1
    have hhigh : character.val.toNat ≤ 122 := UInt32.le_iff_toNat_le.mp hlower.2
    have hupper : character.toUpper.val = character.val + ('A'.val - 'a'.val) := by
      delta Char.toUpper
      rw [dif_pos hlower]
    have hnat : character.toUpper.val.toNat = (character.val.toNat + 4294967264) % 2 ^ 32 := by
      rw [hupper, UInt32.toNat_add]
      rfl
    refine ⟨hlow, ?_⟩
    show 65 ≤ character.toUpper.val.toNat
    omega
  · left
    exact dif_neg hlower

theorem toUpper_separator {character separator : Char} (h : IsSeparator separator) :
    character.toUpper = separator ↔ character = separator := by
  have hsmall : separator.toNat < 65 := by
    rcases h with rfl | rfl <;> decide
  rcases toUpper_cases character with hsame | ⟨hlow, hupper⟩
  · rw [hsame]
  · constructor
    · intro heq
      rw [heq] at hupper
      omega
    · intro heq
      rw [heq] at hlow
      omega

theorem isSeparator_toUpper (character : Char) :
    IsSeparator character.toUpper ↔ IsSeparator character := by
  rw [IsSeparator, IsSeparator, toUpper_separator (.inl rfl), toUpper_separator (.inr rfl)]

end Separators

section Normalised

theorem compact_append (front back : List Char) :
    compact (front ++ back) = compact front ++ compact back := List.filter_append _ _

theorem compact_separator {separator : Char} (h : IsSeparator separator) (back : List Char) :
    compact (separator :: back) = compact back := by
  apply List.filter_cons_of_neg
  rw [decide_eq_true_eq, not_not]
  exact h

theorem compact_symbol {symbol : Char} (h : ¬IsSeparator symbol) (back : List Char) :
    compact (symbol :: back) = symbol :: compact back :=
  List.filter_cons_of_pos (decide_eq_true h)

theorem normalised_append (front back : List Char) :
    normalised (front ++ back) = normalised front ++ normalised back := by
  rw [normalised, compact_append, List.map_append, normalised, normalised]

theorem normalised_separator {separator : Char} (h : IsSeparator separator) (back : List Char) :
    normalised (separator :: back) = normalised back := by
  rw [normalised, compact_separator h, normalised]

theorem normalised_symbol {symbol : Char} (h : ¬IsSeparator symbol) (back : List Char) :
    normalised (symbol :: back) = canonicalSymbol symbol :: normalised back := by
  rw [normalised, compact_symbol h, List.map_cons, normalised]

/-- Characters with one canonical symbol stand for each other. -/
theorem normalised_replace {shown typed : Char}
    (hseparator : IsSeparator shown ↔ IsSeparator typed)
    (hsymbol : canonicalSymbol shown = canonicalSymbol typed) (front back : List Char) :
    normalised (front ++ shown :: back) = normalised (front ++ typed :: back) := by
  rw [normalised_append, normalised_append]
  by_cases hshown : IsSeparator shown
  · rw [normalised_separator hshown, normalised_separator (hseparator.mp hshown)]
  · have htyped : ¬IsSeparator typed := fun h => hshown (hseparator.mpr h)
    rw [normalised_symbol hshown, normalised_symbol htyped, hsymbol]

theorem Retyped.normalised_eq {shown typed : List Char} (h : Retyped shown typed) :
    normalised shown = normalised typed := by
  cases h with
  | letterCase front back h =>
    apply normalised_replace
    · rw [← isSeparator_toUpper, h, isSeparator_toUpper]
    · simp only [canonicalSymbol, h]
  | insert front back h => rw [normalised_append, normalised_append, normalised_separator h]
  | remove front back h => rw [normalised_append, normalised_append, normalised_separator h]
  | zero front back =>
    apply normalised_replace
    · simp [IsSeparator]
    · decide
  | one front back h =>
    apply normalised_replace
    · rcases h with rfl | rfl <;> simp [IsSeparator]
    · rcases h with rfl | rfl <;> decide

theorem normalised_of_retyped {shown typed : List Char}
    (h : Relation.ReflTransGen Retyped shown typed) : normalised shown = normalised typed := by
  induction h with
  | refl => rfl
  | tail _ hlast ih => exact ih.trans hlast.normalised_eq

/-- The hyphens between the groups are separators. -/
theorem compact_hyphenated {symbols : List Char} (h : ∀ symbol ∈ symbols, ¬IsSeparator symbol) :
    compact (hyphenated symbols) = symbols := by
  induction symbols using List.reverseRecOn with
  | nil => rfl
  | append_singleton symbols symbol ih =>
    have hfront : ∀ other ∈ symbols, ¬IsSeparator other :=
      fun other hother => h other (List.mem_append_left _ hother)
    have hsymbol : ¬IsSeparator symbol := h symbol (by simp)
    rw [hyphenated_snoc, compact_append, ih hfront]
    split
    · rw [compact_separator (.inl rfl), compact_symbol hsymbol]
      rfl
    · rw [compact_symbol hsymbol]
      rfl

theorem crockfordSymbol_not_separator {index : Nat} (h : index < 2 ^ 5) :
    ¬IsSeparator (crockfordSymbol index) := by
  have hall : (List.range (2 ^ 5)).all fun index =>
      ¬(crockfordSymbol index = '-' ∨ crockfordSymbol index = ' ') := by decide
  have hsymbol := List.all_eq_true.mp hall index (List.mem_range.mpr h)
  rw [decide_eq_true_eq] at hsymbol
  exact hsymbol

theorem map_decodeCrockford (symbols : List Char) :
    symbols.map decodeCrockford = (symbols.map canonicalSymbol).map symbolValue := by
  rw [List.map_map]
  apply List.map_congr_left
  intro symbol _
  exact decodeCrockford_eq symbol

theorem map_symbolValue {values : List Nat} (h : ∀ value ∈ values, value < 2 ^ 5) :
    (values.map crockfordSymbol).map symbolValue = (values.map UInt8.ofNat).map some := by
  rw [List.map_map, List.map_map]
  apply List.map_congr_left
  intro value hvalue
  exact symbolValue_crockfordSymbol (h value hvalue)

theorem values_lt {symbols : List Char} {values : List UInt8}
    (h : symbols.map decodeCrockford = values.map some) :
    ∀ value ∈ values.map UInt8.toNat, value < 2 ^ 5 := by
  intro digit hdigit
  obtain ⟨value, hvalue, rfl⟩ := List.mem_map.mp hdigit
  have hdecoded : some value ∈ symbols.map decodeCrockford := h ▸ List.mem_map_of_mem hvalue
  obtain ⟨symbol, -, hsymbol⟩ := List.mem_map.mp hdecoded
  rw [decodeCrockford_eq] at hsymbol
  exact (symbolValue_eq_some hsymbol).1

theorem map_canonicalSymbol {symbols : List Char} {values : List UInt8}
    (h : symbols.map decodeCrockford = values.map some) :
    symbols.map canonicalSymbol = values.map fun value => crockfordSymbol value.toNat := by
  induction symbols generalizing values with
  | nil =>
    have hnil : values = [] := by simpa using h
    rw [hnil, List.map_nil, List.map_nil]
  | cons symbol symbols ih =>
    cases values with
    | nil => simp at h
    | cons value values =>
      rw [List.map_cons, List.map_cons, List.cons.injEq, decodeCrockford_eq] at h
      rw [List.map_cons, List.map_cons, ih h.2, (symbolValue_eq_some h.1).2]

theorem isSymbol_iff (character : Char) :
    IsSymbol character ↔ ∃ value, decodeCrockford character = some value := by
  have hcanonical : IsSymbol character ↔ canonicalSymbol character ∈ crockfordAlphabet := by
    simp only [IsSymbol, canonicalSymbol]
    split
    · rename_i hzero
      simp [hzero, crockfordAlphabet]
    · split
      · rename_i hone
        rcases hone with hone | hone <;> simp [hone, crockfordAlphabet]
      · simp_all
  rw [hcanonical, decodeCrockford_eq, symbolValue]
  constructor
  · intro hmem
    cases hindex : crockfordAlphabet.findIdx? fun candidate =>
        candidate = canonicalSymbol character with
    | none =>
      have habsent := List.findIdx?_eq_none_iff.mp hindex _ hmem
      simp at habsent
    | some index => exact ⟨_, rfl⟩
  · rintro ⟨value, hvalue⟩
    obtain ⟨index, hindex, -⟩ := Option.map_eq_some_iff.mp hvalue
    obtain ⟨hlt, hsymbol, -⟩ := List.findIdx?_eq_some_iff_getElem.mp hindex
    rw [← of_decide_eq_true hsymbol]
    exact List.getElem_mem hlt

end Normalised

/-- The symbols of a written token are the digits of its number. -/
theorem normalised_exposeGrouped (token : TetherPairingToken) :
    ∃ values, values.length = 16 ∧ (∀ value ∈ values, value < 2 ^ 5) ∧
      spelled (2 ^ 5) values = spelled (2 ^ 8) (token.val.map UInt8.toNat) ∧
      normalised (TetherPairingToken.exposeGrouped token).toList =
        values.map crockfordSymbol := by
  obtain ⟨values, hlength, hvalues, hspelled, htext⟩ := exposeGrouped_digits token
  refine ⟨values, hlength, hvalues, hspelled, ?_⟩
  have hsymbols : ∀ symbol ∈ values.map crockfordSymbol, ¬IsSeparator symbol := by
    intro symbol hsymbol
    obtain ⟨value, hvalue, rfl⟩ := List.mem_map.mp hsymbol
    exact crockfordSymbol_not_separator (hvalues value hvalue)
  rw [htext, normalised, compact_hyphenated hsymbols, List.map_map]
  apply List.map_congr_left
  intro value hvalue
  exact canonicalSymbol_crockfordSymbol (hvalues value hvalue)

/-- Whatever the user changed, the host reads the token that was shown. -/
theorem fromStr_retyped {token : TetherPairingToken} {text : String}
    (h : Relation.ReflTransGen Retyped (TetherPairingToken.exposeGrouped token).toList text.toList) :
    TetherPairingToken.fromStr text = .ok token := by
  obtain ⟨values, hlength, hvalues, hspelled, hshown⟩ := normalised_exposeGrouped token
  have hnormalised := normalised_of_retyped h
  rw [hshown] at hnormalised
  apply fromStr_eq_ok.mpr
  refine ⟨values.map UInt8.ofNat, by rw [List.length_map, hlength], ?_, ?_⟩
  · rw [map_decodeCrockford, ← map_symbolValue hvalues, hnormalised, normalised]
  · have hbytes : ∀ value ∈ values, value < 2 ^ 8 :=
      fun value hvalue => (hvalues value hvalue).trans (by decide)
    rw [map_toNat_ofNat hbytes, hspelled]

theorem fromStr_accepted_iff (text : String) :
    (∃ token, TetherPairingToken.fromStr text = .ok token) ↔
      (compact text.toList).length = 16 ∧ ∀ character ∈ compact text.toList, IsSymbol character := by
  constructor
  · rintro ⟨token, htoken⟩
    obtain ⟨values, hlength, hvalues, -⟩ := fromStr_eq_ok.mp htoken
    have hcount := congrArg List.length hvalues
    rw [List.length_map, List.length_map, hlength] at hcount
    refine ⟨hcount, ?_⟩
    intro character hcharacter
    have hdecoded : decodeCrockford character ∈ values.map some :=
      hvalues ▸ List.mem_map_of_mem hcharacter
    obtain ⟨value, -, hvalue⟩ := List.mem_map.mp hdecoded
    exact (isSymbol_iff character).mpr ⟨value, hvalue.symm⟩
  · rintro ⟨hlength, hsymbols⟩
    have hvalues : ∀ symbols : List Char, (∀ character ∈ symbols, IsSymbol character) →
        ∃ values : List UInt8, symbols.map decodeCrockford = values.map some := by
      intro symbols
      induction symbols with
      | nil => exact fun _ => ⟨[], rfl⟩
      | cons symbol symbols ih =>
        intro h
        obtain ⟨values, hrest⟩ := ih fun other hother => h other (List.mem_cons_of_mem _ hother)
        obtain ⟨value, hvalue⟩ := (isSymbol_iff symbol).mp (h symbol List.mem_cons_self)
        exact ⟨value :: values, by rw [List.map_cons, List.map_cons, hvalue, hrest]⟩
    obtain ⟨values, hvalues⟩ := hvalues _ hsymbols
    exact fromStr_accepts hlength hvalues

/-- Two accepted texts give one token when they normalise to the same symbols. -/
theorem fromStr_same_iff {first second : String} {firstToken secondToken : TetherPairingToken}
    (hfirst : TetherPairingToken.fromStr first = .ok firstToken)
    (hsecond : TetherPairingToken.fromStr second = .ok secondToken) :
    firstToken = secondToken ↔ normalised first.toList = normalised second.toList := by
  obtain ⟨firstValues, hfirstLength, hfirstValues, hfirstSpelled⟩ := fromStr_eq_ok.mp hfirst
  obtain ⟨secondValues, hsecondLength, hsecondValues, hsecondSpelled⟩ := fromStr_eq_ok.mp hsecond
  constructor
  · intro htoken
    rw [htoken] at hfirstSpelled
    have hvalues := spelled_inj (by decide) (by simp [hfirstLength, hsecondLength])
      (values_lt hfirstValues) (values_lt hsecondValues)
      (hfirstSpelled.symm.trans hsecondSpelled)
    have hsame : firstValues = secondValues :=
      (List.map_injective_iff.mpr fun a b => UInt8.toNat_inj.mp) hvalues
    rw [normalised, normalised, map_canonicalSymbol hfirstValues, map_canonicalSymbol hsecondValues,
      hsame]
  · intro hnormalised
    have hsymbols : (compact first.toList).map canonicalSymbol =
        (compact second.toList).map canonicalSymbol := hnormalised
    rw [map_decodeCrockford, hsymbols, ← map_decodeCrockford, hsecondValues] at hfirstValues
    have hsame : secondValues = firstValues :=
      (List.map_injective_iff.mpr (Option.some_injective _)) hfirstValues
    apply token_eq_of_spelled
    rw [hfirstSpelled, hsecondSpelled, hsame]

/-- Every token passes from the display through the user to the host. -/
theorem pairing_code_survives :
    (∀ token : TetherPairingToken,
      TetherPairingCode.formatCrockfordBase32 (signed token.val) =
        .ok (TetherPairingToken.exposeGrouped token)) ∧
    (∀ (token : TetherPairingToken) (text : String),
      Relation.ReflTransGen Retyped (TetherPairingToken.exposeGrouped token).toList text.toList →
      TetherPairingToken.fromStr text = .ok token) ∧
    (∀ text : String, (∃ token, TetherPairingToken.fromStr text = .ok token) ↔
      (compact text.toList).length = 16 ∧ ∀ character ∈ compact text.toList, IsSymbol character) ∧
    (∀ (first second : String) (firstToken secondToken : TetherPairingToken),
      TetherPairingToken.fromStr first = .ok firstToken →
      TetherPairingToken.fromStr second = .ok secondToken →
      (firstToken = secondToken ↔ normalised first.toList = normalised second.toList)) ∧
    (∀ (token : TetherPairingToken) (taken : Bytes) (byte : UInt8) (rest : Bytes),
      token.val = taken ++ byte :: rest → (taken.foldl Exposing.exposeByte .start).Exact byte) ∧
    ∀ (text : String) (taken : List Char) (symbol : Char) (rest : List Char)
      (entering : Entering) (value : UInt8),
      compact text.toList = taken ++ symbol :: rest → (compact text.toList).length = 16 →
      taken.foldlM Entering.enterSymbol .start = .ok entering →
      decodeCrockford symbol = some value → entering.Exact value := by
  refine ⟨TetherPairingCode.formatCrockfordBase32_eq, fun token text => fromStr_retyped,
    fromStr_accepted_iff, fun first second firstToken secondToken => fromStr_same_iff, ?_, ?_⟩
  · intro token taken byte rest htoken
    exact exposing_exact taken byte
  · intro text taken symbol rest entering value htext hlength hrun hdecode
    rw [htext, List.length_append, List.length_cons] at hlength
    exact entering_exact (by omega) hrun hdecode

theorem countingToken_length : ([0, 1, 2, 3, 4, 5, 6, 7, 8, 9] : List UInt8).length = 10 := rfl

def countingToken : TetherPairingToken := ⟨[0, 1, 2, 3, 4, 5, 6, 7, 8, 9], countingToken_length⟩

/-- A lower-case letter, a missing hyphen and the letter O for a zero. -/
theorem pairing_code_survives_retyped :
    TetherPairingToken.fromStr "000g40R4-0M30-E2O9" = .ok countingToken := by
  have hshown : (TetherPairingToken.exposeGrouped countingToken).toList =
      ['0', '0', '0'] ++ 'G' :: "-40R4-0M30-E209".toList := by decide +kernel
  have htyped : "000g40R4-0M30-E2O9".toList =
      "000g40R4-0M30-E2".toList ++ 'O' :: "9".toList := by decide
  apply pairing_code_survives.2.1 countingToken
  rw [hshown, htyped]
  have hcase := Retyped.letterCase ['0', '0', '0'] "-40R4-0M30-E209".toList
    (by decide : 'G'.toUpper = 'g'.toUpper)
  have hhyphen := @Retyped.remove ['0', '0', '0', 'g'] "40R4-0M30-E209".toList '-' (.inl rfl)
  have hzero := Retyped.zero "000g40R4-0M30-E2".toList "9".toList
  exact ((Relation.ReflTransGen.single hcase).tail hhyphen).tail hzero

end LadoFlow.System
