import Mathlib.Tactic.Common

/-!
# Flat JSON objects

The part of JSON that small programs print for one another: an object whose members are texts, natural
numbers and truth values, without white space. A text denotes its members, and a parser is sound for this
part when it reads back whatever a text denotes.
-/

namespace Framework.Json

def quote : Char := Char.ofNat 34
def backslash : Char := Char.ofNat 92
def openBrace : Char := Char.ofNat 123
def closeBrace : Char := Char.ofNat 125

inductive Scalar where
  | boolean (value : Bool)
  | natural (value : Nat)
  | text (value : List Char)
  deriving DecidableEq, Repr

abbrev Members := List (List Char × Scalar)

/-- The character that a letter behind a backslash stands for. -/
def shortEscape (letter : Char) : Option Char :=
  if letter = quote then some quote
  else if letter = backslash then some backslash
  else if letter = '/' then some '/'
  else if letter = 'b' then some (Char.ofNat 8)
  else if letter = 'f' then some (Char.ofNat 12)
  else if letter = 'n' then some (Char.ofNat 10)
  else if letter = 'r' then some (Char.ofNat 13)
  else if letter = 't' then some (Char.ofNat 9)
  else none

def hexValue (digit : Char) : Option Nat :=
  if '0' ≤ digit ∧ digit ≤ '9' then some (digit.toNat - 48)
  else if 'a' ≤ digit ∧ digit ≤ 'f' then some (digit.toNat - 87)
  else if 'A' ≤ digit ∧ digit ≤ 'F' then some (digit.toNat - 55)
  else none

def hexFold (digits : List Char) (start : Nat) : Option Nat :=
  digits.foldlM (fun number digit => (hexValue digit).map (16 * number + ·)) start

def hexNumber (digits : List Char) : Option Nat := hexFold digits 0

/-- The spellings of one character between quotes. -/
inductive EscapedChar : List Char → Char → Prop
  | plain (c : Char) (hcontrol : 0x20 ≤ c.toNat) (hquote : c ≠ quote) (hbackslash : c ≠ backslash) :
    EscapedChar [c] c
  | short (letter c : Char) (hletter : shortEscape letter = some c) :
    EscapedChar [backslash, letter] c
  | unicode (a b c d : Char) (number : Nat) (hdigits : hexNumber [a, b, c, d] = some number)
    (hvalid : number.isValidChar) : EscapedChar [backslash, 'u', a, b, c, d] (Char.ofNat number)

inductive EscapedText : List Char → List Char → Prop
  | nil : EscapedText [] []
  | cons {spelling spellings : List Char} {c : Char} {text : List Char}
    (hfirst : EscapedChar spelling c) (hrest : EscapedText spellings text) :
    EscapedText (spelling ++ spellings) (c :: text)

inductive ScalarText : List Char → Scalar → Prop
  | boolean (value : Bool) : ScalarText (if value then "true" else "false").toList (.boolean value)
  | natural (value : Nat) : ScalarText (Nat.toDigits 10 value) (.natural value)
  | text {spelling value : List Char} (h : EscapedText spelling value) :
    ScalarText (quote :: spelling ++ [quote]) (.text value)

/-- One member, with its name in quotes. -/
inductive MemberText : List Char → List Char × Scalar → Prop
  | mk {name key spelling : List Char} {value : Scalar} (hname : EscapedText name key)
    (hvalue : ScalarText spelling value) :
    MemberText (quote :: name ++ quote :: ':' :: spelling) (key, value)

inductive MembersText : List Char → Members → Prop
  | single {text : List Char} {member : List Char × Scalar} (h : MemberText text member) :
    MembersText text [member]
  | cons {text rest : List Char} {member : List Char × Scalar} {members : Members}
    (h : MemberText text member) (hrest : MembersText rest members) :
    MembersText (text ++ ',' :: rest) (member :: members)

/-- The text of an object with these members, in order. -/
inductive ObjectText : List Char → Members → Prop
  | mk {body : List Char} {members : Members} (h : MembersText body members) :
    ObjectText (openBrace :: body ++ [closeBrace]) members

/-- A parser of objects reads what a text denotes. -/
def Reads {ε : Type} (parse : List Char → Except ε Members) : Prop :=
  ∀ text members, ObjectText text members → parse text = .ok members

/-- The characters up to the closing quote, and what follows it. -/
def readText : List Char → Option (List Char × List Char)
  | [] => none
  | c :: rest =>
    if c = quote then some ([], rest)
    else if c = backslash then
      match rest with
      | [] => none
      | letter :: rest =>
        if letter = 'u' then
          match rest with
          | a :: b :: d :: e :: rest =>
            match hexNumber [a, b, d, e] with
            | none => none
            | some number =>
              if number.isValidChar then
                (readText rest).map fun (text, rest) => (Char.ofNat number :: text, rest)
              else none
          | _ => none
        else
          match shortEscape letter with
          | none => none
          | some escaped => (readText rest).map fun (text, rest) => (escaped :: text, rest)
    else if c.toNat < 0x20 then none
    else (readText rest).map fun (text, rest) => (c :: text, rest)

def readScalar : List Char → Option (Scalar × List Char)
  | [] => none
  | c :: rest =>
    if c = quote then (readText rest).map fun (text, rest) => (.text text, rest)
    else if c.isDigit then
      some (.natural (Nat.ofDigitChars 10 ((c :: rest).takeWhile Char.isDigit) 0),
        (c :: rest).dropWhile Char.isDigit)
    else if "true".toList.isPrefixOf (c :: rest) then some (.boolean true, rest.drop 3)
    else if "false".toList.isPrefixOf (c :: rest) then some (.boolean false, rest.drop 4)
    else none

def readMember (text : List Char) : Option ((List Char × Scalar) × List Char) :=
  match text with
  | [] => none
  | c :: rest =>
    if c = quote then
      match readText rest with
      | some (key, colon :: rest) =>
        if colon = ':' then (readScalar rest).map fun (value, rest) => ((key, value), rest) else none
      | _ => none
    else none

/-- The members up to the closing brace, which ends the text. -/
def readMembers : Nat → List Char → Option Members
  | 0, _ => none
  | fuel + 1, text =>
    match readMember text with
    | some (member, next :: rest) =>
      if next = ',' then (readMembers fuel rest).map (member :: ·)
      else if next = closeBrace ∧ rest = [] then some [member]
      else none
    | _ => none

def parseObject (text : List Char) : Except String Members :=
  match text with
  | [] => .error "EOF while parsing a value"
  | c :: rest =>
    if c = openBrace then
      match readMembers rest.length rest with
      | some members => .ok members
      | none => .error "expected an object"
    else .error "expected value"

section Reading

theorem quote_ne_backslash : quote ≠ backslash := by decide

theorem readText_escapedChar {spelling : List Char} {c : Char} (h : EscapedChar spelling c)
    (rest : List Char) :
    readText (spelling ++ rest) = (readText rest).map fun (text, rest) => (c :: text, rest) := by
  cases h with
  | plain c hcontrol hquote hbackslash =>
    rw [List.singleton_append, readText.eq_def]
    simp only [if_neg hquote, if_neg hbackslash, if_neg (Nat.not_lt.mpr hcontrol)]
  | short letter c hletter =>
    have hu : letter ≠ 'u' := by
      rintro rfl
      cases hletter
    rw [List.cons_append, List.cons_append, List.nil_append, readText.eq_def]
    simp only [if_neg quote_ne_backslash.symm, if_true, if_neg hu, hletter]
  | unicode a b d e number hdigits hvalid =>
    simp only [List.cons_append, List.nil_append]
    rw [readText.eq_def]
    simp only [if_neg quote_ne_backslash.symm, if_true, hdigits, if_pos hvalid]

theorem readText_escapedText {spelling text : List Char} (h : EscapedText spelling text)
    (rest : List Char) : readText (spelling ++ quote :: rest) = some (text, rest) := by
  induction h with
  | nil =>
    rw [List.nil_append, readText.eq_def]
    simp only [if_true]
  | cons hfirst _ ih =>
    rw [List.append_assoc, readText_escapedChar hfirst, ih]
    rfl

theorem takeWhile_digits {digits rest : List Char} (hdigits : ∀ c ∈ digits, c.isDigit = true)
    (hrest : ∀ c ∈ rest.head?, c.isDigit = false) :
    (digits ++ rest).takeWhile Char.isDigit = digits ∧
      (digits ++ rest).dropWhile Char.isDigit = rest := by
  induction digits with
  | nil =>
    cases rest with
    | nil => exact ⟨rfl, rfl⟩
    | cons c rest =>
      have hc := hrest c rfl
      simp [hc]
  | cons c digits ih =>
    obtain ⟨htake, hdrop⟩ := ih fun d hd => hdigits d (List.mem_cons_of_mem c hd)
    have hc := hdigits c List.mem_cons_self
    simp [hc, htake, hdrop]

theorem isDigit_of_mem_toDigits {n : Nat} {c : Char} (h : c ∈ Nat.toDigits 10 n) :
    c.isDigit = true := Nat.isDigit_of_mem_toDigits (by decide) (by decide) h

/-- What follows a scalar is a comma or a closing brace, never a digit. -/
theorem readScalar_scalarText {spelling : List Char} {value : Scalar} (h : ScalarText spelling value)
    {rest : List Char} (hrest : ∀ c ∈ rest.head?, c.isDigit = false) :
    readScalar (spelling ++ rest) = some (value, rest) := by
  cases h with
  | boolean value =>
    cases value
    · simp [readScalar, quote]
    · simp [readScalar, quote]
  | natural value =>
    obtain ⟨htake, hdrop⟩ := takeWhile_digits (fun c hc => isDigit_of_mem_toDigits hc) hrest
    cases hdigits : Nat.toDigits 10 value with
    | nil => exact absurd hdigits Nat.toDigits_ne_nil
    | cons c digits =>
      rw [hdigits] at htake hdrop
      have hdigit : c.isDigit = true := isDigit_of_mem_toDigits (hdigits ▸ List.mem_cons_self)
      have hquote : c ≠ quote := by
        rintro rfl
        cases hdigit
      rw [List.cons_append, readScalar, if_neg hquote, if_pos hdigit, ← List.cons_append, htake, hdrop,
        ← hdigits, Nat.ofDigitChars_toDigits (by decide) (by decide)]
  | text h =>
    rw [List.append_assoc, List.cons_append, readScalar, if_pos rfl, List.singleton_append,
      readText_escapedText h]
    rfl

theorem readMember_memberText {text : List Char} {member : List Char × Scalar}
    (h : MemberText text member) {rest : List Char} (hrest : ∀ c ∈ rest.head?, c.isDigit = false) :
    readMember (text ++ rest) = some (member, rest) := by
  cases h with
  | mk hname hvalue =>
    rw [List.append_assoc, List.cons_append, readMember, if_pos rfl, List.cons_append,
      List.cons_append, readText_escapedText hname]
    simp only [if_true]
    rw [readScalar_scalarText hvalue hrest]
    rfl

/-- Every member takes characters, so the length of the text is fuel enough. -/
theorem readMembers_membersText {text : List Char} {members : Members} (h : MembersText text members)
    {fuel : Nat} (hfuel : text.length < fuel) :
    readMembers fuel (text ++ [closeBrace]) = some members := by
  induction h generalizing fuel with
  | single h =>
    cases fuel with
    | zero => omega
    | succ fuel =>
      have hdigit : ∀ c ∈ ([closeBrace] : List Char).head?, c.isDigit = false := by
        intro c hc
        cases hc
        rfl
      rw [readMembers, readMember_memberText h hdigit]
      rfl
  | cons h _ ih =>
    cases fuel with
    | zero => omega
    | succ fuel =>
      rw [List.append_assoc, List.cons_append, readMembers, readMember_memberText h (by simp)]
      simp only [if_true]
      rw [ih (by simp only [List.length_append, List.length_cons] at hfuel; omega)]
      rfl

theorem reads_parseObject : Reads parseObject := by
  rintro text members ⟨h⟩
  have hread := readMembers_membersText h (Nat.lt_succ_self _)
  simp only [List.cons_append, parseObject, if_true, List.length_append, List.length_singleton, hread]

end Reading

section Writing

/-- A character that stands for itself between quotes. -/
def isPlain (c : Char) : Bool := 0x20 ≤ c.toNat && c ≠ quote && c ≠ backslash

theorem escapedText_plain {text : List Char} (h : text.all isPlain = true) : EscapedText text text := by
  induction text with
  | nil => exact .nil
  | cons c text ih =>
    simp only [List.all_cons, Bool.and_eq_true] at h
    have hc : 0x20 ≤ c.toNat ∧ c ≠ quote ∧ c ≠ backslash := by
      simpa [isPlain, and_assoc] using h.1
    exact .cons (.plain c hc.1 hc.2.1 hc.2.2) (ih h.2)

/-- Spellings of the characters one after another. -/
theorem escapedText_flatMap {α : Type} {spell : α → List Char} {denote : α → Char} {items : List α}
    (h : ∀ item ∈ items, EscapedChar (spell item) (denote item)) :
    EscapedText (items.flatMap spell) (items.map denote) := by
  induction items with
  | nil => exact .nil
  | cons item items ih =>
    exact .cons (h item List.mem_cons_self) (ih fun other hother =>
      h other (List.mem_cons_of_mem item hother))

/-- The members one after another, with commas between them. -/
theorem membersText_intercalate {texts : List (List Char)} {members : Members}
    (h : List.Forall₂ MemberText texts members) (hne : texts ≠ []) :
    MembersText ([','].intercalate texts) members := by
  induction h with
  | nil => exact absurd rfl hne
  | @cons text member texts members hfirst hrest ih =>
    cases hrest with
    | nil => simpa [List.intercalate] using MembersText.single hfirst
    | @cons second other texts members hsecond hrest =>
      rw [List.intercalate_cons_cons]
      simpa using MembersText.cons hfirst (ih (List.cons_ne_nil _ _))

theorem hexFold_append (first second : List Char) (start : Nat) :
    hexFold (first ++ second) start = (hexFold first start).bind (hexFold second) := by
  exact List.foldlM_append

theorem hexNumber_zeros (count : Nat) (digits : List Char) :
    hexNumber (List.replicate count '0' ++ digits) = hexNumber digits := by
  induction count with
  | zero => rfl
  | succ count ih =>
    rw [List.replicate_succ, List.cons_append]
    exact ih

theorem hexValue_digitChar : ∀ n < 16, hexValue (Nat.digitChar n) = some n ∧
    hexValue (Nat.digitChar n).toUpper = some n := by
  decide

/-- Hexadecimal digits read back, in either case. -/
theorem hexNumber_toDigits {raise : Char → Char}
    (hraise : ∀ n < 16, hexValue (raise (Nat.digitChar n)) = some n) (n : Nat) :
    hexNumber ((Nat.toDigits 16 n).map raise) = some n := by
  induction n using Nat.strongRecOn with
  | ind n ih =>
    by_cases hsmall : n < 16
    · rw [Nat.toDigits_of_lt_base hsmall]
      simp [hexNumber, hexFold, hraise n hsmall]
    · have hlast : n % 16 < 16 := Nat.mod_lt n (by decide)
      rw [Nat.toDigits_of_base_le (by decide) (Nat.not_lt.mp hsmall), List.map_append, hexNumber,
        hexFold_append, ← hexNumber, ih (n / 16) (by omega)]
      simp only [List.map_cons, List.map_nil, Option.bind_some, hexFold, List.foldlM_cons, hraise _ hlast,
        Option.map_some, List.foldlM_nil, Option.bind_eq_bind, Option.pure_def]
      rw [Nat.div_add_mod]

/-- What holds of every digit in one case holds of the digits of a number. -/
theorem forall_toDigits {raise : Char → Char} {p : Char → Prop}
    (hp : ∀ n < 16, p (raise (Nat.digitChar n))) (n : Nat) :
    ∀ digit ∈ (Nat.toDigits 16 n).map raise, p digit := by
  induction n using Nat.strongRecOn with
  | ind n ih =>
    by_cases hsmall : n < 16
    · rw [Nat.toDigits_of_lt_base hsmall]
      simpa using hp n hsmall
    · have hlast := hp (n % 16) (Nat.mod_lt n (by decide))
      rw [Nat.toDigits_of_base_le (by decide) (Nat.not_lt.mp hsmall), List.map_append]
      intro digit hdigit
      rcases List.mem_append.mp hdigit with hfirst | hrest
      · exact ih (n / 16) (by omega) digit hfirst
      · simp only [List.map_cons, List.map_nil, List.mem_singleton] at hrest
        exact hrest ▸ hlast

end Writing

end Framework.Json
