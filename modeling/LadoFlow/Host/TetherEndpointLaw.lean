import LadoFlow.Host.TetherEndpoint

/-!
# Which endpoints a pairing accepts

The readers take canonical texts only: four octets without leading zeros, and any digits for a port.
-/

namespace LadoFlow.Host

open Framework

/-- No digit follows. -/
def EndsNumber (rest : List Char) : Prop := ∀ character ∈ rest.head?, character.isDigit = false

/-- Digits of a number; zeros may stand in front. -/
def Digits (digits : List Char) : Prop := digits ≠ [] ∧ ∀ digit ∈ digits, digit.isDigit = true

@[simp] theorem endsNumber_nil : EndsNumber [] := nofun

theorem endsNumber_cons {character : Char} {rest : List Char} (h : character.isDigit = false) :
    EndsNumber (character :: rest) := by
  intro first hfirst
  cases hfirst
  exact h

section Readers

variable {text rest : List Char}

@[simp] theorem readGivenChar_eq_some {given : Char} :
    readGivenChar given text = some rest ↔ text = given :: rest := by
  cases text with
  | nil => simp [readGivenChar]
  | cons first others =>
    rw [readGivenChar]
    split <;> simp_all

theorem readNumber_eq_some {maxDigits : Option Nat} {allowZeroPrefix : Bool} {limit number : Nat} :
    readNumber maxDigits allowZeroPrefix limit text = some (number, rest) ↔
      ∃ digits, text = digits ++ rest ∧ Digits digits ∧ EndsNumber rest ∧
        (∀ count ∈ maxDigits, digits.length ≤ count) ∧
        (allowZeroPrefix = false → digits.head? = some '0' → digits.length = 1) ∧
        Nat.ofDigitChars 10 digits 0 = number ∧ number < limit := by
  constructor
  · intro h
    simp only [readNumber] at h
    split at h
    · cases h
    · rename_i hfew
      split at h
      · cases h
      · rename_i hne
        split at h
        · cases h
        · rename_i hzero
          split at h
          · rename_i hlimit
            cases h
            obtain ⟨htext, hdigits, hends⟩ := takeWhile_dropWhile_iff.mp
              (⟨rfl, rfl⟩ : text.takeWhile Char.isDigit = _ ∧ text.dropWhile Char.isDigit = _)
            refine ⟨_, htext, ⟨hne, hdigits⟩, hends, ?_, ?_, rfl, hlimit⟩
            · intro count hcount
              simpa [Option.mem_def.mp hcount] using hfew
            · intro hallow hhead
              simp only [hallow, hhead, Bool.not_false, decide_true, Bool.and_self, Bool.true_and,
                decide_eq_true_eq] at hzero
              have hpos := List.length_pos_iff.mpr hne
              omega
          · cases h
  · rintro ⟨digits, htext, ⟨hne, hdigits⟩, hends, hfew, hzero, rfl, hlimit⟩
    obtain ⟨htake, hdrop⟩ := takeWhile_dropWhile_iff.mpr ⟨htext, hdigits, hends⟩
    have hshort : maxDigits.any (· < digits.length) = false := by
      cases maxDigits with
      | none => rfl
      | some count =>
        have hle := hfew count rfl
        simpa using hle
    have hprefix : (!allowZeroPrefix && digits.head? = some '0' && 1 < digits.length) = false := by
      cases allowZeroPrefix with
      | true => rfl
      | false =>
        by_cases hhead : digits.head? = some '0'
        · simp [hhead, hzero rfl hhead]
        · simp [hhead]
    simp [readNumber, htake, hdrop, hshort, hprefix, hne, hlimit]

theorem readOctet_eq_some {octet : UInt8} :
    readOctet text = some (octet, rest) ↔
      text = Nat.toDigits 10 octet.toNat ++ rest ∧ EndsNumber rest := by
  rw [readOctet, Option.map_eq_some_iff]
  constructor
  · rintro ⟨⟨number, left⟩, hread, hoctet⟩
    simp only [Prod.mk.injEq] at hoctet
    obtain ⟨rfl, rfl⟩ := hoctet
    obtain ⟨digits, rfl, ⟨hne, hdigits⟩, hends, -, hzero, rfl, hlimit⟩ := readNumber_eq_some.mp hread
    have hnumeral : Numeral digits := ⟨hne, hdigits, hzero rfl⟩
    rw [UInt8.toNat_ofNat_of_lt' hlimit, hnumeral.toDigits_value]
    exact ⟨rfl, hends⟩
  · rintro ⟨rfl, hends⟩
    refine ⟨(octet.toNat, rest), ?_, by simp⟩
    obtain ⟨hne, hdigits, hzero⟩ := numeral_toDigits octet.toNat
    have hlimit := octet.toNat_lt
    refine readNumber_eq_some.mpr ⟨_, rfl, ⟨hne, hdigits⟩, hends, ?_, fun _ => hzero,
      Nat.ofDigitChars_ten_toDigits, hlimit⟩
    intro count hcount
    cases hcount
    exact (Nat.length_toDigits_le_iff (by decide) (by decide)).mpr (by omega)

theorem Ipv4Addr.toList_text (address : Ipv4Addr) : address.text.toList =
    Nat.toDigits 10 address.first.toNat ++ '.' :: (Nat.toDigits 10 address.second.toNat ++ '.' ::
      (Nat.toDigits 10 address.third.toNat ++ '.' :: Nat.toDigits 10 address.fourth.toNat)) := by
  simp [Ipv4Addr.text]

theorem readIpv4Addr_eq_some {address : Ipv4Addr} :
    readIpv4Addr text = some (address, rest) ↔ text = address.text.toList ++ rest ∧ EndsNumber rest := by
  have hdot : ∀ rest, EndsNumber ('.' :: rest) := fun _ => endsNumber_cons rfl
  rw [Ipv4Addr.toList_text]
  simp only [readIpv4Addr, Option.bind_eq_bind, Option.bind_eq_some_iff, Prod.exists, readOctet_eq_some,
    readGivenChar_eq_some, Option.some.injEq, Prod.mk.injEq]
  constructor
  · rintro ⟨a, _, ⟨rfl, -⟩, _, rfl, b, _, ⟨rfl, -⟩, _, rfl, c, _, ⟨rfl, -⟩, _, rfl, d, _, ⟨rfl, hends⟩,
      rfl, rfl⟩
    simp [hends]
  · rintro ⟨rfl, hends⟩
    refine ⟨address.first, _, ⟨?_, hdot _⟩, _, rfl, address.second, _, ⟨rfl, hdot _⟩, _, rfl,
      address.third, _, ⟨rfl, hdot _⟩, _, rfl, address.fourth, _, ⟨rfl, hends⟩, rfl, rfl⟩
    simp

theorem readPort_eq_some {port : UInt16} :
    readPort text = some (port, rest) ↔ ∃ digits, text = ':' :: (digits ++ rest) ∧ Digits digits ∧
      EndsNumber rest ∧ Nat.ofDigitChars 10 digits 0 = port.toNat := by
  simp only [readPort, Option.bind_eq_bind, Option.bind_eq_some_iff, readGivenChar_eq_some,
    Option.map_eq_some_iff, Prod.exists, Prod.mk.injEq]
  constructor
  · rintro ⟨_, rfl, number, _, hread, rfl, rfl⟩
    obtain ⟨digits, rfl, hdigits, hends, -, -, rfl, hlimit⟩ := readNumber_eq_some.mp hread
    exact ⟨digits, rfl, hdigits, hends, (UInt16.toNat_ofNat_of_lt' hlimit).symm⟩
  · rintro ⟨digits, rfl, hdigits, hends, hvalue⟩
    refine ⟨_, rfl, port.toNat, rest, ?_, by simp, rfl⟩
    exact readNumber_eq_some.mpr ⟨digits, rfl, hdigits, hends, nofun, nofun, hvalue, port.toNat_lt⟩

theorem readSocketAddrV4_eq_some {address : Ipv4Addr} {port : UInt16} :
    readSocketAddrV4 text = some ((address, port), rest) ↔
      ∃ digits, text = address.text.toList ++ ':' :: (digits ++ rest) ∧ Digits digits ∧
        EndsNumber rest ∧ Nat.ofDigitChars 10 digits 0 = port.toNat := by
  simp only [readSocketAddrV4, Option.bind_eq_bind, Option.bind_eq_some_iff, Prod.exists,
    readIpv4Addr_eq_some, readPort_eq_some, Option.some.injEq, Prod.mk.injEq]
  constructor
  · rintro ⟨a, _, ⟨rfl, -⟩, p, _, ⟨digits, rfl, hdigits, hends, hvalue⟩, ⟨rfl, rfl⟩, rfl⟩
    exact ⟨digits, rfl, hdigits, hends, hvalue⟩
  · rintro ⟨digits, rfl, hdigits, hends, hvalue⟩
    exact ⟨address, _, ⟨rfl, endsNumber_cons rfl⟩, port, rest, ⟨digits, rfl, hdigits, hends, hvalue⟩,
      ⟨rfl, rfl⟩, rfl⟩

end Readers

section Parsers

variable {text : List Char} {address : Ipv4Addr} {port : UInt16}

/-- The texts of an endpoint. -/
def EndpointText (address : Ipv4Addr) (port : UInt16) (text : List Char) : Prop :=
  ∃ digits, text = address.text.toList ++ ':' :: digits ∧ Digits digits ∧
    Nat.ofDigitChars 10 digits 0 = port.toNat

theorem readSocketAddrV4_eq_done :
    readSocketAddrV4 text = some ((address, port), []) ↔ EndpointText address port text := by
  simp [readSocketAddrV4_eq_some, EndpointText]

theorem parseSocketAddr_eq_v4 :
    parseSocketAddr text = some (.v4 address port) ↔ EndpointText address port text := by
  rw [← readSocketAddrV4_eq_done, parseSocketAddr]
  split
  · rename_i hread
    rw [hread]
    split <;> simp_all
  · rename_i hread
    rw [hread]
    split <;> simp

theorem length_octet (octet : UInt8) : (Nat.toDigits 10 octet.toNat).length ≤ 3 := by
  have hlimit := octet.toNat_lt
  exact (Nat.length_toDigits_le_iff (by decide) (by decide)).mpr (by omega)

theorem Ipv4Addr.length_text (address : Ipv4Addr) : address.text.toList.length ≤ 15 := by
  have hfirst := length_octet address.first
  have hsecond := length_octet address.second
  have hthird := length_octet address.third
  have hfourth := length_octet address.fourth
  simp only [Ipv4Addr.toList_text, List.length_append, List.length_cons]
  omega

theorem parseIpv4Addr_eq_some : parseIpv4Addr text = some address ↔ text = address.text.toList := by
  rw [parseIpv4Addr]
  constructor
  · intro h
    split at h
    · cases h
    · split at h
      · rename_i hread
        split at h
        · rename_i hdone
          cases h
          simpa [hdone] using (readIpv4Addr_eq_some.mp hread).1
        · cases h
      · cases h
  · rintro rfl
    have hread : readIpv4Addr address.text.toList = some (address, []) :=
      readIpv4Addr_eq_some.mpr ⟨by simp, endsNumber_nil⟩
    rw [if_neg (Nat.not_lt.mpr address.length_text), hread]
    rfl

/-- An address alone is no socket address. -/
theorem parseSocketAddr_text (address : Ipv4Addr) : parseSocketAddr address.text.toList = none := by
  have hread : readIpv4Addr address.text.toList = some (address, []) :=
    readIpv4Addr_eq_some.mpr ⟨by simp, endsNumber_nil⟩
  have hv4 : readSocketAddrV4 address.text.toList = none := by
    simp [readSocketAddrV4, hread, readPort, readGivenChar]
  have hv6 : readSocketAddrV6 address.text.toList = none := by
    obtain ⟨hne, hdigits, -⟩ := numeral_toDigits address.first.toNat
    rw [Ipv4Addr.toList_text]
    cases hfirst : Nat.toDigits 10 address.first.toNat with
    | nil => exact absurd hfirst hne
    | cons digit digits =>
      have hdigit := hdigits digit (by simp [hfirst])
      have hbracket : digit ≠ '[' := by
        rintro rfl
        cases hdigit
      simp [readSocketAddrV6, readGivenChar, hbracket]
  simp [parseSocketAddr, hv4, hv6]

theorem parse_eq_v4 : (parseSocketAddr text).or
      ((parseIpv4Addr text).map (.v4 · (.ofNat defaultTetherPort))) = some (.v4 address port) ↔
    EndpointText address port text ∨ text = address.text.toList ∧ port = .ofNat defaultTetherPort := by
  constructor
  · intro h
    rcases Option.or_eq_some_iff.mp h with hsocket | ⟨-, haddress⟩
    · exact .inl (parseSocketAddr_eq_v4.mp hsocket)
    · obtain ⟨read, hread, hsame⟩ := Option.map_eq_some_iff.mp haddress
      cases hsame
      exact .inr ⟨parseIpv4Addr_eq_some.mp hread, rfl⟩
  · rintro (hsocket | ⟨rfl, rfl⟩)
    · rw [parseSocketAddr_eq_v4.mpr hsocket, Option.some_or]
    · rw [parseSocketAddr_text, parseIpv4Addr_eq_some.mpr rfl]
      rfl

theorem Ipv4Addr.text_ne_nil (address : Ipv4Addr) : address.text.toList ≠ [] := by
  rw [Ipv4Addr.toList_text]
  simp

end Parsers

/-- A pairing accepts just these texts: a local address in canonical dotted decimal, alone for
the default port or with the digits of a port other than zero, between white space. -/
theorem tether_endpoint_iff (value : String) (address : Ipv4Addr) (port : UInt16) :
    parseTetherEndpoint value = .ok (address, port) ↔
      isLocalTetherAddress address = true ∧ port ≠ 0 ∧
        (EndpointText address port (trim value.toList) ∨
          trim value.toList = address.text.toList ∧ port = .ofNat defaultTetherPort) := by
  rw [← parse_eq_v4, parseTetherEndpoint]
  constructor
  · intro h
    split at h
    · cases h
    · split at h
      · cases h
      · cases h
      · rename_i hparse
        obtain ⟨hport, h⟩ := ite_error_eq_ok.mp h
        obtain ⟨hlocal, h⟩ := ite_error_eq_ok.mp h
        cases h
        exact ⟨by simpa using hlocal, hport, hparse⟩
  · rintro ⟨hlocal, hport, hparse⟩
    have hne : trim value.toList ≠ [] := by
      intro hnil
      rcases parse_eq_v4.mp hparse with ⟨digits, htext, -⟩ | ⟨htext, -⟩
      · simp [hnil] at htext
      · exact address.text_ne_nil (htext.symm.trans hnil)
    simp [hne, hparse, hport, hlocal]

end LadoFlow.Host
