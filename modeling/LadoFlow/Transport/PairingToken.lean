import LadoFlow.Framework.Regroup
import LadoFlow.Transport.Pairing

/-!
# Pairing tokens as text

The host reads a token that the user types from the display. The writer regroups the bytes into
five-bit symbols, the reader regroups the symbols into bytes.
-/

namespace LadoFlow.Transport

open Framework

def crockfordAlphabet : List Char :=
  ['0', '1', '2', '3', '4', '5', '6', '7', '8', '9', 'A', 'B', 'C', 'D', 'E', 'F', 'G', 'H', 'J',
    'K', 'M', 'N', 'P', 'Q', 'R', 'S', 'T', 'V', 'W', 'X', 'Y', 'Z']

/-- The symbol at an index of the alphabet; every index in use is below 32. -/
def crockfordSymbol (index : Nat) : Char := crockfordAlphabet.getD index '0'

inductive TetherPairingTokenError where
  | wrongSymbolCount (actual : Nat)
  | invalidSymbol (symbol : Char)
  deriving DecidableEq, Repr

/-- The low `bits` bits of the accumulator. -/
def keepBits (accumulator : UInt32) (bits : UInt8) : UInt32 :=
  accumulator &&& (if bits = 0 then (0 : UInt32) else ((1 : UInt32) <<< bits.toUInt32) - 1)

/-- The variables of `expose_grouped`. -/
structure Exposing where
  accumulator : UInt32
  bits : UInt8
  symbols : Nat
  output : String

namespace Exposing

def start : Exposing := ⟨0, 0, 0, ""⟩

def shiftIn (exposing : Exposing) (byte : UInt8) : Exposing :=
  { exposing with
    accumulator := (exposing.accumulator <<< 8) ||| byte.toUInt32
    bits := exposing.bits + 8 }

def exposeSymbol (exposing : Exposing) : Exposing :=
  let bits := exposing.bits - 5
  let output :=
    if 0 < exposing.symbols ∧ exposing.symbols % 4 = 0 then exposing.output.push '-'
    else exposing.output
  let index := (exposing.accumulator >>> bits.toUInt32) &&& 0x1f
  { accumulator := keepBits exposing.accumulator bits
    bits
    symbols := exposing.symbols + 1
    output := output.push (crockfordSymbol index.toNat) }

theorem exposeSymbol_bits_lt {exposing : Exposing} (h : 5 ≤ exposing.bits) :
    exposing.exposeSymbol.bits.toNat < exposing.bits.toNat := by
  have hbits : 5 ≤ exposing.bits.toNat := UInt8.le_iff_toNat_le.mp h
  show (exposing.bits - 5).toNat < exposing.bits.toNat
  rw [UInt8.toNat_sub_of_le _ _ h]
  have hfive : (5 : UInt8).toNat = 5 := rfl
  omega

/-- The inner loop. -/
def exposeSymbols (exposing : Exposing) : Exposing :=
  if 5 ≤ exposing.bits then exposeSymbols exposing.exposeSymbol else exposing
termination_by exposing.bits.toNat
decreasing_by exact exposeSymbol_bits_lt ‹_›

def exposeByte (exposing : Exposing) (byte : UInt8) : Exposing := (exposing.shiftIn byte).exposeSymbols

end Exposing

def TetherPairingToken.exposeGrouped (token : TetherPairingToken) : String :=
  (token.val.foldl Exposing.exposeByte .start).output

def decodeCrockford (character : Char) : Option UInt8 :=
  let normalized := character.toUpper
  if normalized = 'O' then some 0
  else if normalized = 'I' ∨ normalized = 'L' then some 1
  else (crockfordAlphabet.findIdx? fun candidate => candidate = normalized).map UInt8.ofNat

def FixedBytes.set {n : Nat} (bytes : FixedBytes n) (index : Nat) (byte : UInt8) : FixedBytes n :=
  ⟨bytes.val.set index byte, by rw [List.length_set, bytes.property]⟩

/-- The variables of `from_str`. -/
structure Entering where
  output : FixedBytes 10
  accumulator : UInt32
  bits : UInt8
  outputIndex : Nat

namespace Entering

def start : Entering := ⟨FixedBytes.zero 10, 0, 0, 0⟩

def shiftIn (entering : Entering) (value : UInt8) : Entering :=
  { entering with
    accumulator := (entering.accumulator <<< 5) ||| value.toUInt32
    bits := entering.bits + 5 }

def enterByte (entering : Entering) : Entering :=
  let bits := entering.bits - 8
  { output := entering.output.set entering.outputIndex
      ((entering.accumulator >>> bits.toUInt32) &&& 0xff).toUInt8
    accumulator := keepBits entering.accumulator bits
    bits
    outputIndex := entering.outputIndex + 1 }

def enterSymbol (entering : Entering) (character : Char) :
    Except TetherPairingTokenError Entering :=
  match decodeCrockford character with
  | none => .error (.invalidSymbol character)
  | some value =>
    let entering := entering.shiftIn value
    .ok (if 8 ≤ entering.bits then entering.enterByte else entering)

end Entering

/-- The characters that are not separators. -/
def compact (text : List Char) : List Char :=
  text.filter fun character => ¬(character = '-' ∨ character = ' ')

def TetherPairingToken.fromStr (value : String) :
    Except TetherPairingTokenError TetherPairingToken :=
  let symbols := compact value.toList
  if symbols.length ≠ 16 then .error (.wrongSymbolCount symbols.length)
  else do
    let entering ← symbols.foldlM Entering.enterSymbol .start
    .ok entering.output

/-! ## The accumulator -/

section Words

variable {accumulator : UInt32} {bits : UInt8}

theorem shiftIn_toNat {width : Nat} {shift : UInt32} {symbol : UInt8} (hshift : shift.toNat = width)
    (hwidth : width < 32) (hroom : accumulator.toNat * 2 ^ width < 2 ^ 32)
    (hsymbol : symbol.toNat < 2 ^ width) :
    ((accumulator <<< shift) ||| symbol.toUInt32).toNat =
      accumulator.toNat * 2 ^ width + symbol.toNat := by
  have hshifted : (accumulator <<< shift).toNat = accumulator.toNat <<< width := by
    rw [UInt32.toNat_shiftLeft, hshift, Nat.mod_eq_of_lt hwidth, Nat.shiftLeft_eq,
      Nat.mod_eq_of_lt hroom]
  rw [UInt32.toNat_or, hshifted, UInt8.toNat_toUInt32, ← Nat.shiftLeft_add_eq_or_of_lt hsymbol,
    Nat.shiftLeft_eq]

theorem shift_bits (hbits : bits.toNat < 32) : bits.toUInt32.toNat % 32 = bits.toNat := by
  rw [UInt8.toNat_toUInt32, Nat.mod_eq_of_lt hbits]

theorem topBits_toNat {width : Nat} {mask : UInt32} (hmask : mask.toNat = 2 ^ width - 1)
    (hbits : bits.toNat < 32) (hbuffered : accumulator.toNat < 2 ^ (bits.toNat + width)) :
    ((accumulator >>> bits.toUInt32) &&& mask).toNat = accumulator.toNat / 2 ^ bits.toNat := by
  have hquotient : accumulator.toNat / 2 ^ bits.toNat < 2 ^ width := by
    apply Nat.div_lt_of_lt_mul
    rw [← Nat.pow_add]
    exact hbuffered
  rw [UInt32.toNat_and, UInt32.toNat_shiftRight, shift_bits hbits, hmask,
    Nat.and_two_pow_sub_one_eq_mod, Nat.shiftRight_eq_div_pow, Nat.mod_eq_of_lt hquotient]

theorem keepBits_toNat (hbits : bits.toNat < 32) :
    (keepBits accumulator bits).toNat = accumulator.toNat % 2 ^ bits.toNat := by
  have hpos : 0 < 2 ^ bits.toNat := Nat.two_pow_pos bits.toNat
  have hlt : 2 ^ bits.toNat < 2 ^ 32 := Nat.pow_lt_pow_right (by decide) hbits
  rw [keepBits]
  split
  case isTrue hzero =>
    rw [hzero, UInt32.and_zero]
    simp [Nat.mod_one]
  case isFalse =>
    have hone : ((1 : UInt32) <<< bits.toUInt32).toNat = 2 ^ bits.toNat := by
      rw [UInt32.toNat_shiftLeft, shift_bits hbits, UInt32.toNat_one, Nat.shiftLeft_eq, Nat.one_mul,
        Nat.mod_eq_of_lt hlt]
    have hle : (1 : UInt32) ≤ (1 : UInt32) <<< bits.toUInt32 := by
      rw [UInt32.le_iff_toNat_le, hone, UInt32.toNat_one]
      exact hpos
    rw [UInt32.toNat_and, UInt32.toNat_sub_of_le _ _ hle, hone, UInt32.toNat_one,
      Nat.and_two_pow_sub_one_eq_mod]

end Words

/-! ## Writing -/

/-- The symbols in groups of four. -/
def hyphenated (symbols : List Char) : List Char :=
  symbols.zipIdx.flatMap fun (symbol, i) => if 0 < i ∧ i % 4 = 0 then ['-', symbol] else [symbol]

theorem hyphenated_snoc (symbols : List Char) (symbol : Char) :
    hyphenated (symbols ++ [symbol]) = hyphenated symbols ++
      if 0 < symbols.length ∧ symbols.length % 4 = 0 then ['-', symbol] else [symbol] := by
  rw [hyphenated, List.zipIdx_append, List.flatMap_append, hyphenated]
  simp

/-- The symbols `values` were written of the bytes read so far. -/
structure Exposed (bytes values : List Nat) (exposing : Exposing) : Prop where
  regrouped : Regrouped 8 5 bytes values exposing.accumulator.toNat exposing.bits.toNat
  symbols : exposing.symbols = values.length
  output : exposing.output.toList = hyphenated (values.map crockfordSymbol)

section Writing

variable {bytes values : List Nat} {exposing : Exposing}

theorem Exposed.symbol (h : Exposed bytes values exposing) (hbits : 5 ≤ exposing.bits.toNat)
    (hroom : exposing.bits.toNat < 32) :
    ∃ value, Exposed bytes (values ++ [value]) exposing.exposeSymbol := by
  have hrest : (exposing.bits - 5).toNat = exposing.bits.toNat - 5 :=
    UInt8.toNat_sub_of_le _ _ (UInt8.le_iff_toNat_le.mpr hbits)
  have hsplit : exposing.bits.toNat = (exposing.bits - 5).toNat + 5 := by omega
  have hsmall : (exposing.bits - 5).toNat < 32 := by omega
  have hregrouped := h.regrouped
  rw [hsplit] at hregrouped
  have hindex := @topBits_toNat exposing.accumulator (exposing.bits - 5) 5 0x1f rfl hsmall
    hregrouped.buffered
  refine ⟨exposing.accumulator.toNat / 2 ^ (exposing.bits - 5).toNat, ?_, ?_, ?_⟩
  · have hwritten := hregrouped.write_symbol
    rw [← keepBits_toNat hsmall] at hwritten
    exact hwritten
  · rw [Exposing.exposeSymbol, h.symbols, List.length_append, List.length_singleton]
  · rw [Exposing.exposeSymbol, List.map_append, List.map_singleton, hyphenated_snoc,
      List.length_map, String.toList_push, hindex, h.symbols]
    split
    · rw [String.toList_push, h.output, List.append_assoc, List.singleton_append]
    · rw [h.output]

theorem Exposed.loop (h : Exposed bytes values exposing) (hroom : exposing.bits.toNat < 32) :
    ∃ written, Exposed bytes written exposing.exposeSymbols ∧
      exposing.exposeSymbols.bits.toNat < 5 := by
  fun_induction Exposing.exposeSymbols exposing generalizing values with
  | case1 exposing hbits ih =>
    obtain ⟨value, hsymbol⟩ := h.symbol (UInt8.le_iff_toNat_le.mp hbits) hroom
    have hlt := Exposing.exposeSymbol_bits_lt hbits
    exact ih hsymbol (by omega)
  | case2 exposing hbits =>
    refine ⟨values, h, ?_⟩
    have hlt := UInt8.not_le.mp hbits
    exact UInt8.lt_iff_toNat_lt.mp hlt

/-- The values that a byte shifts into the variables of the writer. -/
theorem Exposed.shiftIn (h : Exposed bytes values exposing) (hbits : exposing.bits.toNat < 5)
    (byte : UInt8) :
    (exposing.shiftIn byte).accumulator.toNat = exposing.accumulator.toNat * 2 ^ 8 + byte.toNat ∧
      (exposing.shiftIn byte).bits.toNat = exposing.bits.toNat + 8 := by
  have hbuffered := h.regrouped.buffered
  have hsmall : 2 ^ exposing.bits.toNat ≤ 2 ^ 5 := Nat.pow_le_pow_right (by decide) (by omega)
  constructor
  · exact shiftIn_toNat rfl (by decide) (by omega) byte.toNat_lt
  · rw [Exposing.shiftIn, UInt8.toNat_add]
    have height : (8 : UInt8).toNat = 8 := rfl
    omega

theorem Exposed.byte (h : Exposed bytes values exposing) (hbits : exposing.bits.toNat < 5)
    (byte : UInt8) :
    ∃ written, Exposed (bytes ++ [byte.toNat]) written (exposing.exposeByte byte) ∧
      (exposing.exposeByte byte).bits.toNat < 5 := by
  obtain ⟨haccumulator, hshifted⟩ := h.shiftIn hbits byte
  have hread := h.regrouped.read_symbol byte.toNat_lt
  rw [← haccumulator, ← hshifted] at hread
  have hentered : Exposed (bytes ++ [byte.toNat]) values (exposing.shiftIn byte) :=
    ⟨hread, h.symbols, h.output⟩
  exact hentered.loop (by omega)

theorem exposed_bytes (bytes : Bytes) :
    ∃ written, Exposed (bytes.map UInt8.toNat) written (bytes.foldl Exposing.exposeByte .start) ∧
      (bytes.foldl Exposing.exposeByte .start).bits.toNat < 5 := by
  induction bytes using List.reverseRecOn with
  | nil => exact ⟨[], ⟨regrouped_nil, rfl, rfl⟩, by decide⟩
  | append_singleton bytes byte ih =>
    obtain ⟨written, hwritten, hbits⟩ := ih
    rw [List.map_append, List.foldl_append]
    exact hwritten.byte hbits byte

/-- The text of a token shows the sixteen five-bit digits of its number. -/
theorem exposeGrouped_digits (token : TetherPairingToken) :
    ∃ values, values.length = 16 ∧ (∀ value ∈ values, value < 2 ^ 5) ∧
      spelled (2 ^ 5) values = spelled (2 ^ 8) (token.val.map UInt8.toNat) ∧
      (TetherPairingToken.exposeGrouped token).toList =
        hyphenated (values.map crockfordSymbol) := by
  obtain ⟨written, hwritten, hbits⟩ := exposed_bytes token.val
  have hlength := hwritten.regrouped.length
  rw [List.length_map, token.property] at hlength
  have hregrouped := hwritten.regrouped
  have hnone : (token.val.foldl Exposing.exposeByte .start).bits.toNat = 0 := by omega
  rw [hnone] at hregrouped
  exact ⟨written, by omega, hregrouped.digits, hregrouped.complete, hwritten.output⟩

end Writing

/-! ## Symbols -/

/-- The symbol that a character stands for, without case and aliases. -/
def canonicalSymbol (character : Char) : Char :=
  let normalized := character.toUpper
  if normalized = 'O' then '0' else if normalized = 'I' ∨ normalized = 'L' then '1' else normalized

def symbolValue (symbol : Char) : Option UInt8 :=
  (crockfordAlphabet.findIdx? fun candidate => candidate = symbol).map UInt8.ofNat

theorem decodeCrockford_eq (character : Char) :
    decodeCrockford character = symbolValue (canonicalSymbol character) := by
  simp only [decodeCrockford, canonicalSymbol]
  split
  · decide
  · split
    · decide
    · rfl

theorem symbolValue_crockfordSymbol {index : Nat} (h : index < 2 ^ 5) :
    symbolValue (crockfordSymbol index) = some (UInt8.ofNat index) := by
  have hall : (List.range (2 ^ 5)).all fun index =>
      symbolValue (crockfordSymbol index) = some (UInt8.ofNat index) := by decide
  exact of_decide_eq_true (List.all_eq_true.mp hall index (List.mem_range.mpr h))

theorem canonicalSymbol_crockfordSymbol {index : Nat} (h : index < 2 ^ 5) :
    canonicalSymbol (crockfordSymbol index) = crockfordSymbol index := by
  have hall : (List.range (2 ^ 5)).all fun index =>
      canonicalSymbol (crockfordSymbol index) = crockfordSymbol index := by decide
  exact of_decide_eq_true (List.all_eq_true.mp hall index (List.mem_range.mpr h))

theorem symbolValue_eq_some {symbol : Char} {value : UInt8} (h : symbolValue symbol = some value) :
    value.toNat < 2 ^ 5 ∧ crockfordSymbol value.toNat = symbol := by
  obtain ⟨index, hindex, rfl⟩ := Option.map_eq_some_iff.mp h
  obtain ⟨hlt, hsymbol, -⟩ := List.findIdx?_eq_some_iff_getElem.mp hindex
  have hbound : index < 32 := hlt
  have hvalue : (UInt8.ofNat index).toNat = index := UInt8.toNat_ofNat_of_lt' (by
    show index < 256
    omega)
  rw [hvalue]
  refine ⟨hbound, ?_⟩
  rw [crockfordSymbol, List.getD_eq_getElem?_getD, List.getElem?_eq_getElem hlt, Option.getD_some]
  exact of_decide_eq_true hsymbol

/-! ## Reading -/

theorem set_next {front : Bytes} {n : Nat} (byte : UInt8) (h : front.length < n) :
    (front ++ List.replicate (n - front.length) 0).set front.length byte =
      front ++ [byte] ++ List.replicate (n - (front.length + 1)) 0 := by
  have hroom : n - front.length = (n - (front.length + 1)) + 1 := by omega
  rw [List.set_append_right _ _ le_rfl, Nat.sub_self, hroom, List.replicate_succ, List.set_cons_zero,
    List.append_assoc, List.singleton_append]

/-- The bytes `written` were cut from the symbols read so far; the rest of the output is zero. -/
structure Entered (values : List UInt8) (written : List Nat) (entering : Entering) : Prop where
  regrouped : Regrouped 5 8 (values.map UInt8.toNat) written entering.accumulator.toNat
    entering.bits.toNat
  index : entering.outputIndex = written.length
  output : entering.output.val =
    written.map UInt8.ofNat ++ List.replicate (10 - written.length) 0

section Reading

variable {values : List UInt8} {written : List Nat} {entering : Entering}

theorem Entered.shiftIn (h : Entered values written entering) (hbits : entering.bits.toNat < 8)
    {value : UInt8} (hvalue : value.toNat < 2 ^ 5) :
    (entering.shiftIn value).accumulator.toNat =
        entering.accumulator.toNat * 2 ^ 5 + value.toNat ∧
      (entering.shiftIn value).bits.toNat = entering.bits.toNat + 5 := by
  have hbuffered := h.regrouped.buffered
  have hsmall : 2 ^ entering.bits.toNat ≤ 2 ^ 8 := Nat.pow_le_pow_right (by decide) (by omega)
  constructor
  · exact shiftIn_toNat rfl (by decide) (by omega) hvalue
  · rw [Entering.shiftIn, UInt8.toNat_add]
    have hfive : (5 : UInt8).toNat = 5 := rfl
    omega

/-- A byte is written inside the output while symbols remain. -/
theorem Entered.inside (h : Entered values written entering) (hvalues : values.length ≤ 16)
    (hbits : 8 ≤ entering.bits.toNat) : entering.outputIndex < 10 := by
  have hlength := h.regrouped.length
  rw [List.length_map] at hlength
  rw [h.index]
  omega

theorem Entered.byte (h : Entered values written entering) (hvalues : values.length ≤ 16)
    (hfull : 8 ≤ entering.bits.toNat) (hroom : entering.bits.toNat < 32) :
    ∃ byte, Entered values (written ++ [byte]) entering.enterByte := by
  have hrest : (entering.bits - 8).toNat = entering.bits.toNat - 8 :=
    UInt8.toNat_sub_of_le _ _ (UInt8.le_iff_toNat_le.mpr hfull)
  have hsplit : entering.bits.toNat = (entering.bits - 8).toNat + 8 := by omega
  have hsmall : (entering.bits - 8).toNat < 32 := by omega
  have hinside := h.inside hvalues hfull
  have hregrouped := h.regrouped
  rw [hsplit] at hregrouped
  have hbyte := @topBits_toNat entering.accumulator (entering.bits - 8) 8 0xff rfl hsmall
    hregrouped.buffered
  have hstored : ((entering.accumulator >>> (entering.bits - 8).toUInt32) &&& 0xff).toUInt8 =
      UInt8.ofNat (entering.accumulator.toNat / 2 ^ (entering.bits - 8).toNat) := by
    apply UInt8.toNat_inj.mp
    rw [UInt32.toNat_toUInt8, hbyte, UInt8.toNat_ofNat']
  refine ⟨entering.accumulator.toNat / 2 ^ (entering.bits - 8).toNat, ?_, ?_, ?_⟩
  · have hwritten := hregrouped.write_symbol
    rw [← keepBits_toNat hsmall] at hwritten
    exact hwritten
  · rw [Entering.enterByte, h.index, List.length_append, List.length_singleton]
  · have hfront : (written.map UInt8.ofNat).length < 10 := by
      rw [List.length_map, ← h.index]
      exact hinside
    have hnext := set_next (UInt8.ofNat
      (entering.accumulator.toNat / 2 ^ (entering.bits - 8).toNat)) hfront
    rw [List.length_map] at hnext
    rw [Entering.enterByte, hstored]
    simp only [FixedBytes.set, h.output, h.index]
    rw [hnext, List.map_append, List.map_singleton, List.length_append, List.length_singleton]

theorem Entered.symbol (h : Entered values written entering) (hbits : entering.bits.toNat < 8)
    (hvalues : values.length < 16) {value : UInt8} (hvalue : value.toNat < 2 ^ 5) :
    let next := if 8 ≤ (entering.shiftIn value).bits then (entering.shiftIn value).enterByte
      else entering.shiftIn value
    (∃ bytes, Entered (values ++ [value]) bytes next) ∧ next.bits.toNat < 8 := by
  intro next
  obtain ⟨haccumulator, hshifted⟩ := h.shiftIn hbits hvalue
  have hread := h.regrouped.read_symbol hvalue
  rw [← haccumulator, ← hshifted] at hread
  have hentered : Entered (values ++ [value]) written (entering.shiftIn value) := by
    refine ⟨?_, h.index, h.output⟩
    rw [List.map_append, List.map_singleton]
    exact hread
  by_cases hfull : 8 ≤ (entering.shiftIn value).bits
  · have hfullNat : 8 ≤ (entering.shiftIn value).bits.toNat := UInt8.le_iff_toNat_le.mp hfull
    have hlength : (values ++ [value]).length ≤ 16 := by
      rw [List.length_append, List.length_singleton]
      omega
    obtain ⟨byte, hbyte⟩ := hentered.byte hlength hfullNat (by omega)
    have hrest : ((entering.shiftIn value).bits - 8).toNat =
        (entering.shiftIn value).bits.toNat - 8 :=
      UInt8.toNat_sub_of_le _ _ hfull
    simp only [next, if_pos hfull]
    refine ⟨⟨_, hbyte⟩, ?_⟩
    show ((entering.shiftIn value).bits - 8).toNat < 8
    omega
  · simp only [next, if_neg hfull]
    exact ⟨⟨_, hentered⟩, UInt8.lt_iff_toNat_lt.mp (UInt8.not_le.mp hfull)⟩

/-- Symbols that all have a value are read to the end. -/
theorem entered_symbols {symbols : List Char} (hlength : symbols.length ≤ 16)
    (hvalues : symbols.map decodeCrockford = values.map some) :
    ∃ entering bytes, symbols.foldlM Entering.enterSymbol .start = .ok entering ∧
      Entered values bytes entering ∧ entering.bits.toNat < 8 := by
  induction symbols using List.reverseRecOn generalizing values with
  | nil =>
    have hnil : values = [] := by simpa using hvalues
    rw [hnil]
    exact ⟨.start, [], rfl, ⟨regrouped_nil, rfl, rfl⟩, by decide⟩
  | append_singleton symbols symbol ih =>
    rw [List.length_append, List.length_singleton] at hlength
    rcases List.eq_nil_or_concat values with hnil | ⟨front, value, hconcat⟩
    · simp [hnil] at hvalues
    · rw [hconcat, List.concat_eq_append, List.map_append, List.map_append] at hvalues
      obtain ⟨hfront, hlast⟩ := List.append_inj' hvalues rfl
      have hdecode : decodeCrockford symbol = some value := by simpa using hlast
      obtain ⟨entering, bytes, hrun, hentered, hbits⟩ := ih (by omega) hfront
      have hsame : symbols.length = front.length := by
        have hcount := congrArg List.length hfront
        rwa [List.length_map, List.length_map] at hcount
      have hvalue := (symbolValue_eq_some (decodeCrockford_eq symbol ▸ hdecode)).1
      obtain ⟨⟨next, hnext⟩, hnextBits⟩ := hentered.symbol hbits (by omega) hvalue
      refine ⟨_, next, ?_, ?_, hnextBits⟩
      · rw [List.foldlM_append, hrun, bind_ok, List.foldlM_cons, Entering.enterSymbol, hdecode]
        rfl
      · rw [hconcat, List.concat_eq_append]
        exact hnext

theorem map_decode_of_run {symbols : List Char} {before after : Entering}
    (h : symbols.foldlM Entering.enterSymbol before = .ok after) :
    ∃ values : List UInt8, symbols.map decodeCrockford = values.map some := by
  induction symbols generalizing before with
  | nil => exact ⟨[], rfl⟩
  | cons symbol symbols ih =>
    rw [List.foldlM_cons, bind_eq_ok] at h
    obtain ⟨next, hnext, hrest⟩ := h
    obtain ⟨values, hvalues⟩ := ih hrest
    rw [Entering.enterSymbol] at hnext
    cases hdecode : decodeCrockford symbol with
    | none =>
      rw [hdecode] at hnext
      cases hnext
    | some value => exact ⟨value :: values, by rw [List.map_cons, List.map_cons, hdecode, hvalues]⟩

theorem map_toNat_ofNat {digits : List Nat} (h : ∀ digit ∈ digits, digit < 2 ^ 8) :
    (digits.map UInt8.ofNat).map UInt8.toNat = digits := by
  rw [List.map_map]
  conv_rhs => rw [← List.map_id digits]
  apply List.map_congr_left
  intro digit hdigit
  exact UInt8.toNat_ofNat_of_lt' (h digit hdigit)

/-- Sixteen symbols fill the output. -/
theorem Entered.complete (h : Entered values written entering) (hbits : entering.bits.toNat < 8)
    (hvalues : values.length = 16) :
    spelled (2 ^ 8) (entering.output.val.map UInt8.toNat) =
      spelled (2 ^ 5) (values.map UInt8.toNat) := by
  have hlength := h.regrouped.length
  rw [List.length_map, hvalues] at hlength
  have hten : written.length = 10 := by omega
  have hnone : entering.bits.toNat = 0 := by omega
  have hregrouped := h.regrouped
  rw [hnone] at hregrouped
  rw [h.output, hten, Nat.sub_self, List.replicate_zero, List.append_nil,
    map_toNat_ofNat hregrouped.digits]
  exact hregrouped.complete

theorem bytes_lt (bytes : Bytes) : ∀ digit ∈ bytes.map UInt8.toNat, digit < 2 ^ 8 := by
  intro digit hdigit
  obtain ⟨byte, -, rfl⟩ := List.mem_map.mp hdigit
  exact byte.toNat_lt

/-- A token is the number that its bytes spell. -/
theorem token_eq_of_spelled {token other : TetherPairingToken}
    (h : spelled (2 ^ 8) (token.val.map UInt8.toNat) =
      spelled (2 ^ 8) (other.val.map UInt8.toNat)) : token = other := by
  have hbytes := spelled_inj (by decide) (by simp [token.property, other.property])
    (bytes_lt token.val) (bytes_lt other.val) h
  apply Subtype.ext
  exact (List.map_injective_iff.mpr fun a b => UInt8.toNat_inj.mp) hbytes

/-- A text is accepted as the token whose number its symbols spell. -/
theorem fromStr_eq_ok {text : String} {token : TetherPairingToken} :
    TetherPairingToken.fromStr text = .ok token ↔
      ∃ values : List UInt8, values.length = 16 ∧
        (compact text.toList).map decodeCrockford = values.map some ∧
        spelled (2 ^ 8) (token.val.map UInt8.toNat) = spelled (2 ^ 5) (values.map UInt8.toNat) := by
  simp only [TetherPairingToken.fromStr, ite_error_eq_ok, not_not, bind_eq_ok, Except.ok.injEq]
  constructor
  · rintro ⟨hlength, entering, hrun, rfl⟩
    obtain ⟨values, hvalues⟩ := map_decode_of_run hrun
    obtain ⟨same, bytes, hsame, hentered, hbits⟩ := entered_symbols (by omega) hvalues
    rw [hrun, Except.ok.injEq] at hsame
    rw [← hsame] at hentered hbits
    have hcount := congrArg List.length hvalues
    rw [List.length_map, List.length_map, hlength] at hcount
    exact ⟨values, hcount.symm, hvalues, hentered.complete hbits hcount.symm⟩
  · rintro ⟨values, hcount, hvalues, hspelled⟩
    have hlength := congrArg List.length hvalues
    rw [List.length_map, List.length_map, hcount] at hlength
    obtain ⟨entering, bytes, hrun, hentered, hbits⟩ := entered_symbols (by omega) hvalues
    refine ⟨hlength, entering, hrun, ?_⟩
    apply token_eq_of_spelled
    rw [hentered.complete hbits hcount, hspelled]

theorem fromStr_accepts {text : String} (hlength : (compact text.toList).length = 16)
    (hvalues : (compact text.toList).map decodeCrockford = values.map some) :
    ∃ token, TetherPairingToken.fromStr text = .ok token := by
  obtain ⟨entering, bytes, hrun, -, -⟩ := entered_symbols (by omega) hvalues
  refine ⟨entering.output, ?_⟩
  simp only [TetherPairingToken.fromStr, ite_error_eq_ok, not_not, bind_eq_ok, Except.ok.injEq]
  exact ⟨hlength, entering, hrun, rfl⟩

end Reading

/-! ## Exact arithmetic -/

/-- The machine words hold the exact values, and the shifts of the loop stay below the width. -/
structure Exposing.Exact (exposing : Exposing) (byte : UInt8) : Prop where
  accumulator : (exposing.shiftIn byte).accumulator.toNat =
    exposing.accumulator.toNat * 2 ^ 8 + byte.toNat
  bits : (exposing.shiftIn byte).bits.toNat = exposing.bits.toNat + 8
  shift : (exposing.shiftIn byte).bits.toNat < 32

/-- The machine words hold the exact values, and a byte is stored inside the output. -/
structure Entering.Exact (entering : Entering) (value : UInt8) : Prop where
  accumulator : (entering.shiftIn value).accumulator.toNat =
    entering.accumulator.toNat * 2 ^ 5 + value.toNat
  bits : (entering.shiftIn value).bits.toNat = entering.bits.toNat + 5
  shift : (entering.shiftIn value).bits.toNat < 32
  inside : 8 ≤ (entering.shiftIn value).bits → entering.outputIndex < 10

theorem exposing_exact (bytes : Bytes) (byte : UInt8) :
    (bytes.foldl Exposing.exposeByte .start).Exact byte := by
  obtain ⟨written, hwritten, hbits⟩ := exposed_bytes bytes
  obtain ⟨haccumulator, hshifted⟩ := hwritten.shiftIn hbits byte
  exact ⟨haccumulator, hshifted, by omega⟩

theorem entering_exact {symbols : List Char} {symbol : Char} {entering : Entering} {value : UInt8}
    (hlength : symbols.length < 16)
    (hrun : symbols.foldlM Entering.enterSymbol .start = .ok entering)
    (hdecode : decodeCrockford symbol = some value) : entering.Exact value := by
  obtain ⟨values, hvalues⟩ := map_decode_of_run hrun
  obtain ⟨same, bytes, hsame, hentered, hbits⟩ := entered_symbols (by omega) hvalues
  rw [hrun, Except.ok.injEq] at hsame
  rw [← hsame] at hentered hbits
  have hcount := congrArg List.length hvalues
  rw [List.length_map, List.length_map] at hcount
  have hvalue := (symbolValue_eq_some (decodeCrockford_eq symbol ▸ hdecode)).1
  obtain ⟨haccumulator, hshifted⟩ := hentered.shiftIn hbits hvalue
  refine ⟨haccumulator, hshifted, by omega, ?_⟩
  intro hfull
  have hfullNat : 8 ≤ (entering.shiftIn value).bits.toNat := UInt8.le_iff_toNat_le.mp hfull
  have hregrouped := hentered.regrouped.length
  rw [List.length_map] at hregrouped
  rw [hentered.index]
  omega

end LadoFlow.Transport
