import LadoFlow.Android.Binary
import LadoFlow.Transport.PairingToken

/-!
# The pairing code on the display

The display reads each symbol of the code bit by bit from the bytes of its token. What it shows is
the text that the transport crate writes.
-/

namespace LadoFlow.Android

open Framework
open LadoFlow.Transport

namespace TetherPairingCode

def crockfordAlphabet : List Char :=
  ['0', '1', '2', '3', '4', '5', '6', '7', '8', '9', 'A', 'B', 'C', 'D', 'E', 'F', 'G', 'H', 'J',
    'K', 'M', 'N', 'P', 'Q', 'R', 'S', 'T', 'V', 'W', 'X', 'Y', 'Z']

/-- One step of the loop over the bits of a group. -/
def appendBit (bytes : SignedBytes) (group : Nat) (value : Int32) (bitInGroup : Nat) : Int32 :=
  let bitIndex := group * 5 + bitInGroup
  let byte := (bytes.getD (bitIndex / 8) 0).toInt32 &&& 0xff
  (value <<< 1) ||| ((byte >>> Int32.ofNat (7 - bitIndex % 8)) &&& 1)

def groupValue (bytes : SignedBytes) (group : Nat) : Int32 :=
  (List.range 5).foldl (appendBit bytes group) 0

/-- `String.chunked` -/
def chunked (size : Nat) : List Char → List (List Char)
  | [] => []
  | symbol :: symbols =>
    (symbol :: symbols.take (size - 1)) :: chunked size (symbols.drop (size - 1))
termination_by symbols => symbols.length
decreasing_by simp only [List.length_drop, List.length_cons]; omega

def formatCrockfordBase32 (bytes : SignedBytes) : Except String String :=
  if bytes.length ≠ 10 then .error "Failed requirement."
  else
  let compact := (List.range 16).map fun group =>
    crockfordAlphabet.getD (groupValue bytes group).toNatClampNeg '0'
  .ok (String.ofList (List.intercalate ['-'] (chunked 4 compact)))

/-- A bit of a byte string, counted from the most significant bit of the first byte. -/
def bitAt (bytes : Bytes) (bitIndex : Nat) : Nat :=
  (bytes.getD (bitIndex / 8) 0).toNat / 2 ^ (7 - bitIndex % 8) % 2

def groupBits (bytes : Bytes) (group : Nat) : List Nat :=
  (List.range 5).map fun bitInGroup => bitAt bytes (group * 5 + bitInGroup)

section Bits

variable (bytes : Bytes)

theorem bitAt_lt (bitIndex : Nat) : bitAt bytes bitIndex < 2 := Nat.mod_lt _ (by decide)

theorem groupBits_lt (group : Nat) : ∀ bit ∈ groupBits bytes group, bit < 2 := by
  intro bit hbit
  obtain ⟨bitInGroup, -, rfl⟩ := List.mem_map.mp hbit
  exact bitAt_lt bytes _

theorem signedBit (byte : UInt8) {place : Nat} (h : place < 8) :
    ((byte.toInt8.toInt32 &&& 0xff) >>> Int32.ofNat (7 - place)) &&& 1 =
      Int32.ofNat (byte.toNat / 2 ^ (7 - place) % 2) := by
  have hall : (List.range 256).all fun value => (List.range 8).all fun place =>
      (((UInt8.ofNat value).toInt8.toInt32 &&& 0xff) >>> Int32.ofNat (7 - place)) &&& 1 =
        Int32.ofNat (value / 2 ^ (7 - place) % 2) := by decide +kernel
  have hbyte := List.all_eq_true.mp hall byte.toNat (List.mem_range.mpr byte.toNat_lt)
  have hplace := of_decide_eq_true (List.all_eq_true.mp hbyte place (List.mem_range.mpr h))
  rw [UInt8.ofNat_toNat] at hplace
  exact hplace

theorem appendBit_signed (group : Nat) (value : Int32) (bitInGroup : Nat) :
    appendBit (signed bytes) group value bitInGroup =
      (value <<< 1) ||| Int32.ofNat (bitAt bytes (group * 5 + bitInGroup)) := by
  have hbyte : ∀ index, (signed bytes).getD index 0 = (bytes.getD index 0).toInt8 := by
    intro index
    rw [signed, List.getD_eq_getElem?_getD, List.getElem?_map, List.getD_eq_getElem?_getD]
    cases bytes[index]? with
    | none => rfl
    | some byte => rfl
  rw [appendBit, hbyte, signedBit _ (Nat.mod_lt _ (by decide)), bitAt]

theorem shiftIn_bit {value bit : Nat} (hvalue : value < 2 ^ 4) (hbit : bit < 2) :
    (Int32.ofNat value <<< 1) ||| Int32.ofNat bit = Int32.ofNat (value * 2 + bit) := by
  have hall : (List.range (2 ^ 4)).all fun value => (List.range 2).all fun bit =>
      (Int32.ofNat value <<< 1) ||| Int32.ofNat bit = Int32.ofNat (value * 2 + bit) := by decide
  have hrow := List.all_eq_true.mp hall value (List.mem_range.mpr hvalue)
  exact of_decide_eq_true (List.all_eq_true.mp hrow bit (List.mem_range.mpr hbit))

theorem foldl_bits {bits : List Nat} (hlength : bits.length ≤ 5) (hbits : ∀ bit ∈ bits, bit < 2) :
    bits.foldl (fun (value : Int32) bit => (value <<< 1) ||| Int32.ofNat bit) 0 =
      Int32.ofNat (spelled 2 bits) := by
  induction bits using List.reverseRecOn with
  | nil => rfl
  | append_singleton bits bit ih =>
    rw [List.length_append, List.length_singleton] at hlength
    have hfront : ∀ other ∈ bits, other < 2 :=
      fun other hother => hbits other (List.mem_append_left _ hother)
    have hvalue := spelled_lt (by decide) hfront
    have hsmall : 2 ^ bits.length ≤ 2 ^ 4 := Nat.pow_le_pow_right (by decide) (by omega)
    rw [List.foldl_append, ih (by omega) hfront, List.foldl_cons, List.foldl_nil, spelled_snoc]
    exact shiftIn_bit (by omega) (hbits bit (by simp))

theorem groupValue_signed (group : Nat) :
    groupValue (signed bytes) group = Int32.ofNat (spelled 2 (groupBits bytes group)) := by
  have hstep : appendBit (signed bytes) group = fun (value : Int32) bitInGroup =>
      (value <<< 1) ||| Int32.ofNat (bitAt bytes (group * 5 + bitInGroup)) := by
    funext value bitInGroup
    exact appendBit_signed bytes group value bitInGroup
  rw [← foldl_bits (by simp [groupBits]) (groupBits_lt bytes group), groupBits, List.foldl_map,
    groupValue, hstep]

/-- Eight bits spell their byte. -/
theorem spelled_byte (byte : UInt8) :
    spelled 2 ((List.range 8).map fun place => byte.toNat / 2 ^ (7 - place) % 2) = byte.toNat := by
  have hall : (List.range 256).all fun value =>
      spelled 2 ((List.range 8).map fun place => value / 2 ^ (7 - place) % 2) = value := by
    decide +kernel
  exact of_decide_eq_true (List.all_eq_true.mp hall byte.toNat (List.mem_range.mpr byte.toNat_lt))

end Bits

/-- The sixteen groups spell the number of the bytes. -/
theorem spelled_groups (token : TetherPairingToken) :
    spelled (2 ^ 5) ((List.range 16).map fun group => spelled 2 (groupBits token.val group)) =
      spelled (2 ^ 8) (token.val.map UInt8.toNat) := by
  have hbytes : token.val.map UInt8.toNat = (List.range 10).map fun index => spelled 2
      ((List.range 8).map fun place => bitAt token.val (index * 8 + place)) := by
    apply List.ext_getElem
    · simp [token.property]
    · intro index hindex hrange
      rw [List.length_map] at hindex
      rw [List.getElem_map, List.getElem_map, List.getElem_range]
      rw [← spelled_byte]
      congr 1
      apply List.map_congr_left
      intro place hplace
      have hplace := List.mem_range.mp hplace
      have hquotient : (index * 8 + place) / 8 = index := by omega
      have hplaced : (index * 8 + place) % 8 = place := by omega
      rw [bitAt, hquotient, hplaced, List.getD_eq_getElem?_getD, List.getElem?_eq_getElem hindex,
        Option.getD_some]
  have hsame : ((List.range 16).map (groupBits token.val)).flatten =
      ((List.range 10).map fun index =>
        (List.range 8).map fun place => bitAt token.val (index * 8 + place)).flatten := rfl
  have hgroups := @spelled_flatten 2 5 ((List.range 16).map (groupBits token.val)) (by
    intro group hgroup
    obtain ⟨index, -, rfl⟩ := List.mem_map.mp hgroup
    simp [groupBits])
  have height := @spelled_flatten 2 8 ((List.range 10).map fun index =>
      (List.range 8).map fun place => bitAt token.val (index * 8 + place)) (by
    intro group hgroup
    obtain ⟨index, -, rfl⟩ := List.mem_map.mp hgroup
    simp)
  rw [List.map_map] at hgroups height
  rw [hbytes]
  exact hgroups.symm.trans ((congrArg (spelled 2) hsame).trans height)

/-- Chunks of four joined by hyphens. -/
theorem joined_chunks (f : Nat → Char) :
    List.intercalate ['-'] (chunked 4 ((List.range 16).map f)) =
      hyphenated ((List.range 16).map f) := by
  have hsymbols : (List.range 16).map f = [f 0, f 1, f 2, f 3, f 4, f 5, f 6, f 7, f 8, f 9, f 10,
      f 11, f 12, f 13, f 14, f 15] := rfl
  rw [hsymbols]
  simp [chunked, List.intercalate, hyphenated]

theorem symbol_groupValue (bytes : Bytes) (group : Nat) :
    crockfordAlphabet.getD (groupValue (signed bytes) group).toNatClampNeg '0' =
      crockfordSymbol (spelled 2 (groupBits bytes group)) := by
  have hlt := spelled_lt (by decide) (groupBits_lt bytes group)
  have hlength : (groupBits bytes group).length = 5 := by simp [groupBits]
  rw [hlength] at hlt
  rw [groupValue_signed, Int32.toNatClampNeg_ofNat_of_lt (by omega)]
  rfl

/-- The display shows the text that the host crate would write. -/
theorem formatCrockfordBase32_eq (token : TetherPairingToken) :
    formatCrockfordBase32 (signed token.val) =
      .ok (LadoFlow.Transport.TetherPairingToken.exposeGrouped token) := by
  obtain ⟨values, hlength, hvalues, hspelled, htext⟩ := exposeGrouped_digits token
  have hgroups : (List.range 16).map (fun group => spelled 2 (groupBits token.val group)) =
      values := by
    apply spelled_inj (by decide) (by simp [hlength]) ?_ hvalues
    · rw [spelled_groups, hspelled]
    · intro digit hdigit
      obtain ⟨group, -, rfl⟩ := List.mem_map.mp hdigit
      have hlt := spelled_lt (by decide) (groupBits_lt token.val group)
      rw [show (groupBits token.val group).length = 5 by simp [groupBits]] at hlt
      exact hlt
  have hsigned : (signed token.val).length = 10 := by rw [signed_length, token.property]
  simp only [formatCrockfordBase32, hsigned, ne_eq, not_true_eq_false, if_false, symbol_groupValue]
  rw [joined_chunks, Except.ok.injEq, ← String.toList_inj, String.toList_ofList, htext, ← hgroups,
    List.map_map]
  rfl

end TetherPairingCode

end LadoFlow.Android
