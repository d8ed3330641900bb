import LadoFlow.Android.TetherPairingServer
import Mathlib.Data.Prod.Lex
import Mathlib.Data.String.Basic

/-!
# The address of the USB-tether interface

The pairing listener is bound to an IPv4 address of an interface whose name says that it is a USB one.
-/

namespace LadoFlow.Android

structure Inet4Address where
  first : UInt8
  second : UInt8
  third : UInt8
  fourth : UInt8
  deriving DecidableEq, Repr

inductive InetAddress where
  | v4 (address : Inet4Address)
  | v6 (hostAddress : String)
  deriving DecidableEq, Repr

structure UsbTetherInterfaceCandidate where
  name : String
  isUp : Bool
  isLoopback : Bool
  addresses : List InetAddress
  deriving DecidableEq, Repr

namespace Inet4Address

variable (address : Inet4Address)

def isAnyLocalAddress : Bool := address = ⟨0, 0, 0, 0⟩

def isLoopbackAddress : Bool := address.first == 127

def isSiteLocalAddress : Bool :=
  address.first == 10 || (address.first == 172 && address.second &&& 0xF0 == 16) ||
    (address.first == 192 && address.second == 168)

def isLinkLocalAddress : Bool := address.first == 169 && address.second == 254

def hostAddress : String :=
  toString address.first.toNat ++ "." ++ toString address.second.toNat ++ "." ++
    toString address.third.toNat ++ "." ++ toString address.fourth.toNat

end Inet4Address

def usbTetherInterfacePrefixes : List (List Char) :=
  ["rndis".toList, "ncm".toList, "ecm".toList, "usb".toList]

/-- The place of the first prefix of the name. -/
def prefixIndex (name : String) : Nat :=
  let normalized := name.toList.map Char.toLower
  usbTetherInterfacePrefixes.findIdx fun start => start.isPrefixOf normalized

def hasUsbTetherPrefix (name : String) : Bool :=
  let normalized := name.toList.map Char.toLower
  usbTetherInterfacePrefixes.any fun start => start.isPrefixOf normalized

def eligibleAddress (address : Inet4Address) : Bool :=
  !address.isAnyLocalAddress && !address.isLoopbackAddress &&
    (address.isSiteLocalAddress || address.isLinkLocalAddress)

/-- The eligible addresses with the names of their interfaces. -/
def usbTetherAddresses (candidates : List UsbTetherInterfaceCandidate) :
    List (String × Inet4Address) :=
  (candidates.filter fun candidate =>
      candidate.isUp && !candidate.isLoopback && hasUsbTetherPrefix candidate.name).flatMap
    fun candidate => candidate.addresses.filterMap fun address =>
      match address with
      | .v4 address => if eligibleAddress address then some (candidate.name, address) else none
      | .v6 _ => none

/-- The order by prefix, then kind of address, then name and text. -/
def addressNotAfter (left right : String × Inet4Address) : Bool :=
  let kind : String × Inet4Address → Nat := fun choice => if choice.2.isSiteLocalAddress then 0 else 1
  ((compare (prefixIndex left.1) (prefixIndex right.1)).then
    ((compare (kind left) (kind right)).then
      ((compare left.1 right.1).then (compare left.2.hostAddress right.2.hostAddress)))).isLE

def selectUsbTetherAddress (candidates : List UsbTetherInterfaceCandidate) : Option Inet4Address :=
  ((usbTetherAddresses candidates).mergeSort addressNotAfter).head?.map (·.2)

/-- The text that the user reads. -/
def TetherListenerEndpoint.displayValue (endpoint : TetherListenerEndpoint) : String :=
  endpoint.address ++ ":" ++ toString endpoint.port.toInt

section Selection

/-- What the order looks at. -/
def addressKey (choice : String × Inet4Address) : Nat ×ₗ Nat ×ₗ String ×ₗ String :=
  toLex (prefixIndex choice.1, toLex (if choice.2.isSiteLocalAddress then 0 else 1,
    toLex (choice.1, choice.2.hostAddress)))

theorem isLE_compare_then {α : Type} [LinearOrder α] {left right : α} {later : Ordering} :
    ((compare left right).then later).isLE = true ↔ left < right ∨ left = right ∧ later.isLE = true := by
  cases hcompare : compare left right with
  | lt =>
    have hlt := compare_lt_iff_lt.mp hcompare
    simp [hlt]
  | eq =>
    have heq := compare_eq_iff_eq.mp hcompare
    simp [heq]
  | gt =>
    have hgt := compare_gt_iff_gt.mp hcompare
    simp [not_lt.mpr hgt.le, hgt.ne']

theorem addressNotAfter_iff (left right : String × Inet4Address) :
    addressNotAfter left right = true ↔ addressKey left ≤ addressKey right := by
  have hlast : (compare left.2.hostAddress right.2.hostAddress).isLE = true ↔
      left.2.hostAddress ≤ right.2.hostAddress := Ordering.isLE_iff_ne_gt.trans compare_le_iff_le
  simp only [addressNotAfter, addressKey, isLE_compare_then, Prod.Lex.toLex_le_toLex, hlast]

theorem pairwise_addresses (choices : List (String × Inet4Address)) :
    (choices.mergeSort addressNotAfter).Pairwise fun x y => addressKey x ≤ addressKey y := by
  have htrans : ∀ a b c, addressNotAfter a b → addressNotAfter b c → addressNotAfter a c := by
    intro a b c hab hbc
    rw [addressNotAfter_iff] at hab hbc ⊢
    exact hab.trans hbc
  have htotal : ∀ a b, addressNotAfter a b || addressNotAfter b a := by
    intro a b
    rw [Bool.or_eq_true, addressNotAfter_iff, addressNotAfter_iff]
    exact le_total _ _
  refine (List.pairwise_mergeSort htrans htotal choices).imp ?_
  intro a b hab
  exact (addressNotAfter_iff a b).mp hab

/-- The selected address is the first one of the order. -/
theorem selectUsbTetherAddress_eq_some {candidates : List UsbTetherInterfaceCandidate}
    {address : Inet4Address} (h : selectUsbTetherAddress candidates = some address) :
    ∃ name, (name, address) ∈ usbTetherAddresses candidates ∧
      ∀ choice ∈ usbTetherAddresses candidates, addressKey (name, address) ≤ addressKey choice := by
  obtain ⟨⟨name, selected⟩, hhead, rfl⟩ := Option.map_eq_some_iff.mp h
  have hsorted := pairwise_addresses (usbTetherAddresses candidates)
  obtain ⟨rest, hrest⟩ := List.head?_eq_some_iff.mp hhead
  have hmem : ∀ choice, choice ∈ usbTetherAddresses candidates ↔ choice ∈ (name, selected) :: rest := by
    intro choice
    rw [← hrest, List.mem_mergeSort]
  refine ⟨name, (hmem _).mpr List.mem_cons_self, ?_⟩
  intro choice hchoice
  rw [hrest] at hsorted
  rcases List.mem_cons.mp ((hmem choice).mp hchoice) with rfl | hlater
  · exact le_refl _
  · exact (List.pairwise_cons.mp hsorted).1 choice hlater

theorem mem_usbTetherAddresses {candidates : List UsbTetherInterfaceCandidate} {name : String}
    {address : Inet4Address} :
    (name, address) ∈ usbTetherAddresses candidates ↔ eligibleAddress address = true ∧
      ∃ candidate ∈ candidates, candidate.name = name ∧ candidate.isUp = true ∧
        candidate.isLoopback = false ∧ hasUsbTetherPrefix name = true ∧ .v4 address ∈ candidate.addresses := by
  simp only [usbTetherAddresses, List.mem_flatMap, List.mem_filter, List.mem_filterMap, Bool.and_eq_true,
    Bool.not_eq_true']
  constructor
  · rintro ⟨candidate, ⟨hmem, ⟨hup, hloopback⟩, hprefix⟩, listed, hlisted, hchoice⟩
    cases listed with
    | v6 => cases hchoice
    | v4 listed =>
      simp only at hchoice
      split at hchoice
      · rename_i heligible
        cases hchoice
        exact ⟨heligible, candidate, hmem, rfl, hup, hloopback, hprefix, hlisted⟩
      · cases hchoice
  · rintro ⟨heligible, candidate, hmem, rfl, hup, hloopback, hprefix, hlisted⟩
    refine ⟨candidate, ⟨hmem, ⟨hup, hloopback⟩, hprefix⟩, _, hlisted, ?_⟩
    simp [heligible]

end Selection

end LadoFlow.Android
