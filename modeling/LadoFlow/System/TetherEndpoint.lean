import LadoFlow.Android.UsbTetherNetwork
import LadoFlow.Host.DiscoveryLaw
import LadoFlow.Host.TetherEndpointLaw

/-!
# The endpoint from the display to the host

The user reads the endpoint on the display and enters it on the host, or takes one that the host has found.
-/

namespace LadoFlow.System

open LadoFlow.Android (Inet4Address UsbTetherInterfaceCandidate TetherListenerEndpoint addressKey
  eligibleAddress hasUsbTetherPrefix usbTetherAddresses selectUsbTetherAddress
  selectUsbTetherAddress_eq_some mem_usbTetherAddresses)
open LadoFlow.Host (DiscoveryAnswers EndpointText Ipv4Addr TetherDiscoveryReport TetherEndpointCandidate
  candidate defaultTetherPort discoverTetherEndpoints eligible_private endpointText isLocalTetherAddress
  isWhiteSpace mem_collect mem_listed parseTetherEndpoint tether_endpoint_iff trim trimEndMatches)
open Framework

/-- The address as the host reads it. -/
def hostView (address : Inet4Address) : Ipv4Addr :=
  ⟨address.first, address.second, address.third, address.fourth⟩

section Texts

theorem trim_padded {before text after : List Char} (hbefore : ∀ c ∈ before, isWhiteSpace c = true)
    (hafter : ∀ c ∈ after, isWhiteSpace c = true) (hne : text ≠ [])
    (hinner : ∀ c ∈ text, isWhiteSpace c = false) : trim (before ++ text ++ after) = text := by
  have hfront : (before ++ text ++ after).dropWhile isWhiteSpace = text ++ after := by
    rw [List.append_assoc, List.dropWhile_append_of_pos hbefore]
    cases text with
    | nil => exact absurd rfl hne
    | cons first rest => simp [hinner first List.mem_cons_self]
  have hback : (text ++ after).reverse.dropWhile isWhiteSpace = text.reverse := by
    rw [List.reverse_append, List.dropWhile_append_of_pos (fun c hc => hafter c (List.mem_reverse.mp hc))]
    cases hreverse : text.reverse with
    | nil => exact absurd (List.reverse_eq_nil_iff.mp hreverse) hne
    | cons last rest =>
      have hlast := hinner last (List.mem_reverse.mp (hreverse ▸ List.mem_cons_self))
      simp [hlast]
  rw [trim, hfront, trimEndMatches, hback, List.reverse_reverse]

theorem isWhiteSpace_digit {character : Char} (h : character.isDigit = true) :
    isWhiteSpace character = false := by
  simp only [Char.isDigit, Bool.and_eq_true, decide_eq_true_eq, UInt32.le_iff_toNat_le] at h
  have hlow : 48 ≤ character.toNat := h.1
  have hhigh : character.toNat ≤ 57 := h.2
  simp only [isWhiteSpace, Bool.or_eq_false_iff, Bool.and_eq_false_iff, decide_eq_false_iff_not,
    beq_eq_false_iff_ne]
  omega

theorem isWhiteSpace_text {address : Ipv4Addr} : ∀ c ∈ address.text.toList, isWhiteSpace c = false := by
  have hdigit : ∀ number : Nat, ∀ c ∈ Nat.toDigits 10 number, isWhiteSpace c = false := fun number c hc =>
    isWhiteSpace_digit (Nat.isDigit_of_mem_toDigits (by decide) (by decide) hc)
  have hdot : isWhiteSpace '.' = false := by decide
  intro c hc
  simp only [Ipv4Addr.toList_text, List.mem_append, List.mem_cons] at hc
  rcases hc with h | rfl | h | rfl | h | rfl | h
  · exact hdigit _ c h
  · exact hdot
  · exact hdigit _ c h
  · exact hdot
  · exact hdigit _ c h
  · exact hdot
  · exact hdigit _ c h

theorem isWhiteSpace_endpoint {address : Ipv4Addr} (port : Nat) :
    ∀ c ∈ address.text.toList ++ ':' :: Nat.toDigits 10 port, isWhiteSpace c = false := by
  obtain ⟨-, hdigits, -⟩ := numeral_toDigits port
  intro c hc
  rcases List.mem_append.mp hc with haddress | hport
  · exact isWhiteSpace_text c haddress
  · rcases List.mem_cons.mp hport with rfl | hdigit
    · decide
    · exact isWhiteSpace_digit (hdigits c hdigit)

theorem hostAddress_eq (address : Inet4Address) : address.hostAddress = (hostView address).text := rfl

theorem toList_displayValue {address : Inet4Address} {port : Int32} (hport : 0 ≤ port.toInt) :
    (TetherListenerEndpoint.displayValue ⟨address.hostAddress, port⟩).toList =
      (hostView address).text.toList ++ ':' :: Nat.toDigits 10 port.toInt.toNat := by
  obtain ⟨number, hnumber⟩ := Int.eq_ofNat_of_zero_le hport
  rw [TetherListenerEndpoint.displayValue, hostAddress_eq]
  simp only [hnumber, String.toList_append, Int.toNat_natCast, List.append_assoc]
  rw [show (toString (number : Int)).toList = Nat.toDigits 10 number from Nat.toList_repr]
  rfl

end Texts

section Addresses

theorem second_of_siteLocal {octet : UInt8} (h : octet &&& 0xF0 = 16) : 16 ≤ octet ∧ octet ≤ 31 := by
  have hall : ∀ number < 256, UInt8.ofNat number &&& 0xF0 = 16 →
      16 ≤ UInt8.ofNat number ∧ UInt8.ofNat number ≤ 31 := by decide +kernel
  have hoctet := hall octet.toNat octet.toNat_lt
  rw [UInt8.ofNat_toNat] at hoctet
  exact hoctet h

/-- What the display takes for local is local for the host. -/
theorem isLocal_of_eligible {address : Inet4Address} (h : eligibleAddress address = true) :
    isLocalTetherAddress (hostView address) = true := by
  obtain ⟨first, second, third, fourth⟩ := address
  simp only [eligibleAddress, Bool.and_eq_true, Bool.or_eq_true, Inet4Address.isSiteLocalAddress,
    Inet4Address.isLinkLocalAddress, beq_iff_eq] at h
  obtain ⟨-, ((rfl | ⟨rfl, hsecond⟩) | ⟨rfl, rfl⟩) | ⟨rfl, rfl⟩⟩ := h
  · simp [isLocalTetherAddress, hostView, Ipv4Addr.isPrivate, Ipv4Addr.isUnspecified,
      Ipv4Addr.isBroadcast, Ipv4Addr.isMulticast]
  · obtain ⟨hlow, hhigh⟩ := second_of_siteLocal hsecond
    simp [isLocalTetherAddress, hostView, Ipv4Addr.isPrivate, Ipv4Addr.isUnspecified,
      Ipv4Addr.isBroadcast, Ipv4Addr.isMulticast, hlow, hhigh]
  · simp [isLocalTetherAddress, hostView, Ipv4Addr.isPrivate, Ipv4Addr.isUnspecified,
      Ipv4Addr.isBroadcast, Ipv4Addr.isMulticast]
  · simp [isLocalTetherAddress, hostView, Ipv4Addr.isLinkLocal, Ipv4Addr.isUnspecified,
      Ipv4Addr.isBroadcast, Ipv4Addr.isMulticast]

end Addresses

/-- Every endpoint that the display shows is accepted by the host, as it is shown, between white space, and as
the bare address for the default port. Its address is one of an interface that is up and named as USB tethering,
and the first of these by prefix and kind of address. -/
theorem shown_endpoint_accepted {candidates : List UsbTetherInterfaceCandidate} {address : Inet4Address}
    (hselect : selectUsbTetherAddress candidates = some address) {port : Int32}
    (hport : 1 ≤ port.toInt ∧ port.toInt ≤ 65535) {before after : List Char}
    (hbefore : ∀ c ∈ before, isWhiteSpace c = true) (hafter : ∀ c ∈ after, isWhiteSpace c = true) :
    let endpoint : TetherListenerEndpoint := ⟨address.hostAddress, port⟩
    parseTetherEndpoint (.ofList (before ++ endpoint.displayValue.toList ++ after)) =
        .ok (hostView address, .ofNat port.toInt.toNat) ∧
      parseTetherEndpoint (.ofList (before ++ endpoint.address.toList ++ after)) =
        .ok (hostView address, .ofNat defaultTetherPort) ∧
      ∃ candidate ∈ candidates, candidate.isUp = true ∧ candidate.isLoopback = false ∧
        hasUsbTetherPrefix candidate.name = true ∧ .v4 address ∈ candidate.addresses ∧
        ∀ choice ∈ usbTetherAddresses candidates, addressKey (candidate.name, address) ≤ addressKey choice := by
  obtain ⟨name, hlisted, hfirst⟩ := selectUsbTetherAddress_eq_some hselect
  obtain ⟨heligible, candidate, hmem, rfl, hup, hloopback, hprefix, haddress⟩ :=
    mem_usbTetherAddresses.mp hlisted
  have hlocal := isLocal_of_eligible heligible
  have hnumber : port.toInt.toNat < UInt16.size := by
    have hsize : UInt16.size = 65536 := rfl
    omega
  have hvalue : (UInt16.ofNat port.toInt.toNat).toNat = port.toInt.toNat :=
    UInt16.toNat_ofNat_of_lt' hnumber
  intro endpoint
  refine ⟨?_, ?_, candidate, hmem, hup, hloopback, hprefix, haddress, hfirst⟩
  · rw [toList_displayValue (by omega)]
    obtain ⟨hne, hdigits, -⟩ := numeral_toDigits port.toInt.toNat
    rw [tether_endpoint_iff, String.toList_ofList,
      trim_padded hbefore hafter (by simp) (isWhiteSpace_endpoint _)]
    refine ⟨hlocal, ?_, .inl ⟨_, rfl, ⟨hne, hdigits⟩, ?_⟩⟩
    · intro hzero
      rw [hzero] at hvalue
      have : (0 : Nat) = port.toInt.toNat := hvalue
      omega
    · rw [hvalue]
      exact Nat.ofDigitChars_ten_toDigits
  · have htrimmed : trim (before ++ endpoint.address.toList ++ after) = (hostView address).text.toList :=
      trim_padded hbefore hafter (hostView address).text_ne_nil (@isWhiteSpace_text (hostView address))
    rw [tether_endpoint_iff, String.toList_ofList, htrimmed]
    exact ⟨hlocal, by decide, .inr ⟨rfl, rfl⟩⟩

def tetheredPhone : List UsbTetherInterfaceCandidate :=
  [⟨"wlan0", true, false, [.v4 ⟨192, 168, 1, 7⟩]⟩,
    ⟨"RNDIS0", true, false, [.v6 "fe80::1", .v4 ⟨192, 168, 42, 129⟩]⟩]

theorem select_tetheredPhone : selectUsbTetherAddress tetheredPhone = some ⟨192, 168, 42, 129⟩ := by
  have haddresses : usbTetherAddresses tetheredPhone = [("RNDIS0", ⟨192, 168, 42, 129⟩)] := by
    decide +kernel
  rw [selectUsbTetherAddress, haddresses, List.mergeSort_singleton]
  rfl

theorem shown_endpoint_accepted_tetheredPhone :
    parseTetherEndpoint (.ofList (" 192.168.42.129:49231\n".toList)) =
        .ok (⟨192, 168, 42, 129⟩, .ofNat defaultTetherPort) ∧
      ∃ candidate ∈ tetheredPhone, candidate.isUp = true ∧ hasUsbTetherPrefix candidate.name = true := by
  have hspace : ∀ c ∈ [' '], isWhiteSpace c = true := List.forall_mem_singleton.mpr rfl
  have hnewline : ∀ c ∈ ['\n'], isWhiteSpace c = true := List.forall_mem_singleton.mpr rfl
  have hshown := @shown_endpoint_accepted _ _ select_tetheredPhone 49231 (by decide) [' '] ['\n']
    hspace hnewline
  obtain ⟨hparse, -, candidate, hmem, hup, -, hprefix, -⟩ := hshown
  exact ⟨hparse, candidate, hmem, hup, hprefix⟩

/-- The host accepts every endpoint that its discovery lists. -/
theorem discovered_endpoint_accepted {answers : DiscoveryAnswers} {report : TetherDiscoveryReport}
    (h : discoverTetherEndpoints answers = .ok report) {found : TetherEndpointCandidate}
    (hfound : found ∈ report.candidates) : ∃ address : Ipv4Addr, found.gateway = address.text ∧
      parseTetherEndpoint found.endpoint = .ok (address, .ofNat defaultTetherPort) := by
  obtain ⟨guids, -, h⟩ := bind_eq_ok.mp h
  obtain ⟨adapters, -, h⟩ := bind_eq_ok.mp h
  cases h
  obtain ⟨adapterName, address, haddress, rfl⟩ := mem_collect (mem_listed hfound)
  refine ⟨address, rfl, (tether_endpoint_iff _ _ _).mpr ⟨(eligible_private haddress).1, by decide, .inl ?_⟩⟩
  obtain ⟨hne, hdigits, -⟩ := numeral_toDigits defaultTetherPort
  refine ⟨Nat.toDigits 10 defaultTetherPort, ?_, ⟨hne, hdigits⟩, Nat.ofDigitChars_ten_toDigits⟩
  have htext : (candidate adapterName address).endpoint.toList =
      address.text.toList ++ ':' :: Nat.toDigits 10 defaultTetherPort := by
    simp [candidate, endpointText]
  have htrimmed := @trim_padded [] _ [] (by simp) (by simp) (by simp)
    (@isWhiteSpace_endpoint address defaultTetherPort)
  rw [htext]
  simpa using htrimmed

end LadoFlow.System
