import LadoFlow.Framework.Runs
import LadoFlow.Host.TetherDiscovery
import Mathlib.Data.Prod.Lex
import Mathlib.Data.String.Basic

/-!
# What discovery lists

The list is sorted by adapter name before neighbours with one endpoint are merged, so an endpoint that
comes back behind another one is listed again.
-/

namespace LadoFlow.Host

open Framework

/-- The order of the list. -/
def listingKey (candidate : TetherEndpointCandidate) : String ×ₗ String :=
  toLex (candidate.adapterName, candidate.gateway)

/-- The addresses of the gateways that are looked at and may be listed. -/
def eligibleGateways (adapters : List IpAdapter) (usbNetworkGuids : List String) : List Ipv4Addr :=
  (adapters.take maxAdapters).flatMap fun current =>
    if usbBacked usbNetworkGuids current then
      (current.gateways.take maxGatewaysPerAdapter).filterMap eligibleGateway
    else []

/-- Every endpoint is listed once, is private, and is not left out where all of them fit. -/
structure ListsOnce (adapters : List IpAdapter) (usbNetworkGuids : List String)
    (listed : List TetherEndpointCandidate) : Prop where
  distinct : (listed.map (·.endpoint)).Nodup
  private_gateway : ∀ candidate ∈ listed, ∃ address : Ipv4Addr, candidate.gateway = address.text ∧
    candidate.endpoint = endpointText address.text ∧ isLocalTetherAddress address = true ∧
    address.isLoopback = false
  bounded : listed.length ≤ maxCandidates
  complete : (eligibleGateways adapters usbNetworkGuids).dedup.length ≤ maxCandidates →
    ∀ address ∈ eligibleGateways adapters usbNetworkGuids,
      ∃ candidate ∈ listed, candidate.gateway = address.text

/-- In the order of the list no endpoint starts two of the first runs of one endpoint. -/
def RunsApart (enumerated : List TetherEndpointCandidate) : Prop :=
  ∀ first second, StartsRun listingKey (·.endpoint) enumerated first →
    StartsRun listingKey (·.endpoint) enumerated second → listingKey first < listingKey second →
      first.endpoint = second.endpoint →
        maxCandidates ≤ runsBefore listingKey (·.endpoint) enumerated second

section Enumeration

theorem endpointText_injective {gateway other : String} (h : endpointText gateway = endpointText other) :
    gateway = other := by
  have hlist := congrArg String.toList h
  simp only [endpointText, String.toList_append, List.append_assoc] at hlist
  exact String.toList_inj.mp (List.append_cancel_right hlist)

theorem eligibleGateway_some {gateway : SocketAddress} {address : Ipv4Addr}
    (h : eligibleGateway gateway = some address) :
    isLocalTetherAddress address = true ∧ address.isLoopback = false := by
  rw [eligibleGateway] at h
  split at h
  · cases h
  · split at h
    · simp only [Bool.and_eq_true, Bool.not_eq_true'] at h
      split at h
      · rename_i hallowed
        cases h
        exact hallowed
      · cases h
    · cases h

variable {adapters : List IpAdapter} {usbNetworkGuids : List String}

/-- The enumerated candidates are those of the eligible gateways, each with an adapter's name. -/
theorem mem_collect {candidate : TetherEndpointCandidate}
    (h : candidate ∈ collectGatewayCandidates adapters usbNetworkGuids) :
    ∃ adapterName, ∃ address ∈ eligibleGateways adapters usbNetworkGuids,
      candidate = Host.candidate adapterName address := by
  obtain ⟨current, hcurrent, hmem⟩ := List.mem_flatMap.mp h
  split at hmem
  · rename_i husb
    obtain ⟨gateway, hgateway, hsome⟩ := List.mem_filterMap.mp hmem
    obtain ⟨address, haddress, hcandidate⟩ := Option.map_eq_some_iff.mp hsome
    refine ⟨displayName current, address, ?_, hcandidate.symm⟩
    apply List.mem_flatMap.mpr
    refine ⟨current, hcurrent, ?_⟩
    rw [if_pos husb]
    exact List.mem_filterMap.mpr ⟨gateway, hgateway, haddress⟩
  · cases hmem

theorem exists_collected {address : Ipv4Addr} (h : address ∈ eligibleGateways adapters usbNetworkGuids) :
    ∃ adapterName, candidate adapterName address ∈ collectGatewayCandidates adapters usbNetworkGuids := by
  obtain ⟨current, hcurrent, hmem⟩ := List.mem_flatMap.mp h
  split at hmem
  · rename_i husb
    obtain ⟨gateway, hgateway, hsome⟩ := List.mem_filterMap.mp hmem
    refine ⟨displayName current, List.mem_flatMap.mpr ⟨current, hcurrent, ?_⟩⟩
    rw [if_pos husb]
    exact List.mem_filterMap.mpr ⟨gateway, hgateway, by rw [hsome, Option.map_some]⟩
  · cases hmem

theorem eligible_private {address : Ipv4Addr} (h : address ∈ eligibleGateways adapters usbNetworkGuids) :
    isLocalTetherAddress address = true ∧ address.isLoopback = false := by
  obtain ⟨current, -, hmem⟩ := List.mem_flatMap.mp h
  split at hmem
  · obtain ⟨gateway, -, hsome⟩ := List.mem_filterMap.mp hmem
    exact eligibleGateway_some hsome
  · cases hmem

/-- Candidates with one name and gateway are the same. -/
theorem listingKey_injOn : ∀ x ∈ collectGatewayCandidates adapters usbNetworkGuids,
    ∀ y ∈ collectGatewayCandidates adapters usbNetworkGuids, listingKey x = listingKey y → x = y := by
  intro x hx y hy hkey
  obtain ⟨adapterName, address, -, rfl⟩ := mem_collect hx
  obtain ⟨otherName, other, -, rfl⟩ := mem_collect hy
  obtain ⟨hname, hgateway⟩ := Prod.mk.inj (toLex_inj.mp hkey)
  simp only [candidate] at hname hgateway ⊢
  rw [hname, hgateway]

end Enumeration

section Listing

theorem notAfter_iff (left right : TetherEndpointCandidate) :
    notAfter left right = true ↔ listingKey left ≤ listingKey right := by
  rw [notAfter, listingKey, listingKey, Prod.Lex.toLex_le_toLex]
  cases hname : compare left.adapterName right.adapterName with
  | lt =>
    have hlt := compare_lt_iff_lt.mp hname
    simp [hlt]
  | eq =>
    have heq := compare_eq_iff_eq.mp hname
    have hle : (compare left.gateway right.gateway).isLE = true ↔ left.gateway ≤ right.gateway :=
      Ordering.isLE_iff_ne_gt.trans compare_le_iff_le
    simp [heq, hle]
  | gt =>
    have hgt := compare_gt_iff_gt.mp hname
    simp [not_lt.mpr hgt.le, hgt.ne']

theorem pairwise_sorted (enumerated : List TetherEndpointCandidate) :
    (enumerated.mergeSort notAfter).Pairwise fun x y => listingKey x ≤ listingKey y := by
  have htrans : ∀ a b c : TetherEndpointCandidate, notAfter a b → notAfter b c → notAfter a c := by
    intro a b c hab hbc
    rw [notAfter_iff] at hab hbc ⊢
    exact hab.trans hbc
  have htotal : ∀ a b : TetherEndpointCandidate, notAfter a b || notAfter b a := by
    intro a b
    rw [Bool.or_eq_true, notAfter_iff, notAfter_iff]
    exact le_total _ _
  refine (List.pairwise_mergeSort htrans htotal enumerated).imp ?_
  intro a b hab
  exact (notAfter_iff a b).mp hab

variable {adapters : List IpAdapter} {usbNetworkGuids : List String}

theorem sorted_injOn :
    ∀ x ∈ (collectGatewayCandidates adapters usbNetworkGuids).mergeSort notAfter,
      ∀ y ∈ (collectGatewayCandidates adapters usbNetworkGuids).mergeSort notAfter,
        listingKey x = listingKey y → x = y := by
  intro x hx y hy
  exact listingKey_injOn x (List.mem_mergeSort.mp hx) y (List.mem_mergeSort.mp hy)

theorem mem_listed {candidate : TetherEndpointCandidate} {enumerated : List TetherEndpointCandidate}
    (h : candidate ∈ listedCandidates enumerated) : candidate ∈ enumerated := by
  have hkept := (List.destutter_sublist _ _).subset (List.mem_of_mem_take h)
  exact List.mem_mergeSort.mp hkept

/-- The endpoints that are listed are distinct just when the runs of one endpoint are apart. -/
theorem listed_nodup_iff :
    ((listedCandidates (collectGatewayCandidates adapters usbNetworkGuids)).map (·.endpoint)).Nodup ↔
      RunsApart (collectGatewayCandidates adapters usbNetworkGuids) := by
  have hperm := List.mergeSort_perm (collectGatewayCandidates adapters usbNetworkGuids) notAfter
  have hlaw := @nodup_take_destutter_iff _ _ _ _ _ _ _ (·.endpoint) _ sorted_injOn
    (pairwise_sorted (collectGatewayCandidates adapters usbNetworkGuids)) maxCandidates
  simp only [StartsRun.congr fun _ => hperm.mem_iff, runsBefore_perm hperm] at hlaw
  exact hlaw

/-- Where all endpoints fit, distinct endpoints leave none out. -/
theorem listed_complete
    (hdistinct : ((listedCandidates
      (collectGatewayCandidates adapters usbNetworkGuids)).map (·.endpoint)).Nodup)
    (hfew : (eligibleGateways adapters usbNetworkGuids).dedup.length ≤ maxCandidates)
    {address : Ipv4Addr} (haddress : address ∈ eligibleGateways adapters usbNetworkGuids) :
    endpointText address.text ∈ (listedCandidates
      (collectGatewayCandidates adapters usbNetworkGuids)).map (·.endpoint) := by
  have hperm := List.mergeSort_perm (collectGatewayCandidates adapters usbNetworkGuids) notAfter
  by_cases hshort : (((collectGatewayCandidates adapters usbNetworkGuids).mergeSort notAfter).destutter
      fun left right => left.endpoint ≠ right.endpoint).length ≤ maxCandidates
  · -- nothing is cut, and every endpoint starts a run
    rw [listedCandidates, List.take_of_length_le hshort]
    obtain ⟨adapterName, hcollected⟩ := exists_collected haddress
    obtain ⟨start, hstarts, hendpoint⟩ :=
      @exists_startsRun _ _ _ _ _ _ listingKey (·.endpoint) _ _ (hperm.mem_iff.mpr hcollected)
    have hkept := ((destutter_starts sorted_injOn (pairwise_sorted _)).2 start).mpr hstarts
    exact List.mem_map.mpr ⟨start, hkept, hendpoint⟩
  · -- as many distinct endpoints are listed as there are addresses
    have hsubset : ((listedCandidates
          (collectGatewayCandidates adapters usbNetworkGuids)).map (·.endpoint)).toFinset ⊆
        ((eligibleGateways adapters usbNetworkGuids).dedup.map
          fun address => endpointText address.text).toFinset := by
      intro endpoint hendpoint
      obtain ⟨listed, hlisted, rfl⟩ := List.mem_map.mp (List.mem_toFinset.mp hendpoint)
      obtain ⟨adapterName, other, hother, rfl⟩ := mem_collect (mem_listed hlisted)
      exact List.mem_toFinset.mpr (List.mem_map.mpr ⟨other, List.mem_dedup.mpr hother, rfl⟩)
    have hlength : (listedCandidates
        (collectGatewayCandidates adapters usbNetworkGuids)).length = maxCandidates := by
      rw [listedCandidates, List.length_take]
      omega
    have hcard : ((eligibleGateways adapters usbNetworkGuids).dedup.map
          fun address => endpointText address.text).toFinset.card ≤
        ((listedCandidates
          (collectGatewayCandidates adapters usbNetworkGuids)).map (·.endpoint)).toFinset.card := by
      rw [List.toFinset_card_of_nodup hdistinct, List.length_map, hlength]
      refine (List.toFinset_card_le _).trans ?_
      rw [List.length_map]
      exact hfew
    rw [← List.mem_toFinset, Finset.eq_of_subset_of_card_le hsubset hcard, List.mem_toFinset]
    exact List.mem_map.mpr ⟨address, List.mem_dedup.mpr haddress, rfl⟩

theorem listsOnce_iff :
    ListsOnce adapters usbNetworkGuids
        (listedCandidates (collectGatewayCandidates adapters usbNetworkGuids)) ↔
      RunsApart (collectGatewayCandidates adapters usbNetworkGuids) := by
  rw [← listed_nodup_iff]
  constructor
  · exact fun h => h.distinct
  · intro hdistinct
    refine ⟨hdistinct, ?_, ?_, ?_⟩
    · intro listed hlisted
      obtain ⟨adapterName, address, haddress, rfl⟩ := mem_collect (mem_listed hlisted)
      obtain ⟨hlocal, hloopback⟩ := eligible_private haddress
      exact ⟨address, rfl, rfl, hlocal, hloopback⟩
    · exact List.length_take_le _ _
    · intro hfew address haddress
      obtain ⟨listed, hlisted, hendpoint⟩ :=
        List.mem_map.mp (listed_complete hdistinct hfew haddress)
      obtain ⟨adapterName, other, -, rfl⟩ := mem_collect (mem_listed hlisted)
      exact ⟨_, hlisted, endpointText_injective hendpoint⟩

end Listing

/-- Discovery lists every endpoint once just when, in the order of names and gateways, no endpoint starts
two of the first sixteen runs of one endpoint. -/
theorem discovery_lists_once_iff {answers : DiscoveryAnswers} {adapters : List IpAdapter}
    {usbNetworkGuids : List String} (hguids : answers.usbNetworkGuids = .ok usbNetworkGuids)
    (hadapters : answers.adapters = .ok adapters) :
    ∃ report, discoverTetherEndpoints answers = .ok report ∧
      (ListsOnce adapters usbNetworkGuids report.candidates ↔
        RunsApart (collectGatewayCandidates adapters usbNetworkGuids)) := by
  let candidates := listedCandidates (collectGatewayCandidates adapters usbNetworkGuids)
  refine ⟨⟨candidates, discoveryDetail candidates.length⟩, ?_, listsOnce_iff⟩
  rw [discoverTetherEndpoints, hguids, hadapters]
  rfl

def firstPhone : Ipv4Addr := ⟨192, 168, 42, 129⟩
def secondPhone : Ipv4Addr := ⟨192, 168, 43, 1⟩

def phoneAdapter (adapterName friendlyName : String) (address : Ipv4Addr) : IpAdapter :=
  ⟨true, adapterName, friendlyName, "", [⟨some ⟨afInet, address⟩, 16⟩]⟩

/-- Two of three phones have one address. -/
def threePhones : List IpAdapter :=
  [phoneAdapter "a" "Ethernet 2" firstPhone, phoneAdapter "b" "Ethernet 3" secondPhone,
    phoneAdapter "c" "Ethernet 4" firstPhone]

def threePhonesAnswers : DiscoveryAnswers :=
  ⟨.ok ["a", "b", "c"], .success threePhones, .success threePhones, .success threePhones⟩

theorem discovery_lists_once_threePhones :
    ∃ report, discoverTetherEndpoints threePhonesAnswers = .ok report ∧
      (ListsOnce threePhones ["a", "b", "c"] report.candidates ↔
        RunsApart (collectGatewayCandidates threePhones ["a", "b", "c"])) :=
  discovery_lists_once_iff rfl rfl

theorem collected_threePhones : collectGatewayCandidates threePhones ["a", "b", "c"] =
    [candidate "Ethernet 2" firstPhone, candidate "Ethernet 3" secondPhone,
      candidate "Ethernet 4" firstPhone] := by
  decide +kernel

theorem sorted_threePhones :
    [candidate "Ethernet 2" firstPhone, candidate "Ethernet 3" secondPhone,
      candidate "Ethernet 4" firstPhone].Pairwise fun left right => notAfter left right := by
  decide +kernel

/-- The second phone separates the first one from its repetition. -/
theorem listed_threePhones : listedCandidates (collectGatewayCandidates threePhones ["a", "b", "c"]) =
    [candidate "Ethernet 2" firstPhone, candidate "Ethernet 3" secondPhone,
      candidate "Ethernet 4" firstPhone] := by
  rw [collected_threePhones, listedCandidates, List.mergeSort_of_pairwise sorted_threePhones]
  decide +kernel

theorem discovery_repeats :
    ∃ report, discoverTetherEndpoints threePhonesAnswers = .ok report ∧
      report.candidates.map (·.endpoint) =
        ["192.168.42.129:49231", "192.168.43.1:49231", "192.168.42.129:49231"] ∧
      ¬ListsOnce threePhones ["a", "b", "c"] report.candidates := by
  let candidates := listedCandidates (collectGatewayCandidates threePhones ["a", "b", "c"])
  have hendpoints : candidates.map (·.endpoint) =
      ["192.168.42.129:49231", "192.168.43.1:49231", "192.168.42.129:49231"] := by
    rw [show candidates = _ from listed_threePhones]
    decide +kernel
  refine ⟨⟨candidates, discoveryDetail candidates.length⟩, rfl, hendpoints, ?_⟩
  intro honce
  have hdistinct := honce.distinct
  rw [hendpoints] at hdistinct
  exact absurd hdistinct (by decide)

end LadoFlow.Host
