import LadoFlow.Host.UsbDiscovery

/-!
# Who receives vendor requests

The scan for a phone asks candidates only, each of them once and none behind the first that takes part.
-/

namespace LadoFlow.Host

open Transport

section Probes

variable {σ : Type} {identity : AccessoryIdentity}

/-- A probed device may be a phone outside of accessory mode, and it received the first requests of a
negotiation, all of them if it took part. -/
structure DeviceProbe.Fair (identity : AccessoryIdentity) (probe : DeviceProbe σ) : Prop where
  candidate : ∃ descriptor, probe.device.descriptor = .ok descriptor ∧ descriptor.isCandidate = true
  requests : probe.requests <+: identity.requests
  complete : probe.accepted.isSome = true → probe.requests = identity.requests

/-- Only the last device can have taken part, and then it ended the scan. -/
def ScanEnd.Fits (ended : ScanEnd) (probes : List (DeviceProbe σ)) : Prop :=
  match ended with
  | .accepted protocol => ∃ earlier last, probes = earlier ++ [last] ∧ last.accepted = some protocol ∧
      ∀ probe ∈ earlier, probe.accepted = none
  | .exhausted | .cancelled => ∀ probe ∈ probes, probe.accepted = none

theorem ScanEnd.Fits.cons {ended : ScanEnd} {probes : List (DeviceProbe σ)} (h : ended.Fits probes)
    {probe : DeviceProbe σ} (hprobe : probe.accepted = none) : ended.Fits (probe :: probes) := by
  cases ended with
  | exhausted => exact List.forall_mem_cons.mpr ⟨hprobe, h⟩
  | cancelled => exact List.forall_mem_cons.mpr ⟨hprobe, h⟩
  | accepted protocol =>
    obtain ⟨earlier, last, rfl, hlast, hearlier⟩ := h
    exact ⟨probe :: earlier, last, rfl, hlast, List.forall_mem_cons.mpr ⟨hprobe, hearlier⟩⟩

/-- The probes that a scan adds to those before it. -/
structure Probed (identity : AccessoryIdentity) (visits : List (DeviceVisit σ)) (ended : ScanEnd)
    (probes : List (DeviceProbe σ)) : Prop where
  devices : (probes.map (·.device)).Sublist (visits.map (·.device))
  fair : ∀ probe ∈ probes, probe.Fair identity
  fits : ended.Fits probes

theorem Probed.skip {visits : List (DeviceVisit σ)} {ended : ScanEnd} {probes : List (DeviceProbe σ)}
    (h : Probed identity visits ended probes) (visit : DeviceVisit σ) :
    Probed identity (visit :: visits) ended probes where
  devices := h.devices.cons visit.device
  fair := h.fair
  fits := h.fits

theorem probed_none (visits : List (DeviceVisit σ)) {ended : ScanEnd} (h : ended.Fits ([] : List (DeviceProbe σ))) :
    Probed identity visits ended [] where
  devices := List.nil_sublist _
  fair := by simp
  fits := h

theorem fair_probe {device : UsbDevice σ} {descriptor : DeviceDescriptor}
    (hdescriptor : device.descriptor = .ok descriptor) (hcandidate : descriptor.isCandidate = true)
    (handle : σ) : DeviceProbe.Fair identity
      ⟨device, (negotiateAccessoryMode device.io identity handle).requests,
        (negotiateAccessoryMode device.io identity handle).result.toOption⟩ where
  candidate := ⟨descriptor, hdescriptor, hcandidate⟩
  requests := (negotiateAccessoryMode_requests identity).1
  complete := by
    intro hsome
    cases hresult : (negotiateAccessoryMode device.io identity handle).result with
    | error error => simp [hresult, Except.toOption] at hsome
    | ok version => exact (negotiateAccessoryMode_requests identity).2 version hresult

theorem Probed.probe {visits : List (DeviceVisit σ)} {ended : ScanEnd} {probes : List (DeviceProbe σ)}
    (h : Probed identity visits ended probes) {visit : DeviceVisit σ} {probe : DeviceProbe σ}
    (hdevice : probe.device = visit.device) (hfair : probe.Fair identity)
    (hrefused : probe.accepted = none) : Probed identity (visit :: visits) ended (probe :: probes) where
  devices := by
    rw [List.map_cons, List.map_cons, hdevice]
    exact h.devices.cons_cons visit.device
  fair := List.forall_mem_cons.mpr ⟨hfair, h.fair⟩
  fits := h.fits.cons hrefused

theorem scanDevices_probes (visits : List (DeviceVisit σ)) (scan : DeviceScan σ) :
    ∃ probes, (scanDevices identity visits scan).2.probes = scan.probes ++ probes ∧
      Probed identity visits (scanDevices identity visits scan).1 probes := by
  induction visits generalizing scan with
  | nil => exact ⟨[], by simp [scanDevices], probed_none [] (by simp [scanDevices, ScanEnd.Fits])⟩
  | cons visit rest ih =>
    have hnone : ∀ next : DeviceScan σ, next.probes = scan.probes →
        ∃ probes, (scanDevices identity rest next).2.probes = scan.probes ++ probes ∧
          Probed identity (visit :: rest) (scanDevices identity rest next).1 probes := by
      intro next hsame
      obtain ⟨probes, hprobes, hprobed⟩ := ih next
      exact ⟨probes, by rw [hprobes, hsame], hprobed.skip visit⟩
    rw [scanDevices]
    split
    · exact ⟨[], by simp, probed_none _ (by simp [ScanEnd.Fits])⟩
    · split
      · exact hnone _ rfl
      · rename_i descriptor hdescriptor
        split
        · exact hnone _ rfl
        · rename_i hcandidate
          simp only [Bool.not_eq_true, Bool.not_eq_false'] at hcandidate
          split
          · exact hnone _ rfl
          · rename_i handle hhandle
            have hfair := @fair_probe σ identity visit.device descriptor hdescriptor hcandidate handle
            have hrefused : ∀ next : DeviceScan σ,
                (negotiateAccessoryMode visit.device.io identity handle).result.toOption = none →
                next.probes = scan.probes ++ [⟨visit.device,
                  (negotiateAccessoryMode visit.device.io identity handle).requests,
                  (negotiateAccessoryMode visit.device.io identity handle).result.toOption⟩] →
                ∃ probes, (scanDevices identity rest next).2.probes = scan.probes ++ probes ∧
                  Probed identity (visit :: rest) (scanDevices identity rest next).1 probes := by
              intro next hresult hsame
              obtain ⟨probes, hprobes, hprobed⟩ := ih next
              exact ⟨_ :: probes, by rw [hprobes, hsame, List.append_assoc, List.singleton_append],
                hprobed.probe rfl hfair hresult⟩
            dsimp only
            split
            · exact ⟨[], by simp, probed_none _ (by simp [ScanEnd.Fits])⟩
            · split
              · rename_i protocol hresult
                refine ⟨[_], rfl, ?_, List.forall_mem_singleton.mpr hfair, [], _, rfl, ?_, by simp⟩
                · simp
                · simp [hresult, Except.toOption]
              · rename_i hresult
                exact hrefused _ (by simp [hresult, Except.toOption]) rfl
              · rename_i hresult
                exact hrefused _ (by simp [hresult, Except.toOption]) rfl

theorem findAccessoryDevices_accessory {devices : Except String (List (UsbDevice σ))}
    {accessories : List (UsbDevice σ)} (h : findAccessoryDevices devices = .ok accessories) :
    ∀ device ∈ accessories,
      ∃ descriptor, device.descriptor = .ok descriptor ∧ descriptor.isAccessory = true := by
  have hgo : ∀ (listed accessories : List (UsbDevice σ)), findAccessoryDevices.go listed = .ok accessories →
      ∀ device ∈ accessories,
        ∃ descriptor, device.descriptor = .ok descriptor ∧ descriptor.isAccessory = true := by
    intro listed
    induction listed with
    | nil =>
      intro accessories hlisted
      cases hlisted
      simp
    | cons device rest ih =>
      intro accessories hlisted
      rw [findAccessoryDevices.go] at hlisted
      split at hlisted
      · cases hlisted
      · rename_i descriptor hdescriptor
        cases hrest : findAccessoryDevices.go rest with
        | error error => simp [hrest, bind, Except.bind] at hlisted
        | ok found =>
          simp only [hrest, bind, Except.bind, Except.ok.injEq] at hlisted
          split at hlisted
          · rename_i haccessory
            cases hlisted
            exact List.forall_mem_cons.mpr ⟨⟨descriptor, hdescriptor, haccessory⟩, ih _ hrest⟩
          · cases hlisted
            exact ih _ hrest
  rw [findAccessoryDevices.eq_def] at h
  split at h
  · cases h
  · exact hgo _ _ h

theorem openAccessory_eq_ok {device : UsbDevice σ} {protocolVersion : Option UInt16}
    {opened : OpenedAccessory σ} (h : openAccessory device protocolVersion = .ok opened) :
    device.descriptor = .ok opened.descriptor ∧ opened.device = device ∧
      opened.protocolVersion = protocolVersion := by
  rw [openAccessory] at h
  split at h
  · cases h
  · rename_i descriptor hdescriptor
    repeat' split at h
    all_goals cases h
    exact ⟨hdescriptor, rfl, rfl⟩

/-- An opened accessory with the version that the scan before it agreed on. -/
structure OpenedAccessory.Sound (opened : OpenedAccessory σ) (probes : List (DeviceProbe σ)) : Prop where
  descriptor : opened.device.descriptor = .ok opened.descriptor
  accessory : opened.descriptor.isAccessory = true
  version : opened.protocolVersion = (probes.getLast?.bind (·.accepted)).map (·.value)

theorem sound_of_listed {devices : Except String (List (UsbDevice σ))} {device : UsbDevice σ}
    {later : List (UsbDevice σ)} (hlisted : findAccessoryDevices devices = .ok (device :: later))
    {protocolVersion : Option UInt16} {opened : OpenedAccessory σ}
    (hopened : openAccessory device protocolVersion = .ok opened) {probes : List (DeviceProbe σ)}
    (hversion : protocolVersion = (probes.getLast?.bind (·.accepted)).map (·.value)) :
    opened.Sound probes := by
  obtain ⟨hdescriptor, hdevice, hprotocol⟩ := openAccessory_eq_ok hopened
  obtain ⟨descriptor, hfound, haccessory⟩ :=
    findAccessoryDevices_accessory hlisted device List.mem_cons_self
  rw [hdescriptor] at hfound
  cases hfound
  exact ⟨by rw [hdevice, hdescriptor], haccessory, hprotocol.trans hversion⟩

theorem awaitAccessory_sound {protocol : AoaProtocolVersion} {probes : List (DeviceProbe σ)}
    (hversion : probes.getLast?.bind (·.accepted) = some protocol) {polls : List (EnumerationPoll σ)}
    {opened : OpenedAccessory σ} (h : awaitAccessory protocol polls = .ok opened) :
    opened.Sound probes := by
  induction polls with
  | nil => cases h
  | cons poll rest ih =>
    rw [awaitAccessory] at h
    split at h
    · cases h
    · split at h
      · cases h
      · rename_i accessory later hlisted
        split at h
        · cases h
        · exact sound_of_listed hlisted h (by rw [hversion, Option.map_some])
      · split at h
        · cases h
        · exact ih h

/-- What one call may do on the bus: nothing while an accessory is listed, and else a scan for one. -/
structure DiscoveryLaw (environment : DiscoveryEnvironment σ)
    (outcome : Except String (OpenedAccessory σ) × List (DeviceProbe σ)) : Prop where
  probed : outcome.2 ≠ [] → findAccessoryDevices environment.listed = .ok [] ∧
    ∃ identity visits ended, AccessoryIdentity.ladoflow (hostDescription environment.computerName)
        environment.packageVersion "" = .ok identity ∧ environment.devices = .ok visits ∧
      Probed identity visits ended outcome.2
  opened : ∀ opened, outcome.1 = .ok opened → opened.Sound outcome.2

theorem discoveryLaw_quiet (environment : DiscoveryEnvironment σ) (error : String) :
    DiscoveryLaw environment (.error error, []) where
  probed := by simp
  opened := by simp

theorem probeDevices_law {environment : DiscoveryEnvironment σ}
    (hlisted : findAccessoryDevices environment.listed = .ok []) :
    DiscoveryLaw environment (probeDevices environment) := by
  rw [probeDevices]
  split
  · exact discoveryLaw_quiet _ _
  · rename_i identity hidentity
    split
    · exact discoveryLaw_quiet _ _
    · rename_i visits hvisits
      obtain ⟨probes, hprobes, hprobed⟩ := @scanDevices_probes σ identity visits .start
      rw [show DeviceScan.start.probes = ([] : List (DeviceProbe σ)) from rfl, List.nil_append] at hprobes
      have hfound : probes ≠ [] → findAccessoryDevices environment.listed = .ok [] ∧
          ∃ identity visits ended, AccessoryIdentity.ladoflow (hostDescription environment.computerName)
              environment.packageVersion "" = .ok identity ∧ environment.devices = .ok visits ∧
            Probed identity visits ended probes :=
        fun _ => ⟨hlisted, identity, visits, _, hidentity, hvisits, hprobed⟩
      split
      · rename_i hscan
        rw [hscan] at hprobes
        exact ⟨by rwa [← hprobes] at hfound, by simp⟩
      · rename_i hscan
        rw [hscan] at hprobes
        exact ⟨by rwa [← hprobes] at hfound, by simp⟩
      · rename_i protocol scan hscan
        have hfits := hprobed.fits
        rw [hscan] at hprobes hfits
        obtain ⟨earlier, last, hlast, haccepted, -⟩ := hfits
        have hversion : scan.probes.getLast?.bind (·.accepted) = some protocol := by
          rw [hprobes, hlast]
          simp [haccepted]
        split
        · exact ⟨by rwa [← hprobes] at hfound, by simp⟩
        · exact ⟨by rwa [← hprobes] at hfound, fun opened => awaitAccessory_sound hversion⟩

/-- A search for the accessory sends vendor requests to no device that could not be a phone outside of
accessory mode and to none at all while an accessory is listed; it asks each device once, in the order of the
bus, and stops at the first that takes part. What it opens is an accessory, with the version that was agreed
in this search. -/
theorem vendor_requests_only_for_candidates (environment : DiscoveryEnvironment σ) :
    DiscoveryLaw environment (openAndroidAccessory environment) := by
  rw [openAndroidAccessory]
  split
  · exact discoveryLaw_quiet _ _
  · split
    · exact discoveryLaw_quiet _ _
    · split
      · exact discoveryLaw_quiet _ _
      · split
        · exact discoveryLaw_quiet _ _
        · rename_i device later hlisted
          split
          · exact discoveryLaw_quiet _ _
          · exact ⟨by simp, fun opened hopened => sound_of_listed hlisted hopened rfl⟩
        · rename_i hlisted
          exact probeDevices_law hlisted

end Probes

end LadoFlow.Host
