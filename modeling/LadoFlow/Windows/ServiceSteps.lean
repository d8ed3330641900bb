import LadoFlow.Windows.SetupMachine

/-!
# What one run does to the display service

Every operation on the service ends in one of a few ways: a call failed and the service is as it
was, a wait failed and the service is where the wait left it, or the operation is complete. An
operation of another product's service changes nothing.
-/

namespace LadoFlow.Windows

theorem waitForServiceState_settled {desired : ServiceState} {poll : Poll} {later : List Poll}
    (h : (waitForServiceState desired poll later).1 = .ok ()) :
    (waitForServiceState desired poll later).2 = desired := by
  have honce : ∀ poll : Poll, waitForServiceState.pollOnce desired poll = .ok () →
      poll.state = desired := by
    intro poll hok
    rw [waitForServiceState.pollOnce] at hok
    split at hok
    · cases hok
    · split at hok
      · assumption
      · split at hok <;> cases hok
  induction later generalizing poll with
  | nil => exact honce poll h
  | cons next later ih =>
    rw [waitForServiceState] at h ⊢
    split
    · rename_i htimeout
      simp only [htimeout] at h
      exact ih h
    · rename_i hresult
      apply honce poll
      split at h
      · rename_i htimeout
        exact absurd htimeout hresult
      · exact h

namespace ServiceRecord

theorem owned_iff (service : ServiceRecord) : service.owned = true ↔
    service.binaryMatches = true ∧ service.accountMatches = true ∧
      service.displayName = kServiceDisplayName := by
  rw [owned, Bool.and_eq_true, Bool.and_eq_true, decide_eq_true_iff]
  exact and_assoc

theorem binaryMatches_of_command {service : ServiceRecord} {root : InstallRoot}
    (h : service.command = root.command) : service.binaryMatches = true := by
  rw [binaryMatches, h, root.parse_command, Option.any_some, root.baseName_servicePath]
  exact decide_eq_true rfl

theorem new_owned (root : InstallRoot) : (new root).owned = true := by
  apply (owned_iff _).mpr
  have haccount : (new root).accountMatches = true := by
    have hlower : toLower (new root).account = "localsystem".toList := by
      show toLower "LocalSystem".toList = _
      decide
    rw [accountMatches, hlower]
    exact decide_eq_true List.mem_cons_self
  exact ⟨binaryMatches_of_command rfl, haccount, rfl⟩

theorem update_owned {service : ServiceRecord} (h : service.owned = true) (root : InstallRoot) :
    (service.update root).owned = true := by
  obtain ⟨-, haccount, -⟩ := (owned_iff service).mp h
  apply (owned_iff _).mpr
  exact ⟨binaryMatches_of_command rfl, haccount, rfl⟩

theorem with_state_eq_iff (service : ServiceRecord) (state : ServiceState) :
    { service with state := state } = service ↔ state = service.state := by
  cases service
  simp

/-- An update changes nothing but the command and the state of an owned service. -/
theorem update_eq_iff {service : ServiceRecord} (h : service.owned = true) (root : InstallRoot)
    (state : ServiceState) : { service.update root with state := state } = service ↔
      service.command = root.command ∧ state = service.state := by
  obtain ⟨-, -, hname⟩ := (owned_iff service).mp h
  cases service
  simp only [update, mk.injEq] at hname ⊢
  simp [hname, eq_comm]

end ServiceRecord

namespace ServiceCalls

variable (calls : ServiceCalls)

/-- A call at one of the sites fails. -/
def FaultAt (sites : List ServiceCall) : Prop :=
  ∃ site ∈ sites, ∃ code, calls.fault site = some code

def stopWait : Except Win32Error Unit × ServiceState :=
  waitForServiceState .stopped calls.stopPolls.first calls.stopPolls.later

def startWait : Except Win32Error Unit × ServiceState :=
  waitForServiceState .running calls.startPolls.first calls.startPolls.later

variable {calls}

theorem attempt_error {sites : List ServiceCall} {error : Win32Error}
    (h : calls.attempt sites = .error error) : calls.FaultAt sites := by
  rw [attempt] at h
  split at h
  · rename_i code hfound
    obtain ⟨site, hmem, hfault⟩ := List.exists_of_findSome?_eq_some hfound
    exact ⟨site, hmem, code, hfault⟩
  · cases h

theorem attempt_ok {sites : List ServiceCall} (h : ∀ site ∈ sites, calls.fault site = none) :
    calls.attempt sites = .ok () := by
  rw [attempt, List.findSome?_eq_none_iff.mpr h]

theorem FaultAt.mono {sites more : List ServiceCall} (h : calls.FaultAt sites)
    (hsub : sites ⊆ more) : calls.FaultAt more := by
  obtain ⟨site, hmem, hcode⟩ := h
  exact ⟨site, hsub hmem, hcode⟩

/-- The ownership check fails for another product's service, or when the query fails. -/
theorem isOwnedServiceConfiguration_cases (calls : ServiceCalls) (record : ServiceRecord) :
    (∃ error, calls.isOwnedServiceConfiguration record = .error error ∧
      (record.owned = false ∨ calls.FaultAt [.queryConfig])) ∨
    (calls.isOwnedServiceConfiguration record = .ok () ∧ record.owned = true) := by
  rw [isOwnedServiceConfiguration]
  cases hquery : calls.attempt [.queryConfig] with
  | error error => exact .inl ⟨error, rfl, .inr (attempt_error hquery)⟩
  | ok =>
    cases howned : record.owned with
    | false => exact .inl ⟨.serviceExists, rfl, .inl rfl⟩
    | true => exact .inr ⟨rfl, rfl⟩

theorem requestStop_error {record : ServiceRecord} {error : Win32Error}
    (h : calls.requestStop record = .error error) : calls.FaultAt [.control] := by
  rw [requestStop] at h
  split at h
  · cases h
  · split at h
    · cases h
    · exact attempt_error h

/-- A stop fails with the service as it was, or in the wait, or it is done. -/
theorem stopServiceHandle_cases (calls : ServiceCalls) (record : ServiceRecord) :
    (∃ error, calls.stopServiceHandle record = (.error error, record) ∧
      calls.FaultAt [.queryStatus, .control]) ∨
    (∃ error, calls.stopServiceHandle record =
        (.error error, { record with state := calls.stopWait.2 }) ∧
      record.state ≠ .stopped ∧ calls.stopWait.1 = .error error) ∨
    calls.stopServiceHandle record = (.ok (), { record with state := .stopped }) := by
  rw [stopServiceHandle]
  cases hstatus : calls.attempt [.queryStatus] with
  | error error =>
    have hfault := attempt_error hstatus
    exact .inl ⟨error, rfl, hfault.mono (by simp)⟩
  | ok =>
    by_cases hstate : record.state = .stopped
    · right
      right
      have hsame : { record with state := .stopped } = record :=
        (record.with_state_eq_iff .stopped).mpr hstate.symm
      simp only [if_pos hstate, hsame]
    · simp only [if_neg hstate]
      cases hrequest : calls.requestStop record with
      | error error =>
        have hfault := requestStop_error hrequest
        exact .inl ⟨error, rfl, hfault.mono (by simp)⟩
      | ok =>
        right
        cases hwait : calls.stopWait.1 with
        | error error =>
          left
          exact ⟨error, Prod.ext hwait rfl, hstate, rfl⟩
        | ok =>
          right
          have hsettled : calls.stopWait.2 = .stopped := waitForServiceState_settled hwait
          apply Prod.ext
          · exact hwait
          · show ({ record with state := calls.stopWait.2 } : ServiceRecord) = _
            rw [hsettled]

/-- Stopping the service: refused or failed with the service as it was, given up, or done. -/
theorem stopOwned_cases (calls : ServiceCalls) (record : ServiceRecord) :
    (∃ error, calls.stopOwned record = (.error error, record) ∧
      (record.owned = false ∨ calls.FaultAt [.queryConfig, .queryStatus, .control])) ∨
    (∃ error, calls.stopOwned record = (.error error, { record with state := calls.stopWait.2 }) ∧
      record.owned = true ∧ record.state ≠ .stopped ∧ calls.stopWait.1 = .error error) ∨
    (calls.stopOwned record = (.ok (), { record with state := .stopped }) ∧
      record.owned = true) := by
  rw [stopOwned]
  rcases calls.isOwnedServiceConfiguration_cases record with
    ⟨error, hconfig, hreason⟩ | ⟨hconfig, howned⟩
  · rw [hconfig]
    exact .inl ⟨error, rfl, hreason.imp_right fun hfault => hfault.mono (by simp)⟩
  · rw [hconfig]
    rcases calls.stopServiceHandle_cases record with
      ⟨error, hstop, hfault⟩ | ⟨error, hstop, hstate, hwait⟩ | hstop
    · exact .inl ⟨error, hstop, .inr (hfault.mono (by simp))⟩
    · exact .inr (.inl ⟨error, hstop, howned, hstate, hwait⟩)
    · exact .inr (.inr ⟨hstop, howned⟩)

/-- The last part of an installation of the service. -/
theorem configureAndStart_cases (calls : ServiceCalls) (record : ServiceRecord) :
    (∃ error, calls.configureAndStart record = (.error error, record) ∧
      calls.FaultAt [.description, .delayedAutoStart, .failureActions, .failureActionsFlag,
        .start]) ∨
    (∃ error, calls.configureAndStart record =
        (.error error, { record with state := calls.startWait.2 }) ∧
      calls.startWait.1 = .error error) ∨
    calls.configureAndStart record = (.ok (), { record with state := .running }) := by
  rw [configureAndStart]
  cases hconfigure : calls.configureService with
  | error error =>
    have hfault := attempt_error hconfigure
    exact .inl ⟨error, rfl, hfault.mono (by simp)⟩
  | ok =>
    cases hstart : calls.startService with
    | error error =>
      left
      refine ⟨error, rfl, ?_⟩
      rw [startService] at hstart
      split at hstart
      · cases hstart
      · have hfault := attempt_error hstart
        exact hfault.mono (by simp)
    | ok =>
      right
      cases hwait : calls.startWait.1 with
      | error error =>
        left
        exact ⟨error, Prod.ext hwait rfl, rfl⟩
      | ok =>
        right
        have hsettled : calls.startWait.2 = .running := waitForServiceState_settled hwait
        apply Prod.ext
        · exact hwait
        · show ({ record with state := calls.startWait.2 } : ServiceRecord) = _
          rw [hsettled]

/-- A service that is not there is created, or the run leaves none behind. -/
theorem installOrUpdateService_none (calls : ServiceCalls) (root : InstallRoot) :
    (∃ error, calls.installOrUpdateService root none = ⟨.error error, false, none⟩ ∧
      calls.FaultAt [.openManager, .openService, .create]) ∨
    (∃ error state, calls.installOrUpdateService root none =
        ⟨.error error, true, some { ServiceRecord.new root with state := state }⟩ ∧
      (calls.FaultAt [.description, .delayedAutoStart, .failureActions, .failureActionsFlag,
        .start] ∨ calls.startWait.1 = .error error)) ∨
    calls.installOrUpdateService root none =
      ⟨.ok (), true, some { ServiceRecord.new root with state := .running }⟩ := by
  simp only [installOrUpdateService]
  cases hopen : calls.attempt [.openManager, .openService] with
  | error error =>
    have hfault := attempt_error hopen
    exact .inl ⟨error, rfl, hfault.mono (by simp)⟩
  | ok =>
    cases hcreate : calls.attempt [.create] with
    | error error =>
      have hfault := attempt_error hcreate
      exact .inl ⟨error, rfl, hfault.mono (by simp)⟩
    | ok =>
      right
      rcases calls.configureAndStart_cases (.new root) with
        ⟨error, hresult, hfault⟩ | ⟨error, hresult, hwait⟩ | hresult
      · left
        exact ⟨error, .stopped, by simp only [hresult]; rfl, .inl hfault⟩
      · left
        exact ⟨error, calls.startWait.2, by simp only [hresult], .inr hwait⟩
      · right
        simp only [hresult]

/-- A service that is there is left alone, stopped, or updated, up to the call that fails. -/
theorem installOrUpdateService_some (calls : ServiceCalls) (root : InstallRoot)
    (record : ServiceRecord) :
    (∃ error, calls.installOrUpdateService root (some record) =
        ⟨.error error, false, some record⟩ ∧ (record.owned = false ∨
      calls.FaultAt [.openManager, .openService, .queryConfig, .queryStatus, .control])) ∨
    (∃ error, calls.installOrUpdateService root (some record) =
        ⟨.error error, false, some { record with state := calls.stopWait.2 }⟩ ∧
      record.owned = true ∧ record.state ≠ .stopped ∧ calls.stopWait.1 = .error error) ∨
    (∃ error, calls.installOrUpdateService root (some record) =
        ⟨.error error, false, some { record with state := .stopped }⟩ ∧
      record.owned = true ∧ calls.FaultAt [.changeConfig]) ∨
    (∃ error, calls.installOrUpdateService root (some record) =
        ⟨.error error, false, some { record.update root with state := .stopped }⟩ ∧
      record.owned = true ∧
      calls.FaultAt [.description, .delayedAutoStart, .failureActions, .failureActionsFlag,
        .start]) ∨
    (∃ error, calls.installOrUpdateService root (some record) =
        ⟨.error error, false, some { record.update root with state := calls.startWait.2 }⟩ ∧
      record.owned = true ∧ calls.startWait.1 = .error error) ∨
    (calls.installOrUpdateService root (some record) =
        ⟨.ok (), false, some { record.update root with state := .running }⟩ ∧
      record.owned = true) := by
  simp only [installOrUpdateService]
  cases hopen : calls.attempt [.openManager, .openService] with
  | error error =>
    have hfault := attempt_error hopen
    exact .inl ⟨error, rfl, .inr (hfault.mono (by simp))⟩
  | ok =>
    rcases calls.stopOwned_cases record with
      ⟨error, hstop, hreason⟩ | ⟨error, hstop, hreason⟩ | ⟨hstop, howned⟩
    · left
      refine ⟨error, by simp only [hstop], ?_⟩
      exact hreason.imp_right fun hfault => hfault.mono (by simp)
    · right
      left
      exact ⟨error, by simp only [hstop], hreason⟩
    · right
      right
      cases hchange : calls.attempt [.changeConfig] with
      | error error =>
        left
        exact ⟨error, by simp only [hstop], howned, attempt_error hchange⟩
      | ok =>
        right
        rcases calls.configureAndStart_cases ({ record with state := .stopped }.update root) with
          ⟨error, hresult, hfault⟩ | ⟨error, hresult, hwait⟩ | hresult
        · left
          exact ⟨error, by simp only [hstop, hresult]; rfl, howned, hfault⟩
        · right
          left
          exact ⟨error, by simp only [hstop, hresult]; rfl, howned, hwait⟩
        · right
          right
          exact ⟨by simp only [hstop, hresult]; rfl, howned⟩

/-- The service after a deletion: gone, or the same one in some state. -/
theorem deleteOwnedService_cases (calls : ServiceCalls) (service : Option ServiceRecord) :
    (calls.deleteOwnedService service).2 = none ∨
    ∃ error record state, calls.deleteOwnedService service =
        (.error error, some { record with state := state }) ∧ service = some record := by
  cases service with
  | none =>
    left
    simp only [deleteOwnedService]
    cases calls.attempt [.openManager, .openService] <;> rfl
  | some record =>
    simp only [deleteOwnedService]
    cases hopen : calls.attempt [.openManager, .openService] with
    | error error => exact .inr ⟨error, record, record.state, rfl, rfl⟩
    | ok =>
      rcases calls.stopOwned_cases record with
        ⟨error, hstop, -⟩ | ⟨error, hstop, -⟩ | ⟨hstop, -⟩
      · exact .inr ⟨error, record, record.state, by simp only [hstop], rfl⟩
      · exact .inr ⟨error, record, calls.stopWait.2, by simp only [hstop], rfl⟩
      · simp only [hstop]
        split
        · exact .inl rfl
        · cases hdelete : calls.attempt [.delete] with
          | error error => exact .inr ⟨error, record, .stopped, rfl, rfl⟩
          | ok => exact .inl rfl

/-- Without a fault an owned service is stopped. -/
theorem stopOwned_ok (hfault : ∀ site, calls.fault site = none) (hwait : calls.stopWait.1 = .ok ())
    {record : ServiceRecord} (howned : record.owned = true) :
    calls.stopOwned record = (.ok (), { record with state := .stopped }) := by
  have hnone : ∀ sites, ¬calls.FaultAt sites := by
    rintro sites ⟨site, -, code, hcode⟩
    rw [hfault site] at hcode
    cases hcode
  rcases calls.stopOwned_cases record with ⟨error, -, hreason⟩ | ⟨error, -, -, -, hfails⟩ | ⟨hstop, -⟩
  · rcases hreason with hother | hat
    · rw [howned] at hother
      cases hother
    · exact absurd hat (hnone _)
  · rw [hwait] at hfails
    cases hfails
  · exact hstop

/-- Without a fault an owned service is deleted. -/
theorem deleteOwnedService_ok (hfault : ∀ site, calls.fault site = none)
    (hwait : calls.stopWait.1 = .ok ()) {service : Option ServiceRecord}
    (howned : ∀ record, service = some record → record.owned = true) :
    calls.deleteOwnedService service = (.ok (), none) := by
  have hopen : calls.attempt [.openManager, .openService] = .ok () :=
    attempt_ok fun site _ => hfault site
  have hdelete : calls.attempt [.delete] = .ok () := attempt_ok fun site _ => hfault site
  cases service with
  | none => simp only [deleteOwnedService, hopen]
  | some record =>
    have hstop := stopOwned_ok hfault hwait (howned record rfl)
    simp only [deleteOwnedService, hopen, hstop, hdelete, ite_self]

/-- Without a fault an owned service is stopped for its replacement. -/
theorem prepareExistingService_ok (hfault : ∀ site, calls.fault site = none)
    (hwait : calls.stopWait.1 = .ok ()) {record : ServiceRecord} (howned : record.owned = true) :
    calls.prepareExistingService (some record) =
      (.ok (), some { record with state := .stopped }) := by
  have hopen : calls.attempt [.openManager, .openService] = .ok () :=
    attempt_ok fun site _ => hfault site
  have hstop := stopOwned_ok hfault hwait howned
  simp only [prepareExistingService, hopen, hstop]

end ServiceCalls

end LadoFlow.Windows
