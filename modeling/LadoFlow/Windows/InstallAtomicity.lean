import LadoFlow.Windows.Install
import LadoFlow.Windows.ServiceSteps
import Mathlib.Algebra.Order.BigOperators.Group.List

/-!
# What a failed install leaves behind

The driver store is always rolled back, and so is a service that the run created. A service that was
there before the run keeps its new command and stays stopped, and the registry keeps the values
written before the call that failed. The condition under which nothing of this shows is exact.
-/

namespace LadoFlow.Windows

open Framework

namespace InstallRun

variable (run : InstallRun)

/-- A check of the helper stops the run before it changes anything. -/
def Refused (machine : Machine) : Prop :=
  run.elevated = false ∨ validateInf run.inf ≠ .ok () ∨
    isStrictPublishedInfName (run.setupCopyOemInf machine.store).1.publishedName = false ∨
    ∃ service, machine.service = some service ∧ service.owned = false

/-- There is no service, or it is stopped and has the command of the run already. -/
def KeepsService (machine : Machine) : Prop :=
  ∀ service, machine.service = some service →
    service.state = .stopped ∧ service.command = run.root.command

/-- What the run writes before the call is in the registry already. -/
def KeepsRegistry (registry : Option RegistryTree) : InstallCall → Prop
  | .setSchemaVersion => ∃ tree, registry = some tree
  | .setInstallRoot => ∃ tree, registry = some tree ∧ tree.schemaVersion = some 1
  | .createDriversKey =>
    ∃ tree, registry = some tree ∧ tree.schemaVersion = some 1 ∧
      tree.installRoot = some run.root.path
  | .createPackageKey | .setInfSha256 =>
    ∃ tree keys, registry = some tree ∧ tree.schemaVersion = some 1 ∧
      tree.installRoot = some run.root.path ∧ tree.drivers = some keys
  | _ => True

def CallUndone (machine : Machine) : InstallCall → Prop
  | .service .changeConfig => ∀ service, machine.service = some service → service.state = .stopped
  | .service .description | .service .delayedAutoStart | .service .failureActions
  | .service .failureActionsFlag | .service .start => run.KeepsService machine
  | .createRootKey => run.KeepsService machine ∧ run.KeepsRegistry machine.registry .createRootKey
  | .setSchemaVersion =>
    run.KeepsService machine ∧ run.KeepsRegistry machine.registry .setSchemaVersion
  | .setInstallRoot => run.KeepsService machine ∧ run.KeepsRegistry machine.registry .setInstallRoot
  | .createDriversKey =>
    run.KeepsService machine ∧ run.KeepsRegistry machine.registry .createDriversKey
  | .createPackageKey =>
    run.KeepsService machine ∧ run.KeepsRegistry machine.registry .createPackageKey
  | .setInfSha256 => run.KeepsService machine ∧ run.KeepsRegistry machine.registry .setInfSha256
  | _ => True

/-- The rollback after the call that fails, or the wait that gives up, is complete. -/
def Undone (machine : Machine) : Prop :=
  match run.failure with
  | .none => True
  | .call site _ => run.CallUndone machine site
  | .waitStopped wait => ∀ service, machine.service = some service → wait.final = service.state
  | .waitRunning wait =>
    ∀ service, machine.service = some service →
      service.command = run.root.command ∧ wait.final = service.state

variable {run}

/-! ## Where a failure comes from -/

theorem attempt_error {site : InstallCall} {error : Win32Error}
    (h : run.attempt site = .error error) : ∃ code, run.failure = .call site code := by
  rw [attempt] at h
  split at h
  · rename_i failing code hfailure
    split at h
    · rename_i hsite
      rw [hsite] at hfailure
      exact ⟨code, hfailure⟩
    · cases h
  · cases h

theorem calls_faultAt {sites : List ServiceCall} (h : run.calls.FaultAt sites) :
    ∃ site ∈ sites, ∃ code, run.failure = .call (.service site) code := by
  obtain ⟨site, hmem, code, hfault⟩ := h
  simp only [calls] at hfault
  split at hfault
  · rename_i failing failingCode hfailure
    split at hfault
    · rename_i hsite
      subst hsite
      exact ⟨failing, hmem, failingCode, hfailure⟩
    · cases hfault
  · cases hfault

theorem stopWait_error {error : Win32Error} (h : run.calls.stopWait.1 = .error error) :
    ∃ wait, run.failure = .waitStopped wait ∧ run.calls.stopWait.2 = wait.final := by
  cases hfailure : run.failure with
  | waitStopped wait =>
    refine ⟨wait, rfl, ?_⟩
    simp only [ServiceCalls.stopWait, calls, hfailure, FailedWait.final]
  | none | call site code | waitRunning wait =>
    have hsettles := run.stopping.settles
    simp only [ServiceCalls.stopWait, calls, hfailure] at h
    rw [hsettles] at h
    cases h

theorem startWait_error {error : Win32Error} (h : run.calls.startWait.1 = .error error) :
    ∃ wait, run.failure = .waitRunning wait ∧ run.calls.startWait.2 = wait.final := by
  cases hfailure : run.failure with
  | waitRunning wait =>
    refine ⟨wait, rfl, ?_⟩
    simp only [ServiceCalls.startWait, calls, hfailure, FailedWait.final]
  | none | call site code | waitStopped wait =>
    have hsettles := run.starting.settles
    simp only [ServiceCalls.startWait, calls, hfailure] at h
    rw [hsettles] at h
    cases h

/-! ## The checks and the driver package -/

theorem precheck_cases (run : InstallRun) :
    (∃ report, run.precheck = .error report ∧ report.success = false ∧
      (run.elevated = false ∨ validateInf run.inf ≠ .ok () ∨
        ∃ site ∈ [.openProcessToken, .tokenInformation, .supportedHost, .payload],
          ∃ code, run.failure = .call site code)) ∨
    (run.precheck = .ok () ∧ run.elevated = true ∧ validateInf run.inf = .ok ()) := by
  rw [precheck]
  cases htoken : run.attempt .openProcessToken with
  | error error => exact .inl ⟨_, rfl, rfl, .inr (.inr ⟨_, by simp, attempt_error htoken⟩)⟩
  | ok =>
    cases hinformation : run.attempt .tokenInformation with
    | error error => exact .inl ⟨_, rfl, rfl, .inr (.inr ⟨_, by simp, attempt_error hinformation⟩)⟩
    | ok =>
      cases helevated : run.elevated with
      | false => exact .inl ⟨_, rfl, rfl, .inl rfl⟩
      | true =>
        cases hhost : run.attempt .supportedHost with
        | error error => exact .inl ⟨_, rfl, rfl, .inr (.inr ⟨_, by simp, attempt_error hhost⟩)⟩
        | ok =>
          cases hpayload : run.attempt .payload with
          | error error =>
            exact .inl ⟨_, rfl, rfl, .inr (.inr ⟨_, by simp, attempt_error hpayload⟩)⟩
          | ok =>
            cases hinf : validateInf run.inf with
            | error error => exact .inl ⟨_, rfl, rfl, .inr (.inl nofun)⟩
            | ok => exact .inr ⟨rfl, rfl, rfl⟩

/-- A copied package has the bytes of the payload, whether it was there or not. -/
theorem installedInf_setupCopyOemInf (store : DriverStore) :
    ∃ package, (run.setupCopyOemInf store).2.installedInf
        (run.setupCopyOemInf store).1.publishedName = some package ∧ package.inf = run.inf := by
  rw [setupCopyOemInf]
  split
  · rename_i package hfound
    have hmem := List.mem_of_find?_eq_some hfound
    have hinf := List.find?_some hfound
    exact ⟨package, DriverStore.installedInf_of_mem hmem rfl, of_decide_eq_true hinf⟩
  · refine ⟨⟨run.naming.next store, run.inf⟩, ?_, rfl⟩
    apply DriverStore.installedInf_of_mem
    · simp [DriverStore.publish]
    · rfl

/-- Rolling back what was copied gives the store as it was. -/
theorem rollBack_setupCopyOemInf (store : DriverStore) {driver : DriverInstallResult}
    (hcopied : driver.newlyCopied = (run.setupCopyOemInf store).1.newlyCopied)
    (hname : driver.publishedName = (run.setupCopyOemInf store).1.publishedName) :
    rollBackNewDriver driver (run.setupCopyOemInf store).2 = store := by
  rw [rollBackNewDriver, hcopied, hname, setupCopyOemInf]
  split
  · exact if_pos (.inl rfl)
  · have hkeep : ¬(true = false ∨ run.naming.next store = []) := by
      simp [run.naming.named store]
    exact (if_neg hkeep).trans (store.remove_publish run.naming run.inf)

section Hash

variable (sha256 : Bytes → Digest)

/-- The checks of a package just copied: only a name or a failing call stops them. -/
theorem checkPublished_cases (store : DriverStore) (hinf : validateInf run.inf = .ok ()) :
    (∃ error, run.checkPublished sha256 (run.setupCopyOemInf store).1
        (run.setupCopyOemInf store).2 = .error error ∧
      (isStrictPublishedInfName (run.setupCopyOemInf store).1.publishedName = false ∨
        ∃ site ∈ [.readPublishedInf, .hashSource, .hashPublished],
          ∃ code, run.failure = .call site code)) ∨
    (run.checkPublished sha256 (run.setupCopyOemInf store).1 (run.setupCopyOemInf store).2 =
        .ok (sha256 run.inf) ∧
      isStrictPublishedInfName (run.setupCopyOemInf store).1.publishedName = true) := by
  rw [checkPublished]
  cases hstrict : isStrictPublishedInfName (run.setupCopyOemInf store).1.publishedName with
  | false => exact .inl ⟨_, rfl, .inl rfl⟩
  | true =>
    cases hread : run.attempt .readPublishedInf with
    | error error => exact .inl ⟨_, rfl, .inr ⟨_, by simp, attempt_error hread⟩⟩
    | ok =>
      obtain ⟨package, hfound, hbytes⟩ := run.installedInf_setupCopyOemInf store
      cases hsource : run.attempt .hashSource with
      | error error =>
        refine .inl ⟨error, ?_, .inr ⟨_, by simp, attempt_error hsource⟩⟩
        simp only [hfound, hbytes, hinf]
        rfl
      | ok =>
        cases hpublished : run.attempt .hashPublished with
        | error error =>
          refine .inl ⟨error, ?_, .inr ⟨_, by simp, attempt_error hpublished⟩⟩
          simp only [hfound, hbytes, hinf, hashInf_ok hinf]
          rfl
        | ok =>
          right
          refine ⟨?_, rfl⟩
          simp only [hfound, hbytes, hinf, hashInf_ok hinf]
          show (if sha256 run.inf ≠ sha256 run.inf then _ else _) = _
          rw [if_neg (by simp)]

/-- The driver package: a failure has a cause of its own and is rolled back; else the package is
in the store with the bytes of the payload. -/
theorem installDriverPackage_cases (store : DriverStore) (hinf : validateInf run.inf = .ok ()) :
    (∃ error, (run.installDriverPackage sha256 store).result = .error error ∧
      (isStrictPublishedInfName (run.setupCopyOemInf store).1.publishedName = false ∨
        ∃ site ∈ [.copyOemInf, .readPublishedInf, .hashSource, .hashPublished, .installDriver],
          ∃ code, run.failure = .call site code)) ∨
    (run.installDriverPackage sha256 store =
        ⟨.ok (), { (run.setupCopyOemInf store).1 with
            infHash := sha256 run.inf, rebootRequired := run.reboot },
          (run.setupCopyOemInf store).2⟩ ∧
      isStrictPublishedInfName (run.setupCopyOemInf store).1.publishedName = true) := by
  rw [installDriverPackage]
  cases hcopy : run.attempt .copyOemInf with
  | error error => exact .inl ⟨error, rfl, .inr ⟨_, by simp, attempt_error hcopy⟩⟩
  | ok =>
    rcases run.checkPublished_cases sha256 store hinf with
      ⟨error, hcheck, hreason⟩ | ⟨hcheck, hstrict⟩
    · simp only [hcheck]
      refine .inl ⟨error, rfl, hreason.imp_right ?_⟩
      rintro ⟨site, hmem, hcode⟩
      exact ⟨site, by grind, hcode⟩
    · simp only [hcheck]
      cases hinstall : run.attempt .installDriver with
      | error error => exact .inl ⟨error, rfl, .inr ⟨_, by simp, attempt_error hinstall⟩⟩
      | ok => exact .inr ⟨rfl, hstrict⟩

/-- Whatever stops it, the driver package reports what it copied. -/
theorem installDriverPackage_driver (run : InstallRun) (store : DriverStore) :
    ((run.installDriverPackage sha256 store).driver = .empty ∧
      (run.installDriverPackage sha256 store).store = store) ∨
    ((run.installDriverPackage sha256 store).driver.newlyCopied =
        (run.setupCopyOemInf store).1.newlyCopied ∧
      (run.installDriverPackage sha256 store).driver.publishedName =
        (run.setupCopyOemInf store).1.publishedName ∧
      (run.installDriverPackage sha256 store).store = (run.setupCopyOemInf store).2) := by
  rw [installDriverPackage]
  cases run.attempt .copyOemInf with
  | error error => exact .inl ⟨rfl, rfl⟩
  | ok =>
    right
    cases hcheck : run.checkPublished sha256 (run.setupCopyOemInf store).1
        (run.setupCopyOemInf store).2 with
    | error error =>
      simp only [hcheck]
      exact ⟨trivial, trivial, trivial⟩
    | ok infHash =>
      simp only [hcheck]
      cases run.attempt .installDriver with
      | error error => exact ⟨rfl, rfl, rfl⟩
      | ok => exact ⟨rfl, rfl, rfl⟩

theorem rollBack_installDriverPackage (store : DriverStore) :
    rollBackNewDriver (run.installDriverPackage sha256 store).driver
      (run.installDriverPackage sha256 store).store = store := by
  rcases run.installDriverPackage_driver sha256 store with
    ⟨hempty, hsame⟩ | ⟨hcopied, hname, hstore⟩
  · rw [hempty, hsame]
    exact if_pos (.inl rfl)
  · rw [hstore]
    exact rollBack_setupCopyOemInf store hcopied hname

end Hash

/-! ## The registry -/

theorem ensureKey_filter (name : WString) (keys : List DriverKey) :
    (if (ensureKey name keys).1 then (ensureKey name keys).2.filter (·.name ≠ name)
      else (ensureKey name keys).2) = keys := by
  rw [ensureKey]
  split
  · rfl
  · rename_i hnew
    have hkeep : keys.filter (·.name ≠ name) = keys := by
      apply List.filter_eq_self.mpr
      intro key hkey
      apply decide_eq_true
      intro hname
      exact hnew (List.any_eq_true.mpr ⟨key, hkey, decide_eq_true hname⟩)
    simp only [if_true, List.filter_append, hkeep]
    simp

/-- A record that fails leaves the registry as it was when it held the values written so far. -/
theorem recordDriverPackage_cases (run : InstallRun) (driver : DriverInstallResult)
    (registry : Option RegistryTree)
    (hstrict : isStrictPublishedInfName driver.publishedName = true) :
    (∃ error, (run.recordDriverPackage driver registry).1 = .error error ∧
      ∃ site ∈ [.createRootKey, .setSchemaVersion, .setInstallRoot, .createDriversKey,
          .createPackageKey, .setInfSha256],
        (∃ code, run.failure = .call site code) ∧
        ((run.recordDriverPackage driver registry).2 = registry ↔
          run.KeepsRegistry registry site)) ∨
    (run.recordDriverPackage driver registry).1 = .ok () := by
  rw [recordDriverPackage, hstrict]
  cases hroot : run.attempt .createRootKey with
  | error error =>
    exact .inl ⟨error, rfl, _, by simp, attempt_error hroot, by simp [KeepsRegistry]⟩
  | ok =>
    cases hschema : run.attempt .setSchemaVersion with
    | error error =>
      refine .inl ⟨error, rfl, _, by simp, attempt_error hschema, ?_⟩
      cases registry <;> simp [KeepsRegistry]
    | ok =>
      cases hinstall : run.attempt .setInstallRoot with
      | error error =>
        refine .inl ⟨error, rfl, _, by simp, attempt_error hinstall, ?_⟩
        rcases registry with _ | ⟨schema, install, drivers⟩ <;> simp [KeepsRegistry, eq_comm]
      | ok =>
        cases hdrivers : run.attempt .createDriversKey with
        | error error =>
          refine .inl ⟨error, rfl, _, by simp, attempt_error hdrivers, ?_⟩
          rcases registry with _ | ⟨schema, install, drivers⟩ <;> simp [KeepsRegistry, eq_comm]
        | ok =>
          cases hpackage : run.attempt .createPackageKey with
          | error error =>
            refine .inl ⟨error, rfl, _, by simp, attempt_error hpackage, ?_⟩
            rcases registry with _ | ⟨schema, install, _ | keys⟩ <;> simp [KeepsRegistry, eq_comm]
          | ok =>
            cases hhash : run.attempt .setInfSha256 with
            | error error =>
              refine .inl ⟨error, rfl, _, by simp, attempt_error hhash, ?_⟩
              simp only [ensureKey_filter]
              rcases registry with _ | ⟨schema, install, _ | keys⟩ <;> simp [KeepsRegistry, eq_comm]
            | ok => exact .inr rfl

/-! ## The service -/

/-- A failing call at one of the sites is undone when it is undone at each of them. -/
theorem undone_of_call {sites : List InstallCall}
    (h : ∃ site ∈ sites, ∃ code, run.failure = .call site code) {machine : Machine}
    (hsites : ∀ site ∈ sites, run.CallUndone machine site) : run.Undone machine := by
  obtain ⟨site, hmem, code, hfailure⟩ := h
  rw [Undone, hfailure]
  exact hsites site hmem

theorem undone_of_faultAt {sites : List ServiceCall} (h : run.calls.FaultAt sites)
    {machine : Machine} (hsites : ∀ site ∈ sites, run.CallUndone machine (.service site)) :
    run.Undone machine := by
  obtain ⟨site, hmem, hcode⟩ := calls_faultAt h
  apply undone_of_call ⟨_, List.mem_map_of_mem hmem, hcode⟩
  simpa using hsites

theorem undone_call {site : InstallCall} {code : UInt32} (h : run.failure = .call site code)
    (machine : Machine) : run.Undone machine ↔ run.CallUndone machine site := by
  rw [Undone, h]

theorem undone_waitStopped {wait : FailedWait .stopped} (h : run.failure = .waitStopped wait)
    (machine : Machine) : run.Undone machine ↔
      ∀ service, machine.service = some service → wait.final = service.state := by
  rw [Undone, h]

theorem undone_waitRunning {wait : FailedWait .running} (h : run.failure = .waitRunning wait)
    (machine : Machine) : run.Undone machine ↔
      ∀ service, machine.service = some service →
        service.command = run.root.command ∧ wait.final = service.state := by
  rw [Undone, h]

/-- A failing call of the last part of the installation needs the service kept. -/
theorem undone_faultAt (h : run.calls.FaultAt [.description, .delayedAutoStart, .failureActions,
    .failureActionsFlag, .start]) (machine : Machine) :
    run.Undone machine ↔ run.KeepsService machine := by
  obtain ⟨site, hmem, code, hfailure⟩ := calls_faultAt h
  rw [undone_call hfailure]
  simp only [List.mem_cons, List.not_mem_nil, or_false] at hmem
  rcases hmem with rfl | rfl | rfl | rfl | rfl <;> exact Iff.rfl

theorem rollBackNewService_new (root : InstallRoot) (state : ServiceState) :
    rollBackNewService true (some { ServiceRecord.new root with state := state }) = none := by
  have howned : ∀ record, some { ServiceRecord.new root with state := state } = some record →
      record.owned = true := by
    rintro record ⟨⟩
    exact ServiceRecord.new_owned root
  have hdeleted := @ServiceCalls.deleteOwnedService_ok .succeeding (fun _ => rfl) rfl _ howned
  rw [rollBackNewService, hdeleted]
  rfl

theorem keepsService_of_none {machine : Machine} (h : machine.service = none) :
    run.KeepsService machine := by
  intro service hsome
  rw [h] at hsome
  cases hsome

theorem keepsService_some {machine : Machine} {record : ServiceRecord}
    (h : machine.service = some record) : run.KeepsService machine ↔
      record.command = run.root.command ∧ ServiceState.stopped = record.state := by
  simp [KeepsService, h, and_comm, eq_comm]

/-- A failed creation of the service leaves none behind. -/
theorem rolledBack_of_none {machine : Machine} (hservice : machine.service = none)
    {error : Win32Error}
    (h : (run.calls.installOrUpdateService run.root none).result = .error error) :
    rollBackNewService (run.calls.installOrUpdateService run.root none).created
        (run.calls.installOrUpdateService run.root none).service = none ∧ run.Undone machine := by
  rcases run.calls.installOrUpdateService_none run.root with
    ⟨_, hresult, hfault⟩ | ⟨_, state, hresult, hreason⟩ | hresult
  · rw [hresult]
    refine ⟨rfl, undone_of_faultAt hfault ?_⟩
    simp [CallUndone]
  · rw [hresult]
    refine ⟨rollBackNewService_new run.root state, ?_⟩
    rcases hreason with hfault | hwait
    · exact (undone_faultAt hfault machine).mpr (keepsService_of_none hservice)
    · obtain ⟨wait, hfailure, -⟩ := startWait_error hwait
      apply (undone_waitRunning hfailure machine).mpr
      intro service hsome
      rw [hservice] at hsome
      cases hsome
  · rw [hresult] at h
    cases h

/-- A failed upgrade gives the service back when it is another product's, or undone. -/
theorem rolledBack_of_some {machine : Machine} {record : ServiceRecord}
    (hservice : machine.service = some record) {error : Win32Error}
    (h : (run.calls.installOrUpdateService run.root (some record)).result = .error error) :
    rollBackNewService (run.calls.installOrUpdateService run.root (some record)).created
        (run.calls.installOrUpdateService run.root (some record)).service = some record ↔
      record.owned = false ∨ run.Undone machine := by
  have hforeign : record.owned = true → ¬record.owned = false := by
    intro howned
    simp [howned]
  rcases run.calls.installOrUpdateService_some run.root record with
    ⟨_, hresult, hreason⟩ | ⟨_, hresult, howned, -, hwait⟩ | ⟨_, hresult, howned, hfault⟩ |
      ⟨_, hresult, howned, hfault⟩ | ⟨_, hresult, howned, hwait⟩ | ⟨hresult, -⟩
  · rw [hresult]
    refine ⟨fun _ => ?_, fun _ => rfl⟩
    apply hreason.imp_right
    intro hfault
    apply undone_of_faultAt hfault
    simp [CallUndone]
  · obtain ⟨wait, hfailure, hfinal⟩ := stopWait_error hwait
    rw [or_iff_right (hforeign howned), undone_waitStopped hfailure, hresult, hservice, hfinal]
    simp [rollBackNewService, ServiceRecord.with_state_eq_iff]
  · obtain ⟨site, hmem, code, hfailure⟩ := calls_faultAt hfault
    rw [List.mem_singleton.mp hmem] at hfailure
    rw [or_iff_right (hforeign howned), undone_call hfailure, hresult, CallUndone, hservice]
    have hstopped : ServiceState.stopped = record.state ↔ record.state = .stopped := eq_comm
    simp [rollBackNewService, ServiceRecord.with_state_eq_iff, hstopped]
  · rw [or_iff_right (hforeign howned), undone_faultAt hfault, hresult, keepsService_some hservice]
    simp [rollBackNewService, ServiceRecord.update_eq_iff howned]
  · obtain ⟨wait, hfailure, hfinal⟩ := startWait_error hwait
    rw [or_iff_right (hforeign howned), undone_waitRunning hfailure, hresult, hservice, hfinal]
    simp [rollBackNewService, ServiceRecord.update_eq_iff howned]
  · rw [hresult] at h
    cases h

/-- After a failed installation of the service and its rollback. -/
theorem rolledBack_service_iff {machine : Machine} {error : Win32Error}
    (h : (run.calls.installOrUpdateService run.root machine.service).result = .error error) :
    rollBackNewService (run.calls.installOrUpdateService run.root machine.service).created
        (run.calls.installOrUpdateService run.root machine.service).service = machine.service ↔
    (∃ service, machine.service = some service ∧ service.owned = false) ∨ run.Undone machine := by
  cases hservice : machine.service with
  | none =>
    rw [hservice] at h
    obtain ⟨hnone, hundone⟩ := rolledBack_of_none hservice h
    simp [hnone, hundone]
  | some record =>
    rw [hservice] at h
    rw [rolledBack_of_some hservice h]
    simp

/-- After a failed record and the rollback of the service. -/
theorem stopped_service_iff {machine : Machine}
    (h : (run.calls.installOrUpdateService run.root machine.service).result = .ok ()) :
    (rollBackNewService (run.calls.installOrUpdateService run.root machine.service).created
        (ServiceCalls.succeeding.prepareExistingService
          (run.calls.installOrUpdateService run.root machine.service).service).2 =
        machine.service ↔ run.KeepsService machine) ∧
    ∀ service, machine.service = some service → service.owned = true := by
  have hprepare : ∀ record : ServiceRecord, record.owned = true →
      ServiceCalls.succeeding.prepareExistingService (some record) =
        (.ok (), some { record with state := .stopped }) := by
    intro record howned
    exact ServiceCalls.prepareExistingService_ok (fun _ => rfl) rfl howned
  cases hservice : machine.service with
  | none =>
    rw [hservice] at h
    refine ⟨?_, nofun⟩
    rcases run.calls.installOrUpdateService_none run.root with
      ⟨_, hresult, -⟩ | ⟨_, _, hresult, -⟩ | hresult
    · rw [hresult] at h
      cases h
    · rw [hresult] at h
      cases h
    · have howned : { ServiceRecord.new run.root with state := .running }.owned = true :=
        ServiceRecord.new_owned run.root
      have hkept := @keepsService_of_none run machine hservice
      simp [hresult, hprepare _ howned, rollBackNewService_new run.root .stopped, hkept]
  | some record =>
    rw [hservice] at h
    rcases run.calls.installOrUpdateService_some run.root record with
      ⟨_, hresult, -⟩ | ⟨_, hresult, -⟩ | ⟨_, hresult, -⟩ | ⟨_, hresult, -⟩ | ⟨_, hresult, -⟩ |
        ⟨hresult, howned⟩
    iterate 5
      · rw [hresult] at h
        cases h
    · have hupdated : { record.update run.root with state := .running }.owned = true :=
        ServiceRecord.update_owned howned run.root
      have hsame := ServiceRecord.update_eq_iff howned run.root .stopped
      refine ⟨?_, by rintro service ⟨⟩; exact howned⟩
      rw [hresult, keepsService_some hservice, hprepare _ hupdated]
      simp [rollBackNewService, hsame]

end InstallRun

open InstallRun in
/-- A failed install leaves the machine as it was exactly when it was refused or undone. -/
theorem failed_install_restores_iff (sha256 : Bytes → Digest) (run : InstallRun) (machine : Machine)
    (hfailed : (runInstall sha256 run machine).1.success = false) :
    (runInstall sha256 run machine).2 = machine ↔ run.Refused machine ∨ run.Undone machine := by
  have hstore := run.rollBack_installDriverPackage sha256 machine.store
  rw [runInstall] at hfailed ⊢
  rcases run.precheck_cases with ⟨report, hcheck, -, hreason⟩ | ⟨hcheck, helevated, hinf⟩
  · simp only [hcheck, true_iff]
    rcases hreason with hplain | hinvalid | hcall
    · exact .inl (.inl hplain)
    · exact .inl (.inr (.inl hinvalid))
    · exact .inr (undone_of_call hcall (by simp [CallUndone]))
  simp only [hcheck] at hfailed ⊢
  rcases run.installDriverPackage_cases sha256 machine.store hinf with
    ⟨error, hdriver, hreason⟩ | ⟨hdriver, hstrict⟩
  · simp only [hdriver, hstore, true_iff]
    rcases hreason with hname | hcall
    · exact .inl (.inr (.inr (.inl hname)))
    · exact .inr (undone_of_call hcall (by simp [CallUndone]))
  rw [hdriver] at hstore
  have hrefused : run.Refused machine ↔
      ∃ service, machine.service = some service ∧ service.owned = false := by
    simp [Refused, helevated, hinf, hstrict]
  simp only [hdriver] at hfailed ⊢
  cases hservice : (run.calls.installOrUpdateService run.root machine.service).result with
  | error error =>
    simp only [hstore]
    rw [hrefused, ← rolledBack_service_iff hservice]
    cases machine
    simp
  | ok =>
    obtain ⟨hkept, howned⟩ := stopped_service_iff hservice
    rcases run.recordDriverPackage_cases { (run.setupCopyOemInf machine.store).1 with
        infHash := sha256 run.inf, rebootRequired := run.reboot } machine.registry hstrict with
      ⟨error, hrecord, site, hmem, ⟨code, hfailure⟩, hregistry⟩ | hrecord
    · have hundone : run.Undone machine ↔
          run.KeepsService machine ∧ run.KeepsRegistry machine.registry site := by
        rw [undone_call hfailure]
        simp only [List.mem_cons, List.not_mem_nil, or_false] at hmem
        rcases hmem with rfl | rfl | rfl | rfl | rfl | rfl <;> exact Iff.rfl
      have hnone : ¬run.Refused machine := by
        rw [hrefused]
        rintro ⟨service, hsome, hother⟩
        rw [howned service hsome] at hother
        cases hother
      simp only [hrecord, hstore]
      rw [or_iff_right hnone, hundone, ← hkept, ← hregistry]
      cases machine
      simp
    · simp only [hservice, hrecord] at hfailed
      cases hfailed

/-! ## An upgrade that fails late -/

def sampleInf : Bytes :=
  utf8Bytes ("[Version]\nSignature=\"$Windows NT$\"\n" ++
    "ClassGUID=\x7b4D36E968-E325-11CE-BFC1-08002BE10318\x7d\nClass=Display\n" ++
    "Provider=%ManufacturerName%\nCatalogFile=LadoFlowIdd.cat\n[Manufacturer]\n" ++
    "%ManufacturerName%=LadoFlow\n[LadoFlow]\n" ++
    "%DeviceName%=LadoFlowIdd_Install,LadoFlowVirtualDisplay\n" ++
    "[LadoFlowIdd_Install.NT.Wdf]\nUmdfService=LadoFlowIdd,LadoFlowIdd_Service\n" ++
    "[Strings]\nManufacturerName=\"LadoFlowProject\"\n" ++
    "DeviceName=\"LadoFlow Virtual Display\"\n")

/-- The digest of the sample file. -/
def sampleDigest : Digest :=
  ⟨[14, 110, 59, 149, 141, 34, 104, 180, 2, 124, 194, 47, 32, 156, 17, 139,
    33, 183, 87, 64, 221, 64, 171, 197, 108, 243, 66, 162, 59, 6, 42, 202], rfl⟩

def sampleRoot : InstallRoot where
  path := "C:\\Program Files\\LadoFlow".toList
  unquoted := by decide

/-- A name with more zeros than any name of the store has characters. -/
def zeroName (store : DriverStore) : WString :=
  "oem".toList ++ List.replicate ((store.packages.map (·.publishedName.length)).sum + 1) '0' ++
    ".inf".toList

theorem zeroName_ne_nil (store : DriverStore) : zeroName store ≠ [] := by
  rw [zeroName]
  exact List.append_ne_nil_of_right_ne_nil _ (by decide)

theorem zeroName_fresh (store : DriverStore) :
    ∀ package ∈ store.packages, toLower package.publishedName ≠ toLower (zeroName store) := by
  intro package hmem hsame
  have hlength : package.publishedName.length ≤
      (store.packages.map (·.publishedName.length)).sum :=
    List.single_le_sum (by simp) _ (List.mem_map_of_mem hmem)
  have hlengths := congrArg List.length hsame
  simp only [toLower, zeroName, List.length_map, List.length_append, List.length_replicate]
    at hlengths
  omega

def zeroNaming : OemNaming := ⟨zeroName, zeroName_ne_nil, zeroName_fresh⟩

/-- A run of the sample payload over a machine that answers at once. -/
def sampleRun (failure : InstallFailure) : InstallRun where
  root := sampleRoot
  inf := sampleInf
  elevated := true
  naming := zeroNaming
  reboot := false
  stopping := ⟨⟨⟨.stopped, none, none⟩, []⟩, rfl⟩
  starting := ⟨⟨⟨.running, none, none⟩, []⟩, rfl⟩
  stoppedByItself := false
  alreadyRunning := false
  failure := failure

def emptyStore : DriverStore := ⟨[], List.nodup_nil⟩

/-- A machine with the service of an earlier version running. -/
def runningMachine : Machine where
  store := emptyStore
  service := some { ServiceRecord.new sampleRoot with state := .running }
  registry := none

theorem failed_install_restores_iff_start :
    (runInstall (fun _ => sampleDigest) (sampleRun (.call (.service .start) 1053))
        runningMachine).1.success = false ∧
    ((runInstall (fun _ => sampleDigest) (sampleRun (.call (.service .start) 1053))
        runningMachine).2 = runningMachine ↔
      (sampleRun (.call (.service .start) 1053)).Refused runningMachine ∨
      (sampleRun (.call (.service .start) 1053)).Undone runningMachine) := by
  have hfailed : (runInstall (fun _ => sampleDigest) (sampleRun (.call (.service .start) 1053))
      runningMachine).1.success = false := by
    decide +kernel
  exact ⟨hfailed, failed_install_restores_iff _ _ _ hfailed⟩

/-- An upgrade that cannot start the service again leaves it stopped. -/
theorem failed_upgrade_leaves_service_stopped :
    (runInstall (fun _ => sampleDigest) (sampleRun (.call (.service .start) 1053))
        runningMachine).1.success = false ∧
    (runInstall (fun _ => sampleDigest) (sampleRun (.call (.service .start) 1053))
        runningMachine).2 ≠ runningMachine ∧
    (runInstall (fun _ => sampleDigest) (sampleRun (.call (.service .start) 1053))
        runningMachine).2.service = some { ServiceRecord.new sampleRoot with state := .stopped } := by
  decide +kernel

end LadoFlow.Windows
