import LadoFlow.Windows.InstallAtomicity
import LadoFlow.Windows.Uninstall

/-!
# Installs and uninstalls over the life of a machine

Runs follow each other in any order, each with its own failing calls. Between two runs every package
that an install has copied has its record in the driver ledger, and an uninstall whose calls succeed
removes whatever the failed ones have left.
-/

namespace LadoFlow.Windows

open Framework

/-- The packages that a run copies into the driver store, also when it takes them back. -/
def InstallRun.newPackages (sha256 : Bytes → Digest) (run : InstallRun) (machine : Machine) :
    List DriverPackage :=
  match run.precheck with
  | .error _ => []
  | .ok () =>
    let driver := (run.installDriverPackage sha256 machine.store).driver
    if driver.newlyCopied then [⟨driver.publishedName, run.inf⟩] else []

inductive SetupStep where
  | install (run : InstallRun)
  | uninstall (run : UninstallRun)
  | serviceState (state : ServiceState)

/-- The machine, and every package that some install has copied. -/
structure SetupHistory where
  machine : Machine
  copied : List DriverPackage

namespace SetupHistory

/-- A machine without a service and a registry tree of this product. -/
def clean (store : DriverStore) : SetupHistory := ⟨⟨store, none, none⟩, []⟩

/-- One run of the helper; the service may start or stop between two runs. -/
def step (sha256 : Bytes → Digest) (history : SetupHistory) : SetupStep → SetupHistory
  | .install run =>
    ⟨(runInstall sha256 run history.machine).2,
      history.copied ++ run.newPackages sha256 history.machine⟩
  | .uninstall run => { history with machine := (runUninstall sha256 run history.machine).2 }
  | .serviceState state =>
    { history with
      machine := { history.machine with
        service := history.machine.service.map fun service => { service with state } } }

def run (sha256 : Bytes → Digest) (history : SetupHistory) (steps : List SetupStep) :
    SetupHistory :=
  steps.foldl (step sha256) history

end SetupHistory

/-- The service, when there is one, is the one of this product. -/
def OwnedService (service : Option ServiceRecord) : Prop :=
  ∀ record, service = some record → record.owned = true

namespace OwnedService

theorem none : OwnedService none := nofun

theorem some {record : ServiceRecord} (h : record.owned = true) (state : ServiceState) :
    OwnedService (some { record with state := state }) := by
  rintro other ⟨⟩
  exact h

variable {service : Option ServiceRecord}

theorem deleteOwnedService (h : OwnedService service) (calls : ServiceCalls) :
    OwnedService (calls.deleteOwnedService service).2 := by
  rcases calls.deleteOwnedService_cases service with hgone | ⟨_, record, state, hresult, hservice⟩
  · rw [hgone]
    exact none
  · rw [hresult]
    exact some (h record hservice) state

theorem prepareExistingService (h : OwnedService service) (calls : ServiceCalls) :
    OwnedService (calls.prepareExistingService service).2 := by
  cases service with
  | none =>
    simp only [ServiceCalls.prepareExistingService]
    cases calls.attempt [.openManager, .openService] <;> exact none
  | some record =>
    have howned := h record rfl
    simp only [ServiceCalls.prepareExistingService]
    cases calls.attempt [.openManager, .openService] with
    | error error => exact h
    | ok =>
      rcases calls.stopOwned_cases record with ⟨_, hstop, -⟩ | ⟨_, hstop, -⟩ | ⟨hstop, -⟩
      · simp only [hstop]
        exact h
      · simp only [hstop]
        exact some howned _
      · simp only [hstop]
        exact some howned _

theorem rollBackNewService (h : OwnedService service) (created : Bool) :
    OwnedService (InstallRun.rollBackNewService created service) := by
  rw [InstallRun.rollBackNewService]
  split
  · exact h.deleteOwnedService _
  · exact h

theorem installOrUpdateService (h : OwnedService service) (calls : ServiceCalls)
    (root : InstallRoot) : OwnedService (calls.installOrUpdateService root service).service := by
  cases service with
  | none =>
    have hnew := ServiceRecord.new_owned root
    rcases calls.installOrUpdateService_none root with
      ⟨_, hresult, -⟩ | ⟨_, state, hresult, -⟩ | hresult
    · rw [hresult]
      exact none
    · rw [hresult]
      exact some hnew state
    · rw [hresult]
      exact some hnew .running
  | some record =>
    have howned := h record rfl
    have hupdate := ServiceRecord.update_owned howned root
    rcases calls.installOrUpdateService_some root record with
      ⟨_, hresult, -⟩ | ⟨_, hresult, -⟩ | ⟨_, hresult, -⟩ | ⟨_, hresult, -⟩ | ⟨_, hresult, -⟩ |
        ⟨hresult, -⟩
    · rw [hresult]
      exact h
    · rw [hresult]
      exact some howned _
    · rw [hresult]
      exact some howned _
    · rw [hresult]
      exact some hupdate _
    · rw [hresult]
      exact some hupdate _
    · rw [hresult]
      exact some hupdate _

end OwnedService

/-- The key under which the ledger records a package. -/
def DriverPackage.key (sha256 : Bytes → Digest) (package : DriverPackage) : DriverKey :=
  ⟨toLower package.publishedName, some (sha256 package.inf).val⟩

/-! ## What one install changes -/

namespace InstallRun

variable {sha256 : Bytes → Digest} {run : InstallRun}

/-- Recording a package sets its key and leaves the others. -/
theorem mem_setInfSha256 {name : WString} {infHash : Bytes} {keys : List DriverKey}
    {key : DriverKey} : key ∈ setInfSha256 name infHash (ensureKey name keys).2 ↔
      key = ⟨name, some infHash⟩ ∨ (key ∈ keys ∧ key.name ≠ name) := by
  have hmap : ∀ keys : List DriverKey, (∃ key ∈ keys, key.name = name) →
      (key ∈ setInfSha256 name infHash keys ↔
        key = ⟨name, some infHash⟩ ∨ (key ∈ keys ∧ key.name ≠ name)) := by
    rintro keys ⟨present, hpresent, hname⟩
    rw [setInfSha256, List.mem_map]
    constructor
    · rintro ⟨old, hold, rfl⟩
      split
      · rename_i hsame
        left
        rw [← hsame]
      · rename_i hother
        exact .inr ⟨hold, hother⟩
    · rintro (rfl | ⟨hold, hother⟩)
      · refine ⟨present, hpresent, ?_⟩
        rw [if_pos hname, ← hname]
      · exact ⟨key, hold, if_neg hother⟩
  rw [ensureKey]
  split
  · rename_i hany
    obtain ⟨present, hpresent, hname⟩ := List.any_eq_true.mp hany
    exact hmap keys ⟨present, hpresent, of_decide_eq_true hname⟩
  · rw [hmap _ ⟨⟨name, none⟩, by simp, rfl⟩]
    constructor
    · rintro (hset | ⟨hmem, hother⟩)
      · exact .inl hset
      · rcases List.mem_append.mp hmem with hold | hnew
        · exact .inr ⟨hold, hother⟩
        · rw [List.mem_singleton.mp hnew] at hother
          exact absurd rfl hother
    · rintro (hset | ⟨hold, hother⟩)
      · exact .inl hset
      · exact .inr ⟨List.mem_append_left _ hold, hother⟩

/-- What `recordDriverPackage` makes of the keys of the ledger. -/
theorem recordDriverPackage_ledger (run : InstallRun) (driver : DriverInstallResult)
    (machine : Machine) (store : DriverStore) (service : Option ServiceRecord) :
    (∃ error, (run.recordDriverPackage driver machine.registry).1 = .error error ∧
      (⟨store, service, (run.recordDriverPackage driver machine.registry).2⟩ : Machine).ledger =
        machine.ledger) ∨
    ((run.recordDriverPackage driver machine.registry).1 = .ok () ∧
      (⟨store, service, (run.recordDriverPackage driver machine.registry).2⟩ : Machine).ledger =
        setInfSha256 (toLower driver.publishedName) driver.infHash.val
          (ensureKey (toLower driver.publishedName) machine.ledger).2) := by
  simp only [Machine.ledger]
  rw [recordDriverPackage]
  cases isStrictPublishedInfName driver.publishedName with
  | false => exact .inl ⟨_, rfl, rfl⟩
  | true =>
    have htree : ((machine.registry.getD ⟨none, none, none⟩).drivers).getD [] =
        (machine.registry.bind (·.drivers)).getD [] := by
      cases machine.registry <;> rfl
    cases run.attempt .createRootKey with
    | error error => exact .inl ⟨error, rfl, rfl⟩
    | ok =>
      cases run.attempt .setSchemaVersion with
      | error error => exact .inl ⟨error, rfl, htree⟩
      | ok =>
        cases run.attempt .setInstallRoot with
        | error error => exact .inl ⟨error, rfl, htree⟩
        | ok =>
          cases run.attempt .createDriversKey with
          | error error => exact .inl ⟨error, rfl, htree⟩
          | ok =>
            cases run.attempt .createPackageKey with
            | error error => exact .inl ⟨error, rfl, htree⟩
            | ok =>
              cases run.attempt .setInfSha256 with
              | error error =>
                left
                refine ⟨error, rfl, ?_⟩
                have hkeys := ensureKey_filter (toLower driver.publishedName)
                  (((machine.registry.getD ⟨none, none, none⟩).drivers).getD [])
                exact hkeys.trans htree
              | ok =>
                right
                refine ⟨rfl, ?_⟩
                rw [← htree]
                rfl

/-- The packages of the store after a copy: those that were there, and the payload's. -/
theorem setupCopyOemInf_packages (run : InstallRun) (store : DriverStore) :
    ∃ package ∈ (run.setupCopyOemInf store).2.packages,
      package.publishedName = (run.setupCopyOemInf store).1.publishedName ∧
      package.inf = run.inf ∧
      ∀ other ∈ (run.setupCopyOemInf store).2.packages,
        other = package ∨ other ∈ store.packages := by
  rw [setupCopyOemInf]
  split
  · rename_i package hfound
    have hinf := List.find?_some hfound
    refine ⟨package, List.mem_of_find?_eq_some hfound, rfl, of_decide_eq_true hinf, ?_⟩
    intro other hmem
    exact .inr hmem
  · refine ⟨⟨run.naming.next store, run.inf⟩, by simp [DriverStore.publish], rfl, rfl, ?_⟩
    intro other hmem
    rcases List.mem_append.mp hmem with hold | hnew
    · exact .inr hold
    · exact .inl (List.mem_singleton.mp hnew)

/-- A newly copied package has a name that the store did not have. -/
theorem not_mem_of_newPackages {machine : Machine} {package : DriverPackage}
    (h : package ∈ run.newPackages sha256 machine) : package ∉ machine.store.packages := by
  rw [newPackages] at h
  split at h
  · cases h
  · simp only at h
    split at h
    · rename_i hnew
      rw [List.mem_singleton] at h
      subst h
      rcases run.installDriverPackage_driver sha256 machine.store with
        ⟨hempty, -⟩ | ⟨hcopied, hname, -⟩
      · rw [hempty] at hnew
        cases hnew
      · rw [hcopied, setupCopyOemInf] at hnew
        rw [hname, setupCopyOemInf]
        split at hnew
        · cases hnew
        · rename_i habsent
          intro hmem
          exact run.naming.fresh machine.store _ hmem (by simp only)
    · cases h

end InstallRun

open InstallRun in
theorem runInstall_service (sha256 : Bytes → Digest) (run : InstallRun) {machine : Machine}
    (h : OwnedService machine.service) : OwnedService (runInstall sha256 run machine).2.service := by
  have hservice := h.installOrUpdateService run.calls run.root
  have hstopped := hservice.prepareExistingService ServiceCalls.succeeding
  rw [runInstall]
  split
  · exact h
  · simp only
    split
    · exact h
    · split
      · exact hservice.rollBackNewService _
      · split
        · exact hstopped.rollBackNewService _
        · exact hservice

open InstallRun in
/-- An install leaves store and ledger alone, or it adds a package and records it. -/
theorem runInstall_ledger (sha256 : Bytes → Digest) (run : InstallRun) (machine : Machine) :
    ((runInstall sha256 run machine).2.store = machine.store ∧
      (runInstall sha256 run machine).2.ledger = machine.ledger) ∨
    ∃ package ∈ (runInstall sha256 run machine).2.store.packages,
      validateInf package.inf = .ok () ∧
      isStrictPublishedInfName package.publishedName = true ∧
      (∀ other ∈ (runInstall sha256 run machine).2.store.packages,
        other = package ∨ other ∈ machine.store.packages) ∧
      ∀ key, key ∈ (runInstall sha256 run machine).2.ledger ↔
        key = package.key sha256 ∨
          (key ∈ machine.ledger ∧ key.name ≠ toLower package.publishedName) := by
  have hstore := run.rollBack_installDriverPackage sha256 machine.store
  rw [runInstall]
  rcases run.precheck_cases with ⟨report, hcheck, -⟩ | ⟨hcheck, -, hinf⟩
  · simp only [hcheck]
    exact .inl ⟨trivial, trivial⟩
  simp only [hcheck]
  rcases run.installDriverPackage_cases sha256 machine.store hinf with
    ⟨error, hdriver, -⟩ | ⟨hdriver, hstrict⟩
  · simp only [hdriver]
    exact .inl ⟨hstore, rfl⟩
  rw [hdriver] at hstore
  simp only [hdriver]
  cases (run.calls.installOrUpdateService run.root machine.service).result with
  | error error => exact .inl ⟨hstore, rfl⟩
  | ok =>
    rcases run.recordDriverPackage_ledger { (run.setupCopyOemInf machine.store).1 with
        infHash := sha256 run.inf, rebootRequired := run.reboot } machine
        (run.setupCopyOemInf machine.store).2
        (run.calls.installOrUpdateService run.root machine.service).service with
      ⟨error, hrecord, hledger⟩ | ⟨hrecord, hledger⟩
    · simp only [hrecord]
      exact .inl ⟨hstore, hledger⟩
    · simp only [hrecord]
      right
      obtain ⟨package, hmem, hname, hbytes, hothers⟩ :=
        run.setupCopyOemInf_packages machine.store
      refine ⟨package, hmem, by rw [hbytes, hinf], by rw [hname, hstrict], hothers, ?_⟩
      intro key
      rw [hledger, mem_setInfSha256, DriverPackage.key, hname, hbytes]

/-! ## What one uninstall changes -/

open UninstallRun in
theorem runUninstall_service (sha256 : Bytes → Digest) (run : UninstallRun) {machine : Machine}
    (h : OwnedService machine.service) :
    OwnedService (runUninstall sha256 run machine).2.service := by
  have hservice := h.deleteOwnedService run.calls
  rw [runUninstall]
  split
  · exact h
  · split
    · exact h
    · split
      · exact h
      · simp only
        split
        · exact hservice
        · split
          · exact hservice
          · split <;> exact hservice

theorem deleteTree_ledger (run : UninstallRun) (machine : Machine) (store : DriverStore)
    (service : Option ServiceRecord) :
    ∀ key ∈ (⟨store, service, (run.deleteTree machine.registry).2⟩ : Machine).ledger,
      key ∈ machine.ledger := by
  intro key hmem
  rw [Machine.ledger, UninstallRun.deleteTree] at hmem
  rw [Machine.ledger]
  cases hregistry : machine.registry with
  | none =>
    rw [hregistry] at hmem
    split at hmem <;> cases hmem
  | some tree =>
    rw [hregistry] at hmem
    split at hmem
    · cases hmem
    · cases hleft : run.leftDrivers with
      | none =>
        rw [hleft] at hmem
        cases hmem
      | some left =>
        rw [hleft] at hmem
        cases hdrivers : tree.drivers with
        | none =>
          simp [hdrivers] at hmem
        | some keys =>
          simp [hdrivers] at hmem
          simp [hdrivers, hmem.1]

open UninstallRun in
/-- An uninstall removes packages of the records that it has read and checked, and touches the
ledger only when none of them is left. -/
theorem runUninstall_change (sha256 : Bytes → Digest) (run : UninstallRun) (machine : Machine) :
    ((runUninstall sha256 run machine).2.store = machine.store ∧
      (runUninstall sha256 run machine).2.ledger = machine.ledger) ∨
    ∃ records, run.readDriverRecords machine.registry = .ok records ∧
      run.validateRecords sha256 machine.store records = .ok () ∧
      (runUninstall sha256 run machine).2.store =
        (run.removeDriverPackages machine.store false records).2 ∧
      ((runUninstall sha256 run machine).2.ledger = machine.ledger ∨
        (∃ reboot, (run.removeDriverPackages machine.store false records).1 = .ok reboot) ∧
        ∀ key ∈ (runUninstall sha256 run machine).2.ledger, key ∈ machine.ledger) := by
  rw [runUninstall]
  split
  · exact .inl ⟨rfl, rfl⟩
  cases hread : run.readDriverRecords machine.registry with
  | error error => exact .inl ⟨rfl, rfl⟩
  | ok records =>
    simp only
    cases hvalid : run.validateRecords sha256 machine.store records with
    | error error => exact .inl ⟨rfl, rfl⟩
    | ok =>
      simp only
      cases (run.calls.deleteOwnedService machine.service).1 with
      | error error => exact .inl ⟨rfl, rfl⟩
      | ok =>
        right
        refine ⟨records, rfl, hvalid, ?_⟩
        simp only
        cases hremoval : (run.removeDriverPackages machine.store false records).1 with
        | error report => exact ⟨rfl, .inl rfl⟩
        | ok reboot =>
          have hledger := deleteTree_ledger run machine
            (run.removeDriverPackages machine.store false records).2
            (run.calls.deleteOwnedService machine.service).2
          simp only
          cases (run.deleteTree machine.registry).1 with
          | error error => exact ⟨rfl, .inr ⟨⟨reboot, rfl⟩, hledger⟩⟩
          | ok => exact ⟨rfl, .inr ⟨⟨reboot, rfl⟩, hledger⟩⟩

theorem runUninstall_packages {sha256 : Bytes → Digest} {run : UninstallRun} {machine : Machine}
    {package : DriverPackage} (hmem : package ∈ (runUninstall sha256 run machine).2.store.packages) :
    package ∈ machine.store.packages := by
  rcases runUninstall_change sha256 run machine with ⟨hstore, -⟩ | ⟨records, -, -, hstore, -⟩
  · exact hstore ▸ hmem
  · rw [hstore] at hmem
    exact (run.removeDriverPackages_spec _ _ records).1 package hmem

/-! ## What holds between two runs -/

/-- A key of the ledger names a package that passes the checks of an uninstall, if it is there. -/
structure KeyValid (sha256 : Bytes → Digest) (store : DriverStore) (key : DriverKey) : Prop where
  strict : isStrictPublishedInfName key.name = true
  lower : toLower key.name = key.name
  hash : ∃ infHash : Digest, key.infSha256 = some infHash.val ∧
    ∀ package ∈ store.packages, toLower package.publishedName = key.name →
      validateInf package.inf = .ok () ∧ sha256 package.inf = infHash

theorem KeyValid.mono {sha256 : Bytes → Digest} {store later : DriverStore} {key : DriverKey}
    (h : KeyValid sha256 store key)
    (hsub : ∀ package ∈ later.packages, toLower package.publishedName = key.name →
      package ∈ store.packages) : KeyValid sha256 later key := by
  obtain ⟨infHash, hvalue, hpackages⟩ := h.hash
  refine ⟨h.strict, h.lower, infHash, hvalue, ?_⟩
  intro package hmem hname
  exact hpackages package (hsub package hmem hname) hname

/-- A package of the store passes the checks against its own key. -/
theorem DriverPackage.key_valid {sha256 : Bytes → Digest} {store : DriverStore}
    {package : DriverPackage} (hmem : package ∈ store.packages)
    (hinf : validateInf package.inf = .ok ())
    (hstrict : isStrictPublishedInfName package.publishedName = true) :
    KeyValid sha256 store (package.key sha256) := by
  refine ⟨?_, toLower_toLower _, sha256 package.inf, rfl, ?_⟩
  · exact (isStrictPublishedInfName_toLower _).trans hstrict
  · intro other hother hname
    have hsame := List.inj_on_of_nodup_map store.distinct hother hmem hname
    rw [hsame]
    exact ⟨hinf, rfl⟩

structure LedgerInv (sha256 : Bytes → Digest) (history : SetupHistory) : Prop where
  owned : OwnedService history.machine.service
  valid : ∀ key ∈ history.machine.ledger, KeyValid sha256 history.machine.store key
  complete : ∀ package ∈ history.copied, package ∈ history.machine.store.packages →
    package.key sha256 ∈ history.machine.ledger

namespace LedgerInv

variable {sha256 : Bytes → Digest} {history : SetupHistory}

theorem clean (store : DriverStore) : LedgerInv sha256 (.clean store) := ⟨.none, nofun, nofun⟩

theorem install (h : LedgerInv sha256 history) (run : InstallRun) :
    LedgerInv sha256 (history.step sha256 (.install run)) := by
  refine ⟨runInstall_service sha256 run h.owned, ?_, ?_⟩
  · rcases runInstall_ledger sha256 run history.machine with
      ⟨hstore, hledger⟩ | ⟨package, hmem, hinf, hstrict, hothers, hledger⟩
    · intro key hkey
      have hold : key ∈ history.machine.ledger := hledger ▸ hkey
      apply (h.valid key hold).mono
      intro other hother _
      exact hstore ▸ hother
    · intro key hkey
      rcases (hledger key).mp hkey with rfl | ⟨hold, hname⟩
      · exact package.key_valid hmem hinf hstrict
      · apply (h.valid key hold).mono
        intro other hother hkeyed
        rcases hothers other hother with rfl | hthere
        · exact absurd hkeyed.symm hname
        · exact hthere
  · intro copied hcopied hthere
    have hwas : copied ∈ history.machine.store.packages → copied ∈ history.copied := by
      intro hmem
      rcases List.mem_append.mp hcopied with hold | hnew
      · exact hold
      · exact absurd hmem (InstallRun.not_mem_of_newPackages hnew)
    rcases runInstall_ledger sha256 run history.machine with
      ⟨hstore, hledger⟩ | ⟨package, hmem, -, -, hothers, hledger⟩
    · have hmem : copied ∈ history.machine.store.packages := hstore ▸ hthere
      show _ ∈ (runInstall sha256 run history.machine).2.ledger
      rw [hledger]
      exact h.complete copied (hwas hmem) hmem
    · apply (hledger _).mpr
      by_cases hname : toLower copied.publishedName = toLower package.publishedName
      · left
        have hsame := List.inj_on_of_nodup_map
          (runInstall sha256 run history.machine).2.store.distinct hthere hmem hname
        rw [hsame]
      · right
        rcases hothers copied hthere with rfl | hold
        · exact absurd rfl hname
        · exact ⟨h.complete copied (hwas hold) hold, hname⟩

/-- A package that an uninstall removes is one of the ledger. -/
theorem uninstall (h : LedgerInv sha256 history) (run : UninstallRun) :
    LedgerInv sha256 (history.step sha256 (.uninstall run)) := by
  have hchange := runUninstall_change sha256 run history.machine
  have hkeys : ∀ key ∈ (runUninstall sha256 run history.machine).2.ledger,
      key ∈ history.machine.ledger := by
    intro key hkey
    rcases hchange with ⟨-, hledger⟩ | ⟨records, -, -, -, hledger | ⟨-, hsub⟩⟩
    · exact hledger ▸ hkey
    · exact hledger ▸ hkey
    · exact hsub key hkey
  refine ⟨runUninstall_service sha256 run h.owned, ?_, ?_⟩
  · intro key hkey
    exact (h.valid key (hkeys key hkey)).mono fun package hmem _ => runUninstall_packages hmem
  · intro copied hcopied hthere
    have hrecorded := h.complete copied hcopied (runUninstall_packages hthere)
    rcases hchange with ⟨-, hledger⟩ | ⟨records, hread, -, hstore, hledger | ⟨⟨reboot, hok⟩, -⟩⟩
    · exact hledger ▸ hrecorded
    · exact hledger ▸ hrecorded
    · -- The second pass went through, so no recorded package is left.
      obtain ⟨hperm, -⟩ := UninstallRun.readDriverRecords_ok hread
      obtain ⟨record, hmem, hkey⟩ := List.mem_map.mp (hperm.mem_iff.mpr hrecorded)
      have hname : record.publishedName = toLower copied.publishedName :=
        congrArg DriverKey.name hkey
      have hgone := (run.removeDriverPackages_spec _ _ records).2.2 reboot hok record hmem copied
        (hstore ▸ hthere)
      rw [hname, toLower_toLower] at hgone
      exact absurd rfl hgone

theorem step (h : LedgerInv sha256 history) (step : SetupStep) :
    LedgerInv sha256 (history.step sha256 step) := by
  cases step with
  | install run => exact h.install run
  | uninstall run => exact h.uninstall run
  | serviceState state =>
    refine ⟨?_, h.valid, h.complete⟩
    intro service hservice
    obtain ⟨record, hrecord, rfl⟩ := Option.map_eq_some_iff.mp hservice
    exact h.owned record hrecord

theorem run (h : LedgerInv sha256 history) (steps : List SetupStep) :
    LedgerInv sha256 (history.run sha256 steps) := by
  induction steps generalizing history with
  | nil => exact h
  | cons first steps ih => exact ih (h.step first)

end LedgerInv

/-- An uninstall removes a package only after its check has passed in the same run. -/
theorem runUninstall_removes_checked (sha256 : Bytes → Digest) (run : UninstallRun)
    (machine : Machine) {package : DriverPackage} (hthere : package ∈ machine.store.packages)
    (hgone : package ∉ (runUninstall sha256 run machine).2.store.packages) :
    ∃ records record, run.readDriverRecords machine.registry = .ok records ∧ record ∈ records ∧
      toLower record.publishedName = toLower package.publishedName ∧
      run.validateRecordedInf sha256 machine.store record = .ok () ∧
      validateInf package.inf = .ok () ∧ sha256 package.inf = record.infHash := by
  rcases runUninstall_change sha256 run machine with
    ⟨hstore, -⟩ | ⟨records, hread, hvalid, hstore, -⟩
  · exact absurd hthere (hstore ▸ hgone)
  · rw [hstore] at hgone
    obtain ⟨record, hmem, hname⟩ :=
      (run.removeDriverPackages_spec _ _ records).2.1 package hthere hgone
    have hfound := DriverStore.installedInf_of_mem hthere hname
    have hchecked := UninstallRun.validateRecords_ok hvalid record hmem package hfound
    exact ⟨records, record, hread, hmem, hname.symm, hchecked⟩

/-- Every call of the run succeeds, and the service stops when it is asked to. -/
structure UninstallRun.Succeeds (run : UninstallRun) : Prop where
  elevated : run.elevated = true
  fault : ∀ site, run.fault site = none
  stops : (waitForServiceState .stopped run.stopPolls.first run.stopPolls.later).1 = .ok ()

/-- An uninstall whose calls succeed leaves nothing of what the ledger records. -/
theorem LedgerInv.runUninstall_succeeds {sha256 : Bytes → Digest} {history : SetupHistory}
    (h : LedgerInv sha256 history) {run : UninstallRun} (hrun : run.Succeeds) :
    (runUninstall sha256 run history.machine).1.success = true ∧
    (runUninstall sha256 run history.machine).2.service = none ∧
    (runUninstall sha256 run history.machine).2.registry = none ∧
    ∀ package ∈ (runUninstall sha256 run history.machine).2.store.packages,
      ∀ key ∈ history.machine.ledger, toLower package.publishedName ≠ key.name := by
  have hattempt : ∀ site, run.attempt site = .ok () :=
    fun site => UninstallRun.attempt_ok (hrun.fault site)
  have helevated : checkElevated "uninstall" (run.attempt .openProcessToken)
      (run.attempt .tokenInformation) run.elevated = .ok () := by
    rw [hattempt, hattempt, hrun.elevated]
    rfl
  have hkeys : ∀ key ∈ history.machine.ledger, ∃ record : DriverRecord, record.key = key ∧
      isStrictPublishedInfName record.publishedName = true := by
    intro key hkey
    obtain ⟨infHash, hvalue, -⟩ := (h.valid key hkey).hash
    refine ⟨⟨key.name, infHash⟩, ?_, (h.valid key hkey).strict⟩
    rw [DriverRecord.key, ← hvalue]
  obtain ⟨records, hread⟩ := UninstallRun.readDriverRecords_succeeds hrun.fault hkeys
  obtain ⟨hperm, hstrict⟩ := UninstallRun.readDriverRecords_ok hread
  have hvalid : run.validateRecords sha256 history.machine.store records = .ok () := by
    apply UninstallRun.validateRecords_succeeds hrun.fault
    intro record hmem
    refine ⟨hstrict record hmem, ?_⟩
    intro package hfound
    obtain ⟨hthere, hname⟩ := DriverStore.installedInf_eq_some hfound
    have hkey := h.valid record.key (hperm.mem_iff.mp (List.mem_map_of_mem hmem))
    obtain ⟨infHash, hvalue, hpackages⟩ := hkey.hash
    obtain ⟨hinf, hhash⟩ := hpackages package hthere (hname.trans hkey.lower)
    refine ⟨hinf, hhash.trans ?_⟩
    exact Subtype.ext (Option.some.inj hvalue).symm
  have hservice : run.calls.deleteOwnedService history.machine.service = (.ok (), none) :=
    @ServiceCalls.deleteOwnedService_ok run.calls (fun site => hrun.fault (.service site))
      hrun.stops _ h.owned
  obtain ⟨reboot, hremoval⟩ :=
    UninstallRun.removeDriverPackages_ok hrun.fault history.machine.store false hstrict
  have htree : run.deleteTree history.machine.registry = (.ok (), none) := by
    rw [UninstallRun.deleteTree, hattempt]
  rw [runUninstall]
  simp only [helevated, hread, hvalid, hservice, hremoval, htree]
  refine ⟨rfl, trivial, trivial, ?_⟩
  intro package hmem key hkey hname
  obtain ⟨record, hrecord, rfl⟩ := List.mem_map.mp (hperm.mem_iff.mpr hkey)
  have hgone := (run.removeDriverPackages_spec _ _ records).2.2 reboot hremoval record hrecord
    package hmem
  exact hgone (hname.trans (h.valid _ hkey).lower.symm)

open SetupHistory in
/-- After any history of runs the ledger is complete, an uninstall removes only what it has checked,
and one whose calls succeed leaves nothing behind. -/
theorem uninstall_complete_and_resumable (sha256 : Bytes → Digest) (store : DriverStore)
    (steps : List SetupStep) {history : SetupHistory}
    (hhistory : history = (clean store).run sha256 steps) :
    (∀ package ∈ history.copied, package ∈ history.machine.store.packages →
      package.key sha256 ∈ history.machine.ledger) ∧
    (∀ run : UninstallRun, ∀ package ∈ history.machine.store.packages,
      package ∉ (runUninstall sha256 run history.machine).2.store.packages →
        ∃ records record, run.readDriverRecords history.machine.registry = .ok records ∧
          record ∈ records ∧ toLower record.publishedName = toLower package.publishedName ∧
          run.validateRecordedInf sha256 history.machine.store record = .ok () ∧
          validateInf package.inf = .ok () ∧ sha256 package.inf = record.infHash) ∧
    ∀ run : UninstallRun, run.Succeeds →
      (runUninstall sha256 run history.machine).1.success = true ∧
      (runUninstall sha256 run history.machine).2.service = none ∧
      (runUninstall sha256 run history.machine).2.registry = none ∧
      (∀ package ∈ (runUninstall sha256 run history.machine).2.store.packages,
        ∀ key ∈ history.machine.ledger, toLower package.publishedName ≠ key.name) ∧
      ∀ package ∈ history.copied,
        package ∉ (runUninstall sha256 run history.machine).2.store.packages := by
  have hinv : LedgerInv sha256 history := by
    rw [hhistory]
    exact (LedgerInv.clean store).run steps
  refine ⟨hinv.complete, ?_, ?_⟩
  · intro run package hthere hgone
    exact runUninstall_removes_checked sha256 run history.machine hthere hgone
  · intro run hrun
    obtain ⟨hsuccess, hservice, hregistry, hrecorded⟩ := hinv.runUninstall_succeeds hrun
    refine ⟨hsuccess, hservice, hregistry, hrecorded, ?_⟩
    intro package hcopied hleft
    have hkey := hinv.complete package hcopied (runUninstall_packages hleft)
    exact hrecorded package hleft _ hkey rfl

/-- An uninstall of the sample payload with the given failing calls. -/
def sampleUninstall (fault : UninstallCall → Option UInt32) : UninstallRun where
  elevated := true
  fault := fault
  enumeration keys := keys
  enumerates keys := .refl keys
  stopPolls := ⟨⟨.stopPending, none, none⟩, [⟨.stopped, none, none⟩]⟩
  stoppedByItself := false
  markedForDelete := false
  reboot _ := false
  leftDrivers := none

/-- An install, an upgrade that cannot start the service, and an uninstall that cannot delete the
registry tree. -/
def sampleHistory : SetupHistory :=
  (SetupHistory.clean emptyStore).run (fun _ => sampleDigest)
    [.install (sampleRun .none), .install (sampleRun (.call (.service .start) 1053)),
      .uninstall (sampleUninstall fun site => if site = .deleteTree then some 5 else none)]

theorem uninstall_complete_and_resumable_sample :
    sampleHistory.copied.length = 1 ∧ sampleHistory.machine.registry ≠ none ∧
    (runUninstall (fun _ => sampleDigest) (sampleUninstall fun _ => none)
      sampleHistory.machine).1.success = true ∧
    (runUninstall (fun _ => sampleDigest) (sampleUninstall fun _ => none)
      sampleHistory.machine).2.registry = none := by
  have hrun : (sampleUninstall fun _ => none).Succeeds := ⟨rfl, fun _ => rfl, rfl⟩
  obtain ⟨-, -, hresumed⟩ :=
    @uninstall_complete_and_resumable (fun _ => sampleDigest) emptyStore _ sampleHistory rfl
  obtain ⟨hsuccess, -, hregistry, -⟩ := hresumed _ hrun
  refine ⟨by decide +kernel, by decide +kernel, hsuccess, hregistry⟩

end LadoFlow.Windows
