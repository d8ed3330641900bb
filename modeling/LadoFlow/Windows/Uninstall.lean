import LadoFlow.Windows.Install
import LadoFlow.Windows.ServiceSteps

/-!
# Removing the service and the recorded driver packages

An uninstall reads the driver ledger, checks each package that is still there against its record,
deletes the service, removes the packages and then deletes the registry tree. Any of the calls may
fail, and the run ends at the first that does.
-/

namespace LadoFlow.Windows

open Framework

/-- The calls on one record of the ledger. -/
inductive RecordCall where
  | enumKey
  | openPackageKey
  | queryInfSha256
  | windowsDirectory
  | readInf
  | hashInf
  | windowsDirectoryAgain
  | fileAttributes
  | uninstallDriver
  deriving DecidableEq, Repr

inductive UninstallCall where
  | openProcessToken
  | tokenInformation
  | openDriversKey
  | record (name : WString) (call : RecordCall)
  | enumEnd
  | service (call : ServiceCall)
  | deleteTree
  deriving DecidableEq, Repr

/-- What one run is given. The keys of the ledger are enumerated in any order, and a deletion of the
registry tree that fails leaves some of them. -/
structure UninstallRun where
  elevated : Bool
  fault : UninstallCall → Option UInt32
  enumeration : List DriverKey → List DriverKey
  enumerates : ∀ keys, (enumeration keys).Perm keys
  stopPolls : Polls
  stoppedByItself : Bool
  markedForDelete : Bool
  reboot : WString → Bool
  leftDrivers : Option (DriverKey → Bool)

structure DriverRecord where
  publishedName : WString
  infHash : Digest
  deriving DecidableEq

/-- The keys of the driver ledger. -/
def Machine.ledger (machine : Machine) : List DriverKey :=
  (machine.registry.bind (·.drivers)).getD []

namespace UninstallRun

variable (run : UninstallRun)

def attempt (site : UninstallCall) : Except Win32Error Unit :=
  match run.fault site with
  | some code => .error (.other code)
  | none => .ok ()

def calls : ServiceCalls where
  fault call := run.fault (.service call)
  stopPolls := run.stopPolls
  startPolls := ServiceCalls.succeeding.startPolls
  stoppedByItself := run.stoppedByItself
  alreadyRunning := false
  markedForDelete := run.markedForDelete

/-- The value `InfSha256` of a key, read into 32 bytes. -/
def queryInfSha256 (key : DriverKey) : Except Win32Error Digest :=
  match key.infSha256 with
  | none => .error .fileNotFound
  | some value =>
    if h : value.length = 32 then .ok ⟨value, h⟩
    else .error (if 32 < value.length then .moreData else .invalidData)

def readDriverRecord (key : DriverKey) : Except Win32Error DriverRecord := do
  run.attempt (.record key.name .enumKey)
  if !isStrictPublishedInfName key.name then .error .invalidData
  else do
    run.attempt (.record key.name .openPackageKey)
    run.attempt (.record key.name .queryInfSha256)
    let infHash ← queryInfSha256 key
    .ok ⟨key.name, infHash⟩

def readKeys : List DriverKey → Except Win32Error (List DriverRecord)
  | [] => do
    run.attempt .enumEnd
    .ok []
  | key :: keys => do
    let record ← run.readDriverRecord key
    let records ← readKeys keys
    .ok (record :: records)

def readDriverRecords (registry : Option RegistryTree) : Except Win32Error (List DriverRecord) := do
  run.attempt .openDriversKey
  match registry.bind (·.drivers) with
  | none => .ok []
  | some keys => run.readKeys (run.enumeration keys)

def getInstalledInfPath (record : DriverRecord) (call : RecordCall) : Except Win32Error Unit :=
  if !isStrictPublishedInfName record.publishedName then .error .invalidName
  else run.attempt (.record record.publishedName call)

/-- `RemoveDriverPackage`, for which a package that is not there is removed. -/
def removeDriverPackage (record : DriverRecord) (store : DriverStore) :
    Except Win32Error Bool × DriverStore :=
  match run.attempt (.record record.publishedName .uninstallDriver) with
  | .error error => (.error error, store)
  | .ok () =>
    match store.installedInf record.publishedName with
    | none => (.ok false, store)
    | some _ => (.ok (run.reboot record.publishedName), store.remove record.publishedName)

/-- The file of the record is seen to be absent. -/
def skips (record : DriverRecord) (store : DriverStore) : Bool :=
  (run.fault (.record record.publishedName .fileAttributes)).isNone &&
    (store.installedInf record.publishedName).isNone

/-- The second pass over the records. -/
def removeDriverPackages (store : DriverStore) (rebootRequired : Bool) :
    List DriverRecord → Except SetupReport Bool × DriverStore
  | [] => (.ok rebootRequired, store)
  | record :: records =>
    match run.getInstalledInfPath record .windowsDirectoryAgain with
    | .error error =>
      (.error (printWin32Failure "uninstall" "driver_path_failed" error kExitVerificationFailure),
        store)
    | .ok () =>
      if run.skips record store then removeDriverPackages store rebootRequired records
      else
      match run.removeDriverPackage record store with
      | (.error error, store) =>
        (.error (printWin32Failure "uninstall" "driver_remove_failed" error kExitDriverFailure),
          store)
      | (.ok reboot, store) => removeDriverPackages store (rebootRequired || reboot) records

/-- `RegDeleteTreeW`: each key goes with its values, and the root key goes last. -/
def deleteTree (registry : Option RegistryTree) : Except Win32Error Unit × Option RegistryTree :=
  match run.attempt .deleteTree with
  | .ok () => (.ok (), none)
  | .error error =>
    (.error error, registry.map fun tree =>
      { tree with drivers := run.leftDrivers.bind fun left => tree.drivers.map (·.filter left) })

section Hash

variable (sha256 : Bytes → Digest)

def validateRecordedInf (store : DriverStore) (record : DriverRecord) :
    Except Win32Error Unit := do
  run.getInstalledInfPath record .windowsDirectory
  run.attempt (.record record.publishedName .readInf)
  match store.installedInf record.publishedName with
  | none => .error .fileNotFound
  | some package => do
    validateInf package.inf
    run.attempt (.record record.publishedName .hashInf)
    let actual ← InstallRun.hashInf sha256 package.inf
    if actual ≠ record.infHash then .error .dataChecksumError else .ok ()

/-- The first pass over the records, which passes over a package that is not there. -/
def validateRecords (store : DriverStore) : List DriverRecord → Except Win32Error Unit
  | [] => .ok ()
  | record :: records =>
    match run.validateRecordedInf sha256 store record with
    | .ok () => validateRecords store records
    | .error .fileNotFound => validateRecords store records
    | .error error => .error error

end Hash

end UninstallRun

/-- `RunUninstall`: the report and the machine that it leaves. -/
def runUninstall (sha256 : Bytes → Digest) (run : UninstallRun) (machine : Machine) :
    SetupReport × Machine :=
  match checkElevated "uninstall" (run.attempt .openProcessToken) (run.attempt .tokenInformation)
      run.elevated with
  | .error report => (report, machine)
  | .ok () =>
    match run.readDriverRecords machine.registry with
    | .error error =>
      (printWin32Failure "uninstall" "registry_read_failed" error kExitRegistryFailure, machine)
    | .ok records =>
      match run.validateRecords sha256 machine.store records with
      | .error error =>
        (printWin32Failure "uninstall" "driver_identity_failed" error kExitVerificationFailure,
          machine)
      | .ok () =>
        let service := run.calls.deleteOwnedService machine.service
        match service.1 with
        | .error error =>
          (printWin32Failure "uninstall" "service_remove_failed" error kExitServiceFailure,
            { machine with service := service.2 })
        | .ok () =>
          let removal := run.removeDriverPackages machine.store false records
          match removal.1 with
          | .error report => (report, { machine with service := service.2, store := removal.2 })
          | .ok rebootRequired =>
            let registry := run.deleteTree machine.registry
            match registry.1 with
            | .error error =>
              (printWin32Failure "uninstall" "registry_remove_failed" error kExitRegistryFailure,
                ⟨removal.2, service.2, registry.2⟩)
            | .ok () =>
              (printSuccess "uninstall" rebootRequired, ⟨removal.2, service.2, registry.2⟩)

/-- The key that a record was read from. -/
def DriverRecord.key (record : DriverRecord) : DriverKey :=
  ⟨record.publishedName, some record.infHash.val⟩

namespace DriverStore

theorem mem_remove {store : DriverStore} {name : WString} {package : DriverPackage} :
    package ∈ (store.remove name).packages ↔
      package ∈ store.packages ∧ toLower package.publishedName ≠ toLower name := by
  rw [remove, List.mem_filter, decide_eq_true_iff]

theorem installedInf_eq_none {store : DriverStore} {name : WString} :
    store.installedInf name = none ↔
      ∀ package ∈ store.packages, toLower package.publishedName ≠ toLower name := by
  rw [installedInf, List.find?_eq_none]
  simp

/-- Removing a package that is not there changes nothing. -/
theorem remove_eq_self {store : DriverStore} {name : WString} (h : store.installedInf name = none) :
    store.remove name = store := by
  have hkeep : store.packages.filter (fun package =>
      toLower package.publishedName ≠ toLower name) = store.packages := by
    apply List.filter_eq_self.mpr
    intro package hmem
    exact decide_eq_true (installedInf_eq_none.mp h package hmem)
  cases store
  simp only [remove, mk.injEq]
  exact hkeep

theorem mem_foldl_remove {store : DriverStore} {records : List DriverRecord}
    {package : DriverPackage} :
    package ∈ (records.foldl (fun store record => store.remove record.publishedName) store).packages ↔
      package ∈ store.packages ∧
        ∀ record ∈ records, toLower package.publishedName ≠ toLower record.publishedName := by
  induction records generalizing store with
  | nil => simp
  | cons record records ih =>
    rw [List.foldl_cons, ih, mem_remove, List.forall_mem_cons]
    exact and_assoc

end DriverStore

namespace UninstallRun

variable {run : UninstallRun}

theorem attempt_ok {site : UninstallCall} (h : run.fault site = none) : run.attempt site = .ok () := by
  rw [attempt, h]

theorem attempt_ne_fileNotFound (run : UninstallRun) (site : UninstallCall) :
    run.attempt site ≠ .error .fileNotFound := by
  rw [attempt]
  split <;> simp

/-! ## Reading the ledger -/

theorem queryInfSha256_ok {key : DriverKey} {infHash : Digest}
    (h : queryInfSha256 key = .ok infHash) : key.infSha256 = some infHash.val := by
  rw [queryInfSha256] at h
  split at h
  · cases h
  · rename_i value hvalue
    split at h
    · cases h
      exact hvalue
    · cases h

theorem readDriverRecord_ok {key : DriverKey} {record : DriverRecord}
    (h : run.readDriverRecord key = .ok record) :
    record.key = key ∧ isStrictPublishedInfName record.publishedName = true := by
  rw [readDriverRecord] at h
  obtain ⟨-, -, h⟩ := bind_eq_ok.mp h
  obtain ⟨hstrict, h⟩ := ite_error_eq_ok.mp h
  obtain ⟨-, -, h⟩ := bind_eq_ok.mp h
  obtain ⟨-, -, h⟩ := bind_eq_ok.mp h
  obtain ⟨infHash, hquery, h⟩ := bind_eq_ok.mp h
  cases h
  have hvalue := queryInfSha256_ok hquery
  refine ⟨?_, by simpa using hstrict⟩
  rw [DriverRecord.key, ← hvalue]

theorem readKeys_ok {keys : List DriverKey} {records : List DriverRecord}
    (h : run.readKeys keys = .ok records) :
    records.map DriverRecord.key = keys ∧
      ∀ record ∈ records, isStrictPublishedInfName record.publishedName = true := by
  induction keys generalizing records with
  | nil =>
    obtain ⟨-, -, h⟩ := bind_eq_ok.mp h
    cases h
    exact ⟨rfl, nofun⟩
  | cons key keys ih =>
    obtain ⟨record, hrecord, h⟩ := bind_eq_ok.mp h
    obtain ⟨rest, hrest, h⟩ := bind_eq_ok.mp h
    cases h
    obtain ⟨hkey, hstrict⟩ := readDriverRecord_ok hrecord
    obtain ⟨hkeys, hall⟩ := ih hrest
    refine ⟨by rw [List.map_cons, hkey, hkeys], ?_⟩
    intro other hmem
    rcases List.mem_cons.mp hmem with rfl | hmem
    · exact hstrict
    · exact hall other hmem

/-- The records that are read are those of the ledger. -/
theorem readDriverRecords_ok {machine : Machine} {records : List DriverRecord}
    (h : run.readDriverRecords machine.registry = .ok records) :
    (records.map DriverRecord.key).Perm machine.ledger ∧
      ∀ record ∈ records, isStrictPublishedInfName record.publishedName = true := by
  obtain ⟨-, -, h⟩ := bind_eq_ok.mp h
  rw [Machine.ledger]
  cases hkeys : machine.registry.bind (·.drivers) with
  | none =>
    rw [hkeys] at h
    cases h
    exact ⟨.nil, nofun⟩
  | some keys =>
    rw [hkeys] at h
    obtain ⟨hread, hstrict⟩ := readKeys_ok h
    rw [hread]
    exact ⟨run.enumerates keys, hstrict⟩

/-- Without a fault a ledger whose keys are keys of records is read. -/
theorem readKeys_succeeds (hfault : ∀ site, run.fault site = none) {keys : List DriverKey}
    (hkeys : ∀ key ∈ keys, ∃ record : DriverRecord, record.key = key ∧
      isStrictPublishedInfName record.publishedName = true) :
    ∃ records, run.readKeys keys = .ok records := by
  have hattempt : ∀ site, run.attempt site = .ok () := fun site => attempt_ok (hfault site)
  induction keys with
  | nil => exact ⟨[], by rw [readKeys, hattempt, bind_ok]⟩
  | cons key keys ih =>
    obtain ⟨record, rfl, hstrict⟩ := hkeys key List.mem_cons_self
    obtain ⟨records, hrest⟩ := ih fun other hmem => hkeys other (List.mem_cons_of_mem _ hmem)
    have hquery : queryInfSha256 record.key = .ok record.infHash := by
      rw [queryInfSha256, DriverRecord.key]
      exact dif_pos record.infHash.property
    have hread : run.readDriverRecord record.key = .ok record := by
      rw [readDriverRecord, hattempt, hattempt, hattempt, hquery]
      show (if (!isStrictPublishedInfName record.publishedName) = true then _ else _) = _
      rw [hstrict]
      rfl
    exact ⟨record :: records, by rw [readKeys, hread, bind_ok, hrest, bind_ok]⟩

theorem readDriverRecords_succeeds (hfault : ∀ site, run.fault site = none) {machine : Machine}
    (hkeys : ∀ key ∈ machine.ledger, ∃ record : DriverRecord, record.key = key ∧
      isStrictPublishedInfName record.publishedName = true) :
    ∃ records, run.readDriverRecords machine.registry = .ok records := by
  have hopen : run.attempt .openDriversKey = .ok () := attempt_ok (hfault _)
  rw [Machine.ledger] at hkeys
  rw [readDriverRecords, hopen, bind_ok]
  cases hdrivers : machine.registry.bind (·.drivers) with
  | none => exact ⟨[], rfl⟩
  | some keys =>
    rw [hdrivers] at hkeys
    apply readKeys_succeeds hfault
    intro key hmem
    exact hkeys key ((run.enumerates keys).mem_iff.mp hmem)

/-! ## The two passes -/

/-- The second pass removes the packages of the records it has passed, all of them unless it
stops. -/
theorem removeDriverPackages_eq_foldl (run : UninstallRun) (store : DriverStore)
    (rebootRequired : Bool) (records : List DriverRecord) :
    ∃ passed rest, records = passed ++ rest ∧
      (run.removeDriverPackages store rebootRequired records).2 =
        passed.foldl (fun store record => store.remove record.publishedName) store ∧
      ∀ reboot, (run.removeDriverPackages store rebootRequired records).1 = .ok reboot →
        rest = [] := by
  induction records generalizing store rebootRequired with
  | nil => exact ⟨[], [], rfl, rfl, fun _ _ => rfl⟩
  | cons record records ih =>
    have hstop : ∀ report : SetupReport, ∃ passed rest, record :: records = passed ++ rest ∧
        store = passed.foldl (fun store record => store.remove record.publishedName) store ∧
        ∀ reboot : Bool, (Except.error report : Except SetupReport Bool) = .ok reboot →
          rest = [] :=
      fun report => ⟨[], record :: records, rfl, rfl, nofun⟩
    have hpass : ∀ rebootRequired : Bool, ∃ passed rest, record :: records = passed ++ rest ∧
        (run.removeDriverPackages (store.remove record.publishedName) rebootRequired records).2 =
          passed.foldl (fun store record => store.remove record.publishedName) store ∧
        ∀ reboot, (run.removeDriverPackages (store.remove record.publishedName) rebootRequired
          records).1 = .ok reboot → rest = [] := by
      intro rebootRequired
      obtain ⟨passed, rest, hsplit, hstore, hall⟩ :=
        ih (store.remove record.publishedName) rebootRequired
      exact ⟨record :: passed, rest, by rw [hsplit, List.cons_append], hstore, hall⟩
    rw [removeDriverPackages]
    cases run.getInstalledInfPath record .windowsDirectoryAgain with
    | error error => exact hstop _
    | ok =>
      simp only
      split
      · rename_i hskip
        rw [skips, Bool.and_eq_true] at hskip
        have habsent := Option.isNone_iff_eq_none.mp hskip.2
        have hnext := hpass rebootRequired
        rw [DriverStore.remove_eq_self habsent] at hnext
        exact hnext
      · rw [removeDriverPackage]
        cases run.attempt (.record record.publishedName .uninstallDriver) with
        | error error => exact hstop _
        | ok =>
          cases hfound : store.installedInf record.publishedName with
          | none =>
            have hnext := hpass (rebootRequired || false)
            rw [DriverStore.remove_eq_self hfound] at hnext
            exact hnext
          | some found => exact hpass (rebootRequired || run.reboot record.publishedName)

/-- What the second pass leaves was there, and what it removes has a record. -/
theorem removeDriverPackages_spec (run : UninstallRun) (store : DriverStore) (rebootRequired : Bool)
    (records : List DriverRecord) :
    (∀ package ∈ (run.removeDriverPackages store rebootRequired records).2.packages,
      package ∈ store.packages) ∧
    (∀ package ∈ store.packages,
      package ∉ (run.removeDriverPackages store rebootRequired records).2.packages →
        ∃ record ∈ records, toLower package.publishedName = toLower record.publishedName) ∧
    ∀ reboot, (run.removeDriverPackages store rebootRequired records).1 = .ok reboot →
      ∀ record ∈ records,
        ∀ package ∈ (run.removeDriverPackages store rebootRequired records).2.packages,
          toLower package.publishedName ≠ toLower record.publishedName := by
  obtain ⟨passed, rest, hsplit, hstore, hall⟩ :=
    run.removeDriverPackages_eq_foldl store rebootRequired records
  rw [hstore]
  refine ⟨?_, ?_, ?_⟩
  · intro package hmem
    exact (DriverStore.mem_foldl_remove.mp hmem).1
  · intro package hmem habsent
    by_contra hnone
    apply habsent
    apply DriverStore.mem_foldl_remove.mpr
    refine ⟨hmem, ?_⟩
    intro record hrecord hname
    exact hnone ⟨record, hsplit ▸ List.mem_append_left rest hrecord, hname⟩
  · intro reboot hok record hrecord package hmem
    rw [hsplit, hall reboot hok, List.append_nil] at hrecord
    exact (DriverStore.mem_foldl_remove.mp hmem).2 record hrecord

/-- Without a fault the second pass goes through. -/
theorem removeDriverPackages_ok (hfault : ∀ site, run.fault site = none) (store : DriverStore)
    (rebootRequired : Bool) {records : List DriverRecord}
    (hstrict : ∀ record ∈ records, isStrictPublishedInfName record.publishedName = true) :
    ∃ reboot, (run.removeDriverPackages store rebootRequired records).1 = .ok reboot := by
  induction records generalizing store rebootRequired with
  | nil => exact ⟨rebootRequired, rfl⟩
  | cons record records ih =>
    have hrest := fun store rebootRequired =>
      ih store rebootRequired fun other hmem => hstrict other (List.mem_cons_of_mem _ hmem)
    have hpath : run.getInstalledInfPath record .windowsDirectoryAgain = .ok () := by
      rw [getInstalledInfPath, hstrict record List.mem_cons_self]
      exact attempt_ok (hfault _)
    have huninstall : run.attempt (.record record.publishedName .uninstallDriver) = .ok () :=
      attempt_ok (hfault _)
    simp only [removeDriverPackages, hpath, removeDriverPackage, huninstall]
    split
    · exact hrest store rebootRequired
    · cases store.installedInf record.publishedName with
      | none => exact hrest store _
      | some package => exact hrest _ _

section Hash

variable {sha256 : Bytes → Digest}

theorem validateInf_ne_fileNotFound (inf : Bytes) : validateInf inf ≠ .error .fileNotFound := by
  intro h
  rw [validateInf, readInfBytes] at h
  split at h
  · cases h
  · split at h
    · cases h
    · rw [bind_ok] at h
      split at h <;> cases h

/-- A package that is there passes the identity and hash check, or the check fails for good. -/
theorem validateRecordedInf_installed {store : DriverStore} {record : DriverRecord}
    {package : DriverPackage} (h : store.installedInf record.publishedName = some package) :
    (run.validateRecordedInf sha256 store record = .ok () ∧ validateInf package.inf = .ok () ∧
      sha256 package.inf = record.infHash) ∨
    ∃ error, run.validateRecordedInf sha256 store record = .error error ∧ error ≠ .fileNotFound := by
  have hfault : ∀ site error, run.attempt site = .error error → error ≠ .fileNotFound := by
    rintro site error hattempt rfl
    exact run.attempt_ne_fileNotFound site hattempt
  rw [validateRecordedInf, getInstalledInfPath]
  cases hstrict : isStrictPublishedInfName record.publishedName with
  | false => exact .inr ⟨.invalidName, rfl, nofun⟩
  | true =>
    cases hpath : run.attempt (.record record.publishedName .windowsDirectory) with
    | error error => exact .inr ⟨error, by rfl, hfault _ _ hpath⟩
    | ok =>
      cases hread : run.attempt (.record record.publishedName .readInf) with
      | error error => exact .inr ⟨error, by rfl, hfault _ _ hread⟩
      | ok =>
        rw [h]
        cases hinf : validateInf package.inf with
        | error error =>
          refine .inr ⟨error, by simp only [hinf]; rfl, ?_⟩
          rintro rfl
          exact validateInf_ne_fileNotFound _ hinf
        | ok =>
          cases hhash : run.attempt (.record record.publishedName .hashInf) with
          | error error =>
            refine .inr ⟨error, by simp only [hinf]; rfl, hfault _ _ hhash⟩
          | ok =>
            simp only [hinf, InstallRun.hashInf_ok hinf]
            by_cases hsame : sha256 package.inf = record.infHash
            · left
              refine ⟨?_, trivial, hsame⟩
              show (if sha256 package.inf ≠ record.infHash then _ else _) = _
              rw [if_neg (by simp [hsame])]
            · right
              refine ⟨.dataChecksumError, ?_, nofun⟩
              show (if sha256 package.inf ≠ record.infHash then _ else _) = _
              rw [if_pos hsame]

/-- What the first pass lets through has its check passed, when it is there at all. -/
theorem validateRecords_ok {store : DriverStore} {records : List DriverRecord}
    (h : run.validateRecords sha256 store records = .ok ()) :
    ∀ record ∈ records, ∀ package, store.installedInf record.publishedName = some package →
      run.validateRecordedInf sha256 store record = .ok () ∧ validateInf package.inf = .ok () ∧
        sha256 package.inf = record.infHash := by
  induction records with
  | nil => nofun
  | cons first records ih =>
    intro record hmem package hfound
    rw [validateRecords] at h
    rcases List.mem_cons.mp hmem with rfl | hmem
    · rcases @validateRecordedInf_installed run sha256 _ _ _ hfound with
        hvalid | ⟨error, hfails, hother⟩
      · exact hvalid
      · rw [hfails] at h
        split at h
        · rename_i heq
          cases heq
        · rename_i heq
          cases heq
          exact absurd rfl hother
        · cases h
    · apply ih _ record hmem package hfound
      split at h
      · exact h
      · exact h
      · cases h

/-- Without a fault the first pass lets valid records through. -/
theorem validateRecords_succeeds (hfault : ∀ site, run.fault site = none) {store : DriverStore}
    {records : List DriverRecord}
    (hvalid : ∀ record ∈ records, isStrictPublishedInfName record.publishedName = true ∧
      ∀ package, store.installedInf record.publishedName = some package →
        validateInf package.inf = .ok () ∧ sha256 package.inf = record.infHash) :
    run.validateRecords sha256 store records = .ok () := by
  have hattempt : ∀ site, run.attempt site = .ok () := fun site => attempt_ok (hfault site)
  induction records with
  | nil => rfl
  | cons record records ih =>
    have hrest := ih fun other hmem => hvalid other (List.mem_cons_of_mem _ hmem)
    obtain ⟨hstrict, hpackage⟩ := hvalid record List.mem_cons_self
    have hpath : run.getInstalledInfPath record .windowsDirectory = .ok () := by
      rw [getInstalledInfPath, hstrict]
      exact hattempt _
    rw [validateRecords]
    cases hfound : store.installedInf record.publishedName with
    | none =>
      have habsent : run.validateRecordedInf sha256 store record = .error .fileNotFound := by
        rw [validateRecordedInf, hpath, hattempt, hfound]
        rfl
      rw [habsent]
      exact hrest
    | some package =>
      obtain ⟨hinf, hsame⟩ := hpackage package hfound
      have hpasses : run.validateRecordedInf sha256 store record = .ok () := by
        rw [validateRecordedInf, hpath, hattempt, hfound, hattempt]
        simp only [hinf, InstallRun.hashInf_ok hinf, bind_ok]
        rw [if_neg (by simp [hsame])]
      rw [hpasses]
      exact hrest

end Hash

end UninstallRun

end LadoFlow.Windows
