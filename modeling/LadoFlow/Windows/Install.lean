import LadoFlow.Windows.SetupMachine

/-!
# Installing the driver package and the service

An install copies the driver package, creates or updates the service and records the package, and
rolls back what it created when a call fails. A failing call ends the run, so one failing call
describes every run; the calls of a rollback succeed.
-/

namespace LadoFlow.Windows

open Framework

inductive InstallCall where
  | openProcessToken
  | tokenInformation
  | supportedHost
  | payload
  | copyOemInf
  | readPublishedInf
  | hashSource
  | hashPublished
  | installDriver
  | service (call : ServiceCall)
  | createRootKey
  | setSchemaVersion
  | setInstallRoot
  | createDriversKey
  | createPackageKey
  | setInfSha256
  deriving DecidableEq, Repr

/-- A wait that ends in the state it waits for. -/
structure SettledWait (desired : ServiceState) where
  polls : Polls
  settles : (waitForServiceState desired polls.first polls.later).1 = .ok ()

/-- A wait that gives up. -/
structure FailedWait (desired : ServiceState) where
  polls : Polls
  fails : (waitForServiceState desired polls.first polls.later).1 ≠ .ok ()

/-- The state in which a wait leaves the service. -/
def FailedWait.final {desired : ServiceState} (wait : FailedWait desired) : ServiceState :=
  (waitForServiceState desired wait.polls.first wait.polls.later).2

/-- The call that fails, if one does. -/
inductive InstallFailure where
  | none
  | call (site : InstallCall) (code : UInt32)
  | waitStopped (wait : FailedWait .stopped)
  | waitRunning (wait : FailedWait .running)

/-- What one run is given: the payload, the answers of the system and the failing call. -/
structure InstallRun where
  root : InstallRoot
  inf : Bytes
  elevated : Bool
  naming : OemNaming
  reboot : Bool
  stopping : SettledWait .stopped
  starting : SettledWait .running
  stoppedByItself : Bool
  alreadyRunning : Bool
  failure : InstallFailure

structure DriverInstallResult where
  publishedName : WString
  infHash : Digest
  newlyCopied : Bool
  rebootRequired : Bool

def DriverInstallResult.empty : DriverInstallResult :=
  ⟨[], ⟨List.replicate 32 0, List.length_replicate⟩, false, false⟩

namespace InstallRun

variable (run : InstallRun)

def attempt (site : InstallCall) : Except Win32Error Unit :=
  match run.failure with
  | .call failing code => if failing = site then .error (.other code) else .ok ()
  | _ => .ok ()

/-- The answers of the service control manager in the run. -/
def calls : ServiceCalls where
  fault call :=
    match run.failure with
    | .call (.service failing) code => if failing = call then some code else none
    | _ => none
  stopPolls :=
    match run.failure with
    | .waitStopped wait => wait.polls
    | _ => run.stopping.polls
  startPolls :=
    match run.failure with
    | .waitRunning wait => wait.polls
    | _ => run.starting.polls
  stoppedByItself := run.stoppedByItself
  alreadyRunning := run.alreadyRunning
  markedForDelete := false

/-- The checks before anything is changed. -/
def precheck : Except SetupReport Unit :=
  match checkElevated "install" (run.attempt .openProcessToken) (run.attempt .tokenInformation)
      run.elevated with
  | .error report => .error report
  | .ok () =>
    match run.attempt .supportedHost with
    | .error error =>
      .error (printWin32Failure "install" "unsupported_host" error kExitInvalidPayload)
    | .ok () =>
      match (do run.attempt .payload; validateInf run.inf) with
      | .error error =>
        .error (printWin32Failure "install" "invalid_payload" error kExitInvalidPayload)
      | .ok () => .ok ()

/-- `SetupCopyOEMInfW`, which reports a package that is there under its published name. -/
def setupCopyOemInf (store : DriverStore) : DriverInstallResult × DriverStore :=
  match store.packages.find? (·.inf = run.inf) with
  | some package => ({ DriverInstallResult.empty with publishedName := package.publishedName }, store)
  | none =>
    ({ DriverInstallResult.empty with
        publishedName := run.naming.next store
        newlyCopied := true },
      store.publish run.naming run.inf)

section Hash

variable (sha256 : Bytes → Digest)

def hashInf (inf : Bytes) : Except Win32Error Digest := do
  let bytes ← readInfBytes inf
  .ok (sha256 bytes)

variable {sha256} in
theorem hashInf_ok {inf : Bytes} (h : validateInf inf = .ok ()) :
    hashInf sha256 inf = .ok (sha256 inf) := by
  rw [validateInf] at h
  rw [hashInf]
  cases hread : readInfBytes inf with
  | error error =>
    rw [hread] at h
    cases h
  | ok bytes =>
    have hbytes : inf = bytes := by
      rw [readInfBytes] at hread
      split at hread
      · cases hread
      · split at hread
        · cases hread
        · cases hread
          rfl
    rw [hbytes]
    rfl

/-- The checks between the copy and the installation: the hash of the published INF file. -/
def checkPublished (driver : DriverInstallResult) (store : DriverStore) :
    Except Win32Error Digest :=
  if !isStrictPublishedInfName driver.publishedName then
    .error (if driver.newlyCopied then .success else .fileExists)
  else do
  run.attempt .readPublishedInf
  match store.installedInf driver.publishedName with
  | none => .error .fileNotFound
  | some package => do
    validateInf package.inf
    run.attempt .hashSource
    let sourceHash ← hashInf sha256 run.inf
    run.attempt .hashPublished
    let infHash ← hashInf sha256 package.inf
    if sourceHash ≠ infHash then .error .dataChecksumError else .ok infHash

structure DriverOutcome where
  result : Except Win32Error Unit
  driver : DriverInstallResult
  store : DriverStore

def installDriverPackage (store : DriverStore) : DriverOutcome :=
  match run.attempt .copyOemInf with
  | .error error => ⟨.error error, .empty, store⟩
  | .ok () =>
    let copied := run.setupCopyOemInf store
    match run.checkPublished sha256 copied.1 copied.2 with
    | .error error => ⟨.error error, copied.1, copied.2⟩
    | .ok infHash =>
      match run.attempt .installDriver with
      | .error error => ⟨.error error, { copied.1 with infHash }, copied.2⟩
      | .ok () => ⟨.ok (), { copied.1 with infHash, rebootRequired := run.reboot }, copied.2⟩

end Hash

def rollBackNewDriver (driver : DriverInstallResult) (store : DriverStore) : DriverStore :=
  if driver.newlyCopied = false ∨ driver.publishedName = [] then store
  else store.remove driver.publishedName

/-- `RollBackNewService`, when the run has created the service. -/
def rollBackNewService (created : Bool) (service : Option ServiceRecord) : Option ServiceRecord :=
  if created then (ServiceCalls.succeeding.deleteOwnedService service).2 else service

/-- The key of a package in the driver ledger, new when it was not there. -/
def ensureKey (name : WString) (keys : List DriverKey) : Bool × List DriverKey :=
  if keys.any (·.name = name) then (false, keys) else (true, keys ++ [⟨name, none⟩])

def setInfSha256 (name : WString) (infHash : Bytes) (keys : List DriverKey) : List DriverKey :=
  keys.map fun key => if key.name = name then { key with infSha256 := some infHash } else key

def recordDriverPackage (driver : DriverInstallResult) (registry : Option RegistryTree) :
    Except Win32Error Unit × Option RegistryTree :=
  if !isStrictPublishedInfName driver.publishedName then (.error .invalidName, registry)
  else
  match run.attempt .createRootKey with
  | .error error => (.error error, registry)
  | .ok () =>
    let tree := registry.getD ⟨none, none, none⟩
    match run.attempt .setSchemaVersion with
    | .error error => (.error error, some tree)
    | .ok () =>
      let tree := { tree with schemaVersion := some 1 }
      match run.attempt .setInstallRoot with
      | .error error => (.error error, some tree)
      | .ok () =>
        let tree := { tree with installRoot := some run.root.path }
        match run.attempt .createDriversKey with
        | .error error => (.error error, some tree)
        | .ok () =>
          let keys := tree.drivers.getD []
          match run.attempt .createPackageKey with
          | .error error => (.error error, some { tree with drivers := some keys })
          | .ok () =>
            let name := toLower driver.publishedName
            let package := ensureKey name keys
            match run.attempt .setInfSha256 with
            | .error error =>
              -- A key that the call above created is deleted again.
              let keys := if package.1 then package.2.filter (·.name ≠ name) else package.2
              (.error error, some { tree with drivers := some keys })
            | .ok () =>
              (.ok (), some { tree with
                drivers := some (InstallRun.setInfSha256 name driver.infHash.val package.2) })

end InstallRun

open InstallRun in
/-- `RunInstall`: the report and the machine that it leaves. -/
def runInstall (sha256 : Bytes → Digest) (run : InstallRun) (machine : Machine) :
    SetupReport × Machine :=
  match run.precheck with
  | .error report => (report, machine)
  | .ok () =>
    let driver := run.installDriverPackage sha256 machine.store
    match driver.result with
    | .error error =>
      (printWin32Failure "install" "driver_install_failed" error kExitDriverFailure,
        { machine with store := rollBackNewDriver driver.driver driver.store })
    | .ok () =>
      let service := run.calls.installOrUpdateService run.root machine.service
      match service.result with
      | .error error =>
        (printWin32Failure "install" "service_install_failed" error kExitServiceFailure,
          { machine with
            store := rollBackNewDriver driver.driver driver.store
            service := rollBackNewService service.created service.service })
      | .ok () =>
        let record := run.recordDriverPackage driver.driver machine.registry
        match record.1 with
        | .error error =>
          let stopped := (ServiceCalls.succeeding.prepareExistingService service.service).2
          (printWin32Failure "install" "registry_write_failed" error kExitRegistryFailure,
            ⟨rollBackNewDriver driver.driver driver.store,
              rollBackNewService service.created stopped, record.2⟩)
        | .ok () =>
          (printSuccess "install" driver.driver.rebootRequired,
            ⟨driver.store, service.service, record.2⟩)

end LadoFlow.Windows
