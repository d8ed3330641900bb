import LadoFlow.Windows.SetupText
import Mathlib.Data.List.Nodup

/-!
# What the setup helper changes

The driver store, the display service and the registry tree, with the calls of the helper on them. A
call that fails reports a code of its own: that an object is absent or present already is reported
only when it is.
-/

namespace LadoFlow.Windows

open Framework

inductive ServiceState where
  | stopped
  | startPending
  | stopPending
  | running
  | continuePending
  | pausePending
  | paused
  deriving DecidableEq, Repr

structure ServiceRecord where
  command : WString
  account : WString
  displayName : WString
  state : ServiceState
  deriving DecidableEq, Repr

/-- A package of the driver store and the bytes of its published INF file. -/
structure DriverPackage where
  publishedName : WString
  inf : Bytes
  deriving DecidableEq, Repr

/-- A key of the driver ledger, named like its package, with the value `InfSha256`. -/
structure DriverKey where
  name : WString
  infSha256 : Option Bytes
  deriving DecidableEq, Repr

structure RegistryTree where
  schemaVersion : Option UInt32
  installRoot : Option WString
  drivers : Option (List DriverKey)
  deriving DecidableEq, Repr

/-- The driver store publishes each package under a name of its own. -/
structure DriverStore where
  packages : List DriverPackage
  distinct : (packages.map fun package => toLower package.publishedName).Nodup
  deriving DecidableEq

structure Machine where
  store : DriverStore
  service : Option ServiceRecord
  registry : Option RegistryTree
  deriving DecidableEq

inductive Win32Error where
  | success
  | fileNotFound
  | fileExists
  | fileInvalid
  | fileTooLarge
  | invalidName
  | invalidData
  | moreData
  | dataChecksumError
  | elevationRequired
  | serviceExists
  | serviceNotActive
  | timeout
  | other (code : UInt32)
  deriving DecidableEq, Repr

abbrev Digest := { bytes : Bytes // bytes.length = 32 }

inductive ServiceCall where
  | openManager
  | openService
  | queryConfig
  | queryStatus
  | control
  | create
  | changeConfig
  | description
  | delayedAutoStart
  | failureActions
  | failureActionsFlag
  | start
  | delete
  deriving DecidableEq, Repr

/-- One status query of a wait: the state the service is in, its exit code, and the failure of the
query itself. -/
structure Poll where
  state : ServiceState
  exitCode : Option UInt32
  fault : Option UInt32
  deriving DecidableEq, Repr

/-- The queries up to the deadline. -/
structure Polls where
  first : Poll
  later : List Poll
  deriving DecidableEq, Repr

def waitForServiceState (desired : ServiceState) (poll : Poll) :
    List Poll → Except Win32Error Unit × ServiceState
  | [] => (pollOnce, poll.state)
  | next :: later =>
    match pollOnce with
    | .error .timeout => waitForServiceState desired next later
    | result => (result, poll.state)
where
  /-- What one query decides; a timeout at the last one. -/
  pollOnce : Except Win32Error Unit :=
    match poll.fault with
    | some code => .error (.other code)
    | none =>
      if poll.state = desired then .ok ()
      else if desired = .running ∧ poll.state = .stopped then
        .error (match poll.exitCode with | some code => .other code | none => .serviceNotActive)
      else .error .timeout

/-- How the service control manager answers: the failing calls, the states seen while the helper
waits, and the answers that count as success. -/
structure ServiceCalls where
  fault : ServiceCall → Option UInt32
  stopPolls : Polls
  startPolls : Polls
  stoppedByItself : Bool
  alreadyRunning : Bool
  markedForDelete : Bool

namespace ServiceRecord

def binaryMatches (service : ServiceRecord) : Bool :=
  (parseServiceCommand service.command).any fun executable =>
    toLower (baseName executable) = toLower kServiceBinaryName

def accountMatches (service : ServiceRecord) : Bool :=
  toLower service.account ∈ ["localsystem".toList, "nt authority\\system".toList,
    ".\\localsystem".toList]

/-- The service is the one of this product. -/
def owned (service : ServiceRecord) : Bool :=
  service.binaryMatches && service.accountMatches && service.displayName = kServiceDisplayName

/-- What `CreateServiceW` makes of the command of an install. -/
def new (root : InstallRoot) : ServiceRecord where
  command := root.command
  account := "LocalSystem".toList
  displayName := kServiceDisplayName
  state := .stopped

/-- `ChangeServiceConfigW`, which keeps the account. -/
def update (service : ServiceRecord) (root : InstallRoot) : ServiceRecord :=
  { service with command := root.command, displayName := kServiceDisplayName }

end ServiceRecord

namespace ServiceCalls

variable (calls : ServiceCalls)

/-- The calls of a rollback. -/
def succeeding : ServiceCalls where
  fault _ := none
  stopPolls := ⟨⟨.stopped, none, none⟩, []⟩
  startPolls := ⟨⟨.running, none, none⟩, []⟩
  stoppedByItself := false
  alreadyRunning := false
  markedForDelete := false

/-- The first of the calls that fails. -/
def attempt (sites : List ServiceCall) : Except Win32Error Unit :=
  match sites.findSome? calls.fault with
  | some code => .error (.other code)
  | none => .ok ()

def isOwnedServiceConfiguration (service : ServiceRecord) : Except Win32Error Unit := do
  calls.attempt [.queryConfig]
  if service.owned then .ok () else .error .serviceExists

/-- The stop request, which a service that is stopping already does not get. -/
def requestStop (service : ServiceRecord) : Except Win32Error Unit :=
  if service.state = .stopPending then .ok ()
  else if calls.stoppedByItself then .ok ()
  else calls.attempt [.control]

def stopServiceHandle (service : ServiceRecord) : Except Win32Error Unit × ServiceRecord :=
  match calls.attempt [.queryStatus] with
  | .error error => (.error error, service)
  | .ok () =>
    if service.state = .stopped then (.ok (), service)
    else
    match calls.requestStop service with
    | .error error => (.error error, service)
    | .ok () =>
      let wait := waitForServiceState .stopped calls.stopPolls.first calls.stopPolls.later
      (wait.1, { service with state := wait.2 })

/-- `IsOwnedServiceConfiguration` and then `StopServiceHandle`. -/
def stopOwned (service : ServiceRecord) : Except Win32Error Unit × ServiceRecord :=
  match calls.isOwnedServiceConfiguration service with
  | .error error => (.error error, service)
  | .ok () => calls.stopServiceHandle service

def prepareExistingService (service : Option ServiceRecord) :
    Except Win32Error Unit × Option ServiceRecord :=
  match calls.attempt [.openManager, .openService], service with
  | .error error, _ => (.error error, service)
  | .ok (), none => (.ok (), none)
  | .ok (), some record =>
    let stopped := calls.stopOwned record
    (stopped.1, some stopped.2)

/-- The description, delayed start and recovery actions of the service. -/
def configureService : Except Win32Error Unit :=
  calls.attempt [.description, .delayedAutoStart, .failureActions, .failureActionsFlag]

def startService : Except Win32Error Unit :=
  if calls.alreadyRunning then .ok () else calls.attempt [.start]

/-- The end of `InstallOrUpdateService`, once the service has its command. -/
def configureAndStart (service : ServiceRecord) : Except Win32Error Unit × ServiceRecord :=
  match calls.configureService with
  | .error error => (.error error, service)
  | .ok () =>
    match calls.startService with
    | .error error => (.error error, service)
    | .ok () =>
      let wait := waitForServiceState .running calls.startPolls.first calls.startPolls.later
      (wait.1, { service with state := wait.2 })

structure ServiceOutcome where
  result : Except Win32Error Unit
  created : Bool
  service : Option ServiceRecord

def installOrUpdateService (root : InstallRoot) (service : Option ServiceRecord) :
    ServiceOutcome :=
  match calls.attempt [.openManager, .openService], service with
  | .error error, _ => ⟨.error error, false, service⟩
  | .ok (), none =>
    match calls.attempt [.create] with
    | .error error => ⟨.error error, false, none⟩
    | .ok () =>
      let started := calls.configureAndStart (.new root)
      ⟨started.1, true, some started.2⟩
  | .ok (), some record =>
    match calls.stopOwned record with
    | (.error error, record) => ⟨.error error, false, some record⟩
    | (.ok (), record) =>
      match calls.attempt [.changeConfig] with
      | .error error => ⟨.error error, false, some record⟩
      | .ok () =>
        let started := calls.configureAndStart (record.update root)
        ⟨started.1, false, some started.2⟩

/-- A service that is marked for deletion is gone once the helper lets go of it. -/
def deleteOwnedService (service : Option ServiceRecord) :
    Except Win32Error Unit × Option ServiceRecord :=
  match calls.attempt [.openManager, .openService], service with
  | .error error, _ => (.error error, service)
  | .ok (), none => (.ok (), none)
  | .ok (), some record =>
    match calls.stopOwned record with
    | (.error error, record) => (.error error, some record)
    | (.ok (), record) =>
      if calls.markedForDelete then (.ok (), none)
      else
      match calls.attempt [.delete] with
      | .error error => (.error error, some record)
      | .ok () => (.ok (), none)

end ServiceCalls

namespace DriverStore

/-- The package whose published INF file has the name. -/
def installedInf (store : DriverStore) (name : WString) : Option DriverPackage :=
  store.packages.find? fun package => toLower package.publishedName = toLower name

theorem installedInf_eq_some {store : DriverStore} {name : WString} {package : DriverPackage}
    (h : store.installedInf name = some package) :
    package ∈ store.packages ∧ toLower package.publishedName = toLower name := by
  rw [installedInf] at h
  have hname := List.find?_some h
  exact ⟨List.mem_of_find?_eq_some h, of_decide_eq_true hname⟩

theorem installedInf_of_mem {store : DriverStore} {package : DriverPackage} {name : WString}
    (hmem : package ∈ store.packages) (hname : toLower package.publishedName = toLower name) :
    store.installedInf name = some package := by
  cases hfound : store.installedInf name with
  | none =>
    have habsent := List.find?_eq_none.mp hfound package hmem
    exact absurd (decide_eq_true hname) habsent
  | some found =>
    obtain ⟨hfoundMem, hfoundName⟩ := installedInf_eq_some hfound
    have hsame := List.inj_on_of_nodup_map store.distinct hfoundMem hmem
      (hfoundName.trans hname.symm)
    rw [hsame]

/-- The store without the package of a name. -/
def remove (store : DriverStore) (name : WString) : DriverStore where
  packages := store.packages.filter fun package =>
    toLower package.publishedName ≠ toLower name
  distinct := store.distinct.sublist (List.filter_sublist.map _)

end DriverStore

/-- How the driver store names a new package: never like one that it holds. -/
structure OemNaming where
  next : DriverStore → WString
  named : ∀ store, next store ≠ []
  fresh : ∀ store, ∀ package ∈ store.packages,
    toLower package.publishedName ≠ toLower (next store)

namespace DriverStore

def publish (store : DriverStore) (naming : OemNaming) (inf : Bytes) : DriverStore where
  packages := store.packages ++ [⟨naming.next store, inf⟩]
  distinct := by
    rw [List.map_append]
    apply List.nodup_append.mpr
    refine ⟨store.distinct, List.nodup_singleton _, ?_⟩
    intro name hname other hother
    obtain ⟨package, hpackage, rfl⟩ := List.mem_map.mp hname
    rw [List.mem_singleton.mp hother]
    exact naming.fresh store package hpackage

/-- Removing what was just published restores the store. -/
theorem remove_publish (store : DriverStore) (naming : OemNaming) (inf : Bytes) :
    (store.publish naming inf).remove (naming.next store) = store := by
  have hkeep : store.packages.filter (fun package =>
      toLower package.publishedName ≠ toLower (naming.next store)) = store.packages := by
    apply List.filter_eq_self.mpr
    intro package hpackage
    exact decide_eq_true (naming.fresh store package hpackage)
  obtain ⟨packages, hdistinct⟩ := store
  simp only [remove, publish, DriverStore.mk.injEq, List.filter_append]
  rw [hkeep]
  simp

end DriverStore

/-- `ReadFileBytes` of an INF file that is there. -/
def readInfBytes (inf : Bytes) : Except Win32Error Bytes :=
  if inf = [] then .error .fileInvalid
  else if kMaximumInfBytes < inf.length then .error .fileTooLarge
  else .ok inf

def validateInf (inf : Bytes) : Except Win32Error Unit := do
  let bytes ← readInfBytes inf
  if hasLadoFlowInfIdentity bytes then .ok () else .error .invalidData

structure SetupReport where
  operation : String
  success : Bool
  errorCode : String
  win32 : Option Win32Error
  rebootRequired : Bool
  exitCode : Nat
  deriving DecidableEq, Repr

def kExitInvalidPayload : Nat := 10
def kExitElevationRequired : Nat := 11
def kExitServiceFailure : Nat := 12
def kExitDriverFailure : Nat := 13
def kExitRegistryFailure : Nat := 14
def kExitVerificationFailure : Nat := 15
def kExitRebootRequired : Nat := 3010

def printWin32Failure (operation errorCode : String) (error : Win32Error) (exitCode : Nat) :
    SetupReport :=
  ⟨operation, false, errorCode, some error, false, exitCode⟩

/-- `IsElevated` and its report: the calls that query the token of the process, and what it says. -/
def checkElevated (operation : String) (openToken tokenInformation : Except Win32Error Unit)
    (elevated : Bool) : Except SetupReport Unit :=
  match (do openToken; tokenInformation) with
  | .error error =>
    .error (printWin32Failure operation "token_query_failed" error kExitElevationRequired)
  | .ok () =>
    if elevated then .ok ()
    else
      .error (printWin32Failure operation "elevation_required" .elevationRequired
        kExitElevationRequired)

def printSuccess (operation : String) (rebootRequired : Bool) : SetupReport :=
  ⟨operation, true, "none", none, rebootRequired, if rebootRequired then kExitRebootRequired else 0⟩

end LadoFlow.Windows
