import LadoFlow.Windows.DisplayController
import LadoFlow.Windows.DisplayServiceLaw
import Mathlib.Data.List.TakeWhile

/-!
# What the controller prints

Every line that the controller prints denotes a report, member by member: for a service without an answer
and for the response of a service whose device id is plain ASCII.
-/

namespace LadoFlow.Windows

open Framework Framework.Json Ipc

/-- The members of a report. -/
structure Report where
  protocolVersion : Nat
  serviceInstalled : Bool
  serviceState : String
  state : String
  pid : Nat
  requestResult : List Char
  lastError : List Char
  deviceInstanceId : List Char
  generation : Nat
  changed : Bool

def Report.members (report : Report) : Members :=
  [("protocolVersion".toList, .natural report.protocolVersion),
    ("serviceInstalled".toList, .boolean report.serviceInstalled),
    ("serviceState".toList, .text report.serviceState.toList),
    ("state".toList, .text report.state.toList),
    ("pid".toList, .natural report.pid),
    ("requestResult".toList, .text report.requestResult),
    ("lastError".toList, .text report.lastError),
    ("deviceInstanceId".toList, .text report.deviceInstanceId),
    ("generation".toList, .natural report.generation),
    ("changed".toList, .boolean report.changed)]

/-- The units of a device id before its terminator. -/
def Ipc.DeviceInstanceId.text (id : DeviceInstanceId) : List UInt16 := id.toList.takeWhile (· ≠ 0)

def unavailableReport (service : ServiceSnapshot) (result : Int32) (changed : Bool) : Report where
  protocolVersion := kVersion.toNat
  serviceInstalled := service.installed
  serviceState := scmStateName service.state
  state := "unavailable"
  pid := service.processId.toNat
  requestResult := formatResult result
  lastError := formatResult result
  deviceInstanceId := []
  generation := 0
  changed

def responseReport (service : ServiceSnapshot) (response : Response) : Report where
  protocolVersion := response.version.toNat
  serviceInstalled := true
  serviceState := scmStateName service.state
  state := stateName (.ofValue response.stateValue)
  pid := response.serviceProcessId.toNat
  requestResult := formatResult response.requestResult
  lastError := formatResult response.lastError
  deviceInstanceId := response.deviceInstanceId.text.map wideChar
  generation := response.generation.toNat
  changed := response.changed ≠ 0

section Ids

/-- A buffer that starts with these units and a terminator. -/
theorem takeWhile_ofFn {capacity : Nat} {unit : Fin capacity → UInt16} {copied : List UInt16}
    (hcopied : ∀ unit ∈ copied, unit ≠ 0) (hlength : copied.length < capacity)
    (hfirst : ∀ i (h : i < copied.length), unit ⟨i, Nat.lt_trans h hlength⟩ = copied[i])
    (hlast : unit ⟨copied.length, hlength⟩ = 0) : (List.ofFn unit).takeWhile (· ≠ 0) = copied := by
  have htake : (List.ofFn unit).take copied.length = copied := by
    apply List.ext_getElem
    · simp [Nat.le_of_lt hlength]
    · intro i hi hcopy
      simp [hfirst i hcopy]
  rw [← List.take_append_drop copied.length (List.ofFn unit), htake,
    List.drop_eq_getElem_cons (by simpa using hlength),
    List.takeWhile_append_of_pos (by simpa using hcopied)]
  simp [hlast]

/-- A copy is terminated within the buffer, whatever the buffer held. -/
theorem Ipc.DeviceInstanceId.text_wcsncpy (destination : DeviceInstanceId) (source : List UInt16) :
    (destination.wcsncpy source).text =
      (source.takeWhile (· ≠ 0)).take (kDeviceInstanceIdCapacity - 1) := by
  have hlength : ((source.takeWhile (· ≠ 0)).take (kDeviceInstanceIdCapacity - 1)).length <
      kDeviceInstanceIdCapacity := by
    rw [List.length_take]
    exact Nat.lt_of_le_of_lt (Nat.min_le_left _ _) (by decide)
  have hcopied : ∀ unit ∈ (source.takeWhile (· ≠ 0)).take (kDeviceInstanceIdCapacity - 1), unit ≠ 0 := by
    intro unit hunit
    simpa using List.mem_takeWhile_imp (List.mem_of_mem_take hunit)
  rw [text, wcsncpy, Vector.toList_ofFn]
  generalize (source.takeWhile (· ≠ 0)).take (kDeviceInstanceIdCapacity - 1) = copied at hcopied hlength
  apply takeWhile_ofFn hcopied hlength
  · intro i hi
    simp only [List.getElem?_eq_getElem hi]
  · simp

end Ids

section Texts

theorem memberText_boolean (name : String) (hname : name.toList.all isPlain = true) (value : Bool) :
    MemberText (member name (boolText value)) (name.toList, .boolean value) :=
  .mk (escapedText_plain hname) (.boolean value)

theorem memberText_number (name : String) (hname : name.toList.all isPlain = true) (value : Nat) :
    MemberText (member name (numberText value)) (name.toList, .natural value) :=
  .mk (escapedText_plain hname) (.natural value)

theorem memberText_quoted (name : String) (hname : name.toList.all isPlain = true)
    {spelling text : List Char} (h : EscapedText spelling text) :
    MemberText (member name (quoted spelling)) (name.toList, .text text) :=
  .mk (escapedText_plain hname) (.text h)

theorem all_setw {p : Char → Bool} {text : List Char} (hzero : p '0' = true) (h : text.all p = true)
    (width : Nat) : (setw width '0' text).all p = true := by
  rw [setw, List.all_append, h, Bool.and_true]
  simp [hzero]

theorem formatResult_plain (result : Int32) : (formatResult result).all isPlain = true := by
  have hdigits : ((Nat.toDigits 16 result.toUInt32.toNat).map Char.toUpper).all isPlain = true := by
    rw [List.all_eq_true]
    exact forall_toDigits (by decide) _
  rw [formatResult, List.all_append, all_setw (by decide) hdigits, Bool.and_true]
  decide

theorem scmStateName_plain (state : UInt32) : (scmStateName state).toList.all isPlain = true := by
  rw [scmStateName]
  split_ifs <;> decide

theorem stateName_plain (state : ServiceState) : (stateName state).toList.all isPlain = true := by
  cases state <;> decide

theorem wideChar_toNat {unit : UInt16} (h : unit < 0x80) : (wideChar unit).toNat = unit.toNat := by
  have hsmall : ∀ n < 128, (Char.ofNat n).toNat = n := by decide
  exact hsmall unit.toNat (UInt16.lt_iff_toNat_lt.mp h)

/-- The controls without a letter of their own are spelled with four digits. -/
theorem setw_control : ∀ n < 32, setw 4 '0' (Nat.toDigits 16 n) =
      ['0', '0', Nat.digitChar (n / 16), Nat.digitChar (n % 16)] ∧
    hexNumber ['0', '0', Nat.digitChar (n / 16), Nat.digitChar (n % 16)] = some n := by
  decide

theorem escapeUnit_escapedChar {unit : UInt16} (h : unit < 0x80) :
    EscapedChar (escapeUnit unit) (wideChar unit) := by
  rw [escapeUnit]
  split_ifs with hbackslash hquote h8 h12 h10 h13 h9 hcontrol
  · rw [hbackslash]
    exact .short _ _ rfl
  · rw [hquote]
    exact .short _ _ rfl
  · rw [h8]
    exact .short _ _ rfl
  · rw [h12]
    exact .short _ _ rfl
  · rw [h10]
    exact .short _ _ rfl
  · rw [h13]
    exact .short _ _ rfl
  · rw [h9]
    exact .short _ _ rfl
  · have hlt : unit.toNat < 32 := UInt16.lt_iff_toNat_lt.mp hcontrol
    obtain ⟨hdigits, hnumber⟩ := setw_control unit.toNat hlt
    rw [hdigits]
    exact .unicode _ _ _ _ _ hnumber (.inl (Nat.lt_trans hlt (by decide)))
  · refine .plain _ ?_ hquote hbackslash
    rw [wideChar_toNat h]
    exact UInt16.le_iff_toNat_le.mp (UInt16.not_lt.mp hcontrol)

theorem escapeJson_escapedText {value : List UInt16} (h : ∀ unit ∈ value, unit < 0x80) :
    EscapedText (escapeJson value) (value.map wideChar) :=
  escapedText_flatMap fun unit hunit => escapeUnit_escapedChar (h unit hunit)

end Texts

section Lines

variable (service : ServiceSnapshot)

theorem printUnavailable_denotes (result : Int32) (changed : Bool) :
    ∃ text, printUnavailable service result changed = text ++ [lineFeed] ∧
      ObjectText text (unavailableReport service result changed).members := by
  refine ⟨_, rfl, .mk (membersText_intercalate ?_ (List.cons_ne_nil _ _))⟩
  have hresult := escapedText_plain (formatResult_plain result)
  exact .cons (memberText_number _ (by decide) _) <|
    .cons (memberText_boolean _ (by decide) _) <|
    .cons (memberText_quoted _ (by decide) (escapedText_plain (scmStateName_plain _))) <|
    .cons (memberText_quoted _ (by decide) (escapedText_plain (by decide))) <|
    .cons (memberText_number _ (by decide) _) <|
    .cons (memberText_quoted _ (by decide) hresult) <|
    .cons (memberText_quoted _ (by decide) hresult) <|
    .cons (memberText_quoted _ (by decide) .nil) <|
    .cons (memberText_number _ (by decide) _) <|
    .cons (memberText_boolean _ (by decide) _) .nil

theorem printResponse_denotes {response : Response}
    (h : ∀ unit ∈ response.deviceInstanceId.text, unit < 0x80) :
    ∃ text, printResponse service response = text ++ [lineFeed] ∧
      ObjectText text (responseReport service response).members := by
  refine ⟨_, rfl, .mk (membersText_intercalate ?_ (List.cons_ne_nil _ _))⟩
  have hformat := fun result => escapedText_plain (formatResult_plain result)
  exact .cons (memberText_number _ (by decide) _) <|
    .cons (memberText_boolean _ (by decide) _) <|
    .cons (memberText_quoted _ (by decide) (escapedText_plain (scmStateName_plain _))) <|
    .cons (memberText_quoted _ (by decide) (escapedText_plain (stateName_plain _))) <|
    .cons (memberText_number _ (by decide) _) <|
    .cons (memberText_quoted _ (by decide) (hformat _)) <|
    .cons (memberText_quoted _ (by decide) (hformat _)) <|
    .cons (memberText_quoted _ (by decide) (escapeJson_escapedText h)) <|
    .cons (memberText_number _ (by decide) _) <|
    .cons (memberText_boolean _ (by decide) _) .nil

end Lines

/-- The id that the system reports with the device is plain ASCII. -/
def EnableOutcome.Ascii (outcome : EnableOutcome) : Prop :=
  match outcome.wait with
  | .completed _ (some text) => ∀ unit ∈ text, unit < 0x80
  | _ => True

/-- What the service publishes can be printed and read by name. -/
structure DeviceOwner.Readable (owner : DeviceOwner) : Prop where
  state : owner.snapshot.state ≠ .starting ∧ owner.snapshot.state ≠ .unavailable
  ascii : ∀ unit ∈ owner.snapshot.deviceInstanceId.text, unit < 0x80
  short : owner.snapshot.deviceInstanceId.text.length < kDeviceInstanceIdCapacity

namespace DeviceOwner

section Service

theorem text_empty : DeviceInstanceId.empty.text = [] := by
  rw [DeviceInstanceId.text, DeviceInstanceId.empty, Vector.toList_replicate, List.takeWhile_replicate]
  rfl

theorem readable_new : new.Readable :=
  ⟨by decide, by simp [new, text_empty], by simp [new, text_empty, kDeviceInstanceIdCapacity]⟩

variable {owner : DeviceOwner}

theorem Readable.setState (h : owner.Readable) {state : ServiceState} (hstarting : state ≠ .starting)
    (hunavailable : state ≠ .unavailable) (result : Int32) : (owner.setState state result).Readable :=
  ⟨⟨hstarting, hunavailable⟩, h.ascii, h.short⟩

theorem Readable.clearDeviceIdentity (h : owner.Readable) : owner.clearDeviceIdentity.Readable where
  state := h.state
  ascii := by simp [DeviceOwner.clearDeviceIdentity, setIdentity, text_empty]
  short := by simp [DeviceOwner.clearDeviceIdentity, setIdentity, text_empty, kDeviceInstanceIdCapacity]

theorem Readable.closeDevice (h : owner.Readable) : owner.closeDevice.Readable := by
  rw [DeviceOwner.closeDevice]
  split
  · exact h.clearDeviceIdentity
  · exact @Readable.clearDeviceIdentity { owner with device := none, calls := _ } ⟨h.state, h.ascii, h.short⟩

/-- The id of the callback is terminated, and plain when the reported one is. -/
theorem creation_id (createResult : Int32) {deviceInstanceId : Option (List UInt16)}
    (h : ∀ text ∈ deviceInstanceId, ∀ unit ∈ text, unit < 0x80) :
    let id := (deviceCreationCallback createResult deviceInstanceId).deviceInstanceId
    (∀ unit ∈ id.text, unit < 0x80) ∧ id.text.length < kDeviceInstanceIdCapacity := by
  have hempty : (∀ unit ∈ DeviceInstanceId.empty.text, unit < 0x80) ∧
      DeviceInstanceId.empty.text.length < kDeviceInstanceIdCapacity := by
    simp [text_empty, kDeviceInstanceIdCapacity]
  cases deviceInstanceId with
  | none => exact hempty
  | some text =>
    simp only [deviceCreationCallback]
    split
    · exact hempty
    · rw [DeviceInstanceId.text_wcsncpy]
      constructor
      · intro unit hunit
        exact h text rfl unit ((List.takeWhile_sublist _).mem (List.mem_of_mem_take hunit))
      · rw [List.length_take]
        exact Nat.lt_of_le_of_lt (Nat.min_le_left _ _) (by decide)

theorem Readable.awaitDevice (h : owner.Readable) {outcome : EnableOutcome} (hascii : outcome.Ascii) :
    (owner.awaitDevice outcome.wait).2.2.Readable := by
  rw [EnableOutcome.Ascii] at hascii
  cases hwait : outcome.wait with
  | completed createResult deviceInstanceId =>
    rw [hwait] at hascii
    have hid : ∀ text ∈ deviceInstanceId, ∀ unit ∈ text, unit < 0x80 := by
      rintro text ⟨⟩
      exact hascii
    obtain ⟨hunits, hshort⟩ := creation_id createResult hid
    rw [DeviceOwner.awaitDevice]
    split
    · exact h.closeDevice.setState (by decide) (by decide) _
    · have hidentity : (owner.setIdentity
          (deviceCreationCallback createResult deviceInstanceId).deviceInstanceId).Readable :=
        ⟨h.state, hunits, hshort⟩
      exact hidentity.setState (by decide) (by decide) 0
  | stopRequested => exact h.closeDevice.setState (by decide) (by decide) _
  | timedOut => exact h.closeDevice.setState (by decide) (by decide) _
  | failed lastError => exact h.closeDevice.setState (by decide) (by decide) _

theorem Readable.enable (h : owner.Readable) {outcome : EnableOutcome} (hascii : outcome.Ascii) :
    (owner.enable outcome).2.2.Readable := by
  have henabling : ∀ closed : DeviceOwner, closed.Readable → (closed.setState .enabling 0).Readable :=
    fun closed hclosed => hclosed.setState (by decide) (by decide) 0
  have hclosed : (if owner.device.isSome then owner.closeDevice else owner).Readable := by
    split
    · exact h.closeDevice
    · exact h
  rw [DeviceOwner.enable]
  split
  · exact ⟨h.state, h.ascii, h.short⟩
  · dsimp only
    split
    · exact (henabling _ hclosed).setState (by decide) (by decide) _
    · split
      · exact (henabling _ hclosed).setState (by decide) (by decide) _
      · obtain ⟨hstate, hunits, hshort⟩ := henabling _ hclosed
        have hheld : (((if owner.device.isSome then owner.closeDevice else owner).setState .enabling 0).hold
            outcome.deviceCreation.candidate).Readable := ⟨hstate, hunits, hshort⟩
        exact hheld.awaitDevice hascii

theorem Readable.disable (h : owner.Readable) (stopping : Bool) :
    (owner.disable stopping).2.2.Readable := by
  have hstarting : (if stopping then ServiceState.stopping else .ready) ≠ .starting := by
    cases stopping <;> decide
  have hunavailable : (if stopping then ServiceState.stopping else .ready) ≠ .unavailable := by
    cases stopping <;> decide
  rw [DeviceOwner.disable]
  split
  · exact (h.setState (by decide) (by decide) 0).closeDevice.setState hstarting hunavailable 0
  · exact h.clearDeviceIdentity.setState hstarting hunavailable 0

theorem Readable.executeRequest (h : owner.Readable) {pipe : PipeRequest} (hascii : pipe.outcome.Ascii) :
    (executeRequest owner pipe).2.Readable := by
  show (dispatch owner pipe).2.2.Readable
  rw [dispatch]
  split
  · exact h
  · split
    · exact h.enable hascii
    · exact h.disable false
    · exact h
    · exact h
    · exact h

theorem readable_serve (h : owner.Readable) {requests : List PipeRequest}
    (hascii : ∀ pipe ∈ requests, pipe.outcome.Ascii) : (serve owner requests).Readable := by
  induction requests generalizing owner with
  | nil => exact h
  | cons pipe requests ih =>
    exact ih (h.executeRequest (hascii pipe List.mem_cons_self)) fun other hother =>
      hascii other (List.mem_cons_of_mem pipe hother)

/-- A response carries the whole id. -/
theorem Readable.text_response {pipe : PipeRequest} (h : (Windows.executeRequest owner pipe).2.Readable) :
    (Windows.executeRequest owner pipe).1.deviceInstanceId.text =
      (Windows.executeRequest owner pipe).2.snapshot.deviceInstanceId.text := by
  have hshort := h.short
  show (DeviceInstanceId.empty.wcsncpy _).text = _
  rw [DeviceInstanceId.text_wcsncpy]
  exact List.take_of_length_le (Nat.le_of_lt_succ hshort)

end Service

end DeviceOwner

section Runs

variable (owner : DeviceOwner) (command : Command) (call : PipeCall)

/-- The request that a call makes. -/
def requestOf : PipeRequest :=
  ⟨makeRequest command (nextCorrelationId call.counter), call.outcome, call.ownProcessId⟩

theorem validateRequest_requestOf : validateRequest (requestOf command call).request = true := by
  have hid : nextCorrelationId call.counter ≠ 0 := by
    rw [nextCorrelationId]
    split
    · decide
    · assumption
  cases command <;> simp [requestOf, makeRequest, validateRequest, isKnownCommand, Command.value, hid]

/-- A run that prints that there is no answer, or the answer of a running service. -/
inductive Prints (run : ControllerRun) : Prop
  | unavailable (service : ServiceSnapshot) (result : Int32) (hexit : command ≠ .status → run.exitCode ≠ 0)
    (houtput : run.output = printUnavailable service result false)
    (howner : run.owner = owner ∨ run.owner = (executeRequest owner (requestOf command call)).2)
  | response (service : ServiceSnapshot) (hrunning : service.state = serviceRunning)
    (hexit : run.exitCode =
      if failed (executeRequest owner (requestOf command call)).1.requestResult then 25 else 0)
    (houtput : run.output = printResponse service (executeRequest owner (requestOf command call)).1)
    (howner : run.owner = (executeRequest owner (requestOf command call)).2)

theorem transact_cases (pipe : PipeRequest) (transaction : Transaction) :
    (∃ result after, transact owner pipe transaction = (.error result, after) ∧
        (after = owner ∨ after = (executeRequest owner pipe).2)) ∨
      transact owner pipe transaction =
        (.ok (executeRequest owner pipe).1, (executeRequest owner pipe).2) := by
  cases transaction with
  | failed lastError executed =>
    cases executed
    · exact .inl ⟨_, _, rfl, .inl rfl⟩
    · exact .inl ⟨_, _, rfl, .inr rfl⟩
  | completed bytesRead =>
    simp only [transact]
    split
    · exact .inl ⟨_, _, rfl, .inr rfl⟩
    · exact .inr rfl

theorem callService_cases (service : ServiceSnapshot) :
    (∃ result after, callService owner command service call = (.error result, after) ∧
        (after = owner ∨ after = (executeRequest owner (requestOf command call)).2)) ∨
      (service.state = serviceRunning ∧ callService owner command service call =
        (.ok (executeRequest owner (requestOf command call)).1,
          (executeRequest owner (requestOf command call)).2)) := by
  rw [callService]
  split
  · exact .inl ⟨_, _, rfl, .inl rfl⟩
  · rename_i hservice
    have hrunning : service.state = serviceRunning := by
      simp only [Bool.or_eq_true, decide_eq_true_eq, not_or, not_not, ne_eq] at hservice
      simpa using hservice.1
    split
    · exact .inl ⟨_, _, rfl, .inl rfl⟩
    · exact .inl ⟨_, _, rfl, .inl rfl⟩
    · exact .inl ⟨_, _, rfl, .inl rfl⟩
    · split
      · exact .inl ⟨_, _, rfl, .inl rfl⟩
      · split
        · exact .inl ⟨_, _, rfl, .inl rfl⟩
        · rcases transact_cases owner (requestOf command call) call.transaction with hfailed | hok
          · exact .inl hfailed
          · exact .inr ⟨hrunning, hok⟩

theorem prints_failure {service : ServiceSnapshot} {result : Int32} {exitCode : Nat} {after : DeviceOwner}
    (hexit : exitCode ≠ 0)
    (hafter : after = owner ∨ after = (executeRequest owner (requestOf command call)).2) :
    Prints owner command call ⟨exitCode, printUnavailable service result false, after⟩ :=
  .unavailable service result (fun _ => hexit) rfl hafter

theorem finishCall_prints (environment : ControllerEnvironment) (snapshot : ServiceSnapshot) :
    Prints owner command environment.call (finishCall owner command environment snapshot) := by
  rw [finishCall]
  rcases callService_cases owner command environment.call snapshot with
    ⟨result, after, hcall, hafter⟩ | ⟨hrunning, hcall⟩
  · rw [hcall]
    exact prints_failure owner command environment.call (by decide) hafter
  · rw [hcall]
    exact .response snapshot hrunning rfl rfl rfl

theorem execute_prints (environment : ControllerEnvironment) (startService : Bool) :
    Prints owner command environment.call (execute owner command environment startService) := by
  rw [execute]
  split
  rename_i queried snapshot hquery
  split
  · refine .unavailable snapshot _ (fun hcommand => ?_) rfl (.inl rfl)
    simp only [if_neg hcommand]
    split <;> decide
  · split
    · rw [startAndCall]
      dsimp only
      split
      · exact prints_failure owner command environment.call (by decide) (.inl rfl)
      · split
        · exact prints_failure owner command environment.call (by decide) (.inl rfl)
        · exact finishCall_prints owner command environment _
    · split
      · refine .unavailable snapshot _ (fun hcommand => ?_) rfl (.inl rfl)
        simp [hcommand]
      · exact finishCall_prints owner command environment snapshot

end Runs

end LadoFlow.Windows
