import LadoFlow.Host.VirtualDisplay
import LadoFlow.Windows.ControllerText
import Mathlib.Algebra.Group.Nat.Defs
import Mathlib.Algebra.Group.Int.Defs

/-!
# The virtual display from the service to the host

The host reads every line that the controller prints, and what it shows is what the service holds: after any
requests to the service and in any environment of the controller.
-/

namespace LadoFlow.System

open Framework Framework.Json Host Windows Windows.Ipc

/-- How the host names the state of a service that it reached. -/
def hostState : ServiceState → VirtualDisplayState
  | .ready => .ready
  | .enabling => .enabling
  | .enabled => .enabled
  | .disabling => .disabling
  | .failed => .failed
  | .stopping => .stopping
  | .unavailable | .starting => .serviceStopped

/-- The status shows the device of the owner. -/
structure Shows (status : VirtualDisplayStatus) (owner : DeviceOwner) : Prop where
  state : status.state = hostState owner.snapshot.state
  enabled : status.enabled = owner.device.isSome
  generation : status.generation = owner.snapshot.generation
  deviceInstanceId : status.deviceInstanceId =
    if owner.snapshot.deviceInstanceId.text = [] then none
    else some (owner.snapshot.deviceInstanceId.text.map wideChar)
  lastError : status.lastError =
    if owner.snapshot.lastError = 0 then none else some (formatResult owner.snapshot.lastError)

/-- The status shows that no service answered. -/
structure ShowsNoService (status : VirtualDisplayStatus) : Prop where
  state : status.state = .notInstalled ∨ status.state = .serviceStopped
  enabled : status.enabled = false
  deviceInstanceId : status.deviceInstanceId = none

section Results

theorem length_hexDigits (number : UInt32) : (Nat.toDigits 16 number.toNat).length ≤ 8 :=
  (Nat.length_toDigits_le_iff (by decide) (by decide)).mpr number.toNat_lt

theorem parseHresult_formatResult (result : Int32) :
    parseHresult (formatResult result) = .ok result.toUInt32 := by
  have hlength := length_hexDigits result.toUInt32
  have hnumber : hexNumber (setw 8 '0' ((Nat.toDigits 16 result.toUInt32.toNat).map Char.toUpper)) =
      some result.toUInt32.toNat := by
    rw [setw, hexNumber_zeros]
    exact hexNumber_toDigits (fun n hn => (hexValue_digitChar n hn).2) _
  have hwidth : (setw 8 '0' ((Nat.toDigits 16 result.toUInt32.toNat).map Char.toUpper)).length = 8 := by
    simp only [setw, List.length_append, List.length_replicate, List.length_map]
    omega
  have hdigits : (setw 8 '0' ((Nat.toDigits 16 result.toUInt32.toNat).map Char.toUpper)).all
      (hexValue · |>.isSome) = true := by
    apply all_setw (by decide)
    rw [List.all_eq_true]
    exact forall_toDigits (by decide) _
  have hstrip : stripHexPrefix (formatResult result) =
      some (setw 8 '0' ((Nat.toDigits 16 result.toUInt32.toNat).map Char.toUpper)) := rfl
  rw [parseHresult, hstrip]
  simp [hwidth, hdigits, hnumber]

/-- The sign bit of a result tells whether it failed. -/
theorem severity_eq_zero_iff (result : Int32) :
    result.toUInt32 &&& 0x80000000 = 0 ↔ Windows.failed result = false := by
  have hbit : (0x80000000 : UInt32).toBitVec = BitVec.twoPow 32 31 := by decide
  have hsign : Windows.failed result = result.toBitVec.getLsbD 31 := by
    rw [Windows.failed, ← Bool.decide_coe (result.toBitVec.getLsbD 31)]
    congr 1
    rw [Int32.lt_iff_toBitVec_slt]
    simp [BitVec.slt_zero_eq_msb, BitVec.msb_eq_getLsbD_last]
  rw [← UInt32.toBitVec_inj, UInt32.toBitVec_and, hbit, BitVec.and_twoPow, hsign]
  cases h : result.toBitVec.getLsbD 31 <;> simp_all

theorem hresultSucceeded_formatResult (result : Int32) :
    hresultSucceeded (formatResult result) = .ok (!Windows.failed result) := by
  have hbit := severity_eq_zero_iff result
  rw [hresultSucceeded, parseHresult_formatResult]
  cases hfailed : Windows.failed result <;> simp_all [bind, Except.bind, pure, Except.pure]

theorem formatResult_eq_success (result : Int32) : formatResult result = successHresult ↔ result = 0 := by
  constructor
  · intro h
    have hparsed := parseHresult_formatResult result
    have hzero : parseHresult successHresult = .ok 0 := by decide
    rw [h, hzero] at hparsed
    have hunsigned : result.toUInt32 = 0 := (Except.ok.inj hparsed).symm
    calc result = result.toUInt32.toInt32 := (Int32.toInt32_toUInt32 result).symm
      _ = 0 := by rw [hunsigned]; rfl
  · rintro rfl
    decide

end Results

section Reading

/-- What the host makes of the members. -/
def readReport (report : Report) : ControllerReport where
  protocolVersion := .ofNat report.protocolVersion
  serviceInstalled := report.serviceInstalled
  serviceState := report.serviceState.toList
  state := report.state.toList
  requestResult := report.requestResult
  lastError := report.lastError
  deviceInstanceId := report.deviceInstanceId
  generation := .ofNat report.generation
  changed := report.changed

theorem deserialize_members {report : Report} (hversion : report.protocolVersion < UInt16.size)
    (hgeneration : report.generation < UInt64.size) :
    deserialize report.members = some (readReport report) := by
  simp [deserialize, Report.members, naturalField, booleanField, textField, field, hversion, hgeneration,
    readReport]

theorem trim_line {text : List Char} {members : Members} (h : ObjectText text members) :
    trim (text ++ [lineFeed]) = text := by
  obtain ⟨h⟩ := h
  have hopen : isWhiteSpace Json.openBrace = false := by decide
  have hclose : isWhiteSpace Json.closeBrace = false := by decide
  have hline : isWhiteSpace lineFeed = true := by decide
  simp [trim, trimEndMatches, hopen, hclose, hline]

/-- Below the surrogates, a character takes one unit. -/
theorem utf16Length_wideChar {units : List UInt16} (h : ∀ unit ∈ units, unit < 0x80) :
    utf16Length (units.map wideChar) = units.length := by
  induction units with
  | nil => rfl
  | cons unit units ih =>
    have hunit := h unit List.mem_cons_self
    have hlt : unit.toNat < 128 := UInt16.lt_iff_toNat_lt.mp hunit
    have hrest := ih fun other hother => h other (List.mem_cons_of_mem unit hother)
    have hsmall : (wideChar unit).toNat < 0x10000 := by
      rw [wideChar_toNat hunit]
      omega
    rw [utf16Length] at hrest ⊢
    simp only [List.map_cons, List.sum_cons, if_pos hsmall, hrest, List.length_cons]
    omega

/-- The reports of the controller, in the form in which the host accepts them. -/
structure Wellformed (report : Report) : Prop where
  version : report.protocolVersion = 1
  generation : report.generation < UInt64.size
  requestResult : ∃ result, report.requestResult = formatResult result
  lastError : ∃ result, report.lastError = formatResult result
  short : utf16Length report.deviceInstanceId < 260

theorem validateReport_ok {report : Report} (h : Wellformed report) :
    validateReport (readReport report) = .ok () := by
  obtain ⟨result, hresult⟩ := h.requestResult
  obtain ⟨error, herror⟩ := h.lastError
  have hparsed : parseHresult (readReport report).requestResult = .ok result.toUInt32 := by
    rw [← parseHresult_formatResult, ← hresult]
    rfl
  have herrors : parseHresult (readReport report).lastError = .ok error.toUInt32 := by
    rw [← parseHresult_formatResult, ← herror]
    rfl
  have hversion : (readReport report).protocolVersion = controllerProtocolVersion := by
    simp [readReport, h.version, controllerProtocolVersion]
  have hshort : ¬ 260 ≤ utf16Length (readReport report).deviceInstanceId := Nat.not_le.mpr h.short
  simp [validateReport, hparsed, herrors, hversion, hshort, bind, Except.bind, pure, Except.pure]

/-- The host reads every line of that form. -/
theorem controllerOutcome_line {ε : Type} {parse : List Char → Except ε Members} (hparse : Reads parse)
    {report : Report} (h : Wellformed report) {text : List Char} (htext : ObjectText text report.members)
    (exitCode : Nat) :
    controllerOutcome parse exitCode (text ++ [lineFeed]) = .ok ⟨readReport report, exitCode = 0⟩ := by
  have hversion : report.protocolVersion < UInt16.size := by
    rw [h.version]
    decide
  rw [controllerOutcome, trim_line htext, hparse text _ htext]
  simp only [deserialize_members hversion h.generation, validateReport_ok h]

theorem statusFromReport_eq {report : Report} (h : Wellformed report) {state : VirtualDisplayState}
    (hstate : reportState (readReport report) = .ok state) :
    ∃ status, statusFromReport (readReport report) = .ok status ∧ status.state = state ∧
      status.enabled = decide (state = .enabled) ∧ status.generation = .ofNat report.generation ∧
      status.deviceInstanceId =
        (if report.deviceInstanceId = [] then none else some report.deviceInstanceId) ∧
      status.lastError = if report.lastError ≠ successHresult then some report.lastError else none := by
  rw [statusFromReport, validateReport_ok h]
  simp only [bind, Except.bind, hstate]
  exact ⟨_, rfl, rfl, rfl, rfl, rfl, rfl⟩

end Reading

section Lines

theorem wellformed_unavailable (service : ServiceSnapshot) (result : Int32) (changed : Bool) :
    Wellformed (unavailableReport service result changed) where
  version := rfl
  generation := UInt64.toNat_lt 0
  requestResult := ⟨result, rfl⟩
  lastError := ⟨result, rfl⟩
  short := Nat.zero_lt_succ 259

theorem reportState_unavailable (service : ServiceSnapshot) (result : Int32) (changed : Bool) :
    ∃ state, reportState (readReport (unavailableReport service result changed)) = .ok state ∧
      (state = .notInstalled ∨ state = .serviceStopped) := by
  rw [reportState]
  split
  · exact ⟨_, rfl, .inl rfl⟩
  · split
    · exact ⟨_, rfl, .inr rfl⟩
    · refine ⟨.serviceStopped, ?_, .inr rfl⟩
      simp [readReport, unavailableReport, stateFromName]

/-- A line without an answer is read as such, whatever kept the service from answering. -/
theorem reads_unavailable {ε : Type} {parse : List Char → Except ε Members} (hparse : Reads parse)
    (service : ServiceSnapshot) (result : Int32) (exitCode : Nat) :
    ∃ report status, controllerOutcome parse exitCode (printUnavailable service result false) =
        .ok ⟨report, exitCode = 0⟩ ∧
      statusFromReport report = .ok status ∧ ShowsNoService status := by
  obtain ⟨text, hline, htext⟩ := printUnavailable_denotes service result false
  obtain ⟨state, hstate, hno⟩ := reportState_unavailable service result false
  have hwell := wellformed_unavailable service result false
  obtain ⟨status, hstatus, hstateEq, henabled, -, hid, -⟩ := statusFromReport_eq hwell hstate
  refine ⟨_, status, ?_, hstatus, ?_, ?_, ?_⟩
  · rw [hline]
    exact controllerOutcome_line hparse hwell htext exitCode
  · rw [hstateEq]
    exact hno
  · rw [henabled]
    rcases hno with rfl | rfl <;> rfl
  · rw [hid]
    rfl

theorem ofValue_stateValue (state : ServiceState) : ServiceState.ofValue state.value = state := by
  cases state <;> rfl

theorem stateFromName_stateName {state : ServiceState} (h : state ≠ .starting) :
    stateFromName (stateName state).toList = .ok (hostState state) := by
  cases state with
  | starting => exact absurd rfl h
  | _ => rfl

variable {owner : DeviceOwner} {pipe : PipeRequest}

theorem wellformed_response (h : (executeRequest owner pipe).2.Readable) (service : ServiceSnapshot) :
    Wellformed (responseReport service (executeRequest owner pipe).1) where
  version := rfl
  generation := UInt64.toNat_lt _
  requestResult := ⟨_, rfl⟩
  lastError := ⟨_, rfl⟩
  short := by
    simp only [responseReport]
    rw [h.text_response, utf16Length_wideChar h.ascii]
    exact h.short

theorem reportState_response (h : (executeRequest owner pipe).2.Readable) {service : ServiceSnapshot}
    (hrunning : service.state = serviceRunning) :
    reportState (readReport (responseReport service (executeRequest owner pipe).1)) =
      .ok (hostState (executeRequest owner pipe).2.snapshot.state) := by
  have hname : (readReport (responseReport service (executeRequest owner pipe).1)).serviceState =
      "running".toList := by
    show (scmStateName service.state).toList = _
    rw [hrunning]
    simp [scmStateName, serviceRunning, serviceStartPending]
  have hstate : (readReport (responseReport service (executeRequest owner pipe).1)).state =
      (stateName (executeRequest owner pipe).2.snapshot.state).toList := by
    show (stateName (.ofValue (executeRequest owner pipe).2.snapshot.state.value)).toList = _
    rw [ofValue_stateValue]
  have hinstalled :
      (readReport (responseReport service (executeRequest owner pipe).1)).serviceInstalled = true := rfl
  rw [reportState, hinstalled, hname, hstate, stateFromName_stateName h.state.1]
  simp only [Bool.not_true, Bool.false_eq_true, if_false, ne_eq, not_true_eq_false]

/-- The host shows enabled just when the service says so. -/
theorem hostState_enabled (state : ServiceState) : hostState state = .enabled ↔ state = .enabled := by
  cases state <;> decide

/-- The line of a response is read as the device that the service published with it. -/
theorem reads_response {ε : Type} {parse : List Char → Except ε Members} (hparse : Reads parse)
    (hreadable : (executeRequest owner pipe).2.Readable)
    (hconsistent : (executeRequest owner pipe).2.Consistent) {service : ServiceSnapshot}
    (hrunning : service.state = serviceRunning) (exitCode : Nat) :
    ∃ report status,
      controllerOutcome parse exitCode (printResponse service (executeRequest owner pipe).1) =
        .ok ⟨report, exitCode = 0⟩ ∧
      statusFromReport report = .ok status ∧ Shows status (executeRequest owner pipe).2 ∧
      report.requestResult = formatResult (executeRequest owner pipe).1.requestResult := by
  have hascii : ∀ unit ∈ (executeRequest owner pipe).1.deviceInstanceId.text, unit < 0x80 := by
    rw [hreadable.text_response]
    exact hreadable.ascii
  obtain ⟨text, hline, htext⟩ := printResponse_denotes service hascii
  have hwell := wellformed_response hreadable service
  obtain ⟨status, hstatus, hstate, henabled, hgeneration, hid, herror⟩ :=
    statusFromReport_eq hwell (reportState_response hreadable hrunning)
  refine ⟨_, status, ?_, hstatus, ⟨hstate, ?_, ?_, ?_, ?_⟩, rfl⟩
  · rw [hline]
    exact controllerOutcome_line hparse hwell htext exitCode
  · rw [henabled, Bool.eq_iff_iff, decide_eq_true_eq, hostState_enabled]
    exact hconsistent.enabled
  · rw [hgeneration]
    exact UInt64.ofNat_toNat
  · rw [hid]
    simp only [responseReport, hreadable.text_response, List.map_eq_nil_iff]
  · rw [herror]
    have hlast : (responseReport service (executeRequest owner pipe).1).lastError =
        formatResult (executeRequest owner pipe).2.snapshot.lastError := rfl
    rw [hlast]
    simp only [ne_eq, formatResult_eq_success, ite_not]

end Lines

section Runs

variable {ε : Type} {parse : List Char → Except ε Members} {owner : DeviceOwner} {command : Command}
  {environment : ControllerEnvironment}

/-- What the host makes of one run of the controller on a service between requests. -/
theorem reads_run (hparse : Reads parse) (hreadable : owner.Readable) (hconsistent : owner.Consistent)
    (hascii : environment.call.outcome.Ascii) (startService : Bool) :
    let run := execute owner command environment startService
    ∃ report status, controllerOutcome parse run.exitCode run.output = .ok ⟨report, run.exitCode = 0⟩ ∧
      statusFromReport report = .ok status ∧
      ((command ≠ .status → run.exitCode ≠ 0) ∧ ShowsNoService status ∨
        Shows status run.owner ∧ run.owner = (executeRequest owner (requestOf command environment.call)).2 ∧
          hresultSucceeded report.requestResult = .ok (run.exitCode = 0)) := by
  intro run
  have hafter : (executeRequest owner (requestOf command environment.call)).2.Readable :=
    hreadable.executeRequest hascii
  have hserved : (executeRequest owner (requestOf command environment.call)).2.Consistent :=
    (dispatch_outcome hconsistent _).consistent
  cases execute_prints owner command environment startService with
  | unavailable service result hexit houtput howner =>
    obtain ⟨report, status, hread, hstatus, hno⟩ := reads_unavailable hparse service result run.exitCode
    refine ⟨report, status, ?_, hstatus, .inl ⟨hexit, hno⟩⟩
    rw [show run.output = _ from houtput, hread]
  | response service hrunning hexit houtput howner =>
    obtain ⟨report, status, hread, hstatus, hshows, hresult⟩ :=
      reads_response hparse hafter hserved hrunning run.exitCode
    refine ⟨report, status, ?_, hstatus, .inr ⟨?_, howner, ?_⟩⟩
    · rw [show run.output = _ from houtput, hread]
    · rw [show run.owner = _ from howner]
      exact hshows
    · rw [hresult, hresultSucceeded_formatResult, show run.exitCode = _ from hexit]
      cases Windows.failed (executeRequest owner (requestOf command environment.call)).1.requestResult <;> rfl

end Runs

section Actions

/-- The enumerations of a wait. -/
def Listed (polls : List MonitorPoll) (last : MonitorPoll) (displays : List DisplaySource) : Prop :=
  .ok displays ∈ polls ∨ last = .ok displays

/-- The wait ends with the first virtual display that an enumeration lists, and passes just then. -/
structure Selected (polls : List MonitorPoll) (last : MonitorPoll) (report : VirtualDisplayActionReport) :
    Prop where
  passed : report.passed = true ↔ ∃ displays, Listed polls last displays ∧
    displays.any (·.virtualDisplay) = true
  selected : report.passed = report.selectedDisplayId.isSome
  listed : ∀ id, report.selectedDisplayId = some id → ∃ displays, Listed polls last displays ∧
    ∃ display ∈ displays, display.virtualDisplay = true ∧ display.id = id

theorem listed_cons {polls : List MonitorPoll} {last poll : MonitorPoll} {displays : List DisplaySource} :
    Listed (poll :: polls) last displays ↔ poll = .ok displays ∨ Listed polls last displays := by
  simp only [Listed, List.mem_cons, or_assoc, eq_comm]

theorem listed_nil {last : MonitorPoll} {displays : List DisplaySource} :
    Listed [] last displays ↔ last = .ok displays := by
  simp [Listed]

variable (baselineIds : List String) (status : VirtualDisplayStatus)

theorem monitorAppeared_some {displays : List DisplaySource} {report : VirtualDisplayActionReport}
    (h : monitorAppeared baselineIds status displays = some report) :
    report.passed = true ∧ ∃ display ∈ displays, display.virtualDisplay = true ∧
      report.selectedDisplayId = some display.id := by
  simp only [monitorAppeared, Option.map_eq_some_iff] at h
  obtain ⟨display, hfind, rfl⟩ := h
  exact ⟨rfl, display, List.mem_of_find?_eq_some hfind, by simpa using List.find?_some hfind, rfl⟩

theorem monitorAppeared_none {displays : List DisplaySource}
    (h : monitorAppeared baselineIds status displays = none) :
    displays.any (·.virtualDisplay) = false := by
  simpa [monitorAppeared] using h

/-- An enumeration with a virtual display ends the wait with it. -/
theorem selected_of_appeared {polls : List MonitorPoll} {last : MonitorPoll}
    {displays : List DisplaySource} {report : VirtualDisplayActionReport}
    (h : monitorAppeared baselineIds status displays = some report) (hlisted : Listed polls last displays) :
    Selected polls last report := by
  obtain ⟨hpassed, display, hmem, hvirtual, hid⟩ := monitorAppeared_some baselineIds status h
  refine ⟨iff_of_true hpassed ⟨displays, hlisted, ?_⟩, by rw [hpassed, hid]; rfl, ?_⟩
  · exact List.any_eq_true.mpr ⟨display, hmem, hvirtual⟩
  · intro id hselected
    rw [hid] at hselected
    exact ⟨displays, hlisted, display, hmem, hvirtual, Option.some.inj hselected⟩

/-- A wait that no enumeration ends. -/
theorem selected_of_missing {polls : List MonitorPoll} {last : MonitorPoll}
    {report : VirtualDisplayActionReport} (hpassed : report.passed = false)
    (hid : report.selectedDisplayId = none)
    (hmissing : ∀ displays, Listed polls last displays → displays.any (·.virtualDisplay) = false) :
    Selected polls last report := by
  refine ⟨iff_of_false (by simp [hpassed]) ?_, by rw [hpassed, hid]; rfl, ?_⟩
  · rintro ⟨displays, hlisted, hany⟩
    simp [hmissing displays hlisted] at hany
  · intro id hselected
    rw [hid] at hselected
    cases hselected

theorem lastAppearPoll_selected (last : LastPoll) :
    Selected [] last.displays (lastAppearPoll baselineIds status last) := by
  rw [lastAppearPoll]
  cases hlast : last.displays with
  | error error =>
    have hnone : ∀ displays, Listed [] (.error error) displays → displays.any (·.virtualDisplay) = false := by
      intro displays hlisted
      cases listed_nil.mp hlisted
    dsimp only
    split
    · exact selected_of_missing rfl rfl hnone
    · exact selected_of_missing rfl rfl hnone
  | ok displays =>
    cases happeared : monitorAppeared baselineIds status displays with
    | some report =>
      simp only [happeared, Option.getD_some]
      exact selected_of_appeared baselineIds status happeared (listed_nil.mpr rfl)
    | none =>
      simp only [happeared, Option.getD_none]
      refine selected_of_missing rfl rfl fun others hlisted => ?_
      cases listed_nil.mp hlisted
      exact monitorAppeared_none baselineIds status happeared

/-- A poll without a virtual display is passed over. -/
theorem Selected.cons {polls : List MonitorPoll} {last poll : MonitorPoll}
    {report : VirtualDisplayActionReport} (h : Selected polls last report)
    (hmissing : ∀ displays, poll = .ok displays → displays.any (·.virtualDisplay) = false) :
    Selected (poll :: polls) last report := by
  refine ⟨h.passed.trans ⟨?_, ?_⟩, h.selected, ?_⟩
  · rintro ⟨displays, hlisted, hany⟩
    exact ⟨displays, listed_cons.mpr (.inr hlisted), hany⟩
  · rintro ⟨displays, hlisted, hany⟩
    rcases listed_cons.mp hlisted with hpoll | hrest
    · rw [hmissing displays hpoll] at hany
      cases hany
    · exact ⟨displays, hrest, hany⟩
  · intro id hselected
    obtain ⟨displays, hlisted, hdisplay⟩ := h.listed id hselected
    exact ⟨displays, listed_cons.mpr (.inr hlisted), hdisplay⟩

theorem waitForMonitor_selected (last : LastPoll) (polls : List MonitorPoll) :
    Selected polls last.displays (waitForMonitor baselineIds status last polls) := by
  induction polls with
  | nil => exact lastAppearPoll_selected baselineIds status last
  | cons poll polls ih =>
    cases poll with
    | error error => exact ih.cons nofun
    | ok displays =>
      rw [waitForMonitor]
      cases happeared : monitorAppeared baselineIds status displays with
      | some report => exact selected_of_appeared baselineIds status happeared (listed_cons.mpr (.inl rfl))
      | none =>
        refine ih.cons fun others hothers => ?_
        cases hothers
        exact monitorAppeared_none baselineIds status happeared

theorem waitForRemoval_passed (changed : Bool) (last : MonitorPoll) (polls : List MonitorPoll) :
    (waitForRemoval changed status last polls).selectedDisplayId = none ∧
      (waitForRemoval changed status last polls).status.enabled = status.enabled ∧
      ((waitForRemoval changed status last polls).passed = true ↔
        ∃ displays, Listed polls last displays ∧ displays.all (!·.virtualDisplay) = true) := by
  induction polls with
  | nil =>
    rw [waitForRemoval]
    simp only [listed_nil]
    cases last with
    | error error => exact ⟨rfl, rfl, by simp [lastRemovePoll, enumerationFailed]⟩
    | ok displays =>
      rw [lastRemovePoll]
      split
      · exact ⟨rfl, rfl, iff_of_true rfl ⟨displays, rfl, ‹_›⟩⟩
      · refine ⟨rfl, rfl, iff_of_false (by simp) ?_⟩
        rintro ⟨others, hothers, hall⟩
        cases hothers
        contradiction
  | cons poll polls ih =>
    cases poll with
    | error error => simpa only [waitForRemoval, listed_cons, reduceCtorEq, false_or] using ih
    | ok displays =>
      rw [waitForRemoval]
      split
      · exact ⟨rfl, rfl, iff_of_true rfl ⟨displays, listed_cons.mpr (.inl rfl), ‹_›⟩⟩
      · obtain ⟨hid, henabled, hpassed⟩ := ih
        refine ⟨hid, henabled, hpassed.trans ⟨?_, ?_⟩⟩
        · rintro ⟨others, hlisted, hall⟩
          exact ⟨others, listed_cons.mpr (.inr hlisted), hall⟩
        · rintro ⟨others, hlisted, hall⟩
          rcases listed_cons.mp hlisted with hpoll | hrest
          · cases hpoll
            contradiction
          · exact ⟨others, hrest, hall⟩

end Actions

section Host

variable {ε : Type} {parse : List Char → Except ε Members} {history : List PipeRequest}
  {environment : ControllerEnvironment}

/-- The service runs and answers; the device completes with an id. -/
def answering : ControllerEnvironment where
  query := .queried ⟨serviceRunning, 7, 0⟩
  startableError := none
  firstRound := ⟨none, .ok ⟨serviceRunning, 7, 0⟩⟩
  laterRounds := []
  call := ⟨none, none, .ok 7, none, 9, .completed sizeOfResponse.toUInt32,
    ⟨none, creation, .completed 0 (some [83, 87, 92, 49])⟩, 7⟩

theorem disable_device (owner : DeviceOwner) (stopping : Bool) : (owner.disable stopping).2.2.device = none := by
  rw [DeviceOwner.disable]
  split
  · exact DeviceOwner.closeDevice_device _
  · simpa [DeviceOwner.clearDeviceIdentity, DeviceOwner.setIdentity] using ‹¬owner.device.isSome = true›

/-- The service runs the disable request of the controller, which leaves no device. -/
theorem executeRequest_disable (owner : DeviceOwner) (call : PipeCall) :
    (executeRequest owner (requestOf .disable call)).2.device = none := by
  have hvalid := validateRequest_requestOf .disable call
  have hcommand : Command.ofValue (requestOf .disable call).request.commandValue = some .disable :=
    ofValue_value .disable
  show (dispatch owner (requestOf .disable call)).2.2.device = none
  rw [dispatch, if_neg (by simp [hvalid]), hcommand]
  exact disable_device owner false

/-- Enabling passes just when the controller is done, the service holds a device and an enumeration lists a
virtual display, which is then the one selected. -/
theorem enable_selects_held_device (hparse : Reads parse)
    (hhistory : ∀ pipe ∈ history, pipe.outcome.Ascii) (hcall : environment.call.outcome.Ascii)
    (baseline : MonitorPoll) (polls : List MonitorPoll) (last : LastPoll) :
    let run := execute (serve .new history) .enable environment true
    ∃ report, enable baseline (some (controllerOutcome parse run.exitCode run.output)) polls last =
        .ok report ∧
      (report.passed = true ↔ run.exitCode = 0 ∧ run.owner.device.isSome = true ∧
        ∃ displays, Listed polls last.displays displays ∧ displays.any (·.virtualDisplay) = true) ∧
      report.passed = report.selectedDisplayId.isSome ∧
      (∀ id, report.selectedDisplayId = some id → ∃ displays, Listed polls last.displays displays ∧
        ∃ display ∈ displays, display.virtualDisplay = true ∧ display.id = id) := by
  intro run
  have hreadable := DeviceOwner.readable_serve DeviceOwner.readable_new hhistory
  have hconsistent := consistent_serve DeviceOwner.consistent_new history
  obtain ⟨report, status, hread, hstatus, hcases⟩ :=
    @reads_run ε parse _ .enable environment hparse hreadable hconsistent hcall true
  have hread' : controllerOutcome parse run.exitCode run.output = .ok ⟨report, run.exitCode = 0⟩ := hread
  rw [enable, hread']
  simp only [bind, Except.bind, pure, Except.pure, hstatus]
  by_cases hexit : run.exitCode = 0
  · rcases hcases with ⟨hfailed, -⟩ | ⟨hshows, -, hresult⟩
    · exact absurd hexit (hfailed (by decide))
    · have henabled : status.enabled = run.owner.device.isSome := hshows.enabled
      have hdone : hresultSucceeded report.requestResult = .ok true := by
        rw [hresult, show (execute _ _ _ _).exitCode = _ from hexit]
        rfl
      simp only [hexit, hdone, henabled, decide_true, if_true, Bool.true_and, true_and]
      cases hheld : run.owner.device.isSome with
      | false =>
        refine ⟨_, rfl, iff_of_false Bool.false_ne_true ?_, rfl, ?_⟩
        · rintro ⟨hsome, -⟩
          cases hsome
        · intro id hid
          cases hid
      | true =>
        have hwait := waitForMonitor_selected ((baseline.toOption.getD []).map (·.id)) status last polls
        refine ⟨_, rfl, hwait.passed.trans ?_, hwait.selected, hwait.listed⟩
        simp only [true_and]
  · simp [hexit]

def secondDisplay : DisplaySource :=
  ⟨"ladoflow:2", "LadoFlow Virtual Display", 1920, 1080, false, true⟩

theorem enable_selects_held_device_second :
    let run := execute (serve .new reenabled) .enable answering true
    ∃ report, enable (.ok []) (some (controllerOutcome parseObject run.exitCode run.output))
        [.ok [], .ok [secondDisplay]] ⟨.ok [], false⟩ = .ok report ∧ report.passed = true := by
  have hhistory : ∀ pipe ∈ reenabled, pipe.outcome.Ascii := by
    simp [reenabled, EnableOutcome.Ascii]
  have hcall : answering.call.outcome.Ascii := by
    simp [answering, EnableOutcome.Ascii]
  obtain ⟨report, henable, hpassed, -⟩ := enable_selects_held_device reads_parseObject hhistory hcall
    (.ok []) [.ok [], .ok [secondDisplay]] ⟨.ok [], false⟩
  refine ⟨report, henable, hpassed.mpr ⟨rfl, rfl, [secondDisplay], ?_, rfl⟩⟩
  simp [Listed]

/-- Disabling passes just when the controller is done and an enumeration lists no virtual display; then the
service holds no device. -/
theorem disable_leaves_no_device (hparse : Reads parse)
    (hhistory : ∀ pipe ∈ history, pipe.outcome.Ascii) (hcall : environment.call.outcome.Ascii)
    (polls : List MonitorPoll) (last : MonitorPoll) :
    let run := execute (serve .new history) .disable environment false
    ∃ report, disable (some (controllerOutcome parse run.exitCode run.output)) polls last = .ok report ∧
      (report.passed = true ↔ run.exitCode = 0 ∧
        ∃ displays, Listed polls last displays ∧ displays.all (!·.virtualDisplay) = true) ∧
      report.selectedDisplayId = none ∧
      (run.exitCode = 0 → run.owner.device = none ∧ report.status.enabled = false) := by
  intro run
  have hreadable := DeviceOwner.readable_serve DeviceOwner.readable_new hhistory
  have hconsistent := consistent_serve DeviceOwner.consistent_new history
  obtain ⟨report, status, hread, hstatus, hcases⟩ :=
    @reads_run ε parse _ .disable environment hparse hreadable hconsistent hcall false
  have hread' : controllerOutcome parse run.exitCode run.output = .ok ⟨report, run.exitCode = 0⟩ := hread
  rw [disable, hread']
  simp only [bind, Except.bind, pure, Except.pure, hstatus]
  by_cases hexit : run.exitCode = 0
  · rcases hcases with ⟨hfailed, -⟩ | ⟨hshows, howner, hresult⟩
    · exact absurd hexit (hfailed (by decide))
    · have hnone : run.owner.device = none := by
        rw [show run.owner = _ from howner]
        exact executeRequest_disable _ _
      have hoff : status.enabled = false := by
        rw [hshows.enabled, show (execute _ _ _ _).owner.device = _ from hnone]
        rfl
      have hdone : hresultSucceeded report.requestResult = .ok true := by
        rw [hresult, show (execute _ _ _ _).exitCode = _ from hexit]
        rfl
      obtain ⟨hid, henabled, hpassed⟩ := waitForRemoval_passed status report.changed last polls
      simp only [hexit, hdone]
      exact ⟨_, rfl, by simpa using hpassed, hid, fun _ => ⟨hnone, henabled.trans hoff⟩⟩
  · simp [hexit]

theorem disable_leaves_no_device_first :
    let run := execute (serve .new reenabled) .disable answering false
    ∃ report, disable (some (controllerOutcome parseObject run.exitCode run.output)) [.ok []] (.ok []) =
        .ok report ∧ report.passed = true ∧ run.owner.device = none := by
  have hhistory : ∀ pipe ∈ reenabled, pipe.outcome.Ascii := by
    simp [reenabled, EnableOutcome.Ascii]
  have hcall : answering.call.outcome.Ascii := by
    simp [answering, EnableOutcome.Ascii]
  obtain ⟨report, hdisable, hpassed, -, hdevice⟩ :=
    disable_leaves_no_device reads_parseObject hhistory hcall [.ok []] (.ok [])
  exact ⟨report, hdisable, hpassed.mpr ⟨rfl, [], by simp [Listed], rfl⟩, (hdevice rfl).1⟩

end Host

end LadoFlow.System
