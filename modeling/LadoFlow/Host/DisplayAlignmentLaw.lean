import LadoFlow.Framework.Codec
import LadoFlow.Host.DisplayAlignment

/-!
# Which monitors a session may change

Every change is for the virtual display that the session was started for, with a mode that this display
advertises. An alignment that succeeds has seen the display at the mode, unless there was nothing to align.
-/

namespace LadoFlow.Host

open Framework

section Enumeration

theorem retainFirst_sublist (seen : List String) (monitors : List MonitorSource) :
    (retainFirst seen monitors).Sublist monitors := by
  induction monitors generalizing seen with
  | nil => exact .slnil
  | cons monitor monitors ih =>
    rw [retainFirst]
    split
    · exact (ih seen).cons monitor
    · exact (ih _).cons_cons monitor

theorem retainFirst_fresh (seen : List String) (monitors : List MonitorSource) :
    ((retainFirst seen monitors).map (·.display.id)).Nodup ∧
      ∀ monitor ∈ retainFirst seen monitors, monitor.display.id ∉ seen := by
  induction monitors generalizing seen with
  | nil => simp [retainFirst]
  | cons monitor monitors ih =>
    rw [retainFirst]
    split
    · exact ih seen
    · rename_i hnew
      obtain ⟨hnodup, hfresh⟩ := ih (monitor.display.id :: seen)
      constructor
      · rw [List.map_cons, List.nodup_cons]
        refine ⟨?_, hnodup⟩
        rw [List.mem_map]
        rintro ⟨later, hlater, hsame⟩
        exact hfresh later hlater (hsame ▸ List.mem_cons_self)
      · intro later hlater
        rcases List.mem_cons.mp hlater with rfl | hmem
        · exact hnew
        · exact fun hseen => hfresh later hmem (List.mem_cons_of_mem _ hseen)

theorem enumerateMonitors_eq_ok {enumeration : MonitorEnumeration} {monitors : List MonitorSource}
    (h : enumerateMonitors enumeration = .ok monitors) :
    ∃ visited, enumeration.visits.mapM enumerateMonitor = .ok visited ∧
      monitors = retainFirst [] (visited.mergeSort MonitorSource.notAfter) := by
  rw [enumerateMonitors] at h
  obtain ⟨visited, hvisited, h⟩ := bind_eq_ok.mp h
  obtain ⟨-, -, h⟩ := bind_eq_ok.mp h
  cases h
  exact ⟨visited, hvisited, rfl⟩

theorem enumerateMonitors_nodup {enumeration : MonitorEnumeration} {monitors : List MonitorSource}
    (h : enumerateMonitors enumeration = .ok monitors) : (monitors.map (·.display.id)).Nodup := by
  obtain ⟨visited, -, rfl⟩ := enumerateMonitors_eq_ok h
  exact (retainFirst_fresh [] _).1

theorem exists_visit {enumeration : MonitorEnumeration} {monitors : List MonitorSource}
    (h : enumerateMonitors enumeration = .ok monitors) {monitor : MonitorSource}
    (hmem : monitor ∈ monitors) :
    ∃ visit ∈ enumeration.visits, enumerateMonitor visit = .ok monitor := by
  obtain ⟨visited, hvisited, rfl⟩ := enumerateMonitors_eq_ok h
  have hlisted := (retainFirst_sublist [] _).subset hmem
  exact mem_of_mapM_eq_ok hvisited (List.mem_mergeSort.mp hlisted)

theorem queryDisplayDeviceIdentity_virtual {adapters : List DisplayAdapter} {name : String}
    (h : (queryDisplayDeviceIdentity adapters name).virtualDisplay = true) :
    name ≠ "" ∧ ∃ adapter, findAdapter adapters name = some adapter ∧
      isLadoflowVirtualIdentity adapter.identityParts = true := by
  rw [queryDisplayDeviceIdentity] at h
  split at h
  · cases h
  · rename_i hnamed
    refine ⟨hnamed, ?_⟩
    split at h
    · cases h
    · rename_i adapter hfound
      exact ⟨adapter, hfound, h⟩

/-- A monitor is shown as virtual for the texts of its adapter. -/
theorem enumerateMonitor_virtual {visit : MonitorVisit} {monitor : MonitorSource}
    (h : enumerateMonitor visit = .ok monitor) (hvirtual : monitor.display.virtualDisplay = true) :
    monitor.deviceName ≠ "" ∧ ∃ adapter, findAdapter visit.adapters monitor.deviceName = some adapter ∧
      isLadoflowVirtualIdentity adapter.identityParts = true := by
  rw [enumerateMonitor] at h
  split at h
  · cases h
  · obtain ⟨-, h⟩ := ite_error_eq_ok.mp h
    obtain ⟨-, h⟩ := ite_error_eq_ok.mp h
    cases h
    exact queryDisplayDeviceIdentity_virtual hvirtual

theorem selectMonitor_eq_ok {monitors : List MonitorSource} {id : String} {monitor : MonitorSource}
    (h : selectMonitor monitors (some id) = .ok monitor) :
    monitor ∈ monitors ∧ monitor.display.id = id := by
  simp only [selectMonitor] at h
  split at h
  · rename_i hfound
    cases h
    exact ⟨List.mem_of_find?_eq_some hfound, by simpa using List.find?_some hfound⟩
  · cases h

end Enumeration

/-- The monitor is the one that the enumeration lists under the id, and its adapter or the monitor behind it
is named as the virtual display. -/
structure ListedVirtual (enumeration : MonitorEnumeration) (id : String) (target : MonitorSource) :
    Prop where
  only : ∃ monitors, enumerateMonitors enumeration = .ok monitors ∧ target ∈ monitors ∧
    ∀ monitor ∈ monitors, monitor.display.id = id ↔ monitor = target
  named : ∃ visit ∈ enumeration.visits, enumerateMonitor visit = .ok target ∧
    ∃ adapter, findAdapter visit.adapters target.deviceName = some adapter ∧
      isLadoflowVirtualIdentity adapter.identityParts = true

/-- The id is listed as that of a monitor that is not the virtual display. -/
def ListedPhysical (enumeration : MonitorEnumeration) (id : String) : Prop :=
  ∃ monitors monitor, enumerateMonitors enumeration = .ok monitors ∧ monitor ∈ monitors ∧
    monitor.display.id = id ∧ monitor.display.virtualDisplay = false

/-- The poll sees the monitor with the id at the mode. -/
def ModeObservation.Shows (observation : ModeObservation) (id : String) (mode : DisplayMode) : Prop :=
  ∃ monitors monitor native, enumerateMonitors observation.monitors = .ok monitors ∧
    monitor ∈ monitors ∧ monitor.display.id = id ∧ monitor.display.width = mode.width.toNat ∧
    monitor.display.height = mode.height.toNat ∧ observation.current monitor.deviceName = some native ∧
    displayModeFromNative native = mode

section Steps

variable {answers : ModeAnswers} {requested : DisplayMode}

theorem alignmentTarget_eq_some {enumeration : MonitorEnumeration} {displayId : Option String}
    {target : MonitorSource}
    (h : ((enumerateMonitors enumeration).bind fun monitors => alignmentTarget monitors displayId) =
      .ok (some target)) :
    ∃ id, displayId = some id ∧ target.display.id = id ∧ ListedVirtual enumeration id target := by
  obtain ⟨monitors, hmonitors, h⟩ := bind_eq_ok.mp h
  cases displayId with
  | none => cases h
  | some id =>
    obtain ⟨monitor, hselect, h⟩ := bind_eq_ok.mp h
    obtain ⟨hmem, hid⟩ := selectMonitor_eq_ok hselect
    split at h
    · cases h
    · rename_i hvirtual
      obtain ⟨-, h⟩ := ite_error_eq_ok.mp h
      cases h
      simp only [Bool.not_eq_true', Bool.not_eq_false] at hvirtual
      obtain ⟨visit, hvisit, hmonitor⟩ := exists_visit hmonitors hmem
      refine ⟨id, rfl, hid, ⟨monitors, hmonitors, hmem, ?_⟩, visit, hvisit, hmonitor,
        (enumerateMonitor_virtual hmonitor hvirtual).2⟩
      intro other hother
      constructor
      · intro hsame
        exact List.inj_on_of_nodup_map (enumerateMonitors_nodup hmonitors) hother hmem
          (hsame.trans hid.symm)
      · rintro rfl
        exact hid

theorem alignmentTarget_eq_none {enumeration : MonitorEnumeration} {displayId : Option String}
    (h : ((enumerateMonitors enumeration).bind fun monitors => alignmentTarget monitors displayId) =
      .ok none) : ∀ id, displayId = some id → ListedPhysical enumeration id := by
  obtain ⟨monitors, hmonitors, h⟩ := bind_eq_ok.mp h
  rintro id rfl
  obtain ⟨monitor, hselect, h⟩ := bind_eq_ok.mp h
  obtain ⟨hmem, hid⟩ := selectMonitor_eq_ok hselect
  split at h
  · rename_i hphysical
    exact ⟨monitors, monitor, hmonitors, hmem, hid, by simpa using hphysical⟩
  · obtain ⟨-, h⟩ := ite_error_eq_ok.mp h
    cases h

theorem queryCurrentDisplayMode_eq_ok {answer : String → Option DevMode} {name : String}
    {mode : DisplayMode} (h : queryCurrentDisplayMode answer name = .ok mode) :
    ∃ native, answer name = some native ∧ displayModeFromNative native = mode := by
  rw [queryCurrentDisplayMode, queryCurrentNativeDisplayMode] at h
  split at h
  · rename_i native hnative
    cases h
    exact ⟨native, hnative, rfl⟩
  · cases h

theorem advertised_of_select {modes : List DevMode} {name : String} {available : List DisplayMode}
    {width height refreshHz : UInt32} {mode : DisplayMode}
    (hmodes : enumerateDisplayModes modes name = .ok available)
    (h : selectExactDisplayMode available width height refreshHz = some mode) :
    mode = ⟨width, height, refreshHz⟩ ∧ mode ∈ modes.map displayModeFromNative := by
  constructor
  · have hexact := List.find?_some h
    simp only [Bool.and_eq_true, decide_eq_true_eq] at hexact
    obtain ⟨⟨rfl, rfl⟩, rfl⟩ := hexact
    rfl
  · rw [enumerateDisplayModes] at hmodes
    obtain ⟨-, hmodes⟩ := ite_error_eq_ok.mp hmodes
    obtain ⟨-, hmodes⟩ := ite_error_eq_ok.mp hmodes
    cases hmodes
    have hmem := (List.destutter_sublist _ _).subset (List.mem_of_find?_eq_some h)
    exact List.mem_mergeSort.mp hmem

theorem differs_eq_none {observation : ModeObservation} {id : String}
    (h : observation.differs requested id = none) : observation.Shows id requested := by
  rw [ModeObservation.differs] at h
  split at h
  · cases h
  · rename_i monitor hmonitor
    obtain ⟨monitors, hmonitors, hselect⟩ := bind_eq_ok.mp hmonitor
    obtain ⟨hmem, hid⟩ := selectMonitor_eq_ok hselect
    split at h
    · cases h
    · rename_i current hcurrent
      obtain ⟨native, hnative, rfl⟩ := queryCurrentDisplayMode_eq_ok hcurrent
      split at h
      · rename_i hreached
        obtain ⟨hwidth, hheight, hrefresh, hwide, hhigh⟩ := hreached
        refine ⟨monitors, monitor, native, hmonitors, hmem, hid, hwidth, hheight, hnative, ?_⟩
        cases requested
        simp only at hwide hhigh hrefresh
        subst hwide hhigh hrefresh
        rfl
      · cases h

theorem waitForDisplayMode_eq_ok {id : String} {lastPoll : ModeObservation} {polls : List ModeObservation}
    (h : waitForDisplayMode requested id lastPoll polls = .ok ()) :
    ∃ poll ∈ polls ++ [lastPoll], poll.Shows id requested := by
  induction polls with
  | nil =>
    rw [waitForDisplayMode] at h
    split at h
    · rename_i hreached
      exact ⟨lastPoll, List.mem_cons_self, differs_eq_none hreached⟩
    · cases h
  | cons poll polls ih =>
    rw [waitForDisplayMode] at h
    split at h
    · rename_i hreached
      exact ⟨poll, List.mem_cons_self, differs_eq_none hreached⟩
    · obtain ⟨later, hlater, hshows⟩ := ih h
      exact ⟨later, List.mem_cons_of_mem _ hlater, hshows⟩

theorem ensureDisplayChangeSuccess_eq_ok {operation : String} {reply : Int32} :
    ensureDisplayChangeSuccess operation reply = .ok () ↔ reply = 0 := by
  rw [ensureDisplayChangeSuccess]
  split
  · simp [*]
  · simp [*]

/-- What an alignment asked for before it came to the wait. -/
def asked (answers : ModeAnswers) (requested : DisplayMode) (deviceName : String) (native : DevMode) :
    List DisplayChange :=
  let mode := native.requesting requested
  if answers.testReply = 0 then [⟨deviceName, mode, cdsTest⟩, ⟨deviceName, mode, 0⟩]
  else [⟨deviceName, mode, cdsTest⟩]

/-- An alignment asks for nothing and succeeds only at the mode, or it asks for the mode and succeeds only
behind a poll that shows it. -/
theorem alignDisplay_cases (answers : ModeAnswers) (requested : DisplayMode) (target : MonitorSource) :
    ((alignDisplay answers requested target).changes = [] ∧
      ((alignDisplay answers requested target).result = .ok () →
        ∃ native, answers.current target.deviceName = some native ∧
          displayModeFromNative native = requested)) ∨
    ∃ native, requested ∈ (answers.modes target.deviceName).map displayModeFromNative ∧
      answers.native target.deviceName = some native ∧
      (alignDisplay answers requested target).changes = asked answers requested target.deviceName native ∧
      ((alignDisplay answers requested target).result = .ok () →
        answers.testReply = 0 ∧ answers.applyReply = 0 ∧
          ∃ poll ∈ answers.polls ++ [answers.lastPoll], poll.Shows target.display.id requested) := by
  rw [alignDisplay]
  split
  · exact .inl ⟨rfl, nofun⟩
  · rename_i current hcurrent
    obtain ⟨native, hnative, rfl⟩ := queryCurrentDisplayMode_eq_ok hcurrent
    split
    · rename_i hsame
      exact .inl ⟨rfl, fun _ => ⟨native, hnative, hsame⟩⟩
    · split
      · exact .inl ⟨rfl, nofun⟩
      · rename_i available havailable
        split
        · exact .inl ⟨rfl, nofun⟩
        · rename_i mode hmode
          obtain ⟨rfl, hadvertised⟩ := advertised_of_select havailable hmode
          rw [applyDisplayMode, queryCurrentNativeDisplayMode]
          cases hsettings : answers.native target.deviceName with
          | none => exact .inl ⟨rfl, nofun⟩
          | some settings =>
            refine .inr ⟨settings, hadvertised, rfl, ?_⟩
            rw [asked]
            by_cases htest : answers.testReply = 0
            · simp only [ensureDisplayChangeSuccess_eq_ok.mpr htest, if_pos htest]
              by_cases happly : answers.applyReply = 0
              · simp only [ensureDisplayChangeSuccess_eq_ok.mpr happly]
                exact ⟨trivial, fun hdone => ⟨htest, happly, waitForDisplayMode_eq_ok hdone⟩⟩
              · simp only [ensureDisplayChangeSuccess, if_neg happly]
                exact ⟨trivial, nofun⟩
            · simp only [ensureDisplayChangeSuccess, if_neg htest]
              exact ⟨trivial, nofun⟩

end Steps

/-- Whatever Windows answers: a session asks for changes of no monitor but the one that is listed as the virtual
display under its id, once to validate the mode and then, if that was granted, live and never stored. The mode
is the current one at the negotiated size and 60 Hz, which the display advertises. The session goes on when it
has no virtual display to align, or when the display was at the mode or a poll has shown it there. -/
theorem mode_change_only_virtual (answers : ModeAnswers) (displayId : Option String)
    (width height : UInt16) :
    let run := prepareCaptureDisplayMode answers displayId width height
    let requested : DisplayMode := ⟨width.toUInt32, height.toUInt32, 60⟩
    (run.changes ≠ [] → ∃ id target native, displayId = some id ∧
      ListedVirtual answers.monitors id target ∧
      requested ∈ (answers.modes target.deviceName).map displayModeFromNative ∧
      answers.native target.deviceName = some native ∧
      run.changes = asked answers requested target.deviceName native) ∧
    (run.result = .ok () → ∀ id, displayId = some id →
      ListedPhysical answers.monitors id ∧ run.changes = [] ∨
      ∃ target, ListedVirtual answers.monitors id target ∧
        ((∃ native, answers.current target.deviceName = some native ∧
            displayModeFromNative native = requested) ∨
          answers.testReply = 0 ∧ answers.applyReply = 0 ∧
            ∃ poll ∈ answers.polls ++ [answers.lastPoll], poll.Shows id requested)) := by
  intro run requested
  simp only [run, prepareCaptureDisplayMode]
  split
  · exact ⟨fun hchanges => absurd rfl hchanges, nofun⟩
  · split
    · exact ⟨fun hchanges => absurd rfl hchanges, nofun⟩
    · rename_i hnone
      refine ⟨fun hchanges => absurd rfl hchanges, ?_⟩
      rintro - id hid
      exact .inl ⟨alignmentTarget_eq_none hnone id hid, rfl⟩
    · rename_i target htarget
      obtain ⟨id, rfl, rfl, hlisted⟩ := alignmentTarget_eq_some htarget
      rcases alignDisplay_cases answers requested target with ⟨hchanges, hdone⟩ | hchanged
      · refine ⟨fun h => absurd hchanges h, ?_⟩
        rintro hok id hid
        cases hid
        exact .inr ⟨target, hlisted, .inl (hdone hok)⟩
      · obtain ⟨native, hadvertised, hnative, hchanges, hdone⟩ := hchanged
        refine ⟨fun _ => ⟨_, target, native, rfl, hlisted, hadvertised, hnative, hchanges⟩, ?_⟩
        rintro hok id hid
        cases hid
        exact .inr ⟨target, hlisted, .inr (hdone hok)⟩

section Growing

def virtualVisit (width height : Int32) : MonitorVisit :=
  ⟨2, .ok ⟨⟨0, 0, width, height⟩, "\\\\.\\DISPLAY2", true⟩,
    [⟨⟨"\\\\.\\display2", "LadoFlow Virtual Display", "ROOT", ""⟩, none⟩]⟩

def virtualSource (width height : Int32) : MonitorSource :=
  ⟨2, ⟨0, 0, width, height⟩, "\\\\.\\DISPLAY2",
    ⟨"ladoflow:ROOT", "LadoFlow Virtual Display", width.toInt.toNat, height.toInt.toNat, true, true⟩⟩

def devMode (width height : UInt32) : DevMode := ⟨0, (0, 0), 0, 32, width, height, 60⟩

/-- The virtual display follows the change after one poll. -/
def growing : ModeAnswers where
  monitors := ⟨[virtualVisit 1280 720], .ok ()⟩
  current _ := some (devMode 1280 720)
  modes _ := [devMode 1920 1200]
  native _ := some (devMode 1280 720)
  testReply := 0
  applyReply := 0
  polls := [⟨⟨[virtualVisit 1280 720], .ok ()⟩, fun _ => some (devMode 1280 720)⟩]
  lastPoll := ⟨⟨[virtualVisit 1920 1200], .ok ()⟩, fun _ => some (devMode 1920 1200)⟩

theorem enumerateMonitors_virtualVisit {width height : Int32}
    (h : enumerateMonitor (virtualVisit width height) = .ok (virtualSource width height)) :
    enumerateMonitors ⟨[virtualVisit width height], .ok ()⟩ = .ok [virtualSource width height] := by
  simp [enumerateMonitors, h, Except.mapError, retainFirst, pure, Except.pure]

theorem growing_aligned :
    (prepareCaptureDisplayMode growing (some "ladoflow:ROOT") 1920 1200).result = .ok () ∧
      (prepareCaptureDisplayMode growing (some "ladoflow:ROOT") 1920 1200).changes ≠ [] := by
  have hsmall := @enumerateMonitors_virtualVisit 1280 720 (by decide +kernel)
  have hlarge := @enumerateMonitors_virtualVisit 1920 1200 (by decide +kernel)
  have htarget : ((enumerateMonitors growing.monitors).bind fun monitors =>
      alignmentTarget monitors (some "ladoflow:ROOT")) = .ok (some (virtualSource 1280 720)) := by
    rw [growing, hsmall]
    rfl
  have hmodes : enumerateDisplayModes (growing.modes "\\\\.\\DISPLAY2") "\\\\.\\DISPLAY2" =
      .ok [⟨1920, 1200, 60⟩] := by
    simp [enumerateDisplayModes, growing, maxEnumeratedDisplayModes, displayModeFromNative, devMode]
  have hwait : waitForDisplayMode ⟨1920, 1200, 60⟩ "ladoflow:ROOT" growing.lastPoll growing.polls =
      .ok () := by
    simp [waitForDisplayMode, ModeObservation.differs, growing, hsmall, hlarge, Except.bind, Except.map,
      selectMonitor, virtualSource, queryCurrentDisplayMode, queryCurrentNativeDisplayMode,
      displayModeFromNative, devMode]
  have hselect : selectExactDisplayMode [⟨1920, 1200, 60⟩] 1920 1200 60 = some ⟨1920, 1200, 60⟩ := rfl
  simp only [prepareCaptureDisplayMode, htarget]
  show (alignDisplay growing ⟨1920, 1200, 60⟩ (virtualSource 1280 720)).result = .ok () ∧
    (alignDisplay growing ⟨1920, 1200, 60⟩ (virtualSource 1280 720)).changes ≠ []
  rw [alignDisplay, show queryCurrentDisplayMode growing.current _ = .ok ⟨1280, 720, 60⟩ from rfl]
  simp only [show (⟨1280, 720, 60⟩ : DisplayMode) ≠ ⟨1920, 1200, 60⟩ by decide, if_false]
  rw [show (virtualSource 1280 720).deviceName = "\\\\.\\DISPLAY2" from rfl, hmodes]
  simp only [hselect]
  rw [show applyDisplayMode growing _ _ = ⟨.ok (), asked growing ⟨1920, 1200, 60⟩ _ _⟩ from rfl]
  exact ⟨hwait, nofun⟩

end Growing

theorem mode_change_only_virtual_growing :
    ∃ target native, ListedVirtual growing.monitors "ladoflow:ROOT" target ∧
      (prepareCaptureDisplayMode growing (some "ladoflow:ROOT") 1920 1200).changes =
        asked growing ⟨1920, 1200, 60⟩ target.deviceName native := by
  obtain ⟨hchanges, -⟩ := mode_change_only_virtual growing (some "ladoflow:ROOT") 1920 1200
  obtain ⟨id, target, native, hid, hlisted, -, -, hasked⟩ := hchanges growing_aligned.2
  cases hid
  exact ⟨target, native, hlisted, hasked⟩

end LadoFlow.Host
