import LadoFlow.Android.AccessoryTransport
import LadoFlow.Framework.Custody

/-!
# What the accessory transport keeps

Every connection that was opened is with the open job that asked for it or with the live session, or it was
closed, once. Nothing is opened, connected or waited for unless the application is in the foreground and
neither paused nor closed.
-/

namespace LadoFlow.Android.AccessoryTransport

open Framework

/-- The connection is with its open job or with a session that has not terminated. -/
def Holds (s : AccessoryTransport) (connection : Nat) : Prop :=
  (∃ job, s.jobs connection = some job ∧ job.point = .returned .connection) ∨
    s.sessions connection = some .running

structure Accounted (s : AccessoryTransport) : Prop where
  custody : Custody s.opened s.closures s.Holds
  job_lt : ∀ id job, s.jobs id = some job → id < s.launched
  job_unused : ∀ id job, s.jobs id = some job → s.sessions id = none
  unopened : ∀ id job, s.jobs id = some job → job.point = .opening → id ∉ s.opened
  opened_lt : ∀ id ∈ s.opened, id < s.launched
  session_lt : ∀ id, s.sessions id ≠ none → id < s.launched

/-- Only the installed session runs, and only the referenced job is not cancelled. -/
structure Core (s : AccessoryTransport) : Prop where
  accounted : Accounted s
  live : ∀ id, s.sessions id = some .running → s.session = some id
  referenced : ∀ id job, s.jobs id = some job → job.cancelled = false → s.openJob = some id

/-- In the foreground, not paused and not closed. -/
def active (s : AccessoryTransport) : Bool := s.foreground && !s.userPaused && !s.closed

/-- A reconnection or an open job that is not cancelled belongs to an active transport. -/
structure Working (s : AccessoryTransport) : Prop where
  reconnect : ∀ accessory, s.reconnectJob = some accessory → s.active = true
  job : ∀ id job, s.jobs id = some job → job.cancelled = false → s.active = true

/-- So does a session; and `Connected` means an installed session for that accessory. -/
structure Gated (s : AccessoryTransport) : Prop extends Working s where
  session : ∀ id, s.session = some id → s.active = true
  opening : ∀ accessory, s.state = .opening accessory → s.active = true
  connected : ∀ accessory, s.state = .connected accessory →
    ∃ job, s.sessionStateJob = some job ∧ s.session = some job.session ∧
      job.accessory.identity = accessory

structure Inv (s : AccessoryTransport) : Prop where
  core : Core s
  gated : Gated s

/-- No session, no reconnection, and every open job is cancelled. -/
structure Idle (s : AccessoryTransport) : Prop where
  session : s.session = none
  reconnect : s.reconnectJob = none
  job : ∀ id job, s.jobs id = some job → job.cancelled = true

variable {s t : AccessoryTransport}

section Resources

theorem Accounted.of_eq (h : Accounted s) (hjobs : t.jobs = s.jobs) (hsessions : t.sessions = s.sessions)
    (hopened : t.opened = s.opened) (hclosures : t.closures = s.closures)
    (hlaunched : t.launched = s.launched) : Accounted t where
  custody := by
    rw [hopened, hclosures]
    apply h.custody.congr
    intro id
    rw [Holds, Holds, hjobs, hsessions]
  job_lt := by simpa only [hjobs, hlaunched] using h.job_lt
  job_unused := by simpa only [hjobs, hsessions] using h.job_unused
  unopened := by simpa only [hjobs, hopened] using h.unopened
  opened_lt := by simpa only [hopened, hlaunched] using h.opened_lt
  session_lt := by simpa only [hsessions, hlaunched] using h.session_lt

theorem Core.of_eq (h : Core s) (hjobs : t.jobs = s.jobs) (hsessions : t.sessions = s.sessions)
    (hopened : t.opened = s.opened) (hclosures : t.closures = s.closures)
    (hlaunched : t.launched = s.launched) (hsession : t.session = s.session)
    (hopenJob : t.openJob = s.openJob) : Core t where
  accounted := h.accounted.of_eq hjobs hsessions hopened hclosures hlaunched
  live := by simpa only [hsessions, hsession] using h.live
  referenced := by simpa only [hjobs, hopenJob] using h.referenced

/-- A session that ends closes its connection, which nobody holds any more. -/
theorem Accounted.endSession (h : Accounted s) (session : Nat) {last : UsbIoSessionState}
    (hlast : last ≠ .running) : Accounted (s.endSession session last) := by
  rw [AccessoryTransport.endSession]
  split
  · rename_i hrunning
    constructor
    · apply h.custody.dispose (.inr hrunning)
      intro id
      simp only [Holds]
      by_cases hid : id = session
      · subst hid
        have hjob : ¬∃ job, s.jobs id = some job ∧ job.point = .returned .connection := by
          rintro ⟨job, hjob, -⟩
          have hnone := h.job_unused id job hjob
          rw [hrunning] at hnone
          cases hnone
        simp [hjob, hlast]
      · simp [hid]
    · exact h.job_lt
    · intro id job hjob
      have hnone := h.job_unused id job hjob
      have hne : id ≠ session := by
        rintro rfl
        rw [hrunning] at hnone
        cases hnone
      simpa [hne] using hnone
    · exact h.unopened
    · exact h.opened_lt
    · intro id hid
      by_cases hne : id = session
      · exact hne ▸ h.session_lt session (by simp [hrunning])
      · exact h.session_lt id (by simpa [hne] using hid)
  · exact h

theorem endSession_sessions (session id : Nat) (last : UsbIoSessionState) :
    (s.endSession session last).sessions id =
      if id = session ∧ s.sessions session = some .running then some last else s.sessions id := by
  rw [AccessoryTransport.endSession]
  by_cases hrunning : s.sessions session = some .running
  · by_cases hid : id = session <;> simp [hrunning, hid, Function.update]
  · simp [hrunning]

theorem endSession_frame (session : Nat) (last : UsbIoSessionState) : ∃ sessions closures,
    s.endSession session last = { s with sessions := sessions, closures := closures } := by
  rw [AccessoryTransport.endSession]
  split
  · exact ⟨_, _, rfl⟩
  · exact ⟨s.sessions, s.closures, rfl⟩

theorem closeActiveSession_frame : ∃ sessions closures, s.closeActiveSession =
    { s with
      sessionStateJob := none
      session := none
      sessions := sessions
      closures := closures } := by
  rw [closeActiveSession]
  cases s.session with
  | none => exact ⟨s.sessions, s.closures, rfl⟩
  | some session =>
    simp only [AccessoryTransport.endSession]
    split
    · exact ⟨_, _, rfl⟩
    · exact ⟨s.sessions, s.closures, rfl⟩

@[simp] theorem closeActiveSession_session : s.closeActiveSession.session = none := by
  obtain ⟨sessions, closures, heq⟩ := s.closeActiveSession_frame
  rw [heq]

@[simp] theorem closeActiveSession_jobs : s.closeActiveSession.jobs = s.jobs := by
  obtain ⟨sessions, closures, heq⟩ := s.closeActiveSession_frame
  rw [heq]

@[simp] theorem closeActiveSession_openJob : s.closeActiveSession.openJob = s.openJob := by
  obtain ⟨sessions, closures, heq⟩ := s.closeActiveSession_frame
  rw [heq]

@[simp] theorem closeActiveSession_reconnectJob :
    s.closeActiveSession.reconnectJob = s.reconnectJob := by
  obtain ⟨sessions, closures, heq⟩ := s.closeActiveSession_frame
  rw [heq]

@[simp] theorem closeActiveSession_launched : s.closeActiveSession.launched = s.launched := by
  obtain ⟨sessions, closures, heq⟩ := s.closeActiveSession_frame
  rw [heq]

@[simp] theorem closeActiveSession_active : s.closeActiveSession.active = s.active := by
  obtain ⟨sessions, closures, heq⟩ := s.closeActiveSession_frame
  rw [heq]
  rfl

theorem Core.not_running (h : Core s) (id : Nat) :
    s.closeActiveSession.sessions id ≠ some .running := by
  rw [closeActiveSession]
  cases hsession : s.session with
  | none =>
    intro hrunning
    have hinstalled := h.live id hrunning
    rw [hsession] at hinstalled
    cases hinstalled
  | some session =>
    simp only [endSession_sessions]
    split
    · simp
    · rename_i hother
      intro hrunning
      have hinstalled := h.live id hrunning
      rw [hsession] at hinstalled
      cases hinstalled
      exact hother ⟨rfl, hrunning⟩

theorem Core.closeActiveSession (h : Core s) : Core s.closeActiveSession where
  accounted := by
    have hcleared : Accounted { s with sessionStateJob := none, session := none } :=
      h.accounted.of_eq rfl rfl rfl rfl rfl
    rw [AccessoryTransport.closeActiveSession]
    cases s.session with
    | none => exact hcleared
    | some session => exact hcleared.endSession session (by simp)
  live id hrunning := absurd hrunning (h.not_running id)
  referenced := by simpa using h.referenced

/-- A session is taken out once it has terminated. -/
theorem Core.clearSession (h : Core s) (hdead : ∀ id, s.sessions id ≠ some .running) :
    Core { s with session := none } where
  accounted := h.accounted.of_eq rfl rfl rfl rfl rfl
  live id hrunning := absurd hrunning (hdead id)
  referenced := h.referenced

/-- The open job changes; so may the record of what was opened, by its own connection. -/
theorem Accounted.setJob (h : Accounted s) {id : Nat} {job job' : OpenJob} {opened : List Nat}
    (hjob : s.jobs id = some job)
    (hcustody : Custody opened s.closures
      (Holds { s with jobs := Function.update s.jobs id (some job'), opened := opened }))
    (hothers : ∀ other ∈ opened, other ≠ id → other ∈ s.opened)
    (hself : job'.point = .opening → id ∉ opened) :
    Accounted { s with jobs := Function.update s.jobs id (some job'), opened := opened } where
  custody := hcustody
  job_lt other found hfound := by
    by_cases hother : other = id
    · exact hother ▸ h.job_lt id job hjob
    · exact h.job_lt other found (by simpa [hother] using hfound)
  job_unused other found hfound := by
    by_cases hother : other = id
    · exact hother ▸ h.job_unused id job hjob
    · exact h.job_unused other found (by simpa [hother] using hfound)
  unopened other found hfound hopening hopened := by
    by_cases hother : other = id
    · subst hother
      simp only [Function.update_self, Option.some.injEq] at hfound
      exact hself (hfound ▸ hopening) hopened
    · exact h.unopened other found (by simpa [hother] using hfound) hopening
        (hothers other hopened hother)
  opened_lt other hopened := by
    by_cases hother : other = id
    · exact hother ▸ h.job_lt id job hjob
    · exact h.opened_lt other (hothers other hopened hother)
  session_lt := h.session_lt

theorem Accounted.cancelJob (h : Accounted s) (id : Nat) : Accounted (s.cancelJob id) := by
  rw [AccessoryTransport.cancelJob]
  cases hjob : s.jobs id with
  | none =>
    have hsame : Function.update s.jobs id none = s.jobs := by
      rw [← hjob, Function.update_eq_self]
    simp only [Option.map_none, hsame]
    exact h
  | some job =>
    apply h.setJob hjob
    · apply h.custody.congr
      intro other
      simp only [Holds]
      by_cases hother : other = id
      · subst hother
        simp [hjob]
      · simp [hother]
    · exact fun other hopened _ => hopened
    · exact h.unopened id job hjob

/-- Behind `openJob?.cancel()` every open job is cancelled. -/
theorem Core.job_cancelled (h : Core s) (id : Nat) (job : OpenJob)
    (hjob : s.cancelOpenJob.jobs id = some job) : job.cancelled = true := by
  by_contra hrunning
  rw [Bool.not_eq_true] at hrunning
  rw [cancelOpenJob] at hjob
  cases hopen : s.openJob with
  | none =>
    rw [hopen] at hjob
    have hreferenced := h.referenced id job hjob hrunning
    rw [hopen] at hreferenced
    cases hreferenced
  | some current =>
    simp only [hopen, AccessoryTransport.cancelJob] at hjob
    by_cases hid : id = current
    · subst hid
      simp only [Function.update_self, Option.map_eq_some_iff] at hjob
      obtain ⟨before, -, rfl⟩ := hjob
      cases hrunning
    · rw [Function.update_of_ne hid] at hjob
      have hreferenced := h.referenced id job hjob hrunning
      rw [hopen] at hreferenced
      cases hreferenced
      exact hid rfl

theorem Core.cancelOpenJob (h : Core s) : Core s.cancelOpenJob where
  accounted := by
    rw [AccessoryTransport.cancelOpenJob]
    cases s.openJob with
    | none => exact h.accounted
    | some current => exact (h.accounted.cancelJob current).of_eq rfl rfl rfl rfl rfl
  live := by
    rw [AccessoryTransport.cancelOpenJob]
    cases s.openJob with
    | none => exact h.live
    | some current => exact h.live
  referenced id job hjob hrunning := by
    rw [h.job_cancelled id job hjob] at hrunning
    cases hrunning

theorem cancelOpenJob_frame : ∃ jobs,
    s.cancelOpenJob = { s with jobs := jobs, openJob := none } := by
  rw [cancelOpenJob]
  cases hopen : s.openJob with
  | none => exact ⟨s.jobs, by cases s; cases hopen; rfl⟩
  | some current => exact ⟨_, rfl⟩

/-- A new job takes a number that no job, session or connection has. -/
theorem Accounted.launchOpen (h : Accounted s) (accessory : UsbAccessory) :
    Accounted (s.launchOpen accessory) := by
  rw [AccessoryTransport.launchOpen]
  split
  · exact h
  have hjob : s.jobs s.launched = none := by
    cases hjob : s.jobs s.launched with
    | none => rfl
    | some job => exact absurd (h.job_lt _ _ hjob) (Nat.lt_irrefl _)
  constructor
  · apply h.custody.congr
    intro id
    simp only [Holds]
    by_cases hid : id = s.launched
    · subst hid
      simp [hjob]
    · simp [hid]
  · intro id job hfound
    by_cases hid : id = s.launched
    · exact hid ▸ Nat.lt_succ_self _
    · exact Nat.lt_succ_of_lt (h.job_lt id job (by simpa [hid] using hfound))
  · intro id job hfound
    by_cases hid : id = s.launched
    · by_contra hused
      exact absurd (h.session_lt id hused) (hid ▸ Nat.lt_irrefl _)
    · exact h.job_unused id job (by simpa [hid] using hfound)
  · intro id job hfound hopening hopened
    by_cases hid : id = s.launched
    · exact absurd (h.opened_lt id hopened) (hid ▸ Nat.lt_irrefl _)
    · exact h.unopened id job (by simpa [hid] using hfound) hopening hopened
  · exact fun id hopened => Nat.lt_succ_of_lt (h.opened_lt id hopened)
  · exact fun id hused => Nat.lt_succ_of_lt (h.session_lt id hused)

theorem Core.launchOpen (h : Core s)
    (hcancelled : ∀ id job, s.jobs id = some job → job.cancelled = true) (accessory : UsbAccessory) :
    Core (s.launchOpen accessory) where
  accounted := h.accounted.launchOpen accessory
  live := by
    rw [AccessoryTransport.launchOpen]
    split <;> exact h.live
  referenced id job hjob hrunning := by
    rw [AccessoryTransport.launchOpen] at hjob ⊢
    split at hjob
    · rw [hcancelled id job hjob] at hrunning
      cases hrunning
    · rename_i hclosed
      simp only [if_neg hclosed]
      by_cases hid : id = s.launched
      · rw [hid]
      · have hold : s.jobs id = some job := by simpa [hid] using hjob
        rw [hcancelled id job hold] at hrunning
        cases hrunning

theorem removeJob_of_ne {id other : Nat} {job : OpenJob}
    (h : (s.removeJob id).jobs other = some job) : other ≠ id ∧ s.jobs other = some job := by
  by_cases hother : other = id
  · simp [removeJob, hother] at h
  · exact ⟨hother, by simpa [removeJob, hother] using h⟩

/-- A job ends, and what becomes of its connection is accounted for. -/
theorem Accounted.dropJob (h : Accounted s) {id : Nat} {job : OpenJob} {closures : List Nat}
    {sessions : Nat → Option UsbIoSessionState} (hjob : s.jobs id = some job)
    (hcustody : Custody s.opened closures
      (Holds { s.removeJob id with sessions := sessions, closures := closures }))
    (hsessions : ∀ other, other ≠ id → sessions other = s.sessions other) :
    Accounted { s.removeJob id with sessions := sessions, closures := closures } where
  custody := hcustody
  job_lt other found hfound := h.job_lt other found (removeJob_of_ne hfound).2
  job_unused other found hfound := by
    obtain ⟨hne, hold⟩ := removeJob_of_ne hfound
    exact (hsessions other hne).trans (h.job_unused other found hold)
  unopened other found hfound := h.unopened other found (removeJob_of_ne hfound).2
  opened_lt := h.opened_lt
  session_lt other hused := by
    by_cases hother : other = id
    · exact hother ▸ h.job_lt id job hjob
    · exact h.session_lt other (by rwa [← hsessions other hother])

/-- A job that ends without a connection. -/
theorem Accounted.removeJob (h : Accounted s) {id : Nat} {job : OpenJob} (hjob : s.jobs id = some job)
    (hpoint : job.point ≠ .returned .connection) : Accounted (s.removeJob id) := by
  apply h.dropJob hjob _ fun _ _ => rfl
  apply h.custody.congr
  intro other
  simp only [Holds, AccessoryTransport.removeJob]
  by_cases hother : other = id
  · subst hother
    simp [hjob, hpoint]
  · simp [hother]

/-- A job that ends with its connection closes it. -/
theorem Accounted.closeConnection (h : Accounted s) {id : Nat} {job : OpenJob}
    (hjob : s.jobs id = some job) (hpoint : job.point = .returned .connection) :
    Accounted ((s.removeJob id).closeConnection id) := by
  apply h.dropJob hjob _ fun _ _ => rfl
  apply h.custody.dispose (.inl ⟨job, hjob, hpoint⟩)
  intro other
  have hunused := h.job_unused id job hjob
  simp only [Holds, AccessoryTransport.removeJob]
  by_cases hother : other = id
  · subst hother
    simp [hunused]
  · simp [hother]

/-- A job that ends hands its connection over to a session. -/
theorem Accounted.handOver (h : Accounted s) {id : Nat} {job : OpenJob}
    (hjob : s.jobs id = some job) (hpoint : job.point = .returned .connection) :
    Accounted { s.removeJob id with
      sessions := Function.update s.sessions id (some .running) } := by
  apply h.dropJob hjob
  · apply h.custody.congr
    intro other
    simp only [Holds, AccessoryTransport.removeJob]
    by_cases hother : other = id
    · subst hother
      simp [hjob, hpoint]
    · simp [hother]
  · intro other hother
    simp [hother]

theorem closeActiveSession_removeJob (id : Nat) :
    (s.removeJob id).closeActiveSession = s.closeActiveSession.removeJob id := by
  simp only [AccessoryTransport.closeActiveSession, AccessoryTransport.removeJob]
  cases s.session with
  | none => rfl
  | some session =>
    simp only [AccessoryTransport.endSession]
    split <;> rfl

theorem Core.install (h : Core s) {id : Nat} {job : OpenJob} (hjob : s.jobs id = some job)
    (hpoint : job.point = .returned .connection) (accessory : UsbAccessory) :
    Core ((s.removeJob id).install id accessory) := by
  have hjob' : s.closeActiveSession.jobs id = some job := by rw [closeActiveSession_jobs, hjob]
  have hsession := h.closeActiveSession.accounted.handOver hjob' hpoint
  rw [AccessoryTransport.install, closeActiveSession_removeJob]
  constructor
  · exact hsession.of_eq rfl rfl rfl rfl rfl
  · intro other hrunning
    by_cases hother : other = id
    · rw [hother]
    · exact absurd (by simpa [AccessoryTransport.removeJob, hother] using hrunning)
        (h.not_running other)
  · intro other found hfound hcancelled
    have hold : s.closeActiveSession.jobs other = some found := (removeJob_of_ne hfound).2
    exact h.closeActiveSession.referenced other found hold hcancelled

theorem Core.removeJob (h : Core s) {id : Nat} {job : OpenJob} (hjob : s.jobs id = some job)
    (hpoint : job.point ≠ .returned .connection) : Core (s.removeJob id) where
  accounted := h.accounted.removeJob hjob hpoint
  live := h.live
  referenced other found hfound := h.referenced other found (removeJob_of_ne hfound).2

theorem Core.closeConnection (h : Core s) {id : Nat} {job : OpenJob} (hjob : s.jobs id = some job)
    (hpoint : job.point = .returned .connection) : Core ((s.removeJob id).closeConnection id) where
  accounted := h.accounted.closeConnection hjob hpoint
  live := h.live
  referenced other found hfound := h.referenced other found (removeJob_of_ne hfound).2

theorem Core.endSession (h : Core s) (session : Nat) {last : UsbIoSessionState}
    (hlast : last ≠ .running) : Core (s.endSession session last) where
  accounted := h.accounted.endSession session hlast
  live id hrunning := by
    rw [endSession_sessions] at hrunning
    obtain ⟨sessions, closures, heq⟩ := s.endSession_frame session last
    rw [heq]
    split at hrunning
    · exact absurd (Option.some.inj hrunning) hlast
    · exact h.live id hrunning
  referenced := by
    obtain ⟨sessions, closures, heq⟩ := s.endSession_frame session last
    rw [heq]
    exact h.referenced

end Resources

section Operations

variable (config : AccessoryConfig) (usbManager : UsbManagerView)

theorem Core.maybeOpenAccessory (h : Core s) (accessory : UsbAccessory) :
    Core (s.maybeOpenAccessory usbManager accessory) := by
  rw [AccessoryTransport.maybeOpenAccessory]
  split
  · exact h
  split
  · exact h
  · exact h.cancelOpenJob.launchOpen h.job_cancelled accessory

theorem Core.requestPermission (h : Core s) (accessory : UsbAccessory) :
    Core (s.requestPermission usbManager accessory) := by
  rw [AccessoryTransport.requestPermission]
  split
  · exact h
  split <;> exact h.of_eq rfl rfl rfl rfl rfl rfl rfl

theorem Core.openOrRequest (h : Core s) (accessory : UsbAccessory) :
    Core (s.openOrRequest usbManager accessory) := by
  rw [AccessoryTransport.openOrRequest]
  split
  · exact h.maybeOpenAccessory usbManager accessory
  · exact h.requestPermission usbManager accessory

theorem Core.handleAttachedAccessory (h : Core s) (accessory : UsbAccessory) :
    Core (s.handleAttachedAccessory usbManager accessory) := by
  rw [AccessoryTransport.handleAttachedAccessory]
  split
  · exact h
  split
  · exact h.of_eq rfl rfl rfl rfl rfl rfl rfl
  · exact (h.of_eq rfl rfl rfl rfl rfl rfl rfl : Core { s with currentAccessory := some accessory
      }).openOrRequest usbManager accessory

theorem Core.scanAttachedAccessories (h : Core s) :
    Core (s.scanAttachedAccessories config usbManager) := by
  rw [AccessoryTransport.scanAttachedAccessories]
  split
  · exact h
  split
  · have hcleared : Core { s with currentAccessory := none } := h.of_eq rfl rfl rfl rfl rfl rfl rfl
    exact hcleared.closeActiveSession.of_eq rfl rfl rfl rfl rfl rfl rfl
  · exact h.handleAttachedAccessory usbManager _

theorem Core.retryLater (h : Core s) (accessory : UsbAccessory) (reason : String) :
    Core (s.retryLater config accessory reason) := by
  rw [AccessoryTransport.retryLater]
  split
  · exact h.of_eq rfl rfl rfl rfl rfl rfl rfl
  · rw [AccessoryTransport.launchReconnect]
    split <;> exact h.of_eq rfl rfl rfl rfl rfl rfl rfl

theorem Core.scheduleReconnect (h : Core s) (accessory : UsbAccessory) (reason : String) :
    Core (s.scheduleReconnect config usbManager accessory reason) := by
  rw [AccessoryTransport.scheduleReconnect]
  split
  · exact h.closeActiveSession.of_eq rfl rfl rfl rfl rfl rfl rfl
  · exact h.closeActiveSession.retryLater config accessory reason

theorem Core.stopWork (h : Core s) : Core s.stopWork := by
  have hcancelled : Core s.cancelConnectionWork :=
    h.cancelOpenJob.of_eq rfl rfl rfl rfl rfl rfl rfl
  exact hcancelled.closeActiveSession.of_eq rfl rfl rfl rfl rfl rfl rfl

end Operations

section Gating

variable (config : AccessoryConfig) (usbManager : UsbManagerView)

theorem Working.gated (h : Working s) (hsession : s.session = none)
    (hopening : ∀ accessory, s.state ≠ .opening accessory)
    (hconnected : ∀ accessory, s.state ≠ .connected accessory) : Gated s where
  toWorking := h
  session id hid := by
    rw [hsession] at hid
    cases hid
  opening accessory hstate := absurd hstate (hopening accessory)
  connected accessory hstate := absurd hstate (hconnected accessory)

theorem Idle.working (h : Idle s) : Working s where
  reconnect accessory haccessory := by
    rw [h.reconnect] at haccessory
    cases haccessory
  job id job hjob hrunning := by
    rw [h.job id job hjob] at hrunning
    cases hrunning

/-- Fields that gate nothing change, and so may the state if it does not become a gated one. -/
theorem Gated.silent (h : Gated s) (hactive : s.active = true → t.active = true)
    (hsession : t.session = s.session) (hreconnect : t.reconnectJob = s.reconnectJob)
    (hjobs : t.jobs = s.jobs) (hopening : ∀ accessory, t.state ≠ .opening accessory)
    (hconnected : ∀ accessory, t.state ≠ .connected accessory) : Gated t where
  reconnect accessory haccessory := hactive (h.reconnect accessory (hreconnect ▸ haccessory))
  job id job hjob hrunning := hactive (h.job id job (hjobs ▸ hjob) hrunning)
  session id hid := hactive (h.session id (hsession ▸ hid))
  opening accessory hstate := absurd hstate (hopening accessory)
  connected accessory hstate := absurd hstate (hconnected accessory)

theorem Gated.keep (h : Gated s) (hactive : s.active = true → t.active = true)
    (hsession : t.session = s.session) (hreconnect : t.reconnectJob = s.reconnectJob)
    (hjobs : t.jobs = s.jobs) (hstate : t.state = s.state)
    (hcollector : t.sessionStateJob = s.sessionStateJob) : Gated t where
  reconnect accessory haccessory := hactive (h.reconnect accessory (hreconnect ▸ haccessory))
  job id job hjob hrunning := hactive (h.job id job (hjobs ▸ hjob) hrunning)
  session id hid := hactive (h.session id (hsession ▸ hid))
  opening accessory hopening := hactive (h.opening accessory (hstate ▸ hopening))
  connected accessory hconnected := by
    rw [hcollector, hsession]
    exact h.connected accessory (hstate ▸ hconnected)

theorem gated_of_active (h : s.active = true)
    (hconnected : ∀ accessory, s.state ≠ .connected accessory) : Gated s where
  reconnect _ _ := h
  job _ _ _ _ := h
  session _ _ := h
  opening _ _ := h
  connected accessory hstate := absurd hstate (hconnected accessory)

theorem Core.stopWork_idle (h : Core s) : Idle s.stopWork where
  session := closeActiveSession_session
  reconnect := closeActiveSession_reconnectJob
  job id job hjob := by
    apply h.job_cancelled id
    simpa [AccessoryTransport.stopWork, cancelConnectionWork] using hjob

theorem Core.stopWork_inv (h : Core s) : Inv s.stopWork where
  core := h.stopWork
  gated := h.stopWork_idle.working.gated h.stopWork_idle.session
    (by simp [AccessoryTransport.stopWork]) (by simp [AccessoryTransport.stopWork])

theorem Inv.maybeOpenAccessory (h : Inv s) (accessory : UsbAccessory) :
    Inv (s.maybeOpenAccessory usbManager accessory) := by
  refine ⟨h.core.maybeOpenAccessory usbManager accessory, ?_⟩
  rw [AccessoryTransport.maybeOpenAccessory]
  split
  · exact h.gated
  rename_i hguard
  split
  · exact h.gated
  obtain ⟨jobs, hframe⟩ := s.cancelOpenJob_frame
  have hcancelled := h.core.job_cancelled
  rw [hframe] at hcancelled ⊢
  rw [launchOpen]
  split
  · constructor
    · constructor
      · exact h.gated.reconnect
      · intro id job hjob hrunning
        rw [hcancelled id job hjob] at hrunning
        cases hrunning
    · exact h.gated.session
    · exact h.gated.opening
    · exact h.gated.connected
  · rename_i hclosed
    apply gated_of_active
    · simp at hguard hclosed
      simp [active, hguard, hclosed]
    · simp

theorem Inv.requestPermission (h : Inv s) (accessory : UsbAccessory) :
    Inv (s.requestPermission usbManager accessory) := by
  refine ⟨h.core.requestPermission usbManager accessory, ?_⟩
  rw [AccessoryTransport.requestPermission]
  split
  · exact h.gated
  split <;> exact h.gated.silent id rfl rfl rfl (by simp) (by simp)

theorem Inv.openOrRequest (h : Inv s) (accessory : UsbAccessory) :
    Inv (s.openOrRequest usbManager accessory) := by
  rw [AccessoryTransport.openOrRequest]
  split
  · exact h.maybeOpenAccessory usbManager accessory
  · exact h.requestPermission usbManager accessory

theorem Inv.setCurrent (h : Inv s) (accessory : UsbAccessory) :
    Inv { s with currentAccessory := some accessory } where
  core := h.core.of_eq rfl rfl rfl rfl rfl rfl rfl
  gated := h.gated.keep id rfl rfl rfl rfl rfl

theorem Inv.handleAttachedAccessory (h : Inv s) (accessory : UsbAccessory) :
    Inv (s.handleAttachedAccessory usbManager accessory) := by
  rw [AccessoryTransport.handleAttachedAccessory]
  split
  · exact h
  split
  · exact ⟨h.core.of_eq rfl rfl rfl rfl rfl rfl rfl,
      h.gated.silent id rfl rfl rfl (by simp) (by simp)⟩
  · exact (h.setCurrent accessory).openOrRequest usbManager accessory

theorem Inv.scanAttachedAccessories (h : Inv s) :
    Inv (s.scanAttachedAccessories config usbManager) := by
  refine ⟨h.core.scanAttachedAccessories config usbManager, ?_⟩
  rw [AccessoryTransport.scanAttachedAccessories]
  split
  · exact h.gated
  split
  · apply Working.gated
    · constructor
      · intro accessory haccessory
        simp only [closeActiveSession_reconnectJob] at haccessory
        exact closeActiveSession_active.trans (h.gated.reconnect accessory haccessory)
      · intro id job hjob hrunning
        simp only [closeActiveSession_jobs] at hjob
        exact closeActiveSession_active.trans (h.gated.job id job hjob hrunning)
    · exact closeActiveSession_session
    · simp
    · simp
  · exact (h.handleAttachedAccessory usbManager _).gated

theorem Working.closeActiveSession (h : Working s) : Working s.closeActiveSession where
  reconnect accessory haccessory := by
    rw [closeActiveSession_active]
    exact h.reconnect accessory (by simpa using haccessory)
  job id job hjob hrunning := by
    rw [closeActiveSession_active]
    exact h.job id job (by simpa using hjob) hrunning

/-- A lost connection leaves no session; the next attempt is made while the transport is active. -/
theorem Working.scheduleReconnect (h : Working s) (accessory : UsbAccessory) (reason : String) :
    Gated (s.scheduleReconnect config usbManager accessory reason) ∧
      ∀ connected, (s.scheduleReconnect config usbManager accessory reason).state ≠
        .connected connected := by
  have hidle := h.closeActiveSession
  rw [AccessoryTransport.scheduleReconnect]
  split
  · constructor
    · apply Working.gated
      · exact ⟨hidle.reconnect, hidle.job⟩
      · exact closeActiveSession_session
      · intro other
        dsimp only
        split <;> simp
      · intro other
        dsimp only
        split <;> simp
    · intro other
      dsimp only
      split <;> simp
  rename_i hguard
  have hflags : s.foreground = true ∧ s.userPaused = false := by
    simp at hguard
    exact ⟨hguard.1.1, hguard.1.2⟩
  obtain ⟨sessions, closures, hframe⟩ := s.closeActiveSession_frame
  rw [hframe] at hidle ⊢
  rw [retryLater]
  split
  · constructor
    · exact Working.gated ⟨hidle.reconnect, hidle.job⟩ rfl (by simp) (by simp)
    · simp
  rename_i hretry
  have hattempt : 1 ≤ s.reconnectAttempt + 1 := by
    simp [UsbReconnectPolicy.shouldRetry] at hretry
    exact hretry.1
  simp only [launchReconnect, UsbReconnectPolicy.delayMillis, if_pos hattempt]
  · constructor
    · apply Working.gated
      · constructor
        · intro other hother
          dsimp only at hother
          split at hother
          · cases hother
          · rename_i hclosed
            simp at hclosed
            simp [active, hflags, hclosed]
        · exact hidle.job
      · rfl
      · simp
      · simp
    · simp

end Gating

section Steps

variable {config : AccessoryConfig} {usbManager : UsbManagerView}

theorem Inv.scheduleReconnect (h : Inv s) (accessory : UsbAccessory) (reason : String) :
    Inv (s.scheduleReconnect config usbManager accessory reason) where
  core := h.core.scheduleReconnect config usbManager accessory reason
  gated := (h.gated.toWorking.scheduleReconnect config usbManager accessory reason).1

variable (config usbManager) in
/-- The session is out before the reconnection starts, which closes nothing then. -/
theorem Core.sessionFailed (hcore : Core s) (hworking : Working s)
    (hdead : ∀ id, s.sessions id ≠ some .running) (accessory : UsbAccessory) (message : String) :
    Inv (s.sessionFailed config usbManager accessory message) ∧
      ∀ connected, (s.sessionFailed config usbManager accessory message).state ≠
        .connected connected := by
  have hcleared : Working { s with session := none } := ⟨hworking.reconnect, hworking.job⟩
  have hgated := hcleared.scheduleReconnect config usbManager accessory message
  exact ⟨⟨(hcore.clearSession hdead).scheduleReconnect config usbManager accessory message,
    hgated.1⟩, hgated.2⟩

theorem install_session_eq (id : Nat) (accessory : UsbAccessory) :
    (s.install id accessory).session = some id := rfl

theorem install_active (id : Nat) (accessory : UsbAccessory) :
    (s.install id accessory).active = s.active :=
  closeActiveSession_active

theorem Inv.activate (h : Inv s) {id : Nat} {job : OpenJob} (hjob : s.jobs id = some job)
    (hpoint : job.point = .returned .connection) (hrunning : job.cancelled = false)
    (earlyFailure : Option (UsbIoFailureKind × String)) :
    Inv ((s.removeJob id).activate config usbManager id job.accessory earlyFailure) := by
  have hactive : ((s.removeJob id).install id job.accessory).active = true :=
    (install_active id job.accessory).trans (h.gated.job id job hjob hrunning)
  have hcore := h.core.install hjob hpoint job.accessory
  cases earlyFailure with
  | none =>
    refine ⟨hcore, ⟨⟨fun _ _ => hactive, fun _ _ _ _ => hactive⟩, fun _ _ => hactive,
      fun _ _ => hactive, ?_⟩⟩
    intro accessory hstate
    exact ⟨⟨id, job.accessory⟩, rfl, rfl, AccessoryTransportState.connected.inj hstate⟩
  | some failure =>
    obtain ⟨kind, message⟩ := failure
    have hended := hcore.endSession id (by simp : UsbIoSessionState.failed kind message ≠ .running)
    have hdead : ∀ other, (((s.removeJob id).install id job.accessory).endSession id
        (.failed kind message)).sessions other ≠ some .running := by
      intro other hother
      have hinstalled := hended.live other hother
      obtain ⟨sessions, closures, hframe⟩ :=
        ((s.removeJob id).install id job.accessory).endSession_frame id (.failed kind message)
      rw [endSession_sessions] at hother
      rw [hframe, install_session_eq] at hinstalled
      cases hinstalled
      simp [AccessoryTransport.install] at hother
    have hworking : Working (((s.removeJob id).install id job.accessory).endSession id
        (.failed kind message)) := by
      obtain ⟨sessions, closures, hframe⟩ :=
        ((s.removeJob id).install id job.accessory).endSession_frame id (.failed kind message)
      rw [hframe]
      exact ⟨fun _ _ => hactive, fun _ _ _ _ => hactive⟩
    obtain ⟨hinv, hstate⟩ := hended.sessionFailed config usbManager hworking hdead job.accessory
      message
    refine ⟨hinv.core.of_eq rfl rfl rfl rfl rfl rfl rfl, ?_⟩
    exact ⟨⟨hinv.gated.reconnect, hinv.gated.job⟩, hinv.gated.session, hinv.gated.opening,
      fun accessory hconnected => absurd hconnected (hstate accessory)⟩

theorem Inv.removeJob (h : Inv s) {id : Nat} {job : OpenJob} (hjob : s.jobs id = some job)
    (hpoint : job.point ≠ .returned .connection) : Inv (s.removeJob id) where
  core := h.core.removeJob hjob hpoint
  gated :=
    { reconnect := h.gated.reconnect
      job := fun other found hfound => h.gated.job other found (removeJob_of_ne hfound).2
      session := h.gated.session
      opening := h.gated.opening
      connected := h.gated.connected }

theorem Inv.resumeOpen (h : Inv s) {id : Nat}
    {earlyFailure : Option (UsbIoFailureKind × String)}
    (hstep : s.resumeOpen config usbManager id earlyFailure = some t) : Inv t := by
  rw [AccessoryTransport.resumeOpen] at hstep
  cases hjob : s.jobs id with
  | none =>
    rw [hjob] at hstep
    cases hstep
  | some job =>
    cases hpoint : job.point with
    | opening =>
      simp only [hjob, hpoint] at hstep
      cases hstep
    | returned result =>
      simp only [hjob, hpoint, Option.some.injEq] at hstep
      subst hstep
      cases result with
      | notRun => exact h.removeJob hjob (by simp [hpoint])
      | threw message => exact (h.removeJob hjob (by simp [hpoint])).scheduleReconnect _ _
      | noDescriptor =>
        simp only [finishOpen]
        split
        · exact h.removeJob hjob (by simp [hpoint])
        · exact (h.removeJob hjob (by simp [hpoint])).scheduleReconnect _ _
      | connection =>
        simp only [finishOpen]
        split
        · rename_i haccepts
          have hrunning : job.cancelled = false := by
            simp [accepts] at haccepts
            exact haccepts.1.1.1.1
          exact h.activate hjob hpoint hrunning earlyFailure
        · exact ⟨h.core.closeConnection hjob hpoint,
            { reconnect := h.gated.reconnect
              job := fun other found hfound => h.gated.job other found (removeJob_of_ne hfound).2
              session := h.gated.session
              opening := h.gated.opening
              connected := h.gated.connected }⟩

/-- The connection that the blocking part returns is the open job's. -/
theorem Accounted.openReturned (h : Accounted s) {id : Nat} {job : OpenJob} (result : OpenResult)
    (hjob : s.jobs id = some job) (hpoint : job.point = .opening) :
    Accounted
      { s with
        jobs := Function.update s.jobs id (some { job with point := .returned result })
        opened := if result = .connection then s.opened ++ [id] else s.opened } := by
  apply h.setJob hjob
  · split
    · rename_i hconnection
      subst hconnection
      apply h.custody.acquire (h.unopened id job hjob hpoint)
      intro other
      simp only [Holds]
      by_cases hother : other = id
      · subst hother
        simp [hjob]
      · simp [hother]
    · rename_i hresult
      apply h.custody.congr
      intro other
      simp only [Holds]
      by_cases hother : other = id
      · subst hother
        simp [hjob, hpoint, hresult]
      · simp [hother]
  · intro other hopened hother
    split at hopened
    · simpa [hother] using hopened
    · exact hopened
  · simp

theorem Inv.openReturned (h : Inv s) {id : Nat} {result : OpenResult}
    (hstep : s.openReturned id result = some t) : Inv t := by
  rw [AccessoryTransport.openReturned] at hstep
  cases hjob : s.jobs id with
  | none =>
    rw [hjob] at hstep
    cases hstep
  | some job =>
    rw [hjob] at hstep
    dsimp only at hstep
    split at hstep
    · rename_i hguard
      cases hstep
      have hcancelled : ∀ other found,
          Function.update s.jobs id (some { job with point := .returned result }) other =
            some found →
          ∃ before, s.jobs other = some before ∧ before.cancelled = found.cancelled := by
        intro other found hfound
        by_cases hother : other = id
        · subst hother
          simp only [Function.update_self, Option.some.injEq] at hfound
          exact ⟨job, hjob, by rw [← hfound]⟩
        · exact ⟨found, by simpa [hother] using hfound, rfl⟩
      refine ⟨⟨?_, h.core.live, ?_⟩, ⟨⟨h.gated.reconnect, ?_⟩, h.gated.session, h.gated.opening,
        h.gated.connected⟩⟩
      · exact h.core.accounted.openReturned result hjob hguard.1
      · intro other found hfound hrunning
        obtain ⟨before, hbefore, hsame⟩ := hcancelled other found hfound
        exact h.core.referenced other before hbefore (hsame.trans hrunning)
      · intro other found hfound hrunning
        obtain ⟨before, hbefore, hsame⟩ := hcancelled other found hfound
        exact h.gated.job other before hbefore (hsame.trans hrunning)
    · cases hstep

theorem Inv.start (h : Inv s) : Inv (s.start config) := by
  rw [AccessoryTransport.start]
  split
  · exact h
  split
  · exact ⟨h.core.of_eq rfl rfl rfl rfl rfl rfl rfl,
      h.gated.silent id rfl rfl rfl (by simp [unsupported]) (by simp [unsupported])⟩
  · exact ⟨h.core.of_eq rfl rfl rfl rfl rfl rfl rfl, h.gated.keep id rfl rfl rfl rfl rfl⟩

theorem Inv.onStart (h : Inv s) : Inv (s.onStart config usbManager) := by
  have hactive : s.active = true → { s with foreground := true }.active = true := by
    simp +contextual [active]
  have hshown : Inv { s with foreground := true } :=
    ⟨h.core.of_eq rfl rfl rfl rfl rfl rfl rfl, h.gated.keep hactive rfl rfl rfl rfl rfl⟩
  rw [AccessoryTransport.onStart]
  split
  · exact ⟨hshown.core.of_eq rfl rfl rfl rfl rfl rfl rfl,
      hshown.gated.silent id rfl rfl rfl (by simp [unsupported]) (by simp [unsupported])⟩
  split
  · exact hshown
  · exact hshown.scanAttachedAccessories config usbManager

theorem Inv.retry (h : Inv s) : Inv (s.retry config usbManager) := by
  have hactive : s.active = true →
      { s with userPaused := false, reconnectAttempt := 0 }.active = true := by
    simp +contextual [active]
  have hresumed : Inv { s with userPaused := false, reconnectAttempt := 0 } :=
    ⟨h.core.of_eq rfl rfl rfl rfl rfl rfl rfl, h.gated.keep hactive rfl rfl rfl rfl rfl⟩
  rw [AccessoryTransport.retry]
  split
  · exact ⟨hresumed.core.of_eq rfl rfl rfl rfl rfl rfl rfl,
      hresumed.gated.silent id rfl rfl rfl (by simp [unsupported]) (by simp [unsupported])⟩
  split
  · exact hresumed.scanAttachedAccessories config usbManager
  · exact hresumed

theorem Inv.onStop (h : Inv s) : Inv s.onStop :=
  (h.core.of_eq rfl rfl rfl rfl rfl rfl rfl : Core { s with foreground := false }).stopWork_inv

theorem Inv.disconnect (h : Inv s) : Inv s.disconnect :=
  (h.core.of_eq rfl rfl rfl rfl rfl rfl rfl : Core { s with userPaused := true }).stopWork_inv

theorem Inv.close (h : Inv s) : Inv s.close := by
  rw [AccessoryTransport.close]
  split
  · exact h
  · apply Core.stopWork_inv
    exact h.core.of_eq rfl rfl rfl rfl rfl rfl rfl

theorem Inv.permissionResult (h : Inv s) (accessory : Option UsbAccessory) (granted : Bool) :
    Inv (s.permissionResult usbManager accessory granted) := by
  have hanswered : Inv { s with permissionRequestInFlight := false } :=
    ⟨h.core.of_eq rfl rfl rfl rfl rfl rfl rfl, h.gated.keep id rfl rfl rfl rfl rfl⟩
  rw [AccessoryTransport.permissionResult]
  split
  · exact hanswered
  · rename_i chosen _
    rw [onPermissionResult]
    split
    · exact hanswered
    split
    · exact (hanswered.setCurrent chosen).maybeOpenAccessory usbManager chosen
    · exact ⟨hanswered.core.of_eq rfl rfl rfl rfl rfl rfl rfl,
        hanswered.gated.silent id rfl rfl rfl (by simp) (by simp)⟩

theorem resolveUsbDetachState_quiet {current : Option UsbAccessoryIdentity}
    {detached : UsbAccessoryIdentity} {stillAttached foreground userPaused : Bool}
    {state : AccessoryTransportState}
    (h : resolveUsbDetachState current detached stillAttached foreground userPaused = some state) :
    (∀ accessory, state ≠ .opening accessory) ∧ ∀ accessory, state ≠ .connected accessory := by
  rw [resolveUsbDetachState] at h
  split at h
  · cases h
  split at h <;> cases h <;> simp

theorem Inv.accessoryDetached (h : Inv s) (detached : UsbAccessory) :
    Inv (s.accessoryDetached usbManager detached) := by
  rw [AccessoryTransport.accessoryDetached]
  split
  · exact h
  · rename_i state hstate
    obtain ⟨hopening, hconnected⟩ := resolveUsbDetachState_quiet hstate
    have hcore : Core
        { s with
          permissionRequestInFlight := false
          currentAccessory := none
          reconnectAttempt := 0 } := h.core.of_eq rfl rfl rfl rfl rfl rfl rfl
    exact ⟨hcore.stopWork.of_eq rfl rfl rfl rfl rfl rfl rfl,
      hcore.stopWork_inv.gated.silent id rfl rfl rfl hopening hconnected⟩

theorem Inv.endSession (h : Inv s) (session : Nat) {last : UsbIoSessionState}
    (hlast : last ≠ .running) : Inv (s.endSession session last) := by
  refine ⟨h.core.endSession session hlast, ?_⟩
  obtain ⟨sessions, closures, hframe⟩ := s.endSession_frame session last
  rw [hframe]
  exact h.gated.keep id rfl rfl rfl rfl rfl

theorem Inv.collectFailure (h : Inv s) (hstep : s.collectFailure config usbManager = some t) :
    Inv t := by
  rw [AccessoryTransport.collectFailure] at hstep
  split at hstep
  · rename_i job _
    split at hstep
    · rename_i kind message hfailed
      split at hstep
      · rename_i hinstalled
        cases hstep
        have hdead : ∀ id, s.sessions id ≠ some .running := by
          intro id hrunning
          have hlive := h.core.live id hrunning
          rw [hinstalled] at hlive
          cases hlive
          rw [hfailed] at hrunning
          cases hrunning
        exact (h.core.sessionFailed config usbManager h.gated.toWorking hdead job.accessory message).1
      · cases hstep
        exact h
    · cases hstep
  · cases hstep

theorem Inv.reconnectFires (h : Inv s) (hstep : s.reconnectFires usbManager = some t) : Inv t := by
  rw [AccessoryTransport.reconnectFires, Option.map_eq_some_iff] at hstep
  obtain ⟨accessory, -, rfl⟩ := hstep
  apply Inv.openOrRequest
  refine ⟨h.core.of_eq rfl rfl rfl rfl rfl rfl rfl, ⟨⟨by simp, h.gated.job⟩, h.gated.session,
    h.gated.opening, h.gated.connected⟩⟩

theorem Inv.step (h : Inv s) {step : AccessoryStep} (hstep : (machine config).step s step = some t) :
    Inv t := by
  have hnext : s.next config step = some t := hstep
  cases step with
  | start => cases hnext; exact h.start
  | onStart usbManager => cases hnext; exact h.onStart
  | onStop => cases hnext; exact h.onStop
  | handleIntent accessory usbManager =>
    cases accessory with
    | none => cases hnext; exact h
    | some accessory => cases hnext; exact h.handleAttachedAccessory usbManager accessory
  | retry usbManager => cases hnext; exact h.retry
  | disconnect => cases hnext; exact h.disconnect
  | close => cases hnext; exact h.close
  | permissionResult accessory granted usbManager =>
    simp only [next] at hnext
    split at hnext
    · cases hnext
      exact h.permissionResult accessory granted
    · cases hnext
  | accessoryDetached accessory usbManager =>
    cases accessory with
    | none =>
      simp only [next] at hnext
      split at hnext
      · cases hnext
        exact h
      · cases hnext
    | some accessory =>
      simp only [next] at hnext
      split at hnext
      · cases hnext
        exact h.accessoryDetached accessory
      · cases hnext
  | openReturned job result => exact h.openReturned hnext
  | resumeOpen job usbManager earlyFailure => exact h.resumeOpen hnext
  | sessionFails session kind message =>
    simp only [next] at hnext
    split at hnext
    · cases hnext
      exact h.endSession session (by simp)
    · cases hnext
  | collectFailure usbManager => exact h.collectFailure hnext
  | reconnectFires usbManager => exact h.reconnectFires hnext

theorem Gated.idle (h : Gated s) (hinactive : s.active = false) : Idle s where
  session := by
    cases hid : s.session with
    | none => rfl
    | some id => exact absurd (h.session id hid) (by simp [hinactive])
  reconnect := by
    cases hpending : s.reconnectJob with
    | none => rfl
    | some accessory => exact absurd (h.reconnect accessory hpending) (by simp [hinactive])
  job id job hjob := by
    by_contra hrunning
    exact absurd (h.job id job hjob (by simpa using hrunning)) (by simp [hinactive])

theorem inv_initial : Inv initial where
  core :=
    { accounted :=
        { custody := Custody.nil (by simp [Holds, initial])
          job_lt := by simp [initial]
          job_unused := by simp [initial]
          unopened := by simp [initial]
          opened_lt := by simp [initial]
          session_lt := by simp [initial] }
      live := by simp [initial]
      referenced := by simp [initial] }
  gated :=
    { reconnect := by simp [initial]
      job := by simp [initial]
      session := by simp [initial]
      opening := by simp [initial]
      connected := by simp [initial] }

theorem Inv.run {steps : List AccessoryStep} (hrun : (machine config).run initial steps = some s) :
    Inv s :=
  (machine config).run_invariant Inv (fun _ _ _ h hstep => h.step hstep) inv_initial hrun

end Steps

section Runs

variable {config : AccessoryConfig}

def host : UsbAccessory :=
  ⟨⟨some "LadoFlow", some "LadoFlow Host", none, some "1.0", some "desk"⟩, none⟩

/-- The host is attached and the user allowed it. -/
def attached : UsbManagerView := ⟨some [host], fun _ => true, fun _ => .ok ()⟩

def supported : AccessoryConfig := ⟨true, .default⟩

/-- A connection fails, the next one comes in after the user paused. -/
def lostThenPaused : List AccessoryStep :=
  [.start, .onStart attached, .openReturned 0 .connection, .resumeOpen 0 attached none,
    .sessionFails 0 .endOfStream "gone", .collectFailure attached, .reconnectFires attached,
    .openReturned 1 .connection, .disconnect, .resumeOpen 1 attached none]

/-- Every connection that the service opened is closed once, or it is with its open job or with the one
session that runs. When no job is left and no session, all of them are closed. -/
theorem connections_closed_once {steps : List AccessoryStep}
    (hrun : (machine config).run initial steps = some s) :
    s.closures.Nodup ∧ (∀ id ∈ s.closures, id ∈ s.opened) ∧
    (∀ id ∈ s.opened, id ∉ s.closures ↔
      (∃ job, s.jobs id = some job ∧ job.point = .returned .connection) ∨
        (s.session = some id ∧ s.sessions id = some .running)) ∧
    ((∀ id, s.jobs id = none) → s.session = none → s.opened.Perm s.closures) := by
  have hcore := (Inv.run hrun).core
  have hcustody := hcore.accounted.custody
  refine ⟨hcustody.disposed_nodup, hcustody.acquired_of_mem, ?_, ?_⟩
  · intro id hopened
    constructor
    · intro hkept
      rcases (hcustody.settled id hopened).resolve_right hkept with hjob | hrunning
      · exact .inl hjob
      · exact .inr ⟨hcore.live id hrunning, hrunning⟩
    · rintro (hjob | ⟨-, hrunning⟩)
      · exact hcustody.notMem_of_held id (.inl hjob)
      · exact hcustody.notMem_of_held id (.inr hrunning)
  · intro hjobs hsession
    apply hcustody.perm_of_none
    rintro id (⟨job, hjob, -⟩ | hrunning)
    · rw [hjobs id] at hjob
      cases hjob
    · rw [hcore.live id hrunning] at hsession
      cases hsession

/-- Two connections were opened; the session closed the first and the cancelled job the second. -/
theorem connections_closed_once_lostThenPaused : ∃ s,
    (machine supported).run initial lostThenPaused = some s ∧ s.opened = [0, 1] ∧
    s.closures = [0, 1] ∧ s.closures.Nodup ∧ (∀ id ∈ s.closures, id ∈ s.opened) ∧
    (∀ id ∈ s.opened, id ∉ s.closures ↔
      (∃ job, s.jobs id = some job ∧ job.point = .returned .connection) ∨
        (s.session = some id ∧ s.sessions id = some .running)) ∧
    ((∀ id, s.jobs id = none) → s.session = none → s.opened.Perm s.closures) :=
  ⟨_, rfl, rfl, rfl, @connections_closed_once _ supported lostThenPaused rfl⟩

/-- In the background, paused or closed there is no session and no reconnection, every open job is
cancelled and no connection is shown. `Connected` always shows the accessory of the installed session. -/
theorem inactive_idle {steps : List AccessoryStep}
    (hrun : (machine config).run initial steps = some s) :
    (s.active = false →
      Idle s ∧ ∀ accessory, s.state ≠ .opening accessory ∧ s.state ≠ .connected accessory) ∧
    ∀ accessory, s.state = .connected accessory →
      ∃ job, s.sessionStateJob = some job ∧ s.session = some job.session ∧
        job.accessory.identity = accessory := by
  have hgated := (Inv.run hrun).gated
  refine ⟨?_, hgated.connected⟩
  intro hinactive
  have hidle := hgated.idle hinactive
  refine ⟨hidle, fun accessory => ⟨?_, ?_⟩⟩
  · intro hopening
    rw [hgated.opening accessory hopening] at hinactive
    cases hinactive
  · intro hconnected
    obtain ⟨job, -, hinstalled, -⟩ := hgated.connected accessory hconnected
    rw [hidle.session] at hinstalled
    cases hinstalled

theorem inactive_idle_lostThenPaused : ∃ s,
    (machine supported).run initial lostThenPaused = some s ∧ s.active = false ∧
    ((s.active = false →
      Idle s ∧ ∀ accessory, s.state ≠ .opening accessory ∧ s.state ≠ .connected accessory) ∧
    ∀ accessory, s.state = .connected accessory →
      ∃ job, s.sessionStateJob = some job ∧ s.session = some job.session ∧
        job.accessory.identity = accessory) :=
  ⟨_, rfl, rfl, @inactive_idle _ supported lostThenPaused rfl⟩

end Runs

end LadoFlow.Android.AccessoryTransport
