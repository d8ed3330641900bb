import LadoFlow.Host.DesktopRuntime

/-!
# The worker slot and the shared state

While the slot holds a live worker, the shared state is that of this worker, as long as no `start`
resets the shared state between the two sections of a stop or a pairing.
-/

namespace LadoFlow.Host.DesktopRuntime

open LadoFlow.Protocol LadoFlow.Core LadoFlow.Transport Framework

/-- Whenever the slot holds a worker that has not finished and was not cancelled, the shared state
is that of this worker. -/
def Matches (s : DesktopRuntime) : Prop :=
  ∀ worker, s.slot = some worker → s.isRunning worker = true → s.isCancelled worker = false →
    s.shared.phase ≠ .idle ∧ s.shared.phase ≠ .stopped ∧ s.sessionOwner = some worker

/-- When `start` resets the shared state, no stop and no pairing is about to write it. -/
def Undisturbed (s : DesktopRuntime) : DesktopStep → Prop
  | .advance _ (.clock _) => ∀ point ∈ s.calls, point.isSettling = false
  | _ => True

/-- A point with no worker of its own. -/
structure Free (point : CallPoint) : Prop where
  owns : point.owns = none
  prepared : ∀ next, point.prepared next = none

/-- The slot holds no worker that runs. -/
def Vacant (s : DesktopRuntime) : Prop := ∀ worker, s.slot = some worker → s.isRunning worker = false

/-- What one section of a call can do. -/
inductive SectionEffect (s : DesktopRuntime) (thread : Nat) (old : CallPoint) (input : CallInput) :
    DesktopRuntime → Prop
  | stay (point : CallPoint) (tetherConnection : Bool) (hlock : point.holdsLock = old.holdsLock)
    (hsettling : point.isSettling = true → old.isSettling = true) (hold : Free old)
    (hpoint : Free point) :
    SectionEffect s thread old input { s.moveTo thread point with tetherConnection }
  | prepare (point : CallPoint) (shared : SharedState) (hlock : old.holdsLock = true)
    (hsettling : point.isSettling = false) (hold : Free old) (hpoint : Free point) :
    SectionEffect s thread old input { s.moveTo thread point with shared }
  | cancel (nested : Bool) (worker : Nat) (hold : old = .stopCancelling nested worker) :
    SectionEffect s thread old input (s.stopCancel thread nested worker)
  | join (point : CallPoint) (nested : Bool) (worker : Nat)
    (hold : old = .stopJoining nested worker) (hfinished : s.isRunning worker = false)
    (hlock : point.holdsLock = false) (hpoint : Free point) :
    SectionEffect s thread old input (s.moveTo thread point)
  | write (point : CallPoint) (shared : SharedState) (owner : Option Nat)
    (hsettling : old.isSettling = true) (hold : Free old) (hlock : point.holdsLock = false)
    (hpoint : Free point) :
    SectionEffect s thread old input
      { s.moveTo thread point with shared, sessionOwner := owner }
  | acquire (point : CallPoint) (hfree : s.workerLock = none) (hslot : s.Vacant)
    (hsettling : point.isSettling = false) (hold : Free old) (hpoint : Free point) :
    SectionEffect s thread old input
      { s.moveTo thread point with workerLock := some thread, slot := none }
  | giveUp (result : Except HostError Unit) (shared : SharedState) (owner : Option Nat)
    (hlock : old.holdsLock = true) (hold : old.owns = none) :
    SectionEffect s thread old input
      { s.release thread result with shared, sessionOwner := owner }
  | reset (route : SessionRoute) (shared : SharedState) (now : Duration)
    (hinput : input = .clock now) (hlock : old.holdsLock = true) (hold : Free old)
    (hphase : shared.phase ≠ .idle ∧ shared.phase ≠ .stopped) :
    SectionEffect s thread old input (s.startReset thread route shared)
  | spawn (route : SessionRoute) (hold : old = .startSpawning route) :
    SectionEffect s thread old input (s.startSpawn thread)
  | store (worker : Nat) (hold : old = .startStoring worker) :
    SectionEffect s thread old input (s.startStore thread worker)
  | take (nested : Bool) (worker : Nat) (hfree : s.workerLock = none)
    (hslot : s.slot = some worker) (hold : Free old) :
    SectionEffect s thread old input
      { s.moveTo thread (.stopCancelling nested worker) with slot := none }
  | enter (point : CallPoint) (hfree : s.workerLock = none) (hslot : s.Vacant) (hold : Free old)
    (hlock : point.holdsLock = false) (hpoint : Free point) :
    SectionEffect s thread old input (s.moveTo thread point)

section Sections

variable {s t : DesktopRuntime} {thread : Nat} {point : CallPoint} {input : CallInput}

theorem vacant_of_none (h : s.slot = none) : s.Vacant := by
  intro worker hslot
  rw [h] at hslot
  cases hslot

theorem vacant_of_finished {worker : Nat} (h : s.slot = some worker)
    (hfinished : ¬s.isRunning worker = true) : s.Vacant := by
  intro other hslot
  rw [h] at hslot
  cases hslot
  simpa using hfinished

theorem free_returned (result : Except HostError Unit) : Free (.returned result) := ⟨rfl, fun _ => rfl⟩

theorem free_stopEnd (nested : Bool) : Free (stopEnd nested) := by
  cases nested
  · exact free_returned _
  · exact ⟨rfl, fun _ => rfl⟩

theorem startLock_effect {config : LoopbackConfig} (h : s.startLock thread config = some t) :
    SectionEffect s thread (.startLocking config) input t := by
  have hold : Free (.startLocking config) := ⟨rfl, fun _ => rfl⟩
  simp only [startLock] at h
  split at h
  · cases h
  rename_i hlock
  have hfree : s.workerLock = none := by simpa using hlock
  split at h
  · rename_i hslot
    cases h
    have htaken : ({ s.moveTo thread (.startTaking config) with
        workerLock := some thread } : DesktopRuntime) =
        { s.moveTo thread (.startTaking config) with workerLock := some thread, slot := none } := by
      rw [← hslot]
      rfl
    rw [htaken]
    exact .acquire _ hfree (vacant_of_none hslot) rfl hold ⟨rfl, fun _ => rfl⟩
  · rename_i worker hslot
    split at h
    · cases h
      exact .stay _ _ rfl (by simp [CallPoint.isSettling]) hold (free_returned _)
    · rename_i hfinished
      cases h
      exact .acquire _ hfree (vacant_of_finished hslot hfinished) rfl hold ⟨rfl, fun _ => rfl⟩

theorem stopTake_effect {nested : Bool} (h : s.stopTake thread nested = some t) :
    SectionEffect s thread (.stopTaking nested) input t := by
  have hold : Free (.stopTaking nested) := ⟨rfl, fun _ => rfl⟩
  simp only [stopTake] at h
  split at h
  · cases h
  rename_i hlock
  have hfree : s.workerLock = none := by simpa using hlock
  split at h
  · rename_i hslot
    cases h
    exact .enter _ hfree (vacant_of_none hslot) hold rfl ⟨rfl, fun _ => rfl⟩
  · rename_i worker hslot
    cases h
    exact .take nested worker hfree hslot hold

theorem stopJoin_effect {nested : Bool} {worker : Nat}
    (h : s.stopJoin thread nested worker = some t) :
    SectionEffect s thread (.stopJoining nested worker) input t := by
  simp only [stopJoin] at h
  split at h
  · cases h
  rename_i hrunning
  have hfinished : s.isRunning worker = false := by simpa using hrunning
  split at h
  · cases h
    exact .join _ nested worker rfl hfinished rfl (free_returned _)
  · cases h
    exact .join _ nested worker rfl hfinished rfl ⟨rfl, fun _ => rfl⟩

theorem pairCheck_effect (h : s.pairCheck thread = some t) :
    SectionEffect s thread .pairChecking input t := by
  have hold : Free .pairChecking := ⟨rfl, fun _ => rfl⟩
  simp only [pairCheck] at h
  split at h
  · cases h
  rename_i hlock
  have hfree : s.workerLock = none := by simpa using hlock
  split at h
  · cases h
    exact .stay _ _ rfl (by simp [CallPoint.isSettling]) hold (free_returned _)
  · rename_i hslot
    cases h
    have hvacant : s.Vacant := by
      intro worker hworker
      rw [hworker] at hslot
      simpa using hslot
    exact .enter _ hfree hvacant hold rfl ⟨rfl, fun _ => rfl⟩

theorem pairGoesOn_effect {old next : CallPoint} (result : Except HostError Unit)
    (hold : Free old) (hnext : Free next) (hlock : old.holdsLock = false)
    (hlock' : next.holdsLock = false) (hsettling : old.isSettling = true) :
    SectionEffect s thread old input (s.pairGoesOn thread next result) := by
  cases result with
  | ok _ => exact .stay _ _ (hlock'.trans hlock.symm) (fun _ => hsettling) hold hnext
  | error error => exact .stay _ _ hlock.symm (fun _ => hsettling) hold (free_returned _)

theorem startNext_effect (h : s.startNext thread point input = some t) :
    SectionEffect s thread point input t := by
  simp only [startNext] at h
  split at h
  · rename_i config worker
    cases h
    rw [startJoin]
    split
    · exact .giveUp _ _ _ rfl rfl
    · exact .stay _ _ rfl (by simp [CallPoint.isSettling]) ⟨rfl, fun _ => rfl⟩ ⟨rfl, fun _ => rfl⟩
  · cases h
    exact .stay _ _ rfl (by simp [CallPoint.isSettling]) ⟨rfl, fun _ => rfl⟩ ⟨rfl, fun _ => rfl⟩
  · cases h
    exact .stay _ _ rfl (by simp [CallPoint.isSettling]) ⟨rfl, fun _ => rfl⟩ ⟨rfl, fun _ => rfl⟩
  · cases h
    exact .giveUp _ _ _ rfl rfl
  · rename_i config now
    cases h
    exact .reset _ _ now rfl rfl ⟨rfl, fun _ => rfl⟩
      (by simp [SharedState.resetForAndroidNegotiation])
  · rename_i config now
    cases h
    exact .reset _ _ now rfl rfl ⟨rfl, fun _ => rfl⟩
      (by simp [SharedState.resetForAndroidNegotiation])
  · cases h
    exact .prepare _ _ rfl rfl ⟨rfl, fun _ => rfl⟩ ⟨rfl, fun _ => rfl⟩
  · rename_i config now
    cases h
    rw [startNegotiate]
    split
    · exact .giveUp _ _ _ rfl rfl
    · exact .reset _ _ now rfl rfl ⟨rfl, fun _ => rfl⟩ (by simp [SharedState.resetForStart])
  · cases h
    exact .giveUp _ _ _ rfl rfl
  · rename_i route
    cases h
    exact .spawn route rfl
  · rename_i worker
    cases h
    exact .store worker rfl
  · cases h

theorem advanceCall_effect (h : s.advanceCall thread point input = some t) :
    SectionEffect s thread point input t := by
  simp only [advanceCall] at h
  split at h
  · exact startLock_effect h
  · exact stopTake_effect h
  · cases h
    exact .cancel _ _ rfl
  · exact stopJoin_effect h
  · cases h
    rename_i nested
    have hlock : (stopEnd nested).holdsLock = false := by cases nested <;> rfl
    exact .write _ _ _ rfl ⟨rfl, fun _ => rfl⟩ hlock (free_stopEnd nested)
  · cases h
    have hold : Free .disconnectReading := ⟨rfl, fun _ => rfl⟩
    split
    · exact .stay _ _ rfl (by simp [CallPoint.isSettling]) hold ⟨rfl, fun _ => rfl⟩
    · exact .stay _ _ rfl (by simp [CallPoint.isSettling]) hold ⟨rfl, fun _ => rfl⟩
  · cases h
    exact .stay _ _ rfl (by simp [CallPoint.isSettling]) ⟨rfl, fun _ => rfl⟩ ⟨rfl, fun _ => rfl⟩
  · cases h
    exact .stay _ _ rfl (by simp [CallPoint.isSettling]) ⟨rfl, fun _ => rfl⟩ (free_returned _)
  · exact pairCheck_effect h
  · cases h
    exact pairGoesOn_effect _ ⟨rfl, fun _ => rfl⟩ ⟨rfl, fun _ => rfl⟩ rfl rfl rfl
  · cases h
    exact .stay _ _ rfl (fun _ => rfl) ⟨rfl, fun _ => rfl⟩ ⟨rfl, fun _ => rfl⟩
  · cases h
    exact pairGoesOn_effect _ ⟨rfl, fun _ => rfl⟩ ⟨rfl, fun _ => rfl⟩ rfl rfl rfl
  · cases h
    exact .stay _ _ rfl (fun _ => rfl) ⟨rfl, fun _ => rfl⟩ ⟨rfl, fun _ => rfl⟩
  · cases h
    exact .write _ _ _ rfl ⟨rfl, fun _ => rfl⟩ rfl (free_returned _)
  · exact startNext_effect h

end Sections

/-- Only the thread with the worker lock is inside `start`, and the slot is empty meanwhile. -/
def Locked (s : DesktopRuntime) : Prop :=
  ∀ (i : Nat) (point : CallPoint), s.calls[i]? = some point → point.holdsLock = true →
    s.workerLock = some i ∧ s.slot = none

/-- A worker that runs is in the slot or with the call that stores or stops it. -/
def Accounted (s : DesktopRuntime) : Prop :=
  ∀ worker, s.isRunning worker = true → s.slot = some worker ∨
    ∃ (i : Nat) (point : CallPoint), s.calls[i]? = some point ∧ point.owns = some worker

/-- The shared state is that of the worker, and nothing is about to overwrite it. -/
structure Prepared (s : DesktopRuntime) (worker : Nat) : Prop where
  phase : s.shared.phase ≠ .idle ∧ s.shared.phase ≠ .stopped
  owner : s.sessionOwner = some worker
  settled : ∀ (i : Nat) (point : CallPoint), s.calls[i]? = some point → point.isSettling = false

structure Ready (s : DesktopRuntime) : Prop where
  slotted : ∀ worker, s.slot = some worker → s.isRunning worker = true → s.Prepared worker
  prepared : ∀ (i : Nat) (point : CallPoint) (worker : Nat), s.calls[i]? = some point →
    point.prepared s.workers.length = some worker →
    s.Prepared worker ∧ ∀ other, s.isRunning other = true → other = worker

structure Inv (s : DesktopRuntime) : Prop where
  locked : s.Locked
  accounted : s.Accounted
  ready : s.Ready

section Invariants

variable {s t : DesktopRuntime} {thread : Nat} {old point : CallPoint} {input : CallInput}

theorem Prepared.matches {worker : Nat} (h : s.Prepared worker) : s.shared.phase ≠ .idle ∧
    s.shared.phase ≠ .stopped ∧ s.sessionOwner = some worker :=
  ⟨h.phase.1, h.phase.2, h.owner⟩

theorem Inv.matches (h : Inv s) : s.Matches :=
  fun worker hslot hrunning _ => (h.ready.slotted worker hslot hrunning).matches

theorem inv_initial : Inv initial where
  locked := by simp [Locked, initial]
  accounted := by simp [Accounted, initial, isRunning]
  ready := ⟨by simp [initial], by simp [initial]⟩

theorem holdsLock_of_prepared {next worker : Nat} (h : point.prepared next = some worker) :
    point.holdsLock = true := by
  cases point <;> simp_all [CallPoint.prepared, CallPoint.holdsLock]

theorem isSettling_of_owns {worker : Nat} (h : point.owns = some worker) :
    point.isSettling = true ∨ point = .startStoring worker := by
  cases point <;> simp_all [CallPoint.owns, CallPoint.isSettling]

/-- The points after the call of `thread` has moved. -/
theorem at_moved (hold : s.calls[thread]? = some old)
    (hcalls : t.calls = s.calls.set thread point) {i : Nat} {other : CallPoint}
    (h : t.calls[i]? = some other) :
    (i = thread ∧ other = point) ∨ (i ≠ thread ∧ s.calls[i]? = some other) := by
  obtain ⟨hlt, -⟩ := List.getElem?_eq_some_iff.mp hold
  rw [hcalls] at h
  by_cases hsame : i = thread
  · subst hsame
    rw [List.getElem?_set_self hlt] at h
    exact .inl ⟨rfl, (Option.some.inj h).symm⟩
  · rw [List.getElem?_set_ne (Ne.symm hsame)] at h
    exact .inr ⟨hsame, h⟩

theorem at_moved_self (hold : s.calls[thread]? = some old)
    (hcalls : t.calls = s.calls.set thread point) : t.calls[thread]? = some point := by
  obtain ⟨hlt, -⟩ := List.getElem?_eq_some_iff.mp hold
  rw [hcalls, List.getElem?_set_self hlt]

theorem at_moved_other (hcalls : t.calls = s.calls.set thread point) {i : Nat} {other : CallPoint}
    (hi : i ≠ thread) (h : s.calls[i]? = some other) : t.calls[i]? = some other := by
  rw [hcalls, List.getElem?_set_ne (Ne.symm hi), h]

theorem Locked.moved (h : s.Locked) (hold : s.calls[thread]? = some old)
    (hcalls : t.calls = s.calls.set thread point)
    (hpoint : point.holdsLock = true → t.workerLock = some thread ∧ t.slot = none)
    (hothers : ∀ i, i ≠ thread → s.workerLock = some i → s.slot = none →
      t.workerLock = some i ∧ t.slot = none) : t.Locked := by
  intro i other hat hholds
  rcases at_moved hold hcalls hat with ⟨rfl, rfl⟩ | ⟨hne, hbefore⟩
  · exact hpoint hholds
  · obtain ⟨hlock, hslot⟩ := h i other hbefore hholds
    exact hothers i hne hlock hslot

/-- No other call holds the lock of this one. -/
theorem Locked.other_free (h : s.Locked) (hold : s.calls[thread]? = some old)
    (hlock : old.holdsLock = true) {i : Nat} {other : CallPoint} (hi : i ≠ thread)
    (hat : s.calls[i]? = some other) : other.holdsLock = false := by
  by_contra hholds
  have hother := (h i other hat (by simpa using hholds)).1
  have hown := (h thread old hold hlock).1
  rw [hown] at hother
  exact hi (Option.some.inj hother).symm

theorem Locked.all_free (h : s.Locked) (hfree : s.workerLock = none) {i : Nat} {other : CallPoint}
    (hat : s.calls[i]? = some other) : other.holdsLock = false := by
  by_contra hholds
  have hlock := (h i other hat (by simpa using hholds)).1
  rw [hfree] at hlock
  cases hlock

theorem Accounted.moved (h : s.Accounted) (hold : s.calls[thread]? = some old)
    (hcalls : t.calls = s.calls.set thread point)
    (hrunning : ∀ worker, t.isRunning worker = true → s.isRunning worker = true ∨
      point.owns = some worker)
    (howned : ∀ worker, t.isRunning worker = true → old.owns = some worker →
      t.slot = some worker ∨ point.owns = some worker)
    (hslot : ∀ worker, t.isRunning worker = true → s.slot = some worker →
      t.slot = some worker ∨ point.owns = some worker) : t.Accounted := by
  intro worker hruns
  have hself := at_moved_self hold hcalls
  have hfinal : t.slot = some worker ∨ point.owns = some worker → t.slot = some worker ∨
      ∃ (i : Nat) (point : CallPoint), t.calls[i]? = some point ∧ point.owns = some worker := by
    rintro (hin | hown)
    · exact .inl hin
    · exact .inr ⟨thread, point, hself, hown⟩
  rcases hrunning worker hruns with hbefore | hown
  · rcases h worker hbefore with hin | ⟨i, other, hat, hown⟩
    · exact hfinal (hslot worker hruns hin)
    · by_cases hi : i = thread
      · subst hi
        rw [hold] at hat
        cases hat
        exact hfinal (howned worker hruns hown)
      · exact .inr ⟨i, other, at_moved_other hcalls hi hat, hown⟩
  · exact hfinal (.inr hown)

/-- Nobody relies on the shared state. -/
theorem ready_of_vacant (hslot : t.Vacant)
    (hprepared : ∀ (i : Nat) (other : CallPoint), t.calls[i]? = some other →
      ∀ next, other.prepared next = none) :
    t.Ready where
  slotted worker hin hruns := by
    rw [hslot worker hin] at hruns
    cases hruns
  prepared i other worker hat hworker := by
    rw [hprepared i other hat] at hworker
    cases hworker

theorem prepared_eq_none (h : point.holdsLock = false) (next : Nat) :
    point.prepared next = none := by
  by_contra hsome
  obtain ⟨worker, hworker⟩ := Option.ne_none_iff_exists'.mp hsome
  rw [holdsLock_of_prepared hworker] at h
  cases h

/-- While a stop or a pairing is about to write, nobody relies on the shared state. -/
theorem Ready.of_settling (h : s.Ready) (hold : s.calls[thread]? = some old)
    (hsettling : old.isSettling = true) (hcalls : t.calls = s.calls.set thread point)
    (hslot : t.slot = s.slot)
    (hrunning : ∀ worker, t.isRunning worker = true → s.isRunning worker = true)
    (hpoint : point.holdsLock = false) : t.Ready := by
  have hunsettled : ∀ worker, ¬s.Prepared worker := by
    intro worker hprepared
    rw [hprepared.settled thread old hold] at hsettling
    cases hsettling
  apply ready_of_vacant
  · intro worker hin
    by_contra hruns
    rw [hslot] at hin
    exact hunsettled worker
      (h.slotted worker hin (hrunning worker (by simpa using hruns)))
  · intro i other hat
    rcases at_moved hold hcalls hat with ⟨rfl, rfl⟩ | ⟨hne, hbefore⟩
    · exact prepared_eq_none hpoint
    · intro next
      by_contra hsome
      obtain ⟨worker, hworker⟩ := Option.ne_none_iff_exists'.mp hsome
      have hlength : ∃ worker, other.prepared s.workers.length = some worker := by
        cases other <;> simp_all [CallPoint.prepared]
      obtain ⟨worker, hworker⟩ := hlength
      exact hunsettled worker (h.prepared i other worker hbefore hworker).1

/-- Inside `start` before the reset, nobody relies on the shared state. -/
theorem Locked.ready_of_held (h : s.Locked) (hold : s.calls[thread]? = some old)
    (hlock : old.holdsLock = true) (hcalls : t.calls = s.calls.set thread point)
    (hslot : t.slot = s.slot) (hpoint : ∀ next, point.prepared next = none) : t.Ready := by
  apply ready_of_vacant
  · apply vacant_of_none
    rw [hslot]
    exact (h thread old hold hlock).2
  · intro i other hat
    rcases at_moved hold hcalls hat with ⟨rfl, rfl⟩ | ⟨hne, hbefore⟩
    · exact hpoint
    · exact prepared_eq_none (h.other_free hold hlock hne hbefore)

/-- While the worker lock is free, only a live worker in the slot relies on the shared state. -/
theorem Locked.ready_of_free (h : s.Locked) (hfree : s.workerLock = none)
    (hold : s.calls[thread]? = some old) (hcalls : t.calls = s.calls.set thread point)
    (hslot : t.Vacant) (hpoint : ∀ next, point.prepared next = none) : t.Ready := by
  apply ready_of_vacant hslot
  intro i other hat
  rcases at_moved hold hcalls hat with ⟨rfl, rfl⟩ | ⟨hne, hbefore⟩
  · exact hpoint
  · exact prepared_eq_none (h.all_free hfree hbefore)

theorem Prepared.moved {worker : Nat} (h : s.Prepared worker)
    (hold : s.calls[thread]? = some old) (hcalls : t.calls = s.calls.set thread point)
    (hshared : t.shared = s.shared) (howner : t.sessionOwner = s.sessionOwner)
    (hpoint : point.isSettling = true → old.isSettling = true) : t.Prepared worker where
  phase := by
    rw [hshared]
    exact h.phase
  owner := by
    rw [howner]
    exact h.owner
  settled := by
    intro i other hat
    rcases at_moved hold hcalls hat with ⟨rfl, rfl⟩ | ⟨hne, hbefore⟩
    · by_contra hsettling
      have hsettled := h.settled i old hold
      rw [hpoint (by simpa using hsettling)] at hsettled
      cases hsettled
    · exact h.settled i other hbefore

theorem Ready.moved (h : s.Ready) (hold : s.calls[thread]? = some old)
    (hcalls : t.calls = s.calls.set thread point) (hslot : t.slot = s.slot)
    (hworkers : t.workers = s.workers) (hshared : t.shared = s.shared)
    (howner : t.sessionOwner = s.sessionOwner)
    (hsettling : point.isSettling = true → old.isSettling = true)
    (hpoint : ∀ next, point.prepared next = none) : t.Ready where
  slotted worker hin hruns := by
    have hruns' : s.isRunning worker = true := by
      rw [isRunning, ← hworkers]
      exact hruns
    rw [hslot] at hin
    exact (h.slotted worker hin hruns').moved hold hcalls hshared howner hsettling
  prepared i other worker hat hworker := by
    rcases at_moved hold hcalls hat with ⟨rfl, rfl⟩ | ⟨hne, hbefore⟩
    · rw [hpoint] at hworker
      cases hworker
    · rw [hworkers] at hworker
      obtain ⟨hprepared, honly⟩ := h.prepared i other worker hbefore hworker
      refine ⟨hprepared.moved hold hcalls hshared howner hsettling, ?_⟩
      intro running hruns
      apply honly
      rw [isRunning, ← hworkers]
      exact hruns

end Invariants

section Preservation

variable {s t : DesktopRuntime} {thread : Nat} {old point : CallPoint} {input : CallInput}

theorem stopCancel_isRunning (nested : Bool) (worker other : Nat) :
    (s.stopCancel thread nested worker).isRunning other = s.isRunning other := by
  simp only [stopCancel, isRunning, List.getElem?_modify]
  split
  · cases s.workers[other]? <;> rfl
  · cases s.workers[other]? <;> rfl

theorem startSpawn_isRunning {other : Nat} (h : (s.startSpawn thread).isRunning other = true) :
    s.isRunning other = true ∨ other = s.workers.length := by
  rw [isRunning] at h ⊢
  simp only [startSpawn, List.getElem?_append] at h
  split at h
  · exact .inl h
  · right
    rename_i hlt
    by_contra hne
    rw [List.getElem?_eq_none (by simp; omega)] at h
    cases h

/-- No worker runs while `start` resets the shared state undisturbed. -/
theorem Inv.none_running (h : s.Inv) (hold : s.calls[thread]? = some old)
    (hlock : old.holdsLock = true) (hfree : old.owns = none)
    (hsettled : ∀ point ∈ s.calls, point.isSettling = false) (worker : Nat) :
    s.isRunning worker = false := by
  by_contra hruns
  rcases h.accounted worker (by simpa using hruns) with hslot | ⟨i, point, hat, howns⟩
  · rw [(h.locked thread old hold hlock).2] at hslot
    cases hslot
  · rcases isSettling_of_owns howns with hsettling | rfl
    · rw [hsettled point (List.mem_of_getElem? hat)] at hsettling
      cases hsettling
    · by_cases hi : i = thread
      · subst hi
        rw [hold] at hat
        cases hat
        cases hfree
      · have hother := h.locked.other_free hold hlock hi hat
        cases hother

theorem Locked.keep (h : s.Locked) (hold : s.calls[thread]? = some old)
    (hcalls : t.calls = s.calls.set thread point) (hlock : t.workerLock = s.workerLock)
    (hslot : t.slot = s.slot) (hpoint : point.holdsLock = true → old.holdsLock = true) :
    t.Locked := by
  apply h.moved hold hcalls
  · intro hholds
    rw [hlock, hslot]
    exact h thread old hold (hpoint hholds)
  · intro i hi hother hempty
    rw [hlock, hslot]
    exact ⟨hother, hempty⟩

theorem Locked.enter (h : s.Locked) (hold : s.calls[thread]? = some old)
    (hcalls : t.calls = s.calls.set thread point) (hfree : s.workerLock = none)
    (hpoint : point.holdsLock = true → t.workerLock = some thread ∧ t.slot = none) :
    t.Locked := by
  apply h.moved hold hcalls hpoint
  intro i hi hother hempty
  rw [hfree] at hother
  cases hother

theorem Locked.leave (h : s.Locked) (hold : s.calls[thread]? = some old)
    (hcalls : t.calls = s.calls.set thread point) (hlock : old.holdsLock = true)
    (hpoint : point.holdsLock = false) : t.Locked := by
  apply h.moved hold hcalls
  · intro hholds
    rw [hpoint] at hholds
    cases hholds
  · intro i hi hother hempty
    rw [(h thread old hold hlock).1] at hother
    exact absurd (Option.some.inj hother).symm hi

theorem SectionEffect.locked (heffect : SectionEffect s thread old input t) (h : s.Locked)
    (hold : s.calls[thread]? = some old) : t.Locked := by
  cases heffect with
  | stay point tetherConnection hlock hsettling hfree hpoint =>
    exact h.keep hold rfl rfl rfl (fun hholds => hlock.symm.trans hholds)
  | prepare point shared hlock hsettling hfree hpoint =>
    exact h.keep hold rfl rfl rfl (fun _ => hlock)
  | cancel nested worker hpoint => exact h.keep hold rfl rfl rfl (by simp [CallPoint.holdsLock])
  | join point nested worker hpoint hfinished hlock hfree =>
    exact h.keep hold rfl rfl rfl (by simp [hlock])
  | write point shared owner hsettling hfree hlock hpoint =>
    exact h.keep hold rfl rfl rfl (by simp [hlock])
  | acquire point hunlocked hvacant hsettling hfree hpoint =>
    exact h.enter hold rfl hunlocked (fun _ => ⟨rfl, rfl⟩)
  | giveUp result shared owner hlock hfree => exact h.leave hold rfl hlock rfl
  | reset route shared now hinput hlock hfree hphase =>
    exact h.keep hold rfl rfl rfl (fun _ => hlock)
  | spawn route hpoint =>
    subst hpoint
    exact h.keep hold rfl rfl rfl (fun _ => rfl)
  | store worker hpoint =>
    subst hpoint
    exact h.leave hold rfl rfl rfl
  | take nested worker hunlocked hslot hfree =>
    exact h.enter hold rfl hunlocked (by simp [CallPoint.holdsLock])
  | enter point hunlocked hvacant hfree hlock hpoint =>
    exact h.enter hold rfl hunlocked (by simp [hlock])

theorem Accounted.keep (h : s.Accounted) (hold : s.calls[thread]? = some old)
    (hcalls : t.calls = s.calls.set thread point) (hfree : old.owns = none)
    (hrunning : ∀ worker, t.isRunning worker = true → s.isRunning worker = true)
    (hslot : ∀ worker, t.isRunning worker = true → s.slot = some worker →
      t.slot = some worker ∨ point.owns = some worker) : t.Accounted := by
  apply h.moved hold hcalls
  · intro worker hruns
    exact .inl (hrunning worker hruns)
  · intro worker hruns howns
    rw [hfree] at howns
    cases howns
  · exact hslot

/-- A worker that was spawned is the only one that runs. -/
theorem Ready.spawned_only (h : s.Ready) {route : SessionRoute}
    (hold : s.calls[thread]? = some (.startSpawning route)) {other : Nat}
    (hruns : (s.startSpawn thread).isRunning other = true) : other = s.workers.length := by
  rcases startSpawn_isRunning hruns with hbefore | hnew
  · exact (h.prepared thread _ s.workers.length hold rfl).2 other hbefore
  · exact hnew

theorem SectionEffect.accounted (heffect : SectionEffect s thread old input t) (h : s.Inv)
    (hold : s.calls[thread]? = some old) : t.Accounted := by
  cases heffect with
  | stay point tetherConnection hlock hsettling hfree hpoint =>
    exact h.accounted.keep hold rfl hfree.owns (fun _ hruns => hruns) fun _ _ hin => .inl hin
  | prepare point shared hlock hsettling hfree hpoint =>
    exact h.accounted.keep hold rfl hfree.owns (fun _ hruns => hruns) fun _ _ hin => .inl hin
  | cancel nested worker hpoint =>
    subst hpoint
    apply h.accounted.moved hold rfl
    · intro other hruns
      rw [stopCancel_isRunning] at hruns
      exact .inl hruns
    · intro other hruns howns
      exact .inr howns
    · intro other hruns hin
      exact .inl hin
  | join point nested worker hpoint hfinished hlock hfree =>
    subst hpoint
    apply h.accounted.moved hold rfl
    · intro other hruns
      exact .inl hruns
    · intro other hruns howns
      have hruns' : s.isRunning other = true := hruns
      cases howns
      rw [hfinished] at hruns'
      cases hruns'
    · intro other hruns hin
      exact .inl hin
  | write point shared owner hsettling hfree hlock hpoint =>
    exact h.accounted.keep hold rfl hfree.owns (fun _ hruns => hruns) fun _ _ hin => .inl hin
  | acquire point hunlocked hvacant hsettling hfree hpoint =>
    refine h.accounted.keep hold rfl hfree.owns (fun _ hruns => hruns) ?_
    intro worker hruns hin
    have hruns' : s.isRunning worker = true := hruns
    rw [hvacant worker hin] at hruns'
    cases hruns'
  | giveUp result shared owner hlock hfree =>
    exact h.accounted.keep hold rfl hfree (fun _ hruns => hruns) fun _ _ hin => .inl hin
  | reset route shared now hinput hlock hfree hphase =>
    exact h.accounted.keep hold rfl hfree.owns (fun _ hruns => hruns) fun _ _ hin => .inl hin
  | spawn route hpoint =>
    subst hpoint
    apply h.accounted.moved hold rfl
    · intro other hruns
      rw [h.ready.spawned_only hold hruns]
      exact .inr rfl
    · intro other hruns howns
      cases howns
    · intro other hruns hin
      exact .inl hin
  | store worker hpoint =>
    subst hpoint
    apply h.accounted.moved hold rfl
    · intro other hruns
      exact .inl hruns
    · intro other hruns howns
      cases howns
      exact .inl rfl
    · intro other hruns hin
      rw [(h.locked thread _ hold rfl).2] at hin
      cases hin
  | take nested worker hunlocked hslot hfree =>
    refine h.accounted.keep hold rfl hfree.owns (fun _ hruns => hruns) ?_
    intro other hruns hin
    rw [hslot] at hin
    cases hin
    exact .inr rfl
  | enter point hunlocked hvacant hfree hlock hpoint =>
    exact h.accounted.keep hold rfl hfree.owns (fun _ hruns => hruns) fun _ _ hin => .inl hin

/-- The call that holds the lock is the only one that a worker is prepared for. -/
theorem Locked.ready_of_only (h : s.Locked) (hold : s.calls[thread]? = some old)
    (hlock : old.holdsLock = true) (hcalls : t.calls = s.calls.set thread point)
    (hslotted : ∀ worker, t.slot = some worker → t.isRunning worker = true → t.Prepared worker)
    (hpoint : ∀ worker, point.prepared t.workers.length = some worker →
      t.Prepared worker ∧ ∀ other, t.isRunning other = true → other = worker) : t.Ready where
  slotted := hslotted
  prepared i other worker hat hworker := by
    rcases at_moved hold hcalls hat with ⟨rfl, rfl⟩ | ⟨hne, hbefore⟩
    · exact hpoint worker hworker
    · rw [prepared_eq_none (h.other_free hold hlock hne hbefore)] at hworker
      cases hworker

theorem SectionEffect.ready (heffect : SectionEffect s thread old input t) (h : s.Inv)
    (hold : s.calls[thread]? = some old) (hguard : s.Undisturbed (.advance thread input)) :
    t.Ready := by
  cases heffect with
  | stay point tetherConnection hlock hsettling hfree hpoint =>
    exact h.ready.moved hold rfl rfl rfl rfl rfl hsettling hpoint.prepared
  | prepare point shared hlock hsettling hfree hpoint =>
    exact h.locked.ready_of_held hold hlock rfl rfl hpoint.prepared
  | cancel nested worker hpoint =>
    subst hpoint
    refine h.ready.of_settling hold rfl rfl rfl ?_ rfl
    intro other hruns
    rw [stopCancel_isRunning] at hruns
    exact hruns
  | join point nested worker hpoint hfinished hlock hfree =>
    subst hpoint
    exact h.ready.of_settling hold rfl rfl rfl (fun _ hruns => hruns) hlock
  | write point shared owner hsettling hfree hlock hpoint =>
    exact h.ready.of_settling hold hsettling rfl rfl (fun _ hruns => hruns) hlock
  | acquire point hunlocked hvacant hsettling hfree hpoint =>
    exact h.locked.ready_of_free hunlocked hold rfl (vacant_of_none rfl) hpoint.prepared
  | giveUp result shared owner hlock hfree =>
    exact h.locked.ready_of_held hold hlock rfl rfl fun _ => rfl
  | reset route shared now hinput hlock hfree hphase =>
    subst hinput
    have hsettled : ∀ point ∈ s.calls, point.isSettling = false := hguard
    have hnone := h.none_running hold hlock hfree.owns hsettled
    apply h.locked.ready_of_only hold hlock rfl
    · intro worker hin
      rw [startReset, moveTo, (h.locked thread old hold hlock).2] at hin
      cases hin
    · intro worker hworker
      cases hworker
      refine ⟨⟨hphase, rfl, ?_⟩, ?_⟩
      · intro i other hother
        rcases at_moved hold rfl hother with ⟨rfl, rfl⟩ | ⟨hne, hbefore⟩
        · rfl
        · exact hsettled other (List.mem_of_getElem? hbefore)
      · intro other hruns
        have hruns' : s.isRunning other = true := hruns
        rw [hnone] at hruns'
        cases hruns'
  | spawn route hpoint =>
    subst hpoint
    have hprepared := (h.ready.prepared thread _ s.workers.length hold rfl).1
    apply h.locked.ready_of_only hold rfl rfl
    · intro worker hin
      rw [startSpawn, moveTo, (h.locked thread _ hold rfl).2] at hin
      cases hin
    · intro worker hworker
      cases hworker
      refine ⟨hprepared.moved hold rfl rfl rfl (fun hsettling => hsettling), ?_⟩
      intro other hruns
      exact h.ready.spawned_only hold hruns
  | store worker hpoint =>
    subst hpoint
    have hprepared := (h.ready.prepared thread _ worker hold rfl).1
    apply h.locked.ready_of_only hold rfl rfl
    · intro other hin hruns
      cases hin
      exact hprepared.moved hold rfl rfl rfl (fun hsettling => hsettling)
    · intro other hworker
      cases hworker
  | take nested worker hunlocked hslot hfree =>
    exact h.locked.ready_of_free hunlocked hold rfl (vacant_of_none rfl) fun _ => rfl
  | enter point hunlocked hvacant hfree hlock hpoint =>
    exact h.locked.ready_of_free hunlocked hold rfl hvacant hpoint.prepared

theorem Inv.section (h : s.Inv) (hold : s.calls[thread]? = some old)
    (hguard : s.Undisturbed (.advance thread input)) (heffect : SectionEffect s thread old input t) :
    t.Inv :=
  ⟨heffect.locked h.locked hold, heffect.accounted h hold, heffect.ready h hold hguard⟩

end Preservation

section Runs

variable {s t : DesktopRuntime}

/-- The points after a call has begun. -/
theorem at_call {call : DesktopCall} {i : Nat} {point : CallPoint}
    (h : (s.calls ++ [firstPoint call])[i]? = some point) :
    s.calls[i]? = some point ∨ point = firstPoint call := by
  rw [List.getElem?_append] at h
  split at h
  · exact .inl h
  · right
    have hmem := List.mem_of_getElem? h
    simpa using hmem

theorem firstPoint_plain (call : DesktopCall) : (firstPoint call).holdsLock = false ∧
    (firstPoint call).isSettling = false ∧ (firstPoint call).owns = none := by
  cases call with
  | start config =>
    rw [firstPoint]
    cases config.validate with
    | error error => exact ⟨rfl, rfl, rfl⟩
    | ok config => exact ⟨rfl, rfl, rfl⟩
  | stop => exact ⟨rfl, rfl, rfl⟩
  | disconnectAndroidUsb => exact ⟨rfl, rfl, rfl⟩
  | pairAndroidTether => exact ⟨rfl, rfl, rfl⟩

theorem Prepared.call {worker : Nat} (h : s.Prepared worker) (call : DesktopCall) :
    ({ s with calls := s.calls ++ [firstPoint call] } : DesktopRuntime).Prepared worker where
  phase := h.phase
  owner := h.owner
  settled i point hat := by
    rcases at_call hat with hbefore | rfl
    · exact h.settled i point hbefore
    · exact (firstPoint_plain call).2.1

theorem Inv.call (h : s.Inv) (call : DesktopCall) :
    ({ s with calls := s.calls ++ [firstPoint call] } : DesktopRuntime).Inv := by
  obtain ⟨hlock, hsettling, howns⟩ := firstPoint_plain call
  constructor
  · intro i point hat hholds
    rcases at_call hat with hbefore | rfl
    · exact h.locked i point hbefore hholds
    · rw [hlock] at hholds
      cases hholds
  · intro worker hruns
    rcases h.accounted worker hruns with hin | ⟨i, point, hat, hown⟩
    · exact .inl hin
    · right
      refine ⟨i, point, ?_, hown⟩
      rw [List.getElem?_append_left (List.getElem?_eq_some_iff.mp hat).1]
      exact hat
  · constructor
    · intro worker hin hruns
      exact (h.ready.slotted worker hin hruns).call call
    · intro i point worker hat hworker
      rcases at_call hat with hbefore | rfl
      · obtain ⟨hprepared, honly⟩ := h.ready.prepared i point worker hbefore hworker
        exact ⟨hprepared.call call, honly⟩
      · rw [prepared_eq_none hlock] at hworker
        cases hworker

theorem WorkerUpdate.apply_phase (update : WorkerUpdate) {state : SharedState}
    (h : state.phase ≠ .idle ∧ state.phase ≠ .stopped) :
    (update.apply state).phase ≠ .idle ∧ (update.apply state).phase ≠ .stopped := by
  cases update with
  | establish => simp [WorkerUpdate.apply, SharedState.establishAndroidControl]
  | recovery => simp [WorkerUpdate.apply, SharedState.beginUsbRecovery]
  | renegotiation => simp [WorkerUpdate.apply, SharedState.beginUsbRenegotiation]
  | fail => simp [WorkerUpdate.apply, SharedState.failAndroidSession]
  | sentVideo => simp [WorkerUpdate.apply, SharedState.recordSentVideo]
  | telemetry => exact h
  | control sequence =>
    have hsame : (state.observeSequence sequence).2.phase = state.phase := by
      rw [SharedState.observeSequence]
      split
      · rfl
      · split <;> rfl
    rw [WorkerUpdate.apply, hsame]
    exact h
  | dropped => exact h
  | sent => exact h
  | presented sequence latency =>
    have hobserved : (state.observePresented sequence).2.phase = state.phase := by
      rw [SharedState.observePresented]
      split
      · rfl
      · split
        · split <;> rfl
        · rfl
    have hsame : (WorkerUpdate.apply state (.presented sequence latency)).phase = state.phase := by
      rw [← hobserved, WorkerUpdate.apply]
      split
      · rename_i hfalse
        rw [hfalse]
        rfl
      · rename_i htrue
        rw [htrue, SharedState.recordLatency]
        split <;> rfl
    rw [hsame]
    exact h
  | drained => exact h

/-- The only worker that runs keeps the shared state its own. -/
theorem Prepared.update {worker : Nat} (h : s.Prepared worker) (update : WorkerUpdate) :
    ({ s with
      shared := update.apply s.shared
      sessionOwner := if update.replacesSession then some worker else s.sessionOwner } :
      DesktopRuntime).Prepared worker where
  phase := WorkerUpdate.apply_phase update h.phase
  owner := by
    show (if update.replacesSession then some worker else s.sessionOwner) = some worker
    rw [h.owner, ite_self]
  settled := h.settled

/-- A worker that runs beside a live one in the slot is that one. -/
theorem Inv.running_eq (h : s.Inv) {worker other : Nat} (hslot : s.slot = some worker)
    (hruns : s.isRunning worker = true) (hother : s.isRunning other = true) : other = worker := by
  have hprepared := h.ready.slotted worker hslot hruns
  rcases h.accounted other hother with hin | ⟨i, point, hat, howns⟩
  · rw [hslot] at hin
    exact (Option.some.inj hin).symm
  · rcases isSettling_of_owns howns with hsettling | rfl
    · rw [hprepared.settled i point hat] at hsettling
      cases hsettling
    · rw [(h.locked i _ hat rfl).2] at hslot
      cases hslot

theorem Inv.update (h : s.Inv) {worker : Nat} (hruns : s.isRunning worker = true)
    (update : WorkerUpdate) :
    ({ s with
      shared := update.apply s.shared
      sessionOwner := if update.replacesSession then some worker else s.sessionOwner } :
      DesktopRuntime).Inv where
  locked := h.locked
  accounted := h.accounted
  ready := by
    constructor
    · intro other hin hrunning
      have hsame : worker = other := h.running_eq hin hrunning hruns
      subst hsame
      exact (h.ready.slotted worker hin hrunning).update update
    · intro i point other hat hother
      obtain ⟨hprepared, honly⟩ := h.ready.prepared i point other hat hother
      have hsame : worker = other := honly worker hruns
      subst hsame
      exact ⟨hprepared.update update, honly⟩

theorem isRunning_of_finish {worker other : Nat} {panicked : Bool}
    (h : (s.workers.modify worker fun state => { state with finished := true, panicked })[other]?.any
      (!·.finished) = true) : s.isRunning other = true := by
  rw [List.getElem?_modify] at h
  split at h
  · cases hstate : s.workers[other]? with
    | none =>
      rw [hstate] at h
      cases h
    | some state =>
      rw [hstate] at h
      cases h
  · cases hstate : s.workers[other]? with
    | none =>
      rw [hstate] at h
      cases h
    | some state =>
      rw [hstate] at h
      rw [isRunning, hstate]
      exact h

theorem Inv.finish (h : s.Inv) (worker : Nat) (panicked : Bool) :
    ({ s with
      workers := s.workers.modify worker fun state => { state with finished := true, panicked } } :
      DesktopRuntime).Inv where
  locked := h.locked
  accounted other hruns := h.accounted other (isRunning_of_finish hruns)
  ready := by
    constructor
    · intro other hin hruns
      have hprepared := h.ready.slotted other hin (isRunning_of_finish hruns)
      exact ⟨hprepared.phase, hprepared.owner, hprepared.settled⟩
    · intro i point other hat hother
      simp only [List.length_modify] at hother
      obtain ⟨hprepared, honly⟩ := h.ready.prepared i point other hat hother
      refine ⟨⟨hprepared.phase, hprepared.owner, hprepared.settled⟩, ?_⟩
      intro running hruns
      exact honly running (isRunning_of_finish hruns)

theorem Inv.step (h : s.Inv) {step : DesktopStep} (hguard : s.Undisturbed step)
    (hstep : machine.step s step = some t) : t.Inv := by
  have hnext : s.next step = some t := hstep
  cases step with
  | call call =>
    cases hnext
    exact h.call call
  | advance thread input =>
    rw [next] at hnext
    split at hnext
    · cases hnext
    · rename_i point hold
      exact h.section hold hguard (advanceCall_effect hnext)
  | worker worker update =>
    rw [next] at hnext
    split at hnext
    · rename_i hruns
      cases hnext
      exact h.update hruns update
    · cases hnext
  | finish worker panicked =>
    rw [next] at hnext
    split at hnext
    · cases hnext
      exact h.finish worker panicked
    · cases hnext

/-- In a run where no reset by `start` falls between the two sections of a stop or a pairing, the
shared state is that of the live worker. -/
theorem runtime_matches {steps : List DesktopStep}
    (hundisturbed : machine.Admits Undisturbed initial steps)
    (hrun : machine.run initial steps = some s) : s.Matches := by
  have hinv : s.Inv := machine.run_invariant_of_admits Undisturbed DesktopRuntime.Inv
    (fun _ _ _ h hguard hstep => h.step hguard hstep) inv_initial hundisturbed hrun
  exact hinv.matches

instance (s : DesktopRuntime) : (step : DesktopStep) → Decidable (s.Undisturbed step)
  | .advance _ (.clock _) => inferInstanceAs (Decidable (∀ point ∈ s.calls, _))
  | .advance _ .proceed | .advance _ (.usb _) | .advance _ (.tetherClosed _) |
    .advance _ (.spawned _) | .advance _ (.usbDisconnected _) | .advance _ (.paired _) |
    .call _ | .worker _ _ | .finish _ _ => .isTrue trivial

/-- A loopback starts in a thread and its worker is stored. -/
def startsLoopback (thread : Nat) : List DesktopStep :=
  [.call (.start ⟨1920, 1080, 60⟩), .advance thread .proceed, .advance thread .proceed,
    .advance thread (.usb false), .advance thread .proceed,
    .advance thread (.clock (.ofNanos 0)), .advance thread (.spawned (.ok ())),
    .advance thread .proceed]

/-- A stop takes the worker out of the slot, cancels it, and the worker ends. -/
def stopsWorker (thread worker : Nat) : List DesktopStep :=
  [.call .stop, .advance thread .proceed, .advance thread .proceed, .finish worker false,
    .advance thread .proceed]

/-- The stop closes the session before the next start. -/
def sequentialRestart : List DesktopStep :=
  startsLoopback 0 ++ stopsWorker 1 0 ++ [.advance 1 .proceed] ++ startsLoopback 2

theorem runtime_matches_sequential : ∃ s, machine.run initial sequentialRestart = some s ∧
    s.slot = some 1 ∧ s.isRunning 1 = true ∧ s.isCancelled 1 = false ∧ s.Matches :=
  ⟨_, rfl, rfl, rfl, rfl, @runtime_matches _ sequentialRestart (by decide +kernel) rfl⟩

/-- The next start falls between the join and the close of the stop. -/
def overlappingRestart : List DesktopStep :=
  startsLoopback 0 ++ stopsWorker 1 0 ++ startsLoopback 2 ++ [.advance 1 .proceed]

/-- The second worker runs, but its session is closed and the phase is `Stopped`. -/
theorem runtime_mismatch : ∃ s, machine.run initial overlappingRestart = some s ∧
    s.slot = some 1 ∧ s.isRunning 1 = true ∧ s.isCancelled 1 = false ∧
    s.shared.phase = .stopped ∧ s.shared.session.map (·.phase) = some .closed ∧ ¬s.Matches := by
  refine ⟨_, rfl, rfl, rfl, rfl, rfl, by decide +kernel, ?_⟩
  intro h
  exact (h 1 rfl rfl rfl).2.1 rfl

end Runs

end LadoFlow.Host.DesktopRuntime
