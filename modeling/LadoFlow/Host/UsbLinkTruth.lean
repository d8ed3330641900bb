import LadoFlow.Host.UsbManagerLaw

/-!
# What the link status says

While the calls come one after another, the status says that the link is connected just while a bulk worker
has it. A reconnection that finds its flag set writes over the status of a session that it leaves in the slot,
so the link has to be down when one begins.
-/

namespace LadoFlow.Host

open Framework

/-- A call that has emptied the slot of the manager, or seen it empty. -/
@[simp] def UsbCallPoint.emptied : UsbCallPoint → Bool
  | entered _ | taking _ | cancelling | returned _ => false
  | _ => true

/-- The status says connected before the worker runs, and after a spawn that failed. -/
@[simp] def UsbCallPoint.announces : UsbCallPoint → Bool
  | spawning .. | failing _ => true
  | _ => false

namespace UsbManager

def IsIdle (s : UsbManager) (thread : Nat) : Prop := ∃ result, s.calls thread = .returned result

/-- The calls come one after another, a reconnection only when the link is down, and no worker panics. -/
def Sequential (s : UsbManager) : UsbManagerStep → Prop
  | .call _ call => (∀ thread, s.IsIdle thread) ∧ (call = .prepare true →
      ∀ session cancelled, s.session = some session → s.workers session ≠ some ⟨cancelled, .pumping⟩)
  | .panics _ => False
  | _ => True

/-- `thread` has the only call that is in progress, if there is one. -/
structure Telling (s : UsbManager) (thread : Nat) : Prop where
  others : ∀ i, i ≠ thread → s.IsIdle i
  empty : (s.calls thread).emptied = true → s.session = none
  live : ∀ session worker, s.workers session = some worker → worker.isLive = true →
    s.session = some session ∨ (s.calls thread).owns = some session
  connected : s.status.phase = .connected →
    (∃ session worker, s.workers session = some worker ∧ worker.isLive = true) ∨
      (s.calls thread).announces = true
  pumping : ∀ session cancelled, s.workers session = some ⟨cancelled, .pumping⟩ →
    s.status.phase = .connected
  spawning : ∀ cancellable handle, s.calls thread = .spawning cancellable handle →
    s.status.phase = .connected
  gate : s.calls thread = .entered true ∨ s.calls thread = .cancelling →
    ∀ session cancelled, s.workers session ≠ some ⟨cancelled, .pumping⟩
  calm : ∀ session cancelled, s.workers session ≠ some ⟨cancelled, .panicked⟩

variable {s t : UsbManager} {thread : Nat}

theorem telling_initial (thread : Nat) : Telling initial thread where
  others := fun i _ => ⟨_, rfl⟩
  empty := by simp [initial]
  live := by simp [initial]
  connected := by simp [initial, UsbLinkStatus.default]
  pumping := by simp [initial]
  spawning := by simp [initial]
  gate := by simp [initial]
  calm := by simp [initial]

theorem emptied_of_owns {point : UsbCallPoint} {session : Nat} (h : point.owns = some session) :
    point.emptied = true := by
  cases point <;> simp_all

/-- No worker lives when the slot is empty and the call has no session. -/
theorem Telling.none_live (h : s.Telling thread) (hempty : (s.calls thread).emptied = true)
    (howns : (s.calls thread).owns = none) (session : Nat) : s.IsOver session := by
  intro worker hworker
  by_contra hlive
  rw [Bool.not_eq_false] at hlive
  rcases h.live session worker hworker hlive with hslot | hown
  · rw [h.empty hempty] at hslot
    cases hslot
  · rw [howns] at hown
    cases hown

theorem Telling.unique (h : s.Telling thread) {session other : Nat} {worker worker' : BulkThread}
    (hworker : s.workers session = some worker) (hlive : worker.isLive = true)
    (hother : s.workers other = some worker') (hotherLive : worker'.isLive = true) : session = other := by
  have hclash : ∀ session other, s.session = some session → (s.calls thread).owns ≠ some other := by
    intro session other hslot howns
    rw [h.empty (emptied_of_owns howns)] at hslot
    cases hslot
  rcases h.live session worker hworker hlive with hslot | hown <;>
    rcases h.live other worker' hother hotherLive with hslot' | hown'
  · exact Option.some.inj (hslot.symm.trans hslot')
  · exact absurd hown' (hclash session other hslot)
  · exact absurd hown (hclash other session hslot')
  · exact Option.some.inj (hown.symm.trans hown')

/-- The call goes on to `point`. -/
theorem Telling.step (h : s.Telling thread) (point : UsbCallPoint)
    (hcalls : t.calls = Function.update s.calls thread point)
    (hempty : point.emptied = true → t.session = none)
    (hlive : ∀ session worker, t.workers session = some worker → worker.isLive = true →
      t.session = some session ∨ point.owns = some session)
    (hconnected : t.status.phase = .connected →
      (∃ session worker, t.workers session = some worker ∧ worker.isLive = true) ∨
        point.announces = true)
    (hpumping : ∀ session cancelled, t.workers session = some ⟨cancelled, .pumping⟩ →
      t.status.phase = .connected)
    (hspawning : ∀ cancellable handle, point = .spawning cancellable handle →
      t.status.phase = .connected)
    (hgate : point = .entered true ∨ point = .cancelling →
      ∀ session cancelled, t.workers session ≠ some ⟨cancelled, .pumping⟩)
    (hcalm : ∀ session cancelled, t.workers session ≠ some ⟨cancelled, .panicked⟩) : t.Telling thread := by
  have hself : t.calls thread = point := by rw [hcalls, Function.update_self]
  constructor
  · intro i hi
    obtain ⟨result, hresult⟩ := h.others i hi
    exact ⟨result, by rw [hcalls, Function.update_of_ne hi, hresult]⟩
  · rwa [hself]
  · rwa [hself]
  · rwa [hself]
  · exact hpumping
  · rwa [hself]
  · rwa [hself]
  · exact hcalm

/-- A step of the call that leaves the workers, the slot and the status. -/
theorem Telling.move (h : s.Telling thread) (point : UsbCallPoint)
    (hcalls : t.calls = Function.update s.calls thread point) (hsession : t.session = s.session)
    (hstatus : t.status = s.status) (hworkers : t.workers = s.workers)
    (hempty : point.emptied = true → s.session = none)
    (howns : ∀ session, (s.calls thread).owns = some session →
      point.owns = some session ∨ s.IsOver session)
    (hannounces : (s.calls thread).announces = true → point.announces = true)
    (hspawning : ∀ cancellable handle, point ≠ .spawning cancellable handle)
    (hgate : point = .entered true ∨ point = .cancelling →
      ∀ session cancelled, s.workers session ≠ some ⟨cancelled, .pumping⟩) : t.Telling thread := by
  apply h.step point hcalls
  · rwa [hsession]
  · intro session worker hworker hlive
    rw [hworkers] at hworker
    rw [hsession]
    refine (h.live session worker hworker hlive).imp_right fun hown => ?_
    refine (howns session hown).resolve_right fun hover => ?_
    rw [hover worker hworker] at hlive
    cases hlive
  · rw [hstatus, hworkers]
    exact fun hphase => (h.connected hphase).imp_right hannounces
  · rw [hstatus, hworkers]
    exact h.pumping
  · exact fun cancellable handle hpoint => absurd hpoint (hspawning cancellable handle)
  · rwa [hworkers]
  · rw [hworkers]
    exact h.calm

/-- A step of the call that writes the status while no worker has a link. -/
theorem Telling.write (h : s.Telling thread) (point : UsbCallPoint)
    (hcalls : t.calls = Function.update s.calls thread point) (hsession : t.session = s.session)
    (hworkers : t.workers = s.workers) (howns : (s.calls thread).owns = none)
    (hempty : point.emptied = true → s.session = none)
    (hquiet : ∀ session cancelled, s.workers session ≠ some ⟨cancelled, .pumping⟩)
    (hconnected : t.status.phase = .connected ↔ ∃ cancellable handle, point = .spawning cancellable handle) :
    t.Telling thread := by
  apply h.step point hcalls
  · rwa [hsession]
  · intro session worker hworker hlive
    rw [hworkers] at hworker
    rw [hsession]
    refine (h.live session worker hworker hlive).imp_right fun hown => ?_
    rw [howns] at hown
    cases hown
  · intro hphase
    obtain ⟨cancellable, handle, rfl⟩ := hconnected.mp hphase
    exact .inr rfl
  · intro session cancelled hworker
    rw [hworkers] at hworker
    exact absurd hworker (hquiet session cancelled)
  · exact fun cancellable handle hpoint => hconnected.mpr ⟨cancellable, handle, hpoint⟩
  · rw [hworkers]
    exact fun _ => hquiet
  · rw [hworkers]
    exact h.calm

theorem IsOver.not_pumping {session : Nat} (h : s.IsOver session) (cancelled : Bool) :
    s.workers session ≠ some ⟨cancelled, .pumping⟩ := by
  intro hworker
  have hlive := h _ hworker
  cases hlive

theorem Telling.not_pumping (h : s.Telling thread) (hempty : (s.calls thread).emptied = true)
    (howns : (s.calls thread).owns = none) (session : Nat) (cancelled : Bool) :
    s.workers session ≠ some ⟨cancelled, .pumping⟩ :=
  (h.none_live hempty howns session).not_pumping cancelled

theorem Telling.take (h : s.Telling thread) {call : UsbCall} (hpoint : s.calls thread = .taking call) :
    (s.take thread call).Telling thread := by
  rw [UsbManager.take]
  cases hsession : s.session with
  | none =>
    refine h.move (stopped call) rfl rfl rfl rfl ?_ ?_ ?_ ?_ ?_ <;> cases call <;>
      simp [hpoint, stopped, hsession]
  | some session =>
    apply h.step (.stopping call session) rfl
    · simp
    · intro other worker hworker hlive
      have hslot := h.live other worker hworker hlive
      simpa [hpoint, hsession] using hslot
    · simpa [hpoint] using h.connected
    · exact h.pumping
    · simp
    · simp
    · exact h.calm

theorem cancelWorker_workers {session other : Nat} {worker : BulkThread}
    (h : (s.cancelWorker session).workers other = some worker) :
    ∃ cancelled, s.workers other = some ⟨cancelled, worker.point⟩ := by
  by_cases hother : other = session
  · subst hother
    simp only [cancelWorker, Function.update_self, Option.map_eq_some_iff] at h
    obtain ⟨before, hbefore, rfl⟩ := h
    exact ⟨before.cancelled, hbefore⟩
  · exact ⟨worker.cancelled, by simpa [cancelWorker, hother] using h⟩

theorem cancelWorker_live (session : Nat) {other : Nat} {worker : BulkThread}
    (h : s.workers other = some worker) (hlive : worker.isLive = true) :
    ∃ after, (s.cancelWorker session).workers other = some after ∧ after.isLive = true := by
  by_cases hother : other = session
  · subst hother
    exact ⟨{ worker with cancelled := true }, by simp [cancelWorker, h], hlive⟩
  · exact ⟨worker, by simpa [cancelWorker, hother] using h, hlive⟩

/-- The worker of the call's session is told to stop. -/
theorem Telling.cancel (h : s.Telling thread) {session : Nat} {point : UsbCallPoint}
    (hempty : (s.calls thread).emptied = true) (howns : (s.calls thread).owns = some session)
    (hannounces : (s.calls thread).announces = false) (hkeeps : point.owns = some session)
    (hspawning : ∀ cancellable handle, point ≠ .spawning cancellable handle)
    (hgate : point ≠ .entered true ∧ point ≠ .cancelling) :
    ((s.cancelWorker session).moveTo thread point).Telling thread := by
  apply h.step point rfl
  · exact fun _ => h.empty hempty
  · intro other worker hworker hlive
    obtain ⟨cancelled, hbefore⟩ := cancelWorker_workers hworker
    rw [hkeeps, ← howns]
    exact h.live other _ hbefore hlive
  · intro hphase
    rcases h.connected hphase with ⟨other, worker, hworker, hlive⟩ | hannounced
    · obtain ⟨after, hafter, hafterLive⟩ := cancelWorker_live session hworker hlive
      exact .inl ⟨other, after, hafter, hafterLive⟩
    · rw [hannounces] at hannounced
      cases hannounced
  · intro other cancelled hworker
    obtain ⟨before, hbefore⟩ := cancelWorker_workers hworker
    exact h.pumping other before hbefore
  · exact fun cancellable handle hpoint => absurd hpoint (hspawning cancellable handle)
  · exact fun hpoint => hpoint.elim (fun heq => absurd heq hgate.1) fun heq => absurd heq hgate.2
  · intro other cancelled hworker
    obtain ⟨before, hbefore⟩ := cancelWorker_workers hworker
    exact h.calm other before hbefore

theorem Telling.spawn (h : s.Telling thread) {cancellable : Bool} {handle : Nat}
    (hpoint : s.calls thread = .spawning cancellable handle) :
    Telling ({ s with workers := Function.update s.workers handle (some ⟨false, .pumping⟩) }.moveTo
      thread (.started cancellable handle)) thread := by
  have hphase := h.spawning cancellable handle hpoint
  have hover := h.none_live (by simp [hpoint]) (by simp [hpoint])
  apply h.step (.started cancellable handle) rfl
  · exact fun _ => h.empty (by simp [hpoint])
  · intro session worker hworker hlive
    by_cases hsession : session = handle
    · exact .inr (by simp [hsession])
    · have hold : s.workers session = some worker := by simpa [UsbManager.moveTo, hsession] using hworker
      rw [hover session worker hold] at hlive
      cases hlive
  · exact fun _ => .inl ⟨handle, ⟨false, .pumping⟩, by simp [UsbManager.moveTo], rfl⟩
  · exact fun _ _ _ => hphase
  · simp
  · simp
  · intro session cancelled hworker
    by_cases hsession : session = handle
    · simp [UsbManager.moveTo, hsession] at hworker
    · exact h.calm session cancelled (by simpa [UsbManager.moveTo, hsession] using hworker)

theorem Telling.install (h : s.Telling thread) {session : Nat}
    (hpoint : s.calls thread = .installing session) :
    Telling ({ s with session := some session }.moveTo thread (.returned (.ok ()))) thread := by
  have hnone := h.empty (by simp [hpoint])
  apply h.step (.returned (.ok ())) rfl
  · simp
  · intro other worker hworker hlive
    have hown := h.live other worker hworker hlive
    simpa [hnone, hpoint, UsbManager.moveTo] using hown
  · simpa [hpoint, UsbManager.moveTo] using h.connected
  · exact h.pumping
  · simp
  · simp
  · exact h.calm

theorem joined_over {session : Nat} {panicked : Bool} (h : s.Telling thread)
    (hjoined : s.joined session = some panicked) : panicked = false ∧ s.IsOver session := by
  refine ⟨?_, isOver_of_joined hjoined⟩
  rw [joined] at hjoined
  split at hjoined
  · cases hjoined
    rfl
  · rename_i cancelled hworker
    exact absurd hworker (h.calm session cancelled)
  · cases hjoined

theorem Telling.advance (h : s.Telling thread) {input : UsbCallInput}
    (hstep : s.advance thread input = some t) : t.Telling thread := by
  rw [UsbManager.advance] at hstep
  split at hstep
  case h_1 cancellable hpoint =>
    cases hstep
    split
    · rename_i hflag
      simp only [Bool.and_eq_true] at hflag
      refine h.move .cancelling rfl rfl rfl rfl ?_ ?_ ?_ ?_ fun _ => h.gate (.inl ?_) <;>
        simp [hpoint, hflag]
    · refine h.move (.taking (.prepare cancellable)) rfl rfl rfl rfl ?_ ?_ ?_ ?_ ?_ <;> simp [hpoint]
  case h_2 call hpoint =>
    cases hstep
    exact h.take hpoint
  case h_3 call session hpoint =>
    cases hstep
    apply h.cancel <;> simp [hpoint]
  case h_4 call session hpoint =>
    have hempty := h.empty (by simp [hpoint])
    rw [UsbManager.join] at hstep
    split at hstep
    · cases hstep
    · rename_i hjoined
      cases hstep
      have hover := (joined_over h hjoined).2
      refine h.move (stopped call) rfl rfl rfl rfl (fun _ => hempty) ?_ ?_ ?_ ?_ <;> cases call <;>
        simp [hpoint, stopped, hover]
    · rename_i hjoined
      cases (joined_over h hjoined).1
  case h_5 cancellable hpoint =>
    cases hstep
    have hquiet := h.not_pumping (by simp [hpoint]) (by simp [hpoint])
    have hempty := h.empty (by simp [hpoint])
    refine h.write (.opening cancellable) rfl rfl rfl ?_ (fun _ => hempty) hquiet ?_ <;>
      simp [hpoint, UsbManager.setStatus, UsbLinkStatus.connecting, UsbLinkStatus.of]
  case h_6 cancellable hpoint =>
    have hquiet := h.not_pumping (by simp [hpoint]) (by simp [hpoint])
    have hempty := h.empty (by simp [hpoint])
    cases hopened : input.opened with
    | error error =>
      rw [hopened] at hstep
      cases hstep
      split
      · refine h.move .cancelling rfl rfl rfl rfl ?_ ?_ ?_ ?_ fun _ => hquiet <;> simp [hpoint]
      · refine h.move (.failing error) rfl rfl rfl rfl (fun _ => hempty) ?_ ?_ ?_ ?_ <;> simp [hpoint]
    | ok handle =>
      simp only [hopened, UsbManager.openAccessory] at hstep
      split at hstep <;> cases hstep
      refine h.move (.opened cancellable handle) rfl rfl rfl rfl (fun _ => hempty) ?_ ?_ ?_ ?_ <;>
        simp [hpoint]
  case h_7 cancellable handle hpoint =>
    have hquiet := h.not_pumping (by simp [hpoint]) (by simp [hpoint])
    have hempty := h.empty (by simp [hpoint])
    split at hstep <;> cases hstep
    · refine h.move .cancelling rfl rfl rfl rfl ?_ ?_ ?_ ?_ fun _ => hquiet <;> simp [hpoint]
    · refine h.move (.claiming cancellable handle) rfl rfl rfl rfl (fun _ => hempty) ?_ ?_ ?_ ?_ <;>
        simp [hpoint]
  case h_8 cancellable handle hpoint =>
    cases hstep
    have hquiet := h.not_pumping (by simp [hpoint]) (by simp [hpoint])
    have hempty := h.empty (by simp [hpoint])
    refine h.write (.spawning cancellable handle) rfl rfl rfl ?_ (fun _ => hempty) hquiet ?_ <;>
      simp [hpoint, UsbManager.setStatus, UsbLinkStatus.claimed, UsbLinkStatus.of]
  case h_9 cancellable handle hpoint =>
    cases hstep
    have hempty := h.empty (by simp [hpoint])
    cases hspawned : input.spawned with
    | error error =>
      refine h.move (.failing s!"failed to start Android USB bulk worker: {error}") rfl rfl rfl rfl
        (fun _ => hempty) ?_ ?_ ?_ ?_ <;> simp [hpoint]
    | ok => exact h.spawn hpoint
  case h_10 cancellable session hpoint =>
    cases hstep
    have hempty := h.empty (by simp [hpoint])
    split
    · refine h.move (.discarding session) rfl rfl rfl rfl (fun _ => hempty) ?_ ?_ ?_ ?_ <;> simp [hpoint]
    · refine h.move (.installing session) rfl rfl rfl rfl (fun _ => hempty) ?_ ?_ ?_ ?_ <;> simp [hpoint]
  case h_11 session hpoint =>
    cases hstep
    exact h.install hpoint
  case h_12 session hpoint =>
    cases hstep
    apply h.cancel <;> simp [hpoint]
  case h_13 session hpoint =>
    obtain ⟨panicked, hjoined, rfl⟩ := Option.map_eq_some_iff.mp hstep
    have hover := (joined_over h hjoined).2
    have hempty := h.empty (by simp [hpoint])
    refine h.move .cancelling rfl rfl rfl rfl ?_ ?_ ?_ ?_ fun _ => ?_
    · simp
    · simp [hpoint, hover]
    · simp [hpoint]
    · simp
    · intro other cancelled hworker
      have hlive := h.live other _ hworker rfl
      simp only [hempty, reduceCtorEq, hpoint, UsbCallPoint.owns, Option.some.injEq, false_or] at hlive
      exact hover.not_pumping cancelled (hlive ▸ hworker)
  case h_14 hpoint =>
    cases hstep
    have hquiet := h.gate (.inr hpoint)
    refine h.write (.returned (.error reconnectCancelledDetail)) rfl rfl rfl ?_ ?_ hquiet ?_ <;>
      simp [hpoint, UsbManager.setStatus, UsbLinkStatus.cancelled, UsbLinkStatus.of]
  case h_15 error hpoint =>
    cases hstep
    have hquiet := h.not_pumping (by simp [hpoint]) (by simp [hpoint])
    refine h.write (.returned (.error error)) rfl rfl rfl ?_ ?_ hquiet ?_ <;>
      simp [hpoint, UsbManager.setStatus, UsbLinkStatus.of]
  case h_16 hpoint =>
    cases hstep
    have hempty := h.empty (by simp [hpoint])
    split
    · refine h.move (.returned (.error s.status.detail)) rfl rfl rfl rfl ?_ ?_ ?_ ?_ ?_ <;> simp [hpoint]
    · refine h.move (.closing .disconnect) rfl rfl rfl rfl (fun _ => hempty) ?_ ?_ ?_ ?_ <;> simp [hpoint]
  case h_17 call hpoint =>
    cases hstep
    have hquiet := h.not_pumping (by simp [hpoint]) (by simp [hpoint])
    refine h.write (.returned (.ok ())) rfl rfl rfl ?_ ?_ hquiet ?_ <;> cases call <;>
      simp [hpoint, UsbManager.setStatus, closedStatus, UsbLinkStatus.of]
  case h_18 => cases hstep

/-- A call begins while no other one is in progress. -/
theorem Telling.call (h : s.Telling thread) {caller : Nat} {call : UsbCall}
    (hguard : s.Sequential (.call caller call)) :
    (s.moveTo caller (firstPoint call)).Telling caller := by
  obtain ⟨hidle, hdown⟩ := hguard
  obtain ⟨result, hresult⟩ := hidle thread
  have hslot : ∀ session worker, s.workers session = some worker → worker.isLive = true →
      s.session = some session := by
    intro session worker hworker hlive
    simpa [hresult] using h.live session worker hworker hlive
  have hself : (s.moveTo caller (firstPoint call)).calls caller = firstPoint call := by
    rw [moveTo_calls, Function.update_self]
  constructor
  · intro i hi
    obtain ⟨result', hresult'⟩ := hidle i
    exact ⟨result', by rw [moveTo_calls, Function.update_of_ne hi, hresult']⟩
  · rw [hself]
    cases call <;> simp [firstPoint]
  · exact fun session worker hworker hlive => .inl (hslot session worker hworker hlive)
  · intro hphase
    have hlive := h.connected hphase
    simp only [hresult, UsbCallPoint.announces, Bool.false_eq_true, or_false] at hlive
    exact .inl hlive
  · exact h.pumping
  · rw [hself]
    cases call <;> simp [firstPoint]
  · rw [hself]
    intro hgate session cancelled hworker
    have hcall : call = .prepare true := by
      cases call <;> simp_all [firstPoint]
    exact hdown hcall session cancelled (hslot session _ hworker rfl) hworker
  · exact h.calm

theorem settle_phase (worker : BulkThread) (result release : Except String Unit) (status : UsbLinkStatus) :
    (worker.settle result release status).phase ≠ .connected := by
  rw [BulkThread.settle.eq_def]
  split
  · split <;> simp
  · simp

/-- A worker goes on to its end. -/
theorem Telling.worker (h : s.Telling thread) {session : Nat} {before after : BulkThread}
    (hworker : s.workers session = some before) (hlive : before.isLive = true)
    (hcalls : t.calls = s.calls) (hsession : t.session = s.session)
    (hworkers : t.workers = Function.update s.workers session (some after))
    (hpoint : ∀ cancelled, after ≠ ⟨cancelled, .pumping⟩ ∧ after ≠ ⟨cancelled, .panicked⟩)
    (hstatus : t.status = s.status ∧ after.isLive = true ∨ t.status.phase ≠ .connected) :
    t.Telling thread := by
  have hother : ∀ other worker, t.workers other = some worker → other ≠ session →
      s.workers other = some worker := by
    intro other worker hfound hne
    rwa [hworkers, Function.update_of_ne hne] at hfound
  have hself : ∀ worker, t.workers session = some worker → worker = after := by
    intro worker hfound
    rw [hworkers, Function.update_self] at hfound
    exact (Option.some.inj hfound).symm
  have hquiet : ∀ other cancelled, t.workers other ≠ some ⟨cancelled, .pumping⟩ := by
    intro other cancelled hfound
    by_cases hne : other = session
    · exact (hpoint cancelled).1 (hself _ (hne ▸ hfound)).symm
    · exact hne (h.unique (hother other _ hfound hne) rfl hworker hlive)
  constructor
  · intro i hi
    rw [IsIdle, hcalls]
    exact h.others i hi
  · rw [hcalls, hsession]
    exact h.empty
  · intro other worker hfound hfoundLive
    rw [hcalls, hsession]
    by_cases hne : other = session
    · exact hne ▸ h.live session before hworker hlive
    · exact h.live other worker (hother other worker hfound hne) hfoundLive
  · intro hphase
    rcases hstatus with ⟨-, hafter⟩ | hchanged
    · exact .inl ⟨session, after, by rw [hworkers, Function.update_self], hafter⟩
    · exact absurd hphase hchanged
  · exact fun other cancelled hfound => absurd hfound (hquiet other cancelled)
  · intro cancellable handle hspawning
    rw [hcalls] at hspawning
    have hover := h.none_live (by simp [hspawning]) (by simp [hspawning]) session before hworker
    rw [hlive] at hover
    cases hover
  · exact fun _ => hquiet
  · intro other cancelled hfound
    by_cases hne : other = session
    · exact (hpoint cancelled).2 (hself _ (hne ▸ hfound)).symm
    · exact h.calm other cancelled (hother other _ hfound hne)

theorem Telling.next (h : s.Telling thread) {step : UsbManagerStep} (hguard : s.Sequential step)
    (hstep : s.next step = some t) : ∃ caller, t.Telling caller := by
  rcases worker_cases hstep with ⟨caller, call, rfl⟩ | ⟨caller, input, rfl⟩ | ⟨counters, rfl⟩ |
      ⟨session, cancelled, result, release, hworker, rfl⟩ |
      ⟨session, cancelled, result, release, hworker, rfl⟩ | ⟨session, cancelled, rfl, -, -⟩
  · obtain ⟨-, rfl⟩ := calls_of_call hstep
    exact ⟨caller, h.call hguard⟩
  · by_cases hcaller : caller = thread
    · subst hcaller
      exact ⟨caller, h.advance hstep⟩
    · obtain ⟨result, hresult⟩ := h.others caller hcaller
      simp [UsbManager.next, UsbManager.advance, hresult] at hstep
  · exact ⟨thread, h.others, h.empty, h.live, h.connected, h.pumping, h.spawning, h.gate, h.calm⟩
  · exact ⟨thread, h.worker hworker rfl rfl rfl rfl (by simp) (.inl ⟨rfl, rfl⟩)⟩
  · exact ⟨thread, h.worker hworker rfl rfl rfl rfl (by simp) (.inr (settle_phase _ _ _ _))⟩
  · exact hguard.elim

/-- While the calls come one after another and a reconnection begins only when the link is down, the status
between the calls says that the link is connected only while the session in the slot has its handle, and
always while its worker is in its loop. -/
theorem status_tells_session {steps : List UsbManagerStep} (hrun : machine.run initial steps = some s)
    (hsequential : machine.Admits Sequential initial steps) (hidle : ∀ thread, s.IsIdle thread) :
    (∀ detail, s.runtimeStatus = some (.connected, detail) →
      ∃ session worker, s.session = some session ∧ s.workers session = some worker ∧
        worker.isLive = true) ∧
    (s.sessionConnected = true → ∃ detail, s.runtimeStatus = some (.connected, detail)) := by
  have htelling : ∃ thread, s.Telling thread := by
    refine machine.run_invariant_of_admits Sequential (fun s => ∃ thread, s.Telling thread) ?_
      ⟨0, telling_initial 0⟩ hsequential hrun
    rintro s step t ⟨thread, h⟩ hguard hstep
    exact h.next hguard hstep
  obtain ⟨thread, h⟩ := htelling
  obtain ⟨result, hresult⟩ := hidle thread
  constructor
  · intro detail hstatus
    have hphase : s.status.phase = .connected := by
      rw [runtimeStatus] at hstatus
      split at hstatus
      · cases hstatus
      · split at hstatus <;> exact congrArg Prod.fst (Option.some.inj hstatus)
    have hlive := h.connected hphase
    simp only [hresult, UsbCallPoint.announces, Bool.false_eq_true, or_false] at hlive
    obtain ⟨session, worker, hworker, hworkerLive⟩ := hlive
    have hslot := h.live session worker hworker hworkerLive
    simp only [hresult, UsbCallPoint.owns, reduceCtorEq, or_false] at hslot
    exact ⟨session, worker, hslot, hworker, hworkerLive⟩
  · intro hconnected
    rw [sessionConnected] at hconnected
    split at hconnected
    · rename_i cancelled hfound
      obtain ⟨session, -, hworker⟩ := Option.bind_eq_some_iff.mp hfound
      have hphase := h.pumping session cancelled hworker
      simp [runtimeStatus, hphase, sessionConnected, hfound]
    · rename_i cancelled hfound
      obtain ⟨session, -, hworker⟩ := Option.bind_eq_some_iff.mp hfound
      exact absurd hworker (h.calm session cancelled)
    · cases hconnected

def isCall : UsbManagerStep → Bool
  | .call .. | .panics _ => true
  | _ => false

theorem sequential_of_other {step : UsbManagerStep} (h : isCall step = false) : s.Sequential step := by
  cases step <;> trivial

/-- A call that goes on leaves the calls of the other threads where they are. -/
theorem advances_other {count : Nat} {input : UsbCallInput}
    (h : machine.run s (advances thread count input) = some t) {i : Nat} (hi : i ≠ thread) :
    t.calls i = s.calls i := by
  induction count generalizing s with
  | zero =>
    cases h
    rfl
  | succ count ih =>
    obtain ⟨u, hstep, hrun⟩ := machine.run_cons.mp h
    rw [ih hrun]
    cases advance_effect hstep <;> exact Function.update_of_ne hi _ _

/-- Behind the call of `prepare`, which succeeds. -/
def prepared : List UsbManagerStep := advances 0 9 ⟨false, .ok 7, .ok ()⟩

theorem status_tells_session_prepared :
    ∃ s, machine.run initial (.call 0 (.prepare false) :: prepared) = some s ∧ s.session = some 7 ∧
      (∀ detail, s.runtimeStatus = some (.connected, detail) →
        ∃ session worker, s.session = some session ∧ s.workers session = some worker ∧
          worker.isLive = true) ∧
      (s.sessionConnected = true → ∃ detail, s.runtimeStatus = some (.connected, detail)) := by
  refine ⟨_, rfl, rfl, @status_tells_session _ (.call 0 (.prepare false) :: prepared) rfl
    ⟨⟨fun _ => ⟨_, rfl⟩, by simp⟩, machine.admits_of_mem (fun step hstep _ => sequential_of_other
      ((by decide : ∀ step ∈ prepared, isCall step = false) step hstep)) _⟩ fun thread => ?_⟩
  by_cases hthread : thread = 0
  · subst hthread
    exact ⟨_, rfl⟩
  · have hcalls := @advances_other (initial.moveTo 0 (.entered false)) _ 0 9 ⟨false, .ok 7, .ok ()⟩ rfl
      thread hthread
    exact ⟨.ok (), hcalls.trans (Function.update_of_ne hthread _ _)⟩

end UsbManager

end LadoFlow.Host
