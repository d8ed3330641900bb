import LadoFlow.Framework.Custody
import LadoFlow.Host.UsbManager

/-!
# What the accessory manager keeps

A handle that a call opened is with that call or with a bulk worker, or it was dropped, once. While no
preparation runs into another one, every worker that has its handle is in the slot of the manager or with a
call that will stop or install it.
-/

namespace LadoFlow.Host

open Framework

namespace UsbCallPoint

/-- The opened handle that the call has. -/
@[simp] def handle : UsbCallPoint → Option Nat
  | opened _ handle | claiming _ handle | spawning _ handle => some handle
  | _ => none

/-- The session that the call has taken or started. -/
@[simp] def owns : UsbCallPoint → Option Nat
  | stopping _ session | joining _ session | started _ session | installing session
  | discarding session | discarded session => some session
  | _ => none

/-- A preparation that is not over. -/
@[simp] def isPreparing : UsbCallPoint → Bool
  | taking call | stopping call _ | joining call _ => match call with
    | .prepare _ => true
    | .disconnect | .closeRuntimeSession => false
  | reading | closing _ | returned _ => false
  | _ => true

/-- A preparation that has emptied the slot and may fill it. -/
@[simp] def fills : UsbCallPoint → Bool
  | stopping call _ | joining call _ => match call with
    | .prepare _ => true
    | .disconnect | .closeRuntimeSession => false
  | connecting _ | opening _ | opened .. | claiming .. | spawning .. | started .. | installing _ => true
  | _ => false

theorem isPreparing_of_fills {point : UsbCallPoint} (h : point.fills = true) :
    point.isPreparing = true := by
  cases point with
  | stopping call | joining call => cases call <;> simp_all [fills, isPreparing]
  | _ => simp_all [fills, isPreparing]

end UsbCallPoint

namespace UsbManager

/-- The session's worker, if it has one, has dropped its handle. -/
def IsOver (s : UsbManager) (session : Nat) : Prop :=
  ∀ worker, s.workers session = some worker → worker.isLive = false

/-- What one step of a call can do. -/
inductive CallEffect (s : UsbManager) (thread : Nat) : UsbManager → Prop
  | move (point : UsbCallPoint) (status : UsbLinkStatus)
    (hhandle : point.handle = (s.calls thread).handle)
    (howns : ∀ session, (s.calls thread).owns = some session →
      point.owns = some session ∨ s.IsOver session)
    (hfills : point.fills = true → (s.calls thread).fills = true ∨ s.session = none)
    (hpreparing : point.isPreparing = true → (s.calls thread).isPreparing = true) :
    CallEffect s thread { s.moveTo thread point with status }
  | take (call : UsbCall) (session : Nat) (hpoint : s.calls thread = .taking call)
    (hsession : s.session = some session) :
    CallEffect s thread ({ s with session := none }.moveTo thread (.stopping call session))
  | cancel (session : Nat) (point : UsbCallPoint) (howns : (s.calls thread).owns = some session)
    (hhandle : point.handle = (s.calls thread).handle) (hkeeps : point.owns = some session)
    (hfills : point.fills = true → (s.calls thread).fills = true)
    (hpreparing : point.isPreparing = true → (s.calls thread).isPreparing = true) :
    CallEffect s thread ((s.cancelWorker session).moveTo thread point)
  | «open» (cancellable : Bool) (handle : Nat) (hpoint : s.calls thread = .opening cancellable)
    (hfresh : handle ∉ s.opened) :
    CallEffect s thread
      ({ s with opened := s.opened ++ [handle] }.moveTo thread (.opened cancellable handle))
  | drop (handle : Nat) (point : UsbCallPoint) (hhandle : (s.calls thread).handle = some handle)
    (hnone : point.handle = none) (howns : (s.calls thread).owns = none)
    (hfills : point.fills = false) (hpreparing : (s.calls thread).isPreparing = true) :
    CallEffect s thread ((s.drop handle).moveTo thread point)
  | spawn (cancellable : Bool) (handle : Nat) (hpoint : s.calls thread = .spawning cancellable handle) :
    CallEffect s thread
      ({ s with workers := Function.update s.workers handle (some ⟨false, .pumping⟩) }.moveTo thread
        (.started cancellable handle))
  | install (session : Nat) (hpoint : s.calls thread = .installing session) :
    CallEffect s thread
      ({ s with session := some session }.moveTo thread (.returned (.ok ())))

variable {s t : UsbManager} {thread : Nat}

theorem isOver_of_joined {session : Nat} {panicked : Bool} (h : s.joined session = some panicked) :
    s.IsOver session := by
  intro worker hworker
  rw [joined, hworker] at h
  obtain ⟨cancelled, point⟩ := worker
  cases point <;> simp_all [BulkThread.isLive]

/-- A step of a call that only moves on. -/
theorem CallEffect.of_move (point : UsbCallPoint) (hhandle : point.handle = (s.calls thread).handle)
    (howns : ∀ session, (s.calls thread).owns = some session →
      point.owns = some session ∨ s.IsOver session)
    (hfills : point.fills = true → (s.calls thread).fills = true ∨ s.session = none)
    (hpreparing : point.isPreparing = true → (s.calls thread).isPreparing = true) :
    CallEffect s thread (s.moveTo thread point) :=
  .move point s.status hhandle howns hfills hpreparing

theorem take_effect {call : UsbCall} (hpoint : s.calls thread = .taking call) :
    CallEffect s thread (s.take thread call) := by
  rw [UsbManager.take]
  cases hsession : s.session with
  | none =>
    apply CallEffect.of_move <;> cases call <;> simp [hpoint, stopped, hsession]
  | some session => exact .take call session hpoint hsession

theorem join_effect {call : UsbCall} {session : Nat} (hpoint : s.calls thread = .joining call session)
    (h : s.join thread call session = some t) : CallEffect s thread t := by
  rw [UsbManager.join] at h
  split at h
  · cases h
  · rename_i hjoined
    cases h
    have hover := isOver_of_joined hjoined
    apply CallEffect.of_move <;> cases call <;> simp [hpoint, stopped, hover]
  · rename_i hjoined
    cases h
    have hover := isOver_of_joined hjoined
    apply CallEffect.of_move <;> simp [hpoint, hover]

theorem openAccessory_effect {cancelled cancellable : Bool} {result : Except String Nat}
    (hpoint : s.calls thread = .opening cancellable)
    (h : s.openAccessory thread cancelled cancellable result = some t) : CallEffect s thread t := by
  cases result with
  | error error =>
    cases h
    apply CallEffect.of_move <;> split <;> simp [hpoint]
  | ok handle =>
    simp only [openAccessory] at h
    split at h
    · cases h
    · rename_i hfresh
      cases h
      exact .open cancellable handle hpoint hfresh

/-- Every step of a call has one of the effects. -/
theorem advance_effect {input : UsbCallInput} (h : s.advance thread input = some t) :
    CallEffect s thread t := by
  rw [advance] at h
  split at h
  case h_1 cancellable hpoint =>
    cases h
    apply CallEffect.of_move <;> split <;> simp [hpoint]
  case h_2 call hpoint =>
    cases h
    exact take_effect hpoint
  case h_3 call session hpoint =>
    cases h
    apply CallEffect.cancel <;> cases call <;> simp [hpoint]
  case h_4 call session hpoint => exact join_effect hpoint h
  case h_5 cancellable hpoint =>
    cases h
    apply CallEffect.move <;> simp [hpoint]
  case h_6 cancellable hpoint => exact openAccessory_effect hpoint h
  case h_7 cancellable handle hpoint =>
    split at h <;> cases h
    · apply CallEffect.drop <;> simp [hpoint]
    · apply CallEffect.of_move <;> simp [hpoint]
  case h_8 cancellable handle hpoint =>
    cases h
    apply CallEffect.move <;> simp [hpoint]
  case h_9 cancellable handle hpoint =>
    cases h
    cases hspawned : input.spawned with
    | error error => apply CallEffect.drop <;> simp [hpoint]
    | ok => exact .spawn cancellable handle hpoint
  case h_10 cancellable session hpoint =>
    cases h
    apply CallEffect.of_move <;> split <;> simp [hpoint]
  case h_11 session hpoint =>
    cases h
    exact .install session hpoint
  case h_12 session hpoint =>
    cases h
    apply CallEffect.cancel <;> simp [hpoint]
  case h_13 session hpoint =>
    obtain ⟨panicked, hjoined, rfl⟩ := Option.map_eq_some_iff.mp h
    have hover := isOver_of_joined hjoined
    apply CallEffect.of_move <;> simp [hpoint, hover]
  case h_14 hpoint =>
    cases h
    apply CallEffect.move <;> simp [hpoint]
  case h_15 error hpoint =>
    cases h
    apply CallEffect.move <;> simp [hpoint]
  case h_16 hpoint =>
    cases h
    apply CallEffect.of_move <;> split <;> simp [hpoint]
  case h_17 call hpoint =>
    cases h
    apply CallEffect.move <;> simp [hpoint]
  case h_18 => cases h

section Handles

/-- The handle is with a call or with a bulk worker. -/
def Holds (s : UsbManager) (handle : Nat) : Prop :=
  (∃ thread, (s.calls thread).handle = some handle) ∨
    ∃ worker, s.workers handle = some worker ∧ worker.isLive = true

structure Accounted (s : UsbManager) : Prop where
  custody : Custody s.opened s.closed s.Holds
  fresh : ∀ thread handle, (s.calls thread).handle = some handle → s.workers handle = none
  unique : ∀ i j handle, (s.calls i).handle = some handle → (s.calls j).handle = some handle → i = j
  opened : ∀ handle, s.workers handle ≠ none → handle ∈ s.opened

theorem accounted_initial : Accounted initial where
  custody := .nil (by simp [Holds, initial])
  fresh := by simp [initial]
  unique := by simp [initial]
  opened := by simp [initial]

/-- The calls keep their handles, and the workers too. -/
theorem Accounted.keep (h : s.Accounted) (hcalls : ∀ i, (t.calls i).handle = (s.calls i).handle)
    (hworkers : ∀ session, (t.workers session).map BulkThread.isLive =
      (s.workers session).map BulkThread.isLive)
    (hopened : t.opened = s.opened) (hclosed : t.closed = s.closed) : t.Accounted := by
  have hnone : ∀ session, t.workers session = none ↔ s.workers session = none := by
    intro session
    have hsame := hworkers session
    rw [← Option.map_eq_none_iff (f := BulkThread.isLive), hsame, Option.map_eq_none_iff]
  have hlive : ∀ session, (∃ worker, t.workers session = some worker ∧ worker.isLive = true) ↔
      ∃ worker, s.workers session = some worker ∧ worker.isLive = true := by
    intro session
    have hsame := hworkers session
    rw [← Option.map_eq_some_iff, hsame, Option.map_eq_some_iff]
  constructor
  · rw [hopened, hclosed]
    apply h.custody.congr
    intro handle
    simp only [Holds, hcalls, hlive]
  · intro thread handle hhandle
    rw [hnone]
    exact h.fresh thread handle (hcalls thread ▸ hhandle)
  · intro i j handle hi hj
    exact h.unique i j handle (hcalls i ▸ hi) (hcalls j ▸ hj)
  · intro handle hworker
    rw [hopened]
    exact h.opened handle fun hnone' => hworker ((hnone handle).mpr hnone')

theorem handle_update {point : UsbCallPoint} (hhandle : point.handle = (s.calls thread).handle) (i : Nat) :
    (Function.update s.calls thread point i).handle = (s.calls i).handle := by
  by_cases hi : i = thread
  · rw [hi, Function.update_self, hhandle]
  · rw [Function.update_of_ne hi]

theorem Accounted.open (h : s.Accounted) {cancellable : Bool} {handle : Nat}
    (hpoint : s.calls thread = .opening cancellable) (hfresh : handle ∉ s.opened) :
    Accounted
      ({ s with opened := s.opened ++ [handle] }.moveTo thread (.opened cancellable handle)) := by
  have hother : ∀ i, (s.calls i).handle ≠ some handle :=
    fun i hi => hfresh (h.custody.acquired_of_held handle (.inl ⟨i, hi⟩))
  have hcalls : ∀ i found, (Function.update s.calls thread (.opened cancellable handle) i).handle =
      some found ↔ (s.calls i).handle = some found ∨ i = thread ∧ found = handle := by
    intro i found
    by_cases hi : i = thread
    · simp [hi, hpoint, eq_comm]
    · simp [hi]
  constructor
  · apply h.custody.acquire hfresh
    intro found
    simp only [Holds, moveTo, hcalls]
    constructor
    · rintro (⟨i, hi | ⟨-, rfl⟩⟩ | hworker)
      · exact .inl (.inl ⟨i, hi⟩)
      · exact .inr rfl
      · exact .inl (.inr hworker)
    · rintro ((⟨i, hi⟩ | hworker) | rfl)
      · exact .inl ⟨i, .inl hi⟩
      · exact .inr hworker
      · exact .inl ⟨thread, .inr ⟨rfl, rfl⟩⟩
  · intro i found hfound
    rcases (hcalls i found).mp hfound with hold | ⟨-, rfl⟩
    · exact h.fresh i found hold
    · by_contra hworker
      exact hfresh (h.opened found hworker)
  · intro i j found hi hj
    rcases (hcalls i found).mp hi with hold | ⟨rfl, rfl⟩
    · rcases (hcalls j found).mp hj with hold' | ⟨-, rfl⟩
      · exact h.unique i j found hold hold'
      · exact absurd hold (hother i)
    · rcases (hcalls j found).mp hj with hold' | ⟨rfl, -⟩
      · exact absurd hold' (hother j)
      · rfl
  · intro found hworker
    exact List.mem_append_left _ (h.opened found hworker)

/-- A call that lets its handle go. -/
theorem Accounted.handle_released (h : s.Accounted) (point : UsbCallPoint) {handle : Nat}
    (hhandle : (s.calls thread).handle = some handle) (hnone : point.handle = none) (i found : Nat) :
    (Function.update s.calls thread point i).handle = some found ↔
      (s.calls i).handle = some found ∧ found ≠ handle := by
  by_cases hi : i = thread
  · subst hi
    simp only [Function.update_self, hnone, reduceCtorEq, hhandle, Option.some.injEq, false_iff, not_and,
      not_not]
    exact Eq.symm
  · rw [Function.update_of_ne hi]
    constructor
    · intro hfound
      refine ⟨hfound, ?_⟩
      rintro rfl
      exact hi (h.unique i thread found hfound hhandle)
    · exact And.left

theorem Accounted.drop (h : s.Accounted) {handle : Nat} {point : UsbCallPoint}
    (hhandle : (s.calls thread).handle = some handle) (hnone : point.handle = none) :
    Accounted ((s.drop handle).moveTo thread point) := by
  have hcalls := h.handle_released point hhandle hnone
  constructor
  · apply h.custody.dispose (.inl ⟨thread, hhandle⟩)
    intro found
    simp only [Holds, moveTo, UsbManager.drop, hcalls]
    constructor
    · rintro (⟨i, hi, hne⟩ | ⟨worker, hworker, hlive⟩)
      · exact ⟨.inl ⟨i, hi⟩, hne⟩
      · refine ⟨.inr ⟨worker, hworker, hlive⟩, ?_⟩
        rintro rfl
        rw [h.fresh thread found hhandle] at hworker
        cases hworker
    · rintro ⟨⟨i, hi⟩ | hworker, hne⟩
      · exact .inl ⟨i, hi, hne⟩
      · exact .inr hworker
  · exact fun i found hfound => h.fresh i found ((hcalls i found).mp hfound).1
  · exact fun i j found hi hj => h.unique i j found ((hcalls i found).mp hi).1 ((hcalls j found).mp hj).1
  · exact h.opened

theorem Accounted.spawn (h : s.Accounted) {cancellable : Bool} {handle : Nat}
    (hpoint : s.calls thread = .spawning cancellable handle) :
    Accounted ({ s with workers := Function.update s.workers handle (some ⟨false, .pumping⟩) }.moveTo
      thread (.started cancellable handle)) := by
  have hhandle : (s.calls thread).handle = some handle := by simp [hpoint]
  have hcalls := h.handle_released (.started cancellable handle) hhandle rfl
  have hworkers : ∀ found, found ≠ handle →
      Function.update s.workers handle (some ⟨false, .pumping⟩) found = s.workers found :=
    fun found hne => Function.update_of_ne hne _ _
  constructor
  · apply h.custody.congr
    intro found
    simp only [Holds, moveTo, hcalls]
    by_cases hne : found = handle
    · subst hne
      have hheld : ∃ i, (s.calls i).handle = some found := ⟨thread, hhandle⟩
      simp [BulkThread.isLive, hheld, -UsbCallPoint.handle]
    · simp [hne, -UsbCallPoint.handle]
  · intro i found hfound
    obtain ⟨hold, hne⟩ := (hcalls i found).mp hfound
    simpa [moveTo, hworkers found hne] using h.fresh i found hold
  · exact fun i j found hi hj => h.unique i j found ((hcalls i found).mp hi).1 ((hcalls j found).mp hj).1
  · intro found hworker
    by_cases hne : found = handle
    · exact hne ▸ h.custody.acquired_of_held handle (.inl ⟨thread, hhandle⟩)
    · exact h.opened found (by simpa [moveTo, hworkers found hne] using hworker)

theorem CallEffect.accounted (heffect : CallEffect s thread t) (h : s.Accounted) : t.Accounted := by
  cases heffect with
  | move point status hhandle => exact h.keep (handle_update hhandle) (fun _ => rfl) rfl rfl
  | take call session hpoint =>
    exact h.keep (handle_update (by simp [hpoint])) (fun _ => rfl) rfl rfl
  | cancel session point _ hhandle =>
    refine h.keep (handle_update hhandle) (fun other => ?_) rfl rfl
    simp only [moveTo, cancelWorker]
    by_cases hother : other = session
    · subst hother
      cases s.workers other <;> simp [BulkThread.isLive]
    · rw [Function.update_of_ne hother]
  | «open» cancellable handle hpoint hfresh => exact h.open hpoint hfresh
  | drop handle point hhandle hnone => exact h.drop hhandle hnone
  | spawn cancellable handle hpoint => exact h.spawn hpoint
  | install session hpoint =>
    exact h.keep (handle_update (by simp [hpoint])) (fun _ => rfl) rfl rfl

/-- The worker drops its handle at its end. -/
theorem Accounted.finish (h : s.Accounted) {session : Nat} {worker ended : BulkThread}
    (hworker : s.workers session = some worker) (hlive : worker.isLive = true)
    (hended : ended.isLive = false) (status : UsbLinkStatus) :
    Accounted { s.drop session with
      status, workers := Function.update s.workers session (some ended) } := by
  have hcalls : ∀ i, (s.calls i).handle ≠ some session := by
    intro i hi
    have hnone := h.fresh i session hi
    rw [hworker] at hnone
    cases hnone
  constructor
  · apply h.custody.dispose (.inr ⟨worker, hworker, hlive⟩)
    intro found
    simp only [Holds, UsbManager.drop]
    by_cases hne : found = session
    · subst hne
      simp [hcalls, hended, -UsbCallPoint.handle]
    · simp [hne]
  · intro i found hfound
    have hne : found ≠ session := by
      rintro rfl
      exact hcalls i hfound
    simpa [hne] using h.fresh i found hfound
  · exact h.unique
  · intro found hfound
    by_cases hne : found = session
    · exact hne ▸ h.opened session (by simp [hworker])
    · exact h.opened found (by simpa [hne] using hfound)

end Handles

section Workers

/-- A preparation begins only when no other one is in progress. -/
def Separate (s : UsbManager) : UsbManagerStep → Prop
  | .call _ (.prepare _) => ∀ thread, (s.calls thread).isPreparing = false
  | _ => True

def isPreparation : UsbManagerStep → Bool
  | .call _ (.prepare _) => true
  | _ => false

theorem separate_of_other {step : UsbManagerStep} (h : isPreparation step = false) : s.Separate step := by
  cases step with
  | call thread call => cases call <;> trivial
  | _ => trivial

structure Owned (s : UsbManager) : Prop where
  live : ∀ session worker, s.workers session = some worker → worker.isLive = true →
    s.session = some session ∨ ∃ thread, (s.calls thread).owns = some session
  vacant : ∀ thread, (s.calls thread).fills = true → s.session = none
  preparing : ∀ i j, (s.calls i).isPreparing = true → (s.calls j).isPreparing = true → i = j

theorem owned_initial : Owned initial where
  live := by simp [initial]
  vacant := by simp [initial]
  preparing := by simp [initial]

/-- One step of a call. A session goes between the slot and the call, and a call gives up a session only when
its worker is over. -/
theorem Owned.step (h : s.Owned) {point : UsbCallPoint}
    (hcalls : t.calls = Function.update s.calls thread point)
    (hlive : ∀ session worker, t.workers session = some worker → worker.isLive = true →
      (∃ before, s.workers session = some before ∧ before.isLive = true) ∨ point.owns = some session)
    (hslot : ∀ session, s.session = some session →
      t.session = some session ∨ point.owns = some session)
    (howns : ∀ session, (s.calls thread).owns = some session →
      point.owns = some session ∨ t.session = some session ∨ s.IsOver session)
    (hfills : point.fills = true → t.session = none)
    (hvacant : s.session = none →
      t.session = none ∨ (s.calls thread).isPreparing = true ∧ point.fills = false)
    (hpreparing : point.isPreparing = true → (s.calls thread).isPreparing = true) : t.Owned where
  live session worker hworker hworkerLive := by
    have hself : point.owns = some session → ∃ i, (t.calls i).owns = some session :=
      fun hpoint => ⟨thread, by rw [hcalls, Function.update_self, hpoint]⟩
    rcases hlive session worker hworker hworkerLive with ⟨before, hbefore, hbeforeLive⟩ | hpoint
    · rcases h.live session before hbefore hbeforeLive with hold | ⟨i, hi⟩
      · exact (hslot session hold).imp_right hself
      · by_cases hthread : i = thread
        · rcases howns session (hthread ▸ hi) with hpoint | hinstalled | hover
          · exact .inr (hself hpoint)
          · exact .inl hinstalled
          · exact absurd hbeforeLive (by simp [hover before hbefore])
        · exact .inr ⟨i, by rw [hcalls, Function.update_of_ne hthread, hi]⟩
    · exact .inr (hself hpoint)
  vacant i hi := by
    rw [hcalls] at hi
    by_cases hthread : i = thread
    · exact hfills (by simpa only [hthread, Function.update_self] using hi)
    · rw [Function.update_of_ne hthread] at hi
      refine (hvacant (h.vacant i hi)).resolve_right fun hown => hthread ?_
      exact h.preparing i thread (UsbCallPoint.isPreparing_of_fills hi) hown.1
  preparing i j hi hj := by
    have hold : ∀ k, (t.calls k).isPreparing = true → (s.calls k).isPreparing = true := by
      intro k hk
      rw [hcalls] at hk
      by_cases hthread : k = thread
      · rw [hthread, Function.update_self] at hk
        exact hthread ▸ hpreparing hk
      · rwa [Function.update_of_ne hthread] at hk
    exact h.preparing i j (hold i hi) (hold j hj)

theorem CallEffect.owned (heffect : CallEffect s thread t) (h : s.Owned) : t.Owned := by
  have hvacant := h.vacant thread
  cases heffect with
  | move point status _ howns hfills hpreparing =>
    refine h.step rfl (fun session worker hworker hlive => .inl ⟨worker, hworker, hlive⟩)
      (fun session => .inl) (fun session hsession => (howns session hsession).imp_right .inr) ?_ .inl
      hpreparing
    intro hpoint
    exact (hfills hpoint).elim hvacant id
  | take call session hpoint hsession =>
    refine h.step rfl (fun session worker hworker hlive => .inl ⟨worker, hworker, hlive⟩) ?_ ?_
      (fun _ => rfl) (fun _ => .inl rfl) ?_
    · intro other hother
      rw [hsession] at hother
      exact .inr hother
    · simp [hpoint]
    · cases call <;> simp [hpoint]
  | cancel session point howns _ hkeeps hfills hpreparing =>
    refine h.step rfl ?_ (fun other => .inl) (fun other hother => .inl ?_)
      (fun hpoint => hvacant (hfills hpoint)) .inl hpreparing
    · intro other worker hworker hlive
      left
      by_cases hother : other = session
      · subst hother
        simp only [moveTo, cancelWorker, Function.update_self, Option.map_eq_some_iff] at hworker
        obtain ⟨before, hbefore, rfl⟩ := hworker
        exact ⟨before, hbefore, hlive⟩
      · exact ⟨worker, by simpa [moveTo, cancelWorker, hother] using hworker, hlive⟩
    · rw [hkeeps, ← howns, hother]
  | «open» cancellable handle hpoint =>
    have hempty := hvacant (by simp [hpoint])
    exact h.step rfl (fun session worker hworker hlive => .inl ⟨worker, hworker, hlive⟩)
      (fun session => .inl) (by simp [hpoint]) (fun _ => hempty) .inl (by simp [hpoint])
  | drop handle point _ _ howns hfills hpreparing =>
    exact h.step rfl (fun session worker hworker hlive => .inl ⟨worker, hworker, hlive⟩)
      (fun session => .inl) (fun session hsession => by rw [howns] at hsession; cases hsession)
      (fun hpoint => by rw [hfills] at hpoint; cases hpoint) .inl (fun _ => hpreparing)
  | spawn cancellable handle hpoint =>
    have hempty := hvacant (by simp [hpoint])
    refine h.step rfl ?_ (fun session => .inl) (by simp [hpoint]) (fun _ => hempty) .inl
      (by simp [hpoint])
    intro session worker hworker hlive
    by_cases hsession : session = handle
    · simp [hsession]
    · exact .inl ⟨worker, by simpa [moveTo, hsession] using hworker, hlive⟩
  | install session hpoint =>
    have hempty := hvacant (by simp [hpoint])
    refine h.step rfl (fun session worker hworker hlive => .inl ⟨worker, hworker, hlive⟩)
      (by simp [hempty]) ?_ (by simp) (fun _ => .inr (by simp [hpoint])) (by simp)
    intro other hother
    have hsame : session = other := by simpa [hpoint] using hother
    exact .inr (.inl (by rw [hsame, moveTo]))

/-- A worker that changes without coming to life. -/
theorem Owned.setWorkers (h : s.Owned) {session : Nat} {before after : BulkThread}
    (hbefore : s.workers session = some before) (hlive : before.isLive = true) (hsession : t.session = s.session)
    (hcalls : t.calls = s.calls) (hworkers : t.workers = Function.update s.workers session (some after)) :
    t.Owned where
  live other worker hworker hworkerLive := by
    rw [hsession, hcalls]
    by_cases hother : other = session
    · exact hother ▸ h.live session before hbefore hlive
    · rw [hworkers, Function.update_of_ne hother] at hworker
      exact h.live other worker hworker hworkerLive
  vacant := by simpa only [hsession, hcalls] using h.vacant
  preparing := by simpa only [hcalls] using h.preparing

end Workers

section Runs

theorem firstPoint_handle (call : UsbCall) : (firstPoint call).handle = none := by
  cases call <;> rfl

theorem calls_of_call {call : UsbCall} (h : s.next (.call thread call) = some t) :
    (∃ result, s.calls thread = .returned result) ∧ t = s.moveTo thread (firstPoint call) := by
  simp only [next] at h
  split at h
  · rename_i result hreturned
    cases h
    exact ⟨⟨result, hreturned⟩, rfl⟩
  · cases h

/-- What a step of a worker can be. -/
theorem worker_cases {step : UsbManagerStep} (h : s.next step = some t) :
    (∃ thread call, step = .call thread call) ∨ (∃ thread input, step = .advance thread input) ∨
    (∃ counters, t = s.setStatus { s.status with counters }) ∨
    (∃ session cancelled result release, s.workers session = some ⟨cancelled, .pumping⟩ ∧
      t = { s with
        workers := Function.update s.workers session (some ⟨cancelled, .released result release⟩) }) ∨
    (∃ session cancelled result release, s.workers session = some ⟨cancelled, .released result release⟩ ∧
      t = { s.drop session with
        status := BulkThread.settle ⟨cancelled, .released result release⟩ result release s.status
        workers := Function.update s.workers session (some ⟨cancelled, .finished⟩) }) ∨
    ∃ session cancelled, step = .panics session ∧ s.workers session = some ⟨cancelled, .pumping⟩ ∧
      t = { s.drop session with
        workers := Function.update s.workers session (some ⟨cancelled, .panicked⟩) } := by
  cases step with
  | call thread call => exact .inl ⟨thread, call, rfl⟩
  | advance thread input => exact .inr (.inl ⟨thread, input, rfl⟩)
  | count session counters =>
    simp only [next] at h
    split at h <;> cases h
    exact .inr (.inr (.inl ⟨counters, rfl⟩))
  | pumpEnds session result release =>
    simp only [next] at h
    split at h <;> cases h
    rename_i cancelled hworker
    exact .inr (.inr (.inr (.inl ⟨session, cancelled, result, release, hworker, rfl⟩)))
  | settles session =>
    simp only [next] at h
    split at h <;> cases h
    rename_i cancelled result release hworker
    exact .inr (.inr (.inr (.inr (.inl ⟨session, cancelled, result, release, hworker, rfl⟩))))
  | panics session =>
    simp only [next] at h
    split at h <;> cases h
    rename_i cancelled hworker
    exact .inr (.inr (.inr (.inr (.inr ⟨session, cancelled, rfl, hworker, rfl⟩))))

theorem Accounted.next (h : s.Accounted) {step : UsbManagerStep} (hstep : s.next step = some t) :
    t.Accounted := by
  rcases worker_cases hstep with ⟨thread, call, rfl⟩ | ⟨thread, input, rfl⟩ | ⟨counters, rfl⟩ |
      ⟨session, cancelled, result, release, hworker, rfl⟩ |
      ⟨session, cancelled, result, release, hworker, rfl⟩ | ⟨session, cancelled, -, hworker, rfl⟩
  · obtain ⟨⟨result, hreturned⟩, rfl⟩ := calls_of_call hstep
    refine h.keep (handle_update ?_) (fun _ => rfl) rfl rfl
    rw [firstPoint_handle, hreturned]
    rfl
  · exact (advance_effect hstep).accounted h
  · exact h.keep (fun _ => rfl) (fun _ => rfl) rfl rfl
  · refine h.keep (fun _ => rfl) (fun other => ?_) rfl rfl
    by_cases hother : other = session
    · subst hother
      simp [hworker, BulkThread.isLive]
    · simp [hother]
  · exact h.finish hworker rfl rfl _
  · exact h.finish hworker rfl rfl _

theorem moveTo_calls (point : UsbCallPoint) (i : Nat) :
    (s.moveTo thread point).calls i = Function.update s.calls thread point i := rfl

theorem Owned.call (h : s.Owned) {call : UsbCall} (hseparate : s.Separate (.call thread call))
    {result : Except String Unit} (hreturned : s.calls thread = .returned result) :
    Owned (s.moveTo thread (firstPoint call)) where
  live session worker hworker hlive := by
    refine (h.live session worker hworker hlive).imp_right ?_
    rintro ⟨i, hi⟩
    have hthread : i ≠ thread := by
      rintro rfl
      simp [hreturned] at hi
    exact ⟨i, by rw [moveTo_calls, Function.update_of_ne hthread, hi]⟩
  vacant i hi := by
    rw [moveTo_calls] at hi
    by_cases hthread : i = thread
    · rw [hthread, Function.update_self] at hi
      cases call <;> simp [firstPoint] at hi
    · exact h.vacant i (by rwa [Function.update_of_ne hthread] at hi)
  preparing i j hi hj := by
    rw [moveTo_calls] at hi hj
    cases hpoint : (firstPoint call).isPreparing with
    | true =>
      have hquiet : ∀ k, (s.calls k).isPreparing = false := by
        cases call with
        | prepare cancellable => exact hseparate
        | disconnect | closeRuntimeSession => cases hpoint
      have hself : ∀ k, (Function.update s.calls thread (firstPoint call) k).isPreparing = true →
          k = thread := by
        intro k hk
        by_contra hthread
        rw [Function.update_of_ne hthread, hquiet k] at hk
        cases hk
      rw [hself i hi, hself j hj]
    | false =>
      have hold : ∀ k, (Function.update s.calls thread (firstPoint call) k).isPreparing = true →
          (s.calls k).isPreparing = true := by
        intro k hk
        by_cases hthread : k = thread
        · rw [hthread, Function.update_self, hpoint] at hk
          cases hk
        · rwa [Function.update_of_ne hthread] at hk
      exact h.preparing i j (hold i hi) (hold j hj)

theorem Owned.next (h : s.Owned) {step : UsbManagerStep} (hseparate : s.Separate step)
    (hstep : s.next step = some t) : t.Owned := by
  rcases worker_cases hstep with ⟨thread, call, rfl⟩ | ⟨thread, input, rfl⟩ | ⟨counters, rfl⟩ |
      ⟨session, cancelled, result, release, hworker, rfl⟩ |
      ⟨session, cancelled, result, release, hworker, rfl⟩ | ⟨session, cancelled, -, hworker, rfl⟩
  · obtain ⟨⟨result, hreturned⟩, rfl⟩ := calls_of_call hstep
    exact h.call hseparate hreturned
  · exact (advance_effect hstep).owned h
  · exact ⟨h.live, h.vacant, h.preparing⟩
  · exact h.setWorkers hworker rfl rfl rfl rfl
  · exact h.setWorkers hworker rfl rfl rfl rfl
  · exact h.setWorkers hworker rfl rfl rfl rfl

theorem inv_run {steps : List UsbManagerStep} (hrun : machine.run initial steps = some s)
    (hseparate : machine.Admits Separate initial steps) : s.Accounted ∧ s.Owned := by
  refine machine.run_invariant_of_admits Separate (fun s => s.Accounted ∧ s.Owned) ?_
    ⟨accounted_initial, owned_initial⟩ hseparate hrun
  intro s step t h hguard hstep
  exact ⟨h.1.next hstep, h.2.next hguard hstep⟩

/-- Every opened handle is with a call or a bulk worker or was dropped, once. While preparations do not run
into one another, a worker that has its handle is in the slot or with a call; so when all calls have returned,
only the session in the slot has one, and with an empty slot everything that was opened is closed. -/
theorem bulk_sessions_kept {steps : List UsbManagerStep} (hrun : machine.run initial steps = some s)
    (hseparate : machine.Admits Separate initial steps) :
    Custody s.opened s.closed s.Holds ∧
    (∀ session worker, s.workers session = some worker → worker.isLive = true →
      s.session = some session ∨ ∃ thread, (s.calls thread).owns = some session) ∧
    ((∀ thread, ∃ result, s.calls thread = .returned result) →
      (∀ handle, s.Holds handle → s.session = some handle) ∧
      (s.session = none → s.opened.Perm s.closed)) := by
  obtain ⟨haccounted, howned⟩ := inv_run hrun hseparate
  refine ⟨haccounted.custody, howned.live, fun hreturned => ?_⟩
  have hslot : ∀ handle, s.Holds handle → s.session = some handle := by
    rintro handle (⟨thread, hhandle⟩ | ⟨worker, hworker, hlive⟩)
    · obtain ⟨result, hresult⟩ := hreturned thread
      simp [hresult] at hhandle
    · refine (howned.live handle worker hworker hlive).resolve_right ?_
      rintro ⟨thread, howns⟩
      obtain ⟨result, hresult⟩ := hreturned thread
      simp [hresult] at howns
  refine ⟨hslot, fun hnone => haccounted.custody.perm_of_none fun handle hheld => ?_⟩
  have hsession := hslot handle hheld
  rw [hnone] at hsession
  cases hsession

def advances (thread count : Nat) (input : UsbCallInput) : List UsbManagerStep :=
  List.replicate count (.advance thread input)

/-- Behind the call of `prepare`: the session is opened and installed, its link fails, and the user
disconnects it from another thread. -/
def preparedThenDisconnected : List UsbManagerStep :=
  advances 0 9 ⟨false, .ok 7, .ok ()⟩ ++ [.pumpEnds 7 (.error "unplugged") (.ok ()), .call 1 .disconnect] ++
    advances 1 2 ⟨false, .ok 0, .ok ()⟩ ++ [.settles 7] ++ advances 1 3 ⟨false, .ok 0, .ok ()⟩

theorem bulk_sessions_kept_disconnected :
    ∃ s, machine.run initial (.call 0 (.prepare false) :: preparedThenDisconnected) = some s ∧
      s.opened = [7] ∧ s.closed = [7] ∧ Custody s.opened s.closed s.Holds ∧
      (∀ session worker, s.workers session = some worker → worker.isLive = true →
        s.session = some session ∨ ∃ thread, (s.calls thread).owns = some session) ∧
      ((∀ thread, ∃ result, s.calls thread = .returned result) →
        (∀ handle, s.Holds handle → s.session = some handle) ∧
        (s.session = none → s.opened.Perm s.closed)) :=
  ⟨_, rfl, rfl, rfl, @bulk_sessions_kept _ (.call 0 (.prepare false) :: preparedThenDisconnected) rfl
    ⟨fun _ => rfl, machine.admits_of_mem (fun step hstep _ => separate_of_other
      ((by decide : ∀ step ∈ preparedThenDisconnected, isPreparation step = false) step hstep)) _⟩⟩

/-- Two preparations at once: the session of the first is lost from the slot with its worker running. -/
example : ∃ s, machine.run initial
    ([.call 0 (.prepare false)] ++ advances 0 8 ⟨false, .ok 7, .ok ()⟩ ++ [.call 1 (.prepare false)] ++
      advances 1 9 ⟨false, .ok 8, .ok ()⟩ ++ advances 0 1 ⟨false, .ok 0, .ok ()⟩) = some s ∧
    s.session = some 7 ∧ s.workers 8 = some ⟨false, .pumping⟩ := ⟨_, rfl, rfl, rfl⟩

end Runs

end UsbManager

end LadoFlow.Host
