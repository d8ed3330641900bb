import LadoFlow.Android.AccessoryTransportLaw
import LadoFlow.Android.TetherTransport

/-!
# One wired transport at a time

`AndroidWiredDisplayTransport` selects the accessory transport or the tether transport. Both are lifecycle
observers, the accessory transport also receives intents and broadcasts directly, and a call that goes to the
tether transport takes several steps of the main thread.
-/

namespace LadoFlow.Android

open Framework

inductive WiredTransportMode where
  | accessory
  | usbTether
  deriving DecidableEq

/-- `active` names the transport that it refers to; `switching` is the rest of `useUsbAccessory` behind the
disconnection of the tether transport. -/
structure WiredTransport where
  closed : Bool
  mode : WiredTransportMode
  active : WiredTransportMode
  accessory : AccessoryTransport
  tether : TetherTransport
  switching : Option UsbManagerView

/-- The steps that reach the accessory transport past the selection. -/
def AccessoryStep.isDirect : AccessoryStep → Bool
  | retry _ | disconnect | close => false
  | _ => true

/-- The steps that run on the main thread. -/
def AccessoryStep.isMain : AccessoryStep → Bool
  | openReturned .. | sessionFails .. => false
  | _ => true

def TetherStep.isDirect : TetherStep → Bool
  | call .startPairing | call .disconnect | call .close => false
  | _ => true

/-- A main-thread step that is not a part of the running operation. -/
def TetherStep.isMain : TetherStep → Bool
  | main | listener .. => false
  | _ => true

inductive WiredStep where
  | accessory (step : AccessoryStep)
  | tether (step : TetherStep)
  | startUsbTetherPairing
  | stopUsbTetherPairing
  | useUsbAccessory (usbManager : UsbManagerView)
  | switch
  | retry (usbManager : UsbManagerView)
  | disconnect
  | close

namespace WiredTransport

def initial : WiredTransport where
  closed := false
  mode := .accessory
  active := .accessory
  accessory := .initial
  tether := .initial
  switching := none

section Operations

variable (config : AccessoryConfig) (s : WiredTransport)

/-- The main thread has no operation in progress. -/
def isIdle : Bool := s.tether.main.isEmpty && s.switching.isNone

/-- The state that the display session collects. -/
def state : UsbTransportState :=
  match s.active with
  | .accessory => s.accessory.state.view
  | .usbTether => s.tether.state

def startUsbTetherPairing : WiredTransport :=
  if s.closed then s
  else
    { s with
      mode := .usbTether
      active := .usbTether
      accessory := s.accessory.disconnect
      tether := s.tether.call .startPairing }

def stopUsbTetherPairing : WiredTransport :=
  if s.closed || s.mode ≠ .usbTether then s
  else { s with tether := s.tether.call .disconnect }

def useUsbAccessory (usbManager : UsbManagerView) : WiredTransport :=
  if s.closed then s
  else { s with tether := s.tether.call .disconnect, switching := some usbManager }

/-- The tether transport is disconnected; the accessory transport becomes the active one. -/
def switchNext : Option WiredTransport :=
  match s.switching with
  | none => none
  | some usbManager =>
    if s.tether.main.isEmpty then
      some
        { s with
          mode := .accessory
          active := .accessory
          accessory := s.accessory.retry config usbManager
          switching := none }
    else none

def retry (usbManager : UsbManagerView) : WiredTransport :=
  match s.active with
  | .accessory => { s with accessory := s.accessory.retry config usbManager }
  | .usbTether => { s with tether := s.tether.call .startPairing }

def disconnect : WiredTransport :=
  match s.active with
  | .accessory => { s with accessory := s.accessory.disconnect }
  | .usbTether => { s with tether := s.tether.call .disconnect }

def close : WiredTransport :=
  if s.closed then s
  else { s with closed := true, accessory := s.accessory.close, tether := s.tether.call .close }

def accessoryNext (step : AccessoryStep) : Option WiredTransport :=
  if step.isDirect && (s.isIdle || !step.isMain) then
    (s.accessory.next config step).map fun accessory => { s with accessory }
  else none

def tetherNext (step : TetherStep) : Option WiredTransport :=
  if step.isDirect && (s.switching.isNone || !step.isMain) then
    (s.tether.next step).map fun tether => { s with tether }
  else none

def next : WiredStep → Option WiredTransport
  | .accessory step => s.accessoryNext config step
  | .tether step => s.tetherNext step
  | .switch => s.switchNext config
  | .startUsbTetherPairing => if s.isIdle then some s.startUsbTetherPairing else none
  | .stopUsbTetherPairing => if s.isIdle then some s.stopUsbTetherPairing else none
  | .useUsbAccessory usbManager => if s.isIdle then some (s.useUsbAccessory usbManager) else none
  | .retry usbManager => if s.isIdle then some (s.retry config usbManager) else none
  | .disconnect => if s.isIdle then some s.disconnect else none
  | .close => if s.isIdle then some s.close else none

end Operations

def machine (config : AccessoryConfig) : Machine WiredTransport WiredStep where
  step := next config

end WiredTransport

namespace AccessoryTransport

section Paused

variable (config : AccessoryConfig) (usbManager : UsbManagerView) (s : AccessoryTransport)

@[simp] theorem closeActiveSession_userPaused : s.closeActiveSession.userPaused = s.userPaused := by
  obtain ⟨sessions, closures, hframe⟩ := s.closeActiveSession_frame
  rw [hframe]

@[simp] theorem cancelOpenJob_userPaused : s.cancelOpenJob.userPaused = s.userPaused := by
  obtain ⟨jobs, hframe⟩ := s.cancelOpenJob_frame
  rw [hframe]

@[simp] theorem stopWork_userPaused : s.stopWork.userPaused = s.userPaused := by
  simp [stopWork, cancelConnectionWork]

@[simp] theorem maybeOpenAccessory_userPaused (accessory : UsbAccessory) :
    (s.maybeOpenAccessory usbManager accessory).userPaused = s.userPaused := by
  rw [maybeOpenAccessory]
  split
  · rfl
  split
  · rfl
  rw [launchOpen]
  split <;> simp

@[simp] theorem requestPermission_userPaused (accessory : UsbAccessory) :
    (s.requestPermission usbManager accessory).userPaused = s.userPaused := by
  rw [requestPermission]
  split
  · rfl
  split <;> rfl

@[simp] theorem openOrRequest_userPaused (accessory : UsbAccessory) :
    (s.openOrRequest usbManager accessory).userPaused = s.userPaused := by
  rw [openOrRequest]
  split <;> simp

@[simp] theorem handleAttachedAccessory_userPaused (accessory : UsbAccessory) :
    (s.handleAttachedAccessory usbManager accessory).userPaused = s.userPaused := by
  rw [handleAttachedAccessory]
  split
  · rfl
  split <;> simp

@[simp] theorem scanAttachedAccessories_userPaused :
    (s.scanAttachedAccessories config usbManager).userPaused = s.userPaused := by
  rw [scanAttachedAccessories]
  split
  · rfl
  split <;> simp

@[simp] theorem scheduleReconnect_userPaused (accessory : UsbAccessory) (reason : String) :
    (s.scheduleReconnect config usbManager accessory reason).userPaused = s.userPaused := by
  rw [scheduleReconnect]
  split
  · simp
  rw [retryLater]
  split
  · simp
  rw [launchReconnect]
  split <;> simp

@[simp] theorem endSession_userPaused (session : Nat) (last : UsbIoSessionState) :
    (s.endSession session last).userPaused = s.userPaused := by
  obtain ⟨sessions, closures, hframe⟩ := s.endSession_frame session last
  rw [hframe]

@[simp] theorem install_userPaused (id : Nat) (accessory : UsbAccessory) :
    (s.install id accessory).userPaused = s.userPaused :=
  closeActiveSession_userPaused s

@[simp] theorem activate_userPaused (id : Nat) (accessory : UsbAccessory)
    (earlyFailure : Option (UsbIoFailureKind × String)) :
    (s.activate config usbManager id accessory earlyFailure).userPaused = s.userPaused := by
  cases earlyFailure with
  | none => exact install_userPaused s id accessory
  | some failure => simp [activate, sessionFailed]

theorem finishOpen_userPaused (id : Nat) (job : OpenJob)
    (earlyFailure : Option (UsbIoFailureKind × String)) (result : OpenResult) :
    (s.finishOpen config usbManager id job earlyFailure result).userPaused = s.userPaused := by
  cases result with
  | notRun => rfl
  | threw message => simp [finishOpen]
  | noDescriptor =>
    rw [finishOpen]
    split <;> simp
  | connection =>
    rw [finishOpen]
    split
    · simp
    · rfl

variable {config s}

/-- Only the calls that go through the selection change what the user paused. -/
theorem next_userPaused {t : AccessoryTransport} {step : AccessoryStep}
    (hdirect : step.isDirect = true) (h : s.next config step = some t) :
    t.userPaused = s.userPaused := by
  cases step with
  | start =>
    cases h
    rw [start]
    split
    · rfl
    split <;> rfl
  | onStart usbManager =>
    cases h
    rw [onStart]
    split
    · rfl
    split
    · rfl
    · simp
  | onStop =>
    cases h
    simp [onStop]
  | handleIntent accessory usbManager =>
    cases accessory with
    | none =>
      cases h
      rfl
    | some accessory =>
      cases h
      simp
  | permissionResult accessory granted usbManager =>
    simp only [next] at h
    split at h
    · cases h
      rw [permissionResult]
      split
      · rfl
      rw [onPermissionResult]
      split
      · rfl
      split <;> simp
    · cases h
  | accessoryDetached accessory usbManager =>
    cases accessory with
    | none =>
      simp only [next, Option.ite_none_right_eq_some, Option.some.injEq] at h
      rw [h.2]
    | some accessory =>
      simp only [next, Option.ite_none_right_eq_some, Option.some.injEq] at h
      rw [← h.2, accessoryDetached]
      split
      · rfl
      · simp
  | openReturned job result =>
    simp only [next, openReturned] at h
    split at h
    · split at h
      · cases h
        rfl
      · cases h
    · cases h
  | resumeOpen job usbManager earlyFailure =>
    simp only [next, resumeOpen] at h
    split at h
    · split at h
      · cases h
        exact finishOpen_userPaused config usbManager _ job _ earlyFailure _
      · cases h
    · cases h
  | sessionFails session kind message =>
    simp only [next, Option.ite_none_right_eq_some, Option.some.injEq] at h
    rw [← h.2, endSession_userPaused]
  | collectFailure usbManager =>
    simp only [next, collectFailure] at h
    split at h
    · split at h
      · split at h
        · cases h
          simp [sessionFailed]
        · cases h
          rfl
      · cases h
    · cases h
  | reconnectFires usbManager =>
    simp only [next, reconnectFires, Option.map_eq_some_iff] at h
    obtain ⟨accessory, -, rfl⟩ := h
    simp
  | retry usbManager => cases hdirect
  | disconnect => cases hdirect
  | close => cases hdirect

end Paused

end AccessoryTransport

namespace TetherTransport

section Dormant

variable {s t : TetherTransport} {generation : Nat}

/-- Every listener belongs to a generation that has begun. -/
def Begun (s : TetherTransport) : Prop :=
  ∀ generation point, s.listener generation = some point → generation ≤ s.generation

/-- No operation in progress is going to start a listener or a session. -/
def Winding (s : TetherTransport) : Prop :=
  ∀ step ∈ s.main, step ≠ .launch ∧ ∀ generation, step ≠ .openSession generation

/-- No session, and the generation has no listener that could open one. -/
structure Dormant (s : TetherTransport) : Prop where
  winding : Winding s
  session : s.session = none
  listener : s.listener s.generation = none

/-- Dormant as soon as the new generation has begun. -/
structure Stopping (s : TetherTransport) : Prop where
  winding : Winding s
  done : .beginNewGeneration ∈ s.main ∨ s.session = none ∧ s.listener s.generation = none

theorem Stopping.dormant (h : Stopping s) (hmain : s.main.isEmpty = true) : Dormant s := by
  rw [List.isEmpty_iff] at hmain
  have hdone := h.done
  rw [hmain] at hdone
  obtain ⟨hsession, hlistener⟩ := hdone.resolve_left List.not_mem_nil
  exact ⟨h.winding, hsession, hlistener⟩

theorem Dormant.stopping (h : Dormant s) : Stopping s := ⟨h.winding, .inr ⟨h.session, h.listener⟩⟩

/-- What a step of a listener touches that a dormant transport looks at. -/
structure ListenerFrame (s : TetherTransport) (generation : Nat) (t : TetherTransport) : Prop where
  present : s.listener generation ≠ none
  others : ∀ other, other ≠ generation → t.listener other = s.listener other
  generation_eq : t.generation = s.generation
  session_eq : t.session = s.session
  main_eq : t.main = s.main

theorem moveTo_listener_other {other : Nat} (point : ListenerPoint) (h : other ≠ generation) :
    (s.moveTo generation point).listener other = s.listener other :=
  Function.update_of_ne h _ _

theorem listener_frame {input : ListenerInput} (h : s.listenerNext generation input = some t) :
    ListenerFrame s generation t := by
  have hpresent : s.listener generation ≠ none := by
    intro hnone
    simp only [listenerNext, hnone] at h
    cases h
  cases listener_effect h with
  | move point => exact ⟨hpresent, fun _ => moveTo_listener_other point, rfl, rfl, rfl⟩
  | acquire address => exact ⟨hpresent, fun _ => moveTo_listener_other _, rfl, rfl, rfl⟩
  | register address => exact ⟨hpresent, fun _ => moveTo_listener_other _, rfl, rfl, rfl⟩
  | bind address => exact ⟨hpresent, fun _ => moveTo_listener_other _, rfl, rfl, rfl⟩
  | unbind address reason => exact ⟨hpresent, fun _ => moveTo_listener_other _, rfl, rfl, rfl⟩
  | clearServer point => exact ⟨hpresent, fun _ => moveTo_listener_other point, rfl, rfl, rfl⟩
  | clearToken point => exact ⟨hpresent, fun _ => moveTo_listener_other point, rfl, rfl, rfl⟩
  | write lastFailure first rest point =>
    refine ⟨hpresent, fun _ hother => (moveTo_listener_other point hother).trans ?_, ?_, ?_, ?_⟩ <;>
      cases first <;> rfl

theorem ListenerFrame.begun (h : ListenerFrame s generation t) (hbegun : Begun s) : Begun t := by
  intro other point hpoint
  rw [h.generation_eq]
  by_cases hother : other = generation
  · subst hother
    cases hlistener : s.listener other with
    | none => exact absurd hlistener h.present
    | some before => exact hbegun other before hlistener
  · exact hbegun other point ((h.others other hother).symm.trans hpoint)

theorem ListenerFrame.dormant (h : ListenerFrame s generation t) (hdormant : Dormant s) :
    Dormant t := by
  have hother : s.generation ≠ generation := by
    rintro rfl
    exact h.present hdormant.listener
  refine ⟨?_, h.session_eq.trans hdormant.session, ?_⟩
  · rw [Winding, h.main_eq]
    exact hdormant.winding
  · rw [h.generation_eq, h.others _ hother, hdormant.listener]

/-- The next step of the running operation. -/
theorem main_frame (h : s.mainNext = some t) : ∃ step main, s.main = step :: main ∧
    t.main = main ∧ t.listener = (({ s with main } : TetherTransport).perform step).listener ∧
    t.generation = (({ s with main } : TetherTransport).perform step).generation ∧
    t.session = (({ s with main } : TetherTransport).perform step).session := by
  obtain ⟨step, main, hmain, -, heq⟩ := mainNext_eq h
  have hkept : (({ s with main } : TetherTransport).perform step).main = main := by
    cases step with
    | publish writer publication => cases publication <;> rfl
    | _ => rfl
  refine ⟨step, main, hmain, ?_⟩
  rw [heq]
  split <;> exact ⟨hkept, rfl, rfl, rfl⟩

theorem begun_main (hbegun : Begun s) (h : s.mainNext = some t) : Begun t := by
  obtain ⟨step, main, -, -, hlistener, hgeneration, -⟩ := main_frame h
  intro other point hpoint
  rw [hlistener] at hpoint
  rw [hgeneration]
  cases step with
  | beginNewGeneration => exact Nat.le_succ_of_le (hbegun other point hpoint)
  | launch =>
    by_cases hother : other = s.generation
    · exact Nat.le_of_eq hother
    · exact hbegun other point ((moveTo_listener_other _ hother).symm.trans hpoint)
  | publish writer publication => cases publication <;> exact hbegun other point hpoint
  | closeActiveSession => exact hbegun other point hpoint
  | openSession generation => exact hbegun other point hpoint
  | endSession generation => exact hbegun other point hpoint

theorem Winding.main (h : Winding s) (hstep : s.mainNext = some t) : Winding t := by
  obtain ⟨step, main, hmain, hrest, -⟩ := main_frame hstep
  intro other hother
  rw [hrest] at hother
  apply h other
  rw [hmain]
  exact List.mem_cons_of_mem step hother

/-- A step that starts nothing leaves an empty transport empty, and a new generation is empty. -/
theorem Stopping.main (h : Stopping s) (hbegun : Begun s) (hstep : s.mainNext = some t) :
    Stopping t := by
  refine ⟨h.winding.main hstep, ?_⟩
  obtain ⟨step, main, hmain, hrest, hlistener, hgeneration, hsession⟩ := main_frame hstep
  obtain ⟨hlaunch, hopen⟩ := h.winding step (hmain ▸ List.mem_cons_self)
  rw [hrest, hlistener, hgeneration, hsession]
  have hdone := h.done
  rw [hmain, List.mem_cons] at hdone
  cases step with
  | beginNewGeneration =>
    refine .inr ⟨rfl, ?_⟩
    cases hnew : s.listener (s.generation + 1) with
    | none => exact hnew
    | some point => exact absurd (hbegun _ _ hnew) (Nat.not_succ_le_self _)
  | launch => exact absurd rfl hlaunch
  | openSession generation => exact absurd rfl (hopen generation)
  | publish writer publication =>
    rcases hdone with (hfirst | hlater) | hidle
    · cases hfirst
    · exact .inl hlater
    · cases publication <;> exact .inr hidle
  | closeActiveSession =>
    rcases hdone with (hfirst | hlater) | hidle
    · cases hfirst
    · exact .inl hlater
    · exact .inr ⟨rfl, hidle.2⟩
  | endSession generation =>
    rcases hdone with (hfirst | hlater) | hidle
    · cases hfirst
    · exact .inl hlater
    · exact .inr ⟨rfl, hidle.2⟩

theorem Dormant.main (h : Dormant s) (hbegun : Begun s) (hstep : s.mainNext = some t) :
    Dormant t := by
  have hwinding := h.winding.main hstep
  obtain ⟨step, main, hmain, -, hlistener, hgeneration, hsession⟩ := main_frame hstep
  obtain ⟨hlaunch, hopen⟩ := h.winding step (hmain ▸ List.mem_cons_self)
  refine ⟨hwinding, ?_, ?_⟩
  · rw [hsession]
    cases step with
    | openSession generation => exact absurd rfl (hopen generation)
    | publish writer publication => cases publication <;> exact h.session
    | beginNewGeneration => rfl
    | launch => exact h.session
    | closeActiveSession => rfl
    | endSession generation => rfl
  · rw [hlistener, hgeneration]
    cases step with
    | openSession generation => exact absurd rfl (hopen generation)
    | launch => exact absurd rfl hlaunch
    | publish writer publication => cases publication <;> exact h.listener
    | beginNewGeneration =>
      cases hnew : s.listener (s.generation + 1) with
      | none => exact hnew
      | some point => exact absurd (hbegun _ _ hnew) (Nat.not_succ_le_self _)
    | closeActiveSession => exact h.listener
    | endSession generation => exact h.listener

theorem Begun.moved (h : Begun s) {before : ListenerPoint}
    (hbefore : s.listener generation = some before) {point : ListenerPoint}
    (hlistener : t.listener = (s.moveTo generation point).listener)
    (hgeneration : t.generation = s.generation) : Begun t := by
  intro other found hfound
  rw [hlistener] at hfound
  rw [hgeneration]
  by_cases hother : other = generation
  · exact hother ▸ h generation before hbefore
  · exact h other found ((moveTo_listener_other point hother).symm.trans hfound)

theorem handleListenerOutcome_frame (outcome : ListenerOutcome) : ∃ point,
    (s.handleListenerOutcome generation outcome).listener = (s.moveTo generation point).listener ∧
    (s.handleListenerOutcome generation outcome).generation = s.generation := by
  cases outcome with
  | unavailable reason => exact ⟨_, rfl, rfl⟩
  | failed reason => exact ⟨_, rfl, rfl⟩
  | server result =>
    cases result with
    | authenticated endpoint hostAddress =>
      rw [handleListenerOutcome]
      split <;> exact ⟨_, rfl, rfl⟩
    | expired endpoint => exact ⟨_, rfl, rfl⟩
    | lockedOut endpoint => exact ⟨_, rfl, rfl⟩
    | closed => exact ⟨_, rfl, rfl⟩
    | failed reason => exact ⟨_, rfl, rfl⟩

theorem call_frame (call : TetherCall) : (s.call call).listener = s.listener ∧
    (s.call call).generation = s.generation ∧ (s.call call).session = s.session := by
  cases call with
  | startPairing =>
    simp only [TetherTransport.call, startPairing]
    split
    · exact ⟨rfl, rfl, rfl⟩
    split <;> exact ⟨rfl, rfl, rfl⟩
  | close =>
    simp only [TetherTransport.call]
    split <;> exact ⟨rfl, rfl, rfl⟩
  | onStart => exact ⟨rfl, rfl, rfl⟩
  | onStop => exact ⟨rfl, rfl, rfl⟩
  | disconnect => exact ⟨rfl, rfl, rfl⟩

theorem Begun.call (h : Begun s) (call : TetherCall) : Begun (s.call call) := by
  obtain ⟨hlistener, hgeneration, -⟩ := call_frame (s := s) call
  intro other point hpoint
  rw [hgeneration]
  exact h other point (hlistener ▸ hpoint)

theorem winding_stop (finalState : UsbTetherPairingState) :
    ∀ step ∈ stopPairingAndSession finalState,
      step ≠ .launch ∧ ∀ generation, step ≠ .openSession generation := by
  simp [stopPairingAndSession]

theorem winding_call (h : Winding s) {call : TetherCall} (hcall : call ≠ .startPairing) :
    Winding (s.call call) := by
  cases call with
  | startPairing => exact absurd rfl hcall
  | close =>
    simp only [TetherTransport.call]
    split
    · exact h
    · exact winding_stop _
  | onStart => exact h
  | onStop => exact winding_stop _
  | disconnect => exact winding_stop _

theorem Dormant.call (h : Dormant s) {call : TetherCall} (hcall : call ≠ .startPairing) :
    Dormant (s.call call) := by
  obtain ⟨hlistener, hgeneration, hsession⟩ := call_frame (s := s) call
  refine ⟨winding_call h.winding hcall, hsession.trans h.session, ?_⟩
  rw [hlistener, hgeneration]
  exact h.listener

theorem stopping_disconnect : Stopping (s.call .disconnect) where
  winding := winding_stop _
  done := .inl List.mem_cons_self

theorem Begun.step (h : Begun s) {step : TetherStep} (hstep : s.next step = some t) : Begun t := by
  cases step with
  | call call =>
    simp only [next, Option.ite_none_right_eq_some, Option.some.injEq] at hstep
    exact hstep.2 ▸ h.call call
  | main => exact begun_main h hstep
  | listener generation input => exact (listener_frame hstep).begun h
  | outcome generation =>
    simp only [next, Option.ite_none_right_eq_some, outcomeNext] at hstep
    obtain ⟨-, hstep⟩ := hstep
    split at hstep
    · rename_i outcome hpoint
      split at hstep
      · cases hstep
        exact h.moved hpoint rfl rfl
      · cases hstep
        obtain ⟨point, hlistener, hgeneration⟩ := handleListenerOutcome_frame outcome
        exact h.moved hpoint hlistener hgeneration
    · cases hstep
  | afterYield generation =>
    simp only [next, Option.ite_none_right_eq_some, afterYieldNext] at hstep
    obtain ⟨-, hstep⟩ := hstep
    split at hstep
    · rename_i hpoint
      split at hstep
      · cases hstep
        exact h.moved hpoint rfl rfl
      · cases hstep
        exact h.moved hpoint rfl rfl
    · cases hstep
  | sessionFailed message =>
    simp only [next, Option.ite_none_right_eq_some, sessionFailedNext] at hstep
    obtain ⟨-, hstep⟩ := hstep
    split at hstep
    · cases hstep
    split at hstep <;> cases hstep <;> exact h

/-- Only `startPairing` wakes a dormant transport. -/
theorem Dormant.step (h : Dormant s) (hbegun : Begun s) {step : TetherStep}
    (hstart : step ≠ .call .startPairing) (hstep : s.next step = some t) : Dormant t := by
  have hother : ∀ {generation : Nat} {point : ListenerPoint},
      s.listener generation = some point → s.generation ≠ generation := by
    rintro generation point hpoint rfl
    rw [h.listener] at hpoint
    cases hpoint
  cases step with
  | call call =>
    simp only [next, Option.ite_none_right_eq_some, Option.some.injEq] at hstep
    exact hstep.2 ▸ h.call fun hcall => hstart (hcall ▸ rfl)
  | main => exact h.main hbegun hstep
  | listener generation input => exact (listener_frame hstep).dormant h
  | outcome generation =>
    simp only [next, Option.ite_none_right_eq_some, outcomeNext] at hstep
    obtain ⟨-, hstep⟩ := hstep
    split at hstep
    · rename_i outcome hpoint
      have hstale : s.isStale generation = true := by simp [isStale, hother hpoint]
      rw [if_pos hstale] at hstep
      cases hstep
      exact ⟨h.winding, h.session, (moveTo_listener_other _ (hother hpoint)).trans h.listener⟩
    · cases hstep
  | afterYield generation =>
    simp only [next, Option.ite_none_right_eq_some, afterYieldNext] at hstep
    obtain ⟨-, hstep⟩ := hstep
    split at hstep
    · rename_i hpoint
      rw [if_pos (.inl (hother hpoint))] at hstep
      cases hstep
      exact ⟨h.winding, h.session, (moveTo_listener_other _ (hother hpoint)).trans h.listener⟩
    · cases hstep
  | sessionFailed message =>
    simp only [next, Option.ite_none_right_eq_some, sessionFailedNext, h.session] at hstep
    obtain ⟨-, hstep⟩ := hstep
    split at hstep
    · cases hstep
    · simp only [reduceCtorEq, and_false, if_false, Option.some.injEq] at hstep
      exact hstep ▸ h

theorem Stopping.listener (h : Stopping s) (hframe : ListenerFrame s generation t) :
    Stopping t := by
  refine ⟨by rw [Winding, hframe.main_eq]; exact h.winding, ?_⟩
  rw [hframe.main_eq]
  apply h.done.imp_right
  rintro ⟨hsession, hlistener⟩
  exact ⟨(hframe.dormant ⟨h.winding, hsession, hlistener⟩).session,
    (hframe.dormant ⟨h.winding, hsession, hlistener⟩).listener⟩

theorem Stopping.step (h : Stopping s) (hbegun : Begun s) {step : TetherStep}
    (hmain : step.isMain = false) (hstep : s.next step = some t) : Stopping t := by
  cases step with
  | main => exact h.main hbegun hstep
  | listener generation input => exact h.listener (listener_frame hstep)
  | _ => cases hmain

end Dormant

end TetherTransport

namespace WiredTransport

variable {config : AccessoryConfig} {s t : WiredTransport}

/-- The transport that is not selected has nothing that could carry a session. -/
structure Exclusive (s : WiredTransport) : Prop where
  accessory : s.accessory.Inv
  tether : s.tether.Begun
  active_eq : s.active = s.mode
  paused : s.mode = .usbTether → s.accessory.userPaused = true
  dormant : s.mode = .accessory → s.tether.Dormant
  stopping : s.switching ≠ none → s.tether.Stopping

theorem exclusive_initial : Exclusive initial where
  accessory := AccessoryTransport.inv_initial
  tether := by simp [TetherTransport.Begun, initial, TetherTransport.initial]
  active_eq := rfl
  paused := by simp [initial]
  dormant _ := ⟨by simp [TetherTransport.Winding, initial, TetherTransport.initial], rfl, rfl⟩
  stopping := by simp [initial]

theorem Exclusive.idle (hidle : s.isIdle = true) : s.switching = none := by
  simp [isIdle] at hidle
  exact hidle.2

theorem Exclusive.startUsbTetherPairing (h : Exclusive s) (hidle : s.isIdle = true) :
    Exclusive s.startUsbTetherPairing := by
  rw [WiredTransport.startUsbTetherPairing]
  split
  · exact h
  · exact ⟨h.accessory.disconnect, h.tether.call .startPairing, rfl,
      fun _ => by simp [AccessoryTransport.disconnect], by simp, by simp [idle hidle]⟩

theorem Exclusive.tetherCall (h : Exclusive s) (hidle : s.isIdle = true) {call : TetherCall}
    (hcall : s.mode = .accessory → call ≠ .startPairing) :
    Exclusive { s with tether := s.tether.call call } where
  accessory := h.accessory
  tether := h.tether.call call
  active_eq := h.active_eq
  paused := h.paused
  dormant hmode := (h.dormant hmode).call (hcall hmode)
  stopping := by simp [idle hidle]

theorem Exclusive.accessoryRetry (h : Exclusive s) (hmode : s.mode = .accessory)
    (usbManager : UsbManagerView) :
    Exclusive { s with accessory := s.accessory.retry config usbManager } where
  accessory := h.accessory.retry
  tether := h.tether
  active_eq := h.active_eq
  paused hmode' := by
    rw [hmode] at hmode'
    cases hmode'
  dormant := h.dormant
  stopping := h.stopping

theorem Exclusive.accessoryDisconnect (h : Exclusive s) :
    Exclusive { s with accessory := s.accessory.disconnect } where
  accessory := h.accessory.disconnect
  tether := h.tether
  active_eq := h.active_eq
  paused _ := by simp [AccessoryTransport.disconnect]
  dormant := h.dormant
  stopping := h.stopping

theorem Exclusive.useUsbAccessory (h : Exclusive s) (usbManager : UsbManagerView) :
    Exclusive (s.useUsbAccessory usbManager) := by
  rw [WiredTransport.useUsbAccessory]
  split
  · exact h
  · exact ⟨h.accessory, h.tether.call .disconnect, h.active_eq, h.paused,
      fun hmode => (h.dormant hmode).call (by simp : TetherCall.disconnect ≠ .startPairing),
      fun _ => TetherTransport.stopping_disconnect⟩

theorem Exclusive.close (h : Exclusive s) (hidle : s.isIdle = true) : Exclusive s.close := by
  have hpaused : s.accessory.close.userPaused = s.accessory.userPaused := by
    rw [AccessoryTransport.close]
    split <;> simp
  rw [WiredTransport.close]
  split
  · exact h
  · exact ⟨h.accessory.close, h.tether.call .close, h.active_eq,
      fun hmode => hpaused.trans (h.paused hmode),
      fun hmode => (h.dormant hmode).call (by simp : TetherCall.close ≠ .startPairing),
      by simp [idle hidle]⟩

/-- The accessory transport goes on only after the tether transport's new generation has begun. -/
theorem Exclusive.switch (h : Exclusive s) (hstep : s.switchNext config = some t) :
    Exclusive t := by
  rw [switchNext] at hstep
  split at hstep
  · cases hstep
  · rename_i usbManager hswitching
    split at hstep
    · rename_i hmain
      cases hstep
      have hdormant := (h.stopping (by simp [hswitching])).dormant hmain
      exact ⟨h.accessory.retry, h.tether, rfl, by simp, fun _ => hdormant, by simp⟩
    · cases hstep

theorem Exclusive.accessoryNext (h : Exclusive s) {step : AccessoryStep}
    (hstep : s.accessoryNext config step = some t) : Exclusive t := by
  rw [WiredTransport.accessoryNext] at hstep
  split at hstep
  · rename_i hguard
    obtain ⟨accessory, hnext, rfl⟩ := Option.map_eq_some_iff.mp hstep
    have hdirect : step.isDirect = true := by
      simp only [Bool.and_eq_true] at hguard
      exact hguard.1
    refine ⟨h.accessory.step hnext, h.tether, h.active_eq, ?_, h.dormant, h.stopping⟩
    intro hmode
    exact (AccessoryTransport.next_userPaused hdirect hnext).trans (h.paused hmode)
  · cases hstep

theorem Exclusive.tetherNext (h : Exclusive s) {step : TetherStep}
    (hstep : s.tetherNext step = some t) : Exclusive t := by
  rw [WiredTransport.tetherNext] at hstep
  split at hstep
  · rename_i hguard
    obtain ⟨tether, hnext, rfl⟩ := Option.map_eq_some_iff.mp hstep
    simp only [Bool.and_eq_true, Bool.or_eq_true] at hguard
    obtain ⟨hdirect, hthread⟩ := hguard
    refine ⟨h.accessory, h.tether.step hnext, h.active_eq, h.paused, ?_, ?_⟩
    · intro hmode
      apply (h.dormant hmode).step h.tether _ hnext
      rintro rfl
      cases hdirect
    · intro hswitching
      apply (h.stopping hswitching).step h.tether _ hnext
      rcases hthread with hnone | hthread
      · exact absurd (Option.isNone_iff_eq_none.mp hnone) hswitching
      · simpa using hthread
  · cases hstep

theorem Exclusive.step (h : Exclusive s) {step : WiredStep}
    (hstep : (machine config).step s step = some t) : Exclusive t := by
  have hnext : s.next config step = some t := hstep
  cases step with
  | accessory step => exact h.accessoryNext hnext
  | tether step => exact h.tetherNext hnext
  | switch => exact h.switch hnext
  | startUsbTetherPairing =>
    simp only [next, Option.ite_none_right_eq_some, Option.some.injEq] at hnext
    exact hnext.2 ▸ h.startUsbTetherPairing hnext.1
  | stopUsbTetherPairing =>
    simp only [next, Option.ite_none_right_eq_some, Option.some.injEq] at hnext
    rw [← hnext.2, stopUsbTetherPairing]
    split
    · exact h
    · exact h.tetherCall hnext.1 (by simp)
  | useUsbAccessory usbManager =>
    simp only [next, Option.ite_none_right_eq_some, Option.some.injEq] at hnext
    exact hnext.2 ▸ h.useUsbAccessory usbManager
  | retry usbManager =>
    simp only [next, Option.ite_none_right_eq_some, Option.some.injEq] at hnext
    rw [← hnext.2, retry]
    split
    · rename_i hactive
      exact h.accessoryRetry (h.active_eq ▸ hactive) usbManager
    · rename_i hactive
      refine h.tetherCall hnext.1 fun hmode => ?_
      rw [← h.active_eq, hactive] at hmode
      cases hmode
  | disconnect =>
    simp only [next, Option.ite_none_right_eq_some, Option.some.injEq] at hnext
    rw [← hnext.2, disconnect]
    split
    · exact h.accessoryDisconnect
    · exact h.tetherCall hnext.1 (by simp)
  | close =>
    simp only [next, Option.ite_none_right_eq_some, Option.some.injEq] at hnext
    exact hnext.2 ▸ h.close hnext.1

/-- The wired transports never have a session each. While one of them is selected the other has none and
nothing under way that could open one. -/
theorem at_most_one_session {steps : List WiredStep}
    (hrun : (machine config).run initial steps = some s) :
    (s.accessory.session = none ∨ s.tether.session = none) ∧
    (s.mode = .usbTether → s.accessory.Idle) ∧ (s.mode = .accessory → s.tether.Dormant) := by
  have h : Exclusive s :=
    (machine config).run_invariant Exclusive (fun _ _ _ h hstep => h.step hstep) exclusive_initial hrun
  have hidle : s.mode = .usbTether → s.accessory.Idle := by
    intro hmode
    have hinactive : s.accessory.active = false := by
      simp [AccessoryTransport.active, h.paused hmode]
    exact h.accessory.gated.idle hinactive
  refine ⟨?_, hidle, h.dormant⟩
  cases hmode : s.mode with
  | accessory => exact .inr (h.dormant hmode).session
  | usbTether => exact .inl (hidle hmode).session

/-- The cable carries an accessory session, then a paired tether session, then the accessory again. -/
def switchesTwice : List WiredStep :=
  [.accessory .start, .accessory (.onStart AccessoryTransport.attached),
    .accessory (.openReturned 0 .connection),
    .accessory (.resumeOpen 0 AccessoryTransport.attached none), .tether (.call .onStart),
    .startUsbTetherPairing, .tether .main, .tether .main, .tether .main, .tether .main,
    .tether (.listener 1 (.discovered (.ok (some "192.168.42.129")))),
    .tether (.listener 1 .proceed), .tether (.listener 1 .proceed),
    .tether (.listener 1 (.opened (.ok ()))), .tether (.listener 1 .proceed),
    .tether (.listener 1 (.returned (.authenticated ⟨"192.168.42.129", 49231⟩ "192.168.42.2"))),
    .tether (.listener 1 .proceed), .tether (.listener 1 .proceed), .tether (.listener 1 .proceed),
    .tether (.outcome 1), .tether .main, .tether .main, .tether .main, .tether .main,
    .tether (.afterYield 1), .useUsbAccessory AccessoryTransport.attached, .tether .main,
    .tether .main, .tether .main, .switch, .accessory (.openReturned 1 .connection),
    .accessory (.resumeOpen 1 AccessoryTransport.attached none)]

theorem at_most_one_session_switchesTwice :
    (∃ s, (machine AccessoryTransport.supported).run initial (switchesTwice.take 25) = some s ∧
      s.tether.session = some 1) ∧
    ∃ s, (machine AccessoryTransport.supported).run initial switchesTwice = some s ∧
      s.accessory.session = some 1 ∧
      (s.accessory.session = none ∨ s.tether.session = none) ∧
      (s.mode = .usbTether → s.accessory.Idle) ∧ (s.mode = .accessory → s.tether.Dormant) :=
  ⟨⟨_, rfl, rfl⟩, _, rfl, rfl,
    @at_most_one_session AccessoryTransport.supported _ switchesTwice rfl⟩

end WiredTransport

end LadoFlow.Android
