import LadoFlow.Android.AccessoryTransportLaw
import Mathlib.Algebra.Group.Int.Defs

/-!
# Recovery without the user

Between a connection and the next one, lost connections and failed opens are answered by reconnections that
the policy counts. What is left of the count, with the reconnection that is waiting, is a budget that every
reconnection takes from and nothing but a connection or the user fills up again.
-/

namespace LadoFlow.Android

open Framework

def AccessoryStep.isReconnect : AccessoryStep → Bool
  | reconnectFires _ => true
  | _ => false

namespace AccessoryTransport

/-- The connection that waits in the job is going to be installed. -/
def connects (s : AccessoryTransport) (id : Nat) (usbManager : UsbManagerView) : Bool :=
  (s.jobs id).any fun job =>
    job.point = .returned .connection && (s.removeJob id).accepts usbManager job

/-- A step that neither the user nor the system asks for, and that installs no connection. -/
def Automatic (s : AccessoryTransport) : AccessoryStep → Prop
  | .openReturned .. | .sessionFails .. | .collectFailure _ | .reconnectFires _ => True
  | .resumeOpen id usbManager _ => s.connects id usbManager = false
  | _ => False

variable {policy : UsbReconnectPolicy} {config : AccessoryConfig} {usbManager : UsbManagerView}
  {s t : AccessoryTransport}

/-- The waiting reconnection and the attempts that the policy still allows. -/
def budget (policy : UsbReconnectPolicy) (s : AccessoryTransport) : Nat :=
  s.reconnectJob.toList.length + (policy.maximumAttempts.toInt - s.reconnectAttempt.toInt).toNat

/-- A step that fired that many reconnections and counted at most one attempt. -/
structure Spends (policy : UsbReconnectPolicy) (s t : AccessoryTransport) (fired : Nat) : Prop where
  attempt_nonneg : 0 ≤ t.reconnectAttempt.toInt
  attempt_le : t.reconnectAttempt.toInt ≤ s.reconnectAttempt.toInt + 1
  budget_le : fired + t.budget policy ≤ s.budget policy
  launched_le : t.launched ≤ s.launched + fired

theorem Spends.of_eq (hnonneg : 0 ≤ s.reconnectAttempt.toInt)
    (hattempt : t.reconnectAttempt = s.reconnectAttempt) (hreconnect : t.reconnectJob = s.reconnectJob)
    (hlaunched : t.launched = s.launched) : Spends policy s t 0 where
  attempt_nonneg := by rwa [hattempt]
  attempt_le := by
    rw [hattempt]
    omega
  budget_le := by rw [budget, budget, hattempt, hreconnect, Nat.zero_add]
  launched_le := by rw [hlaunched, Nat.add_zero]

/-- A step spends the same from every state with the same count. -/
theorem Spends.of_start {u : AccessoryTransport} {fired : Nat} (h : Spends policy u t fired)
    (hattempt : u.reconnectAttempt = s.reconnectAttempt) (hreconnect : u.reconnectJob = s.reconnectJob)
    (hlaunched : u.launched = s.launched) : Spends policy s t fired where
  attempt_nonneg := h.attempt_nonneg
  attempt_le := hattempt ▸ h.attempt_le
  budget_le := by
    rw [budget, budget, ← hattempt, ← hreconnect]
    exact h.budget_le
  launched_le := hlaunched ▸ h.launched_le

theorem toInt_succ {attempt : Int32} (h : attempt.toInt < 2 ^ 31 - 1) (hnonneg : 0 ≤ attempt.toInt) :
    (attempt + 1).toInt = attempt.toInt + 1 := by
  rw [Int32.toInt_add]
  simp only [Int32.reduceToInt, Int.bmod_def]
  omega

variable (config) in
/-- An attempt that is counted comes out of the attempts that were left. -/
theorem spends_retryLater (hnonneg : 0 ≤ s.reconnectAttempt.toInt)
    (hsmall : s.reconnectAttempt.toInt < 2 ^ 31 - 1) (accessory : UsbAccessory) (reason : String) :
    Spends config.reconnectPolicy s (s.retryLater config accessory reason) 0 := by
  have hsucc := toInt_succ hsmall hnonneg
  have hone : (1 : Int32).toInt = 1 := rfl
  have hattempt : 1 ≤ s.reconnectAttempt + 1 := by
    rw [Int32.le_iff_toInt_le]
    omega
  rw [retryLater]
  split
  · rename_i hspent
    have hover : config.reconnectPolicy.maximumAttempts.toInt < s.reconnectAttempt.toInt + 1 := by
      simpa [UsbReconnectPolicy.shouldRetry, hattempt, Int32.lt_iff_toInt_lt, hsucc] using hspent
    constructor
    · simp only [hsucc]
      omega
    · simp only [hsucc, Int.le_refl]
    · simp only [budget, hsucc]
      omega
    · exact Nat.le_refl _
  · rename_i hleft
    have hwithin : s.reconnectAttempt.toInt + 1 ≤ config.reconnectPolicy.maximumAttempts.toInt := by
      simpa [UsbReconnectPolicy.shouldRetry, hattempt, Int32.le_iff_toInt_le, hsucc] using hleft
    simp only [launchReconnect, UsbReconnectPolicy.delayMillis, if_pos hattempt]
    constructor
    · simp only [hsucc]
      omega
    · simp only [hsucc, Int.le_refl]
    · simp only [budget, hsucc]
      have hpending : (if s.closed then none else some accessory : Option UsbAccessory).toList.length
          ≤ 1 := by
        split <;> simp
      omega
    · exact Nat.le_refl _

variable (config usbManager) in
theorem spends_scheduleReconnect (hnonneg : 0 ≤ s.reconnectAttempt.toInt)
    (hsmall : s.reconnectAttempt.toInt < 2 ^ 31 - 1) (accessory : UsbAccessory) (reason : String) :
    Spends config.reconnectPolicy s (s.scheduleReconnect config usbManager accessory reason) 0 := by
  obtain ⟨sessions, closures, hframe⟩ := s.closeActiveSession_frame
  rw [scheduleReconnect, hframe]
  split
  · exact Spends.of_eq hnonneg rfl rfl rfl
  · let idle : AccessoryTransport :=
      { s with
        sessionStateJob := none
        session := none
        sessions := sessions
        closures := closures }
    exact (spends_retryLater config (s := idle) hnonneg hsmall accessory reason).of_start rfl rfl rfl

variable (usbManager) in
/-- A reconnection that fires opens at most one accessory, or asks for the permission. -/
theorem openOrRequest_spends (accessory : UsbAccessory) :
    (s.openOrRequest usbManager accessory).reconnectAttempt = s.reconnectAttempt ∧
    (s.openOrRequest usbManager accessory).reconnectJob = s.reconnectJob ∧
    (s.openOrRequest usbManager accessory).launched ≤ s.launched + 1 := by
  rw [openOrRequest]
  split
  · rw [maybeOpenAccessory]
    split
    · simp
    split
    · simp
    obtain ⟨jobs, hframe⟩ := s.cancelOpenJob_frame
    rw [hframe, launchOpen]
    split <;> simp
  · rw [requestPermission]
    split
    · simp
    split <;> simp

theorem Spends.reconnectFires (hnonneg : 0 ≤ s.reconnectAttempt.toInt)
    (hstep : s.reconnectFires usbManager = some t) : Spends policy s t 1 := by
  rw [AccessoryTransport.reconnectFires, Option.map_eq_some_iff] at hstep
  obtain ⟨accessory, hpending, rfl⟩ := hstep
  obtain ⟨hattempt, hreconnect, hlaunched⟩ := openOrRequest_spends usbManager
    (s := { s with reconnectJob := none }) accessory
  constructor
  · rwa [hattempt]
  · rw [hattempt]
    dsimp only
    omega
  · rw [budget, budget, hattempt, hreconnect, hpending]
    simp
  · exact hlaunched

theorem Spends.resumeOpen (hnonneg : 0 ≤ s.reconnectAttempt.toInt)
    (hsmall : s.reconnectAttempt.toInt < 2 ^ 31 - 1) {id : Nat}
    {earlyFailure : Option (UsbIoFailureKind × String)}
    (hrefused : s.connects id usbManager = false)
    (hstep : s.resumeOpen config usbManager id earlyFailure = some t) :
    Spends config.reconnectPolicy s t 0 := by
  have hfails : ∀ (accessory : UsbAccessory) (reason : String), Spends config.reconnectPolicy s
      ((s.removeJob id).scheduleReconnect config usbManager accessory reason) 0 := by
    intro accessory reason
    have hspends := spends_scheduleReconnect config usbManager (s := s.removeJob id) hnonneg hsmall
    exact (hspends accessory reason).of_start rfl rfl rfl
  have hends : Spends config.reconnectPolicy s (s.removeJob id) 0 :=
    Spends.of_eq hnonneg rfl rfl rfl
  rw [AccessoryTransport.resumeOpen] at hstep
  cases hjob : s.jobs id with
  | none =>
    rw [hjob] at hstep
    cases hstep
  | some job =>
    cases hpoint : job.point with
    | opening =>
      simp only [hjob, hpoint] at hstep
      cases hstep
    | returned result =>
      simp only [hjob, hpoint, Option.some.injEq] at hstep
      subst hstep
      cases result with
      | notRun => exact hends
      | threw message => exact hfails job.accessory _
      | noDescriptor =>
        simp only [finishOpen]
        split
        · exact hends
        · exact hfails job.accessory _
      | connection =>
        have hdenied : (s.removeJob id).accepts usbManager job = false := by
          simpa [connects, hjob, hpoint] using hrefused
        simp only [finishOpen, hdenied, Bool.false_eq_true, if_false]
        exact Spends.of_eq hnonneg rfl rfl rfl

/-- What one automatic step takes from the budget. -/
theorem Spends.step (hnonneg : 0 ≤ s.reconnectAttempt.toInt)
    (hsmall : s.reconnectAttempt.toInt < 2 ^ 31 - 1) {step : AccessoryStep}
    (hauto : s.Automatic step) (hstep : (machine config).step s step = some t) :
    Spends config.reconnectPolicy s t (if step.isReconnect then 1 else 0) := by
  have hnext : s.next config step = some t := hstep
  cases step with
  | openReturned id result =>
    simp only [next, AccessoryTransport.openReturned] at hnext
    split at hnext
    · split at hnext
      · cases hnext
        exact Spends.of_eq hnonneg rfl rfl rfl
      · cases hnext
    · cases hnext
  | resumeOpen id usbManager earlyFailure => exact Spends.resumeOpen hnonneg hsmall hauto hnext
  | sessionFails session kind message =>
    obtain ⟨sessions, closures, hframe⟩ := s.endSession_frame session (.failed kind message)
    simp only [next, hframe] at hnext
    split at hnext
    · cases hnext
      exact Spends.of_eq hnonneg rfl rfl rfl
    · cases hnext
  | collectFailure usbManager =>
    simp only [next, AccessoryTransport.collectFailure] at hnext
    split at hnext
    · split at hnext
      · split at hnext
        · cases hnext
          have hspends := spends_scheduleReconnect config usbManager
            (s := { s with session := none }) hnonneg hsmall
          exact (hspends _ _).of_start rfl rfl rfl
        · cases hnext
          exact Spends.of_eq hnonneg rfl rfl rfl
      · cases hnext
    · cases hnext
  | reconnectFires usbManager => exact Spends.reconnectFires hnonneg hnext
  | _ => exact hauto.elim

/-- Without the user and without a connection, the reconnections that fire and the opens they launch stay
within the budget, for runs that do not wrap the 32-bit count. -/
theorem recovery_within_budget {steps : List AccessoryStep} (hnonneg : 0 ≤ s.reconnectAttempt.toInt)
    (hsmall : s.reconnectAttempt.toInt + steps.length < 2 ^ 31)
    (hauto : (machine config).Admits Automatic s steps)
    (hrun : (machine config).run s steps = some t) :
    steps.countP (·.isReconnect) + t.budget config.reconnectPolicy ≤
      s.budget config.reconnectPolicy ∧
    t.launched ≤ s.launched + steps.countP (·.isReconnect) := by
  induction steps generalizing s with
  | nil =>
    cases hrun
    simp
  | cons step steps ih =>
    obtain ⟨u, hu, hrest⟩ := (machine config).run_cons.mp hrun
    rw [Machine.Admits, hu] at hauto
    rw [List.length_cons] at hsmall
    have hspends := Spends.step hnonneg (by omega) hauto.1 hu
    have hle := hspends.attempt_le
    obtain ⟨hbudget, hlaunched⟩ := ih hspends.attempt_nonneg (by omega) hauto.2 hrest
    have hfirst := hspends.budget_le
    have hopens := hspends.launched_le
    rw [List.countP_cons]
    omega

/-- Three opens in a row return no descriptor. -/
def failsThrice : List AccessoryStep :=
  [.openReturned 0 .noDescriptor, .resumeOpen 0 attached none, .reconnectFires attached,
    .openReturned 1 .noDescriptor, .resumeOpen 1 attached none, .reconnectFires attached,
    .openReturned 2 .noDescriptor, .resumeOpen 2 attached none]

/-- The policy that gives up after the second attempt. -/
def impatient : AccessoryConfig where
  usbAccessorySupported := true
  reconnectPolicy := { UsbReconnectPolicy.default with maximumAttempts := 2, maximumAttempts_pos := by decide }

/-- The third open is the last one, and nothing waits behind it. -/
theorem recovery_within_budget_impatient : ∃ t,
    (machine impatient).run ((initial.start impatient).onStart impatient attached) failsThrice =
      some t ∧
    t.reconnectJob = none ∧
    failsThrice.countP (·.isReconnect) + t.budget impatient.reconnectPolicy ≤
      ((initial.start impatient).onStart impatient attached).budget impatient.reconnectPolicy ∧
    t.launched ≤ ((initial.start impatient).onStart impatient attached).launched +
      failsThrice.countP (·.isReconnect) :=
  ⟨_, rfl, rfl, @recovery_within_budget impatient _ _ failsThrice (by decide) (by decide)
    ⟨trivial, rfl, trivial, trivial, rfl, trivial, trivial, rfl, trivial⟩ rfl⟩

end AccessoryTransport

end LadoFlow.Android
