import LadoFlow.Windows.DisplayService
import Mathlib.Algebra.Group.Nat.Defs

/-!
# The display service is consistent

The published state, the identity and the changed flag agree with the handle after every request, on
every way out of its commands, and no handle is lost.
-/

namespace LadoFlow.Windows

open Framework Ipc

namespace DeviceSnapshot

/-- The generation has counted the changes of the state between two snapshots. -/
structure AdvancesBy (before after : DeviceSnapshot) (changes : Nat) : Prop where
  changes_le : changes ≤ 2
  generation : after.generation = before.generation + UInt64.ofNat changes
  counted : after.state ≠ before.state → 0 < changes

variable {before after : DeviceSnapshot} {changes : Nat}

theorem AdvancesBy.refl (snapshot : DeviceSnapshot) : snapshot.AdvancesBy snapshot 0 :=
  ⟨Nat.zero_le _, by simp, fun hne => absurd rfl hne⟩

theorem AdvancesBy.toNat (h : before.AdvancesBy after changes)
    (hroom : before.generation.toNat + changes < 2 ^ 64) :
    after.generation.toNat = before.generation.toNat + changes := by
  have hle := h.changes_le
  rw [h.generation, UInt64.toNat_add, UInt64.toNat_ofNat_of_lt' (Nat.lt_of_le_of_lt hle (by decide))]
  exact Nat.mod_eq_of_lt hroom

/-- Before the counter wraps, the generation does not decrease, and it increases with a new state. -/
theorem AdvancesBy.increases (h : before.AdvancesBy after changes)
    (hroom : before.generation.toNat + changes < 2 ^ 64) :
    before.generation ≤ after.generation ∧
      (after.state ≠ before.state → before.generation < after.generation) := by
  have hnat := h.toNat hroom
  constructor
  · rw [UInt64.le_iff_toNat_le]
    omega
  · intro hne
    have hpos := h.counted hne
    rw [UInt64.lt_iff_toNat_lt]
    omega

end DeviceSnapshot

namespace DeviceOwner

open DeviceSnapshot

/-- What holds between requests. -/
structure Consistent (owner : DeviceOwner) : Prop where
  enabled : owner.snapshot.state = .enabled ↔ owner.device.isSome = true
  identity : owner.snapshot.state ≠ .enabled → owner.snapshot.deviceInstanceId = .empty
  balanced : LeaseBalanced owner.calls owner.device

/-- What one command may do. -/
structure Outcome (before : DeviceOwner) (changed : Bool) (after : DeviceOwner) : Prop where
  consistent : after.Consistent
  changed_iff : changed = true ↔ before.device.isSome ≠ after.device.isSome
  advances : ∃ changes, before.snapshot.AdvancesBy after.snapshot changes

theorem consistent_new : new.Consistent := ⟨by decide, fun _ => rfl, balanced_nil⟩

section Updates

variable (owner : DeviceOwner) (state : ServiceState) (result : Int32)

@[simp] theorem setState_device : (owner.setState state result).device = owner.device := rfl
@[simp] theorem setState_calls : (owner.setState state result).calls = owner.calls := rfl
@[simp] theorem setState_state : (owner.setState state result).snapshot.state = state := rfl

@[simp] theorem setState_identity :
    (owner.setState state result).snapshot.deviceInstanceId = owner.snapshot.deviceInstanceId := rfl

@[simp] theorem setState_generation :
    (owner.setState state result).snapshot.generation = owner.snapshot.generation + 1 := rfl

@[simp] theorem closeDevice_device : owner.closeDevice.device = none := by
  rw [closeDevice]
  split
  · assumption
  · rfl

@[simp] theorem closeDevice_identity : owner.closeDevice.snapshot.deviceInstanceId = .empty := by
  rw [closeDevice]
  split <;> rfl

@[simp] theorem closeDevice_generation :
    owner.closeDevice.snapshot.generation = owner.snapshot.generation := by
  rw [closeDevice]
  split <;> rfl

end Updates

section Commands

variable {owner : DeviceOwner}

/-- Closing gives back the handle that is held. -/
theorem closeDevice_balanced (h : LeaseBalanced owner.calls owner.device) :
    LeaseBalanced owner.closeDevice.calls none := by
  rw [closeDevice]
  split
  · rename_i hnone
    rw [hnone] at h
    exact h
  · rename_i device hsome
    rw [hsome] at h
    exact h.release

/-- A closed device may be published in every state but the enabled one. -/
theorem consistent_closed {state : ServiceState} (h : LeaseBalanced owner.calls owner.device)
    (hstate : state ≠ .enabled) (result : Int32) :
    (owner.closeDevice.setState state result).Consistent where
  enabled := by simp [hstate]
  identity := by simp
  balanced := by
    rw [setState_calls, setState_device, closeDevice_device]
    exact closeDevice_balanced h

/-- The wait ends with the device enabled, or closed and published otherwise. -/
theorem awaitDevice_settles (hheld : owner.device.isSome = true)
    (h : LeaseBalanced owner.calls owner.device) (wait : DeviceWait) :
    (owner.awaitDevice wait).2.2.Consistent ∧
      ((owner.awaitDevice wait).2.1 = true ↔
        (owner.awaitDevice wait).2.2.device.isSome = true) ∧
      (owner.awaitDevice wait).2.2.snapshot.generation = owner.snapshot.generation + 1 := by
  cases wait with
  | completed createResult deviceInstanceId =>
    rw [awaitDevice]
    by_cases hfailed : failed (deviceCreationCallback createResult deviceInstanceId).result = true
    · simp only [hfailed, if_true]
      exact ⟨consistent_closed h (by decide) _, by simp, by simp⟩
    · simp only [hfailed]
      refine ⟨⟨?_, ?_, h⟩, ?_, rfl⟩
      · exact iff_of_true rfl hheld
      · exact fun hne => absurd rfl hne
      · exact iff_of_true rfl hheld
  | stopRequested => exact ⟨consistent_closed h (by decide) _, by simp [awaitDevice], by simp [awaitDevice]⟩
  | timedOut => exact ⟨consistent_closed h (by decide) _, by simp [awaitDevice], by simp [awaitDevice]⟩
  | failed lastError =>
    exact ⟨consistent_closed h (by decide) _, by simp [awaitDevice], by simp [awaitDevice]⟩

theorem Consistent.enable (h : owner.Consistent) (outcome : EnableOutcome) :
    owner.Outcome (owner.enable outcome).2.1 (owner.enable outcome).2.2 := by
  rw [DeviceOwner.enable]
  by_cases hheld : owner.device.isSome = true
  · have henabled := h.enabled.mpr hheld
    rw [if_pos ⟨hheld, henabled⟩]
    exact ⟨⟨h.enabled, h.identity, h.balanced⟩, by simp, 0, Nat.zero_le _, by simp, by simp⟩
  · have hstate : owner.snapshot.state ≠ .enabled := fun henabled => hheld (h.enabled.mp henabled)
    have hidentity := h.identity hstate
    have hnone : owner.device = none := by simpa using hheld
    have hbalanced : LeaseBalanced owner.calls none := hnone ▸ h.balanced
    have hfailed : ∀ result : Int32,
        ((owner.setState .enabling 0).setState .failed result).Consistent := by
      intro result
      exact ⟨by simp [hnone], by simp [hidentity], by simpa [hnone] using hbalanced⟩
    have hadvances : ∀ after : DeviceOwner,
        after.snapshot.generation = owner.snapshot.generation + 1 + 1 →
          ∃ changes, owner.snapshot.AdvancesBy after.snapshot changes := by
      intro after hgeneration
      refine ⟨2, Nat.le_refl _, ?_, fun _ => by decide⟩
      rw [hgeneration, UInt64.add_assoc]
      rfl
    rw [if_neg (fun hboth => hheld hboth.1)]
    simp only [hheld]
    cases outcome.eventError with
    | some lastError => exact ⟨hfailed _, by simp [hnone], hadvances _ rfl⟩
    | none =>
      by_cases hcreation : failed outcome.deviceCreation.result = true
      · simp only [hcreation, if_true]
        exact ⟨hfailed _, by simp [hnone], hadvances _ rfl⟩
      · simp only [hcreation]
        obtain ⟨device, hdevice⟩ : ∃ device, outcome.deviceCreation.candidate = some device := by
          rw [← Option.isSome_iff_exists, outcome.deviceCreation.contract]
          simpa using hcreation
        have hobtained : LeaseBalanced ((owner.setState .enabling 0).hold
            outcome.deviceCreation.candidate).calls outcome.deviceCreation.candidate := by
          rw [hdevice]
          exact hbalanced.acquire device
        obtain ⟨hconsistent, hchanged, hgeneration⟩ :=
          @awaitDevice_settles ((owner.setState .enabling 0).hold
            outcome.deviceCreation.candidate) (by simp [hold, hdevice]) hobtained outcome.wait
        have hflag : ∀ held : Bool, held = true ↔ false ≠ held := by decide
        refine ⟨hconsistent, ?_, hadvances _ hgeneration⟩
        rw [hnone]
        exact hchanged.trans (hflag _)

theorem Consistent.disable (h : owner.Consistent) (stopping : Bool) :
    owner.Outcome (owner.disable stopping).2.1 (owner.disable stopping).2.2 := by
  have hstate : (if stopping then ServiceState.stopping else .ready) ≠ .enabled := by
    cases stopping <;> decide
  rw [DeviceOwner.disable]
  by_cases hheld : owner.device.isSome = true
  · simp only [hheld, if_true]
    refine ⟨@consistent_closed (owner.setState .disabling 0) _ h.balanced hstate 0, ?_, ?_⟩
    · simp [hheld]
    · refine ⟨2, Nat.le_refl _, ?_, fun _ => by decide⟩
      simp only [setState_generation, closeDevice_generation, UInt64.add_assoc]
      rfl
  · have hnone : owner.device = none := by simpa using hheld
    have hbalanced : LeaseBalanced owner.calls none := hnone ▸ h.balanced
    simp only [hheld]
    refine ⟨⟨?_, fun _ => rfl, ?_⟩, ?_, 1, by decide, rfl, fun _ => by decide⟩
    · simp [clearDeviceIdentity, setIdentity, hnone, hstate]
    · simpa [clearDeviceIdentity, setIdentity, hnone] using hbalanced
    · simp [clearDeviceIdentity, setIdentity, hnone]

/-- Shutting down leaves no handle open. -/
theorem Consistent.shutdown (h : owner.Consistent) :
    owner.shutdown.device = none ∧ acquisitions owner.shutdown.calls = disposals owner.shutdown.calls := by
  have hconsistent := (h.disable true).consistent
  have hnone : owner.shutdown.device = none := by
    rw [DeviceOwner.shutdown, DeviceOwner.disable]
    split
    · simp
    · simpa [clearDeviceIdentity, setIdentity] using ‹¬owner.device.isSome = true›
  have hbalanced : LeaseBalanced owner.shutdown.calls owner.shutdown.device := hconsistent.balanced
  rw [hnone, LeaseBalanced, Option.toList_none, List.append_nil] at hbalanced
  exact ⟨hnone, hbalanced⟩

end Commands

end DeviceOwner

section Requests

open DeviceOwner

variable {owner : DeviceOwner}

/-- A request without a command that changes the device leaves its owner as it is. -/
theorem dispatch_idle {pipe : PipeRequest} (h : validateRequest pipe.request = false ∨
    pipe.request.commandValue = Command.status.value ∨
      pipe.request.commandValue = Command.ping.value) :
    (dispatch owner pipe).2 = (false, owner) := by
  rw [dispatch]
  by_cases hvalid : validateRequest pipe.request = false
  · rw [if_pos hvalid]
  · rw [if_neg hvalid]
    rcases h.resolve_left hvalid with hstatus | hping
    · rw [hstatus, ofValue_value]
    · rw [hping, ofValue_value]

theorem dispatch_outcome (h : owner.Consistent) (pipe : PipeRequest) :
    owner.Outcome (dispatch owner pipe).2.1 (dispatch owner pipe).2.2 := by
  have hsame : owner.Outcome false owner :=
    ⟨h, by simp, 0, DeviceSnapshot.AdvancesBy.refl owner.snapshot⟩
  rw [dispatch]
  split
  · exact hsame
  · split
    · exact h.enable pipe.outcome
    · exact h.disable false
    · exact hsame
    · exact hsame
    · exact hsame

theorem consistent_serve (h : owner.Consistent) (requests : List PipeRequest) :
    (serve owner requests).Consistent := by
  induction requests generalizing owner with
  | nil => exact h
  | cons pipe requests ih => exact ih (dispatch_outcome h pipe).consistent

theorem stateValue_enabled (state : ServiceState) :
    state.value = ServiceState.enabled.value ↔ state = .enabled := by
  cases state <;> decide

/-- After any requests, the next one leaves the device consistent: the response shows it enabled just when
a handle is held, with no id otherwise; the changed flag tells whether that is new; every handle is held or
was closed once; and the generation counts. -/
theorem service_consistent (history : List PipeRequest) (next : PipeRequest) :
    let before := serve .new history
    let response := (executeRequest before next).1
    let after := (executeRequest before next).2
    (response.stateValue = ServiceState.enabled.value ↔ after.device.isSome = true) ∧
    (after.snapshot.state ≠ .enabled →
      after.snapshot.deviceInstanceId = .empty ∧ response.deviceInstanceId = .empty) ∧
    (response.changed = 1 ↔ before.device.isSome ≠ after.device.isSome) ∧
    (response.changed = 0 ∨ response.changed = 1) ∧
    acquisitions after.calls = disposals after.calls ++ after.device.toList ∧
    (∃ changes ≤ 2, after.snapshot.generation = before.snapshot.generation + UInt64.ofNat changes ∧
      (before.snapshot.generation.toNat + changes < 2 ^ 64 →
        before.snapshot.generation ≤ after.snapshot.generation ∧
        (after.snapshot.state ≠ before.snapshot.state →
          before.snapshot.generation < after.snapshot.generation))) ∧
    ((validateRequest next.request = false ∨
        next.request.commandValue = Command.status.value ∨
        next.request.commandValue = Command.ping.value) → after = before) ∧
    (validateRequest next.request = true → validateResponse next.request response = true) := by
  intro before response after
  have hbefore : before.Consistent := consistent_serve consistent_new history
  have houtcome : before.Outcome (dispatch before next).2.1 after := dispatch_outcome hbefore next
  have hafter := houtcome.consistent
  have hchanged : response.changed = if (dispatch before next).2.1 then 1 else 0 := rfl
  refine ⟨?_, ?_, ?_, ?_, hafter.balanced, ?_, ?_, fun _ => ?_⟩
  · exact (stateValue_enabled after.snapshot.state).trans hafter.enabled
  · intro hstate
    have hidentity := hafter.identity hstate
    refine ⟨hidentity, ?_⟩
    show DeviceInstanceId.empty.wcsncpy after.snapshot.deviceInstanceId.toList = .empty
    rw [hidentity, DeviceInstanceId.wcsncpy_empty]
  · rw [hchanged, ← houtcome.changed_iff]
    cases (dispatch before next).2.1 <;> decide
  · rw [hchanged]
    cases (dispatch before next).2.1 <;> decide
  · obtain ⟨changes, hadvances⟩ := houtcome.advances
    exact ⟨changes, hadvances.changes_le, hadvances.generation, hadvances.increases⟩
  · intro hidle
    have hsame := @dispatch_idle before next hidle
    exact congrArg Prod.snd hsame
  · exact validateResponse_makeResponse _ _ _ _ _ _ _ _

def creation : SwDeviceCreate := ⟨0, some ⟨7, by decide⟩, by decide⟩

/-- The device completes, is taken down, and does not complete in time. -/
def reenabled : List PipeRequest :=
  [⟨makeRequest .enable 1, ⟨none, creation, .completed 0 (some [83, 87])⟩, 42⟩,
    ⟨makeRequest .disable 2, ⟨none, creation, .timedOut⟩, 42⟩,
    ⟨makeRequest .enable 3, ⟨none, creation, .timedOut⟩, 42⟩]

def pingRequest : PipeRequest := ⟨makeRequest .ping 4, ⟨none, creation, .timedOut⟩, 42⟩

theorem service_consistent_reenabled :
    let before := serve .new reenabled
    (executeRequest before pingRequest).2 = before ∧
      validateResponse pingRequest.request (executeRequest before pingRequest).1 = true := by
  obtain ⟨-, -, -, -, -, -, hidle, hvalid⟩ := service_consistent reenabled pingRequest
  exact ⟨hidle (.inr (.inr rfl)), hvalid (by decide)⟩

end Requests

end LadoFlow.Windows
