import LadoFlow.Framework.Refinement
import Mathlib

/-!
# The lease of the decoder surface

Several views come and go while an activity is rebuilt, and each of them attaches its surface to the one
decoder. A lease with a generation keeps the callbacks of a view that was replaced away from the surface of
the view that replaced it.
-/

namespace LadoFlow.Android

open Framework

structure DecoderSurfaceLease where
  generation : Int64
  deriving DecidableEq

structure DecoderSurfaceState where
  generation : Int64
  attached : Bool
  width : Option Int32
  height : Option Int32
  deriving DecidableEq

/-- `updates` are the calls of `updateSurface`, the oldest first. -/
structure SurfaceLeaseCoordinator (α : Type) where
  state : DecoderSurfaceState
  activeLease : Option DecoderSurfaceLease
  generation : Int64
  updates : List (Option α)
  deriving DecidableEq

namespace SurfaceLeaseCoordinator

variable {α : Type} (coordinator : SurfaceLeaseCoordinator α)

def initial : SurfaceLeaseCoordinator α where
  state := ⟨0, false, none, none⟩
  activeLease := none
  generation := 0
  updates := []

def nextGeneration : Int64 :=
  if coordinator.generation = Int64.maxValue then 1 else coordinator.generation + 1

def attach (surface : α) : SurfaceLeaseCoordinator α × DecoderSurfaceLease :=
  let lease : DecoderSurfaceLease := ⟨coordinator.nextGeneration⟩
  ({ state := ⟨coordinator.nextGeneration, true, none, none⟩
     activeLease := some lease
     generation := coordinator.nextGeneration
     updates := coordinator.updates ++ [some surface] }, lease)

def resize (lease : DecoderSurfaceLease) (width height : Int32) :
    Bool × SurfaceLeaseCoordinator α :=
  if some lease ≠ coordinator.activeLease || width ≤ 0 || height ≤ 0 then (false, coordinator)
  else (true, { coordinator with
    state := { coordinator.state with width := some width, height := some height } })

def clear : SurfaceLeaseCoordinator α :=
  { coordinator with
    activeLease := none
    state := ⟨coordinator.generation, false, none, none⟩
    updates := coordinator.updates ++ [none] }

def detach (lease : DecoderSurfaceLease) : Bool × SurfaceLeaseCoordinator α :=
  if some lease ≠ coordinator.activeLease then (false, coordinator) else (true, coordinator.clear)

def release : Bool × SurfaceLeaseCoordinator α :=
  if coordinator.activeLease.isNone then (false, coordinator) else (true, coordinator.clear)

end SurfaceLeaseCoordinator

/-- The callbacks of the views and the release by the session. -/
inductive SurfaceStep (α : Type) where
  | surfaceCreated (view : Nat) (surface : α)
  | surfaceChanged (view : Nat) (width height : Int32)
  | surfaceDestroyed (view : Nat)
  | dispose (view : Nat)
  | releaseController

def SurfaceStep.isCreation {α : Type} : SurfaceStep α → Bool
  | surfaceCreated .. => true
  | _ => false

/-- The coordinator and the lease that each view's callback keeps. -/
structure SurfaceViews (α : Type) where
  coordinator : SurfaceLeaseCoordinator α
  lease : Nat → Option DecoderSurfaceLease

namespace SurfaceViews

variable {α : Type}

def initial : SurfaceViews α := ⟨.initial, fun _ => none⟩

/-- `DecoderSurfaceCallback.release` -/
def release (s : SurfaceViews α) (view : Nat) : SurfaceViews α :=
  match s.lease view with
  | none => s
  | some lease => ⟨(s.coordinator.detach lease).2, Function.update s.lease view none⟩

def surfaceCreated (s : SurfaceViews α) (view : Nat) (surface : α) : SurfaceViews α :=
  let released := s.release view
  let attached := released.coordinator.attach surface
  ⟨attached.1, Function.update released.lease view (some attached.2)⟩

def surfaceChanged (s : SurfaceViews α) (view : Nat) (width height : Int32) : SurfaceViews α :=
  match s.lease view with
  | none => s
  | some lease => { s with coordinator := (s.coordinator.resize lease width height).2 }

def next (s : SurfaceViews α) : SurfaceStep α → SurfaceViews α
  | .surfaceCreated view surface => s.surfaceCreated view surface
  | .surfaceChanged view width height => s.surfaceChanged view width height
  | .surfaceDestroyed view => s.release view
  | .dispose view => s.release view
  | .releaseController => { s with coordinator := s.coordinator.release.2 }

def machine : Machine (SurfaceViews α) (SurfaceStep α) where
  step s step := some (s.next step)

end SurfaceViews

/-- The purpose of the leases: the view that created its surface last owns the decoder's output until it
gives the surface up or the session releases it. -/
structure SurfaceOwner (α : Type) where
  view : Nat
  surface : α
  size : Option (Int32 × Int32)
  deriving DecidableEq

namespace SurfaceOwner

variable {α : Type}

def ownedBy (owner : Option (SurfaceOwner α)) (view : Nat) : Bool := owner.any (·.view = view)

def next (owner : Option (SurfaceOwner α)) : SurfaceStep α → Option (SurfaceOwner α)
  | .surfaceCreated view surface => some ⟨view, surface, none⟩
  | .surfaceChanged view width height =>
    if ownedBy owner view && 0 < width && 0 < height then
      owner.map fun owner => { owner with size := some (width, height) }
    else owner
  | .surfaceDestroyed view => if ownedBy owner view then none else owner
  | .dispose view => if ownedBy owner view then none else owner
  | .releaseController => none

def machine : Machine (Option (SurfaceOwner α)) (SurfaceStep α) where
  step owner step := some (next owner step)

end SurfaceOwner

namespace SurfaceViews

variable {α : Type} {s t : SurfaceViews α} {owner : Option (SurfaceOwner α)}

/-- The coordinator's state in terms of the owner. Only the owner's lease is the active one, and no lease
is newer than the generation. -/
structure Represents (s : SurfaceViews α) (owner : Option (SurfaceOwner α)) : Prop where
  generation_nonneg : 0 ≤ s.coordinator.generation.toInt
  lease_le : ∀ view lease, s.lease view = some lease →
    lease.generation.toInt ≤ s.coordinator.generation.toInt
  active_le : ∀ lease, s.coordinator.activeLease = some lease →
    lease.generation.toInt ≤ s.coordinator.generation.toInt
  active_isSome : s.coordinator.activeLease.isSome = owner.isSome
  active_iff : ∀ view lease, s.lease view = some lease →
    (s.coordinator.activeLease = some lease ↔ SurfaceOwner.ownedBy owner view = true)
  owner_leased : ∀ current, owner = some current → s.lease current.view ≠ none
  output : s.coordinator.updates.getLast?.join = owner.map (·.surface)
  state : s.coordinator.state = ⟨s.coordinator.generation, owner.isSome,
    (owner.bind (·.size)).map Prod.fst, (owner.bind (·.size)).map Prod.snd⟩

theorem represents_initial : Represents (initial : SurfaceViews α) none where
  generation_nonneg := Int.le_refl 0
  lease_le := by simp [initial]
  active_le := by simp [initial, SurfaceLeaseCoordinator.initial]
  active_isSome := rfl
  active_iff := by simp [initial]
  owner_leased := by simp
  output := rfl
  state := rfl

/-- The coordinator is cleared while the owner's view, if it is the one, gives its lease back. -/
theorem Represents.cleared (h : Represents s owner) {lease : Nat → Option DecoderSurfaceLease}
    (hlease : ∀ view found, lease view = some found → s.lease view = some found) :
    Represents ⟨s.coordinator.clear, lease⟩ none where
  generation_nonneg := h.generation_nonneg
  lease_le view found hfound := h.lease_le view found (hlease view found hfound)
  active_le := by simp [SurfaceLeaseCoordinator.clear]
  active_isSome := rfl
  active_iff := by simp [SurfaceLeaseCoordinator.clear, SurfaceOwner.ownedBy]
  owner_leased := by simp
  output := by simp [SurfaceLeaseCoordinator.clear]
  state := rfl

theorem update_none_some {lease : Nat → Option DecoderSurfaceLease} {view other : Nat}
    {found : DecoderSurfaceLease} (h : Function.update lease view none other = some found) :
    other ≠ view ∧ lease other = some found := by
  by_cases hother : other = view
  · simp [hother] at h
  · exact ⟨hother, by simpa [hother] using h⟩

/-- A view that gives its lease back clears the decoder's output only if it owns it. -/
theorem Represents.release (h : Represents s owner) (view : Nat) :
    Represents (s.release view) (if SurfaceOwner.ownedBy owner view then none else owner) := by
  rw [SurfaceViews.release]
  cases hlease : s.lease view with
  | none =>
    have hother : SurfaceOwner.ownedBy owner view = false := by
      cases howner : owner with
      | none => rfl
      | some current =>
        have hleased := h.owner_leased current howner
        simp only [SurfaceOwner.ownedBy, Option.any_some, decide_eq_false_iff_not]
        rintro rfl
        exact hleased hlease
    simpa [hother] using h
  | some lease =>
    have hiff := h.active_iff view lease hlease
    simp only [SurfaceLeaseCoordinator.detach]
    by_cases howned : SurfaceOwner.ownedBy owner view = true
    · have hactive : s.coordinator.activeLease = some lease := hiff.mpr howned
      simp only [hactive, ne_eq, not_true_eq_false, if_false, howned, if_true]
      exact h.cleared fun other found hfound => (update_none_some hfound).2
    · have hactive : some lease ≠ s.coordinator.activeLease :=
        fun heq => howned (hiff.mp heq.symm)
      simp only [ne_eq, hactive, not_false_eq_true, if_true, howned, Bool.false_eq_true, if_false]
      exact
        { generation_nonneg := h.generation_nonneg
          lease_le := fun other found hfound => h.lease_le other found (update_none_some hfound).2
          active_le := h.active_le
          active_isSome := h.active_isSome
          active_iff := fun other found hfound => h.active_iff other found (update_none_some hfound).2
          owner_leased := by
            intro current hcurrent
            have hview : current.view ≠ view := by
              rintro rfl
              simp [SurfaceOwner.ownedBy, hcurrent] at howned
            simpa [hview] using h.owner_leased current hcurrent
          output := h.output
          state := h.state }

theorem release_generation (view : Nat) :
    (s.release view).coordinator.generation = s.coordinator.generation := by
  rw [SurfaceViews.release]
  split
  · rfl
  · rw [SurfaceLeaseCoordinator.detach]
    split <;> rfl

theorem nextGeneration_toInt {coordinator : SurfaceLeaseCoordinator α}
    (hnonneg : 0 ≤ coordinator.generation.toInt)
    (hroom : coordinator.generation.toInt < 2 ^ 63 - 1) :
    coordinator.nextGeneration.toInt = coordinator.generation.toInt + 1 := by
  have hmax : coordinator.generation ≠ Int64.maxValue := by
    intro heq
    have hlast : Int64.maxValue.toInt = 2 ^ 63 - 1 := rfl
    rw [heq, hlast] at hroom
    omega
  rw [SurfaceLeaseCoordinator.nextGeneration, if_neg hmax, Int64.toInt_add]
  simp only [Int64.reduceToInt, Int.bmod_def]
  omega

/-- A new lease is newer than every lease that any view still keeps. -/
theorem Represents.attach (h : Represents s owner)
    (hroom : s.coordinator.generation.toInt < 2 ^ 63 - 1) (view : Nat) (surface : α) :
    Represents ⟨(s.coordinator.attach surface).1,
      Function.update s.lease view (some (s.coordinator.attach surface).2)⟩
      (some ⟨view, surface, none⟩) := by
  have hnext := nextGeneration_toInt h.generation_nonneg hroom
  have hnew : ∀ other found, other ≠ view → s.lease other = some found →
      found ≠ ⟨s.coordinator.nextGeneration⟩ := by
    rintro other found - hfound rfl
    have hle := h.lease_le other _ hfound
    rw [hnext] at hle
    omega
  constructor
  · simp only [SurfaceLeaseCoordinator.attach, hnext]
    have hnonneg := h.generation_nonneg
    omega
  · intro other found hfound
    simp only [SurfaceLeaseCoordinator.attach, hnext]
    by_cases hother : other = view
    · subst hother
      simp only [Function.update_self, SurfaceLeaseCoordinator.attach, Option.some.injEq] at hfound
      simp [← hfound, hnext]
    · have hle := h.lease_le other found (by simpa [hother] using hfound)
      omega
  · intro lease hlease
    simp only [SurfaceLeaseCoordinator.attach, Option.some.injEq] at hlease ⊢
    simp [← hlease]
  · rfl
  · intro other found hfound
    simp only [SurfaceLeaseCoordinator.attach, Option.some.injEq, SurfaceOwner.ownedBy,
      Option.any_some, decide_eq_true_eq]
    by_cases hother : other = view
    · subst hother
      simp only [Function.update_self, SurfaceLeaseCoordinator.attach, Option.some.injEq] at hfound
      simp [hfound]
    · have hold := hnew other found hother (by simpa [hother] using hfound)
      exact iff_of_false hold.symm (Ne.symm hother)
  · intro current hcurrent
    cases hcurrent
    simp
  · simp [SurfaceLeaseCoordinator.attach]
  · rfl

/-- A lease that is not the owner's resizes nothing. -/
theorem Represents.surfaceChanged (h : Represents s owner) (view : Nat) (width height : Int32) :
    Represents (s.surfaceChanged view width height)
      (SurfaceOwner.next owner (.surfaceChanged view width height)) := by
  rw [SurfaceViews.surfaceChanged]
  simp only [SurfaceOwner.next]
  cases hlease : s.lease view with
  | none =>
    have hother : SurfaceOwner.ownedBy owner view = false := by
      cases howner : owner with
      | none => rfl
      | some current =>
        have hleased := h.owner_leased current howner
        simp only [SurfaceOwner.ownedBy, Option.any_some, decide_eq_false_iff_not]
        rintro rfl
        exact hleased hlease
    simpa [hother] using h
  | some lease =>
    have hiff := h.active_iff view lease hlease
    simp only [SurfaceLeaseCoordinator.resize]
    by_cases hguard : (SurfaceOwner.ownedBy owner view && 0 < width && 0 < height) = true
    · have hparts := hguard
      simp only [Bool.and_eq_true, decide_eq_true_eq] at hparts
      obtain ⟨⟨howned, hwidth⟩, hheight⟩ := hparts
      have hactive : s.coordinator.activeLease = some lease := hiff.mpr howned
      have hrefused : (decide (some lease ≠ s.coordinator.activeLease) || decide (width ≤ 0) ||
          decide (height ≤ 0)) = false := by
        simp [hactive, Int32.not_le, hwidth, hheight]
      simp only [hrefused, Bool.false_eq_true, if_false, hguard, if_true]
      cases howner : owner with
      | none => simp [SurfaceOwner.ownedBy, howner] at howned
      | some current =>
        subst howner
        exact
          { generation_nonneg := h.generation_nonneg
            lease_le := h.lease_le
            active_le := h.active_le
            active_isSome := h.active_isSome
            active_iff := h.active_iff
            owner_leased := by
              intro other hother
              cases hother
              exact h.owner_leased current rfl
            output := h.output
            state := by simp [h.state] }
    · have hrefused : (decide (some lease ≠ s.coordinator.activeLease) || decide (width ≤ 0) ||
          decide (height ≤ 0)) = true := by
        by_contra haccepted
        simp only [Bool.or_eq_true, decide_eq_true_eq, not_or, ne_eq, not_not, Int32.not_le]
          at haccepted
        obtain ⟨⟨hactive, hwidth⟩, hheight⟩ := haccepted
        exact hguard (by simp [hiff.mp hactive.symm, hwidth, hheight])
      simp only [hrefused, if_true, hguard, Bool.false_eq_true, if_false]
      exact h

theorem Represents.releaseController (h : Represents s owner) :
    Represents { s with coordinator := s.coordinator.release.2 } none := by
  rw [SurfaceLeaseCoordinator.release]
  cases hactive : s.coordinator.activeLease with
  | none =>
    have hnone : owner = none := by
      have hsome := h.active_isSome
      rw [hactive] at hsome
      simpa using hsome.symm
    subst hnone
    exact h
  | some lease => exact h.cleared fun _ _ hfound => hfound

/-- The generation has not run through all of its values. -/
def HasRoom (s : SurfaceViews α) (step : SurfaceStep α) : Prop :=
  step.isCreation = true → s.coordinator.generation.toInt < 2 ^ 63 - 1

/-- The leases do what the ownership of the output says. -/
theorem refines_owner : Refines (machine : Machine (SurfaceViews α) (SurfaceStep α))
    SurfaceOwner.machine Represents (fun step => [step]) HasRoom where
  step s owner step t h hroom hstep := by
    cases hstep
    refine ⟨SurfaceOwner.next owner step, rfl, ?_⟩
    cases step with
    | surfaceCreated view surface =>
      have hreleased := h.release view
      have hgeneration := release_generation (s := s) view
      exact hreleased.attach (by rw [hgeneration]; exact hroom rfl) view surface
    | surfaceChanged view width height => exact h.surfaceChanged view width height
    | surfaceDestroyed view => exact h.release view
    | dispose view => exact h.release view
    | releaseController => exact h.releaseController

theorem next_generation_toInt (hnonneg : 0 ≤ s.coordinator.generation.toInt)
    {step : SurfaceStep α} (hroom : HasRoom s step) :
    (s.next step).coordinator.generation.toInt =
      s.coordinator.generation.toInt + if step.isCreation then 1 else 0 := by
  cases step with
  | surfaceCreated view surface =>
    have hsame := release_generation (s := s) view
    have hnext := @nextGeneration_toInt _ (s.release view).coordinator (by rwa [hsame])
      (by rw [hsame]; exact hroom rfl)
    rw [hsame] at hnext
    exact hnext
  | surfaceChanged view width height =>
    simp only [next, surfaceChanged, SurfaceLeaseCoordinator.resize, SurfaceStep.isCreation]
    split
    · simp
    · split <;> simp
  | surfaceDestroyed view => simp [next, release_generation, SurfaceStep.isCreation]
  | dispose view => simp [next, release_generation, SurfaceStep.isCreation]
  | releaseController =>
    simp only [next, SurfaceLeaseCoordinator.release, SurfaceStep.isCreation]
    split <;> simp [SurfaceLeaseCoordinator.clear]

theorem admits_of_few {steps : List (SurfaceStep α)}
    (hnonneg : 0 ≤ s.coordinator.generation.toInt)
    (hfew : s.coordinator.generation.toInt + steps.countP (·.isCreation) < 2 ^ 63) :
    machine.Admits HasRoom s steps := by
  induction steps generalizing s with
  | nil => trivial
  | cons step steps ih =>
    rw [List.countP_cons] at hfew
    have hroom : HasRoom s step := by
      intro hcreation
      rw [hcreation] at hfew
      simp only [if_true] at hfew
      omega
    have hnext := next_generation_toInt hnonneg hroom
    refine ⟨hroom, ih ?_ ?_⟩
    · rw [hnext]
      split <;> omega
    · rw [hnext]
      cases hcreation : step.isCreation <;> simp [hcreation] at hfew ⊢ <;> omega

/-- Whatever the views do in whatever order, the decoder draws on the surface of the view that created its
surface last, at the size that view reported last, until that view or the session gives it up. The number
of surfaces stays below the last generation. -/
theorem output_follows_owner {steps : List (SurfaceStep α)}
    (hfew : steps.countP (·.isCreation) < 2 ^ 63) (hrun : machine.run initial steps = some s) :
    ∃ owner, SurfaceOwner.machine.run none steps = some owner ∧
      s.coordinator.updates.getLast?.join = owner.map (·.surface) ∧
      s.coordinator.state.attached = owner.isSome ∧
      s.coordinator.state.width = (owner.bind (·.size)).map Prod.fst ∧
      s.coordinator.state.height = (owner.bind (·.size)).map Prod.snd := by
  have hstart : (initial : SurfaceViews α).coordinator.generation.toInt = 0 := rfl
  have hadmits : machine.Admits HasRoom (initial : SurfaceViews α) steps := by
    apply admits_of_few (Int.le_of_eq hstart.symm)
    rw [hstart]
    omega
  obtain ⟨owner, howner, h⟩ := refines_owner.run represents_initial hadmits hrun
  exact ⟨owner, by simpa using howner, h.output, by rw [h.state], by rw [h.state], by rw [h.state]⟩

/-- The view of the portrait activity is destroyed after the landscape one has taken over. -/
def rotation : List (SurfaceStep String) :=
  [.surfaceCreated 0 "portrait", .surfaceChanged 0 1080 1920, .surfaceCreated 1 "landscape",
    .surfaceChanged 1 1920 1080, .surfaceChanged 0 1 1, .surfaceDestroyed 0, .dispose 0]

theorem output_follows_owner_rotation : ∃ s, machine.run initial rotation = some s ∧
    ∃ owner, SurfaceOwner.machine.run none rotation = some owner ∧
      owner = some ⟨1, "landscape", some (1920, 1080)⟩ ∧
      s.coordinator.updates.getLast?.join = owner.map (·.surface) ∧
      s.coordinator.state.attached = owner.isSome ∧
      s.coordinator.state.width = (owner.bind (·.size)).map Prod.fst ∧
      s.coordinator.state.height = (owner.bind (·.size)).map Prod.snd := by
  obtain ⟨owner, howner, hrest⟩ := @output_follows_owner _ _ rotation (by decide) rfl
  have hfinal : owner = some ⟨1, "landscape", some (1920, 1080)⟩ := (Option.some.inj howner).symm
  exact ⟨_, rfl, owner, howner, hfinal, hrest⟩

end SurfaceViews

end LadoFlow.Android
