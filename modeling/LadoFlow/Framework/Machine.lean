import Mathlib.Tactic.Common

/-!
# Machines with labelled steps

A machine is a partial step function; a label that is not enabled gives no successor. Properties
of whole runs follow from what one step preserves, for every run or for the runs whose steps all
meet a guard.
-/

namespace Framework

structure Machine (σ α : Type) where
  step : σ → α → Option σ

namespace Machine

variable {σ α : Type} (m : Machine σ α)

/-- Take the labels in order; every one of them has to be enabled. -/
def run (s : σ) : List α → Option σ
  | [] => some s
  | a :: as =>
    match m.step s a with
    | some t => run t as
    | none => none

/-- Every step of the run from `s` meets the guard in the state before it. -/
def Admits (guard : σ → α → Prop) (s : σ) : List α → Prop
  | [] => True
  | a :: as => guard s a ∧
    match m.step s a with
    | some t => Admits guard t as
    | none => True

instance decidableAdmits (guard : σ → α → Prop) [∀ s a, Decidable (guard s a)] (s : σ) :
    (as : List α) → Decidable (m.Admits guard s as)
  | [] => isTrue trivial
  | a :: as =>
    match h : m.step s a with
    | some t =>
      have := decidableAdmits guard t as
      decidable_of_iff (guard s a ∧ m.Admits guard t as) (by rw [Admits, h])
    | none => decidable_of_iff (guard s a) (by rw [Admits, h]; simp)

theorem Admits.imp {m : Machine σ α} {guard guard' : σ → α → Prop}
    (himp : ∀ s a, guard s a → guard' s a) {s : σ} {as : List α} (h : m.Admits guard s as) :
    m.Admits guard' s as := by
  induction as generalizing s with
  | nil => trivial
  | cons a as ih =>
    obtain ⟨hguard, hrest⟩ := h
    refine ⟨himp s a hguard, ?_⟩
    cases hstep : m.step s a with
    | none => trivial
    | some t =>
      rw [hstep] at hrest
      exact ih hrest

theorem Admits.and {m : Machine σ α} {guard guard' : σ → α → Prop} {s : σ} {as : List α}
    (h : m.Admits guard s as) (h' : m.Admits guard' s as) :
    m.Admits (fun s a => guard s a ∧ guard' s a) s as := by
  induction as generalizing s with
  | nil => trivial
  | cons a as ih =>
    obtain ⟨hguard, hrest⟩ := h
    obtain ⟨hguard', hrest'⟩ := h'
    refine ⟨⟨hguard, hguard'⟩, ?_⟩
    cases hstep : m.step s a with
    | none => trivial
    | some t =>
      rw [hstep] at hrest hrest'
      exact ih hrest hrest'

/-- A guard that every label of the run meets in every state. -/
theorem admits_of_mem {guard : σ → α → Prop} {as : List α} (hguard : ∀ a ∈ as, ∀ s, guard s a)
    (s : σ) : m.Admits guard s as := by
  induction as generalizing s with
  | nil => trivial
  | cons a as ih =>
    refine ⟨hguard a List.mem_cons_self s, ?_⟩
    cases m.step s a with
    | none => trivial
    | some t => exact ih (fun b hb => hguard b (List.mem_cons_of_mem a hb)) t

theorem admits_of_forall {guard : σ → α → Prop} (hguard : ∀ s a, guard s a) (s : σ)
    (as : List α) : m.Admits guard s as :=
  m.admits_of_mem (fun a _ s => hguard s a) s

@[simp] theorem run_nil (s : σ) : m.run s [] = some s := rfl

theorem run_cons {s t : σ} {a : α} {as : List α} :
    m.run s (a :: as) = some t ↔ ∃ u, m.step s a = some u ∧ m.run u as = some t := by
  rw [run]
  cases m.step s a with
  | none => simp
  | some u => simp

theorem run_append {s u : σ} {as bs : List α} :
    m.run s (as ++ bs) = some u ↔ ∃ t, m.run s as = some t ∧ m.run t bs = some u := by
  induction as generalizing s with
  | nil => simp
  | cons a as ih =>
    rw [List.cons_append, run_cons]
    constructor
    · rintro ⟨v, hv, hrun⟩
      obtain ⟨t, ht, hu⟩ := ih.mp hrun
      exact ⟨t, m.run_cons.mpr ⟨v, hv, ht⟩, hu⟩
    · rintro ⟨t, ht, hu⟩
      obtain ⟨v, hv, hrun⟩ := m.run_cons.mp ht
      exact ⟨v, hv, ih.mpr ⟨t, hrun, hu⟩⟩

/-- A property that every guarded step preserves holds at the end of every guarded run. -/
theorem run_invariant_of_admits (guard : σ → α → Prop) (P : σ → Prop)
    (hstep : ∀ s a t, P s → guard s a → m.step s a = some t → P t) {s t : σ} {as : List α}
    (hs : P s) (hadm : m.Admits guard s as) (hrun : m.run s as = some t) : P t := by
  induction as generalizing s with
  | nil =>
    cases hrun
    exact hs
  | cons a as ih =>
    obtain ⟨u, hu, hrun⟩ := m.run_cons.mp hrun
    rw [Admits, hu] at hadm
    exact ih (hstep s a u hs hadm.1 hu) hadm.2 hrun

/-- A property that every step preserves holds at the end of every run. -/
theorem run_invariant (P : σ → Prop) (hstep : ∀ s a t, P s → m.step s a = some t → P t) {s t : σ}
    {as : List α} (hs : P s) (hrun : m.run s as = some t) : P t := by
  induction as generalizing s with
  | nil =>
    cases hrun
    exact hs
  | cons a as ih =>
    obtain ⟨u, hu, hrun⟩ := m.run_cons.mp hrun
    exact ih (hstep s a u hs hu) hrun

/-- A property that an unguarded step establishes and every step keeps holds at the end of every run
that leaves the guard. -/
theorem run_of_not_admits (assumed guard : σ → α → Prop) (P Q : σ → Prop)
    (hstep : ∀ s a t, P s → assumed s a → m.step s a = some t → P t)
    (hbreak : ∀ s a t, P s → ¬guard s a → m.step s a = some t → Q t)
    (hkeep : ∀ s a t, Q s → m.step s a = some t → Q t) {s t : σ} {as : List α} (hs : P s)
    (hassumed : m.Admits assumed s as) (hleaves : ¬m.Admits guard s as)
    (hrun : m.run s as = some t) : Q t := by
  induction as generalizing s with
  | nil => exact absurd trivial hleaves
  | cons a as ih =>
    obtain ⟨u, hu, hrun⟩ := m.run_cons.mp hrun
    rw [Admits, hu] at hassumed hleaves
    by_cases hguard : guard s a
    · have hrest : ¬m.Admits guard u as := fun h => hleaves ⟨hguard, h⟩
      exact ih (hstep s a u hs hassumed.1 hu) hassumed.2 hrest hrun
    · exact m.run_invariant Q hkeep (hbreak s a u hs hguard hu) hrun

/-- A quantity that the guarded steps keep and the others raise is kept by exactly the runs whose
steps all meet the guard. -/
theorem run_eq_iff_admits (guard : σ → α → Prop) (excess : σ → Int)
    (hkeep : ∀ s a t, guard s a → m.step s a = some t → excess t = excess s)
    (hraise : ∀ s a t, ¬guard s a → m.step s a = some t → excess s < excess t) {s t : σ}
    {as : List α} (hrun : m.run s as = some t) :
    excess s ≤ excess t ∧ (excess t = excess s ↔ m.Admits guard s as) := by
  induction as generalizing s with
  | nil =>
    cases hrun
    exact ⟨Int.le_refl _, iff_of_true rfl trivial⟩
  | cons a as ih =>
    obtain ⟨u, hu, hrun⟩ := m.run_cons.mp hrun
    obtain ⟨hle, hiff⟩ := ih hrun
    rw [Admits, hu]
    by_cases hguard : guard s a
    · have hsame := hkeep s a u hguard hu
      rw [hsame] at hle hiff
      exact ⟨hle, hiff.trans (and_iff_right hguard).symm⟩
    · have hlt := hraise s a u hguard hu
      exact ⟨by omega, iff_of_false (by omega) fun h => hguard h.1⟩

/-- Two guards that agree wherever an invariant holds admit the same runs, when guarded steps keep the
invariant. -/
theorem admits_congr {guard guard' : σ → α → Prop} (P : σ → Prop)
    (hiff : ∀ s a, P s → (guard s a ↔ guard' s a))
    (hstep : ∀ s a t, P s → guard s a → m.step s a = some t → P t) {s : σ} (hs : P s)
    (as : List α) : m.Admits guard s as ↔ m.Admits guard' s as := by
  induction as generalizing s with
  | nil => exact Iff.rfl
  | cons a as ih =>
    rw [Admits, Admits, hiff s a hs]
    apply and_congr_right
    intro hguard
    cases hnext : m.step s a with
    | none => exact Iff.rfl
    | some t => exact ih (hstep s a t hs ((hiff s a hs).mpr hguard) hnext)

/-- A run is no longer than the measure that its steps use up. -/
theorem run_length_le (P : σ → Prop) (measure : σ → Nat)
    (hstep : ∀ s a t, P s → m.step s a = some t → P t ∧ measure t < measure s) {s t : σ}
    {as : List α} (hs : P s) (hrun : m.run s as = some t) : as.length + measure t ≤ measure s := by
  induction as generalizing s with
  | nil =>
    cases hrun
    simp
  | cons a as ih =>
    obtain ⟨u, hu, hrun⟩ := m.run_cons.mp hrun
    obtain ⟨hp, hlt⟩ := hstep s a u hs hu
    have hle := ih hp hrun
    rw [List.length_cons]
    omega

end Machine

end Framework
