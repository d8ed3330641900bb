import Mathlib.Tactic.Common

/-!
# While loops with a decreasing measure

A loop is a step function that either continues with a new state or leaves with a result.
Execution is by fuel; the measure shows that enough fuel always exists, so the loop denotes a
total function and is reasoned about by its unfolding equation and by invariants.
-/

namespace Framework

structure Loop (σ ρ : Type) where
  step : σ → σ ⊕ ρ
  measure : σ → Nat
  decreases : ∀ s s', step s = .inl s' → measure s' < measure s

namespace Loop

variable {σ ρ : Type} (L : Loop σ ρ)

def runFuel : Nat → σ → Option ρ
  | 0, _ => none
  | fuel + 1, s =>
    match L.step s with
    | .inl s' => runFuel fuel s'
    | .inr r => some r

theorem runFuel_isSome (fuel : Nat) (s : σ) (h : L.measure s < fuel) :
    (L.runFuel fuel s).isSome := by
  induction fuel generalizing s with
  | zero => exact absurd h (Nat.not_lt_zero _)
  | succ fuel ih =>
    rw [runFuel]
    cases hs : L.step s with
    | inl s' =>
      have hd := L.decreases s s' hs
      exact ih s' (by omega)
    | inr r => rfl

/-- The result of the loop; the measure bounds the number of iterations. -/
def run (s : σ) : ρ :=
  (L.runFuel (L.measure s + 1) s).get (L.runFuel_isSome _ s (Nat.lt_succ_self _))

/-- Every fuel above the measure gives the same result. -/
theorem runFuel_eq_run (fuel : Nat) (s : σ) (h : L.measure s < fuel) :
    L.runFuel fuel s = some (L.run s) := by
  have hmono (m n : Nat) (s : σ) (r : ρ) (hr : L.runFuel m s = some r) (hmn : m ≤ n) :
      L.runFuel n s = some r := by
    induction m generalizing n s with
    | zero => simp [runFuel] at hr
    | succ m ih =>
      obtain ⟨n, rfl⟩ := Nat.exists_eq_add_of_lt (Nat.lt_of_lt_of_le (Nat.succ_pos m) hmn)
      rw [Nat.zero_add, runFuel]
      rw [runFuel] at hr
      cases hs : L.step s with
      | inl s' =>
        rw [hs] at hr
        exact ih n s' hr (by omega)
      | inr r' =>
        rw [hs] at hr
        exact hr
  exact hmono _ _ s _ (Option.some_get _).symm h

theorem run_eq (s : σ) :
    L.run s = match L.step s with
      | .inl s' => L.run s'
      | .inr r => r := by
  apply Option.some_inj.mp
  rw [← L.runFuel_eq_run (L.measure s + 1) s (Nat.lt_succ_self _), runFuel]
  cases hs : L.step s with
  | inl s' => exact L.runFuel_eq_run _ s' (L.decreases s s' hs)
  | inr r => rfl

theorem run_inl {s s' : σ} (h : L.step s = .inl s') : L.run s = L.run s' := by
  rw [run_eq, h]

theorem run_inr {s : σ} {r : ρ} (h : L.step s = .inr r) : L.run s = r := by
  rw [run_eq, h]

/-- What a step keeps, and what a leaving step gives, holds of the whole loop. -/
theorem run_invariant {I : σ → Prop} {Q : ρ → Prop}
    (hstep : ∀ s s', I s → L.step s = .inl s' → I s')
    (hdone : ∀ s r, I s → L.step s = .inr r → Q r) {s : σ} (h : I s) : Q (L.run s) := by
  induction hm : L.measure s using Nat.strongRecOn generalizing s with
  | _ m ih =>
    cases hs : L.step s with
    | inl s' =>
      rw [L.run_inl hs]
      exact ih _ (hm ▸ L.decreases s s' hs) (hstep s s' h hs) rfl
    | inr r =>
      rw [L.run_inr hs]
      exact hdone s r h hs

end Loop

end Framework
