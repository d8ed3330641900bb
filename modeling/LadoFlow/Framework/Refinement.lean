import LadoFlow.Framework.Machine

/-!
# Refinement of one machine by another

A concrete machine refines an abstract one when each of its guarded steps is a run of the abstract machine
between related states. A step that the abstract machine does not see is the empty run.
-/

namespace Framework

variable {σ τ α β : Type}

structure Refines (concrete : Machine σ α) (abstract : Machine τ β) (R : σ → τ → Prop)
    (means : α → List β) (guard : σ → α → Prop) : Prop where
  step : ∀ s u a t, R s u → guard s a → concrete.step s a = some t →
    ∃ v, abstract.run u (means a) = some v ∧ R t v

namespace Refines

variable {concrete : Machine σ α} {abstract : Machine τ β} {R : σ → τ → Prop} {means : α → List β}
  {guard : σ → α → Prop}

/-- Every guarded run of the concrete machine is a run of the abstract one. -/
theorem run (h : Refines concrete abstract R means guard) {s t : σ} {u : τ} {as : List α}
    (hrelated : R s u) (hadmits : concrete.Admits guard s as) (hrun : concrete.run s as = some t) :
    ∃ v, abstract.run u (as.flatMap means) = some v ∧ R t v := by
  induction as generalizing s u with
  | nil =>
    cases hrun
    exact ⟨u, rfl, hrelated⟩
  | cons a as ih =>
    obtain ⟨s', hstep, hrest⟩ := concrete.run_cons.mp hrun
    rw [Machine.Admits, hstep] at hadmits
    obtain ⟨u', hfirst, hrelated'⟩ := h.step s u a s' hrelated hadmits.1 hstep
    obtain ⟨v, hlater, hv⟩ := ih hrelated' hadmits.2 hrest
    exact ⟨v, abstract.run_append.mpr ⟨u', hfirst, hlater⟩, hv⟩

end Refines

end Framework
