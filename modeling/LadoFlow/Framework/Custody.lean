import Mathlib.Tactic.Common

/-!
# Resources in custody

Several parties hold acquired resources and pass them on. Every acquired resource is held by someone or was
disposed of, never both, and nothing is disposed of twice.
-/

namespace Framework

structure Custody {α : Type} (acquired disposed : List α) (Held : α → Prop) : Prop where
  acquired_nodup : acquired.Nodup
  disposed_nodup : disposed.Nodup
  acquired_of_held : ∀ r, Held r → r ∈ acquired
  notMem_of_held : ∀ r, Held r → r ∉ disposed
  acquired_of_mem : ∀ r ∈ disposed, r ∈ acquired
  settled : ∀ r ∈ acquired, Held r ∨ r ∈ disposed

namespace Custody

variable {α : Type} {acquired disposed : List α} {Held Held' : α → Prop} {r : α}

theorem nodup_snoc {resources : List α} (h : resources.Nodup) (hfresh : r ∉ resources) :
    (resources ++ [r]).Nodup := by
  rw [List.nodup_append]
  simp only [List.mem_singleton, h, true_and]
  constructor
  · simp
  · rintro a ha b rfl rfl
    exact hfresh ha

theorem nil (h : ∀ r, ¬Held r) : Custody [] [] Held where
  acquired_nodup := List.nodup_nil
  disposed_nodup := List.nodup_nil
  acquired_of_held r hr := (h r hr).elim
  notMem_of_held r hr := (h r hr).elim
  acquired_of_mem := by simp
  settled := by simp

/-- Passing a resource from one holder to another changes nothing. -/
theorem congr (h : Custody acquired disposed Held) (hiff : ∀ r, Held' r ↔ Held r) :
    Custody acquired disposed Held' := by
  have hsame : Held' = Held := funext fun r => propext (hiff r)
  rwa [hsame]

theorem acquire (h : Custody acquired disposed Held) (hfresh : r ∉ acquired)
    (hiff : ∀ x, Held' x ↔ Held x ∨ x = r) : Custody (acquired ++ [r]) disposed Held' where
  acquired_nodup := nodup_snoc h.acquired_nodup hfresh
  disposed_nodup := h.disposed_nodup
  acquired_of_held x hx := by
    rcases (hiff x).mp hx with hold | rfl
    · exact List.mem_append_left _ (h.acquired_of_held x hold)
    · simp
  notMem_of_held x hx := by
    rcases (hiff x).mp hx with hold | rfl
    · exact h.notMem_of_held x hold
    · exact fun hmem => hfresh (h.acquired_of_mem x hmem)
  acquired_of_mem x hx := List.mem_append_left _ (h.acquired_of_mem x hx)
  settled x hx := by
    rcases List.mem_append.mp hx with hold | hnew
    · exact (h.settled x hold).imp_left fun hheld => (hiff x).mpr (.inl hheld)
    · exact .inl ((hiff x).mpr (.inr (List.mem_singleton.mp hnew)))

theorem dispose (h : Custody acquired disposed Held) (hheld : Held r)
    (hiff : ∀ x, Held' x ↔ Held x ∧ x ≠ r) : Custody acquired (disposed ++ [r]) Held' where
  acquired_nodup := h.acquired_nodup
  disposed_nodup := nodup_snoc h.disposed_nodup (h.notMem_of_held r hheld)
  acquired_of_held x hx := h.acquired_of_held x ((hiff x).mp hx).1
  notMem_of_held x hx := by
    obtain ⟨hold, hne⟩ := (hiff x).mp hx
    simp [h.notMem_of_held x hold, hne]
  acquired_of_mem x hx := by
    rcases List.mem_append.mp hx with hold | hnew
    · exact h.acquired_of_mem x hold
    · exact List.mem_singleton.mp hnew ▸ h.acquired_of_held r hheld
  settled x hx := by
    by_cases hne : x = r
    · simp [hne]
    · rcases h.settled x hx with hold | hold
      · exact .inl ((hiff x).mpr ⟨hold, hne⟩)
      · exact .inr (List.mem_append_left _ hold)

/-- When nobody holds anything, what was acquired and what was disposed of are the same resources. -/
theorem perm_of_none (h : Custody acquired disposed Held) (hnone : ∀ r, ¬Held r) :
    acquired.Perm disposed := by
  rw [List.perm_ext_iff_of_nodup h.acquired_nodup h.disposed_nodup]
  intro r
  constructor
  · intro hr
    exact (h.settled r hr).resolve_left (hnone r)
  · exact h.acquired_of_mem r

end Custody

end Framework
