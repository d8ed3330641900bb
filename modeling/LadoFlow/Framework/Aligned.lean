import Mathlib.Data.List.Forall2

/-!
# Aligned lists

Two lists are aligned by a relation when they are of one length and related at every place. What holds along
one of them carries over to the other.
-/

namespace Framework

open List (Forall₂)

variable {α β γ : Type} {R : α → β → Prop} {as : List α} {bs : List β}

theorem exists_aligned (h : Forall₂ R as bs) {b : β} (hb : b ∈ bs) : ∃ a ∈ as, R a b := by
  induction h with
  | nil => cases hb
  | cons hfirst _ ih =>
    rcases List.mem_cons.mp hb with rfl | hb
    · exact ⟨_, List.mem_cons_self, hfirst⟩
    · obtain ⟨a, ha, hrelated⟩ := ih hb
      exact ⟨a, List.mem_cons_of_mem _ ha, hrelated⟩

/-- A relation between the places of one list becomes one between the places of the other. -/
theorem pairwise_aligned {P : α → α → Prop} {Q : β → β → Prop} (h : Forall₂ R as bs)
    (hrelated : ∀ a b a' b', R a b → R a' b' → P a a' → Q b b') (hpairwise : as.Pairwise P) :
    bs.Pairwise Q := by
  induction h with
  | nil => exact .nil
  | cons hfirst hrest ih =>
    obtain ⟨hhead, htail⟩ := List.pairwise_cons.mp hpairwise
    refine List.pairwise_cons.mpr ⟨?_, ih htail⟩
    intro b hb
    obtain ⟨a, ha, hab⟩ := exists_aligned hrest hb
    exact hrelated _ _ _ _ hfirst hab (hhead a ha)

/-- A list aligned with one that starts longer is aligned with the start. -/
theorem aligned_prefix (h : Forall₂ R as bs) {start : List β} (hstart : start <+: bs) :
    Forall₂ R (as.take start.length) start := by
  obtain ⟨rest, rfl⟩ := hstart
  exact List.forall₂_take_append as start rest h

theorem aligned_comp {S : β → γ → Prop} {cs : List γ} (h : Forall₂ R as bs) (h' : Forall₂ S bs cs) :
    Forall₂ (fun a c => ∃ b, R a b ∧ S b c) as cs := by
  induction h generalizing cs with
  | nil =>
    cases h'
    exact .nil
  | cons hfirst _ ih =>
    cases h' with
    | cons hfirst' hrest' => exact .cons ⟨_, hfirst, hfirst'⟩ (ih hrest')

/-- Results that are all there are aligned with what they come from. -/
theorem aligned_filterMap {f : α → Option β} (h : ∀ a ∈ as, ∃ b, f a = some b) :
    Forall₂ (fun a b => f a = some b) as (as.filterMap f) := by
  induction as with
  | nil => exact .nil
  | cons a as ih =>
    obtain ⟨b, hb⟩ := h a List.mem_cons_self
    rw [List.filterMap_cons_some hb]
    exact .cons hb (ih fun other hother => h other (List.mem_cons_of_mem a hother))

end Framework
