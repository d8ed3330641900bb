import Mathlib.Data.List.Pairwise

/-!
# Merging two ordered lines

A merge writes the heads of two waiting lines to one output. The output stays ordered as long as
every packet it takes from one line is below the whole other line.
-/

namespace Framework

variable {α : Type} {R : α → α → Prop} {done left right : List α} {x : α}

/-- The output followed by either line is ordered, and the lines can be merged. -/
structure MergeOrdered (R : α → α → Prop) (done left right : List α) : Prop where
  left_ordered : (done ++ left).Pairwise R
  right_ordered : (done ++ right).Pairwise R
  comparable : ∀ a ∈ left, ∀ b ∈ right, R a b ∨ R b a

namespace MergeOrdered

theorem symm (h : MergeOrdered R done left right) : MergeOrdered R done right left :=
  ⟨h.right_ordered, h.left_ordered, fun a ha b hb => (h.comparable b hb a ha).symm⟩

theorem done_ordered (h : MergeOrdered R done left right) : done.Pairwise R :=
  (List.pairwise_append.mp h.left_ordered).1

theorem head_lt (h : MergeOrdered R done (x :: left) right) : ∀ y ∈ left, R x y :=
  (List.pairwise_cons.mp (List.pairwise_append.mp h.left_ordered).2.1).1

/-- Take the head of the left line when it is below the right line. -/
theorem take_left (h : MergeOrdered R done (x :: left) right) (hx : ∀ y ∈ right, R x y) :
    MergeOrdered R (done ++ [x]) left right := by
  refine ⟨?_, ?_, fun a ha b hb => h.comparable a (List.mem_cons_of_mem _ ha) b hb⟩
  · rw [List.append_assoc]
    exact h.left_ordered
  · obtain ⟨hdone, -, hlt⟩ := List.pairwise_append.mp h.left_ordered
    obtain ⟨-, hright, hdr⟩ := List.pairwise_append.mp h.right_ordered
    rw [List.append_assoc]
    refine List.pairwise_append.mpr ⟨hdone, List.pairwise_cons.mpr ⟨hx, hright⟩, ?_⟩
    intro a ha b hb
    rcases List.mem_cons.mp hb with rfl | hb
    · exact hlt a ha b List.mem_cons_self
    · exact hdr a ha b hb

/-- Drop packets from the left line and append one that is above everything before it. -/
theorem push_left {kept : List α} (h : MergeOrdered R done left right) (hkept : kept.Sublist left)
    (hx : ∀ y, y ∈ done ∨ y ∈ left ∨ y ∈ right → R y x) :
    MergeOrdered R done (kept ++ [x]) right := by
  refine ⟨?_, h.right_ordered, ?_⟩
  · rw [← List.append_assoc]
    refine List.pairwise_append.mpr
      ⟨h.left_ordered.sublist (hkept.append_left done), List.pairwise_singleton R x, ?_⟩
    intro a ha b hb
    rw [List.mem_singleton] at hb
    subst hb
    rcases List.mem_append.mp ha with ha | ha
    · exact hx a (.inl ha)
    · exact hx a (.inr (.inl (hkept.subset ha)))
  · intro a ha b hb
    rcases List.mem_append.mp ha with ha | ha
    · exact h.comparable a (hkept.subset ha) b hb
    · rw [List.mem_singleton] at ha
      subst ha
      exact .inr (hx b (.inr (.inr hb)))

end MergeOrdered

end Framework
