import Mathlib.Tactic.Common

/-!
# Spaced times

Times of which each is at least a gap after the ones before it. Only so many of them fit before a limit.
-/

namespace Framework

/-- Each time is at least `gap` after the earlier ones. -/
def Spaced (gap : Nat) (times : List Nat) : Prop := times.Pairwise fun a b => a + gap ≤ b

variable {gap start time limit : Nat} {times : List Nat}

theorem spaced_nil : Spaced gap [] := .nil

theorem Spaced.snoc (h : Spaced gap times) (hlast : ∀ earlier ∈ times, earlier + gap ≤ time) :
    Spaced gap (times ++ [time]) := by
  rw [Spaced, List.pairwise_append]
  refine ⟨h, List.pairwise_singleton _ _, ?_⟩
  intro earlier hearlier later hlater
  rw [List.mem_singleton.mp hlater]
  exact hlast earlier hearlier

/-- Spaced times that begin a gap after `start` and end before `limit` fill the room between them. -/
theorem Spaced.length_mul_lt (h : Spaced gap times) (hstart : ∀ t ∈ times, start + gap ≤ t)
    (hlimit : ∀ t ∈ times, t < limit) (hroom : start < limit) : start + times.length * gap < limit := by
  induction times generalizing start with
  | nil => simpa using hroom
  | cons first rest ih =>
    obtain ⟨hgaps, hrest⟩ := List.pairwise_cons.mp h
    have hfirst := hstart first List.mem_cons_self
    have hlater := ih hrest hgaps (fun t ht => hlimit t (List.mem_cons_of_mem first ht))
      (hlimit first List.mem_cons_self)
    rw [List.length_cons, Nat.succ_mul]
    omega

end Framework
