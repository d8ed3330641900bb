import Mathlib.Data.Finset.Basic

/-!
# What is held after a stream of presses and releases

A signal presses or releases one thing, or clears all of them. The held set after a stream depends
on what was held before it only through the things that the stream does not mention.
-/

namespace Framework

inductive HeldSignal (α : Type) where
  | press (a : α)
  | release (a : α)
  | clear
  | quiet
  deriving DecidableEq, Repr

variable {α : Type} [DecidableEq α]

namespace HeldSignal

def apply (held : Finset α) : HeldSignal α → Finset α
  | .press a => insert a held
  | .release a => held.erase a
  | .clear => ∅
  | .quiet => held

@[simp] theorem apply_quiet (held : Finset α) : (quiet : HeldSignal α).apply held = held := rfl

/-- A signal holds nothing but what it presses. -/
theorem mem_apply {held : Finset α} {signal : HeldSignal α} {a : α} (h : a ∈ signal.apply held) :
    signal = .press a ∨ a ∈ held := by
  cases signal with
  | press b =>
    cases Finset.mem_insert.mp h with
    | inl hnew => exact .inl (hnew ▸ rfl)
    | inr hold => exact .inr hold
  | release b => exact .inr (Finset.mem_of_mem_erase h)
  | clear => exact absurd h (Finset.notMem_empty a)
  | quiet => exact .inr h

/-- A released thing is held by no one. -/
theorem notMem_apply_release (held : Finset α) (a : α) : a ∉ (release a).apply held :=
  Finset.notMem_erase a held

end HeldSignal

/-- What is held after the signals, in order. -/
def heldAfter (held : Finset α) (signals : List (HeldSignal α)) : Finset α :=
  signals.foldl HeldSignal.apply held

@[simp] theorem heldAfter_nil (held : Finset α) : heldAfter held [] = held := rfl

@[simp] theorem heldAfter_cons (held : Finset α) (signal : HeldSignal α)
    (signals : List (HeldSignal α)) :
    heldAfter held (signal :: signals) = heldAfter (signal.apply held) signals := rfl

@[simp] theorem heldAfter_append (held : Finset α) (first second : List (HeldSignal α)) :
    heldAfter held (first ++ second) = heldAfter (heldAfter held first) second :=
  List.foldl_append

/-- Releases leave what they do not name. -/
theorem mem_heldAfter_releases {held : Finset α} {released : List α} {a : α} :
    a ∈ heldAfter held (released.map .release) ↔ a ∈ held ∧ a ∉ released := by
  induction released generalizing held with
  | nil => simp
  | cons b released ih =>
    rw [List.map_cons, heldAfter_cons, ih, HeldSignal.apply, Finset.mem_erase, List.mem_cons, not_or]
    constructor
    · intro h
      exact ⟨h.1.2, h.1.1, h.2⟩
    · intro h
      exact ⟨⟨h.2.1, h.1⟩, h.2.2⟩

end Framework
