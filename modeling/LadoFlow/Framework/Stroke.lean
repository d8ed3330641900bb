import LadoFlow.Framework.Trace
import Mathlib.Data.List.Induction

/-!
# Strokes in a log

Each entry of a log opens a stroke, stays inside it or closes it. A log that opens and closes in turn
is a row of whole strokes, with one unfinished stroke at its end while it is open.
-/

namespace Framework

inductive Mark where
  | opening
  | inside
  | closing
  deriving DecidableEq, Repr

/-- Whether a stroke is open after the mark; `none` for a mark out of place. -/
def Mark.next : Bool → Mark → Option Bool
  | false, .opening => some true
  | true, .inside => some true
  | true, .closing => some false
  | _, _ => none

variable {α : Type} {mark : α → Mark} {log : List α} {isOpen : Bool}

def openAfter (mark : α → Mark) (log : List α) : Option Bool :=
  log.foldlM (fun isOpen a => (mark a).next isOpen) false

@[simp] theorem openAfter_nil : openAfter mark [] = some false := rfl

theorem openAfter_snoc (a : α) :
    openAfter mark (log ++ [a]) = (openAfter mark log).bind fun isOpen => (mark a).next isOpen := by
  simp [openAfter, List.foldlM_append]

/-- A stroke that is not closed yet. -/
def Begun (mark : α → Mark) (stroke : List α) : Prop :=
  ∃ first inner, stroke = first :: inner ∧ mark first = .opening ∧ ∀ a ∈ inner, mark a = .inside

def Whole (mark : α → Mark) (stroke : List α) : Prop :=
  ∃ begun last, stroke = begun ++ [last] ∧ Begun mark begun ∧ mark last = .closing

/-- Whole strokes, then the stroke that is open. -/
def InStrokes (mark : α → Mark) (log : List α) (isOpen : Bool) : Prop :=
  ∃ whole rest, log = List.flatten whole ++ rest ∧ (∀ stroke ∈ whole, Whole mark stroke) ∧
    if isOpen then Begun mark rest else rest = []

theorem Begun.snoc {stroke : List α} {a : α} (h : Begun mark stroke) (ha : mark a = .inside) :
    Begun mark (stroke ++ [a]) := by
  obtain ⟨first, inner, rfl, hfirst, hinner⟩ := h
  refine ⟨first, inner ++ [a], rfl, hfirst, ?_⟩
  intro b hb
  cases List.mem_append.mp hb with
  | inl hold => exact hinner b hold
  | inr hnew => exact List.mem_singleton.mp hnew ▸ ha

theorem InStrokes.snoc {a : α} {after : Bool} (h : InStrokes mark log isOpen)
    (hnext : (mark a).next isOpen = some after) : InStrokes mark (log ++ [a]) after := by
  obtain ⟨whole, rest, rfl, hwhole, hrest⟩ := h
  cases isOpen with
  | false =>
    cases hmark : mark a with
    | opening =>
      rw [hmark] at hnext
      cases hnext
      have hnil : rest = [] := hrest
      refine ⟨whole, [a], by rw [hnil, List.append_nil], hwhole, ?_⟩
      exact ⟨a, [], rfl, hmark, by simp⟩
    | inside => simp [hmark, Mark.next] at hnext
    | closing => simp [hmark, Mark.next] at hnext
  | true =>
    have hbegun : Begun mark rest := hrest
    cases hmark : mark a with
    | opening => simp [hmark, Mark.next] at hnext
    | inside =>
      rw [hmark] at hnext
      cases hnext
      exact ⟨whole, rest ++ [a], List.append_assoc _ _ _, hwhole, hbegun.snoc hmark⟩
    | closing =>
      rw [hmark] at hnext
      cases hnext
      refine ⟨whole ++ [rest ++ [a]], [], ?_, ?_, rfl⟩
      · simp
      · intro stroke hstroke
        cases List.mem_append.mp hstroke with
        | inl hold => exact hwhole stroke hold
        | inr hnew => exact List.mem_singleton.mp hnew ▸ ⟨rest, a, rfl, hbegun, hmark⟩

theorem inStrokes_of_openAfter (h : openAfter mark log = some isOpen) :
    InStrokes mark log isOpen := by
  induction log using List.reverseRecOn generalizing isOpen with
  | nil =>
    cases h
    exact ⟨[], [], rfl, by simp, rfl⟩
  | append_singleton log a ih =>
    rw [openAfter_snoc] at h
    obtain ⟨before, hbefore, hnext⟩ := Option.bind_eq_some_iff.mp h
    exact (ih hbefore).snoc hnext

/-- A stroke is open while the last entry did not close it. -/
theorem openAfter_last (h : openAfter mark log = some isOpen) :
    isOpen = true ↔ ∃ last, log.getLast? = some last ∧ mark last ≠ .closing := by
  induction log using List.reverseRecOn with
  | nil =>
    cases h
    simp
  | append_singleton log a ih =>
    rw [openAfter_snoc] at h
    obtain ⟨before, hbefore, hnext⟩ := Option.bind_eq_some_iff.mp h
    rw [List.getLast?_append, List.getLast?_singleton]
    cases before <;> cases hmark : mark a <;> simp_all [Mark.next]

theorem length_of_openAfter (h : openAfter mark log = some isOpen)
    (hinside : ∀ a ∈ log, mark a ≠ .inside) : log.length % 2 = isOpen.toNat := by
  induction log using List.reverseRecOn generalizing isOpen with
  | nil =>
    cases h
    simp
  | append_singleton log a ih =>
    rw [openAfter_snoc] at h
    obtain ⟨before, hbefore, hnext⟩ := Option.bind_eq_some_iff.mp h
    have hlength := ih hbefore fun b hb => hinside b (List.mem_append_left _ hb)
    have ha := hinside a (by simp)
    rw [List.length_append, List.length_singleton]
    cases before <;> cases hmark : mark a <;> simp_all [Mark.next] <;> omega

/-- Without entries inside a stroke the log alternates, and begins by opening. -/
theorem openAfter_alternates (h : openAfter mark log = some isOpen)
    (hinside : ∀ a ∈ log, mark a ≠ .inside) (i : Nat) (a : α) (ha : log[i]? = some a) :
    mark a = .opening ↔ i % 2 = 0 := by
  induction log using List.reverseRecOn generalizing isOpen with
  | nil => simp at ha
  | append_singleton log last ih =>
    rw [openAfter_snoc] at h
    obtain ⟨before, hbefore, hnext⟩ := Option.bind_eq_some_iff.mp h
    have hold : ∀ b ∈ log, mark b ≠ .inside := fun b hb => hinside b (List.mem_append_left _ hb)
    rcases getElem?_snoc ha with ⟨ha, -⟩ | ⟨rfl, rfl⟩
    · exact ih hbefore hold ha
    · rw [length_of_openAfter hbefore hold]
      cases before <;> cases hmark : mark a <;> simp_all [Mark.next]

end Framework
