import Mathlib.Tactic.Common

/-!
# Laws of traces

A law relates an event to the events before it. A trace that grows by events that meet the law stays
lawful, and every event of a lawful trace can be read with its past.
-/

namespace Framework

variable {ε : Type} {law : List ε → ε → Prop} {trace : List ε}

/-- Every event of the trace meets the law after the events before it. -/
def Lawful (law : List ε → ε → Prop) (trace : List ε) : Prop :=
  ∀ before event after, trace = before ++ event :: after → law before event

/-- A place in an extended trace is the new event or a place in the old trace. -/
theorem snoc_split {before after : List ε} {event other : ε}
    (h : trace ++ [event] = before ++ other :: after) :
    (before = trace ∧ other = event ∧ after = []) ∨
      ∃ initial, trace = before ++ other :: initial ∧ after = initial ++ [event] := by
  rcases List.eq_nil_or_concat after with hnil | ⟨initial, last, hlast⟩
  · rw [hnil] at h
    obtain ⟨htrace, hevent⟩ := List.append_inj' h rfl
    exact .inl ⟨htrace.symm, (List.singleton_inj.mp hevent).symm, hnil⟩
  · rw [hlast, List.concat_eq_append, ← List.cons_append, ← List.append_assoc] at h
    obtain ⟨htrace, hevent⟩ := List.append_inj' h rfl
    rw [List.singleton_inj.mp hevent]
    exact .inr ⟨initial, htrace, by rw [hlast, List.concat_eq_append]⟩

/-- An entry of an extended list is an old one or the new one at its end. -/
theorem getElem?_snoc {entries : List ε} {a b : ε} {i : Nat}
    (h : (entries ++ [a])[i]? = some b) :
    entries[i]? = some b ∧ i < entries.length ∨ b = a ∧ i = entries.length := by
  rcases Nat.lt_or_ge i entries.length with hlt | hge
  · rw [List.getElem?_append_left hlt] at h
    exact .inl ⟨h, hlt⟩
  · have hlt := (List.getElem?_eq_some_iff.mp h).1
    rw [List.length_append, List.length_singleton] at hlt
    have hlast : i = entries.length := by omega
    rw [hlast, List.getElem?_concat_length] at h
    exact .inr ⟨(Option.some.inj h).symm, hlast⟩

theorem lawful_nil : Lawful law [] := by
  intro before event after h
  simp at h

theorem Lawful.snoc {event : ε} (h : Lawful law trace) (hevent : law trace event) :
    Lawful law (trace ++ [event]) := by
  intro before other after hsplit
  rcases snoc_split hsplit with ⟨hbefore, hother, -⟩ | ⟨initial, htrace, -⟩
  · rw [hbefore, hother]
    exact hevent
  · exact h before other initial htrace

theorem Lawful.imp {law' : List ε → ε → Prop} (h : Lawful law trace)
    (himp : ∀ before event, law before event → law' before event) : Lawful law' trace := by
  intro before event after hsplit
  exact himp before event (h before event after hsplit)

/-- Events of which none is bound by the law may be added. -/
theorem Lawful.append {events : List ε} (h : Lawful law trace)
    (hfree : ∀ event ∈ events, ∀ before, law before event) : Lawful law (trace ++ events) := by
  induction events generalizing trace with
  | nil =>
    rw [List.append_nil]
    exact h
  | cons event events ih =>
    have hsnoc := h.snoc (hfree event List.mem_cons_self trace)
    have hrest := ih hsnoc fun other hother => hfree other (List.mem_cons_of_mem event hother)
    rw [List.append_assoc] at hrest
    exact hrest

/-- The entries that an event adds to those that `f` selects. -/
theorem filterMap_snoc {β : Type} (f : ε → Option β) (trace : List ε) (event : ε) :
    (trace ++ [event]).filterMap f = trace.filterMap f ++ (f event).toList := by
  rw [List.filterMap_append]
  cases hevent : f event with
  | none => rw [List.filterMap_cons_none hevent, List.filterMap_nil, Option.toList_none]
  | some b => rw [List.filterMap_cons_some hevent, List.filterMap_nil, Option.toList_some]

/-- The event of a trace that has the given place among those that `f` selects. -/
theorem exists_split_of_filterMap {β : Type} (f : ε → Option β) {k : Nat} {b : β}
    (h : (trace.filterMap f)[k]? = some b) :
    ∃ before event after, trace = before ++ event :: after ∧ f event = some b ∧
      (before.filterMap f).length = k := by
  induction trace generalizing k with
  | nil => simp at h
  | cons event trace ih =>
    cases hevent : f event with
    | none =>
      rw [List.filterMap_cons_none hevent] at h
      obtain ⟨before, other, after, htrace, hother, hlength⟩ := ih h
      refine ⟨event :: before, other, after, by rw [htrace, List.cons_append], hother, ?_⟩
      rw [List.filterMap_cons_none hevent]
      exact hlength
    | some c =>
      rw [List.filterMap_cons_some hevent] at h
      cases k with
      | zero =>
        rw [List.getElem?_cons_zero] at h
        exact ⟨[], event, trace, rfl, hevent.trans h, rfl⟩
      | succ k =>
        rw [List.getElem?_cons_succ] at h
        obtain ⟨before, other, after, htrace, hother, hlength⟩ := ih h
        refine ⟨event :: before, other, after, by rw [htrace, List.cons_append], hother, ?_⟩
        rw [List.filterMap_cons_some hevent, List.length_cons, hlength]

end Framework
