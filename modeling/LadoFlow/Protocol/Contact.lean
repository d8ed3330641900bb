import LadoFlow.Protocol.Input
import Mathlib.Data.Finset.Basic
import Mathlib.Data.Fintype.Basic

/-!
# Touch contacts

The life of a contact on the wire: it begins, moves and ends or is cancelled, and a focus loss
lifts every contact. The automaton says which streams of events respect this.
-/

namespace LadoFlow.Protocol

/-- The identifiers below `maxTouchContacts`. -/
abbrev Contact := Fin 16

/-- What an input event says about contacts. -/
inductive TouchSignal where
  | touch (contactId : Contact) (phase : TouchPhase)
  | focusLost
  | other
  deriving DecidableEq, Repr

def InputEventKind.signal : InputEventKind → TouchSignal
  | .touch contactId phase _ _ _ =>
    if h : contactId.toNat < 16 then .touch ⟨contactId.toNat, h⟩ phase else .other
  | .focus false => .focusLost
  | _ => .other

theorem InputEvent.contactId_lt (event : InputEvent) {contactId : UInt8} {phase : TouchPhase}
    {x y pressure : UInt16} (h : event.kind = .touch contactId phase x y pressure) :
    contactId.toNat < 16 := by
  have hvalid := event.valid
  rw [h, InputEventKind.validate] at hvalid
  split at hvalid
  · cases hvalid
  · rename_i hlt
    exact UInt8.lt_iff_toNat_lt.mp (UInt8.not_le.mp hlt)

namespace ContactAutomaton

/-- The contacts that are down after a signal, if they allow it. -/
def step (down : Finset Contact) : TouchSignal → Option (Finset Contact)
  | .touch contactId .begin => if contactId ∈ down then none else some (insert contactId down)
  | .touch contactId .move => if contactId ∈ down then some down else none
  | .touch contactId .end | .touch contactId .cancel =>
    if contactId ∈ down then some (down.erase contactId) else none
  | .focusLost => some ∅
  | .other => some down

/-- The contacts that are down after a stream of signals. -/
def run (down : Finset Contact) (signals : List TouchSignal) : Option (Finset Contact) :=
  signals.foldlM step down

@[simp] theorem run_nil (down : Finset Contact) : run down [] = some down := rfl

theorem run_cons {down after : Finset Contact} {signal : TouchSignal}
    {signals : List TouchSignal} :
    run down (signal :: signals) = some after ↔
      ∃ next, step down signal = some next ∧ run next signals = some after := by
  simp only [run, List.foldlM_cons, Option.bind_eq_bind, Option.bind_eq_some_iff]

theorem run_concat {down between after : Finset Contact} {signal : TouchSignal}
    {signals : List TouchSignal} (hrun : run down signals = some between)
    (hstep : step between signal = some after) : run down (signals ++ [signal]) = some after := by
  induction signals generalizing down with
  | nil =>
    cases hrun
    exact run_cons.mpr ⟨after, hstep, rfl⟩
  | cons first signals ih =>
    obtain ⟨next, hnext, hrun⟩ := run_cons.mp hrun
    exact run_cons.mpr ⟨next, hnext, ih hrun⟩

end ContactAutomaton

end LadoFlow.Protocol
