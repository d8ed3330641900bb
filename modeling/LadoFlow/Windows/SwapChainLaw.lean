import LadoFlow.Framework.Machine
import LadoFlow.Windows.SwapChain

/-!
# Swap chains are served in turn

The contract of IddCx speaks of the swap chains that the driver has not deleted, the oldest first. Only the
oldest is used: its device is set once, every frame taken from it is acknowledged before the next, and it is
deleted with no frame outstanding. A callback returns when no older swap chain is left.
-/

namespace LadoFlow.Windows

open Framework

inductive ChainPhase where
  | given
  | ready
  | frame
  | ended
  deriving DecidableEq

abbrev LiveChains (α : Type) := List (α × ChainPhase)

namespace SwapChainContract

variable {α : Type} [DecidableEq α]

/-- A call on the oldest swap chain leads from one of the phases to another. -/
def use (live : LiveChains α) (handle : Option α) (phase next : ChainPhase) : Option (LiveChains α) :=
  match live with
  | [] => none
  | (chain, current) :: younger =>
    if handle = some chain ∧ current = phase then some ((chain, next) :: younger) else none

def delete (live : LiveChains α) (handle : Option α) : Option (LiveChains α) :=
  match live with
  | [] => none
  | (chain, current) :: younger =>
    if handle = some chain ∧ current ≠ .frame then some younger else none

/-- What may be left when a callback returns. -/
def settled (live : LiveChains α) (callback : MonitorCallback α) (status : Int32) : Bool :=
  match callback with
  | .assignSwapChain chain =>
    live = [] || !failed status && live.map Prod.fst = [chain]
  | .unassignSwapChain | .cleanup => live = [] && status = statusSuccess

def next (live : LiveChains α) : SwapChainEvent α → Option (LiveChains α)
  | .given chain => some (live ++ [(chain, .given)])
  | .setDevice handle result => use live handle .given (if failed result then .ended else .ready)
  | .releaseAndAcquireBuffer handle result =>
    use live handle .ready
      (if result = ePending then .ready else if failed result then .ended else .frame)
  | .finishedProcessingFrame handle result =>
    use live handle .frame (if failed result then .ended else .ready)
  | .delete handle => delete live handle
  | .returned callback status => if settled live callback status then some live else none

def machine : Framework.Machine (LiveChains α) (SwapChainEvent α) where
  step := next

end SwapChainContract

section Conservation

variable {α : Type} [DecidableEq α]

def SwapChainEvent.given? : SwapChainEvent α → Option α
  | given chain => some chain
  | _ => none

def SwapChainEvent.deleted? : SwapChainEvent α → Option α
  | delete handle => handle
  | _ => none

variable {live rest : LiveChains α}

theorem use_eq_some {handle : Option α} {phase next : ChainPhase}
    (h : SwapChainContract.use live handle phase next = some rest) :
    rest.map Prod.fst = live.map Prod.fst := by
  cases live with
  | nil => simp [SwapChainContract.use] at h
  | cons oldest younger =>
    simp only [SwapChainContract.use] at h
    split at h
    · cases h
      rfl
    · cases h

theorem delete_eq_some {handle : Option α}
    (h : SwapChainContract.delete live handle = some rest) :
    live.map Prod.fst = handle.toList ++ rest.map Prod.fst := by
  cases live with
  | nil => simp [SwapChainContract.delete] at h
  | cons oldest younger =>
    simp only [SwapChainContract.delete] at h
    split at h
    · rename_i holdest
      cases h
      simp [holdest.1]
    · cases h

/-- One event keeps the order of the swap chains. -/
theorem contract_step {event : SwapChainEvent α}
    (h : SwapChainContract.machine.step live event = some rest) :
    live.map Prod.fst ++ event.given?.toList = event.deleted?.toList ++ rest.map Prod.fst := by
  cases event with
  | given chain =>
    cases h
    simp [SwapChainEvent.given?, SwapChainEvent.deleted?]
  | delete handle => simp [SwapChainEvent.given?, SwapChainEvent.deleted?, delete_eq_some h]
  | returned callback status =>
    simp only [SwapChainContract.machine, SwapChainContract.next] at h
    split at h
    · cases h
      simp [SwapChainEvent.given?, SwapChainEvent.deleted?]
    · cases h
  | setDevice | releaseAndAcquireBuffer | finishedProcessingFrame =>
    simp [SwapChainEvent.given?, SwapChainEvent.deleted?, use_eq_some h]

/-- The swap chains that were deleted, followed by those that live, are those that were given. -/
theorem contract_run {events : List (SwapChainEvent α)}
    (h : SwapChainContract.machine.run live events = some rest) :
    live.map Prod.fst ++ events.filterMap SwapChainEvent.given? =
      events.filterMap SwapChainEvent.deleted? ++ rest.map Prod.fst := by
  induction events generalizing live with
  | nil =>
    cases h
    simp
  | cons event events ih =>
    obtain ⟨between, hstep, hrun⟩ := SwapChainContract.machine.run_cons.mp h
    have hfirst := contract_step hstep
    have hrest := ih hrun
    rw [← List.singleton_append, List.filterMap_append, List.filterMap_append]
    have hgiven : [event].filterMap SwapChainEvent.given? = event.given?.toList := by
      cases hevent : event.given? <;> simp [hevent]
    have hdeleted : [event].filterMap SwapChainEvent.deleted? = event.deleted?.toList := by
      cases hevent : event.deleted? <;> simp [hevent]
    rw [hgiven, hdeleted, ← List.append_assoc, hfirst, List.append_assoc, hrest, List.append_assoc]

end Conservation

/-- The phases that fit the point of the thread. -/
def ProcessorPoint.admits : ProcessorPoint → ChainPhase → Prop
  | query, phase | setDevice, phase => phase = .given
  | acquire, phase | wait, phase => phase = .ready
  | finish, phase => phase = .frame
  | exit, phase => phase ≠ .frame
  | returned, _ => False

section Simulation

variable {α : Type}

/-- A processor has the one live swap chain that it serves until its thread deletes it. -/
inductive Serves : SwapChainProcessor α → LiveChains α → Prop where
  | running {p : SwapChainProcessor α} {chain : α} {phase : ChainPhase}
      (hchain : p.swapChain = some chain) (hphase : p.point.admits phase) : Serves p [(chain, phase)]
  | returned {p : SwapChainProcessor α} (hchain : p.swapChain = none)
      (hpoint : p.point = .returned) : Serves p []

/-- The swap chain that a callback has not handed to a processor yet. -/
def MonitorCallback.awaiting : MonitorCallback α → LiveChains α
  | assignSwapChain chain => [(chain, .given)]
  | unassignSwapChain | cleanup => []

/-- The live swap chains behind a state of the monitor object. -/
inductive Represents [DecidableEq α] : MonitorContext α → LiveChains α → Prop where
  | unassigned (context : Bool) : Represents ⟨context, none, .idle⟩ []
  | serving {p : SwapChainProcessor α} {live : LiveChains α} (hserves : Serves p live) :
      Represents ⟨true, some p, .idle⟩ live
  | joining {p : SwapChainProcessor α} {own : LiveChains α} (callback : MonitorCallback α)
      (hserves : Serves p own) :
      Represents ⟨true, some p, .joining callback⟩ (own ++ callback.awaiting)
  | starting (chain : α) : Represents ⟨true, none, .starting chain⟩ [(chain, .given)]
  | started {p : SwapChainProcessor α} {live : LiveChains α} {chain : α} (hserves : Serves p live)
      (hlive : live = [] ∨ live.map Prod.fst = [chain]) :
      Represents ⟨true, some p, .returning (.assignSwapChain chain) statusSuccess⟩ live
  | returning (context : Bool) {callback : MonitorCallback α} {status : Int32}
      (hsettled : SwapChainContract.settled [] callback status = true) :
      Represents ⟨context, none, .returning callback status⟩ []

variable {p q : SwapChainProcessor α} {s t : MonitorContext α} {own live : LiveChains α}
  {events : List (SwapChainEvent α)}

theorem Serves.stop (h : Serves p own) : Serves { p with stopEvent := true } own := by
  cases h with
  | running hchain hphase => exact .running hchain hphase
  | returned hchain hpoint => exact .returned hchain hpoint

theorem ProcessorStart.run_ok {calls : ProcessorStart} {chain : α} (h : calls.run chain = .ok p) :
    p = .start chain := by
  simp only [ProcessorStart.run] at h
  split at h
  · split at h
    · cases h
    · split at h <;> cases h
      rfl
  · cases h

/-- What a step of the monitor object can be. -/
theorem next_cases {step : MonitorStep α} (h : s.next step = some (t, events)) :
    (∃ callback, s.running = .idle ∧ (t, events) = s.call callback) ∨
    (∃ callback p, s.running = .joining callback ∧ s.processor = some p ∧ p.point = .returned ∧
      t = s.released callback ∧ events = []) ∨
    (∃ calls chain, s.running = .starting chain ∧ (t, events) = s.start calls chain) ∨
    (∃ callback status, s.running = .returning callback status ∧ t = { s with running := .idle } ∧
      events = [.returned callback status]) ∨
    ∃ move p q, s.processor = some p ∧ p.next move = some (q, events) ∧
      t = { s with processor := some q } := by
  cases step with
  | call callback =>
    simp only [MonitorContext.next] at h
    split at h
    · rename_i hidle
      have hrunning : s.running = .idle := by
        cases hrunning : s.running <;> simp_all
      exact .inl ⟨callback, hrunning, (Option.some.inj h).symm⟩
    · cases h
  | joined =>
    simp only [MonitorContext.next] at h
    split at h
    · rename_i callback p hrunning hprocessor
      split at h
      · rename_i hpoint
        cases h
        exact .inr (.inl ⟨callback, p, hrunning, hprocessor, hpoint, rfl, rfl⟩)
      · cases h
    · cases h
  | start calls =>
    simp only [MonitorContext.next] at h
    split at h
    · rename_i chain hrunning
      exact .inr (.inr (.inl ⟨calls, chain, hrunning, (Option.some.inj h).symm⟩))
    · cases h
  | «return» =>
    simp only [MonitorContext.next] at h
    split at h
    · rename_i callback status hrunning
      cases h
      exact .inr (.inr (.inr (.inl ⟨callback, status, hrunning, rfl, rfl⟩)))
    · cases h
  | processor move =>
    simp only [MonitorContext.next] at h
    split at h
    · cases h
    · rename_i p hprocessor
      obtain ⟨⟨q, called⟩, hmove, hmoved⟩ := Option.map_eq_some_iff.mp h
      cases hmoved
      exact .inr (.inr (.inr (.inr ⟨move, p, q, hprocessor, hmove, rfl⟩)))

variable [DecidableEq α]

theorem use_self {chain : α} {phase next : ChainPhase} {younger : LiveChains α} :
    SwapChainContract.use ((chain, phase) :: younger) (some chain) phase next =
      some ((chain, next) :: younger) := by
  simp [SwapChainContract.use]

theorem run_one (event : SwapChainEvent α) :
    SwapChainContract.machine.run live [event] = SwapChainContract.next live event := by
  simp only [Framework.Machine.run, SwapChainContract.machine]
  cases SwapChainContract.next live event <;> rfl

/-- A step of the thread keeps to the contract, whatever younger swap chains wait. -/
theorem Serves.next (h : Serves p own) {step : ProcessorStep} (hstep : p.next step = some (q, events))
    (younger : LiveChains α) :
    ∃ own', SwapChainContract.machine.run (own ++ younger) events = some (own' ++ younger) ∧
      Serves q own' ∧ (own' = [] ∨ own'.map Prod.fst = own.map Prod.fst) := by
  obtain ⟨swapChain, stopEvent, framesProcessed, point⟩ := p
  cases h with
  | returned hchain hpoint =>
    cases hpoint
    simp [SwapChainProcessor.next] at hstep
  | @running chain phase hchain hphase =>
    cases hchain
    cases point with
    | query =>
      cases step <;> simp only [SwapChainProcessor.next, reduceCtorEq, Option.some.injEq] at hstep
      cases hstep
      refine ⟨[(chain, phase)], rfl, .running rfl ?_, .inr rfl⟩
      rw [show phase = .given from hphase]
      dsimp only
      split <;> simp [ProcessorPoint.admits]
    | setDevice =>
      cases step <;> simp only [SwapChainProcessor.next, reduceCtorEq, Option.some.injEq] at hstep
      rename_i result
      cases hstep
      rw [show phase = .given from hphase]
      refine ⟨[(chain, if failed result then .ended else .ready)], ?_, .running rfl ?_, .inr rfl⟩
      · rw [run_one]
        exact use_self
      · dsimp only
        split <;> simp [ProcessorPoint.admits]
    | acquire =>
      cases step <;> simp only [SwapChainProcessor.next, reduceCtorEq, Option.some.injEq] at hstep
      rename_i result
      cases hstep
      rw [show phase = .ready from hphase]
      refine ⟨[(chain, if result = ePending then .ready else if failed result then .ended else .frame)],
        ?_, .running rfl ?_, .inr rfl⟩
      · rw [run_one]
        exact use_self
      · dsimp only
        split
        · simp [ProcessorPoint.admits]
        · split <;> simp [ProcessorPoint.admits]
    | wait =>
      cases step <;> simp only [SwapChainProcessor.next, reduceCtorEq] at hstep
      have hready : phase = .ready := hphase
      refine ⟨[(chain, phase)], ?_, ?_, .inr rfl⟩ <;> split at hstep
      · cases hstep
        rfl
      · split at hstep <;> cases hstep
        rfl
      · cases hstep
        exact .running rfl hphase
      · split at hstep <;> cases hstep
        exact .running rfl (by simp [ProcessorPoint.admits, hready])
    | finish =>
      cases step <;> simp only [SwapChainProcessor.next, reduceCtorEq] at hstep
      rename_i result
      rw [show phase = .frame from hphase]
      refine ⟨[(chain, if failed result then .ended else .ready)], ?_, ?_, .inr rfl⟩ <;> split at hstep
      · cases hstep
        rw [run_one]
        exact use_self
      · cases hstep
        rw [run_one]
        exact use_self
      · rename_i hfailed
        cases hstep
        exact .running rfl (by simp [ProcessorPoint.admits, hfailed])
      · rename_i hfailed
        cases hstep
        exact .running rfl (by simp [ProcessorPoint.admits, hfailed])
    | exit =>
      cases step <;> simp only [SwapChainProcessor.next, reduceCtorEq, Option.some.injEq] at hstep
      cases hstep
      refine ⟨[], ?_, .returned rfl rfl, .inl rfl⟩
      rw [run_one]
      simp [SwapChainContract.next, SwapChainContract.delete, show phase ≠ .frame from hphase]
    | returned => exact hphase.elim

/-- The old processor is gone. -/
theorem Represents.released (callback : MonitorCallback α) (p : Option (SwapChainProcessor α))
    (running : CallbackPoint α) :
    Represents (MonitorContext.released ⟨true, p, running⟩ callback) callback.awaiting := by
  cases callback with
  | assignSwapChain chain => exact .starting chain
  | unassignSwapChain => exact .returning true rfl
  | cleanup => exact .returning false rfl

theorem Represents.unassign (h : Represents s live) (hidle : s.running = .idle)
    (hcontext : s.context = true) (callback : MonitorCallback α) :
    Represents (s.unassignSwapChain callback) (live ++ callback.awaiting) := by
  cases h with
  | unassigned context =>
    cases hcontext
    exact .released callback none .idle
  | serving hserves => exact .joining callback hserves.stop
  | joining | starting | started | returning => cases hidle

theorem Represents.idle_live (h : Represents s live) (hidle : s.running = .idle)
    (hcontext : s.context = false) : s.processor = none ∧ live = [] := by
  cases h with
  | unassigned context => exact ⟨rfl, rfl⟩
  | serving hserves => cases hcontext
  | joining | starting | started | returning => cases hidle

/-- A callback reaches the driver. -/
theorem Represents.call (h : Represents s live) (hidle : s.running = .idle)
    (callback : MonitorCallback α) :
    ∃ live', SwapChainContract.machine.run live (s.call callback).2 = some live' ∧
      Represents (s.call callback).1 live' := by
  cases hcontext : s.context with
  | true =>
    refine ⟨live ++ callback.awaiting, ?_, ?_⟩
    · cases callback <;> simp [MonitorContext.call, hcontext, run_one, SwapChainContract.next,
        MonitorCallback.awaiting]
    · cases callback <;> simp only [MonitorContext.call, hcontext, if_true] <;>
        exact h.unassign hidle hcontext _
  | false =>
    obtain ⟨hprocessor, rfl⟩ := h.idle_live hidle hcontext
    refine ⟨[], ?_, ?_⟩
    · cases callback <;> simp [MonitorContext.call, hcontext, Framework.Machine.run,
        SwapChainContract.machine, SwapChainContract.next, SwapChainContract.delete]
    · cases callback <;> simp only [MonitorContext.call, hcontext, hprocessor, Bool.false_eq_true, if_false] <;>
        exact .returning false rfl

/-- The rest of `AssignSwapChain` either leaves a thread with the swap chain or deletes it. -/
theorem Represents.start (chain : α) (calls : ProcessorStart) :
    ∃ live', SwapChainContract.machine.run [(chain, .given)]
        ((MonitorContext.start ⟨true, none, .starting chain⟩ calls chain).2) = some live' ∧
      Represents (MonitorContext.start ⟨true, none, .starting chain⟩ calls chain).1 live' := by
  rw [MonitorContext.start]
  cases hrun : calls.run chain with
  | ok p =>
    cases ProcessorStart.run_ok hrun
    exact ⟨[(chain, .given)], rfl, .started (.running rfl rfl) (.inr rfl)⟩
  | error status =>
    refine ⟨[], ?_, .returning true rfl⟩
    rw [run_one]
    simp [SwapChainContract.next, SwapChainContract.delete]

theorem Represents.return (h : Represents s live) {callback : MonitorCallback α} {status : Int32}
    (hrunning : s.running = .returning callback status) :
    SwapChainContract.machine.run live [.returned callback status] = some live ∧
      Represents { s with running := .idle } live := by
  rw [run_one]
  cases h with
  | @started p live chain hserves hlive =>
    cases hrunning
    refine ⟨?_, .serving hserves⟩
    have hsettled :
        SwapChainContract.settled live (.assignSwapChain chain) statusSuccess = true := by
      rcases hlive with hnil | hone
      · simp [SwapChainContract.settled, hnil]
      · simp [SwapChainContract.settled, hone, failed, statusSuccess]
    simp [SwapChainContract.next, hsettled]
  | returning context hsettled =>
    cases hrunning
    exact ⟨by simp [SwapChainContract.next, hsettled], .unassigned context⟩
  | unassigned | serving | joining | starting => cases hrunning

/-- The thread that a callback waits for has returned. -/
theorem Represents.joined (h : Represents s live) {callback : MonitorCallback α}
    (hrunning : s.running = .joining callback) (hprocessor : s.processor = some p)
    (hpoint : p.point = .returned) : Represents (s.released callback) live := by
  cases h with
  | joining _ hserves =>
    cases hrunning
    cases hprocessor
    cases hserves with
    | running hchain hphase =>
      rw [hpoint] at hphase
      exact hphase.elim
    | returned hchain => exact .released callback _ _
  | unassigned | serving | starting | started | returning => cases hrunning

/-- A step of the thread, wherever the callbacks stand. -/
theorem Represents.processor (h : Represents s live) (hprocessor : s.processor = some p)
    {move : ProcessorStep} (hmove : p.next move = some (q, events)) :
    ∃ live', SwapChainContract.machine.run live events = some live' ∧
      Represents { s with processor := some q } live' := by
  cases h with
  | serving hserves =>
    cases hprocessor
    obtain ⟨own, hrun, hserves', -⟩ := hserves.next hmove []
    rw [List.append_nil, List.append_nil] at hrun
    exact ⟨own, hrun, .serving hserves'⟩
  | joining callback hserves =>
    cases hprocessor
    obtain ⟨own, hrun, hserves', -⟩ := hserves.next hmove callback.awaiting
    exact ⟨_, hrun, .joining callback hserves'⟩
  | started hserves hlive =>
    cases hprocessor
    obtain ⟨own, hrun, hserves', hown⟩ := hserves.next hmove []
    rw [List.append_nil, List.append_nil] at hrun
    refine ⟨own, hrun, .started hserves' ?_⟩
    rcases hown with hnil | hsame
    · exact .inl hnil
    · rw [hsame]
      exact hlive.imp_left fun hnil => by simpa [hnil] using hsame
  | unassigned | starting | returning => cases hprocessor

/-- One step of the monitor object keeps to the contract. -/
theorem Represents.next (h : Represents s live) {step : MonitorStep α}
    (hstep : s.next step = some (t, events)) :
    ∃ live', SwapChainContract.machine.run live events = some live' ∧ Represents t live' := by
  rcases next_cases hstep with ⟨callback, hidle, hcall⟩ | ⟨callback, p, hrunning, hprocessor, hpoint, ht, hnone⟩ |
      ⟨calls, chain, hrunning, hstart⟩ | ⟨callback, status, hrunning, ht, hevent⟩ |
      ⟨move, p, q, hprocessor, hmove, ht⟩
  · obtain ⟨rfl, rfl⟩ := Prod.ext_iff.mp hcall
    exact h.call hidle callback
  · rw [ht, hnone]
    exact ⟨live, rfl, h.joined hrunning hprocessor hpoint⟩
  · obtain ⟨rfl, rfl⟩ := Prod.ext_iff.mp hstart
    cases h with
    | starting =>
      cases hrunning
      exact Represents.start chain calls
    | unassigned | serving | joining | started | returning => cases hrunning
  · rw [ht, hevent]
    exact ⟨live, h.return hrunning⟩
  · rw [ht]
    exact h.processor hprocessor hmove

theorem Represents.length_le (h : Represents s live) :
    live.length ≤ 2 ∧ (s.running = .idle → live.length ≤ 1 ∧ (s.processor = none → live = [])) := by
  have hown : ∀ {p : SwapChainProcessor α} {own : LiveChains α}, Serves p own → own.length ≤ 1 := by
    intro p own hserves
    cases hserves <;> simp
  cases h with
  | unassigned => simp
  | serving hserves =>
    have hone := hown hserves
    exact ⟨by omega, fun _ => ⟨hone, by simp⟩⟩
  | joining callback hserves =>
    have hone := hown hserves
    cases callback <;> simp [MonitorCallback.awaiting] <;> omega
  | starting => simp
  | started hserves =>
    have hone := hown hserves
    exact ⟨by omega, by simp⟩
  | returning => simp

end Simulation

namespace MonitorContext

variable {α : Type} [DecidableEq α]

/-- The monitor object with the events so far. -/
def machine : Framework.Machine (MonitorContext α × List (SwapChainEvent α)) (MonitorStep α) where
  step s step := (s.1.next step).map fun moved => (moved.1, s.2 ++ moved.2)

/-- Every run of the monitor object is a run of the contract. -/
theorem run_represents {steps : List (MonitorStep α)} {s : MonitorContext α}
    {events : List (SwapChainEvent α)} (h : machine.run (initial, []) steps = some (s, events)) :
    ∃ live, SwapChainContract.machine.run [] events = some live ∧ Represents s live := by
  refine machine.run_invariant
    (fun s => ∃ live, SwapChainContract.machine.run [] s.2 = some live ∧ Represents s.1 live) ?_ ?_ h
  · rintro ⟨s, events⟩ step ⟨t, later⟩ ⟨live, hrun, hrepresents⟩ hstep
    obtain ⟨⟨moved, called⟩, hnext, hmoved⟩ := Option.map_eq_some_iff.mp hstep
    cases hmoved
    obtain ⟨live', hcalled, hrepresents'⟩ := hrepresents.next hnext
    exact ⟨live', SwapChainContract.machine.run_append.mpr ⟨live, hrun, hcalled⟩, hrepresents'⟩
  · exact ⟨[], rfl, .unassigned true⟩

/-- Whatever the thread of a processor and the callbacks of the monitor do, the driver uses its swap chains
one at a time and by the contract, and it deletes every one that it was given, once and in the order in which
they came. At most one lives between callbacks, and none when no processor is left. -/
theorem swap_chains_in_turn {steps : List (MonitorStep α)} {s : MonitorContext α}
    {events : List (SwapChainEvent α)} (h : machine.run (initial, []) steps = some (s, events)) :
    ∃ live, SwapChainContract.machine.run [] events = some live ∧
      events.filterMap SwapChainEvent.given? =
        events.filterMap SwapChainEvent.deleted? ++ live.map Prod.fst ∧
      live.length ≤ 2 ∧ (s.running = .idle → live.length ≤ 1 ∧ (s.processor = none → live = [])) := by
  obtain ⟨live, hrun, hrepresents⟩ := run_represents h
  have hconserved := contract_run hrun
  rw [List.map_nil, List.nil_append] at hconserved
  exact ⟨live, hrun, hconserved, hrepresents.length_le⟩

/-- A swap chain is replaced while its thread waits for a frame, and the device of its successor fails. -/
def replacedSteps : List (MonitorStep Nat) :=
  [.call (.assignSwapChain 1), .start ⟨true, 0, 0, 0, true, true, true⟩, .return,
    .processor (.queryInterface 0), .processor (.setDevice 0), .processor (.releaseAndAcquireBuffer 0),
    .processor (.finishedProcessingFrame 0), .processor (.releaseAndAcquireBuffer ePending),
    .call (.assignSwapChain 2), .processor (.waitForMultipleObjects 1), .processor .deleteSwapChain,
    .joined, .start ⟨true, 0, 0, ePending, true, true, true⟩, .return]

theorem swap_chains_in_turn_replaced :
    ∃ s events, machine.run (initial, []) replacedSteps = some (s, events) ∧
      events.filterMap SwapChainEvent.deleted? = [1, 2] ∧
      ∃ live, SwapChainContract.machine.run [] events = some live ∧
        events.filterMap SwapChainEvent.given? =
          events.filterMap SwapChainEvent.deleted? ++ live.map Prod.fst ∧
        live.length ≤ 2 ∧
        (s.running = .idle → live.length ≤ 1 ∧ (s.processor = none → live = [])) :=
  ⟨_, _, rfl, rfl, @swap_chains_in_turn Nat _ replacedSteps _ _ rfl⟩

end MonitorContext

end LadoFlow.Windows
