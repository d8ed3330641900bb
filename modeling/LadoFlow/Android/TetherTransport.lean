import LadoFlow.Android.SessionCallbacks
import LadoFlow.Android.TetherPairingServer

/-!
# Generations of the tether transport

`AndroidUsbTetherTransport` as a machine over the main thread and the listener threads. Each label
is one atomic step: a section under the lock, one check, or one write. The event callback of a
listener checks the generation and then writes the two states without the lock.
-/

namespace LadoFlow.Android

open Framework

inductive UsbTetherPairingState where
  | inactive
  | starting
  | unavailable (reason : String)
  | listening (address : String) (port : Int32) (code : String)
    (expiresAfterSeconds failedHandshakes maximumFailedHandshakes : Int32)
    (lastFailure : Option String)
  | authenticating (address : String) (port : Int32) (code hostAddress : String)
    (failedHandshakes : Int32)
  | authenticated (address : String) (port : Int32) (hostAddress : String)
  | expired (address : String) (port : Int32)
  | lockedOut (address : String) (port : Int32)
  | failed (reason : String) (retryable : Bool)
  deriving DecidableEq

def usbTetherPairingLifetimeMillis : Int64 := 120000
def usbTetherMaxFailedHandshakes : Int32 := 3

inductive ListenerOutcome where
  | server (result : TetherPairingServerResult)
  | unavailable (reason : String)
  | failed (reason : String)
  deriving DecidableEq

/-- One write to one of the two published states. -/
inductive Publication where
  | pairing (state : UsbTetherPairingState)
  | transport (state : UsbTransportState)
  deriving DecidableEq

/-- What a listener does next. -/
inductive ListenerPoint where
  | discovering
  | locking (address : String)
  | registering (address : String)
  | binding (address : String)
  | opened
  | withdrawing
  | withdrawn
  | serving (lastFailure : Option String)
  | publishing (lastFailure : Option String) (first : Publication) (rest : List Publication)
  | served (result : TetherPairingServerResult)
  | cleared (result : TetherPairingServerResult)
  | checking (result : TetherPairingServerResult)
  | finished (outcome : ListenerOutcome)
  | yielding
  | over
  deriving DecidableEq

def ListenerPoint.holdsLock : ListenerPoint → Bool
  | .registering _ => true
  | .binding _ => true
  | _ => false

def ListenerPoint.isPublishing : ListenerPoint → Bool
  | .publishing .. => true
  | _ => false

/-- What the network and the pairing server answer. -/
inductive ListenerInput where
  | discovered (address : Except (Option String) (Option String))
  | opened (result : Except (Option String) Unit)
  | event (event : TetherPairingServerEvent)
  | returned (result : TetherPairingServerResult)
  | threw (message : Option String)
  | proceed

/-- A step that an operation of the main thread still has to take; a write on behalf of a listener
carries its generation. -/
inductive MainStep where
  | beginNewGeneration
  | publish (writer : Option Nat) (publication : Publication)
  | launch
  | closeActiveSession
  | openSession (generation : Nat)
  | endSession (generation : Nat)
  deriving DecidableEq

def MainStep.writer : MainStep → Option Nat
  | .publish writer _ => writer
  | .openSession generation => some generation
  | .endSession generation => some generation
  | _ => none

inductive TetherCall where
  | onStart
  | onStop
  | startPairing
  | disconnect
  | close

inductive TetherStep where
  | call (call : TetherCall)
  | main
  | listener (generation : Nat) (input : ListenerInput)
  | outcome (generation : Nat)
  | afterYield (generation : Nat)
  | sessionFailed (message : String)

/-- Tokens, servers and sessions are known by the generation that made them; `completed` is the
newest generation whose call has completed. -/
structure TetherTransport where
  started : Bool
  closed : Bool
  foreground : Bool
  generation : Nat
  lock : Option Nat
  pairingState : UsbTetherPairingState
  state : UsbTransportState
  token : Option Nat
  server : Option Nat
  session : Option Nat
  collecting : Option Nat
  listener : Nat → Option ListenerPoint
  main : List MainStep
  completed : Nat

namespace TetherTransport

def initial : TetherTransport where
  started := false
  closed := false
  foreground := false
  generation := 0
  lock := none
  pairingState := .inactive
  state := .stopped
  token := none
  server := none
  session := none
  collecting := none
  listener _ := none
  main := []
  completed := 0

section Main

variable (s : TetherTransport)

def publish : Publication → TetherTransport
  | .pairing pairingState => { s with pairingState }
  | .transport state => { s with state }

/-- Runs under the lock as a whole. -/
def beginNewGeneration : TetherTransport :=
  { s with
    generation := s.generation + 1
    server := none
    token := none
    session := none
    collecting := none }

def stopPairingAndSession (finalState : UsbTetherPairingState) : List MainStep :=
  [.beginNewGeneration, .publish none (.pairing finalState), .publish none (.transport .stopped)]

def startPairing : TetherTransport :=
  if s.closed then s
  else if ¬s.foreground then
    { s with
      started := true
      main := stopPairingAndSession
        (.unavailable "Keep LadoFlow in the foreground before starting USB tether pairing.") }
  else
    { s with
      started := true
      main := [.beginNewGeneration, .publish none (.pairing .starting),
        .publish none (.transport .stopped), .launch] }

def call : TetherCall → TetherTransport
  | .onStart => { s with foreground := true }
  | .onStop => { s with foreground := false, main := stopPairingAndSession .inactive }
  | .startPairing => s.startPairing
  | .disconnect => { s with main := stopPairingAndSession .inactive }
  | .close =>
    if s.closed then s
    else { s with closed := true, foreground := false, main := stopPairingAndSession .inactive }

def moveTo (generation : Nat) (point : ListenerPoint) : TetherTransport :=
  { s with listener := Function.update s.listener generation (some point) }

def perform : MainStep → TetherTransport
  | .beginNewGeneration => s.beginNewGeneration
  | .publish _ publication => s.publish publication
  | .launch => s.moveTo s.generation .discovering
  | .closeActiveSession => { s with collecting := none, session := none }
  | .openSession generation => { s with session := some generation }
  | .endSession _ => { s with session := none }

/-- A new generation begins when no listener holds the lock. -/
def MainStep.enabled : MainStep → Bool
  | .beginNewGeneration => s.lock.isNone
  | _ => true

/-- The main thread takes its next step. -/
def mainNext : Option TetherTransport :=
  match s.main with
  | [] => none
  | step :: main =>
    if MainStep.enabled s step then
      let next := ({ s with main } : TetherTransport).perform step
      some (if main.isEmpty then { next with completed := next.generation } else next)
    else none

end Main

section Outcomes

variable (s : TetherTransport) (generation : Nat)

/-- The listener finds that it is not the current one. -/
def isStale : Bool := s.generation ≠ generation || s.closed

def failure (pairing : UsbTetherPairingState) (reason : String) : List MainStep :=
  [.publish (some generation) (.pairing pairing),
    .publish (some generation) (.transport (.error reason true))]

def activate (endpoint : TetherListenerEndpoint) (hostAddress : String) : List MainStep :=
  [.closeActiveSession, .openSession generation,
    .publish (some generation)
      (.pairing (.authenticated endpoint.address endpoint.port hostAddress)),
    .publish (some generation) (.transport (.tetherConnected hostAddress))]

def handleListenerOutcome : ListenerOutcome → TetherTransport
  | .unavailable reason =>
    { s.moveTo generation .over with main := failure generation (.unavailable reason) reason }
  | .failed reason =>
    { s.moveTo generation .over with main := failure generation (.failed reason true) reason }
  | .server (.authenticated endpoint hostAddress) =>
    if s.isStale generation ∨ ¬s.foreground then s.moveTo generation .over
    else { s.moveTo generation .yielding with main := activate generation endpoint hostAddress }
  | .server (.expired endpoint) =>
    { s.moveTo generation .over with
      main := failure generation (.expired endpoint.address endpoint.port)
        "USB tether pairing code expired after two minutes." }
  | .server (.lockedOut endpoint) =>
    { s.moveTo generation .over with
      main := failure generation (.lockedOut endpoint.address endpoint.port)
        "USB tether pairing stopped after three failed handshakes." }
  | .server .closed =>
    { s.moveTo generation .over with
      main := [.publish (some generation) (.pairing .inactive),
        .publish (some generation) (.transport .stopped)] }
  | .server (.failed reason) =>
    { s.moveTo generation .over with main := failure generation (.failed reason true) reason }

/-- The coroutine goes on with what its listener returned. -/
def outcomeNext : Option TetherTransport :=
  match s.listener generation with
  | some (.finished outcome) =>
    if s.isStale generation then some (s.moveTo generation .over)
    else some (s.handleListenerOutcome generation outcome)
  | _ => none

def afterYieldNext : Option TetherTransport :=
  match s.listener generation with
  | some .yielding =>
    if s.generation ≠ generation ∨ s.session ≠ some generation then
      some (s.moveTo generation .over)
    else some { s.moveTo generation .over with collecting := some generation }
  | _ => none

def sessionFailedNext (message : String) : Option TetherTransport :=
  match s.collecting with
  | none => none
  | some generation =>
    if s.generation = generation ∧ s.session = some generation then
      let reason := "USB tether LDFL stream ended: " ++ message
      some { s with main := .endSession generation :: failure generation (.failed reason true) reason }
    else some s

end Outcomes

section Listener

variable (s : TetherTransport) (generation : Nat)

/-- The event callback behind its check. -/
def publishEvent (lastFailure : Option String) : TetherPairingServerEvent → ListenerPoint
  | .listening endpoint code failedHandshakes =>
    .publishing lastFailure
      (.pairing (.listening endpoint.address endpoint.port code
        (usbTetherPairingLifetimeMillis / 1000).toInt32 failedHandshakes
        usbTetherMaxFailedHandshakes lastFailure))
      [.transport (.tetherListening endpoint.address endpoint.port failedHandshakes)]
  | .authenticating endpoint code hostAddress failedHandshakes =>
    .publishing lastFailure
      (.pairing (.authenticating endpoint.address endpoint.port code hostAddress
        failedHandshakes))
      [.transport (.tetherAuthenticating hostAddress)]
  | .rejected _ _ reason => .serving (some reason)

def onEvent (lastFailure : Option String) (event : TetherPairingServerEvent) : ListenerPoint :=
  if s.isStale generation then .serving lastFailure else publishEvent lastFailure event

/-- `compareAndSet` of an atomic reference to none. -/
def clearIfOwn (owner : Option Nat) : Option Nat :=
  if owner = some generation then none else owner

def listenerNext (input : ListenerInput) : Option TetherTransport :=
  match s.listener generation, input with
  | some .discovering, .discovered (.error message) =>
    some (s.moveTo generation (.finished (.unavailable
      (message.getD "Unable to inspect Android network interfaces"))))
  | some .discovering, .discovered (.ok none) =>
    some (s.moveTo generation (.finished (.unavailable
      ("No active USB tether interface was found. Enable USB tethering, keep the cable " ++
        "connected, then request a new pairing code."))))
  | some .discovering, .discovered (.ok (some address)) =>
    some (s.moveTo generation (.locking address))
  | some (.locking address), .proceed =>
    if s.lock.isSome then none
    else if s.isStale generation then some (s.moveTo generation (.finished (.server .closed)))
    else some { s.moveTo generation (.registering address) with lock := some generation }
  | some (.registering address), .proceed =>
    some { s.moveTo generation (.binding address) with token := some generation }
  | some (.binding _), .opened (.ok _) =>
    some { s.moveTo generation .opened with server := some generation, lock := none }
  | some (.binding _), .opened (.error message) =>
    some
      { s.moveTo generation (.finished (.failed
          (message.getD "Unable to bind the USB tether pairing listener"))) with
        token := clearIfOwn generation s.token
        lock := none }
  | some .opened, .proceed =>
    if s.isStale generation then some (s.moveTo generation .withdrawing)
    else some (s.moveTo generation (.serving none))
  | some .withdrawing, .proceed =>
    some { s.moveTo generation .withdrawn with server := clearIfOwn generation s.server }
  | some .withdrawn, .proceed =>
    some
      { s.moveTo generation (.finished (.server .closed)) with
        token := clearIfOwn generation s.token }
  | some (.serving lastFailure), .event event =>
    some (s.moveTo generation (s.onEvent generation lastFailure event))
  | some (.serving _), .returned result => some (s.moveTo generation (.served result))
  | some (.serving _), .threw message =>
    some (s.moveTo generation (.finished (.failed
      (message.getD "Unable to start USB tether listener"))))
  | some (.publishing lastFailure first []), .proceed =>
    some ((s.publish first).moveTo generation (.serving lastFailure))
  | some (.publishing lastFailure first (second :: rest)), .proceed =>
    some ((s.publish first).moveTo generation (.publishing lastFailure second rest))
  | some (.served result), .proceed =>
    some { s.moveTo generation (.cleared result) with server := clearIfOwn generation s.server }
  | some (.cleared result), .proceed =>
    some { s.moveTo generation (.checking result) with token := clearIfOwn generation s.token }
  | some (.checking result), .proceed =>
    if s.isStale generation then some (s.moveTo generation (.finished (.server .closed)))
    else some (s.moveTo generation (.finished (.server result)))
  | _, _ => none

end Listener

def next (s : TetherTransport) : TetherStep → Option TetherTransport
  | .main => s.mainNext
  | .listener generation input => s.listenerNext generation input
  | .call call => if s.main.isEmpty then some (s.call call) else none
  | .outcome generation => if s.main.isEmpty then s.outcomeNext generation else none
  | .afterYield generation => if s.main.isEmpty then s.afterYieldNext generation else none
  | .sessionFailed message => if s.main.isEmpty then s.sessionFailedNext message else none

def machine : Machine TetherTransport TetherStep where
  step := next

/-- The generation on whose behalf a step is taken. -/
def actor (s : TetherTransport) : TetherStep → Option Nat
  | .listener generation _ => some generation
  | .outcome generation => some generation
  | .afterYield generation => some generation
  | .sessionFailed _ => s.collecting
  | .main => s.main.head?.bind MainStep.writer
  | .call _ => none

/-- When an operation of the main thread completes, no older listener is between its check and the
last of its writes. -/
def Settled (s : TetherTransport) : TetherStep → Prop
  | .main => s.main.length = 1 →
    ∀ generation < s.generation, (s.listener generation).any (·.isPublishing) = false
  | _ => True

def Current (owner : Option Nat) (generation : Nat) : Prop :=
  ∀ other, owner = some other → other = generation

/-- Only the current generation has a token, a server or a session. -/
structure Registered (s : TetherTransport) : Prop where
  token : Current s.token s.generation
  server : Current s.server s.generation
  session : Current s.session s.generation

/-- What one step of a listener can do. -/
inductive ListenerEffect (s : TetherTransport) (generation : Nat) : TetherTransport → Prop
  | move (point : ListenerPoint) (hholds : point.holdsLock = false)
    (hpublishing : point.isPublishing = true → s.generation = generation) :
    ListenerEffect s generation (s.moveTo generation point)
  | acquire (address : String) (hfree : s.lock = none) (hcurrent : s.generation = generation) :
    ListenerEffect s generation
      { s.moveTo generation (.registering address) with lock := some generation }
  | register (address : String) (hpoint : s.listener generation = some (.registering address)) :
    ListenerEffect s generation
      { s.moveTo generation (.binding address) with token := some generation }
  | bind (address : String) (hpoint : s.listener generation = some (.binding address)) :
    ListenerEffect s generation
      { s.moveTo generation .opened with server := some generation, lock := none }
  | unbind (address reason : String)
    (hpoint : s.listener generation = some (.binding address)) :
    ListenerEffect s generation
      { s.moveTo generation (.finished (.failed reason)) with
        token := clearIfOwn generation s.token
        lock := none }
  | clearServer (point : ListenerPoint) (hholds : point.holdsLock = false)
    (hpublishing : point.isPublishing = false) :
    ListenerEffect s generation
      { s.moveTo generation point with server := clearIfOwn generation s.server }
  | clearToken (point : ListenerPoint) (hholds : point.holdsLock = false)
    (hpublishing : point.isPublishing = false) :
    ListenerEffect s generation
      { s.moveTo generation point with token := clearIfOwn generation s.token }
  | write (lastFailure : Option String) (first : Publication) (rest : List Publication)
    (point : ListenerPoint) (hholds : point.holdsLock = false)
    (hpoint : s.listener generation = some (.publishing lastFailure first rest)) :
    ListenerEffect s generation ((s.publish first).moveTo generation point)

section Steps

variable {s t : TetherTransport} {generation : Nat}

theorem isStale_eq_false (h : ¬s.isStale generation = true) : s.generation = generation := by
  simp only [isStale, Bool.or_eq_true, decide_eq_true_eq, not_or, not_not] at h
  exact h.1

theorem onEvent_holdsLock (lastFailure : Option String) (event : TetherPairingServerEvent) :
    (s.onEvent generation lastFailure event).holdsLock = false := by
  rw [onEvent]
  split
  · rfl
  · cases event <;> rfl

theorem onEvent_isPublishing {lastFailure : Option String} {event : TetherPairingServerEvent}
    (h : (s.onEvent generation lastFailure event).isPublishing = true) :
    s.generation = generation := by
  by_cases hstale : s.isStale generation = true
  · rw [onEvent, if_pos hstale] at h
    cases h
  · exact isStale_eq_false hstale

theorem listener_effect {input : ListenerInput} (h : s.listenerNext generation input = some t) :
    ListenerEffect s generation t := by
  simp only [listenerNext] at h
  split at h
  · cases h
    exact .move _ rfl (by simp [ListenerPoint.isPublishing])
  · cases h
    exact .move _ rfl (by simp [ListenerPoint.isPublishing])
  · cases h
    exact .move _ rfl (by simp [ListenerPoint.isPublishing])
  · rename_i address hpoint
    split at h
    · cases h
    rename_i hlock
    have hfree : s.lock = none := by simpa using hlock
    split at h
    · cases h
      exact .move _ rfl (by simp [ListenerPoint.isPublishing])
    · rename_i hstale
      cases h
      exact .acquire address hfree (isStale_eq_false hstale)
  · rename_i address hpoint
    cases h
    exact .register address hpoint
  · rename_i address _ hpoint
    cases h
    exact .bind address hpoint
  · rename_i address message hpoint
    cases h
    exact .unbind address _ hpoint
  · split at h
    · cases h
      exact .move _ rfl (by simp [ListenerPoint.isPublishing])
    · cases h
      exact .move _ rfl (by simp [ListenerPoint.isPublishing])
  · cases h
    exact .clearServer _ rfl rfl
  · cases h
    exact .clearToken _ rfl rfl
  · cases h
    exact .move _ (onEvent_holdsLock _ _) onEvent_isPublishing
  · cases h
    exact .move _ rfl (by simp [ListenerPoint.isPublishing])
  · cases h
    exact .move _ rfl (by simp [ListenerPoint.isPublishing])
  · rename_i lastFailure first hpoint
    cases h
    exact .write lastFailure first [] _ rfl hpoint
  · rename_i lastFailure first second rest hpoint
    cases h
    exact .write lastFailure first (second :: rest) _ rfl hpoint
  · cases h
    exact .clearServer _ rfl rfl
  · cases h
    exact .clearToken _ rfl rfl
  · split at h
    · cases h
      exact .move _ rfl (by simp [ListenerPoint.isPublishing])
    · cases h
      exact .move _ rfl (by simp [ListenerPoint.isPublishing])
  · cases h

end Steps

/-- An operation either begins a generation or acts for the current one. -/
structure Ready (main : List MainStep) (generation : Nat) : Prop where
  writers : ∀ step ∈ main, Current step.writer generation
  begins : .beginNewGeneration ∈ main → ∀ step ∈ main, step.writer = none
  ends : main.getLast? ≠ some .beginNewGeneration

/-- A listener registers under the lock, so it is the current one. -/
structure Inv (s : TetherTransport) : Prop where
  registered : s.Registered
  lock : Current s.lock s.generation
  holder : ∀ generation point, s.listener generation = some point → point.holdsLock = true →
    s.lock = some generation
  ready : Ready s.main s.generation

/-- No listener of a generation before the completed one is about to write. -/
structure Quiet (s : TetherTransport) : Prop where
  completed_le : s.completed ≤ s.generation
  silent : ∀ generation point, s.listener generation = some point → point.isPublishing = true →
    s.completed ≤ generation

section Listeners

variable {s t : TetherTransport} {generation : Nat}

theorem current_none (generation : Nat) : Current none generation := by simp [Current]

theorem current_self (generation : Nat) : Current (some generation) generation := by
  simp [Current]

theorem Current.clear {owner : Option Nat} {current : Nat} (h : Current owner current)
    (generation : Nat) : Current (clearIfOwn generation owner) current := by
  rw [clearIfOwn]
  split
  · exact current_none current
  · exact h

theorem moveTo_listener_self (point : ListenerPoint) :
    (s.moveTo generation point).listener generation = some point :=
  Function.update_self ..

theorem moveTo_listener_of_ne {other : Nat} (point : ListenerPoint) (h : other ≠ generation) :
    (s.moveTo generation point).listener other = s.listener other :=
  Function.update_of_ne h ..

/-- The listener at `generation` moves to `point`. -/
theorem Inv.moved (h : Inv s) {point : ListenerPoint}
    (hlistener : t.listener = (s.moveTo generation point).listener)
    (hmain : t.main = s.main) (hgeneration : t.generation = s.generation)
    (htoken : Current t.token s.generation) (hserver : Current t.server s.generation)
    (hsession : Current t.session s.generation) (hlock : Current t.lock s.generation)
    (hholds : point.holdsLock = true → t.lock = some generation)
    (hothers : ∀ other, other ≠ generation → s.lock = some other → t.lock = some other) :
    Inv t where
  registered := by
    constructor
    · rw [hgeneration]
      exact htoken
    · rw [hgeneration]
      exact hserver
    · rw [hgeneration]
      exact hsession
  lock := by
    rw [hgeneration]
    exact hlock
  holder := by
    intro other otherPoint hother hheld
    rw [hlistener] at hother
    by_cases hsame : other = generation
    · subst hsame
      rw [moveTo_listener_self] at hother
      cases hother
      exact hholds hheld
    · rw [moveTo_listener_of_ne point hsame] at hother
      exact hothers other hsame (h.holder other otherPoint hother hheld)
  ready := by
    rw [hmain, hgeneration]
    exact h.ready

/-- The lock stays as it is. -/
theorem Inv.movedPlain (h : Inv s) {point : ListenerPoint} (hpoint : point.holdsLock = false)
    (hlistener : t.listener = (s.moveTo generation point).listener)
    (hmain : t.main = s.main) (hgeneration : t.generation = s.generation)
    (htoken : Current t.token s.generation) (hserver : Current t.server s.generation)
    (hsession : Current t.session s.generation) (hlock : t.lock = s.lock) : Inv t := by
  apply h.moved hlistener hmain hgeneration htoken hserver hsession
  · rw [hlock]
    exact h.lock
  · intro hholds
    rw [hpoint] at hholds
    cases hholds
  · intro other hother hheld
    rw [hlock]
    exact hheld

theorem Inv.listener (h : Inv s) (heffect : ListenerEffect s generation t) : Inv t := by
  have hreg := h.registered
  cases heffect with
  | move point hholds hpublishing =>
    exact h.movedPlain hholds rfl rfl rfl hreg.token hreg.server hreg.session rfl
  | acquire address hfree hcurrent =>
    have hlock : Current (some generation) s.generation := by
      rw [hcurrent]
      exact current_self generation
    refine h.moved rfl rfl rfl hreg.token hreg.server hreg.session hlock ?_ ?_
    · intro hholds
      rfl
    · intro other hother hheld
      rw [hfree] at hheld
      cases hheld
  | register address hpoint =>
    have hheld : s.lock = some generation := h.holder generation _ hpoint rfl
    have hcurrent : generation = s.generation := h.lock generation hheld
    have htoken : Current (some generation) s.generation := by
      rw [hcurrent]
      exact current_self s.generation
    refine h.moved rfl rfl rfl htoken hreg.server hreg.session h.lock ?_ ?_
    · intro hholds
      exact hheld
    · intro other hother hlock
      exact hlock
  | bind address hpoint =>
    have hheld : s.lock = some generation := h.holder generation _ hpoint rfl
    have hcurrent : generation = s.generation := h.lock generation hheld
    have hserver : Current (some generation) s.generation := by
      rw [hcurrent]
      exact current_self s.generation
    refine h.moved rfl rfl rfl hreg.token hserver hreg.session (current_none _) ?_ ?_
    · intro hholds
      cases hholds
    · intro other hother hlock
      rw [hheld] at hlock
      exact absurd (Option.some.inj hlock).symm hother
  | unbind address reason hpoint =>
    have hheld : s.lock = some generation := h.holder generation _ hpoint rfl
    have htoken := hreg.token.clear generation
    refine h.moved rfl rfl rfl htoken hreg.server hreg.session (current_none _) ?_ ?_
    · intro hholds
      cases hholds
    · intro other hother hlock
      rw [hheld] at hlock
      exact absurd (Option.some.inj hlock).symm hother
  | clearServer point hholds hpublishing =>
    have hserver := hreg.server.clear generation
    exact h.movedPlain hholds rfl rfl rfl hreg.token hserver hreg.session rfl
  | clearToken point hholds hpublishing =>
    have htoken := hreg.token.clear generation
    exact h.movedPlain hholds rfl rfl rfl htoken hreg.server hreg.session rfl
  | write lastFailure first rest point hholds hpoint =>
    cases first with
    | pairing state =>
      exact h.movedPlain hholds rfl rfl rfl hreg.token hreg.server hreg.session rfl
    | transport state =>
      exact h.movedPlain hholds rfl rfl rfl hreg.token hreg.server hreg.session rfl

theorem Quiet.moved (h : Quiet s) {point : ListenerPoint}
    (hlistener : t.listener = (s.moveTo generation point).listener)
    (hgeneration : t.generation = s.generation) (hcompleted : t.completed = s.completed)
    (hpoint : point.isPublishing = true → s.completed ≤ generation) : Quiet t where
  completed_le := by
    rw [hcompleted, hgeneration]
    exact h.completed_le
  silent := by
    intro other otherPoint hother hpublishing
    rw [hcompleted]
    rw [hlistener] at hother
    by_cases hsame : other = generation
    · subst hsame
      rw [moveTo_listener_self] at hother
      cases hother
      exact hpoint hpublishing
    · rw [moveTo_listener_of_ne point hsame] at hother
      exact h.silent other otherPoint hother hpublishing

theorem Quiet.listener (h : Quiet s) (heffect : ListenerEffect s generation t) : Quiet t := by
  cases heffect with
  | move point hholds hpublishing =>
    apply h.moved rfl rfl rfl
    intro hpoint
    rw [← hpublishing hpoint]
    exact h.completed_le
  | acquire address hfree hcurrent => exact h.moved rfl rfl rfl (by simp [ListenerPoint.isPublishing])
  | register address hpoint => exact h.moved rfl rfl rfl (by simp [ListenerPoint.isPublishing])
  | bind address hpoint => exact h.moved rfl rfl rfl (by simp [ListenerPoint.isPublishing])
  | unbind address reason hpoint =>
    exact h.moved rfl rfl rfl (by simp [ListenerPoint.isPublishing])
  | clearServer point hholds hpublishing => exact h.moved rfl rfl rfl (by simp [hpublishing])
  | clearToken point hholds hpublishing => exact h.moved rfl rfl rfl (by simp [hpublishing])
  | write lastFailure first rest point hholds hpoint =>
    have hwriting := h.silent generation _ hpoint rfl
    cases first with
    | pairing state => exact h.moved rfl rfl rfl fun _ => hwriting
    | transport state => exact h.moved rfl rfl rfl fun _ => hwriting

/-- A listener that is not about to write leaves both states as they are. -/
theorem Quiet.listener_silent (h : Quiet s) (heffect : ListenerEffect s generation t)
    (hold : generation < s.completed) : t.pairingState = s.pairingState ∧ t.state = s.state := by
  cases heffect with
  | write lastFailure first rest point hholds hpoint =>
    have hwriting := h.silent generation _ hpoint rfl
    omega
  | move => exact ⟨rfl, rfl⟩
  | acquire => exact ⟨rfl, rfl⟩
  | register => exact ⟨rfl, rfl⟩
  | bind => exact ⟨rfl, rfl⟩
  | unbind => exact ⟨rfl, rfl⟩
  | clearServer => exact ⟨rfl, rfl⟩
  | clearToken => exact ⟨rfl, rfl⟩

end Listeners

section Operations

variable {generation : Nat}

theorem ready_nil (generation : Nat) : Ready [] generation :=
  ⟨by simp, by simp, by simp⟩

theorem Ready.tail {step : MainStep} {main : List MainStep} (h : Ready (step :: main) generation) :
    Ready main generation where
  writers other hother := h.writers other (List.mem_cons_of_mem step hother)
  begins hbegin other hother :=
    h.begins (List.mem_cons_of_mem step hbegin) other (List.mem_cons_of_mem step hother)
  ends := by
    intro hlast
    apply h.ends
    rw [List.getLast?_cons, hlast]
    rfl

theorem ready_stop (finalState : UsbTetherPairingState) :
    Ready (stopPairingAndSession finalState) generation :=
  ⟨by simp [stopPairingAndSession, MainStep.writer, current_none],
    by simp [stopPairingAndSession, MainStep.writer], by simp [stopPairingAndSession]⟩

/-- The steps of an operation that acts for one listener. -/
theorem ready_of_writer {main : List MainStep}
    (hwriter : ∀ step ∈ main, step = .closeActiveSession ∨ step.writer = some generation) :
    Ready main generation where
  writers := by
    intro step hstep
    cases hwriter step hstep with
    | inl hclose =>
      rw [hclose]
      exact current_none generation
    | inr hown =>
      rw [hown]
      exact current_self generation
  begins := by
    intro hbegin
    have hcase := hwriter _ hbegin
    simp [MainStep.writer] at hcase
  ends := by
    intro hlast
    have hcase := hwriter _ (List.mem_of_getLast? hlast)
    simp [MainStep.writer] at hcase

theorem ready_failure (pairing : UsbTetherPairingState) (reason : String) :
    Ready (failure generation pairing reason) generation := by
  apply ready_of_writer
  simp [failure, MainStep.writer]

end Operations

section MainThread

variable {s t : TetherTransport} {generation : Nat}

/-- No listener moves and the lock stays as it is. -/
theorem Inv.keep (h : Inv s) (hlistener : t.listener = s.listener) (hlock : t.lock = s.lock)
    (hgeneration : t.generation = s.generation) (htoken : t.token = s.token)
    (hserver : t.server = s.server) (hsession : Current t.session s.generation)
    (hready : Ready t.main s.generation) : Inv t where
  registered := by
    constructor
    · rw [htoken, hgeneration]
      exact h.registered.token
    · rw [hserver, hgeneration]
      exact h.registered.server
    · rw [hgeneration]
      exact hsession
  lock := by
    rw [hlock, hgeneration]
    exact h.lock
  holder := by
    rw [hlistener, hlock]
    exact h.holder
  ready := by
    rw [hgeneration]
    exact hready

theorem Inv.moveTo (h : Inv s) {point : ListenerPoint} (hpoint : point.holdsLock = false) :
    Inv (s.moveTo generation point) :=
  h.movedPlain hpoint rfl rfl rfl h.registered.token h.registered.server h.registered.session rfl

/-- The lock is free, so no listener is about to register. -/
theorem Inv.beginNewGeneration (h : Inv s) (hfree : s.lock = none)
    (hready : Ready s.main (s.generation + 1)) : Inv s.beginNewGeneration where
  registered := ⟨current_none _, current_none _, current_none _⟩
  lock := by
    show Current s.lock (s.generation + 1)
    rw [hfree]
    exact current_none _
  holder := h.holder
  ready := hready

theorem Inv.perform (h : Inv s) {step : MainStep} {main : List MainStep}
    (hmain : s.main = step :: main) (henabled : MainStep.enabled s step = true) :
    Inv (({ s with main } : TetherTransport).perform step) := by
  have hready : Ready (step :: main) s.generation := hmain ▸ h.ready
  have hrest : Inv { s with main } :=
    h.keep rfl rfl rfl rfl rfl h.registered.session hready.tail
  cases step with
  | beginNewGeneration =>
    have hfree : s.lock = none := by simpa [MainStep.enabled] using henabled
    apply hrest.beginNewGeneration hfree
    refine ⟨?_, hready.tail.begins, hready.tail.ends⟩
    intro other hother
    rw [hready.begins List.mem_cons_self other (List.mem_cons_of_mem _ hother)]
    exact current_none _
  | publish writer publication =>
    cases publication with
    | pairing state => exact hrest.keep rfl rfl rfl rfl rfl h.registered.session hready.tail
    | transport state => exact hrest.keep rfl rfl rfl rfl rfl h.registered.session hready.tail
  | launch => exact hrest.moveTo rfl
  | closeActiveSession => exact hrest.keep rfl rfl rfl rfl rfl (current_none _) hready.tail
  | openSession generation =>
    have hsession : Current (some generation) s.generation :=
      hready.writers _ List.mem_cons_self
    exact hrest.keep rfl rfl rfl rfl rfl hsession hready.tail
  | endSession generation => exact hrest.keep rfl rfl rfl rfl rfl (current_none _) hready.tail

theorem mainNext_eq (h : s.mainNext = some t) : ∃ step main, s.main = step :: main ∧
    MainStep.enabled s step = true ∧
    t = if main.isEmpty then
        { ({ s with main } : TetherTransport).perform step with
          completed := (({ s with main } : TetherTransport).perform step).generation }
      else ({ s with main } : TetherTransport).perform step := by
  rw [mainNext] at h
  split at h
  · cases h
  · rename_i step main hmain
    split at h
    · rename_i henabled
      exact ⟨step, main, hmain, henabled, (Option.some.inj h).symm⟩
    · cases h

theorem Inv.main (h : Inv s) (hstep : s.mainNext = some t) : Inv t := by
  obtain ⟨step, main, hmain, henabled, rfl⟩ := mainNext_eq hstep
  have hnext := h.perform hmain henabled
  split
  · exact hnext.keep rfl rfl rfl rfl rfl hnext.registered.session hnext.ready
  · exact hnext

theorem Inv.call (h : Inv s) (call : TetherCall) : Inv (s.call call) := by
  have hsession := h.registered.session
  have hready : Ready s.main s.generation := h.ready
  cases call with
  | onStart => exact h.keep rfl rfl rfl rfl rfl hsession hready
  | onStop => exact h.keep rfl rfl rfl rfl rfl hsession (ready_stop _)
  | startPairing =>
    simp only [TetherTransport.call, startPairing]
    split
    · exact h
    · split
      · exact h.keep rfl rfl rfl rfl rfl hsession (ready_stop _)
      · refine h.keep rfl rfl rfl rfl rfl hsession ⟨?_, ?_, ?_⟩
        · simp [MainStep.writer, current_none]
        · simp [MainStep.writer]
        · simp
  | disconnect => exact h.keep rfl rfl rfl rfl rfl hsession (ready_stop _)
  | close =>
    simp only [TetherTransport.call]
    split
    · exact h
    · exact h.keep rfl rfl rfl rfl rfl hsession (ready_stop _)

theorem Inv.enqueue (h : Inv s) {main : List MainStep} (hready : Ready main s.generation) :
    Inv { s with main } :=
  h.keep rfl rfl rfl rfl rfl h.registered.session hready

theorem Inv.handleListenerOutcome (h : Inv s) (hcurrent : s.generation = generation)
    (outcome : ListenerOutcome) : Inv (s.handleListenerOutcome generation outcome) := by
  subst hcurrent
  have hover : Inv (s.moveTo s.generation .over) := h.moveTo rfl
  cases outcome with
  | unavailable reason => exact hover.enqueue (ready_failure _ _)
  | failed reason => exact hover.enqueue (ready_failure _ _)
  | server result =>
    cases result with
    | authenticated endpoint hostAddress =>
      rw [TetherTransport.handleListenerOutcome]
      split
      · exact hover
      · have hyielding : Inv (s.moveTo s.generation .yielding) := h.moveTo rfl
        apply hyielding.enqueue
        apply ready_of_writer
        simp [activate, MainStep.writer, TetherTransport.moveTo]
    | expired endpoint => exact hover.enqueue (ready_failure _ _)
    | lockedOut endpoint => exact hover.enqueue (ready_failure _ _)
    | closed =>
      apply hover.enqueue
      apply ready_of_writer
      simp [MainStep.writer, TetherTransport.moveTo]
    | failed reason => exact hover.enqueue (ready_failure _ _)

theorem Inv.outcome (h : Inv s) (hstep : s.outcomeNext generation = some t) : Inv t := by
  rw [outcomeNext] at hstep
  split at hstep
  · split at hstep
    · cases hstep
      exact h.moveTo rfl
    · rename_i hstale
      cases hstep
      exact h.handleListenerOutcome (isStale_eq_false hstale) _
  · cases hstep

theorem Inv.afterYield (h : Inv s) (hstep : s.afterYieldNext generation = some t) : Inv t := by
  have hover : Inv (s.moveTo generation .over) := h.moveTo rfl
  rw [afterYieldNext] at hstep
  split at hstep
  · split at hstep
    · cases hstep
      exact hover
    · cases hstep
      exact hover.keep rfl rfl rfl rfl rfl h.registered.session h.ready
  · cases hstep

theorem Inv.sessionFailed (h : Inv s) {message : String}
    (hstep : s.sessionFailedNext message = some t) : Inv t := by
  simp only [sessionFailedNext] at hstep
  split at hstep
  · cases hstep
  · rename_i generation hcollecting
    split at hstep
    · rename_i hcurrent
      cases hstep
      apply h.enqueue
      apply ready_of_writer
      simp [failure, MainStep.writer, hcurrent.1]
    · cases hstep
      exact h

theorem Inv.step (h : Inv s) {step : TetherStep} (hstep : machine.step s step = some t) :
    Inv t := by
  have hnext : s.next step = some t := hstep
  cases step with
  | call call =>
    rw [next] at hnext
    split at hnext
    · cases hnext
      exact h.call call
    · cases hnext
  | main => exact h.main hnext
  | listener generation input => exact h.listener (listener_effect hnext)
  | outcome generation =>
    rw [next] at hnext
    split at hnext
    · exact h.outcome hnext
    · cases hnext
  | afterYield generation =>
    rw [next] at hnext
    split at hnext
    · exact h.afterYield hnext
    · cases hnext
  | sessionFailed message =>
    rw [next] at hnext
    split at hnext
    · exact h.sessionFailed hnext
    · cases hnext

end MainThread

section Silence

variable {s t : TetherTransport} {generation : Nat}

/-- What an operation of the main thread leaves as it is while it starts. -/
structure Untouched (s t : TetherTransport) : Prop where
  pairingState : t.pairingState = s.pairingState
  state : t.state = s.state
  generation : t.generation = s.generation
  completed : t.completed = s.completed
  listener : ∀ generation point, t.listener generation = some point → point.isPublishing = true →
    s.listener generation = some point

theorem untouched_moveTo {point : ListenerPoint} (hpoint : point.isPublishing = false)
    (hpairing : t.pairingState = s.pairingState) (hstate : t.state = s.state)
    (hgeneration : t.generation = s.generation) (hcompleted : t.completed = s.completed)
    (hlistener : t.listener = (s.moveTo generation point).listener) : Untouched s t where
  pairingState := hpairing
  state := hstate
  generation := hgeneration
  completed := hcompleted
  listener := by
    intro other otherPoint hother hpublishing
    rw [hlistener] at hother
    by_cases hsame : other = generation
    · subst hsame
      rw [moveTo_listener_self] at hother
      cases hother
      rw [hpoint] at hpublishing
      cases hpublishing
    · rw [moveTo_listener_of_ne point hsame] at hother
      exact hother

theorem untouched_call (call : TetherCall) : Untouched s (s.call call) := by
  cases call with
  | onStart => exact ⟨rfl, rfl, rfl, rfl, fun _ _ h _ => h⟩
  | onStop => exact ⟨rfl, rfl, rfl, rfl, fun _ _ h _ => h⟩
  | startPairing =>
    simp only [TetherTransport.call, startPairing]
    split
    · exact ⟨rfl, rfl, rfl, rfl, fun _ _ h _ => h⟩
    · split
      · exact ⟨rfl, rfl, rfl, rfl, fun _ _ h _ => h⟩
      · exact ⟨rfl, rfl, rfl, rfl, fun _ _ h _ => h⟩
  | disconnect => exact ⟨rfl, rfl, rfl, rfl, fun _ _ h _ => h⟩
  | close =>
    simp only [TetherTransport.call]
    split
    · exact ⟨rfl, rfl, rfl, rfl, fun _ _ h _ => h⟩
    · exact ⟨rfl, rfl, rfl, rfl, fun _ _ h _ => h⟩

theorem untouched_handleListenerOutcome (outcome : ListenerOutcome) :
    Untouched s (s.handleListenerOutcome generation outcome) := by
  cases outcome with
  | unavailable reason => exact untouched_moveTo rfl rfl rfl rfl rfl rfl
  | failed reason => exact untouched_moveTo rfl rfl rfl rfl rfl rfl
  | server result =>
    cases result with
    | authenticated endpoint hostAddress =>
      rw [handleListenerOutcome]
      split
      · exact untouched_moveTo rfl rfl rfl rfl rfl rfl
      · exact untouched_moveTo rfl rfl rfl rfl rfl rfl
    | expired endpoint => exact untouched_moveTo rfl rfl rfl rfl rfl rfl
    | lockedOut endpoint => exact untouched_moveTo rfl rfl rfl rfl rfl rfl
    | closed => exact untouched_moveTo rfl rfl rfl rfl rfl rfl
    | failed reason => exact untouched_moveTo rfl rfl rfl rfl rfl rfl

/-- The steps that start an operation. -/
theorem untouched_of_start {step : TetherStep} (hmain : step ≠ .main)
    (hlistener : ∀ generation input, step ≠ .listener generation input)
    (hstep : s.next step = some t) : Untouched s t := by
  cases step with
  | call call =>
    rw [next] at hstep
    split at hstep
    · cases hstep
      exact untouched_call call
    · cases hstep
  | main => exact absurd rfl hmain
  | listener generation input => exact absurd rfl (hlistener generation input)
  | outcome generation =>
    simp only [next, outcomeNext] at hstep
    split at hstep
    · split at hstep
      · split at hstep
        · cases hstep
          exact untouched_moveTo rfl rfl rfl rfl rfl rfl
        · cases hstep
          exact untouched_handleListenerOutcome _
      · cases hstep
    · cases hstep
  | afterYield generation =>
    simp only [next, afterYieldNext] at hstep
    split at hstep
    · split at hstep
      · split at hstep
        · cases hstep
          exact untouched_moveTo rfl rfl rfl rfl rfl rfl
        · cases hstep
          exact untouched_moveTo rfl rfl rfl rfl rfl rfl
      · cases hstep
    · cases hstep
  | sessionFailed message =>
    simp only [next, sessionFailedNext] at hstep
    split at hstep
    · split at hstep
      · cases hstep
      · split at hstep
        · cases hstep
          exact ⟨rfl, rfl, rfl, rfl, fun _ _ h _ => h⟩
        · cases hstep
          exact ⟨rfl, rfl, rfl, rfl, fun _ _ h _ => h⟩
    · cases hstep

theorem Quiet.untouched (h : Quiet s) (hsame : Untouched s t) : Quiet t where
  completed_le := by
    rw [hsame.completed, hsame.generation]
    exact h.completed_le
  silent := by
    intro generation point hpoint hpublishing
    rw [hsame.completed]
    exact h.silent generation point (hsame.listener generation point hpoint hpublishing) hpublishing

theorem perform_listener {step : MainStep} {point : ListenerPoint}
    (hpoint : (s.perform step).listener generation = some point)
    (hpublishing : point.isPublishing = true) : s.listener generation = some point := by
  cases step with
  | launch =>
    have hlaunch : Untouched s (s.moveTo s.generation .discovering) :=
      untouched_moveTo rfl rfl rfl rfl rfl rfl
    exact hlaunch.listener generation point hpoint hpublishing
  | publish writer publication =>
    cases publication with
    | pairing state => exact hpoint
    | transport state => exact hpoint
  | beginNewGeneration => exact hpoint
  | closeActiveSession => exact hpoint
  | openSession generation => exact hpoint
  | endSession generation => exact hpoint

theorem perform_generation {step : MainStep} (hstep : step ≠ .beginNewGeneration) :
    (s.perform step).generation = s.generation := by
  cases step with
  | beginNewGeneration => exact absurd rfl hstep
  | publish writer publication => cases publication <;> rfl
  | launch => rfl
  | closeActiveSession => rfl
  | openSession generation => rfl
  | endSession generation => rfl

theorem generation_le_perform (step : MainStep) : s.generation ≤ (s.perform step).generation := by
  by_cases hstep : step = .beginNewGeneration
  · subst hstep
    exact Nat.le_succ _
  · exact (perform_generation hstep).ge

theorem perform_completed (step : MainStep) : (s.perform step).completed = s.completed := by
  cases step with
  | publish writer publication => cases publication <;> rfl
  | beginNewGeneration => rfl
  | launch => rfl
  | closeActiveSession => rfl
  | openSession generation => rfl
  | endSession generation => rfl

theorem Quiet.main (h : Quiet s) (hinv : Inv s) (hguard : s.Settled .main)
    (hstep : s.mainNext = some t) : Quiet t := by
  obtain ⟨step, main, hmain, henabled, rfl⟩ := mainNext_eq hstep
  have hlistener : ∀ generation point,
      (({ s with main } : TetherTransport).perform step).listener generation = some point →
      point.isPublishing = true → s.listener generation = some point :=
    fun _ _ => perform_listener (s := { s with main })
  split
  · rename_i hempty
    have hlast : main = [] := List.isEmpty_iff.mp hempty
    subst hlast
    have hstep : step ≠ .beginNewGeneration := by
      intro hbegin
      apply hinv.ready.ends
      rw [hmain, hbegin]
      rfl
    have hgeneration : (({ s with main := [] } : TetherTransport).perform step).generation =
        s.generation := perform_generation hstep
    constructor
    · exact Nat.le_refl _
    · intro generation point hpoint hpublishing
      have hbefore := hlistener generation point hpoint hpublishing
      show (({ s with main := [] } : TetherTransport).perform step).generation ≤ generation
      rw [hgeneration]
      by_contra hlt
      have hquiet := hguard (by rw [hmain]; rfl) generation (by omega)
      rw [hbefore] at hquiet
      rw [Option.any_some, hpublishing] at hquiet
      cases hquiet
  · constructor
    · rw [perform_completed]
      exact h.completed_le.trans (generation_le_perform (s := { s with main }) step)
    · intro generation point hpoint hpublishing
      rw [perform_completed]
      exact h.silent generation point (hlistener generation point hpoint hpublishing) hpublishing

theorem Quiet.step (h : Quiet s) (hinv : Inv s) {step : TetherStep} (hguard : s.Settled step)
    (hstep : machine.step s step = some t) : Quiet t := by
  have hnext : s.next step = some t := hstep
  cases step with
  | main => exact h.main hinv hguard hnext
  | listener generation input => exact h.listener (listener_effect hnext)
  | call call => exact h.untouched (untouched_of_start (by simp) (by simp) hnext)
  | outcome generation => exact h.untouched (untouched_of_start (by simp) (by simp) hnext)
  | afterYield generation => exact h.untouched (untouched_of_start (by simp) (by simp) hnext)
  | sessionFailed message => exact h.untouched (untouched_of_start (by simp) (by simp) hnext)

/-- A step on behalf of an older generation leaves both states as they are. -/
theorem Quiet.step_silent (h : Quiet s) (hinv : Inv s) {step : TetherStep}
    (hstep : machine.step s step = some t) (hactor : s.actor step = some generation)
    (hold : generation < s.completed) : t.pairingState = s.pairingState ∧ t.state = s.state := by
  have hnext : s.next step = some t := hstep
  have hstarts : Untouched s t → t.pairingState = s.pairingState ∧ t.state = s.state :=
    fun hsame => ⟨hsame.pairingState, hsame.state⟩
  cases step with
  | main =>
    obtain ⟨step, main, hmain, -, -⟩ := mainNext_eq hnext
    have hwriter : step.writer = some generation := by
      rw [actor, hmain] at hactor
      exact hactor
    have hcurrent : generation = s.generation := by
      apply hinv.ready.writers step ?_ generation hwriter
      rw [hmain]
      exact List.mem_cons_self
    have hle := h.completed_le
    omega
  | listener other input =>
    cases hactor
    exact h.listener_silent (listener_effect hnext) hold
  | call call => exact hstarts (untouched_of_start (by simp) (by simp) hnext)
  | outcome other => exact hstarts (untouched_of_start (by simp) (by simp) hnext)
  | afterYield other => exact hstarts (untouched_of_start (by simp) (by simp) hnext)
  | sessionFailed message => exact hstarts (untouched_of_start (by simp) (by simp) hnext)

theorem inv_initial : Inv initial :=
  ⟨⟨current_none _, current_none _, current_none _⟩, current_none _, by simp [initial],
    ready_nil _⟩

theorem quiet_initial : Quiet initial := ⟨Nat.le_refl 0, by simp [initial]⟩

/-- When no listener is caught between its check and its writes by the end of an operation, older
generations publish nothing. None of them is ever registered. -/
theorem staleGeneration_publishesNothing {steps : List TetherStep} {step : TetherStep}
    (hsettled : machine.Admits Settled initial steps) (hrun : machine.run initial steps = some s)
    (hstep : machine.step s step = some t) :
    (∀ generation, s.actor step = some generation → generation < s.completed →
      t.pairingState = s.pairingState ∧ t.state = s.state) ∧ t.Registered := by
  have hboth : Inv s ∧ Quiet s := by
    apply machine.run_invariant_of_admits Settled (fun s => Inv s ∧ Quiet s) ?_
      ⟨inv_initial, quiet_initial⟩ hsettled hrun
    intro u step v hu hguard hnext
    exact ⟨hu.1.step hnext, hu.2.step hu.1 hguard hnext⟩
  obtain ⟨hinv, hquiet⟩ := hboth
  refine ⟨?_, (hinv.step hstep).registered⟩
  intro generation hactor hold
  exact hquiet.step_silent hinv hstep hactor hold

end Silence

section Runs

instance (s : TetherTransport) : (step : TetherStep) → Decidable (s.Settled step)
  | .main => inferInstanceAs (Decidable (_ → ∀ generation < s.generation, _))
  | .call _ | .listener _ _ | .outcome _ | .afterYield _ | .sessionFailed _ => .isTrue trivial

def listening : TetherPairingServerEvent := .listening ⟨"192.168.42.129", 38401⟩ "code" 0

/-- The first listener serves and its callback passes the check. -/
def beforeWrites : List TetherStep :=
  [.call .onStart, .call .startPairing, .main, .main, .main, .main,
    .listener 1 (.discovered (.ok (some "192.168.42.129"))), .listener 1 .proceed,
    .listener 1 .proceed, .listener 1 (.opened (.ok ())), .listener 1 .proceed,
    .listener 1 (.event listening)]

def bothWrites : List TetherStep := [.listener 1 .proceed, .listener 1 .proceed]

def disconnects : List TetherStep := [.call .disconnect, .main, .main, .main]

/-- The writes come before the disconnect, and a later event finds the listener stale. -/
theorem staleGeneration_settled : ∃ s t,
    machine.run initial (beforeWrites ++ bothWrites ++ disconnects) = some s ∧
    machine.step s (.listener 1 (.event listening)) = some t ∧
    (∀ generation, s.actor (.listener 1 (.event listening)) = some generation →
      generation < s.completed → t.pairingState = s.pairingState ∧ t.state = s.state) ∧
    t.Registered :=
  ⟨_, _, rfl, rfl, @staleGeneration_publishesNothing _ _
    (beforeWrites ++ bothWrites ++ disconnects) _ (by decide +kernel) rfl rfl⟩

/-- The disconnect completes between the check and the writes; the dead code is published. -/
theorem staleGeneration_publishes : ∃ s t,
    machine.run initial (beforeWrites ++ disconnects) = some s ∧
    machine.step s (.listener 1 .proceed) = some t ∧
    s.actor (.listener 1 .proceed) = some 1 ∧ 1 < s.completed ∧ s.main = [] ∧
    s.pairingState = .inactive ∧ t.pairingState ≠ s.pairingState :=
  ⟨_, _, rfl, rfl, rfl, by decide +kernel, rfl, rfl, by decide +kernel⟩

end Runs

end TetherTransport

end LadoFlow.Android
