import LadoFlow.Framework.Machine
import LadoFlow.Core.Negotiation

/-!
# Logical sessions

The lifecycle of one logical host/display session across transient transport losses. Operations
act on a mutable session and may be rejected after part of their work is done, so they are
written in a state monad that keeps the state of a rejected operation.
-/

namespace LadoFlow.Core

open Framework

inductive SessionPhase where
  | idle
  | negotiating
  | active
  | waitingToReconnect
  | reconnectScheduled
  | closed
  deriving DecidableEq, Repr

/-- Whether an established transport starts a new stream or resumes the old one. -/
inductive StreamContinuity where
  | restart
  | resume
  deriving DecidableEq, Repr

/-- Classification of an observed inbound sequence number. -/
inductive SequenceDisposition where
  | accepted (skipped : UInt64)
  | duplicate
  | stale (highestAccepted : UInt64)
  deriving DecidableEq, Repr

/-- The longest duration: `u64::MAX` seconds and 999 999 999 nanoseconds. -/
def Duration.maxNanos : Nat := (2 ^ 64 - 1) * 10 ^ 9 + 999999999

/-- A duration in nanoseconds. -/
structure Duration where
  nanos : Nat
  le_max : nanos ≤ Duration.maxNanos
  deriving DecidableEq, Repr

namespace Duration

def fromMillis (millis : UInt64) : Duration where
  nanos := millis.toNat * 10 ^ 6
  le_max := by
    have hlt := millis.toNat_lt
    rw [maxNanos]
    omega

def saturatingMul (duration : Duration) (factor : UInt32) : Duration :=
  ⟨min (duration.nanos * factor.toNat) maxNanos, Nat.min_le_right _ _⟩

def min (a b : Duration) : Duration := if a.nanos ≤ b.nanos then a else b

end Duration

/-- Bounded exponential-backoff settings for transient transport loss. -/
structure ReconnectPolicy where
  maxAttempts : UInt32
  initialDelay : Duration
  maxDelay : Duration
  delay_le : initialDelay.nanos ≤ maxDelay.nanos
  deriving DecidableEq, Repr

inductive ReconnectPolicyError where
  | initialDelayExceedsMaximum
  deriving DecidableEq, Repr

namespace ReconnectPolicy

def new (maxAttempts : UInt32) (initialDelay maxDelay : Duration) :
    Except ReconnectPolicyError ReconnectPolicy :=
  if h : initialDelay.nanos > maxDelay.nanos then .error .initialDelayExceedsMaximum
  else .ok ⟨maxAttempts, initialDelay, maxDelay, Nat.le_of_not_lt h⟩

def default : ReconnectPolicy :=
  ⟨5, .fromMillis 250, .fromMillis 8000, by decide⟩

/-- `1_u32.checked_shl(shift).unwrap_or(u32::MAX)` -/
def multiplier (shift : UInt32) : UInt32 := if shift < 32 then 1 <<< shift else 0xFFFFFFFF

def delayForAttempt (policy : ReconnectPolicy) (attempt : UInt32) : Option Duration :=
  if attempt = 0 ∨ attempt > policy.maxAttempts then none
  else
  let shift := attempt - 1
  some ((policy.initialDelay.saturatingMul (multiplier shift)).min policy.maxDelay)

end ReconnectPolicy

/-- Action selected after a recoverable transport loss. -/
inductive ReconnectDecision where
  | retryAfter (attempt : UInt32) (delay : Duration) (resumeAfter : Option UInt64)
  | giveUp
  deriving DecidableEq, Repr

inductive SessionError where
  | invalidTransition (phase : SessionPhase) (operation : String)
  | cannotResumeInitialConnection
  | agreementChangedDuringResume
  | connectionGenerationExhausted
  deriving DecidableEq, Repr

structure Session where
  phase : SessionPhase
  agreement : Option NegotiatedSession
  connectionGeneration : UInt64
  reconnectAttempts : UInt32
  highestSequence : Option UInt64
  deriving DecidableEq, Repr

/-- Code with a mutable session in scope; an error keeps the mutations made before it. -/
abbrev SessionM := ExceptT SessionError (StateM Session)

namespace Session

def new : Session := ⟨.idle, none, 0, 0, none⟩

def invalidTransition (session : Session) (operation : String) : SessionError :=
  .invalidTransition session.phase operation

def requirePhase (expected : SessionPhase) (operation : String) : SessionM Unit := do
  let session ← get
  if session.phase = expected then pure () else throw (session.invalidTransition operation)

def setPhase (phase : SessionPhase) : SessionM Unit := modify fun session => { session with phase }

/-- `checked_add(1)` -/
def checkedSucc64 (value : UInt64) : Option UInt64 :=
  if value = 0xFFFFFFFFFFFFFFFF then none else some (value + 1)

/-- `checked_add(1)` -/
def checkedSucc32 (value : UInt32) : Option UInt32 :=
  if value = 0xFFFFFFFF then none else some (value + 1)

def start : SessionM Unit := do
  requirePhase .idle "start"
  setPhase .negotiating

def establish (agreement : NegotiatedSession) (continuity : StreamContinuity) : SessionM Unit := do
  requirePhase .negotiating "establish"
  let session ← get
  match checkedSucc64 session.connectionGeneration with
  | none => throw .connectionGenerationExhausted
  | some nextGeneration =>
  match continuity with
  | .restart => modify fun session => { session with highestSequence := none }
  | .resume =>
    if session.connectionGeneration = 0 then throw .cannotResumeInitialConnection
    else if session.agreement ≠ some agreement then throw .agreementChangedDuringResume
    else pure ()
  modify fun session =>
    { session with
      connectionGeneration := nextGeneration
      agreement := some agreement
      reconnectAttempts := 0
      phase := .active }

def observeSequence (sequence : UInt64) : SessionM SequenceDisposition := do
  requirePhase .active "observe sequence"
  let session ← get
  match session.highestSequence with
  | none =>
    set { session with highestSequence := some sequence }
    pure (.accepted 0)
  | some highest =>
    if sequence > highest then
      set { session with highestSequence := some sequence }
      pure (.accepted (sequence - highest - 1))
    else if sequence = highest then pure .duplicate
    else pure (.stale highest)

def transportLost : SessionM Unit := do
  let session ← get
  if ¬(session.phase = .active ∨ session.phase = .negotiating) then
    throw (session.invalidTransition "record transport loss")
  else setPhase .waitingToReconnect

def scheduleReconnect (policy : ReconnectPolicy) : SessionM ReconnectDecision := do
  requirePhase .waitingToReconnect "schedule reconnect"
  let session ← get
  match checkedSucc32 session.reconnectAttempts with
  | none =>
    setPhase .closed
    pure .giveUp
  | some attempt =>
  match policy.delayForAttempt attempt with
  | none =>
    setPhase .closed
    pure .giveUp
  | some delay =>
    set { session with reconnectAttempts := attempt, phase := .reconnectScheduled }
    pure (.retryAfter attempt delay session.highestSequence)

def beginReconnect : SessionM Unit := do
  requirePhase .reconnectScheduled "begin reconnect"
  setPhase .negotiating

def close : SessionM Unit := setPhase .closed

end Session

/-- One call on a session, with its arguments. -/
inductive SessionOperation where
  | start
  | establish (agreement : NegotiatedSession) (continuity : StreamContinuity)
  | observeSequence (sequence : UInt64)
  | transportLost
  | scheduleReconnect (policy : ReconnectPolicy)
  | beginReconnect
  | close

/-- What a successful call returns. -/
inductive SessionReply where
  | unit
  | disposition (disposition : SequenceDisposition)
  | decision (decision : ReconnectDecision)
  deriving DecidableEq, Repr

namespace Session

def call : SessionOperation → SessionM SessionReply
  | .start => do start; pure .unit
  | .establish agreement continuity => do establish agreement continuity; pure .unit
  | .observeSequence sequence => return .disposition (← observeSequence sequence)
  | .transportLost => do transportLost; pure .unit
  | .scheduleReconnect policy => return .decision (← scheduleReconnect policy)
  | .beginReconnect => do beginReconnect; pure .unit
  | .close => do close; pure .unit

/-- The result of a call and the session after it. -/
def perform (session : Session) (operation : SessionOperation) :
    Except SessionError SessionReply × Session :=
  (call operation).run.run session

def machine : Machine Session SessionOperation where
  step session operation := some (session.perform operation).2

/-- The session after a sequence of calls. -/
def after (session : Session) (operations : List SessionOperation) : Session :=
  operations.foldl (fun session operation => (session.perform operation).2) session

theorem machine_run (session : Session) (operations : List SessionOperation) :
    machine.run session operations = some (session.after operations) := by
  induction operations generalizing session with
  | nil => rfl
  | cons operation operations ih => exact ih _

theorem checkedSucc64_eq_some {value next : UInt64} (h : checkedSucc64 value = some next) :
    next.toNat = value.toNat + 1 := by
  rw [checkedSucc64] at h
  split at h
  · cases h
  · rename_i hne
    cases h
    have hlt := value.toNat_lt
    have hmax : value.toNat ≠ 2 ^ 64 - 1 := fun heq => hne (UInt64.toNat_inj.mp heq)
    rw [UInt64.toNat_add, UInt64.toNat_one, Nat.mod_eq_of_lt (by omega)]

/-- Everything a call can do: the argument checks it passed and the fields it wrote. -/
inductive Effect (session : Session) :
    SessionOperation → Except SessionError SessionReply → Session → Prop where
  | rejected (operation : SessionOperation) (error : SessionError)
      (hclose : operation ≠ .close) : Effect session operation (.error error) session
  | started (hphase : session.phase = .idle) :
      Effect session .start (.ok .unit) { session with phase := .negotiating }
  | restarted (agreement : NegotiatedSession) (next : UInt64)
      (hphase : session.phase = .negotiating)
      (hnext : checkedSucc64 session.connectionGeneration = some next) :
      Effect session (.establish agreement .restart) (.ok .unit)
        ⟨.active, some agreement, next, 0, none⟩
  | resumed (agreement : NegotiatedSession) (next : UInt64)
      (hphase : session.phase = .negotiating)
      (hnext : checkedSucc64 session.connectionGeneration = some next)
      (hagree : session.agreement = some agreement) :
      Effect session (.establish agreement .resume) (.ok .unit)
        ⟨.active, some agreement, next, 0, session.highestSequence⟩
  | advanced (sequence : UInt64) (disposition : SequenceDisposition)
      (hphase : session.phase = .active)
      (hnew : ∀ highest ∈ session.highestSequence, highest < sequence) :
      Effect session (.observeSequence sequence) (.ok (.disposition disposition))
        { session with highestSequence := some sequence }
  | ignored (sequence : UInt64) (disposition : SequenceDisposition)
      (hphase : session.phase = .active) :
      Effect session (.observeSequence sequence) (.ok (.disposition disposition)) session
  | lost (hphase : session.phase = .active ∨ session.phase = .negotiating) :
      Effect session .transportLost (.ok .unit) { session with phase := .waitingToReconnect }
  | scheduled (policy : ReconnectPolicy) (attempt : UInt32) (delay : Duration)
      (hphase : session.phase = .waitingToReconnect)
      (hattempt : checkedSucc32 session.reconnectAttempts = some attempt)
      (hdelay : policy.delayForAttempt attempt = some delay) :
      Effect session (.scheduleReconnect policy)
        (.ok (.decision (.retryAfter attempt delay session.highestSequence)))
        { session with reconnectAttempts := attempt, phase := .reconnectScheduled }
  | gaveUp (policy : ReconnectPolicy) (hphase : session.phase = .waitingToReconnect) :
      Effect session (.scheduleReconnect policy) (.ok (.decision .giveUp))
        { session with phase := .closed }
  | reconnecting (hphase : session.phase = .reconnectScheduled) :
      Effect session .beginReconnect (.ok .unit) { session with phase := .negotiating }
  | closed : Effect session .close (.ok .unit) { session with phase := .closed }

theorem get_bind {α : Type} (session : Session) (next : Session → SessionM α) :
    (get >>= next).run.run session = (next session).run.run session := rfl

/-- A phase check changes nothing: it rejects the call or lets it go on. -/
theorem requirePhase_bind {α : Type} (session : Session) (expected : SessionPhase)
    (operation : String) (next : Unit → SessionM α) :
    (requirePhase expected operation >>= next).run.run session =
      if session.phase = expected then (next ()).run.run session
      else (.error (session.invalidTransition operation), session) := by
  rw [requirePhase, bind_assoc, get_bind]
  split <;> rfl

/-- An active session accepts every newer sequence and remembers it. -/
theorem observeSequence_fresh {session : Session} {sequence : UInt64}
    (hactive : session.phase = .active)
    (hfresh : ¬session.highestSequence.any (sequence ≤ ·) = true) :
    ∃ skipped, (observeSequence sequence).run.run session =
      (.ok (.accepted skipped), { session with highestSequence := some sequence }) := by
  rw [observeSequence, requirePhase_bind, if_pos hactive, get_bind]
  cases hhighest : session.highestSequence with
  | none => exact ⟨0, rfl⟩
  | some highest =>
    have hgreater : sequence > highest := by
      simpa [hhighest] using hfresh
    simp only [if_pos hgreater]
    exact ⟨_, rfl⟩

theorem observeSequence_stale {session : Session} {sequence : UInt64}
    (hactive : session.phase = .active)
    (hstale : session.highestSequence.any (sequence ≤ ·) = true) :
    (observeSequence sequence).run.run session = (.ok .duplicate, session) ∨
      ∃ highest, (observeSequence sequence).run.run session =
        (.ok (.stale highest), session) := by
  rw [observeSequence, requirePhase_bind, if_pos hactive, get_bind]
  cases hhighest : session.highestSequence with
  | none =>
    rw [hhighest] at hstale
    cases hstale
  | some highest =>
    have hle : sequence ≤ highest := by
      simpa [hhighest] using hstale
    have hnot : ¬sequence > highest := UInt64.not_lt.mpr hle
    simp only [if_neg hnot]
    by_cases heq : sequence = highest
    · simp only [if_pos heq]
      exact .inl rfl
    · simp only [if_neg heq]
      exact .inr ⟨highest, rfl⟩

theorem perform_effect (session : Session) (operation : SessionOperation) :
    Effect session operation (session.perform operation).1 (session.perform operation).2 := by
  cases operation with
  | start =>
    rw [perform, call, start, bind_assoc, requirePhase_bind]
    split
    · exact .started ‹_›
    · exact .rejected _ _ nofun
  | establish agreement continuity =>
    rw [perform, call, establish, bind_assoc, requirePhase_bind]
    split
    · rename_i hphase
      rw [bind_assoc, get_bind]
      cases hnext : checkedSucc64 session.connectionGeneration with
      | none => exact .rejected _ _ nofun
      | some next =>
        cases continuity with
        | restart => exact .restarted agreement next hphase hnext
        | resume =>
          by_cases hzero : session.connectionGeneration = 0
          · simp only [hzero, if_true]
            exact .rejected _ _ nofun
          by_cases hagree : session.agreement = some agreement
          · simp only [hzero, hagree, if_false, ne_eq, not_true_eq_false]
            exact .resumed agreement next hphase hnext hagree
          · simp only [hzero, hagree, if_false, ne_eq, not_false_eq_true, if_true]
            exact .rejected _ _ nofun
    · exact .rejected _ _ nofun
  | observeSequence sequence =>
    rw [perform, call, observeSequence, bind_assoc, requirePhase_bind]
    split
    · rename_i hphase
      rw [bind_assoc, get_bind]
      cases hcursor : session.highestSequence with
      | none => exact .advanced sequence _ hphase (by simp [hcursor])
      | some highest =>
        by_cases hgt : sequence > highest
        · simp only [hgt, if_true]
          exact .advanced sequence _ hphase (by simpa [hcursor] using hgt)
        by_cases heq : sequence = highest
        · simp only [if_neg hgt, if_pos heq]
          exact .ignored sequence _ hphase
        · simp only [if_neg hgt, if_neg heq]
          exact .ignored sequence _ hphase
    · exact .rejected _ _ nofun
  | transportLost =>
    rw [perform, call, transportLost, bind_assoc, get_bind]
    by_cases hphase : session.phase = .active ∨ session.phase = .negotiating
    · simp only [hphase, not_true_eq_false, if_false]
      exact .lost hphase
    · simp only [hphase, not_false_eq_true, if_true]
      exact .rejected _ _ nofun
  | scheduleReconnect policy =>
    rw [perform, call, scheduleReconnect, bind_assoc, requirePhase_bind]
    split
    · rename_i hphase
      rw [bind_assoc, get_bind]
      cases hattempt : checkedSucc32 session.reconnectAttempts with
      | none => exact .gaveUp policy hphase
      | some attempt =>
        cases hdelay : policy.delayForAttempt attempt with
        | none =>
          simp only [hdelay]
          exact .gaveUp policy hphase
        | some delay =>
          simp only [hdelay]
          exact .scheduled policy attempt delay hphase hattempt hdelay
    · exact .rejected _ _ nofun
  | beginReconnect =>
    rw [perform, call, beginReconnect, bind_assoc, requirePhase_bind]
    split
    · exact .reconnecting ‹_›
    · exact .rejected _ _ nofun
  | close => exact .closed

/-- The coupling of the phase with the optional fields. -/
structure Coherent (session : Session) : Prop where
  active : session.phase = .active →
    session.agreement.isSome ∧ session.reconnectAttempts = 0
  agreement_none : session.agreement = none ↔ session.connectionGeneration = 0
  cursor : session.highestSequence.isSome → 0 < session.connectionGeneration

theorem coherent_new : Coherent new :=
  ⟨nofun, ⟨fun _ => rfl, fun _ => rfl⟩, nofun⟩

/-- A session that has just been established is coherent whatever its cursor. -/
private theorem coherent_established (agreement : NegotiatedSession) (cursor : Option UInt64)
    {generation next : UInt64} (hnext : checkedSucc64 generation = some next) :
    Coherent ⟨.active, some agreement, next, 0, cursor⟩ := by
  have hsucc := checkedSucc64_eq_some hnext
  have hpos : 0 < next := UInt64.lt_iff_toNat_lt.mpr (by rw [UInt64.toNat_zero]; omega)
  refine ⟨fun _ => ⟨rfl, rfl⟩, ⟨nofun, ?_⟩, fun _ => hpos⟩
  rintro rfl
  exact absurd hpos (UInt64.lt_irrefl 0)

theorem Effect.coherent {session session' : Session} {operation : SessionOperation}
    {result : Except SessionError SessionReply} (h : Effect session operation result session')
    (hc : Coherent session) : Coherent session' := by
  cases h with
  | rejected => exact hc
  | restarted agreement next _ hnext => exact coherent_established agreement none hnext
  | resumed agreement next _ hnext => exact coherent_established agreement _ hnext
  | advanced sequence _ hphase =>
    obtain ⟨hsome, -⟩ := hc.active hphase
    refine ⟨hc.active, hc.agreement_none, fun _ => UInt64.pos_iff_ne_zero.mpr fun hzero => ?_⟩
    rw [hc.agreement_none.mpr hzero] at hsome
    exact absurd hsome nofun
  | ignored => exact hc
  | started | lost | scheduled | gaveUp | reconnecting | closed =>
    exact ⟨nofun, hc.agreement_none, hc.cursor⟩

/-- A closed session rejects every call but another close. -/
theorem Effect.closed_absorbing {session session' : Session} {operation : SessionOperation}
    {result : Except SessionError SessionReply} (h : Effect session operation result session')
    (hphase : session.phase = .closed) : session' = session := by
  cases h with
  | rejected => rfl
  | closed => rw [← hphase]
  | started h | restarted _ _ h | resumed _ _ h | advanced _ _ h | ignored _ _ h
  | scheduled _ _ _ h | gaveUp _ h | reconnecting h =>
    exact absurd (h.symm.trans hphase) nofun
  | lost h =>
    rw [hphase] at h
    exact absurd h (by decide)

theorem after_coherent (operations : List SessionOperation) : Coherent (new.after operations) :=
  machine.run_invariant Coherent
    (fun session operation _ hc hstep => Option.some.inj hstep ▸
      (perform_effect session operation).coherent hc)
    coherent_new (machine_run new operations)

theorem after_closed {session : Session} (hphase : session.phase = .closed)
    (operations : List SessionOperation) : session.after operations = session :=
  machine.run_invariant (· = session)
    (fun _ operation _ heq hstep => Option.some.inj hstep ▸ heq ▸
      (perform_effect session operation).closed_absorbing hphase)
    rfl (machine_run session operations)

theorem after_append (session : Session) (first second : List SessionOperation) :
    session.after (first ++ second) = (session.after first).after second :=
  List.foldl_append

/-- What one call may do to the generation, the agreement and the cursor. -/
structure CallLaws (session : Session) (operation : SessionOperation)
    (result : Except SessionError SessionReply) (session' : Session) : Prop where
  error_unchanged : ∀ error, result = .error error → session' = session
  establish_generation : ∀ agreement continuity reply,
    operation = .establish agreement continuity → result = .ok reply →
      session'.connectionGeneration.toNat = session.connectionGeneration.toNat + 1
  other_generation : (∀ agreement continuity, operation ≠ .establish agreement continuity) →
    session'.connectionGeneration = session.connectionGeneration
  resume : ∀ agreement reply, operation = .establish agreement .resume → result = .ok reply →
    session'.highestSequence = session.highestSequence ∧ session.agreement = some agreement ∧
      session'.agreement = some agreement
  restart : ∀ agreement reply, operation = .establish agreement .restart → result = .ok reply →
    session'.highestSequence = none ∧ session'.agreement = some agreement

theorem Effect.laws {session session' : Session} {operation : SessionOperation}
    {result : Except SessionError SessionReply} (h : Effect session operation result session') :
    CallLaws session operation result session' := by
  cases h with
  | rejected operation error => exact ⟨fun _ _ => rfl, nofun, fun _ => rfl, nofun, nofun⟩
  | restarted agreement next _ hnext =>
    refine ⟨nofun, fun _ _ _ _ _ => checkedSucc64_eq_some hnext, fun hne => ?_, nofun, ?_⟩
    · exact absurd rfl (hne agreement .restart)
    · rintro _ _ ⟨⟩ -
      exact ⟨rfl, rfl⟩
  | resumed agreement next _ hnext hagree =>
    refine ⟨nofun, fun _ _ _ _ _ => checkedSucc64_eq_some hnext, fun hne => ?_, ?_, nofun⟩
    · exact absurd rfl (hne agreement .resume)
    · rintro _ _ ⟨⟩ -
      exact ⟨rfl, hagree, rfl⟩
  | started | advanced | ignored | lost | scheduled | gaveUp | reconnecting | closed =>
    exact ⟨nofun, nofun, fun _ => rfl, nofun, nofun⟩

/-- Every state of every run is coherent, a closed state is final, and every call from it obeys
the call laws. -/
theorem session_run_invariants (operations : List SessionOperation) :
    Coherent (new.after operations) ∧
    ((new.after operations).phase = .closed →
      ∀ more, new.after (operations ++ more) = new.after operations) ∧
    ∀ operation, CallLaws (new.after operations) operation
      ((new.after operations).perform operation).1
      ((new.after operations).perform operation).2 := by
  refine ⟨after_coherent operations, fun hphase more => ?_, fun operation => ?_⟩
  · rw [after_append]
    exact after_closed hphase more
  · exact (perform_effect _ operation).laws

/-- A loss and a resumed connection keep the cursor of the first connection. -/
theorem session_run_invariants_resumed :
    let agreement : NegotiatedSession := ⟨1, ⟨1920, 1080, 60000, 20000, 1, 0, 0⟩⟩
    let operations : List SessionOperation :=
      [.start, .establish agreement .restart, .observeSequence 7, .transportLost,
        .scheduleReconnect .default, .beginReconnect, .establish agreement .resume]
    new.after operations = ⟨.active, some agreement, 2, 0, some 7⟩ ∧
      Coherent (new.after operations) :=
  ⟨by decide, (session_run_invariants _).1⟩

end Session

end LadoFlow.Core
