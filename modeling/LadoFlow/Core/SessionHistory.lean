import LadoFlow.Core.Session

/-!
# Histories of a session

What a session has answered over a run: its retries since the last establishment, and the sequences
that it accepted in the current logical stream.
-/

namespace LadoFlow.Core

open Framework

/-- What `schedule_reconnect` returned for one retry. -/
structure Retry where
  attempt : UInt32
  delay : Duration
  resumeAfter : Option UInt64
  deriving DecidableEq

/-- A sequence that was classified as accepted. -/
structure Acceptance where
  sequence : UInt64
  skipped : UInt64
  deriving DecidableEq

structure SessionHistory where
  session : Session
  retries : List Retry
  accepted : List Acceptance
  deriving DecidableEq

namespace SessionHistory

/-- The retries since the last establishment, after one more call. -/
def retriesAfter (retries : List Retry) :
    SessionOperation → Except SessionError SessionReply → List Retry
  | .establish _ _, .ok _ => []
  | _, .ok (.decision (.retryAfter attempt delay resumeAfter)) =>
    retries ++ [⟨attempt, delay, resumeAfter⟩]
  | _, _ => retries

/-- The accepted sequences of the logical stream, which only a restart begins anew. -/
def acceptedAfter (accepted : List Acceptance) :
    SessionOperation → Except SessionError SessionReply → List Acceptance
  | .establish _ .restart, .ok _ => []
  | .observeSequence sequence, .ok (.disposition (.accepted skipped)) =>
    accepted ++ [⟨sequence, skipped⟩]
  | _, _ => accepted

def new : SessionHistory := ⟨.new, [], []⟩

/-- The history after a call that returned `result` and left `session`. -/
def record (history : SessionHistory) (operation : SessionOperation)
    (result : Except SessionError SessionReply) (session : Session) : SessionHistory where
  session := session
  retries := retriesAfter history.retries operation result
  accepted := acceptedAfter history.accepted operation result

def call (history : SessionHistory) (operation : SessionOperation) : SessionHistory :=
  history.record operation (history.session.perform operation).1
    (history.session.perform operation).2

def machine : Machine SessionHistory SessionOperation where
  step history operation := some (history.call operation)

end SessionHistory

section Delays

variable {policy : ReconnectPolicy} {attempt : UInt32} {delay : Duration}

/-- The factor of the initial delay at the `k`-th retry. -/
def backoffFactor (k : Nat) : Nat := if k ≤ 32 then 2 ^ (k - 1) else 2 ^ 32 - 1

theorem backoffFactor_pos (k : Nat) : 0 < backoffFactor k := by
  rw [backoffFactor]
  split
  · exact Nat.two_pow_pos _
  · decide

/-- The factor grows also where the shift overflows. -/
theorem backoffFactor_mono {j k : Nat} (h : j ≤ k) : backoffFactor j ≤ backoffFactor k := by
  rw [backoffFactor, backoffFactor]
  by_cases hk : k ≤ 32
  · rw [if_pos hk, if_pos (h.trans hk)]
    exact Nat.pow_le_pow_right (by decide) (Nat.sub_le_sub_right h 1)
  · rw [if_neg hk]
    by_cases hj : j ≤ 32
    · rw [if_pos hj]
      have hshift : j - 1 ≤ 31 := by omega
      exact (Nat.pow_le_pow_right (by decide) hshift).trans (by decide)
    · rw [if_neg hj]

theorem multiplier_toNat (h : attempt ≠ 0) :
    (ReconnectPolicy.multiplier (attempt - 1)).toNat = backoffFactor attempt.toNat := by
  have hpos : 1 ≤ attempt.toNat := by
    rw [Nat.one_le_iff_ne_zero]
    intro hzero
    exact h (UInt32.toNat_inj.mp hzero)
  have hshift : (attempt - 1).toNat = attempt.toNat - 1 :=
    UInt32.toNat_sub_of_le _ _ (UInt32.le_iff_toNat_le.mpr hpos)
  have hthreshold : attempt - 1 < 32 ↔ attempt.toNat - 1 < 32 := by
    rw [UInt32.lt_iff_toNat_lt, hshift]
    rfl
  rw [ReconnectPolicy.multiplier, backoffFactor]
  by_cases hsmall : attempt.toNat ≤ 32
  · rw [if_pos hsmall, if_pos (hthreshold.mpr (by omega)), UInt32.toNat_shiftLeft, hshift]
    have hmod : (attempt.toNat - 1) % 32 = attempt.toNat - 1 := Nat.mod_eq_of_lt (by omega)
    rw [hmod, UInt32.toNat_one, Nat.shiftLeft_eq, Nat.one_mul]
    apply Nat.mod_eq_of_lt
    exact Nat.pow_lt_pow_right (by decide) (by omega)
  · have hlarge : ¬attempt - 1 < 32 := by
      rw [hthreshold]
      omega
    rw [if_neg hsmall, if_neg hlarge]
    rfl

theorem min_nanos (a b : Duration) : (a.min b).nanos = min a.nanos b.nanos := by
  rw [Duration.min]
  split
  · omega
  · omega

/-- The delay of an attempt within the budget. -/
theorem delayForAttempt_eq_some (h : policy.delayForAttempt attempt = some delay) :
    attempt ≤ policy.maxAttempts ∧
      delay.nanos = min (policy.initialDelay.nanos * backoffFactor attempt.toNat)
        policy.maxDelay.nanos := by
  rw [ReconnectPolicy.delayForAttempt] at h
  split at h
  · cases h
  rename_i hbounds
  rw [not_or] at hbounds
  refine ⟨UInt32.not_lt.mp hbounds.2, ?_⟩
  cases h
  have hmax := policy.maxDelay.le_max
  have hproduct : (policy.initialDelay.saturatingMul
      (ReconnectPolicy.multiplier (attempt - 1))).nanos =
      min (policy.initialDelay.nanos * backoffFactor attempt.toNat) Duration.maxNanos := by
    rw [← multiplier_toNat hbounds.1]
    rfl
  rw [min_nanos, hproduct]
  omega

end Delays

section Observations

variable {session : Session} {sequence : UInt64}

/-- What an observation answers and writes. -/
inductive Observation (session : Session) (sequence : UInt64) :
    Except SessionError SessionReply → Session → Prop where
  | rejected (error : SessionError) : Observation session sequence (.error error) session
  | first (hnone : session.highestSequence = none) :
      Observation session sequence (.ok (.disposition (.accepted 0)))
        { session with highestSequence := some sequence }
  | next (highest : UInt64) (hsome : session.highestSequence = some highest)
      (hnewer : highest < sequence) :
      Observation session sequence (.ok (.disposition (.accepted (sequence - highest - 1))))
        { session with highestSequence := some sequence }
  | duplicate : Observation session sequence (.ok (.disposition .duplicate)) session
  | stale (highest : UInt64) :
      Observation session sequence (.ok (.disposition (.stale highest))) session

theorem perform_observation (session : Session) (sequence : UInt64) :
    Observation session sequence (session.perform (.observeSequence sequence)).1
      (session.perform (.observeSequence sequence)).2 := by
  rw [Session.perform, Session.call, Session.observeSequence, bind_assoc,
    Session.requirePhase_bind]
  split
  · rw [bind_assoc, Session.get_bind]
    cases hcursor : session.highestSequence with
    | none => exact .first hcursor
    | some highest =>
      by_cases hnewer : sequence > highest
      · simp only [if_pos hnewer]
        exact .next highest hcursor hnewer
      by_cases hsame : sequence = highest
      · simp only [if_neg hnewer, if_pos hsame]
        exact .duplicate
      · simp only [if_neg hnewer, if_neg hsame]
        exact .stale highest
  · exact .rejected _

/-- Only an observation and an establishment touch the cursor. -/
theorem perform_cursor (session : Session) {operation : SessionOperation}
    (hobserve : ∀ sequence, operation ≠ .observeSequence sequence)
    (hestablish : ∀ agreement continuity, operation ≠ .establish agreement continuity) :
    (session.perform operation).2.highestSequence = session.highestSequence := by
  have heffect := session.perform_effect operation
  generalize session.perform operation = performed at heffect ⊢
  obtain ⟨result, after⟩ := performed
  cases heffect with
  | restarted agreement => exact absurd rfl (hestablish agreement .restart)
  | advanced sequence => exact absurd rfl (hobserve sequence)
  | rejected | started | resumed | ignored | lost | scheduled | gaveUp | reconnecting | closed => rfl

/-- The count of skipped sequences fills the gap, and none of its subtractions wraps around. -/
theorem skipped_toNat {highest : UInt64} (h : highest < sequence) :
    highest.toNat + 1 + (sequence - highest - 1).toNat = sequence.toNat := by
  have hlt := UInt64.lt_iff_toNat_lt.mp h
  have hdifference : (sequence - highest).toNat = sequence.toNat - highest.toNat :=
    UInt64.toNat_sub_of_le _ _ (UInt64.le_of_lt h)
  have hone : (1 : UInt64) ≤ sequence - highest := by
    rw [UInt64.le_iff_toNat_le, hdifference, UInt64.toNat_one]
    omega
  rw [UInt64.toNat_sub_of_le _ _ hone, hdifference, UInt64.toNat_one]
  omega

end Observations

namespace SessionHistory

variable {history : SessionHistory} {policy : ReconnectPolicy}

/-- The counts of a nonempty list of accepted sequences. -/
def Contiguous (accepted : List Acceptance) : Prop :=
  ∀ first ∈ accepted.head?, ∀ last ∈ accepted.getLast?,
    (accepted.map (·.skipped.toNat)).sum + accepted.length =
      last.sequence.toNat - first.sequence.toNat + 1

structure StreamInv (history : SessionHistory) : Prop where
  cursor : history.session.highestSequence = history.accepted.getLast?.map (·.sequence)
  ordered : history.accepted.Pairwise fun a b => a.sequence < b.sequence
  contiguous : Contiguous history.accepted

theorem streamInv_new : StreamInv new where
  cursor := rfl
  ordered := List.Pairwise.nil
  contiguous _ h := absurd h (Option.not_mem_none _)

/-- The last accepted sequence is the highest. -/
theorem StreamInv.le_last (h : StreamInv history) {last acceptance : Acceptance}
    (hlast : history.accepted.getLast? = some last) (hmem : acceptance ∈ history.accepted) :
    acceptance.sequence.toNat ≤ last.sequence.toNat := by
  obtain ⟨earlier, hsplit⟩ := List.getLast?_eq_some_iff.mp hlast
  have hordered := h.ordered
  rw [hsplit] at hmem hordered
  rw [List.pairwise_append] at hordered
  cases List.mem_append.mp hmem with
  | inl hearlier =>
    have hlt := hordered.2.2 acceptance hearlier last List.mem_cons_self
    exact (UInt64.lt_iff_toNat_lt.mp hlt).le
  | inr hsame => rw [List.mem_singleton.mp hsame]

/-- One more accepted sequence, with what was skipped before it. -/
theorem StreamInv.accept (h : StreamInv history) {acceptance : Acceptance}
    (hnewer : ∀ highest ∈ history.session.highestSequence,
      highest.toNat + 1 + acceptance.skipped.toNat = acceptance.sequence.toNat)
    (hfirst : history.session.highestSequence = none → acceptance.skipped = 0) :
    (history.accepted ++ [acceptance]).Pairwise (fun a b => a.sequence < b.sequence) ∧
      Contiguous (history.accepted ++ [acceptance]) := by
  have hcursor := h.cursor
  cases hlast : history.accepted.getLast? with
  | none =>
    have hempty : history.accepted = [] := List.getLast?_eq_none_iff.mp hlast
    rw [hlast] at hcursor
    rw [hempty]
    refine ⟨List.pairwise_singleton _ _, ?_⟩
    intro first hhead last hlast
    cases hhead
    cases hlast
    simp [hfirst hcursor]
  | some last =>
    rw [hlast] at hcursor
    have hgap := hnewer last.sequence hcursor
    constructor
    · rw [List.pairwise_append]
      refine ⟨h.ordered, List.pairwise_singleton _ _, ?_⟩
      intro old hold new hnew
      have hle := h.le_last hlast hold
      rw [List.mem_singleton.mp hnew, UInt64.lt_iff_toNat_lt]
      omega
    · intro first hhead newest hnewest
      rw [List.getLast?_concat] at hnewest
      cases hnewest
      have hfirst : history.accepted.head? = some first := by
        cases hlist : history.accepted with
        | nil =>
          rw [hlist] at hlast
          cases hlast
        | cons oldest rest =>
          rw [hlist] at hhead
          exact hhead
      have hcount := h.contiguous first hfirst last hlast
      have hle := h.le_last hlast (List.mem_of_head? hfirst)
      simp only [List.map_append, List.map_cons, List.map_nil, List.sum_append, List.sum_cons,
        List.sum_nil, List.length_append, List.length_cons, List.length_nil]
      omega

/-- The stream does not notice the calls that neither observe nor establish. -/
theorem StreamInv.other (h : StreamInv history) {operation : SessionOperation}
    (hobserve : ∀ sequence, operation ≠ .observeSequence sequence)
    (hestablish : ∀ agreement continuity, operation ≠ .establish agreement continuity) :
    StreamInv (history.call operation) := by
  have haccepted : (history.call operation).accepted = history.accepted := by
    cases operation with
    | observeSequence sequence => exact absurd rfl (hobserve sequence)
    | establish agreement continuity => exact absurd rfl (hestablish agreement continuity)
    | start | transportLost | scheduleReconnect | beginReconnect | close => rfl
  have hcursor : (history.call operation).session.highestSequence =
      history.session.highestSequence := perform_cursor history.session hobserve hestablish
  constructor
  · rw [hcursor, haccepted]
    exact h.cursor
  · rw [haccepted]
    exact h.ordered
  · rw [haccepted]
    exact h.contiguous

theorem StreamInv.call (h : StreamInv history) (operation : SessionOperation) :
    StreamInv (history.call operation) := by
  cases operation with
  | observeSequence sequence =>
    have hobserved := perform_observation history.session sequence
    rw [SessionHistory.call]
    generalize history.session.perform (.observeSequence sequence) = performed at hobserved ⊢
    obtain ⟨result, session⟩ := performed
    cases hobserved with
    | rejected error => exact ⟨h.cursor, h.ordered, h.contiguous⟩
    | first hnone =>
      have haccept := @StreamInv.accept history h ⟨sequence, 0⟩ (by simp [hnone]) fun _ => rfl
      exact ⟨by simp [record, acceptedAfter], haccept.1, haccept.2⟩
    | next highest hsome hnewer =>
      have haccept := @StreamInv.accept history h ⟨sequence, sequence - highest - 1⟩
        (by simp [hsome, skipped_toNat hnewer]) (by simp [hsome])
      exact ⟨by simp [record, acceptedAfter], haccept.1, haccept.2⟩
    | duplicate => exact ⟨h.cursor, h.ordered, h.contiguous⟩
    | stale highest => exact ⟨h.cursor, h.ordered, h.contiguous⟩
  | establish agreement continuity =>
    have heffect := Session.perform_effect history.session (.establish agreement continuity)
    rw [SessionHistory.call]
    generalize history.session.perform (.establish agreement continuity) = performed at heffect ⊢
    obtain ⟨result, session⟩ := performed
    cases heffect with
    | rejected => cases continuity <;> exact ⟨h.cursor, h.ordered, h.contiguous⟩
    | restarted => exact ⟨rfl, List.Pairwise.nil, streamInv_new.contiguous⟩
    | resumed => exact ⟨h.cursor, h.ordered, h.contiguous⟩
  | start => exact h.other nofun nofun
  | transportLost => exact h.other nofun nofun
  | scheduleReconnect policy => exact h.other nofun nofun
  | beginReconnect => exact h.other nofun nofun
  | close => exact h.other nofun nofun

theorem streamInv_run {operations : List SessionOperation}
    (hrun : machine.run new operations = some history) : StreamInv history := by
  apply machine.run_invariant StreamInv ?_ streamInv_new hrun
  intro _ operation _ h hstep
  cases hstep
  exact h.call operation

/-- The accepted sequences of one logical stream and the counts of skipped ones between them cover
the range from the first to the last, and the cursor is the last. -/
theorem stream_accounted {operations : List SessionOperation}
    (hrun : machine.run new operations = some history) :
    history.accepted.Pairwise (fun a b => a.sequence < b.sequence) ∧
    Contiguous history.accepted ∧
    history.session.highestSequence = history.accepted.getLast?.map (·.sequence) ∧
    ∀ sequence disposition,
      (history.session.perform (.observeSequence sequence)).1 = .ok (.disposition disposition) →
      match disposition with
      | .accepted skipped =>
        (history.session.perform (.observeSequence sequence)).2.highestSequence = some sequence ∧
          ∀ highest ∈ history.session.highestSequence,
            highest.toNat + 1 ≤ sequence.toNat ∧
              skipped.toNat = sequence.toNat - highest.toNat - 1
      | .duplicate | .stale _ => history.call (.observeSequence sequence) = history := by
  have hinv := streamInv_run hrun
  refine ⟨hinv.ordered, hinv.contiguous, hinv.cursor, ?_⟩
  intro sequence disposition hresult
  have hobserved := perform_observation history.session sequence
  rw [SessionHistory.call]
  generalize history.session.perform (.observeSequence sequence) = performed at hobserved hresult ⊢
  obtain ⟨result, session⟩ := performed
  cases hobserved with
  | rejected error => cases hresult
  | first hnone =>
    cases hresult
    exact ⟨rfl, by simp [hnone]⟩
  | next highest hsome hnewer =>
    cases hresult
    refine ⟨rfl, ?_⟩
    intro other hother
    rw [hsome] at hother
    cases hother
    have hskipped := skipped_toNat hnewer
    omega
  | duplicate =>
    cases hresult
    rfl
  | stale highest =>
    cases hresult
    rfl

/-- A stream of three accepted sequences that goes on after a loss. -/
def resumedStream : List SessionOperation :=
  let agreement : NegotiatedSession := ⟨1, ⟨1920, 1080, 60000, 20000, 1, 0, 0⟩⟩
  [.start, .establish agreement .restart, .observeSequence 7, .observeSequence 10, .transportLost,
    .scheduleReconnect .default, .beginReconnect, .establish agreement .resume,
    .observeSequence 10, .observeSequence 12]

theorem stream_accounted_resumed : ∃ history, machine.run new resumedStream = some history ∧
    history.accepted = [⟨7, 0⟩, ⟨10, 2⟩, ⟨12, 1⟩] ∧ Contiguous history.accepted := by
  refine ⟨_, rfl, by decide, ?_⟩
  exact (@stream_accounted _ resumedStream rfl).2.1

/-- The retries have the numbers and the delays of the policy. -/
structure BudgetInv (policy : ReconnectPolicy) (history : SessionHistory) : Prop where
  attempts : history.session.reconnectAttempts.toNat = history.retries.length
  decided : ∀ k retry, history.retries[k]? = some retry →
    retry.attempt.toNat = k + 1 ∧ policy.delayForAttempt retry.attempt = some retry.delay

theorem budgetInv_new (policy : ReconnectPolicy) : BudgetInv policy new where
  attempts := rfl
  decided _ _ h := by cases h

theorem checkedSucc32_eq_some {value next : UInt32} (h : Session.checkedSucc32 value = some next) :
    next.toNat = value.toNat + 1 := by
  rw [Session.checkedSucc32] at h
  split at h
  · cases h
  · rename_i hne
    cases h
    have hlt := value.toNat_lt
    have hmax : value.toNat ≠ 2 ^ 32 - 1 := fun heq => hne (UInt32.toNat_inj.mp heq)
    rw [UInt32.toNat_add, UInt32.toNat_one, Nat.mod_eq_of_lt (by omega)]

/-- A call without a retry or an establishment keeps the budget. -/
theorem BudgetInv.keep (h : BudgetInv policy history) {after : SessionHistory}
    (hattempts : after.session.reconnectAttempts = history.session.reconnectAttempts)
    (hretries : after.retries = history.retries) : BudgetInv policy after where
  attempts := by
    rw [hattempts, hretries]
    exact h.attempts
  decided := by
    rw [hretries]
    exact h.decided

/-- The next retry has the next number. -/
theorem BudgetInv.schedule (h : BudgetInv policy history) {attempt : UInt32} {delay : Duration}
    (hattempt : Session.checkedSucc32 history.session.reconnectAttempts = some attempt)
    (hdelay : policy.delayForAttempt attempt = some delay) {after : SessionHistory}
    (hattempts : after.session.reconnectAttempts = attempt)
    (hretries : after.retries =
      history.retries ++ [⟨attempt, delay, history.session.highestSequence⟩]) :
    BudgetInv policy after := by
  have hnext := checkedSucc32_eq_some hattempt
  rw [h.attempts] at hnext
  constructor
  · rw [hattempts, hretries, List.length_append, List.length_singleton, hnext]
  · intro k retry hretry
    rw [hretries, List.getElem?_append] at hretry
    by_cases hold : k < history.retries.length
    · rw [if_pos hold] at hretry
      exact h.decided k retry hretry
    · rw [if_neg hold] at hretry
      obtain ⟨hlast, hsame⟩ := List.getElem?_eq_some_iff.mp hretry
      rw [List.length_singleton] at hlast
      rw [List.getElem_singleton] at hsame
      rw [← hsame]
      refine ⟨?_, hdelay⟩
      show attempt.toNat = k + 1
      omega

theorem BudgetInv.call (h : BudgetInv policy history) {operation : SessionOperation}
    (huses : ∀ other, operation = .scheduleReconnect other → other = policy) :
    BudgetInv policy (history.call operation) := by
  have heffect := history.session.perform_effect operation
  rw [SessionHistory.call]
  generalize history.session.perform operation = performed at heffect ⊢
  obtain ⟨result, session⟩ := performed
  cases heffect with
  | restarted => exact ⟨rfl, fun _ _ hnone => by cases hnone⟩
  | resumed => exact ⟨rfl, fun _ _ hnone => by cases hnone⟩
  | scheduled other attempt delay hphase hattempt hdelay =>
    cases huses other rfl
    exact h.schedule hattempt hdelay rfl rfl
  | rejected operation error =>
    cases operation with
    | _ => exact h.keep rfl rfl
  | advanced sequence disposition => cases disposition <;> exact h.keep rfl rfl
  | ignored sequence disposition => cases disposition <;> exact h.keep rfl rfl
  | started => exact h.keep rfl rfl
  | lost => exact h.keep rfl rfl
  | gaveUp => exact h.keep rfl rfl
  | reconnecting => exact h.keep rfl rfl
  | closed => exact h.keep rfl rfl

/-- The `k`-th retry, counted from one. -/
theorem BudgetInv.delay_eq (h : BudgetInv policy history) {k : Nat} {retry : Retry}
    (hretry : history.retries[k]? = some retry) :
    k < policy.maxAttempts.toNat ∧ retry.delay.nanos =
      min (policy.initialDelay.nanos * backoffFactor (k + 1)) policy.maxDelay.nanos := by
  obtain ⟨hattempt, hdelay⟩ := h.decided k retry hretry
  obtain ⟨hbudget, hnanos⟩ := delayForAttempt_eq_some hdelay
  have hle := UInt32.le_iff_toNat_le.mp hbudget
  rw [hattempt] at hle hnanos
  exact ⟨hle, hnanos⟩

theorem BudgetInv.numbered (h : BudgetInv policy history) :
    history.retries.map (·.attempt.toNat) = List.range' 1 history.retries.length := by
  apply List.ext_getElem?
  intro k
  rw [List.getElem?_map]
  cases hretry : history.retries[k]? with
  | none =>
    have hle := List.getElem?_eq_none_iff.mp hretry
    rw [List.getElem?_eq_none (by simpa using hle)]
    rfl
  | some retry =>
    obtain ⟨hlt, -⟩ := List.getElem?_eq_some_iff.mp hretry
    rw [List.getElem?_range' hlt, Option.map_some, (h.decided k retry hretry).1]
    congr 1
    omega

theorem BudgetInv.delays (h : BudgetInv policy history) :
    history.retries.map (·.delay.nanos) = (List.range' 1 history.retries.length).map fun k =>
      min (policy.initialDelay.nanos * backoffFactor k) policy.maxDelay.nanos := by
  apply List.ext_getElem?
  intro k
  rw [List.getElem?_map, List.getElem?_map]
  cases hretry : history.retries[k]? with
  | none =>
    have hle := List.getElem?_eq_none_iff.mp hretry
    rw [List.getElem?_eq_none (by simpa using hle)]
    rfl
  | some retry =>
    obtain ⟨hlt, -⟩ := List.getElem?_eq_some_iff.mp hretry
    rw [List.getElem?_range' hlt, Option.map_some, Option.map_some, (h.delay_eq hretry).2]
    congr 4
    omega

theorem BudgetInv.length_le (h : BudgetInv policy history) :
    history.retries.length ≤ policy.maxAttempts.toNat := by
  by_contra hmore
  have hlt : policy.maxAttempts.toNat < history.retries.length := by omega
  have hretry := List.getElem?_eq_getElem hlt
  exact absurd (h.delay_eq hretry).1 (Nat.lt_irrefl _)

theorem BudgetInv.nondecreasing (h : BudgetInv policy history) :
    history.retries.Pairwise fun a b => a.delay.nanos ≤ b.delay.nanos := by
  rw [List.pairwise_iff_getElem]
  intro i j hi hj hlt
  rw [(h.delay_eq (List.getElem?_eq_getElem hi)).2, (h.delay_eq (List.getElem?_eq_getElem hj)).2]
  have hfactor : backoffFactor (i + 1) ≤ backoffFactor (j + 1) := backoffFactor_mono (by omega)
  have hproduct := Nat.mul_le_mul_left policy.initialDelay.nanos hfactor
  omega

theorem BudgetInv.within (h : BudgetInv policy history) {retry : Retry}
    (hmem : retry ∈ history.retries) :
    policy.initialDelay.nanos ≤ retry.delay.nanos ∧
      retry.delay.nanos ≤ policy.maxDelay.nanos := by
  obtain ⟨k, hk⟩ := List.mem_iff_getElem?.mp hmem
  rw [(h.delay_eq hk).2]
  have hproduct := Nat.le_mul_of_pos_right policy.initialDelay.nanos (backoffFactor_pos (k + 1))
  have hpolicy := policy.delay_le
  omega

/-- With the budget spent, the session gives up. -/
theorem BudgetInv.gives_up (h : BudgetInv policy history)
    (hspent : history.retries.length = policy.maxAttempts.toNat)
    (hphase : history.session.phase = .waitingToReconnect) :
    history.session.perform (.scheduleReconnect policy) =
      (.ok (.decision .giveUp), { history.session with phase := .closed }) := by
  rw [Session.perform, Session.call, Session.scheduleReconnect, bind_assoc,
    Session.requirePhase_bind, if_pos hphase, bind_assoc, Session.get_bind]
  cases hattempt : Session.checkedSucc32 history.session.reconnectAttempts with
  | none => rfl
  | some attempt =>
    have hnext := checkedSucc32_eq_some hattempt
    have hdelay : policy.delayForAttempt attempt = none := by
      rw [ReconnectPolicy.delayForAttempt]
      apply if_pos
      right
      rw [h.attempts, hspent] at hnext
      exact UInt32.lt_iff_toNat_lt.mpr (by omega)
    simp only [hdelay]
    rfl

/-- A retry carries the cursor of the session. -/
theorem resumeAfter_eq {attempt : UInt32} {delay : Duration} {resumeAfter : Option UInt64}
    (hresult : (history.session.perform (.scheduleReconnect policy)).1 =
      .ok (.decision (.retryAfter attempt delay resumeAfter))) :
    resumeAfter = history.session.highestSequence := by
  have heffect := history.session.perform_effect (.scheduleReconnect policy)
  generalize history.session.perform (.scheduleReconnect policy) = performed at heffect hresult
  obtain ⟨result, session⟩ := performed
  cases heffect with
  | rejected => cases hresult
  | scheduled =>
    cases hresult
    rfl
  | gaveUp => cases hresult

theorem budgetInv_run {operations : List SessionOperation}
    (huses : ∀ other, .scheduleReconnect other ∈ operations → other = policy)
    (hrun : machine.run new operations = some history) : BudgetInv policy history := by
  have hadmits : machine.Admits
      (fun _ operation => ∀ other, operation = .scheduleReconnect other → other = policy)
      new operations := by
    apply machine.admits_of_mem
    intro operation hmem _ other hother
    exact huses other (hother ▸ hmem)
  apply machine.run_invariant_of_admits _ (BudgetInv policy) ?_ (budgetInv_new policy) hadmits hrun
  intro _ operation _ h hguard hstep
  cases hstep
  exact h.call hguard

/-- Between two establishments the retries of a session are numbered from one and stay within the
budget of the policy, with capped exponential delays; they resume after the highest accepted
sequence, and after the last one the session gives up for good. -/
theorem reconnect_budget {maxAttempts : UInt32} {initialDelay maxDelay : Duration}
    (hpolicy : ReconnectPolicy.new maxAttempts initialDelay maxDelay = .ok policy)
    {operations : List SessionOperation}
    (huses : ∀ other, .scheduleReconnect other ∈ operations → other = policy)
    (hrun : machine.run new operations = some history) :
    (history.retries.map (·.attempt.toNat) = List.range' 1 history.retries.length ∧
      history.retries.length ≤ maxAttempts.toNat ∧
      history.retries.Pairwise (fun a b => a.delay.nanos ≤ b.delay.nanos) ∧
      (∀ retry ∈ history.retries,
        initialDelay.nanos ≤ retry.delay.nanos ∧ retry.delay.nanos ≤ maxDelay.nanos) ∧
      history.retries.map (·.delay.nanos) = (List.range' 1 history.retries.length).map fun k =>
        min (initialDelay.nanos * backoffFactor k) maxDelay.nanos) ∧
    (∀ attempt delay resumeAfter,
      (history.session.perform (.scheduleReconnect policy)).1 =
        .ok (.decision (.retryAfter attempt delay resumeAfter)) →
      resumeAfter = history.accepted.getLast?.map (·.sequence) ∧
        ∀ acceptance ∈ history.accepted, ∀ highest ∈ resumeAfter,
          acceptance.sequence ≤ highest) ∧
    (history.retries.length = maxAttempts.toNat → history.session.phase = .waitingToReconnect →
      history.session.perform (.scheduleReconnect policy) =
          (.ok (.decision .giveUp), { history.session with phase := .closed }) ∧
        ∀ more, ({ history.session with phase := .closed } : Session).after more =
          { history.session with phase := .closed }) := by
  rw [ReconnectPolicy.new] at hpolicy
  split at hpolicy
  · cases hpolicy
  cases hpolicy
  have hstream := streamInv_run hrun
  have hbudget := budgetInv_run huses hrun
  refine ⟨⟨hbudget.numbered, hbudget.length_le, hbudget.nondecreasing,
    fun _ hmem => hbudget.within hmem, hbudget.delays⟩, ?_, ?_⟩
  · intro attempt delay resumeAfter hresult
    have hcursor := (resumeAfter_eq hresult).trans hstream.cursor
    refine ⟨hcursor, ?_⟩
    intro acceptance hmem highest hhighest
    rw [hcursor] at hhighest
    obtain ⟨last, hlast, rfl⟩ := Option.map_eq_some_iff.mp hhighest
    exact UInt64.le_iff_toNat_le.mpr (hstream.le_last hlast hmem)
  · intro hspent hphase
    exact ⟨hbudget.gives_up hspent hphase, fun more => Session.after_closed rfl more⟩

/-- Two losses in a row before the session is established again. -/
def twoRetries : List SessionOperation :=
  let agreement : NegotiatedSession := ⟨1, ⟨1920, 1080, 60000, 20000, 1, 0, 0⟩⟩
  [.start, .establish agreement .restart, .observeSequence 7, .transportLost,
    .scheduleReconnect .default, .beginReconnect, .transportLost, .scheduleReconnect .default]

theorem reconnect_budget_twoRetries : ∃ history, machine.run new twoRetries = some history ∧
    history.retries = [⟨1, .fromMillis 250, some 7⟩, ⟨2, .fromMillis 500, some 7⟩] ∧
    history.retries.map (·.attempt.toNat) = List.range' 1 history.retries.length := by
  have hpolicy : ReconnectPolicy.new 5 (.fromMillis 250) (.fromMillis 8000) = .ok .default := rfl
  have huses : ∀ other, .scheduleReconnect other ∈ twoRetries → other = ReconnectPolicy.default := by
    simp [twoRetries]
  refine ⟨_, rfl, by decide, ?_⟩
  exact (reconnect_budget hpolicy huses rfl).1.1

end SessionHistory

end LadoFlow.Core
