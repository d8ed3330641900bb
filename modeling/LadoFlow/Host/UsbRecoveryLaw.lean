import LadoFlow.Framework.Machine
import LadoFlow.Host.UsbRecovery

/-!
# The window of a recovery

The waits between the attempts and the end of the window leave room for so many reconnections. A window opens
with the loss of a session that had streamed, or with the first loss, and with nothing else.
-/

namespace LadoFlow.Host

open LadoFlow.Transport Framework

/-- The delay before an attempt; the first attempt is 1. -/
def delayBefore (attempt : Nat) : Nat :=
  doubledUpTo usbReconnectMaxDelay usbReconnectInitialDelay (min (attempt - 1) 3)

/-- All delays up to an attempt. -/
def backoff : Nat → Nat
  | 0 => 0
  | attempt + 1 => backoff attempt + delayBefore (attempt + 1)

theorem initialDelay_le (attempt : Nat) : usbReconnectInitialDelay ≤ delayBefore attempt :=
  le_doubledUpTo (by decide) _

theorem backoff_of_pos {attempt : Nat} (h : 1 ≤ attempt) :
    backoff attempt = backoff (attempt - 1) + delayBefore attempt := by
  obtain ⟨before, rfl⟩ := Nat.exists_eq_add_of_le' h
  rfl

theorem backoff_eq (attempt : Nat) : backoff (attempt + 3) = millis 1750 + attempt * millis 2000 := by
  induction attempt with
  | zero => decide
  | succ attempt ih =>
    have hdelay : delayBefore (attempt + 4) = millis 2000 := by
      simp only [delayBefore, Nat.add_succ_sub_one]
      rw [Nat.min_eq_right (by omega)]
      decide
    rw [show attempt + 1 + 3 = attempt + 3 + 1 by omega, backoff, ih, hdelay, Nat.succ_mul, Nat.add_assoc]

/-- No window has room for the delays of more attempts. -/
theorem attempt_le_of_backoff {attempt : Nat} (h : backoff attempt < usbReconnectWindow) :
    attempt ≤ 32 := by
  by_contra hmany
  have hthree : 3 ≤ attempt := by omega
  obtain ⟨more, rfl⟩ := Nat.exists_eq_add_of_le' hthree
  rw [backoff_eq] at h
  simp only [usbReconnectWindow, millis] at h
  omega

/-- When the last window opened: at the last loss behind a stream, or else at the first loss. -/
def windowOpened (losses : List (Nat × Bool)) : Option Nat :=
  ((losses.filter (·.2)).getLast?.or losses.head?).map (·.1)

theorem windowOpened_snoc (losses : List (Nat × Bool)) (time : Nat) (hadStreamed : Bool) :
    windowOpened (losses ++ [(time, hadStreamed)]) =
      if hadStreamed || (windowOpened losses).isNone then some time else windowOpened losses := by
  cases hadStreamed with
  | true => simp [windowOpened]
  | false =>
    cases losses with
    | nil => simp [windowOpened]
    | cons first rest =>
      simp [windowOpened]

namespace UsbRecovery

/-- A reconnection may start at that time, or the window is over by then. -/
def Ready (s : UsbRecovery) (opened time : Nat) : Prop :=
  opened + usbReconnectWindow ≤ time ∨
    opened + backoff s.reconnectAttempt.toNat ≤ time ∧
      ∀ start ∈ s.starts, start + usbReconnectInitialDelay ≤ time

/-- What the point of the worker says of the clock. -/
def Punctual (s : UsbRecovery) (opened : Nat) : Prop :=
  match s.point with
  | .planned _ delay => s.Ready opened (s.now + delay)
  | .waiting _ deadline => s.Ready opened deadline
  | .waited _ => s.Ready opened s.now
  | .reconnecting _ => opened + backoff s.reconnectAttempt.toNat ≤ s.now ∧
      backoff s.reconnectAttempt.toNat < usbReconnectWindow
  | .session | .lost _ | .retrying _ | .ended _ => True

/-- The bookkeeping of a window that opened at that time. -/
structure Timed (s : UsbRecovery) (opened : Nat) : Prop where
  deadline : s.reconnectDeadline = some (opened + usbReconnectWindow)
  opened_le : opened ≤ s.now
  attempt_pos : 1 ≤ s.reconnectAttempt.toNat
  attempt_le : s.reconnectAttempt.toNat ≤ 33
  backoff_le : opened + backoff (s.reconnectAttempt.toNat - 1) ≤ s.now
  spaced : Spaced usbReconnectInitialDelay s.starts
  starts_ge : ∀ start ∈ s.starts, opened + usbReconnectInitialDelay ≤ start
  starts_lt : ∀ start ∈ s.starts, start < opened + usbReconnectWindow
  starts_le : ∀ start ∈ s.starts, start ≤ s.now
  punctual : s.Punctual opened

/-- A worker that has not lost a link yet. -/
structure Fresh (s : UsbRecovery) : Prop where
  deadline : s.reconnectDeadline = none
  losses : s.losses = []
  starts : s.starts = []
  attempt : s.reconnectAttempt = 1
  point : s.point = .session ∨ (∃ error, s.point = .lost error) ∨ ∃ reason, s.point = .ended reason

def Clocked (s : UsbRecovery) : Prop :=
  s.Fresh ∨ ∃ opened, windowOpened s.losses = some opened ∧ s.Timed opened

/-- What the windows show at a point of the worker. -/
def Shown (s : UsbRecovery) : Prop :=
  match s.point with
  | .session | .lost _ => s.shared.phase ∈ [.negotiating, .connected, .streaming]
  | .retrying _ => s.shared.phase ∈ [.negotiating, .connected, .streaming, .recovering]
  | .planned .. | .waiting .. | .waited _ | .reconnecting _ =>
    s.shared.phase = .recovering ∧ s.shared.session = none
  | .ended .completed => s.shared.phase ≠ .failed
  | .ended .cancelled => s.cancel = true ∧ s.shared.phase ≠ .failed
  | .ended (.broken error) => s.shared.phase = .failed ∧ s.shared.lastError = some (.text error)
  | .ended (.expired lastError) => s.shared.phase = .failed ∧
      s.shared.lastError = some (.text (expiredText lastError)) ∧
      ∃ deadline, s.reconnectDeadline = some deadline ∧ deadline ≤ s.now

variable {s t : UsbRecovery} {opened : Nat}

theorem Ready.mono (h : s.Ready opened time) {later : Nat} (hle : time ≤ later) : s.Ready opened later := by
  rcases h with hover | ⟨hbackoff, hstarts⟩
  · exact .inl (hover.trans hle)
  · exact .inr ⟨hbackoff.trans hle, fun start hstart => (hstarts start hstart).trans hle⟩

/-- The worker goes on within its window. -/
theorem Timed.goOn (h : s.Timed opened) (hdeadline : t.reconnectDeadline = s.reconnectDeadline)
    (hattempt : t.reconnectAttempt = s.reconnectAttempt) (hstarts : t.starts = s.starts)
    (hnow : s.now ≤ t.now) (hpunctual : t.Punctual opened) : t.Timed opened where
  deadline := hdeadline.trans h.deadline
  opened_le := h.opened_le.trans hnow
  attempt_pos := hattempt ▸ h.attempt_pos
  attempt_le := hattempt ▸ h.attempt_le
  backoff_le := by
    rw [hattempt]
    exact h.backoff_le.trans hnow
  spaced := hstarts ▸ h.spaced
  starts_ge := hstarts ▸ h.starts_ge
  starts_lt := hstarts ▸ h.starts_lt
  starts_le := fun start hstart => (h.starts_le start (hstarts ▸ hstart)).trans hnow
  punctual := hpunctual

theorem Timed.retry (h : s.Timed opened) (lastError : String) :
    (s.retry lastError (opened + usbReconnectWindow)).Timed opened := by
  rw [UsbRecovery.retry]
  split
  · exact h.goOn rfl rfl rfl (Nat.le_refl _) trivial
  · rename_i hbefore
    refine h.goOn rfl rfl rfl (Nat.le_refl _) ?_
    have hbackoff := backoff_of_pos h.attempt_pos
    have hle := h.backoff_le
    have hdelay := initialDelay_le s.reconnectAttempt.toNat
    have hsame : usbReconnectDelay s.reconnectAttempt = delayBefore s.reconnectAttempt.toNat := rfl
    rcases Nat.le_total (usbReconnectDelay s.reconnectAttempt) (opened + usbReconnectWindow - s.now) with
      hfull | hcut
    · right
      rw [Nat.min_eq_left hfull]
      constructor
      · dsimp only
        omega
      · intro start hstart
        have hstarted := h.starts_le start hstart
        dsimp only
        omega
    · left
      rw [Nat.min_eq_right hcut]
      dsimp only
      omega

theorem Timed.recheck (h : s.Timed opened) {lastError : String} (hpoint : s.point = .waited lastError) :
    (s.recheck lastError (opened + usbReconnectWindow)).Timed opened := by
  rw [UsbRecovery.recheck]
  split
  · exact h.goOn rfl rfl rfl (Nat.le_refl _) trivial
  · rename_i hbefore
    have hready := h.punctual
    simp only [Punctual, hpoint] at hready
    obtain ⟨hbackoff, hstarts⟩ := hready.resolve_left hbefore
    have hpos := backoff_of_pos h.attempt_pos
    have hdelay := initialDelay_le s.reconnectAttempt.toNat
    have hsnoc : ∀ P : Nat → Prop, (∀ start ∈ s.starts, P start) → P s.now →
        ∀ start ∈ s.starts ++ [s.now], P start := by
      intro P hold hnow start hstart
      rcases List.mem_append.mp hstart with hmem | hmem
      · exact hold start hmem
      · exact List.mem_singleton.mp hmem ▸ hnow
    exact
      { deadline := h.deadline
        opened_le := h.opened_le
        attempt_pos := h.attempt_pos
        attempt_le := h.attempt_le
        backoff_le := h.backoff_le
        spaced := h.spaced.snoc hstarts
        starts_ge := hsnoc _ h.starts_ge (by omega)
        starts_lt := hsnoc _ h.starts_lt (by omega)
        starts_le := hsnoc _ h.starts_le (Nat.le_refl _)
        punctual := ⟨hbackoff, by dsimp only; omega⟩ }

theorem nextAttempt_toNat {attempt : UInt32} (h : attempt.toNat ≤ 33) :
    (nextAttempt attempt).toNat = attempt.toNat + 1 := by
  have hne : attempt ≠ 4294967295 := by
    rintro rfl
    exact absurd h (by decide)
  rw [nextAttempt, if_neg hne, UInt32.toNat_add]
  have hone : (1 : UInt32).toNat = 1 := rfl
  omega

theorem Timed.reconnected (h : s.Timed opened) {lastError : String}
    (hpoint : s.point = .reconnecting lastError) (result : Except String Unit) :
    (s.reconnected result).Timed opened := by
  have hpunctual := h.punctual
  simp only [Punctual, hpoint] at hpunctual
  have hattempt := attempt_le_of_backoff hpunctual.2
  cases result with
  | ok => exact h.goOn rfl rfl rfl (Nat.le_refl _) trivial
  | error error =>
    rw [UsbRecovery.reconnected]
    split
    · exact h.goOn rfl rfl rfl (Nat.le_refl _) trivial
    · have hnext := nextAttempt_toNat h.attempt_le
      exact
        { deadline := h.deadline
          opened_le := h.opened_le
          attempt_pos := by rw [hnext]; omega
          attempt_le := by rw [hnext]; omega
          backoff_le := by
            rw [hnext, Nat.add_sub_cancel]
            exact hpunctual.1
          spaced := h.spaced
          starts_ge := h.starts_ge
          starts_lt := h.starts_lt
          starts_le := h.starts_le
          punctual := trivial }

/-- A window opens. -/
theorem timed_opened (config : LoopbackConfig) (shared : SharedState) (cancel : Bool) (now : Nat)
    (error : String) (losses : List (Nat × Bool)) :
    Timed ⟨config, shared, cancel, now, some (now + usbReconnectWindow), 1, .retrying error, losses, []⟩
      now where
  deadline := rfl
  opened_le := Nat.le_refl _
  attempt_pos := (by decide : 1 ≤ (1 : UInt32).toNat)
  attempt_le := (by decide : (1 : UInt32).toNat ≤ 33)
  backoff_le := by simp [backoff]
  spaced := spaced_nil
  starts_ge := by simp
  starts_lt := by simp
  starts_le := by simp
  punctual := trivial

/-- What a step of the worker or of its surroundings can be. -/
inductive Move (s : UsbRecovery) : UsbRecovery → Prop
  | cancel : Move s { s with cancel := true }
  | tick (elapsed : Nat) : Move s { s with now := s.now + elapsed }
  | write (update : WorkerUpdate) (hpoint : s.point = .session) (hsession : update.ofSession = true) :
    Move s { s with shared := update.apply s.shared }
  | complete (hpoint : s.point = .session) : Move s (s.finish .completed)
  | lose (error : String) (hpoint : s.point = .session) : Move s { s with point := .lost error }
  | examine (error : String) (connection : ConnectionState) (hpoint : s.point = .lost error) :
    Move s (s.examine error connection)
  | retry (lastError : String) (deadline : Nat) (hpoint : s.point = .retrying lastError)
    (hdeadline : s.reconnectDeadline = some deadline) : Move s (s.retry lastError deadline)
  | beginWait (lastError : String) (delay : Nat) (hpoint : s.point = .planned lastError delay) :
    Move s { s with point := .waiting lastError (s.now + delay) }
  | poll (lastError : String) (deadline : Nat) (hpoint : s.point = .waiting lastError deadline) :
    Move s (s.poll lastError deadline)
  | recheck (lastError : String) (deadline : Nat) (hpoint : s.point = .waited lastError)
    (hdeadline : s.reconnectDeadline = some deadline) : Move s (s.recheck lastError deadline)
  | reconnected (lastError : String) (result : Except String Unit)
    (hpoint : s.point = .reconnecting lastError) : Move s (s.reconnected result)

theorem next_move {step : RecoveryStep} (h : s.next step = some t) : s.Move t := by
  rw [next.eq_def] at h
  split at h
  case h_3 hpoint =>
    split at h <;> cases h
    rename_i hsession
    exact .write _ hpoint hsession
  all_goals cases h
  case h_1 => exact .cancel
  case h_2 => exact .tick _
  case h_4 hpoint => exact .complete hpoint
  case h_5 hpoint => exact .lose _ hpoint
  case h_6 hpoint => exact .examine _ _ hpoint
  case h_7 hpoint hdeadline => exact .retry _ _ hpoint hdeadline
  case h_8 hpoint => exact .beginWait _ _ hpoint
  case h_9 hpoint => exact .poll _ _ hpoint
  case h_10 hpoint hdeadline => exact .recheck _ _ hpoint hdeadline
  case h_11 hpoint => exact .reconnected _ _ hpoint

/-- A step that leaves the window alone. -/
theorem Clocked.keep (h : s.Clocked) (hdeadline : t.reconnectDeadline = s.reconnectDeadline)
    (hlosses : t.losses = s.losses) (hattempt : t.reconnectAttempt = s.reconnectAttempt)
    (hstarts : t.starts = s.starts) (hnow : s.now ≤ t.now)
    (hfresh : s.Fresh → t.point = .session ∨ (∃ error, t.point = .lost error) ∨
      ∃ reason, t.point = .ended reason)
    (hpunctual : ∀ opened, s.Timed opened → t.Punctual opened) : t.Clocked := by
  rcases h with hnew | ⟨opened, hopened, htimed⟩
  · left
    exact
      { deadline := hdeadline.trans hnew.deadline
        losses := hlosses.trans hnew.losses
        starts := hstarts.trans hnew.starts
        attempt := hattempt.trans hnew.attempt
        point := hfresh hnew }
  · right
    refine ⟨opened, ?_, htimed.goOn hdeadline hattempt hstarts hnow (hpunctual opened htimed)⟩
    rw [hlosses]
    exact hopened

/-- A worker past its first loss has a window. -/
theorem Clocked.timed (h : s.Clocked)
    (hpoint : ∀ reason, s.point ≠ .session ∧ (∀ error, s.point ≠ .lost error) ∧ s.point ≠ .ended reason) :
    ∃ opened, windowOpened s.losses = some opened ∧ s.Timed opened := by
  rcases h with hnew | htimed
  · rcases hnew.point with hsession | ⟨error, hlost⟩ | ⟨reason, hended⟩
    · exact absurd hsession (hpoint .completed).1
    · exact absurd hlost ((hpoint .completed).2.1 error)
    · exact absurd hended (hpoint reason).2.2
  · exact htimed

/-- The loss behind a stream opens a window, and so does the first loss. -/
theorem Clocked.lose (h : s.Clocked) (error : String) : (s.lose error).Clocked := by
  right
  rw [UsbRecovery.lose]
  split
  · rename_i hopens
    refine ⟨s.now, ?_, timed_opened ..⟩
    simp only [windowOpened_snoc]
    rw [if_pos]
    rcases h with hnew | ⟨opened, hopened, htimed⟩
    · simp [hnew.losses, windowOpened]
    · simpa [htimed.deadline, hopened] using hopens
  · rename_i hkeeps
    simp only [Bool.or_eq_true, not_or, Bool.not_eq_true] at hkeeps
    rcases h with hnew | ⟨opened, hopened, htimed⟩
    · rw [hnew.deadline] at hkeeps
      cases hkeeps.2
    · refine ⟨opened, ?_, htimed.goOn rfl rfl rfl (Nat.le_refl _) trivial⟩
      simp [windowOpened_snoc, hkeeps.1, hopened]

theorem Clocked.finish (h : s.Clocked) (reason : RecoveryEnd) : (s.finish reason).Clocked :=
  h.keep rfl rfl rfl rfl (Nat.le_refl _) (fun _ => .inr (.inr ⟨reason, rfl⟩)) fun _ _ => trivial

theorem Clocked.fail (h : s.Clocked) (error : String) (reason : RecoveryEnd) :
    (s.fail error reason).Clocked :=
  h.keep rfl rfl rfl rfl (Nat.le_refl _) (fun _ => .inr (.inr ⟨reason, rfl⟩)) fun _ _ => trivial

theorem Clocked.move (h : s.Clocked) (hmove : s.Move t) : t.Clocked := by
  cases hmove with
  | cancel =>
    exact h.keep rfl rfl rfl rfl (Nat.le_refl _) (fun hnew => hnew.point)
      fun _ htimed => htimed.punctual
  | tick elapsed =>
    refine h.keep rfl rfl rfl rfl (Nat.le_add_right _ _) (fun hnew => hnew.point) ?_
    intro opened htimed
    have hpunctual := htimed.punctual
    cases hpoint : s.point <;> simp only [Punctual, hpoint] at hpunctual ⊢
    case planned => exact hpunctual.mono (by omega)
    case waiting => exact hpunctual
    case waited => exact hpunctual.mono (Nat.le_add_right _ _)
    case reconnecting => exact ⟨by omega, hpunctual.2⟩
  | write update hpoint =>
    exact h.keep rfl rfl rfl rfl (Nat.le_refl _) (fun _ => .inl hpoint)
      fun _ htimed => htimed.punctual
  | complete => exact h.finish _
  | lose error =>
    exact h.keep rfl rfl rfl rfl (Nat.le_refl _) (fun _ => .inr (.inl ⟨error, rfl⟩))
      fun _ _ => trivial
  | examine error connection =>
    rw [UsbRecovery.examine]
    split
    · exact h.finish _
    · split
      · exact h.fail _ _
      · exact h.lose error
  | retry lastError deadline hpoint hdeadline =>
    obtain ⟨opened, hopened, htimed⟩ := h.timed (by simp [hpoint])
    cases htimed.deadline.symm.trans hdeadline
    refine .inr ⟨opened, ?_, htimed.retry lastError⟩
    rw [UsbRecovery.retry]
    split <;> exact hopened
  | beginWait lastError delay hpoint =>
    refine h.keep rfl rfl rfl rfl (Nat.le_refl _) ?_ ?_
    · intro hnew
      simpa [hpoint] using hnew.point
    · intro opened htimed
      have hpunctual := htimed.punctual
      simp only [Punctual, hpoint] at hpunctual
      exact hpunctual
  | poll lastError deadline hpoint =>
    rw [UsbRecovery.poll]
    split
    · exact h.finish _
    · split
      · rename_i hover
        refine h.keep rfl rfl rfl rfl (Nat.le_refl _) ?_ ?_
        · intro hnew
          simpa [hpoint] using hnew.point
        · intro opened htimed
          have hpunctual := htimed.punctual
          simp only [Punctual, hpoint] at hpunctual
          exact hpunctual.mono hover
      · exact h
  | recheck lastError deadline hpoint hdeadline =>
    obtain ⟨opened, hopened, htimed⟩ := h.timed (by simp [hpoint])
    cases htimed.deadline.symm.trans hdeadline
    refine .inr ⟨opened, ?_, htimed.recheck hpoint⟩
    rw [UsbRecovery.recheck]
    split <;> exact hopened
  | reconnected lastError result hpoint =>
    obtain ⟨opened, hopened, htimed⟩ := h.timed (by simp [hpoint])
    refine .inr ⟨opened, ?_, htimed.reconnected hpoint result⟩
    rw [UsbRecovery.reconnected.eq_def]
    split
    · exact hopened
    · split <;> exact hopened

theorem start_clocked (config : LoopbackConfig) (now : Nat) (startedAt : Core.Duration) :
    (start config now startedAt).Clocked :=
  .inl ⟨rfl, rfl, rfl, rfl, .inl rfl⟩

/-- A control session leaves the windows at a live phase. -/
theorem apply_ofSession_phase {update : WorkerUpdate} (hsession : update.ofSession = true)
    {shared : SharedState} (h : shared.phase ∈ [.negotiating, .connected, .streaming]) :
    (update.apply shared).phase ∈ [.negotiating, .connected, .streaming] := by
  cases update with
  | establish => simp [WorkerUpdate.apply, SharedState.establishAndroidControl]
  | sentVideo => simp [WorkerUpdate.apply, SharedState.recordSentVideo]
  | telemetry => exact h
  | control sequence =>
    have hsame : (shared.observeSequence sequence).2.phase = shared.phase := by
      rw [SharedState.observeSequence]
      split
      · rfl
      · split <;> rfl
    rw [WorkerUpdate.apply, hsame]
    exact h
  | recovery => cases hsession
  | renegotiation => cases hsession
  | fail => cases hsession
  | dropped => cases hsession
  | sent => cases hsession
  | presented => cases hsession
  | drained => cases hsession

theorem Shown.cancelled (hcancel : s.cancel = true)
    (hphase : s.shared.phase ≠ .failed) : (s.finish .cancelled).Shown :=
  ⟨hcancel, hphase⟩

theorem shown_expire {deadline : Nat} (hdeadline : s.reconnectDeadline = some deadline)
    (hover : deadline ≤ s.now) (lastError : String) : (s.expire lastError).Shown :=
  ⟨rfl, rfl, deadline, hdeadline, hover⟩

theorem Shown.live (h : s.Shown) (hpoint : s.point = .session ∨ ∃ error, s.point = .lost error) :
    s.shared.phase ∈ [.negotiating, .connected, .streaming] := by
  rcases hpoint with hsession | ⟨error, hlost⟩
  · simpa only [Shown, hsession] using h
  · simpa only [Shown, hlost] using h

theorem Shown.move (h : s.Shown) (hmove : s.Move t) : t.Shown := by
  cases hmove with
  | cancel =>
    cases hpoint : s.point with
    | ended reason =>
      cases reason <;> simp only [Shown, hpoint] at h ⊢
      case cancelled => exact ⟨trivial, h.2⟩
      all_goals exact h
    | _ =>
      simp only [Shown, hpoint] at h ⊢
      exact h
  | tick elapsed =>
    cases hpoint : s.point with
    | ended reason =>
      cases reason <;> simp only [Shown, hpoint] at h ⊢
      case expired =>
        obtain ⟨hphase, herror, deadline, hdeadline, hover⟩ := h
        exact ⟨hphase, herror, deadline, hdeadline, hover.trans (Nat.le_add_right _ _)⟩
      all_goals exact h
    | _ =>
      simp only [Shown, hpoint] at h ⊢
      exact h
  | write update hpoint hsession =>
    have hlive := apply_ofSession_phase hsession (h.live (.inl hpoint))
    simpa only [Shown, hpoint] using hlive
  | complete hpoint =>
    have hlive := h.live (.inl hpoint)
    show s.shared.phase ≠ .failed
    intro hfailed
    simp [hfailed] at hlive
  | lose error hpoint => exact h.live (.inl hpoint)
  | examine error connection hpoint =>
    have hlive := h.live (.inr ⟨error, hpoint⟩)
    rw [UsbRecovery.examine]
    split
    · rename_i hcancel
      refine Shown.cancelled hcancel ?_
      intro hfailed
      simp [hfailed] at hlive
    · split
      · exact ⟨rfl, rfl⟩
      · rw [UsbRecovery.lose]
        have hlater : s.shared.phase ∈ [.negotiating, .connected, .streaming, .recovering] :=
          List.mem_append_left [SessionPhaseView.recovering] hlive
        split <;> exact hlater
  | retry lastError deadline hpoint hdeadline =>
    rw [UsbRecovery.retry]
    split
    · rename_i hover
      exact shown_expire hdeadline hover lastError
    · exact ⟨rfl, rfl⟩
  | beginWait lastError delay hpoint => simpa only [Shown, hpoint] using h
  | poll lastError deadline hpoint =>
    have hrecovering : s.shared.phase = .recovering ∧ s.shared.session = none := by
      simpa only [Shown, hpoint] using h
    rw [UsbRecovery.poll]
    split
    · rename_i hcancel
      exact Shown.cancelled hcancel (by simp [hrecovering.1])
    · split
      · exact hrecovering
      · exact h
  | recheck lastError deadline hpoint hdeadline =>
    rw [UsbRecovery.recheck]
    split
    · rename_i hover
      exact shown_expire hdeadline hover lastError
    · simpa only [Shown, hpoint] using h
  | reconnected lastError result hpoint =>
    have hrecovering : s.shared.phase = .recovering ∧ s.shared.session = none := by
      simpa only [Shown, hpoint] using h
    cases result with
    | ok => simp [UsbRecovery.reconnected, Shown, SharedState.beginUsbRenegotiation]
    | error error =>
      rw [UsbRecovery.reconnected]
      split
      · rename_i hcancel
        exact Shown.cancelled hcancel (by simp [hrecovering.1])
      · simp [Shown, hrecovering.1]

theorem start_shown (config : LoopbackConfig) (now : Nat) (startedAt : Core.Duration) :
    (start config now startedAt).Shown := by
  simp [Shown, start, SharedState.resetForAndroidNegotiation]

section Runs

variable {config : LoopbackConfig} {now : Nat} {startedAt : Core.Duration}

theorem run_keeps {steps : List RecoveryStep}
    (hrun : machine.run (start config now startedAt) steps = some s) : s.Clocked ∧ s.Shown := by
  refine machine.run_invariant (fun s => s.Clocked ∧ s.Shown) ?_
    ⟨start_clocked config now startedAt, start_shown config now startedAt⟩ hrun
  intro s step t h hstep
  have hmove := next_move hstep
  exact ⟨h.1.move hmove, h.2.move hmove⟩

/-- Spaced starts fit a window only so often. -/
theorem Timed.starts_length (h : s.Timed opened) : s.starts.length < 240 := by
  have hroom := h.spaced.length_mul_lt h.starts_ge h.starts_lt (Nat.lt_add_of_pos_right (by decide))
  have hwindow : usbReconnectWindow = 240 * usbReconnectInitialDelay := by decide
  rw [hwindow] at hroom
  have hpos : 0 < usbReconnectInitialDelay := by decide
  exact Nat.lt_of_mul_lt_mul_right (by omega : s.starts.length * usbReconnectInitialDelay < _)

/-- In every run of the worker the deadline lies one window behind the loss that opened it, which is the last
loss of a streaming session, or else the first loss; every reconnection starts before it, a delay after the
one before, so that at most 239 start in a window. The windows show the recovery while it waits, and a
failure for the time only past the deadline. -/
theorem usb_recovery_within_window {steps : List RecoveryStep}
    (hrun : machine.run (start config now startedAt) steps = some s) :
    (∀ deadline, s.reconnectDeadline = some deadline →
      ∃ opened, windowOpened s.losses = some opened ∧ deadline = opened + usbReconnectWindow ∧
        Spaced usbReconnectInitialDelay (opened :: s.starts) ∧ (∀ start ∈ s.starts, start < deadline) ∧
        s.starts.length < 240) ∧
    s.reconnectAttempt.toNat ≤ 33 ∧ s.Shown := by
  obtain ⟨hclocked, hshown⟩ := run_keeps hrun
  rcases hclocked with hnew | ⟨opened, hopened, htimed⟩
  · refine ⟨?_, ?_, hshown⟩
    · intro deadline hdeadline
      rw [hnew.deadline] at hdeadline
      cases hdeadline
    · rw [hnew.attempt]
      decide
  · refine ⟨?_, htimed.attempt_le, hshown⟩
    intro deadline hdeadline
    cases htimed.deadline.symm.trans hdeadline
    exact ⟨opened, hopened, rfl, .cons htimed.starts_ge htimed.spaced, htimed.starts_lt,
      htimed.starts_length⟩

/-- A wait of that many milliseconds and the reconnection behind it. -/
def reconnection (waited : Nat) (result : Except String Unit) : List RecoveryStep :=
  [.retry, .beginWait, .tick (millis waited), .poll, .recheck, .reconnected result]

/-- The link of a streaming session is lost; the second reconnection works. -/
def streamedThenLost : List RecoveryStep :=
  [.write (.sentVideo 1), .tick (millis 5000), .sessionEnds (.error "unplugged"), .examine .disconnected] ++
    reconnection 250 (.error "no device") ++ reconnection 500 (.ok ())

theorem usb_recovery_within_window_streamed :
    ∃ s, machine.run (start ⟨1920, 1080, 60⟩ 0 ⟨0, Nat.zero_le _⟩) streamedThenLost = some s ∧
      s.shared.phase = .negotiating ∧ s.starts = [millis 5250, millis 5750] ∧
      (∀ deadline, s.reconnectDeadline = some deadline →
        ∃ opened, windowOpened s.losses = some opened ∧ deadline = opened + usbReconnectWindow ∧
          Spaced usbReconnectInitialDelay (opened :: s.starts) ∧ (∀ start ∈ s.starts, start < deadline) ∧
          s.starts.length < 240) ∧
      s.reconnectAttempt.toNat ≤ 33 ∧ s.Shown := by
  have hends : ∃ s, machine.run (start ⟨1920, 1080, 60⟩ 0 ⟨0, Nat.zero_le _⟩) streamedThenLost = some s ∧
      s.shared.phase = .negotiating ∧ s.starts = [millis 5250, millis 5750] := ⟨_, rfl, rfl, rfl⟩
  obtain ⟨s, hrun, hphase, hstarts⟩ := hends
  exact ⟨s, hrun, hphase, hstarts, usb_recovery_within_window hrun⟩

end Runs

end UsbRecovery

end LadoFlow.Host
