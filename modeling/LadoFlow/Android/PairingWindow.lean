import LadoFlow.Android.TetherPairingServer
import LadoFlow.System.Pairing

/-!
# The pairing window

Every return leaves the token invalid, and no run has more handshakes without success than the
server permits. The deadline is looked at between handshakes and after one that failed, so whether
a host is authenticated in time depends on when the last record of its handshake is written.
-/

namespace LadoFlow.Android.TetherPairingServer

open Framework
open LadoFlow.Transport

/-- `serve` has returned or thrown. -/
def ServePoint.isOver : ServePoint → Bool
  | .returned _ _ => true
  | .threw _ => true
  | _ => false

/-- The handshakes without success that `failedHandshakes` does not count yet. -/
def ServePoint.uncounted : ServePoint → Nat
  | .failed _ => 1
  | _ => 0

/-- What one step can do. -/
inductive Effect (server : TetherPairingServer) (s : Serving) (turn : ServeTurn) (t : Serving) :
    Prop
  | advance (hbefore : s.point.isOver = false) (hafter : t.point.isOver = false)
    (huncounted : t.point.uncounted = s.point.uncounted)
    (hfailed : t.failedHandshakes = s.failedHandshakes) (hsame : t.unsuccessful = s.unsuccessful)
  | fail (hbefore : s.point.isOver = false) (hcounted : s.point.uncounted = 0)
    (hafter : t.point.isOver = false) (huncounted : t.point.uncounted = 1)
    (hfailed : t.failedHandshakes = s.failedHandshakes)
    (hmore : t.unsuccessful = s.unsuccessful + 1)
  | settle (hbefore : s.point.isOver = false) (huncounted : s.point.uncounted = 1)
    (hafter : t.point.isOver = false) (hcounted : t.point.uncounted = 0)
    (hfailed : t.failedHandshakes = s.failedHandshakes + 1)
    (hpermitted : t.failedHandshakes < server.maximumFailedHandshakes)
    (hsame : t.unsuccessful = s.unsuccessful)
  | leave (hbefore : s.point.isOver = false) (hafter : t.point.isOver = true)
    (htoken : t.tokenValid = false) (hsame : t.unsuccessful = s.unsuccessful)
    (hwritten : ∀ endpoint hostAddress time,
      t.point = .returned (.authenticated endpoint hostAddress) time →
        (∃ record, s.point = .writing record none) ∧ turn.action = .written ∧ time = turn.now)
  | close (hpoint : t.point = s.point) (htoken : t.tokenValid = true → s.tokenValid = true)
    (hfailed : t.failedHandshakes = s.failedHandshakes) (hsame : t.unsuccessful = s.unsuccessful)

section Effects

variable {hmacSha256 : TetherPairingToken → Bytes → PairingTag} {server : TetherPairingServer}
  {startedAt : Int64} {s t u : Serving} {turn : ServeTurn}

private theorem leave_effect {point : ServePoint} (hbefore : s.point.isOver = false)
    (hsame : u.unsuccessful = s.unsuccessful) (hafter : point.isOver = true)
    (hwritten : ∀ endpoint hostAddress time,
      point = .returned (.authenticated endpoint hostAddress) time →
        (∃ record, s.point = .writing record none) ∧ turn.action = .written ∧ time = turn.now) :
    Effect server s turn (u.leave point) := by
  have hleft : (u.leave point).unsuccessful = s.unsuccessful := hsame
  exact .leave hbefore hafter rfl hleft hwritten

private theorem fail_effect {message : Option String} (hbefore : s.point.isOver = false)
    (hcounted : s.point.uncounted = 0) (hfailed : u.failedHandshakes = s.failedHandshakes)
    (hsame : u.unsuccessful = s.unsuccessful) :
    Effect server s turn (u.fail message) := by
  have hkept : (u.fail message).failedHandshakes = s.failedHandshakes := hfailed
  apply Effect.fail hbefore hcounted rfl rfl hkept
  rw [Serving.fail, hsame]

theorem poll_effect {now : Int64}
    (h : { s with clock := now }.poll server startedAt = some t) : Effect server s turn t := by
  simp only [Serving.poll] at h
  split at h
  · rename_i hpoint
    have hbefore : s.point.isOver = false := by rw [hpoint]; rfl
    split at h
    · cases h
      exact leave_effect hbefore rfl rfl (by simp)
    · split at h
      · cases h
        exact leave_effect hbefore rfl rfl (by simp)
      · cases h
        exact .advance hbefore rfl (by rw [hpoint]; rfl) rfl rfl
  · cases h

theorem arm_effect {now : Int64} (h : { s with clock := now }.arm = some t) :
    Effect server s turn t := by
  simp only [Serving.arm] at h
  split at h
  · rename_i remaining hpoint
    have hbefore : s.point.isOver = false := by rw [hpoint]; rfl
    split at h
    · cases h
      exact leave_effect hbefore rfl rfl (by simp)
    · cases h
      exact .advance hbefore rfl (by rw [hpoint]; rfl) rfl rfl
  · cases h

theorem accepted_effect {now before began : Int64} {hostAddress : Option String}
    (h : { s with clock := now }.accepted before began hostAddress = some t) :
    Effect server s turn t := by
  simp only [Serving.accepted] at h
  split at h
  · rename_i soTimeout hpoint
    split at h
    · cases h
      exact .advance (by rw [hpoint]; rfl) rfl (by rw [hpoint]; rfl) rfl rfl
    · cases h
  · cases h

theorem acceptTimesOut_effect {now before began : Int64}
    (h : { s with clock := now }.acceptTimesOut before began = some t) :
    Effect server s turn t := by
  simp only [Serving.acceptTimesOut] at h
  split at h
  · rename_i soTimeout hpoint
    split at h
    · cases h
      exact .advance (by rw [hpoint]; rfl) rfl (by rw [hpoint]; rfl) rfl rfl
    · cases h
  · cases h

theorem acceptFails_effect {now : Int64} {isSocketException : Bool} {message : Option String}
    (h : { s with clock := now }.acceptFails isSocketException message = some t) :
    Effect server s turn t := by
  simp only [Serving.acceptFails] at h
  split at h
  · rename_i soTimeout hpoint
    have hbefore : s.point.isOver = false := by rw [hpoint]; rfl
    split at h
    · split at h
      · cases h
        exact leave_effect hbefore rfl rfl (by simp)
      · cases h
        exact leave_effect hbefore rfl rfl (by simp)
    · cases h
      exact leave_effect hbefore rfl rfl (by simp)
  · cases h

theorem register_effect {now : Int64} (h : { s with clock := now }.register = some t) :
    Effect server s turn t := by
  simp only [Serving.register] at h
  split at h
  · rename_i hpoint
    cases h
    exact .advance (by rw [hpoint]; rfl) rfl (by rw [hpoint]; rfl) rfl rfl
  · cases h

theorem prepare_effect {now : Int64}
    (h : { s with clock := now }.prepare server startedAt = some t) : Effect server s turn t := by
  simp only [Serving.prepare] at h
  split at h
  · rename_i socket hpoint hsocket
    split at h
    · cases h
      exact .advance (by rw [hpoint]; rfl) rfl (by rw [hpoint]; rfl) rfl rfl
    · cases h
  · cases h

theorem received_effect {now before began : Int64} {chunk : SignedBytes}
    (h : { s with clock := now }.received before began chunk = some t) :
    Effect server s turn t := by
  simp only [Serving.received] at h
  split at h
  · rename_i stage buffer socket hpoint hsocket
    have hbefore : s.point.isOver = false := by rw [hpoint]; rfl
    have hcounted : s.point.uncounted = 0 := by rw [hpoint]; rfl
    split at h
    · split at h
      · cases h
        exact fail_effect hbefore hcounted rfl rfl
      · split at h
        · cases h
          exact .advance hbefore rfl hcounted.symm rfl rfl
        · cases h
          exact .advance hbefore rfl hcounted.symm rfl rfl
    · cases h
  · cases h

theorem ended_effect {now : Int64} (h : { s with clock := now }.ended = some t) :
    Effect server s turn t := by
  simp only [Serving.ended] at h
  split at h
  · rename_i stage buffer hpoint
    cases h
    exact fail_effect (by rw [hpoint]; rfl) (by rw [hpoint]; rfl) rfl rfl
  · cases h

theorem answer_effect {now : Int64} {displayNonceSource : Except String SignedBytes}
    (h : { s with clock := now }.answer hmacSha256 server displayNonceSource = some t) :
    Effect server s turn t := by
  simp only [Serving.answer] at h
  split at h
  · rename_i encoded hpoint
    have hbefore : s.point.isOver = false := by rw [hpoint]; rfl
    have hcounted : s.point.uncounted = 0 := by rw [hpoint]; rfl
    split at h
    · cases h
      exact .advance hbefore rfl hcounted.symm rfl rfl
    · cases h
      exact fail_effect hbefore hcounted rfl rfl
  · rename_i hostNonce displayNonce encoded hpoint
    have hbefore : s.point.isOver = false := by rw [hpoint]; rfl
    have hcounted : s.point.uncounted = 0 := by rw [hpoint]; rfl
    split at h
    · cases h
      exact .advance hbefore rfl hcounted.symm rfl rfl
    · cases h
      exact fail_effect hbefore hcounted rfl rfl
  · cases h

theorem written_effect (haction : turn.action = .written)
    (h : { s with clock := turn.now }.written server = some t) : Effect server s turn t := by
  simp only [Serving.written] at h
  split at h
  · rename_i record next socket hpoint hsocket
    have hbefore : s.point.isOver = false := by rw [hpoint]; rfl
    split at h
    · cases next with
      | some stage =>
        cases h
        exact .advance hbefore rfl (by rw [hpoint]; rfl) rfl rfl
      | none =>
        cases h
        refine leave_effect hbefore rfl rfl ?_
        intro endpoint hostAddress time hreturned
        cases hreturned
        exact ⟨⟨record, hpoint⟩, haction, rfl⟩
    · cases h
  · cases h

theorem fails_effect {now : Int64} {message : Option String}
    (h : { s with clock := now }.fails message = some t) : Effect server s turn t := by
  simp only [Serving.fails] at h
  split at h
  · rename_i hpoint
    cases h
    exact fail_effect (by rw [hpoint]; rfl) (by rw [hpoint]; rfl) rfl rfl
  · rename_i stage buffer hpoint
    cases h
    exact fail_effect (by rw [hpoint]; rfl) (by rw [hpoint]; rfl) rfl rfl
  · rename_i record next hpoint
    cases h
    exact fail_effect (by rw [hpoint]; rfl) (by rw [hpoint]; rfl) rfl rfl
  · cases h

theorem settle_effect {now : Int64}
    (h : { s with clock := now }.settle server startedAt = some t) : Effect server s turn t := by
  simp only [Serving.settle] at h
  split at h
  · rename_i message hpoint
    have hbefore : s.point.isOver = false := by rw [hpoint]; rfl
    split at h
    · cases h
      exact leave_effect hbefore rfl rfl (by simp)
    · split at h
      · cases h
        exact leave_effect hbefore rfl rfl (by simp)
      · rename_i hpermitted
        cases h
        exact .settle hbefore (by rw [hpoint]; rfl) rfl rfl rfl (Int32.not_le.mp hpermitted) rfl
  · cases h

theorem close_effect {now : Int64} : Effect server s turn { s with clock := now }.close := by
  rw [Serving.close]
  split
  · exact .close rfl id rfl rfl
  · exact .close rfl (by simp) rfl rfl

theorem effect_of_step (h : step hmacSha256 server startedAt s turn = some t) :
    Effect server s turn t := by
  rw [step] at h
  split at h
  · cases h
  · cases haction : turn.action with
    | poll =>
      simp only [haction, act] at h
      exact poll_effect h
    | arm =>
      simp only [haction, act] at h
      exact arm_effect h
    | accepted =>
      simp only [haction, act] at h
      exact accepted_effect h
    | acceptTimesOut =>
      simp only [haction, act] at h
      exact acceptTimesOut_effect h
    | acceptFails =>
      simp only [haction, act] at h
      exact acceptFails_effect h
    | register =>
      simp only [haction, act] at h
      exact register_effect h
    | prepare =>
      simp only [haction, act] at h
      exact prepare_effect h
    | received =>
      simp only [haction, act] at h
      exact received_effect h
    | ended =>
      simp only [haction, act] at h
      exact ended_effect h
    | answer =>
      simp only [haction, act] at h
      exact answer_effect h
    | written =>
      simp only [haction, act] at h
      exact written_effect haction h
    | fails =>
      simp only [haction, act] at h
      exact fails_effect h
    | settle =>
      simp only [haction, act] at h
      exact settle_effect h
    | close =>
      rw [haction] at h
      cases h
      exact close_effect

theorem over_of_step (hover : s.point.isOver = true)
    (h : step hmacSha256 server startedAt s turn = some t) : t.point = s.point := by
  cases effect_of_step h with
  | close hpoint => exact hpoint
  | _ => simp_all

end Effects

section Window

variable (server : TetherPairingServer) (startedAt : Int64)

/-- The last record of a handshake that the display accepted is written before the window ends. -/
def Timely (s : Serving) (turn : ServeTurn) : Prop :=
  match s.point, turn.action with
  | .writing _ none, .written => turn.now.toInt < server.windowEnd startedAt
  | _, _ => True

instance (s : Serving) (turn : ServeTurn) : Decidable (server.Timely startedAt s turn) := by
  unfold Timely
  split <;> infer_instance

structure Enforced (s : Serving) : Prop where
  authenticated_before : ∀ endpoint hostAddress time,
    s.point = .returned (.authenticated endpoint hostAddress) time →
      time.toInt < server.windowEnd startedAt
  unsuccessful_le : (s.unsuccessful : Int) ≤ server.maximumFailedHandshakes.toInt
  token_invalid : ∀ result time, s.point = .returned result time → s.tokenValid = false

/-- While `serve` goes on, the handshakes without success are counted but for the last one. -/
structure Counted (s : Serving) : Prop where
  ongoing : s.point.isOver = false →
    (s.unsuccessful : Int) = s.failedHandshakes.toInt + s.point.uncounted ∧
      s.failedHandshakes.toInt < server.maximumFailedHandshakes.toInt
  permitted : (s.unsuccessful : Int) ≤ server.maximumFailedHandshakes.toInt
  invalid : s.point.isOver = true → s.tokenValid = false

/-- A host was authenticated too late. -/
def Late (s : Serving) : Prop :=
  ∃ endpoint hostAddress time, s.point = .returned (.authenticated endpoint hostAddress) time ∧
    server.windowEnd startedAt ≤ time.toInt

/-- Every host that was authenticated was so in time. -/
def InTime (s : Serving) : Prop :=
  ∀ endpoint hostAddress time, s.point = .returned (.authenticated endpoint hostAddress) time →
    time.toInt < server.windowEnd startedAt

variable {server} {startedAt} {hmacSha256 : TetherPairingToken → Bytes → PairingTag}
  {s t : Serving} {turn : ServeTurn}

theorem counted_start : server.Counted (start server startedAt) := by
  have hpositive : (0 : Int) < server.maximumFailedHandshakes.toInt :=
    Int32.lt_iff_toInt_lt.mp server.maximumFailedHandshakes_pos
  constructor
  · intro hongoing
    exact ⟨rfl, hpositive⟩
  · exact hpositive.le
  · intro hover
    cases hover

/-- The counter stays below its limit, so it does not wrap. -/
private theorem toInt_succ {count limit : Int32} (h : count.toInt < limit.toInt) :
    (count + 1).toInt = count.toInt + 1 := by
  have hlimit := limit.toInt_lt
  have hcount := count.le_toInt
  rw [Int32.toInt_add, Int32.toInt_one, Int.bmod_eq_of_le (by omega) (by omega)]

theorem counted_step (h : server.Counted s)
    (hstep : step hmacSha256 server startedAt s turn = some t) : server.Counted t := by
  cases effect_of_step hstep with
  | advance hbefore hafter huncounted hfailed hsame =>
    have hongoing := h.ongoing hbefore
    constructor
    · intro _
      rw [hsame, hfailed, huncounted]
      exact hongoing
    · rw [hsame]
      exact h.permitted
    · simp [hafter]
  | fail hbefore hcounted hafter huncounted hfailed hmore =>
    obtain ⟨hcount, hlt⟩ := h.ongoing hbefore
    rw [hcounted] at hcount
    constructor
    · intro _
      rw [hmore, hfailed, huncounted]
      exact ⟨by omega, hlt⟩
    · omega
    · simp [hafter]
  | settle hbefore huncounted hafter hcounted hfailed hpermitted hsame =>
    obtain ⟨hcount, hlt⟩ := h.ongoing hbefore
    have hsucc := toInt_succ hlt
    rw [huncounted] at hcount
    constructor
    · intro _
      rw [hsame, hcounted, hfailed, hsucc]
      have hpermitted := Int32.lt_iff_toInt_lt.mp hpermitted
      rw [hfailed, hsucc] at hpermitted
      exact ⟨by omega, hpermitted⟩
    · rw [hsame]
      exact h.permitted
    · simp [hafter]
  | leave hbefore hafter htoken hsame hwritten =>
    constructor
    · simp [hafter]
    · rw [hsame]
      exact h.permitted
    · intro _
      exact htoken
  | close hpoint htoken hfailed hsame =>
    constructor
    · rw [hpoint, hsame, hfailed]
      exact h.ongoing
    · rw [hsame]
      exact h.permitted
    · intro hover
      rw [hpoint] at hover
      have hinvalid := h.invalid hover
      by_contra hvalid
      simp_all

theorem inTime_step (h : server.InTime startedAt s) (htimely : server.Timely startedAt s turn)
    (hstep : step hmacSha256 server startedAt s turn = some t) : server.InTime startedAt t := by
  intro endpoint hostAddress time hreturned
  have hover : t.point.isOver = true := by rw [hreturned]; rfl
  cases effect_of_step hstep with
  | leave hbefore hafter htoken hsame hwritten =>
    obtain ⟨⟨record, hwriting⟩, haction, htime⟩ := hwritten _ _ _ hreturned
    rw [Timely, hwriting, haction] at htimely
    rw [htime]
    exact htimely
  | close hpoint => exact h endpoint hostAddress time (hpoint ▸ hreturned)
  | _ => simp_all

theorem late_of_step (huntimely : ¬server.Timely startedAt s turn)
    (hstep : step hmacSha256 server startedAt s turn = some t) : server.Late startedAt t := by
  rw [Timely] at huntimely
  split at huntimely
  · rename_i record hpoint haction
    rw [step] at hstep
    split at hstep
    · cases hstep
    · simp only [act, haction, Serving.written, hpoint] at hstep
      split at hstep
      · rename_i socket hwriting hsocket
        split at hstep
        · cases hwriting
          cases hstep
          exact ⟨_, _, _, rfl, not_lt.mp huntimely⟩
        · cases hstep
      · cases hstep
  · exact absurd trivial huntimely

theorem late_step (h : server.Late startedAt s)
    (hstep : step hmacSha256 server startedAt s turn = some t) : server.Late startedAt t := by
  obtain ⟨endpoint, hostAddress, time, hpoint, hlate⟩ := h
  have hsame := over_of_step (by rw [hpoint]; rfl) hstep
  exact ⟨endpoint, hostAddress, time, hsame.trans hpoint, hlate⟩

theorem counted_run {turns : List ServeTurn}
    (hrun : (machine hmacSha256 server startedAt).run (start server startedAt) turns = some s) :
    server.Counted s := by
  apply (machine hmacSha256 server startedAt).run_invariant server.Counted ?_ counted_start hrun
  intro before turn after hbefore hstep
  exact counted_step hbefore hstep

end Window

section Deadline

variable {server : TetherPairingServer} {startedAt now : Int64}

private theorem toInt_sub_of {a b : Int64} (hlow : -2 ^ 63 ≤ a.toInt - b.toInt)
    (hhigh : a.toInt - b.toInt < 2 ^ 63) : (a - b).toInt = a.toInt - b.toInt := by
  rw [Int64.toInt_sub, Int.bmod_eq_of_le (by omega) (by omega)]

private theorem toInt_add_of {a b : Int64} (hlow : -2 ^ 63 ≤ a.toInt + b.toInt)
    (hhigh : a.toInt + b.toInt < 2 ^ 63) : (a + b).toInt = a.toInt + b.toInt := by
  rw [Int64.toInt_add, Int.bmod_eq_of_le (by omega) (by omega)]

theorem remainingMillis_pos_iff {deadlineNanos : Int64} (hnow : 0 ≤ now.toInt)
    (hdeadline : 0 ≤ deadlineNanos.toInt) (hrange : deadlineNanos.toInt + 1000000 < 2 ^ 63) :
    0 < remainingMillis deadlineNanos now ↔ now.toInt < deadlineNanos.toInt := by
  have hlt := now.toInt_lt
  have hunit : nanosPerMillisecond.toInt = 1000000 := rfl
  have hremaining : (deadlineNanos - now).toInt = deadlineNanos.toInt - now.toInt :=
    toInt_sub_of (by omega) (by omega)
  rw [remainingMillis]
  by_cases hover : deadlineNanos - now ≤ 0
  · rw [if_pos hover]
    rw [Int64.le_iff_toInt_le, hremaining, Int64.toInt_zero] at hover
    exact iff_of_false (by decide) (by omega)
  · rw [if_neg hover]
    rw [Int64.le_iff_toInt_le, hremaining, Int64.toInt_zero] at hover
    have hsum : (deadlineNanos - now + nanosPerMillisecond).toInt =
        deadlineNanos.toInt - now.toInt + 1000000 := by
      rw [toInt_add_of (by omega) (by omega), hremaining, hunit]
    have hround : (deadlineNanos - now + nanosPerMillisecond - 1).toInt =
        deadlineNanos.toInt - now.toInt + 999999 := by
      rw [toInt_sub_of (by rw [hsum, Int64.toInt_one]; omega) (by rw [hsum, Int64.toInt_one]; omega),
        hsum, Int64.toInt_one]
      omega
    have hdiv : ((deadlineNanos - now + nanosPerMillisecond - 1) / nanosPerMillisecond).toInt =
        (deadlineNanos.toInt - now.toInt + 999999) / 1000000 := by
      rw [Int64.toInt_div, hround, hunit, Int.tdiv_eq_ediv_of_nonneg (by omega),
        Int.bmod_eq_of_le (by omega) (by omega)]
    refine iff_of_true ?_ (by omega)
    rw [Int64.lt_iff_toInt_lt, hdiv, Int64.toInt_zero]
    omega

/-- A deadline that does not overflow is the end of the window. -/
theorem deadline_toInt (hstart : 0 ≤ startedAt.toInt)
    (hrange : server.windowEnd startedAt + 1000000 < 2 ^ 63) :
    (server.deadline startedAt).toInt = server.windowEnd startedAt := by
  have hpositive : 0 < server.lifetimeMillis.toInt :=
    Int64.lt_iff_toInt_lt.mp server.lifetimeMillis_pos
  have hlt := startedAt.toInt_lt
  rw [windowEnd] at hrange ⊢
  have hlifetime : server.lifetimeNanos.toInt = server.lifetimeMillis.toInt * 1000000 := by
    rw [lifetimeNanos, Int64.toInt_mul]
    exact Int.bmod_eq_of_le (by change _ ≤ server.lifetimeMillis.toInt * 1000000; omega)
      (by change server.lifetimeMillis.toInt * 1000000 < _; omega)
  have hmaximum : (9223372036854775807 : Int64).toInt = 2 ^ 63 - 1 := rfl
  have hroom : (9223372036854775807 - startedAt).toInt = 2 ^ 63 - 1 - startedAt.toInt := by
    rw [toInt_sub_of (by omega) (by omega), hmaximum]
  have hkept : ¬9223372036854775807 - startedAt < server.lifetimeNanos := by
    rw [Int64.lt_iff_toInt_lt, hroom, hlifetime]
    omega
  rw [deadline, if_neg hkept, toInt_add_of (by omega) (by omega), hlifetime]

/-- The check that follows a handshake without success is the one that a handshake with success
lacks. -/
theorem remainingMillis_deadline_pos_iff (hstart : 0 ≤ startedAt.toInt)
    (hrange : server.windowEnd startedAt + 1000000 < 2 ^ 63) (hnow : startedAt ≤ now) :
    0 < remainingMillis (server.deadline startedAt) now ↔
      now.toInt < server.windowEnd startedAt := by
  have hdeadline := deadline_toInt hstart hrange
  have hnow := Int64.le_iff_toInt_le.mp hnow
  have hpositive : 0 < server.lifetimeMillis.toInt :=
    Int64.lt_iff_toInt_lt.mp server.lifetimeMillis_pos
  have hwindow : 0 ≤ server.windowEnd startedAt := by
    rw [windowEnd]
    omega
  rw [remainingMillis_pos_iff (by omega) (by omega) (by omega), hdeadline]

end Deadline

/-- The listener of the application, with the token of the interoperability vector. -/
def usbTether : TetherPairingServer where
  endpoint := ⟨"192.168.42.129", 49231⟩
  token := System.Pairing.vectorToken
  displayCode := "000G-40R4-0M30-E209"
  lifetimeMillis := 120000
  handshakeTimeoutMillis := 10000
  maximumFailedHandshakes := 3
  lifetimeMillis_pos := by decide
  handshakeTimeoutMillis_pos := by decide
  maximumFailedHandshakes_pos := by decide

/-- The reading of a clock that started at zero. -/
def atMillis (millis : Nat) : Int64 := Int64.ofNat millis * nanosPerMillisecond

/-- A record in seven reads, one every `gap` milliseconds. -/
def dripped (from_ gap : Nat) (record : FixedBytes 56) : List ServeTurn :=
  (List.range 7).map fun index =>
    ⟨atMillis (from_ + gap * (index + 1)),
      .received (atMillis (from_ + gap * index)) (((signed record.val).drop (8 * index)).take 8)⟩

/-- A host that knows the code and sends eight bytes every `gap` milliseconds. -/
def drippingHost (gap : Nat) : List ServeTurn :=
  [⟨atMillis 1, .poll⟩, ⟨atMillis 1, .arm⟩,
    ⟨atMillis 500, .accepted (atMillis 1) (some "192.168.42.1")⟩, ⟨atMillis 500, .register⟩,
    ⟨atMillis 500, .prepare⟩] ++
  dripped 500 gap (encodeRecord (hostHelloRecord System.Pairing.vectorHostNonce)) ++
  [⟨atMillis (500 + gap * 7), .answer (.ok (signed System.Pairing.vectorDisplayNonce.val))⟩,
    ⟨atMillis (500 + gap * 7), .written⟩] ++
  dripped (500 + gap * 7) gap (encodeRecord
    ⟨PairingRecordKind.hostFinished.value, FixedBytes.zero 16,
      System.Pairing.vectorTag .hostFinished⟩) ++
  [⟨atMillis (500 + gap * 14), .answer (.ok [])⟩, ⟨atMillis (500 + gap * 14), .written⟩]

end LadoFlow.Android.TetherPairingServer
