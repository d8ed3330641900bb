import LadoFlow.Framework.Doubling
import Mathlib.Algebra.Group.Int.Defs
import Mathlib.Tactic.Common

/-!
# Delays before a reconnection

The delay doubles with every attempt and stops at a maximum. The doubling is 64-bit arithmetic that
wraps, and it comes before the comparison with the maximum.
-/

namespace LadoFlow.Android

open Framework

/-- `coerceAtMost` -/
def coerceAtMost {α : Type} [LT α] [DecidableLT α] (value maximum : α) : α :=
  if maximum < value then maximum else value

/-- The policy that passes the checks of its constructor. -/
structure UsbReconnectPolicy where
  initialDelayMillis : Int64
  maximumDelayMillis : Int64
  maximumAttempts : Int32
  initialDelayMillis_pos : 0 < initialDelayMillis
  initialDelayMillis_le : initialDelayMillis ≤ maximumDelayMillis
  maximumAttempts_pos : 0 < maximumAttempts

namespace UsbReconnectPolicy

def default : UsbReconnectPolicy :=
  ⟨250, 5000, 6, by decide, by decide, by decide⟩

variable (policy : UsbReconnectPolicy)

def shouldRetry (attempt : Int32) : Bool := 1 ≤ attempt ∧ attempt ≤ policy.maximumAttempts

/-- One round of the loop: the product may wrap before it is cut to the maximum. -/
def nextDelay (delay : Int64) : Int64 :=
  coerceAtMost (delay * 2) policy.maximumDelayMillis

/-- The delay after the rounds of the loop. -/
def delayAfter (rounds : Nat) : Int64 := policy.nextDelay^[rounds] policy.initialDelayMillis

/-- `repeat((attempt - 1).coerceAtMost(62))` -/
def rounds (attempt : Int32) : Nat := (coerceAtMost (attempt - 1) 62).toInt.toNat

/-- The delay before an attempt; the first attempt is 1. -/
def delayMillis (attempt : Int32) : Option Int64 :=
  if 1 ≤ attempt then some (policy.delayAfter (rounds attempt)) else none

end UsbReconnectPolicy

/-- What the transport shows when a connection is lost. -/
inductive ReconnectState where
  | stopped
  | waitingForAccessory
  | recovering (attempt : Int32) (delayMillis : Int64) (reason : String)
  | error (reason : String) (retryable : Bool)
  deriving DecidableEq

/-- The fields of the transport that a lost connection looks at. -/
structure ReconnectContext where
  foreground : Bool
  userPaused : Bool
  attached : Bool
  reconnectAttempt : Int32

/-- The state that is shown and the number of attempts since the last connection. -/
def scheduleReconnect (policy : UsbReconnectPolicy) (context : ReconnectContext) (reason : String) :
    Option ReconnectState × Int32 :=
  if !context.foreground || context.userPaused || !context.attached then
    (some (if context.foreground && !context.userPaused then .waitingForAccessory else .stopped),
      context.reconnectAttempt)
  else
    let attempt := context.reconnectAttempt + 1
    if !policy.shouldRetry attempt then (some (.error reason true), attempt)
    else ((policy.delayMillis attempt).map fun delay => .recovering attempt delay reason, attempt)

namespace UsbReconnectPolicy

section Rounds

variable {policy : UsbReconnectPolicy} {delay : Int64}

theorem initial_toInt_pos : 0 < policy.initialDelayMillis.toInt := by
  have hpos := Int64.lt_iff_toInt_lt.mp policy.initialDelayMillis_pos
  rwa [Int64.toInt_zero] at hpos

theorem initial_toInt_le : policy.initialDelayMillis.toInt ≤ policy.maximumDelayMillis.toInt :=
  Int64.le_iff_toInt_le.mp policy.initialDelayMillis_le

theorem nextDelay_toInt :
    (policy.nextDelay delay).toInt = min (delay * 2).toInt policy.maximumDelayMillis.toInt := by
  rw [nextDelay, coerceAtMost]
  split
  · rename_i hcut
    have hlt := Int64.lt_iff_toInt_lt.mp hcut
    omega
  · rename_i hkept
    have hle := Int64.le_iff_toInt_le.mp (Int64.not_lt.mp hkept)
    omega

theorem double_toInt : (delay * 2).toInt = (delay.toInt * 2).bmod (2 ^ 64) := by
  have htwo : (2 : Int64).toInt = 2 := by decide
  rw [Int64.toInt_mul, htwo]

/-- Below half of the range a round is exact. -/
theorem nextDelay_exact (hpos : 0 ≤ delay.toInt) (hsmall : delay.toInt < 2 ^ 62) :
    (policy.nextDelay delay).toInt = min (delay.toInt * 2) policy.maximumDelayMillis.toInt := by
  rw [nextDelay_toInt, double_toInt, Int.bmod_eq_of_le (by omega) (by omega)]

/-- From half of the range on the product wraps to a negative one, which the maximum lets pass. -/
theorem nextDelay_wraps (hlarge : 2 ^ 62 ≤ delay.toInt) : (policy.nextDelay delay).toInt < 0 := by
  have hlt := delay.toInt_lt
  have hwrap : (delay.toInt * 2).bmod (2 ^ 64) = delay.toInt * 2 - 2 ^ 64 := by
    rw [Int.bmod_def]
    omega
  rw [nextDelay_toInt, double_toInt, hwrap]
  omega

/-- The delay of the closed form. -/
def idealDelay (policy : UsbReconnectPolicy) (rounds : Nat) : Nat :=
  doubledUpTo policy.maximumDelayMillis.toInt.toNat policy.initialDelayMillis.toInt.toNat rounds

theorem idealDelay_succ (rounds : Nat) :
    policy.idealDelay (rounds + 1) =
      min (policy.idealDelay rounds * 2) policy.maximumDelayMillis.toInt.toNat :=
  doubledUpTo_succ _ _ _

theorem delayAfter_succ (rounds : Nat) :
    policy.delayAfter (rounds + 1) = policy.nextDelay (policy.delayAfter rounds) :=
  Function.iterate_succ_apply' _ _ _

/-- Until the delay has passed half of the range it is that of the closed form. -/
theorem delayAfter_toInt {rounds : Nat} (h : ∀ i < rounds, policy.idealDelay i < 2 ^ 62) :
    (policy.delayAfter rounds).toInt = policy.idealDelay rounds := by
  have hpos := policy.initial_toInt_pos
  have hle := policy.initial_toInt_le
  induction rounds with
  | zero =>
    have hstart := @doubledUpTo_zero policy.maximumDelayMillis.toInt.toNat
      policy.initialDelayMillis.toInt.toNat (by omega)
    rw [idealDelay, hstart]
    show policy.initialDelayMillis.toInt = _
    omega
  | succ rounds ih =>
    have hprevious := ih fun i hi => h i (Nat.lt_succ_of_lt hi)
    have hsmall := h rounds (Nat.lt_succ_self rounds)
    rw [delayAfter_succ, nextDelay_exact (by omega) (by omega), hprevious, idealDelay_succ]
    omega

end Rounds

section Policy

variable (policy : UsbReconnectPolicy)

theorem rounds_toNat {attempt : Int32} (h : 1 ≤ attempt) :
    rounds attempt = min (attempt.toInt.toNat - 1) 62 := by
  have hone : (1 : Int32).toInt = 1 := by decide
  have hlast : (62 : Int32).toInt = 62 := by decide
  have hpos := Int32.le_iff_toInt_le.mp h
  have hlt := attempt.toInt_lt
  have hprevious : (attempt - 1).toInt = attempt.toInt - 1 := by
    rw [Int32.toInt_sub, hone, Int.bmod_eq_of_le (by omega) (by omega)]
  rw [rounds, coerceAtMost]
  split
  · rename_i hcut
    have hlong := Int32.lt_iff_toInt_lt.mp hcut
    rw [hlast]
    omega
  · rename_i hkept
    have hshort := Int32.le_iff_toInt_le.mp (Int32.not_lt.mp hkept)
    rw [hprevious]
    omega

/-- Every delay is within the policy, and later attempts wait no less. -/
structure DelaysWithin (policy : UsbReconnectPolicy) : Prop where
  bounded : ∀ attempt, 1 ≤ attempt → ∃ delay, policy.delayMillis attempt = some delay ∧
    policy.initialDelayMillis ≤ delay ∧ delay ≤ policy.maximumDelayMillis
  monotone : ∀ earlier later delay delay', earlier ≤ later →
    policy.delayMillis earlier = some delay → policy.delayMillis later = some delay' → delay ≤ delay'

theorem delayMillis_eq {attempt : Int32} (h : 1 ≤ attempt) :
    policy.delayMillis attempt = some (policy.delayAfter (min (attempt.toInt.toNat - 1) 62)) := by
  rw [delayMillis, if_pos h, rounds_toNat h]

theorem le_of_delayMillis {attempt : Int32} {delay : Int64}
    (h : policy.delayMillis attempt = some delay) : 1 ≤ attempt := by
  rw [delayMillis] at h
  split at h
  · assumption
  · cases h

/-- No round passes half of the range when the maximum is below it, or from the delay one. -/
theorem idealDelay_lt (h : policy.maximumDelayMillis.toInt < 2 ^ 62 ∨ policy.initialDelayMillis = 1)
    {i : Nat} (hi : i < 62) : policy.idealDelay i < 2 ^ 62 := by
  rcases h with hmaximum | hone
  · have hle := doubledUpTo_le policy.maximumDelayMillis.toInt.toNat
      policy.initialDelayMillis.toInt.toNat i
    rw [idealDelay]
    omega
  · have hstart : policy.initialDelayMillis.toInt.toNat = 1 := by
      rw [hone]
      rfl
    rw [idealDelay, hstart]
    exact doubledUpTo_one_lt hi

/-- Otherwise the attempt after the first passing is given a negative delay. -/
theorem exists_negative_delay (hmaximum : 2 ^ 62 ≤ policy.maximumDelayMillis.toInt)
    (hinitial : policy.initialDelayMillis ≠ 1) :
    ∃ attempt delay, 1 ≤ attempt ∧ policy.delayMillis attempt = some delay ∧ delay.toInt < 0 := by
  have hpos := policy.initial_toInt_pos
  have hone : (1 : Int64).toInt = 1 := by decide
  have htwo : policy.initialDelayMillis.toInt ≠ 1 := by
    intro heq
    exact hinitial (Int64.toInt_inj.mp (heq.trans hone.symm))
  obtain ⟨first, hfirst, hpassed, hbefore⟩ :=
    @exists_first_passing policy.maximumDelayMillis.toInt.toNat
      policy.initialDelayMillis.toInt.toNat 62 (by omega) (by omega) (by decide)
  have hexact := @delayAfter_toInt policy first hbefore
  have hlarge : 2 ^ 62 ≤ (policy.delayAfter first).toInt := by
    rw [hexact, idealDelay]
    omega
  have hattempt : (Int32.ofNat (first + 2)).toInt = first + 2 := by
    rw [Int32.toInt_ofNat_of_lt (by omega)]
    rfl
  have hle : 1 ≤ Int32.ofNat (first + 2) := by
    have hone : (1 : Int32).toInt = 1 := by decide
    rw [Int32.le_iff_toInt_le, hattempt, hone]
    omega
  have hrounds : min ((Int32.ofNat (first + 2)).toInt.toNat - 1) 62 = first + 1 := by
    rw [hattempt]
    omega
  refine ⟨Int32.ofNat (first + 2), _, hle, policy.delayMillis_eq hle, ?_⟩
  rw [hrounds, delayAfter_succ]
  exact nextDelay_wraps hlarge

theorem delaysWithin_of
    (h : policy.maximumDelayMillis.toInt < 2 ^ 62 ∨ policy.initialDelayMillis = 1) :
    policy.DelaysWithin := by
  have hpos := policy.initial_toInt_pos
  have hle := policy.initial_toInt_le
  have hexact : ∀ attempt : Int32,
      (policy.delayAfter (min (attempt.toInt.toNat - 1) 62)).toInt =
        policy.idealDelay (min (attempt.toInt.toNat - 1) 62) := by
    intro attempt
    apply delayAfter_toInt
    intro i hi
    exact policy.idealDelay_lt h (by omega)
  constructor
  · intro attempt hattempt
    refine ⟨_, policy.delayMillis_eq hattempt, ?_, ?_⟩
    · have hlow := @le_doubledUpTo policy.maximumDelayMillis.toInt.toNat
        policy.initialDelayMillis.toInt.toNat (by omega) (min (attempt.toInt.toNat - 1) 62)
      rw [Int64.le_iff_toInt_le, hexact, idealDelay]
      omega
    · have hhigh := doubledUpTo_le policy.maximumDelayMillis.toInt.toNat
        policy.initialDelayMillis.toInt.toNat (min (attempt.toInt.toNat - 1) 62)
      rw [Int64.le_iff_toInt_le, hexact, idealDelay]
      omega
  · intro earlier later delay delay' hearlier hdelay hdelay'
    rw [policy.delayMillis_eq (policy.le_of_delayMillis hdelay)] at hdelay
    rw [policy.delayMillis_eq (policy.le_of_delayMillis hdelay')] at hdelay'
    cases hdelay
    cases hdelay'
    have horder := Int32.le_iff_toInt_le.mp hearlier
    rw [Int64.le_iff_toInt_le, hexact, hexact]
    exact Int.ofNat_le.mpr (doubledUpTo_mono (by omega))

theorem default_delaysWithin : default.DelaysWithin := default.delaysWithin_of (.inl (by decide))

/-- The delays are within the policy just when the maximum is below half of the range, or the delay
starts from one. -/
theorem delaysWithin_iff :
    policy.DelaysWithin ↔
      policy.maximumDelayMillis.toInt < 2 ^ 62 ∨ policy.initialDelayMillis = 1 := by
  constructor
  · intro h
    by_contra hneither
    rw [not_or, Int.not_lt] at hneither
    obtain ⟨attempt, delay, hattempt, hdelay, hnegative⟩ :=
      policy.exists_negative_delay hneither.1 hneither.2
    obtain ⟨delay', hdelay', hlow, -⟩ := h.bounded attempt hattempt
    cases hdelay.symm.trans hdelay'
    have hlow := Int64.le_iff_toInt_le.mp hlow
    have hpos := policy.initial_toInt_pos
    omega
  · exact policy.delaysWithin_of

/-- The default first delay and no maximum but the greatest `Long`. -/
def uncapped : UsbReconnectPolicy :=
  ⟨250, 9223372036854775807, 64, by decide, by decide, by decide⟩

/-- Before attempt 57 the product wraps. -/
theorem delays_not_within : ¬uncapped.DelaysWithin := by
  intro h
  obtain ⟨delay, hdelay, hlow, -⟩ := h.bounded 57 (by decide)
  have hnegative : uncapped.delayMillis 57 = some (-432345564227567616) := by decide +kernel
  cases hdelay.symm.trans hnegative
  revert hlow
  decide

end Policy

/-- A lost connection leads to an attempt within the policy, or to a state without one. -/
theorem scheduleReconnect_within {policy : UsbReconnectPolicy} (h : policy.DelaysWithin)
    (context : ReconnectContext) (reason : String) :
    ∃ state, (scheduleReconnect policy context reason).1 = some state ∧
      ∀ attempt delay shown, state = .recovering attempt delay shown →
        attempt ≤ policy.maximumAttempts ∧ policy.initialDelayMillis ≤ delay ∧
          delay ≤ policy.maximumDelayMillis := by
  rw [scheduleReconnect]
  split
  · refine ⟨_, rfl, ?_⟩
    intro attempt delay shown hstate
    split at hstate <;> cases hstate
  · by_cases hretry : policy.shouldRetry (context.reconnectAttempt + 1) = true
    · obtain ⟨hfirst, hlast⟩ := of_decide_eq_true hretry
      obtain ⟨delay, hdelay, hbounds⟩ := h.bounded _ hfirst
      simp only [hretry, Bool.not_true, Bool.false_eq_true, if_false, hdelay, Option.map_some]
      refine ⟨_, rfl, ?_⟩
      intro attempt delay' shown hstate
      cases hstate
      exact ⟨hlast, hbounds⟩
    · simp only [Bool.not_eq_true] at hretry
      simp only [hretry, Bool.not_false, if_true]
      refine ⟨_, rfl, ?_⟩
      intro attempt delay shown hstate
      cases hstate

end UsbReconnectPolicy

end LadoFlow.Android
