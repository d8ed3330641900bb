import LadoFlow.Android.SessionEffects

/-!
# Where the video frames of a generation go

A frame that the session takes is submitted to the decoder, counted as dropped or kept until the
Surface is ready. Two paths clear the kept frames without counting them.
-/

namespace LadoFlow.Android

open Framework
open Protocol (MessageType)

namespace AndroidDisplaySession

def longMax : Nat := 2 ^ 63 - 1

/-- The counter of dropped frames has room for that many more. -/
def Room (session : AndroidDisplaySession) (count : Nat) : Prop :=
  count = 0 ∨ session.localDroppedVideoFrames + count ≤ longMax

instance (session : AndroidDisplaySession) (count : Nat) : Decidable (session.Room count) :=
  inferInstanceAs (Decidable (_ ∨ _))

/-- How many frames `handleMediaFrame` reports as dropped. -/
def mediaDiscards (env : SessionEnvironment) (session : AndroidDisplaySession)
    (frame : LdflFrame) : Nat :=
  if session.surfaceReady then if env.submit frame then 0 else 1
  else if frame.flags.contains FrameFlags.keyframe then session.pendingSurfaceFrames.length
  else if session.awaitingSurfaceKeyframe then 1
  else if session.pendingSurfaceFrames.length ≥ 3 then session.pendingSurfaceFrames.length + 1
  else 0

/-- The frames behind the first one that the decoder refuses. -/
def behindRefusal (view : Nat → SessionEnvironment) :
    Nat → List LdflFrame → Option (List LdflFrame)
  | _, [] => none
  | submitted, frame :: frames =>
    if (view submitted).submit frame then behindRefusal view (submitted + 1) frames
    else some frames

/-- The decoder state lets the kept frames go. -/
def drains (session : AndroidDisplaySession) (state : VideoDecoderState) : Bool :=
  session.activeConfiguration.isSome && session.remoteHello.isSome && state.surfaceReady

/-- The frames that the calls submit, in order. -/
def submissions (calls : List CollaboratorCall) : List LdflFrame :=
  calls.filterMap fun
    | .submit frame => some frame
    | _ => none

/-- The submissions of one handler that returned true; the `n`th one sees the `n`th view. -/
def accepted (view : Nat → SessionEnvironment) (calls : List CollaboratorCall) : Nat :=
  (submissions calls).zipIdx.countP fun (frame, index) => (view index).submit frame

/-- The frames that a session has to answer for, kept or counted. -/
def answered (session : AndroidDisplaySession) : Nat :=
  session.localDroppedVideoFrames + session.pendingSurfaceFrames.length

section Handlers

variable {env : SessionEnvironment} {session : AndroidDisplaySession} {count : Nat}

theorem recordDroppedVideo_exact (h : session.Room count) :
    (session.recordDroppedVideo env count).localDroppedVideoFrames =
      session.localDroppedVideoFrames + count := by
  rw [recordDroppedVideo]
  by_cases hzero : count = 0
  · rw [if_pos hzero, hzero, Nat.add_zero]
  · rw [if_neg hzero]
    exact Nat.min_eq_left (h.resolve_left hzero)

theorem recordDroppedVideo_short (h : ¬session.Room count) :
    (session.recordDroppedVideo env count).localDroppedVideoFrames <
      session.localDroppedVideoFrames + count := by
  rw [Room, not_or, not_le] at h
  rw [recordDroppedVideo, if_neg h.1]
  exact (Nat.min_le_right _ _).trans_lt h.2

variable (env session)

theorem recordDroppedVideo_kept (count : Nat) :
    (session.recordDroppedVideo env count).pendingSurfaceFrames = session.pendingSurfaceFrames ∧
      (session.recordDroppedVideo env count).calls = session.calls := by
  rw [recordDroppedVideo]
  split
  · exact ⟨rfl, rfl⟩
  · exact ⟨rfl, rfl⟩

theorem updateQueueDepthMetric_kept :
    (session.updateQueueDepthMetric env).answered = session.answered ∧
      (session.updateQueueDepthMetric env).calls = session.calls := by
  obtain ⟨queueDepth, heq⟩ := updateQueueDepthMetric_eq env session
  rw [heq]
  exact ⟨rfl, rfl⟩

/-- Frames are reported as dropped and the buffer is set. -/
theorem replaceFrames_answered (frames : List LdflFrame) (awaiting : Bool) (count : Nat) :
    let after := { session.recordDroppedVideo env count with
      pendingSurfaceFrames := frames
      awaitingSurfaceKeyframe := awaiting }.updateQueueDepthMetric env
    after.calls = session.calls ∧
      (session.Room count →
        after.answered = session.localDroppedVideoFrames + count + frames.length) ∧
      (¬session.Room count →
        after.answered < session.localDroppedVideoFrames + count + frames.length) := by
  intro after
  have hkept := updateQueueDepthMetric_kept env
    { session.recordDroppedVideo env count with
      pendingSurfaceFrames := frames
      awaitingSurfaceKeyframe := awaiting }
  have hanswered : after.answered =
      (session.recordDroppedVideo env count).localDroppedVideoFrames + frames.length := hkept.1
  have hcalls : after.calls = session.calls :=
    hkept.2.trans (recordDroppedVideo_kept env session count).2
  refine ⟨hcalls, ?_, ?_⟩
  · intro hroom
    rw [hanswered, recordDroppedVideo_exact hroom]
  · intro hfull
    rw [hanswered]
    exact Nat.add_lt_add_right (recordDroppedVideo_short hfull) _

/-- A frame before the Surface is ready is answered for, as far as the counter has room. -/
theorem enqueueUntilSurfaceReady_answered (frame : LdflFrame)
    (hready : session.surfaceReady = false) :
    (session.enqueueUntilSurfaceReady env frame).calls = session.calls ∧
      (session.Room (session.mediaDiscards env frame) →
        (session.enqueueUntilSurfaceReady env frame).answered = session.answered + 1) ∧
      (¬session.Room (session.mediaDiscards env frame) →
        (session.enqueueUntilSurfaceReady env frame).answered < session.answered + 1) := by
  have hbefore : session.answered =
      session.localDroppedVideoFrames + session.pendingSurfaceFrames.length := rfl
  rw [mediaDiscards, hready, if_neg Bool.false_ne_true, enqueueUntilSurfaceReady, hbefore]
  by_cases hkeyframe : frame.flags.contains FrameFlags.keyframe = true
  · rw [if_pos hkeyframe, if_pos hkeyframe]
    exact replaceFrames_answered env session [frame] false session.pendingSurfaceFrames.length
  rw [if_neg hkeyframe, if_neg hkeyframe]
  by_cases hawaiting : session.awaitingSurfaceKeyframe = true
  · rw [if_pos hawaiting, if_pos hawaiting]
    have hkept := recordDroppedVideo_kept env session 1
    have hanswered : (session.recordDroppedVideo env 1).answered =
        (session.recordDroppedVideo env 1).localDroppedVideoFrames +
          session.pendingSurfaceFrames.length := by
      rw [answered, hkept.1]
    rw [hanswered]
    refine ⟨hkept.2, ?_, ?_⟩
    · intro hroom
      rw [recordDroppedVideo_exact hroom]
      omega
    · intro hfull
      have hshort := @recordDroppedVideo_short env session 1 hfull
      omega
  rw [if_neg hawaiting, if_neg hawaiting]
  by_cases hfull : session.pendingSurfaceFrames.length ≥ 3
  · rw [if_pos hfull, if_pos hfull]
    exact replaceFrames_answered env session [] true (session.pendingSurfaceFrames.length + 1)
  · rw [if_neg hfull, if_neg hfull]
    have hkept := updateQueueDepthMetric_kept env
      { session with pendingSurfaceFrames := session.pendingSurfaceFrames ++ [frame] }
    refine ⟨hkept.2, ?_, ?_⟩
    · intro hroom
      rw [hkept.1, answered, List.length_append]
      rfl
    · intro hnone
      exact absurd (.inl rfl) hnone

theorem accepted_record (view : Nat → SessionEnvironment) (frame : LdflFrame) :
    accepted view (session.record (.submit frame)).calls =
      accepted view session.calls +
        if (view (submissions session.calls).length).submit frame then 1 else 0 := by
  have hsubmissions : submissions (session.record (.submit frame)).calls =
      submissions session.calls ++ [frame] := by
    simp [submissions, record]
  rw [accepted, hsubmissions, List.zipIdx_append, List.countP_append, Nat.zero_add]
  simp [accepted, List.countP_cons]

/-- One frame of the media lane is submitted, or the session answers for it. -/
theorem handleMediaFrame_answered (frame : LdflFrame) (hcalls : session.calls = [])
    (hnegotiated : session.negotiated = true) (hactive : session.activeConfiguration ≠ none)
    (hfailed : session.failed = false) :
    let after := session.handleMediaFrame env frame
    (session.Room (session.mediaDiscards env frame) →
      accepted (fun _ => env) after.calls + after.answered = session.answered + 1) ∧
    (¬session.Room (session.mediaDiscards env frame) →
      accepted (fun _ => env) after.calls + after.answered < session.answered + 1) := by
  have hnone : accepted (fun _ => env) session.calls = 0 := by
    rw [hcalls]
    rfl
  have hrejected : ¬(¬session.negotiated = true ∨ session.activeConfiguration = none) := by
    simp [hnegotiated, hactive]
  intro after
  have hafter : after = session.handleMediaFrame env frame := rfl
  rw [handleMediaFrame, if_neg (by simp [hfailed]), if_neg hrejected] at hafter
  by_cases hready : session.surfaceReady = true
  · rw [if_neg (not_not.mpr hready)] at hafter
    have haccepted := accepted_record session (fun _ => env) frame
    rw [hnone, Nat.zero_add] at haccepted
    rw [mediaDiscards, if_pos hready]
    by_cases hsubmit : env.submit frame = true
    · have hkept : after = session.record (.submit frame) := by
        rw [hafter]
        exact if_pos hsubmit
      rw [if_pos hsubmit] at haccepted ⊢
      rw [hkept, haccepted]
      refine ⟨fun _ => Nat.add_comm 1 _, fun hfull => absurd (.inl rfl) hfull⟩
    · have hdropped : after = (session.record (.submit frame)).recordDroppedVideo env 1 := by
        rw [hafter]
        exact if_neg hsubmit
      have hkept := recordDroppedVideo_kept env (session.record (.submit frame)) 1
      have hanswered : after.answered =
          ((session.record (.submit frame)).recordDroppedVideo env 1).localDroppedVideoFrames +
            session.pendingSurfaceFrames.length := by
        rw [hdropped, answered, hkept.1]
        rfl
      have hbefore : session.answered =
          session.localDroppedVideoFrames + session.pendingSurfaceFrames.length := rfl
      rw [if_neg hsubmit] at haccepted ⊢
      rw [hanswered, hdropped, hkept.2, haccepted, hbefore]
      refine ⟨?_, ?_⟩
      · intro hroom
        have hexact := @recordDroppedVideo_exact env (session.record (.submit frame)) 1 hroom
        rw [hexact]
        show 0 + (session.localDroppedVideoFrames + 1 + _) = _
        omega
      · intro hfull
        have hshort := @recordDroppedVideo_short env (session.record (.submit frame)) 1 hfull
        change _ < session.localDroppedVideoFrames + 1 at hshort
        omega
  · have hwaiting : session.surfaceReady = false := by simpa using hready
    rw [if_pos hready] at hafter
    obtain ⟨hsame, hexact, hshort⟩ := enqueueUntilSurfaceReady_answered env session frame hwaiting
    rw [hafter, hsame, hnone, Nat.zero_add]
    exact ⟨hexact, hshort⟩

/-- The kept frames are submitted up to the first refusal, which alone is counted. -/
theorem drainLoop_answered (view : Nat → SessionEnvironment) (frames : List LdflFrame)
    (session : AndroidDisplaySession) (submitted : Nat)
    (hsubmitted : (submissions session.calls).length = submitted) :
    let after := drainLoop view submitted frames session
    let total := accepted view session.calls + session.localDroppedVideoFrames + frames.length
    ((∀ rest ∈ behindRefusal view submitted frames, rest = [] ∧ session.Room 1) →
      accepted view after.calls + after.answered = total) ∧
    (¬(∀ rest ∈ behindRefusal view submitted frames, rest = [] ∧ session.Room 1) →
      accepted view after.calls + after.answered < total) := by
  induction frames generalizing session submitted with
  | nil =>
    have hkept := updateQueueDepthMetric_kept (view submitted)
      { session with pendingSurfaceFrames := [] }
    intro after total
    have hafter : accepted view after.calls + after.answered = total := by
      show accepted view (updateQueueDepthMetric _ _).calls +
        (updateQueueDepthMetric _ _).answered = _
      rw [hkept.1, hkept.2]
      rfl
    exact ⟨fun _ => hafter, fun hrefused => absurd (by simp [behindRefusal]) hrefused⟩
  | cons frame frames ih =>
    have haccepted := accepted_record session view frame
    rw [hsubmitted] at haccepted
    rw [drainLoop, behindRefusal]
    by_cases hsubmit : (view submitted).submit frame = true
    · have hlength : (submissions (session.record (.submit frame)).calls).length =
          submitted + 1 := by
        simp [submissions, record, ← hsubmitted]
      have hrest := ih (session.record (.submit frame)) (submitted + 1) hlength
      rw [if_pos hsubmit] at haccepted ⊢
      simp only [if_pos hsubmit]
      rw [haccepted] at hrest
      have htotal : accepted view session.calls + 1 + session.localDroppedVideoFrames +
          frames.length = accepted view session.calls + session.localDroppedVideoFrames +
            (frame :: frames).length := by
        rw [List.length_cons]
        omega
      rw [← htotal]
      exact hrest
    · rw [if_neg hsubmit] at haccepted ⊢
      simp only [if_neg hsubmit]
      obtain ⟨hcalls, hexact, hshort⟩ := replaceFrames_answered (view (submitted + 1))
        (session.record (.submit frame)) [] true 1
      rw [hcalls, haccepted]
      have hroom : (session.record (.submit frame)).Room 1 ↔ session.Room 1 := Iff.rfl
      have hdropped : (session.record (.submit frame)).localDroppedVideoFrames =
        session.localDroppedVideoFrames := rfl
      rw [hdropped, hroom] at hexact hshort
      simp only [Option.mem_some_iff, forall_eq', List.length_cons, List.length_nil] at hexact hshort ⊢
      refine ⟨?_, ?_⟩
      · rintro ⟨rfl, hone⟩
        have := hexact hone
        simp only [List.length_nil]
        omega
      · intro hrefused
        by_cases hone : session.Room 1
        · have hbehind : 0 < frames.length := by
            apply List.length_pos_iff.mpr
            intro hempty
            exact hrefused ⟨hempty, hone⟩
          have := hexact hone
          omega
        · have := hshort hone
          omega

end Handlers

/-- The same frames are kept and counted, and nothing was called. -/
structure SameFrames (before after : AndroidDisplaySession) : Prop where
  pendingSurfaceFrames : after.pendingSurfaceFrames = before.pendingSurfaceFrames
  localDroppedVideoFrames : after.localDroppedVideoFrames = before.localDroppedVideoFrames
  calls : after.calls = before.calls

/-- The decoder refuses no kept frame but the last one, which is counted. -/
def DrainsWhole (view : Nat → SessionEnvironment) (session : AndroidDisplaySession) : Prop :=
  ∀ rest ∈ behindRefusal view 0 session.pendingSurfaceFrames, rest = [] ∧ session.Room 1

instance (view : Nat → SessionEnvironment) (session : AndroidDisplaySession) :
    Decidable (session.DrainsWhole view) :=
  inferInstanceAs (Decidable (∀ rest ∈ behindRefusal view 0 session.pendingSurfaceFrames, _))

section States

variable (session : AndroidDisplaySession) (view : Nat → SessionEnvironment)
  (state : VideoDecoderState)

theorem handleDecoderState_drains (h : session.drains state = true) : ∃ shown,
    SameFrames session shown ∧ session.handleDecoderState view state =
      drainLoop view 0 session.pendingSurfaceFrames shown := by
  rw [drains, Bool.and_eq_true, Bool.and_eq_true] at h
  obtain ⟨⟨hactive, hremote⟩, hready⟩ := h
  obtain ⟨configuration, hconfiguration⟩ := Option.isSome_iff_exists.mp hactive
  obtain ⟨hello, hhello⟩ := Option.isSome_iff_exists.mp hremote
  cases state with
  | awaitingKeyframe | running | recovering =>
    simp only [handleDecoderState, hconfiguration, hhello, drainPendingSurfaceFrames, if_true]
    refine ⟨_, ?_, rfl⟩
    exact ⟨rfl, rfl, rfl⟩
  | failed | awaitingSurface | closed | awaitingConfiguration | idle => cases hready

theorem handleDecoderState_keeps (h : session.drains state = false) :
    SameFrames session (session.handleDecoderState view state) := by
  have hsame : SameFrames session session := ⟨rfl, rfl, rfl⟩
  cases hconfiguration : session.activeConfiguration with
  | none => simpa [handleDecoderState, hconfiguration] using hsame
  | some configuration =>
  cases hhello : session.remoteHello with
  | none => simpa [handleDecoderState, hconfiguration, hhello] using hsame
  | some hello =>
  have hready : state.surfaceReady = false := by
    simpa [drains, hconfiguration, hhello] using h
  simp only [handleDecoderState, hconfiguration, hhello]
  cases state with
  | awaitingKeyframe | running | recovering => cases hready
  | failed message recoverableOnKeyframe =>
    cases recoverableOnKeyframe with
    | true | false => exact { hsame with }
  | awaitingSurface | closed | awaitingConfiguration | idle => exact { hsame with }

theorem handleDecoderState_answered (hcalls : session.calls = []) :
    let after := session.handleDecoderState view state
    let whole := session.drains state = true → session.DrainsWhole view
    (whole → accepted view after.calls + after.answered = session.answered) ∧
      (¬whole → accepted view after.calls + after.answered < session.answered) := by
  have hnone : accepted view session.calls = 0 := by
    rw [hcalls]
    rfl
  have hbefore : session.answered =
      session.localDroppedVideoFrames + session.pendingSurfaceFrames.length := rfl
  by_cases hdrains : session.drains state = true
  · obtain ⟨shown, hsame, hafter⟩ := handleDecoderState_drains session view state hdrains
    have hsubmitted : (submissions shown.calls).length = 0 := by
      rw [hsame.calls, hcalls]
      rfl
    have hloop := drainLoop_answered view session.pendingSurfaceFrames shown 0 hsubmitted
    have hroom : shown.Room 1 ↔ session.Room 1 := by
      rw [Room, hsame.localDroppedVideoFrames]
      rfl
    simp only [hsame.calls, hnone, hsame.localDroppedVideoFrames, Nat.zero_add, hroom] at hloop
    intro after whole
    have hwhole : whole ↔ session.DrainsWhole view := forall_prop_of_true hdrains
    rw [hwhole, hbefore, show after = _ from hafter]
    exact hloop
  · have hkept := handleDecoderState_keeps session view state (by simpa using hdrains)
    intro after whole
    have hanswered : after.answered = session.answered := by
      rw [answered, hkept.pendingSurfaceFrames, hkept.localDroppedVideoFrames, hbefore]
    rw [hkept.calls, hnone, Nat.zero_add, hanswered]
    exact ⟨fun _ => rfl, fun hnot => absurd (fun h => absurd h hdrains) hnot⟩

/-- A configuration that the session does not reject is active already, or becomes it. -/
theorem handleDisplayConfiguration_accepted (env : SessionEnvironment) (frame : LdflFrame)
    (configuration : DisplayConfigPayload)
    (haccepted : (session.handleDisplayConfiguration env frame configuration).failed = false) :
    session.activeConfiguration = some configuration ∧
        session.handleDisplayConfiguration env frame configuration = session ∨
      session.activeConfiguration ≠ some configuration ∧ ∃ hello,
        session.handleDisplayConfiguration env frame configuration =
          session.applyDisplayConfiguration env hello configuration := by
  have hrejected : ∀ code diagnostic,
      (session.rejectProtocol env code diagnostic).failed ≠ false := by
    intro code diagnostic
    rw [(rejectProtocol_fails env session code diagnostic).failed]
    exact Bool.noConfusion
  simp only [handleDisplayConfiguration, invalidReason_rejection] at haccepted ⊢
  split at haccepted
  · rename_i hello _ _ _
    split at haccepted
    · exact absurd haccepted (hrejected _ _)
    · rename_i hfirst
      rw [if_neg hfirst]
      split at haccepted
      · exact absurd haccepted (hrejected _ _)
      · by_cases hactive : session.activeConfiguration = some configuration
        · exact .inl ⟨hactive, if_pos hactive⟩
        · exact .inr ⟨hactive, hello, if_neg hactive⟩
  · exact absurd haccepted (hrejected _ _)

/-- A new configuration clears the kept frames and counts none of them. -/
theorem handleDisplayConfiguration_answered (env : SessionEnvironment) (frame : LdflFrame)
    (configuration : DisplayConfigPayload)
    (haccepted : (session.handleDisplayConfiguration env frame configuration).failed = false) :
    let after := session.handleDisplayConfiguration env frame configuration
    let kept := session.activeConfiguration = some configuration ∨
      session.pendingSurfaceFrames = []
    (kept → after.answered = session.answered) ∧ (¬kept → after.answered < session.answered) := by
  intro after kept
  rcases handleDisplayConfiguration_accepted session env frame configuration haccepted with
    ⟨hactive, hsame⟩ | ⟨hactive, hello, happlied⟩
  · rw [show after = session from hsame]
    exact ⟨fun _ => rfl, fun hnot => absurd (.inl hactive) hnot⟩
  · have hanswered : after.answered = session.localDroppedVideoFrames := by
      rw [show after = _ from happlied]
      rfl
    have hbefore : session.answered =
        session.localDroppedVideoFrames + session.pendingSurfaceFrames.length := rfl
    rw [hanswered, hbefore]
    refine ⟨?_, ?_⟩
    · intro hkept
      rw [hkept.resolve_left hactive]
      rfl
    · intro hnot
      have hpending := List.length_pos_iff.mpr fun hempty => hnot (.inr hempty)
      omega

end States

end AndroidDisplaySession

/-- A generation of a session, the frames given to its media lane and those the decoder took. -/
structure VideoLedger where
  session : AndroidDisplaySession
  received : Nat
  taken : Nat

/-- A call of the session from the host or the decoder. -/
inductive VideoStep where
  | configuration (env : SessionEnvironment) (frame : LdflFrame)
      (configuration : DisplayConfigPayload)
  | mediaFrame (env : SessionEnvironment) (frame : LdflFrame)
  | decoderState (view : Nat → SessionEnvironment) (state : VideoDecoderState)

namespace VideoLedger

open AndroidDisplaySession

variable {l l' : VideoLedger}

def start (session : AndroidDisplaySession) : VideoLedger := ⟨session, 0, 0⟩

/-- The session as a handler finds it, with the calls of that handler alone. -/
def entered (l : VideoLedger) : AndroidDisplaySession := { l.session with calls := [] }

/-- Configurations are accepted, and frames come after them. -/
def step (l : VideoLedger) : VideoStep → Option VideoLedger
  | .configuration env frame configuration =>
    let session := l.session.handleDisplayConfiguration env frame configuration
    if l.session.failed ∨ session.failed then none else some { l with session }
  | .mediaFrame env frame =>
    if l.session.negotiated ∧ l.session.activeConfiguration ≠ none then
      let session := l.entered.handleMediaFrame env frame
      some ⟨session, l.received + 1, l.taken + accepted (fun _ => env) session.calls⟩
    else none
  | .decoderState view state =>
    let session := l.entered.handleDecoderState view state
    some ⟨session, l.received, l.taken + accepted view session.calls⟩

def machine : Machine VideoLedger VideoStep where
  step := step

/-- A step that neither clears kept frames unseen nor ignores a frame, and whose drops the counter
has room for. -/
def Accounted (l : VideoLedger) : VideoStep → Prop
  | .configuration _ _ configuration =>
    l.session.activeConfiguration = some configuration ∨ l.session.pendingSurfaceFrames = []
  | .mediaFrame env frame =>
    l.session.failed = false ∧ l.session.Room (l.session.mediaDiscards env frame)
  | .decoderState view state => l.session.drains state = true → l.session.DrainsWhole view

instance : DecidableRel Accounted
  | _, .configuration _ _ _ => inferInstanceAs (Decidable (_ ∨ _))
  | _, .mediaFrame _ _ => inferInstanceAs (Decidable (_ ∧ _))
  | _, .decoderState _ _ => inferInstanceAs (Decidable (_ → _))

/-- The frames that nobody answers for. -/
def excess (l : VideoLedger) : Int := l.received - (l.taken + l.session.answered : Nat)

/-- A frame for a failed session is ignored. -/
theorem handleMediaFrame_failed {env : SessionEnvironment} {session : AndroidDisplaySession}
    (frame : LdflFrame) (h : session.failed = true) :
    session.handleMediaFrame env frame = session := by
  rw [handleMediaFrame, if_pos h]

theorem excess_step {step : VideoStep} (hstep : l.step step = some l') :
    (Accounted l step → l'.excess = l.excess) ∧ (¬Accounted l step → l.excess < l'.excess) := by
  rw [excess, excess]
  cases step with
  | configuration env frame configuration =>
    rw [VideoLedger.step] at hstep
    split at hstep
    · cases hstep
    · rename_i haccepted
      simp only [not_or, Bool.not_eq_true] at haccepted
      have hanswered := handleDisplayConfiguration_answered l.session env frame configuration
        haccepted.2
      cases hstep
      refine ⟨?_, ?_⟩
      · intro hkept
        have hsame := hanswered.1 hkept
        simp only
        omega
      · intro hcleared
        have hless := hanswered.2 hcleared
        simp only
        omega
  | mediaFrame env frame =>
    rw [VideoLedger.step] at hstep
    split at hstep
    · rename_i hactive
      cases hstep
      by_cases hfailed : l.session.failed = false
      · have hanswered := handleMediaFrame_answered env l.entered frame rfl hactive.1 hactive.2
          hfailed
        have hbefore : l.entered.answered = l.session.answered := rfl
        rw [hbefore] at hanswered
        refine ⟨?_, ?_⟩
        · intro hroom
          have hsame := hanswered.1 hroom.2
          simp only
          omega
        · intro hfull
          have hless := hanswered.2 fun hroom => hfull ⟨hfailed, hroom⟩
          simp only
          omega
      · have hfails : l.entered.failed = true := eq_true_of_ne_false hfailed
        have hignored := @handleMediaFrame_failed env l.entered frame hfails
        have hnone : accepted (fun _ => env) l.entered.calls = 0 := rfl
        have hsame : l.entered.answered = l.session.answered := rfl
        simp only [hignored, hnone, hsame]
        exact ⟨fun hroom => absurd hroom.1 hfailed, fun _ => by omega⟩
    · cases hstep
  | decoderState view state =>
    have hanswered := handleDecoderState_answered l.entered view state rfl
    have hbefore : l.entered.answered = l.session.answered := rfl
    rw [hbefore] at hanswered
    cases hstep
    refine ⟨?_, ?_⟩
    · intro hwhole
      have hsame := hanswered.1 hwhole
      simp only
      omega
    · intro hlost
      have hless := hanswered.2 hlost
      simp only
      omega

/-- A generation begins with no frame counted or kept. -/
theorem answered_of_restarts {before after : AndroidDisplaySession} (h : Restarts before after) :
    after.answered = 0 := by
  rw [answered, h.localDroppedVideoFrames, h.pendingSurfaceFrames]
  rfl

/-- From the start of a generation every frame is submitted, counted or kept for exactly the runs
whose steps are all accounted for. -/
theorem received_accounted {session : AndroidDisplaySession} (hbegins : session.answered = 0)
    {steps : List VideoStep} (hrun : machine.run (start session) steps = some l) :
    l.received = l.taken + l.session.localDroppedVideoFrames +
        l.session.pendingSurfaceFrames.length ↔
      machine.Admits Accounted (start session) steps := by
  have hexcess := machine.run_eq_iff_admits Accounted excess
    (fun _ _ _ hguard hstep => (excess_step hstep).1 hguard)
    (fun _ _ _ hguard hstep => (excess_step hstep).2 hguard) hrun
  have hstart : (start session).excess = 0 := by
    simp [excess, start, hbegins]
  rw [← hexcess.2, hstart, excess, answered]
  omega

/-- A session that has negotiated and waits for its configuration. -/
def negotiated : AndroidDisplaySession :=
  (hostOpening.take 2).foldl (fun session frame => session.handleInboundFrame .fresh frame)
    ((AndroidDisplaySession.new .fullHd).handleTransportState .fresh .android
      (.connected "LadoFlow Host"))

/-- The first configuration of the host, and frames before the Surface is ready. -/
def keptFrames (frames : List LdflFrame) : List VideoStep :=
  (hostOpening.drop 2).map (.configuration .fresh · .hd) ++ frames.map (.mediaFrame .fresh)

/-- A decoder that refuses every frame. -/
def refusing : SessionEnvironment := { SessionEnvironment.fresh with submit := fun _ => false }

def acquireSurface (env : SessionEnvironment) : VideoStep :=
  .decoderState (fun _ => env) (.awaitingKeyframe .hd)

theorem received_accounted_drained : ∃ l,
    machine.run (start negotiated) (keptFrames [deltaUnit, keyUnit, deltaUnit] ++
      [acquireSurface .fresh, .mediaFrame refusing deltaUnit]) = some l ∧
    l.received = 4 ∧ l.taken = 2 ∧ l.session.localDroppedVideoFrames = 2 ∧
    l.received = l.taken + l.session.localDroppedVideoFrames +
      l.session.pendingSurfaceFrames.length := by
  refine ⟨_, rfl, by decide +kernel, by decide +kernel, by decide +kernel, ?_⟩
  have hbegins : negotiated.answered = 0 := by decide +kernel
  have hrun : machine.run (start negotiated) (keptFrames [deltaUnit, keyUnit, deltaUnit] ++
      [acquireSurface .fresh, .mediaFrame refusing deltaUnit]) = some _ := rfl
  exact (received_accounted hbegins hrun).mpr (by decide +kernel)

/-- The host changes the refresh rate. -/
def hd30 : DisplayConfigPayload :=
  ⟨1280, 720, 30000, 8000, .h264, .h264Main, rfl⟩

/-- A new configuration clears a kept frame, and a refused drain clears the frame behind. -/
theorem received_unaccounted :
    (∃ l, machine.run (start negotiated) (keptFrames [keyUnit] ++
        (hostOpening.drop 2).map (.configuration .fresh · hd30)) = some l ∧
      l.received = 1 ∧ l.taken = 0 ∧ l.session.localDroppedVideoFrames = 0 ∧
      l.session.pendingSurfaceFrames = []) ∧
    ∃ l, machine.run (start negotiated) (keptFrames [keyUnit, deltaUnit] ++
        [acquireSurface refusing]) = some l ∧
      l.received = 2 ∧ l.taken = 0 ∧ l.session.localDroppedVideoFrames = 1 ∧
      l.session.pendingSurfaceFrames = [] := by
  refine ⟨⟨_, rfl, ?_⟩, _, rfl, ?_⟩
  · decide +kernel
  · decide +kernel

end VideoLedger

end LadoFlow.Android
