import LadoFlow.Android.InFlightAccounting

/-!
# Gaps left by decoder admission

`submit` rejects frames while the window is full, on the caller thread and ahead of the queued
tasks. A recovery task behind the accepted prefix then closes the frame gate.
-/

namespace LadoFlow.Android

open Framework

namespace HandlerTask

/-- The submission number of a frame task. -/
def submission? : HandlerTask → Option Nat
  | frame submission _ => some submission
  | _ => none

/-- The submission number of a keyframe task. -/
def keyframe? : HandlerTask → Option Nat
  | frame submission unit => if unit.isKeyframe then some submission else none
  | _ => none

theorem submission?_of_keyframe? {task : HandlerTask} {n : Nat} (h : task.keyframe? = some n) :
    task.submission? = some n := by
  cases task with
  | frame submission unit =>
    simp only [keyframe?] at h
    split at h
    · exact h
    · cases h
  | _ => cases h

end HandlerTask

def PipelineEvent.admission? : PipelineEvent → Option (Nat × Bool)
  | enqueued submission isKeyframe => some (submission, isKeyframe)
  | releasedToSurface _ => none

/-- The most recent keyframe of the admissions. -/
def lastKeyframe (admissions : List (Nat × Bool)) : Option Nat :=
  (admissions.filter (·.2)).getLast?.map (·.1)

theorem lastKeyframe_concat (admissions : List (Nat × Bool)) (n : Nat) (isKeyframe : Bool) :
    lastKeyframe (admissions ++ [(n, isKeyframe)]) =
      if isKeyframe then some n else lastKeyframe admissions := by
  cases isKeyframe with
  | true => simp [lastKeyframe]
  | false => simp [lastKeyframe]

theorem lastKeyframe_mem {admissions : List (Nat × Bool)} {n : Nat}
    (h : lastKeyframe admissions = some n) : (n, true) ∈ admissions := by
  rw [lastKeyframe, Option.map_eq_some_iff] at h
  obtain ⟨⟨m, key⟩, hlast, rfl⟩ := h
  have hmem := List.mem_filter.mp (List.mem_of_getLast? hlast)
  simp only at hmem
  rw [← hmem.2]
  exact hmem.1

namespace AndroidMediaCodecVideoDecoder

/-- The access units that entered the pipeline, oldest first. -/
def admissions (d : AndroidMediaCodecVideoDecoder) : List (Nat × Bool) :=
  d.history.filterMap (·.admission?)

/-- Submission numbers of the waiting frame tasks. -/
def queuedFrames (d : AndroidMediaCodecVideoDecoder) : List Nat :=
  d.tasks.filterMap (·.submission?)

/-- What a task does to the gate and to the admissions. -/
inductive ChainEffect (before after : AndroidMediaCodecVideoDecoder) : HandlerTask → Prop
  | unchanged (task : HandlerTask) (hadmissions : after.admissions = before.admissions)
      (hgate : after.gate.awaitingKeyframe = false → before.gate.awaitingKeyframe = false) :
      ChainEffect before after task
  | admitted (submission : Nat) (frame : LdflFrame) (hopen : before.closed = false)
      (hadmissions : after.admissions = before.admissions ++ [(submission, frame.isKeyframe)])
      (hchain : frame.isKeyframe = false → before.gate.awaitingKeyframe = false) :
      ChainEffect before after (.frame submission frame)

section Effects

variable {before after d : AndroidMediaCodecVideoDecoder} {task : HandlerTask}

theorem Drains.awaitingKeyframe {stranded : Nat} (h : Drains stranded before after)
    (hopen : after.gate.awaitingKeyframe = false) : before.gate.awaitingKeyframe = false := by
  rcases h.gate with hgate | hgate
  · rw [← hgate]
    exact hopen
  · rw [hgate] at hopen
    cases hopen

theorem Drains.chainEffect {stranded : Nat} (h : Drains stranded before after) :
    ChainEffect before after task :=
  .unchanged task (by rw [admissions, admissions, h.history]) h.awaitingKeyframe

theorem FrameEffect.chainEffect {stranded submission : Nat} {frame : LdflFrame}
    (h : FrameEffect stranded submission frame before after) (hopen : before.closed = false) :
    ChainEffect before after (.frame submission frame) := by
  rcases h.history with hsame | ⟨hadmitted, hchain⟩
  · exact .unchanged _ (by rw [admissions, admissions, hsame]) (h.gate hsame)
  · exact .admitted submission frame hopen
      (by simp [admissions, hadmitted, List.filterMap_append, PipelineEvent.admission?]) hchain

theorem OutputEffect.chainEffect {stranded : Nat} {info : BufferInfo}
    (h : OutputEffect stranded info before after) : ChainEffect before after task := by
  cases h with
  | drained h => exact h.chainEffect
  | released output pipeline nanos hstranded htake h =>
    refine .unchanged task ?_ h.awaitingKeyframe
    rw [admissions, h.history]
    simp [admissions, releaseOutput, emit, recordOutput, releaseInFlight, updateQueueDepth,
      PipelineEvent.admission?]

/-- A task that ends with a closed gate and admits nothing. -/
theorem ChainEffect.of_awaiting (hhistory : after.history = before.history)
    (hgate : after.gate.awaitingKeyframe = true) : ChainEffect before after task := by
  apply ChainEffect.unchanged
  · rw [admissions, admissions, hhistory]
  · intro hopen
    rw [hgate] at hopen
    cases hopen

theorem execute_chainEffect (platform : CodecPlatform) (d : AndroidMediaCodecVideoDecoder)
    (task : HandlerTask) : ChainEffect d (d.execute platform task) task := by
  cases task with
  | setOutputSurface surface =>
    rw [execute, runSetOutputSurface]
    split
    · exact (Drains.refl d).chainEffect
    · exact .of_awaiting (discardCodecPipeline_drains d _ _).history rfl
  | applyConfiguration configuration =>
    rw [execute, runApplyConfiguration]
    split
    · exact (Drains.refl d).chainEffect
    · simp only
      split
      · exact .of_awaiting (discardCodecPipeline_drains d _ _).history rfl
      · exact .of_awaiting (discardCodecPipeline_drains d _ _).history rfl
  | frame submission frame =>
    rw [execute]
    split
    · exact .unchanged _ rfl id
    · rename_i hopen
      exact (processSubmittedFrame_effect platform d submission frame).chainEffect
        (Bool.eq_false_iff.mpr hopen)
  | reset reason =>
    rw [execute, runReset]
    split
    · exact (Drains.refl d).chainEffect
    · exact .of_awaiting rfl rfl
  | overflowRecovery =>
    rw [execute, runOverflowRecovery]
    simp only
    split
    · exact .unchanged _ rfl id
    · exact .of_awaiting rfl rfl
  | close => exact .unchanged _ rfl id
  | inputBufferAvailable codec index =>
    exact (onInputBufferAvailable_drains platform d codec index).chainEffect
  | outputBufferAvailable codec index info =>
    exact (onOutputBufferAvailable_effect platform d codec index info).chainEffect
  | outputFormatChanged codec width height =>
    rw [execute, onOutputFormatChanged]
    split
    · exact (Drains.refl d).chainEffect
    · exact .unchanged _ rfl id
  | codecError codec diagnosticInfo =>
    rw [execute, onError]
    split
    · exact (Drains.refl d).chainEffect
    · exact (handleCodecFailure_drains d _ _).chainEffect

end Effects

/-- What a call from outside the codec thread does: it posts at most one task. -/
structure Posts (extra : Option HandlerTask) (before after : AndroidMediaCodecVideoDecoder) :
    Prop where
  tasks : after.tasks = before.tasks ++ extra.toList
  gate : after.gate = before.gate
  history : after.history = before.history
  looperQuit : after.looperQuit = before.looperQuit
  submissions : before.submissions ≤ after.submissions
  frame : ∀ task ∈ extra, ∀ n ∈ task.submission?, n = before.submissions ∧ n < after.submissions
  closed : before.closed = true → after.closed = true
  close : .close ∈ extra → after.closed = true
  overflowPending : after.submissionOverflowPending = true →
    before.submissionOverflowPending = true ∨ .overflowRecovery ∈ extra

section Callers

variable (d : AndroidMediaCodecVideoDecoder)

theorem Posts.refl : Posts none d d :=
  ⟨by simp, rfl, rfl, rfl, Nat.le_refl _, by simp, id, by simp, .inl⟩

theorem post_posts {task : HandlerTask} (hframe : task.submission? = none)
    (hclose : task ≠ .close) : ∃ extra, Posts extra d (d.post task).2 := by
  rw [post]
  split
  · exact ⟨none, Posts.refl d⟩
  · refine ⟨some task, rfl, rfl, rfl, rfl, Nat.le_refl _, ?_, id, ?_, .inl⟩
    · intro posted hposted n hn
      cases hposted
      rw [hframe] at hn
      cases hn
    · intro hposted
      cases hposted
      exact absurd rfl hclose

theorem postUnlessClosed_posts {task : HandlerTask} (hframe : task.submission? = none)
    (hclose : task ≠ .close) : ∃ extra, Posts extra d (d.postUnlessClosed task) := by
  rw [postUnlessClosed]
  split
  · exact ⟨none, Posts.refl d⟩
  · exact d.post_posts hframe hclose

theorem close_posts : ∃ extra, Posts extra d d.close := by
  rw [close]
  split
  · exact ⟨none, Posts.refl d⟩
  · rw [post]
    split
    · exact ⟨none, by simp, rfl, rfl, rfl, Nat.le_refl _, by simp, fun _ => rfl, by simp, .inl⟩
    · refine ⟨some .close, rfl, rfl, rfl, rfl, Nat.le_refl _, ?_, fun _ => rfl, fun _ => rfl, .inl⟩
      intro posted hposted n hn
      cases hposted
      cases hn

/-- A rejected frame is followed by a recovery task, the pending one or a new one. -/
theorem scheduleSubmissionOverflowRecovery_posts (hquit : d.looperQuit = false) :
    ∃ extra, Posts extra d d.scheduleSubmissionOverflowRecovery ∧
      extra = if d.submissionOverflowPending then none else some .overflowRecovery := by
  rw [scheduleSubmissionOverflowRecovery]
  cases d.submissionOverflowPending with
  | true => exact ⟨none, Posts.refl d, rfl⟩
  | false =>
    simp only [post, hquit, Bool.false_eq_true, if_false, if_true]
    refine ⟨some .overflowRecovery, ⟨rfl, rfl, rfl, hquit.symm, Nat.le_refl _, ?_, id, ?_, ?_⟩, rfl⟩
    · intro posted hposted n hn
      cases hposted
      cases hn
    · intro hposted
      cases hposted
    · intro _
      exact .inr rfl

end Callers

end AndroidMediaCodecVideoDecoder

/-- A decoder with the submissions it rejected. -/
structure AdmissionHistory where
  decoder : AndroidMediaCodecVideoDecoder
  rejected : List Nat

namespace AdmissionHistory

open AndroidMediaCodecVideoDecoder

def submit (h : AdmissionHistory) (frame : LdflFrame) : AdmissionHistory where
  decoder := (h.decoder.submit frame).2
  rejected :=
    if (h.decoder.submit frame).1 then h.rejected else h.rejected ++ [h.decoder.submissions]

/-- The session submits video frames only. -/
def step (h : AdmissionHistory) : DecoderStep → Option AdmissionHistory
  | .submit frame => if frame.messageType = .videoFrame then some (h.submit frame) else none
  | other => (h.decoder.step other).map fun decoder => { h with decoder }

def machine : Machine AdmissionHistory DecoderStep where
  step := step

def new (maxInFlightAccessUnits : Nat) (h : 0 < maxInFlightAccessUnits) : AdmissionHistory :=
  ⟨.new maxInFlightAccessUnits h, []⟩

/-- No dependent frame in the pipeline has a rejected frame between itself and its keyframe. -/
def GapFree (admissions : List (Nat × Bool)) (rejected : List Nat) : Prop :=
  ∀ earlier n later, admissions = earlier ++ (n, false) :: later →
    ∃ keyframe, lastKeyframe earlier = some keyframe ∧
      ∀ r ∈ rejected, ¬(keyframe < r ∧ r < n)

/-- How a rejected frame stays out of every chain. -/
inductive Safe (r : Nat) (d : AndroidMediaCodecVideoDecoder) : Prop
  | closed (h : d.closed = true)
  | recovering (ahead behind : List HandlerTask)
      (htasks : d.tasks = ahead ++ .overflowRecovery :: behind)
      (hahead : ∀ task ∈ ahead, ∀ n ∈ task.submission?, n < r)
      (hbehind : ∀ task ∈ behind, ∀ n ∈ task.keyframe?, r < n)
  | awaiting (hgate : d.gate.awaitingKeyframe = true)
      (hqueued : ∀ task ∈ d.tasks, ∀ n ∈ task.keyframe?, r < n)
  | passed (keyframe : Nat) (hlast : lastKeyframe d.admissions = some keyframe) (h : r < keyframe)

/-- A keyframe task waits behind the recovery task. -/
def keyframeBehindRecovery (tasks : List HandlerTask) : Bool :=
  (tasks.dropWhile (· ≠ .overflowRecovery)).any (·.keyframe?.isSome)

/-- The step rejects no frame for a full window while a keyframe that was admitted after the
previous overflow still waits behind its recovery task. -/
def KeepsGapsClosed (h : AdmissionHistory) : DecoderStep → Prop
  | .submit _ => h.decoder.closed = true ∨ h.decoder.inFlightWindow.available = true ∨
      keyframeBehindRecovery h.decoder.tasks = false
  | _ => True

instance (h : AdmissionHistory) : (s : DecoderStep) → Decidable (h.KeepsGapsClosed s)
  | .submit _ => inferInstanceAs (Decidable (h.decoder.closed = true ∨
      h.decoder.inFlightWindow.available = true ∨ keyframeBehindRecovery h.decoder.tasks = false))
  | .runTask _ | .setOutputSurface _ | .applyConfiguration _ | .reset _ | .close
  | .codecCallback _ => isTrue trivial

structure Inv (h : AdmissionHistory) : Prop where
  sorted : h.decoder.queuedFrames.Pairwise (· < ·)
  queued_lt : ∀ n ∈ h.decoder.queuedFrames, n < h.decoder.submissions
  admitted_lt : ∀ m ∈ h.decoder.admissions, m.1 < h.decoder.submissions
  admitted_lt_queued : ∀ m ∈ h.decoder.admissions, ∀ n ∈ h.decoder.queuedFrames, m.1 < n
  rejected_lt : ∀ r ∈ h.rejected, r < h.decoder.submissions
  recovery : h.decoder.submissionOverflowPending = true → .overflowRecovery ∈ h.decoder.tasks
  quit : h.decoder.looperQuit = true → h.decoder.closed = true
  closing : .close ∈ h.decoder.tasks → h.decoder.closed = true
  openGate : h.decoder.gate.awaitingKeyframe = false → (lastKeyframe h.decoder.admissions).isSome
  safe : ∀ r ∈ h.rejected, Safe r h.decoder
  gapFree : GapFree h.decoder.admissions h.rejected

section Steps

variable {before after : AndroidMediaCodecVideoDecoder} {rejected : List Nat}
  {extra : Option HandlerTask}

theorem Safe.posts {r : Nat} (h : Safe r before) (hposts : Posts extra before after)
    (hr : r < before.submissions) : Safe r after := by
  have hnew : ∀ task ∈ extra.toList, ∀ n ∈ task.keyframe?, r < n := by
    intro task htask n hn
    have hn := (hposts.frame task (Option.mem_toList.mp htask) n
      (HandlerTask.submission?_of_keyframe? hn)).1
    omega
  cases h with
  | closed h => exact .closed (hposts.closed h)
  | recovering ahead behind htasks hahead hbehind =>
    refine .recovering ahead (behind ++ extra.toList) ?_ hahead ?_
    · rw [hposts.tasks, htasks, List.append_assoc, List.cons_append]
    · intro task htask
      rcases List.mem_append.mp htask with hold | hadded
      · exact hbehind task hold
      · exact hnew task hadded
  | awaiting hgate hqueued =>
    refine .awaiting (hposts.gate ▸ hgate) ?_
    intro task htask
    rw [hposts.tasks] at htask
    rcases List.mem_append.mp htask with hold | hadded
    · exact hqueued task hold
    · exact hnew task hadded
  | passed keyframe hlast h =>
    refine .passed keyframe ?_ h
    rw [admissions, hposts.history]
    exact hlast

theorem queuedFrames_posts (hposts : Posts extra before after) :
    after.queuedFrames = before.queuedFrames ++ extra.toList.filterMap (·.submission?) := by
  rw [queuedFrames, hposts.tasks, List.filterMap_append]
  rfl

theorem Inv.posts (h : Inv ⟨before, rejected⟩) (hposts : Posts extra before after) :
    Inv ⟨after, rejected⟩ := by
  have hadmissions : after.admissions = before.admissions := by
    rw [admissions, admissions, hposts.history]
  have hsubmissions := hposts.submissions
  have hqueued : ∀ n ∈ after.queuedFrames, n ∈ before.queuedFrames ∨
      n = before.submissions ∧ n < after.submissions := by
    intro n hn
    rw [queuedFrames_posts hposts] at hn
    rcases List.mem_append.mp hn with hold | hadded
    · exact .inl hold
    · obtain ⟨task, htask, hnumber⟩ := List.mem_filterMap.mp hadded
      exact .inr (hposts.frame task (Option.mem_toList.mp htask) n hnumber)
  refine
    { sorted := ?_
      queued_lt := ?_
      admitted_lt := ?_
      admitted_lt_queued := ?_
      rejected_lt := ?_
      recovery := ?_
      quit := fun hquit => hposts.closed (h.quit (hposts.looperQuit ▸ hquit))
      closing := ?_
      openGate := by
        rw [hadmissions, hposts.gate]
        exact h.openGate
      safe := fun r hr => (h.safe r hr).posts hposts (h.rejected_lt r hr)
      gapFree := by
        rw [hadmissions]
        exact h.gapFree }
  · rw [queuedFrames_posts hposts, List.pairwise_append]
    refine ⟨h.sorted, ?_, ?_⟩
    · cases extra with
      | none => exact .nil
      | some task => cases task <;> simp [HandlerTask.submission?]
    · intro m hm n hn
      obtain ⟨task, htask, hnumber⟩ := List.mem_filterMap.mp hn
      have hn := (hposts.frame task (Option.mem_toList.mp htask) n hnumber).1
      have hm := h.queued_lt m hm
      change m < before.submissions at hm
      omega
  · intro n hn
    rcases hqueued n hn with hold | hadded
    · exact Nat.lt_of_lt_of_le (h.queued_lt n hold) hsubmissions
    · exact hadded.2
  · intro m hm
    rw [hadmissions] at hm
    exact Nat.lt_of_lt_of_le (h.admitted_lt m hm) hsubmissions
  · intro m hm n hn
    rw [hadmissions] at hm
    rcases hqueued n hn with hold | hadded
    · exact h.admitted_lt_queued m hm n hold
    · rw [hadded.1]
      exact h.admitted_lt m hm
  · intro r hr
    exact Nat.lt_of_lt_of_le (h.rejected_lt r hr) hsubmissions
  · intro hpending
    change .overflowRecovery ∈ after.tasks
    rw [hposts.tasks]
    rcases hposts.overflowPending hpending with hold | hadded
    · exact List.mem_append_left _ (h.recovery hold)
    · exact List.mem_append_right _ (Option.mem_toList.mpr hadded)
  · intro hclose
    change .close ∈ after.tasks at hclose
    rw [hposts.tasks] at hclose
    rcases List.mem_append.mp hclose with hold | hadded
    · exact hposts.closed (h.closing hold)
    · exact hposts.close (Option.mem_toList.mp hadded)

/-- A rejection does not touch the frames admitted before it. -/
theorem Inv.reject (h : Inv ⟨after, rejected⟩) {r : Nat} (hsafe : Safe r after)
    (hlt : r < after.submissions) (hadmitted : ∀ m ∈ after.admissions, m.1 < r) :
    Inv ⟨after, rejected ++ [r]⟩ :=
  { h with
    rejected_lt := by
      intro other hother
      rcases List.mem_append.mp hother with hold | hnew
      · exact h.rejected_lt other hold
      · rw [List.mem_singleton.mp hnew]
        exact hlt
    safe := by
      intro other hother
      rcases List.mem_append.mp hother with hold | hnew
      · exact h.safe other hold
      · rw [List.mem_singleton.mp hnew]
        exact hsafe
    gapFree := by
      intro earlier n later hsplit
      obtain ⟨keyframe, hlast, hgap⟩ := h.gapFree earlier n later hsplit
      refine ⟨keyframe, hlast, ?_⟩
      intro other hother
      rcases List.mem_append.mp hother with hold | hnew
      · exact hgap other hold
      · rw [List.mem_singleton.mp hnew]
        have hn := hadmitted (n, false) (hsplit ▸ List.mem_append_right _ List.mem_cons_self)
        omega }

theorem GapFree.concat {admitted : List (Nat × Bool)} {n : Nat} {isKeyframe : Bool}
    (h : GapFree admitted rejected)
    (hdelta : isKeyframe = false → ∃ keyframe, lastKeyframe admitted = some keyframe ∧
      ∀ r ∈ rejected, ¬(keyframe < r ∧ r < n)) :
    GapFree (admitted ++ [(n, isKeyframe)]) rejected := by
  intro earlier m later hsplit
  rcases List.eq_nil_or_concat later with rfl | ⟨later, last, rfl⟩
  · obtain ⟨rfl, hlast⟩ := List.append_inj' hsplit rfl
    cases hlast
    exact hdelta rfl
  · rw [List.concat_eq_append, ← List.cons_append, ← List.append_assoc] at hsplit
    exact h earlier m later (List.append_inj' hsplit rfl).1

section RunTask

variable {task : HandlerTask} {rest : List HandlerTask}

theorem queued_of_frame (htasks : before.tasks = task :: rest) {n : Nat}
    (hn : task.submission? = some n) : n ∈ before.queuedFrames := by
  rw [queuedFrames, htasks, List.filterMap_cons_some hn]
  exact List.mem_cons_self

theorem queued_of_rest (htasks : before.tasks = task :: rest) (hafter : after.tasks = rest)
    {n : Nat} (hn : n ∈ after.queuedFrames) : n ∈ before.queuedFrames := by
  rw [queuedFrames, hafter] at hn
  rw [queuedFrames, htasks]
  exact List.Sublist.subset ((List.sublist_cons_self task rest).filterMap _) hn

theorem lt_of_rest (htasks : before.tasks = task :: rest) (hafter : after.tasks = rest)
    (h : Inv ⟨before, rejected⟩) {m n : Nat} (hm : task.submission? = some m)
    (hn : n ∈ after.queuedFrames) : m < n := by
  have hsorted := h.sorted
  change before.queuedFrames.Pairwise _ at hsorted
  rw [queuedFrames, htasks, List.filterMap_cons_some hm] at hsorted
  rw [queuedFrames, hafter] at hn
  exact List.rel_of_pairwise_cons hsorted hn

theorem Safe.runTask (htasks : before.tasks = task :: rest)
    (hkeeps : Keeps task { before with tasks := rest } after)
    (hchain : ChainEffect { before with tasks := rest } after task) {r : Nat} (h : Safe r before)
    (hinv : Inv ⟨before, rejected⟩)
    (hrecovery : task = .overflowRecovery → before.closed = false →
      after.gate.awaitingKeyframe = true) : Safe r after := by
  cases h with
  | closed h => exact .closed (hkeeps.closed.trans h)
  | recovering ahead behind hsplit hahead hbehind =>
    cases ahead with
    | nil =>
      have hpair := List.cons.inj (htasks.symm.trans hsplit)
      cases hclosed : before.closed with
      | true => exact .closed (hkeeps.closed.trans hclosed)
      | false =>
        refine .awaiting (hrecovery hpair.1 hclosed) ?_
        rw [hkeeps.tasks]
        exact hpair.2 ▸ hbehind
    | cons head ahead =>
      have hpair := List.cons.inj (htasks.symm.trans hsplit)
      refine .recovering ahead behind (hkeeps.tasks.trans hpair.2) ?_ hbehind
      intro other hother
      exact hahead other (List.mem_cons_of_mem head hother)
  | awaiting hgate hqueued =>
    cases hchain with
    | unchanged _ hadmissions hopen =>
      refine .awaiting ?_ ?_
      · cases hafter : after.gate.awaitingKeyframe with
        | true => rfl
        | false => exact absurd (hopen hafter) (by simp [hgate])
      · intro other hother
        rw [hkeeps.tasks] at hother
        exact hqueued other (htasks ▸ List.mem_cons_of_mem task hother)
    | admitted submission frame hopen hadmissions hdelta =>
      cases hkey : frame.isKeyframe with
      | false => exact absurd (hdelta hkey) (by simp [hgate])
      | true =>
        refine .passed submission ?_ ?_
        · rw [hadmissions, lastKeyframe_concat, hkey, if_pos rfl]
        · apply hqueued (.frame submission frame) (htasks ▸ List.mem_cons_self)
          simp [HandlerTask.keyframe?, hkey]
  | passed keyframe hlast hr =>
    cases hchain with
    | unchanged _ hadmissions hopen => exact .passed keyframe (hadmissions ▸ hlast) hr
    | admitted submission frame hopen hadmissions hdelta =>
      have hlt : keyframe < submission :=
        hinv.admitted_lt_queued (keyframe, true) (lastKeyframe_mem hlast) submission
          (queued_of_frame htasks rfl)
      cases hkey : frame.isKeyframe with
      | false =>
        refine .passed keyframe ?_ hr
        rw [hadmissions, lastKeyframe_concat, hkey]
        exact hlast
      | true =>
        refine .passed submission ?_ (Nat.lt_trans hr hlt)
        rw [hadmissions, lastKeyframe_concat, hkey, if_pos rfl]

/-- The frame at the head of the queue has no gap behind it when the gate lets it through. -/
theorem Inv.gap_closed (h : Inv ⟨before, rejected⟩) {submission : Nat} {frame : LdflFrame}
    (htasks : before.tasks = .frame submission frame :: rest) (hopen : before.closed = false)
    (hgate : before.gate.awaitingKeyframe = false) :
    ∃ keyframe, lastKeyframe before.admissions = some keyframe ∧
      ∀ r ∈ rejected, ¬(keyframe < r ∧ r < submission) := by
  obtain ⟨keyframe, hlast⟩ := Option.isSome_iff_exists.mp (h.openGate hgate)
  refine ⟨keyframe, hlast, ?_⟩
  intro r hr
  cases h.safe r hr with
  | closed hclosed => exact absurd hclosed (by simp [hopen])
  | recovering ahead behind hsplit hahead hbehind =>
    cases ahead with
    | nil => cases htasks.symm.trans hsplit
    | cons head ahead =>
      have hhead := (List.cons.inj (htasks.symm.trans hsplit)).1
      have hlt := hahead head List.mem_cons_self submission (hhead ▸ rfl)
      omega
  | awaiting hawaiting hqueued => exact absurd hawaiting (by simp [hgate])
  | passed other hother hlt =>
    change lastKeyframe before.admissions = some other at hother
    rw [hlast] at hother
    cases hother
    omega

theorem Inv.runTask (htasks : before.tasks = task :: rest)
    (hkeeps : Keeps task { before with tasks := rest } after)
    (hchain : ChainEffect { before with tasks := rest } after task) (h : Inv ⟨before, rejected⟩)
    (hrecovery : task = .overflowRecovery → before.closed = false →
      after.gate.awaitingKeyframe = true) : Inv ⟨after, rejected⟩ := by
  have hafter : after.tasks = rest := hkeeps.tasks
  have hsubmissions : after.submissions = before.submissions := hkeeps.submissions
  have hclosed : after.closed = before.closed := hkeeps.closed
  have hsafe : ∀ r ∈ rejected, Safe r after := fun r hr =>
    (h.safe r hr).runTask htasks hkeeps hchain h hrecovery
  have hsorted : after.queuedFrames.Pairwise (· < ·) := by
    rw [queuedFrames, hafter]
    have hall := h.sorted
    change before.queuedFrames.Pairwise _ at hall
    rw [queuedFrames, htasks] at hall
    exact hall.sublist ((List.sublist_cons_self task rest).filterMap _)
  have hqueued : ∀ n ∈ after.queuedFrames, n ∈ before.queuedFrames := fun n hn =>
    queued_of_rest htasks hafter hn
  have hrecoveryQueued : after.submissionOverflowPending = true →
      .overflowRecovery ∈ after.tasks := by
    intro hpending
    obtain ⟨hbefore, htask⟩ := hkeeps.overflowPending hpending
    have hmem : HandlerTask.overflowRecovery ∈ before.tasks := h.recovery hbefore
    rw [htasks] at hmem
    rw [hafter]
    exact (List.mem_cons.mp hmem).resolve_left fun heq => htask heq.symm
  have hquit : after.looperQuit = true → after.closed = true := by
    intro hquit
    rw [hclosed]
    rcases hkeeps.looperQuit hquit with hbefore | hclose
    · exact h.quit hbefore
    · apply h.closing
      change _ ∈ before.tasks
      rw [htasks, hclose]
      exact List.mem_cons_self
  have hclosing : .close ∈ after.tasks → after.closed = true := by
    intro hclose
    rw [hafter] at hclose
    rw [hclosed]
    apply h.closing
    change _ ∈ before.tasks
    rw [htasks]
    exact List.mem_cons_of_mem task hclose
  have hrejected : ∀ r ∈ rejected, r < after.submissions := by
    rw [hsubmissions]
    exact h.rejected_lt
  have hqueuedLt : ∀ n ∈ after.queuedFrames, n < after.submissions := by
    intro n hn
    rw [hsubmissions]
    exact h.queued_lt n (hqueued n hn)
  cases hchain with
  | unchanged _ hadmissions hgate =>
    change after.admissions = before.admissions at hadmissions
    refine ⟨hsorted, hqueuedLt, ?_, ?_, hrejected, hrecoveryQueued, hquit, hclosing, ?_, hsafe, ?_⟩
    · rw [hadmissions, hsubmissions]
      exact h.admitted_lt
    · intro m hm n hn
      rw [hadmissions] at hm
      exact h.admitted_lt_queued m hm n (hqueued n hn)
    · intro hopen
      rw [hadmissions]
      exact h.openGate (hgate hopen)
    · rw [hadmissions]
      exact h.gapFree
  | admitted submission frame hopen hadmissions hdelta =>
    change after.admissions = before.admissions ++ _ at hadmissions
    have hhead : submission ∈ before.queuedFrames := queued_of_frame htasks rfl
    refine ⟨hsorted, hqueuedLt, ?_, ?_, hrejected, hrecoveryQueued, hquit, hclosing, ?_, hsafe, ?_⟩
    · intro m hm
      rw [hadmissions] at hm
      rw [hsubmissions]
      rcases List.mem_append.mp hm with hold | hnew
      · exact h.admitted_lt m hold
      · rw [List.mem_singleton.mp hnew]
        exact h.queued_lt submission hhead
    · intro m hm n hn
      rw [hadmissions] at hm
      rcases List.mem_append.mp hm with hold | hnew
      · exact h.admitted_lt_queued m hold n (hqueued n hn)
      · rw [List.mem_singleton.mp hnew]
        exact lt_of_rest htasks hafter h rfl hn
    · intro _
      rw [hadmissions, lastKeyframe_concat]
      cases hkey : frame.isKeyframe with
      | true => rfl
      | false => exact h.openGate (hdelta hkey)
    · rw [hadmissions]
      exact GapFree.concat h.gapFree fun hkey => h.gap_closed htasks hopen (hdelta hkey)

end RunTask

section Submit

theorem recovery_split {tasks : List HandlerTask} (h : .overflowRecovery ∈ tasks) :
    ∃ ahead behind, tasks = ahead ++ .overflowRecovery :: behind ∧
      tasks.dropWhile (· ≠ .overflowRecovery) = .overflowRecovery :: behind := by
  induction tasks with
  | nil => cases h
  | cons task tasks ih =>
    by_cases htask : task = .overflowRecovery
    · subst htask
      exact ⟨[], tasks, rfl, by simp⟩
    · obtain ⟨ahead, behind, hsplit, hdrop⟩ := ih ((List.mem_cons.mp h).resolve_left (Ne.symm htask))
      refine ⟨task :: ahead, behind, by rw [hsplit]; rfl, ?_⟩
      rw [List.dropWhile_cons_of_pos (by simpa using htask)]
      exact hdrop

/-- The pending recovery task covers a rejection when no keyframe waits behind it. -/
theorem Safe.of_pending {d : AndroidMediaCodecVideoDecoder} {r : Nat}
    (hrecovery : .overflowRecovery ∈ d.tasks) (hqueued : ∀ n ∈ d.queuedFrames, n < r)
    (hbehind : keyframeBehindRecovery d.tasks = false) : Safe r d := by
  obtain ⟨ahead, behind, hsplit, hdrop⟩ := recovery_split hrecovery
  rw [keyframeBehindRecovery, hdrop] at hbehind
  refine .recovering ahead behind hsplit ?_ ?_
  · intro task htask n hn
    apply hqueued n
    rw [queuedFrames, hsplit]
    exact List.mem_filterMap.mpr ⟨task, List.mem_append_left _ htask, hn⟩
  · intro task htask n hn
    have hnone := List.any_eq_false.mp hbehind task (List.mem_cons_of_mem _ htask)
    rw [Option.mem_def.mp hn] at hnone
    simp at hnone

/-- A recovery task posted now covers a rejection. -/
theorem Safe.of_posted {d : AndroidMediaCodecVideoDecoder} {r : Nat} {tasks : List HandlerTask}
    (htasks : d.tasks = tasks ++ [.overflowRecovery])
    (hqueued : ∀ n ∈ tasks.filterMap (·.submission?), n < r) : Safe r d := by
  refine .recovering tasks [] htasks ?_ (by simp)
  intro task htask n hn
  exact hqueued n (List.mem_filterMap.mpr ⟨task, htask, hn⟩)

theorem submitted_posts (d : AndroidMediaCodecVideoDecoder) : Posts none d d.submitted :=
  ⟨by simp [submitted], rfl, rfl, rfl, Nat.le_succ _, by simp, id, by simp, .inl⟩

theorem accepted_posts (d : AndroidMediaCodecVideoDecoder) (frame : LdflFrame) :
    Posts (some (.frame d.submissions frame)) d (d.accepted frame) := by
  refine ⟨rfl, rfl, rfl, rfl, Nat.le_succ _, ?_, id, ?_, .inl⟩
  · intro task htask n hn
    cases htask
    cases hn
    exact ⟨rfl, Nat.lt_succ_self _⟩
  · intro hclose
    cases hclose

theorem Inv.submit {h : AdmissionHistory} (hinv : Inv h) {frame : LdflFrame}
    (hvideo : frame.messageType = .videoFrame) (hkeeps : h.KeepsGapsClosed (.submit frame)) :
    Inv (h.submit frame) := by
  obtain ⟨d, rejected⟩ := h
  have hsubmitted := hinv.posts (submitted_posts d)
  have hqueued : ∀ n ∈ d.queuedFrames, n < d.submissions := hinv.queued_lt
  have hadmitted : ∀ m ∈ d.admissions, m.1 < d.submissions := hinv.admitted_lt
  cases hclosed : d.closed with
  | true =>
    rw [AdmissionHistory.submit, submit_closed hclosed]
    exact hsubmitted.reject (.closed hclosed) (Nat.lt_succ_self _) hadmitted
  | false =>
    have hquit : d.looperQuit = false := by
      cases hquit : d.looperQuit with
      | false => rfl
      | true => exact absurd (hinv.quit hquit) (by simp [hclosed])
    cases havailable : d.inFlightWindow.available with
    | true =>
      rw [AdmissionHistory.submit, submit_accepted hclosed hvideo havailable hquit]
      exact hinv.posts (accepted_posts d frame)
    | false =>
      rw [AdmissionHistory.submit, submit_full hclosed hvideo havailable]
      obtain ⟨extra, hposts, hextra⟩ :=
        d.submitted.scheduleSubmissionOverflowRecovery_posts hquit
      change extra = if d.submissionOverflowPending then none else some _ at hextra
      have hafter := hsubmitted.posts hposts
      have htasks : d.submitted.scheduleSubmissionOverflowRecovery.tasks =
          d.tasks ++ extra.toList := hposts.tasks
      refine hafter.reject ?_ (Nat.lt_of_lt_of_le (Nat.lt_succ_self _) hposts.submissions) ?_
      · cases hpending : d.submissionOverflowPending with
        | false =>
          rw [hpending] at hextra
          subst hextra
          exact .of_posted htasks hqueued
        | true =>
          have hbehind : keyframeBehindRecovery d.tasks = false := by
            simpa [KeepsGapsClosed, hclosed, havailable] using hkeeps
          rw [hpending] at hextra
          subst hextra
          have hsame := htasks.trans (List.append_nil d.tasks)
          refine .of_pending ?_ ?_ ?_
          · rw [hsame]
            exact hinv.recovery hpending
          · rw [queuedFrames, hsame]
            exact hqueued
          · rw [hsame]
            exact hbehind
      · rw [admissions, hposts.history]
        exact hadmitted

end Submit

end Steps

theorem inv_new (maxInFlightAccessUnits : Nat) (h : 0 < maxInFlightAccessUnits) :
    Inv (new maxInFlightAccessUnits h) where
  sorted := .nil
  queued_lt := by simp [new, AndroidMediaCodecVideoDecoder.new, queuedFrames]
  admitted_lt := by simp [new, AndroidMediaCodecVideoDecoder.new, admissions]
  admitted_lt_queued := by simp [new, AndroidMediaCodecVideoDecoder.new, admissions]
  rejected_lt := by simp [new]
  recovery := Bool.noConfusion
  quit := Bool.noConfusion
  closing := by simp [new, AndroidMediaCodecVideoDecoder.new]
  openGate := Bool.noConfusion
  safe := by simp [new]
  gapFree := by
    intro earlier n later hsplit
    cases earlier <;> cases hsplit

theorem Inv.post {d next : AndroidMediaCodecVideoDecoder} {rejected : List Nat}
    (h : Inv ⟨d, rejected⟩) (hposts : ∃ extra, Posts extra d next) : Inv ⟨next, rejected⟩ := by
  obtain ⟨extra, hposts⟩ := hposts
  exact h.posts hposts

theorem Inv.step {h next : AdmissionHistory} {s : DecoderStep} (hinv : Inv h)
    (hkeeps : h.KeepsGapsClosed s) (hstep : h.step s = some next) : Inv next := by
  obtain ⟨d, rejected⟩ := h
  cases s with
  | submit frame =>
    rw [AdmissionHistory.step] at hstep
    split at hstep
    · rename_i hvideo
      cases hstep
      exact hinv.submit hvideo hkeeps
    · cases hstep
  | setOutputSurface surface =>
    cases hstep
    exact hinv.post (d.postUnlessClosed_posts rfl HandlerTask.noConfusion)
  | applyConfiguration configuration =>
    cases hstep
    exact hinv.post (d.postUnlessClosed_posts rfl HandlerTask.noConfusion)
  | reset reason =>
    cases hstep
    exact hinv.post (d.postUnlessClosed_posts rfl HandlerTask.noConfusion)
  | close =>
    cases hstep
    exact hinv.post d.close_posts
  | codecCallback task =>
    simp only [AdmissionHistory.step, AndroidMediaCodecVideoDecoder.step] at hstep
    split at hstep
    · rename_i hcallback
      cases hstep
      refine hinv.post (d.post_posts ?_ ?_)
      · cases task <;> first | rfl | cases hcallback
      · intro hclose
        rw [hclose] at hcallback
        cases hcallback
    · cases hstep
  | runTask platform =>
    simp only [AdmissionHistory.step, AndroidMediaCodecVideoDecoder.step,
      AndroidMediaCodecVideoDecoder.runTask] at hstep
    split at hstep
    · cases hstep
    · rename_i task rest htasks
      cases hstep
      refine hinv.runTask htasks (execute_keeps platform _ task)
        (execute_chainEffect platform _ task) ?_
      intro htask hopen
      subst htask
      simp [execute, runOverflowRecovery, hopen, emit, H264FrameGate.awaitNextKeyframe]

/-- As long as no frame is rejected while a keyframe waits behind a recovery task, no dependent
frame enters the pipeline across a rejected frame. -/
theorem admitted_delta_gapFree {maxInFlightAccessUnits : Nat} {h : 0 < maxInFlightAccessUnits}
    {steps : List DecoderStep} {history : AdmissionHistory}
    (hkeeps : machine.Admits KeepsGapsClosed (new maxInFlightAccessUnits h) steps)
    (hrun : machine.run (new maxInFlightAccessUnits h) steps = some history) :
    GapFree history.decoder.admissions history.rejected := by
  have hinv : Inv history := machine.run_invariant_of_admits KeepsGapsClosed Inv
    (fun _ _ _ hbefore hguard hstep => hbefore.step hguard hstep) (inv_new _ h) hkeeps hrun
  exact hinv.gapFree

/-- Both parameter sets and an IDR slice. -/
def keyframeBytes : SignedBytes := [0, 0, 1, 0x67, 1, 0, 0, 1, 0x68, 1, 0, 0, 1, 0x65, 1]

/-- A slice that depends on the access unit before it. -/
def deltaBytes : SignedBytes := [0, 0, 1, 0x41, 1]

theorem keyframeBytes_length : keyframeBytes.length ≤ 64 := by decide

theorem deltaBytes_length : deltaBytes.length ≤ 64 := by decide

def keyframeAt (n : UInt64) : LdflFrame :=
  .ofAccessUnit FrameFlags.keyframe n (1000 * (n + 1)) keyframeBytes keyframeBytes_length

def deltaAt (n : UInt64) : LdflFrame :=
  .ofAccessUnit FrameFlags.none n (1000 * (n + 1)) deltaBytes deltaBytes_length

/-- Two access units fill a window of two slots, their outputs wait in the Handler queue, and a
third frame overflows. -/
def overflow : List DecoderStep :=
  [.setOutputSurface (some 0), .applyConfiguration .hd, .runTask .working, .runTask .working,
    .submit (keyframeAt 0), .submit (deltaAt 1), .runTask .working, .runTask .working,
    .codecCallback (.inputBufferAvailable 0 0), .codecCallback (.inputBufferAvailable 0 1),
    .runTask .working, .runTask .working,
    .codecCallback (.outputBufferAvailable 0 0 ⟨0, 1, 1000⟩),
    .codecCallback (.outputBufferAvailable 0 1 ⟨0, 1, 2000⟩), .submit (deltaAt 2)]

theorem admitted_delta_gapFree_overflow :
    ∃ history, machine.run (new 2 (by decide)) (overflow ++
      [.runTask .working, .submit (keyframeAt 3), .runTask .working, .submit (deltaAt 4),
        .runTask .working, .runTask .working, .runTask .working]) = some history ∧
      history.decoder.admissions = [(0, true), (1, false), (3, true), (4, false)] ∧
      history.rejected = [2] ∧ GapFree history.decoder.admissions history.rejected := by
  have hreached : (machine.run (new 2 (by decide)) (overflow ++
      [.runTask .working, .submit (keyframeAt 3), .runTask .working, .submit (deltaAt 4),
        .runTask .working, .runTask .working, .runTask .working])).any (fun history =>
      history.decoder.admissions = [(0, true), (1, false), (3, true), (4, false)] ∧
        history.rejected = [2]) = true := by decide +kernel
  obtain ⟨history, hrun, hlists⟩ := (Option.any_eq_true _ _).mp hreached
  obtain ⟨hadmissions, hrejected⟩ := of_decide_eq_true hlists
  refine ⟨history, hrun, hadmissions, hrejected, ?_⟩
  exact admitted_delta_gapFree (by decide +kernel) hrun

/-- The first output frees a slot for a keyframe behind the recovery task, the next frame is
rejected without a recovery task of its own, and the frame after it enters the pipeline. -/
theorem admitted_delta_across_rejection :
    ∃ history, machine.run (new 2 (by decide)) (overflow ++
      [.runTask .working, .submit (keyframeAt 3), .submit (deltaAt 4), .runTask .working,
        .submit (deltaAt 5), .runTask .working, .runTask .working, .runTask .working]) =
        some history ∧
      history.decoder.admissions = [(0, true), (1, false), (3, true), (5, false)] ∧
      history.rejected = [2, 4] ∧ ¬GapFree history.decoder.admissions history.rejected := by
  have hreached : (machine.run (new 2 (by decide)) (overflow ++
      [.runTask .working, .submit (keyframeAt 3), .submit (deltaAt 4), .runTask .working,
        .submit (deltaAt 5), .runTask .working, .runTask .working, .runTask .working])).any
      (fun history =>
        history.decoder.admissions = [(0, true), (1, false), (3, true), (5, false)] ∧
          history.rejected = [2, 4]) = true := by decide +kernel
  obtain ⟨history, hrun, hlists⟩ := (Option.any_eq_true _ _).mp hreached
  obtain ⟨hadmissions, hrejected⟩ := of_decide_eq_true hlists
  refine ⟨history, hrun, hadmissions, hrejected, ?_⟩
  intro hgap
  obtain ⟨keyframe, hlast, hnone⟩ := hgap [(0, true), (1, false), (3, true)] 5 [] hadmissions
  cases hlast
  exact hnone 4 (by simp [hrejected]) (by decide)

end AdmissionHistory

end LadoFlow.Android
