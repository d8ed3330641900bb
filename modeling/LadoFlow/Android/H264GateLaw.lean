import LadoFlow.Android.H264FrameGate
import LadoFlow.Framework.Trace
import Mathlib.Data.List.Induction

/-!
# The output law of the frame gate

Every frame that the gate passes on carries the latest parameter sets of the stream. A frame that
does not restart the decoder continues an unbroken chain: the gate was not closed since the frame
passed before it, the parameter sets are the same, and the timestamp is later.
-/

namespace LadoFlow.Android

open Framework

/-- The inspection of the access unit, when the gate can parse the frame. -/
def LdflFrame.accessUnitInspection (frame : LdflFrame) : Option H264AnnexBInspection :=
  if frame.messageType = .videoFrame then frame.inspection.map (·.2) else none

inductive GateEvent where
  | offered (frame : LdflFrame) (decision : H264GateDecision)
  | reset (clearParameterSets : Bool)
  | awaitedKeyframe
  deriving DecidableEq

namespace GateEvent

def isReady : GateEvent → Bool
  | offered _ decision => decision.isReady
  | _ => false

def requiresCodecRestart : GateEvent → Bool
  | offered _ (.ready _ _ restart) => restart
  | _ => false

/-- The gate waits for a keyframe after the event whatever came before. -/
def closes : GateEvent → Bool
  | offered .. => false
  | _ => true

def clears : GateEvent → Bool
  | reset clearParameterSets => clearParameterSets
  | _ => false

def inspection : GateEvent → Option H264AnnexBInspection
  | offered frame _ => frame.accessUnitInspection
  | _ => none

end GateEvent

/-- The most recent of what `select` finds in the parsable access units offered since the last
clearing reset. -/
def latest {β : Type} (select : H264AnnexBInspection → Option β) (events : List GateEvent) :
    Option β :=
  (events.reverse.takeWhile (!·.clears)).findSome? fun event => event.inspection.bind select

def latestParameterSets (events : List GateEvent) :
    Option (NalUnit nalTypeSps) × Option (NalUnit nalTypePps) :=
  (latest (·.sequenceParameterSet) events, latest (·.pictureParameterSet) events)

/-- No frame was passed on since the gate was made or last closed by a call. -/
def ClosedSinceReady (events : List GateEvent) : Prop :=
  ∃ earlier since, events = earlier ++ since ∧ (∀ event ∈ since, event.isReady = false) ∧
    (earlier = [] ∨ ∃ before closing, earlier = before ++ [closing] ∧ closing.closes = true)

/-- A frame that is passed on after the given events. -/
structure ReadyAfter (events : List GateEvent) (frame : LdflFrame) (input : H264DecoderInput)
    (parameterSets : H264ParameterSets) (restart : Bool) : Prop where
  isKeyframe : input.isKeyframe = frame.isKeyframe
  timestamp : ∃ payload inspection, frame.inspection = some (payload, inspection) ∧
    payload.metadata.presentationTimestampMicros.toNat < 2 ^ 63 ∧
    input.presentationTimestampMicros.toInt = payload.metadata.presentationTimestampMicros.toNat
  first : ClosedSinceReady events → frame.isKeyframe = true ∧ restart = true
  carries :
    latestParameterSets (events ++ [.offered frame (.ready input parameterSets restart)]) =
      (some parameterSets.sequenceParameterSet, some parameterSets.pictureParameterSet)
  changed : ∀ earlier previous since, events = earlier ++ previous :: since →
    previous.isReady = true → (∀ event ∈ since, event.isReady = false) →
    (∃ part, part <+: since ++ [.offered frame (.ready input parameterSets restart)] ∧
      latestParameterSets (earlier ++ previous :: part) ≠
        latestParameterSets (earlier ++ [previous])) →
    frame.isKeyframe = true ∧ restart = true
  increases : restart = false → ∀ earlier previous passed sets flag since,
    events = earlier ++ .offered previous (.ready passed sets flag) :: since →
    (∀ event ∈ since, event.requiresCodecRestart = false) →
    passed.presentationTimestampMicros < input.presentationTimestampMicros

def GateLaw (events : List GateEvent) : GateEvent → Prop
  | .offered frame (.ready input parameterSets restart) =>
    ReadyAfter events frame input parameterSets restart
  | _ => True

/-- A gate with everything that happened to it, oldest first. -/
structure GateTrace where
  gate : H264FrameGate
  events : List GateEvent
  deriving DecidableEq

namespace GateTrace

def new : GateTrace := ⟨.new, []⟩

def call (trace : GateTrace) : GateCall → GateTrace
  | .offer frame =>
    { gate := (trace.gate.offer frame).2
      events := trace.events ++ [.offered frame (trace.gate.offer frame).1] }
  | .reset clearParameterSets =>
    { gate := trace.gate.reset clearParameterSets
      events := trace.events ++ [.reset clearParameterSets] }
  | .awaitNextKeyframe =>
    { gate := trace.gate.awaitNextKeyframe
      events := trace.events ++ [.awaitedKeyframe] }

/-- The trace of a new gate after some calls. -/
def ofCalls (calls : List GateCall) : GateTrace := calls.foldl call new

end GateTrace

theorem latest_concat {β : Type} (select : H264AnnexBInspection → Option β)
    (events : List GateEvent) (event : GateEvent) :
    latest select (events ++ [event]) =
      if event.clears then none else (event.inspection.bind select).or (latest select events) := by
  rw [latest, List.reverse_append, List.reverse_singleton, List.singleton_append,
    List.takeWhile_cons]
  cases event.clears with
  | true => rfl
  | false =>
    simp only [Bool.not_false, if_true, List.findSome?_cons, Bool.false_eq_true, if_false]
    cases event.inspection.bind select <;> rfl

theorem closedSinceReady_concat {events : List GateEvent} {event : GateEvent}
    (h : ClosedSinceReady (events ++ [event])) :
    event.closes = true ∨ event.isReady = false ∧ ClosedSinceReady events := by
  obtain ⟨earlier, since, hsplit, hsince, hearlier⟩ := h
  rcases List.eq_nil_or_concat since with hnil | ⟨initial, last, hlast⟩
  · rw [hnil, List.append_nil] at hsplit
    rcases hearlier with hempty | ⟨before, closing, hbefore, hcloses⟩
    · rw [hempty] at hsplit
      simp at hsplit
    · rw [hbefore] at hsplit
      obtain ⟨-, hevent⟩ := List.append_inj' hsplit rfl
      rw [List.singleton_inj.mp hevent]
      exact .inl hcloses
  · rw [hlast, List.concat_eq_append] at hsplit hsince
    rw [← List.append_assoc] at hsplit
    obtain ⟨hevents, hevent⟩ := List.append_inj' hsplit rfl
    rw [List.singleton_inj.mp hevent]
    refine .inr ⟨hsince last (by simp), earlier, initial, hevents, ?_, hearlier⟩
    intro other hother
    exact hsince other (List.mem_append_left _ hother)

namespace H264FrameGate

/-- Everything that one offer can do. -/
inductive Outcome (gate : H264FrameGate) (frame : LdflFrame) :
    H264GateDecision → H264FrameGate → Prop
  | ready (input : H264DecoderInput) (parameterSets : H264ParameterSets) (restart : Bool)
      (next : H264FrameGate) (payload : VideoFramePayload) (inspection : H264AnnexBInspection)
      (hparsed : frame.inspection = some (payload, inspection))
      (hkey : input.isKeyframe = frame.isKeyframe)
      (hrange : payload.metadata.presentationTimestampMicros.toNat < 2 ^ 63)
      (htimestamp : input.presentationTimestampMicros =
        payload.metadata.presentationTimestampMicros.toInt64)
      (hsequence : next.sequenceParameterSet = some parameterSets.sequenceParameterSet)
      (hpicture : next.pictureParameterSet = some parameterSets.pictureParameterSet)
      (hlast : next.lastPresentationTimestampMicros = some input.presentationTimestampMicros)
      (hrestart : restart = true → frame.isKeyframe = true)
      (hcontinues : restart = false → gate.awaitingKeyframe = false ∧
        next.sequenceParameterSet = gate.sequenceParameterSet ∧
        next.pictureParameterSet = gate.pictureParameterSet ∧
        ∀ previous, gate.lastPresentationTimestampMicros = some previous →
          previous < input.presentationTimestampMicros) :
      Outcome gate frame (.ready input parameterSets restart) next
  | dropped (frameId : Option UInt64) (reason : DecoderDropReason) (detail : String)
      (next : H264FrameGate)
      (hopen : next.awaitingKeyframe = false → gate.awaitingKeyframe = false ∧
        next.sequenceParameterSet = gate.sequenceParameterSet ∧
        next.pictureParameterSet = gate.pictureParameterSet ∧
        next.lastPresentationTimestampMicros = gate.lastPresentationTimestampMicros) :
      Outcome gate frame (.dropped frameId reason detail) next

/-- An unchanged parameter set leaves the buffered one in place. -/
theorem buffer_of_unchanged {gate : H264FrameGate} {inspection : H264AnnexBInspection}
    (h : gate.parameterSetsChanged inspection = false) :
    (gate.buffer inspection).sequenceParameterSet = gate.sequenceParameterSet ∧
      (gate.buffer inspection).pictureParameterSet = gate.pictureParameterSet := by
  rw [parameterSetsChanged, Bool.or_eq_false_iff] at h
  constructor
  · cases hunit : inspection.sequenceParameterSet with
    | none => simp [buffer, hunit]
    | some unit =>
      have hsame := h.1
      simp only [hunit, Option.any_some, decide_eq_false_iff_not, not_not] at hsame
      simp [buffer, hunit, hsame]
  · cases hunit : inspection.pictureParameterSet with
    | none => simp [buffer, hunit]
    | some unit =>
      have hsame := h.2
      simp only [hunit, Option.any_some, decide_eq_false_iff_not, not_not] at hsame
      simp [buffer, hunit, hsame]

/-- A buffered gate that is still open has not changed. -/
theorem buffer_open {gate : H264FrameGate} {inspection : H264AnnexBInspection}
    (h : (gate.buffer inspection).awaitingKeyframe = false) :
    gate.awaitingKeyframe = false ∧
      (gate.buffer inspection).sequenceParameterSet = gate.sequenceParameterSet ∧
      (gate.buffer inspection).pictureParameterSet = gate.pictureParameterSet := by
  rw [buffer, Bool.or_eq_false_iff] at h
  have hsame := buffer_of_unchanged h.2
  exact ⟨h.1, hsame.1, hsame.2⟩

theorem currentParameterSets_eq_some {gate : H264FrameGate} {parameterSets : H264ParameterSets}
    (h : gate.currentParameterSets = some parameterSets) :
    gate.sequenceParameterSet = some parameterSets.sequenceParameterSet ∧
      gate.pictureParameterSet = some parameterSets.pictureParameterSet := by
  cases hsps : gate.sequenceParameterSet with
  | none => simp [currentParameterSets, hsps] at h
  | some sps =>
    cases hpps : gate.pictureParameterSet with
    | none => simp [currentParameterSets, hsps, hpps] at h
    | some pps =>
      simp only [currentParameterSets, hsps, hpps, Option.bind_eq_bind, Option.bind_some,
        Option.pure_def, Option.some.injEq] at h
      subst h
      exact ⟨rfl, rfl⟩

theorem fits_of_not_gt {value : UInt64} (h : ¬value > 0x7FFFFFFFFFFFFFFF) :
    value.toNat < 2 ^ 63 := by
  have hle : value.toNat ≤ (0x7FFFFFFFFFFFFFFF : UInt64).toNat :=
    UInt64.le_iff_toNat_le.mp (UInt64.not_lt.mp h)
  have hmax : (0x7FFFFFFFFFFFFFFF : UInt64).toNat = 2 ^ 63 - 1 := by decide
  omega

theorem offerBuffered_outcome {gate : H264FrameGate} {frame : LdflFrame}
    {payload : VideoFramePayload} {inspection : H264AnnexBInspection}
    (hparsed : frame.inspection = some (payload, inspection)) :
    Outcome gate frame
      ((gate.buffer inspection).offerBuffered frame payload inspection
        (gate.parameterSetsChanged inspection)).1
      ((gate.buffer inspection).offerBuffered frame payload inspection
        (gate.parameterSetsChanged inspection)).2 := by
  have hkeep : (gate.buffer inspection).awaitingKeyframe = false →
      gate.awaitingKeyframe = false ∧
        (gate.buffer inspection).sequenceParameterSet = gate.sequenceParameterSet ∧
        (gate.buffer inspection).pictureParameterSet = gate.pictureParameterSet ∧
        (gate.buffer inspection).lastPresentationTimestampMicros =
          gate.lastPresentationTimestampMicros := by
    intro hopen
    have hbuffer := buffer_open hopen
    exact ⟨hbuffer.1, hbuffer.2.1, hbuffer.2.2, rfl⟩
  simp only [offerBuffered]
  by_cases hvcl : inspection.containsVcl
  · rw [if_neg (not_not.mpr hvcl)]
    by_cases hwait : (gate.buffer inspection).awaitingKeyframe ∧ ¬frame.isKeyframe
    · rw [if_pos hwait]
      exact .dropped _ _ _ _ hkeep
    · rw [if_neg hwait]
      cases hsets : (gate.buffer inspection).currentParameterSets with
      | none =>
        apply Outcome.dropped
        intro hopen
        cases hopen
      | some parameterSets =>
        have hcurrent := currentParameterSets_eq_some hsets
        simp only
        by_cases hlarge : payload.metadata.presentationTimestampMicros > 0x7FFFFFFFFFFFFFFF
        · rw [if_pos hlarge]
          exact .dropped _ _ _ _ hkeep
        · rw [if_neg hlarge]
          by_cases hbreak : ((gate.buffer inspection).lastPresentationTimestampMicros.any
              (payload.metadata.presentationTimestampMicros.toInt64 ≤ ·)) ∧ ¬frame.isKeyframe
          · rw [if_pos hbreak]
            apply Outcome.dropped
            intro hopen
            cases hopen
          · rw [if_neg hbreak]
            have hfits := fits_of_not_gt hlarge
            refine .ready _ _ _ _ payload inspection hparsed rfl hfits rfl ?_ ?_ rfl ?_ ?_
            · exact hcurrent.1
            · exact hcurrent.2
            · intro hrestart
              by_contra hkey
              have hawaiting : (gate.buffer inspection).awaitingKeyframe = false := by
                by_contra hopen
                exact hwait ⟨Bool.not_eq_false _ ▸ hopen, hkey⟩
              have hchanged := (Bool.or_eq_false_iff.mp hawaiting).2
              rw [hawaiting, hchanged] at hrestart
              simp only [Bool.false_or, Bool.or_false] at hrestart
              exact hbreak ⟨hrestart, hkey⟩
            · intro hrestart
              simp only [Bool.or_eq_false_iff] at hrestart
              have hbuffer := hkeep hrestart.1.1
              refine ⟨hbuffer.1, hbuffer.2.1, hbuffer.2.2.1, ?_⟩
              intro previous hprevious
              have hlater := hrestart.1.2
              rw [hbuffer.2.2.2, hprevious, Option.any_some, decide_eq_false_iff_not] at hlater
              exact Int64.not_le.mp hlater
  · rw [if_pos hvcl]
    exact .dropped _ _ _ _ hkeep

theorem offer_outcome (gate : H264FrameGate) (frame : LdflFrame) :
    Outcome gate frame (gate.offer frame).1 (gate.offer frame).2 := by
  have hkeep : gate.awaitingKeyframe = false → gate.awaitingKeyframe = false ∧
      gate.sequenceParameterSet = gate.sequenceParameterSet ∧
      gate.pictureParameterSet = gate.pictureParameterSet ∧
      gate.lastPresentationTimestampMicros = gate.lastPresentationTimestampMicros :=
    fun hopen => ⟨hopen, rfl, rfl, rfl⟩
  rw [offer]
  by_cases hvideo : frame.messageType = .videoFrame
  · rw [if_neg (not_not.mpr hvideo)]
    cases hpayload : VideoFramePayload.decode frame.payload with
    | error exception => exact .dropped _ _ _ _ hkeep
    | ok payload =>
      simp only
      cases hinspect : H264AnnexB.inspect payload.accessUnit with
      | error message => exact .dropped _ _ _ _ hkeep
      | ok inspection =>
        apply offerBuffered_outcome
        simp [LdflFrame.inspection, hpayload, hinspect, Except.toOption]
  · rw [if_pos hvideo]
    exact .dropped _ _ _ _ hkeep

/-- The decision leaves the buffered parameter sets alone. -/
theorem offerBuffered_parameterSets (gate : H264FrameGate) (frame : LdflFrame)
    (payload : VideoFramePayload) (inspection : H264AnnexBInspection) (changed : Bool) :
    (gate.offerBuffered frame payload inspection changed).2.sequenceParameterSet =
        gate.sequenceParameterSet ∧
      (gate.offerBuffered frame payload inspection changed).2.pictureParameterSet =
        gate.pictureParameterSet := by
  simp only [offerBuffered]
  split
  · exact ⟨rfl, rfl⟩
  · split
    · exact ⟨rfl, rfl⟩
    · split
      · exact ⟨rfl, rfl⟩
      · split
        · exact ⟨rfl, rfl⟩
        · split <;> exact ⟨rfl, rfl⟩

/-- An offer buffers the parameter sets of every access unit that can be parsed. -/
theorem offer_parameterSets (gate : H264FrameGate) (frame : LdflFrame) :
    (gate.offer frame).2.sequenceParameterSet =
        (frame.accessUnitInspection.bind (·.sequenceParameterSet)).or gate.sequenceParameterSet ∧
      (gate.offer frame).2.pictureParameterSet =
        (frame.accessUnitInspection.bind (·.pictureParameterSet)).or gate.pictureParameterSet := by
  rw [offer]
  by_cases hvideo : frame.messageType = .videoFrame
  · rw [if_neg (not_not.mpr hvideo), LdflFrame.accessUnitInspection, if_pos hvideo,
      LdflFrame.inspection]
    cases hpayload : VideoFramePayload.decode frame.payload with
    | error exception => exact ⟨rfl, rfl⟩
    | ok payload =>
      cases hinspect : H264AnnexB.inspect payload.accessUnit with
      | error message => simp [Except.toOption, hinspect]
      | ok inspection =>
        simp only [Except.toOption, Option.bind_eq_bind, Option.bind_some, hinspect,
          Option.pure_def, Option.map_some]
        exact offerBuffered_parameterSets _ _ _ _ _
  · rw [if_pos hvideo, LdflFrame.accessUnitInspection, if_neg hvideo]
    exact ⟨rfl, rfl⟩

end H264FrameGate

namespace GateTrace

/-- What holds of the trace while the gate is open. -/
structure Open (trace : GateTrace) : Prop where
  passed : ¬ClosedSinceReady trace.events
  unchanged : ∀ earlier previous since, trace.events = earlier ++ previous :: since →
    previous.isReady = true → (∀ event ∈ since, event.isReady = false) → ∀ part, part <+: since →
    latestParameterSets (earlier ++ previous :: part) = latestParameterSets (earlier ++ [previous])
  latest : ∃ last, trace.gate.lastPresentationTimestampMicros = some last ∧
    ∀ earlier frame passed sets flag since,
      trace.events = earlier ++ .offered frame (.ready passed sets flag) :: since →
      (∀ event ∈ since, event.requiresCodecRestart = false) →
      passed.presentationTimestampMicros ≤ last

structure Inv (trace : GateTrace) : Prop where
  parameterSets : latestParameterSets trace.events =
    (trace.gate.sequenceParameterSet, trace.gate.pictureParameterSet)
  openGate : trace.gate.awaitingKeyframe = false → trace.Open
  lawful : Lawful GateLaw trace.events

theorem inv_new : Inv new where
  parameterSets := rfl
  openGate := by
    intro hopen
    cases hopen
  lawful := lawful_nil

variable {trace : GateTrace}

/-- The buffered parameter sets stay the latest ones. -/
theorem latestParameterSets_call (h : latestParameterSets trace.events =
      (trace.gate.sequenceParameterSet, trace.gate.pictureParameterSet)) (call : GateCall) :
    latestParameterSets (trace.call call).events =
      ((trace.call call).gate.sequenceParameterSet,
        (trace.call call).gate.pictureParameterSet) := by
  have hsps : latest (·.sequenceParameterSet) trace.events = trace.gate.sequenceParameterSet :=
    congrArg Prod.fst h
  have hpps : latest (·.pictureParameterSet) trace.events = trace.gate.pictureParameterSet :=
    congrArg Prod.snd h
  cases call with
  | offer frame =>
    have hoffer := trace.gate.offer_parameterSets frame
    simp only [GateTrace.call, latestParameterSets, latest_concat, hsps, hpps, hoffer.1, hoffer.2]
    rfl
  | reset clearParameterSets =>
    simp only [GateTrace.call, latestParameterSets, latest_concat, hsps, hpps]
    cases clearParameterSets <;> rfl
  | awaitNextKeyframe =>
    simp only [GateTrace.call, latestParameterSets, latest_concat, hsps, hpps]
    rfl

/-- An event that passes no frame on and changes nothing. -/
theorem Open.quiet (h : trace.Open) {gate : H264FrameGate} {event : GateEvent}
    (hready : event.isReady = false) (hcloses : event.closes = false)
    (hsets : latestParameterSets (trace.events ++ [event]) = latestParameterSets trace.events)
    (hlast : gate.lastPresentationTimestampMicros = trace.gate.lastPresentationTimestampMicros) :
    Open ⟨gate, trace.events ++ [event]⟩ where
  passed := by
    intro hclosed
    rcases closedSinceReady_concat hclosed with hcontra | ⟨-, hbefore⟩
    · rw [hcontra] at hcloses
      cases hcloses
    · exact h.passed hbefore
  unchanged := by
    intro earlier previous since hsplit hprevious hsince part hpart
    rcases snoc_split hsplit with ⟨-, hevent, -⟩ | ⟨initial, hevents, hsince'⟩
    · rw [hevent, hready] at hprevious
      cases hprevious
    · rw [hsince'] at hpart hsince
      have hquiet : ∀ event ∈ initial, event.isReady = false := fun other hother =>
        hsince other (List.mem_append_left _ hother)
      rcases List.prefix_concat_iff.mp hpart with hwhole | hinitial
      · have hsame := h.unchanged earlier previous initial hevents hprevious hquiet initial
          List.prefix_rfl
        rw [hwhole, ← List.cons_append, ← List.append_assoc, ← hevents, hsets, hevents]
        exact hsame
      · exact h.unchanged earlier previous initial hevents hprevious hquiet part hinitial
  latest := by
    obtain ⟨last, hsome, hle⟩ := h.latest
    refine ⟨last, hlast.trans hsome, ?_⟩
    intro earlier frame passed sets flag since hsplit hsince
    rcases snoc_split hsplit with ⟨-, hevent, -⟩ | ⟨initial, hevents, hsince'⟩
    · rw [← hevent] at hready
      cases hready
    · rw [hsince'] at hsince
      exact hle earlier frame passed sets flag initial hevents fun other hother =>
        hsince other (List.mem_append_left _ hother)

/-- A frame is passed on; without a restart it follows the frames since the last restart. -/
theorem Open.ready {gate : H264FrameGate} {frame : LdflFrame} {input : H264DecoderInput}
    {parameterSets : H264ParameterSets} {restart : Bool}
    (hlast : gate.lastPresentationTimestampMicros = some input.presentationTimestampMicros)
    (hcontinues : restart = false → trace.Open ∧
      ∀ previous, trace.gate.lastPresentationTimestampMicros = some previous →
        previous < input.presentationTimestampMicros) :
    Open ⟨gate, trace.events ++ [.offered frame (.ready input parameterSets restart)]⟩ where
  passed := by
    intro hclosed
    rcases closedSinceReady_concat hclosed with hcontra | ⟨hcontra, -⟩
    · cases hcontra
    · cases hcontra
  unchanged := by
    intro earlier previous since hsplit _ hsince part hpart
    rcases snoc_split hsplit with ⟨-, -, hnil⟩ | ⟨initial, -, hsince'⟩
    · rw [hnil] at hpart
      rw [List.prefix_nil.mp hpart]
    · have hcontra := hsince _ (hsince' ▸ List.mem_append_right _ (List.mem_singleton_self _))
      cases hcontra
  latest := by
    refine ⟨input.presentationTimestampMicros, hlast, ?_⟩
    intro earlier other passed sets flag since hsplit hsince
    rcases snoc_split hsplit with ⟨-, hevent, -⟩ | ⟨initial, hevents, hsince'⟩
    · cases hevent
      exact Int64.le_refl _
    · rw [hsince'] at hsince
      have hflag : restart = false := hsince _ (List.mem_append_right _ (List.mem_singleton_self _))
      obtain ⟨hopen, hlater⟩ := hcontinues hflag
      obtain ⟨last, hsome, hle⟩ := hopen.latest
      have hbefore := hle earlier other passed sets flag initial hevents fun event hevent =>
        hsince event (List.mem_append_left _ hevent)
      exact Int64.le_of_lt (Int64.lt_of_le_of_lt hbefore (hlater last hsome))

/-- The frame that an offer passes on meets the law. -/
theorem Inv.readyAfter (h : trace.Inv) {frame : LdflFrame} {input : H264DecoderInput}
    {parameterSets : H264ParameterSets} {restart : Bool} {next : H264FrameGate}
    (houtcome : trace.gate.Outcome frame (.ready input parameterSets restart) next)
    (hsets : latestParameterSets
        (trace.events ++ [.offered frame (.ready input parameterSets restart)]) =
      (next.sequenceParameterSet, next.pictureParameterSet)) :
    ReadyAfter trace.events frame input parameterSets restart := by
  cases houtcome with
  | ready _ _ _ _ payload inspection hparsed hkey hrange htimestamp hsequence hpicture hlast
      hrestart hcontinues =>
    have hforced : (restart = false → False) → frame.isKeyframe = true ∧ restart = true := by
      intro hcontra
      have hflag := (Bool.not_eq_false restart).mp hcontra
      exact ⟨hrestart hflag, hflag⟩
    constructor
    · exact hkey
    · refine ⟨payload, inspection, hparsed, hrange, ?_⟩
      rw [htimestamp, ← Int64.toInt_toBitVec]
      apply BitVec.toInt_eq_toNat_of_lt
      change 2 * payload.metadata.presentationTimestampMicros.toNat < 2 ^ 64
      omega
    · intro hclosed
      apply hforced
      intro hflag
      exact (h.openGate (hcontinues hflag).1).passed hclosed
    · rw [hsets, hsequence, hpicture]
    · intro earlier previous since hevents hprevious hsince hchanged
      obtain ⟨part, hpart, hdiffers⟩ := hchanged
      apply hforced
      intro hflag
      apply hdiffers
      obtain ⟨hopen, hsps, hpps, -⟩ := hcontinues hflag
      have hsame := (h.openGate hopen).unchanged earlier previous since hevents hprevious hsince
      rcases List.prefix_concat_iff.mp hpart with hwhole | hinitial
      · rw [hwhole, ← List.cons_append, ← List.append_assoc, ← hevents, hsets, hsps, hpps,
          ← h.parameterSets, hevents]
        exact hsame since List.prefix_rfl
      · exact hsame part hinitial
    · intro hflag earlier previous passed sets flag since hevents hsince
      obtain ⟨hopen, -, -, hlater⟩ := hcontinues hflag
      obtain ⟨last, hsome, hle⟩ := (h.openGate hopen).latest
      exact Int64.lt_of_le_of_lt (hle earlier previous passed sets flag since hevents hsince)
        (hlater last hsome)

theorem Inv.call (h : trace.Inv) (call : GateCall) : (trace.call call).Inv := by
  have hsets := latestParameterSets_call h.parameterSets call
  cases call with
  | offer frame =>
    have houtcome := trace.gate.offer_outcome frame
    simp only [GateTrace.call] at hsets ⊢
    generalize (trace.gate.offer frame).1 = decision at *
    generalize (trace.gate.offer frame).2 = next at *
    refine ⟨hsets, ?_, ?_⟩
    · intro hopen
      cases houtcome with
      | ready input parameterSets restart _ payload inspection hparsed hkey hrange htimestamp
          hsequence hpicture hlast hrestart hcontinues =>
        apply Open.ready hlast
        intro hflag
        obtain ⟨hbefore, -, -, hlater⟩ := hcontinues hflag
        exact ⟨h.openGate hbefore, hlater⟩
      | dropped frameId reason detail _ hkeep =>
        obtain ⟨hbefore, hsps, hpps, hlast⟩ := hkeep hopen
        apply (h.openGate hbefore).quiet rfl rfl ?_ hlast
        rw [hsets, h.parameterSets, hsps, hpps]
    · apply h.lawful.snoc
      cases decision with
      | ready input parameterSets restart => exact h.readyAfter houtcome hsets
      | dropped frameId reason detail => trivial
  | reset clearParameterSets =>
    refine ⟨hsets, ?_, h.lawful.snoc trivial⟩
    intro hopen
    cases clearParameterSets <;> cases hopen
  | awaitNextKeyframe =>
    refine ⟨hsets, ?_, h.lawful.snoc trivial⟩
    intro hopen
    cases hopen

theorem inv_ofCalls (calls : List GateCall) : (ofCalls calls).Inv := by
  induction calls using List.reverseRecOn with
  | nil => exact inv_new
  | append_singleton calls call ih =>
    rw [ofCalls, List.foldl_append]
    exact ih.call call

/-- In every sequence of calls, each frame that the gate passes on meets the output law. -/
theorem ready_lawful (calls : List GateCall) : Lawful GateLaw (ofCalls calls).events :=
  (inv_ofCalls calls).lawful

end GateTrace

end LadoFlow.Android
