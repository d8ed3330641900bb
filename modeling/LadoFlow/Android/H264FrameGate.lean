import LadoFlow.Android.H264AnnexB
import LadoFlow.Android.SessionOutboundMux
import LadoFlow.Framework.Machine

/-!
# The frame gate of the decoder

The gate decides for each video frame whether the decoder may see it. It buffers parameter sets,
waits for a keyframe after a reset, and drops frames that would break the inter-frame chain.
-/

namespace LadoFlow.Android

open Framework
open Protocol (MessageType)

inductive DecoderDropReason where
  | unexpectedMessageType
  | invalidAccessUnit
  | awaitingKeyframe
  | missingParameterSets
  | parameterSetsOnly
  | timestampOutOfRange
  | timestampDiscontinuity
  | queueOverflow
  | noConfiguration
  | noSurface
  | surfaceInvalidated
  | configurationChanged
  | keyframeRecovery
  | outputCorrelationLost
  | codecFailure
  deriving DecidableEq, Repr

structure H264DecoderInput where
  frameId : UInt64
  presentationTimestampMicros : Int64
  durationMicros : UInt32
  accessUnit : SignedBytes
  isKeyframe : Bool
  endOfStream : Bool
  containsIdr : Bool
  deriving DecidableEq

inductive H264GateDecision where
  | ready (input : H264DecoderInput) (parameterSets : H264ParameterSets)
      (requiresCodecRestart : Bool)
  | dropped (frameId : Option UInt64) (reason : DecoderDropReason) (detail : String)
  deriving DecidableEq

namespace H264GateDecision

def isReady : H264GateDecision → Bool
  | ready .. => true
  | dropped .. => false

def isReadyKeyframe : H264GateDecision → Bool
  | ready input _ _ => input.isKeyframe
  | dropped .. => false

end H264GateDecision

def FrameFlags.endOfStream : FrameFlags := .of 2 (.refl true)

def LdflFrame.isKeyframe (frame : LdflFrame) : Bool := frame.flags.contains FrameFlags.keyframe

structure H264FrameGate where
  sequenceParameterSet : Option (NalUnit nalTypeSps)
  pictureParameterSet : Option (NalUnit nalTypePps)
  awaitingKeyframe : Bool
  lastPresentationTimestampMicros : Option Int64
  deriving DecidableEq

namespace H264FrameGate

def new : H264FrameGate := ⟨none, none, true, none⟩

def reset (gate : H264FrameGate) (clearParameterSets : Bool) : H264FrameGate :=
  if clearParameterSets then new
  else { gate with awaitingKeyframe := true, lastPresentationTimestampMicros := none }

def awaitNextKeyframe (gate : H264FrameGate) : H264FrameGate :=
  { gate with awaitingKeyframe := true, lastPresentationTimestampMicros := none }

def currentParameterSets (gate : H264FrameGate) : Option H264ParameterSets := do
  let sps ← gate.sequenceParameterSet
  let pps ← gate.pictureParameterSet
  pure ⟨sps, pps⟩

/-- Whether the access unit carries a parameter set other than the buffered one. -/
def parameterSetsChanged (gate : H264FrameGate) (inspection : H264AnnexBInspection) : Bool :=
  inspection.sequenceParameterSet.any (gate.sequenceParameterSet ≠ some ·) ||
    inspection.pictureParameterSet.any (gate.pictureParameterSet ≠ some ·)

/-- Buffer the parameter sets; a changed set breaks the chain. -/
def buffer (gate : H264FrameGate) (inspection : H264AnnexBInspection) : H264FrameGate :=
  { gate with
    sequenceParameterSet := inspection.sequenceParameterSet.or gate.sequenceParameterSet
    pictureParameterSet := inspection.pictureParameterSet.or gate.pictureParameterSet
    awaitingKeyframe := gate.awaitingKeyframe || gate.parameterSetsChanged inspection }

/-- The decision for an access unit whose parameter sets are already buffered. -/
def offerBuffered (gate : H264FrameGate) (frame : LdflFrame) (payload : VideoFramePayload)
    (inspection : H264AnnexBInspection) (parameterSetsChanged : Bool) :
    H264GateDecision × H264FrameGate :=
  let frameId := payload.metadata.frameId
  if ¬inspection.containsVcl then
    (.dropped (some frameId) .parameterSetsOnly
      "Buffered H.264 parameter data; waiting for a VCL keyframe", gate)
  else if gate.awaitingKeyframe ∧ ¬frame.isKeyframe then
    (.dropped (some frameId) .awaitingKeyframe "Decoder is waiting for an LDFL KEYFRAME", gate)
  else
  match gate.currentParameterSets with
  | none =>
    (.dropped (some frameId) .missingParameterSets
      "H.264 decoder needs Annex-B SPS and PPS before its first keyframe",
      { gate with awaitingKeyframe := true })
  | some parameterSets =>
    let presentationTimestamp := payload.metadata.presentationTimestampMicros
    if presentationTimestamp > 0x7FFFFFFFFFFFFFFF then
      (.dropped (some frameId) .timestampOutOfRange
        "Presentation timestamp does not fit Android MediaCodec's signed long", gate)
    else
    let signedPresentationTimestamp := presentationTimestamp.toInt64
    let timestampDiscontinuity :=
      gate.lastPresentationTimestampMicros.any (signedPresentationTimestamp ≤ ·)
    if timestampDiscontinuity ∧ ¬frame.isKeyframe then
      (.dropped (some frameId) .timestampDiscontinuity
        "H.264 presentation timestamp did not increase; waiting for KEYFRAME",
        { gate with awaitingKeyframe := true, lastPresentationTimestampMicros := none })
    else
    let wasAwaitingKeyframe := gate.awaitingKeyframe || timestampDiscontinuity
    (.ready
      { frameId
        presentationTimestampMicros := signedPresentationTimestamp
        durationMicros := payload.metadata.durationMicros
        accessUnit := payload.accessUnit
        isKeyframe := frame.isKeyframe
        endOfStream := frame.flags.contains FrameFlags.endOfStream
        containsIdr := inspection.containsIdr }
      parameterSets (wasAwaitingKeyframe || parameterSetsChanged),
      { gate with
        awaitingKeyframe := false
        lastPresentationTimestampMicros := some signedPresentationTimestamp })

def offer (gate : H264FrameGate) (frame : LdflFrame) : H264GateDecision × H264FrameGate :=
  if frame.messageType ≠ .videoFrame then
    (.dropped none .unexpectedMessageType
      ("Expected VideoFrame, received " ++ MessageType.name frame.messageType), gate)
  else
  match VideoFramePayload.decode frame.payload with
  | .error exception => (.dropped none .invalidAccessUnit exception.message, gate)
  | .ok payload =>
    match H264AnnexB.inspect payload.accessUnit with
    | .error message =>
      (.dropped (some payload.metadata.frameId) .invalidAccessUnit message, gate)
    | .ok inspection =>
      (gate.buffer inspection).offerBuffered frame payload inspection
        (gate.parameterSetsChanged inspection)

end H264FrameGate

/-- The payload and inspection of a video frame that the gate can parse. -/
def LdflFrame.inspection (frame : LdflFrame) :
    Option (VideoFramePayload × H264AnnexBInspection) := do
  let payload ← (VideoFramePayload.decode frame.payload).toOption
  let inspection ← (H264AnnexB.inspect payload.accessUnit).toOption
  pure (payload, inspection)

/-- The frame id of a video frame whose payload is well formed. -/
def LdflFrame.videoFrameId (frame : LdflFrame) : Option UInt64 :=
  (VideoFramePayload.decode frame.payload).toOption.map (·.metadata.frameId)

/-- Video frames with VCL data, and those that cannot be parsed. -/
def LdflFrame.mayContainVcl (frame : LdflFrame) : Bool :=
  frame.messageType = .videoFrame && frame.inspection.all (·.2.containsVcl)

namespace H264FrameGate

/-- The gate would drop the frame out of an open chain and keep the chain open: the frame cannot
be parsed, or its timestamp is out of range. -/
def leavesGap (gate : H264FrameGate) (frame : LdflFrame) : Bool :=
  frame.messageType = .videoFrame && !gate.awaitingKeyframe && frame.inspection.all fun parsed =>
    parsed.2.containsVcl && !gate.parameterSetsChanged parsed.2 &&
      parsed.1.metadata.presentationTimestampMicros > 0x7FFFFFFFFFFFFFFF

/-- What one decision does to the chain. -/
inductive Effect (gate : H264FrameGate) (frame : LdflFrame) :
    H264GateDecision → H264FrameGate → Prop
  | ready (input : H264DecoderInput) (parameterSets : H264ParameterSets) (restart : Bool)
      (next : H264FrameGate) (hkey : input.isKeyframe = frame.isKeyframe)
      (hframeId : frame.videoFrameId = some input.frameId)
      (hchain : frame.isKeyframe = false → gate.awaitingKeyframe = false)
      (hnext : next.awaitingKeyframe = false) :
      Effect gate frame (.ready input parameterSets restart) next
  | closed (frameId : Option UInt64) (reason : DecoderDropReason) (detail : String)
      (next : H264FrameGate) (hnext : next.awaitingKeyframe = true) :
      Effect gate frame (.dropped frameId reason detail) next
  | kept (frameId : Option UInt64) (reason : DecoderDropReason) (detail : String)
      (next : H264FrameGate) (hopen : gate.awaitingKeyframe = false)
      (hgap : frame.mayContainVcl → gate.leavesGap frame) :
      Effect gate frame (.dropped frameId reason detail) next

/-- A drop that does not touch the flag itself. -/
theorem Effect.of_dropped {gate next : H264FrameGate} {frame : LdflFrame}
    (frameId : Option UInt64) (reason : DecoderDropReason) (detail : String)
    (hopen : next.awaitingKeyframe = false → gate.awaitingKeyframe = false)
    (hgap : next.awaitingKeyframe = false → frame.mayContainVcl → gate.leavesGap frame) :
    Effect gate frame (.dropped frameId reason detail) next := by
  cases hawaiting : next.awaitingKeyframe with
  | true => exact .closed frameId reason detail next hawaiting
  | false => exact .kept frameId reason detail next (hopen hawaiting) (hgap hawaiting)

theorem offerBuffered_effect {gate : H264FrameGate} {frame : LdflFrame}
    {payload : VideoFramePayload} {inspection : H264AnnexBInspection}
    (hpayload : VideoFramePayload.decode frame.payload = .ok payload)
    (hinspect : H264AnnexB.inspect payload.accessUnit = .ok inspection) :
    Effect gate frame
      ((gate.buffer inspection).offerBuffered frame payload inspection
        (gate.parameterSetsChanged inspection)).1
      ((gate.buffer inspection).offerBuffered frame payload inspection
        (gate.parameterSetsChanged inspection)).2 := by
  have hparsed : frame.inspection = some (payload, inspection) := by
    simp [LdflFrame.inspection, hpayload, hinspect, Except.toOption]
  have hid : frame.videoFrameId = some payload.metadata.frameId := by
    simp [LdflFrame.videoFrameId, hpayload, Except.toOption]
  have hbuffer : (gate.buffer inspection).awaitingKeyframe = false ↔
      gate.awaitingKeyframe = false ∧ gate.parameterSetsChanged inspection = false := by
    rw [buffer, Bool.or_eq_false_iff]
  simp only [offerBuffered]
  by_cases hvcl : inspection.containsVcl
  · rw [if_neg (not_not.mpr hvcl)]
    by_cases hwait : (gate.buffer inspection).awaitingKeyframe ∧ ¬frame.isKeyframe
    · rw [if_pos hwait]
      exact .closed _ _ _ _ hwait.1
    · rw [if_neg hwait]
      cases hsets : (gate.buffer inspection).currentParameterSets with
      | none => exact .closed _ _ _ _ rfl
      | some parameterSets =>
        simp only
        by_cases hrange : payload.metadata.presentationTimestampMicros > 0x7FFFFFFFFFFFFFFF
        · rw [if_pos hrange]
          apply Effect.of_dropped
          · intro hopen
            exact (hbuffer.mp hopen).1
          · intro hopen hmay
            have hvideo : frame.messageType = .videoFrame := by
              simp only [LdflFrame.mayContainVcl, Bool.and_eq_true, decide_eq_true_eq] at hmay
              exact hmay.1
            simp [leavesGap, hparsed, hvideo, hvcl, hbuffer.mp hopen, hrange]
        · rw [if_neg hrange]
          split
          · exact .closed _ _ _ _ rfl
          · refine .ready _ _ _ _ rfl hid ?_ rfl
            intro hdelta
            cases hawaiting : gate.awaitingKeyframe with
            | false => rfl
            | true => exact absurd ⟨by simp [buffer, hawaiting], by simp [hdelta]⟩ hwait
  · rw [if_pos hvcl]
    apply Effect.of_dropped
    · intro hopen
      exact (hbuffer.mp hopen).1
    · intro _ hmay
      simp [LdflFrame.mayContainVcl, hparsed, hvcl] at hmay

/-- Every offer has one of the three effects. -/
theorem offer_effect (gate : H264FrameGate) (frame : LdflFrame) :
    Effect gate frame (gate.offer frame).1 (gate.offer frame).2 := by
  rw [offer]
  by_cases hvideo : frame.messageType = .videoFrame
  · rw [if_neg (not_not.mpr hvideo)]
    cases hpayload : VideoFramePayload.decode frame.payload with
    | error exception =>
      have hparsed : frame.inspection = none := by
        simp [LdflFrame.inspection, hpayload, Except.toOption]
      apply Effect.of_dropped _ _ _ id
      intro hopen _
      simp [leavesGap, hparsed, hvideo, hopen]
    | ok payload =>
      simp only
      cases hinspect : H264AnnexB.inspect payload.accessUnit with
      | error message =>
        have hparsed : frame.inspection = none := by
          simp [LdflFrame.inspection, hpayload, hinspect, Except.toOption]
        apply Effect.of_dropped _ _ _ id
        intro hopen _
        simp [leavesGap, hparsed, hvideo, hopen]
      | ok inspection => exact offerBuffered_effect hpayload hinspect
  · rw [if_pos hvideo]
    apply Effect.of_dropped _ _ _ id
    intro _ hmay
    simp [LdflFrame.mayContainVcl, hvideo] at hmay

end H264FrameGate

inductive GateCall where
  | offer (frame : LdflFrame)
  | reset (clearParameterSets : Bool)
  | awaitNextKeyframe
  deriving DecidableEq

/-- A gate with the frames offered to it so far and its decisions, oldest first. -/
structure GateHistory where
  gate : H264FrameGate
  offers : List (LdflFrame × H264GateDecision)
  deriving DecidableEq

namespace GateHistory

def new : GateHistory := ⟨.new, []⟩

def call (history : GateHistory) : GateCall → GateHistory
  | .offer frame =>
    { gate := (history.gate.offer frame).2
      offers := history.offers ++ [(frame, (history.gate.offer frame).1)] }
  | .reset clearParameterSets => { history with gate := history.gate.reset clearParameterSets }
  | .awaitNextKeyframe => { history with gate := history.gate.awaitNextKeyframe }

def machine : Machine GateHistory GateCall where
  step history call := some (history.call call)

/-- The call offers no frame that would leave a gap in an open chain. -/
def KeepsChain (history : GateHistory) : GateCall → Prop
  | .offer frame => history.gate.leavesGap frame = false
  | .reset _ => True
  | .awaitNextKeyframe => True

instance (history : GateHistory) (call : GateCall) : Decidable (history.KeepsChain call) := by
  cases call <;> unfold KeepsChain <;> infer_instance

/-- Every frame offered since the most recent ready keyframe that may contain VCL data was
ready. -/
def ChainUnbroken (offers : List (LdflFrame × H264GateDecision)) : Prop :=
  ∃ earlier keyframe since, offers = earlier ++ keyframe :: since ∧
    keyframe.2.isReadyKeyframe = true ∧
    ∀ offer ∈ since, offer.2.isReadyKeyframe = false ∧
      (offer.1.mayContainVcl = true → offer.2.isReady = true)

theorem chainUnbroken_keyframe (offers : List (LdflFrame × H264GateDecision))
    {offer : LdflFrame × H264GateDecision} (h : offer.2.isReadyKeyframe = true) :
    ChainUnbroken (offers ++ [offer]) := by
  refine ⟨offers, offer, [], rfl, h, ?_⟩
  intro other hother
  cases hother

theorem ChainUnbroken.concat {offers : List (LdflFrame × H264GateDecision)}
    {offer : LdflFrame × H264GateDecision} (h : ChainUnbroken offers)
    (hready : offer.1.mayContainVcl = true → offer.2.isReady = true) :
    ChainUnbroken (offers ++ [offer]) := by
  cases hkey : offer.2.isReadyKeyframe with
  | true => exact chainUnbroken_keyframe offers hkey
  | false =>
    obtain ⟨earlier, keyframe, since, rfl, hkeyframe, hsince⟩ := h
    refine ⟨earlier, keyframe, since ++ [offer], by simp, hkeyframe, ?_⟩
    intro other hother
    rcases List.mem_append.mp hother with hold | hnew
    · exact hsince other hold
    · rw [List.mem_singleton.mp hnew]
      exact ⟨hkey, hready⟩

/-- An open gate has an unbroken chain behind it, and so had every ready dependent frame. -/
structure Inv (history : GateHistory) : Prop where
  openChain : history.gate.awaitingKeyframe = false → ChainUnbroken history.offers
  ready : ∀ earlier offer later, history.offers = earlier ++ offer :: later →
    offer.2.isReady = true → offer.2.isReadyKeyframe = false → ChainUnbroken earlier

theorem inv_new : Inv new where
  openChain h := by cases h
  ready := by
    intro earlier offer later h
    exact absurd h (by simp [new])

theorem inv_offer {history : GateHistory} {frame : LdflFrame} (h : Inv history)
    (hkeeps : history.gate.leavesGap frame = false) : Inv (history.call (.offer frame)) := by
  have heffect := history.gate.offer_effect frame
  constructor
  · intro hopen
    change (history.gate.offer frame).2.awaitingKeyframe = false at hopen
    change ChainUnbroken (history.offers ++ [(frame, (history.gate.offer frame).1)])
    revert hopen heffect
    generalize (history.gate.offer frame).1 = decision
    generalize (history.gate.offer frame).2 = next
    intro heffect hopen
    cases heffect with
    | ready input parameterSets restart next hkey hframeId hchain hnext =>
      cases hframe : frame.isKeyframe with
      | true => exact chainUnbroken_keyframe _ (hkey.trans hframe)
      | false => exact (h.openChain (hchain hframe)).concat fun _ => rfl
    | closed frameId reason detail next hnext => rw [hnext] at hopen; cases hopen
    | kept frameId reason detail next hbefore hgap =>
      apply (h.openChain hbefore).concat
      intro hmay
      rw [hgap hmay] at hkeeps
      cases hkeeps
  · intro earlier offer later hsplit hready hdelta
    change history.offers ++ [(frame, (history.gate.offer frame).1)] = _ at hsplit
    rcases List.eq_nil_or_concat later with rfl | ⟨later, last, rfl⟩
    · obtain ⟨rfl, hoffer⟩ := List.append_inj' hsplit rfl
      cases hoffer
      revert hready hdelta heffect
      generalize (history.gate.offer frame).1 = decision
      generalize (history.gate.offer frame).2 = next
      intro heffect hready hdelta
      cases heffect with
      | ready input parameterSets restart next hkey hframeId hchain hnext =>
        exact h.openChain (hchain (hkey.symm.trans hdelta))
      | closed => cases hready
      | kept => cases hready
    · rw [List.concat_eq_append, ← List.cons_append, ← List.append_assoc] at hsplit
      exact h.ready earlier offer later (List.append_inj' hsplit rfl).1 hready hdelta

theorem inv_call {history : GateHistory} {call : GateCall} (h : Inv history)
    (hkeeps : history.KeepsChain call) : Inv (history.call call) := by
  cases call with
  | offer frame => exact inv_offer h hkeeps
  | reset clearParameterSets =>
    refine ⟨?_, h.ready⟩
    intro hopen
    cases clearParameterSets <;> cases hopen
  | awaitNextKeyframe =>
    refine ⟨?_, h.ready⟩
    intro hopen
    cases hopen

/-- As long as no call leaves a gap, a dependent frame is ready only when every frame offered
since the most recent ready keyframe that may contain VCL data was ready. -/
theorem ready_delta_chainUnbroken {calls : List GateCall} {history : GateHistory}
    (hkeeps : machine.Admits KeepsChain new calls) (hrun : machine.run new calls = some history)
    {earlier later : List (LdflFrame × H264GateDecision)} {frame : LdflFrame}
    {input : H264DecoderInput} {parameterSets : H264ParameterSets} {restart : Bool}
    (hoffers : history.offers =
      earlier ++ (frame, .ready input parameterSets restart) :: later)
    (hdelta : input.isKeyframe = false) : ChainUnbroken earlier := by
  have hinv : Inv history := by
    apply machine.run_invariant_of_admits KeepsChain Inv ?_ inv_new hkeeps hrun
    intro before call after hbefore hguard hstep
    cases hstep
    exact inv_call hbefore hguard
  exact hinv.ready earlier _ later hoffers rfl hdelta

end GateHistory

/-- The video frame that carries one short access unit. -/
def LdflFrame.ofAccessUnit (flags : FrameFlags) (frameId presentationTimestamp : UInt64)
    (accessUnit : SignedBytes) (h : accessUnit.length ≤ 64) : LdflFrame where
  messageType := .videoFrame
  flags := flags
  sequence := frameId
  payload := writeU64 frameId ++ writeU64 0 ++ writeU64 presentationTimestamp ++
    writeU32 16667 ++ accessUnit
  payload_le := by
    have hlength : (writeU64 frameId ++ writeU64 0 ++ writeU64 presentationTimestamp ++
        writeU32 16667 ++ accessUnit).length = 28 + accessUnit.length := by
      simp only [writeU64_eq, writeU32_eq, List.length_append, signed_length, toBeBytes_length]
      rfl
    rw [hlength]
    change _ ≤ 16777216
    omega

/-- Both parameter sets and an IDR slice. -/
def keyUnit : LdflFrame :=
  .ofAccessUnit FrameFlags.keyframe 3 1000
    [0, 0, 1, 0x67, 1, 0, 0, 1, 0x68, 1, 0, 0, 1, 0x65, 1] (by decide)

/-- A slice without its start code. -/
def brokenUnit : LdflFrame := .ofAccessUnit FrameFlags.none 4 2000 [0x41, 1] (by decide)

/-- A slice that depends on the unit before it. -/
def deltaUnit : LdflFrame := .ofAccessUnit FrameFlags.none 5 3000 [0, 0, 1, 0x41, 1] (by decide)

namespace GateHistory

theorem ready_delta_chainUnbroken_keyframe :
    let history := (new.call (.offer keyUnit)).call (.offer deltaUnit)
    history.offers.map (·.2.isReady) = [true, true] ∧ ChainUnbroken (history.offers.take 1) := by
  have hready : ((new.call (.offer keyUnit)).call (.offer deltaUnit)).offers.map (·.2.isReady) =
      [true, true] := by decide
  refine ⟨hready, ?_⟩
  have hkeeps : machine.Admits KeepsChain new [.offer keyUnit, .offer deltaUnit] := by decide
  have hdelta : (((new.call (.offer keyUnit)).gate.offer deltaUnit).1).isReadyKeyframe = false := by
    decide
  cases hdecision : ((new.call (.offer keyUnit)).gate.offer deltaUnit).1 with
  | ready input parameterSets restart =>
    rw [hdecision] at hdelta
    exact ready_delta_chainUnbroken hkeeps rfl
      (congrArg (fun decision => [(keyUnit, (H264FrameGate.new.offer keyUnit).1),
        (deltaUnit, decision)]) hdecision) hdelta
  | dropped frameId reason detail =>
    have hsecond := congrArg (·.getD 1 false) hready
    change H264GateDecision.isReady ((new.call (.offer keyUnit)).gate.offer deltaUnit).1 = true
      at hsecond
    rw [hdecision] at hsecond
    cases hsecond

/-- The gate drops an unparsable access unit and still passes the frame that depends on it. -/
theorem ready_delta_chain_broken :
    let history := ((new.call (.offer keyUnit)).call (.offer brokenUnit)).call (.offer deltaUnit)
    history.offers.map (·.1) = [keyUnit, brokenUnit, deltaUnit] ∧
      history.offers.map (·.2.isReady) = [true, false, true] ∧
      history.offers.map (·.2.isReadyKeyframe) = [true, false, false] ∧
      brokenUnit.mayContainVcl = true ∧ ¬ChainUnbroken (history.offers.take 2) := by
  have hmay : brokenUnit.mayContainVcl = true := by decide
  refine ⟨rfl, by decide, by decide, hmay, ?_⟩
  intro hchain
  have hdropped : ((new.call (.offer keyUnit)).gate.offer brokenUnit).1.isReady = false := by decide
  have hdelta : ((new.call (.offer keyUnit)).gate.offer brokenUnit).1.isReadyKeyframe = false := by
    decide
  obtain ⟨earlier, keyframe, since, hsplit, hkeyframe, hsince⟩ := hchain
  change [(keyUnit, _), (brokenUnit, _)] = _ at hsplit
  -- The keyframe of the chain is the first offer or the second.
  match earlier, hsplit with
  | [], hsplit =>
    cases hsplit
    have hready := (hsince _ List.mem_cons_self).2 hmay
    exact absurd hready (by rw [hdropped]; decide)
  | [_], hsplit =>
    cases hsplit
    exact absurd hkeyframe (by rw [hdelta]; decide)
  | _ :: _ :: rest, hsplit =>
    have hlength := congrArg List.length hsplit
    simp at hlength

end GateHistory

end LadoFlow.Android
