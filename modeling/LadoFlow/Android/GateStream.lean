import LadoFlow.Android.GateTimestamps

/-!
# A whole stream at the frame gate

A gate that is offered a stream from its first keyframe on, in the order of presentation, passes on every
frame of it.
-/

namespace LadoFlow.Android

/-- A frame of a stream: a picture that can be parsed, with both parameter sets at a keyframe and none
elsewhere. -/
structure StreamFrame (frame : LdflFrame) (payload : VideoFramePayload)
    (inspection : H264AnnexBInspection) : Prop where
  video : frame.messageType = .videoFrame
  decoded : VideoFramePayload.decode frame.payload = .ok payload
  parsed : H264AnnexB.inspect payload.accessUnit = .ok inspection
  vcl : inspection.containsVcl = true
  sets : inspection.sequenceParameterSet.isSome = frame.isKeyframe ∧
    inspection.pictureParameterSet.isSome = frame.isKeyframe
  fits : payload.metadata.presentationTimestampMicros.toNat < 2 ^ 63

/-- The decision passes on the picture of the frame; only a keyframe restarts the codec. -/
def Passed (frame : LdflFrame) (decision : H264GateDecision) : Prop :=
  ∃ payload input parameterSets restart, VideoFramePayload.decode frame.payload = .ok payload ∧
    decision = .ready input parameterSets restart ∧ input.frameId = payload.metadata.frameId ∧
    input.accessUnit = payload.accessUnit ∧ input.isKeyframe = frame.isKeyframe ∧
    input.presentationTimestampMicros = payload.metadata.presentationTimestampMicros.toInt64 ∧
    (restart = true → frame.isKeyframe = true)

namespace H264FrameGate

/-- The gate is open behind a frame with this timestamp. -/
structure OpenAt (gate : H264FrameGate) (timestamp : UInt64) : Prop where
  chain : gate.awaitingKeyframe = false
  sets : gate.currentParameterSets.isSome = true
  last : gate.lastPresentationTimestampMicros = some timestamp.toInt64

variable {gate : H264FrameGate} {frame : LdflFrame} {payload : VideoFramePayload}
  {inspection : H264AnnexBInspection}

theorem currentParameterSets_isSome :
    gate.currentParameterSets.isSome = (gate.sequenceParameterSet.isSome && gate.pictureParameterSet.isSome) := by
  cases hsps : gate.sequenceParameterSet <;> cases hpps : gate.pictureParameterSet <;>
    simp [currentParameterSets, hsps, hpps]

theorem toInt64_lt {first second : UInt64} (hsecond : second.toNat < 2 ^ 63) (h : first < second) :
    first.toInt64 < second.toInt64 := by
  have hlt := UInt64.lt_iff_toNat_lt.mp h
  rw [Int64.lt_iff_toInt_lt, toInt_toInt64 hsecond, toInt_toInt64 (Nat.lt_trans hlt hsecond)]
  exact_mod_cast hlt

/-- A gate that holds both sets passes on a later frame, when it does not wait for another one. -/
theorem offerBuffered_passes (h : StreamFrame frame payload inspection) {changed : Bool}
    (hsets : gate.currentParameterSets.isSome = true)
    (hchain : frame.isKeyframe = false → gate.awaitingKeyframe = false ∧ changed = false)
    (hlater : ∀ last ∈ gate.lastPresentationTimestampMicros,
      last < payload.metadata.presentationTimestampMicros.toInt64) :
    Passed frame (gate.offerBuffered frame payload inspection changed).1 ∧
      (gate.offerBuffered frame payload inspection changed).2.OpenAt
        payload.metadata.presentationTimestampMicros := by
  obtain ⟨parameterSets, hparameterSets⟩ := Option.isSome_iff_exists.mp hsets
  have hwait : ¬(gate.awaitingKeyframe = true ∧ ¬frame.isKeyframe = true) := by
    rintro ⟨hawaiting, hdelta⟩
    rw [(hchain (by simpa using hdelta)).1] at hawaiting
    cases hawaiting
  have hrange : ¬payload.metadata.presentationTimestampMicros > 0x7FFFFFFFFFFFFFFF := by
    intro hgt
    have hnat := UInt64.lt_iff_toNat_lt.mp hgt
    have hbound : (0x7FFFFFFFFFFFFFFF : UInt64).toNat = 2 ^ 63 - 1 := rfl
    have hfits := h.fits
    omega
  have hnone : gate.lastPresentationTimestampMicros.any
      (payload.metadata.presentationTimestampMicros.toInt64 ≤ ·) = false := by
    cases hlast : gate.lastPresentationTimestampMicros with
    | none => rfl
    | some last =>
      have hlt := hlater last hlast
      simpa using hlt
  simp only [offerBuffered, h.vcl, hparameterSets, hnone, if_neg hwait, if_neg hrange, not_true_eq_false,
    if_false, Bool.false_eq_true, false_and, Bool.or_false]
  refine ⟨⟨payload, _, _, _, h.decoded, rfl, rfl, rfl, rfl, rfl, ?_⟩, rfl, ?_, rfl⟩
  · intro hrestart
    cases hkey : frame.isKeyframe with
    | true => rfl
    | false =>
      obtain ⟨hawaiting, hchanged⟩ := hchain hkey
      rw [hawaiting, hchanged] at hrestart
      cases hrestart
  · rw [← hsets]
    rfl

/-- A keyframe, or a frame behind an open gate, is passed on. -/
theorem offer_passes (h : StreamFrame frame payload inspection)
    (hopen : frame.isKeyframe = false →
      gate.awaitingKeyframe = false ∧ gate.currentParameterSets.isSome = true)
    (hlater : ∀ last ∈ gate.lastPresentationTimestampMicros,
      last < payload.metadata.presentationTimestampMicros.toInt64) :
    Passed frame (gate.offer frame).1 ∧
      (gate.offer frame).2.OpenAt payload.metadata.presentationTimestampMicros := by
  rw [offer, if_neg (not_not.mpr h.video), h.decoded]
  simp only [h.parsed]
  obtain ⟨hsps, hpps⟩ := h.sets
  apply offerBuffered_passes h
  · rw [currentParameterSets_isSome, buffer]
    cases hkey : frame.isKeyframe with
    | true =>
      rw [hkey] at hsps hpps
      simp [hsps, hpps]
    | false =>
      have hheld := (hopen hkey).2
      rw [currentParameterSets_isSome, Bool.and_eq_true] at hheld
      simp [hheld.1, hheld.2]
  · intro hkey
    rw [hkey, Option.isSome_eq_false_iff, Option.isNone_iff_eq_none] at hsps hpps
    simp [buffer, parameterSetsChanged, hsps, hpps, (hopen hkey).1]
  · exact hlater

end H264FrameGate

namespace GateHistory

open H264FrameGate

/-- The gate after the frames of a stream. -/
def ofFrames (frames : List LdflFrame) : GateHistory :=
  frames.foldl (fun history frame => history.call (.offer frame)) .new

theorem ofFrames_concat (frames : List LdflFrame) (frame : LdflFrame) :
    ofFrames (frames ++ [frame]) = (ofFrames frames).call (.offer frame) := by
  simp [ofFrames]

theorem ofFrames_offers (frames : List LdflFrame) : (ofFrames frames).offers.map (·.1) = frames := by
  induction frames using List.reverseRecOn with
  | nil => rfl
  | append_singleton frames frame ih =>
    rw [ofFrames_concat, call]
    simp [ih]

/-- From its first keyframe on, every frame of a stream is passed on, in order. -/
theorem ofFrames_passes {frames : List LdflFrame}
    (hframes : ∀ frame ∈ frames, ∃ payload inspection, StreamFrame frame payload inspection)
    (hfirst : ∀ frame ∈ frames.head?, frame.isKeyframe = true)
    (hincreasing : frames.Pairwise LdflFrame.PresentedBefore) :
    (∀ offer ∈ (ofFrames frames).offers, Passed offer.1 offer.2) ∧
      (∀ frame ∈ frames.getLast?, ∃ timestamp, frame.presentationTimestamp = some timestamp ∧
        (ofFrames frames).gate.OpenAt timestamp) := by
  induction frames using List.reverseRecOn with
  | nil =>
    refine ⟨?_, ?_⟩
    · intro offer hoffer
      exact absurd hoffer List.not_mem_nil
    · intro frame hframe
      cases hframe
  | append_singleton frames frame ih =>
    obtain ⟨hbefore, -, hlast⟩ := List.pairwise_append.mp hincreasing
    obtain ⟨payload, inspection, hframe⟩ := hframes frame (by simp)
    have htimestamp : frame.presentationTimestamp = some payload.metadata.presentationTimestampMicros := by
      rw [LdflFrame.presentationTimestamp, hframe.decoded]
      rfl
    obtain ⟨hpassed, hopen⟩ := ih (fun other hother => hframes other (List.mem_append_left _ hother))
      (fun other hother => hfirst other (by simp [List.head?_append, Option.mem_def.mp hother])) hbefore
    have hnext : Passed frame ((ofFrames frames).gate.offer frame).1 ∧
        ((ofFrames frames).gate.offer frame).2.OpenAt payload.metadata.presentationTimestampMicros := by
      cases hend : frames.getLast? with
      | none =>
        rw [List.getLast?_eq_none_iff] at hend
        subst hend
        have hkey : frame.isKeyframe = true := hfirst frame rfl
        refine offer_passes hframe (by simp [hkey]) ?_
        intro last hnone
        cases hnone
      | some previous =>
        obtain ⟨timestamp, hprevious, hgate⟩ := hopen previous hend
        have hlt := hlast previous (List.mem_of_getLast? hend) frame List.mem_cons_self timestamp _
          hprevious htimestamp
        apply offer_passes hframe (fun _ => ⟨hgate.chain, hgate.sets⟩)
        intro last heq
        rw [hgate.last, Option.mem_def, Option.some.injEq] at heq
        rw [← heq]
        exact toInt64_lt hframe.fits hlt
    rw [ofFrames_concat, call]
    refine ⟨?_, ?_⟩
    · intro offer hoffer
      rcases List.mem_append.mp hoffer with hold | hnew
      · exact hpassed offer hold
      · rw [List.mem_singleton.mp hnew]
        exact hnext.1
    · intro other hother
      rw [List.getLast?_concat, Option.mem_def, Option.some.injEq] at hother
      exact ⟨_, hother ▸ htimestamp, hnext.2⟩

end GateHistory

end LadoFlow.Android
