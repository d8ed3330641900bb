import LadoFlow.Android.H264GateLaw

/-!
# The timestamps at the frame gate

The gate compares each presentation time with the last one it passed on. Frames that are offered in
the order of their presentation are never reported, whenever the gate is reset.
-/

namespace LadoFlow.Android

/-- The presentation timestamp of a video frame whose payload is well formed. -/
def LdflFrame.presentationTimestamp (frame : LdflFrame) : Option UInt64 :=
  (VideoFramePayload.decode frame.payload).toOption.map (·.metadata.presentationTimestampMicros)

/-- The gate compares the timestamp of the frame with the last one, and it is not later. -/
def H264FrameGate.Discontinuous (gate : H264FrameGate) (frame : LdflFrame) : Prop :=
  ∃ timestamp previous, frame.presentationTimestamp = some timestamp ∧
    timestamp.toNat < 2 ^ 63 ∧ gate.lastPresentationTimestampMicros = some previous ∧
    timestamp.toInt64 ≤ previous

/-- The first frame is presented before the second one. -/
def LdflFrame.PresentedBefore (a b : LdflFrame) : Prop :=
  ∀ first second, a.presentationTimestamp = some first → b.presentationTimestamp = some second →
    first < second

namespace H264FrameGate

theorem toInt_toInt64 {value : UInt64} (h : value.toNat < 2 ^ 63) :
    value.toInt64.toInt = value.toNat := by
  change (BitVec.toInt value.toBitVec) = value.toNat
  rw [BitVec.toInt_eq_toNat_of_lt]
  · rfl
  · change 2 * value.toNat < 2 ^ 64
    omega

variable {gate : H264FrameGate} {frame : LdflFrame}

/-- After an offer the last timestamp is the one before it or that of the frame, and a frame is
reported only when its timestamp is not later. -/
theorem offerBuffered_timestamp {payload : VideoFramePayload} {inspection : H264AnnexBInspection}
    {changed : Bool}
    (htimestamp : frame.presentationTimestamp = some payload.metadata.presentationTimestampMicros) :
    (∀ last, (gate.offerBuffered frame payload inspection changed).2.lastPresentationTimestampMicros =
        some last → gate.lastPresentationTimestampMicros = some last ∨
          ∃ timestamp, frame.presentationTimestamp = some timestamp ∧
            last.toInt = timestamp.toNat) ∧
      (∀ frameId detail, (gate.offerBuffered frame payload inspection changed).1 =
        .dropped frameId .timestampDiscontinuity detail → gate.Discontinuous frame) := by
  simp only [offerBuffered]
  split
  · exact ⟨fun last hlast => .inl hlast, by simp⟩
  split
  · exact ⟨fun last hlast => .inl hlast, by simp⟩
  split
  · exact ⟨fun last hlast => .inl hlast, by simp⟩
  split
  · exact ⟨fun last hlast => .inl hlast, by simp⟩
  rename_i hrange
  have hfits := fits_of_not_gt hrange
  split
  · rename_i hbreak
    refine ⟨by simp, ?_⟩
    intro frameId detail _
    cases hlast : gate.lastPresentationTimestampMicros with
    | none =>
      rw [hlast] at hbreak
      exact absurd hbreak.1 Bool.false_ne_true
    | some previous =>
      rw [hlast, Option.any_some] at hbreak
      exact ⟨_, previous, htimestamp, hfits, hlast, of_decide_eq_true hbreak.1⟩
  · refine ⟨?_, by simp⟩
    intro last hlast
    cases hlast
    exact .inr ⟨_, htimestamp, toInt_toInt64 hfits⟩

theorem offer_timestamp (gate : H264FrameGate) (frame : LdflFrame) :
    (∀ last, (gate.offer frame).2.lastPresentationTimestampMicros = some last →
        gate.lastPresentationTimestampMicros = some last ∨
          ∃ timestamp, frame.presentationTimestamp = some timestamp ∧
            last.toInt = timestamp.toNat) ∧
      (∀ frameId detail, (gate.offer frame).1 =
        .dropped frameId .timestampDiscontinuity detail → gate.Discontinuous frame) := by
  rw [offer]
  split
  · exact ⟨fun last hlast => .inl hlast, by simp⟩
  cases hpayload : VideoFramePayload.decode frame.payload with
  | error exception => exact ⟨fun last hlast => .inl hlast, by simp⟩
  | ok payload =>
    simp only
    cases H264AnnexB.inspect payload.accessUnit with
    | error message => exact ⟨fun last hlast => .inl hlast, by simp⟩
    | ok inspection =>
      have htimestamp : frame.presentationTimestamp =
          some payload.metadata.presentationTimestampMicros := by
        rw [LdflFrame.presentationTimestamp, hpayload]
        rfl
      exact @offerBuffered_timestamp (gate.buffer inspection) frame payload inspection
        (gate.parameterSetsChanged inspection) htimestamp

end H264FrameGate

/-- The frames that the calls offer, in their order. -/
def offeredFrames (calls : List GateCall) : List LdflFrame :=
  calls.filterMap fun call =>
    match call with
    | .offer frame => some frame
    | _ => none

theorem offeredFrames_append (calls more : List GateCall) :
    offeredFrames (calls ++ more) = offeredFrames calls ++ offeredFrames more :=
  List.filterMap_append

namespace GateTrace

/-- The last timestamp of the gate is that of an offered frame. -/
theorem last_offered (calls : List GateCall) {last : Int64}
    (hlast : (ofCalls calls).gate.lastPresentationTimestampMicros = some last) :
    ∃ frame ∈ offeredFrames calls, ∃ timestamp, frame.presentationTimestamp = some timestamp ∧
      last.toInt = timestamp.toNat := by
  induction calls using List.reverseRecOn with
  | nil => cases hlast
  | append_singleton calls call ih =>
    rw [ofCalls, List.foldl_append] at hlast
    rw [offeredFrames_append]
    cases call with
    | offer frame =>
      rcases ((ofCalls calls).gate.offer_timestamp frame).1 last hlast with hbefore | hnow
      · obtain ⟨earlier, hearlier, htimestamp⟩ := ih hbefore
        exact ⟨earlier, List.mem_append_left _ hearlier, htimestamp⟩
      · exact ⟨frame, List.mem_append_right _ (List.mem_singleton_self _), hnow⟩
    | reset clearParameterSets => cases clearParameterSets <;> cases hlast
    | awaitNextKeyframe => cases hlast

/-- Frames in the order of their presentation are never discontinuous, whatever resets the gate. -/
theorem not_discontinuous {calls : List GateCall} {frame : LdflFrame}
    (hincreasing : (offeredFrames calls ++ [frame]).Pairwise LdflFrame.PresentedBefore) :
    ¬(ofCalls calls).gate.Discontinuous frame := by
  rintro ⟨timestamp, previous, htimestamp, hfits, hlast, hle⟩
  obtain ⟨earlier, hearlier, stamp, hstamp, hvalue⟩ := last_offered calls hlast
  have hbefore := (List.pairwise_append.mp hincreasing).2.2 earlier hearlier frame
    (List.mem_singleton_self _) stamp timestamp hstamp htimestamp
  have hvalues := Int64.le_iff_toInt_le.mp hle
  rw [H264FrameGate.toInt_toInt64 hfits, hvalue] at hvalues
  have hnat := UInt64.lt_iff_toNat_lt.mp hbefore
  omega

/-- The event is an offer that the gate dropped because of its timestamp. -/
def ReportsDiscontinuity (event : GateEvent) : Prop :=
  ∃ frame frameId detail, event = .offered frame (.dropped frameId .timestampDiscontinuity detail)

theorem no_discontinuity {calls : List GateCall}
    (hincreasing : (offeredFrames calls).Pairwise LdflFrame.PresentedBefore) :
    (∀ before frame after, calls = before ++ .offer frame :: after →
        ¬(ofCalls before).gate.Discontinuous frame) ∧
      ∀ event ∈ (ofCalls calls).events, ¬ReportsDiscontinuity event := by
  have hnever : ∀ before frame after, calls = before ++ .offer frame :: after →
      ¬(ofCalls before).gate.Discontinuous frame := by
    intro before frame after hsplit
    apply not_discontinuous
    apply List.Pairwise.sublist ?_ hincreasing
    rw [hsplit, offeredFrames_append]
    exact List.Sublist.append (List.Sublist.refl _)
      (List.Sublist.cons_cons _ (List.nil_sublist _))
  refine ⟨hnever, ?_⟩
  clear hincreasing
  induction calls using List.reverseRecOn with
  | nil => exact List.forall_mem_nil _
  | append_singleton calls call ih =>
    have hbefore := ih fun before frame after hsplit =>
      hnever before frame (after ++ [call]) (by rw [hsplit]; simp)
    rw [ofCalls, List.foldl_append]
    have hold : ∀ event ∈ (calls.foldl GateTrace.call new).events, ¬ReportsDiscontinuity event :=
      hbefore
    intro event hevent
    cases call with
    | offer frame =>
      rcases List.mem_append.mp hevent with hevent | hevent
      · exact hold event hevent
      · rw [List.mem_singleton.mp hevent]
        rintro ⟨other, frameId, detail, hreports⟩
        obtain ⟨-, hdecision⟩ := GateEvent.offered.inj hreports
        have hreported := ((ofCalls calls).gate.offer_timestamp frame).2 frameId detail hdecision
        exact hnever calls frame [] rfl hreported
    | reset clearParameterSets =>
      rcases List.mem_append.mp hevent with hevent | hevent
      · exact hold event hevent
      · rw [List.mem_singleton.mp hevent]
        simp [ReportsDiscontinuity]
    | awaitNextKeyframe =>
      rcases List.mem_append.mp hevent with hevent | hevent
      · exact hold event hevent
      · rw [List.mem_singleton.mp hevent]
        simp [ReportsDiscontinuity]

end GateTrace

end LadoFlow.Android
