import LadoFlow.Android.GateTimestamps
import LadoFlow.Host.MediaClock

/-!
# The media timeline from the host to the frame gate

The host stamps its video frames with strictly increasing presentation times, so the gate of the
display never sees a time that does not increase, whichever of the frames reach it.
-/

namespace LadoFlow.System

open Framework LadoFlow.Protocol LadoFlow.Core
open Android (signed GateCall GateTrace LdflFrame VideoFramePayload offeredFrames)
open Host (H264AccessUnit LateKeyframe SharedState VideoLoop VideoTurn videoMetadata)

/-- The frame that the display reads from the bytes of the packet. -/
def arriving (frame : Frame) : Option LdflFrame :=
  match Android.FrameCodec.decodePrefix (signed frame.encode) 0 with
  | .ok (.complete frame _) => some frame
  | _ => none

theorem arriving_eq (frame : Frame) : arriving frame = some (Android.FrameCodec.ofFrame frame) := by
  have hboth := Android.FrameCodec.decodePrefix_signed (Nat.zero_le frame.encode.length)
  have hrust := frame.decodePrefix_encode []
  rw [List.append_nil] at hrust
  rw [List.drop_zero, hrust] at hboth
  rw [arriving, toOption_eq_some.mp hboth]
  rfl

/-- Both sides read the same presentation time. -/
theorem presentationTimestamp_ofFrame {frame : Frame} {metadata : VideoFrameMetadata}
    (h : videoMetadata frame = some metadata) :
    (Android.FrameCodec.ofFrame frame).presentationTimestamp =
      some metadata.presentationTimestampMicros := by
  obtain ⟨video, hvideo, rfl⟩ := Option.map_eq_some_iff.mp h
  have hdecode := toOption_eq_some.mp hvideo
  rw [Frame.decodePayload] at hdecode
  split at hdecode
  · cases hdecode
  · have hwire : video.wire = frame.payload := VideoFrame.decode_eq_ok.mp hdecode
    have hkotlin := VideoFramePayload.decode_signed.mpr hwire
    have hpayload : (Android.FrameCodec.ofFrame frame).payload = signed frame.payload := rfl
    rw [LdflFrame.presentationTimestamp, hpayload, hkotlin]
    rfl

/-- Frames of the host reach the display in the order of their presentation. -/
theorem arriving_increase {frames : List Frame}
    (hmetadata : ∀ frame ∈ frames, ∃ metadata, videoMetadata frame = some metadata)
    (hincreasing : frames.Pairwise VideoLoop.PresentedBefore) :
    (frames.filterMap arriving).Pairwise LdflFrame.PresentedBefore := by
  rw [List.pairwise_filterMap]
  refine hincreasing.imp_of_mem ?_
  intro a b ha hb hab first hfirst second hsecond stamp stamp' hstamp hstamp'
  obtain ⟨metadata, hmetadata₁⟩ := hmetadata a ha
  obtain ⟨metadata', hmetadata₂⟩ := hmetadata b hb
  have hfirst' : Android.FrameCodec.ofFrame a = first :=
    Option.some.inj ((arriving_eq a).symm.trans hfirst)
  have hsecond' : Android.FrameCodec.ofFrame b = second :=
    Option.some.inj ((arriving_eq b).symm.trans hsecond)
  rw [← hfirst', presentationTimestamp_ofFrame hmetadata₁] at hstamp
  rw [← hsecond', presentationTimestamp_ofFrame hmetadata₂] at hstamp'
  cases hstamp
  cases hstamp'
  exact hab metadata metadata' hmetadata₁ hmetadata₂

/-- Over every run of the session loop: the media clock moves forward only, and only for a batch that
starts with a late keyframe; each frame carries its sequence as its identifier, and a capture time that
is neither after the clock nor after the presentation time; the presentation times strictly increase;
and the gate, offered any of the frames in their order with any resets in between, sees no
discontinuity. -/
theorem media_timeline {shared : SharedState} {nextSequence : UInt64} {turns : List VideoTurn}
    {s : VideoLoop} (hrange : ∀ turn ∈ turns, turn.ClockInRange)
    (hunits : VideoLoop.RegularlyStamped (turns.flatMap (·.units)))
    (hrun : VideoLoop.machine.run (VideoLoop.start shared nextSequence) turns = some s) :
    (∀ turn t offset, s.step turn = some t → s.mediaClockOffset = some offset →
      ∃ next, t.mediaClockOffset = some next ∧ offset.nanos ≤ next.nanos ∧
        (next ≠ offset → ∃ encoderName first rest now,
          turn = .batch encoderName (first :: rest) now ∧ LateKeyframe first now offset)) ∧
    (∀ sent ∈ s.sent, ∃ frame metadata, VideoLoop.OnTime sent frame metadata) ∧
    s.wireFrames.Pairwise VideoLoop.PresentedBefore ∧
    ∀ calls : List GateCall, (offeredFrames calls).Sublist (s.wireFrames.filterMap arriving) →
      (∀ before frame after, calls = before ++ .offer frame :: after →
        ¬(GateTrace.ofCalls before).gate.Discontinuous frame) ∧
      ∀ event ∈ (GateTrace.ofCalls calls).events, ¬GateTrace.ReportsDiscontinuity event := by
  have hinv := VideoLoop.inv_run hrange hrun
  have harrived : s.arrived = turns.flatMap (·.units) := VideoLoop.run_arrived hrun
  have hincreasing := VideoLoop.wireFrames_increase hinv (harrived ▸ hunits)
  have hstamped : ∀ sent ∈ s.sent, ∃ frame metadata, VideoLoop.OnTime sent frame metadata :=
    fun sent hsent => VideoLoop.exists_onTime (hinv.stamped sent hsent)
  refine ⟨fun turn t offset hstep hoffset => VideoLoop.step_offset hstep hoffset, hstamped,
    hincreasing, ?_⟩
  intro calls hoffered
  apply GateTrace.no_discontinuity
  apply List.Pairwise.sublist hoffered
  apply arriving_increase ?_ hincreasing
  intro frame hframe
  obtain ⟨sent, hsent, hmade⟩ := List.mem_filterMap.mp hframe
  obtain ⟨wire, metadata, hontime⟩ := hstamped sent hsent
  have hsame : frame = wire := Option.some.inj (hmade.symm.trans hontime.frame_eq)
  exact ⟨metadata, hsame ▸ hontime.metadata_eq⟩

/-- An access unit of 16 ms. -/
def unitAt (millis : UInt64) (keyframe : Bool) : H264AccessUnit where
  bytes := [0, 0, 0, 1, 0x65]
  timestamp := .fromMillis millis
  duration := .fromMillis 16
  keyframe

/-- The second batch is late and moves the clock. -/
def lateBatch : List VideoTurn :=
  [.batch "encoder" [unitAt 0 true] (.fromMillis 500), .send (.fromMillis 500) fun _ => .ok (),
    .batch "encoder" [unitAt 1000 true, unitAt 1016 false] (.fromMillis 2000),
    .send (.fromMillis 2000) fun _ => .ok (), .send (.fromMillis 2010) fun _ => .ok (),
    .send (.fromMillis 2016) fun _ => .ok ()]

theorem media_timeline_lateBatch : ∃ s,
    VideoLoop.machine.run (VideoLoop.start .new 7) lateBatch = some s ∧
      s.mediaClockOffset = some (.fromMillis 1000) ∧
      s.sent.map (·.offset) = [.fromMillis 500, .fromMillis 1000, .fromMillis 1000] ∧
      s.wireFrames.Pairwise VideoLoop.PresentedBefore := by
  refine ⟨_, rfl, by decide +kernel, by decide +kernel, ?_⟩
  have hrange : ∀ turn ∈ lateBatch, turn.ClockInRange := by decide
  have hunits : VideoLoop.RegularlyStamped (lateBatch.flatMap (·.units)) :=
    ⟨by decide, .fromMillis 16, by decide⟩
  exact (@media_timeline .new 7 lateBatch _ hrange hunits rfl).2.2.1

end LadoFlow.System
