import LadoFlow.Android.GateStream
import LadoFlow.Framework.Aligned
import LadoFlow.Host.EncoderLockstep
import LadoFlow.System.MediaTimeline

/-!
# The pictures from the encoder to the decoder

The capture thread encodes and hands its batches over a channel, the session loop sends the units when they
are due, and the gate of the display decides about each frame that arrives. The threads and the transport take
their steps in any order.
-/

namespace LadoFlow.System

open Framework LadoFlow.Protocol LadoFlow.Core LadoFlow.Transport
open Android (signed GateHistory H264AnnexBInspection H264GateDecision LdflFrame Passed StreamFrame
  VideoFramePayload)
open Host (EncodedAccessUnit EncoderTurn H264AccessUnit H264StreamBatch HardwareEncoder HostError
  SentAccessUnit SharedState VideoLoop convertH264AccessUnits h264Frame)

/-- The capture thread stops with its first error; `outbox` is the result that it is handing over. -/
structure VideoPath where
  encoder : HardwareEncoder
  outbox : Option (Except String H264StreamBatch)
  stopped : Bool
  channel : List (Except String H264StreamBatch)
  loop : VideoLoop
  gate : GateHistory

inductive PathStep where
  | encode (turn : EncoderTurn) (close : Except String Unit)
  | forward
  | receive (now : Duration)
  | send (clock : Duration) (trySend : Packet → Except HostError Unit)
  | control (shared : SharedState) (nextSequence : UInt64)
  | offer

namespace VideoPath

def channelCapacity : Nat := 2

def start (asynchronous : Bool) (shared : SharedState) (nextSequence : UInt64) : VideoPath where
  encoder := .start asynchronous
  outbox := none
  stopped := false
  channel := []
  loop := .start shared nextSequence
  gate := .new

/-- What the capture thread makes of a call that has returned; without units there is no batch. -/
def encoded (encoderName : String) (close : Except String Unit) (units : List EncodedAccessUnit) :
    Option (Except String H264StreamBatch) :=
  match close with
  | .error error => some (.error ("failed to close captured frame: " ++ error))
  | .ok _ => if units.isEmpty then none else some (convertH264AccessUnits encoderName units)

/-- What there is to hand over behind a step of the encoder. -/
def handOver (encoderName : String) (close : Except String Unit) (before after : HardwareEncoder) :
    Option (Except String H264StreamBatch) :=
  match after.point with
  | .failed error => some (.error error)
  | .idle => if after.returned.length = before.returned.length then none
    else encoded encoderName close ((after.returned.getLast?.map (·.2)).getD [])
  | _ => none

def isError (result : Option (Except String H264StreamBatch)) : Bool :=
  match result with
  | some (.error _) => true
  | _ => false

section Steps

variable (encoderName : String) (s : VideoPath)

def step : PathStep → Option VideoPath
  | .encode turn close =>
    if s.stopped || s.outbox.isSome then none
    else (s.encoder.step turn).map fun encoder =>
      let outbox := handOver encoderName close s.encoder encoder
      { s with encoder, outbox, stopped := isError outbox }
  | .forward =>
    match s.outbox with
    | none => none
    | some result =>
      if s.channel.length < channelCapacity then
        some { s with outbox := none, channel := s.channel ++ [result] }
      else none
  | .receive now =>
    match s.channel with
    | .ok batch :: channel =>
      (s.loop.step (.batch batch.encoderName batch.accessUnits now)).map fun loop => { s with channel, loop }
    -- The error of the capture ends the session.
    | .error _ :: _ => none
    | [] => none
  | .send clock trySend => (s.loop.step (.send clock trySend)).map fun loop => { s with loop }
  | .control shared nextSequence =>
    (s.loop.step (.control shared nextSequence)).map fun loop => { s with loop }
  | .offer =>
    match s.loop.wireFrames[s.gate.offers.length]? with
    | none => none
    | some frame => (arriving frame).map fun frame => { s with gate := s.gate.call (.offer frame) }

end Steps

def machine (encoderName : String) : Machine VideoPath PathStep := ⟨step encoderName⟩

def unitsOf : Except String H264StreamBatch → List H264AccessUnit
  | .ok batch => batch.accessUnits
  | .error _ => []

/-- The units on their way from the encoder, oldest first. -/
def delivered (s : VideoPath) : List H264AccessUnit :=
  s.loop.arrived ++ (s.channel.flatMap unitsOf ++ s.outbox.toList.flatMap unitsOf)

end VideoPath

/-- The clock of the session stays below the range of the display by the longest duration of a frame. -/
def PathStep.ClockInRange : PathStep → Prop
  | .send clock _ => clock.nanos / 1000 + 2 ^ 32 < 2 ^ 63
  | _ => True

/-- A unit of the stream is the encoded one, with its times in nanoseconds. -/
structure Converted (encoded : EncodedAccessUnit) (unit : H264AccessUnit) : Prop where
  bytes : unit.bytes = encoded.bytes
  keyframe : unit.keyframe = encoded.keyframe
  timestamp : ∃ ticks, encoded.timestamp100ns = some ticks ∧ unit.timestamp.nanos = ticks.toInt.toNat * 100 ∧
    0 ≤ ticks.toInt
  duration : ∃ ticks, encoded.duration100ns = some ticks ∧ unit.duration.nanos = ticks.toInt.toNat * 100

/-- What an H.264 encoder gives: pictures that can be parsed, from a keyframe on, with both parameter sets at
the keyframes and none elsewhere, at least a microsecond apart and of one duration. -/
structure EncoderStream (units : List EncodedAccessUnit) : Prop where
  parsed : ∀ unit ∈ units, ∃ inspection, Android.H264AnnexB.inspect (signed unit.bytes) = .ok inspection ∧
    inspection.containsVcl = true ∧ inspection.sequenceParameterSet.isSome = unit.keyframe ∧
    inspection.pictureParameterSet.isSome = unit.keyframe
  first : ∀ unit ∈ units.head?, unit.keyframe = true
  increasing : units.Pairwise fun a b => ∀ first second, a.timestamp100ns = some first →
    b.timestamp100ns = some second → first.toInt + 10 ≤ second.toInt
  duration : ∃ ticks, ∀ unit ∈ units, ∀ duration, unit.duration100ns = some duration → duration = ticks

/-- The gate has passed the picture on as it was encoded; only a keyframe restarts the codec. -/
def Shown (unit : EncodedAccessUnit) (offer : LdflFrame × H264GateDecision) : Prop :=
  ∃ input parameterSets restart, offer.2 = .ready input parameterSets restart ∧
    input.accessUnit = signed unit.bytes ∧ input.isKeyframe = unit.keyframe ∧
    (restart = true → unit.keyframe = true)

section Conversion

theorem mediaTimeToDuration_ok {value : Int64} {allowZero : Bool} {field : String} {duration : Duration}
    (h : Host.mediaTimeToDuration value allowZero field = .ok duration) :
    duration.nanos = value.toInt.toNat * 100 ∧ 0 ≤ value.toInt := by
  rw [Host.mediaTimeToDuration] at h
  split at h
  · cases h
  · rename_i hvalid
    simp only at h
    split at h
    · rename_i hrange
      cases h
      refine ⟨Nat.min_eq_left ?_, ?_⟩
      · rw [Duration.maxNanos]
        omega
      · have hnonneg : ¬value < 0 := fun hneg => hvalid (.inl hneg)
        rw [Int64.lt_iff_toInt_lt] at hnonneg
        simpa using hnonneg
    · cases h

theorem elim_eq_ok {value : Option Int64} {error : String} {ticks : Int64}
    (h : value.elim (throw error : Except String Int64) pure = .ok ticks) : value = some ticks := by
  cases value with
  | none => cases h
  | some found =>
    cases h
    rfl

theorem convertAccessUnit_ok {previous : Option Duration} {encoded : EncodedAccessUnit}
    {unit : H264AccessUnit} (h : Host.convertAccessUnit previous encoded = .ok unit) :
    Converted encoded unit := by
  rw [Host.convertAccessUnit] at h
  split at h
  · cases h
  · obtain ⟨-, -, h⟩ := bind_eq_ok.mp h
    obtain ⟨ticks, hticks, h⟩ := bind_eq_ok.mp h
    obtain ⟨timestamp, htimestamp, h⟩ := bind_eq_ok.mp h
    obtain ⟨length, hlength, h⟩ := bind_eq_ok.mp h
    obtain ⟨duration, hduration, h⟩ := bind_eq_ok.mp h
    simp only at h
    split at h
    · cases h
    · cases h
      obtain ⟨hnanos, hnonneg⟩ := mediaTimeToDuration_ok htimestamp
      exact ⟨rfl, rfl, ⟨ticks, elim_eq_ok hticks, hnanos, hnonneg⟩,
        ⟨length, elim_eq_ok hlength, (mediaTimeToDuration_ok hduration).1⟩⟩

theorem convertAccessUnits_ok {previous : Option Duration} {encoded : List EncodedAccessUnit}
    {units : List H264AccessUnit} (h : Host.convertAccessUnits previous encoded = .ok units) :
    List.Forall₂ Converted encoded units := by
  induction encoded generalizing previous units with
  | nil =>
    cases h
    exact .nil
  | cons unit encoded ih =>
    obtain ⟨first, hfirst, h⟩ := bind_eq_ok.mp h
    obtain ⟨rest, hrest, h⟩ := bind_eq_ok.mp h
    cases h
    exact .cons (convertAccessUnit_ok hfirst) (ih hrest)

theorem convertH264AccessUnits_ok {encoderName : String} {encoded : List EncodedAccessUnit}
    {batch : H264StreamBatch} (h : convertH264AccessUnits encoderName encoded = .ok batch) :
    List.Forall₂ Converted encoded batch.accessUnits := by
  rw [convertH264AccessUnits] at h
  split at h
  · cases h
  · obtain ⟨-, -, h⟩ := bind_eq_ok.mp h
    obtain ⟨units, hunits, h⟩ := bind_eq_ok.mp h
    cases h
    exact convertAccessUnits_ok hunits

end Conversion

section Frames

/-- The frame of a unit, as the display reads it. -/
theorem h264Frame_content {unit : H264AccessUnit} {offset : Duration} {sequence : UInt64} {frame : Frame}
    (h : h264Frame unit offset sequence = .ok frame) :
    ∃ video : VideoFrame, frame.header.kind = .videoFrame ∧ frame.payload = video.wire ∧
      video.encodedBytes = unit.bytes ∧
      frame.header.flags = (if unit.keyframe then FrameFlags.keyframe else FrameFlags.none) := by
  rw [h264Frame] at h
  split at h
  · cases h
  split at h
  · cases h
  obtain ⟨duration, -, h⟩ := bind_eq_ok.mp h
  obtain ⟨metadata, -, h⟩ := bind_eq_ok.mp h
  obtain ⟨video, hvideo, h⟩ := bind_eq_ok.mp h
  obtain ⟨payload, hpayload, hframe⟩ := bind_eq_ok.mp (Host.liftProtocol_eq_ok.mp h)
  obtain ⟨-, hencoded⟩ := VideoFrame.new_eq_ok.mp (Host.liftProtocol_eq_ok.mp hvideo)
  obtain ⟨hkind, hflags, -, hbytes⟩ := Frame.new_eq_ok.mp hframe
  have hwire : payload = video.wire := (Except.ok.inj (video.encode_eq.symm.trans hpayload)).symm
  exact ⟨video, hkind, hbytes.trans hwire, hencoded, hflags⟩

theorem isKeyframe_ofFrame {frame : Frame} {keyframe : Bool}
    (h : frame.header.flags = if keyframe then FrameFlags.keyframe else FrameFlags.none) :
    (Android.FrameCodec.ofFrame frame).isKeyframe = keyframe := by
  show (Android.widenBits Android.mask111 frame.header.flags).contains Android.FrameFlags.keyframe = keyframe
  rw [h]
  cases keyframe <;> decide

/-- A unit that was sent in range is a frame of a stream for the gate. -/
theorem streamFrame_of_sent {encoded : EncodedAccessUnit} {sent : SentAccessUnit} {frame : Frame}
    (hconverted : Converted encoded sent.unit) (hstamped : VideoLoop.Stamped sent)
    (hclock : sent.clock.nanos / 1000 + 2 ^ 32 < 2 ^ 63) (hframe : sent.frame = some frame)
    {inspection : H264AnnexBInspection}
    (hparsed : Android.H264AnnexB.inspect (signed encoded.bytes) = .ok inspection)
    (hvcl : inspection.containsVcl = true)
    (hsets : inspection.sequenceParameterSet.isSome = encoded.keyframe ∧
      inspection.pictureParameterSet.isSome = encoded.keyframe) :
    ∃ payload, StreamFrame (Android.FrameCodec.ofFrame frame) payload inspection ∧
      payload.accessUnit = signed encoded.bytes ∧
      (Android.FrameCodec.ofFrame frame).isKeyframe = encoded.keyframe := by
  have hmade : h264Frame sent.unit sent.offset sent.sequence = .ok frame := toOption_eq_some.mp hframe
  obtain ⟨video, hkind, hpayload, hbytes, hflags⟩ := h264Frame_content hmade
  obtain ⟨timed, -, -, hwire, -, -, hpresentation, hshort⟩ := Host.h264Frame_ok hmade
  have hsame : timed = video := by
    have htimed := VideoFrame.decode_eq_ok.mpr hwire.symm
    rw [VideoFrame.decode_eq_ok.mpr hpayload.symm] at htimed
    exact (Except.ok.inj htimed).symm
  have hkey : (Android.FrameCodec.ofFrame frame).isKeyframe = encoded.keyframe :=
    (isKeyframe_ofFrame hflags).trans hconverted.keyframe
  have hunit : signed video.encodedBytes = signed encoded.bytes := by
    rw [hbytes, hconverted.bytes]
  refine ⟨VideoFramePayload.ofVideoFrame video, ⟨hkind, ?_, ?_, hvcl, ?_, ?_⟩, hunit, hkey⟩
  · exact VideoFramePayload.decode_signed.mpr hpayload.symm
  · exact (congrArg Android.H264AnnexB.inspect hunit).trans hparsed
  · rw [hkey]
    exact hsets
  · have hdue := hstamped.due
    have htime : (VideoFramePayload.ofVideoFrame video).metadata.presentationTimestampMicros =
        timed.metadata.presentationTimestampMicros := by
      rw [hsame]
      rfl
    rw [htime, hpresentation]
    exact Nat.lt_of_le_of_lt (Nat.min_le_left _ _) (by omega)

end Frames

namespace VideoPath

/-- What holds of the threads and the transport together. -/
structure Inv (s : VideoPath) : Prop where
  encoder : s.encoder.Inv
  video : s.loop.Inv
  clock : ∀ sent ∈ s.loop.sent, sent.clock.nanos / 1000 + 2 ^ 32 < 2 ^ 63
  source : ∃ source, source <+: s.encoder.returned.flatMap (·.2) ∧
    (s.stopped = false → source = s.encoder.returned.flatMap (·.2)) ∧
    List.Forall₂ Converted source s.delivered
  gate : s.gate = .ofFrames ((s.loop.wireFrames.take s.gate.offers.length).map Android.FrameCodec.ofFrame)

theorem inv_start (asynchronous : Bool) (shared : SharedState) (nextSequence : UInt64) :
    Inv (start asynchronous shared nextSequence) where
  encoder := HardwareEncoder.inv_start asynchronous
  video := VideoLoop.inv_start shared nextSequence
  clock := nofun
  source := ⟨[], List.nil_prefix, fun _ => rfl, .nil⟩
  gate := rfl

variable {encoderName : String} {s t : VideoPath}

theorem Inv.offers_le (h : Inv s) : s.gate.offers.length ≤ s.loop.wireFrames.length := by
  have hlength := congrArg (·.offers.map (·.1) |>.length) h.gate
  simp only [GateHistory.ofFrames_offers, List.length_map, List.length_take] at hlength
  omega

/-- The session loop sends behind what it has sent. -/
theorem Inv.gate_of_sent (h : Inv s) {loop : VideoLoop} {sent : List SentAccessUnit}
    (hsent : loop.sent = s.loop.sent ++ sent) :
    s.gate = .ofFrames ((loop.wireFrames.take s.gate.offers.length).map Android.FrameCodec.ofFrame) := by
  have htake : loop.wireFrames.take s.gate.offers.length = s.loop.wireFrames.take s.gate.offers.length := by
    rw [VideoLoop.wireFrames, hsent, List.filterMap_append]
    exact List.take_append_of_le_length h.offers_le
  rw [htake]
  exact h.gate

/-- What the capture thread hands over are the units of the call that returned. -/
theorem handOver_units {close : Except String Unit} {before after : HardwareEncoder} {turn : EncoderTurn}
    (hstep : before.step turn = some after) :
    ∃ units, List.Forall₂ Converted units ((handOver encoderName close before after).toList.flatMap unitsOf) ∧
      before.returned.flatMap (·.2) ++ units <+: after.returned.flatMap (·.2) ∧
      (isError (handOver encoderName close before after) = false →
        before.returned.flatMap (·.2) ++ units = after.returned.flatMap (·.2)) := by
  rcases Host.HardwareEncoder.step_returned hstep with hsame | ⟨hidle, result, hreturned⟩
  · -- No call has returned: there is nothing to hand over but an error.
    have hnone : (handOver encoderName close before after).toList.flatMap unitsOf = [] := by
      rw [handOver]
      split
      · rfl
      · rw [if_pos (by rw [hsame])]
        rfl
      · rfl
    refine ⟨[], by rw [hnone]; exact .nil, ?_, ?_⟩
    · rw [hsame, List.append_nil]
    · intro _
      rw [hsame, List.append_nil]
  · have hlast : (after.returned.getLast?.map (·.2)).getD [] = result.2 := by
      rw [hreturned, List.getLast?_concat]
      rfl
    have hlength : ¬after.returned.length = before.returned.length := by
      rw [hreturned, List.length_append, List.length_singleton]
      omega
    have hflat : before.returned.flatMap (·.2) ++ result.2 = after.returned.flatMap (·.2) := by
      rw [hreturned, List.flatMap_append, List.flatMap_singleton]
    have hhand : handOver encoderName close before after = encoded encoderName close result.2 := by
      rw [handOver, hidle]
      simp only [if_neg hlength, hlast]
    rw [hhand]
    cases close with
    | error error =>
      refine ⟨[], .nil, ?_, nofun⟩
      rw [List.append_nil, ← hflat]
      exact List.prefix_append _ _
    | ok _ =>
      simp only [encoded]
      split
      · rename_i hempty
        rw [List.isEmpty_iff.mp hempty, List.append_nil] at hflat
        refine ⟨[], .nil, ?_, ?_⟩
        · rw [List.append_nil, hflat]
        · intro _
          rw [List.append_nil, hflat]
      · cases hconvert : convertH264AccessUnits encoderName result.2 with
        | error error =>
          refine ⟨[], .nil, ?_, nofun⟩
          rw [List.append_nil, ← hflat]
          exact List.prefix_append _ _
        | ok batch =>
          refine ⟨result.2, ?_, ?_, fun _ => hflat⟩
          · simpa [unitsOf] using convertH264AccessUnits_ok hconvert
          · rw [hflat]

theorem Inv.encode (h : Inv s) {turn : EncoderTurn} {close : Except String Unit}
    (hstep : s.step encoderName (.encode turn close) = some t) : Inv t := by
  simp only [step] at hstep
  split at hstep
  · cases hstep
  · rename_i hfree
    simp only [Bool.or_eq_true, not_or, Bool.not_eq_true, Option.isSome_eq_false_iff,
      Option.isNone_iff_eq_none] at hfree
    obtain ⟨encoder, hencoder, rfl⟩ := Option.map_eq_some_iff.mp hstep
    obtain ⟨source, -, hwhole, haligned⟩ := h.source
    obtain ⟨units, hunits, hprefix, hall⟩ := @handOver_units encoderName close _ _ _ hencoder
    have hsource := hwhole hfree.1
    refine ⟨HardwareEncoder.inv_step h.encoder hencoder, h.video, h.clock, ⟨source ++ units, ?_, ?_, ?_⟩, h.gate⟩
    · rw [hsource]
      exact hprefix
    · intro hrunning
      rw [hsource]
      exact hall hrunning
    · have hdelivered : s.delivered = s.loop.arrived ++ s.channel.flatMap unitsOf := by
        simp [delivered, hfree.2]
      rw [delivered, ← List.append_assoc, ← hdelivered]
      exact List.rel_append haligned hunits

theorem Inv.step (h : Inv s) {step : PathStep} (hclock : step.ClockInRange)
    (hstep : s.step encoderName step = some t) : Inv t := by
  cases step with
  | encode turn close => exact h.encode hstep
  | forward =>
    simp only [VideoPath.step] at hstep
    split at hstep
    · cases hstep
    · rename_i result houtbox
      split at hstep
      · cases hstep
        refine ⟨h.encoder, h.video, h.clock, ?_, h.gate⟩
        obtain ⟨source, hprefix, hwhole, haligned⟩ := h.source
        refine ⟨source, hprefix, hwhole, ?_⟩
        simpa [delivered, houtbox] using haligned
      · cases hstep
  | receive now =>
    simp only [VideoPath.step] at hstep
    split at hstep
    · rename_i batch channel hchannel
      obtain ⟨loop, hloop, rfl⟩ := Option.map_eq_some_iff.mp hstep
      obtain ⟨-, next, name, -, hbatch⟩ := VideoLoop.step_batch hloop
      have hsent : loop.sent = s.loop.sent := by rw [hbatch]
      have harrived : loop.arrived = s.loop.arrived ++ batch.accessUnits := by rw [hbatch]
      refine ⟨h.encoder, @VideoLoop.inv_step _ _ (.batch _ _ _) h.video trivial hloop, ?_, ?_, ?_⟩
      · rw [hsent]
        exact h.clock
      · obtain ⟨source, hprefix, hwhole, haligned⟩ := h.source
        refine ⟨source, hprefix, hwhole, ?_⟩
        simpa [delivered, hchannel, harrived, unitsOf] using haligned
      · exact h.gate_of_sent (hsent.trans (List.append_nil _).symm)
    · cases hstep
    · cases hstep
  | send clock trySend =>
    obtain ⟨loop, hloop, rfl⟩ := Option.map_eq_some_iff.mp hstep
    have hrange : clock.nanos / 1000 < 2 ^ 63 := Nat.lt_of_le_of_lt (Nat.le_add_right _ _) hclock
    have hinv := @VideoLoop.inv_step _ _ (.send clock trySend) h.video hrange hloop
    rcases VideoLoop.step_send hloop with rfl | ⟨unit, rest, offset, shared, nextSequence, frame, -, -, -, -, hsent⟩
    · exact ⟨h.encoder, hinv, h.clock, h.source, h.gate⟩
    · refine ⟨h.encoder, hinv, ?_, ?_, ?_⟩
      · intro sent hmem
        simp only [hsent] at hmem
        rcases List.mem_append.mp hmem with hold | hnew
        · exact h.clock sent hold
        · rw [List.mem_singleton.mp hnew]
          exact hclock
      · simpa [delivered, hsent] using h.source
      · exact h.gate_of_sent (by rw [hsent])
  | control shared nextSequence =>
    have hinv := @VideoLoop.inv_step s.loop _ (.control shared nextSequence) h.video trivial rfl
    cases hstep
    exact ⟨h.encoder, hinv, h.clock, h.source, h.gate⟩
  | offer =>
    simp only [VideoPath.step] at hstep
    split at hstep
    · cases hstep
    · rename_i frame hframe
      rw [arriving_eq, Option.map_some, Option.some.injEq] at hstep
      rw [← hstep]
      refine ⟨h.encoder, h.video, h.clock, h.source, ?_⟩
      obtain ⟨hlt, hget⟩ := List.getElem?_eq_some_iff.mp hframe
      have hlength : (s.gate.call (.offer (Android.FrameCodec.ofFrame frame))).offers.length =
          s.gate.offers.length + 1 := by
        rw [GateHistory.call, List.length_append, List.length_singleton]
      simp only [hlength]
      rw [List.take_succ_eq_append_getElem hlt, List.map_append, List.map_singleton, hget,
        GateHistory.ofFrames_concat, ← h.gate]

theorem inv_run {asynchronous : Bool} {shared : SharedState} {nextSequence : UInt64} {steps : List PathStep}
    (hrange : ∀ step ∈ steps, step.ClockInRange)
    (hrun : (machine encoderName).run (start asynchronous shared nextSequence) steps = some s) : Inv s := by
  have hadmits := (machine encoderName).admits_of_mem (fun step hstep _ => hrange step hstep)
    (start asynchronous shared nextSequence)
  apply (machine encoderName).run_invariant_of_admits _ Inv ?_ (inv_start asynchronous shared nextSequence)
    hadmits hrun
  intro before step after hbefore hguard hstep
  exact hbefore.step hguard hstep

section Pictures

/-- Prefixes of what is delivered come from the first units that the encoder gave. -/
theorem Inv.taken_aligned (h : Inv s) {start : List H264AccessUnit} (hstart : start <+: s.delivered) :
    List.Forall₂ Converted (s.encoder.taken.take start.length) start := by
  obtain ⟨source, hsource, -, haligned⟩ := h.source
  have hprefix := aligned_prefix haligned hstart
  obtain ⟨rest, hrest⟩ := hsource.trans h.encoder.returned
  have hlength : start.length ≤ source.length := by
    rw [haligned.length_eq]
    exact hstart.length_le
  rwa [← hrest, List.take_append_of_le_length hlength]

theorem Inv.sent_prefix (h : Inv s) : s.loop.sent.map (·.unit) <+: s.delivered := by
  rw [delivered, h.video.arrived, List.append_assoc]
  exact List.prefix_append _ _

theorem Inv.wireFrames_aligned (h : Inv s) :
    List.Forall₂ (fun sent frame => (VideoLoop.Stamped sent ∧ sent.clock.nanos / 1000 + 2 ^ 32 < 2 ^ 63) ∧
      SentAccessUnit.frame sent = some frame) s.loop.sent s.loop.wireFrames := by
  rw [List.forall₂_and_left]
  refine ⟨fun sent hsent => ⟨h.video.stamped sent hsent, h.clock sent hsent⟩, aligned_filterMap ?_⟩
  intro sent hsent
  obtain ⟨frame, metadata, hontime⟩ := VideoLoop.exists_onTime (h.video.stamped sent hsent)
  exact ⟨frame, hontime.frame_eq⟩

/-- The frame of the stream for a unit of the encoder. -/
def FrameOf (unit : EncodedAccessUnit) (frame : Frame) : Prop :=
  ∃ payload inspection, StreamFrame (Android.FrameCodec.ofFrame frame) payload inspection ∧
    payload.accessUnit = signed unit.bytes ∧ (Android.FrameCodec.ofFrame frame).isKeyframe = unit.keyframe

theorem Inv.frames_aligned (h : Inv s) (hstream : EncoderStream s.encoder.taken) :
    List.Forall₂ FrameOf (s.encoder.taken.take s.gate.offers.length)
      (s.loop.wireFrames.take s.gate.offers.length) := by
  have hwire := h.wireFrames_aligned
  have hsent := h.taken_aligned h.sent_prefix
  rw [List.forall₂_map_right_iff, List.length_map] at hsent
  have hparsed := (List.forall₂_and_left _ _).mpr ⟨fun unit hunit => hstream.parsed unit (List.mem_of_mem_take hunit), hsent⟩
  have hboth := List.forall₂_take s.gate.offers.length (aligned_comp hparsed hwire)
  have hle := h.offers_le
  rw [← hwire.length_eq] at hle
  rw [List.take_take, Nat.min_eq_left hle] at hboth
  refine hboth.imp ?_
  rintro unit frame ⟨sent, ⟨⟨inspection, hinspection, hvcl, hsets⟩, hconverted⟩, ⟨hstamped, hclock⟩, hframe⟩
  obtain ⟨payload, hpayload⟩ :=
    streamFrame_of_sent hconverted hstamped hclock hframe hinspection hvcl hsets
  exact ⟨payload, inspection, hpayload⟩

theorem eq_ofNanos {duration : Duration} {nanos : Nat} (h : duration.nanos = nanos) :
    duration = .ofNanos nanos := by
  obtain ⟨value, hle⟩ := duration
  subst h
  congr 1
  exact (Nat.min_eq_left hle).symm

theorem Inv.regularlyStamped (h : Inv s) (hstream : EncoderStream s.encoder.taken) :
    VideoLoop.RegularlyStamped s.loop.arrived := by
  have harrived : s.loop.arrived <+: s.delivered := List.prefix_append _ _
  have haligned := h.taken_aligned harrived
  constructor
  · apply pairwise_aligned haligned ?_ (hstream.increasing.sublist (List.take_sublist _ _))
    intro first firstUnit second secondUnit hfirst hsecond hincreasing
    obtain ⟨ticks, hticks, hnanos, hnonneg⟩ := hfirst.timestamp
    obtain ⟨later, hlater, hnanos', -⟩ := hsecond.timestamp
    have hgap := hincreasing ticks later hticks hlater
    omega
  · obtain ⟨ticks, hduration⟩ := hstream.duration
    refine ⟨.ofNanos (ticks.toInt.toNat * 100), ?_⟩
    intro unit hunit
    obtain ⟨encoded, hencoded, hconverted⟩ := exists_aligned haligned hunit
    obtain ⟨length, hlength, hnanos⟩ := hconverted.duration
    rw [hduration encoded (List.mem_of_mem_take hencoded) length hlength] at hnanos
    exact eq_ofNanos hnanos

theorem arriving_map (frames : List Frame) :
    frames.filterMap arriving = frames.map Android.FrameCodec.ofFrame := by
  rw [show arriving = some ∘ Android.FrameCodec.ofFrame from funext arriving_eq, List.filterMap_eq_map]

theorem Inv.frames_increase (h : Inv s) (hstream : EncoderStream s.encoder.taken) :
    ((s.loop.wireFrames.take s.gate.offers.length).map Android.FrameCodec.ofFrame).Pairwise
      LdflFrame.PresentedBefore := by
  rw [← arriving_map]
  apply arriving_increase
  · intro frame hframe
    obtain ⟨sent, hsent, hmade⟩ := List.mem_filterMap.mp (List.mem_of_mem_take hframe)
    obtain ⟨wire, metadata, hontime⟩ := VideoLoop.exists_onTime (h.video.stamped sent hsent)
    have hsame : frame = wire := Option.some.inj (hmade.symm.trans hontime.frame_eq)
    exact ⟨metadata, hsame ▸ hontime.metadata_eq⟩
  · exact (VideoLoop.wireFrames_increase h.video (h.regularlyStamped hstream)).sublist (List.take_sublist _ _)

end Pictures

end VideoPath

/-- A keyframe with its parameter sets. -/
def keyUnit : Bytes := [0, 0, 0, 1, 0x67, 1, 0, 0, 0, 1, 0x68, 1, 0, 0, 0, 1, 0x65, 1]

def firstPicture : List PathStep :=
  [.encode (.encodeTexture (.ok ()) 5) (.ok ()), .encode (.pump false .needInput) (.ok ()),
    .encode (.processInput (.ok ())) (.ok ()),
    .encode (.pump false (.haveOutput
      ⟨.ok true, .ok (), .sample (some ⟨.ok keyUnit, some 1, some 5, some 166670⟩)⟩)) (.ok ()),
    .forward, .receive (.fromMillis 1000), .send (.fromMillis 1000) fun _ => .ok (), .offer]

end LadoFlow.System
