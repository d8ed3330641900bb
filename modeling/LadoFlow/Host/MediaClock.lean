import LadoFlow.Host.SharedState

/-!
# The media clock of the host

Access units of the encoder are sent when the clock of the session reaches them. The offset between
the two clocks is taken from the first batch and moved when a batch starts with a late keyframe.
-/

namespace LadoFlow.Host

open LadoFlow.Protocol LadoFlow.Core LadoFlow.Media LadoFlow.Transport Framework

/-- `Duration::checked_mul` -/
def checkedMul (duration : Duration) (factor : Nat) : Option Duration :=
  if h : duration.nanos * factor ≤ Duration.maxNanos then some ⟨duration.nanos * factor, h⟩
  else none

def alignMediaClock (accessUnits : List H264AccessUnit) (now : Duration)
    (offset : Option Duration) : Except HostError Duration :=
  match accessUnits with
  | [] => .error (.text "Windows H.264 batch is unexpectedly empty")
  | first :: _ =>
  let currentOffset := offset.getD (now.saturatingSub first.timestamp)
  match checkedAdd currentOffset first.timestamp with
  | none => .error (.text "H.264 media clock overflowed")
  | some scheduled =>
  match checkedMul first.duration 2 with
  | none => .error (.text "H.264 frame duration overflowed")
  | some lateThreshold =>
    if first.keyframe ∧ (now.saturatingSub scheduled).nanos > lateThreshold.nanos then
      .ok (now.saturatingSub first.timestamp)
    else .ok currentOffset

/-- An access unit that was sent, with the clock, the offset and the sequence of its frame. -/
structure SentAccessUnit where
  clock : Duration
  offset : Duration
  unit : H264AccessUnit
  sequence : UInt64

def SentAccessUnit.frame (sent : SentAccessUnit) : Option Frame :=
  (h264Frame sent.unit sent.offset sent.sequence).toOption

/-- The video part of the session loop, with the units of all batches and those sent so far. -/
structure VideoLoop where
  shared : SharedState
  accessUnits : List H264AccessUnit
  mediaClockOffset : Option Duration
  encoderName : Option String
  nextSequence : UInt64
  arrived : List H264AccessUnit
  sent : List SentAccessUnit

/-- A batch of the capture stream, a look at the clock for the next unit, or the control packets in
between, which take sequences of the same counter. -/
inductive VideoTurn where
  | batch (encoderName : String) (accessUnits : List H264AccessUnit) (now : Duration)
  | send (clock : Duration) (trySend : Packet → Except HostError Unit)
  | control (shared : SharedState) (nextSequence : UInt64)

namespace VideoTurn

def units : VideoTurn → List H264AccessUnit
  | batch _ accessUnits _ => accessUnits
  | _ => []

/-- The microseconds of the clock stay in the range of `i64`. -/
def ClockInRange : VideoTurn → Prop
  | send clock _ => clock.nanos / 1000 < 2 ^ 63
  | _ => True

instance : DecidablePred ClockInRange := by
  intro turn
  unfold ClockInRange
  split <;> infer_instance

end VideoTurn

namespace VideoLoop

def start (shared : SharedState) (nextSequence : UInt64) : VideoLoop :=
  ⟨shared, [], none, none, nextSequence, [], []⟩

section Steps

variable (s : VideoLoop)

def nextBatch (encoderName : String) (accessUnits : List H264AccessUnit) (now : Duration) :
    Except HostError VideoLoop :=
  if s.encoderName.any (· ≠ encoderName) then
    .error (.text ("Windows H.264 encoder changed from " ++ s.encoderName.getD "unknown" ++ " to " ++
      encoderName ++ " during one session"))
  else do
  let queued := s.accessUnits ++ accessUnits
  let mediaClockOffset ← alignMediaClock queued now s.mediaClockOffset
  .ok
    { s with
      accessUnits := queued
      mediaClockOffset := some mediaClockOffset
      encoderName := s.encoderName.or (some encoderName)
      arrived := s.arrived ++ accessUnits }

def sendDue (clock : Duration) (trySend : Packet → Except HostError Unit) :
    Except HostError VideoLoop :=
  match s.accessUnits, s.mediaClockOffset with
  | unit :: accessUnits, some offset =>
    match checkedAdd offset unit.timestamp with
    | none => .error (.text "H.264 media clock overflowed")
    | some due =>
      if due.nanos ≤ clock.nanos then do
        let (shared, nextSequence) ←
          sendUsbH264AccessUnit trySend s.shared unit offset s.nextSequence
        .ok
          { s with
            shared
            accessUnits
            nextSequence
            sent := s.sent ++ [⟨clock, offset, unit, s.nextSequence⟩] }
      else .ok s
  | _, _ => .ok s

/-- A batch is taken when the queue is empty; an error ends the session. -/
def step : VideoTurn → Option VideoLoop
  | .batch encoderName accessUnits now =>
    if s.accessUnits.isEmpty then (s.nextBatch encoderName accessUnits now).toOption else none
  | .send clock trySend => (s.sendDue clock trySend).toOption
  | .control shared nextSequence => some { s with shared, nextSequence }

end Steps

def machine : Machine VideoLoop VideoTurn := ⟨step⟩

end VideoLoop

theorem checkedAdd_eq_some {a b sum : Duration} (h : checkedAdd a b = some sum) :
    sum.nanos = a.nanos + b.nanos := by
  rw [checkedAdd] at h
  split at h
  · cases h
    rfl
  · cases h

theorem checkedMul_eq_some {duration product : Duration} {factor : Nat}
    (h : checkedMul duration factor = some product) : product.nanos = duration.nanos * factor := by
  rw [checkedMul] at h
  split at h
  · cases h
    rfl
  · cases h

/-- The first unit is a keyframe that is more than two durations behind the offset. -/
def LateKeyframe (first : H264AccessUnit) (now offset : Duration) : Prop :=
  first.keyframe = true ∧
    offset.nanos + first.timestamp.nanos + 2 * first.duration.nanos < now.nanos

theorem alignMediaClock_ok {accessUnits : List H264AccessUnit} {now next : Duration}
    {offset : Option Duration} (h : alignMediaClock accessUnits now offset = .ok next) :
    ∃ first rest, accessUnits = first :: rest ∧
      (next = offset.getD (now.saturatingSub first.timestamp) ∨
        LateKeyframe first now (offset.getD (now.saturatingSub first.timestamp)) ∧
          next.nanos = now.nanos - first.timestamp.nanos) := by
  cases accessUnits with
  | nil => cases h
  | cons first rest =>
    refine ⟨first, rest, rfl, ?_⟩
    simp only [alignMediaClock] at h
    generalize offset.getD (now.saturatingSub first.timestamp) = current at h ⊢
    split at h
    · cases h
    rename_i scheduled hscheduled
    split at h
    · cases h
    rename_i threshold hthreshold
    have hdue := checkedAdd_eq_some hscheduled
    have hlate := checkedMul_eq_some hthreshold
    by_cases hrealign : first.keyframe ∧
        (now.saturatingSub scheduled).nanos > threshold.nanos
    · rw [if_pos hrealign] at h
      cases h
      have hsub : (now.saturatingSub scheduled).nanos = now.nanos - scheduled.nanos := rfl
      have hbehind := hrealign.2
      refine .inr ⟨⟨hrealign.1, ?_⟩, rfl⟩
      omega
    · rw [if_neg hrealign] at h
      cases h
      exact .inl rfl

/-- The clock moves forward only, and only for a late keyframe. -/
theorem alignMediaClock_le {accessUnits : List H264AccessUnit} {now offset next : Duration}
    (h : alignMediaClock accessUnits now (some offset) = .ok next) :
    offset.nanos ≤ next.nanos ∧
      (next ≠ offset → ∃ first rest, accessUnits = first :: rest ∧ LateKeyframe first now offset) := by
  obtain ⟨first, rest, hunits, hnext⟩ := alignMediaClock_ok h
  rw [Option.getD_some] at hnext
  rcases hnext with rfl | ⟨hlate, hnext⟩
  · exact ⟨Nat.le_refl _, fun hne => absurd rfl hne⟩
  · have hbehind := hlate.2
    exact ⟨by omega, fun _ => ⟨first, rest, hunits, hlate⟩⟩

/-- The typed metadata of a video frame. -/
def videoMetadata (frame : Frame) : Option VideoFrameMetadata :=
  (frame.decodePayload VideoFrame).toOption.map (·.metadata)

theorem toNat_durationMicrosU64 (duration : Duration) :
    (durationMicrosU64 duration).toNat = min (duration.nanos / 1000) u64Max := by
  have hle : min (duration.nanos / 1000) u64Max < 2 ^ 64 := by
    rw [u64Max]
    omega
  exact UInt64.toNat_ofNat_of_lt' hle

/-- The frame of an access unit carries its shifted times in microseconds. -/
theorem h264Frame_ok {unit : H264AccessUnit} {offset : Duration} {sequence : UInt64} {frame : Frame}
    (h : h264Frame unit offset sequence = .ok frame) :
    ∃ video : VideoFrame, frame.header.kind = .videoFrame ∧ frame.header.sequence = sequence ∧
      frame.payload = video.wire ∧ video.metadata.frameId = sequence ∧
      video.metadata.captureTimestampMicros.toNat =
        min ((offset.nanos + unit.timestamp.nanos) / 1000) u64Max ∧
      video.metadata.presentationTimestampMicros.toNat =
        min ((offset.nanos + unit.timestamp.nanos + unit.duration.nanos) / 1000) u64Max ∧
      unit.duration.nanos / 1000 < 2 ^ 32 := by
  rw [h264Frame] at h
  split at h
  · cases h
  rename_i captureTime hcapture
  split at h
  · cases h
  rename_i presentationTime hpresentation
  obtain ⟨duration, hduration, h⟩ := bind_eq_ok.mp h
  obtain ⟨metadata, hmetadata, h⟩ := bind_eq_ok.mp h
  obtain ⟨video, hvideo, h⟩ := bind_eq_ok.mp h
  obtain ⟨payload, hpayload, hframe⟩ := bind_eq_ok.mp (liftProtocol_eq_ok.mp h)
  obtain ⟨hid, hcaptured, hpresented, -⟩ :=
    VideoFrameMetadata.new_eq_ok.mp (liftProtocol_eq_ok.mp hmetadata)
  obtain ⟨hsame, -⟩ := VideoFrame.new_eq_ok.mp (liftProtocol_eq_ok.mp hvideo)
  obtain ⟨hkind, -, hsequence, hbytes⟩ := Frame.new_eq_ok.mp hframe
  have hwire : payload = video.wire := (Except.ok.inj (video.encode_eq.symm.trans hpayload)).symm
  have hshort : unit.duration.nanos / 1000 < 2 ^ 32 := by
    rw [durationMicrosU32] at hduration
    split at hduration
    · assumption
    · cases hduration
  have hcaptureTime := checkedAdd_eq_some hcapture
  have hpresentationTime := checkedAdd_eq_some hpresentation
  refine ⟨video, hkind, hsequence, hbytes.trans hwire, ?_, ?_, ?_, hshort⟩
  · rw [hsame, hid]
  · rw [hsame, hcaptured, toNat_durationMicrosU64, hcaptureTime]
  · rw [hsame, hpresented, toNat_durationMicrosU64, hpresentationTime, hcaptureTime]

theorem videoMetadata_of_wire {frame : Frame} {video : VideoFrame}
    (hkind : frame.header.kind = .videoFrame) (hpayload : frame.payload = video.wire) :
    videoMetadata frame = some video.metadata := by
  have hdecode : frame.decodePayload VideoFrame = .ok video := by
    have hsame : frame.header.kind = WirePayload.kind VideoFrame := hkind
    rw [Frame.decodePayload, if_neg (not_not.mpr hsame)]
    exact VideoFrame.decode_eq_ok.mpr hpayload.symm
  rw [videoMetadata, hdecode]
  rfl

namespace VideoLoop

variable {s t : VideoLoop} {turn : VideoTurn}

/-- What a batch does. -/
theorem step_batch {encoderName : String} {accessUnits : List H264AccessUnit} {now : Duration}
    (h : s.step (.batch encoderName accessUnits now) = some t) :
    s.accessUnits = [] ∧ ∃ next name,
      alignMediaClock accessUnits now s.mediaClockOffset = .ok next ∧
      t = { s with
        accessUnits
        mediaClockOffset := some next
        encoderName := name
        arrived := s.arrived ++ accessUnits } := by
  simp only [step] at h
  split at h
  · rename_i hempty
    have hnil := List.isEmpty_iff.mp hempty
    have hbatch := toOption_eq_some.mp h
    rw [nextBatch] at hbatch
    split at hbatch
    · cases hbatch
    · obtain ⟨next, hnext, hbatch⟩ := bind_eq_ok.mp hbatch
      cases hbatch
      rw [hnil] at hnext ⊢
      exact ⟨rfl, next, _, hnext, rfl⟩
  · cases h

/-- Sending takes the first unit once it is due, or nothing happens. -/
theorem step_send {clock : Duration} {trySend : Packet → Except HostError Unit}
    (h : s.step (.send clock trySend) = some t) :
    t = s ∨ ∃ unit rest offset shared nextSequence frame, s.accessUnits = unit :: rest ∧
      s.mediaClockOffset = some offset ∧
      h264Frame unit offset s.nextSequence = .ok frame ∧
      offset.nanos + unit.timestamp.nanos ≤ clock.nanos ∧
      t = { s with
        shared
        accessUnits := rest
        nextSequence
        sent := s.sent ++ [⟨clock, offset, unit, s.nextSequence⟩] } := by
  have hsend := toOption_eq_some.mp h
  rw [sendDue] at hsend
  split at hsend
  · rename_i unit rest offset hunits hoffset
    split at hsend
    · cases hsend
    rename_i due hdue
    by_cases hreached : due.nanos ≤ clock.nanos
    · rw [if_pos hreached] at hsend
      obtain ⟨⟨shared, nextSequence⟩, hunit, hsend⟩ := bind_eq_ok.mp hsend
      obtain ⟨frame, hframe, -⟩ := bind_eq_ok.mp hunit
      cases hsend
      refine .inr ⟨unit, rest, offset, shared, nextSequence, frame, hunits, hoffset, hframe, ?_, rfl⟩
      rw [← checkedAdd_eq_some hdue]
      exact hreached
    · rw [if_neg hreached] at hsend
      cases hsend
      exact .inl rfl
  · cases hsend
    exact .inl rfl

/-- One turn moves the offset forward only, and only for a batch that starts with a late keyframe. -/
theorem step_offset (hstep : s.step turn = some t) {offset : Duration}
    (hoffset : s.mediaClockOffset = some offset) :
    ∃ next, t.mediaClockOffset = some next ∧ offset.nanos ≤ next.nanos ∧
      (next ≠ offset → ∃ encoderName first rest now,
        turn = .batch encoderName (first :: rest) now ∧ LateKeyframe first now offset) := by
  cases turn with
  | batch encoderName accessUnits now =>
    obtain ⟨-, next, name, halign, rfl⟩ := step_batch hstep
    rw [hoffset] at halign
    obtain ⟨hle, hmoved⟩ := alignMediaClock_le halign
    refine ⟨next, rfl, hle, ?_⟩
    intro hne
    obtain ⟨first, rest, rfl, hlate⟩ := hmoved hne
    exact ⟨encoderName, first, rest, now, rfl, hlate⟩
  | send clock trySend =>
    have hsame : t.mediaClockOffset = s.mediaClockOffset := by
      rcases step_send hstep with rfl | ⟨_, _, _, _, _, _, -, -, -, -, rfl⟩
      · rfl
      · rfl
    exact ⟨offset, hsame.trans hoffset, Nat.le_refl _, fun hne => absurd rfl hne⟩
  | control shared nextSequence =>
    cases hstep
    exact ⟨offset, hoffset, Nat.le_refl _, fun hne => absurd rfl hne⟩

/-- The unit was due, its frame was made, and the clock was in range. -/
structure Stamped (sent : SentAccessUnit) : Prop where
  frame : ∃ frame, h264Frame sent.unit sent.offset sent.sequence = .ok frame
  due : sent.offset.nanos + sent.unit.timestamp.nanos ≤ sent.clock.nanos
  clock : sent.clock.nanos / 1000 < 2 ^ 63

/-- The units leave in their order, under offsets that never decrease. -/
structure Inv (s : VideoLoop) : Prop where
  arrived : s.arrived = s.sent.map (·.unit) ++ s.accessUnits
  stamped : ∀ sent ∈ s.sent, Stamped sent
  offsets : s.sent.Pairwise (·.offset.nanos ≤ ·.offset.nanos)
  current : ∀ sent ∈ s.sent, ∃ offset, s.mediaClockOffset = some offset ∧
    sent.offset.nanos ≤ offset.nanos

theorem inv_start (shared : SharedState) (nextSequence : UInt64) :
    Inv (start shared nextSequence) :=
  ⟨rfl, List.forall_mem_nil _, .nil, List.forall_mem_nil _⟩

theorem inv_step (h : s.Inv) (hrange : turn.ClockInRange) (hstep : s.step turn = some t) :
    t.Inv := by
  have hcurrent : ∀ sent ∈ s.sent, ∃ offset, t.mediaClockOffset = some offset ∧
      sent.offset.nanos ≤ offset.nanos := by
    intro sent hsent
    obtain ⟨offset, hoffset, hle⟩ := h.current sent hsent
    obtain ⟨next, hnext, hmoved, -⟩ := step_offset hstep hoffset
    exact ⟨next, hnext, Nat.le_trans hle hmoved⟩
  cases turn with
  | batch encoderName accessUnits now =>
    obtain ⟨hempty, next, name, -, rfl⟩ := step_batch hstep
    refine ⟨?_, h.stamped, h.offsets, hcurrent⟩
    have harrived := h.arrived
    rw [hempty, List.append_nil] at harrived
    exact congrArg (· ++ accessUnits) harrived
  | send clock trySend =>
    rcases step_send hstep with rfl |
      ⟨unit, rest, offset, shared, nextSequence, frame, hunits, hoffset, hframe, hdue, rfl⟩
    · exact h
    · have hold : ∀ sent ∈ s.sent, sent.offset.nanos ≤ offset.nanos := by
        intro sent hsent
        obtain ⟨current, hsome, hle⟩ := h.current sent hsent
        rw [hoffset] at hsome
        cases hsome
        exact hle
      constructor
      · rw [h.arrived, hunits]
        simp
      · intro sent hsent
        rcases List.mem_append.mp hsent with hsent | hsent
        · exact h.stamped sent hsent
        · rw [List.mem_singleton.mp hsent]
          exact ⟨⟨frame, hframe⟩, hdue, hrange⟩
      · apply List.pairwise_append.mpr
        refine ⟨h.offsets, List.pairwise_singleton _ _, ?_⟩
        intro sent hsent last hlast
        rw [List.mem_singleton.mp hlast]
        exact hold sent hsent
      · intro sent hsent
        rcases List.mem_append.mp hsent with hsent | hsent
        · exact hcurrent sent hsent
        · rw [List.mem_singleton.mp hsent]
          exact ⟨offset, hoffset, Nat.le_refl _⟩
  | control shared nextSequence =>
    cases hstep
    exact ⟨h.arrived, h.stamped, h.offsets, h.current⟩

theorem step_arrived (hstep : s.step turn = some t) : t.arrived = s.arrived ++ turn.units := by
  cases turn with
  | batch encoderName accessUnits now =>
    obtain ⟨-, next, name, -, rfl⟩ := step_batch hstep
    rfl
  | send clock trySend =>
    rcases step_send hstep with rfl | ⟨_, _, _, _, _, _, -, -, -, -, rfl⟩
    · exact (List.append_nil _).symm
    · exact (List.append_nil _).symm
  | control shared nextSequence =>
    cases hstep
    exact (List.append_nil _).symm

theorem run_arrived {turns : List VideoTurn} (hrun : machine.run s turns = some t) :
    t.arrived = s.arrived ++ turns.flatMap (·.units) := by
  induction turns generalizing s with
  | nil =>
    cases hrun
    exact (List.append_nil _).symm
  | cons turn turns ih =>
    obtain ⟨u, hstep, hrun⟩ := machine.run_cons.mp hrun
    rw [ih hrun, step_arrived hstep, List.append_assoc]
    rfl

/-- The encoder stamps its units at least a microsecond apart, with one duration. -/
structure RegularlyStamped (units : List H264AccessUnit) : Prop where
  increasing : units.Pairwise fun a b => a.timestamp.nanos + 1000 ≤ b.timestamp.nanos
  duration : ∃ duration, ∀ unit ∈ units, unit.duration = duration

/-- What the wire frame of a sent unit says. -/
structure OnTime (sent : SentAccessUnit) (frame : Frame) (metadata : VideoFrameMetadata) : Prop where
  frame_eq : sent.frame = some frame
  metadata_eq : videoMetadata frame = some metadata
  frameId : metadata.frameId = frame.header.sequence
  before_clock : metadata.captureTimestampMicros.toNat ≤ sent.clock.nanos / 1000
  before_presentation :
    metadata.captureTimestampMicros.toNat ≤ metadata.presentationTimestampMicros.toNat
  exact : metadata.presentationTimestampMicros.toNat =
    (sent.offset.nanos + sent.unit.timestamp.nanos + sent.unit.duration.nanos) / 1000

theorem exists_onTime {sent : SentAccessUnit} (h : Stamped sent) :
    ∃ frame metadata, OnTime sent frame metadata := by
  obtain ⟨frame, hframe⟩ := h.frame
  obtain ⟨video, hkind, hsequence, hpayload, hid, hcapture, hpresentation, hduration⟩ :=
    h264Frame_ok hframe
  have hdue := h.due
  have hclock := h.clock
  have hmax : u64Max = 2 ^ 64 - 1 := rfl
  have hexact : min ((sent.offset.nanos + sent.unit.timestamp.nanos) / 1000) u64Max =
      (sent.offset.nanos + sent.unit.timestamp.nanos) / 1000 := Nat.min_eq_left (by omega)
  have hexact' : min ((sent.offset.nanos + sent.unit.timestamp.nanos +
      sent.unit.duration.nanos) / 1000) u64Max = (sent.offset.nanos + sent.unit.timestamp.nanos +
        sent.unit.duration.nanos) / 1000 := Nat.min_eq_left (by omega)
  rw [hexact] at hcapture
  rw [hexact'] at hpresentation
  refine ⟨frame, video.metadata, ?_, videoMetadata_of_wire hkind hpayload, hid.trans hsequence.symm,
    ?_, ?_, hpresentation⟩
  · rw [SentAccessUnit.frame, hframe]
    rfl
  · omega
  · omega

/-- The frames on the wire, in the order of their sending. -/
def wireFrames (s : VideoLoop) : List Frame := s.sent.filterMap (·.frame)

/-- The first frame is presented before the second one. -/
def PresentedBefore (a b : Frame) : Prop :=
  ∀ first second, videoMetadata a = some first → videoMetadata b = some second →
    first.presentationTimestampMicros < second.presentationTimestampMicros

theorem inv_run {shared : SharedState} {nextSequence : UInt64} {turns : List VideoTurn}
    (hrange : ∀ turn ∈ turns, turn.ClockInRange)
    (hrun : machine.run (start shared nextSequence) turns = some s) : s.Inv := by
  have hadmits : machine.Admits (fun _ turn => turn.ClockInRange) (start shared nextSequence)
      turns := machine.admits_of_mem (fun turn hturn _ => hrange turn hturn) _
  apply machine.run_invariant_of_admits _ Inv ?_ (inv_start shared nextSequence) hadmits hrun
  intro before turn after hbefore hguard hstep
  exact inv_step hbefore hguard hstep

theorem wireFrames_increase (h : s.Inv) (hunits : RegularlyStamped s.arrived) :
    s.wireFrames.Pairwise PresentedBefore := by
  obtain ⟨duration, hduration⟩ := hunits.duration
  have hsent : (s.sent.map (·.unit)).Sublist s.arrived := by
    rw [h.arrived]
    exact List.sublist_append_left _ _
  have hstamps : s.sent.Pairwise fun a b =>
      a.unit.timestamp.nanos + 1000 ≤ b.unit.timestamp.nanos :=
    List.pairwise_map.mp (hunits.increasing.sublist hsent)
  rw [wireFrames, List.pairwise_filterMap]
  have hboth := hstamps.and h.offsets
  refine hboth.imp_of_mem ?_
  intro a b ha hb hab frame hframe frame' hframe' first second hfirst hsecond
  obtain ⟨wire, metadata, hontime⟩ := exists_onTime (h.stamped a ha)
  obtain ⟨wire', metadata', hontime'⟩ := exists_onTime (h.stamped b hb)
  have hsame : frame = wire := Option.some.inj (hframe.symm.trans hontime.frame_eq)
  have hsame' : frame' = wire' := Option.some.inj (hframe'.symm.trans hontime'.frame_eq)
  rw [hsame, hontime.metadata_eq] at hfirst
  rw [hsame', hontime'.metadata_eq] at hsecond
  cases hfirst
  cases hsecond
  have hda : a.unit.duration = duration :=
    hduration a.unit (hsent.subset (List.mem_map_of_mem ha))
  have hdb : b.unit.duration = duration :=
    hduration b.unit (hsent.subset (List.mem_map_of_mem hb))
  rw [UInt64.lt_iff_toNat_lt, hontime.exact, hontime'.exact, hda, hdb]
  omega

end VideoLoop

end LadoFlow.Host
