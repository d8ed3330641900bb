import LadoFlow.Host.SharedState
import Mathlib.Order.Interval.Finset.Nat

/-!
# Telemetry across recoveries

The display counts its dropped frames for each protocol generation, while the host counts the sent
frames over the whole run. Both agree until a generation with drops is followed by another.
-/

namespace LadoFlow.Host

open LadoFlow.Protocol LadoFlow.Core LadoFlow.Media LadoFlow.Transport Framework

/-- The place of the last frame with this sequence; zero names no frame. -/
def placeOf (frames : List (UInt64 × Nat)) (frameId : UInt64) : Option Nat :=
  if frameId = 0 then none
  else (frames.reverse.find? fun sent => sent.1 = frameId).map (·.2)

/-- The counters of the host, with the sent frames and the reports of the current generation. The
dropped frames and the settled one are known by their place in the run. -/
structure RecoveryTelemetry where
  shared : SharedState
  nextSequence : UInt64
  frames : List (UInt64 × Nat)
  dropped : Finset Nat
  settled : Nat
  lastReport : Nat
  earlierReports : List Nat

inductive TelemetryStep where
  | send (trySend : Packet → Except HostError Unit) (unit : H264AccessUnit)
      (mediaClockOffset : Duration)
  | telemetry (telemetry : Telemetry) (dropped : Finset Nat)
  | recovery (error : String) (attempt : UInt32) (delayMillis : Nat)
  | renegotiation (config : LoopbackConfig)
  | establish (config : LoopbackConfig) (session : Session) (peerName : String)
      (nextSequence : UInt64)

namespace RecoveryTelemetry

def start (config : LoopbackConfig) (transport : String) (now : Duration) : RecoveryTelemetry where
  shared := .resetForAndroidNegotiation config transport now
  nextSequence := 0
  frames := []
  dropped := ∅
  settled := 0
  lastReport := 0
  earlierReports := []

section Steps

variable (s : RecoveryTelemetry)

/-- A call that fails leaves the counters as they are. -/
def send (trySend : Packet → Except HostError Unit) (unit : H264AccessUnit)
    (mediaClockOffset : Duration) : RecoveryTelemetry :=
  match sendUsbH264AccessUnit trySend s.shared unit mediaClockOffset s.nextSequence with
  | .error _ => s
  | .ok (shared, nextSequence) =>
    { s with
      shared
      nextSequence
      frames := s.frames ++ [(s.nextSequence, shared.framesProduced)] }

def report (telemetry : Telemetry) (dropped : Finset Nat) : RecoveryTelemetry :=
  { s with
    shared := s.shared.applyUsbTelemetry telemetry
    dropped
    settled := max s.settled ((placeOf s.frames telemetry.frameId).getD 0)
    lastReport := telemetry.droppedFrames.toNat }

/-- The display begins a generation with every session. -/
def establish (config : LoopbackConfig) (session : Session) (peerName : String)
    (nextSequence : UInt64) : RecoveryTelemetry where
  shared := s.shared.establishAndroidControl config session peerName
  nextSequence
  frames := []
  dropped := ∅
  settled := 0
  lastReport := 0
  earlierReports := s.earlierReports ++ [s.lastReport]

def advance : TelemetryStep → RecoveryTelemetry
  | .send trySend unit mediaClockOffset => s.send trySend unit mediaClockOffset
  | .telemetry telemetry dropped => s.report telemetry dropped
  | .recovery error attempt delayMillis =>
    { s with shared := s.shared.beginUsbRecovery error attempt delayMillis }
  | .renegotiation config => { s with shared := s.shared.beginUsbRenegotiation config }
  | .establish config session peerName nextSequence =>
    s.establish config session peerName nextSequence

end Steps

def machine : Machine RecoveryTelemetry TelemetryStep where
  step s step := some (s.advance step)

/-- The places of the frames that were sent in the generation. -/
def places (s : RecoveryTelemetry) : Finset Nat := (s.frames.map (·.2)).toFinset

/-- The last reports of all generations. -/
def reportedDrops (s : RecoveryTelemetry) : Nat := s.earlierReports.sum + s.lastReport

/-- The display counts frames of the generation, and names a frame that it released. -/
structure Counts (s : RecoveryTelemetry) (telemetry : Telemetry) (dropped : Finset Nat) : Prop where
  kept : s.dropped ⊆ dropped
  sent : dropped ⊆ s.places
  counted : telemetry.droppedFrames.toNat = dropped.card
  released : telemetry.frameId = 0 ∨
    (placeOf s.frames telemetry.frameId).any (· ∉ dropped) = true

/-- The telemetry comes from such a display. -/
def Reports (s : RecoveryTelemetry) : TelemetryStep → Prop
  | .telemetry telemetry dropped => s.Counts telemetry dropped
  | _ => True

/-- New drops come after the frames that were named before. -/
def LaterDrops (s : RecoveryTelemetry) (dropped : Finset Nat) : Prop :=
  ∀ place ∈ dropped, place ∉ s.dropped → s.settled < place

/-- No earlier generation has reported a drop when telemetry comes, and telemetry without a
remembered frame adds later drops only. The count of the sent frames has room. -/
def FirstDrops (s : RecoveryTelemetry) : TelemetryStep → Prop
  | .send .. => s.shared.framesProduced < u64Max
  | .telemetry telemetry dropped => s.earlierReports.sum = 0 ∧
    (s.shared.presentedOrdinal telemetry.frameId = none → s.LaterDrops dropped)
  | _ => True

/-- The presented and the reported frames fit into the sent ones. -/
def Accounted (s : RecoveryTelemetry) : Prop :=
  s.shared.framesPresented + s.reportedDrops ≤ s.shared.framesProduced

section Places

variable {s : RecoveryTelemetry} {frameId : UInt64} {place : Nat}

theorem placeOf_sent (state : SharedState) (frameId : UInt64) :
    state.presentedOrdinal frameId = placeOf state.sentVideoOrdinals frameId := rfl

theorem mem_of_placeOf {frames : List (UInt64 × Nat)} (h : placeOf frames frameId = some place) :
    (frameId, place) ∈ frames := by
  rw [placeOf] at h
  split at h
  · cases h
  · obtain ⟨sent, hfound, rfl⟩ := Option.map_eq_some_iff.mp h
    have hid : sent.1 = frameId := by simpa using List.find?_some hfound
    rw [← hid]
    exact List.mem_reverse.mp (List.mem_of_find?_eq_some hfound)

/-- The history of the host may reach into older generations, but it finds the frames of this one
where they are. -/
theorem placeOf_suffix {history older frames : List (UInt64 × Nat)}
    (hsuffix : history <:+ older ++ frames) {known : Nat} (hknown : placeOf frames frameId = some known)
    (h : placeOf history frameId = some place) : place = known := by
  rw [placeOf] at h hknown
  split at h
  · cases h
  rename_i hzero
  rw [if_neg hzero] at hknown
  obtain ⟨sent, hfound, rfl⟩ := Option.map_eq_some_iff.mp h
  obtain ⟨other, hother, rfl⟩ := Option.map_eq_some_iff.mp hknown
  have hprefix : history.reverse <+: frames.reverse ++ older.reverse := by
    rw [← List.reverse_append]
    exact List.reverse_prefix.mpr hsuffix
  have hwhole := hprefix.find?_eq_some hfound
  rw [List.find?_append, hother] at hwhole
  cases hwhole
  rfl

end Places

section Invariant

variable {s t : RecoveryTelemetry}

/-- The frames that the display may still drop. -/
def pending (s : RecoveryTelemetry) : Finset Nat :=
  s.places.filter fun place => s.settled < place ∧ place ∉ s.dropped

/-- What was presented, what was dropped and what may still be dropped are different frames. -/
structure Inv (s : RecoveryTelemetry) : Prop where
  history : ∃ older, s.shared.sentVideoOrdinals <:+ older ++ s.frames
  places_pos : ∀ place ∈ s.places, 0 < place
  places_le : ∀ place ∈ s.places, place ≤ s.shared.framesProduced
  lastReport : s.lastReport = s.dropped.card
  shown : s.shared.framesDropped ≤ s.reportedDrops
  room : s.shared.framesPresented + s.reportedDrops + s.pending.card ≤ s.shared.framesProduced

theorem inv_start (config : LoopbackConfig) (transport : String) (now : Duration) :
    Inv (start config transport now) where
  history := ⟨[], List.nil_suffix⟩
  places_pos _ h := absurd h (Finset.notMem_empty _)
  places_le _ h := absurd h (Finset.notMem_empty _)
  lastReport := rfl
  shown := Nat.le_refl 0
  room := Nat.le_refl 0

theorem Inv.accounted (h : Inv s) : s.Accounted := (Nat.le_add_right _ _).trans h.room

/-- A step that forgets the history and keeps the counters. -/
theorem Inv.keep (h : Inv s) {shared : SharedState}
    (hhistory : shared.sentVideoOrdinals = [] ∨
      shared.sentVideoOrdinals = s.shared.sentVideoOrdinals)
    (hproduced : shared.framesProduced = s.shared.framesProduced)
    (hpresented : shared.framesPresented = s.shared.framesPresented)
    (hdropped : shared.framesDropped = s.shared.framesDropped) : Inv { s with shared } where
  history := by
    obtain ⟨older, hsuffix⟩ := h.history
    refine ⟨older, ?_⟩
    cases hhistory with
    | inl hnone =>
      rw [hnone]
      exact List.nil_suffix
    | inr hsame =>
      rw [hsame]
      exact hsuffix
  places_pos := h.places_pos
  places_le := hproduced ▸ h.places_le
  lastReport := h.lastReport
  shown := hdropped ▸ h.shown
  room := by
    rw [hpresented, hproduced]
    exact h.room

theorem recordSentVideo_suffix (state : SharedState) (sequence : UInt64) :
    (state.recordSentVideo sequence).sentVideoOrdinals <:+ state.sentVideoOrdinals ++
      [(sequence, (state.recordSentVideo sequence).framesProduced)] := by
  simp only [SharedState.recordSentVideo]
  exact List.drop_suffix _ _

theorem sendUsbH264AccessUnit_ok {trySend : Packet → Except HostError Unit} {state shared : SharedState}
    {unit : H264AccessUnit} {mediaClockOffset : Duration} {nextSequence next : UInt64}
    (h : sendUsbH264AccessUnit trySend state unit mediaClockOffset nextSequence =
      .ok (shared, next)) : shared = state.recordSentVideo nextSequence := by
  obtain ⟨frame, -, h⟩ := bind_eq_ok.mp h
  obtain ⟨-, -, h⟩ := bind_eq_ok.mp h
  split at h
  · cases h
  · cases h
    rfl

/-- The state after a frame that was sent. -/
def recordSent (s : RecoveryTelemetry) (nextSequence : UInt64) : RecoveryTelemetry :=
  { s with
    shared := s.shared.recordSentVideo s.nextSequence
    nextSequence
    frames := s.frames ++
      [(s.nextSequence, (s.shared.recordSentVideo s.nextSequence).framesProduced)] }

theorem send_eq (trySend : Packet → Except HostError Unit) (unit : H264AccessUnit)
    (mediaClockOffset : Duration) : s.send trySend unit mediaClockOffset = s ∨
      ∃ nextSequence, s.send trySend unit mediaClockOffset = s.recordSent nextSequence := by
  rw [send]
  split
  · exact .inl rfl
  · rename_i shared nextSequence hsend
    right
    refine ⟨nextSequence, ?_⟩
    rw [recordSent, sendUsbH264AccessUnit_ok hsend]

/-- A sent frame is one that the display may drop. -/
theorem Inv.recordSent (h : Inv s) (hroom : s.shared.framesProduced < u64Max)
    (nextSequence : UInt64) : Inv (s.recordSent nextSequence) := by
  have hproduced : (s.recordSent nextSequence).shared.framesProduced =
      s.shared.framesProduced + 1 := saturatingSum_eq hroom
  have hplaces : (s.recordSent nextSequence).places =
      insert (s.shared.framesProduced + 1) s.places := by
    have hlist : (s.recordSent nextSequence).frames.map (·.2) =
        s.frames.map (·.2) ++ [s.shared.framesProduced + 1] := by
      rw [← hproduced]
      exact List.map_append
    rw [places, hlist, List.toFinset_append, Finset.union_comm]
    rfl
  refine ⟨?_, ?_, ?_, h.lastReport, h.shown, ?_⟩
  · obtain ⟨older, hsuffix⟩ := h.history
    refine ⟨older, ?_⟩
    have hsent : (s.recordSent nextSequence).shared.sentVideoOrdinals <:+
        s.shared.sentVideoOrdinals ++ [(s.nextSequence, s.shared.framesProduced + 1)] := by
      rw [← hproduced]
      exact recordSentVideo_suffix s.shared s.nextSequence
    have hframes : (s.recordSent nextSequence).frames =
        s.frames ++ [(s.nextSequence, s.shared.framesProduced + 1)] := by
      rw [← hproduced]
      rfl
    rw [hframes, ← List.append_assoc]
    exact hsent.trans (List.suffix_append_self_iff.mpr hsuffix)
  · rw [hplaces]
    intro place hmem
    rcases Finset.mem_insert.mp hmem with rfl | hold
    · exact Nat.succ_pos _
    · exact h.places_pos place hold
  · rw [hplaces, hproduced]
    intro place hmem
    rcases Finset.mem_insert.mp hmem with rfl | hold
    · exact Nat.le_refl _
    · exact (h.places_le place hold).trans (Nat.le_succ _)
  · have hpending : (s.recordSent nextSequence).pending.card ≤ s.pending.card + 1 := by
      rw [pending, hplaces, Finset.filter_insert]
      split
      · exact Finset.card_insert_le _ _
      · exact Nat.le_succ _
    have hbefore := h.room
    rw [hproduced]
    show s.shared.framesPresented + s.reportedDrops + _ ≤ _
    omega

/-- The next generation has nothing to drop yet. -/
theorem Inv.establish (h : Inv s) (config : LoopbackConfig) (session : Session)
    (peerName : String) (nextSequence : UInt64) :
    Inv (s.establish config session peerName nextSequence) := by
  have hreported : (s.establish config session peerName nextSequence).reportedDrops =
      s.reportedDrops := by
    simp [reportedDrops, RecoveryTelemetry.establish]
  refine ⟨?_, ?_, ?_, rfl, ?_, ?_⟩
  · obtain ⟨older, hsuffix⟩ := h.history
    refine ⟨older ++ s.frames, ?_⟩
    rw [show (s.establish config session peerName nextSequence).frames = [] from rfl,
      List.append_nil]
    exact hsuffix
  · intro place hmem
    exact absurd hmem (Finset.notMem_empty _)
  · intro place hmem
    exact absurd hmem (Finset.notMem_empty _)
  · rw [hreported]
    exact h.shown
  · have hempty : (s.establish config session peerName nextSequence).pending = ∅ := rfl
    rw [hreported, hempty, Finset.card_empty]
    exact h.accounted

theorem report_disjoint (telemetry : Telemetry) (dropped : Finset Nat) :
    Disjoint dropped (s.report telemetry dropped).pending := by
  rw [Finset.disjoint_left]
  intro place hmem hpending
  exact (Finset.mem_filter.mp hpending).2.2 hmem

/-- A report that names no remembered frame turns pending frames into dropped ones. -/
theorem report_pending_card {telemetry : Telemetry} {dropped : Finset Nat}
    (hcounts : s.Counts telemetry dropped) (hlater : s.LaterDrops dropped) :
    dropped.card + (s.report telemetry dropped).pending.card ≤
      s.dropped.card + s.pending.card := by
  have hsettled : s.settled ≤ (s.report telemetry dropped).settled := le_max_left _ _
  have hsplit : dropped ∪ (s.report telemetry dropped).pending ⊆ s.dropped ∪ s.pending := by
    intro place hmem
    rw [Finset.mem_union] at hmem ⊢
    by_cases hold : place ∈ s.dropped
    · exact .inl hold
    right
    cases hmem with
    | inl hnew => exact Finset.mem_filter.mpr ⟨hcounts.sent hnew, hlater place hnew hold, hold⟩
    | inr hpending =>
      obtain ⟨hsent, hafter, -⟩ := Finset.mem_filter.mp hpending
      exact Finset.mem_filter.mpr ⟨hsent, hsettled.trans_lt hafter, hold⟩
  have hcard := (Finset.card_le_card hsplit).trans (Finset.card_union_le _ _)
  rw [Finset.card_union_of_disjoint (report_disjoint telemetry dropped)] at hcard
  exact hcard

/-- The ordinal that the host finds is the place of the released frame in its generation. -/
theorem Inv.released_place (h : Inv s) {telemetry : Telemetry} {dropped : Finset Nat}
    (hcounts : s.Counts telemetry dropped) {ordinal : Nat}
    (hplace : s.shared.presentedOrdinal telemetry.frameId = some ordinal) :
    ordinal ∈ s.places ∧ ordinal ≤ (s.report telemetry dropped).settled := by
  have hknown : ∃ known, placeOf s.frames telemetry.frameId = some known := by
    cases hcounts.released with
    | inl hzero =>
      rw [SharedState.presentedOrdinal, if_pos hzero] at hplace
      cases hplace
    | inr hany =>
      obtain ⟨known, hknown, -⟩ := (Option.any_eq_true _ _).mp hany
      exact ⟨known, hknown⟩
  obtain ⟨known, hknown⟩ := hknown
  obtain ⟨older, hsuffix⟩ := h.history
  rw [placeOf_sent] at hplace
  have heq : ordinal = known := placeOf_suffix hsuffix hknown hplace
  subst heq
  constructor
  · rw [places, List.mem_toFinset]
    exact List.mem_map_of_mem (mem_of_placeOf hknown)
  · simp [RecoveryTelemetry.report, hknown]

/-- The released frame covers what was presented and dropped up to it. -/
theorem Inv.report_room (h : Inv s) {telemetry : Telemetry} {dropped : Finset Nat}
    (hcounts : s.Counts telemetry dropped) {ordinal : Nat}
    (hplace : s.shared.presentedOrdinal telemetry.frameId = some ordinal) :
    ordinal - dropped.card + dropped.card + (s.report telemetry dropped).pending.card ≤
      s.shared.framesProduced := by
  obtain ⟨hmem, hcovered⟩ := h.released_place hcounts hplace
  have hle := h.places_le ordinal hmem
  by_cases hcase : dropped.card ≤ ordinal
  · -- The pending frames come after the released one.
    have hpending : (s.report telemetry dropped).pending ⊆
        Finset.Ioc ordinal s.shared.framesProduced := by
      intro place hpending
      obtain ⟨hplace, hafter, -⟩ := Finset.mem_filter.mp hpending
      exact Finset.mem_Ioc.mpr ⟨hcovered.trans_lt hafter, h.places_le place hplace⟩
    have hcard := Finset.card_le_card hpending
    rw [Nat.card_Ioc] at hcard
    omega
  · -- Nothing counts as presented, and every frame is dropped at most once.
    have hall : dropped ∪ (s.report telemetry dropped).pending ⊆
        Finset.Ioc 0 s.shared.framesProduced := by
      intro place hunion
      have hplace : place ∈ s.places := by
        rcases Finset.mem_union.mp hunion with hnew | hpending
        · exact hcounts.sent hnew
        · exact (Finset.mem_filter.mp hpending).1
      exact Finset.mem_Ioc.mpr ⟨h.places_pos place hplace, h.places_le place hplace⟩
    have hcard := Finset.card_le_card hall
    rw [Finset.card_union_of_disjoint (report_disjoint telemetry dropped), Nat.card_Ioc] at hcard
    omega

/-- In the first generation with drops, a report keeps the accounts. -/
theorem Inv.report (h : Inv s) {telemetry : Telemetry} {dropped : Finset Nat}
    (hcounts : s.Counts telemetry dropped) (hfirst : s.earlierReports.sum = 0)
    (hlater : s.shared.presentedOrdinal telemetry.frameId = none → s.LaterDrops dropped) :
    Inv (s.report telemetry dropped) ∧
      s.shared.framesDropped ≤ (s.report telemetry dropped).shared.framesDropped := by
  have hmore : s.dropped.card ≤ dropped.card := Finset.card_le_card hcounts.kept
  have hreported : (s.report telemetry dropped).reportedDrops = dropped.card := by
    rw [reportedDrops, show (s.report telemetry dropped).earlierReports = s.earlierReports from rfl,
      hfirst, Nat.zero_add]
    exact hcounts.counted
  have hshown : (s.report telemetry dropped).shared.framesDropped = dropped.card := hcounts.counted
  have hbefore := h.room
  have hbeforeShown := h.shown
  rw [reportedDrops, hfirst, Nat.zero_add, h.lastReport] at hbefore hbeforeShown
  refine ⟨⟨h.history, h.places_pos, h.places_le, hcounts.counted, ?_, ?_⟩, ?_⟩
  · rw [hreported, hshown]
  · rw [hreported]
    cases hplace : s.shared.presentedOrdinal telemetry.frameId with
    | none =>
      have hsame : (s.report telemetry dropped).shared.framesPresented =
          s.shared.framesPresented := by
        simp [RecoveryTelemetry.report, SharedState.applyUsbTelemetry, hplace]
      have hcard := report_pending_card hcounts (hlater hplace)
      rw [hsame]
      show _ ≤ s.shared.framesProduced
      omega
    | some ordinal =>
      have hpresented : (s.report telemetry dropped).shared.framesPresented =
          ordinal - dropped.card := by
        simp [RecoveryTelemetry.report, SharedState.applyUsbTelemetry, hplace, hcounts.counted]
      rw [hpresented]
      exact h.report_room hcounts hplace
  · rw [hshown]
    exact hbeforeShown.trans hmore

/-- After drops of earlier generations, a report of the newest frame counts them as presented. -/
theorem report_overcounts {telemetry : Telemetry} (dropped : Finset Nat)
    (hearlier : 0 < s.earlierReports.sum)
    (hnewest : s.shared.presentedOrdinal telemetry.frameId = some s.shared.framesProduced)
    (hfew : telemetry.droppedFrames.toNat ≤ s.shared.framesProduced) :
    ¬(s.report telemetry dropped).Accounted := by
  have hpresented : (s.report telemetry dropped).shared.framesPresented =
      s.shared.framesProduced - telemetry.droppedFrames.toNat := by
    simp [RecoveryTelemetry.report, SharedState.applyUsbTelemetry, hnewest]
  have hreported : (s.report telemetry dropped).reportedDrops =
      s.earlierReports.sum + telemetry.droppedFrames.toNat := rfl
  rw [Accounted, hpresented, hreported]
  show ¬_ ≤ s.shared.framesProduced
  omega

/-- Each step keeps the accounts and shows no fewer drops. -/
theorem Inv.advance (h : Inv s) {step : TelemetryStep}
    (hguard : s.Reports step ∧ s.FirstDrops step) :
    Inv (s.advance step) ∧ s.shared.framesDropped ≤ (s.advance step).shared.framesDropped := by
  obtain ⟨hreports, hfirst⟩ := hguard
  cases step with
  | send trySend unit mediaClockOffset =>
    cases send_eq trySend unit mediaClockOffset with
    | inl hsame =>
      rw [RecoveryTelemetry.advance, hsame]
      exact ⟨h, Nat.le_refl _⟩
    | inr hsent =>
      obtain ⟨nextSequence, hsent⟩ := hsent
      rw [RecoveryTelemetry.advance, hsent]
      exact ⟨h.recordSent hfirst nextSequence, Nat.le_refl _⟩
  | telemetry telemetry dropped => exact h.report hreports hfirst.1 hfirst.2
  | recovery error attempt delayMillis => exact ⟨h.keep (.inl rfl) rfl rfl rfl, Nat.le_refl _⟩
  | renegotiation config => exact ⟨h.keep (.inl rfl) rfl rfl rfl, Nat.le_refl _⟩
  | establish config session peerName nextSequence =>
    exact ⟨h.establish config session peerName nextSequence, Nat.le_refl _⟩

variable {config : LoopbackConfig} {transport : String} {now : Duration}
  {before later : List TelemetryStep}

/-- The counters are cumulative as long as no telemetry follows a generation that reported drops. -/
theorem telemetry_cumulative
    (hbefore : machine.Admits (fun s step => s.Reports step ∧ s.FirstDrops step)
      (start config transport now) before)
    (hs : machine.run (start config transport now) before = some s)
    (hlater : machine.Admits (fun s step => s.Reports step ∧ s.FirstDrops step) s later)
    (ht : machine.run s later = some t) :
    s.shared.framesDropped ≤ t.shared.framesDropped ∧ s.Accounted ∧ t.Accounted := by
  have hinv : Inv s := machine.run_invariant_of_admits _ Inv
    (fun _ _ _ h hguard hstep => Option.some.inj hstep ▸ (h.advance hguard).1)
    (inv_start config transport now) hbefore hs
  have hgrown : Inv t ∧ s.shared.framesDropped ≤ t.shared.framesDropped := by
    apply machine.run_invariant_of_admits _
      (fun u => Inv u ∧ s.shared.framesDropped ≤ u.shared.framesDropped) ?_ ⟨hinv, Nat.le_refl _⟩
      hlater ht
    intro u step v hu hguard hstep
    obtain ⟨hnext, hmore⟩ := hu.1.advance hguard
    cases hstep
    exact ⟨hnext, hu.2.trans hmore⟩
  exact ⟨hgrown.2, hinv.accounted, hgrown.1.accounted⟩

end Invariant

section Runs

instance (s : RecoveryTelemetry) (telemetry : Telemetry) (dropped : Finset Nat) :
    Decidable (s.Counts telemetry dropped) :=
  decidable_of_iff (s.dropped ⊆ dropped ∧ dropped ⊆ s.places ∧
      telemetry.droppedFrames.toNat = dropped.card ∧
      (telemetry.frameId = 0 ∨ (placeOf s.frames telemetry.frameId).any (· ∉ dropped) = true))
    ⟨fun h => ⟨h.1, h.2.1, h.2.2.1, h.2.2.2⟩,
      fun h => ⟨h.kept, h.sent, h.counted, h.released⟩⟩

instance (s : RecoveryTelemetry) : (step : TelemetryStep) → Decidable (s.Reports step)
  | .telemetry telemetry dropped => inferInstanceAs (Decidable (s.Counts telemetry dropped))
  | .send .. | .recovery .. | .renegotiation .. | .establish .. => .isTrue trivial

instance (s : RecoveryTelemetry) : (step : TelemetryStep) → Decidable (s.FirstDrops step)
  | .send .. => inferInstanceAs (Decidable (_ < _))
  | .telemetry _ dropped =>
    have : Decidable (s.LaterDrops dropped) := inferInstanceAs (Decidable (∀ _ ∈ dropped, _))
    inferInstanceAs (Decidable (_ ∧ (_ → _)))
  | .recovery .. | .renegotiation .. | .establish .. => .isTrue trivial

/-- A host whose transport takes every packet sends one small picture. -/
def picture : TelemetryStep :=
  .send (fun _ => .ok ()) ⟨[0, 0, 0, 1, 0x65], .ofNanos 0, .ofNanos 16000000, true⟩ (.ofNanos 0)

theorem sampleTelemetry_valid : Telemetry.validate 0 0 = .ok () := rfl

theorem noTimings_valid : StageTimings.validate 0 0 0 0 0 = .ok () := rfl

/-- Telemetry with these counts and no latency. -/
def reported (frameId : UInt64) (droppedFrames : UInt32) (dropped : Finset Nat) : TelemetryStep :=
  .telemetry
    { sampleTimestampMicros := 0
      frameId
      timings := ⟨0, 0, 0, 0, 0, noTimings_valid⟩
      queueDepth := 0
      lossPartsPerMillion := 0
      droppedFrames
      lateFrames := 0
      thermalState := .nominal
      valid := sampleTelemetry_valid } dropped

def fullHd60 : LoopbackConfig := ⟨1920, 1080, 60⟩

def connect : TelemetryStep := .establish fullHd60 .new "LadoFlow Android" 3

/-- A first generation that drops two of its four pictures. -/
def firstGeneration : List TelemetryStep :=
  [connect, picture, picture, picture, picture, reported 6 2 {2, 3}]

/-- The link recovers, and the next generation drops nothing. -/
def nextGeneration : List TelemetryStep :=
  [.recovery "device detached" 1 250, .renegotiation fullHd60, connect, picture, reported 3 0 ∅]

/-- The first generation goes on. -/
def secondReport : List TelemetryStep := [picture, reported 6 3 {2, 3, 5}]

theorem telemetry_cumulative_first : ∃ s t,
    machine.run (start fullHd60 usbTransportName (.ofNanos 0)) firstGeneration = some s ∧
    machine.run s secondReport = some t ∧
    s.shared.framesDropped ≤ t.shared.framesDropped ∧ s.Accounted ∧ t.Accounted :=
  ⟨_, _, rfl, rfl, @telemetry_cumulative _ _ fullHd60 usbTransportName (.ofNanos 0)
    firstGeneration secondReport (by decide +kernel) rfl (by decide +kernel) rfl⟩

/-- The count of the next generation replaces the drops of the first one. -/
theorem telemetry_restarts : ∃ s t,
    machine.run (start fullHd60 usbTransportName (.ofNanos 0)) firstGeneration = some s ∧
    machine.run s nextGeneration = some t ∧
    machine.Admits Reports (start fullHd60 usbTransportName (.ofNanos 0)) firstGeneration ∧
    machine.Admits Reports s nextGeneration ∧
    t.shared.framesDropped < s.shared.framesDropped ∧
    t.shared.framesProduced < t.shared.framesPresented + t.reportedDrops :=
  ⟨_, _, rfl, rfl, by decide +kernel, by decide +kernel, by decide +kernel, by decide +kernel⟩

end Runs

end RecoveryTelemetry

end LadoFlow.Host
