import LadoFlow.Core.Session
import LadoFlow.Protocol.Display
import LadoFlow.Transport.Packet

/-!
# Host-side negotiation

The ordered Hello, Capabilities and DisplayConfig exchange of the desktop host, and its choice of
a display mode inside the negotiated limits.
-/

namespace LadoFlow.Host

open LadoFlow.Protocol LadoFlow.Core LadoFlow.Transport Framework

def helloSequence : UInt64 := 0
def capabilitiesSequence : UInt64 := 1
def displayConfigSequence : UInt64 := 2
def firstActiveSequence : UInt64 := 3

/-- Complete modes to fall back to when the display cannot decode the requested size. -/
def negotiatedLandscapeModes : List (UInt16 × UInt16) :=
  [(2732, 2048), (2560, 1600), (2560, 1440), (2048, 1536), (1920, 1200), (1920, 1080),
    (1600, 1200), (1366, 768), (1280, 800), (1280, 720), (1024, 768), (1024, 640), (960, 600),
    (960, 540), (800, 600), (800, 500), (640, 480), (640, 400)]

/-- A failure text of the host, or the error whose text it shows. -/
inductive HostError where
  | text (message : String)
  | protocol (error : ProtocolError)
  | negotiation (error : NegotiationError)
  | session (error : SessionError)
  deriving DecidableEq, Repr

def liftProtocol {α : Type} : Except ProtocolError α → Except HostError α
  | .ok a => .ok a
  | .error e => .error (.protocol e)

theorem liftProtocol_eq_ok {α : Type} {x : Except ProtocolError α} {a : α} :
    liftProtocol x = .ok a ↔ x = .ok a := by
  cases x <;> simp [liftProtocol]

def liftNegotiation {α : Type} : Except NegotiationError α → Except HostError α
  | .ok a => .ok a
  | .error e => .error (.negotiation e)

theorem liftNegotiation_eq_ok {α : Type} {x : Except NegotiationError α} {a : α} :
    liftNegotiation x = .ok a ↔ x = .ok a := by
  cases x <;> simp [liftNegotiation]

def HostProtocolConfig.validate (width height refreshHz : UInt16) : Except HostError Unit :=
  if width = 0 ∨ height = 0 then .error (.text "host protocol dimensions must be non-zero")
  else if ¬(refreshHz = 30 ∨ refreshHz = 60) then
    .error (.text "host protocol refresh rate must be 30 or 60 Hz")
  else .ok ()

/-- The mode the user asked for. -/
structure HostProtocolConfig where
  width : UInt16
  height : UInt16
  refreshHz : UInt16
  valid : HostProtocolConfig.validate width height refreshHz = .ok ()
  deriving DecidableEq

namespace HostProtocolConfig

def new (width height refreshHz : UInt16) : Except HostError HostProtocolConfig :=
  checked (validate width height refreshHz) fun valid => .ok { width, height, refreshHz, valid }

variable (config : HostProtocolConfig)

theorem width_ne_zero : config.width ≠ 0 := by
  have h := config.valid
  simp only [validate, ite_error_eq_ok] at h
  tauto

theorem height_ne_zero : config.height ≠ 0 := by
  have h := config.valid
  simp only [validate, ite_error_eq_ok] at h
  tauto

theorem refreshHz_cases : config.refreshHz = 30 ∨ config.refreshHz = 60 := by
  have h := config.valid
  simp only [validate, ite_error_eq_ok] at h
  tauto

end HostProtocolConfig

/-- `u32::from(refresh_hz) * 1_000` -/
def refreshMillihz (refreshHz : UInt16) : UInt32 := refreshHz.toUInt32 * 1000

/-- `u64::saturating_mul` -/
def saturatingMul (a b : Nat) : Nat := min (a * b) (2 ^ 64 - 1)

def targetH264Bitrate (width height : UInt16) (refreshMillihz : UInt32) : UInt32 :=
  let pixelsPerSecond :=
    saturatingMul (saturatingMul width.toNat height.toNat) refreshMillihz.toNat / 1000
  let estimateKbps := saturatingMul pixelsPerSecond 12 / 100000
  UInt32.ofNat (max 4000 (min (min estimateKbps (2 ^ 32 - 1)) 40000))

/-- `u64::abs_diff` of the cross products of a mode and the requested size. -/
def aspectDelta (requestedWidth requestedHeight : UInt16) (mode : UInt16 × UInt16) : Nat :=
  let a := mode.1.toNat * requestedHeight.toNat
  let b := requestedWidth.toNat * mode.2.toNat
  max a b - min a b

/-- Closer aspect first, then the larger area. -/
def compareModeFit (left right : UInt16 × UInt16) (requestedWidth requestedHeight : UInt16) :
    Ordering :=
  let leftDelta := aspectDelta requestedWidth requestedHeight left
  let rightDelta := aspectDelta requestedWidth requestedHeight right
  (compare (leftDelta * right.2.toNat) (rightDelta * left.2.toNat)).then
    (compare (right.1.toNat * right.2.toNat) (left.1.toNat * left.2.toNat))

/-- `Iterator::min_by`: the first of the smallest elements. -/
def minBy {α : Type} (cmp : α → α → Ordering) : List α → Option α
  | [] => none
  | a :: as => some (as.foldl (fun best next => if cmp best next = .gt then next else best) a)

theorem minBy_mem {α : Type} {cmp : α → α → Ordering} {as : List α} {a : α}
    (h : minBy cmp as = some a) : a ∈ as := by
  have hfold : ∀ (as : List α) (first : α),
      as.foldl (fun best next => if cmp best next = .gt then next else best) first ∈
        first :: as := by
    intro as
    induction as with
    | nil => exact fun first => List.mem_cons_self
    | cons b bs ih =>
      intro first
      rw [List.foldl_cons]
      have hmem := ih (if cmp first b = .gt then b else first)
      rcases List.mem_cons.mp hmem with heq | htail
      · rw [heq]
        split
        · exact List.mem_cons_of_mem _ List.mem_cons_self
        · exact List.mem_cons_self
      · exact List.mem_cons_of_mem _ (List.mem_cons_of_mem _ htail)
  cases as with
  | nil => cases h
  | cons first rest =>
    rw [← Option.some.inj h]
    exact hfold rest first

theorem minBy_eq_none {α : Type} {cmp : α → α → Ordering} {as : List α} :
    minBy cmp as = none ↔ as = [] := by
  cases as <;> simp [minBy]

/-- The modes the host may fall back to. -/
def fits (requestedWidth requestedHeight maxWidth maxHeight : UInt16) (mode : UInt16 × UInt16) :
    Bool :=
  (decide (mode.1 ≥ mode.2) == decide (requestedWidth ≥ requestedHeight)) &&
    mode.1 ≤ requestedWidth && mode.2 ≤ requestedHeight && mode.1 ≤ maxWidth && mode.2 ≤ maxHeight

def selectBoundedDisplayDimensions (requestedWidth requestedHeight maxWidth maxHeight : UInt16) :
    Except HostError (UInt16 × UInt16) :=
  if requestedWidth ≤ maxWidth ∧ requestedHeight ≤ maxHeight then
    .ok (requestedWidth, requestedHeight)
  else
  let candidates :=
    negotiatedLandscapeModes.filter (fits requestedWidth requestedHeight maxWidth maxHeight)
  match minBy (fun left right => compareModeFit left right requestedWidth requestedHeight)
      candidates with
  | some mode => .ok mode
  | none => .error (.text (s!"display maximum {maxWidth}x{maxHeight} cannot fit a supported mode" ++
      s!" for the requested {requestedWidth}x{requestedHeight} session"))

/-- The requested rate, or 30 Hz when 60 Hz is too much for the display. -/
def selectRefresh (requested : HostProtocolConfig) (maxRefreshMillihz : UInt32) :
    Except HostError UInt32 :=
  let requestedRefresh := refreshMillihz requested.refreshHz
  if maxRefreshMillihz ≥ requestedRefresh then .ok requestedRefresh
  else if requested.refreshHz = 60 ∧ maxRefreshMillihz ≥ 30000 then .ok 30000
  else .error (.text (s!"display maximum refresh {maxRefreshMillihz} mHz " ++
    "cannot satisfy a 30 Hz session"))

def selectDisplayConfig (requested : HostProtocolConfig) (agreement : NegotiatedSession) :
    Except HostError DisplayConfig := do
  let capabilities := agreement.capabilities
  if capabilities.codecBits &&& CodecSet.h264.bits = 0 then
    .error (.text "the display did not negotiate H.264 support")
  else
  let (width, height) ← selectBoundedDisplayDimensions requested.width requested.height
    capabilities.maxWidth capabilities.maxHeight
  let refresh ← selectRefresh requested capabilities.maxRefreshMillihz
  let bitrateKbps := min (targetH264Bitrate width height refresh) capabilities.maxBitrateKbps
  liftProtocol (DisplayConfig.new width height refresh bitrateKbps .h264 .h264Main)

/-- The sizes the host may offer: the requested one, or a smaller mode of its orientation. -/
def OfferedSize (requested : HostProtocolConfig) (size : UInt16 × UInt16) : Prop :=
  size = (requested.width, requested.height) ∨
    size ∈ negotiatedLandscapeModes ∧ size.1 ≤ requested.width ∧ size.2 ≤ requested.height ∧
      (size.1 ≥ size.2 ↔ requested.width ≥ requested.height)

/-- The rates the host may offer: the requested one, or 30 Hz in place of 60 Hz. -/
def OfferedRefresh (requested : HostProtocolConfig) (refresh : UInt32) : Prop :=
  refresh = refreshMillihz requested.refreshHz ∨ requested.refreshHz = 60 ∧ refresh = 30000

/-- A configuration is within negotiated limits. -/
def WithinLimits (capabilities : NegotiatedCapabilities) (config : DisplayConfig) : Prop :=
  config.width ≤ capabilities.maxWidth ∧ config.height ≤ capabilities.maxHeight ∧
    config.refreshMillihz ≤ capabilities.maxRefreshMillihz ∧
    config.bitrateKbps ≤ capabilities.maxBitrateKbps

/-- A configuration that the host may offer and both endpoints support. -/
structure Compatible (requested : HostProtocolConfig) (capabilities : NegotiatedCapabilities)
    (config : DisplayConfig) : Prop where
  codec_shared : capabilities.codecBits &&& CodecSet.h264.bits ≠ 0
  codec : config.codec = .h264
  profile : config.profile = .h264Main
  size : OfferedSize requested (config.width, config.height)
  refresh : OfferedRefresh requested config.refreshMillihz
  limits : WithinLimits capabilities config

theorem fits_iff {requestedWidth requestedHeight maxWidth maxHeight : UInt16}
    {mode : UInt16 × UInt16} :
    fits requestedWidth requestedHeight maxWidth maxHeight mode ↔
      (mode.1 ≥ mode.2 ↔ requestedWidth ≥ requestedHeight) ∧ mode.1 ≤ requestedWidth ∧
        mode.2 ≤ requestedHeight ∧ mode.1 ≤ maxWidth ∧ mode.2 ≤ maxHeight := by
  simp [fits, and_assoc]

theorem selectBoundedDisplayDimensions_ok (requested : HostProtocolConfig)
    {maxWidth maxHeight : UInt16} {size : UInt16 × UInt16}
    (h : selectBoundedDisplayDimensions requested.width requested.height maxWidth maxHeight =
      .ok size) :
    OfferedSize requested size ∧ size.1 ≤ maxWidth ∧ size.2 ≤ maxHeight := by
  rw [selectBoundedDisplayDimensions] at h
  split at h
  · rename_i hfit
    cases h
    exact ⟨.inl rfl, hfit⟩
  · simp only at h
    split at h
    · rename_i mode hmin
      cases h
      obtain ⟨hmem, hfits⟩ := List.mem_filter.mp (minBy_mem hmin)
      obtain ⟨hland, hw, hh, hmw, hmh⟩ := fits_iff.mp hfits
      exact ⟨.inr ⟨hmem, hw, hh, hland⟩, hmw, hmh⟩
    · cases h

/-- The choice of a size fails only when no offered size fits. -/
theorem selectBoundedDisplayDimensions_exists (requested : HostProtocolConfig)
    {maxWidth maxHeight : UInt16} {size : UInt16 × UInt16} (hsize : OfferedSize requested size)
    (hw : size.1 ≤ maxWidth) (hh : size.2 ≤ maxHeight) :
    ∃ chosen, selectBoundedDisplayDimensions requested.width requested.height maxWidth maxHeight =
      .ok chosen := by
  rw [selectBoundedDisplayDimensions]
  split
  · exact ⟨_, rfl⟩
  · rename_i hfit
    rcases hsize with rfl | ⟨hmem, hrw, hrh, hland⟩
    · exact absurd ⟨hw, hh⟩ hfit
    · have hcandidate := List.mem_filter.mpr ⟨hmem, fits_iff.mpr ⟨hland, hrw, hrh, hw, hh⟩⟩
      simp only
      split
      · exact ⟨_, rfl⟩
      · rename_i hnone
        rw [minBy_eq_none.mp hnone] at hcandidate
        cases hcandidate

theorem offeredSize_ne_zero {requested : HostProtocolConfig} {size : UInt16 × UInt16}
    (h : OfferedSize requested size) : size.1 ≠ 0 ∧ size.2 ≠ 0 := by
  rcases h with rfl | ⟨hmem, -⟩
  · exact ⟨requested.width_ne_zero, requested.height_ne_zero⟩
  · have hmodes : negotiatedLandscapeModes.all (fun mode => mode.1 ≠ 0 ∧ mode.2 ≠ 0) = true := by
      decide
    exact of_decide_eq_true (List.all_eq_true.mp hmodes size hmem)

theorem offeredRefresh_ne_zero {requested : HostProtocolConfig} {refresh : UInt32}
    (h : OfferedRefresh requested refresh) : refresh ≠ 0 := by
  rcases h with rfl | ⟨-, rfl⟩
  · rcases requested.refreshHz_cases with h | h <;> rw [h] <;> decide
  · decide

theorem targetH264Bitrate_pos (width height : UInt16) (refresh : UInt32) :
    targetH264Bitrate width height refresh ≠ 0 := by
  intro h
  have hnat := congrArg UInt32.toNat h
  simp only [targetH264Bitrate, UInt32.toNat_ofNat', UInt32.toNat_zero] at hnat
  omega

theorem selectRefresh_ok {requested : HostProtocolConfig} {maxRefresh refresh : UInt32}
    (h : selectRefresh requested maxRefresh = .ok refresh) :
    OfferedRefresh requested refresh ∧ refresh ≤ maxRefresh := by
  simp only [selectRefresh] at h
  split at h
  · rename_i hmax
    cases h
    exact ⟨.inl rfl, hmax⟩
  · split at h
    · rename_i hmax
      cases h
      exact ⟨.inr ⟨hmax.1, rfl⟩, hmax.2⟩
    · cases h

theorem selectRefresh_exists {requested : HostProtocolConfig} {maxRefresh refresh : UInt32}
    (hoffered : OfferedRefresh requested refresh) (hmax : refresh ≤ maxRefresh) :
    ∃ chosen, selectRefresh requested maxRefresh = .ok chosen := by
  simp only [selectRefresh]
  split
  · exact ⟨_, rfl⟩
  · rename_i hless
    rcases hoffered with rfl | ⟨h60, rfl⟩
    · exact absurd hmax hless
    · exact ⟨30000, if_pos ⟨h60, hmax⟩⟩

/-- The chosen configuration is compatible. -/
theorem selectDisplayConfig_ok {requested : HostProtocolConfig} {agreement : NegotiatedSession}
    {config : DisplayConfig} (h : selectDisplayConfig requested agreement = .ok config) :
    Compatible requested agreement.capabilities config := by
  simp only [selectDisplayConfig, ite_error_eq_ok, bind_eq_ok, liftProtocol_eq_ok,
    DisplayConfig.new_eq_ok] at h
  obtain ⟨hcodec, size, hsize, refresh, hrefresh, hw, hh, hr, hb, hc, hp⟩ := h
  obtain ⟨hoffered, hmw, hmh⟩ := selectBoundedDisplayDimensions_ok requested hsize
  obtain ⟨hrate, hmr⟩ := selectRefresh_ok hrefresh
  rw [← hw] at hmw
  rw [← hh] at hmh
  rw [← hr] at hrate hmr
  refine ⟨hcodec, hc, hp, ?_, hrate, hmw, hmh, hmr, ?_⟩
  · rw [hw, hh]
    exact hoffered
  · rw [hb]
    exact (le_min_uint32.mp (UInt32.le_refl _)).2

/-- The host finds a configuration whenever a compatible one exists. -/
theorem selectDisplayConfig_exists {requested : HostProtocolConfig}
    {agreement : NegotiatedSession} {config : DisplayConfig}
    (h : Compatible requested agreement.capabilities config)
    (hbitrate : agreement.capabilities.maxBitrateKbps ≠ 0) :
    ∃ chosen, selectDisplayConfig requested agreement = .ok chosen := by
  obtain ⟨hw, hh, hr, -⟩ := h.limits
  obtain ⟨size, hsize⟩ := selectBoundedDisplayDimensions_exists requested h.size hw hh
  obtain ⟨refresh, hrefresh⟩ := selectRefresh_exists h.refresh hr
  have hnonzero := offeredSize_ne_zero (selectBoundedDisplayDimensions_ok requested hsize).1
  have hrate := offeredRefresh_ne_zero (selectRefresh_ok hrefresh).1
  have hkbps : min (targetH264Bitrate size.1 size.2 refresh)
      agreement.capabilities.maxBitrateKbps ≠ 0 := by
    change (if _ then _ else _) ≠ _
    split
    · exact targetH264Bitrate_pos _ _ _
    · exact hbitrate
  have hvalid : DisplayConfig.validate size.1 size.2 refresh
      (min (targetH264Bitrate size.1 size.2 refresh) agreement.capabilities.maxBitrateKbps)
      .h264 .h264Main = .ok () := by
    rw [DisplayConfig.validate, if_neg (not_or.mpr hnonzero), if_neg hrate, if_neg hkbps,
      if_neg (by decide)]
  refine ⟨⟨_, _, _, _, _, _, hvalid⟩, ?_⟩
  simp only [selectDisplayConfig, if_neg h.codec_shared, hsize, hrefresh, bind_ok,
    liftProtocol_eq_ok, DisplayConfig.new, checked_ok _ hvalid]

structure EstablishedHostSession where
  session : Session
  displayConfig : DisplayConfig
  peerName : String
  nextSequence : UInt64
  deriving DecidableEq

structure HostHandshake where
  config : HostProtocolConfig
  hostHello : Hello
  hostCapabilities : Capabilities
  displayHello : Option Hello
  displayCapabilities : Option Capabilities
  highestDisplaySequence : Option UInt64
  deriving DecidableEq

def controlPacket {α : Type} [WirePayload α] (sequence : UInt64) (payload : α) :
    Except HostError Packet :=
  match Frame.fromPayload FrameFlags.none sequence payload with
  | .ok frame => .ok (.control frame.encode)
  | .error error => .error (.protocol error)

/-- The derived `Debug` text of a message family. -/
def debugName : MessageType → String
  | .hello => "Hello"
  | .capabilities => "Capabilities"
  | .displayConfig => "DisplayConfig"
  | .videoFrame => "VideoFrame"
  | .input => "Input"
  | .telemetry => "Telemetry"
  | .ping => "Ping"
  | .pong => "Pong"
  | .error => "Error"

namespace HostHandshake

def withNonce (config : HostProtocolConfig) (nonce : Nonce) : Except HostError HostHandshake := do
  let hostHello ← liftProtocol
    (Hello.new protocolVersion protocolVersion .host nonce "LadoFlow desktop")
  let hostCapabilities ← liftProtocol
    (Capabilities.new config.width config.height (refreshMillihz config.refreshHz) 40000
      CodecSet.h264 (.of 0b111 (.refl true)) FeatureFlags.remoteCursor)
  .ok
    { config, hostHello, hostCapabilities
      displayHello := none, displayCapabilities := none, highestDisplaySequence := none }

/-- The two packets that open the exchange, in order. -/
def initialPackets (handshake : HostHandshake) : Except HostError (List Packet) := do
  let hello ← controlPacket helloSequence handshake.hostHello
  let capabilities ← controlPacket capabilitiesSequence handshake.hostCapabilities
  .ok [hello, capabilities]

/-- The session calls of `establish`. -/
def startSession (agreement : NegotiatedSession) (sequence : Option UInt64) : SessionM Unit := do
  Session.start
  Session.establish agreement .restart
  match sequence with
  | some sequence => discard (Session.observeSequence sequence)
  | none => pure ()

def establish (handshake : HostHandshake) : Except HostError EstablishedHostSession :=
  match handshake.displayHello, handshake.displayCapabilities with
  | none, _ => .error (.text "display Hello is missing")
  | some _, none => .error (.text "display Capabilities are missing")
  | some displayHello, some displayCapabilities => do
    let agreement ← liftNegotiation
      (negotiate handshake.hostHello handshake.hostCapabilities displayHello displayCapabilities)
    let displayConfig ← selectDisplayConfig handshake.config agreement
    match (startSession agreement handshake.highestDisplaySequence).run.run Session.new with
    | (.error error, _) => .error (.session error)
    | (.ok (), session) =>
      .ok ⟨session, displayConfig, displayHello.implementationName, firstActiveSequence⟩

/-- Store the payload of a display frame whose sequence is new. -/
def store (handshake : HostHandshake) (frame : Frame) : Except HostError HostHandshake :=
  match frame.header.kind with
  | .hello =>
    if handshake.displayHello.isSome then .error (.text "display sent Hello more than once")
    else do
    let hello ← liftProtocol (frame.decodePayload Hello)
    .ok { handshake with displayHello := some hello }
  | .capabilities =>
    if handshake.displayCapabilities.isSome then
      .error (.text "display sent Capabilities more than once")
    else do
    let capabilities ← liftProtocol (frame.decodePayload Capabilities)
    .ok { handshake with displayCapabilities := some capabilities }
  | kind => .error (.text
    ("display sent " ++ debugName kind ++ " before Hello and Capabilities completed"))

def accept (handshake : HostHandshake) (packet : Packet) :
    Except HostError (HostHandshake × Option EstablishedHostSession) :=
  if packet.channel ≠ .control then
    .error (.text "display sent media before LDFL negotiation completed")
  else
  match Frame.decodePrefix packet.payload with
  | .error error => .error (.protocol error)
  | .ok (.needMoreData _) => .error (.text "display sent a partial LDFL control frame")
  | .ok (.complete frame consumed) =>
    if consumed ≠ packet.len then
      .error (.text "display control packet contains trailing LDFL bytes")
    else
    let sequence := frame.header.sequence
    if handshake.highestDisplaySequence.any (sequence ≤ ·) then
      .error (.text s!"display LDFL sequence {sequence} is not newer than the prior sequence")
    else do
    let handshake ← store { handshake with highestDisplaySequence := some sequence } frame
    if handshake.displayHello.isSome ∧ handshake.displayCapabilities.isSome then do
      let established ← handshake.establish
      .ok (handshake, some established)
    else .ok (handshake, none)

end HostHandshake

end LadoFlow.Host
