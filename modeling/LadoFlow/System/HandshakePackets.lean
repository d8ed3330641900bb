import LadoFlow.System.Handshake

/-!
# Packets of the handshake

What each handshake packet carries, and how the host and the display answer it.
-/

namespace LadoFlow.System

open Framework
open LadoFlow.Protocol (Hello Capabilities DisplayConfig Pong VideoFrame Nonce MessageType Frame
  Payload WirePayload)
open LadoFlow.Transport (Packet)
open LadoFlow.Host
open LadoFlow.Android (AndroidDisplaySession SessionEnvironment DisplayConfigPayload LdflFrame
  SessionOutboundMux HelloPayload CapabilitiesPayload OutboundPayload CodecCapabilities signed
  unsigned widen16 PayloadCodec.ofPayload)

/-- The packet holds one frame with the given sequence and payload. -/
structure Carries (packet : Packet) (kind : MessageType) (sequence : UInt64) (v : Payload kind) :
    Prop where
  exists_frame : ∃ frame : Frame, packet.payload = frame.encode ∧ frame.header.kind = kind ∧
    frame.header.sequence = sequence ∧ frame.decodePayload (Payload kind) = .ok v ∧
    (Android.FrameCodec.ofFrame frame).decodePayload = .ok ⟨kind, PayloadCodec.ofPayload kind v⟩

section Packets

variable {packet : Packet} {kind : MessageType} {sequence : UInt64} {v : Payload kind}

theorem controlPacket_carries (kind : MessageType) (sequence : UInt64) (v : Payload kind) :
    ∃ packet, controlPacket sequence v = .ok packet ∧ packet.channel = .control ∧
      Carries packet kind sequence v := by
  obtain ⟨frame, hframe, hkind, hsequence, hdecode, -, hkotlin⟩ :=
    LdflFrame.exists_framed kind v Protocol.FrameFlags.none sequence
  exact ⟨.control frame.encode, by rw [controlPacket, hframe], rfl,
    ⟨frame, rfl, hkind, hsequence, hdecode, hkotlin⟩⟩

/-- The display decodes what the packet carries. -/
theorem Carries.display (h : Carries packet kind sequence v) : ∃ frame consumed,
    Android.FrameCodec.decodePrefix (signed packet.payload) 0 = .ok (.complete frame consumed) ∧
      frame.messageType = kind ∧ frame.sequence = sequence ∧
      frame.decodePayload = .ok ⟨kind, PayloadCodec.ofPayload kind v⟩ := by
  obtain ⟨frame, hpayload, hkind, hsequence, -, hkotlin⟩ := h.exists_frame
  have hboth := Android.FrameCodec.decodePrefix_signed (Nat.zero_le packet.payload.length)
  have hrust := frame.decodePrefix_encode []
  rw [List.append_nil] at hrust
  rw [List.drop_zero, hpayload, hrust] at hboth
  refine ⟨Android.FrameCodec.ofFrame frame, frame.encode.length, ?_, hkind, hsequence, hkotlin⟩
  rw [hpayload]
  exact toOption_eq_some.mp hboth

/-- The host decodes what the packet carries. -/
theorem Carries.host (h : Carries packet kind sequence v) : ∃ frame : Frame,
    Frame.decodePrefix packet.payload = .ok (.complete frame packet.len) ∧
      frame.header.kind = kind ∧ frame.header.sequence = sequence ∧
      frame.decodePayload (Payload kind) = .ok v := by
  obtain ⟨frame, hpayload, hkind, hsequence, hdecode, -⟩ := h.exists_frame
  have hrust := frame.decodePrefix_encode []
  rw [List.append_nil] at hrust
  exact ⟨frame, by rw [Packet.len, hpayload, hrust], hkind, hsequence, hdecode⟩

end Packets

section Host

variable (config : HostProtocolConfig) (nonce : Nonce) (party : DisplayParty)

def hostHello : Hello where
  minProtocol := Protocol.protocolVersion
  maxProtocol := Protocol.protocolVersion
  role := .host
  nonce := nonce
  implementationName := "LadoFlow desktop"
  range_valid := rfl
  name_valid := by decide

def hostCapabilities : Capabilities where
  maxWidth := config.width
  maxHeight := config.height
  maxRefreshMillihz := refreshMillihz config.refreshHz
  maxBitrateKbps := 40000
  codecs := Protocol.CodecSet.h264
  input := .of 0b111 (.refl true)
  features := Protocol.FeatureFlags.remoteCursor
  valid := by
    have hrefresh := @offeredRefresh_ne_zero config _ (.inl rfl)
    rw [Capabilities.validate, if_neg (not_or.mpr ⟨config.width_ne_zero, config.height_ne_zero⟩),
      if_neg hrefresh]
    rfl

/-- The handshake before any display frame. -/
def opened : HostHandshake where
  config := config
  hostHello := hostHello nonce
  hostCapabilities := hostCapabilities config
  displayHello := none
  displayCapabilities := none
  highestDisplaySequence := none

theorem withNonce_eq : HostHandshake.withNonce config nonce = .ok (opened config nonce) := by
  have hhello : Hello.new Protocol.protocolVersion Protocol.protocolVersion .host nonce
      "LadoFlow desktop" = .ok (hostHello nonce) :=
    Hello.new_eq_ok.mpr ⟨rfl, rfl, rfl, rfl, rfl⟩
  have hcapabilities : Capabilities.new config.width config.height
      (refreshMillihz config.refreshHz) 40000 Protocol.CodecSet.h264 (.of 0b111 (.refl true))
      Protocol.FeatureFlags.remoteCursor = .ok (hostCapabilities config) :=
    Capabilities.new_eq_ok.mpr ⟨rfl, rfl, rfl, rfl, rfl, rfl, rfl⟩
  simp only [HostHandshake.withNonce, hhello, hcapabilities, liftProtocol, bind_ok]
  rfl

/-- The Hello of the display. -/
def DisplayParty.hello : Hello where
  minProtocol := Protocol.protocolVersion
  maxProtocol := Protocol.protocolVersion
  role := .display
  nonce := party.nonce
  implementationName := party.implementationName
  range_valid := rfl
  name_valid := party.name_valid

/-- The handshake with both display payloads. -/
def complete : HostHandshake :=
  { opened config nonce with
    displayHello := some party.hello
    displayCapabilities := some party.capabilities
    highestDisplaySequence := some 1 }

/-- The limits that both endpoints support. -/
def sharedLimits : Core.NegotiatedCapabilities :=
  Core.intersect (hostCapabilities config) party.capabilities

theorem startSession_run (agreement : Core.NegotiatedSession) (sequence : Option UInt64) :
    (HostHandshake.startSession agreement sequence).run.run Core.Session.new =
      (.ok (), ⟨.active, some agreement, 1, 0, sequence⟩) := by
  cases sequence <;> rfl

/-- The session that the host establishes uses a compatible configuration. -/
theorem establish_ok {established : EstablishedHostSession}
    (h : (complete config nonce party).establish = .ok established) :
    Compatible config (sharedLimits config party) established.displayConfig ∧
      established.nextSequence = firstActiveSequence := by
  simp only [HostHandshake.establish, complete, bind_eq_ok, liftNegotiation_eq_ok,
    Core.negotiate_eq_ok, startSession_run] at h
  obtain ⟨agreement, ⟨-, -, -, rfl⟩, displayConfig, hconfig, h⟩ := h
  cases h
  exact ⟨selectDisplayConfig_ok hconfig, rfl⟩

/-- The host establishes whenever a compatible configuration exists. -/
theorem establish_exists {displayConfig : DisplayConfig}
    (h : Compatible config (sharedLimits config party) displayConfig) :
    ∃ established, (complete config nonce party).establish = .ok established := by
  have hcodec : (hostCapabilities config).codecs.bits &&& party.capabilities.codecs.bits ≠ 0 := by
    intro hzero
    have hshared := h.codec_shared
    simp only [sharedLimits, Core.intersect, hzero] at hshared
    exact hshared (by decide)
  have hrole : (hostHello nonce).role ≠ party.hello.role := by
    change Protocol.Role.host ≠ Protocol.Role.display
    decide
  have hversion : max (hostHello nonce).minProtocol party.hello.minProtocol ≤
      min (hostHello nonce).maxProtocol party.hello.maxProtocol := by
    change max Protocol.protocolVersion Protocol.protocolVersion ≤
      min Protocol.protocolVersion Protocol.protocolVersion
    decide
  have hnegotiate : Core.negotiate (hostHello nonce) (hostCapabilities config) party.hello
      party.capabilities = .ok ⟨min (hostHello nonce).maxProtocol party.hello.maxProtocol,
        sharedLimits config party⟩ :=
    Core.negotiate_eq_ok.mpr ⟨hrole, hversion, hcodec, rfl⟩
  have hbitrate : (sharedLimits config party).maxBitrateKbps ≠ 0 := by
    change (if _ then _ else _) ≠ _
    split
    · change (40000 : UInt32) ≠ 0
      decide
    · exact party.capabilities.maxBitrateKbps_ne_zero
  obtain ⟨chosen, hchosen⟩ : ∃ chosen, selectDisplayConfig config
      ⟨min (hostHello nonce).maxProtocol party.hello.maxProtocol, sharedLimits config party⟩ =
      .ok chosen := selectDisplayConfig_exists h hbitrate
  simp only [HostHandshake.establish, complete, opened, hnegotiate, liftNegotiation, bind_ok,
    hchosen, startSession_run]
  exact ⟨_, rfl⟩

/-- The first display packet is stored. -/
theorem accept_hello {packet : Packet} (hchannel : packet.channel = .control)
    (h : Carries packet .hello 0 party.hello) :
    (opened config nonce).accept packet = .ok ({ opened config nonce with
      displayHello := some party.hello, highestDisplaySequence := some 0 }, none) := by
  obtain ⟨frame, hdecode, hkind, hsequence, hpayload⟩ := h.host
  have hpayload : frame.decodePayload Hello = .ok party.hello := hpayload
  simp [HostHandshake.accept, HostHandshake.store, opened, hchannel, hdecode, hkind, hsequence,
    hpayload, liftProtocol]

/-- The second display packet completes the handshake. -/
theorem accept_capabilities {packet : Packet} (hchannel : packet.channel = .control)
    (h : Carries packet .capabilities 1 party.capabilities) :
    HostHandshake.accept { opened config nonce with
        displayHello := some party.hello, highestDisplaySequence := some 0 } packet =
      ((complete config nonce party).establish).map
        fun established => (complete config nonce party, some established) := by
  obtain ⟨frame, hdecode, hkind, hsequence, hpayload⟩ := h.host
  have hpayload : frame.decodePayload Capabilities = .ok party.capabilities := hpayload
  cases hestablish : (complete config nonce party).establish with
  | error error =>
    rw [complete, opened] at hestablish
    simp [HostHandshake.accept, HostHandshake.store, hchannel, hdecode, hkind, hsequence,
      hpayload, liftProtocol, opened, hestablish, Except.map]
  | ok established =>
    rw [complete, opened] at hestablish
    simp [HostHandshake.accept, HostHandshake.store, hchannel, hdecode, hkind, hsequence,
      hpayload, liftProtocol, opened, complete, hestablish, Except.map]

end Host

section Display

variable (config : HostProtocolConfig) (nonce : Nonce) (party : DisplayParty)

/-- The payloads that the display queues first. -/
def DisplayParty.announcements : List OutboundPayload :=
  [⟨⟨.hello, HelloPayload.ofHello party.hello⟩, .none⟩,
    ⟨⟨.capabilities, CapabilitiesPayload.ofCapabilities party.capabilities⟩, .none⟩]

/-- The writer turns a queued control payload into a packet that carries it. -/
theorem writeNext_carries {mux : SessionOutboundMux} {kind : MessageType} (v : Payload kind)
    {control : List OutboundPayload}
    (hcontrol : mux.control = ⟨⟨kind, PayloadCodec.ofPayload kind v⟩, .none⟩ :: control)
    (hexhausted : mux.sequenceExhausted = false) (hmax : mux.nextSequence ≠ 0xFFFFFFFFFFFFFFFF) :
    ∃ frame bytes, mux.writeNext = some (.ok frame,
        { mux with control, nextSequence := mux.nextSequence + 1 }) ∧
      Android.FrameCodec.encode frame = .ok bytes ∧
      Carries (.control (unsigned bytes)) kind mux.nextSequence v := by
  obtain ⟨frame, -, hkind, hsequence, hdecode, hframe, hkotlin⟩ :=
    LdflFrame.exists_framed kind v Protocol.FrameFlags.none mux.nextSequence
  refine ⟨Android.FrameCodec.ofFrame frame, signed frame.encode, ?_,
    Android.FrameCodec.encode_ofFrame frame, ?_⟩
  · have hflags : Android.widenBits Android.mask111 Protocol.FrameFlags.none =
        Android.FrameFlags.none := rfl
    rw [hflags] at hframe
    simp [SessionOutboundMux.writeNext, SessionOutboundMux.receiveNext, hcontrol, hexhausted, hmax,
      hframe]
  · rw [Android.unsigned_signed]
    exact ⟨frame, rfl, hkind, hsequence, hdecode, hkotlin⟩

/-- The display before any host frame. -/
structure Fresh (d : AndroidDisplaySession) : Prop where
  inboundHighest : d.inboundHighest = none
  remoteHello : d.remoteHello = none
  remoteCapabilities : d.remoteCapabilities = none
  failed : d.failed = false
  activeConfiguration : d.activeConfiguration = none

theorem beginHandshake_fresh (accessoryName : String) (env : SessionEnvironment) :
    let d := (AndroidDisplaySession.new (.ofCapabilities party.capabilities)).beginHandshake env
      accessoryName (signed party.nonce.val) party.implementationName
    Fresh d ∧ d.localCapabilities = .ofCapabilities party.capabilities ∧
      d.outbound = some { SessionOutboundMux.new with control := party.announcements } := by
  have hnonce : (signed party.nonce.val).length = 16 := by simp [party.nonce.property]
  have hhello : HelloPayload.new Android.ldflProtocolVersion Android.ldflProtocolVersion .display
      (signed party.nonce.val) party.implementationName = .ok (.ofHello party.hello) :=
    HelloPayload.new_eq_ok.mpr ⟨rfl, rfl, rfl, rfl, rfl⟩
  simp only [AndroidDisplaySession.beginHandshake, hnonce, hhello]
  exact ⟨⟨rfl, rfl, rfl, rfl, rfl⟩, rfl, rfl⟩

/-- The configuration passes every check of the display except that of its decoder. -/
theorem invalidReason_within {host display : Capabilities} {displayConfig : DisplayConfig}
    (hcodec : displayConfig.codec = .h264) (hprofile : displayConfig.profile = .h264Main)
    (h : WithinLimits (Core.intersect host display) displayConfig) (rejection : Option String) :
    AndroidDisplaySession.invalidReason (.ofCapabilities display) (.ofCapabilities host)
      (.ofDisplayConfig displayConfig) rejection = rejection := by
  obtain ⟨hw, hh, hr, hb⟩ := h
  simp only [Core.intersect, Core.le_min_uint16, Core.le_min_uint32] at hw hh hr hb
  have hw : widen16 displayConfig.width ≤ min (widen16 display.maxWidth)
      (widen16 host.maxWidth) := by
    simp [Android.le_min_int32, Android.widen16_le, hw]
  have hh : widen16 displayConfig.height ≤ min (widen16 display.maxHeight)
      (widen16 host.maxHeight) := by
    simp [Android.le_min_int32, Android.widen16_le, hh]
  have hr := Core.le_min_uint32.mpr hr.symm
  have hb := Core.le_min_uint32.mpr hb.symm
  simp only [AndroidDisplaySession.invalidReason, CapabilitiesPayload.ofCapabilities,
    DisplayConfigPayload.ofDisplayConfig, hcodec, hprofile]
  rw [if_neg (by simp), if_neg (by simp),
    if_neg (not_or.mpr ⟨Int32.not_lt.mpr hw, Int32.not_lt.mpr hh⟩),
    if_neg (UInt32.not_lt.mpr hr), if_neg (UInt32.not_lt.mpr hb)]

/-- The display negotiates exactly when it supports H.264. -/
theorem codec_shared_iff :
    (sharedLimits config party).codecBits &&& Protocol.CodecSet.h264.bits ≠ 0 ↔
      (CapabilitiesPayload.ofCapabilities party.capabilities).codecs.contains
        CodecCapabilities.h264 := by
  change _ ↔ (Android.widenBits Android.mask111 party.capabilities.codecs).contains _
  rw [CodecCapabilities.contains_h264]
  change Protocol.CodecSet.h264.bits &&& party.capabilities.codecs.bits &&&
    Protocol.CodecSet.h264.bits ≠ 0 ↔ _
  rw [UInt16.and_comm, ← UInt16.and_assoc, UInt16.and_self, UInt16.and_comm]

end Display

end LadoFlow.System
