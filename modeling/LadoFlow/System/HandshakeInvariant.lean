import LadoFlow.Framework.Trace
import LadoFlow.System.HandshakePackets

/-!
# Invariant of the handshake

Each party is at the stage that the packets it has taken determine. The packet at a position of
either log is fixed by the two advertisements, whatever the order of the steps.
-/

namespace LadoFlow.System

open Framework
open LadoFlow.Protocol (Hello Capabilities DisplayConfig Pong VideoFrame Nonce MessageType Frame
  Payload WirePayload)
open LadoFlow.Transport (Packet)
open LadoFlow.Host
open LadoFlow.Android (AndroidDisplaySession SessionEnvironment DisplayConfigPayload LdflFrame
  SessionOutboundMux HelloPayload CapabilitiesPayload OutboundPayload CodecCapabilities signed
  unsigned PayloadCodec.ofPayload)

/-- Every element satisfies the predicate at its position. -/
def Indexed {α : Type} (P : Nat → α → Prop) (l : List α) : Prop :=
  ∀ i a, l[i]? = some a → P i a

theorem Indexed.concat {α : Type} {P : Nat → α → Prop} {l : List α} {a : α} (h : Indexed P l)
    (ha : P l.length a) : Indexed P (l ++ [a]) := by
  intro i b hb
  rcases getElem?_snoc hb with ⟨hb, -⟩ | ⟨rfl, rfl⟩
  · exact h i b hb
  · exact ha

theorem drop_eq_cons {α : Type} {l rest : List α} {a : α} {n : Nat} (h : l.drop n = a :: rest) :
    l[n]? = some a ∧ rest = l.drop (n + 1) := by
  constructor
  · rw [← List.head?_drop, h, List.head?_cons]
  · rw [← List.tail_drop, h, List.tail_cons]

section Invariant

variable (config : HostProtocolConfig) (nonce : Nonce) (party : DisplayParty)
  (rejection : DisplayConfigPayload → Option String)

/-- What the host's packet at a position carries. -/
inductive HostSends : Nat → Packet → Prop
  | hello {packet : Packet} (h : Carries packet .hello 0 (hostHello nonce)) : HostSends 0 packet
  | capabilities {packet : Packet}
      (h : Carries packet .capabilities 1 (hostCapabilities config)) : HostSends 1 packet
  | configuration {packet : Packet} {established : EstablishedHostSession}
      (hestablish : (complete config nonce party).establish = .ok established)
      (h : Carries packet .displayConfig 2 established.displayConfig) : HostSends 2 packet
  | pong {i : Nat} {packet : Packet} {sequence : UInt64} {pong : Pong} (hi : 3 ≤ i)
      (hsequence : sequence.toNat = i) (h : Carries packet .pong sequence pong) :
      HostSends i packet
  | video {i : Nat} {packet : Packet} {sequence : UInt64} {frame : VideoFrame} (hi : 3 ≤ i)
      (hsequence : sequence.toNat = i) (h : Carries packet .videoFrame sequence frame) :
      HostSends i packet

/-- What the display's packet at a position carries; later packets are not constrained. -/
inductive DisplaySends : Nat → Packet → Prop
  | hello {packet : Packet} (hchannel : packet.channel = .control)
      (h : Carries packet .hello 0 party.hello) : DisplaySends 0 packet
  | capabilities {packet : Packet} (hchannel : packet.channel = .control)
      (h : Carries packet .capabilities 1 party.capabilities) : DisplaySends 1 packet
  | later {packet : Packet} {i : Nat} (hi : 2 ≤ i) : DisplaySends i packet

/-- The handshake with the display's Hello. -/
def greeted : HostHandshake :=
  { opened config nonce with
    displayHello := some party.hello, highestDisplaySequence := some 0 }

/-- Where the host stands after it has received and sent packets. -/
inductive HostStage (received : Nat) (sent : List Packet) : HostPhase → HostHandshake → Prop
  | opening {packets : List Packet} (hreceived : received = 0)
      (hpackets : Indexed (HostSends config nonce party) (sent ++ packets))
      (hsent : (sent ++ packets).length = 2) :
      HostStage received sent (.opening packets) (opened config nonce)
  | waiting (hreceived : received = 0) (hsent : sent.length = 2) :
      HostStage received sent .waiting (opened config nonce)
  | greeted (hreceived : received = 1) (hsent : sent.length = 2) :
      HostStage received sent .waiting (greeted config nonce party)
  | configuring {established : EstablishedHostSession} {handshake : HostHandshake}
      (hestablish : (complete config nonce party).establish = .ok established)
      (hsent : sent.length = 2) : HostStage received sent (.configuring established) handshake
  | established {established : EstablishedHostSession} {handshake : HostHandshake}
      {next : Option UInt64}
      (hestablish : (complete config nonce party).establish = .ok established)
      (hsent : 3 ≤ sent.length) (hnext : ∀ sequence ∈ next, sequence.toNat = sent.length) :
      HostStage received sent (.established established next) handshake
  | failed {error : HostError} {handshake : HostHandshake} (hsent : sent.length ≤ 2) :
      HostStage received sent (.failed error) handshake

/-- The display after the host's Hello. -/
structure Greeted (d : AndroidDisplaySession) : Prop where
  inboundHighest : d.inboundHighest = some 0
  remoteHello : d.remoteHello = some (.ofHello (hostHello nonce))
  remoteCapabilities : d.remoteCapabilities = none
  failed : d.failed = false
  activeConfiguration : d.activeConfiguration = none

/-- The display after the host's Hello and Capabilities. -/
structure Negotiated (d : AndroidDisplaySession) : Prop where
  inboundHighest : d.inboundHighest = some 1
  remoteHello : d.remoteHello = some (.ofHello (hostHello nonce))
  remoteCapabilities : d.remoteCapabilities = some (.ofCapabilities (hostCapabilities config))
  negotiated : d.negotiated = true
  failed : d.failed = false
  activeConfiguration : d.activeConfiguration = none

/-- The display uses the configuration and has taken `n` packets. -/
structure Configured (configuration : DisplayConfigPayload) (n : Nat) (d : AndroidDisplaySession) :
    Prop where
  inboundHighest : ∃ sequence, d.inboundHighest = some sequence ∧ sequence.toNat + 1 = n
  negotiated : d.negotiated = true
  failed : d.failed = false
  activeConfiguration : d.activeConfiguration = some configuration

/-- Where the display stands after it has taken `n` packets of the host. -/
inductive DisplayStage : Nat → AndroidDisplaySession → Prop
  | fresh {d : AndroidDisplaySession} (h : Fresh d) : DisplayStage 0 d
  | greeted {d : AndroidDisplaySession} (h : Greeted nonce d) : DisplayStage 1 d
  | negotiated {d : AndroidDisplaySession} (h : Negotiated config nonce d) : DisplayStage 2 d
  | refused {d : AndroidDisplaySession}
      (hcodec : ¬(CapabilitiesPayload.ofCapabilities party.capabilities).codecs.contains
        CodecCapabilities.h264) : DisplayStage 2 d
  | configured {n : Nat} {d : AndroidDisplaySession} {established : EstablishedHostSession}
      (hn : 3 ≤ n) (hestablish : (complete config nonce party).establish = .ok established)
      (h : Configured (.ofDisplayConfig established.displayConfig) n d) : DisplayStage n d
  | rejected {n : Nat} {d : AndroidDisplaySession} {established : EstablishedHostSession}
      (hn : 3 ≤ n) (hestablish : (complete config nonce party).establish = .ok established)
      (hrejection : rejection (.ofDisplayConfig established.displayConfig) ≠ none) :
      DisplayStage n d

/-- The display's lanes hold its announcements until they are sent. -/
structure Outbox (sent : List Packet) (mux : SessionOutboundMux) : Prop where
  sends : Indexed (DisplaySends party) sent
  pending : party.announcements.drop sent.length <+: mux.control
  sequence : sent.length < 2 →
    mux.nextSequence = UInt64.ofNat sent.length ∧ mux.sequenceExhausted = false

/-- The invariant of the runs. -/
structure Consistent (s : HandshakeState) : Prop where
  sends : Indexed (HostSends config nonce party) s.hostSent
  display : ∃ n, s.toDisplay = s.hostSent.drop n ∧ n ≤ s.hostSent.length ∧
    DisplayStage config nonce party rejection n s.display
  host : ∃ received, s.toHost = s.displaySent.drop received ∧
    received ≤ s.displaySent.length ∧
    HostStage config nonce party received s.hostSent s.host s.handshake
  localCapabilities : s.display.localCapabilities = .ofCapabilities party.capabilities
  outbox : ∃ mux, s.display.outbound = some mux ∧ Outbox party s.displaySent mux

end Invariant

section Steps

variable {config : HostProtocolConfig} {nonce : Nonce} {party : DisplayParty}
  {rejection : DisplayConfigPayload → Option String} {s t : HandshakeState}

theorem Configured.stale {configuration : DisplayConfigPayload} {n : Nat}
    {d : AndroidDisplaySession} {sequence : UInt64} (h : Configured configuration n d)
    (hsequence : sequence.toNat = n) : ¬d.inboundHighest.any (sequence ≤ ·) := by
  obtain ⟨highest, hhighest, hn⟩ := h.inboundHighest
  simp only [hhighest, Option.any_some, decide_eq_true_eq, UInt64.le_iff_toNat_le]
  omega

theorem Configured.keep {configuration : DisplayConfigPayload} {n : Nat}
    {d d' : AndroidDisplaySession} {sequence : UInt64} (h : Configured configuration n d)
    (hsequence : sequence.toNat = n) (hkeeps : AndroidDisplaySession.KeepsActive d sequence d') :
    Configured configuration (n + 1) d' :=
  ⟨⟨sequence, hkeeps.inboundHighest, by rw [hsequence]⟩, hkeeps.negotiated.trans h.negotiated,
    hkeeps.failed.trans h.failed, hkeeps.activeConfiguration.trans h.activeConfiguration⟩

theorem Fresh.receive {d : AndroidDisplaySession} {frame : LdflFrame} (h : Fresh d)
    (env : SessionEnvironment) (htype : frame.messageType = .hello) (hsequence : frame.sequence = 0)
    (hdecode : frame.decodePayload = .ok ⟨.hello, HelloPayload.ofHello (hostHello nonce)⟩) :
    Greeted nonce (d.handleInboundFrame env frame) := by
  rw [AndroidDisplaySession.receive_hello h.inboundHighest h.remoteHello h.remoteCapabilities
    h.failed htype hsequence hdecode rfl ⟨Int32.le_refl _, Int32.le_refl _⟩]
  exact ⟨rfl, rfl, h.remoteCapabilities, h.failed, h.activeConfiguration⟩

theorem Greeted.receive {d : AndroidDisplaySession} {frame : LdflFrame} (h : Greeted nonce d)
    (env : SessionEnvironment) (hlocal : d.localCapabilities = .ofCapabilities party.capabilities)
    (htype : frame.messageType = .capabilities) (hsequence : frame.sequence = 1)
    (hdecode : frame.decodePayload =
      .ok ⟨.capabilities, CapabilitiesPayload.ofCapabilities (hostCapabilities config)⟩) :
    DisplayStage config nonce party rejection 2 (d.handleInboundFrame env frame) := by
  rw [AndroidDisplaySession.receive_capabilities h.inboundHighest h.remoteHello
    h.remoteCapabilities h.failed htype hsequence hdecode]
  by_cases hcodec : (CapabilitiesPayload.ofCapabilities party.capabilities).codecs.contains
      CodecCapabilities.h264
  · have hhost : (CapabilitiesPayload.ofCapabilities (hostCapabilities config)).codecs.contains
        CodecCapabilities.h264 := by
      refine CodecCapabilities.contains_h264.mpr ?_
      change Protocol.CodecSet.h264.bits &&& Protocol.CodecSet.h264.bits ≠ 0
      decide
    have hready : ¬(¬d.localCapabilities.codecs.contains CodecCapabilities.h264 ∨
        ¬(CapabilitiesPayload.ofCapabilities (hostCapabilities config)).codecs.contains
          CodecCapabilities.h264) := by
      rw [hlocal]
      exact not_or.mpr ⟨not_not.mpr hcodec, not_not.mpr hhost⟩
    refine .negotiated ?_
    simp only [AndroidDisplaySession.finishNegotiationIfReady, h.remoteHello, if_neg hready]
    exact ⟨rfl, rfl, rfl, rfl, h.failed, h.activeConfiguration⟩
  · exact .refused hcodec

theorem Negotiated.receive {d : AndroidDisplaySession} {frame : LdflFrame}
    {established : EstablishedHostSession} (h : Negotiated config nonce d)
    {env : SessionEnvironment} (henv : env.configurationRejectionReason = rejection)
    (hlocal : d.localCapabilities = .ofCapabilities party.capabilities)
    (hestablish : (complete config nonce party).establish = .ok established)
    (htype : frame.messageType = .displayConfig) (hsequence : frame.sequence = 2)
    (hdecode : frame.decodePayload =
      .ok ⟨.displayConfig, DisplayConfigPayload.ofDisplayConfig established.displayConfig⟩) :
    DisplayStage config nonce party rejection 3 (d.handleInboundFrame env frame) := by
  obtain ⟨hcompatible, -⟩ := establish_ok config nonce party hestablish
  have hvalid := fun reason => invalidReason_within hcompatible.codec hcompatible.profile
    hcompatible.limits reason
  rw [← hlocal] at hvalid
  rw [AndroidDisplaySession.receive_configuration h.inboundHighest h.remoteHello
    h.remoteCapabilities h.negotiated h.failed h.activeConfiguration htype hsequence hdecode
    hcompatible.codec hcompatible.profile hvalid, henv]
  split
  · rename_i reason hreason
    exact .rejected (Nat.le_refl 3) hestablish (by simp [hreason])
  · exact .configured (Nat.le_refl 3) hestablish
      ⟨⟨2, rfl, rfl⟩, h.negotiated, h.failed, rfl⟩

/-- The display takes the packet at its position. -/
theorem DisplayStage.receive {n : Nat} {packet : Packet} {d : AndroidDisplaySession}
    (hd : DisplayStage config nonce party rejection n d)
    (hp : HostSends config nonce party n packet) {env : SessionEnvironment}
    (henv : env.configurationRejectionReason = rejection)
    (hlocal : d.localCapabilities = .ofCapabilities party.capabilities) :
    ∃ frame consumed,
      Android.FrameCodec.decodePrefix (signed packet.payload) 0 = .ok (.complete frame consumed) ∧
      DisplayStage config nonce party rejection (n + 1) (d.handleInboundFrame env frame) := by
  cases hp with
  | hello h =>
    obtain ⟨frame, consumed, hcomplete, htype, hsequence, hdecode⟩ := h.display
    refine ⟨frame, consumed, hcomplete, ?_⟩
    cases hd with
    | fresh hfresh => exact .greeted (hfresh.receive env htype hsequence hdecode)
    | configured hn | rejected hn => cases hn
  | capabilities h =>
    obtain ⟨frame, consumed, hcomplete, htype, hsequence, hdecode⟩ := h.display
    refine ⟨frame, consumed, hcomplete, ?_⟩
    cases hd with
    | greeted hgreeted => exact hgreeted.receive env hlocal htype hsequence hdecode
    | configured hn | rejected hn => omega
  | configuration hestablish h =>
    obtain ⟨frame, consumed, hcomplete, htype, hsequence, hdecode⟩ := h.display
    refine ⟨frame, consumed, hcomplete, ?_⟩
    cases hd with
    | negotiated hnegotiated =>
      exact hnegotiated.receive henv hlocal hestablish htype hsequence hdecode
    | refused hcodec =>
      -- A host that establishes has found H.264 among the display's codecs.
      obtain ⟨hcompatible, -⟩ := establish_ok config nonce party hestablish
      exact absurd ((codec_shared_iff config party).mp hcompatible.codec_shared) hcodec
    | configured hn | rejected hn => omega
  | pong hi hn h =>
    obtain ⟨frame, consumed, hcomplete, htype, hsequence, hdecode⟩ := h.display
    refine ⟨frame, consumed, hcomplete, ?_⟩
    rw [← hsequence] at hn
    cases hd with
    | fresh | greeted | negotiated | refused => omega
    | configured _ hestablish hconfigured =>
      refine .configured (by omega) hestablish (hconfigured.keep hn ?_)
      exact AndroidDisplaySession.receive_pong (hconfigured.stale hn) hconfigured.failed
        (by simp [hconfigured.activeConfiguration]) htype hdecode
    | rejected _ hestablish hrejection => exact .rejected (by omega) hestablish hrejection
  | video hi hn h =>
    obtain ⟨frame, consumed, hcomplete, htype, hsequence, hdecode⟩ := h.display
    refine ⟨frame, consumed, hcomplete, ?_⟩
    rw [← hsequence] at hn
    cases hd with
    | fresh | greeted | negotiated | refused => omega
    | configured _ hestablish hconfigured =>
      refine .configured (by omega) hestablish (hconfigured.keep hn ?_)
      exact AndroidDisplaySession.receive_video (hconfigured.stale hn) hconfigured.failed
        (by simp [hconfigured.activeConfiguration]) hconfigured.negotiated htype
    | rejected _ hestablish hrejection => exact .rejected (by omega) hestablish hrejection

/-- The stage of the display does not depend on its lanes. -/
theorem DisplayStage.of_outbound {n : Nat} {d : AndroidDisplaySession}
    {outbound : Option SessionOutboundMux} (h : DisplayStage config nonce party rejection n d) :
    DisplayStage config nonce party rejection n { d with outbound } := by
  cases h with
  | fresh h => exact .fresh ⟨h.1, h.2, h.3, h.4, h.5⟩
  | greeted h => exact .greeted ⟨h.1, h.2, h.3, h.4, h.5⟩
  | negotiated h => exact .negotiated ⟨h.1, h.2, h.3, h.4, h.5, h.6⟩
  | refused hcodec => exact .refused hcodec
  | configured hn hestablish h => exact .configured hn hestablish ⟨h.1, h.2, h.3, h.4⟩
  | rejected hn hestablish hrejection => exact .rejected hn hestablish hrejection

/-- A packet that the host adds stays in flight. -/
theorem drop_sendToDisplay {packet : Packet} {n : Nat} (hdrop : s.toDisplay = s.hostSent.drop n)
    (hle : n ≤ s.hostSent.length) :
    (s.sendToDisplay packet).toDisplay = (s.sendToDisplay packet).hostSent.drop n ∧
      n ≤ (s.sendToDisplay packet).hostSent.length := by
  constructor
  · change s.toDisplay ++ [packet] = (s.hostSent ++ [packet]).drop n
    rw [hdrop, List.drop_append_of_le_length hle]
  · change n ≤ (s.hostSent ++ [packet]).length
    rw [List.length_append]
    omega

/-- The host sends its next packet and moves on. -/
theorem Consistent.send {packet : Packet} {phase : HostPhase}
    (h : Consistent config nonce party rejection s)
    (hpacket : HostSends config nonce party s.hostSent.length packet)
    (hstage : ∀ received, HostStage config nonce party received s.hostSent s.host s.handshake →
      HostStage config nonce party received (s.hostSent ++ [packet]) phase s.handshake) :
    Consistent config nonce party rejection { s.sendToDisplay packet with host := phase } := by
  obtain ⟨n, hdrop, hle, hdisplay⟩ := h.display
  obtain ⟨received, htoHost, hreceived, hhost⟩ := h.host
  obtain ⟨hdrop, hle⟩ := drop_sendToDisplay hdrop hle
  exact ⟨h.sends.concat hpacket, ⟨n, hdrop, hle, hdisplay⟩,
    ⟨received, htoHost, hreceived, hstage received hhost⟩, h.localCapabilities, h.outbox⟩

/-- The host moves on without a packet. -/
theorem Consistent.move {phase : HostPhase} (h : Consistent config nonce party rejection s)
    (hstage : ∀ received, HostStage config nonce party received s.hostSent s.host s.handshake →
      HostStage config nonce party received s.hostSent phase s.handshake) :
    Consistent config nonce party rejection { s with host := phase } := by
  obtain ⟨received, htoHost, hreceived, hhost⟩ := h.host
  exact ⟨h.sends, h.display, ⟨received, htoHost, hreceived, hstage received hhost⟩,
    h.localCapabilities, h.outbox⟩

theorem HostStage.sent_le {received : Nat} {sent : List Packet} {phase : HostPhase}
    {handshake : HostHandshake} (h : HostStage config nonce party received sent phase handshake)
    (hphase : ∀ established next, phase ≠ .established established next) : sent.length ≤ 2 := by
  cases h with
  | opening _ _ hsent =>
    rw [List.length_append] at hsent
    omega
  | waiting _ hsent | greeted _ hsent | configuring _ hsent => exact Nat.le_of_eq hsent
  | established => exact absurd rfl (hphase _ _)
  | failed hsent => exact hsent

theorem Consistent.hostSend (h : Consistent config nonce party rejection s)
    (hstep : s.hostSend = some t) : Consistent config nonce party rejection t := by
  obtain ⟨received, -, -, hhost⟩ := h.host
  unfold HandshakeState.hostSend at hstep
  split at hstep
  · rename_i hphase
    cases hstep
    refine h.move fun received hstage => ?_
    rw [hphase] at hstage
    generalize s.handshake = handshake at hstage ⊢
    cases hstage with
    | opening hreceived hpackets hsent => exact .waiting hreceived (by simpa using hsent)
  · rename_i packet packets hphase
    cases hstep
    have hnext : HostSends config nonce party s.hostSent.length packet := by
      rw [hphase] at hhost
      generalize s.handshake = handshake at hhost
      cases hhost with
      | opening hreceived hpackets hsent => exact hpackets s.hostSent.length packet (by simp)
    refine h.send hnext fun received hstage => ?_
    rw [hphase] at hstage
    generalize s.handshake = handshake at hstage ⊢
    cases hstage with
    | opening hreceived hpackets hsent =>
      exact .opening hreceived (by simpa using hpackets) (by simpa using hsent)
  · rename_i established hphase
    obtain ⟨packet, hpacket, -, hcarries⟩ :=
      controlPacket_carries .displayConfig displayConfigSequence established.displayConfig
    have hpacket : controlPacket displayConfigSequence established.displayConfig = .ok packet :=
      hpacket
    simp only [hpacket] at hstep
    cases hstep
    rw [hphase] at hhost
    cases hhost with
    | configuring hestablish hsent =>
      refine h.send (by rw [hsent]; exact .configuration hestablish hcarries) fun _ _ => ?_
      obtain ⟨-, hnext⟩ := establish_ok config nonce party hestablish
      refine .established hestablish (by simp [hsent]) fun sequence hsequence => ?_
      cases hsequence
      rw [hnext, List.length_append, hsent]
      rfl
  all_goals cases hstep

theorem Consistent.hostReceive (h : Consistent config nonce party rejection s)
    (hstep : s.hostReceive = some t) : Consistent config nonce party rejection t := by
  obtain ⟨received, hdrop, hreceived, hhost⟩ := h.host
  obtain ⟨mux, hmux, houtbox⟩ := h.outbox
  unfold HandshakeState.hostReceive at hstep
  split at hstep
  · rename_i packet toHost hphase htoHost
    obtain ⟨hnext, hrest⟩ := drop_eq_cons (hdrop ▸ htoHost)
    have hlt : received < s.displaySent.length := (List.getElem?_eq_some_iff.mp hnext).1
    have hpacket := houtbox.sends received packet hnext
    -- Both display payloads are stored in their order, whatever the host's schedule.
    have hstage : ∀ handshake phase, HostStage config nonce party (received + 1) s.hostSent phase
        handshake → Consistent config nonce party rejection
          { s with handshake, toHost, host := phase } := fun handshake phase hstage =>
      ⟨h.sends, h.display, ⟨received + 1, hrest, hlt, hstage⟩, h.localCapabilities, h.outbox⟩
    rw [hphase] at hhost
    generalize hhandshake : s.handshake = handshake at hhost hstep
    cases hhost with
    | waiting hzero hsent =>
      subst hzero
      cases hpacket with
      | hello hchannel hcarries =>
        rw [accept_hello config nonce party hchannel hcarries] at hstep
        cases hstep
        have hgreeted := hstage _ .waiting (.greeted rfl hsent)
        rw [← hphase] at hgreeted
        exact hgreeted
      | later hi => cases hi
    | greeted hone hsent =>
      subst hone
      cases hpacket with
      | capabilities hchannel hcarries =>
        have haccept : (greeted config nonce party).accept packet = _ :=
          accept_capabilities config nonce party hchannel hcarries
        rw [haccept] at hstep
        cases hestablish : (complete config nonce party).establish with
        | error error =>
          simp only [hestablish, Except.map] at hstep
          cases hstep
          rw [← hhandshake]
          exact hstage _ _ (.failed (Nat.le_of_eq hsent))
        | ok established =>
          simp only [hestablish, Except.map] at hstep
          cases hstep
          exact hstage _ _ (.configuring hestablish hsent)
      | later hi => omega
  · cases hstep

theorem Consistent.hostInterrupt {error : HostError}
    (h : Consistent config nonce party rejection s) (hstep : s.hostInterrupt error = some t) :
    Consistent config nonce party rejection t := by
  unfold HandshakeState.hostInterrupt at hstep
  split at hstep
  case h_4 | h_5 => cases hstep
  all_goals
    rename_i hphase
    cases hstep
    refine h.move fun received hstage => .failed (hstage.sent_le fun established next heq => ?_)
    rw [hphase] at heq
    cases heq

theorem streamPacket_sends {sequence : UInt64} (hactive : 3 ≤ sequence.toNat)
    {payload : StreamPayload} {packet : Packet}
    (h : HandshakeState.streamPacket sequence payload = .ok packet) :
    HostSends config nonce party sequence.toNat packet := by
  cases payload with
  | pong pong =>
    obtain ⟨frame, hframe, hkind, hsequence, hdecode, -, hkotlin⟩ :=
      LdflFrame.exists_framed .pong pong Protocol.FrameFlags.none sequence
    have hframe : Frame.fromPayload Protocol.FrameFlags.none sequence pong = .ok frame := hframe
    simp only [HandshakeState.streamPacket, hframe, bind_ok] at h
    cases h
    exact .pong hactive rfl ⟨frame, rfl, hkind, hsequence, hdecode, hkotlin⟩
  | video flags video =>
    obtain ⟨frame, hframe, hkind, hsequence, hdecode, -, hkotlin⟩ :=
      LdflFrame.exists_framed .videoFrame video flags sequence
    have hframe : Frame.fromPayload flags sequence video = .ok frame := hframe
    simp only [HandshakeState.streamPacket, hframe, bind_ok] at h
    cases h
    exact .video hactive rfl ⟨frame, rfl, hkind, hsequence, hdecode, hkotlin⟩

theorem Consistent.hostStream {payload : StreamPayload}
    (h : Consistent config nonce party rejection s) (hstep : s.hostStream payload = some t) :
    Consistent config nonce party rejection t := by
  obtain ⟨received, -, -, hhost⟩ := h.host
  unfold HandshakeState.hostStream at hstep
  split at hstep
  · rename_i established sequence hphase
    rw [hphase] at hhost
    cases hhost with
    | established hestablish hsent hnext =>
      have hsequence := hnext sequence rfl
      split at hstep
      · rename_i packet hpacket
        cases hstep
        have hsends : HostSends config nonce party s.hostSent.length packet :=
          hsequence ▸ streamPacket_sends (by omega) hpacket
        refine h.send hsends fun _ _ => .established hestablish ?_ fun next hsucc => ?_
        · rw [List.length_append]
          omega
        · rw [List.length_append, ← hsequence]
          exact Core.Session.checkedSucc64_eq_some hsucc
      · cases hstep
        exact h.move fun _ _ => .established hestablish hsent nofun
  · cases hstep

/-- One turn of the write loop takes one queued payload. -/
theorem Outbox.write {sent : List Packet} {mux mux' : SessionOutboundMux}
    {result : Except String LdflFrame} (h : Outbox party sent mux)
    (hwrite : mux.writeNext = some (result, mux')) :
    (∃ frame bytes, result = .ok frame ∧ Android.FrameCodec.encode frame = .ok bytes ∧
      Outbox party (sent ++ [.control (unsigned bytes)]) mux') ∨
    2 ≤ sent.length := by
  by_cases hlength : 2 ≤ sent.length
  · exact .inr hlength
  obtain ⟨extra, hcontrol⟩ := h.pending
  obtain ⟨hsequence, hexhausted⟩ := h.sequence (by omega)
  left
  match sent, h, hcontrol with
  | [], h, hcontrol =>
    obtain ⟨frame, bytes, hnext, hencode, hcarries⟩ :=
      @writeNext_carries mux .hello party.hello _ hcontrol.symm hexhausted
        (by rw [hsequence]; decide)
    rw [hnext] at hwrite
    cases hwrite
    refine ⟨frame, bytes, rfl, hencode, h.sends.concat (.hello rfl ?_), ⟨extra, rfl⟩, fun _ => ?_⟩
    · rw [hsequence] at hcarries
      exact hcarries
    · exact ⟨by rw [hsequence]; rfl, hexhausted⟩
  | [first], h, hcontrol =>
    obtain ⟨frame, bytes, hnext, hencode, hcarries⟩ :=
      @writeNext_carries mux .capabilities party.capabilities _ hcontrol.symm hexhausted
        (by rw [hsequence, List.length_singleton]; decide)
    rw [hnext] at hwrite
    cases hwrite
    refine ⟨frame, bytes, rfl, hencode, h.sends.concat (.capabilities rfl ?_), ⟨extra, rfl⟩,
      fun hlt => ?_⟩
    · rw [hsequence] at hcarries
      exact hcarries
    · simp at hlt
  | _ :: _ :: _, h, hcontrol => simp at hlength

/-- Once both announcements are sent, the lanes are free. -/
theorem outbox_announced {sent : List Packet} (hsends : Indexed (DisplaySends party) sent)
    (hlength : 2 ≤ sent.length) (mux : SessionOutboundMux) : Outbox party sent mux := by
  refine ⟨hsends, ?_, fun hlt => absurd hlength (Nat.not_le.mpr hlt)⟩
  rw [List.drop_eq_nil_of_le (by simpa [DisplayParty.announcements] using hlength)]
  exact List.nil_prefix

theorem Consistent.displayWrite (h : Consistent config nonce party rejection s)
    (hstep : s.displayWrite = some t) : Consistent config nonce party rejection t := by
  obtain ⟨mux, hmux, houtbox⟩ := h.outbox
  obtain ⟨received, hdrop, hreceived, hhost⟩ := h.host
  have hdisplay : ∀ mux', ∃ n, s.toDisplay = s.hostSent.drop n ∧ n ≤ s.hostSent.length ∧
      DisplayStage config nonce party rejection n { s.display with outbound := some mux' } := by
    intro mux'
    obtain ⟨n, hdrop, hle, hstage⟩ := h.display
    exact ⟨n, hdrop, hle, hstage.of_outbound⟩
  simp only [HandshakeState.displayWrite, hmux, Option.bind_eq_bind, Option.bind_some,
    Option.bind_eq_some_iff, Prod.exists] at hstep
  obtain ⟨result, mux', hwrite, hstep⟩ := hstep
  have hsent : ∀ packet, Outbox party (s.displaySent ++ [packet]) mux' →
      Consistent config nonce party rejection { s with
        display := { s.display with outbound := some mux' }
        toHost := s.toHost ++ [packet]
        displaySent := s.displaySent ++ [packet] } := by
    intro packet hnext
    refine ⟨h.sends, hdisplay mux', ⟨received, ?_, ?_, hhost⟩, h.localCapabilities, mux', rfl, hnext⟩
    · rw [hdrop, List.drop_append_of_le_length hreceived]
    · rw [List.length_append]
      omega
  rcases houtbox.write hwrite with ⟨frame, bytes, rfl, hencode, hnext⟩ | hlength
  · simp only [hencode] at hstep
    cases hstep
    exact hsent _ hnext
  · have hdropped : Consistent config nonce party rejection
        { s with display := { s.display with outbound := some mux' } } :=
      ⟨h.sends, hdisplay mux', ⟨received, hdrop, hreceived, hhost⟩, h.localCapabilities, mux', rfl,
        outbox_announced houtbox.sends hlength mux'⟩
    split at hstep
    · cases hstep
      exact hdropped
    · split at hstep
      · cases hstep
        exact hdropped
      · cases hstep
        refine hsent _ (outbox_announced (houtbox.sends.concat (.later hlength)) ?_ mux')
        rw [List.length_append]
        omega

theorem Consistent.displayReceive {env : SessionEnvironment}
    (h : Consistent config nonce party rejection s)
    (hstep : s.displayReceive rejection env = some t) :
    Consistent config nonce party rejection t := by
  obtain ⟨n, hdrop, hle, hdisplay⟩ := h.display
  obtain ⟨mux, hmux, houtbox⟩ := h.outbox
  unfold HandshakeState.displayReceive at hstep
  split at hstep
  · cases hstep
  · rename_i packet toDisplay htoDisplay
    obtain ⟨hnext, hrest⟩ := drop_eq_cons (hdrop ▸ htoDisplay)
    obtain ⟨frame, consumed, hcomplete, hstage⟩ :=
      @DisplayStage.receive config nonce party rejection n packet s.display hdisplay
        (h.sends n packet hnext) { env with configurationRejectionReason := rejection } rfl
        h.localCapabilities
    simp only [hcomplete] at hstep
    cases hstep
    have hextends := AndroidDisplaySession.handleInboundFrame_extends
      { env with configurationRejectionReason := rejection } s.display frame
    obtain ⟨extra, -, houtbound⟩ := hextends.outbound
    rw [hmux, Option.map_some] at houtbound
    obtain ⟨rest, hcontrol⟩ := houtbox.pending
    refine ⟨h.sends, ⟨n + 1, hrest, (List.getElem?_eq_some_iff.mp hnext).1, hstage⟩, h.host,
      hextends.localCapabilities.trans h.localCapabilities, _, houtbound, houtbox.sends, ?_,
      houtbox.sequence⟩
    exact houtbox.pending.trans (List.prefix_append _ _)

theorem Consistent.step {action : HandshakeAction} (h : Consistent config nonce party rejection s)
    (hstep : s.step rejection action = some t) : Consistent config nonce party rejection t := by
  cases action with
  | hostSend => exact h.hostSend hstep
  | hostReceive => exact h.hostReceive hstep
  | hostInterrupt error => exact h.hostInterrupt hstep
  | hostStream payload => exact h.hostStream hstep
  | displayWrite => exact h.displayWrite hstep
  | displayReceive env => exact h.displayReceive hstep

end Steps

section Runs

variable (config : HostProtocolConfig) (nonce : Nonce) (party : DisplayParty)

/-- The parties can always start. -/
theorem start_consistent : ∃ s, HandshakeState.start config nonce party = .ok s ∧
    ∀ rejection, Consistent config nonce party rejection s := by
  obtain ⟨hello, hhello, -, hcarriesHello⟩ :=
    controlPacket_carries .hello helloSequence (hostHello nonce)
  obtain ⟨capabilities, hcapabilities, -, hcarriesCapabilities⟩ :=
    controlPacket_carries .capabilities capabilitiesSequence (hostCapabilities config)
  have hinitial : (opened config nonce).initialPackets = .ok [hello, capabilities] := by
    have hhello : controlPacket helloSequence (opened config nonce).hostHello = .ok hello := hhello
    have hcapabilities : controlPacket capabilitiesSequence (opened config nonce).hostCapabilities =
        .ok capabilities := hcapabilities
    rw [HostHandshake.initialPackets, hhello, bind_ok, hcapabilities, bind_ok]
  obtain ⟨hfresh, hlocal, houtbound⟩ :=
    beginHandshake_fresh party party.accessoryName party.environment
  rw [HandshakeState.start, withNonce_eq, bind_ok, hinitial, bind_ok]
  refine ⟨_, rfl, fun rejection => ⟨nofun, ⟨0, rfl, Nat.le_refl 0, .fresh hfresh⟩,
    ⟨0, rfl, Nat.le_refl 0, .opening rfl ?_ rfl⟩, hlocal, _, houtbound, nofun, ?_, fun _ => ?_⟩⟩
  · have hnil : Indexed (HostSends config nonce party) [] := nofun
    exact (hnil.concat (.hello hcarriesHello)).concat (.capabilities hcarriesCapabilities)
  · exact List.prefix_refl _
  · exact ⟨rfl, rfl⟩

end Runs

end LadoFlow.System
