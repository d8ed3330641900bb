import LadoFlow.System.HandshakeInvariant

/-!
# Agreement on the display configuration

In every run of the handshake the display accepts the configuration that the host chose, unless
its decoder refuses it. When there is no such configuration the run ends with a failed host. The
host never streams before it has sent the configuration.
-/

namespace LadoFlow.System

open Framework
open LadoFlow.Protocol (Hello Capabilities DisplayConfig Pong VideoFrame Nonce MessageType Frame
  Payload WirePayload)
open LadoFlow.Transport (Packet)
open LadoFlow.Host
open LadoFlow.Android (AndroidDisplaySession SessionEnvironment DisplayConfigPayload LdflFrame
  SessionOutboundMux HelloPayload CapabilitiesPayload)

namespace HostPhase

/-- An upper bound on the packets that the host still handles, and on its own moves. -/
def workload : HostPhase → Nat
  | .opening packets => 6 + 4 * packets.length
  | .waiting => 5
  | .configuring _ => 4
  | .established .. | .failed _ => 0

end HostPhase

namespace HandshakeState

def queued (mux : SessionOutboundMux) : Nat :=
  mux.control.length + mux.criticalInput.length + mux.coalescibleInput.length

/-- A bound on the remaining steps of a handshake without streaming. A packet to the display
counts for its own step and for one answer. -/
def workload (s : HandshakeState) : Nat :=
  s.host.workload + 3 * s.toDisplay.length + 2 * (s.display.outbound.elim 0 queued) +
    s.toHost.length

/-- No party has anything to send or to take. -/
structure Quiescent (s : HandshakeState) : Prop where
  hostSend : s.hostSend = none
  hostReceive : s.hostReceive = none
  displayWrite : s.displayWrite = none
  toDisplay : s.toDisplay = []

variable {rejection : DisplayConfigPayload → Option String} {s t : HandshakeState}

theorem hostSend_workload (h : s.hostSend = some t) : t.workload < s.workload := by
  unfold hostSend at h
  split at h
  · rename_i hphase
    cases h
    simp only [workload, hphase, HostPhase.workload]
    omega
  · rename_i packet packets hphase
    cases h
    simp only [workload, sendToDisplay, hphase, HostPhase.workload, List.length_append,
      List.length_cons, List.length_nil]
    omega
  · rename_i established hphase
    split at h
    · cases h
      simp only [workload, sendToDisplay, hphase, HostPhase.workload, List.length_append,
        List.length_cons, List.length_nil]
      omega
    · cases h
      simp only [workload, hphase, HostPhase.workload]
      omega
  all_goals cases h

theorem hostReceive_workload (h : s.hostReceive = some t) : t.workload < s.workload := by
  unfold hostReceive at h
  split at h
  · rename_i packet toHost hphase htoHost
    split at h <;> cases h <;>
      simp only [workload, hphase, htoHost, HostPhase.workload, List.length_cons] <;> omega
  · cases h

theorem hostInterrupt_workload {error : HostError} (h : s.hostInterrupt error = some t) :
    t.workload < s.workload := by
  unfold hostInterrupt at h
  split at h
  case h_4 | h_5 => cases h
  all_goals
    rename_i hphase
    cases h
    simp only [workload, hphase, HostPhase.workload]
    omega

theorem receiveNext_queued {mux mux' : SessionOutboundMux} {outbound : Android.OutboundPayload}
    (h : mux.receiveNext = some (outbound, mux')) : queued mux = queued mux' + 1 := by
  unfold SessionOutboundMux.receiveNext at h
  split at h <;> cases h <;> simp only [queued, *, List.length_cons] <;> omega

theorem writeNext_queued {mux mux' : SessionOutboundMux} {result : Except String LdflFrame}
    (h : mux.writeNext = some (result, mux')) : queued mux = queued mux' + 1 := by
  unfold SessionOutboundMux.writeNext at h
  split at h
  · cases h
  · rename_i outbound rest hnext
    rw [receiveNext_queued hnext]
    split at h
    · cases h
      rfl
    · simp only at h
      split at h <;> split at h <;> cases h <;> rfl

theorem displayWrite_workload (h : s.displayWrite = some t) : t.workload < s.workload := by
  simp only [displayWrite, Option.bind_eq_bind, Option.bind_eq_some_iff, Prod.exists] at h
  obtain ⟨mux, hmux, result, mux', hwrite, h⟩ := h
  have hqueued := writeNext_queued hwrite
  split at h
  · cases h
    simp only [workload, hmux, Option.elim_some]
    omega
  · split at h <;> cases h <;>
      simp only [workload, hmux, Option.elim_some, List.length_append, List.length_cons,
        List.length_nil] <;> omega

theorem displayReceive_workload {env : SessionEnvironment}
    (h : s.displayReceive rejection env = some t) : t.workload < s.workload := by
  unfold displayReceive at h
  split at h
  · cases h
  · rename_i packet toDisplay htoDisplay
    split at h
    · rename_i frame _ hcomplete
      cases h
      obtain ⟨extra, hextra, houtbound⟩ := (AndroidDisplaySession.handleInboundFrame_extends
        { env with configurationRejectionReason := rejection } s.display frame).outbound
      simp only [workload, houtbound, htoDisplay, List.length_cons]
      cases s.display.outbound with
      | none =>
        simp only [Option.map_none, Option.elim_none]
        omega
      | some mux =>
        simp only [Option.map_some, Option.elim_some, queued, List.length_append]
        omega
    · cases h
      simp only [workload, htoDisplay, List.length_cons]
      omega

/-- Every step except streaming uses up work. -/
theorem step_workload {action : HandshakeAction} (h : s.step rejection action = some t)
    (hstream : ∀ payload, action ≠ .hostStream payload) : t.workload < s.workload := by
  cases action with
  | hostSend => exact hostSend_workload h
  | hostReceive => exact hostReceive_workload h
  | hostInterrupt error => exact hostInterrupt_workload h
  | hostStream payload => exact absurd rfl (hstream payload)
  | displayWrite => exact displayWrite_workload h
  | displayReceive env => exact displayReceive_workload h

end HandshakeState

section Agreement

variable {config : HostProtocolConfig} {nonce : Nonce} {party : DisplayParty}
  {rejection : DisplayConfigPayload → Option String} {s t : HandshakeState}

theorem start_workload (h : HandshakeState.start config nonce party = .ok s) :
    s.workload = 18 := by
  simp only [HandshakeState.start, bind_eq_ok, HostHandshake.initialPackets] at h
  obtain ⟨handshake, -, packets, ⟨hello, -, capabilities, -, hpackets⟩, h⟩ := h
  cases hpackets
  cases h
  obtain ⟨-, -, houtbound⟩ := beginHandshake_fresh party party.accessoryName party.environment
  simp only [HandshakeState.workload, houtbound]
  rfl

theorem HostSends.hello_of {packet : Packet} (h : HostSends config nonce party 0 packet) :
    Carries packet .hello 0 (hostHello nonce) := by
  cases h with
  | hello h => exact h
  | pong hi | video hi => cases hi

theorem HostSends.capabilities_of {packet : Packet} (h : HostSends config nonce party 1 packet) :
    Carries packet .capabilities 1 (hostCapabilities config) := by
  cases h with
  | capabilities h => exact h
  | pong hi | video hi => omega

theorem HostSends.configuration_of {packet : Packet}
    (h : HostSends config nonce party 2 packet) :
    ∃ established, (complete config nonce party).establish = .ok established ∧
      Carries packet .displayConfig 2 established.displayConfig := by
  cases h with
  | configuration hestablish h => exact ⟨_, hestablish, h⟩
  | pong hi | video hi => omega

/-- A packet of another family is not decoded as video. -/
theorem HostSends.video_position {i : Nat} {packet : Packet} {frame : Frame} {consumed : Nat}
    (h : HostSends config nonce party i packet)
    (hdecode : Frame.decodePrefix packet.payload = .ok (.complete frame consumed))
    (hkind : frame.header.kind = .videoFrame) : 2 < i := by
  have hother : ∀ {kind sequence v}, Carries packet kind sequence v → kind = .videoFrame := by
    intro kind sequence v hcarries
    obtain ⟨decoded, hcomplete, hdecoded, -⟩ := hcarries.host
    rw [hdecode] at hcomplete
    cases hcomplete
    exact hdecoded.symm.trans hkind
  cases h with
  | hello h | capabilities h | configuration _ h => cases hother h
  | pong hi _ h | video hi _ h => exact hi

/-- The packets of an established host open with the handshake. -/
theorem Consistent.established_sent {established : EstablishedHostSession}
    {next : Option UInt64} (h : Consistent config nonce party rejection s)
    (hphase : s.host = .established established next) :
    (complete config nonce party).establish = .ok established ∧
    ∃ hello capabilities configuration stream,
      s.hostSent = hello :: capabilities :: configuration :: stream ∧
      Carries hello .hello 0 (hostHello nonce) ∧
      Carries capabilities .capabilities 1 (hostCapabilities config) ∧
      Carries configuration .displayConfig 2 established.displayConfig := by
  obtain ⟨received, -, -, hhost⟩ := h.host
  have hsends := h.sends
  rw [hphase] at hhost
  generalize s.handshake = handshake at hhost
  generalize s.hostSent = sent at hhost hsends
  cases hhost with
  | established hestablish hsent hnext =>
    refine ⟨hestablish, ?_⟩
    match sent, hsent, hsends with
    | hello :: capabilities :: configuration :: stream, _, hsends =>
      obtain ⟨chosen, hchosen, hcarries⟩ := (hsends 2 configuration rfl).configuration_of
      cases hestablish.symm.trans hchosen
      exact ⟨hello, capabilities, configuration, stream, rfl, (hsends 0 hello rfl).hello_of,
        (hsends 1 capabilities rfl).capabilities_of, hcarries⟩

/-- The display's stage is that of the packets no longer in flight. -/
theorem Consistent.display_stage {n : Nat} (h : Consistent config nonce party rejection s)
    (hn : s.toDisplay.length + n = s.hostSent.length) :
    DisplayStage config nonce party rejection n s.display := by
  obtain ⟨taken, hdrop, hle, hstage⟩ := h.display
  have hlength := congrArg List.length hdrop
  rw [List.length_drop] at hlength
  have htaken : taken = n := by omega
  exact htaken ▸ hstage

theorem Consistent.awaits_configuration {established : EstablishedHostSession}
    (h : Consistent config nonce party rejection s)
    (hestablish : (complete config nonce party).establish = .ok established)
    (hn : s.toDisplay.length + 2 = s.hostSent.length) : Negotiated config nonce s.display := by
  obtain ⟨hcompatible, -⟩ := establish_ok config nonce party hestablish
  have hstage := h.display_stage hn
  generalize s.display = d at hstage
  cases hstage with
  | negotiated h => exact h
  | refused hcodec =>
    exact absurd ((codec_shared_iff config party).mp hcompatible.codec_shared) hcodec
  | configured hn | rejected hn => omega

theorem Consistent.uses_configuration {established : EstablishedHostSession}
    (h : Consistent config nonce party rejection s)
    (hestablish : (complete config nonce party).establish = .ok established)
    (hn : s.toDisplay.length + 3 ≤ s.hostSent.length)
    (hrejection : rejection (.ofDisplayConfig established.displayConfig) = none) :
    s.display.activeConfiguration = some (.ofDisplayConfig established.displayConfig) ∧
      s.display.failed = false := by
  obtain ⟨n, hlength⟩ := Nat.exists_eq_add_of_le hn
  have hstage := @Consistent.display_stage config nonce party rejection s (3 + n) h (by omega)
  generalize hthree : 3 + n = taken at hstage
  cases hstage with
  | fresh | greeted | negotiated | refused => omega
  | configured _ hchosen hconfigured =>
    cases hestablish.symm.trans hchosen
    exact ⟨hconfigured.activeConfiguration, hconfigured.failed⟩
  | rejected _ hchosen hrejected =>
    cases hestablish.symm.trans hchosen
    exact absurd hrejection hrejected

/-- Without a compatible configuration the host stops before it establishes. -/
theorem not_establish (hnone : ¬∃ displayConfig,
    Compatible config (sharedLimits config party) displayConfig)
    (established : EstablishedHostSession) :
    (complete config nonce party).establish ≠ .ok established := fun hestablish =>
  hnone ⟨_, (establish_ok config nonce party hestablish).1⟩

theorem hostStream_established {payload : StreamPayload} (h : s.hostStream payload = some t) :
    ∃ established next, s.host = .established established next := by
  unfold HandshakeState.hostStream at h
  split at h
  · rename_i established sequence hphase
    exact ⟨established, some sequence, hphase⟩
  · cases h

theorem Consistent.step_incompatible {action : HandshakeAction}
    (h : Consistent config nonce party rejection s)
    (hnone : ¬∃ displayConfig, Compatible config (sharedLimits config party) displayConfig)
    (hstep : s.step rejection action = some t) :
    Consistent config nonce party rejection t ∧ t.workload < s.workload := by
  refine ⟨h.step hstep, HandshakeState.step_workload hstep fun payload haction => ?_⟩
  subst haction
  obtain ⟨established, next, hphase⟩ := hostStream_established hstep
  exact not_establish hnone established (h.established_sent hphase).1

/-- The announcements leave the lanes before the display has nothing to write. -/
theorem Outbox.announced_of_empty {sent : List Packet} {mux : SessionOutboundMux}
    (h : Outbox party sent mux) (hempty : mux.writeNext = none) : 2 ≤ sent.length := by
  have hcontrol : mux.control = [] := by
    unfold SessionOutboundMux.writeNext at hempty
    split at hempty
    · rename_i hnext
      unfold SessionOutboundMux.receiveNext at hnext
      split at hnext <;> first | assumption | cases hnext
    · split at hempty
      · cases hempty
      · simp only at hempty
        split at hempty <;> cases hempty
  have hpending := h.pending
  rw [hcontrol, List.prefix_nil, List.drop_eq_nil_iff] at hpending
  exact hpending

theorem Consistent.failed_of_quiescent (h : Consistent config nonce party rejection s)
    (hnone : ¬∃ displayConfig, Compatible config (sharedLimits config party) displayConfig)
    (hquiescent : s.Quiescent) : ∃ error, s.host = .failed error := by
  obtain ⟨received, hdrop, hreceived, hhost⟩ := h.host
  obtain ⟨mux, hmux, houtbox⟩ := h.outbox
  have hwrite := hquiescent.displayWrite
  have hreceive := hquiescent.hostReceive
  have hsend := hquiescent.hostSend
  have hempty : mux.writeNext = none := by
    cases hnext : mux.writeNext with
    | none => rfl
    | some next =>
      simp only [HandshakeState.displayWrite, hmux, hnext, Option.bind_eq_bind,
        Option.bind_some] at hwrite
      split at hwrite
      · cases hwrite
      · split at hwrite <;> cases hwrite
  have hsent := houtbox.announced_of_empty hempty
  -- A waiting host with both announcements on the way has a packet to take.
  have hwaiting : s.host = .waiting → 2 ≤ received := by
    intro hphase
    cases htoHost : s.toHost with
    | nil =>
      rw [hdrop, List.drop_eq_nil_iff] at htoHost
      omega
    | cons packet toHost =>
      simp only [HandshakeState.hostReceive, hphase, htoHost] at hreceive
      split at hreceive <;> cases hreceive
  generalize hphase : s.host = phase at hhost
  generalize s.handshake = handshake at hhost
  cases hhost with
  | @opening packets =>
    cases packets <;> simp only [HandshakeState.hostSend, hphase] at hsend <;> cases hsend
  | waiting hzero | greeted hone =>
    have := hwaiting hphase
    omega
  | configuring hestablish | established hestablish =>
    exact absurd hestablish (not_establish hnone _)
  | failed => exact ⟨_, rfl⟩

end Agreement

/-- What holds in the state `s` that a run with the given actions reaches. -/
structure Agreement (config : HostProtocolConfig) (nonce : Nonce) (party : DisplayParty)
    (rejection : DisplayConfigPayload → Option String) (actions : List HandshakeAction)
    (s : HandshakeState) : Prop where
  /-- The configuration follows Hello and Capabilities and is within both advertisements. -/
  sent : ∀ established next, s.host = .established established next →
    WithinLimits (Core.intersect (hostCapabilities config) party.capabilities)
      established.displayConfig ∧
    established.displayConfig.codec = .h264 ∧ established.displayConfig.profile = .h264Main ∧
    ∃ hello capabilities configuration stream,
      s.hostSent = hello :: capabilities :: configuration :: stream ∧
      Carries hello .hello 0 (hostHello nonce) ∧
      Carries capabilities .capabilities 1 (hostCapabilities config) ∧
      Carries configuration .displayConfig 2 established.displayConfig
  /-- The display that takes the configuration next finds no fault with it. -/
  passes : ∀ established next, s.host = .established established next →
    s.toDisplay.length + 2 = s.hostSent.length → Negotiated config nonce s.display ∧
      AndroidDisplaySession.invalidReason s.display.localCapabilities
        (.ofCapabilities (hostCapabilities config))
        (.ofDisplayConfig established.displayConfig) none = none
  /-- A display that took the configuration uses it. -/
  active : ∀ established next, s.host = .established established next →
    s.toDisplay.length + 3 ≤ s.hostSent.length →
    rejection (.ofDisplayConfig established.displayConfig) = none →
    s.display.activeConfiguration = some (.ofDisplayConfig established.displayConfig) ∧
      s.display.failed = false
  /-- Without a compatible configuration the run is short and leaves a failed host. -/
  incompatible :
    (¬∃ displayConfig, Compatible config
      (Core.intersect (hostCapabilities config) party.capabilities) displayConfig) →
    actions.length ≤ 18 ∧ (s.Quiescent → ∃ error, s.host = .failed error)
  /-- Video comes after the configuration. -/
  video : ∀ i packet frame consumed, s.hostSent[i]? = some packet →
    Frame.decodePrefix packet.payload = .ok (.complete frame consumed) →
    frame.header.kind = .videoFrame → 2 < i ∧ ∃ configuration established,
      s.hostSent[2]? = some configuration ∧
      (complete config nonce party).establish = .ok established ∧
      Carries configuration .displayConfig 2 established.displayConfig

/-- Host and display agree on the configuration in every run. -/
theorem configuration_agreement (config : HostProtocolConfig) (nonce : Nonce)
    (party : DisplayParty) (rejection : DisplayConfigPayload → Option String)
    {start s : HandshakeState} {actions : List HandshakeAction}
    (hstart : HandshakeState.start config nonce party = .ok start)
    (hrun : (HandshakeState.machine rejection).run start actions = some s) :
    Agreement config nonce party rejection actions s := by
  have hinitial : Consistent config nonce party rejection start := by
    obtain ⟨first, hfirst, hconsistent⟩ := start_consistent config nonce party
    cases hstart.symm.trans hfirst
    exact hconsistent rejection
  have h : Consistent config nonce party rejection s :=
    (HandshakeState.machine rejection).run_invariant _ (fun _ _ _ h hstep => h.step hstep)
      hinitial hrun
  constructor
  case sent =>
    intro established next hphase
    obtain ⟨hestablish, hsent⟩ := h.established_sent hphase
    obtain ⟨hcompatible, -⟩ := establish_ok config nonce party hestablish
    exact ⟨hcompatible.limits, hcompatible.codec, hcompatible.profile, hsent⟩
  case passes =>
    intro established next hphase hlength
    have hestablish := (h.established_sent hphase).1
    obtain ⟨hcompatible, -⟩ := establish_ok config nonce party hestablish
    rw [h.localCapabilities]
    exact ⟨h.awaits_configuration hestablish hlength, invalidReason_within hcompatible.codec
      hcompatible.profile hcompatible.limits none⟩
  case active =>
    intro established next hphase hlength hrejection
    exact h.uses_configuration (h.established_sent hphase).1 hlength hrejection
  case incompatible =>
    intro hnone
    have hlength := (HandshakeState.machine rejection).run_length_le
      (Consistent config nonce party rejection) HandshakeState.workload
      (fun _ _ _ h hstep => h.step_incompatible hnone hstep) hinitial hrun
    rw [start_workload hstart] at hlength
    exact ⟨by omega, h.failed_of_quiescent hnone⟩
  case video =>
    intro i packet frame consumed hpacket hdecode hkind
    have hi := (h.sends i packet hpacket).video_position hdecode hkind
    have hlt := (List.getElem?_eq_some_iff.mp hpacket).1
    have htwo : s.hostSent[2]? = some s.hostSent[2] := List.getElem?_eq_getElem (by omega)
    obtain ⟨established, hestablish, hcarries⟩ := (h.sends 2 _ htwo).configuration_of
    exact ⟨hi, _, established, htwo, hestablish, hcarries⟩

/-- A 1080p request to a tablet that supports 1280x800 only. -/
def tablet : DisplayParty where
  capabilities :=
    { maxWidth := 1280
      maxHeight := 800
      maxRefreshMillihz := 60000
      maxBitrateKbps := 20000
      codecs := Protocol.CodecSet.h264
      input := .of 0b1 (.refl true)
      features := Protocol.FeatureFlags.remoteCursor
      valid := rfl }
  nonce := ⟨List.replicate 16 7, rfl⟩
  implementationName := "LadoFlow Android"
  name_valid := by decide
  accessoryName := "LadoFlow"
  environment := ⟨fun _ => none, .zero, fun _ => true, 0, 0⟩

def HostPhase.isEstablished : HostPhase → Bool
  | .established .. => true
  | _ => false

/-- The display answers before it reads. -/
def tabletActions : List HandshakeAction :=
  [.hostSend, .displayWrite, .hostSend, .displayWrite, .hostSend, .hostReceive, .hostReceive,
    .hostSend, .displayReceive tablet.environment, .displayReceive tablet.environment,
    .displayReceive tablet.environment]

theorem configuration_agreement_tablet : ∃ config nonce start s established next,
    HandshakeState.start config nonce tablet = .ok start ∧
    (HandshakeState.machine fun _ => none).run start tabletActions = some s ∧
    s.host = .established established next ∧
    s.display.activeConfiguration = some (.ofDisplayConfig established.displayConfig) := by
  let config : HostProtocolConfig := ⟨1920, 1080, 60, by decide⟩
  let nonce : Nonce := ⟨List.replicate 16 9, rfl⟩
  have hreached : ((HandshakeState.start config nonce tablet).toOption.bind fun start =>
      (HandshakeState.machine fun _ => none).run start tabletActions).any (fun s =>
        s.host.isEstablished && s.toDisplay.length + 3 ≤ s.hostSent.length) = true := by
    decide +kernel
  cases hstart : HandshakeState.start config nonce tablet with
  | error error => simp [hstart, Except.toOption] at hreached
  | ok start =>
    cases hrun : (HandshakeState.machine fun _ => none).run start tabletActions with
    | none => simp [hstart, hrun, Except.toOption] at hreached
    | some s =>
      simp only [hstart, hrun, Except.toOption, Option.bind_some, Option.any_some, Bool.and_eq_true,
        decide_eq_true_eq] at hreached
      obtain ⟨hestablished, hlength⟩ := hreached
      cases hphase : s.host with
      | established established next =>
        have hagree := configuration_agreement config nonce tablet _ hstart hrun
        exact ⟨config, nonce, start, s, established, next, hstart, hrun, hphase,
          (hagree.active established next hphase hlength rfl).1⟩
      | opening | waiting | configuring | failed =>
        rw [hphase] at hestablished
        cases hestablished

end LadoFlow.System
