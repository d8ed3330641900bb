import LadoFlow.Android.SessionCallbacks
import LadoFlow.Framework.Machine

/-!
# The start of a connection

Three coroutines meet when a cable link opens: the transport installs its I/O session, starts the
reader and publishes the new state; the session collects the published states; and it collects the
frames that the reader has queued. The state collector sees the latest value only and skips one
that equals the value it saw last. Each coroutine keeps its own order and nothing else is fixed.
-/

namespace LadoFlow.Android

open Framework
open AndroidDisplaySession (Identity)
open Protocol (ErrorCode)

/-- The carrier of a connection, with the name that the transport publishes. -/
inductive WiredLink where
  | accessory (displayName : String)
  | tether (hostAddress : String)

/-- The effects of the coroutine that opens a link. -/
inductive TransportAction where
  | publish (state : UsbTransportState)
  | installSession
  | startIo
  | yield

namespace TransportAction

def maybeOpenAccessory (displayName : String) : List TransportAction :=
  [publish (.opening displayName), installSession, startIo, publish (.connected displayName)]

def activateAuthenticatedSocket (hostAddress : String) : List TransportAction :=
  [installSession, publish (.tetherConnected hostAddress), yield, startIo]

def publication : TransportAction → Option UsbTransportState
  | publish state => some state
  | _ => none

end TransportAction

namespace WiredLink

def connected : WiredLink → UsbTransportState
  | accessory displayName => .connected displayName
  | tether hostAddress => .tetherConnected hostAddress

/-- The tether listener publishes `TetherAuthenticating` before it has a socket to activate. -/
def program : WiredLink → List TransportAction
  | accessory displayName => TransportAction.maybeOpenAccessory displayName
  | tether hostAddress => .publish (.tetherAuthenticating hostAddress) ::
      TransportAction.activateAuthenticatedSocket hostAddress

end WiredLink

/-- The states that a transport has still to publish. -/
def publications (program : List TransportAction) : List UsbTransportState :=
  program.filterMap TransportAction.publication

/-- The first two frames of a host that speaks the display's version and shares H.264 with it. -/
structure HostOpening (localCapabilities : CapabilitiesPayload) where
  hello : HelloPayload
  capabilities : CapabilitiesPayload
  helloFrame : LdflFrame
  capabilitiesFrame : LdflFrame
  helloFrame_sequence : helloFrame.sequence = 0
  helloFrame_payload : helloFrame.decodePayload = .ok ⟨.hello, hello⟩
  capabilitiesFrame_sequence : capabilitiesFrame.sequence = 1
  capabilitiesFrame_payload : capabilitiesFrame.decodePayload = .ok ⟨.capabilities, capabilities⟩
  role : hello.role = .host
  version : hello.minProtocol ≤ ldflProtocolVersion ∧ ldflProtocolVersion ≤ hello.maxProtocol
  localCodec : localCapabilities.codecs.contains CodecCapabilities.h264 = true
  remoteCodec : capabilities.codecs.contains CodecCapabilities.h264 = true

/-- An identity whose nonce comes from `secureNonce`. -/
structure SecureIdentity extends Identity where
  nonce_length : nonce.length = 16

/-- What the session did for this link. -/
inductive ConnectionEvent where
  | beginHandshake
  | handled (frame : LdflFrame)
  deriving DecidableEq

structure ConnectionStart where
  program : List TransportAction
  published : UsbTransportState
  seen : Option UsbTransportState
  installed : Bool
  reading : Bool
  wire : List LdflFrame
  inbound : List LdflFrame
  session : AndroidDisplaySession
  history : List ConnectionEvent

/-- One turn of one coroutine. -/
inductive ConnectionTurn where
  | transport
  | read
  | handleTransportState (env : SessionEnvironment) (identity : SecureIdentity)
  | handleInboundFrame (env : SessionEnvironment)

def inboundQueueCapacity : Nat := 8

theorem LdflFrame.messageType_of_decodePayload {frame : LdflFrame} {payload : AnyPayload}
    (h : frame.decodePayload = .ok payload) : frame.messageType = payload.messageType := by
  simp only [LdflFrame.decodePayload] at h
  cases hdecode : PayloadCodec.decode frame.messageType frame.payload with
  | error exception =>
    rw [hdecode] at h
    cases h
  | ok value =>
    rw [hdecode] at h
    cases h
    rfl

theorem hostOpening_length : hostOpening.length = 3 := by
  decide +kernel

/-- The opening of a full-HD host towards a full-HD display. -/
def HostOpening.fullHd : HostOpening .fullHd where
  hello := .host
  capabilities := .fullHd
  helloFrame := hostOpening.get ⟨0, hostOpening_length ▸ Nat.succ_pos 2⟩
  capabilitiesFrame := hostOpening.get ⟨1, hostOpening_length ▸ Nat.lt_of_sub_pos (Nat.succ_pos 1)⟩
  helloFrame_sequence := rfl
  helloFrame_payload := rfl
  capabilitiesFrame_sequence := rfl
  capabilitiesFrame_payload := rfl
  role := rfl
  version := ⟨Int32.le_refl _, Int32.le_refl _⟩
  localCodec := rfl
  remoteCodec := rfl

namespace AndroidDisplaySession

variable (env : SessionEnvironment) (session : AndroidDisplaySession)

theorem resetProtocol_localCapabilities (reason : String) :
    (session.resetProtocol env reason).localCapabilities = session.localCapabilities := by
  simp only [resetProtocol]
  split <;> rfl

theorem beginHandshake_localCapabilities (name : String) (nonce : SignedBytes)
    (implementationName : String) :
    (session.beginHandshake env name nonce implementationName).localCapabilities =
      session.localCapabilities := by
  simp only [beginHandshake]
  split
  · simp [failLocal, record, resetProtocol_localCapabilities]
  split <;> exact resetProtocol_localCapabilities env session _

theorem handleTransportState_localCapabilities (identity : Identity)
    (transport : UsbTransportState) :
    (session.handleTransportState env identity transport).localCapabilities =
      session.localCapabilities := by
  cases transport with
  | opening displayName => rfl
  | connected displayName => exact beginHandshake_localCapabilities env session _ _ _
  | tetherConnected hostAddress => exact beginHandshake_localCapabilities env session _ _ _
  | _ => exact resetProtocol_localCapabilities env session _

/-- The session has begun a generation and handled no frame in it. -/
structure Opened (d : AndroidDisplaySession) : Prop where
  inboundHighest : d.inboundHighest = none
  remoteHello : d.remoteHello = none
  remoteCapabilities : d.remoteCapabilities = none
  negotiated : d.negotiated = false
  failed : d.failed = false

theorem resetProtocol_opened (reason : String) : (session.resetProtocol env reason).Opened := by
  simp only [resetProtocol]
  split <;> exact ⟨rfl, rfl, rfl, rfl, rfl⟩

theorem beginHandshake_opened (name : String) {nonce : SignedBytes} (implementationName : String)
    (hnonce : nonce.length = 16) :
    (session.beginHandshake env name nonce implementationName).Opened := by
  have hreset := resetProtocol_opened env session "Starting a new LDFL generation"
  simp only [beginHandshake, hnonce, ne_eq, not_true_eq_false, if_false]
  split
  · exact { hreset with }
  · exact { hreset with }

theorem connected_opened (link : WiredLink) (identity : SecureIdentity) :
    (session.handleTransportState env identity.toIdentity link.connected).Opened := by
  cases link with
  | accessory displayName => exact beginHandshake_opened env session _ _ identity.nonce_length
  | tether hostAddress => exact beginHandshake_opened env session _ _ identity.nonce_length

theorem rejectProtocol_negotiated (code : ErrorCode) (diagnostic : String) :
    (session.rejectProtocol env code diagnostic).negotiated = false := by
  simp only [rejectProtocol]
  split <;> simp [record, sendControl]

variable {env session}

theorem Opened.receive_capabilities {frame : LdflFrame} {capabilities : CapabilitiesPayload}
    (h : session.Opened) (hdecode : frame.decodePayload = .ok ⟨.capabilities, capabilities⟩) :
    (session.handleInboundFrame env frame).negotiated = false := by
  have htype := LdflFrame.messageType_of_decodePayload hdecode
  simp only [handleInboundFrame, h.inboundHighest, Option.any_none, Bool.false_eq_true, if_false,
    htype, handleControlFrame, h.failed, hdecode, handlePayload, handleRemoteCapabilities,
    h.remoteHello, Option.isNone_none, true_or, or_true, if_true, reduceCtorEq]
  exact rejectProtocol_negotiated _ _ _ _

end AndroidDisplaySession

namespace ConnectionStart

/-- Both frames wait in the link that `maybeOpenAccessory` or `activateAuthenticatedSocket` is about
to open; the session and its collectors are where an earlier connection left them. -/
def start (link : WiredLink) (published : UsbTransportState) (seen : Option UsbTransportState)
    (session : AndroidDisplaySession) (host : HostOpening session.localCapabilities) :
    ConnectionStart where
  program := link.program
  published := published
  seen := seen
  installed := false
  reading := false
  wire := [host.helloFrame, host.capabilitiesFrame]
  inbound := []
  session := session
  history := []

def perform (s : ConnectionStart) : TransportAction → ConnectionStart
  | .publish state => { s with published := state }
  | .installSession => { s with installed := true }
  | .startIo => { s with reading := true }
  | .yield => s

/-- A published state belongs to this link once its last publication is out. -/
def collectState (s : ConnectionStart) (env : SessionEnvironment) (identity : SecureIdentity) :
    ConnectionStart :=
  { s with
    seen := some s.published
    session := s.session.handleTransportState env identity.toIdentity s.published
    history := if publications s.program = [] then s.history ++ [.beginHandshake] else s.history }

def collectFrame (s : ConnectionStart) (env : SessionEnvironment) (frame : LdflFrame)
    (inbound : List LdflFrame) : ConnectionStart :=
  { s with
    inbound
    session := s.session.handleInboundFrame env frame
    history := s.history ++ [.handled frame] }

def step (s : ConnectionStart) : ConnectionTurn → Option ConnectionStart
  | .transport =>
    match s.program with
    | action :: program => some ({ s with program }.perform action)
    | [] => none
  | .read =>
    match s.wire with
    | frame :: wire =>
      if s.reading ∧ s.inbound.length < inboundQueueCapacity then
        some { s with wire, inbound := s.inbound ++ [frame] }
      else none
    | [] => none
  | .handleTransportState env identity =>
    if s.seen = some s.published then none else some (s.collectState env identity)
  | .handleInboundFrame env =>
    match s.inbound with
    | frame :: inbound => if s.installed then some (s.collectFrame env frame inbound) else none
    | [] => none

def machine : Machine ConnectionStart ConnectionTurn := ⟨step⟩

/-- No coroutine can take a turn. -/
def AtRest (s : ConnectionStart) : Prop := ∀ turn, s.step turn = none

/-- The handshake ran first, both frames were handled after it and the session has negotiated. -/
structure Completes {localCapabilities : CapabilitiesPayload} (host : HostOpening localCapabilities)
    (s : ConnectionStart) : Prop where
  history : s.history =
    [.beginHandshake, .handled host.helloFrame, .handled host.capabilitiesFrame]
  remoteHello : s.session.remoteHello = some host.hello
  remoteCapabilities : s.session.remoteCapabilities = some host.capabilities
  negotiated : s.session.negotiated = true
  failed : s.session.failed = false

/-- In the schedule, the state collector takes a turn after the last publication of the transport
program and before the first turn of the frame collector. -/
def collectsStateFirst : List TransportAction → List ConnectionTurn → Bool
  | _, [] => false
  | program, .transport :: turns => collectsStateFirst program.tail turns
  | program, .read :: turns => collectsStateFirst program turns
  | program, .handleTransportState .. :: turns =>
    (publications program).isEmpty || collectsStateFirst program turns
  | _, .handleInboundFrame _ :: _ => false

/-- A turn that the session does not notice. -/
structure Unseen (s t : ConnectionStart) : Prop where
  session : t.session = s.session
  seen : t.seen = s.seen
  history : t.history = s.history
  pending : t.inbound ++ t.wire = s.inbound ++ s.wire
  last : (t.published :: publications t.program).getLast? =
    (s.published :: publications s.program).getLast?
  settled : publications s.program = [] →
    publications t.program = [] ∧ t.published = s.published

section Turns

variable {s t : ConnectionStart}

theorem step_transport (h : s.step .transport = some t) :
    Unseen s t ∧ t.program = s.program.tail := by
  simp only [step] at h
  split at h
  case h_2 => cases h
  case h_1 action program hprogram =>
    cases h
    cases action with
    | publish state =>
      have hpublications : publications s.program = state :: publications program := by
        rw [hprogram]
        rfl
      refine ⟨⟨rfl, rfl, rfl, rfl, ?_, ?_⟩, ?_⟩
      · rw [hpublications, List.getLast?_cons_cons]
        rfl
      · intro hnone
        rw [hpublications] at hnone
        cases hnone
      · rw [hprogram]
        rfl
    | installSession | startIo | yield =>
      have hpublications : publications s.program = publications program := by
        rw [hprogram]
        rfl
      refine ⟨⟨rfl, rfl, rfl, rfl, ?_, ?_⟩, ?_⟩
      · rw [hpublications]
        rfl
      · intro hnone
        exact ⟨hpublications ▸ hnone, rfl⟩
      · rw [hprogram]
        rfl

theorem step_read (h : s.step .read = some t) : Unseen s t ∧ t.program = s.program := by
  simp only [step] at h
  split at h
  case h_2 => cases h
  case h_1 frame wire hwire =>
    split at h
    · cases h
      refine ⟨⟨rfl, rfl, rfl, ?_, rfl, fun hnone => ⟨hnone, rfl⟩⟩, rfl⟩
      rw [hwire]
      simp
    · cases h

theorem step_handleTransportState {env : SessionEnvironment} {identity : SecureIdentity}
    (h : s.step (.handleTransportState env identity) = some t) :
    s.seen ≠ some s.published ∧ t = s.collectState env identity := by
  simp only [step] at h
  split at h
  · cases h
  case isFalse hseen =>
    cases h
    exact ⟨hseen, rfl⟩

theorem step_handleInboundFrame {env : SessionEnvironment}
    (h : s.step (.handleInboundFrame env) = some t) :
    ∃ frame inbound, s.inbound = frame :: inbound ∧ t = s.collectFrame env frame inbound := by
  simp only [step] at h
  split at h
  case h_2 => cases h
  case h_1 frame inbound hinbound =>
    split at h
    · cases h
      exact ⟨frame, inbound, hinbound, rfl⟩
    · cases h

end Turns

section Phases

variable {localCapabilities : CapabilitiesPayload} (link : WiredLink)
  (host : HostOpening localCapabilities) (s : ConnectionStart)

/-- Neither the connection nor a frame has been handled. -/
structure Waiting : Prop where
  localCapabilities : s.session.localCapabilities = localCapabilities
  last : (s.published :: publications s.program).getLast? = some link.connected
  pending : s.inbound ++ s.wire = [host.helloFrame, host.capabilitiesFrame]
  history : s.history = []

/-- The last publication has been handled. -/
structure Settled : Prop where
  publications : publications s.program = []
  seen : s.seen = some s.published

/-- How far a session has come that handles its frames after the connection. -/
inductive Stage : Prop
  | opened (hlocal : s.session.localCapabilities = localCapabilities) (hsession : s.session.Opened)
      (hpending : s.inbound ++ s.wire = [host.helloFrame, host.capabilitiesFrame])
      (hhistory : s.history = [.beginHandshake])
  | greeted (hlocal : s.session.localCapabilities = localCapabilities)
      (hhighest : s.session.inboundHighest = some 0)
      (hremote : s.session.remoteHello = some host.hello)
      (hcapabilities : s.session.remoteCapabilities = none) (hfailed : s.session.failed = false)
      (hpending : s.inbound ++ s.wire = [host.capabilitiesFrame])
      (hhistory : s.history = [.beginHandshake, .handled host.helloFrame])
  | completed (h : Completes host s) (hpending : s.inbound ++ s.wire = [])

structure InTime : Prop where
  settled : Settled s
  stage : Stage host s

/-- The hello was handled before the connection, which then finds the capabilities alone. -/
structure Late : Prop where
  early : ∃ rest, s.history = .handled host.helloFrame :: rest
  pending : s.inbound ++ s.wire = [host.capabilitiesFrame] ∨ s.inbound ++ s.wire = []
  stage : ((s.published :: publications s.program).getLast? = some link.connected ∧
      .beginHandshake ∉ s.history) ∨
    (Settled s ∧ s.session.negotiated = false ∧
      (s.inbound ++ s.wire = [host.capabilitiesFrame] → s.session.Opened))

end Phases

section Runs

variable {localCapabilities : CapabilitiesPayload} {link : WiredLink}
  {host : HostOpening localCapabilities} {s t : ConnectionStart}

theorem Waiting.unseen (h : Waiting link host s) (hturn : Unseen s t) : Waiting link host t where
  localCapabilities := hturn.session ▸ h.localCapabilities
  last := hturn.last.trans h.last
  pending := hturn.pending.trans h.pending
  history := hturn.history.trans h.history

theorem Settled.unseen (h : Settled s) (hturn : Unseen s t) : Settled t := by
  obtain ⟨hpublications, hpublished⟩ := hturn.settled h.publications
  exact ⟨hpublications, by rw [hturn.seen, hpublished, h.seen]⟩

theorem InTime.unseen (h : InTime host s) (hturn : Unseen s t) : InTime host t := by
  refine ⟨h.settled.unseen hturn, ?_⟩
  have hsession := hturn.session
  cases h.stage with
  | opened hlocal hopened hpending hhistory =>
    exact .opened (hsession ▸ hlocal) (hsession ▸ hopened) (hturn.pending.trans hpending)
      (hturn.history.trans hhistory)
  | greeted hlocal hhighest hremote hcapabilities hfailed hpending hhistory =>
    exact .greeted (hsession ▸ hlocal) (hsession ▸ hhighest) (hsession ▸ hremote)
      (hsession ▸ hcapabilities) (hsession ▸ hfailed) (hturn.pending.trans hpending)
      (hturn.history.trans hhistory)
  | completed hcompletes hpending =>
    refine .completed ⟨?_, ?_, ?_, ?_, ?_⟩ (hturn.pending.trans hpending)
    · exact hturn.history.trans hcompletes.history
    · exact hsession ▸ hcompletes.remoteHello
    · exact hsession ▸ hcompletes.remoteCapabilities
    · exact hsession ▸ hcompletes.negotiated
    · exact hsession ▸ hcompletes.failed

theorem Late.unseen (h : Late link host s) (hturn : Unseen s t) : Late link host t := by
  refine ⟨?_, ?_, ?_⟩
  · rw [hturn.history]
    exact h.early
  · rw [hturn.pending]
    exact h.pending
  · rw [hturn.last, hturn.history, hturn.session, hturn.pending]
    exact h.stage.imp_right fun hbegun => ⟨hbegun.1.unseen hturn, hbegun.2⟩

/-- The last publication is the connection, so handling it begins the generation. -/
theorem published_eq_connected
    (hlast : (s.published :: publications s.program).getLast? = some link.connected)
    (hpublications : publications s.program = []) : s.published = link.connected := by
  rw [hpublications] at hlast
  exact Option.some.inj hlast

theorem collectState_opened (env : SessionEnvironment) (identity : SecureIdentity)
    (hlast : (s.published :: publications s.program).getLast? = some link.connected)
    (hpublications : publications s.program = []) :
    (s.collectState env identity).session.Opened := by
  simp only [collectState, published_eq_connected hlast hpublications]
  exact AndroidDisplaySession.connected_opened env s.session link identity

theorem Waiting.collectState (h : Waiting link host s) (env : SessionEnvironment)
    (identity : SecureIdentity) :
    if publications s.program = [] then InTime host (s.collectState env identity)
    else Waiting link host (s.collectState env identity) := by
  have hlocal : (s.collectState env identity).session.localCapabilities = localCapabilities :=
    (AndroidDisplaySession.handleTransportState_localCapabilities env s.session _ _).trans
      h.localCapabilities
  split
  case isTrue hpublications =>
    refine ⟨⟨hpublications, rfl⟩, ?_⟩
    refine .opened hlocal (collectState_opened env identity h.last hpublications) h.pending ?_
    simp [ConnectionStart.collectState, hpublications, h.history]
  case isFalse hpublications =>
    refine ⟨hlocal, h.last, h.pending, ?_⟩
    simp [ConnectionStart.collectState, hpublications, h.history]

/-- The frame collector takes the oldest frame that is pending. -/
theorem pending_of_handled {env : SessionEnvironment} {frame : LdflFrame} {rest : List LdflFrame}
    (hpending : s.inbound ++ s.wire = frame :: rest)
    (h : s.step (.handleInboundFrame env) = some t) :
    ∃ inbound, inbound ++ s.wire = rest ∧ t = s.collectFrame env frame inbound := by
  obtain ⟨first, inbound, hinbound, rfl⟩ := step_handleInboundFrame h
  rw [hinbound, List.cons_append] at hpending
  cases hpending
  exact ⟨inbound, rfl, rfl⟩

theorem handled_of_pending_nil {env : SessionEnvironment} (hpending : s.inbound ++ s.wire = []) :
    s.step (.handleInboundFrame env) = none := by
  simp [step, (List.append_eq_nil_iff.mp hpending).1]

theorem Waiting.handled (h : Waiting link host s) {env : SessionEnvironment}
    (hstep : s.step (.handleInboundFrame env) = some t) : Late link host t := by
  obtain ⟨inbound, hpending, rfl⟩ := pending_of_handled h.pending hstep
  refine ⟨⟨[], ?_⟩, .inl hpending, .inl ⟨h.last, ?_⟩⟩
  · simp [collectFrame, h.history]
  · simp [collectFrame, h.history]

theorem InTime.handled (h : InTime host s) {env : SessionEnvironment}
    (hstep : s.step (.handleInboundFrame env) = some t) : InTime host t := by
  cases h.stage with
  | opened hlocal hopened hpending hhistory =>
    obtain ⟨inbound, hrest, rfl⟩ := pending_of_handled hpending hstep
    have hhello : s.session.handleInboundFrame env host.helloFrame =
        { s.session with inboundHighest := some 0, remoteHello := some host.hello } :=
      AndroidDisplaySession.receive_hello hopened.inboundHighest hopened.remoteHello
        hopened.remoteCapabilities hopened.failed
        (LdflFrame.messageType_of_decodePayload host.helloFrame_payload) host.helloFrame_sequence
        host.helloFrame_payload host.role host.version
    refine ⟨⟨h.settled.publications, h.settled.seen⟩, ?_⟩
    refine .greeted ?_ ?_ ?_ ?_ ?_ hrest ?_
    · simp only [collectFrame, hhello, hlocal]
    · simp only [collectFrame, hhello]
    · simp only [collectFrame, hhello]
    · simp only [collectFrame, hhello, hopened.remoteCapabilities]
    · simp only [collectFrame, hhello, hopened.failed]
    · simp [collectFrame, hhistory]
  | greeted hlocal hhighest hremote hcapabilities hfailed hpending hhistory =>
    obtain ⟨inbound, hrest, rfl⟩ := pending_of_handled hpending hstep
    have hreceive : s.session.handleInboundFrame env host.capabilitiesFrame =
        AndroidDisplaySession.finishNegotiationIfReady env { s.session with
          inboundHighest := some 1
          remoteCapabilities := some host.capabilities } :=
      AndroidDisplaySession.receive_capabilities hhighest hremote hcapabilities hfailed
        (LdflFrame.messageType_of_decodePayload host.capabilitiesFrame_payload)
        host.capabilitiesFrame_sequence host.capabilitiesFrame_payload
    have hready : s.session.handleInboundFrame env host.capabilitiesFrame =
        { s.session with
          inboundHighest := some 1
          remoteCapabilities := some host.capabilities
          negotiated := true
          state := .ready host.hello.implementationName } := by
      rw [hreceive]
      simp [AndroidDisplaySession.finishNegotiationIfReady, hremote, hlocal, host.localCodec,
        host.remoteCodec]
    refine ⟨⟨h.settled.publications, h.settled.seen⟩, .completed ⟨?_, ?_, ?_, ?_, ?_⟩ hrest⟩
    · simp [collectFrame, hhistory]
    · simp only [collectFrame, hready, hremote]
    · simp only [collectFrame, hready]
    · simp only [collectFrame, hready]
    · simp only [collectFrame, hready, hfailed]
  | completed hcompletes hpending =>
    rw [handled_of_pending_nil hpending] at hstep
    cases hstep

theorem Late.handled (h : Late link host s) {env : SessionEnvironment}
    (hstep : s.step (.handleInboundFrame env) = some t) : Late link host t := by
  cases h.pending with
  | inr hpending =>
    rw [handled_of_pending_nil hpending] at hstep
    cases hstep
  | inl hpending =>
    obtain ⟨inbound, hrest, rfl⟩ := pending_of_handled hpending hstep
    obtain ⟨rest, hhistory⟩ := h.early
    refine ⟨⟨rest ++ [.handled host.capabilitiesFrame], ?_⟩, .inr hrest, ?_⟩
    · simp [collectFrame, hhistory]
    cases h.stage with
    | inl hunbegun =>
      refine .inl ⟨hunbegun.1, ?_⟩
      simpa [collectFrame] using hunbegun.2
    | inr hbegun =>
      obtain ⟨hsettled, hnegotiated, hopened⟩ := hbegun
      refine .inr ⟨⟨hsettled.publications, hsettled.seen⟩, ?_, ?_⟩
      · exact (hopened hpending).receive_capabilities host.capabilitiesFrame_payload
      · intro hcapabilities
        have hnone : (inbound ++ s.wire : List LdflFrame) = [host.capabilitiesFrame] :=
          hcapabilities
        rw [hrest] at hnone
        cases hnone

/-- A settled state collector has nothing to handle. -/
theorem Settled.step_handleTransportState (h : Settled s) (env : SessionEnvironment)
    (identity : SecureIdentity) : s.step (.handleTransportState env identity) = none := by
  rw [step, if_pos h.seen]

theorem Late.collectState (h : Late link host s) {env : SessionEnvironment}
    {identity : SecureIdentity} (hstep : s.step (.handleTransportState env identity) = some t) :
    Late link host t := by
  obtain ⟨rest, hhistory⟩ := h.early
  cases h.stage with
  | inr hbegun =>
    rw [hbegun.1.step_handleTransportState] at hstep
    cases hstep
  | inl hunbegun =>
    obtain ⟨hlast, hunbegun⟩ := hunbegun
    obtain ⟨-, rfl⟩ := ConnectionStart.step_handleTransportState hstep
    by_cases hpublications : publications s.program = []
    · have hopened := collectState_opened env identity hlast hpublications
      refine ⟨⟨rest ++ [.beginHandshake], ?_⟩, h.pending, .inr ⟨⟨hpublications, rfl⟩, ?_, ?_⟩⟩
      · simp [ConnectionStart.collectState, hpublications, hhistory]
      · exact hopened.negotiated
      · intro _
        exact hopened
    · refine ⟨⟨rest, ?_⟩, h.pending, .inl ⟨hlast, ?_⟩⟩
      · simp [ConnectionStart.collectState, hpublications, hhistory]
      · simpa [ConnectionStart.collectState, hpublications] using hunbegun

theorem InTime.preserved {turn : ConnectionTurn} (h : InTime host s)
    (hstep : s.step turn = some t) : InTime host t := by
  cases turn with
  | transport => exact h.unseen (step_transport hstep).1
  | read => exact h.unseen (step_read hstep).1
  | handleTransportState env identity =>
    rw [h.settled.step_handleTransportState] at hstep
    cases hstep
  | handleInboundFrame env => exact h.handled hstep

theorem Late.preserved {turn : ConnectionTurn} (h : Late link host s)
    (hstep : s.step turn = some t) : Late link host t := by
  cases turn with
  | transport => exact h.unseen (step_transport hstep).1
  | read => exact h.unseen (step_read hstep).1
  | handleTransportState env identity => exact h.collectState hstep
  | handleInboundFrame env => exact h.handled hstep

/-- From a waiting state, the order of the schedule decides in which phase the run ends. -/
theorem Waiting.run (h : Waiting link host s) {turns : List ConnectionTurn}
    (hrun : machine.run s turns = some t) (hpending : t.inbound ++ t.wire = []) :
    if collectsStateFirst s.program turns then InTime host t else Late link host t := by
  induction turns generalizing s with
  | nil =>
    cases hrun
    rw [h.pending] at hpending
    cases hpending
  | cons turn turns ih =>
    obtain ⟨u, hstep, hrest⟩ := machine.run_cons.mp hrun
    cases turn with
    | transport =>
      obtain ⟨hunseen, hprogram⟩ := step_transport hstep
      rw [collectsStateFirst, ← hprogram]
      exact ih (h.unseen hunseen) hrest
    | read =>
      obtain ⟨hunseen, hprogram⟩ := step_read hstep
      rw [collectsStateFirst, ← hprogram]
      exact ih (h.unseen hunseen) hrest
    | handleTransportState env identity =>
      obtain ⟨-, rfl⟩ := ConnectionStart.step_handleTransportState hstep
      have hcollect := h.collectState env identity
      by_cases hpublications : publications s.program = []
      · rw [if_pos hpublications] at hcollect
        rw [collectsStateFirst, hpublications, if_pos (by rfl)]
        exact machine.run_invariant (InTime host) (fun _ _ _ => InTime.preserved) hcollect hrest
      · rw [if_neg hpublications] at hcollect
        rw [collectsStateFirst, List.isEmpty_eq_false_iff.mpr hpublications, Bool.false_or]
        exact ih (s := s.collectState env identity) hcollect hrest
    | handleInboundFrame env =>
      rw [collectsStateFirst, if_neg (by simp)]
      exact machine.run_invariant (Late link host) (fun _ _ _ => Late.preserved) (h.handled hstep)
        hrest

theorem InTime.completes (h : InTime host s) (hpending : s.inbound ++ s.wire = []) :
    Completes host s := by
  cases h.stage with
  | opened _ _ hframes _ =>
    rw [hpending] at hframes
    cases hframes
  | greeted _ _ _ _ _ hframes _ =>
    rw [hpending] at hframes
    cases hframes
  | completed hcompletes _ => exact hcompletes

theorem Late.not_completes (h : Late link host s) : ¬Completes host s := by
  intro hcompletes
  obtain ⟨rest, hhistory⟩ := h.early
  rw [hcompletes.history] at hhistory
  cases hhistory

theorem Late.negotiated (h : Late link host s) (hbegun : .beginHandshake ∈ s.history) :
    s.session.negotiated = false := by
  cases h.stage with
  | inl hunbegun => exact absurd hbegun hunbegun.2
  | inr hbegun => exact hbegun.2.1

end Runs

section Schedules

/-- What the transport program has not done yet is still to come. -/
structure Opens (s : ConnectionStart) : Prop where
  installed : s.installed = true ∨ .installSession ∈ s.program
  reading : s.reading = true ∨ .startIo ∈ s.program

theorem Opens.preserved {s t : ConnectionStart} {turn : ConnectionTurn} (h : Opens s)
    (hstep : s.step turn = some t) : Opens t := by
  cases turn with
  | transport =>
    simp only [step] at hstep
    split at hstep
    case h_2 => cases hstep
    case h_1 action program hprogram =>
      cases hstep
      have hinstalled := h.installed
      have hreading := h.reading
      rw [hprogram, List.mem_cons] at hinstalled hreading
      cases action with
      | installSession => exact ⟨.inl rfl, by simpa [perform] using hreading⟩
      | startIo => exact ⟨by simpa [perform] using hinstalled, .inl rfl⟩
      | publish | yield =>
        exact ⟨by simpa [perform] using hinstalled, by simpa [perform] using hreading⟩
  | read =>
    simp only [step] at hstep
    split at hstep
    case h_2 => cases hstep
    case h_1 =>
      split at hstep
      · cases hstep
        exact ⟨h.installed, h.reading⟩
      · cases hstep
  | handleTransportState env identity =>
    obtain ⟨-, rfl⟩ := step_handleTransportState hstep
    exact ⟨h.installed, h.reading⟩
  | handleInboundFrame env =>
    obtain ⟨frame, inbound, -, rfl⟩ := step_handleInboundFrame hstep
    exact ⟨h.installed, h.reading⟩

/-- A schedule stops only when the host's frames are handled. -/
theorem Opens.pending {s : ConnectionStart} (h : Opens s) (hrest : s.AtRest) :
    s.inbound ++ s.wire = [] := by
  have hprogram : s.program = [] := by
    have htransport := hrest .transport
    simp only [step] at htransport
    split at htransport
    · cases htransport
    · assumption
  have hinstalled : s.installed = true := by simpa [hprogram] using h.installed
  have hreading : s.reading = true := by simpa [hprogram] using h.reading
  have hinbound : s.inbound = [] := by
    have hframe := hrest (.handleInboundFrame .fresh)
    simp only [step] at hframe
    split at hframe
    · simp [hinstalled] at hframe
    · assumption
  have hwire : s.wire = [] := by
    have hread := hrest .read
    simp only [step] at hread
    split at hread
    · simp [hreading, hinbound, inboundQueueCapacity] at hread
    · assumption
  rw [hinbound, hwire]
  rfl

/-- The state collector has one value to handle at most. -/
def unseen (seen : Option UsbTransportState) (published : UsbTransportState) : Nat :=
  if seen = some published then 0 else 1

theorem unseen_le (seen : Option UsbTransportState) (published : UsbTransportState) :
    unseen seen published ≤ 1 := by
  rw [unseen]
  split <;> omega

/-- The turns that the transport, the reader and the two collectors can still take. -/
def remaining (s : ConnectionStart) : Nat :=
  2 * s.program.length + 2 * s.wire.length + s.inbound.length + unseen s.seen s.published

theorem remaining_step {s t : ConnectionStart} {turn : ConnectionTurn}
    (hstep : s.step turn = some t) : remaining t < remaining s := by
  cases turn with
  | transport =>
    simp only [step] at hstep
    split at hstep
    case h_2 => cases hstep
    case h_1 action program hprogram =>
      cases hstep
      have hlength : s.program.length = program.length + 1 := by rw [hprogram, List.length_cons]
      cases action with
      | publish state =>
        have hle := unseen_le s.seen state
        simp only [remaining, perform, hlength]
        omega
      | installSession | startIo | yield =>
        simp only [remaining, perform, hlength]
        omega
  | read =>
    simp only [step] at hstep
    split at hstep
    case h_2 => cases hstep
    case h_1 frame wire hwire =>
      split at hstep
      · cases hstep
        simp only [remaining, hwire, List.length_cons, List.length_append, List.length_nil]
        omega
      · cases hstep
  | handleTransportState env identity =>
    obtain ⟨hseen, rfl⟩ := step_handleTransportState hstep
    simp only [remaining, collectState, unseen, if_true, if_neg hseen]
    omega
  | handleInboundFrame env =>
    obtain ⟨frame, inbound, hinbound, rfl⟩ := step_handleInboundFrame hstep
    simp only [remaining, collectFrame, hinbound, List.length_cons]
    omega

variable (link : WiredLink) (published : UsbTransportState) (seen : Option UsbTransportState)
  (session : AndroidDisplaySession) (host : HostOpening session.localCapabilities)

theorem start_opens : Opens (start link published seen session host) := by
  cases link with
  | accessory displayName =>
    constructor <;> simp [start, WiredLink.program, TransportAction.maybeOpenAccessory]
  | tether hostAddress =>
    constructor <;> simp [start, WiredLink.program, TransportAction.activateAuthenticatedSocket]

theorem start_waiting : Waiting link host (start link published seen session host) := by
  refine ⟨rfl, ?_, rfl, rfl⟩
  cases link <;> rfl

/-- No schedule goes on for ever. -/
theorem schedule_length_le {schedule : List ConnectionTurn} {t : ConnectionStart}
    (hrun : machine.run (start link published seen session host) schedule = some t) :
    schedule.length ≤ 2 * link.program.length + 5 := by
  have hle := machine.run_length_le (fun _ => True) remaining
    (fun _ _ _ _ hstep => ⟨trivial, remaining_step hstep⟩) trivial hrun
  have hstart : remaining (start link published seen session host) ≤
      2 * link.program.length + 5 := by
    have hunseen := unseen_le seen published
    simp only [remaining, start, List.length_cons, List.length_nil]
    omega
  omega

end Schedules

theorem atRest_of_drained {s : ConnectionStart} (hprogram : s.program.isEmpty = true)
    (hseen : s.seen = some s.published) (hwire : s.wire = []) (hinbound : s.inbound = []) :
    s.AtRest := by
  intro turn
  cases turn with
  | transport => simp only [step, List.isEmpty_iff.mp hprogram]
  | read => simp only [step, hwire]
  | handleTransportState env identity => simp only [step, hseen, if_true]
  | handleInboundFrame env => simp only [step, hinbound]

def SecureIdentity.android : SecureIdentity := ⟨.android, List.length_replicate⟩

/-- A display that has not been connected before. -/
def firstStart (link : WiredLink) : ConnectionStart :=
  start link .stopped (some .stopped) (.new .fullHd) .fullHd

def handleState : ConnectionTurn := .handleTransportState .fresh SecureIdentity.android

def handleFrame : ConnectionTurn := .handleInboundFrame .fresh

/-- The session takes the connection first. -/
def connectedFirst (link : WiredLink) : List ConnectionTurn :=
  link.program.map (fun _ => .transport) ++ [handleState, .read, handleFrame, .read, handleFrame]

/-- The hello is handled before the session knows of the connection. -/
def helloFirst : WiredLink → List ConnectionTurn
  | .accessory _ => [.transport, .transport, .transport, .read, handleFrame, .transport,
      handleState, .read, handleFrame]
  | .tether _ => [.transport, .transport, .transport, .transport, .transport, .read, handleFrame,
      handleState, .read, handleFrame]

/-- A run in which the reader hands over the hello before the collector has started the protocol
ends, everything delivered, in a failed session. -/
def LosesHello (link : WiredLink) : Prop :=
  ∃ t, machine.run (firstStart link) (helloFirst link) = some t ∧ t.AtRest ∧
    t.session.failed = true ∧ ¬Completes HostOpening.fullHd t

end ConnectionStart

end LadoFlow.Android
