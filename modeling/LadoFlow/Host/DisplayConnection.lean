import LadoFlow.Framework.Machine
import LadoFlow.Host.UsbControl

/-!
# Fresh frames over a whole connection

The handshake remembers the highest sequence of the display itself and hands it to the session that
it establishes.
-/

namespace LadoFlow.Host

open LadoFlow.Protocol LadoFlow.Core LadoFlow.Transport Framework

namespace HostHandshake

/-- Accept and store the frame of a packet. -/
def take (handshake : HostHandshake) (packet : Packet) : Except HostError (Frame × HostHandshake) :=
  if packet.channel ≠ .control then
    .error (.text "display sent media before LDFL negotiation completed")
  else
  match Frame.decodePrefix packet.payload with
  | .error error => .error (.protocol error)
  | .ok (.needMoreData _) => .error (.text "display sent a partial LDFL control frame")
  | .ok (.complete frame consumed) =>
    if consumed ≠ packet.len then
      .error (.text "display control packet contains trailing LDFL bytes")
    else
    let sequence := frame.header.sequence
    if handshake.highestDisplaySequence.any (sequence ≤ ·) then
      .error (.text s!"display LDFL sequence {sequence} is not newer than the prior sequence")
    else do
    let handshake ← store { handshake with highestDisplaySequence := some sequence } frame
    .ok (frame, handshake)

/-- Establish the session once both payloads are there. -/
def complete (handshake : HostHandshake) :
    Except HostError (HostHandshake × Option EstablishedHostSession) :=
  if handshake.displayHello.isSome ∧ handshake.displayCapabilities.isSome then do
    let established ← handshake.establish
    .ok (handshake, some established)
  else .ok (handshake, none)

theorem accept_eq (handshake : HostHandshake) (packet : Packet) :
    handshake.accept packet = handshake.take packet >>= fun taken => taken.2.complete := by
  rw [accept, take]
  by_cases hchannel : packet.channel ≠ .control
  · rw [if_pos hchannel, if_pos hchannel]
    rfl
  rw [if_neg hchannel, if_neg hchannel]
  cases Frame.decodePrefix packet.payload with
  | error error => rfl
  | ok outcome =>
    cases outcome with
    | needMoreData minimum => rfl
    | complete frame consumed =>
      simp only
      by_cases htrailing : consumed ≠ packet.len
      · rw [if_pos htrailing, if_pos htrailing]
        rfl
      rw [if_neg htrailing, if_neg htrailing]
      by_cases hstale : handshake.highestDisplaySequence.any (frame.header.sequence ≤ ·) = true
      · rw [if_pos hstale, if_pos hstale]
        rfl
      rw [if_neg hstale, if_neg hstale]
      generalize store _ _ = stored
      cases stored with
      | error error => rfl
      | ok handshake => rfl

/-- What storing the frame did. -/
def storedAction (handshake : HostHandshake) (frame : Frame) : Option HostAction :=
  match frame.header.kind with
  | .hello => handshake.displayHello.map .storeHello
  | .capabilities => handshake.displayCapabilities.map .storeCapabilities
  | _ => none

end HostHandshake

/-- The frame that a packet holds whole. -/
def frameOf (packet : Packet) : Option Frame :=
  match Frame.decodePrefix packet.payload with
  | .ok (.complete frame consumed) => if consumed = packet.len then some frame else none
  | _ => none

/-- What one packet of a connection meets, and how the capture and the injector open. -/
structure ConnectionEnvironment extends ControlEnvironment where
  openCapture : LoopbackConfig → UInt32 → Except HostError Unit
  openInput : LoopbackConfig → Except HostError Unit

inductive ConnectionPhase where
  | negotiating (handshake : HostHandshake)
  | active (inputCapabilities : InputCapabilities) (nextSequence : UInt64)
  | ended (error : HostError)

/-- The host side of one connection. A display sequence is accepted when it is newer than all
before it. -/
structure HostConnection where
  phase : ConnectionPhase
  shared : SharedState
  actions : List (UInt64 × HostAction)
  accepted : List UInt64

namespace HostConnection

def start (handshake : HostHandshake) (shared : SharedState) : HostConnection :=
  ⟨.negotiating handshake, shared, [], []⟩

section Packets

variable (env : ConnectionEnvironment) (c : HostConnection)

def finish (error : HostError) : HostConnection := { c with phase := .ended error }

/-- Send the configuration, then start the capture and the injector. -/
def openSession (established : EstablishedHostSession) : HostConnection :=
  let opened : Except HostError (LoopbackConfig × InputCapabilities) := do
    let packet ← controlPacket displayConfigSequence established.displayConfig
    let _ ← env.send packet
    let (config, inputCapabilities) ← negotiatedRuntimeParameters established
    let _ ← env.openCapture config established.displayConfig.bitrateKbps
    .ok (config, inputCapabilities)
  match opened with
  | .error error => c.finish error
  | .ok (config, inputCapabilities) =>
    let c := { c with
      shared := c.shared.establishAndroidControl config established.session established.peerName }
    match env.openInput config with
    | .error error => c.finish error
    | .ok () => { c with phase := .active inputCapabilities established.nextSequence }

def negotiate (handshake : HostHandshake) (packet : Packet) : HostConnection :=
  match handshake.take packet with
  | .error error => c.finish error
  | .ok (frame, handshake) =>
    let stored := (handshake.storedAction frame).toList.map fun action =>
      (frame.header.sequence, action)
    let c := { c with actions := c.actions ++ stored }
    match handshake.complete with
    | .error error => c.finish error
    | .ok (handshake, none) => { c with phase := .negotiating handshake }
    | .ok (_, some established) => c.openSession env established

def control (inputCapabilities : InputCapabilities) (nextSequence : UInt64) (packet : Packet) :
    HostConnection :=
  if packet.channel ≠ .control then
    c.finish (.text "Android display sent an unexpected media frame to the host")
  else
  match UsbControl.handleUsbControl env.toControlEnvironment ⟨c.shared, nextSequence, c.actions⟩
      inputCapabilities packet with
  | (.error error, control) =>
    { c with phase := .ended error, shared := control.shared, actions := control.actions }
  | (.ok (), control) =>
    { c with
      phase := .active inputCapabilities control.nextSequence
      shared := control.shared
      actions := control.actions }

/-- The highest sequence that the phase remembers. -/
def cursor : Option UInt64 :=
  match c.phase with
  | .negotiating handshake => handshake.highestDisplaySequence
  | .active .. => c.shared.session.bind (·.highestSequence)
  | .ended _ => none

/-- The sequence of the packet, when it is newer than the remembered one. -/
def freshSequence (packet : Packet) : Option UInt64 :=
  if packet.channel ≠ .control then none
  else ((frameOf packet).map (·.header.sequence)).filter fun sequence =>
    !c.cursor.any (sequence ≤ ·)

def deliver (packet : Packet) : Option HostConnection :=
  let accepted := c.accepted ++ (c.freshSequence packet).toList
  match c.phase with
  | .negotiating handshake => some { c.negotiate env handshake packet with accepted }
  | .active inputCapabilities nextSequence =>
    some { c.control env inputCapabilities nextSequence packet with accepted }
  | .ended _ => none

end Packets

/-- Packets arrive until the connection ends. -/
def machine : Machine HostConnection (ConnectionEnvironment × Packet) where
  step c delivery := c.deliver delivery.1 delivery.2

end HostConnection

section Steps

theorem HostHandshake.store_keeps {handshake stored : HostHandshake} {frame : Frame}
    (h : handshake.store frame = .ok stored) :
    stored.highestDisplaySequence = handshake.highestDisplaySequence ∧
      stored.hostCapabilities = handshake.hostCapabilities := by
  rw [HostHandshake.store] at h
  split at h
  · split at h
    · cases h
    · obtain ⟨hello, -, h⟩ := bind_eq_ok.mp h
      cases h
      exact ⟨rfl, rfl⟩
  · split at h
    · cases h
    · obtain ⟨capabilities, -, h⟩ := bind_eq_ok.mp h
      cases h
      exact ⟨rfl, rfl⟩
  · cases h

/-- A frame that the handshake takes is newer than the remembered sequence. -/
theorem HostHandshake.take_ok {handshake taken : HostHandshake} {packet : Packet} {frame : Frame}
    (h : handshake.take packet = .ok (frame, taken)) :
    packet.channel = .control ∧ frameOf packet = some frame ∧
      ¬handshake.highestDisplaySequence.any (frame.header.sequence ≤ ·) = true ∧
      taken.highestDisplaySequence = some frame.header.sequence ∧
      taken.hostCapabilities = handshake.hostCapabilities := by
  rw [HostHandshake.take] at h
  split at h
  · cases h
  rename_i hchannel
  split at h
  · cases h
  · cases h
  rename_i decoded consumed hdecode
  split at h
  · cases h
  rename_i hwhole
  simp only at h
  split at h
  · cases h
  rename_i hfresh
  obtain ⟨stored, hstore, h⟩ := bind_eq_ok.mp h
  cases h
  obtain ⟨hhighest, hcapabilities⟩ := HostHandshake.store_keeps hstore
  refine ⟨not_not.mp hchannel, ?_, hfresh, hhighest, hcapabilities⟩
  rw [frameOf, hdecode]
  exact if_pos (not_not.mp hwhole)

theorem HostHandshake.complete_ok {handshake completed : HostHandshake}
    {result : Option EstablishedHostSession}
    (h : handshake.complete = .ok (completed, result)) :
    completed = handshake ∧ ∀ established, result = some established →
      handshake.establish = .ok established := by
  rw [HostHandshake.complete] at h
  split at h
  · obtain ⟨established, hestablish, h⟩ := bind_eq_ok.mp h
    cases h
    refine ⟨rfl, ?_⟩
    intro other hother
    cases hother
    exact hestablish
  · cases h
    exact ⟨rfl, by simp⟩

/-- The established session continues from the highest sequence of the handshake. -/
theorem HostHandshake.establish_session {handshake : HostHandshake}
    {established : EstablishedHostSession} (h : handshake.establish = .ok established) :
    established.session.phase = .active ∧
      established.session.highestSequence = handshake.highestDisplaySequence := by
  rw [HostHandshake.establish] at h
  split at h
  · cases h
  · cases h
  · obtain ⟨agreement, -, h⟩ := bind_eq_ok.mp h
    obtain ⟨displayConfig, -, h⟩ := bind_eq_ok.mp h
    cases hsequence : handshake.highestDisplaySequence with
    | none =>
      rw [hsequence] at h
      cases h
      exact ⟨rfl, rfl⟩
    | some sequence =>
      rw [hsequence] at h
      cases h
      exact ⟨rfl, rfl⟩

section Observed

variable {shared : SharedState} {session : Session} {sequence : UInt64}

theorem SharedState.observeSequence_fresh (hsession : shared.session = some session)
    (hactive : session.phase = .active)
    (hfresh : ¬session.highestSequence.any (sequence ≤ ·) = true) :
    shared.observeSequence sequence = (.ok (), { shared with
      session := some { session with highestSequence := some sequence } }) := by
  have hobserved := Session.observeSequence_fresh hactive hfresh
  obtain ⟨skipped, hobserved⟩ := hobserved
  simp only [SharedState.observeSequence, hsession, hobserved]

theorem SharedState.observeSequence_stale (hsession : shared.session = some session)
    (hactive : session.phase = .active)
    (hstale : session.highestSequence.any (sequence ≤ ·) = true) :
    ∃ error, shared.observeSequence sequence = (.error error, shared) := by
  have hsame : { shared with session := some session } = shared := by
    rw [← hsession]
  rcases Session.observeSequence_stale hactive hstale with hduplicate | ⟨highest, hold⟩
  · simp only [SharedState.observeSequence, hsession, hduplicate, hsame]
    exact ⟨_, rfl⟩
  · simp only [SharedState.observeSequence, hsession, hold, hsame]
    exact ⟨_, rfl⟩

end Observed

namespace UsbControl

variable {env : ControlEnvironment} {control : UsbControl} {inputCapabilities : InputCapabilities}

/-- A handler that records at most one action, under the given sequence, and keeps the session. -/
structure Acts (before after : UsbControl) (sequence : UInt64) : Prop where
  session : after.shared.session = before.shared.session
  actions : after.actions = before.actions ∨
    ∃ action, after.actions = before.actions ++ [(sequence, action)]

theorem Acts.refl (control : UsbControl) (sequence : UInt64) : Acts control control sequence :=
  ⟨rfl, .inl rfl⟩

theorem Acts.recorded (control : UsbControl) (sequence : UInt64) (action : HostAction) :
    Acts control (control.record sequence action) sequence :=
  ⟨rfl, .inr ⟨action, rfl⟩⟩

theorem answerPing_acts (frame : Frame) :
    Acts control (control.answerPing env frame).2 frame.header.sequence := by
  rw [answerPing]
  split
  · exact .refl control _
  split
  · exact .refl control _
  · simp only
    split
    · exact .recorded control _ _
    · exact ⟨rfl, .inr ⟨_, rfl⟩⟩

theorem applyInput_acts (frame : Frame) :
    Acts control (control.applyInput env inputCapabilities frame).2 frame.header.sequence := by
  rw [applyInput]
  split
  · exact .refl control _
  split
  · exact .refl control _
  · simp only
    split
    · exact .recorded control _ _
    · exact .recorded control _ _

theorem handleFrame_acts (frame : Frame) :
    Acts control (control.handleFrame env inputCapabilities frame).2 frame.header.sequence := by
  rw [handleFrame]
  simp only
  split
  · exact answerPing_acts frame
  · split
    · exact .refl control _
    · exact .refl control _
  · exact applyInput_acts frame
  · split
    · exact .refl control _
    · exact ⟨rfl, .inr ⟨_, rfl⟩⟩
  · split
    · exact .refl control _
    · exact .recorded control _ _
  · exact .refl control _

end UsbControl

namespace HostConnection

variable {env : ConnectionEnvironment} {c t : HostConnection} {packet : Packet}

theorem freshSequence_eq_some {sequence : UInt64} :
    c.freshSequence packet = some sequence ↔ packet.channel = .control ∧
      (∃ frame, frameOf packet = some frame ∧ frame.header.sequence = sequence) ∧
      ¬c.cursor.any (sequence ≤ ·) = true := by
  rw [freshSequence]
  by_cases hchannel : packet.channel = .control
  · rw [if_neg (not_not.mpr hchannel), Option.filter_eq_some_iff, Option.map_eq_some_iff]
    simp only [hchannel, true_and, Bool.not_eq_true', Bool.not_eq_true]
  · rw [if_pos hchannel]
    simp [hchannel]

/-- While it is active, the connection has an active session. -/
def SessionActive (c : HostConnection) : Prop :=
  ∀ inputCapabilities nextSequence, c.phase = .active inputCapabilities nextSequence →
    ∃ session, c.shared.session = some session ∧ session.phase = .active

def Ended (c : HostConnection) : Prop := ∃ error, c.phase = .ended error

/-- What a packet does. Without a newer sequence it can only end the connection. -/
inductive Outcome (c t : HostConnection) : Option UInt64 → Prop
  | ended (hended : t.Ended) (hshared : t.shared = c.shared) (hactions : t.actions = c.actions) :
      Outcome c t none
  | taken (sequence : UInt64)
      (hactions : t.actions = c.actions ∨ ∃ action, t.actions = c.actions ++ [(sequence, action)])
      (hcursor : t.Ended ∨ t.cursor = some sequence ∧ t.SessionActive) :
      Outcome c t (some sequence)

theorem openSession_taken {handshake : HostHandshake} {established : EstablishedHostSession}
    {sequence : UInt64} (hestablish : handshake.establish = .ok established)
    (hhighest : handshake.highestDisplaySequence = some sequence) :
    (c.openSession env established).actions = c.actions ∧
      ((c.openSession env established).Ended ∨
        (c.openSession env established).cursor = some sequence ∧
          (c.openSession env established).SessionActive) := by
  have hsession := HostHandshake.establish_session hestablish
  rw [openSession]
  simp only
  split
  · exact ⟨rfl, .inl ⟨_, rfl⟩⟩
  split
  · exact ⟨rfl, .inl ⟨_, rfl⟩⟩
  · refine ⟨rfl, .inr ⟨?_, ?_⟩⟩
    · show established.session.highestSequence = some sequence
      rw [hsession.2, hhighest]
    · intro inputCapabilities nextSequence hphase
      exact ⟨established.session, rfl, hsession.1⟩

theorem negotiate_outcome {handshake : HostHandshake} (hphase : c.phase = .negotiating handshake) :
    Outcome c (c.negotiate env handshake packet) (c.freshSequence packet) := by
  have hcursor : c.cursor = handshake.highestDisplaySequence := by
    rw [cursor, hphase]
  rw [negotiate]
  cases htake : handshake.take packet with
  | error error =>
    cases hfresh : c.freshSequence packet with
    | none => exact .ended ⟨error, rfl⟩ rfl rfl
    | some sequence => exact .taken sequence (.inl rfl) (.inl ⟨error, rfl⟩)
  | ok taken =>
    obtain ⟨frame, taken⟩ := taken
    obtain ⟨hchannel, hframe, hnewer, hhighest, -⟩ := HostHandshake.take_ok htake
    have hfresh : c.freshSequence packet = some frame.header.sequence := by
      rw [freshSequence_eq_some, hcursor]
      exact ⟨hchannel, ⟨frame, hframe, rfl⟩, hnewer⟩
    rw [hfresh]
    simp only
    have hstored : c.actions ++ (taken.storedAction frame).toList.map
          (fun action => (frame.header.sequence, action)) = c.actions ∨
        ∃ action, c.actions ++ (taken.storedAction frame).toList.map
          (fun action => (frame.header.sequence, action)) =
            c.actions ++ [(frame.header.sequence, action)] := by
      cases taken.storedAction frame with
      | none => exact .inl (List.append_nil _)
      | some action => exact .inr ⟨action, rfl⟩
    split
    · exact .taken _ hstored (.inl ⟨_, rfl⟩)
    · rename_i completed hcomplete
      obtain ⟨rfl, -⟩ := HostHandshake.complete_ok hcomplete
      refine .taken _ hstored (.inr ⟨hhighest, ?_⟩)
      intro inputCapabilities nextSequence hactive
      cases hactive
    · rename_i completed established hcomplete
      have hestablish := (HostHandshake.complete_ok hcomplete).2 established rfl
      have hopened := @openSession_taken env { c with
        actions := c.actions ++ (taken.storedAction frame).toList.map
          (fun action => (frame.header.sequence, action)) } taken established _ hestablish hhighest
      refine .taken _ ?_ hopened.2
      rw [hopened.1]
      exact hstored

theorem control_outcome {inputCapabilities : InputCapabilities} {nextSequence : UInt64}
    (hphase : c.phase = .active inputCapabilities nextSequence) (hsession : c.SessionActive) :
    Outcome c (c.control env inputCapabilities nextSequence packet) (c.freshSequence packet) := by
  obtain ⟨session, hshared, hactive⟩ := hsession inputCapabilities nextSequence hphase
  have hcursor : c.cursor = session.highestSequence := by
    rw [cursor, hphase, hshared]
    rfl
  have hnone : packet.channel ≠ .control ∨ frameOf packet = none →
      c.freshSequence packet = none := by
    intro hother
    by_contra hsome
    obtain ⟨sequence, hsome⟩ := Option.ne_none_iff_exists'.mp hsome
    obtain ⟨hchannel, ⟨frame, hframe, -⟩, -⟩ := freshSequence_eq_some.mp hsome
    cases hother with
    | inl hmedia => exact hmedia hchannel
    | inr hincomplete =>
      rw [hincomplete] at hframe
      cases hframe
  rw [control]
  by_cases hchannel : packet.channel ≠ .control
  · rw [if_pos hchannel, hnone (.inl hchannel)]
    exact .ended ⟨_, rfl⟩ rfl rfl
  rw [if_neg hchannel]
  rw [not_not] at hchannel
  rw [UsbControl.handleUsbControl]
  cases hdecode : Frame.decodePrefix packet.payload with
  | error error =>
    rw [hnone (.inr (by rw [frameOf, hdecode]))]
    exact .ended ⟨_, rfl⟩ rfl rfl
  | ok outcome =>
    cases outcome with
    | needMoreData minimum =>
      rw [hnone (.inr (by rw [frameOf, hdecode]))]
      exact .ended ⟨_, rfl⟩ rfl rfl
    | complete frame consumed =>
      simp only
      by_cases htrailing : consumed ≠ packet.len
      · rw [if_pos htrailing, hnone (.inr (by rw [frameOf, hdecode]; exact if_neg htrailing))]
        exact .ended ⟨_, rfl⟩ rfl rfl
      rw [if_neg htrailing]
      have hframe : frameOf packet = some frame := by
        rw [frameOf, hdecode]
        exact if_pos (not_not.mp htrailing)
      by_cases hstale : session.highestSequence.any (frame.header.sequence ≤ ·) = true
      · obtain ⟨error, hobserved⟩ := SharedState.observeSequence_stale hshared hactive hstale
        have hfresh : c.freshSequence packet = none := by
          by_contra hsome
          obtain ⟨sequence, hsome⟩ := Option.ne_none_iff_exists'.mp hsome
          obtain ⟨-, ⟨other, hother, rfl⟩, hnewer⟩ := freshSequence_eq_some.mp hsome
          rw [hframe] at hother
          cases hother
          exact hnewer (hcursor ▸ hstale)
        rw [hfresh, hobserved]
        exact .ended ⟨_, rfl⟩ rfl rfl
      · have hfresh : c.freshSequence packet = some frame.header.sequence := by
          rw [freshSequence_eq_some, hcursor]
          exact ⟨hchannel, ⟨frame, hframe, rfl⟩, hstale⟩
        rw [hfresh, SharedState.observeSequence_fresh hshared hactive hstale]
        have hacts := @UsbControl.handleFrame_acts env.toControlEnvironment
          ⟨{ c.shared with session := some { session with
            highestSequence := some frame.header.sequence } }, nextSequence, c.actions⟩
          inputCapabilities frame
        simp only
        generalize UsbControl.handleFrame _ _ _ _ = result at hacts ⊢
        obtain ⟨reply, after⟩ := result
        cases reply with
        | error error => exact .taken _ hacts.actions (.inl ⟨error, rfl⟩)
        | ok done =>
          have hkept : after.shared.session =
              some { session with highestSequence := some frame.header.sequence } := hacts.session
          refine .taken _ hacts.actions (.inr ⟨?_, ?_⟩)
          · show after.shared.session.bind (·.highestSequence) = _
            rw [hkept]
            rfl
          · intro inputCapabilities nextSequence hactive'
            exact ⟨_, hkept, hactive⟩

/-- The accepted sequences increase, every action has one of them, and none is above the cursor. -/
structure Inv (c : HostConnection) : Prop where
  ordered : c.accepted.Pairwise (· < ·)
  acted : (c.actions.map (·.1)).Sublist c.accepted
  bounded : ¬c.Ended → ∀ sequence ∈ c.accepted, c.cursor.any (sequence ≤ ·) = true
  session : c.SessionActive

theorem inv_start (handshake : HostHandshake) (shared : SharedState) :
    (start handshake shared).Inv where
  ordered := List.Pairwise.nil
  acted := List.Sublist.refl []
  bounded _ _ hmem := absurd hmem List.not_mem_nil
  session := by
    intro inputCapabilities nextSequence hactive
    cases hactive

/-- A packet without a newer sequence leaves everything but the phase, and ends the connection. -/
theorem deliver_outcome (h : c.Inv) (hstep : c.deliver env packet = some t) :
    Outcome c t (c.freshSequence packet) ∧
      t.accepted = c.accepted ++ (c.freshSequence packet).toList := by
  rw [deliver] at hstep
  split at hstep
  · rename_i handshake hphase
    have houtcome := @negotiate_outcome env c packet handshake hphase
    cases hstep
    refine ⟨?_, rfl⟩
    generalize c.freshSequence packet = fresh at houtcome ⊢
    cases houtcome with
    | ended hended hshared hactions => exact .ended hended hshared hactions
    | taken sequence hactions hcursor => exact .taken sequence hactions hcursor
  · rename_i inputCapabilities nextSequence hphase
    have houtcome := @control_outcome env c packet inputCapabilities nextSequence hphase h.session
    cases hstep
    refine ⟨?_, rfl⟩
    generalize c.freshSequence packet = fresh at houtcome ⊢
    cases houtcome with
    | ended hended hshared hactions => exact .ended hended hshared hactions
    | taken sequence hactions hcursor => exact .taken sequence hactions hcursor
  · cases hstep

theorem inv_deliver (h : c.Inv) (hstep : c.deliver env packet = some t) : t.Inv := by
  obtain ⟨houtcome, haccepted⟩ := deliver_outcome h hstep
  have hrunning : ¬c.Ended := by
    intro hended
    obtain ⟨error, hphase⟩ := hended
    rw [deliver, hphase] at hstep
    cases hstep
  cases hfresh : c.freshSequence packet with
  | none =>
    rw [hfresh] at houtcome haccepted
    cases houtcome with
    | ended hended hshared hactions =>
      rw [Option.toList_none, List.append_nil] at haccepted
      refine ⟨haccepted ▸ h.ordered, ?_, fun hnot => absurd hended hnot, ?_⟩
      · rw [hactions, haccepted]
        exact h.acted
      · intro inputCapabilities nextSequence hactive
        obtain ⟨error, hphase⟩ := hended
        rw [hphase] at hactive
        cases hactive
  | some sequence =>
    have hnewer := (freshSequence_eq_some.mp hfresh).2.2
    rw [hfresh] at houtcome haccepted
    rw [Option.toList_some] at haccepted
    cases houtcome with
    | taken _ hactions hcursor =>
      have habove : ∀ old ∈ c.accepted, old < sequence := by
        intro old hold
        obtain ⟨highest, hhighest, hle⟩ :=
          (Option.any_eq_true _ _).mp (h.bounded hrunning old hold)
        rw [hhighest] at hnewer
        have hlt : highest < sequence := by simpa using hnewer
        exact UInt64.lt_of_le_of_lt (of_decide_eq_true hle) hlt
      refine ⟨?_, ?_, ?_, ?_⟩
      · rw [haccepted, List.pairwise_append]
        refine ⟨h.ordered, List.pairwise_singleton _ _, ?_⟩
        intro old hold new hnew
        rw [List.mem_singleton.mp hnew]
        exact habove old hold
      · rw [haccepted]
        cases hactions with
        | inl hsame =>
          rw [hsame]
          exact h.acted.trans (List.sublist_append_left _ _)
        | inr hmore =>
          obtain ⟨action, hmore⟩ := hmore
          rw [hmore, List.map_append]
          exact h.acted.append (List.Sublist.refl [sequence])
      · intro hnot old hold
        obtain ⟨hhighest, -⟩ := hcursor.resolve_left hnot
        rw [hhighest]
        rw [haccepted] at hold
        rcases List.mem_append.mp hold with hold | hold
        · exact decide_eq_true (UInt64.le_of_lt (habove old hold))
        · rw [List.mem_singleton.mp hold]
          exact decide_eq_true (UInt64.le_refl sequence)
      · intro inputCapabilities nextSequence hactive
        cases hcursor with
        | inl hended =>
          obtain ⟨error, hphase⟩ := hended
          rw [hphase] at hactive
          cases hactive
        | inr hkept => exact hkept.2 inputCapabilities nextSequence hactive

theorem inv_run {deliveries : List (ConnectionEnvironment × Packet)} {handshake : HostHandshake}
    {shared : SharedState} (hrun : machine.run (start handshake shared) deliveries = some c) :
    c.Inv :=
  machine.run_invariant Inv (fun _ _ _ h hstep => inv_deliver h hstep) (inv_start _ _) hrun

/-- The host never acts upon a sequence twice or out of order, and a frame that is not newer than
every accepted one ends the connection without any other effect. -/
theorem actions_fresh {deliveries : List (ConnectionEnvironment × Packet)}
    {handshake : HostHandshake} {shared : SharedState}
    (hrun : machine.run (start handshake shared) deliveries = some c) :
    (c.actions.map (·.1)).Pairwise (· < ·) ∧
      ∀ env packet frame t, frameOf packet = some frame →
        (∃ accepted ∈ c.accepted, frame.header.sequence ≤ accepted) →
        machine.step c (env, packet) = some t →
        t.Ended ∧ t.shared = c.shared ∧ t.actions = c.actions ∧ t.accepted = c.accepted := by
  have hinv := inv_run hrun
  refine ⟨hinv.ordered.sublist hinv.acted, ?_⟩
  intro env packet frame t hframe hold hstep
  obtain ⟨houtcome, haccepted⟩ := deliver_outcome hinv hstep
  have hrunning : ¬c.Ended := by
    intro hended
    obtain ⟨error, hphase⟩ := hended
    change c.deliver env packet = some t at hstep
    rw [deliver, hphase] at hstep
    cases hstep
  have hnone : c.freshSequence packet = none := by
    by_contra hsome
    obtain ⟨sequence, hsome⟩ := Option.ne_none_iff_exists'.mp hsome
    obtain ⟨-, ⟨other, hother, rfl⟩, hnewer⟩ := freshSequence_eq_some.mp hsome
    rw [hframe] at hother
    cases hother
    obtain ⟨accepted, hmem, hle⟩ := hold
    obtain ⟨highest, hhighest, habove⟩ :=
      (Option.any_eq_true _ _).mp (hinv.bounded hrunning accepted hmem)
    apply hnewer
    rw [hhighest]
    exact decide_eq_true (UInt64.le_trans hle (of_decide_eq_true habove))
  rw [hnone] at houtcome haccepted
  cases houtcome with
  | ended hended hshared hactions =>
    exact ⟨hended, hshared, hactions, haccepted.trans (List.append_nil _)⟩

/-- Everything that the host calls succeeds. -/
def working : ConnectionEnvironment where
  receivedAt := 5000
  answeredAt := 5001
  send _ := .ok ()
  inject _ := .ok ()
  openCapture _ _ := .ok ()
  openInput _ := .ok ()

/-- The handshake that asks for full HD. -/
def fullHdHandshake : Except HostError HostHandshake := do
  let config ← HostProtocolConfig.new 1920 1080 60
  HostHandshake.withNonce config hostNonce

def negotiating : SharedState :=
  .resetForAndroidNegotiation ⟨1920, 1080, 60⟩ usbTransportName (.fromMillis 0)

/-- The display introduces itself, with gaps in its sequences, and sends a ping. -/
def introduction : List (ConnectionEnvironment × Packet) :=
  ([controlPacket 0 androidHello, controlPacket 5 largeDisplay,
    controlPacket 9 (⟨7, 1000⟩ : Ping)].filterMap (·.toOption)).map (working, ·)

theorem actions_fresh_ping : ∃ handshake c, fullHdHandshake = .ok handshake ∧
    machine.run (start handshake negotiating) introduction = some c ∧
    c.actions.map (·.1) = [0, 5, 9] ∧ (c.actions.map (·.1)).Pairwise (· < ·) := by
  have hreached : fullHdHandshake.toOption.any (fun handshake =>
      (machine.run (start handshake negotiating) introduction).any
        fun c => c.actions.map (·.1) = [0, 5, 9]) = true := by
    decide +kernel
  obtain ⟨handshake, hwith, hreached⟩ := (Option.any_eq_true _ _).mp hreached
  obtain ⟨c, hrun, hactions⟩ := (Option.any_eq_true _ _).mp hreached
  refine ⟨handshake, c, ?_, hrun, of_decide_eq_true hactions, (actions_fresh hrun).1⟩
  cases hhandshake : fullHdHandshake with
  | error error =>
    rw [hhandshake] at hwith
    cases hwith
  | ok other =>
    rw [hhandshake] at hwith
    cases hwith
    rfl

end HostConnection

end Steps

end LadoFlow.Host
