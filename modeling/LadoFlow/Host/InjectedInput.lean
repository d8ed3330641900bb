import LadoFlow.Host.DisplayConnection

/-!
# Injected input is negotiated

The host injects an event only if both endpoints advertised its family.
-/

namespace LadoFlow.Host

open LadoFlow.Protocol LadoFlow.Core LadoFlow.Transport Framework

/-- The input families that an endpoint can advertise. -/
def inputFamilies : List InputCapabilities :=
  [InputCapabilities.pointer, InputCapabilities.touch, InputCapabilities.keyboard]

/-- The family of an event; a focus change belongs to any. -/
def inputFamily : InputEventKind → Option InputCapabilities
  | .pointerMove .. | .pointerButton .. | .wheel .. => some InputCapabilities.pointer
  | .key .. => some InputCapabilities.keyboard
  | .touch .. => some InputCapabilities.touch
  | .focus _ => none

/-- Both masks hold the family of the event. -/
def InBoth (host display : InputCapabilities) (kind : InputEventKind) : Prop :=
  ∃ family ∈ inputFamilies, (inputFamily kind).getD family = family ∧
    host.contains family = true ∧ display.contains family = true

section Masks

variable {host display negotiated : InputCapabilities}

theorem and_contains (a b family : UInt16) :
    a &&& b &&& family = family ↔ a &&& family = family ∧ b &&& family = family := by
  constructor
  · intro h
    have ha : a &&& (a &&& b &&& family) = a &&& b &&& family := by
      rw [← UInt16.and_assoc, ← UInt16.and_assoc, UInt16.and_self]
    have hb : b &&& (a &&& b &&& family) = a &&& b &&& family := by
      rw [← UInt16.and_assoc, UInt16.and_comm a b, ← UInt16.and_assoc, UInt16.and_self]
    rw [h] at ha hb
    exact ⟨ha, hb⟩
  · intro h
    rw [UInt16.and_assoc, h.2, h.1]

theorem contains_of_intersection (hbits : negotiated.bits = host.bits &&& display.bits)
    (family : InputCapabilities) :
    negotiated.contains family = true ↔
      host.contains family = true ∧ display.contains family = true := by
  simp only [BitSet.contains, hbits, decide_eq_true_eq]
  exact and_contains host.bits display.bits family.bits

/-- A set of known families is not empty exactly when it has one of them. -/
theorem bits_ne_zero_iff (set : InputCapabilities) :
    set.bits ≠ 0 ↔ ∃ family ∈ inputFamilies, set.contains family = true := by
  have hlow : set.bits.toNat < 8 := by
    have hknown := congrArg UInt16.toNat set.known
    have hmasked : set.bits = set.bits &&& 7 := by
      apply UInt16.toBitVec_inj.mp
      have hzero : set.bits.toBitVec &&& ~~~7#16 = 0#16 := congrArg UInt16.toBitVec set.known
      have hsplit : set.bits.toBitVec =
          set.bits.toBitVec &&& 7#16 ||| set.bits.toBitVec &&& ~~~7#16 := by
        ext i hi
        simp only [BitVec.getElem_or, BitVec.getElem_and, BitVec.getElem_not]
        cases set.bits.toBitVec[i] <;> cases (7#16)[i] <;> rfl
      rw [hzero, BitVec.or_zero] at hsplit
      exact hsplit
    rw [hmasked, UInt16.toNat_and]
    exact Nat.lt_of_le_of_lt Nat.and_le_right (by decide)
  have hvalues : ∀ value < 8, UInt16.ofNat value ≠ 0 ↔ ∃ family ∈ inputFamilies,
      UInt16.ofNat value &&& family.bits = family.bits := by
    decide
  have hset := hvalues set.bits.toNat hlow
  rw [UInt16.ofNat_toNat] at hset
  simpa only [BitSet.contains, decide_eq_true_eq] using hset

/-- The check before the injection passes exactly the events of a family in both masks. -/
theorem requireNegotiatedInput_eq_ok (hbits : negotiated.bits = host.bits &&& display.bits)
    (event : InputEvent) :
    requireNegotiatedInput event negotiated = .ok () ↔ InBoth host display event.kind := by
  have hrequire : ∀ family ∈ inputFamilies, inputFamily event.kind = some family →
      ∀ message, (if negotiated.contains family = true then (.ok () : Except HostError Unit)
        else .error message) = .ok () ↔ InBoth host display event.kind := by
    intro family hmem hfamily message
    have hin : InBoth host display event.kind ↔ negotiated.contains family = true := by
      rw [contains_of_intersection hbits, InBoth, hfamily]
      constructor
      · intro h
        obtain ⟨other, -, heq, hboth⟩ := h
        rw [Option.getD_some] at heq
        exact heq ▸ hboth
      · intro hboth
        exact ⟨family, hmem, rfl, hboth⟩
    rw [hin]
    by_cases hcontains : negotiated.contains family = true
    · simp [hcontains]
    · simp [hcontains]
  rw [requireNegotiatedInput]
  simp only
  split
  case h_6 focused hkind =>
    have hany : InBoth host display event.kind ↔
        ∃ family ∈ inputFamilies, negotiated.contains family = true := by
      simp only [InBoth, hkind, inputFamily, Option.getD_none, true_and,
        contains_of_intersection hbits]
    rw [hany, ← bits_ne_zero_iff]
    by_cases hzero : negotiated.bits ≠ 0
    · simp [hzero]
    · simp [hzero]
  all_goals
    rename_i hkind
    apply hrequire
    · decide
    · rw [hkind]
      rfl

end Masks

/-- The actions of the active phase; an injected event is negotiated. -/
def HostAction.Permitted (inputCapabilities : InputCapabilities) : HostAction → Prop
  | .storeHello _ | .storeCapabilities _ => False
  | .injectInput event => requireNegotiatedInput event inputCapabilities = .ok ()
  | .sendPong _ | .applyTelemetry _ | .reportError _ => True

namespace UsbControl

variable {env : ControlEnvironment} {inputCapabilities : InputCapabilities}

/-- A handler that acts at most once, and only as the negotiated input permits. -/
def ActsPermitted (inputCapabilities : InputCapabilities) (before after : UsbControl) : Prop :=
  after.actions = before.actions ∨ ∃ sequence action,
    after.actions = before.actions ++ [(sequence, action)] ∧ action.Permitted inputCapabilities

theorem ActsPermitted.recorded (control : UsbControl) (sequence : UInt64) {action : HostAction}
    (h : action.Permitted inputCapabilities) :
    ActsPermitted inputCapabilities control (control.record sequence action) :=
  .inr ⟨sequence, action, rfl, h⟩

theorem answerPing_permitted (control : UsbControl) (frame : Frame) :
    ActsPermitted inputCapabilities control (control.answerPing env frame).2 := by
  rw [answerPing]
  split
  · exact .inl rfl
  split
  · exact .inl rfl
  · simp only
    split
    · exact .recorded control _ trivial
    · exact .inr ⟨_, _, rfl, trivial⟩

/-- The check stands before every call of the injector. -/
theorem applyInput_permitted (control : UsbControl) (frame : Frame) :
    ActsPermitted inputCapabilities control
      (control.applyInput env inputCapabilities frame).2 := by
  rw [applyInput]
  split
  · exact .inl rfl
  split
  · exact .inl rfl
  · rename_i hrequired
    simp only
    split
    · exact .recorded control _ hrequired
    · exact .recorded control _ hrequired

theorem handleFrame_permitted (control : UsbControl) (frame : Frame) :
    ActsPermitted inputCapabilities control
      (control.handleFrame env inputCapabilities frame).2 := by
  rw [handleFrame]
  simp only
  split
  · exact answerPing_permitted control frame
  · split
    · exact .inl rfl
    · exact .inl rfl
  · exact applyInput_permitted control frame
  · split
    · exact .inl rfl
    · exact .inr ⟨_, _, rfl, trivial⟩
  · split
    · exact .inl rfl
    · exact .recorded control _ trivial
  · exact .inl rfl

theorem handleUsbControl_permitted (control : UsbControl) (packet : Packet) :
    ActsPermitted inputCapabilities control
      (control.handleUsbControl env inputCapabilities packet).2 := by
  rw [handleUsbControl]
  split
  · exact .inl rfl
  · exact .inl rfl
  · split
    · exact .inl rfl
    split
    · exact .inl rfl
    · rename_i shared hobserved
      exact handleFrame_permitted { control with shared } _

end UsbControl

section Handshake

/-- What the handshake takes is stored, the capabilities at most once. -/
theorem HostHandshake.take_stored {handshake taken : HostHandshake} {packet : Packet}
    {frame : Frame} (h : handshake.take packet = .ok (frame, taken)) :
    taken.displayCapabilities = handshake.displayCapabilities ∧
        (∃ hello, taken.storedAction frame = some (.storeHello hello)) ∨
      handshake.displayCapabilities = none ∧ ∃ capabilities,
        taken.displayCapabilities = some capabilities ∧
        taken.storedAction frame = some (.storeCapabilities capabilities) := by
  rw [HostHandshake.take] at h
  split at h
  · cases h
  split at h
  · cases h
  · cases h
  split at h
  · cases h
  simp only at h
  split at h
  · cases h
  obtain ⟨stored, hstore, h⟩ := bind_eq_ok.mp h
  cases h
  rw [HostHandshake.store] at hstore
  split at hstore
  · rename_i hkind
    split at hstore
    · cases hstore
    · obtain ⟨hello, -, hstore⟩ := bind_eq_ok.mp hstore
      cases hstore
      exact .inl ⟨rfl, hello, by simp [HostHandshake.storedAction, hkind]⟩
  · rename_i hkind
    split at hstore
    · cases hstore
    · rename_i hfirst
      obtain ⟨capabilities, -, hstore⟩ := bind_eq_ok.mp hstore
      cases hstore
      refine .inr ⟨by simpa using hfirst, capabilities, rfl, ?_⟩
      simp [HostHandshake.storedAction, hkind]
  · cases hstore

/-- The agreement holds the intersection of the input masks. -/
theorem HostHandshake.establish_input {handshake : HostHandshake}
    {established : EstablishedHostSession} (h : handshake.establish = .ok established) :
    ∃ capabilities agreement, handshake.displayCapabilities = some capabilities ∧
      established.session.agreement = some agreement ∧ agreement.capabilities.inputBits =
        handshake.hostCapabilities.input.bits &&& capabilities.input.bits := by
  rw [HostHandshake.establish] at h
  split at h
  · cases h
  · cases h
  · rename_i hello capabilities hhello hcapabilities
    simp only [bind_eq_ok, liftNegotiation_eq_ok, negotiate_eq_ok] at h
    obtain ⟨agreement, ⟨-, -, -, hagreement⟩, displayConfig, -, h⟩ := h
    refine ⟨capabilities, agreement, hcapabilities, ?_, ?_⟩
    · cases hsequence : handshake.highestDisplaySequence with
      | none =>
        rw [hsequence] at h
        cases h
        rfl
      | some sequence =>
        rw [hsequence] at h
        cases h
        rfl
    · rw [hagreement]
      rfl

theorem negotiatedRuntimeParameters_input {established : EstablishedHostSession}
    {agreement : NegotiatedSession} {config : LoopbackConfig} {input : InputCapabilities}
    (hagreement : established.session.agreement = some agreement)
    (h : negotiatedRuntimeParameters established = .ok (config, input)) :
    input.bits = agreement.capabilities.inputBits := by
  simp only [negotiatedRuntimeParameters, hagreement, bind_eq_ok, liftProtocol_eq_ok,
    InputCapabilities.fromBits, BitSet.ofBits_eq_ok] at h
  obtain ⟨negotiated, hbits, fps, -, h⟩ := h
  cases h
  exact hbits.symm

end Handshake

namespace HostConnection

variable {env : ConnectionEnvironment} {c t : HostConnection} {packet : Packet}

/-- The capabilities that the display advertised, in order. -/
def advertisedIn (actions : List (UInt64 × HostAction)) : List Capabilities :=
  actions.filterMap fun action =>
    match action.2 with
    | .storeCapabilities capabilities => some capabilities
    | _ => none

/-- The events that were handed to the injector, in order. -/
def injectedIn (actions : List (UInt64 × HostAction)) : List InputEvent :=
  actions.filterMap fun action =>
    match action.2 with
    | .injectInput event => some event
    | _ => none

theorem advertisedIn_append (first second : List (UInt64 × HostAction)) :
    advertisedIn (first ++ second) = advertisedIn first ++ advertisedIn second :=
  List.filterMap_append

theorem injectedIn_append (first second : List (UInt64 × HostAction)) :
    injectedIn (first ++ second) = injectedIn first ++ injectedIn second :=
  List.filterMap_append

/-- Nothing is injected while the handshake lasts, and then only what both masks hold. -/
structure Gated (host : InputCapabilities) (c : HostConnection) : Prop where
  negotiating : ∀ handshake, c.phase = .negotiating handshake →
    handshake.hostCapabilities.input = host ∧
      advertisedIn c.actions = handshake.displayCapabilities.toList ∧ injectedIn c.actions = []
  active : ∀ inputCapabilities nextSequence, c.phase = .active inputCapabilities nextSequence →
    ∃ display, advertisedIn c.actions = [display] ∧
      inputCapabilities.bits = host.bits &&& display.input.bits
  injected : ∀ event ∈ injectedIn c.actions, ∃ display, advertisedIn c.actions = [display] ∧
    InBoth host display.input event.kind

theorem gated_start (handshake : HostHandshake) (shared : SharedState)
    (hnone : handshake.displayCapabilities = none) :
    Gated handshake.hostCapabilities.input (start handshake shared) where
  negotiating := by
    intro other hphase
    cases hphase
    exact ⟨rfl, by rw [hnone]; rfl, rfl⟩
  active := by
    intro inputCapabilities nextSequence hphase
    cases hphase
  injected _ hmem := absurd hmem List.not_mem_nil

variable {host : InputCapabilities}

theorem Gated.of_ended (hended : t.Ended) (h : ∀ event ∈ injectedIn t.actions, ∃ display,
    advertisedIn t.actions = [display] ∧ InBoth host display.input event.kind) : Gated host t where
  negotiating := by
    intro handshake hphase
    obtain ⟨error, hother⟩ := hended
    rw [hphase] at hother
    cases hother
  active := by
    intro inputCapabilities nextSequence hphase
    obtain ⟨error, hother⟩ := hended
    rw [hphase] at hother
    cases hother
  injected := h

theorem Gated.openSession {handshake : HostHandshake} {established : EstablishedHostSession}
    (hhost : handshake.hostCapabilities.input = host)
    (hestablish : handshake.establish = .ok established)
    (hadvertised : advertisedIn c.actions = handshake.displayCapabilities.toList)
    (hquiet : injectedIn c.actions = []) : Gated host (c.openSession env established) := by
  have hnone : ∀ event ∈ injectedIn c.actions, ∃ display, advertisedIn c.actions = [display] ∧
      InBoth host display.input event.kind := by
    intro event hmem
    rw [hquiet] at hmem
    cases hmem
  rw [HostConnection.openSession]
  simp only
  split
  · exact .of_ended ⟨_, rfl⟩ hnone
  · rename_i config inputCapabilities hopened
    split
    · exact .of_ended ⟨_, rfl⟩ hnone
    · obtain ⟨capabilities, agreement, hcapabilities, hagreement, hbits⟩ :=
        HostHandshake.establish_input hestablish
      obtain ⟨configPacket, -, hopened⟩ := bind_eq_ok.mp hopened
      obtain ⟨-, -, hopened⟩ := bind_eq_ok.mp hopened
      obtain ⟨parameters, hparameters, hopened⟩ := bind_eq_ok.mp hopened
      obtain ⟨-, -, hopened⟩ := bind_eq_ok.mp hopened
      cases hopened
      have hinput := negotiatedRuntimeParameters_input hagreement hparameters
      refine ⟨?_, ?_, hnone⟩
      · intro other hphase
        cases hphase
      · intro input next hphase
        cases hphase
        refine ⟨capabilities, ?_, ?_⟩
        · rw [hcapabilities] at hadvertised
          exact hadvertised
        · rw [hinput, hbits, hhost]

theorem Gated.negotiate {handshake : HostHandshake} (h : Gated host c)
    (hphase : c.phase = .negotiating handshake) :
    Gated host (c.negotiate env handshake packet) := by
  obtain ⟨hhost, hadvertised, hquiet⟩ := h.negotiating handshake hphase
  rw [HostConnection.negotiate]
  cases htake : handshake.take packet with
  | error error => exact .of_ended ⟨_, rfl⟩ h.injected
  | ok taken =>
    obtain ⟨frame, taken⟩ := taken
    have hsame := (HostHandshake.take_ok htake).2.2.2.2
    -- The stored payload is the advertised one, and storing injects nothing.
    have hstored : advertisedIn (c.actions ++ (taken.storedAction frame).toList.map
          (fun action => (frame.header.sequence, action))) =
          taken.displayCapabilities.toList ∧
        injectedIn (c.actions ++ (taken.storedAction frame).toList.map
          (fun action => (frame.header.sequence, action))) = [] := by
      rw [advertisedIn_append, injectedIn_append, hadvertised, hquiet]
      cases HostHandshake.take_stored htake with
      | inl hhello =>
        obtain ⟨hkept, hello, haction⟩ := hhello
        rw [haction, hkept]
        exact ⟨List.append_nil _, rfl⟩
      | inr hcapabilities =>
        obtain ⟨hfirst, capabilities, hnow, haction⟩ := hcapabilities
        rw [haction, hfirst, hnow]
        exact ⟨rfl, rfl⟩
    have hnone : ∀ event ∈ injectedIn (c.actions ++ (taken.storedAction frame).toList.map
          (fun action => (frame.header.sequence, action))), ∃ display,
        advertisedIn (c.actions ++ (taken.storedAction frame).toList.map
          (fun action => (frame.header.sequence, action))) = [display] ∧
          InBoth host display.input event.kind := by
      intro event hmem
      rw [hstored.2] at hmem
      cases hmem
    simp only
    split
    · exact .of_ended ⟨_, rfl⟩ hnone
    · rename_i completed hcomplete
      obtain ⟨rfl, -⟩ := HostHandshake.complete_ok hcomplete
      refine ⟨?_, ?_, hnone⟩
      · intro other hother
        cases hother
        exact ⟨hsame ▸ hhost, hstored⟩
      · intro inputCapabilities nextSequence hother
        cases hother
    · rename_i completed established hcomplete
      have hestablish := (HostHandshake.complete_ok hcomplete).2 established rfl
      exact Gated.openSession (hsame ▸ hhost) hestablish hstored.1 hstored.2

theorem Gated.control {inputCapabilities : InputCapabilities} {nextSequence : UInt64}
    (h : Gated host c) (hphase : c.phase = .active inputCapabilities nextSequence) :
    Gated host (c.control env inputCapabilities nextSequence packet) := by
  obtain ⟨display, hadvertised, hbits⟩ := h.active inputCapabilities nextSequence hphase
  rw [HostConnection.control]
  split
  · exact .of_ended ⟨_, rfl⟩ h.injected
  have hpermitted := @UsbControl.handleUsbControl_permitted env.toControlEnvironment
    inputCapabilities ⟨c.shared, nextSequence, c.actions⟩ packet
  generalize UsbControl.handleUsbControl _ _ _ _ = result at hpermitted ⊢
  obtain ⟨reply, after⟩ := result
  have hkept : advertisedIn after.actions = [display] ∧
      ∀ event ∈ injectedIn after.actions, InBoth host display.input event.kind := by
    have hbefore : ∀ event ∈ injectedIn c.actions, InBoth host display.input event.kind := by
      intro event hmem
      obtain ⟨other, hother, hboth⟩ := h.injected event hmem
      rw [hadvertised] at hother
      cases hother
      exact hboth
    cases hpermitted with
    | inl hsame =>
      rw [show after.actions = c.actions from hsame]
      exact ⟨hadvertised, hbefore⟩
    | inr hacts =>
      obtain ⟨sequence, action, hactions, hpermitted⟩ := hacts
      rw [show after.actions = c.actions ++ [(sequence, action)] from hactions,
        advertisedIn_append, injectedIn_append, hadvertised]
      cases action with
      | storeHello | storeCapabilities => cases hpermitted
      | injectInput event =>
        refine ⟨rfl, ?_⟩
        intro other hmem
        rcases List.mem_append.mp hmem with hold | hnew
        · exact hbefore other hold
        · rw [show other = event from List.mem_singleton.mp hnew]
          exact (requireNegotiatedInput_eq_ok hbits event).mp hpermitted
      | sendPong | applyTelemetry | reportError =>
        refine ⟨rfl, ?_⟩
        intro other hmem
        exact hbefore other (by simpa [injectedIn] using hmem)
  cases reply with
  | error error => exact .of_ended ⟨_, rfl⟩ fun event hmem => ⟨display, hkept.1, hkept.2 event hmem⟩
  | ok done =>
    refine ⟨?_, ?_, fun event hmem => ⟨display, hkept.1, hkept.2 event hmem⟩⟩
    · intro handshake hother
      cases hother
    · intro input next hother
      cases hother
      exact ⟨display, hkept.1, hbits⟩

theorem Gated.deliver (h : Gated host c) (hstep : c.deliver env packet = some t) :
    Gated host t := by
  rw [HostConnection.deliver] at hstep
  split at hstep
  · rename_i handshake hphase
    have hafter := @Gated.negotiate env c packet host handshake h hphase
    cases hstep
    exact ⟨hafter.negotiating, hafter.active, hafter.injected⟩
  · rename_i inputCapabilities nextSequence hphase
    have hafter := @Gated.control env c packet host inputCapabilities nextSequence h hphase
    cases hstep
    exact ⟨hafter.negotiating, hafter.active, hafter.injected⟩
  · cases hstep

theorem gated_run {deliveries : List (ConnectionEnvironment × Packet)} {handshake : HostHandshake}
    {shared : SharedState} (hnone : handshake.displayCapabilities = none)
    (hrun : machine.run (start handshake shared) deliveries = some c) :
    Gated handshake.hostCapabilities.input c :=
  machine.run_invariant (Gated handshake.hostCapabilities.input)
    (fun _ _ _ h hstep => h.deliver hstep) (gated_start handshake shared hnone) hrun

end HostConnection

end LadoFlow.Host
