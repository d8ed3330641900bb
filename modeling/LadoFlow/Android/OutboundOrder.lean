import LadoFlow.Android.OutboundMux

/-!
# Wire order and sequence of the outbound writer

What was taken out of a lane and what is still in it are what the lane accepted. The writer passes
what it took before it takes again, so the order of the takes is the order on the wire.
-/

namespace LadoFlow.Android

open Framework

namespace OutboundEvent

variable {α : Type}

def acceptedIn (lane : OutboundLane) : OutboundEvent α → Option α
  | .accepted other payload => if other = lane then some payload else none
  | _ => none

def takenFrom (lane : OutboundLane) : OutboundEvent α → Option α
  | .scanned other payload | .selected other payload => if other = lane then some payload else none
  | _ => none

def passedFrom (lane : OutboundLane) : OutboundEvent α → Option α
  | .passed other payload _ => if other = lane then some payload else none
  | _ => none

def frame : OutboundEvent α → Option LdflFrame
  | .passed _ _ frame => some frame
  | _ => none

end OutboundEvent

section Log

variable {α : Type}

/-- The payloads that entered the lane. -/
def acceptedOn (lane : OutboundLane) (log : List (OutboundEvent α)) : List α :=
  log.filterMap (·.acceptedIn lane)

/-- The payloads that the writer took out of the lane. -/
def takenOn (lane : OutboundLane) (log : List (OutboundEvent α)) : List α :=
  log.filterMap (·.takenFrom lane)

/-- The payloads of the lane that were passed to `sendFrame`. -/
def passedOn (lane : OutboundLane) (log : List (OutboundEvent α)) : List α :=
  log.filterMap (·.passedFrom lane)

def passedFrames (log : List (OutboundEvent α)) : List LdflFrame := log.filterMap (·.frame)

variable (lane : OutboundLane) (log events : List (OutboundEvent α))

@[simp] theorem acceptedOn_nil : acceptedOn lane ([] : List (OutboundEvent α)) = [] := rfl

@[simp] theorem takenOn_nil : takenOn lane ([] : List (OutboundEvent α)) = [] := rfl

@[simp] theorem passedOn_nil : passedOn lane ([] : List (OutboundEvent α)) = [] := rfl

@[simp] theorem passedFrames_nil : passedFrames ([] : List (OutboundEvent α)) = [] := rfl

@[simp] theorem acceptedOn_append :
    acceptedOn lane (log ++ events) = acceptedOn lane log ++ acceptedOn lane events :=
  List.filterMap_append ..

@[simp] theorem takenOn_append :
    takenOn lane (log ++ events) = takenOn lane log ++ takenOn lane events :=
  List.filterMap_append ..

@[simp] theorem passedOn_append :
    passedOn lane (log ++ events) = passedOn lane log ++ passedOn lane events :=
  List.filterMap_append ..

@[simp] theorem passedFrames_append :
    passedFrames (log ++ events) = passedFrames log ++ passedFrames events :=
  List.filterMap_append ..

/-- Only senders act in the events. -/
def Accepts (events : List (OutboundEvent α)) : Prop :=
  ∀ event ∈ events, ∃ lane payload, event = .accepted lane payload

variable {lane log events}

theorem Accepts.taken (h : Accepts events) : takenOn lane events = [] := by
  apply List.filterMap_eq_nil_iff.mpr
  intro event hevent
  obtain ⟨other, payload, hother⟩ := h event hevent
  rw [hother]
  rfl

theorem Accepts.passed (h : Accepts events) : passedOn lane events = [] := by
  apply List.filterMap_eq_nil_iff.mpr
  intro event hevent
  obtain ⟨other, payload, hother⟩ := h event hevent
  rw [hother]
  rfl

theorem Accepts.frames (h : Accepts events) : passedFrames events = [] := by
  apply List.filterMap_eq_nil_iff.mpr
  intro event hevent
  obtain ⟨other, payload, hother⟩ := h event hevent
  rw [hother]
  rfl

/-- The scan has passed over these lanes and found each of them empty: everything it had accepted was
taken. Since its start only senders have acted. -/
inductive ScannedOver : List OutboundLane → List (OutboundEvent α) → Prop
  | start (log : List (OutboundEvent α)) : ScannedOver [] log
  | passedOver {lanes : List OutboundLane} {log : List (OutboundEvent α)} {lane : OutboundLane}
      (h : ScannedOver lanes log) (hempty : takenOn lane log = acceptedOn lane log) :
      ScannedOver (lanes ++ [lane]) (log ++ [.passedOver lane])
  | accepted {lanes : List OutboundLane} {log : List (OutboundEvent α)} (lane : OutboundLane)
      (payload : α) (h : ScannedOver lanes log) : ScannedOver lanes (log ++ [.accepted lane payload])

theorem ScannedOver.accepts {lanes : List OutboundLane} (h : ScannedOver lanes log)
    (hevents : Accepts events) : ScannedOver lanes (log ++ events) := by
  induction events generalizing log with
  | nil =>
    rw [List.append_nil]
    exact h
  | cons event events ih =>
    obtain ⟨lane, payload, hevent⟩ := hevents event List.mem_cons_self
    have hsnoc := h.accepted lane payload
    have hrest := ih hsnoc fun other hother => hevents other (List.mem_cons_of_mem event hother)
    rw [hevent]
    rw [List.append_assoc] at hrest
    exact hrest

/-- The law of the wire: a frame carries the number of the frames before it and the payload of its
event, and follows no failed call; the scan reaches the motion over two empty lanes. -/
def WireLaw (framed : α → OutboundPayload) (log : List (OutboundEvent α)) : OutboundEvent α → Prop
  | .passed _ payload frame =>
    frame.sequence.toNat = (passedFrames log).length ∧
    LdflFrame.fromPayload (framed payload).flags frame.sequence (framed payload).payload = .ok frame ∧
    ∀ outcome, .returned outcome ∈ log → outcome = .written
  | .scanned .coalescibleInput _ => ScannedOver [.control, .criticalInput] log
  | _ => True

end Log

theorem sequence_of_fromPayload {flags : FrameFlags} {sequence : UInt64} {payload : AnyPayload}
    {frame : LdflFrame} (h : LdflFrame.fromPayload flags sequence payload = .ok frame) :
    frame.sequence = sequence := by
  obtain ⟨bytes, -, hnew⟩ := bind_eq_ok.mp h
  rw [LdflFrame.new] at hnew
  split at hnew
  · cases hnew
    rfl
  · cases hnew

namespace WriterPoint

variable {α : Type}

def closedLanes : WriterPoint α → Finset OutboundLane
  | .scan _ closedLanes | .select closedLanes => closedLanes
  | _ => ∅

/-- The payload in the writer's hand. -/
def held (lane : OutboundLane) : WriterPoint α → List α
  | .received other payload => if other = lane then [payload] else []
  | _ => []

def Running (point : WriterPoint α) : Prop := ∀ failure, point ≠ .stopped failure

/-- The lanes that the scan has passed over. -/
def lanesBefore : OutboundLane → List OutboundLane
  | .control => []
  | .criticalInput => [.control]
  | .coalescibleInput => [.control, .criticalInput]

end WriterPoint

namespace OutboundChannel

variable {α : Type} (channel : OutboundChannel α)

theorem tryReceive_cases :
    (channel.buffer = [] ∧ channel.tryReceive = (if channel.closed then .closed else .failed, channel)) ∨
    ∃ payload buffer, channel.buffer = payload :: buffer ∧ channel.tryReceive = (.value payload,
      { channel with
        buffer := buffer ++ channel.suspended.take 1
        suspended := channel.suspended.drop 1 }) := by
  rw [tryReceive]
  cases hbuffer : channel.buffer with
  | nil => exact .inl ⟨rfl, rfl⟩
  | cons payload buffer => exact .inr ⟨payload, buffer, rfl, rfl⟩

end OutboundChannel

namespace OutboundHistory

variable {α : Type} {framed : α → OutboundPayload} {mux : OutboundMux α}
  {log events : List (OutboundEvent α)} {point : WriterPoint α}

/-- The order that the senders and the writer keep. -/
structure Ordered (framed : α → OutboundPayload) (s : OutboundHistory α) : Prop where
  queued : ∀ lane, takenOn lane s.log ++ (s.mux.lanes lane).buffer = acceptedOn lane s.log
  passed : ∀ lane, passedOn lane s.log <+: takenOn lane s.log
  held : s.mux.point.Running → ∀ lane,
    passedOn lane s.log ++ s.mux.point.held lane = takenOn lane s.log
  counted : s.mux.point.Running → (passedFrames s.log).length =
    if s.mux.sequenceExhausted then 2 ^ 64 else s.mux.nextSequence.toNat
  failed : s.mux.point.Running → ∀ outcome, .returned outcome ∈ s.log → outcome = .written
  closed : ∀ lane ∈ s.mux.point.closedLanes,
    (s.mux.lanes lane).closed = true ∧ (s.mux.lanes lane).buffer = []
  scan : ∀ lane closedLanes, s.mux.point = .scan lane closedLanes →
    ScannedOver (WriterPoint.lanesBefore lane) s.log
  lawful : Lawful (WireLaw framed) s.log

theorem ordered_start (capacity : OutboundLane → Nat) : (start capacity).Ordered framed where
  queued := fun _ => rfl
  passed := fun _ => List.prefix_rfl
  held := fun _ _ => rfl
  counted := fun _ => rfl
  failed := by simp [start]
  closed := by simp [start, OutboundMux.new, WriterPoint.closedLanes]
  scan := by
    intro lane closedLanes hpoint
    cases hpoint
    exact .start _
  lawful := lawful_nil

/-- What a sender does to the lanes. -/
structure Sends (mux after : OutboundMux α) (events : List (OutboundEvent α)) : Prop where
  accepts : Accepts events
  buffer : ∀ lane, (after.lanes lane).buffer = (mux.lanes lane).buffer ++ acceptedOn lane events
  closed : ∀ lane ∈ mux.point.closedLanes, (mux.lanes lane).closed = true →
    (after.lanes lane).closed = true ∧ acceptedOn lane events = []
  nextSequence : after.nextSequence = mux.nextSequence
  sequenceExhausted : after.sequenceExhausted = mux.sequenceExhausted
  point : after.point = mux.point

theorem Ordered.sends {after : OutboundMux α} (h : Ordered framed ⟨mux, log⟩)
    (hsends : Sends mux after events) : Ordered framed ⟨after, log ++ events⟩ where
  queued := by
    intro lane
    have hqueued : takenOn lane log ++ (mux.lanes lane).buffer = acceptedOn lane log := h.queued lane
    simp only [takenOn_append, acceptedOn_append, hsends.accepts.taken, List.append_nil,
      hsends.buffer, ← hqueued, List.append_assoc]
  passed := by
    intro lane
    simp only [takenOn_append, passedOn_append, hsends.accepts.taken, hsends.accepts.passed,
      List.append_nil]
    exact h.passed lane
  held := by
    simp only [takenOn_append, passedOn_append, hsends.accepts.taken, hsends.accepts.passed,
      List.append_nil, hsends.point]
    exact h.held
  counted := by
    simp only [passedFrames_append, hsends.accepts.frames, List.append_nil, hsends.point,
      hsends.nextSequence, hsends.sequenceExhausted]
    exact h.counted
  failed := by
    simp only [hsends.point]
    intro hrunning outcome hmem
    rcases List.mem_append.mp hmem with hold | hnew
    · exact h.failed hrunning outcome hold
    · obtain ⟨lane, payload, hevent⟩ := hsends.accepts _ hnew
      cases hevent
  closed := by
    simp only [hsends.point]
    intro lane hlane
    obtain ⟨hclosed, hbuffer⟩ := h.closed lane hlane
    obtain ⟨hafter, hevents⟩ := hsends.closed lane hlane hclosed
    refine ⟨hafter, ?_⟩
    rw [hsends.buffer, hevents, List.append_nil]
    exact hbuffer
  scan := by
    simp only [hsends.point]
    intro lane closedLanes hpoint
    exact (h.scan lane closedLanes hpoint).accepts hsends.accepts
  lawful := by
    apply h.lawful.append
    intro event hevent before
    obtain ⟨lane, payload, haccepted⟩ := hsends.accepts event hevent
    rw [haccepted]
    trivial

theorem acceptedOn_map (lane other : OutboundLane) (payloads : List α) :
    acceptedOn other (payloads.map (.accepted lane)) = if lane = other then payloads else [] := by
  by_cases hlane : lane = other
  · simp [acceptedOn, OutboundEvent.acceptedIn, List.filterMap_map, hlane]
  · simp [acceptedOn, OutboundEvent.acceptedIn, List.filterMap_map, hlane]

theorem accepts_map (lane : OutboundLane) (payloads : List α) :
    Accepts (payloads.map (.accepted lane)) := by
  intro event hevent
  obtain ⟨payload, -, hpayload⟩ := List.mem_map.mp hevent
  exact ⟨lane, payload, hpayload.symm⟩

/-- Payloads enter one lane, which keeps them out once it is known to be closed. -/
theorem sends_channel {after : OutboundMux α} (lane : OutboundLane) {channel : OutboundChannel α}
    (payloads : List α) (hlanes : after.lanes = Function.update mux.lanes lane channel)
    (hbuffer : channel.buffer = (mux.lanes lane).buffer ++ payloads)
    (hclosed : lane ∈ mux.point.closedLanes → (mux.lanes lane).closed = true →
      channel.closed = true ∧ payloads = [])
    (hnext : after.nextSequence = mux.nextSequence)
    (hexhausted : after.sequenceExhausted = mux.sequenceExhausted)
    (hpoint : after.point = mux.point) : Sends mux after (payloads.map (.accepted lane)) := by
  refine ⟨accepts_map lane payloads, ?_, ?_, hnext, hexhausted, hpoint⟩
  · intro other
    rw [acceptedOn_map, hlanes]
    by_cases hlane : lane = other
    · subst hlane
      simp [hbuffer]
    · simp [hlane, Function.update_of_ne (Ne.symm hlane)]
  · intro other hother hopen
    rw [acceptedOn_map, hlanes]
    by_cases hlane : lane = other
    · subst hlane
      simpa using hclosed hother hopen
    · simpa [hlane, Function.update_of_ne (Ne.symm hlane)] using hopen

theorem sends_send (lane : OutboundLane) (payload : α) :
    Sends mux (mux.send lane payload).1 (mux.send lane payload).2 := by
  rw [OutboundMux.send]
  by_cases hroom : (mux.lanes lane).hasRoom = true
  · have hopen := hroom
    simp only [OutboundChannel.hasRoom, Bool.and_eq_true, Bool.not_eq_true', decide_eq_true_eq]
      at hopen
    rw [if_pos hroom]
    refine sends_channel lane [payload] rfl ?_ ?_ rfl rfl rfl
    · simp [OutboundChannel.send, hopen]
    · simp [hopen]
  · rw [if_neg hroom]
    refine sends_channel lane [] rfl ?_ ?_ rfl rfl rfl
    · rw [OutboundChannel.send]
      split
      · simp
      · split
        · rename_i hclosed hlt
          simp [OutboundChannel.hasRoom, hclosed, hlt] at hroom
        · simp
    · intro _ hclosed
      simp [OutboundChannel.send, hclosed]

theorem sends_trySend (mux : OutboundMux α) (payload : α) :
    Sends mux (mux.trySendCoalescibleInput payload).1 (mux.trySendCoalescibleInput payload).2 := by
  rw [OutboundMux.trySendCoalescibleInput, OutboundChannel.trySend]
  by_cases hroom : (mux.lanes .coalescibleInput).hasRoom = true
  · have hopen := hroom
    simp only [OutboundChannel.hasRoom, Bool.and_eq_true, Bool.not_eq_true', decide_eq_true_eq]
      at hopen
    rw [if_pos hroom]
    refine sends_channel .coalescibleInput [payload] rfl ?_ ?_ rfl rfl rfl
    · simp
    · simp [hopen]
  · rw [if_neg hroom]
    refine ⟨?_, fun _ => ?_, fun _ _ hclosed => ⟨hclosed, rfl⟩, rfl, rfl, rfl⟩
    · intro event hevent
      simp at hevent
    · simp

/-- The writer moves to another point of its loop and only notes a lane it has passed over. -/
theorem Ordered.goto (h : Ordered framed ⟨mux, log⟩) (hrunning : mux.point.Running)
    (hheld : ∀ lane, mux.point.held lane = []) (point : WriterPoint α)
    (hevents : events = [] ∨ ∃ lane, events = [.passedOver lane])
    (hpoint : ∀ lane, point.held lane = [])
    (hclosed : ∀ lane ∈ point.closedLanes,
      (mux.lanes lane).closed = true ∧ (mux.lanes lane).buffer = [])
    (hscan : ∀ lane closedLanes, point = .scan lane closedLanes →
      ScannedOver (WriterPoint.lanesBefore lane) (log ++ events)) :
    Ordered framed ⟨{ mux with point }, log ++ events⟩ := by
  have hsilent : (∀ lane, acceptedOn lane events = []) ∧ (∀ lane, takenOn lane events = []) ∧
      (∀ lane, passedOn lane events = []) ∧ passedFrames events = [] ∧
      (∀ outcome, .returned outcome ∉ events) ∧
      ∀ event ∈ events, ∀ before, WireLaw framed before event := by
    rcases hevents with hnil | ⟨lane, hone⟩
    · rw [hnil]
      simp
    · rw [hone]
      simp [acceptedOn, takenOn, passedOn, passedFrames, OutboundEvent.acceptedIn,
        OutboundEvent.takenFrom, OutboundEvent.passedFrom, OutboundEvent.frame, WireLaw]
  obtain ⟨haccepted, htaken, hpassed, hframes, hreturned, hfree⟩ := hsilent
  exact
    { queued := by
        intro lane
        simp only [takenOn_append, acceptedOn_append, htaken, haccepted, List.append_nil]
        exact h.queued lane
      passed := by
        intro lane
        simp only [takenOn_append, passedOn_append, htaken, hpassed, List.append_nil]
        exact h.passed lane
      held := by
        intro _ lane
        have hold := h.held hrunning lane
        simp only [hheld, List.append_nil] at hold
        simp only [takenOn_append, passedOn_append, htaken, hpassed, hpoint, List.append_nil]
        exact hold
      counted := by
        intro _
        simp only [passedFrames_append, hframes, List.append_nil]
        exact h.counted hrunning
      failed := by
        intro _ outcome hmem
        rcases List.mem_append.mp hmem with hold | hnew
        · exact h.failed hrunning outcome hold
        · exact absurd hnew (hreturned outcome)
      closed := hclosed
      scan := hscan
      lawful := h.lawful.append hfree }

/-- The writer stops; nothing is claimed of a stopped writer but the order of what it did. -/
theorem Ordered.stop (h : Ordered framed ⟨mux, log⟩) {after : OutboundMux α} {failure : Option String}
    (hlanes : after.lanes = mux.lanes) (hpoint : after.point = .stopped failure)
    (hevents : events = [] ∨ ∃ outcome, events = [.returned outcome]) :
    Ordered framed ⟨after, log ++ events⟩ := by
  have hsilent : (∀ lane, acceptedOn lane events = []) ∧ (∀ lane, takenOn lane events = []) ∧
      (∀ lane, passedOn lane events = []) ∧
      ∀ event ∈ events, ∀ before, WireLaw framed before event := by
    rcases hevents with hnil | ⟨outcome, hone⟩
    · rw [hnil]
      simp
    · rw [hone]
      simp [acceptedOn, takenOn, passedOn, OutboundEvent.acceptedIn, OutboundEvent.takenFrom,
        OutboundEvent.passedFrom, WireLaw]
  obtain ⟨haccepted, htaken, hpassed, hfree⟩ := hsilent
  have hstopped : ¬after.point.Running := fun hrunning => hrunning failure hpoint
  exact
    { queued := by
        intro lane
        simp only [takenOn_append, acceptedOn_append, htaken, haccepted, List.append_nil, hlanes]
        exact h.queued lane
      passed := by
        intro lane
        simp only [takenOn_append, passedOn_append, htaken, hpassed, List.append_nil]
        exact h.passed lane
      held := fun hrunning => absurd hrunning hstopped
      counted := fun hrunning => absurd hrunning hstopped
      failed := fun hrunning => absurd hrunning hstopped
      closed := by simp [hpoint, WriterPoint.closedLanes]
      scan := by simp [hpoint]
      lawful := h.lawful.append hfree }

/-- The writer takes the first payload of a lane; a waiting sender moves up. -/
theorem Ordered.take (h : Ordered framed ⟨mux, log⟩) (hrunning : mux.point.Running)
    (hheld : ∀ lane, mux.point.held lane = []) {lane : OutboundLane} {payload : α} {buffer : List α}
    (hbuffer : (mux.lanes lane).buffer = payload :: buffer) {event : OutboundEvent α}
    (hevent : event = .scanned lane payload ∨ event = .selected lane payload)
    (hlaw : WireLaw framed log event) :
    Ordered framed ⟨{ mux.setLane lane { mux.lanes lane with
        buffer := buffer ++ (mux.lanes lane).suspended.take 1
        suspended := (mux.lanes lane).suspended.drop 1 } with point := .received lane payload },
      log ++ event :: mux.resumed lane⟩ := by
  have htaken : ∀ other, takenOn other [event] = if lane = other then [payload] else [] := by
    intro other
    rcases hevent with heq | heq <;> rw [heq] <;>
      by_cases hlane : lane = other <;> simp [takenOn, OutboundEvent.takenFrom, hlane]
  have hsilent : (∀ other, acceptedOn other [event] = []) ∧ (∀ other, passedOn other [event] = []) ∧
      passedFrames [event] = [] ∧ ∀ outcome, .returned outcome ∉ [event] := by
    rcases hevent with heq | heq <;> rw [heq] <;>
      simp [acceptedOn, passedOn, passedFrames, OutboundEvent.acceptedIn, OutboundEvent.passedFrom,
        OutboundEvent.frame]
  obtain ⟨haccepted, hpassed, hframes, hreturned⟩ := hsilent
  have htook : Ordered framed ⟨{ mux.setLane lane { mux.lanes lane with buffer } with
      point := .received lane payload }, log ++ [event]⟩ :=
    { queued := by
        intro other
        have hqueued : takenOn other log ++ (mux.lanes other).buffer = acceptedOn other log :=
          h.queued other
        simp only [takenOn_append, acceptedOn_append, htaken, haccepted, List.append_nil,
          OutboundMux.setLane]
        by_cases hlane : lane = other
        · subst hlane
          simpa [hbuffer] using hqueued
        · simpa [hlane, Function.update_of_ne (Ne.symm hlane)] using hqueued
      passed := by
        intro other
        simp only [takenOn_append, passedOn_append, hpassed, List.append_nil]
        exact (h.passed other).trans (List.prefix_append _ _)
      held := by
        intro _ other
        have hold := h.held hrunning other
        simp only [hheld, List.append_nil] at hold
        simp only [takenOn_append, passedOn_append, hpassed, htaken, List.append_nil, hold,
          WriterPoint.held]
      counted := by
        intro _
        simp only [passedFrames_append, hframes, List.append_nil]
        exact h.counted hrunning
      failed := by
        intro _ outcome hmem
        rcases List.mem_append.mp hmem with hold | hnew
        · exact h.failed hrunning outcome hold
        · exact absurd hnew (hreturned outcome)
      closed := by simp [WriterPoint.closedLanes]
      scan := by simp
      lawful := h.lawful.snoc hlaw }
  rw [← List.singleton_append, ← List.append_assoc]
  apply htook.sends
  refine sends_channel lane ((mux.lanes lane).suspended.take 1)
    (Function.update_idem ..).symm ?_ ?_ rfl rfl rfl
  · simp [OutboundMux.setLane]
  · simp [WriterPoint.closedLanes]

theorem Ordered.receiveAvailable (h : Ordered framed ⟨mux, log⟩) {lane : OutboundLane}
    {closedLanes : Finset OutboundLane} (hpoint : mux.point = .scan lane closedLanes) :
    Ordered framed ⟨(mux.receiveAvailable lane closedLanes).1,
      log ++ (mux.receiveAvailable lane closedLanes).2⟩ := by
  have hrunning : mux.point.Running := by simp [WriterPoint.Running, hpoint]
  have hheld : ∀ other, mux.point.held other = [] := by simp [WriterPoint.held, hpoint]
  have hscanned := h.scan lane closedLanes hpoint
  have hclosed := h.closed
  simp only [hpoint, WriterPoint.closedLanes] at hclosed
  have hpass : ∀ closedLanes' : Finset OutboundLane, (mux.lanes lane).buffer = [] →
      (∀ other ∈ closedLanes', (mux.lanes other).closed = true ∧ (mux.lanes other).buffer = []) →
      Ordered framed ⟨{ mux with point := OutboundMux.afterScan closedLanes' lane },
        log ++ [.passedOver lane]⟩ := by
    intro closedLanes' hbuffer hclosed'
    have hqueued : takenOn lane log ++ (mux.lanes lane).buffer = acceptedOn lane log := h.queued lane
    rw [hbuffer, List.append_nil] at hqueued
    have hover := hscanned.passedOver hqueued
    apply h.goto hrunning hheld _ (.inr ⟨lane, rfl⟩)
    · intro other
      cases lane <;> simp only [OutboundMux.afterScan] <;> first | rfl | (split <;> rfl)
    · intro other hother
      apply hclosed' other
      cases lane with
      | control => exact hother
      | criticalInput => exact hother
      | coalescibleInput =>
        simp only [OutboundMux.afterScan] at hother
        split at hother
        · simp [WriterPoint.closedLanes] at hother
        · exact hother
    · intro next closedLanes'' hnext
      cases lane with
      | control =>
        cases hnext
        exact hover
      | criticalInput =>
        cases hnext
        exact hover
      | coalescibleInput =>
        simp only [OutboundMux.afterScan] at hnext
        split at hnext <;> cases hnext
  rw [OutboundMux.receiveAvailable]
  by_cases hlane : lane ∈ closedLanes
  · rw [if_pos hlane]
    exact hpass closedLanes (hclosed lane hlane).2 hclosed
  · rw [if_neg hlane]
    rcases (mux.lanes lane).tryReceive_cases with ⟨hbuffer, hreceive⟩ |
      ⟨payload, buffer, hbuffer, hreceive⟩
    · rw [hreceive]
      cases hopen : (mux.lanes lane).closed with
      | false => exact hpass closedLanes hbuffer hclosed
      | true =>
        apply hpass _ hbuffer
        intro other hother
        rcases Finset.mem_insert.mp hother with hsame | hmem
        · rw [hsame]
          exact ⟨hopen, hbuffer⟩
        · exact hclosed other hmem
    · rw [hreceive]
      apply h.take hrunning hheld hbuffer (.inl rfl)
      cases lane with
      | coalescibleInput => exact hscanned
      | _ => trivial

theorem Ordered.select (h : Ordered framed ⟨mux, log⟩) {lane : OutboundLane}
    {closedLanes : Finset OutboundLane} (hpoint : mux.point = .select closedLanes)
    {after : OutboundMux α} (hselect : mux.select lane closedLanes = some (after, events)) :
    Ordered framed ⟨after, log ++ events⟩ := by
  have hrunning : mux.point.Running := by simp [WriterPoint.Running, hpoint]
  have hheld : ∀ other, mux.point.held other = [] := by simp [WriterPoint.held, hpoint]
  have hclosed := h.closed
  simp only [hpoint, WriterPoint.closedLanes] at hclosed
  obtain ⟨-, hselect⟩ := Option.ite_none_left_eq_some.mp hselect
  rcases (mux.lanes lane).tryReceive_cases with ⟨hbuffer, hreceive⟩ |
    ⟨payload, buffer, hbuffer, hreceive⟩
  · rw [hreceive] at hselect
    cases hopen : (mux.lanes lane).closed with
    | false =>
      rw [hopen] at hselect
      cases hselect
    | true =>
      rw [hopen] at hselect
      cases hselect
      apply h.goto hrunning hheld _ (.inl rfl) (fun _ => rfl)
      · intro other hother
        rcases Finset.mem_insert.mp hother with hsame | hmem
        · rw [hsame]
          exact ⟨hopen, hbuffer⟩
        · exact hclosed other hmem
      · intro next closedLanes' hnext
        cases hnext
        exact .start _
  · rw [hreceive] at hselect
    cases hselect
    exact h.take hrunning hheld hbuffer (.inr rfl) trivial

theorem advanceSequence_counts (hopen : mux.sequenceExhausted = false) :
    mux.advanceSequence.lanes = mux.lanes ∧ mux.nextSequence.toNat + 1 =
      if mux.advanceSequence.sequenceExhausted then 2 ^ 64
      else mux.advanceSequence.nextSequence.toNat := by
  rw [OutboundMux.advanceSequence]
  by_cases hmax : mux.nextSequence = 0xFFFFFFFFFFFFFFFF
  · simp [hmax]
  · have hlast : mux.nextSequence.toNat ≠ 2 ^ 64 - 1 :=
      fun hsame => hmax (UInt64.toNat_inj.mp hsame)
    have hlt := mux.nextSequence.toNat_lt
    have hone : (1 : UInt64).toNat = 1 := rfl
    refine ⟨by rw [if_neg hmax], ?_⟩
    rw [if_neg hmax]
    simp only [hopen, Bool.false_eq_true, if_false, UInt64.toNat_add, hone]
    omega

/-- The frame that is passed carries the number of the frames before it. -/
theorem Ordered.frame (h : Ordered framed ⟨mux, log⟩) {lane : OutboundLane} {payload : α}
    (hpoint : mux.point = .received lane payload) :
    Ordered framed ⟨(mux.frame framed lane payload).1, log ++ (mux.frame framed lane payload).2⟩ := by
  have hrunning : mux.point.Running := by simp [WriterPoint.Running, hpoint]
  have hcounted := h.counted hrunning
  have hheld := h.held hrunning
  simp only [hpoint, WriterPoint.held] at hcounted hheld
  rw [OutboundMux.frame]
  by_cases hexhausted : mux.sequenceExhausted = true
  · rw [if_pos hexhausted]
    exact h.stop rfl rfl (.inl rfl)
  · rw [if_neg hexhausted]
    rw [if_neg hexhausted] at hcounted
    have hopen : mux.sequenceExhausted = false := Bool.eq_false_iff.mpr hexhausted
    obtain ⟨hsame, hnext⟩ := advanceSequence_counts hopen
    simp only
    cases hframe : LdflFrame.fromPayload (framed payload).flags mux.nextSequence
        (framed payload).payload with
    | error exception => exact h.stop hsame rfl (.inl rfl)
    | ok frame =>
      have hsequence := sequence_of_fromPayload hframe
      have hpassed : ∀ other, passedOn other [.passed lane payload frame] =
          if lane = other then [payload] else [] := by
        intro other
        by_cases hlane : lane = other <;> simp [passedOn, OutboundEvent.passedFrom, hlane]
      have htaken : ∀ other, takenOn other [(.passed lane payload frame : OutboundEvent α)] = [] :=
        fun _ => rfl
      have haccepted : ∀ other,
          acceptedOn other [(.passed lane payload frame : OutboundEvent α)] = [] := fun _ => rfl
      exact
        { queued := by
            intro other
            simp only [takenOn_append, acceptedOn_append, htaken, haccepted, List.append_nil, hsame]
            exact h.queued other
          passed := by
            intro other
            simp only [takenOn_append, passedOn_append, htaken, hpassed, List.append_nil]
            rw [hheld other]
          held := by
            intro _ other
            simp only [takenOn_append, passedOn_append, htaken, hpassed, List.append_nil,
              WriterPoint.held]
            exact hheld other
          counted := by
            intro _
            simp only [passedFrames_append, List.length_append, hcounted]
            exact hnext
          failed := by
            intro _ outcome hmem
            rcases List.mem_append.mp hmem with hold | hnew
            · exact h.failed hrunning outcome hold
            · simp at hnew
          closed := by simp [WriterPoint.closedLanes]
          scan := by simp
          lawful := by
            apply h.lawful.snoc
            refine ⟨?_, ?_, h.failed hrunning⟩
            · rw [hsequence]
              exact hcounted.symm
            · rw [hsequence]
              exact hframe }

theorem Ordered.sendFrame (h : Ordered framed ⟨mux, log⟩) (hpoint : mux.point = .sending)
    (outcome : SendOutcome) :
    Ordered framed ⟨{ mux with point := OutboundMux.sent outcome }, log ++ [.returned outcome]⟩ := by
  have hrunning : mux.point.Running := by simp [WriterPoint.Running, hpoint]
  have hheld := h.held hrunning
  simp only [hpoint, WriterPoint.held] at hheld
  cases outcome with
  | refused => exact h.stop rfl rfl (.inr ⟨_, rfl⟩)
  | threw => exact h.stop rfl rfl (.inr ⟨_, rfl⟩)
  | cancelled => exact h.stop rfl rfl (.inr ⟨_, rfl⟩)
  | written =>
    have htaken : ∀ other, takenOn other [(.returned .written : OutboundEvent α)] = [] :=
      fun _ => rfl
    have hpassed : ∀ other, passedOn other [(.returned .written : OutboundEvent α)] = [] :=
      fun _ => rfl
    have haccepted : ∀ other, acceptedOn other [(.returned .written : OutboundEvent α)] = [] :=
      fun _ => rfl
    have hframes : passedFrames [(.returned .written : OutboundEvent α)] = [] := rfl
    exact
      { queued := by
          intro other
          simp only [takenOn_append, acceptedOn_append, htaken, haccepted, List.append_nil]
          exact h.queued other
        passed := by
          intro other
          simp only [takenOn_append, passedOn_append, htaken, hpassed, List.append_nil]
          exact h.passed other
        held := by
          intro _ other
          simp only [takenOn_append, passedOn_append, htaken, hpassed, List.append_nil]
          exact hheld other
        counted := by
          intro _
          simp only [passedFrames_append, hframes, List.append_nil]
          exact h.counted hrunning
        failed := by
          intro _ outcome hmem
          rcases List.mem_append.mp hmem with hold | hnew
          · exact h.failed hrunning outcome hold
          · simpa using hnew
        closed := by simp [OutboundMux.sent, WriterPoint.closedLanes]
        scan := by
          intro lane closedLanes hscan
          cases hscan
          exact .start _
        lawful := h.lawful.snoc trivial }

theorem Ordered.preserved {s t : OutboundHistory α} {turn : OutboundTurn α} (h : s.Ordered framed)
    (hstep : (machine framed).step s turn = some t) : t.Ordered framed := by
  obtain ⟨mux, log⟩ := s
  change step framed ⟨mux, log⟩ turn = some t at hstep
  rw [step] at hstep
  cases hturn : mux.step framed turn with
  | none =>
    simp only [hturn] at hstep
    cases hstep
  | some result =>
    obtain ⟨after, events⟩ := result
    simp only [hturn] at hstep
    cases hstep
    cases turn with
    | sendControl payload =>
      cases hturn
      exact h.sends (sends_send .control payload)
    | sendCriticalInput payload =>
      cases hturn
      exact h.sends (sends_send .criticalInput payload)
    | trySendCoalescibleInput payload =>
      simp only [OutboundMux.step, Option.some.injEq] at hturn
      have hsends := sends_trySend mux payload
      rw [hturn] at hsends
      exact h.sends hsends
    | cancelSend lane index =>
      cases hturn
      exact h.sends (sends_channel lane [] rfl (by simp [OutboundChannel.cancelSend])
        (by simp [OutboundChannel.cancelSend]) rfl rfl rfl)
    | close lane =>
      cases hturn
      exact h.sends (sends_channel lane [] rfl (by simp [OutboundChannel.close])
        (by simp [OutboundChannel.close]) rfl rfl rfl)
    | receiveAvailable =>
      simp only [OutboundMux.step] at hturn
      split at hturn
      · rename_i lane closedLanes hpoint
        have hreceive := h.receiveAvailable hpoint
        rw [Option.some.inj hturn] at hreceive
        exact hreceive
      · cases hturn
    | select lane =>
      simp only [OutboundMux.step] at hturn
      split at hturn
      · rename_i closedLanes hpoint
        exact h.select hpoint hturn
      · cases hturn
    | frame =>
      simp only [OutboundMux.step] at hturn
      split at hturn
      · rename_i lane payload hpoint
        have hframe := h.frame hpoint
        rw [Option.some.inj hturn] at hframe
        exact hframe
      · cases hturn
    | sendFrame outcome =>
      simp only [OutboundMux.step] at hturn
      split at hturn
      · rename_i hpoint
        cases hturn
        exact h.sendFrame hpoint outcome
      · cases hturn
    | cancelled =>
      simp only [OutboundMux.step] at hturn
      split at hturn
      · cases hturn
        exact h.stop rfl rfl (.inl rfl)
      · cases hturn

theorem frame_eq_some {event : OutboundEvent α} {frame : LdflFrame} :
    event.frame = some frame ↔ ∃ lane payload, event = .passed lane payload frame := by
  cases event <;> simp [OutboundEvent.frame]

/-- In every interleaving of the senders, the closing and the writer: the frames are numbered from
zero in the order in which they are passed, up to the last sequence; the payloads passed from a lane
are the first that the lane accepted, in their order; and every event meets the law of the wire. -/
theorem wire_order (framed : α → OutboundPayload) (capacity : OutboundLane → Nat)
    {turns : List (OutboundTurn α)} {s : OutboundHistory α}
    (hrun : (machine framed).run (start capacity) turns = some s) :
    (∀ k (frame : LdflFrame), (passedFrames s.log)[k]? = some frame → frame.sequence.toNat = k) ∧
    (passedFrames s.log).length ≤ 2 ^ 64 ∧
    (∀ lane, passedOn lane s.log <+: acceptedOn lane s.log) ∧
    Lawful (WireLaw framed) s.log := by
  have h : s.Ordered framed := (machine framed).run_invariant (Ordered framed)
    (fun _ _ _ h hstep => h.preserved hstep) (ordered_start capacity) hrun
  have hnumbered : ∀ k (frame : LdflFrame), (passedFrames s.log)[k]? = some frame →
      frame.sequence.toNat = k := by
    intro k frame hframe
    obtain ⟨earlier, event, later, hsplit, hevent, hlength⟩ :=
      exists_split_of_filterMap OutboundEvent.frame hframe
    obtain ⟨lane, payload, hpassed⟩ := frame_eq_some.mp hevent
    have hlaw := h.lawful earlier event later hsplit
    rw [hpassed] at hlaw
    rw [hlaw.1]
    exact hlength
  refine ⟨hnumbered, ?_, ?_, h.lawful⟩
  · by_contra hmany
    have hindex : 2 ^ 64 < (passedFrames s.log).length := by omega
    have hlast := hnumbered _ _ (List.getElem?_eq_getElem hindex)
    have hlt := ((passedFrames s.log)[2 ^ 64]).sequence.toNat_lt
    omega
  · intro lane
    have hqueued := h.queued lane
    apply (h.passed lane).trans
    rw [← hqueued]
    exact List.prefix_append _ _

section Runs

private def queuedInput (timestampMicros : UInt64) (event : InputEventBody)
    (h : event.init = .ok ()) : OutboundPayload :=
  ⟨⟨.input, ⟨timestampMicros, event, h⟩⟩, .none⟩

private theorem motion_valid : (InputEventBody.pointerMoveInput 10 20).init = .ok () := by decide

private theorem key_valid :
    (InputEventBody.keyInput 4 .pressed (.of 0 (.refl true))).init = .ok () := by decide

private def firstMotion : OutboundPayload := queuedInput 1 (.pointerMoveInput 10 20) motion_valid

private def secondMotion : OutboundPayload := queuedInput 2 (.pointerMoveInput 10 20) motion_valid

private def criticalKey : OutboundPayload := queuedInput 3 (.keyInput 4 .pressed (.of 0 (.refl true))) key_valid

private def queuedPing : OutboundPayload := ⟨⟨.ping, (⟨4, 5⟩ : PingPayload)⟩, .none⟩

/-- A key and a ping arrive while the first motion is written, after another motion. -/
private def priorityTurns : List (OutboundTurn OutboundPayload) :=
  [.trySendCoalescibleInput firstMotion, .receiveAvailable, .receiveAvailable, .receiveAvailable,
    .frame, .trySendCoalescibleInput secondMotion, .sendCriticalInput criticalKey,
    .sendControl queuedPing, .sendFrame .written, .receiveAvailable, .frame, .sendFrame .written,
    .receiveAvailable, .receiveAvailable, .frame, .sendFrame .written, .receiveAvailable,
    .receiveAvailable, .receiveAvailable, .frame, .sendFrame .written]

theorem wire_order_priority :
    ∃ s, (machine id).run (start defaultCapacity) priorityTurns = some s ∧
      (passedFrames s.log).map (fun frame => (frame.messageType, frame.sequence)) =
        [(.input, 0), (.ping, 1), (.input, 2), (.input, 3)] ∧
      Lawful (WireLaw id) s.log := by
  have hreached : ((machine id).run (start defaultCapacity) priorityTurns).any (fun s =>
      (passedFrames s.log).map (fun frame => (frame.messageType, frame.sequence)) =
        [(.input, 0), (.ping, 1), (.input, 2), (.input, 3)]) = true := by
    decide +kernel
  obtain ⟨s, hrun, hframes⟩ := (Option.any_eq_true _ _).mp hreached
  exact ⟨s, hrun, of_decide_eq_true hframes, (wire_order id defaultCapacity hrun).2.2.2⟩

end Runs

end OutboundHistory

end LadoFlow.Android
