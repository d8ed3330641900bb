import LadoFlow.Android.OutboundOrder

/-!
# What waits in the outbound lanes

A lane and the senders that wait for it form one queue. A turn of the mux adds to one queue, takes
the first payload of one queue, lets the writer move on, or passes the payload in its hand.
-/

namespace LadoFlow.Android

open Framework

namespace OutboundChannel

variable {α : Type} {channel : OutboundChannel α}

/-- The queue of the lane, its waiting senders last. -/
def waiting (channel : OutboundChannel α) : List α := channel.buffer ++ channel.suspended

/-- Senders wait only for a full lane. -/
structure Sound (channel : OutboundChannel α) : Prop where
  capacity : 0 < channel.capacity
  full : channel.suspended ≠ [] → channel.capacity ≤ channel.buffer.length

theorem sound_new {capacity : Nat} (h : 0 < capacity) : (new capacity : OutboundChannel α).Sound :=
  ⟨h, by simp [new]⟩

theorem Sound.suspended_nil (h : channel.Sound) (hroom : channel.buffer.length < channel.capacity) :
    channel.suspended = [] := by
  by_contra hsuspended
  have hfull := h.full hsuspended
  omega

theorem Sound.waiting_nil (h : channel.Sound) (hbuffer : channel.buffer = []) :
    channel.waiting = [] := by
  have hsuspended : channel.suspended = [] := by
    apply h.suspended_nil
    rw [hbuffer]
    exact h.capacity
  rw [waiting, hbuffer, hsuspended, List.append_nil]

theorem Sound.send (h : channel.Sound) (payload : α) : (channel.send payload).Sound ∧
    ((channel.send payload).waiting = channel.waiting ++ [payload] ∨
      channel.send payload = channel) := by
  rw [OutboundChannel.send]
  split
  · exact ⟨h, .inr rfl⟩
  split
  case isTrue hroom =>
    have hsuspended := h.suspended_nil hroom
    refine ⟨⟨h.capacity, by simp [hsuspended]⟩, .inl ?_⟩
    simp [waiting, hsuspended]
  case isFalse hfull =>
    refine ⟨⟨h.capacity, fun _ => Nat.not_lt.mp hfull⟩, .inl ?_⟩
    simp [waiting]

theorem Sound.trySend (h : channel.Sound) (payload : α) : (channel.trySend payload).2.Sound ∧
    ((channel.trySend payload).2.waiting = channel.waiting ++ [payload] ∨
      (channel.trySend payload).2 = channel) := by
  rw [OutboundChannel.trySend]
  split
  case isTrue hroom =>
    simp only [hasRoom, Bool.and_eq_true, decide_eq_true_eq] at hroom
    have hsuspended := h.suspended_nil hroom.2
    refine ⟨⟨h.capacity, by simp [hsuspended]⟩, .inl ?_⟩
    simp [waiting, hsuspended]
  case isFalse => exact ⟨h, .inr rfl⟩

theorem Sound.cancelSend (h : channel.Sound) (index : Nat) : (channel.cancelSend index).Sound ∧
    (channel.cancelSend index).waiting.Sublist channel.waiting := by
  refine ⟨⟨h.capacity, ?_⟩, ?_⟩
  · intro hsuspended
    apply h.full
    intro hnil
    simp [OutboundChannel.cancelSend, hnil] at hsuspended
  · exact (List.eraseIdx_sublist _ _).append_left _

theorem Sound.close (h : channel.Sound) : channel.close.Sound := ⟨h.capacity, h.full⟩

/-- A receive takes the first of the queue. -/
theorem Sound.received (h : channel.Sound) {payload : α} {buffer : List α}
    (hbuffer : channel.buffer = payload :: buffer) :
    Sound { channel with
      buffer := buffer ++ channel.suspended.take 1
      suspended := channel.suspended.drop 1 } ∧
    channel.waiting = payload :: ((buffer ++ channel.suspended.take 1) ++ channel.suspended.drop 1) := by
  have hsplit : channel.suspended.take 1 ++ channel.suspended.drop 1 = channel.suspended :=
    List.take_append_drop 1 _
  constructor
  · refine ⟨h.capacity, ?_⟩
    intro hrest
    cases hsuspended : channel.suspended with
    | nil => simp [hsuspended] at hrest
    | cons first rest =>
      have hfull := h.full (by simp [hsuspended])
      rw [hbuffer, List.length_cons] at hfull
      simpa using hfull
  · rw [waiting, hbuffer, List.append_assoc, hsplit, List.cons_append]

end OutboundChannel

namespace OutboundEvent

variable {α : Type}

def passedPayload : OutboundEvent α → Option α
  | .passed _ payload _ => some payload
  | _ => none

end OutboundEvent

/-- The payloads that were passed to `sendFrame`, of every lane. -/
def passedPayloads {α : Type} (log : List (OutboundEvent α)) : List α :=
  log.filterMap (·.passedPayload)

@[simp] theorem passedPayloads_append {α : Type} (log events : List (OutboundEvent α)) :
    passedPayloads (log ++ events) = passedPayloads log ++ passedPayloads events :=
  List.filterMap_append ..

theorem Accepts.payloads {α : Type} {events : List (OutboundEvent α)} (h : Accepts events) :
    passedPayloads events = [] := by
  apply List.filterMap_eq_nil_iff.mpr
  intro event hevent
  obtain ⟨lane, payload, haccepted⟩ := h event hevent
  rw [haccepted]
  rfl

namespace WriterPoint

variable {α : Type}

/-- The payload that the writer has taken and not yet passed. -/
def inHand : WriterPoint α → List α
  | .received _ payload => [payload]
  | _ => []

/-- The writer has looked at the critical lane and may take motion next. -/
def pastCritical : WriterPoint α → Bool
  | .scan .coalescibleInput _ | .select _ => true
  | _ => false

end WriterPoint

/-- What a sender's turn hands to which lane. -/
def OutboundTurn.sends {α : Type} : OutboundTurn α → Option (OutboundLane × α)
  | .sendControl payload => some (.control, payload)
  | .sendCriticalInput payload => some (.criticalInput, payload)
  | .trySendCoalescibleInput payload => some (.coalescibleInput, payload)
  | _ => none

namespace OutboundMux

variable {α : Type}

def waiting (mux : OutboundMux α) (lane : OutboundLane) : List α := (mux.lanes lane).waiting

def Sound (mux : OutboundMux α) : Prop := ∀ lane, (mux.lanes lane).Sound

/-- What a turn does to the queues, to the writer and to the wire. -/
inductive Effect (mux : OutboundMux α) (turn : OutboundTurn α) (after : OutboundMux α)
    (events : List (OutboundEvent α)) : Prop
  | queued (lane : OutboundLane) (payload : α) (hturn : turn.sends = some (lane, payload))
    (hwaiting : after.waiting = Function.update mux.waiting lane (mux.waiting lane ++ [payload]))
    (hpoint : after.point = mux.point) (hpassed : passedPayloads events = [])
  | shrank (hwaiting : ∀ lane, (after.waiting lane).Sublist (mux.waiting lane))
    (hpoint : after.point = mux.point) (hpassed : passedPayloads events = [])
  | took (lane : OutboundLane) (payload : α) (hidle : mux.point.inHand = [])
    (hpast : lane = .coalescibleInput → mux.point.pastCritical = true)
    (hwaiting : mux.waiting lane = payload :: after.waiting lane)
    (hothers : ∀ other, other ≠ lane → after.waiting other = mux.waiting other)
    (hpoint : after.point = .received lane payload) (hpassed : passedPayloads events = [])
  | advanced (hwaiting : after.waiting = mux.waiting)
    (hpast : after.point.pastCritical = true →
      mux.point.pastCritical = true ∨ mux.waiting .criticalInput = [])
    (hhand : after.point.inHand = []) (hpassed : passedPayloads events = [])
  | passed (payload : α) (hhand : mux.point.inHand = [payload])
    (hwaiting : after.waiting = mux.waiting) (hpast : after.point.pastCritical = false)
    (hempty : after.point.inHand = []) (hpassed : passedPayloads events = [payload])

variable {framed : α → OutboundPayload} {mux after : OutboundMux α} {turn : OutboundTurn α}
  {events : List (OutboundEvent α)}

theorem waiting_setLane (lane : OutboundLane) (channel : OutboundChannel α) :
    (mux.setLane lane channel).waiting = Function.update mux.waiting lane channel.waiting := by
  funext other
  by_cases hother : other = lane
  · subst hother
    simp [waiting, setLane]
  · simp [waiting, setLane, Function.update_of_ne hother]

theorem sound_new {capacity : OutboundLane → Nat} (h : ∀ lane, 0 < capacity lane) :
    (new capacity : OutboundMux α).Sound := fun lane => OutboundChannel.sound_new (h lane)

theorem Sound.setLane (h : mux.Sound) {lane : OutboundLane} {channel : OutboundChannel α}
    (hchannel : channel.Sound) : (mux.setLane lane channel).Sound := by
  intro other
  by_cases hother : other = lane
  · subst hother
    simpa [OutboundMux.setLane] using hchannel
  · simpa [OutboundMux.setLane, Function.update_of_ne hother] using h other

theorem setLane_self (lane : OutboundLane) : mux.setLane lane (mux.lanes lane) = mux := by
  rw [setLane, Function.update_eq_self]

/-- A sender's turn adds its payload to the queue or leaves the queue alone. -/
theorem effect_send {lane : OutboundLane} {payload : α} {channel : OutboundChannel α}
    (hturn : turn.sends = some (lane, payload))
    (hchannel : channel.waiting = (mux.lanes lane).waiting ++ [payload] ∨ channel = mux.lanes lane)
    (hpassed : passedPayloads events = []) : Effect mux turn (mux.setLane lane channel) events := by
  cases hchannel with
  | inl hqueued =>
    have hwaiting : (mux.setLane lane channel).waiting =
        Function.update mux.waiting lane (mux.waiting lane ++ [payload]) := by
      rw [waiting_setLane, hqueued]
      rfl
    exact .queued lane payload hturn hwaiting rfl hpassed
  | inr hsame =>
    rw [hsame, setLane_self]
    exact .shrank (fun _ => List.Sublist.refl _) rfl hpassed

theorem send_passes (lane : OutboundLane) (payload : α) :
    passedPayloads (mux.send lane payload).2 = [] :=
  (OutboundHistory.sends_send lane payload).accepts.payloads

/-- The writer takes the first payload of a queue. -/
theorem effect_take (hsound : mux.Sound) {lane : OutboundLane} {payload : α} {buffer : List α}
    (hbuffer : (mux.lanes lane).buffer = payload :: buffer) (hidle : mux.point.inHand = [])
    (hpast : lane = .coalescibleInput → mux.point.pastCritical = true)
    (hpassed : passedPayloads events = []) :
    Effect mux turn { mux.setLane lane { mux.lanes lane with
        buffer := buffer ++ (mux.lanes lane).suspended.take 1
        suspended := (mux.lanes lane).suspended.drop 1 } with point := .received lane payload } events ∧
      OutboundMux.Sound { mux.setLane lane { mux.lanes lane with
        buffer := buffer ++ (mux.lanes lane).suspended.take 1
        suspended := (mux.lanes lane).suspended.drop 1 } with point := .received lane payload } := by
  obtain ⟨hreceived, hwaiting⟩ := (hsound lane).received hbuffer
  have hset := @waiting_setLane α mux lane { mux.lanes lane with
    buffer := buffer ++ (mux.lanes lane).suspended.take 1
    suspended := (mux.lanes lane).suspended.drop 1 }
  refine ⟨.took lane payload hidle hpast ?_ ?_ rfl hpassed, hsound.setLane hreceived⟩
  · have hlane := congrFun hset lane
    rw [Function.update_self] at hlane
    change mux.waiting lane = payload :: (mux.setLane lane _).waiting lane
    rw [hlane]
    exact hwaiting
  · intro other hother
    have hlane := congrFun hset other
    rw [Function.update_of_ne hother] at hlane
    exact hlane

theorem resumed_passes (lane : OutboundLane) : passedPayloads (mux.resumed lane) = [] :=
  (OutboundHistory.accepts_map lane _).payloads

theorem effect_receiveAvailable (hsound : mux.Sound) {lane : OutboundLane}
    {closedLanes : Finset OutboundLane} (hpoint : mux.point = .scan lane closedLanes)
    (hclosed : ∀ lane ∈ closedLanes, (mux.lanes lane).buffer = []) :
    Effect mux turn (mux.receiveAvailable lane closedLanes).1
        (mux.receiveAvailable lane closedLanes).2 ∧
      (mux.receiveAvailable lane closedLanes).1.Sound := by
  have hidle : mux.point.inHand = [] := by simp [hpoint, WriterPoint.inHand]
  have hover : ∀ closedLanes' : Finset OutboundLane, (mux.lanes lane).buffer = [] →
      Effect mux turn { mux with point := afterScan closedLanes' lane } [.passedOver lane] := by
    intro closedLanes' hbuffer
    have hempty : mux.waiting lane = [] := (hsound lane).waiting_nil hbuffer
    have hpassed : passedPayloads [(.passedOver lane : OutboundEvent α)] = [] := rfl
    cases lane with
    | control => exact .advanced rfl (by simp [afterScan, WriterPoint.pastCritical]) rfl hpassed
    | criticalInput => exact .advanced rfl (fun _ => .inr hempty) rfl hpassed
    | coalescibleInput =>
      have hhand : (afterScan closedLanes' .coalescibleInput : WriterPoint α).inHand = [] := by
        simp only [afterScan]
        split <;> rfl
      exact .advanced rfl (fun _ => .inl (by simp [hpoint, WriterPoint.pastCritical])) hhand hpassed
  rw [OutboundMux.receiveAvailable]
  by_cases hlane : lane ∈ closedLanes
  · rw [if_pos hlane]
    exact ⟨hover closedLanes (hclosed lane hlane), hsound⟩
  · rw [if_neg hlane]
    rcases (mux.lanes lane).tryReceive_cases with ⟨hbuffer, hreceive⟩ |
      ⟨payload, buffer, hbuffer, hreceive⟩
    · rw [hreceive]
      cases (mux.lanes lane).closed <;> exact ⟨hover _ hbuffer, hsound⟩
    · rw [hreceive]
      apply effect_take hsound hbuffer hidle
      · intro hcoalescible
        simp [hpoint, hcoalescible, WriterPoint.pastCritical]
      · exact resumed_passes lane

theorem effect_select (hsound : mux.Sound) {lane : OutboundLane}
    {closedLanes : Finset OutboundLane} (hpoint : mux.point = .select closedLanes)
    (hselect : mux.select lane closedLanes = some (after, events)) :
    Effect mux turn after events ∧ after.Sound := by
  have hidle : mux.point.inHand = [] := by simp [hpoint, WriterPoint.inHand]
  obtain ⟨-, hselect⟩ := Option.ite_none_left_eq_some.mp hselect
  rcases (mux.lanes lane).tryReceive_cases with ⟨hbuffer, hreceive⟩ |
    ⟨payload, buffer, hbuffer, hreceive⟩
  · rw [hreceive] at hselect
    cases hopen : (mux.lanes lane).closed with
    | false =>
      rw [hopen] at hselect
      cases hselect
    | true =>
      rw [hopen] at hselect
      cases hselect
      exact ⟨.advanced rfl (by simp [WriterPoint.pastCritical]) rfl rfl, hsound⟩
  · rw [hreceive] at hselect
    cases hselect
    apply effect_take hsound hbuffer hidle
    · intro _
      simp [hpoint, WriterPoint.pastCritical]
    · exact resumed_passes lane

theorem effect_frame (hsound : mux.Sound) {lane : OutboundLane} {payload : α}
    (hpoint : mux.point = .received lane payload) :
    Effect mux turn (mux.frame framed lane payload).1 (mux.frame framed lane payload).2 ∧
      (mux.frame framed lane payload).1.Sound := by
  have hlanes : mux.advanceSequence.lanes = mux.lanes := by
    rw [advanceSequence]
    split <;> rfl
  have hwaiting : mux.advanceSequence.waiting = mux.waiting := by
    funext other
    simp only [waiting, hlanes]
  have hnext : mux.advanceSequence.Sound := by
    intro other
    rw [hlanes]
    exact hsound other
  rw [OutboundMux.frame]
  split
  · exact ⟨.advanced rfl (by simp [WriterPoint.pastCritical]) rfl rfl, hsound⟩
  simp only
  split
  · refine ⟨.passed payload ?_ hwaiting rfl rfl rfl, hnext⟩
    rw [hpoint]
    rfl
  · exact ⟨.advanced hwaiting (by simp [WriterPoint.pastCritical]) rfl rfl, hnext⟩

/-- Every turn has one of the effects, and keeps the lanes sound. -/
theorem effect_of_step (hsound : mux.Sound)
    (hclosed : ∀ lane ∈ mux.point.closedLanes, (mux.lanes lane).buffer = [])
    (hstep : mux.step framed turn = some (after, events)) :
    Effect mux turn after events ∧ after.Sound := by
  cases turn with
  | sendControl payload =>
    cases hstep
    obtain ⟨hkeeps, hchannel⟩ := (hsound .control).send payload
    exact ⟨effect_send rfl hchannel (send_passes _ _), hsound.setLane hkeeps⟩
  | sendCriticalInput payload =>
    cases hstep
    obtain ⟨hkeeps, hchannel⟩ := (hsound .criticalInput).send payload
    exact ⟨effect_send rfl hchannel (send_passes _ _), hsound.setLane hkeeps⟩
  | trySendCoalescibleInput payload =>
    obtain ⟨hkeeps, hchannel⟩ := (hsound .coalescibleInput).trySend payload
    simp only [step, OutboundMux.trySendCoalescibleInput, Option.some.injEq] at hstep
    split at hstep
    case h_1 channel hsent =>
      rw [hsent] at hkeeps hchannel
      cases hstep
      exact ⟨effect_send rfl hchannel rfl, hsound.setLane hkeeps⟩
    case h_2 =>
      cases hstep
      exact ⟨.shrank (fun _ => List.Sublist.refl _) rfl rfl, hsound⟩
  | cancelSend lane index =>
    cases hstep
    obtain ⟨hkeeps, hsublist⟩ := (hsound lane).cancelSend index
    refine ⟨.shrank ?_ rfl rfl, hsound.setLane hkeeps⟩
    intro other
    rw [waiting_setLane]
    by_cases hother : other = lane
    · subst hother
      rw [Function.update_self]
      exact hsublist
    · rw [Function.update_of_ne hother]
  | close lane =>
    cases hstep
    refine ⟨.shrank ?_ rfl rfl, hsound.setLane (hsound lane).close⟩
    intro other
    rw [waiting_setLane]
    by_cases hother : other = lane
    · subst hother
      rw [Function.update_self]
      exact List.Sublist.refl _
    · rw [Function.update_of_ne hother]
  | receiveAvailable =>
    simp only [step] at hstep
    split at hstep
    case h_1 lane closedLanes hpoint =>
      rw [hpoint] at hclosed
      have heffect := @effect_receiveAvailable α mux .receiveAvailable hsound lane closedLanes hpoint
        hclosed
      rw [Option.some.inj hstep] at heffect
      exact heffect
    case h_2 => cases hstep
  | select lane =>
    simp only [step] at hstep
    split at hstep
    case h_1 closedLanes hpoint => exact effect_select hsound hpoint hstep
    case h_2 => cases hstep
  | frame =>
    simp only [step] at hstep
    split at hstep
    case h_1 lane payload hpoint =>
      have heffect := @effect_frame α framed mux .frame hsound lane payload hpoint
      rw [Option.some.inj hstep] at heffect
      exact heffect
    case h_2 => cases hstep
  | sendFrame outcome =>
    simp only [step] at hstep
    split at hstep
    case h_1 =>
      cases hstep
      refine ⟨.advanced rfl ?_ ?_ rfl, hsound⟩
      · cases outcome <;> simp [sent, WriterPoint.pastCritical]
      · cases outcome <;> rfl
    case h_2 => cases hstep
  | cancelled =>
    simp only [step] at hstep
    split at hstep
    case h_1 =>
      cases hstep
      exact ⟨.advanced rfl (by simp [WriterPoint.pastCritical]) rfl rfl, hsound⟩
    case h_2 => cases hstep

end OutboundMux

end LadoFlow.Android
