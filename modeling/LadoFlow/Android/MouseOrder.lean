import LadoFlow.Android.MouseKeyboard
import LadoFlow.Android.OutboundWaiting

/-!
# Mouse moves and buttons on the wire

A button is emitted after the move to its place, but the two go to different lanes. Every payload of
the mouse carries the number of its motion event, and the wire should show moves and buttons in the
order of these numbers.
-/

namespace LadoFlow.Android

open Framework

/-- A payload of the outbound lanes, with the number of the mouse event that emitted it. -/
structure Marked where
  outbound : OutboundPayload
  mark : Option Nat

namespace Marked

/-- The number of a mouse move. -/
def move (marked : Marked) : Option Nat :=
  match marked.outbound.payload with
  | ⟨.input, payload⟩ =>
    match payload.event with
    | .pointerMoveInput .. => marked.mark
    | _ => none
  | _ => none

/-- The number of a mouse button. -/
def button (marked : Marked) : Option Nat :=
  match marked.outbound.payload with
  | ⟨.input, payload⟩ =>
    match payload.event with
    | .pointerButtonInput .. => marked.mark
    | _ => none
  | _ => none

/-- A move after a button is of a later event, and a move before a button is not. -/
structure InOrder (first second : Marked) : Prop where
  afterButton : ∀ i ∈ first.button, ∀ j ∈ second.move, i < j
  beforeButton : ∀ i ∈ first.move, ∀ j ∈ second.button, i ≤ j

end Marked

/-- The mouse's part of a session: `pending` are the emissions of the current event that were not
submitted yet, and `count` is its number. -/
structure MouseOrder where
  session : AndroidDisplaySession
  input : AndroidInputController
  count : Nat
  pending : List AndroidInputEmission
  outbound : OutboundHistory Marked

/-- What other callbacks leave in the session and the controller is arbitrary. -/
inductive MouseTurn where
  | mouse (viewWidth viewHeight : Int32) (event : GenericMotionEvent)
  | submit
  | outbound (turn : OutboundTurn Marked)
  | display (session : AndroidDisplaySession) (input : AndroidInputController)

namespace MouseOrder

def start (session : AndroidDisplaySession) (input : AndroidInputController) : MouseOrder :=
  ⟨session, input, 0, [], .start defaultCapacity⟩

/-- The checks of `submitInput` before it chooses a lane. -/
def accepts (s : MouseOrder) (emission : AndroidInputEmission) : Bool :=
  AndroidDisplaySession.acceptsInput s.session.state &&
    s.session.negotiatedInput.any (emission.payload.event.isSupportedBy ·)

def marked (s : MouseOrder) (emission : AndroidInputEmission) : Marked :=
  ⟨⟨⟨.input, emission.payload⟩, .none⟩, some s.count⟩

def laneTurn (s : MouseOrder) (emission : AndroidInputEmission) : OutboundTurn Marked :=
  match emission.delivery with
  | .critical => .sendCriticalInput (s.marked emission)
  | .coalescible => .trySendCoalescibleInput (s.marked emission)

def runOutbound (s : MouseOrder) (turn : OutboundTurn Marked) : Option MouseOrder :=
  match s.outbound.step Marked.outbound turn with
  | some outbound => some { s with outbound }
  | none => none

/-- Payloads that the mouse did not emit carry no number. -/
def fromElsewhere (turn : OutboundTurn Marked) : Bool :=
  turn.sends.all fun (_, payload) => payload.mark.isNone

def step (s : MouseOrder) : MouseTurn → Option MouseOrder
  | .mouse viewWidth viewHeight event =>
    match s.pending with
    | [] => some { s with
        count := s.count + 1
        pending := (s.input.onGenericMotionEvent viewWidth viewHeight event).2 }
    | _ :: _ => none
  | .submit =>
    match s.pending with
    | [] => none
    | emission :: pending =>
      if s.accepts emission then { s with pending }.runOutbound (s.laneTurn emission)
      else some { s with pending }
  | .outbound turn => if fromElsewhere turn then s.runOutbound turn else none
  | .display session input => some { s with session, input }

def machine : Machine MouseOrder MouseTurn := ⟨step⟩

/-- The mouse payloads that wait in a lane. -/
def waiting (s : MouseOrder) (lane : OutboundLane) : List Marked := s.outbound.mux.waiting lane

/-- The condition on a step: a button finds no move in the lane for motion, and a move finds no button
that the writer's scan has missed. -/
def FindsLanesClear (s : MouseOrder) : MouseTurn → Prop
  | .submit => ∀ emission ∈ s.pending.head?, s.accepts emission = true →
    ((s.marked emission).button ≠ none → ∀ waiting ∈ s.waiting .coalescibleInput,
      waiting.move = none) ∧
    ((s.marked emission).move ≠ none → s.outbound.mux.point.pastCritical = true →
      ∀ waiting ∈ s.waiting .criticalInput, waiting.button = none)
  | _ => True

/-- The wire shows moves and buttons in the order of their events. -/
def WireInOrder (s : MouseOrder) : Prop :=
  (passedPayloads s.outbound.log).Pairwise Marked.InOrder

section Placed

variable {passed hand critical motion : List Marked} {pastCritical : Bool} {marked : Marked}

theorem move_of_unmarked (h : marked.mark = none) : marked.move = none := by
  rw [Marked.move]
  split
  · split
    · exact h
    · rfl
  · rfl

theorem button_of_unmarked (h : marked.mark = none) : marked.button = none := by
  rw [Marked.button]
  split
  · split
    · exact h
    · rfl
  · rfl

/-- Payloads with neither a move nor a button are in order with everything. -/
theorem inOrder_of_plain_left {first second : Marked} (hbutton : first.button = none)
    (hmove : first.move = none) : Marked.InOrder first second :=
  ⟨by simp [hbutton], by simp [hmove]⟩

theorem inOrder_of_plain_right {first second : Marked} (hbutton : second.button = none)
    (hmove : second.move = none) : Marked.InOrder first second :=
  ⟨by simp [hmove], by simp [hbutton]⟩

/-- The payloads are in order on the wire and will be: whatever the writer takes next may follow what
it has passed. -/
structure Placed (passed hand critical motion : List Marked) (pastCritical : Bool) : Prop where
  sent : passed.Pairwise Marked.InOrder
  held : ∀ second ∈ hand, ∀ first ∈ passed, Marked.InOrder first second
  queuedCritical : ∀ second ∈ critical, ∀ first, first ∈ passed ∨ first ∈ hand →
    Marked.InOrder first second
  queuedMotion : ∀ second ∈ motion, ∀ first, first ∈ passed ∨ first ∈ hand ∨ first ∈ critical →
    Marked.InOrder first second
  missed : pastCritical = true →
    (∀ waiting ∈ motion, waiting.move = none) ∨ ∀ waiting ∈ critical, waiting.button = none
  noMove : ∀ waiting ∈ critical, waiting.move = none
  noButton : ∀ waiting ∈ motion, waiting.button = none

theorem Placed.sublist (h : Placed passed hand critical motion pastCritical)
    {critical' motion' : List Marked} (hcritical : critical'.Sublist critical)
    (hmotion : motion'.Sublist motion) : Placed passed hand critical' motion' pastCritical where
  sent := h.sent
  held := h.held
  queuedCritical second hsecond := h.queuedCritical second (hcritical.subset hsecond)
  queuedMotion := by
    intro second hsecond first hfirst
    apply h.queuedMotion second (hmotion.subset hsecond)
    exact hfirst.imp_right (Or.imp_right (hcritical.subset ·))
  missed := by
    intro hpast
    cases h.missed hpast with
    | inl hmove => exact .inl fun waiting hwaiting => hmove waiting (hmotion.subset hwaiting)
    | inr hbutton => exact .inr fun waiting hwaiting => hbutton waiting (hcritical.subset hwaiting)
  noMove waiting hwaiting := h.noMove waiting (hcritical.subset hwaiting)
  noButton waiting hwaiting := h.noButton waiting (hmotion.subset hwaiting)

theorem Placed.push_critical (h : Placed passed hand critical motion pastCritical)
    (hafter : ∀ first, first ∈ passed ∨ first ∈ hand → Marked.InOrder first marked)
    (hmove : marked.move = none)
    (hclear : marked.button ≠ none → ∀ waiting ∈ motion, waiting.move = none) :
    Placed passed hand (critical ++ [marked]) motion pastCritical where
  sent := h.sent
  held := h.held
  queuedCritical := by
    intro second hsecond first hfirst
    cases List.mem_append.mp hsecond with
    | inl hold => exact h.queuedCritical second hold first hfirst
    | inr hnew => exact List.mem_singleton.mp hnew ▸ hafter first hfirst
  queuedMotion := by
    intro second hsecond first hfirst
    have hold : first ∈ passed ∨ first ∈ hand ∨ first ∈ critical → Marked.InOrder first second :=
      h.queuedMotion second hsecond first
    simp only [List.mem_append, List.mem_singleton] at hfirst
    rcases hfirst with hpassed | hhand | hcritical | hnew
    · exact hold (.inl hpassed)
    · exact hold (.inr (.inl hhand))
    · exact hold (.inr (.inr hcritical))
    · rw [hnew]
      by_cases hbutton : marked.button = none
      · exact inOrder_of_plain_left hbutton hmove
      · exact inOrder_of_plain_right (h.noButton second hsecond) (hclear hbutton second hsecond)
  missed := by
    intro hpast
    by_cases hbutton : marked.button = none
    · refine (h.missed hpast).imp_right ?_
      intro hold waiting hwaiting
      cases List.mem_append.mp hwaiting with
      | inl hmem => exact hold waiting hmem
      | inr hnew => exact List.mem_singleton.mp hnew ▸ hbutton
    · exact .inl (hclear hbutton)
  noMove := by
    intro waiting hwaiting
    cases List.mem_append.mp hwaiting with
    | inl hold => exact h.noMove waiting hold
    | inr hnew => exact List.mem_singleton.mp hnew ▸ hmove
  noButton := h.noButton

theorem Placed.push_motion (h : Placed passed hand critical motion pastCritical)
    (hafter : ∀ first, first ∈ passed ∨ first ∈ hand ∨ first ∈ critical →
      Marked.InOrder first marked)
    (hbutton : marked.button = none)
    (hclear : marked.move ≠ none → pastCritical = true →
      ∀ waiting ∈ critical, waiting.button = none) :
    Placed passed hand critical (motion ++ [marked]) pastCritical where
  sent := h.sent
  held := h.held
  queuedCritical := h.queuedCritical
  queuedMotion := by
    intro second hsecond first hfirst
    cases List.mem_append.mp hsecond with
    | inl hold => exact h.queuedMotion second hold first hfirst
    | inr hnew => exact List.mem_singleton.mp hnew ▸ hafter first hfirst
  missed := by
    intro hpast
    by_cases hmove : marked.move = none
    · refine (h.missed hpast).imp_left ?_
      intro hold waiting hwaiting
      cases List.mem_append.mp hwaiting with
      | inl hmem => exact hold waiting hmem
      | inr hnew => exact List.mem_singleton.mp hnew ▸ hmove
    · exact .inr (hclear hmove hpast)
  noMove := h.noMove
  noButton := by
    intro waiting hwaiting
    cases List.mem_append.mp hwaiting with
    | inl hold => exact h.noButton waiting hold
    | inr hnew => exact List.mem_singleton.mp hnew ▸ hbutton

/-- Nothing critical is a move, so what the writer takes there may precede what is left. -/
theorem Placed.take_critical (h : Placed passed [] (marked :: critical) motion pastCritical) :
    Placed passed [marked] critical motion false where
  sent := h.sent
  held := by
    intro second hsecond first hfirst
    rw [List.mem_singleton.mp hsecond]
    exact h.queuedCritical marked List.mem_cons_self first (.inl hfirst)
  queuedCritical := by
    intro second hsecond first hfirst
    cases hfirst with
    | inl hpassed =>
      exact h.queuedCritical second (List.mem_cons_of_mem _ hsecond) first (.inl hpassed)
    | inr hhand =>
      rw [List.mem_singleton.mp hhand]
      have hfirst := h.noMove marked List.mem_cons_self
      have hsecond := h.noMove second (List.mem_cons_of_mem _ hsecond)
      exact ⟨by simp [hsecond], by simp [hfirst]⟩
  queuedMotion := by
    intro second hsecond first hfirst
    apply h.queuedMotion second hsecond first
    rcases hfirst with hpassed | hhand | hcritical
    · exact .inl hpassed
    · exact .inr (.inr (List.mem_singleton.mp hhand ▸ List.mem_cons_self))
    · exact .inr (.inr (List.mem_cons_of_mem _ hcritical))
  missed := by simp
  noMove waiting hwaiting := h.noMove waiting (List.mem_cons_of_mem _ hwaiting)
  noButton := h.noButton

/-- No button was missed when the writer takes a move. -/
theorem Placed.take_motion (h : Placed passed [] critical (marked :: motion) true) :
    Placed passed [marked] critical motion false where
  sent := h.sent
  held := by
    intro second hsecond first hfirst
    rw [List.mem_singleton.mp hsecond]
    exact h.queuedMotion marked List.mem_cons_self first (.inl hfirst)
  queuedCritical := by
    intro second hsecond first hfirst
    cases hfirst with
    | inl hpassed => exact h.queuedCritical second hsecond first (.inl hpassed)
    | inr hhand =>
      rw [List.mem_singleton.mp hhand]
      have hbutton := h.noButton marked List.mem_cons_self
      cases h.missed rfl with
      | inl hmove => exact inOrder_of_plain_left hbutton (hmove marked List.mem_cons_self)
      | inr hclear => exact inOrder_of_plain_right (hclear second hsecond) (h.noMove second hsecond)
  queuedMotion := by
    intro second hsecond first hfirst
    rcases hfirst with hpassed | hhand | hcritical
    · exact h.queuedMotion second (List.mem_cons_of_mem _ hsecond) first (.inl hpassed)
    · rw [List.mem_singleton.mp hhand]
      have hfirst := h.noButton marked List.mem_cons_self
      have hsecond := h.noButton second (List.mem_cons_of_mem _ hsecond)
      exact ⟨by simp [hfirst], by simp [hsecond]⟩
    · exact h.queuedMotion second (List.mem_cons_of_mem _ hsecond) first (.inr (.inr hcritical))
  missed := by simp
  noMove := h.noMove
  noButton waiting hwaiting := h.noButton waiting (List.mem_cons_of_mem _ hwaiting)

theorem Placed.take_plain (h : Placed passed [] critical motion pastCritical)
    (hmark : marked.mark = none) : Placed passed [marked] critical motion false where
  sent := h.sent
  held := by
    intro second hsecond first _
    rw [List.mem_singleton.mp hsecond]
    exact inOrder_of_plain_right (button_of_unmarked hmark) (move_of_unmarked hmark)
  queuedCritical := by
    intro second hsecond first hfirst
    cases hfirst with
    | inl hpassed => exact h.queuedCritical second hsecond first (.inl hpassed)
    | inr hhand =>
      rw [List.mem_singleton.mp hhand]
      exact inOrder_of_plain_left (button_of_unmarked hmark) (move_of_unmarked hmark)
  queuedMotion := by
    intro second hsecond first hfirst
    rcases hfirst with hpassed | hhand | hcritical
    · exact h.queuedMotion second hsecond first (.inl hpassed)
    · rw [List.mem_singleton.mp hhand]
      exact inOrder_of_plain_left (button_of_unmarked hmark) (move_of_unmarked hmark)
    · exact h.queuedMotion second hsecond first (.inr (.inr hcritical))
  missed := by simp
  noMove := h.noMove
  noButton := h.noButton

theorem Placed.pass (h : Placed passed [marked] critical motion pastCritical) :
    Placed (passed ++ [marked]) [] critical motion false where
  sent := by
    apply List.pairwise_append.mpr
    refine ⟨h.sent, List.pairwise_singleton _ _, ?_⟩
    intro first hfirst second hsecond
    exact h.held second hsecond first hfirst
  held := by simp
  queuedCritical := by
    intro second hsecond first hfirst
    apply h.queuedCritical second hsecond
    simpa using hfirst
  queuedMotion := by
    intro second hsecond first hfirst
    apply h.queuedMotion second hsecond
    simpa [or_assoc] using hfirst
  missed := by simp
  noMove := h.noMove
  noButton := h.noButton

/-- The writer moves on with an empty hand. -/
theorem Placed.advance (h : Placed passed hand critical motion pastCritical) {next : Bool}
    (hnext : next = true → pastCritical = true ∨ critical = []) :
    Placed passed [] critical motion next where
  sent := h.sent
  held := by simp
  queuedCritical := by
    intro second hsecond first hfirst
    apply h.queuedCritical second hsecond
    simpa using hfirst.imp_right (fun hnil => absurd hnil (List.not_mem_nil))
  queuedMotion := by
    intro second hsecond first hfirst
    apply h.queuedMotion second hsecond
    rcases hfirst with hpassed | hhand | hcritical
    · exact .inl hpassed
    · cases hhand
    · exact .inr (.inr hcritical)
  missed := by
    intro hpast
    cases hnext hpast with
    | inl hold => exact h.missed hold
    | inr hempty => exact .inr (by simp [hempty])
  noMove := h.noMove
  noButton := h.noButton

end Placed

variable {s t : MouseOrder}

/-- A payload of the run: on the wire, in the writer's hand or in a lane. -/
def Emitted (s : MouseOrder) (marked : Marked) : Prop :=
  marked ∈ passedPayloads s.outbound.log ∨ marked ∈ s.outbound.mux.point.inHand ∨
    ∃ lane, marked ∈ s.waiting lane

/-- The payload is not newer than the current event, and what is pending may follow it. -/
structure Precedes (s : MouseOrder) (marked : Marked) : Prop where
  bounded : ∀ i ∈ marked.mark, i ≤ s.count
  pending : ∀ emission ∈ s.pending, Marked.InOrder marked (s.marked emission)

/-- Critical emissions of the mouse are not moves, the others are not buttons. -/
structure FitsLane (s : MouseOrder) (emission : AndroidInputEmission) : Prop where
  critical : emission.delivery = .critical → (s.marked emission).move = none
  coalescible : emission.delivery = .coalescible → (s.marked emission).button = none

structure Inv (s : MouseOrder) : Prop where
  ordered : s.outbound.Ordered Marked.outbound
  sound : s.outbound.mux.Sound
  placed : Placed (passedPayloads s.outbound.log) s.outbound.mux.point.inHand
    (s.waiting .criticalInput) (s.waiting .coalescibleInput) s.outbound.mux.point.pastCritical
  control : ∀ marked ∈ s.waiting .control, marked.mark = none
  precedes : ∀ marked, s.Emitted marked → s.Precedes marked
  pending : (s.pending.map s.marked).Pairwise Marked.InOrder
  fits : ∀ emission ∈ s.pending, s.FitsLane emission

theorem precedes_of_unmarked {marked : Marked} (h : marked.mark = none) : s.Precedes marked where
  bounded := by simp [h]
  pending _ _ := inOrder_of_plain_left (button_of_unmarked h) (move_of_unmarked h)

/-- What a sender may hand to a lane so that the wire stays in order. -/
inductive Fits (s : MouseOrder) (marked : Marked) : OutboundLane → Prop
  | control (h : marked.mark = none) : Fits s marked .control
  | critical (hmove : marked.move = none)
    (hclear : marked.button ≠ none → ∀ waiting ∈ s.waiting .coalescibleInput, waiting.move = none) :
    Fits s marked .criticalInput
  | motion (hbutton : marked.button = none)
    (hclear : marked.move ≠ none → s.outbound.mux.point.pastCritical = true →
      ∀ waiting ∈ s.waiting .criticalInput, waiting.button = none) : Fits s marked .coalescibleInput

theorem placed_queued (h : Inv s) {marked : Marked} {lane : OutboundLane} (hfits : s.Fits marked lane)
    (hafter : ∀ first, s.Emitted first → Marked.InOrder first marked)
    {waiting : OutboundLane → List Marked}
    (hwaiting : waiting = Function.update s.waiting lane (s.waiting lane ++ [marked])) :
    Placed (passedPayloads s.outbound.log) s.outbound.mux.point.inHand (waiting .criticalInput)
        (waiting .coalescibleInput) s.outbound.mux.point.pastCritical ∧
      ∀ marked ∈ waiting .control, marked.mark = none := by
  rw [hwaiting]
  cases hfits with
  | control hmark =>
    refine ⟨by simpa using h.placed, ?_⟩
    intro other hother
    simp only [Function.update_self, List.mem_append, List.mem_singleton] at hother
    cases hother with
    | inl hold => exact h.control other hold
    | inr hnew => exact hnew ▸ hmark
  | critical hmove hclear =>
    have hbefore : ∀ first, first ∈ passedPayloads s.outbound.log ∨
        first ∈ s.outbound.mux.point.inHand → Marked.InOrder first marked := by
      intro first hfirst
      exact hafter first (hfirst.imp_right .inl)
    exact ⟨by simpa using h.placed.push_critical hbefore hmove hclear, by simpa using h.control⟩
  | motion hbutton hclear =>
    have hbefore : ∀ first, first ∈ passedPayloads s.outbound.log ∨
        first ∈ s.outbound.mux.point.inHand ∨ first ∈ s.waiting .criticalInput →
          Marked.InOrder first marked := by
      intro first hfirst
      exact hafter first (hfirst.imp_right (Or.imp_right fun hmem => ⟨_, hmem⟩))
    exact ⟨by simpa using h.placed.push_motion hbefore hbutton hclear, by simpa using h.control⟩

/-- The writer takes the first payload of a lane, a motion only past the critical lane. -/
theorem placed_taken (h : Inv s) {after : OutboundMux Marked} {lane : OutboundLane} {payload : Marked}
    (hidle : s.outbound.mux.point.inHand = [])
    (hpast : lane = .coalescibleInput → s.outbound.mux.point.pastCritical = true)
    (hwaiting : s.outbound.mux.waiting lane = payload :: after.waiting lane)
    (hothers : ∀ other, other ≠ lane → after.waiting other = s.outbound.mux.waiting other) :
    Placed (passedPayloads s.outbound.log) [payload] (after.waiting .criticalInput)
      (after.waiting .coalescibleInput) false := by
  have hplaced := h.placed
  simp only [hidle] at hplaced
  cases lane with
  | control =>
    have htaken : payload ∈ s.waiting .control := by
      rw [MouseOrder.waiting, hwaiting]
      exact List.mem_cons_self
    rw [hothers .criticalInput (by simp), hothers .coalescibleInput (by simp)]
    exact hplaced.take_plain (h.control payload htaken)
  | criticalInput =>
    rw [hothers .coalescibleInput (by simp)]
    simp only [MouseOrder.waiting, hwaiting] at hplaced
    exact hplaced.take_critical
  | coalescibleInput =>
    rw [hothers .criticalInput (by simp)]
    simp only [MouseOrder.waiting, hwaiting, hpast rfl] at hplaced
    exact hplaced.take_motion

theorem Inv.with_outbound (h : Inv s) {outbound : OutboundHistory Marked}
    (hordered : outbound.Ordered Marked.outbound) (hsound : outbound.mux.Sound)
    (hplaced : Placed (passedPayloads outbound.log) outbound.mux.point.inHand
      (outbound.mux.waiting .criticalInput) (outbound.mux.waiting .coalescibleInput)
      outbound.mux.point.pastCritical)
    (hcontrol : ∀ marked ∈ outbound.mux.waiting .control, marked.mark = none)
    (hemitted : ∀ marked, Emitted { s with outbound } marked → s.Precedes marked) :
    Inv { s with outbound } := by
  refine ⟨hordered, hsound, hplaced, hcontrol, ?_, h.pending, ?_⟩
  · intro marked hmarked
    have hprecedes := hemitted marked hmarked
    exact ⟨hprecedes.bounded, hprecedes.pending⟩
  · intro emission hemission
    have hfits := h.fits emission hemission
    exact ⟨hfits.critical, hfits.coalescible⟩

/-- A turn of the mux keeps the order, if what it hands to a lane fits. -/
theorem Inv.effect (h : Inv s) {turn : OutboundTurn Marked} {after : OutboundMux Marked}
    {events : List (OutboundEvent Marked)} (heffect : s.outbound.mux.Effect turn after events)
    (hordered : OutboundHistory.Ordered Marked.outbound ⟨after, s.outbound.log ++ events⟩)
    (hsound : after.Sound)
    (hsends : ∀ lane marked, turn.sends = some (lane, marked) → s.Fits marked lane ∧
      s.Precedes marked ∧ ∀ first, s.Emitted first → Marked.InOrder first marked) :
    Inv { s with outbound := ⟨after, s.outbound.log ++ events⟩ } := by
  cases heffect with
  | queued lane payload hturn hwaiting hpoint hpassed =>
    obtain ⟨hfits, hprecedes, hafter⟩ := hsends lane payload hturn
    obtain ⟨hplaced, hcontrol⟩ := placed_queued h hfits hafter hwaiting
    apply h.with_outbound hordered hsound _ hcontrol
    · intro marked hmarked
      simp only [Emitted, passedPayloads_append, hpassed, List.append_nil, hpoint] at hmarked
      rcases hmarked with hlog | hhand | ⟨other, hlane⟩
      · exact h.precedes marked (.inl hlog)
      · exact h.precedes marked (.inr (.inl hhand))
      · simp only [MouseOrder.waiting, hwaiting] at hlane
        by_cases hother : other = lane
        · subst hother
          rw [Function.update_self] at hlane
          cases List.mem_append.mp hlane with
          | inl hold => exact h.precedes marked (.inr (.inr ⟨_, hold⟩))
          | inr hnew => exact List.mem_singleton.mp hnew ▸ hprecedes
        · rw [Function.update_of_ne hother] at hlane
          exact h.precedes marked (.inr (.inr ⟨_, hlane⟩))
    · simp only [passedPayloads_append, hpassed, List.append_nil, hpoint]
      exact hplaced
  | shrank hwaiting hpoint hpassed =>
    apply h.with_outbound hordered hsound
    · simp only [passedPayloads_append, hpassed, List.append_nil, hpoint]
      exact h.placed.sublist (hwaiting .criticalInput) (hwaiting .coalescibleInput)
    · intro marked hmarked
      exact h.control marked ((hwaiting .control).subset hmarked)
    · intro marked hmarked
      simp only [Emitted, passedPayloads_append, hpassed, List.append_nil, hpoint] at hmarked
      apply h.precedes marked
      refine hmarked.imp_right (Or.imp_right ?_)
      intro hlane
      obtain ⟨lane, hlane⟩ := hlane
      exact ⟨lane, (hwaiting lane).subset hlane⟩
  | took lane payload hidle hpast hwaiting hothers hpoint hpassed =>
    have htaken : payload ∈ s.waiting lane := by
      rw [MouseOrder.waiting, hwaiting]
      exact List.mem_cons_self
    have hsublist : ∀ other, (after.waiting other).Sublist (s.waiting other) := by
      intro other
      by_cases hother : other = lane
      · subst hother
        rw [MouseOrder.waiting, hwaiting]
        exact List.sublist_cons_self _ _
      · rw [hothers other hother]
        exact List.Sublist.refl _
    apply h.with_outbound hordered hsound
    · simp only [passedPayloads_append, hpassed, List.append_nil, hpoint]
      exact placed_taken h hidle hpast hwaiting hothers
    · intro marked hmarked
      exact h.control marked ((hsublist .control).subset hmarked)
    · intro marked hmarked
      simp only [Emitted, passedPayloads_append, hpassed, List.append_nil, hpoint,
        WriterPoint.inHand, List.mem_singleton] at hmarked
      apply h.precedes marked
      rcases hmarked with hlog | hhand | ⟨other, hlane⟩
      · exact .inl hlog
      · exact .inr (.inr ⟨lane, hhand ▸ htaken⟩)
      · exact .inr (.inr ⟨other, (hsublist other).subset hlane⟩)
  | advanced hwaiting hpast hhand hpassed =>
    apply h.with_outbound hordered hsound
    · simp only [passedPayloads_append, hpassed, List.append_nil, hhand, hwaiting]
      exact h.placed.advance hpast
    · simp only [hwaiting]
      exact h.control
    · intro marked hmarked
      simp only [Emitted, passedPayloads_append, hpassed, List.append_nil, hhand,
        MouseOrder.waiting, hwaiting] at hmarked
      apply h.precedes marked
      rcases hmarked with hlog | hnil | hlane
      · exact .inl hlog
      · cases hnil
      · exact .inr (.inr hlane)
  | passed payload hhand hwaiting hpast hempty hpassed =>
    apply h.with_outbound hordered hsound
    · simp only [passedPayloads_append, hpassed, hwaiting, hempty, hpast]
      have hplaced := h.placed
      simp only [hhand] at hplaced
      exact hplaced.pass
    · simp only [hwaiting]
      exact h.control
    · intro marked hmarked
      simp only [Emitted, passedPayloads_append, hpassed, hempty, MouseOrder.waiting,
        hwaiting, List.mem_append] at hmarked
      apply h.precedes marked
      rcases hmarked with (hlog | hnew) | hnil | hlane
      · exact .inl hlog
      · exact .inr (.inl (hhand ▸ hnew))
      · cases hnil
      · exact .inr (.inr hlane)

theorem Inv.runOutbound (h : Inv s) {turn : OutboundTurn Marked}
    (hstep : s.runOutbound turn = some t)
    (hsends : ∀ lane marked, turn.sends = some (lane, marked) → s.Fits marked lane ∧
      s.Precedes marked ∧ ∀ first, s.Emitted first → Marked.InOrder first marked) : Inv t := by
  rw [MouseOrder.runOutbound] at hstep
  split at hstep
  case h_2 => cases hstep
  case h_1 outbound hturn =>
    cases hstep
    have hordered : outbound.Ordered Marked.outbound := h.ordered.preserved hturn
    rw [OutboundHistory.step] at hturn
    split at hturn
    case h_2 => cases hturn
    case h_1 after events hmux =>
      cases hturn
      have hclosed : ∀ lane ∈ s.outbound.mux.point.closedLanes,
          (s.outbound.mux.lanes lane).buffer = [] :=
        fun lane hlane => (h.ordered.closed lane hlane).2
      obtain ⟨heffect, hsound⟩ := OutboundMux.effect_of_step h.sound hclosed hmux
      exact h.effect heffect hordered hsound hsends

section Steps

open AndroidInputController (MouseEmits onGenericMotionEvent_emits)

/-- What one mouse event emits is in order. -/
theorem emissions_inOrder {transform : Option ViewportTransform} {event : GenericMotionEvent}
    {emissions : List AndroidInputEmission} (h : MouseEmits transform event emissions) :
    (emissions.map s.marked).Pairwise Marked.InOrder := by
  cases h with
  | silent => simp
  | motion => simp
  | button button state timestamp point =>
    have hmove : (s.marked (AndroidInputController.pointerMove timestamp point)).button = none := rfl
    have hbutton : (s.marked (AndroidInputController.pointerButton timestamp button state)).move =
        none := rfl
    have hsame : Marked.InOrder (s.marked (AndroidInputController.pointerMove timestamp point))
        (s.marked (AndroidInputController.pointerButton timestamp button state)) := by
      refine ⟨by simp [hmove], ?_⟩
      intro i hi j hj
      cases hi
      cases hj
      exact Nat.le_refl _
    simp [hsame]

theorem emissions_fit {transform : Option ViewportTransform} {event : GenericMotionEvent}
    {emissions : List AndroidInputEmission} (h : MouseEmits transform event emissions) :
    ∀ emission ∈ emissions, s.FitsLane emission := by
  intro emission hmem
  cases h with
  | silent => cases hmem
  | motion motion haction hmotion =>
    rw [List.mem_singleton.mp hmem]
    cases hmotion with
    | inl hmove =>
      obtain ⟨timestamp, point, rfl⟩ := hmove
      refine ⟨?_, fun _ => rfl⟩
      intro hdelivery
      cases hdelivery
    | inr hwheel =>
      obtain ⟨timestamp, deltaX, deltaY, rfl⟩ := hwheel
      refine ⟨?_, fun _ => rfl⟩
      intro hdelivery
      cases hdelivery
  | button button state timestamp point =>
    cases List.mem_cons.mp hmem with
    | inl hmove =>
      rw [hmove]
      refine ⟨?_, fun _ => rfl⟩
      intro hdelivery
      cases hdelivery
    | inr hbutton =>
      rw [List.mem_singleton.mp hbutton]
      refine ⟨fun _ => rfl, ?_⟩
      intro hdelivery
      cases hdelivery

theorem mark_of_move {marked : Marked} {i : Nat} (h : i ∈ marked.move) : i ∈ marked.mark := by
  rw [Marked.move] at h
  split at h
  · split at h
    · exact h
    · cases h
  · cases h

theorem mark_of_button {marked : Marked} {i : Nat} (h : i ∈ marked.button) : i ∈ marked.mark := by
  rw [Marked.button] at h
  split at h
  · split at h
    · exact h
    · cases h
  · cases h

/-- The payloads of earlier events may precede those of a later one. -/
theorem inOrder_of_later {first second : Marked} {count : Nat} (hfirst : ∀ i ∈ first.mark, i ≤ count)
    (hsecond : second.mark = some (count + 1)) : Marked.InOrder first second := by
  constructor
  · intro i hi j hj
    have hle := hfirst i (mark_of_button hi)
    have hmark := mark_of_move hj
    rw [hsecond] at hmark
    cases hmark
    omega
  · intro i hi j hj
    have hle := hfirst i (mark_of_move hi)
    have hmark := mark_of_button hj
    rw [hsecond] at hmark
    cases hmark
    omega

theorem Inv.mouse (h : Inv s) {viewWidth viewHeight : Int32} {event : GenericMotionEvent}
    (hstep : s.step (.mouse viewWidth viewHeight event) = some t) : Inv t := by
  rw [step] at hstep
  split at hstep
  case h_2 => cases hstep
  case h_1 =>
    cases hstep
    have hemits := onGenericMotionEvent_emits s.input viewWidth viewHeight event
    refine ⟨h.ordered, h.sound, h.placed, h.control, ?_, emissions_inOrder hemits,
      fun emission hmem => emissions_fit hemits emission hmem⟩
    · intro marked hmarked
      have hold := h.precedes marked hmarked
      refine ⟨fun i hi => Nat.le_succ_of_le (hold.bounded i hi), ?_⟩
      intro emission _
      exact inOrder_of_later hold.bounded rfl

theorem Inv.display (h : Inv s) {session : AndroidDisplaySession} {input : AndroidInputController}
    (hstep : s.step (.display session input) = some t) : Inv t := by
  cases hstep
  refine ⟨h.ordered, h.sound, h.placed, h.control, ?_, h.pending, ?_⟩
  · intro marked hmarked
    have hold := h.precedes marked hmarked
    exact ⟨hold.bounded, hold.pending⟩
  · intro emission hemission
    have hfits := h.fits emission hemission
    exact ⟨hfits.critical, hfits.coalescible⟩

theorem Inv.outbound (h : Inv s) {turn : OutboundTurn Marked}
    (hstep : s.step (.outbound turn) = some t) : Inv t := by
  simp only [step] at hstep
  split at hstep
  case isFalse => cases hstep
  case isTrue helsewhere =>
    apply h.runOutbound hstep
    intro lane marked hturn
    have hmark : marked.mark = none := by simpa [fromElsewhere, hturn] using helsewhere
    have hmove := move_of_unmarked hmark
    have hbutton := button_of_unmarked hmark
    refine ⟨?_, precedes_of_unmarked hmark, fun first _ => inOrder_of_plain_right hbutton hmove⟩
    cases lane with
    | control => exact .control hmark
    | criticalInput => exact .critical hmove (by simp [hbutton])
    | coalescibleInput => exact .motion hbutton (by simp [hmove])

/-- What was emitted before may precede a pending emission, and the rest of the pending may follow
it. -/
theorem Inv.submit (h : Inv s) (hclear : s.FindsLanesClear .submit)
    (hstep : s.step .submit = some t) : Inv t := by
  simp only [step] at hstep
  split at hstep
  case h_1 => cases hstep
  case h_2 emission pending hpending =>
    have hlater := h.pending
    rw [hpending, List.map_cons] at hlater
    obtain ⟨hfirst, hrest⟩ := List.pairwise_cons.mp hlater
    have hfits := h.fits emission (hpending ▸ List.mem_cons_self)
    -- Without the emission, the rest of the event is still to come.
    have hleft : Inv { s with pending } := by
      refine ⟨h.ordered, h.sound, h.placed, h.control, ?_, hrest, ?_⟩
      · intro marked hmarked
        have hold := h.precedes marked hmarked
        refine ⟨hold.bounded, ?_⟩
        intro other hother
        exact hold.pending other (hpending ▸ List.mem_cons_of_mem _ hother)
      · intro other hother
        have hkind := h.fits other (hpending ▸ List.mem_cons_of_mem _ hother)
        exact ⟨hkind.critical, hkind.coalescible⟩
    split at hstep
    case isFalse =>
      cases hstep
      exact hleft
    case isTrue haccepts =>
      obtain ⟨hbutton, hmove⟩ := hclear emission (by simp [hpending]) haccepts
      have hprecedes : Precedes { s with pending } (s.marked emission) := by
        constructor
        · intro i hi
          cases hi
          exact Nat.le_refl _
        · intro other hother
          exact hfirst _ (List.mem_map_of_mem hother)
      have hafter : ∀ first, Emitted { s with pending } first →
          Marked.InOrder first (s.marked emission) := by
        intro first hemitted
        exact (h.precedes first hemitted).pending emission (hpending ▸ List.mem_cons_self)
      apply hleft.runOutbound hstep
      intro lane marked hturn
      cases hdelivery : emission.delivery with
      | critical =>
        rw [laneTurn, hdelivery] at hturn
        cases hturn
        exact ⟨.critical (hfits.critical hdelivery) hbutton, hprecedes, hafter⟩
      | coalescible =>
        rw [laneTurn, hdelivery] at hturn
        cases hturn
        exact ⟨.motion (hfits.coalescible hdelivery) hmove, hprecedes, hafter⟩

theorem Inv.preserved {turn : MouseTurn} (h : Inv s) (hclear : s.FindsLanesClear turn)
    (hstep : s.step turn = some t) : Inv t := by
  cases turn with
  | mouse viewWidth viewHeight event => exact h.mouse hstep
  | submit => exact h.submit hclear hstep
  | outbound turn => exact h.outbound hstep
  | display session input => exact h.display hstep

end Steps

variable (session : AndroidDisplaySession) (input : AndroidInputController)

theorem inv_start : Inv (start session input) := by
  have hsound : (OutboundMux.new defaultCapacity : OutboundMux Marked).Sound := by
    apply OutboundMux.sound_new
    intro lane
    cases lane <;> decide
  have hempty : ∀ lane, (start session input).waiting lane = [] := fun _ => rfl
  refine ⟨OutboundHistory.ordered_start _, hsound, ?_, by simp [hempty], ?_, List.Pairwise.nil,
    by simp [start]⟩
  · rw [hempty, hempty]
    have hpassed : passedPayloads (start session input).outbound.log = [] := rfl
    have hhand : (start session input).outbound.mux.point.inHand = [] := rfl
    rw [hpassed, hhand]
    exact ⟨List.Pairwise.nil, by simp, by simp, by simp, by simp, by simp, by simp⟩
  · intro marked hmarked
    rcases hmarked with hlog | hhand | ⟨lane, hlane⟩
    · cases hlog
    · cases hhand
    · rw [hempty] at hlane
      cases hlane

/-- In every run whose buttons and moves find the other lane clear, the wire shows the moves and
buttons of the mouse in the order of their events: the move of a button's own event and the moves of
earlier events come before it, and no move of a later event does. -/
theorem wire_inOrder {turns : List MouseTurn} {s : MouseOrder}
    (hclear : machine.Admits FindsLanesClear (start session input) turns)
    (hrun : machine.run (start session input) turns = some s) : s.WireInOrder := by
  have hinv := machine.run_invariant_of_admits FindsLanesClear Inv
    (fun _ _ _ h hstep => h.preserved hstep) (inv_start session input) hclear hrun
  exact hinv.placed.sent

section Runs

instance (first second : Marked) : Decidable (Marked.InOrder first second) :=
  decidable_of_iff ((∀ i ∈ first.button, ∀ j ∈ second.move, i < j) ∧
    ∀ i ∈ first.move, ∀ j ∈ second.button, i ≤ j)
    ⟨fun h => ⟨h.1, h.2⟩, fun h => ⟨h.afterButton, h.beforeButton⟩⟩

instance (s : MouseOrder) : Decidable s.WireInOrder := inferInstanceAs (Decidable (List.Pairwise _ _))

instance (s : MouseOrder) : (turn : MouseTurn) → Decidable (s.FindsLanesClear turn)
  | .submit => inferInstanceAs (Decidable (∀ emission ∈ s.pending.head?, _ → _))
  | .mouse .. | .outbound _ | .display .. => .isTrue trivial

/-- A session that shows the picture of a host, with a pointer on both sides. -/
def pointing : MouseOrder :=
  start { AndroidDisplaySession.new .fullHd with
      state := .connected "Host" .hd
      remoteCapabilities := some .fullHd }
    { AndroidInputController.new with viewport := some DisplayConfigPayload.hd.viewport }

/-- The primary button of a mouse goes down at one place. -/
def buttonPress : MouseTurn :=
  .mouse 1280 720
    { isFromMouse := true
      actionMasked := .buttonPress
      pointer := { pointerId := 0, locate := fun _ => ⟨true, 640, 360⟩, pressure := 0 }
      actionButton := 1
      horizontalScroll := 0
      verticalScroll := 0
      eventTime := 20 }

private def scans (count : Nat) : List MouseTurn :=
  List.replicate count (.outbound .receiveAvailable)

private def writes : List MouseTurn := [.outbound .frame, .outbound (.sendFrame .written)]

/-- The writer waits for the first payload, and takes the move before the button is submitted. -/
def idleClick : List MouseTurn :=
  scans 3 ++ [buttonPress, .submit, .outbound (.select .coalescibleInput), .submit] ++ writes ++
    scans 2 ++ writes

/-- What a payload is on the wire: a move or a button of an event. -/
def wireMarks (s : MouseOrder) : List (Option Nat × Option Nat) :=
  (passedPayloads s.outbound.log).map fun marked => (marked.move, marked.button)

theorem wire_inOrder_idleClick : ∃ s, machine.run pointing idleClick = some s ∧
    wireMarks s = [(some 1, none), (none, some 1)] ∧ s.WireInOrder := by
  have hreached : (machine.run pointing idleClick).any
      (fun s => decide (wireMarks s = [(some 1, none), (none, some 1)])) = true := by
    decide +kernel
  obtain ⟨s, hrun, hmarks⟩ := (Option.any_eq_true _ _).mp hreached
  exact ⟨s, hrun, of_decide_eq_true hmarks, wire_inOrder _ _ (by decide +kernel) hrun⟩

private def busyPing : Marked := ⟨⟨⟨.ping, (⟨4, 5⟩ : PingPayload)⟩, .none⟩, none⟩

/-- The writer is busy with a ping while the button goes down. -/
def busyClick : List MouseTurn :=
  .outbound (.sendControl busyPing) :: scans 1 ++ [buttonPress, .submit, .submit] ++ writes ++
    scans 2 ++ writes ++ scans 3 ++ writes

/-- The button overtakes the move to its own place. -/
theorem wire_not_inOrder_busyClick : ∃ s, machine.run pointing busyClick = some s ∧
    wireMarks s = [(none, none), (none, some 1), (some 1, none)] ∧ ¬s.WireInOrder := by
  have hreached : (machine.run pointing busyClick).any (fun s => decide
      (wireMarks s = [(none, none), (none, some 1), (some 1, none)] ∧ ¬s.WireInOrder)) = true := by
    decide +kernel
  obtain ⟨s, hrun, hmarks⟩ := (Option.any_eq_true _ _).mp hreached
  exact ⟨s, hrun, of_decide_eq_true hmarks⟩

end Runs

end MouseOrder

end LadoFlow.Android
