import LadoFlow.Transport.QueueInvariant

/-!
# Connections of a loopback link

The calls of the two endpoints in any order, with what each direction and channel of the link
accepted, handed out, superseded and discarded.
-/

namespace LadoFlow.Transport

open LadoFlow.Protocol Framework

def Side.other : Side → Side
  | .first => .second
  | .second => .first

@[simp] theorem Side.ne_other (side : Side) : side ≠ side.other := by
  cases side <;> simp [Side.other]

def LoopbackConfig.limits (config : LoopbackConfig) : Channel → QueueLimits
  | .control => config.control
  | .media => config.media

namespace Link

/-- The queue of what `side` sends on `channel`. -/
def lane (link : Link) (side : Side) (channel : Channel) : BoundedQueue :=
  (link.outgoing side).queue channel

def setLane (link : Link) (queue : BoundedQueue) (side : Side) (channel : Channel) : Link :=
  link.setOutgoing ((link.outgoing side).setQueue queue channel) side

variable {link : Link} {side other : Side} {channel channel' : Channel} {queue : BoundedQueue}

@[simp] theorem lane_setLane_self : (link.setLane queue side channel).lane side channel = queue := by
  simp [lane, setLane]

theorem lane_setLane_ne (h : ¬(other = side ∧ channel' = channel)) :
    (link.setLane queue side channel).lane other channel' = link.lane other channel' := by
  cases side <;> cases other <;> cases channel <;> cases channel' <;>
    first | rfl | exact absurd ⟨rfl, rfl⟩ h

@[simp] theorem setLane_connected : (link.setLane queue side channel).connected = link.connected := by
  cases side <;> rfl

@[simp] theorem setLane_lane : link.setLane (link.lane side channel) side channel = link := by
  cases side <;> cases channel <;> rfl

/-- A send on a connected link is a push on its lane. -/
theorem trySend_eq (hconnected : link.connected = true) (packet : Packet) :
    link.trySend side packet =
      (((link.lane side packet.channel).tryPush packet).1,
        link.setLane ((link.lane side packet.channel).tryPush packet).2 side packet.channel) := by
  simp only [trySend, hconnected, Bool.not_true, Bool.false_eq_true, if_false]
  rfl

/-- A receive on a connected link is a pop on the lane of the other side. -/
theorem tryReceive_eq (hconnected : link.connected = true) :
    link.tryReceive side channel =
      (.ok (link.lane side.other channel).pop.1,
        link.setLane (link.lane side.other channel).pop.2 side.other channel) := by
  simp only [tryReceive, hconnected, Bool.not_true, Bool.false_eq_true, if_false]
  cases side <;> rfl

theorem trySend_disconnected (h : link.connected = false) (packet : Packet) :
    link.trySend side packet = (.error (.disconnected packet), link) := by
  simp [trySend, h]

theorem tryReceive_disconnected (h : link.connected = false) :
    link.tryReceive side channel = (.error .disconnected, link) := by
  simp [tryReceive, h]

theorem disconnect_lane :
    link.disconnect.2.lane side channel = (link.lane side channel).clear.2 := by
  cases side <;> cases channel <;> rfl

theorem reconnect_lane (h : link.connected = false) :
    link.reconnect.2.lane side channel = (link.lane side channel).clear.2 := by
  simp only [reconnect, h, Bool.false_eq_true, if_false]
  cases side <;> cases channel <;> rfl

theorem reconnect_connected (h : link.connected = true) : link.reconnect.2 = link := by
  simp [reconnect, h]

theorem lane_new (config : LoopbackConfig) :
    (Link.new config).lane side channel = .new (config.limits channel) := by
  cases side <;> cases channel <;> rfl

end Link

inductive EndpointCall where
  | trySend (side : Side) (packet : Packet)
  | tryReceive (side : Side) (channel : Channel)
  | disconnect (side : Side)
  | reconnect (side : Side)
  deriving DecidableEq

/-- What became of the packets of one direction and channel. -/
structure LaneLedger where
  accepted : List Packet
  received : List Packet
  superseded : List Packet
  discarded : List Packet
  deriving DecidableEq

namespace LaneLedger

def empty : LaneLedger := ⟨[], [], [], []⟩

/-- An accepted packet takes the place of the obsolete ones. -/
def accept (ledger : LaneLedger) (packet : Packet) (obsolete : List Packet) : LaneLedger :=
  { ledger with
    accepted := ledger.accepted ++ [packet]
    superseded := ledger.superseded ++ obsolete }

def receive (ledger : LaneLedger) (packet : Packet) : LaneLedger :=
  { ledger with received := ledger.received ++ [packet] }

def discard (ledger : LaneLedger) (packets : List Packet) : LaneLedger :=
  { ledger with discarded := ledger.discarded ++ packets }

/-- Every accepted packet was received, superseded or discarded, or is queued. -/
def Balances (ledger : LaneLedger) (queued : List Packet) : Prop :=
  ledger.accepted.Perm (ledger.received ++ ledger.superseded ++ ledger.discarded ++ queued)

end LaneLedger

/-- A ledger for each sender and channel. -/
abbrev LinkLedger := Side → Channel → LaneLedger

namespace LinkLedger

def empty : LinkLedger := fun _ _ => .empty

def change (ledger : LinkLedger) (side : Side) (channel : Channel)
    (f : LaneLedger → LaneLedger) : LinkLedger :=
  fun s c => if s = side ∧ c = channel then f (ledger s c) else ledger s c

end LinkLedger

structure LinkHistory where
  link : Link
  ledger : LinkLedger

/-- The packets and bytes that a disconnect reports for a channel. -/
def DisconnectReport.discarded (report : DisconnectReport) : Channel → QueueDepth
  | .control => report.control
  | .media => report.media

namespace LinkHistory

def start (config : LoopbackConfig) : LinkHistory := ⟨.new config, .empty⟩

def trySend (s : LinkHistory) (side : Side) (packet : Packet) : LinkHistory :=
  match s.link.trySend side packet with
  | (.ok _, link) => ⟨link, s.ledger.change side packet.channel
      (·.accept packet ((s.link.lane side packet.channel).obsolete packet))⟩
  | (.error _, link) => { s with link }

def tryReceive (s : LinkHistory) (side : Side) (channel : Channel) : LinkHistory :=
  match s.link.tryReceive side channel with
  | (.ok (some packet), link) => ⟨link, s.ledger.change side.other channel (·.receive packet)⟩
  | (_, link) => { s with link }

def disconnect (s : LinkHistory) : LinkHistory where
  link := s.link.disconnect.2
  ledger := fun side channel => (s.ledger side channel).discard (s.link.lane side channel).packets

def reconnect (s : LinkHistory) : LinkHistory := { s with link := s.link.reconnect.2 }

def machine : Machine LinkHistory EndpointCall where
  step
    | s, .trySend side packet => some (s.trySend side packet)
    | s, .tryReceive side channel => some (s.tryReceive side channel)
    | s, .disconnect _ => some s.disconnect
    | s, .reconnect _ => some s.reconnect

/-- What a call may do to one direction and channel. -/
inductive LaneEffect (before after : BoundedQueue) (ledger : LaneLedger) : LaneLedger → Prop
  | kept (hafter : after = before) : LaneEffect before after ledger ledger
  | accepted (packet : Packet) (report : SendReport)
      (hpush : before.tryPush packet = (.ok report, after)) :
      LaneEffect before after ledger (ledger.accept packet (before.obsolete packet))
  | received (packet : Packet) (hpop : before.pop = (some packet, after)) :
      LaneEffect before after ledger (ledger.receive packet)
  | discarded (hclear : after = before.clear.2) :
      LaneEffect before after ledger (ledger.discard before.packets)

/-- A disconnected link holds nothing. -/
def ClosedEmpty (s : LinkHistory) : Prop :=
  s.link.connected = false → ∀ side channel, (s.link.lane side channel).packets = []

variable {s t : LinkHistory} {side : Side} {channel : Channel}

theorem trySend_effect (packet : Packet) (other : Side) :
    LaneEffect (s.link.lane other channel) ((s.trySend side packet).link.lane other channel)
      (s.ledger other channel) ((s.trySend side packet).ledger other channel) := by
  rw [trySend]
  cases hconnected : s.link.connected with
  | false =>
    rw [Link.trySend_disconnected hconnected]
    exact .kept rfl
  | true =>
    rw [Link.trySend_eq hconnected]
    cases hpush : (s.link.lane side packet.channel).tryPush packet with
    | mk result queue =>
      by_cases hlane : other = side ∧ channel = packet.channel
      · obtain ⟨hside, hchannel⟩ := hlane
        subst hside hchannel
        cases result with
        | error error =>
          have hsame := (s.link.lane other packet.channel).tryPush_cases packet
          rw [hpush] at hsame
          apply LaneEffect.kept
          rcases hsame with ⟨_, hsame⟩ | ⟨_, _, hsame, _⟩
          · cases hsame
            simp
          · cases hsame
        | ok report =>
          simp only [LinkLedger.change, and_self, if_true, Link.lane_setLane_self]
          exact .accepted packet report hpush
      · cases result with
        | error error => exact .kept (Link.lane_setLane_ne hlane)
        | ok report =>
          simp only [LinkLedger.change, hlane, if_false]
          exact .kept (Link.lane_setLane_ne hlane)

theorem tryReceive_effect (other : Side) (channel' : Channel) :
    LaneEffect (s.link.lane other channel) ((s.tryReceive side channel').link.lane other channel)
      (s.ledger other channel) ((s.tryReceive side channel').ledger other channel) := by
  rw [tryReceive]
  cases hconnected : s.link.connected with
  | false =>
    rw [Link.tryReceive_disconnected hconnected]
    exact .kept rfl
  | true =>
    rw [Link.tryReceive_eq hconnected]
    cases hpop : (s.link.lane side.other channel').pop with
    | mk packet queue =>
      by_cases hlane : other = side.other ∧ channel = channel'
      · obtain ⟨hside, hchannel⟩ := hlane
        subst hside hchannel
        cases packet with
        | none =>
          apply LaneEffect.kept
          rcases (s.link.lane side.other channel).pop_cases with ⟨_, hsame⟩ | ⟨_, _, hsame, _⟩
          · rw [hpop] at hsame
            cases hsame
            simp
          · rw [hpop] at hsame
            cases hsame
        | some packet =>
          simp only [LinkLedger.change, and_self, if_true, Link.lane_setLane_self]
          exact .received packet hpop
      · cases packet with
        | none => exact .kept (Link.lane_setLane_ne hlane)
        | some packet =>
          simp only [LinkLedger.change, hlane, if_false]
          exact .kept (Link.lane_setLane_ne hlane)

theorem disconnect_effect :
    LaneEffect (s.link.lane side channel) (s.disconnect.link.lane side channel)
      (s.ledger side channel) (s.disconnect.ledger side channel) :=
  .discarded Link.disconnect_lane

theorem reconnect_effect (hclosed : s.ClosedEmpty)
    (hbytes : (s.link.lane side channel).queuedBytes = totalBytes (s.link.lane side channel).packets) :
    LaneEffect (s.link.lane side channel) (s.reconnect.link.lane side channel)
      (s.ledger side channel) (s.reconnect.ledger side channel) := by
  apply LaneEffect.kept
  rw [reconnect]
  cases hconnected : s.link.connected with
  | true => rw [Link.reconnect_connected hconnected]
  | false =>
    have hempty := hclosed hconnected side channel
    rw [hempty] at hbytes
    rw [Link.reconnect_lane hconnected, BoundedQueue.clear]
    cases hqueue : s.link.lane side channel with
    | mk limits packets queuedBytes =>
      rw [hqueue] at hempty hbytes
      simp only at hempty hbytes
      simp [hempty, hbytes]

/-- The accounting of one direction and channel. -/
structure LaneInvariant (limits : QueueLimits) (queue : BoundedQueue) (ledger : LaneLedger) :
    Prop where
  bounded : queue.Bounded
  limits_eq : queue.limits = limits
  balances : ledger.Balances queue.packets

theorem LaneInvariant.preserved {limits : QueueLimits} {before after : BoundedQueue}
    {ledger ledger' : LaneLedger} (h : LaneInvariant limits before ledger)
    (hpackets : limits.maxPackets ≤ usizeMax) (hbytes : limits.maxQueuedBytes ≤ usizeMax)
    (heffect : LaneEffect before after ledger ledger') : LaneInvariant limits after ledger' := by
  have hlimits := h.limits_eq
  subst hlimits
  have hbalances := List.perm_iff_count.mp h.balances
  cases heffect with
  | kept hafter =>
    subst hafter
    exact h
  | accepted packet report hpush =>
    have hpushed : before.PushEffect packet (before.tryPush packet) :=
      BoundedQueue.tryPush_effect h.bounded hpackets hbytes
    rw [hpush] at hpushed
    have hbounded := h.bounded.push hpushed
    cases hpushed with
    | queued _ _ _ hlimits hafter _ =>
      refine ⟨hbounded, hlimits, ?_⟩
      apply List.perm_iff_count.mpr
      intro queued
      have hcount := hbalances queued
      have hsplit := (List.filter_append_perm (BoundedQueue.supersedes packet)
        before.packets).count_eq queued
      rw [hafter, BoundedQueue.survivors]
      simp only [LaneLedger.accept, BoundedQueue.obsolete, List.count_append] at hcount hsplit ⊢
      omega
  | received packet hpop =>
    have hbounded := h.bounded.pop
    rw [hpop] at hbounded
    rcases before.pop_cases with ⟨_, hnone⟩ | ⟨_, _, hsome, hcons⟩
    · rw [hpop] at hnone
      cases hnone
    · rw [hpop] at hsome
      cases hsome
      have hlimits : after.limits = before.limits := by
        rw [BoundedQueue.pop, hcons] at hpop
        exact (congrArg (fun popped => popped.2.limits) hpop).symm
      refine ⟨hbounded, hlimits, ?_⟩
      apply List.perm_iff_count.mpr
      intro queued
      have hcount := hbalances queued
      rw [hcons] at hcount
      simp only [LaneLedger.receive, List.count_append, List.count_cons, List.count_nil] at hcount ⊢
      omega
  | discarded hclear =>
    subst hclear
    refine ⟨BoundedQueue.bounded_clear before, rfl, ?_⟩
    apply List.perm_iff_count.mpr
    intro queued
    have hcount := hbalances queued
    simp only [LaneLedger.discard, BoundedQueue.clear, List.count_append, List.count_nil] at hcount ⊢
    omega

/-- The accounting of the whole link. -/
structure Invariant (config : LoopbackConfig) (s : LinkHistory) : Prop where
  lanes : ∀ side channel,
    LaneInvariant (config.limits channel) (s.link.lane side channel) (s.ledger side channel)
  closed : s.ClosedEmpty

/-- The range of `usize`, the type of the limits. -/
def UsizeRange (config : LoopbackConfig) : Prop :=
  ∀ channel, (config.limits channel).maxPackets ≤ usizeMax ∧
    (config.limits channel).maxQueuedBytes ≤ usizeMax

theorem invariant_start (config : LoopbackConfig) : Invariant config (start config) := by
  constructor
  · intro side channel
    rw [start, Link.lane_new]
    exact ⟨BoundedQueue.bounded_new _, rfl, .nil⟩
  · intro hclosed
    cases hclosed

variable {config : LoopbackConfig}

/-- A call acts on each direction and channel by one of the four effects. -/
theorem step_effect {call : EndpointCall} (h : Invariant config s)
    (hstep : machine.step s call = some t) (side : Side) (channel : Channel) :
    LaneEffect (s.link.lane side channel) (t.link.lane side channel) (s.ledger side channel)
      (t.ledger side channel) := by
  cases call with
  | trySend sender packet =>
    cases hstep
    exact trySend_effect packet side
  | tryReceive receiver channel' =>
    cases hstep
    exact tryReceive_effect side channel'
  | disconnect caller =>
    cases hstep
    exact disconnect_effect
  | reconnect caller =>
    cases hstep
    exact reconnect_effect h.closed (h.lanes side channel).bounded.bytes_eq

theorem closedEmpty_step {call : EndpointCall} (h : Invariant config s)
    (hstep : machine.step s call = some t) : t.ClosedEmpty := by
  intro hclosed side channel
  cases call with
  | trySend sender packet =>
    cases hstep
    rw [trySend] at hclosed ⊢
    cases hconnected : s.link.connected with
    | false =>
      rw [Link.trySend_disconnected hconnected]
      exact h.closed hconnected side channel
    | true =>
      rw [Link.trySend_eq hconnected] at hclosed
      cases hpush : (s.link.lane sender packet.channel).tryPush packet with
      | mk result queue =>
        rw [hpush] at hclosed
        cases result <;> simp [hconnected] at hclosed
  | tryReceive receiver channel' =>
    cases hstep
    rw [tryReceive] at hclosed ⊢
    cases hconnected : s.link.connected with
    | false =>
      rw [Link.tryReceive_disconnected hconnected]
      exact h.closed hconnected side channel
    | true =>
      rw [Link.tryReceive_eq hconnected] at hclosed
      cases hpop : (s.link.lane receiver.other channel').pop with
      | mk packet queue =>
        rw [hpop] at hclosed
        cases packet <;> simp [hconnected] at hclosed
  | disconnect caller =>
    cases hstep
    rw [disconnect, Link.disconnect_lane]
    rfl
  | reconnect caller =>
    cases hstep
    rw [reconnect] at hclosed
    cases hconnected : s.link.connected with
    | true =>
      rw [Link.reconnect_connected hconnected, hconnected] at hclosed
      cases hclosed
    | false =>
      simp [Link.reconnect, hconnected] at hclosed

theorem Invariant.preserved {call : EndpointCall} (h : Invariant config s)
    (hrange : UsizeRange config) (hstep : machine.step s call = some t) : Invariant config t := by
  constructor
  · intro side channel
    exact (h.lanes side channel).preserved (hrange channel).1 (hrange channel).2
      (step_effect h hstep side channel)
  · exact closedEmpty_step h hstep

/-- What a lane handed out and still holds since a moment at which it held nothing is, in order, a
part of what it accepted since then. -/
def Since (mark : LaneLedger) (queued : List Packet) (ledger : LaneLedger) : Prop :=
  ∃ accepted received, ledger.accepted = mark.accepted ++ accepted ∧
    ledger.received = mark.received ++ received ∧ (received ++ queued).Sublist accepted

theorem Since.preserved {mark ledger ledger' : LaneLedger} {before after : BoundedQueue}
    (h : Since mark before.packets ledger) (heffect : LaneEffect before after ledger ledger') :
    Since mark after.packets ledger' := by
  obtain ⟨accepted, received, haccepted, hreceived, hsublist⟩ := h
  cases heffect with
  | kept hafter =>
    subst hafter
    exact ⟨accepted, received, haccepted, hreceived, hsublist⟩
  | accepted packet report hpush =>
    have hafter : after.packets = before.survivors packet ++ [packet] := by
      rcases before.tryPush_cases packet with ⟨_, hfailed⟩ | ⟨_, _, hpushed, hpackets⟩
      · rw [hpush] at hfailed
        cases hfailed
      · rw [hpush] at hpushed
        cases hpushed
        exact hpackets
    have hsurvivors : (received ++ before.survivors packet).Sublist accepted :=
      (List.filter_sublist.append_left received).trans hsublist
    refine ⟨accepted ++ [packet], received, ?_, hreceived, ?_⟩
    · simp [LaneLedger.accept, haccepted]
    · rw [hafter, ← List.append_assoc]
      exact hsurvivors.append_right [packet]
  | received packet hpop =>
    have hcons : before.packets = packet :: after.packets := by
      rcases before.pop_cases with ⟨_, hnone⟩ | ⟨_, _, hsome, hcons⟩
      · rw [hpop] at hnone
        cases hnone
      · rw [hpop] at hsome
        cases hsome
        exact hcons
    refine ⟨accepted, received ++ [packet], haccepted, ?_, ?_⟩
    · simp [LaneLedger.receive, hreceived]
    · rw [List.append_assoc, List.singleton_append, ← hcons]
      exact hsublist
  | discarded hclear =>
    subst hclear
    refine ⟨accepted, received, haccepted, hreceived, ?_⟩
    rw [BoundedQueue.clear, List.append_nil]
    exact (List.sublist_append_left received _).trans hsublist

theorem since_run {calls : List EndpointCall} {mark : LinkLedger} (hrange : UsizeRange config)
    (h : Invariant config s)
    (hsince : ∀ side channel,
      Since (mark side channel) (s.link.lane side channel).packets (s.ledger side channel))
    (hrun : machine.run s calls = some t) (side : Side) (channel : Channel) :
    Since (mark side channel) (t.link.lane side channel).packets (t.ledger side channel) := by
  have hboth : Invariant config t ∧ ∀ side channel,
      Since (mark side channel) (t.link.lane side channel).packets (t.ledger side channel) := by
    apply machine.run_invariant (fun u => Invariant config u ∧ ∀ side channel,
      Since (mark side channel) (u.link.lane side channel).packets (u.ledger side channel)) ?_
      ⟨h, hsince⟩ hrun
    intro u call v hu hstep
    refine ⟨hu.1.preserved hrange hstep, ?_⟩
    intro side channel
    exact (hu.2 side channel).preserved (step_effect hu.1 hstep side channel)
  exact hboth.2 side channel

/-- The packets and bytes queued on a channel, both directions together. -/
def queuedDepth (s : LinkHistory) (channel : Channel) : QueueDepth :=
  let first := (s.link.lane .first channel).packets
  let second := (s.link.lane .second channel).packets
  ⟨first.length + second.length, totalBytes first + totalBytes second⟩

/-- Packets in memory are fewer than its addresses, and so are their bytes. -/
def InMemory (s : LinkHistory) (channel : Channel) : Prop :=
  (s.queuedDepth channel).packets ≤ usizeMax ∧ (s.queuedDepth channel).bytes ≤ usizeMax

theorem Invariant.depth_eq (h : Invariant config s) (side : Side) (channel : Channel) :
    (s.link.lane side channel).depth =
      ⟨(s.link.lane side channel).packets.length, totalBytes (s.link.lane side channel).packets⟩ := by
  rw [BoundedQueue.depth, (h.lanes side channel).bounded.bytes_eq]

theorem Invariant.disconnect_report (h : Invariant config s) {channel : Channel}
    (hmemory : s.InMemory channel) : s.link.disconnect.1.discarded channel = s.queuedDepth channel := by
  have hfirst := h.depth_eq .first channel
  have hsecond := h.depth_eq .second channel
  have hreport : s.link.disconnect.1.discarded channel =
      (s.link.lane .first channel).depth.saturatingAdd (s.link.lane .second channel).depth := by
    cases channel <;> rfl
  obtain ⟨hpackets, hbytes⟩ := hmemory
  rw [hreport, hfirst, hsecond, QueueDepth.saturatingAdd, saturatingAdd, saturatingAdd]
  simp only [queuedDepth] at hpackets hbytes ⊢
  rw [Nat.min_eq_left hpackets, Nat.min_eq_left hbytes]

theorem Invariant.send_report (h : Invariant config s) (hrange : UsizeRange config) {side : Side}
    {packet : Packet} {report : SendReport} {link : Link}
    (hsend : s.link.trySend side packet = (.ok report, link)) :
    report.superseded = ⟨((s.link.lane side packet.channel).obsolete packet).length,
      totalBytes ((s.link.lane side packet.channel).obsolete packet)⟩ := by
  cases hconnected : s.link.connected with
  | false =>
    rw [Link.trySend_disconnected hconnected] at hsend
    cases hsend
  | true =>
    have hlane := h.lanes side packet.channel
    have hlimits := hlane.limits_eq
    have heffect : BoundedQueue.PushEffect (s.link.lane side packet.channel) packet
        ((s.link.lane side packet.channel).tryPush packet) := by
      apply BoundedQueue.tryPush_effect hlane.bounded
      · rw [hlimits]
        exact (hrange packet.channel).1
      · rw [hlimits]
        exact (hrange packet.channel).2
    rw [Link.trySend_eq hconnected] at hsend
    cases hpush : (s.link.lane side packet.channel).tryPush packet with
    | mk result queue =>
      rw [hpush] at heffect hsend
      cases heffect with
      | tooLarge => cases hsend
      | full => cases hsend
      | queued =>
        cases hsend
        rfl

/-- In every order of calls of the two endpoints: accepted packets are received, superseded,
discarded or still queued; what is received after a disconnect was accepted after it; a disconnected
link refuses every call without effect; and the reports count exactly what was dropped. -/
theorem disconnect_isolates (config : LoopbackConfig) (hrange : UsizeRange config)
    {calls : List EndpointCall} {s : LinkHistory}
    (hrun : machine.run (start config) calls = some s) :
    (∀ side channel, (s.ledger side channel).Balances (s.link.lane side channel).packets) ∧
    (∀ before after caller mark, calls = before ++ .disconnect caller :: after →
      machine.run (start config) before = some mark → ∀ side channel, ∃ accepted received,
        (s.ledger side channel).accepted = (mark.ledger side channel).accepted ++ accepted ∧
        (s.ledger side channel).received = (mark.ledger side channel).received ++ received ∧
        received.Sublist accepted) ∧
    (s.link.connected = false → ∀ side,
      (∀ packet, s.link.trySend side packet = (.error (.disconnected packet), s.link)) ∧
      ∀ channel, s.link.tryReceive side channel = (.error .disconnected, s.link)) ∧
    (∀ channel, s.InMemory channel →
      s.link.disconnect.1.discarded channel = s.queuedDepth channel) ∧
    ∀ side packet report link, s.link.trySend side packet = (.ok report, link) →
      report.superseded = ⟨((s.link.lane side packet.channel).obsolete packet).length,
        totalBytes ((s.link.lane side packet.channel).obsolete packet)⟩ := by
  have hinvariant : ∀ {calls s}, machine.run (start config) calls = some s →
      Invariant config s := by
    intro calls s hrun
    exact machine.run_invariant (Invariant config) (fun _ _ _ h hstep => h.preserved hrange hstep)
      (invariant_start config) hrun
  have h := hinvariant hrun
  refine ⟨fun side channel => (h.lanes side channel).balances, ?_, ?_,
    fun channel => h.disconnect_report, fun side packet report link => h.send_report hrange⟩
  · intro before after caller mark hcalls hbefore side channel
    have hmark := hinvariant hbefore
    subst hcalls
    obtain ⟨mark', hrun₁, hrun₂⟩ := machine.run_append.mp hrun
    cases hbefore.symm.trans hrun₁
    obtain ⟨cut, hcut, hafter⟩ := machine.run_cons.mp hrun₂
    have hcleared : ∀ side channel, Since (mark.ledger side channel)
        (cut.link.lane side channel).packets (cut.ledger side channel) := by
      intro side channel
      cases hcut
      refine ⟨[], [], ?_, ?_, ?_⟩
      · simp [disconnect, LaneLedger.discard]
      · simp [disconnect, LaneLedger.discard]
      · rw [disconnect, Link.disconnect_lane]
        exact List.Sublist.slnil
    obtain ⟨accepted, received, haccepted, hreceived, hsublist⟩ :=
      since_run hrange (hmark.preserved hrange hcut) hcleared hafter side channel
    exact ⟨accepted, received, haccepted, hreceived,
      (List.sublist_append_left received _).trans hsublist⟩
  · intro hclosed side
    exact ⟨fun packet => Link.trySend_disconnected hclosed packet,
      fun channel => Link.tryReceive_disconnected hclosed⟩

theorem usizeRange_default : UsizeRange .default := by
  intro channel
  cases channel <;> decide

/-- A cycle with a superseded cursor image, a discarded packet and a second connection. -/
private def cycle : List EndpointCall :=
  [.trySend .first (.replaceableMedia ⟨7⟩ [1, 2, 3]), .trySend .first (.replaceableMedia ⟨7⟩ [4, 5]),
    .trySend .second (.control [6]), .disconnect .second, .trySend .first (.control [7]),
    .disconnect .first, .reconnect .first, .trySend .first (.control [8]),
    .tryReceive .second .control]

theorem disconnect_isolates_cycle :
    ∃ s, machine.run (start .default) cycle = some s ∧
      (s.ledger .first .control).received = [.control [8]] ∧
      (∀ side channel, (s.ledger side channel).Balances (s.link.lane side channel).packets) ∧
      s.link.disconnect.1.discarded .control = s.queuedDepth .control := by
  obtain ⟨hbalances, -, -, hreport, -⟩ := disconnect_isolates .default usizeRange_default
    (rfl : machine.run (start .default) cycle = some _)
  refine ⟨_, rfl, by decide +kernel, hbalances, ?_⟩
  exact hreport .control ⟨by decide +kernel, by decide +kernel⟩

end LinkHistory

end LadoFlow.Transport
