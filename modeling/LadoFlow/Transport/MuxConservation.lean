import LadoFlow.Transport.LinkHistory
import LadoFlow.Transport.MuxOrder

/-!
# What the mux keeps

A worker's calls of `LdflPacketMux::next`, one critical section at a time, among any other calls of
the two endpoints. No packet is lost or doubled between the queues, the two slots and the results,
also when a call returns an error.
-/

namespace LadoFlow.Transport

open LadoFlow.Protocol Framework

/-- What `next` returns. -/
abbrev NextResult := Except LdflStreamError (Option Packet)

/-- A call of `next` in progress. -/
structure MuxCall where
  mux : LdflPacketMux
  point : MuxPoint
  deriving DecidableEq

namespace MuxCall

def start : MuxCall := ⟨.default, .beforeControl⟩

/-- One guarded read; an error makes `next` return. -/
def read (call : MuxCall) (link : Link) (side : Side) (channel : Channel) (following : MuxPoint) :
    MuxCall × Link × Option NextResult :=
  match call.mux.receive link side channel with
  | (.ok (), mux, link) => (⟨mux, following⟩, link, none)
  | (.error error, mux, link) => (⟨mux, .beforeControl⟩, link, some (.error error))

/-- The next critical section of the call. -/
def advance (call : MuxCall) (link : Link) (side : Side) : MuxCall × Link × Option NextResult :=
  match call.point with
  | .beforeControl => call.read link side .control .beforeMedia
  | .beforeMedia => call.read link side .media .beforeSelect
  | .beforeSelect =>
    let (result, mux) := call.mux.select
    (⟨mux, .beforeControl⟩, link, some result)

/-- What a critical section may do to the slots and the queues of the calling endpoint. -/
inductive Effect (call : MuxCall) (link : Link) (side : Side) :
    MuxCall → Link → Option NextResult → Prop
  | passed (point : MuxPoint) : Effect call link side ⟨call.mux, point⟩ link none
  | empty (point : MuxPoint) (channel : Channel) (hslot : call.mux.slot channel = none)
      (hqueue : (link.lane side.other channel).packets = []) :
      Effect call link side ⟨call.mux, point⟩ link none
  | took (point : MuxPoint) (channel : Channel) (packet : Packet) (queue : BoundedQueue)
      (hconnected : link.connected = true) (hslot : call.mux.slot channel = none)
      (hpop : (link.lane side.other channel).pop = (some packet, queue)) :
      Effect call link side ⟨call.mux.setSlot (some packet) channel, point⟩
        (link.setLane queue side.other channel) none
  | failed (error : LdflStreamError) :
      Effect call link side ⟨call.mux, .beforeControl⟩ link (some (.error error))
  | idle (hempty : ∀ channel, call.mux.slot channel = none) :
      Effect call link side ⟨call.mux, .beforeControl⟩ link (some (.ok none))
  | emitted (channel : Channel) (packet : Packet) (sequence : UInt64)
      (hslot : call.mux.slot channel = some packet)
      (hsequence : ldflPacketSequence packet = .ok sequence)
      (hleast : ∀ other, other ≠ channel → ∀ held ∈ call.mux.slot other, Precedes packet held) :
      Effect call link side ⟨call.mux.setSlot none channel, .beforeControl⟩ link
        (some (.ok (some packet)))

variable {call : MuxCall} {link : Link} {side : Side} {channel : Channel}

theorem setSlot_of_slot {mux : LdflPacketMux} {packet : Option Packet}
    (h : mux.slot channel = packet) : mux.setSlot packet channel = mux := by
  subst h
  cases channel <;> rfl

theorem read_effect (channel : Channel) (following : MuxPoint) :
    Effect call link side (call.read link side channel following).1
      (call.read link side channel following).2.1 (call.read link side channel following).2.2 := by
  rw [read, LdflPacketMux.receive]
  cases hslot : call.mux.slot channel with
  | some held => exact .passed following
  | none =>
    simp only [Option.isNone_none, if_true]
    cases hconnected : link.connected with
    | false =>
      rw [Link.tryReceive_disconnected hconnected]
      exact .failed _
    | true =>
      rw [Link.tryReceive_eq hconnected]
      rcases (link.lane side.other channel).pop_cases with ⟨hempty, hpop⟩ | ⟨packet, queue, hpop, _⟩
      · rw [hpop]
        simp only [Link.setLane_lane, setSlot_of_slot hslot]
        exact .empty following channel hslot hempty
      · rw [hpop]
        exact .took following channel packet queue hconnected hslot hpop

/-- Everything a critical section of `next` can do. -/
theorem advance_effect : Effect call link side (call.advance link side).1
    (call.advance link side).2.1 (call.advance link side).2.2 := by
  rw [advance]
  cases call.point with
  | beforeControl => exact read_effect .control .beforeMedia
  | beforeMedia => exact read_effect .media .beforeSelect
  | beforeSelect =>
    simp only
    rcases call.mux.select_cases with ⟨error, hselect⟩ | ⟨hempty, hselect⟩ |
      ⟨channel, packet, sequence, hslot, hsequence, hleast, hselect⟩
    · rw [hselect]
      exact .failed error
    · rw [hselect]
      exact .idle hempty
    · rw [hselect]
      exact .emitted channel packet sequence hslot hsequence hleast

/-- Critical sections in a row until the call returns. -/
def callLoop (side : Side) : Loop (MuxCall × Link) (NextResult × LdflPacketMux × Link) where
  step := fun (call, link) =>
    match call.advance link side with
    | (call, link, none) => .inl (call, link)
    | (call, link, some result) => .inr (result, call.mux, link)
  measure := fun (call, _) =>
    match call.point with
    | .beforeControl => 2
    | .beforeMedia => 1
    | .beforeSelect => 0
  decreases := by
    intro (⟨mux, point⟩, link) next hstep
    cases point with
    | beforeControl =>
      simp only [advance, read] at hstep
      cases hreceive : mux.receive link side .control with
      | mk result rest =>
        rw [hreceive] at hstep
        cases result with
        | error error => cases hstep
        | ok _ =>
          cases hstep
          exact Nat.lt_succ_self 1
    | beforeMedia =>
      simp only [advance, read] at hstep
      cases hreceive : mux.receive link side .media with
      | mk result rest =>
        rw [hreceive] at hstep
        cases result with
        | error error => cases hstep
        | ok _ =>
          cases hstep
          exact Nat.lt_succ_self 0
    | beforeSelect => cases hstep

/-- Undisturbed, the critical sections are one call of `next`. -/
theorem callLoop_run (mux : LdflPacketMux) (link : Link) (side : Side) :
    (callLoop side).run (⟨mux, .beforeControl⟩, link) = mux.next link side := by
  rw [LdflPacketMux.next]
  cases hcontrol : mux.receive link side .control with
  | mk result rest =>
    obtain ⟨mux₁, link₁⟩ := rest
    cases result with
    | error error =>
      apply Loop.run_inr
      simp [callLoop, advance, read, hcontrol]
    | ok _ =>
      have hfirst : (callLoop side).step (⟨mux, .beforeControl⟩, link) =
          .inl (⟨mux₁, .beforeMedia⟩, link₁) := by
        simp [callLoop, advance, read, hcontrol]
      rw [Loop.run_inl _ hfirst]
      simp only
      cases hmedia : mux₁.receive link₁ side .media with
      | mk result rest =>
        obtain ⟨mux₂, link₂⟩ := rest
        cases result with
        | error error =>
          apply Loop.run_inr
          simp [callLoop, advance, read, hmedia]
        | ok _ =>
          have hsecond : (callLoop side).step (⟨mux₁, .beforeMedia⟩, link₁) =
              .inl (⟨mux₂, .beforeSelect⟩, link₂) := by
            simp [callLoop, advance, read, hmedia]
          rw [Loop.run_inl _ hsecond]
          apply Loop.run_inr
          simp [callLoop, advance]

end MuxCall

/-- A packet with a sequence is one frame on its own channel. -/
theorem frame_of_ldflPacketSequence {packet : Packet} {sequence : UInt64}
    (h : ldflPacketSequence packet = .ok sequence) :
    ∃ frame : Frame, packet.payload = frame.encode ∧
      packet.channel = channelForMessage frame.header.kind ∧ frame.header.sequence = sequence := by
  rw [ldflPacketSequence] at h
  cases hdecode : Frame.decodePrefix packet.payload with
  | error error =>
    rw [hdecode] at h
    cases h
  | ok outcome =>
    rw [hdecode] at h
    cases outcome with
    | needMoreData minimum => cases h
    | complete frame consumed =>
      simp only [ne_eq, ite_not] at h
      split at h
      · rename_i hconsumed
        split at h
        · rename_i hchannel
          cases h
          obtain ⟨-, htake⟩ := Frame.decodePrefix_complete hdecode
          refine ⟨frame, ?_, hchannel, rfl⟩
          rw [htake, hconsumed, Packet.len, List.take_length]
        · cases h
      · cases h

/-- The link after a call of an endpoint. -/
def EndpointCall.perform (call : EndpointCall) (link : Link) : Link :=
  match call with
  | .trySend side packet => (link.trySend side packet).2
  | .tryReceive side channel => (link.tryReceive side channel).2
  | .disconnect _ => link.disconnect.2
  | .reconnect _ => link.reconnect.2

theorem BoundedQueue.mem_tryPush {queue : BoundedQueue} {packet queued : Packet}
    (h : queued ∈ (queue.tryPush packet).2.packets) : queued ∈ queue.packets ∨ queued = packet := by
  rcases queue.tryPush_cases packet with ⟨error, hpush⟩ | ⟨report, after, hpush, hpackets⟩
  · rw [hpush] at h
    exact .inl h
  · rw [hpush, hpackets, List.mem_append] at h
    rcases h with hold | hnew
    · exact .inl (List.mem_filter.mp hold).1
    · exact .inr (List.mem_singleton.mp hnew)

theorem BoundedQueue.mem_pop {queue : BoundedQueue} {queued : Packet}
    (h : queued ∈ queue.pop.2.packets) : queued ∈ queue.packets := by
  rcases queue.pop_cases with ⟨_, hpop⟩ | ⟨packet, after, hpop, hpackets⟩
  · rw [hpop] at h
    exact h
  · rw [hpop] at h
    rw [hpackets]
    exact List.mem_cons_of_mem packet h

/-- Every packet of a link is queued on its own channel. -/
def Link.Sorted (link : Link) : Prop :=
  ∀ side channel, ∀ packet ∈ (link.lane side channel).packets, packet.channel = channel

theorem Link.sorted_new (config : LoopbackConfig) : (Link.new config).Sorted := by
  intro side channel packet hpacket
  rw [Link.lane_new] at hpacket
  cases hpacket

theorem Link.Sorted.setLane {link : Link} {queue : BoundedQueue} {side : Side} {channel : Channel}
    (h : link.Sorted) (hqueue : ∀ packet ∈ queue.packets, packet.channel = channel) :
    (link.setLane queue side channel).Sorted := by
  intro other channel' packet hpacket
  by_cases hlane : other = side ∧ channel' = channel
  · obtain ⟨hside, hchannel⟩ := hlane
    subst hside hchannel
    rw [Link.lane_setLane_self] at hpacket
    exact hqueue packet hpacket
  · rw [Link.lane_setLane_ne hlane] at hpacket
    exact h other channel' packet hpacket

theorem EndpointCall.perform_sorted {link : Link} (call : EndpointCall) (h : link.Sorted) :
    (call.perform link).Sorted := by
  cases call with
  | trySend side packet =>
    rw [perform]
    cases hconnected : link.connected with
    | false =>
      rw [Link.trySend_disconnected hconnected]
      exact h
    | true =>
      rw [Link.trySend_eq hconnected]
      apply h.setLane
      intro queued hqueued
      rcases BoundedQueue.mem_tryPush hqueued with hold | hnew
      · exact h _ _ queued hold
      · rw [hnew]
  | tryReceive side channel =>
    rw [perform]
    cases hconnected : link.connected with
    | false =>
      rw [Link.tryReceive_disconnected hconnected]
      exact h
    | true =>
      rw [Link.tryReceive_eq hconnected]
      apply h.setLane
      intro queued hqueued
      exact h _ _ queued (BoundedQueue.mem_pop hqueued)
  | disconnect caller =>
    intro side channel packet hpacket
    rw [perform, Link.disconnect_lane] at hpacket
    cases hpacket
  | reconnect caller =>
    rw [perform]
    cases hconnected : link.connected with
    | true =>
      rw [Link.reconnect_connected hconnected]
      exact h
    | false =>
      intro side channel packet hpacket
      rw [Link.reconnect_lane hconnected] at hpacket
      cases hpacket

inductive MuxTurn where
  | endpoint (call : EndpointCall)
  | advance
  deriving DecidableEq

/-- A worker on the second endpoint, with the slots as its current call began, the packets its calls
took from each queue and the results they returned. -/
structure MuxHistory where
  link : Link
  call : MuxCall
  held : LdflPacketMux
  taken : Channel → List Packet
  returned : List NextResult

namespace MuxHistory

def start (config : LoopbackConfig) : MuxHistory :=
  ⟨.new config, .start, .default, fun _ => [], []⟩

/-- The packets that a read removed from the front of a queue. -/
def removed (before after : BoundedQueue) : List Packet :=
  before.packets.take (before.packets.length - after.packets.length)

/-- The history after a critical section of `next`. -/
def record (s : MuxHistory) (call : MuxCall) (link : Link) (result : Option NextResult) :
    MuxHistory where
  link := link
  call := call
  held := if s.call.point = .beforeControl then s.call.mux else s.held
  taken := fun channel =>
    s.taken channel ++ removed (s.link.lane .first channel) (link.lane .first channel)
  returned := s.returned ++ result.toList

def advance (s : MuxHistory) : MuxHistory :=
  let (call, link, result) := s.call.advance s.link .second
  s.record call link result

/-- Only the worker receives on its endpoint. -/
def machine : Machine MuxHistory MuxTurn where
  step
    | _, .endpoint (.tryReceive .second _) => none
    | s, .endpoint call => some { s with link := call.perform s.link }
    | s, .advance => some s.advance

/-- The packets that the calls returned. -/
def emitted (s : MuxHistory) : List Packet :=
  s.returned.filterMap fun result => result.toOption.join

def emittedOn (s : MuxHistory) (channel : Channel) : List Packet :=
  s.emitted.filter fun packet => packet.channel = channel

/-- One well-formed frame on its own channel. -/
def WellFormed (packet : Packet) : Prop :=
  ∃ frame : Frame, packet.payload = frame.encode ∧
    packet.channel = channelForMessage frame.header.kind

/-- What holds of the worker and the link in every run. -/
structure Invariant (s : MuxHistory) : Prop where
  sorted : s.link.Sorted
  slot_channel : ∀ channel, ∀ packet ∈ s.call.mux.slot channel, packet.channel = channel
  fifo : ∀ channel, s.emittedOn channel ++ (s.call.mux.slot channel).toList = s.taken channel
  wellFormed : ∀ packet ∈ s.emitted, WellFormed packet
  kept : s.call.point ≠ .beforeControl →
    ∀ channel packet, s.held.slot channel = some packet → s.call.mux.slot channel = some packet

variable {s t : MuxHistory} {channel : Channel}

theorem invariant_start (config : LoopbackConfig) : Invariant (start config) := by
  constructor
  · exact Link.sorted_new config
  · intro channel packet hpacket
    cases channel <;> cases hpacket
  · intro channel
    cases channel <;> rfl
  · intro packet hpacket
    cases hpacket
  · intro hpoint
    exact absurd rfl hpoint

@[simp] theorem removed_self (queue : BoundedQueue) : removed queue queue = [] := by
  simp [removed]

theorem removed_pop {before after : BoundedQueue} {packet : Packet}
    (h : before.pop = (some packet, after)) : removed before after = [packet] := by
  rcases before.pop_cases with ⟨_, hnone⟩ | ⟨_, _, hsome, hcons⟩
  · rw [h] at hnone
    cases hnone
  · rw [h] at hsome
    cases hsome
    rw [removed, hcons]
    simp

theorem emitted_record (call : MuxCall) (link : Link) (result : Option NextResult) :
    (s.record call link result).emitted =
      s.emitted ++ (result.bind fun result => result.toOption.join).toList := by
  rw [emitted, record, List.filterMap_append]
  cases result with
  | none => rfl
  | some result =>
    cases result with
    | error error => rfl
    | ok packet => cases packet <;> rfl

theorem Invariant.endpoint (h : Invariant s) (call : EndpointCall) :
    Invariant { s with link := call.perform s.link } :=
  ⟨call.perform_sorted h.sorted, h.slot_channel, h.fifo, h.wellFormed, h.kept⟩

/-- The slots as the call began are still full before its critical sections. -/
theorem Invariant.kept_record (h : Invariant s) (call : MuxCall) (link : Link)
    (result : Option NextResult) {packet : Packet}
    (hheld : (s.record call link result).held.slot channel = some packet) :
    s.call.mux.slot channel = some packet := by
  simp only [record] at hheld
  split at hheld
  · exact hheld
  · rename_i hpoint
    exact h.kept hpoint channel packet hheld

/-- A critical section that leaves slots and queues alone. -/
theorem Invariant.quiet (h : Invariant s) (point : MuxPoint) (result : Option NextResult)
    (hresult : (result.bind fun result => result.toOption.join) = none) :
    Invariant (s.record ⟨s.call.mux, point⟩ s.link result) := by
  have hemitted : (s.record ⟨s.call.mux, point⟩ s.link result).emitted = s.emitted := by
    rw [emitted_record, hresult]
    simp
  refine ⟨h.sorted, h.slot_channel, ?_, ?_, fun _ _ _ => h.kept_record _ _ _⟩
  · intro channel
    rw [emittedOn, hemitted, record]
    simp only [removed_self, List.append_nil]
    exact h.fifo channel
  · rw [hemitted]
    exact h.wellFormed

theorem Invariant.took (h : Invariant s) (point : MuxPoint) {packet : Packet}
    {queue : BoundedQueue} (hslot : s.call.mux.slot channel = none)
    (hpop : (s.link.lane .first channel).pop = (some packet, queue)) :
    Invariant (s.record ⟨s.call.mux.setSlot (some packet) channel, point⟩
      (s.link.setLane queue .first channel) none) := by
  have hqueue : (s.link.lane .first channel).packets = packet :: queue.packets := by
    rcases (s.link.lane .first channel).pop_cases with ⟨_, hnone⟩ | ⟨_, _, hsome, hcons⟩
    · cases hpop.symm.trans hnone
    · cases hpop.symm.trans hsome
      exact hcons
  have hsorted := h.sorted .first channel
  rw [hqueue] at hsorted
  have hemitted : (s.record ⟨s.call.mux.setSlot (some packet) channel, point⟩
      (s.link.setLane queue .first channel) none).emitted = s.emitted := by
    rw [emitted_record]
    simp
  refine ⟨?_, ?_, ?_, ?_, ?_⟩
  · apply h.sorted.setLane
    intro queued hqueued
    exact hsorted queued (List.mem_cons_of_mem packet hqueued)
  · intro other held hother
    by_cases hchannel : other = channel
    · subst hchannel
      rw [record, LdflPacketMux.slot_setSlot] at hother
      cases hother
      exact hsorted packet List.mem_cons_self
    · rw [record, LdflPacketMux.slot_setSlot_ne _ _ hchannel] at hother
      exact h.slot_channel other held hother
  · intro other
    have hfifo := h.fifo other
    rw [emittedOn, hemitted]
    by_cases hchannel : other = channel
    · subst hchannel
      rw [hslot] at hfifo
      simp only [Option.toList_none, List.append_nil] at hfifo
      simp only [record, LdflPacketMux.slot_setSlot, Link.lane_setLane_self, removed_pop hpop,
        Option.toList_some, ← hfifo]
      rfl
    · have hlane : ¬(Side.first = Side.first ∧ other = channel) := fun hboth => hchannel hboth.2
      simp only [record, LdflPacketMux.slot_setSlot_ne _ _ hchannel, Link.lane_setLane_ne hlane,
        removed_self, List.append_nil]
      exact hfifo
  · rw [hemitted]
    exact h.wellFormed
  · intro _ other held hother
    have hkept := h.kept_record _ _ _ hother
    by_cases hchannel : other = channel
    · subst hchannel
      rw [hslot] at hkept
      cases hkept
    · rw [record, LdflPacketMux.slot_setSlot_ne _ _ hchannel]
      exact hkept

theorem Invariant.emit (h : Invariant s) {packet : Packet} {sequence : UInt64}
    (hslot : s.call.mux.slot channel = some packet)
    (hsequence : ldflPacketSequence packet = .ok sequence) :
    Invariant (s.record ⟨s.call.mux.setSlot none channel, .beforeControl⟩ s.link
      (some (.ok (some packet)))) := by
  have hchannel := h.slot_channel channel packet hslot
  have hemitted : (s.record ⟨s.call.mux.setSlot none channel, .beforeControl⟩ s.link
      (some (.ok (some packet)))).emitted = s.emitted ++ [packet] := by
    rw [emitted_record]
    rfl
  refine ⟨h.sorted, ?_, ?_, ?_, fun hpoint => absurd rfl hpoint⟩
  · intro other held hother
    by_cases hsame : other = channel
    · subst hsame
      rw [record, LdflPacketMux.slot_setSlot] at hother
      cases hother
    · rw [record, LdflPacketMux.slot_setSlot_ne _ _ hsame] at hother
      exact h.slot_channel other held hother
  · intro other
    have hfifo := h.fifo other
    rw [emittedOn, hemitted, List.filter_append]
    simp only [record, removed_self, List.append_nil]
    rw [← hfifo, emittedOn]
    by_cases hsame : other = channel
    · subst hsame
      rw [LdflPacketMux.slot_setSlot, hslot]
      simp [hchannel]
    · have hdifferent : ¬packet.channel = other := fun heq => hsame (heq.symm.trans hchannel)
      rw [LdflPacketMux.slot_setSlot_ne _ _ hsame]
      simp [hdifferent]
  · intro emittedPacket hmem
    rw [hemitted, List.mem_append] at hmem
    rcases hmem with hold | hnew
    · exact h.wellFormed emittedPacket hold
    · obtain ⟨frame, hpayload, hframe, -⟩ := frame_of_ldflPacketSequence hsequence
      rw [List.mem_singleton.mp hnew]
      exact ⟨frame, hpayload, hframe⟩

theorem Invariant.advance (h : Invariant s) : Invariant s.advance := by
  have heffect : s.call.Effect s.link .second _ _ _ := MuxCall.advance_effect
  rw [MuxHistory.advance]
  cases hadvance : s.call.advance s.link .second with
  | mk call rest =>
    obtain ⟨link, result⟩ := rest
    rw [hadvance] at heffect
    simp only at heffect ⊢
    cases heffect with
    | passed point => exact h.quiet point none rfl
    | empty point channel _ _ => exact h.quiet point none rfl
    | failed error => exact h.quiet .beforeControl (some (.error error)) rfl
    | idle _ => exact h.quiet .beforeControl (some (.ok none)) rfl
    | took point channel packet queue _ hslot hpop => exact h.took point hslot hpop
    | emitted channel packet sequence hslot hsequence _ => exact h.emit hslot hsequence

theorem Invariant.preserved {turn : MuxTurn} (h : Invariant s)
    (hstep : machine.step s turn = some t) : Invariant t := by
  cases turn with
  | advance =>
    cases hstep
    exact h.advance
  | endpoint call =>
    cases call with
    | tryReceive side channel =>
      cases side with
      | first =>
        cases hstep
        exact h.endpoint (.tryReceive .first channel)
      | second => cases hstep
    | trySend side packet =>
      cases hstep
      exact h.endpoint (.trySend side packet)
    | disconnect side =>
      cases hstep
      exact h.endpoint (.disconnect side)
    | reconnect side =>
      cases hstep
      exact h.endpoint (.reconnect side)

/-- A critical section that returns an error leaves both slots as they were. -/
theorem advance_error {error : LdflStreamError}
    (herror : s.advance.returned = s.returned ++ [.error error]) :
    s.advance.emitted = s.emitted ∧ s.advance.call.mux = s.call.mux := by
  have heffect : s.call.Effect s.link .second _ _ _ := MuxCall.advance_effect
  rw [MuxHistory.advance] at herror ⊢
  cases hadvance : s.call.advance s.link .second with
  | mk call rest =>
    obtain ⟨link, result⟩ := rest
    rw [hadvance] at heffect herror
    simp only [record, List.append_cancel_left_eq] at heffect herror ⊢
    cases heffect with
    | failed error' =>
      refine ⟨?_, rfl⟩
      simp [emitted, Except.toOption]
    | passed => cases herror
    | empty => cases herror
    | took => cases herror
    | idle => cases herror
    | emitted => cases herror

/-- Of two held frames with different sequences the one with the smaller sequence is returned. -/
theorem advance_least {control media : Packet} {a b : UInt64}
    (hpoint : s.call.point = .beforeSelect) (hcontrol : s.call.mux.control = some control)
    (hmedia : s.call.mux.media = some media) (ha : ldflPacketSequence control = .ok a)
    (hb : ldflPacketSequence media = .ok b) (hne : a ≠ b) :
    s.advance.returned = s.returned ++ [.ok (some (if a < b then control else media))] := by
  simp only [MuxHistory.advance, MuxCall.advance, hpoint, LdflPacketMux.select, hcontrol, hmedia, ha,
    hb, hne, if_false, record]
  by_cases hlt : a < b
  · simp [hlt]
  · simp [hlt]

/-- In every interleaving of the worker's calls of `next` with the other calls of both endpoints: the
packets returned for a channel and the one held for it are the packets taken from its queue; a call
that fails returns nothing and keeps what it held; every returned packet is one frame on its own
channel; and of two held frames the one with the smaller sequence is returned. -/
theorem mux_conserves (config : LoopbackConfig) {turns : List MuxTurn} {s : MuxHistory}
    (hrun : machine.run (start config) turns = some s) :
    (∀ channel, s.emittedOn channel ++ (s.call.mux.slot channel).toList = s.taken channel) ∧
    (∀ packet ∈ s.emitted, WellFormed packet) ∧
    (∀ error, s.advance.returned = s.returned ++ [.error error] →
      s.advance.emitted = s.emitted ∧ ∀ channel packet,
        s.call.mux.slot channel = some packet ∨ s.advance.held.slot channel = some packet →
          s.advance.call.mux.slot channel = some packet) ∧
    ∀ control media a b, s.call.point = .beforeSelect → s.call.mux.control = some control →
      s.call.mux.media = some media → ldflPacketSequence control = .ok a →
      ldflPacketSequence media = .ok b → a ≠ b →
      s.advance.returned = s.returned ++ [.ok (some (if a < b then control else media))] := by
  have h : Invariant s := machine.run_invariant Invariant
    (fun _ _ _ h hstep => h.preserved hstep) (invariant_start config) hrun
  refine ⟨h.fifo, h.wellFormed, ?_, fun _ _ _ _ => advance_least⟩
  intro error herror
  obtain ⟨hemitted, hmux⟩ := advance_error herror
  refine ⟨hemitted, ?_⟩
  intro channel packet hheld
  rw [hmux]
  rcases hheld with hheld | hheld
  · exact hheld
  · exact h.kept_record _ _ _ hheld

/-- The link is disconnected between the two reads of a call, which keeps the packet it holds for the
first call after the reconnect. -/
private def interruptedCall : List MuxTurn :=
  [.endpoint (.trySend .first (packetFromFrame (.empty .pong 3))), .advance,
    .endpoint (.disconnect .second), .advance, .endpoint (.reconnect .second),
    .advance, .advance, .advance]

theorem mux_conserves_interrupted :
    ∃ s, machine.run (start .default) interruptedCall = some s ∧
      s.returned = [.error (.queueDisconnected .media),
        .ok (some (packetFromFrame (.empty .pong 3)))] ∧
      s.emittedOn .control ++ (s.call.mux.slot .control).toList = s.taken .control := by
  refine ⟨_, rfl, by decide +kernel, ?_⟩
  exact (mux_conserves .default
    (rfl : machine.run (start .default) interruptedCall = some _)).1 .control

end MuxHistory

end LadoFlow.Transport
