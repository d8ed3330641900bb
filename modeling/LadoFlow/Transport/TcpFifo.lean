import LadoFlow.Transport.TcpInbound

/-!
# Two TCP endpoints

The outbound direction of the worker, and two workers whose sockets are connected. Packets without a
key arrive on each channel in the order in which they were accepted, whatever the sockets and the
schedule do.
-/

namespace LadoFlow.Transport

open LadoFlow.Protocol Framework

/-- The part of a packet that is written. -/
def PendingWrite.written (pending : PendingWrite) : Bytes :=
  pending.packet.payload.take pending.offset

/-- What was written is the completed packets and, to its exact offset, the pending one. -/
structure Writes (outgoing : Option PendingWrite) (completed : List Packet)
    (ledger : StreamLedger) : Prop where
  emitted : ledger.emitted = completed ++ (outgoing.map PendingWrite.packet).toList
  sent : ledger.sent = completed.flatMap Packet.payload ++
    outgoing.toList.flatMap PendingWrite.written
  offset : ∀ pending ∈ outgoing, pending.offset < pending.packet.len

namespace TcpPacketTransport

/-- The outbound direction of the worker and its ledger. -/
structure Sends (transport : TcpPacketTransport) (ledger : StreamLedger) : Prop where
  connected : (∀ result, transport.point ≠ .stopped result) → transport.link.connected = true
  lines : Lines transport.link transport.call.mux
  emits : Emits transport.link transport.call.mux ledger
  frames : ∀ packet ∈ ledger.emitted, FromFrame packet
  idle : transport.point = .next → transport.outgoing = none
  bytesWritten : transport.status.bytesWritten = min ledger.sent.length (2 ^ 64 - 1)
  writes : ∃ completed, Writes transport.outgoing completed ledger ∧
    transport.status.framesWritten = min completed.length (2 ^ 64 - 1)

theorem sends_start : Sends start .empty where
  connected := fun _ => rfl
  lines := lines_new _
  emits := emits_new _
  frames := by simp [StreamLedger.empty]
  idle := fun _ => rfl
  bytesWritten := rfl
  writes := ⟨[], ⟨rfl, rfl, by simp [start]⟩, rfl⟩

end TcpPacketTransport

/-- Two ledgers that agree on the outbound direction. -/
structure StreamLedger.SameOutbound (ledger ledger' : StreamLedger) : Prop where
  accepted : ledger'.accepted = ledger.accepted
  emitted : ledger'.emitted = ledger.emitted
  sent : ledger'.sent = ledger.sent

namespace TcpPacketTransport

variable {transport : TcpPacketTransport} {ledger ledger' : StreamLedger}

theorem Sends.sameLedger (h : Sends transport ledger) (hsame : ledger.SameOutbound ledger') :
    Sends transport ledger' := by
  obtain ⟨completed, hwrites, hcount⟩ := h.writes
  obtain ⟨haccepted, hemitted, hsent⟩ := hsame
  refine ⟨h.connected, h.lines, ⟨?_, ?_⟩, ?_, h.idle, ?_, completed, ⟨?_, ?_, hwrites.offset⟩, hcount⟩
  · rw [haccepted, hemitted]
    exact h.emits.emitted
  · rw [haccepted, hemitted]
    exact h.emits.exact
  · rw [hemitted]
    exact h.frames
  · rw [hsent]
    exact h.bytesWritten
  · rw [hemitted]
    exact hwrites.emitted
  · rw [hsent]
    exact hwrites.sent

/-- A step of the inbound direction. -/
structure Inward (transport after : TcpPacketTransport) : Prop where
  connected : after.link.connected = transport.link.connected
  lanes : ∀ channel, after.link.lane .first channel = transport.link.lane .first channel
  mux : after.call.mux = transport.call.mux
  outgoing : after.outgoing = transport.outgoing
  bytesWritten : after.status.bytesWritten = transport.status.bytesWritten
  framesWritten : after.status.framesWritten = transport.status.framesWritten
  idle : after.point = .next → after.outgoing = none

theorem Sends.inward {after : TcpPacketTransport} (h : Sends transport ledger)
    (hrunning : ∀ result, transport.point ≠ .stopped result) (hin : Inward transport after) :
    Sends after ledger where
  connected := fun _ => hin.connected.trans (h.connected hrunning)
  lines := by
    rw [hin.mux]
    exact h.lines.relink hin.lanes
  emits := by
    rw [hin.mux]
    exact h.emits.relink (fun hlink => hin.connected.symm.trans hlink) hin.lanes
  frames := h.frames
  idle := hin.idle
  bytesWritten := by
    rw [hin.bytesWritten]
    exact h.bytesWritten
  writes := by
    rw [hin.outgoing, hin.framesWritten]
    exact h.writes

theorem Sends.finish (h : Sends transport ledger) (result : Except TcpStreamError Unit) :
    Sends (transport.finish result) ledger where
  connected := fun hrunning => absurd rfl (hrunning result)
  lines := h.lines.stop
  emits := h.emits.stop
  frames := h.frames
  idle := by simp [TcpPacketTransport.finish]
  bytesWritten := h.bytesWritten
  writes := h.writes

theorem Sends.trySend (h : Sends transport ledger) {packet : Packet} {report : SendReport}
    {link : Link} (hkey : packet.supersessionKey = none)
    (hsend : transport.link.trySend .first packet = (.ok report, link)) :
    Sends { transport with link } (ledger.apply (.accepted packet)) := by
  obtain ⟨completed, hwrites, hcount⟩ := h.writes
  have hconnected := (transport.link.trySend_frame .first packet).1
  rw [hsend] at hconnected
  exact
    { connected := fun hrunning => hconnected.trans (h.connected hrunning)
      lines := h.lines.accept hkey hsend
      emits := h.emits.accept hkey hsend
      frames := h.frames
      idle := h.idle
      bytesWritten := h.bytesWritten
      writes := ⟨completed, ⟨hwrites.emitted, hwrites.sent, hwrites.offset⟩, hcount⟩ }

theorem Sends.next (h : Sends transport ledger) (hpoint : transport.point = .next) :
    Sends transport.next.1 (ledger.apply transport.next.2) := by
  have hrunning := running_of_point hpoint (by simp)
  have hconnected := h.connected hrunning
  have hidle := h.idle hpoint
  have heffect : transport.call.Effect transport.link .second _ _ _ := MuxCall.advance_effect
  rw [next_event, TcpPacketTransport.next]
  cases hadvance : transport.call.advance transport.link .second with
  | mk call rest =>
    obtain ⟨link, result⟩ := rest
    rw [hadvance] at heffect
    obtain ⟨hlines, hemits, hlink, -, hframe⟩ := heffect.moves hconnected h.lines h.emits
    simp only at hlines hemits hframe ⊢
    have hmoved : ledger.apply (MuxCall.event result) = ledger → ∀ point,
        (point = .next → transport.outgoing = none) →
        Sends { transport with call, link, point } ledger := by
      intro hsilent point hpoint
      rw [hsilent] at hemits
      exact
        { connected := fun _ => hlink.trans hconnected
          lines := hlines
          emits := hemits
          frames := h.frames
          idle := hpoint
          bytesWritten := h.bytesWritten
          writes := h.writes }
    cases result with
    | none => exact hmoved rfl transport.point h.idle
    | some result =>
      cases result with
      | error error => exact (hmoved rfl transport.point h.idle).finish _
      | ok packet =>
        cases packet with
        | none => exact hmoved rfl _ fun _ => hidle
        | some packet =>
          obtain ⟨completed, hwrites, hcount⟩ := h.writes
          have hemitted := hwrites.emitted
          have hsent := hwrites.sent
          rw [hidle] at hemitted hsent
          simp only [Option.map_none, Option.toList_none, List.flatMap_nil,
            List.append_nil] at hemitted hsent
          obtain ⟨frame, hpacket⟩ := hframe packet rfl
          refine
            { connected := fun _ => hlink.trans hconnected
              lines := hlines
              emits := hemits
              frames := ?_
              idle := by simp
              bytesWritten := h.bytesWritten
              writes := ⟨completed, ⟨?_, ?_, ?_⟩, hcount⟩ }
          · intro emitted hmem
            rcases List.mem_append.mp hmem with hold | hnew
            · exact h.frames emitted hold
            · rw [List.mem_singleton.mp hnew]
              exact ⟨frame, hpacket⟩
          · show ledger.emitted ++ [packet] = completed ++ [packet]
            rw [hemitted]
          · simp [MuxCall.event, StreamLedger.apply, hsent, PendingWrite.written]
          · intro pending hpending
            cases hpending
            rw [Packet.len, hpacket, packetFromFrame_payload]
            exact List.length_pos_iff.mpr frame.encode_ne_nil

/-- The slice of a write starts at the offset. -/
theorem take_chunk {pending : PendingWrite} {written : Nat}
    (hwritten : written ≤ pending.chunk.length) :
    pending.offset + written ≤ max pending.offset pending.packet.len ∧
      pending.written ++ pending.chunk.take written =
        pending.packet.payload.take (pending.offset + written) := by
  rw [PendingWrite.chunk] at hwritten ⊢
  simp only [List.length_drop, List.length_take, Packet.len] at hwritten ⊢
  refine ⟨by omega, ?_⟩
  rw [List.drop_take, List.take_take, PendingWrite.written, List.take_add, Nat.min_eq_left]
  omega

/-- A packet that is written on from its offset is either still pending or complete. -/
theorem sends_afterPending {completed : List Packet} {pending : PendingWrite}
    (hconnected : transport.link.connected = true) (hlines : Lines transport.link transport.call.mux)
    (hemits : Emits transport.link transport.call.mux ledger)
    (hframes : ∀ packet ∈ ledger.emitted, FromFrame packet)
    (hbytes : transport.status.bytesWritten = min ledger.sent.length (2 ^ 64 - 1))
    (hemitted : ledger.emitted = completed ++ [pending.packet])
    (hsent : ledger.sent = completed.flatMap Packet.payload ++ pending.written)
    (hoffset : pending.offset ≤ pending.packet.len)
    (hcount : transport.status.framesWritten = min completed.length (2 ^ 64 - 1)) :
    Sends (transport.afterPending pending) ledger := by
  have hpoint : ∀ outgoing, transport.afterWrite = .next → outgoing = (none : Option PendingWrite) := by
    intro outgoing
    rw [afterWrite]
    split <;> simp
  rw [TcpPacketTransport.afterPending]
  split
  · rename_i hcomplete
    refine
      { connected := fun _ => hconnected
        lines := hlines
        emits := hemits
        frames := hframes
        idle := fun _ => rfl
        bytesWritten := hbytes
        writes := ⟨completed ++ [pending.packet], ⟨?_, ?_, (by simp)⟩, ?_⟩ }
    · simp [hemitted]
    · rw [hsent, PendingWrite.written, hcomplete, Packet.len, List.take_length]
      simp
    · rw [List.length_append]
      exact min_saturatingAddU64 hcount
  · rename_i hpending
    refine
      { connected := fun _ => hconnected
        lines := hlines
        emits := hemits
        frames := hframes
        idle := hpoint _
        bytesWritten := hbytes
        writes := ⟨completed, ⟨?_, ?_, ?_⟩, hcount⟩ }
    · simp [hemitted]
    · simp [hsent]
    · intro other hother
      cases hother
      omega

theorem Sends.writePending (h : Sends transport ledger) (hpoint : transport.point = .write)
    {pending : PendingWrite} (houtgoing : transport.outgoing = some pending) {result : IoResult Nat}
    (hsize : ∀ written ∈ result.value, written ≤ pending.chunk.length) :
    Sends (transport.writePending pending result).1
      (ledger.apply (transport.writePending pending result).2) := by
  have hconnected := h.connected (running_of_point hpoint (by simp))
  obtain ⟨completed, hwrites, hcount⟩ := h.writes
  have hemitted := hwrites.emitted
  have hsent := hwrites.sent
  have hoffset := hwrites.offset pending houtgoing
  rw [houtgoing] at hemitted hsent
  simp only [Option.map_some, Option.toList_some, List.flatMap_cons, List.flatMap_nil,
    List.append_nil] at hemitted hsent
  have hstay : Sends (transport.afterPending pending) ledger :=
    sends_afterPending hconnected h.lines h.emits h.frames h.bytesWritten hemitted hsent
      (Nat.le_of_lt hoffset) hcount
  cases result with
  | wouldBlock => exact hstay
  | interrupted => exact hstay
  | failed => exact h.finish _
  | ok written =>
    cases written with
    | zero => exact h.finish _
    | succ written =>
      have hwritten := hsize (written + 1) rfl
      obtain ⟨hbound, hbytes⟩ := take_chunk hwritten
      have hframe := h.frames pending.packet (by rw [hemitted]; simp)
      have hlength := hframe.len_le
      have hlimit : (tcpQueueConfig.limits pending.packet.channel).maxPacketBytes ≤ usizeMax := by
        cases pending.packet.channel <;> decide
      have hadd : saturatingAdd pending.offset (written + 1) = pending.offset + (written + 1) := by
        rw [saturatingAdd]
        omega
      simp only [TcpPacketTransport.writePending, hadd]
      refine sends_afterPending hconnected h.lines ⟨h.emits.emitted, h.emits.exact⟩ h.frames ?_
        hemitted ?_ (by simp only; omega) hcount
      · simp only [StreamLedger.apply, List.length_append, List.length_take]
        rw [Nat.min_eq_left hwritten]
        exact min_saturatingAddU64 h.bytesWritten
      · simp only [StreamLedger.apply]
        rw [hsent, List.append_assoc, hbytes]
        rfl

theorem Sends.drainInbound (h : Sends transport ledger) (hpoint : transport.point = .drain) :
    Sends transport.drainInbound ledger := by
  have hrunning := running_of_point hpoint (by simp)
  have hidle : transport.point = .next → transport.outgoing = none := by
    rw [hpoint]
    simp
  rcases transport.drainInbound_cases with ⟨_, hdrain⟩ |
    ⟨packet, waiting, report, link, hinbound, hsend, hdrain⟩ |
    ⟨packet, waiting, error, hinbound, hsend, hfull, hdrain⟩
  · have hidle' : transport.afterDrain = .next → transport.outgoing = none := by
      rw [afterDrain]
      split
      · rename_i hnone
        intro _
        exact Option.isNone_iff_eq_none.mp hnone
      · simp
    have hin : Inward transport { transport with point := transport.afterDrain } :=
      ⟨rfl, fun _ => rfl, rfl, rfl, rfl, rfl, hidle'⟩
    rw [hdrain]
    exact h.inward hrunning hin
  · obtain ⟨hlink, hlanes⟩ := transport.link.trySend_frame .second packet
    rw [hsend] at hlink hlanes
    rw [hdrain]
    exact h.inward hrunning ⟨hlink, fun channel => hlanes .first channel (by simp), rfl, rfl, rfl, rfl,
      hidle⟩
  · have hin : Inward transport { transport with inbound := waiting } :=
      ⟨rfl, fun _ => rfl, rfl, rfl, rfl, rfl, hidle⟩
    rw [hdrain]
    exact (h.inward hrunning hin).finish _

theorem Sends.read (h : Sends transport ledger) (hpoint : transport.point = .read)
    (result : IoResult Bytes) :
    Sends (transport.read result).1 (ledger.apply (transport.read result).2) := by
  have hrunning := running_of_point hpoint (by simp)
  have hloop : Inward transport { transport with point := .loopHead } :=
    ⟨rfl, fun _ => rfl, rfl, rfl, rfl, rfl, (by simp)⟩
  cases result with
  | wouldBlock => exact h.inward hrunning hloop
  | interrupted => exact h.inward hrunning hloop
  | failed => exact h.finish _
  | ok bytes =>
    cases bytes with
    | nil => exact h.finish _
    | cons byte bytes =>
      have hconsumed : ∀ packets, ledger.SameOutbound
          (ledger.apply (.consumed (byte :: bytes) packets)) := fun _ => ⟨rfl, rfl, rfl⟩
      rw [TcpPacketTransport.read]
      · cases hpush : transport.decoder.push (byte :: bytes) with
        | mk decoder result =>
          cases result with
          | error error =>
            have hkept : Sends { transport with decoder } ledger :=
              h.inward hrunning ⟨rfl, fun _ => rfl, rfl, rfl, rfl, rfl, h.idle⟩
            exact (hkept.finish _).sameLedger (hconsumed [])
          | ok packets =>
            have hread : Inward transport
                { transport with
                  decoder
                  status := transport.status.countRead (byte :: bytes).length packets.length
                  inbound := transport.inbound ++ packets
                  point := .loopHead } :=
              ⟨rfl, fun _ => rfl, rfl, rfl, rfl, rfl, (by simp)⟩
            exact (h.inward hrunning hread).sameLedger (hconsumed packets)
      · simp

end TcpPacketTransport

namespace TcpHistory

/-- The application's packets have no supersession key. -/
def SendsUnkeyed (_ : TcpHistory) : TcpTurn → Prop
  | .trySend packet => packet.supersessionKey = none
  | _ => True

def Sends (s : TcpHistory) : Prop := s.transport.Sends s.ledger

theorem sends_step {s t : TcpHistory} {turn : TcpTurn} (h : s.Sends) (hunkeyed : s.SendsUnkeyed turn)
    (hstep : s.step turn = some t) : t.Sends := by
  have hsends : s.transport.Sends s.ledger := h
  obtain ⟨transport, ledger⟩ := t
  obtain ⟨event, hturned, hledger⟩ := step_turned hstep
  simp only at hturned hledger
  subst hledger
  show transport.Sends _
  cases hturned with
  | accepted packet report link hsend => exact hsends.trySend hunkeyed hsend
  | refused packet => exact hsends
  | received channel packet link hreceive =>
    obtain ⟨hconnected, hlanes⟩ := s.transport.link.tryReceive_frame .first channel
    rw [hreceive] at hconnected hlanes
    have hlinked : TcpPacketTransport.Sends { s.transport with link } s.ledger :=
      { connected := fun hrunning => hconnected.trans (hsends.connected hrunning)
        lines := hsends.lines.relink fun channel => hlanes .first channel (by simp)
        emits := hsends.emits.relink (fun hlink => hconnected.symm.trans hlink) fun channel =>
          hlanes .first channel (by simp)
        frames := hsends.frames
        idle := hsends.idle
        bytesWritten := hsends.bytesWritten
        writes := hsends.writes }
    exact hlinked.sameLedger ⟨rfl, rfl, rfl⟩
  | nothing channel => exact hsends
  | shutdown =>
    exact ⟨hsends.connected, hsends.lines, hsends.emits, hsends.frames, hsends.idle,
      hsends.bytesWritten, hsends.writes⟩
  | checkCancel hpoint =>
    simp only [TcpPacketTransport.checkCancel]
    split
    · exact hsends.finish _
    · exact hsends.inward (TcpPacketTransport.running_of_point hpoint (by simp))
        ⟨rfl, fun _ => rfl, rfl, rfl, rfl, rfl, (by simp)⟩
  | drainInbound hpoint => exact hsends.drainInbound hpoint
  | next hpoint => exact hsends.next hpoint
  | writePending hpoint pending houtgoing result hsize =>
    exact hsends.writePending hpoint houtgoing hsize
  | read hpoint result _ => exact hsends.read hpoint result

end TcpHistory

/-- The mux finds nothing wrong with frames of different sequences on a connected link. -/
theorem MuxCall.advance_ne_error {call : MuxCall} {link : Link} {side : Side}
    (hconnected : link.connected = true)
    (hvalid : ∀ channel, ∀ packet ∈ call.mux.slot channel,
      ∃ sequence, ldflPacketSequence packet = .ok sequence)
    (hdistinct : ∀ control ∈ call.mux.control, ∀ media ∈ call.mux.media,
      ldflPacketSequence control ≠ ldflPacketSequence media) (error : LdflStreamError) :
    (call.advance link side).2.2 ≠ some (.error error) := by
  have hread : ∀ channel point, (call.read link side channel point).2.2 = none := by
    intro channel point
    rw [read, LdflPacketMux.receive]
    cases call.mux.slot channel with
    | some held => rfl
    | none =>
      simp only [Option.isNone_none, if_true]
      rw [Link.tryReceive_eq hconnected]
  rw [advance]
  cases call.point with
  | beforeControl =>
    simp only [hread]
    simp
  | beforeMedia =>
    simp only [hread]
    simp
  | beforeSelect =>
    simp only [LdflPacketMux.select]
    cases hcontrol : call.mux.control with
    | none =>
      cases hmedia : call.mux.media with
      | none => simp
      | some media =>
        obtain ⟨sequence, hsequence⟩ := hvalid .media media hmedia
        simp only [hsequence]
        simp
    | some control =>
      obtain ⟨sequence, hsequence⟩ := hvalid .control control hcontrol
      cases hmedia : call.mux.media with
      | none =>
        simp only [hsequence]
        simp
      | some media =>
        obtain ⟨sequence', hsequence'⟩ := hvalid .media media hmedia
        have hne := hdistinct control hcontrol media hmedia
        rw [hsequence, hsequence', ne_eq, Except.ok.injEq] at hne
        simp only [hsequence, hsequence', hne, if_false]
        split <;> simp

namespace TcpHistory

/-- The application's packets have no supersession key, and each is one frame on its own channel with
a sequence that no accepted packet has. -/
def SendsFrames (s : TcpHistory) : TcpTurn → Prop
  | .trySend packet => packet.supersessionKey = none ∧
    ∃ sequence ∈ (ldflPacketSequence packet).toOption,
      ∀ earlier ∈ s.ledger.accepted, ldflPacketSequence earlier ≠ .ok sequence
  | _ => True

theorem SendsFrames.sendsUnkeyed {s : TcpHistory} {turn : TcpTurn} (h : s.SendsFrames turn) :
    s.SendsUnkeyed turn := by
  cases turn with
  | trySend packet => exact h.1
  | _ => trivial

/-- Frames of different sequences do not stop the worker. -/
structure Sequenced (s : TcpHistory) : Prop where
  valid : ∀ packet ∈ s.ledger.accepted, ∃ sequence, ldflPacketSequence packet = .ok sequence
  distinct : s.ledger.accepted.Pairwise fun earlier later =>
    ldflPacketSequence earlier ≠ ldflPacketSequence later
  queue_valid : ∀ error, s.transport.point ≠ .stopped (.error (.outboundQueueInvalid error))

theorem sequenced_start : start.Sequenced where
  valid := by simp [start, StreamLedger.empty]
  distinct := .nil
  queue_valid := by simp [start, TcpPacketTransport.start]

theorem Sequenced.next {s : TcpHistory} (h : s.Sequenced) (hsends : s.Sends)
    (hpoint : s.transport.point = .next) (error : LdflStreamError) :
    s.transport.next.1.point ≠ .stopped (.error (.outboundQueueInvalid error)) := by
  have hconnected := hsends.connected (TcpPacketTransport.running_of_point hpoint (by simp))
  have haccepted : ∀ channel, ∀ packet ∈ s.transport.call.mux.slot channel,
      packet ∈ s.ledger.accepted := by
    intro channel packet hpacket
    have hline : packet ∈ onChannel channel s.ledger.accepted := by
      rw [← hsends.emits.exact hconnected channel]
      rw [Option.mem_def] at hpacket
      simp [hpacket]
    exact (List.mem_filter.mp hline).1
  have hvalid : ∀ channel, ∀ packet ∈ s.transport.call.mux.slot channel,
      ∃ sequence, ldflPacketSequence packet = .ok sequence :=
    fun channel packet hpacket => h.valid packet (haccepted channel packet hpacket)
  have hdistinct : ∀ control ∈ s.transport.call.mux.control, ∀ media ∈ s.transport.call.mux.media,
      ldflPacketSequence control ≠ ldflPacketSequence media := by
    intro control hcontrol media hmedia
    have hchannel := (hsends.lines.held .control control hcontrol).1
    have hchannel' := (hsends.lines.held .media media hmedia).1
    have hne : control ≠ media := by
      intro hsame
      rw [hsame, hchannel'] at hchannel
      cases hchannel
    have hsymm : Std.Symm fun earlier later : Packet =>
        ldflPacketSequence earlier ≠ ldflPacketSequence later := ⟨fun _ _ hpair => hpair.symm⟩
    exact h.distinct.forall (haccepted .control control hcontrol) (haccepted .media media hmedia) hne
  have hok : ∀ error, (s.transport.call.advance s.transport.link .second).2.2 ≠
      some (.error error) :=
    MuxCall.advance_ne_error hconnected hvalid hdistinct
  rw [TcpPacketTransport.next]
  cases hadvance : s.transport.call.advance s.transport.link .second with
  | mk call rest =>
    obtain ⟨link, result⟩ := rest
    rw [hadvance] at hok
    simp only
    cases result with
    | none =>
      simp only [hpoint]
      simp
    | some result =>
      cases result with
      | error error' => exact absurd rfl (hok error')
      | ok packet =>
        cases packet with
        | none => exact TcpPacketTransport.afterWrite_ne_stopped _ _
        | some packet => simp

/-- Only a call of `next` finds the outbound queue invalid. -/
theorem queue_valid_step {transport after : TcpPacketTransport} {turn : TcpTurn}
    {event : StreamEvent} {error : LdflStreamError} (hturned : transport.Turned turn after event)
    (hturn : turn ≠ .next) (hbefore : transport.point ≠ .stopped (.error (.outboundQueueInvalid error))) :
    after.point ≠ .stopped (.error (.outboundQueueInvalid error)) := by
  cases hturned with
  | accepted => exact hbefore
  | refused => exact hbefore
  | received => exact hbefore
  | nothing => exact hbefore
  | shutdown => exact hbefore
  | checkCancel =>
    rw [TcpPacketTransport.checkCancel]
    split <;> simp
  | drainInbound =>
    rcases transport.drainInbound_cases with ⟨_, hdrain⟩ | ⟨_, _, _, _, _, _, hdrain⟩ |
      ⟨_, _, _, _, _, _, hdrain⟩
    · rw [hdrain]
      exact transport.afterDrain_ne_stopped _
    · rw [hdrain]
      exact hbefore
    · rw [hdrain]
      simp
  | next => exact absurd rfl hturn
  | writePending hpoint pending houtgoing result hsize =>
    cases result with
    | ok written =>
      cases written with
      | zero => simp [TcpPacketTransport.writePending]
      | succ written => exact TcpPacketTransport.afterPending_ne_stopped _ _ _
    | wouldBlock => exact TcpPacketTransport.afterPending_ne_stopped _ _ _
    | interrupted => exact TcpPacketTransport.afterPending_ne_stopped _ _ _
    | failed => simp [TcpPacketTransport.writePending]
  | read hpoint result hsize =>
    cases result with
    | ok bytes =>
      cases bytes with
      | nil => simp [TcpPacketTransport.read]
      | cons byte bytes =>
        rw [TcpPacketTransport.read]
        · split <;> simp
        · simp
    | wouldBlock => simp [TcpPacketTransport.read]
    | interrupted => simp [TcpPacketTransport.read]
    | failed => simp [TcpPacketTransport.read]

/-- Only the application's sends are accepted. -/
theorem accepted_step {transport after : TcpPacketTransport} {turn : TcpTurn} {event : StreamEvent}
    (hturned : transport.Turned turn after event) (hturn : ∀ packet, turn ≠ .trySend packet)
    (ledger : StreamLedger) : (ledger.apply event).accepted = ledger.accepted := by
  cases hturned with
  | accepted packet => exact absurd rfl (hturn packet)
  | refused => rfl
  | received => rfl
  | nothing => rfl
  | shutdown => rfl
  | checkCancel => rfl
  | drainInbound => rfl
  | next =>
    rw [TcpPacketTransport.next_event]
    cases (transport.call.advance transport.link .second).2.2 with
    | none => rfl
    | some result =>
      cases result with
      | error error => rfl
      | ok packet => cases packet <;> rfl
  | writePending hpoint pending houtgoing result hsize =>
    cases result with
    | ok written => cases written <;> rfl
    | _ => rfl
  | read hpoint result hsize =>
    cases result with
    | ok bytes =>
      cases bytes with
      | nil => rfl
      | cons byte bytes =>
        rw [TcpPacketTransport.read]
        · split <;> rfl
        · simp
    | _ => rfl

theorem sequenced_step {s t : TcpHistory} {turn : TcpTurn} (h : s.Sequenced) (hsends : s.Sends)
    (hframes : s.SendsFrames turn) (hstep : s.step turn = some t) : t.Sequenced := by
  obtain ⟨event, hturned, hledger⟩ := step_turned hstep
  have hqueue : ∀ error, t.transport.point ≠ .stopped (.error (.outboundQueueInvalid error)) := by
    intro error
    by_cases hturn : turn = .next
    · subst hturn
      obtain ⟨transport, ledger⟩ := t
      cases hturned with
      | next hpoint => exact h.next hsends hpoint error
    · exact queue_valid_step hturned hturn (h.queue_valid error)
  by_cases hsend : ∀ packet, turn ≠ .trySend packet
  · have hsame : t.ledger.accepted = s.ledger.accepted := by
      rw [hledger]
      exact accepted_step hturned hsend s.ledger
    refine ⟨?_, ?_, hqueue⟩
    · rw [hsame]
      exact h.valid
    · rw [hsame]
      exact h.distinct
  · simp only [ne_eq, not_forall, not_not] at hsend
    obtain ⟨packet, hpacket⟩ := hsend
    subst hpacket
    obtain ⟨-, sequence, hmem, hfresh⟩ := hframes
    have hsequence : ldflPacketSequence packet = .ok sequence := by
      cases hresult : ldflPacketSequence packet with
      | error error =>
        rw [hresult] at hmem
        cases hmem
      | ok other =>
        rw [hresult] at hmem
        cases hmem
        rfl
    obtain ⟨transport, ledger⟩ := t
    simp only at hturned hledger
    subst hledger
    cases hturned with
    | refused => exact ⟨h.valid, h.distinct, hqueue⟩
    | accepted _ report link hsend =>
      refine ⟨?_, ?_, hqueue⟩
      · intro queued hqueued
        rcases List.mem_append.mp hqueued with hold | hnew
        · exact h.valid queued hold
        · rw [List.mem_singleton.mp hnew]
          exact ⟨sequence, hsequence⟩
      · apply List.pairwise_append.mpr
        refine ⟨h.distinct, List.pairwise_singleton _ _, ?_⟩
        intro earlier hearlier later hlater
        rw [List.mem_singleton.mp hlater, hsequence]
        exact hfresh earlier hearlier

end TcpHistory

inductive Peer where
  | client
  | server
  deriving DecidableEq, Repr

def Peer.other : Peer → Peer
  | .client => .server
  | .server => .client

/-- Two workers whose sockets are connected. -/
abbrev TcpPair := Peer → TcpHistory

/-- What a turn reads from the socket. -/
def TcpTurn.bytes : TcpTurn → Option Bytes
  | .read result => result.value
  | _ => none

structure PairTurn where
  peer : Peer
  turn : TcpTurn
  deriving DecidableEq

/-- Only a write sends bytes, and only a read consumes what the socket returned. -/
theorem TcpPacketTransport.Turned.stream {transport after : TcpPacketTransport} {turn : TcpTurn}
    {event : StreamEvent} (hturned : transport.Turned turn after event) (ledger : StreamLedger) :
    ledger.sent <+: (ledger.apply event).sent ∧
      ((ledger.apply event).consumed = ledger.consumed ∨
        ∃ bytes ∈ turn.bytes, (ledger.apply event).consumed = ledger.consumed ++ bytes) := by
  cases hturned with
  | accepted => exact ⟨List.prefix_rfl, .inl rfl⟩
  | refused => exact ⟨List.prefix_rfl, .inl rfl⟩
  | received => exact ⟨List.prefix_rfl, .inl rfl⟩
  | nothing => exact ⟨List.prefix_rfl, .inl rfl⟩
  | shutdown => exact ⟨List.prefix_rfl, .inl rfl⟩
  | checkCancel => exact ⟨List.prefix_rfl, .inl rfl⟩
  | drainInbound => exact ⟨List.prefix_rfl, .inl rfl⟩
  | next =>
    rw [next_event]
    cases (transport.call.advance transport.link .second).2.2 with
    | none => exact ⟨List.prefix_rfl, .inl rfl⟩
    | some result =>
      cases result with
      | error error => exact ⟨List.prefix_rfl, .inl rfl⟩
      | ok packet => cases packet <;> exact ⟨List.prefix_rfl, .inl rfl⟩
  | writePending hpoint pending houtgoing result hsize =>
    cases result with
    | ok written =>
      cases written with
      | zero => exact ⟨List.prefix_rfl, .inl rfl⟩
      | succ written => exact ⟨List.prefix_append _ _, .inl rfl⟩
    | _ => exact ⟨List.prefix_rfl, .inl rfl⟩
  | read hpoint result hsize =>
    cases result with
    | ok bytes =>
      cases bytes with
      | nil => exact ⟨List.prefix_rfl, .inl rfl⟩
      | cons byte bytes =>
        rw [TcpPacketTransport.read]
        · split <;> exact ⟨List.prefix_rfl, .inr ⟨_, rfl, rfl⟩⟩
        · simp
    | _ => exact ⟨List.prefix_rfl, .inl rfl⟩

/-- Everything that the worker has decoded has been received. -/
def TcpHistory.Drained (s : TcpHistory) : Prop :=
  s.transport.link.connected = true ∧ s.transport.inbound = [] ∧
    ∀ channel, (s.transport.link.lane .second channel).packets = []

/-- A worker on a stream of frames has read the beginning of the stream. -/
theorem TcpHistory.reads_prefix {frames : List Frame} {turns : List TcpTurn} {s : TcpHistory}
    (hframes : machine.Admits (ReadsFrom frames) start turns)
    (hrun : machine.run start turns = some s) :
    s.transport.Reads s.ledger ∧ s.ledger.consumed <+: Frame.stream.encodeAll frames := by
  apply machine.run_invariant_of_admits (ReadsFrom frames)
    (fun s => s.transport.Reads s.ledger ∧ s.ledger.consumed <+: Frame.stream.encodeAll frames)
    ?_ ⟨TcpPacketTransport.reads_start, List.nil_prefix⟩ hframes hrun
  intro s turn t h hguard hstep
  obtain ⟨hreads, hconsumed⟩ := h
  refine ⟨reads_step hreads hguard.readsFrames hstep, ?_⟩
  obtain ⟨event, hturned, hledger⟩ := step_turned hstep
  rw [hledger]
  rcases (hturned.stream s.ledger).2 with hsame | ⟨bytes, hbytes, hmore⟩
  · rw [hsame]
    exact hconsumed
  · rw [hmore]
    cases turn with
    | read result => exact hguard bytes hbytes
    | _ => cases hbytes

theorem exists_frames {packets : List Packet} (h : ∀ packet ∈ packets, FromFrame packet) :
    ∃ frames : List Frame, packets = frames.map packetFromFrame := by
  induction packets with
  | nil => exact ⟨[], rfl⟩
  | cons packet packets ih =>
    obtain ⟨frame, hframe⟩ := h packet List.mem_cons_self
    obtain ⟨frames, hframes⟩ := ih fun other hother => h other (List.mem_cons_of_mem packet hother)
    exact ⟨frame :: frames, by rw [hframe, hframes, List.map_cons]⟩

theorem flatMap_payload (frames : List Frame) :
    (frames.map packetFromFrame).flatMap Packet.payload = Frame.stream.encodeAll frames := by
  induction frames with
  | nil => rfl
  | cons frame frames ih =>
    rw [List.map_cons, List.flatMap_cons, ih, packetFromFrame_payload]
    rfl

/-- The bytes that the worker wrote begin the stream of the emitted frames. -/
theorem TcpHistory.Sends.stream {s : TcpHistory} (h : s.Sends) :
    ∃ frames : List Frame, s.ledger.emitted = frames.map packetFromFrame ∧
      s.ledger.sent <+: Frame.stream.encodeAll frames := by
  obtain ⟨frames, hframes⟩ := exists_frames h.frames
  obtain ⟨completed, hwrites, -⟩ := h.writes
  refine ⟨frames, hframes, ?_⟩
  rw [← flatMap_payload, ← hframes, hwrites.emitted, hwrites.sent, List.flatMap_append]
  apply List.prefix_append_right_inj _ |>.mpr
  cases s.transport.outgoing with
  | none => exact List.prefix_rfl
  | some pending =>
    simp only [Option.toList_some, Option.map_some, List.flatMap_cons, List.flatMap_nil,
      List.append_nil, PendingWrite.written]
    exact List.take_prefix _ _

namespace TcpPair

def start : TcpPair := fun _ => .start

/-- A socket delivers the bytes of the other side in order; it may fail or end at any time. -/
def step (s : TcpPair) (turn : PairTurn) : Option TcpPair :=
  if ∀ bytes ∈ turn.turn.bytes,
      (s turn.peer).ledger.consumed ++ bytes <+: (s turn.peer.other).ledger.sent then
    (TcpHistory.step (s turn.peer) turn.turn).map (Function.update s turn.peer)
  else none

def machine : Machine TcpPair PairTurn := ⟨step⟩

/-- The application of one peer sends frames of different sequences and no keys. -/
def SendsFrames (sender : Peer) (s : TcpPair) (turn : PairTurn) : Prop :=
  turn.peer = sender → (s sender).SendsFrames turn.turn

/-- One direction of the pair. -/
structure Carries (sender : Peer) (s : TcpPair) : Prop where
  sends : (s sender).Sends
  sequenced : (s sender).Sequenced
  reads : (s sender.other).Reads
  wire : (s sender.other).ledger.consumed <+: (s sender).ledger.sent

theorem carries_start (sender : Peer) : Carries sender start where
  sends := TcpPacketTransport.sends_start
  sequenced := TcpHistory.sequenced_start
  reads := TcpPacketTransport.reads_start
  wire := List.nil_prefix

variable {sender : Peer} {s t : TcpPair} {turn : PairTurn}

theorem peer_ne_other (peer : Peer) : peer.other ≠ peer := by
  cases peer <;> simp [Peer.other]

theorem Carries.preserved (h : Carries sender s) (hframes : SendsFrames sender s turn)
    (hstep : s.step turn = some t) : Carries sender t := by
  obtain ⟨peer, turn⟩ := turn
  rw [step] at hstep
  obtain ⟨hwire, hstep⟩ := Option.ite_none_right_eq_some.mp hstep
  obtain ⟨after, hafter, hupdate⟩ := Option.map_eq_some_iff.mp hstep
  simp only at hwire hafter hupdate
  subst hupdate
  obtain ⟨event, hturned, hledger⟩ := TcpHistory.step_turned hafter
  by_cases hpeer : peer = sender
  · subst hpeer
    have hguard := hframes rfl
    have hsent := (hturned.stream (s peer).ledger).1
    rw [← hledger] at hsent
    constructor
    · rw [Function.update_self]
      exact TcpHistory.sends_step h.sends hguard.sendsUnkeyed hafter
    · rw [Function.update_self]
      exact TcpHistory.sequenced_step h.sequenced h.sends hguard hafter
    · rw [Function.update_of_ne (peer_ne_other peer)]
      exact h.reads
    · rw [Function.update_self, Function.update_of_ne (peer_ne_other peer)]
      exact h.wire.trans hsent
  · have hother : peer = sender.other := by
      cases peer <;> cases sender <;> first | rfl | exact absurd rfl hpeer
    subst hother
    have hback : sender.other.other = sender := by cases sender <;> rfl
    rw [hback] at hwire
    constructor
    · rw [Function.update_of_ne (peer_ne_other sender).symm]
      exact h.sends
    · rw [Function.update_of_ne (peer_ne_other sender).symm]
      exact h.sequenced
    · rw [Function.update_self]
      apply TcpHistory.reads_step h.reads ?_ hafter
      cases turn with
      | read result =>
        intro bytes hbytes
        obtain ⟨frames, -, hstream⟩ := h.sends.stream
        obtain ⟨more, hmore⟩ := (hwire bytes hbytes).trans hstream
        exact ⟨frames, more, hmore⟩
      | _ => trivial
    · rw [Function.update_self, Function.update_of_ne (peer_ne_other sender).symm]
      rcases (hturned.stream (s sender.other).ledger).2 with hsame | ⟨bytes, hbytes, hconsumed⟩
      · rw [hledger, hsame]
        exact h.wire
      · rw [hledger, hconsumed]
        exact hwire bytes hbytes

/-- While a packet is pending, every write goes on at its offset and the mux is not asked for
another packet. -/
theorem resumes {s t : TcpHistory} {turn : TcpTurn} {pending : PendingWrite} (h : s.Sends)
    (houtgoing : s.transport.outgoing = some pending) (hstep : s.step turn = some t) :
    t.ledger.emitted = s.ledger.emitted ∧ ∃ written, t.ledger.sent =
      s.ledger.sent ++ (pending.packet.payload.drop pending.offset).take written := by
  have hquiet : ∀ ledger : StreamLedger, ledger.emitted = s.ledger.emitted →
      ledger.sent = s.ledger.sent → ledger.emitted = s.ledger.emitted ∧ ∃ written, ledger.sent =
        s.ledger.sent ++ (pending.packet.payload.drop pending.offset).take written := by
    intro ledger hemitted hsent
    refine ⟨hemitted, 0, ?_⟩
    rw [hsent, List.take_zero, List.append_nil]
  obtain ⟨transport, ledger⟩ := t
  obtain ⟨event, hturned, hledger⟩ := TcpHistory.step_turned hstep
  simp only at hturned hledger
  subst hledger
  cases hturned with
  | accepted => exact hquiet _ rfl rfl
  | refused => exact hquiet _ rfl rfl
  | received => exact hquiet _ rfl rfl
  | nothing => exact hquiet _ rfl rfl
  | shutdown => exact hquiet _ rfl rfl
  | checkCancel => exact hquiet _ rfl rfl
  | drainInbound => exact hquiet _ rfl rfl
  | next hpoint =>
    have hidle := h.idle hpoint
    rw [houtgoing] at hidle
    cases hidle
  | writePending hpoint other hother result hsize =>
    cases hother.symm.trans houtgoing
    cases result with
    | ok written =>
      cases written with
      | zero => exact hquiet _ rfl rfl
      | succ written =>
        refine ⟨rfl, ?_⟩
        simp only [TcpPacketTransport.writePending, StreamLedger.apply, PendingWrite.chunk,
          List.drop_take, List.take_take]
        exact ⟨_, rfl⟩
    | _ => exact hquiet _ rfl rfl
  | read hpoint result hsize =>
    cases result with
    | ok bytes =>
      cases bytes with
      | nil => exact hquiet _ rfl rfl
      | cons byte bytes =>
        rw [TcpPacketTransport.read]
        · split <;> exact hquiet _ rfl rfl
        · simp
    | _ => exact hquiet _ rfl rfl

/-- The decoder has returned the first of the emitted packets. -/
theorem Carries.decoded (h : Carries sender s) :
    (s sender.other).ledger.decoded <+: (s sender).ledger.emitted := by
  obtain ⟨frames, hemitted, hstream⟩ := h.sends.stream
  obtain ⟨decoded, hdecodes⟩ := h.reads.decodes
  obtain ⟨more, hmore⟩ := h.wire.trans hstream
  rw [hdecodes.consumed, List.append_assoc] at hmore
  obtain ⟨todo, hframes, -⟩ := Frame.stream.encodeAll_prefix hmore
  rw [hdecodes.decoded, hemitted, hframes, List.map_append]
  exact List.prefix_append _ _

/-- In every run of two connected workers in which one application sends frames of different
sequences, whatever the other application, the sockets and the schedule do: each channel delivers a
prefix of what it accepted, and nothing is missing between the two while both workers run; a pending
packet is finished from its exact offset before any other; the counters are the totals, up to the
range of `u64`; and neither the queues nor the stream stop a worker. -/
theorem reliable_fifo (sender : Peer) {turns : List PairTurn} {s : TcpPair}
    (hframes : machine.Admits (SendsFrames sender) start turns)
    (hrun : machine.run start turns = some s) :
    (∀ channel, (s sender.other).ledger.received channel <+:
      onChannel channel (s sender).ledger.accepted) ∧
    ((s sender).transport.link.connected = true → (s sender.other).transport.link.connected = true →
      ∃ transit, (s sender).ledger.emitted = (s sender.other).ledger.decoded ++ transit ∧
        ∀ channel, onChannel channel (s sender).ledger.accepted =
          (s sender.other).ledger.received channel ++
          ((s sender.other).transport.link.lane .second channel).packets ++
          onChannel channel (s sender.other).transport.inbound ++ onChannel channel transit ++
          ((s sender).transport.call.mux.slot channel).toList ++
          ((s sender).transport.link.lane .first channel).packets) ∧
    (∃ completed, Writes (s sender).transport.outgoing completed (s sender).ledger ∧
      (s sender).transport.status.framesWritten = min completed.length (2 ^ 64 - 1)) ∧
    (∀ turn t pending, (s sender).transport.outgoing = some pending →
      (s sender).step turn = some t → t.ledger.emitted = (s sender).ledger.emitted ∧
        ∃ written, t.ledger.sent =
          (s sender).ledger.sent ++ (pending.packet.payload.drop pending.offset).take written) ∧
    (s sender).transport.status.bytesWritten = min (s sender).ledger.sent.length (2 ^ 64 - 1) ∧
    (s sender.other).transport.status.bytesRead =
      min (s sender.other).ledger.consumed.length (2 ^ 64 - 1) ∧
    (s sender.other).transport.status.framesRead =
      min (s sender.other).ledger.decoded.length (2 ^ 64 - 1) ∧
    ∀ error error' error'',
      (s sender).transport.point ≠ .stopped (.error (.outboundQueueInvalid error)) ∧
      (s sender.other).transport.point ≠ .stopped (.error (.inboundStreamInvalid error')) ∧
      (s sender.other).transport.point ≠ .stopped (.error (.inboundQueueRejected error'')) := by
  have h : Carries sender s := machine.run_invariant_of_admits (SendsFrames sender) (Carries sender)
    (fun _ _ _ h hguard hstep => h.preserved hguard hstep) (carries_start sender) hframes hrun
  have honChannel : ∀ channel {first second : List Packet}, first <+: second →
      onChannel channel first <+: onChannel channel second := by
    intro channel first second hprefix
    exact hprefix.filter _
  refine ⟨?_, ?_, h.sends.writes, fun _ _ _ houtgoing hstep => resumes h.sends houtgoing hstep,
    h.sends.bytesWritten, h.reads.bytesRead, h.reads.framesRead, ?_⟩
  · intro channel
    exact (h.reads.delivers.received channel).trans
      ((honChannel channel h.decoded).trans (h.sends.emits.emitted channel))
  · intro hsender hreceiver
    obtain ⟨transit, htransit⟩ := h.decoded
    refine ⟨transit, htransit.symm, ?_⟩
    intro channel
    rw [h.reads.delivers.exact hreceiver channel, ← onChannel_append, htransit,
      h.sends.emits.exact hsender channel]
  · intro error error' error''
    exact ⟨h.sequenced.queue_valid error, h.reads.stream_valid error', h.reads.queue_accepts error''⟩

section Runs

private instance (s : TcpHistory) : (turn : TcpTurn) → Decidable (s.SendsFrames turn)
  | .trySend _ => inferInstanceAs (Decidable (_ ∧ ∃ sequence ∈ _, ∀ earlier ∈ _, _ ≠ _))
  | .tryReceive _ | .shutdown | .checkCancel | .drainInbound | .next | .writePending _ | .read _ =>
    .isTrue trivial

instance (sender : Peer) (s : TcpPair) (turn : PairTurn) : Decidable (SendsFrames sender s turn) :=
  inferInstanceAs (Decidable (_ → _))

private def ping : Frame := .empty .ping 7

private def turnsOf (peer : Peer) (turns : List TcpTurn) : List PairTurn := turns.map (⟨peer, ·⟩)

/-- The ping is written in two parts, each read on its own, and received. -/
private def splitPing : List PairTurn :=
  turnsOf .client
    [.trySend (packetFromFrame ping), .checkCancel, .drainInbound, .next, .next, .next,
      .writePending (.ok 10), .read .wouldBlock] ++
  turnsOf .server
    [.checkCancel, .drainInbound, .next, .next, .next, .read (.ok (ping.encode.take 10))] ++
  turnsOf .client [.checkCancel, .drainInbound, .writePending (.ok 14)] ++
  turnsOf .server
    [.checkCancel, .drainInbound, .next, .next, .next, .read (.ok (ping.encode.drop 10)),
      .checkCancel, .drainInbound, .tryReceive .control]

theorem reliable_fifo_splitPing : ∃ s, machine.run start splitPing = some s ∧
    (s .server).ledger.received .control = [packetFromFrame ping] ∧
    (s .server).ledger.received .control <+: onChannel .control (s .client).ledger.accepted := by
  have hframes : machine.Admits (SendsFrames .client) start splitPing := by decide +kernel
  refine ⟨_, rfl, by decide +kernel, ?_⟩
  exact (reliable_fifo .client hframes rfl).1 .control

end Runs

end TcpPair

end LadoFlow.Transport
