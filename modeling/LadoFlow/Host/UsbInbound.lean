import LadoFlow.Host.UsbAccessory
import LadoFlow.Transport.TcpFifo

/-!
# The inbound direction of the accessory worker

On a valid stream the accessory worker and the TCP worker decode the same packets and hand them over
in the same order, but a full queue makes the TCP worker wait and ends the accessory worker.
-/

namespace LadoFlow.Host

open LadoFlow.Protocol LadoFlow.Transport Framework

/-- Both workers have queues of the same limits. -/
theorem usbQueueConfig_eq : usbQueueConfig = tcpQueueConfig := rfl

namespace BulkWorker

/-- The inbound direction of the worker and its ledger. -/
structure Reads (worker : BulkWorker) (ledger : StreamLedger) : Prop where
  connected : (∀ result, worker.point ≠ .stopped result) → worker.link.connected = true
  accounted : worker.link.Accounted tcpQueueConfig
  decodes : ∃ frames, Decodes worker.decoder ledger frames
  delivers : Delivers worker.link worker.point.packets ledger
  inbound : ∀ packet ∈ worker.point.packets, FromFrame packet
  stream_valid : ∀ error, worker.point ≠ .stopped (.error (.streamInvalid error))

theorem reads_start : Reads start .empty where
  connected := fun _ => rfl
  accounted := Link.accounted_new _
  decodes := ⟨[], decodes_new⟩
  delivers := delivers_new _
  inbound := by simp [start, BulkPoint.packets]
  stream_valid := by simp [start]

variable {worker : BulkWorker} {ledger ledger' : StreamLedger}

theorem Reads.sameLedger (h : Reads worker ledger) (hsame : ledger.SameInbound ledger') :
    Reads worker ledger' := by
  obtain ⟨frames, hdecodes⟩ := h.decodes
  refine ⟨h.connected, h.accounted, ⟨frames, ?_⟩, ⟨?_, ?_⟩, h.inbound, h.stream_valid⟩
  · refine ⟨hdecodes.limit, hdecodes.partial_frame, ?_, ?_⟩
    · rw [hsame.consumed]
      exact hdecodes.consumed
    · rw [hsame.decoded]
      exact hdecodes.decoded
  · rw [hsame.received, hsame.decoded]
    exact h.delivers.received
  · rw [hsame.received, hsame.decoded]
    exact h.delivers.exact

/-- A step of a running worker that touches neither the decoder nor the lanes to the application. -/
theorem Reads.outward (h : Reads worker ledger) (hrunning : ∀ result, worker.point ≠ .stopped result)
    {after : BulkWorker} (hconnected : after.link.connected = worker.link.connected)
    (haccounted : worker.link.Accounted tcpQueueConfig → after.link.Accounted tcpQueueConfig)
    (hlanes : ∀ channel, after.link.lane .second channel = worker.link.lane .second channel)
    (hdecoder : after.decoder = worker.decoder) (hpackets : after.point.packets = worker.point.packets)
    (hafter : ∀ result, after.point ≠ .stopped result) : Reads after ledger where
  connected := fun _ => hconnected.trans (h.connected hrunning)
  accounted := haccounted h.accounted
  decodes := by
    rw [hdecoder]
    exact h.decodes
  delivers := by
    rw [hpackets]
    exact h.delivers.relink (fun hlink => hconnected.symm.trans hlink) hlanes
  inbound := by
    rw [hpackets]
    exact h.inbound
  stream_valid := fun _ => hafter _

/-- Moving on to another point of the loop, with other counters. -/
theorem Reads.goto (h : Reads worker ledger) (status : LinkStatus) (point : BulkPoint)
    (hrunning : ∀ result, worker.point ≠ .stopped result)
    (hpackets : point.packets = worker.point.packets) (hpoint : ∀ result, point ≠ .stopped result) :
    Reads { worker with status, point } ledger :=
  h.outward hrunning rfl id (fun _ => rfl) rfl hpackets hpoint

theorem Reads.finish (h : Reads worker ledger) (result : Except BulkError Unit)
    (hstream : ∀ error, result ≠ .error (.streamInvalid error)) :
    Reads (worker.finish result) ledger where
  connected := fun hrunning => absurd rfl (hrunning result)
  accounted := h.accounted.disconnect
  decodes := h.decodes
  delivers := h.delivers.stop _
  inbound := by simp [BulkWorker.finish, BulkPoint.packets]
  stream_valid := fun error hpoint => hstream error (BulkPoint.stopped.inj hpoint)

/-- A change of the lanes of the application alone. -/
theorem Reads.relink (h : Reads worker ledger) {link : Link}
    (hconnected : link.connected = worker.link.connected) (haccounted : link.Accounted tcpQueueConfig)
    (hlanes : ∀ channel, link.lane .second channel = worker.link.lane .second channel) :
    Reads { worker with link } ledger where
  connected := fun hrunning => hconnected.trans (h.connected hrunning)
  accounted := haccounted
  decodes := h.decodes
  delivers := h.delivers.relink (fun hlink => hconnected.symm.trans hlink) hlanes
  inbound := h.inbound
  stream_valid := h.stream_valid

theorem Reads.trySend (h : Reads worker ledger) (packet : Packet) :
    Reads (worker.trySend packet).2 ledger := by
  obtain ⟨hconnected, hlanes⟩ := worker.link.trySend_frame .first packet
  rw [BulkWorker.trySend]
  exact h.relink hconnected (h.accounted.trySend tcpQueueConfig_range .first packet) fun channel =>
    hlanes .second channel (by simp)

theorem Reads.tryReceive (h : Reads worker ledger) {channel : Channel} {link : Link}
    {packet : Packet}
    (hreceive : worker.link.tryReceive .first channel = (.ok (some packet), link)) :
    Reads { worker with link } (ledger.apply (.received channel packet)) := by
  obtain ⟨frames, hdecodes⟩ := h.decodes
  have haccounted := h.accounted.tryReceive .first channel
  have hconnected := (worker.link.tryReceive_frame .first channel).1
  rw [hreceive] at haccounted hconnected
  exact
    { connected := fun hrunning => hconnected.trans (h.connected hrunning)
      accounted := haccounted
      decodes := ⟨frames, hdecodes.limit, hdecodes.partial_frame, hdecodes.consumed, hdecodes.decoded⟩
      delivers := h.delivers.receive hreceive
      inbound := h.inbound
      stream_valid := h.stream_valid }

theorem Reads.writeLoop (h : Reads worker ledger) (outgoing : ChunkedWrite)
    (hrunning : ∀ result, worker.point ≠ .stopped result) (hpackets : worker.point.packets = []) :
    Reads (worker.writeLoop outgoing) ledger := by
  rw [BulkWorker.writeLoop]
  split
  · exact h.goto worker.status (.write outgoing) hrunning hpackets.symm (by simp)
  · exact h.goto _ .read hrunning hpackets.symm (by simp)

theorem next_event (worker : BulkWorker) :
    worker.next.2 = MuxCall.event (worker.call.advance worker.link .second).2.2 := by
  rw [next]
  cases worker.call.advance worker.link .second with
  | mk call rest =>
    obtain ⟨link, result⟩ := rest
    cases result with
    | none => rfl
    | some result =>
      cases result with
      | error error => rfl
      | ok packet => cases packet <;> rfl

theorem Reads.next (h : Reads worker ledger) (hpoint : worker.point = .next) :
    Reads worker.next.1 (ledger.apply worker.next.2) := by
  have hrunning : ∀ result, worker.point ≠ .stopped result := running_of_point hpoint (by simp)
  have hpackets : worker.point.packets = [] := by
    rw [hpoint]
    rfl
  rw [next_event]
  apply Reads.sameLedger ?_ (TcpPacketTransport.sameInbound_event _)
  have heffect : worker.call.Effect worker.link .second _ _ _ := MuxCall.advance_effect
  rw [BulkWorker.next]
  cases hadvance : worker.call.advance worker.link .second with
  | mk call rest =>
    obtain ⟨link, result⟩ := rest
    rw [hadvance] at heffect
    obtain ⟨hconnected, hlanes⟩ := heffect.frame
    have hmoved : Reads { worker with call, link } ledger :=
      h.outward hrunning hconnected heffect.accounted hlanes rfl rfl hrunning
    simp only
    cases result with
    | none => exact hmoved
    | some result =>
      cases result with
      | error error => exact hmoved.finish _ (by simp)
      | ok packet =>
        cases packet with
        | none => exact hmoved.goto worker.status .read hrunning hpackets.symm (by simp)
        | some packet => exact hmoved.writeLoop _ hrunning hpackets

theorem Reads.writeBulk (h : Reads worker ledger) {outgoing : ChunkedWrite}
    (hpoint : worker.point = .write outgoing) (result : BulkResult Nat) :
    Reads (worker.writeBulk outgoing result).1
      (ledger.apply (worker.writeBulk outgoing result).2) := by
  have hrunning : ∀ result, worker.point ≠ .stopped result := running_of_point hpoint (by simp)
  have hpackets : worker.point.packets = [] := by
    rw [hpoint]
    rfl
  cases result with
  | timeout => exact h.finish _ (by simp)
  | failed => exact h.finish _ (by simp)
  | ok written =>
    cases written with
    | zero => exact h.finish _ (by simp)
    | succ written =>
      rw [BulkWorker.writeBulk]
      · split
        · exact h.finish _ (by simp)
        · have hsent : ledger.SameInbound
              (ledger.apply (.sent (outgoing.chunk.take (written + 1)))) := ⟨rfl, rfl, rfl⟩
          exact (h.writeLoop _ hrunning hpackets).sameLedger hsent
      · simp

theorem Reads.readBulk (h : Reads worker ledger) (hpoint : worker.point = .read)
    {result : BulkResult Bytes} (hsize : ∀ bytes ∈ result.value, bytes.length ≤ bulkTransferBytes)
    (hvalid : ∀ bytes ∈ result.value, ValidPrefix (ledger.consumed ++ bytes)) :
    Reads (worker.readBulk result).1 (ledger.apply (worker.readBulk result).2) := by
  have hrunning : ∀ result, worker.point ≠ .stopped result := running_of_point hpoint (by simp)
  have hpackets : worker.point.packets = [] := by
    rw [hpoint]
    rfl
  cases result with
  | timeout => exact h.goto worker.status .loopHead hrunning hpackets.symm (by simp)
  | failed => exact h.finish _ (by simp)
  | ok bytes =>
    cases bytes with
    | nil => exact h.goto worker.status .loopHead hrunning hpackets.symm (by simp)
    | cons byte bytes =>
      have hchunk : (byte :: bytes).length ≤ frameHeaderLen + maxMediaPayload :=
        Nat.le_trans (hsize _ rfl) (by decide)
      obtain ⟨frames, hdecodes⟩ := h.decodes
      obtain ⟨decoder, completed, hpush, hdecodes'⟩ := hdecodes.push hchunk (hvalid _ rfl)
      have hdelivers := h.delivers
      rw [hpackets] at hdelivers
      simp only [BulkWorker.readBulk, hpush]
      exact
        { connected := fun _ => h.connected hrunning
          accounted := h.accounted
          decodes := ⟨frames ++ completed, hdecodes'⟩
          delivers := hdelivers.consume _
          inbound := by
            intro packet hpacket
            obtain ⟨frame, -, hframe⟩ := List.mem_map.mp hpacket
            exact ⟨frame, hframe.symm⟩
          stream_valid := by simp }

/-- What the delivery of one packet does, with and without room for it. -/
theorem Reads.deliver_room (h : Reads worker ledger) {packet : Packet} {packets : List Packet}
    {count frames : Nat} (hpoint : worker.point = .deliver (packet :: packets) count frames) :
    ((worker.link.lane .second packet.channel).HasRoom packet → ∃ report link,
      worker.link.trySend .second packet = (.ok report, link) ∧
      worker.deliver (packet :: packets) count frames =
        { worker with link, point := .deliver packets count frames }) ∧
    (¬(worker.link.lane .second packet.channel).HasRoom packet → ∃ error,
      worker.deliver (packet :: packets) count frames =
        worker.finish (.error (.queueRejected error))) := by
  have hconnected := h.connected (running_of_point hpoint (by simp))
  have hframe : FromFrame packet := by
    apply h.inbound
    rw [hpoint]
    exact List.mem_cons_self
  obtain ⟨hroom, hfull⟩ : (_ → _) ∧ (_ → _) := h.accounted.trySend_room hconnected hframe
  cases hsend : worker.link.trySend .second packet with
  | mk result link =>
    rw [hsend] at hroom hfull
    constructor
    · intro hhas
      obtain ⟨report, hreport⟩ := hroom hhas
      simp only at hreport
      subst hreport
      exact ⟨report, link, rfl, by simp only [deliver, hsend]⟩
    · intro hhas
      obtain ⟨error, herror⟩ := hfull hhas
      simp only at herror
      subst herror
      have hlink := Link.trySend_error hsend
      subst hlink
      exact ⟨error, by simp only [deliver, hsend]⟩

theorem Reads.deliver (h : Reads worker ledger) {packets : List Packet} {count frames : Nat}
    (hpoint : worker.point = .deliver packets count frames) :
    Reads (worker.deliver packets count frames) ledger := by
  have hrunning : ∀ result, worker.point ≠ .stopped result := running_of_point hpoint (by simp)
  cases packets with
  | nil => exact h.goto _ .loopHead hrunning (by rw [hpoint]; rfl) (by simp)
  | cons packet packets =>
    obtain ⟨hroom, hfull⟩ := h.deliver_room hpoint
    by_cases hhas : (worker.link.lane .second packet.channel).HasRoom packet
    · obtain ⟨report, link, hsend, hdeliver⟩ := hroom hhas
      have hdelivers := h.delivers
      have hframes := h.inbound
      have haccounted := h.accounted.trySend tcpQueueConfig_range .second packet
      have hlink := (worker.link.trySend_frame .second packet).1
      rw [hpoint] at hdelivers hframes
      rw [hsend] at haccounted hlink
      rw [hdeliver]
      exact
        { connected := fun _ => hlink.trans (h.connected hrunning)
          accounted := haccounted
          decodes := h.decodes
          delivers := hdelivers.deliver (hframes packet List.mem_cons_self).key hsend
          inbound := fun queued hqueued => hframes queued (List.mem_cons_of_mem packet hqueued)
          stream_valid := by simp }
    · obtain ⟨error, hdeliver⟩ := hfull hhas
      rw [hdeliver]
      exact h.finish _ (by simp)

/-- Only a delivery ends the worker with a refused packet. -/
theorem rejected_iff {after : BulkWorker} {turn : BulkTurn} {event : StreamEvent} {error : SendError}
    (hturned : Turned worker turn after event) (hturn : turn ≠ .deliver) :
    after.point = .stopped (.error (.queueRejected error)) ↔
      worker.point = .stopped (.error (.queueRejected error)) := by
  cases hturned with
  | accepted => exact Iff.rfl
  | refused => exact Iff.rfl
  | received => exact Iff.rfl
  | nothing => exact Iff.rfl
  | stop => exact Iff.rfl
  | checkCancel hpoint =>
    rw [hpoint, checkCancel]
    split <;> simp [finish]
  | next hpoint =>
    rw [hpoint, next]
    cases worker.call.advance worker.link .second with
    | mk call rest =>
      obtain ⟨link, result⟩ := rest
      cases result with
      | none => simp [hpoint]
      | some result =>
        cases result with
        | error error => simp [finish]
        | ok packet =>
          cases packet with
          | none => simp
          | some packet =>
            simp only [writeLoop]
            split <;> simp
  | writeBulk outgoing hpoint result =>
    rw [hpoint]
    cases result with
    | timeout => simp [writeBulk, finish]
    | failed => simp [writeBulk, finish]
    | ok written =>
      cases written with
      | zero => simp [writeBulk, finish]
      | succ written =>
        simp only [writeBulk, writeLoop]
        split
        · simp [finish]
        · simp only
          split <;> simp
  | readBulk hpoint result =>
    rw [hpoint]
    cases result with
    | timeout => simp [readBulk]
    | failed => simp [readBulk, finish]
    | ok bytes =>
      cases bytes with
      | nil => simp [readBulk]
      | cons byte bytes =>
        simp only [readBulk]
        split <;> simp [finish]
  | deliver => exact absurd rfl hturn

/-- Only a read consumes bytes. -/
theorem Turned.consumed {after : BulkWorker} {turn : BulkTurn} {event : StreamEvent}
    (hturned : Turned worker turn after event) (ledger : StreamLedger) :
    (ledger.apply event).consumed = ledger.consumed ∨
      ∃ result, turn = .readBulk result ∧ ∃ bytes ∈ result.value,
        (ledger.apply event).consumed = ledger.consumed ++ bytes := by
  cases hturned with
  | accepted => exact .inl rfl
  | refused => exact .inl rfl
  | received => exact .inl rfl
  | nothing => exact .inl rfl
  | stop => exact .inl rfl
  | checkCancel => exact .inl rfl
  | next =>
    rw [next_event]
    exact .inl (TcpPacketTransport.sameInbound_event _).consumed
  | writeBulk outgoing hpoint result =>
    cases result with
    | timeout => exact .inl rfl
    | failed => exact .inl rfl
    | ok written =>
      cases written with
      | zero => exact .inl rfl
      | succ written =>
        simp only [BulkWorker.writeBulk]
        split <;> exact .inl rfl
  | readBulk hpoint result =>
    cases result with
    | timeout => exact .inl rfl
    | failed => exact .inl rfl
    | ok bytes =>
      cases bytes with
      | nil => exact .inl rfl
      | cons byte bytes =>
        simp only [BulkWorker.readBulk]
        split <;> exact .inr ⟨_, rfl, _, rfl, rfl⟩
  | deliver => exact .inl rfl

end BulkWorker

namespace BulkHistory

/-- What the endpoint returns is the next part of the stream. -/
def ReadsFrom (frames : List Frame) (s : BulkHistory) : BulkTurn → Prop
  | .readBulk result => ∀ bytes ∈ result.value,
    s.ledger.consumed ++ bytes <+: Frame.stream.encodeAll frames
  | _ => True

/-- The inbound queue of the next packet has room for it. -/
def Room (s : BulkHistory) : BulkTurn → Prop
  | .deliver => ∀ packet ∈ s.worker.point.packets.head?,
    (s.worker.link.lane .second packet.channel).HasRoom packet
  | _ => True

/-- The worker was ended by a packet that its queue refused. -/
def Rejected (s : BulkHistory) : Prop :=
  ∃ error, s.worker.point = .stopped (.error (.queueRejected error))

/-- The inbound direction of a worker on the beginning of a stream. -/
structure Reads (frames : List Frame) (s : BulkHistory) : Prop where
  reads : s.worker.Reads s.ledger
  consumed : s.ledger.consumed <+: Frame.stream.encodeAll frames

theorem reads_start (frames : List Frame) : start.Reads frames where
  reads := BulkWorker.reads_start
  consumed := List.nil_prefix

theorem reads_step {frames : List Frame} {s t : BulkHistory} {turn : BulkTurn} (h : s.Reads frames)
    (hframes : s.ReadsFrom frames turn) (hstep : s.step turn = some t) : t.Reads frames := by
  obtain ⟨hreads, hconsumed⟩ := h
  obtain ⟨worker, ledger⟩ := t
  obtain ⟨event, hturned, hledger⟩ := step_turned hstep
  simp only at hturned hledger
  subst hledger
  constructor
  · show worker.Reads _
    cases hturned with
    | accepted packet report link hsend =>
      have hsent := hreads.trySend packet
      rw [BulkWorker.trySend, hsend] at hsent
      exact hsent.sameLedger ⟨rfl, rfl, rfl⟩
    | refused packet => exact hreads
    | received channel packet link hreceive => exact hreads.tryReceive hreceive
    | nothing channel => exact hreads
    | stop =>
      exact ⟨hreads.connected, hreads.accounted, hreads.decodes, hreads.delivers, hreads.inbound,
        hreads.stream_valid⟩
    | checkCancel hpoint =>
      rw [BulkWorker.checkCancel]
      split
      · exact hreads.finish _ (by simp)
      · exact hreads.goto s.worker.status .next (BulkWorker.running_of_point hpoint (by simp))
          (by rw [hpoint]; rfl) (by simp)
    | next hpoint => exact hreads.next hpoint
    | writeBulk outgoing hpoint result => exact hreads.writeBulk hpoint result
    | readBulk hpoint result hsize =>
      apply hreads.readBulk hpoint hsize
      intro bytes hbytes
      obtain ⟨more, hmore⟩ := hframes bytes hbytes
      exact ⟨frames, more, hmore⟩
    | deliver packets count total hpoint => exact hreads.deliver hpoint
  · rcases hturned.consumed s.ledger with hsame | ⟨result, hread, bytes, hbytes, hmore⟩
    · rw [hsame]
      exact hconsumed
    · subst hread
      rw [hmore]
      exact hframes bytes hbytes

theorem accepts_step {frames : List Frame} {s t : BulkHistory} {turn : BulkTurn} (h : s.Reads frames)
    (hroom : s.Room turn) (haccepts : ¬s.Rejected) (hstep : s.step turn = some t) : ¬t.Rejected := by
  obtain ⟨event, hturned, -⟩ := step_turned hstep
  by_cases hturn : turn = .deliver
  · subst hturn
    obtain ⟨worker, ledger⟩ := t
    simp only at hturned
    cases hturned with
    | deliver packets count total hpoint =>
      cases packets with
      | nil => simp [Rejected, BulkWorker.deliver]
      | cons packet packets =>
        have hhas : (s.worker.link.lane .second packet.channel).HasRoom packet := by
          apply hroom
          rw [hpoint]
          rfl
        obtain ⟨report, link, -, hdeliver⟩ := (h.reads.deliver_room hpoint).1 hhas
        simp [Rejected, hdeliver]
  · intro hrejected
    obtain ⟨error, hpoint⟩ := hrejected
    exact haccepts ⟨error, (BulkWorker.rejected_iff hturned hturn).mp hpoint⟩

theorem rejects_step {frames : List Frame} {s t : BulkHistory} {turn : BulkTurn} (h : s.Reads frames)
    (hfull : ¬s.Room turn) (hstep : s.step turn = some t) : t.Rejected := by
  obtain ⟨event, hturned, -⟩ := step_turned hstep
  obtain ⟨worker, ledger⟩ := t
  simp only at hturned
  cases hturned with
  | deliver packets count total hpoint =>
    cases packets with
    | nil =>
      apply absurd _ hfull
      simp [Room, hpoint, BulkPoint.packets]
    | cons packet packets =>
      have hhas : ¬(s.worker.link.lane .second packet.channel).HasRoom packet := by
        intro hhas
        apply hfull
        simp [Room, hpoint, BulkPoint.packets, hhas]
      obtain ⟨error, hdeliver⟩ := (h.reads.deliver_room hpoint).2 hhas
      exact ⟨error, by rw [hdeliver]; rfl⟩
  | _ => exact absurd trivial hfull

theorem rejected_step {s t : BulkHistory} {turn : BulkTurn} (h : s.Rejected)
    (hstep : s.step turn = some t) : t.Rejected := by
  obtain ⟨error, hpoint⟩ := h
  obtain ⟨event, hturned, -⟩ := step_turned hstep
  have hturn : turn ≠ .deliver := by
    intro hturn
    subst hturn
    generalize t.worker = after at hturned
    cases hturned with
    | deliver packets count total hdeliver =>
      rw [hpoint] at hdeliver
      cases hdeliver
  exact ⟨error, (BulkWorker.rejected_iff hturned hturn).mpr hpoint⟩

/-- Everything that the worker has decoded has been received. -/
def Drained (s : BulkHistory) : Prop :=
  s.worker.link.connected = true ∧ s.worker.point.packets = [] ∧
    ∀ channel, (s.worker.link.lane .second channel).packets = []

/-- The two workers treat one stream alike: this one is not ended by what it reads, and every
application of a TCP worker on the stream receives the same packets on each channel. -/
structure Alike (frames : List Frame) (s : BulkHistory) : Prop where
  stream_valid : ∀ error, s.worker.point ≠ .stopped (.error (.streamInvalid error))
  accepts : ¬s.Rejected
  ordered : ∀ {turns : List TcpTurn} {t : TcpHistory},
    TcpHistory.machine.Admits (TcpHistory.ReadsFrom frames) .start turns →
    TcpHistory.machine.run .start turns = some t → ∀ channel,
      s.ledger.received channel <+: t.ledger.received channel ∨
        t.ledger.received channel <+: s.ledger.received channel
  same : ∀ {turns : List TcpTurn} {t : TcpHistory},
    TcpHistory.machine.Admits (TcpHistory.ReadsFrom frames) .start turns →
    TcpHistory.machine.run .start turns = some t →
    s.ledger.consumed = t.ledger.consumed → s.Drained → t.Drained → ∀ channel,
      s.ledger.received channel = t.ledger.received channel

/-- On a stream of frames, whatever the reads and the consumer do: the accessory worker treats the
stream as the TCP worker does exactly when each decoded packet found room in its queue. -/
theorem alike_iff_room (frames : List Frame) {turns : List BulkTurn} {s : BulkHistory}
    (hframes : machine.Admits (ReadsFrom frames) start turns)
    (hrun : machine.run start turns = some s) :
    s.Alike frames ↔ machine.Admits Room start turns := by
  have h : s.Reads frames := machine.run_invariant_of_admits (ReadsFrom frames) (Reads frames)
    (fun _ _ _ h hguard hstep => reads_step h hguard hstep) (reads_start frames) hframes hrun
  obtain ⟨decoded, hdecodes⟩ := h.reads.decodes
  constructor
  · intro halike
    by_contra hleaves
    apply halike.accepts
    exact machine.run_of_not_admits (ReadsFrom frames) Room (Reads frames) Rejected
      (fun _ _ _ h hguard hstep => reads_step h hguard hstep)
      (fun _ _ _ h hfull hstep => rejects_step h hfull hstep)
      (fun _ _ _ h hstep => rejected_step h hstep) (reads_start frames) hframes hleaves hrun
  · intro hroom
    have haccepts : s.Reads frames ∧ ¬s.Rejected := by
      apply machine.run_invariant_of_admits (fun s turn => s.ReadsFrom frames turn ∧ s.Room turn)
        (fun s => s.Reads frames ∧ ¬s.Rejected) ?_ ?_ (hframes.and hroom) hrun
      · intro s turn t hs hguard hstep
        exact ⟨reads_step hs.1 hguard.1 hstep, accepts_step hs.1 hguard.2 hs.2 hstep⟩
      · exact ⟨reads_start frames, by simp [Rejected, start, BulkWorker.start]⟩
    refine ⟨h.reads.stream_valid, haccepts.2, ?_, ?_⟩
    · intro turns' t hframes' hrun' channel
      obtain ⟨hreads', hconsumed'⟩ := TcpHistory.reads_prefix hframes' hrun'
      obtain ⟨decoded', hdecodes'⟩ := hreads'.decodes
      have hprefix := (h.reads.delivers.received channel).trans
        ((hdecodes.decoded_prefix h.consumed).filter _)
      have hprefix' := (hreads'.delivers.received channel).trans
        ((hdecodes'.decoded_prefix hconsumed').filter _)
      exact List.prefix_or_prefix_of_prefix hprefix hprefix'
    · intro turns' t hframes' hrun' hconsumed hdrained hdrained' channel
      obtain ⟨hreads', -⟩ := TcpHistory.reads_prefix hframes' hrun'
      obtain ⟨decoded', hdecodes'⟩ := hreads'.decodes
      obtain ⟨hconnected, hwaiting, hqueued⟩ := hdrained
      obtain ⟨hconnected', hwaiting', hqueued'⟩ := hdrained'
      rw [h.reads.delivers.received_eq hconnected (hqueued channel) hwaiting,
        hreads'.delivers.received_eq hconnected' (hqueued' channel) hwaiting',
        hdecodes.decoded_eq hdecodes' hconsumed]

section Runs

instance (frames : List Frame) (s : BulkHistory) : (turn : BulkTurn) →
    Decidable (s.ReadsFrom frames turn)
  | .readBulk result => inferInstanceAs (Decidable (∀ bytes ∈ result.value, _ <+: _))
  | .trySend _ | .tryReceive _ | .stop | .checkCancel | .next | .writeBulk _ | .deliver =>
    .isTrue trivial

instance (s : BulkHistory) : (turn : BulkTurn) → Decidable (s.Room turn)
  | .deliver => inferInstanceAs (Decidable (∀ packet ∈ s.worker.point.packets.head?, _))
  | .trySend _ | .tryReceive _ | .stop | .checkCancel | .next | .writeBulk _ | .readBulk _ =>
    .isTrue trivial

private def captureStart : List Frame :=
  [.empty .ping 0, .empty .videoFrame 1, .empty .videoFrame 2, .empty .videoFrame 3,
    .empty .videoFrame 4]

private def pingRead : Bytes := Frame.stream.encodeAll (captureStart.take 1)

private def burstRead : Bytes := Frame.stream.encodeAll (captureStart.drop 1)

/-- Every decoded packet is received before the next read. -/
private def drainedTurns : List BulkTurn :=
  [.checkCancel, .next, .next, .next, .readBulk (.ok pingRead), .deliver, .deliver,
    .tryReceive .control]

private def burstTurns : List BulkTurn :=
  drainedTurns ++ [.checkCancel, .next, .next, .next, .readBulk (.ok burstRead), .deliver, .deliver,
    .deliver, .deliver]

/-- The same reads, and the same consumer until the burst. -/
private def tcpTurns : List TcpTurn :=
  [.checkCancel, .drainInbound, .next, .next, .next, .read (.ok pingRead), .checkCancel,
    .drainInbound, .drainInbound, .tryReceive .control, .next, .next, .next,
    .read (.ok burstRead), .checkCancel, .drainInbound, .drainInbound, .drainInbound, .drainInbound,
    .next, .next, .next, .tryReceive .media, .tryReceive .media, .tryReceive .media, .checkCancel,
    .drainInbound, .tryReceive .media]

theorem alike_iff_room_drained :
    ∃ s, machine.run start drainedTurns = some s ∧ s.Alike captureStart := by
  have hframes : machine.Admits (ReadsFrom captureStart) start drainedTurns := by decide +kernel
  exact ⟨_, rfl, (alike_iff_room captureStart hframes rfl).mpr (by decide +kernel)⟩

/-- Four video frames in one read, with both queues empty before it, end the accessory worker; the
TCP worker delivers all of them. -/
theorem not_alike_burst :
    ∃ s, machine.run start burstTurns = some s ∧
      machine.Admits (ReadsFrom captureStart) start burstTurns ∧ ¬s.Alike captureStart ∧
      ∃ t, TcpHistory.machine.run .start tcpTurns = some t ∧
        TcpHistory.machine.Admits (TcpHistory.ReadsFrom captureStart) .start tcpTurns ∧
        t.Drained ∧ t.ledger.received .media = (captureStart.drop 1).map packetFromFrame := by
  have hrejected : (machine.run start burstTurns).any fun s => s.worker.point =
      .stopped (.error (.queueRejected
        (.full (packetFromFrame (.empty .videoFrame 4)) ⟨3, 72⟩ usbMediaLimits))) := by
    decide +kernel
  obtain ⟨s, hrun, hpoint⟩ := Option.any_eq_true _ _ |>.mp hrejected
  refine ⟨s, hrun, by decide +kernel, ?_, _, rfl, by decide +kernel, ?_, by decide +kernel⟩
  · intro halike
    exact halike.accepts ⟨_, of_decide_eq_true hpoint⟩
  · refine ⟨by decide +kernel, by decide +kernel, ?_⟩
    intro channel
    cases channel <;> decide +kernel

end Runs

end BulkHistory

end LadoFlow.Host
