import LadoFlow.Android.UsbIoSession
import Mathlib.Data.List.Chain

/-!
# The phone hands on what the host framed

The frames that a session hands on are the first frames in the bytes that it has read, in order and with
rising sequence numbers, and all of them whenever it goes back to reading; the bytes that it has written are
the encodings of the frames that it took from its queue. What ends the session decides its state once, and the
connection is closed once.
-/

namespace LadoFlow.Android

open Framework Protocol

theorem OutboundChannel.Sound.send_waiting {α : Type} {channel : OutboundChannel α} (h : channel.Sound)
    (hopen : channel.closed = false) (payload : α) :
    (channel.send payload).waiting = channel.waiting ++ [payload] := by
  rw [OutboundChannel.send, hopen, if_neg Bool.false_ne_true]
  split
  · rename_i hroom
    simp [OutboundChannel.waiting, h.suspended_nil hroom]
  · simp [OutboundChannel.waiting]

namespace UsbIoSession

/-- Frames as one sender numbers them. -/
def Increasing (frames : List Frame) : Prop := (frames.map (·.header.sequence)).Pairwise (· < ·)

/-- The frames that were received, or that wait to be. -/
def handedOn (s : UsbIoSession) : List LdflFrame := s.log.received ++ s.inbound.waiting

/-- The message of a stream that ends inside a frame. -/
def Trailing (bytes : Bytes) (message : String) : Prop :=
  ∃ frames rest, Framed frames rest bytes ∧ rest ≠ [] ∧
    message = s!"Transport ended with {rest.length} trailing LDFL bytes"

/-- No bytes that a host writes start so. -/
def Offends (bytes : Bytes) : Prop :=
  ∀ stream : List Frame, Increasing stream → ¬ bytes <+: Frame.stream.encodeAll stream

def Reads (s : UsbIoSession) : Prop :=
  match s.reader with
  | .running later | .sending later => ∃ frames rest,
    Framed frames rest (unsigned s.log.bytesRead) ∧ s.decoder.buffer = signed rest ∧
      s.handedOn ++ later = frames.map FrameCodec.ofFrame ∧
      s.inboundSequences.highest = (s.handedOn.map (·.sequence)).getLast?
  | .returned => ∃ frames rest,
    unsigned s.log.bytesRead = Frame.stream.encodeAll frames ++ rest ∧
      s.handedOn <+: frames.map FrameCodec.ofFrame

/-- Only the read loop sends to the inbound queue. -/
def Alone (s : UsbIoSession) : Prop :=
  match s.reader with
  | .sending _ => s.inbound.suspended.length ≤ 1
  | _ => s.inbound.suspended = []

structure ReadInv (s : UsbIoSession) : Prop where
  sound : s.inbound.Sound
  limit : s.decoder.bufferLimit = ldflDefaultBufferLimitBytes
  alone : s.Alone
  reads : s.Reads
  ordered : (s.handedOn.map (·.sequence)).IsChain (· < ·)
  refused : ∀ message, s.state = .failed .protocol message → s.reader = .returned ∧
    (Trailing (unsigned s.log.bytesRead) message ∨ Offends (unsigned s.log.bytesRead))

def Writes (s : UsbIoSession) : Prop :=
  match s.writer with
  | .receiving => ∃ frames, s.log.taken = frames.map FrameCodec.ofFrame ∧
    unsigned s.log.bytesWritten = Frame.stream.encodeAll frames
  | .writing current => ∃ frames last, s.log.taken = (frames ++ [last]).map FrameCodec.ofFrame ∧
    current = FrameCodec.ofFrame last ∧ unsigned s.log.bytesWritten = Frame.stream.encodeAll frames
  | .returned => ∃ frames, s.log.taken = frames.map FrameCodec.ofFrame ∧
    unsigned s.log.bytesWritten <+: Frame.stream.encodeAll frames

structure WriteInv (s : UsbIoSession) : Prop where
  sound : s.controlOutbound.Sound
  writes : s.Writes
  inOrder : (s.log.taken ++ s.controlOutbound.waiting).Sublist s.log.queued

/-- The session runs until it terminates; then its connection is closed once. -/
structure EndInv (s : UsbIoSession) : Prop where
  running : s.state = .running ↔ s.terminated = none
  untouched : s.terminated = none → s.log.connectionCloses = 0
  released : ∀ resources, s.terminated = some resources → resources.Nodup ∧
    s.log.connectionCloses = if .connection ∈ resources then 0 else 1

variable {s t : UsbIoSession} {step : UsbIoStep} {kind : UsbIoFailureKind} {message : String}

/-- What the read loop and the collector work on. -/
def readSide (s : UsbIoSession) := (s.decoder, s.inboundSequences, s.inbound, s.state, s.reader,
  s.log.bytesRead, s.log.received)

/-- What the write loop and the senders work on. -/
def writeSide (s : UsbIoSession) := (s.controlOutbound, s.writer, s.log.queued, s.log.taken,
  s.log.bytesWritten)

def endSide (s : UsbIoSession) := (s.state, s.terminated, s.log.connectionCloses)

section Sides

theorem ReadInv.congr (h : s.ReadInv) (hsame : t.readSide = s.readSide) : t.ReadInv := by
  simp only [readSide, Prod.mk.injEq] at hsame
  obtain ⟨hdecoder, hsequences, hinbound, hstate, hreader, hbytes, hreceived⟩ := hsame
  have hhanded : t.handedOn = s.handedOn := by
    rw [handedOn, handedOn, hreceived, hinbound]
  refine ⟨?_, ?_, ?_, ?_, ?_, ?_⟩
  · exact hinbound ▸ h.sound
  · exact hdecoder ▸ h.limit
  · rw [Alone, hreader, hinbound]
    exact h.alone
  · rw [Reads, hreader, hbytes, hdecoder, hsequences, hhanded]
    exact h.reads
  · exact hhanded ▸ h.ordered
  · rw [hstate, hreader, hbytes]
    exact h.refused

theorem WriteInv.congr (h : s.WriteInv) (hsame : t.writeSide = s.writeSide) : t.WriteInv := by
  simp only [writeSide, Prod.mk.injEq] at hsame
  obtain ⟨houtbound, hwriter, hqueued, htaken, hwritten⟩ := hsame
  refine ⟨houtbound ▸ h.sound, ?_, ?_⟩
  · rw [Writes, hwriter, htaken, hwritten]
    exact h.writes
  · rw [houtbound, hqueued, htaken]
    exact h.inOrder

theorem EndInv.congr (h : s.EndInv) (hsame : t.endSide = s.endSide) : t.EndInv := by
  simp only [endSide, Prod.mk.injEq] at hsame
  obtain ⟨hstate, hterminated, hcloses⟩ := hsame
  refine ⟨?_, ?_, ?_⟩
  · rw [hstate, hterminated]
    exact h.running
  · rw [hterminated, hcloses]
    exact h.untouched
  · rw [hterminated, hcloses]
    exact h.released

end Sides

section Terminate

theorem terminateAs_eq (state : UsbIoSessionState) :
    s.terminateAs state = { s with
      state := (s.terminateAs state).state
      terminated := (s.terminateAs state).terminated } := by
  rw [terminateAs]
  split <;> rfl

theorem terminateAs_state (state : UsbIoSessionState) :
    (s.terminateAs state).state = s.state ∨ (s.terminateAs state).state = state := by
  rw [terminateAs]
  split
  · exact .inl rfl
  · exact .inr rfl

theorem failRead_eq : s.failRead kind message = { s with
    state := (s.terminate kind message).state
    terminated := (s.terminate kind message).terminated
    reader := .returned } := by
  rw [failRead, terminate, terminateAs_eq]

theorem failWrite_eq : s.failWrite message = { s with
    state := (s.terminate .io message).state
    terminated := (s.terminate .io message).terminated
    writer := .returned } := by
  rw [failWrite, terminate, terminateAs_eq]

end Terminate

section Read

/-- A read loop that has not returned has not refused the stream. -/
theorem ReadInv.not_refused (h : s.ReadInv) (hreader : s.reader ≠ .returned) (message : String) :
    s.state ≠ .failed .protocol message :=
  fun hstate => hreader (h.refused message hstate).1

theorem ReadInv.terminateAs (h : s.ReadInv) {state : UsbIoSessionState}
    (hstate : ∀ message, state ≠ .failed .protocol message) : (s.terminateAs state).ReadInv := by
  have hrefused : ∀ message, (s.terminateAs state).state = .failed .protocol message →
      s.reader = .returned ∧
        (Trailing (unsigned s.log.bytesRead) message ∨ Offends (unsigned s.log.bytesRead)) := by
    intro message hmessage
    rcases @terminateAs_state s state with heq | heq
    · exact h.refused message (heq ▸ hmessage)
    · exact absurd (heq ▸ hmessage) (hstate message)
  rw [terminateAs_eq]
  exact ⟨h.sound, h.limit, h.alone, h.reads, h.ordered, hrefused⟩

/-- The read loop leaves, and what it has handed on stays. -/
theorem ReadInv.failRead (hsound : s.inbound.Sound)
    (hlimit : s.decoder.bufferLimit = ldflDefaultBufferLimitBytes) (halone : s.inbound.suspended = [])
    (hreads : ∃ frames rest, unsigned s.log.bytesRead = Frame.stream.encodeAll frames ++ rest ∧
      s.handedOn <+: frames.map FrameCodec.ofFrame)
    (hordered : (s.handedOn.map (·.sequence)).IsChain (· < ·))
    (hold : ∀ message, s.state ≠ .failed .protocol message)
    (hnew : kind = .protocol →
      Trailing (unsigned s.log.bytesRead) message ∨ Offends (unsigned s.log.bytesRead)) :
    (s.failRead kind message).ReadInv := by
  have hrefused : ∀ text, (s.terminate kind message).state = .failed .protocol text →
      UsbReadPoint.returned = .returned ∧
        (Trailing (unsigned s.log.bytesRead) text ∨ Offends (unsigned s.log.bytesRead)) := by
    intro text htext
    rcases @terminateAs_state s (.failed kind message) with heq | heq
    · exact absurd (heq ▸ htext) (hold text)
    · rw [terminate, heq] at htext
      cases htext
      exact ⟨rfl, hnew rfl⟩
  rw [failRead_eq]
  exact ⟨hsound, hlimit, halone, hreads, hordered, hrefused⟩

/-- The frames that were handed on are the first in the bytes that were read. -/
theorem ReadInv.starts (h : s.ReadInv) : ∃ frames rest,
    unsigned s.log.bytesRead = Frame.stream.encodeAll frames ++ rest ∧
      s.handedOn <+: frames.map FrameCodec.ofFrame := by
  have hreads := h.reads
  cases hreader : s.reader with
  | returned =>
    rw [Reads, hreader] at hreads
    exact hreads
  | running later | sending later =>
    rw [Reads, hreader] at hreads
    obtain ⟨frames, rest, hframes, -, hhanded, -⟩ := hreads
    exact ⟨frames, rest, hframes.1, hhanded ▸ List.prefix_append _ _⟩

theorem read_ok {decoder : IncrementalFrameDecoder} {found : List LdflFrame} {bytes : List Int8}
    (hsome : bytes ≠ []) (hpush : s.decoder.push bytes = (decoder, .ok found)) :
    s.read (.count bytes) =
      { s with log.bytesRead := s.log.bytesRead ++ bytes, decoder, reader := .running found } := by
  cases bytes with
  | nil => exact absurd rfl hsome
  | cons byte more => simp only [UsbIoSession.read, hpush]

theorem read_error {decoder : IncrementalFrameDecoder} {exception : LdflProtocolException}
    {bytes : List Int8} (hsome : bytes ≠ [])
    (hpush : s.decoder.push bytes = (decoder, .error exception)) :
    s.read (.count bytes) =
      UsbIoSession.failRead { s with log.bytesRead := s.log.bytesRead ++ bytes, decoder }
        .protocol exception.message := by
  cases bytes with
  | nil => exact absurd rfl hsome
  | cons byte more => simp only [UsbIoSession.read, hpush]

/-- A read keeps to the bytes that it adds. -/
theorem ReadInv.read (h : s.ReadInv) (hreader : s.reader = .running []) (result : UsbRead)
    (hcount : ∀ bytes, result = .count bytes → bytes.length ≤ usbReadBufferBytes) :
    (s.read result).ReadInv := by
  have halone : s.inbound.suspended = [] := by
    have halone := h.alone
    rwa [Alone, hreader] at halone
  have hreads := h.reads
  rw [Reads, hreader] at hreads
  obtain ⟨frames, rest, hframes, hbuffer, hhanded, hhighest⟩ := hreads
  rw [List.append_nil] at hhanded
  have hnot := h.not_refused (by simp [hreader])
  have hleft : ∃ frames rest, unsigned s.log.bytesRead = Frame.stream.encodeAll frames ++ rest ∧
      s.handedOn <+: frames.map FrameCodec.ofFrame :=
    ⟨frames, rest, hframes.1, hhanded ▸ List.prefix_rfl⟩
  cases result with
  | endOfStream =>
    rw [UsbIoSession.read]
    split
    · rename_i htrailing
      rw [IncrementalFrameDecoder.bufferedBytes, hbuffer, signed_length] at htrailing ⊢
      exact .failRead h.sound h.limit halone hleft h.ordered hnot fun _ =>
        .inl ⟨frames, rest, hframes, List.length_pos_iff.mp htrailing, rfl⟩
    · exact .failRead h.sound h.limit halone hleft h.ordered hnot (by simp)
  | threw message => exact .failRead h.sound h.limit halone hleft h.ordered hnot (by simp)
  | count bytes =>
    cases hbytes : bytes with
    | nil => exact h
    | cons byte more =>
      rw [← hbytes]
      have hsome : bytes ≠ [] := by simp [hbytes]
      have hlength := hcount bytes rfl
      have hrest := needsMore_length hframes.2
      have hroom : rest.length + (unsigned bytes).length ≤ s.decoder.bufferLimit := by
        rw [h.limit, unsigned, List.length_map]
        simp only [usbReadBufferBytes, frameHeaderLen, maxMediaPayload, ldflDefaultBufferLimitBytes,
          ldflFrameHeaderBytes, ldflMaxMediaPayloadBytes] at hlength hrest ⊢
        omega
      have happend : unsigned (s.log.bytesRead ++ bytes) = unsigned s.log.bytesRead ++ unsigned bytes :=
        List.map_append
      rcases IncrementalFrameDecoder.push_signed hbuffer hroom with
        ⟨found, rest', hfound, hpush⟩ | ⟨exception, hbroken, hpush⟩
      · rw [signed_unsigned] at hpush
        rw [read_ok hsome hpush]
        refine ⟨h.sound, h.limit, halone, ⟨frames ++ found, rest', ?_, rfl, ?_, hhighest⟩, h.ordered,
          ?_⟩
        · rw [happend]
          exact hframes.append hfound
        · change s.handedOn ++ _ = _
          rw [hhanded, List.map_append]
        · exact fun message hstate => absurd hstate (hnot message)
      · rw [signed_unsigned] at hpush
        rw [read_error hsome hpush]
        refine .failRead h.sound h.limit halone ⟨frames, rest ++ unsigned bytes, ?_, ?_⟩ h.ordered hnot
          fun _ => .inr fun stream _ => ?_
        · rw [happend, hframes.1, List.append_assoc]
        · exact hhanded ▸ List.prefix_rfl
        · rw [happend]
          exact (hframes.misframed hbroken).not_starts stream

/-- A frame that the validator refuses is in no host's stream. -/
theorem offends_of_observe {frames : List Frame} {rest bytes : Bytes} {before later : List LdflFrame}
    {frame : LdflFrame} {validator : MonotonicSequenceValidator} {exception : LdflProtocolException}
    (hframes : Framed frames rest bytes)
    (hhanded : before ++ frame :: later = frames.map FrameCodec.ofFrame)
    (hhighest : validator.highest = (before.map (·.sequence)).getLast?)
    (hobserve : validator.observe frame.sequence = .error exception) : Offends bytes := by
  intro stream hstream hstarts
  have hincreasing : (frames.map (·.header.sequence)).Pairwise (· < ·) :=
    hstream.sublist ((starts_of_encodeAll (hframes.1 ▸ hstarts)).sublist.map _)
  have hsequences : frames.map (·.header.sequence) = (before ++ frame :: later).map (·.sequence) := by
    rw [hhanded, List.map_map]
    rfl
  rw [hsequences, List.map_append, List.map_cons, List.pairwise_append] at hincreasing
  rw [MonotonicSequenceValidator.observe, hhighest] at hobserve
  cases hlast : (before.map (·.sequence)).getLast? with
  | none =>
    rw [hlast] at hobserve
    cases hobserve
  | some last =>
    have hless := hincreasing.2.2 last (List.mem_of_getLast? hlast) frame.sequence List.mem_cons_self
    rw [hlast] at hobserve
    dsimp only at hobserve
    rw [if_pos hless] at hobserve
    cases hobserve

theorem observe_eq_ok {validator validator' : MonotonicSequenceValidator} {sequence : UInt64}
    (h : validator.observe sequence = .ok validator') : validator'.highest = some sequence ∧
      ∀ previous ∈ validator.highest, previous < sequence := by
  rw [MonotonicSequenceValidator.observe] at h
  split at h
  · rename_i hnone
    cases h
    simp [hnone]
  · rename_i previous hsome
    split at h
    · rename_i hless
      cases h
      simpa [hsome] using hless
    · cases h

/-- The next frame goes to the inbound queue, or the read loop leaves. -/
theorem ReadInv.deliver (h : s.ReadInv) {frame : LdflFrame} {later : List LdflFrame}
    (hreader : s.reader = .running (frame :: later)) : (s.deliver frame later).ReadInv := by
  have halone : s.inbound.suspended = [] := by
    have halone := h.alone
    rwa [Alone, hreader] at halone
  have hreads := h.reads
  rw [Reads, hreader] at hreads
  obtain ⟨frames, rest, hframes, hbuffer, hhanded, hhighest⟩ := hreads
  have hnot := h.not_refused (by simp [hreader])
  have hleft : ∃ frames rest, unsigned s.log.bytesRead = Frame.stream.encodeAll frames ++ rest ∧
      s.handedOn <+: frames.map FrameCodec.ofFrame :=
    ⟨frames, rest, hframes.1, hhanded ▸ List.prefix_append _ _⟩
  rw [UsbIoSession.deliver]
  cases hobserve : s.inboundSequences.observe frame.sequence with
  | error exception =>
    exact .failRead h.sound h.limit halone hleft h.ordered hnot fun _ =>
      .inr (offends_of_observe hframes hhanded hhighest hobserve)
  | ok validator =>
    obtain ⟨hnew, hless⟩ := observe_eq_ok hobserve
    dsimp only
    split
    · exact .failRead h.sound h.limit halone hleft h.ordered hnot (by simp)
    · rename_i hopen
      have hopen : s.inbound.closed = false := Bool.eq_false_iff.mpr hopen
      have hwaiting : s.log.received ++ (s.inbound.send frame).waiting = s.handedOn ++ [frame] := by
        rw [h.sound.send_waiting hopen, ← List.append_assoc]
        rfl
      have hreads' : ∃ frames rest, Framed frames rest (unsigned s.log.bytesRead) ∧
          s.decoder.buffer = signed rest ∧
          (s.log.received ++ (s.inbound.send frame).waiting) ++ later =
            frames.map FrameCodec.ofFrame ∧
          validator.highest =
            ((s.log.received ++ (s.inbound.send frame).waiting).map (·.sequence)).getLast? := by
        refine ⟨frames, rest, hframes, hbuffer, ?_, ?_⟩
        · rw [hwaiting, List.append_assoc]
          exact hhanded
        · rw [hwaiting, List.map_append, List.map_singleton, List.getLast?_concat]
          exact hnew
      have hordered : ((s.log.received ++ (s.inbound.send frame).waiting).map (·.sequence)).IsChain
          (· < ·) := by
        rw [hwaiting, List.map_append, List.isChain_append]
        refine ⟨h.ordered, by simp, ?_⟩
        intro previous hprevious sequence hsequence
        simp only [List.map_singleton, List.head?_cons, Option.mem_some_iff] at hsequence
        exact hsequence ▸ hless previous (hhighest ▸ hprevious)
      refine ⟨(h.sound.send frame).1, h.limit, ?_, ?_, hordered,
        fun message hstate => absurd hstate (hnot message)⟩
      · by_cases hroom : s.inbound.buffer.length < s.inbound.capacity
        · simp [Alone, OutboundChannel.hasRoom, OutboundChannel.send, hopen, hroom, halone]
        · simp [Alone, OutboundChannel.hasRoom, OutboundChannel.send, hopen, hroom, halone]
      · by_cases hroom : s.inbound.hasRoom
        · simpa [Reads, hroom, handedOn] using hreads'
        · simpa [Reads, hroom, handedOn] using hreads'

/-- The collector takes the first frame of the inbound queue. -/
theorem ReadInv.receive (h : s.ReadInv) {frame : LdflFrame} {buffer : List LdflFrame}
    (hbuffer : s.inbound.buffer = frame :: buffer) :
    ReadInv { s with
      inbound := { s.inbound with
        buffer := buffer ++ s.inbound.suspended.take 1
        suspended := s.inbound.suspended.drop 1 }
      log.received := s.log.received ++ [frame] } := by
  obtain ⟨hsound, hwaiting⟩ := h.sound.received hbuffer
  have hhanded : (s.log.received ++ [frame]) ++
      ((buffer ++ s.inbound.suspended.take 1) ++ s.inbound.suspended.drop 1) = s.handedOn := by
    rw [handedOn, hwaiting, List.append_assoc, List.singleton_append]
  have halone := h.alone
  have hreads := h.reads
  have hordered := h.ordered
  rw [← hhanded] at hordered
  refine ⟨hsound, h.limit, ?_, ?_, hordered, h.refused⟩
  · rw [Alone] at halone ⊢
    cases hreader : s.reader with
    | sending later =>
      rw [hreader] at halone
      simp only [List.length_drop]
      omega
    | running later =>
      rw [hreader] at halone
      simp [halone]
    | returned =>
      rw [hreader] at halone
      simp [halone]
  · rw [Reads, ← hhanded] at hreads
    exact hreads

/-- The cancelled read loop takes back the frame that found no room. -/
theorem ReadInv.cancelRead (h : s.ReadInv) {later : List LdflFrame} (hreader : s.reader = .sending later) :
    ReadInv { s with inbound := s.inbound.cancelSend 0, reader := .returned } := by
  have halone := h.alone
  rw [Alone, hreader] at halone
  have hreads := h.reads
  rw [Reads, hreader] at hreads
  obtain ⟨frames, rest, hframes, -, hhanded, -⟩ := hreads
  have hnil : (s.inbound.cancelSend 0).suspended = [] := by
    rw [OutboundChannel.cancelSend]
    cases hsuspended : s.inbound.suspended with
    | nil => rfl
    | cons first more =>
      rw [hsuspended, List.length_cons] at halone
      have hmore : more = [] := List.length_eq_zero_iff.mp (by omega)
      simp [hmore]
  have hstarts : s.log.received ++ (s.inbound.cancelSend 0).waiting <+: s.handedOn := by
    rw [OutboundChannel.waiting, hnil, List.append_nil, handedOn, OutboundChannel.waiting,
      ← List.append_assoc]
    exact List.prefix_append _ _
  refine ⟨(h.sound.cancelSend 0).1, h.limit, hnil, ⟨frames, rest, hframes.1, ?_⟩, ?_, ?_⟩
  · exact hstarts.trans (hhanded ▸ List.prefix_append _ _)
  · exact List.isChain_iff_pairwise.mpr
      ((List.isChain_iff_pairwise.mp h.ordered).sublist (hstarts.map _).sublist)
  · exact fun message hstate =>
      absurd hstate (h.not_refused (by simp [hreader]) message)

end Read

section Write

theorem encode_frame (frame : Frame) :
    FrameCodec.encode (FrameCodec.ofFrame frame) = .ok (signed (Frame.stream.encode frame)) :=
  FrameCodec.encode_ofFrame frame

/-- What was written begins a stream of the frames that were taken. -/
theorem WriteInv.stream (h : s.WriteInv) : ∃ frames, s.log.taken = frames.map FrameCodec.ofFrame ∧
    unsigned s.log.bytesWritten <+: Frame.stream.encodeAll frames := by
  have hwrites := h.writes
  cases hwriter : s.writer with
  | receiving =>
    rw [Writes, hwriter] at hwrites
    obtain ⟨frames, htaken, hwritten⟩ := hwrites
    exact ⟨frames, htaken, hwritten ▸ List.prefix_rfl⟩
  | writing current =>
    rw [Writes, hwriter] at hwrites
    obtain ⟨frames, last, htaken, -, hwritten⟩ := hwrites
    refine ⟨frames ++ [last], htaken, ?_⟩
    rw [hwritten, PrefixDecoder.encodeAll_append]
    exact List.prefix_append _ _
  | returned =>
    rw [Writes, hwriter] at hwrites
    exact hwrites

/-- A frame goes out as the host's encoding of it, whole or cut off. -/
theorem WriteInv.write (h : s.WriteInv) {frame : LdflFrame} (hwriter : s.writer = .writing frame)
    (failure : Option (Nat × Option String)) : (s.write frame failure).WriteInv := by
  have hwrites := h.writes
  rw [Writes, hwriter] at hwrites
  obtain ⟨frames, last, htaken, rfl, hwritten⟩ := hwrites
  have happend (bytes : Bytes) : unsigned (s.log.bytesWritten ++ signed bytes) =
      Frame.stream.encodeAll frames ++ bytes := by
    rw [unsigned, List.map_append, ← unsigned, ← unsigned, unsigned_signed, hwritten]
  have hall : Frame.stream.encodeAll (frames ++ [last]) =
      Frame.stream.encodeAll frames ++ Frame.stream.encode last := by simp
  cases failure with
  | none =>
    simp only [UsbIoSession.write, encode_frame]
    refine ⟨h.sound, ⟨frames ++ [last], htaken, ?_⟩, h.inOrder⟩
    rw [happend, hall]
  | some cut =>
    obtain ⟨part, message⟩ := cut
    simp only [UsbIoSession.write, encode_frame]
    rw [failWrite_eq]
    refine ⟨h.sound, ⟨frames ++ [last], htaken, ?_⟩, h.inOrder⟩
    change unsigned (s.log.bytesWritten ++ (signed (Frame.stream.encode last)).take part) <+: _
    rw [← signed_take, happend, hall]
    exact (List.prefix_append_right_inj _).mpr ⟨_, List.take_append_drop part _⟩

/-- The write loop takes the first frame of its queue, or leaves a closed one. -/
theorem WriteInv.take (h : s.WriteInv) (ht : s.next .take = some t) : t.WriteInv := by
  simp only [next] at ht
  cases hwriter : s.writer with
  | writing frame => simp [hwriter] at ht
  | returned => simp [hwriter] at ht
  | receiving =>
    have hwrites := h.writes
    rw [Writes, hwriter] at hwrites
    obtain ⟨frames, htaken, hwritten⟩ := hwrites
    cases hbuffer : s.controlOutbound.buffer with
    | nil =>
      by_cases hclosed : s.controlOutbound.closed
      · simp only [hwriter, OutboundChannel.tryReceive, hbuffer, hclosed, if_true, Option.some.injEq] at ht
        subst ht
        exact ⟨h.sound, ⟨frames, htaken, hwritten ▸ List.prefix_rfl⟩, h.inOrder⟩
      · simp [hwriter, OutboundChannel.tryReceive, hbuffer, hclosed] at ht
    | cons frame buffer =>
      simp only [hwriter, OutboundChannel.tryReceive, hbuffer, Option.some.injEq] at ht
      subst ht
      obtain ⟨hsound, hwaiting⟩ := h.sound.received hbuffer
      obtain ⟨last, hlast⟩ := FrameCodec.ofFrame_bijective.2 frame
      refine ⟨hsound, ⟨frames, last, ?_, hlast.symm, hwritten⟩, ?_⟩
      · rw [htaken, List.map_append, List.map_singleton, hlast]
      · have hinOrder := h.inOrder
        rw [hwaiting] at hinOrder
        simpa [OutboundChannel.waiting] using hinOrder

theorem WriteInv.sendControl (h : s.WriteInv) (frame : LdflFrame) : (s.sendControl frame).WriteInv := by
  rw [UsbIoSession.sendControl]
  split
  · exact h
  split
  · exact h
  · rename_i hopen
    refine ⟨(h.sound.send frame).1, h.writes, ?_⟩
    dsimp only
    rw [h.sound.send_waiting (Bool.eq_false_iff.mpr hopen), ← List.append_assoc]
    exact h.inOrder.append_right [frame]

theorem WriteInv.trySendControl (h : s.WriteInv) (frame : LdflFrame) :
    (s.trySendControl frame).2.WriteInv := by
  rw [UsbIoSession.trySendControl]
  split
  · exact h
  split
  · rename_i channel hsend
    obtain ⟨hsound, hwaiting⟩ := h.sound.trySend frame
    rw [hsend] at hsound hwaiting
    refine ⟨hsound, h.writes, ?_⟩
    rcases hwaiting with heq | rfl
    · dsimp only at heq ⊢
      rw [heq, ← List.append_assoc]
      exact h.inOrder.append_right [frame]
    · exact h.inOrder.trans (List.sublist_append_left _ _)
  · exact h

end Write

section End

theorem EndInv.terminateAs (h : s.EndInv) {state : UsbIoSessionState} (hstate : state ≠ .running) :
    (s.terminateAs state).EndInv := by
  rw [UsbIoSession.terminateAs]
  split
  · exact h
  · rename_i hnone
    refine ⟨by simpa using hstate, by simp, ?_⟩
    rintro resources hresources
    cases hresources
    exact ⟨by decide, by simpa using h.untouched hnone⟩

theorem EndInv.failRead (h : s.EndInv) : (s.failRead kind message).EndInv := by
  have hended : (s.terminate kind message).EndInv := h.terminateAs (by simp)
  exact hended.congr rfl

theorem EndInv.failWrite (h : s.EndInv) : (s.failWrite message).EndInv := by
  have hended : (s.terminate .io message).EndInv := h.terminateAs (by simp)
  exact hended.congr rfl

theorem EndInv.closeResource (h : s.EndInv) {resource : UsbIoResource} {resources : List UsbIoResource}
    (hterminated : s.terminated = some (resource :: resources)) :
    EndInv { s.closeResource resource with terminated := some resources } := by
  obtain ⟨hnodup, hcloses⟩ := h.released _ hterminated
  have hrunning : s.state ≠ .running := fun hstate => by simp [h.running.mp hstate] at hterminated
  obtain ⟨hnotMem, hrest⟩ := List.nodup_cons.mp hnodup
  cases resource with
  | connection =>
    refine ⟨by simpa [UsbIoSession.closeResource] using hrunning, by simp, ?_⟩
    rintro left hleft
    cases hleft
    refine ⟨hrest, ?_⟩
    simp only [UsbIoSession.closeResource, hcloses, List.mem_cons_self, if_true, if_neg hnotMem]
  | inbound | controlOutbound | sessionJob =>
    refine ⟨by simpa [UsbIoSession.closeResource] using hrunning, by simp, ?_⟩
    rintro left hleft
    cases hleft
    refine ⟨hrest, ?_⟩
    simpa [UsbIoSession.closeResource] using hcloses

end End

section Log

@[simp] theorem terminateAs_log (state : UsbIoSessionState) : (s.terminateAs state).log = s.log := by
  rw [terminateAs_eq]

@[simp] theorem failRead_log : (s.failRead kind message).log = s.log := by
  rw [failRead_eq]

@[simp] theorem failWrite_log : (s.failWrite message).log = s.log := by
  rw [failWrite_eq]

@[simp] theorem deliver_log (frame : LdflFrame) (later : List LdflFrame) :
    (s.deliver frame later).log = s.log := by
  rw [deliver]
  split
  · exact failRead_log
  · dsimp only
    split
    · exact failRead_log
    · rfl

theorem read_log (result : UsbRead) : (s.read result).log.bytesWritten = s.log.bytesWritten ∧
    ((s.read result).log.bytesRead = s.log.bytesRead ∨ ∃ bytes, result = .count bytes ∧
      (s.read result).log.bytesRead = s.log.bytesRead ++ bytes) := by
  rw [UsbIoSession.read.eq_def]
  split
  · split
    · rw [failRead_log]
      exact ⟨rfl, .inl rfl⟩
    · rw [failRead_log]
      exact ⟨rfl, .inl rfl⟩
  · rw [failRead_log]
    exact ⟨rfl, .inl rfl⟩
  · exact ⟨rfl, .inl rfl⟩
  · dsimp only
    split
    · rw [failRead_log]
      exact ⟨rfl, .inr ⟨_, rfl, rfl⟩⟩
    · exact ⟨rfl, .inr ⟨_, rfl, rfl⟩⟩

theorem write_log (frame : LdflFrame) (failure : Option (Nat × Option String)) :
    (s.write frame failure).log.bytesRead = s.log.bytesRead ∧
      s.log.bytesWritten <+: (s.write frame failure).log.bytesWritten := by
  rw [UsbIoSession.write.eq_def]
  split
  · rw [failWrite_log]
    exact ⟨rfl, List.prefix_rfl⟩
  · exact ⟨rfl, List.prefix_append _ _⟩
  · rw [failWrite_log]
    exact ⟨rfl, List.prefix_append _ _⟩

/-- A step adds to what was written, and to what was read only the bytes that it takes. -/
theorem log_step (hstep : s.next step = some t) : s.log.bytesWritten <+: t.log.bytesWritten ∧
    (t.log.bytesRead = s.log.bytesRead ∨
      ∃ bytes ∈ step.bytes, t.log.bytesRead = s.log.bytesRead ++ bytes) := by
  cases step with
  | read result =>
    have ht : t = s.read result := by
      simp only [next] at hstep
      split at hstep
      · split at hstep <;> cases hstep
        rfl
      · cases hstep
        rfl
      · cases hstep
    obtain ⟨hwritten, hread⟩ := s.read_log result
    rw [ht, hwritten]
    refine ⟨List.prefix_rfl, ?_⟩
    rcases hread with hsame | ⟨bytes, rfl, hmore⟩
    · exact .inl hsame
    · exact .inr ⟨bytes, rfl, hmore⟩
  | write failure =>
    simp only [next] at hstep
    split at hstep <;> cases hstep
    obtain ⟨hread, hwritten⟩ := s.write_log _ failure
    exact ⟨hwritten, .inl hread⟩
  | deliver =>
    simp only [next] at hstep
    split at hstep <;> cases hstep
    rw [deliver_log]
    exact ⟨List.prefix_rfl, .inl rfl⟩
  | sendControl frame =>
    cases hstep
    rw [sendControl]
    split
    · exact ⟨List.prefix_rfl, .inl rfl⟩
    · split <;> exact ⟨List.prefix_rfl, .inl rfl⟩
  | trySendControl frame =>
    cases hstep
    rw [trySendControl]
    split
    · exact ⟨List.prefix_rfl, .inl rfl⟩
    · split <;> exact ⟨List.prefix_rfl, .inl rfl⟩
  | close =>
    cases hstep
    rw [close, terminateAs_log]
    exact ⟨List.prefix_rfl, .inl rfl⟩
  | closeResource =>
    simp only [next] at hstep
    split at hstep <;> cases hstep
    rename_i resource resources hterminated
    cases resource <;> exact ⟨List.prefix_rfl, .inl rfl⟩
  | cancelSend index =>
    cases hstep
    exact ⟨List.prefix_rfl, .inl rfl⟩
  | resumeRead | cancelRead | take | cancelWrite | receive =>
    simp only [next] at hstep
    split at hstep <;> cases hstep <;> exact ⟨List.prefix_rfl, .inl rfl⟩

end Log

/-- The read side of a session, its write side, and its end. -/
structure Inv (s : UsbIoSession) : Prop where
  reads : s.ReadInv
  writes : s.WriteInv
  ends : s.EndInv

theorem inv_start : start.Inv where
  reads := ⟨OutboundChannel.sound_new (by decide), rfl, rfl, ⟨[], [], .nil, rfl, rfl, rfl⟩, by
    simp [start, handedOn, OutboundChannel.waiting, OutboundChannel.new], by simp [start]⟩
  writes := ⟨OutboundChannel.sound_new (by decide), ⟨[], rfl, rfl⟩, by
    simp [start, OutboundChannel.waiting, OutboundChannel.new]⟩
  ends := ⟨by simp [start], by simp [start], by simp [start]⟩

section Frame

/-- A write leaves the read side as it is, but for the state that its failure may set. -/
theorem ReadInv.write (h : s.ReadInv) (frame : LdflFrame) (failure : Option (Nat × Option String)) :
    (s.write frame failure).ReadInv := by
  have hfail (t : UsbIoSession) (ht : t.ReadInv) (message : String) : (t.failWrite message).ReadInv := by
    have hended : (t.terminateAs (.failed .io message)).ReadInv := ht.terminateAs (by simp)
    exact hended.congr rfl
  rw [UsbIoSession.write.eq_def]
  split
  · exact hfail s h _
  · exact h.congr rfl
  · refine hfail _ ?_ _
    exact h.congr rfl

theorem WriteInv.terminateAs (h : s.WriteInv) (state : UsbIoSessionState) :
    (s.terminateAs state).WriteInv := by
  rw [terminateAs_eq]
  exact h.congr rfl

theorem WriteInv.failRead (h : s.WriteInv) : (s.failRead kind message).WriteInv := by
  rw [failRead_eq]
  exact h.congr rfl

theorem WriteInv.read (h : s.WriteInv) (result : UsbRead) : (s.read result).WriteInv := by
  rw [UsbIoSession.read.eq_def]
  split
  · split
    · exact h.failRead
    · exact h.failRead
  · exact h.failRead
  · exact h
  · dsimp only
    split
    · exact .failRead (h.congr rfl)
    · exact h.congr rfl

theorem WriteInv.deliver (h : s.WriteInv) (frame : LdflFrame) (later : List LdflFrame) :
    (s.deliver frame later).WriteInv := by
  rw [UsbIoSession.deliver]
  split
  · exact h.failRead
  · dsimp only
    split
    · exact .failRead (h.congr rfl)
    · exact h.congr rfl

theorem EndInv.read (h : s.EndInv) (result : UsbRead) : (s.read result).EndInv := by
  rw [UsbIoSession.read.eq_def]
  split
  · split
    · exact h.failRead
    · exact h.failRead
  · exact h.failRead
  · exact h
  · dsimp only
    split
    · exact .failRead (h.congr rfl)
    · exact h.congr rfl

theorem EndInv.deliver (h : s.EndInv) (frame : LdflFrame) (later : List LdflFrame) :
    (s.deliver frame later).EndInv := by
  rw [UsbIoSession.deliver]
  split
  · exact h.failRead
  · dsimp only
    split
    · exact .failRead (h.congr rfl)
    · exact h.congr rfl

theorem EndInv.write (h : s.EndInv) (frame : LdflFrame) (failure : Option (Nat × Option String)) :
    (s.write frame failure).EndInv := by
  rw [UsbIoSession.write.eq_def]
  split
  · exact h.failWrite
  · exact h.congr rfl
  · exact .failWrite (h.congr rfl)

/-- The callers that queue frames stay on the write side. -/
theorem ReadInv.sendControl (h : s.ReadInv) (frame : LdflFrame) : (s.sendControl frame).ReadInv := by
  rw [UsbIoSession.sendControl]
  split
  · exact h
  split
  · exact h
  · exact h.congr rfl

theorem ReadInv.trySendControl (h : s.ReadInv) (frame : LdflFrame) :
    (s.trySendControl frame).2.ReadInv := by
  rw [UsbIoSession.trySendControl]
  split
  · exact h
  split
  · exact h.congr rfl
  · exact h

theorem EndInv.sendControl (h : s.EndInv) (frame : LdflFrame) : (s.sendControl frame).EndInv := by
  rw [UsbIoSession.sendControl]
  split
  · exact h
  split
  · exact h
  · exact h.congr rfl

theorem EndInv.trySendControl (h : s.EndInv) (frame : LdflFrame) : (s.trySendControl frame).2.EndInv := by
  rw [UsbIoSession.trySendControl]
  split
  · exact h
  split
  · exact h.congr rfl
  · exact h

theorem ReadInv.closeResource (h : s.ReadInv) (resource : UsbIoResource) (resources : List UsbIoResource) :
    ReadInv { s.closeResource resource with terminated := some resources } := by
  cases resource with
  | inbound =>
    exact ⟨h.sound.close, h.limit, h.alone, h.reads, h.ordered, h.refused⟩
  | controlOutbound | connection | sessionJob =>
    exact h.congr rfl

theorem WriteInv.closeResource (h : s.WriteInv) (resource : UsbIoResource)
    (resources : List UsbIoResource) :
    WriteInv { s.closeResource resource with terminated := some resources } := by
  cases resource with
  | controlOutbound => exact ⟨h.sound.close, h.writes, h.inOrder⟩
  | inbound | connection | sessionJob => exact h.congr rfl

end Frame

theorem inv_step (h : s.Inv) (hstep : s.next step = some t) : t.Inv := by
  obtain ⟨hreads, hwrites, hends⟩ := h
  cases step with
  | read result =>
    simp only [next] at hstep
    split at hstep
    · rename_i bytes hreader
      split at hstep
      · rename_i hlength
        cases hstep
        refine ⟨hreads.read hreader _ ?_, hwrites.read _, hends.read _⟩
        rintro bytes' ⟨⟩
        exact hlength
      · cases hstep
    · rename_i hreader hcount
      cases hstep
      refine ⟨hreads.read hreader _ ?_, hwrites.read _, hends.read _⟩
      exact fun bytes heq => absurd heq (hcount bytes)
    · cases hstep
  | deliver =>
    simp only [next] at hstep
    split at hstep
    · rename_i frame later hreader
      cases hstep
      exact ⟨hreads.deliver hreader, hwrites.deliver _ _, hends.deliver _ _⟩
    · cases hstep
  | resumeRead =>
    simp only [next] at hstep
    split at hstep
    · rename_i later hreader hsuspended
      cases hstep
      have hread := hreads.reads
      rw [Reads, hreader] at hread
      refine ⟨⟨hreads.sound, hreads.limit, hsuspended, hread, hreads.ordered, ?_⟩,
        hwrites.congr rfl, hends.congr rfl⟩
      exact fun message hstate => absurd hstate (hreads.not_refused (by simp [hreader]) message)
    · cases hstep
  | cancelRead =>
    simp only [next] at hstep
    split at hstep
    · rename_i later hreader hterminated
      cases hstep
      exact ⟨hreads.cancelRead hreader, hwrites.congr rfl, hends.congr rfl⟩
    · cases hstep
  | take =>
    have hwrite := hwrites.take hstep
    simp only [next] at hstep
    split at hstep <;> cases hstep
    · exact ⟨hreads.congr rfl, hwrite, hends.congr rfl⟩
    · exact ⟨hreads.congr rfl, hwrite, hends.congr rfl⟩
  | write failure =>
    simp only [next] at hstep
    split at hstep
    · rename_i frame hwriter
      cases hstep
      exact ⟨hreads.write _ _, hwrites.write hwriter _, hends.write _ _⟩
    · cases hstep
  | cancelWrite =>
    simp only [next] at hstep
    split at hstep
    · rename_i hwriter hterminated
      cases hstep
      have hwrite := hwrites.writes
      rw [Writes, hwriter] at hwrite
      obtain ⟨frames, htaken, hwritten⟩ := hwrite
      exact ⟨hreads.congr rfl,
        ⟨hwrites.sound, ⟨frames, htaken, hwritten ▸ List.prefix_rfl⟩, hwrites.inOrder⟩,
        hends.congr rfl⟩
    · cases hstep
  | sendControl frame =>
    cases hstep
    exact ⟨hreads.sendControl frame, hwrites.sendControl frame, hends.sendControl frame⟩
  | trySendControl frame =>
    cases hstep
    exact ⟨hreads.trySendControl frame, hwrites.trySendControl frame, hends.trySendControl frame⟩
  | cancelSend index =>
    cases hstep
    obtain ⟨hsound, hwaiting⟩ := hwrites.sound.cancelSend index
    exact ⟨hreads.congr rfl,
      ⟨hsound, hwrites.writes, (hwaiting.append_left _).trans hwrites.inOrder⟩, hends.congr rfl⟩
  | receive =>
    simp only [next, OutboundChannel.tryReceive] at hstep
    cases hbuffer : s.inbound.buffer with
    | nil =>
      cases hclosed : s.inbound.closed <;> simp [hbuffer, hclosed] at hstep
    | cons frame buffer =>
      rw [hbuffer] at hstep
      cases hstep
      exact ⟨hreads.receive hbuffer, hwrites.congr rfl, hends.congr rfl⟩
  | close =>
    cases hstep
    exact ⟨hreads.terminateAs (by simp), hwrites.terminateAs _, hends.terminateAs (by simp)⟩
  | closeResource =>
    simp only [next] at hstep
    split at hstep
    · rename_i resource resources hterminated
      cases hstep
      exact ⟨hreads.closeResource _ _, hwrites.closeResource _ _, hends.closeResource hterminated⟩
    · cases hstep

/-- Whatever the threads of a session do: the frames that it hands on are the first in the bytes that it has
read, in rising order, and all of them when it reads again; from a host's stream it never refuses anything but
an end inside a frame; what it has written are the encodings of frames from its queue, in order; and the
connection is closed once, after the session has left its running state. -/
theorem usb_session_keeps_frames {steps : List UsbIoStep} {s : UsbIoSession}
    (hrun : machine.run start steps = some s) :
    (∃ frames rest, unsigned s.log.bytesRead = Frame.stream.encodeAll frames ++ rest ∧
      s.handedOn <+: frames.map FrameCodec.ofFrame ∧
      (s.reader = .running [] →
        s.handedOn = frames.map FrameCodec.ofFrame ∧ Frame.stream.NeedsMore rest)) ∧
    (s.handedOn.map (·.sequence)).Pairwise (· < ·) ∧
    (∀ stream, Increasing stream → unsigned s.log.bytesRead <+: Frame.stream.encodeAll stream →
      s.handedOn <+: stream.map FrameCodec.ofFrame ∧
      ∀ message, s.state = .failed .protocol message → Trailing (unsigned s.log.bytesRead) message) ∧
    (∃ frames, s.log.taken = frames.map FrameCodec.ofFrame ∧
      (s.log.taken ++ s.controlOutbound.waiting).Sublist s.log.queued ∧
      unsigned s.log.bytesWritten <+: Frame.stream.encodeAll frames ∧
      (s.writer = .receiving → unsigned s.log.bytesWritten = Frame.stream.encodeAll frames)) ∧
    s.log.connectionCloses ≤ 1 ∧ (s.state = .running → s.log.connectionCloses = 0) ∧
    (s.terminated = some [] → s.log.connectionCloses = 1) := by
  have hinv : s.Inv := machine.run_invariant Inv (fun _ _ _ h hstep => inv_step h hstep) inv_start hrun
  obtain ⟨hreads, hwrites, hends⟩ := hinv
  refine ⟨?_, List.isChain_iff_pairwise.mp hreads.ordered, ?_, ?_, ?_, ?_, ?_⟩
  · by_cases hreader : s.reader = .running []
    · have hread := hreads.reads
      rw [Reads, hreader] at hread
      obtain ⟨frames, rest, hframes, -, hhanded, -⟩ := hread
      rw [List.append_nil] at hhanded
      exact ⟨frames, rest, hframes.1, hhanded ▸ List.prefix_rfl, fun _ => ⟨hhanded, hframes.2⟩⟩
    · obtain ⟨frames, rest, hbytes, hhanded⟩ := hreads.starts
      exact ⟨frames, rest, hbytes, hhanded, fun hidle => absurd hidle hreader⟩
  · intro stream hstream hstarts
    obtain ⟨frames, rest, hbytes, hhanded⟩ := hreads.starts
    refine ⟨hhanded.trans ((starts_of_encodeAll (hbytes ▸ hstarts)).map _), ?_⟩
    intro message hstate
    rcases (hreads.refused message hstate).2 with htrailing | hoffends
    · exact htrailing
    · exact absurd hstarts (hoffends stream hstream)
  · by_cases hwriter : s.writer = .receiving
    · have hwrite := hwrites.writes
      rw [Writes, hwriter] at hwrite
      obtain ⟨frames, htaken, hwritten⟩ := hwrite
      exact ⟨frames, htaken, hwrites.inOrder, hwritten ▸ List.prefix_rfl, fun _ => hwritten⟩
    · obtain ⟨frames, htaken, hwritten⟩ := hwrites.stream
      exact ⟨frames, htaken, hwrites.inOrder, hwritten, fun hidle => absurd hidle hwriter⟩
  · cases hterminated : s.terminated with
    | none =>
      rw [hends.untouched hterminated]
      exact Nat.zero_le 1
    | some resources =>
      rw [(hends.released resources hterminated).2]
      split <;> decide
  · exact fun hstate => hends.untouched (hends.running.mp hstate)
  · intro hterminated
    rw [(hends.released [] hterminated).2, if_neg List.not_mem_nil]

/-- A ping arrives in two pieces, a pong goes out, and the host ends its stream. -/
private def pingThenPong : List UsbIoStep :=
  [.read (.count (signed ((Frame.empty .ping 7).encode.take 5))),
    .read (.count (signed ((Frame.empty .ping 7).encode.drop 5))), .deliver, .receive,
    .sendControl (FrameCodec.ofFrame (.empty .pong 3)), .take, .write none, .read .endOfStream,
    .closeResource, .closeResource, .closeResource, .closeResource]

theorem usb_session_keeps_frames_pingThenPong : ∃ s, machine.run start pingThenPong = some s ∧
    s.log.received = [FrameCodec.ofFrame (.empty .ping 7)] ∧
    unsigned s.log.bytesWritten = (Frame.empty .pong 3).encode ∧
    (∀ stream, Increasing stream → unsigned s.log.bytesRead <+: Frame.stream.encodeAll stream →
      s.handedOn <+: stream.map FrameCodec.ofFrame ∧
      ∀ message, s.state = .failed .protocol message → Trailing (unsigned s.log.bytesRead) message) ∧
    (s.terminated = some [] → s.log.connectionCloses = 1) := by
  have hrun : ∃ s, machine.run start pingThenPong = some s ∧
      s.log.received = [FrameCodec.ofFrame (.empty .ping 7)] ∧
      unsigned s.log.bytesWritten = (Frame.empty .pong 3).encode :=
    ⟨_, rfl, by decide +kernel, by decide +kernel⟩
  obtain ⟨s, hrun, hreceived, hwritten⟩ := hrun
  have hkeeps := usb_session_keeps_frames hrun
  exact ⟨s, hrun, hreceived, hwritten, hkeeps.2.2.1, hkeeps.2.2.2.2.2.2⟩

end UsbIoSession

end LadoFlow.Android
