import LadoFlow.Android.FrameCodec
import LadoFlow.Protocol.FrameDecoder

/-!
# The phone's frame decoder

`IncrementalFrameDecoder` keeps the bytes of an unfinished frame between two reads of a transport, and
`MonotonicSequenceValidator` the highest sequence number so far. A push of the decoder finds in the bytes
the frames that the host's frame stream has in them.
-/

namespace LadoFlow.Android

open Framework Protocol

structure IncrementalFrameDecoder where
  buffer : SignedBytes
  bufferLimit : Nat

namespace IncrementalFrameDecoder

def new : IncrementalFrameDecoder := ⟨[], ldflDefaultBufferLimitBytes⟩

def bufferedBytes (decoder : IncrementalFrameDecoder) : Nat := decoder.buffer.length

end IncrementalFrameDecoder

/-- A frame that decodes takes its header at least. -/
theorem FrameCodec.decodePrefix_complete_pos {bytes : SignedBytes} {offset consumed : Nat}
    {frame : LdflFrame} (h : FrameCodec.decodePrefix bytes offset = .ok (.complete frame consumed)) :
    0 < consumed := by
  rw [FrameCodec.decodePrefix] at h
  split at h
  · cases h
  obtain ⟨fields, -, h⟩ := bind_eq_ok.mp h
  dsimp only at h
  split at h
  · cases h
  obtain ⟨decoded, -, h⟩ := bind_eq_ok.mp h
  cases h
  rw [ldflFrameHeaderBytes]
  omega

namespace IncrementalFrameDecoder

/-- The loop of a push: `consumed` bytes are done and `frames` were read. -/
def drainLoop (buffer : SignedBytes) :
    Loop (Nat × List LdflFrame) (Except LdflProtocolException (Nat × List LdflFrame)) where
  step := fun (consumed, frames) =>
    if consumed < buffer.length then
      match FrameCodec.decodePrefix buffer consumed with
      | .error exception => .inr (.error exception)
      | .ok (.needMoreData _) => .inr (.ok (consumed, frames))
      | .ok (.complete frame n) => .inl (consumed + n, frames ++ [frame])
    else .inr (.ok (consumed, frames))
  measure := fun (consumed, _) => buffer.length - consumed
  decreases := by
    rintro ⟨consumed, frames⟩ ⟨consumed', frames'⟩ h
    dsimp only at h ⊢
    split at h <;> try contradiction
    rename_i hless
    split at h <;> try contradiction
    rename_i frame n hdecode
    have hpos := FrameCodec.decodePrefix_complete_pos hdecode
    simp only [Sum.inl.injEq, Prod.mk.injEq] at h
    omega

/-- A chunk that breaks the protocol stays in the buffer, with the frames before it. -/
def push (decoder : IncrementalFrameDecoder) (chunk : SignedBytes) :
    IncrementalFrameDecoder × Except LdflProtocolException (List LdflFrame) :=
  let attempted := decoder.buffer.length + chunk.length
  if attempted > decoder.bufferLimit then
    (decoder, protocolFailure .bufferLimitExceeded (s!"Decoder buffer would grow to {attempted} bytes; " ++
      s!"limit is {decoder.bufferLimit} bytes"))
  else
  let buffer := decoder.buffer ++ chunk
  match (drainLoop buffer).run (0, []) with
  | .error exception => ({ decoder with buffer }, .error exception)
  | .ok (consumed, frames) =>
    ({ decoder with buffer := if consumed > 0 then buffer.drop consumed else buffer }, .ok frames)

def clear (decoder : IncrementalFrameDecoder) : IncrementalFrameDecoder := { decoder with buffer := [] }

end IncrementalFrameDecoder

structure MonotonicSequenceValidator where
  highest : Option UInt64

def MonotonicSequenceValidator.observe (validator : MonotonicSequenceValidator) (sequence : UInt64) :
    Except LdflProtocolException MonotonicSequenceValidator :=
  match validator.highest with
  | none => .ok ⟨some sequence⟩
  | some previous =>
    if previous < sequence then .ok ⟨some sequence⟩
    else protocolFailure .nonMonotonicSequence
      s!"LDFL sequence {sequence} is duplicate or stale after {previous}"

/-- The bytes of some frames, and behind them the start of the next. -/
def Framed (frames : List Frame) (rest bytes : Bytes) : Prop :=
  bytes = Frame.stream.encodeAll frames ++ rest ∧ Frame.stream.NeedsMore rest

/-- The bytes of some frames, and behind them what no frame starts with. -/
def Misframed (bytes : Bytes) : Prop :=
  ∃ frames rest error, bytes = Frame.stream.encodeAll frames ++ rest ∧
    Frame.stream.decode rest = .error error

section Push

variable {bytes : Bytes} {buffer : SignedBytes}

theorem Framed.nil : Framed [] [] [] := ⟨rfl, FrameDecoder.needsMore_nil⟩

/-- Further bytes are read after the whole frames. -/
theorem Framed.append {frames later : List Frame} {rest rest' more : Bytes} (h : Framed frames rest bytes)
    (hmore : Framed later rest' (rest ++ more)) : Framed (frames ++ later) rest' (bytes ++ more) := by
  obtain ⟨rfl, -⟩ := h
  obtain ⟨hlater, hrest⟩ := hmore
  refine ⟨?_, hrest⟩
  rw [List.append_assoc, hlater, PrefixDecoder.encodeAll_append, List.append_assoc]

theorem Framed.misframed {frames : List Frame} {rest more : Bytes} (h : Framed frames rest bytes)
    (hmore : Misframed (rest ++ more)) : Misframed (bytes ++ more) := by
  obtain ⟨rfl, -⟩ := h
  obtain ⟨later, rest', error, hlater, herror⟩ := hmore
  refine ⟨frames ++ later, rest', error, ?_, herror⟩
  rw [List.append_assoc, hlater, PrefixDecoder.encodeAll_append, List.append_assoc]

/-- No stream of frames goes on from broken bytes. -/
theorem Misframed.not_starts (h : Misframed bytes) (frames : List Frame) :
    ¬ bytes <+: Frame.stream.encodeAll frames := by
  obtain ⟨done, rest, error, rfl, herror⟩ := h
  rintro ⟨more, hmore⟩
  rw [List.append_assoc] at hmore
  obtain ⟨todo, -, htodo⟩ := Frame.stream.encodeAll_prefix hmore
  have hdecode := Frame.stream.decode_error_append herror more
  cases todo with
  | nil =>
    rw [htodo] at hdecode
    obtain ⟨least, hleast⟩ := FrameDecoder.needsMore_nil
    rw [PrefixDecoder.encodeAll_nil, hleast] at hdecode
    cases hdecode
  | cons frame todo =>
    rw [htodo, PrefixDecoder.encodeAll_cons, PrefixDecoder.decode_encode] at hdecode
    cases hdecode

/-- Whole frames at the start of a stream are its first frames. -/
theorem starts_of_encodeAll {frames stream : List Frame} {rest : Bytes}
    (h : Frame.stream.encodeAll frames ++ rest <+: Frame.stream.encodeAll stream) : frames <+: stream := by
  obtain ⟨more, hmore⟩ := h
  rw [List.append_assoc] at hmore
  obtain ⟨todo, htodo, -⟩ := Frame.stream.encodeAll_prefix hmore
  exact ⟨todo, htodo.symm⟩

/-- The start of a frame is shorter than the longest frame. -/
theorem needsMore_length (h : Frame.stream.NeedsMore bytes) :
    bytes.length < frameHeaderLen + maxMediaPayload := by
  by_contra hlong
  rw [not_lt] at hlong
  obtain ⟨least, hleast⟩ := h
  have htake : (bytes.take frameHeaderLen).length = frameHeaderLen := by
    rw [List.length_take]
    omega
  cases hheader : FrameHeader.decode (bytes.take frameHeaderLen) with
  | error error =>
    change Frame.decodePrefix bytes = _ at hleast
    rw [Frame.decodePrefix, if_neg (by omega), hheader, bind_error] at hleast
    cases hleast
  | ok header =>
    have hdecode := Frame.decodePrefix_header (by omega)
      (FrameHeader.encode_eq_iff.mpr ⟨htake, hheader⟩).symm
    have hle := header.payloadLen_le
    have hmax : header.kind.payloadLimit ≤ maxMediaPayload := by
      cases header.kind <;> decide
    change Frame.decodePrefix bytes = _ at hleast
    rw [hdecode, dif_neg (by omega)] at hleast
    cases hleast

namespace IncrementalFrameDecoder

/-- The bytes that are done are the frames that were read. -/
def Drained (bytes : Bytes) (state : Nat × List LdflFrame) : Prop :=
  state.1 ≤ bytes.length ∧ ∃ found : List Frame, state.2 = found.map FrameCodec.ofFrame ∧
    bytes = Frame.stream.encodeAll found ++ bytes.drop state.1

/-- The host's decoder at the place of the loop. -/
theorem decodePrefix_drop {consumed : Nat} (hle : consumed ≤ bytes.length)
    {outcome : DecodeOutcome LdflFrame}
    (h : FrameCodec.decodePrefix (signed bytes) consumed = .ok outcome) :
    ∃ found, Frame.stream.decode (bytes.drop consumed) = .ok found ∧
      outcome = found.map FrameCodec.ofFrame := by
  have hagree := FrameCodec.decodePrefix_signed hle
  rw [h] at hagree
  cases hrust : Frame.decodePrefix (bytes.drop consumed) with
  | error error => simp [hrust, Except.toOption] at hagree
  | ok found =>
    simp only [hrust, Except.toOption, Option.map_some, Option.some.injEq] at hagree
    exact ⟨found, hrust, hagree⟩

theorem Drained.step {state state' : Nat × List LdflFrame} (h : Drained bytes state)
    (hstep : (drainLoop (signed bytes)).step state = .inl state') : Drained bytes state' := by
  obtain ⟨consumed, frames⟩ := state
  obtain ⟨hle, found, hframes, hbytes⟩ := h
  dsimp only at hle hframes hbytes
  simp only [drainLoop, signed_length] at hstep
  split at hstep <;> try contradiction
  split at hstep <;> try contradiction
  rename_i frame n hdecode
  cases hstep
  obtain ⟨outcome, hrust, hmap⟩ := decodePrefix_drop hle hdecode
  cases outcome with
  | needMoreData least => cases hmap
  | complete next size =>
    cases hmap
    obtain ⟨hsize, hencode⟩ := Frame.stream.decode_complete hrust
    rw [List.length_drop] at hsize
    refine ⟨by dsimp only; omega, found ++ [next], by simp [hframes], ?_⟩
    rw [PrefixDecoder.encodeAll_append, PrefixDecoder.encodeAll_cons, PrefixDecoder.encodeAll_nil,
      List.append_nil, hencode, List.append_assoc, ← List.drop_drop, List.take_append_drop]
    exact hbytes

/-- What the loop has read when it leaves, and what it leaves unread. -/
theorem drainLoop_run (bytes : Bytes) :
    match (drainLoop (signed bytes)).run (0, []) with
    | .ok (consumed, frames) => ∃ found rest, frames = found.map FrameCodec.ofFrame ∧
        Framed found rest bytes ∧ bytes.drop consumed = rest
    | .error _ => Misframed bytes := by
  have hstart : Drained bytes (0, []) := ⟨Nat.zero_le _, [], rfl, rfl⟩
  refine Loop.run_invariant (I := Drained bytes) (Q := fun result => match result with
    | .ok (consumed, frames) => ∃ found rest, frames = found.map FrameCodec.ofFrame ∧
        Framed found rest bytes ∧ bytes.drop consumed = rest
    | .error _ => Misframed bytes) _ (fun _ _ h hstep => h.step hstep) ?_ hstart
  rintro ⟨consumed, frames⟩ result ⟨hle, found, hframes, hbytes⟩ hstep
  dsimp only at hle hframes hbytes
  simp only [drainLoop, signed_length] at hstep
  split at hstep
  · split at hstep
    · rename_i exception hdecode
      cases hstep
      have hagree := FrameCodec.decodePrefix_signed hle
      rw [hdecode] at hagree
      cases hrust : Frame.decodePrefix (bytes.drop consumed) with
      | ok outcome => simp [hrust, Except.toOption] at hagree
      | error error => exact ⟨found, _, error, hbytes, hrust⟩
    · rename_i least hdecode
      cases hstep
      obtain ⟨outcome, hrust, hmap⟩ := decodePrefix_drop hle hdecode
      cases outcome with
      | needMoreData least => exact ⟨found, _, hframes, ⟨hbytes, least, hrust⟩, rfl⟩
      | complete next size => cases hmap
    · cases hstep
  · rename_i hdone
    cases hstep
    have hnil : bytes.drop consumed = [] := List.drop_eq_nil_of_le (by omega)
    exact ⟨found, [], hframes, ⟨hnil ▸ hbytes, FrameDecoder.needsMore_nil⟩, hnil⟩

/-- A push within the limit reads what the bytes hold. -/
theorem push_signed {decoder : IncrementalFrameDecoder} {rest chunk : Bytes}
    (hbuffer : decoder.buffer = signed rest)
    (hlimit : rest.length + chunk.length ≤ decoder.bufferLimit) :
    (∃ found rest', Framed found rest' (rest ++ chunk) ∧ decoder.push (signed chunk) =
      ({ decoder with buffer := signed rest' }, .ok (found.map FrameCodec.ofFrame))) ∨
    ∃ exception, Misframed (rest ++ chunk) ∧ decoder.push (signed chunk) =
      ({ decoder with buffer := signed (rest ++ chunk) }, .error exception) := by
  have hdrain := drainLoop_run (rest ++ chunk)
  rw [push, hbuffer, signed_length, signed_length, if_neg (by omega), ← signed_append]
  dsimp only
  split at hdrain
  · rename_i done read hrun
    obtain ⟨found, rest', hread, hframes, hdone⟩ := hdrain
    rw [hrun]
    refine .inl ⟨found, rest', hframes, ?_⟩
    subst hread
    have hdrop : (if done > 0 then (signed (rest ++ chunk)).drop done else signed (rest ++ chunk)) =
        signed rest' := by
      rw [← hdone, signed_drop]
      cases done <;> rfl
    simp only [hdrop]
  · rename_i exception hrun
    rw [hrun]
    exact .inr ⟨exception, hdrain, rfl⟩

end IncrementalFrameDecoder

end Push

end LadoFlow.Android
