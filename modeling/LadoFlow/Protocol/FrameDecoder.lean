import LadoFlow.Protocol.Frame

/-!
# Incremental frame decoder

`FrameDecoder` retains the bytes that do not yet form a frame between transport chunks. Each
push checks the memory ceiling, appends the chunk and runs the decode loop of the framework.
-/

namespace LadoFlow.Protocol

open Framework

/-- Incremental decoder for chunked USB or socket reads. -/
structure FrameDecoder where
  buffer : Bytes
  bufferLimit : UInt64
  deriving DecidableEq

namespace FrameDecoder

def withBufferLimit (bufferLimit : UInt64) : FrameDecoder := { buffer := [], bufferLimit }

def new : FrameDecoder := withBufferLimit (UInt64.ofNat maxBufferedBytes)

/-- Append one transport chunk and decode. A frame error leaves the chunk in the buffer and
drops the frames already decoded by this call. -/
def push (decoder : FrameDecoder) (chunk : Bytes) :
    FrameDecoder × Except ProtocolError (List Frame) :=
  let limit := decoder.bufferLimit.toNat
  let attempted := decoder.buffer.length + chunk.length
  if attempted > usizeMax then (decoder, .error (.bufferLimitExceeded usizeMax limit)) else
  if attempted > limit then (decoder, .error (.bufferLimitExceeded attempted limit)) else
  let buffer := decoder.buffer ++ chunk
  match (Frame.stream.drainLoop buffer).run (0, []) with
  | .error e => ({ decoder with buffer }, .error e)
  | .ok (consumedTotal, frames) =>
    let buffer := if consumedTotal > 0 then buffer.drop consumedTotal else buffer
    ({ decoder with buffer }, .ok frames)

def bufferedLen (decoder : FrameDecoder) : Nat := decoder.buffer.length

def clear (decoder : FrameDecoder) : FrameDecoder := { decoder with buffer := [] }

/-- Push chunks in order, keeping the result of each. -/
def feed (decoder : FrameDecoder) :
    List Bytes → FrameDecoder × List (Except ProtocolError (List Frame))
  | [] => (decoder, [])
  | chunk :: chunks =>
    let next := decoder.push chunk
    let rest := feed next.1 chunks
    (rest.1, next.2 :: rest.2)

/-- The frames returned before the first error. -/
def delivered (decoder : FrameDecoder) : List Bytes → List Frame
  | [] => []
  | chunk :: chunks =>
    match decoder.push chunk with
    | (next, .ok frames) => frames ++ delivered next chunks
    | (_, .error _) => []

/-- Up to the first error, retained bytes plus the next chunk stay within the ceiling. -/
def WithinLimit (decoder : FrameDecoder) : List Bytes → Prop
  | [] => True
  | chunk :: chunks =>
    decoder.buffer.length + chunk.length ≤ decoder.bufferLimit.toNat ∧
      match decoder.push chunk with
      | (next, .ok _) => WithinLimit next chunks
      | (_, .error _) => True

instance decidableWithinLimit : (decoder : FrameDecoder) → (chunks : List Bytes) →
    Decidable (decoder.WithinLimit chunks)
  | _, [] => .isTrue trivial
  | decoder, chunk :: chunks =>
    have : Decidable (match decoder.push chunk with
        | (next, .ok _) => WithinLimit next chunks
        | (_, .error _) => True) :=
      match decoder.push chunk with
      | (next, .ok _) => decidableWithinLimit next chunks
      | (_, .error _) => .isTrue trivial
    inferInstanceAs (Decidable (_ ∧ _))

variable {decoder : FrameDecoder} {chunk : Bytes} {chunks : List Bytes}

/-- Within the ceiling a push is a push of the frame stream. -/
theorem push_eq (h : decoder.buffer.length + chunk.length ≤ decoder.bufferLimit.toNat) :
    decoder.push chunk =
      ({ decoder with buffer := (Frame.stream.push decoder.buffer chunk).1 },
        (Frame.stream.push decoder.buffer chunk).2) := by
  have hlimit := decoder.bufferLimit.toNat_lt
  have husize : ¬ decoder.buffer.length + chunk.length > usizeMax := by
    rw [usizeMax]
    omega
  rw [push, if_neg husize, if_neg (by omega), PrefixDecoder.push]
  dsimp only
  cases (Frame.stream.drainLoop (decoder.buffer ++ chunk)).run (0, []) with
  | error e => rfl
  | ok result =>
    obtain ⟨consumedTotal, frames⟩ := result
    cases consumedTotal <;> rfl

theorem feed_eq {lists : List (List Frame)} {tail : Bytes} (h : decoder.WithinLimit chunks)
    (hfeed : Frame.stream.feed decoder.buffer chunks = (tail, lists.map .ok)) :
    decoder.feed chunks = ({ decoder with buffer := tail }, lists.map .ok) := by
  induction chunks generalizing decoder lists with
  | nil =>
    simp only [PrefixDecoder.feed, Prod.mk.injEq] at hfeed
    obtain ⟨rfl, hlists⟩ := hfeed
    rw [feed, ← hlists]
  | cons chunk chunks ih =>
    obtain ⟨hfit, hrest⟩ := h
    rw [push_eq hfit] at hrest
    cases lists with
    | nil => simp [PrefixDecoder.feed] at hfeed
    | cons frames lists =>
      simp only [PrefixDecoder.feed, Prod.mk.injEq, List.map_cons, List.cons.injEq] at hfeed
      obtain ⟨htail, hframes, hlists⟩ := hfeed
      rw [hframes] at hrest
      have hnext := ih hrest (Prod.ext htail hlists)
      simp only [feed, push_eq hfit, hnext, hframes, List.map_cons]

theorem delivered_eq (h : decoder.WithinLimit chunks) :
    decoder.delivered chunks = Frame.stream.delivered decoder.buffer chunks := by
  induction chunks generalizing decoder with
  | nil => rfl
  | cons chunk chunks ih =>
    obtain ⟨hfit, hrest⟩ := h
    rw [push_eq hfit] at hrest
    rw [delivered, push_eq hfit, PrefixDecoder.delivered]
    cases hpush : Frame.stream.push decoder.buffer chunk with
    | mk buffer result =>
      rw [hpush] at hrest
      cases result with
      | error e => rfl
      | ok frames =>
        dsimp only
        rw [ih hrest]

theorem needsMore_nil : Frame.stream.NeedsMore [] := ⟨frameHeaderLen, rfl⟩

/-- Every cut of a stream of frames and a partial frame delivers the same frames. -/
theorem push_chunking_independent :
    (∀ (limit : UInt64) (frames : List Frame) (last : Frame) (p more : Bytes)
      (chunks : List Bytes), p ++ more = last.encode → more ≠ [] →
      chunks.flatten = (frames.map Frame.encode).flatten ++ p →
      (withBufferLimit limit).WithinLimit chunks →
      ∃ lists : List (List Frame),
        ((withBufferLimit limit).feed chunks).2 = lists.map .ok ∧ lists.flatten = frames ∧
        ((withBufferLimit limit).feed chunks).1.bufferedLen = p.length) ∧
    ∀ buffer : Bytes, ∃ fuel, ((Frame.stream.drainLoop buffer).runFuel fuel (0, [])).isSome := by
  constructor
  · intro limit frames last p more chunks hlast hmore hsplit hlimit
    have htail : ∀ rest left, rest ++ left = p → Frame.stream.NeedsMore rest := by
      intro rest left hr
      have hcut : rest ++ (left ++ more) = last.encode := by
        rw [← List.append_assoc, hr, hlast]
      exact Frame.stream.needsMore_of_lt hcut (by simp [hmore])
    obtain ⟨lists, hfeed, hflat⟩ :=
      Frame.stream.feed_valid frames p [] chunks htail needsMore_nil hsplit
    have h := feed_eq hlimit hfeed
    exact ⟨lists, by rw [h], hflat, by rw [h, bufferedLen]⟩
  · intro buffer
    exact ⟨_, Loop.runFuel_isSome _ _ _ (Nat.lt_succ_self _)⟩

private def emptyPing : Frame := .empty .ping 7

private def zeroHeader : Bytes := List.replicate 24 0

theorem push_chunking_independent_ping :
    ∃ lists : List (List Frame),
      ((withBufferLimit 64).feed [emptyPing.encode]).2 = lists.map .ok ∧
      lists.flatten = [emptyPing] ∧
      ((withBufferLimit 64).feed [emptyPing.encode]).1.bufferedLen = 0 :=
  push_chunking_independent.1 64 [emptyPing] emptyPing [] emptyPing.encode
    [emptyPing.encode] rfl (by decide) (by decide) (by decide)

/-- The frames before a malformed header are all delivered exactly when the stream is cut
somewhere between the end of the last frame and the end of that header. -/
theorem delivered_before_malformed_iff (limit : UInt64) (frames : List Frame) (bad : Bytes)
    (e : ProtocolError) (chunks : List Bytes) (hbad : Frame.decodePrefix bad = .error e)
    (hsplit : chunks.flatten = (frames.map Frame.encode).flatten ++ bad)
    (hlimit : (withBufferLimit limit).WithinLimit chunks) :
    (withBufferLimit limit).delivered chunks = frames ↔
      ∃ before after, chunks = before ++ after ∧
        (frames.map Frame.encode).flatten.length ≤ before.flatten.length ∧
        before.flatten.length < (frames.map Frame.encode).flatten.length + frameHeaderLen := by
  rw [delivered_eq hlimit]
  have h := PrefixDecoder.delivered_eq_iff (P := Frame.stream) hbad frames [] chunks
    needsMore_nil hsplit
  simp only [List.length_nil, Nat.zero_add] at h
  exact h

theorem delivered_before_malformed_separate :
    (withBufferLimit 64).delivered [emptyPing.encode, zeroHeader] =
      [emptyPing] :=
  (delivered_before_malformed_iff 64 [emptyPing] zeroHeader
    (.invalidMagic [0, 0, 0, 0]) [emptyPing.encode, zeroHeader] (by decide) (by decide)
    (by decide)).mpr ⟨[emptyPing.encode], [zeroHeader], rfl,
      by decide, by decide⟩

/-- One chunk that holds a frame and a malformed header delivers nothing. -/
theorem delivered_before_malformed_joined :
    ¬ ∀ (limit : UInt64) (frames : List Frame) (bad : Bytes) (e : ProtocolError)
      (chunks : List Bytes), Frame.decodePrefix bad = .error e →
      chunks.flatten = (frames.map Frame.encode).flatten ++ bad →
      (withBufferLimit limit).WithinLimit chunks →
      (withBufferLimit limit).delivered chunks = frames := by
  intro h
  have hping := h 64 [emptyPing] zeroHeader (.invalidMagic [0, 0, 0, 0])
    [emptyPing.encode ++ zeroHeader] (by decide) (by decide) (by decide)
  revert hping
  decide

end FrameDecoder

end LadoFlow.Protocol
