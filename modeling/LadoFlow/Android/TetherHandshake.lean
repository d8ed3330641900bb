import LadoFlow.Android.TetherPairing
import LadoFlow.Framework.Loop

/-!
# The display handshake on its streams

The display takes each record with exact reads, however the stream hands out its bytes, and leaves
what follows the two records of the host untouched.
-/

namespace LadoFlow.Android

open Framework
open LadoFlow.Transport

/-- The bytes that arrive on a stream, and the most that each call of `read` hands out. -/
structure InputStream where
  inbound : SignedBytes
  grant : Nat → Nat
  reads : Nat

namespace InputStream

/-- `read(buffer, offset, byteCount)`; nothing at the end of the stream. -/
def read (input : InputStream) (byteCount : Nat) : Option SignedBytes × InputStream :=
  if input.inbound = [] then (none, input)
  else
  let count := min byteCount (input.grant input.reads)
  (some (input.inbound.take count),
    { input with inbound := input.inbound.drop count, reads := input.reads + 1 })

/-- A blocking stream hands out at least one byte until it ends. -/
def Progresses (input : InputStream) : Prop := ∀ call, 0 < input.grant call

theorem read_splits {input after : InputStream} {byteCount : Nat} {chunk : SignedBytes}
    (h : input.read byteCount = (some chunk, after)) :
    input.inbound = chunk ++ after.inbound ∧ chunk.length ≤ byteCount ∧
      after.grant = input.grant := by
  rw [read] at h
  split at h
  · cases h
  · cases h
    refine ⟨(List.take_append_drop _ _).symm, ?_, rfl⟩
    rw [List.length_take]
    omega

/-- Before the end, a read of a blocking stream hands out something. -/
theorem Progresses.read_pos {input : InputStream} (h : input.Progresses) {byteCount : Nat}
    (hcount : 0 < byteCount) (hinbound : input.inbound ≠ []) :
    ∃ chunk after, input.read byteCount = (some chunk, after) ∧ chunk.length ≠ 0 := by
  refine ⟨_, _, if_neg hinbound, ?_⟩
  have hgrant := h input.reads
  have hlength := List.length_pos_iff.mpr hinbound
  rw [List.length_take]
  omega

end InputStream

/-- The bytes read so far, and the stream. -/
structure ExactRead where
  result : SignedBytes
  input : InputStream

namespace ExactRead

/-- One pass of the loop in `readExactly`. -/
def pass (byteCount : Nat) (state : ExactRead) :
    ExactRead ⊕ (Except String SignedBytes × InputStream) :=
  let offset := state.result.length
  if byteCount ≤ offset then .inr (.ok state.result, state.input)
  else
  match state.input.read (byteCount - offset) with
  | (none, input) => .inr (.error
      s!"USB tether pairing stream ended after {offset} of {byteCount} bytes", input)
  | (some chunk, input) =>
    if chunk.length = 0 then .inr (.error "USB tether pairing read made no progress", input)
    else .inl ⟨state.result ++ chunk, input⟩

def loop (byteCount : Nat) : Loop ExactRead (Except String SignedBytes × InputStream) where
  step := pass byteCount
  measure state := byteCount - state.result.length
  decreases := by
    intro state next h
    rw [pass] at h
    split at h
    · cases h
    · split at h
      · cases h
      · split at h
        · cases h
        · cases h
          simp only [List.length_append]
          omega

end ExactRead

def readExactly (input : InputStream) (byteCount : Nat) :
    Except String SignedBytes × InputStream :=
  (ExactRead.loop byteCount).run ⟨[], input⟩

/-- What the loop keeps: the bytes read and the bytes to come are the bytes of the stream. -/
structure ExactRead.Inv (input : InputStream) (byteCount : Nat) (state : ExactRead) : Prop where
  split : input.inbound = state.result ++ state.input.inbound
  bounded : state.result.length ≤ byteCount
  grant : state.input.grant = input.grant

theorem ExactRead.Inv.pass {input : InputStream} {byteCount : Nat} {state next : ExactRead}
    (h : Inv input byteCount state) (hpass : pass byteCount state = .inl next) :
    Inv input byteCount next := by
  rw [ExactRead.pass] at hpass
  split at hpass
  · cases hpass
  · rename_i hmore
    split at hpass
    · cases hpass
    · rename_i chunk after hread
      obtain ⟨hsplit, hcount, hgrant⟩ := InputStream.read_splits hread
      split at hpass
      · cases hpass
      · cases hpass
        refine ⟨?_, ?_, hgrant.trans h.grant⟩
        · rw [h.split, hsplit, List.append_assoc]
        · rw [List.length_append]
          omega

theorem ExactRead.inv_start (input : InputStream) (byteCount : Nat) :
    Inv input byteCount ⟨[], input⟩ :=
  ⟨rfl, Nat.zero_le _, rfl⟩

/-- A read that succeeds took the first bytes of the stream and no others. -/
theorem readExactly_ok {input after : InputStream} {byteCount : Nat} {bytes : SignedBytes}
    (h : readExactly input byteCount = (.ok bytes, after)) :
    input.inbound = bytes ++ after.inbound ∧ bytes.length = byteCount ∧
      after.grant = input.grant := by
  have hrun : ∀ bytes after, readExactly input byteCount = (.ok bytes, after) →
      input.inbound = bytes ++ after.inbound ∧ bytes.length = byteCount ∧
        after.grant = input.grant := by
    apply (ExactRead.loop byteCount).run_invariant
      (Q := fun outcome => ∀ bytes after, outcome = (.ok bytes, after) →
        input.inbound = bytes ++ after.inbound ∧ bytes.length = byteCount ∧
          after.grant = input.grant)
      (fun state next hinv hstep => ExactRead.Inv.pass hinv hstep) ?_
      (ExactRead.inv_start input byteCount)
    intro state outcome hinv hstep bytes after houtcome
    subst houtcome
    have hstep : ExactRead.pass byteCount state = .inr (.ok bytes, after) := hstep
    rw [ExactRead.pass] at hstep
    split at hstep
    · rename_i hdone
      cases hstep
      exact ⟨hinv.split, Nat.le_antisymm hinv.bounded hdone, hinv.grant⟩
    · split at hstep
      · cases hstep
      · split at hstep
        · cases hstep
        · cases hstep
  exact hrun bytes after h

/-- However a blocking stream hands out its bytes, a read of bytes that arrive succeeds. -/
theorem readExactly_available {input : InputStream} {byteCount : Nat} (hprogress : input.Progresses)
    (hlength : byteCount ≤ input.inbound.length) :
    ∃ bytes after, readExactly input byteCount = (.ok bytes, after) := by
  apply (ExactRead.loop byteCount).run_invariant
    (Q := fun outcome => ∃ bytes after, outcome = (.ok bytes, after))
    (fun state next hinv hstep => ExactRead.Inv.pass hinv hstep) ?_
    (ExactRead.inv_start input byteCount)
  intro state outcome hinv hstep
  have hstep : ExactRead.pass byteCount state = .inr outcome := hstep
  rw [ExactRead.pass] at hstep
  split at hstep
  · cases hstep
    exact ⟨_, _, rfl⟩
  · rename_i hmore
    have htotal := congrArg List.length hinv.split
    rw [List.length_append] at htotal
    have hinbound : state.input.inbound ≠ [] := by
      apply List.ne_nil_of_length_pos
      omega
    have hstate : state.input.Progresses := by
      intro call
      rw [hinv.grant]
      exact hprogress call
    have hcount : 0 < byteCount - state.result.length := by omega
    obtain ⟨chunk, after, hread, hchunk⟩ := hstate.read_pos hcount hinbound
    simp only [hread, if_neg hchunk] at hstep
    cases hstep

theorem readExactly_append {input : InputStream} {bytes rest : SignedBytes}
    (hprogress : input.Progresses) (hinbound : input.inbound = bytes ++ rest) :
    ∃ reads, readExactly input bytes.length = (.ok bytes, ⟨rest, input.grant, reads⟩) := by
  have hlength : bytes.length ≤ input.inbound.length := by
    rw [hinbound, List.length_append]
    omega
  obtain ⟨result, after, hread⟩ := readExactly_available hprogress hlength
  obtain ⟨hsplit, hresult, hgrant⟩ := readExactly_ok hread
  rw [hinbound] at hsplit
  obtain ⟨rfl, rfl⟩ := List.append_inj hsplit hresult.symm
  obtain ⟨inbound, grant, reads⟩ := after
  subst hgrant
  exact ⟨reads, hread⟩

structure TetherPairingHandshake where
  hostNonce : SignedBytes
  displayNonce : SignedBytes
  deriving DecidableEq

structure PairingStreams where
  input : InputStream
  output : SignedBytes

def PairingStreams.write (streams : PairingStreams) (bytes : SignedBytes) : PairingStreams :=
  { streams with output := streams.output ++ bytes }

section Handshake

variable (hmacSha256 : TetherPairingToken → Bytes → PairingTag) (token : TetherPairingToken)

/-- `performDisplayPairingHandshake` from its second read on. -/
def awaitHostFinished (hostNonce displayNonce : SignedBytes) (streams : PairingStreams) :
    Except String TetherPairingHandshake × PairingStreams :=
  match readExactly streams.input 56 with
  | (.error message, input) => (.error message, { streams with input })
  | (.ok encoded, input) =>
    match performDisplayFinished hmacSha256 token hostNonce displayNonce encoded with
    | .error message => (.error message, { streams with input })
    | .ok written => (.ok ⟨hostNonce, displayNonce⟩, { streams with input }.write written)

def performDisplayPairingHandshake (displayNonce : SignedBytes) (streams : PairingStreams) :
    Except String TetherPairingHandshake × PairingStreams :=
  match readExactly streams.input 56 with
  | (.error message, input) => (.error message, { streams with input })
  | (.ok encoded, input) =>
    match performDisplayHello hmacSha256 token displayNonce encoded with
    | .error message => (.error message, { streams with input })
    | .ok (hostNonce, written) =>
      awaitHostFinished hmacSha256 token hostNonce displayNonce
        ({ streams with input }.write written)

variable {hmacSha256} {token} {hostNonce displayNonce : PairingNonce}
  {streams after : PairingStreams}

/-- A completed second half read the finished record of a host with the token. -/
theorem awaitHostFinished_ok {handshake : TetherPairingHandshake}
    (h : awaitHostFinished hmacSha256 token (signed hostNonce.val) (signed displayNonce.val)
      streams = (.ok handshake, after)) :
    streams.input.inbound = signed (encodeRecord
        (finishedRecord hmacSha256 token .hostFinished hostNonce displayNonce)).val ++
          after.input.inbound ∧
      after.output = streams.output ++ signed (encodeRecord
        (finishedRecord hmacSha256 token .displayFinished hostNonce displayNonce)).val ∧
      handshake = ⟨signed hostNonce.val, signed displayNonce.val⟩ := by
  rw [awaitHostFinished] at h
  split at h
  · cases h
  · rename_i encoded rest hread
    split at h
    · cases h
    · rename_i written hfinished
      cases h
      obtain ⟨hsplit, hlength, -⟩ := readExactly_ok hread
      have hunsigned : (unsigned encoded).length = 56 := by rw [unsigned, List.length_map, hlength]
      rw [← signed_unsigned encoded] at hfinished hsplit
      obtain ⟨hbytes, hwritten⟩ :=
        @performDisplayFinished_ok _ _ _ _ ⟨unsigned encoded, hunsigned⟩ _ hfinished
      rw [← hbytes, hwritten]
      exact ⟨hsplit, rfl, rfl⟩

/-- A completed display read both records of a host with its token and wrote both of its own. -/
theorem performDisplayPairingHandshake_ok {handshake : TetherPairingHandshake}
    (h : performDisplayPairingHandshake hmacSha256 token (signed displayNonce.val) streams =
      (.ok handshake, after)) :
    ∃ hostNonce : PairingNonce,
      streams.input.inbound = signed (encodeRecord (hostHelloRecord hostNonce)).val ++
        (signed (encodeRecord
          (finishedRecord hmacSha256 token .hostFinished hostNonce displayNonce)).val ++
        after.input.inbound) ∧
      after.output = streams.output ++
        signed (encodeRecord (displayHelloRecord hmacSha256 token hostNonce displayNonce)).val ++
        signed (encodeRecord
          (finishedRecord hmacSha256 token .displayFinished hostNonce displayNonce)).val ∧
      handshake = ⟨signed hostNonce.val, signed displayNonce.val⟩ := by
  rw [performDisplayPairingHandshake] at h
  split at h
  · cases h
  · rename_i encoded rest hread
    split at h
    · cases h
    · rename_i nonce written hhello
      obtain ⟨hsplit, hlength, -⟩ := readExactly_ok hread
      have hunsigned : (unsigned encoded).length = 56 := by rw [unsigned, List.length_map, hlength]
      rw [← signed_unsigned encoded] at hhello hsplit
      obtain ⟨hostNonce, rfl, hbytes, rfl⟩ :=
        @performDisplayHello_ok _ _ _ ⟨unsigned encoded, hunsigned⟩ _ _ hhello
      obtain ⟨hfinished, houtput, hhandshake⟩ := awaitHostFinished_ok h
      refine ⟨hostNonce, ?_, houtput, hhandshake⟩
      rw [← hbytes, ← hfinished]
      exact hsplit

/-- The second half only adds to what was written. -/
theorem awaitHostFinished_output (hostNonce displayNonce : SignedBytes) (streams : PairingStreams) :
    ∃ written,
      (awaitHostFinished hmacSha256 token hostNonce displayNonce streams).2.output =
        streams.output ++ written := by
  rw [awaitHostFinished]
  split
  · exact ⟨[], (List.append_nil _).symm⟩
  · split
    · exact ⟨[], (List.append_nil _).symm⟩
    · rename_i written _
      exact ⟨written, rfl⟩

/-- The second half takes one record and nothing after it, whatever the record holds. -/
theorem awaitHostFinished_consumes (hprogress : streams.input.Progresses) {second rest : SignedBytes}
    (hsecond : second.length = 56) (hinbound : streams.input.inbound = second ++ rest) :
    ∃ outcome output reads,
      awaitHostFinished hmacSha256 token (signed hostNonce.val) (signed displayNonce.val) streams =
        (outcome, ⟨⟨rest, streams.input.grant, reads⟩, streams.output ++ output⟩) := by
  obtain ⟨reads, hread⟩ := readExactly_append hprogress hinbound
  rw [hsecond] at hread
  simp only [awaitHostFinished, hread]
  split
  · exact ⟨_, [], reads, by rw [List.append_nil]⟩
  · exact ⟨_, _, reads, rfl⟩

/-- The finished record of a host with the token completes the handshake. -/
theorem awaitHostFinished_completes (hprogress : streams.input.Progresses) {rest : SignedBytes}
    (hnonzero : ∀ message, hmacSha256 token message ≠ FixedBytes.zero 32)
    (hinbound : streams.input.inbound = signed (encodeRecord
      (finishedRecord hmacSha256 token .hostFinished hostNonce displayNonce)).val ++ rest) :
    ∃ reads,
      awaitHostFinished hmacSha256 token (signed hostNonce.val) (signed displayNonce.val) streams =
        (.ok ⟨signed hostNonce.val, signed displayNonce.val⟩,
          ⟨⟨rest, streams.input.grant, reads⟩, streams.output ++ signed (encodeRecord
            (finishedRecord hmacSha256 token .displayFinished hostNonce displayNonce)).val⟩) := by
  obtain ⟨reads, hread⟩ := readExactly_append hprogress hinbound
  rw [signed_length, (encodeRecord _).property] at hread
  have hfinished := @performDisplayFinished_hostFinished hmacSha256 token hostNonce displayNonce
    (hnonzero _) (hnonzero _)
  simp only [awaitHostFinished, hread, hfinished]
  exact ⟨reads, rfl⟩

/-- The display answers the hello of a host and goes on to its second read. -/
theorem performDisplayPairingHandshake_answers (hprogress : streams.input.Progresses)
    {rest : SignedBytes}
    (hnonzero : ∀ message, hmacSha256 token message ≠ FixedBytes.zero 32)
    (hhost : hostNonce ≠ FixedBytes.zero 16) (hdisplay : displayNonce ≠ FixedBytes.zero 16)
    (hinbound : streams.input.inbound =
      signed (encodeRecord (hostHelloRecord hostNonce)).val ++ rest) :
    ∃ reads,
      performDisplayPairingHandshake hmacSha256 token (signed displayNonce.val) streams =
        awaitHostFinished hmacSha256 token (signed hostNonce.val) (signed displayNonce.val)
          ⟨⟨rest, streams.input.grant, reads⟩, streams.output ++ signed (encodeRecord
            (displayHelloRecord hmacSha256 token hostNonce displayNonce)).val⟩ := by
  obtain ⟨reads, hread⟩ := readExactly_append hprogress hinbound
  rw [signed_length, (encodeRecord _).property] at hread
  have hhello := @performDisplayHello_hostHello hmacSha256 token hostNonce displayNonce hhost
    hdisplay (hnonzero _)
  simp only [performDisplayPairingHandshake, hread, hhello]
  exact ⟨reads, rfl⟩

end Handshake

end LadoFlow.Android
