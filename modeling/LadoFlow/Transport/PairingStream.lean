import LadoFlow.Transport.Pairing

/-!
# The host side of tether pairing on its socket

The host writes its hello, answers the hello of the display and ends with the second record it reads.
A socket holds the bytes that arrive on it, in order; a read past them ends in a failure.
-/

namespace LadoFlow.Transport

open Framework

/-- The bytes that arrive and the bytes written so far. -/
structure PairingSocket where
  inbound : Bytes
  written : Bytes
  deriving DecidableEq

inductive PairingFailure where
  | zeroTimeout
  | io
  | record (error : TetherPairingError)
  deriving DecidableEq, Repr

namespace PairingSocket

def writeRecord (socket : PairingSocket) (record : PairingRecord) : PairingSocket :=
  { socket with written := socket.written ++ (encodeRecord record).val }

/-- `read_exact` of one record; at the end of the stream nothing is left. -/
def readRecord (socket : PairingSocket) : Option (FixedBytes 56) × PairingSocket :=
  if h : 56 ≤ socket.inbound.length then
    (some ⟨socket.inbound.take 56, by rw [List.length_take]; exact Nat.min_eq_left h⟩,
      { socket with inbound := socket.inbound.drop 56 })
  else (none, { socket with inbound := [] })

theorem readRecord_eq {socket after : PairingSocket} {bytes : FixedBytes 56} :
    socket.readRecord = (some bytes, after) ↔
      socket.inbound = bytes.val ++ after.inbound ∧ after.written = socket.written := by
  rw [readRecord]
  split
  · rename_i hlength
    simp only [Prod.mk.injEq, Option.some.injEq, Subtype.ext_iff]
    constructor
    · rintro ⟨hbytes, rfl⟩
      rw [← hbytes]
      exact ⟨(List.take_append_drop 56 _).symm, rfl⟩
    · rintro ⟨hinbound, hwritten⟩
      obtain ⟨inbound, written⟩ := after
      subst hwritten
      simp only at hinbound
      rw [hinbound, List.take_left' bytes.property, List.drop_left' bytes.property]
      exact ⟨rfl, rfl⟩
  · rename_i hlength
    constructor
    · intro h
      cases (Prod.mk.inj h).1
    · rintro ⟨hinbound, -⟩
      have hbytes := congrArg List.length hinbound
      rw [List.length_append, bytes.property] at hbytes
      omega

theorem readRecord_written (socket : PairingSocket) :
    socket.readRecord.2.written = socket.written := by
  rw [readRecord]
  split <;> rfl

end PairingSocket

section Host

variable (hmacSha256 : TetherPairingToken → Bytes → PairingTag) (token : TetherPairingToken)

/-- The host from its second read on. -/
def awaitDisplayFinished (hostNonce displayNonce : PairingNonce) (socket : PairingSocket) :
    Except PairingFailure Unit × PairingSocket :=
  match socket.readRecord with
  | (none, socket) => (.error .io, socket)
  | (some displayFinished, socket) =>
    match hostReceiveFinished hmacSha256 token hostNonce displayNonce displayFinished with
    | .error error => (.error (.record error), socket)
    | .ok () => (.ok (), socket)

def authenticateTetherHostStreamWithNonce (timeout : Nat) (hostNonce : PairingNonce)
    (socket : PairingSocket) : Except PairingFailure Unit × PairingSocket :=
  if timeout = 0 then (.error .zeroTimeout, socket)
  else
  match (socket.writeRecord (hostHelloRecord hostNonce)).readRecord with
  | (none, socket) => (.error .io, socket)
  | (some displayHello, socket) =>
    match hostReceiveHello hmacSha256 token hostNonce displayHello with
    | .error error => (.error (.record error), socket)
    | .ok (displayNonce, hostFinished) =>
      awaitDisplayFinished hmacSha256 token hostNonce displayNonce
        (socket.writeRecord hostFinished)

variable {hmacSha256} {token} {timeout : Nat} {hostNonce : PairingNonce}
  {socket after : PairingSocket}

theorem awaitDisplayFinished_eq_ok {displayNonce : PairingNonce} :
    awaitDisplayFinished hmacSha256 token hostNonce displayNonce socket = (.ok (), after) ↔
      socket.inbound = (encodeRecord
        (finishedRecord hmacSha256 token .displayFinished hostNonce displayNonce)).val ++
          after.inbound ∧ after.written = socket.written := by
  constructor
  · intro h
    rw [awaitDisplayFinished] at h
    split at h
    · cases h
    · rename_i displayFinished rest hread
      split at h
      · cases h
      · rename_i hreceive
        cases h
        have hbytes := hostReceiveFinished_eq_ok.mp hreceive
        rw [hbytes] at hread
        exact PairingSocket.readRecord_eq.mp hread
  · intro h
    have hread := PairingSocket.readRecord_eq.mpr h
    have hreceive := hostReceiveFinished_eq_ok.mpr (Eq.refl (encodeRecord
      (finishedRecord hmacSha256 token .displayFinished hostNonce displayNonce)))
    simp only [awaitDisplayFinished, hread, hreceive]

theorem awaitDisplayFinished_written (displayNonce : PairingNonce) :
    (awaitDisplayFinished hmacSha256 token hostNonce displayNonce socket).2.written =
      socket.written := by
  have hread := socket.readRecord_written
  rw [awaitDisplayFinished]
  split
  · rename_i rest heq
    rw [heq] at hread
    exact hread
  · rename_i displayFinished rest heq
    rw [heq] at hread
    split <;> exact hread

/-- The host writes its hello before it reads. -/
theorem authenticateTetherHostStreamWithNonce_opens (htimeout : timeout ≠ 0) : ∃ rest,
    (authenticateTetherHostStreamWithNonce hmacSha256 token timeout hostNonce socket).2.written =
      socket.written ++ (encodeRecord (hostHelloRecord hostNonce)).val ++ rest := by
  have hread := (socket.writeRecord (hostHelloRecord hostNonce)).readRecord_written
  rw [authenticateTetherHostStreamWithNonce, if_neg htimeout]
  split
  · rename_i rest heq
    rw [heq] at hread
    exact ⟨[], by rw [List.append_nil]; exact hread⟩
  · rename_i displayHello rest heq
    rw [heq] at hread
    split
    · exact ⟨[], by rw [List.append_nil]; exact hread⟩
    · rename_i displayNonce hostFinished hreceive
      rw [awaitDisplayFinished_written, PairingSocket.writeRecord, hread]
      exact ⟨_, rfl⟩

/-- The host answers the hello of a display with its token. -/
theorem authenticateTetherHostStreamWithNonce_answers (htimeout : timeout ≠ 0)
    {displayNonce : PairingNonce} (hnonce : displayNonce ≠ FixedBytes.zero 16) {rest : Bytes}
    (hinbound : socket.inbound =
      (encodeRecord (displayHelloRecord hmacSha256 token hostNonce displayNonce)).val ++ rest) :
    (authenticateTetherHostStreamWithNonce hmacSha256 token timeout hostNonce socket).2.written =
      socket.written ++ (encodeRecord (hostHelloRecord hostNonce)).val ++
        (encodeRecord
          (finishedRecord hmacSha256 token .hostFinished hostNonce displayNonce)).val := by
  have hread : (socket.writeRecord (hostHelloRecord hostNonce)).readRecord =
      (some (encodeRecord (displayHelloRecord hmacSha256 token hostNonce displayNonce)),
        ⟨rest, socket.written ++ (encodeRecord (hostHelloRecord hostNonce)).val⟩) :=
    PairingSocket.readRecord_eq.mpr ⟨hinbound, rfl⟩
  have hreceive := hostReceiveHello_eq_ok.mpr ⟨hnonce, Eq.refl (encodeRecord
    (displayHelloRecord hmacSha256 token hostNonce displayNonce)), rfl⟩
  simp only [authenticateTetherHostStreamWithNonce, if_neg htimeout, hread, hreceive,
    awaitDisplayFinished_written]
  rfl

/-- The host completes exactly when both records of a display with its token arrive. -/
theorem authenticateTetherHostStreamWithNonce_eq_ok :
    authenticateTetherHostStreamWithNonce hmacSha256 token timeout hostNonce socket =
        (.ok (), after) ↔
      timeout ≠ 0 ∧ ∃ displayNonce, displayNonce ≠ FixedBytes.zero 16 ∧
        socket.inbound =
          (encodeRecord (displayHelloRecord hmacSha256 token hostNonce displayNonce)).val ++
          ((encodeRecord
            (finishedRecord hmacSha256 token .displayFinished hostNonce displayNonce)).val ++
          after.inbound) ∧
        after.written = socket.written ++ (encodeRecord (hostHelloRecord hostNonce)).val ++
          (encodeRecord
            (finishedRecord hmacSha256 token .hostFinished hostNonce displayNonce)).val := by
  constructor
  · intro h
    rw [authenticateTetherHostStreamWithNonce] at h
    split at h
    · cases h
    · rename_i htimeout
      split at h
      · cases h
      · rename_i displayHello rest hread
        split at h
        · cases h
        · rename_i displayNonce hostFinished hreceive
          obtain ⟨hnonce, rfl, rfl⟩ := hostReceiveHello_eq_ok.mp hreceive
          obtain ⟨hinbound, hwritten⟩ := PairingSocket.readRecord_eq.mp hread
          obtain ⟨hlast, hall⟩ := awaitDisplayFinished_eq_ok.mp h
          refine ⟨htimeout, displayNonce, hnonce, ?_, ?_⟩
          · rw [← hlast]
            exact hinbound
          · rw [hall, PairingSocket.writeRecord, hwritten]
            rfl
  · rintro ⟨htimeout, displayNonce, hnonce, hinbound, hwritten⟩
    have hread : (socket.writeRecord (hostHelloRecord hostNonce)).readRecord =
        (some (encodeRecord (displayHelloRecord hmacSha256 token hostNonce displayNonce)),
          ⟨(encodeRecord
            (finishedRecord hmacSha256 token .displayFinished hostNonce displayNonce)).val ++
              after.inbound,
            socket.written ++ (encodeRecord (hostHelloRecord hostNonce)).val⟩) :=
      PairingSocket.readRecord_eq.mpr ⟨hinbound, rfl⟩
    have hreceive := hostReceiveHello_eq_ok.mpr ⟨hnonce, Eq.refl (encodeRecord
      (displayHelloRecord hmacSha256 token hostNonce displayNonce)), rfl⟩
    simp only [authenticateTetherHostStreamWithNonce, if_neg htimeout, hread, hreceive]
    exact awaitDisplayFinished_eq_ok.mpr ⟨rfl, hwritten⟩

end Host

end LadoFlow.Transport
