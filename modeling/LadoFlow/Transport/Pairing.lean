import LadoFlow.Framework.Codec
import LadoFlow.Protocol.Frame

/-!
# Tether pairing preface

The fixed-size records and the transcript proofs of the pairing handshake, with the steps that
each role takes between two reads of its socket. The keyed hash is a parameter.
-/

namespace LadoFlow.Transport

open Framework
open Protocol (readU8 readU16)

/-- A byte array of fixed size. -/
abbrev FixedBytes (n : Nat) := { bytes : Bytes // bytes.length = n }

def FixedBytes.zero (n : Nat) : FixedBytes n := ⟨List.replicate n 0, List.length_replicate⟩

def tetherPairingVersion : UInt16 := 1
def pairingMagic : Bytes := [0x4C, 0x44, 0x46, 0x50]
def pairingContext : Bytes := utf8Bytes "LadoFlow USB tether pairing v1" ++ [0]

abbrev TetherPairingToken := FixedBytes 10
abbrev PairingNonce := FixedBytes 16
abbrev PairingTag := FixedBytes 32

/-- The failures that depend on the record that was read. -/
inductive TetherPairingError where
  | badMagic
  | unsupportedVersion (version : UInt16)
  | unexpectedKind (expected actual : UInt8)
  | nonCanonicalRecord
  | authenticationFailed
  deriving DecidableEq, Repr

inductive PairingRecordKind where
  | hostHello
  | displayHello
  | hostFinished
  | displayFinished
  deriving DecidableEq, Repr

def PairingRecordKind.value : PairingRecordKind → UInt8
  | .hostHello => 1
  | .displayHello => 2
  | .hostFinished => 3
  | .displayFinished => 4

theorem PairingRecordKind.value_injective : Function.Injective value := by
  intro a b
  cases a <;> cases b <;> decide

@[ext] structure PairingRecord where
  kind : UInt8
  nonce : PairingNonce
  tag : PairingTag
  deriving DecidableEq

def encodeRecord (record : PairingRecord) : FixedBytes 56 where
  val := pairingMagic ++ (toBeBytes tetherPairingVersion ++ (toBeBytes record.kind ++
    (toBeBytes (0 : UInt8) ++ (record.nonce.val ++ record.tag.val))))
  property := by
    simp only [List.length_append, toBeBytes_length, record.nonce.property, record.tag.property]
    rfl

def decodeRecord (bytes : FixedBytes 56) : Except TetherPairingError PairingRecord :=
  if bytes.val.take 4 ≠ pairingMagic then .error .badMagic
  else
  let version := readU16 bytes.val 4
  if version ≠ tetherPairingVersion then .error (.unsupportedVersion version)
  else if readU8 bytes.val 7 ≠ 0 then .error .nonCanonicalRecord
  else .ok
    { kind := readU8 bytes.val 6
      nonce := ⟨(bytes.val.drop 8).take 16, by simp [bytes.property]⟩
      tag := ⟨bytes.val.drop 24, by simp [bytes.property]⟩ }

/-- The record codec is a bijection onto the accepted arrays. -/
theorem decodeRecord_eq_ok {bytes : FixedBytes 56} {record : PairingRecord} :
    decodeRecord bytes = .ok record ↔ bytes = encodeRecord record := by
  have hlength := bytes.property
  rw [Subtype.ext_iff, eq_comm (a := bytes.val), encodeRecord, slice_eq _ _ _ rfl (by decide),
    word_eq_drop, word_eq_drop, word_eq_drop, slice_eq_drop _ _ _ _ record.nonce.property
    (by decide)]
  simp only [decodeRecord, ite_error_eq_ok, not_not, Except.ok.injEq, hlength, readU8, readU16,
    PairingRecord.ext_iff, Subtype.ext_iff]
  constructor
  · rintro ⟨hmagic, hversion, hreserved, hkind, hnonce, htag⟩
    exact ⟨by decide, hmagic, by decide, hversion, by decide, hkind, by decide, hreserved,
      by decide, hnonce, htag.symm⟩
  · rintro ⟨-, hmagic, -, hversion, -, hkind, -, hreserved, -, hnonce, htag⟩
    exact ⟨hmagic, hversion, hreserved, hkind, hnonce, htag.symm⟩

/-- The transcript that a proof of the given kind covers. -/
def pairingMessage (kind : PairingRecordKind) (hostNonce displayNonce : PairingNonce) : Bytes :=
  pairingContext ++ toBeBytes tetherPairingVersion ++ [kind.value] ++ hostNonce.val ++
    displayNonce.val

/-- A transcript determines its kind and both nonces. -/
theorem pairingMessage_inj {kind kind' : PairingRecordKind}
    {hostNonce hostNonce' displayNonce displayNonce' : PairingNonce}
    (h : pairingMessage kind hostNonce displayNonce =
      pairingMessage kind' hostNonce' displayNonce') :
    kind = kind' ∧ hostNonce = hostNonce' ∧ displayNonce = displayNonce' := by
  obtain ⟨h, hdisplay⟩ := List.append_inj' h
    (by rw [displayNonce.property, displayNonce'.property])
  obtain ⟨h, hhost⟩ := List.append_inj' h (by rw [hostNonce.property, hostNonce'.property])
  obtain ⟨-, hkind⟩ := List.append_inj' h rfl
  exact ⟨PairingRecordKind.value_injective (List.singleton_inj.mp hkind), Subtype.ext hhost,
    Subtype.ext hdisplay⟩

section Proofs

variable (hmacSha256 : TetherPairingToken → Bytes → PairingTag) (token : TetherPairingToken)

def pairingTag (kind : PairingRecordKind) (hostNonce displayNonce : PairingNonce) : PairingTag :=
  hmacSha256 token (pairingMessage kind hostNonce displayNonce)

def verifyPairingTag (kind : PairingRecordKind) (hostNonce displayNonce : PairingNonce)
    (tag : PairingTag) : Except TetherPairingError Unit :=
  if hmacSha256 token (pairingMessage kind hostNonce displayNonce) = tag then .ok ()
  else .error .authenticationFailed

theorem verifyPairingTag_eq_ok {kind : PairingRecordKind} {hostNonce displayNonce : PairingNonce}
    {tag : PairingTag} {u : Unit} :
    verifyPairingTag hmacSha256 token kind hostNonce displayNonce tag = .ok u ↔
      tag = pairingTag hmacSha256 token kind hostNonce displayNonce := by
  rw [verifyPairingTag, pairingTag]
  split
  · simp_all
  · simp_all [eq_comm]

def validateRecordKind (record : PairingRecord) (expected : PairingRecordKind) :
    Except TetherPairingError Unit :=
  if record.kind = expected.value then .ok ()
  else .error (.unexpectedKind expected.value record.kind)

theorem validateRecordKind_eq_ok {record : PairingRecord} {expected : PairingRecordKind}
    {u : Unit} : validateRecordKind record expected = .ok u ↔ record.kind = expected.value := by
  rw [validateRecordKind]
  split <;> simp_all

/-- The record with the hello proof of the display. -/
def displayHelloRecord (hostNonce displayNonce : PairingNonce) : PairingRecord where
  kind := PairingRecordKind.displayHello.value
  nonce := displayNonce
  tag := pairingTag hmacSha256 token .displayHello hostNonce displayNonce

def hostHelloRecord (hostNonce : PairingNonce) : PairingRecord where
  kind := PairingRecordKind.hostHello.value
  nonce := hostNonce
  tag := FixedBytes.zero 32

def finishedRecord (kind : PairingRecordKind) (hostNonce displayNonce : PairingNonce) :
    PairingRecord where
  kind := kind.value
  nonce := FixedBytes.zero 16
  tag := pairingTag hmacSha256 token kind hostNonce displayNonce

def validateFinishedRecord (record : PairingRecord) (expected : PairingRecordKind)
    (hostNonce displayNonce : PairingNonce) : Except TetherPairingError Unit := do
  validateRecordKind record expected
  if record.nonce ≠ FixedBytes.zero 16 then .error .nonCanonicalRecord
  else verifyPairingTag hmacSha256 token expected hostNonce displayNonce record.tag

theorem validateFinishedRecord_eq_ok {record : PairingRecord} {expected : PairingRecordKind}
    {hostNonce displayNonce : PairingNonce} {u : Unit} :
    validateFinishedRecord hmacSha256 token record expected hostNonce displayNonce = .ok u ↔
      record = finishedRecord hmacSha256 token expected hostNonce displayNonce := by
  simp only [validateFinishedRecord, bind_eq_ok, validateRecordKind_eq_ok, ite_error_eq_ok,
    not_not, verifyPairingTag_eq_ok, exists_const, PairingRecord.ext_iff, finishedRecord]

/-- The host after its first read: the display nonce it verified and the record it writes. -/
def hostReceiveHello (hostNonce : PairingNonce) (bytes : FixedBytes 56) :
    Except TetherPairingError (PairingNonce × PairingRecord) := do
  let displayHello ← decodeRecord bytes
  validateRecordKind displayHello .displayHello
  if displayHello.nonce = FixedBytes.zero 16 then .error .nonCanonicalRecord
  else do
  verifyPairingTag hmacSha256 token .displayHello hostNonce displayHello.nonce displayHello.tag
  .ok (displayHello.nonce,
    finishedRecord hmacSha256 token .hostFinished hostNonce displayHello.nonce)

/-- The host after its second read. -/
def hostReceiveFinished (hostNonce displayNonce : PairingNonce) (bytes : FixedBytes 56) :
    Except TetherPairingError Unit := do
  let displayFinished ← decodeRecord bytes
  validateFinishedRecord hmacSha256 token displayFinished .displayFinished hostNonce displayNonce

/-- The display after its first read: the host nonce and the record it writes. -/
def displayReceiveHello (displayNonce : PairingNonce) (bytes : FixedBytes 56) :
    Except TetherPairingError (PairingNonce × PairingRecord) := do
  let hostHello ← decodeRecord bytes
  validateRecordKind hostHello .hostHello
  if hostHello.nonce = FixedBytes.zero 16 ∨ hostHello.tag ≠ FixedBytes.zero 32 then
    .error .nonCanonicalRecord
  else
  .ok (hostHello.nonce, displayHelloRecord hmacSha256 token hostHello.nonce displayNonce)

/-- The display after its second read: the record it writes. -/
def displayReceiveFinished (hostNonce displayNonce : PairingNonce) (bytes : FixedBytes 56) :
    Except TetherPairingError PairingRecord := do
  let hostFinished ← decodeRecord bytes
  validateFinishedRecord hmacSha256 token hostFinished .hostFinished hostNonce displayNonce
  .ok (finishedRecord hmacSha256 token .displayFinished hostNonce displayNonce)

variable {hmacSha256} {token} {hostNonce displayNonce : PairingNonce} {bytes : FixedBytes 56}

theorem hostReceiveHello_ok {record : PairingRecord}
    (h : hostReceiveHello hmacSha256 token hostNonce bytes = .ok (displayNonce, record)) :
    bytes = encodeRecord (displayHelloRecord hmacSha256 token hostNonce displayNonce) := by
  simp only [hostReceiveHello, bind_eq_ok, validateRecordKind_eq_ok, ite_error_eq_ok,
    verifyPairingTag_eq_ok, decodeRecord_eq_ok, exists_const, Except.ok.injEq, Prod.mk.injEq] at h
  obtain ⟨displayHello, hbytes, hkind, -, htag, hnonce, -⟩ := h
  subst hnonce
  rw [hbytes]
  exact congrArg encodeRecord (PairingRecord.ext hkind rfl htag)

/-- The host accepts the hello of a display with its token, and nothing else. -/
theorem hostReceiveHello_eq_ok {record : PairingRecord} :
    hostReceiveHello hmacSha256 token hostNonce bytes = .ok (displayNonce, record) ↔
      displayNonce ≠ FixedBytes.zero 16 ∧
      bytes = encodeRecord (displayHelloRecord hmacSha256 token hostNonce displayNonce) ∧
      record = finishedRecord hmacSha256 token .hostFinished hostNonce displayNonce := by
  constructor
  · intro h
    have hbytes := hostReceiveHello_ok h
    simp only [hostReceiveHello, bind_eq_ok, ite_error_eq_ok, Except.ok.injEq, Prod.mk.injEq] at h
    obtain ⟨received, -, -, -, hnonce, -, -, rfl, hrecord⟩ := h
    exact ⟨hnonce, hbytes, hrecord.symm⟩
  · rintro ⟨hnonce, rfl, rfl⟩
    simp only [hostReceiveHello, bind_eq_ok, decodeRecord_eq_ok, validateRecordKind_eq_ok,
      ite_error_eq_ok, verifyPairingTag_eq_ok, Except.ok.injEq, Prod.mk.injEq]
    exact ⟨_, rfl, (), rfl, hnonce, (), rfl, rfl, rfl⟩

theorem hostReceiveFinished_eq_ok :
    hostReceiveFinished hmacSha256 token hostNonce displayNonce bytes = .ok () ↔
      bytes = encodeRecord
        (finishedRecord hmacSha256 token .displayFinished hostNonce displayNonce) := by
  simp only [hostReceiveFinished, bind_eq_ok, decodeRecord_eq_ok, validateFinishedRecord_eq_ok]
  constructor
  · rintro ⟨_, rfl, rfl⟩
    rfl
  · rintro rfl
    exact ⟨_, rfl, rfl⟩

theorem displayReceiveFinished_ok {record : PairingRecord}
    (h : displayReceiveFinished hmacSha256 token hostNonce displayNonce bytes = .ok record) :
    bytes = encodeRecord
        (finishedRecord hmacSha256 token .hostFinished hostNonce displayNonce) := by
  simp only [displayReceiveFinished, bind_eq_ok, decodeRecord_eq_ok, validateFinishedRecord_eq_ok,
    exists_const] at h
  obtain ⟨_, rfl, rfl, -⟩ := h
  rfl

end Proofs

end LadoFlow.Transport
