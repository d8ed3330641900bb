import LadoFlow.Android.Binary
import LadoFlow.Transport.Pairing

/-!
# The display side of tether pairing

The Android implementation of the pairing records. What it accepts and what it writes are the
records of the transport crate.
-/

namespace LadoFlow.Android

open Framework
open LadoFlow.Transport

namespace TetherPairingKind

def entries : List PairingRecordKind := [.hostHello, .displayHello, .hostFinished, .displayFinished]

def wireValue : PairingRecordKind → Int32
  | .hostHello => 1
  | .displayHello => 2
  | .hostFinished => 3
  | .displayFinished => 4

def name : PairingRecordKind → String
  | .hostHello => "HostHello"
  | .displayHello => "DisplayHello"
  | .hostFinished => "HostFinished"
  | .displayFinished => "DisplayFinished"

def fromWire (value : Int32) : Except String PairingRecordKind :=
  decodeTagOr entries wireValue value s!"Unknown USB tether pairing record kind {value}"

theorem wireValue_eq (kind : PairingRecordKind) : wireValue kind = widen8 kind.value := by
  cases kind <;> rfl

theorem fromWire_eq_ok {value : UInt8} {kind : PairingRecordKind} :
    fromWire (widen8 value) = .ok kind ↔ value = kind.value := by
  rw [← widen8_inj, ← wireValue_eq]
  exact decodeTagOr_eq_ok _ wireValue (by intro k; cases k <;> decide)
    (by intro a b; cases a <;> cases b <;> decide)

end TetherPairingKind

structure TetherPairingRecord where
  kind : PairingRecordKind
  nonce : SignedBytes
  tag : SignedBytes

/-- The text of the first failing check, or nothing. -/
def canonicalViolation (record : TetherPairingRecord) : Option String :=
  let nonceIsZero := record.nonce.all (· = 0)
  let tagIsZero := record.tag.all (· = 0)
  if record.nonce.length ≠ 16 then some "USB tether pairing nonce must contain 16 bytes"
  else if record.tag.length ≠ 32 then some "USB tether pairing tag must contain 32 bytes"
  else
  match record.kind with
  | .hostHello =>
    if nonceIsZero then some "HostHello nonce must not be zero"
    else if ¬tagIsZero then some "HostHello tag must be zero"
    else none
  | .displayHello =>
    if nonceIsZero then some "DisplayHello nonce must not be zero"
    else if tagIsZero then some "DisplayHello tag must not be zero"
    else none
  | kind =>
    if ¬nonceIsZero then some (TetherPairingKind.name kind ++ " nonce must be zero")
    else if tagIsZero then some (TetherPairingKind.name kind ++ " tag must not be zero")
    else none

theorem canonicalViolation_hostHello {nonce tag : SignedBytes}
    (h : canonicalViolation ⟨.hostHello, nonce, tag⟩ = none) : tag.all (· = 0) = true := by
  by_contra htag
  simp only [canonicalViolation, if_pos htag] at h
  split_ifs at h

theorem canonicalViolation_hostFinished {nonce tag : SignedBytes}
    (h : canonicalViolation ⟨.hostFinished, nonce, tag⟩ = none) : nonce.all (· = 0) = true := by
  by_contra hnonce
  simp only [canonicalViolation, if_pos hnonce] at h
  split_ifs at h

def validateCanonicalRecord (record : TetherPairingRecord) : Except String Unit :=
  match canonicalViolation record with
  | some message => .error message
  | none => .ok ()

theorem validateCanonicalRecord_eq_ok {record : TetherPairingRecord} {u : Unit} :
    validateCanonicalRecord record = .ok u ↔ canonicalViolation record = none := by
  rw [validateCanonicalRecord]
  split <;> simp_all

def tetherPairingMagic : SignedBytes := signed pairingMagic
def tetherPairingVersion : Int32 := 1

def encodePairingRecord (record : TetherPairingRecord) : Except String SignedBytes := do
  validateCanonicalRecord record
  .ok (tetherPairingMagic ++ [0, tetherPairingVersion.toInt8,
    (TetherPairingKind.wireValue record.kind).toInt8, 0] ++ record.nonce ++ record.tag)

/-- Parse the bytes of one exact read. -/
def readPairingRecord (encoded : SignedBytes) (expectedKind : PairingRecordKind) :
    Except String TetherPairingRecord :=
  if encoded.take 4 ≠ tetherPairingMagic then .error "USB tether pairing magic must be LDFP"
  else if readU16 encoded 4 ≠ tetherPairingVersion then
    .error "USB tether pairing version must be 1"
  else do
  let kind ← TetherPairingKind.fromWire (readU8 encoded 6)
  if kind ≠ expectedKind then
    .error ("Expected " ++ TetherPairingKind.name expectedKind ++ " but received " ++
      TetherPairingKind.name kind)
  else if encoded.getD 7 0 ≠ 0 then .error "USB tether pairing reserved byte must be zero"
  else
  let record : TetherPairingRecord := ⟨kind, (encoded.drop 8).take 16, encoded.drop 24⟩
  do
  validateCanonicalRecord record
  .ok record

section Proofs

variable (hmacSha256 : TetherPairingToken → Bytes → PairingTag) (token : TetherPairingToken)

/-- The tag of a proof; the token and both nonces have the sizes that the function requires. -/
def computePairingTag (kind : PairingRecordKind) (hostNonce displayNonce : SignedBytes) :
    Except String SignedBytes :=
  if kind = .hostHello then
    .error "HostHello carries a zero tag and is not authenticated"
  else
  let message := signed (utf8Bytes "LadoFlow USB tether pairing v1") ++
    [0, 0, tetherPairingVersion.toInt8, (TetherPairingKind.wireValue kind).toInt8] ++
    hostNonce ++ displayNonce
  .ok (signed (hmacSha256 token (unsigned message)).val)

/-- `performDisplayPairingHandshake` up to its second read: the host nonce and the bytes written. -/
def performDisplayHello (displayNonce encoded : SignedBytes) :
    Except String (SignedBytes × SignedBytes) := do
  let hostHello ← readPairingRecord encoded .hostHello
  if displayNonce.length ≠ 16 ∨ displayNonce.all (· = 0) then
    .error "Display nonce must contain 16 bytes and must not be zero"
  else do
  let displayHelloTag ← computePairingTag hmacSha256 token .displayHello hostHello.nonce
    displayNonce
  let written ← encodePairingRecord ⟨.displayHello, displayNonce, displayHelloTag⟩
  .ok (hostHello.nonce, written)

/-- `performDisplayPairingHandshake` from its second read on: the bytes written. -/
def performDisplayFinished (hostNonce displayNonce encoded : SignedBytes) :
    Except String SignedBytes := do
  let hostFinished ← readPairingRecord encoded .hostFinished
  let expectedHostTag ← computePairingTag hmacSha256 token .hostFinished hostNonce displayNonce
  if expectedHostTag ≠ hostFinished.tag then
    .error "HostFinished authentication tag did not match"
  else do
  let displayFinishedTag ← computePairingTag hmacSha256 token .displayFinished hostNonce
    displayNonce
  encodePairingRecord ⟨.displayFinished, List.replicate 16 0, displayFinishedTag⟩

variable {hmacSha256} {token} {hostNonce displayNonce : PairingNonce} {bytes : FixedBytes 56}

theorem computePairingTag_ok {kind : PairingRecordKind} {tag : SignedBytes}
    (h : computePairingTag hmacSha256 token kind (signed hostNonce.val) (signed displayNonce.val) =
      .ok tag) : tag = signed (pairingTag hmacSha256 token kind hostNonce displayNonce).val := by
  rw [computePairingTag] at h
  split at h
  · cases h
  · cases h
    have hheader : ([0, 0, tetherPairingVersion.toInt8,
        (TetherPairingKind.wireValue kind).toInt8] : SignedBytes) =
        signed ([0] ++ toBeBytes Transport.tetherPairingVersion ++ [kind.value]) := by
      cases kind <;> rfl
    rw [hheader, ← signed_append, ← signed_append, ← signed_append, unsigned_signed, pairingTag,
      pairingMessage, pairingContext]
    simp only [List.append_assoc]

theorem encodePairingRecord_ok {kind : PairingRecordKind} {nonce : PairingNonce}
    {tag : PairingTag} {written : SignedBytes}
    (h : encodePairingRecord ⟨kind, signed nonce.val, signed tag.val⟩ = .ok written) :
    written = signed (encodeRecord ⟨kind.value, nonce, tag⟩).val := by
  obtain ⟨-, -, h⟩ := bind_eq_ok.mp h
  cases h
  have hheader : ([0, tetherPairingVersion.toInt8, (TetherPairingKind.wireValue kind).toInt8, 0] :
      SignedBytes) = signed (toBeBytes Transport.tetherPairingVersion ++ [kind.value, 0]) := by
    cases kind <;> rfl
  rw [hheader, tetherPairingMagic, ← signed_append, ← signed_append, ← signed_append, encodeRecord]
  simp only [toBeBytes_uint8, List.append_assoc, List.cons_append, List.nil_append]

theorem computePairingTag_eq {kind : PairingRecordKind} (hkind : kind ≠ .hostHello) :
    computePairingTag hmacSha256 token kind (signed hostNonce.val) (signed displayNonce.val) =
      .ok (signed (pairingTag hmacSha256 token kind hostNonce displayNonce).val) := by
  have hsome : ∃ tag, computePairingTag hmacSha256 token kind (signed hostNonce.val)
      (signed displayNonce.val) = .ok tag := by
    rw [computePairingTag, if_neg hkind]
    exact ⟨_, rfl⟩
  obtain ⟨tag, htag⟩ := hsome
  rw [htag, computePairingTag_ok htag]

/-- A canonical record is written as the transport crate writes it. -/
theorem encodePairingRecord_eq {kind : PairingRecordKind} {nonce : PairingNonce} {tag : PairingTag}
    (h : canonicalViolation ⟨kind, signed nonce.val, signed tag.val⟩ = none) :
    encodePairingRecord ⟨kind, signed nonce.val, signed tag.val⟩ =
      .ok (signed (encodeRecord ⟨kind.value, nonce, tag⟩).val) := by
  have hsome : ∃ written, encodePairingRecord ⟨kind, signed nonce.val, signed tag.val⟩ =
      .ok written := by
    have hcanonical : validateCanonicalRecord ⟨kind, signed nonce.val, signed tag.val⟩ = .ok () :=
      validateCanonicalRecord_eq_ok.mpr h
    rw [encodePairingRecord, hcanonical]
    exact ⟨_, rfl⟩
  obtain ⟨written, hwritten⟩ := hsome
  rw [hwritten, encodePairingRecord_ok hwritten]

/-- What the display reads is a record of the transport crate. -/
theorem readPairingRecord_ok {kind : PairingRecordKind} {record : TetherPairingRecord}
    (h : readPairingRecord (signed bytes.val) kind = .ok record) :
    canonicalViolation record = none ∧ ∃ nonce tag,
      bytes = encodeRecord ⟨kind.value, nonce, tag⟩ ∧
      record = ⟨kind, signed nonce.val, signed tag.val⟩ := by
  have hlength := bytes.property
  simp only [readPairingRecord, ite_error_eq_ok, bind_eq_ok, not_not] at h
  obtain ⟨hmagic, hversion, actual, hactual, rfl, hreserved, checked, hcanonical, h⟩ := h
  cases h
  rw [tetherPairingMagic, ← signed_take, signed_inj] at hmagic
  have hversion : widen16 (Protocol.readU16 bytes.val 4) = widen16 Transport.tetherPairingVersion :=
    (readU16_signed bytes.val 4 (by omega)).symm.trans hversion
  rw [readU8_signed bytes.val 6 (by omega), TetherPairingKind.fromWire_eq_ok] at hactual
  have hreserved : Protocol.readU8 bytes.val 7 = 0 := by
    rw [← widen8_inj, ← readU8_signed bytes.val 7 (by omega), readU8, hreserved]
    rfl
  have hdecode : decodeRecord bytes = .ok
      { kind := actual.value
        nonce := ⟨(bytes.val.drop 8).take 16, by simp [hlength]⟩
        tag := ⟨bytes.val.drop 24, by simp [hlength]⟩ } := by
    rw [decodeRecord, if_neg (not_not.mpr hmagic)]
    simp only
    rw [if_neg (not_not.mpr (widen16_inj.mp hversion)), if_neg (not_not.mpr hreserved)]
    simp only [hactual]
  refine ⟨?_, _, _, decodeRecord_eq_ok.mp hdecode, ?_⟩
  · exact validateCanonicalRecord_eq_ok.mp hcanonical
  · rw [signed_take, signed_drop, signed_drop]

/-- A canonical record of the transport crate is read back. -/
theorem readPairingRecord_encode {kind : PairingRecordKind} {nonce : PairingNonce}
    {tag : PairingTag} (h : canonicalViolation ⟨kind, signed nonce.val, signed tag.val⟩ = none) :
    readPairingRecord (signed (encodeRecord ⟨kind.value, nonce, tag⟩).val) kind =
      .ok ⟨kind, signed nonce.val, signed tag.val⟩ := by
  have hdecode := decodeRecord_eq_ok.mpr (Eq.refl (encodeRecord ⟨kind.value, nonce, tag⟩))
  generalize encodeRecord ⟨kind.value, nonce, tag⟩ = bytes at hdecode
  have hlength := bytes.property
  simp only [decodeRecord, ite_error_eq_ok, not_not, Except.ok.injEq, PairingRecord.mk.injEq]
    at hdecode
  obtain ⟨hmagic, hversion, hreserved, hkind, hnonce, htag⟩ := hdecode
  have hmagic : (signed bytes.val).take 4 = tetherPairingMagic := by
    rw [← signed_take, hmagic, tetherPairingMagic]
  have hversion : readU16 (signed bytes.val) 4 = tetherPairingVersion := by
    rw [readU16_signed _ 4 (by omega), hversion]
    decide
  have hactual : TetherPairingKind.fromWire (readU8 (signed bytes.val) 6) = .ok kind := by
    rw [readU8_signed _ 6 (by omega), TetherPairingKind.fromWire_eq_ok]
    exact hkind
  have hreserved : (signed bytes.val).getD 7 0 = 0 := by
    have hbyte := (readU8_byte bytes.val 7 (by omega)).symm.trans
      (readU8_signed bytes.val 7 (by omega))
    rw [getD_signed bytes.val 7 (by omega), widen8_inj.mp hbyte, hreserved]
    rfl
  have hnonce : ((signed bytes.val).drop 8).take 16 = signed nonce.val := by
    rw [← signed_drop, ← signed_take, ← hnonce]
  have htag : (signed bytes.val).drop 24 = signed tag.val := by
    rw [← signed_drop, ← htag]
  have hcanonical : validateCanonicalRecord ⟨kind, signed nonce.val, signed tag.val⟩ = .ok () :=
    validateCanonicalRecord_eq_ok.mpr h
  rw [readPairingRecord, if_neg (not_not.mpr hmagic), if_neg (not_not.mpr hversion), hactual,
    bind_ok, if_neg (not_not.mpr rfl), if_neg (not_not.mpr hreserved)]
  simp only [hnonce, htag, hcanonical, bind_ok]

private theorem signed_all_zero {n : Nat} {bytes : FixedBytes n} :
    (signed bytes.val).all (· = 0) = true ↔ bytes = FixedBytes.zero n := by
  have hbyte (b : UInt8) : b.toInt8 = 0 ↔ b = 0 :=
    ⟨fun h => congrArg Int8.toUInt8 h, fun h => congrArg UInt8.toInt8 h⟩
  rw [Subtype.ext_iff, FixedBytes.zero, List.eq_replicate_iff]
  simp [signed, hbyte, bytes.property]

theorem performDisplayHello_ok {nonce written : SignedBytes}
    (h : performDisplayHello hmacSha256 token (signed displayNonce.val) (signed bytes.val) =
      .ok (nonce, written)) : ∃ hostNonce : PairingNonce, nonce = signed hostNonce.val ∧
      bytes = encodeRecord (hostHelloRecord hostNonce) ∧
      written = signed
        (encodeRecord (displayHelloRecord hmacSha256 token hostNonce displayNonce)).val := by
  simp only [performDisplayHello, bind_eq_ok, ite_error_eq_ok, Except.ok.injEq,
    Prod.mk.injEq] at h
  obtain ⟨record, hread, -, tag, htag, encoded, hencode, rfl, rfl⟩ := h
  obtain ⟨hcanonical, hostNonce, hostTag, rfl, rfl⟩ := readPairingRecord_ok hread
  have hzero : hostTag = FixedBytes.zero 32 :=
    signed_all_zero.mp (canonicalViolation_hostHello hcanonical)
  rw [computePairingTag_ok htag] at hencode
  exact ⟨hostNonce, rfl, by rw [hzero]; rfl, encodePairingRecord_ok hencode⟩

theorem canonical_hello {kind : PairingRecordKind} {nonce : PairingNonce} {tag : PairingTag}
    (hnonce : nonce ≠ FixedBytes.zero 16)
    (hkind : kind = .hostHello ∧ tag = FixedBytes.zero 32 ∨
      kind = .displayHello ∧ tag ≠ FixedBytes.zero 32) :
    canonicalViolation ⟨kind, signed nonce.val, signed tag.val⟩ = none := by
  have hnonzero := mt signed_all_zero.mp hnonce
  rcases hkind with ⟨rfl, rfl⟩ | ⟨rfl, htag⟩
  · have hzero := signed_all_zero.mpr (Eq.refl (FixedBytes.zero 32))
    simp only [canonicalViolation, signed_length, nonce.property, (FixedBytes.zero 32).property,
      hnonzero, hzero, not_true_eq_false, Bool.false_eq_true, ne_eq, if_false]
  · have htag := mt signed_all_zero.mp htag
    simp only [canonicalViolation, signed_length, nonce.property, tag.property, hnonzero, htag,
      not_true_eq_false, Bool.false_eq_true, ne_eq, if_false]

theorem canonical_finished {kind : PairingRecordKind} {tag : PairingTag}
    (htag : tag ≠ FixedBytes.zero 32) (hkind : kind = .hostFinished ∨ kind = .displayFinished) :
    canonicalViolation ⟨kind, signed (FixedBytes.zero 16).val, signed tag.val⟩ = none := by
  have htag := mt signed_all_zero.mp htag
  have hzero := signed_all_zero.mpr (Eq.refl (FixedBytes.zero 16))
  rcases hkind with rfl | rfl <;>
    simp only [canonicalViolation, signed_length, (FixedBytes.zero 16).property, tag.property,
      hzero, htag, not_true_eq_false, Bool.false_eq_true, ne_eq, if_false]

/-- The display answers the hello of a host. -/
theorem performDisplayHello_hostHello (hhost : hostNonce ≠ FixedBytes.zero 16)
    (hdisplay : displayNonce ≠ FixedBytes.zero 16)
    (htag : pairingTag hmacSha256 token .displayHello hostNonce displayNonce ≠
      FixedBytes.zero 32) :
    performDisplayHello hmacSha256 token (signed displayNonce.val)
        (signed (encodeRecord (hostHelloRecord hostNonce)).val) =
      .ok (signed hostNonce.val, signed (encodeRecord
        (displayHelloRecord hmacSha256 token hostNonce displayNonce)).val) := by
  have hread := readPairingRecord_encode (canonical_hello hhost (.inl ⟨rfl, rfl⟩))
  have hnonce : ¬ ((signed displayNonce.val).length ≠ 16 ∨
      (signed displayNonce.val).all (· = 0) = true) := by
    rw [signed_length, displayNonce.property, signed_all_zero]
    simp [hdisplay]
  have hencode := encodePairingRecord_eq (canonical_hello hdisplay (.inr ⟨rfl, htag⟩))
  simp only [performDisplayHello, hostHelloRecord, hread, bind_ok, if_neg hnonce]
  rw [computePairingTag_eq (by decide), bind_ok, hencode]
  rfl

/-- The display accepts the finished record of a host with its token. -/
theorem performDisplayFinished_hostFinished
    (hhost : pairingTag hmacSha256 token .hostFinished hostNonce displayNonce ≠
      FixedBytes.zero 32)
    (hdisplay : pairingTag hmacSha256 token .displayFinished hostNonce displayNonce ≠
      FixedBytes.zero 32) :
    performDisplayFinished hmacSha256 token (signed hostNonce.val) (signed displayNonce.val)
        (signed (encodeRecord
          (finishedRecord hmacSha256 token .hostFinished hostNonce displayNonce)).val) =
      .ok (signed (encodeRecord
        (finishedRecord hmacSha256 token .displayFinished hostNonce displayNonce)).val) := by
  have hread := readPairingRecord_encode (canonical_finished hhost (.inl rfl))
  have hencode := encodePairingRecord_eq (canonical_finished hdisplay (.inr rfl))
  have hzero : signed (FixedBytes.zero 16).val = List.replicate 16 0 := by decide
  rw [hzero] at hencode
  simp only [performDisplayFinished, finishedRecord, hread, bind_ok]
  rw [computePairingTag_eq (by decide), bind_ok, if_neg (not_not.mpr rfl),
    computePairingTag_eq (by decide), bind_ok]
  exact hencode

theorem performDisplayFinished_ok {written : SignedBytes}
    (h : performDisplayFinished hmacSha256 token (signed hostNonce.val) (signed displayNonce.val)
      (signed bytes.val) = .ok written) :
    bytes = encodeRecord (finishedRecord hmacSha256 token .hostFinished hostNonce displayNonce) ∧
      written = signed (encodeRecord
        (finishedRecord hmacSha256 token .displayFinished hostNonce displayNonce)).val := by
  simp only [performDisplayFinished, bind_eq_ok, ite_error_eq_ok, not_not] at h
  obtain ⟨record, hread, expected, hexpected, htag, tag, hfinished, hencode⟩ := h
  obtain ⟨hcanonical, nonce, hostTag, rfl, rfl⟩ := readPairingRecord_ok hread
  rw [computePairingTag_ok hexpected, signed_inj] at htag
  have hzero : nonce = FixedBytes.zero 16 :=
    signed_all_zero.mp (canonicalViolation_hostFinished hcanonical)
  constructor
  · rw [hzero, ← Subtype.ext htag]
    rfl
  · rw [computePairingTag_ok hfinished] at hencode
    exact @encodePairingRecord_ok .displayFinished (FixedBytes.zero 16) _ _ hencode

end Proofs

end LadoFlow.Android
