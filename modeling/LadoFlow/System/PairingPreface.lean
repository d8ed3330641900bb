import LadoFlow.Android.TetherHandshake
import LadoFlow.System.Pairing
import LadoFlow.Transport.PairingStream

/-!
# The pairing preface on the wire

One run of the Rust host and the Android display over a connection that delivers any bytes to either
side. The keyed hash is a parameter whose values are never all zero.
-/

namespace LadoFlow.System

open Framework
open LadoFlow.Transport
open LadoFlow.Android (signed unsigned TetherPairingHandshake PairingStreams encodePairingRecord
  computePairingTag performDisplayPairingHandshake)

/-- What both sides hold, the bytes that arrive at each, and how the display is handed its bytes.
Both sides draw nonzero nonces; a blocking read hands out at least one byte. -/
structure PrefaceRun where
  hostToken : TetherPairingToken
  displayToken : TetherPairingToken
  hostNonce : PairingNonce
  displayNonce : PairingNonce
  timeout : Nat
  toHost : Bytes
  toDisplay : Bytes
  grant : Nat → Nat
  hostNonce_ne : hostNonce ≠ FixedBytes.zero 16
  displayNonce_ne : displayNonce ≠ FixedBytes.zero 16
  timeout_ne : timeout ≠ 0
  progresses : ∀ call, 0 < grant call

section Records

variable (hmacSha256 : TetherPairingToken → Bytes → PairingTag)

/-- The record of each kind that a run with the token and nonces sends. -/
def recordOf (token : TetherPairingToken) (hostNonce displayNonce : PairingNonce) :
    PairingRecordKind → PairingRecord
  | .hostHello => hostHelloRecord hostNonce
  | .displayHello => displayHelloRecord hmacSha256 token hostNonce displayNonce
  | .hostFinished => finishedRecord hmacSha256 token .hostFinished hostNonce displayNonce
  | .displayFinished => finishedRecord hmacSha256 token .displayFinished hostNonce displayNonce

/-- The bytes of that record in the transport crate. -/
def recordBytes (token : TetherPairingToken) (hostNonce displayNonce : PairingNonce)
    (kind : PairingRecordKind) : Bytes :=
  (encodeRecord (recordOf hmacSha256 token hostNonce displayNonce kind)).val

variable {hmacSha256}

theorem encodeRecord_inj {left right : PairingRecord}
    (h : (encodeRecord left).val = (encodeRecord right).val) : left = right := by
  have hleft := decodeRecord_eq_ok.mpr (Eq.refl (encodeRecord left))
  have hright := decodeRecord_eq_ok.mpr (Eq.refl (encodeRecord right))
  rw [Subtype.ext h, hright] at hleft
  exact (Except.ok.inj hleft).symm

/-- The nonce field of a record at the front of a stream. -/
theorem encodeRecord_nonce (record : PairingRecord) (rest : Bytes) :
    (((encodeRecord record).val ++ rest).drop 8).take 16 = record.nonce.val := by
  have hlength := (encodeRecord record).property
  have hdecode := decodeRecord_eq_ok.mpr (Eq.refl (encodeRecord record))
  simp only [decodeRecord, ite_error_eq_ok, Except.ok.injEq] at hdecode
  obtain ⟨-, -, -, hrecord⟩ := hdecode
  rw [List.drop_append_of_le_length (by omega), List.take_append_of_le_length
    (by rw [List.length_drop]; omega)]
  exact congrArg (fun record => record.nonce.val) hrecord

/-- The tag field of a proof. -/
theorem recordBytes_tag {token : TetherPairingToken} {hostNonce displayNonce : PairingNonce}
    {kind : PairingRecordKind} (hkind : kind ≠ .hostHello) :
    (recordBytes hmacSha256 token hostNonce displayNonce kind).drop 24 =
      (pairingTag hmacSha256 token kind hostNonce displayNonce).val := by
  have hdecode := decodeRecord_eq_ok.mpr
    (Eq.refl (encodeRecord (recordOf hmacSha256 token hostNonce displayNonce kind)))
  simp only [decodeRecord, ite_error_eq_ok, Except.ok.injEq] at hdecode
  obtain ⟨-, -, -, hrecord⟩ := hdecode
  have htag := congrArg (fun record => record.tag.val) hrecord
  cases kind with
  | hostHello => exact absurd rfl hkind
  | displayHello | hostFinished | displayFinished => exact htag

/-- Both languages write each record with the same bytes. -/
theorem encodePairingRecord_recordOf (hnonzero : ∀ token message,
      hmacSha256 token message ≠ FixedBytes.zero 32) {hostNonce displayNonce : PairingNonce}
    (hhost : hostNonce ≠ FixedBytes.zero 16) (hdisplay : displayNonce ≠ FixedBytes.zero 16)
    (token : TetherPairingToken) (kind : PairingRecordKind) :
    encodePairingRecord
        ⟨kind, signed (recordOf hmacSha256 token hostNonce displayNonce kind).nonce.val,
          signed (recordOf hmacSha256 token hostNonce displayNonce kind).tag.val⟩ =
      .ok (signed (encodeRecord (recordOf hmacSha256 token hostNonce displayNonce kind)).val) := by
  cases kind with
  | hostHello =>
    exact Android.encodePairingRecord_eq (Android.canonical_hello hhost (.inl ⟨rfl, rfl⟩))
  | displayHello =>
    exact Android.encodePairingRecord_eq
      (Android.canonical_hello hdisplay (.inr ⟨rfl, hnonzero _ _⟩))
  | hostFinished =>
    exact Android.encodePairingRecord_eq (Android.canonical_finished (hnonzero _ _) (.inl rfl))
  | displayFinished =>
    exact Android.encodePairingRecord_eq (Android.canonical_finished (hnonzero _ _) (.inr rfl))

end Records

namespace PrefaceRun

section Runs

variable (hmacSha256 : TetherPairingToken → Bytes → PairingTag) (run : PrefaceRun)

def host : Except PairingFailure Unit × PairingSocket :=
  authenticateTetherHostStreamWithNonce hmacSha256 run.hostToken run.timeout run.hostNonce
    ⟨run.toHost, []⟩

def display : Except String TetherPairingHandshake × PairingStreams :=
  performDisplayPairingHandshake hmacSha256 run.displayToken (signed run.displayNonce.val)
    ⟨⟨signed run.toDisplay, run.grant, 0⟩, []⟩

def hostWritten : Bytes := (run.host hmacSha256).2.written

def displayWritten : Bytes := unsigned (run.display hmacSha256).2.output

/-- The bytes that the sender wrote for each record, none when it stopped before. -/
def sent : PairingRecordKind → Bytes
  | .hostHello => (run.hostWritten hmacSha256).take 56
  | .displayHello => (run.displayWritten hmacSha256).take 56
  | .hostFinished => ((run.hostWritten hmacSha256).drop 56).take 56
  | .displayFinished => ((run.displayWritten hmacSha256).drop 56).take 56

/-- The bytes that arrived in place of each record. -/
def arrived : PairingRecordKind → Bytes
  | .hostHello => run.toDisplay.take 56
  | .displayHello => run.toHost.take 56
  | .hostFinished => (run.toDisplay.drop 56).take 56
  | .displayFinished => (run.toHost.drop 56).take 56

/-- One of the tags that arrive is one that a side computed in the run. It fails only when each of the
three tags is replaced by one that neither side computed. -/
def SomeTagComputed : Prop :=
  ∃ arrival proof, arrival ≠ PairingRecordKind.hostHello ∧ proof ≠ PairingRecordKind.hostHello ∧
    (run.arrived arrival).drop 24 = (run.sent hmacSha256 proof).drop 24

/-- The keyed-hash inputs of both sides: each uses its own nonce and the one that arrived. -/
def hashInputs : Set (TetherPairingToken × Bytes) :=
  { input | ∃ kind peer, kind ≠ PairingRecordKind.hostHello ∧
    (peer.val = (run.toHost.drop 8).take 16 ∧
        input = (run.hostToken, pairingMessage kind run.hostNonce peer) ∨
      peer.val = (run.toDisplay.drop 8).take 16 ∧
        input = (run.displayToken, pairingMessage kind peer run.displayNonce)) }

/-- The keyed hash is injective on the inputs of the run. -/
def NoCollision : Prop :=
  Set.InjOn (fun input => hmacSha256 input.1 input.2) run.hashInputs

variable {hmacSha256} {run}

/-- Everything the host read and wrote when it completes. -/
theorem host_completes (h : (run.host hmacSha256).1 = .ok ()) : ∃ peer rest,
    run.toHost = recordBytes hmacSha256 run.hostToken run.hostNonce peer .displayHello ++
      (recordBytes hmacSha256 run.hostToken run.hostNonce peer .displayFinished ++ rest) ∧
    run.hostWritten hmacSha256 =
      recordBytes hmacSha256 run.hostToken run.hostNonce peer .hostHello ++
        recordBytes hmacSha256 run.hostToken run.hostNonce peer .hostFinished := by
  have hpair : run.host hmacSha256 = (.ok (), (run.host hmacSha256).2) := Prod.ext h rfl
  obtain ⟨-, peer, -, hinbound, hwritten⟩ :=
    authenticateTetherHostStreamWithNonce_eq_ok.mp hpair
  exact ⟨peer, _, hinbound, hwritten⟩

/-- Everything the display read and wrote when it completes. -/
theorem display_completes {handshake : TetherPairingHandshake}
    (h : (run.display hmacSha256).1 = .ok handshake) : ∃ peer rest,
    run.toDisplay = recordBytes hmacSha256 run.displayToken peer run.displayNonce .hostHello ++
      (recordBytes hmacSha256 run.displayToken peer run.displayNonce .hostFinished ++ rest) ∧
    run.displayWritten hmacSha256 =
      recordBytes hmacSha256 run.displayToken peer run.displayNonce .displayHello ++
        recordBytes hmacSha256 run.displayToken peer run.displayNonce .displayFinished := by
  have hpair : run.display hmacSha256 = (.ok handshake, (run.display hmacSha256).2) :=
    Prod.ext h rfl
  obtain ⟨peer, hinbound, houtput, -⟩ := Android.performDisplayPairingHandshake_ok hpair
  refine ⟨peer, unsigned (run.display hmacSha256).2.input.inbound, ?_, ?_⟩
  · rw [← Android.signed_inj, Android.signed_append, Android.signed_append,
      Android.signed_unsigned]
    exact hinbound
  · rw [← Android.signed_inj, displayWritten, Android.signed_unsigned, houtput,
      Android.signed_append]
    rfl

/-- A stream of two records falls apart into them. -/
theorem take_records {token : TetherPairingToken} {hostNonce displayNonce : PairingNonce}
    (first second : PairingRecordKind) (rest : Bytes) :
    (recordBytes hmacSha256 token hostNonce displayNonce first ++
        (recordBytes hmacSha256 token hostNonce displayNonce second ++ rest)).take 56 =
        recordBytes hmacSha256 token hostNonce displayNonce first ∧
      ((recordBytes hmacSha256 token hostNonce displayNonce first ++
        (recordBytes hmacSha256 token hostNonce displayNonce second ++ rest)).drop 56).take 56 =
        recordBytes hmacSha256 token hostNonce displayNonce second := by
  simp only [recordBytes]
  rw [List.take_left' (encodeRecord _).property, List.drop_left' (encodeRecord _).property,
    List.take_left' (encodeRecord _).property]
  exact ⟨rfl, rfl⟩

theorem take_records_nil {token : TetherPairingToken} {hostNonce displayNonce : PairingNonce}
    (first second : PairingRecordKind) :
    (recordBytes hmacSha256 token hostNonce displayNonce first ++
        recordBytes hmacSha256 token hostNonce displayNonce second).take 56 =
        recordBytes hmacSha256 token hostNonce displayNonce first ∧
      ((recordBytes hmacSha256 token hostNonce displayNonce first ++
        recordBytes hmacSha256 token hostNonce displayNonce second).drop 56).take 56 =
        recordBytes hmacSha256 token hostNonce displayNonce second := by
  have hrecords := @take_records hmacSha256 token hostNonce displayNonce first second []
  rw [List.append_nil] at hrecords
  exact hrecords

/-- Altering one record leaves the tag of another as it was computed. -/
theorem someTagComputed_of_one_altered {record : PairingRecordKind}
    (h : ∀ other, other ≠ record → run.arrived other = run.sent hmacSha256 other) :
    run.SomeTagComputed hmacSha256 := by
  cases record with
  | hostFinished =>
    exact ⟨.displayHello, .displayHello, by decide, by decide,
      congrArg (List.drop 24) (h .displayHello (by decide))⟩
  | hostHello | displayHello | displayFinished =>
    exact ⟨.hostFinished, .hostFinished, by decide, by decide,
      congrArg (List.drop 24) (h .hostFinished (by decide))⟩

/-- On the inputs of the run, a tag determines its token, kind and nonces. -/
theorem proof_inj (hcollision : run.NoCollision hmacSha256) {token token' : TetherPairingToken}
    {kind kind' : PairingRecordKind} {hostNonce hostNonce' displayNonce displayNonce' : PairingNonce}
    (h : (token, pairingMessage kind hostNonce displayNonce) ∈ run.hashInputs)
    (h' : (token', pairingMessage kind' hostNonce' displayNonce') ∈ run.hashInputs)
    (htag : (pairingTag hmacSha256 token kind hostNonce displayNonce).val =
      (pairingTag hmacSha256 token' kind' hostNonce' displayNonce').val) :
    token = token' ∧ kind = kind' ∧ hostNonce = hostNonce' ∧ displayNonce = displayNonce' := by
  have hinput := hcollision h h' (Subtype.ext htag)
  obtain ⟨htoken, hmessage⟩ := Prod.mk.inj hinput
  exact ⟨htoken, pairingMessage_inj hmessage⟩

/-- When both sides complete and one tag that arrives was computed by a side, the tokens are equal and
every record arrived as it was sent. -/
theorem completes_untouched (hcollision : run.NoCollision hmacSha256)
    (hhost : (run.host hmacSha256).1 = .ok ()) {handshake : TetherPairingHandshake}
    (hdisplay : (run.display hmacSha256).1 = .ok handshake)
    (hcomputed : run.SomeTagComputed hmacSha256) :
    run.hostToken = run.displayToken ∧ ∀ kind, run.arrived kind = run.sent hmacSha256 kind := by
  obtain ⟨hostPeer, hostRest, htoHost, hhostWritten⟩ := host_completes hhost
  obtain ⟨displayPeer, displayRest, htoDisplay, hdisplayWritten⟩ := display_completes hdisplay
  have hhostInput : ∀ kind, kind ≠ .hostHello →
      (run.hostToken, pairingMessage kind run.hostNonce hostPeer) ∈ run.hashInputs := by
    intro kind hkind
    refine ⟨kind, hostPeer, hkind, .inl ⟨?_, rfl⟩⟩
    rw [htoHost]
    exact (encodeRecord_nonce (recordOf hmacSha256 run.hostToken run.hostNonce hostPeer
      .displayHello) _).symm
  have hdisplayInput : ∀ kind, kind ≠ .hostHello →
      (run.displayToken, pairingMessage kind displayPeer run.displayNonce) ∈ run.hashInputs := by
    intro kind hkind
    refine ⟨kind, displayPeer, hkind, .inr ⟨?_, rfl⟩⟩
    rw [htoDisplay]
    exact (encodeRecord_nonce (recordOf hmacSha256 run.displayToken displayPeer run.displayNonce
      .hostHello) _).symm
  have hagree : run.hostToken = run.displayToken ∧ run.hostNonce = displayPeer ∧
      hostPeer = run.displayNonce := by
    obtain ⟨arrival, proof, harrival, hproof, htag⟩ := hcomputed
    -- The receiver of the arrival and the writer of the proof are one side, or the two sides.
    cases arrival with
    | hostHello => exact absurd rfl harrival
    | displayHello | displayFinished =>
      cases proof with
      | hostHello => exact absurd rfl hproof
      | displayHello | displayFinished =>
        simp only [arrived, sent, htoHost, hdisplayWritten, take_records, take_records_nil,
          recordBytes_tag harrival, recordBytes_tag hproof] at htag
        obtain ⟨htoken, -, hnonces⟩ :=
          proof_inj hcollision (hhostInput _ harrival) (hdisplayInput _ hproof) htag
        exact ⟨htoken, hnonces⟩
      | hostFinished =>
        simp only [arrived, sent, htoHost, hhostWritten, take_records, take_records_nil,
          recordBytes_tag harrival, recordBytes_tag hproof] at htag
        cases (proof_inj hcollision (hhostInput _ harrival) (hhostInput _ hproof) htag).2.1
    | hostFinished =>
      cases proof with
      | hostHello => exact absurd rfl hproof
      | displayHello | displayFinished =>
        simp only [arrived, sent, htoDisplay, hdisplayWritten, take_records, take_records_nil,
          recordBytes_tag harrival, recordBytes_tag hproof] at htag
        cases (proof_inj hcollision (hdisplayInput _ harrival) (hdisplayInput _ hproof) htag).2.1
      | hostFinished =>
        simp only [arrived, sent, htoDisplay, hhostWritten, take_records, take_records_nil,
          recordBytes_tag harrival] at htag
        obtain ⟨htoken, -, hnonces⟩ :=
          proof_inj hcollision (hhostInput _ hproof) (hdisplayInput _ harrival) htag.symm
        exact ⟨htoken, hnonces⟩
  obtain ⟨htoken, hhostNonce, hdisplayNonce⟩ := hagree
  refine ⟨htoken, ?_⟩
  intro kind
  rw [← htoken, ← hhostNonce] at htoDisplay hdisplayWritten
  rw [hdisplayNonce] at htoHost hhostWritten
  cases kind <;>
    simp only [arrived, sent, htoHost, htoDisplay, hhostWritten, hdisplayWritten, take_records,
      take_records_nil]

/-- The host writes its hello before it reads. -/
theorem host_opens : ∃ rest, run.hostWritten hmacSha256 =
    recordBytes hmacSha256 run.hostToken run.hostNonce run.displayNonce .hostHello ++ rest :=
  authenticateTetherHostStreamWithNonce_opens run.timeout_ne

/-- The host answers the hello of a display with its token. -/
theorem host_answers {rest : Bytes} (h : run.toHost =
    recordBytes hmacSha256 run.hostToken run.hostNonce run.displayNonce .displayHello ++ rest) :
    run.hostWritten hmacSha256 =
      recordBytes hmacSha256 run.hostToken run.hostNonce run.displayNonce .hostHello ++
        recordBytes hmacSha256 run.hostToken run.hostNonce run.displayNonce .hostFinished :=
  authenticateTetherHostStreamWithNonce_answers run.timeout_ne run.displayNonce_ne h

/-- The host completes with the second record of a display with its token. -/
theorem host_finishes {rest : Bytes} (h : run.toHost =
    recordBytes hmacSha256 run.hostToken run.hostNonce run.displayNonce .displayHello ++
      (recordBytes hmacSha256 run.hostToken run.hostNonce run.displayNonce .displayFinished ++
        rest)) : (run.host hmacSha256).1 = .ok () := by
  have hcompletes := @authenticateTetherHostStreamWithNonce_eq_ok hmacSha256 run.hostToken
    run.timeout run.hostNonce ⟨run.toHost, []⟩ ⟨rest,
      recordBytes hmacSha256 run.hostToken run.hostNonce run.displayNonce .hostHello ++
        recordBytes hmacSha256 run.hostToken run.hostNonce run.displayNonce .hostFinished⟩
  have hrun := hcompletes.mpr ⟨run.timeout_ne, run.displayNonce, run.displayNonce_ne, h, rfl⟩
  exact congrArg Prod.fst hrun

/-- The display answers the hello of the host and goes on with what follows it. -/
theorem display_answers
    (hnonzero : ∀ token message, hmacSha256 token message ≠ FixedBytes.zero 32) {rest : Bytes}
    (h : run.toDisplay =
      recordBytes hmacSha256 run.displayToken run.hostNonce run.displayNonce .hostHello ++ rest) :
    ∃ reads, run.display hmacSha256 =
      Android.awaitHostFinished hmacSha256 run.displayToken (signed run.hostNonce.val)
        (signed run.displayNonce.val) ⟨⟨signed rest, run.grant, reads⟩, signed (recordBytes
          hmacSha256 run.displayToken run.hostNonce run.displayNonce .displayHello)⟩ := by
  have hprogress : Android.InputStream.Progresses ⟨signed run.toDisplay, run.grant, 0⟩ :=
    run.progresses
  have hinbound : signed run.toDisplay =
      signed (encodeRecord (hostHelloRecord run.hostNonce)).val ++ signed rest := by
    rw [h, Android.signed_append]
    rfl
  exact @Android.performDisplayPairingHandshake_answers hmacSha256 run.displayToken
    run.hostNonce run.displayNonce ⟨⟨signed run.toDisplay, run.grant, 0⟩, []⟩ hprogress _
    (hnonzero _) run.hostNonce_ne run.displayNonce_ne hinbound

/-- The display writes its hello first. -/
theorem display_opens
    (hnonzero : ∀ token message, hmacSha256 token message ≠ FixedBytes.zero 32) {rest : Bytes}
    (h : run.toDisplay =
      recordBytes hmacSha256 run.displayToken run.hostNonce run.displayNonce .hostHello ++ rest) :
    ∃ written, run.displayWritten hmacSha256 =
      recordBytes hmacSha256 run.displayToken run.hostNonce run.displayNonce .displayHello ++
        written := by
  obtain ⟨reads, hdisplay⟩ := display_answers hnonzero h
  obtain ⟨written, hwritten⟩ := Android.awaitHostFinished_output (signed run.hostNonce.val)
    (signed run.displayNonce.val) ⟨⟨signed rest, run.grant, reads⟩, signed (recordBytes
      hmacSha256 run.displayToken run.hostNonce run.displayNonce .displayHello)⟩
  refine ⟨unsigned written, ?_⟩
  rw [displayWritten, hdisplay, hwritten, unsigned, List.map_append, ← unsigned, ← unsigned,
    Android.unsigned_signed]

/-- The display takes two records and leaves the rest, whatever the second one holds. -/
theorem display_consumes
    (hnonzero : ∀ token message, hmacSha256 token message ≠ FixedBytes.zero 32)
    (second : FixedBytes 56) {rest : Bytes} (h : run.toDisplay =
      recordBytes hmacSha256 run.displayToken run.hostNonce run.displayNonce .hostHello ++
        (second.val ++ rest)) :
    (run.display hmacSha256).2.input.inbound = signed rest := by
  obtain ⟨reads, hdisplay⟩ := display_answers hnonzero h
  have hprogress : Android.InputStream.Progresses
      ⟨signed (second.val ++ rest), run.grant, reads⟩ := run.progresses
  have hsecond : (signed second.val).length = 56 := by
    rw [Android.signed_length, second.property]
  obtain ⟨outcome, output, calls, hconsumed⟩ := @Android.awaitHostFinished_consumes hmacSha256
    run.displayToken run.hostNonce run.displayNonce ⟨⟨signed (second.val ++ rest), run.grant, reads⟩,
      signed (recordBytes hmacSha256 run.displayToken run.hostNonce run.displayNonce .displayHello)⟩
    hprogress _ _ hsecond (Android.signed_append _ _)
  rw [hdisplay, hconsumed]

/-- The display completes with the finished record of a host with its token. -/
theorem display_finishes
    (hnonzero : ∀ token message, hmacSha256 token message ≠ FixedBytes.zero 32) {rest : Bytes}
    (h : run.toDisplay =
      recordBytes hmacSha256 run.displayToken run.hostNonce run.displayNonce .hostHello ++
        (recordBytes hmacSha256 run.displayToken run.hostNonce run.displayNonce .hostFinished ++
          rest)) :
    (run.display hmacSha256).1 = .ok ⟨signed run.hostNonce.val, signed run.displayNonce.val⟩ ∧
      run.displayWritten hmacSha256 =
        recordBytes hmacSha256 run.displayToken run.hostNonce run.displayNonce .displayHello ++
          recordBytes hmacSha256 run.displayToken run.hostNonce run.displayNonce
            .displayFinished := by
  obtain ⟨reads, hdisplay⟩ := display_answers hnonzero h
  obtain ⟨calls, hfinished⟩ := @Android.awaitHostFinished_completes hmacSha256 run.displayToken
    run.hostNonce run.displayNonce ⟨⟨signed (recordBytes hmacSha256 run.displayToken run.hostNonce
      run.displayNonce .hostFinished ++ rest), run.grant, reads⟩, signed (recordBytes hmacSha256
        run.displayToken run.hostNonce run.displayNonce .displayHello)⟩
    run.progresses _ (hnonzero _) (Android.signed_append _ _)
  rw [displayWritten, hdisplay, hfinished]
  refine ⟨rfl, ?_⟩
  rw [unsigned, List.map_append, ← unsigned, ← unsigned, Android.unsigned_signed,
    Android.unsigned_signed]
  rfl

/-- Two sides with one token whose bytes reach each other complete. -/
theorem completes_of_delivered
    (hnonzero : ∀ token message, hmacSha256 token message ≠ FixedBytes.zero 32)
    (htoken : run.hostToken = run.displayToken)
    (htoDisplay : run.hostWritten hmacSha256 <+: run.toDisplay)
    (htoHost : run.displayWritten hmacSha256 <+: run.toHost) :
    (run.host hmacSha256).1 = .ok () ∧ (run.display hmacSha256).1 =
      .ok ⟨signed run.hostNonce.val, signed run.displayNonce.val⟩ := by
  obtain ⟨displayRest, hdisplayRest⟩ := htoDisplay
  obtain ⟨hostRest, hhostRest⟩ := htoHost
  -- Each record lets the other side write the next one.
  obtain ⟨afterHello, hhostHello⟩ := @host_opens hmacSha256 run
  have hfirst := hdisplayRest
  rw [hhostHello, htoken, List.append_assoc] at hfirst
  obtain ⟨afterAnswer, hdisplayHello⟩ := display_opens hnonzero hfirst.symm
  have hsecond := hhostRest
  rw [hdisplayHello, ← htoken, List.append_assoc] at hsecond
  rw [host_answers hsecond.symm, htoken, List.append_assoc] at hdisplayRest
  obtain ⟨hdisplay, hdisplayWritten⟩ := display_finishes hnonzero hdisplayRest.symm
  rw [hdisplayWritten, ← htoken, List.append_assoc] at hhostRest
  exact ⟨host_finishes hhostRest.symm, hdisplay⟩

end Runs

end PrefaceRun

variable {hmacSha256 : TetherPairingToken → Bytes → PairingTag}

/-- The two prefaces interoperate. Both languages write every record and compute every tag alike. Two
sides with one token whose bytes reach each other complete. When the tokens differ or a record is
altered, a side fails, unless all three tags are replaced by tags that neither side computed; one
altered record never does that. The display takes
the two records of the host and nothing after them, however it is handed its bytes. -/
theorem preface_interoperates
    (hnonzero : ∀ token message, hmacSha256 token message ≠ FixedBytes.zero 32) :
    (∀ (token : TetherPairingToken) (hostNonce displayNonce : PairingNonce),
      hostNonce ≠ FixedBytes.zero 16 → displayNonce ≠ FixedBytes.zero 16 → ∀ kind,
      encodePairingRecord
          ⟨kind, signed (recordOf hmacSha256 token hostNonce displayNonce kind).nonce.val,
            signed (recordOf hmacSha256 token hostNonce displayNonce kind).tag.val⟩ =
        .ok (signed (recordBytes hmacSha256 token hostNonce displayNonce kind)) ∧
      (kind ≠ .hostHello →
        computePairingTag hmacSha256 token kind (signed hostNonce.val) (signed displayNonce.val) =
          .ok (signed (pairingTag hmacSha256 token kind hostNonce displayNonce).val))) ∧
    ∀ run : PrefaceRun,
      (run.hostToken = run.displayToken → run.hostWritten hmacSha256 <+: run.toDisplay →
        run.displayWritten hmacSha256 <+: run.toHost →
        (run.host hmacSha256).1 = .ok () ∧ (run.display hmacSha256).1 =
          .ok ⟨signed run.hostNonce.val, signed run.displayNonce.val⟩) ∧
      (run.NoCollision hmacSha256 →
        (run.hostToken ≠ run.displayToken ∨
          ∃ kind, run.arrived kind ≠ run.sent hmacSha256 kind) →
        run.SomeTagComputed hmacSha256 →
        ¬ ((run.host hmacSha256).1 = .ok () ∧
          ∃ handshake, (run.display hmacSha256).1 = .ok handshake)) ∧
      (∀ record, (∀ other, other ≠ record → run.arrived other = run.sent hmacSha256 other) →
        run.SomeTagComputed hmacSha256) ∧
      ∀ (second : FixedBytes 56) (rest : Bytes), run.toDisplay =
          recordBytes hmacSha256 run.displayToken run.hostNonce run.displayNonce .hostHello ++
            (second.val ++ rest) →
        (run.display hmacSha256).2.input.inbound = signed rest ∧
        (second.val = recordBytes hmacSha256 run.displayToken run.hostNonce run.displayNonce
            .hostFinished →
          (run.display hmacSha256).1 =
            .ok ⟨signed run.hostNonce.val, signed run.displayNonce.val⟩) := by
  constructor
  · intro token hostNonce displayNonce hhost hdisplay kind
    exact ⟨encodePairingRecord_recordOf hnonzero hhost hdisplay token kind,
      Android.computePairingTag_eq⟩
  · intro run
    refine ⟨PrefaceRun.completes_of_delivered hnonzero, ?_,
      fun _ => PrefaceRun.someTagComputed_of_one_altered, ?_⟩
    · rintro hcollision hchanged hcomputed ⟨hhost, handshake, hdisplay⟩
      obtain ⟨htoken, harrived⟩ :=
        PrefaceRun.completes_untouched hcollision hhost hdisplay hcomputed
      rcases hchanged with hdiffer | ⟨kind, haltered⟩
      · exact hdiffer htoken
      · exact haltered (harrived kind)
    · intro second rest htoDisplay
      refine ⟨PrefaceRun.display_consumes hnonzero second htoDisplay, ?_⟩
      intro hsecond
      rw [hsecond] at htoDisplay
      exact (PrefaceRun.display_finishes hnonzero htoDisplay).1

/-- The hash of the interoperability vector, nonzero elsewhere as well. -/
def prefaceHmac (token : TetherPairingToken) (message : Bytes) : PairingTag :=
  if Pairing.vectorHmac token message = FixedBytes.zero 32 then ⟨List.replicate 32 1, rfl⟩
  else Pairing.vectorHmac token message

theorem prefaceHmac_ne (token : TetherPairingToken) (message : Bytes) :
    prefaceHmac token message ≠ FixedBytes.zero 32 := by
  rw [prefaceHmac]
  split
  · decide
  · assumption

/-- Seven bytes a read, with the first LDFL byte behind the records. -/
def prefaceVector : PrefaceRun where
  hostToken := Pairing.vectorToken
  displayToken := Pairing.vectorToken
  hostNonce := Pairing.vectorHostNonce
  displayNonce := Pairing.vectorDisplayNonce
  timeout := 2000
  toHost := recordBytes prefaceHmac Pairing.vectorToken Pairing.vectorHostNonce
      Pairing.vectorDisplayNonce .displayHello ++
    recordBytes prefaceHmac Pairing.vectorToken Pairing.vectorHostNonce
      Pairing.vectorDisplayNonce .displayFinished
  toDisplay := recordBytes prefaceHmac Pairing.vectorToken Pairing.vectorHostNonce
      Pairing.vectorDisplayNonce .hostHello ++
    (recordBytes prefaceHmac Pairing.vectorToken Pairing.vectorHostNonce
      Pairing.vectorDisplayNonce .hostFinished ++ [0x4C])
  grant _ := 7
  hostNonce_ne := by decide
  displayNonce_ne := by decide
  timeout_ne := by decide
  progresses _ := by decide

/-- The last byte of the last record is altered on its way to the host. -/
def prefaceAltered : PrefaceRun :=
  { prefaceVector with
    toHost := prefaceVector.toHost.dropLast ++ [0] }

theorem prefaceAltered_noCollision : prefaceAltered.NoCollision prefaceHmac := by
  have hhostPeer : (prefaceAltered.toHost.drop 8).take 16 = Pairing.vectorDisplayNonce.val := by
    decide +kernel
  have hdisplayPeer : (prefaceAltered.toDisplay.drop 8).take 16 =
      Pairing.vectorHostNonce.val := by
    decide +kernel
  have hinputs : ∀ input ∈ prefaceAltered.hashInputs, ∃ kind,
      kind ≠ PairingRecordKind.hostHello ∧ input = (Pairing.vectorToken, pairingMessage kind
        Pairing.vectorHostNonce Pairing.vectorDisplayNonce) := by
    rintro input ⟨kind, peer, hkind, ⟨hpeer, hinput⟩ | ⟨hpeer, hinput⟩⟩
    · rw [hhostPeer] at hpeer
      exact ⟨kind, hkind, by rw [hinput, Subtype.ext hpeer]; rfl⟩
    · rw [hdisplayPeer] at hpeer
      exact ⟨kind, hkind, by rw [hinput, Subtype.ext hpeer]; rfl⟩
  have htags : ∀ kind, kind ≠ .hostHello → prefaceHmac Pairing.vectorToken (pairingMessage kind
      Pairing.vectorHostNonce Pairing.vectorDisplayNonce) = Pairing.vectorTag kind := by
    intro kind hkind
    cases kind with
    | hostHello => exact absurd rfl hkind
    | displayHello | hostFinished | displayFinished => decide +kernel
  intro input hinput input' hinput' htag
  obtain ⟨kind, hkind, rfl⟩ := hinputs input hinput
  obtain ⟨kind', hkind', rfl⟩ := hinputs input' hinput'
  simp only [htags kind hkind, htags kind' hkind'] at htag
  have hsame : kind = kind' := by
    revert htag
    cases kind <;> cases kind' <;> decide
  rw [hsame]

theorem preface_interoperates_vector :
    ((prefaceVector.host prefaceHmac).1 = .ok () ∧
      (prefaceVector.display prefaceHmac).1 =
        .ok ⟨signed Pairing.vectorHostNonce.val, signed Pairing.vectorDisplayNonce.val⟩ ∧
      (prefaceVector.display prefaceHmac).2.input.inbound = [0x4C]) ∧
    ¬ ((prefaceAltered.host prefaceHmac).1 = .ok () ∧
      ∃ handshake, (prefaceAltered.display prefaceHmac).1 = .ok handshake) := by
  have hvector := (preface_interoperates prefaceHmac_ne).2 prefaceVector
  have htoDisplay : prefaceVector.hostWritten prefaceHmac <+: prefaceVector.toDisplay := by
    decide +kernel
  have htoHost : prefaceVector.displayWritten prefaceHmac <+: prefaceVector.toHost := by
    decide +kernel
  obtain ⟨hhost, hdisplay⟩ := hvector.1 rfl htoDisplay htoHost
  have hconsumed := hvector.2.2.2 (encodeRecord (recordOf prefaceHmac Pairing.vectorToken
    Pairing.vectorHostNonce Pairing.vectorDisplayNonce .hostFinished)) [0x4C] rfl
  have haltered := (preface_interoperates prefaceHmac_ne).2 prefaceAltered
  have hintact : ∀ other, other ≠ .displayFinished →
      prefaceAltered.arrived other = prefaceAltered.sent prefaceHmac other := by
    intro other hother
    cases other with
    | hostHello | displayHello | hostFinished => decide +kernel
    | displayFinished => exact absurd rfl hother
  have hchanged : prefaceAltered.arrived .displayFinished ≠
      prefaceAltered.sent prefaceHmac .displayFinished := by
    decide +kernel
  exact ⟨⟨hhost, hdisplay, hconsumed.1⟩, haltered.2.1 prefaceAltered_noCollision
    (.inr ⟨.displayFinished, hchanged⟩) (haltered.2.2.1 .displayFinished hintact)⟩

end LadoFlow.System
