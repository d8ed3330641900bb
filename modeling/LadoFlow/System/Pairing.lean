import LadoFlow.Android.TetherPairing
import LadoFlow.Framework.Machine
import LadoFlow.Framework.Trace
import Mathlib.Data.List.Nodup

/-!
# Agreement of tether pairing

Any number of host and display runs share one network. Whoever controls the network decides which
bytes each run reads; the only limit is the ideal keyed hash, whose tags come from runs that hold
the token.
-/

namespace LadoFlow.System.Pairing

open Framework
open LadoFlow.Transport
open LadoFlow.Android (signed unsigned performDisplayHello performDisplayFinished)

/-- Where a run stands between two reads; the nonce is that of its peer. -/
inductive Stage where
  | awaitingHello
  | awaitingFinished (peer : PairingNonce)
  | completed (peer : PairingNonce)
  | failed
  deriving DecidableEq

structure HostRun where
  token : TetherPairingToken
  nonce : PairingNonce
  stage : Stage
  deriving DecidableEq

inductive DisplayImplementation where
  | transportCrate
  | android
  deriving DecidableEq, Repr

structure DisplayRun where
  implementation : DisplayImplementation
  token : TetherPairingToken
  nonce : PairingNonce
  stage : Stage
  deriving DecidableEq

/-- What a run has accepted, with the bytes it read and the bytes it wrote in answer. -/
inductive Event where
  | displayAnswered (run : Nat) (token : TetherPairingToken) (hostNonce displayNonce : PairingNonce)
      (written : Bytes)
  | hostVerified (run : Nat) (token : TetherPairingToken) (hostNonce displayNonce : PairingNonce)
      (received written : Bytes)
  | displayAccepted (run : Nat) (token : TetherPairingToken) (hostNonce displayNonce : PairingNonce)
      (received written : Bytes)
  deriving DecidableEq

/-- The keyed-hash input of the proof that a run computes with an event. -/
def Event.proof : Event → TetherPairingToken × Bytes
  | displayAnswered _ token hostNonce displayNonce _ =>
    (token, pairingMessage .displayHello hostNonce displayNonce)
  | hostVerified _ token hostNonce displayNonce _ _ =>
    (token, pairingMessage .hostFinished hostNonce displayNonce)
  | displayAccepted _ token hostNonce displayNonce _ _ =>
    (token, pairingMessage .displayFinished hostNonce displayNonce)

structure Network where
  hosts : List HostRun
  displays : List DisplayRun
  events : List Event
  deriving DecidableEq

inductive Action where
  | startHost (token : TetherPairingToken) (nonce : PairingNonce)
  | startDisplay (implementation : DisplayImplementation) (token : TetherPairingToken)
      (nonce : PairingNonce)
  | deliverHost (run : Nat) (bytes : FixedBytes 56)
  | deliverDisplay (run : Nat) (bytes : FixedBytes 56)
  | abortHost (run : Nat)
  | abortDisplay (run : Nat)
  deriving DecidableEq

def Network.empty : Network := ⟨[], [], []⟩

section Steps

variable (hmacSha256 : TetherPairingToken → Bytes → PairingTag)

/-- The host nonce that the display answers, and the bytes of its answer. -/
def DisplayRun.hello (run : DisplayRun) (bytes : FixedBytes 56) : Option (PairingNonce × Bytes) :=
  match run.implementation with
  | .transportCrate =>
    match displayReceiveHello hmacSha256 run.token run.nonce bytes with
    | .ok (hostNonce, record) => some (hostNonce, (encodeRecord record).val)
    | .error _ => none
  | .android =>
    match performDisplayHello hmacSha256 run.token (signed run.nonce.val) (signed bytes.val) with
    | .ok (hostNonce, written) =>
      if h : (unsigned hostNonce).length = 16 then some (⟨unsigned hostNonce, h⟩, unsigned written)
      else none
    | .error _ => none

/-- The bytes of the last record of the display, when it accepts. -/
def DisplayRun.finished (run : DisplayRun) (hostNonce : PairingNonce) (bytes : FixedBytes 56) :
    Option Bytes :=
  match run.implementation with
  | .transportCrate =>
    match displayReceiveFinished hmacSha256 run.token hostNonce run.nonce bytes with
    | .ok record => some (encodeRecord record).val
    | .error _ => none
  | .android =>
    match performDisplayFinished hmacSha256 run.token (signed hostNonce.val) (signed run.nonce.val)
        (signed bytes.val) with
    | .ok written => some (unsigned written)
    | .error _ => none

namespace Network

def setHost (network : Network) (index : Nat) (run : HostRun) (stage : Stage)
    (events : List Event) : Network :=
  { network with
    hosts := network.hosts.set index { run with stage }
    events := network.events ++ events }

def setDisplay (network : Network) (index : Nat) (run : DisplayRun) (stage : Stage)
    (events : List Event) : Network :=
  { network with
    displays := network.displays.set index { run with stage }
    events := network.events ++ events }

def hostReceives (network : Network) (index : Nat) (run : HostRun) (bytes : FixedBytes 56) :
    Network :=
  match run.stage with
  | .awaitingHello =>
    match hostReceiveHello hmacSha256 run.token run.nonce bytes with
    | .ok (displayNonce, record) => network.setHost index run (.awaitingFinished displayNonce)
        [.hostVerified index run.token run.nonce displayNonce bytes.val (encodeRecord record).val]
    | .error _ => network.setHost index run .failed []
  | .awaitingFinished displayNonce =>
    match hostReceiveFinished hmacSha256 run.token run.nonce displayNonce bytes with
    | .ok () => network.setHost index run (.completed displayNonce) []
    | .error _ => network.setHost index run .failed []
  | .completed _ => network
  | .failed => network

def displayReceives (network : Network) (index : Nat) (run : DisplayRun)
    (bytes : FixedBytes 56) : Network :=
  match run.stage with
  | .awaitingHello =>
    match run.hello hmacSha256 bytes with
    | some (hostNonce, written) => network.setDisplay index run (.awaitingFinished hostNonce)
        [.displayAnswered index run.token hostNonce run.nonce written]
    | none => network.setDisplay index run .failed []
  | .awaitingFinished hostNonce =>
    match run.finished hmacSha256 hostNonce bytes with
    | some written => network.setDisplay index run (.completed hostNonce)
        [.displayAccepted index run.token hostNonce run.nonce bytes.val written]
    | none => network.setDisplay index run .failed []
  | .completed _ => network
  | .failed => network

/-- A run starts with a nonzero nonce that no run of its role has used. Input and output failures
and timeouts may end a run at any point before it completes. -/
def step (network : Network) : Action → Option Network
  | .startHost token nonce =>
    if nonce ≠ FixedBytes.zero 16 ∧ nonce ∉ network.hosts.map (·.nonce) then
      some { network with hosts := network.hosts ++ [⟨token, nonce, .awaitingHello⟩] }
    else none
  | .startDisplay implementation token nonce =>
    if nonce ≠ FixedBytes.zero 16 ∧ nonce ∉ network.displays.map (·.nonce) then
      some { network with
        displays := network.displays ++ [⟨implementation, token, nonce, .awaitingHello⟩] }
    else none
  | .deliverHost index bytes =>
    network.hosts[index]?.map fun run => network.hostReceives hmacSha256 index run bytes
  | .deliverDisplay index bytes =>
    network.displays[index]?.map fun run => network.displayReceives hmacSha256 index run bytes
  | .abortHost index =>
    match network.hosts[index]? with
    | some ⟨_, _, .completed _⟩ => none
    | some run => some (network.setHost index run .failed [])
    | none => none
  | .abortDisplay index =>
    match network.displays[index]? with
    | some ⟨_, _, _, .completed _⟩ => none
    | some run => some (network.setDisplay index run .failed [])
    | none => none

def machine : Machine Network Action where
  step := step hmacSha256

/-- The keyed-hash inputs of all proofs that runs have computed. -/
def proofs (network : Network) : List (TetherPairingToken × Bytes) :=
  network.events.map Event.proof

/-- The tag comparison that a delivery makes: token, transcript and received tag. -/
def check (network : Network) : Action → Option (TetherPairingToken × Bytes × PairingTag)
  | .deliverHost index bytes =>
    match network.hosts[index]?, decodeRecord bytes with
    | some ⟨token, nonce, .awaitingHello⟩, .ok record =>
      if record.kind = PairingRecordKind.displayHello.value then
        some (token, pairingMessage .displayHello nonce record.nonce, record.tag)
      else none
    | some ⟨token, nonce, .awaitingFinished displayNonce⟩, .ok record =>
      if record.kind = PairingRecordKind.displayFinished.value then
        some (token, pairingMessage .displayFinished nonce displayNonce, record.tag)
      else none
    | _, _ => none
  | .deliverDisplay index bytes =>
    match network.displays[index]?, decodeRecord bytes with
    | some ⟨_, token, nonce, .awaitingFinished hostNonce⟩, .ok record =>
      if record.kind = PairingRecordKind.hostFinished.value then
        some (token, pairingMessage .hostFinished hostNonce nonce, record.tag)
      else none
    | _, _ => none
  | _ => none

/-- The keyed hash is ideal in every comparison: a matching tag was computed by a run with the
token, and no computed tag collides with the expected one. -/
def IdealTags (network : Network) (action : Action) : Prop :=
  ∀ comparison ∈ network.check action,
    (hmacSha256 comparison.1 comparison.2.1 = comparison.2.2 → ∃ proof ∈ network.proofs,
      proof.1 = comparison.1 ∧ hmacSha256 comparison.1 proof.2 = comparison.2.2) ∧
    ∀ proof ∈ network.proofs, proof.1 = comparison.1 →
      hmacSha256 comparison.1 proof.2 = hmacSha256 comparison.1 comparison.2.1 →
      proof.2 = comparison.2.1

instance (network : Network) (action : Action) :
    Decidable (network.IdealTags hmacSha256 action) :=
  inferInstanceAs (Decidable (∀ _ ∈ _, _))

end Network

end Steps

section Agreement

variable {hmacSha256 : TetherPairingToken → Bytes → PairingTag}

theorem DisplayRun.hello_ok {run : DisplayRun} {bytes : FixedBytes 56} {hostNonce : PairingNonce}
    {written : Bytes} (h : run.hello hmacSha256 bytes = some (hostNonce, written)) :
    written = (encodeRecord
      (displayHelloRecord hmacSha256 run.token hostNonce run.nonce)).val := by
  rw [hello] at h
  split at h
  · split at h
    · rename_i received record hreceive
      cases h
      simp only [displayReceiveHello, bind_eq_ok, ite_error_eq_ok, Except.ok.injEq,
        Prod.mk.injEq] at hreceive
      obtain ⟨_, _, _, _, _, rfl, rfl⟩ := hreceive
      rfl
    · cases h
  · split at h
    · rename_i received bytes' hperform
      obtain ⟨nonce, rfl, -, rfl⟩ := Android.performDisplayHello_ok hperform
      simp only [Android.unsigned_signed] at h
      rw [dif_pos nonce.property] at h
      cases h
      rfl
    · cases h

theorem DisplayRun.finished_ok {run : DisplayRun} {bytes : FixedBytes 56}
    {hostNonce : PairingNonce} {written : Bytes}
    (h : run.finished hmacSha256 hostNonce bytes = some written) :
    bytes = encodeRecord
      (finishedRecord hmacSha256 run.token .hostFinished hostNonce run.nonce) := by
  rw [finished] at h
  split at h
  · split at h
    · rename_i record hreceive
      exact displayReceiveFinished_ok hreceive
    · cases h
  · split at h
    · rename_i written' hperform
      exact (Android.performDisplayFinished_ok hperform).1
    · cases h

variable (hmacSha256) in
/-- The bytes of the hello that the display proves. -/
def helloBytes (token : TetherPairingToken) (hostNonce displayNonce : PairingNonce) : Bytes :=
  (encodeRecord (displayHelloRecord hmacSha256 token hostNonce displayNonce)).val

variable (hmacSha256) in
/-- The bytes of a finished record. -/
def finishedBytes (kind : PairingRecordKind) (token : TetherPairingToken)
    (hostNonce displayNonce : PairingNonce) : Bytes :=
  (encodeRecord (finishedRecord hmacSha256 token kind hostNonce displayNonce)).val

namespace Network

/-- The proof of an accepted tag was computed by a run with the token, for the same transcript. -/
theorem IdealTags.mem_proofs {network : Network} {action : Action} {token : TetherPairingToken}
    {message : Bytes} {tag : PairingTag} (h : network.IdealTags hmacSha256 action)
    (hcheck : network.check action = some (token, message, tag))
    (htag : hmacSha256 token message = tag) : (token, message) ∈ network.proofs := by
  obtain ⟨hforge, hcollision⟩ := h _ hcheck
  obtain ⟨proof, hproof, howner, heq⟩ := hforge htag
  have hsame : proof = (token, message) :=
    Prod.ext howner (hcollision proof hproof howner (heq.trans htag.symm))
  rw [← hsame]
  exact hproof

theorem hostVerified_of_proof {network : Network} {token : TetherPairingToken}
    {hostNonce displayNonce : PairingNonce}
    (h : (token, pairingMessage .hostFinished hostNonce displayNonce) ∈ network.proofs) :
    ∃ run received written,
      Event.hostVerified run token hostNonce displayNonce received written ∈ network.events := by
  obtain ⟨event, hevent, hproof⟩ := List.mem_map.mp h
  cases event with
  | displayAnswered run owner host display written =>
    cases (pairingMessage_inj (Prod.mk.inj hproof).2).1
  | hostVerified run owner host display received written =>
    obtain ⟨rfl, hmessage⟩ := Prod.mk.inj hproof
    obtain ⟨-, rfl, rfl⟩ := pairingMessage_inj hmessage
    exact ⟨run, received, written, hevent⟩
  | displayAccepted run owner host display received written =>
    cases (pairingMessage_inj (Prod.mk.inj hproof).2).1

theorem displayAccepted_of_proof {network : Network} {token : TetherPairingToken}
    {hostNonce displayNonce : PairingNonce}
    (h : (token, pairingMessage .displayFinished hostNonce displayNonce) ∈ network.proofs) :
    ∃ run received written,
      Event.displayAccepted run token hostNonce displayNonce received written ∈ network.events := by
  obtain ⟨event, hevent, hproof⟩ := List.mem_map.mp h
  cases event with
  | displayAnswered run owner host display written =>
    cases (pairingMessage_inj (Prod.mk.inj hproof).2).1
  | hostVerified run owner host display received written =>
    cases (pairingMessage_inj (Prod.mk.inj hproof).2).1
  | displayAccepted run owner host display received written =>
    obtain ⟨rfl, hmessage⟩ := Prod.mk.inj hproof
    obtain ⟨-, rfl, rfl⟩ := pairingMessage_inj hmessage
    exact ⟨run, received, written, hevent⟩

variable (hmacSha256) in
/-- What each run and each event says about the events so far. -/
structure Inv (network : Network) : Prop where
  hostStage : ∀ (index : Nat) (run : HostRun) peer, network.hosts[index]? = some run →
    (run.stage = .awaitingFinished peer ∨ run.stage = .completed peer) →
    .hostVerified index run.token run.nonce peer (helloBytes hmacSha256 run.token run.nonce peer)
      (finishedBytes hmacSha256 .hostFinished run.token run.nonce peer) ∈ network.events
  hostDone : ∀ (index : Nat) (run : HostRun) peer, network.hosts[index]? = some run → run.stage = .completed peer →
    ∃ other written, .displayAccepted other run.token run.nonce peer
      (finishedBytes hmacSha256 .hostFinished run.token run.nonce peer) written ∈ network.events
  displayStage : ∀ (index : Nat) (run : DisplayRun) peer, network.displays[index]? = some run →
    (run.stage = .awaitingFinished peer ∨ run.stage = .completed peer) →
    .displayAnswered index run.token peer run.nonce
      (helloBytes hmacSha256 run.token peer run.nonce) ∈ network.events
  displayDone : ∀ (index : Nat) (run : DisplayRun) peer, network.displays[index]? = some run →
    run.stage = .completed peer → ∃ other written, .hostVerified other run.token peer run.nonce
      (helloBytes hmacSha256 run.token peer run.nonce) written ∈ network.events
  hostEvent : ∀ (index : Nat) token hostNonce displayNonce received written,
    .hostVerified index token hostNonce displayNonce received written ∈ network.events →
    received = helloBytes hmacSha256 token hostNonce displayNonce ∧
      ∃ run, network.hosts[index]? = some run ∧ run.token = token ∧ run.nonce = hostNonce
  displayEvent : ∀ (index : Nat) token hostNonce displayNonce received written,
    .displayAccepted index token hostNonce displayNonce received written ∈ network.events →
    received = finishedBytes hmacSha256 .hostFinished token hostNonce displayNonce ∧
      ∃ run, network.displays[index]? = some run ∧ run.token = token ∧ run.nonce = displayNonce
  hostNonces : (network.hosts.map (·.nonce)).Nodup
  displayNonces : (network.displays.map (·.nonce)).Nodup

theorem inv_empty : Inv hmacSha256 empty := by
  constructor <;> simp [empty]

theorem getElem?_set_cases {α : Type} {as : List α} {i j : Nat} {a b : α}
    (h : (as.set i a)[j]? = some b) : j = i ∧ b = a ∨ as[j]? = some b := by
  rw [List.getElem?_set] at h
  split at h
  · rename_i heq
    split at h
    · exact .inl ⟨heq.symm, (Option.some.inj h).symm⟩
    · cases h
  · exact .inr h

theorem getElem?_set_exists {α : Type} {as : List α} {i j : Nat} {a b : α} {P : α → Prop}
    (hi : as[i]? = some b) (hb : P b → P a) (h : ∃ c, as[j]? = some c ∧ P c) :
    ∃ c, (as.set i a)[j]? = some c ∧ P c := by
  obtain ⟨c, hc, hp⟩ := h
  have hlt : i < as.length := (List.getElem?_eq_some_iff.mp hi).1
  by_cases heq : i = j
  · subst heq
    rw [hi] at hc
    cases hc
    exact ⟨a, by simp [hlt], hb hp⟩
  · exact ⟨c, by rw [List.getElem?_set_ne heq]; exact hc, hp⟩

theorem map_set_nonce {α β : Type} {f : α → β} {as : List α} {i : Nat} {a b : α}
    (hi : as[i]? = some b) (hf : f a = f b) : (as.set i a).map f = as.map f := by
  rw [List.map_set, hf]
  apply List.ext_getElem?
  intro j
  rw [List.getElem?_set]
  split
  · rename_i heq
    subst heq
    have hlt : i < as.length := (List.getElem?_eq_some_iff.mp hi).1
    rw [List.getElem?_map, hi, if_pos (by simpa using hlt)]
    rfl
  · rfl

theorem inv_setHost {network : Network} {index : Nat} {run : HostRun} {stage : Stage}
    {events : List Event} (h : Inv hmacSha256 network) (hrun : network.hosts[index]? = some run)
    (hevents : ∀ event ∈ events, ∃ peer, event = .hostVerified index run.token run.nonce peer
      (helloBytes hmacSha256 run.token run.nonce peer)
      (finishedBytes hmacSha256 .hostFinished run.token run.nonce peer))
    (hstage : ∀ peer, stage = .awaitingFinished peer ∨ stage = .completed peer →
      .hostVerified index run.token run.nonce peer (helloBytes hmacSha256 run.token run.nonce peer)
        (finishedBytes hmacSha256 .hostFinished run.token run.nonce peer) ∈
        network.events ++ events)
    (hdone : ∀ peer, stage = .completed peer → ∃ other written,
      .displayAccepted other run.token run.nonce peer
        (finishedBytes hmacSha256 .hostFinished run.token run.nonce peer) written ∈
        network.events) :
    Inv hmacSha256 (network.setHost index run stage events) := by
  constructor
  · intro i other peer hother hpeer
    rcases getElem?_set_cases hother with ⟨rfl, rfl⟩ | hold
    · exact hstage peer hpeer
    · exact List.mem_append_left _ (h.hostStage i other peer hold hpeer)
  · intro i other peer hother hpeer
    rcases getElem?_set_cases hother with ⟨rfl, rfl⟩ | hold
    · obtain ⟨display, written, hmem⟩ := hdone peer hpeer
      exact ⟨display, written, List.mem_append_left _ hmem⟩
    · obtain ⟨display, written, hmem⟩ := h.hostDone i other peer hold hpeer
      exact ⟨display, written, List.mem_append_left _ hmem⟩
  · intro i other peer hother hpeer
    exact List.mem_append_left _ (h.displayStage i other peer hother hpeer)
  · intro i other peer hother hpeer
    obtain ⟨host, written, hmem⟩ := h.displayDone i other peer hother hpeer
    exact ⟨host, written, List.mem_append_left _ hmem⟩
  · intro i token hostNonce displayNonce received written hmem
    rcases List.mem_append.mp hmem with hold | hnew
    · obtain ⟨hreceived, hexists⟩ := h.hostEvent i token hostNonce displayNonce received written hold
      exact ⟨hreceived, getElem?_set_exists (P := fun other : HostRun =>
        other.token = token ∧ other.nonce = hostNonce) hrun id hexists⟩
    · obtain ⟨peer, heq⟩ := hevents _ hnew
      cases heq
      refine ⟨rfl, getElem?_set_exists (P := fun other : HostRun =>
        other.token = run.token ∧ other.nonce = run.nonce) hrun id ⟨run, hrun, rfl, rfl⟩⟩
  · intro i token hostNonce displayNonce received written hmem
    rcases List.mem_append.mp hmem with hold | hnew
    · exact h.displayEvent i token hostNonce displayNonce received written hold
    · obtain ⟨peer, heq⟩ := hevents _ hnew
      cases heq
  · have hmap : (network.hosts.set index { run with stage }).map (·.nonce) =
        network.hosts.map (·.nonce) := map_set_nonce hrun rfl
    rw [setHost, hmap]
    exact h.hostNonces
  · exact h.displayNonces

theorem inv_setDisplay {network : Network} {index : Nat} {run : DisplayRun} {stage : Stage}
    {events : List Event} (h : Inv hmacSha256 network) (hrun : network.displays[index]? = some run)
    (hevents : ∀ event ∈ events,
      (∃ peer written, event = .displayAnswered index run.token peer run.nonce written) ∨
        ∃ peer written, event = .displayAccepted index run.token peer run.nonce
          (finishedBytes hmacSha256 .hostFinished run.token peer run.nonce) written)
    (hstage : ∀ peer, stage = .awaitingFinished peer ∨ stage = .completed peer →
      .displayAnswered index run.token peer run.nonce
        (helloBytes hmacSha256 run.token peer run.nonce) ∈ network.events ++ events)
    (hdone : ∀ peer, stage = .completed peer → ∃ other written,
      .hostVerified other run.token peer run.nonce
        (helloBytes hmacSha256 run.token peer run.nonce) written ∈ network.events) :
    Inv hmacSha256 (network.setDisplay index run stage events) := by
  constructor
  · intro i other peer hother hpeer
    exact List.mem_append_left _ (h.hostStage i other peer hother hpeer)
  · intro i other peer hother hpeer
    obtain ⟨display, written, hmem⟩ := h.hostDone i other peer hother hpeer
    exact ⟨display, written, List.mem_append_left _ hmem⟩
  · intro i other peer hother hpeer
    rcases getElem?_set_cases hother with ⟨rfl, rfl⟩ | hold
    · exact hstage peer hpeer
    · exact List.mem_append_left _ (h.displayStage i other peer hold hpeer)
  · intro i other peer hother hpeer
    rcases getElem?_set_cases hother with ⟨rfl, rfl⟩ | hold
    · obtain ⟨host, written, hmem⟩ := hdone peer hpeer
      exact ⟨host, written, List.mem_append_left _ hmem⟩
    · obtain ⟨host, written, hmem⟩ := h.displayDone i other peer hold hpeer
      exact ⟨host, written, List.mem_append_left _ hmem⟩
  · intro i token hostNonce displayNonce received written hmem
    rcases List.mem_append.mp hmem with hold | hnew
    · exact h.hostEvent i token hostNonce displayNonce received written hold
    · rcases hevents _ hnew with ⟨peer, bytes, heq⟩ | ⟨peer, bytes, heq⟩ <;> cases heq
  · intro i token hostNonce displayNonce received written hmem
    rcases List.mem_append.mp hmem with hold | hnew
    · obtain ⟨hreceived, hexists⟩ :=
        h.displayEvent i token hostNonce displayNonce received written hold
      exact ⟨hreceived, getElem?_set_exists (P := fun other : DisplayRun =>
        other.token = token ∧ other.nonce = displayNonce) hrun id hexists⟩
    · rcases hevents _ hnew with ⟨peer, bytes, heq⟩ | ⟨peer, bytes, heq⟩
      · cases heq
      · cases heq
        exact ⟨rfl, getElem?_set_exists (P := fun other : DisplayRun =>
          other.token = run.token ∧ other.nonce = run.nonce) hrun id ⟨run, hrun, rfl, rfl⟩⟩
  · exact h.hostNonces
  · have hmap : (network.displays.set index { run with stage }).map (·.nonce) =
        network.displays.map (·.nonce) := map_set_nonce hrun rfl
    rw [setDisplay, hmap]
    exact h.displayNonces

/-- A run that fails keeps the invariant. -/
theorem inv_failHost {network : Network} {index : Nat} {run : HostRun}
    (h : Inv hmacSha256 network) (hrun : network.hosts[index]? = some run) :
    Inv hmacSha256 (network.setHost index run .failed []) := by
  apply inv_setHost h hrun <;> simp

theorem inv_failDisplay {network : Network} {index : Nat} {run : DisplayRun}
    (h : Inv hmacSha256 network) (hrun : network.displays[index]? = some run) :
    Inv hmacSha256 (network.setDisplay index run .failed []) := by
  apply inv_setDisplay h hrun <;> simp

theorem inv_deliverHost {network : Network} {index : Nat} {run : HostRun} {bytes : FixedBytes 56}
    (h : Inv hmacSha256 network) (hideal : network.IdealTags hmacSha256 (.deliverHost index bytes))
    (hrun : network.hosts[index]? = some run) :
    Inv hmacSha256 (network.hostReceives hmacSha256 index run bytes) := by
  rw [hostReceives]
  split
  · split
    · rename_i displayNonce record hreceive
      have hbytes := hostReceiveHello_ok hreceive
      have hrecord : record =
          finishedRecord hmacSha256 run.token .hostFinished run.nonce displayNonce := by
        simp only [hostReceiveHello, bind_eq_ok, ite_error_eq_ok, Except.ok.injEq,
          Prod.mk.injEq] at hreceive
        obtain ⟨_, _, _, _, _, _, _, rfl, rfl⟩ := hreceive
        rfl
      subst hbytes hrecord
      apply inv_setHost h hrun
      · intro event hevent
        rw [List.mem_singleton.mp hevent]
        exact ⟨displayNonce, rfl⟩
      · intro peer hpeer
        rcases hpeer with hpeer | hpeer
        · cases hpeer
          exact List.mem_append_right _ List.mem_cons_self
        · cases hpeer
      · intro peer hpeer
        cases hpeer
    · exact inv_failHost h hrun
  · rename_i displayNonce hstage
    split
    · rename_i hreceive
      have hbytes := hostReceiveFinished_eq_ok.mp hreceive
      have hcheck : network.check (.deliverHost index bytes) = some (run.token,
          pairingMessage .displayFinished run.nonce displayNonce,
          pairingTag hmacSha256 run.token .displayFinished run.nonce displayNonce) := by
        obtain ⟨token, nonce, stage⟩ := run
        cases hstage
        simp [check, hrun, hbytes, decodeRecord_eq_ok.mpr rfl, finishedRecord]
      have hproof := hideal.mem_proofs hcheck rfl
      apply inv_setHost h hrun
      · intro event hevent
        cases hevent
      · intro peer hpeer
        rcases hpeer with hpeer | hpeer
        · cases hpeer
        · cases hpeer
          rw [List.append_nil]
          exact h.hostStage index run displayNonce hrun (.inl hstage)
      · intro peer hpeer
        cases hpeer
        obtain ⟨other, received, written, hevent⟩ := displayAccepted_of_proof hproof
        rw [(h.displayEvent _ _ _ _ _ _ hevent).1] at hevent
        exact ⟨other, written, hevent⟩
    · exact inv_failHost h hrun
  · exact h
  · exact h

theorem inv_deliverDisplay {network : Network} {index : Nat} {run : DisplayRun}
    {bytes : FixedBytes 56} (h : Inv hmacSha256 network)
    (hideal : network.IdealTags hmacSha256 (.deliverDisplay index bytes))
    (hrun : network.displays[index]? = some run) :
    Inv hmacSha256 (network.displayReceives hmacSha256 index run bytes) := by
  rw [displayReceives]
  split
  · split
    · rename_i hostNonce written hhello
      have hwritten := DisplayRun.hello_ok hhello
      subst hwritten
      apply inv_setDisplay h hrun
      · intro event hevent
        rw [List.mem_singleton.mp hevent]
        exact .inl ⟨hostNonce, _, rfl⟩
      · intro peer hpeer
        rcases hpeer with hpeer | hpeer
        · cases hpeer
          exact List.mem_append_right _ List.mem_cons_self
        · cases hpeer
      · intro peer hpeer
        cases hpeer
    · exact inv_failDisplay h hrun
  · rename_i hostNonce hstage
    split
    · rename_i written hfinished
      have hbytes := DisplayRun.finished_ok hfinished
      have hcheck : network.check (.deliverDisplay index bytes) = some (run.token,
          pairingMessage .hostFinished hostNonce run.nonce,
          pairingTag hmacSha256 run.token .hostFinished hostNonce run.nonce) := by
        obtain ⟨implementation, token, nonce, stage⟩ := run
        cases hstage
        simp [check, hrun, hbytes, decodeRecord_eq_ok.mpr rfl, finishedRecord]
      have hproof := hideal.mem_proofs hcheck rfl
      apply inv_setDisplay h hrun
      · intro event hevent
        rw [List.mem_singleton.mp hevent, hbytes]
        exact .inr ⟨hostNonce, written, rfl⟩
      · intro peer hpeer
        rcases hpeer with hpeer | hpeer
        · cases hpeer
        · cases hpeer
          exact List.mem_append_left _ (h.displayStage index run hostNonce hrun (.inl hstage))
      · intro peer hpeer
        cases hpeer
        obtain ⟨other, received, answer, hevent⟩ := hostVerified_of_proof hproof
        rw [(h.hostEvent _ _ _ _ _ _ hevent).1] at hevent
        exact ⟨other, answer, hevent⟩
    · exact inv_failDisplay h hrun
  · exact h
  · exact h

theorem getElem?_concat_of_some {α : Type} {as : List α} {i : Nat} {a b : α}
    (h : as[i]? = some b) : (as ++ [a])[i]? = some b := by
  rw [List.getElem?_append_left (List.getElem?_eq_some_iff.mp h).1]
  exact h

theorem inv_startHost {network : Network} {token : TetherPairingToken} {nonce : PairingNonce}
    (h : Inv hmacSha256 network) (hfresh : nonce ∉ network.hosts.map (·.nonce)) :
    Inv hmacSha256
      { network with hosts := network.hosts ++ [⟨token, nonce, .awaitingHello⟩] } := by
  refine { h with hostStage := ?_, hostDone := ?_, hostEvent := ?_, hostNonces := ?_ }
  · intro index run peer hrun hpeer
    rcases getElem?_snoc hrun with ⟨hold, -⟩ | ⟨rfl, -⟩
    · exact h.hostStage index run peer hold hpeer
    · simp at hpeer
  · intro index run peer hrun hpeer
    rcases getElem?_snoc hrun with ⟨hold, -⟩ | ⟨rfl, -⟩
    · exact h.hostDone index run peer hold hpeer
    · simp at hpeer
  · intro index owner hostNonce displayNonce received written hevent
    obtain ⟨hreceived, run, hrun, hfields⟩ := h.hostEvent index owner _ _ _ _ hevent
    exact ⟨hreceived, run, getElem?_concat_of_some hrun, hfields⟩
  · rw [List.map_append]
    exact List.nodup_append.mpr ⟨h.hostNonces, by simp, by simpa using hfresh⟩

theorem inv_startDisplay {network : Network} {implementation : DisplayImplementation}
    {token : TetherPairingToken} {nonce : PairingNonce} (h : Inv hmacSha256 network)
    (hfresh : nonce ∉ network.displays.map (·.nonce)) :
    Inv hmacSha256 { network with
      displays := network.displays ++ [⟨implementation, token, nonce, .awaitingHello⟩] } := by
  refine { h with displayStage := ?_, displayDone := ?_, displayEvent := ?_, displayNonces := ?_ }
  · intro index run peer hrun hpeer
    rcases getElem?_snoc hrun with ⟨hold, -⟩ | ⟨rfl, -⟩
    · exact h.displayStage index run peer hold hpeer
    · simp at hpeer
  · intro index run peer hrun hpeer
    rcases getElem?_snoc hrun with ⟨hold, -⟩ | ⟨rfl, -⟩
    · exact h.displayDone index run peer hold hpeer
    · simp at hpeer
  · intro index owner hostNonce displayNonce received written hevent
    obtain ⟨hreceived, run, hrun, hfields⟩ := h.displayEvent index owner _ _ _ _ hevent
    exact ⟨hreceived, run, getElem?_concat_of_some hrun, hfields⟩
  · rw [List.map_append]
    exact List.nodup_append.mpr ⟨h.displayNonces, by simp, by simpa using hfresh⟩

theorem inv_step {network next : Network} {action : Action} (h : Inv hmacSha256 network)
    (hideal : network.IdealTags hmacSha256 action)
    (hstep : network.step hmacSha256 action = some next) : Inv hmacSha256 next := by
  cases action with
  | startHost token nonce =>
    simp only [step] at hstep
    split at hstep
    · rename_i hnonce
      cases hstep
      exact inv_startHost h hnonce.2
    · cases hstep
  | startDisplay implementation token nonce =>
    simp only [step] at hstep
    split at hstep
    · rename_i hnonce
      cases hstep
      exact inv_startDisplay h hnonce.2
    · cases hstep
  | deliverHost index bytes =>
    obtain ⟨run, hrun, rfl⟩ := Option.map_eq_some_iff.mp hstep
    exact inv_deliverHost h hideal hrun
  | deliverDisplay index bytes =>
    obtain ⟨run, hrun, rfl⟩ := Option.map_eq_some_iff.mp hstep
    exact inv_deliverDisplay h hideal hrun
  | abortHost index =>
    simp only [step] at hstep
    split at hstep
    · cases hstep
    · rename_i run hrun
      cases hstep
      exact inv_failHost h hrun
    · cases hstep
  | abortDisplay index =>
    simp only [step] at hstep
    split at hstep
    · cases hstep
    · rename_i run hrun
      cases hstep
      exact inv_failDisplay h hrun
    · cases hstep

theorem nonce_unique {α : Type} {f : α → PairingNonce} {as : List α} (h : (as.map f).Nodup)
    {i j : Nat} {a b : α} (ha : as[i]? = some a) (hb : as[j]? = some b) (hf : f b = f a) :
    j = i := by
  obtain ⟨hi, ha⟩ := List.getElem?_eq_some_iff.mp ha
  obtain ⟨hj, hb⟩ := List.getElem?_eq_some_iff.mp hb
  have hi' : i < (as.map f).length := by simpa using hi
  have hj' : j < (as.map f).length := by simpa using hj
  have heq : (as.map f)[j] = (as.map f)[i] := by
    rw [List.getElem_map, List.getElem_map, ha, hb, hf]
  exact h.getElem_inj_iff.mp heq

/-- A host that completes agrees with the one display that accepted its finished record, a display
that completes agrees with the one host that verified its hello, and no proof verifies as a proof
of another kind. -/
theorem pairing_mutual_agreement {actions : List Action} {network : Network}
    (hideal : (machine hmacSha256).Admits (IdealTags hmacSha256) empty actions)
    (hrun : (machine hmacSha256).run empty actions = some network) :
    (∀ (i : Nat) (host : HostRun) displayNonce, network.hosts[i]? = some host →
      host.stage = .completed displayNonce →
      ∃ (j : Nat) (display : DisplayRun) (hello finished answer : Bytes),
        network.displays[j]? = some display ∧ display.token = host.token ∧
        display.nonce = displayNonce ∧
        .hostVerified i host.token host.nonce displayNonce hello finished ∈ network.events ∧
        .displayAccepted j host.token host.nonce displayNonce finished answer ∈ network.events ∧
        ∀ (j' : Nat) (other : DisplayRun), network.displays[j']? = some other →
          other.nonce = displayNonce → j' = j) ∧
    (∀ (j : Nat) (display : DisplayRun) hostNonce, network.displays[j]? = some display →
      display.stage = .completed hostNonce →
      ∃ (i : Nat) (host : HostRun) (hello finished : Bytes),
        network.hosts[i]? = some host ∧ host.token = display.token ∧ host.nonce = hostNonce ∧
        .displayAnswered j display.token hostNonce display.nonce hello ∈ network.events ∧
        .hostVerified i display.token hostNonce display.nonce hello finished ∈ network.events ∧
        ∀ (i' : Nat) (other : HostRun), network.hosts[i']? = some other →
          other.nonce = hostNonce → i' = i) ∧
    ∀ token kind kind' hostNonce hostNonce' displayNonce displayNonce', kind ≠ kind' →
      (hmacSha256 token (pairingMessage kind hostNonce displayNonce) =
          hmacSha256 token (pairingMessage kind' hostNonce' displayNonce') →
        pairingMessage kind hostNonce displayNonce =
          pairingMessage kind' hostNonce' displayNonce') →
      verifyPairingTag hmacSha256 token kind' hostNonce' displayNonce'
        (pairingTag hmacSha256 token kind hostNonce displayNonce) =
        .error .authenticationFailed := by
  have hinv : Inv hmacSha256 network := by
    apply (machine hmacSha256).run_invariant_of_admits (IdealTags hmacSha256) (Inv hmacSha256) ?_
      inv_empty hideal hrun
    intro before action after hbefore hguard hstep
    exact inv_step hbefore hguard hstep
  refine ⟨?_, ?_, ?_⟩
  · intro i host displayNonce hhost hstage
    have hverified := hinv.hostStage i host displayNonce hhost (.inr hstage)
    obtain ⟨j, answer, haccepted⟩ := hinv.hostDone i host displayNonce hhost hstage
    obtain ⟨-, display, hdisplay, htoken, hnonce⟩ := hinv.displayEvent _ _ _ _ _ _ haccepted
    refine ⟨j, display, _, _, answer, hdisplay, htoken, hnonce, hverified, haccepted, ?_⟩
    intro j' other hother hsame
    exact nonce_unique hinv.displayNonces hdisplay hother (hsame.trans hnonce.symm)
  · intro j display hostNonce hdisplay hstage
    have hanswered := hinv.displayStage j display hostNonce hdisplay (.inr hstage)
    obtain ⟨i, finished, hverified⟩ := hinv.displayDone j display hostNonce hdisplay hstage
    obtain ⟨-, host, hhost, htoken, hnonce⟩ := hinv.hostEvent _ _ _ _ _ _ hverified
    refine ⟨i, host, _, finished, hhost, htoken, hnonce, hanswered, hverified, ?_⟩
    intro i' other hother hsame
    exact nonce_unique hinv.hostNonces hhost hother (hsame.trans hnonce.symm)
  · intro token kind kind' hostNonce hostNonce' displayNonce displayNonce' hkind hcollision
    rw [verifyPairingTag, if_neg]
    intro htag
    exact hkind (pairingMessage_inj (hcollision htag.symm)).1

end Network

end Agreement

/-- The deterministic interoperability vector. -/
def vectorToken : TetherPairingToken := ⟨[0, 1, 2, 3, 4, 5, 6, 7, 8, 9], rfl⟩
def vectorHostNonce : PairingNonce := ⟨List.replicate 16 0x11, rfl⟩
def vectorDisplayNonce : PairingNonce := ⟨List.replicate 16 0x22, rfl⟩

def vectorTag : PairingRecordKind → PairingTag
  | .hostHello => FixedBytes.zero 32
  | .displayHello => ⟨[0x73, 0xd8, 0xfc, 0xaf, 0xfc, 0x57, 0x5e, 0xf3, 0xfc, 0x87, 0xaf, 0x45, 0xdb,
      0x2f, 0x90, 0x0e, 0x3d, 0x49, 0x7b, 0x2d, 0xef, 0xa9, 0x46, 0xd0, 0x34, 0xf6, 0x76, 0xb6,
      0x73, 0x5d, 0x3d, 0xdc], rfl⟩
  | .hostFinished => ⟨[0x33, 0xea, 0xee, 0xd1, 0xa5, 0x58, 0x12, 0x21, 0x2c, 0x0a, 0xe4, 0x9c, 0x5b,
      0x57, 0xb1, 0xfe, 0xde, 0x4e, 0x0f, 0xdc, 0xd5, 0x33, 0xd8, 0x0b, 0xc0, 0xd1, 0xac, 0xba,
      0x3f, 0x9d, 0x1e, 0xf5], rfl⟩
  | .displayFinished => ⟨[0x6c, 0x11, 0x0e, 0x98, 0x33, 0xd5, 0x7f, 0x9a, 0x19, 0xcf, 0xf9, 0xa2,
      0x1a, 0x35, 0x07, 0xdb, 0xb0, 0x2c, 0xf6, 0xd9, 0x7c, 0xfd, 0x69, 0xbf, 0xc1, 0xf0, 0x43,
      0xb6, 0xf0, 0x8b, 0xad, 0xed], rfl⟩

/-- HMAC-SHA-256 on the transcripts of the vector. -/
def vectorHmac (token : TetherPairingToken) (message : Bytes) : PairingTag :=
  if token = vectorToken ∧
      message = pairingMessage .displayHello vectorHostNonce vectorDisplayNonce then
    vectorTag .displayHello
  else if token = vectorToken ∧
      message = pairingMessage .hostFinished vectorHostNonce vectorDisplayNonce then
    vectorTag .hostFinished
  else if token = vectorToken ∧
      message = pairingMessage .displayFinished vectorHostNonce vectorDisplayNonce then
    vectorTag .displayFinished
  else FixedBytes.zero 32

/-- One honest handshake with the Android display. -/
def vectorActions : List Action :=
  [.startHost vectorToken vectorHostNonce, .startDisplay .android vectorToken vectorDisplayNonce,
    .deliverDisplay 0 (encodeRecord (hostHelloRecord vectorHostNonce)),
    .deliverHost 0 (encodeRecord
      ⟨PairingRecordKind.displayHello.value, vectorDisplayNonce, vectorTag .displayHello⟩),
    .deliverDisplay 0 (encodeRecord
      ⟨PairingRecordKind.hostFinished.value, FixedBytes.zero 16, vectorTag .hostFinished⟩),
    .deliverHost 0 (encodeRecord
      ⟨PairingRecordKind.displayFinished.value, FixedBytes.zero 16, vectorTag .displayFinished⟩)]

set_option maxRecDepth 10000 in
theorem pairing_mutual_agreement_vector : ∃ network,
    (Network.machine vectorHmac).run .empty vectorActions = some network ∧
      network.hosts.map (·.stage) = [.completed vectorDisplayNonce] ∧
      ∃ display ∈ network.displays, display.token = vectorToken ∧
        display.nonce = vectorDisplayNonce := by
  have hideal : (Network.machine vectorHmac).Admits (Network.IdealTags vectorHmac) .empty
      vectorActions := by decide
  have hhosts : ((Network.machine vectorHmac).run .empty vectorActions).map (·.hosts) =
      some [⟨vectorToken, vectorHostNonce, .completed vectorDisplayNonce⟩] := by decide
  obtain ⟨network, hrun, hhosts⟩ := Option.map_eq_some_iff.mp hhosts
  have hfirst : network.hosts[0]? =
      some ⟨vectorToken, vectorHostNonce, .completed vectorDisplayNonce⟩ := by rw [hhosts]; rfl
  obtain ⟨j, display, hello, finished, answer, hdisplay, htoken, hnonce, -⟩ :=
    (Network.pairing_mutual_agreement hideal hrun).1 0 _ _ hfirst rfl
  refine ⟨network, hrun, by rw [hhosts]; rfl, display, List.mem_of_getElem? hdisplay, ?_⟩
  exact ⟨htoken, hnonce⟩

end LadoFlow.System.Pairing
