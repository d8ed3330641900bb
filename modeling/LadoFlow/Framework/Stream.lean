import LadoFlow.Framework.Codec
import LadoFlow.Framework.Loop

/-!
# Prefix decoders and chunked streams

A prefix decoder reads one value from the front of a byte string, asks for more bytes, or
rejects a header. Feeding a stream chunk by chunk keeps the undecoded bytes between chunks;
the results below say which values each chunk delivers, for every way of cutting the stream.
-/

namespace Framework

/-- Result of parsing a possibly incomplete byte string. -/
inductive DecodeOutcome (α : Type) where
  | complete (frame : α) (consumed : Nat)
  | needMoreData (minimum : Nat)
  deriving DecidableEq, Repr

def DecodeOutcome.map {α β : Type} (f : α → β) : DecodeOutcome α → DecodeOutcome β
  | .complete frame consumed => .complete (f frame) consumed
  | .needMoreData minimum => .needMoreData minimum

structure PrefixDecoder (ε α : Type) where
  encode : α → Bytes
  decode : Bytes → Except ε (DecodeOutcome α)
  headerLen : Nat
  encode_ne_nil : ∀ v, encode v ≠ []
  decode_encode : ∀ v rest, decode (encode v ++ rest) = .ok (.complete v (encode v).length)
  decode_complete : ∀ {bytes v n}, decode bytes = .ok (.complete v n) →
    n ≤ bytes.length ∧ encode v = bytes.take n
  decode_error : ∀ {bytes e}, decode bytes = .error e ↔
    headerLen ≤ bytes.length ∧ decode (bytes.take headerLen) = .error e

namespace PrefixDecoder

variable {ε α : Type} (P : PrefixDecoder ε α)

def NeedsMore (bytes : Bytes) : Prop := ∃ m, P.decode bytes = .ok (.needMoreData m)

def encodeAll (vs : List α) : Bytes := (vs.map P.encode).flatten

@[simp] theorem encodeAll_nil : P.encodeAll [] = [] := rfl

@[simp] theorem encodeAll_cons (v : α) (vs : List α) :
    P.encodeAll (v :: vs) = P.encode v ++ P.encodeAll vs := rfl

@[simp] theorem encodeAll_append (vs ws : List α) :
    P.encodeAll (vs ++ ws) = P.encodeAll vs ++ P.encodeAll ws := by
  simp [encodeAll]

theorem encode_length_pos (v : α) : 0 < (P.encode v).length :=
  List.length_pos_iff.mpr (P.encode_ne_nil v)

theorem decode_error_append {bytes : Bytes} {e : ε} (h : P.decode bytes = .error e)
    (more : Bytes) : P.decode (bytes ++ more) = .error e := by
  obtain ⟨hlen, htake⟩ := P.decode_error.mp h
  apply P.decode_error.mpr
  rw [List.take_append_of_le_length hlen, List.length_append]
  exact ⟨by omega, htake⟩

/-- A value that decodes completely does so under every extension. -/
theorem decode_complete_append {bytes : Bytes} {v : α} {n : Nat}
    (h : P.decode bytes = .ok (.complete v n)) (more : Bytes) :
    P.decode (bytes ++ more) = .ok (.complete v (P.encode v).length) := by
  obtain ⟨-, htake⟩ := P.decode_complete h
  rw [← List.take_append_drop n bytes, ← htake, List.append_assoc]
  exact P.decode_encode v _

/-- A string that stops short of a whole value is neither complete nor malformed. -/
theorem needsMore_of_lt {bytes more : Bytes} {v : α} (h : bytes ++ more = P.encode v)
    (hne : more ≠ []) : P.NeedsMore bytes := by
  have hfull := P.decode_encode v []
  rw [List.append_nil, ← h] at hfull
  cases hd : P.decode bytes with
  | error e =>
    rw [P.decode_error_append hd] at hfull
    cases hfull
  | ok outcome =>
    cases outcome with
    | needMoreData m => exact ⟨m, hd⟩
    | complete w n =>
      rw [P.decode_complete_append hd] at hfull
      obtain ⟨hn, hw⟩ := P.decode_complete hd
      have hlen : (P.encode w).length = (bytes ++ more).length := by
        injection hfull with hfull
        injection hfull
      rw [hw, List.length_take, List.length_append] at hlen
      have hpos := List.length_pos_iff.mpr hne
      omega

/-- A string that needs more bytes and starts a longer stream of values ends inside the first. -/
theorem NeedsMore.length_lt {bytes more tail : Bytes} {v : α} {vs : List α}
    (h : P.NeedsMore bytes) (hs : bytes ++ more = P.encodeAll (v :: vs) ++ tail) :
    bytes.length < (P.encode v).length := by
  by_contra hge
  obtain ⟨m, hm⟩ := h
  rw [encodeAll_cons, List.append_assoc] at hs
  have hfront : P.encode v = bytes.take (P.encode v).length := by
    have htake : (bytes ++ more).take (P.encode v).length = bytes.take (P.encode v).length :=
      List.take_append_of_le_length (by omega)
    rw [← htake, hs, List.take_left]
  have hd := P.decode_encode v (bytes.drop (P.encode v).length)
  nth_rewrite 1 [hfront] at hd
  rw [List.take_append_drop, hm] at hd
  cases hd

/-- A stream of values has no second reading: one that starts with whole values goes on with the rest
of its values. -/
theorem encodeAll_prefix {vs ws : List α} {rest : Bytes}
    (h : P.encodeAll vs ++ rest = P.encodeAll ws) :
    ∃ todo, ws = vs ++ todo ∧ rest = P.encodeAll todo := by
  induction vs generalizing ws with
  | nil => exact ⟨ws, rfl, h⟩
  | cons v vs ih =>
    cases ws with
    | nil =>
      have hnil := congrArg List.length h
      have hpos := P.encode_length_pos v
      simp only [encodeAll_cons, encodeAll_nil, List.length_append, List.length_nil] at hnil
      omega
    | cons w ws =>
      rw [encodeAll_cons, encodeAll_cons, List.append_assoc] at h
      have hv := P.decode_encode v (P.encodeAll vs ++ rest)
      rw [h, P.decode_encode w] at hv
      simp only [Except.ok.injEq, DecodeOutcome.complete.injEq] at hv
      obtain ⟨hw, -⟩ := hv
      subst hw
      obtain ⟨todo, hws, hrest⟩ := ih (List.append_cancel_left h)
      exact ⟨todo, by rw [hws, List.cons_append], hrest⟩

/-- A prefix of a stream of values ends inside one of the values or inside the tail. -/
theorem split_prefix (vs : List α) (tail front more : Bytes)
    (h : front ++ more = P.encodeAll vs ++ tail) :
    (∃ done todo rest, vs = done ++ todo ∧ front = P.encodeAll done ++ rest ∧
        rest ++ more = P.encodeAll todo ++ tail ∧ rest.length < (P.encodeAll todo).length ∧
        P.NeedsMore rest) ∨
      ∃ rest, front = P.encodeAll vs ++ rest ∧ rest ++ more = tail := by
  induction vs generalizing front with
  | nil => exact .inr ⟨front, rfl, h⟩
  | cons v vs ih =>
    rw [encodeAll_cons, List.append_assoc] at h
    rcases List.append_eq_append_iff.mp h with ⟨short, hv, -⟩ | ⟨front', rfl, hrest⟩
    · by_cases hshort : short = []
      · subst hshort
        rw [List.append_nil] at hv
        rcases ih [] (by simpa [← hv] using h) with ⟨done, todo, rest, rfl, hf, hr, hl, hn⟩ | ⟨rest, hf, hr⟩
        · refine .inl ⟨v :: done, todo, rest, rfl, ?_, hr, hl, hn⟩
          rw [encodeAll_cons, List.append_assoc, ← hf, List.append_nil, hv]
        · refine .inr ⟨rest, ?_, hr⟩
          rw [encodeAll_cons, List.append_assoc, ← hf, List.append_nil, hv]
      · have hpos := List.length_pos_iff.mpr hshort
        refine .inl ⟨[], v :: vs, front, rfl, rfl, ?_, ?_, P.needsMore_of_lt hv.symm hshort⟩
        · rw [encodeAll_cons, List.append_assoc, h]
        · rw [encodeAll_cons, hv]
          simp only [List.length_append]
          omega
    · rcases ih front' hrest.symm with ⟨done, todo, rest, rfl, rfl, hr, hl, hn⟩ | ⟨rest, rfl, hr⟩
      · exact .inl ⟨v :: done, todo, rest, rfl, by simp, hr, hl, hn⟩
      · exact .inr ⟨rest, by simp, hr⟩

/-- The decode loop over one buffer: `consumed` bytes are done and `frames` were read. -/
def drainLoop (buffer : Bytes) : Loop (Nat × List α) (Except ε (Nat × List α)) where
  step := fun (consumed, frames) =>
    match P.decode (buffer.drop consumed) with
    | .error e => .inr (.error e)
    | .ok (.needMoreData _) => .inr (.ok (consumed, frames))
    | .ok (.complete frame n) => .inl (consumed + n, frames ++ [frame])
  measure := fun (consumed, _) => buffer.length - consumed
  decreases := by
    rintro ⟨consumed, frames⟩ ⟨consumed', frames'⟩ h
    dsimp only at h ⊢
    split at h <;> try contradiction
    rename_i frame n hd
    obtain ⟨hn, he⟩ := P.decode_complete hd
    have hpos := P.encode_length_pos frame
    rw [he, List.length_take] at hpos
    rw [List.length_drop] at hn
    simp only [Sum.inl.injEq, Prod.mk.injEq] at h
    omega

private theorem drainLoop_encodeAll (vs : List α) (tail buffer : Bytes) (consumed : Nat)
    (frames : List α) (h : buffer.drop consumed = P.encodeAll vs ++ tail) :
    (P.drainLoop buffer).run (consumed, frames) =
      (P.drainLoop buffer).run (consumed + (P.encodeAll vs).length, frames ++ vs) := by
  induction vs generalizing consumed frames with
  | nil => simp
  | cons v vs ih =>
    rw [encodeAll_cons, List.append_assoc] at h
    have hstep : (P.drainLoop buffer).step (consumed, frames) =
        .inl (consumed + (P.encode v).length, frames ++ [v]) := by
      simp only [drainLoop, h, P.decode_encode]
    have hdrop : buffer.drop (consumed + (P.encode v).length) = P.encodeAll vs ++ tail := by
      rw [← List.drop_drop, h, List.drop_left]
    rw [Loop.run_inl _ hstep, ih _ _ hdrop]
    simp [Nat.add_assoc]

theorem drain_needsMore (vs : List α) {rest : Bytes} (h : P.NeedsMore rest) :
    (P.drainLoop (P.encodeAll vs ++ rest)).run (0, []) = .ok ((P.encodeAll vs).length, vs) := by
  obtain ⟨m, hm⟩ := h
  rw [P.drainLoop_encodeAll vs rest _ 0 [] rfl]
  apply Loop.run_inr
  simp [drainLoop, hm]

theorem drain_error (vs : List α) {rest : Bytes} {e : ε} (h : P.decode rest = .error e) :
    (P.drainLoop (P.encodeAll vs ++ rest)).run (0, []) = .error e := by
  rw [P.drainLoop_encodeAll vs rest _ 0 [] rfl]
  apply Loop.run_inr
  simp [drainLoop, h]

/-- Add one chunk to the retained bytes and decode as far as possible. An error leaves the
buffer as it was extended and gives no value. -/
def push (buffer chunk : Bytes) : Bytes × Except ε (List α) :=
  match (P.drainLoop (buffer ++ chunk)).run (0, []) with
  | .error e => (buffer ++ chunk, .error e)
  | .ok (consumed, frames) => ((buffer ++ chunk).drop consumed, .ok frames)

theorem push_needsMore {buffer chunk rest : Bytes} {vs : List α}
    (h : buffer ++ chunk = P.encodeAll vs ++ rest) (hn : P.NeedsMore rest) :
    P.push buffer chunk = (rest, .ok vs) := by
  simp [push, h, P.drain_needsMore vs hn]

theorem push_error {buffer chunk rest : Bytes} {vs : List α} {e : ε}
    (h : buffer ++ chunk = P.encodeAll vs ++ rest) (he : P.decode rest = .error e) :
    P.push buffer chunk = (buffer ++ chunk, .error e) := by
  simp [push, h, P.drain_error vs he]

/-- Feed chunks in order; the retained bytes at the end and the result of every push. -/
def feed (buffer : Bytes) : List Bytes → Bytes × List (Except ε (List α))
  | [] => (buffer, [])
  | chunk :: chunks =>
    let next := P.push buffer chunk
    let rest := feed next.1 chunks
    (rest.1, next.2 :: rest.2)

/-- The values delivered before the first error. -/
def delivered (buffer : Bytes) : List Bytes → List α
  | [] => []
  | chunk :: chunks =>
    match P.push buffer chunk with
    | (buffer', .ok frames) => frames ++ delivered buffer' chunks
    | (_, .error _) => []

/-- Chunked decoding of a valid stream delivers its values in order and keeps the unfinished
tail, wherever the stream is cut. -/
theorem feed_valid (vs : List α) (tail buffer : Bytes) (chunks : List Bytes)
    (htail : ∀ front more, front ++ more = tail → P.NeedsMore front)
    (hbuffer : P.NeedsMore buffer)
    (h : buffer ++ chunks.flatten = P.encodeAll vs ++ tail) :
    ∃ lists : List (List α), P.feed buffer chunks = (tail, lists.map .ok) ∧ lists.flatten = vs := by
  induction chunks generalizing buffer vs with
  | nil =>
    rw [List.flatten_nil, List.append_nil] at h
    cases vs with
    | nil => exact ⟨[], by simp_all [feed], rfl⟩
    | cons v vs =>
      have hlt := hbuffer.length_lt P (List.append_nil buffer ▸ h : buffer ++ [] = _)
      rw [h] at hlt
      simp only [encodeAll_cons, List.length_append] at hlt
      omega
  | cons chunk chunks ih =>
    rw [List.flatten_cons, ← List.append_assoc] at h
    rcases P.split_prefix vs tail _ _ h with ⟨done, todo, rest, rfl, hf, hr, -, hn⟩ | ⟨rest, hf, hr⟩
    · obtain ⟨lists, hfeed, hflat⟩ := ih todo rest hn hr
      refine ⟨done :: lists, ?_, by simp [hflat]⟩
      simp [feed, P.push_needsMore hf hn, hfeed]
    · have hn := htail rest _ hr
      obtain ⟨lists, hfeed, hflat⟩ := ih [] rest hn (by simpa using hr)
      refine ⟨vs :: lists, ?_, by simp [hflat]⟩
      simp [feed, P.push_needsMore hf hn, hfeed]

section Malformed

variable {P} {bad : Bytes} {e : ε} (hbad : P.decode bad = .error e)
include hbad

/-- A prefix of a malformed header is accepted exactly while the header is incomplete. -/
theorem malformed_prefix {front more : Bytes} (h : front ++ more = bad) :
    P.NeedsMore front ∧ front.length < P.headerLen ∨
      P.decode front = .error e ∧ P.headerLen ≤ front.length := by
  subst h
  obtain ⟨hlen, htake⟩ := P.decode_error.mp hbad
  by_cases hf : P.headerLen ≤ front.length
  · rw [List.take_append_of_le_length hf] at htake
    exact .inr ⟨P.decode_error.mpr ⟨hf, htake⟩, hf⟩
  · refine .inl ⟨?_, by omega⟩
    cases hd : P.decode front with
    | error e' => exact absurd (P.decode_error.mp hd).1 hf
    | ok outcome =>
      cases outcome with
      | needMoreData m => exact ⟨m, hd⟩
      | complete v n =>
        rw [P.decode_complete_append hd] at hbad
        cases hbad

/-- The values before a malformed header are all delivered exactly when some chunk boundary
falls between the end of the last value and the end of the header. -/
theorem delivered_eq_iff (vs : List α) (buffer : Bytes) (chunks : List Bytes)
    (hbuffer : P.NeedsMore buffer)
    (h : buffer ++ chunks.flatten = P.encodeAll vs ++ bad) :
    P.delivered buffer chunks = vs ↔ ∃ before after, chunks = before ++ after ∧
      (P.encodeAll vs).length ≤ buffer.length + before.flatten.length ∧
      buffer.length + before.flatten.length < (P.encodeAll vs).length + P.headerLen := by
  -- Induction on the chunks; the retained bytes always lie strictly inside the next value
  -- or inside the malformed header.
  induction chunks generalizing buffer vs with
  | nil =>
    exfalso
    rw [List.flatten_nil, List.append_nil] at h
    cases vs with
    | nil =>
      obtain ⟨m, hm⟩ := hbuffer
      rw [h, encodeAll_nil, List.nil_append, hbad] at hm
      cases hm
    | cons v vs =>
      have hlt := hbuffer.length_lt P (List.append_nil buffer ▸ h : buffer ++ [] = _)
      rw [h] at hlt
      simp only [encodeAll_cons, List.length_append] at hlt
      omega
  | cons chunk chunks ih =>
    rw [List.flatten_cons, ← List.append_assoc] at h
    rcases P.split_prefix vs bad _ _ h with ⟨done, todo, rest, rfl, hf, hr, hl, hn⟩ | ⟨rest, hf, hr⟩
    · have hlen := congrArg List.length hf
      simp only [List.length_append] at hlen
      have hdel : P.delivered buffer (chunk :: chunks) = done ++ P.delivered rest chunks := by
        simp [delivered, P.push_needsMore hf hn]
      rw [hdel, List.append_cancel_left_eq, ih todo rest hn hr]
      simp only [encodeAll_append, List.length_append]
      constructor
      · rintro ⟨before, after, rfl, hlo, hhi⟩
        refine ⟨chunk :: before, after, rfl, ?_, ?_⟩ <;>
          simp only [List.flatten_cons, List.length_append] <;> omega
      · rintro ⟨before, after, hsplit, hlo, hhi⟩
        cases before with
        | nil =>
          simp only [List.flatten_nil, List.length_nil] at hlo
          omega
        | cons c before =>
          simp only [List.cons_append, List.cons.injEq] at hsplit
          obtain ⟨rfl, rfl⟩ := hsplit
          simp only [List.flatten_cons, List.length_append] at hlo hhi
          exact ⟨before, after, rfl, by omega, by omega⟩
    · have hlen := congrArg List.length hf
      simp only [List.length_append] at hlen
      rcases malformed_prefix hbad hr with ⟨hn, hshort⟩ | ⟨herr, hlong⟩
      · have hdel : P.delivered buffer (chunk :: chunks) = vs ++ P.delivered rest chunks := by
          simp [delivered, P.push_needsMore hf hn]
        have htail : P.delivered rest chunks = [] := by
          apply (ih [] rest hn (by simpa using hr)).mpr
          exact ⟨[], chunks, rfl, by simp, by simpa using hshort⟩
        simp only [hdel, htail, List.append_nil, true_iff]
        refine ⟨[chunk], chunks, rfl, ?_, ?_⟩ <;> simp <;> omega
      · have hdel : P.delivered buffer (chunk :: chunks) = [] := by
          simp [delivered, P.push_error hf herr]
        rw [hdel]
        constructor
        · rintro rfl
          refine ⟨[], chunk :: chunks, rfl, by simp, ?_⟩
          rw [encodeAll_nil, List.nil_append, List.append_assoc] at h
          rcases malformed_prefix hbad h with ⟨-, hb⟩ | ⟨hb, -⟩
          · simpa using hb
          · obtain ⟨m, hm⟩ := hbuffer
            rw [hm] at hb
            cases hb
        · rintro ⟨before, after, hsplit, hlo, hhi⟩
          cases before with
          | nil =>
            cases vs with
            | nil => rfl
            | cons v vs =>
              rw [List.append_assoc] at h
              have hlt := hbuffer.length_lt P h
              simp only [encodeAll_cons, List.length_append, List.flatten_nil, List.length_nil] at hlo
              omega
          | cons c before =>
            simp only [List.cons_append, List.cons.injEq] at hsplit
            obtain ⟨rfl, rfl⟩ := hsplit
            simp only [List.flatten_cons, List.length_append] at hhi
            omega

end Malformed

end PrefixDecoder

end Framework
