import LadoFlow.Host.HardwareEncoder

/-!
# The encoder in lockstep with the capture

Each call puts one texture in, on request, and brings back all units that the transform gave since the call
before it, one of them no older than the texture.
-/

namespace LadoFlow.Host.HardwareEncoder

open Framework

/-- The units that the call has taken so far without the queue. -/
def outputsAt : EncoderPoint → List EncodedAccessUnit
  | .takingOutputs outputs => outputs
  | _ => []

/-- Whether a texture is in the transform. -/
def hasInput : EncoderPoint → Bool
  | .awaitingOutput _ => true
  | .takingOutputs _ => true
  | _ => false

/-- What holds of an encoder whose calls have not failed. -/
structure Running (s : HardwareEncoder) : Prop where
  accounted : s.taken = s.returned.flatMap (·.2) ++ (outputsAt s.point ++ s.pendingOutputs)
  idle : s.point = .idle → s.pendingOutputs = []
  inputs : s.inputs = s.returned.length + (hasInput s.point).toNat
  mode : if s.asynchronous then ∀ outputs, s.point ≠ .takingOutputs outputs
    else s.pendingOutputs = [] ∧ s.inputReady = true ∧ ∀ timestamp, s.point ≠ .awaitingOutput timestamp

structure Inv (s : HardwareEncoder) : Prop where
  running : (∀ error, s.point ≠ .failed error) → Running s
  returned : s.returned.flatMap (·.2) <+: s.taken
  bytes : ∀ unit ∈ s.taken, unit.bytes ≠ []
  answered : s.asynchronous = true → ∀ result ∈ s.returned, ∃ timestamp, result.1 = some timestamp ∧
    ∃ unit ∈ result.2, reaches timestamp unit = true
  requested : s.asynchronous = true → s.inputs + s.inputReady.toNat ≤ s.requests
  bounded : s.returned.length ≤ s.inputs ∧ s.inputs ≤ s.returned.length + 1

theorem inv_start (asynchronous : Bool) : Inv (start asynchronous) where
  running := fun _ => ⟨rfl, fun _ => rfl, rfl, by cases asynchronous <;> simp [start]⟩
  returned := List.nil_prefix
  bytes := nofun
  answered := fun _ => nofun
  requested := by
    rintro rfl
    decide
  bounded := ⟨Nat.le_refl _, Nat.zero_le _⟩

variable {s t : HardwareEncoder}

theorem keep_eq (outputs : List EncodedAccessUnit) (output : Option EncodedAccessUnit) :
    keep outputs output = outputs ++ keep [] output := by
  cases output with
  | none => simp [keep]
  | some output =>
    simp only [keep]
    split <;> simp

theorem bytes_of_mem_keep {output : Option EncodedAccessUnit} {unit : EncodedAccessUnit}
    (h : unit ∈ keep [] output) : unit.bytes ≠ [] := by
  cases output with
  | none => cases h
  | some output =>
    simp only [keep] at h
    split at h
    · cases h
    · rw [List.nil_append, List.mem_singleton] at h
      rename_i hbytes
      simpa [h] using hbytes

/-- What one event does to the encoder: nothing, a request for input, or outputs at the end of the queue. -/
theorem pumpEvent_cases {event : EncoderEvent} (h : s.pumpEvent event = .ok t) :
    t = s ∨ t = { s with inputReady := true, requests := s.requests + 1 } ∨
      ∃ output, t = { s with
        pendingOutputs := s.pendingOutputs ++ keep [] output
        taken := s.taken ++ keep [] output } := by
  cases event with
  | noEvents =>
    cases h
    exact .inl rfl
  | other =>
    cases h
    exact .inl rfl
  | needInput =>
    cases h
    exact .inr (.inl rfl)
  | haveOutput call =>
    obtain ⟨output, -, hpumped⟩ := bind_eq_ok.mp h
    cases hpumped
    refine .inr (.inr ⟨output, ?_⟩)
    rw [← keep_eq, ← keep_eq]
  | notPolled error => cases h
  | statusNotRead error => cases h
  | failedStatus error => cases h
  | typeNotRead error => cases h

/-- A call that fails leaves what was taken and returned. -/
theorem Inv.fail (h : Inv s) (error : String) : Inv (s.fail error) where
  running := fun hrunning => absurd rfl (hrunning error)
  returned := h.returned
  bytes := h.bytes
  answered := h.answered
  requested := h.requested
  bounded := h.bounded

/-- An event keeps the invariant while the call waits. -/
theorem Inv.pumped (h : Inv s) {event : EncoderEvent} (hwaiting : s.point ≠ .idle)
    (hasync : s.asynchronous = true) (hevent : s.pumpEvent event = .ok t) :
    Inv t ∧ t.point = s.point ∧ t.asynchronous = s.asynchronous := by
  rcases pumpEvent_cases hevent with rfl | rfl | ⟨output, rfl⟩
  · exact ⟨h, rfl, rfl⟩
  · refine ⟨⟨?_, h.returned, h.bytes, h.answered, ?_, h.bounded⟩, rfl, rfl⟩
    · intro hrunning
      obtain ⟨haccounted, hidle, hinputs, hmode⟩ := h.running hrunning
      exact ⟨haccounted, hidle, hinputs, by simpa [hasync] using hmode⟩
    · intro _
      have hrequested := h.requested hasync
      simp only [Bool.toNat_true]
      omega
  · refine ⟨⟨?_, ?_, ?_, h.answered, h.requested, h.bounded⟩, rfl, rfl⟩
    · intro hrunning
      obtain ⟨haccounted, -, hinputs, hmode⟩ := h.running hrunning
      refine ⟨?_, fun hidle => absurd hidle hwaiting, hinputs, ?_⟩
      · simp only [haccounted, List.append_assoc]
      · simpa [hasync] using hmode
    · exact h.returned.trans (List.prefix_append _ _)
    · intro unit hunit
      rcases List.mem_append.mp hunit with hold | hnew
      · exact h.bytes unit hold
      · exact bytes_of_mem_keep hnew

theorem Inv.awaitOutput (h : Inv s) (hasync : s.asynchronous = true) {timestamp : Int64}
    (hpoint : s.point = .awaitingOutput timestamp) : Inv (s.awaitOutput timestamp) := by
  rw [HardwareEncoder.awaitOutput]
  split
  · rename_i hany
    have hrunning : Running s := h.running (by simp [hpoint])
    have haccounted := hrunning.accounted
    have hinputs := hrunning.inputs
    rw [hpoint] at haccounted hinputs
    have hflat : (s.returned ++ [(some timestamp, s.pendingOutputs)]).flatMap (·.2) = s.taken := by
      simp [haccounted, outputsAt]
    refine ⟨fun _ => ⟨?_, fun _ => rfl, ?_, ?_⟩, ?_, h.bytes, ?_, h.requested, ?_⟩
    · simpa [finish, outputsAt] using hflat.symm
    · simpa [finish, hasInput] using hinputs
    · simp [finish, hasync]
    · exact ⟨[], by simpa [finish] using hflat⟩
    · intro _ result hresult
      rcases List.mem_append.mp hresult with hold | hnew
      · exact h.answered hasync result hold
      · rw [List.mem_singleton.mp hnew]
        exact ⟨timestamp, rfl, List.any_eq_true.mp hany⟩
    · simp only [finish, List.length_append, List.length_singleton]
      simp only [hasInput, Bool.toNat_true] at hinputs
      omega
  · exact h

/-- Between two calls nothing is held back. -/
theorem Inv.encodeTexture (h : Inv s) (hidle : s.point = .idle) (timestamp : Int64) :
    Inv { s with point := .awaitingInput timestamp } := by
  have hrunning : Running s := h.running (by simp [hidle])
  have haccounted := hrunning.accounted
  have hinputs := hrunning.inputs
  have hmode := hrunning.mode
  rw [hidle] at haccounted hinputs
  refine ⟨fun _ => ⟨haccounted, nofun, hinputs, ?_⟩, h.returned, h.bytes, h.answered, h.requested, h.bounded⟩
  split
  · exact nofun
  · rw [if_neg ‹_›] at hmode
    exact ⟨hmode.1, hmode.2.1, nofun⟩

theorem Inv.processInput (h : Inv s) {timestamp : Int64} (hpoint : s.point = .awaitingInput timestamp)
    (hready : s.inputReady = true) (result : Except String Unit) (hstep : s.step (.processInput result) = some t) :
    Inv t := by
  have hrunning : Running s := h.running (by simp [hpoint])
  have haccounted := hrunning.accounted
  have hinputs := hrunning.inputs
  have hmode := hrunning.mode
  rw [hpoint] at haccounted hinputs
  cases result with
  | error error =>
    simp only [step, hpoint, hready, if_true, Option.some.injEq] at hstep
    rw [← hstep]
    exact h.fail _
  | ok _ =>
    simp only [step, hpoint, hready, Bool.not_true, Bool.false_eq_true, if_false] at hstep
    have hbounded : s.returned.length ≤ s.inputs + 1 ∧ s.inputs + 1 ≤ s.returned.length + 1 := by
      simp only [hasInput, Bool.toNat_false] at hinputs
      omega
    cases hasync : s.asynchronous with
    | true =>
      rw [if_pos hasync, Option.some.injEq] at hstep
      have hrequested := h.requested hasync
      rw [hready, Bool.toNat_true] at hrequested
      rw [← hstep]
      refine ⟨fun _ => ⟨haccounted, nofun, ?_, by simp [hasync]⟩, h.returned, h.bytes, h.answered, ?_, hbounded⟩
      · simpa [hasInput] using hinputs
      · intro _
        simpa using hrequested
    | false =>
      have hnever : ∀ {p : Prop}, s.asynchronous = true → p := by
        intro p htrue
        rw [hasync] at htrue
        cases htrue
      rw [if_neg (by simp [hasync]), Option.some.injEq] at hstep
      rw [if_neg (by simp [hasync])] at hmode
      rw [← hstep]
      refine ⟨fun _ => ⟨?_, nofun, ?_, ?_⟩, h.returned, h.bytes, hnever, hnever, hbounded⟩
      · simpa [outputsAt] using haccounted
      · simpa [hasInput] using hinputs
      · simp [hasync, hmode.1]

/-- The synchronous call takes outputs until the transform needs more input. -/
theorem Inv.takeOutput (h : Inv s) {outputs : List EncodedAccessUnit} (hpoint : s.point = .takingOutputs outputs)
    (call : OutputCall) (hstep : s.step (.takeOutput call) = some t) : Inv t := by
  have hrunning : Running s := h.running (by simp [hpoint])
  have haccounted := hrunning.accounted
  have hinputs := hrunning.inputs
  have hmode := hrunning.mode
  rw [hpoint] at haccounted hinputs
  have hasync : s.asynchronous = false := by
    cases hasync : s.asynchronous with
    | false => rfl
    | true =>
      rw [hasync] at hmode
      exact absurd hpoint (hmode outputs)
  simp only [hasync, Bool.false_eq_true, if_false] at hmode
  have hnever : ∀ {p : Prop}, s.asynchronous = true → p := by
    intro p htrue
    rw [hasync] at htrue
    cases htrue
  rw [hmode.1, List.append_nil, outputsAt] at haccounted
  cases hcall : Host.takeOutput call with
  | ok output =>
    simp only [step, hpoint, hcall, Option.some.injEq] at hstep
    rw [← hstep]
    have htaken := keep_eq s.taken output
    refine ⟨fun _ => ⟨?_, nofun, hinputs, ?_⟩, ?_, ?_, hnever, hnever, h.bounded⟩
    · simp only [outputsAt, hmode.1, htaken, keep_eq outputs output, List.append_nil]
      rw [haccounted, List.append_assoc]
    · simp [hasync, hmode.1, hmode.2.1]
    · simp only [htaken]
      exact h.returned.trans (List.prefix_append _ _)
    · intro unit hunit
      simp only [htaken] at hunit
      rcases List.mem_append.mp hunit with hold | hnew
      · exact h.bytes unit hold
      · exact bytes_of_mem_keep hnew
  | error error =>
    simp only [step, hpoint, hcall, Option.some.injEq] at hstep
    rw [← hstep]
    split
    · have hflat : (s.returned ++ [((none : Option Int64), outputs)]).flatMap (·.2) = s.taken := by
        simp [haccounted]
      simp only [hasInput, Bool.toNat_true] at hinputs
      refine ⟨fun _ => ⟨?_, fun _ => hmode.1, ?_, ?_⟩, ?_, h.bytes, hnever, hnever, ?_⟩
      · simpa [finish, outputsAt, hmode.1] using hflat.symm
      · simpa [finish, hasInput] using hinputs
      · simp [finish, hasync, hmode.1, hmode.2.1]
      · exact ⟨[], by simpa [finish] using hflat⟩
      · simp only [finish, List.length_append, List.length_singleton]
        omega
    · exact h.fail _

theorem inv_step (h : Inv s) {turn : EncoderTurn} (hstep : s.step turn = some t) : Inv t := by
  cases turn with
  | encodeTexture sample timestamp =>
    cases hpoint : s.point <;> cases sample <;> simp only [step, hpoint, reduceCtorEq] at hstep
    · cases hstep
      exact h.fail _
    · cases hstep
      exact h.encodeTexture hpoint timestamp
  | pump late event =>
    have hpumped : ∀ pumped, s.pumpStreamEvent late event = .ok pumped → s.pumpEvent event = .ok pumped := by
      intro pumped hpump
      rw [pumpStreamEvent] at hpump
      split at hpump
      · cases hpump
      · exact hpump
    cases hpoint : s.point with
    | awaitingInput timestamp =>
      have hwaits : s.inputReady = false → s.asynchronous = true := by
        intro hready
        have hmode := (h.running (by simp [hpoint])).mode
        cases hasync : s.asynchronous with
        | true => rfl
        | false => simp [hasync, hready] at hmode
      cases hready : s.inputReady with
      | true => cases hpump : s.pumpStreamEvent late event <;> simp [step, hpoint, hpump, hready] at hstep
      | false =>
        cases hpump : s.pumpStreamEvent late event with
        | error error =>
          simp only [step, hpoint, hpump, hready, Bool.false_eq_true, if_false, Option.some.injEq] at hstep
          rw [← hstep]
          exact h.fail _
        | ok pumped =>
          simp only [step, hpoint, hpump, hready, Bool.false_eq_true, if_false, Option.some.injEq] at hstep
          rw [← hstep]
          exact (h.pumped (by simp [hpoint]) (hwaits hready) (hpumped pumped hpump)).1
    | awaitingOutput timestamp =>
      have hasync : s.asynchronous = true := by
        have hmode := (h.running (by simp [hpoint])).mode
        cases hasync : s.asynchronous with
        | true => rfl
        | false => simp [hasync, hpoint] at hmode
      cases hpump : s.pumpStreamEvent late event with
      | error error =>
        simp only [step, hpoint, hpump, Option.some.injEq] at hstep
        rw [← hstep]
        exact h.fail _
      | ok pumped =>
        simp only [step, hpoint, hpump, Option.some.injEq] at hstep
        obtain ⟨hinv, hsame, hmode⟩ := h.pumped (by simp [hpoint]) hasync (hpumped pumped hpump)
        rw [← hstep]
        exact hinv.awaitOutput (hmode.trans hasync) (hsame.trans hpoint)
    | idle => simp [step, hpoint] at hstep
    | takingOutputs outputs => simp [step, hpoint] at hstep
    | failed error => simp [step, hpoint] at hstep
  | processInput result =>
    cases hpoint : s.point with
    | awaitingInput timestamp =>
      cases hready : s.inputReady with
      | true => exact h.processInput hpoint hready result hstep
      | false => cases result <;> simp [step, hpoint, hready] at hstep
    | idle => simp [step, hpoint] at hstep
    | awaitingOutput timestamp => simp [step, hpoint] at hstep
    | takingOutputs outputs => simp [step, hpoint] at hstep
    | failed error => simp [step, hpoint] at hstep
  | takeOutput call =>
    cases hpoint : s.point with
    | takingOutputs outputs => exact h.takeOutput hpoint call hstep
    | idle => simp [step, hpoint] at hstep
    | awaitingInput timestamp => simp [step, hpoint] at hstep
    | awaitingOutput timestamp => simp [step, hpoint] at hstep
    | failed error => simp [step, hpoint] at hstep

theorem awaitOutput_asynchronous (timestamp : Int64) :
    (s.awaitOutput timestamp).asynchronous = s.asynchronous := by
  rw [HardwareEncoder.awaitOutput]
  split <;> rfl

theorem pumpStreamEvent_asynchronous {late : Bool} {event : EncoderEvent}
    (h : s.pumpStreamEvent late event = .ok t) : t.asynchronous = s.asynchronous := by
  rw [pumpStreamEvent] at h
  split at h
  · cases h
  · rcases pumpEvent_cases h with rfl | rfl | ⟨output, rfl⟩ <;> rfl

theorem step_asynchronous {turn : EncoderTurn} (hstep : s.step turn = some t) :
    t.asynchronous = s.asynchronous := by
  cases turn with
  | encodeTexture sample timestamp =>
    simp only [step] at hstep
    split at hstep <;> cases hstep <;> rfl
  | pump late event =>
    simp only [step] at hstep
    split at hstep
    · split at hstep <;> cases hstep
      rfl
    · split at hstep <;> cases hstep
      exact pumpStreamEvent_asynchronous ‹_›
    · cases hstep
      rfl
    · cases hstep
      rw [awaitOutput_asynchronous]
      exact pumpStreamEvent_asynchronous ‹_›
    · cases hstep
  | processInput result =>
    simp only [step] at hstep
    split at hstep
    · split at hstep <;> cases hstep
      rfl
    · split at hstep
      · cases hstep
      · split at hstep <;> cases hstep <;> rfl
    · cases hstep
  | takeOutput call =>
    simp only [step] at hstep
    split at hstep
    · cases hstep
      rfl
    · cases hstep
      split <;> rfl
    · cases hstep

theorem pumpStreamEvent_returned {late : Bool} {event : EncoderEvent}
    (h : s.pumpStreamEvent late event = .ok t) : t.returned = s.returned := by
  rw [pumpStreamEvent] at h
  split at h
  · cases h
  · rcases pumpEvent_cases h with rfl | rfl | ⟨output, rfl⟩ <;> rfl

/-- A step returns from one call or from none. -/
theorem step_returned {turn : EncoderTurn} (hstep : s.step turn = some t) :
    t.returned = s.returned ∨ t.point = .idle ∧ ∃ result, t.returned = s.returned ++ [result] := by
  cases turn with
  | encodeTexture sample timestamp =>
    simp only [step] at hstep
    split at hstep <;> cases hstep <;> exact .inl rfl
  | pump late event =>
    simp only [step] at hstep
    split at hstep
    · split at hstep <;> cases hstep
      exact .inl rfl
    · split at hstep <;> cases hstep
      exact .inl (pumpStreamEvent_returned ‹_›)
    · cases hstep
      exact .inl rfl
    · rename_i timestamp pumped hpoint hpump
      cases hstep
      have hsame := pumpStreamEvent_returned hpump
      rw [HardwareEncoder.awaitOutput]
      split
      · exact .inr ⟨rfl, (some timestamp, pumped.pendingOutputs), by simp [finish, hsame]⟩
      · exact .inl hsame
    · cases hstep
  | processInput result =>
    simp only [step] at hstep
    split at hstep
    · split at hstep <;> cases hstep
      exact .inl rfl
    · split at hstep
      · cases hstep
      · split at hstep <;> cases hstep <;> exact .inl rfl
    · cases hstep
  | takeOutput call =>
    simp only [step] at hstep
    split at hstep
    · cases hstep
      exact .inl rfl
    · cases hstep
      split
      · exact .inr ⟨rfl, _, rfl⟩
      · exact .inl rfl
    · cases hstep

/-- In every run of the encoder, the calls have returned the units that the transform gave, in order and
without one missing between the calls, none of them empty; each call put one texture in. A call of an
asynchronous encoder did so on a request of its own and came back with a unit no older than the texture. -/
theorem encoder_lockstep {asynchronous : Bool} {turns : List EncoderTurn}
    (hrun : machine.run (start asynchronous) turns = some s) :
    s.returned.flatMap (·.2) <+: s.taken ∧ (s.point = .idle → s.returned.flatMap (·.2) = s.taken) ∧
      (∀ unit ∈ s.taken, unit.bytes ≠ []) ∧
      s.returned.length ≤ s.inputs ∧ s.inputs ≤ s.returned.length + 1 ∧
      (asynchronous = true → s.inputs ≤ s.requests ∧
        ∀ result ∈ s.returned, ∃ timestamp, result.1 = some timestamp ∧
          ∃ unit ∈ result.2, reaches timestamp unit = true) := by
  have hrunInv : Inv s ∧ s.asynchronous = asynchronous := by
    apply machine.run_invariant (fun s => Inv s ∧ s.asynchronous = asynchronous) ?_
      ⟨inv_start asynchronous, rfl⟩ hrun
    intro s turn t hbefore hstep
    exact ⟨inv_step hbefore.1 hstep, (step_asynchronous hstep).trans hbefore.2⟩
  obtain ⟨hinv, hmode⟩ := hrunInv
  refine ⟨hinv.returned, ?_, hinv.bytes, hinv.bounded.1, hinv.bounded.2, ?_⟩
  · intro hidle
    have hrunning := hinv.running (by simp [hidle])
    have haccounted := hrunning.accounted
    rw [hidle, hrunning.idle hidle] at haccounted
    simpa [outputsAt] using haccounted.symm
  · rintro rfl
    exact ⟨Nat.le_of_add_right_le (hinv.requested hmode), hinv.answered hmode⟩

/-- The transform asks for input, changes its stream, and gives the unit of the texture. -/
def firstTexture : List EncoderTurn :=
  [.encodeTexture (.ok ()) 5, .pump false .noEvents, .pump false .needInput, .processInput (.ok ()),
    .pump false (.haveOutput ⟨.ok true, .ok (), .streamChange (.ok ())⟩),
    .pump false (.haveOutput ⟨.ok true, .ok (), .sample (some ⟨.ok [0, 0, 1, 0x65], some 1, some 5, some 2⟩)⟩)]

theorem encoder_lockstep_firstTexture : ∃ s, machine.run (start true) firstTexture = some s ∧
    s.returned = [(some 5, [⟨[0, 0, 1, 0x65], some 5, some 2, true⟩])] ∧
      s.returned.flatMap (·.2) = s.taken := by
  refine ⟨_, rfl, by decide, ?_⟩
  exact (@encoder_lockstep _ true firstTexture rfl).2.1 rfl

end LadoFlow.Host.HardwareEncoder
