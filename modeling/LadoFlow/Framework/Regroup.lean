import Mathlib.Data.Nat.Digits.Lemmas

/-!
# Regrouping bits

A stream of symbols of one width is cut into symbols of another width through a buffer that holds
the bits not yet written. Both streams, with the buffer, spell the same binary number, so the
symbols written depend on that number only.
-/

namespace Framework

/-- The number that the digits spell, most significant first. -/
def spelled (base : Nat) (digits : List Nat) : Nat := Nat.ofDigits base digits.reverse

variable {base : Nat} {digits : List Nat}

@[simp] theorem spelled_nil : spelled base [] = 0 := rfl

theorem spelled_snoc (digit : Nat) :
    spelled base (digits ++ [digit]) = spelled base digits * base + digit := by
  rw [spelled, List.reverse_append, List.reverse_singleton, List.singleton_append,
    Nat.ofDigits_cons, spelled]
  ring

theorem spelled_inj (hbase : 1 < base) {other : List Nat} (hlength : digits.length = other.length)
    (hdigits : ∀ digit ∈ digits, digit < base) (hother : ∀ digit ∈ other, digit < base)
    (h : spelled base digits = spelled base other) : digits = other := by
  apply List.reverse_injective
  apply Nat.ofDigits_inj_of_len_eq hbase
  · rw [List.length_reverse, List.length_reverse, hlength]
  · exact fun digit hdigit => hdigits digit (List.mem_reverse.mp hdigit)
  · exact fun digit hdigit => hother digit (List.mem_reverse.mp hdigit)
  · exact h

theorem spelled_lt (hbase : 1 < base) (hdigits : ∀ digit ∈ digits, digit < base) :
    spelled base digits < base ^ digits.length := by
  have hlt := Nat.ofDigits_lt_base_pow_length hbase fun digit hdigit =>
    hdigits digit (List.mem_reverse.mp hdigit)
  rw [List.length_reverse] at hlt
  exact hlt

theorem spelled_append (front back : List Nat) :
    spelled base (front ++ back) = spelled base front * base ^ back.length + spelled base back := by
  rw [spelled, List.reverse_append, Nat.ofDigits_append, List.length_reverse, spelled, spelled]
  ring

/-- Digits in groups of one length are digits to a power of the base. -/
theorem spelled_flatten {width : Nat} {groups : List (List Nat)}
    (h : ∀ group ∈ groups, group.length = width) :
    spelled base groups.flatten = spelled (base ^ width) (groups.map (spelled base)) := by
  induction groups using List.reverseRecOn with
  | nil => rfl
  | append_singleton groups group ih =>
    have hgroups : ∀ other ∈ groups, other.length = width :=
      fun other hother => h other (List.mem_append_left _ hother)
    have hgroup : group.length = width := h group (by simp)
    rw [List.flatten_append, List.flatten_singleton, spelled_append, ih hgroups, hgroup,
      List.map_append, List.map_singleton, spelled_snoc]

/-- The `read` symbols are the `written` ones and the `bits` low bits that the buffer holds. -/
structure Regrouped (source target : Nat) (read written : List Nat) (buffer bits : Nat) :
    Prop where
  value : spelled (2 ^ source) read = spelled (2 ^ target) written * 2 ^ bits + buffer
  buffered : buffer < 2 ^ bits
  length : read.length * source = written.length * target + bits
  digits : ∀ digit ∈ written, digit < 2 ^ target

variable {source target buffer bits : Nat} {read written : List Nat}

theorem regrouped_nil : Regrouped source target [] [] 0 0 :=
  ⟨rfl, by simp, by simp, by simp⟩

theorem Regrouped.read_symbol (h : Regrouped source target read written buffer bits) {symbol : Nat}
    (hsymbol : symbol < 2 ^ source) :
    Regrouped source target (read ++ [symbol]) written (buffer * 2 ^ source + symbol)
      (bits + source) := by
  refine ⟨?_, ?_, ?_, h.digits⟩
  · rw [spelled_snoc, h.value, Nat.pow_add]
    ring
  · have hroom : (buffer + 1) * 2 ^ source ≤ 2 ^ bits * 2 ^ source :=
      Nat.mul_le_mul_right _ h.buffered
    rw [Nat.add_mul, Nat.one_mul] at hroom
    rw [Nat.pow_add]
    omega
  · have hlength := h.length
    rw [List.length_append, List.length_singleton, Nat.add_mul, Nat.one_mul]
    omega

/-- The top `target` bits of the buffer are the next symbol. -/
theorem Regrouped.write_symbol
    (h : Regrouped source target read written buffer (bits + target)) :
    Regrouped source target read (written ++ [buffer / 2 ^ bits]) (buffer % 2 ^ bits) bits := by
  have hpos : 0 < 2 ^ bits := Nat.two_pow_pos bits
  have hbuffered := h.buffered
  refine ⟨?_, Nat.mod_lt _ hpos, ?_, ?_⟩
  · have hsplit := Nat.div_add_mod buffer (2 ^ bits)
    rw [spelled_snoc, h.value, Nat.pow_add]
    calc spelled (2 ^ target) written * (2 ^ bits * 2 ^ target) + buffer
        = spelled (2 ^ target) written * (2 ^ bits * 2 ^ target) +
          (2 ^ bits * (buffer / 2 ^ bits) + buffer % 2 ^ bits) := by rw [hsplit]
      _ = _ := by ring
  · have hlength := h.length
    rw [List.length_append, List.length_singleton, Nat.add_mul, Nat.one_mul]
    omega
  · intro digit hdigit
    cases List.mem_append.mp hdigit with
    | inl hold => exact h.digits digit hold
    | inr hnew =>
      rw [List.mem_singleton.mp hnew]
      apply Nat.div_lt_of_lt_mul
      rw [← Nat.pow_add]
      exact hbuffered

/-- An empty buffer holds nothing back. -/
theorem Regrouped.complete (h : Regrouped source target read written buffer 0) :
    spelled (2 ^ target) written = spelled (2 ^ source) read := by
  have hbuffered := h.buffered
  have hvalue := h.value
  rw [Nat.pow_zero] at hbuffered hvalue
  omega

end Framework
