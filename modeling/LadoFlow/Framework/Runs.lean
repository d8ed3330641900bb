import Mathlib.Data.Finset.Max
import Mathlib.Data.List.Dedup
import Mathlib.Data.List.Destutter
import Mathlib.Order.Defs.LinearOrder
import Mathlib.Tactic.Common

/-!
# Runs of equal values in an order

Elements are ordered by a key and carry a value. Removing neighbours of equal value from their sorted list
keeps the first element of every run, and only runs tell whether a value is kept twice.
-/

namespace Framework

section Starts

variable {α κ β : Type} [LinearOrder κ] (key : α → κ) (value : α → β) (l : List α)

/-- An element starts a run: between it and any earlier element of its value lies another element. -/
def StartsRun (x : α) : Prop :=
  x ∈ l ∧ ∀ y ∈ l, key y < key x → value y = value x → ∃ z ∈ l, key y < key z ∧ key z < key x

instance [DecidableEq α] [DecidableEq β] (x : α) : Decidable (StartsRun key value l x) := by
  unfold StartsRun
  infer_instance

variable {key value l}

theorem StartsRun.congr {l' : List α} (hmem : ∀ x, x ∈ l ↔ x ∈ l') (x : α) :
    StartsRun key value l x ↔ StartsRun key value l' x := by
  simp only [StartsRun, hmem]

/-- An element next to a smaller one of its value does not start a run. -/
theorem not_startsRun {last x : α} (hlast : last ∈ l) (hlt : key last < key x)
    (hvalue : value last = value x) (hnext : ∀ z ∈ l, ¬key z ≤ key last → key x ≤ key z) :
    ¬StartsRun key value l x := by
  intro hstarts
  obtain ⟨z, hz, hlow, hhigh⟩ := hstarts.2 last hlast hlt hvalue
  exact absurd (hnext z hz (not_le.mpr hlow)) (not_le.mpr hhigh)

/-- An element next to a smaller one of another value starts a run. -/
theorem startsRun_of_next (hinj : ∀ x ∈ l, ∀ y ∈ l, key x = key y → x = y) {last x : α}
    (hlast : last ∈ l) (hmem : x ∈ l) (hlt : key last < key x) (hvalue : value last ≠ value x)
    (hnext : ∀ z ∈ l, ¬key z ≤ key last → key x ≤ key z) : StartsRun key value l x := by
  refine ⟨hmem, ?_⟩
  intro y hy hbelow hsame
  have hbefore : key y ≤ key last := by
    by_contra hnot
    exact absurd (hnext y hy hnot) (not_le.mpr hbelow)
  refine ⟨last, hlast, lt_of_le_of_ne hbefore ?_, hlt⟩
  intro heq
  rw [hinj y hy last hlast heq] at hsame
  exact hvalue hsame

end Starts

section Sorted

variable {α κ β : Type} [LinearOrder κ] [DecidableEq β] {key : α → κ} {value : α → β} {l : List α}

/-- From the last element of a run on, the elements that are kept after it are the later starts. -/
theorem destutter'_starts (hinj : ∀ x ∈ l, ∀ y ∈ l, key x = key y → x = y) {rest : List α}
    {last kept : α} (hlast : last ∈ l) (hsame : value kept = value last)
    (hrest : ∀ y ∈ rest, y ∈ l) (hsplit : ∀ y ∈ l, key y ≤ key last ∨ y ∈ rest)
    (hsorted : (last :: rest).Pairwise fun x y => key x ≤ key y) :
    ∃ later, rest.destutter' (fun x y => value x ≠ value y) kept = kept :: later ∧
      later.Pairwise (fun x y => key x < key y) ∧
      ∀ x, x ∈ later ↔ x ∈ rest ∧ key last < key x ∧ StartsRun key value l x := by
  induction rest generalizing last kept with
  | nil => exact ⟨[], rfl, .nil, by simp⟩
  | cons b rest ih =>
    obtain ⟨habove, hsorted⟩ := List.pairwise_cons.mp hsorted
    obtain ⟨hb, -⟩ := List.pairwise_cons.mp hsorted
    have hle := habove b List.mem_cons_self
    have hmem := hrest b List.mem_cons_self
    have hrest' : ∀ y ∈ rest, y ∈ l := fun y hy => hrest y (List.mem_cons_of_mem b hy)
    have hsplit' : ∀ y ∈ l, key y ≤ key b ∨ y ∈ rest := by
      intro y hy
      rcases hsplit y hy with hbefore | hafter
      · exact .inl (hbefore.trans hle)
      · rcases List.mem_cons.mp hafter with rfl | hafter
        · exact .inl le_rfl
        · exact .inr hafter
    have hupper : ∀ x ∈ l, ¬key x ≤ key last → key b ≤ key x := by
      intro x hx hnot
      rcases List.mem_cons.mp ((hsplit x hx).resolve_left hnot) with rfl | hafter
      · exact le_rfl
      · exact hb x hafter
    by_cases hvalue : value kept = value b
    · obtain ⟨later, hlist, hincreasing, hmembers⟩ :=
        ih hmem hvalue hrest' hsplit' hsorted
      refine ⟨later, by rw [List.destutter'_cons_neg _ (by simpa using hvalue), hlist], hincreasing, ?_⟩
      -- the next element continues the run, so it is not a start
      have hcontinues : key last < key b → ¬StartsRun key value l b := by
        intro hlt
        exact not_startsRun hlast hlt (hsame.symm.trans hvalue) hupper
      intro x
      rw [hmembers]
      constructor
      · rintro ⟨hx, hlt, hstarts⟩
        exact ⟨List.mem_cons_of_mem b hx, hle.trans_lt hlt, hstarts⟩
      · rintro ⟨hx, hlt, hstarts⟩
        have hne : x ≠ b := by
          rintro rfl
          exact hcontinues hlt hstarts
        have hafter := (List.mem_cons.mp hx).resolve_left hne
        refine ⟨hafter, lt_of_le_of_ne (hb x hafter) ?_, hstarts⟩
        intro heq
        exact hne (hinj b hmem x (hrest' x hafter) heq).symm
    · obtain ⟨later, hlist, hincreasing, hmembers⟩ := ih hmem rfl hrest' hsplit' hsorted
      have hne : last ≠ b := by
        rintro rfl
        exact hvalue hsame
      have hlt : key last < key b := lt_of_le_of_ne hle fun heq => hne (hinj last hlast b hmem heq)
      have hchanges : value last ≠ value b := fun heq => hvalue (hsame.trans heq)
      have hstart := startsRun_of_next hinj hlast hmem hlt hchanges hupper
      refine ⟨b :: later, by rw [List.destutter'_cons_pos _ (by simpa using hvalue), hlist], ?_, ?_⟩
      · refine List.pairwise_cons.mpr ⟨?_, hincreasing⟩
        intro x hx
        exact ((hmembers x).mp hx).2.1
      · intro x
        rw [List.mem_cons, hmembers]
        constructor
        · rintro (rfl | ⟨hx, hbelow, hstarts⟩)
          · exact ⟨List.mem_cons_self, hlt, hstart⟩
          · exact ⟨List.mem_cons_of_mem b hx, hlt.trans hbelow, hstarts⟩
        · rintro ⟨hx, -, hstarts⟩
          rcases List.mem_cons.mp hx with rfl | hafter
          · exact .inl rfl
          · by_cases heq : key b = key x
            · exact .inl (hinj b hmem x (hrest' x hafter) heq).symm
            · exact .inr ⟨hafter, lt_of_le_of_ne (hb x hafter) heq, hstarts⟩

/-- Of a sorted list the starts of the runs are kept, each once. -/
theorem destutter_starts (hinj : ∀ x ∈ l, ∀ y ∈ l, key x = key y → x = y)
    (hsorted : l.Pairwise fun x y => key x ≤ key y) :
    (l.destutter fun x y => value x ≠ value y).Pairwise (fun x y => key x < key y) ∧
      ∀ x, x ∈ l.destutter (fun x y => value x ≠ value y) ↔ StartsRun key value l x := by
  cases l with
  | nil => simp [StartsRun]
  | cons first rest =>
    obtain ⟨hfirst, -⟩ := List.pairwise_cons.mp hsorted
    have hsplit : ∀ y ∈ first :: rest, key y ≤ key first ∨ y ∈ rest := by
      intro y hy
      exact (List.mem_cons.mp hy).imp_left fun heq => by rw [heq]
    obtain ⟨later, hlist, hincreasing, hmembers⟩ :=
      @destutter'_starts α κ β _ _ key value (first :: rest) hinj rest first first
        List.mem_cons_self rfl (fun y hy => List.mem_cons_of_mem first hy) hsplit hsorted
    rw [List.destutter_cons', hlist]
    constructor
    · refine List.pairwise_cons.mpr ⟨?_, hincreasing⟩
      intro x hx
      exact ((hmembers x).mp hx).2.1
    · intro x
      rw [List.mem_cons, hmembers]
      constructor
      · rintro (rfl | ⟨-, -, hstarts⟩)
        · refine ⟨List.mem_cons_self, ?_⟩
          intro y hy hbelow
          rcases List.mem_cons.mp hy with rfl | hy
          · exact absurd hbelow (lt_irrefl _)
          · exact absurd (hfirst y hy) (not_le.mpr hbelow)
        · exact hstarts
      · intro hstarts
        rcases List.mem_cons.mp hstarts.1 with rfl | hx
        · exact .inl rfl
        · by_cases heq : key first = key x
          · exact .inl (hinj first List.mem_cons_self x hstarts.1 heq).symm
          · exact .inr ⟨hx, lt_of_le_of_ne (hfirst x hx) heq, hstarts⟩

end Sorted

section Position

variable {α κ β : Type} [LinearOrder κ] {key : α → κ} {value : α → β} {l : List α}

/-- The place of an element of an increasing list is the number of elements before it in the order. -/
theorem mem_take_iff (hincreasing : l.Pairwise fun x y => key x < key y) {x : α} (hx : x ∈ l)
    (n : Nat) : x ∈ l.take n ↔ l.countP (key · < key x) < n := by
  obtain ⟨before, after, rfl⟩ := List.append_of_mem hx
  obtain ⟨-, hrest, hacross⟩ := List.pairwise_append.mp hincreasing
  obtain ⟨habove, -⟩ := List.pairwise_cons.mp hrest
  have hbelow : ∀ y ∈ before, key y < key x := fun y hy => hacross y hy x List.mem_cons_self
  have hcount : (before ++ x :: after).countP (key · < key x) = before.length := by
    have hall : before.countP (key · < key x) = before.length :=
      List.countP_eq_length.mpr fun y hy => by simpa using hbelow y hy
    have hnone : (x :: after).countP (key · < key x) = 0 := by
      apply List.countP_eq_zero.mpr
      intro y hy
      rcases List.mem_cons.mp hy with rfl | hy
      · simp
      · simpa using (habove y hy).le
    rw [List.countP_append, hall, hnone, Nat.add_zero]
  rw [hcount, List.take_append, List.mem_append]
  constructor
  · rintro (hbefore | hafter)
    · exact absurd (hbelow x (List.mem_of_mem_take hbefore)) (lt_irrefl _)
    · by_contra hnot
      rw [Nat.sub_eq_zero_of_le (Nat.le_of_not_lt hnot)] at hafter
      cases hafter
  · intro hlt
    right
    obtain ⟨rest, hrest⟩ := Nat.exists_eq_succ_of_ne_zero (Nat.sub_ne_zero_of_lt hlt)
    rw [hrest]
    exact List.mem_cons_self

/-- The values of the first elements are distinct when a value comes back only behind them. -/
theorem nodup_take_iff (hincreasing : l.Pairwise fun x y => key x < key y) (n : Nat) :
    ((l.take n).map value).Nodup ↔
      ∀ x ∈ l, ∀ y ∈ l, key x < key y → value x = value y → n ≤ l.countP (key · < key y) := by
  rw [List.Nodup, List.pairwise_map]
  constructor
  · intro hdistinct x hx y hy hlt hsame
    by_contra hfew
    rw [Nat.not_le] at hfew
    have hfewer : l.countP (key · < key x) ≤ l.countP (key · < key y) := by
      apply List.countP_mono_left
      intro z _ hz
      simp only [decide_eq_true_eq] at hz ⊢
      exact hz.trans hlt
    have hxTake := (mem_take_iff hincreasing hx n).mpr (Nat.lt_of_le_of_lt hfewer hfew)
    have hyTake := (mem_take_iff hincreasing hy n).mpr hfew
    have hne : x ≠ y := by
      rintro rfl
      exact lt_irrefl _ hlt
    have : Std.Symm fun a b : α => value a ≠ value b := ⟨fun _ _ => Ne.symm⟩
    exact hdistinct.forall hxTake hyTake hne hsame
  · intro hback
    refine (hincreasing.take (i := n)).imp_of_mem ?_
    intro x y hx hy hlt hsame
    have hyl := List.mem_of_mem_take hy
    have hfew := (mem_take_iff hincreasing hyl n).mp hy
    have hmany := hback x (List.mem_of_mem_take hx) y hyl hlt hsame
    omega

end Position

section Counting

variable {α κ β : Type} [LinearOrder κ] [DecidableEq α] [DecidableEq β] {key : α → κ} {value : α → β}
  {l : List α}

/-- How many runs start before an element. -/
def runsBefore (key : α → κ) (value : α → β) (l : List α) (x : α) : Nat :=
  l.dedup.countP fun y => StartsRun key value l y ∧ key y < key x

/-- Every value has a run. -/
theorem exists_startsRun {x : α} (hx : x ∈ l) : ∃ y, StartsRun key value l y ∧ value y = value x := by
  have hnonempty : (l.toFinset.filter fun y => value y = value x).Nonempty :=
    ⟨x, Finset.mem_filter.mpr ⟨List.mem_toFinset.mpr hx, rfl⟩⟩
  obtain ⟨y, hy, hleast⟩ := Finset.exists_min_image _ key hnonempty
  obtain ⟨hmem, hvalue⟩ := Finset.mem_filter.mp hy
  refine ⟨y, ⟨List.mem_toFinset.mp hmem, ?_⟩, hvalue⟩
  intro z hz hlt hsame
  have hle := hleast z (Finset.mem_filter.mpr ⟨List.mem_toFinset.mpr hz, hsame.trans hvalue⟩)
  exact absurd hlt (not_lt.mpr hle)

theorem runsBefore_perm {l' : List α} (h : l.Perm l') (x : α) :
    runsBefore key value l x = runsBefore key value l' x := by
  rw [runsBefore, runsBefore, h.dedup.countP_eq]
  simp only [StartsRun.congr fun _ => h.mem_iff]

/-- The first kept elements of a sorted list have distinct values just when a value that starts another run
has that many runs before it. -/
theorem nodup_take_destutter_iff (hinj : ∀ x ∈ l, ∀ y ∈ l, key x = key y → x = y)
    (hsorted : l.Pairwise fun x y => key x ≤ key y) (n : Nat) :
    (((l.destutter fun x y => value x ≠ value y).take n).map value).Nodup ↔
      ∀ x y, StartsRun key value l x → StartsRun key value l y → key x < key y → value x = value y →
        n ≤ runsBefore key value l y := by
  obtain ⟨hincreasing, hmembers⟩ := @destutter_starts α κ β _ _ key value l hinj hsorted
  have hnodup : (l.destutter fun x y => value x ≠ value y).Nodup := by
    refine hincreasing.imp ?_
    rintro x y hlt rfl
    exact lt_irrefl _ hlt
  have hperm : (l.destutter fun x y => value x ≠ value y).Perm
      (l.dedup.filter fun x => StartsRun key value l x) := by
    rw [List.perm_ext_iff_of_nodup hnodup (l.nodup_dedup.filter _)]
    intro x
    rw [hmembers, List.mem_filter, List.mem_dedup, decide_eq_true_eq]
    exact ⟨fun hstarts => ⟨hstarts.1, hstarts⟩, fun hboth => hboth.2⟩
  have hcount : ∀ y, (l.destutter fun x y => value x ≠ value y).countP (key · < key y) =
      runsBefore key value l y := by
    intro y
    rw [hperm.countP_eq, List.countP_filter, runsBefore]
    congr 1
    funext z
    simp [Bool.and_comm]
  rw [nodup_take_iff hincreasing]
  simp only [hmembers, hcount]
  constructor
  · intro h x y hx hy
    exact h x hx y hy
  · intro h x hx y hy
    exact h x y hx hy

end Counting

end Framework
