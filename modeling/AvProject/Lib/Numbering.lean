import Mathlib.Data.List.Induction
import Mathlib.Data.Nat.ModEq

/-!
Numbers that a counter gives out. The counter has a modulus, as a machine integer has; what
is numbered without a gap is told by how many numbers it has given out, whatever it has been
asked for in between.
-/

namespace AvProject.Lib

variable {modulus start counter skipped n : ℕ} {numbers : List ℕ}

/-- The numbers are those from `start` on, one after the other. -/
def NumberedFrom (modulus start : ℕ) (numbers : List ℕ) : Prop :=
  numbers = (List.range numbers.length).map fun i => (start + i) % modulus

instance (modulus start : ℕ) (numbers : List ℕ) : Decidable (NumberedFrom modulus start numbers) :=
  inferInstanceAs (Decidable (_ = _))

theorem numberedFrom_nil (modulus start : ℕ) : NumberedFrom modulus start [] := rfl

theorem numberedFrom_append_one :
    NumberedFrom modulus start (numbers ++ [n]) ↔
      NumberedFrom modulus start numbers ∧ n = (start + numbers.length) % modulus := by
  rw [NumberedFrom, NumberedFrom, List.length_append, List.length_singleton, List.range_succ,
    List.map_append, List.map_singleton]
  constructor
  · intro h
    obtain ⟨hinit, hlast⟩ := List.append_inj h (by rw [List.length_map, List.length_range])
    exact ⟨hinit, (List.cons.inj hlast).1⟩
  · rintro ⟨hinit, rfl⟩
    rw [← hinit]

theorem NumberedFrom.getElem? (h : NumberedFrom modulus start numbers) {i : ℕ}
    (hn : numbers[i]? = some n) : n = (start + i) % modulus := by
  rw [h, List.getElem?_map, Option.map_eq_some_iff] at hn
  obtain ⟨j, hj, rfl⟩ := hn
  obtain ⟨hlt, hrange⟩ := List.getElem?_eq_some_iff.mp hj
  rw [← hrange, List.getElem_range]

theorem NumberedFrom.initial {first : List ℕ} (h : NumberedFrom modulus start numbers)
    (hinitial : first <+: numbers) : NumberedFrom modulus start first := by
  obtain ⟨rest, rfl⟩ := hinitial
  induction rest using List.reverseRecOn with
  | nil =>
      rw [List.append_nil] at h
      exact h
  | append_singleton rest n ih =>
      rw [← List.append_assoc] at h
      exact ih (numberedFrom_append_one.mp h).1

/-- Neighbours have neighbouring numbers. -/
theorem NumberedFrom.next (h : NumberedFrom modulus start numbers) {i m : ℕ}
    (hm : numbers[i]? = some m) (hn : numbers[i + 1]? = some n) : n = (m + 1) % modulus := by
  rw [h.getElem? hm, h.getElem? hn, Nat.mod_add_mod, Nat.add_assoc]

/-! ### A counter that also skips numbers -/

/-- The counter after it has given out these numbers and skipped so many. -/
structure CountsFrom (modulus start : ℕ) (counter skipped : ℕ) (numbers : List ℕ) : Prop where
  counter_eq : counter = (start + (numbers.length + skipped)) % modulus
  numbered : skipped = 0 → NumberedFrom modulus start numbers

theorem CountsFrom.nil (hstart : start < modulus) : CountsFrom modulus start start 0 [] where
  counter_eq := (Nat.mod_eq_of_lt hstart).symm
  numbered _ := numberedFrom_nil modulus start

/-- The next number is given out. -/
theorem CountsFrom.give (h : CountsFrom modulus start counter skipped numbers) :
    CountsFrom modulus start ((counter + 1) % modulus) skipped (numbers ++ [counter]) where
  counter_eq := by
    rw [h.counter_eq, Nat.mod_add_mod, List.length_append, List.length_singleton]
    congr 1
    omega
  numbered hnone := by
    refine numberedFrom_append_one.mpr ⟨h.numbered hnone, ?_⟩
    rw [h.counter_eq, hnone, Nat.add_zero]

/-- The next number is skipped. -/
theorem CountsFrom.skip (h : CountsFrom modulus start counter skipped numbers) :
    CountsFrom modulus start ((counter + 1) % modulus) (skipped + 1) numbers where
  counter_eq := by
    rw [h.counter_eq, Nat.mod_add_mod]
    rfl
  numbered hnone := absurd hnone (Nat.succ_ne_zero skipped)

/-- After a skipped number, what is given out next leaves a gap, unless the counter has gone
round since. -/
theorem CountsFrom.gap (h : CountsFrom modulus start counter skipped numbers)
    (hskipped : ¬ skipped ≡ 0 [MOD modulus]) :
    ¬ NumberedFrom modulus start (numbers ++ [counter]) := by
  intro hnumbered
  have hcounter := (numberedFrom_append_one.mp hnumbered).2
  rw [h.counter_eq, ← Nat.add_assoc] at hcounter
  exact hskipped (Nat.ModEq.add_left_cancel' (start + numbers.length) hcounter)

end AvProject.Lib
