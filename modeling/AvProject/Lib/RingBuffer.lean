import AvProject.Lib.RecentWindow
import Mathlib.Tactic

/-!
A ring of cells that holds the last values written to it. The cells are read in two segments
once the ring has filled up; what is read is a plain window over the values.
-/

namespace AvProject.Lib

variable {α : Type*}

/-- The last `capacity` of the values. -/
def lastOf (capacity : ℕ) (values : List α) : List α := values.drop (values.length - capacity)

/-- The cells in the order in which they were written. -/
def ringContents (capacity : ℕ) (cells : List α) (next count : ℕ) : List α :=
  if count < capacity then cells.take count else cells.drop next ++ cells.take next

/-- A ring to which these values have been written, from the first cell on. -/
structure RingHolds (capacity : ℕ) (cells : List α) (next count : ℕ) (values : List α) :
    Prop where
  length_cells : cells.length = capacity
  next_eq : next = values.length % capacity
  count_eq : count = min values.length capacity
  contents : ringContents capacity cells next count = lastOf capacity values

section

variable {capacity : ℕ} {cells values : List α} {next count : ℕ}

theorem length_lastOf (capacity : ℕ) (values : List α) :
    (lastOf capacity values).length = min values.length capacity := by
  rw [lastOf, List.length_drop]
  omega

theorem lastOf_of_le (h : values.length ≤ capacity) : lastOf capacity values = values := by
  rw [lastOf, Nat.sub_eq_zero_of_le h, List.drop_zero]

/-- A window is pushed to by dropping what does not fit any more. -/
theorem lastOf_append (capacity : ℕ) (values : List α) (x : α) :
    lastOf capacity (values ++ [x]) = pushRecent capacity (lastOf capacity values) x := by
  rw [lastOf, pushRecent, lastOf, ← List.drop_append_of_le_length (by omega), List.drop_drop,
    List.length_append, List.length_singleton, List.length_drop]
  congr 1
  omega

theorem RingHolds.empty {cell : α} (capacity : ℕ) :
    RingHolds capacity (List.replicate capacity cell) 0 0 [] where
  length_cells := List.length_replicate
  next_eq := (Nat.zero_mod _).symm
  count_eq := (Nat.zero_min _).symm
  contents := by
    rw [ringContents, lastOf, List.drop_nil, List.drop_zero, List.take_zero]
    split
    · rfl
    · rename_i hfull
      rw [Nat.le_zero.mp (Nat.le_of_not_lt hfull)]
      rfl

/-- A value overwrites the oldest one once the ring is full. -/
theorem RingHolds.write (h : RingHolds capacity cells next count values)
    (hcapacity : 0 < capacity) (x : α) :
    RingHolds capacity (cells.set next x) ((next + 1) % capacity)
      (if count < capacity then count + 1 else count) (values ++ [x]) := by
  have hnext : next < capacity := by
    rw [h.next_eq]
    exact Nat.mod_lt _ hcapacity
  have hlength := h.length_cells
  refine ⟨by rw [List.length_set, hlength], ?_, ?_, ?_⟩
  · rw [List.length_append, List.length_singleton, h.next_eq, Nat.mod_add_mod]
  · rw [List.length_append, List.length_singleton, h.count_eq]
    split <;> omega
  have htake : (cells.set next x).take (next + 1) = cells.take next ++ [x] := by
    rw [List.take_succ_eq_append_getElem (by rw [List.length_set]; omega),
      List.take_set_of_le le_rfl, List.getElem_set_self]
  have hdrop : (cells.set next x).drop (next + 1) = cells.drop (next + 1) :=
    List.drop_set_of_lt (Nat.lt_succ_self next)
  have hcontents := h.contents
  rw [lastOf_append, ← hcontents, pushRecent, hcontents, length_lastOf, ← hcontents]
  by_cases hroom : count < capacity
  · -- the ring is being filled
    have hcount : count = values.length := by
      have hmin := h.count_eq
      omega
    have hnextCount : next = count := by
      rw [h.next_eq, ← hcount, Nat.mod_eq_of_lt hroom]
    have hkept : min values.length capacity + 1 - capacity = 0 := by omega
    rw [if_pos hroom, hkept, List.drop_zero, ringContents, ringContents, if_pos hroom,
      ← hnextCount, ← htake]
    split
    · rfl
    · -- with this value it is full
      rename_i hfull
      have hwrap : next + 1 = capacity := by omega
      rw [hwrap, Nat.mod_self, List.drop_zero, List.take_zero, List.append_nil,
        List.take_of_length_le]
      rw [List.length_set]
      exact hlength.le
  · have hfull : min values.length capacity + 1 - capacity = 1 := by
      have hmin := h.count_eq
      omega
    rw [if_neg hroom, hfull, ringContents, ringContents, if_neg hroom, if_neg hroom,
      List.append_assoc, ← htake, List.drop_append_of_le_length (by rw [List.length_drop]; omega),
      List.drop_drop, ← hdrop]
    rcases Nat.lt_or_ge (next + 1) capacity with hin | hend
    · rw [Nat.mod_eq_of_lt hin]
    · have hwrap : next + 1 = capacity := by omega
      rw [hwrap, Nat.mod_self, List.drop_zero, List.take_zero, List.append_nil,
        List.drop_of_length_le (by rw [List.length_set]; exact hlength.le), List.nil_append,
        List.take_of_length_le (by rw [List.length_set]; exact hlength.le)]

end

end AvProject.Lib
