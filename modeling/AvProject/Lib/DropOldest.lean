import Mathlib.Data.List.Infix

/-!
Bounded queues in which a new entry pushes out the oldest one. What such a queue promises is
said about three lists: the entries that came in, those that were taken out at the front, and
those that wait. Entries may be equal, so nothing is said about them by value.
-/

namespace AvProject.Lib

variable {α : Type*} {limit : ℕ} {entered taken waiting : List α} {x : α}

/-- What came out and what waits are entries in their order, each once, and none of the last
`limit` entries is missing. -/
structure KeepsLatest (limit : ℕ) (entered taken waiting : List α) : Prop where
  bounded : waiting.length ≤ limit
  suffix : waiting <:+ entered
  sublist : (taken ++ waiting).Sublist entered
  latest : entered.drop (entered.length - limit) <:+ taken ++ waiting

theorem append_suffix_append {first second : List α} (h : first <:+ second) (rest : List α) :
    first ++ rest <:+ second ++ rest := by
  obtain ⟨before, rfl⟩ := h
  rw [List.append_assoc]
  exact List.suffix_append before _

/-- The last entries, with one more behind them. -/
theorem drop_latest_append (hlimit : 0 < limit) (entered : List α) (x : α) :
    (entered ++ [x]).drop ((entered ++ [x]).length - limit) =
      entered.drop (entered.length + 1 - limit) ++ [x] := by
  rw [List.length_append, List.length_singleton, List.drop_append_of_le_length (by omega)]

namespace KeepsLatest

theorem nil (limit : ℕ) : KeepsLatest limit ([] : List α) [] [] where
  bounded := Nat.zero_le _
  suffix := List.suffix_rfl
  sublist := List.Sublist.refl _
  latest := by rw [List.drop_nil]; exact List.nil_suffix

/-- The front is taken out. -/
theorem take (h : KeepsLatest limit entered taken (x :: waiting)) :
    KeepsLatest limit entered (taken ++ [x]) waiting where
  bounded := (Nat.le_succ _).trans h.bounded
  suffix := (List.suffix_cons x waiting).trans h.suffix
  sublist := by
    rw [List.append_assoc]
    exact h.sublist
  latest := by
    rw [List.append_assoc]
    exact h.latest

/-- A new entry where there is room for it. -/
theorem push (h : KeepsLatest limit entered taken waiting) (hroom : waiting.length < limit)
    (x : α) : KeepsLatest limit (entered ++ [x]) taken (waiting ++ [x]) where
  bounded := by
    rw [List.length_append, List.length_singleton]
    exact hroom
  suffix := append_suffix_append h.suffix [x]
  sublist := by
    rw [← List.append_assoc]
    exact h.sublist.append_right [x]
  latest := by
    have hfewer : entered.drop (entered.length + 1 - limit) <:+
        entered.drop (entered.length - limit) := List.drop_suffix_drop_left entered (by omega)
    rw [drop_latest_append (Nat.zero_lt_of_lt hroom), ← List.append_assoc]
    exact append_suffix_append (hfewer.trans h.latest) [x]

/-- A new entry that pushes out the oldest one. -/
theorem pushOut (h : KeepsLatest limit entered taken waiting) (hlimit : 0 < limit)
    (hfull : waiting.length = limit) (x : α) :
    KeepsLatest limit (entered ++ [x]) taken (waiting.tail ++ [x]) where
  bounded := by
    rw [List.length_append, List.length_tail, List.length_singleton]
    omega
  suffix := append_suffix_append ((List.tail_suffix waiting).trans h.suffix) [x]
  sublist := by
    rw [← List.append_assoc]
    exact ((List.Sublist.refl taken).append (List.tail_sublist waiting)).trans h.sublist
      |>.append_right [x]
  latest := by
    obtain ⟨before, rfl⟩ := h.suffix
    -- the last `limit` entries are those that wait, and the first of them leaves
    have htail : (before ++ waiting).drop ((before ++ waiting).length + 1 - limit) =
        waiting.tail := by
      rw [List.length_append, hfull, show before.length + limit + 1 - limit =
        before.length + 1 by omega, ← List.drop_drop, List.drop_left, List.drop_one]
    rw [drop_latest_append hlimit, htail, ← List.append_assoc]
    exact append_suffix_append (List.suffix_append taken _) [x]

/-- An entry that is missing is followed by as many others as the queue may hold. -/
theorem le_length_of_lost (h : KeepsLatest limit entered taken waiting) {earlier later : List α}
    (hentered : entered = earlier ++ x :: later) (hlost : x ∉ taken ++ waiting) :
    limit ≤ later.length := by
  by_contra hfew
  have hmem : x ∈ entered.drop (entered.length - limit) := by
    rw [hentered, List.length_append, List.length_cons,
      List.drop_append_of_le_length (by omega)]
    exact List.mem_append_right _ List.mem_cons_self
  exact hlost (h.latest.subset hmem)

end KeepsLatest

end AvProject.Lib
