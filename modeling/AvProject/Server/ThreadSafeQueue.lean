import Mathlib.Data.List.Basic
import Mathlib.Tactic.Common

/-!
`ThreadSafeQueue`, as the lists its functions make under the queue's mutex. The two pushes
that drop elements share one loop; they differ in what they drop.
-/

namespace AvProject.Server.ThreadSafeQueue

variable {α : Type*}

/-- Removes the oldest element. -/
def dropOldest : List α → Option (α × List α)
  | [] => none
  | value :: rest => some (value, rest)

/-- Removes the oldest element that satisfies the predicate, or else the oldest. -/
def dropSelective (predicate : α → Bool) (queue : List α) : Option (α × List α) :=
  match queue.find? predicate with
  | some value => some (value, queue.eraseP predicate)
  | none => dropOldest queue

/-- The loop of the pushes, for at most `fuel` rounds: what it removes while the queue has
`maxSize` elements, and what is left. -/
def makeRoom (drop : List α → Option (α × List α)) (maxSize : ℕ) :
    ℕ → List α → List α × List α
  | 0, queue => ([], queue)
  | fuel + 1, queue =>
      if maxSize ≤ queue.length then
        match drop queue with
        | some (value, rest) =>
            let (dropped, left) := makeRoom drop maxSize fuel rest
            (value :: dropped, left)
        | none => ([], queue)
      else ([], queue)

/-- `PushDropOldestCountDropped`: what is dropped, and the queue after it. -/
def pushDropOldestCountDropped (value : α) (maxSize : ℕ) (queue : List α) : List α × List α :=
  let (dropped, left) := makeRoom dropOldest maxSize queue.length queue
  (dropped, left ++ [value])

/-- `PushDropSelective`: what is dropped, and the queue after it. -/
def pushDropSelective (value : α) (maxSize : ℕ) (predicate : α → Bool) (queue : List α) :
    List α × List α :=
  let (dropped, left) := makeRoom (dropSelective predicate) maxSize queue.length queue
  (dropped, left ++ [value])

/-- What both ways to drop have in common. -/
structure Drops (drop : List α → Option (α × List α)) : Prop where
  none_iff (queue : List α) : drop queue = none ↔ queue = []
  sublist (queue rest : List α) (value : α) : drop queue = some (value, rest) → rest.Sublist queue
  length (queue rest : List α) (value : α) :
    drop queue = some (value, rest) → queue.length = rest.length + 1

theorem drops_dropOldest : Drops (dropOldest : List α → Option (α × List α)) where
  none_iff queue := by cases queue <;> simp [dropOldest]
  sublist queue rest value h := by
    cases queue with
    | nil => cases h
    | cons head tail =>
        cases h
        exact List.sublist_cons_self value rest
  length queue rest value h := by
    cases queue with
    | nil => cases h
    | cons head tail =>
        cases h
        rfl

theorem drops_dropSelective (predicate : α → Bool) : Drops (dropSelective predicate) where
  none_iff queue := by
    rw [dropSelective]
    split
    · rename_i value hfind
      have hmem := List.mem_of_find?_eq_some hfind
      simp [List.ne_nil_of_mem hmem]
    · exact drops_dropOldest.none_iff queue
  sublist queue rest value h := by
    rw [dropSelective] at h
    split at h
    · cases h
      exact List.eraseP_sublist
    · exact drops_dropOldest.sublist queue rest value h
  length queue rest value h := by
    rw [dropSelective] at h
    split at h
    · rename_i found hfind
      cases h
      have hpos := List.length_pos_of_mem (List.mem_of_find?_eq_some hfind)
      rw [List.length_eraseP_of_mem (List.mem_of_find?_eq_some hfind) (List.find?_some hfind)]
      omega
    · exact drops_dropOldest.length queue rest value h

/-- A queue that is not over its bound loses at most one element, and only when full. -/
theorem makeRoom_cases {drop : List α → Option (α × List α)} (hdrop : Drops drop)
    {queue : List α} {maxSize : ℕ} (hmax : 0 < maxSize) (hle : queue.length ≤ maxSize) :
    (queue.length < maxSize ∧ makeRoom drop maxSize queue.length queue = ([], queue)) ∨
      (queue.length = maxSize ∧ ∃ value rest, drop queue = some (value, rest) ∧
        makeRoom drop maxSize queue.length queue = ([value], rest)) := by
  rcases Nat.lt_or_ge queue.length maxSize with hlt | hge
  · refine .inl ⟨hlt, ?_⟩
    cases queue with
    | nil => rfl
    | cons head tail => rw [List.length_cons, makeRoom, if_neg (by simpa using hlt)]
  · have hlen : queue.length = maxSize := Nat.le_antisymm hle hge
    refine .inr ⟨hlen, ?_⟩
    obtain ⟨fuel, hfuel⟩ : ∃ fuel, queue.length = fuel + 1 := ⟨maxSize - 1, by omega⟩
    cases hresult : drop queue with
    | none =>
        rw [hdrop.none_iff] at hresult
        rw [hresult] at hfuel
        cases hfuel
    | some result =>
        obtain ⟨value, rest⟩ := result
        have hrest := hdrop.length queue rest value hresult
        refine ⟨value, rest, rfl, ?_⟩
        rw [hfuel, makeRoom, if_pos hge, hresult]
        have hleft : makeRoom drop maxSize fuel rest = ([], rest) := by
          cases fuel with
          | zero => rfl
          | succ fuel => rw [makeRoom, if_neg (by omega)]
        simp only [hleft]

/-- What is dropped does not satisfy the predicate only where nothing in the queue does. -/
theorem dropSelective_eq_some {predicate : α → Bool} {queue rest : List α} {value : α}
    (h : dropSelective predicate queue = some (value, rest)) (hvalue : predicate value = false) :
    ∀ other ∈ queue, predicate other = false := by
  rw [dropSelective] at h
  split at h
  · rename_i found hfind
    cases h
    rw [List.find?_some hfind] at hvalue
    cases hvalue
  · rename_i hfind
    intro other hother
    simpa using List.find?_eq_none.mp hfind other hother

end AvProject.Server.ThreadSafeQueue
