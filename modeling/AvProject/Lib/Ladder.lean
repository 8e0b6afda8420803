import AvProject.Lib.Rollback
import AvProject.Lib.Run
import Mathlib.Data.List.Induction

/-!
Items that are brought up one after the other and taken down the last one first. Wherever such
a process stands, the items that are up are the first ones, so that a height says which.
-/

namespace AvProject.Lib

variable {α : Type*}

/-- An attempt to bring an item up, with its result, or an item taken down. -/
inductive Rung (α : Type*)
  | up (item : α) (ok : Bool)
  | down (item : α)
  deriving DecidableEq, Repr

variable [DecidableEq α]

/-- The next item may be brought up, and the last one taken down. -/
def ladderStep (items : List α) (height : ℕ) : Rung α → Option ℕ
  | .up item ok =>
      if items[height]? = some item then some (if ok then height + 1 else height) else none
  | .down item =>
      match height with
      | 0 => none
      | below + 1 => if items[below]? = some item then some below else none

section

variable {items done part rest : List α}

theorem ladderStep_up {item : α} (hitems : items = done ++ item :: rest) (ok : Bool) :
    ladderStep items done.length (.up item ok) =
      some (if ok then done.length + 1 else done.length) := by
  rw [ladderStep, if_pos]
  rw [hitems, List.getElem?_append_right (Nat.le_refl _), Nat.sub_self]
  rfl

theorem ladderStep_down {item : α} (hitems : items = done ++ item :: rest) :
    ladderStep items (done.length + 1) (.down item) = some done.length := by
  rw [ladderStep, if_pos]
  rw [hitems, List.getElem?_append_right (Nat.le_refl _), Nat.sub_self]
  rfl

theorem runSteps_up (hitems : items = done ++ part ++ rest) :
    runSteps (ladderStep items) done.length (part.map fun item => Rung.up item true) =
      some (done ++ part).length := by
  induction part generalizing done with
  | nil => rw [List.append_nil]; rfl
  | cons item part ih =>
      rw [List.append_assoc, List.cons_append] at hitems
      rw [List.map_cons, runSteps, ladderStep_up hitems, if_pos rfl, Option.bind_some]
      have hitems' : items = (done ++ [item]) ++ part ++ rest := by rw [hitems]; simp
      have hnext := ih hitems'
      rwa [List.length_append, List.length_singleton, List.append_assoc,
        List.singleton_append] at hnext

theorem runSteps_down (hitems : items = done ++ rest) :
    runSteps (ladderStep items) done.length (done.reverse.map Rung.down) = some 0 := by
  induction done using List.reverseRecOn generalizing rest with
  | nil => rfl
  | append_singleton done item ih =>
      rw [List.append_assoc, List.singleton_append] at hitems
      rw [List.reverse_append, List.reverse_singleton, List.singleton_append, List.map_cons,
        runSteps, List.length_append, List.length_singleton, ladderStep_down hitems,
        Option.bind_some]
      exact ih hitems

/-- An all-or-nothing loop climbs to the top or comes back to the ground. -/
theorem runSteps_attempt {trace : List (Rung α)} {ok : Bool}
    (h : AttemptTrace Rung.up Rung.down items trace ok) :
    runSteps (ladderStep items) 0 trace = some (if ok then items.length else 0) := by
  cases h with
  | completed => exact runSteps_up (by simp : items = [] ++ items ++ [])
  | rolledBack done failed rest hitems =>
      have hclimbed : runSteps (ladderStep items) 0 (done.map fun item => Rung.up item true) =
          some done.length :=
        runSteps_up (by simpa using hitems : items = [] ++ done ++ failed :: rest)
      rw [runSteps_append, hclimbed, Option.bind_some, runSteps, ladderStep_up hitems,
        if_neg Bool.false_ne_true, Option.bind_some, runSteps_down hitems]
      rfl

end

/-! ### Which items are up -/

section

variable {items : List α} {height next : ℕ} {rung : Rung α}

/-- The first items, as many as the height says. -/
def upAt (items : List α) (height : ℕ) (item : α) : Bool := decide (item ∈ items.take height)

theorem upAt_succ {item : α} (hitem : items[height]? = some item) (other : α) :
    upAt items (height + 1) other = (upAt items height other || decide (item = other)) := by
  rw [upAt, upAt, List.take_add_one, hitem, Bool.eq_iff_iff]
  simp only [Option.toList_some, List.mem_append, List.mem_singleton, decide_eq_true_eq,
    Bool.or_eq_true]
  rw [eq_comm (a := other)]

/-- The item above the height is down. -/
theorem upAt_next (hnodup : items.Nodup) {item : α} (hitem : items[height]? = some item) :
    upAt items height item = false := by
  have hsplit := hnodup.sublist (List.take_sublist (height + 1) items)
  rw [List.take_add_one, hitem, List.nodup_append] at hsplit
  exact decide_eq_false fun hmem => hsplit.2.2 item hmem item (by simp) rfl

/-- The height says what the latches of the items say. -/
theorem upAt_ladderStep (hnodup : items.Nodup) (h : ladderStep items height rung = some next)
    (item : α) :
    upAt items next item =
      latch (· = Rung.up item true) (· = Rung.down item) (upAt items height item) [rung] := by
  rw [latch_cons, latch_nil]
  rw [ladderStep.eq_def] at h
  cases rung with
  | up other ok =>
      simp only at h
      split at h
      · rename_i hother
        cases h
        cases ok with
        | true =>
            rw [if_pos rfl, upAt_succ hother]
            by_cases heq : other = item <;> simp [heq]
        | false => simp
      · cases h
  | down other =>
      simp only at h
      split at h
      · cases h
      · rename_i below
        split at h
        · rename_i hother
          cases h
          rw [upAt_succ hother]
          by_cases heq : other = item
          · subst heq
            rw [upAt_next hnodup hother]
            simp
          · simp [heq]
        · cases h

/-- Only what is down is brought up. -/
theorem upAt_of_up (hnodup : items.Nodup) {item : α} {ok : Bool}
    (h : ladderStep items height (.up item ok) = some next) : upAt items height item = false := by
  rw [ladderStep] at h
  split at h
  · rename_i hitem
    exact upAt_next hnodup hitem
  · cases h

/-- Only what is up is taken down. -/
theorem upAt_of_down {item : α} (h : ladderStep items height (.down item) = some next) :
    upAt items height item = true := by
  rw [ladderStep.eq_def] at h
  simp only at h
  split at h
  · cases h
  · split at h
    · rename_i hitem
      rw [upAt_succ hitem]
      simp
    · cases h

end

end AvProject.Lib
