import Mathlib.Data.List.TakeWhile
import Mathlib.Order.MinMax

/-!
A queue bounded both by count and by age: new entries at the back, and at the front the
entries leave that are too many or too old.  It is described by the position in the
history of all entries at which it starts.
-/

namespace AvProject.Lib

section

variable {α : Type*} {time : α → ℕ} {maxAge limit clock now start : ℕ} {history : List α}
  {entry : α}

/-- The queue that starts at `start` lacks only what was too many or too old by `clock`. -/
structure KeepsRecent (time : α → ℕ) (maxAge limit : ℕ) (history : List α) (clock start : ℕ) :
    Prop where
  start_le : start ≤ history.length
  bounded : history.length - limit ≤ start
  expired : ∀ entry ∈ (history.take start).drop (history.length - limit),
    time entry + maxAge < clock

theorem KeepsRecent.nil : KeepsRecent time maxAge limit [] clock 0 :=
  ⟨le_rfl, by simp, by simp⟩

/-- The last entries of a history, split where the queue starts. -/
theorem KeepsRecent.drop_eq (h : KeepsRecent time maxAge limit history clock start) :
    history.drop (history.length - limit) =
      (history.take start).drop (history.length - limit) ++ history.drop start := by
  have hlength : (history.take start).length = start := List.length_take_of_le h.start_le
  have hbounded := h.bounded
  conv_lhs => rw [← List.take_append_drop start history]
  rw [List.drop_append, List.length_append, hlength, List.length_drop]
  have hstart := h.start_le
  rw [show start + (history.length - start) = history.length by omega,
    show history.length - limit - start = 0 by omega, List.drop_zero]

/-- Expired entries leave at the front. -/
theorem KeepsRecent.prune (h : KeepsRecent time maxAge limit history clock start)
    (hclock : clock ≤ now) :
    ∃ next, (history.drop start).dropWhile (fun entry => decide (time entry + maxAge < now)) =
        history.drop next ∧ KeepsRecent time maxAge limit history now next := by
  have hsplit : _ = history.drop start := List.takeWhile_append_dropWhile
    (p := fun entry => decide (time entry + maxAge < now))
  have hgone : ∀ entry ∈ (history.drop start).takeWhile
      (fun entry => decide (time entry + maxAge < now)), time entry + maxAge < now := by
    intro entry hentry
    simpa using List.mem_takeWhile_imp hentry
  generalize (history.drop start).takeWhile _ = gone at hsplit hgone
  generalize (history.drop start).dropWhile _ = rest at hsplit ⊢
  have hlength := congrArg List.length hsplit
  rw [List.length_append, List.length_drop] at hlength
  have hstart := h.start_le
  have hnext : history.drop (start + gone.length) = rest := by
    rw [← List.drop_drop, ← hsplit, List.drop_left]
  refine ⟨start + gone.length, hnext.symm, by omega, h.bounded.trans (Nat.le_add_right _ _), ?_⟩
  have htake : history.take (start + gone.length) = history.take start ++ gone := by
    rw [List.take_add, ← hsplit, List.take_left]
  rw [htake]
  intro entry hentry
  rw [List.drop_append, List.mem_append] at hentry
  rcases hentry with hold | hnew
  · exact (h.expired entry hold).trans_le hclock
  · exact hgone entry (List.mem_of_mem_drop hnew)

/-- Where the entries are in order of time, pruning leaves no expired one behind. -/
theorem not_expired_of_mem_dropWhile {entries : List α}
    (hsorted : entries.Pairwise fun a b => time a ≤ time b)
    (hmem : entry ∈ entries.dropWhile fun entry => decide (time entry + maxAge < now)) :
    now ≤ time entry + maxAge := by
  induction entries with
  | nil => simp at hmem
  | cons first rest ih =>
      rw [List.pairwise_cons] at hsorted
      rw [List.dropWhile_cons] at hmem
      split at hmem
      · exact ih hsorted.2 hmem
      · rename_i hfirst
        rw [decide_eq_true_iff, not_lt] at hfirst
        rcases List.mem_cons.mp hmem with rfl | hrest
        · exact hfirst
        · exact hfirst.trans (Nat.add_le_add_right (hsorted.1 _ hrest) _)

/-- A new entry at the back, and the front cut to the limit. -/
theorem KeepsRecent.push (h : KeepsRecent time maxAge limit history clock start) (entry : α) :
    ∃ next, (history.drop start ++ [entry]).drop
        ((history.drop start ++ [entry]).length - limit) = (history ++ [entry]).drop next ∧
      KeepsRecent time maxAge limit (history ++ [entry]) clock next := by
  have hstart := h.start_le
  have hbounded := h.bounded
  have happend : history.drop start ++ [entry] = (history ++ [entry]).drop start := by
    rw [List.drop_append_of_le_length hstart]
  have hlength : (history ++ [entry]).length = history.length + 1 := by simp
  refine ⟨max start (history.length + 1 - limit), ?_, ?_, ?_, ?_⟩
  · rw [happend, List.drop_drop, List.length_drop, hlength]
    congr 1
    omega
  · rw [hlength]
    omega
  · rw [hlength]
    exact le_max_right _ _
  · intro old hold
    rw [hlength] at hold
    -- what lies behind the new bound was cut, so the rest had left the queue before
    rcases le_total start (history.length + 1 - limit) with hle | hle
    · rw [max_eq_right hle, List.drop_take, Nat.sub_self, List.take_zero] at hold
      simp at hold
    · rw [max_eq_left hle, List.take_append_of_le_length hstart] at hold
      rw [show history.length + 1 - limit = history.length - limit +
        (history.length + 1 - limit - (history.length - limit)) by omega, ← List.drop_drop] at hold
      exact h.expired old (List.mem_of_mem_drop hold)

/-- After pruning the queue holds the recent ones among the last entries. -/
theorem KeepsRecent.mem_iff (h : KeepsRecent time maxAge limit history clock start)
    (hfresh : ∀ entry ∈ history.drop start, clock ≤ time entry + maxAge) :
    entry ∈ history.drop start ↔
      entry ∈ history.drop (history.length - limit) ∧ clock ≤ time entry + maxAge := by
  rw [h.drop_eq, List.mem_append]
  constructor
  · exact fun hmem => ⟨.inr hmem, hfresh entry hmem⟩
  · rintro ⟨hgone | hmem, hrecent⟩
    · exact absurd (h.expired entry hgone) (not_lt.mpr hrecent)
    · exact hmem

end

end AvProject.Lib
