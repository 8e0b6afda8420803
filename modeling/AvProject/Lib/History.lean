import Mathlib.Data.List.Basic
import Mathlib.Data.List.TakeWhile
import Mathlib.Data.Nat.Notation

/-!
Histories with the latest entry first: whether the last few entries share a property, and
since when all of them have had it.
-/

namespace AvProject.Lib

section

variable {α : Type*} {p start : α → Prop} {count : ℕ} {entry : α} {history : List α}

/-- There are `count` entries, and the last `count` of them have the property. -/
def LastAll (count : ℕ) (p : α → Prop) (history : List α) : Prop :=
  count ≤ history.length ∧ ∀ entry ∈ history.take count, p entry

/-- Some entry is marked as a start, and from this one on all have the property. -/
def HeldSince (p start : α → Prop) (history : List α) : Prop :=
  ∃ later entry older, history = later ++ entry :: older ∧ start entry ∧
    ∀ other ∈ later ++ [entry], p other

instance [DecidablePred p] : Decidable (LastAll count p history) :=
  inferInstanceAs (Decidable (_ ∧ _))

/-- The entries since the last one without the property. -/
def streak (p : α → Prop) [DecidablePred p] (history : List α) : List α :=
  history.takeWhile fun entry => decide (p entry)

variable [DecidablePred p]

@[simp] theorem streak_nil : streak p [] = [] := rfl

theorem streak_cons :
    streak p (entry :: history) = if p entry then entry :: streak p history else [] := by
  rw [streak, List.takeWhile_cons]
  by_cases hp : p entry
  · rw [if_pos hp, if_pos (decide_eq_true hp), streak]
  · rw [if_neg hp, if_neg (by simpa using hp)]

theorem streak_sublist : (streak p history).Sublist history :=
  List.takeWhile_sublist _

theorem of_mem_streak (hmem : entry ∈ streak p history) : p entry := by
  simpa using List.mem_takeWhile_imp hmem

/-- A counter that starts again at each entry without the property tells the last few. -/
theorem lastAll_iff : LastAll count p history ↔ count ≤ (streak p history).length := by
  induction history generalizing count with
  | nil => simp [LastAll]
  | cons entry history ih =>
      rw [streak_cons]
      cases count with
      | zero => simp [LastAll]
      | succ count =>
          have hrest := @ih count
          rw [LastAll] at hrest ⊢
          rw [List.take_succ_cons, List.forall_mem_cons, List.length_cons,
            Nat.add_le_add_iff_right]
          split
          · rename_i hp
            rw [List.length_cons, Nat.add_le_add_iff_right, ← hrest]
            exact ⟨fun h => ⟨h.1, h.2.2⟩, fun h => ⟨h.1, hp, h.2⟩⟩
          · rename_i hp
            exact ⟨fun h => absurd h.2.1 hp, fun h => absurd h (Nat.not_succ_le_zero _)⟩

/-- One flag is enough for two entries in a row. -/
theorem lastAll_two :
    LastAll 2 p (entry :: history) ↔ p entry ∧ ∃ other ∈ history.head?, p other := by
  rw [lastAll_iff, streak_cons]
  split
  · rename_i hp
    cases history with
    | nil => simp
    | cons other rest =>
        rw [streak_cons]
        split <;> simp_all
  · rename_i hp
    simp [hp]

/-- Where an older entry is a start if a newer one is, only the oldest entry counts. -/
theorem heldSince_iff
    (hstart : history.Pairwise fun newer older => start newer → start older) :
    HeldSince p start history ↔ ∃ first ∈ (streak p history).getLast?, start first := by
  constructor
  · rintro ⟨later, entry, older, rfl, hentry, hall⟩
    have hstreak : streak p (later ++ entry :: older) = later ++ entry :: streak p older := by
      have hlater : ∀ other ∈ later ++ [entry], decide (p other) = true :=
        fun other hother => decide_eq_true (hall other hother)
      rw [List.append_cons, streak, List.takeWhile_append_of_pos hlater, ← streak,
        ← List.append_cons]
    rw [hstreak, List.getLast?_append_of_ne_nil _ (List.cons_ne_nil _ _),
      List.getLast?_eq_some_getLast (List.cons_ne_nil _ _)]
    refine ⟨_, rfl, ?_⟩
    rcases List.mem_cons.mp (List.getLast_mem (List.cons_ne_nil entry (streak p older))) with
      hlast | hlast
    · rw [hlast]
      exact hentry
    · have hpair := (List.pairwise_append.mp hstart).2.1
      exact (List.pairwise_cons.mp hpair).1 _ (streak_sublist.subset hlast) hentry
  · rintro ⟨first, hfirst, hmarked⟩
    obtain ⟨later, hlater⟩ := List.getLast?_eq_some_iff.mp hfirst
    refine ⟨later, first, history.dropWhile fun entry => decide (p entry), ?_, hmarked, ?_⟩
    · rw [List.append_cons, ← hlater, streak, List.takeWhile_append_dropWhile]
    · rw [← hlater]
      exact fun other => of_mem_streak

end

end AvProject.Lib
