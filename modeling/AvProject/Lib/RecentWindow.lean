import Mathlib.Data.List.Basic
import Mathlib.Tactic

/-!
A window over the items accepted last. An item is only accepted while it is not in
the window, so two acceptances of one item are as far apart as the window is long.
-/

namespace AvProject.Lib

variable {α : Type*}

/-- Append an item and keep the last `capacity`. -/
def pushRecent (capacity : ℕ) (window : List α) (x : α) : List α :=
  (window ++ [x]).drop (window.length + 1 - capacity)

/-- Items accepted one after the other, each of which was not in the window. -/
inductive Accepts (capacity : ℕ) : List α → List α → List α → Prop
  | nil (window : List α) : Accepts capacity window [] window
  | cons {window xs window' : List α} {x : α} (hnew : x ∉ window)
      (hrest : Accepts capacity (pushRecent capacity window x) xs window') :
      Accepts capacity window (x :: xs) window'

theorem length_pushRecent_le {capacity : ℕ} (hcapacity : 0 < capacity) (window : List α)
    (x : α) : (pushRecent capacity window x).length ≤ capacity := by
  rw [pushRecent, List.length_drop, List.length_append, List.length_singleton]
  omega

/-- The last `capacity` of a list do not change when items are dropped from its
front that are not among them. -/
theorem drop_pushRecent_append {capacity : ℕ} (window : List α) (x : α) (xs : List α) :
    (pushRecent capacity window x ++ xs).drop
        ((pushRecent capacity window x).length + xs.length - capacity) =
      (window ++ x :: xs).drop (window.length + (x :: xs).length - capacity) := by
  have hmove : pushRecent capacity window x ++ xs =
      (window ++ x :: xs).drop (window.length + 1 - capacity) := by
    have hle : window.length + 1 - capacity ≤ (window ++ [x]).length := by
      rw [List.length_append, List.length_singleton]
      omega
    rw [pushRecent, List.append_cons window x xs, List.drop_append_of_le_length hle]
  have hlength : (pushRecent capacity window x).length =
      window.length + 1 - (window.length + 1 - capacity) := by
    rw [pushRecent, List.length_drop, List.length_append, List.length_singleton]
  rw [hmove, List.drop_drop, hlength, List.length_cons]
  congr 1
  omega

namespace Accepts

variable {capacity : ℕ} {window window' xs ys : List α} {x : α}

theorem singleton (hnew : x ∉ window) :
    Accepts capacity window [x] (pushRecent capacity window x) :=
  .cons hnew (.nil _)

theorem append {middle : List α} (h : Accepts capacity window xs middle)
    (h' : Accepts capacity middle ys window') : Accepts capacity window (xs ++ ys) window' := by
  induction h with
  | nil => exact h'
  | cons hnew _ ih => exact .cons hnew (ih h')

theorem of_append (h : Accepts capacity window (xs ++ ys) window') :
    ∃ middle, Accepts capacity window xs middle ∧ Accepts capacity middle ys window' := by
  induction xs generalizing window with
  | nil => exact ⟨window, .nil _, h⟩
  | cons x xs ih =>
      cases h with
      | cons hnew hrest =>
          obtain ⟨middle, hfirst, hsecond⟩ := ih hrest
          exact ⟨middle, .cons hnew hfirst, hsecond⟩

/-- The window holds the items accepted last. -/
theorem window_eq (hcapacity : 0 < capacity) (hlength : window.length ≤ capacity)
    (h : Accepts capacity window xs window') :
    window' = (window ++ xs).drop (window.length + xs.length - capacity) := by
  induction h with
  | nil window =>
      rw [List.append_nil, List.length_nil, Nat.add_zero, Nat.sub_eq_zero_of_le hlength,
        List.drop_zero]
  | cons hnew _ ih =>
      rw [ih (length_pushRecent_le hcapacity _ _), drop_pushRecent_append]

theorem length_le (hcapacity : 0 < capacity) (hlength : window.length ≤ capacity)
    (h : Accepts capacity window xs window') : window'.length ≤ capacity := by
  rw [h.window_eq hcapacity hlength, List.length_drop, List.length_append]
  omega

/-- An item that has left the window is followed by as many others as the window
holds. -/
theorem capacity_le_length (hcapacity : 0 < capacity)
    (h : Accepts capacity window (x :: xs) window') (hlength : window.length ≤ capacity)
    (hleft : x ∉ window') : capacity ≤ xs.length := by
  have hwindow := h.window_eq hcapacity hlength
  by_contra hshort
  push Not at hshort
  have hle : window.length + (x :: xs).length - capacity ≤ window.length := by
    rw [List.length_cons]
    omega
  rw [hwindow, List.drop_append_of_le_length hle] at hleft
  simp at hleft

/-- Between two acceptances of an item at least `capacity` others are accepted. -/
theorem capacity_le_between [DecidableEq α] (hcapacity : 0 < capacity)
    (hlength : window.length ≤ capacity) {earlier between later : List α}
    (h : Accepts capacity window (earlier ++ x :: between ++ x :: later) window') :
    capacity ≤ (between.filter fun y => decide (y ≠ x)).length := by
  -- `others` is followed by the first acceptance of `x` after the first one
  obtain ⟨others, rest, hsplit, hothers⟩ : ∃ others rest,
      between ++ x :: later = others ++ x :: rest ∧ x ∉ others ∧ others <+: between := by
    by_cases hmem : x ∈ between
    · obtain ⟨others, rest, rfl, hnot⟩ := List.eq_append_cons_of_mem hmem
      exact ⟨others, rest ++ x :: later, by simp, hnot, List.prefix_append _ _⟩
    · exact ⟨between, later, rfl, hmem, List.prefix_rfl⟩
  rw [List.append_assoc, List.cons_append, hsplit] at h
  obtain ⟨middle, hearlier, hfrom⟩ := h.of_append
  obtain ⟨window₂, hothersRun, hagain⟩ : ∃ w, Accepts capacity middle (x :: others) w ∧
      Accepts capacity w (x :: rest) window' := by
    rw [← List.cons_append] at hfrom
    exact hfrom.of_append
  have hleft : x ∉ window₂ := by
    cases hagain with
    | cons hnew _ => exact hnew
  have hfar := hothersRun.capacity_le_length hcapacity
    (hearlier.length_le hcapacity hlength) hleft
  calc capacity ≤ others.length := hfar
    _ = (others.filter fun y => decide (y ≠ x)).length := by
        rw [List.filter_eq_self.mpr]
        intro y hy
        exact decide_eq_true fun heq => hothers.1 (heq ▸ hy)
    _ ≤ (between.filter fun y => decide (y ≠ x)).length :=
        (hothers.2.sublist.filter _).length_le

end Accepts

end AvProject.Lib
