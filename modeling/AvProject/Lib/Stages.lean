import Mathlib.Data.List.Forall2

/-!
A line of stages through which entries pass one behind the other. A stage may drop an entry or
make something else of it, but none overtakes another one. So what is on the line, or has left
it, stems from entries that came in, in their order and each from one of its own.
-/

namespace AvProject.Lib

variable {α β γ : Type*} {Stems : α → β → Prop} {Earlier : β → γ → Prop} {line line' : List α}
  {entered : List β} {origins : List γ}

/-- The entries of the line stem from some of those that entered, in their order. -/
abbrev StemsInOrder (Stems : α → β → Prop) (line : List α) (entered : List β) : Prop :=
  List.SublistForall₂ Stems line entered

namespace StemsInOrder

theorem drop (h : StemsInOrder Stems line entered) (hline : line'.Sublist line) :
    StemsInOrder Stems line' entered := by
  induction h generalizing line' with
  | nil =>
      rw [List.sublist_nil.mp hline]
      exact .nil
  | cons hfirst _ ih =>
      cases hline with
      | cons _ hrest => exact .cons_right (ih hrest)
      | cons_cons _ hrest => exact .cons hfirst (ih hrest)
  | cons_right _ ih => exact .cons_right (ih hline)

/-- An entry comes in. -/
theorem enter (h : StemsInOrder Stems line entered) {x : α} {y : β} (hstems : Stems x y) :
    StemsInOrder Stems (line ++ [x]) (entered ++ [y]) := by
  obtain ⟨sources, hforall, hsources⟩ := List.sublistForall₂_iff.mp h
  exact List.sublistForall₂_iff.mpr ⟨sources ++ [y],
    List.rel_append hforall (.cons hstems .nil), hsources.append_right [y]⟩

theorem mono {Stems' : α → β → Prop} (h : StemsInOrder Stems line entered)
    (hstems : ∀ x y, Stems x y → Stems' x y) : StemsInOrder Stems' line entered := by
  induction h with
  | nil => exact .nil
  | cons hfirst _ ih => exact .cons (hstems _ _ hfirst) ih
  | cons_right _ ih => exact .cons_right ih

/-- One line behind another one. -/
theorem comp (h : StemsInOrder Stems line entered)
    (hearlier : StemsInOrder Earlier entered origins) :
    StemsInOrder (fun x z => ∃ y ∈ entered, Stems x y ∧ Earlier y z) line origins := by
  induction hearlier generalizing line with
  | nil =>
      cases h with
      | nil => exact .nil
  | @cons y z entered origins hfirst _ ih =>
      have hmore (x : α) (z : γ) (hstems : ∃ y ∈ entered, Stems x y ∧ Earlier y z) :
          ∃ y' ∈ y :: entered, Stems x y' ∧ Earlier y' z :=
        hstems.imp fun _ h => ⟨List.mem_cons_of_mem _ h.1, h.2⟩
      cases h with
      | nil => exact .nil
      | cons hstems hrest =>
          exact .cons ⟨y, List.mem_cons_self, hstems, hfirst⟩ ((ih hrest).mono hmore)
      | cons_right hrest => exact .cons_right ((ih hrest).mono hmore)
  | cons_right _ ih => exact .cons_right (ih h)

/-- A stage that works on the entries one after the other, as far as it gets. -/
theorem zipWith (f : β → γ → α) (entered : List β) (inputs : List γ) :
    StemsInOrder (fun x y => ∃ z, x = f y z) (List.zipWith f entered inputs) entered := by
  induction entered generalizing inputs with
  | nil => exact .nil
  | cons y entered ih =>
      cases inputs with
      | nil => exact .nil
      | cons z inputs => exact .cons ⟨z, rfl⟩ (ih inputs)

theorem of_sublist_map {f : α → β} (h : (line.map f).Sublist entered) :
    StemsInOrder (fun x y => f x = y) line entered :=
  List.sublistForall₂_map_left_iff.mp
    (List.sublistForall₂_iff.mpr ⟨_, List.forall₂_eq_eq_eq ▸ rfl, h⟩)

end StemsInOrder

end AvProject.Lib
