import Mathlib.Data.List.Infix

/-!
Subscribers to a sequence of announcements, of which each is handed to those who are listed
when it is made, one after the other. Whoever is listed and active has received everything
since it joined; what anyone has received is a part of the sequence without a gap.
-/

namespace AvProject.Lib

variable {α : Type*} {log upcoming received : List α} {listed listed' active active' : Prop}
  {joined : Option ℕ} {x : α}

/-- `joined` is the length of the sequence when the subscriber was listed, and `upcoming` what
has been announced and is still on its way to it. -/
structure Follows (log upcoming : List α) (listed active : Prop) (joined : Option ℕ)
    (received : List α) : Prop where
  unjoined : joined = none → received = [] ∧ upcoming = [] ∧ ¬ listed
  since : ∀ k, joined = some k → k ≤ log.length ∧ received <+: log.drop k
  ahead : ∀ k, joined = some k → active → received ++ upcoming <+: log.drop k
  complete : ∀ k, joined = some k → active → listed → received ++ upcoming = log.drop k

namespace Follows

theorem new (log : List α) (hlisted : ¬ listed) : Follows log [] listed active none [] where
  unjoined _ := ⟨rfl, rfl, hlisted⟩
  since _ h := by cases h
  ahead _ h := by cases h
  complete _ h := by cases h

theorem join (h : Follows log upcoming listed active none received) :
    Follows log upcoming listed' active (some log.length) received := by
  obtain ⟨rfl, rfl, -⟩ := h.unjoined rfl
  refine ⟨fun hnone => (by cases hnone), fun k hk => ?_, fun k hk _ => ?_, fun k hk _ _ => ?_⟩
  all_goals obtain rfl := Option.some.inj hk
  · exact ⟨Nat.le_refl _, List.nil_prefix⟩
  · exact List.nil_prefix
  · rw [List.drop_length]
    rfl

/-- A subscriber may be taken off the list, and may become inactive. -/
theorem weaken (h : Follows log upcoming listed active joined received)
    (hlisted : listed' → listed) (hactive : active' → active) :
    Follows log upcoming listed' active' joined received where
  unjoined hnone := ⟨(h.unjoined hnone).1, (h.unjoined hnone).2.1,
    fun hlist => (h.unjoined hnone).2.2 (hlisted hlist)⟩
  since := h.since
  ahead k hk hact := h.ahead k hk (hactive hact)
  complete k hk hact hlist := h.complete k hk (hactive hact) (hlisted hlist)

/-- An inactive subscriber is passed over. -/
theorem skip (h : Follows log upcoming listed active joined received) (hactive : ¬ active) :
    Follows log [] listed active joined received where
  unjoined hnone := ⟨(h.unjoined hnone).1, rfl, (h.unjoined hnone).2.2⟩
  since := h.since
  ahead _ _ hact := absurd hact hactive
  complete _ _ hact := absurd hact hactive

/-- An announcement is on its way to those who are listed. -/
theorem announce [Decidable listed] (h : Follows log [] listed active joined received) (x : α) :
    Follows (log ++ [x]) (if listed then [x] else []) listed active joined received where
  unjoined hnone := by
    obtain ⟨hreceived, -, hlisted⟩ := h.unjoined hnone
    exact ⟨hreceived, if_neg hlisted, hlisted⟩
  since k hk := by
    obtain ⟨hle, hfollowed⟩ := h.since k hk
    rw [List.length_append, List.drop_append_of_le_length hle]
    exact ⟨hle.trans (Nat.le_add_right _ _), hfollowed.trans (List.prefix_append _ _)⟩
  ahead k hk hactive := by
    rw [List.drop_append_of_le_length (h.since k hk).1]
    split
    · rename_i hlisted
      rw [← h.complete k hk hactive hlisted, List.append_nil]
    · rw [List.append_nil]
      exact (h.since k hk).2.trans (List.prefix_append _ _)
  complete k hk hactive hlisted := by
    rw [List.drop_append_of_le_length (h.since k hk).1, if_pos hlisted,
      ← h.complete k hk hactive hlisted, List.append_nil]

/-- What was on its way has arrived. -/
theorem receive (h : Follows log [x] listed active joined received) (hactive : active) :
    Follows log [] listed active joined (received ++ [x]) where
  unjoined hnone := absurd (h.unjoined hnone).2.1 (List.cons_ne_nil x [])
  since k hk := ⟨(h.since k hk).1, h.ahead k hk hactive⟩
  ahead k hk hact := by
    rw [List.append_nil]
    exact h.ahead k hk hact
  complete k hk hact hlist := by
    rw [List.append_nil]
    exact h.complete k hk hact hlist

end Follows

end AvProject.Lib
