import Mathlib.Data.List.Basic

/-!
All-or-nothing loops: an operation on each item in turn, and at the first failure the
completed ones undone, the last one first.  A trace of such loops is read back with
latches, which one kind of event sets and another one resets.
-/

namespace AvProject.Lib

/-! ### The loop -/

section

variable {σ α : Type*}

/-- Undo the completed items, the last one first. -/
def undoAll (undo : α → σ → σ) (done : List α) (s : σ) : σ :=
  done.reverse.foldl (fun s item => undo item s) s

/-- The loop over the remaining items, with those already completed. -/
def attemptAll (attempt : α → σ → σ × Bool) (undo : α → σ → σ) :
    List α → List α → σ → σ × Bool
  | _, [], s => (s, true)
  | done, item :: rest, s =>
      match attempt item s with
      | (s, true) => attemptAll attempt undo (done ++ [item]) rest s
      | (s, false) => (undoAll undo done s, false)

variable {attempt : α → σ → σ × Bool} {undo : α → σ → σ} {P : σ → Prop}

theorem undoAll_preserves (hundo : ∀ item s, P s → P (undo item s)) (done : List α) (s : σ)
    (h : P s) : P (undoAll undo done s) := by
  rw [undoAll]
  generalize done.reverse = items
  induction items generalizing s with
  | nil => exact h
  | cons item items ih => exact ih _ (hundo item s h)

/-- What the attempts and the undoing preserve is preserved by the loop. -/
theorem attemptAll_preserves (hattempt : ∀ item s, P s → P (attempt item s).1)
    (hundo : ∀ item s, P s → P (undo item s)) (done items : List α) (s : σ) (h : P s) :
    P (attemptAll attempt undo done items s).1 := by
  induction items generalizing done s with
  | nil => exact h
  | cons item items ih =>
      rw [attemptAll]
      have hnext := hattempt item s h
      split
      · rename_i next heq
        rw [heq] at hnext
        exact ih _ _ hnext
      · rename_i next heq
        rw [heq] at hnext
        exact undoAll_preserves hundo _ _ hnext

end

/-! ### Its traces -/

section

variable {α ε : Type*} {did : α → Bool → ε} {undone : α → ε}

/-- The events of one loop over `items`: all of them completed, or those before the
first failure completed and then undone. -/
inductive AttemptTrace (did : α → Bool → ε) (undone : α → ε) (items : List α) :
    List ε → Bool → Prop
  | completed : AttemptTrace did undone items (items.map fun item => did item true) true
  | rolledBack (done : List α) (failed : α) (rest : List α)
      (hitems : items = done ++ failed :: rest) :
      AttemptTrace did undone items
        ((done.map fun item => did item true) ++ did failed false :: done.reverse.map undone)
        false

theorem undoAll_log (undone : α → ε) (done : List α) (log : List ε) :
    undoAll (fun item log => log ++ [undone item]) done log =
      log ++ done.reverse.map undone := by
  rw [undoAll]
  generalize done.reverse = items
  induction items generalizing log with
  | nil => simp
  | cons item items ih => simp [ih]

/-- A loop that logs its events leaves one of these traces behind. -/
theorem attemptAll_log (did : α → Bool → ε) (undone : α → ε) (succeeds : α → List ε → Bool)
    (done rest : List α) (log : List ε) :
    ∃ trace, AttemptTrace did undone (done ++ rest)
        ((done.map fun item => did item true) ++ trace)
        (attemptAll (fun item log => (log ++ [did item (succeeds item log)], succeeds item log))
          (fun item log => log ++ [undone item]) done rest log).2 ∧
      (attemptAll (fun item log => (log ++ [did item (succeeds item log)], succeeds item log))
          (fun item log => log ++ [undone item]) done rest log).1 = log ++ trace := by
  induction rest generalizing done log with
  | nil =>
      refine ⟨[], ?_, by simp [attemptAll]⟩
      simpa [attemptAll] using (AttemptTrace.completed : AttemptTrace did undone done _ _)
  | cons item rest ih =>
      cases hsucceeds : succeeds item log with
      | true =>
          obtain ⟨trace, htrace, hlog⟩ := ih (done ++ [item]) (log ++ [did item true])
          refine ⟨did item true :: trace, ?_, ?_⟩
          · simpa [attemptAll, hsucceeds] using htrace
          · simp [attemptAll, hsucceeds, hlog]
      | false =>
          refine ⟨did item false :: done.reverse.map undone, ?_, ?_⟩
          · simpa [attemptAll, hsucceeds] using
              AttemptTrace.rolledBack done item rest rfl
          · simp [attemptAll, hsucceeds, undoAll_log]

/-- A trace is made of events of the two kinds. -/
theorem AttemptTrace.mem {items : List α} {trace : List ε} {ok : Bool}
    (h : AttemptTrace did undone items trace ok) {event : ε} (hevent : event ∈ trace) :
    (∃ item ∈ items, ∃ done, event = did item done) ∨ ∃ item, event = undone item := by
  cases h with
  | completed =>
      obtain ⟨item, hitem, rfl⟩ := List.mem_map.mp hevent
      exact .inl ⟨item, hitem, true, rfl⟩
  | rolledBack done failed rest hitems =>
      subst hitems
      rcases List.mem_append.mp hevent with hdone | hrest
      · obtain ⟨item, hitem, rfl⟩ := List.mem_map.mp hdone
        exact .inl ⟨item, List.mem_append_left _ hitem, true, rfl⟩
      · rcases List.mem_cons.mp hrest with rfl | hundone
        · exact .inl ⟨failed, by simp, false, rfl⟩
        · obtain ⟨item, -, rfl⟩ := List.mem_map.mp hundone
          exact .inr ⟨item, rfl⟩

end

/-! ### Latches -/

section

variable {ε : Type*} (sets resets : ε → Prop) [DecidablePred sets] [DecidablePred resets]

/-- The state of a latch after a trace. -/
def latch (on : Bool) (trace : List ε) : Bool :=
  trace.foldl (fun on event => if sets event then true else if resets event then false else on) on

variable {sets resets} {on : Bool} {trace : List ε}

@[simp] theorem latch_nil : latch sets resets on [] = on := rfl

theorem latch_cons (event : ε) (trace : List ε) :
    latch sets resets on (event :: trace) =
      latch sets resets (if sets event then true else if resets event then false else on) trace :=
  rfl

theorem latch_append (first rest : List ε) :
    latch sets resets on (first ++ rest) = latch sets resets (latch sets resets on first) rest :=
  List.foldl_append

/-- Events of other kinds leave the latch alone. -/
theorem latch_of_neither (hsets : ∀ event ∈ trace, ¬ sets event)
    (hresets : ∀ event ∈ trace, ¬ resets event) : latch sets resets on trace = on := by
  induction trace generalizing on with
  | nil => rfl
  | cons event trace ih =>
      rw [List.forall_mem_cons] at hsets hresets
      rw [latch_cons, if_neg hsets.1, if_neg hresets.1, ih hsets.2 hresets.2]

/-- A trace without resets only ever switches on. -/
theorem latch_of_not_resets (hresets : ∀ event ∈ trace, ¬ resets event) :
    latch sets resets on trace = (on || trace.any fun event => decide (sets event)) := by
  induction trace generalizing on with
  | nil => simp
  | cons event trace ih =>
      rw [List.forall_mem_cons] at hresets
      rw [latch_cons, ih hresets.2, List.any_cons, if_neg hresets.1]
      by_cases hevent : sets event <;> simp [hevent]

/-- A trace without sets only ever switches off. -/
theorem latch_of_not_sets (hsets : ∀ event ∈ trace, ¬ sets event) :
    latch sets resets on trace = (on && !trace.any fun event => decide (resets event)) := by
  induction trace generalizing on with
  | nil => simp
  | cons event trace ih =>
      rw [List.forall_mem_cons] at hsets
      rw [latch_cons, ih hsets.2, List.any_cons, if_neg hsets.1]
      by_cases hevent : resets event <;> simp [hevent]

end

/-! ### What a loop leaves on -/

section

variable {α ε : Type*} [DecidableEq α] [DecidableEq ε] {did : α → Bool → ε} {undone : α → ε}
  {items : List α} {item : α}

/-- Undoing the items switches off the latch of each of them. -/
theorem latch_undone (hundone : Function.Injective undone)
    (hset : ∀ other, undone other ≠ did item true) (on : Bool) :
    latch (· = did item true) (· = undone item) on (items.map undone) =
      (on && !decide (item ∈ items)) := by
  rw [latch_of_not_sets]
  · congr 2
    rw [Bool.eq_iff_iff]
    simp [hundone.eq_iff]
  · intro event hevent
    obtain ⟨other, -, rfl⟩ := List.mem_map.mp hevent
    exact hset other

theorem latch_did (hdid : ∀ other, did other true = did item true ↔ other = item)
    (hreset : ∀ other, did other true ≠ undone item) (on : Bool) :
    latch (· = did item true) (· = undone item) on (items.map fun other => did other true) =
      (on || decide (item ∈ items)) := by
  rw [latch_of_not_resets]
  · congr 1
    rw [Bool.eq_iff_iff]
    simp [hdid]
  · intro event hevent
    obtain ⟨other, -, rfl⟩ := List.mem_map.mp hevent
    exact hreset other

/-- A loop that completed leaves all items on, one that was rolled back none. -/
theorem latch_attemptTrace
    (hdid : ∀ other ok, did other ok = did item true ↔ other = item ∧ ok = true)
    (hundone : Function.Injective undone) (hset : ∀ other, undone other ≠ did item true)
    (hreset : ∀ other ok, did other ok ≠ undone item) {trace : List ε} {ok : Bool}
    (h : AttemptTrace did undone items trace ok) :
    latch (· = did item true) (· = undone item) false trace = (ok && decide (item ∈ items)) := by
  have hcompleted : ∀ other, did other true = did item true ↔ other = item := by
    intro other
    simp [hdid]
  cases h with
  | completed => rw [latch_did hcompleted fun other => hreset other true]; simp
  | rolledBack done failed rest hitems =>
      have hfailed : did failed false ≠ did item true := by simp [hdid]
      rw [latch_append, latch_did hcompleted fun other => hreset other true, latch_cons,
        if_neg hfailed, if_neg (hreset failed false), latch_undone hundone hset]
      simp

end

end AvProject.Lib
