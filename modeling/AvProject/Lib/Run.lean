import Mathlib.Data.List.Induction

/-!
Runs of a step function that refuses the events that do not fit the state it is in.
-/

namespace AvProject.Lib

variable {σ ε : Type*} (step : σ → ε → Option σ)

/-- A run over a list of events; `none` where one of them is refused. -/
def runSteps (s : σ) : List ε → Option σ
  | [] => some s
  | event :: events => (step s event).bind fun next => runSteps next events

/-- Every step of the run meets the condition, in the state in which it is taken. -/
def StepsMeet (Condition : σ → ε → Prop) (s : σ) : List ε → Prop
  | [] => True
  | event :: events =>
      Condition s event ∧ ∀ next, step s event = some next → StepsMeet Condition next events

@[simp] theorem runSteps_nil (s : σ) : runSteps step s [] = some s := rfl

@[simp] theorem stepsMeet_nil (Condition : σ → ε → Prop) (s : σ) :
    StepsMeet step Condition s [] := trivial

theorem runSteps_cons_eq_some {s t : σ} {event : ε} {events : List ε} :
    runSteps step s (event :: events) = some t ↔
      ∃ next, step s event = some next ∧ runSteps step next events = some t := by
  rw [runSteps, Option.bind_eq_some_iff]

theorem stepsMeet_cons {Condition : σ → ε → Prop} {s next : σ} {event : ε} {events : List ε}
    (hnext : step s event = some next) :
    StepsMeet step Condition s (event :: events) ↔
      Condition s event ∧ StepsMeet step Condition next events := by
  constructor
  · rintro ⟨hfirst, hrest⟩
    exact ⟨hfirst, hrest next hnext⟩
  · rintro ⟨hfirst, hrest⟩
    refine ⟨hfirst, fun other hother => ?_⟩
    obtain rfl : next = other := Option.some.inj (hnext.symm.trans hother)
    exact hrest

theorem stepsMeet_cons_of_none {Condition : σ → ε → Prop} {s : σ} {event : ε} {events : List ε}
    (hnext : step s event = none) :
    StepsMeet step Condition s (event :: events) ↔ Condition s event := by
  refine ⟨fun h => h.1, fun h => ⟨h, fun next hsome => ?_⟩⟩
  rw [hnext] at hsome
  cases hsome

/-- The condition can be tested along a run. -/
instance decidableStepsMeet {Condition : σ → ε → Prop} [∀ s event, Decidable (Condition s event)] :
    (s : σ) → (events : List ε) → Decidable (StepsMeet step Condition s events)
  | _, [] => isTrue trivial
  | s, event :: events =>
      match hnext : step s event with
      | none => decidable_of_iff _ (stepsMeet_cons_of_none step hnext).symm
      | some next =>
          have : Decidable (StepsMeet step Condition next events) := decidableStepsMeet next events
          decidable_of_iff _ (stepsMeet_cons step hnext).symm

theorem runSteps_append {s : σ} (first rest : List ε) :
    runSteps step s (first ++ rest) =
      (runSteps step s first).bind fun next => runSteps step next rest := by
  induction first generalizing s with
  | nil => rfl
  | cons event first ih =>
      rw [List.cons_append, runSteps, runSteps]
      cases step s event with
      | none => rfl
      | some next => exact ih

theorem stepsMeet_append {Condition : σ → ε → Prop} {s t : σ} {first : List ε} (rest : List ε)
    (hrun : runSteps step s first = some t) :
    StepsMeet step Condition s (first ++ rest) ↔
      StepsMeet step Condition s first ∧ StepsMeet step Condition t rest := by
  induction first generalizing s with
  | nil =>
      obtain rfl := Option.some.inj hrun
      exact (and_iff_right trivial).symm
  | cons event first ih =>
      obtain ⟨next, hnext, hfirst⟩ := (runSteps_cons_eq_some step).mp hrun
      rw [List.cons_append, stepsMeet_cons step hnext, stepsMeet_cons step hnext, ih hfirst,
        and_assoc]

/-- A condition that every step meets is met by every run. -/
theorem StepsMeet.of_forall {Condition : σ → ε → Prop} (h : ∀ s event, Condition s event)
    (s : σ) (events : List ε) : StepsMeet step Condition s events := by
  induction events generalizing s with
  | nil => trivial
  | cons event events ih => exact ⟨h s event, fun next _ => ih next⟩

/-- Two conditions that agree where an invariant holds are met by the same runs. -/
theorem stepsMeet_congr {Inv : σ → Prop} {Condition Condition' : σ → ε → Prop}
    (preserved : ∀ s event t, Inv s → step s event = some t → Inv t)
    (agree : ∀ s event, Inv s → (Condition s event ↔ Condition' s event))
    {s : σ} (hs : Inv s) (events : List ε) :
    StepsMeet step Condition s events ↔ StepsMeet step Condition' s events := by
  induction events generalizing s with
  | nil => exact Iff.rfl
  | cons event events ih =>
      cases hnext : step s event with
      | none =>
          rw [stepsMeet_cons_of_none step hnext, stepsMeet_cons_of_none step hnext]
          exact agree s event hs
      | some next =>
          rw [stepsMeet_cons step hnext, stepsMeet_cons step hnext]
          exact and_congr (agree s event hs) (ih (preserved s event next hs hnext))

/-- The invariant rule, for runs whose steps all meet a condition. -/
theorem runSteps_invariant_of_meet {Condition : σ → ε → Prop} {Inv : σ → Prop}
    (preserved : ∀ s event t, Condition s event → Inv s → step s event = some t → Inv t)
    {s t : σ} {events : List ε} (hmeet : StepsMeet step Condition s events) (hs : Inv s)
    (hrun : runSteps step s events = some t) : Inv t := by
  induction events generalizing s with
  | nil =>
      obtain rfl := Option.some.inj hrun
      exact hs
  | cons event events ih =>
      obtain ⟨next, hnext, hrest⟩ := (runSteps_cons_eq_some step).mp hrun
      obtain ⟨hfirst, hmeet⟩ := (stepsMeet_cons step hnext).mp hmeet
      exact ih hmeet (preserved s event next hfirst hs hnext) hrest

/-- The invariant rule. -/
theorem runSteps_invariant {Inv : σ → Prop}
    (preserved : ∀ s event t, Inv s → step s event = some t → Inv t)
    {s t : σ} {events : List ε} (hs : Inv s) (hrun : runSteps step s events = some t) : Inv t :=
  have hmeet : StepsMeet step (fun _ _ => True) s events :=
    StepsMeet.of_forall step (fun _ _ => trivial) s events
  runSteps_invariant_of_meet step (fun s event t _ => preserved s event t) hmeet hs hrun

/-- The invariant rule, where the invariant also speaks about the events so far. -/
theorem runSteps_invariant_history {Inv : List ε → σ → Prop}
    (preserved : ∀ past s event t, Inv past s → step s event = some t → Inv (past ++ [event]) t)
    {s t : σ} {events : List ε} (hs : Inv [] s) (hrun : runSteps step s events = some t) :
    Inv events t := by
  induction events using List.reverseRecOn generalizing t with
  | nil =>
      obtain rfl := Option.some.inj hrun
      exact hs
  | append_singleton past event ih =>
      rw [runSteps_append, Option.bind_eq_some_iff] at hrun
      obtain ⟨before, hbefore, hrest⟩ := hrun
      obtain ⟨next, hnext, hrest⟩ := (runSteps_cons_eq_some step).mp hrest
      obtain rfl := Option.some.inj hrest
      exact preserved past before event next (ih hbefore) hnext

/-- Where the invariant is kept exactly by the steps that meet the condition, and what a
bad step leads to is never left again, the runs that end well are those whose steps all
meet the condition. -/
theorem runSteps_good_iff {Condition : σ → ε → Prop} {Good Bad : σ → Prop}
    (good : ∀ s event t, Condition s event → Good s → step s event = some t → Good t)
    (bad : ∀ s event t, ¬ Condition s event → Good s → step s event = some t → Bad t)
    (stuck : ∀ s event t, Bad s → step s event = some t → Bad t)
    {s t : σ} {events : List ε} (hs : Good s) (hrun : runSteps step s events = some t) :
    (StepsMeet step Condition s events ∧ Good t) ∨
      (¬ StepsMeet step Condition s events ∧ Bad t) := by
  induction events generalizing s with
  | nil =>
      obtain rfl := Option.some.inj hrun
      exact .inl ⟨trivial, hs⟩
  | cons event events ih =>
      obtain ⟨next, hnext, hrest⟩ := (runSteps_cons_eq_some step).mp hrun
      rw [stepsMeet_cons step hnext]
      by_cases hfirst : Condition s event
      · rcases ih (good s event next hfirst hs hnext) hrest with hgood | hbad
        · exact .inl ⟨⟨hfirst, hgood.1⟩, hgood.2⟩
        · exact .inr ⟨fun h => hbad.1 h.2, hbad.2⟩
      · refine .inr ⟨fun h => hfirst h.1, ?_⟩
        exact runSteps_invariant step stuck (bad s event next hfirst hs hnext) hrest

/-! ### States that are reached -/

/-- Some run leads from `s` to `t`. -/
def Reaches (s t : σ) : Prop := ∃ events, runSteps step s events = some t

theorem Reaches.refl (s : σ) : Reaches step s s := ⟨[], rfl⟩

theorem Reaches.next {s t u : σ} {event : ε} (h : Reaches step s t)
    (hnext : step t event = some u) : Reaches step s u := by
  obtain ⟨events, hrun⟩ := h
  refine ⟨events ++ [event], ?_⟩
  rw [runSteps_append, hrun, Option.bind_some, runSteps, hnext]
  rfl

theorem Reaches.invariant {Inv : σ → Prop}
    (preserved : ∀ s event t, Inv s → step s event = some t → Inv t)
    {s t : σ} (h : Reaches step s t) (hs : Inv s) : Inv t := by
  obtain ⟨events, hrun⟩ := h
  exact runSteps_invariant step preserved hs hrun

/-! ### Steps that refuse nothing -/

theorem runSteps_total (f : σ → ε → σ) (s : σ) (events : List ε) :
    runSteps (fun s event => some (f s event)) s events = some (events.foldl f s) := by
  induction events generalizing s with
  | nil => rfl
  | cons event events ih => exact ih (f s event)

theorem stepsMeet_total {f : σ → ε → σ} {Condition : σ → ε → Prop} {s : σ} {events : List ε} :
    StepsMeet (fun s event => some (f s event)) Condition s events ↔
      ∀ first event rest, events = first ++ event :: rest →
        Condition (first.foldl f s) event := by
  constructor
  · rintro hmeet first event rest rfl
    exact ((stepsMeet_append _ _ (runSteps_total f s first)).mp hmeet).2.1
  · intro h
    induction events generalizing s with
    | nil => trivial
    | cons event events ih =>
        refine (stepsMeet_cons _ rfl).mpr ⟨h [] event events rfl, ih ?_⟩
        rintro first later rest rfl
        exact h (event :: first) later rest rfl

end AvProject.Lib
