import AvProject.Lib.Ladder
import AvProject.Server.Lifecycle

/-!
The modules of an `Application` at every moment, also in the middle of an operation: those that
are initialized are the first ones in the order of registration, and so are those that run. Hence
a module runs only while those before it do, whatever fails and wherever an operation stands.
-/

namespace AvProject.Server

open AvProject.Lib

/-! ### Two ladders -/

/-- How many modules are initialized, and how many of them run. -/
structure Levels where
  initialized : ℕ := 0
  started : ℕ := 0
  deriving DecidableEq, Repr

section

variable {μ : Type}

def asInitialization : Rung μ → ModuleCall μ
  | .up target ok => .initializeModule target ok
  | .down target => .shutdownModule target

def asStarting : Rung μ → ModuleCall μ
  | .up target ok => .startModule target ok
  | .down target => .stopModule target

/-- The level of all modules or of none. -/
def levelOf (modules : List μ) (up : Bool) : ℕ := if up then modules.length else 0

/-- The calls of an all-or-nothing loop are those of a climb. -/
theorem exists_rungs {modules : List μ} {trace : List (ModuleCall μ)} {ok : Bool}
    {did : μ → Bool → ModuleCall μ} {undone : μ → ModuleCall μ} (call : Rung μ → ModuleCall μ)
    (hup : ∀ target ok, call (.up target ok) = did target ok)
    (hdown : ∀ target, call (.down target) = undone target)
    (h : AttemptTrace did undone modules trace ok) :
    ∃ rungs, AttemptTrace Rung.up Rung.down modules rungs ok ∧ trace = rungs.map call := by
  cases h with
  | completed => exact ⟨_, .completed, by simp [hup]⟩
  | rolledBack done failed rest hitems =>
      refine ⟨_, .rolledBack done failed rest hitems, ?_⟩
      simp only [List.map_append, List.map_cons, List.map_map, Function.comp_def, hup, hdown]

theorem exists_rung (call : ModuleCall μ) :
    ∃ rung, call = asInitialization rung ∨ call = asStarting rung :=
  match call with
  | .initializeModule target ok => ⟨.up target ok, .inl rfl⟩
  | .shutdownModule target => ⟨.down target, .inl rfl⟩
  | .startModule target ok => ⟨.up target ok, .inr rfl⟩
  | .stopModule target => ⟨.down target, .inr rfl⟩

theorem onlyInitialization_rung (rung : Rung μ) : OnlyInitialization [asInitialization rung] := by
  intro call hcall
  rw [List.mem_singleton.mp hcall]
  cases rung with
  | up target ok => exact .inl ⟨target, ok, rfl⟩
  | down target => exact .inr ⟨target, rfl⟩

theorem onlyStarting_rung (rung : Rung μ) : OnlyStarting [asStarting rung] := by
  intro call hcall
  rw [List.mem_singleton.mp hcall]
  cases rung with
  | up target ok => exact .inl ⟨target, ok, rfl⟩
  | down target => exact .inr ⟨target, rfl⟩

variable [DecidableEq μ]

/-- The modules climb the second ladder from the top of the first one, and leave the first one
from the ground of the second. -/
def levelStep (modules : List μ) (l : Levels) : ModuleCall μ → Option Levels
  | .initializeModule target ok =>
      if l.started = 0 then
        (ladderStep modules l.initialized (.up target ok)).map fun i => { l with initialized := i }
      else none
  | .shutdownModule target =>
      if l.started = 0 then
        (ladderStep modules l.initialized (.down target)).map fun i => { l with initialized := i }
      else none
  | .startModule target ok =>
      if l.initialized = modules.length then
        (ladderStep modules l.started (.up target ok)).map fun i => { l with started := i }
      else none
  | .stopModule target =>
      if l.initialized = modules.length then
        (ladderStep modules l.started (.down target)).map fun i => { l with started := i }
      else none

section

variable {modules : List μ} {l : Levels} {trace : List (ModuleCall μ)} {already up ok : Bool}

theorem levelStep_asInitialization (hstarted : l.started = 0) (rung : Rung μ) :
    levelStep modules l (asInitialization rung) =
      (ladderStep modules l.initialized rung).map fun i => { l with initialized := i } := by
  cases rung <;> exact if_pos hstarted

theorem levelStep_asStarting (hinitialized : l.initialized = modules.length) (rung : Rung μ) :
    levelStep modules l (asStarting rung) =
      (ladderStep modules l.started rung).map fun i => { l with started := i } := by
  cases rung <;> exact if_pos hinitialized

theorem of_levelStep_asInitialization {next : Levels} {rung : Rung μ}
    (h : levelStep modules l (asInitialization rung) = some next) :
    l.started = 0 ∧ ∃ i, ladderStep modules l.initialized rung = some i ∧
      next = { l with initialized := i } := by
  have hstarted : l.started = 0 := by
    cases rung <;> exact Decidable.byContradiction fun hne => by
      rw [asInitialization, levelStep, if_neg hne] at h
      cases h
  rw [levelStep_asInitialization hstarted, Option.map_eq_some_iff] at h
  exact ⟨hstarted, h.imp fun _ h => ⟨h.1, h.2.symm⟩⟩

theorem of_levelStep_asStarting {next : Levels} {rung : Rung μ}
    (h : levelStep modules l (asStarting rung) = some next) :
    l.initialized = modules.length ∧ ∃ i, ladderStep modules l.started rung = some i ∧
      next = { l with started := i } := by
  have hinitialized : l.initialized = modules.length := by
    cases rung <;> exact Decidable.byContradiction fun hne => by
      rw [asStarting, levelStep, if_neg hne] at h
      cases h
  rw [levelStep_asStarting hinitialized, Option.map_eq_some_iff] at h
  exact ⟨hinitialized, h.imp fun _ h => ⟨h.1, h.2.symm⟩⟩

theorem runSteps_asInitialization (hstarted : l.started = 0) (rungs : List (Rung μ)) :
    runSteps (levelStep modules) l (rungs.map asInitialization) =
      (runSteps (ladderStep modules) l.initialized rungs).map fun i =>
        { l with initialized := i } := by
  induction rungs generalizing l with
  | nil => rfl
  | cons rung rungs ih =>
      rw [List.map_cons, runSteps, runSteps, levelStep_asInitialization hstarted]
      cases ladderStep modules l.initialized rung with
      | none => rfl
      | some next => exact ih hstarted

theorem runSteps_asStarting (hinitialized : l.initialized = modules.length)
    (rungs : List (Rung μ)) :
    runSteps (levelStep modules) l (rungs.map asStarting) =
      (runSteps (ladderStep modules) l.started rungs).map fun i => { l with started := i } := by
  induction rungs generalizing l with
  | nil => rfl
  | cons rung rungs ih =>
      rw [List.map_cons, runSteps, runSteps, levelStep_asStarting hinitialized]
      cases ladderStep modules l.started rung with
      | none => rfl
      | some next => exact ih hinitialized

theorem BringsUp.initializedLevel
    (h : BringsUp .initializeModule .shutdownModule modules already trace ok)
    (hinitialized : l.initialized = levelOf modules already)
    (hstarted : already = false → l.started = 0) :
    runSteps (levelStep modules) l trace =
      some { l with initialized := levelOf modules ok } := by
  cases already with
  | true =>
      obtain ⟨rfl, rfl⟩ := h
      rw [← hinitialized]
      rfl
  | false =>
      obtain ⟨rungs, hrungs, rfl⟩ := exists_rungs asInitialization (fun _ _ => rfl)
        (fun _ => rfl) h
      rw [runSteps_asInitialization (hstarted rfl), hinitialized]
      exact congrArg (Option.map _) (runSteps_attempt hrungs)

theorem BringsUp.startedLevel (h : BringsUp .startModule .stopModule modules already trace ok)
    (hstarted : l.started = levelOf modules already)
    (hinitialized : l.initialized = modules.length) :
    runSteps (levelStep modules) l trace = some { l with started := levelOf modules ok } := by
  cases already with
  | true =>
      obtain ⟨rfl, rfl⟩ := h
      rw [← hstarted]
      rfl
  | false =>
      obtain ⟨rungs, hrungs, rfl⟩ := exists_rungs asStarting (fun _ _ => rfl)
        (fun _ => rfl) h
      rw [runSteps_asStarting hinitialized, hstarted]
      exact congrArg (Option.map _) (runSteps_attempt hrungs)

theorem runSteps_stopModules (hstarted : l.started = levelOf modules up)
    (hinitialized : up = true → l.initialized = modules.length) :
    runSteps (levelStep modules) l (takeDown .stopModule modules up) =
      some { l with started := 0 } := by
  cases up with
  | true =>
      have hcalls : takeDown .stopModule modules true =
          (modules.reverse.map Rung.down).map asStarting := by
        rw [List.map_map]
        rfl
      have hclimb := runSteps_down (List.append_nil modules).symm
      rw [hcalls, runSteps_asStarting (hinitialized rfl), hstarted]
      exact congrArg (Option.map _) hclimb
  | false =>
      have hsame : l = { l with started := 0 } := by rw [← show l.started = 0 from hstarted]
      rw [← hsame]
      rfl

theorem runSteps_shutdownModules (hinitialized : l.initialized = levelOf modules up)
    (hstarted : l.started = 0) :
    runSteps (levelStep modules) l (takeDown .shutdownModule modules up) =
      some { l with initialized := 0 } := by
  cases up with
  | true =>
      have hcalls : takeDown .shutdownModule modules true =
          (modules.reverse.map Rung.down).map asInitialization := by
        rw [List.map_map]
        rfl
      have hclimb := runSteps_down (List.append_nil modules).symm
      rw [hcalls, runSteps_asInitialization hstarted, hinitialized]
      exact congrArg (Option.map _) hclimb
  | false =>
      have hsame : l = { l with initialized := 0 } := by
        rw [← show l.initialized = 0 from hinitialized]
      rw [← hsame]
      rfl

end

/-! ### The application on the ladders -/

def levelsOf (app : Application μ) : Levels where
  initialized := levelOf app.modules app.initialized
  started := levelOf app.modules app.running

/-- The calls that the application has made lead to the levels that its flags say. -/
structure OnLevels (app : Application μ) : Prop where
  running : app.running = true → app.initialized = true
  levels : runSteps (levelStep app.modules) {} app.calls = some (levelsOf app)

theorem onLevels_of_modules (modules : List μ) :
    OnLevels ({ modules := modules } : Application μ) :=
  ⟨fun h => h, rfl⟩

theorem OnLevels.visits {app next : Application μ} (h : OnLevels app) {op : ApplicationOperation}
    {trace : List (ModuleCall μ)} (hvisits : Visits app next op trace)
    (hcalls : next.calls = app.calls ++ trace) (hmodules : next.modules = app.modules) :
    OnLevels next := by
  have hidle (hup : app.initialized = false) : (levelsOf app).started = 0 := by
    rw [levelsOf]
    cases hrunning : app.running with
    | true => rw [h.running hrunning] at hup; cases hup
    | false => rfl
  have hlevels (t : Levels) (hrun : runSteps (levelStep app.modules) (levelsOf app) trace = some t)
      (ht : t = levelsOf next) :
      runSteps (levelStep next.modules) {} next.calls = some (levelsOf next) := by
    rw [hmodules, hcalls, runSteps_append, h.levels, Option.bind_some, hrun, ht]
  cases hvisits with
  | initializeAll hup hrunning =>
      refine ⟨fun hnext => ?_, hlevels _ (hup.initializedLevel rfl hidle) ?_⟩
      · have hwas : app.initialized = true := h.running (hrunning ▸ hnext)
        rw [BringsUp, if_pos hwas] at hup
        exact hup.2
      · rw [levelsOf, levelsOf, hmodules, hrunning]
  | notInitialized hup hinitialized hrunning =>
      refine ⟨fun hnext => ?_, hlevels _ (hup.initializedLevel rfl hidle) ?_⟩
      · have hwas : app.initialized = true := h.running (hrunning ▸ hnext)
        rw [BringsUp, if_pos hwas] at hup
        exact absurd hup.2 Bool.false_ne_true
      · rw [levelsOf, levelsOf, hmodules, hrunning, hinitialized]
  | startAll hup hinitialized hstart =>
      refine ⟨fun _ => hinitialized, hlevels _ ?_ rfl⟩
      rw [runSteps_append, hup.initializedLevel rfl hidle, Option.bind_some,
        hstart.startedLevel rfl rfl]
      rw [levelsOf, levelsOf, hinitialized, hmodules]
  | stopAll hinitialized hrunning =>
      refine ⟨fun hnext => absurd (hrunning.symm.trans hnext) Bool.false_ne_true,
        hlevels _ (runSteps_stopModules rfl fun hup => ?_) ?_⟩
      · rw [levelsOf, h.running hup]
        rfl
      · rw [levelsOf, levelsOf, hmodules, hrunning, hinitialized]
        rfl
  | shutdownAll hinitialized hrunning =>
      refine ⟨fun hnext => absurd (hrunning.symm.trans hnext) Bool.false_ne_true,
        hlevels {} ?_ ?_⟩
      · rw [runSteps_append, runSteps_stopModules rfl fun hup => ?_, Option.bind_some]
        · exact runSteps_shutdownModules rfl rfl
        · rw [levelsOf, h.running hup]
          rfl
      · rw [levelsOf, hrunning, hinitialized]
        rfl

/-! ### Every moment of a run -/

/-- What the calls so far have brought up and not taken down. -/
structure AtLevels (modules : List μ) (before : List (ModuleCall μ)) (l : Levels) : Prop where
  initialized : ∀ target, initializedAfter before target = upAt modules l.initialized target
  started : ∀ target, startedAfter before target = upAt modules l.started target
  nested : 0 < l.started → l.initialized = modules.length

/-- What a call finds: nothing is brought up twice or taken down twice, no module is started
before all are initialized, and none is shut down while one of them runs. -/
def CallFits (modules : List μ) (before : List (ModuleCall μ)) : ModuleCall μ → Prop
  | .initializeModule target _ =>
      initializedAfter before target = false ∧ ∀ other, startedAfter before other = false
  | .shutdownModule target =>
      initializedAfter before target = true ∧ ∀ other, startedAfter before other = false
  | .startModule target _ =>
      startedAfter before target = false ∧ ∀ other ∈ modules, initializedAfter before other = true
  | .stopModule target =>
      startedAfter before target = true ∧ ∀ other ∈ modules, initializedAfter before other = true

section

variable {modules : List μ} {l next : Levels} {before : List (ModuleCall μ)} {call : ModuleCall μ}

theorem initializedAfter_rung (rung : Rung μ) (target : μ) :
    initializedAfter (before ++ [asInitialization rung]) target =
      latch (· = Rung.up target true) (· = Rung.down target) (initializedAfter before target)
        [rung] := by
  rw [initializedAfter, latch_append, ← initializedAfter]
  cases rung <;> simp [latch_cons, asInitialization]

theorem startedAfter_rung (rung : Rung μ) (target : μ) :
    startedAfter (before ++ [asStarting rung]) target =
      latch (· = Rung.up target true) (· = Rung.down target) (startedAfter before target)
        [rung] := by
  rw [startedAfter, latch_append, ← startedAfter]
  cases rung <;> simp [latch_cons, asStarting]

theorem AtLevels.step (h : AtLevels modules before l) (hnodup : modules.Nodup)
    (hstep : levelStep modules l call = some next) : AtLevels modules (before ++ [call]) next := by
  obtain ⟨rung, rfl | rfl⟩ := exists_rung call
  · obtain ⟨hstarted, i, hclimb, rfl⟩ := of_levelStep_asInitialization hstep
    refine ⟨fun target => ?_, fun target => ?_, fun hpos => absurd hpos (by simp [hstarted])⟩
    · rw [initializedAfter_rung, h.initialized, upAt_ladderStep hnodup hclimb]
    · rw [startedAfter_append_initialization (onlyInitialization_rung rung), h.started]
  · obtain ⟨hinitialized, i, hclimb, rfl⟩ := of_levelStep_asStarting hstep
    refine ⟨fun target => ?_, fun target => ?_, fun _ => hinitialized⟩
    · rw [initializedAfter_append_starting (onlyStarting_rung rung), h.initialized]
    · rw [startedAfter_rung, h.started, upAt_ladderStep hnodup hclimb]

theorem AtLevels.fits (h : AtLevels modules before l) (hnodup : modules.Nodup)
    (hstep : levelStep modules l call = some next) : CallFits modules before call := by
  have hground (hstarted : l.started = 0) (other : μ) : startedAfter before other = false := by
    rw [h.started, hstarted]
    rfl
  have htop (hinitialized : l.initialized = modules.length) (other : μ) (hother : other ∈ modules) :
      initializedAfter before other = true := by
    rw [h.initialized, hinitialized, upAt, List.take_length]
    exact decide_eq_true hother
  obtain ⟨rung, rfl | rfl⟩ := exists_rung call
  · obtain ⟨hstarted, i, hclimb, -⟩ := of_levelStep_asInitialization hstep
    cases rung with
    | up target ok =>
        exact ⟨(h.initialized target).trans (upAt_of_up hnodup hclimb), hground hstarted⟩
    | down target =>
        exact ⟨(h.initialized target).trans (upAt_of_down hclimb), hground hstarted⟩
  · obtain ⟨hinitialized, i, hclimb, -⟩ := of_levelStep_asStarting hstep
    cases rung with
    | up target ok =>
        exact ⟨(h.started target).trans (upAt_of_up hnodup hclimb), htop hinitialized⟩
    | down target => exact ⟨(h.started target).trans (upAt_of_down hclimb), htop hinitialized⟩

theorem runSteps_atLevels (hnodup : modules.Nodup)
    (hrun : runSteps (levelStep modules) {} before = some l) : AtLevels modules before l := by
  induction before using List.reverseRecOn generalizing l with
  | nil =>
      cases hrun
      exact ⟨fun _ => rfl, fun _ => rfl, fun h => absurd h (Nat.lt_irrefl 0)⟩
  | append_singleton before call ih =>
      rw [runSteps_append, Option.bind_eq_some_iff] at hrun
      obtain ⟨between, hbefore, hcall⟩ := hrun
      rw [runSteps_cons_eq_some] at hcall
      obtain ⟨after, hstep, hlast⟩ := hcall
      cases hlast
      exact (ih hbefore).step hnodup hstep

end

theorem onLevels_runApplication (env : ModuleEnv μ) (modules : List μ)
    (ops : List ApplicationOperation) :
    OnLevels (runApplication env modules ops) ∧
      (runApplication env modules ops).modules = modules := by
  rw [runApplication, registered_eq]
  suffices h : ∀ app : Application μ, OnLevels app → app.modules = modules →
      OnLevels (ops.foldl (runApplicationOperation env) app) ∧
        (ops.foldl (runApplicationOperation env) app).modules = modules from
    h _ (onLevels_of_modules modules) rfl
  intro app happ hmodules
  induction ops generalizing app with
  | nil => exact ⟨happ, hmodules⟩
  | cons op ops ih =>
      obtain ⟨trace, hvisits, hcalls, hnext⟩ := runApplicationOperation_visits env app op
      exact ih _ (happ.visits hvisits hcalls hnext) (hnext.trans hmodules)

/-- At every moment of every run the modules that are initialized and those that run are the
first ones in the order of registration, and every call fits in with that. -/
theorem runApplication_levels (env : ModuleEnv μ) {modules : List μ} (hnodup : modules.Nodup)
    (ops : List ApplicationOperation) (before : List (ModuleCall μ))
    (hbefore : before <+: (runApplication env modules ops).calls) :
    (∃ l, AtLevels modules before l) ∧
      ∀ call, before ++ [call] <+: (runApplication env modules ops).calls →
        CallFits modules before call := by
  obtain ⟨honLevels, hmodules⟩ := onLevels_runApplication env modules ops
  have hlevels := honLevels.levels
  rw [hmodules] at hlevels
  have hreached (first : List (ModuleCall μ))
      (hfirst : first <+: (runApplication env modules ops).calls) :
      ∃ l, runSteps (levelStep modules) {} first = some l := by
    obtain ⟨rest, hrest⟩ := hfirst
    rw [← hrest, runSteps_append, Option.bind_eq_some_iff] at hlevels
    exact hlevels.imp fun _ h => h.1
  refine ⟨(hreached before hbefore).imp fun _ => runSteps_atLevels hnodup, fun call hcall => ?_⟩
  obtain ⟨l, hrun⟩ := hreached _ hcall
  rw [runSteps_append, Option.bind_eq_some_iff] at hrun
  obtain ⟨between, hrun, hlast⟩ := hrun
  obtain ⟨next, hstep, -⟩ := (runSteps_cons_eq_some _).mp hlast
  exact (runSteps_atLevels hnodup hrun).fits hnodup hstep

/-- Two modules of three have been started, and the third one does not start. -/
theorem thirdFails_levels :
    (∃ l, AtLevels [0, 1, 2] [.initializeModule 0 true, .initializeModule 1 true,
      .initializeModule 2 true, .startModule 0 true, .startModule 1 true] l) ∧
      CallFits [0, 1, 2] [.initializeModule 0 true, .initializeModule 1 true,
        .initializeModule 2 true, .startModule 0 true, .startModule 1 true]
        (.startModule 2 false) :=
  have h := runApplication_levels ⟨fun _ _ => true, fun target _ => target != 2⟩
    (by decide : [0, 1, 2].Nodup) [.initializeAll, .startAll] _ (by decide)
  ⟨h.1, h.2 _ (by decide)⟩

end

end AvProject.Server
