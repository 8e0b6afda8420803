import AvProject.Server.Application

/-!
The modules are up exactly while the flags of the application say so, after every
sequence of operations and for every pattern of failures.
-/

namespace AvProject.Server

open AvProject.Lib

section

variable {μ : Type} {env : ModuleEnv μ} {app next : Application μ}

/-! ### Each operation makes the calls of `Visits` -/

theorem initializeAllModules_trace (env : ModuleEnv μ) (app : Application μ) :
    ∃ trace, AttemptTrace .initializeModule .shutdownModule app.modules trace
        (initializeAllModules env app).2 ∧
      (initializeAllModules env app).1 = { app with calls := app.calls ++ trace } := by
  obtain ⟨trace, htrace, hcalls⟩ := attemptAll_log ModuleCall.initializeModule .shutdownModule
    env.initializes [] app.modules app.calls
  refine ⟨trace, htrace, ?_⟩
  rw [← hcalls]
  rfl

theorem startAllModules_trace (env : ModuleEnv μ) (app : Application μ) :
    ∃ trace, AttemptTrace .startModule .stopModule app.modules trace
        (startAllModules env app).2 ∧
      (startAllModules env app).1 = { app with calls := app.calls ++ trace } := by
  obtain ⟨trace, htrace, hcalls⟩ := attemptAll_log ModuleCall.startModule .stopModule
    env.starts [] app.modules app.calls
  refine ⟨trace, htrace, ?_⟩
  rw [← hcalls]
  rfl

/-- `Initialize` brings the modules up, unless they are up already. -/
theorem initializeApplication_trace (env : ModuleEnv μ) (app : Application μ) :
    ∃ trace, BringsUp .initializeModule .shutdownModule app.modules app.initialized trace
        (initializeApplication env app).2 ∧
      (initializeApplication env app).1 =
        { app with
          calls := app.calls ++ trace
          initialized := (initializeApplication env app).2 } := by
  cases hinitialized : app.initialized with
  | true =>
      have hnoop : initializeApplication env app = (app, true) := by
        rw [initializeApplication, if_pos hinitialized]
      refine ⟨[], ?_, ?_⟩
      · rw [hnoop]
        exact ⟨rfl, rfl⟩
      · rw [hnoop, List.append_nil, ← hinitialized]
  | false =>
      obtain ⟨trace, htrace, happ⟩ := initializeAllModules_trace env app
      refine ⟨trace, ?_, ?_⟩
      · simpa [BringsUp, initializeApplication, hinitialized] using htrace
      · simp [initializeApplication, hinitialized, happ]

/-- `Start` initializes the modules first, and starts them where that succeeded. -/
theorem startApplication_visits (env : ModuleEnv μ) (app : Application μ) :
    ∃ trace, Visits app (startApplication env app).1 .startAll trace ∧
      (startApplication env app).1.calls = app.calls ++ trace ∧
      (startApplication env app).1.modules = app.modules := by
  obtain ⟨first, hfirst, happ⟩ := initializeApplication_trace env app
  have hready : (if app.initialized = true then (app, true) else initializeApplication env app) =
      ({ app with
          calls := app.calls ++ first
          initialized := (initializeApplication env app).2 },
        (initializeApplication env app).2) := by
    rw [← happ]
    split
    · rename_i hinitialized
      rw [initializeApplication, if_pos hinitialized]
    · rfl
  rw [startApplication, hready]
  cases hok : (initializeApplication env app).2 with
  | false =>
      rw [hok] at hfirst
      exact ⟨first, .notInitialized hfirst rfl rfl, rfl, rfl⟩
  | true =>
      rw [hok] at hfirst
      simp only [Bool.not_true, Bool.false_eq_true, if_false]
      cases hrunning : app.running with
      | true =>
          refine ⟨first ++ [], .startAll hfirst rfl ?_, ?_, rfl⟩
          · simp [BringsUp, hrunning]
          · simp
      | false =>
          obtain ⟨rest, hrest, hnext⟩ := startAllModules_trace env
            { app with calls := app.calls ++ first, initialized := true, running := false }
          refine ⟨first ++ rest, .startAll hfirst ?_ ?_, ?_, ?_⟩
          · simp [hnext]
          · simpa [BringsUp, hrunning] using hrest
          · simp [hnext]
          · simp [hnext]

theorem stopApplication_eq (app : Application μ) :
    stopApplication app =
      { app with
        calls := app.calls ++ takeDown .stopModule app.modules app.running
        running := false } := by
  obtain ⟨modules, initialized, running, calls⟩ := app
  cases running with
  | false => simp [stopApplication, takeDown]
  | true =>
      have hlog := undoAll_log ModuleCall.stopModule modules calls
      exact congrArg (fun log => (⟨modules, initialized, false, log⟩ : Application μ)) hlog

theorem shutdownApplication_eq (app : Application μ) :
    shutdownApplication app =
      { app with
        calls := app.calls ++ (takeDown .stopModule app.modules app.running ++
          takeDown .shutdownModule app.modules app.initialized)
        initialized := false
        running := false } := by
  rw [shutdownApplication, stopApplication_eq, ← List.append_assoc]
  obtain ⟨modules, initialized, running, calls⟩ := app
  cases initialized with
  | false => simp [takeDown]
  | true =>
      have hlog := undoAll_log ModuleCall.shutdownModule modules
        (calls ++ takeDown .stopModule modules running)
      exact congrArg (fun log => (⟨modules, false, false, log⟩ : Application μ)) hlog

/-- Every operation visits the modules as `Visits` says. -/
theorem runApplicationOperation_visits (env : ModuleEnv μ) (app : Application μ)
    (op : ApplicationOperation) :
    ∃ trace, Visits app (runApplicationOperation env app op) op trace ∧
      (runApplicationOperation env app op).calls = app.calls ++ trace ∧
      (runApplicationOperation env app op).modules = app.modules := by
  cases op with
  | initializeAll =>
      obtain ⟨trace, htrace, happ⟩ := initializeApplication_trace env app
      refine ⟨trace, .initializeAll ?_ ?_, ?_, ?_⟩
      · simpa [runApplicationOperation, happ] using htrace
      all_goals simp [runApplicationOperation, happ]
  | startAll => exact startApplication_visits env app
  | stopAll =>
      refine ⟨_, .stopAll ?_ ?_, ?_, ?_⟩
      all_goals simp [runApplicationOperation, stopApplication_eq]
  | shutdownAll =>
      refine ⟨_, .shutdownAll ?_ ?_, ?_, ?_⟩
      all_goals simp [runApplicationOperation, shutdownApplication_eq]

/-! ### The calls of an operation -/

section

variable {did : μ → Bool → ModuleCall μ} {undone : μ → ModuleCall μ} {modules : List μ}
  {trace : List (ModuleCall μ)} {already up ok : Bool}

/-- Calls of the two kinds only. -/
def OnlyCalls (did : μ → Bool → ModuleCall μ) (undone : μ → ModuleCall μ)
    (calls : List (ModuleCall μ)) : Prop :=
  ∀ call ∈ calls, (∃ target ok, call = did target ok) ∨ ∃ target, call = undone target

abbrev OnlyInitialization : List (ModuleCall μ) → Prop :=
  OnlyCalls .initializeModule .shutdownModule

abbrev OnlyStarting : List (ModuleCall μ) → Prop := OnlyCalls .startModule .stopModule

theorem BringsUp.onlyCalls (h : BringsUp did undone modules already trace ok) :
    OnlyCalls did undone trace := by
  intro call hcall
  cases already with
  | true =>
      obtain ⟨rfl, -⟩ := h
      simp at hcall
  | false =>
      rcases AttemptTrace.mem h hcall with ⟨target, -, done, rfl⟩ | ⟨target, rfl⟩
      · exact .inl ⟨target, done, rfl⟩
      · exact .inr ⟨target, rfl⟩

theorem onlyCalls_takeDown : OnlyCalls did undone (takeDown undone modules up) := by
  intro call hcall
  cases up with
  | true =>
      obtain ⟨target, -, rfl⟩ := List.mem_map.mp hcall
      exact .inr ⟨target, rfl⟩
  | false => simp [takeDown] at hcall

/-- Only registered modules are started. -/
theorem BringsUp.mem_modules (h : BringsUp .startModule .stopModule modules already trace ok)
    {target : μ} {done : Bool} (hstart : .startModule target done ∈ trace) :
    target ∈ modules := by
  cases already with
  | true =>
      obtain ⟨rfl, -⟩ := h
      simp at hstart
  | false =>
      rcases AttemptTrace.mem h hstart with ⟨other, hother, _, heq⟩ | ⟨other, heq⟩
      · cases heq
        exact hother
      · cases heq

end

/-! ### What the calls leave up -/

section

variable [DecidableEq μ]

/-- The module was started and not stopped since. -/
def startedAfter (calls : List (ModuleCall μ)) (target : μ) : Bool :=
  latch (· = .startModule target true) (· = .stopModule target) false calls

/-- The module was initialized and not shut down since. -/
def initializedAfter (calls : List (ModuleCall μ)) (target : μ) : Bool :=
  latch (· = .initializeModule target true) (· = .shutdownModule target) false calls

/-- No module is started before it is initialized, or after it has been shut down. -/
def StartsInitialized (calls : List (ModuleCall μ)) : Prop :=
  ∀ before target ok rest, calls = before ++ .startModule target ok :: rest →
    initializedAfter before target = true

structure LifecycleInvariant (app : Application μ) : Prop where
  started : ∀ target,
    startedAfter app.calls target = (app.running && decide (target ∈ app.modules))
  initialized : ∀ target,
    initializedAfter app.calls target = (app.initialized && decide (target ∈ app.modules))
  running : app.running = true → app.initialized = true
  starts : StartsInitialized app.calls

section

variable {target : μ} {modules : List μ} {trace calls : List (ModuleCall μ)} {already up ok : Bool}

theorem BringsUp.started (h : BringsUp .startModule .stopModule modules already trace ok)
    (hcalls : startedAfter calls target = (already && decide (target ∈ modules))) :
    startedAfter (calls ++ trace) target = (ok && decide (target ∈ modules)) := by
  rw [startedAfter] at hcalls
  rw [startedAfter, latch_append, hcalls]
  cases already with
  | true =>
      obtain ⟨rfl, rfl⟩ := h
      rfl
  | false =>
      exact latch_attemptTrace (by simp) (fun _ _ => ModuleCall.stopModule.inj) (by simp)
        (by simp) h

theorem BringsUp.initialized
    (h : BringsUp .initializeModule .shutdownModule modules already trace ok)
    (hcalls : initializedAfter calls target = (already && decide (target ∈ modules))) :
    initializedAfter (calls ++ trace) target = (ok && decide (target ∈ modules)) := by
  rw [initializedAfter] at hcalls
  rw [initializedAfter, latch_append, hcalls]
  cases already with
  | true =>
      obtain ⟨rfl, rfl⟩ := h
      rfl
  | false =>
      exact latch_attemptTrace (by simp) (fun _ _ => ModuleCall.shutdownModule.inj) (by simp)
        (by simp) h

theorem startedAfter_takeDown
    (hcalls : startedAfter calls target = (up && decide (target ∈ modules))) :
    startedAfter (calls ++ takeDown .stopModule modules up) target = false := by
  rw [startedAfter] at hcalls
  rw [startedAfter, latch_append, hcalls]
  cases up with
  | true =>
      rw [takeDown, if_pos rfl, latch_undone (fun _ _ => ModuleCall.stopModule.inj) (by simp)]
      simp
  | false => rfl

theorem initializedAfter_takeDown
    (hcalls : initializedAfter calls target = (up && decide (target ∈ modules))) :
    initializedAfter (calls ++ takeDown .shutdownModule modules up) target = false := by
  rw [initializedAfter] at hcalls
  rw [initializedAfter, latch_append, hcalls]
  cases up with
  | true =>
      rw [takeDown, if_pos rfl,
        latch_undone (fun _ _ => ModuleCall.shutdownModule.inj) (by simp)]
      simp
  | false => rfl

/-! ### What the calls leave alone -/

theorem startedAfter_append_initialization (h : OnlyInitialization trace) :
    startedAfter (calls ++ trace) target = startedAfter calls target := by
  rw [startedAfter, latch_append]
  apply latch_of_neither
  all_goals
    intro call hcall heq
    rcases h call hcall with ⟨_, _, rfl⟩ | ⟨_, rfl⟩ <;> cases heq

theorem initializedAfter_append_starting (h : OnlyStarting trace) :
    initializedAfter (calls ++ trace) target = initializedAfter calls target := by
  rw [initializedAfter, latch_append]
  apply latch_of_neither
  all_goals
    intro call hcall heq
    rcases h call hcall with ⟨_, _, rfl⟩ | ⟨_, rfl⟩ <;> cases heq

/-- New calls are fine where the modules they start are initialized. -/
theorem StartsInitialized.append (h : StartsInitialized calls)
    (htrace : ∀ before target ok rest, trace = before ++ .startModule target ok :: rest →
      initializedAfter (calls ++ before) target = true) :
    StartsInitialized (calls ++ trace) := by
  intro before target ok rest hsplit
  rcases List.append_eq_append_iff.mp hsplit with ⟨inside, hbefore, hinside⟩ |
    ⟨inside, hcalls, hinside⟩
  · rw [hbefore]
    exact htrace inside target ok rest hinside
  · cases inside with
    | nil =>
        rw [List.append_nil] at hcalls
        rw [← hcalls, ← List.append_nil calls]
        exact htrace [] target ok rest hinside.symm
    | cons call inside =>
        rw [List.cons_append] at hinside
        obtain ⟨rfl, -⟩ := List.cons.inj hinside
        exact h before target ok inside hcalls

theorem StartsInitialized.append_initialization (h : StartsInitialized calls)
    (htrace : OnlyInitialization trace) : StartsInitialized (calls ++ trace) := by
  refine h.append fun before target ok rest hsplit => ?_
  rcases htrace (.startModule target ok) (by simp [hsplit]) with ⟨_, _, heq⟩ | ⟨_, heq⟩ <;>
    cases heq

/-- Where all modules are initialized, starting and stopping them is fine. -/
theorem StartsInitialized.append_starting (h : StartsInitialized calls)
    (htrace : OnlyStarting trace)
    (hinitialized : ∀ target ok, .startModule target ok ∈ trace →
      initializedAfter calls target = true) : StartsInitialized (calls ++ trace) := by
  refine h.append fun before target ok rest hsplit => ?_
  have hbefore : OnlyStarting before :=
    fun call hcall => htrace call (hsplit ▸ List.mem_append_left _ hcall)
  rw [initializedAfter_append_starting hbefore]
  exact hinitialized target ok (by simp [hsplit])

end

/-! ### Runs -/

/-- What an operation visits keeps the flags in step with the modules. -/
theorem LifecycleInvariant.visits (h : LifecycleInvariant app) {op : ApplicationOperation}
    {trace : List (ModuleCall μ)} (hvisits : Visits app next op trace)
    (hcalls : next.calls = app.calls ++ trace) (hmodules : next.modules = app.modules) :
    LifecycleInvariant next := by
  cases hvisits with
  | initializeAll hup hrunning =>
      have honly := hup.onlyCalls
      have hinitialized := fun target => hup.initialized (h.initialized target)
      refine ⟨fun target => ?_, fun target => ?_, fun hup' => ?_, ?_⟩
      · rw [hcalls, startedAfter_append_initialization honly, h.started, hrunning, hmodules]
      · rw [hcalls, hinitialized, hmodules]
      · have hwas : app.initialized = true := h.running (hrunning ▸ hup')
        rw [BringsUp, if_pos hwas] at hup
        exact hup.2
      · rw [hcalls]
        exact h.starts.append_initialization honly
  | notInitialized hup hnot hrunning =>
      have honly := hup.onlyCalls
      have hinitialized := fun target => hup.initialized (h.initialized target)
      refine ⟨fun target => ?_, fun target => ?_, fun hup' => ?_, ?_⟩
      · rw [hcalls, startedAfter_append_initialization honly, h.started, hrunning, hmodules]
      · rw [hcalls, hinitialized, hnot, hmodules]
      · have hwas : app.initialized = true := h.running (hrunning ▸ hup')
        rw [BringsUp, if_pos hwas] at hup
        exact absurd hup.2 Bool.false_ne_true
      · rw [hcalls]
        exact h.starts.append_initialization honly
  | @startAll first rest hup hready hstart =>
      have honly := hup.onlyCalls
      have hinitialized := fun target => hup.initialized (h.initialized target)
      rw [← List.append_assoc] at hcalls
      refine ⟨fun target => ?_, fun target => ?_, fun _ => hready, ?_⟩
      · rw [hcalls, hmodules]
        apply hstart.started
        rw [startedAfter_append_initialization honly, h.started]
      · rw [hcalls, initializedAfter_append_starting hstart.onlyCalls, hinitialized, hready,
          hmodules]
      · rw [hcalls]
        refine (h.starts.append_initialization honly).append_starting hstart.onlyCalls ?_
        intro target ok hmem
        rw [hinitialized, Bool.true_and]
        exact decide_eq_true (hstart.mem_modules hmem)
  | stopAll hinitialized hrunning =>
      have honly : OnlyStarting (takeDown .stopModule app.modules app.running) :=
        onlyCalls_takeDown
      refine ⟨fun target => ?_, fun target => ?_, fun hup => ?_, ?_⟩
      · rw [hcalls, startedAfter_takeDown (h.started target), hrunning, Bool.false_and]
      · rw [hcalls, initializedAfter_append_starting honly, h.initialized, hinitialized, hmodules]
      · simp [hrunning] at hup
      · rw [hcalls]
        refine h.starts.append_starting honly fun target ok hmem => ?_
        rw [takeDown] at hmem
        split at hmem <;> simp at hmem
  | shutdownAll hinitialized hrunning =>
      have hstopped : OnlyStarting (takeDown .stopModule app.modules app.running) :=
        onlyCalls_takeDown
      have hshut : OnlyInitialization (takeDown .shutdownModule app.modules app.initialized) :=
        onlyCalls_takeDown
      rw [← List.append_assoc] at hcalls
      refine ⟨fun target => ?_, fun target => ?_, fun hup => ?_, ?_⟩
      · rw [hcalls, startedAfter_append_initialization hshut,
          startedAfter_takeDown (h.started target), hrunning, Bool.false_and]
      · have hinit : initializedAfter
            (app.calls ++ takeDown .stopModule app.modules app.running) target =
              (app.initialized && decide (target ∈ app.modules)) := by
          rw [initializedAfter_append_starting hstopped, h.initialized]
        rw [hcalls, initializedAfter_takeDown hinit, hinitialized, Bool.false_and]
      · simp [hrunning] at hup
      · rw [hcalls]
        refine StartsInitialized.append_initialization ?_ hshut
        refine h.starts.append_starting hstopped fun target ok hmem => ?_
        rw [takeDown] at hmem
        split at hmem <;> simp at hmem

theorem lifecycleInvariant_runApplication (env : ModuleEnv μ) (modules : List μ)
    (ops : List ApplicationOperation) :
    LifecycleInvariant (runApplication env modules ops) ∧
      (runApplication env modules ops).modules = modules := by
  rw [runApplication, registered_eq]
  have hstart : LifecycleInvariant ({ modules := modules } : Application μ) :=
    ⟨fun _ => rfl, fun _ => rfl, fun h => h, by simp [StartsInitialized]⟩
  suffices h : ∀ app : Application μ, LifecycleInvariant app → app.modules = modules →
      LifecycleInvariant (ops.foldl (runApplicationOperation env) app) ∧
        (ops.foldl (runApplicationOperation env) app).modules = modules from h _ hstart rfl
  intro app happ hmodules
  induction ops generalizing app with
  | nil => exact ⟨happ, hmodules⟩
  | cons op ops ih =>
      obtain ⟨trace, hvisits, hcalls, hnext⟩ := runApplicationOperation_visits env app op
      exact ih _ (happ.visits hvisits hcalls hnext) (hnext.trans hmodules)

/-- The lifecycle of the modules after every sequence of operations: the flags say which
modules are up, and the next operation visits them in order. -/
theorem runApplication_lifecycle (env : ModuleEnv μ) (modules : List μ)
    (ops : List ApplicationOperation) :
    LifecycleInvariant (runApplication env modules ops) ∧
      (runApplication env modules ops).modules = modules ∧
      ∀ op, ∃ trace,
        (runApplication env modules (ops ++ [op])).calls =
          (runApplication env modules ops).calls ++ trace ∧
        Visits (runApplication env modules ops) (runApplication env modules (ops ++ [op])) op
          trace := by
  obtain ⟨hinv, hmodules⟩ := lifecycleInvariant_runApplication env modules ops
  refine ⟨hinv, hmodules, fun op => ?_⟩
  obtain ⟨trace, hvisits, hcalls, -⟩ :=
    runApplicationOperation_visits env (runApplication env modules ops) op
  have hstep : runApplication env modules (ops ++ [op]) =
      runApplicationOperation env (runApplication env modules ops) op := by
    simp only [runApplication, List.foldl_append, List.foldl_cons, List.foldl_nil]
  rw [hstep]
  exact ⟨trace, hcalls, hvisits⟩

/-- The third module does not start, and the two before it are stopped again. -/
example : (runApplication ⟨fun _ _ => true, fun target _ => target != 2⟩ [0, 1, 2]
      [.initializeAll, .startAll]).calls =
    [.initializeModule 0 true, .initializeModule 1 true, .initializeModule 2 true,
      .startModule 0 true, .startModule 1 true, .startModule 2 false,
      .stopModule 1, .stopModule 0] := by
  decide

end

end

end AvProject.Server
