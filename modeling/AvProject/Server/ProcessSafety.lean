import AvProject.Server.AppBootstrap
import AvProject.Server.ModuleLevels

/-!
The server process in every interleaving of its main thread and the capturing thread. The
transport backend is given a well-formed sequence of calls: one backend at a time, which is
initialized, started and stopped, and shut down before it is destroyed, and which gets frames
only while it runs. And a frame is handed out in vain only once the server is being stopped.
-/

namespace AvProject.Server

open AvProject.Lib

/-! ### What a backend expects -/

inductive BackendPhase
  | absent
  | created
  | initialized
  | running
  | closed
  deriving DecidableEq, Repr

def backendStep : BackendPhase → BackendCall → Option BackendPhase
  | .absent, .create _ => some .created
  | .created, .initializeBackend ok => some (if ok then .initialized else .closed)
  | .initialized, .start ok => some (if ok then .running else .initialized)
  | .running, .broadcast => some .running
  | .running, .stop => some .initialized
  | .initialized, .shutdown => some .closed
  | .closed, .destroy => some .absent
  | _, _ => none

/-! ### The application's calls -/

section

variable {μ : Type} {env : ModuleEnv μ} {P : List (ModuleCall μ) → Prop}

/-- What the four kinds of calls preserve is preserved by the application. -/
theorem runApplicationOperation_preserves
    (hinit : ∀ target calls, P calls → P (callInitialize env target calls).1)
    (hstart : ∀ target calls, P calls → P (callStart env target calls).1)
    (hstop : ∀ target calls, P calls → P (callStop target calls))
    (hshutdown : ∀ target calls, P calls → P (callShutdown target calls))
    {app : Application μ} (h : P app.calls) (op : ApplicationOperation) :
    P (runApplicationOperation env app op).calls := by
  have hinits (app : Application μ) (h : P app.calls) :
      P (initializeApplication env app).1.calls := by
    rw [initializeApplication]
    split
    · exact h
    · exact attemptAll_preserves hinit hshutdown [] app.modules _ h
  have hstops (app : Application μ) (h : P app.calls) : P (stopApplication app).calls := by
    rw [stopApplication]
    split
    · exact h
    · exact undoAll_preserves hstop app.modules _ h
  cases op with
  | initializeAll => exact hinits app h
  | startAll =>
      show P (startApplication env app).1.calls
      have hready : P (if app.initialized = true then (app, true)
          else initializeApplication env app).1.calls := by
        split
        · exact h
        · exact hinits app h
      rw [startApplication]
      generalize (if app.initialized = true then (app, true)
        else initializeApplication env app) = first at hready
      obtain ⟨app, ready⟩ := first
      simp only
      split
      · exact hready
      · split
        · exact hready
        · exact attemptAll_preserves hstart hstop [] app.modules _ hready
  | stopAll => exact hstops app h
  | shutdownAll =>
      show P (shutdownApplication app).calls
      rw [shutdownApplication]
      simp only
      split
      · exact hstops app h
      · exact undoAll_preserves hshutdown _ _ (hstops app h)

end

/-! ### The calls of the two modules -/

def serverModules : List ServerModule := [.transport, .capture]

/-- What a call of a server module does, wherever it can be made. -/
inductive ServerMove : Levels → ModuleCall ServerModule → Levels → Prop
  | initializeTransport (ok : Bool) :
      ServerMove ⟨0, 0⟩ (.initializeModule .transport ok) ⟨if ok then 1 else 0, 0⟩
  | initializeCapture (ok : Bool) :
      ServerMove ⟨1, 0⟩ (.initializeModule .capture ok) ⟨if ok then 2 else 1, 0⟩
  | startTransport (ok : Bool) :
      ServerMove ⟨2, 0⟩ (.startModule .transport ok) ⟨2, if ok then 1 else 0⟩
  | startCapture (ok : Bool) :
      ServerMove ⟨2, 1⟩ (.startModule .capture ok) ⟨2, if ok then 2 else 1⟩
  | stopCapture : ServerMove ⟨2, 2⟩ (.stopModule .capture) ⟨2, 1⟩
  | stopTransport : ServerMove ⟨2, 1⟩ (.stopModule .transport) ⟨2, 0⟩
  | shutdownCapture : ServerMove ⟨2, 0⟩ (.shutdownModule .capture) ⟨1, 0⟩
  | shutdownTransport : ServerMove ⟨1, 0⟩ (.shutdownModule .transport) ⟨0, 0⟩

section

variable {cfg : TransportConfig} {l next : Levels} {call : ModuleCall ServerModule}

theorem serverModules_transport {n : ℕ} : serverModules[n]? = some .transport ↔ n = 0 := by
  match n with
  | 0 | 1 => decide
  | n + 2 => simp [serverModules]

theorem serverModules_capture {n : ℕ} : serverModules[n]? = some .capture ↔ n = 1 := by
  match n with
  | 0 | 1 => decide
  | n + 2 => simp [serverModules]

theorem ladderStep_serverModules {height top : ℕ} {rung : Rung ServerModule}
    (h : ladderStep serverModules height rung = some top) :
    (∃ ok, (rung = .up .transport ok ∧ height = 0 ∧ top = if ok then 1 else 0) ∨
      (rung = .up .capture ok ∧ height = 1 ∧ top = if ok then 2 else 1)) ∨
      (rung = .down .transport ∧ height = 1 ∧ top = 0) ∨
        (rung = .down .capture ∧ height = 2 ∧ top = 1) := by
  rw [ladderStep.eq_def] at h
  cases rung with
  | up target ok =>
      simp only at h
      split at h <;> cases h
      rename_i hitem
      cases target with
      | transport =>
          obtain rfl := serverModules_transport.mp hitem
          exact .inl ⟨ok, .inl ⟨rfl, rfl, rfl⟩⟩
      | capture =>
          obtain rfl := serverModules_capture.mp hitem
          exact .inl ⟨ok, .inr ⟨rfl, rfl, rfl⟩⟩
  | down target =>
      simp only at h
      split at h
      · cases h
      · split at h <;> cases h
        rename_i hitem
        cases target with
        | transport =>
            obtain rfl := serverModules_transport.mp hitem
            exact .inr (.inl ⟨rfl, rfl, rfl⟩)
        | capture =>
            obtain rfl := serverModules_capture.mp hitem
            exact .inr (.inr ⟨rfl, rfl, rfl⟩)

theorem serverMove_of_levelStep (h : levelStep serverModules l call = some next) :
    ServerMove l call next := by
  obtain ⟨initialized, started⟩ := l
  obtain ⟨rung, rfl | rfl⟩ := exists_rung call
  · obtain ⟨hstarted, top, hclimb, rfl⟩ := of_levelStep_asInitialization h
    obtain rfl : started = 0 := hstarted
    rcases ladderStep_serverModules hclimb with ⟨ok, ⟨rfl, rfl, rfl⟩ | ⟨rfl, rfl, rfl⟩⟩ |
      ⟨rfl, rfl, rfl⟩ | ⟨rfl, rfl, rfl⟩
    · exact .initializeTransport ok
    · exact .initializeCapture ok
    · exact .shutdownTransport
    · exact .shutdownCapture
  · obtain ⟨hinitialized, top, hclimb, rfl⟩ := of_levelStep_asStarting h
    obtain rfl : initialized = 2 := hinitialized
    rcases ladderStep_serverModules hclimb with ⟨ok, ⟨rfl, rfl, rfl⟩ | ⟨rfl, rfl, rfl⟩⟩ |
      ⟨rfl, rfl, rfl⟩ | ⟨rfl, rfl, rfl⟩
    · exact .startTransport ok
    · exact .startCapture ok
    · exact .stopTransport
    · exact .stopCapture

theorem ServerMove.capturing (h : ServerMove l call next) :
    capturingAfter (decide (l.started = 2)) call = decide (next.started = 2) := by
  cases h with
  | initializeTransport ok | initializeCapture ok | startTransport ok | startCapture ok =>
      cases ok <;> rfl
  | stopCapture | stopTransport | shutdownCapture | shutdownTransport => rfl

/-! ### The transport -/

def phaseAt (l : Levels) : BackendPhase :=
  if 0 < l.started then .running else if 0 < l.initialized then .initialized else .absent

structure TransportAt (t : Transport) (l : Levels) : Prop where
  calls : runSteps backendStep .absent t.calls = some (phaseAt l)
  backend : t.backend.isSome = decide (0 < l.initialized)
  nested : 0 < l.started → 0 < l.initialized

theorem TransportAt.calls_append {t : Transport} (h : TransportAt t l) (calls : List BackendCall) :
    runSteps backendStep .absent (t.calls ++ calls) = runSteps backendStep (phaseAt l) calls := by
  rw [runSteps_append, h.calls, Option.bind_some]

theorem TransportAt.move {t : Transport} (h : TransportAt t l) (hmove : ServerMove l call next)
    (hresolves : call = .initializeModule .transport true →
      ∃ backend, resolveTransportBackendSelection cfg = .ok backend) :
    TransportAt (transportCall cfg t call) next := by
  obtain ⟨backend, calls⟩ := t
  have happend := h.calls_append
  have hbackend := h.backend
  cases hmove with
  | initializeTransport ok =>
      obtain rfl : backend = none := by simpa using hbackend
      rw [transportCall, Transport.initializeTransport]
      simp only [Transport.shutdown]
      split
      · rename_i hrejected
        cases ok with
        | false => exact h
        | true =>
            obtain ⟨backend, hbackend⟩ := hresolves rfl
            rw [hbackend] at hrejected
            cases hrejected
      · rw [Transport.createBackend]
        cases ok with
        | false => exact ⟨happend _, rfl, fun h => absurd h (Nat.lt_irrefl 0)⟩
        | true => exact ⟨happend _, rfl, fun h => absurd h (Nat.lt_irrefl 0)⟩
  | initializeCapture ok =>
      cases ok <;> exact ⟨h.calls, hbackend, fun h => absurd h (Nat.lt_irrefl 0)⟩
  | startTransport ok =>
      obtain ⟨backend, rfl⟩ := Option.isSome_iff_exists.mp hbackend
      cases ok <;> exact ⟨happend _, rfl, fun _ => Nat.succ_pos 1⟩
  | startCapture ok =>
      cases ok <;> exact ⟨h.calls, hbackend, fun _ => Nat.succ_pos 1⟩
  | stopCapture => exact ⟨h.calls, hbackend, fun _ => Nat.succ_pos 1⟩
  | stopTransport =>
      obtain ⟨backend, rfl⟩ := Option.isSome_iff_exists.mp hbackend
      exact ⟨happend _, rfl, fun _ => Nat.succ_pos 1⟩
  | shutdownCapture => exact ⟨h.calls, hbackend, fun h => absurd h (Nat.lt_irrefl 0)⟩
  | shutdownTransport =>
      obtain ⟨backend, rfl⟩ := Option.isSome_iff_exists.mp hbackend
      exact ⟨happend _, rfl, fun h => absurd h (Nat.lt_irrefl 0)⟩

theorem TransportAt.broadcast {t : Transport} (h : TransportAt t l) (hstarted : 0 < l.started) :
    TransportAt t.broadcast l := by
  obtain ⟨backend, calls⟩ := t
  have hbackend := h.backend
  rw [decide_eq_true (h.nested hstarted)] at hbackend
  obtain ⟨backend, rfl⟩ := Option.isSome_iff_exists.mp hbackend
  refine ⟨?_, h.backend, h.nested⟩
  show runSteps backendStep .absent (calls ++ [.broadcast]) = _
  rw [h.calls_append, phaseAt, if_pos hstarted]
  rfl

end

/-! ### The actions of an operation -/

def callsOf (actions : List ServerAction) : List (ModuleCall ServerModule) :=
  actions.filterMap fun
    | .call call => some call
    | _ => none

def boundAfter (bound : Bool) : ServerAction → Bool
  | .bindStreamingPipeline => true
  | .unbindStreamingPipeline => false
  | .call _ => bound

def capturingBy (capturing : Bool) : ServerAction → Bool
  | .call call => capturingAfter capturing call
  | _ => capturing

/-- As long as there are actions to come, frames are handed out in vain only where one of them
is to stop the capture module. -/
def Covered (bound capturing : Bool) : List ServerAction → Prop
  | [] => capturing = true → bound = true
  | action :: rest =>
      (capturing = true → bound = true ∨ .call (.stopModule .capture) ∈ action :: rest) ∧
        Covered (boundAfter bound action) (capturingBy capturing action) rest

section

variable {bound capturing : Bool} {actions rest : List ServerAction}
  {calls trace : List (ModuleCall ServerModule)}

@[simp] theorem callsOf_append (first rest : List ServerAction) :
    callsOf (first ++ rest) = callsOf first ++ callsOf rest :=
  List.filterMap_append

@[simp] theorem callsOf_map_call (calls : List (ModuleCall ServerModule)) :
    callsOf (calls.map .call) = calls := by
  rw [callsOf, List.filterMap_map]
  exact List.filterMap_some

@[simp] theorem foldl_boundAfter_map_call (calls : List (ModuleCall ServerModule)) :
    (calls.map ServerAction.call).foldl boundAfter bound = bound := by
  induction calls with
  | nil => rfl
  | cons call calls ih => exact ih

theorem callsSince_eq {before after : AppBootstrap}
    (h : after.application.calls = before.application.calls ++ trace) :
    AppBootstrap.callsSince before after = trace.map .call := by
  rw [AppBootstrap.callsSince, h, List.drop_left]

theorem covered_head (h : Covered bound capturing actions) (hcapturing : capturing = true) :
    bound = true ∨ .call (.stopModule .capture) ∈ actions := by
  cases actions with
  | nil => exact .inl (h hcapturing)
  | cons action rest => exact h.1 hcapturing

/-- Calls that the capture module is not started or stopped by. -/
def Quiet (calls : List (ModuleCall ServerModule)) : Prop :=
  ∀ call ∈ calls, ∀ capturing, capturingAfter capturing call = capturing

theorem quiet_of_onlyInitialization (h : OnlyInitialization calls) : Quiet calls := by
  intro call hcall capturing
  rcases h call hcall with ⟨target, ok, rfl⟩ | ⟨target, rfl⟩ <;> rfl

theorem Covered.quiet_append (hquiet : Quiet calls) (h : Covered bound false rest) :
    Covered bound false (calls.map .call ++ rest) := by
  induction calls with
  | nil => exact h
  | cons call calls ih =>
      rw [Quiet, List.forall_mem_cons] at hquiet
      refine ⟨fun hcapturing => absurd hcapturing Bool.false_ne_true, ?_⟩
      show Covered bound (capturingAfter false call) (calls.map .call ++ rest)
      rw [hquiet.1]
      exact ih hquiet.2

theorem covered_quiet (hquiet : Quiet calls) : Covered bound false (calls.map .call) := by
  rw [← List.append_nil (calls.map _)]
  exact .quiet_append hquiet fun hfalse => absurd hfalse Bool.false_ne_true

/-- A bound handler covers everything, until it is unbound. -/
theorem covered_bound (hrest : Covered true (calls.foldl capturingAfter capturing) rest) :
    Covered true capturing (calls.map .call ++ rest) := by
  induction calls generalizing capturing with
  | nil => exact hrest
  | cons call calls ih => exact ⟨fun _ => .inl rfl, ih hrest⟩

theorem foldl_capturingAfter {l next : Levels}
    (h : runSteps (levelStep serverModules) l calls = some next) :
    calls.foldl capturingAfter (decide (l.started = 2)) = decide (next.started = 2) := by
  induction calls generalizing l with
  | nil =>
      cases h
      rfl
  | cons call calls ih =>
      obtain ⟨between, hstep, hrest⟩ := (runSteps_cons_eq_some _).mp h
      rw [List.foldl_cons, (serverMove_of_levelStep hstep).capturing]
      exact ih hrest

end

/-! ### The operations -/

/-- The transport is initialized with a backend that there is. -/
def Resolved (cfg : TransportConfig) (calls : List (ModuleCall ServerModule)) : Prop :=
  .initializeModule .transport true ∈ calls →
    ∃ backend, resolveTransportBackendSelection cfg = .ok backend

/-- The application with the two modules of the server. -/
structure ServerApplication (cfg : TransportConfig) (app : Application ServerModule) : Prop where
  modules : app.modules = serverModules
  onLevels : OnLevels app
  resolved : Resolved cfg app.calls

structure BootstrapInvariant (cfg : TransportConfig) (b : AppBootstrap) : Prop where
  unmade : b.modulesMade = false → b.application = {}
  made : b.modulesMade = true → ServerApplication cfg b.application
  started : b.started = b.application.running

/-- What the main thread has to do in an operation leads to what the operation says. -/
structure ActionsFit (b next : AppBootstrap) (actions : List ServerAction) : Prop where
  calls : next.application.calls = b.application.calls ++ callsOf actions
  bound : actions.foldl boundAfter b.started = next.started
  covered : Covered b.started b.started actions

section

variable {cfg : TransportConfig} (answers : ServerAnswers) {app : Application ServerModule}
  {b : AppBootstrap}

theorem ServerApplication.operation (h : ServerApplication cfg app) (op : ApplicationOperation) :
    ∃ trace, Visits app (runApplicationOperation (serverEnv cfg answers) app op) op trace ∧
      (runApplicationOperation (serverEnv cfg answers) app op).calls = app.calls ++ trace ∧
      ServerApplication cfg (runApplicationOperation (serverEnv cfg answers) app op) := by
  obtain ⟨trace, hvisits, hcalls, hmodules⟩ :=
    runApplicationOperation_visits (serverEnv cfg answers) app op
  refine ⟨trace, hvisits, hcalls, hmodules.trans h.modules,
    h.onLevels.visits hvisits hcalls hmodules, ?_⟩
  refine runApplicationOperation_preserves (P := Resolved cfg)
    (fun target calls hcalls hmem => ?_) (fun target calls hcalls hmem => ?_)
    (fun target calls hcalls hmem => ?_) (fun target calls hcalls hmem => ?_) h.resolved op
  · rcases List.mem_append.mp hmem with hmem | hmem
    · exact hcalls hmem
    · obtain ⟨rfl, hok⟩ := ModuleCall.initializeModule.inj (List.mem_singleton.mp hmem)
      -- a backend that is not resolved does not initialize
      cases hresolved : resolveTransportBackendSelection cfg with
      | ok backend => exact ⟨backend, rfl⟩
      | error message => simp [serverEnv, Transport.initializeTransport, hresolved] at hok
  · exact hcalls (by simpa [callStart] using hmem)
  · exact hcalls (by simpa [callStop] using hmem)
  · exact hcalls (by simpa [callShutdown] using hmem)

theorem BootstrapInvariant.levels (h : BootstrapInvariant cfg b) :
    runSteps (levelStep serverModules) {} b.application.calls =
      some ⟨levelOf serverModules b.application.initialized,
        levelOf serverModules b.application.running⟩ := by
  cases hmade : b.modulesMade with
  | false =>
      rw [h.unmade hmade]
      rfl
  | true =>
      obtain ⟨hmodules, hlevels, -⟩ := h.made hmade
      have hrun := hlevels.levels
      rwa [levelsOf, hmodules] at hrun

/-- `Initialize` makes the modules once, and initializes them then. -/
theorem BootstrapInvariant.initializeServer (h : BootstrapInvariant cfg b) :
    ∃ trace, OnlyInitialization trace ∧
      (b.initializeServer (serverEnv cfg answers)).1.application.calls =
        b.application.calls ++ trace ∧
      (b.initializeServer (serverEnv cfg answers)).1.started = b.started ∧
      (b.initializeServer (serverEnv cfg answers)).1.modulesMade = true ∧
      BootstrapInvariant cfg (b.initializeServer (serverEnv cfg answers)).1 := by
  rw [AppBootstrap.initializeServer]
  split
  · rename_i hmade
    exact ⟨[], List.forall_mem_nil _, (List.append_nil _).symm, rfl, hmade, h⟩
  · rename_i hmade
    have hunmade := h.unmade (Bool.eq_false_iff.mpr hmade)
    have happ : ServerApplication cfg
        (registerModule (registerModule b.application .transport) .capture) := by
      rw [hunmade]
      exact ⟨rfl, onLevels_of_modules serverModules, fun hmem => by cases hmem⟩
    obtain ⟨trace, hvisits, hcalls, hnext⟩ := happ.operation answers .initializeAll
    cases hvisits with
    | initializeAll hup hrunning =>
        refine ⟨trace, hup.onlyCalls, ?_, rfl, rfl, ⟨fun hfalse => ?_, fun _ => hnext, ?_⟩⟩
        · exact hcalls
        · exact absurd hfalse.symm Bool.false_ne_true
        · exact h.started.trans hrunning.symm

theorem covered_initialization {trace : List (ModuleCall ServerModule)}
    (h : OnlyInitialization trace) (started : Bool) :
    Covered started started (trace.map .call) := by
  cases started with
  | true =>
      rw [← List.append_nil (trace.map _)]
      exact covered_bound fun _ => rfl
  | false => exact covered_quiet (quiet_of_onlyInitialization h)

/-- An operation that only initializes or shuts down modules leaves the handler alone. -/
theorem actionsFit_initialization {next : AppBootstrap} {trace : List (ModuleCall ServerModule)}
    (honly : OnlyInitialization trace)
    (hcalls : next.application.calls = b.application.calls ++ trace)
    (hstarted : next.started = b.started) :
    ActionsFit b next (AppBootstrap.callsSince b next) := by
  rw [callsSince_eq hcalls]
  refine ⟨?_, ?_, covered_initialization honly b.started⟩
  · rw [callsOf_map_call, hcalls]
  · rw [foldl_boundAfter_map_call, hstarted]

theorem startApplication_ok {μ : Type} (env : ModuleEnv μ) {app : Application μ}
    (hrunning : app.running = false) :
    (startApplication env app).2 = (startApplication env app).1.running := by
  have hfirst : (if app.initialized = true then (app, true)
      else initializeApplication env app).1.running = false := by
    split
    · exact hrunning
    · rw [initializeApplication]
      split <;> exact hrunning
  rw [startApplication]
  generalize (if app.initialized = true then (app, true)
    else initializeApplication env app) = first at hfirst
  obtain ⟨first, ready⟩ := first
  simp only at hfirst ⊢
  split
  · exact hfirst.symm
  · rw [if_neg (by rw [hfirst]; exact Bool.false_ne_true)]

theorem decide_levelOf (up : Bool) : decide (levelOf serverModules up = 2) = up := by
  cases up <;> rfl

theorem foldl_capturingAfter_of_calls {next : AppBootstrap} (h : BootstrapInvariant cfg b)
    (hnext : BootstrapInvariant cfg next) {trace : List (ModuleCall ServerModule)}
    (hcalls : next.application.calls = b.application.calls ++ trace) :
    trace.foldl capturingAfter b.started = next.started := by
  have hrun := hnext.levels
  rw [hcalls, runSteps_append, h.levels, Option.bind_some] at hrun
  have hfold := foldl_capturingAfter hrun
  rwa [decide_levelOf, decide_levelOf, ← h.started, ← hnext.started] at hfold

theorem BootstrapInvariant.startApplication (h : BootstrapInvariant cfg b)
    (hmade : b.modulesMade = true) (hidle : b.started = false) :
    ∃ trace, (b.startApplication (serverEnv cfg answers)).1.application.calls =
        b.application.calls ++ trace ∧
      (b.startApplication (serverEnv cfg answers)).1.started =
        (b.startApplication (serverEnv cfg answers)).2 ∧
      (b.startApplication (serverEnv cfg answers)).1.modulesMade = true ∧
      BootstrapInvariant cfg (b.startApplication (serverEnv cfg answers)).1 := by
  obtain ⟨trace, -, hcalls, hnext⟩ := (h.made hmade).operation answers .startAll
  refine ⟨trace, hcalls, rfl, hmade, ⟨fun hfalse => ?_, fun _ => hnext, ?_⟩⟩
  · exact absurd (hmade.symm.trans hfalse).symm Bool.false_ne_true
  · exact startApplication_ok (serverEnv cfg answers) (h.started.symm.trans hidle)

theorem BootstrapInvariant.start (h : BootstrapInvariant cfg b) :
    BootstrapInvariant cfg (b.start (serverEnv cfg answers)).1 ∧
      ActionsFit b (b.start (serverEnv cfg answers)).1 (b.start (serverEnv cfg answers)).2 := by
  obtain ⟨trace, honly, hcalls, hstarted, hmade, hfirst⟩ := h.initializeServer answers
  rw [AppBootstrap.start]
  generalize b.initializeServer (serverEnv cfg answers) = result at hcalls hstarted hmade hfirst
  obtain ⟨first, ready⟩ := result
  simp only at hcalls hstarted hmade hfirst ⊢
  have hinitialized : BootstrapInvariant cfg first ∧
      ActionsFit b first (AppBootstrap.callsSince b first) :=
    ⟨hfirst, actionsFit_initialization honly hcalls hstarted⟩
  split
  · exact hinitialized
  split
  · exact hinitialized
  rename_i hidle
  have hidle : first.started = false := Bool.eq_false_iff.mpr hidle
  obtain ⟨later, hlater, hok, hmade', hlast⟩ := hfirst.startApplication answers hmade hidle
  generalize first.startApplication (serverEnv cfg answers) = result at hlater hok hmade' hlast
  obtain ⟨last, ok⟩ := result
  simp only at hlater hok hmade' hlast ⊢
  -- the capture module runs in the end if the application does
  have hcapturing := foldl_capturingAfter_of_calls hfirst hlast hlater
  rw [hidle, hok] at hcapturing
  rw [hidle] at hstarted
  refine ⟨hlast, ?_⟩
  rw [callsSince_eq hcalls, callsSince_eq hlater, AppBootstrap.bindStreamingPipeline,
    AppBootstrap.unbindStreamingPipeline, if_pos hmade, if_pos hmade']
  constructor
  · rw [hlater, hcalls]
    cases ok <;> simp [callsOf]
  · rw [← hstarted, hok]
    cases ok <;> simp [boundAfter]
  · rw [← hstarted, List.append_assoc, List.append_assoc]
    refine .quiet_append (quiet_of_onlyInitialization honly)
      ⟨fun hfalse => absurd hfalse Bool.false_ne_true, covered_bound ?_⟩
    show Covered true (later.foldl capturingAfter false) _
    rw [hcapturing]
    cases ok with
    | true => exact fun _ => rfl
    | false => exact ⟨fun _ => .inl rfl, fun hfalse => hfalse⟩

theorem BootstrapInvariant.stop (answers : ServerAnswers) (h : BootstrapInvariant cfg b) :
    BootstrapInvariant cfg b.stop.1 ∧ ActionsFit b b.stop.1 b.stop.2 := by
  rw [AppBootstrap.stop, AppBootstrap.unbindStreamingPipeline]
  cases hmade : b.modulesMade with
  | false =>
      obtain ⟨application, modulesMade, started⟩ := b
      obtain rfl : modulesMade = false := hmade
      obtain rfl : application = {} := h.unmade rfl
      obtain rfl : started = false := h.started
      refine ⟨⟨fun _ => rfl, fun hfalse => ?_, rfl⟩, rfl, rfl, fun hfalse => hfalse⟩
      exact absurd hfalse Bool.false_ne_true
  | true =>
      have happ := h.made hmade
      obtain ⟨-, -, -, hstopped⟩ := happ.operation answers .stopAll
      obtain ⟨-, -, -, hshutdown⟩ := hstopped.operation answers .shutdownAll
      have hcalls : (shutdownApplication (stopApplication b.application)).calls =
          b.application.calls ++ (takeDown .stopModule serverModules b.started ++
            takeDown .shutdownModule serverModules b.application.initialized) := by
        rw [shutdownApplication_eq, stopApplication_eq, happ.modules, h.started]
        simp [takeDown]
      have hquiet : Quiet (takeDown ModuleCall.shutdownModule serverModules
          b.application.initialized) :=
        quiet_of_onlyInitialization onlyCalls_takeDown
      refine ⟨⟨fun hfalse => ?_, fun _ => hshutdown, ?_⟩, ?_⟩
      · exact absurd hfalse.symm Bool.false_ne_true
      · simp [shutdownApplication_eq]
      · rw [callsSince_eq hcalls, if_pos rfl, List.map_append]
        constructor
        · rw [hcalls]
          simp [callsOf]
        · simp [boundAfter]
        · cases b.started with
          | false =>
              exact ⟨fun hfalse => absurd hfalse Bool.false_ne_true, covered_quiet hquiet⟩
          | true =>
              -- the capture module is stopped first
              exact ⟨fun _ => .inl rfl, fun _ => .inr List.mem_cons_self,
                fun hfalse => absurd hfalse Bool.false_ne_true, covered_quiet hquiet⟩

theorem BootstrapInvariant.run (h : BootstrapInvariant cfg b) (op : BootstrapOperation) :
    BootstrapInvariant cfg (b.run (serverEnv cfg answers) op).1 ∧
      ActionsFit b (b.run (serverEnv cfg answers) op).1 (b.run (serverEnv cfg answers) op).2 := by
  cases op with
  | initializeServer =>
      obtain ⟨trace, honly, hcalls, hstarted, -, hnext⟩ := h.initializeServer answers
      exact ⟨hnext, actionsFit_initialization honly hcalls hstarted⟩
  | start => exact h.start answers
  | stop => exact BootstrapInvariant.stop answers h

end

/-! ### The process -/

/-- `performed` are the calls that have been made of those of the application. -/
structure ProcessInvariant (cfg : TransportConfig) (s : ServerProcess)
    (performed : List (ModuleCall ServerModule)) (l : Levels) : Prop where
  bootstrap : BootstrapInvariant cfg s.bootstrap
  calls : s.bootstrap.application.calls = performed ++ callsOf s.pending
  levels : runSteps (levelStep serverModules) {} performed = some l
  transport : TransportAt s.transport l
  capturing : s.capturing = decide (l.started = 2)
  handlerCopy : s.handlerCopy.isSome = true → s.capturing = true
  bound : s.pending.foldl boundAfter s.handlerBound = s.bootstrap.started
  covered : Covered s.handlerBound s.capturing s.pending
  dropped : s.handlerCopy = some false → .call (.stopModule .capture) ∈ s.pending

section

variable {cfg : TransportConfig} {answers : ServerAnswers} {s t : ServerProcess}
  {performed : List (ModuleCall ServerModule)} {l : Levels}

theorem processInvariant_start : ProcessInvariant cfg {} [] {} where
  bootstrap := ⟨fun _ => rfl, fun hfalse => absurd hfalse Bool.false_ne_true, rfl⟩
  calls := rfl
  levels := rfl
  transport := ⟨rfl, rfl, fun h => absurd h (Nat.lt_irrefl 0)⟩
  capturing := rfl
  handlerCopy := fun hfalse => absurd hfalse Bool.false_ne_true
  bound := rfl
  covered := fun hfalse => absurd hfalse Bool.false_ne_true
  dropped := fun hnone => by cases hnone

/-- Between two operations both flags say whether the server has been started. -/
theorem ProcessInvariant.idle (h : ProcessInvariant cfg s performed l) (hpending : s.pending = []) :
    l = ⟨levelOf serverModules s.bootstrap.application.initialized,
        levelOf serverModules s.bootstrap.application.running⟩ ∧
      s.handlerBound = s.bootstrap.started ∧ s.capturing = s.bootstrap.started := by
  have hcalls := h.calls
  have hbound := h.bound
  have hlevels := h.bootstrap.levels
  rw [hpending] at hcalls hbound
  rw [hcalls, callsOf, List.filterMap_nil, List.append_nil, h.levels] at hlevels
  have hl := Option.some.inj hlevels
  refine ⟨hl, hbound, ?_⟩
  rw [h.capturing, h.bootstrap.started, hl, decide_levelOf]

theorem ProcessInvariant.operation (h : ProcessInvariant cfg s performed l)
    (hpending : s.pending = []) (op : BootstrapOperation) :
    ProcessInvariant cfg { s with
      bootstrap := (s.bootstrap.run (serverEnv cfg answers) op).1
      pending := (s.bootstrap.run (serverEnv cfg answers) op).2 } performed l := by
  obtain ⟨-, hbound, hcapturing⟩ := h.idle hpending
  obtain ⟨hnext, hfit⟩ := h.bootstrap.run answers op
  have hcalls := h.calls
  rw [hpending, callsOf, List.filterMap_nil, List.append_nil] at hcalls
  refine ⟨hnext, ?_, h.levels, h.transport, h.capturing, h.handlerCopy, ?_, ?_, fun hcopy => ?_⟩
  · rw [← hcalls]
    exact hfit.calls
  · rw [hbound]
    exact hfit.bound
  · rw [hbound, hcapturing]
    exact hfit.covered
  · have hstop := h.dropped hcopy
    rw [hpending] at hstop
    cases hstop

theorem ProcessInvariant.perform {action : ServerAction} {rest : List ServerAction}
    (h : ProcessInvariant cfg s performed l) (hpending : s.pending = action :: rest)
    (hjoined : action = .call (.stopModule .capture) → s.handlerCopy.isSome = false) :
    ∃ performed l, ProcessInvariant cfg { performAction cfg s action with pending := rest }
      performed l := by
  have hbound := h.bound
  have hcovered := h.covered
  have hcalls := h.calls
  have hdropped := h.dropped
  rw [hpending] at hbound hcovered hcalls hdropped
  have hstops (hcopy : s.handlerCopy = some false) : .call (.stopModule .capture) ∈ rest := by
    rcases List.mem_cons.mp (hdropped hcopy) with hfirst | hrest
    · have hnone := hjoined hfirst.symm
      rw [hcopy] at hnone
      cases hnone
    · exact hrest
  cases action with
  | bindStreamingPipeline | unbindStreamingPipeline =>
      exact ⟨performed, l, h.bootstrap, hcalls, h.levels, h.transport, h.capturing, h.handlerCopy,
        hbound, hcovered.2, hstops⟩
  | call call =>
      have hrun := h.bootstrap.levels
      rw [hcalls, runSteps_append, h.levels, Option.bind_some] at hrun
      obtain ⟨next, hstep, -⟩ := (runSteps_cons_eq_some _).mp hrun
      have hmove := serverMove_of_levelStep hstep
      refine ⟨performed ++ [call], next, h.bootstrap, ?_, ?_, ?_, ?_, fun hcopy => ?_, hbound,
        hcovered.2, hstops⟩
      · rw [List.append_assoc]
        exact hcalls
      · rw [runSteps_append, h.levels, Option.bind_some, runSteps, hstep]
        rfl
      · refine h.transport.move hmove fun heq => ?_
        cases hmade : s.bootstrap.modulesMade with
        | false =>
            rw [h.bootstrap.unmade hmade] at hcalls
            exact absurd hcalls (by simp [callsOf])
        | true =>
            refine (h.bootstrap.made hmade).resolved ?_
            rw [hcalls, heq]
            simp [callsOf]
      · show capturingAfter s.capturing call = _
        rw [h.capturing, hmove.capturing]
      · -- the thread is joined before it is gone
        show capturingAfter s.capturing call = true
        have hcapturing := h.handlerCopy hcopy
        rw [h.capturing, decide_eq_true_iff] at hcapturing
        cases hmove with
        | stopCapture =>
            have hnone := hjoined rfl
            rw [show s.handlerCopy.isSome = true from hcopy] at hnone
            cases hnone
        | _ => simp at hcapturing

end

/-! ### Every run -/

section

variable {cfg : TransportConfig} {answers : ServerAnswers} {s t : ServerProcess}
  {performed : List (ModuleCall ServerModule)} {l : Levels}

theorem ProcessInvariant.copyHandler (h : ProcessInvariant cfg s performed l)
    (hcapturing : s.capturing = true) :
    ProcessInvariant cfg { s with handlerCopy := some s.handlerBound } performed l where
  bootstrap := h.bootstrap
  calls := h.calls
  levels := h.levels
  transport := h.transport
  capturing := h.capturing
  handlerCopy := fun _ => hcapturing
  bound := h.bound
  covered := h.covered
  dropped := fun hcopy => (covered_head h.covered hcapturing).resolve_left fun hbound =>
    Bool.false_ne_true ((Option.some.inj hcopy).symm.trans hbound)

theorem ProcessInvariant.callHandler (h : ProcessInvariant cfg s performed l) {bound : Bool}
    (hcopy : s.handlerCopy = some bound) :
    ProcessInvariant cfg { s with
      handlerCopy := none
      transport := if bound then s.transport.broadcast else s.transport } performed l := by
  have hcapturing := h.handlerCopy (by rw [hcopy]; rfl)
  rw [h.capturing, decide_eq_true_iff] at hcapturing
  refine ⟨h.bootstrap, h.calls, h.levels, ?_, h.capturing, fun hfalse => ?_, h.bound, h.covered,
    fun hnone => ?_⟩
  · cases bound with
    | true => exact h.transport.broadcast (by omega)
    | false => exact h.transport
  · exact absurd hfalse Bool.false_ne_true
  · cases hnone

theorem processStep_invariant {event : ProcessEvent} (h : ProcessInvariant cfg s performed l)
    (hstep : processStep cfg answers s event = some t) :
    ∃ performed l, ProcessInvariant cfg t performed l := by
  cases event with
  | operation op =>
      rw [processStep] at hstep
      split at hstep
      · rename_i hpending
        cases hstep
        exact ⟨performed, l, h.operation hpending op⟩
      · cases hstep
  | proceed =>
      rw [processStep] at hstep
      split at hstep
      · cases hstep
      · rename_i action rest hpending
        split at hstep
        · cases hstep
        · rename_i hfree
          cases hstep
          refine h.perform hpending fun hstop => Bool.eq_false_iff.mpr fun hcopy => ?_
          exact hfree ⟨hstop, hcopy⟩
  | copyHandler =>
      rw [processStep] at hstep
      split at hstep
      · rename_i hready
        cases hstep
        exact ⟨performed, l, h.copyHandler hready.1⟩
      · cases hstep
  | callHandler =>
      rw [processStep] at hstep
      split at hstep
      · cases hstep
      · rename_i bound hcopy
        cases hstep
        exact ⟨performed, l, h.callHandler hcopy⟩

end

/-- The backend has got a well-formed sequence of calls, and runs while a frame is handed out;
a frame is handed out in vain only while the server is being stopped; and between two operations
the backend runs, gets frames and is there as the flags of the server say. -/
structure ProcessSafe (s : ServerProcess) (phase : BackendPhase) : Prop where
  wellFormed : runSteps backendStep .absent s.transport.calls = some phase
  delivering : s.handlerCopy.isSome = true → phase = .running
  dropped : s.handlerCopy = some false → .call (.stopModule .capture) ∈ s.pending
  idle : s.pending = [] → s.handlerBound = s.bootstrap.started ∧
    s.capturing = s.bootstrap.started ∧ (phase = .running ↔ s.bootstrap.started = true) ∧
      (phase = .absent ↔ s.bootstrap.application.initialized = false)

theorem phaseAt_levelOf (initialized running : Bool) :
    phaseAt ⟨levelOf serverModules initialized, levelOf serverModules running⟩ =
      if running then .running else if initialized then .initialized else .absent := by
  cases initialized <;> cases running <;> rfl

theorem ProcessInvariant.safe {cfg : TransportConfig} {s : ServerProcess}
    {performed : List (ModuleCall ServerModule)} {l : Levels}
    (h : ProcessInvariant cfg s performed l) : ProcessSafe s (phaseAt l) := by
  refine ⟨h.transport.calls, fun hcopy => ?_, h.dropped, fun hpending => ?_⟩
  · have hcapturing := h.handlerCopy hcopy
    rw [h.capturing, decide_eq_true_iff] at hcapturing
    rw [phaseAt, hcapturing]
    rfl
  · obtain ⟨hl, hbound, hcapturing⟩ := h.idle hpending
    have hnested := h.transport.nested
    refine ⟨hbound, hcapturing, ?_⟩
    rw [hl] at hnested
    rw [h.bootstrap.started, hl, phaseAt_levelOf]
    cases hrunning : s.bootstrap.application.running with
    | true =>
        cases hinitialized : s.bootstrap.application.initialized with
        | true => simp
        | false =>
            rw [hrunning, hinitialized] at hnested
            exact absurd (hnested (Nat.succ_pos 1)) (Nat.lt_irrefl 0)
    | false => cases s.bootstrap.application.initialized <;> simp

/-- In every interleaving of the main thread and the capturing thread the process is safe. -/
theorem runProcess_safe {cfg : TransportConfig} {answers : ServerAnswers}
    {events : List ProcessEvent} {s : ServerProcess}
    (hrun : runProcess cfg answers events = some s) : ∃ phase, ProcessSafe s phase := by
  have hpreserved (s : ServerProcess) (event : ProcessEvent) (t : ServerProcess)
      (h : ∃ performed l, ProcessInvariant cfg s performed l)
      (hstep : processStep cfg answers s event = some t) :
      ∃ performed l, ProcessInvariant cfg t performed l := by
    obtain ⟨performed, l, h⟩ := h
    exact processStep_invariant h hstep
  obtain ⟨performed, l, h⟩ := runSteps_invariant (processStep cfg answers) hpreserved
    ⟨[], {}, processInvariant_start⟩ hrun
  exact ⟨phaseAt l, h.safe⟩

/-! #### A frame while the server is being stopped -/

def willing : ServerAnswers := ⟨fun _ => true, fun _ => true, fun _ => true, fun _ => true⟩

/-- The server starts and hands out a frame; while it is being stopped, the handler is unbound
and another frame is handed out in vain. -/
def stoppedMidFrame : List ProcessEvent :=
  .operation .start :: List.replicate 5 .proceed ++ [.copyHandler, .callHandler] ++
    [.operation .stop, .proceed, .copyHandler]

theorem stoppedMidFrame_safe : ∃ s, runProcess {} willing stoppedMidFrame = some s ∧
    s.handlerCopy = some false ∧ ∃ phase, ProcessSafe s phase :=
  have hrun : runProcess {} willing stoppedMidFrame = some _ := rfl
  ⟨_, hrun, rfl, runProcess_safe hrun⟩

end AvProject.Server
