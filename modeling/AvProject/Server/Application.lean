import AvProject.Lib.Rollback

/-!
The lifecycle of the server's `Application`: its modules are brought up in the order of
registration and taken down in the reverse order, and a module that fails to come up
takes those before it down again.

`calls` is a history variable; no branch of the code reads it.
-/

namespace AvProject.Server

open AvProject.Lib

/-! ### The modules -/

/-- A call of one of the virtual functions of a module, with its result. -/
inductive ModuleCall (μ : Type)
  | initializeModule (target : μ) (ok : Bool)
  | startModule (target : μ) (ok : Bool)
  | stopModule (target : μ)
  | shutdownModule (target : μ)
  deriving DecidableEq, Repr

/-- How the modules answer; an answer may depend on all calls that were made before. -/
structure ModuleEnv (μ : Type) where
  initializes : μ → List (ModuleCall μ) → Bool
  starts : μ → List (ModuleCall μ) → Bool

structure Application (μ : Type) where
  modules : List μ := []
  initialized : Bool := false
  running : Bool := false
  calls : List (ModuleCall μ) := []
  deriving DecidableEq, Repr

section

variable {μ : Type} (env : ModuleEnv μ)

def callInitialize (target : μ) (calls : List (ModuleCall μ)) : List (ModuleCall μ) × Bool :=
  (calls ++ [.initializeModule target (env.initializes target calls)],
    env.initializes target calls)

def callStart (target : μ) (calls : List (ModuleCall μ)) : List (ModuleCall μ) × Bool :=
  (calls ++ [.startModule target (env.starts target calls)], env.starts target calls)

def callStop (target : μ) (calls : List (ModuleCall μ)) : List (ModuleCall μ) :=
  calls ++ [.stopModule target]

def callShutdown (target : μ) (calls : List (ModuleCall μ)) : List (ModuleCall μ) :=
  calls ++ [.shutdownModule target]

/-! ### The application -/

def registerModule (app : Application μ) (target : μ) : Application μ :=
  { app with modules := app.modules ++ [target] }

def initializeAllModules (app : Application μ) : Application μ × Bool :=
  let (calls, ok) := attemptAll (callInitialize env) callShutdown [] app.modules app.calls
  ({ app with calls := calls }, ok)

def startAllModules (app : Application μ) : Application μ × Bool :=
  let (calls, ok) := attemptAll (callStart env) callStop [] app.modules app.calls
  ({ app with calls := calls }, ok)

def stopAllModules (app : Application μ) : Application μ :=
  { app with calls := undoAll callStop app.modules app.calls }

def shutdownAllModules (app : Application μ) : Application μ :=
  { app with calls := undoAll callShutdown app.modules app.calls }

def initializeApplication (app : Application μ) : Application μ × Bool :=
  if app.initialized then (app, true)
  else
    let (app, ok) := initializeAllModules env app
    ({ app with initialized := ok }, ok)

def startApplication (app : Application μ) : Application μ × Bool :=
  let (app, ready) := if app.initialized then (app, true) else initializeApplication env app
  if !ready then (app, false)
  else if app.running then (app, true)
  else
    let (app, ok) := startAllModules env app
    ({ app with running := ok }, ok)

def stopApplication (app : Application μ) : Application μ :=
  if !app.running then app else { stopAllModules app with running := false }

def shutdownApplication (app : Application μ) : Application μ :=
  let app := stopApplication app
  if !app.initialized then app else { shutdownAllModules app with initialized := false }

/-! ### Runs -/

inductive ApplicationOperation
  | initializeAll | startAll | stopAll | shutdownAll
  deriving DecidableEq, Repr

def runApplicationOperation (app : Application μ) : ApplicationOperation → Application μ
  | .initializeAll => (initializeApplication env app).1
  | .startAll => (startApplication env app).1
  | .stopAll => stopApplication app
  | .shutdownAll => shutdownApplication app

/-- The modules are registered first. -/
def registered (modules : List μ) : Application μ := modules.foldl registerModule {}

def runApplication (modules : List μ) (ops : List ApplicationOperation) : Application μ :=
  ops.foldl (runApplicationOperation env) (registered modules)

theorem registered_eq (modules : List μ) : registered modules = { modules := modules } := by
  suffices h : ∀ (app : Application μ), modules.foldl registerModule app =
      { app with modules := app.modules ++ modules } by
    simpa [registered] using h {}
  intro app
  induction modules generalizing app with
  | nil => simp
  | cons target modules ih => simp [registerModule, ih]

/-! ### What an operation calls -/

/-- The calls that bring the modules up, unless they are up already. -/
def BringsUp (did : μ → Bool → ModuleCall μ) (undone : μ → ModuleCall μ) (modules : List μ)
    (already : Bool) (trace : List (ModuleCall μ)) (ok : Bool) : Prop :=
  if already then trace = [] ∧ ok = true else AttemptTrace did undone modules trace ok

/-- The calls that take the modules down, if they are up. -/
def takeDown (undone : μ → ModuleCall μ) (modules : List μ) (up : Bool) :
    List (ModuleCall μ) :=
  if up then modules.reverse.map undone else []

/-- The order in which an operation that leads from `app` to `next` visits the modules. -/
inductive Visits (app next : Application μ) : ApplicationOperation → List (ModuleCall μ) → Prop
  | initializeAll {trace : List (ModuleCall μ)}
      (hup : BringsUp .initializeModule .shutdownModule app.modules app.initialized trace
        next.initialized)
      (hrunning : next.running = app.running) : Visits app next .initializeAll trace
  | notInitialized {trace : List (ModuleCall μ)}
      (hup : BringsUp .initializeModule .shutdownModule app.modules app.initialized trace false)
      (hinitialized : next.initialized = false) (hrunning : next.running = app.running) :
      Visits app next .startAll trace
  | startAll {first rest : List (ModuleCall μ)}
      (hup : BringsUp .initializeModule .shutdownModule app.modules app.initialized first true)
      (hinitialized : next.initialized = true)
      (hstart : BringsUp .startModule .stopModule app.modules app.running rest next.running) :
      Visits app next .startAll (first ++ rest)
  | stopAll (hinitialized : next.initialized = app.initialized)
      (hrunning : next.running = false) :
      Visits app next .stopAll (takeDown .stopModule app.modules app.running)
  | shutdownAll (hinitialized : next.initialized = false) (hrunning : next.running = false) :
      Visits app next .shutdownAll
        (takeDown .stopModule app.modules app.running ++
          takeDown .shutdownModule app.modules app.initialized)

end

end AvProject.Server
