import AvProject.Lib.Run
import AvProject.Server.AppConfig
import AvProject.Server.Application

/-!
The server process: `AppBootstrap` registers the transport and the capture module with the
application, and leads the frames of the one to the other. The main thread makes its calls one
after the other, and the capturing thread hands out a frame between any two of them.

The calls that the modules and the transport backend have been given are history variables; the
answers that the environment gives to a call may depend on all calls before it.
-/

namespace AvProject.Server

open AvProject.Lib

/-! ### The transport -/

/-- A call of the transport backend, with its result. -/
inductive BackendCall
  | create (backend : TransportBackend)
  | initializeBackend (ok : Bool)
  | start (ok : Bool)
  | broadcast
  | stop
  | shutdown
  | destroy
  deriving DecidableEq, Repr

structure Transport where
  backend : Option TransportBackend := none
  calls : List BackendCall := []
  deriving DecidableEq, Repr

namespace Transport

/-- `TransportBackendFactory::Create` and what follows of it in `Transport::initialize`. -/
def createBackend (t : Transport) (backend : TransportBackend) (initializes : Bool) :
    Transport × Bool :=
  if initializes then
    ({ backend := some backend, calls := t.calls ++ [.create backend, .initializeBackend true] },
      true)
  else
    ({ backend := none, calls := t.calls ++ [.create backend, .initializeBackend false,
      .destroy] }, false)

def shutdown (t : Transport) : Transport :=
  match t.backend with
  | some _ => { backend := none, calls := t.calls ++ [.shutdown, .destroy] }
  | none => t

def initializeTransport (t : Transport) (cfg : TransportConfig) (initializes : Bool) :
    Transport × Bool :=
  let t := t.shutdown
  match resolveTransportBackendSelection cfg with
  | .error _ => (t, false)
  | .ok backend => t.createBackend backend initializes

def start (t : Transport) (starts : Bool) : Transport × Bool :=
  match t.backend with
  | none => (t, false)
  | some _ => ({ t with calls := t.calls ++ [.start starts] }, starts)

def stop (t : Transport) : Transport :=
  match t.backend with
  | some _ => { t with calls := t.calls ++ [.stop] }
  | none => t

/-- Without a backend the frame is dropped. -/
def broadcast (t : Transport) : Transport :=
  match t.backend with
  | some _ => { t with calls := t.calls ++ [.broadcast] }
  | none => t

end Transport

/-! ### The modules -/

inductive ServerModule | transport | capture
  deriving DecidableEq, Repr

/-- What a call of a module does to the transport. -/
def transportCall (cfg : TransportConfig) (t : Transport) : ModuleCall ServerModule → Transport
  | .initializeModule .transport ok => (t.initializeTransport cfg ok).1
  | .startModule .transport ok => (t.start ok).1
  | .stopModule .transport => t.stop
  | .shutdownModule .transport => t.shutdown
  | _ => t

/-- The threads of the capture module run from a successful `start` on, and `stop` joins them. -/
def capturingAfter (capturing : Bool) : ModuleCall ServerModule → Bool
  | .startModule .capture ok => ok
  | .stopModule .capture => false
  | _ => capturing

/-- How the backend and the capture module answer. -/
structure ServerAnswers where
  backendInitializes : List (ModuleCall ServerModule) → Bool
  backendStarts : List (ModuleCall ServerModule) → Bool
  captureInitializes : List (ModuleCall ServerModule) → Bool
  captureStarts : List (ModuleCall ServerModule) → Bool

/-- `TransportModule` answers as its transport does. -/
def serverEnv (cfg : TransportConfig) (answers : ServerAnswers) : ModuleEnv ServerModule where
  initializes target calls :=
    match target with
    | .transport =>
        ((calls.foldl (transportCall cfg) {}).initializeTransport cfg
          (answers.backendInitializes calls)).2
    | .capture => answers.captureInitializes calls
  starts target calls :=
    match target with
    | .transport => ((calls.foldl (transportCall cfg) {}).start (answers.backendStarts calls)).2
    | .capture => answers.captureStarts calls

/-! ### The main thread -/

/-- What the main thread does in one of its operations. -/
inductive ServerAction
  | bindStreamingPipeline
  | unbindStreamingPipeline
  | call (call : ModuleCall ServerModule)
  deriving DecidableEq, Repr

structure AppBootstrap where
  application : Application ServerModule := {}
  /-- `capture_module_` and `transport_module_` have been made. -/
  modulesMade : Bool := false
  started : Bool := false
  deriving DecidableEq, Repr

inductive BootstrapOperation | initializeServer | start | stop
  deriving DecidableEq, Repr

namespace AppBootstrap

section

variable (env : ModuleEnv ServerModule)

def initializeServer (b : AppBootstrap) : AppBootstrap × Bool :=
  if b.modulesMade then (b, true)
  else
    let app := registerModule (registerModule b.application .transport) .capture
    let (app, ok) := initializeApplication env app
    ({ b with application := app, modulesMade := true }, ok)

/-- The calls that have been made since. -/
def callsSince (before after : AppBootstrap) : List ServerAction :=
  (after.application.calls.drop before.application.calls.length).map .call

def startApplication (b : AppBootstrap) : AppBootstrap × Bool :=
  let (app, ok) := Server.startApplication env b.application
  ({ b with application := app, started := ok }, ok)

def bindStreamingPipeline (b : AppBootstrap) : List ServerAction :=
  if b.modulesMade then [.bindStreamingPipeline] else []

def unbindStreamingPipeline (b : AppBootstrap) : List ServerAction :=
  if b.modulesMade then [.unbindStreamingPipeline] else []

/-- The operation, with what it does one after the other. -/
def start (b : AppBootstrap) : AppBootstrap × List ServerAction :=
  let (first, ready) := b.initializeServer env
  if !ready then (first, callsSince b first)
  else if first.started then (first, callsSince b first)
  else
    let (last, ok) := first.startApplication env
    (last, callsSince b first ++ first.bindStreamingPipeline ++ callsSince first last ++
      if ok then [] else last.unbindStreamingPipeline)

def stop (b : AppBootstrap) : AppBootstrap × List ServerAction :=
  let app := shutdownApplication (stopApplication b.application)
  let last := { b with application := app, started := false }
  (last, b.unbindStreamingPipeline ++ callsSince b last)

def run (b : AppBootstrap) : BootstrapOperation → AppBootstrap × List ServerAction
  | .initializeServer => ((b.initializeServer env).1, callsSince b (b.initializeServer env).1)
  | .start => b.start env
  | .stop => b.stop

end

end AppBootstrap

/-! ### The process -/

structure ServerProcess where
  bootstrap : AppBootstrap := {}
  /-- What is left to do of the operation that the main thread is in. -/
  pending : List ServerAction := []
  handlerBound : Bool := false
  capturing : Bool := false
  /-- The copy of the frame handler that the capturing thread has taken. -/
  handlerCopy : Option Bool := none
  transport : Transport := {}
  deriving DecidableEq, Repr

inductive ProcessEvent
  | operation (op : BootstrapOperation)
  | proceed
  | copyHandler
  | callHandler
  deriving DecidableEq, Repr

def performAction (cfg : TransportConfig) (s : ServerProcess) : ServerAction → ServerProcess
  | .bindStreamingPipeline => { s with handlerBound := true }
  | .unbindStreamingPipeline => { s with handlerBound := false }
  | .call call =>
      { s with
        transport := transportCall cfg s.transport call
        capturing := capturingAfter s.capturing call }

/-- One event; `none` where it cannot happen. -/
def processStep (cfg : TransportConfig) (answers : ServerAnswers) (s : ServerProcess) :
    ProcessEvent → Option ServerProcess
  | .operation op =>
      match s.pending with
      | [] =>
          let (bootstrap, actions) := s.bootstrap.run (serverEnv cfg answers) op
          some { s with bootstrap, pending := actions }
      | _ :: _ => none
  | .proceed =>
      match s.pending with
      | [] => none
      | action :: rest =>
          -- the capturing thread is joined once it is done with its frame
          if action = .call (.stopModule .capture) ∧ s.handlerCopy.isSome then none
          else some { performAction cfg s action with pending := rest }
  | .copyHandler =>
      if s.capturing ∧ s.handlerCopy = none then
        some { s with handlerCopy := some s.handlerBound }
      else none
  | .callHandler =>
      match s.handlerCopy with
      | none => none
      | some bound =>
          some { s with
            handlerCopy := none
            transport := if bound then s.transport.broadcast else s.transport }

def runProcess (cfg : TransportConfig) (answers : ServerAnswers) (events : List ProcessEvent) :
    Option ServerProcess :=
  runSteps (processStep cfg answers) {} events

end AvProject.Server
