import AvProject.Server.TcpConnection
import AvProject.Server.UdpServer

/-!
`TcpStreamingBackend` with its threads: `AcceptLoop` registers sessions, the capturing thread
calls `Broadcast`, a third one starts and stops the backend, and the sessions have threads of
their own. A step is one access to what they share, with the statements up to the next one.
-/

namespace AvProject.Server

open AvProject.Lib AvProject.Protocol

/-- Where the accept thread is. -/
inductive AcceptPoint
  /-- There is no thread to join. -/
  | notStarted
  | loopCheck
  | accept
  /-- Before the session is appended to `clients_`. -/
  | register (id : ℕ)
  | prune
  | finished
  deriving DecidableEq, Repr

/-- Where the capturing thread is in `Broadcast`. -/
inductive TcpBroadcastPoint
  | idle
  /-- Before `IsRunning` of the first of them. -/
  | visit (frame : EncodedFrame) (clients : List ℕ)
  /-- Before `EnqueueFrame`. -/
  | enqueue (frame : EncodedFrame) (id : ℕ) (clients : List ℕ)
  /-- In `EnqueueFrame`. -/
  | enqueuing (frame : EncodedFrame) (id : ℕ) (clients : List ℕ)
  | prune
  deriving DecidableEq, Repr

/-- Where the thread is that calls `stop`. -/
inductive StopCallPoint
  | idle
  | joinAccept
  | stopClients (clients : List ℕ)
  /-- In `Stop` of a session. -/
  | joinClient (id : ℕ) (clients : List ℕ)
  deriving DecidableEq, Repr

/-- `joined` is a history variable: how many frames had been broadcast when the session was
appended to `clients_`. -/
structure AcceptedClient where
  connection : TcpConnection
  joined : Option ℕ := none

/-- `sessions` are all sessions there have been, and stand for what the pointers in `clients_`
point to. `broadcasts` is a history variable. -/
structure TcpStreamingBackend where
  state : ModuleState := .kInitialized
  running : Bool := false
  acceptPoint : AcceptPoint := .notStarted
  broadcastPoint : TcpBroadcastPoint := .idle
  stopPoint : StopCallPoint := .idle
  clients : List ℕ := []
  sessions : List AcceptedClient := []
  broadcasts : List EncodedFrame := []

inductive TcpBackendEvent
  /-- `start`, and whether `OpenListenSocket` succeeds. -/
  | start (opens : Bool)
  | stop
  | stopProceed
  /-- `shutdown`, where `stop` has nothing to do. -/
  | shutdown
  | acceptProceed
  /-- `accept` finds no connection, or is interrupted. -/
  | acceptAgain
  | acceptFailed
  /-- `accept` returns a connection; what the client will send. -/
  | accepted (stream : Bytes)
  | broadcast (frame : EncodedFrame)
  | broadcastProceed (nowNs : UInt64)
  /-- A step of a session's own threads. -/
  | thread (id : ℕ) (event : SessionThreadEvent)

namespace TcpStreamingBackend

def isRunning (s : TcpStreamingBackend) (id : ℕ) : Bool :=
  s.sessions[id]?.any fun client => client.connection.running

def pruneClosedClients (s : TcpStreamingBackend) : TcpStreamingBackend :=
  { s with clients := s.clients.filter s.isRunning }

/-- A step of one session. -/
def stepSession (cfg : TransportConfig) (s : TcpStreamingBackend) (id : ℕ)
    (event : ConnectionEvent) : Option TcpStreamingBackend :=
  s.sessions[id]?.bind fun client =>
    (connectionStep cfg client.connection event).map fun connection =>
      { s with sessions := s.sessions.set id { client with connection := connection } }

/-- The session is in `EnqueueFrame`. -/
def inEnqueueFrame (s : TcpStreamingBackend) (id : ℕ) : Bool :=
  s.sessions[id]?.any fun client =>
    match client.connection.session.enqueuePoint with
    | .idle => false
    | _ => true

def start (cfg : TransportConfig) (s : TcpStreamingBackend) (opens : Bool) :
    TcpStreamingBackend :=
  if !cfg.enabled then { s with state := .kRunning }
  else if !opens then { s with state := .kFailed }
  else { s with state := .kRunning, running := true, acceptPoint := .loopCheck }

def stopProceed (cfg : TransportConfig) (s : TcpStreamingBackend) : Option TcpStreamingBackend :=
  match s.stopPoint with
  | .idle => none
  | .joinAccept =>
      if s.acceptPoint = .notStarted ∨ s.acceptPoint = .finished then
        some { s with
          acceptPoint := .notStarted
          clients := []
          stopPoint := .stopClients s.clients }
      else none
  | .stopClients [] => some { s with state := .kStopped, stopPoint := .idle }
  | .stopClients (id :: clients) =>
      (s.stepSession cfg id .stop).map fun s => { s with stopPoint := .joinClient id clients }
  | .joinClient id clients =>
      (s.stepSession cfg id .joined).map fun s => { s with stopPoint := .stopClients clients }

def acceptProceed (s : TcpStreamingBackend) : Option TcpStreamingBackend :=
  match s.acceptPoint with
  | .loopCheck =>
      if s.running then some { s with acceptPoint := .accept }
      else some { s with acceptPoint := .finished }
  | .register id =>
      s.sessions[id]?.map fun client =>
        { s with
          acceptPoint := .prune
          clients := s.clients ++ [id]
          sessions := s.sessions.set id { client with joined := some s.broadcasts.length } }
  | .prune => some { s.pruneClosedClients with acceptPoint := .loopCheck }
  | _ => none

/-- A new connection: the session starts, as its socket is valid. -/
def acceptClient (s : TcpStreamingBackend) (stream : Bytes) : TcpStreamingBackend :=
  { s with
    acceptPoint := .register s.sessions.length
    sessions := s.sessions ++ [{ connection := startConnection stream }] }

/-- `Broadcast` up to the snapshot of the clients. -/
def beginBroadcast (cfg : TransportConfig) (s : TcpStreamingBackend) (frame : EncodedFrame) :
    TcpStreamingBackend :=
  if cfg.enabled then
    { s with
      broadcasts := s.broadcasts ++ [frame]
      broadcastPoint := .visit frame s.clients }
  else s

def broadcastProceed (cfg : TransportConfig) (s : TcpStreamingBackend) (nowNs : UInt64) :
    Option TcpStreamingBackend :=
  match s.broadcastPoint with
  | .idle => none
  | .visit _ [] => some { s with broadcastPoint := .prune }
  | .visit frame (id :: clients) =>
      if s.isRunning id then some { s with broadcastPoint := .enqueue frame id clients }
      else some { s with broadcastPoint := .visit frame clients }
  | .enqueue frame id clients =>
      (s.stepSession cfg id (.enqueueFrame frame nowNs)).map fun s =>
        { s with broadcastPoint := .enqueuing frame id clients }
  | .enqueuing frame id clients =>
      if s.inEnqueueFrame id then s.stepSession cfg id .enqueueProceed
      else some { s with broadcastPoint := .visit frame clients }
  | .prune => some { s.pruneClosedClients with broadcastPoint := .idle }

end TcpStreamingBackend

/-- A second `start` would give up a thread that is to be joined, so there is none. -/
def tcpBackendStep (cfg : TransportConfig) (s : TcpStreamingBackend) :
    TcpBackendEvent → Option TcpStreamingBackend
  | .start opens =>
      if s.acceptPoint = .notStarted ∧ s.stopPoint = .idle then some (s.start cfg opens) else none
  | .stop =>
      if s.stopPoint ≠ .idle then none
      else if s.state ≠ .kRunning then some s
      else some { s with running := false, stopPoint := .joinAccept }
  | .stopProceed => s.stopProceed cfg
  | .shutdown =>
      if s.stopPoint ≠ .idle ∨ s.state = .kRunning then none
      else some { s with state := .kShutdown }
  | .acceptProceed => s.acceptProceed
  | .acceptAgain =>
      if s.acceptPoint = .accept then some { s with acceptPoint := .loopCheck } else none
  | .acceptFailed =>
      if s.acceptPoint = .accept then some { s with acceptPoint := .finished } else none
  | .accepted stream => if s.acceptPoint = .accept then some (s.acceptClient stream) else none
  | .broadcast frame =>
      if s.broadcastPoint = .idle then some (s.beginBroadcast cfg frame) else none
  | .broadcastProceed nowNs => s.broadcastProceed cfg nowNs
  | .thread id event => s.stepSession cfg id (.thread event)

/-- A run of the backend after `initialize`. -/
def runTcpBackend (cfg : TransportConfig) (events : List TcpBackendEvent) :
    Option TcpStreamingBackend :=
  runSteps (tcpBackendStep cfg) {} events

end AvProject.Server
