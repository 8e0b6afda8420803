import AvProject.Lib.Run
import AvProject.Protocol.ReceiverReport
import AvProject.Server.ClientRegistry
import AvProject.Server.UdpStreamingBackend

/-!
`UdpStreamingBackend` with its threads: `ReceiveLoop` registers clients and answers NACK
requests, the capturing thread calls `Broadcast`, and a third one starts and stops the
backend. A step is one access to what the threads share, with the statements up to the next
one; the sends of a frame are one step, as each of them may fail on its own.
-/

namespace AvProject.Server

open AvProject.Lib AvProject.Protocol

inductive ModuleState
  | kCreated | kInitialized | kRunning | kStopped | kShutdown | kFailed
  deriving DecidableEq, Repr, Inhabited

/-! ### Datagrams of the clients -/

/-- The endpoint of the sending side that an address stands for. -/
def SockaddrIn.endpoint (address : SockaddrIn) : Endpoint :=
  address.sinAddr.toNat * 2 ^ 16 + address.sinPort.toNat

theorem SockaddrIn.endpoint_injective : Function.Injective SockaddrIn.endpoint := by
  rintro ⟨port, addr⟩ ⟨port', addr'⟩ heq
  have hport := port.toNat_lt
  have hport' := port'.toNat_lt
  have heq : addr.toNat * 2 ^ 16 + port.toNat = addr'.toNat * 2 ^ 16 + port'.toNat := heq
  congr
  · apply UInt16.toNat_inj.mp
    omega
  · apply UInt32.toNat_inj.mp
    omega

/-- The test of `IsKeepAlivePacket` and `IsNackPacket`. -/
def isPacket (type : MessageType) (data : Bytes) : Bool :=
  decide (sizeofMessageHeader ≤ data.length) &&
    hasValidMessageMagic (MessageHeader.ofBytes data) &&
    (MessageHeader.ofBytes data).messageType == type.code

def isKeepAlivePacket (data : Bytes) : Bool := isPacket .kKeepAlive data

def isNackPacket (data : Bytes) : Bool := isPacket .kUdpNack data

def parseKeepAliveReport (data : Bytes) : Option UdpReceiverReport :=
  if !isPacket .kKeepAlive data ∨
      (MessageHeader.ofBytes data).payloadLength < sizeofUdpReceiverReport ∨
      data.length < sizeofMessageHeader + sizeofUdpReceiverReport then none
  else some (UdpReceiverReport.ofBytes (data.drop sizeofMessageHeader))

/-- A datagram that the receive loop acts on. -/
inductive ClientMessage
  | keepAlive (report : Option UdpReceiverReport)
  | nack (nackItems : List UdpNackItem)
  deriving DecidableEq, Repr

/-- The report that comes with a registration. -/
def ClientMessage.report : ClientMessage → Option UdpReceiverReport
  | .keepAlive report => report
  | .nack _ => none

/-- The choice that the receive loop makes; `none` where it ignores the datagram. -/
def readClientMessage (data : Bytes) : Option ClientMessage :=
  if isKeepAlivePacket data then some (.keepAlive (parseKeepAliveReport data))
  else if isNackPacket data then
    (parseNackRequest data).map fun request => .nack request.2
  else none

/-! ### State -/

/-- Where the receive thread is. -/
inductive UdpReceivePoint
  /-- There is no thread to join. -/
  | notStarted
  | loopCheck
  | select
  | recvfrom
  /-- Between `RegisterClient` and `HandleNackRequest`. -/
  | answering (address : SockaddrIn) (nowNs : UInt64) (nackItems : List UdpNackItem)
  | finished
  deriving DecidableEq, Repr

/-- Where the capturing thread is in `Broadcast`. -/
inductive BroadcastPoint
  | idle
  /-- Behind `SnapshotClients`. -/
  | sending (frame : EncodedFrame) (clients : List SockaddrIn)
  deriving DecidableEq, Repr

/-- `data` is what the buffer holds after `recvfrom`. -/
structure ReceivedDatagram where
  address : SockaddrIn
  nowNs : UInt64
  data : Bytes
  deriving DecidableEq, Repr

/-- `stopping` is true while `stop` waits for the receive thread. `received`, `transmitted`
and `calls` are history variables: the datagrams, the frames that were sent on, and the
accesses to the registry since `stop` last cleared it. -/
structure UdpServer where
  state : ModuleState := .kInitialized
  running : Bool := false
  stopping : Bool := false
  receivePoint : UdpReceivePoint := .notStarted
  broadcastPoint : BroadcastPoint := .idle
  clients : List (UdpClientEndpoint UdpReceiverReport) := []
  backend : UdpStreamingBackend := { socketOpen := false }
  sentFrames : ℕ := 0
  droppedFragmentedFrames : ℕ := 0
  received : List ReceivedDatagram := []
  transmitted : List SentFrame := []
  calls : List (RegistryOperation UdpReceiverReport) := []

/-! ### Steps -/

inductive UdpServerEvent
  /-- `start`, and whether `OpenSocket` succeeds. -/
  | start (opens : Bool)
  | stop
  /-- The thread is joined; the rest of `stop`. -/
  | joined
  /-- `shutdown`, where `stop` has nothing to do. -/
  | shutdown
  | receiveProceed
  | selectTimedOut (nowNs : UInt64)
  | selectInterrupted
  | selectFailed
  | selectReady
  /-- `recvfrom` finds nothing. -/
  | recvAgain
  | recvFailed
  | datagram (address : SockaddrIn) (nowNs : UInt64) (data : Bytes)
  /-- `Broadcast` up to the snapshot of the clients. -/
  | broadcast (frame : EncodedFrame) (nowNs : UInt64)
  | sendFragments (transportSendNs cacheNs : UInt64)

namespace UdpServer

/-- An access to the registry. -/
def access (cfg : TransportConfig) (s : UdpServer)
    (op : RegistryOperation UdpReceiverReport) : UdpServer :=
  { s with
    clients := runRegistryOperation cfg s.clients op
    calls := s.calls ++ [op] }

def closeSocket (s : UdpServer) : UdpServer :=
  { s with backend.socketOpen := false }

/-- The statements after the receive loop. -/
def finishReceiving (s : UdpServer) : UdpServer :=
  { s.closeSocket with running := false, receivePoint := .finished }

/-- On from `select`, unless the backend is stopped meanwhile. -/
def afterSelect (s next : UdpServer) : UdpServer :=
  if s.running then next else s.finishReceiving

def start (cfg : TransportConfig) (s : UdpServer) (opens : Bool) : UdpServer :=
  if !cfg.enabled then { s with state := .kRunning }
  else if !opens then { s with state := .kFailed }
  else
    { s with
      state := .kRunning
      running := true
      receivePoint := .loopCheck
      backend.socketOpen := true }

/-- The rest of `stop`. -/
def clear (s : UdpServer) : UdpServer :=
  { s with
    state := .kStopped
    stopping := false
    receivePoint := .notStarted
    clients := []
    calls := []
    backend.retransmitCache := [] }

/-- A datagram is cut to the size of the buffer. -/
def receiveDatagram (cfg : TransportConfig) (s : UdpServer) (address : SockaddrIn)
    (nowNs : UInt64) (data : Bytes) : UdpServer :=
  let data := data.take cfg.udpMaxDatagramSize
  let datagram : ReceivedDatagram := { address := address, nowNs := nowNs, data := data }
  let s := { s with received := s.received ++ [datagram] }
  match readClientMessage data with
  | none => { s with receivePoint := .loopCheck }
  | some message =>
      { s.access cfg (.registerClient address nowNs message.report) with
        receivePoint := match message with
          | .keepAlive _ => .loopCheck
          | .nack nackItems => .answering address nowNs nackItems }

/-- A socket that is closed takes nothing. -/
def socketEnv (env : ServerEnv) (s : UdpServer) : ServerEnv where
  accepted call datagram := if s.backend.socketOpen then env.accepted call datagram else 0

def beginBroadcast (cfg : TransportConfig) (s : UdpServer) (frame : EncodedFrame)
    (nowNs : UInt64) : UdpServer :=
  if !cfg.enabled || !s.backend.socketOpen then s
  else
    let clients := (snapshotClients cfg nowNs s.clients).2
    { s.access cfg (.snapshotClients nowNs) with
      broadcastPoint := if clients.isEmpty then .idle else .sending frame clients }

def sendFragments (env : ServerEnv) (cfg : TransportConfig) (s : UdpServer)
    (frame : EncodedFrame) (clients : List SockaddrIn) (transportSendNs cacheNs : UInt64) :
    UdpServer :=
  let (backend, ok) := sendFrameFragments (s.socketEnv env) cfg frame
    (clients.map SockaddrIn.endpoint) transportSendNs cacheNs s.backend
  { s with
    backend := backend
    broadcastPoint := .idle
    sentFrames := if ok ∧ frame.captureTimestampNs ≠ 0 then s.sentFrames + 1 else s.sentFrames
    droppedFragmentedFrames :=
      if ok then s.droppedFragmentedFrames else s.droppedFragmentedFrames + 1
    transmitted := s.transmitted ++ [SentFrame.mk frame transportSendNs] }

end UdpServer

/-- A second `start` would give up a thread that is to be joined, so there is none. -/
def udpServerStep (env : ServerEnv) (cfg : TransportConfig) (s : UdpServer) :
    UdpServerEvent → Option UdpServer
  | .start opens =>
      if s.receivePoint = .notStarted ∧ s.stopping = false then some (s.start cfg opens) else none
  | .stop =>
      if s.stopping then none
      else if s.state ≠ .kRunning then some s
      else some { s.closeSocket with running := false, stopping := true }
  | .joined =>
      if s.stopping ∧ (s.receivePoint = .notStarted ∨ s.receivePoint = .finished) then
        some s.clear
      else none
  | .shutdown =>
      if s.stopping ∨ s.state = .kRunning then none else some { s with state := .kShutdown }
  | .receiveProceed =>
      match s.receivePoint with
      | .loopCheck =>
          some (if s.running then { s with receivePoint := .select } else s.finishReceiving)
      | .answering address nowNs nackItems =>
          some { s with
            backend := handleNackRequest env cfg address.endpoint nowNs nackItems s.backend
            receivePoint := .loopCheck }
      | _ => none
  | .selectTimedOut nowNs =>
      if s.receivePoint = .select then
        some (s.afterSelect
          { s.access cfg (.pruneStaleClients nowNs) with receivePoint := .loopCheck })
      else none
  | .selectInterrupted =>
      if s.receivePoint = .select then some (s.afterSelect { s with receivePoint := .loopCheck })
      else none
  | .selectFailed => if s.receivePoint = .select then some s.finishReceiving else none
  | .selectReady =>
      if s.receivePoint = .select then some (s.afterSelect { s with receivePoint := .recvfrom })
      else none
  | .recvAgain =>
      if s.receivePoint = .recvfrom then some { s with receivePoint := .loopCheck } else none
  | .recvFailed => if s.receivePoint = .recvfrom then some s.finishReceiving else none
  | .datagram address nowNs data =>
      if s.receivePoint = .recvfrom then some (s.receiveDatagram cfg address nowNs data)
      else none
  | .broadcast frame nowNs =>
      if s.broadcastPoint = .idle then some (s.beginBroadcast cfg frame nowNs) else none
  | .sendFragments transportSendNs cacheNs =>
      match s.broadcastPoint with
      | .idle => none
      | .sending frame clients =>
          some (s.sendFragments env cfg frame clients transportSendNs cacheNs)

/-- A run of the backend after `initialize`. -/
def runUdpServer (env : ServerEnv) (cfg : TransportConfig) (events : List UdpServerEvent) :
    Option UdpServer :=
  runSteps (udpServerStep env cfg) {} events

end AvProject.Server
