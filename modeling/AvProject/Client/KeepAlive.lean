import AvProject.Client.State
import AvProject.Lib.Run
import AvProject.Protocol.ReceiverReport

/-!
The keepalives of `StreamClient`: what `SendKeepAlive` puts into a message, and the thread
that runs `KeepAliveLoop`. The thread sends until a message is not taken whole or `Close`
clears `running_`.
-/

namespace AvProject.Client

open AvProject.Lib AvProject.Protocol

/-! ### SendKeepAlive -/

/-- The report on the statistics that were published last. `bits` are the bits of a
`double`. -/
def keepAliveReport (bits : ℚ → UInt64) (stats : UdpReceiveStats) (nowNs : ℕ) :
    UdpReceiverReport where
  reportTimestampNs := nowNs % 2 ^ 64
  datagramsReceived := stats.datagramsReceived % 2 ^ 64
  invalidDatagrams := stats.invalidDatagrams % 2 ^ 64
  fragmentsReceived := stats.fragmentsReceived % 2 ^ 64
  duplicateFragments := stats.duplicateFragments % 2 ^ 64
  timedOutFragments := stats.timedOutFragments % 2 ^ 64
  timedOutFrames := stats.timedOutFrames % 2 ^ 64
  completedFrames := stats.completedFrames % 2 ^ 64
  reorderedFrames := stats.reorderedFrames % 2 ^ 64
  jitterSamples := stats.jitterSamples % 2 ^ 64
  jitterLastMs := bits stats.jitterLastMs
  jitterAvgMs := bits stats.jitterAvgMs
  jitterMaxMs := bits stats.jitterMaxMs

def keepAliveMessage (bits : ℚ → UInt64) (cfg : ClientConfig) (stats : UdpReceiveStats)
    (nowNs : ℕ) : Bytes :=
  if cfg.transport ≠ .udp then (buildMessageHeader .kKeepAlive 0 0).toBytes
  else
    (buildMessageHeader .kKeepAlive 0 sizeofUdpReceiverReport).toBytes ++
      (keepAliveReport bits stats nowNs).toBytes

theorem keepAliveReport_fits (bits : ℚ → UInt64) (stats : UdpReceiveStats) (nowNs : ℕ) :
    (keepAliveReport bits stats nowNs).Fits := by
  constructor <;> exact Nat.mod_lt _ (Nat.two_pow_pos 64)

/-! ### KeepAliveLoop -/

/-- Where the keepalive thread is. -/
inductive KeepAlivePoint
  | loopCheck
  | sleeping
  /-- In `SendKeepAlive`. -/
  | sending (message : Bytes)
  | finished
  deriving DecidableEq, Repr

inductive KeepAliveEvent
  | proceed
  /-- The sleep is over; the statistics and the clock, where a message is sent. -/
  | wake (stats : UdpReceiveStats) (nowNs : ℕ)
  /-- `send` takes this many bytes, or fails. -/
  | sendReturned (taken : Option ℕ)
  /-- `Close` clears `running_`. -/
  | close
  deriving DecidableEq, Repr

/-- `stream` is a history variable: what `send` has taken. -/
structure KeepAliveThread where
  running : Bool := true
  point : KeepAlivePoint := .loopCheck
  stream : List Bytes := []
  deriving DecidableEq, Repr

def keepAliveStep (bits : ℚ → UInt64) (cfg : ClientConfig) (s : KeepAliveThread)
    (event : KeepAliveEvent) : Option KeepAliveThread :=
  match s.point, event with
  | _, .close => some { s with running := false }
  | .loopCheck, .proceed =>
      some { s with point := if s.running then .sleeping else .finished }
  | .sleeping, .wake stats nowNs =>
      if s.running then some { s with point := .sending (keepAliveMessage bits cfg stats nowNs) }
      else some { s with point := .finished }
  | .sending message, .sendReturned (some taken) =>
      if message.length < taken then none
      else if taken = message.length then
        some { s with point := .loopCheck, stream := s.stream ++ [message] }
      else
        some { s with
          running := false
          point := .finished
          stream := s.stream ++ [message.take taken] }
  | .sending _, .sendReturned none => some { s with running := false, point := .finished }
  | _, _ => none

/-- A run of the thread; `Connect` has sent the first message itself. -/
def runKeepAlive (bits : ℚ → UInt64) (cfg : ClientConfig) (first : Bytes)
    (events : List KeepAliveEvent) : Option KeepAliveThread :=
  runSteps (keepAliveStep bits cfg) { stream := [first] } events

end AvProject.Client
