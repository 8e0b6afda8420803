import AvProject.Client.AdaptiveJitterBuffer
import AvProject.Lib.OrdMap
import AvProject.Protocol.Message

/-!
Configuration, frames, statistics and receiver state of `StreamClient`. Counters
are unbounded naturals; timestamps and sequence numbers are the naturals below
`2 ^ 64` that the packed fields can hold.

`History` and `UdpFrameAssembly.writes` are history variables: they record what
the receiver has done and no branch of the code reads them.
-/

namespace AvProject.Client

open AvProject.Lib AvProject.Protocol

/-! ### Configuration -/

inductive Transport | tcp | udp | rtp
  deriving DecidableEq, Repr, Inhabited

/-- `fixed` stands for every strategy name without a branch of its own. -/
inductive JitterBufferStrategy | auto | off | low | smooth | fixed | adaptive
  deriving DecidableEq, Repr, Inhabited

inductive JitterPattern | none | saw | burst | alternate
  deriving DecidableEq, Repr, Inhabited

inductive LossPattern | none | single | burst | alternate
  deriving DecidableEq, Repr, Inhabited

structure ClientConfig where
  transport : Transport := .tcp
  expectMetadata : Bool := true
  udpMaxDatagramSize : ℕ := 65507
  rtpPayloadType : ℤ := -1
  udpJitterBufferEnabled : Bool := true
  udpJitterBufferStrategy : JitterBufferStrategy := .auto
  udpJitterBufferTargetDelayMs : ℤ := 8
  udpJitterBufferAdaptiveMaxDelayMs : ℤ := 120
  udpJitterBufferMaxWaitMs : ℤ := 40
  udpJitterBufferMaxFrames : ℕ := 4
  udpJitterBufferMinDelayMs : ℤ := 2
  udpJitterBufferSafetyFactor : ℚ := 3 / 2
  udpNackEnabled : Bool := true
  udpFecEnabled : Bool := true
  udpNackRequestDelayMs : ℤ := 25
  udpNackRetryIntervalMs : ℤ := 20
  udpNackMaxRetries : ℤ := 3
  udpNackMaxRequestsPerPacket : ℕ := 16
  udpTestJitterPattern : JitterPattern := .none
  udpTestJitterAmplitudeMs : ℤ := 0
  udpTestJitterPeriod : ℤ := 6
  udpTestLossPattern : LossPattern := .none
  udpTestLossPeriod : ℤ := 30
  udpTestLossCount : ℤ := 1
  deriving DecidableEq, Repr, Inhabited

/-- The timeout of an incomplete assembly, 250 ms. -/
def kUdpAssemblyTimeoutNs : ℕ := 250 * 1000 * 1000

/-- Number of completed sequence numbers that are remembered. -/
def kRecentCompletedUdpSequenceWindow : ℕ := 1024

/-! ### Frames and statistics -/

structure ReceivedFrame where
  header : MessageHeader
  metadata : FrameDiagnosticMetadata
  senderMetadataAvailable : Bool
  receiveTimestampNs : ℕ
  payload : Bytes
  deriving DecidableEq, Repr, Inhabited

structure UdpReceiveStats where
  datagramsReceived : ℕ := 0
  invalidDatagrams : ℕ := 0
  staleDatagramsDropped : ℕ := 0
  fragmentsReceived : ℕ := 0
  duplicateFragments : ℕ := 0
  timedOutFragments : ℕ := 0
  timedOutFrames : ℕ := 0
  completedFrames : ℕ := 0
  reorderedFrames : ℕ := 0
  jitterLastMs : ℚ := 0
  jitterAvgMs : ℚ := 0
  jitterMaxMs : ℚ := 0
  jitterP50Ms : ℚ := 0
  jitterP95Ms : ℚ := 0
  jitterSamples : ℕ := 0
  jitterBufferActiveMode : JitterBufferMode := .kBypass
  jitterBufferQuality : NetworkQuality := .kExcellent
  jitterBufferCurrentDepth : ℕ := 0
  jitterBufferMaxDepth : ℕ := 0
  jitterBufferEmittedFrames : ℕ := 0
  jitterBufferSkippedFrames : ℕ := 0
  jitterBufferDroppedFrames : ℕ := 0
  jitterBufferWaitSamples : ℕ := 0
  jitterBufferTargetDelayMs : ℚ := 0
  jitterBufferWaitLastMs : ℚ := 0
  jitterBufferWaitAvgMs : ℚ := 0
  jitterBufferWaitMaxMs : ℚ := 0
  nackRequestsSent : ℕ := 0
  nackFragmentsRequested : ℕ := 0
  fecFragmentsReceived : ℕ := 0
  fecRecoveredFragments : ℕ := 0
  fecRecoveredFrames : ℕ := 0
  injectedLossDatagrams : ℕ := 0
  injectedLossFragments : ℕ := 0
  deriving DecidableEq, Repr, Inhabited

/-! ### Receiver state -/

/-- One `memcpy` into the payload of an assembly. -/
structure PayloadWrite where
  index : ℕ
  offset : ℕ
  bytes : Bytes
  recovered : Bool
  deriving DecidableEq, Repr, Inhabited

structure UdpFrameAssembly where
  header : MessageHeader := default
  metadata : FrameDiagnosticMetadata := default
  payload : Bytes := []
  receivedFragments : List Bool := []
  fragmentOffsets : List ℕ := []
  fragmentPayloadSizes : List ℕ := []
  receivedFragmentCount : ℕ := 0
  fecPayload : Bytes := []
  hasFecPayload : Bool := false
  fecPayloadTimestampNs : ℕ := 0
  firstSeenTimestampNs : ℕ := 0
  lastFragmentTimestampNs : ℕ := 0
  lastNackTimestampNs : ℕ := 0
  nackAttempts : ℕ := 0
  writes : List PayloadWrite := []
  deriving DecidableEq, Repr, Inhabited

/-- `received_fragment_count == received_fragments.size()`. -/
def UdpFrameAssembly.complete (a : UdpFrameAssembly) : Bool :=
  a.receivedFragmentCount == a.receivedFragments.length

structure BufferedUdpFrame where
  frame : ReceivedFrame
  bufferedTimestampNs : ℕ
  deriving DecidableEq, Repr, Inhabited

structure RtpFrameAssembly where
  payload : Bytes := []
  timestamp : UInt32 := 0
  ssrc : UInt32 := 0
  nextSequenceNumber : UInt16 := 0
  captureTimestampNs : UInt64 := 0
  transportSendTimestampNs : UInt64 := 0
  active : Bool := false
  hasSequenceNumber : Bool := false
  senderMetadataAvailable : Bool := false
  senderMetadataInvalid : Bool := false
  frameDamaged : Bool := false
  fuInProgress : Bool := false
  deriving DecidableEq, Repr, Inhabited

/-- An obligation that the C++ code takes on when it runs: an access of `length`
bytes at `offset` of a buffer of `size` bytes, a 32-bit sum, an unsigned
subtraction. -/
inductive RuntimeCheck
  | access (size offset length : ℕ)
  | sum32 (value : ℕ)
  | difference (minuend subtrahend : ℕ)
  deriving DecidableEq, Repr

def RuntimeCheck.Holds : RuntimeCheck → Prop
  | .access size offset length => offset + length ≤ size
  | .sum32 value => value < 2 ^ 32
  | .difference minuend subtrahend => subtrahend ≤ minuend

/-- A finished assembly together with the frame made of it. -/
structure CompletedFrame where
  sequence : ℕ
  assembly : UdpFrameAssembly
  frame : ReceivedFrame
  deriving DecidableEq, Repr, Inhabited

/-- A NACK datagram handed to the socket. -/
structure NackSend where
  nowNs : ℕ
  frameSequence : ℕ
  fragments : List ℕ
  datagram : Bytes
  sent : Bool
  deriving DecidableEq, Repr, Inhabited

structure History where
  checks : List RuntimeCheck := []
  completed : List CompletedFrame := []
  nackDatagrams : List NackSend := []
  deriving DecidableEq, Repr, Inhabited

/-- The receiver; `socketOpen` is `socket_fd_ >= 0`. -/
structure StreamClient where
  socketOpen : Bool := false
  udpReceiveStats : UdpReceiveStats := {}
  udpAssemblies : OrdMap UdpFrameAssembly := ∅
  udpJitterBuffer : OrdMap BufferedUdpFrame := ∅
  rtpFrameAssembly : RtpFrameAssembly := {}
  lastCompletedFrameSequence : ℕ := 0
  hasLastCompletedFrameSequence : Bool := false
  nextJitterBufferSequence : ℕ := 0
  hasNextJitterBufferSequence : Bool := false
  udpTestDroppedFragments : OrdMap (List Bool) := ∅
  recentlyCompletedUdpSequenceOrder : List ℕ := []
  recentlyCompletedUdpSequences : Finset ℕ := ∅
  previousNetworkLatencyMs : ℚ := 0
  hasPreviousNetworkLatency : Bool := false
  adaptiveJitter : AdaptiveJitterBuffer id := {}
  history : History := {}
  deriving DecidableEq

/-- What the environment decides for the NACK datagrams of one run, numbered in
sending order: whether `send` succeeds and what the clock reads. -/
structure ClientEnv where
  sendSucceeds : ℕ → Bool
  monotonicNowNs : ℕ → ℕ

/-- A clock that stands still and a socket that accepts everything. -/
def ClientEnv.idle : ClientEnv where
  sendSucceeds _ := true
  monotonicNowNs _ := 0

/-- Append to the log of run-time obligations. -/
def StreamClient.check (st : StreamClient) (checks : List RuntimeCheck) : StreamClient :=
  { st with history.checks := st.history.checks ++ checks }

/-- `Connect`, once the socket is open: `Close` and the two resets clear
everything but the adaptive controller, which is reset and configured. -/
def StreamClient.connect (cfg : ClientConfig) (st : StreamClient) : StreamClient :=
  let jitter := st.adaptiveJitter.reset.configure
    { minDelayMs := cfg.udpJitterBufferMinDelayMs
      safetyFactor := cfg.udpJitterBufferSafetyFactor
      baseMaxWaitMs := cfg.udpJitterBufferMaxWaitMs
      baseMaxFrames := cfg.udpJitterBufferMaxFrames }
  let jitter := match cfg.udpJitterBufferStrategy with
    | .off => jitter.setFixedMode .kBypass
    | .low => jitter.setFixedMode .kLowLatency
    | .smooth => jitter.setFixedMode .kSmooth
    | .auto => jitter.enableAutoMode
    | .fixed | .adaptive => jitter
  { socketOpen := true
    udpReceiveStats :=
      { jitterBufferTargetDelayMs := (max cfg.udpJitterBufferTargetDelayMs 0 : ℤ) }
    adaptiveJitter := jitter
    history := st.history }

/-- The receiver after its first `Connect`. -/
def StreamClient.connected (cfg : ClientConfig) : StreamClient :=
  ({} : StreamClient).connect cfg

end AvProject.Client
