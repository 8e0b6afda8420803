import AvProject.Protocol.RtpAccess
import AvProject.Server.LatencyRecorder
import AvProject.Server.RtpPacketizer
import AvProject.Server.RtpStreamingBackend
import AvProject.Server.UdpServer

/-!
`RtpStreamingBackend` from `start` to `shutdown`: `Broadcast` sends the packets of a frame
evenly spread over a short time, each of them with the time at which it is sent.
-/

namespace AvProject.Server

open AvProject.Lib AvProject.Protocol

/-! ### State -/

/-- What the operating system does: the results of `sendto`, the time that passes before the
monotonic clock is read, and how long a sleep takes. The first argument counts the calls. -/
structure RtpEnv where
  sendto : ℕ → Bytes → ℤ
  elapsed : ℕ → ℕ
  slept : ℕ → ℕ → ℕ

/-- A sleep takes at least as long as it was asked for. -/
def RtpEnv.SleepsThrough (env : RtpEnv) : Prop := ∀ call ns, ns ≤ env.slept call ns

/-- A packet that was handed to the socket, and when. -/
structure SentRtpPacket where
  sendTimestampNs : ℕ
  bytes : Bytes
  deriving DecidableEq, Repr

/-- What `Broadcast` did with a frame that it packetized: `packetizer` is the one from before,
`requestedNs` the sum of the sleeps, and `handed` the packets that were sent. -/
structure RtpTransmission where
  frame : EncodedFrame
  packetizer : RtpPacketizer
  frameIntervalNs : ℕ
  frameSendStart : ℕ
  pacingInterval : ℕ
  requestedNs : ℕ
  handed : List SentRtpPacket
  whole : Bool
  deriving DecidableEq, Repr

/-- The backend and the clock. `transmissions` and `requestedNs` are history variables. -/
structure RtpStreamingBackend where
  state : ModuleState := .kInitialized
  socketOpen : Bool := false
  hasRemoteAddress : Bool := false
  packetizer : Option RtpPacketizer := none
  sendLatencyRecorder : LatencyRecorder := { maxSamples := 1000 }
  sentFrames : ℕ := 0
  sentPackets : ℕ := 0
  failedFrames : ℕ := 0
  fallbackFrameIntervalNs : ℕ := 0
  previousFrameCaptureTimestampNs : ℕ := 0
  nowNs : ℕ := 0
  calls : ℕ := 0
  requestedNs : ℕ := 0
  transmissions : List RtpTransmission := []
  deriving DecidableEq, Repr

namespace RtpStreamingBackend

/-! ### Lifecycle -/

/-- The frame interval that `initialize` takes from the configuration of the capture. -/
def fallbackFrameInterval (frameIntervalMs fps : ℤ) : ℕ :=
  if 0 < frameIntervalMs then frameIntervalMs.toNat * 1000000
  else if 0 < fps then 1000000000 / fps.toNat
  else 0

/-- The packetizer that `start` creates; its first sequence number is random. -/
def createPacketizer (cfg : TransportConfig) (sequenceNumber : UInt16) : RtpPacketizer where
  payloadType := UInt8.ofNat (cfg.rtpPayloadType % 2 ^ 8).toNat
  clockRate := UInt32.ofNat (cfg.rtpClockRate % 2 ^ 32).toNat
  maxPayloadSize := cfg.rtpMaxPayloadSize
  ssrc := UInt32.ofNat (cfg.rtpSsrc % 2 ^ 32).toNat
  enableLatencyExtension := cfg.rtpEnableLatencyExtension
  sequenceNumber := sequenceNumber

/-- `start` for an enabled transport. Where `OpenSocket` fails, there is no socket. -/
def startSocket (cfg : TransportConfig) (rtpSdpPath : String) (socketOpens fileOpens : Bool)
    (sequenceNumber : UInt16) (st : RtpStreamingBackend) : RtpStreamingBackend × Bool :=
  if !configureRemoteAddress cfg then
    ({ st with hasRemoteAddress := false, state := .kFailed }, false)
  else if !socketOpens then
    ({ st with hasRemoteAddress := true, socketOpen := false, state := .kFailed }, false)
  else if !(writeSdpFile cfg rtpSdpPath fileOpens).1 then
    ({ st with
        hasRemoteAddress := true
        socketOpen := false
        packetizer := none
        state := .kFailed }, false)
  else
    ({ st with
        hasRemoteAddress := true
        socketOpen := true
        packetizer := some (createPacketizer cfg sequenceNumber)
        state := .kRunning }, true)

def start (cfg : TransportConfig) (rtpSdpPath : String) (socketOpens fileOpens : Bool)
    (sequenceNumber : UInt16) (st : RtpStreamingBackend) : RtpStreamingBackend × Bool :=
  if !cfg.enabled then ({ st with state := .kRunning }, true)
  else startSocket cfg rtpSdpPath socketOpens fileOpens sequenceNumber st

def stop (st : RtpStreamingBackend) : RtpStreamingBackend :=
  { st with
    packetizer := none
    socketOpen := false
    hasRemoteAddress := false
    previousFrameCaptureTimestampNs := 0
    state := .kStopped }

def shutdown (st : RtpStreamingBackend) : RtpStreamingBackend :=
  { st.stop with state := .kShutdown }

/-! ### Pacing -/

def kMaxRtpPacingWindowNs : ℕ := 2 * 1000 * 1000

def kRtpPacingFrameFractionDivisor : ℕ := 4

def kMinRtpPacingIntervalNs : ℕ := 50 * 1000

/-- The time over which the packets of a frame are spread. -/
def pacingWindow (frameIntervalNs : ℕ) : ℕ :=
  min kMaxRtpPacingWindowNs (frameIntervalNs / kRtpPacingFrameFractionDivisor)

/-- The time since the frame before, or else what the configuration says. -/
def frameInterval (st : RtpStreamingBackend) (currentCaptureTimestampNs : ℕ) : ℕ :=
  if currentCaptureTimestampNs ≠ 0 ∧ st.previousFrameCaptureTimestampNs ≠ 0 ∧
      st.previousFrameCaptureTimestampNs < currentCaptureTimestampNs then
    currentCaptureTimestampNs - st.previousFrameCaptureTimestampNs
  else st.fallbackFrameIntervalNs

/-- The part of `ComputePacingInterval` behind the frame interval. -/
def spreadOver (frameIntervalNs packetCount : ℕ) : ℕ :=
  if frameIntervalNs = 0 then 0
  else if pacingWindow frameIntervalNs < kMinRtpPacingIntervalNs then 0
  else
    let intervalNs := pacingWindow frameIntervalNs / (packetCount - 1)
    if intervalNs < kMinRtpPacingIntervalNs then 0 else intervalNs

def computePacingInterval (packetCount currentCaptureTimestampNs : ℕ)
    (st : RtpStreamingBackend) : RtpStreamingBackend × ℕ :=
  let next :=
    if currentCaptureTimestampNs ≠ 0 then
      { st with previousFrameCaptureTimestampNs := currentCaptureTimestampNs }
    else st
  if packetCount < 4 then (next, 0)
  else (next, spreadOver (st.frameInterval currentCaptureTimestampNs) packetCount)

def readClock (env : RtpEnv) (st : RtpStreamingBackend) : RtpStreamingBackend × ℕ :=
  let nowNs := st.nowNs + env.elapsed st.calls
  ({ st with nowNs := nowNs, calls := st.calls + 1 }, nowNs)

def clockNanosleep (env : RtpEnv) (remaining : ℕ) (st : RtpStreamingBackend) :
    RtpStreamingBackend :=
  { st with
    nowNs := st.nowNs + env.slept st.calls remaining
    calls := st.calls + 1
    requestedNs := st.requestedNs + remaining }

def pacePacketBurst (env : RtpEnv) (packetIndex frameSendStart pacingInterval : ℕ)
    (st : RtpStreamingBackend) : RtpStreamingBackend :=
  if packetIndex = 0 ∨ pacingInterval = 0 then st
  else
    let targetSendTime := frameSendStart + pacingInterval * packetIndex
    let (st, now) := st.readClock env
    if targetSendTime ≤ now then st else st.clockNanosleep env (targetSendTime - now)

/-! ### Broadcast -/

/-- The packet with the time of its sending, where it is to have one. -/
def stampPacket (cfg : TransportConfig) (packet : Bytes) (sendTimestampNs : ℕ) : Option Bytes :=
  if cfg.rtpEnableLatencyExtension then
    match updateRtpLatencyExtensionTransportSendTimestamp packet
        (UInt64.ofNat sendTimestampNs) with
    | some (true, updated) => some updated
    | _ => none
  else some packet

def failFrame (st : RtpStreamingBackend) : RtpStreamingBackend :=
  { st with failedFrames := st.failedFrames + 1 }

/-- The loop of `Broadcast`: the packets that were sent, and whether these are all. -/
def sendPackets (env : RtpEnv) (cfg : TransportConfig) (frameSendStart pacingInterval : ℕ) :
    ℕ → List Bytes → RtpStreamingBackend → RtpStreamingBackend × List SentRtpPacket × Bool
  | _, [], st => (st, [], true)
  | index, packet :: packets, st =>
      if cfg.udpMaxDatagramSize < packet.length then (st.failFrame, [], false)
      else
        let (st, sendTimestampNs) :=
          (st.pacePacketBurst env index frameSendStart pacingInterval).readClock env
        match stampPacket cfg packet sendTimestampNs with
        | none => (st.failFrame, [], false)
        | some packet =>
            let sent := env.sendto st.calls packet
            let st := { st with calls := st.calls + 1 }
            if sent ≠ packet.length then (st.failFrame, [], false)
            else
              let (st, handed, whole) :=
                sendPackets env cfg frameSendStart pacingInterval (index + 1) packets
                  { st with sentPackets := st.sentPackets + 1 }
              (st, { sendTimestampNs := sendTimestampNs, bytes := packet } :: handed, whole)

/-- `RecordNs` with the time since the capture, in 64 bits. -/
def recordLatency (env : RtpEnv) (frame : EncodedFrame) (st : RtpStreamingBackend) :
    RtpStreamingBackend :=
  if frame.captureTimestampNs = 0 then st
  else
    let (st, nowNs) := st.readClock env
    let latencyNs := (UInt64.ofNat nowNs - UInt64.ofNat frame.captureTimestampNs).toNat
    { st with sendLatencyRecorder := st.sendLatencyRecorder.recordNs latencyNs }

/-- The interval between the packets, and the time at which the frame starts. -/
def beginFrame (env : RtpEnv) (packetCount currentCaptureTimestampNs : ℕ)
    (st : RtpStreamingBackend) : RtpStreamingBackend × ℕ × ℕ :=
  let (st, pacingInterval) := st.computePacingInterval packetCount currentCaptureTimestampNs
  let (st, frameSendStart) := st.readClock env
  (st, pacingInterval, frameSendStart)

/-- A frame whose packets were all sent is counted, and its latency recorded. -/
def finishFrame (env : RtpEnv) (t : RtpTransmission) (st : RtpStreamingBackend) :
    RtpStreamingBackend :=
  let st := { st with transmissions := st.transmissions ++ [t] }
  if t.whole then { st with sentFrames := st.sentFrames + 1 }.recordLatency env t.frame else st

/-- `Broadcast` behind the packetization. -/
def transmit (env : RtpEnv) (cfg : TransportConfig) (frame : EncodedFrame) (p : RtpPacketizer)
    (packets : List Bytes) (st : RtpStreamingBackend) : RtpStreamingBackend :=
  let (start, pacingInterval, frameSendStart) :=
    st.beginFrame env packets.length frame.captureTimestampNs
  let (after, handed, whole) := sendPackets env cfg frameSendStart pacingInterval 0 packets start
  after.finishFrame env
    { frame := frame
      packetizer := p
      frameIntervalNs := st.frameInterval frame.captureTimestampNs
      frameSendStart := frameSendStart
      pacingInterval := pacingInterval
      requestedNs := after.requestedNs - start.requestedNs
      handed := handed
      whole := whole }

def broadcast (env : RtpEnv) (cfg : TransportConfig) (frame : EncodedFrame)
    (st : RtpStreamingBackend) : RtpStreamingBackend :=
  match st.packetizer with
  | none => st
  | some p =>
      if !cfg.enabled || !st.socketOpen || !st.hasRemoteAddress then st
      else
        match p.packetize (some frame) with
        | (p', .error _) => { st with packetizer := some p' }.failFrame
        | (p', .ok packets) => { st with packetizer := some p' }.transmit env cfg frame p packets

end RtpStreamingBackend

/-! ### Runs -/

/-- A call of the backend. -/
inductive RtpOperation
  | start (rtpSdpPath : String) (socketOpens fileOpens : Bool) (sequenceNumber : UInt16)
  | stop
  | shutdown
  | broadcast (frame : EncodedFrame)
  deriving DecidableEq, Repr

def rtpStep (env : RtpEnv) (cfg : TransportConfig) (st : RtpStreamingBackend) :
    RtpOperation → RtpStreamingBackend
  | .start rtpSdpPath socketOpens fileOpens sequenceNumber =>
      (st.start cfg rtpSdpPath socketOpens fileOpens sequenceNumber).1
  | .stop => st.stop
  | .shutdown => st.shutdown
  | .broadcast frame => st.broadcast env cfg frame

/-- What the calls lead to. -/
def runRtp (env : RtpEnv) (cfg : TransportConfig) (st : RtpStreamingBackend)
    (ops : List RtpOperation) : RtpStreamingBackend :=
  ops.foldl (rtpStep env cfg) st

end AvProject.Server
