import AvProject.Client.BoundedQueue
import AvProject.Client.State
import AvProject.Lib.Run
import AvProject.Protocol.AnnexB

/-!
The pipeline that `main` of the client sets up: a thread that receives frames, a thread
that decodes them, the main thread that renders them and then waits for the other two,
and the signal handler. One step is one access to what the threads share, with the
thread's own statements up to the next one.

The network, the decoder, the renderer and the keyboard answer as they like. `log` is a
history variable: no branch reads it.
-/

namespace AvProject.Client

open AvProject.Lib AvProject.Protocol

/-- `PipelineDecodedFrame`; `δ` is the image that the decoder produces. -/
structure PipelineDecodedFrame (δ : Type) where
  frame : δ
  metadata : FrameDiagnosticMetadata
  senderMetadataAvailable : Bool
  receiveTimestampNs : ℕ
  decodeStartTimestampNs : ℕ
  decodeEndTimestampNs : ℕ

structure PipelineConfig where
  receiveQueueCapacity : ℕ := 8
  decodeQueueCapacity : ℕ := 3

/-! ### Where the threads are -/

/-- The statements of `request_stop`. -/
inductive StopPoint | exchange | closeReceived | closeDecoded
  deriving DecidableEq, Repr

inductive ReceiveThreadPoint
  | loopCheck
  /-- In `ReceiveFrame`. -/
  | receiving
  | push (frame : ReceivedFrame)
  /-- `ReceiveFrame` has failed. -/
  | failed
  | retryCheck (retry : ℕ)
  | connecting (retry : ℕ)
  | afterRetries
  | requestStop (point : StopPoint)
  | finished

inductive DecodeThreadPoint (δ : Type)
  | loopCheck
  | waitPop
  /-- Before the comparison of the queue's size with the capacity. -/
  | gate (frame : ReceivedFrame)
  /-- In `decoder.Decode`. -/
  | decoding (frame : ReceivedFrame)
  | push (frame : PipelineDecodedFrame δ)
  | finished

/-- The two places where the main thread calls `request_stop`. -/
inductive StopSite
  /-- In the render loop, on the quit key or where rendering fails. -/
  | renderLoop
  /-- After the render loop. -/
  | cleanup
  deriving DecidableEq, Repr

inductive MainPoint (δ : Type)
  | pollKey
  /-- Before a `TryPop`; `latest` is the frame of the one before. -/
  | drain (latest : Option (PipelineDecodedFrame δ))
  /-- The queue was empty. -/
  | checkStop
  | rendering (frame : PipelineDecodedFrame δ)
  | requestStop (site : StopSite) (point : StopPoint)
  | closeClient (site : StopSite)
  | joinReceive
  | joinDecode
  | exited

/-! ### State -/

/-- What is recorded of a run. -/
inductive PipelineAction
  /-- The decode thread skips the frame at the gate. -/
  | skipped (frame : ReceivedFrame)
  /-- The frame goes on to `decoder.Decode`. -/
  | passed (frame : ReceivedFrame)
  /-- The render loop takes a frame out of `decoded_frames`. -/
  | drained

structure PipelineState (δ : Type) where
  stopRequested : Bool := false
  receivedFrames : BoundedQueue ReceivedFrame
  decodedFrames : BoundedQueue (PipelineDecodedFrame δ)
  pipelineErrorMessage : String := ""
  connected : Bool := true
  paused : Bool := false
  receiveThread : ReceiveThreadPoint := .loopCheck
  decodeThread : DecodeThreadPoint δ := .loopCheck
  mainThread : MainPoint δ := .pollKey
  log : List PipelineAction := []

variable {δ : Type}

/-- The pipeline before the first statement of each thread. -/
def PipelineState.start (cfg : PipelineConfig) : PipelineState δ where
  receivedFrames := BoundedQueue.new cfg.receiveQueueCapacity
  decodedFrames := BoundedQueue.new cfg.decodeQueueCapacity

/-- `set_pipeline_error`: the first message stays. -/
def setPipelineError (s : PipelineState δ) (message : String) : PipelineState δ :=
  if s.pipelineErrorMessage = "" then { s with pipelineErrorMessage := message } else s

/-- One statement of `request_stop`, and the next one; `none` where it returns. -/
def requestStopStep (s : PipelineState δ) : StopPoint → PipelineState δ × Option StopPoint
  | .exchange =>
      ({ s with stopRequested := true }, if s.stopRequested then none else some .closeReceived)
  | .closeReceived =>
      ({ s with receivedFrames := s.receivedFrames.close }, some .closeDecoded)
  | .closeDecoded => ({ s with decodedFrames := s.decodedFrames.close }, none)

/-! ### Steps -/

/-- What the receive thread gets from outside. -/
inductive ReceiveInput
  | proceed
  /-- `ReceiveFrame` returns. -/
  | received (result : Option ReceivedFrame)
  /-- `Connect` returns. -/
  | connectReturned (ok : Bool)

def receiveThreadStep (s : PipelineState δ) (input : ReceiveInput) : Option (PipelineState δ) :=
  match s.receiveThread, input with
  | .loopCheck, .proceed =>
      some { s with receiveThread := if s.stopRequested then .finished else .receiving }
  | .receiving, .received (some frame) => some { s with receiveThread := .push frame }
  | .receiving, .received none => some { s with receiveThread := .failed }
  | .push frame, .proceed =>
      match s.receivedFrames.pushOrDropOldest frame with
      | some receivedFrames =>
          some { s with receivedFrames := receivedFrames, receiveThread := .loopCheck }
      | none => some { s with receiveThread := .finished }
  | .failed, .proceed =>
      if s.stopRequested then some { s with receiveThread := .finished }
      else some { s with connected := false, receiveThread := .retryCheck 0 }
  | .retryCheck retry, .proceed =>
      if retry < 10 ∧ s.stopRequested = false then
        some { s with receiveThread := .connecting retry }
      else some { s with receiveThread := .afterRetries }
  | .connecting _, .connectReturned true =>
      some { s with connected := true, receiveThread := .afterRetries }
  | .connecting retry, .connectReturned false =>
      some { s with receiveThread := .retryCheck (retry + 1) }
  | .afterRetries, .proceed =>
      if s.connected then some { s with receiveThread := .loopCheck }
      else some { setPipelineError s "reconnection failed after 10 attempts" with
        receiveThread := .requestStop .exchange }
  | .requestStop point, .proceed =>
      match requestStopStep s point with
      | (s, some next) => some { s with receiveThread := .requestStop next }
      | (s, none) => some { s with receiveThread := .finished }
  | _, _ => none

/-- What the decode thread gets from outside. -/
inductive DecodeInput (δ : Type)
  | proceed
  /-- `decoder.Decode` returns, with the clock before and after. -/
  | decodeReturned (result : Option δ) (decodeStartTimestampNs decodeEndTimestampNs : ℕ)

def decodeThreadStep (cfg : PipelineConfig) (s : PipelineState δ) (input : DecodeInput δ) :
    Option (PipelineState δ) :=
  match s.decodeThread, input with
  | .loopCheck, .proceed =>
      some { s with decodeThread := if s.stopRequested then .finished else .waitPop }
  | .waitPop, .proceed =>
      -- The thread sleeps on the condition variable until the queue is ready.
      if s.receivedFrames.ready then
        match s.receivedFrames.tryPop with
        | some (frame, receivedFrames) =>
            some { s with receivedFrames := receivedFrames, decodeThread := .gate frame }
        | none => some { s with decodeThread := .finished }
      else none
  | .gate frame, .proceed =>
      if cfg.decodeQueueCapacity ≤ s.decodedFrames.size ∧ hasIdrNalUnit frame.payload = false then
        some { s with decodeThread := .loopCheck, log := s.log ++ [.skipped frame] }
      else some { s with decodeThread := .decoding frame, log := s.log ++ [.passed frame] }
  | .decoding _, .decodeReturned none _ _ => some { s with decodeThread := .loopCheck }
  | .decoding frame, .decodeReturned (some decodedFrame) startNs endNs =>
      some { s with decodeThread := .push {
        frame := decodedFrame
        metadata := frame.metadata
        senderMetadataAvailable := frame.senderMetadataAvailable
        receiveTimestampNs := frame.receiveTimestampNs
        decodeStartTimestampNs := startNs
        decodeEndTimestampNs := endNs } }
  | .push outputFrame, .proceed =>
      match s.decodedFrames.pushOrDropOldest outputFrame with
      | some decodedFrames =>
          some { s with decodedFrames := decodedFrames, decodeThread := .loopCheck }
      | none => some { s with decodeThread := .finished }
  | _, _ => none

/-- What the main thread gets from outside. -/
inductive MainInput
  | proceed
  /-- `PollKey` returns. -/
  | key (key : ℤ)
  /-- `SupportsNativeFrame` and `Render` return; `errorMessage` is there where `Render`
  fails. -/
  | rendered (supported : Bool) (errorMessage : Option String)

def mainThreadStep (s : PipelineState δ) (input : MainInput) : Option (PipelineState δ) :=
  match s.mainThread, input with
  | .pollKey, .key key =>
      -- The escape key, `q` and `Q`; then the space bar.
      if key = 27 ∨ key = 113 ∨ key = 81 then
        some { s with mainThread := .requestStop .renderLoop .exchange }
      else
        let paused := if key = 32 then !s.paused else s.paused
        some { s with paused := paused, mainThread := if paused then .pollKey else .drain none }
  | .drain latest, .proceed =>
      match s.decodedFrames.tryPop with
      | some (frame, decodedFrames) =>
          some { s with
            decodedFrames := decodedFrames
            mainThread := .drain (some frame)
            log := s.log ++ [.drained] }
      | none =>
          match latest with
          | some frame => some { s with mainThread := .rendering frame }
          | none => some { s with mainThread := .checkStop }
  | .checkStop, .proceed =>
      some { s with mainThread :=
        if s.stopRequested then .requestStop .cleanup .exchange else .pollKey }
  | .rendering _, .rendered false _ =>
      some { setPipelineError s
          "render failed: decoded frame format is not supported by the OpenGL renderer" with
        mainThread := .requestStop .renderLoop .exchange }
  | .rendering _, .rendered true (some errorMessage) =>
      some { setPipelineError s ("render failed: " ++ errorMessage) with
        mainThread := .requestStop .renderLoop .exchange }
  | .rendering _, .rendered true none => some { s with mainThread := .pollKey }
  | .requestStop site point, .proceed =>
      match requestStopStep s point with
      | (s, some next) => some { s with mainThread := .requestStop site next }
      | (s, none) => some { s with mainThread := .closeClient site }
  | .closeClient .renderLoop, .proceed =>
      some { s with mainThread := .requestStop .cleanup .exchange }
  | .closeClient .cleanup, .proceed => some { s with mainThread := .joinReceive }
  | .joinReceive, .proceed =>
      match s.receiveThread with
      | .finished => some { s with mainThread := .joinDecode }
      | _ => none
  | .joinDecode, .proceed =>
      match s.decodeThread with
      | .finished => some { s with mainThread := .exited }
      | _ => none
  | _, _ => none

inductive PipelineEvent (δ : Type)
  /-- SIGINT or SIGTERM: `SignalHandler` stores the flag. -/
  | signal
  | receiveThread (input : ReceiveInput)
  | decodeThread (input : DecodeInput δ)
  | mainThread (input : MainInput)

/-- One step of one of the threads, or a signal. -/
def pipelineStep (cfg : PipelineConfig) (s : PipelineState δ) :
    PipelineEvent δ → Option (PipelineState δ)
  | .signal => some { s with stopRequested := true }
  | .receiveThread input => receiveThreadStep s input
  | .decodeThread input => decodeThreadStep cfg s input
  | .mainThread input => mainThreadStep s input

/-- A run of the pipeline from its start. -/
def runPipeline (cfg : PipelineConfig) (events : List (PipelineEvent δ)) :
    Option (PipelineState δ) :=
  runSteps (pipelineStep cfg) (PipelineState.start cfg) events

/-- What `main` returns. -/
def exitCode (s : PipelineState δ) : ℕ := if s.pipelineErrorMessage = "" then 0 else 5

end AvProject.Client
