import AvProject.Lib.Run
import AvProject.Server.AppConfig
import AvProject.Server.ThreadSafeQueue
import AvProject.Server.UdpStreamingBackend

/-!
`TcpClientSession`. The thread that broadcasts calls `EnqueueFrame`, the send thread runs
`SendLoop`; one step is one access to the queue, with the thread's own statements up to
the next one. `SendFrame` writes a frame to the socket, which takes as many bytes at a
time as it likes.
-/

namespace AvProject.Server

open AvProject.Lib AvProject.Protocol ThreadSafeQueue

structure QueuedFrame where
  frame : EncodedFrame
  enqueueTimestampNs : ℕ

/-- The predicate of `AnyMatching` and `PushDropSelective`. -/
def QueuedFrame.isNonKeyframe (queued : QueuedFrame) : Bool := !queued.frame.isKeyframe

/-- Where the broadcasting thread is in `EnqueueFrame`. -/
inductive EnqueuePoint
  /-- Between two calls. -/
  | idle
  /-- Before `AnyMatching`. -/
  | scan (queued : QueuedFrame)
  /-- Before the push. -/
  | push (queued : QueuedFrame)
  /-- Before the second `Size`. -/
  | recordDepth

/-- Where the send thread is in `SendLoop`. -/
inductive SendPoint
  | loopCheck
  | waitPopFor
  | popped (queued : QueuedFrame)
  /-- In `SendFrame`. -/
  | sending (frame : EncodedFrame) (sendStartTimestampNs : ℕ)
  | finished

/-- One push, with the queue it found and what it dropped. -/
structure PushRecord where
  incoming : QueuedFrame
  queue : List QueuedFrame
  dropped : List QueuedFrame

/-- `offered`, `pushes` and `popped` are history variables: the frames that a running
session is given, the pushes, and the frames that `WaitPopFor` has returned. -/
structure TcpClientSession where
  running : Bool := true
  outboundFrames : List QueuedFrame := []
  overflowDroppedFrames : ℕ := 0
  staleDroppedFrames : ℕ := 0
  droppedIncomingNonKeyframes : ℕ := 0
  backpressureEvents : ℕ := 0
  maxQueueDepth : ℕ := 0
  enqueuePoint : EnqueuePoint := .idle
  sendPoint : SendPoint := .loopCheck
  offered : List EncodedFrame := []
  pushes : List PushRecord := []
  popped : List QueuedFrame := []

/-! ### EnqueueFrame -/

/-- The statements up to the first `Size`, and the choice between a scan and a push. -/
def enqueueFrame (cfg : TransportConfig) (s : TcpClientSession) (frame : EncodedFrame)
    (nowNs : ℕ) : TcpClientSession :=
  if s.running then
    let queued : QueuedFrame := ⟨frame, nowNs⟩
    let full := cfg.maxPendingFrames ≤ s.outboundFrames.length
    { s with
      offered := s.offered ++ [frame]
      backpressureEvents := if full then s.backpressureEvents + 1 else s.backpressureEvents
      enqueuePoint :=
        if cfg.queueDropPolicy = "drop_oldest_non_key" ∧ frame.isKeyframe = false ∧ full then
          .scan queued
        else .push queued }
  else s

/-- The push by the configured policy: what is dropped, and the queue after it. -/
def pushByPolicy (cfg : TransportConfig) (queued : QueuedFrame) (queue : List QueuedFrame) :
    List QueuedFrame × List QueuedFrame :=
  if cfg.queueDropPolicy = "drop_oldest_non_key" then
    pushDropSelective queued cfg.maxPendingFrames QueuedFrame.isNonKeyframe queue
  else pushDropOldestCountDropped queued cfg.maxPendingFrames queue

/-- The next statement of a call that has begun. -/
def enqueueProceed (cfg : TransportConfig) (s : TcpClientSession) : Option TcpClientSession :=
  match s.enqueuePoint with
  | .idle => none
  | .scan queued =>
      if s.outboundFrames.any QueuedFrame.isNonKeyframe then
        some { s with enqueuePoint := .push queued }
      else some { s with
        droppedIncomingNonKeyframes := s.droppedIncomingNonKeyframes + 1
        enqueuePoint := .idle }
  | .push queued =>
      let (dropped, outboundFrames) := pushByPolicy cfg queued s.outboundFrames
      some { s with
        outboundFrames := outboundFrames
        overflowDroppedFrames := s.overflowDroppedFrames + dropped.length
        enqueuePoint := .recordDepth
        pushes := s.pushes ++ [⟨queued, s.outboundFrames, dropped⟩] }
  | .recordDepth =>
      some { s with
        maxQueueDepth := max s.maxQueueDepth s.outboundFrames.length
        enqueuePoint := .idle }

/-! ### SendLoop -/

/-- What the send thread gets from outside. -/
inductive SendInput
  | proceed
  /-- `WaitPopFor` returns false. -/
  | timedOut
  /-- The clock before sending. -/
  | clock (nowNs : ℕ)
  /-- `SendFrame` returns. -/
  | sendReturned (ok : Bool)

/-- The frame has waited longer than the configuration allows. -/
def staleFrame (cfg : TransportConfig) (queued : QueuedFrame) (sendStartTimestampNs : ℕ) : Bool :=
  queued.enqueueTimestampNs ≠ 0 ∧ queued.enqueueTimestampNs ≤ sendStartTimestampNs ∧
    0 < cfg.maxQueueWaitMs ∧ queued.frame.isKeyframe = false ∧
    cfg.maxQueueWaitMs.toNat * 1000 * 1000 < sendStartTimestampNs - queued.enqueueTimestampNs

def sendStep (cfg : TransportConfig) (s : TcpClientSession) (input : SendInput) :
    Option TcpClientSession :=
  match s.sendPoint, input with
  | .loopCheck, .proceed =>
      if s.running then some { s with sendPoint := .waitPopFor }
      else some { s with sendPoint := .finished }
  | .waitPopFor, .proceed =>
      match s.outboundFrames with
      | [] => none
      | queued :: rest =>
          some { s with
            outboundFrames := rest
            sendPoint := .popped queued
            popped := s.popped ++ [queued] }
  | .waitPopFor, .timedOut =>
      if s.outboundFrames = [] then some { s with sendPoint := .loopCheck } else none
  | .popped queued, .clock nowNs =>
      if staleFrame cfg queued nowNs then
        some { s with
          staleDroppedFrames := s.staleDroppedFrames + 1
          sendPoint := .loopCheck }
      else some { s with sendPoint := .sending queued.frame nowNs }
  | .sending _ _, .sendReturned ok =>
      if ok then some { s with sendPoint := .loopCheck }
      else some { s with running := false, sendPoint := .finished }
  | _, _ => none

/-! ### Runs -/

inductive SessionEvent
  /-- The broadcasting thread calls `EnqueueFrame`. -/
  | enqueueFrame (frame : EncodedFrame) (nowNs : ℕ)
  | enqueueProceed
  | send (input : SendInput)
  /-- The receive thread ends and clears `running_`. -/
  | disconnected

def sessionStep (cfg : TransportConfig) (s : TcpClientSession) :
    SessionEvent → Option TcpClientSession
  | .enqueueFrame frame nowNs =>
      match s.enqueuePoint with
      | .idle => some (enqueueFrame cfg s frame nowNs)
      | _ => none
  | .enqueueProceed => enqueueProceed cfg s
  | .send input => sendStep cfg s input
  | .disconnected => some { s with running := false }

/-- A run of a session from its start. -/
def runSession (cfg : TransportConfig) (events : List SessionEvent) : Option TcpClientSession :=
  runSteps (sessionStep cfg) {} events

/-! ### SendFrame -/

/-- What one round of the loop of `SendMessageParts` meets. -/
inductive SendOutcome
  /-- `sendmsg` takes this many bytes. -/
  | sent (count : ℕ)
  | interrupted
  | failed
  /-- `running_` has been cleared. -/
  | stopped
  deriving DecidableEq, Repr

/-- The memory segments after `sendmsg` has taken `count` bytes. -/
def advanceParts : ℕ → List Bytes → List Bytes
  | _, [] => []
  | count, part :: parts =>
      if part.length ≤ count then advanceParts (count - part.length) parts
      else part.drop count :: parts

theorem flatten_advanceParts (count : ℕ) (parts : List Bytes) :
    (advanceParts count parts).flatten = parts.flatten.drop count := by
  induction parts generalizing count with
  | nil => simp [advanceParts]
  | cons part parts ih =>
      rw [advanceParts, List.flatten_cons, List.drop_append]
      split
      · rename_i hle
        rw [ih, List.drop_eq_nil_of_le hle, List.nil_append]
      · rename_i hlt
        rw [Nat.sub_eq_zero_of_le (Nat.le_of_not_le hlt), List.drop_zero, List.flatten_cons]

/-- The loop of `SendMessageParts`: the bytes that the socket takes, and what the function
returns; `none` while it is still in `sendmsg`. -/
def sendPartsLoop : List SendOutcome → List Bytes → Bytes × Option Bool
  | _, [] => ([], some true)
  | [], _ :: _ => ([], none)
  | .stopped :: _, _ :: _ => ([], some false)
  | .failed :: _, _ :: _ => ([], some false)
  | .interrupted :: outcomes, part :: parts => sendPartsLoop outcomes (part :: parts)
  | .sent count :: outcomes, part :: parts =>
      if count = 0 then ([], some false)
      else
        let (rest, result) := sendPartsLoop outcomes (advanceParts count (part :: parts))
        ((part :: parts).flatten.take count ++ rest, result)

def sendMessageParts (outcomes : List SendOutcome) (header metadata payload : Bytes) :
    Bytes × Option Bool :=
  sendPartsLoop outcomes ([header, metadata, payload].filter fun part => part ≠ [])

/-- The metadata that `SendFrame` embeds. -/
def tcpFrameMetadata (sent : SentFrame) : FrameDiagnosticMetadata where
  sequence := sent.frame.sequence
  captureTimestampNs := sent.frame.captureTimestampNs
  encodeStartTimestampNs := sent.frame.encodeStartTimestampNs
  encodeEndTimestampNs := sent.frame.encodeEndTimestampNs
  transportSendTimestampNs := sent.transportSendTimestampNs.toNat

/-- The embedded metadata as bytes; nothing where it is not embedded. -/
def tcpMetadataBytes (cfg : TransportConfig) (sent : SentFrame) : Bytes :=
  if cfg.embedFrameMetadata then (tcpFrameMetadata sent).toBytes else []

def tcpMessageHeader (cfg : TransportConfig) (sent : SentFrame) : MessageHeader :=
  buildMessageHeader .kAvStream sent.frame.type.code
    (if cfg.embedFrameMetadata then sizeofFrameDiagnosticMetadata + sent.frame.payload.length
      else sent.frame.payload.length)

def sendFrame (cfg : TransportConfig) (sent : SentFrame) (outcomes : List SendOutcome) :
    Bytes × Option Bool :=
  sendMessageParts outcomes (tcpMessageHeader cfg sent).toBytes (tcpMetadataBytes cfg sent)
    sent.frame.payload

end AvProject.Server
