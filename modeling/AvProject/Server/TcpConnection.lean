import AvProject.Server.SendMessageParts
import AvProject.Server.TcpReceiveLoop

/-!
A `TcpClientSession` with both its threads and what its socket has taken. The send thread goes
through `SendLoop` and, one `sendmsg` at a time, through `SendFrame`; the receive thread goes
through `ReceiveLoop`. They share `running_`, and each clears it when it ends.
-/

namespace AvProject.Server

open AvProject.Lib AvProject.Protocol

/-- `sending` is the call of `SendMessageParts` that the send thread is in. The other fields
behind it are history variables: the frames whose `SendFrame` has returned true, the one it has
not, those dropped as stale, refused, or left in the queue when `Stop` cleared it, and the
bytes the socket has taken. -/
structure TcpConnection where
  session : TcpClientSession := {}
  receiver : ReceiveThread
  sentFrames : ℕ := 0
  sending : Option MessageSending := none
  sent : List SentFrame := []
  unfinished : Option SentFrame := none
  stale : List QueuedFrame := []
  refused : List EncodedFrame := []
  cleared : List QueuedFrame := []
  written : Bytes := []

/-- What the session's own threads meet. -/
inductive SessionThreadEvent
  | sendProceed
  | popTimedOut
  | sendClock (nowNs : UInt64)
  | sendmsg (outcome : SendOutcome)
  | receive (input : ReceiveInput)

/-- `enqueueFrame` and `enqueueProceed` are the broadcasting thread, `stop` and `joined` the
thread that calls `Stop`. -/
inductive ConnectionEvent
  | thread (event : SessionThreadEvent)
  | enqueueFrame (frame : EncodedFrame) (nowNs : UInt64)
  | enqueueProceed
  | stop
  | joined

/-- `SendFrame` up to the loop of `SendMessageParts`. -/
def startFrame (cfg : TransportConfig) (sent : SentFrame) : MessageSending :=
  startSending (tcpMessageHeader cfg sent).toBytes (tcpMetadataBytes cfg sent) sent.frame.payload

namespace TcpConnection

def running (c : TcpConnection) : Bool := c.session.running

/-- Both threads have ended. -/
def ended (c : TcpConnection) : Bool :=
  match c.session.sendPoint, c.receiver.point with
  | .finished, .finished _ => true
  | _, _ => false

/-- The session after a step of it; the receive thread sees `running_`. -/
def withSession (c : TcpConnection) (session : TcpClientSession) : TcpConnection :=
  { c with
    session := session
    receiver := { c.receiver with running := session.running } }

/-- The receive thread after a step of it. -/
def withReceiver (c : TcpConnection) (receiver : ReceiveThread) : TcpConnection :=
  { c with
    session := { c.session with running := receiver.running }
    receiver := receiver }

/-- The clock before sending: the frame is stale, or `SendFrame` begins. -/
def beginFrame (cfg : TransportConfig) (c : TcpConnection) (queued : QueuedFrame)
    (nowNs : UInt64) : TcpConnection :=
  if staleFrame cfg queued nowNs.toNat then { c with stale := c.stale ++ [queued] }
  else
    { c with
      sending := some (startFrame cfg ⟨queued.frame, nowNs⟩)
      unfinished := some ⟨queued.frame, nowNs⟩ }

/-- A `sendmsg` takes more of the message. -/
def take (c : TcpConnection) (before after : MessageSending) : TcpConnection :=
  { c with
    sending := if after.returned = none then some after else none
    written := c.written ++ after.accepted.drop before.accepted.length }

/-- `SendFrame` has returned true. -/
def frameSent (c : TcpConnection) (sent : SentFrame) : TcpConnection :=
  { c with
    sent := c.sent ++ [sent]
    unfinished := none
    sentFrames := if sent.frame.captureTimestampNs ≠ 0 then c.sentFrames + 1 else c.sentFrames }

/-- A round of the loop of `SendMessageParts`; it stops only where `running_` is cleared. -/
def sendmsg (cfg : TransportConfig) (c : TcpConnection) (outcome : SendOutcome) :
    Option TcpConnection :=
  match c.sending, c.unfinished with
  | some before, some sent =>
      if outcome = .stopped ∧ c.running then none
      else
        (sendMessageStep before outcome).bind fun after =>
          match after.returned with
          | none => some (c.take before after)
          | some ok =>
              (sendStep cfg c.session (.sendReturned ok)).map fun session =>
                let taken := (c.take before after).withSession session
                if ok then taken.frameSent sent else taken
  | _, _ => none

end TcpConnection

def sessionThreadStep (cfg : TransportConfig) (c : TcpConnection) :
    SessionThreadEvent → Option TcpConnection
  | .sendProceed => (sendStep cfg c.session .proceed).map c.withSession
  | .popTimedOut => (sendStep cfg c.session .timedOut).map c.withSession
  | .sendClock nowNs =>
      match c.session.sendPoint with
      | .popped queued =>
          (sendStep cfg c.session (.clock nowNs.toNat)).map
            (c.beginFrame cfg queued nowNs).withSession
      | _ => none
  | .sendmsg outcome => c.sendmsg cfg outcome
  | .receive input =>
      if input = .stop then none else (receiveStep c.receiver input).map c.withReceiver

def connectionStep (cfg : TransportConfig) (c : TcpConnection) :
    ConnectionEvent → Option TcpConnection
  | .thread event => sessionThreadStep cfg c event
  | .enqueueFrame frame nowNs =>
      (sessionStep cfg c.session (.enqueueFrame frame nowNs.toNat)).map c.withSession
  | .enqueueProceed =>
      (enqueueProceed cfg c.session).map fun session =>
        match c.session.enqueuePoint, session.enqueuePoint with
        | .scan queued, .idle =>
            { c.withSession session with refused := c.refused ++ [queued.frame] }
        | _, _ => c.withSession session
  | .stop => some (c.withSession { c.session with running := false })
  | .joined =>
      if c.ended then
        some { c with
          session := { c.session with outboundFrames := [] }
          cleared := c.cleared ++ c.session.outboundFrames }
      else none

/-- A session that has been started, and what its client will send. -/
def startConnection (stream : Bytes) : TcpConnection where
  receiver := { unread := stream }

/-! ### What a step does -/

/-- The steps of a connection by what they change. -/
inductive ConnectionMove (cfg : TransportConfig) (c : TcpConnection) : TcpConnection → Prop
  | ignore (h : c.session.enqueuePoint = .idle) (hrunning : c.running = false) :
      ConnectionMove cfg c (c.withSession c.session)
  | offer (frame : EncodedFrame) (nowNs backpressureEvents : ℕ) (point : EnqueuePoint)
      (h : c.session.enqueuePoint = .idle) (hrunning : c.running = true)
      (hpoint : point = .scan ⟨frame, nowNs⟩ ∧ frame.isKeyframe = false ∨
        point = .push ⟨frame, nowNs⟩ ∧ (cfg.queueDropPolicy = "drop_oldest_non_key" →
          frame.isKeyframe = false → c.session.outboundFrames.length < cfg.maxPendingFrames)) :
      ConnectionMove cfg c (c.withSession { c.session with
        offered := c.session.offered ++ [frame]
        backpressureEvents := backpressureEvents
        enqueuePoint := point })
  | scanned (queued : QueuedFrame) (h : c.session.enqueuePoint = .scan queued)
      (hfound : c.session.outboundFrames.any QueuedFrame.isNonKeyframe = true) :
      ConnectionMove cfg c (c.withSession { c.session with enqueuePoint := .push queued })
  | refuse (queued : QueuedFrame) (h : c.session.enqueuePoint = .scan queued) :
      ConnectionMove cfg c
        { c.withSession { c.session with
            droppedIncomingNonKeyframes := c.session.droppedIncomingNonKeyframes + 1
            enqueuePoint := .idle } with
          refused := c.refused ++ [queued.frame] }
  | push (queued : QueuedFrame) (h : c.session.enqueuePoint = .push queued) :
      ConnectionMove cfg c (c.withSession { c.session with
        outboundFrames := (pushByPolicy cfg queued c.session.outboundFrames).2
        overflowDroppedFrames := c.session.overflowDroppedFrames +
          (pushByPolicy cfg queued c.session.outboundFrames).1.length
        enqueuePoint := .recordDepth
        pushes := c.session.pushes ++ [⟨queued, c.session.outboundFrames,
          (pushByPolicy cfg queued c.session.outboundFrames).1⟩] })
  | recordDepth (h : c.session.enqueuePoint = .recordDepth) :
      ConnectionMove cfg c (c.withSession { c.session with
        maxQueueDepth := max c.session.maxQueueDepth c.session.outboundFrames.length
        enqueuePoint := .idle })
  | wait (h : c.session.sendPoint = .loopCheck) :
      ConnectionMove cfg c (c.withSession { c.session with sendPoint := .waitPopFor })
  | leaveLoop (h : c.session.sendPoint = .loopCheck) (hrunning : c.running = false) :
      ConnectionMove cfg c (c.withSession { c.session with sendPoint := .finished })
  | pop (queued : QueuedFrame) (rest : List QueuedFrame) (h : c.session.sendPoint = .waitPopFor)
      (hqueue : c.session.outboundFrames = queued :: rest) :
      ConnectionMove cfg c (c.withSession { c.session with
        outboundFrames := rest
        sendPoint := .popped queued
        popped := c.session.popped ++ [queued] })
  | popTimedOut (h : c.session.sendPoint = .waitPopFor) :
      ConnectionMove cfg c (c.withSession { c.session with sendPoint := .loopCheck })
  | dropStale (queued : QueuedFrame) (nowNs : UInt64) (h : c.session.sendPoint = .popped queued)
      (hstale : staleFrame cfg queued nowNs.toNat = true) :
      ConnectionMove cfg c
        { c.withSession { c.session with
            staleDroppedFrames := c.session.staleDroppedFrames + 1
            sendPoint := .loopCheck } with
          stale := c.stale ++ [queued] }
  | beginFrame (queued : QueuedFrame) (nowNs : UInt64)
      (h : c.session.sendPoint = .popped queued) :
      ConnectionMove cfg c
        { c.withSession { c.session with sendPoint := .sending queued.frame nowNs.toNat } with
          sending := some (startFrame cfg ⟨queued.frame, nowNs⟩)
          unfinished := some ⟨queued.frame, nowNs⟩ }
  | sendmsg (before after : MessageSending) (outcome : SendOutcome)
      (h : c.sending = some before) (hstep : sendMessageStep before outcome = some after)
      (hreturned : after.returned = none) : ConnectionMove cfg c (c.take before after)
  | frameSent (before after : MessageSending) (outcome : SendOutcome) (sent : SentFrame)
      (h : c.sending = some before) (hunfinished : c.unfinished = some sent)
      (hstep : sendMessageStep before outcome = some after)
      (hreturned : after.returned = some true) :
      ConnectionMove cfg c (((c.take before after).withSession
        { c.session with sendPoint := .loopCheck }).frameSent sent)
  | frameFailed (before after : MessageSending) (outcome : SendOutcome) (sent : SentFrame)
      (h : c.sending = some before) (hunfinished : c.unfinished = some sent)
      (hstep : sendMessageStep before outcome = some after)
      (hreturned : after.returned = some false) :
      ConnectionMove cfg c ((c.take before after).withSession
        { c.session with running := false, sendPoint := .finished })
  | receive (receiver : ReceiveThread) (input : ReceiveInput) (hinput : input ≠ .stop)
      (h : receiveStep c.receiver input = some receiver) :
      ConnectionMove cfg c (c.withReceiver receiver)
  | stop : ConnectionMove cfg c (c.withSession { c.session with running := false })
  | joined (h : c.ended = true) :
      ConnectionMove cfg c
        { c with
          session := { c.session with outboundFrames := [] }
          cleared := c.cleared ++ c.session.outboundFrames }

section

variable {cfg : TransportConfig} {c t : TcpConnection}

theorem enqueueFrame_move (frame : EncodedFrame) (nowNs : ℕ)
    (hidle : c.session.enqueuePoint = .idle) :
    ConnectionMove cfg c (c.withSession (enqueueFrame cfg c.session frame nowNs)) := by
  rw [enqueueFrame]
  split
  · rename_i hrunning
    refine .offer frame nowNs _ _ hidle hrunning ?_
    split
    · rename_i hscan
      exact .inl ⟨rfl, hscan.2.1⟩
    · rename_i hpush
      refine .inr ⟨rfl, fun hpolicy hframe => ?_⟩
      by_contra hfull
      exact hpush ⟨hpolicy, hframe, by simpa using hfull⟩
  · rename_i hrunning
    exact .ignore hidle (Bool.eq_false_iff.mpr hrunning)

theorem enqueueProceed_move (h : connectionStep cfg c .enqueueProceed = some t) :
    ConnectionMove cfg c t := by
  rw [connectionStep, Option.map_eq_some_iff] at h
  obtain ⟨session, hsession, rfl⟩ := h
  rw [enqueueProceed] at hsession
  split at hsession
  · cases hsession
  · rename_i queued hpoint
    rw [hpoint]
    split at hsession <;> cases hsession
    · rename_i hfound
      exact .scanned queued hpoint hfound
    · exact .refuse queued hpoint
  · rename_i queued hpoint
    cases hsession
    rw [hpoint]
    exact .push queued hpoint
  · rename_i hpoint
    cases hsession
    rw [hpoint]
    exact .recordDepth hpoint

theorem sendProceed_move (h : sessionThreadStep cfg c .sendProceed = some t) :
    ConnectionMove cfg c t := by
  rw [sessionThreadStep, Option.map_eq_some_iff] at h
  obtain ⟨session, hsession, rfl⟩ := h
  cases hpoint : c.session.sendPoint with
  | loopCheck =>
      simp only [sendStep, hpoint] at hsession
      split at hsession <;> cases hsession
      · exact .wait hpoint
      · rename_i hrunning
        exact .leaveLoop hpoint (Bool.eq_false_iff.mpr hrunning)
  | waitPopFor =>
      simp only [sendStep, hpoint] at hsession
      split at hsession
      · cases hsession
      · rename_i queued rest hqueue
        cases hsession
        exact .pop queued rest hpoint hqueue
  | popped queued => simp only [sendStep, hpoint, reduceCtorEq] at hsession
  | sending frame startNs => simp only [sendStep, hpoint, reduceCtorEq] at hsession
  | finished => simp only [sendStep, hpoint, reduceCtorEq] at hsession

theorem sendClock_move {nowNs : UInt64} (h : sessionThreadStep cfg c (.sendClock nowNs) = some t) :
    ConnectionMove cfg c t := by
  rw [sessionThreadStep] at h
  split at h
  · rename_i queued hpoint
    obtain ⟨session, hsession, rfl⟩ := Option.map_eq_some_iff.mp h
    simp only [sendStep, hpoint] at hsession
    rw [TcpConnection.beginFrame]
    split at hsession <;> cases hsession
    · rename_i hstale
      rw [if_pos hstale]
      exact .dropStale queued nowNs hpoint hstale
    · rename_i hfresh
      rw [if_neg hfresh]
      exact .beginFrame queued nowNs hpoint
  · cases h

theorem sendmsg_move {outcome : SendOutcome} (h : c.sendmsg cfg outcome = some t) :
    ConnectionMove cfg c t := by
  rw [TcpConnection.sendmsg] at h
  split at h
  · rename_i before sent hsending hunfinished
    split at h
    · cases h
    obtain ⟨after, hafter, h⟩ := Option.bind_eq_some_iff.mp h
    split at h
    · rename_i hreturned
      cases h
      exact .sendmsg before after outcome hsending hafter hreturned
    · rename_i ok hreturned
      obtain ⟨session, hsession, rfl⟩ := Option.map_eq_some_iff.mp h
      cases hpoint : c.session.sendPoint <;>
        simp only [sendStep, hpoint, reduceCtorEq] at hsession
      cases ok with
      | true =>
          cases hsession
          exact .frameSent before after outcome sent hsending hunfinished hafter hreturned
      | false =>
          cases hsession
          exact .frameFailed before after outcome sent hsending hunfinished hafter hreturned
  · cases h

theorem connectionStep_move {event : ConnectionEvent} (h : connectionStep cfg c event = some t) :
    ConnectionMove cfg c t := by
  cases event with
  | thread event =>
      cases event with
      | sendProceed => exact sendProceed_move h
      | popTimedOut =>
          obtain ⟨session, hsession, rfl⟩ := Option.map_eq_some_iff.mp h
          cases hpoint : c.session.sendPoint <;>
            simp only [sendStep, hpoint, reduceCtorEq] at hsession
          split at hsession <;> cases hsession
          exact .popTimedOut hpoint
      | sendClock nowNs => exact sendClock_move h
      | sendmsg outcome => exact sendmsg_move h
      | receive input =>
          simp only [connectionStep, sessionThreadStep] at h
          split at h
          · cases h
          · rename_i hinput
            obtain ⟨receiver, hreceiver, rfl⟩ := Option.map_eq_some_iff.mp h
            exact .receive receiver input hinput hreceiver
  | enqueueFrame frame nowNs =>
      obtain ⟨session, hsession, rfl⟩ := Option.map_eq_some_iff.mp h
      rw [sessionStep] at hsession
      split at hsession
      · rename_i hidle
        cases hsession
        exact enqueueFrame_move frame nowNs.toNat hidle
      · cases hsession
  | enqueueProceed => exact enqueueProceed_move h
  | stop =>
      cases h
      exact .stop
  | joined =>
      rw [connectionStep] at h
      split at h
      · rename_i hended
        cases h
        exact .joined hended
      · cases h

end

end AvProject.Server
