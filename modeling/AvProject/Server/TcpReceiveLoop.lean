import AvProject.Lib.Run
import AvProject.Protocol.Message

/-!
The receive thread of `TcpClientSession`. `ReceiveLoop` waits in `select`, reads a message
header with `ReceiveAll`, and keeps the budget of timeouts that a keepalive restores. The
socket hands out the bytes of the client in pieces of any size.
-/

namespace AvProject.Server

open AvProject.Lib AvProject.Protocol

/-- Why `ReceiveLoop` has ended. -/
inductive ReceiveEnd
  | stopped
  | keepAliveTimeout
  | selectFailed
  | receiveFailed
  deriving DecidableEq, Repr

/-- Where the receive thread is. `received` is the part of the header that `ReceiveAll`
has already. -/
inductive ReceivePoint
  | loopCheck
  | select
  /-- Before the loop condition of `ReceiveAll`. -/
  | receiveCheck (received : Bytes)
  | recv (received : Bytes)
  | finished (reason : ReceiveEnd)
  deriving DecidableEq, Repr

/-- What the receive thread gets from outside. -/
inductive ReceiveInput
  | proceed
  /-- `running_` is cleared by another thread. -/
  | stop
  | selectTimedOut
  | selectInterrupted
  | selectFailed
  | readable
  /-- `recv` returns this many bytes. -/
  | recvBytes (count : ℕ)
  | recvInterrupted
  | recvFailed
  /-- The client has closed the connection. -/
  | recvClosed
  deriving DecidableEq, Repr

/-- `unread` is what the client sends from here on. `taken`, `headerStarts` and `timeoutsAt`
are history variables: the bytes that `recv` has returned, and where in the stream the
headers begin and the timeouts occur. -/
structure ReceiveThread where
  unread : Bytes
  running : Bool := true
  keepAliveBudget : ℤ := 5
  point : ReceivePoint := .loopCheck
  taken : ℕ := 0
  headerStarts : List ℕ := []
  timeoutsAt : List ℕ := []
  deriving DecidableEq, Repr

/-- The statements after the loop. -/
def ReceiveThread.finish (s : ReceiveThread) (reason : ReceiveEnd) : ReceiveThread :=
  { s with running := false, point := .finished reason }

/-- The header is one that restores the budget. -/
def isKeepAlive (h : MessageHeader) : Bool :=
  hasValidMessageMagic h && h.messageType == MessageType.kKeepAlive.code

/-- The body of the loop behind `ReceiveAll`. -/
def ReceiveThread.acceptHeader (s : ReceiveThread) (received : Bytes) : ReceiveThread :=
  { s with
    keepAliveBudget :=
      if isKeepAlive (MessageHeader.ofBytes received) then 5 else s.keepAliveBudget
    point := .loopCheck }

/-- `--keep_alive_budget` and the test of it. -/
def ReceiveThread.timedOut (s : ReceiveThread) : ReceiveThread :=
  let counted := { s with
    keepAliveBudget := s.keepAliveBudget - 1
    timeoutsAt := s.timeoutsAt ++ [s.taken] }
  if s.keepAliveBudget - 1 ≤ 0 then counted.finish .keepAliveTimeout
  else { counted with point := .loopCheck }

/-- `recv` returns the next `count` bytes. -/
def ReceiveThread.receive (s : ReceiveThread) (received : Bytes) (count : ℕ) : ReceiveThread :=
  let next := { s with unread := s.unread.drop count, taken := s.taken + count }
  let filled := received ++ s.unread.take count
  if filled.length = sizeofMessageHeader then next.acceptHeader filled
  else { next with point := .receiveCheck filled }

def receiveStep (s : ReceiveThread) (input : ReceiveInput) : Option ReceiveThread :=
  match s.point, input with
  | .finished _, _ => none
  | _, .stop => some { s with running := false }
  | .loopCheck, .proceed =>
      if s.running then some { s with point := .select } else some (s.finish .stopped)
  | .select, .selectTimedOut => if s.running then some s.timedOut else some (s.finish .stopped)
  | .select, .selectInterrupted =>
      if s.running then some { s with point := .loopCheck } else some (s.finish .stopped)
  | .select, .selectFailed =>
      if s.running then some (s.finish .selectFailed) else some (s.finish .stopped)
  | .select, .readable =>
      if s.running then
        some { s with point := .receiveCheck [], headerStarts := s.headerStarts ++ [s.taken] }
      else some (s.finish .stopped)
  | .receiveCheck received, .proceed =>
      if s.running then some { s with point := .recv received }
      else some (s.finish .receiveFailed)
  | .recv received, .recvBytes count =>
      -- `recv` returns at least one byte, and no more than it is asked for or than there are
      if 0 < count ∧ count ≤ sizeofMessageHeader - received.length ∧ count ≤ s.unread.length then
        some (s.receive received count)
      else none
  | .recv received, .recvInterrupted => some { s with point := .receiveCheck received }
  | .recv _, .recvFailed => some (s.finish .receiveFailed)
  | .recv _, .recvClosed => some (s.finish .receiveFailed)
  | _, _ => none

/-- A run of the receive thread from its start, on what the client sends. -/
def runReceiveLoop (stream : Bytes) (inputs : List ReceiveInput) : Option ReceiveThread :=
  runSteps receiveStep { unread := stream } inputs

/-! ### What a step does -/

/-- The steps of the receive thread by what they change. -/
inductive ReceiveMove (s : ReceiveThread) : ReceiveThread → Prop
  | stop : ReceiveMove s { s with running := false }
  | finish (reason : ReceiveEnd) (h : reason ≠ .keepAliveTimeout) : ReceiveMove s (s.finish reason)
  | enterSelect (h : s.point = .loopCheck) : ReceiveMove s { s with point := .select }
  | retrySelect (h : s.point = .select) : ReceiveMove s { s with point := .loopCheck }
  | timedOut (h : s.point = .select) : ReceiveMove s s.timedOut
  | startHeader (h : s.point = .select) :
      ReceiveMove s
        { s with point := .receiveCheck [], headerStarts := s.headerStarts ++ [s.taken] }
  | enterRecv (received : Bytes) (h : s.point = .receiveCheck received) :
      ReceiveMove s { s with point := .recv received }
  | retryRecv (received : Bytes) (h : s.point = .recv received) :
      ReceiveMove s { s with point := .receiveCheck received }
  | receive (received : Bytes) (count : ℕ) (h : s.point = .recv received)
      (hfits : count ≤ sizeofMessageHeader - received.length) (hthere : count ≤ s.unread.length) :
      ReceiveMove s (s.receive received count)

theorem receiveStep_move {s t : ReceiveThread} {input : ReceiveInput}
    (h : receiveStep s input = some t) : ReceiveMove s t ∧ ∀ reason, s.point ≠ .finished reason := by
  have hnot : ∀ reason, s.point ≠ .finished reason := by
    intro reason hpoint
    simp [receiveStep, hpoint] at h
  refine ⟨?_, hnot⟩
  -- the inputs that do not fit the point are refused
  cases hpoint : s.point with
  | finished reason => exact absurd hpoint (hnot reason)
  | loopCheck =>
      cases input <;> simp only [receiveStep, hpoint, reduceCtorEq] at h
      case proceed =>
        split at h <;> obtain rfl := Option.some.inj h
        · exact .enterSelect hpoint
        · exact .finish .stopped (by rintro ⟨⟩)
      case stop =>
        obtain rfl := Option.some.inj h
        simpa only [hpoint] using (ReceiveMove.stop : ReceiveMove s _)
  | select =>
      cases input <;> simp only [receiveStep, hpoint, reduceCtorEq] at h
      case stop =>
        obtain rfl := Option.some.inj h
        simpa only [hpoint] using (ReceiveMove.stop : ReceiveMove s _)
      all_goals split at h <;> obtain rfl := Option.some.inj h
      case selectTimedOut.isTrue => exact .timedOut hpoint
      case selectInterrupted.isTrue => exact .retrySelect hpoint
      case selectFailed.isTrue => exact .finish .selectFailed (by rintro ⟨⟩)
      case readable.isTrue => exact .startHeader hpoint
      all_goals exact .finish .stopped (by rintro ⟨⟩)
  | receiveCheck received =>
      cases input <;> simp only [receiveStep, hpoint, reduceCtorEq] at h
      case proceed =>
        split at h <;> obtain rfl := Option.some.inj h
        · exact .enterRecv received hpoint
        · exact .finish .receiveFailed (by rintro ⟨⟩)
      case stop =>
        obtain rfl := Option.some.inj h
        simpa only [hpoint] using (ReceiveMove.stop : ReceiveMove s _)
  | recv received =>
      cases input <;> simp only [receiveStep, hpoint, reduceCtorEq] at h
      case stop =>
        obtain rfl := Option.some.inj h
        simpa only [hpoint] using (ReceiveMove.stop : ReceiveMove s _)
      case recvBytes count =>
        split at h
        · rename_i hcount
          obtain rfl := Option.some.inj h
          exact .receive received count hpoint hcount.2.1 hcount.2.2
        · cases h
      case recvInterrupted =>
        obtain rfl := Option.some.inj h
        exact .retryRecv received hpoint
      all_goals
        obtain rfl := Option.some.inj h
        exact .finish .receiveFailed (by rintro ⟨⟩)

end AvProject.Server
