import AvProject.Client.UdpReceiver
import AvProject.Lib.Run

/-!
The loop of `receiveUdpFrame` as a machine. A state says where the thread is, what
the client holds and which frames the calls so far have returned; an event is what
the next step gets from outside: the clock, a datagram or the lack of one.
-/

namespace AvProject.Client

open AvProject.Lib

/-- Where the thread is in `receiveUdpFrame`. -/
inductive ReceivePoint
  /-- Between two calls. -/
  | returned
  /-- Before the first `tryPopReadyUdpFrame` of an iteration. -/
  | loopTop
  /-- Before a `recv` that does not block. -/
  | draining (drainedAnyDatagram : Bool)
  | afterDrain (drainedAnyDatagram : Bool)
  | afterDrainPop (drainedAnyDatagram : Bool) (afterDrainNowNs : ℕ)
  | prune (afterDrainNowNs : ℕ)
  | maintenance (afterDrainNowNs : ℕ)
  | nack (afterDrainNowNs : ℕ)
  | maintenancePop (afterDrainNowNs : ℕ)
  /-- Before the `recv` that blocks. -/
  | waiting
  deriving DecidableEq, Repr

/-- What a step gets from outside. -/
inductive ReceiveEvent
  /-- The application calls `receiveUdpFrame`. -/
  | call
  /-- The next statement runs, with this reading of the clock where it reads it. -/
  | proceed (nowNs : ℕ)
  /-- `recv` returns a datagram. -/
  | datagram (data : Bytes) (nowNs : ℕ)
  /-- `recv` has nothing, or `running_` is cleared while draining. -/
  | nothing
  /-- `recv` is interrupted. -/
  | interrupted
  /-- `recv` fails, or `running_` is cleared at the top of the loop. -/
  | failed
  deriving DecidableEq, Repr

structure ReceiveState where
  point : ReceivePoint
  client : StreamClient
  delivered : List ReceivedFrame := []

/-- A call with an output frame: it returns the frame where there is one, and goes
on at `next` otherwise. -/
def returnOr (s : ReceiveState) (next : ReceivePoint)
    (result : StreamClient × Option ReceivedFrame) : ReceiveState :=
  match result with
  | (client, some frame) =>
      { point := .returned, client := client, delivered := s.delivered ++ [frame] }
  | (client, none) => { s with point := next, client := client }

/-- One step; `none` where the event does not fit the place. -/
def receiveStep (env : ClientEnv) (cfg : ClientConfig) (s : ReceiveState) :
    ReceiveEvent → Option ReceiveState
  | .call =>
      match s.point with
      | .returned => some { s with point := .loopTop }
      | _ => none
  | .failed =>
      match s.point with
      | .loopTop | .draining _ | .waiting => some { s with point := .returned }
      | _ => none
  | .interrupted =>
      match s.point with
      | .draining drained => some { s with point := .draining drained }
      | .waiting => some { s with point := .loopTop }
      | _ => none
  | .nothing =>
      match s.point with
      | .draining drained => some { s with point := .afterDrain drained }
      | .waiting => some { s with point := .loopTop }
      | _ => none
  | .datagram data nowNs =>
      match s.point with
      | .draining _ =>
          some (returnOr s (.draining true) (processUdpDatagram env cfg s.client data nowNs true))
      | .waiting =>
          some (returnOr s .loopTop (processUdpDatagram env cfg s.client data nowNs false))
      | _ => none
  | .proceed nowNs =>
      match s.point with
      | .loopTop => some (returnOr s (.draining false) (tryPopReadyUdpFrame cfg s.client nowNs))
      | .afterDrain drained =>
          some (returnOr s (.afterDrainPop drained nowNs)
            (finalizeRecoverableUdpFecFrames env cfg s.client nowNs true))
      | .afterDrainPop drained afterDrainNowNs =>
          some (returnOr s (if drained then .loopTop else .prune afterDrainNowNs)
            (tryPopReadyUdpFrame cfg s.client afterDrainNowNs))
      | .prune afterDrainNowNs =>
          some { s with
            point := .maintenance afterDrainNowNs
            client := pruneExpiredUdpAssemblies s.client afterDrainNowNs }
      | .maintenance afterDrainNowNs =>
          some (returnOr s (.nack afterDrainNowNs)
            (finalizeRecoverableUdpFecFrames env cfg s.client afterDrainNowNs false))
      | .nack afterDrainNowNs =>
          some { s with
            point := .maintenancePop afterDrainNowNs
            client := maybeSendUdpNackRequests env cfg s.client afterDrainNowNs }
      | .maintenancePop afterDrainNowNs =>
          some (returnOr s .waiting (tryPopReadyUdpFrame cfg s.client afterDrainNowNs))
      | .returned | .draining _ | .waiting => none

/-- A run over a list of events. -/
def runReceive (env : ClientEnv) (cfg : ClientConfig) (s : ReceiveState) :
    List ReceiveEvent → Option ReceiveState
  | [] => some s
  | event :: events => (receiveStep env cfg s event).bind fun next => runReceive env cfg next events

/-- The client before the first call. -/
def ReceiveState.start (cfg : ClientConfig) : ReceiveState where
  point := .returned
  client := StreamClient.connected cfg

theorem returnOr_client (s : ReceiveState) (next : ReceivePoint)
    (result : StreamClient × Option ReceivedFrame) : (returnOr s next result).client = result.1 := by
  obtain ⟨client, frame⟩ := result
  cases frame <;> rfl

/-- A step changes the client by one operation of its loop, if at all. -/
theorem receiveStep_client {env : ClientEnv} {cfg : ClientConfig} {s s' : ReceiveState}
    {event : ReceiveEvent} (hstep : receiveStep env cfg s event = some s') :
    s'.client = s.client ∨
      ∃ op, op ≠ .connect ∧ s'.client = (runOperation env cfg s.client op).1 := by
  cases event with
  | call | failed | interrupted | nothing =>
      rw [receiveStep] at hstep
      split at hstep <;> cases hstep <;> exact .inl rfl
  | datagram data nowNs =>
      rw [receiveStep] at hstep
      split at hstep
      · cases hstep
        exact .inr ⟨.processUdpDatagram data nowNs true, by simp, returnOr_client _ _ _⟩
      · cases hstep
        exact .inr ⟨.processUdpDatagram data nowNs false, by simp, returnOr_client _ _ _⟩
      · cases hstep
  | proceed nowNs =>
      rw [receiveStep] at hstep
      split at hstep <;> cases hstep
      · exact .inr ⟨.tryPopReadyUdpFrame _, by simp, returnOr_client _ _ _⟩
      · exact .inr ⟨.finalizeRecoverableUdpFecFrames _ true, by simp, returnOr_client _ _ _⟩
      · exact .inr ⟨.tryPopReadyUdpFrame _, by simp, returnOr_client _ _ _⟩
      · exact .inr ⟨.pruneExpiredUdpAssemblies _, by simp, rfl⟩
      · exact .inr ⟨.finalizeRecoverableUdpFecFrames _ false, by simp, returnOr_client _ _ _⟩
      · exact .inr ⟨.maybeSendUdpNackRequests _, by simp, rfl⟩
      · exact .inr ⟨.tryPopReadyUdpFrame _, by simp, returnOr_client _ _ _⟩

theorem runReceive_eq_runSteps (env : ClientEnv) (cfg : ClientConfig) (s : ReceiveState)
    (events : List ReceiveEvent) :
    runReceive env cfg s events = runSteps (receiveStep env cfg) s events := by
  induction events generalizing s with
  | nil => rfl
  | cons event events ih => exact congrArg ((receiveStep env cfg s event).bind ·) (funext ih)

theorem receiveStep_reachable {env : ClientEnv} {cfg : ClientConfig} {s s' : ReceiveState}
    {event : ReceiveEvent} (h : s.client.Reachable env cfg)
    (hstep : receiveStep env cfg s event = some s') : s'.client.Reachable env cfg := by
  rcases receiveStep_client hstep with hsame | ⟨op, -, hop⟩
  · rw [hsame]
    exact h
  · rw [hop]
    exact h.runOperation op

/-- The client of a run is that of a run of the operations. -/
theorem runReceive_reachable {env : ClientEnv} {cfg : ClientConfig} {events : List ReceiveEvent}
    {s : ReceiveState} (hrun : runReceive env cfg (ReceiveState.start cfg) events = some s) :
    s.client.Reachable env cfg := by
  rw [runReceive_eq_runSteps] at hrun
  have hstart : (ReceiveState.start cfg).client.Reachable env cfg := ⟨[], rfl⟩
  have hkept (s : ReceiveState) (event : ReceiveEvent) (s' : ReceiveState)
      (h : s.client.Reachable env cfg) (hstep : receiveStep env cfg s event = some s') :
      s'.client.Reachable env cfg := receiveStep_reachable h hstep
  exact runSteps_invariant (receiveStep env cfg) hkept hstart hrun

/-- What every step from an allowed state preserves holds at the end of a run that
only passes through allowed states. -/
theorem runReceive_induction {env : ClientEnv} {cfg : ClientConfig}
    {Allowed Inv : ReceiveState → Prop}
    (step : ∀ s event s', Allowed s → Inv s → receiveStep env cfg s event = some s' → Inv s')
    {events : List ReceiveEvent} {s s' : ReceiveState} (hs : Inv s)
    (hallowed : ∀ before ∈ events.inits, ∀ t ∈ runReceive env cfg s before, Allowed t)
    (hrun : runReceive env cfg s events = some s') : Inv s' := by
  induction events generalizing s with
  | nil =>
      obtain rfl := Option.some.inj hrun
      exact hs
  | cons event events ih =>
      rw [runReceive, Option.bind_eq_some_iff] at hrun
      obtain ⟨next, hnext, hrest⟩ := hrun
      have hfirst : Allowed s := hallowed [] (by simp) s rfl
      refine ih (step s event next hfirst hs hnext) (fun before hbefore t ht => ?_) hrest
      refine hallowed (event :: before) ?_ t ?_
      · rw [List.mem_inits] at hbefore ⊢
        exact List.cons_prefix_cons.mpr ⟨rfl, hbefore⟩
      · rw [runReceive, hnext]
        exact ht

end AvProject.Client
