import AvProject.Client.StreamClientUdp

/-!
Runs of the UDP receiver: any sequence of calls of its operations, each with its
own clock reading, from the first `Connect` on.
-/

namespace AvProject.Client

open AvProject.Lib AvProject.Protocol

/-- One call of an operation of the receiver. -/
inductive UdpOperation
  | connect
  | processUdpDatagram (data : Bytes) (nowNs : ℕ) (deferReadyPop : Bool)
  | finalizeRecoverableUdpFecFrames (nowNs : ℕ) (deferReadyPop : Bool)
  | tryPopReadyUdpFrame (nowNs : ℕ)
  | pruneExpiredUdpAssemblies (nowNs : ℕ)
  | maybeSendUdpNackRequests (nowNs : ℕ)
  deriving DecidableEq, Repr

/-- The state after the call and the frame it hands out. -/
def runOperation (env : ClientEnv) (cfg : ClientConfig) (st : StreamClient) :
    UdpOperation → StreamClient × Option ReceivedFrame
  | .connect => (st.connect cfg, none)
  | .processUdpDatagram data nowNs deferReadyPop =>
      processUdpDatagram env cfg st data nowNs deferReadyPop
  | .finalizeRecoverableUdpFecFrames nowNs deferReadyPop =>
      finalizeRecoverableUdpFecFrames env cfg st nowNs deferReadyPop
  | .tryPopReadyUdpFrame nowNs => tryPopReadyUdpFrame cfg st nowNs
  | .pruneExpiredUdpAssemblies nowNs => (pruneExpiredUdpAssemblies st nowNs, none)
  | .maybeSendUdpNackRequests nowNs => (maybeSendUdpNackRequests env cfg st nowNs, none)

/-- The state after a run and the frames handed out, in order. -/
def runOperations (env : ClientEnv) (cfg : ClientConfig) (st : StreamClient) :
    List UdpOperation → StreamClient × List ReceivedFrame
  | [] => (st, [])
  | op :: ops =>
      let (st, frame) := runOperation env cfg st op
      let (st, frames) := runOperations env cfg st ops
      (st, frame.toList ++ frames)

/-- The states of runs that start with the first `Connect`. -/
def StreamClient.Reachable (env : ClientEnv) (cfg : ClientConfig) (st : StreamClient) : Prop :=
  ∃ ops, (runOperations env cfg (StreamClient.connected cfg) ops).1 = st

/-- The fragment whose datagram sets up an assembly: a valid one of a frame without an
assembly, unless the test pattern drops it or its frame is remembered. -/
def openingFragment (cfg : ClientConfig) (st : StreamClient) :
    UdpOperation → Option UdpFrameFragmentHeader
  | .processUdpDatagram data nowNs _ =>
      match parseUdpDatagram data with
      | none => none
      | some (_, fragment, _) =>
          let st := noteDatagram st data nowNs
          if (shouldInjectUdpLoss cfg st fragment).2 = true ∨
              fragment.frameSequence ∈ st.recentlyCompletedUdpSequences ∨
              fragment.frameSequence ∈ st.udpAssemblies then none
          else some fragment
  | _ => none

@[simp] theorem runOperations_nil (env : ClientEnv) (cfg : ClientConfig) (st : StreamClient) :
    runOperations env cfg st [] = (st, []) := rfl

theorem runOperations_cons (env : ClientEnv) (cfg : ClientConfig) (st : StreamClient)
    (op : UdpOperation) (ops : List UdpOperation) :
    runOperations env cfg st (op :: ops) =
      ((runOperations env cfg (runOperation env cfg st op).1 ops).1,
        (runOperation env cfg st op).2.toList ++
          (runOperations env cfg (runOperation env cfg st op).1 ops).2) := rfl

theorem runOperations_append (env : ClientEnv) (cfg : ClientConfig) (st : StreamClient)
    (first rest : List UdpOperation) :
    runOperations env cfg st (first ++ rest) =
      ((runOperations env cfg (runOperations env cfg st first).1 rest).1,
        (runOperations env cfg st first).2 ++
          (runOperations env cfg (runOperations env cfg st first).1 rest).2) := by
  induction first generalizing st with
  | nil => rfl
  | cons op first ih => rw [List.cons_append, runOperations_cons, ih, runOperations_cons,
      List.append_assoc]

theorem StreamClient.Reachable.runOperations {env : ClientEnv} {cfg : ClientConfig}
    {st : StreamClient} (h : st.Reachable env cfg) (ops : List UdpOperation) :
    (runOperations env cfg st ops).1.Reachable env cfg := by
  obtain ⟨before, rfl⟩ := h
  exact ⟨before ++ ops, by rw [runOperations_append]⟩

theorem StreamClient.Reachable.runOperation {env : ClientEnv} {cfg : ClientConfig}
    {st : StreamClient} (h : st.Reachable env cfg) (op : UdpOperation) :
    (runOperation env cfg st op).1.Reachable env cfg :=
  h.runOperations [op]

/-- What every operation preserves holds after every run; what every operation
ensures of the frame it hands out holds of all frames of a run. -/
theorem runOperations_induction {env : ClientEnv} {cfg : ClientConfig}
    {Allowed : UdpOperation → Prop} {Inv : StreamClient → Prop} {Good : ReceivedFrame → Prop}
    (step : ∀ st op, Allowed op → Inv st →
      Inv (runOperation env cfg st op).1 ∧ ∀ frame ∈ (runOperation env cfg st op).2, Good frame)
    {ops : List UdpOperation} (hops : ∀ op ∈ ops, Allowed op)
    {st : StreamClient} (hst : Inv st) :
    Inv (runOperations env cfg st ops).1 ∧
      ∀ frame ∈ (runOperations env cfg st ops).2, Good frame := by
  induction ops generalizing st with
  | nil => exact ⟨hst, by simp⟩
  | cons op ops ih =>
      obtain ⟨hnext, hframe⟩ := step st op (hops op List.mem_cons_self) hst
      obtain ⟨hrun, hframes⟩ := ih (fun o ho => hops o (List.mem_cons_of_mem _ ho)) hnext
      rw [runOperations_cons]
      refine ⟨hrun, fun frame hmem => ?_⟩
      rcases List.mem_append.mp hmem with hin | hin
      · exact hframe frame (by simpa using hin)
      · exact hframes frame hin

end AvProject.Client
