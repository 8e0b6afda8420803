import AvProject.Client.UdpInvariant

/-!
What the operations do to the record of completed frames: the history of
completions and the deduplication window only change when a frame is retired.
-/

namespace AvProject.Client

open AvProject.Lib AvProject.Protocol

structure CompletionLog where
  recentlyCompletedUdpSequenceOrder : List ℕ
  recentlyCompletedUdpSequences : Finset ℕ
  completed : List CompletedFrame

def StreamClient.log (st : StreamClient) : CompletionLog where
  recentlyCompletedUdpSequenceOrder := st.recentlyCompletedUdpSequenceOrder
  recentlyCompletedUdpSequences := st.recentlyCompletedUdpSequences
  completed := st.history.completed

theorem StreamClient.log_eq_of_core {st st' : StreamClient} (h : st'.core = st.core) :
    st'.log = st.log := by
  simp only [StreamClient.core, ReceiverCore.mk.injEq] at h
  obtain ⟨-, -, -, -, horder, hset, hcompleted, -⟩ := h
  rw [StreamClient.log, StreamClient.log, horder, hset, hcompleted]

/-- The log once the frame stored under `key` is retired. -/
def CompletionLog.retire (log : CompletionLog) (c : CompletedFrame) : CompletionLog where
  recentlyCompletedUdpSequenceOrder := (rememberInWindow log.recentlyCompletedUdpSequenceOrder
    log.recentlyCompletedUdpSequences c.sequence).1
  recentlyCompletedUdpSequences := (rememberInWindow log.recentlyCompletedUdpSequenceOrder
    log.recentlyCompletedUdpSequences c.sequence).2
  completed := log.completed ++ [c]

@[simp] theorem noteDatagram_log (st : StreamClient) (data : Bytes) (nowNs : ℕ) :
    (noteDatagram st data nowNs).log = st.log := rfl

/-- The frame `key` has not been completed recently. -/
structure CompletionLog.Awaits (log : CompletionLog) (key : ℕ) : Prop where
  window : WindowConsistent log.recentlyCompletedUdpSequenceOrder
    log.recentlyCompletedUdpSequences
  notRecent : key ∉ log.recentlyCompletedUdpSequences

/-- A retired frame is remembered. -/
theorem CompletionLog.Awaits.mem_retire {log : CompletionLog} {c : CompletedFrame}
    (h : log.Awaits c.sequence) :
    c.sequence ∈ (log.retire c).recentlyCompletedUdpSequences :=
  (rememberInWindow_consistent h.window c.sequence).2.2

/-! ### Operations that complete nothing -/

@[simp] theorem storeUdpAssembly_log (st : StreamClient) (sequence : ℕ)
    (a : UdpFrameAssembly) : (storeUdpAssembly st sequence a).log = st.log := rfl

@[simp] theorem storeUdpAssembly_self (st : StreamClient) (sequence : ℕ)
    (a : UdpFrameAssembly) :
    (storeUdpAssembly st sequence a).udpAssemblies[sequence]? = some a :=
  (OrdMap.getElem?_insert _ _ _ _).trans (if_pos rfl)

@[simp] theorem bufferCompletedUdpFrame_log (st : StreamClient) (frame : ReceivedFrame) :
    (bufferCompletedUdpFrame st frame).log = st.log := by
  unfold bufferCompletedUdpFrame
  split <;> rfl

@[simp] theorem emitExpectedUdpFrame_log (cfg : ClientConfig) (st : StreamClient)
    (nowNs targetDelayNs : ℕ) (expected : BufferedUdpFrame) :
    (emitExpectedUdpFrame cfg st nowNs targetDelayNs expected).1.log = st.log := by
  simp only [emitExpectedUdpFrame]
  split <;> rfl

@[simp] theorem anchorJitterBuffer_log (st : StreamClient) (oldestSequence : ℕ) :
    (anchorJitterBuffer st oldestSequence).log = st.log := by
  unfold anchorJitterBuffer
  split <;> rfl

@[simp] theorem skipMissing_log (st : StreamClient) (oldestSequence : ℕ) :
    (skipMissing st oldestSequence).log = st.log := rfl

@[simp] theorem tryPopReadyUdpFrame_log (cfg : ClientConfig) (st : StreamClient) (nowNs : ℕ) :
    (tryPopReadyUdpFrame cfg st nowNs).1.log = st.log := by
  have htarget (st : StreamClient) : (currentJitterBufferTargetDelayNs cfg st).2.log = st.log :=
    StreamClient.log_eq_of_core (currentJitterBufferTargetDelayNs_core cfg st)
  exact tryPopReadyUdpFrame_kept htarget anchorJitterBuffer_log skipMissing_log
    (fun st => emitExpectedUdpFrame_log cfg st nowNs) st

@[simp] theorem maybeSendUdpNackRequests_log (env : ClientEnv) (cfg : ClientConfig)
    (st : StreamClient) (nowNs : ℕ) :
    (maybeSendUdpNackRequests env cfg st nowNs).log = st.log := by
  obtain ⟨_, _, _, _, _, heq⟩ := maybeSendUdpNackRequests_withRequests env cfg st nowNs
  rw [heq]
  rfl

@[simp] theorem recoverAssembly_log (cfg : ClientConfig) (st : StreamClient) (key : ℕ)
    (a : UdpFrameAssembly) : (recoverAssembly cfg st key a).1.log = st.log := by
  simp only [recoverAssembly]
  split <;> rfl

@[simp] theorem recoverIfIncomplete_log (cfg : ClientConfig) (st : StreamClient)
    (sequence : ℕ) (a : UdpFrameAssembly) :
    (recoverIfIncomplete cfg st sequence a).1.log = st.log := by
  unfold recoverIfIncomplete
  split
  · exact recoverAssembly_log cfg st sequence a
  · rfl

@[simp] theorem receiveFragment_log (st : StreamClient) (a : UdpFrameAssembly)
    (fragment : UdpFrameFragmentHeader) (body : Bytes) (nowNs : ℕ) :
    (receiveFragment st a fragment body nowNs).1.log = st.log := by
  simp only [receiveFragment]
  split <;> rfl

theorem receiveFragment_duplicate {a : UdpFrameAssembly} {fragment : UdpFrameFragmentHeader}
    (h : a.Has fragment.fragmentIndex) (st : StreamClient) (body : Bytes) (nowNs : ℕ) :
    (receiveFragment st a fragment body nowNs).2 = a ∧
      (receiveFragment st a fragment body nowNs).1.udpAssemblies = st.udpAssemblies := by
  rw [receiveFragment, if_pos (UdpFrameAssembly.getD_receivedFragments.mpr h)]
  exact ⟨rfl, rfl⟩

theorem receiveFragment_new {a : UdpFrameAssembly} {fragment : UdpFrameFragmentHeader}
    (h : ¬a.Has fragment.fragmentIndex) (st : StreamClient) (body : Bytes) (nowNs : ℕ) :
    (receiveFragment st a fragment body nowNs).2 = storeFragment a fragment body nowNs ∧
      (receiveFragment st a fragment body nowNs).1.udpAssemblies =
        st.udpAssemblies.insert fragment.frameSequence
          (storeFragment a fragment body nowNs) := by
  have hgetD : ¬a.receivedFragments.getD fragment.fragmentIndex false = true :=
    fun hhas => h (UdpFrameAssembly.getD_receivedFragments.mp hhas)
  rw [receiveFragment, if_neg hgetD]
  exact ⟨rfl, rfl⟩

/-- Trying the recovery either leaves the assembly and the map as they are or
stores the recovered assembly. -/
theorem recoverAssembly_cases (cfg : ClientConfig) (st : StreamClient) (key : ℕ)
    (a : UdpFrameAssembly) :
    ((recoverAssembly cfg st key a).2 = (a, false) ∧
      (recoverAssembly cfg st key a).1.udpAssemblies = st.udpAssemblies ∧
      (maybeRecoverWithUdpFec cfg a).recovered = false) ∨
    (∃ missing offset size bytes, Recovery a missing offset size bytes ∧
      a.hasFecPayload = true ∧
      (recoverAssembly cfg st key a).2 = (a.place missing offset size bytes true, true) ∧
      (recoverAssembly cfg st key a).1.udpAssemblies =
        st.udpAssemblies.insert key (a.place missing offset size bytes true)) := by
  simp only [recoverAssembly]
  rcases maybeRecoverWithUdpFec_cases cfg a with
    ⟨hfalse, heq⟩ | ⟨htrue, -, hparity, -, missing, offset, size, bytes, hrec, heq⟩
  · left
    rw [hfalse]
    exact ⟨rfl, rfl, rfl⟩
  · right
    rw [htrue, heq]
    exact ⟨missing, offset, size, bytes, hrec, hparity, rfl, rfl⟩

/-! ### Completion -/

theorem retireCompletedUdpFrame_log (st : StreamClient) (key : ℕ) (a : UdpFrameAssembly)
    (frame : ReceivedFrame) (nowNs : ℕ) :
    (retireCompletedUdpFrame st key a frame nowNs).log =
      st.log.retire { sequence := key, assembly := a, frame := frame } := by
  have hcore := retireCompletedUdpFrame_core st key a frame nowNs
  simp only [StreamClient.core, ReceiverCore.mk.injEq] at hcore
  obtain ⟨-, -, -, -, horder, hset, hcompleted, -⟩ := hcore
  rw [StreamClient.log, horder, hset, hcompleted]
  rfl

/-- A finished assembly is entered into the log, whatever happens to its frame. -/
theorem finalizeCompletedUdpFrame_log (env : ClientEnv) (cfg : ClientConfig)
    (st : StreamClient) (key : ℕ) {a : UdpFrameAssembly} (hcomplete : a.complete = true)
    (nowNs : ℕ) (deferReadyPop : Bool) :
    (finalizeCompletedUdpFrame env cfg st key a nowNs deferReadyPop).1.log =
      st.log.retire
        { sequence := key, assembly := a, frame := completedUdpFrame cfg a nowNs } := by
  rw [UdpFrameAssembly.complete, beq_iff_eq] at hcomplete
  unfold finalizeCompletedUdpFrame
  rw [if_neg (not_not.mpr hcomplete)]
  simp only
  split
  · rw [retireCompletedUdpFrame_log]
  · split
    · rw [bufferCompletedUdpFrame_log, retireCompletedUdpFrame_log]
    · rw [tryPopReadyUdpFrame_log, maybeSendUdpNackRequests_log, bufferCompletedUdpFrame_log,
        retireCompletedUdpFrame_log]

/-- Without a jitter buffer the frame is handed out at once and the assembly gone. -/
theorem finalizeCompletedUdpFrame_direct (env : ClientEnv) {cfg : ClientConfig}
    (hjitter : cfg.udpJitterBufferEnabled = false) (st : StreamClient) (key : ℕ)
    {a : UdpFrameAssembly} (hcomplete : a.complete = true) (nowNs : ℕ)
    (deferReadyPop : Bool) :
    finalizeCompletedUdpFrame env cfg st key a nowNs deferReadyPop =
      (retireCompletedUdpFrame st key a (completedUdpFrame cfg a nowNs) nowNs,
        some (completedUdpFrame cfg a nowNs)) := by
  rw [UdpFrameAssembly.complete, beq_iff_eq] at hcomplete
  unfold finalizeCompletedUdpFrame
  rw [if_neg (not_not.mpr hcomplete)]
  simp [hjitter]

/-! ### What completion and the jitter buffer do to the assemblies -/

@[simp] theorem retireCompletedUdpFrame_udpAssemblies (st : StreamClient) (key : ℕ)
    (a : UdpFrameAssembly) (frame : ReceivedFrame) (nowNs : ℕ) :
    (retireCompletedUdpFrame st key a frame nowNs).udpAssemblies =
      st.udpAssemblies.erase key :=
  congrArg ReceiverCore.udpAssemblies (retireCompletedUdpFrame_core st key a frame nowNs)

@[simp] theorem bufferCompletedUdpFrame_udpAssemblies (st : StreamClient)
    (frame : ReceivedFrame) :
    (bufferCompletedUdpFrame st frame).udpAssemblies = st.udpAssemblies := by
  unfold bufferCompletedUdpFrame
  split <;> rfl

@[simp] theorem emitExpectedUdpFrame_udpAssemblies (cfg : ClientConfig) (st : StreamClient)
    (nowNs targetDelayNs : ℕ) (expected : BufferedUdpFrame) :
    (emitExpectedUdpFrame cfg st nowNs targetDelayNs expected).1.udpAssemblies =
      st.udpAssemblies := by
  simp only [emitExpectedUdpFrame]
  split <;> rfl

@[simp] theorem anchorJitterBuffer_udpAssemblies (st : StreamClient) (oldestSequence : ℕ) :
    (anchorJitterBuffer st oldestSequence).udpAssemblies = st.udpAssemblies := by
  unfold anchorJitterBuffer
  split <;> rfl

@[simp] theorem tryPopReadyUdpFrame_udpAssemblies (cfg : ClientConfig) (st : StreamClient)
    (nowNs : ℕ) : (tryPopReadyUdpFrame cfg st nowNs).1.udpAssemblies = st.udpAssemblies := by
  have htarget (st : StreamClient) :
      (currentJitterBufferTargetDelayNs cfg st).2.udpAssemblies = st.udpAssemblies :=
    congrArg ReceiverCore.udpAssemblies (currentJitterBufferTargetDelayNs_core cfg st)
  exact tryPopReadyUdpFrame_kept htarget anchorJitterBuffer_udpAssemblies (fun _ _ => rfl)
    (fun st => emitExpectedUdpFrame_udpAssemblies cfg st nowNs) st

/-! ### Evaluating `processUdpDatagram` -/

section

variable {cfg : ClientConfig} {st : StreamClient} {data : Bytes} {header : MessageHeader}
  {fragment : UdpFrameFragmentHeader} {body : Bytes}

theorem shouldInjectUdpLoss_none (hloss : cfg.udpTestLossPattern = .none) (st : StreamClient)
    (fragment : UdpFrameFragmentHeader) :
    shouldInjectUdpLoss cfg st fragment = (st, false) := by
  simp [shouldInjectUdpLoss, hloss]

/-- A valid datagram of a frame that is not remembered goes to its assembly. -/
theorem processUdpDatagram_fresh (env : ClientEnv) (hloss : cfg.udpTestLossPattern = .none)
    (hparse : parseUdpDatagram data = some (header, fragment, body))
    (hrecent : fragment.frameSequence ∉ st.recentlyCompletedUdpSequences) (nowNs : ℕ)
    (deferReadyPop : Bool) :
    processUdpDatagram env cfg st data nowNs deferReadyPop =
      assembleFragment env cfg (noteDatagram st data nowNs) header fragment body nowNs
        deferReadyPop := by
  have hnot : isRecentlyCompletedUdpFrameSequence (noteDatagram st data nowNs)
      fragment.frameSequence = false := decide_eq_false hrecent
  simp only [processUdpDatagram, hparse, acceptFragment, shouldInjectUdpLoss_none hloss]
  rw [hnot, if_neg (by simp)]

/-- One of a frame that is remembered is only counted. -/
theorem processUdpDatagram_stale (env : ClientEnv) (hloss : cfg.udpTestLossPattern = .none)
    (hparse : parseUdpDatagram data = some (header, fragment, body))
    (hrecent : fragment.frameSequence ∈ st.recentlyCompletedUdpSequences) (nowNs : ℕ)
    (deferReadyPop : Bool) :
    processUdpDatagram env cfg st data nowNs deferReadyPop =
      ({ noteDatagram st data nowNs with
          udpReceiveStats.staleDatagramsDropped :=
            (noteDatagram st data nowNs).udpReceiveStats.staleDatagramsDropped + 1 }, none) := by
  have hin : isRecentlyCompletedUdpFrameSequence (noteDatagram st data nowNs)
      fragment.frameSequence = true := decide_eq_true hrecent
  simp only [processUdpDatagram, hparse, acceptFragment, shouldInjectUdpLoss_none hloss]
  rw [if_pos hin]

/-- A datagram that agrees with the layout of its assembly. -/
theorem assembleFragment_of_layout (env : ClientEnv) {a : UdpFrameAssembly} {nowNs : ℕ}
    (hopen : openAssembly cfg st.udpAssemblies[fragment.frameSequence]? header fragment nowNs =
      a)
    (hlayout : a.receivedFragments.length = fragment.fragmentCount ∧
      a.payload.length = fragment.framePayloadSize) (deferReadyPop : Bool) :
    assembleFragment env cfg st header fragment body nowNs deferReadyPop =
      if fragment.fragmentRole = UdpFragmentRole.kXorParity.code then
        acceptParityFragment env cfg (storeUdpAssembly st fragment.frameSequence a) a
          fragment.frameSequence body nowNs deferReadyPop
      else
        acceptDataFragment env cfg (storeUdpAssembly st fragment.frameSequence a) a fragment
          body nowNs deferReadyPop := by
  have hmatch : ¬(a.receivedFragments.length ≠ fragment.fragmentCount ∨
      a.payload.length ≠ fragment.framePayloadSize) := by
    simp [hlayout]
  simp only [assembleFragment, hopen]
  rw [if_neg hmatch]

end

end AvProject.Client
