import AvProject.Client.JitterBuffer
import AvProject.Client.ReceiveUdpFrame

/-!
What a step of the receiver does to the jitter buffer: frames complete, and at the end at
most one is popped. All other operations leave the buffer and its counters alone.
-/

namespace AvProject.Client

open AvProject.Lib AvProject.Protocol

/-- The buffer after a frame has come; one with its number may be there. -/
def PlayoutState.buffer (p : PlayoutState) (frame : ReceivedFrame) : PlayoutState :=
  if frame.metadata.sequence ∈ p.udpJitterBuffer then p
  else
    { p with
      udpJitterBuffer := p.udpJitterBuffer.insert frame.metadata.sequence
        { frame := frame, bufferedTimestampNs := frame.receiveTimestampNs } }

def PlayoutLedger.complete (l : PlayoutLedger) (c : CompletedFrame) : PlayoutLedger :=
  { l with playout := l.playout.buffer c.frame, completed := l.completed ++ [c] }

/-- Frames complete, and pops that hand out nothing set the cursor. -/
inductive Fills (l : PlayoutLedger) : PlayoutLedger → Prop
  | refl : Fills l l
  | complete (m : PlayoutLedger) (c : CompletedFrame) (h : Fills l m) : Fills l (m.complete c)
  | anchor (m : PlayoutLedger) (oldest : ℕ) (b : BufferedUdpFrame) (h : Fills l m)
      (hfront : OrdMap.front? m.playout.udpJitterBuffer = some (oldest, b))
      (hhas : m.playout.hasNextJitterBufferSequence = false) : Fills l (m.anchor oldest)

/-- Frames complete, and one is popped if one is handed out. -/
inductive Serves (l l' : PlayoutLedger) : Option ReceivedFrame → Prop
  | filled (h : Fills l l') : Serves l l' none
  | popped (m : PlayoutLedger) (frame : ReceivedFrame) (h : Fills l m)
      (hpop : LedgerPop m l' (some frame)) : Serves l l' (some frame)

section

variable {l m l' : PlayoutLedger} {popped : Option ReceivedFrame}

theorem Fills.trans (h : Fills l m) (h' : Fills m l') : Fills l l' := by
  induction h' with
  | refl => exact h
  | complete m' c _ ih => exact .complete m' c ih
  | anchor m' oldest b _ hfront hhas ih => exact .anchor m' oldest b ih hfront hhas

theorem Fills.serves (h : Fills l m) (h' : Serves m l' popped) : Serves l l' popped := by
  cases h' with
  | filled hfills => exact .filled (h.trans hfills)
  | popped m' frame hfills hpop => exact .popped m' frame (h.trans hfills) hpop

/-- A pop without a frame has done no more than to set the cursor. -/
theorem LedgerPop.fills (h : LedgerPop l l' none) : Fills l l' := by
  cases h with
  | kept => exact .refl
  | anchored oldest b hfront hhas => exact .anchor l oldest b .refl hfront hhas

theorem LedgerPop.serves (h : LedgerPop l l' popped) : Serves l l' popped := by
  cases popped with
  | none => exact .filled h.fills
  | some frame => exact .popped l frame .refl h

theorem Fills.extends_completed (h : Fills l m) : l.completed <+: m.completed := by
  induction h with
  | refl => exact List.prefix_rfl
  | complete m c _ ih => exact ih.trans (List.prefix_append _ _)
  | anchor m oldest b _ _ _ ih => exact ih

theorem LedgerPop.completed (h : LedgerPop l l' popped) : l'.completed = l.completed := by
  cases h <;> rfl

end

/-! ### Operations that leave the buffer alone -/

section

variable {cfg : ClientConfig}

/-- The counters that `onCompletedUdpFrame` changes are none of the buffer. -/
@[simp] theorem onCompletedUdpFrame_ledger (st : StreamClient) (frame : ReceivedFrame)
    (nowNs : ℕ) : (onCompletedUdpFrame st frame nowNs).ledger = st.ledger := by
  simp only [onCompletedUdpFrame]
  split
  · rfl
  · split <;> rfl

@[simp] theorem shouldInjectUdpLoss_ledger (cfg : ClientConfig) (st : StreamClient)
    (fragment : UdpFrameFragmentHeader) :
    (shouldInjectUdpLoss cfg st fragment).1.ledger = st.ledger := by
  obtain ⟨_, _, _, heq⟩ := shouldInjectUdpLoss_eq cfg st fragment
  rw [heq]
  rfl

@[simp] theorem maybeSendUdpNackRequests_ledger (env : ClientEnv) (cfg : ClientConfig)
    (st : StreamClient) (nowNs : ℕ) :
    (maybeSendUdpNackRequests env cfg st nowNs).ledger = st.ledger := by
  obtain ⟨_, _, _, _, _, heq⟩ := maybeSendUdpNackRequests_withRequests env cfg st nowNs
  rw [heq]
  rfl

@[simp] theorem recoverAssembly_ledger (cfg : ClientConfig) (st : StreamClient) (key : ℕ)
    (a : UdpFrameAssembly) : (recoverAssembly cfg st key a).1.ledger = st.ledger := by
  simp only [recoverAssembly]
  split <;> rfl

theorem recoverAssemblies_ledger (cfg : ClientConfig) (keys : List ℕ) (st : StreamClient)
    (recovered : List ℕ) : (recoverAssemblies cfg keys st recovered).1.ledger = st.ledger :=
  recoverAssemblies_kept (recoverAssembly_ledger cfg) keys st recovered

@[simp] theorem receiveFragment_ledger (st : StreamClient) (a : UdpFrameAssembly)
    (fragment : UdpFrameFragmentHeader) (body : Bytes) (nowNs : ℕ) :
    (receiveFragment st a fragment body nowNs).1.ledger = st.ledger := by
  simp only [receiveFragment]
  split <;> rfl

@[simp] theorem recoverIfIncomplete_ledger (cfg : ClientConfig) (st : StreamClient)
    (sequence : ℕ) (a : UdpFrameAssembly) :
    (recoverIfIncomplete cfg st sequence a).1.ledger = st.ledger := by
  rw [recoverIfIncomplete]
  split
  · exact recoverAssembly_ledger cfg st sequence a
  · rfl

@[simp] theorem pruneExpiredUdpAssemblies_ledger (st : StreamClient) (nowNs : ℕ) :
    (pruneExpiredUdpAssemblies st nowNs).ledger = st.ledger := rfl

@[simp] theorem noteDatagram_ledger (st : StreamClient) (data : Bytes) (nowNs : ℕ) :
    (noteDatagram st data nowNs).ledger = st.ledger := rfl

/-! ### Completion -/

theorem retireCompletedUdpFrame_ledger (st : StreamClient) (key : ℕ) (a : UdpFrameAssembly)
    (frame : ReceivedFrame) (nowNs : ℕ) :
    (retireCompletedUdpFrame st key a frame nowNs).ledger =
      { st.ledger with completed := st.ledger.completed ++
          [{ sequence := key, assembly := a, frame := frame }] } :=
  onCompletedUdpFrame_ledger (countCompletedUdpFrame st key a frame) frame nowNs

/-- A frame that completes is counted and enters the buffer. -/
theorem bufferCompletedUdpFrame_retire_ledger (st : StreamClient) (key : ℕ)
    (a : UdpFrameAssembly) (frame : ReceivedFrame) (nowNs : ℕ) :
    (bufferCompletedUdpFrame (retireCompletedUdpFrame st key a frame nowNs) frame).ledger =
      st.ledger.complete { sequence := key, assembly := a, frame := frame } := by
  have hretired := retireCompletedUdpFrame_ledger st key a frame nowNs
  generalize retireCompletedUdpFrame st key a frame nowNs = retired at hretired
  have hbuffered : (bufferCompletedUdpFrame retired frame).ledger =
      { retired.ledger with playout := retired.ledger.playout.buffer frame } := by
    simp only [PlayoutState.buffer, bufferCompletedUdpFrame]
    by_cases hmem : frame.metadata.sequence ∈ retired.udpJitterBuffer
    · rw [if_pos hmem, if_pos (show _ ∈ retired.ledger.playout.udpJitterBuffer from hmem)]
      rfl
    · rw [if_neg hmem, if_neg (show _ ∉ retired.ledger.playout.udpJitterBuffer from hmem)]
      rfl
  rw [hbuffered, hretired]
  rfl

theorem finalizeCompletedUdpFrame_serves (hjitter : cfg.udpJitterBufferEnabled = true)
    (env : ClientEnv) (st : StreamClient) (key : ℕ) (a : UdpFrameAssembly) (nowNs : ℕ)
    (deferReadyPop : Bool) :
    Serves st.ledger (finalizeCompletedUdpFrame env cfg st key a nowNs deferReadyPop).1.ledger
      (finalizeCompletedUdpFrame env cfg st key a nowNs deferReadyPop).2 := by
  rw [finalizeCompletedUdpFrame]
  split
  · exact .filled .refl
  have hcomplete := bufferCompletedUdpFrame_retire_ledger st key a (completedUdpFrame cfg a nowNs)
    nowNs
  have hfills := Fills.complete st.ledger
    { sequence := key, assembly := a, frame := completedUdpFrame cfg a nowNs } .refl
  rw [← hcomplete] at hfills
  simp only [hjitter, Bool.not_true, Bool.false_eq_true, if_false]
  split
  · exact .filled hfills
  · have hpop := tryPopReadyUdpFrame_ledger cfg (maybeSendUdpNackRequests env cfg
      (bufferCompletedUdpFrame (retireCompletedUdpFrame st key a (completedUdpFrame cfg a nowNs)
        nowNs) (completedUdpFrame cfg a nowNs)) nowNs) nowNs
    rw [maybeSendUdpNackRequests_ledger] at hpop
    exact hfills.serves hpop.serves

theorem finalizeRecovered_serves (hjitter : cfg.udpJitterBufferEnabled = true)
    (env : ClientEnv) (nowNs : ℕ) (deferReadyPop : Bool) (sequences : List ℕ) (st : StreamClient) :
    Serves st.ledger (finalizeRecovered env cfg nowNs deferReadyPop sequences st).1.ledger
      (finalizeRecovered env cfg nowNs deferReadyPop sequences st).2 := by
  induction sequences generalizing st with
  | nil => exact .filled .refl
  | cons sequence rest ih =>
      rw [finalizeRecovered]
      split
      · exact ih st
      rename_i a _
      split
      · exact ih st
      have hserves := finalizeCompletedUdpFrame_serves hjitter env st sequence a nowNs
        deferReadyPop
      split
      · rename_i st' frame heq
        rw [heq] at hserves
        exact hserves
      · rename_i st' heq
        rw [heq] at hserves
        cases hserves with
        | filled hfills => exact hfills.serves (ih st')

theorem finalizeRecoverableUdpFecFrames_serves (hjitter : cfg.udpJitterBufferEnabled = true)
    (env : ClientEnv) (st : StreamClient) (nowNs : ℕ) (deferReadyPop : Bool) :
    Serves st.ledger (finalizeRecoverableUdpFecFrames env cfg st nowNs deferReadyPop).1.ledger
      (finalizeRecoverableUdpFecFrames env cfg st nowNs deferReadyPop).2 := by
  have hserves := finalizeRecovered_serves hjitter env nowNs deferReadyPop
    (recoverAssemblies cfg st.udpAssemblies.keys st []).2
    (recoverAssemblies cfg st.udpAssemblies.keys st []).1
  rwa [recoverAssemblies_ledger] at hserves

/-! ### Datagrams -/

theorem finishIfComplete_serves (hjitter : cfg.udpJitterBufferEnabled = true)
    (env : ClientEnv) (st : StreamClient) (sequence : ℕ) (a : UdpFrameAssembly) (nowNs : ℕ)
    (deferReadyPop : Bool) :
    Serves st.ledger (finishIfComplete env cfg st sequence a nowNs deferReadyPop).1.ledger
      (finishIfComplete env cfg st sequence a nowNs deferReadyPop).2 := by
  rw [finishIfComplete]
  split
  · exact finalizeCompletedUdpFrame_serves hjitter env st sequence a nowNs deferReadyPop
  · exact .filled .refl

theorem acceptParityFragment_serves (hjitter : cfg.udpJitterBufferEnabled = true)
    (env : ClientEnv) (st : StreamClient) (a : UdpFrameAssembly) (sequence : ℕ) (body : Bytes)
    (nowNs : ℕ)
    (deferReadyPop : Bool) :
    Serves st.ledger
      (acceptParityFragment env cfg st a sequence body nowNs deferReadyPop).1.ledger
      (acceptParityFragment env cfg st a sequence body nowNs deferReadyPop).2 := by
  have hstored : StreamClient.ledger
      { st with
        udpAssemblies := st.udpAssemblies.insert sequence (storeParity cfg a body nowNs)
        udpReceiveStats.fecFragmentsReceived := st.udpReceiveStats.fecFragmentsReceived +
          (if cfg.udpFecEnabled then 1 else 0) } = st.ledger := rfl
  rw [← hstored]
  exact finishIfComplete_serves hjitter env _ _ _ _ _

theorem acceptDataFragment_serves (hjitter : cfg.udpJitterBufferEnabled = true)
    (env : ClientEnv) (st : StreamClient) (a : UdpFrameAssembly) (fragment : UdpFrameFragmentHeader) (body : Bytes)
    (nowNs : ℕ) (deferReadyPop : Bool) :
    Serves st.ledger
      (acceptDataFragment env cfg st a fragment body nowNs deferReadyPop).1.ledger
      (acceptDataFragment env cfg st a fragment body nowNs deferReadyPop).2 := by
  have hreceived := receiveFragment_ledger st a fragment body nowNs
  have hrecovered := recoverIfIncomplete_ledger cfg (receiveFragment st a fragment body nowNs).1
    fragment.frameSequence (receiveFragment st a fragment body nowNs).2
  rw [← hreceived, ← hrecovered]
  exact finishIfComplete_serves hjitter env _ _ _ _ _

theorem assembleFragment_serves (hjitter : cfg.udpJitterBufferEnabled = true)
    (env : ClientEnv) (st : StreamClient) (header : MessageHeader) (fragment : UdpFrameFragmentHeader)
    (body : Bytes) (nowNs : ℕ) (deferReadyPop : Bool) :
    Serves st.ledger
      (assembleFragment env cfg st header fragment body nowNs deferReadyPop).1.ledger
      (assembleFragment env cfg st header fragment body nowNs deferReadyPop).2 := by
  simp only [assembleFragment]
  generalize openAssembly cfg st.udpAssemblies[fragment.frameSequence]? header fragment nowNs = a
  have hstored : (storeUdpAssembly st fragment.frameSequence a).ledger = st.ledger := rfl
  split
  · exact .filled .refl
  rw [← hstored]
  split
  · exact acceptParityFragment_serves hjitter env _ _ _ _ _ _
  · exact acceptDataFragment_serves hjitter env _ _ _ _ _ _

theorem processUdpDatagram_serves (hjitter : cfg.udpJitterBufferEnabled = true)
    (env : ClientEnv) (st : StreamClient) (data : Bytes) (nowNs : ℕ) (deferReadyPop : Bool) :
    Serves st.ledger (processUdpDatagram env cfg st data nowNs deferReadyPop).1.ledger
      (processUdpDatagram env cfg st data nowNs deferReadyPop).2 := by
  rw [← noteDatagram_ledger st data nowNs]
  simp only [processUdpDatagram]
  split
  · exact .filled .refl
  rename_i header fragment body _
  have hinjected := shouldInjectUdpLoss_ledger cfg (noteDatagram st data nowNs) fragment
  rw [← hinjected, acceptFragment]
  split
  · rename_i heq
    rw [heq]
    exact .filled .refl
  · rename_i heq
    rw [heq]
    split
    · exact .filled .refl
    · exact assembleFragment_serves hjitter env _ header fragment body nowNs deferReadyPop

end

/-! ### The loop -/

theorem returnOr_serves {s : ReceiveState} (next : ReceivePoint)
    {result : StreamClient × Option ReceivedFrame}
    (h : Serves s.client.ledger result.1.ledger result.2) :
    ∃ popped, Serves s.client.ledger (returnOr s next result).client.ledger popped ∧
      (returnOr s next result).delivered = s.delivered ++ popped.toList := by
  obtain ⟨client, frame⟩ := result
  refine ⟨frame, ?_⟩
  cases frame with
  | none => exact ⟨h, by simp [returnOr]⟩
  | some frame => exact ⟨h, rfl⟩

/-- One step of the receiver, seen from the jitter buffer. -/
theorem receiveStep_serves {env : ClientEnv} {cfg : ClientConfig}
    (hjitter : cfg.udpJitterBufferEnabled = true) {s s' : ReceiveState} {event : ReceiveEvent}
    (hstep : receiveStep env cfg s event = some s') :
    ∃ popped, Serves s.client.ledger s'.client.ledger popped ∧
      s'.delivered = s.delivered ++ popped.toList := by
  have hmoved (point : ReceivePoint) : ∃ popped,
      Serves s.client.ledger { s with point := point }.client.ledger popped ∧
        { s with point := point }.delivered = s.delivered ++ popped.toList :=
    ⟨none, .filled .refl, by simp⟩
  cases event with
  | call | failed | interrupted | nothing =>
      rw [receiveStep] at hstep
      split at hstep <;> cases hstep <;> exact hmoved _
  | datagram data nowNs =>
      rw [receiveStep] at hstep
      split at hstep
      · cases hstep
        exact returnOr_serves _ (processUdpDatagram_serves hjitter env s.client data nowNs true)
      · cases hstep
        exact returnOr_serves _ (processUdpDatagram_serves hjitter env s.client data nowNs false)
      · cases hstep
  | proceed nowNs =>
      have hpop (next : ReceivePoint) (nowNs : ℕ) := returnOr_serves next
        (tryPopReadyUdpFrame_ledger cfg s.client nowNs).serves
      have hrecover (next : ReceivePoint) (nowNs : ℕ) (deferReadyPop : Bool) :=
        returnOr_serves next (finalizeRecoverableUdpFecFrames_serves
          hjitter env s.client nowNs deferReadyPop)
      rw [receiveStep] at hstep
      split at hstep <;> cases hstep
      · exact hpop _ _
      · exact hrecover _ _ _
      · exact hpop _ _
      · exact ⟨none, .filled .refl, by simp⟩
      · exact hrecover _ _ _
      · refine ⟨none, ?_, by simp⟩
        rw [maybeSendUdpNackRequests_ledger]
        exact .filled .refl
      · exact hpop _ _

end AvProject.Client
