import AvProject.Client.NothingStranded
import AvProject.Client.SkipCounts

/-!
The depth of the jitter buffer. Nothing is refused when the buffer is full: a full buffer
only makes its next frame due, and a call hands out one frame, however many have completed
while the datagrams were drained.
-/

namespace AvProject.Client

open AvProject.Lib AvProject.Protocol

/-- The depth at which a frame becomes due. -/
def depthLimit (cfg : ClientConfig) (st : StreamClient) : ℕ := max (effectiveMaxFrames cfg st) 1

/-- The buffer is not deeper than it may be. -/
def WithinDepth (cfg : ClientConfig) (st : StreamClient) : Prop :=
  st.udpJitterBuffer.size ≤ depthLimit cfg st

/-! ### One pop -/

section

variable {cfg : ClientConfig} {st : StreamClient} {nowNs : ℕ}

/-- The limit depends on the parameters of the controller only. -/
theorem depthLimit_congr {st' : StreamClient}
    (h : st'.adaptiveJitter.params = st.adaptiveJitter.params) :
    depthLimit cfg st' = depthLimit cfg st := by
  have hframes : st'.adaptiveJitter.currentMaxFrames = st.adaptiveJitter.currentMaxFrames :=
    congrArg JitterParams.maxFrames h
  rw [depthLimit, depthLimit, effectiveMaxFrames, effectiveMaxFrames,
    AdaptiveJitterBuffer.qualityMaxFrames, AdaptiveJitterBuffer.qualityMaxFrames, hframes]

/-- The target delay has nothing to do with the parameters. -/
@[simp] theorem currentJitterBufferTargetDelayNs_params (cfg : ClientConfig)
    (st : StreamClient) :
    (currentJitterBufferTargetDelayNs cfg st).2.adaptiveJitter.params =
      st.adaptiveJitter.params := by
  rw [currentJitterBufferTargetDelayNs]
  cases cfg.udpJitterBufferStrategy with
  | auto | off | low | smooth => exact st.adaptiveJitter.targetDelayNs_params
  | fixed | adaptive => rfl

theorem anchorJitterBuffer_fields (st : StreamClient) (oldest : ℕ) :
    (anchorJitterBuffer st oldest).adaptiveJitter = st.adaptiveJitter ∧
      (anchorJitterBuffer st oldest).udpJitterBuffer = st.udpJitterBuffer := by
  rw [anchorJitterBuffer]
  split
  · exact ⟨rfl, rfl⟩
  · exact ⟨rfl, rfl⟩

theorem emitExpectedUdpFrame_adaptiveJitter (targetDelayNs : ℕ) (expected : BufferedUdpFrame) :
    (emitExpectedUdpFrame cfg st nowNs targetDelayNs expected).1.adaptiveJitter =
      st.adaptiveJitter := by
  simp only [emitExpectedUdpFrame]
  split <;> rfl

/-- A buffer at its limit makes every frame due. -/
theorem emitExpectedUdpFrame_eq_none {targetDelayNs : ℕ} {expected : BufferedUdpFrame}
    (h : (emitExpectedUdpFrame cfg st nowNs targetDelayNs expected).2 = none) :
    st.udpJitterBuffer.size < depthLimit cfg st := by
  simp only [emitExpectedUdpFrame] at h
  split at h
  · rename_i hwaits
    exact Nat.lt_of_not_le hwaits.2.1
  · cases h

/-- A pop leaves the parameters. -/
theorem tryPopReadyUdpFrame_params (cfg : ClientConfig) (st : StreamClient) (nowNs : ℕ) :
    (tryPopReadyUdpFrame cfg st nowNs).1.adaptiveJitter.params = st.adaptiveJitter.params :=
  @tryPopReadyUdpFrame_kept _ (·.adaptiveJitter.params) cfg nowNs
    (currentJitterBufferTargetDelayNs_params cfg)
    (fun st oldest => congrArg (·.params) (anchorJitterBuffer_fields st oldest).1)
    (fun _ _ => rfl)
    (fun _ targetDelayNs expected =>
      congrArg (·.params) (emitExpectedUdpFrame_adaptiveJitter targetDelayNs expected)) st

theorem tryPopReadyUdpFrame_depthLimit (cfg : ClientConfig) (st : StreamClient) (nowNs : ℕ) :
    depthLimit cfg (tryPopReadyUdpFrame cfg st nowNs).1 = depthLimit cfg st :=
  depthLimit_congr (tryPopReadyUdpFrame_params cfg st nowNs)

/-- A pop that hands out nothing has found the buffer below its limit. -/
theorem tryPopReadyUdpFrame_eq_none (hjitter : cfg.udpJitterBufferEnabled = true)
    (h : (tryPopReadyUdpFrame cfg st nowNs).2 = none) :
    st.udpJitterBuffer.size < depthLimit cfg st := by
  have hbuffer : (currentJitterBufferTargetDelayNs cfg st).2.udpJitterBuffer =
      st.udpJitterBuffer :=
    congrArg (·.playout.udpJitterBuffer) (currentJitterBufferTargetDelayNs_ledger cfg st)
  rw [tryPopReadyUdpFrame, if_neg (by simp [hjitter])] at h
  split at h
  · rename_i hempty
    rw [OrdMap.front?_eq_none.mp hempty, Std.ExtTreeMap.size_empty]
    exact Nat.lt_of_lt_of_le Nat.zero_lt_one (le_max_right _ _)
  rename_i oldest _ _
  obtain ⟨hjitterKept, hbufferKept⟩ :=
    anchorJitterBuffer_fields (currentJitterBufferTargetDelayNs cfg st).2 oldest
  simp only at h
  generalize anchorJitterBuffer (currentJitterBufferTargetDelayNs cfg st).2 oldest = anchored
    at h hjitterKept hbufferKept
  have hparams : anchored.adaptiveJitter.params = st.adaptiveJitter.params := by
    rw [hjitterKept, currentJitterBufferTargetDelayNs_params]
  rw [← hbuffer, ← hbufferKept, ← depthLimit_congr hparams]
  split at h
  · exact emitExpectedUdpFrame_eq_none h
  split at h
  · have hskipped := emitExpectedUdpFrame_eq_none h
    exact hskipped
  · rename_i hwaits
    rw [shouldSkipMissing, Bool.or_eq_true, not_or] at hwaits
    exact Nat.lt_of_not_le (by simpa [depthLimit] using hwaits.2)

/-- The buffer after a pop. -/
theorem LedgerPop.size {l l' : PlayoutLedger} {popped : Option ReceivedFrame}
    (h : LedgerPop l l' popped) :
    l.playout.udpJitterBuffer.size =
      l'.playout.udpJitterBuffer.size + popped.toList.length := by
  have hemit {k : ℕ} {b : BufferedUdpFrame} (skipped : ℕ)
      (hb : l.playout.udpJitterBuffer[k]? = some b) : l.playout.udpJitterBuffer.size =
        (l.emit k skipped).playout.udpJitterBuffer.size + 1 := by
    have hsize := OrdMap.total_erase hb fun _ => 1
    rw [OrdMap.total_one, OrdMap.total_one] at hsize
    exact hsize.symm
  cases h with
  | kept => rfl
  | anchored => rfl
  | expected b _ hb => exact hemit 0 hb
  | first sequence b hfront => exact hemit 0 (OrdMap.front?_eq_some hfront).1
  | skipped sequence b hfront => exact hemit _ (OrdMap.front?_eq_some hfront).1

/-- What a pop leaves is within the limit exactly if it has found at most one frame more. -/
theorem tryPopReadyUdpFrame_withinDepth_iff (hjitter : cfg.udpJitterBufferEnabled = true)
    (nowNs : ℕ) :
    ((tryPopReadyUdpFrame cfg st nowNs).2 ≠ none →
        WithinDepth cfg (tryPopReadyUdpFrame cfg st nowNs).1) ↔
      st.udpJitterBuffer.size ≤ depthLimit cfg st + 1 := by
  have hsize : st.udpJitterBuffer.size = _ := (tryPopReadyUdpFrame_ledger cfg st nowNs).size
  rw [WithinDepth, tryPopReadyUdpFrame_depthLimit]
  cases hpopped : (tryPopReadyUdpFrame cfg st nowNs).2 with
  | none =>
      have hbelow := tryPopReadyUdpFrame_eq_none hjitter hpopped
      exact ⟨fun _ => by omega, fun _ hne => absurd rfl hne⟩
  | some frame =>
      rw [hpopped, Option.toList_some, List.length_singleton] at hsize
      rw [hsize]
      simp [StreamClient.ledger, StreamClient.playout]

end

/-! ### A datagram -/

section

variable {cfg : ClientConfig}

/-- What a call does with its pop deferred, and without: it pops if a frame has completed. -/
def DefersPop (env : ClientEnv) (cfg : ClientConfig) (nowNs : ℕ) (st : StreamClient)
    (deferred direct : StreamClient × Option ReceivedFrame) : Prop :=
  deferred.2 = none ∧
    (deferred.1.history.completed.length = st.history.completed.length ∧ direct.2 = none ∨
      deferred.1.history.completed.length ≠ st.history.completed.length ∧
        direct = tryPopReadyUdpFrame cfg (maybeSendUdpNackRequests env cfg deferred.1 nowNs) nowNs)

theorem DefersPop.of_ledger {env : ClientEnv} {nowNs : ℕ} {st st' : StreamClient}
    {deferred direct : StreamClient × Option ReceivedFrame}
    (h : DefersPop env cfg nowNs st' deferred direct) (hsame : st'.ledger = st.ledger) :
    DefersPop env cfg nowNs st deferred direct := by
  have hcompleted : st'.history.completed = st.history.completed :=
    congrArg PlayoutLedger.completed hsame
  rwa [DefersPop, hcompleted] at h

theorem finalizeCompletedUdpFrame_defersPop (hjitter : cfg.udpJitterBufferEnabled = true)
    (env : ClientEnv) (st : StreamClient) (key : ℕ) (a : UdpFrameAssembly) (nowNs : ℕ) :
    DefersPop env cfg nowNs st (finalizeCompletedUdpFrame env cfg st key a nowNs true)
      (finalizeCompletedUdpFrame env cfg st key a nowNs false) := by
  rw [finalizeCompletedUdpFrame, finalizeCompletedUdpFrame]
  split
  · exact ⟨rfl, .inl ⟨rfl, rfl⟩⟩
  have hcompleted : (bufferCompletedUdpFrame (retireCompletedUdpFrame st key a
      (completedUdpFrame cfg a nowNs) nowNs) (completedUdpFrame cfg a nowNs)).history.completed =
        st.history.completed ++ [_] := congrArg PlayoutLedger.completed
    (bufferCompletedUdpFrame_retire_ledger st key a (completedUdpFrame cfg a nowNs) nowNs)
  simp only [hjitter, Bool.not_true, Bool.false_eq_true, if_false, if_true]
  refine ⟨rfl, .inr ⟨?_, rfl⟩⟩
  simp [hcompleted]

theorem finishIfComplete_defersPop (hjitter : cfg.udpJitterBufferEnabled = true)
    (env : ClientEnv) (st : StreamClient) (sequence : ℕ) (a : UdpFrameAssembly) (nowNs : ℕ) :
    DefersPop env cfg nowNs st (finishIfComplete env cfg st sequence a nowNs true)
      (finishIfComplete env cfg st sequence a nowNs false) := by
  rw [finishIfComplete, finishIfComplete]
  split
  · exact finalizeCompletedUdpFrame_defersPop hjitter env st sequence a nowNs
  · exact ⟨rfl, .inl ⟨rfl, rfl⟩⟩

theorem acceptDataFragment_defersPop (hjitter : cfg.udpJitterBufferEnabled = true)
    (env : ClientEnv) (st : StreamClient) (a : UdpFrameAssembly)
    (fragment : UdpFrameFragmentHeader) (body : Bytes) (nowNs : ℕ) :
    DefersPop env cfg nowNs st (acceptDataFragment env cfg st a fragment body nowNs true)
      (acceptDataFragment env cfg st a fragment body nowNs false) := by
  have hreceived := receiveFragment_ledger st a fragment body nowNs
  have hrecovered := recoverIfIncomplete_ledger cfg (receiveFragment st a fragment body nowNs).1
    fragment.frameSequence (receiveFragment st a fragment body nowNs).2
  exact (finishIfComplete_defersPop hjitter env _ _ _ nowNs).of_ledger
    (hrecovered.trans hreceived)

theorem acceptParityFragment_defersPop (hjitter : cfg.udpJitterBufferEnabled = true)
    (env : ClientEnv) (st : StreamClient) (a : UdpFrameAssembly) (sequence : ℕ) (body : Bytes)
    (nowNs : ℕ) :
    DefersPop env cfg nowNs st (acceptParityFragment env cfg st a sequence body nowNs true)
      (acceptParityFragment env cfg st a sequence body nowNs false) :=
  (finishIfComplete_defersPop hjitter env _ _ _ nowNs).of_ledger rfl

theorem assembleFragment_defersPop (hjitter : cfg.udpJitterBufferEnabled = true)
    (env : ClientEnv) (st : StreamClient) (header : MessageHeader)
    (fragment : UdpFrameFragmentHeader) (body : Bytes) (nowNs : ℕ) :
    DefersPop env cfg nowNs st (assembleFragment env cfg st header fragment body nowNs true)
      (assembleFragment env cfg st header fragment body nowNs false) := by
  simp only [assembleFragment]
  generalize openAssembly cfg st.udpAssemblies[fragment.frameSequence]? header fragment nowNs = a
  have hstored : (storeUdpAssembly st fragment.frameSequence a).ledger = st.ledger := rfl
  split
  · exact ⟨rfl, .inl ⟨rfl, rfl⟩⟩
  split
  · exact (acceptParityFragment_defersPop hjitter env _ _ _ _ _).of_ledger hstored
  · exact (acceptDataFragment_defersPop hjitter env _ _ _ _ _).of_ledger hstored

theorem processUdpDatagram_defersPop (hjitter : cfg.udpJitterBufferEnabled = true)
    (env : ClientEnv) (st : StreamClient) (data : Bytes) (nowNs : ℕ) :
    DefersPop env cfg nowNs st (processUdpDatagram env cfg st data nowNs true)
      (processUdpDatagram env cfg st data nowNs false) := by
  refine DefersPop.of_ledger ?_ (noteDatagram_ledger st data nowNs)
  simp only [processUdpDatagram]
  split
  · exact ⟨rfl, .inl ⟨rfl, rfl⟩⟩
  rename_i header fragment body _
  refine DefersPop.of_ledger ?_
    (shouldInjectUdpLoss_ledger cfg (noteDatagram st data nowNs) fragment)
  rw [acceptFragment, acceptFragment]
  split
  · rename_i heq
    rw [heq]
    exact ⟨rfl, .inl ⟨rfl, rfl⟩⟩
  · rename_i heq
    rw [heq]
    split
    · exact ⟨rfl, .inl ⟨rfl, rfl⟩⟩
    · exact assembleFragment_defersPop hjitter env _ header fragment body nowNs

/-- A round of requests does not touch the buffer. -/
theorem maybeSendUdpNackRequests_depth (env : ClientEnv) (cfg : ClientConfig)
    (st : StreamClient) (nowNs : ℕ) :
    (maybeSendUdpNackRequests env cfg st nowNs).udpJitterBuffer = st.udpJitterBuffer ∧
      depthLimit cfg (maybeSendUdpNackRequests env cfg st nowNs) = depthLimit cfg st := by
  obtain ⟨_, _, _, _, _, heq⟩ := maybeSendUdpNackRequests_withRequests env cfg st nowNs
  rw [heq]
  exact ⟨rfl, rfl⟩

end

/-! ### The loop -/

/-- The client as the last pop of a step finds it. -/
def popFinds (env : ClientEnv) (cfg : ClientConfig) (s : ReceiveState) :
    ReceiveEvent → Option StreamClient
  | .proceed _ =>
      match s.point with
      | .loopTop | .afterDrainPop .. | .maintenancePop _ => some s.client
      | _ => none
  | .datagram data nowNs =>
      match s.point with
      | .waiting =>
          let deferred := (processUdpDatagram env cfg s.client data nowNs true).1
          if deferred.history.completed.length = s.client.history.completed.length then none
          else some deferred
      | _ => none
  | _ => none

/-- A pop finds at most one frame more than the buffer may hold. -/
def PopsWithinDepth (env : ClientEnv) (cfg : ClientConfig) (s : ReceiveState)
    (event : ReceiveEvent) : Prop :=
  ∀ found ∈ popFinds env cfg s event, found.udpJitterBuffer.size ≤ depthLimit cfg found + 1

/-- Where a frame is handed out, or the thread blocks in `recv`, the buffer is not too deep. -/
def StaysWithinDepth (env : ClientEnv) (cfg : ClientConfig) (s : ReceiveState)
    (event : ReceiveEvent) : Prop :=
  ∀ s' ∈ receiveStep env cfg s event, s'.delivered ≠ s.delivered ∨ s'.point = .waiting →
    WithinDepth cfg s'.client

section

variable {env : ClientEnv} {cfg : ClientConfig} {s : ReceiveState}

/-- Handing out a frame is what lengthens the list. -/
theorem returnOr_handsOut (s : ReceiveState) {next : ReceivePoint} (hnext : next ≠ .waiting)
    (result : StreamClient × Option ReceivedFrame) :
    (returnOr s next result).delivered ≠ s.delivered ∨ (returnOr s next result).point = .waiting ↔
      result.2 ≠ none := by
  obtain ⟨client, frame⟩ := result
  cases frame with
  | none => simp [returnOr, hnext]
  | some frame => simp [returnOr]

/-- A step that pops, and goes on elsewhere than in the blocking `recv`. -/
theorem withinDepth_pop_iff (hjitter : cfg.udpJitterBufferEnabled = true) (s : ReceiveState)
    {next : ReceivePoint} (hnext : next ≠ .waiting) (st : StreamClient) (nowNs : ℕ) :
    ((returnOr s next (tryPopReadyUdpFrame cfg st nowNs)).delivered ≠ s.delivered ∨
        (returnOr s next (tryPopReadyUdpFrame cfg st nowNs)).point = .waiting →
      WithinDepth cfg (returnOr s next (tryPopReadyUdpFrame cfg st nowNs)).client) ↔
      st.udpJitterBuffer.size ≤ depthLimit cfg st + 1 := by
  rw [returnOr_handsOut s hnext, returnOr_client]
  exact tryPopReadyUdpFrame_withinDepth_iff hjitter nowNs

/-- The last pop before the blocking `recv`. -/
theorem withinDepth_lastPop_iff (hjitter : cfg.udpJitterBufferEnabled = true) (s : ReceiveState)
    (nowNs : ℕ) :
    ((returnOr s .waiting (tryPopReadyUdpFrame cfg s.client nowNs)).delivered ≠ s.delivered ∨
        (returnOr s .waiting (tryPopReadyUdpFrame cfg s.client nowNs)).point = .waiting →
      WithinDepth cfg (returnOr s .waiting (tryPopReadyUdpFrame cfg s.client nowNs)).client) ↔
      s.client.udpJitterBuffer.size ≤ depthLimit cfg s.client + 1 := by
  rw [← tryPopReadyUdpFrame_withinDepth_iff hjitter nowNs, returnOr_client]
  have hsize : s.client.udpJitterBuffer.size = _ :=
    (tryPopReadyUdpFrame_ledger cfg s.client nowNs).size
  have hlimit := tryPopReadyUdpFrame_depthLimit cfg s.client nowNs
  have hnone (h : (tryPopReadyUdpFrame cfg s.client nowNs).2 = none) :
      s.client.udpJitterBuffer.size < depthLimit cfg s.client :=
    tryPopReadyUdpFrame_eq_none hjitter h
  generalize tryPopReadyUdpFrame cfg s.client nowNs = result at hsize hlimit hnone ⊢
  obtain ⟨client, frame⟩ := result
  cases frame with
  | none =>
      have hbelow := hnone rfl
      refine ⟨fun _ h => absurd rfl h, fun _ _ => ?_⟩
      rw [WithinDepth, hlimit]
      simp only [Option.toList_none, List.length_nil, Nat.add_zero] at hsize
      rw [hsize] at hbelow
      exact hbelow.le
  | some frame => simp [returnOr]

/-- A step that hands out nothing and does not lead to the blocking `recv`. -/
theorem staysWithinDepth_of_quiet {event : ReceiveEvent}
    (hquiet : ∀ s' ∈ receiveStep env cfg s event,
      s'.delivered = s.delivered ∧ s'.point ≠ .waiting) : StaysWithinDepth env cfg s event := by
  intro s' hstep hends
  obtain ⟨hdelivered, hpoint⟩ := hquiet s' hstep
  rcases hends with h | h
  · exact absurd hdelivered h
  · exact absurd h hpoint

theorem returnOr_quiet (s : ReceiveState) {result : StreamClient × Option ReceivedFrame}
    (hnone : result.2 = none) {next : ReceivePoint} (hnext : next ≠ .waiting) :
    (returnOr s next result).delivered = s.delivered ∧
      (returnOr s next result).point ≠ .waiting := by
  obtain ⟨client, frame⟩ := result
  obtain rfl : frame = none := hnone
  exact ⟨rfl, hnext⟩

/-- In the course of the loop, a step stays within the depth exactly if its pop does. -/
theorem staysWithinDepth_iff (hjitter : cfg.udpJitterBufferEnabled = true)
    (h : ReceiveInv env cfg s) (event : ReceiveEvent) :
    StaysWithinDepth env cfg s event ↔ PopsWithinDepth env cfg s event := by
  obtain ⟨point, client, delivered⟩ := s
  have hwf := h.reachable.receiverInv.assemblies
  have hquiet (hnone : popFinds env cfg ⟨point, client, delivered⟩ event = none)
      (hsame : ∀ s' ∈ receiveStep env cfg ⟨point, client, delivered⟩ event,
        s'.delivered = delivered ∧ s'.point ≠ .waiting) :
      StaysWithinDepth env cfg ⟨point, client, delivered⟩ event ↔
        PopsWithinDepth env cfg ⟨point, client, delivered⟩ event := by
    refine iff_of_true (staysWithinDepth_of_quiet hsame) fun found hfound => ?_
    rw [hnone] at hfound
    cases hfound
  cases event with
  | call | failed | interrupted | nothing =>
      refine hquiet rfl fun s' hstep => ?_
      cases point <;> cases hstep <;> exact ⟨rfl, by simp⟩
  | datagram data nowNs =>
      have hdefers := processUdpDatagram_defersPop hjitter env client data nowNs
      cases point with
      | draining drained =>
          refine hquiet rfl fun s' hstep => ?_
          cases hstep
          exact returnOr_quiet _ hdefers.1 (by simp)
      | waiting =>
          simp only [StaysWithinDepth, PopsWithinDepth, popFinds, receiveStep, Option.mem_def,
            Option.some.injEq, forall_eq']
          rcases hdefers.2 with ⟨hsame, hnone⟩ | ⟨hcompletes, hpop⟩
          · rw [if_pos hsame]
            refine iff_of_true (fun hends => ?_) fun _ hfound => by cases hfound
            have hgoesOn := returnOr_quiet ⟨.waiting, client, delivered⟩ hnone
              (show ReceivePoint.loopTop ≠ .waiting by simp)
            rcases hends with hne | heq
            · exact absurd hgoesOn.1 hne
            · exact absurd heq hgoesOn.2
          · rw [if_neg hcompletes, hpop]
            obtain ⟨hbuffer, hlimit⟩ := maybeSendUdpNackRequests_depth env cfg
              (processUdpDatagram env cfg client data nowNs true).1 nowNs
            rw [withinDepth_pop_iff hjitter _ (by simp), hbuffer, hlimit]
            simp
      | _ => exact hquiet rfl fun s' hstep => by cases hstep
  | proceed nowNs =>
      cases point with
      | returned | draining | waiting => exact hquiet rfl fun s' hstep => by cases hstep
      | loopTop =>
          simp only [StaysWithinDepth, PopsWithinDepth, popFinds, receiveStep, Option.mem_def,
            Option.some.injEq, forall_eq']
          exact withinDepth_pop_iff hjitter _ (by simp) client nowNs
      | afterDrain drained =>
          refine hquiet rfl fun s' hstep => ?_
          cases hstep
          refine returnOr_quiet _ ?_ (by simp)
          rw [finalizeRecoverableUdpFecFrames_eq]
          exact (finalizeRecovered_deferred env hjitter nowNs (nodup_recoverableKeys cfg client)
            fun k hk => recoveredState_complete hwf hk).1
      | afterDrainPop drained afterDrainNowNs =>
          simp only [StaysWithinDepth, PopsWithinDepth, popFinds, receiveStep, Option.mem_def,
            Option.some.injEq, forall_eq']
          exact withinDepth_pop_iff hjitter _ (by cases drained <;> simp) client afterDrainNowNs
      | prune afterDrainNowNs =>
          refine hquiet rfl fun s' hstep => ?_
          cases hstep
          exact ⟨rfl, by simp⟩
      | maintenance afterDrainNowNs =>
          refine hquiet rfl fun s' hstep => ?_
          cases hstep
          refine returnOr_quiet _ ?_ (by simp)
          -- The pass after the drain has left nothing to recover.
          have hkeys : recoverableKeys cfg client = [] := by
            refine List.eq_nil_iff_forall_not_mem.mpr fun k hk => ?_
            have hnothing : recoverable cfg client k = false := h.nothing hjitter rfl k
            rw [mem_recoverableKeys, hnothing] at hk
            cases hk
          rw [finalizeRecoverableUdpFecFrames_eq, hkeys]
          rfl
      | nack afterDrainNowNs =>
          refine hquiet rfl fun s' hstep => ?_
          cases hstep
          exact ⟨rfl, by simp⟩
      | maintenancePop afterDrainNowNs =>
          simp only [StaysWithinDepth, PopsWithinDepth, popFinds, receiveStep, Option.mem_def,
            Option.some.injEq, forall_eq']
          exact withinDepth_lastPop_iff hjitter ⟨_, client, delivered⟩ afterDrainNowNs

end

instance (env : ClientEnv) (cfg : ClientConfig) (s : ReceiveState) (event : ReceiveEvent) :
    Decidable (PopsWithinDepth env cfg s event) :=
  inferInstanceAs (Decidable (∀ found ∈ popFinds env cfg s event,
    found.udpJitterBuffer.size ≤ depthLimit cfg found + 1))

instance (cfg : ClientConfig) (st : StreamClient) : Decidable (WithinDepth cfg st) :=
  inferInstanceAs (Decidable (_ ≤ _))

instance (env : ClientEnv) (cfg : ClientConfig) (s : ReceiveState) (event : ReceiveEvent) :
    Decidable (StaysWithinDepth env cfg s event) :=
  inferInstanceAs (Decidable (∀ s' ∈ receiveStep env cfg s event,
    s'.delivered ≠ s.delivered ∨ s'.point = .waiting → WithinDepth cfg s'.client))

/-- The buffer holds one frame. -/
def shallowClient : ClientConfig := { eagerClient with udpJitterBufferMaxFrames := 1 }

/-- Two frames arrive together and are handed out one after the other. -/
def pairRun : List ReceiveEvent :=
  [.call, .proceed 10, .datagram (wholeFrameDatagram 1) 11, .datagram (wholeFrameDatagram 2) 12,
   .nothing, .proceed 13, .proceed 13, .call, .proceed 14]

/-- Three frames arrive together. -/
def burstRun : List ReceiveEvent :=
  [.call, .proceed 10, .datagram (wholeFrameDatagram 1) 11, .datagram (wholeFrameDatagram 2) 12,
   .datagram (wholeFrameDatagram 3) 13, .nothing, .proceed 14, .proceed 14]

end AvProject.Client
