import AvProject.Client.UdpRecoveryPass
import AvProject.Client.UdpRepresentation
import Mathlib.Data.Bool.Count

/-!
The statistics of the UDP receiver conserve frames and fragments: every assembly that
is set up ends in one of the counters or is still there, and so does each of its
fragments.
-/

namespace AvProject.Client

open AvProject.Lib AvProject.Protocol

/-! ### Balances -/

/-- The counters that the balances are about. -/
structure ReceiverCounts where
  completedFrames : ℕ
  timedOutFrames : ℕ
  fragmentsReceived : ℕ
  duplicateFragments : ℕ
  timedOutFragments : ℕ
  fecRecoveredFragments : ℕ
  jitterBufferEmittedFrames : ℕ
  jitterBufferDroppedFrames : ℕ

def StreamClient.counts (st : StreamClient) : ReceiverCounts where
  completedFrames := st.udpReceiveStats.completedFrames
  timedOutFrames := st.udpReceiveStats.timedOutFrames
  fragmentsReceived := st.udpReceiveStats.fragmentsReceived
  duplicateFragments := st.udpReceiveStats.duplicateFragments
  timedOutFragments := st.udpReceiveStats.timedOutFragments
  fecRecoveredFragments := st.udpReceiveStats.fecRecoveredFragments
  jitterBufferEmittedFrames := st.udpReceiveStats.jitterBufferEmittedFrames
  jitterBufferDroppedFrames := st.udpReceiveStats.jitterBufferDroppedFrames

/-- The fragments that an assembly still waits for, as the code counts them. -/
def UdpFrameAssembly.missingCount (a : UdpFrameAssembly) : ℕ :=
  a.receivedFragments.length - a.receivedFragmentCount

namespace StreamClient

/-- The frames that are completed, timed out or in work. -/
def framesAccounted (st : StreamClient) : ℤ :=
  st.counts.completedFrames + st.counts.timedOutFrames + st.udpAssemblies.size

/-- The fragments that arrived first, were reconstructed, timed out or are missing. -/
def fragmentsAccounted (st : StreamClient) : ℤ :=
  st.counts.fragmentsReceived - st.counts.duplicateFragments +
    st.counts.fecRecoveredFragments + st.counts.timedOutFragments +
    OrdMap.total st.udpAssemblies UdpFrameAssembly.missingCount

/-- The data fragments that were no duplicates. -/
def firstFragments (st : StreamClient) : ℤ :=
  st.counts.fragmentsReceived - st.counts.duplicateFragments

/-- The completed frames that have neither been emitted nor dropped nor are buffered. -/
def framesUnplayed (st : StreamClient) : ℤ :=
  st.counts.completedFrames - st.counts.jitterBufferEmittedFrames -
    st.counts.jitterBufferDroppedFrames - st.udpJitterBuffer.size

end StreamClient

/-- From `st` to `st'` the balances change by the assemblies `created`, given by their
numbers of fragments. -/
structure Accounts (cfg : ClientConfig) (st st' : StreamClient) (created : List ℕ) : Prop where
  frames : st'.framesAccounted = st.framesAccounted + created.length
  fragments : st'.fragmentsAccounted = st.fragmentsAccounted + created.sum
  first : st.firstFragments ≤ st'.firstFragments
  playout : cfg.udpJitterBufferEnabled = true → st'.framesUnplayed = st.framesUnplayed

namespace Accounts

variable {cfg : ClientConfig} {st st' st'' : StreamClient} {created created' : List ℕ}

theorem refl (cfg : ClientConfig) (st : StreamClient) : Accounts cfg st st [] where
  frames := by simp
  fragments := by simp
  first := le_rfl
  playout _ := rfl

theorem trans (h : Accounts cfg st st' created) (h' : Accounts cfg st' st'' created') :
    Accounts cfg st st'' (created ++ created') where
  frames := by
    rw [h'.frames, h.frames, List.length_append]
    push_cast
    ring
  fragments := by
    rw [h'.fragments, h.fragments, List.sum_append]
    push_cast
    ring
  first := h.first.trans h'.first
  playout hjitter := (h'.playout hjitter).trans (h.playout hjitter)

/-- A step that creates nothing, before or after another one. -/
theorem trans_nil (h : Accounts cfg st st' created) (h' : Accounts cfg st' st'' []) :
    Accounts cfg st st'' created := by
  simpa using h.trans h'

theorem nil_trans (h : Accounts cfg st st' []) (h' : Accounts cfg st' st'' created) :
    Accounts cfg st st'' created := by
  simpa using h.trans h'

/-- Nothing that is accounted for changes. -/
theorem of_counts (hcounts : st'.counts = st.counts) (hcore : st'.core = st.core) :
    Accounts cfg st st' [] := by
  have hassemblies := congrArg ReceiverCore.udpAssemblies hcore
  have hbuffer := congrArg ReceiverCore.udpJitterBuffer hcore
  simp only [StreamClient.core] at hassemblies hbuffer
  constructor
  case frames => simp [StreamClient.framesAccounted, hcounts, hassemblies]
  case fragments => simp [StreamClient.fragmentsAccounted, hcounts, hassemblies]
  case first => rw [StreamClient.firstFragments, StreamClient.firstFragments, hcounts]
  case playout => simp [StreamClient.framesUnplayed, hcounts, hbuffer]

/-- An assembly is replaced by one that waits for as many fragments. -/
theorem replace {key : ℕ} {a b : UdpFrameAssembly} (hstored : st.udpAssemblies[key]? = some a)
    (hmissing : b.missingCount = a.missingCount) :
    Accounts cfg st { st with udpAssemblies := st.udpAssemblies.insert key b } [] := by
  have hsize := OrdMap.total_replace hstored (fun _ => 1) b
  have hsum := OrdMap.total_replace hstored UdpFrameAssembly.missingCount b
  rw [OrdMap.total_one, OrdMap.total_one] at hsize
  constructor
  case frames =>
    simp only [StreamClient.framesAccounted, StreamClient.counts, List.length_nil]
    omega
  case fragments =>
    simp only [StreamClient.fragmentsAccounted, StreamClient.counts, List.sum_nil]
    omega
  case first => exact le_rfl
  case playout => exact fun _ => rfl

end Accounts

/-! ### Quiet operations -/

section

variable {env : ClientEnv} {cfg : ClientConfig} {st : StreamClient}

@[simp] theorem currentJitterBufferTargetDelayNs_counts (cfg : ClientConfig)
    (st : StreamClient) : (currentJitterBufferTargetDelayNs cfg st).2.counts = st.counts := by
  unfold currentJitterBufferTargetDelayNs
  cases cfg.udpJitterBufferStrategy <;> rfl

@[simp] theorem onCompletedUdpFrame_counts (st : StreamClient) (frame : ReceivedFrame)
    (nowNs : ℕ) : (onCompletedUdpFrame st frame nowNs).counts = st.counts := by
  simp only [onCompletedUdpFrame]
  split
  · rfl
  · split <;> rfl

@[simp] theorem shouldInjectUdpLoss_counts (cfg : ClientConfig) (st : StreamClient)
    (fragment : UdpFrameFragmentHeader) :
    (shouldInjectUdpLoss cfg st fragment).1.counts = st.counts := by
  obtain ⟨_, _, _, heq⟩ := shouldInjectUdpLoss_eq cfg st fragment
  rw [heq]
  rfl

@[simp] theorem sendUdpNack_counts (env : ClientEnv) (cfg : ClientConfig) (st : StreamClient)
    (nowNs frameSequence : ℕ) (missing : List ℕ) :
    (sendUdpNack env cfg st nowNs frameSequence missing).1.counts = st.counts := by
  obtain ⟨_, _, _, heq⟩ := sendUdpNack_withRequests env cfg st nowNs frameSequence missing
  rw [heq]
  rfl

/-! ### NACK requests -/

theorem requestMissingFragments_accounts (env : ClientEnv) (cfg : ClientConfig) (nowNs : ℕ)
    (st : StreamClient) (key : ℕ) :
    Accounts cfg st (requestMissingFragments env cfg nowNs st key) [] := by
  unfold requestMissingFragments
  split
  · exact .refl cfg st
  rename_i a hstored
  split
  · exact .refl cfg st
  simp only
  generalize hchecked : st.check [.difference a.receivedFragments.length
    a.receivedFragmentCount] = checked
  have hmap : checked.udpAssemblies = st.udpAssemblies := by
    rw [← hchecked]
    rfl
  have hsame : Accounts cfg st checked [] := by
    rw [← hchecked]
    exact ⟨by simp; rfl, by simp; rfl, le_rfl, fun _ => rfl⟩
  have hcore := sendUdpNack_core env cfg checked nowNs a.metadata.sequence
    (a.missingFragments.map (· % 2 ^ 16))
  have hsent := hsame.trans_nil (.of_counts (sendUdpNack_counts env cfg checked nowNs
    a.metadata.sequence (a.missingFragments.map (· % 2 ^ 16))) hcore)
  split
  · refine hsent.trans_nil (.replace (a := a) ?_ rfl)
    have hassemblies := congrArg ReceiverCore.udpAssemblies hcore
    simp only [StreamClient.core] at hassemblies
    rw [hassemblies, hmap, hstored]
  · exact hsent

theorem maybeSendUdpNackRequests_accounts (env : ClientEnv) (cfg : ClientConfig)
    (st : StreamClient) (nowNs : ℕ) :
    Accounts cfg st (maybeSendUdpNackRequests env cfg st nowNs) [] := by
  unfold maybeSendUdpNackRequests
  split
  · exact .refl cfg st
  · generalize st.udpAssemblies.keys = keys
    induction keys generalizing st with
    | nil => exact .refl cfg st
    | cons key keys ih =>
        exact (requestMissingFragments_accounts env cfg nowNs st key).trans_nil (ih _)

/-! ### The jitter buffer -/

theorem emitExpectedUdpFrame_accounts {expected : BufferedUdpFrame}
    (hexpected : st.udpJitterBuffer[st.nextJitterBufferSequence]? = some expected)
    (cfg : ClientConfig) (nowNs targetDelayNs : ℕ) :
    Accounts cfg st (emitExpectedUdpFrame cfg st nowNs targetDelayNs expected).1 [] := by
  simp only [emitExpectedUdpFrame]
  split
  · exact .refl cfg st
  · have hsize := OrdMap.total_erase hexpected fun _ => 1
    rw [OrdMap.total_one, OrdMap.total_one] at hsize
    constructor
    case frames =>
      simp [StreamClient.framesAccounted, StreamClient.counts, recordJitterBufferWait,
        updateJitterBufferDepthStats]
    case fragments =>
      simp [StreamClient.fragmentsAccounted, StreamClient.counts, recordJitterBufferWait,
        updateJitterBufferDepthStats]
    case first => exact le_rfl
    case playout =>
      intro _
      simp only [StreamClient.framesUnplayed, StreamClient.counts, recordJitterBufferWait,
        updateJitterBufferDepthStats]
      omega

theorem anchorJitterBuffer_accounts (cfg : ClientConfig) (st : StreamClient)
    (oldestSequence : ℕ) : Accounts cfg st (anchorJitterBuffer st oldestSequence) [] := by
  unfold anchorJitterBuffer
  split
  · exact .refl cfg st
  · exact { Accounts.refl cfg st with }

theorem tryPopReadyUdpFrame_accounts (cfg : ClientConfig) (st : StreamClient) (nowNs : ℕ) :
    Accounts cfg st (tryPopReadyUdpFrame cfg st nowNs).1 [] := by
  unfold tryPopReadyUdpFrame
  split
  · exact .refl cfg st
  split
  · exact .refl cfg st
  rename_i oldestSequence oldest hfront
  have holdest := (OrdMap.front?_eq_some hfront).1
  simp only
  have hcore := currentJitterBufferTargetDelayNs_core cfg st
  have hbuffer := congrArg ReceiverCore.udpJitterBuffer hcore
  have htarget : Accounts cfg st (currentJitterBufferTargetDelayNs cfg st).2 [] :=
    .of_counts (currentJitterBufferTargetDelayNs_counts cfg st) hcore
  have hanchored := htarget.trans_nil (anchorJitterBuffer_accounts cfg _ oldestSequence)
  have hkept : (anchorJitterBuffer (currentJitterBufferTargetDelayNs cfg st).2
      oldestSequence).udpJitterBuffer = st.udpJitterBuffer := by
    rw [← show (currentJitterBufferTargetDelayNs cfg st).2.udpJitterBuffer =
      st.udpJitterBuffer from hbuffer]
    unfold anchorJitterBuffer
    split <;> rfl
  split
  · rename_i expected hexpected
    exact hanchored.trans_nil (emitExpectedUdpFrame_accounts hexpected cfg _ _)
  · split
    · have hskipped : Accounts cfg
          (anchorJitterBuffer (currentJitterBufferTargetDelayNs cfg st).2 oldestSequence)
          (skipMissing (anchorJitterBuffer (currentJitterBufferTargetDelayNs cfg st).2
            oldestSequence) oldestSequence) [] :=
        { Accounts.refl cfg _ with }
      refine (hanchored.trans_nil hskipped).trans_nil (emitExpectedUdpFrame_accounts ?_ cfg _ _)
      simp only [skipMissing, hkept, holdest]
    · exact hanchored

/-! ### Expiry -/

theorem pruneExpiredUdpAssemblies_accounts (cfg : ClientConfig) (st : StreamClient)
    (nowNs : ℕ) : Accounts cfg st (pruneExpiredUdpAssemblies st nowNs) [] := by
  have hsize := OrdMap.total_filter st.udpAssemblies (fun _ a => !a.expired nowNs) fun _ => 1
  have hsum := OrdMap.total_filter st.udpAssemblies (fun _ a => !a.expired nowNs)
    UdpFrameAssembly.missingCount
  rw [OrdMap.total_one, OrdMap.total_one, List.map_const', List.sum_replicate, smul_eq_mul,
    mul_one] at hsize
  simp only [Bool.not_not] at hsize hsum
  constructor
  case frames =>
    simp only [StreamClient.framesAccounted, StreamClient.counts, pruneExpiredUdpAssemblies,
      StreamClient.check, List.length_nil]
    omega
  case fragments =>
    simp only [StreamClient.fragmentsAccounted, StreamClient.counts, pruneExpiredUdpAssemblies,
      StreamClient.check, List.sum_nil]
    simp only [UdpFrameAssembly.missingCount] at hsum ⊢
    omega
  case first => exact le_rfl
  case playout => exact fun _ => rfl

/-! ### Completion -/

theorem retireCompletedUdpFrame_counts (st : StreamClient) (key : ℕ) (a : UdpFrameAssembly)
    (frame : ReceivedFrame) (nowNs : ℕ) :
    (retireCompletedUdpFrame st key a frame nowNs).counts =
      { st.counts with completedFrames := st.counts.completedFrames + 1 } :=
  (onCompletedUdpFrame_counts (countCompletedUdpFrame st key a frame) frame nowNs).trans rfl

/-- A finished assembly moves to the completed frames; its frame is still to be played. -/
theorem retireCompletedUdpFrame_accounts {key : ℕ} {a : UdpFrameAssembly}
    (hstored : st.udpAssemblies[key]? = some a)
    (hfinished : a.receivedFragmentCount = a.receivedFragments.length)
    (frame : ReceivedFrame) (nowNs : ℕ) :
    (retireCompletedUdpFrame st key a frame nowNs).framesAccounted = st.framesAccounted ∧
      (retireCompletedUdpFrame st key a frame nowNs).fragmentsAccounted =
        st.fragmentsAccounted ∧
      (retireCompletedUdpFrame st key a frame nowNs).firstFragments = st.firstFragments ∧
      (retireCompletedUdpFrame st key a frame nowNs).framesUnplayed =
        st.framesUnplayed + 1 := by
  have hcounts := retireCompletedUdpFrame_counts st key a frame nowNs
  have hcore := retireCompletedUdpFrame_core st key a frame nowNs
  have hassemblies := congrArg ReceiverCore.udpAssemblies hcore
  have hbuffer := congrArg ReceiverCore.udpJitterBuffer hcore
  simp only [StreamClient.core] at hassemblies hbuffer
  have hsize := OrdMap.total_erase hstored fun _ => 1
  have hsum := OrdMap.total_erase hstored UdpFrameAssembly.missingCount
  rw [OrdMap.total_one, OrdMap.total_one] at hsize
  rw [UdpFrameAssembly.missingCount, hfinished, Nat.sub_self, Nat.add_zero] at hsum
  refine ⟨?_, ?_, ?_, ?_⟩
  · rw [StreamClient.framesAccounted, StreamClient.framesAccounted, hcounts, hassemblies]
    simp only
    omega
  · rw [StreamClient.fragmentsAccounted, StreamClient.fragmentsAccounted, hcounts, hassemblies,
      hsum]
  · rw [StreamClient.firstFragments, StreamClient.firstFragments, hcounts]
  · rw [StreamClient.framesUnplayed, StreamClient.framesUnplayed, hcounts, hbuffer]
    simp only
    omega

/-- The frame is buffered or counted as dropped. -/
theorem bufferCompletedUdpFrame_accounts (st : StreamClient) (frame : ReceivedFrame) :
    (bufferCompletedUdpFrame st frame).framesAccounted = st.framesAccounted ∧
      (bufferCompletedUdpFrame st frame).fragmentsAccounted = st.fragmentsAccounted ∧
      (bufferCompletedUdpFrame st frame).firstFragments = st.firstFragments ∧
      (bufferCompletedUdpFrame st frame).framesUnplayed + 1 = st.framesUnplayed := by
  unfold bufferCompletedUdpFrame
  split
  · refine ⟨rfl, rfl, rfl, ?_⟩
    simp only [StreamClient.framesUnplayed, StreamClient.counts]
    omega
  · rename_i hnew
    refine ⟨rfl, rfl, rfl, ?_⟩
    have hsize := OrdMap.total_insert (OrdMap.getElem?_eq_none hnew) (fun _ => 1)
      { frame := frame, bufferedTimestampNs := frame.receiveTimestampNs }
    rw [OrdMap.total_one, OrdMap.total_one] at hsize
    simp only [StreamClient.framesUnplayed, StreamClient.counts, updateJitterBufferDepthStats]
    omega

theorem finalizeCompletedUdpFrame_accounts {key : ℕ} {a : UdpFrameAssembly}
    (hstored : st.udpAssemblies[key]? = some a) (env : ClientEnv) (nowNs : ℕ)
    (deferReadyPop : Bool) :
    Accounts cfg st (finalizeCompletedUdpFrame env cfg st key a nowNs deferReadyPop).1 [] := by
  unfold finalizeCompletedUdpFrame
  split
  · exact .refl cfg st
  rename_i hfinished
  obtain ⟨hframes, hfragments, hfirst, hunplayed⟩ := retireCompletedUdpFrame_accounts hstored
    (not_not.mp hfinished) (completedUdpFrame cfg a nowNs) nowNs
  simp only
  split
  · rename_i hjitter
    refine ⟨by simpa using hframes, by simpa using hfragments, hfirst.ge, fun henabled => ?_⟩
    simp [henabled] at hjitter
  · generalize retireCompletedUdpFrame st key a (completedUdpFrame cfg a nowNs) nowNs =
      retired at hframes hfragments hfirst hunplayed
    obtain ⟨hframes', hfragments', hfirst', hunplayed'⟩ :=
      bufferCompletedUdpFrame_accounts retired (completedUdpFrame cfg a nowNs)
    have hbuffered : Accounts cfg st
        (bufferCompletedUdpFrame retired (completedUdpFrame cfg a nowNs)) [] := by
      refine ⟨?_, ?_, ?_, fun _ => ?_⟩
      · rw [hframes', hframes]
        simp
      · rw [hfragments', hfragments]
        simp
      · rw [hfirst', hfirst]
      · omega
    split
    · exact hbuffered
    · exact (hbuffered.trans_nil (maybeSendUdpNackRequests_accounts env cfg _ nowNs)).trans_nil
        (tryPopReadyUdpFrame_accounts cfg _ nowNs)

theorem finishIfComplete_accounts {key : ℕ} {a : UdpFrameAssembly}
    (hstored : st.udpAssemblies[key]? = some a) (env : ClientEnv) (nowNs : ℕ)
    (deferReadyPop : Bool) :
    Accounts cfg st (finishIfComplete env cfg st key a nowNs deferReadyPop).1 [] := by
  unfold finishIfComplete
  split
  · exact finalizeCompletedUdpFrame_accounts hstored env nowNs deferReadyPop
  · exact .refl cfg st

/-! ### Recovery -/

/-- An assembly with a missing fragment has not counted all of them. -/
theorem UdpFrameAssembly.WellFormed.count_lt {a : UdpFrameAssembly} {key index : ℕ}
    (h : a.WellFormed key) (hindex : index < a.fragmentCount) (hmissing : ¬a.Has index) :
    a.receivedFragmentCount < a.receivedFragments.length := by
  refine lt_of_le_of_ne h.count_le fun heq => hmissing ?_
  have hcomplete : a.complete = true := by
    rw [UdpFrameAssembly.complete, beq_iff_eq]
    exact heq
  exact h.complete_iff.mp hcomplete index hindex

/-- Placing a missing fragment. -/
theorem UdpFrameAssembly.WellFormed.missingCount_place {a : UdpFrameAssembly}
    {key index : ℕ} (h : a.WellFormed key) (hindex : index < a.fragmentCount)
    (hmissing : ¬a.Has index) (offset size : ℕ) (bytes : Bytes) (recovered : Bool) :
    (a.place index offset size bytes recovered).missingCount + 1 = a.missingCount := by
  have hlt := h.count_lt hindex hmissing
  simp only [UdpFrameAssembly.missingCount, UdpFrameAssembly.place, List.length_set]
  omega

/-- Replacing an assembly by one that waits for one fragment less. -/
theorem total_missingCount_insert {m : OrdMap UdpFrameAssembly} {key : ℕ}
    {a b : UdpFrameAssembly} (hstored : m[key]? = some a)
    (hfewer : b.missingCount + 1 = a.missingCount) :
    (m.insert key b).size = m.size ∧
      OrdMap.total (m.insert key b) UdpFrameAssembly.missingCount + 1 =
        OrdMap.total m UdpFrameAssembly.missingCount := by
  have hsize := OrdMap.total_replace hstored (fun _ => 1) b
  have hsum := OrdMap.total_replace hstored UdpFrameAssembly.missingCount b
  rw [OrdMap.total_one, OrdMap.total_one] at hsize
  omega

/-- Recovery moves a fragment from the missing ones to the recovered ones. -/
theorem recoverAssembly_accounts {key : ℕ} {a : UdpFrameAssembly}
    (hstored : st.udpAssemblies[key]? = some a) (hwf : a.WellFormed key)
    (cfg : ClientConfig) : Accounts cfg st (recoverAssembly cfg st key a).1 [] := by
  simp only [recoverAssembly]
  rcases maybeRecoverWithUdpFec_cases cfg a with
    ⟨hfalse, -⟩ | ⟨htrue, -, -, -, missing, offset, size, bytes, hrec, heq⟩
  · rw [hfalse]
    exact { Accounts.refl cfg st with }
  · obtain ⟨hindex, hmissing⟩ :=
      UdpFrameAssembly.missing_of_missingFragments_singleton hrec.missing_eq
    obtain ⟨hsize, hsum⟩ := total_missingCount_insert hstored
      (hwf.missingCount_place hindex hmissing offset size bytes true)
    rw [htrue, heq]
    simp only [if_true]
    constructor
    case frames =>
      simp only [StreamClient.framesAccounted, StreamClient.counts, StreamClient.check,
        List.length_nil]
      omega
    case fragments =>
      simp only [StreamClient.fragmentsAccounted, StreamClient.counts, StreamClient.check,
        List.sum_nil]
      omega
    case first => exact le_rfl
    case playout => exact fun _ => rfl

/-- The invariant that the balances need: the assemblies are well formed. -/
abbrev WellFormedInv (st : StreamClient) : Prop :=
  ReceiverInv (fun key a => a.WellFormed key) (fun _ => True) (fun _ => True) st

theorem recoverAssemblies_accounts (h : WellFormedInv st) (cfg : ClientConfig)
    (keys recovered : List ℕ) :
    Accounts cfg st (recoverAssemblies cfg keys st recovered).1 [] := by
  induction keys generalizing st recovered with
  | nil => exact .refl cfg st
  | cons key keys ih =>
      unfold recoverAssemblies
      split
      · exact ih h recovered
      rename_i a hstored
      split
      · exact ih h recovered
      have hwf := h.assemblies key a hstored
      have hnext := (h.recoverAssembly (wellFormedRules cfg) hwf (h.notRecent key a hstored)).1
      have haccounts := recoverAssembly_accounts hstored hwf cfg
      split
      all_goals
        rename_i heq
        rw [heq] at hnext haccounts
        exact haccounts.trans_nil (ih hnext _)

theorem finalizeRecovered_accounts (h : WellFormedInv st) (nowNs : ℕ) (deferReadyPop : Bool)
    (sequences : List ℕ) :
    Accounts cfg st (finalizeRecovered env cfg nowNs deferReadyPop sequences st).1 [] := by
  induction sequences generalizing st with
  | nil => exact .refl cfg st
  | cons key rest ih =>
      unfold finalizeRecovered
      split
      · exact ih h
      rename_i a hstored
      split
      · exact ih h
      have hnext := (h.finalizeCompletedUdpFrame (wellFormedRules cfg)
        (h.assemblies key a hstored) env nowNs deferReadyPop).1
      have haccounts : Accounts cfg st (finalizeCompletedUdpFrame env cfg st key a nowNs
          deferReadyPop).1 [] :=
        finalizeCompletedUdpFrame_accounts hstored env nowNs deferReadyPop
      split
      · rename_i heq
        rw [heq] at haccounts
        exact haccounts
      · rename_i heq
        rw [heq] at hnext haccounts
        exact haccounts.trans_nil (ih hnext)

theorem finalizeRecoverableUdpFecFrames_accounts (h : WellFormedInv st) (nowNs : ℕ)
    (deferReadyPop : Bool) :
    Accounts cfg st (finalizeRecoverableUdpFecFrames env cfg st nowNs deferReadyPop).1 [] := by
  have hrecovered := h.recoverAssemblies (wellFormedRules cfg) st.udpAssemblies.keys []
  exact (recoverAssemblies_accounts h cfg _ []).trans_nil
    (finalizeRecovered_accounts hrecovered nowNs deferReadyPop _)

/-! ### Datagrams -/

/-- A data fragment is a duplicate or is no longer missing. -/
theorem receiveFragment_accounts {fragment : UdpFrameFragmentHeader} {a : UdpFrameAssembly}
    (hstored : st.udpAssemblies[fragment.frameSequence]? = some a)
    (hwf : a.WellFormed fragment.frameSequence)
    (hindex : fragment.fragmentIndex < a.fragmentCount) (cfg : ClientConfig) (body : Bytes)
    (nowNs : ℕ) :
    Accounts cfg st (receiveFragment st a fragment body nowNs).1 [] ∧
      (receiveFragment st a fragment body nowNs).1.udpAssemblies[fragment.frameSequence]? =
        some (receiveFragment st a fragment body nowNs).2 := by
  unfold receiveFragment
  simp only
  split
  · refine ⟨⟨by simp; rfl, ?_, ?_, fun _ => rfl⟩, hstored⟩
    · simp only [StreamClient.fragmentsAccounted, StreamClient.counts, List.sum_nil]
      omega
    · simp only [StreamClient.firstFragments, StreamClient.counts]
      omega
  · rename_i hnew
    rw [UdpFrameAssembly.getD_receivedFragments] at hnew
    have hplaced := hwf.missingCount_place hindex hnew fragment.fragmentOffset
      (body.length % 2 ^ 32) body false
    have hfewer : (storeFragment a fragment body nowNs).missingCount + 1 = a.missingCount :=
      hplaced
    obtain ⟨hsize, hsum⟩ := total_missingCount_insert hstored hfewer
    refine ⟨⟨?_, ?_, ?_, fun _ => rfl⟩, (OrdMap.getElem?_insert _ _ _ _).trans (if_pos rfl)⟩
    · simp only [StreamClient.framesAccounted, StreamClient.counts, StreamClient.check,
        List.length_nil]
      omega
    · simp only [StreamClient.fragmentsAccounted, StreamClient.counts, StreamClient.check,
        List.sum_nil]
      omega
    · simp only [StreamClient.firstFragments, StreamClient.counts, StreamClient.check]
      omega

theorem receiveFragment_wellFormed {fragment : UdpFrameFragmentHeader} {body : Bytes}
    {a : UdpFrameAssembly} (hwf : a.WellFormed fragment.frameSequence)
    (hvalid : ValidFragment fragment body)
    (hdata : fragment.fragmentRole = UdpFragmentRole.kData.code)
    (hcount : a.receivedFragments.length = fragment.fragmentCount)
    (hpayload : a.payload.length = fragment.framePayloadSize) (st : StreamClient)
    (nowNs : ℕ) :
    (receiveFragment st a fragment body nowNs).2.WellFormed fragment.frameSequence := by
  by_cases hhas : a.Has fragment.fragmentIndex
  · rw [(receiveFragment_duplicate hhas st body nowNs).1]
    exact hwf
  · rw [(receiveFragment_new hhas st body nowNs).1]
    exact hwf.storeFragment hvalid hdata hcount hpayload hhas nowNs

theorem recoverIfIncomplete_accounts {key : ℕ} {a : UdpFrameAssembly}
    (hstored : st.udpAssemblies[key]? = some a) (hwf : a.WellFormed key)
    (cfg : ClientConfig) :
    Accounts cfg st (recoverIfIncomplete cfg st key a).1 [] ∧
      (recoverIfIncomplete cfg st key a).1.udpAssemblies[key]? =
        some (recoverIfIncomplete cfg st key a).2 := by
  unfold recoverIfIncomplete
  split
  · refine ⟨recoverAssembly_accounts hstored hwf cfg, ?_⟩
    rcases recoverAssembly_cases cfg st key a with
      ⟨heq, hmap, -⟩ | ⟨missing, offset, size, bytes, -, -, heq, hmap⟩
    · simp only [heq, hmap, hstored]
    · simp only [heq, hmap]
      exact (OrdMap.getElem?_insert _ _ _ _).trans (if_pos rfl)
  · exact ⟨.refl cfg st, hstored⟩

theorem acceptDataFragment_accounts {fragment : UdpFrameFragmentHeader} {body : Bytes}
    {a : UdpFrameAssembly} (hstored : st.udpAssemblies[fragment.frameSequence]? = some a)
    (hwf : a.WellFormed fragment.frameSequence) (hvalid : ValidFragment fragment body)
    (hdata : fragment.fragmentRole = UdpFragmentRole.kData.code)
    (hcount : a.receivedFragments.length = fragment.fragmentCount)
    (hpayload : a.payload.length = fragment.framePayloadSize) (env : ClientEnv) (nowNs : ℕ)
    (deferReadyPop : Bool) :
    Accounts cfg st
      (acceptDataFragment env cfg st a fragment body nowNs deferReadyPop).1 [] := by
  obtain ⟨hreceived, hheld⟩ := receiveFragment_accounts hstored hwf
    ((hvalid.index_lt hdata).trans_eq hcount.symm) cfg body nowNs
  have hwf' := receiveFragment_wellFormed hwf hvalid hdata hcount hpayload st nowNs
  obtain ⟨hrecovered, hheld'⟩ := recoverIfIncomplete_accounts hheld hwf' cfg
  exact (hreceived.trans_nil hrecovered).trans_nil
    (finishIfComplete_accounts hheld' env nowNs deferReadyPop)

theorem missingCount_storeParity (cfg : ClientConfig) (a : UdpFrameAssembly) (body : Bytes)
    (nowNs : ℕ) : (storeParity cfg a body nowNs).missingCount = a.missingCount := by
  unfold storeParity
  split <;> rfl

theorem acceptParityFragment_accounts {sequence : ℕ} {a : UdpFrameAssembly}
    (hstored : st.udpAssemblies[sequence]? = some a) (env : ClientEnv) (body : Bytes)
    (nowNs : ℕ) (deferReadyPop : Bool) :
    Accounts cfg st
      (acceptParityFragment env cfg st a sequence body nowNs deferReadyPop).1 [] := by
  have hreplaced : Accounts cfg st { st with
      udpAssemblies := st.udpAssemblies.insert sequence (storeParity cfg a body nowNs) } [] :=
    .replace hstored (missingCount_storeParity cfg a body nowNs)
  rw [acceptParityFragment]
  refine Accounts.trans_nil ?_ (finishIfComplete_accounts
    ((OrdMap.getElem?_insert _ _ _ _).trans (if_pos rfl)) env nowNs deferReadyPop)
  exact { hreplaced with }

/-- Another layout: the assembly is counted as timed out. -/
theorem giveUpAssembly_accounts {sequence : ℕ} {a : UdpFrameAssembly}
    (hstored : st.udpAssemblies[sequence]? = some a) (cfg : ClientConfig) :
    Accounts cfg st (giveUpAssembly st sequence a) [] := by
  have hsize := OrdMap.total_erase hstored fun _ => 1
  have hsum := OrdMap.total_erase hstored UdpFrameAssembly.missingCount
  rw [OrdMap.total_one, OrdMap.total_one] at hsize
  rw [UdpFrameAssembly.missingCount] at hsum
  constructor
  case frames =>
    simp only [StreamClient.framesAccounted, StreamClient.counts, giveUpAssembly,
      forgetUdpAssembly, StreamClient.check, List.length_nil]
    omega
  case fragments =>
    simp only [StreamClient.fragmentsAccounted, StreamClient.counts, giveUpAssembly,
      forgetUdpAssembly, StreamClient.check, List.sum_nil]
    omega
  case first => exact le_rfl
  case playout => exact fun _ => rfl

/-- The first datagram of a frame sets its assembly up. -/
theorem storeUdpAssembly_accounts {sequence : ℕ} {a : UdpFrameAssembly}
    (hnew : st.udpAssemblies[sequence]? = none) (hcount : a.receivedFragmentCount = 0)
    (cfg : ClientConfig) :
    Accounts cfg st (storeUdpAssembly st sequence a) [a.fragmentCount] := by
  have hsize := OrdMap.total_insert hnew (fun _ => 1) a
  have hsum := OrdMap.total_insert hnew UdpFrameAssembly.missingCount a
  rw [OrdMap.total_one, OrdMap.total_one] at hsize
  have hmissing : a.missingCount = a.fragmentCount := by
    rw [UdpFrameAssembly.missingCount, hcount, Nat.sub_zero, UdpFrameAssembly.fragmentCount]
  constructor
  case frames =>
    simp only [StreamClient.framesAccounted, StreamClient.counts, storeUdpAssembly,
      List.length_singleton]
    omega
  case fragments =>
    simp only [StreamClient.fragmentsAccounted, StreamClient.counts, storeUdpAssembly,
      List.sum_singleton]
    omega
  case first => exact le_rfl
  case playout => exact fun _ => rfl

/-- The rest of the datagram, once its assembly is stored. -/
theorem acceptStored_accounts {fragment : UdpFrameFragmentHeader} {body : Bytes}
    {a : UdpFrameAssembly} (hstored : st.udpAssemblies[fragment.frameSequence]? = some a)
    (hwf : a.WellFormed fragment.frameSequence) (hvalid : ValidFragment fragment body)
    (hcount : a.receivedFragments.length = fragment.fragmentCount)
    (hpayload : a.payload.length = fragment.framePayloadSize) (env : ClientEnv) (nowNs : ℕ)
    (deferReadyPop : Bool) :
    Accounts cfg st
      (if fragment.fragmentRole = UdpFragmentRole.kXorParity.code then
        acceptParityFragment env cfg st a fragment.frameSequence body nowNs deferReadyPop
      else acceptDataFragment env cfg st a fragment body nowNs deferReadyPop).1 [] := by
  split
  · exact acceptParityFragment_accounts hstored env body nowNs deferReadyPop
  · rename_i hrole
    exact acceptDataFragment_accounts hstored hwf hvalid (hvalid.role.resolve_right hrole) hcount
      hpayload env nowNs deferReadyPop

theorem assembleFragment_accounts (h : WellFormedInv st) {fragment : UdpFrameFragmentHeader}
    {body : Bytes} (hvalid : ValidFragment fragment body) (env : ClientEnv)
    (header : MessageHeader) (nowNs : ℕ) (deferReadyPop : Bool) :
    Accounts cfg st
      (assembleFragment env cfg st header fragment body nowNs deferReadyPop).1
      (if fragment.frameSequence ∈ st.udpAssemblies then [] else [fragment.fragmentCount]) := by
  cases hstored : st.udpAssemblies[fragment.frameSequence]? with
  | none =>
      rw [if_neg (OrdMap.not_mem_iff.mpr hstored)]
      generalize hopen : openAssembly cfg none header fragment nowNs = a
      obtain ⟨hcount, hpayload⟩ : a.receivedFragments.length = fragment.fragmentCount ∧
          a.payload.length = fragment.framePayloadSize := by
        rw [← hopen]
        exact openAssembly_layout cfg header fragment nowNs
      have hwf : a.WellFormed fragment.frameSequence := by
        rw [← hopen]
        exact UdpFrameAssembly.WellFormed.opened hvalid cfg header nowNs
      have hzero : a.receivedFragmentCount = 0 := by
        rw [← hopen]
        rfl
      have hopened := storeUdpAssembly_accounts hstored hzero cfg
      rw [UdpFrameAssembly.fragmentCount, hcount] at hopened
      rw [← hstored] at hopen
      rw [assembleFragment_of_layout env hopen ⟨hcount, hpayload⟩]
      exact hopened.trans_nil (acceptStored_accounts (storeUdpAssembly_self _ _ _) hwf hvalid
        hcount hpayload env nowNs deferReadyPop)
  | some a =>
      rw [if_pos (OrdMap.mem_iff.mpr ⟨a, hstored⟩)]
      have hwf := h.assemblies _ a hstored
      have hopen : openAssembly cfg st.udpAssemblies[fragment.frameSequence]? header fragment
          nowNs = a := by
        rw [hstored, hwf.openAssembly_some]
      by_cases hlayout : a.receivedFragments.length = fragment.fragmentCount ∧
          a.payload.length = fragment.framePayloadSize
      · rw [assembleFragment_of_layout env hopen hlayout]
        have hreplaced : Accounts cfg st (storeUdpAssembly st fragment.frameSequence a) [] :=
          .replace hstored rfl
        exact hreplaced.trans_nil (acceptStored_accounts (storeUdpAssembly_self _ _ _) hwf
          hvalid hlayout.1 hlayout.2 env nowNs deferReadyPop)
      · unfold assembleFragment
        simp only [hopen]
        rw [if_pos (not_and_or.mp hlayout)]
        exact giveUpAssembly_accounts hstored cfg

/-! ### Assemblies that are set up -/

/-- The assembly that an operation sets up, given by its number of fragments. -/
def createdBy (cfg : ClientConfig) (st : StreamClient) (op : UdpOperation) : List ℕ :=
  (openingFragment cfg st op).toList.map UdpFrameFragmentHeader.fragmentCount

/-- All assemblies that a run sets up. -/
def createdIn (env : ClientEnv) (cfg : ClientConfig) : StreamClient → List UdpOperation → List ℕ
  | _, [] => []
  | st, op :: ops =>
      createdBy cfg st op ++ createdIn env cfg (runOperation env cfg st op).1 ops

theorem noteDatagram_accounts (cfg : ClientConfig) (st : StreamClient) (data : Bytes)
    (nowNs : ℕ) : Accounts cfg st (noteDatagram st data nowNs) [] :=
  { pruneExpiredUdpAssemblies_accounts cfg st nowNs with }

theorem processUdpDatagram_accounts (h : WellFormedInv st) (env : ClientEnv) (data : Bytes)
    (nowNs : ℕ) (deferReadyPop : Bool) :
    Accounts cfg st (processUdpDatagram env cfg st data nowNs deferReadyPop).1
      (createdBy cfg st (.processUdpDatagram data nowNs deferReadyPop)) := by
  have hnoted := noteDatagram_accounts cfg st data nowNs
  have hinv := h.noteDatagram (wellFormedRules cfg) data nowNs
  unfold processUdpDatagram createdBy openingFragment
  simp only
  cases hparse : parseUdpDatagram data with
  | none => exact { hnoted with }
  | some parts =>
      obtain ⟨header, fragment, body⟩ := parts
      simp only
      generalize noteDatagram st data nowNs = noted at hnoted hinv
      have hcore := shouldInjectUdpLoss_core cfg noted fragment
      have hinjected : Accounts cfg noted (shouldInjectUdpLoss cfg noted fragment).1 [] :=
        .of_counts (shouldInjectUdpLoss_counts cfg noted fragment) hcore
      have hinv' := hinv.of_core hcore
      have hset := congrArg ReceiverCore.recentlyCompletedUdpSequences hcore
      have hmap := congrArg ReceiverCore.udpAssemblies hcore
      simp only [StreamClient.core] at hset hmap
      unfold acceptFragment
      generalize shouldInjectUdpLoss cfg noted fragment = outcome at hinjected hinv' hset hmap
      obtain ⟨injected, dropped⟩ := outcome
      cases dropped with
      | true =>
          rw [if_pos (.inl rfl)]
          exact hnoted.trans_nil hinjected
      | false =>
          simp only [isRecentlyCompletedUdpFrameSequence, decide_eq_true_eq,
            Bool.false_eq_true, false_or]
          rw [← hset, ← hmap]
          have hready := hnoted.trans_nil hinjected
          by_cases hrecent : fragment.frameSequence ∈ injected.recentlyCompletedUdpSequences
          · rw [if_pos hrecent, if_pos (.inl hrecent)]
            exact { hready with }
          · rw [if_neg hrecent]
            simp only [hrecent, false_or]
            have hassembled : Accounts cfg injected (assembleFragment env cfg injected header
                fragment body nowNs deferReadyPop).1 _ :=
              assembleFragment_accounts hinv' (parseUdpDatagram_valid hparse) env header nowNs
                deferReadyPop
            split
            · rename_i hstored
              rw [if_pos hstored] at hassembled
              exact hready.nil_trans hassembled
            · rename_i hnew
              rw [if_neg hnew] at hassembled
              exact hready.nil_trans hassembled

theorem runOperation_accounts (h : WellFormedInv st) {op : UdpOperation}
    (hop : op ≠ .connect) (env : ClientEnv) :
    Accounts cfg st (runOperation env cfg st op).1 (createdBy cfg st op) := by
  cases op with
  | connect => exact absurd rfl hop
  | processUdpDatagram data nowNs deferReadyPop =>
      exact processUdpDatagram_accounts h env data nowNs deferReadyPop
  | finalizeRecoverableUdpFecFrames nowNs deferReadyPop =>
      exact finalizeRecoverableUdpFecFrames_accounts h nowNs deferReadyPop
  | tryPopReadyUdpFrame nowNs => exact tryPopReadyUdpFrame_accounts cfg st nowNs
  | pruneExpiredUdpAssemblies nowNs => exact pruneExpiredUdpAssemblies_accounts cfg st nowNs
  | maybeSendUdpNackRequests nowNs =>
      exact maybeSendUdpNackRequests_accounts env cfg st nowNs

theorem runOperations_accounts (h : st.Reachable env cfg) {ops : List UdpOperation}
    (hops : .connect ∉ ops) :
    Accounts cfg st (runOperations env cfg st ops).1 (createdIn env cfg st ops) := by
  induction ops generalizing st with
  | nil => exact .refl cfg st
  | cons op ops ih =>
      rw [List.mem_cons, not_or] at hops
      exact (runOperation_accounts h.receiverInv (Ne.symm hops.1) env).trans
        (ih (h.runOperation op) hops.2)

/-! ### The balances of a connection -/

/-- The counted missing fragments are those that have not arrived. -/
theorem UdpFrameAssembly.WellFormed.missingCount_eq {a : UdpFrameAssembly} {key : ℕ}
    (h : a.WellFormed key) : a.missingCount = a.missingFragments.length := by
  have hflags : (List.range a.receivedFragments.length).map
      (fun i => a.receivedFragments.getD i false) = a.receivedFragments := by
    apply List.ext_getElem
    · simp
    · intro i _ hi
      simp [List.getD_eq_getElem?_getD, List.getElem?_eq_getElem hi]
  have hmissing : a.missingFragments.length = a.receivedFragments.count false := by
    calc a.missingFragments.length
        = (List.range a.receivedFragments.length).countP
            fun i => !(a.receivedFragments.getD i false) := by
          rw [UdpFrameAssembly.missingFragments, List.countP_eq_length_filter]
      _ = ((List.range a.receivedFragments.length).map
            fun i => a.receivedFragments.getD i false).count false := by
          rw [List.count, List.countP_map]
          congr 1
          ext i
          simp
      _ = a.receivedFragments.count false := by rw [hflags]
  have hboth := List.count_false_add_count_true a.receivedFragments
  rw [hmissing, UdpFrameAssembly.missingCount, h.count]
  omega

/-- In every state of a connection, reached by any datagrams and operations: every
assembly that was set up is completed, timed out or still stored; every fragment of
theirs arrived as a first copy, was reconstructed, timed out or is still missing; and
with the jitter buffer on every completed frame was emitted, was dropped as a duplicate
or is buffered. -/
theorem runOperations_conserve (env : ClientEnv) (cfg : ClientConfig)
    (ops : List UdpOperation) (hops : .connect ∉ ops) (st : StreamClient)
    (hst : (runOperations env cfg (StreamClient.connected cfg) ops).1 = st) :
    (createdIn env cfg (StreamClient.connected cfg) ops).length =
        st.udpReceiveStats.completedFrames + st.udpReceiveStats.timedOutFrames +
          st.udpAssemblies.size ∧
      (createdIn env cfg (StreamClient.connected cfg) ops).sum =
        (st.udpReceiveStats.fragmentsReceived - st.udpReceiveStats.duplicateFragments) +
          st.udpReceiveStats.fecRecoveredFragments + st.udpReceiveStats.timedOutFragments +
          OrdMap.total st.udpAssemblies (fun a => a.missingFragments.length) ∧
      st.udpReceiveStats.duplicateFragments ≤ st.udpReceiveStats.fragmentsReceived ∧
      (cfg.udpJitterBufferEnabled = true →
        st.udpReceiveStats.completedFrames =
          st.udpReceiveStats.jitterBufferEmittedFrames +
            st.udpReceiveStats.jitterBufferDroppedFrames + st.udpJitterBuffer.size) := by
  have hreach : (StreamClient.connected cfg).Reachable env cfg := ⟨[], rfl⟩
  have haccounts := runOperations_accounts hreach hops
  have hinv := (hreach.runOperations ops).receiverInv
  rw [hst] at haccounts hinv
  have hmissing : OrdMap.total st.udpAssemblies UdpFrameAssembly.missingCount =
      OrdMap.total st.udpAssemblies fun a => a.missingFragments.length := by
    rw [OrdMap.total, OrdMap.total]
    congr 1
    refine List.map_congr_left fun e he => ?_
    exact (hinv.assemblies e.1 e.2 (OrdMap.mem_toList.mp he)).missingCount_eq
  have hframes := haccounts.frames
  have hfragments := haccounts.fragments
  have hfirst := haccounts.first
  have hplayout := haccounts.playout
  simp only [StreamClient.framesAccounted, StreamClient.fragmentsAccounted,
    StreamClient.firstFragments, StreamClient.framesUnplayed, StreamClient.counts, hmissing]
    at hframes hfragments hfirst hplayout
  -- a connection starts with empty maps and all counters at zero
  have hstart : (StreamClient.connected cfg).udpReceiveStats =
      { jitterBufferTargetDelayMs := (max cfg.udpJitterBufferTargetDelayMs 0 : ℤ) } := rfl
  have hempty : (StreamClient.connected cfg).udpAssemblies = ∅ := rfl
  have hemptyBuffer : (StreamClient.connected cfg).udpJitterBuffer = ∅ := rfl
  simp only [hstart, hempty, hemptyBuffer, OrdMap.total_empty, Std.ExtTreeMap.size_empty]
    at hframes hfragments hfirst hplayout
  refine ⟨by omega, by omega, by omega, fun hjitter => ?_⟩
  have hbalance := hplayout hjitter
  omega

/-- Five frames with nine fragments: three frames are completed, one of them is still
buffered, one timed out and one is stored; a fragment was reconstructed, one timed out and
one is missing. -/
theorem mixedRun_conserve :
    createdIn .idle {} (StreamClient.connected {}) mixedRun = [3, 2, 1, 2, 1] ∧
      (createdIn .idle {} (StreamClient.connected {}) mixedRun).length =
        mixedClient.udpReceiveStats.completedFrames + mixedClient.udpReceiveStats.timedOutFrames +
          mixedClient.udpAssemblies.size ∧
      (createdIn .idle {} (StreamClient.connected {}) mixedRun).sum =
        (mixedClient.udpReceiveStats.fragmentsReceived -
            mixedClient.udpReceiveStats.duplicateFragments) +
          mixedClient.udpReceiveStats.fecRecoveredFragments +
          mixedClient.udpReceiveStats.timedOutFragments +
          OrdMap.total mixedClient.udpAssemblies (fun a => a.missingFragments.length) ∧
      mixedClient.udpReceiveStats.duplicateFragments ≤
        mixedClient.udpReceiveStats.fragmentsReceived ∧
      mixedClient.udpReceiveStats.completedFrames =
        mixedClient.udpReceiveStats.jitterBufferEmittedFrames +
          mixedClient.udpReceiveStats.jitterBufferDroppedFrames +
          mixedClient.udpJitterBuffer.size :=
  have hconserve := runOperations_conserve .idle {} mixedRun (by decide) mixedClient rfl
  ⟨by decide +kernel, hconserve.1, hconserve.2.1, hconserve.2.2.1, hconserve.2.2.2 rfl⟩

end

end AvProject.Client
