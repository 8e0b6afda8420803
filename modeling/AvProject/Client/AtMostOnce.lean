import AvProject.Client.UdpRecoveryPass
import AvProject.Client.UdpRepresentation
import AvProject.Lib.RecentWindow

/-!
A frame is completed at most once within the deduplication window: a number that is
completed again has been pushed out of the window by 1024 others.
-/

namespace AvProject.Client

open AvProject.Lib AvProject.Protocol

theorem kRecentCompletedUdpSequenceWindow_pos : 0 < kRecentCompletedUdpSequenceWindow := by
  rw [kRecentCompletedUdpSequenceWindow]
  norm_num

/-! ### Frames retired one after the other -/

/-- The second log is the first one after the frames `completed` were retired, none of
which was remembered at that time. -/
structure CompletionLog.Extends (log : CompletionLog) (completed : List CompletedFrame)
    (log' : CompletionLog) : Prop where
  completed_eq : log'.completed = log.completed ++ completed
  accepts : Accepts kRecentCompletedUdpSequenceWindow log.recentlyCompletedUdpSequenceOrder
    (completed.map CompletedFrame.sequence) log'.recentlyCompletedUdpSequenceOrder

namespace CompletionLog

variable {log log' log'' : CompletionLog} {completed completed' : List CompletedFrame}

theorem Extends.refl (log : CompletionLog) : log.Extends [] log where
  completed_eq := (List.append_nil _).symm
  accepts := .nil _

theorem Extends.trans (h : log.Extends completed log') (h' : log'.Extends completed' log'') :
    log.Extends (completed ++ completed') log'' where
  completed_eq := by rw [h'.completed_eq, h.completed_eq, List.append_assoc]
  accepts := by
    rw [List.map_append]
    exact h.accepts.append h'.accepts

/-- Retiring a frame that is not remembered pushes its number into the window. -/
theorem Awaits.extends_retire {c : CompletedFrame} (h : log.Awaits c.sequence) :
    log.Extends [c] (log.retire c) where
  completed_eq := rfl
  accepts := by
    obtain ⟨hsame, hnodup⟩ := h.window.append_new h.notRecent
    have horder : (log.retire c).recentlyCompletedUdpSequenceOrder =
        pushRecent kRecentCompletedUdpSequenceWindow log.recentlyCompletedUdpSequenceOrder
          c.sequence := by
      rw [CompletionLog.retire, rememberInWindow, if_neg h.notRecent,
        (evictRecentlyCompleted_consistent hsame hnodup).2, pushRecent, List.length_append,
        List.length_singleton]
    have hnew := h.notRecent
    rw [h.window.same] at hnew
    rw [horder]
    exact .singleton hnew

/-- Two completions of one number are a window of other numbers apart. -/
theorem Extends.apart {earlier between later : List CompletedFrame} {first again : CompletedFrame}
    (h : log.Extends (earlier ++ first :: between ++ again :: later) log')
    (hlength : log.recentlyCompletedUdpSequenceOrder.length ≤ kRecentCompletedUdpSequenceWindow)
    (hagain : again.sequence = first.sequence) :
    1024 ≤ (between.filter fun c => decide (c.sequence ≠ first.sequence)).length := by
  have haccepts := h.accepts
  simp only [List.map_append, List.map_cons, hagain] at haccepts
  have hfar := haccepts.capacity_le_between kRecentCompletedUdpSequenceWindow_pos hlength
  rw [List.filter_map, List.length_map] at hfar
  exact hfar

end CompletionLog

section

variable {env : ClientEnv} {cfg : ClientConfig} {st : StreamClient}

/-! ### One datagram -/

theorem finishIfComplete_extends {st' : StreamClient} {key : ℕ}
    (hawaits : st.log.Awaits key) (hlog : st'.log = st.log) (a : UdpFrameAssembly)
    (nowNs : ℕ) (deferReadyPop : Bool) :
    ∃ completed, st.log.Extends completed
      (finishIfComplete env cfg st' key a nowNs deferReadyPop).1.log := by
  unfold finishIfComplete
  split
  · rename_i hcomplete
    rw [finalizeCompletedUdpFrame_log env cfg st' key hcomplete, hlog]
    exact ⟨_, CompletionLog.Awaits.extends_retire hawaits⟩
  · exact ⟨[], hlog ▸ .refl _⟩

theorem assembleFragment_extends {fragment : UdpFrameFragmentHeader}
    (hawaits : st.log.Awaits fragment.frameSequence) (header : MessageHeader) (body : Bytes)
    (nowNs : ℕ) (deferReadyPop : Bool) :
    ∃ completed, st.log.Extends completed
      (assembleFragment env cfg st header fragment body nowNs deferReadyPop).1.log := by
  unfold assembleFragment
  simp only
  split
  · exact ⟨[], .refl _⟩
  generalize openAssembly cfg st.udpAssemblies[fragment.frameSequence]? header fragment
    nowNs = a
  split
  · rw [acceptParityFragment]
    refine finishIfComplete_extends hawaits ?_ _ nowNs deferReadyPop
    rfl
  · -- storing the fragment and the recovery leave the log alone
    have hlog : (recoverIfIncomplete cfg
        (receiveFragment (storeUdpAssembly st fragment.frameSequence a) a fragment body
          nowNs).1 fragment.frameSequence
        (receiveFragment (storeUdpAssembly st fragment.frameSequence a) a fragment body
          nowNs).2).1.log = st.log := by
      rw [recoverIfIncomplete_log, receiveFragment_log, storeUdpAssembly_log]
    exact finishIfComplete_extends hawaits hlog _ nowNs deferReadyPop

theorem processUdpDatagram_extends (hwindow : WindowConsistent
      st.recentlyCompletedUdpSequenceOrder st.recentlyCompletedUdpSequences)
    (data : Bytes) (nowNs : ℕ) (deferReadyPop : Bool) :
    ∃ completed, st.log.Extends completed
      (processUdpDatagram env cfg st data nowNs deferReadyPop).1.log := by
  unfold processUdpDatagram
  simp only
  split
  · exact ⟨[], .refl _⟩
  rename_i header fragment body hparse
  have hlog := StreamClient.log_eq_of_core
    (shouldInjectUdpLoss_core cfg (noteDatagram st data nowNs) fragment)
  rw [noteDatagram_log] at hlog
  unfold acceptFragment
  split
  · rename_i st' heq
    rw [heq] at hlog
    exact ⟨[], hlog ▸ .refl _⟩
  · rename_i st' heq
    rw [heq] at hlog
    split
    · exact ⟨[], hlog ▸ .refl _⟩
    · rename_i hrecent
      rw [← hlog]
      refine assembleFragment_extends ⟨?_, ?_⟩ header body nowNs deferReadyPop
      · rw [hlog]
        exact hwindow
      · rw [isRecentlyCompletedUdpFrameSequence, decide_eq_true_eq] at hrecent
        exact hrecent

/-! ### The recovery pass -/

/-- An assembly that is stored is one of a frame that is not remembered. -/
theorem ReceiverInv.awaits {Φ : ℕ → UdpFrameAssembly → Prop} {Ω : CompletedFrame → Prop}
    {Ψ : ReceivedFrame → Prop} (h : ReceiverInv Φ Ω Ψ st) {key : ℕ} {a : UdpFrameAssembly}
    (hstored : st.udpAssemblies[key]? = some a) : st.log.Awaits key where
  window := h.window
  notRecent := h.notRecent key a hstored

theorem finalizeRecovered_extends
    (h : ReceiverInv (fun key a => a.WellFormed key) (fun _ => True) (fun _ => True) st)
    (nowNs : ℕ) (deferReadyPop : Bool) (sequences : List ℕ) :
    ∃ completed, st.log.Extends completed
      (finalizeRecovered env cfg nowNs deferReadyPop sequences st).1.log := by
  induction sequences generalizing st with
  | nil => exact ⟨[], .refl _⟩
  | cons key rest ih =>
      cases hstored : st.udpAssemblies[key]? with
      | none =>
          simp only [finalizeRecovered, hstored]
          exact ih h
      | some a =>
          by_cases hcomplete : a.complete = true
          · have hlog := finalizeCompletedUdpFrame_log env cfg st key hcomplete nowNs
              deferReadyPop
            have hnext := (h.finalizeCompletedUdpFrame (wellFormedRules cfg)
              (h.assemblies key a hstored) env nowNs deferReadyPop).1
            have hfirst : st.log.Extends _ (st.log.retire
                { sequence := key, assembly := a, frame := completedUdpFrame cfg a nowNs }) :=
              CompletionLog.Awaits.extends_retire (h.awaits hstored)
            rw [finalizeRecovered_cons env nowNs deferReadyPop hstored hcomplete]
            generalize finalizeCompletedUdpFrame env cfg st key a nowNs deferReadyPop =
              outcome at hlog hnext
            obtain ⟨st', frame⟩ := outcome
            simp only at hlog hnext
            rw [← hlog] at hfirst
            cases frame with
            | none =>
                obtain ⟨completed, hrest⟩ := ih hnext
                exact ⟨_, hfirst.trans hrest⟩
            | some frame => exact ⟨_, hfirst⟩
          · rw [UdpFrameAssembly.complete, beq_iff_eq] at hcomplete
            simp only [finalizeRecovered, hstored]
            rw [if_pos hcomplete]
            exact ih h

/-! ### Runs -/

theorem runOperation_extends (hreach : st.Reachable env cfg) {op : UdpOperation}
    (hop : op ≠ .connect) :
    ∃ completed, st.log.Extends completed (runOperation env cfg st op).1.log := by
  have hinv := hreach.receiverInv
  cases op with
  | connect => exact absurd rfl hop
  | processUdpDatagram data nowNs deferReadyPop =>
      exact processUdpDatagram_extends hinv.window data nowNs deferReadyPop
  | finalizeRecoverableUdpFecFrames nowNs deferReadyPop =>
      have hrecovered := hinv.recoverAssemblies (wellFormedRules cfg) st.udpAssemblies.keys []
      have hlog : (recoverAssemblies cfg st.udpAssemblies.keys st []).1.log = st.log :=
        recoveredState_log cfg st
      rw [← hlog]
      exact finalizeRecovered_extends hrecovered nowNs deferReadyPop _
  | tryPopReadyUdpFrame nowNs =>
      refine ⟨[], ?_⟩
      rw [runOperation, tryPopReadyUdpFrame_log]
      exact .refl _
  | pruneExpiredUdpAssemblies nowNs => exact ⟨[], .refl _⟩
  | maybeSendUdpNackRequests nowNs =>
      refine ⟨[], ?_⟩
      rw [runOperation, maybeSendUdpNackRequests_log]
      exact .refl _

theorem runOperations_extends (hreach : st.Reachable env cfg) {ops : List UdpOperation}
    (hops : .connect ∉ ops) :
    ∃ completed, st.log.Extends completed (runOperations env cfg st ops).1.log := by
  induction ops generalizing st with
  | nil => exact ⟨[], .refl _⟩
  | cons op ops ih =>
      obtain ⟨hop, hrest⟩ : op ≠ .connect ∧ .connect ∉ ops := by
        rw [List.mem_cons, not_or] at hops
        exact ⟨Ne.symm hops.1, hops.2⟩
      obtain ⟨first, hfirst⟩ := runOperation_extends hreach hop
      obtain ⟨rest, hrest⟩ := ih (hreach.runOperation op) hrest
      exact ⟨_, hfirst.trans hrest⟩

/-- From any reachable state on, and as long as there is no reconnection: between two
completions of one frame sequence number at least 1024 frames with other numbers are
completed. The set of remembered numbers holds exactly the elements of the order, which
are pairwise distinct and at most 1024, and no remembered frame has an assembly. -/
theorem runOperations_atMostOnce (env : ClientEnv) (cfg : ClientConfig) (st : StreamClient)
    (hreach : st.Reachable env cfg) (ops : List UdpOperation) (hops : .connect ∉ ops) :
    (∃ completed, (runOperations env cfg st ops).1.history.completed =
        st.history.completed ++ completed ∧
      ∀ earlier first between again later,
        completed = earlier ++ first :: between ++ again :: later →
        again.sequence = first.sequence →
        1024 ≤ (between.filter fun c => decide (c.sequence ≠ first.sequence)).length) ∧
    (∀ sequence,
      sequence ∈ (runOperations env cfg st ops).1.recentlyCompletedUdpSequences ↔
        sequence ∈ (runOperations env cfg st ops).1.recentlyCompletedUdpSequenceOrder) ∧
    (runOperations env cfg st ops).1.recentlyCompletedUdpSequenceOrder.Nodup ∧
    (runOperations env cfg st ops).1.recentlyCompletedUdpSequenceOrder.length ≤ 1024 ∧
    ∀ sequence ∈ (runOperations env cfg st ops).1.recentlyCompletedUdpSequences,
      sequence ∉ (runOperations env cfg st ops).1.udpAssemblies := by
  have hend := (hreach.runOperations ops).receiverInv
  refine ⟨?_, hend.window.same, hend.window.nodup, hend.window.length_le, ?_⟩
  · obtain ⟨completed, hextends⟩ := runOperations_extends hreach hops
    refine ⟨completed, hextends.completed_eq, ?_⟩
    rintro earlier first between again later rfl hagain
    exact hextends.apart hreach.receiverInv.window.length_le hagain
  · intro sequence hrecent hstored
    obtain ⟨a, ha⟩ := OrdMap.mem_iff.mp hstored
    exact hend.notRecent sequence a ha hrecent

/-- The datagrams of five frames come twice. -/
def repeatedClient : StreamClient :=
  (runOperations .idle {} (StreamClient.connected {}) (mixedRun ++ mixedRun)).1

theorem mixedRun_atMostOnce :
    repeatedClient.history.completed.map CompletedFrame.sequence = [1, 3, 5] ∧
      (∃ completed, repeatedClient.history.completed = [] ++ completed ∧
        ∀ earlier first between again later,
          completed = earlier ++ first :: between ++ again :: later →
          again.sequence = first.sequence →
          1024 ≤ (between.filter fun c => decide (c.sequence ≠ first.sequence)).length) ∧
      (∀ sequence, sequence ∈ repeatedClient.recentlyCompletedUdpSequences ↔
        sequence ∈ repeatedClient.recentlyCompletedUdpSequenceOrder) ∧
      repeatedClient.recentlyCompletedUdpSequenceOrder.Nodup ∧
      repeatedClient.recentlyCompletedUdpSequenceOrder.length ≤ 1024 ∧
      ∀ sequence ∈ repeatedClient.recentlyCompletedUdpSequences,
        sequence ∉ repeatedClient.udpAssemblies :=
  ⟨by decide +kernel, runOperations_atMostOnce .idle {} (StreamClient.connected {}) ⟨[], rfl⟩
    (mixedRun ++ mixedRun) (by decide)⟩

end

end AvProject.Client
