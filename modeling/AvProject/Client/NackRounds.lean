import AvProject.Client.UdpRepresentation
import AvProject.Client.UdpCompletion

/-!
When the receiver sends NACK requests: an operation is a sequence of quiet steps, which
neither send a request nor touch what is known about earlier ones, and of rounds of
requests, in the states that `nackRounds` lists.
-/

namespace AvProject.Client

open AvProject.Lib AvProject.Protocol

/-! ### Quiet steps -/

/-- What an assembly knows about the requests for it. -/
structure NackState where
  firstSeenTimestampNs : ℕ
  lastNackTimestampNs : ℕ
  nackAttempts : ℕ
  deriving DecidableEq, Repr

def UdpFrameAssembly.nackState (a : UdpFrameAssembly) : NackState where
  firstSeenTimestampNs := a.firstSeenTimestampNs
  lastNackTimestampNs := a.lastNackTimestampNs
  nackAttempts := a.nackAttempts

/-- An assembly that was set up at `nowNs`. -/
def NackState.opened (nowNs : ℕ) : NackState where
  firstSeenTimestampNs := nowNs
  lastNackTimestampNs := 0
  nackAttempts := 0

/-- The socket and the NACK datagrams handed to it. -/
structure NackView where
  socketOpen : Bool
  nackDatagrams : List NackSend

def StreamClient.nackView (st : StreamClient) : NackView where
  socketOpen := st.socketOpen
  nackDatagrams := st.history.nackDatagrams

/-- No request is sent; every assembly is one from before, or the one that was set up
under the number `opened`. -/
structure Quiet (nowNs : ℕ) (opened : Option ℕ) (st st' : StreamClient) : Prop where
  view : st'.nackView = st.nackView
  kept : ∀ (key : ℕ) a', st'.udpAssemblies[key]? = some a' → opened ≠ some key →
    ∃ a, st.udpAssemblies[key]? = some a ∧ a'.nackState = a.nackState
  fresh : ∀ (key : ℕ) a', st'.udpAssemblies[key]? = some a' → opened = some key →
    a'.nackState = .opened nowNs

section

variable {env : ClientEnv} {cfg : ClientConfig} {st st' st'' : StreamClient} {nowNs : ℕ}
  {opened : Option ℕ}

namespace Quiet

/-- Assemblies may disappear and change in everything else. -/
theorem of_kept (hview : st'.nackView = st.nackView)
    (hkept : ∀ (key : ℕ) a', st'.udpAssemblies[key]? = some a' →
      ∃ a, st.udpAssemblies[key]? = some a ∧ a'.nackState = a.nackState) :
    Quiet nowNs none st st' where
  view := hview
  kept key a' ha' _ := hkept key a' ha'
  fresh := by simp

theorem of_map (hview : st'.nackView = st.nackView)
    (hmap : st'.udpAssemblies = st.udpAssemblies) : Quiet nowNs none st st' :=
  of_kept hview fun _ a' ha' => ⟨a', hmap ▸ ha', rfl⟩

theorem refl (nowNs : ℕ) (st : StreamClient) : Quiet nowNs none st st := of_map rfl rfl

theorem replace (hview : st'.nackView = st.nackView) {key : ℕ} {a b : UdpFrameAssembly}
    (hstored : st.udpAssemblies[key]? = some a)
    (hmap : st'.udpAssemblies = st.udpAssemblies.insert key b)
    (hsame : b.nackState = a.nackState) : Quiet nowNs none st st' := by
  refine of_kept hview fun k c hc => ?_
  rw [hmap, OrdMap.getElem?_insert] at hc
  split at hc
  · rename_i heq
    obtain rfl := Option.some.inj hc
    exact ⟨a, heq ▸ hstored, hsame⟩
  · exact ⟨c, hc, rfl⟩

theorem erase (hview : st'.nackView = st.nackView) {key : ℕ}
    (hmap : st'.udpAssemblies = st.udpAssemblies.erase key) :
    Quiet nowNs none st st' := by
  refine of_kept hview fun k c hc => ?_
  rw [hmap, OrdMap.getElem?_erase] at hc
  split at hc
  · simp at hc
  · exact ⟨c, hc, rfl⟩

theorem trans (h : Quiet nowNs opened st st') (h' : Quiet nowNs none st' st'') :
    Quiet nowNs opened st st'' where
  view := h'.view.trans h.view
  kept := by
    intro key a'' ha'' hkey
    obtain ⟨a', ha', hsame'⟩ := h'.kept key a'' ha'' (by simp)
    obtain ⟨a, ha, hsame⟩ := h.kept key a' ha' hkey
    exact ⟨a, ha, hsame'.trans hsame⟩
  fresh := by
    intro key a'' ha'' hkey
    obtain ⟨a', ha', hsame'⟩ := h'.kept key a'' ha'' (by simp)
    exact hsame'.trans (h.fresh key a' ha' hkey)

theorem trans' (h : Quiet nowNs none st st') (h' : Quiet nowNs opened st' st'') :
    Quiet nowNs opened st st'' where
  view := h'.view.trans h.view
  kept := by
    intro key a'' ha'' hkey
    obtain ⟨a', ha', hsame'⟩ := h'.kept key a'' ha'' hkey
    obtain ⟨a, ha, hsame⟩ := h.kept key a' ha' (by simp)
    exact ⟨a, ha, hsame'.trans hsame⟩
  fresh := h'.fresh

end Quiet

/-! #### The jitter buffer and completion -/

@[simp] theorem currentJitterBufferTargetDelayNs_nackView (cfg : ClientConfig)
    (st : StreamClient) :
    (currentJitterBufferTargetDelayNs cfg st).2.nackView = st.nackView := by
  unfold currentJitterBufferTargetDelayNs
  cases cfg.udpJitterBufferStrategy <;> rfl

@[simp] theorem anchorJitterBuffer_nackView (st : StreamClient) (oldestSequence : ℕ) :
    (anchorJitterBuffer st oldestSequence).nackView = st.nackView := by
  unfold anchorJitterBuffer
  split <;> rfl

@[simp] theorem emitExpectedUdpFrame_nackView (cfg : ClientConfig) (st : StreamClient)
    (nowNs targetDelayNs : ℕ) (expected : BufferedUdpFrame) :
    (emitExpectedUdpFrame cfg st nowNs targetDelayNs expected).1.nackView = st.nackView := by
  simp only [emitExpectedUdpFrame]
  split <;> rfl

@[simp] theorem tryPopReadyUdpFrame_nackView (cfg : ClientConfig) (st : StreamClient)
    (nowNs : ℕ) : (tryPopReadyUdpFrame cfg st nowNs).1.nackView = st.nackView := by
  exact tryPopReadyUdpFrame_kept (currentJitterBufferTargetDelayNs_nackView cfg)
    anchorJitterBuffer_nackView (fun _ _ => rfl)
    (fun st => emitExpectedUdpFrame_nackView cfg st nowNs) st

@[simp] theorem onCompletedUdpFrame_nackView (st : StreamClient) (frame : ReceivedFrame)
    (nowNs : ℕ) : (onCompletedUdpFrame st frame nowNs).nackView = st.nackView := by
  simp only [onCompletedUdpFrame]
  split
  · rfl
  · split <;> rfl

@[simp] theorem retireCompletedUdpFrame_nackView (st : StreamClient) (key : ℕ)
    (a : UdpFrameAssembly) (frame : ReceivedFrame) (nowNs : ℕ) :
    (retireCompletedUdpFrame st key a frame nowNs).nackView = st.nackView :=
  (onCompletedUdpFrame_nackView (countCompletedUdpFrame st key a frame) frame nowNs).trans rfl

@[simp] theorem bufferCompletedUdpFrame_nackView (st : StreamClient) (frame : ReceivedFrame) :
    (bufferCompletedUdpFrame st frame).nackView = st.nackView := by
  unfold bufferCompletedUdpFrame
  split <;> rfl

theorem tryPopReadyUdpFrame_quiet (cfg : ClientConfig) (st : StreamClient) (nowNs : ℕ) :
    Quiet nowNs none st (tryPopReadyUdpFrame cfg st nowNs).1 :=
  .of_map (tryPopReadyUdpFrame_nackView cfg st nowNs)
    (tryPopReadyUdpFrame_udpAssemblies cfg st nowNs)

/-- A finished frame leaves the map; nothing else is said while the pop is deferred. -/
theorem finalizeCompletedUdpFrame_quiet (env : ClientEnv) (cfg : ClientConfig)
    (st : StreamClient) (key : ℕ) (a : UdpFrameAssembly) (nowNs : ℕ) :
    Quiet nowNs none st (finalizeCompletedUdpFrame env cfg st key a nowNs true).1 := by
  have hretired : Quiet nowNs none st
      (retireCompletedUdpFrame st key a (completedUdpFrame cfg a nowNs) nowNs) :=
    .erase (retireCompletedUdpFrame_nackView ..) (retireCompletedUdpFrame_udpAssemblies ..)
  unfold finalizeCompletedUdpFrame
  split
  · exact .refl nowNs st
  simp only
  split
  · exact hretired
  · exact hretired.trans (.of_map (bufferCompletedUdpFrame_nackView ..)
      (bufferCompletedUdpFrame_udpAssemblies ..))

/-! #### Datagrams -/

@[simp] theorem shouldInjectUdpLoss_nackView (cfg : ClientConfig) (st : StreamClient)
    (fragment : UdpFrameFragmentHeader) :
    (shouldInjectUdpLoss cfg st fragment).1.nackView = st.nackView := by
  obtain ⟨_, _, _, heq⟩ := shouldInjectUdpLoss_eq cfg st fragment
  rw [heq]
  rfl

theorem pruneExpiredUdpAssemblies_quiet (st : StreamClient) (nowNs : ℕ) :
    Quiet nowNs none st (pruneExpiredUdpAssemblies st nowNs) := by
  refine .of_kept rfl fun key a ha => ?_
  have hfilter : (st.udpAssemblies.filter fun _ a => !a.expired nowNs)[key]? = some a := ha
  rw [OrdMap.getElem?_filter] at hfilter
  exact ⟨a, (Option.filter_eq_some_iff.mp hfilter).1, rfl⟩

theorem noteDatagram_quiet (st : StreamClient) (data : Bytes) (nowNs : ℕ) :
    Quiet nowNs none st (noteDatagram st data nowNs) :=
  (pruneExpiredUdpAssemblies_quiet st nowNs).trans (.of_map rfl rfl)

theorem recoverAssembly_quiet {key : ℕ} {a : UdpFrameAssembly}
    (hstored : st.udpAssemblies[key]? = some a) (cfg : ClientConfig) (nowNs : ℕ) :
    Quiet nowNs none st (recoverAssembly cfg st key a).1 ∧
      (recoverAssembly cfg st key a).1.udpAssemblies[key]? =
        some (recoverAssembly cfg st key a).2.1 := by
  have hview : (recoverAssembly cfg st key a).1.nackView = st.nackView := by
    simp only [recoverAssembly]
    split <;> rfl
  rcases recoverAssembly_cases cfg st key a with
    ⟨heq, hmap, -⟩ | ⟨missing, offset, size, bytes, -, -, heq, hmap⟩
  · rw [heq, hmap]
    exact ⟨.of_map hview hmap, hstored⟩
  · rw [heq, hmap]
    exact ⟨.replace hview hstored hmap rfl,
      (OrdMap.getElem?_insert _ _ _ _).trans (if_pos rfl)⟩

theorem recoverAssemblies_quiet (cfg : ClientConfig) (nowNs : ℕ) (keys recovered : List ℕ)
    (st : StreamClient) : Quiet nowNs none st (recoverAssemblies cfg keys st recovered).1 := by
  induction keys generalizing st recovered with
  | nil => exact .refl nowNs st
  | cons key keys ih =>
      unfold recoverAssemblies
      split
      · exact ih recovered st
      rename_i a hstored
      split
      · exact ih recovered st
      have hquiet := (recoverAssembly_quiet hstored cfg nowNs).1
      split
      all_goals
        rename_i heq
        rw [heq] at hquiet
        exact hquiet.trans (ih _ _)

theorem finishIfComplete_quiet (env : ClientEnv) (cfg : ClientConfig) (st : StreamClient)
    (key : ℕ) (a : UdpFrameAssembly) (nowNs : ℕ) :
    Quiet nowNs none st (finishIfComplete env cfg st key a nowNs true).1 := by
  unfold finishIfComplete
  split
  · exact finalizeCompletedUdpFrame_quiet env cfg st key a nowNs
  · exact .refl nowNs st

theorem receiveFragment_quiet {fragment : UdpFrameFragmentHeader} {a : UdpFrameAssembly}
    (hstored : st.udpAssemblies[fragment.frameSequence]? = some a) (body : Bytes)
    (nowNs : ℕ) :
    Quiet nowNs none st (receiveFragment st a fragment body nowNs).1 ∧
      (receiveFragment st a fragment body nowNs).1.udpAssemblies[fragment.frameSequence]? =
        some (receiveFragment st a fragment body nowNs).2 := by
  unfold receiveFragment
  simp only
  split
  · exact ⟨.of_map rfl rfl, hstored⟩
  · exact ⟨.replace rfl hstored rfl rfl,
      (OrdMap.getElem?_insert _ _ _ _).trans (if_pos rfl)⟩

theorem recoverIfIncomplete_quiet {key : ℕ} {a : UdpFrameAssembly}
    (hstored : st.udpAssemblies[key]? = some a) (cfg : ClientConfig) (nowNs : ℕ) :
    Quiet nowNs none st (recoverIfIncomplete cfg st key a).1 := by
  unfold recoverIfIncomplete
  split
  · exact (recoverAssembly_quiet hstored cfg nowNs).1
  · exact .refl nowNs st

theorem acceptDataFragment_quiet {fragment : UdpFrameFragmentHeader} {a : UdpFrameAssembly}
    (hstored : st.udpAssemblies[fragment.frameSequence]? = some a) (env : ClientEnv)
    (cfg : ClientConfig) (body : Bytes) (nowNs : ℕ) :
    Quiet nowNs none st (acceptDataFragment env cfg st a fragment body nowNs true).1 := by
  obtain ⟨hreceived, hheld⟩ := receiveFragment_quiet hstored body nowNs
  have hrecovered := recoverIfIncomplete_quiet hheld cfg nowNs
  exact (hreceived.trans hrecovered).trans (finishIfComplete_quiet env cfg _ _ _ nowNs)

theorem acceptParityFragment_quiet {sequence : ℕ} {a : UdpFrameAssembly}
    (hstored : st.udpAssemblies[sequence]? = some a) (env : ClientEnv) (cfg : ClientConfig)
    (body : Bytes) (nowNs : ℕ) :
    Quiet nowNs none st (acceptParityFragment env cfg st a sequence body nowNs true).1 := by
  rw [acceptParityFragment]
  refine Quiet.trans ?_ (finishIfComplete_quiet env cfg _ _ _ nowNs)
  refine .replace rfl hstored rfl ?_
  unfold storeParity
  split <;> rfl

/-- The rest of the datagram, once its assembly is stored. -/
theorem acceptStored_quiet {fragment : UdpFrameFragmentHeader} {a : UdpFrameAssembly}
    (hstored : st.udpAssemblies[fragment.frameSequence]? = some a) (env : ClientEnv)
    (cfg : ClientConfig) (body : Bytes) (nowNs : ℕ) :
    Quiet nowNs none st
      (if fragment.fragmentRole = UdpFragmentRole.kXorParity.code then
        acceptParityFragment env cfg st a fragment.frameSequence body nowNs true
      else acceptDataFragment env cfg st a fragment body nowNs true).1 := by
  split
  · exact acceptParityFragment_quiet hstored env cfg body nowNs
  · exact acceptDataFragment_quiet hstored env cfg body nowNs

theorem assembleFragment_quiet
    (hwf : ∀ (key : ℕ) a, st.udpAssemblies[key]? = some a → a.WellFormed key)
    (fragment : UdpFrameFragmentHeader) (env : ClientEnv) (cfg : ClientConfig)
    (header : MessageHeader) (body : Bytes) (nowNs : ℕ) :
    Quiet nowNs
      (if fragment.frameSequence ∈ st.udpAssemblies then none else some fragment.frameSequence)
      st (assembleFragment env cfg st header fragment body nowNs true).1 := by
  cases hstored : st.udpAssemblies[fragment.frameSequence]? with
  | none =>
      rw [if_neg (OrdMap.not_mem_iff.mpr hstored)]
      generalize hopen : openAssembly cfg none header fragment nowNs = a
      have hlayout : a.receivedFragments.length = fragment.fragmentCount ∧
          a.payload.length = fragment.framePayloadSize := by
        rw [← hopen]
        exact openAssembly_layout cfg header fragment nowNs
      have hstate : a.nackState = .opened nowNs := by
        rw [← hopen]
        rfl
      rw [← hstored] at hopen
      rw [assembleFragment_of_layout env hopen hlayout]
      have hopened : Quiet nowNs (some fragment.frameSequence) st
          (storeUdpAssembly st fragment.frameSequence a) := by
        refine ⟨rfl, fun key b hb hne => ⟨b, ?_, rfl⟩, fun key b hb heq => ?_⟩
        · rw [storeUdpAssembly, OrdMap.getElem?_insert,
            if_neg (fun h => hne (congrArg some h))] at hb
          exact hb
        · rw [storeUdpAssembly, OrdMap.getElem?_insert, if_pos (Option.some.inj heq)] at hb
          rw [← Option.some.inj hb, hstate]
      exact hopened.trans (acceptStored_quiet (storeUdpAssembly_self _ _ _) env cfg body nowNs)
  | some a =>
      rw [if_pos (OrdMap.mem_iff.mpr ⟨a, hstored⟩)]
      have hopen : openAssembly cfg st.udpAssemblies[fragment.frameSequence]? header fragment
          nowNs = a := by
        rw [hstored, (hwf _ a hstored).openAssembly_some]
      by_cases hlayout : a.receivedFragments.length = fragment.fragmentCount ∧
          a.payload.length = fragment.framePayloadSize
      · rw [assembleFragment_of_layout env hopen hlayout]
        have hsame : Quiet nowNs none st (storeUdpAssembly st fragment.frameSequence a) :=
          .replace rfl hstored rfl rfl
        exact hsame.trans (acceptStored_quiet (storeUdpAssembly_self _ _ _) env cfg body nowNs)
      · unfold assembleFragment
        simp only [hopen]
        rw [if_pos (not_and_or.mp hlayout)]
        exact .erase rfl rfl

/-- While the pop is deferred a datagram is quiet. -/
theorem processUdpDatagram_quiet
    (h : ReceiverInv (fun key a => a.WellFormed key) (fun _ => True) (fun _ => True) st)
    (env : ClientEnv) (cfg : ClientConfig) (data : Bytes) (nowNs : ℕ) (deferReadyPop : Bool) :
    Quiet nowNs
      ((openingFragment cfg st (.processUdpDatagram data nowNs deferReadyPop)).map
        UdpFrameFragmentHeader.frameSequence)
      st (processUdpDatagram env cfg st data nowNs true).1 := by
  have hnoted := noteDatagram_quiet st data nowNs
  have hwf := (h.noteDatagram (wellFormedRules cfg) data nowNs).assemblies
  unfold processUdpDatagram openingFragment
  simp only
  cases hparse : parseUdpDatagram data with
  | none => exact hnoted.trans (.of_map rfl rfl)
  | some parts =>
      obtain ⟨header, fragment, body⟩ := parts
      simp only
      generalize noteDatagram st data nowNs = noted at hnoted hwf
      have hcore := shouldInjectUdpLoss_core cfg noted fragment
      have hview := shouldInjectUdpLoss_nackView cfg noted fragment
      have hset := congrArg ReceiverCore.recentlyCompletedUdpSequences hcore
      have hmap := congrArg ReceiverCore.udpAssemblies hcore
      simp only [StreamClient.core] at hset hmap
      unfold acceptFragment
      generalize shouldInjectUdpLoss cfg noted fragment = outcome at hview hset hmap
      obtain ⟨injected, dropped⟩ := outcome
      simp only at hview hset hmap
      have hready := hnoted.trans (.of_map hview hmap)
      cases dropped with
      | true =>
          rw [if_pos (.inl rfl)]
          exact hready
      | false =>
          simp only [isRecentlyCompletedUdpFrameSequence, decide_eq_true_eq,
            Bool.false_eq_true, false_or]
          rw [← hset, ← hmap]
          by_cases hrecent : fragment.frameSequence ∈ injected.recentlyCompletedUdpSequences
          · rw [if_pos hrecent, if_pos (.inl hrecent)]
            exact hready.trans (.of_map rfl rfl)
          · rw [if_neg hrecent]
            simp only [hrecent, false_or]
            rw [← hmap] at hwf
            have hassembled := assembleFragment_quiet hwf fragment env cfg header body nowNs
            split
            · rename_i hstored
              rw [if_pos hstored] at hassembled
              exact hready.trans hassembled
            · rename_i hnew
              rw [if_neg hnew] at hassembled
              exact hready.trans' hassembled

/-! ### Rounds -/

/-- The call that led from `st` to `st'` finished a frame for the jitter buffer. -/
def FinishedForBuffer (cfg : ClientConfig) (st st' : StreamClient) : Prop :=
  cfg.udpJitterBufferEnabled = true ∧ st.log.completed.length < st'.log.completed.length

instance (cfg : ClientConfig) (st st' : StreamClient) :
    Decidable (FinishedForBuffer cfg st st') :=
  inferInstanceAs (Decidable (_ ∧ _))

/-- What a call does after the point up to which it can be deferred: once a frame is
finished, a round of requests and the pop. -/
def sendAndPop (env : ClientEnv) (cfg : ClientConfig) (nowNs : ℕ) (st : StreamClient)
    (deferred : StreamClient × Option ReceivedFrame) : StreamClient × Option ReceivedFrame :=
  if FinishedForBuffer cfg st deferred.1 then
    tryPopReadyUdpFrame cfg (maybeSendUdpNackRequests env cfg deferred.1 nowNs) nowNs
  else deferred

theorem sendAndPop_congr (hlog : st'.log = st.log)
    (deferred : StreamClient × Option ReceivedFrame) :
    sendAndPop env cfg nowNs st' deferred = sendAndPop env cfg nowNs st deferred := by
  have hsame : FinishedForBuffer cfg st' deferred.1 ↔ FinishedForBuffer cfg st deferred.1 := by
    rw [FinishedForBuffer, FinishedForBuffer, hlog]
  exact if_congr hsame rfl rfl

theorem finalizeCompletedUdpFrame_sendAndPop (env : ClientEnv) (cfg : ClientConfig)
    (st : StreamClient) (key : ℕ) (a : UdpFrameAssembly) (nowNs : ℕ) :
    finalizeCompletedUdpFrame env cfg st key a nowNs false =
      sendAndPop env cfg nowNs st (finalizeCompletedUdpFrame env cfg st key a nowNs true) := by
  unfold sendAndPop
  by_cases hcount : a.receivedFragmentCount = a.receivedFragments.length
  · have hlog := finalizeCompletedUdpFrame_log env cfg st key (beq_iff_eq.mpr hcount) nowNs true
    have hgrow : st.log.completed.length <
        (finalizeCompletedUdpFrame env cfg st key a nowNs true).1.log.completed.length := by
      simp [hlog, CompletionLog.retire]
    by_cases hjitter : cfg.udpJitterBufferEnabled = true
    · rw [if_pos ⟨hjitter, hgrow⟩]
      simp [finalizeCompletedUdpFrame, hcount, hjitter]
    · rw [if_neg fun h => hjitter h.1]
      simp [finalizeCompletedUdpFrame, hcount, hjitter]
  · simp [finalizeCompletedUdpFrame, FinishedForBuffer, hcount]

theorem finishIfComplete_sendAndPop (hlog : st'.log = st.log) (env : ClientEnv)
    (cfg : ClientConfig) (key : ℕ) (a : UdpFrameAssembly) (nowNs : ℕ) :
    finishIfComplete env cfg st' key a nowNs false =
      sendAndPop env cfg nowNs st (finishIfComplete env cfg st' key a nowNs true) := by
  rw [← sendAndPop_congr hlog]
  unfold finishIfComplete
  split
  · exact finalizeCompletedUdpFrame_sendAndPop env cfg st' key a nowNs
  · simp [sendAndPop, FinishedForBuffer]

/-- Only the end of a datagram depends on whether the pop is deferred. -/
theorem assembleFragment_sendAndPop (hlog : st'.log = st.log) (env : ClientEnv)
    (cfg : ClientConfig) (header : MessageHeader) (fragment : UdpFrameFragmentHeader)
    (body : Bytes) (nowNs : ℕ) :
    assembleFragment env cfg st' header fragment body nowNs false =
      sendAndPop env cfg nowNs st
        (assembleFragment env cfg st' header fragment body nowNs true) := by
  unfold assembleFragment
  simp only
  generalize openAssembly cfg st'.udpAssemblies[fragment.frameSequence]? header fragment
    nowNs = a
  split
  · have hsame : (giveUpAssembly st' fragment.frameSequence a).log = st'.log := rfl
    simp [sendAndPop, FinishedForBuffer, hsame, hlog]
  split
  · refine finishIfComplete_sendAndPop ?_ env cfg _ _ nowNs
    exact hlog
  · -- storing the fragment and the recovery leave the log alone
    have hstored : (recoverIfIncomplete cfg
        (receiveFragment (storeUdpAssembly st' fragment.frameSequence a) a fragment body
          nowNs).1 fragment.frameSequence
        (receiveFragment (storeUdpAssembly st' fragment.frameSequence a) a fragment body
          nowNs).2).1.log = st.log := by
      rw [recoverIfIncomplete_log, receiveFragment_log, storeUdpAssembly_log, hlog]
    exact finishIfComplete_sendAndPop hstored env cfg _ _ nowNs

theorem processUdpDatagram_sendAndPop (env : ClientEnv) (cfg : ClientConfig)
    (st : StreamClient) (data : Bytes) (nowNs : ℕ) :
    processUdpDatagram env cfg st data nowNs false =
      sendAndPop env cfg nowNs st (processUdpDatagram env cfg st data nowNs true) := by
  have hnothing (st₁ : StreamClient) (hsame : st₁.log = st.log) :
      (st₁, none) = sendAndPop env cfg nowNs st (st₁, none) := by
    simp [sendAndPop, FinishedForBuffer, hsame]
  unfold processUdpDatagram
  simp only
  split
  · exact hnothing _ rfl
  rename_i header fragment body _
  have hlog := StreamClient.log_eq_of_core
    (shouldInjectUdpLoss_core cfg (noteDatagram st data nowNs) fragment)
  rw [noteDatagram_log] at hlog
  unfold acceptFragment
  generalize shouldInjectUdpLoss cfg (noteDatagram st data nowNs) fragment = outcome at hlog
  obtain ⟨injected, dropped⟩ := outcome
  simp only at hlog
  cases dropped with
  | true => exact hnothing injected hlog
  | false =>
      simp only
      split
      · exact hnothing _ hlog
      · exact assembleFragment_sendAndPop hlog env cfg header fragment body nowNs

/-- The states in which the second loop of `finalizeRecoverableUdpFecFrames` sends
requests. -/
def recoveredRounds (env : ClientEnv) (cfg : ClientConfig) (nowNs : ℕ) :
    List ℕ → StreamClient → List StreamClient
  | [], _ => []
  | sequence :: rest, st =>
      match st.udpAssemblies[sequence]? with
      | none => recoveredRounds env cfg nowNs rest st
      | some a =>
          if a.receivedFragmentCount ≠ a.receivedFragments.length then
            recoveredRounds env cfg nowNs rest st
          else
            let deferred := finalizeCompletedUdpFrame env cfg st sequence a nowNs true
            let rounds := if FinishedForBuffer cfg st deferred.1 then [deferred.1] else []
            match finalizeCompletedUdpFrame env cfg st sequence a nowNs false with
            | (_, some _) => rounds
            | (st, none) => rounds ++ recoveredRounds env cfg nowNs rest st

/-- The states in which an operation sends requests. -/
def nackRounds (env : ClientEnv) (cfg : ClientConfig) (st : StreamClient) :
    UdpOperation → List StreamClient
  | .processUdpDatagram data nowNs false =>
      let deferred := (processUdpDatagram env cfg st data nowNs true).1
      if FinishedForBuffer cfg st deferred then [deferred] else []
  | .finalizeRecoverableUdpFecFrames nowNs false =>
      let outcome := recoverAssemblies cfg st.udpAssemblies.keys st []
      recoveredRounds env cfg nowNs outcome.2 outcome.1
  | .maybeSendUdpNackRequests _ => [st]
  | _ => []

/-- Quiet steps and rounds, the rounds in the states of the list. -/
inductive Rounds (env : ClientEnv) (cfg : ClientConfig) (nowNs : ℕ) :
    StreamClient → List StreamClient → StreamClient → Prop
  | quiet {st st' : StreamClient} (h : Quiet nowNs none st st') :
      Rounds env cfg nowNs st [] st'
  | round {st st₁ st' : StreamClient} {rounds : List StreamClient}
      (h : Quiet nowNs none st st₁)
      (rest : Rounds env cfg nowNs (maybeSendUdpNackRequests env cfg st₁ nowNs) rounds st') :
      Rounds env cfg nowNs st (st₁ :: rounds) st'

namespace Rounds

variable {rounds rounds' : List StreamClient}

theorem after_quiet (h : Quiet nowNs none st st') (h' : Rounds env cfg nowNs st' rounds st'') :
    Rounds env cfg nowNs st rounds st'' := by
  cases h' with
  | quiet hquiet => exact .quiet (h.trans hquiet)
  | round hquiet rest => exact .round (h.trans hquiet) rest

theorem trans (h : Rounds env cfg nowNs st rounds st')
    (h' : Rounds env cfg nowNs st' rounds' st'') :
    Rounds env cfg nowNs st (rounds ++ rounds') st'' := by
  induction h with
  | quiet hquiet => exact after_quiet hquiet h'
  | round hquiet _ ih => exact .round hquiet (ih h')

theorem sendAndPop (env : ClientEnv) (cfg : ClientConfig) (nowNs : ℕ) (st : StreamClient)
    (deferred : StreamClient × Option ReceivedFrame) :
    Rounds env cfg nowNs deferred.1
      (if FinishedForBuffer cfg st deferred.1 then [deferred.1] else [])
      (Client.sendAndPop env cfg nowNs st deferred).1 := by
  unfold Client.sendAndPop
  split
  · exact .round (.refl nowNs _) (.quiet (tryPopReadyUdpFrame_quiet cfg _ nowNs))
  · exact .quiet (.refl nowNs _)

end Rounds

theorem finalizeRecovered_quiet (env : ClientEnv) (cfg : ClientConfig) (nowNs : ℕ)
    (sequences : List ℕ) (st : StreamClient) :
    Quiet nowNs none st (finalizeRecovered env cfg nowNs true sequences st).1 := by
  induction sequences generalizing st with
  | nil => exact .refl nowNs st
  | cons sequence rest ih =>
      unfold finalizeRecovered
      split
      · exact ih st
      rename_i a _
      split
      · exact ih st
      have hquiet := finalizeCompletedUdpFrame_quiet env cfg st sequence a nowNs
      split
      · rename_i heq
        rw [heq] at hquiet
        exact hquiet
      · rename_i heq
        rw [heq] at hquiet
        exact hquiet.trans (ih _)

theorem finalizeRecovered_rounds (env : ClientEnv) (cfg : ClientConfig) (nowNs : ℕ)
    (sequences : List ℕ) (st : StreamClient) :
    Rounds env cfg nowNs st (recoveredRounds env cfg nowNs sequences st)
      (finalizeRecovered env cfg nowNs false sequences st).1 := by
  induction sequences generalizing st with
  | nil => exact .quiet (.refl nowNs st)
  | cons sequence rest ih =>
      cases hstored : st.udpAssemblies[sequence]? with
      | none =>
          simp only [finalizeRecovered, recoveredRounds, hstored]
          exact ih st
      | some a =>
          simp only [finalizeRecovered, recoveredRounds, hstored]
          by_cases hcount : a.receivedFragmentCount ≠ a.receivedFragments.length
          · rw [if_pos hcount, if_pos hcount]
            exact ih st
          rw [if_neg hcount, if_neg hcount]
          have hquiet := finalizeCompletedUdpFrame_quiet env cfg st sequence a nowNs
          have hfirst := Rounds.after_quiet hquiet (Rounds.sendAndPop env cfg nowNs st
            (finalizeCompletedUdpFrame env cfg st sequence a nowNs true))
          rw [← finalizeCompletedUdpFrame_sendAndPop] at hfirst
          generalize finalizeCompletedUdpFrame env cfg st sequence a nowNs false =
            outcome at hfirst
          obtain ⟨st', frame⟩ := outcome
          cases frame with
          | none => exact hfirst.trans (ih st')
          | some frame => exact hfirst

/-! ### Operations -/

/-- The time that an operation is given. -/
def UdpOperation.nowNs? : UdpOperation → Option ℕ
  | .connect => none
  | .processUdpDatagram _ nowNs _ => some nowNs
  | .finalizeRecoverableUdpFecFrames nowNs _ => some nowNs
  | .tryPopReadyUdpFrame nowNs => some nowNs
  | .pruneExpiredUdpAssemblies nowNs => some nowNs
  | .maybeSendUdpNackRequests nowNs => some nowNs

/-- An operation is a quiet step, which may set up an assembly, and then rounds of requests
with quiet steps between them. -/
theorem runOperation_rounds
    (h : ReceiverInv (fun key a => a.WellFormed key) (fun _ => True) (fun _ => True) st)
    (env : ClientEnv) (cfg : ClientConfig) {op : UdpOperation}
    (htime : op.nowNs? = some nowNs) :
    ∃ st₁, Quiet nowNs ((openingFragment cfg st op).map UdpFrameFragmentHeader.frameSequence)
        st st₁ ∧
      Rounds env cfg nowNs st₁ (nackRounds env cfg st op) (runOperation env cfg st op).1 := by
  cases op with
  | connect => simp [UdpOperation.nowNs?] at htime
  | processUdpDatagram data t deferReadyPop =>
      obtain rfl := Option.some.inj htime
      refine ⟨_, processUdpDatagram_quiet h env cfg data t deferReadyPop, ?_⟩
      cases deferReadyPop with
      | true => exact .quiet (.refl t _)
      | false =>
          have hrounds := Rounds.sendAndPop env cfg t st
            (processUdpDatagram env cfg st data t true)
          rwa [← processUdpDatagram_sendAndPop] at hrounds
  | finalizeRecoverableUdpFecFrames t deferReadyPop =>
      obtain rfl := Option.some.inj htime
      have hrecovered := recoverAssemblies_quiet cfg t st.udpAssemblies.keys [] st
      cases deferReadyPop with
      | true => exact ⟨_, hrecovered, .quiet (finalizeRecovered_quiet env cfg t _ _)⟩
      | false => exact ⟨_, hrecovered, finalizeRecovered_rounds env cfg t _ _⟩
  | tryPopReadyUdpFrame t =>
      obtain rfl := Option.some.inj htime
      exact ⟨st, .refl t st, .quiet (tryPopReadyUdpFrame_quiet cfg st t)⟩
  | pruneExpiredUdpAssemblies t =>
      obtain rfl := Option.some.inj htime
      exact ⟨st, .refl t st, .quiet (pruneExpiredUdpAssemblies_quiet st t)⟩
  | maybeSendUdpNackRequests t =>
      obtain rfl := Option.some.inj htime
      exact ⟨st, .refl t st, .round (.refl t st) (.quiet (.refl t _))⟩

end

end AvProject.Client
