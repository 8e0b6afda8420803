import AvProject.Client.AtMostOnce
import AvProject.Client.JitterBuffer
import AvProject.Client.ReceiveUdpFrame
import AvProject.Client.UdpRecoveryPass
import AvProject.Client.UdpRepresentation

/-!
Where completed frames go. In a run of `receiveUdpFrame` no assembly is left
complete in the map and every completed frame has been returned or is in the
jitter buffer, as long as no recovery pass finds several frames at once that it
would have to return.
-/

namespace AvProject.Client

open AvProject.Lib AvProject.Protocol

/-! ### The ledger of completed frames -/

/-- The frame has been delivered or is in the jitter buffer. -/
def Kept (delivered : List ReceivedFrame) (buffer : OrdMap BufferedUdpFrame)
    (c : CompletedFrame) : Prop :=
  c.frame ∈ delivered ∨ ∃ b, buffer[c.sequence]? = some b ∧ b.frame = c.frame

/-- Every completed frame has been delivered or is in the jitter buffer, unless its
number had been completed before; only the jitter buffer drops such a frame. -/
structure Accounted (jitter : Bool) (delivered : List ReceivedFrame)
    (completed : List CompletedFrame) (buffer : OrdMap BufferedUdpFrame) : Prop where
  settled : ∀ earlier c later, completed = earlier ++ c :: later →
    Kept delivered buffer c ∨ jitter = true ∧ ∃ c' ∈ earlier, c'.sequence = c.sequence
  known : ∀ (k : ℕ) b, buffer[k]? = some b → ∃ c ∈ completed, c.sequence = k

/-- An element of a list that has just grown is the new one or was there before. -/
theorem split_concat {α : Type} {xs earlier later : List α} {x y : α}
    (h : xs ++ [x] = earlier ++ y :: later) :
    y = x ∧ earlier = xs ∨ ∃ rest, xs = earlier ++ y :: rest := by
  rcases List.eq_nil_or_concat later with rfl | ⟨rest, last, rfl⟩
  · obtain ⟨hxs, hx⟩ := List.append_inj' h rfl
    exact .inl ⟨(List.cons.inj hx).1.symm, hxs.symm⟩
  · rw [List.concat_eq_append, ← List.cons_append, ← List.append_assoc] at h
    exact .inr ⟨rest, (List.append_inj' h rfl).1⟩

namespace Accounted

variable {jitter : Bool} {delivered : List ReceivedFrame} {completed : List CompletedFrame}
  {buffer : OrdMap BufferedUdpFrame}

/-- A frame leaves the buffer and is delivered. -/
theorem emit (h : Accounted jitter delivered completed buffer) {k : ℕ} {b : BufferedUdpFrame}
    (hb : buffer[k]? = some b) :
    Accounted jitter (delivered ++ [b.frame]) completed (buffer.erase k) where
  settled := by
    intro earlier c later hsplit
    refine (h.settled earlier c later hsplit).imp_left ?_
    rintro (hdelivered | ⟨b', hb', hframe⟩)
    · exact .inl (List.mem_append_left _ hdelivered)
    · by_cases hk : k = c.sequence
      · subst hk
        rw [hb, Option.some.injEq] at hb'
        subst hb'
        exact .inl (List.mem_append_right _ (by simp [hframe]))
      · refine .inr ⟨b', ?_, hframe⟩
        rw [OrdMap.getElem?_erase, if_neg hk]
        exact hb'
  known := by
    intro k' b' hb'
    rw [OrdMap.getElem?_erase] at hb'
    split at hb'
    · simp at hb'
    · exact h.known k' b' hb'

/-- A frame is completed and delivered at once. -/
theorem deliver (h : Accounted jitter delivered completed buffer) (c : CompletedFrame) :
    Accounted jitter (delivered ++ [c.frame]) (completed ++ [c]) buffer where
  settled := by
    intro earlier c' later hsplit
    rcases split_concat hsplit with ⟨rfl, -⟩ | ⟨rest, hold⟩
    · exact .inl (.inl (List.mem_append_right _ List.mem_cons_self))
    · exact (h.settled earlier c' rest hold).imp_left fun hkept =>
        hkept.imp_left (List.mem_append_left _)
  known := by
    intro k b hb
    obtain ⟨c', hc', hk⟩ := h.known k b hb
    exact ⟨c', List.mem_append_left _ hc', hk⟩

/-- A frame is completed and enters the buffer. -/
theorem insert (h : Accounted jitter delivered completed buffer) {c : CompletedFrame}
    {b : BufferedUdpFrame} (hb : b.frame = c.frame) (hnew : c.sequence ∉ buffer) :
    Accounted jitter delivered (completed ++ [c]) (buffer.insert c.sequence b) where
  settled := by
    intro earlier c' later hsplit
    rcases split_concat hsplit with ⟨rfl, -⟩ | ⟨rest, hold⟩
    · refine .inl (.inr ⟨b, ?_, hb⟩)
      rw [OrdMap.getElem?_insert, if_pos rfl]
    · refine (h.settled earlier c' rest hold).imp_left (Or.imp_right ?_)
      rintro ⟨b', hb', hframe⟩
      refine ⟨b', ?_, hframe⟩
      rw [OrdMap.getElem?_insert, if_neg]
      · exact hb'
      · intro heq
        rw [← heq, OrdMap.getElem?_eq_none hnew] at hb'
        simp at hb'
  known := by
    intro k b' hb'
    rw [OrdMap.getElem?_insert] at hb'
    split at hb'
    · rename_i heq
      exact ⟨c, List.mem_append_right _ List.mem_cons_self, heq⟩
    · obtain ⟨c', hc', hk⟩ := h.known k b' hb'
      exact ⟨c', List.mem_append_left _ hc', hk⟩

/-- A frame is completed whose number is in the buffer already: it is dropped. -/
theorem drop (h : Accounted jitter delivered completed buffer) (hjitter : jitter = true)
    {c : CompletedFrame} (hold : c.sequence ∈ buffer) :
    Accounted jitter delivered (completed ++ [c]) buffer where
  settled := by
    intro earlier c' later hsplit
    rcases split_concat hsplit with ⟨rfl, rfl⟩ | ⟨rest, hbefore⟩
    · obtain ⟨b, hb⟩ := OrdMap.mem_iff.mp hold
      exact .inr ⟨hjitter, h.known _ b hb⟩
    · exact h.settled earlier c' rest hbefore
  known := by
    intro k b hb
    obtain ⟨c', hc', hk⟩ := h.known k b hb
    exact ⟨c', List.mem_append_left _ hc', hk⟩

/-- Where a frame was dropped, one with its number had been kept before. -/
theorem kept_before (h : Accounted jitter delivered completed buffer)
    {earlier later : List CompletedFrame} {c : CompletedFrame}
    (hsplit : completed = earlier ++ c :: later) :
    Kept delivered buffer c ∨ jitter = true ∧ ∃ before c' between,
      earlier = before ++ c' :: between ∧ c'.sequence = c.sequence ∧ Kept delivered buffer c' := by
  induction hlength : earlier.length using Nat.strong_induction_on generalizing earlier later c with
  | _ length ih =>
      refine (h.settled earlier c later hsplit).imp_right ?_
      rintro ⟨hjitter, c', hmem, hsequence⟩
      obtain ⟨before, between, rfl⟩ := List.append_of_mem hmem
      have hshorter : before.length < length := by
        rw [← hlength]
        simp
      rw [List.append_assoc] at hsplit
      rcases ih _ hshorter hsplit rfl with hkept | ⟨-, before', c'', between', rfl, heq, hkept⟩
      · exact ⟨hjitter, before, c', between, rfl, hsequence, hkept⟩
      · refine ⟨hjitter, before', c'', between' ++ c' :: between, ?_, heq.trans hsequence, hkept⟩
        rw [List.append_assoc, List.cons_append]

end Accounted

/-! ### States in which nothing is stranded -/

/-- No assembly outside `keys` is complete, and all completed frames are accounted
for. -/
structure SettledBut (cfg : ClientConfig) (keys : List ℕ) (delivered : List ReceivedFrame)
    (st : StreamClient) : Prop where
  incomplete : ∀ (k : ℕ) a, k ∉ keys → st.udpAssemblies[k]? = some a → a.complete = false
  accounted : Accounted cfg.udpJitterBufferEnabled delivered st.history.completed st.udpJitterBuffer

/-- No assembly is complete, and all completed frames are accounted for. -/
abbrev Settled (cfg : ClientConfig) (delivered : List ReceivedFrame) (st : StreamClient) : Prop :=
  SettledBut cfg [] delivered st

section

variable {cfg : ClientConfig} {delivered : List ReceivedFrame} {st st' : StreamClient}
  {key : ℕ} {keys : List ℕ} {a : UdpFrameAssembly}

theorem Settled.settledBut (h : Settled cfg delivered st) (keys : List ℕ) :
    SettledBut cfg keys delivered st :=
  ⟨fun k a _ ha => h.incomplete k a List.not_mem_nil ha, h.accounted⟩

theorem SettledBut.of_incomplete (h : SettledBut cfg [key] delivered st)
    (hkey : ∀ a, st.udpAssemblies[key]? = some a → a.complete = false) :
    Settled cfg delivered st := by
  refine ⟨fun k a _ ha => ?_, h.accounted⟩
  by_cases hk : k = key
  · subst hk
    exact hkey a ha
  · exact h.incomplete k a (by simpa using hk) ha

/-- Assemblies may disappear. -/
theorem SettledBut.remove (h : SettledBut cfg keys delivered st)
    (hmap : ∀ (k : ℕ) a, st'.udpAssemblies[k]? = some a → st.udpAssemblies[k]? = some a)
    (hcompleted : st'.history.completed = st.history.completed)
    (hbuffer : st'.udpJitterBuffer = st.udpJitterBuffer) : SettledBut cfg keys delivered st' :=
  ⟨fun k a hk ha => h.incomplete k a hk (hmap k a ha), by
    rw [hcompleted, hbuffer]
    exact h.accounted⟩

theorem SettledBut.of_core (h : SettledBut cfg keys delivered st) (hcore : st'.core = st.core) :
    SettledBut cfg keys delivered st' := by
  simp only [StreamClient.core, ReceiverCore.mk.injEq] at hcore
  obtain ⟨hmap, hbuffer, -, -, -, -, hcompleted, -⟩ := hcore
  exact h.remove (fun k a ha => by rwa [hmap] at ha) hcompleted hbuffer

theorem SettledBut.pruneExpiredUdpAssemblies (h : SettledBut cfg keys delivered st) (nowNs : ℕ) :
    SettledBut cfg keys delivered (Client.pruneExpiredUdpAssemblies st nowNs) := by
  refine h.remove (fun k a ha => ?_) rfl rfl
  have hfilter : (st.udpAssemblies.filter fun _ a => !a.expired nowNs)[k]? = some a := ha
  rw [OrdMap.getElem?_filter] at hfilter
  exact (Option.filter_eq_some_iff.mp hfilter).1

/-! #### The jitter buffer -/

theorem SettledBut.tryPopReadyUdpFrame (h : SettledBut cfg keys delivered st)
    (nowNs : ℕ) :
    SettledBut cfg keys (delivered ++ (Client.tryPopReadyUdpFrame cfg st nowNs).2.toList)
      (Client.tryPopReadyUdpFrame cfg st nowNs).1 := by
  have hmap := tryPopReadyUdpFrame_udpAssemblies cfg st nowNs
  have hcompleted := congrArg CompletionLog.completed (tryPopReadyUdpFrame_log cfg st nowNs)
  have hpop := tryPopReadyUdpFrame_outcome cfg st nowNs
  generalize Client.tryPopReadyUdpFrame cfg st nowNs = result at hmap hcompleted hpop ⊢
  obtain ⟨st', frame⟩ := result
  simp only [StreamClient.log] at hmap hcompleted hpop ⊢
  have hincomplete : ∀ (k : ℕ) a, k ∉ keys → st'.udpAssemblies[k]? = some a →
      a.complete = false := by
    rw [hmap]
    exact h.incomplete
  refine ⟨hincomplete, ?_⟩
  rw [hcompleted]
  have hbuffer : ∀ p, p = st'.playout → p.udpJitterBuffer = st'.udpJitterBuffer := by
    rintro p rfl
    rfl
  generalize st'.playout = p at hpop hbuffer
  rw [← hbuffer p rfl]
  cases hpop with
  | kept =>
      rw [Option.toList_none, List.append_nil]
      exact h.accounted
  | anchored oldest b hfront hhas =>
      rw [Option.toList_none, List.append_nil]
      exact h.accounted
  | expected b hhas hb => exact h.accounted.emit hb
  | oldest sequence b hfront hskip => exact h.accounted.emit (OrdMap.front?_eq_some hfront).1

/-! #### NACK requests -/

theorem SettledBut.requestMissingFragments (h : SettledBut cfg keys delivered st) (env : ClientEnv)
    (nowNs key : ℕ) :
    SettledBut cfg keys delivered (Client.requestMissingFragments env cfg nowNs st key) := by
  unfold Client.requestMissingFragments
  split
  · exact h
  rename_i a ha
  split
  · exact h
  simp only
  have hchecked : SettledBut cfg keys delivered
      (st.check [.difference a.receivedFragments.length a.receivedFragmentCount]) :=
    h.remove (fun k a ha => ha) rfl rfl
  have hsent : SettledBut cfg keys delivered (sendUdpNack env cfg
      (st.check [.difference a.receivedFragments.length a.receivedFragmentCount]) nowNs
      a.metadata.sequence (a.missingFragments.map (· % 2 ^ 16))).1 :=
    hchecked.of_core (sendUdpNack_core ..)
  split
  · refine ⟨fun k b hk hb => ?_, hsent.accounted⟩
    rw [OrdMap.getElem?_insert] at hb
    split at hb
    · rename_i heq
      obtain rfl := Option.some.inj hb
      exact h.incomplete key a (heq ▸ hk) ha
    · exact hsent.incomplete k b hk hb
  · exact hsent

theorem SettledBut.maybeSendUdpNackRequests (h : SettledBut cfg keys delivered st)
    (env : ClientEnv) (nowNs : ℕ) :
    SettledBut cfg keys delivered (Client.maybeSendUdpNackRequests env cfg st nowNs) :=
  maybeSendUdpNackRequests_invariant
    (fun _ key h => h.requestMissingFragments env nowNs key) h

/-! #### Completion -/

/-- A finished frame is delivered, buffered or dropped as a duplicate, and its assembly
goes. -/
theorem SettledBut.finalizeCompletedUdpFrame (h : SettledBut cfg (key :: keys) delivered st)
    (env : ClientEnv) (hcomplete : a.complete = true)
    (hsequence : a.metadata.sequence = key) (nowNs : ℕ) (deferReadyPop : Bool) :
    SettledBut cfg keys (delivered ++
        (Client.finalizeCompletedUdpFrame env cfg st key a nowNs deferReadyPop).2.toList)
      (Client.finalizeCompletedUdpFrame env cfg st key a nowNs deferReadyPop).1 := by
  rw [UdpFrameAssembly.complete, beq_iff_eq] at hcomplete
  unfold Client.finalizeCompletedUdpFrame
  rw [if_neg (not_not.mpr hcomplete)]
  set frame := completedUdpFrame cfg a nowNs with hframe
  have hcore := retireCompletedUdpFrame_core st key a frame nowNs
  simp only
  generalize retireCompletedUdpFrame st key a frame nowNs = retired at hcore ⊢
  simp only [StreamClient.core, ReceiverCore.mk.injEq] at hcore
  obtain ⟨hmap, hbuffer, -, -, -, -, hcompleted, -⟩ := hcore
  have hincomplete : ∀ (k : ℕ) b, k ∉ keys → retired.udpAssemblies[k]? = some b →
      b.complete = false := by
    intro k b hk hb
    rw [hmap, OrdMap.getElem?_erase] at hb
    split at hb
    · simp at hb
    · rename_i hne
      exact h.incomplete k b (List.not_mem_cons_of_ne_of_not_mem (Ne.symm hne) hk) hb
  cases hjitter : cfg.udpJitterBufferEnabled with
  | false =>
      simp only [Bool.not_false, if_true]
      refine ⟨hincomplete, ?_⟩
      rw [hcompleted, hbuffer]
      exact h.accounted.deliver { sequence := key, assembly := a, frame := frame }
  | true =>
      have hnumber : frame.metadata.sequence = key := hsequence
      have hplayout := congrArg PlayoutState.udpJitterBuffer
        (bufferCompletedUdpFrame_playout retired frame)
      have hlog := congrArg CompletionLog.completed (bufferCompletedUdpFrame_log retired frame)
      have hsame := bufferCompletedUdpFrame_udpAssemblies retired frame
      simp only [Bool.not_true, Bool.false_eq_true, if_false]
      generalize bufferCompletedUdpFrame retired frame = buffered at hplayout hlog hsame ⊢
      have hsettled : SettledBut cfg keys delivered buffered := by
        refine ⟨by rw [hsame]; exact hincomplete, ?_⟩
        simp only [StreamClient.log, StreamClient.playout] at hlog hplayout
        rw [hlog, hplayout, hcompleted, hnumber, hbuffer]
        split
        · rename_i hold
          exact h.accounted.drop hjitter hold
        · rename_i hnew
          exact h.accounted.insert rfl hnew
      split
      · rw [Option.toList_none, List.append_nil]
        exact hsettled
      · exact (hsettled.maybeSendUdpNackRequests env nowNs).tryPopReadyUdpFrame nowNs

theorem SettledBut.finishIfComplete (h : SettledBut cfg [key] delivered st)
    (hstored : st.udpAssemblies[key]? = some a) (env : ClientEnv)
    (hsequence : a.metadata.sequence = key) (nowNs : ℕ) (deferReadyPop : Bool) :
    Settled cfg (delivered ++
        (Client.finishIfComplete env cfg st key a nowNs deferReadyPop).2.toList)
      (Client.finishIfComplete env cfg st key a nowNs deferReadyPop).1 := by
  unfold Client.finishIfComplete
  split
  · rename_i hcomplete
    exact h.finalizeCompletedUdpFrame env hcomplete hsequence nowNs deferReadyPop
  · rename_i hincomplete
    rw [Option.toList_none, List.append_nil]
    refine h.of_incomplete fun b hb => ?_
    rw [hstored, Option.some.injEq] at hb
    subst hb
    simpa using hincomplete

/-- The other assemblies, the record and the buffer stay as they are. -/
theorem SettledBut.of_map (h : SettledBut cfg [key] delivered st)
    (hmap : ∀ k : ℕ, k ≠ key → st'.udpAssemblies[k]? = st.udpAssemblies[k]?)
    (hcompleted : st'.history.completed = st.history.completed)
    (hbuffer : st'.udpJitterBuffer = st.udpJitterBuffer) : SettledBut cfg [key] delivered st' :=
  ⟨fun k a hk ha => h.incomplete k a hk (by rwa [hmap k (by simpa using hk)] at ha),
    by rw [hcompleted, hbuffer]; exact h.accounted⟩

theorem getElem?_insert_of_ne {k : ℕ} (m : OrdMap UdpFrameAssembly) (b : UdpFrameAssembly)
    (h : k ≠ key) : (m.insert key b)[k]? = m[k]? := by
  rw [OrdMap.getElem?_insert, if_neg (Ne.symm h)]

/-- Trying the recovery and finishing the frame where that is possible. -/
theorem SettledBut.recoverAndFinish (h : SettledBut cfg [key] delivered st)
    (hstored : st.udpAssemblies[key]? = some a) (env : ClientEnv)
    (hsequence : a.metadata.sequence = key) (nowNs : ℕ) (deferReadyPop : Bool) :
    Settled cfg (delivered ++ (Client.finishIfComplete env cfg
        (recoverIfIncomplete cfg st key a).1 key (recoverIfIncomplete cfg st key a).2
        nowNs deferReadyPop).2.toList)
      (Client.finishIfComplete env cfg (recoverIfIncomplete cfg st key a).1 key
        (recoverIfIncomplete cfg st key a).2 nowNs deferReadyPop).1 := by
  unfold recoverIfIncomplete
  split
  · have hcompleted := congrArg CompletionLog.completed (recoverAssembly_log cfg st key a)
    have hbuffer : (recoverAssembly cfg st key a).1.udpJitterBuffer = st.udpJitterBuffer := by
      simp only [recoverAssembly]
      split <;> rfl
    rcases recoverAssembly_cases cfg st key a with
      ⟨heq, hmap, -⟩ | ⟨missing, offset, size, bytes, -, -, heq, hmap⟩
    · generalize recoverAssembly cfg st key a = outcome at hcompleted hbuffer heq hmap ⊢
      obtain ⟨st', b, flag⟩ := outcome
      obtain ⟨rfl, -⟩ := Prod.mk.inj heq
      have hnext : SettledBut cfg [key] delivered st' :=
        h.of_map (fun k _ => by rw [hmap]) hcompleted hbuffer
      exact hnext.finishIfComplete (by rwa [hmap]) env hsequence nowNs deferReadyPop
    · generalize recoverAssembly cfg st key a = outcome at hcompleted hbuffer heq hmap ⊢
      obtain ⟨st', b, flag⟩ := outcome
      obtain ⟨rfl, -⟩ := Prod.mk.inj heq
      have hnext : SettledBut cfg [key] delivered st' :=
        h.of_map (fun k hk => by rw [hmap, getElem?_insert_of_ne _ _ hk]) hcompleted hbuffer
      have hplaced : (a.place missing offset size bytes true).metadata.sequence = key :=
        hsequence
      refine hnext.finishIfComplete ?_ env hplaced nowNs deferReadyPop
      rw [hmap, OrdMap.getElem?_insert, if_pos rfl]
  · exact h.finishIfComplete hstored env hsequence nowNs deferReadyPop

/-! #### Datagrams -/

theorem SettledBut.acceptDataFragment {fragment : UdpFrameFragmentHeader}
    (h : SettledBut cfg [fragment.frameSequence] delivered st)
    (hstored : st.udpAssemblies[fragment.frameSequence]? = some a) (env : ClientEnv)
    (hsequence : a.metadata.sequence = fragment.frameSequence)
    (body : Bytes) (nowNs : ℕ) (deferReadyPop : Bool) :
    Settled cfg (delivered ++ (Client.acceptDataFragment env cfg st a fragment body nowNs
        deferReadyPop).2.toList)
      (Client.acceptDataFragment env cfg st a fragment body nowNs deferReadyPop).1 := by
  have hcompleted := congrArg CompletionLog.completed
    (receiveFragment_log st a fragment body nowNs)
  have hbuffer : (receiveFragment st a fragment body nowNs).1.udpJitterBuffer =
      st.udpJitterBuffer := by
    simp only [receiveFragment]
    split <;> rfl
  simp only [Client.acceptDataFragment]
  by_cases hhas : a.Has fragment.fragmentIndex
  · obtain ⟨heq, hmap⟩ := receiveFragment_duplicate hhas st body nowNs
    rw [heq]
    refine SettledBut.recoverAndFinish (h.of_map (fun k _ => by rw [hmap]) hcompleted hbuffer)
      ?_ env hsequence nowNs deferReadyPop
    rwa [hmap]
  · obtain ⟨heq, hmap⟩ := receiveFragment_new hhas st body nowNs
    have hplaced : (storeFragment a fragment body nowNs).metadata.sequence =
        fragment.frameSequence := hsequence
    rw [heq]
    refine SettledBut.recoverAndFinish (h.of_map
      (fun k hk => by rw [hmap, getElem?_insert_of_ne _ _ hk]) hcompleted hbuffer)
      ?_ env hplaced nowNs deferReadyPop
    rw [hmap, OrdMap.getElem?_insert, if_pos rfl]

theorem SettledBut.acceptParityFragment (h : SettledBut cfg [key] delivered st) (env : ClientEnv)
    (hsequence : a.metadata.sequence = key) (body : Bytes) (nowNs : ℕ)
    (deferReadyPop : Bool) :
    Settled cfg (delivered ++
        (Client.acceptParityFragment env cfg st a key body nowNs deferReadyPop).2.toList)
      (Client.acceptParityFragment env cfg st a key body nowNs deferReadyPop).1 := by
  have hmetadata : (storeParity cfg a body nowNs).metadata.sequence = key := by
    unfold storeParity
    split <;> exact hsequence
  have hfinish (st' : StreamClient)
      (hmap : st'.udpAssemblies = st.udpAssemblies.insert key (storeParity cfg a body nowNs))
      (hcompleted : st'.history.completed = st.history.completed)
      (hbuffer : st'.udpJitterBuffer = st.udpJitterBuffer) :
      Settled cfg (delivered ++ (Client.finishIfComplete env cfg st' key
          (storeParity cfg a body nowNs) nowNs deferReadyPop).2.toList)
        (Client.finishIfComplete env cfg st' key (storeParity cfg a body nowNs) nowNs
          deferReadyPop).1 := by
    have hnext : SettledBut cfg [key] delivered st' :=
      h.of_map (fun k hk => by rw [hmap, getElem?_insert_of_ne _ _ hk]) hcompleted hbuffer
    refine hnext.finishIfComplete ?_ env hmetadata nowNs deferReadyPop
    rw [hmap, OrdMap.getElem?_insert, if_pos rfl]
  exact hfinish _ rfl rfl rfl

theorem Settled.assembleFragment (h : Settled cfg delivered st)
    (hwf : ∀ (k : ℕ) a, st.udpAssemblies[k]? = some a → a.WellFormed k) (env : ClientEnv)
    (header : MessageHeader) (fragment : UdpFrameFragmentHeader)
    (body : Bytes) (nowNs : ℕ) (deferReadyPop : Bool) :
    Settled cfg (delivered ++ (Client.assembleFragment env cfg st header fragment body nowNs
        deferReadyPop).2.toList)
      (Client.assembleFragment env cfg st header fragment body nowNs deferReadyPop).1 := by
  simp only [Client.assembleFragment]
  have hsequence : (openAssembly cfg st.udpAssemblies[fragment.frameSequence]? header fragment
      nowNs).metadata.sequence = fragment.frameSequence := by
    cases hstored : st.udpAssemblies[fragment.frameSequence]? with
    | none => rfl
    | some a =>
        rw [(hwf _ a hstored).openAssembly_some]
        exact (hwf _ a hstored).sequence
  generalize openAssembly cfg st.udpAssemblies[fragment.frameSequence]? header fragment
    nowNs = a at hsequence ⊢
  split
  · -- another layout: the assembly goes
    rw [Option.toList_none, List.append_nil]
    refine h.remove (fun k b hb => ?_) rfl rfl
    have herase : (st.udpAssemblies.erase fragment.frameSequence)[k]? = some b := hb
    rw [OrdMap.getElem?_erase] at herase
    split at herase
    · simp at herase
    · exact herase
  · have hopen : SettledBut cfg [fragment.frameSequence] delivered
        (storeUdpAssembly st fragment.frameSequence a) :=
      (h.settledBut _).of_map (fun k hk => getElem?_insert_of_ne _ _ hk) rfl rfl
    split
    · exact hopen.acceptParityFragment env hsequence body nowNs deferReadyPop
    · exact hopen.acceptDataFragment (storeUdpAssembly_self _ _ _) env hsequence body nowNs
        deferReadyPop

theorem Settled.processUdpDatagram (h : Settled cfg delivered st)
    (hwf : ∀ (k : ℕ) a, st.udpAssemblies[k]? = some a → a.WellFormed k) (env : ClientEnv)
    (data : Bytes) (nowNs : ℕ) (deferReadyPop : Bool) :
    Settled cfg (delivered ++
        (Client.processUdpDatagram env cfg st data nowNs deferReadyPop).2.toList)
      (Client.processUdpDatagram env cfg st data nowNs deferReadyPop).1 := by
  have hpruned := h.pruneExpiredUdpAssemblies nowNs
  have hnoted : Settled cfg delivered (noteDatagram st data nowNs) :=
    hpruned.remove (fun k a ha => ha) rfl rfl
  have hsub (k : ℕ) (a : UdpFrameAssembly)
      (ha : (noteDatagram st data nowNs).udpAssemblies[k]? = some a) : a.WellFormed k := by
    have hfilter : (st.udpAssemblies.filter fun _ a => !a.expired nowNs)[k]? = some a := ha
    rw [OrdMap.getElem?_filter] at hfilter
    exact hwf k a (Option.filter_eq_some_iff.mp hfilter).1
  simp only [Client.processUdpDatagram]
  cases parseUdpDatagram data with
  | none =>
      rw [Option.toList_none, List.append_nil]
      exact hnoted.remove (fun k a ha => ha) rfl rfl
  | some parsed =>
      obtain ⟨header, fragment, body⟩ := parsed
      simp only [acceptFragment]
      have hcore := shouldInjectUdpLoss_core cfg (noteDatagram st data nowNs) fragment
      generalize shouldInjectUdpLoss cfg (noteDatagram st data nowNs) fragment = outcome at hcore ⊢
      obtain ⟨st', drop⟩ := outcome
      have hnext : Settled cfg delivered st' := hnoted.of_core hcore
      have hmap : st'.udpAssemblies = (noteDatagram st data nowNs).udpAssemblies :=
        congrArg ReceiverCore.udpAssemblies hcore
      cases drop with
      | true =>
          rw [Option.toList_none, List.append_nil]
          exact hnext
      | false =>
          simp only
          split
          · rw [Option.toList_none, List.append_nil]
            exact hnext.remove (fun k a ha => ha) rfl rfl
          · refine hnext.assembleFragment (fun k a ha => hsub k a ?_) env header fragment
              body nowNs deferReadyPop
            rwa [← hmap]

/-! #### The recovery pass -/

/-- The pass meets no more than one frame to return: it only fills the jitter buffer,
or at most one recovery would succeed. -/
def PassLeavesNothing (cfg : ClientConfig) (st : StreamClient) (deferReadyPop : Bool) : Prop :=
  cfg.udpJitterBufferEnabled = true ∧ deferReadyPop = true ∨
    (recoverableKeys cfg st).length ≤ 1

/-- After the first loop only the recovered assemblies are complete. -/
theorem Settled.recoveredState (h : Settled cfg delivered st) :
    SettledBut cfg (recoverableKeys cfg st) delivered (Client.recoveredState cfg st) := by
  have hcompleted := congrArg CompletionLog.completed (recoveredState_log cfg st)
  refine ⟨fun k b hk hb => ?_, ?_⟩
  · rw [getElem?_recoveredState] at hb
    obtain ⟨a, ha, rfl⟩ := Option.map_eq_some_iff.mp hb
    rw [mem_recoverableKeys, recoverable_of_getElem? ha] at hk
    rcases maybeRecoverWithUdpFec_cases cfg a with ⟨-, heq⟩ | ⟨htrue, -⟩
    · rw [heq]
      exact h.incomplete k a List.not_mem_nil ha
    · exact absurd htrue hk
  · rw [recoveredState_udpJitterBuffer]
    simp only [StreamClient.log] at hcompleted
    rw [hcompleted]
    exact h.accounted

/-- With the pop deferred the second loop settles all that the first has recovered. -/
theorem SettledBut.finalizeRecovered_deferred (hjitter : cfg.udpJitterBufferEnabled = true)
    (h : SettledBut cfg keys delivered st) (hnodup : keys.Nodup)
    (hstored : ∀ k ∈ keys, ∃ a, st.udpAssemblies[k]? = some a ∧ a.complete = true ∧
      a.metadata.sequence = k) (env : ClientEnv) (nowNs : ℕ) :
    Settled cfg delivered (finalizeRecovered env cfg nowNs true keys st).1 ∧
      (finalizeRecovered env cfg nowNs true keys st).2 = none := by
  induction keys generalizing st with
  | nil => exact ⟨h, rfl⟩
  | cons key rest ih =>
      obtain ⟨hnot, hrest⟩ := List.nodup_cons.mp hnodup
      obtain ⟨a, ha, hcomplete, hsequence⟩ := hstored key List.mem_cons_self
      have hnext := h.finalizeCompletedUdpFrame env hcomplete hsequence nowNs true
      rw [finalizeRecovered_cons env nowNs true ha hcomplete]
      rw [finalizeCompletedUdpFrame_deferred env hjitter st key hcomplete] at hnext ⊢
      rw [Option.toList_none, List.append_nil] at hnext
      refine ih hnext hrest fun k hk => ?_
      have hne : key ≠ k := by
        rintro rfl
        exact hnot hk
      obtain ⟨b, hb, hdone⟩ := hstored k (List.mem_cons_of_mem _ hk)
      refine ⟨b, ?_, hdone⟩
      rw [bufferCompletedUdpFrame_udpAssemblies, retireCompletedUdpFrame_udpAssemblies,
        OrdMap.getElem?_erase, if_neg hne]
      exact hb

theorem Settled.finalizeRecoverableUdpFecFrames (h : Settled cfg delivered st)
    (hwf : ∀ (k : ℕ) a, st.udpAssemblies[k]? = some a → a.WellFormed k) (env : ClientEnv)
    (nowNs : ℕ) {deferReadyPop : Bool} (hpass : PassLeavesNothing cfg st deferReadyPop) :
    Settled cfg (delivered ++ (Client.finalizeRecoverableUdpFecFrames env cfg st nowNs
        deferReadyPop).2.toList)
      (Client.finalizeRecoverableUdpFecFrames env cfg st nowNs deferReadyPop).1 := by
  have hrecovered := h.recoveredState
  have hstored (k : ℕ) (hk : k ∈ recoverableKeys cfg st) :
      ∃ a, (Client.recoveredState cfg st).udpAssemblies[k]? = some a ∧ a.complete = true ∧
        a.metadata.sequence = k := by
    obtain ⟨b, hb, hcomplete⟩ := recoveredState_complete hwf hk
    refine ⟨b, hb, hcomplete, ?_⟩
    rw [getElem?_recoveredState] at hb
    obtain ⟨a, ha, rfl⟩ := Option.map_eq_some_iff.mp hb
    exact ((hwf k a ha).recovered cfg).sequence
  rw [finalizeRecoverableUdpFecFrames_eq]
  rcases hpass with ⟨hjitter, rfl⟩ | hone
  · obtain ⟨hsettled, hnone⟩ := hrecovered.finalizeRecovered_deferred hjitter
      (nodup_recoverableKeys cfg st) hstored env nowNs
    rw [hnone, Option.toList_none, List.append_nil]
    exact hsettled
  · rcases hkeys : recoverableKeys cfg st with _ | ⟨key, _ | ⟨other, rest⟩⟩
    · rw [hkeys] at hrecovered
      rw [finalizeRecovered, Option.toList_none, List.append_nil]
      exact hrecovered
    · rw [hkeys] at hrecovered
      obtain ⟨a, ha, hcomplete, hsequence⟩ := hstored key (by simp [hkeys])
      rw [finalizeRecovered_singleton env nowNs deferReadyPop ha hcomplete]
      exact hrecovered.finalizeCompletedUdpFrame env hcomplete hsequence nowNs deferReadyPop
    · rw [hkeys] at hone
      simp at hone

/-- Without the jitter buffer the bound is exact: of several recovered frames only the
first is returned, the others stay behind complete. -/
theorem finalizeRecoverableUdpFecFrames_strands (hjitter : cfg.udpJitterBufferEnabled = false)
    (hwf : ∀ (k : ℕ) a, st.udpAssemblies[k]? = some a → a.WellFormed k) (env : ClientEnv)
    (nowNs : ℕ) (deferReadyPop : Bool) (hmany : 2 ≤ (recoverableKeys cfg st).length) :
    ∃ (k : ℕ) (a : UdpFrameAssembly), (Client.finalizeRecoverableUdpFecFrames env cfg st nowNs
      deferReadyPop).1.udpAssemblies[k]? = some a ∧ a.complete = true := by
  rcases hkeys : recoverableKeys cfg st with _ | ⟨first, _ | ⟨second, rest⟩⟩
  · simp [hkeys] at hmany
  · simp [hkeys] at hmany
  · have hnodup := nodup_recoverableKeys cfg st
    rw [hkeys, List.nodup_cons] at hnodup
    have hne : first ≠ second := by
      rintro rfl
      exact hnodup.1 List.mem_cons_self
    obtain ⟨a, ha, hcomplete⟩ := recoveredState_complete hwf
      (show first ∈ recoverableKeys cfg st by simp [hkeys])
    obtain ⟨b, hb, hleft⟩ := recoveredState_complete hwf
      (show second ∈ recoverableKeys cfg st by simp [hkeys])
    refine ⟨second, b, ?_, hleft⟩
    rw [finalizeRecoverableUdpFecFrames_eq, hkeys,
      finalizeRecovered_cons env nowNs deferReadyPop ha hcomplete,
      finalizeCompletedUdpFrame_direct env hjitter _ first hcomplete]
    simp only
    rw [retireCompletedUdpFrame_udpAssemblies, OrdMap.getElem?_erase, if_neg hne]
    exact hb

/-! ### Runs of `receiveUdpFrame` -/

/-- After the pass of a drain nothing is recoverable any more. -/
theorem recoverable_finalize_deferred (hjitter : cfg.udpJitterBufferEnabled = true)
    (hwf : ∀ (k : ℕ) a, st.udpAssemblies[k]? = some a → a.WellFormed k) (env : ClientEnv)
    (nowNs k : ℕ) :
    recoverable cfg (Client.finalizeRecoverableUdpFecFrames env cfg st nowNs true).1 k =
      false := by
  have hmap := (Client.finalizeRecovered_deferred env hjitter nowNs
    (nodup_recoverableKeys cfg st) fun k hk => recoveredState_complete hwf hk).2.1 k
  rw [← finalizeRecoverableUdpFecFrames_eq] at hmap
  rw [recoverable, hmap]
  split
  · rfl
  rename_i hk
  rw [getElem?_recoveredState]
  cases hstored : st.udpAssemblies[k]? with
  | none => rfl
  | some a =>
      rw [mem_recoverableKeys, recoverable_of_getElem? hstored, Bool.not_eq_true] at hk
      rcases maybeRecoverWithUdpFec_cases cfg a with ⟨-, heq⟩ | ⟨htrue, -⟩
      · rw [Option.map_some, Option.any_some, heq]
        exact hk
      · rw [hk] at htrue
        simp at htrue

theorem recoverable_prune (cfg : ClientConfig) {k : ℕ} (h : recoverable cfg st k = false)
    (nowNs : ℕ) :
    recoverable cfg (Client.pruneExpiredUdpAssemblies st nowNs) k = false := by
  have hfilter : (Client.pruneExpiredUdpAssemblies st nowNs).udpAssemblies[k]? =
      st.udpAssemblies[k]?.filter fun a => !a.expired nowNs := OrdMap.getElem?_filter ..
  rw [recoverable] at h ⊢
  rw [hfilter]
  cases hstored : st.udpAssemblies[k]? with
  | none => rfl
  | some a =>
      rw [hstored, Option.any_some] at h
      rw [Option.filter_some]
      split
      · exact h
      · rfl

end

/-- The points between the recovery pass after a drain and the one of the maintenance. -/
def ReceivePoint.afterPass : ReceivePoint → Bool
  | .afterDrainPop .. | .prune _ | .maintenance _ => true
  | _ => false

/-- The points from which the next step is a recovery pass. -/
def ReceivePoint.beforePass : ReceivePoint → Bool
  | .afterDrain _ | .maintenance _ => true
  | _ => false

/-- At a recovery pass with the jitter buffer off at most one recovery would succeed. -/
def RecoversAtMostOne (cfg : ClientConfig) (s : ReceiveState) : Prop :=
  s.point.beforePass = true →
    cfg.udpJitterBufferEnabled = true ∨ (recoverableKeys cfg s.client).length ≤ 1

instance (cfg : ClientConfig) (s : ReceiveState) : Decidable (RecoversAtMostOne cfg s) :=
  inferInstanceAs (Decidable (_ → _))

structure ReceiveInv (env : ClientEnv) (cfg : ClientConfig) (s : ReceiveState) : Prop where
  reachable : s.client.Reachable env cfg
  settled : Settled cfg s.delivered s.client
  nothing : cfg.udpJitterBufferEnabled = true → s.point.afterPass = true →
    ∀ k, recoverable cfg s.client k = false

namespace ReceiveInv

variable {env : ClientEnv} {cfg : ClientConfig} {s s' : ReceiveState}

theorem start (env : ClientEnv) (cfg : ClientConfig) :
    ReceiveInv env cfg (ReceiveState.start cfg) where
  reachable := ⟨[], rfl⟩
  settled :=
    { incomplete := by simp [ReceiveState.start, StreamClient.connected, StreamClient.connect]
      accounted :=
        { settled := by simp [ReceiveState.start, StreamClient.connected, StreamClient.connect]
          known := by simp [ReceiveState.start, StreamClient.connected, StreamClient.connect] } }
  nothing := by simp [ReceiveState.start, ReceivePoint.afterPass]

/-- The state that a call leaves, if what it returns is counted as delivered. -/
theorem returnOr {result : StreamClient × Option ReceivedFrame} {next : ReceivePoint}
    (hreach : result.1.Reachable env cfg)
    (hsettled : Settled cfg (s.delivered ++ result.2.toList) result.1)
    (hnothing : cfg.udpJitterBufferEnabled = true → next.afterPass = true →
      ∀ k, recoverable cfg result.1 k = false) :
    ReceiveInv env cfg (Client.returnOr s next result) := by
  obtain ⟨client, frame⟩ := result
  cases frame with
  | none =>
      rw [Option.toList_none, List.append_nil] at hsettled
      exact ⟨hreach, hsettled, hnothing⟩
  | some frame => exact ⟨hreach, hsettled, by simp [Client.returnOr, ReceivePoint.afterPass]⟩

theorem moveTo (h : ReceiveInv env cfg s) {next : ReceivePoint}
    (hnext : next.afterPass = false) : ReceiveInv env cfg { s with point := next } :=
  ⟨h.reachable, h.settled, by simp [hnext]⟩

theorem tryPop (h : ReceiveInv env cfg s) (nowNs : ℕ) {next : ReceivePoint}
    (hnext : next.afterPass = true → s.point.afterPass = true) :
    ReceiveInv env cfg (Client.returnOr s next (tryPopReadyUdpFrame cfg s.client nowNs)) := by
  refine returnOr (h.reachable.runOperation (.tryPopReadyUdpFrame nowNs))
    (h.settled.tryPopReadyUdpFrame nowNs) fun hjitter hpoint k => ?_
  have hsame : recoverable cfg (tryPopReadyUdpFrame cfg s.client nowNs).1 k =
      recoverable cfg s.client k :=
    recoverable_congr (by rw [tryPopReadyUdpFrame_udpAssemblies])
  rw [hsame]
  exact h.nothing hjitter (hnext hpoint) k

theorem processDatagram (h : ReceiveInv env cfg s) (data : Bytes) (nowNs : ℕ)
    (deferReadyPop : Bool) {next : ReceivePoint} (hnext : next.afterPass = false) :
    ReceiveInv env cfg (Client.returnOr s next
      (processUdpDatagram env cfg s.client data nowNs deferReadyPop)) :=
  returnOr (h.reachable.runOperation (.processUdpDatagram data nowNs deferReadyPop))
    (h.settled.processUdpDatagram h.reachable.receiverInv.assemblies env data nowNs
      deferReadyPop) (by simp [hnext])

/-- Every step keeps the invariant. -/
theorem step (h : ReceiveInv env cfg s) (hallowed : RecoversAtMostOne cfg s)
    {event : ReceiveEvent} (hstep : receiveStep env cfg s event = some s') :
    ReceiveInv env cfg s' := by
  obtain ⟨point, client, delivered⟩ := s
  have hwf := h.reachable.receiverInv.assemblies
  cases event with
  | call =>
      cases point <;> simp only [receiveStep, reduceCtorEq, Option.some.injEq] at hstep
      case returned => exact hstep ▸ h.moveTo rfl
  | failed =>
      cases point <;> simp only [receiveStep, reduceCtorEq, Option.some.injEq] at hstep
      all_goals exact hstep ▸ h.moveTo rfl
  | interrupted =>
      cases point <;> simp only [receiveStep, reduceCtorEq, Option.some.injEq] at hstep
      all_goals exact hstep ▸ h.moveTo rfl
  | nothing =>
      cases point <;> simp only [receiveStep, reduceCtorEq, Option.some.injEq] at hstep
      all_goals exact hstep ▸ h.moveTo rfl
  | datagram data nowNs =>
      cases point <;> simp only [receiveStep, reduceCtorEq, Option.some.injEq] at hstep
      case draining => exact hstep ▸ h.processDatagram data nowNs true rfl
      case waiting => exact hstep ▸ h.processDatagram data nowNs false rfl
  | proceed nowNs =>
      cases point <;> simp only [receiveStep, reduceCtorEq, Option.some.injEq] at hstep
      case loopTop => exact hstep ▸ h.tryPop nowNs (by simp [ReceivePoint.afterPass])
      case afterDrain drained =>
          have hpass : PassLeavesNothing cfg client true := by
            rcases hallowed rfl with hjitter | hone
            · exact .inl ⟨hjitter, rfl⟩
            · exact .inr hone
          rw [← hstep]
          refine returnOr
            (h.reachable.runOperation (.finalizeRecoverableUdpFecFrames nowNs true))
            (h.settled.finalizeRecoverableUdpFecFrames hwf env nowNs hpass) ?_
          exact fun hjitter _ k => recoverable_finalize_deferred hjitter hwf env nowNs k
      case afterDrainPop drained afterDrainNowNs =>
          exact hstep ▸ h.tryPop afterDrainNowNs fun _ => rfl
      case prune afterDrainNowNs =>
          rw [← hstep]
          refine ⟨h.reachable.runOperation (.pruneExpiredUdpAssemblies afterDrainNowNs),
            h.settled.pruneExpiredUdpAssemblies afterDrainNowNs, fun hjitter _ k => ?_⟩
          exact recoverable_prune cfg (h.nothing hjitter rfl k) afterDrainNowNs
      case maintenance afterDrainNowNs =>
          have hpass : PassLeavesNothing cfg client false := by
            rcases hallowed rfl with hjitter | hone
            · -- the pass after the drain has left nothing to recover
              have hnone : recoverableKeys cfg client = [] := by
                refine List.eq_nil_iff_forall_not_mem.mpr fun k hk => ?_
                rw [mem_recoverableKeys, h.nothing hjitter rfl k] at hk
                simp at hk
              exact .inr (by rw [hnone]; exact Nat.zero_le 1)
            · exact .inr hone
          rw [← hstep]
          exact returnOr
            (h.reachable.runOperation (.finalizeRecoverableUdpFecFrames afterDrainNowNs false))
            (h.settled.finalizeRecoverableUdpFecFrames hwf env afterDrainNowNs hpass)
            (by simp [ReceivePoint.afterPass])
      case nack afterDrainNowNs =>
          rw [← hstep]
          exact ⟨h.reachable.runOperation (.maybeSendUdpNackRequests afterDrainNowNs),
            h.settled.maybeSendUdpNackRequests env afterDrainNowNs,
            by simp [ReceivePoint.afterPass]⟩
      case maintenancePop afterDrainNowNs =>
          exact hstep ▸ h.tryPop afterDrainNowNs (by simp [ReceivePoint.afterPass])

end ReceiveInv

theorem runReceive_extends {env : ClientEnv} {cfg : ClientConfig} {events : List ReceiveEvent}
    {s : ReceiveState} (hrun : runReceive env cfg (ReceiveState.start cfg) events = some s) :
    ∃ completed, (StreamClient.connected cfg).log.Extends completed s.client.log := by
  have hpreserved : ∀ s event t,
      (s.client.Reachable env cfg ∧
        ∃ completed, (StreamClient.connected cfg).log.Extends completed s.client.log) →
      receiveStep env cfg s event = some t →
      t.client.Reachable env cfg ∧
        ∃ completed, (StreamClient.connected cfg).log.Extends completed t.client.log := by
    rintro s event t ⟨hreach, completed, hextends⟩ hstep
    refine ⟨receiveStep_reachable hreach hstep, ?_⟩
    rcases receiveStep_client hstep with hsame | ⟨op, hop, hnext⟩
    · rw [hsame]
      exact ⟨completed, hextends⟩
    · obtain ⟨more, hmore⟩ := runOperation_extends hreach hop
      rw [hnext]
      exact ⟨_, hextends.trans hmore⟩
  rw [runReceive_eq_runSteps] at hrun
  exact (runSteps_invariant _ hpreserved ⟨⟨[], rfl⟩, [], .refl _⟩ hrun).2

/-- In every run whose recovery passes, with the jitter buffer off, each find at most
one frame to recover, no assembly is complete in any state: none is left behind when a
call returns or waits, and expiry never discards one. Every completed frame has been
returned or is in the jitter buffer; the jitter buffer drops one only if a frame with its
number was completed before, 1024 others ago, and is in its place. -/
theorem runReceive_nothing_stranded (env : ClientEnv) (cfg : ClientConfig)
    (events : List ReceiveEvent) (s : ReceiveState)
    (hrun : runReceive env cfg (ReceiveState.start cfg) events = some s)
    (hpasses : ∀ before ∈ events.inits,
      ∀ t ∈ runReceive env cfg (ReceiveState.start cfg) before, RecoversAtMostOne cfg t) :
    (∀ (key : ℕ) (a : UdpFrameAssembly),
      s.client.udpAssemblies[key]? = some a → a.complete = false) ∧
    (∀ (nowNs key : ℕ) (a : UdpFrameAssembly), s.client.udpAssemblies[key]? = some a →
      (pruneExpiredUdpAssemblies s.client nowNs).udpAssemblies[key]? = none →
      a.complete = false) ∧
    ∀ (earlier later : List CompletedFrame) (c : CompletedFrame),
      s.client.history.completed = earlier ++ c :: later →
      Kept s.delivered s.client.udpJitterBuffer c ∨
        cfg.udpJitterBufferEnabled = true ∧ ∃ before c' between,
          earlier = before ++ c' :: between ∧ c'.sequence = c.sequence ∧
          Kept s.delivered s.client.udpJitterBuffer c' ∧
          1024 ≤ (between.filter fun d => decide (d.sequence ≠ c'.sequence)).length := by
  have hinv : ReceiveInv env cfg s := runReceive_induction
    (fun s event s' hallowed h hstep => h.step hallowed hstep) (ReceiveInv.start env cfg)
    hpasses hrun
  have hincomplete : ∀ (key : ℕ) (a : UdpFrameAssembly),
      s.client.udpAssemblies[key]? = some a → a.complete = false :=
    fun key a ha => hinv.settled.incomplete key a List.not_mem_nil ha
  refine ⟨hincomplete, fun _ key a ha _ => hincomplete key a ha, fun earlier later c hsplit => ?_⟩
  refine (hinv.settled.accounted.kept_before hsplit).imp_right ?_
  rintro ⟨hjitter, before, c', between, rfl, hsequence, hkept⟩
  refine ⟨hjitter, before, c', between, rfl, hsequence, hkept, ?_⟩
  obtain ⟨completed, hextends⟩ := runReceive_extends hrun
  obtain rfl : s.client.history.completed = completed := hextends.completed_eq
  rw [hsplit] at hextends
  exact hextends.apart (Nat.zero_le _) hsequence.symm

/-! #### Two frames recovered at once -/

/-- A datagram of a frame of two bytes in two fragments; role 0 is data, role 1 parity. -/
def twoByteDatagram (frameSequence role index : ℕ) (body : Bytes) : Bytes :=
  (buildMessageHeader .kAvStream 0 (sizeofUdpFrameFragmentHeader + body.length)).toBytes ++
    (UdpFrameFragmentHeader.toBytes
      { frameSequence := frameSequence, captureTimestampNs := 0, encodeStartTimestampNs := 0
        encodeEndTimestampNs := 0, transportSendTimestampNs := 0, framePayloadSize := 2
        fragmentOffset := index, fragmentIndex := index, fragmentCount := 2
        fragmentRole := role, reserved := 0 } ++ body)

/-- One drain brings the first fragment and the parity of two frames. -/
def twoFramesDrain : List ReceiveEvent :=
  [.call, .proceed 10, .datagram (twoByteDatagram 9 0 0 [1]) 11,
   .datagram (twoByteDatagram 10 0 0 [1]) 12, .datagram (twoByteDatagram 9 1 0 [3]) 13,
   .datagram (twoByteDatagram 10 1 0 [3]) 14, .nothing, .proceed 15]

/-- The next call finds nothing to receive and, after the timeout, prunes. -/
def nextCall : List ReceiveEvent :=
  [.call, .proceed 20, .nothing, .proceed (10 ^ 9), .proceed 0, .proceed 0]

/-- Only the first of the two frames is returned. The second is complete, but the next
call does not return it either: its assembly expires and is counted as timed out. -/
theorem twoFramesDrain_strands :
    (∃ s ∈ runReceive .idle { udpJitterBufferEnabled := false }
        (ReceiveState.start { udpJitterBufferEnabled := false }) twoFramesDrain,
      s.point = .returned ∧ s.delivered.map (fun f => f.metadata.sequence) = [9] ∧
        (s.client.udpAssemblies[10]?).any UdpFrameAssembly.complete = true) ∧
    ∃ s ∈ runReceive .idle { udpJitterBufferEnabled := false }
        (ReceiveState.start { udpJitterBufferEnabled := false }) (twoFramesDrain ++ nextCall),
      s.delivered.map (fun f => f.metadata.sequence) = [9] ∧
        s.client.udpAssemblies[10]? = none ∧ s.client.udpReceiveStats.timedOutFrames = 1 := by
  constructor
  · decide +kernel
  · decide +kernel

/-- A drain that brings one such frame. -/
def oneFrameDrain (frameSequence nowNs : ℕ) : List ReceiveEvent :=
  [.call, .proceed nowNs, .datagram (twoByteDatagram frameSequence 0 0 [1]) (nowNs + 1),
   .datagram (twoByteDatagram frameSequence 1 0 [3]) (nowNs + 2), .nothing, .proceed (nowNs + 3)]

/-- Two calls, each of which recovers one frame and returns it. -/
theorem oneFrameDrains_nothing_stranded :
    ∃ s ∈ runReceive .idle { udpJitterBufferEnabled := false }
        (ReceiveState.start { udpJitterBufferEnabled := false })
        (oneFrameDrain 9 10 ++ oneFrameDrain 10 20),
      s.delivered.map (fun f => f.metadata.sequence) = [9, 10] ∧
      (∀ (key : ℕ) (a : UdpFrameAssembly),
        s.client.udpAssemblies[key]? = some a → a.complete = false) ∧
      (∀ (nowNs key : ℕ) (a : UdpFrameAssembly), s.client.udpAssemblies[key]? = some a →
        (pruneExpiredUdpAssemblies s.client nowNs).udpAssemblies[key]? = none →
        a.complete = false) ∧
      ∀ c ∈ s.client.history.completed, Kept s.delivered s.client.udpJitterBuffer c := by
  have hruns : ∃ s ∈ runReceive .idle { udpJitterBufferEnabled := false }
      (ReceiveState.start { udpJitterBufferEnabled := false })
      (oneFrameDrain 9 10 ++ oneFrameDrain 10 20),
      s.delivered.map (fun f => f.metadata.sequence) = [9, 10] := by decide +kernel
  obtain ⟨s, hs, hdelivered⟩ := hruns
  obtain ⟨hincomplete, hpruned, hkept⟩ := runReceive_nothing_stranded .idle
    { udpJitterBufferEnabled := false } _ s hs (by decide +kernel)
  refine ⟨s, hs, hdelivered, hincomplete, hpruned, fun c hc => ?_⟩
  obtain ⟨earlier, later, hsplit⟩ := List.append_of_mem hc
  exact (hkept earlier later c hsplit).resolve_right fun ⟨hjitter, _⟩ =>
    Bool.false_ne_true hjitter

end AvProject.Client
