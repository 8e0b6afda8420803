import AvProject.Client.NackRounds

/-!
What has arrived of a frame stays: as long as its assembly does not expire, an operation
leaves the fragments that are there, or completes the frame. A data fragment that arrives
is there afterwards, and the last one completes the frame.
-/

namespace AvProject.Client

open AvProject.Lib AvProject.Protocol

/-! ### From one state to another -/

/-- `b` holds of the frame what `a` holds, and has been touched as lately. -/
structure UdpFrameAssembly.Grows (sinceNs : ℕ) (a b : UdpFrameAssembly) : Prop where
  fragmentCount : b.fragmentCount = a.fragmentCount
  has : ∀ i, a.Has i → b.Has i
  touched : sinceNs ≤ a.lastFragmentTimestampNs → sinceNs ≤ b.lastFragmentTimestampNs

/-- The frame `key` is completed between the two states. -/
def CompletesBetween (key : ℕ) (st st' : StreamClient) : Prop :=
  ∃ since, st'.log.completed = st.log.completed ++ since ∧ ∃ c ∈ since, c.sequence = key

/-- Nothing of the frame `key` is lost between the two states, and no completed frame is
forgotten. -/
structure Retains (key sinceNs : ℕ) (st st' : StreamClient) : Prop where
  completed : ∃ since, st'.log.completed = st.log.completed ++ since
  kept : CompletesBetween key st st' ∨ ∀ a, st.udpAssemblies[key]? = some a →
    ∃ b, st'.udpAssemblies[key]? = some b ∧ a.Grows sinceNs b

section

variable {env : ClientEnv} {cfg : ClientConfig} {key sinceNs nowNs : ℕ}
  {st st' st'' : StreamClient} {a b c : UdpFrameAssembly}

theorem UdpFrameAssembly.Grows.refl (sinceNs : ℕ) (a : UdpFrameAssembly) : a.Grows sinceNs a :=
  ⟨rfl, fun _ => id, id⟩

theorem UdpFrameAssembly.Grows.trans (hab : a.Grows sinceNs b) (hbc : b.Grows sinceNs c) :
    a.Grows sinceNs c where
  fragmentCount := hbc.fragmentCount.trans hab.fragmentCount
  has i hi := hbc.has i (hab.has i hi)
  touched h := hbc.touched (hab.touched h)

/-- A fragment is placed where there is room for it. -/
theorem UdpFrameAssembly.grows_place {index offset size : ℕ} {bytes : Bytes} {recovered : Bool}
    (hindex : index < a.fragmentCount) :
    a.Grows sinceNs (a.place index offset size bytes recovered) where
  fragmentCount := UdpFrameAssembly.place_fragmentCount a index offset size bytes recovered
  has i hi := (UdpFrameAssembly.has_place hindex i).mpr (.inr hi)
  touched := id

theorem CompletesBetween.of_retire {c : CompletedFrame} (hlog : st'.log = st.log.retire c)
    (hsequence : c.sequence = key) : CompletesBetween key st st' :=
  ⟨[c], congrArg CompletionLog.completed hlog, c, List.mem_singleton_self c, hsequence⟩

theorem CompletesBetween.append (h : CompletesBetween key st st')
    (hmore : ∃ since, st''.log.completed = st'.log.completed ++ since) :
    CompletesBetween key st st'' := by
  obtain ⟨first, hfirst, c, hc, hkey⟩ := h
  obtain ⟨rest, hrest⟩ := hmore
  exact ⟨first ++ rest, by rw [hrest, hfirst, List.append_assoc], c,
    List.mem_append_left _ hc, hkey⟩

theorem CompletesBetween.prepend (h : CompletesBetween key st' st'')
    (hfirst : ∃ since, st'.log.completed = st.log.completed ++ since) :
    CompletesBetween key st st'' := by
  obtain ⟨first, hfirst⟩ := hfirst
  obtain ⟨rest, hrest, c, hc, hkey⟩ := h
  exact ⟨first ++ rest, by rw [hrest, hfirst, List.append_assoc], c,
    List.mem_append_right _ hc, hkey⟩

namespace Retains

theorem of_log (hlog : st'.log = st.log) (hkept : ∀ a, st.udpAssemblies[key]? = some a →
    ∃ b, st'.udpAssemblies[key]? = some b ∧ a.Grows sinceNs b) : Retains key sinceNs st st' where
  completed := ⟨[], by rw [hlog, List.append_nil]⟩
  kept := .inr hkept

theorem of_map (hlog : st'.log = st.log) (hmap : st'.udpAssemblies = st.udpAssemblies) :
    Retains key sinceNs st st' :=
  of_log hlog fun a ha => ⟨a, hmap ▸ ha, .refl sinceNs a⟩

theorem refl (key sinceNs : ℕ) (st : StreamClient) : Retains key sinceNs st st := of_map rfl rfl

theorem trans (h : Retains key sinceNs st st') (h' : Retains key sinceNs st' st'') :
    Retains key sinceNs st st'' := by
  refine ⟨?_, ?_⟩
  · obtain ⟨first, hfirst⟩ := h.completed
    obtain ⟨rest, hrest⟩ := h'.completed
    exact ⟨first ++ rest, by rw [hrest, hfirst, List.append_assoc]⟩
  rcases h.kept with hdone | hkept
  · exact .inl (hdone.append h'.completed)
  · rcases h'.kept with hdone | hkept'
    · exact .inl (hdone.prepend h.completed)
    · refine .inr fun a ha => ?_
      obtain ⟨b, hb, hab⟩ := hkept a ha
      obtain ⟨c, hc, hbc⟩ := hkept' b hb
      exact ⟨c, hc, hab.trans hbc⟩

/-- An assembly may be replaced by one that holds as much. -/
theorem insert (hlog : st'.log = st.log) {k : ℕ}
    (hmap : st'.udpAssemblies = st.udpAssemblies.insert k b)
    (hgrows : ∀ a, st.udpAssemblies[k]? = some a → a.Grows sinceNs b) :
    Retains key sinceNs st st' := by
  refine of_log hlog fun a ha => ?_
  rw [hmap, OrdMap.getElem?_insert]
  by_cases hk : k = key
  · rw [if_pos hk]
    exact ⟨b, rfl, hgrows a (hk ▸ ha)⟩
  · rw [if_neg hk]
    exact ⟨a, ha, .refl sinceNs a⟩

/-- A frame that is retired is completed; the assembly of another one stays. -/
theorem retire {k : ℕ} {c : CompletedFrame} (hlog : st'.log = st.log.retire c)
    (hsequence : c.sequence = k) (hmap : st'.udpAssemblies = st.udpAssemblies.erase k) :
    Retains key sinceNs st st' := by
  refine ⟨⟨[c], congrArg CompletionLog.completed hlog⟩, ?_⟩
  by_cases hk : k = key
  · exact .inl (.of_retire hlog (hsequence.trans hk))
  · refine .inr fun a ha => ⟨a, ?_, .refl sinceNs a⟩
    rw [hmap, OrdMap.getElem?_erase, if_neg hk]
    exact ha

end Retains

/-! ### Pops, requests and completions -/

theorem tryPopReadyUdpFrame_retains (cfg : ClientConfig) (st : StreamClient) (nowNs : ℕ) :
    Retains key sinceNs st (tryPopReadyUdpFrame cfg st nowNs).1 :=
  .of_map (tryPopReadyUdpFrame_log cfg st nowNs) (tryPopReadyUdpFrame_udpAssemblies cfg st nowNs)

theorem requestMissingFragments_retains (env : ClientEnv) (cfg : ClientConfig) (nowNs : ℕ)
    (st : StreamClient) (k : ℕ) :
    Retains key sinceNs st (requestMissingFragments env cfg nowNs st k) := by
  rw [requestMissingFragments]
  split
  · exact .refl key sinceNs st
  rename_i a hstored
  split
  · exact .refl key sinceNs st
  have hcore := sendUdpNack_core env cfg
    (st.check [.difference a.receivedFragments.length a.receivedFragmentCount]) nowNs
    a.metadata.sequence (a.missingFragments.map (· % 2 ^ 16))
  have hlog := StreamClient.log_eq_of_core hcore
  have hmap := congrArg ReceiverCore.udpAssemblies hcore
  simp only
  split
  · refine .insert hlog
      (congrArg (fun m : OrdMap UdpFrameAssembly => m.insert k _) hmap) fun b hb => ?_
    obtain rfl := Option.some.inj (hstored.symm.trans hb)
    exact ⟨rfl, fun _ => id, id⟩
  · exact .of_map hlog hmap

theorem maybeSendUdpNackRequests_retains (env : ClientEnv) (cfg : ClientConfig)
    (st : StreamClient) (nowNs : ℕ) :
    Retains key sinceNs st (maybeSendUdpNackRequests env cfg st nowNs) :=
  maybeSendUdpNackRequests_invariant
    (fun _ k h => h.trans (requestMissingFragments_retains env cfg nowNs _ k)) (.refl _ _ st)

theorem finalizeCompletedUdpFrame_retains (env : ClientEnv) (cfg : ClientConfig)
    (st : StreamClient) (k : ℕ) (a : UdpFrameAssembly) (nowNs : ℕ) (deferReadyPop : Bool) :
    Retains key sinceNs st (finalizeCompletedUdpFrame env cfg st k a nowNs deferReadyPop).1 := by
  have hretired : Retains key sinceNs st
      (retireCompletedUdpFrame st k a (completedUdpFrame cfg a nowNs) nowNs) :=
    .retire (retireCompletedUdpFrame_log ..) rfl (retireCompletedUdpFrame_udpAssemblies ..)
  unfold finalizeCompletedUdpFrame
  split
  · exact .refl key sinceNs st
  simp only
  split
  · exact hretired
  have hbuffered : Retains key sinceNs st (bufferCompletedUdpFrame
      (retireCompletedUdpFrame st k a (completedUdpFrame cfg a nowNs) nowNs)
      (completedUdpFrame cfg a nowNs)) :=
    hretired.trans
      (.of_map (bufferCompletedUdpFrame_log ..) (bufferCompletedUdpFrame_udpAssemblies ..))
  split
  · exact hbuffered
  · exact (hbuffered.trans (maybeSendUdpNackRequests_retains env cfg _ nowNs)).trans
      (tryPopReadyUdpFrame_retains cfg _ nowNs)

theorem finishIfComplete_retains (env : ClientEnv) (cfg : ClientConfig) (st : StreamClient)
    (k : ℕ) (a : UdpFrameAssembly) (nowNs : ℕ) (deferReadyPop : Bool) :
    Retains key sinceNs st (finishIfComplete env cfg st k a nowNs deferReadyPop).1 := by
  unfold finishIfComplete
  split
  · exact finalizeCompletedUdpFrame_retains env cfg st k a nowNs deferReadyPop
  · exact .refl key sinceNs st

/-! ### Recovery -/

theorem recoverAssembly_retains {k : ℕ} (hstored : st.udpAssemblies[k]? = some a)
    (cfg : ClientConfig) : Retains key sinceNs st (recoverAssembly cfg st k a).1 := by
  rcases recoverAssembly_cases cfg st k a with
    ⟨-, hmap, -⟩ | ⟨missing, offset, size, bytes, hrec, -, -, hmap⟩
  · exact .of_map (recoverAssembly_log ..) hmap
  · refine .insert (recoverAssembly_log ..) hmap fun b hb => ?_
    obtain rfl := Option.some.inj (hstored.symm.trans hb)
    exact UdpFrameAssembly.grows_place (UdpFrameAssembly.mem_missingFragments.mp
      (hrec.missing_eq ▸ List.mem_singleton_self missing)).1

theorem recoverAssemblies_retains (cfg : ClientConfig) (keys recovered : List ℕ)
    (st : StreamClient) : Retains key sinceNs st (recoverAssemblies cfg keys st recovered).1 := by
  induction keys generalizing st recovered with
  | nil => exact .refl key sinceNs st
  | cons k keys ih =>
      unfold recoverAssemblies
      split
      · exact ih recovered st
      rename_i a hstored
      split
      · exact ih recovered st
      have hstep : Retains key sinceNs st _ := recoverAssembly_retains hstored cfg
      split
      all_goals
        rename_i heq
        rw [heq] at hstep
        exact hstep.trans (ih _ _)

theorem finalizeRecovered_retains (env : ClientEnv) (cfg : ClientConfig) (nowNs : ℕ)
    (deferReadyPop : Bool) (sequences : List ℕ) (st : StreamClient) :
    Retains key sinceNs st
      (finalizeRecovered env cfg nowNs deferReadyPop sequences st).1 := by
  induction sequences generalizing st with
  | nil => exact .refl key sinceNs st
  | cons k rest ih =>
      unfold finalizeRecovered
      split
      · exact ih st
      rename_i a hstored
      split
      · exact ih st
      have hstep : Retains key sinceNs st _ :=
        finalizeCompletedUdpFrame_retains env cfg st k a nowNs deferReadyPop
      split
      · rename_i heq
        rw [heq] at hstep
        exact hstep
      · rename_i heq
        rw [heq] at hstep
        exact hstep.trans (ih _)

/-! ### Datagrams -/

/-- The assembly of the frame, where there is one, is not given up at `nowNs`. -/
def Unexpired (st : StreamClient) (key nowNs : ℕ) : Prop :=
  ∀ a, st.udpAssemblies[key]? = some a → a.expired nowNs = false

theorem Unexpired.getElem?_filter (hlive : Unexpired st key nowNs)
    (hstored : st.udpAssemblies[key]? = some a) :
    (st.udpAssemblies.filter fun _ a => !a.expired nowNs)[key]? = some a := by
  rw [OrdMap.getElem?_filter, hstored, Option.filter_some, hlive a hstored]
  rfl

theorem pruneExpiredUdpAssemblies_retains (hlive : Unexpired st key nowNs) :
    Retains key sinceNs st (pruneExpiredUdpAssemblies st nowNs) :=
  .of_log rfl fun a ha => ⟨a, hlive.getElem?_filter ha, .refl sinceNs a⟩

theorem receiveFragment_retains {fragment : UdpFrameFragmentHeader}
    (hstored : st.udpAssemblies[fragment.frameSequence]? = some a)
    (hindex : fragment.fragmentIndex < a.fragmentCount) (body : Bytes) (hnow : sinceNs ≤ nowNs) :
    Retains key sinceNs st (receiveFragment st a fragment body nowNs).1 := by
  unfold receiveFragment
  simp only
  split
  · exact .of_map rfl rfl
  · refine .insert rfl rfl fun b hb => ?_
    obtain rfl := Option.some.inj (hstored.symm.trans hb)
    exact ⟨List.length_set,
      fun i hi => (UdpFrameAssembly.has_storeFragment hindex i).mpr (.inr hi), fun _ => hnow⟩

theorem recoverIfIncomplete_retains {k : ℕ} (hstored : st.udpAssemblies[k]? = some a)
    (cfg : ClientConfig) : Retains key sinceNs st (recoverIfIncomplete cfg st k a).1 := by
  unfold recoverIfIncomplete
  split
  · exact recoverAssembly_retains hstored cfg
  · exact .refl key sinceNs st

/-- The recovery leaves an assembly that holds as much, and stores it. -/
theorem recoverIfIncomplete_grows {k : ℕ} (hstored : st.udpAssemblies[k]? = some a)
    (cfg : ClientConfig) :
    (recoverIfIncomplete cfg st k a).1.udpAssemblies[k]? =
        some (recoverIfIncomplete cfg st k a).2 ∧
      a.Grows 0 (recoverIfIncomplete cfg st k a).2 := by
  unfold recoverIfIncomplete
  split
  · refine ⟨(recoverAssembly_quiet hstored cfg 0).2, ?_⟩
    rcases recoverAssembly_cases cfg st k a with
      ⟨heq, -, -⟩ | ⟨missing, offset, size, bytes, hrec, -, heq, -⟩
    · simp only [heq]
      exact .refl 0 a
    · simp only [heq]
      exact UdpFrameAssembly.grows_place (UdpFrameAssembly.mem_missingFragments.mp
        (hrec.missing_eq ▸ List.mem_singleton_self missing)).1
  · exact ⟨hstored, .refl 0 a⟩

/-- The assembly has the layout that the fragment describes. -/
def HasLayout (fragment : UdpFrameFragmentHeader) (a : UdpFrameAssembly) : Prop :=
  a.receivedFragments.length = fragment.fragmentCount ∧
    a.payload.length = fragment.framePayloadSize

section Datagram

variable {header : MessageHeader} {fragment : UdpFrameFragmentHeader} {body : Bytes}

/-- The rest of the datagram, once its assembly is stored. -/
theorem acceptStored_retains (hstored : st.udpAssemblies[fragment.frameSequence]? = some a)
    (hindex : fragment.fragmentRole ≠ UdpFragmentRole.kXorParity.code →
      fragment.fragmentIndex < a.fragmentCount)
    (env : ClientEnv) (cfg : ClientConfig) (hnow : sinceNs ≤ nowNs) (deferReadyPop : Bool) :
    Retains key sinceNs st
      (if fragment.fragmentRole = UdpFragmentRole.kXorParity.code then
        acceptParityFragment env cfg st a fragment.frameSequence body nowNs deferReadyPop
      else acceptDataFragment env cfg st a fragment body nowNs deferReadyPop).1 := by
  split
  · rw [acceptParityFragment]
    refine Retains.trans ?_ (finishIfComplete_retains env cfg _ _ _ nowNs deferReadyPop)
    refine .insert rfl rfl fun b hb => ?_
    obtain rfl := Option.some.inj (hstored.symm.trans hb)
    unfold storeParity
    split <;> exact ⟨rfl, fun _ => id, fun _ => hnow⟩
  · rename_i hdata
    have hreceived : Retains key sinceNs st _ :=
      receiveFragment_retains hstored (hindex hdata) body hnow
    have hheld := (receiveFragment_quiet hstored body nowNs).2
    exact (hreceived.trans (recoverIfIncomplete_retains hheld cfg)).trans
      (finishIfComplete_retains env cfg _ _ _ nowNs deferReadyPop)

/-- A datagram with another layout would make the receiver give up the assembly. -/
theorem assembleFragment_retains
    (hwf : ∀ (k : ℕ) a, st.udpAssemblies[k]? = some a → a.WellFormed k)
    (hvalid : ValidFragment fragment body)
    (hlayout : fragment.frameSequence = key → ∀ a, st.udpAssemblies[key]? = some a →
      HasLayout fragment a)
    (env : ClientEnv) (cfg : ClientConfig) (header : MessageHeader) (hnow : sinceNs ≤ nowNs)
    (deferReadyPop : Bool) :
    Retains key sinceNs st
      (assembleFragment env cfg st header fragment body nowNs deferReadyPop).1 := by
  generalize hopen : openAssembly cfg st.udpAssemblies[fragment.frameSequence]? header fragment
    nowNs = a
  have hsame (b : UdpFrameAssembly) (hb : st.udpAssemblies[fragment.frameSequence]? = some b) :
      b = a := by
    rw [← hopen, hb, (hwf _ b hb).openAssembly_some]
  by_cases hmatch : HasLayout fragment a
  · rw [assembleFragment_of_layout env hopen hmatch]
    have hopened : Retains key sinceNs st (storeUdpAssembly st fragment.frameSequence a) := by
      refine .insert rfl rfl fun b hb => ?_
      rw [hsame b hb]
      exact .refl sinceNs a
    refine hopened.trans (acceptStored_retains (storeUdpAssembly_self _ _ _) ?_ env cfg hnow
      deferReadyPop)
    intro hdata
    exact (hvalid.index_lt (hvalid.role.resolve_right hdata)).trans_eq hmatch.1.symm
  · -- the assembly that is given up is not that of the frame
    unfold assembleFragment
    simp only [hopen]
    rw [if_pos (not_and_or.mp hmatch)]
    refine .of_log rfl fun b hb => ⟨b, ?_, .refl sinceNs b⟩
    have hother : fragment.frameSequence ≠ key := by
      rintro rfl
      exact hmatch (hsame b hb ▸ hlayout rfl b hb)
    show (st.udpAssemblies.erase fragment.frameSequence)[key]? = some b
    rw [OrdMap.getElem?_erase, if_neg hother]
    exact hb

theorem noteDatagram_retains (hlive : Unexpired st key nowNs) (data : Bytes) :
    Retains key sinceNs st (noteDatagram st data nowNs) :=
  .of_log rfl fun a ha => ⟨a, hlive.getElem?_filter ha, .refl sinceNs a⟩

/-- What is stored after the passing of time was stored before. -/
theorem noteDatagram_stored {data : Bytes} {k : ℕ}
    (h : (noteDatagram st data nowNs).udpAssemblies[k]? = some a) :
    st.udpAssemblies[k]? = some a := by
  have hfilter : (st.udpAssemblies.filter fun _ a => !a.expired nowNs)[k]? = some a := h
  rw [OrdMap.getElem?_filter] at hfilter
  exact (Option.filter_eq_some_iff.mp hfilter).1

theorem processUdpDatagram_retains {data : Bytes}
    (h : ReceiverInv (fun key a => a.WellFormed key) (fun _ => True) (fun _ => True) st)
    (hlive : Unexpired st key nowNs)
    (hlayout : ∀ header fragment body, parseUdpDatagram data = some (header, fragment, body) →
      fragment.frameSequence = key → ∀ a, st.udpAssemblies[key]? = some a →
        HasLayout fragment a)
    (env : ClientEnv) (cfg : ClientConfig) (hnow : sinceNs ≤ nowNs) (deferReadyPop : Bool) :
    Retains key sinceNs st (processUdpDatagram env cfg st data nowNs deferReadyPop).1 := by
  have hnoted : Retains key sinceNs st (noteDatagram st data nowNs) :=
    noteDatagram_retains hlive data
  have hwf := (h.noteDatagram (wellFormedRules cfg) data nowNs).assemblies
  unfold processUdpDatagram
  simp only
  split
  · exact hnoted.trans (.of_map rfl rfl)
  rename_i header fragment body hparse
  have hcore := shouldInjectUdpLoss_core cfg (noteDatagram st data nowNs) fragment
  have hmap := congrArg ReceiverCore.udpAssemblies hcore
  have hlog := StreamClient.log_eq_of_core hcore
  unfold acceptFragment
  generalize shouldInjectUdpLoss cfg (noteDatagram st data nowNs) fragment = outcome
    at hmap hlog
  obtain ⟨injected, dropped⟩ := outcome
  have hready := hnoted.trans (.of_map hlog hmap)
  simp only [StreamClient.core] at hmap
  cases dropped with
  | true => exact hready
  | false =>
      simp only
      split
      · exact hready.trans (.of_map rfl rfl)
      · refine hready.trans (assembleFragment_retains ?_ (parseUdpDatagram_valid hparse) ?_ env
          cfg header hnow deferReadyPop)
        · rw [hmap]
          exact hwf
        · rw [hmap]
          exact fun hkey a ha =>
            hlayout header fragment body hparse hkey a (noteDatagram_stored ha)

/-- A data fragment that arrives is there afterwards, in an assembly that still misses
another one, or its frame is completed. -/
theorem processUdpDatagram_delivers {data : Bytes} (hloss : cfg.udpTestLossPattern = .none)
    (hparse : parseUdpDatagram data = some (header, fragment, body))
    (hdata : fragment.fragmentRole = UdpFragmentRole.kData.code)
    (hstored : st.udpAssemblies[fragment.frameSequence]? = some a)
    (hwf : a.WellFormed fragment.frameSequence)
    (hrecent : fragment.frameSequence ∉ st.recentlyCompletedUdpSequences)
    (hlive : Unexpired st fragment.frameSequence nowNs) (hlayout : HasLayout fragment a)
    (env : ClientEnv) (deferReadyPop : Bool) :
    CompletesBetween fragment.frameSequence st
        (processUdpDatagram env cfg st data nowNs deferReadyPop).1 ∨
      ∃ b, (processUdpDatagram env cfg st data nowNs
          deferReadyPop).1.udpAssemblies[fragment.frameSequence]? = some b ∧
        b.Has fragment.fragmentIndex ∧ b.complete = false := by
  have hindex : fragment.fragmentIndex < a.fragmentCount :=
    ((parseUdpDatagram_valid hparse).index_lt hdata).trans_eq hlayout.1.symm
  have hnoted : (noteDatagram st data nowNs).udpAssemblies[fragment.frameSequence]? = some a :=
    hlive.getElem?_filter hstored
  have hopen : openAssembly cfg
      (noteDatagram st data nowNs).udpAssemblies[fragment.frameSequence]? header fragment nowNs =
        a := by
    rw [hnoted, hwf.openAssembly_some]
  rw [processUdpDatagram_fresh env hloss hparse hrecent,
    assembleFragment_of_layout env hopen hlayout, if_neg (by rw [hdata]; decide),
    acceptDataFragment]
  have hlog : (storeUdpAssembly (noteDatagram st data nowNs) fragment.frameSequence a).log =
      st.log := rfl
  have hself := storeUdpAssembly_self (noteDatagram st data nowNs) fragment.frameSequence a
  generalize storeUdpAssembly (noteDatagram st data nowNs) fragment.frameSequence a = opened
    at hlog hself ⊢
  have hreceived : (receiveFragment opened a fragment body nowNs).2.Has
      fragment.fragmentIndex := by
    by_cases hhas : a.Has fragment.fragmentIndex
    · rw [(receiveFragment_duplicate hhas opened body nowNs).1]
      exact hhas
    · rw [(receiveFragment_new hhas opened body nowNs).1]
      exact (UdpFrameAssembly.has_storeFragment hindex _).mpr (.inl rfl)
  have hheld := (receiveFragment_quiet hself body nowNs).2
  obtain ⟨hrecovered, hgrows⟩ := recoverIfIncomplete_grows hheld cfg
  simp only
  rw [finishIfComplete]
  split
  · rename_i hcomplete
    have hretired := finalizeCompletedUdpFrame_log env cfg
      (recoverIfIncomplete cfg (receiveFragment opened a fragment body nowNs).1
        fragment.frameSequence (receiveFragment opened a fragment body nowNs).2).1
      fragment.frameSequence hcomplete nowNs deferReadyPop
    rw [recoverIfIncomplete_log, receiveFragment_log, hlog] at hretired
    exact .inl (.of_retire hretired rfl)
  · rename_i hopen
    exact .inr ⟨_, hrecovered, hgrows.has _ hreceived, by simpa using hopen⟩

end Datagram

/-! ### Operations -/

/-- An operation that is no new connection, at a time when the assembly of the frame is not
given up; a datagram for the frame has the layout of its assembly. -/
structure Undisturbed (st : StreamClient) (key sinceNs : ℕ) (op : UdpOperation) : Prop where
  time : ∃ nowNs, op.nowNs? = some nowNs ∧ sinceNs ≤ nowNs ∧ Unexpired st key nowNs
  layout : ∀ data nowNs deferReadyPop, op = .processUdpDatagram data nowNs deferReadyPop →
    ∀ header fragment body, parseUdpDatagram data = some (header, fragment, body) →
      fragment.frameSequence = key → ∀ a, st.udpAssemblies[key]? = some a →
        HasLayout fragment a

/-- What has arrived of a frame stays. -/
theorem runOperation_retains
    (h : ReceiverInv (fun key a => a.WellFormed key) (fun _ => True) (fun _ => True) st)
    (env : ClientEnv) (cfg : ClientConfig) {op : UdpOperation}
    (hop : Undisturbed st key sinceNs op) :
    Retains key sinceNs st (runOperation env cfg st op).1 := by
  obtain ⟨nowNs, htime, hsince, hlive⟩ := hop.time
  cases op with
  | connect => cases htime
  | processUdpDatagram data time deferReadyPop =>
      obtain rfl := Option.some.inj htime
      exact processUdpDatagram_retains h hlive (hop.layout _ _ _ rfl) env cfg hsince deferReadyPop
  | finalizeRecoverableUdpFecFrames time deferReadyPop =>
      exact (recoverAssemblies_retains cfg _ [] st).trans
        (finalizeRecovered_retains env cfg time deferReadyPop _ _)
  | tryPopReadyUdpFrame time => exact tryPopReadyUdpFrame_retains cfg st time
  | pruneExpiredUdpAssemblies time =>
      obtain rfl := Option.some.inj htime
      exact pruneExpiredUdpAssemblies_retains hlive
  | maybeSendUdpNackRequests time => exact maybeSendUdpNackRequests_retains env cfg st time

end

end AvProject.Client
