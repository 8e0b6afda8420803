import AvProject.Client.UdpCompletion

/-!
The pass `finalizeRecoverableUdpFecFrames` as a whole: what its first loop does to
the map of assemblies, and when its second loop gets to the end of its list.
-/

namespace AvProject.Client

open AvProject.Lib AvProject.Protocol

/-- The recovery would succeed for the assembly stored under `key`. -/
def recoverable (cfg : ClientConfig) (st : StreamClient) (key : ℕ) : Bool :=
  st.udpAssemblies[key]?.any fun a => (maybeRecoverWithUdpFec cfg a).recovered

section

variable {cfg : ClientConfig} {st : StreamClient} {a : UdpFrameAssembly}

theorem recoverable_of_getElem? {key : ℕ} (h : st.udpAssemblies[key]? = some a) :
    recoverable cfg st key = (maybeRecoverWithUdpFec cfg a).recovered := by
  rw [recoverable, h, Option.any_some]

theorem recoverable_congr {st' : StreamClient} {key : ℕ}
    (h : st'.udpAssemblies[key]? = st.udpAssemblies[key]?) :
    recoverable cfg st' key = recoverable cfg st key := by
  rw [recoverable, recoverable, h]

/-- Nothing is recovered where nothing is missing. -/
theorem maybeRecoverWithUdpFec_of_count_ge (cfg : ClientConfig)
    (h : a.receivedFragmentCount ≥ a.receivedFragments.length) :
    (maybeRecoverWithUdpFec cfg a).recovered = false ∧
      (maybeRecoverWithUdpFec cfg a).assembly = a := by
  simp [maybeRecoverWithUdpFec, h]

/-- Nor is anything where two fragments or more are missing. -/
theorem maybeRecoverWithUdpFec_of_two_missing (cfg : ClientConfig)
    (h : 2 ≤ a.missingFragments.length) :
    (maybeRecoverWithUdpFec cfg a).recovered = false ∧
      (maybeRecoverWithUdpFec cfg a).assembly = a := by
  rcases maybeRecoverWithUdpFec_cases cfg a with
    hfailed | ⟨-, -, -, -, missing, offset, size, bytes, hrec, -⟩
  · exact hfailed
  · rw [hrec.missing_eq] at h
    simp at h

/-- What was recovered is complete. -/
theorem UdpFrameAssembly.WellFormed.complete_recovered {key : ℕ} (h : a.WellFormed key)
    (hrecovered : (maybeRecoverWithUdpFec cfg a).recovered = true) :
    (maybeRecoverWithUdpFec cfg a).assembly.complete = true := by
  rcases maybeRecoverWithUdpFec_cases cfg a with
    ⟨hfalse, -⟩ | ⟨-, -, -, -, missing, offset, size, bytes, hrec, heq⟩
  · rw [hrecovered] at hfalse
    simp at hfalse
  · rw [heq]
    exact h.complete_place_recovery hrec

/-! ### The first loop -/

theorem recoverAssembly_spec (cfg : ClientConfig) {key : ℕ}
    (h : st.udpAssemblies[key]? = some a) :
    (∀ k : ℕ, (recoverAssembly cfg st key a).1.udpAssemblies[k]? =
      if k = key then some (maybeRecoverWithUdpFec cfg a).assembly
      else st.udpAssemblies[k]?) ∧
    (recoverAssembly cfg st key a).2.2 = (maybeRecoverWithUdpFec cfg a).recovered := by
  simp only [recoverAssembly]
  rcases maybeRecoverWithUdpFec_cases cfg a with ⟨hfalse, heq⟩ | ⟨htrue, -⟩
  · rw [hfalse, heq]
    refine ⟨fun k => ?_, rfl⟩
    by_cases hk : k = key
    · rw [if_pos hk, hk]
      exact h
    · rw [if_neg hk]
      rfl
  · rw [htrue]
    refine ⟨fun k => ?_, rfl⟩
    rw [if_pos rfl]
    simp only [OrdMap.getElem?_insert, eq_comm (a := key)]
    rfl

/-- Every assembly in `keys` is replaced by the outcome of its recovery, and the keys
of those that were recovered are collected. -/
theorem recoverAssemblies_spec (cfg : ClientConfig) (keys : List ℕ) (hnodup : keys.Nodup)
    (st : StreamClient) (recovered : List ℕ) :
    (∀ k : ℕ, (recoverAssemblies cfg keys st recovered).1.udpAssemblies[k]? =
      if k ∈ keys then
        st.udpAssemblies[k]?.map fun a => (maybeRecoverWithUdpFec cfg a).assembly
      else st.udpAssemblies[k]?) ∧
    (recoverAssemblies cfg keys st recovered).2 =
      recovered ++ keys.filter (recoverable cfg st) ∧
    (recoverAssemblies cfg keys st recovered).1.log = st.log := by
  induction keys generalizing st recovered with
  | nil => exact ⟨fun k => by simp [recoverAssemblies], by simp [recoverAssemblies], rfl⟩
  | cons key rest ih =>
      obtain ⟨hnot, hrest⟩ := List.nodup_cons.mp hnodup
      -- the step at `key`, in the form that all its branches have
      have hstep (st' : StreamClient) (flag : Bool)
          (hmap : ∀ k : ℕ, st'.udpAssemblies[k]? = if k = key then
            st.udpAssemblies[key]?.map fun a => (maybeRecoverWithUdpFec cfg a).assembly
            else st.udpAssemblies[k]?)
          (hflag : recoverable cfg st key = flag) (hlog : st'.log = st.log) :
          (∀ k : ℕ, (recoverAssemblies cfg rest st'
              (recovered ++ if flag then [key] else [])).1.udpAssemblies[k]? =
            if k ∈ key :: rest then
              st.udpAssemblies[k]?.map fun a => (maybeRecoverWithUdpFec cfg a).assembly
            else st.udpAssemblies[k]?) ∧
          (recoverAssemblies cfg rest st' (recovered ++ if flag then [key] else [])).2 =
            recovered ++ (key :: rest).filter (recoverable cfg st) ∧
          (recoverAssemblies cfg rest st'
            (recovered ++ if flag then [key] else [])).1.log = st.log := by
        obtain ⟨hmap', hlist', hlog'⟩ :=
          ih hrest st' (recovered ++ if flag then [key] else [])
        have hsame : rest.filter (recoverable cfg st') = rest.filter (recoverable cfg st) := by
          refine List.filter_congr fun k hk => recoverable_congr ?_
          have hne : k ≠ key := by
            rintro rfl
            exact hnot hk
          rw [hmap k, if_neg hne]
        refine ⟨fun k => ?_, ?_, hlog'.trans hlog⟩
        · rw [hmap' k, hmap k]
          by_cases hk : k = key
          · subst hk
            rw [if_neg hnot, if_pos rfl, if_pos List.mem_cons_self]
          · simp only [hk, if_false, List.mem_cons, false_or]
        · rw [hlist', hsame, List.filter_cons, hflag, List.append_assoc]
          cases flag <;> rfl
      simp only [recoverAssemblies]
      cases hstored : st.udpAssemblies[key]? with
      | none =>
          have h := hstep st false (fun k => ?_) (by rw [recoverable, hstored]; rfl) rfl
          · simpa using h
          · by_cases hk : k = key
            · rw [if_pos hk, hk, hstored]
              rfl
            · rw [if_neg hk]
      | some a =>
          simp only
          split
          · rename_i hcount
            obtain ⟨hfalse, hsame⟩ := maybeRecoverWithUdpFec_of_count_ge cfg hcount
            have h := hstep st false (fun k => ?_)
              ((recoverable_of_getElem? hstored).trans hfalse) rfl
            · simpa using h
            · by_cases hk : k = key
              · rw [if_pos hk, hk, hstored, Option.map_some, hsame]
              · rw [if_neg hk]
          · obtain ⟨hmap, hflag⟩ := recoverAssembly_spec cfg hstored
            have hlog := recoverAssembly_log cfg st key a
            generalize recoverAssembly cfg st key a = outcome at hmap hflag hlog
            obtain ⟨st', b, flag⟩ := outcome
            have h := hstep st' flag (fun k => ?_)
              ((recoverable_of_getElem? hstored).trans hflag.symm) hlog
            · cases flag
              · simpa using h
              · exact h
            · rw [hmap k, hstored]
              rfl

/-- The keys whose assemblies the pass recovers, in the order of the map. -/
def recoverableKeys (cfg : ClientConfig) (st : StreamClient) : List ℕ :=
  st.udpAssemblies.keys.filter (recoverable cfg st)

theorem nodup_recoverableKeys (cfg : ClientConfig) (st : StreamClient) :
    (recoverableKeys cfg st).Nodup :=
  Std.ExtTreeMap.nodup_keys.filter _

theorem mem_recoverableKeys {key : ℕ} :
    key ∈ recoverableKeys cfg st ↔ recoverable cfg st key = true := by
  rw [recoverableKeys, List.mem_filter, Std.ExtTreeMap.mem_keys,
    Std.ExtTreeMap.mem_iff_isSome_getElem?, and_iff_right_iff_imp, recoverable]
  cases st.udpAssemblies[key]? <;> simp

/-- The state between the two loops. -/
def recoveredState (cfg : ClientConfig) (st : StreamClient) : StreamClient :=
  (recoverAssemblies cfg st.udpAssemblies.keys st []).1

theorem getElem?_recoveredState (cfg : ClientConfig) (st : StreamClient) (k : ℕ) :
    (recoveredState cfg st).udpAssemblies[k]? =
      st.udpAssemblies[k]?.map fun a => (maybeRecoverWithUdpFec cfg a).assembly := by
  rw [recoveredState,
    (recoverAssemblies_spec cfg _ Std.ExtTreeMap.nodup_keys st []).1 k, ite_eq_left_iff]
  intro hk
  rw [Std.ExtTreeMap.mem_keys] at hk
  rw [OrdMap.getElem?_eq_none hk, Option.map_none]

@[simp] theorem recoveredState_log (cfg : ClientConfig) (st : StreamClient) :
    (recoveredState cfg st).log = st.log :=
  (recoverAssemblies_spec cfg _ Std.ExtTreeMap.nodup_keys st []).2.2

@[simp] theorem recoverAssemblies_udpJitterBuffer (cfg : ClientConfig) (keys : List ℕ)
    (st : StreamClient) (recovered : List ℕ) :
    (recoverAssemblies cfg keys st recovered).1.udpJitterBuffer = st.udpJitterBuffer := by
  have hrecover (st : StreamClient) (key : ℕ) (a : UdpFrameAssembly) :
      (recoverAssembly cfg st key a).1.udpJitterBuffer = st.udpJitterBuffer := by
    simp only [recoverAssembly]
    split <;> rfl
  exact recoverAssemblies_kept hrecover keys st recovered

@[simp] theorem recoveredState_udpJitterBuffer (cfg : ClientConfig) (st : StreamClient) :
    (recoveredState cfg st).udpJitterBuffer = st.udpJitterBuffer :=
  recoverAssemblies_udpJitterBuffer cfg _ st []

theorem finalizeRecoverableUdpFecFrames_eq (env : ClientEnv) (cfg : ClientConfig)
    (st : StreamClient) (nowNs : ℕ) (deferReadyPop : Bool) :
    finalizeRecoverableUdpFecFrames env cfg st nowNs deferReadyPop =
      finalizeRecovered env cfg nowNs deferReadyPop (recoverableKeys cfg st)
        (recoveredState cfg st) := by
  have hnodup := Std.ExtTreeMap.nodup_keys (t := st.udpAssemblies)
  have hlist := (recoverAssemblies_spec cfg _ hnodup st []).2.1
  rw [List.nil_append] at hlist
  rw [recoverableKeys, ← hlist]
  rfl

/-- What is recovered is found complete by the second loop. -/
theorem recoveredState_complete {key : ℕ} (hwf : ∀ (k : ℕ) (a : UdpFrameAssembly),
      st.udpAssemblies[k]? = some a → a.WellFormed k)
    (hkey : key ∈ recoverableKeys cfg st) :
    ∃ a, (recoveredState cfg st).udpAssemblies[key]? = some a ∧ a.complete = true := by
  rw [mem_recoverableKeys] at hkey
  cases hstored : st.udpAssemblies[key]? with
  | none => simp [recoverable, hstored] at hkey
  | some a =>
      rw [recoverable_of_getElem? hstored] at hkey
      rw [getElem?_recoveredState, hstored]
      exact ⟨_, rfl, (hwf key a hstored).complete_recovered hkey⟩

/-! ### The second loop -/

/-- With the jitter buffer and the pop deferred, a finished frame only goes into the
buffer. -/
theorem finalizeCompletedUdpFrame_deferred (env : ClientEnv)
    (hjitter : cfg.udpJitterBufferEnabled = true) (st : StreamClient) (key : ℕ)
    (hcomplete : a.complete = true) (nowNs : ℕ) :
    finalizeCompletedUdpFrame env cfg st key a nowNs true =
      (bufferCompletedUdpFrame
        (retireCompletedUdpFrame st key a (completedUdpFrame cfg a nowNs) nowNs)
        (completedUdpFrame cfg a nowNs), none) := by
  rw [UdpFrameAssembly.complete, beq_iff_eq] at hcomplete
  unfold finalizeCompletedUdpFrame
  rw [if_neg (not_not.mpr hcomplete)]
  simp [hjitter]

theorem finalizeRecovered_cons {key : ℕ} {rest : List ℕ} (env : ClientEnv) (nowNs : ℕ)
    (deferReadyPop : Bool) (hstored : st.udpAssemblies[key]? = some a)
    (hcomplete : a.complete = true) :
    finalizeRecovered env cfg nowNs deferReadyPop (key :: rest) st =
      match finalizeCompletedUdpFrame env cfg st key a nowNs deferReadyPop with
      | (st, some frame) => (st, some frame)
      | (st, none) => finalizeRecovered env cfg nowNs deferReadyPop rest st := by
  rw [UdpFrameAssembly.complete, beq_iff_eq] at hcomplete
  rw [finalizeRecovered, hstored]
  exact if_neg (not_not.mpr hcomplete)

/-- A list of one frame. -/
theorem finalizeRecovered_singleton {key : ℕ} (env : ClientEnv) (nowNs : ℕ)
    (deferReadyPop : Bool) (hstored : st.udpAssemblies[key]? = some a)
    (hcomplete : a.complete = true) :
    finalizeRecovered env cfg nowNs deferReadyPop [key] st =
      finalizeCompletedUdpFrame env cfg st key a nowNs deferReadyPop := by
  rw [finalizeRecovered_cons env nowNs deferReadyPop hstored hcomplete]
  generalize finalizeCompletedUdpFrame env cfg st key a nowNs deferReadyPop = outcome
  obtain ⟨st', frame⟩ := outcome
  cases frame <;> rfl

/-- With the jitter buffer and the pop deferred, the loop gets to the end of its list:
all these frames are completed and their assemblies gone. -/
theorem finalizeRecovered_deferred (env : ClientEnv)
    (hjitter : cfg.udpJitterBufferEnabled = true) (nowNs : ℕ) {sequences : List ℕ}
    (hnodup : sequences.Nodup)
    (hstored : ∀ key ∈ sequences, ∃ a, st.udpAssemblies[key]? = some a ∧ a.complete = true) :
    (finalizeRecovered env cfg nowNs true sequences st).2 = none ∧
    (∀ k : ℕ, (finalizeRecovered env cfg nowNs true sequences st).1.udpAssemblies[k]? =
      if k ∈ sequences then none else st.udpAssemblies[k]?) ∧
    (finalizeRecovered env cfg nowNs true sequences st).1.log.completed =
      st.log.completed ++ sequences.filterMap fun key => st.udpAssemblies[key]?.map fun a =>
        { sequence := key, assembly := a, frame := completedUdpFrame cfg a nowNs } := by
  induction sequences generalizing st with
  | nil => exact ⟨rfl, fun k => by simp [finalizeRecovered], by simp [finalizeRecovered]⟩
  | cons key rest ih =>
      obtain ⟨hnot, hrest⟩ := List.nodup_cons.mp hnodup
      obtain ⟨a, ha, hcomplete⟩ := hstored key List.mem_cons_self
      rw [finalizeRecovered_cons env nowNs true ha hcomplete,
        finalizeCompletedUdpFrame_deferred env hjitter st key hcomplete]
      simp only
      set next := bufferCompletedUdpFrame
        (retireCompletedUdpFrame st key a (completedUdpFrame cfg a nowNs) nowNs)
        (completedUdpFrame cfg a nowNs) with hnext
      have hmap (k : ℕ) : next.udpAssemblies[k]? =
          if key = k then none else st.udpAssemblies[k]? := by
        rw [hnext, bufferCompletedUdpFrame_udpAssemblies,
          retireCompletedUdpFrame_udpAssemblies, OrdMap.getElem?_erase]
      have hkeep (k : ℕ) (hk : k ∈ rest) : next.udpAssemblies[k]? = st.udpAssemblies[k]? := by
        rw [hmap k, if_neg]
        rintro rfl
        exact hnot hk
      have hlog : next.log.completed = st.log.completed ++
          [{ sequence := key, assembly := a, frame := completedUdpFrame cfg a nowNs }] := by
        rw [hnext, bufferCompletedUdpFrame_log, retireCompletedUdpFrame_log]
        rfl
      obtain ⟨hnone, hmap', hcompleted⟩ := ih hrest fun k hk => by
        rw [hkeep k hk]
        exact hstored k (List.mem_cons_of_mem _ hk)
      refine ⟨hnone, fun k => ?_, ?_⟩
      · rw [hmap' k, hmap k]
        by_cases hk : key = k
        · simp [hk]
        · simp [hk, Ne.symm hk]
      · have hlater : rest.filterMap (fun k => next.udpAssemblies[k]?.map fun a =>
              ({ sequence := k, assembly := a, frame := completedUdpFrame cfg a nowNs } :
                CompletedFrame)) =
            rest.filterMap fun k => st.udpAssemblies[k]?.map fun a =>
              { sequence := k, assembly := a, frame := completedUdpFrame cfg a nowNs } :=
          List.filterMap_congr fun k hk => by rw [hkeep k hk]
        rw [hcompleted, hlater, hlog, List.filterMap_cons, ha, List.append_assoc]
        rfl

end

end AvProject.Client
