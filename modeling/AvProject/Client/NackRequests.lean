import AvProject.Client.NackRounds
import Mathlib.Algebra.Order.Floor.Div

/-!
What a round of NACK requests sends. The datagrams are determined by the state in which
the round starts, and an assembly changes only if its request went out as a whole.
-/

namespace AvProject.Client

open AvProject.Lib AvProject.Protocol

/-! ### Assemblies that can be asked for -/

/-- A well-formed assembly whose number and indices fit into a request item. -/
structure UdpFrameAssembly.Requestable (a : UdpFrameAssembly) (key : ℕ) : Prop where
  wellFormed : a.WellFormed key
  count_lt : a.fragmentCount < 2 ^ 16
  key_lt : key < 2 ^ 64

theorem requestableRules (cfg : ClientConfig) :
    AssemblyRules cfg (fun _ _ _ => True) (fun key a => a.Requestable key) (fun _ => True)
      (fun _ => True) where
  wellFormed h := h.wellFormed
  opened nowNs _ hvalid :=
    { wellFormed := .opened hvalid cfg _ nowNs
      count_lt := by
        simpa [openAssembly, UdpFrameAssembly.fragmentCount] using hvalid.fits.fragmentCount
      key_lt := hvalid.fits.frameSequence }
  parity nowNs _ _ _ _ _ h :=
    { wellFormed := h.wellFormed.storeParity cfg _ nowNs
      count_lt := by
        have hlt := h.count_lt
        unfold storeParity
        split <;> exact hlt
      key_lt := h.key_lt }
  data nowNs _ hvalid hdata hcount hpayload hnew h :=
    { wellFormed := h.wellFormed.storeFragment hvalid hdata hcount hpayload hnew nowNs
      count_lt := by
        simpa [storeFragment, UdpFrameAssembly.place, UdpFrameAssembly.fragmentCount]
          using h.count_lt
      key_lt := h.key_lt }
  recovered _ _ hrec h :=
    { wellFormed := h.wellFormed.place_recovery hrec
      count_lt := by simpa using h.count_lt
      key_lt := h.key_lt }
  retried nowNs attempts h :=
    { wellFormed := h.wellFormed.retried nowNs attempts
      count_lt := h.count_lt
      key_lt := h.key_lt }
  finished _ _ _ := ⟨trivial, trivial⟩

namespace UdpFrameAssembly

theorem nodup_missingFragments (a : UdpFrameAssembly) : a.missingFragments.Nodup :=
  List.nodup_range.filter _

/-- The casts of the indices to 16 bits lose nothing. -/
theorem Requestable.map_missingFragments {a : UdpFrameAssembly} {key : ℕ}
    (h : a.Requestable key) : a.missingFragments.map (· % 2 ^ 16) = a.missingFragments := by
  have hsame : ∀ i ∈ a.missingFragments, i % 2 ^ 16 = id i := fun i hi =>
    Nat.mod_eq_of_lt ((mem_missingFragments.mp hi).1.trans h.count_lt)
  rw [List.map_congr_left hsame, List.map_id]

/-- An incomplete frame lacks a fragment. -/
theorem WellFormed.missingFragments_ne_nil {a : UdpFrameAssembly} {key : ℕ}
    (h : a.WellFormed key) (hlt : a.receivedFragmentCount < a.receivedFragments.length) :
    a.missingFragments ≠ [] := by
  intro hnil
  have hcomplete : a.complete = true := by
    rw [h.complete_iff]
    intro i hi
    by_contra hnot
    have hmem : i ∈ a.missingFragments := mem_missingFragments.mpr ⟨hi, hnot⟩
    rw [hnil] at hmem
    exact List.not_mem_nil hmem
  rw [complete, beq_iff_eq] at hcomplete
  omega

end UdpFrameAssembly

/-! ### One request -/

/-- The datagrams of one request from the number `number` on, up to the first one that
the socket refuses. -/
def requestSends (env : ClientEnv) (nowNs frameSequence maxRequests : ℕ) :
    ℕ → ℕ → List ℕ → List NackSend
  | 0, _, _ => []
  | fuel + 1, number, missing =>
      if missing = [] then []
      else
        { nowNs := nowNs
          frameSequence := frameSequence
          fragments := missing.take maxRequests
          datagram := buildNackDatagram frameSequence (env.monotonicNowNs number)
            (missing.take maxRequests)
          sent := env.sendSucceeds number } ::
        if env.sendSucceeds number then
          requestSends env nowNs frameSequence maxRequests fuel (number + 1)
            (missing.drop maxRequests)
        else []

section

variable {env : ClientEnv} {nowNs frameSequence maxRequests fuel number : ℕ}
  {missing : List ℕ}

/-- A refused first datagram ends the request. -/
theorem requestSends_refused (hrefused : env.sendSucceeds number = false) :
    ∀ x ∈ requestSends env nowNs frameSequence maxRequests fuel number missing,
      x.sent = false := by
  cases fuel with
  | zero => simp [requestSends]
  | succ fuel =>
      rw [requestSends]
      split
      · simp
      · simp [hrefused]

theorem length_requestSends_refused (nowNs frameSequence maxRequests : ℕ)
    (hrefused : env.sendSucceeds number = false) (hne : missing ≠ [])
    (hfuel : missing.length ≤ fuel) :
    (requestSends env nowNs frameSequence maxRequests fuel number missing).length = 1 := by
  cases fuel with
  | zero => exact absurd (List.length_eq_zero_iff.mp (Nat.le_zero.mp hfuel)) hne
  | succ fuel => simp [requestSends, hne, hrefused]

/-- What is true of every datagram of a request. -/
structure NackSend.Requests (x : NackSend) (nowNs frameSequence maxRequests : ℕ) :
    Prop where
  nowNs_eq : x.nowNs = nowNs
  frameSequence_eq : x.frameSequence = frameSequence
  length_le : x.fragments.length ≤ maxRequests
  datagram_eq : ∃ requestTimestampNs,
    x.datagram = buildNackDatagram frameSequence requestTimestampNs x.fragments

theorem requests_of_mem {x : NackSend}
    (hx : x ∈ requestSends env nowNs frameSequence maxRequests fuel number missing) :
    x.Requests nowNs frameSequence maxRequests := by
  induction fuel generalizing number missing with
  | zero => simp [requestSends] at hx
  | succ fuel ih =>
      rw [requestSends] at hx
      split at hx
      · simp at hx
      rcases List.mem_cons.mp hx with rfl | hrest
      · exact ⟨rfl, rfl, List.length_take_le _ _, _, rfl⟩
      · split at hrest
        · exact ih hrest
        · simp at hrest

/-- The indices go out in their order, none of them twice. -/
theorem fragments_initial (env : ClientEnv) (nowNs frameSequence maxRequests fuel number : ℕ)
    (missing : List ℕ) :
    (requestSends env nowNs frameSequence maxRequests fuel number missing).flatMap
      NackSend.fragments <+: missing := by
  induction fuel generalizing number missing with
  | zero => simp [requestSends]
  | succ fuel ih =>
      rw [requestSends]
      split
      · simp
      split
      · rw [List.flatMap_cons]
        have hrest := (List.prefix_append_right_inj (missing.take maxRequests)).mpr
          (ih (number + 1) (missing.drop maxRequests))
        rwa [List.take_append_drop] at hrest
      · simpa using List.take_prefix maxRequests missing

theorem fragments_sublist {x : NackSend}
    (hx : x ∈ requestSends env nowNs frameSequence maxRequests fuel number missing) :
    List.Sublist x.fragments missing := by
  have hflat := fragments_initial env nowNs frameSequence maxRequests fuel number missing
  exact (List.sublist_flatten_of_mem (List.mem_map_of_mem hx)).trans hflat.sublist

/-- A request that went out as a whole has asked for every index. -/
theorem requestSends_flatMap_fragments (hmax : 0 < maxRequests)
    (hfuel : missing.length ≤ fuel)
    (hsent : ∀ x ∈ requestSends env nowNs frameSequence maxRequests fuel number missing,
      x.sent = true) :
    (requestSends env nowNs frameSequence maxRequests fuel number missing).flatMap
      NackSend.fragments = missing := by
  induction fuel generalizing number missing with
  | zero => simp [requestSends, List.length_eq_zero_iff.mp (Nat.le_zero.mp hfuel)]
  | succ fuel ih =>
      rw [requestSends] at hsent ⊢
      by_cases hnil : missing = []
      · simp [hnil]
      rw [if_neg hnil] at hsent ⊢
      have hfirst : env.sendSucceeds number = true := hsent _ List.mem_cons_self
      rw [if_pos hfirst] at hsent ⊢
      have hshorter : (missing.drop maxRequests).length ≤ fuel := by
        rw [List.length_drop]
        omega
      have hrest := ih hshorter fun x hx => hsent x (List.mem_cons_of_mem _ hx)
      rw [List.flatMap_cons, hrest, List.take_append_drop]

/-- How many datagrams a request takes, if none of them is refused. -/
theorem requestSends_sent (nowNs frameSequence : ℕ) (hmax : 0 < maxRequests)
    (hfuel : missing.length ≤ fuel)
    (hsucceeds : ∀ k < missing.length ⌈/⌉ maxRequests, env.sendSucceeds (number + k) = true) :
    (∀ x ∈ requestSends env nowNs frameSequence maxRequests fuel number missing,
        x.sent = true) ∧
      (requestSends env nowNs frameSequence maxRequests fuel number missing).length =
        missing.length ⌈/⌉ maxRequests := by
  induction fuel generalizing number missing with
  | zero => simp [requestSends, List.length_eq_zero_iff.mp (Nat.le_zero.mp hfuel)]
  | succ fuel ih =>
      rw [requestSends]
      by_cases hnil : missing = []
      · simp [hnil]
      have hpos : 0 < missing.length := List.length_pos_iff.mpr hnil
      have hcount : missing.length ⌈/⌉ maxRequests =
          (missing.drop maxRequests).length ⌈/⌉ maxRequests + 1 := by
        rw [List.length_drop, Nat.ceilDiv_eq_add_pred_div, Nat.ceilDiv_eq_add_pred_div]
        rcases Nat.lt_or_ge maxRequests missing.length with hlong | hshort
        · rw [← Nat.add_div_right _ hmax]
          congr 1
          omega
        · rw [Nat.sub_eq_zero_of_le hshort, Nat.div_eq_of_lt (by omega : 0 + maxRequests - 1 <
            maxRequests), Nat.div_eq_of_lt_le] <;> omega
      rw [hcount] at hsucceeds ⊢
      have hfirst : env.sendSucceeds number = true := hsucceeds 0 (Nat.succ_pos _)
      rw [if_neg hnil, if_pos hfirst]
      have hshorter : (missing.drop maxRequests).length ≤ fuel := by
        rw [List.length_drop]
        omega
      have hlater : ∀ k < (missing.drop maxRequests).length ⌈/⌉ maxRequests,
          env.sendSucceeds (number + 1 + k) = true := by
        intro k hk
        rw [Nat.add_assoc, Nat.add_comm 1 k]
        exact hsucceeds (k + 1) (Nat.succ_lt_succ hk)
      obtain ⟨hall, hlength⟩ := ih hshorter hlater
      refine ⟨?_, by rw [List.length_cons, hlength]⟩
      intro x hx
      rcases List.mem_cons.mp hx with rfl | hrest
      · exact hfirst
      · exact hall x hrest

end

theorem sendUdpNackLoop_spec (env : ClientEnv) (nowNs frameSequence maxRequests fuel : ℕ)
    (missing : List ℕ) (st : StreamClient) :
    let sends := requestSends env nowNs frameSequence maxRequests fuel
      st.history.nackDatagrams.length missing
    let outcome := sendUdpNackLoop env nowNs frameSequence maxRequests fuel missing st
    outcome.1.nackView =
        { st.nackView with nackDatagrams := st.history.nackDatagrams ++ sends } ∧
      outcome.2 = sends.all NackSend.sent := by
  induction fuel generalizing missing st with
  | zero => simp [requestSends, sendUdpNackLoop, StreamClient.nackView]
  | succ fuel ih =>
      simp only [requestSends, sendUdpNackLoop]
      split
      · simp [StreamClient.nackView]
      cases hsucceeds : env.sendSucceeds st.history.nackDatagrams.length with
      | false => simp [StreamClient.nackView]
      | true =>
          simp only [Bool.not_true, Bool.false_eq_true, if_false, if_true, List.all_cons,
            Bool.true_and]
          obtain ⟨hview, hflag⟩ := ih (missing.drop maxRequests) _
          rw [hview, hflag]
          simp [StreamClient.nackView]

/-! ### One assembly -/

/-- The most items that a datagram takes. -/
def nackChunk (cfg : ClientConfig) : ℕ := max 1 cfg.udpNackMaxRequestsPerPacket

theorem nackChunk_pos (cfg : ClientConfig) : 0 < nackChunk cfg :=
  Nat.lt_of_lt_of_le Nat.one_pos (Nat.le_max_left _ _)

/-- The datagrams that an iteration of the request loop hands to an open socket. -/
def assemblySends (env : ClientEnv) (cfg : ClientConfig) (nowNs number : ℕ)
    (a : UdpFrameAssembly) : List NackSend :=
  if nackDue cfg nowNs a then
    requestSends env nowNs a.metadata.sequence (nackChunk cfg) a.missingFragments.length number
      a.missingFragments
  else []

/-- The assembly after a request that went out as a whole. -/
def UdpFrameAssembly.requested (a : UdpFrameAssembly) (nowNs : ℕ) : UdpFrameAssembly :=
  { a with lastNackTimestampNs := nowNs, nackAttempts := a.nackAttempts + 1 }

theorem nackDue_lt {cfg : ClientConfig} {nowNs : ℕ} {a : UdpFrameAssembly}
    (hdue : nackDue cfg nowNs a = true) :
    a.receivedFragmentCount < a.receivedFragments.length := by
  simp only [nackDue, Bool.and_eq_true, decide_eq_true_eq] at hdue
  exact hdue.1.1.1.1.1.2

/-- What is true of every datagram for an assembly. -/
theorem requests_of_mem_assemblySends {env : ClientEnv} {cfg : ClientConfig}
    {nowNs number key : ℕ} {a : UdpFrameAssembly} (hready : a.Requestable key) {x : NackSend}
    (hx : x ∈ assemblySends env cfg nowNs number a) :
    x.Requests nowNs key (nackChunk cfg) ∧ List.Sublist x.fragments a.missingFragments := by
  unfold assemblySends at hx
  split at hx
  · exact ⟨hready.wellFormed.sequence ▸ requests_of_mem hx, fragments_sublist hx⟩
  · simp at hx

section

variable {st : StreamClient} {key : ℕ} {a : UdpFrameAssembly} (env : ClientEnv)
  {cfg : ClientConfig} {nowNs : ℕ}

/-- An assembly that is not due is passed over. -/
theorem requestMissingFragments_of_not_due (hstored : st.udpAssemblies[key]? = some a)
    (hdue : nackDue cfg nowNs a = false) :
    requestMissingFragments env cfg nowNs st key = st := by
  unfold requestMissingFragments
  simp [hstored, hdue]

/-- What a request for a due assembly does. -/
theorem requestMissingFragments_of_due (hopen : st.socketOpen = true)
    (hstored : st.udpAssemblies[key]? = some a) (hready : a.Requestable key)
    (hdue : nackDue cfg nowNs a = true) :
    let sends := requestSends env nowNs key (nackChunk cfg) a.missingFragments.length
      st.history.nackDatagrams.length a.missingFragments
    let st' := requestMissingFragments env cfg nowNs st key
    st'.nackView = { st.nackView with nackDatagrams := st.history.nackDatagrams ++ sends } ∧
      st'.udpAssemblies =
        if sends.all NackSend.sent then st.udpAssemblies.insert key (a.requested nowNs)
        else st.udpAssemblies := by
  have hmissing := hready.wellFormed.missingFragments_ne_nil (nackDue_lt hdue)
  generalize hchecked :
    st.check [.difference a.receivedFragments.length a.receivedFragmentCount] = checked
  have hopen' : checked.socketOpen = true := hchecked ▸ hopen
  generalize hloop : sendUdpNackLoop env nowNs key (nackChunk cfg) a.missingFragments.length
    a.missingFragments checked = outcome
  have hsend : sendUdpNack env cfg checked nowNs key a.missingFragments = outcome := by
    rw [← hloop]
    simp [sendUdpNack, hopen', hmissing, nackChunk]
  have hstep : requestMissingFragments env cfg nowNs st key =
      if outcome.2 then
        { outcome.1 with
          udpAssemblies := outcome.1.udpAssemblies.insert key (a.requested nowNs) }
      else outcome.1 := by
    unfold requestMissingFragments
    simp only [hstored, hdue, hready.map_missingFragments, hready.wellFormed.sequence, hchecked,
      hsend]
    rfl
  obtain ⟨hview, hflag⟩ := sendUdpNackLoop_spec env nowNs key (nackChunk cfg)
    a.missingFragments.length a.missingFragments checked
  obtain ⟨_, _, _, hrequests⟩ := sendUdpNackLoop_withRequests env nowNs key (nackChunk cfg)
    a.missingFragments.length a.missingFragments checked
  rw [hloop] at hview hflag hrequests
  have hmap : outcome.1.udpAssemblies = st.udpAssemblies := by
    rw [hrequests, ← hchecked]
    rfl
  have hlog : checked.nackView = st.nackView := hchecked ▸ rfl
  have hnumber : checked.history.nackDatagrams = st.history.nackDatagrams := hchecked ▸ rfl
  rw [hlog, hnumber] at hview
  rw [hnumber] at hflag
  simp only
  rw [hstep, ← hflag]
  split
  · exact ⟨hview, congrArg (fun m => m.insert key (a.requested nowNs)) hmap⟩
  · exact ⟨hview, hmap⟩

/-- What an iteration of the request loop does with a stored assembly. -/
theorem requestMissingFragments_spec (cfg : ClientConfig) (nowNs : ℕ)
    (hopen : st.socketOpen = true)
    (hstored : st.udpAssemblies[key]? = some a) (hready : a.Requestable key) :
    let sends := assemblySends env cfg nowNs st.history.nackDatagrams.length a
    let st' := requestMissingFragments env cfg nowNs st key
    st'.nackView = { st.nackView with nackDatagrams := st.history.nackDatagrams ++ sends } ∧
      st'.udpAssemblies =
        if nackDue cfg nowNs a = true ∧ sends.all NackSend.sent = true then
          st.udpAssemblies.insert key (a.requested nowNs)
        else st.udpAssemblies := by
  simp only [assemblySends]
  by_cases hdue : nackDue cfg nowNs a = true
  · have hspec := requestMissingFragments_of_due env hopen hstored hready hdue
    simpa [hready.wellFormed.sequence, hdue] using hspec
  · rw [requestMissingFragments_of_not_due env hstored (Bool.not_eq_true _ ▸ hdue)]
    simp [StreamClient.nackView, hdue]

end

/-! ### One round -/

/-- The datagrams of a round for the assemblies `entries`, from the number `number` on. -/
def roundSends (env : ClientEnv) (cfg : ClientConfig) (nowNs : ℕ) :
    ℕ → List (ℕ × UdpFrameAssembly) → List NackSend
  | _, [] => []
  | number, entry :: entries =>
      let sends := assemblySends env cfg nowNs number entry.2
      sends ++ roundSends env cfg nowNs (number + sends.length) entries

/-- The entries of a round: what is stored under distinct keys. -/
structure RoundEntries (st : StreamClient) (entries : List (ℕ × UdpFrameAssembly)) : Prop where
  socketOpen : st.socketOpen = true
  nodup : (entries.map Prod.fst).Nodup
  stored : ∀ entry ∈ entries, st.udpAssemblies[entry.1]? = some entry.2
  requestable : ∀ entry ∈ entries, entry.2.Requestable entry.1

namespace RoundEntries

variable {st : StreamClient} {entry : ℕ × UdpFrameAssembly}
  {entries : List (ℕ × UdpFrameAssembly)}

/-- A request changes no assembly but its own. -/
theorem request (h : RoundEntries st (entry :: entries)) (env : ClientEnv)
    (cfg : ClientConfig) (nowNs : ℕ) :
    RoundEntries (requestMissingFragments env cfg nowNs st entry.1) entries := by
  obtain ⟨hview, hmap⟩ := requestMissingFragments_spec env cfg nowNs h.socketOpen
    (h.stored entry List.mem_cons_self) (h.requestable entry List.mem_cons_self)
  have hnodup := h.nodup
  rw [List.map_cons, List.nodup_cons] at hnodup
  refine ⟨?_, hnodup.2, fun e he => ?_, fun e he => h.requestable e (List.mem_cons_of_mem _ he)⟩
  · exact (congrArg NackView.socketOpen hview).trans h.socketOpen
  · have hother : entry.1 ≠ e.1 := by
      rintro heq
      exact hnodup.1 (heq ▸ List.mem_map_of_mem he)
    have hkept := h.stored e (List.mem_cons_of_mem _ he)
    rw [hmap]
    split
    · rw [OrdMap.getElem?_insert, if_neg hother]
      exact hkept
    · exact hkept

/-- The datagrams of a round are those of its assemblies, one after the other. -/
theorem foldl_nackDatagrams (h : RoundEntries st entries) (env : ClientEnv)
    (cfg : ClientConfig) (nowNs : ℕ) :
    ((entries.map Prod.fst).foldl (requestMissingFragments env cfg nowNs)
        st).history.nackDatagrams =
      st.history.nackDatagrams ++
        roundSends env cfg nowNs st.history.nackDatagrams.length entries := by
  induction entries generalizing st with
  | nil => simp [roundSends]
  | cons entry entries ih =>
      have hview := (requestMissingFragments_spec env cfg nowNs h.socketOpen
        (h.stored entry List.mem_cons_self)
        (h.requestable entry List.mem_cons_self)).1
      have hlog := congrArg NackView.nackDatagrams hview
      simp only [StreamClient.nackView] at hlog
      rw [List.map_cons, List.foldl_cons, ih (h.request env cfg nowNs), hlog, roundSends,
        List.length_append, List.append_assoc]

end RoundEntries

/-- A round that is not switched off goes through all assemblies, in ascending order. -/
theorem maybeSendUdpNackRequests_eq (env : ClientEnv) {cfg : ClientConfig}
    (hnack : cfg.udpNackEnabled = true) (hmax : 1 ≤ cfg.udpNackMaxRequestsPerPacket)
    (st : StreamClient) (nowNs : ℕ) :
    maybeSendUdpNackRequests env cfg st nowNs =
      (st.udpAssemblies.toList.map Prod.fst).foldl (requestMissingFragments env cfg nowNs) st := by
  have hne : cfg.udpNackMaxRequestsPerPacket ≠ 0 := by omega
  rw [Std.ExtTreeMap.map_fst_toList_eq_keys]
  simp [maybeSendUdpNackRequests, hnack, hne]

/-- All assemblies of an open receiver make up a round. -/
theorem roundEntries_toList {st : StreamClient} (hopen : st.socketOpen = true)
    (hready : ∀ (key : ℕ) a, st.udpAssemblies[key]? = some a → a.Requestable key) :
    RoundEntries st st.udpAssemblies.toList where
  socketOpen := hopen
  nodup := by
    rw [Std.ExtTreeMap.map_fst_toList_eq_keys]
    exact Std.ExtTreeMap.nodup_keys
  stored _ he := OrdMap.mem_toList.mp he
  requestable _ he := hready _ _ (OrdMap.mem_toList.mp he)

/-- What every request keeps, a round keeps. -/
theorem RoundEntries.foldl_invariant {Inv : StreamClient → Prop} {env : ClientEnv}
    {cfg : ClientConfig} {nowNs : ℕ}
    (step : ∀ st (key : ℕ) a, st.socketOpen = true → st.udpAssemblies[key]? = some a →
      a.Requestable key → Inv st → Inv (requestMissingFragments env cfg nowNs st key))
    {entries : List (ℕ × UdpFrameAssembly)} {st : StreamClient}
    (h : RoundEntries st entries) (hst : Inv st) :
    Inv ((entries.map Prod.fst).foldl (requestMissingFragments env cfg nowNs) st) := by
  induction entries generalizing st with
  | nil => exact hst
  | cons entry entries ih =>
      rw [List.map_cons, List.foldl_cons]
      exact ih (h.request env cfg nowNs) (step st entry.1 entry.2 h.socketOpen
        (h.stored entry List.mem_cons_self) (h.requestable entry List.mem_cons_self) hst)

/-! ### Receivers that can send requests -/

/-- The receiver's invariant with the numbers of request items. -/
def RequestableInv (st : StreamClient) : Prop :=
  ReceiverInv (fun key a => a.Requestable key) (fun _ => True) (fun _ => True) st

theorem RequestableInv.wellFormed {st : StreamClient} (h : RequestableInv st) :
    ReceiverInv (fun key a => a.WellFormed key) (fun _ => True) (fun _ => True) st :=
  { h with assemblies := fun key a ha => (h.assemblies key a ha).wellFormed }

theorem StreamClient.Reachable.requestableInv {env : ClientEnv} {cfg : ClientConfig}
    {st : StreamClient} (h : st.Reachable env cfg) : RequestableInv st := by
  obtain ⟨ops, rfl⟩ := h
  exact ((ReceiverInv.connected cfg).runOperations (requestableRules cfg) env ops
    fun op _ => allowsOperation_true op).1

theorem recoveredRounds_requestableInv {env : ClientEnv} {cfg : ClientConfig} {nowNs : ℕ}
    {sequences : List ℕ} {st : StreamClient} (h : RequestableInv st) :
    ∀ st' ∈ recoveredRounds env cfg nowNs sequences st, RequestableInv st' := by
  induction sequences generalizing st with
  | nil => simp [recoveredRounds]
  | cons sequence rest ih =>
      cases hstored : st.udpAssemblies[sequence]? with
      | none =>
          simp only [recoveredRounds, hstored]
          exact ih h
      | some a =>
          simp only [recoveredRounds, hstored]
          split
          · exact ih h
          have hready := h.assemblies sequence a hstored
          have hdeferred := (h.finalizeCompletedUdpFrame (requestableRules cfg) hready env nowNs
            true).1
          have hnext := (h.finalizeCompletedUdpFrame (requestableRules cfg) hready env nowNs
            false).1
          have hrounds : ∀ st' ∈ (if FinishedForBuffer cfg st
              (finalizeCompletedUdpFrame env cfg st sequence a nowNs true).1 then
              [(finalizeCompletedUdpFrame env cfg st sequence a nowNs true).1] else []),
              RequestableInv st' := by
            intro st' hst'
            split at hst'
            · exact List.mem_singleton.mp hst' ▸ hdeferred
            · simp at hst'
          split
          · exact hrounds
          · rename_i heq
            rw [heq] at hnext
            intro st' hst'
            rcases List.mem_append.mp hst' with hfirst | hrest
            · exact hrounds st' hfirst
            · exact ih hnext st' hrest

/-- Every round starts in a state that satisfies the invariant. -/
theorem nackRounds_requestableInv {env : ClientEnv} {cfg : ClientConfig} {st : StreamClient}
    (h : RequestableInv st) (op : UdpOperation) :
    ∀ st' ∈ nackRounds env cfg st op, RequestableInv st' := by
  intro st' hst'
  cases op with
  | processUdpDatagram data nowNs deferReadyPop =>
      cases deferReadyPop with
      | true => simp [nackRounds] at hst'
      | false =>
          simp only [nackRounds] at hst'
          split at hst'
          · rw [List.mem_singleton.mp hst']
            exact (h.processUdpDatagram (requestableRules cfg) (fun _ _ _ _ => trivial) env nowNs
              true).1
          · simp at hst'
  | finalizeRecoverableUdpFecFrames nowNs deferReadyPop =>
      cases deferReadyPop with
      | true => simp [nackRounds] at hst'
      | false =>
          exact recoveredRounds_requestableInv
            (h.recoverAssemblies (requestableRules cfg) st.udpAssemblies.keys []) st' hst'
  | maybeSendUdpNackRequests nowNs => exact List.mem_singleton.mp hst' ▸ h
  | connect => simp [nackRounds] at hst'
  | tryPopReadyUdpFrame nowNs => simp [nackRounds] at hst'
  | pruneExpiredUdpAssemblies nowNs => simp [nackRounds] at hst'

/-- What quiet steps and rounds keep, an operation keeps. -/
theorem Rounds.invariant (Inv : StreamClient → Prop) {env : ClientEnv} {cfg : ClientConfig}
    {nowNs : ℕ} {st st' : StreamClient} {rounds : List StreamClient}
    (h : Rounds env cfg nowNs st rounds st')
    (quiet : ∀ st st', Quiet nowNs none st st' → Inv st → Inv st')
    (round : ∀ st ∈ rounds, Inv st → Inv (maybeSendUdpNackRequests env cfg st nowNs))
    (hst : Inv st) : Inv st' := by
  induction h with
  | quiet hquiet => exact quiet _ _ hquiet hst
  | round hquiet _ ih =>
      refine ih (fun s hs => round s (List.mem_cons_of_mem _ hs)) ?_
      exact round _ List.mem_cons_self (quiet _ _ hquiet hst)

/-! ### The times of the assemblies -/

/-- The socket is open; every assembly was seen and asked for at times up to `nowNs`. -/
structure NackTimes (nowNs : ℕ) (st : StreamClient) : Prop where
  socketOpen : st.socketOpen = true
  seen : ∀ (key : ℕ) a, st.udpAssemblies[key]? = some a →
    0 < a.firstSeenTimestampNs ∧ a.firstSeenTimestampNs ≤ nowNs
  asked : ∀ (key : ℕ) a, st.udpAssemblies[key]? = some a → a.lastNackTimestampNs ≤ nowNs

namespace NackTimes

variable {nowNs nowNs' : ℕ} {st st' : StreamClient}

theorem mono (h : NackTimes nowNs st) (hle : nowNs ≤ nowNs') : NackTimes nowNs' st where
  socketOpen := h.socketOpen
  seen key a ha := ⟨(h.seen key a ha).1, (h.seen key a ha).2.trans hle⟩
  asked key a ha := (h.asked key a ha).trans hle

theorem connect (cfg : ClientConfig) (nowNs : ℕ) (st : StreamClient) :
    NackTimes nowNs (st.connect cfg) where
  socketOpen := rfl
  seen key a ha := by simp [StreamClient.connect] at ha
  asked key a ha := by simp [StreamClient.connect] at ha

theorem quiet (h : NackTimes nowNs st) {t : ℕ} (hpos : 0 < t) (hle : t ≤ nowNs)
    {opened : Option ℕ} (hquiet : Quiet t opened st st') : NackTimes nowNs st' := by
  have hstate : ∀ (key : ℕ) a', st'.udpAssemblies[key]? = some a' →
      (0 < a'.nackState.firstSeenTimestampNs ∧ a'.nackState.firstSeenTimestampNs ≤ nowNs) ∧
        a'.nackState.lastNackTimestampNs ≤ nowNs := by
    intro key a' ha'
    by_cases hopened : opened = some key
    · rw [hquiet.fresh key a' ha' hopened]
      exact ⟨⟨hpos, hle⟩, Nat.zero_le _⟩
    · obtain ⟨a, ha, hsame⟩ := hquiet.kept key a' ha' hopened
      rw [hsame]
      exact ⟨h.seen key a ha, h.asked key a ha⟩
  exact
    { socketOpen := (congrArg NackView.socketOpen hquiet.view).trans h.socketOpen
      seen := fun key a' ha' => (hstate key a' ha').1
      asked := fun key a' ha' => (hstate key a' ha').2 }

theorem requestMissingFragments (h : NackTimes nowNs st) {key t : ℕ} {a : UdpFrameAssembly}
    (hle : t ≤ nowNs) (hstored : st.udpAssemblies[key]? = some a)
    (hready : a.Requestable key) (env : ClientEnv) (cfg : ClientConfig) :
    NackTimes nowNs (Client.requestMissingFragments env cfg t st key) := by
  obtain ⟨hview, hmap⟩ := requestMissingFragments_spec env cfg t h.socketOpen hstored hready
  have hkept : ∀ (k : ℕ) b,
      (Client.requestMissingFragments env cfg t st key).udpAssemblies[k]? = some b →
      st.udpAssemblies[k]? = some b ∨ (k = key ∧ b = a.requested t) := by
    intro k b hb
    rw [hmap] at hb
    split at hb
    · rw [OrdMap.getElem?_insert] at hb
      split at hb
      · rename_i hkey
        exact .inr ⟨hkey.symm, (Option.some.inj hb).symm⟩
      · exact .inl hb
    · exact .inl hb
  refine ⟨(congrArg NackView.socketOpen hview).trans h.socketOpen, fun k b hb => ?_,
    fun k b hb => ?_⟩
  · rcases hkept k b hb with hsame | ⟨rfl, rfl⟩
    · exact h.seen k b hsame
    · exact h.seen k a hstored
  · rcases hkept k b hb with hsame | ⟨rfl, rfl⟩
    · exact h.asked k b hsame
    · exact hle

theorem maybeSendUdpNackRequests (h : NackTimes nowNs st) {t : ℕ} (hle : t ≤ nowNs)
    (hinv : RequestableInv st) (env : ClientEnv) (cfg : ClientConfig) :
    NackTimes nowNs (Client.maybeSendUdpNackRequests env cfg st t) := by
  unfold Client.maybeSendUdpNackRequests
  split
  · exact h
  · rw [← Std.ExtTreeMap.map_fst_toList_eq_keys]
    refine RoundEntries.foldl_invariant (fun st key a _ hstored hready hst => ?_)
      (roundEntries_toList h.socketOpen hinv.assemblies) h
    exact hst.requestMissingFragments hle hstored hready env cfg

theorem runOperation (h : NackTimes nowNs st) (hinv : RequestableInv st) (env : ClientEnv)
    (cfg : ClientConfig) {op : UdpOperation} (htime : ∀ t ∈ op.nowNs?, 0 < t ∧ t ≤ nowNs) :
    NackTimes nowNs (Client.runOperation env cfg st op).1 := by
  cases hop : op.nowNs? with
  | none =>
      cases op <;> simp [UdpOperation.nowNs?] at hop
      exact connect cfg nowNs st
  | some t =>
      obtain ⟨hpos, hle⟩ := htime t hop
      obtain ⟨st₁, hquiet, hrounds⟩ := runOperation_rounds hinv.wellFormed env cfg hop
      refine hrounds.invariant (NackTimes nowNs) (fun s s' hs hst => hst.quiet hpos hle hs)
        (fun s hs hst => ?_) (h.quiet hpos hle hquiet)
      exact hst.maybeSendUdpNackRequests hle (nackRounds_requestableInv hinv op s hs) env cfg

end NackTimes

/-- The times that the operations are given. -/
def clock (ops : List UdpOperation) : List ℕ := ops.filterMap UdpOperation.nowNs?

/-- Positive times that never go back. -/
structure Clocked (ops : List UdpOperation) : Prop where
  positive : ∀ t ∈ clock ops, 0 < t
  nondecreasing : (clock ops).Pairwise (· ≤ ·)

/-- After a run at positive times up to `nowNs`. -/
theorem runOperations_nackTimes {env : ClientEnv} {cfg : ClientConfig} {nowNs : ℕ}
    {ops : List UdpOperation} (htimes : ∀ t ∈ clock ops, 0 < t ∧ t ≤ nowNs) {st : StreamClient}
    (h : NackTimes nowNs st) (hinv : RequestableInv st) :
    NackTimes nowNs (runOperations env cfg st ops).1 ∧
      RequestableInv (runOperations env cfg st ops).1 := by
  induction ops generalizing st with
  | nil => exact ⟨h, hinv⟩
  | cons op ops ih =>
      have hop : ∀ t ∈ op.nowNs?, 0 < t ∧ t ≤ nowNs := fun t ht =>
        htimes t (List.mem_filterMap.mpr ⟨op, List.mem_cons_self, ht⟩)
      have hrest : ∀ t ∈ clock ops, 0 < t ∧ t ≤ nowNs := fun t ht => by
        obtain ⟨o, ho, hot⟩ := List.mem_filterMap.mp ht
        exact htimes t (List.mem_filterMap.mpr ⟨o, List.mem_cons_of_mem _ ho, hot⟩)
      rw [runOperations_cons]
      exact ih hrest (h.runOperation hinv env cfg hop)
        (hinv.runOperation (requestableRules cfg) (allowsOperation_true op) env).1

/-- The first fragment of a frame of three, all of them without a body. -/
def firstOfThreeHeader : UdpFrameFragmentHeader :=
  { frameSequence := 7, captureTimestampNs := 0, encodeStartTimestampNs := 0
    encodeEndTimestampNs := 0, transportSendTimestampNs := 0, framePayloadSize := 1
    fragmentOffset := 0, fragmentIndex := 0, fragmentCount := 3
    fragmentRole := UdpFragmentRole.kData.code, reserved := 0 }

def firstOfThreeDatagram : Bytes :=
  (buildMessageHeader .kAvStream 0 sizeofUdpFrameFragmentHeader).toBytes ++
    firstOfThreeHeader.toBytes

end AvProject.Client
