import AvProject.Client.NackRequests
import AvProject.Lib.Run

/-!
The retry budget of an assembly: how often a fragment is asked for, and how far apart. It is
kept as long as every request is refused at its first datagram or goes out as a whole.
-/

namespace AvProject.Client

open AvProject.Lib AvProject.Protocol

/-! ### The budget -/

/-- The requests for a fragment, among the datagrams that were sent. -/
def requestsFor (sends : List NackSend) (index : ℕ) : List NackSend :=
  sends.filter fun x => decide (index ∈ x.fragments)

/-- No fragment is asked for more often than the configuration allows, nor before the retry
interval has passed. -/
structure NackBudget (cfg : ClientConfig) (sends : List NackSend) : Prop where
  count_le : ∀ index, (requestsFor sends index).length ≤ cfg.udpNackMaxRetries.toNat
  apart : ∀ index, (requestsFor sends index).Pairwise fun x y =>
    cfg.udpNackRetryIntervalMs * 1000000 ≤ (y.nowNs : ℤ) - x.nowNs

/-- The datagrams sent for the frame `sequence`, from the number `start` on. -/
def sentFor (st : StreamClient) (start sequence : ℕ) : List NackSend :=
  (st.history.nackDatagrams.drop start).filter fun x => x.sent && x.frameSequence == sequence

/-! ### Requests that go out as a whole -/

/-- Requests of `counts` datagrams each, numbered from `number` on: each one is refused at its
first datagram or goes out as a whole. -/
def requestsWhole (env : ClientEnv) : ℕ → List ℕ → Prop
  | _, [] => True
  | number, count :: counts =>
      if env.sendSucceeds number = true then
        (∀ k < count, env.sendSucceeds (number + k) = true) ∧
          requestsWhole env (number + count) counts
      else requestsWhole env (number + 1) counts

/-- How many datagrams each request of a round takes. -/
def roundCounts (cfg : ClientConfig) (nowNs : ℕ) (entries : List (ℕ × UdpFrameAssembly)) :
    List ℕ :=
  (entries.filter fun entry => nackDue cfg nowNs entry.2).map fun entry =>
    entry.2.missingFragments.length ⌈/⌉ nackChunk cfg

/-- In every round of the operation each request is refused at its first datagram or goes out
as a whole. -/
def WholeRequests (env : ClientEnv) (cfg : ClientConfig) (st : StreamClient)
    (op : UdpOperation) : Prop :=
  cfg.udpNackEnabled = true → 1 ≤ cfg.udpNackMaxRequestsPerPacket → ∀ nowNs ∈ op.nowNs?,
    ∀ st' ∈ nackRounds env cfg st op, requestsWhole env st'.history.nackDatagrams.length
      (roundCounts cfg nowNs st'.udpAssemblies.toList)

section

variable {env : ClientEnv} {cfg : ClientConfig} {st st' : StreamClient}
  {nowNs start sequence key : ℕ} {a : UdpFrameAssembly}

/-! ### One assembly -/

/-- The requests for the frame `sequence` since its assembly was set up. -/
structure Lifetime (cfg : ClientConfig) (start sequence : ℕ) (st : StreamClient) : Prop where
  start_le : start ≤ st.history.nackDatagrams.length
  budget : NackBudget cfg (sentFor st start sequence)
  attempts : ∀ a, st.udpAssemblies[sequence]? = some a →
    a.nackAttempts ≤ cfg.udpNackMaxRetries.toNat ∧
      ∀ index, (requestsFor (sentFor st start sequence) index).length ≤ a.nackAttempts
  asked : ∀ a, st.udpAssemblies[sequence]? = some a →
    ∀ x ∈ sentFor st start sequence, 0 < x.nowNs ∧ x.nowNs ≤ a.lastNackTimestampNs

theorem sentFor_append (hstart : start ≤ st.history.nackDatagrams.length)
    {sends : List NackSend}
    (hlog : st'.history.nackDatagrams = st.history.nackDatagrams ++ sends) (sequence : ℕ) :
    sentFor st' start sequence = sentFor st start sequence ++
      sends.filter fun x => x.sent && x.frameSequence == sequence := by
  rw [sentFor, hlog, List.drop_append_of_le_length hstart, List.filter_append]
  rfl

theorem requestsFor_append (sends sends' : List NackSend) (index : ℕ) :
    requestsFor (sends ++ sends') index = requestsFor sends index ++ requestsFor sends' index :=
  List.filter_append ..

/-- A request asks for a fragment in one of its datagrams only. -/
theorem length_requestsFor_le_one {sends : List NackSend}
    (hnodup : (sends.flatMap NackSend.fragments).Nodup) (index : ℕ) :
    (requestsFor sends index).length ≤ 1 := by
  induction sends with
  | nil => simp [requestsFor]
  | cons x sends ih =>
      rw [List.flatMap_cons, List.nodup_append'] at hnodup
      obtain ⟨-, hrest, hdisjoint⟩ := hnodup
      by_cases hin : index ∈ x.fragments
      · -- the later datagrams ask for other fragments
        have hnone : requestsFor sends index = [] := by
          rw [requestsFor, List.filter_eq_nil_iff]
          intro y hy hmem
          exact hdisjoint hin (List.mem_flatMap.mpr ⟨y, hy, of_decide_eq_true hmem⟩)
        rw [requestsFor, List.filter_cons, if_pos (decide_eq_true hin), List.length_cons]
        exact le_of_eq (congrArg (·.length + 1) hnone)
      · rw [requestsFor, List.filter_cons, if_neg (by simpa using hin)]
        exact ih hrest

theorem nackDue_attempts (hdue : nackDue cfg nowNs a = true) :
    (a.nackAttempts : ℤ) < cfg.udpNackMaxRetries := by
  simp only [nackDue, Bool.and_eq_true, decide_eq_true_eq] at hdue
  exact hdue.1.2

/-- A request is repeated only once the retry interval has passed. -/
theorem nackDue_retry (hdue : nackDue cfg nowNs a = true) (hasked : 0 < a.lastNackTimestampNs)
    (hle : a.lastNackTimestampNs ≤ nowNs) :
    cfg.udpNackRetryIntervalMs * 1000000 ≤ (nowNs : ℤ) - a.lastNackTimestampNs := by
  simp only [nackDue, Bool.and_eq_true, Bool.not_eq_true', Bool.and_eq_false_iff,
    bne_eq_false_iff_eq, decide_eq_false_iff_not] at hdue
  have hretry := hdue.2
  rw [millisecondsToNs] at hretry
  omega

namespace Lifetime

/-- A step that sends nothing for the frame and lets its assembly count attempts within the
limit. -/
theorem of_silent (h : Lifetime cfg start sequence st) {sends : List NackSend}
    (hlog : st'.history.nackDatagrams = st.history.nackDatagrams ++ sends)
    (hsilent : ∀ x ∈ sends, x.sent = true → x.frameSequence ≠ sequence)
    (hassembly : ∀ a', st'.udpAssemblies[sequence]? = some a' →
      ∃ a, st.udpAssemblies[sequence]? = some a ∧ a.nackAttempts ≤ a'.nackAttempts ∧
        a'.nackAttempts ≤ cfg.udpNackMaxRetries.toNat ∧
        a.lastNackTimestampNs ≤ a'.lastNackTimestampNs) :
    Lifetime cfg start sequence st' := by
  have hnone : (sends.filter fun x => x.sent && x.frameSequence == sequence) = [] := by
    rw [List.filter_eq_nil_iff]
    intro x hx hboth
    rw [Bool.and_eq_true, beq_iff_eq] at hboth
    exact hsilent x hx hboth.1 hboth.2
  have hsent : sentFor st' start sequence = sentFor st start sequence := by
    rw [sentFor_append h.start_le hlog, hnone, List.append_nil]
  refine ⟨?_, hsent ▸ h.budget, fun a' ha' => ?_, fun a' ha' x hx => ?_⟩
  · rw [hlog, List.length_append]
    exact h.start_le.trans (Nat.le_add_right _ _)
  · obtain ⟨a, ha, hattempts, hmax, -⟩ := hassembly a' ha'
    rw [hsent]
    exact ⟨hmax, fun index => ((h.attempts a ha).2 index).trans hattempts⟩
  · obtain ⟨a, ha, -, -, hlast⟩ := hassembly a' ha'
    rw [hsent] at hx
    exact ⟨(h.asked a ha x hx).1, (h.asked a ha x hx).2.trans hlast⟩

/-- Quiet steps do not touch the frame's assembly. -/
theorem quiet (h : Lifetime cfg start sequence st) {opened : Option ℕ}
    (hquiet : Quiet nowNs opened st st') (hother : opened ≠ some sequence) :
    Lifetime cfg start sequence st' := by
  have hlog := congrArg NackView.nackDatagrams hquiet.view
  refine h.of_silent (hlog.trans (List.append_nil _).symm) (by simp) fun a' ha' => ?_
  obtain ⟨a, ha, hsame⟩ := hquiet.kept sequence a' ha' hother
  have hattempts : a'.nackAttempts = a.nackAttempts := congrArg NackState.nackAttempts hsame
  have hlast : a'.lastNackTimestampNs = a.lastNackTimestampNs :=
    congrArg NackState.lastNackTimestampNs hsame
  exact ⟨a, ha, hattempts.ge, hattempts.trans_le (h.attempts a ha).1, hlast.ge⟩

/-- A whole request for the frame. -/
theorem of_request (h : Lifetime cfg start sequence st) (hpos : 0 < nowNs)
    (hstored : st.udpAssemblies[sequence]? = some a) (hdue : nackDue cfg nowNs a = true)
    (hle : a.lastNackTimestampNs ≤ nowNs) {sends : List NackSend}
    (hlog : st'.history.nackDatagrams = st.history.nackDatagrams ++ sends)
    (hsends : ∀ x ∈ sends, x.sent = true ∧ x.frameSequence = sequence ∧ x.nowNs = nowNs)
    (hnodup : (sends.flatMap NackSend.fragments).Nodup)
    (hassembly : st'.udpAssemblies[sequence]? = some (a.requested nowNs)) :
    Lifetime cfg start sequence st' := by
  have hall : (sends.filter fun x => x.sent && x.frameSequence == sequence) = sends := by
    rw [List.filter_eq_self]
    intro x hx
    simp [hsends x hx]
  have hsent : sentFor st' start sequence = sentFor st start sequence ++ sends := by
    rw [sentFor_append h.start_le hlog, hall]
  obtain ⟨-, hcount⟩ := h.attempts a hstored
  have hasked := h.asked a hstored
  have hbelow := nackDue_attempts hdue
  have hmore (index : ℕ) : (requestsFor (sentFor st' start sequence) index).length ≤
      a.nackAttempts + 1 := by
    rw [hsent, requestsFor_append, List.length_append]
    exact Nat.add_le_add (hcount index) (length_requestsFor_le_one hnodup index)
  refine ⟨?_, ⟨fun index => ?_, fun index => ?_⟩, fun a' ha' => ?_, fun a' ha' x hx => ?_⟩
  · rw [hlog, List.length_append]
    exact h.start_le.trans (Nat.le_add_right _ _)
  · have hlimit := hmore index
    omega
  · rw [hsent, requestsFor_append, List.pairwise_append]
    refine ⟨h.budget.apart index, ?_, fun x hx y hy => ?_⟩
    · rw [List.pairwise_iff_getElem]
      intro i j hi hj hij
      have hone := length_requestsFor_le_one hnodup index
      omega
    · -- every earlier request lies at or before the time of the last one
      obtain ⟨hx0, hxlast⟩ := hasked x (List.mem_filter.mp hx).1
      have hy := (hsends y (List.mem_filter.mp hy).1).2.2
      have hretry := nackDue_retry hdue (hx0.trans_le hxlast) hle
      omega
  · obtain rfl := Option.some.inj (hassembly.symm.trans ha')
    have hlimit : (a.requested nowNs).nackAttempts = a.nackAttempts + 1 := rfl
    rw [hlimit]
    exact ⟨by omega, hmore⟩
  · obtain rfl := Option.some.inj (hassembly.symm.trans ha')
    have hlast : (a.requested nowNs).lastNackTimestampNs = nowNs := rfl
    rw [hsent] at hx
    rw [hlast]
    rcases List.mem_append.mp hx with hold | hnew
    · exact ⟨(hasked x hold).1, (hasked x hold).2.trans hle⟩
    · rw [(hsends x hnew).2.2]
      exact ⟨hpos, le_rfl⟩

/-- A new assembly has not been asked for. -/
theorem opened (hquiet : Quiet nowNs (some sequence) st st') :
    Lifetime cfg st.history.nackDatagrams.length sequence st' := by
  have hlog : st'.history.nackDatagrams = st.history.nackDatagrams :=
    congrArg NackView.nackDatagrams hquiet.view
  have hsent : sentFor st' st.history.nackDatagrams.length sequence = [] := by
    rw [sentFor, hlog, List.drop_length, List.filter_nil]
  refine ⟨by rw [hlog], ?_, fun a' ha' => ?_, fun a' ha' => ?_⟩
  · rw [hsent]
    exact ⟨fun _ => Nat.zero_le _, fun _ => .nil⟩
  · have hfresh := congrArg NackState.nackAttempts (hquiet.fresh sequence a' ha' rfl)
    have hzero : a'.nackAttempts = 0 := hfresh
    rw [hsent, hzero]
    exact ⟨Nat.zero_le _, fun _ => Nat.zero_le _⟩
  · rw [hsent]
    simp

theorem connect (h : Lifetime cfg start sequence st) :
    Lifetime cfg start sequence (st.connect cfg) where
  start_le := h.start_le
  budget := h.budget
  attempts a ha := by simp [StreamClient.connect] at ha
  asked a ha := by simp [StreamClient.connect] at ha

/-- A request for some assembly that is refused at its first datagram or goes out as a
whole. -/
theorem request (h : Lifetime cfg start sequence st) (htimes : NackTimes nowNs st)
    (hpos : 0 < nowNs) (hstored : st.udpAssemblies[key]? = some a) (hready : a.Requestable key)
    (hdue : nackDue cfg nowNs a = true)
    (hwhole : env.sendSucceeds st.history.nackDatagrams.length = true →
      ∀ k < a.missingFragments.length ⌈/⌉ nackChunk cfg,
        env.sendSucceeds (st.history.nackDatagrams.length + k) = true) :
    Lifetime cfg start sequence (requestMissingFragments env cfg nowNs st key) := by
  obtain ⟨hview, hmap⟩ := requestMissingFragments_of_due env htimes.socketOpen hstored hready
    hdue
  have hlog := congrArg NackView.nackDatagrams hview
  have hle := htimes.asked key a hstored
  by_cases hkey : key = sequence
  · subst hkey
    by_cases hfirst : env.sendSucceeds st.history.nackDatagrams.length = true
    · have hall := (requestSends_sent nowNs key (nackChunk_pos cfg) le_rfl (hwhole hfirst)).1
      refine h.of_request hpos hstored hdue hle hlog (fun x hx => ?_) ?_ ?_
      · exact ⟨hall x hx, (requests_of_mem hx).frameSequence_eq, (requests_of_mem hx).nowNs_eq⟩
      · exact a.nodup_missingFragments.sublist (fragments_initial ..).sublist
      · rw [hmap, if_pos (List.all_eq_true.mpr hall)]
        exact (OrdMap.getElem?_insert _ _ _ _).trans (if_pos rfl)
    · rw [Bool.not_eq_true] at hfirst
      refine h.of_silent hlog (fun x hx hsent => ?_) fun a' ha' => ⟨a, hstored, ?_⟩
      · rw [requestSends_refused hfirst x hx] at hsent
        exact absurd hsent Bool.false_ne_true
      · have hbelow := nackDue_attempts hdue
        have hmax := (h.attempts a hstored).1
        rw [hmap] at ha'
        split at ha'
        · rw [OrdMap.getElem?_insert, if_pos rfl] at ha'
          obtain rfl := Option.some.inj ha'
          have hattempts : (a.requested nowNs).nackAttempts = a.nackAttempts + 1 := rfl
          exact ⟨by omega, by omega, hle⟩
        · obtain rfl := Option.some.inj (hstored.symm.trans ha')
          exact ⟨le_rfl, hmax, le_rfl⟩
  · refine h.of_silent hlog (fun x hx _ => ?_) fun a' ha' => ?_
    · rw [(requests_of_mem hx).frameSequence_eq]
      exact hkey
    · have hsame : st.udpAssemblies[sequence]? = some a' := by
        rw [hmap] at ha'
        split at ha'
        · rwa [OrdMap.getElem?_insert, if_neg hkey] at ha'
        · exact ha'
      exact ⟨a', hsame, le_rfl, (h.attempts a' hsame).1, le_rfl⟩

/-- A round whose requests are refused at once or go out as a whole. -/
theorem foldl (h : Lifetime cfg start sequence st) (htimes : NackTimes nowNs st)
    (hpos : 0 < nowNs) {entries : List (ℕ × UdpFrameAssembly)}
    (hentries : RoundEntries st entries)
    (hwhole : requestsWhole env st.history.nackDatagrams.length
      (roundCounts cfg nowNs entries)) :
    Lifetime cfg start sequence
      ((entries.map Prod.fst).foldl (requestMissingFragments env cfg nowNs) st) := by
  induction entries generalizing st with
  | nil => exact h
  | cons entry entries ih =>
      have hstored := hentries.stored entry List.mem_cons_self
      have hready := hentries.requestable entry List.mem_cons_self
      have hnext := htimes.requestMissingFragments le_rfl hstored hready env cfg
      rw [List.map_cons, List.foldl_cons]
      by_cases hdue : nackDue cfg nowNs entry.2 = true
      · rw [roundCounts, List.filter_cons, if_pos hdue, List.map_cons, requestsWhole] at hwhole
        have hview := (requestMissingFragments_of_due env hentries.socketOpen hstored hready
          hdue).1
        have hlog := congrArg (·.nackDatagrams.length) hview
        simp only [StreamClient.nackView, List.length_append] at hlog
        refine ih (h.request htimes hpos hstored hready hdue fun hfirst => ?_) hnext
          (hentries.request env cfg nowNs) ?_
        · rw [if_pos hfirst] at hwhole
          exact hwhole.1
        · rw [hlog]
          split at hwhole
          · rw [(requestSends_sent nowNs entry.1 (nackChunk_pos cfg) le_rfl hwhole.1).2]
            exact hwhole.2
          · rename_i hrefused
            rw [length_requestSends_refused nowNs entry.1 (nackChunk cfg)
              (Bool.not_eq_true _ ▸ hrefused)
              (hready.wellFormed.missingFragments_ne_nil (nackDue_lt hdue)) le_rfl]
            exact hwhole
      · have hskip := requestMissingFragments_of_not_due env hstored
          (Bool.not_eq_true _ ▸ hdue)
        rw [hskip]
        refine ih h htimes ?_ ?_
        · have hrest := hentries.request env cfg nowNs
          rwa [hskip] at hrest
        · rwa [roundCounts, List.filter_cons, if_neg hdue] at hwhole

theorem maybeSendUdpNackRequests (h : Lifetime cfg start sequence st)
    (htimes : NackTimes nowNs st) (hpos : 0 < nowNs) (hinv : RequestableInv st)
    (hwhole : cfg.udpNackEnabled = true → 1 ≤ cfg.udpNackMaxRequestsPerPacket →
      requestsWhole env st.history.nackDatagrams.length
        (roundCounts cfg nowNs st.udpAssemblies.toList)) :
    Lifetime cfg start sequence (Client.maybeSendUdpNackRequests env cfg st nowNs) := by
  by_cases hnack : cfg.udpNackEnabled = true
  · by_cases hmax : 1 ≤ cfg.udpNackMaxRequestsPerPacket
    · rw [maybeSendUdpNackRequests_eq env hnack hmax]
      exact h.foldl htimes hpos (roundEntries_toList htimes.socketOpen hinv.assemblies)
        (hwhole hnack hmax)
    · have hzero : cfg.udpNackMaxRequestsPerPacket = 0 := by omega
      rw [Client.maybeSendUdpNackRequests, if_pos (by simp [hzero])]
      exact h
  · rw [Client.maybeSendUdpNackRequests, if_pos (by simp [hnack])]
    exact h

/-- The rounds of an operation, once its first quiet step is taken. -/
theorem rounds {op : UdpOperation} (htime : op.nowNs? = some nowNs) (hpos : 0 < nowNs)
    (hinv : RequestableInv st) (hwhole : WholeRequests env cfg st op) {st₁ : StreamClient}
    (hrounds : Rounds env cfg nowNs st₁ (nackRounds env cfg st op) st')
    (htimes : NackTimes nowNs st₁) (h : Lifetime cfg start sequence st₁) :
    Lifetime cfg start sequence st' := by
  have hboth : NackTimes nowNs st' ∧ Lifetime cfg start sequence st' := by
    refine hrounds.invariant (fun s => NackTimes nowNs s ∧ Lifetime cfg start sequence s)
      (fun s s' hquiet hs => ?_) (fun s hs hst => ?_) ⟨htimes, h⟩
    · exact ⟨hs.1.quiet hpos le_rfl hquiet, hs.2.quiet hquiet (by simp)⟩
    · have hready := nackRounds_requestableInv hinv op s hs
      refine ⟨hst.1.maybeSendUdpNackRequests le_rfl hready env cfg, ?_⟩
      exact hst.2.maybeSendUdpNackRequests hst.1 hpos hready fun hnack hmax =>
        hwhole hnack hmax nowNs (htime ▸ rfl) s hs
  exact hboth.2

/-- An operation that does not set up an assembly for the frame. -/
theorem runOperation (h : Lifetime cfg start sequence st) (hinv : RequestableInv st)
    (htimes : NackTimes nowNs st) {op : UdpOperation}
    (htime : ∀ t ∈ op.nowNs?, 0 < t ∧ nowNs ≤ t) (hwhole : WholeRequests env cfg st op)
    (hother : ∀ fragment ∈ openingFragment cfg st op, fragment.frameSequence ≠ sequence) :
    Lifetime cfg start sequence (Client.runOperation env cfg st op).1 := by
  cases hop : op.nowNs? with
  | none =>
      cases op <;> simp [UdpOperation.nowNs?] at hop
      exact h.connect
  | some t =>
      obtain ⟨hpos, hle⟩ := htime t hop
      obtain ⟨st₁, hquiet, hrounds⟩ := runOperation_rounds hinv.wellFormed env cfg hop
      refine rounds hop hpos hinv hwhole hrounds ((htimes.mono hle).quiet hpos le_rfl hquiet)
        (h.quiet hquiet ?_)
      intro hopened
      obtain ⟨fragment, hfragment, heq⟩ := Option.map_eq_some_iff.mp hopened
      exact hother fragment hfragment heq

/-- The operation that sets up the assembly. -/
theorem of_opening (hinv : RequestableInv st) (htimes : NackTimes nowNs st)
    {op : UdpOperation} (htime : ∀ t ∈ op.nowNs?, 0 < t ∧ nowNs ≤ t)
    (hwhole : WholeRequests env cfg st op) {fragment : UdpFrameFragmentHeader}
    (hopening : openingFragment cfg st op = some fragment) :
    Lifetime cfg st.history.nackDatagrams.length fragment.frameSequence
      (Client.runOperation env cfg st op).1 := by
  cases hop : op.nowNs? with
  | none =>
      cases op <;> simp [UdpOperation.nowNs?] at hop
      simp [openingFragment] at hopening
  | some t =>
      obtain ⟨hpos, hle⟩ := htime t hop
      obtain ⟨st₁, hquiet, hrounds⟩ := runOperation_rounds hinv.wellFormed env cfg hop
      rw [hopening] at hquiet
      exact rounds hop hpos hinv hwhole hrounds
        ((htimes.mono hle).quiet hpos le_rfl hquiet) (opened hquiet)

end Lifetime

end

/-! ### Runs -/

/-- One operation as a step. -/
def operationStep (env : ClientEnv) (cfg : ClientConfig) (st : StreamClient)
    (op : UdpOperation) : Option StreamClient :=
  some (runOperation env cfg st op).1

/-- Times of a clock that does not go back before `nowNs`. -/
structure ClockedFrom (nowNs : ℕ) (ops : List UdpOperation) : Prop extends Clocked ops where
  from_le : ∀ t ∈ clock ops, nowNs ≤ t

theorem ClockedFrom.cons {nowNs : ℕ} {op : UdpOperation} {ops : List UdpOperation}
    (h : ClockedFrom nowNs (op :: ops)) :
    (∀ t ∈ op.nowNs?, 0 < t ∧ nowNs ≤ t) ∧ ClockedFrom (op.nowNs?.getD nowNs) ops := by
  obtain ⟨⟨hpos, hsorted⟩, hle⟩ := h
  cases hop : op.nowNs? with
  | none =>
      rw [clock, List.filterMap_cons_none hop] at hpos hsorted hle
      exact ⟨by simp, ⟨⟨hpos, hsorted⟩, hle⟩⟩
  | some t =>
      rw [clock, List.filterMap_cons_some hop] at hpos hsorted hle
      rw [List.pairwise_cons] at hsorted
      refine ⟨fun s hs => ?_, ⟨⟨fun s hs => hpos s (List.mem_cons_of_mem _ hs), hsorted.2⟩,
        hsorted.1⟩⟩
      obtain rfl := Option.some.inj hs
      exact ⟨hpos t List.mem_cons_self, hle t List.mem_cons_self⟩

theorem NackTimes.runOperation_from {nowNs : ℕ} {st : StreamClient} (h : NackTimes nowNs st)
    (hinv : RequestableInv st) (env : ClientEnv) (cfg : ClientConfig) {op : UdpOperation}
    (htime : ∀ t ∈ op.nowNs?, 0 < t ∧ nowNs ≤ t) :
    NackTimes (op.nowNs?.getD nowNs) (Client.runOperation env cfg st op).1 := by
  cases hop : op.nowNs? with
  | none => exact h.runOperation hinv env cfg (by simp [hop])
  | some t =>
      obtain ⟨hpos, hle⟩ := htime t hop
      refine (h.mono hle).runOperation hinv env cfg fun s hs => ?_
      obtain rfl := Option.some.inj (hop.symm.trans hs)
      exact ⟨hpos, le_rfl⟩

theorem runOperations_lifetime {env : ClientEnv} {cfg : ClientConfig} {start sequence nowNs : ℕ}
    {ops : List UdpOperation} {st : StreamClient} (hclock : ClockedFrom nowNs ops)
    (hwhole : StepsMeet (operationStep env cfg) (WholeRequests env cfg) st ops)
    (hother : StepsMeet (operationStep env cfg) (fun st op =>
      ∀ fragment ∈ openingFragment cfg st op, fragment.frameSequence ≠ sequence) st ops)
    (hinv : RequestableInv st) (htimes : NackTimes nowNs st)
    (h : Lifetime cfg start sequence st) :
    Lifetime cfg start sequence (runOperations env cfg st ops).1 := by
  induction ops generalizing st nowNs with
  | nil => exact h
  | cons op ops ih =>
      obtain ⟨htime, hrest⟩ := hclock.cons
      rw [runOperations_cons]
      exact ih hrest (hwhole.2 _ rfl) (hother.2 _ rfl)
        (hinv.runOperation (requestableRules cfg) (allowsOperation_true op) env).1
        (htimes.runOperation_from hinv env cfg htime)
        (h.runOperation hinv htimes htime hwhole.1 hother.1)

/-- A time between two parts of a clock. -/
theorem exists_time_between {earlier later : List ℕ} (h : ∀ s ∈ earlier, ∀ t ∈ later, s ≤ t) :
    ∃ nowNs, (∀ s ∈ earlier, s ≤ nowNs) ∧ ∀ t ∈ later, nowNs ≤ t := by
  induction earlier with
  | nil => exact ⟨0, by simp, by simp⟩
  | cons s earlier ih =>
      obtain ⟨m, hm, hlater⟩ := ih fun s' hs' => h s' (List.mem_cons_of_mem _ hs')
      refine ⟨max s m, fun s' hs' => ?_, fun t ht => ?_⟩
      · rcases List.mem_cons.mp hs' with rfl | hs'
        · exact Nat.le_max_left _ _
        · exact (hm s' hs').trans (Nat.le_max_right _ _)
      · exact Nat.max_le.mpr ⟨h s List.mem_cons_self t ht, hlater t ht⟩

/-- The budget, over the lifetime of one assembly: whatever was received before, from the
datagram that sets the assembly up to any later point at which no other one was set up for
the frame, as long as every request is refused at its first datagram or goes out as a whole. -/
theorem runOperations_nackBudget (env : ClientEnv) (cfg : ClientConfig)
    (before : List UdpOperation) (op : UdpOperation) (rest : List UdpOperation)
    (hclock : Clocked (before ++ op :: rest)) (st : StreamClient)
    (hst : (runOperations env cfg (StreamClient.connected cfg) before).1 = st)
    (fragment : UdpFrameFragmentHeader) (hopening : openingFragment cfg st op = some fragment)
    (hother : StepsMeet (operationStep env cfg) (fun st op => ∀ again ∈ openingFragment cfg st op,
      again.frameSequence ≠ fragment.frameSequence) (runOperation env cfg st op).1 rest)
    (hwhole : StepsMeet (operationStep env cfg) (WholeRequests env cfg) st (op :: rest)) :
    NackBudget cfg (sentFor (runOperations env cfg st (op :: rest)).1
      st.history.nackDatagrams.length fragment.frameSequence) := by
  have hreach : st.Reachable env cfg := ⟨before, hst⟩
  have hinv := hreach.requestableInv
  -- the latest time before the assembly is set up
  obtain ⟨nowNs, hbefore, hafter⟩ : ∃ nowNs, (∀ t ∈ clock before, 0 < t ∧ t ≤ nowNs) ∧
      ClockedFrom nowNs (op :: rest) := by
    obtain ⟨hpos, hsorted⟩ := hclock
    rw [clock, List.filterMap_append] at hpos hsorted
    rw [List.pairwise_append] at hsorted
    obtain ⟨nowNs, hle, hfrom⟩ := exists_time_between hsorted.2.2
    exact ⟨nowNs, fun t ht => ⟨hpos t (List.mem_append_left _ ht), hle t ht⟩,
      ⟨⟨fun t ht => hpos t (List.mem_append_right _ ht), hsorted.2.1⟩, hfrom⟩⟩
  have htimes : NackTimes nowNs st := by
    rw [← hst]
    exact (runOperations_nackTimes hbefore (.connect cfg nowNs {}) (.connected cfg)).1
  obtain ⟨htime, hrest⟩ := hafter.cons
  have hopened := Lifetime.of_opening hinv htimes htime hwhole.1 hopening
  have hend := runOperations_lifetime hrest (hwhole.2 _ rfl) hother
    (hinv.runOperation (requestableRules cfg) (allowsOperation_true op) env).1
    (htimes.runOperation_from hinv env cfg htime) hopened
  rw [runOperations_cons]
  exact hend.budget

/-- A socket that accepts everything refuses no part of a request. -/
theorem wholeRequests_of_succeed {env : ClientEnv} (hsends : ∀ n, env.sendSucceeds n = true)
    (cfg : ClientConfig) (st : StreamClient) (op : UdpOperation) :
    WholeRequests env cfg st op := by
  have hwhole (counts : List ℕ) (number : ℕ) : requestsWhole env number counts := by
    induction counts generalizing number with
    | nil => trivial
    | cons count counts ih =>
        rw [requestsWhole, if_pos (hsends number)]
        exact ⟨fun k _ => hsends _, ih _⟩
  exact fun _ _ _ _ _ _ => hwhole _ _

/-- Two rounds, a retry interval apart, for a frame of which one fragment has arrived. -/
theorem firstOfThree_nackBudget :
    NackBudget {} (sentFor (runOperations .idle {} (StreamClient.connected {})
      [.processUdpDatagram firstOfThreeDatagram 1 false, .maybeSendUdpNackRequests 30000000,
        .maybeSendUdpNackRequests 50000000]).1 0 7) :=
  runOperations_nackBudget .idle {} [] (.processUdpDatagram firstOfThreeDatagram 1 false)
    [.maybeSendUdpNackRequests 30000000, .maybeSendUdpNackRequests 50000000]
    ⟨by decide, by decide⟩ _ rfl firstOfThreeHeader (by decide +kernel)
    (by simp [StepsMeet, operationStep, openingFragment])
    (.of_forall _ (wholeRequests_of_succeed (fun _ => rfl) {}) _ _)

/-- Only every other datagram is accepted by the socket. -/
def everyOtherSend : ClientEnv where
  sendSucceeds number := number % 2 == 0
  monotonicNowNs _ := 0

/-- Four rounds within three nanoseconds, each of which sends the first of two datagrams. -/
theorem not_nackBudget_of_partial_sends :
    ¬∀ (env : ClientEnv) (cfg : ClientConfig) (before : List UdpOperation) (op : UdpOperation)
      (rest : List UdpOperation), Clocked (before ++ op :: rest) → ∀ st : StreamClient,
      (runOperations env cfg (StreamClient.connected cfg) before).1 = st →
      ∀ fragment, openingFragment cfg st op = some fragment →
      StepsMeet (operationStep env cfg) (fun st op => ∀ again ∈ openingFragment cfg st op,
        again.frameSequence ≠ fragment.frameSequence) (runOperation env cfg st op).1 rest →
      NackBudget cfg (sentFor (runOperations env cfg st (op :: rest)).1
        st.history.nackDatagrams.length fragment.frameSequence) := by
  intro h
  have hbudget := h everyOtherSend { udpNackMaxRequestsPerPacket := 1 } []
    (.processUdpDatagram firstOfThreeDatagram 1 false)
    [.maybeSendUdpNackRequests 30000000, .maybeSendUdpNackRequests 30000001,
      .maybeSendUdpNackRequests 30000002, .maybeSendUdpNackRequests 30000003]
    ⟨by decide, by decide⟩ _ rfl firstOfThreeHeader (by decide +kernel)
    (by simp [StepsMeet, operationStep, openingFragment])
  have hcount := hbudget.count_le 1
  revert hcount
  decide +kernel

end AvProject.Client
