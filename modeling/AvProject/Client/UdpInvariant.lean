import AvProject.Client.UdpAssembly

/-!
Invariants of the UDP receiver. A property of the stored assemblies that every
single update of an assembly keeps (`AssemblyRules`) holds in every state of every
run, and with it what it implies for finished frames and for the frames in the
jitter buffer.
-/

namespace AvProject.Client

open AvProject.Lib AvProject.Protocol

/-! ### What a function leaves alone -/

section

variable {β : Type*} {f : StreamClient → β} {cfg : ClientConfig}

/-- A pop keeps what each of its parts keeps. -/
theorem tryPopReadyUdpFrame_kept {nowNs : ℕ}
    (htarget : ∀ st, f (currentJitterBufferTargetDelayNs cfg st).2 = f st)
    (hanchor : ∀ st oldest, f (anchorJitterBuffer st oldest) = f st)
    (hskip : ∀ st oldest, f (skipMissing st oldest) = f st)
    (hemit : ∀ st targetDelayNs expected,
      f (emitExpectedUdpFrame cfg st nowNs targetDelayNs expected).1 = f st)
    (st : StreamClient) : f (tryPopReadyUdpFrame cfg st nowNs).1 = f st := by
  rw [tryPopReadyUdpFrame]
  split
  · rfl
  split
  · rfl
  simp only
  split
  · rw [hemit, hanchor, htarget]
  split
  · rw [hemit, hskip, hanchor, htarget]
  · rw [hanchor, htarget]

/-- What the recovery of an assembly keeps, the recovery of several keeps. -/
theorem recoverAssemblies_kept
    (hrecover : ∀ st key a, f (recoverAssembly cfg st key a).1 = f st) (keys : List ℕ)
    (st : StreamClient) (recovered : List ℕ) :
    f (recoverAssemblies cfg keys st recovered).1 = f st := by
  induction keys generalizing st recovered with
  | nil => rfl
  | cons key rest ih =>
      rw [recoverAssemblies]
      split
      · exact ih st recovered
      rename_i a _
      split
      · exact ih st recovered
      have hstep := hrecover st key a
      split
      · rename_i st' a' heq
        rw [heq] at hstep
        exact (ih st' _).trans hstep
      · rename_i st' a' heq
        rw [heq] at hstep
        exact (ih st' _).trans hstep

end

/-- The injection of losses touches nothing but its own records. -/
theorem shouldInjectUdpLoss_eq (cfg : ClientConfig) (st : StreamClient)
    (fragment : UdpFrameFragmentHeader) :
    ∃ dropped datagrams fragments, (shouldInjectUdpLoss cfg st fragment).1 =
      { st with
        udpTestDroppedFragments := dropped
        udpReceiveStats.injectedLossDatagrams := datagrams
        udpReceiveStats.injectedLossFragments := fragments } := by
  rw [shouldInjectUdpLoss]
  split
  · exact ⟨_, _, _, rfl⟩
  split
  · exact ⟨_, _, _, rfl⟩
  simp only
  split <;> split <;> exact ⟨_, _, _, rfl⟩

/-! ### The part of the state that the invariants are about -/

structure ReceiverCore where
  udpAssemblies : OrdMap UdpFrameAssembly
  udpJitterBuffer : OrdMap BufferedUdpFrame
  nextJitterBufferSequence : ℕ
  hasNextJitterBufferSequence : Bool
  recentlyCompletedUdpSequenceOrder : List ℕ
  recentlyCompletedUdpSequences : Finset ℕ
  completed : List CompletedFrame
  checks : List RuntimeCheck

def StreamClient.core (st : StreamClient) : ReceiverCore where
  udpAssemblies := st.udpAssemblies
  udpJitterBuffer := st.udpJitterBuffer
  nextJitterBufferSequence := st.nextJitterBufferSequence
  hasNextJitterBufferSequence := st.hasNextJitterBufferSequence
  recentlyCompletedUdpSequenceOrder := st.recentlyCompletedUdpSequenceOrder
  recentlyCompletedUdpSequences := st.recentlyCompletedUdpSequences
  completed := st.history.completed
  checks := st.history.checks

@[simp] theorem updateJitterBufferDepthStats_core (st : StreamClient) :
    (updateJitterBufferDepthStats st).core = st.core := rfl

@[simp] theorem recordJitterBufferWait_core (st : StreamClient) (waitNs : ℕ) :
    (recordJitterBufferWait st waitNs).core = st.core := rfl

@[simp] theorem currentJitterBufferTargetDelayNs_core (cfg : ClientConfig) (st : StreamClient) :
    (currentJitterBufferTargetDelayNs cfg st).2.core = st.core := by
  unfold currentJitterBufferTargetDelayNs
  cases cfg.udpJitterBufferStrategy <;> rfl

@[simp] theorem onCompletedUdpFrame_core (st : StreamClient) (frame : ReceivedFrame)
    (nowNs : ℕ) : (onCompletedUdpFrame st frame nowNs).core = st.core := by
  simp only [onCompletedUdpFrame]
  split
  · rfl
  · split <;> rfl

@[simp] theorem shouldInjectUdpLoss_core (cfg : ClientConfig) (st : StreamClient)
    (fragment : UdpFrameFragmentHeader) :
    (shouldInjectUdpLoss cfg st fragment).1.core = st.core := by
  obtain ⟨_, _, _, heq⟩ := shouldInjectUdpLoss_eq cfg st fragment
  rw [heq]
  rfl

/-- A client with other assemblies and other records of what has been requested. -/
def StreamClient.withRequests (st : StreamClient) (assemblies : OrdMap UdpFrameAssembly)
    (requestsSent fragmentsRequested : ℕ) (datagrams : List NackSend)
    (checks : List RuntimeCheck) : StreamClient :=
  { st with
    udpAssemblies := assemblies
    udpReceiveStats.nackRequestsSent := requestsSent
    udpReceiveStats.nackFragmentsRequested := fragmentsRequested
    history.nackDatagrams := datagrams
    history.checks := checks }

/-- Sending a request leaves everything but its own records alone. -/
theorem sendUdpNackLoop_withRequests (env : ClientEnv)
    (nowNs frameSequence maxRequests fuel : ℕ) (missing : List ℕ) (st : StreamClient) :
    ∃ requests fragments datagrams,
      (sendUdpNackLoop env nowNs frameSequence maxRequests fuel missing st).1 =
        st.withRequests st.udpAssemblies requests fragments datagrams st.history.checks := by
  induction fuel generalizing missing st with
  | zero => exact ⟨_, _, _, rfl⟩
  | succ fuel ih =>
      rw [sendUdpNackLoop]
      split
      · exact ⟨_, _, _, rfl⟩
      simp only
      split
      · exact ⟨_, _, _, rfl⟩
      · obtain ⟨requests, fragments, datagrams, heq⟩ := ih (missing.drop maxRequests) _
        rw [heq]
        exact ⟨requests, fragments, datagrams, rfl⟩

theorem sendUdpNack_withRequests (env : ClientEnv) (cfg : ClientConfig) (st : StreamClient)
    (nowNs frameSequence : ℕ) (missing : List ℕ) :
    ∃ requests fragments datagrams, (sendUdpNack env cfg st nowNs frameSequence missing).1 =
      st.withRequests st.udpAssemblies requests fragments datagrams st.history.checks := by
  rw [sendUdpNack]
  split
  · exact ⟨_, _, _, rfl⟩
  · exact sendUdpNackLoop_withRequests env nowNs frameSequence _ _ _ st

theorem requestMissingFragments_withRequests (env : ClientEnv) (cfg : ClientConfig)
    (nowNs : ℕ) (st : StreamClient) (key : ℕ) :
    ∃ assemblies requests fragments datagrams checks,
      requestMissingFragments env cfg nowNs st key =
        st.withRequests assemblies requests fragments datagrams checks := by
  rw [requestMissingFragments]
  split
  · exact ⟨_, _, _, _, _, rfl⟩
  rename_i a _
  split
  · exact ⟨_, _, _, _, _, rfl⟩
  obtain ⟨requests, fragments, datagrams, heq⟩ := sendUdpNack_withRequests env cfg
    (st.check [.difference a.receivedFragments.length a.receivedFragmentCount]) nowNs
    a.metadata.sequence (a.missingFragments.map (· % 2 ^ 16))
  simp only [heq]
  split
  · exact ⟨_, requests, fragments, datagrams, _, rfl⟩
  · exact ⟨_, requests, fragments, datagrams, _, rfl⟩

/-- A round of requests keeps what each request keeps. -/
theorem maybeSendUdpNackRequests_invariant {P : StreamClient → Prop} {env : ClientEnv}
    {cfg : ClientConfig} {nowNs : ℕ}
    (hrequest : ∀ st key, P st → P (requestMissingFragments env cfg nowNs st key))
    {st : StreamClient} (h : P st) : P (maybeSendUdpNackRequests env cfg st nowNs) := by
  rw [maybeSendUdpNackRequests]
  split
  · exact h
  · generalize st.udpAssemblies.keys = keys
    induction keys generalizing st with
    | nil => exact h
    | cons key keys ih => exact ih (hrequest st key h)

/-- A round changes what a request can change. -/
theorem maybeSendUdpNackRequests_withRequests (env : ClientEnv) (cfg : ClientConfig)
    (st : StreamClient) (nowNs : ℕ) :
    ∃ assemblies requests fragments datagrams checks,
      maybeSendUdpNackRequests env cfg st nowNs =
        st.withRequests assemblies requests fragments datagrams checks := by
  refine maybeSendUdpNackRequests_invariant
    (P := fun t => ∃ assemblies requests fragments datagrams checks,
      t = st.withRequests assemblies requests fragments datagrams checks) ?_
    ⟨_, _, _, _, _, rfl⟩
  rintro _ key ⟨assemblies, requests, fragments, datagrams, checks, rfl⟩
  obtain ⟨assemblies', requests', fragments', datagrams', checks', heq⟩ :=
    requestMissingFragments_withRequests env cfg nowNs
      (st.withRequests assemblies requests fragments datagrams checks) key
  exact ⟨assemblies', requests', fragments', datagrams', checks', heq⟩

@[simp] theorem sendUdpNack_core (env : ClientEnv) (cfg : ClientConfig) (st : StreamClient)
    (nowNs frameSequence : ℕ) (missing : List ℕ) :
    (sendUdpNack env cfg st nowNs frameSequence missing).1.core = st.core := by
  obtain ⟨_, _, _, heq⟩ := sendUdpNack_withRequests env cfg st nowNs frameSequence missing
  rw [heq]
  rfl

/-! ### Rules for assemblies -/

/-- `Φ` holds of the assembly that a datagram allowed by `D` opens and is kept by
every update of an assembly; of a finished assembly it gives `Ω`, and `Ψ` of the
frame made of it. -/
structure AssemblyRules (cfg : ClientConfig)
    (D : MessageHeader → UdpFrameFragmentHeader → Bytes → Prop)
    (Φ : ℕ → UdpFrameAssembly → Prop) (Ω : CompletedFrame → Prop)
    (Ψ : ReceivedFrame → Prop) : Prop where
  wellFormed : ∀ {key a}, Φ key a → a.WellFormed key
  opened : ∀ {header fragment body} (nowNs : ℕ), D header fragment body →
    ValidFragment fragment body →
    Φ fragment.frameSequence (openAssembly cfg none header fragment nowNs)
  parity : ∀ {header fragment body a} (nowNs : ℕ), D header fragment body →
    ValidFragment fragment body →
    fragment.fragmentRole = UdpFragmentRole.kXorParity.code →
    a.receivedFragments.length = fragment.fragmentCount →
    a.payload.length = fragment.framePayloadSize →
    Φ fragment.frameSequence a →
    Φ fragment.frameSequence (storeParity cfg a body nowNs)
  data : ∀ {header fragment body a} (nowNs : ℕ), D header fragment body →
    ValidFragment fragment body →
    fragment.fragmentRole = UdpFragmentRole.kData.code →
    a.receivedFragments.length = fragment.fragmentCount →
    a.payload.length = fragment.framePayloadSize →
    ¬a.Has fragment.fragmentIndex →
    Φ fragment.frameSequence a →
    Φ fragment.frameSequence (storeFragment a fragment body nowNs)
  recovered : ∀ {key a missing offset size bytes}, cfg.udpFecEnabled = true →
    a.hasFecPayload = true → Recovery a missing offset size bytes →
    Φ key a → Φ key (a.place missing offset size bytes true)
  retried : ∀ {key a} (nowNs attempts : ℕ), Φ key a →
    Φ key { a with lastNackTimestampNs := nowNs, nackAttempts := attempts }
  finished : ∀ {key a} (nowNs : ℕ), Φ key a → a.complete = true →
    Ω { sequence := key, assembly := a, frame := completedUdpFrame cfg a nowNs } ∧
      Ψ (completedUdpFrame cfg a nowNs)

/-- The two representations of the deduplication window agree. -/
structure WindowConsistent (order : List ℕ) (set : Finset ℕ) : Prop where
  same : ∀ sequence, sequence ∈ set ↔ sequence ∈ order
  nodup : order.Nodup
  length_le : order.length ≤ kRecentCompletedUdpSequenceWindow

structure ReceiverInv (Φ : ℕ → UdpFrameAssembly → Prop) (Ω : CompletedFrame → Prop)
    (Ψ : ReceivedFrame → Prop) (st : StreamClient) : Prop where
  assemblies : ∀ (key : ℕ) (a : UdpFrameAssembly), st.udpAssemblies[key]? = some a → Φ key a
  notRecent : ∀ (key : ℕ) (a : UdpFrameAssembly), st.udpAssemblies[key]? = some a →
    key ∉ st.recentlyCompletedUdpSequences
  buffered : ∀ (key : ℕ) (b : BufferedUdpFrame), st.udpJitterBuffer[key]? = some b → Ψ b.frame
  completed : ∀ c ∈ st.history.completed, Ω c
  checks : ∀ c ∈ st.history.checks, c.Holds
  window : WindowConsistent st.recentlyCompletedUdpSequenceOrder
    st.recentlyCompletedUdpSequences

/-! ### Deduplication window -/

/-- Eviction from a window that is at most one too long. -/
theorem evictRecentlyCompleted_consistent {order : List ℕ} {set : Finset ℕ}
    (same : ∀ sequence, sequence ∈ set ↔ sequence ∈ order) (nodup : order.Nodup) :
    WindowConsistent (evictRecentlyCompleted order set).1
        (evictRecentlyCompleted order set).2 ∧
      (evictRecentlyCompleted order set).1 =
        order.drop (order.length - kRecentCompletedUdpSequenceWindow) := by
  induction order generalizing set with
  | nil => exact ⟨⟨same, nodup, by simp [evictRecentlyCompleted]⟩, by simp [evictRecentlyCompleted]⟩
  | cons oldest rest ih =>
      obtain ⟨hnotin, hrest⟩ := List.nodup_cons.mp nodup
      unfold evictRecentlyCompleted
      split
      · rename_i hlong
        have hsame : ∀ sequence, sequence ∈ set.erase oldest ↔ sequence ∈ rest := by
          intro sequence
          rw [Finset.mem_erase, same, List.mem_cons]
          constructor
          · rintro ⟨hne, heq | hin⟩
            · exact absurd heq hne
            · exact hin
          · intro hin
            exact ⟨fun heq => hnotin (heq ▸ hin), .inr hin⟩
        obtain ⟨hcons, hdrop⟩ := ih hsame hrest
        refine ⟨hcons, hdrop.trans ?_⟩
        have hsub : (oldest :: rest).length - kRecentCompletedUdpSequenceWindow =
            (rest.length - kRecentCompletedUdpSequenceWindow) + 1 := by
          rw [List.length_cons] at hlong ⊢
          omega
        rw [hsub, List.drop_succ_cons]
      · rename_i hshort
        have hzero : (oldest :: rest).length - kRecentCompletedUdpSequenceWindow = 0 := by omega
        exact ⟨⟨same, nodup, not_lt.mp hshort⟩, by rw [hzero, List.drop_zero]⟩

/-- A number that is appended to the order and inserted into the set. -/
theorem WindowConsistent.append_new {order : List ℕ} {set : Finset ℕ}
    (h : WindowConsistent order set) {sequence : ℕ} (hnew : sequence ∉ set) :
    (∀ s, s ∈ insert sequence set ↔ s ∈ order ++ [sequence]) ∧
      (order ++ [sequence]).Nodup := by
  constructor
  · intro s
    rw [Finset.mem_insert, h.same, List.mem_append, List.mem_singleton, or_comm]
  · rw [h.same] at hnew
    refine List.nodup_append.mpr ⟨h.nodup, by simp, fun x hx y hy heq => ?_⟩
    obtain rfl := List.mem_singleton.mp hy
    exact hnew (heq ▸ hx)

/-- Remembering a sequence number keeps the window consistent, adds at most that
number to it, and does add it. -/
theorem rememberInWindow_consistent {order : List ℕ} {set : Finset ℕ}
    (h : WindowConsistent order set) (sequence : ℕ) :
    WindowConsistent (rememberInWindow order set sequence).1
        (rememberInWindow order set sequence).2 ∧
      (∀ s ∈ (rememberInWindow order set sequence).2, s = sequence ∨ s ∈ set) ∧
      sequence ∈ (rememberInWindow order set sequence).2 := by
  unfold rememberInWindow
  split
  · rename_i hmem
    exact ⟨h, fun s hs => .inr hs, hmem⟩
  rename_i hmem
  obtain ⟨hsame, hnodup⟩ := h.append_new hmem
  obtain ⟨hcons, hdrop⟩ := evictRecentlyCompleted_consistent hsame hnodup
  refine ⟨hcons, fun s hs => ?_, ?_⟩
  · rw [hcons.same, hdrop] at hs
    have hin := List.mem_of_mem_drop hs
    rw [← hsame, Finset.mem_insert] at hin
    exact hin
  · -- the new number is the last one, so it is not evicted
    rw [hcons.same, hdrop, List.drop_append_of_le_length]
    · simp
    · have hlength := h.length_le
      rw [List.length_append, List.length_singleton]
      simp only [kRecentCompletedUdpSequenceWindow] at *
      omega

@[simp] theorem countCompletedUdpFrame_core (st : StreamClient) (key : ℕ)
    (a : UdpFrameAssembly) (frame : ReceivedFrame) :
    (countCompletedUdpFrame st key a frame).core =
      { st.core with
        completed := st.core.completed ++
          [{ sequence := key, assembly := a, frame := frame }] } := rfl

@[simp] theorem forgetUdpAssembly_core (st : StreamClient) (key : ℕ) :
    (forgetUdpAssembly st key).core =
      { st.core with udpAssemblies := st.core.udpAssemblies.erase key } := rfl

@[simp] theorem rememberCompletedUdpFrameSequence_core (st : StreamClient) (sequence : ℕ) :
    (rememberCompletedUdpFrameSequence st sequence).core =
      { st.core with
        recentlyCompletedUdpSequenceOrder := (rememberInWindow
          st.core.recentlyCompletedUdpSequenceOrder
          st.core.recentlyCompletedUdpSequences sequence).1
        recentlyCompletedUdpSequences := (rememberInWindow
          st.core.recentlyCompletedUdpSequenceOrder
          st.core.recentlyCompletedUdpSequences sequence).2 } := rfl

/-- What the completion of a frame changes. -/
theorem retireCompletedUdpFrame_core (st : StreamClient) (key : ℕ) (a : UdpFrameAssembly)
    (frame : ReceivedFrame) (nowNs : ℕ) :
    (retireCompletedUdpFrame st key a frame nowNs).core =
      { st.core with
        udpAssemblies := st.udpAssemblies.erase key
        recentlyCompletedUdpSequenceOrder := (rememberInWindow
          st.recentlyCompletedUdpSequenceOrder st.recentlyCompletedUdpSequences key).1
        recentlyCompletedUdpSequences := (rememberInWindow
          st.recentlyCompletedUdpSequenceOrder st.recentlyCompletedUdpSequences key).2
        completed := st.history.completed ++
          [{ sequence := key, assembly := a, frame := frame }] } := by
  simp only [retireCompletedUdpFrame, forgetUdpAssembly_core,
    rememberCompletedUdpFrameSequence_core, onCompletedUdpFrame_core,
    countCompletedUdpFrame_core]
  rfl

/-! ### Preservation by the operations -/

section Preservation

variable {env : ClientEnv} {cfg : ClientConfig}
  {D : MessageHeader → UdpFrameFragmentHeader → Bytes → Prop}
  {Φ : ℕ → UdpFrameAssembly → Prop} {Ω : CompletedFrame → Prop} {Ψ : ReceivedFrame → Prop}
  {st st' : StreamClient}

namespace ReceiverInv

/-- The invariant only depends on the core of the state. -/
theorem of_core (h : ReceiverInv Φ Ω Ψ st) (heq : st'.core = st.core) :
    ReceiverInv Φ Ω Ψ st' := by
  simp only [StreamClient.core, ReceiverCore.mk.injEq] at heq
  obtain ⟨h1, h2, -, -, h3, h4, h5, h6⟩ := heq
  exact ⟨h1 ▸ h.assemblies, h1 ▸ h4 ▸ h.notRecent, h2 ▸ h.buffered, h5 ▸ h.completed,
    h6 ▸ h.checks, h3 ▸ h4 ▸ h.window⟩

theorem check (h : ReceiverInv Φ Ω Ψ st) {checks : List RuntimeCheck}
    (hchecks : ∀ c ∈ checks, c.Holds) : ReceiverInv Φ Ω Ψ (st.check checks) :=
  { h with checks := List.forall_mem_append.mpr ⟨h.checks, hchecks⟩ }

theorem insert (h : ReceiverInv Φ Ω Ψ st) {key : ℕ} {a : UdpFrameAssembly} (hΦ : Φ key a)
    (hkey : key ∉ st.recentlyCompletedUdpSequences) :
    ReceiverInv Φ Ω Ψ { st with udpAssemblies := st.udpAssemblies.insert key a } where
  assemblies := by
    intro k b hb
    rw [OrdMap.getElem?_insert] at hb
    split at hb
    · rename_i heq
      obtain rfl := Option.some.inj hb
      exact heq ▸ hΦ
    · exact h.assemblies k b hb
  notRecent := by
    intro k b hb
    rw [OrdMap.getElem?_insert] at hb
    split at hb
    · rename_i heq
      exact heq ▸ hkey
    · exact h.notRecent k b hb
  buffered := h.buffered
  completed := h.completed
  checks := h.checks
  window := h.window

/-- Assemblies may disappear. -/
theorem remove (h : ReceiverInv Φ Ω Ψ st) {m : OrdMap UdpFrameAssembly}
    (hm : ∀ (key : ℕ) a, m[key]? = some a → st.udpAssemblies[key]? = some a) :
    ReceiverInv Φ Ω Ψ { st with udpAssemblies := m } :=
  { h with
    assemblies := fun key a ha => h.assemblies key a (hm key a ha)
    notRecent := fun key a ha => h.notRecent key a (hm key a ha) }

theorem erase (h : ReceiverInv Φ Ω Ψ st) (key : ℕ) :
    ReceiverInv Φ Ω Ψ { st with udpAssemblies := st.udpAssemblies.erase key } :=
  h.remove fun k a ha => by
    rw [OrdMap.getElem?_erase] at ha
    split at ha
    · simp at ha
    · exact ha

theorem pruneExpiredUdpAssemblies (rules : AssemblyRules cfg D Φ Ω Ψ)
    (h : ReceiverInv Φ Ω Ψ st) (nowNs : ℕ) :
    ReceiverInv Φ Ω Ψ (Client.pruneExpiredUdpAssemblies st nowNs) := by
  let dead := st.udpAssemblies.toList.filter fun e => e.2.expired nowNs
  have hchecks : ∀ c ∈ dead.map fun e => RuntimeCheck.difference
      e.2.receivedFragments.length e.2.receivedFragmentCount, c.Holds := by
    intro c hc
    obtain ⟨e, he, rfl⟩ := List.mem_map.mp hc
    have hmem := (List.mem_filter.mp he).1
    exact (rules.wellFormed (h.assemblies _ _ (OrdMap.mem_toList.mp hmem))).count_le
  have hsub : ∀ (key : ℕ) a, (st.udpAssemblies.filter fun _ a => !a.expired nowNs)[key]? =
      some a → st.udpAssemblies[key]? = some a := by
    intro key a ha
    rw [OrdMap.getElem?_filter] at ha
    exact (Option.filter_eq_some_iff.mp ha).1
  exact ((h.check hchecks).remove hsub).of_core rfl

/-! #### Jitter buffer -/

theorem bufferCompletedUdpFrame (h : ReceiverInv Φ Ω Ψ st) {frame : ReceivedFrame}
    (hframe : Ψ frame) : ReceiverInv Φ Ω Ψ (Client.bufferCompletedUdpFrame st frame) := by
  unfold Client.bufferCompletedUdpFrame
  split
  · exact h.of_core rfl
  · refine { h with buffered := ?_ }
    intro key b hb
    change (st.udpJitterBuffer.insert _ _)[key]? = some b at hb
    rw [OrdMap.getElem?_insert] at hb
    split at hb
    · obtain rfl := Option.some.inj hb
      exact hframe
    · exact h.buffered key b hb

theorem emitExpectedUdpFrame (h : ReceiverInv Φ Ω Ψ st) {expected : BufferedUdpFrame}
    (hexpected : Ψ expected.frame) (cfg : ClientConfig) (nowNs targetDelayNs : ℕ) :
    ReceiverInv Φ Ω Ψ (Client.emitExpectedUdpFrame cfg st nowNs targetDelayNs expected).1 ∧
      ∀ frame ∈ (Client.emitExpectedUdpFrame cfg st nowNs targetDelayNs expected).2,
        Ψ frame := by
  simp only [Client.emitExpectedUdpFrame]
  split
  · exact ⟨h, by simp⟩
  · refine ⟨{ h with buffered := ?_ }, by simpa using hexpected⟩
    intro key b hb
    change (st.udpJitterBuffer.erase _)[key]? = some b at hb
    rw [OrdMap.getElem?_erase] at hb
    split at hb
    · simp at hb
    · exact h.buffered key b hb

theorem anchorJitterBuffer (h : ReceiverInv Φ Ω Ψ st) (oldestSequence : ℕ) :
    ReceiverInv Φ Ω Ψ (Client.anchorJitterBuffer st oldestSequence) := by
  unfold Client.anchorJitterBuffer
  split
  · exact h
  · exact { h with }

theorem skipMissing (h : ReceiverInv Φ Ω Ψ st) (oldestSequence : ℕ) :
    ReceiverInv Φ Ω Ψ (Client.skipMissing st oldestSequence) :=
  { h with }

theorem tryPopReadyUdpFrame (h : ReceiverInv Φ Ω Ψ st) (cfg : ClientConfig) (nowNs : ℕ) :
    ReceiverInv Φ Ω Ψ (Client.tryPopReadyUdpFrame cfg st nowNs).1 ∧
      ∀ frame ∈ (Client.tryPopReadyUdpFrame cfg st nowNs).2, Ψ frame := by
  unfold Client.tryPopReadyUdpFrame
  split
  · exact ⟨h, by simp⟩
  split
  · exact ⟨h, by simp⟩
  rename_i oldestSequence oldest hfront
  have holdest := h.buffered _ _ (OrdMap.front?_eq_some hfront).1
  simp only
  -- neither the target delay nor the cursor touches a frame
  have hanchor := ((h.of_core (currentJitterBufferTargetDelayNs_core cfg st)).anchorJitterBuffer
    oldestSequence)
  split
  · rename_i expected hexpected
    exact hanchor.emitExpectedUdpFrame (hanchor.buffered _ _ hexpected) cfg _ _
  · split
    · exact (hanchor.skipMissing oldestSequence).emitExpectedUdpFrame holdest cfg _ _
    · exact ⟨hanchor, by simp⟩

/-! #### NACK requests -/

theorem requestMissingFragments (rules : AssemblyRules cfg D Φ Ω Ψ)
    (h : ReceiverInv Φ Ω Ψ st) (env : ClientEnv) (nowNs key : ℕ) :
    ReceiverInv Φ Ω Ψ (Client.requestMissingFragments env cfg nowNs st key) := by
  unfold Client.requestMissingFragments
  split
  · exact h
  rename_i a ha
  split
  · exact h
  simp only
  have hΦ := h.assemblies key a ha
  have hcount : ∀ c ∈ [RuntimeCheck.difference a.receivedFragments.length
      a.receivedFragmentCount], c.Holds := by
    simpa [RuntimeCheck.Holds, UdpFrameAssembly.fragmentCount] using
      (rules.wellFormed hΦ).count_le
  have hsent := (h.check hcount).of_core
    (sendUdpNack_core env cfg _ nowNs a.metadata.sequence
      (a.missingFragments.map (· % 2 ^ 16)))
  split
  · refine hsent.insert (rules.retried _ _ hΦ) ?_
    have hcore := congrArg ReceiverCore.recentlyCompletedUdpSequences
      (sendUdpNack_core env cfg (st.check [.difference a.receivedFragments.length
        a.receivedFragmentCount]) nowNs a.metadata.sequence
        (a.missingFragments.map (· % 2 ^ 16)))
    change _ = st.recentlyCompletedUdpSequences at hcore
    change key ∉ StreamClient.recentlyCompletedUdpSequences _
    simp only [StreamClient.core] at hcore
    rw [hcore]
    exact h.notRecent key a ha
  · exact hsent

theorem maybeSendUdpNackRequests (rules : AssemblyRules cfg D Φ Ω Ψ)
    (h : ReceiverInv Φ Ω Ψ st) (env : ClientEnv) (nowNs : ℕ) :
    ReceiverInv Φ Ω Ψ (Client.maybeSendUdpNackRequests env cfg st nowNs) :=
  maybeSendUdpNackRequests_invariant
    (fun _ key h => h.requestMissingFragments rules env nowNs key) h

/-! #### Completion -/

/-- The assembly leaves the map in the step in which its number is remembered. -/
theorem retireCompletedUdpFrame (h : ReceiverInv Φ Ω Ψ st) {key : ℕ} {a : UdpFrameAssembly}
    {frame : ReceivedFrame} (hΩ : Ω { sequence := key, assembly := a, frame := frame })
    (nowNs : ℕ) : ReceiverInv Φ Ω Ψ (Client.retireCompletedUdpFrame st key a frame nowNs) := by
  have hcore := retireCompletedUdpFrame_core st key a frame nowNs
  obtain ⟨hwindow, hsub, -⟩ := rememberInWindow_consistent h.window key
  simp only [StreamClient.core, ReceiverCore.mk.injEq] at hcore
  obtain ⟨hassemblies, hbuffer, -, -, horder, hset, hcompleted, hchecks⟩ := hcore
  have herase (k : ℕ) (b : UdpFrameAssembly)
      (hb : (st.udpAssemblies.erase key)[k]? = some b) :
      k ≠ key ∧ st.udpAssemblies[k]? = some b := by
    rw [OrdMap.getElem?_erase] at hb
    split at hb
    · simp at hb
    · exact ⟨Ne.symm ‹_›, hb⟩
  constructor
  case assemblies =>
    rw [hassemblies]
    exact fun k b hb => h.assemblies k b (herase k b hb).2
  case notRecent =>
    rw [hassemblies, hset]
    intro k b hb hrecent
    obtain ⟨hne, hold⟩ := herase k b hb
    rcases hsub k hrecent with heq | hin
    · exact hne heq
    · exact h.notRecent k b hold hin
  case buffered => exact hbuffer ▸ h.buffered
  case completed =>
    rw [hcompleted]
    exact List.forall_mem_append.mpr ⟨h.completed, by simpa using hΩ⟩
  case checks => exact hchecks ▸ h.checks
  case window =>
    rw [horder, hset]
    exact hwindow

theorem finalizeCompletedUdpFrame (rules : AssemblyRules cfg D Φ Ω Ψ)
    (h : ReceiverInv Φ Ω Ψ st) {key : ℕ} {a : UdpFrameAssembly} (hΦ : Φ key a)
    (env : ClientEnv) (nowNs : ℕ) (deferReadyPop : Bool) :
    ReceiverInv Φ Ω Ψ
        (Client.finalizeCompletedUdpFrame env cfg st key a nowNs deferReadyPop).1 ∧
      ∀ frame ∈ (Client.finalizeCompletedUdpFrame env cfg st key a nowNs deferReadyPop).2,
        Ψ frame := by
  unfold Client.finalizeCompletedUdpFrame
  split
  · exact ⟨h, by simp⟩
  rename_i hcomplete
  obtain ⟨hΩ, hΨ⟩ := rules.finished nowNs hΦ
    (by simpa [UdpFrameAssembly.complete] using hcomplete)
  have hretired := h.retireCompletedUdpFrame hΩ nowNs
  simp only
  split
  · exact ⟨hretired, by simpa using hΨ⟩
  have hbuffered := hretired.bufferCompletedUdpFrame hΨ
  split
  · exact ⟨hbuffered, by simp⟩
  · exact (hbuffered.maybeSendUdpNackRequests rules env nowNs).tryPopReadyUdpFrame cfg nowNs

/-! #### Recovery and datagrams -/

theorem recoverAssembly (rules : AssemblyRules cfg D Φ Ω Ψ)
    (h : ReceiverInv Φ Ω Ψ st) {key : ℕ} {a : UdpFrameAssembly} (hΦ : Φ key a)
    (hkey : key ∉ st.recentlyCompletedUdpSequences) :
    ReceiverInv Φ Ω Ψ (Client.recoverAssembly cfg st key a).1 ∧
      Φ key (Client.recoverAssembly cfg st key a).2.1 := by
  have hchecked := h.check ((rules.wellFormed hΦ).maybeRecoverWithUdpFec_checks cfg)
  unfold Client.recoverAssembly
  simp only
  rcases maybeRecoverWithUdpFec_cases cfg a with
    ⟨hfalse, heq⟩ | ⟨htrue, henabled, hparity, -, missing, offset, size, bytes, hrec, heq⟩
  · rw [hfalse]
    exact ⟨hchecked, hΦ⟩
  · have hplaced := rules.recovered henabled hparity hrec hΦ
    rw [htrue, heq]
    exact ⟨(hchecked.insert hplaced hkey).of_core rfl, hplaced⟩

theorem recoverAssemblies (rules : AssemblyRules cfg D Φ Ω Ψ)
    (h : ReceiverInv Φ Ω Ψ st) (keys recovered : List ℕ) :
    ReceiverInv Φ Ω Ψ (Client.recoverAssemblies cfg keys st recovered).1 := by
  induction keys generalizing st recovered with
  | nil => exact h
  | cons key keys ih =>
      unfold Client.recoverAssemblies
      split
      · exact ih h recovered
      rename_i a ha
      split
      · exact ih h recovered
      have hnext := (h.recoverAssembly rules (h.assemblies key a ha) (h.notRecent key a ha)).1
      split <;> (rename_i heq; rw [heq] at hnext; exact ih hnext _)

theorem finalizeRecovered (rules : AssemblyRules cfg D Φ Ω Ψ)
    (h : ReceiverInv Φ Ω Ψ st) (env : ClientEnv) (nowNs : ℕ) (deferReadyPop : Bool)
    (sequences : List ℕ) :
    ReceiverInv Φ Ω Ψ
        (Client.finalizeRecovered env cfg nowNs deferReadyPop sequences st).1 ∧
      ∀ frame ∈ (Client.finalizeRecovered env cfg nowNs deferReadyPop sequences st).2,
        Ψ frame := by
  induction sequences generalizing st with
  | nil => exact ⟨h, by simp [Client.finalizeRecovered]⟩
  | cons sequence sequences ih =>
      unfold Client.finalizeRecovered
      split
      · exact ih h
      rename_i a ha
      split
      · exact ih h
      have hnext := h.finalizeCompletedUdpFrame rules (h.assemblies _ a ha) env nowNs
        deferReadyPop
      split
      · rename_i heq
        rwa [heq] at hnext
      · rename_i heq
        rw [heq] at hnext
        exact ih hnext.1

theorem finalizeRecoverableUdpFecFrames (rules : AssemblyRules cfg D Φ Ω Ψ)
    (h : ReceiverInv Φ Ω Ψ st) (env : ClientEnv) (nowNs : ℕ) (deferReadyPop : Bool) :
    ReceiverInv Φ Ω Ψ
        (Client.finalizeRecoverableUdpFecFrames env cfg st nowNs deferReadyPop).1 ∧
      ∀ frame ∈ (Client.finalizeRecoverableUdpFecFrames env cfg st nowNs deferReadyPop).2,
        Ψ frame :=
  (h.recoverAssemblies rules _ _).finalizeRecovered rules env nowNs deferReadyPop _

theorem finishIfComplete (rules : AssemblyRules cfg D Φ Ω Ψ)
    (h : ReceiverInv Φ Ω Ψ st) {key : ℕ} {a : UdpFrameAssembly} (hΦ : Φ key a)
    (env : ClientEnv) (nowNs : ℕ) (deferReadyPop : Bool) :
    ReceiverInv Φ Ω Ψ (Client.finishIfComplete env cfg st key a nowNs deferReadyPop).1 ∧
      ∀ frame ∈ (Client.finishIfComplete env cfg st key a nowNs deferReadyPop).2, Ψ frame := by
  unfold Client.finishIfComplete
  split
  · exact h.finalizeCompletedUdpFrame rules hΦ env nowNs deferReadyPop
  · exact ⟨h, by simp⟩

theorem recoverIfIncomplete (rules : AssemblyRules cfg D Φ Ω Ψ)
    (h : ReceiverInv Φ Ω Ψ st) {key : ℕ} {a : UdpFrameAssembly} (hΦ : Φ key a)
    (hkey : key ∉ st.recentlyCompletedUdpSequences) :
    ReceiverInv Φ Ω Ψ (Client.recoverIfIncomplete cfg st key a).1 ∧
      Φ key (Client.recoverIfIncomplete cfg st key a).2 := by
  unfold Client.recoverIfIncomplete
  split
  · exact h.recoverAssembly rules hΦ hkey
  · exact ⟨h, hΦ⟩

section Datagram

variable {header : MessageHeader} {fragment : UdpFrameFragmentHeader} {body : Bytes}
  {a : UdpFrameAssembly}

theorem receiveFragment (rules : AssemblyRules cfg D Φ Ω Ψ) (h : ReceiverInv Φ Ω Ψ st)
    (hD : D header fragment body) (hvalid : ValidFragment fragment body)
    (hdata : fragment.fragmentRole = UdpFragmentRole.kData.code)
    (hcount : a.receivedFragments.length = fragment.fragmentCount)
    (hpayload : a.payload.length = fragment.framePayloadSize)
    (hΦ : Φ fragment.frameSequence a)
    (hkey : fragment.frameSequence ∉ st.recentlyCompletedUdpSequences) (nowNs : ℕ) :
    ReceiverInv Φ Ω Ψ (Client.receiveFragment st a fragment body nowNs).1 ∧
      Φ fragment.frameSequence (Client.receiveFragment st a fragment body nowNs).2 ∧
      fragment.frameSequence ∉
        (Client.receiveFragment st a fragment body nowNs).1.recentlyCompletedUdpSequences := by
  unfold Client.receiveFragment
  simp only
  split
  · exact ⟨h.of_core rfl, hΦ, hkey⟩
  rename_i hnew
  rw [UdpFrameAssembly.getD_receivedFragments] at hnew
  have hstored := rules.data nowNs hD hvalid hdata hcount hpayload hnew hΦ
  have hinside : fragment.fragmentOffset + body.length ≤ a.payload.length :=
    (hvalid.inside hdata).trans_eq hpayload.symm
  have hchecks : ∀ c ∈ [RuntimeCheck.access a.payload.length fragment.fragmentOffset body.length,
      .access (sizeofMessageHeader + sizeofUdpFrameFragmentHeader + body.length)
        (sizeofMessageHeader + sizeofUdpFrameFragmentHeader) body.length], c.Holds := by
    simp only [List.forall_mem_cons, RuntimeCheck.Holds]
    exact ⟨hinside, le_rfl, by simp⟩
  exact ⟨((h.check hchecks).insert hstored hkey).of_core rfl, hstored, hkey⟩

theorem acceptDataFragment (rules : AssemblyRules cfg D Φ Ω Ψ) (h : ReceiverInv Φ Ω Ψ st)
    (hD : D header fragment body) (hvalid : ValidFragment fragment body)
    (hdata : fragment.fragmentRole = UdpFragmentRole.kData.code)
    (hcount : a.receivedFragments.length = fragment.fragmentCount)
    (hpayload : a.payload.length = fragment.framePayloadSize)
    (hΦ : Φ fragment.frameSequence a)
    (hkey : fragment.frameSequence ∉ st.recentlyCompletedUdpSequences)
    (env : ClientEnv) (nowNs : ℕ) (deferReadyPop : Bool) :
    ReceiverInv Φ Ω Ψ
        (Client.acceptDataFragment env cfg st a fragment body nowNs deferReadyPop).1 ∧
      ∀ frame ∈ (Client.acceptDataFragment env cfg st a fragment body nowNs deferReadyPop).2,
        Ψ frame := by
  obtain ⟨hinv, hΦ, hkey⟩ :=
    h.receiveFragment rules hD hvalid hdata hcount hpayload hΦ hkey nowNs
  obtain ⟨hinv, hΦ⟩ := hinv.recoverIfIncomplete rules hΦ hkey
  exact hinv.finishIfComplete rules hΦ env nowNs deferReadyPop

theorem acceptParityFragment (rules : AssemblyRules cfg D Φ Ω Ψ) (h : ReceiverInv Φ Ω Ψ st)
    {sequence : ℕ} (hΦ : Φ sequence (storeParity cfg a body nowNs))
    (hkey : sequence ∉ st.recentlyCompletedUdpSequences)
    (env : ClientEnv) (deferReadyPop : Bool) :
    ReceiverInv Φ Ω Ψ
        (Client.acceptParityFragment env cfg st a sequence body nowNs deferReadyPop).1 ∧
      ∀ frame ∈ (Client.acceptParityFragment env cfg st a sequence body nowNs deferReadyPop).2,
        Ψ frame := by
  refine ReceiverInv.finishIfComplete rules ?_ hΦ env nowNs deferReadyPop
  exact (h.insert hΦ hkey).of_core rfl

theorem giveUpAssembly (rules : AssemblyRules cfg D Φ Ω Ψ) (h : ReceiverInv Φ Ω Ψ st)
    {key : ℕ} (hΦ : Φ key a) (sequence : ℕ) :
    ReceiverInv Φ Ω Ψ (Client.giveUpAssembly st sequence a) := by
  refine ((h.check ?_).erase sequence).of_core rfl
  simpa [RuntimeCheck.Holds, UdpFrameAssembly.fragmentCount] using
    (rules.wellFormed hΦ).count_le

/-- The assembly that a datagram refers to satisfies the property, whether it was
there or is opened by the datagram. -/
theorem openAssembly (rules : AssemblyRules cfg D Φ Ω Ψ) (h : ReceiverInv Φ Ω Ψ st)
    (hD : D header fragment body) (hvalid : ValidFragment fragment body) (nowNs : ℕ) :
    Φ fragment.frameSequence (Client.openAssembly cfg
      st.udpAssemblies[fragment.frameSequence]? header fragment nowNs) := by
  cases hstored : st.udpAssemblies[fragment.frameSequence]? with
  | none => exact rules.opened nowNs hD hvalid
  | some a =>
      have hΦ := h.assemblies _ a hstored
      rwa [(rules.wellFormed hΦ).openAssembly_some]

theorem assembleFragment (rules : AssemblyRules cfg D Φ Ω Ψ) (h : ReceiverInv Φ Ω Ψ st)
    (hD : D header fragment body) (hvalid : ValidFragment fragment body)
    (hkey : fragment.frameSequence ∉ st.recentlyCompletedUdpSequences)
    (env : ClientEnv) (nowNs : ℕ) (deferReadyPop : Bool) :
    ReceiverInv Φ Ω Ψ
        (Client.assembleFragment env cfg st header fragment body nowNs deferReadyPop).1 ∧
      ∀ frame ∈
        (Client.assembleFragment env cfg st header fragment body nowNs deferReadyPop).2,
        Ψ frame := by
  have hΦ := h.openAssembly rules hD hvalid nowNs
  unfold Client.assembleFragment
  simp only
  generalize Client.openAssembly cfg st.udpAssemblies[fragment.frameSequence]? header fragment
    nowNs = a at hΦ ⊢
  split
  · exact ⟨h.giveUpAssembly rules hΦ _, by simp⟩
  rename_i hlayout
  push Not at hlayout
  have hopened := h.insert hΦ hkey
  split
  · rename_i hrole
    exact hopened.acceptParityFragment rules
      (rules.parity nowNs hD hvalid hrole hlayout.1 hlayout.2 hΦ) hkey env deferReadyPop
  · rename_i hrole
    exact hopened.acceptDataFragment rules hD hvalid (hvalid.role.resolve_right hrole)
      hlayout.1 hlayout.2 hΦ hkey env nowNs deferReadyPop

theorem acceptFragment (rules : AssemblyRules cfg D Φ Ω Ψ) (h : ReceiverInv Φ Ω Ψ st)
    (hD : D header fragment body) (hvalid : ValidFragment fragment body)
    (env : ClientEnv) (nowNs : ℕ) (deferReadyPop : Bool) :
    ReceiverInv Φ Ω Ψ
        (Client.acceptFragment env cfg st header fragment body nowNs deferReadyPop).1 ∧
      ∀ frame ∈ (Client.acceptFragment env cfg st header fragment body nowNs deferReadyPop).2,
        Ψ frame := by
  have hinjected := h.of_core (shouldInjectUdpLoss_core cfg st fragment)
  unfold Client.acceptFragment
  split
  · rename_i heq
    rw [heq] at hinjected
    exact ⟨hinjected, by simp⟩
  · rename_i st' heq
    rw [heq] at hinjected
    split
    · exact ⟨hinjected.of_core rfl, by simp⟩
    · rename_i hnotRecent
      exact hinjected.assembleFragment rules hD hvalid
        (by simpa [isRecentlyCompletedUdpFrameSequence] using hnotRecent) env nowNs deferReadyPop

end Datagram

theorem headerReads_holds (data : Bytes) : ∀ c ∈ headerReads data, c.Holds := by
  unfold headerReads
  split
  · simp
  rename_i hlong
  simp only [sizeofMessageHeader, sizeofUdpFrameFragmentHeader] at hlong ⊢
  split <;> simp only [List.forall_mem_cons, RuntimeCheck.Holds]
  · exact ⟨by omega, by omega, by simp⟩
  · exact ⟨by omega, by simp⟩

theorem noteDatagram (rules : AssemblyRules cfg D Φ Ω Ψ) (h : ReceiverInv Φ Ω Ψ st)
    (data : Bytes) (nowNs : ℕ) : ReceiverInv Φ Ω Ψ (Client.noteDatagram st data nowNs) := by
  have hcounted : ReceiverInv Φ Ω Ψ { st with
      udpReceiveStats.datagramsReceived := st.udpReceiveStats.datagramsReceived + 1 } :=
    h.of_core rfl
  exact (hcounted.pruneExpiredUdpAssemblies rules nowNs).check (headerReads_holds data)

/-- One datagram: if its headers and body are allowed, everything is kept. -/
theorem processUdpDatagram (rules : AssemblyRules cfg D Φ Ω Ψ) (h : ReceiverInv Φ Ω Ψ st)
    {data : Bytes} (hD : ∀ header fragment body,
      parseUdpDatagram data = some (header, fragment, body) → D header fragment body)
    (env : ClientEnv) (nowNs : ℕ) (deferReadyPop : Bool) :
    ReceiverInv Φ Ω Ψ (Client.processUdpDatagram env cfg st data nowNs deferReadyPop).1 ∧
      ∀ frame ∈ (Client.processUdpDatagram env cfg st data nowNs deferReadyPop).2,
        Ψ frame := by
  have hnoted := h.noteDatagram rules data nowNs
  unfold Client.processUdpDatagram
  simp only
  split
  · exact ⟨hnoted.of_core rfl, by simp⟩
  · rename_i header fragment body hparse
    exact hnoted.acceptFragment rules (hD header fragment body hparse)
      (parseUdpDatagram_valid hparse) env nowNs deferReadyPop

/-! ### Runs -/

/-- The datagrams of an operation are allowed. -/
def AllowsOperation (D : MessageHeader → UdpFrameFragmentHeader → Bytes → Prop) :
    UdpOperation → Prop
  | .processUdpDatagram data _ _ => ∀ header fragment body,
      parseUdpDatagram data = some (header, fragment, body) → D header fragment body
  | _ => True

theorem connect (h : ReceiverInv Φ Ω Ψ st) (cfg : ClientConfig) :
    ReceiverInv Φ Ω Ψ (st.connect cfg) where
  assemblies := by simp [StreamClient.connect]
  notRecent := by simp [StreamClient.connect]
  buffered := by simp [StreamClient.connect]
  completed := h.completed
  checks := h.checks
  window := ⟨by simp [StreamClient.connect], by simp [StreamClient.connect],
    by simp [StreamClient.connect]⟩

theorem connected (cfg : ClientConfig) : ReceiverInv Φ Ω Ψ (StreamClient.connected cfg) where
  assemblies := by simp [StreamClient.connected, StreamClient.connect]
  notRecent := by simp [StreamClient.connected, StreamClient.connect]
  buffered := by simp [StreamClient.connected, StreamClient.connect]
  completed := by simp [StreamClient.connected, StreamClient.connect]
  checks := by simp [StreamClient.connected, StreamClient.connect]
  window := ⟨by simp [StreamClient.connected, StreamClient.connect],
    by simp [StreamClient.connected, StreamClient.connect],
    by simp [StreamClient.connected, StreamClient.connect]⟩

theorem runOperation (rules : AssemblyRules cfg D Φ Ω Ψ) (h : ReceiverInv Φ Ω Ψ st)
    {op : UdpOperation} (hop : AllowsOperation D op) (env : ClientEnv) :
    ReceiverInv Φ Ω Ψ (Client.runOperation env cfg st op).1 ∧
      ∀ frame ∈ (Client.runOperation env cfg st op).2, Ψ frame := by
  cases op with
  | connect => exact ⟨h.connect cfg, by simp [Client.runOperation]⟩
  | processUdpDatagram data nowNs deferReadyPop =>
      exact h.processUdpDatagram rules hop env nowNs deferReadyPop
  | finalizeRecoverableUdpFecFrames nowNs deferReadyPop =>
      exact h.finalizeRecoverableUdpFecFrames rules env nowNs deferReadyPop
  | tryPopReadyUdpFrame nowNs => exact h.tryPopReadyUdpFrame cfg nowNs
  | pruneExpiredUdpAssemblies nowNs =>
      exact ⟨h.pruneExpiredUdpAssemblies rules nowNs, by simp [Client.runOperation]⟩
  | maybeSendUdpNackRequests nowNs =>
      exact ⟨h.maybeSendUdpNackRequests rules env nowNs, by simp [Client.runOperation]⟩

/-- Every run of allowed operations keeps the invariant, and every frame that it
hands out satisfies `Ψ`. -/
theorem runOperations (rules : AssemblyRules cfg D Φ Ω Ψ) (h : ReceiverInv Φ Ω Ψ st)
    (env : ClientEnv) (ops : List UdpOperation) (hops : ∀ op ∈ ops, AllowsOperation D op) :
    ReceiverInv Φ Ω Ψ (Client.runOperations env cfg st ops).1 ∧
      ∀ frame ∈ (Client.runOperations env cfg st ops).2, Ψ frame :=
  runOperations_induction (fun _ _ hop hinv => hinv.runOperation rules hop env) hops h

end ReceiverInv

end Preservation

end AvProject.Client
