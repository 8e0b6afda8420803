import AvProject.Client.BufferDepth

/-!
How long the thread sleeps. The frames of the jitter buffer and the requests for missing
fragments wait for the clock; `recv` waits for a datagram or for its own timeout, whatever
falls due in the meantime.
-/

namespace AvProject.Client

open AvProject.Lib

/-- `SO_RCVTIMEO` of `connect`. -/
def receiveTimeoutNs (cfg : ClientConfig) : ℕ :=
  (if cfg.transport = .tcp then 5 else 1) * 1000 * 1000 * 1000

/-! ### The jitter buffer -/

/-- The time from which on the jitter buffer hands out a frame, if no other joins it. -/
def playoutDeadline (cfg : ClientConfig) (st : StreamClient) : Option ℕ :=
  if !cfg.udpJitterBufferEnabled then none
  else
    match OrdMap.front? st.udpJitterBuffer with
    | none => none
    | some (oldestSequence, oldest) =>
        let targetDelayNs := (currentJitterBufferTargetDelayNs cfg st).1
        let maxWaitNs := millisecondsToNs (effectiveMaxWaitMs cfg st)
        let next := (anchorJitterBuffer st oldestSequence).nextJitterBufferSequence
        if depthLimit cfg st ≤ st.udpJitterBuffer.size then some 0
        else
          match st.udpJitterBuffer[next]? with
          | some expected =>
              if targetDelayNs = 0 then some 0
              else if maxWaitNs = 0 then some (expected.bufferedTimestampNs + targetDelayNs)
              else some (expected.bufferedTimestampNs + min targetDelayNs maxWaitNs)
          | none =>
              -- Nothing but a full buffer makes up for a missing frame that may be awaited forever.
              if maxWaitNs = 0 then none else some (oldest.bufferedTimestampNs + maxWaitNs)

section

variable {cfg : ClientConfig} {st : StreamClient} {nowNs : ℕ}

theorem anchorJitterBuffer_anchorJitterBuffer (st : StreamClient) (oldest : ℕ) :
    anchorJitterBuffer (anchorJitterBuffer st oldest) oldest = anchorJitterBuffer st oldest := by
  by_cases hhas : st.hasNextJitterBufferSequence = true
  · simp only [anchorJitterBuffer, if_pos hhas]
  · simp only [anchorJitterBuffer, if_neg hhas]
    rfl

/-- Asking for the target again gives the same one, and nothing else depends on having asked. -/
theorem currentJitterBufferTargetDelayNs_again (cfg : ClientConfig) (st : StreamClient) :
    (currentJitterBufferTargetDelayNs cfg (currentJitterBufferTargetDelayNs cfg st).2).1 =
      (currentJitterBufferTargetDelayNs cfg st).1 := by
  have hagain := AdaptiveJitterBuffer.targetDelayNs_targetDelayNs st.adaptiveJitter
  cases hstrategy : cfg.udpJitterBufferStrategy with
  | auto | off | low | smooth => simp only [currentJitterBufferTargetDelayNs, hstrategy, hagain]
  | fixed | adaptive => simp only [currentJitterBufferTargetDelayNs, hstrategy]

theorem currentJitterBufferTargetDelayNs_anchor (cfg : ClientConfig) (st : StreamClient)
    (oldest : ℕ) :
    (currentJitterBufferTargetDelayNs cfg (anchorJitterBuffer st oldest)).1 =
      (currentJitterBufferTargetDelayNs cfg st).1 := by
  rw [anchorJitterBuffer]
  split
  · rfl
  · cases hstrategy : cfg.udpJitterBufferStrategy <;>
      simp only [currentJitterBufferTargetDelayNs, hstrategy]

/-- The maximum wait depends on the parameters of the controller only. -/
theorem effectiveMaxWaitMs_congr {st' : StreamClient}
    (h : st'.adaptiveJitter.params = st.adaptiveJitter.params) :
    effectiveMaxWaitMs cfg st' = effectiveMaxWaitMs cfg st := by
  have hwait : st'.adaptiveJitter.currentMaxWaitMs = st.adaptiveJitter.currentMaxWaitMs :=
    congrArg JitterParams.maxWaitMs h
  rw [effectiveMaxWaitMs, effectiveMaxWaitMs, AdaptiveJitterBuffer.qualityMaxWaitMs,
    AdaptiveJitterBuffer.qualityMaxWaitMs, hwait]

/-- The client after the first lines of a pop, which set the target and the cursor. -/
def preparePop (cfg : ClientConfig) (st : StreamClient) (oldest : ℕ) : StreamClient :=
  anchorJitterBuffer (currentJitterBufferTargetDelayNs cfg st).2 oldest

theorem preparePop_udpJitterBuffer (cfg : ClientConfig) (st : StreamClient) (oldest : ℕ) :
    (preparePop cfg st oldest).udpJitterBuffer = st.udpJitterBuffer := by
  rw [preparePop, (anchorJitterBuffer_fields _ _).2]
  exact congrArg (·.playout.udpJitterBuffer) (currentJitterBufferTargetDelayNs_ledger cfg st)

theorem preparePop_nextJitterBufferSequence (cfg : ClientConfig) (st : StreamClient)
    (oldest : ℕ) :
    (preparePop cfg st oldest).nextJitterBufferSequence =
      (anchorJitterBuffer st oldest).nextJitterBufferSequence := by
  have hplayout : (currentJitterBufferTargetDelayNs cfg st).2.playout = st.playout :=
    congrArg PlayoutLedger.playout (currentJitterBufferTargetDelayNs_ledger cfg st)
  have hnext := congrArg PlayoutState.nextJitterBufferSequence hplayout
  have hhas := congrArg PlayoutState.hasNextJitterBufferSequence hplayout
  simp only [StreamClient.playout] at hnext hhas
  rw [preparePop, anchorJitterBuffer, anchorJitterBuffer, hhas]
  split
  · exact hnext
  · rfl

theorem preparePop_params (cfg : ClientConfig) (st : StreamClient) (oldest : ℕ) :
    (preparePop cfg st oldest).adaptiveJitter.params = st.adaptiveJitter.params := by
  rw [preparePop, (anchorJitterBuffer_fields _ _).1, currentJitterBufferTargetDelayNs_params]

theorem preparePop_depthLimit (cfg : ClientConfig) (st : StreamClient) (oldest : ℕ) :
    depthLimit cfg (preparePop cfg st oldest) = depthLimit cfg st :=
  depthLimit_congr (preparePop_params cfg st oldest)

theorem preparePop_effectiveMaxWaitMs (cfg : ClientConfig) (st : StreamClient) (oldest : ℕ) :
    effectiveMaxWaitMs cfg (preparePop cfg st oldest) = effectiveMaxWaitMs cfg st :=
  effectiveMaxWaitMs_congr (preparePop_params cfg st oldest)

theorem preparePop_target (cfg : ClientConfig) (st : StreamClient) (oldest : ℕ) :
    (currentJitterBufferTargetDelayNs cfg (preparePop cfg st oldest)).1 =
      (currentJitterBufferTargetDelayNs cfg st).1 := by
  rw [preparePop, currentJitterBufferTargetDelayNs_anchor, currentJitterBufferTargetDelayNs_again]

/-- A pop that sets the target and the cursor only does not move the deadline. -/
theorem playoutDeadline_preparePop {oldest : ℕ} {b : BufferedUdpFrame}
    (hfront : OrdMap.front? st.udpJitterBuffer = some (oldest, b)) :
    playoutDeadline cfg (preparePop cfg st oldest) = playoutDeadline cfg st := by
  have hnext : (anchorJitterBuffer (preparePop cfg st oldest) oldest).nextJitterBufferSequence =
      (anchorJitterBuffer st oldest).nextJitterBufferSequence := by
    rw [preparePop, anchorJitterBuffer_anchorJitterBuffer]
    exact preparePop_nextJitterBufferSequence cfg st oldest
  simp only [playoutDeadline, preparePop_udpJitterBuffer, preparePop_depthLimit,
    preparePop_effectiveMaxWaitMs, preparePop_target, hfront, hnext]

/-- The three limits of the last part of a pop. -/
theorem emitExpectedUdpFrame_ne_none_iff {targetDelayNs : ℕ} {expected : BufferedUdpFrame} :
    (emitExpectedUdpFrame cfg st nowNs targetDelayNs expected).2 ≠ none ↔
      (targetDelayNs = 0 ∨ targetDelayNs ≤ nowNs - expected.bufferedTimestampNs) ∨
        depthLimit cfg st ≤ st.udpJitterBuffer.size ∨
        0 < millisecondsToNs (effectiveMaxWaitMs cfg st) ∧
          millisecondsToNs (effectiveMaxWaitMs cfg st) ≤
            nowNs - expected.bufferedTimestampNs := by
  simp only [emitExpectedUdpFrame, depthLimit]
  split
  · rename_i hwaits
    simp only [ne_eq, not_true_eq_false, false_iff]
    tauto
  · rename_i hwaits
    simp only [ne_eq, reduceCtorEq, not_false_eq_true, true_iff]
    tauto

/-- A missing frame is given up at the maximum wait of the oldest one, or when the buffer is
full. -/
theorem shouldSkipMissing_iff {oldest : BufferedUdpFrame} :
    shouldSkipMissing cfg st nowNs oldest = true ↔
      0 < millisecondsToNs (effectiveMaxWaitMs cfg st) ∧
          millisecondsToNs (effectiveMaxWaitMs cfg st) ≤ nowNs - oldest.bufferedTimestampNs ∨
        depthLimit cfg st ≤ st.udpJitterBuffer.size := by
  simp [shouldSkipMissing, depthLimit]

/-- A pop with a frame in the buffer, once the target and the cursor are set. -/
theorem tryPopReadyUdpFrame_eq (hjitter : cfg.udpJitterBufferEnabled = true) {oldest : ℕ}
    {b : BufferedUdpFrame} (hfront : OrdMap.front? st.udpJitterBuffer = some (oldest, b))
    (nowNs : ℕ) :
    tryPopReadyUdpFrame cfg st nowNs =
      match (preparePop cfg st oldest).udpJitterBuffer[
          (preparePop cfg st oldest).nextJitterBufferSequence]? with
      | some expected => emitExpectedUdpFrame cfg (preparePop cfg st oldest) nowNs
          (currentJitterBufferTargetDelayNs cfg st).1 expected
      | none =>
          if shouldSkipMissing cfg (preparePop cfg st oldest) nowNs b then
            emitExpectedUdpFrame cfg (skipMissing (preparePop cfg st oldest) oldest) nowNs
              (currentJitterBufferTargetDelayNs cfg st).1 b
          else (preparePop cfg st oldest, none) := by
  rw [tryPopReadyUdpFrame, if_neg (by simp [hjitter]), hfront]
  rfl

/-- A buffer hands out a frame exactly from its deadline on. -/
theorem tryPopReadyUdpFrame_ne_none_iff (cfg : ClientConfig) (st : StreamClient) (nowNs : ℕ) :
    (tryPopReadyUdpFrame cfg st nowNs).2 ≠ none ↔
      ∃ deadline ∈ playoutDeadline cfg st, deadline ≤ nowNs := by
  by_cases hjitter : cfg.udpJitterBufferEnabled = true
  swap
  · simp [tryPopReadyUdpFrame, playoutDeadline, hjitter]
  cases hfront : OrdMap.front? st.udpJitterBuffer with
  | none => simp [tryPopReadyUdpFrame, playoutDeadline, hfront]
  | some front =>
      obtain ⟨oldest, b⟩ := front
      have henabled : ¬(!cfg.udpJitterBufferEnabled) = true := by simp [hjitter]
      rw [tryPopReadyUdpFrame_eq hjitter hfront, playoutDeadline, if_neg henabled, hfront,
        preparePop_udpJitterBuffer, preparePop_nextJitterBufferSequence]
      simp only
      cases st.udpJitterBuffer[(anchorJitterBuffer st oldest).nextJitterBufferSequence]? with
      | some expected =>
          simp only
          rw [emitExpectedUdpFrame_ne_none_iff, preparePop_depthLimit,
            preparePop_effectiveMaxWaitMs, preparePop_udpJitterBuffer]
          split_ifs <;> simp <;> omega
      | none =>
          simp only
          have hgivesUp : (if shouldSkipMissing cfg (preparePop cfg st oldest) nowNs b then
              emitExpectedUdpFrame cfg (skipMissing (preparePop cfg st oldest) oldest) nowNs
                (currentJitterBufferTargetDelayNs cfg st).1 b
              else (preparePop cfg st oldest, none)).2 ≠ none ↔
              shouldSkipMissing cfg (preparePop cfg st oldest) nowNs b = true := by
            split
            · rename_i hskip
              exact iff_of_true (emitExpectedUdpFrame_of_shouldSkipMissing hskip _ _) hskip
            · rename_i hwaits
              exact iff_of_false (by simp) hwaits
          rw [hgivesUp, shouldSkipMissing_iff, preparePop_depthLimit,
            preparePop_effectiveMaxWaitMs, preparePop_udpJitterBuffer]
          split_ifs <;> simp <;> omega

/-- What a pop without a frame leaves behind. -/
theorem playoutDeadline_tryPopReadyUdpFrame
    (hnone : (tryPopReadyUdpFrame cfg st nowNs).2 = none) :
    playoutDeadline cfg (tryPopReadyUdpFrame cfg st nowNs).1 = playoutDeadline cfg st := by
  by_cases hjitter : cfg.udpJitterBufferEnabled = true
  swap
  · simp [tryPopReadyUdpFrame, hjitter]
  cases hfront : OrdMap.front? st.udpJitterBuffer with
  | none => simp [tryPopReadyUdpFrame, hfront]
  | some front =>
      obtain ⟨oldest, b⟩ := front
      have hprepared : (tryPopReadyUdpFrame cfg st nowNs).1 = preparePop cfg st oldest := by
        rw [tryPopReadyUdpFrame_eq hjitter hfront] at hnone ⊢
        split at hnone
        · rw [emitExpectedUdpFrame] at hnone ⊢
          simp only at hnone ⊢
          split at hnone
          · rename_i hwaits
            rw [if_pos hwaits]
          · cases hnone
        split at hnone
        · rename_i hskip
          exact absurd hnone (emitExpectedUdpFrame_of_shouldSkipMissing hskip _ _)
        · rename_i hwaits
          rw [if_neg hwaits]
      rw [hprepared, playoutDeadline_preparePop hfront]

end

/-! ### The requests -/

/-- Whether a round of requests asks for the fragments of this assembly. -/
def requestDue (cfg : ClientConfig) (nowNs : ℕ) (a : UdpFrameAssembly) : Bool :=
  cfg.udpNackEnabled && cfg.udpNackMaxRequestsPerPacket != 0 && nackDue cfg nowNs a

/-- A request for this assembly waits for nothing but the clock. -/
def requestable (cfg : ClientConfig) (a : UdpFrameAssembly) : Bool :=
  cfg.udpNackEnabled && cfg.udpNackMaxRequestsPerPacket != 0 && !a.receivedFragments.isEmpty &&
    decide (a.receivedFragmentCount < a.receivedFragments.length) &&
    a.firstSeenTimestampNs != 0 && decide ((a.nackAttempts : ℤ) < cfg.udpNackMaxRetries)

/-- The first time after `nowNs` at which a round of requests asks for this assembly. -/
def requestDeadline (cfg : ClientConfig) (nowNs : ℕ) (a : UdpFrameAssembly) : Option ℕ :=
  if !requestable cfg a then none
  else
    let retryNs := a.lastNackTimestampNs + millisecondsToNs cfg.udpNackRetryIntervalMs
    let firstNs :=
      max (nowNs + 1) (a.firstSeenTimestampNs + millisecondsToNs cfg.udpNackRequestDelayMs)
    -- A last request that lies ahead of the clock does not count.
    if a.lastNackTimestampNs ≠ 0 ∧ a.lastNackTimestampNs ≤ firstNs then some (max firstNs retryNs)
    else some firstNs

theorem requestDue_iff (cfg : ClientConfig) (nowNs : ℕ) (a : UdpFrameAssembly) :
    requestDue cfg nowNs a = true ↔ requestable cfg a = true ∧
      a.firstSeenTimestampNs + millisecondsToNs cfg.udpNackRequestDelayMs ≤ nowNs ∧
      (a.lastNackTimestampNs = 0 ∨ nowNs < a.lastNackTimestampNs ∨
        a.lastNackTimestampNs + millisecondsToNs cfg.udpNackRetryIntervalMs ≤ nowNs) := by
  simp only [requestDue, requestable, nackDue, Bool.and_eq_true, Bool.not_eq_true',
    Bool.and_eq_false_iff, bne_iff_ne, bne_eq_false_iff_eq, decide_eq_true_eq,
    decide_eq_false_iff_not, ne_eq, Nat.not_le, Nat.not_lt]
  constructor
  · rintro ⟨⟨henabled, hmax⟩, ⟨⟨⟨⟨⟨hsome, hincomplete⟩, hseen⟩, hlater⟩, hdelay⟩, hretries⟩,
      (hfirst | hahead) | hretry⟩
    all_goals exact ⟨⟨⟨⟨⟨⟨henabled, hmax⟩, hsome⟩, hincomplete⟩, hseen⟩, hretries⟩, by omega⟩
  · rintro ⟨⟨⟨⟨⟨⟨henabled, hmax⟩, hsome⟩, hincomplete⟩, hseen⟩, hretries⟩, hdelay, hretry⟩
    exact ⟨⟨henabled, hmax⟩, ⟨⟨⟨⟨⟨hsome, hincomplete⟩, hseen⟩, by omega⟩, by omega⟩, hretries⟩,
      by omega⟩

/-- Between two times no request falls due exactly if the deadline does not lie there. -/
theorem requestDue_between_iff (cfg : ClientConfig) (nowNs untilNs : ℕ) (a : UdpFrameAssembly) :
    (∀ t, nowNs < t → t < untilNs → requestDue cfg t a = false) ↔
      ∀ deadline ∈ requestDeadline cfg nowNs a, untilNs ≤ deadline := by
  simp only [← Bool.not_eq_true, requestDue_iff, requestDeadline]
  cases requestable cfg a with
  | false => simp
  | true =>
      simp only [Bool.not_true, Bool.false_eq_true, if_false, true_and]
      generalize millisecondsToNs cfg.udpNackRequestDelayMs = delayNs
      generalize millisecondsToNs cfg.udpNackRetryIntervalMs = intervalNs
      split
      · rename_i hlast
        simp only [Option.mem_def, Option.some.injEq, forall_eq']
        refine ⟨fun h => ?_, fun h t ht huntil => by omega⟩
        by_contra hlate
        exact h _ (by omega) (Nat.lt_of_not_le hlate) (by omega)
      · rename_i hlast
        simp only [Option.mem_def, Option.some.injEq, forall_eq']
        refine ⟨fun h => ?_, fun h t ht huntil => by omega⟩
        by_contra hlate
        exact h _ (by omega) (Nat.lt_of_not_le hlate) (by omega)

/-! ### The loop -/

/-- Nothing that the client holds falls due between `nowNs` and the timeout of `recv`. -/
def NothingFallsDue (cfg : ClientConfig) (st : StreamClient) (nowNs : ℕ) : Prop :=
  ∀ t, nowNs < t → t < nowNs + receiveTimeoutNs cfg →
    (tryPopReadyUdpFrame cfg st t).2 = none ∧
      ∀ (key : ℕ) (a : UdpFrameAssembly), st.udpAssemblies[key]? = some a →
        requestDue cfg t a = false

/-- The thread does not block in `recv` while something falls due. -/
def SleepsInTime (env : ClientEnv) (cfg : ClientConfig) (s : ReceiveState)
    (event : ReceiveEvent) : Prop :=
  ∀ s' ∈ receiveStep env cfg s event, s'.point = .waiting →
    ∃ nowNs, s.point = .maintenancePop nowNs ∧ NothingFallsDue cfg s'.client nowNs

/-- Every deadline of the client lies beyond the timeout of `recv`. -/
def DeadlinesBeyond (cfg : ClientConfig) (st : StreamClient) (nowNs : ℕ) : Prop :=
  (∀ deadline ∈ playoutDeadline cfg st, nowNs + receiveTimeoutNs cfg ≤ deadline) ∧
    ∀ (key : ℕ) (a : UdpFrameAssembly), st.udpAssemblies[key]? = some a →
      ∀ deadline ∈ requestDeadline cfg nowNs a, nowNs + receiveTimeoutNs cfg ≤ deadline

/-- Before it may block, the thread has a frame to hand out or nothing to do in time. -/
def WakesInTime (cfg : ClientConfig) (s : ReceiveState) : ReceiveEvent → Prop
  | .proceed _ =>
      match s.point with
      | .maintenancePop nowNs =>
          (∃ deadline ∈ playoutDeadline cfg s.client, deadline ≤ nowNs) ∨
            DeadlinesBeyond cfg s.client nowNs
      | _ => True
  | _ => True

section

variable {cfg : ClientConfig} {st : StreamClient} {nowNs : ℕ}

/-- After a pop without a frame. -/
theorem nothingFallsDue_iff (hnone : (tryPopReadyUdpFrame cfg st nowNs).2 = none) :
    NothingFallsDue cfg (tryPopReadyUdpFrame cfg st nowNs).1 nowNs ↔
      DeadlinesBeyond cfg st nowNs := by
  have hpops (t : ℕ) : (tryPopReadyUdpFrame cfg (tryPopReadyUdpFrame cfg st nowNs).1 t).2 = none ↔
      ∀ deadline ∈ playoutDeadline cfg st, t < deadline := by
    rw [← not_iff_not, ← ne_eq, tryPopReadyUdpFrame_ne_none_iff,
      playoutDeadline_tryPopReadyUdpFrame hnone]
    simp only [not_forall, Nat.not_lt, exists_prop]
  have hlater : ∀ deadline ∈ playoutDeadline cfg st, nowNs < deadline := by
    intro deadline hdeadline
    by_contra hreached
    exact (tryPopReadyUdpFrame_ne_none_iff cfg st nowNs).mpr
      ⟨deadline, hdeadline, Nat.le_of_not_lt hreached⟩ hnone
  simp only [NothingFallsDue, DeadlinesBeyond, hpops, tryPopReadyUdpFrame_udpAssemblies,
    ← requestDue_between_iff]
  constructor
  · intro h
    refine ⟨fun deadline hdeadline => ?_, fun key a ha t hafter hbefore =>
      (h t hafter hbefore).2 key a ha⟩
    by_contra hearly
    exact Nat.lt_irrefl deadline
      ((h deadline (hlater deadline hdeadline) (Nat.lt_of_not_le hearly)).1 deadline hdeadline)
  · rintro ⟨hplayout, hrequests⟩ t hafter hbefore
    exact ⟨fun deadline hdeadline => Nat.lt_of_lt_of_le hbefore (hplayout deadline hdeadline),
      fun key a ha => hrequests key a ha t hafter hbefore⟩

theorem returnOr_point_of_ne (s : ReceiveState) {next : ReceivePoint} (hnext : next ≠ .waiting)
    (result : StreamClient × Option ReceivedFrame) :
    (returnOr s next result).point ≠ .waiting := by
  obtain ⟨client, frame⟩ := result
  cases frame with
  | none => exact hnext
  | some frame => simp [returnOr]

theorem returnOr_waiting_iff (s : ReceiveState) (result : StreamClient × Option ReceivedFrame) :
    (returnOr s .waiting result).point = .waiting ↔ result.2 = none := by
  obtain ⟨client, frame⟩ := result
  cases frame with
  | none => exact iff_of_true rfl rfl
  | some frame => simp [returnOr]

/-- Only the last pop of an iteration leads to the blocking `recv`. -/
theorem receiveStep_waiting {env : ClientEnv} {s s' : ReceiveState} {event : ReceiveEvent}
    (hstep : receiveStep env cfg s event = some s') (hwaiting : s'.point = .waiting) :
    ∃ clock nowNs, event = .proceed clock ∧ s.point = .maintenancePop nowNs := by
  cases event with
  | call | failed | interrupted | nothing =>
      rw [receiveStep] at hstep
      split at hstep <;> cases hstep <;> cases hwaiting
  | datagram data clock =>
      rw [receiveStep] at hstep
      split at hstep
      · cases hstep
        exact absurd hwaiting (returnOr_point_of_ne s (by simp) _)
      · cases hstep
        exact absurd hwaiting (returnOr_point_of_ne s (by simp) _)
      · cases hstep
  | proceed clock =>
      rw [receiveStep] at hstep
      split at hstep <;> cases hstep
      case h_7 afterDrainNowNs hpoint => exact ⟨clock, afterDrainNowNs, rfl, hpoint⟩
      case h_4 | h_6 => cases hwaiting
      case h_1 | h_2 | h_5 => exact absurd hwaiting (returnOr_point_of_ne s (by simp) _)
      case h_3 drained _ _ =>
        exact absurd hwaiting (returnOr_point_of_ne s (by cases drained <;> simp) _)

theorem sleepsInTime_iff (env : ClientEnv) (cfg : ClientConfig) (s : ReceiveState)
    (event : ReceiveEvent) : SleepsInTime env cfg s event ↔ WakesInTime cfg s event := by
  by_cases hlast : ∃ clock nowNs, event = .proceed clock ∧ s.point = .maintenancePop nowNs
  · obtain ⟨clock, nowNs, rfl, hpoint⟩ := hlast
    simp only [SleepsInTime, WakesInTime, receiveStep, hpoint, Option.mem_def,
      Option.some.injEq, forall_eq', ReceivePoint.maintenancePop.injEq, exists_eq_left']
    rw [returnOr_client]
    have hready := tryPopReadyUdpFrame_ne_none_iff cfg s.client nowNs
    simp only [Option.mem_def] at hready
    rw [← hready]
    rw [returnOr_waiting_iff]
    by_cases hnone : (tryPopReadyUdpFrame cfg s.client nowNs).2 = none
    · rw [nothingFallsDue_iff hnone]
      simp [hnone]
    · simp [hnone]
  · refine iff_of_true (fun s' hstep hwaiting => absurd (receiveStep_waiting hstep hwaiting) hlast)
      ?_
    cases event with
    | proceed clock =>
        rw [WakesInTime]
        split
        · rename_i nowNs hpoint
          exact absurd ⟨clock, nowNs, rfl, hpoint⟩ hlast
        · trivial
    | call | datagram | nothing | interrupted | failed => trivial

end

/-- A frame is to wait for 8 ms, and never for more than 40 ms. -/
def patientClient : ClientConfig := { transport := .udp, udpJitterBufferStrategy := .fixed }

/-- One frame arrives, and no other datagram. -/
def quietRun : List ReceiveEvent :=
  [.call, .proceed 10, .datagram (wholeFrameDatagram 1) 11, .nothing, .proceed 12, .proceed 12,
   .proceed 13, .nothing, .proceed 14, .proceed 14, .proceed 14, .proceed 14, .proceed 14,
   .proceed 14]

end AvProject.Client
