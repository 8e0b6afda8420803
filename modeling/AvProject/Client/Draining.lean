import AvProject.Client.Deadlines
import AvProject.Client.QualityParams

/-!
Whether the jitter buffer drains. A frame that has waited for the maximum wait is handed out,
and so is the oldest one instead of one that is missing. Where the maximum wait in force is 0
there is no such limit, and a gap in a buffer that does not fill up stays.
-/

namespace AvProject.Client

open AvProject.Lib

/-! ### The parameters in force -/

/-- The parameters of a level. -/
def AdaptiveJitterBufferConfig.paramsAt (config : AdaptiveJitterBufferConfig)
    (q : NetworkQuality) : JitterParams where
  config := config
  maxWaitMs := config.maxWaitMs q
  maxFrames := config.maxFrames q

namespace AdaptiveJitterBuffer

variable (b : AdaptiveJitterBuffer id)

@[simp] theorem assessNetworkQuality_params (lossPercent skipPercent : ℚ) :
    (b.assessNetworkQuality lossPercent skipPercent).params = b.params := by
  rw [assessNetworkQuality_eq]
  rfl

@[simp] theorem evaluateStateTransition_params (jitterMs : ℚ) (nowNs : ℕ) :
    (b.evaluateStateTransition jitterMs nowNs).params = b.params := by
  simp only [evaluateStateTransition]
  split <;> split_ifs <;> rfl

@[simp] theorem noteLogs_params (nowNs : ℕ) : (b.noteLogs nowNs).params = b.params := by
  rw [noteLogs]
  split_ifs <;> rfl

theorem applyQualityParams_params :
    b.applyQualityParams.params = b.config.paramsAt b.networkQuality := by
  rw [applyQualityParams_eq]
  rfl

/-- A recorded jitter leaves the parameters or replaces them by those of a level. -/
theorem recordJitter_params (jitterMs lossPercent skipPercent : ℚ) (nowNs : ℕ) :
    (b.recordJitter jitterMs lossPercent skipPercent nowNs).params = b.params ∨
      ∃ q, (b.recordJitter jitterMs lossPercent skipPercent nowNs).params =
        b.config.paramsAt q := by
  rw [recordJitter, noteLogs_params, targetDelayNs_params]
  split
  · right
    have hconfig : (({ b with window := b.window.record jitterMs } :
        AdaptiveJitterBuffer id).assessNetworkQuality lossPercent skipPercent
          |>.evaluateStateTransition jitterMs nowNs).config = b.config :=
      congrArg JitterParams.config
        ((evaluateStateTransition_params _ _ _).trans (assessNetworkQuality_params _ _ _))
    rw [applyQualityParams_params, hconfig]
    exact ⟨_, rfl⟩
  · left
    rw [assessNetworkQuality_params]
    rfl

end AdaptiveJitterBuffer

/-! ### The histories of a controller -/

/-- What `connect` configures the controller with. -/
def ClientConfig.jitterConfig (cfg : ClientConfig) : AdaptiveJitterBufferConfig where
  minDelayMs := cfg.udpJitterBufferMinDelayMs
  safetyFactor := cfg.udpJitterBufferSafetyFactor
  baseMaxWaitMs := cfg.udpJitterBufferMaxWaitMs
  baseMaxFrames := cfg.udpJitterBufferMaxFrames

/-- A call on a configured controller. -/
inductive ControllerCall
  | setFixedMode (mode : JitterBufferMode)
  | enableAutoMode
  | reset
  | recordJitter (jitterMs fragmentLossPercent skipRatePercent : ℚ) (nowNs : ℕ)
  | snapshot
  | targetDelayNs

def AdaptiveJitterBuffer.call (b : AdaptiveJitterBuffer id) :
    ControllerCall → AdaptiveJitterBuffer id
  | .setFixedMode mode => b.setFixedMode mode
  | .enableAutoMode => b.enableAutoMode
  | .reset => b.reset
  | .recordJitter jitterMs fragmentLossPercent skipRatePercent nowNs =>
      b.recordJitter jitterMs fragmentLossPercent skipRatePercent nowNs
  | .snapshot => b.snapshot.2
  | .targetDelayNs => b.targetDelayNs.2

/-- The controller `b`, whatever it has been used for, after it is configured and called. -/
def controllerAfter (cfg : ClientConfig) (b : AdaptiveJitterBuffer id)
    (calls : List ControllerCall) : AdaptiveJitterBuffer id :=
  calls.foldl AdaptiveJitterBuffer.call (b.configure cfg.jitterConfig)

/-- A connection leaves a controller with such a history. -/
theorem connect_adaptiveJitter (cfg : ClientConfig) (st : StreamClient) :
    ∃ calls, (st.connect cfg).adaptiveJitter =
      controllerAfter cfg st.adaptiveJitter.reset calls := by
  rw [StreamClient.connect]
  cases cfg.udpJitterBufferStrategy with
  | off => exact ⟨[.setFixedMode .kBypass], rfl⟩
  | low => exact ⟨[.setFixedMode .kLowLatency], rfl⟩
  | smooth => exact ⟨[.setFixedMode .kSmooth], rfl⟩
  | auto => exact ⟨[.enableAutoMode], rfl⟩
  | fixed | adaptive => exact ⟨[], rfl⟩

theorem call_params {config : AdaptiveJitterBufferConfig} {b : AdaptiveJitterBuffer id}
    (h : ∃ q, b.params = config.paramsAt q) (call : ControllerCall) :
    ∃ q, (b.call call).params = config.paramsAt q := by
  obtain ⟨q, hq⟩ := h
  have hconfig : b.config = config := congrArg JitterParams.config hq
  cases call with
  | setFixedMode mode => exact ⟨q, hq⟩
  | enableAutoMode => exact ⟨q, hq⟩
  | reset =>
      -- what is configured is what a fair network gets
      refine ⟨.kFair, ?_⟩
      rw [← hconfig]
      rfl
  | recordJitter jitterMs lossPercent skipPercent nowNs =>
      rcases b.recordJitter_params jitterMs lossPercent skipPercent nowNs with hkept | ⟨q', hq'⟩
      · exact ⟨q, hkept.trans hq⟩
      · exact ⟨q', hconfig ▸ hq'⟩
  | snapshot => exact ⟨q, hq⟩
  | targetDelayNs => exact ⟨q, b.targetDelayNs_params.trans hq⟩

/-- At any time the parameters of some level are in force. -/
theorem controllerAfter_params (cfg : ClientConfig) (b : AdaptiveJitterBuffer id)
    (calls : List ControllerCall) :
    ∃ q, (controllerAfter cfg b calls).params = cfg.jitterConfig.paramsAt q := by
  have hrun (c : AdaptiveJitterBuffer id) (hc : ∃ q, c.params = cfg.jitterConfig.paramsAt q) :
      ∃ q, (calls.foldl AdaptiveJitterBuffer.call c).params = cfg.jitterConfig.paramsAt q := by
    induction calls generalizing c with
    | nil => exact hc
    | cons call calls ih => exact ih _ (call_params hc call)
  exact hrun _ ⟨.kFair, rfl⟩

/-- A good network halves the wait; the other levels leave something of it. -/
theorem maxWaitMs_eq_zero_iff {config : AdaptiveJitterBufferConfig}
    (hwait : 1 ≤ config.baseMaxWaitMs) (q : NetworkQuality) :
    config.maxWaitMs q = 0 ↔ q = .kGood ∧ config.baseMaxWaitMs = 1 := by
  have hhalf : config.baseMaxWaitMs.tdiv 2 = config.baseMaxWaitMs / 2 :=
    Int.tdiv_eq_ediv_of_nonneg (by omega)
  cases q <;> simp [AdaptiveJitterBufferConfig.maxWaitMs] <;> omega

theorem maxWaitMs_bounds {config : AdaptiveJitterBufferConfig}
    (hwait : 1 ≤ config.baseMaxWaitMs) (q : NetworkQuality) :
    0 ≤ config.maxWaitMs q ∧ config.maxWaitMs q ≤ 3 * max 20 config.baseMaxWaitMs := by
  have hhalf : config.baseMaxWaitMs.tdiv 2 = config.baseMaxWaitMs / 2 :=
    Int.tdiv_eq_ediv_of_nonneg (by omega)
  have hquarter : config.baseMaxWaitMs.tdiv 4 = config.baseMaxWaitMs / 4 :=
    Int.tdiv_eq_ediv_of_nonneg (by omega)
  cases q <;> simp only [AdaptiveJitterBufferConfig.maxWaitMs] <;> omega

/-! ### Pops -/

section

variable {cfg : ClientConfig} {st : StreamClient} {nowNs : ℕ}

/-- Every frame of the buffer has been waiting for this long. -/
def AllWaited (st : StreamClient) (nowNs waitNs : ℕ) : Prop :=
  ∀ (k : ℕ) (b : BufferedUdpFrame),
    st.udpJitterBuffer[k]? = some b → waitNs ≤ nowNs - b.bufferedTimestampNs

/-- Once every frame has waited for the maximum wait, one of them is handed out. -/
theorem tryPopReadyUdpFrame_emits (hjitter : cfg.udpJitterBufferEnabled = true)
    (hpositive : 0 < millisecondsToNs (effectiveMaxWaitMs cfg st))
    (hwaited : AllWaited st nowNs (millisecondsToNs (effectiveMaxWaitMs cfg st)))
    (hsome : st.udpJitterBuffer.size ≠ 0) :
    ∃ (k : ℕ) (b : BufferedUdpFrame), st.udpJitterBuffer[k]? = some b ∧
      (tryPopReadyUdpFrame cfg st nowNs).2 = some b.frame ∧
      (tryPopReadyUdpFrame cfg st nowNs).1.udpJitterBuffer = st.udpJitterBuffer.erase k := by
  have hready : (tryPopReadyUdpFrame cfg st nowNs).2 ≠ none := by
    rw [tryPopReadyUdpFrame_ne_none_iff, playoutDeadline, if_neg (by simp [hjitter])]
    cases hfront : OrdMap.front? st.udpJitterBuffer with
    | none =>
        rw [OrdMap.front?_eq_none] at hfront
        exact absurd (by rw [hfront, Std.ExtTreeMap.size_empty]) hsome
    | some front =>
        obtain ⟨sequence, oldest⟩ := front
        have holdest := hwaited _ _ (OrdMap.front?_eq_some hfront).1
        simp only
        by_cases hdepth : depthLimit cfg st ≤ st.udpJitterBuffer.size
        · rw [if_pos hdepth]
          exact ⟨0, rfl, Nat.zero_le _⟩
        rw [if_neg hdepth]
        cases hexpected : st.udpJitterBuffer[
            (anchorJitterBuffer st sequence).nextJitterBufferSequence]? with
        | some expected =>
          have hwait := hwaited _ _ hexpected
          simp only
          by_cases htarget : (currentJitterBufferTargetDelayNs cfg st).1 = 0
          · rw [if_pos htarget]
            exact ⟨0, rfl, Nat.zero_le _⟩
          · rw [if_neg htarget, if_neg hpositive.ne']
            refine ⟨_, rfl, ?_⟩
            have hmin := min_le_right (currentJitterBufferTargetDelayNs cfg st).1
              (millisecondsToNs (effectiveMaxWaitMs cfg st))
            omega
        | none =>
          simp only
          rw [if_neg hpositive.ne']
          exact ⟨_, rfl, by omega⟩
  have hpop := tryPopReadyUdpFrame_ledger cfg st nowNs
  generalize hledger : (tryPopReadyUdpFrame cfg st nowNs).1.ledger = ledger at hpop
  have hbuffer : (tryPopReadyUdpFrame cfg st nowNs).1.udpJitterBuffer =
      ledger.playout.udpJitterBuffer := congrArg (·.playout.udpJitterBuffer) hledger
  rw [hbuffer]
  generalize (tryPopReadyUdpFrame cfg st nowNs).2 = popped at hpop hready
  cases hpop with
  | kept => exact absurd rfl hready
  | anchored => exact absurd rfl hready
  | expected b _ hb => exact ⟨_, b, hb, rfl, rfl⟩
  | first sequence b hfront => exact ⟨sequence, b, (OrdMap.front?_eq_some hfront).1, rfl, rfl⟩
  | skipped sequence b hfront => exact ⟨sequence, b, (OrdMap.front?_eq_some hfront).1, rfl, rfl⟩

end

/-! ### Successive pops -/

/-- Calls of `tryPopReadyUdpFrame` at these times. -/
def popReadyUdpFrames (cfg : ClientConfig) (st : StreamClient) :
    List ℕ → StreamClient × List (Option ReceivedFrame)
  | [] => (st, [])
  | nowNs :: times =>
      let popped := tryPopReadyUdpFrame cfg st nowNs
      let later := popReadyUdpFrames cfg popped.1 times
      (later.1, popped.2 :: later.2)

/-- The calls hand out the frames of the buffer, each once, and leave it empty. -/
def Drained (cfg : ClientConfig) (st : StreamClient) (times : List ℕ) : Prop :=
  ∃ emitted : List (ℕ × BufferedUdpFrame), emitted.Perm st.udpJitterBuffer.toList ∧
    (popReadyUdpFrames cfg st times).2 = emitted.map (fun e => some e.2.frame) ∧
    (popReadyUdpFrames cfg st times).1.udpJitterBuffer = ∅

/-- With this controller, any buffer drains by as many calls as it has frames, once these have
waited for three times the maximum wait that is configured. -/
def Drains (cfg : ClientConfig) (b : AdaptiveJitterBuffer id) : Prop :=
  ∀ (st : StreamClient) (nowNs : ℕ) (times : List ℕ), st.adaptiveJitter = b →
    AllWaited st nowNs (millisecondsToNs (3 * max 20 cfg.udpJitterBufferMaxWaitMs)) →
    (nowNs :: times).Pairwise (· ≤ ·) → times.length = st.udpJitterBuffer.size →
      Drained cfg st times

/-- Each call finds frames that have waited at least as long, and one frame fewer. -/
theorem drained_of_positive {cfg : ClientConfig} (hjitter : cfg.udpJitterBufferEnabled = true)
    {st : StreamClient} {nowNs : ℕ} {times : List ℕ}
    (hpositive : 0 < millisecondsToNs (effectiveMaxWaitMs cfg st))
    (hwaited : AllWaited st nowNs (millisecondsToNs (effectiveMaxWaitMs cfg st)))
    (htimes : (nowNs :: times).Pairwise (· ≤ ·)) (hlength : times.length = st.udpJitterBuffer.size) :
    Drained cfg st times := by
  induction times generalizing st nowNs with
  | nil =>
      have hempty : st.udpJitterBuffer = ∅ := by
        apply Std.ExtTreeMap.eq_empty_iff_size_eq_zero.mpr
        exact hlength.symm
      exact ⟨[], by rw [hempty]; rfl, rfl, hempty⟩
  | cons time times ih =>
      obtain ⟨hfirst, hlater⟩ := List.pairwise_cons.mp htimes
      have hle : nowNs ≤ time := hfirst time List.mem_cons_self
      have hwaitedNow : AllWaited st time (millisecondsToNs (effectiveMaxWaitMs cfg st)) :=
        fun k b hb => (hwaited k b hb).trans (Nat.sub_le_sub_right hle _)
      obtain ⟨k, b, hb, hpopped, hbuffer⟩ := tryPopReadyUdpFrame_emits hjitter hpositive hwaitedNow
        (by rw [← hlength]; exact Nat.succ_ne_zero _)
      have hwait : effectiveMaxWaitMs cfg (tryPopReadyUdpFrame cfg st time).1 =
          effectiveMaxWaitMs cfg st :=
        effectiveMaxWaitMs_congr (tryPopReadyUdpFrame_params cfg st time)
      have hsize : times.length = (tryPopReadyUdpFrame cfg st time).1.udpJitterBuffer.size := by
        have htotal := OrdMap.total_erase hb fun _ => 1
        rw [OrdMap.total_one, OrdMap.total_one, ← hlength, List.length_cons] at htotal
        rw [hbuffer]
        exact (Nat.add_right_cancel htotal).symm
      have hrest : AllWaited (tryPopReadyUdpFrame cfg st time).1 time
          (millisecondsToNs (effectiveMaxWaitMs cfg st)) := by
        intro k' b' hb'
        rw [hbuffer, OrdMap.getElem?_erase] at hb'
        split at hb'
        · cases hb'
        · exact hwaitedNow k' b' hb'
      rw [← hwait] at hpositive hrest
      obtain ⟨emitted, hperm, hframes, hempty⟩ := ih hpositive hrest hlater hsize
      refine ⟨(k, b) :: emitted, ?_, ?_, hempty⟩
      · rw [hbuffer] at hperm
        exact (hperm.cons _).trans (OrdMap.toList_erase_perm hb).symm
      · rw [popReadyUdpFrames, List.map_cons, ← hframes, hpopped]

/-! ### A wait of 0 -/

/-- One frame, and the one before it is missing. -/
def gapBefore (b : AdaptiveJitterBuffer id) (frame : BufferedUdpFrame) : StreamClient :=
  { adaptiveJitter := b
    udpJitterBuffer := (∅ : OrdMap BufferedUdpFrame).insert 1 frame
    nextJitterBufferSequence := 0
    hasNextJitterBufferSequence := true }

/-- Behind a gap, a buffer that is not full is not handed out at any time. -/
theorem tryPopReadyUdpFrame_gapBefore {cfg : ClientConfig} {b : AdaptiveJitterBuffer id}
    {frame : BufferedUdpFrame} (hjitter : cfg.udpJitterBufferEnabled = true)
    (hadaptive : useAdaptiveParams cfg = true)
    (hzero : b.currentMaxWaitMs = 0) (hframes : 1 < b.currentMaxFrames) (nowNs : ℕ) :
    (tryPopReadyUdpFrame cfg (gapBefore b frame) nowNs).2 = none := by
  have hfront : OrdMap.front? (gapBefore b frame).udpJitterBuffer = some (1, frame) := rfl
  have hsize : (gapBefore b frame).udpJitterBuffer.size = 1 := rfl
  have hdepth :
      ¬ depthLimit cfg (gapBefore b frame) ≤ (gapBefore b frame).udpJitterBuffer.size := by
    rw [hsize, depthLimit, effectiveMaxFrames, if_pos hadaptive]
    exact Nat.not_le.mpr (lt_max_of_lt_left hframes)
  have hwait : millisecondsToNs (effectiveMaxWaitMs cfg (gapBefore b frame)) = 0 := by
    rw [effectiveMaxWaitMs, if_pos hadaptive]
    show millisecondsToNs b.currentMaxWaitMs = 0
    rw [hzero]
    rfl
  have hmissing : (gapBefore b frame).udpJitterBuffer[(anchorJitterBuffer (gapBefore b frame)
      1).nextJitterBufferSequence]? = none := rfl
  by_contra hsome
  obtain ⟨deadline, hdeadline, -⟩ := (tryPopReadyUdpFrame_ne_none_iff cfg _ nowNs).mp hsome
  rw [playoutDeadline, if_neg (by simp [hjitter]), hfront] at hdeadline
  simp only at hdeadline
  rw [if_neg hdepth, hmissing] at hdeadline
  simp only at hdeadline
  rw [if_pos hwait] at hdeadline
  cases hdeadline

theorem gapBefore_allWaited (b : AdaptiveJitterBuffer id) (frame : ReceivedFrame) (waitNs : ℕ) :
    AllWaited (gapBefore b ⟨frame, 0⟩) waitNs waitNs := by
  intro k buffered hbuffered
  rw [gapBefore, OrdMap.getElem?_insert] at hbuffered
  split at hbuffered
  · obtain rfl := Option.some.inj hbuffered
    exact le_rfl
  · cases hbuffered

/-- Without a maximum wait, and with room for a second frame, a gap stops the buffer. -/
theorem not_drains_of_zero {cfg : ClientConfig} {b : AdaptiveJitterBuffer id}
    (hjitter : cfg.udpJitterBufferEnabled = true) (hadaptive : useAdaptiveParams cfg = true)
    (hzero : b.currentMaxWaitMs = 0) (hframes : 1 < b.currentMaxFrames) : ¬ Drains cfg b := by
  intro h
  let waitNs := millisecondsToNs (3 * max 20 cfg.udpJitterBufferMaxWaitMs)
  obtain ⟨emitted, -, hemitted, -⟩ := h (gapBefore b ⟨default, 0⟩) waitNs [waitNs] rfl
    (gapBefore_allWaited b default waitNs) (List.pairwise_pair.mpr le_rfl) rfl
  have hnone : (tryPopReadyUdpFrame cfg (gapBefore b ⟨default, 0⟩) waitNs).2 = none :=
    tryPopReadyUdpFrame_gapBefore hjitter hadaptive hzero hframes waitNs
  rw [popReadyUdpFrames, hnone] at hemitted
  cases emitted with
  | nil => cases hemitted
  | cons e emitted => cases hemitted

/-- Every buffer drains unless the adaptive parameters are in use and leave no maximum wait,
which those of a good network do if the configured wait is 1 ms. -/
theorem drains_iff {cfg : ClientConfig} (hjitter : cfg.udpJitterBufferEnabled = true)
    (hwait : 1 ≤ cfg.udpJitterBufferMaxWaitMs) (b : AdaptiveJitterBuffer id)
    (calls : List ControllerCall) :
    Drains cfg (controllerAfter cfg b calls) ↔
      ¬ (useAdaptiveParams cfg = true ∧ cfg.udpJitterBufferMaxWaitMs = 1 ∧
        (controllerAfter cfg b calls).qualityMaxWaitMs = 0) := by
  obtain ⟨q, hq⟩ := controllerAfter_params cfg b calls
  generalize controllerAfter cfg b calls = controller at hq
  have hlevel : controller.qualityMaxWaitMs = cfg.jitterConfig.maxWaitMs q :=
    congrArg JitterParams.maxWaitMs hq
  have hzero_iff := maxWaitMs_eq_zero_iff (show 1 ≤ cfg.jitterConfig.baseMaxWaitMs from hwait) q
  constructor
  · rintro h ⟨hadaptive, -, hzero⟩
    -- only a good network has no maximum wait, and it may buffer 4 frames
    obtain ⟨rfl, -⟩ := hzero_iff.mp (hlevel.symm.trans hzero)
    have hframes : 1 < controller.currentMaxFrames := by
      have hgood : controller.currentMaxFrames = cfg.jitterConfig.maxFrames .kGood :=
        congrArg JitterParams.maxFrames hq
      rw [hgood]
      exact lt_max_of_lt_left (by norm_num)
    exact not_drains_of_zero hjitter hadaptive hzero hframes h
  · intro h st nowNs times hst hwaited htimes hlength
    obtain ⟨hnonneg, hbound⟩ :=
      maxWaitMs_bounds (show 1 ≤ cfg.jitterConfig.baseMaxWaitMs from hwait) q
    have heffective : 0 < effectiveMaxWaitMs cfg st ∧
        effectiveMaxWaitMs cfg st ≤ 3 * max 20 cfg.udpJitterBufferMaxWaitMs := by
      rw [effectiveMaxWaitMs, hst]
      split
      · rename_i hadaptive
        rw [hlevel]
        refine ⟨lt_of_le_of_ne hnonneg fun hzero => h ⟨hadaptive, ?_, ?_⟩, hbound⟩
        · exact (hzero_iff.mp hzero.symm).2
        · exact hlevel.trans hzero.symm
      · omega
    have hns : 0 < millisecondsToNs (effectiveMaxWaitMs cfg st) ∧
        millisecondsToNs (effectiveMaxWaitMs cfg st) ≤
          millisecondsToNs (3 * max 20 cfg.udpJitterBufferMaxWaitMs) := by
      rw [millisecondsToNs, millisecondsToNs]
      omega
    exact drained_of_positive hjitter hns.1
      (fun k frame hframe => hns.2.trans (hwaited k frame hframe)) htimes hlength

/-- A client with the shortest maximum wait. -/
def shortWait : ClientConfig := { udpJitterBufferMaxWaitMs := 1 }

theorem drains_shortWait :
    Drains shortWait (controllerAfter shortWait {} [.enableAutoMode]) ↔
      ¬ (useAdaptiveParams shortWait = true ∧ shortWait.udpJitterBufferMaxWaitMs = 1 ∧
        (controllerAfter shortWait {} [.enableAutoMode]).qualityMaxWaitMs = 0) :=
  drains_iff rfl (by decide) {} [.enableAutoMode]

/-- Ten frames with a jitter of 2 ms each. -/
def goodNetwork : List ControllerCall :=
  .enableAutoMode :: List.replicate 10 (.recordJitter 2 0 0 0)

/-- On a good network the client stops at a gap. -/
theorem not_drains_goodNetwork : ¬ Drains shortWait (controllerAfter shortWait {} goodNetwork) :=
  not_drains_of_zero rfl rfl (by decide +kernel) (by decide +kernel)

end AvProject.Client
