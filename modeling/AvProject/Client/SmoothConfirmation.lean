import AvProject.Client.ModeTransitions
import AvProject.Lib.Binary64
import AvProject.Lib.Run

/-!
What the switch to the smooth mode is based on: which samples the percentiles that
caused it were computed from.
-/

namespace AvProject.Client

open AvProject.Lib AdaptiveJitterBuffer

variable {round : ℚ → ℚ}

/-! ### Summaries and their samples -/

namespace LatencyStats

/-- `RefreshSummary(false)` computes the summary anew. -/
def refreshes (s : LatencyStats round) : Bool :=
  !(!s.dirty && s.cachedSummaryValid) &&
    !(s.cachedSummaryValid && s.pendingSnapshotSamples < s.snapshotRefreshInterval)

theorem cachedSummary_snapshot (s : LatencyStats round) : s.snapshot.2.cachedSummary =
    if s.refreshes = true then s.buildSummary else s.cachedSummary := by
  rw [snapshot, refreshSummary, refreshes]
  by_cases hclean : (!s.dirty && s.cachedSummaryValid) = true
  · simp [hclean]
  · by_cases hpending : (s.cachedSummaryValid &&
        s.pendingSnapshotSamples < s.snapshotRefreshInterval) = true
    · simp [hclean, hpending]
    · simp [hclean, hpending]

theorem snapshot_fst (s : LatencyStats round) : s.snapshot.1 = s.snapshot.2.cachedSummary := rfl

theorem cachedSummary_record (s : LatencyStats round) (valueMs : ℚ) :
    (s.record valueMs).cachedSummary = s.cachedSummary := by
  rw [record]
  split <;> rfl

/-- The two windows hold the same samples, whatever their summaries. -/
structure SameSamples (s t : LatencyStats round) : Prop where
  maxSamples : s.maxSamples = t.maxSamples
  samplesMs : s.samplesMs = t.samplesMs
  nextIndex : s.nextIndex = t.nextIndex
  sampleCount : s.sampleCount = t.sampleCount
  lastMs : s.lastMs = t.lastMs

theorem SameSamples.trans {r s t : LatencyStats round} (hrs : SameSamples r s)
    (hst : SameSamples s t) : SameSamples r t where
  maxSamples := hrs.maxSamples.trans hst.maxSamples
  samplesMs := hrs.samplesMs.trans hst.samplesMs
  nextIndex := hrs.nextIndex.trans hst.nextIndex
  sampleCount := hrs.sampleCount.trans hst.sampleCount
  lastMs := hrs.lastMs.trans hst.lastMs

theorem snapshot_sameSamples (s : LatencyStats round) : SameSamples s.snapshot.2 s := by
  rw [snapshot, refreshSummary]
  split_ifs <;> exact ⟨rfl, rfl, rfl, rfl, rfl⟩

theorem SameSamples.record {s t : LatencyStats round} (h : SameSamples s t) (valueMs : ℚ) :
    SameSamples (s.record valueMs) (t.record valueMs) := by
  obtain ⟨hmax, hsamples, hnext, hcount, -⟩ := h
  rw [LatencyStats.record, LatencyStats.record]
  simp only [hmax]
  split
  · exact ⟨rfl, hsamples, hnext, hcount, rfl⟩
  · exact ⟨rfl, by simp only [hsamples, hnext], by simp only [hnext], by simp only [hcount], rfl⟩

theorem SameSamples.buildSummary {s t : LatencyStats round} (h : SameSamples s t) :
    s.buildSummary = t.buildSummary := by
  obtain ⟨hmax, hsamples, hnext, hcount, hlast⟩ := h
  simp only [LatencyStats.buildSummary, orderedSamples, hmax, hsamples, hnext, hcount, hlast]

theorem sampleCount_le_record (s : LatencyStats round) (valueMs : ℚ) :
    s.sampleCount ≤ (s.record valueMs).sampleCount := by
  rw [record]
  split
  · exact le_rfl
  · simp only
    split
    · exact Nat.le_succ _
    · exact le_rfl

end LatencyStats

namespace AdaptiveJitterBuffer

/-- The call computes the summary of the window anew. -/
def rebuilds (b : AdaptiveJitterBuffer round) (call : JitterCall) : Bool :=
  (b.window.record call.jitterMs).refreshes

theorem cachedSummary_recordCall (b : AdaptiveJitterBuffer round) (call : JitterCall) :
    (b.recordCall call).window.cachedSummary =
      if b.rebuilds call = true then (b.window.record call.jitterMs).buildSummary
      else b.window.cachedSummary := by
  rw [recordCall_window, assessed_window, LatencyStats.cachedSummary_snapshot,
    LatencyStats.cachedSummary_record, rebuilds]

theorem jitterP95Ms_recordCall (b : AdaptiveJitterBuffer round) (call : JitterCall) :
    (b.recordCall call).jitterP95Ms = (b.recordCall call).window.cachedSummary.p95Ms := by
  rw [jitterP95Ms_eq, recordCall_window, LatencyStats.snapshot_fst, snapshot_assessed_window]

theorem sampleCount_le_recordCall (b : AdaptiveJitterBuffer round) (call : JitterCall) :
    b.window.sampleCount ≤ (b.recordCall call).window.sampleCount := by
  rw [recordCall_window, assessed_window, (LatencyStats.snapshot_sameSamples _).sampleCount]
  exact b.window.sampleCount_le_record call.jitterMs

end AdaptiveJitterBuffer

/-- The buffer with two history variables: how many samples were recorded, and how many of
them there were when the summary that is in use was computed. -/
structure SourcedBuffer (round : ℚ → ℚ) where
  buffer : AdaptiveJitterBuffer round
  recorded : ℕ := 0
  source : ℕ := 0

def SourcedBuffer.recordCall (st : SourcedBuffer round) (call : JitterCall) :
    SourcedBuffer round where
  buffer := st.buffer.recordCall call
  recorded := st.recorded + 1
  source := if st.buffer.rebuilds call = true then st.recorded + 1 else st.source

/-- How many samples had been recorded when the summary that is in use after the calls was
computed. -/
def summarySource (b : AdaptiveJitterBuffer round) (calls : List JitterCall) : ℕ :=
  (calls.foldl SourcedBuffer.recordCall { buffer := b }).source

/-- The window after the samples of the calls. -/
def recordedWindow (round : ℚ → ℚ) (calls : List JitterCall) : LatencyStats round :=
  calls.foldl (fun window call => window.record call.jitterMs) (.create 100 4)

/-- A switch from low latency to smooth rests on two measurements: the summary that the call
looks at was not yet there at the call before it. -/
def ConfirmedByTwo (b : AdaptiveJitterBuffer round) (calls : List JitterCall) : Prop :=
  ∀ before call after, calls = before ++ call :: after →
    (b.recordCalls before).activeMode = .kLowLatency →
    (b.recordCalls (before ++ [call])).activeMode = .kSmooth →
    summarySource b before ≠ summarySource b (before ++ [call])

/-- A call that may confirm a high percentile computes it anew. -/
def ConfirmsAnew (b : AdaptiveJitterBuffer round) (call : JitterCall) : Prop :=
  b.activeMode = .kLowLatency → b.lowToSmoothP95Exceeded = true →
    ¬ 20 ≤ (if call.jitterMs < 1 / 2 then b.consecutiveLowJitter + 1 else 0) →
    b.rebuilds call = true

instance (b : AdaptiveJitterBuffer round) (call : JitterCall) : Decidable (ConfirmsAnew b call) :=
  inferInstanceAs (Decidable (b.activeMode = .kLowLatency → b.lowToSmoothP95Exceeded = true →
    ¬ 20 ≤ (if call.jitterMs < 1 / 2 then b.consecutiveLowJitter + 1 else 0) →
      b.rebuilds call = true))

section

variable {b : AdaptiveJitterBuffer round} {call : JitterCall} {calls : List JitterCall}

/-! ### The source of a summary -/

theorem buffer_foldl_recordCall (st : SourcedBuffer round) (calls : List JitterCall) :
    (calls.foldl SourcedBuffer.recordCall st).buffer = st.buffer.recordCalls calls ∧
      (calls.foldl SourcedBuffer.recordCall st).recorded = st.recorded + calls.length := by
  induction calls generalizing st with
  | nil => exact ⟨rfl, rfl⟩
  | cons call calls ih =>
      obtain ⟨hbuffer, hrecorded⟩ := ih (st.recordCall call)
      have hfirst : (st.recordCall call).recorded = st.recorded + 1 := rfl
      rw [List.foldl_cons, hbuffer, hrecorded, recordCalls_cons, List.length_cons, hfirst]
      exact ⟨rfl, by omega⟩

theorem summarySource_append :
    summarySource b (calls ++ [call]) =
      if (b.recordCalls calls).rebuilds call = true then calls.length + 1
      else summarySource b calls := by
  obtain ⟨hbuffer, hrecorded⟩ := buffer_foldl_recordCall { buffer := b } calls
  rw [summarySource, List.foldl_append, List.foldl_cons, List.foldl_nil,
    SourcedBuffer.recordCall]
  simp only
  rw [hbuffer, hrecorded, Nat.zero_add, ← summarySource]

theorem summarySource_le (b : AdaptiveJitterBuffer round) (calls : List JitterCall) :
    summarySource b calls ≤ calls.length := by
  induction calls using List.reverseRecOn with
  | nil => exact le_rfl
  | append_singleton calls call ih =>
      rw [summarySource_append, List.length_append, List.length_singleton]
      split
      · exact le_rfl
      · exact ih.trans (Nat.le_succ _)

/-- The source moves exactly where the summary is computed. -/
theorem summarySource_ne_iff :
    summarySource b calls ≠ summarySource b (calls ++ [call]) ↔
      (b.recordCalls calls).rebuilds call = true := by
  have hle := summarySource_le b calls
  rw [summarySource_append]
  split
  · rename_i hrebuilds
    exact ⟨fun _ => hrebuilds, fun _ => by omega⟩
  · rename_i hrebuilds
    exact ⟨fun h => absurd rfl h, fun h => absurd h hrebuilds⟩

theorem sameSamples_recordCalls (calls : List JitterCall) :
    LatencyStats.SameSamples (b.reset.recordCalls calls).window (recordedWindow round calls) := by
  induction calls using List.reverseRecOn with
  | nil => exact ⟨rfl, rfl, rfl, rfl, rfl⟩
  | append_singleton calls call ih =>
      rw [recordCalls_append, recordCall_window, assessed_window, recordedWindow,
        List.foldl_append, List.foldl_cons, List.foldl_nil, ← recordedWindow]
      exact (LatencyStats.snapshot_sameSamples _).trans (ih.record call.jitterMs)

/-- The summary in use is that of the samples up to its source. -/
theorem cachedSummary_recordCalls (calls : List JitterCall) :
    (b.reset.recordCalls calls).window.cachedSummary =
      (recordedWindow round (calls.take (summarySource b.reset calls))).buildSummary := by
  induction calls using List.reverseRecOn with
  | nil => rfl
  | append_singleton calls call ih =>
      rw [recordCalls_append, cachedSummary_recordCall, summarySource_append]
      split
      · rw [List.take_of_length_le (by simp), recordedWindow, List.foldl_append,
          List.foldl_cons, List.foldl_nil, ← recordedWindow]
        exact ((sameSamples_recordCalls calls).record call.jitterMs).buildSummary
      · rw [List.take_append_of_le_length (summarySource_le _ _), ih]

/-! ### Switches -/

/-- Past the bypass mode every call is evaluated, and the flag in the low-latency mode says
that the summary in use has a high percentile. -/
structure FlagInUse (b : AdaptiveJitterBuffer round) : Prop where
  autoMode : b.autoMode = true
  enough : b.activeMode ≠ .kBypass → 10 ≤ b.window.sampleCount
  exceeded : b.activeMode = .kLowLatency → b.lowToSmoothP95Exceeded = true →
    10 < b.window.cachedSummary.p95Ms

theorem FlagInUse.reset (hauto : b.autoMode = true) : FlagInUse b.reset :=
  ⟨hauto, fun h => absurd rfl h, by rintro ⟨⟩⟩

/-- A call in the low-latency mode, in terms of the summary that is in use after it. -/
theorem FlagInUse.lowLatency (h : FlagInUse b) (hmode : b.activeMode = .kLowLatency)
    (call : JitterCall) :
    (b.recordCall call).control =
      let low := if call.jitterMs < 1 / 2 then b.consecutiveLowJitter + 1 else 0
      if 20 ≤ low then
        { b.control with
          activeMode := .kBypass
          consecutiveHighJitter := 0
          consecutiveLowJitter := 0 }
      else if 10 < (b.recordCall call).window.cachedSummary.p95Ms then
        if b.lowToSmoothP95Exceeded = true then
          { activeMode := .kSmooth
            consecutiveHighJitter := 0
            consecutiveLowJitter := 0
            lowToSmoothP95Exceeded := false
            smoothLowP95SinceNs := 0 }
        else
          { b.control with
            activeMode := .kLowLatency
            consecutiveLowJitter := low
            lowToSmoothP95Exceeded := true }
      else
        { b.control with
          activeMode := .kLowLatency
          consecutiveLowJitter := low
          lowToSmoothP95Exceeded := false } := by
  have henough : 10 ≤ (b.recordCall call).window.sampleCount :=
    (h.enough (by simp [hmode])).trans (sampleCount_le_recordCall b call)
  have hcontrol := assessed_control b call
  have hassessed : (b.assessed call).activeMode = .kLowLatency :=
    (congrArg ModeControl.activeMode hcontrol).trans hmode
  have hlow : (b.assessed call).consecutiveLowJitter = b.consecutiveLowJitter :=
    congrArg ModeControl.consecutiveLowJitter hcontrol
  have hflag : (b.assessed call).lowToSmoothP95Exceeded = b.lowToSmoothP95Exceeded :=
    congrArg ModeControl.lowToSmoothP95Exceeded hcontrol
  rw [recordCall_control b call h.autoMode, if_pos henough,
    evaluateStateTransition_lowLatency hassessed, hcontrol, assessed_jitterP95Ms,
    jitterP95Ms_recordCall, hlow, hflag]

theorem FlagInUse.recordCall (h : FlagInUse b) (call : JitterCall) :
    FlagInUse (b.recordCall call) := by
  have hkept : (b.recordCall call).autoMode = true := (recordCall_autoMode b call).trans h.autoMode
  have hcontrol := recordCall_control b call h.autoMode
  by_cases henough : 10 ≤ (b.recordCall call).window.sampleCount
  · refine ⟨hkept, fun _ => henough, ?_⟩
    rw [← control_activeMode, ← control_lowToSmoothP95Exceeded]
    rw [if_pos henough] at hcontrol
    have hassessed : (b.assessed call).activeMode = b.activeMode := by
      rw [← control_activeMode, assessed_control, control_activeMode]
    cases hmode : b.activeMode with
    | kBypass =>
        rw [hcontrol, evaluateStateTransition_bypass (hassessed.trans hmode)]
        split_ifs <;> simp
    | kLowLatency =>
        rw [h.lowLatency hmode call]
        simp only
        split_ifs <;> simp [*]
    | kSmooth =>
        rw [hcontrol, evaluateStateTransition_smooth (hassessed.trans hmode)]
        split_ifs <;> simp [hassessed, hmode]
  · -- too few samples: still in the bypass mode, and nothing has changed
    have hmode : b.activeMode = .kBypass := by
      by_contra hother
      exact henough ((h.enough hother).trans (sampleCount_le_recordCall b call))
    rw [if_neg henough] at hcontrol
    have hnext : (b.recordCall call).activeMode = .kBypass := by
      rw [← control_activeMode, hcontrol, control_activeMode, hmode]
    exact ⟨hkept, fun hother => absurd hnext hother, fun hlow => by simp [hnext] at hlow⟩

/-- The switch to smooth needs the flag, and a high percentile now. -/
theorem FlagInUse.smooth_iff (h : FlagInUse b) (hmode : b.activeMode = .kLowLatency)
    (call : JitterCall) :
    (b.recordCall call).activeMode = .kSmooth ↔
      b.lowToSmoothP95Exceeded = true ∧
        ¬ 20 ≤ (if call.jitterMs < 1 / 2 then b.consecutiveLowJitter + 1 else 0) ∧
        10 < (b.recordCall call).window.cachedSummary.p95Ms := by
  rw [← control_activeMode, h.lowLatency hmode call]
  simp only
  generalize (if call.jitterMs < 1 / 2 then b.consecutiveLowJitter + 1 else 0) = low
  split_ifs with hlow hhigh hflag <;> simp [*]

theorem FlagInUse.recordCalls (h : FlagInUse b) (calls : List JitterCall) :
    FlagInUse (b.recordCalls calls) := by
  induction calls generalizing b with
  | nil => exact h
  | cons call calls ih =>
      rw [recordCalls_cons]
      exact ih (h.recordCall call)

/-- A stale percentile counts twice exactly where the call does not compute it anew. -/
theorem FlagInUse.confirmsAnew_iff (h : FlagInUse b) :
    ConfirmsAnew b call ↔
      (b.activeMode = .kLowLatency → (b.recordCall call).activeMode = .kSmooth →
        b.rebuilds call = true) := by
  constructor
  · intro hanew hmode hsmooth
    obtain ⟨hflag, hlow, -⟩ := (h.smooth_iff hmode call).mp hsmooth
    exact hanew hmode hflag hlow
  · intro hswitch hmode hflag hlow
    by_contra hstale
    -- without a new summary the percentile is still the one that set the flag
    have hsummary := cachedSummary_recordCall b call
    rw [if_neg hstale] at hsummary
    have hhigh := h.exceeded hmode hflag
    rw [← hsummary] at hhigh
    exact hstale (hswitch hmode ((h.smooth_iff hmode call).mpr ⟨hflag, hlow, hhigh⟩))

end

/-- Each switch to the smooth mode rests on two measurements exactly where each call that may
confirm a high percentile computes it anew. -/
theorem confirmedByTwo_iff {b : AdaptiveJitterBuffer round} (hauto : b.autoMode = true)
    (calls : List JitterCall) :
    ConfirmedByTwo b.reset calls ↔
      StepsMeet (fun b call => some (b.recordCall call)) ConfirmsAnew b.reset calls := by
  have hstep : ∀ before call,
      ConfirmsAnew (b.reset.recordCalls before) call ↔
        ((b.reset.recordCalls before).activeMode = .kLowLatency →
          (b.reset.recordCalls (before ++ [call])).activeMode = .kSmooth →
          summarySource b.reset before ≠ summarySource b.reset (before ++ [call])) := by
    intro before call
    rw [recordCalls_append, summarySource_ne_iff]
    exact ((FlagInUse.reset hauto).recordCalls before).confirmsAnew_iff
  rw [stepsMeet_total, ConfirmedByTwo]
  exact forall_congr' fun before => forall_congr' fun call => forall_congr' fun after =>
    imp_congr_right fun _ => (hstep before call).symm

/-- Samples of 20 ms. The one that takes the controller to the low-latency mode is the 19th, and
the summary is computed with the 17th and with the 21st. -/
def steadyCall (i : ℕ) : JitterCall := { jitterMs := 20, nowNs := (i + 1) * 10000000 }

def steadyCalls : List JitterCall := (List.range 21).map steadyCall

/-- The switch of this run rests on two measurements. -/
theorem confirmedByTwo_steady :
    ((reset ({} : AdaptiveJitterBuffer roundBinary64)).recordCalls steadyCalls).activeMode =
        .kSmooth ∧
      ConfirmedByTwo (reset ({} : AdaptiveJitterBuffer roundBinary64)) steadyCalls :=
  ⟨by decide +kernel, (confirmedByTwo_iff rfl steadyCalls).mpr (by decide +kernel)⟩

/-- Samples of 2 ms every 10 ms, with two of them late in the run that are far off. -/
def spikeBefore : List JitterCall :=
  (List.range 37).map fun i =>
    { jitterMs := if 35 ≤ i then 1000 else 2, nowNs := (i + 1) * 10000000 }

def spikeCall : JitterCall := { jitterMs := 2, nowNs := 380000000 }

/-- One measurement that takes in the spike makes both observations: the next one is not due
for three samples. -/
theorem not_confirmedByTwo_spike :
    ¬ ConfirmedByTwo (reset ({} : AdaptiveJitterBuffer roundBinary64))
      (spikeBefore ++ [spikeCall]) := by
  intro h
  refine h spikeBefore spikeCall [] rfl ?_ ?_ ?_
  · decide +kernel
  · decide +kernel
  · decide +kernel

/-- Samples of 5 ms every 10 ms, with four of 30 ms late in the run. -/
def lateSpikeCall (i : ℕ) : JitterCall where
  jitterMs := if 73 ≤ i ∧ i < 77 then 30 else 5
  nowNs := (i + 1) * 10000000

/-- The percentile of these samples is ten, and it is above ten in the arithmetic of the code:
there the stale summary leads to a switch. -/
example :
    ((reset ({} : AdaptiveJitterBuffer id)).recordCalls
        ((List.range 78).map lateSpikeCall)).activeMode = .kLowLatency ∧
      ((reset ({} : AdaptiveJitterBuffer roundBinary64)).recordCalls
        ((List.range 78).map lateSpikeCall)).activeMode = .kSmooth := by
  decide +kernel

end AvProject.Client
