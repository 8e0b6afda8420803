import AvProject.Client.AdaptiveJitterBuffer
import AvProject.Lib.History
import Mathlib.Data.List.Destutter
import Mathlib.Data.List.Induction

/-!
The modes of the adaptive jitter buffer over whole runs: when they change, in terms of
what was measured since the current mode was entered.
-/

namespace AvProject.Client

open AvProject.Lib

variable {round : ℚ → ℚ}

/-- The arguments of one call of `RecordJitter`. -/
structure JitterCall where
  jitterMs : ℚ
  fragmentLossPercent : ℚ := 0
  skipRatePercent : ℚ := 0
  nowNs : ℕ
  deriving DecidableEq, Repr

namespace AdaptiveJitterBuffer

def recordCall (b : AdaptiveJitterBuffer round) (call : JitterCall) :
    AdaptiveJitterBuffer round :=
  b.recordJitter call.jitterMs call.fragmentLossPercent call.skipRatePercent call.nowNs

def recordCalls (b : AdaptiveJitterBuffer round) (calls : List JitterCall) :
    AdaptiveJitterBuffer round :=
  calls.foldl recordCall b

end AdaptiveJitterBuffer

/-! ### Observations -/

/-- What there is to see of a call: the mode it found, whether there were samples enough to
evaluate the transitions, and the values that these depend on. -/
structure ModeObservation where
  mode : JitterBufferMode
  evaluated : Bool
  jitterMs : ℚ
  p95Ms : ℚ
  nowNs : ℕ
  deriving DecidableEq, Repr

def observe (b : AdaptiveJitterBuffer round) (call : JitterCall) : ModeObservation where
  mode := b.activeMode
  evaluated := decide (10 ≤ (b.recordCall call).window.sampleCount)
  jitterMs := call.jitterMs
  p95Ms := (b.recordCall call).jitterP95Ms
  nowNs := call.nowNs

section

variable (b : AdaptiveJitterBuffer round) (call : JitterCall)

@[simp] theorem observe_mode : (observe b call).mode = b.activeMode := rfl

theorem observe_evaluated : (observe b call).evaluated =
    decide (10 ≤ (b.recordCall call).window.sampleCount) := by
  rw [observe]

@[simp] theorem observe_jitterMs : (observe b call).jitterMs = call.jitterMs := rfl

theorem observe_p95Ms : (observe b call).p95Ms = (b.recordCall call).jitterP95Ms := by
  rw [observe]

@[simp] theorem observe_nowNs : (observe b call).nowNs = call.nowNs := rfl

end

/-- The observations of a run, the latest first. -/
def modeHistory (b : AdaptiveJitterBuffer round) : List JitterCall → List ModeObservation
  | [] => []
  | call :: calls => modeHistory (b.recordCall call) calls ++ [observe b call]

/-- The evaluated calls since the mode was entered. -/
def visit (mode : JitterBufferMode) (history : List ModeObservation) : List ModeObservation :=
  (streak (fun observed => observed.mode = mode) history).filter (·.evaluated)

namespace ModeObservation

abbrev HighJitter (observed : ModeObservation) : Prop := 1 < observed.jitterMs

abbrev LowJitter (observed : ModeObservation) : Prop := observed.jitterMs < 1 / 2

abbrev HighP95 (observed : ModeObservation) : Prop := 10 < observed.p95Ms

abbrev LowP95 (observed : ModeObservation) : Prop := observed.p95Ms < 5

end ModeObservation

open ModeObservation

/-- The mode that the documented transitions lead to, at a call at `nowNs` with which the
evaluated calls since the current mode was entered are `visited`. -/
noncomputable def specifiedMode (mode : JitterBufferMode) (visited : List ModeObservation)
    (nowNs : ℕ) : JitterBufferMode :=
  open scoped Classical in
  match mode with
  | .kBypass => if LastAll 10 HighJitter visited then .kLowLatency else .kBypass
  | .kLowLatency =>
      if LastAll 20 LowJitter visited then .kBypass
      else if LastAll 2 HighP95 visited then .kSmooth
      else .kLowLatency
  | .kSmooth =>
      if HeldSince LowP95 (fun observed => 3000000000 ≤ nowNs - observed.nowNs) visited then
        .kLowLatency
      else .kSmooth

/-- Calls at positive, nondecreasing times that 64 bits can hold. -/
structure CallsInOrder (calls : List JitterCall) : Prop where
  positive : ∀ call ∈ calls, 0 < call.nowNs
  bounded : ∀ call ∈ calls, call.nowNs < 2 ^ 64
  ordered : calls.Pairwise fun earlier later => earlier.nowNs ≤ later.nowNs

/-! ### One call -/

namespace AdaptiveJitterBuffer

/-- The fields that the transitions read and write. -/
structure ModeControl where
  activeMode : JitterBufferMode
  consecutiveHighJitter : ℕ
  consecutiveLowJitter : ℕ
  lowToSmoothP95Exceeded : Bool
  smoothLowP95SinceNs : ℕ
  deriving DecidableEq, Repr

def control (b : AdaptiveJitterBuffer round) : ModeControl where
  activeMode := b.activeMode
  consecutiveHighJitter := b.consecutiveHighJitter
  consecutiveLowJitter := b.consecutiveLowJitter
  lowToSmoothP95Exceeded := b.lowToSmoothP95Exceeded
  smoothLowP95SinceNs := b.smoothLowP95SinceNs

section

variable (b : AdaptiveJitterBuffer round)

@[simp] theorem control_activeMode : b.control.activeMode = b.activeMode := rfl

theorem control_lowToSmoothP95Exceeded :
    b.control.lowToSmoothP95Exceeded = b.lowToSmoothP95Exceeded := rfl

@[simp] theorem assessNetworkQuality_control (lossPercent skipPercent : ℚ) :
    (b.assessNetworkQuality lossPercent skipPercent).control = b.control := by
  rw [assessNetworkQuality]
  split_ifs <;> rfl

@[simp] theorem applyQualityParams_control : b.applyQualityParams.control = b.control := by
  rw [applyQualityParams]
  split <;> rfl

@[simp] theorem targetDelayNs_control : b.targetDelayNs.2.control = b.control := by
  rw [targetDelayNs]
  split <;> rfl

@[simp] theorem noteLogs_control (nowNs : ℕ) : (b.noteLogs nowNs).control = b.control := by
  rw [noteLogs]
  split_ifs <;> rfl

/-! Whatever looks at the window brings its summary up to date. -/

@[simp] theorem assessNetworkQuality_window (lossPercent skipPercent : ℚ) :
    (b.assessNetworkQuality lossPercent skipPercent).window = b.window.snapshot.2 := by
  rw [assessNetworkQuality]
  split_ifs <;> rfl

@[simp] theorem applyQualityParams_window : b.applyQualityParams.window = b.window := by
  rw [applyQualityParams]
  split <;> rfl

@[simp] theorem evaluateStateTransition_window (jitterMs : ℚ) (nowNs : ℕ) :
    (b.evaluateStateTransition jitterMs nowNs).window = b.window.snapshot.2 := by
  simp only [evaluateStateTransition]
  split <;> split_ifs <;> rfl

theorem targetDelayNs_window (h : b.window.snapshot.2 = b.window) :
    b.targetDelayNs.2.window = b.window := by
  rw [targetDelayNs]
  split
  · rfl
  · exact h
  · exact h

theorem noteLogs_window (nowNs : ℕ) (h : b.window.snapshot.2 = b.window) :
    (b.noteLogs nowNs).window = b.window := by
  have hsnapshot : b.snapshot.2.window = b.window := h
  rw [noteLogs]
  split_ifs
  · exact (congrArg (fun window => window.snapshot.2) hsnapshot).trans h
  · exact h
  · exact h
  · rfl

/-! The three branches of `EvaluateStateTransition`. -/

theorem evaluateStateTransition_bypass {b : AdaptiveJitterBuffer round}
    (hmode : b.activeMode = .kBypass) (jitterMs : ℚ) (nowNs : ℕ) :
    (b.evaluateStateTransition jitterMs nowNs).control =
      if 10 ≤ (if 1 < jitterMs then b.consecutiveHighJitter + 1 else 0) then
        { b.control with
          activeMode := .kLowLatency
          consecutiveHighJitter := 0
          consecutiveLowJitter := 0
          lowToSmoothP95Exceeded := false }
      else
        { b.control with
          activeMode := .kBypass
          consecutiveHighJitter := if 1 < jitterMs then b.consecutiveHighJitter + 1 else 0 } := by
  have hsnapshot : b.snapshot.2.activeMode = .kBypass := hmode
  simp only [evaluateStateTransition, hsnapshot]
  show control (ite (10 ≤ (if 1 < jitterMs then b.consecutiveHighJitter + 1 else 0)) _ _) = _
  split_ifs <;> rfl

theorem evaluateStateTransition_lowLatency {b : AdaptiveJitterBuffer round}
    (hmode : b.activeMode = .kLowLatency) (jitterMs : ℚ) (nowNs : ℕ) :
    (b.evaluateStateTransition jitterMs nowNs).control =
      let low := if jitterMs < 1 / 2 then b.consecutiveLowJitter + 1 else 0
      if 20 ≤ low then
        { b.control with
          activeMode := .kBypass
          consecutiveHighJitter := 0
          consecutiveLowJitter := 0 }
      else if 10 < b.jitterP95Ms then
        if b.lowToSmoothP95Exceeded = true then
          { activeMode := .kSmooth
            consecutiveHighJitter := 0
            consecutiveLowJitter := 0
            lowToSmoothP95Exceeded := false
            smoothLowP95SinceNs := 0 }
        else
          { b.control with
            activeMode := .kLowLatency
            consecutiveLowJitter := low
            lowToSmoothP95Exceeded := true }
      else
        { b.control with
          activeMode := .kLowLatency
          consecutiveLowJitter := low
          lowToSmoothP95Exceeded := false } := by
  have hsnapshot : b.snapshot.2.activeMode = .kLowLatency := hmode
  simp only [evaluateStateTransition, hsnapshot]
  show control (ite (20 ≤ (if jitterMs < 1 / 2 then b.consecutiveLowJitter + 1 else 0)) _
    (ite (10 < b.jitterP95Ms) (ite (b.lowToSmoothP95Exceeded = true) _ _) _)) = _
  split_ifs <;> rfl

theorem evaluateStateTransition_smooth {b : AdaptiveJitterBuffer round}
    (hmode : b.activeMode = .kSmooth) (jitterMs : ℚ) (nowNs : ℕ) :
    (b.evaluateStateTransition jitterMs nowNs).control =
      if b.jitterP95Ms < 5 then
        if b.smoothLowP95SinceNs = 0 then
          { b.control with activeMode := .kSmooth, smoothLowP95SinceNs := nowNs }
        else if 3000000000 ≤ sub64 nowNs b.smoothLowP95SinceNs then
          { activeMode := .kLowLatency
            consecutiveHighJitter := 0
            consecutiveLowJitter := 0
            lowToSmoothP95Exceeded := false
            smoothLowP95SinceNs := 0 }
        else b.control
      else { b.control with activeMode := .kSmooth, smoothLowP95SinceNs := 0 } := by
  have hsnapshot : b.snapshot.2.activeMode = .kSmooth := hmode
  simp only [evaluateStateTransition, hsnapshot]
  show control (ite (b.jitterP95Ms < 5) (ite (b.smoothLowP95SinceNs = 0) _
    (ite (3000000000 ≤ sub64 nowNs b.smoothLowP95SinceNs) _ _)) _) = _
  split_ifs <;> rfl

end

/-! ### What the counters count -/

/-- The fields tell as much of the evaluated calls since the mode was entered as the
transitions out of it need. -/
structure CountsVisit (c : ModeControl) (visited : List ModeObservation) : Prop where
  high : c.activeMode = .kBypass → c.consecutiveHighJitter = (streak HighJitter visited).length
  low : c.activeMode = .kLowLatency →
    c.consecutiveLowJitter = (streak LowJitter visited).length
  exceeded : c.activeMode = .kLowLatency →
    (c.lowToSmoothP95Exceeded = true ↔ ∃ observed ∈ visited.head?, observed.HighP95)
  since : c.activeMode = .kSmooth →
    c.smoothLowP95SinceNs = ((streak LowP95 visited).getLast?.map (·.nowNs)).getD 0

/-- After a call with which the evaluated calls since the mode was entered are `visited`. -/
structure StepsAsSpecified (mode : JitterBufferMode) (visited : List ModeObservation)
    (nowNs : ℕ) (next : ModeControl) : Prop where
  mode_eq : next.activeMode = specifiedMode mode visited nowNs
  counts : CountsVisit next (if next.activeMode = mode then visited else [])

section

variable {b : AdaptiveJitterBuffer round} {visited : List ModeObservation}
  {observed : ModeObservation} {nowNs : ℕ}

theorem CountsVisit.bypass (h : CountsVisit b.control visited) (hmode : b.activeMode = .kBypass) :
    StepsAsSpecified .kBypass (observed :: visited) nowNs
      (b.evaluateStateTransition observed.jitterMs nowNs).control := by
  have hcount : (if 1 < observed.jitterMs then b.consecutiveHighJitter + 1 else 0) =
      (streak HighJitter (observed :: visited)).length := by
    have hbefore : b.consecutiveHighJitter = _ := h.high hmode
    rw [streak_cons, hbefore]
    split <;> rfl
  rw [evaluateStateTransition_bypass hmode, hcount]
  by_cases hlast : LastAll 10 HighJitter (observed :: visited)
  · rw [if_pos (lastAll_iff.mp hlast)]
    refine ⟨(if_pos hlast).symm, ?_⟩
    rw [if_neg (by simp)]
    exact ⟨by rintro ⟨⟩, fun _ => rfl, fun _ => by simp, by rintro ⟨⟩⟩
  · rw [if_neg (fun h => hlast (lastAll_iff.mpr h))]
    refine ⟨(if_neg hlast).symm, ?_⟩
    rw [if_pos rfl]
    exact ⟨fun _ => rfl, by rintro ⟨⟩, by rintro ⟨⟩, by rintro ⟨⟩⟩

theorem CountsVisit.lowLatency (h : CountsVisit b.control visited)
    (hmode : b.activeMode = .kLowLatency) (hp95 : observed.p95Ms = b.jitterP95Ms) :
    StepsAsSpecified .kLowLatency (observed :: visited) nowNs
      (b.evaluateStateTransition observed.jitterMs nowNs).control := by
  have hcount : (if observed.jitterMs < 1 / 2 then b.consecutiveLowJitter + 1 else 0) =
      (streak LowJitter (observed :: visited)).length := by
    have hbefore : b.consecutiveLowJitter = _ := h.low hmode
    rw [streak_cons, hbefore]
    split <;> rfl
  have hexceeded : b.lowToSmoothP95Exceeded = true ↔
      ∃ other ∈ visited.head?, other.HighP95 := h.exceeded hmode
  rw [evaluateStateTransition_lowLatency hmode, hcount, ← hp95]
  simp only
  by_cases hlow : LastAll 20 LowJitter (observed :: visited)
  · rw [if_pos (lastAll_iff.mp hlow)]
    refine ⟨(if_pos hlow).symm, ?_⟩
    rw [if_neg (by simp)]
    exact ⟨fun _ => rfl, by rintro ⟨⟩, by rintro ⟨⟩, by rintro ⟨⟩⟩
  rw [if_neg (fun h => hlow (lastAll_iff.mpr h))]
  have hspec : specifiedMode .kLowLatency (observed :: visited) nowNs = _ := if_neg hlow
  by_cases hhigh : 10 < observed.p95Ms
  · rw [if_pos hhigh]
    by_cases hbefore : b.lowToSmoothP95Exceeded = true
    · have htwo : LastAll 2 HighP95 (observed :: visited) :=
        lastAll_two.mpr ⟨hhigh, hexceeded.mp hbefore⟩
      rw [if_pos hbefore]
      refine ⟨(hspec.trans (if_pos htwo)).symm, ?_⟩
      rw [if_neg (by simp)]
      exact ⟨by rintro ⟨⟩, by rintro ⟨⟩, by rintro ⟨⟩, fun _ => rfl⟩
    · have htwo : ¬ LastAll 2 HighP95 (observed :: visited) :=
        fun h => hbefore (hexceeded.mpr (lastAll_two.mp h).2)
      rw [if_neg hbefore]
      refine ⟨(hspec.trans (if_neg htwo)).symm, ?_⟩
      rw [if_pos rfl]
      exact ⟨by rintro ⟨⟩, fun _ => rfl, fun _ => by simpa using hhigh, by rintro ⟨⟩⟩
  · have htwo : ¬ LastAll 2 HighP95 (observed :: visited) :=
      fun h => hhigh (lastAll_two.mp h).1
    rw [if_neg hhigh]
    refine ⟨(hspec.trans (if_neg htwo)).symm, ?_⟩
    rw [if_pos rfl]
    exact ⟨by rintro ⟨⟩, fun _ => rfl, fun _ => by simpa using hhigh, by rintro ⟨⟩⟩

/-- The calls of a visit, the latest first, at times at which the difference of two is what it
seems to be. -/
structure InOrder (visited : List ModeObservation) : Prop where
  positive : ∀ observed ∈ visited, 0 < observed.nowNs
  bounded : ∀ observed ∈ visited, observed.nowNs < 2 ^ 64
  ordered : visited.Pairwise fun newer older => older.nowNs ≤ newer.nowNs

theorem sub64_of_le {a b : ℕ} (hle : b ≤ a) (ha : a < 2 ^ 64) : sub64 a b = a - b := by
  rw [sub64, Nat.mod_eq_of_lt (hle.trans_lt ha), Nat.add_comm, Nat.add_sub_assoc hle,
    Nat.add_mod_left, Nat.mod_eq_of_lt (by omega)]

theorem CountsVisit.smooth (h : CountsVisit b.control visited) (hmode : b.activeMode = .kSmooth)
    (hp95 : observed.p95Ms = b.jitterP95Ms) (horder : InOrder (observed :: visited)) :
    StepsAsSpecified .kSmooth (observed :: visited) observed.nowNs
      (b.evaluateStateTransition observed.jitterMs observed.nowNs).control := by
  have hheld : HeldSince LowP95 (fun other => 3000000000 ≤ observed.nowNs - other.nowNs)
      (observed :: visited) ↔ ∃ first ∈ (streak LowP95 (observed :: visited)).getLast?,
        3000000000 ≤ observed.nowNs - first.nowNs :=
    heldSince_iff (horder.ordered.imp fun hle hstart => by omega)
  have hbefore : b.smoothLowP95SinceNs = _ := h.since hmode
  rw [evaluateStateTransition_smooth hmode, ← hp95]
  rw [streak_cons] at hheld
  by_cases hlow : observed.p95Ms < 5
  · rw [if_pos hlow] at hheld ⊢
    cases hfirst : (streak LowP95 visited).getLast? with
    | none =>
        -- the first of the low values: the clock is noted
        have hempty : streak LowP95 visited = [] := List.getLast?_eq_none_iff.mp hfirst
        have hnot : ¬ HeldSince LowP95
            (fun other => 3000000000 ≤ observed.nowNs - other.nowNs) (observed :: visited) := by
          simp [hheld, hempty]
        rw [hfirst] at hbefore
        have hzero : b.smoothLowP95SinceNs = 0 := hbefore
        rw [if_pos hzero]
        refine ⟨(if_neg hnot).symm, ?_⟩
        rw [if_pos rfl]
        refine ⟨by rintro ⟨⟩, by rintro ⟨⟩, by rintro ⟨⟩, fun _ => ?_⟩
        rw [streak_cons, if_pos hlow, hempty]
        rfl
    | some first =>
        have hmem : first ∈ visited := streak_sublist.subset (List.mem_of_getLast? hfirst)
        have hpos := horder.positive first (List.mem_cons_of_mem _ hmem)
        have hbounded := horder.bounded observed List.mem_cons_self
        have hle := (List.pairwise_cons.mp horder.ordered).1 first hmem
        have hlast : (observed :: streak LowP95 visited).getLast? = some first := by
          rw [List.getLast?_cons, hfirst]
          rfl
        rw [hfirst] at hbefore
        have hsince : b.smoothLowP95SinceNs = first.nowNs := hbefore
        rw [hlast] at hheld
        rw [hsince, if_neg (by omega), sub64_of_le hle hbounded]
        by_cases hlong : 3000000000 ≤ observed.nowNs - first.nowNs
        · rw [if_pos hlong]
          refine ⟨(if_pos (hheld.mpr ⟨first, rfl, hlong⟩)).symm, ?_⟩
          rw [if_neg (by simp)]
          exact ⟨by rintro ⟨⟩, fun _ => rfl, fun _ => by simp, by rintro ⟨⟩⟩
        · have hnot : ¬ HeldSince LowP95
              (fun other => 3000000000 ≤ observed.nowNs - other.nowNs) (observed :: visited) := by
            simpa [hheld] using hlong
          have hcontrol : b.control.activeMode = .kSmooth := hmode
          rw [if_neg hlong]
          refine ⟨hcontrol.trans (if_neg hnot).symm, ?_⟩
          rw [if_pos hcontrol]
          refine ⟨fun hother => ?_, fun hother => ?_, fun hother => ?_, fun _ => ?_⟩
          · cases hmode.symm.trans hother
          · cases hmode.symm.trans hother
          · cases hmode.symm.trans hother
          · rw [streak_cons, if_pos hlow, hlast]
            exact hsince
  · rw [if_neg hlow] at hheld ⊢
    have hnot : ¬ HeldSince LowP95
        (fun other => 3000000000 ≤ observed.nowNs - other.nowNs) (observed :: visited) := by
      simp [hheld]
    refine ⟨(if_neg hnot).symm, ?_⟩
    rw [if_pos rfl]
    refine ⟨by rintro ⟨⟩, by rintro ⟨⟩, by rintro ⟨⟩, fun _ => ?_⟩
    rw [streak_cons, if_neg hlow]
    rfl

/-- Whatever the mode, the transitions are those of the specification. -/
theorem CountsVisit.evaluateStateTransition (h : CountsVisit b.control visited)
    (hp95 : observed.p95Ms = b.jitterP95Ms) (horder : InOrder (observed :: visited)) :
    StepsAsSpecified b.activeMode (observed :: visited) observed.nowNs
      (b.evaluateStateTransition observed.jitterMs observed.nowNs).control := by
  cases hmode : b.activeMode with
  | kBypass => exact h.bypass hmode
  | kLowLatency => exact h.lowLatency hmode hp95
  | kSmooth => exact h.smooth hmode hp95 horder

end

/-! ### One call of `RecordJitter` -/

section

variable (b : AdaptiveJitterBuffer round) (call : JitterCall)

/-- The state in which the transitions are evaluated. -/
def assessed : AdaptiveJitterBuffer round :=
  { b with window := b.window.record call.jitterMs }.assessNetworkQuality
    call.fragmentLossPercent call.skipRatePercent

theorem assessed_control : (b.assessed call).control = b.control :=
  assessNetworkQuality_control _ _ _

theorem assessed_window :
    (b.assessed call).window = (b.window.record call.jitterMs).snapshot.2 :=
  assessNetworkQuality_window _ _ _

theorem assessed_autoMode : (b.assessed call).autoMode = b.autoMode :=
  assessNetworkQuality_autoMode _ _ _

theorem snapshot_assessed_window :
    (b.assessed call).window.snapshot.2 = (b.assessed call).window := by
  rw [assessed_window, LatencyStats.snapshot_snapshot]

/-- A call, from the point at which the transitions are evaluated. -/
theorem recordCall_eq :
    b.recordCall call =
      (if (b.assessed call).autoMode ∧ (b.assessed call).window.sampleCount ≥ 10 then
        ((b.assessed call).evaluateStateTransition call.jitterMs call.nowNs).applyQualityParams
      else b.assessed call).targetDelayNs.2.noteLogs call.nowNs := by
  rw [recordCall, recordJitter, assessed]

theorem recordCall_window : (b.recordCall call).window = (b.assessed call).window := by
  have hsettled := b.snapshot_assessed_window call
  have hlogged : ∀ next : AdaptiveJitterBuffer round, next.window = (b.assessed call).window →
      (next.targetDelayNs.2.noteLogs call.nowNs).window = (b.assessed call).window := by
    intro next hnext
    rw [← hnext] at hsettled
    have htarget := next.targetDelayNs_window hsettled
    rw [noteLogs_window _ _ (by rw [htarget, hsettled]), htarget, hnext]
  rw [recordCall_eq]
  apply hlogged
  split
  · rw [applyQualityParams_window, evaluateStateTransition_window]
    exact hsettled
  · rfl

theorem jitterP95Ms_eq : b.jitterP95Ms = b.window.snapshot.1.p95Ms := rfl

theorem assessed_jitterP95Ms : (b.assessed call).jitterP95Ms = (b.recordCall call).jitterP95Ms := by
  rw [jitterP95Ms_eq, jitterP95Ms_eq, recordCall_window]

theorem recordCall_control (hauto : b.autoMode = true) :
    (b.recordCall call).control =
      if 10 ≤ (b.recordCall call).window.sampleCount then
        ((b.assessed call).evaluateStateTransition call.jitterMs call.nowNs).control
      else b.control := by
  rw [recordCall_window, recordCall_eq, noteLogs_control, targetDelayNs_control,
    assessed_autoMode, hauto]
  by_cases hsamples : 10 ≤ (b.assessed call).window.sampleCount
  · rw [if_pos ⟨rfl, hsamples⟩, if_pos hsamples, applyQualityParams_control]
  · rw [if_neg (fun h => hsamples h.2), if_neg hsamples]
    exact b.assessed_control call

@[simp] theorem recordCall_autoMode : (b.recordCall call).autoMode = b.autoMode :=
  recordJitter_autoMode _ _ _ _ _

end

/-! ### Runs -/

theorem InOrder.sublist {few many : List ModeObservation} (h : InOrder many)
    (hsub : few.Sublist many) : InOrder few where
  positive observed hmem := h.positive observed (hsub.subset hmem)
  bounded observed hmem := h.bounded observed (hsub.subset hmem)
  ordered := h.ordered.sublist hsub

theorem visit_sublist (mode : JitterBufferMode) (history : List ModeObservation) :
    (visit mode history).Sublist history :=
  List.filter_sublist.trans streak_sublist

theorem visit_cons (mode : JitterBufferMode) (observed : ModeObservation)
    (history : List ModeObservation) :
    visit mode (observed :: history) =
      if observed.mode = mode then
        if observed.evaluated = true then observed :: visit mode history else visit mode history
      else [] := by
  rw [visit, streak_cons]
  split
  · rw [List.filter_cons]
    rfl
  · rfl

/-- One call keeps the counters in step with the visit, and changes the mode as specified. -/
theorem recordCall_follows {b : AdaptiveJitterBuffer round} {call : JitterCall}
    {history : List ModeObservation} (hauto : b.autoMode = true)
    (h : CountsVisit b.control (visit b.activeMode history))
    (horder : InOrder (observe b call :: history)) :
    ((b.recordCall call).activeMode =
        if 10 ≤ (b.recordCall call).window.sampleCount then
          specifiedMode b.activeMode (visit b.activeMode (observe b call :: history)) call.nowNs
        else b.activeMode) ∧
      CountsVisit (b.recordCall call).control
        (visit (b.recordCall call).activeMode (observe b call :: history)) := by
  have hcontrol := recordCall_control b call hauto
  rw [← control_activeMode (b.recordCall call), visit_cons, visit_cons, observe_mode,
    observe_evaluated, if_pos rfl]
  by_cases hsamples : 10 ≤ (b.recordCall call).window.sampleCount
  · rw [if_pos hsamples] at hcontrol ⊢
    rw [if_pos (decide_eq_true hsamples), if_pos (decide_eq_true hsamples)]
    have hkept : (b.assessed call).activeMode = b.activeMode := by
      rw [← control_activeMode, assessed_control, control_activeMode]
    have hp95 : (observe b call).p95Ms = (b.assessed call).jitterP95Ms := by
      rw [observe_p95Ms, assessed_jitterP95Ms]
    rw [← assessed_control b call] at h
    have hstep := h.evaluateStateTransition hp95
      (horder.sublist ((visit_sublist b.activeMode history).cons_cons _))
    rw [hkept, observe_jitterMs, observe_nowNs, ← hcontrol] at hstep
    refine ⟨hstep.mode_eq, ?_⟩
    have hcounts := hstep.counts
    by_cases hsame : (b.recordCall call).control.activeMode = b.activeMode
    · rw [if_pos hsame] at hcounts
      rw [hsame, if_pos rfl]
      exact hcounts
    · rw [if_neg hsame] at hcounts
      rw [if_neg (Ne.symm hsame)]
      exact hcounts
  · rw [if_neg hsamples] at hcontrol ⊢
    have hevaluated : ¬ decide (10 ≤ (b.recordCall call).window.sampleCount) = true := by
      simpa using hsamples
    rw [hcontrol, control_activeMode, if_pos rfl, if_neg hevaluated]
    exact ⟨rfl, h⟩

theorem recordCalls_cons (b : AdaptiveJitterBuffer round) (call : JitterCall)
    (calls : List JitterCall) :
    b.recordCalls (call :: calls) = (b.recordCall call).recordCalls calls := by
  rw [recordCalls, recordCalls, List.foldl_cons]

theorem modeHistory_append (b : AdaptiveJitterBuffer round) (calls : List JitterCall)
    (call : JitterCall) :
    modeHistory b (calls ++ [call]) =
      observe (b.recordCalls calls) call :: modeHistory b calls := by
  induction calls generalizing b with
  | nil => rfl
  | cons first calls ih =>
      rw [List.cons_append, modeHistory, ih, modeHistory, recordCalls_cons, List.cons_append]

theorem nowNs_modeHistory (b : AdaptiveJitterBuffer round) (calls : List JitterCall) :
    (modeHistory b calls).map (·.nowNs) = (calls.map (·.nowNs)).reverse := by
  induction calls generalizing b with
  | nil => rfl
  | cons call calls ih =>
      rw [modeHistory, List.map_append, ih, List.map_singleton, observe_nowNs, List.map_cons,
        List.reverse_cons]

theorem recordCalls_append (b : AdaptiveJitterBuffer round) (calls : List JitterCall)
    (call : JitterCall) :
    b.recordCalls (calls ++ [call]) = (b.recordCalls calls).recordCall call := by
  rw [recordCalls, recordCalls, List.foldl_append, List.foldl_cons, List.foldl_nil]

theorem recordCalls_autoMode (b : AdaptiveJitterBuffer round) (calls : List JitterCall) :
    (b.recordCalls calls).autoMode = b.autoMode := by
  induction calls generalizing b with
  | nil => rfl
  | cons call calls ih => rw [recordCalls_cons, ih, recordCall_autoMode]

theorem specifiedMode_adjacent {mode : JitterBufferMode} {visited : List ModeObservation}
    {nowNs : ℕ} (h : specifiedMode mode visited nowNs ≠ mode) :
    mode = .kLowLatency ∨ specifiedMode mode visited nowNs = .kLowLatency := by
  revert h
  cases mode with
  | kLowLatency => exact fun _ => .inl rfl
  | kBypass =>
      rw [specifiedMode]
      split <;> simp
  | kSmooth =>
      rw [specifiedMode]
      split <;> simp

end AdaptiveJitterBuffer

open AdaptiveJitterBuffer

theorem CallsInOrder.modeHistory {calls : List JitterCall} (h : CallsInOrder calls)
    (b : AdaptiveJitterBuffer round) : InOrder (modeHistory b calls) := by
  have htimes := nowNs_modeHistory b calls
  have hmem : ∀ observed ∈ Client.modeHistory b calls,
      ∃ call ∈ calls, call.nowNs = observed.nowNs := by
    intro observed hobserved
    have htime : observed.nowNs ∈ (calls.map (·.nowNs)).reverse :=
      htimes ▸ List.mem_map_of_mem hobserved
    simpa using htime
  refine ⟨fun observed hobserved => ?_, fun observed hobserved => ?_, ?_⟩
  · obtain ⟨call, hcall, htime⟩ := hmem observed hobserved
    exact htime ▸ h.positive call hcall
  · obtain ⟨call, hcall, htime⟩ := hmem observed hobserved
    exact htime ▸ h.bounded call hcall
  · have hordered : (calls.map (·.nowNs)).Pairwise (· ≤ ·) := List.pairwise_map.mpr h.ordered
    have hreversed := List.pairwise_reverse.mpr hordered
    rw [← htimes] at hreversed
    exact List.pairwise_map.mp hreversed

theorem CallsInOrder.initial {calls rest : List JitterCall} (h : CallsInOrder (calls ++ rest)) :
    CallsInOrder calls where
  positive call hcall := h.positive call (List.mem_append_left _ hcall)
  bounded call hcall := h.bounded call (List.mem_append_left _ hcall)
  ordered := (List.pairwise_append.mp h.ordered).1

theorem recordCall_adjacent {b : AdaptiveJitterBuffer round} {call : JitterCall}
    {history : List ModeObservation} (hauto : b.autoMode = true)
    (h : CountsVisit b.control (visit b.activeMode history))
    (horder : InOrder (observe b call :: history))
    (hchanged : (b.recordCall call).activeMode ≠ b.activeMode) :
    b.activeMode = .kLowLatency ∨ (b.recordCall call).activeMode = .kLowLatency := by
  have hmode := (recordCall_follows hauto h horder).1
  by_cases hsamples : 10 ≤ (b.recordCall call).window.sampleCount
  · rw [if_pos hsamples] at hmode
    rw [hmode] at hchanged ⊢
    exact specifiedMode_adjacent hchanged
  · rw [if_neg hsamples] at hmode
    exact absurd hmode hchanged

/-- The counters over a whole run. -/
theorem recordCalls_countsVisit {b : AdaptiveJitterBuffer round} (hauto : b.autoMode = true)
    {calls : List JitterCall} (horder : CallsInOrder calls) :
    CountsVisit (b.reset.recordCalls calls).control
      (visit (b.reset.recordCalls calls).activeMode (modeHistory b.reset calls)) := by
  induction calls using List.reverseRecOn with
  | nil => exact ⟨fun _ => rfl, by rintro ⟨⟩, by rintro ⟨⟩, by rintro ⟨⟩⟩
  | append_singleton calls call ih =>
      have hbefore : (b.reset.recordCalls calls).autoMode = true := by
        rw [recordCalls_autoMode, reset_autoMode, hauto]
      have hhistory := horder.modeHistory b.reset
      rw [modeHistory_append] at hhistory ⊢
      rw [recordCalls_append]
      exact (recordCall_follows hbefore (ih horder.initial) hhistory).2

/-- In the automatic mode each call of a run leads to the mode that the documented transitions
specify, which is a neighbour of the mode before; with too few samples it leaves the mode as
it is. -/
theorem activeMode_recordCalls {b : AdaptiveJitterBuffer round} (hauto : b.autoMode = true)
    {calls : List JitterCall} {call : JitterCall} (horder : CallsInOrder (calls ++ [call])) :
    let before := b.reset.recordCalls calls
    let next := before.recordCall call
    (next.activeMode ≠ before.activeMode →
        before.activeMode = .kLowLatency ∨ next.activeMode = .kLowLatency) ∧
      next.activeMode =
        if 10 ≤ next.window.sampleCount then
          specifiedMode before.activeMode
            (visit before.activeMode (modeHistory b.reset (calls ++ [call]))) call.nowNs
        else before.activeMode := by
  have hbefore : (b.reset.recordCalls calls).autoMode = true := by
    rw [recordCalls_autoMode, reset_autoMode, hauto]
  have hhistory := horder.modeHistory b.reset
  rw [modeHistory_append] at hhistory
  have hcounts := recordCalls_countsVisit hauto horder.initial
  have hfollows := (recordCall_follows hbefore hcounts hhistory).1
  have hadjacent := recordCall_adjacent hbefore hcounts hhistory
  rw [← modeHistory_append] at hfollows
  exact ⟨hadjacent, hfollows⟩

/-- One call a second: two of the first samples are far off, and in the end there is hardly any
jitter. -/
def roundTripCall (i : ℕ) : JitterCall where
  jitterMs := if i = 20 ∨ i = 21 then 1000 else if i < 44 then 2 else 1 / 4
  nowNs := (i + 1) * 1000000000

def roundTripCalls : List JitterCall := (List.range 63).map roundTripCall

theorem roundTripCalls_inOrder : CallsInOrder (roundTripCalls ++ [roundTripCall 63]) where
  positive := by decide
  bounded := by decide
  ordered := by decide

/-- The last of twenty calls in a row after the controller has come back from smooth. -/
theorem activeMode_roundTrip :
    let before := (reset ({} : AdaptiveJitterBuffer id)).recordCalls roundTripCalls
    let next := before.recordCall (roundTripCall 63)
    (before.activeMode = .kLowLatency ∧ next.activeMode = .kBypass) ∧
      (next.activeMode ≠ before.activeMode →
          before.activeMode = .kLowLatency ∨ next.activeMode = .kLowLatency) ∧
        next.activeMode =
          if 10 ≤ next.window.sampleCount then
            specifiedMode before.activeMode
              (visit before.activeMode (modeHistory (reset ({} : AdaptiveJitterBuffer id))
                (roundTripCalls ++ [roundTripCall 63]))) (roundTripCall 63).nowNs
          else before.activeMode :=
  ⟨by decide +kernel, activeMode_recordCalls rfl roundTripCalls_inOrder⟩

/-- Every mode is entered and left, the low-latency mode twice. -/
example : ((modeHistory (reset ({} : AdaptiveJitterBuffer id))
    (roundTripCalls ++ [roundTripCall 63, roundTripCall 64])).map (·.mode)).destutter (· ≠ ·) =
      [.kBypass, .kLowLatency, .kSmooth, .kLowLatency, .kBypass] := by
  decide +kernel

end AvProject.Client
