import AvProject.Client.LatencyStats

/-!
The adaptive jitter-buffer controller. Rates and delays that the source keeps in `double` are
rational numbers, computed with the `round` of the window's statistics. Logging is left out; the
state that decides when to log is kept because it is part of what `Reset` clears.
-/

namespace AvProject.Client

inductive JitterBufferMode | kBypass | kLowLatency | kSmooth
  deriving DecidableEq, Repr, Inhabited

inductive NetworkQuality | kExcellent | kGood | kFair | kPoor
  deriving DecidableEq, Repr, Inhabited

structure AdaptiveJitterBufferConfig where
  minDelayMs : ℤ := 2
  safetyFactor : ℚ := 3 / 2
  smoothFactor : ℚ := 5 / 2
  baseMaxWaitMs : ℤ := 80
  baseMaxFrames : ℕ := 8
  deriving DecidableEq, Repr, Inhabited

structure AdaptiveJitterBuffer (round : ℚ → ℚ) where
  activeMode : JitterBufferMode := .kBypass
  networkQuality : NetworkQuality := .kExcellent
  autoMode : Bool := true
  window : LatencyStats round := LatencyStats.create 100 4
  consecutiveHighJitter : ℕ := 0
  consecutiveLowJitter : ℕ := 0
  lowToSmoothP95Exceeded : Bool := false
  smoothLowP95SinceNs : ℕ := 0
  lastLoggedMode : JitterBufferMode := .kBypass
  lastLoggedQuality : NetworkQuality := .kExcellent
  lastPeriodicLogNs : ℕ := 0
  config : AdaptiveJitterBufferConfig := {}
  currentMaxWaitMs : ℤ := 80
  currentMaxFrames : ℕ := 8
  deriving DecidableEq, Repr, Inhabited

/-- The parameters of a controller. -/
structure JitterParams where
  config : AdaptiveJitterBufferConfig
  maxWaitMs : ℤ
  maxFrames : ℕ

/-- Subtraction of unsigned 64-bit integers. -/
def sub64 (a b : ℕ) : ℕ := (a + 2 ^ 64 - b % 2 ^ 64) % 2 ^ 64

/-- `static_cast<std::uint64_t>` of a nonnegative `double`. -/
def toUint64 (x : ℚ) : ℕ := ⌊x⌋.toNat

namespace AdaptiveJitterBuffer

variable {round : ℚ → ℚ}

def params (b : AdaptiveJitterBuffer round) : JitterParams where
  config := b.config
  maxWaitMs := b.currentMaxWaitMs
  maxFrames := b.currentMaxFrames

def configure (b : AdaptiveJitterBuffer round) (config : AdaptiveJitterBufferConfig) :
    AdaptiveJitterBuffer round :=
  { b with
    config := config
    currentMaxWaitMs := config.baseMaxWaitMs
    currentMaxFrames := config.baseMaxFrames }

def setFixedMode (b : AdaptiveJitterBuffer round) (mode : JitterBufferMode) :
    AdaptiveJitterBuffer round :=
  { b with autoMode := false, activeMode := mode }

def enableAutoMode (b : AdaptiveJitterBuffer round) : AdaptiveJitterBuffer round :=
  { b with autoMode := true }

def reset (b : AdaptiveJitterBuffer round) : AdaptiveJitterBuffer round :=
  { b with
    window := LatencyStats.create 100 4
    activeMode := .kBypass
    networkQuality := .kExcellent
    consecutiveHighJitter := 0
    consecutiveLowJitter := 0
    lowToSmoothP95Exceeded := false
    smoothLowP95SinceNs := 0
    lastLoggedMode := .kBypass
    lastLoggedQuality := .kExcellent
    lastPeriodicLogNs := 0
    currentMaxWaitMs := b.config.baseMaxWaitMs
    currentMaxFrames := b.config.baseMaxFrames }

/-- A snapshot of the window, whose cache the call may refresh. -/
def snapshot (b : AdaptiveJitterBuffer round) : LatencySummary × AdaptiveJitterBuffer round :=
  let (summary, window) := b.window.snapshot
  (summary, { b with window := window })

theorem snapshot_snapshot (b : AdaptiveJitterBuffer round) :
    b.snapshot.2.snapshot = b.snapshot := by
  simp only [snapshot, LatencyStats.snapshot_snapshot]

def jitterP50Ms (b : AdaptiveJitterBuffer round) : ℚ := b.snapshot.1.p50Ms
def jitterP95Ms (b : AdaptiveJitterBuffer round) : ℚ := b.snapshot.1.p95Ms

def qualityMaxWaitMs (b : AdaptiveJitterBuffer round) : ℤ := b.currentMaxWaitMs
def qualityMaxFrames (b : AdaptiveJitterBuffer round) : ℕ := b.currentMaxFrames

def assessNetworkQuality (b : AdaptiveJitterBuffer round) (lossPercent skipPercent : ℚ) :
    AdaptiveJitterBuffer round :=
  let p95 := b.jitterP95Ms
  let b := b.snapshot.2
  if p95 > 50 ∨ lossPercent > 1 ∨ skipPercent > 5 then { b with networkQuality := .kPoor }
  else if p95 > 10 ∨ lossPercent > round (1 / 10) ∨ skipPercent > 1 then
    { b with networkQuality := .kFair }
  else if p95 > 1 ∨ lossPercent > round (1 / 100) then { b with networkQuality := .kGood }
  else { b with networkQuality := .kExcellent }

def applyQualityParams (b : AdaptiveJitterBuffer round) : AdaptiveJitterBuffer round :=
  match b.networkQuality with
  | .kExcellent =>
      { b with
        currentMaxWaitMs := max 20 (b.config.baseMaxWaitMs.tdiv 4)
        currentMaxFrames := max 2 (b.config.baseMaxFrames / 4) }
  | .kGood =>
      { b with
        currentMaxWaitMs := b.config.baseMaxWaitMs.tdiv 2
        currentMaxFrames := max 4 (b.config.baseMaxFrames / 2) }
  | .kFair =>
      { b with
        currentMaxWaitMs := b.config.baseMaxWaitMs
        currentMaxFrames := b.config.baseMaxFrames }
  | .kPoor =>
      { b with
        currentMaxWaitMs := b.config.baseMaxWaitMs * 3
        currentMaxFrames := b.config.baseMaxFrames * 4 % 2 ^ 64 }

def evaluateStateTransition (b : AdaptiveJitterBuffer round) (jitterMs : ℚ) (nowNs : ℕ) :
    AdaptiveJitterBuffer round :=
  let p95 := b.jitterP95Ms
  let b := b.snapshot.2
  match b.activeMode with
  | .kBypass =>
      let high := if jitterMs > 1 then b.consecutiveHighJitter + 1 else 0
      if high ≥ 10 then
        { b with
          activeMode := .kLowLatency
          consecutiveHighJitter := 0
          consecutiveLowJitter := 0
          lowToSmoothP95Exceeded := false }
      else { b with consecutiveHighJitter := high }
  | .kLowLatency =>
      let low := if jitterMs < 1 / 2 then b.consecutiveLowJitter + 1 else 0
      if low ≥ 20 then
        { b with activeMode := .kBypass, consecutiveLowJitter := 0, consecutiveHighJitter := 0 }
      else if p95 > 10 then
        if b.lowToSmoothP95Exceeded then
          { b with
            activeMode := .kSmooth
            consecutiveLowJitter := 0
            consecutiveHighJitter := 0
            lowToSmoothP95Exceeded := false
            smoothLowP95SinceNs := 0 }
        else { b with consecutiveLowJitter := low, lowToSmoothP95Exceeded := true }
      else { b with consecutiveLowJitter := low, lowToSmoothP95Exceeded := false }
  | .kSmooth =>
      if p95 < 5 then
        if b.smoothLowP95SinceNs = 0 then { b with smoothLowP95SinceNs := nowNs }
        else if sub64 nowNs b.smoothLowP95SinceNs ≥ 3000000000 then
          { b with
            activeMode := .kLowLatency
            consecutiveLowJitter := 0
            consecutiveHighJitter := 0
            lowToSmoothP95Exceeded := false
            smoothLowP95SinceNs := 0 }
        else b
      else { b with smoothLowP95SinceNs := 0 }

/-- `TargetDelayNs`: the bypass mode reads no statistics. -/
def targetDelayNs (b : AdaptiveJitterBuffer round) : ℕ × AdaptiveJitterBuffer round :=
  match b.activeMode with
  | .kBypass => (0, b)
  | .kLowLatency =>
      (toUint64 (round (max (b.config.minDelayMs : ℚ)
        (round (b.jitterP95Ms * b.config.safetyFactor)) * 1000000)), b.snapshot.2)
  | .kSmooth =>
      (toUint64 (round (max (b.config.minDelayMs : ℚ)
        (round (b.jitterP95Ms * b.config.smoothFactor)) * 1000000)), b.snapshot.2)

/-- Asking for the target twice gives the same one. -/
theorem targetDelayNs_targetDelayNs (b : AdaptiveJitterBuffer round) :
    b.targetDelayNs.2.targetDelayNs = b.targetDelayNs := by
  have hp95 : b.snapshot.2.jitterP95Ms = b.jitterP95Ms := by
    rw [jitterP95Ms, jitterP95Ms, snapshot_snapshot]
  have hmode : b.snapshot.2.activeMode = b.activeMode := rfl
  have hconfig : b.snapshot.2.config = b.config := rfl
  cases h : b.activeMode with
  | kBypass => simp only [targetDelayNs, h]
  | kLowLatency => simp only [targetDelayNs, h, hmode, hp95, hconfig, snapshot_snapshot]
  | kSmooth => simp only [targetDelayNs, h, hmode, hp95, hconfig, snapshot_snapshot]

@[simp] theorem targetDelayNs_params (b : AdaptiveJitterBuffer round) :
    b.targetDelayNs.2.params = b.params := by
  rw [targetDelayNs]
  split <;> rfl

/-- The bookkeeping of the two log messages of `RecordJitter`; both read the
window when they are written. -/
def noteLogs (b : AdaptiveJitterBuffer round) (nowNs : ℕ) : AdaptiveJitterBuffer round :=
  let b :=
    if b.activeMode ≠ b.lastLoggedMode ∨ b.networkQuality ≠ b.lastLoggedQuality then
      { b.snapshot.2 with
        lastLoggedMode := b.activeMode
        lastLoggedQuality := b.networkQuality }
    else b
  if sub64 nowNs b.lastPeriodicLogNs ≥ 5000000000 then
    { b.snapshot.2 with lastPeriodicLogNs := nowNs }
  else b

def recordJitter (b : AdaptiveJitterBuffer round)
    (jitterMs fragmentLossPercent skipRatePercent : ℚ) (nowNs : ℕ) : AdaptiveJitterBuffer round :=
  let b := { b with window := b.window.record jitterMs }
  let b := b.assessNetworkQuality fragmentLossPercent skipRatePercent
  let b :=
    if b.autoMode ∧ b.window.sampleCount ≥ 10 then
      (b.evaluateStateTransition jitterMs nowNs).applyQualityParams
    else b
  b.targetDelayNs.2.noteLogs nowNs

/-! The switch between the automatic and the fixed modes is nobody's but `setFixedMode`'s and
`enableAutoMode`'s. -/

section

variable (b : AdaptiveJitterBuffer round)

@[simp] theorem snapshot_autoMode : b.snapshot.2.autoMode = b.autoMode := rfl

@[simp] theorem reset_autoMode : b.reset.autoMode = b.autoMode := rfl

@[simp] theorem configure_autoMode (config : AdaptiveJitterBufferConfig) :
    (b.configure config).autoMode = b.autoMode := rfl

@[simp] theorem assessNetworkQuality_autoMode (lossPercent skipPercent : ℚ) :
    (b.assessNetworkQuality lossPercent skipPercent).autoMode = b.autoMode := by
  rw [assessNetworkQuality]
  split_ifs <;> rfl

@[simp] theorem applyQualityParams_autoMode : b.applyQualityParams.autoMode = b.autoMode := by
  rw [applyQualityParams]
  split <;> rfl

@[simp] theorem evaluateStateTransition_autoMode (jitterMs : ℚ) (nowNs : ℕ) :
    (b.evaluateStateTransition jitterMs nowNs).autoMode = b.autoMode := by
  simp only [evaluateStateTransition]
  split <;> split_ifs <;> rfl

@[simp] theorem targetDelayNs_autoMode : b.targetDelayNs.2.autoMode = b.autoMode := by
  rw [targetDelayNs]
  split <;> rfl

@[simp] theorem noteLogs_autoMode (nowNs : ℕ) : (b.noteLogs nowNs).autoMode = b.autoMode := by
  rw [noteLogs]
  split_ifs <;> rfl

@[simp] theorem recordJitter_autoMode (jitterMs lossPercent skipPercent : ℚ) (nowNs : ℕ) :
    (b.recordJitter jitterMs lossPercent skipPercent nowNs).autoMode = b.autoMode := by
  rw [recordJitter, noteLogs_autoMode, targetDelayNs_autoMode]
  split
  · rw [applyQualityParams_autoMode, evaluateStateTransition_autoMode,
      assessNetworkQuality_autoMode]
  · rw [assessNetworkQuality_autoMode]

end

end AdaptiveJitterBuffer

end AvProject.Client
