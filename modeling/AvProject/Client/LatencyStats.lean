import Mathlib.Data.List.Sort
import Mathlib.Data.Rat.Floor

/-!
Sliding-window latency statistics of the client. A `double` of the source is a rational number,
and an operation on `double` is the exact operation followed by `round`: `roundBinary64` for the
arithmetic of the code, and `id` for statements about exact values.
-/

namespace AvProject.Client

structure LatencySummary where
  count : ℕ := 0
  lastMs : ℚ := 0
  minMs : ℚ := 0
  avgMs : ℚ := 0
  p50Ms : ℚ := 0
  p95Ms : ℚ := 0
  p99Ms : ℚ := 0
  maxMs : ℚ := 0
  deriving DecidableEq, Repr, Inhabited

structure LatencyStats (round : ℚ → ℚ) where
  maxSamples : ℕ
  snapshotRefreshInterval : ℕ
  samplesMs : List ℚ
  nextIndex : ℕ := 0
  sampleCount : ℕ := 0
  dirty : Bool := false
  cachedSummaryValid : Bool := false
  pendingSnapshotSamples : ℕ := 0
  cachedSummary : LatencySummary := {}
  lastMs : ℚ := 0
  deriving DecidableEq, Repr, Inhabited

/-- The constructor `LatencyStats(max_samples, snapshot_refresh_interval)`. -/
def LatencyStats.create {round : ℚ → ℚ} (maxSamples snapshotRefreshInterval : ℕ) :
    LatencyStats round :=
  { maxSamples := maxSamples
    snapshotRefreshInterval := max 1 snapshotRefreshInterval
    samplesMs := List.replicate maxSamples 0 }

/-- Linear interpolation between the two neighbours of a fractional rank. -/
def percentileFromSorted (round : ℚ → ℚ) (values : List ℚ) (percentile : ℚ) : ℚ :=
  if values = [] then 0
  else
    let index := round (percentile * ((values.length - 1 : ℕ) : ℚ))
    let lower := ⌊index⌋.toNat
    let upper := min (lower + 1) (values.length - 1)
    let fraction := round (index - (lower : ℚ))
    round (values.getD lower 0 +
      round (round (values.getD upper 0 - values.getD lower 0) * fraction))

namespace LatencyStats

variable {round : ℚ → ℚ}

/-- `Record`: the oldest sample is overwritten once the ring is full. -/
def record (s : LatencyStats round) (valueMs : ℚ) : LatencyStats round :=
  let s : LatencyStats round := { s with lastMs := valueMs }
  if s.maxSamples = 0 then
    { s with dirty := true, cachedSummaryValid := false, pendingSnapshotSamples := 0 }
  else
    { s with
      samplesMs := s.samplesMs.set s.nextIndex valueMs
      nextIndex := (s.nextIndex + 1) % s.maxSamples
      sampleCount := if s.sampleCount < s.maxSamples then s.sampleCount + 1 else s.sampleCount
      dirty := true
      pendingSnapshotSamples := s.pendingSnapshotSamples + 1 }

/-- The samples of the ring in recording order. -/
def orderedSamples (s : LatencyStats round) : List ℚ :=
  if s.sampleCount < s.maxSamples then s.samplesMs.take s.sampleCount
  else s.samplesMs.drop s.nextIndex ++ s.samplesMs.take s.nextIndex

def buildSummary (s : LatencyStats round) : LatencySummary :=
  if s.sampleCount = 0 then { count := s.sampleCount, lastMs := s.lastMs }
  else
    let ordered := s.orderedSamples
    let sorted := ordered.insertionSort (· ≤ ·)
    { count := s.sampleCount
      lastMs := s.lastMs
      minMs := sorted.headD 0
      maxMs := sorted.getLastD 0
      avgMs := round (ordered.foldl (fun sum x => round (sum + x)) 0 / (ordered.length : ℚ))
      -- A literal is rounded as well.
      p50Ms := percentileFromSorted round sorted (round (50 / 100))
      p95Ms := percentileFromSorted round sorted (round (95 / 100))
      p99Ms := percentileFromSorted round sorted (round (99 / 100)) }

/-- `RefreshSummary`: the mutable cache is part of the state. -/
def refreshSummary (s : LatencyStats round) (forceRefresh : Bool) : LatencyStats round :=
  if !s.dirty && s.cachedSummaryValid then s
  else if !forceRefresh && s.cachedSummaryValid &&
      s.pendingSnapshotSamples < s.snapshotRefreshInterval then s
  else
    { s with
      cachedSummary := s.buildSummary
      cachedSummaryValid := true
      dirty := false
      pendingSnapshotSamples := 0 }

/-- A summary that has just been looked at is not built again. -/
theorem refreshSummary_refreshSummary (s : LatencyStats round) :
    (s.refreshSummary false).refreshSummary false = s.refreshSummary false := by
  by_cases hclean : (!s.dirty && s.cachedSummaryValid) = true
  · simp only [refreshSummary, if_pos hclean]
  · by_cases hpending : (!false && s.cachedSummaryValid &&
        s.pendingSnapshotSamples < s.snapshotRefreshInterval) = true
    · simp only [refreshSummary, if_neg hclean, if_pos hpending]
    · simp only [refreshSummary, if_neg hclean, if_neg hpending]
      rfl

def snapshot (s : LatencyStats round) : LatencySummary × LatencyStats round :=
  let s := s.refreshSummary false
  (s.cachedSummary, s)

theorem snapshot_snapshot (s : LatencyStats round) : s.snapshot.2.snapshot = s.snapshot := by
  rw [snapshot, snapshot, refreshSummary_refreshSummary]

def reset (s : LatencyStats round) : LatencyStats round :=
  { s with
    samplesMs := List.replicate s.samplesMs.length 0
    nextIndex := 0
    sampleCount := 0
    dirty := false
    cachedSummaryValid := false
    pendingSnapshotSamples := 0
    lastMs := 0 }

end LatencyStats

end AvProject.Client
