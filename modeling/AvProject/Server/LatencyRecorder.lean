import Mathlib.Data.List.Sort
import Mathlib.Data.Rat.Floor
import Mathlib.Tactic

/-!
`LatencyRecorder`, the latency statistics of the server: a plain queue of the last samples. The
`double` values of the source are exact rationals. The lock makes every call one step.
-/

namespace AvProject.Server

structure LatencySummary where
  count : ℕ := 0
  minMs : ℚ := 0
  avgMs : ℚ := 0
  p50Ms : ℚ := 0
  p95Ms : ℚ := 0
  p99Ms : ℚ := 0
  maxMs : ℚ := 0
  deriving DecidableEq, Repr, Inhabited

/-- Linear interpolation between the two neighbours of a fractional rank. -/
def percentileFromSorted (values : List ℚ) (percentile : ℚ) : ℚ :=
  if values = [] then 0
  else
    let index := percentile * ((values.length - 1 : ℕ) : ℚ)
    let lower := ⌊index⌋.toNat
    let upper := min (lower + 1) (values.length - 1)
    let fraction := index - (lower : ℚ)
    values.getD lower 0 + (values.getD upper 0 - values.getD lower 0) * fraction

structure LatencyRecorder where
  maxSamples : ℕ
  samplesMs : List ℚ := []
  deriving DecidableEq, Repr, Inhabited

namespace LatencyRecorder

/-- The part of `RecordNs` under the lock. -/
def recordMs (r : LatencyRecorder) (latencyMs : ℚ) : LatencyRecorder :=
  let samplesMs := if r.samplesMs.length ≥ r.maxSamples then r.samplesMs.tail else r.samplesMs
  { r with samplesMs := samplesMs ++ [latencyMs] }

def recordNs (r : LatencyRecorder) (latencyNs : ℕ) : LatencyRecorder :=
  r.recordMs ((latencyNs : ℚ) / 1000000)

def snapshot (r : LatencyRecorder) : LatencySummary :=
  if r.samplesMs = [] then { count := r.samplesMs.length }
  else
    let sorted := r.samplesMs.insertionSort (· ≤ ·)
    { count := r.samplesMs.length
      minMs := sorted.headD 0
      maxMs := sorted.getLastD 0
      avgMs := sorted.foldl (· + ·) 0 / (sorted.length : ℚ)
      p50Ms := percentileFromSorted sorted (50 / 100)
      p95Ms := percentileFromSorted sorted (95 / 100)
      p99Ms := percentileFromSorted sorted (99 / 100) }

end LatencyRecorder

end AvProject.Server
