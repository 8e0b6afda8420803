import AvProject.Client.LatencyStats
import AvProject.Lib.OrderStatistics
import AvProject.Lib.RingBuffer
import AvProject.Server.LatencyRecorder

/-!
The latency statistics of the client against a plain sliding window. The ring, the dirty flag
and the counter of pending samples are an implementation of a list of the last samples whose
summary may be a few samples old; the recorder of the server keeps that list itself.
-/

namespace AvProject.Client

open AvProject.Lib

/-! ### The summary of a list -/

/-- The summary of the samples of a window. -/
def windowSummary (window : List ℚ) : Server.LatencySummary :=
  let sorted := window.insertionSort (· ≤ ·)
  let lastRank : ℚ := (window.length - 1 : ℕ)
  { count := window.length
    minMs := window.min?.getD 0
    avgMs := window.sum / (window.length : ℚ)
    p50Ms := interpolate sorted (1 / 2 * lastRank)
    p95Ms := interpolate sorted (95 / 100 * lastRank)
    p99Ms := interpolate sorted (99 / 100 * lastRank)
    maxMs := window.max?.getD 0 }

/-- The percentiles are in order between the extremes, and so is the mean. -/
structure SummaryInOrder (s : Server.LatencySummary) : Prop where
  min_le_p50 : s.minMs ≤ s.p50Ms
  p50_le_p95 : s.p50Ms ≤ s.p95Ms
  p95_le_p99 : s.p95Ms ≤ s.p99Ms
  p99_le_max : s.p99Ms ≤ s.maxMs
  min_le_avg : s.minMs ≤ s.avgMs
  avg_le_max : s.avgMs ≤ s.maxMs

section

variable {window : List ℚ}

theorem min?_eq_headD (hne : window ≠ []) :
    window.min? = some ((window.insertionSort (· ≤ ·)).headD 0) := by
  obtain ⟨hmem, hleast⟩ := (insertionSort_extremes hne 0).1
  exact List.min?_eq_some_iff.mpr ⟨hmem, fun _ hx => hleast hx⟩

theorem max?_eq_getLastD (hne : window ≠ []) :
    window.max? = some ((window.insertionSort (· ≤ ·)).getLastD 0) := by
  obtain ⟨hmem, hgreatest⟩ := (insertionSort_extremes hne 0).2
  exact List.max?_eq_some_iff.mpr ⟨hmem, fun _ hx => hgreatest hx⟩

theorem insertionSort_ne_nil (hne : window ≠ []) : window.insertionSort (· ≤ ·) ≠ [] := by
  intro hnil
  have hperm := List.perm_insertionSort (· ≤ ·) window
  rw [hnil] at hperm
  exact hne hperm.symm.eq_nil

/-- The extremes are the values at the first and at the last rank. -/
theorem windowSummary_extremes (hne : window ≠ []) :
    (windowSummary window).minMs = interpolate (window.insertionSort (· ≤ ·)) 0 ∧
      (windowSummary window).maxMs =
        interpolate (window.insertionSort (· ≤ ·)) (window.length - 1 : ℕ) := by
  have hsome := insertionSort_ne_nil hne
  have hlength : (window.insertionSort (· ≤ ·)).length = window.length :=
    List.length_insertionSort _ _
  rw [windowSummary]
  simp only
  rw [min?_eq_headD hne, max?_eq_getLastD hne, interpolate_zero, ← hlength, interpolate_last]
  generalize window.insertionSort (· ≤ ·) = sorted at hsome
  constructor
  · cases sorted with
    | nil => rfl
    | cons x rest => rfl
  · have hlast : sorted.length - 1 < sorted.length :=
      Nat.sub_lt (List.length_pos_of_ne_nil hsome) Nat.zero_lt_one
    rw [List.getD_eq_getElem _ _ hlast, ← List.getLast_eq_getElem hsome, Option.getD_some,
      List.getLastD_eq_getLast?, List.getLast?_eq_some_getLast hsome, Option.getD_some]

theorem windowSummary_inOrder (window : List ℚ) : SummaryInOrder (windowSummary window) := by
  by_cases hne : window = []
  · subst hne
    constructor <;> simp [windowSummary, interpolate]
  have hsome := insertionSort_ne_nil hne
  have hsorted := List.pairwise_insertionSort (· ≤ ·) window
  have hlength : (window.insertionSort (· ≤ ·)).length = window.length :=
    List.length_insertionSort _ _
  obtain ⟨hmin, hmax⟩ := windowSummary_extremes hne
  obtain ⟨hleast, hgreatest⟩ := insertionSort_extremes hne (0 : ℚ)
  have hlast : (0 : ℚ) ≤ (window.length - 1 : ℕ) := Nat.cast_nonneg _
  -- a larger part of the last rank is a larger rank
  have hmono {p q : ℚ} (hp : 0 ≤ p) (hpq : p ≤ q) (hq : q ≤ 1) :
      interpolate (window.insertionSort (· ≤ ·)) (p * (window.length - 1 : ℕ)) ≤
        interpolate (window.insertionSort (· ≤ ·)) (q * (window.length - 1 : ℕ)) := by
    refine interpolate_mono hsorted (mul_nonneg hp hlast) ?_ ?_ hsome
    · exact mul_le_mul_of_nonneg_right hpq hlast
    · rw [hlength]
      exact mul_le_of_le_one_left hlast hq
  have hmean := mean_bounds hne (fun x hx => hleast.2 hx) (fun x hx => hgreatest.2 hx)
  constructor
  case min_le_p50 =>
    have hlow := hmono le_rfl (show (0 : ℚ) ≤ 1 / 2 by norm_num) (by norm_num)
    rw [zero_mul, ← hmin] at hlow
    exact hlow
  case p50_le_p95 => exact hmono (by norm_num) (by norm_num) (by norm_num)
  case p95_le_p99 => exact hmono (by norm_num) (by norm_num) (by norm_num)
  case p99_le_max =>
    have hhigh := hmono (by norm_num) (show (99 / 100 : ℚ) ≤ 1 by norm_num) le_rfl
    rw [one_mul, ← hmax] at hhigh
    exact hhigh
  case min_le_avg =>
    rw [windowSummary, min?_eq_headD hne]
    exact hmean.1
  case avg_le_max =>
    rw [windowSummary, max?_eq_getLastD hne]
    exact hmean.2

/-! ### The recorder of the server -/

theorem percentileFromSorted_eq (sorted : List ℚ) (percentile : ℚ) :
    percentileFromSorted id sorted percentile =
        interpolate sorted (percentile * (sorted.length - 1 : ℕ)) ∧
      Server.percentileFromSorted sorted percentile =
        interpolate sorted (percentile * (sorted.length - 1 : ℕ)) := by
  rw [percentileFromSorted, Server.percentileFromSorted, interpolate]
  split
  · rename_i hempty
    subst hempty
    simp
  · exact ⟨rfl, rfl⟩

/-- A summary of a list by its sorted copy is the summary of the window. -/
theorem recorder_snapshot_eq (r : Server.LatencyRecorder) :
    r.snapshot = windowSummary r.samplesMs := by
  rw [Server.LatencyRecorder.snapshot]
  split
  · rename_i hempty
    rw [hempty]
    simp [windowSummary, interpolate]
  · rename_i hne
    have hperm := List.perm_insertionSort (· ≤ ·) r.samplesMs
    have hlength : (r.samplesMs.insertionSort (· ≤ ·)).length = r.samplesMs.length :=
      List.length_insertionSort _ _
    have hhalf : (50 / 100 : ℚ) = 1 / 2 := by norm_num
    simp only [windowSummary, (percentileFromSorted_eq _ _).2, min?_eq_headD hne,
      max?_eq_getLastD hne, Option.getD_some, hlength, hhalf, ← List.sum_eq_foldl, hperm.sum_eq]

/-- The queue holds the last samples. -/
theorem foldl_recordMs (maxSamples : ℕ) (hmax : 1 ≤ maxSamples) (values : List ℚ) :
    values.foldl Server.LatencyRecorder.recordMs { maxSamples := maxSamples } =
      { maxSamples := maxSamples, samplesMs := lastOf maxSamples values } := by
  induction values using List.reverseRecOn with
  | nil => rw [List.foldl_nil, lastOf_of_le (Nat.zero_le _)]
  | append_singleton values x ih =>
      rw [List.foldl_append, ih, lastOf_append]
      have hle : (lastOf maxSamples values).length ≤ maxSamples := by
        rw [length_lastOf]
        exact min_le_right _ _
      generalize lastOf maxSamples values = window at hle
      simp only [List.foldl_cons, List.foldl_nil, Server.LatencyRecorder.recordMs, pushRecent]
      by_cases hfull : window.length ≥ maxSamples
      · have hone : window.length + 1 - maxSamples = 1 := by omega
        rw [if_pos hfull, hone, List.drop_append_of_le_length (by omega), List.drop_one]
      · have hzero : window.length + 1 - maxSamples = 0 := by omega
        rw [if_neg hfull, hzero, List.drop_zero]

end

/-! ### The ring of the client -/

/-- The summary without the last sample, which the recorder of the server does not have. -/
def LatencySummary.measured (s : LatencySummary) : Server.LatencySummary where
  count := s.count
  minMs := s.minMs
  avgMs := s.avgMs
  p50Ms := s.p50Ms
  p95Ms := s.p95Ms
  p99Ms := s.p99Ms
  maxMs := s.maxMs

inductive StatsCall
  | record (valueMs : ℚ)
  | snapshot
  | format
  | reset

namespace LatencyStats

/-- `Format`, without the text that it makes of the summary. -/
def format (s : LatencyStats id) : LatencySummary × LatencyStats id :=
  let s := s.refreshSummary true
  (s.cachedSummary, s)

def call (s : LatencyStats id) : StatsCall → LatencyStats id
  | .record valueMs => s.record valueMs
  | .snapshot => s.snapshot.2
  | .format => s.format.2
  | .reset => s.reset

end LatencyStats

/-- The statistics after these calls. -/
def statsAfter (maxSamples snapshotRefreshInterval : ℕ) (calls : List StatsCall) :
    LatencyStats id :=
  calls.foldl LatencyStats.call (.create maxSamples snapshotRefreshInterval)

/-- The samples since the last reset. -/
def recordedSince (calls : List StatsCall) : List ℚ :=
  calls.foldl
    (fun recorded call =>
      match call with
      | .record valueMs => recorded ++ [valueMs]
      | .snapshot | .format => recorded
      | .reset => [])
    []

/-- How many samples the calls record. -/
def recordCount (calls : List StatsCall) : ℕ :=
  calls.countP fun
    | .record _ => true
    | _ => false

/-- The statistics are those of the window, up to a summary that is some samples old. -/
structure TracksWindow (maxSamples interval : ℕ) (calls : List StatsCall) (s : LatencyStats id) :
    Prop where
  maxSamples_eq : s.maxSamples = maxSamples
  interval_eq : s.snapshotRefreshInterval = max 1 interval
  ring : RingHolds maxSamples s.samplesMs s.nextIndex s.sampleCount (recordedSince calls)
  /-- Without a new sample there is nothing pending. -/
  settled : s.dirty = false → s.pendingSnapshotSamples = 0
  /-- The summary is that after some of the calls, as many samples ago as are pending. -/
  cached : s.cachedSummaryValid = true → ∃ earlier later, calls = earlier ++ later ∧
    .reset ∉ later ∧ recordCount later = s.pendingSnapshotSamples ∧
    s.cachedSummary = (statsAfter maxSamples interval earlier).buildSummary
  clean : s.dirty = false → s.cachedSummaryValid = true → s.cachedSummary = s.buildSummary

section

variable {maxSamples interval : ℕ} {calls : List StatsCall} {s : LatencyStats id}

theorem statsAfter_append (maxSamples interval : ℕ) (calls : List StatsCall) (call : StatsCall) :
    statsAfter maxSamples interval (calls ++ [call]) =
      (statsAfter maxSamples interval calls).call call := by
  rw [statsAfter, List.foldl_append]
  rfl

theorem recordedSince_append (calls : List StatsCall) (call : StatsCall) :
    recordedSince (calls ++ [call]) =
      match call with
      | .record valueMs => recordedSince calls ++ [valueMs]
      | .snapshot | .format => recordedSince calls
      | .reset => [] := by
  rw [recordedSince, List.foldl_append]
  rfl

/-- The summary that is built of the ring is the summary of the window. -/
theorem buildSummary_measured (h : TracksWindow maxSamples interval calls s) :
    s.buildSummary.measured = windowSummary (lastOf maxSamples (recordedSince calls)) := by
  have hordered : s.orderedSamples = lastOf maxSamples (recordedSince calls) := by
    rw [LatencyStats.orderedSamples, h.maxSamples_eq, ← h.ring.contents]
    rfl
  have hcount : s.sampleCount = (lastOf maxSamples (recordedSince calls)).length := by
    rw [length_lastOf, h.ring.count_eq]
  rw [LatencyStats.buildSummary, hordered, hcount]
  generalize lastOf maxSamples (recordedSince calls) = window
  by_cases hempty : window.length = 0
  -- without samples the code returns zeros
  · rw [if_pos hempty, List.length_eq_zero_iff.mp hempty]
    simp [windowSummary, interpolate, LatencySummary.measured]
  · have hne : window ≠ [] := fun hnil => hempty (by rw [hnil]; rfl)
    have hlength : (window.insertionSort (· ≤ ·)).length = window.length :=
      List.length_insertionSort _ _
    have hhalf : (50 / 100 : ℚ) = 1 / 2 := by norm_num
    rw [if_neg hempty]
    simp only [LatencySummary.measured, windowSummary, id, (percentileFromSorted_eq _ _).1,
      min?_eq_headD hne, max?_eq_getLastD hne, Option.getD_some, hlength, hhalf,
      ← List.sum_eq_foldl]

theorem tracksWindow_create (maxSamples interval : ℕ) :
    TracksWindow maxSamples interval [] (.create maxSamples interval) where
  maxSamples_eq := rfl
  interval_eq := rfl
  ring := RingHolds.empty maxSamples
  settled _ := rfl
  cached h := by cases h
  clean _ h := by cases h

theorem TracksWindow.record (h : TracksWindow maxSamples interval calls s) (hmax : 1 ≤ maxSamples)
    (valueMs : ℚ) :
    TracksWindow maxSamples interval (calls ++ [.record valueMs]) (s.record valueMs) := by
  have hsome : s.maxSamples ≠ 0 := by
    rw [h.maxSamples_eq]
    omega
  rw [LatencyStats.record, if_neg hsome]
  constructor
  case maxSamples_eq => exact h.maxSamples_eq
  case interval_eq => exact h.interval_eq
  case ring =>
    rw [recordedSince_append]
    simp only [h.maxSamples_eq]
    exact h.ring.write hmax valueMs
  case settled => exact fun hdirty => by cases hdirty
  case cached =>
    intro hvalid
    -- the cached summary is one sample older than before
    obtain ⟨earlier, later, rfl, hreset, hcount, hsummary⟩ := h.cached hvalid
    refine ⟨earlier, later ++ [.record valueMs], by rw [List.append_assoc], ?_, ?_, hsummary⟩
    · rw [List.mem_append, List.mem_singleton]
      exact fun hmem => hmem.elim hreset (by rintro ⟨⟩)
    · rw [recordCount, List.countP_append, ← recordCount, hcount]
      rfl
  case clean => exact fun hdirty => by cases hdirty

theorem TracksWindow.reset (h : TracksWindow maxSamples interval calls s) :
    TracksWindow maxSamples interval (calls ++ [.reset]) s.reset where
  maxSamples_eq := h.maxSamples_eq
  interval_eq := h.interval_eq
  ring := by
    rw [recordedSince_append, LatencyStats.reset, h.ring.length_cells]
    exact RingHolds.empty maxSamples
  settled _ := rfl
  cached hvalid := by cases hvalid
  clean _ hvalid := by cases hvalid

/-- A look at the summary, which may build it anew, changes nothing else. -/
theorem TracksWindow.refresh
    (h : TracksWindow maxSamples interval calls (statsAfter maxSamples interval calls))
    (forceRefresh : Bool) {call : StatsCall} (hcall : call = .snapshot ∨ call = .format) :
    TracksWindow maxSamples interval (calls ++ [call])
      ((statsAfter maxSamples interval calls).refreshSummary forceRefresh) := by
  have hrecorded : recordedSince (calls ++ [call]) = recordedSince calls := by
    rw [recordedSince_append]
    rcases hcall with rfl | rfl <;> rfl
  have hreset : .reset ∉ [call] := by
    rw [List.mem_singleton]
    rcases hcall with rfl | rfl <;> rintro ⟨⟩
  have hnone : recordCount [call] = 0 := by
    rcases hcall with rfl | rfl <;> rfl
  have hkept : TracksWindow maxSamples interval (calls ++ [call])
      (statsAfter maxSamples interval calls) := by
    refine ⟨h.maxSamples_eq, h.interval_eq, hrecorded ▸ h.ring, h.settled, fun hvalid => ?_,
      h.clean⟩
    obtain ⟨earlier, later, heq, hlater, hcount, hsummary⟩ := h.cached hvalid
    refine ⟨earlier, later ++ [call], ?_, ?_, ?_, hsummary⟩
    · conv_lhs => rw [heq, List.append_assoc]
    · exact fun hmem => (List.mem_append.mp hmem).elim hlater hreset
    · rw [recordCount, List.countP_append, ← recordCount, ← recordCount, hcount, hnone,
        Nat.add_zero]
  rw [LatencyStats.refreshSummary]
  split
  · exact hkept
  split
  · exact hkept
  · -- the new summary is that after the calls so far
    refine ⟨h.maxSamples_eq, h.interval_eq, hrecorded ▸ h.ring, fun _ => rfl, fun _ => ?_,
      fun _ _ => rfl⟩
    exact ⟨calls, [call], rfl, hreset, hnone, rfl⟩

theorem tracksWindow_statsAfter (hmax : 1 ≤ maxSamples) (calls : List StatsCall) :
    TracksWindow maxSamples interval calls (statsAfter maxSamples interval calls) := by
  induction calls using List.reverseRecOn with
  | nil => exact tracksWindow_create maxSamples interval
  | append_singleton calls call ih =>
      rw [statsAfter_append]
      cases call with
      | record valueMs => exact ih.record hmax valueMs
      | snapshot => exact ih.refresh false (.inl rfl)
      | format => exact ih.refresh true (.inr rfl)
      | reset => exact ih.reset

/-- A forced refresh leaves the summary of the samples that are there. -/
theorem TracksWindow.format (h : TracksWindow maxSamples interval calls s) :
    s.format.1 = s.buildSummary := by
  rw [LatencyStats.format, LatencyStats.refreshSummary]
  by_cases hclean : (!s.dirty && s.cachedSummaryValid) = true
  · rw [if_pos hclean]
    rw [Bool.and_eq_true, Bool.not_eq_true'] at hclean
    exact h.clean hclean.1 hclean.2
  · rw [if_neg hclean, if_neg (by simp)]

/-- A snapshot is the summary of fewer samples ago than the interval has. -/
theorem TracksWindow.snapshot
    (h : TracksWindow maxSamples interval calls (statsAfter maxSamples interval calls)) :
    ∃ earlier later, calls = earlier ++ later ∧ .reset ∉ later ∧
      recordCount later ≤ max 1 interval - 1 ∧
      (statsAfter maxSamples interval calls).snapshot.1 =
        (statsAfter maxSamples interval earlier).buildSummary := by
  rw [LatencyStats.snapshot, LatencyStats.refreshSummary]
  split
  · rename_i hclean
    rw [Bool.and_eq_true, Bool.not_eq_true'] at hclean
    obtain ⟨earlier, later, heq, hreset, hcount, hsummary⟩ := h.cached hclean.2
    refine ⟨earlier, later, heq, hreset, ?_, hsummary⟩
    rw [hcount, h.settled hclean.1]
    exact Nat.zero_le _
  split
  · rename_i hpending
    simp only [Bool.not_false, Bool.true_and, Bool.and_eq_true, decide_eq_true_eq,
      h.interval_eq] at hpending
    obtain ⟨earlier, later, heq, hreset, hcount, hsummary⟩ := h.cached hpending.1
    exact ⟨earlier, later, heq, hreset, by omega, hsummary⟩
  · exact ⟨calls, [], (List.append_nil _).symm, List.not_mem_nil, Nat.zero_le _, rfl⟩

end

/-- After any calls, a forced refresh gives the summary of the last samples since the last reset.
This is what the recorder of the server makes of these samples, its values are in order, and a
snapshot is the forced summary at a point less than an interval of samples ago. -/
theorem latencyStats_refines (maxSamples interval : ℕ) (hmax : 1 ≤ maxSamples)
    (calls : List StatsCall) :
    (statsAfter maxSamples interval calls).format.1.measured =
        windowSummary (lastOf maxSamples (recordedSince calls)) ∧
      ((recordedSince calls).foldl Server.LatencyRecorder.recordMs
          { maxSamples := maxSamples }).snapshot =
        windowSummary (lastOf maxSamples (recordedSince calls)) ∧
      SummaryInOrder (windowSummary (lastOf maxSamples (recordedSince calls))) ∧
      ∃ earlier later, calls = earlier ++ later ∧ .reset ∉ later ∧
        recordCount later ≤ max 1 interval - 1 ∧
        (statsAfter maxSamples interval calls).snapshot.1 =
          (statsAfter maxSamples interval earlier).format.1 := by
  have htracks := @tracksWindow_statsAfter maxSamples interval hmax
  refine ⟨?_, ?_, windowSummary_inOrder _, ?_⟩
  · rw [(htracks calls).format, buildSummary_measured (htracks calls)]
  · rw [foldl_recordMs maxSamples hmax, recorder_snapshot_eq]
  · obtain ⟨earlier, later, heq, hreset, hcount, hsnapshot⟩ := (htracks calls).snapshot
    exact ⟨earlier, later, heq, hreset, hcount, hsnapshot.trans (htracks earlier).format.symm⟩

/-- A ring of two samples, a summary that is one sample old, and a reset. -/
def shortCalls : List StatsCall :=
  [.record 5, .reset, .record 1, .record 4, .snapshot, .record 2]

theorem shortCalls_refines :
    (statsAfter 2 3 shortCalls).format.1.measured =
        windowSummary (lastOf 2 (recordedSince shortCalls)) ∧
      ((recordedSince shortCalls).foldl Server.LatencyRecorder.recordMs
          { maxSamples := 2 }).snapshot = windowSummary (lastOf 2 (recordedSince shortCalls)) ∧
      SummaryInOrder (windowSummary (lastOf 2 (recordedSince shortCalls))) ∧
      ∃ earlier later, shortCalls = earlier ++ later ∧ .reset ∉ later ∧
        recordCount later ≤ max 1 3 - 1 ∧
        (statsAfter 2 3 shortCalls).snapshot.1 = (statsAfter 2 3 earlier).format.1 :=
  latencyStats_refines 2 3 (by norm_num) shortCalls

/-- The window holds the last two samples, the summary still those before. -/
example : lastOf 2 (recordedSince shortCalls) = [4, 2] ∧
    ((statsAfter 2 3 shortCalls).snapshot.1.minMs,
      (statsAfter 2 3 shortCalls).format.1.minMs) = (1, 2) := by
  decide +kernel

end AvProject.Client
