import AvProject.Client.AdaptiveJitterBuffer

/-!
The parameters of the adaptive controller. The measurements put the network on one of four
levels, from the smallest buffer to the largest. Each level scales the configured maximum wait
and the configured number of frames by its own factor and with its own lower clamp, so that it
depends on what is configured whether a worse level has the larger buffer.
-/

namespace AvProject.Client

/-- The place of a quality in the order from the best network to the worst. -/
def NetworkQuality.severity : NetworkQuality → ℕ
  | .kExcellent => 0
  | .kGood => 1
  | .kFair => 2
  | .kPoor => 3

/-- The quality that the 95th percentile of the jitter, the loss and the skips amount to. -/
def qualityOf (p95Ms lossPercent skipPercent : ℚ) : NetworkQuality :=
  if p95Ms > 50 ∨ lossPercent > 1 ∨ skipPercent > 5 then .kPoor
  else if p95Ms > 10 ∨ lossPercent > 1 / 10 ∨ skipPercent > 1 then .kFair
  else if p95Ms > 1 ∨ lossPercent > 1 / 100 then .kGood
  else .kExcellent

/-- Of two networks, the one that is worse in every respect is on the worse level. -/
theorem severity_qualityOf_le {p95Ms p95Ms' lossPercent lossPercent' skipPercent skipPercent' : ℚ}
    (hp95 : p95Ms ≤ p95Ms') (hloss : lossPercent ≤ lossPercent')
    (hskip : skipPercent ≤ skipPercent') :
    (qualityOf p95Ms lossPercent skipPercent).severity ≤
      (qualityOf p95Ms' lossPercent' skipPercent').severity := by
  have hpoor : p95Ms > 50 ∨ lossPercent > 1 ∨ skipPercent > 5 →
      p95Ms' > 50 ∨ lossPercent' > 1 ∨ skipPercent' > 5 :=
    Or.imp hp95.trans_lt' (Or.imp hloss.trans_lt' hskip.trans_lt')
  have hfair : p95Ms > 10 ∨ lossPercent > 1 / 10 ∨ skipPercent > 1 →
      p95Ms' > 10 ∨ lossPercent' > 1 / 10 ∨ skipPercent' > 1 :=
    Or.imp hp95.trans_lt' (Or.imp hloss.trans_lt' hskip.trans_lt')
  have hgood : p95Ms > 1 ∨ lossPercent > 1 / 100 → p95Ms' > 1 ∨ lossPercent' > 1 / 100 :=
    Or.imp hp95.trans_lt' hloss.trans_lt'
  have hle (q : NetworkQuality) : q.severity ≤ NetworkQuality.kPoor.severity := by
    cases q <;> simp [NetworkQuality.severity]
  have hzero (q : NetworkQuality) : NetworkQuality.kExcellent.severity ≤ q.severity :=
    Nat.zero_le _
  rw [qualityOf, qualityOf]
  by_cases hpoor' : p95Ms' > 50 ∨ lossPercent' > 1 ∨ skipPercent' > 5
  · rw [if_pos hpoor']
    exact hle _
  rw [if_neg hpoor', if_neg fun h => hpoor' (hpoor h)]
  by_cases hfair' : p95Ms' > 10 ∨ lossPercent' > 1 / 10 ∨ skipPercent' > 1
  · rw [if_pos hfair']
    split_ifs <;> simp [NetworkQuality.severity]
  rw [if_neg hfair', if_neg fun h => hfair' (hfair h)]
  by_cases hgood' : p95Ms' > 1 ∨ lossPercent' > 1 / 100
  · rw [if_pos hgood']
    split_ifs <;> simp [NetworkQuality.severity]
  rw [if_neg fun h => hgood' (hgood h)]
  exact hzero _

namespace AdaptiveJitterBufferConfig

variable (config : AdaptiveJitterBufferConfig)

/-- The maximum wait of a level. -/
def maxWaitMs : NetworkQuality → ℤ
  | .kExcellent => max 20 (config.baseMaxWaitMs.tdiv 4)
  | .kGood => config.baseMaxWaitMs.tdiv 2
  | .kFair => config.baseMaxWaitMs
  | .kPoor => config.baseMaxWaitMs * 3

/-- The number of frames of a level. -/
def maxFrames : NetworkQuality → ℕ
  | .kExcellent => max 2 (config.baseMaxFrames / 4)
  | .kGood => max 4 (config.baseMaxFrames / 2)
  | .kFair => config.baseMaxFrames
  | .kPoor => config.baseMaxFrames * 4 % 2 ^ 64

end AdaptiveJitterBufferConfig

namespace AdaptiveJitterBuffer

variable (b : AdaptiveJitterBuffer id)

theorem assessNetworkQuality_eq (lossPercent skipPercent : ℚ) :
    b.assessNetworkQuality lossPercent skipPercent =
      { b.snapshot.2 with
        networkQuality := qualityOf b.jitterP95Ms lossPercent skipPercent } := by
  simp only [assessNetworkQuality, qualityOf, id]
  split_ifs <;> rfl

theorem applyQualityParams_eq : b.applyQualityParams =
    { b with
      currentMaxWaitMs := b.config.maxWaitMs b.networkQuality
      currentMaxFrames := b.config.maxFrames b.networkQuality } := by
  rw [applyQualityParams]
  cases hquality : b.networkQuality <;>
    simp only [AdaptiveJitterBufferConfig.maxWaitMs, AdaptiveJitterBufferConfig.maxFrames]

/-- The controller after `assessNetworkQuality` and `applyQualityParams`. -/
def selectParams (lossPercent skipPercent : ℚ) : AdaptiveJitterBuffer id :=
  (b.assessNetworkQuality lossPercent skipPercent).applyQualityParams

theorem selectParams_currentMaxWaitMs (lossPercent skipPercent : ℚ) :
    (b.selectParams lossPercent skipPercent).currentMaxWaitMs =
      b.config.maxWaitMs (qualityOf b.jitterP95Ms lossPercent skipPercent) := by
  rw [selectParams, applyQualityParams_eq, assessNetworkQuality_eq]
  rfl

theorem selectParams_currentMaxFrames (lossPercent skipPercent : ℚ) :
    (b.selectParams lossPercent skipPercent).currentMaxFrames =
      b.config.maxFrames (qualityOf b.jitterP95Ms lossPercent skipPercent) := by
  rw [selectParams, applyQualityParams_eq, assessNetworkQuality_eq]
  rfl

end AdaptiveJitterBuffer

/-- With this configuration, a network that is worse in every respect gets no smaller buffer. -/
def WorseNeverSmaller (config : AdaptiveJitterBufferConfig) : Prop :=
  ∀ b b' : AdaptiveJitterBuffer id, b.config = config → b'.config = config →
    b.jitterP95Ms ≤ b'.jitterP95Ms →
    ∀ lossPercent lossPercent', lossPercent ≤ lossPercent' →
    ∀ skipPercent skipPercent', skipPercent ≤ skipPercent' →
      (b.selectParams lossPercent skipPercent).currentMaxWaitMs ≤
          (b'.selectParams lossPercent' skipPercent').currentMaxWaitMs ∧
        (b.selectParams lossPercent skipPercent).currentMaxFrames ≤
          (b'.selectParams lossPercent' skipPercent').currentMaxFrames

/-- A loss that puts a network without jitter and skips on this level. -/
def NetworkQuality.lossPercent : NetworkQuality → ℚ
  | .kExcellent => 0
  | .kGood => 1 / 20
  | .kFair => 1 / 2
  | .kPoor => 2

theorem qualityOf_lossPercent (q : NetworkQuality) : qualityOf 0 q.lossPercent 0 = q := by
  cases q <;> norm_num [qualityOf, NetworkQuality.lossPercent]

theorem lossPercent_le {q q' : NetworkQuality} (h : q.severity ≤ q'.severity) :
    q.lossPercent ≤ q'.lossPercent := by
  revert h
  cases q <;> cases q' <;> norm_num [NetworkQuality.severity, NetworkQuality.lossPercent]

/-- Every level can be reached, so the parameters of the levels decide. -/
theorem worseNeverSmaller_iff_levels (config : AdaptiveJitterBufferConfig) :
    WorseNeverSmaller config ↔ ∀ q q' : NetworkQuality, q.severity ≤ q'.severity →
      config.maxWaitMs q ≤ config.maxWaitMs q' ∧ config.maxFrames q ≤ config.maxFrames q' := by
  constructor
  · intro h q q' hle
    -- a loss alone decides the level of a controller without jitter
    let quiet : AdaptiveJitterBuffer id := { config := config }
    have hp95 : quiet.jitterP95Ms = 0 := rfl
    have hquiet := h quiet quiet rfl rfl le_rfl q.lossPercent q'.lossPercent (lossPercent_le hle)
      0 0 le_rfl
    rw [quiet.selectParams_currentMaxWaitMs, quiet.selectParams_currentMaxWaitMs,
      quiet.selectParams_currentMaxFrames, quiet.selectParams_currentMaxFrames, hp95,
      qualityOf_lossPercent, qualityOf_lossPercent] at hquiet
    exact hquiet
  · intro h b b' hconfig hconfig' hp95 lossPercent lossPercent' hloss skipPercent skipPercent' hskip
    rw [b.selectParams_currentMaxWaitMs, b'.selectParams_currentMaxWaitMs,
      b.selectParams_currentMaxFrames, b'.selectParams_currentMaxFrames, hconfig, hconfig']
    exact h _ _ (severity_qualityOf_le hp95 hloss hskip)

/-- Four times the number of frames is not below it, where `size_t` wraps. -/
theorem quadruple_le_iff {frames : ℕ} (hframes : frames < 2 ^ 64) :
    frames ≤ frames * 4 % 2 ^ 64 ↔
      frames < 2 ^ 62 ∨ 2 ^ 64 ≤ 3 * frames ∧ frames < 2 ^ 63 ∨
        2 ^ 65 ≤ 3 * frames ∧ frames < 3 * 2 ^ 62 := by
  omega

/-- The waits of the levels are in order from 40 ms on. -/
theorem maxWaitMs_ordered_iff {config : AdaptiveJitterBufferConfig}
    (hwait : 0 ≤ config.baseMaxWaitMs) :
    (∀ q q' : NetworkQuality, q.severity ≤ q'.severity →
      config.maxWaitMs q ≤ config.maxWaitMs q') ↔ 40 ≤ config.baseMaxWaitMs := by
  have hquarter : config.baseMaxWaitMs.tdiv 4 = config.baseMaxWaitMs / 4 :=
    Int.tdiv_eq_ediv_of_nonneg hwait
  have hhalf : config.baseMaxWaitMs.tdiv 2 = config.baseMaxWaitMs / 2 :=
    Int.tdiv_eq_ediv_of_nonneg hwait
  constructor
  · intro h
    -- the level next to the best has no lower clamp
    have hgood : max 20 (config.baseMaxWaitMs.tdiv 4) ≤ config.baseMaxWaitMs.tdiv 2 :=
      h .kExcellent .kGood (by decide)
    omega
  · intro h q q' hle
    cases q <;> cases q' <;>
      simp only [NetworkQuality.severity, AdaptiveJitterBufferConfig.maxWaitMs] at hle ⊢ <;> omega

/-- The numbers of frames of the levels are in order from 4 on, if four times as many fit. -/
theorem maxFrames_ordered_iff (config : AdaptiveJitterBufferConfig) :
    (∀ q q' : NetworkQuality, q.severity ≤ q'.severity →
      config.maxFrames q ≤ config.maxFrames q') ↔
      4 ≤ config.baseMaxFrames ∧
        config.baseMaxFrames ≤ config.baseMaxFrames * 4 % 2 ^ 64 := by
  constructor
  · intro h
    have hfair : max 4 (config.baseMaxFrames / 2) ≤ config.baseMaxFrames :=
      h .kGood .kFair (by decide)
    exact ⟨(le_max_left _ _).trans hfair, h .kFair .kPoor (by decide)⟩
  · rintro ⟨hframes, hpoor⟩ q q' hle
    cases q <;> cases q' <;>
      simp only [NetworkQuality.severity, AdaptiveJitterBufferConfig.maxFrames] at hle ⊢ <;> omega

/-- A worse network never gets a smaller buffer exactly if 40 ms and 4 frames or more are
configured, and not so many frames that four times their number wraps below it. -/
theorem worseNeverSmaller_iff (config : AdaptiveJitterBufferConfig)
    (hwait : 0 ≤ config.baseMaxWaitMs) (hframes : config.baseMaxFrames < 2 ^ 64) :
    WorseNeverSmaller config ↔
      40 ≤ config.baseMaxWaitMs ∧ 4 ≤ config.baseMaxFrames ∧
        (config.baseMaxFrames < 2 ^ 62 ∨
          2 ^ 64 ≤ 3 * config.baseMaxFrames ∧ config.baseMaxFrames < 2 ^ 63 ∨
          2 ^ 65 ≤ 3 * config.baseMaxFrames ∧ config.baseMaxFrames < 3 * 2 ^ 62) := by
  rw [worseNeverSmaller_iff_levels, ← quadruple_le_iff hframes, ← maxFrames_ordered_iff,
    ← maxWaitMs_ordered_iff hwait]
  exact ⟨fun h => ⟨fun q q' hle => (h q q' hle).1, fun q q' hle => (h q q' hle).2⟩,
    fun h q q' hle => ⟨h.1 q q' hle, h.2 q q' hle⟩⟩

theorem worseNeverSmaller_default : WorseNeverSmaller {} ↔
    (40 : ℤ) ≤ 80 ∧ 4 ≤ 8 ∧ (8 < 2 ^ 62 ∨ 2 ^ 64 ≤ 3 * 8 ∧ 8 < 2 ^ 63 ∨
      2 ^ 65 ≤ 3 * 8 ∧ 8 < 3 * 2 ^ 62) :=
  worseNeverSmaller_iff {} (by decide) (by decide)

/-- With 30 ms, the best network waits for 20 ms and the next one for 15 ms. -/
theorem not_worseNeverSmaller_thirty : ¬ WorseNeverSmaller { baseMaxWaitMs := 30 } := by
  intro h
  have hgood := ((worseNeverSmaller_iff_levels _).mp h .kExcellent .kGood (by decide)).1
  revert hgood
  decide

end AvProject.Client
