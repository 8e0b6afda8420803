import AvProject.Server.ConfigLoader

/-!
The options of the configuration that are sizes, and what the file says about them.
-/

namespace AvProject.Server

open AvProject.Lib

/-- The option that a line sets, if it is a size, and the text of its value. -/
def sizeLine (line : List Char) : Option (SizeKey × List Char) :=
  match readConfigLine line with
  | .assignment key value =>
      match settingOf key with
      | some (.size _ size) => some (size, value)
      | _ => none
  | _ => none

/-- The last value of each option is the number that stands there, and every value is a number
that can be stored. -/
structure SizesAsWritten (contents : List Char) (config : AppConfig) : Prop where
  stored : ∀ earlier line later key value, getlines contents = earlier ++ line :: later →
    sizeLine line = some (key, value) →
    (∀ other ∈ later, ∀ otherValue, sizeLine other ≠ some (key, otherValue)) →
    ∃ n : ℕ, Denotes value n ∧ config.size key = n
  rejected : ∀ line ∈ getlines contents, ∀ key value, sizeLine line = some (key, value) →
    ∃ n : ℕ, Denotes value n ∧ n < 2 ^ 64

/-- No option that is a size has a value with a minus sign before a number other than zero. -/
def NoSizeNegative (contents : List Char) : Prop :=
  ∀ line ∈ getlines contents, ∀ key value, sizeLine line = some (key, value) →
    ¬ MarkedNegative value

instance (contents : List Char) : Decidable (NoSizeNegative contents) :=
  decidable_of_iff
    (((getlines contents).all fun line =>
      (sizeLine line).all fun entry => !decide (MarkedNegative entry.2)) = true) <| by
    rw [List.all_eq_true, NoSizeNegative]
    refine forall₂_congr fun line _ => ?_
    cases sizeLine line with
    | none => simp
    | some entry =>
        rcases entry with ⟨key, value⟩
        simp

/-! ### Settings -/

/-- The setting has no part in the sizes. -/
def Setting.KeepsSizes : Setting → Prop
  | .text set => ∀ loaded value, (set loaded value).size = loaded.size
  | .int _ set => ∀ loaded value, (set loaded value).size = loaded.size
  | .bool _ set => ∀ loaded value, (set loaded value).size = loaded.size
  | .size _ _ => True

theorem settings_keepSizes : settings.Forall fun entry => entry.2.KeepsSizes := by
  repeat' apply And.intro
  all_goals first | exact trivial | exact fun _ _ => rfl

theorem settingOf_keepsSizes {key : List Char} {setting : Setting}
    (h : settingOf key = some setting) : setting.KeepsSizes := by
  obtain ⟨entry, hentry, rfl⟩ := Option.map_eq_some_iff.mp h
  exact List.forall_iff_forall_mem.mp settings_keepSizes entry (List.mem_of_find?_eq_some hentry)

/-! ### Lines -/

section

variable {lineNumber : ℕ} {line : List Char} {lines : List (List Char)} {key : SizeKey}
  {value : List Char} {loaded next config : AppConfig}

theorem map_orInvalid {α : Type} {result : Option α} {what : String} {set : α → AppConfig}
    (h : (orInvalid result what lineNumber).map set = .ok next) :
    ∃ value, result = some value ∧ next = set value := by
  cases result with
  | none => cases h
  | some value =>
      cases h
      exact ⟨value, rfl, rfl⟩

/-- A setting that is no size. -/
theorem apply_size {setting : Setting} (hkeeps : setting.KeepsSizes)
    (hother : ∀ what key, setting ≠ .size what key)
    (h : setting.apply lineNumber value loaded = .ok next) : next.size = loaded.size := by
  cases setting with
  | text set =>
      cases h
      exact hkeeps loaded _
  | int what set =>
      obtain ⟨n, -, rfl⟩ := map_orInvalid h
      exact hkeeps loaded n
  | bool what set =>
      obtain ⟨b, -, rfl⟩ := map_orInvalid h
      exact hkeeps loaded b
  | size what key => exact absurd rfl (hother what key)

theorem trim_of_assignment {name value : List Char}
    (h : readConfigLine line = .assignment name value) : trim value = value := by
  rw [readConfigLine] at h
  split at h
  · cases h
  · split at h
    · cases h
    · cases h
      exact trim_trim _

/-- A line either sets the size that its value has been read as, or it sets no size. -/
theorem applyLine_sizes (h : applyLine lineNumber line loaded = .ok next) :
    (∃ key value size, sizeLine line = some (key, value) ∧ trim value = value ∧
        parseSize value = some size ∧ next = loaded.setSize size key) ∨
      (sizeLine line = none ∧ next.size = loaded.size) := by
  rw [applyLine] at h
  rw [sizeLine]
  cases hline : readConfigLine line with
  | skipped =>
      rw [hline] at h
      cases h
      exact .inr ⟨rfl, rfl⟩
  | malformed =>
      rw [hline] at h
      cases h
  | assignment name value =>
      rw [hline] at h
      simp only at h ⊢
      cases hsetting : settingOf name with
      | none =>
          rw [hsetting] at h
          cases h
      | some setting =>
          rw [hsetting] at h
          simp only at h ⊢
          have hkeeps := settingOf_keepsSizes hsetting
          cases setting with
          | size what key =>
              obtain ⟨size, hsize, rfl⟩ := map_orInvalid h
              exact .inl ⟨key, value, size, rfl, trim_of_assignment hline, hsize, rfl⟩
          | text set => exact .inr ⟨rfl, apply_size hkeeps (fun _ _ heq => by cases heq) h⟩
          | int what set => exact .inr ⟨rfl, apply_size hkeeps (fun _ _ heq => by cases heq) h⟩
          | bool what set => exact .inr ⟨rfl, apply_size hkeeps (fun _ _ heq => by cases heq) h⟩

theorem loadLines_cons (h : loadLines lineNumber loaded (line :: lines) = .ok config) :
    ∃ next, applyLine (lineNumber + 1) line loaded = .ok next ∧
      loadLines (lineNumber + 1) next lines = .ok config :=
  bind_eq_ok.mp h

/-- Lines that do not set a size leave it as it is. -/
theorem loadLines_keeps (hother : ∀ other ∈ lines, ∀ value, sizeLine other ≠ some (key, value))
    (h : loadLines lineNumber loaded lines = .ok config) : config.size key = loaded.size key := by
  induction lines generalizing lineNumber loaded with
  | nil =>
      cases h
      rfl
  | cons line lines ih =>
      obtain ⟨next, hline, hrest⟩ := loadLines_cons h
      rw [List.forall_mem_cons] at hother
      rw [ih hother.2 hrest]
      rcases applyLine_sizes hline with ⟨other, value, size, hsize, -, -, rfl⟩ | ⟨-, hsizes⟩
      · rw [AppConfig.size_setSize, if_neg]
        rintro rfl
        exact hother.1 value hsize
      · rw [hsizes]

/-- Every value of a size has been read, and the last one is kept. -/
theorem loadLines_sizes {earlier later : List (List Char)}
    (hline : sizeLine line = some (key, value))
    (h : loadLines lineNumber loaded (earlier ++ line :: later) = .ok config) :
    ∃ size, trim value = value ∧ parseSize value = some size ∧
      ((∀ other ∈ later, ∀ value, sizeLine other ≠ some (key, value)) →
        config.size key = size) := by
  induction earlier generalizing lineNumber loaded with
  | nil =>
      obtain ⟨next, hnext, hrest⟩ := loadLines_cons h
      -- the line itself; the lines behind it keep what it sets
      rcases applyLine_sizes hnext with ⟨key', value', size, hsize, htrim, hparse, rfl⟩ | ⟨hno, -⟩
      · rw [hline] at hsize
        cases hsize
        refine ⟨size, htrim, hparse, fun hother => ?_⟩
        rw [loadLines_keeps hother hrest, AppConfig.size_setSize, if_pos rfl]
      · rw [hline] at hno
        cases hno
  | cons first earlier ih =>
      obtain ⟨next, -, hrest⟩ := loadLines_cons h
      exact ih hrest

end

/-! ### Values -/

theorem toTheEnd_eq_some {α : Type*} {result : Option (α × List Char)} {value : α} :
    toTheEnd result = some value ↔ result = some (value, []) := by
  constructor
  · intro h
    rw [toTheEnd.eq_def] at h
    split at h
    · cases h
      rfl
    · cases h
  · rintro rfl
    rfl

/-- A value without a minus sign is stored as it is, one with a minus sign as its complement. -/
theorem parseSize_eq_some {value : List Char} {size : ℕ} (htrim : trim value = value) :
    parseSize value = some size ↔
      ∃ n, Denotes value n ∧ n.natAbs < 2 ^ 64 ∧ size = (n % 2 ^ 64).toNat := by
  rw [parseSize, toTheEnd_eq_some, htrim]
  exact readSize_eq_some

theorem exists_denotes {value : List Char} {size : ℕ} (htrim : trim value = value)
    (h : parseSize value = some size) (hmarked : ¬ MarkedNegative value) :
    Denotes value size ∧ size < 2 ^ 64 := by
  obtain ⟨n, hn, hbound, rfl⟩ := (parseSize_eq_some htrim).mp h
  have hnonneg : 0 ≤ n := not_lt.mp fun hneg => hmarked (hn.neg_iff.mp hneg)
  have hvalue : ((n % 2 ^ 64).toNat : ℤ) = n := by
    rw [Int.emod_eq_of_lt hnonneg (by omega), Int.toNat_of_nonneg hnonneg]
  rw [hvalue]
  exact ⟨hn, by omega⟩

/-- The file is taken at its word exactly if no size in it is negative. -/
theorem sizesAsWritten_iff {filePath : String} {contents : List Char} {config : AppConfig}
    (h : loadFromFile filePath (some contents) = .ok config) :
    SizesAsWritten contents config ↔ NoSizeNegative contents := by
  obtain ⟨loaded, hload, hrest⟩ := bind_eq_ok.mp h
  obtain ⟨-, -, hconfig⟩ := bind_eq_ok.mp hrest
  obtain rfl : loaded = config := Except.ok.inj hconfig
  constructor
  · intro hwritten line hline key value hsize hmarked
    obtain ⟨n, hn, -⟩ := hwritten.rejected line hline key value hsize
    -- a natural number is not written with a minus sign
    have hneg := hn.neg_iff.mpr hmarked
    omega
  · intro hno
    constructor
    · intro earlier line later key value hlines hsize hlast
      have hmarked := hno line (hlines ▸ List.mem_append_right _ List.mem_cons_self) key value hsize
      rw [hlines] at hload
      obtain ⟨size, htrim, hparse, hstored⟩ := loadLines_sizes hsize hload
      exact ⟨size, (exists_denotes htrim hparse hmarked).1, hstored hlast⟩
    · intro line hline key value hsize
      obtain ⟨earlier, later, hlines⟩ := List.append_of_mem hline
      rw [hlines] at hload
      obtain ⟨size, htrim, hparse, -⟩ := loadLines_sizes hsize hload
      exact ⟨size, exists_denotes htrim hparse (hno line hline key value hsize)⟩

/-- A queue that may hold less than no frame. -/
def minusOne : List Char := "transport.max_pending_frames = -1\n".toList

theorem not_sizesAsWritten_minusOne :
    ∃ config, loadFromFile "sserver.conf" (some minusOne) = .ok config ∧
      config.transport.maxPendingFrames = 2 ^ 64 - 1 ∧ ¬ SizesAsWritten minusOne config := by
  refine ⟨{ transport := { maxPendingFrames := 2 ^ 64 - 1 } }, rfl, rfl, fun hwritten => ?_⟩
  obtain ⟨n, hn, -⟩ := hwritten.rejected "transport.max_pending_frames = -1".toList
    (by decide) .maxPendingFrames "-1".toList rfl
  have hneg := hn.neg_iff.mpr (by decide)
  omega

/-- Two values for one key, the second of which counts. -/
def twoValues : List Char :=
  "transport.max_pending_frames = 16\ntransport.max_pending_frames = 8\n".toList

theorem twoValues_sizesAsWritten :
    SizesAsWritten twoValues { transport := { maxPendingFrames := 8 } } :=
  (sizesAsWritten_iff (show loadFromFile "sserver.conf" (some twoValues) = .ok _ from rfl)).mpr
    (by decide)

end AvProject.Server
