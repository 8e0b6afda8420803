import Mathlib.Algebra.Order.BigOperators.Group.List
import Mathlib.Algebra.Order.Floor.Ring
import Mathlib.Data.List.GetD
import Mathlib.Data.List.Sort
import Mathlib.Tactic

/-!
Order statistics of a list of samples: values between two ranks of the sorted list are
interpolated linearly, so that they grow with the rank and stay between the extremes.
-/

namespace AvProject.Lib

theorem getD_le_getD {α : Type*} [Preorder α] [Zero α] {values : List α}
    (hsorted : values.Pairwise (· ≤ ·)) {i j : ℕ} (hle : i ≤ j) (hj : j < values.length) :
    values.getD i 0 ≤ values.getD j 0 := by
  have hi : i < values.length := hle.trans_lt hj
  rw [List.getD_eq_getElem _ _ hi, List.getD_eq_getElem _ _ hj]
  rcases hle.eq_or_lt with rfl | hlt
  · exact le_rfl
  · exact List.pairwise_iff_getElem.mp hsorted i j hi hj hlt

variable {K : Type*} [Field K] [LinearOrder K] [IsStrictOrderedRing K] [FloorRing K]

/-- The value at a fractional rank of a sorted list. -/
def interpolate (values : List K) (index : K) : K :=
  let lower := ⌊index⌋.toNat
  let upper := min (lower + 1) (values.length - 1)
  values.getD lower 0 + (values.getD upper 0 - values.getD lower 0) * (index - (lower : K))

section

variable {values : List K} {x y : K}

omit [IsStrictOrderedRing K] in
/-- The rank below a rank, and how far it is away. -/
theorem floor_toNat_bounds (hx : 0 ≤ x) :
    ((⌊x⌋.toNat : ℕ) : K) ≤ x ∧ x < ((⌊x⌋.toNat : ℕ) : K) + 1 := by
  have hcast : ((⌊x⌋.toNat : ℕ) : K) = ((⌊x⌋ : ℤ) : K) := by
    rw [← Int.cast_natCast, Int.toNat_of_nonneg (Int.floor_nonneg.mpr hx)]
  rw [hcast]
  exact ⟨Int.floor_le x, Int.lt_floor_add_one x⟩

theorem floor_toNat_lt (hx : 0 ≤ x) (hlast : x ≤ (values.length - 1 : ℕ)) (hne : values ≠ []) :
    ⌊x⌋.toNat < values.length := by
  have hlength := List.length_pos_of_ne_nil hne
  have hle : ((⌊x⌋.toNat : ℕ) : K) ≤ ((values.length - 1 : ℕ) : K) :=
    (floor_toNat_bounds hx).1.trans hlast
  have hrank : ⌊x⌋.toNat ≤ values.length - 1 := Nat.cast_le.mp hle
  omega

/-- An interpolated value lies between its neighbours. -/
theorem interpolate_bounds (hsorted : values.Pairwise (· ≤ ·)) (hx : 0 ≤ x)
    (hlast : x ≤ (values.length - 1 : ℕ)) (hne : values ≠ []) :
    values.getD ⌊x⌋.toNat 0 ≤ interpolate values x ∧
      interpolate values x ≤ values.getD (min (⌊x⌋.toNat + 1) (values.length - 1)) 0 := by
  have hlower := floor_toNat_lt hx hlast hne
  obtain ⟨hbelow, habove⟩ := floor_toNat_bounds hx
  have hslope : 0 ≤ values.getD (min (⌊x⌋.toNat + 1) (values.length - 1)) 0 -
      values.getD ⌊x⌋.toNat 0 :=
    sub_nonneg.mpr (getD_le_getD hsorted (by omega) (by omega))
  rw [interpolate]
  generalize values.getD (min (⌊x⌋.toNat + 1) (values.length - 1)) 0 = above at hslope ⊢
  generalize values.getD ⌊x⌋.toNat 0 = below at hslope ⊢
  have hfraction : 0 ≤ x - (⌊x⌋.toNat : K) := sub_nonneg.mpr hbelow
  have hwhole : x - (⌊x⌋.toNat : K) ≤ 1 := by linarith
  constructor
  · exact le_add_of_nonneg_right (mul_nonneg hslope hfraction)
  · calc below + (above - below) * (x - (⌊x⌋.toNat : K))
        ≤ below + (above - below) * 1 := by gcongr
      _ = above := by ring

/-- The values grow with the rank. -/
theorem interpolate_mono (hsorted : values.Pairwise (· ≤ ·)) (hx : 0 ≤ x) (hxy : x ≤ y)
    (hlast : y ≤ (values.length - 1 : ℕ)) (hne : values ≠ []) :
    interpolate values x ≤ interpolate values y := by
  have hy : 0 ≤ y := hx.trans hxy
  have hranks : ⌊x⌋.toNat ≤ ⌊y⌋.toNat := Int.toNat_le_toNat (Int.floor_le_floor hxy)
  have hupper := floor_toNat_lt hy hlast hne
  rcases hranks.eq_or_lt with hsame | hlt
  · -- between the same two ranks the value grows linearly
    have hslope : 0 ≤ values.getD (min (⌊y⌋.toNat + 1) (values.length - 1)) 0 -
        values.getD ⌊y⌋.toNat 0 :=
      sub_nonneg.mpr (getD_le_getD hsorted (by omega) (by omega))
    rw [interpolate, interpolate, hsame]
    gcongr
  · calc interpolate values x
        ≤ values.getD (min (⌊x⌋.toNat + 1) (values.length - 1)) 0 :=
          (interpolate_bounds hsorted hx (hxy.trans hlast) hne).2
      _ ≤ values.getD ⌊y⌋.toNat 0 := getD_le_getD hsorted (by omega) hupper
      _ ≤ interpolate values y := (interpolate_bounds hsorted hy hlast hne).1

theorem interpolate_zero (values : List K) : interpolate values 0 = values.getD 0 0 := by
  simp [interpolate]

theorem interpolate_last (values : List K) :
    interpolate values (values.length - 1 : ℕ) = values.getD (values.length - 1) 0 := by
  simp [interpolate]

end

/-- The mean lies between bounds of the samples. -/
theorem mean_bounds {samples : List K} {least greatest : K} (hne : samples ≠ [])
    (hleast : ∀ x ∈ samples, least ≤ x) (hgreatest : ∀ x ∈ samples, x ≤ greatest) :
    least ≤ samples.sum / (samples.length : K) ∧
      samples.sum / (samples.length : K) ≤ greatest := by
  have hlength : (0 : K) < samples.length := by
    exact_mod_cast List.length_pos_of_ne_nil hne
  constructor
  · rw [le_div_iff₀ hlength, mul_comm, ← nsmul_eq_mul]
    exact List.card_nsmul_le_sum samples least hleast
  · rw [div_le_iff₀ hlength, mul_comm, ← nsmul_eq_mul]
    exact List.sum_le_card_nsmul samples greatest hgreatest

/-- The first and the last of the sorted samples are the smallest and the largest. -/
theorem insertionSort_extremes {α : Type*} [LinearOrder α] {samples : List α} (hne : samples ≠ [])
    (default : α) :
    IsLeast {x | x ∈ samples} ((samples.insertionSort (· ≤ ·)).headD default) ∧
      IsGreatest {x | x ∈ samples} ((samples.insertionSort (· ≤ ·)).getLastD default) := by
  have hperm := List.perm_insertionSort (· ≤ ·) samples
  have hsorted := List.pairwise_insertionSort (· ≤ ·) samples
  have hmem (x : α) : x ∈ samples.insertionSort (· ≤ ·) ↔ x ∈ samples := hperm.mem_iff
  have hsome : samples.insertionSort (· ≤ ·) ≠ [] := by
    intro hnil
    rw [hnil] at hperm
    exact hne hperm.symm.eq_nil
  simp only [← hmem]
  generalize samples.insertionSort (· ≤ ·) = sorted at hsorted hsome
  constructor
  · cases sorted with
    | nil => exact absurd rfl hsome
    | cons x rest =>
        refine ⟨List.mem_cons_self, fun y hy => ?_⟩
        rcases List.mem_cons.mp hy with rfl | hy
        · exact le_rfl
        · exact List.rel_of_pairwise_cons hsorted hy
  · obtain ⟨front, last, rfl⟩ := List.eq_nil_or_concat sorted |>.resolve_left hsome
    rw [List.concat_eq_append] at hsorted ⊢
    rw [List.getLastD_concat]
    refine ⟨List.mem_append_right _ List.mem_cons_self, fun y hy => ?_⟩
    rcases List.mem_append.mp hy with hy | hy
    · exact (List.pairwise_append.mp hsorted).2.2 y hy last List.mem_cons_self
    · exact (List.mem_singleton.mp hy).le

end AvProject.Lib
