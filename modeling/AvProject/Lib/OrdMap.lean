import Mathlib.Data.List.Basic
import Mathlib.Tactic
import Std.Data.ExtTreeMap

/-!
Finite maps ordered by a natural-number key, iterated in ascending key order.
The representation is the extensional tree map of the standard library; this
module adds the reading of its first entry and the forms of the lookup lemmas
used with `simp`.
-/

namespace AvProject.Lib

/-- A finite map from natural-number keys, ordered by key. -/
abbrev OrdMap (α : Type) := Std.ExtTreeMap ℕ α compare

namespace OrdMap

variable {α : Type}

@[simp] theorem getElem?_insert (m : OrdMap α) (k k' : ℕ) (v : α) :
    (m.insert k v)[k']? = if k = k' then some v else m[k']? := by
  simp [Std.ExtTreeMap.getElem?_insert]

@[simp] theorem getElem?_erase (m : OrdMap α) (k k' : ℕ) :
    (m.erase k)[k']? = if k = k' then none else m[k']? := by
  simp [Std.ExtTreeMap.getElem?_erase]

@[simp] theorem getElem?_filter (m : OrdMap α) (f : ℕ → α → Bool) (k : ℕ) :
    (m.filter f)[k]? = m[k]?.filter (f k) :=
  Std.ExtTreeMap.getElem?_filter'

theorem mem_iff {m : OrdMap α} {k : ℕ} : k ∈ m ↔ ∃ v, m[k]? = some v := by
  rw [Std.ExtTreeMap.mem_iff_isSome_getElem?, Option.isSome_iff_exists]

theorem not_mem_iff {m : OrdMap α} {k : ℕ} : k ∉ m ↔ m[k]? = none := by
  rw [Std.ExtTreeMap.mem_iff_isSome_getElem?, Option.not_isSome_iff_eq_none]

theorem getElem?_eq_none {m : OrdMap α} {k : ℕ} (h : k ∉ m) : m[k]? = none := not_mem_iff.mp h

theorem ext {m m' : OrdMap α} (h : ∀ k : ℕ, m[k]? = m'[k]?) : m = m' :=
  Std.ExtTreeMap.ext_getElem? h

theorem mem_toList {m : OrdMap α} {k : ℕ} {v : α} :
    (k, v) ∈ m.toList ↔ m[k]? = some v :=
  Std.ExtTreeMap.mem_toList_iff_getElem?_eq_some

/-- The entry with the smallest key. -/
def front? (m : OrdMap α) : Option (ℕ × α) := m.toList.head?

theorem front?_eq_none {m : OrdMap α} : front? m = none ↔ m = ∅ := by
  simp [front?]

/-- The first entry is stored under the smallest key. -/
theorem front?_eq_some {m : OrdMap α} {k : ℕ} {v : α} (h : front? m = some (k, v)) :
    m[k]? = some v ∧ ∀ k' v', m[k']? = some v' → k ≤ k' := by
  obtain ⟨rest, hrest⟩ : ∃ rest, m.toList = (k, v) :: rest := by
    rw [front?] at h
    exact List.head?_eq_some_iff.mp h
  have hsorted := Std.ExtTreeMap.ordered_keys_toList (t := m)
  rw [hrest] at hsorted
  refine ⟨mem_toList.mp (hrest ▸ List.mem_cons_self), fun k' v' hk' => ?_⟩
  have hmem : (k', v') ∈ (k, v) :: rest := hrest ▸ mem_toList.mpr hk'
  rcases List.mem_cons.mp hmem with heq | hin
  · simp_all
  · have hlt := List.rel_of_pairwise_cons hsorted hin
    exact (Nat.compare_eq_lt.mp hlt).le

/-! ### The keys -/

theorem mem_keys {m : OrdMap α} {k : ℕ} : k ∈ m.keys ↔ ∃ v, m[k]? = some v := by
  rw [Std.ExtTreeMap.mem_keys, mem_iff]

theorem pairwise_keys (m : OrdMap α) : m.keys.Pairwise (· < ·) :=
  (Std.ExtTreeMap.ordered_keys (t := m)).imp Nat.compare_eq_lt.mp

theorem forall_keys_iff {m : OrdMap α} {P : ℕ → Prop} :
    (∀ k ∈ m.keys, P k) ↔ ∀ (k : ℕ) v, m[k]? = some v → P k := by
  simp only [mem_keys, forall_exists_index]

/-- The keys from `first` on leave no gap. -/
theorem keys_consecutive_iff {m : OrdMap α} {first : ℕ} :
    m.keys.filter (first ≤ ·) = List.range' first (m.keys.filter (first ≤ ·)).length ↔
      ∃ count, ∀ k : ℕ, first ≤ k → (m[k]?.isSome = true ↔ k < first + count) := by
  have hmem (k : ℕ) : k ∈ m.keys.filter (first ≤ ·) ↔ m[k]?.isSome = true ∧ first ≤ k := by
    rw [List.mem_filter, mem_keys, ← Option.isSome_iff_exists, decide_eq_true_iff]
  constructor
  · intro heq
    generalize (m.keys.filter (first ≤ ·)).length = count at heq
    refine ⟨count, fun k hle => ?_⟩
    have hboth := hmem k
    rw [heq, List.mem_range'_1, and_iff_right hle, and_iff_left hle] at hboth
    exact hboth.symm
  · rintro ⟨count, h⟩
    have heq : m.keys.filter (first ≤ ·) = List.range' first count := by
      refine (m.pairwise_keys.filter _).eq_of_mem_iff List.pairwise_lt_range' fun k => ?_
      rw [hmem, List.mem_range'_1, and_comm]
      exact and_congr_right (h k)
    rw [heq, List.length_range']

/-! ### Totals over the entries -/

theorem nodup_toList (m : OrdMap α) : m.toList.Nodup := by
  have hdistinct := Std.ExtTreeMap.distinct_keys_toList (t := m)
  exact hdistinct.imp fun hne heq => by simp [heq] at hne

theorem toList_insert_perm {m : OrdMap α} {k : ℕ} (h : m[k]? = none) (v : α) :
    (m.insert k v).toList.Perm ((k, v) :: m.toList) := by
  have hnew (w : α) : (k, w) ∉ m.toList := by
    rw [mem_toList, h]
    simp
  rw [List.perm_ext_iff_of_nodup (nodup_toList _)
    (List.nodup_cons.mpr ⟨hnew v, nodup_toList m⟩)]
  rintro ⟨k', w⟩
  rw [mem_toList, getElem?_insert, List.mem_cons, mem_toList]
  by_cases heq : k = k'
  · subst heq
    simp [h, eq_comm]
  · simp [heq, Ne.symm heq]

theorem toList_erase_perm {m : OrdMap α} {k : ℕ} {v : α} (h : m[k]? = some v) :
    m.toList.Perm ((k, v) :: (m.erase k).toList) := by
  have hgone : (k, v) ∉ (m.erase k).toList := by
    rw [mem_toList, getElem?_erase]
    simp
  rw [List.perm_ext_iff_of_nodup (nodup_toList _)
    (List.nodup_cons.mpr ⟨hgone, nodup_toList _⟩)]
  rintro ⟨k', w⟩
  rw [mem_toList, List.mem_cons, mem_toList, getElem?_erase]
  by_cases heq : k = k'
  · subst heq
    simp [h, eq_comm]
  · simp [heq, Ne.symm heq]

theorem toList_filter_perm (m : OrdMap α) (f : ℕ → α → Bool) :
    m.toList.Perm ((m.filter f).toList ++ m.toList.filter fun e => !f e.1 e.2) := by
  have hkept : (m.filter f).toList.Perm (m.toList.filter fun e => f e.1 e.2) := by
    rw [List.perm_ext_iff_of_nodup (nodup_toList _) ((nodup_toList m).filter _)]
    rintro ⟨k, v⟩
    rw [mem_toList, getElem?_filter, List.mem_filter, mem_toList, Option.filter_eq_some_iff]
  exact ((hkept.append_right _).trans (List.filter_append_perm _ _)).symm

/-- The sum of a quantity over the entries. -/
def total (m : OrdMap α) (f : α → ℕ) : ℕ := (m.toList.map fun e => f e.2).sum

theorem total_one (m : OrdMap α) : total m (fun _ => 1) = m.size := by
  rw [total, List.map_const', List.sum_replicate, smul_eq_mul, mul_one,
    Std.ExtTreeMap.length_toList]

@[simp] theorem total_empty (f : α → ℕ) : total ∅ f = 0 := rfl

theorem total_insert {m : OrdMap α} {k : ℕ} (h : m[k]? = none) (f : α → ℕ) (v : α) :
    total (m.insert k v) f = total m f + f v := by
  rw [total, ((toList_insert_perm h v).map _).sum_eq, List.map_cons, List.sum_cons, total,
    Nat.add_comm]

theorem total_erase {m : OrdMap α} {k : ℕ} {v : α} (h : m[k]? = some v) (f : α → ℕ) :
    total (m.erase k) f + f v = total m f := by
  rw [total, total, ((toList_erase_perm h).map _).sum_eq, List.map_cons, List.sum_cons,
    Nat.add_comm]

/-- Replacing an entry. -/
theorem total_replace {m : OrdMap α} {k : ℕ} {v : α} (h : m[k]? = some v) (f : α → ℕ) (w : α) :
    total (m.insert k w) f + f v = total m f + f w := by
  have herased : (m.erase k)[k]? = none := by simp
  have hagain : (m.erase k).insert k w = m.insert k w := by
    apply ext
    intro k'
    rw [getElem?_insert, getElem?_insert, getElem?_erase]
    split
    · rfl
    · rfl
  rw [← hagain, total_insert herased, ← total_erase h f]
  omega

/-- The entries that a filter keeps and those that it drops. -/
theorem total_filter (m : OrdMap α) (p : ℕ → α → Bool) (f : α → ℕ) :
    total (m.filter p) f + ((m.toList.filter fun e => !p e.1 e.2).map fun e => f e.2).sum =
      total m f := by
  rw [total, total, ((toList_filter_perm m p).map _).sum_eq, List.map_append, List.sum_append]

end OrdMap

end AvProject.Lib
