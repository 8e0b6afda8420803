import Mathlib.Data.List.Induction

/-!
Soft state: an entry lives as long as it is renewed in time. Whoever comes across an entry
after its timeout removes it, whether or not the access is about this entry, so an access
is told by its time and by the entry that it renews, if it renews any.

Nothing is assumed of the times; clocks may be read in another order than the accesses
take place in.
-/

namespace AvProject.Lib

variable {κ ρ : Type*}

/-- A renewal may bring a report, which replaces the one before. -/
structure Access (κ ρ : Type*) where
  atTime : ℕ
  renews : Option (κ × Option ρ)

/-- Who holds a lease has renewed it last at `renewedAt`. -/
structure Lease (ρ : Type*) where
  renewedAt : ℕ
  report : Option ρ

variable [DecidableEq κ] (timeout : ℕ) (key : κ)

/-- What an access at `now` leaves of a lease. -/
def keepLease (now : ℕ) (lease : Option (Lease ρ)) : Option (Lease ρ) :=
  lease.filter fun l => now ≤ l.renewedAt + timeout

/-- The lease of `key` after an access. -/
def leaseStep (lease : Option (Lease ρ)) (access : Access κ ρ) : Option (Lease ρ) :=
  match access.renews with
  | none => keepLease timeout access.atTime lease
  | some (other, report) =>
      if other = key then
        some
          { renewedAt := access.atTime
            report := report.or ((keepLease timeout access.atTime lease).bind Lease.report) }
      else keepLease timeout access.atTime lease

def leaseAfter (accesses : List (Access κ ρ)) : Option (Lease ρ) :=
  accesses.foldl (leaseStep timeout key) none

/-- The access renews the entry of `key`. -/
def Access.Renews (access : Access κ ρ) (key : κ) : Prop :=
  ∃ report, access.renews = some (key, report)

section

variable {timeout : ℕ} {key : κ} {now : ℕ} {lease : Option (Lease ρ)} {l : Lease ρ}
  {access : Access κ ρ} {accesses : List (Access κ ρ)}

theorem keepLease_eq_some :
    keepLease timeout now lease = some l ↔ lease = some l ∧ now ≤ l.renewedAt + timeout := by
  rw [keepLease, Option.filter_eq_some_iff, decide_eq_true_eq]

theorem leaseStep_of_not_renews (h : ¬ access.Renews key) :
    leaseStep timeout key lease access = keepLease timeout access.atTime lease := by
  rw [leaseStep]
  split
  · rfl
  · rename_i other report hrenews
    rw [if_neg]
    rintro rfl
    exact h ⟨report, hrenews⟩

theorem leaseStep_of_renews {report : Option ρ} (h : access.renews = some (key, report)) :
    leaseStep timeout key lease access = some
      { renewedAt := access.atTime
        report := report.or ((keepLease timeout access.atTime lease).bind Lease.report) } := by
  rw [leaseStep, h]
  exact if_pos rfl

theorem leaseAfter_append_singleton :
    leaseAfter timeout key (accesses ++ [access]) =
      leaseStep timeout key (leaseAfter timeout key accesses) access :=
  List.foldl_append

/-- A list with a new last entry is cut at this entry or before it. -/
theorem append_singleton_eq_append_cons {α : Type*} {xs before after : List α} {x y : α}
    (h : xs ++ [x] = before ++ y :: after) :
    after = [] ∧ y = x ∨ ∃ rest, after = rest ++ [x] ∧ xs = before ++ y :: rest := by
  cases after using List.reverseRecOn with
  | nil =>
      obtain ⟨-, hlast⟩ := List.append_inj' h rfl
      exact .inl ⟨rfl, (List.cons.inj hlast).1.symm⟩
  | append_singleton rest last =>
      rw [← List.cons_append, ← List.append_assoc] at h
      obtain ⟨hsame, hlast⟩ := List.append_inj' h rfl
      exact .inr ⟨rest, by rw [(List.cons.inj hlast).1], hsame⟩

/-- A lease is held exactly where it was renewed, no later access renewed it, and none came
after its timeout. -/
theorem leaseAfter_renewedAt_iff {renewedAt : ℕ} :
    (∃ l, leaseAfter timeout key accesses = some l ∧ l.renewedAt = renewedAt) ↔
      ∃ before renewal after, accesses = before ++ renewal :: after ∧ renewal.Renews key ∧
        renewal.atTime = renewedAt ∧
        ∀ later ∈ after, ¬ later.Renews key ∧ later.atTime ≤ renewedAt + timeout := by
  induction accesses using List.reverseRecOn with
  | nil => simp [leaseAfter]
  | append_singleton accesses access ih =>
      rw [leaseAfter_append_singleton]
      by_cases hrenews : access.Renews key
      · obtain ⟨report, hreport⟩ := hrenews
        rw [leaseStep_of_renews hreport]
        constructor
        · rintro ⟨l, hl, rfl⟩
          obtain rfl := Option.some.inj hl
          exact ⟨accesses, access, [], rfl, ⟨report, hreport⟩, rfl, by simp⟩
        · rintro ⟨before, renewal, after, hsplit, -, rfl, hafter⟩
          -- the last access renews, so nothing is behind it
          rcases append_singleton_eq_append_cons hsplit with ⟨-, rfl⟩ | ⟨rest, rfl, -⟩
          · exact ⟨_, rfl, rfl⟩
          · exact absurd ⟨report, hreport⟩ (hafter access (by simp)).1
      · rw [leaseStep_of_not_renews hrenews]
        constructor
        · rintro ⟨l, hl, rfl⟩
          obtain ⟨hheld, hintime⟩ := keepLease_eq_some.mp hl
          obtain ⟨before, renewal, after, rfl, hrenewal, htime, hafter⟩ :=
            ih.mp ⟨l, hheld, rfl⟩
          refine ⟨before, renewal, after ++ [access], by simp, hrenewal, htime, ?_⟩
          refine List.forall_mem_append.mpr ⟨hafter, ?_⟩
          exact List.forall_mem_singleton.mpr ⟨hrenews, hintime⟩
        · rintro ⟨before, renewal, after, hsplit, hrenewal, rfl, hafter⟩
          rcases append_singleton_eq_append_cons hsplit with ⟨-, rfl⟩ | ⟨rest, rfl, hsame⟩
          · exact absurd hrenewal hrenews
          · obtain ⟨hrest, hlast⟩ := List.forall_mem_append.mp hafter
            obtain ⟨l, hheld, htime⟩ :=
              ih.mpr ⟨before, renewal, rest, hsame, hrenewal, rfl, hrest⟩
            refine ⟨l, keepLease_eq_some.mpr ⟨hheld, ?_⟩, htime⟩
            rw [htime]
            exact (hlast access List.mem_cons_self).2

/-- The report of a lease is the last one that was brought for its entry. -/
theorem leaseAfter_report {report : ρ} (h : leaseAfter timeout key accesses = some l)
    (hreport : l.report = some report) :
    ∃ before access after, accesses = before ++ access :: after ∧
      access.renews = some (key, some report) ∧
      ∀ later ∈ after, ∀ newer, later.renews ≠ some (key, some newer) := by
  induction accesses using List.reverseRecOn generalizing l with
  | nil => cases h
  | append_singleton accesses access ih =>
      rw [leaseAfter_append_singleton] at h
      -- the report is the one from before, unless the access has brought another
      have hold (l : Lease ρ)
          (hl : keepLease timeout access.atTime (leaseAfter timeout key accesses) = some l)
          (hreport : l.report = some report)
          (hsilent : ∀ newer, access.renews ≠ some (key, some newer)) :
          ∃ before found after, accesses ++ [access] = before ++ found :: after ∧
            found.renews = some (key, some report) ∧
            ∀ later ∈ after, ∀ newer, later.renews ≠ some (key, some newer) := by
        obtain ⟨before, found, after, rfl, hfound, hafter⟩ :=
          ih (keepLease_eq_some.mp hl).1 hreport
        refine ⟨before, found, after ++ [access], by simp, hfound, ?_⟩
        exact List.forall_mem_append.mpr ⟨hafter, List.forall_mem_singleton.mpr hsilent⟩
      by_cases hrenews : access.Renews key
      · obtain ⟨brought, hbrought⟩ := hrenews
        rw [leaseStep_of_renews hbrought] at h
        obtain rfl := Option.some.inj h
        rcases Option.or_eq_some_iff.mp hreport with rfl | ⟨rfl, hbefore⟩
        · exact ⟨accesses, access, [], rfl, hbrought, by simp⟩
        · obtain ⟨l, hl, hreport⟩ := Option.bind_eq_some_iff.mp hbefore
          exact hold l hl hreport (by simp [hbrought])
      · rw [leaseStep_of_not_renews hrenews] at h
        exact hold l h hreport fun newer hnewer => hrenews ⟨some newer, hnewer⟩

end

end AvProject.Lib
