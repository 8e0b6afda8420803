import AvProject.Protocol.AnnexB

/-!
What the splitting at start codes yields: where its views lie, which units are read back
from a stream, and that the client looks for IDR units in the same places.
-/

namespace AvProject.Protocol

open AvProject.Lib

/-- The bytes `00 00 01` begin at `i`. -/
def CodeAt (data : Bytes) (i : ℕ) : Prop :=
  byteAt data i = 0 ∧ byteAt data (i + 1) = 0 ∧ byteAt data (i + 2) = 1

instance (data : Bytes) (i : ℕ) : Decidable (CodeAt data i) :=
  inferInstanceAs (Decidable (_ ∧ _))

theorem CodeAt.lt_length {data : Bytes} {i : ℕ} (h : CodeAt data i) : i + 2 < data.length := by
  by_contra hout
  have hzero := byteAt_of_length_le (not_lt.mp hout)
  rw [h.2.2] at hzero
  exact absurd hzero (by decide)

/-! ### The next start code -/

/-- What a search from `offset` on returns: the first `00 00 01`, with the zero before it where
the code is one of four bytes, or the end of the data. -/
inductive FindsNext (data : Bytes) (offset : ℕ) : ℕ × ℕ → Prop
  | none (h : ∀ i, offset ≤ i → ¬ CodeAt data i) : FindsNext data offset (data.length, 0)
  | code (index size first : ℕ) (hcode : CodeAt data first)
      (hfirst : ∀ i, offset ≤ i → i < first → ¬ CodeAt data i) (hoffset : offset ≤ index)
      (hle : index ≤ first) (hsize : index + size = first + 3)
      (hzeros : ∀ p, index ≤ p → p < first → byteAt data p = 0) :
      FindsNext data offset (index, size)

theorem FindsNext.skip {data : Bytes} {offset : ℕ} {found : ℕ × ℕ} (hnot : ¬ CodeAt data offset)
    (h : FindsNext data (offset + 1) found) : FindsNext data offset found := by
  have hskip {bound : ℕ} (hlater : ∀ i, offset + 1 ≤ i → i < bound → ¬ CodeAt data i) :
      ∀ i, offset ≤ i → i < bound → ¬ CodeAt data i := by
    intro i hi hlt
    rcases Nat.eq_or_lt_of_le hi with rfl | hi
    · exact hnot
    · exact hlater i hi hlt
  cases h with
  | none h =>
      refine .none fun i hi => ?_
      rcases Nat.eq_or_lt_of_le hi with rfl | hi
      · exact hnot
      · exact h i hi
  | code index size first hcode hfirst hoffset hle hsize hzeros =>
      exact .code index size first hcode (hskip hfirst) (by omega) hle hsize hzeros

theorem findStartCodeFrom_finds {data : Bytes} {steps index : ℕ}
    (hsteps : data.length - index ≤ steps) :
    FindsNext data index (findStartCodeFrom data steps index) := by
  have hend {i : ℕ} (hlt : data.length < i + 3) : ¬ CodeAt data i := by
    intro hcode
    have hin := hcode.lt_length
    omega
  induction steps generalizing index with
  | zero => exact .none fun i hi => hend (by omega)
  | succ steps ih =>
      rw [findStartCodeFrom]
      by_cases hshort : data.length < index + 3
      · rw [if_pos hshort]
        exact .none fun i hi => hend (by omega)
      rw [if_neg hshort]
      have hnext := @ih (index + 1) (by omega)
      by_cases hzeros : byteAt data index ≠ 0 ∨ byteAt data (index + 1) ≠ 0
      · rw [if_pos hzeros]
        refine hnext.skip fun hcode => ?_
        rcases hzeros with hne | hne
        · exact hne hcode.1
        · exact hne hcode.2.1
      rw [if_neg hzeros]
      push Not at hzeros
      by_cases hthree : byteAt data (index + 2) = 1
      · rw [if_pos hthree]
        exact .code index 3 index ⟨hzeros.1, hzeros.2, hthree⟩ (fun i hi hlt => by omega) le_rfl
          le_rfl rfl (fun p hp hlt => by omega)
      rw [if_neg hthree]
      have hnot : ¬ CodeAt data index := fun hcode => hthree hcode.2.2
      by_cases hfour : index + 4 ≤ data.length ∧ byteAt data (index + 2) = 0 ∧
          byteAt data (index + 3) = 1
      · -- the code of three bytes begins one position later
        rw [if_pos hfour]
        refine .code index 4 (index + 1) ⟨hzeros.2, hfour.2.1, hfour.2.2⟩ ?_ le_rfl
          (Nat.le_succ _) rfl ?_
        · intro i hi hlt
          obtain rfl : i = index := by omega
          exact hnot
        · intro p hp hlt
          obtain rfl : p = index := by omega
          exact hzeros.1
      · rw [if_neg hfour]
        exact hnext.skip hnot

theorem findAnnexBStartCode_finds (data : Bytes) (offset : ℕ) :
    FindsNext data offset (findAnnexBStartCode data offset) :=
  findStartCodeFrom_finds le_rfl

/-! ### Trimming -/

theorem trimZeros_eq {data : Bytes} {payloadStart payloadEnd next : ℕ}
    (hle : payloadEnd ≤ next) (hzeros : ∀ p, payloadEnd ≤ p → p < next → byteAt data p = 0)
    (hstart : payloadStart ≤ payloadEnd)
    (hstop : payloadStart < payloadEnd → byteAt data (payloadEnd - 1) ≠ 0) :
    trimZeros data payloadStart next = payloadEnd := by
  induction next with
  | zero =>
      obtain rfl : payloadEnd = 0 := by omega
      rfl
  | succ next ih =>
      rw [trimZeros]
      rcases Nat.eq_or_lt_of_le hle with heq | hlt
      · obtain rfl := heq
        rw [if_neg]
        rintro ⟨hin, hzero⟩
        exact hstop hin hzero
      · rw [if_pos ⟨by omega, hzeros next (by omega) (Nat.lt_succ_self next)⟩]
        exact ih (by omega) fun p hp hp' => hzeros p hp (by omega)

/-- Where the trimming stops. -/
theorem trimZeros_spec {data : Bytes} {payloadStart next : ℕ} (hle : payloadStart ≤ next) :
    payloadStart ≤ trimZeros data payloadStart next ∧
      trimZeros data payloadStart next ≤ next ∧
      (payloadStart < trimZeros data payloadStart next →
        byteAt data (trimZeros data payloadStart next - 1) ≠ 0) ∧
      ∀ p, trimZeros data payloadStart next ≤ p → p < next → byteAt data p = 0 := by
  induction next with
  | zero =>
      obtain rfl : payloadStart = 0 := by omega
      exact ⟨le_rfl, le_rfl, fun h => absurd h (lt_irrefl 0), fun p _ hp => absurd hp (by omega)⟩
  | succ next ih =>
      rw [trimZeros]
      split
      · rename_i htrim
        obtain ⟨hlow, hhigh, hstop, hzeros⟩ := ih (by omega)
        refine ⟨hlow, by omega, hstop, fun p hp hp' => ?_⟩
        rcases Nat.eq_or_lt_of_le (Nat.le_of_lt_succ hp') with rfl | hlt
        · exact htrim.2
        · exact hzeros p hp hlt
      · rename_i hkeep
        refine ⟨hle, le_rfl, fun hlt hzero => hkeep ⟨hlt, hzero⟩, fun p hp hp' => ?_⟩
        omega

/-! ### The views -/

/-- `H264NaluView`, with the position of its first byte for the pointer. -/
structure H264NaluView where
  offset : ℕ
  size : ℕ
  deriving DecidableEq, Repr

def H264NaluView.bytes (data : Bytes) (view : H264NaluView) : Bytes :=
  sliceAt data view.offset view.size

/-- The loop of `SplitAnnexBNalus`; `none` where it is still running after `fuel` rounds. -/
def splitViewsFrom (data : Bytes) : ℕ → ℕ → ℕ → Option (List H264NaluView)
  | 0, start, _ => if start < data.length then none else some []
  | fuel + 1, start, startCodeSize =>
      if start < data.length then
        let payloadStart := start + startCodeSize
        let (next, nextStartCodeSize) := findAnnexBStartCode data payloadStart
        let payloadEnd := trimZeros data payloadStart next
        (splitViewsFrom data fuel next nextStartCodeSize).map fun rest =>
          if payloadStart < payloadEnd then ⟨payloadStart, payloadEnd - payloadStart⟩ :: rest
          else rest
      else some []

def splitAnnexBViews (data : Bytes) : Option (List H264NaluView) :=
  let (start, startCodeSize) := findAnnexBStartCode data 0
  splitViewsFrom data data.length start startCodeSize

section

variable {data : Bytes} {fuel start startCodeSize : ℕ}

theorem splitViewsFrom_done (h : ¬ start < data.length) :
    splitViewsFrom data fuel start startCodeSize = some [] := by
  cases fuel with
  | zero => exact if_neg h
  | succ fuel => exact if_neg h

theorem splitViewsFrom_round {found : ℕ × ℕ} (h : start < data.length)
    (hfound : findAnnexBStartCode data (start + startCodeSize) = found) :
    splitViewsFrom data (fuel + 1) start startCodeSize =
      (splitViewsFrom data fuel found.1 found.2).map fun rest =>
        if start + startCodeSize < trimZeros data (start + startCodeSize) found.1 then
          ⟨start + startCodeSize,
            trimZeros data (start + startCodeSize) found.1 - (start + startCodeSize)⟩ :: rest
        else rest := by
  subst hfound
  exact if_pos h

theorem splitNalusFrom_done (h : ¬ start < data.length) :
    splitNalusFrom data fuel start startCodeSize = [] := by
  cases fuel with
  | zero => rfl
  | succ fuel => exact if_neg h

theorem splitNalusFrom_round {found : ℕ × ℕ} (h : start < data.length)
    (hfound : findAnnexBStartCode data (start + startCodeSize) = found) :
    splitNalusFrom data (fuel + 1) start startCodeSize =
      if start + startCodeSize < trimZeros data (start + startCodeSize) found.1 then
        sliceAt data (start + startCodeSize)
            (trimZeros data (start + startCodeSize) found.1 - (start + startCodeSize)) ::
          splitNalusFrom data fuel found.1 found.2
      else splitNalusFrom data fuel found.1 found.2 := by
  subst hfound
  exact if_pos h

theorem map_bytes_splitViewsFrom {views : List H264NaluView}
    (h : splitViewsFrom data fuel start startCodeSize = some views) :
    views.map (H264NaluView.bytes data) = splitNalusFrom data fuel start startCodeSize := by
  induction fuel generalizing start startCodeSize views with
  | zero =>
      rw [splitViewsFrom] at h
      split at h
      · cases h
      · obtain rfl := Option.some.inj h
        rfl
  | succ fuel ih =>
      by_cases hlt : start < data.length
      · rw [splitViewsFrom_round hlt rfl] at h
        obtain ⟨rest, hrest, rfl⟩ := Option.map_eq_some_iff.mp h
        rw [splitNalusFrom_round hlt rfl, ← ih hrest]
        split <;> rfl
      · rw [splitViewsFrom_done hlt] at h
        obtain rfl := Option.some.inj h
        exact (splitNalusFrom_done hlt).symm

end

/-- A place where the loop may stand: at the end, or at the start code behind which a unit
begins. -/
structure AtCode (data : Bytes) (start startCodeSize : ℕ) : Prop where
  le_length : start ≤ data.length
  code : start < data.length → 3 ≤ startCodeSize ∧ CodeAt data (start + startCodeSize - 3)

/-- What there is to say of a view by itself: it is a unit behind a start code, without zeros at
its end and without a start code in it. -/
structure ViewSound (data : Bytes) (view : H264NaluView) : Prop where
  pos : 0 < view.size
  inside : view.offset + view.size ≤ data.length
  behindCode : 3 ≤ view.offset ∧ CodeAt data (view.offset - 3)
  last_ne_zero : byteAt data (view.offset + view.size - 1) ≠ 0
  noCode : ∀ i, view.offset ≤ i → i + 3 ≤ view.offset + view.size → ¬ CodeAt data i

/-- The views that the loop yields from a place on. -/
structure ViewsFrom (data : Bytes) (payloadStart : ℕ) (views : List H264NaluView) : Prop where
  sound : ∀ view ∈ views, ViewSound data view
  later : ∀ view ∈ views, payloadStart ≤ view.offset
  ordered : views.Pairwise fun view later => view.offset + view.size ≤ later.offset
  complete : ∀ p, payloadStart ≤ p → 3 ≤ p → CodeAt data (p - 3) → byteAt data p ≠ 0 →
    ∃ view ∈ views, view.offset = p

theorem FindsNext.atCode {data : Bytes} {offset : ℕ} {found : ℕ × ℕ}
    (h : FindsNext data offset found) : AtCode data found.1 found.2 := by
  cases h with
  | none h => exact ⟨le_rfl, fun hlt => absurd hlt (lt_irrefl _)⟩
  | code index size first hcode hfirst hoffset hle hsize hzeros =>
      have hin := hcode.lt_length
      refine ⟨by simp only; omega, fun _ => ⟨by simp only; omega, ?_⟩⟩
      show CodeAt data (index + size - 3)
      rw [hsize, Nat.add_sub_cancel]
      exact hcode

/-- The unit behind a start code, and where the search goes on. -/
theorem FindsNext.view {data : Bytes} {payloadStart : ℕ} {found : ℕ × ℕ}
    (h : FindsNext data payloadStart found) (hin : payloadStart ≤ data.length)
    (hcode : 3 ≤ payloadStart ∧ CodeAt data (payloadStart - 3)) :
    payloadStart ≤ found.1 ∧
      (payloadStart < trimZeros data payloadStart found.1 →
        ViewSound data ⟨payloadStart, trimZeros data payloadStart found.1 - payloadStart⟩) ∧
      (byteAt data payloadStart ≠ 0 → payloadStart < trimZeros data payloadStart found.1) := by
  have hle : payloadStart ≤ found.1 := by
    cases h with
    | none h => exact hin
    | code index size first hcode hfirst hoffset hle hsize hzeros => exact hoffset
  have hlength : found.1 ≤ data.length := h.atCode.le_length
  obtain ⟨hlow, hhigh, hstop, hzeros⟩ := @trimZeros_spec data _ _ hle
  refine ⟨hle, fun hlt => ?_, fun hne => ?_⟩
  · refine ⟨Nat.sub_pos_of_lt hlt, by simp only; omega, hcode, ?_, fun i hi hi' => ?_⟩
    · show byteAt data (payloadStart + (trimZeros data payloadStart found.1 - payloadStart) - 1) ≠ 0
      rw [Nat.add_sub_cancel' hlow]
      exact hstop hlt
    · have hbefore : i + 3 ≤ found.1 := by
        simp only at hi'
        omega
      cases h with
      | none h => exact h i hi
      | code index size first _ hfirst _ hle' _ _ =>
          simp only at hbefore
          exact hfirst i hi (by omega)
  · -- a byte that is not zero is neither trimmed nor part of a start code
    by_contra hnot
    have htrimmed : trimZeros data payloadStart found.1 = payloadStart := by omega
    rcases Nat.eq_or_lt_of_le hle with heq | hlt
    · cases h with
      | none h =>
          simp only at heq
          exact hne (byteAt_of_length_le heq.ge)
      | code index size first hcode' _ _ hle' _ hzeros' =>
          simp only at heq
          obtain rfl := heq
          rcases Nat.eq_or_lt_of_le hle' with rfl | hlt
          · exact hne hcode'.1
          · exact hne (hzeros' _ le_rfl hlt)
    · exact hne (hzeros payloadStart htrimmed.le hlt)

theorem FindsNext.le_of_code {data : Bytes} {offset i : ℕ} {found : ℕ × ℕ}
    (h : FindsNext data offset found) (hi : offset ≤ i) (hcode : CodeAt data i) :
    found.1 < data.length ∧ found.1 + found.2 ≤ i + 3 := by
  have hin := hcode.lt_length
  cases h with
  | none h => exact absurd hcode (h i hi)
  | code index size first _ hfirst _ hle hsize _ =>
      have hbefore : first ≤ i := not_lt.mp fun hlt => hfirst i hi hlt hcode
      simp only
      omega

/-- Start codes do not overlap. -/
theorem CodeAt.disjoint {data : Bytes} {i j : ℕ} (hi : CodeAt data i) (hj : CodeAt data j)
    (hlt : i < j) : i + 3 ≤ j := by
  by_contra hclose
  have hone : byteAt data (i + 2) = 1 := hi.2.2
  rcases (by omega : j = i + 1 ∨ j = i + 2) with rfl | rfl
  · rw [hj.2.1] at hone
    exact absurd hone (by decide)
  · rw [hj.1] at hone
    exact absurd hone (by decide)

/-- The views behind the one at `payloadStart`. -/
structure ViewsBehind (data : Bytes) (payloadStart next : ℕ) (views : List H264NaluView) : Prop where
  sound : ∀ view ∈ views, ViewSound data view
  later : ∀ view ∈ views, next ≤ view.offset
  ordered : views.Pairwise fun view later => view.offset + view.size ≤ later.offset
  complete : ∀ p, payloadStart < p → 3 ≤ p → CodeAt data (p - 3) → byteAt data p ≠ 0 →
    ∃ view ∈ views, view.offset = p

theorem FindsNext.viewsBehind {data : Bytes} {payloadStart : ℕ} {found : ℕ × ℕ}
    {views : List H264NaluView} (h : FindsNext data payloadStart found)
    (hcode : 3 ≤ payloadStart ∧ CodeAt data (payloadStart - 3))
    (hviews : found.1 < data.length → ViewsFrom data (found.1 + found.2) views)
    (hnone : ¬ found.1 < data.length → views = []) :
    ViewsBehind data payloadStart found.1 views := by
  have hcomplete : ∀ p, payloadStart < p → 3 ≤ p → CodeAt data (p - 3) → byteAt data p ≠ 0 →
      ∃ view ∈ views, view.offset = p := by
    intro p hp hthree hbehind hne
    have hapart := hcode.2.disjoint hbehind (by omega)
    obtain ⟨hmore, hle⟩ := h.le_of_code (i := p - 3) (by omega) hbehind
    exact (hviews hmore).complete p (by omega) hthree hbehind hne
  by_cases hmore : found.1 < data.length
  · have hall := hviews hmore
    exact ⟨hall.sound, fun view hview => (Nat.le_add_right _ _).trans (hall.later view hview),
      hall.ordered, hcomplete⟩
  · obtain rfl := hnone hmore
    exact ⟨fun _ hmem => absurd hmem List.not_mem_nil, fun _ hmem => absurd hmem List.not_mem_nil,
      .nil, hcomplete⟩

/-- The loop ends, and its views are where they should be. -/
theorem AtCode.splitViewsFrom {data : Bytes} {fuel start startCodeSize : ℕ}
    (h : AtCode data start startCodeSize) (hfuel : data.length - start ≤ fuel) :
    ∃ views, splitViewsFrom data fuel start startCodeSize = some views ∧
      (start < data.length → ViewsFrom data (start + startCodeSize) views) ∧
      (¬ start < data.length → views = []) := by
  induction fuel generalizing start startCodeSize with
  | zero =>
      have hdone : ¬ start < data.length := by omega
      exact ⟨[], splitViewsFrom_done hdone, fun hlt => absurd hlt hdone, fun _ => rfl⟩
  | succ fuel ih =>
      by_cases hlt : start < data.length
      swap
      · exact ⟨[], splitViewsFrom_done hlt, fun hlt' => absurd hlt' hlt, fun _ => rfl⟩
      obtain ⟨hthree, hcode⟩ := h.code hlt
      have hin := hcode.lt_length
      have hfinds := findAnnexBStartCode_finds data (start + startCodeSize)
      rw [splitViewsFrom_round hlt rfl]
      generalize findAnnexBStartCode data (start + startCodeSize) = found at hfinds ⊢
      obtain ⟨hle, hsound, hkept⟩ := hfinds.view (by omega) ⟨by omega, hcode⟩
      obtain ⟨rest, hrest, hlater, hnone⟩ := ih hfinds.atCode (by omega)
      have hbehind := hfinds.viewsBehind ⟨by omega, hcode⟩ hlater hnone
      refine ⟨_, by rw [hrest]; rfl, fun _ => ?_, fun hnot => absurd hlt hnot⟩
      have hend := (@trimZeros_spec data _ _ hle).2.1
      split
      · rename_i hnonempty
        refine ⟨List.forall_mem_cons.mpr ⟨hsound hnonempty, hbehind.sound⟩,
          List.forall_mem_cons.mpr
            ⟨le_rfl, fun view hview => hle.trans (hbehind.later view hview)⟩,
          List.pairwise_cons.mpr ⟨fun view hview => ?_, hbehind.ordered⟩, ?_⟩
        · have hnext := hbehind.later view hview
          simp only
          omega
        · intro p hp hthree' hcode' hne
          rcases Nat.eq_or_lt_of_le hp with rfl | hp
          · exact ⟨_, List.mem_cons_self, rfl⟩
          · obtain ⟨view, hview, hoffset⟩ := hbehind.complete p hp hthree' hcode' hne
            exact ⟨view, List.mem_cons_of_mem _ hview, hoffset⟩
      · rename_i hempty
        refine ⟨hbehind.sound, fun view hview => hle.trans (hbehind.later view hview),
          hbehind.ordered, fun p hp hthree' hcode' hne => ?_⟩
        rcases Nat.eq_or_lt_of_le hp with rfl | hp
        · exact absurd (hkept hne) hempty
        · exact hbehind.complete p hp hthree' hcode' hne

/-- The views of a whole stream. -/
theorem splitAnnexBViews_from (data : Bytes) :
    ∃ views, splitAnnexBViews data = some views ∧ ViewsFrom data 0 views := by
  have hfinds := findAnnexBStartCode_finds data 0
  have hunfold : splitAnnexBViews data = Protocol.splitViewsFrom data data.length
    (findAnnexBStartCode data 0).1 (findAnnexBStartCode data 0).2 := rfl
  rw [hunfold]
  generalize findAnnexBStartCode data 0 = found at hfinds ⊢
  obtain ⟨views, hviews, hlater, hnone⟩ := hfinds.atCode.splitViewsFrom (Nat.sub_le _ found.1)
  refine ⟨views, hviews, ?_⟩
  by_cases hmore : found.1 < data.length
  · have hall := hlater hmore
    refine ⟨hall.sound, fun _ _ => Nat.zero_le _, hall.ordered, fun p _ hthree hcode hne => ?_⟩
    obtain ⟨-, hle⟩ := hfinds.le_of_code (Nat.zero_le _) hcode
    exact hall.complete p (by omega) hthree hcode hne
  · obtain rfl := hnone hmore
    refine ⟨fun _ hmem => absurd hmem List.not_mem_nil, fun _ _ => Nat.zero_le _, .nil,
      fun p _ hthree hcode _ => ?_⟩
    exact absurd (hfinds.le_of_code (Nat.zero_le _) hcode).1 hmore

theorem map_bytes_splitAnnexBViews {data : Bytes} {views : List H264NaluView}
    (h : splitAnnexBViews data = some views) :
    views.map (H264NaluView.bytes data) = splitAnnexBNalus data :=
  map_bytes_splitViewsFrom h

/-! ### Reading a stream back -/

/-- A unit that a stream can carry: it does not end in zero, and holds no start code. -/
structure PlainNalu (nalu : Bytes) : Prop where
  ne_nil : nalu ≠ []
  last_ne_zero : byteAt nalu (nalu.length - 1) ≠ 0
  noCode : ∀ i, ¬ CodeAt nalu i

theorem ViewSound.plain {data : Bytes} {view : H264NaluView} (h : ViewSound data view) :
    PlainNalu (view.bytes data) := by
  have hpos := h.pos
  have hlength : (view.bytes data).length = view.size := length_sliceAt h.inside
  have hbyte {p : ℕ} (hp : p < view.size) :
      byteAt (view.bytes data) p = byteAt data (view.offset + p) := by
    rw [byteAt, H264NaluView.bytes, getElem?_sliceAt hp, byteAt]
  refine ⟨List.ne_nil_of_length_pos (hlength ▸ hpos), ?_, fun i hcode => ?_⟩
  · rw [hlength, hbyte (by omega), ← Nat.add_sub_assoc hpos]
    exact h.last_ne_zero
  · have hin := hcode.lt_length
    rw [hlength] at hin
    rw [CodeAt, hbyte (by omega), hbyte (by omega), hbyte (by omega)] at hcode
    exact h.noCode (view.offset + i) (Nat.le_add_right _ _) (by omega) hcode

/-- A unit behind its start code, of three bytes or of four, and the zeros before that. -/
structure PlacedNalu where
  extraZeros : ℕ
  longCode : Bool
  nalu : Bytes
  plain : PlainNalu nalu

def PlacedNalu.toBytes (placed : PlacedNalu) : Bytes :=
  List.replicate placed.extraZeros 0 ++ (if placed.longCode then [0, 0, 0, 1] else [0, 0, 1]) ++
    placed.nalu

/-- A stream of units, with zeros at its end. -/
def placedStream (units : List PlacedNalu) (trailingZeros : ℕ) : Bytes :=
  units.flatMap PlacedNalu.toBytes ++ List.replicate trailingZeros 0

/-- The zeros right before the last three bytes of a start code. -/
def PlacedNalu.zeros (placed : PlacedNalu) : ℕ :=
  placed.extraZeros + if placed.longCode then 1 else 0

theorem PlacedNalu.toBytes_eq (placed : PlacedNalu) :
    placed.toBytes = List.replicate placed.zeros 0 ++ ([0, 0, 1] ++ placed.nalu) := by
  rw [PlacedNalu.toBytes, PlacedNalu.zeros]
  split
  · rw [List.replicate_add, List.append_assoc, List.append_assoc]
    rfl
  · rw [Nat.add_zero, List.append_assoc]

theorem byteAt_append_left {a : Bytes} (b : Bytes) {p : ℕ} (hp : p < a.length) :
    byteAt (a ++ b) p = byteAt a p := by
  rw [byteAt, List.getElem?_append_left hp, byteAt]

theorem byteAt_append_right (a b : Bytes) (p : ℕ) : byteAt (a ++ b) (a.length + p) = byteAt b p := by
  rw [byteAt, List.getElem?_append_right (Nat.le_add_right _ _), Nat.add_sub_cancel_left, byteAt]

theorem byteAt_replicate_zero (n p : ℕ) : byteAt (List.replicate n 0) p = 0 := by
  rw [byteAt, List.getElem?_replicate]
  split <;> rfl

section

variable {before nalu more : Bytes} {zeros : ℕ}

/-- Behind a unit come zeros, and then the end or a start code. -/
def unitInside (before nalu : Bytes) (zeros : ℕ) (more : Bytes) : Bytes :=
  before ++ (nalu ++ (List.replicate zeros 0 ++ more))

theorem byteAt_unitInside_nalu {p : ℕ} (hp : p < nalu.length) :
    byteAt (unitInside before nalu zeros more) (before.length + p) = byteAt nalu p := by
  rw [unitInside, byteAt_append_right, byteAt_append_left _ hp]

theorem byteAt_unitInside_zeros {p : ℕ} (hp : p < zeros) :
    byteAt (unitInside before nalu zeros more) (before.length + nalu.length + p) = 0 := by
  rw [unitInside, Nat.add_assoc, byteAt_append_right, byteAt_append_right,
    byteAt_append_left _ (by simpa using hp), byteAt_replicate_zero]

theorem byteAt_unitInside_more (p : ℕ) :
    byteAt (unitInside before nalu zeros more) (before.length + nalu.length + zeros + p) =
      byteAt more p := by
  have hzeros := byteAt_append_right (List.replicate zeros 0) more p
  rw [List.length_replicate] at hzeros
  rw [unitInside, Nat.add_assoc, Nat.add_assoc, byteAt_append_right, byteAt_append_right, hzeros]

theorem length_unitInside : (unitInside before nalu zeros more).length =
    before.length + nalu.length + zeros + more.length := by
  simp only [unitInside, List.length_append, List.length_replicate]
  omega

/-- No start code begins in the unit or in the zeros behind it. -/
theorem not_codeAt_unitInside (hnoCode : ∀ i, ¬ CodeAt nalu i)
    (hmore : byteAt more 0 = 0 ∧ byteAt more 1 = 0) {i : ℕ} (hi : before.length ≤ i)
    (hlt : i < before.length + nalu.length + zeros) :
    ¬ CodeAt (unitInside before nalu zeros more) i := by
  obtain ⟨k, rfl⟩ := Nat.exists_eq_add_of_le hi
  intro hcode
  have hone := hcode.2.2
  rcases Nat.lt_or_ge (k + 2) nalu.length with hin | hout
  · refine hnoCode k ?_
    rw [CodeAt, Nat.add_assoc, Nat.add_assoc, byteAt_unitInside_nalu (by omega),
      byteAt_unitInside_nalu (by omega), byteAt_unitInside_nalu hin] at hcode
    exact hcode
  · -- the last byte of the code would be one of the zeros
    have hzero : byteAt (unitInside before nalu zeros more) (before.length + k + 2) = 0 := by
      rcases Nat.lt_or_ge (k + 2) (nalu.length + zeros) with hzeros | hbehind
      · obtain ⟨p, hp⟩ := Nat.exists_eq_add_of_le hout
        rw [show before.length + k + 2 = before.length + nalu.length + p by omega]
        exact byteAt_unitInside_zeros (by omega)
      · obtain ⟨p, hp⟩ := Nat.exists_eq_add_of_le hbehind
        rw [show before.length + k + 2 = before.length + nalu.length + zeros + p by omega,
          byteAt_unitInside_more]
        rcases (by omega : p = 0 ∨ p = 1) with rfl | rfl
        · exact hmore.1
        · exact hmore.2
    rw [hzero] at hone
    exact absurd hone (by decide)

/-- The next search ends in the zeros behind the unit; before the first unit there is an empty
one. -/
theorem found_unitInside (hnoCode : ∀ i, ¬ CodeAt nalu i)
    (hlast : nalu ≠ [] → byteAt nalu (nalu.length - 1) ≠ 0)
    (hmore : more = [] ∨ ∃ rest, more = [0, 0, 1] ++ rest) {found : ℕ × ℕ}
    (hfinds : FindsNext (unitInside before nalu zeros more) before.length found) :
    before.length + nalu.length ≤ found.1 ∧ found.1 ≤ before.length + nalu.length + zeros ∧
      (more ≠ [] → found.1 + found.2 = before.length + nalu.length + zeros + 3) ∧
      (more = [] → found = ((unitInside before nalu zeros more).length, 0)) := by
  have hfront : byteAt more 0 = 0 ∧ byteAt more 1 = 0 := by
    rcases hmore with rfl | ⟨rest, rfl⟩ <;> exact ⟨rfl, rfl⟩
  have hnot : ∀ i, before.length ≤ i → i < before.length + nalu.length + zeros →
      ¬ CodeAt (unitInside before nalu zeros more) i :=
    fun i => not_codeAt_unitInside hnoCode hfront
  have hlength : (unitInside before nalu zeros more).length =
      before.length + nalu.length + zeros + more.length := length_unitInside
  cases hfinds with
  | none hnone =>
      rcases hmore with rfl | ⟨rest, rfl⟩
      · rw [List.length_nil] at hlength
        exact ⟨by simp only; omega, by simp only; omega, fun h => absurd rfl h, fun _ => rfl⟩
      · refine absurd ?_ (hnone (before.length + nalu.length + zeros) (by omega))
        have hbyte : ∀ p, byteAt (unitInside before nalu zeros ([0, 0, 1] ++ rest))
            (before.length + nalu.length + zeros + p) = byteAt ([0, 0, 1] ++ rest) p :=
          byteAt_unitInside_more
        exact ⟨hbyte 0, hbyte 1, hbyte 2⟩
  | code index size first hcode hfirst hoffset hle hsize hzeros =>
      have hbehind : before.length + nalu.length + zeros ≤ first :=
        not_lt.mp fun hlt => hnot first (by omega) hlt hcode
      rcases hmore with rfl | ⟨rest, rfl⟩
      · have hin := hcode.lt_length
        rw [List.length_nil] at hlength
        omega
      have hcodeMore : CodeAt (unitInside before nalu zeros ([0, 0, 1] ++ rest))
          (before.length + nalu.length + zeros) := by
        have hbyte : ∀ p, byteAt (unitInside before nalu zeros ([0, 0, 1] ++ rest))
            (before.length + nalu.length + zeros + p) = byteAt ([0, 0, 1] ++ rest) p :=
          byteAt_unitInside_more
        exact ⟨hbyte 0, hbyte 1, hbyte 2⟩
      obtain rfl : first = before.length + nalu.length + zeros := by
        refine le_antisymm (not_lt.mp fun hlt => ?_) hbehind
        exact hfirst _ (by omega) hlt hcodeMore
      refine ⟨?_, hle, fun _ => hsize, fun h => by cases h⟩
      -- the last byte of the unit is no zero of the code
      by_contra hshort
      simp only at hshort
      have hpos : 0 < nalu.length := by omega
      have hzero := hzeros (before.length + (nalu.length - 1)) (by omega) (by omega)
      rw [byteAt_unitInside_nalu (by omega)] at hzero
      exact hlast (List.ne_nil_of_length_pos hpos) hzero

/-- A round of the loop yields the unit. -/
theorem splitNalusFrom_unitInside (hplain : PlainNalu nalu)
    (hmore : more = [] ∨ ∃ rest, more = [0, 0, 1] ++ rest) {fuel start startCodeSize : ℕ}
    {found : ℕ × ℕ} (hstart : start < (unitInside before nalu zeros more).length)
    (hsize : start + startCodeSize = before.length)
    (hfound : findAnnexBStartCode (unitInside before nalu zeros more) before.length = found) :
    splitNalusFrom (unitInside before nalu zeros more) (fuel + 1) start startCodeSize =
      nalu :: splitNalusFrom (unitInside before nalu zeros more) fuel found.1 found.2 := by
  have hfinds : FindsNext (unitInside before nalu zeros more) before.length found :=
    hfound ▸ findAnnexBStartCode_finds _ _
  obtain ⟨hlow, hhigh, -, -⟩ :=
    found_unitInside hplain.noCode (fun _ => hplain.last_ne_zero) hmore hfinds
  have hpos : 0 < nalu.length := List.length_pos_iff.mpr hplain.ne_nil
  have htrim : trimZeros (unitInside before nalu zeros more) before.length found.1 =
      before.length + nalu.length := by
    refine trimZeros_eq hlow (fun p hp hp' => ?_) (Nat.le_add_right _ _) fun _ => ?_
    · obtain ⟨k, rfl⟩ := Nat.exists_eq_add_of_le hp
      exact byteAt_unitInside_zeros (by omega)
    · rw [Nat.add_sub_assoc hpos, byteAt_unitInside_nalu (by omega)]
      exact hplain.last_ne_zero
  rw [splitNalusFrom_round hstart (hsize ▸ hfound), hsize, htrim, if_pos (by omega),
    Nat.add_sub_cancel_left]
  congr 1
  exact sliceAt_append rfl rfl _

end

theorem placedStream_cons (placed : PlacedNalu) (units : List PlacedNalu) (trailingZeros : ℕ) :
    placedStream (placed :: units) trailingZeros =
      List.replicate placed.zeros 0 ++
        ([0, 0, 1] ++ (placed.nalu ++ placedStream units trailingZeros)) := by
  rw [placedStream, List.flatMap_cons, placed.toBytes_eq, placedStream]
  simp only [List.append_assoc]

/-- From the start code of a unit on, the loop yields this unit and those behind it. -/
theorem splitNalusFrom_placedStream {nalu : Bytes} (hplain : PlainNalu nalu)
    (units : List PlacedNalu) (trailingZeros : ℕ) {before : Bytes} {fuel start startCodeSize : ℕ}
    (hfuel : units.length < fuel)
    (hstart : start < (before ++ (nalu ++ placedStream units trailingZeros)).length)
    (hsize : start + startCodeSize = before.length) :
    splitNalusFrom (before ++ (nalu ++ placedStream units trailingZeros)) fuel start
      startCodeSize = nalu :: units.map PlacedNalu.nalu := by
  induction units generalizing nalu before fuel start startCodeSize with
  | nil =>
      obtain ⟨fuel, rfl⟩ := Nat.exists_eq_succ_of_ne_zero (Nat.ne_of_gt (Nat.zero_lt_of_lt hfuel))
      have hdata : before ++ (nalu ++ placedStream [] trailingZeros) =
          unitInside before nalu trailingZeros [] := by
        rw [unitInside, List.append_nil]
        rfl
      rw [hdata] at hstart ⊢
      rw [splitNalusFrom_unitInside hplain (.inl rfl) hstart hsize rfl]
      obtain ⟨-, -, -, hend⟩ := found_unitInside hplain.noCode (fun _ => hplain.last_ne_zero)
        (.inl rfl)
        (findAnnexBStartCode_finds (unitInside before nalu trailingZeros []) before.length)
      rw [hend rfl, splitNalusFrom_done (lt_irrefl _), List.map_nil]
  | cons placed units ih =>
      obtain ⟨fuel, rfl⟩ := Nat.exists_eq_succ_of_ne_zero (Nat.ne_of_gt (Nat.zero_lt_of_lt hfuel))
      have hdata : before ++ (nalu ++ placedStream (placed :: units) trailingZeros) =
          unitInside before nalu placed.zeros
            ([0, 0, 1] ++ (placed.nalu ++ placedStream units trailingZeros)) := by
        rw [placedStream_cons, unitInside]
      -- the same data, cut before the next unit
      have hnext : unitInside before nalu placed.zeros
            ([0, 0, 1] ++ (placed.nalu ++ placedStream units trailingZeros)) =
          (before ++ (nalu ++ (List.replicate placed.zeros 0 ++ [0, 0, 1]))) ++
            (placed.nalu ++ placedStream units trailingZeros) := by
        simp only [unitInside, List.append_assoc]
      rw [hdata] at hstart ⊢
      rw [splitNalusFrom_unitInside hplain (.inr ⟨_, rfl⟩) hstart hsize rfl]
      obtain ⟨-, hhigh, hcode, -⟩ := found_unitInside hplain.noCode (fun _ => hplain.last_ne_zero)
        (.inr ⟨_, rfl⟩) (findAnnexBStartCode_finds (unitInside before nalu placed.zeros
          ([0, 0, 1] ++ (placed.nalu ++ placedStream units trailingZeros))) before.length)
      have hlength := @length_unitInside before nalu
        ([0, 0, 1] ++ (placed.nalu ++ placedStream units trailingZeros)) placed.zeros
      have hbound : before.length + nalu.length + placed.zeros <
          (unitInside before nalu placed.zeros
            ([0, 0, 1] ++ (placed.nalu ++ placedStream units trailingZeros))).length := by
        rw [hlength]
        simp
      generalize findAnnexBStartCode (unitInside before nalu placed.zeros
        ([0, 0, 1] ++ (placed.nalu ++ placedStream units trailingZeros))) before.length = found
        at hhigh hcode ⊢
      have hsum := hcode (by simp)
      rw [List.map_cons]
      congr 1
      rw [hnext] at hbound ⊢
      refine ih placed.plain (Nat.lt_of_succ_lt_succ hfuel) (hhigh.trans_lt hbound) ?_
      rw [hsum]
      simp only [List.length_append, List.length_replicate, List.length_cons, List.length_nil]
      omega

theorem length_le_placedStream (units : List PlacedNalu) (trailingZeros : ℕ) :
    units.length ≤ (placedStream units trailingZeros).length := by
  induction units with
  | nil => exact Nat.zero_le _
  | cons placed units ih =>
      rw [placedStream_cons]
      simp only [List.length_append, List.length_cons]
      omega

/-- However the units are placed, they are what the stream is split into. -/
theorem splitAnnexBNalus_placedStream (units : List PlacedNalu) (trailingZeros : ℕ) :
    splitAnnexBNalus (placedStream units trailingZeros) = units.map PlacedNalu.nalu := by
  have hnoCode : ∀ i, ¬ CodeAt [] i := fun i hcode => absurd hcode.lt_length (Nat.not_lt_zero _)
  have hempty {data : Bytes} : ([] : Bytes) ≠ [] → byteAt data (data.length - 1) ≠ 0 :=
    fun h => absurd rfl h
  have hunfold (data : Bytes) : splitAnnexBNalus data = splitNalusFrom data data.length
    (findAnnexBStartCode data 0).1 (findAnnexBStartCode data 0).2 := rfl
  cases units with
  | nil =>
      have hdata : placedStream [] trailingZeros = unitInside [] [] trailingZeros [] := by
        rw [unitInside, List.append_nil]
        rfl
      obtain ⟨-, -, -, hend⟩ := found_unitInside hnoCode hempty (.inl rfl)
        (findAnnexBStartCode_finds (unitInside [] [] trailingZeros []) 0)
      rw [hdata, hunfold, hend rfl]
      exact splitNalusFrom_done (lt_irrefl _)
  | cons placed units =>
      have hdata : placedStream (placed :: units) trailingZeros =
          unitInside [] [] placed.zeros
            ([0, 0, 1] ++ (placed.nalu ++ placedStream units trailingZeros)) := by
        rw [placedStream_cons]
        rfl
      have hnext : placedStream (placed :: units) trailingZeros =
          (List.replicate placed.zeros 0 ++ [0, 0, 1]) ++
            (placed.nalu ++ placedStream units trailingZeros) := by
        rw [placedStream_cons, List.append_assoc]
      have hfuel := length_le_placedStream (placed :: units) trailingZeros
      obtain ⟨-, hhigh, hcode, -⟩ := found_unitInside hnoCode hempty (.inr ⟨_, rfl⟩)
        (findAnnexBStartCode_finds (unitInside [] [] placed.zeros
          ([0, 0, 1] ++ (placed.nalu ++ placedStream units trailingZeros))) 0)
      rw [← hdata] at hhigh hcode
      have hsum := hcode (by simp)
      rw [hunfold]
      generalize findAnnexBStartCode (placedStream (placed :: units) trailingZeros) 0 = found
        at hhigh hsum ⊢
      generalize hlength : (placedStream (placed :: units) trailingZeros).length = fuel at hfuel ⊢
      rw [hnext] at hlength ⊢
      simp only [List.length_nil, Nat.zero_add] at hhigh hsum
      refine splitNalusFrom_placedStream placed.plain units trailingZeros hfuel ?_ ?_
      · simp only [List.length_append, List.length_replicate, List.length_cons, List.length_nil]
        omega
      · rw [hsum]
        simp

/-! ### Splitting any bytes, and splitting them again -/

theorem annexB_eq_foldl {nalus : List Bytes} (h : ∀ nalu ∈ nalus, nalu ≠ []) :
    nalus.foldl (fun output nalu => appendAnnexBNalu nalu output) [] = annexB nalus := by
  have hfrom (output : Bytes) :
      nalus.foldl (fun output nalu => appendAnnexBNalu nalu output) output =
        output ++ annexB nalus := by
    induction nalus generalizing output with
    | nil => exact (List.append_nil _).symm
    | cons nalu nalus ih =>
        obtain ⟨hne, hrest⟩ := List.forall_mem_cons.mp h
        rw [List.foldl_cons, ih hrest, appendAnnexBNalu, if_neg hne, appendAnnexBStartCode, annexB,
          annexB, List.flatMap_cons, List.append_assoc, List.append_assoc, List.append_assoc]
  exact hfrom []

/-- Units that were written behind start codes of four bytes. -/
theorem splitAnnexBNalus_annexB {nalus : List Bytes} (h : ∀ nalu ∈ nalus, PlainNalu nalu) :
    splitAnnexBNalus (annexB nalus) = nalus := by
  obtain ⟨units, hunits, hstream⟩ : ∃ units : List PlacedNalu,
      units.map PlacedNalu.nalu = nalus ∧ placedStream units 0 = annexB nalus := by
    induction nalus with
    | nil => exact ⟨[], rfl, rfl⟩
    | cons nalu nalus ih =>
        obtain ⟨hplain, hrest⟩ := List.forall_mem_cons.mp h
        obtain ⟨units, hunits, hstream⟩ := ih hrest
        refine ⟨⟨0, true, nalu, hplain⟩ :: units, by rw [List.map_cons, hunits], ?_⟩
        rw [placedStream_cons, hstream, annexB, annexB, List.flatMap_cons]
        rfl
  rw [← hstream, splitAnnexBNalus_placedStream, hunits]

/-- The splitting of any bytes: it ends, its views are units that lie in the data one behind the
other, and splitting them again makes no difference. -/
structure SplitsSoundly (data : Bytes) (views : List H264NaluView) : Prop where
  views_eq : splitAnnexBViews data = some views
  nalus_eq : views.map (H264NaluView.bytes data) = splitAnnexBNalus data
  sound : ∀ view ∈ views, ViewSound data view
  ordered : views.Pairwise fun view later => view.offset + view.size ≤ later.offset
  again : splitAnnexBNalus
      ((splitAnnexBNalus data).foldl (fun output nalu => appendAnnexBNalu nalu output) []) =
    splitAnnexBNalus data

theorem splitAnnexBNalus_exact :
    (∀ units trailingZeros,
      splitAnnexBNalus (placedStream units trailingZeros) = units.map PlacedNalu.nalu) ∧
      ∀ data, ∃ views, SplitsSoundly data views := by
  refine ⟨splitAnnexBNalus_placedStream, fun data => ?_⟩
  obtain ⟨views, hviews, hfrom⟩ := splitAnnexBViews_from data
  have hnalus := map_bytes_splitAnnexBViews hviews
  have hplain : ∀ nalu ∈ splitAnnexBNalus data, PlainNalu nalu := by
    rw [← hnalus]
    exact List.forall_mem_map.mpr fun view hview => (hfrom.sound view hview).plain
  refine ⟨views, hviews, hnalus, hfrom.sound, hfrom.ordered, ?_⟩
  rw [annexB_eq_foldl fun nalu hnalu => (hplain nalu hnalu).ne_nil, splitAnnexBNalus_annexB hplain]

/-! ### Looking for an IDR unit -/

theorem nalOffsetAt_codeAt {data : Bytes} {i nalOffset : ℕ}
    (h : nalOffsetAt data i = some nalOffset) : 3 ≤ nalOffset ∧ CodeAt data (nalOffset - 3) := by
  rw [nalOffsetAt] at h
  split at h
  · rename_i hzeros
    split at h
    · rename_i hone
      obtain rfl := Option.some.inj h
      exact ⟨Nat.le_add_left 3 i, hzeros.1, hzeros.2, hone⟩
    · split at h
      · rename_i hfour
        obtain rfl := Option.some.inj h
        exact ⟨by omega, hzeros.2, hfour.2.1, hfour.2.2⟩
      · cases h
  · cases h

theorem CodeAt.nalOffsetAt {data : Bytes} {i : ℕ} (h : CodeAt data i) :
    nalOffsetAt data i = some (i + 3) := by
  rw [Protocol.nalOffsetAt, if_pos ⟨h.1, h.2.1⟩, if_pos h.2.2]

theorem hasIdrNalUnit_iff_exists (data : Bytes) :
    hasIdrNalUnit data = true ↔ ∃ i nalOffset, nalOffsetAt data i = some nalOffset ∧
      i + 3 < data.length ∧ nalOffset < data.length ∧ byteAt data nalOffset &&& 0x1F = 5 := by
  rw [hasIdrNalUnit]
  split
  · rename_i hshort
    refine ⟨fun h => (Bool.false_ne_true h).elim, ?_⟩
    rintro ⟨i, nalOffset, -, hi, -, -⟩
    omega
  · rw [List.any_eq_true]
    constructor
    · rintro ⟨i, hi, hfound⟩
      have hlt := List.mem_range.mp hi
      cases hoffset : nalOffsetAt data i with
      | none => simp [hoffset] at hfound
      | some nalOffset =>
          simp only [hoffset, Bool.and_eq_true, decide_eq_true_eq, beq_iff_eq] at hfound
          exact ⟨i, nalOffset, hoffset, by omega, hfound.1, hfound.2⟩
    · rintro ⟨i, nalOffset, hoffset, hi, hin, htype⟩
      refine ⟨i, List.mem_range.mpr (by omega), ?_⟩
      simp only [hoffset, hin, htype, decide_true, Bool.true_and, beq_self_eq_true]

theorem ViewSound.nalType_bytes {data : Bytes} {view : H264NaluView} (h : ViewSound data view) :
    nalType (view.bytes data) = byteAt data view.offset &&& 0x1F := by
  rw [nalType, byteAt, H264NaluView.bytes, getElem?_sliceAt h.pos, byteAt, Nat.add_zero]

/-- The client finds an IDR unit exactly where the server splits one off. -/
theorem hasIdrNalUnit_iff (data : Bytes) :
    hasIdrNalUnit data = true ↔ ∃ nalu ∈ splitAnnexBNalus data, nalType nalu = 5 := by
  obtain ⟨views, hviews, hfrom⟩ := splitAnnexBViews_from data
  rw [hasIdrNalUnit_iff_exists, ← map_bytes_splitAnnexBViews hviews]
  constructor
  · rintro ⟨i, nalOffset, hoffset, -, hin, htype⟩
    obtain ⟨hthree, hcode⟩ := nalOffsetAt_codeAt hoffset
    have hne : byteAt data nalOffset ≠ 0 := by
      intro hzero
      rw [hzero] at htype
      exact absurd htype (by decide)
    obtain ⟨view, hview, rfl⟩ := hfrom.complete nalOffset (Nat.zero_le _) hthree hcode hne
    exact ⟨_, List.mem_map_of_mem hview, (hfrom.sound view hview).nalType_bytes.trans htype⟩
  · rintro ⟨nalu, hnalu, htype⟩
    obtain ⟨view, hview, rfl⟩ := List.mem_map.mp hnalu
    have hsound := hfrom.sound view hview
    have hpos := hsound.pos
    have hinside := hsound.inside
    obtain ⟨hthree, hcode⟩ := hsound.behindCode
    refine ⟨view.offset - 3, view.offset, ?_, by omega, by omega,
      hsound.nalType_bytes.symm.trans htype⟩
    rw [hcode.nalOffsetAt, Nat.sub_add_cancel hthree]

end AvProject.Protocol
