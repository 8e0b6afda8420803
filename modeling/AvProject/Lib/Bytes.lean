import Mathlib.Data.List.Basic
import Mathlib.Data.List.GetD
import Mathlib.Tactic

/-!
Byte buffers: in-place writes, fixed-width integers in either byte order, and
the byte-wise XOR accumulation used by parity codes. Nothing here depends on a
particular wire format.
-/

namespace AvProject.Lib

abbrev Bytes := List UInt8

/-! ### Blocks of a buffer -/

/-- `length` bytes of a buffer from `offset` on. -/
def sliceAt (b : Bytes) (offset length : ℕ) : Bytes := (b.drop offset).take length

theorem length_sliceAt {b : Bytes} {offset length : ℕ} (h : offset + length ≤ b.length) :
    (sliceAt b offset length).length = length := by
  simp only [sliceAt, List.length_take, List.length_drop]
  omega

theorem length_sliceAt_le (b : Bytes) (offset length : ℕ) :
    (sliceAt b offset length).length ≤ length := by
  simp [sliceAt]

theorem getElem?_sliceAt {b : Bytes} {offset length p : ℕ} (h : p < length) :
    (sliceAt b offset length)[p]? = b[offset + p]? := by
  rw [sliceAt, List.getElem?_take_of_lt h, List.getElem?_drop]

/-- A slice that is a block behind another one. -/
theorem sliceAt_append {a b : Bytes} {offset length : ℕ} (ha : a.length = offset)
    (hb : b.length = length) (rest : Bytes) :
    sliceAt (a ++ (b ++ rest)) offset length = b := by
  rw [sliceAt, List.drop_left' ha, List.take_left' hb]

/-- Records of one size, read from a record boundary. -/
theorem drop_mul_flatMap {α : Type} {write : α → Bytes} {size : ℕ}
    (hsize : ∀ x, (write x).length = size) (xs : List α) (i : ℕ) :
    (xs.flatMap write).drop (i * size) = (xs.drop i).flatMap write := by
  induction i generalizing xs with
  | zero => simp
  | succ i ih =>
      cases xs with
      | nil => simp
      | cons x xs =>
          rw [List.flatMap_cons, List.drop_succ_cons, ← ih, Nat.succ_mul, Nat.add_comm,
            ← List.drop_drop, ← hsize x, List.drop_left]

/-- Overwrite `src.length` bytes of `dst`, starting at `offset`. -/
def writeAt (dst : Bytes) (offset : ℕ) (src : Bytes) : Bytes :=
  dst.take offset ++ src ++ dst.drop (offset + src.length)

@[simp] theorem writeAt_nil (dst : Bytes) (offset : ℕ) :
    writeAt dst offset [] = dst := by
  simp [writeAt]

theorem length_writeAt {dst src : Bytes} {offset : ℕ}
    (h : offset + src.length ≤ dst.length) :
    (writeAt dst offset src).length = dst.length := by
  simp only [writeAt, List.length_append, List.length_take, List.length_drop]
  omega

/-- A position of the written range holds the byte of the source. -/
theorem getElem?_writeAt_inside {dst src : Bytes} {offset p : ℕ}
    (h : offset + src.length ≤ dst.length)
    (hlo : offset ≤ p) (hhi : p < offset + src.length) :
    (writeAt dst offset src)[p]? = src[p - offset]? := by
  have htake : (dst.take offset).length = offset := by
    rw [List.length_take]
    omega
  rw [writeAt, List.append_assoc, List.getElem?_append_right (by omega), htake,
    List.getElem?_append_left (by omega)]

/-- A position outside the written range keeps its byte. -/
theorem getElem?_writeAt_outside {dst src : Bytes} {offset p : ℕ}
    (h : offset + src.length ≤ dst.length)
    (hout : p < offset ∨ offset + src.length ≤ p) :
    (writeAt dst offset src)[p]? = dst[p]? := by
  have htake : (dst.take offset).length = offset := by
    rw [List.length_take]
    omega
  rcases hout with hlt | hge
  · rw [writeAt, List.append_assoc, List.getElem?_append_left (by omega),
      List.getElem?_take_of_lt hlt]
  · rw [writeAt, List.append_assoc, List.getElem?_append_right (by omega), htake,
      List.getElem?_append_right (by omega), List.getElem?_drop]
    congr 1
    omega

/-- A write right behind what is filled already. -/
theorem writeAt_append (first rest src : Bytes) {offset : ℕ} (hoffset : first.length = offset) :
    writeAt (first ++ rest) offset src = first ++ src ++ rest.drop src.length := by
  rw [writeAt, List.take_left' hoffset, ← List.drop_drop, List.drop_left' hoffset]

theorem writeAt_append_replicate {filled src : Bytes} {offset m : ℕ} (k : ℕ)
    (hfilled : filled.length = offset) (hm : m = src.length + k) :
    writeAt (filled ++ List.replicate m 0) offset src = (filled ++ src) ++ List.replicate k 0 := by
  rw [writeAt_append filled _ src hfilled, List.drop_replicate, hm, Nat.add_sub_cancel_left]

/-- Perform the writes `(offset, bytes)` one after the other. -/
def writeAll (b : Bytes) (writes : List (ℕ × Bytes)) : Bytes :=
  writes.foldl (fun b w => writeAt b w.1 w.2) b

/-- The write reaches position `p`. -/
def Covers (w : ℕ × Bytes) (p : ℕ) : Prop := w.1 ≤ p ∧ p < w.1 + w.2.length

instance (w : ℕ × Bytes) (p : ℕ) : Decidable (Covers w p) :=
  inferInstanceAs (Decidable (_ ∧ _))

@[simp] theorem writeAll_nil (b : Bytes) : writeAll b [] = b := rfl

theorem writeAll_append_singleton (b : Bytes) (writes : List (ℕ × Bytes)) (w : ℕ × Bytes) :
    writeAll b (writes ++ [w]) = writeAt (writeAll b writes) w.1 w.2 := by
  simp [writeAll]

theorem length_writeAll {b : Bytes} {writes : List (ℕ × Bytes)}
    (h : ∀ w ∈ writes, w.1 + w.2.length ≤ b.length) :
    (writeAll b writes).length = b.length := by
  induction writes using List.reverseRecOn with
  | nil => rfl
  | append_singleton writes w ih =>
      have hlen := ih fun w' hw' => h w' (by simp [hw'])
      rw [writeAll_append_singleton, length_writeAt (hlen ▸ h w (by simp)), hlen]

/-- A position that no write reaches keeps its byte. -/
theorem getElem?_writeAll_uncovered {b : Bytes} {writes : List (ℕ × Bytes)} {p : ℕ}
    (h : ∀ w ∈ writes, w.1 + w.2.length ≤ b.length) (hp : ∀ w ∈ writes, ¬Covers w p) :
    (writeAll b writes)[p]? = b[p]? := by
  induction writes using List.reverseRecOn with
  | nil => rfl
  | append_singleton writes w ih =>
      have hinit : ∀ w' ∈ writes, w'.1 + w'.2.length ≤ b.length := fun w' hw' =>
        h w' (by simp [hw'])
      have hout := hp w (by simp)
      rw [writeAll_append_singleton, getElem?_writeAt_outside,
        ih hinit fun w' hw' => hp w' (by simp [hw'])]
      · rw [length_writeAll hinit]
        exact h w (by simp)
      · simp only [Covers, not_and, not_lt] at hout
        omega

/-- A position that some write reaches holds a byte of such a write. -/
theorem getElem?_writeAll_covered {b : Bytes} {writes : List (ℕ × Bytes)} {p : ℕ}
    (h : ∀ w ∈ writes, w.1 + w.2.length ≤ b.length) (hp : ∃ w ∈ writes, Covers w p) :
    ∃ w ∈ writes, Covers w p ∧ (writeAll b writes)[p]? = w.2[p - w.1]? := by
  induction writes using List.reverseRecOn with
  | nil => simp at hp
  | append_singleton writes w ih =>
      have hinit : ∀ w' ∈ writes, w'.1 + w'.2.length ≤ b.length := fun w' hw' =>
        h w' (by simp [hw'])
      have hlast : w.1 + w.2.length ≤ (writeAll b writes).length := by
        rw [length_writeAll hinit]
        exact h w (by simp)
      rw [writeAll_append_singleton]
      by_cases hcov : Covers w p
      · exact ⟨w, by simp, hcov, getElem?_writeAt_inside hlast hcov.1 hcov.2⟩
      · have hearlier : ∃ w' ∈ writes, Covers w' p := by
          obtain ⟨w', hw', hcov'⟩ := hp
          rcases List.mem_append.mp hw' with hin | hin
          · exact ⟨w', hin, hcov'⟩
          · obtain rfl := List.mem_singleton.mp hin
            exact absurd hcov' hcov
        obtain ⟨w', hw', hcov', hbyte⟩ := ih hinit hearlier
        refine ⟨w', by simp [hw'], hcov', ?_⟩
        rw [getElem?_writeAt_outside hlast, hbyte]
        simp only [Covers, not_and, not_lt] at hcov
        omega

/-! ### Fixed-width unsigned integers -/

/-- Value of a little-endian byte string. -/
def readLe : Bytes → ℕ
  | [] => 0
  | b :: bs => b.toNat + 256 * readLe bs

/-- The `n` low-order bytes of `v`, least significant first. -/
def writeLe : ℕ → ℕ → Bytes
  | 0, _ => []
  | n + 1, v => UInt8.ofNat v :: writeLe n (v / 256)

@[simp] theorem length_writeLe (n v : ℕ) : (writeLe n v).length = n := by
  induction n generalizing v with
  | zero => rfl
  | succ n ih => simp [writeLe, ih]

theorem readLe_lt (b : Bytes) : readLe b < 256 ^ b.length := by
  induction b with
  | nil => simp [readLe]
  | cons x xs ih =>
      have hx : x.toNat < 256 := x.toNat_lt
      simp only [readLe, List.length_cons, Nat.pow_succ]
      omega

@[simp] theorem readLe_writeLe (n v : ℕ) : readLe (writeLe n v) = v % 256 ^ n := by
  induction n generalizing v with
  | zero => simp [writeLe, readLe, Nat.mod_one]
  | succ n ih =>
      have hbyte : (UInt8.ofNat v).toNat = v % 256 := by simp
      rw [writeLe, readLe, ih, hbyte, Nat.pow_succ, Nat.mul_comm (256 ^ n) 256,
        Nat.mod_mul]

/-- Read an `n`-byte little-endian integer off the front of a byte string. -/
def takeLe (n : ℕ) (b : Bytes) : ℕ × Bytes :=
  (readLe (b.take n), b.drop n)

@[simp] theorem takeLe_writeLe_append (n v : ℕ) (rest : Bytes) :
    takeLe n (writeLe n v ++ rest) = (v % 256 ^ n, rest) := by
  have hlen : (writeLe n v).length = n := length_writeLe n v
  simp [takeLe, List.take_left' hlen, List.drop_left' hlen]

theorem takeLe_fst_lt (n : ℕ) (b : Bytes) : (takeLe n b).1 < 256 ^ n := by
  have hlt := readLe_lt (b.take n)
  have hle : (b.take n).length ≤ n := by simp
  exact hlt.trans_le (Nat.pow_le_pow_right (by norm_num) hle)

/-- Value of a big-endian byte string. -/
def readBe (b : Bytes) : ℕ := readLe b.reverse

/-- The `n` low-order bytes of `v`, most significant first. -/
def writeBe (n v : ℕ) : Bytes := (writeLe n v).reverse

@[simp] theorem length_writeBe (n v : ℕ) : (writeBe n v).length = n := by
  simp [writeBe]

@[simp] theorem readBe_writeBe (n v : ℕ) : readBe (writeBe n v) = v % 256 ^ n := by
  simp [readBe, writeBe]

/-! ### XOR accumulation -/

/-- The byte at position `p`, read as zero past the end of the buffer. -/
def byteAt (b : Bytes) (p : ℕ) : UInt8 := b[p]?.getD 0

@[simp] theorem byteAt_nil (p : ℕ) : byteAt [] p = 0 := by simp [byteAt]

@[simp] theorem byteAt_cons_zero (b : UInt8) (bs : Bytes) : byteAt (b :: bs) 0 = b := by
  simp [byteAt]

@[simp] theorem byteAt_cons_succ (b : UInt8) (bs : Bytes) (p : ℕ) :
    byteAt (b :: bs) (p + 1) = byteAt bs p := by
  simp [byteAt]

theorem byteAt_of_length_le {b : Bytes} {p : ℕ} (h : b.length ≤ p) : byteAt b p = 0 := by
  simp [byteAt, List.getElem?_eq_none h]

theorem getElem?_eq_byteAt {b : Bytes} {p : ℕ} (h : p < b.length) :
    b[p]? = some (byteAt b p) := by
  simp [byteAt, List.getElem?_eq_getElem h]

/-- Two byte strings of one length that agree at every position are equal. -/
theorem ext_byteAt {a b : Bytes} (hlen : a.length = b.length)
    (h : ∀ p, p < a.length → byteAt a p = byteAt b p) : a = b := by
  apply List.ext_getElem?
  intro p
  by_cases hp : p < a.length
  · rw [getElem?_eq_byteAt hp, getElem?_eq_byteAt (hlen ▸ hp), h p hp]
  · rw [List.getElem?_eq_none (by omega), List.getElem?_eq_none (by omega)]

/-- Accumulate `source` into `target` by XOR; a shorter target first grows with
zero bytes. -/
def xorInto : Bytes → Bytes → Bytes
  | target, [] => target
  | [], s :: ss => (0 ^^^ s) :: xorInto [] ss
  | t :: ts, s :: ss => (t ^^^ s) :: xorInto ts ss

@[simp] theorem xorInto_nil (target : Bytes) : xorInto target [] = target := by
  cases target <;> rfl

@[simp] theorem length_xorInto (target source : Bytes) :
    (xorInto target source).length = max target.length source.length := by
  induction source generalizing target with
  | nil => simp
  | cons s ss ih =>
      cases target with
      | nil => simp [xorInto, ih]
      | cons t ts => simp [xorInto, ih, Nat.succ_max_succ]

/-- XOR accumulation acts on each position separately. -/
@[simp] theorem byteAt_xorInto (target source : Bytes) (p : ℕ) :
    byteAt (xorInto target source) p = byteAt target p ^^^ byteAt source p := by
  induction source generalizing target p with
  | nil => simp
  | cons s ss ih =>
      cases target with
      | nil => cases p <;> simp [xorInto, ih]
      | cons t ts => cases p <;> simp [xorInto, ih]

/-- XOR of the bytes that a family of blocks holds at one position. -/
def xorAt : List Bytes → ℕ → UInt8
  | [], _ => 0
  | b :: bs, p => byteAt b p ^^^ xorAt bs p

@[simp] theorem xorAt_nil (p : ℕ) : xorAt [] p = 0 := rfl

@[simp] theorem xorAt_cons (b : Bytes) (bs : List Bytes) (p : ℕ) :
    xorAt (b :: bs) p = byteAt b p ^^^ xorAt bs p := rfl

/-- Accumulating a family of blocks XORs all of them at every position. -/
theorem byteAt_foldl_xorInto (blocks : List Bytes) (acc : Bytes) (p : ℕ) :
    byteAt (blocks.foldl xorInto acc) p = byteAt acc p ^^^ xorAt blocks p := by
  induction blocks generalizing acc with
  | nil => simp
  | cons b bs ih => simp [ih, UInt8.xor_assoc]

theorem length_foldl_xorInto_le {blocks : List Bytes} {acc : Bytes} {n : ℕ}
    (hacc : acc.length ≤ n) (hblocks : ∀ b ∈ blocks, b.length ≤ n) :
    (blocks.foldl xorInto acc).length ≤ n := by
  induction blocks generalizing acc with
  | nil => simpa using hacc
  | cons b bs ih =>
      refine ih ?_ (fun c hc => hblocks c (List.mem_cons_of_mem _ hc))
      rw [length_xorInto]
      exact max_le hacc (hblocks b List.mem_cons_self)

theorem le_length_foldl_xorInto (blocks : List Bytes) (acc : Bytes) :
    acc.length ≤ (blocks.foldl xorInto acc).length := by
  induction blocks generalizing acc with
  | nil => simp
  | cons b bs ih => exact (by simp : acc.length ≤ (xorInto acc b).length).trans (ih _)

theorem length_le_foldl_xorInto {blocks : List Bytes} {b : Bytes} (hb : b ∈ blocks)
    (acc : Bytes) : b.length ≤ (blocks.foldl xorInto acc).length := by
  induction blocks generalizing acc with
  | nil => simp at hb
  | cons c cs ih =>
      rcases List.mem_cons.mp hb with rfl | hmem
      · exact (by simp : b.length ≤ (xorInto acc b).length).trans
          (le_length_foldl_xorInto cs _)
      · exact ih hmem _

/-- One block of a family can be split off the XOR of all of them. -/
theorem xorAt_eq_filter {ι : Type} [DecidableEq ι] {indices : List ι} {k : ι}
    (hnodup : indices.Nodup) (hk : k ∈ indices) (block : ι → Bytes) (p : ℕ) :
    xorAt (indices.map block) p =
      byteAt (block k) p ^^^ xorAt ((indices.filter fun i => decide (i ≠ k)).map block) p := by
  induction indices with
  | nil => simp at hk
  | cons i rest ih =>
      obtain ⟨hnotin, hrest⟩ := List.nodup_cons.mp hnodup
      by_cases heq : i = k
      · subst heq
        have hkeep : rest.filter (fun j => decide (j ≠ i)) = rest := by
          rw [List.filter_eq_self]
          intro j hj
          have hne : j ≠ i := fun h => hnotin (h ▸ hj)
          simpa using hne
        rw [List.filter_cons_of_neg (by simp), hkeep, List.map_cons, xorAt_cons]
      · have hin : k ∈ rest := (List.mem_cons.mp hk).resolve_left (Ne.symm heq)
        rw [List.filter_cons_of_pos (by simpa using heq), List.map_cons, List.map_cons,
          xorAt_cons, xorAt_cons, ih hrest hin, ← UInt8.xor_assoc, ← UInt8.xor_assoc,
          UInt8.xor_comm (byteAt (block i) p)]

/-- The XOR of a family, XORed with all blocks but one, is that block. -/
theorem xorAt_xor_filter {ι : Type} [DecidableEq ι] {indices : List ι} {k : ι}
    (hnodup : indices.Nodup) (hk : k ∈ indices) (block : ι → Bytes) (p : ℕ) :
    xorAt (indices.map block) p ^^^
        xorAt ((indices.filter fun i => decide (i ≠ k)).map block) p =
      byteAt (block k) p := by
  rw [xorAt_eq_filter hnodup hk, UInt8.xor_assoc, UInt8.xor_self, UInt8.xor_zero]

end AvProject.Lib
