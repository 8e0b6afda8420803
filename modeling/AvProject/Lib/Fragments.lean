import AvProject.Lib.Bytes

/-!
Cutting a payload into pieces of one size, the last of which may be shorter, and
the parity block that makes up for any one of them.
-/

namespace AvProject.Lib

/-- How many pieces a payload needs; an empty payload is one empty piece. -/
def pieceCount (size length : ℕ) : ℕ :=
  if length = 0 then 1 else (length + size - 1) / size

/-- The piece at `index`. -/
def piece (size : ℕ) (payload : Bytes) (index : ℕ) : Bytes :=
  sliceAt payload (index * size) size

/-- All pieces accumulated by XOR. -/
def parity (size : ℕ) (payload : Bytes) : Bytes :=
  ((List.range (pieceCount size payload.length)).map (piece size payload)).foldl xorInto []

section

variable {size : ℕ} {payload : Bytes} {index : ℕ}

theorem length_piece (size : ℕ) (payload : Bytes) (index : ℕ) :
    (piece size payload index).length = min size (payload.length - index * size) := by
  simp [piece, sliceAt]

theorem length_piece_le (size : ℕ) (payload : Bytes) (index : ℕ) :
    (piece size payload index).length ≤ size :=
  length_sliceAt_le payload _ size

theorem pieceCount_pos (hsize : 0 < size) (length : ℕ) : 0 < pieceCount size length := by
  unfold pieceCount
  split
  · exact Nat.one_pos
  · exact Nat.div_pos (by omega) hsize

/-- A piece of a nonempty payload starts inside it. -/
theorem mul_lt_length (hsize : 0 < size) {length : ℕ} (hlength : 0 < length)
    (hindex : index < pieceCount size length) : index * size < length := by
  rw [pieceCount, if_neg (by omega), Nat.lt_iff_add_one_le, Nat.le_div_iff_mul_le hsize] at hindex
  rw [Nat.add_mul, Nat.one_mul] at hindex
  omega

theorem mul_le_length (hsize : 0 < size) {length : ℕ}
    (hindex : index < pieceCount size length) : index * size ≤ length := by
  rcases Nat.eq_zero_or_pos length with rfl | hlength
  · have hzero : index = 0 := by simpa [pieceCount] using hindex
    simp [hzero]
  · exact (mul_lt_length hsize hlength hindex).le

/-- Every position of the payload lies in a piece. -/
theorem div_lt_pieceCount (hsize : 0 < size) {length p : ℕ} (hp : p < length) :
    p / size < pieceCount size length := by
  rw [pieceCount, if_neg (by omega), Nat.lt_iff_add_one_le, Nat.le_div_iff_mul_le hsize,
    Nat.add_mul, Nat.one_mul]
  have hfloor := Nat.div_mul_le_self p size
  omega

/-- All pieces but the last are full. -/
theorem length_piece_of_succ_lt (hsize : 0 < size)
    (hindex : index + 1 < pieceCount size payload.length) :
    (piece size payload index).length = size := by
  have hlength : 0 < payload.length := by
    by_contra hzero
    rw [pieceCount, if_pos (by omega)] at hindex
    omega
  have hstart := mul_lt_length hsize hlength hindex
  rw [Nat.add_mul, Nat.one_mul] at hstart
  rw [length_piece]
  omega

/-- The last piece reaches the end of the payload. -/
theorem length_piece_last (hsize : 0 < size)
    (hindex : index + 1 = pieceCount size payload.length) :
    (piece size payload index).length = payload.length - index * size := by
  have hend : payload.length ≤ (index + 1) * size := by
    by_contra hlt
    push Not at hlt
    have hdiv := div_lt_pieceCount hsize hlt
    rw [Nat.mul_div_cancel _ hsize] at hdiv
    omega
  rw [Nat.add_mul, Nat.one_mul] at hend
  rw [length_piece]
  omega

/-- Of several pieces none is empty. -/
theorem length_piece_pos (hsize : 0 < size) (hmany : 1 < pieceCount size payload.length)
    (hindex : index < pieceCount size payload.length) :
    0 < (piece size payload index).length := by
  have hlength : 0 < payload.length := by
    by_contra hzero
    rw [pieceCount, if_pos (by omega)] at hmany
    omega
  have hstart := mul_lt_length hsize hlength hindex
  rw [length_piece]
  omega

theorem mul_add_length_piece_le (hsize : 0 < size)
    (hindex : index < pieceCount size payload.length) :
    index * size + (piece size payload index).length ≤ payload.length := by
  have hstart := mul_le_length hsize hindex
  rw [length_piece]
  omega

theorem getElem?_piece {q : ℕ} (hq : q < size) :
    (piece size payload index)[q]? = payload[index * size + q]? :=
  getElem?_sliceAt hq

/-- The piece that a position lies in, by the range that it covers. -/
theorem div_eq_iff_inside (hsize : 0 < size) {p : ℕ} (hp : p < payload.length) :
    p / size = index ↔
      index * size ≤ p ∧ p < index * size + (piece size payload index).length := by
  have hsplit := Nat.div_add_mod p size
  have hmod := Nat.mod_lt p hsize
  rw [length_piece]
  constructor
  · rintro rfl
    rw [Nat.mul_comm] at hsplit
    omega
  · rintro ⟨hlo, hhi⟩
    refine Nat.div_eq_of_lt_le (by omega) ?_
    rw [Nat.add_mul, Nat.one_mul]
    omega

/-- The pieces before one position, put together again. -/
theorem flatMap_piece (count : ℕ) :
    (List.range count).flatMap (piece size payload) = payload.take (count * size) := by
  induction count with
  | zero => simp
  | succ count ih =>
      rw [List.range_succ, List.flatMap_append, ih, List.flatMap_singleton, piece, sliceAt,
        Nat.add_mul, Nat.one_mul, List.take_add]

theorem length_le_pieceCount_mul (hsize : 0 < size) :
    payload.length ≤ pieceCount size payload.length * size := by
  by_contra hlt
  push Not at hlt
  have hdiv := div_lt_pieceCount hsize hlt
  rw [Nat.mul_div_cancel _ hsize] at hdiv
  exact lt_irrefl _ hdiv

theorem length_parity_le (size : ℕ) (payload : Bytes) :
    (parity size payload).length ≤ size := by
  refine length_foldl_xorInto_le (by simp) fun b hb => ?_
  obtain ⟨i, -, rfl⟩ := List.mem_map.mp hb
  exact length_piece_le size payload i

theorem length_piece_le_parity (hindex : index < pieceCount size payload.length) :
    (piece size payload index).length ≤ (parity size payload).length :=
  length_le_foldl_xorInto (List.mem_map_of_mem (List.mem_range.mpr hindex)) []

/-- XORing all pieces but one into the parity block gives the bytes of that piece. -/
theorem byteAt_parity_xor_others (hindex : index < pieceCount size payload.length) (p : ℕ) :
    byteAt ((((List.range (pieceCount size payload.length)).filter
        fun i => decide (i ≠ index)).map (piece size payload)).foldl xorInto
      (parity size payload)) p =
      byteAt (piece size payload index) p := by
  rw [byteAt_foldl_xorInto, parity, byteAt_foldl_xorInto, byteAt_nil, UInt8.zero_xor]
  exact xorAt_xor_filter List.nodup_range (List.mem_range.mpr hindex) _ p

/-- Cut to the length of the missing piece, what remains is that piece. -/
theorem take_parity_xor_others (hindex : index < pieceCount size payload.length) :
    ((((List.range (pieceCount size payload.length)).filter
        fun i => decide (i ≠ index)).map (piece size payload)).foldl xorInto
      (parity size payload)).take (piece size payload index).length =
      piece size payload index := by
  have hparity := length_piece_le_parity hindex
  have hgrow := le_length_foldl_xorInto (((List.range (pieceCount size payload.length)).filter
    fun i => decide (i ≠ index)).map (piece size payload)) (parity size payload)
  apply ext_byteAt
  · rw [List.length_take]
    omega
  · intro p hp
    rw [List.length_take] at hp
    rw [← byteAt_parity_xor_others hindex p, byteAt, byteAt, List.getElem?_take_of_lt (by omega)]

end

end AvProject.Lib
