import AvProject.Lib.Filling

/-!
The colour conversion in front of the x264 encoder, from packed YUYV to the planes of I420:
the loops with vector instructions and those without. Every access is checked, so a conversion
that comes to a value has stayed inside the source and the planes. Rows, columns and indices are
natural numbers: each is at most `width * height * 2`, which the caller computes as an `int`.
-/

namespace AvProject.Server

open AvProject.Lib

/-! ### Vector instructions -/

abbrev Uint8x16 := Fin 16 → UInt8

abbrev Uint8x8 := Fin 8 → UInt8

/-- `vld2q_u8`: 32 bytes from `p` on, those at even places and those at odd places. -/
def vld2qU8 (src : Bytes) (p : ℕ) : Option (Uint8x16 × Uint8x16) :=
  (readAt src p 32).map fun bytes =>
    (fun i => byteAt bytes (2 * i), fun i => byteAt bytes (2 * i + 1))

/-- `vst1q_u8`. -/
def vst1qU8 (plane : Bytes) (p : ℕ) (v : Uint8x16) : Option Bytes := storeAt plane p (List.ofFn v)

/-- `vst1_u8`. -/
def vst1U8 (plane : Bytes) (p : ℕ) (v : Uint8x8) : Option Bytes := storeAt plane p (List.ofFn v)

/-- `vget_low_u8`. -/
def vgetLowU8 (v : Uint8x16) : Uint8x8 := fun i => v ⟨i, by omega⟩

/-- `vget_high_u8`. -/
def vgetHighU8 (v : Uint8x16) : Uint8x8 := fun i => v ⟨8 + i, by omega⟩

/-- `vuzp_u8`: of both vectors, one behind the other, the lanes at even and at odd places. -/
def vuzpU8 (a b : Uint8x8) : Uint8x8 × Uint8x8 :=
  let lane (i : Fin 16) : UInt8 := if h : (i : ℕ) < 8 then a ⟨i, h⟩ else b ⟨i - 8, by omega⟩
  (fun i => lane ⟨2 * i, by omega⟩, fun i => lane ⟨2 * i + 1, by omega⟩)

/-! ### The conversions -/

structure Planes where
  yPlane : Bytes
  uPlane : Bytes
  vPlane : Bytes
  deriving DecidableEq, Repr, Inhabited

def loadByte (src : Bytes) (p : ℕ) : Option UInt8 := src[p]?

def storeByte (plane : Bytes) (p : ℕ) (x : UInt8) : Option Bytes := storeAt plane p [x]

/-- 16 pixels of an even row. -/
def neonEvenBlock (src : Bytes) (width row col : ℕ) (planes : Planes) : Option Planes := do
  let yuyv ← vld2qU8 src (row * (width * 2) + col * 2)
  let yPlane ← vst1qU8 planes.yPlane (row * width + col) yuyv.1
  -- the odd bytes are U and V in turn
  let uzp := vuzpU8 (vgetLowU8 yuyv.2) (vgetHighU8 yuyv.2)
  let uPlane ← vst1U8 planes.uPlane (row / 2 * (width / 2) + col / 2) uzp.1
  let vPlane ← vst1U8 planes.vPlane (row / 2 * (width / 2) + col / 2) uzp.2
  return { yPlane, uPlane, vPlane }

/-- Two pixels at the end of an even row. -/
def neonEvenTail (src : Bytes) (width row col : ℕ) (planes : Planes) : Option Planes := do
  let p := row * (width * 2) + col * 2
  let yPlane ← storeByte planes.yPlane (row * width + col) (← loadByte src p)
  let yPlane ← storeByte yPlane (row * width + (col + 1)) (← loadByte src (p + 2))
  let uPlane ← storeByte planes.uPlane (row / 2 * (width / 2) + col / 2) (← loadByte src (p + 1))
  let vPlane ← storeByte planes.vPlane (row / 2 * (width / 2) + col / 2) (← loadByte src (p + 3))
  return { yPlane, uPlane, vPlane }

/-- 16 pixels of an odd row, whose chroma is that of the row above. -/
def neonOddBlock (src : Bytes) (width row col : ℕ) (planes : Planes) : Option Planes := do
  let yuyv ← vld2qU8 src ((row + 1) * (width * 2) + col * 2)
  let yPlane ← vst1qU8 planes.yPlane ((row + 1) * width + col) yuyv.1
  return { planes with yPlane }

def neonOddTail (src : Bytes) (width row col : ℕ) (planes : Planes) : Option Planes := do
  let p := (row + 1) * (width * 2) + col * 2
  let yPlane ← storeByte planes.yPlane ((row + 1) * width + col) (← loadByte src p)
  let yPlane ← storeByte yPlane ((row + 1) * width + (col + 1)) (← loadByte src (p + 2))
  return { planes with yPlane }

/-- An even row and, if there is one, the odd row below it. -/
def neonRows (src : Bytes) (width height row : ℕ) (planes : Planes) : Option Planes := do
  let alignedWidth := width / 16 * 16
  let planes ← forLoop 0 alignedWidth 16 (neonEvenBlock src width row) planes
  -- fewer than 16 columns are left
  let planes ← forLoop alignedWidth width 2 (neonEvenTail src width row) planes
  if row + 1 < height then
    let planes ← forLoop 0 alignedWidth 16 (neonOddBlock src width row) planes
    forLoop alignedWidth width 2 (neonOddTail src width row) planes
  else return planes

def convertYuyv422ToI420Neon (src : Bytes) (width height : ℕ) (planes : Planes) :
    Option Planes :=
  forLoop 0 height 2 (neonRows src width height) planes

/-- Two pixels of the luma; `yIndex` counts the bytes that have been written. -/
def scalarLuma (src : Bytes) (width row col : ℕ) (s : Bytes × ℕ) : Option (Bytes × ℕ) := do
  let (yPlane, yIndex) := s
  let rowStart := row * (width * 2)
  let yPlane ← storeByte yPlane yIndex (← loadByte src (rowStart + col * 2))
  let yPlane ← storeByte yPlane (yIndex + 1) (← loadByte src (rowStart + col * 2 + 2))
  return (yPlane, yIndex + 2)

/-- The chroma of two pixels. -/
def scalarChroma (src : Bytes) (width row col : ℕ) (planes : Planes) : Option Planes := do
  let offset := row * (width * 2) + col * 2
  let uvRow := row / 2 * (width / 2)
  let uPlane ← storeByte planes.uPlane (uvRow + col / 2) (← loadByte src (offset + 1))
  let vPlane ← storeByte planes.vPlane (uvRow + col / 2) (← loadByte src (offset + 3))
  return { planes with uPlane, vPlane }

def convertYuyv422ToI420Scalar (src : Bytes) (width height : ℕ) (planes : Planes) :
    Option Planes := do
  let luma ← forLoop 0 height 1 (fun row => forLoop 0 width 2 (scalarLuma src width row))
    (planes.yPlane, 0)
  forLoop 0 height 2 (fun row => forLoop 0 width 2 (scalarChroma src width row))
    { planes with yPlane := luma.1 }

/-! ### The planes -/

/-- The luma of a picture: every other byte of the source. -/
def lumaPlane (src : Bytes) (width height : ℕ) : Bytes :=
  (List.range (width * height)).map fun i => byteAt src (2 * i)

/-- One byte of every four in the even rows of the source, the one at this place. -/
def chromaPlane (src : Bytes) (width height place : ℕ) : Bytes :=
  (List.range (height / 2 * (width / 2))).map fun i =>
    byteAt src (2 * (i / (width / 2)) * (width * 2) + 4 * (i % (width / 2)) + place)

/-- The planes when so many bytes of the luma and of either chroma have been written. -/
def planesAt (src : Bytes) (width height : ℕ) (planes : Planes) (luma chroma : ℕ) : Planes where
  yPlane := filledTo (lumaPlane src width height) planes.yPlane luma
  uPlane := filledTo (chromaPlane src width height 1) planes.uPlane chroma
  vPlane := filledTo (chromaPlane src width height 3) planes.vPlane chroma

/-- A picture of YUYV data with room for its planes. -/
structure Convertible (src : Bytes) (width height : ℕ) (planes : Planes) : Prop where
  length_src : src.length = width * height * 2
  length_yPlane : planes.yPlane.length = width * height
  length_uPlane : planes.uPlane.length = width * height / 4
  length_vPlane : planes.vPlane.length = width * height / 4

section

variable {src : Bytes}

theorem byteAt_sliceAt {b : Bytes} {offset length p : ℕ} (h : p < length) :
    byteAt (sliceAt b offset length) p = byteAt b (offset + p) := by
  rw [byteAt, byteAt, getElem?_sliceAt h]

theorem loadByte_eq {p : ℕ} (h : p < src.length) : loadByte src p = some (byteAt src p) :=
  getElem?_eq_byteAt h

theorem vld2qU8_eq {p : ℕ} (h : p + 32 ≤ src.length) :
    vld2qU8 src p = some
      (fun i : Fin 16 => byteAt src (p + 2 * i),
        fun i : Fin 16 => byteAt src (p + (2 * i + 1))) := by
  rw [vld2qU8, readAt_eq h, Option.map_some]
  congr 2
  · funext i
    exact byteAt_sliceAt (by omega)
  · funext i
    exact byteAt_sliceAt (by omega)

/-- The even lanes of a block of chroma are U, the odd ones V. -/
theorem vuzpU8_vget (v : Uint8x16) :
    vuzpU8 (vgetLowU8 v) (vgetHighU8 v) =
      (fun i : Fin 8 => v ⟨2 * i, by omega⟩, fun i : Fin 8 => v ⟨2 * i + 1, by omega⟩) := by
  have hlane (i : Fin 16) : (if h : (i : ℕ) < 8 then vgetLowU8 v ⟨i, h⟩
      else vgetHighU8 v ⟨i - 8, by omega⟩) = v i := by
    split
    · rfl
    · rename_i hhigh
      exact congrArg v (Fin.ext (Nat.add_sub_cancel' (not_lt.mp hhigh)))
  rw [vuzpU8]
  exact Prod.ext (funext fun i => hlane ⟨2 * i, by omega⟩)
    (funext fun i => hlane ⟨2 * i + 1, by omega⟩)

end

section

variable {src : Bytes} {m l k j row col count place : ℕ} {planes : Planes}

theorem length_lumaPlane (src : Bytes) (width height : ℕ) :
    (lumaPlane src width height).length = width * height := by
  rw [lumaPlane, List.length_map, List.length_range]

theorem length_chromaPlane (src : Bytes) (m l place : ℕ) :
    (chromaPlane src (2 * m) (2 * l) place).length = l * m := by
  rw [chromaPlane, List.length_map, List.length_range, Nat.mul_div_cancel_left _ Nat.two_pos,
    Nat.mul_div_cancel_left _ Nat.two_pos]

/-- Part of a row of the luma. -/
theorem sliceAt_lumaPlane (src : Bytes) {n width height : ℕ} (h : n + count ≤ width * height) :
    sliceAt (lumaPlane src width height) n count =
      List.ofFn fun i : Fin count => byteAt src (2 * (n + i)) :=
  sliceAt_map_range (fun i => byteAt src (2 * i)) h

/-- Part of a row of a chroma plane. -/
theorem sliceAt_chromaPlane (src : Bytes) (place : ℕ) (hk : k < l) (hj : j + count ≤ m) :
    sliceAt (chromaPlane src (2 * m) (2 * l) place) (k * m + j) count =
      List.ofFn fun i : Fin count =>
        byteAt src (2 * k * (2 * m * 2) + 4 * (j + i) + place) := by
  have hfits : k * m + j + count ≤ l * m :=
    calc k * m + j + count = k * m + (j + count) := Nat.add_assoc _ _ _
      _ ≤ k * m + m := Nat.add_le_add_left hj _
      _ = (k + 1) * m := (Nat.succ_mul k m).symm
      _ ≤ l * m := Nat.mul_le_mul_right m hk
  rw [chromaPlane, Nat.mul_div_cancel_left _ Nat.two_pos, Nat.mul_div_cancel_left _ Nat.two_pos,
    sliceAt_map_range _ hfits]
  congr 1
  funext i
  have hin : j + i < m := by omega
  have hrow : (k * m + j + i) / m = k := by
    rw [Nat.add_assoc, Nat.add_comm, Nat.add_mul_div_right _ _ (by omega), Nat.div_eq_of_lt hin,
      Nat.zero_add]
  have hcol : (k * m + j + i) % m = j + i := by
    rw [Nat.add_assoc, Nat.mul_add_mod', Nat.mod_eq_of_lt hin]
  rw [hrow, hcol]

/-- A row lies inside the picture. -/
theorem row_fits {width height : ℕ} (hrow : row < height) (hcol : col + count ≤ width) :
    row * width + col + count ≤ width * height := by
  calc row * width + col + count = row * width + (col + count) := Nat.add_assoc _ _ _
    _ ≤ row * width + width := Nat.add_le_add_left hcol _
    _ = (row + 1) * width := (Nat.succ_mul row width).symm
    _ ≤ height * width := Nat.mul_le_mul_right width hrow
    _ = width * height := Nat.mul_comm _ _

theorem storeAt_luma {width height : ℕ} (h : planes.yPlane.length = width * height)
    (hrow : row < height) (hcol : col + count ≤ width) :
    storeAt (filledTo (lumaPlane src width height) planes.yPlane (row * width + col))
        (row * width + col)
        (List.ofFn fun i : Fin count => byteAt src (2 * (row * width + col + i))) =
      some (filledTo (lumaPlane src width height) planes.yPlane (row * width + (col + count))) := by
  have hfits := row_fits hrow hcol
  have hslice := sliceAt_lumaPlane src hfits
  rw [← hslice]
  have hlength : (sliceAt (lumaPlane src width height) (row * width + col) count).length =
      count := by
    rw [hslice, List.length_ofFn]
  rw [storeAt_filledTo (h.trans (length_lumaPlane _ _ _).symm), hlength, Nat.add_assoc]
  · rw [hlength, length_lumaPlane]
    exact hfits
  · rw [hlength]

theorem storeAt_chroma (src : Bytes) {plane : Bytes} (h : plane.length = l * m) (place : ℕ)
    (hk : k < l) (hj : j + count ≤ m) :
    storeAt (filledTo (chromaPlane src (2 * m) (2 * l) place) plane (k * m + j)) (k * m + j)
        (List.ofFn fun i : Fin count =>
          byteAt src (2 * k * (2 * m * 2) + 4 * (j + i) + place)) =
      some (filledTo (chromaPlane src (2 * m) (2 * l) place) plane (k * m + (j + count))) := by
  have hslice := sliceAt_chromaPlane src place hk hj
  have hfits : k * m + j + count ≤ l * m := by
    rw [Nat.mul_comm l m]
    exact row_fits hk hj
  rw [← hslice]
  have hlength : (sliceAt (chromaPlane src (2 * m) (2 * l) place) (k * m + j) count).length =
      count := by
    rw [hslice, List.length_ofFn]
  rw [storeAt_filledTo (h.trans (length_chromaPlane _ _ _ _).symm), hlength, Nat.add_assoc]
  · rw [hlength, length_chromaPlane]
    exact hfits
  · rw [hlength]

/-! ### The bodies of the loops -/

/-- A place in a row of the source, in pairs of bytes. -/
theorem source_place (row width col : ℕ) :
    row * (width * 2) + col * 2 = 2 * (row * width + col) := by
  ring

/-- A block of a row of the luma. -/
theorem vst1qU8_luma {width height : ℕ} (h : Convertible src width height planes)
    (hrow : row < height) (hcol : col + 16 ≤ width) :
    ∃ chroma : Uint8x16,
      vld2qU8 src (row * (width * 2) + col * 2) =
          some (fun i : Fin 16 => byteAt src (2 * (row * width + col + i)), chroma) ∧
        (∀ i : Fin 16, chroma i = byteAt src (row * (width * 2) + col * 2 + (2 * i + 1))) ∧
        vst1qU8 (filledTo (lumaPlane src width height) planes.yPlane (row * width + col))
            (row * width + col) (fun i : Fin 16 => byteAt src (2 * (row * width + col + i))) =
          some (filledTo (lumaPlane src width height) planes.yPlane
            (row * width + (col + 16))) := by
  have hfits : row * (width * 2) + col * 2 + 32 ≤ src.length := by
    have hpicture := row_fits hrow hcol
    rw [h.length_src, source_place]
    omega
  refine ⟨_, ?_, fun i => rfl, storeAt_luma h.length_yPlane hrow hcol⟩
  rw [vld2qU8_eq hfits]
  congr 2
  funext i
  rw [source_place]
  congr 1
  ring

/-- A byte of a row of the luma. -/
theorem storeByte_luma {width height : ℕ} (h : Convertible src width height planes)
    (hrow : row < height) (hcol : col < width) :
    loadByte src (2 * (row * width + col)) = some (byteAt src (2 * (row * width + col))) ∧
      storeByte (filledTo (lumaPlane src width height) planes.yPlane (row * width + col))
          (row * width + col) (byteAt src (2 * (row * width + col))) =
        some (filledTo (lumaPlane src width height) planes.yPlane (row * width + (col + 1))) := by
  have hpicture : row * width + col + 1 ≤ width * height := row_fits hrow hcol
  refine ⟨loadByte_eq ?_, ?_⟩
  · rw [h.length_src]
    omega
  · exact storeAt_luma h.length_yPlane hrow (show col + 1 ≤ width from hcol)

/-- Two pixels of a row of the luma. -/
theorem storeByte_pair {width height : ℕ} (h : Convertible src width height planes)
    (hrow : row < height) (hcol : col + 2 ≤ width) :
    ∃ first second, loadByte src (row * (width * 2) + col * 2) = some first ∧
      loadByte src (row * (width * 2) + col * 2 + 2) = some second ∧
      storeByte (filledTo (lumaPlane src width height) planes.yPlane (row * width + col))
          (row * width + col) first =
        some (filledTo (lumaPlane src width height) planes.yPlane (row * width + (col + 1))) ∧
      storeByte (filledTo (lumaPlane src width height) planes.yPlane (row * width + (col + 1)))
          (row * width + (col + 1)) second =
        some (filledTo (lumaPlane src width height) planes.yPlane (row * width + (col + 2))) := by
  obtain ⟨hload, hstore⟩ := storeByte_luma h hrow (show col < width by omega)
  obtain ⟨hload', hstore'⟩ := storeByte_luma h hrow (show col + 1 < width by omega)
  have hplace : row * (width * 2) + col * 2 + 2 = 2 * (row * width + (col + 1)) := by ring
  rw [hplace, source_place]
  exact ⟨_, _, hload, hload', hstore, hstore'⟩

theorem quarter_eq (m l : ℕ) : 2 * m * (2 * l) / 4 = l * m := by
  rw [show 2 * m * (2 * l) = 4 * (l * m) by ring, Nat.mul_div_cancel_left _ (by norm_num)]

theorem Convertible.length_chroma (h : Convertible src (2 * m) (2 * l) planes) :
    planes.uPlane.length = l * m ∧ planes.vPlane.length = l * m :=
  ⟨h.length_uPlane.trans (quarter_eq m l), h.length_vPlane.trans (quarter_eq m l)⟩

/-- The chroma of two pixels of an even row. -/
theorem storeByte_chroma (h : Convertible src (2 * m) (2 * l) planes) {plane : Bytes}
    (hplane : plane.length = l * m) (hk : k < l) (hj : j < m) (hplace : place < 4) :
    loadByte src (2 * k * (2 * m * 2) + 4 * j + place) =
        some (byteAt src (2 * k * (2 * m * 2) + 4 * j + place)) ∧
      storeByte (filledTo (chromaPlane src (2 * m) (2 * l) place) plane (k * m + j)) (k * m + j)
          (byteAt src (2 * k * (2 * m * 2) + 4 * j + place)) =
        some (filledTo (chromaPlane src (2 * m) (2 * l) place) plane (k * m + (j + 1))) := by
  refine ⟨loadByte_eq ?_, storeAt_chroma src hplane place hk (show j + 1 ≤ m from hj)⟩
  have hfits : k * m + j + 1 ≤ m * l := row_fits hk hj
  have hsize : 2 * m * (2 * l) * 2 = 8 * (m * l) := by ring
  have hrow : 2 * k * (2 * m * 2) = 8 * (k * m) := by ring
  rw [h.length_src, hsize, hrow]
  omega

theorem neonEvenBlock_eq (h : Convertible src (2 * m) (2 * l) planes) (hk : k < l)
    (hj : j + 8 ≤ m) :
    neonEvenBlock src (2 * m) (2 * k) (2 * j)
        (planesAt src (2 * m) (2 * l) planes (2 * k * (2 * m) + 2 * j) (k * m + j)) =
      some (planesAt src (2 * m) (2 * l) planes (2 * k * (2 * m) + (2 * j + 16))
        (k * m + (j + 8))) := by
  have hcol : 2 * j + 16 ≤ 2 * m := by omega
  obtain ⟨chroma, hload, hchroma, hluma⟩ := vst1qU8_luma h (show 2 * k < 2 * l by omega) hcol
  have hrow : 2 * k / 2 * (2 * m / 2) + 2 * j / 2 = k * m + j := by
    rw [Nat.mul_div_cancel_left _ Nat.two_pos, Nat.mul_div_cancel_left _ Nat.two_pos,
      Nat.mul_div_cancel_left _ Nat.two_pos]
  have hu := storeAt_chroma src h.length_chroma.1 1 hk hj
  have hv := storeAt_chroma src h.length_chroma.2 3 hk hj
  have heven : (fun i : Fin 8 => chroma ⟨2 * i, by omega⟩) =
      fun i : Fin 8 => byteAt src (2 * k * (2 * m * 2) + 4 * (j + i) + 1) := by
    funext i
    rw [hchroma]
    congr 1
    ring
  have hodd : (fun i : Fin 8 => chroma ⟨2 * i + 1, by omega⟩) =
      fun i : Fin 8 => byteAt src (2 * k * (2 * m * 2) + 4 * (j + i) + 3) := by
    funext i
    rw [hchroma]
    congr 1
    ring
  simp only [neonEvenBlock, hload, planesAt, Option.bind_eq_bind, Option.bind_some, hluma,
    vuzpU8_vget, heven, hodd, hrow, vst1U8, hu, hv]
  rfl

/-- The chroma of two pixels, at the places that the loops compute. -/
theorem storeByte_chromaPair (h : Convertible src (2 * m) (2 * l) planes) (hk : k < l)
    (hj : j < m) :
    ∃ u v, loadByte src (2 * k * (2 * m * 2) + 2 * j * 2 + 1) = some u ∧
      loadByte src (2 * k * (2 * m * 2) + 2 * j * 2 + 3) = some v ∧
      storeByte (filledTo (chromaPlane src (2 * m) (2 * l) 1) planes.uPlane (k * m + j))
          (2 * k / 2 * (2 * m / 2) + 2 * j / 2) u =
        some (filledTo (chromaPlane src (2 * m) (2 * l) 1) planes.uPlane (k * m + (j + 1))) ∧
      storeByte (filledTo (chromaPlane src (2 * m) (2 * l) 3) planes.vPlane (k * m + j))
          (2 * k / 2 * (2 * m / 2) + 2 * j / 2) v =
        some (filledTo (chromaPlane src (2 * m) (2 * l) 3) planes.vPlane (k * m + (j + 1))) := by
  have hplace : 2 * j * 2 = 4 * j := by ring
  rw [hplace, Nat.mul_div_cancel_left _ Nat.two_pos, Nat.mul_div_cancel_left _ Nat.two_pos,
    Nat.mul_div_cancel_left _ Nat.two_pos]
  obtain ⟨hu, hstoreU⟩ := storeByte_chroma h h.length_chroma.1 hk hj (show 1 < 4 by norm_num)
  obtain ⟨hv, hstoreV⟩ := storeByte_chroma h h.length_chroma.2 hk hj (show 3 < 4 by norm_num)
  exact ⟨_, _, hu, hv, hstoreU, hstoreV⟩

theorem neonEvenTail_eq (h : Convertible src (2 * m) (2 * l) planes) (hk : k < l) (hj : j < m) :
    neonEvenTail src (2 * m) (2 * k) (2 * j)
        (planesAt src (2 * m) (2 * l) planes (2 * k * (2 * m) + 2 * j) (k * m + j)) =
      some (planesAt src (2 * m) (2 * l) planes (2 * k * (2 * m) + (2 * j + 2))
        (k * m + (j + 1))) := by
  have hcol : 2 * j + 2 ≤ 2 * m := by omega
  obtain ⟨first, second, hfirst, hsecond, hstore, hstore'⟩ :=
    storeByte_pair h (show 2 * k < 2 * l by omega) hcol
  obtain ⟨u, v, hu, hv, hstoreU, hstoreV⟩ := storeByte_chromaPair h hk hj
  simp only [neonEvenTail, planesAt, Option.bind_eq_bind, hfirst, hsecond, hu, hv,
    Option.bind_some, hstore, hstore', hstoreU, hstoreV]
  rfl

theorem neonOddBlock_eq {width height : ℕ} (h : Convertible src width height planes)
    (hrow : row + 1 < height) (hcol : col + 16 ≤ width) (chroma : ℕ) :
    neonOddBlock src width row col
        (planesAt src width height planes ((row + 1) * width + col) chroma) =
      some (planesAt src width height planes ((row + 1) * width + (col + 16)) chroma) := by
  obtain ⟨_, hload, -, hluma⟩ := vst1qU8_luma h hrow hcol
  simp only [neonOddBlock, planesAt, Option.bind_eq_bind, hload, Option.bind_some, hluma]
  rfl

theorem neonOddTail_eq {width height : ℕ} (h : Convertible src width height planes)
    (hrow : row + 1 < height) (hcol : col + 2 ≤ width) (chroma : ℕ) :
    neonOddTail src width row col
        (planesAt src width height planes ((row + 1) * width + col) chroma) =
      some (planesAt src width height planes ((row + 1) * width + (col + 2)) chroma) := by
  obtain ⟨first, second, hfirst, hsecond, hstore, hstore'⟩ := storeByte_pair h hrow hcol
  simp only [neonOddTail, planesAt, Option.bind_eq_bind, hfirst, hsecond, Option.bind_some,
    hstore, hstore']
  rfl

theorem scalarLuma_eq {width height : ℕ} (h : Convertible src width height planes)
    (hrow : row < height) (hcol : col + 2 ≤ width) :
    scalarLuma src width row col
        (filledTo (lumaPlane src width height) planes.yPlane (row * width + col),
          row * width + col) =
      some (filledTo (lumaPlane src width height) planes.yPlane (row * width + (col + 2)),
        row * width + (col + 2)) := by
  obtain ⟨first, second, hfirst, hsecond, hstore, hstore'⟩ := storeByte_pair h hrow hcol
  rw [← Nat.add_assoc] at hstore'
  simp only [scalarLuma, Option.bind_eq_bind, hfirst, hsecond, Option.bind_some, hstore]
  rw [← Nat.add_assoc (row * width) col 1, hstore']
  rfl

theorem scalarChroma_eq (h : Convertible src (2 * m) (2 * l) planes) (hk : k < l) (hj : j < m)
    (luma : ℕ) :
    scalarChroma src (2 * m) (2 * k) (2 * j)
        (planesAt src (2 * m) (2 * l) planes luma (k * m + j)) =
      some (planesAt src (2 * m) (2 * l) planes luma (k * m + (j + 1))) := by
  obtain ⟨u, v, hu, hv, hstoreU, hstoreV⟩ := storeByte_chromaPair h hk hj
  simp only [scalarChroma, planesAt, Option.bind_eq_bind, hu, hv, Option.bind_some, hstoreU,
    hstoreV]
  rfl

/-! ### The loops -/

/-- A loop in steps of two. -/
theorem forLoop_pairs {σ : Type*} {body : ℕ → σ → Option σ} (state : ℕ → σ)
    (hbody : ∀ j < m, body (2 * j) (state j) = some (state (j + 1))) :
    forLoop 0 (2 * m) 2 body (state 0) = some (state m) := by
  apply forLoop_eq state Nat.two_pos (Nat.zero_add _).symm
  intro j hj
  rw [Nat.zero_add]
  exact hbody j hj

/-- The two loops over a row: whole blocks, then the pairs that are left. -/
theorem forLoop_row {σ : Type*} {block tail : ℕ → σ → Option σ} (state : ℕ → σ)
    (hblock : ∀ j, j + 8 ≤ m → block (2 * j) (state j) = some (state (j + 8)))
    (htail : ∀ j < m, tail (2 * j) (state j) = some (state (j + 1))) :
    (forLoop 0 (2 * m / 16 * 16) 16 block (state 0)).bind
      (forLoop (2 * m / 16 * 16) (2 * m) 2 tail) = some (state m) := by
  have haligned : 2 * m / 16 * 16 = 16 * (m / 8) := by omega
  -- the state counts pairs, of which a block has eight
  have hblocks : forLoop 0 (16 * (m / 8)) 16 block (state (8 * 0)) =
      some (state (8 * (m / 8))) := by
    apply forLoop_eq (fun i => state (8 * i)) (by norm_num) (Nat.zero_add _).symm
    intro i hi
    rw [show 0 + 16 * i = 2 * (8 * i) by ring]
    exact hblock (8 * i) (by omega)
  have hrest : forLoop (16 * (m / 8)) (2 * m) 2 tail (state (8 * (m / 8) + 0)) =
      some (state (8 * (m / 8) + (m - 8 * (m / 8)))) := by
    apply forLoop_eq (fun i => state (8 * (m / 8) + i)) Nat.two_pos (by omega)
    intro i hi
    rw [show 16 * (m / 8) + 2 * i = 2 * (8 * (m / 8) + i) by ring]
    exact htail (8 * (m / 8) + i) (by omega)
  rw [show 8 * (m / 8) + (m - 8 * (m / 8)) = m by omega] at hrest
  rw [haligned]
  exact (congrArg (Option.bind · _) hblocks).trans hrest

/-- Two rows of the picture. -/
theorem neonRows_eq (h : Convertible src (2 * m) (2 * l) planes) (hk : k < l) :
    neonRows src (2 * m) (2 * l) (2 * k)
        (planesAt src (2 * m) (2 * l) planes (2 * k * (2 * m)) (k * m)) =
      some (planesAt src (2 * m) (2 * l) planes (2 * (k + 1) * (2 * m)) ((k + 1) * m)) := by
  have hbelow : 2 * k + 1 < 2 * l := by omega
  have heven : (forLoop 0 (2 * m / 16 * 16) 16 (neonEvenBlock src (2 * m) (2 * k))
        (planesAt src (2 * m) (2 * l) planes (2 * k * (2 * m)) (k * m))).bind
      (forLoop (2 * m / 16 * 16) (2 * m) 2 (neonEvenTail src (2 * m) (2 * k))) =
      some (planesAt src (2 * m) (2 * l) planes ((2 * k + 1) * (2 * m)) ((k + 1) * m)) := by
    -- the upper row fills a row of the luma and one of either chroma
    rw [Nat.succ_mul (2 * k), Nat.succ_mul k]
    exact forLoop_row
      (fun j => planesAt src (2 * m) (2 * l) planes (2 * k * (2 * m) + 2 * j) (k * m + j))
      (fun j hj => neonEvenBlock_eq h hk hj) (fun j hj => neonEvenTail_eq h hk hj)
  have hodd : (forLoop 0 (2 * m / 16 * 16) 16 (neonOddBlock src (2 * m) (2 * k))
        (planesAt src (2 * m) (2 * l) planes ((2 * k + 1) * (2 * m)) ((k + 1) * m))).bind
      (forLoop (2 * m / 16 * 16) (2 * m) 2 (neonOddTail src (2 * m) (2 * k))) =
      some (planesAt src (2 * m) (2 * l) planes (2 * (k + 1) * (2 * m)) ((k + 1) * m)) := by
    -- the lower row fills a row of the luma only
    rw [show 2 * (k + 1) * (2 * m) = (2 * k + 1) * (2 * m) + 2 * m by ring]
    exact forLoop_row
      (fun j => planesAt src (2 * m) (2 * l) planes ((2 * k + 1) * (2 * m) + 2 * j) ((k + 1) * m))
      (fun j (hj : j + 8 ≤ m) =>
        neonOddBlock_eq h hbelow (show 2 * j + 16 ≤ 2 * m by omega) ((k + 1) * m))
      (fun j (hj : j < m) =>
        neonOddTail_eq h hbelow (show 2 * j + 2 ≤ 2 * m by omega) ((k + 1) * m))
  rw [neonRows]
  obtain ⟨blocks, hblocks, htail⟩ := Option.bind_eq_some_iff.mp heven
  simp only [Option.bind_eq_bind, hblocks, Option.bind_some, htail, if_pos hbelow]
  exact hodd

theorem convertYuyv422ToI420Neon_eq (h : Convertible src (2 * m) (2 * l) planes) :
    convertYuyv422ToI420Neon src (2 * m) (2 * l) planes =
      some (planesAt src (2 * m) (2 * l) planes (2 * l * (2 * m)) (l * m)) := by
  have hrows := forLoop_pairs
    (fun k => planesAt src (2 * m) (2 * l) planes (2 * k * (2 * m)) (k * m))
    (fun k hk => neonRows_eq h hk)
  simp only [Nat.mul_zero, Nat.zero_mul, planesAt, filledTo_zero] at hrows
  exact hrows

/-- The luma, byte after byte. -/
theorem scalarLuma_rows (h : Convertible src (2 * m) (2 * l) planes) :
    forLoop 0 (2 * l) 1 (fun row => forLoop 0 (2 * m) 2 (scalarLuma src (2 * m) row))
        (planes.yPlane, 0) =
      some (filledTo (lumaPlane src (2 * m) (2 * l)) planes.yPlane (2 * l * (2 * m)),
        2 * l * (2 * m)) := by
  have hrows : forLoop 0 (2 * l) 1 (fun row => forLoop 0 (2 * m) 2 (scalarLuma src (2 * m) row))
        (filledTo (lumaPlane src (2 * m) (2 * l)) planes.yPlane (0 * (2 * m)), 0 * (2 * m)) =
      some (filledTo (lumaPlane src (2 * m) (2 * l)) planes.yPlane (2 * l * (2 * m)),
        2 * l * (2 * m)) := by
    apply forLoop_eq (fun row => (filledTo (lumaPlane src (2 * m) (2 * l)) planes.yPlane
      (row * (2 * m)), row * (2 * m))) Nat.one_pos (by omega)
    intro row hrow
    rw [Nat.zero_add, Nat.one_mul, Nat.succ_mul row]
    exact forLoop_pairs
      (fun j => (filledTo (lumaPlane src (2 * m) (2 * l)) planes.yPlane (row * (2 * m) + 2 * j),
        row * (2 * m) + 2 * j))
      (fun j (hj : j < m) => scalarLuma_eq h hrow (show 2 * j + 2 ≤ 2 * m by omega))
  rw [Nat.zero_mul, filledTo_zero] at hrows
  exact hrows

theorem convertYuyv422ToI420Scalar_eq (h : Convertible src (2 * m) (2 * l) planes) :
    convertYuyv422ToI420Scalar src (2 * m) (2 * l) planes =
      some (planesAt src (2 * m) (2 * l) planes (2 * l * (2 * m)) (l * m)) := by
  have hrows : forLoop 0 (2 * l) 2
        (fun row => forLoop 0 (2 * m) 2 (scalarChroma src (2 * m) row))
        (planesAt src (2 * m) (2 * l) planes (2 * l * (2 * m)) (0 * m)) =
      some (planesAt src (2 * m) (2 * l) planes (2 * l * (2 * m)) (l * m)) := by
    -- the luma is complete before the chroma begins
    apply forLoop_pairs fun k => planesAt src (2 * m) (2 * l) planes (2 * l * (2 * m)) (k * m)
    intro k hk
    rw [Nat.succ_mul k]
    exact forLoop_pairs
      (fun j => planesAt src (2 * m) (2 * l) planes (2 * l * (2 * m)) (k * m + j))
      (fun j (hj : j < m) => scalarChroma_eq h hk hj (2 * l * (2 * m)))
  simp only [Nat.zero_mul, planesAt, filledTo_zero] at hrows
  rw [convertYuyv422ToI420Scalar, scalarLuma_rows h]
  exact hrows

/-- Every byte of the planes has been written. -/
theorem planesAt_whole (h : Convertible src (2 * m) (2 * l) planes) :
    planesAt src (2 * m) (2 * l) planes (2 * l * (2 * m)) (l * m) =
      { yPlane := lumaPlane src (2 * m) (2 * l)
        uPlane := chromaPlane src (2 * m) (2 * l) 1
        vPlane := chromaPlane src (2 * m) (2 * l) 3 } := by
  have hy := filledTo_length (h.length_yPlane.trans (length_lumaPlane src _ _).symm)
  have hu := filledTo_length (h.length_chroma.1.trans (length_chromaPlane src m l 1).symm)
  have hv := filledTo_length (h.length_chroma.2.trans (length_chromaPlane src m l 3).symm)
  rw [length_lumaPlane, Nat.mul_comm (2 * m) (2 * l)] at hy
  rw [length_chromaPlane] at hu hv
  rw [planesAt, hy, hu, hv]

theorem getElem?_lumaPlane {width height r c : ℕ} (hsrc : src.length = width * height * 2)
    (hr : r < height) (hc : c < width) :
    (lumaPlane src width height)[r * width + c]? = src[2 * (r * width + c)]? := by
  have hfits : r * width + c + 1 ≤ width * height := row_fits hr hc
  rw [lumaPlane, List.getElem?_map, List.getElem?_range hfits]
  exact (loadByte_eq (show 2 * (r * width + c) < src.length by omega)).symm

theorem getElem?_chromaPlane (hsrc : src.length = 2 * m * (2 * l) * 2) (hk : k < l) (hj : j < m)
    (hplace : place < 4) :
    (chromaPlane src (2 * m) (2 * l) place)[k * m + j]? =
      src[2 * k * (2 * (2 * m)) + (4 * j + place)]? := by
  have hfits : k * m + j + 1 ≤ l * m := by
    rw [Nat.mul_comm l m]
    exact row_fits hk hj
  have hindex : 2 * k * (2 * (2 * m)) + (4 * j + place) < src.length := by
    have hsize : 2 * m * (2 * l) * 2 = 8 * (l * m) := by ring
    have hrow : 2 * k * (2 * (2 * m)) = 8 * (k * m) := by ring
    rw [hsrc, hsize, hrow]
    omega
  have hhere := congrArg (fun bytes : Bytes => bytes[0]?)
    (sliceAt_chromaPlane src place hk (show j + 1 ≤ m from hj))
  simp only [getElem?_sliceAt Nat.one_pos, Nat.add_zero] at hhere
  rw [hhere, List.getElem?_ofFn, dif_pos Nat.one_pos, getElem?_eq_byteAt hindex]
  congr 2
  show 2 * k * (2 * m * 2) + 4 * (j + 0) + place = _
  ring

end

/-- Both conversions write every byte of the planes, and the same one: the luma of pixel
`(r, c)` is byte `2 * (r * width + c)` of the source, and the chroma of row `k` comes from row
`2 * k` of the source. -/
theorem convertYuyv422ToI420_agree {src : Bytes} {width height : ℕ} (hwidth : 2 ∣ width)
    (hheight : 2 ∣ height) (hsrc : src.length = width * height * 2) :
    ∃ out : Planes,
      (∀ planes : Planes, planes.yPlane.length = width * height →
        planes.uPlane.length = width * height / 4 → planes.vPlane.length = width * height / 4 →
        convertYuyv422ToI420Neon src width height planes = some out ∧
          convertYuyv422ToI420Scalar src width height planes = some out) ∧
      out.yPlane.length = width * height ∧ out.uPlane.length = width * height / 4 ∧
      out.vPlane.length = width * height / 4 ∧
      (∀ r < height, ∀ c < width,
        out.yPlane[r * width + c]? = src[2 * (r * width + c)]?) ∧
      ∀ k < height / 2, ∀ j < width / 2,
        out.uPlane[k * (width / 2) + j]? = src[2 * k * (2 * width) + (4 * j + 1)]? ∧
          out.vPlane[k * (width / 2) + j]? = src[2 * k * (2 * width) + (4 * j + 3)]? := by
  obtain ⟨m, rfl⟩ := hwidth
  obtain ⟨l, rfl⟩ := hheight
  refine ⟨{ yPlane := lumaPlane src (2 * m) (2 * l)
            uPlane := chromaPlane src (2 * m) (2 * l) 1
            vPlane := chromaPlane src (2 * m) (2 * l) 3 }, ?_, ?_, ?_, ?_, ?_, ?_⟩
  · intro planes hy hu hv
    have h : Convertible src (2 * m) (2 * l) planes := ⟨hsrc, hy, hu, hv⟩
    rw [convertYuyv422ToI420Neon_eq h, convertYuyv422ToI420Scalar_eq h, planesAt_whole h]
    exact ⟨rfl, rfl⟩
  · exact length_lumaPlane src _ _
  · rw [quarter_eq]
    exact length_chromaPlane src m l 1
  · rw [quarter_eq]
    exact length_chromaPlane src m l 3
  · intro r hr c hc
    exact getElem?_lumaPlane hsrc hr hc
  · intro k hk j hj
    rw [Nat.mul_div_cancel_left _ Nat.two_pos] at hk hj ⊢
    exact ⟨getElem?_chromaPlane hsrc hk hj (by norm_num),
      getElem?_chromaPlane hsrc hk hj (by norm_num)⟩

/-- A picture of two rows, each one block and one pair. -/
def widePicture : Bytes := (List.range 72).map UInt8.ofNat

theorem widePicture_agree :
    ∃ out : Planes, convertYuyv422ToI420Neon widePicture 18 2
        ⟨List.replicate 36 0, List.replicate 9 0, List.replicate 9 0⟩ = some out ∧
      convertYuyv422ToI420Scalar widePicture 18 2
        ⟨List.replicate 36 0, List.replicate 9 0, List.replicate 9 0⟩ = some out ∧
      out.yPlane[35]? = some 70 ∧ out.uPlane[8]? = some 33 ∧ out.vPlane[8]? = some 35 := by
  obtain ⟨out, hout, -, -, -, hy, huv⟩ :=
    @convertYuyv422ToI420_agree widePicture 18 2 ⟨9, rfl⟩ ⟨1, rfl⟩ rfl
  obtain ⟨hneon, hscalar⟩ := hout ⟨List.replicate 36 0, List.replicate 9 0, List.replicate 9 0⟩
    List.length_replicate List.length_replicate List.length_replicate
  obtain ⟨hu, hv⟩ := huv 0 Nat.one_pos 8 (by norm_num)
  exact ⟨out, hneon, hscalar, hy 1 (by norm_num) 17 (by norm_num), hu, hv⟩

end AvProject.Server
