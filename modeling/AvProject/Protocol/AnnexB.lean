import AvProject.Lib.Bytes

/-!
NAL units of an H.264 stream in Annex-B format: splitting a frame at its start
codes, and writing units behind start codes.
-/

namespace AvProject.Protocol

open AvProject.Lib

/-- `H264NaluView::nal_type`; an empty view has type 0. -/
def nalType (nalu : Bytes) : UInt8 := byteAt nalu 0 &&& 0x1F

/-! ### Splitting -/

/-- The loop of `FindAnnexBStartCode` over the next `steps` positions: the index of
a start code and its size, or the end of the data and zero. -/
def findStartCodeFrom (data : Bytes) : ℕ → ℕ → ℕ × ℕ
  | 0, _ => (data.length, 0)
  | steps + 1, index =>
      if data.length < index + 3 then (data.length, 0)
      else if byteAt data index ≠ 0 ∨ byteAt data (index + 1) ≠ 0 then
        findStartCodeFrom data steps (index + 1)
      else if byteAt data (index + 2) = 1 then (index, 3)
      else if index + 4 ≤ data.length ∧ byteAt data (index + 2) = 0 ∧
          byteAt data (index + 3) = 1 then (index, 4)
      else findStartCodeFrom data steps (index + 1)

def findAnnexBStartCode (data : Bytes) (offset : ℕ) : ℕ × ℕ :=
  findStartCodeFrom data (data.length - offset) offset

/-- `payload_end` without the zero bytes before it. -/
def trimZeros (data : Bytes) (payloadStart : ℕ) : ℕ → ℕ
  | 0 => 0
  | payloadEnd + 1 =>
      if payloadStart < payloadEnd + 1 ∧ byteAt data payloadEnd = 0 then
        trimZeros data payloadStart payloadEnd
      else payloadEnd + 1

/-- The loop of `SplitAnnexBNalus`, run at most `fuel` times. -/
def splitNalusFrom (data : Bytes) : ℕ → ℕ → ℕ → List Bytes
  | 0, _, _ => []
  | fuel + 1, start, startCodeSize =>
      if start < data.length then
        let payloadStart := start + startCodeSize
        let (next, nextStartCodeSize) := findAnnexBStartCode data payloadStart
        let payloadEnd := trimZeros data payloadStart next
        let rest := splitNalusFrom data fuel next nextStartCodeSize
        if payloadStart < payloadEnd then
          sliceAt data payloadStart (payloadEnd - payloadStart) :: rest
        else rest
      else []

def splitAnnexBNalus (data : Bytes) : List Bytes :=
  let (start, startCodeSize) := findAnnexBStartCode data 0
  splitNalusFrom data data.length start startCodeSize

/-- A start code lies inside the data, at or after the place where the search began. -/
theorem findStartCodeFrom_spec (data : Bytes) (steps index : ℕ) :
    findStartCodeFrom data steps index = (data.length, 0) ∨
      index ≤ (findStartCodeFrom data steps index).1 ∧
        3 ≤ (findStartCodeFrom data steps index).2 ∧
        (findStartCodeFrom data steps index).1 + (findStartCodeFrom data steps index).2 ≤
          data.length := by
  induction steps generalizing index with
  | zero => exact .inl rfl
  | succ steps ih =>
      rw [findStartCodeFrom]
      have hnext := ih (index + 1)
      split
      · exact .inl rfl
      split
      · exact hnext.imp_right fun h => ⟨by omega, h.2⟩
      split
      · exact .inr ⟨le_rfl, le_rfl, by simp only; omega⟩
      split
      · exact .inr ⟨le_rfl, by simp, by simp only; omega⟩
      · exact hnext.imp_right fun h => ⟨by omega, h.2⟩

theorem findAnnexBStartCode_spec (data : Bytes) (offset : ℕ) :
    findAnnexBStartCode data offset = (data.length, 0) ∨
      offset ≤ (findAnnexBStartCode data offset).1 ∧
        3 ≤ (findAnnexBStartCode data offset).2 ∧
        (findAnnexBStartCode data offset).1 + (findAnnexBStartCode data offset).2 ≤
          data.length :=
  findStartCodeFrom_spec data _ offset

theorem findAnnexBStartCode_le (data : Bytes) (offset : ℕ) :
    (findAnnexBStartCode data offset).1 ≤ data.length := by
  rcases findAnnexBStartCode_spec data offset with hend | hfound
  · rw [hend]
  · omega

theorem trimZeros_le (data : Bytes) (payloadStart payloadEnd : ℕ) :
    trimZeros data payloadStart payloadEnd ≤ payloadEnd := by
  induction payloadEnd with
  | zero => exact le_rfl
  | succ payloadEnd ih =>
      rw [trimZeros]
      split
      · omega
      · exact le_rfl

/-- As many iterations as there are bytes left are enough. -/
theorem splitNalusFrom_fuel {data : Bytes} {start startCodeSize fuel fuel' : ℕ}
    (hcode : start < data.length → 0 < startCodeSize)
    (hfuel : data.length - start ≤ fuel) (hfuel' : data.length - start ≤ fuel') :
    splitNalusFrom data fuel start startCodeSize =
      splitNalusFrom data fuel' start startCodeSize := by
  induction fuel generalizing start startCodeSize fuel' with
  | zero =>
      cases fuel' with
      | zero => rfl
      | succ fuel' => rw [splitNalusFrom, splitNalusFrom, if_neg (by omega)]
  | succ fuel ih =>
      cases fuel' with
      | zero => rw [splitNalusFrom, splitNalusFrom, if_neg (by omega)]
      | succ fuel' =>
          rw [splitNalusFrom, splitNalusFrom]
          split
          · rename_i hlt
            have hpos := hcode hlt
            have hrest : splitNalusFrom data fuel
                (findAnnexBStartCode data (start + startCodeSize)).1
                (findAnnexBStartCode data (start + startCodeSize)).2 =
                splitNalusFrom data fuel'
                  (findAnnexBStartCode data (start + startCodeSize)).1
                  (findAnnexBStartCode data (start + startCodeSize)).2 := by
              rcases findAnnexBStartCode_spec data (start + startCodeSize) with hend | hfound
              · rw [hend]
                exact ih (by simp) (by simp) (by simp)
              · exact ih (by omega) (by omega) (by omega)
            simp only [hrest]
          · rfl

/-- No view is empty. -/
theorem ne_nil_of_mem_splitNalusFrom {data nalu : Bytes} {fuel start startCodeSize : ℕ}
    (h : nalu ∈ splitNalusFrom data fuel start startCodeSize) : nalu ≠ [] := by
  induction fuel generalizing start startCodeSize with
  | zero => simp [splitNalusFrom] at h
  | succ fuel ih =>
      rw [splitNalusFrom] at h
      split at h
      · simp only at h
        split at h
        · rename_i hlt
          rcases List.mem_cons.mp h with rfl | hrest
          · have hend := trimZeros_le data (start + startCodeSize)
              (findAnnexBStartCode data (start + startCodeSize)).1
            have hnext := findAnnexBStartCode_le data (start + startCodeSize)
            apply List.ne_nil_of_length_pos
            rw [length_sliceAt (by omega)]
            omega
          · exact ih hrest
        · exact ih h
      · simp at h

theorem ne_nil_of_mem_splitAnnexBNalus {data nalu : Bytes} (h : nalu ∈ splitAnnexBNalus data) :
    nalu ≠ [] :=
  ne_nil_of_mem_splitNalusFrom h

/-! ### Looking for an IDR unit -/

/-- `nal_offset` at position `i` of the loop of `HasIdrNalUnit`; `none` where no start
code begins there. -/
def nalOffsetAt (data : Bytes) (i : ℕ) : Option ℕ :=
  if byteAt data i = 0 ∧ byteAt data (i + 1) = 0 then
    if byteAt data (i + 2) = 1 then some (i + 3)
    else if i + 4 < data.length ∧ byteAt data (i + 2) = 0 ∧ byteAt data (i + 3) = 1 then
      some (i + 4)
    else none
  else none

/-- `HasIdrNalUnit`: a start code is followed by a unit of type 5. -/
def hasIdrNalUnit (data : Bytes) : Bool :=
  if data.length < 4 then false
  else (List.range (data.length - 3)).any fun i =>
    match nalOffsetAt data i with
    | some nalOffset => nalOffset < data.length && (byteAt data nalOffset &&& 0x1F) == 5
    | none => false

/-! ### Writing -/

def appendAnnexBStartCode (output : Bytes) : Bytes := output ++ [0, 0, 0, 1]

def appendAnnexBNalu (data output : Bytes) : Bytes :=
  if data = [] then output else appendAnnexBStartCode output ++ data

/-- The units one after the other, each behind a start code of four bytes. -/
def annexB (nalus : List Bytes) : Bytes := nalus.flatMap fun nalu => [0, 0, 0, 1] ++ nalu

end AvProject.Protocol
