import AvProject.Lib.Bytes

/-!
Access to a buffer that fails outside of it. A program written with these accesses comes to
a value only if it stays inside the buffer.
-/

namespace AvProject.Lib

/-- `length` bytes from `offset` on; `none` where one of them is not there. -/
def readAt (b : Bytes) (offset length : ℕ) : Option Bytes :=
  if offset + length ≤ b.length then some (sliceAt b offset length) else none

/-- Overwrite the bytes from `offset` on; `none` where one of them is not there. -/
def storeAt (b : Bytes) (offset : ℕ) (src : Bytes) : Option Bytes :=
  if offset + src.length ≤ b.length then some (writeAt b offset src) else none

theorem readAt_eq {b : Bytes} {offset length : ℕ} (h : offset + length ≤ b.length) :
    readAt b offset length = some (sliceAt b offset length) := if_pos h

theorem storeAt_eq {b src : Bytes} {offset : ℕ} (h : offset + src.length ≤ b.length) :
    storeAt b offset src = some (writeAt b offset src) := if_pos h

theorem byteAt_writeAt_of_outside {dst src : Bytes} {offset p : ℕ}
    (h : offset + src.length ≤ dst.length) (hout : p < offset ∨ offset + src.length ≤ p) :
    byteAt (writeAt dst offset src) p = byteAt dst p := by
  rw [byteAt, byteAt, getElem?_writeAt_outside h hout]

/-- A slice of a slice. -/
theorem sliceAt_sliceAt {b : Bytes} {offset length start n : ℕ} (h : start + n ≤ length) :
    sliceAt (sliceAt b offset length) start n = sliceAt b (offset + start) n := by
  rw [sliceAt, sliceAt, sliceAt, List.drop_take, List.take_take, List.drop_drop,
    Nat.min_eq_left (by omega)]

/-- A slice that a write does not touch. -/
theorem sliceAt_writeAt_of_disjoint {dst src : Bytes} {offset start length : ℕ}
    (h : offset + src.length ≤ dst.length)
    (hout : start + length ≤ offset ∨ offset + src.length ≤ start) :
    sliceAt (writeAt dst offset src) start length = sliceAt dst start length := by
  refine List.ext_getElem? fun p => ?_
  by_cases hp : p < length
  · rw [getElem?_sliceAt hp, getElem?_sliceAt hp, getElem?_writeAt_outside h (by omega)]
  · have hnone (b : Bytes) : (sliceAt b start length)[p]? = none :=
      List.getElem?_eq_none ((length_sliceAt_le b start length).trans (not_lt.mp hp))
    rw [hnone, hnone]

/-- The slice that was written. -/
theorem sliceAt_writeAt_self {dst src : Bytes} {offset : ℕ}
    (h : offset + src.length ≤ dst.length) :
    sliceAt (writeAt dst offset src) offset src.length = src := by
  have htake : (dst.take offset).length = offset := by
    rw [List.length_take]
    omega
  rw [writeAt, List.append_assoc]
  exact sliceAt_append htake rfl _

/-- What lies behind a write. -/
theorem drop_writeAt {dst src : Bytes} {offset start : ℕ}
    (h : offset + src.length ≤ dst.length) (hstart : offset + src.length ≤ start) :
    (writeAt dst offset src).drop start = dst.drop start := by
  refine List.ext_getElem? fun p => ?_
  rw [List.getElem?_drop, List.getElem?_drop, getElem?_writeAt_outside h (.inr (by omega))]

end AvProject.Lib
