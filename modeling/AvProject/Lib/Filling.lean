import AvProject.Lib.CheckedAccess

/-!
Loops that fill a buffer from the front. The buffer is described by what it is to hold and by
how far the loop has come, so that one iteration is one equation.
-/

namespace AvProject.Lib

/-! ### Counting loops -/

/-- `for (i = start; i < stop; i += step)` around a body that may fail. -/
def forLoop {σ : Type*} (start stop step : ℕ) (body : ℕ → σ → Option σ) (s : σ) : Option σ :=
  (List.range' start ((stop - start + step - 1) / step) step).foldlM (fun s i => body i s) s

/-- A loop whose body leads from each of these states to the next one. -/
theorem forLoop_eq {σ : Type*} {start stop step count : ℕ} {body : ℕ → σ → Option σ}
    (state : ℕ → σ) (hstep : 0 < step) (hstop : stop = start + step * count)
    (hbody : ∀ i < count, body (start + step * i) (state i) = some (state (i + 1))) :
    forLoop start stop step body (state 0) = some (state count) := by
  have hcount : (stop - start + step - 1) / step = count := by
    rw [hstop, Nat.add_sub_cancel_left, Nat.add_sub_assoc hstep, Nat.mul_add_div hstep,
      Nat.div_eq_of_lt (Nat.sub_lt hstep Nat.zero_lt_one), Nat.add_zero]
  rw [forLoop, hcount]
  -- the first iterations of the loop, with the start of the rest
  have hfrom (n i : ℕ) (hn : i + n = count) :
      (List.range' (start + step * i) n step).foldlM (fun s i => body i s) (state i) =
        some (state count) := by
    induction n generalizing i with
    | zero =>
        rw [← hn, Nat.add_zero]
        rfl
    | succ n ih =>
        rw [List.range'_succ, List.foldlM_cons, hbody i (by omega)]
        have hnext := ih (i + 1) (by omega)
        rw [Nat.mul_succ, ← Nat.add_assoc] at hnext
        exact hnext
  have hall := hfrom count 0 (Nat.zero_add _)
  rw [Nat.mul_zero, Nat.add_zero] at hall
  exact hall

/-! ### Filling -/

/-- The buffer `old` after its first `n` bytes have been replaced by those of `target`. -/
def filledTo (target old : Bytes) (n : ℕ) : Bytes := target.take n ++ old.drop n

section

variable {target old src : Bytes} {n : ℕ}

theorem filledTo_zero (target old : Bytes) : filledTo target old 0 = old := by
  rw [filledTo, List.take_zero, List.drop_zero, List.nil_append]

theorem filledTo_length (h : old.length = target.length) :
    filledTo target old target.length = target := by
  rw [filledTo, List.take_length, List.drop_of_length_le h.le, List.append_nil]

/-- The next bytes of the target, stored behind those that are there. -/
theorem storeAt_filledTo (h : old.length = target.length)
    (hfits : n + src.length ≤ target.length) (hsrc : src = sliceAt target n src.length) :
    storeAt (filledTo target old n) n src = some (filledTo target old (n + src.length)) := by
  have htake : (target.take n).length = n := by
    rw [List.length_take]
    omega
  have hlength : (filledTo target old n).length = target.length := by
    rw [filledTo, List.length_append, htake, List.length_drop, h]
    omega
  have hmore : target.take n ++ src = target.take (n + src.length) := by
    conv_lhs => rw [hsrc, sliceAt, ← List.take_add]
  rw [storeAt_eq (by rw [hlength]; exact hfits), filledTo, writeAt_append _ _ _ htake,
    List.drop_drop, hmore]
  rfl

end

/-- A slice of a buffer that is given by its bytes. -/
theorem sliceAt_map_range (f : ℕ → UInt8) {length n k : ℕ} (h : n + k ≤ length) :
    sliceAt ((List.range length).map f) n k = List.ofFn fun i : Fin k => f (n + i) := by
  refine List.ext_getElem? fun p => ?_
  by_cases hp : p < k
  · rw [getElem?_sliceAt hp, List.getElem?_map, List.getElem?_range (by omega),
      List.getElem?_ofFn, dif_pos hp]
    rfl
  · rw [List.getElem?_eq_none ((length_sliceAt_le _ _ _).trans (not_lt.mp hp)),
      List.getElem?_eq_none (by rw [List.length_ofFn]; exact not_lt.mp hp)]

end AvProject.Lib
