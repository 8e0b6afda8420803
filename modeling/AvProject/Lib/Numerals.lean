import AvProject.Lib.Text

/-!
Decimal numbers in text: which integer a text denotes, and how the C and C++ libraries read it
into a machine integer.
-/

namespace AvProject.Lib

/-! ### What a text denotes -/

def digitsValue (digits : List Char) : ℕ := Nat.ofDigitChars 10 digits 0

/-- A decimal number, with a sign or without, behind any white space and with nothing behind
it. -/
inductive Denotes : List Char → ℤ → Prop
  | unsigned {blanks digits : List Char} (hblanks : ∀ c ∈ blanks, isSpace c = true)
      (hne : digits ≠ []) (hdigits : ∀ c ∈ digits, c.isDigit = true) :
      Denotes (blanks ++ digits) (digitsValue digits)
  | plus {blanks digits : List Char} (hblanks : ∀ c ∈ blanks, isSpace c = true)
      (hne : digits ≠ []) (hdigits : ∀ c ∈ digits, c.isDigit = true) :
      Denotes (blanks ++ '+' :: digits) (digitsValue digits)
  | minus {blanks digits : List Char} (hblanks : ∀ c ∈ blanks, isSpace c = true)
      (hne : digits ≠ []) (hdigits : ∀ c ∈ digits, c.isDigit = true) :
      Denotes (blanks ++ '-' :: digits) (-digitsValue digits)

/-- A minus sign and a digit other than zero. -/
def MarkedNegative (text : List Char) : Prop :=
  '-' ∈ text ∧ ∃ c ∈ text, c.isDigit = true ∧ c ≠ '0'

instance (text : List Char) : Decidable (MarkedNegative text) :=
  decidable_of_iff ((text.elem '-' && text.any fun c => c.isDigit && c != '0') = true)
    (by simp [MarkedNegative])

section

variable {digits : List Char}

theorem ofDigitChars_eq_zero {init : ℕ} (hdigits : ∀ c ∈ digits, c.isDigit = true) :
    Nat.ofDigitChars 10 digits init = 0 ↔ init = 0 ∧ ∀ c ∈ digits, c = '0' := by
  induction digits generalizing init with
  | nil => simp
  | cons c digits ih =>
      rw [List.forall_mem_cons] at hdigits
      have hc : c.toNat - '0'.toNat = 0 ↔ c = '0' := by
        have hlow : 48 ≤ c.toNat := by
          have hrange := hdigits.1
          simp only [Char.isDigit, Bool.and_eq_true, decide_eq_true_iff] at hrange
          exact hrange.1
        constructor
        · intro hzero
          refine Char.ext (UInt32.toNat_inj.mp ?_)
          show c.toNat = 48
          have hnumeral : '0'.toNat = 48 := rfl
          omega
        · rintro rfl
          rfl
      rw [Nat.ofDigitChars_cons, ih hdigits.2, List.forall_mem_cons, Nat.add_eq_zero_iff, hc,
        Nat.mul_eq_zero]
      simp only [OfNat.ofNat_ne_zero, false_or, and_assoc]

theorem digitsValue_pos (hdigits : ∀ c ∈ digits, c.isDigit = true) :
    0 < digitsValue digits ↔ ∃ c ∈ digits, c ≠ '0' := by
  rw [Nat.pos_iff_ne_zero, digitsValue, Ne, ofDigitChars_eq_zero hdigits]
  simp

end

/-! ### How it is read -/

structure Scanned where
  negative : Bool
  digits : List Char
  rest : List Char
  deriving DecidableEq, Repr

/-- A sign and digits. -/
def scanSigned : List Char → Scanned
  | '-' :: text => ⟨true, text.takeWhile Char.isDigit, text.dropWhile Char.isDigit⟩
  | '+' :: text => ⟨false, text.takeWhile Char.isDigit, text.dropWhile Char.isDigit⟩
  | text => ⟨false, text.takeWhile Char.isDigit, text.dropWhile Char.isDigit⟩

/-- White space, a sign and digits. -/
def scanNumber (text : List Char) : Scanned := scanSigned (text.dropWhile isSpace)

def Scanned.value (s : Scanned) : ℤ :=
  if s.negative then -digitsValue s.digits else digitsValue s.digits

/-- `operator>>` into a `size_t`: as `strtoull`, which takes a minus sign and negates modulo
`2 ^ 64`; `none` where the stream fails. -/
def readSize (text : List Char) : Option (ℕ × List Char) :=
  let s := scanNumber text
  if s.digits = [] ∨ 2 ^ 64 ≤ digitsValue s.digits then none
  else some ((s.value % 2 ^ 64).toNat, s.rest)

/-- `strtol` in base 10 with a `long` of 64 bits. -/
structure StrtolResult where
  parsed : ℤ
  /-- `errno` is set. -/
  outOfRange : Bool
  /-- The text at `end`; `none` where nothing has been read. -/
  stop : Option (List Char)
  deriving DecidableEq, Repr

def strtol (text : List Char) : StrtolResult :=
  let s := scanNumber text
  if s.digits = [] then { parsed := 0, outOfRange := false, stop := none }
  else if s.value < -2 ^ 63 then { parsed := -2 ^ 63, outOfRange := true, stop := some s.rest }
  else if 2 ^ 63 ≤ s.value then { parsed := 2 ^ 63 - 1, outOfRange := true, stop := some s.rest }
  else { parsed := s.value, outOfRange := false, stop := some s.rest }

section

variable {text blanks digits : List Char} {n : ℤ}

theorem takeWhile_isDigit (hdigits : ∀ c ∈ digits, c.isDigit = true) :
    digits.takeWhile Char.isDigit = digits :=
  List.takeWhile_eq_self_iff.mpr hdigits

theorem dropWhile_isDigit (hdigits : ∀ c ∈ digits, c.isDigit = true) :
    digits.dropWhile Char.isDigit = [] :=
  List.dropWhile_eq_nil_iff.mpr hdigits

theorem scanNumber_unsigned (hblanks : ∀ c ∈ blanks, isSpace c = true) (hne : digits ≠ [])
    (hdigits : ∀ c ∈ digits, c.isDigit = true) :
    scanNumber (blanks ++ digits) = ⟨false, digits, []⟩ := by
  have hstart := @dropWhile_isSpace_of_isDigit digits [] hne hdigits
  rw [List.append_nil] at hstart
  rw [scanNumber, List.dropWhile_append_of_pos hblanks, hstart, scanSigned.eq_def]
  split
  · cases hdigits '-' List.mem_cons_self
  · cases hdigits '+' List.mem_cons_self
  · rw [takeWhile_isDigit hdigits, dropWhile_isDigit hdigits]

theorem scanNumber_plus (hblanks : ∀ c ∈ blanks, isSpace c = true)
    (hdigits : ∀ c ∈ digits, c.isDigit = true) :
    scanNumber (blanks ++ '+' :: digits) = ⟨false, digits, []⟩ := by
  have hstart : ('+' :: digits).dropWhile isSpace = '+' :: digits := rfl
  rw [scanNumber, List.dropWhile_append_of_pos hblanks, hstart]
  show Scanned.mk false _ _ = _
  rw [takeWhile_isDigit hdigits, dropWhile_isDigit hdigits]

theorem scanNumber_minus (hblanks : ∀ c ∈ blanks, isSpace c = true)
    (hdigits : ∀ c ∈ digits, c.isDigit = true) :
    scanNumber (blanks ++ '-' :: digits) = ⟨true, digits, []⟩ := by
  have hstart : ('-' :: digits).dropWhile isSpace = '-' :: digits := rfl
  rw [scanNumber, List.dropWhile_append_of_pos hblanks, hstart]
  show Scanned.mk true _ _ = _
  rw [takeWhile_isDigit hdigits, dropWhile_isDigit hdigits]

/-- A scan with digits that comes to the end. -/
theorem denotes_scanSigned (hblanks : ∀ c ∈ blanks, isSpace c = true)
    (hne : (scanSigned text).digits ≠ []) (hrest : (scanSigned text).rest = []) :
    Denotes (blanks ++ text) (scanSigned text).value := by
  rw [scanSigned.eq_def] at hne hrest ⊢
  revert hne hrest
  split
  · intro hne hrest
    have hdigits := List.dropWhile_eq_nil_iff.mp hrest
    rw [takeWhile_isDigit hdigits] at hne ⊢
    exact .minus hblanks hne hdigits
  · intro hne hrest
    have hdigits := List.dropWhile_eq_nil_iff.mp hrest
    rw [takeWhile_isDigit hdigits] at hne ⊢
    exact .plus hblanks hne hdigits
  · intro hne hrest
    have hdigits := List.dropWhile_eq_nil_iff.mp hrest
    rw [takeWhile_isDigit hdigits] at hne ⊢
    exact .unsigned hblanks hne hdigits

/-- A text denotes a number exactly if the scan finds one and comes to the end. -/
theorem denotes_iff : Denotes text n ↔
    (scanNumber text).digits ≠ [] ∧ (scanNumber text).rest = [] ∧ (scanNumber text).value = n := by
  constructor
  · intro h
    cases h with
    | unsigned hblanks hne hdigits =>
        rw [scanNumber_unsigned hblanks hne hdigits]
        exact ⟨hne, rfl, rfl⟩
    | plus hblanks hne hdigits =>
        rw [scanNumber_plus hblanks hdigits]
        exact ⟨hne, rfl, rfl⟩
    | minus hblanks hne hdigits =>
        rw [scanNumber_minus hblanks hdigits]
        exact ⟨hne, rfl, rfl⟩
  · rintro ⟨hne, hrest, rfl⟩
    have hblanks : ∀ c ∈ text.takeWhile isSpace, isSpace c = true :=
      fun c hc => List.mem_takeWhile_imp hc
    have hdenotes := denotes_scanSigned hblanks hne hrest
    rw [List.takeWhile_append_dropWhile] at hdenotes
    exact hdenotes

theorem Denotes.unique {m : ℤ} (h : Denotes text n) (h' : Denotes text m) : n = m :=
  (denotes_iff.mp h).2.2.symm.trans (denotes_iff.mp h').2.2

theorem Scanned.natAbs_value (s : Scanned) : s.value.natAbs = digitsValue s.digits := by
  rw [Scanned.value]
  split
  · rw [Int.natAbs_neg, Int.natAbs_natCast]
  · rw [Int.natAbs_natCast]

/-- `readSize` takes whatever number the text denotes, up to its bound, and forgets the sign. -/
theorem readSize_eq_some {value : ℕ} : readSize text = some (value, []) ↔
    ∃ n, Denotes text n ∧ n.natAbs < 2 ^ 64 ∧ value = (n % 2 ^ 64).toNat := by
  have habs := (scanNumber text).natAbs_value
  rw [readSize]
  split
  · rename_i hfail
    constructor
    · intro h
      cases h
    · rintro ⟨n, hn, hbound, -⟩
      obtain ⟨hne, -, rfl⟩ := denotes_iff.mp hn
      rw [habs] at hbound
      rcases hfail with hempty | hlarge
      · exact absurd hempty hne
      · exact absurd hbound (not_lt.mpr hlarge)
  · rename_i hok
    rw [not_or, not_le] at hok
    rw [Option.some.injEq, Prod.mk.injEq]
    constructor
    · rintro ⟨hvalue, hrest⟩
      exact ⟨_, denotes_iff.mpr ⟨hok.1, hrest, rfl⟩, by rw [habs]; exact hok.2, hvalue.symm⟩
    · rintro ⟨n, hn, -, hvalue⟩
      obtain ⟨-, hrest, rfl⟩ := denotes_iff.mp hn
      exact ⟨hvalue.symm, hrest⟩

/-- `strtol` read a whole text without an error. -/
theorem strtol_whole : ((strtol text).outOfRange = false ∧ (strtol text).stop = some [] ∧
    (strtol text).parsed = n) ↔ Denotes text n ∧ -2 ^ 63 ≤ n ∧ n < 2 ^ 63 := by
  rw [denotes_iff, strtol]
  generalize scanNumber text = s
  split
  · rename_i hempty
    simp [hempty]
  · rename_i hne
    split
    · rename_i hlow
      simp only [Bool.true_eq_false, false_and, false_iff, not_and]
      rintro ⟨-, -, rfl⟩ hle
      exact absurd hlow (not_lt.mpr hle)
    · rename_i hlow
      split
      · rename_i hhigh
        simp only [Bool.true_eq_false, false_and, false_iff, not_and]
        rintro ⟨-, -, rfl⟩ -
        exact not_lt.mpr hhigh
      · rename_i hhigh
        rw [not_lt] at hlow
        rw [not_le] at hhigh
        constructor
        · rintro ⟨-, hstop, rfl⟩
          exact ⟨⟨hne, Option.some.inj hstop, rfl⟩, hlow, hhigh⟩
        · rintro ⟨⟨-, hrest, rfl⟩, -⟩
          exact ⟨rfl, congrArg some hrest, rfl⟩

/-- The numbers below zero are those with a minus sign and a digit other than zero. -/
theorem Denotes.neg_iff (h : Denotes text n) : n < 0 ↔ MarkedNegative text := by
  -- no minus sign among white space and digits
  have hminus {blanks digits : List Char} (hblanks : ∀ c ∈ blanks, isSpace c = true)
      (hdigits : ∀ c ∈ digits, c.isDigit = true) : '-' ∉ blanks ∧ '-' ∉ digits :=
    ⟨fun hmem => Bool.false_ne_true (hblanks '-' hmem),
      fun hmem => Bool.false_ne_true (hdigits '-' hmem)⟩
  cases h with
  | unsigned hblanks _ hdigits =>
      obtain ⟨hnot, hnot'⟩ := hminus hblanks hdigits
      refine ⟨fun hneg => absurd hneg (by omega), fun hmarked => ?_⟩
      rcases List.mem_append.mp hmarked.1 with hmem | hmem
      · exact absurd hmem hnot
      · exact absurd hmem hnot'
  | plus hblanks _ hdigits =>
      obtain ⟨hnot, hnot'⟩ := hminus hblanks hdigits
      refine ⟨fun hneg => absurd hneg (by omega), fun hmarked => ?_⟩
      rcases List.mem_append.mp hmarked.1 with hmem | hmem
      · exact absurd hmem hnot
      · rcases List.mem_cons.mp hmem with hplus | hmem
        · cases hplus
        · exact absurd hmem hnot'
  | minus hblanks _ hdigits =>
      rename_i blanks digits _
      rw [Left.neg_neg_iff, Int.natCast_pos, digitsValue_pos hdigits]
      constructor
      · rintro ⟨c, hc, hzero⟩
        exact ⟨List.mem_append_right _ List.mem_cons_self, c,
          List.mem_append_right _ (List.mem_cons_of_mem _ hc), hdigits c hc, hzero⟩
      · rintro ⟨-, c, hc, hdigit, hzero⟩
        refine ⟨c, ?_, hzero⟩
        rcases List.mem_append.mp hc with hblank | hmem
        · have hnot := isSpace_eq_false_of_isDigit hdigit
          rw [hblanks c hblank] at hnot
          cases hnot
        · rcases List.mem_cons.mp hmem with hsign | hmem
          · rw [hsign] at hdigit
            cases hdigit
          · exact hmem

end

end AvProject.Lib
