import Mathlib.Tactic
import Mathlib.Data.List.DropRight

/-!
Text as C++ streams write and read it in the classic locale: lines, white space,
decimal numbers and formatted extraction.
-/

namespace AvProject.Lib

/-! ### Lines -/

/-- The lines that `std::getline` yields one after the other. -/
def getlines : List Char → List (List Char)
  | [] => []
  | c :: rest =>
      if c = '\n' then [] :: getlines rest
      else
        match getlines rest with
        | [] => [[c]]
        | line :: lines => (c :: line) :: lines

/-- Each line with a line feed at its end. -/
def unlines (lines : List (List Char)) : List Char :=
  lines.flatMap fun line => line ++ ['\n']

theorem getlines_append {line : List Char} (hline : '\n' ∉ line) (rest : List Char) :
    getlines (line ++ '\n' :: rest) = line :: getlines rest := by
  induction line with
  | nil => rw [List.nil_append, getlines, if_pos rfl]
  | cons c line ih =>
      have hc : c ≠ '\n' := fun h => hline (h ▸ List.mem_cons_self)
      rw [List.cons_append, getlines, if_neg hc,
        ih fun hmem => hline (List.mem_cons_of_mem _ hmem)]

/-- Lines that were written are read back. -/
theorem getlines_unlines {lines : List (List Char)} (hlines : ∀ line ∈ lines, '\n' ∉ line) :
    getlines (unlines lines) = lines := by
  induction lines with
  | nil => rfl
  | cons line lines ih =>
      rw [unlines, List.flatMap_cons, List.append_assoc, List.singleton_append,
        getlines_append (hlines line List.mem_cons_self), ← unlines,
        ih fun line hline => hlines line (List.mem_cons_of_mem _ hline)]

/-! ### White space -/

/-- `std::isspace`: the blank, and the control characters from tab to carriage return. -/
def isSpace (c : Char) : Bool := c.toNat == 32 || (9 ≤ c.toNat && c.toNat ≤ 13)

/-- The text without the white space at its two ends. -/
def trim (text : List Char) : List Char := (text.dropWhile isSpace).rdropWhile isSpace

theorem isSpace_eq_false_of_isDigit {c : Char} (h : c.isDigit = true) : isSpace c = false := by
  simp only [Char.isDigit, Bool.and_eq_true, decide_eq_true_iff] at h
  simp only [isSpace, Bool.or_eq_false_iff, beq_eq_false_iff_ne, Bool.and_eq_false_iff,
    decide_eq_false_iff_not]
  have hlow : 48 ≤ c.toNat := h.1
  omega

theorem trim_eq_self {text : List Char} (hhead : ∀ c ∈ text.head?, isSpace c = false)
    (hlast : ∀ c ∈ text.getLast?, isSpace c = false) : trim text = text := by
  have hstart : text.dropWhile isSpace = text := by
    cases text with
    | nil => rfl
    | cons c rest => rw [List.dropWhile_cons, if_neg (by simp [hhead c rfl])]
  rw [trim, hstart, List.rdropWhile_eq_self_iff]
  intro hne
  simp [hlast _ (List.getLast?_eq_getLast_of_ne_nil hne)]

theorem trim_trim (text : List Char) : trim (trim text) = trim text := by
  have hstart : (trim text).dropWhile isSpace = trim text := by
    obtain ⟨rest, hrest⟩ : trim text <+: text.dropWhile isSpace := List.rdropWhile_prefix ..
    cases htrim : trim text with
    | nil => rfl
    | cons c inner =>
        have hhead := List.head?_dropWhile_not isSpace text
        rw [← hrest, htrim, List.cons_append, List.head?_cons] at hhead
        rw [List.dropWhile_cons, if_neg (Bool.eq_false_iff.mp hhead)]
  rw [trim, hstart]
  exact List.rdropWhile_idempotent isSpace _

/-- A text that begins and ends with something else than white space. -/
structure Trimmed (text : List Char) : Prop where
  nonempty : text ≠ []
  head : ∀ c ∈ text.head?, isSpace c = false
  last : ∀ c ∈ text.getLast?, isSpace c = false

theorem Trimmed.trim_eq {text : List Char} (h : Trimmed text) : trim text = text :=
  trim_eq_self h.head h.last

theorem Trimmed.of_forall {text : List Char} (hne : text ≠ [])
    (h : ∀ c ∈ text, isSpace c = false) : Trimmed text where
  nonempty := hne
  head c hc := h c (List.mem_of_mem_head? hc)
  last c hc := h c (List.mem_of_getLast? hc)

/-- The test that a literal passes by evaluation. -/
theorem Trimmed.of_all {text : List Char} (hne : text ≠ [])
    (h : (text.all fun c => !isSpace c) = true) : Trimmed text :=
  .of_forall hne fun c hc => by simpa using List.all_eq_true.mp h c hc

theorem Trimmed.append_left {text : List Char} (h : Trimmed text) {c : Char}
    (hc : isSpace c = false) (start : List Char) : Trimmed (c :: start ++ text) where
  nonempty := List.cons_ne_nil _ _
  head := by
    rintro _ ⟨⟩
    exact hc
  last := by
    rw [List.getLast?_append_of_ne_nil _ h.nonempty]
    exact h.last

/-! ### Numbers -/

/-- What `operator<<` writes for an `int`. -/
def decimal (n : ℤ) : List Char :=
  if n < 0 then '-' :: Nat.toDigits 10 (-n).toNat else Nat.toDigits 10 n.toNat

/-- `operator>>` into an `int`: the value and what is left of the text; `none` where the
stream fails. -/
def readInt (text : List Char) : Option (ℤ × List Char) :=
  let text := text.dropWhile isSpace
  let negative := text.head? == some '-'
  let text := if negative || text.head? == some '+' then text.tail else text
  let digits := text.takeWhile Char.isDigit
  let magnitude : ℤ := Nat.ofDigitChars 10 digits 0
  let value := if negative then -magnitude else magnitude
  if digits = [] ∨ value < -2 ^ 31 ∨ 2 ^ 31 ≤ value then none
  else some (value, text.dropWhile Char.isDigit)

/-- `operator>>` into a string: the characters up to the next white space. -/
def readWord (text : List Char) : Option (List Char × List Char) :=
  let text := text.dropWhile isSpace
  if text = [] then none
  else some (text.takeWhile fun c => !isSpace c, text.dropWhile fun c => !isSpace c)

theorem decimal_of_nonneg {n : ℤ} (hn : 0 ≤ n) : decimal n = Nat.toDigits 10 n.toNat :=
  if_neg (Int.not_lt.mpr hn)

theorem isDigit_of_mem_decimal {n : ℤ} (hn : 0 ≤ n) {c : Char} (hc : c ∈ decimal n) :
    c.isDigit = true := by
  rw [decimal_of_nonneg hn] at hc
  exact Nat.isDigit_of_mem_toDigits (by decide) (by decide) hc

theorem decimal_ne_nil {n : ℤ} (hn : 0 ≤ n) : decimal n ≠ [] := by
  rw [decimal_of_nonneg hn]
  exact Nat.toDigits_ne_nil

theorem dropWhile_isSpace_of_isDigit {digits rest : List Char} (hne : digits ≠ [])
    (hdigits : ∀ c ∈ digits, c.isDigit = true) :
    (digits ++ rest).dropWhile isSpace = digits ++ rest := by
  obtain ⟨c, digits, rfl⟩ := List.exists_cons_of_ne_nil hne
  rw [List.cons_append, List.dropWhile_cons,
    if_neg (by simp [isSpace_eq_false_of_isDigit (hdigits c List.mem_cons_self)])]

/-- A number that was written is read back, up to the first character that is no digit. -/
theorem readInt_decimal_append {n : ℤ} (hn : 0 ≤ n) (hint : n < 2 ^ 31) (rest : List Char)
    (hrest : ∀ c ∈ rest.head?, c.isDigit = false) :
    readInt (decimal n ++ rest) = some (n, rest) := by
  have hdigits : ∀ c ∈ decimal n, c.isDigit = true := fun c => isDigit_of_mem_decimal hn
  have hne := decimal_ne_nil hn
  have hsign : ∀ sign : Char, sign.isDigit = false →
      ((decimal n ++ rest).head? == some sign) = false := by
    intro sign hnot
    obtain ⟨c, digits, heq⟩ := List.exists_cons_of_ne_nil hne
    rw [heq] at hdigits ⊢
    have hc := hdigits c List.mem_cons_self
    simp only [List.cons_append, List.head?_cons, beq_eq_false_iff_ne, ne_eq, Option.some.injEq]
    rintro rfl
    simp [hc] at hnot
  have htake : rest.takeWhile Char.isDigit = [] := by
    cases rest with
    | nil => rfl
    | cons c rest => rw [List.takeWhile_cons, if_neg (by simp [hrest c rfl])]
  have hdrop : rest.dropWhile Char.isDigit = rest := by
    cases rest with
    | nil => rfl
    | cons c rest => rw [List.dropWhile_cons, if_neg (by simp [hrest c rfl])]
  have hvalue : (Nat.ofDigitChars 10 (decimal n) 0 : ℤ) = n := by
    rw [decimal_of_nonneg hn, Nat.ofDigitChars_ten_toDigits]
    exact Int.toNat_of_nonneg hn
  rw [readInt]
  simp only [dropWhile_isSpace_of_isDigit hne hdigits, hsign '-' rfl, hsign '+' rfl,
    Bool.or_false, Bool.false_eq_true, if_false, List.takeWhile_append_of_pos hdigits,
    List.dropWhile_append_of_pos hdigits, htake, hdrop, List.append_nil, hvalue]
  rw [if_neg]
  simp only [hne, false_or]
  omega

theorem readWord_append {blanks : List Char} (hblanks : ∀ c ∈ blanks, isSpace c = true)
    (word rest : List Char) (hne : word ≠ []) (hword : (word.all fun c => !isSpace c) = true)
    (hrest : ∀ c ∈ rest.head?, isSpace c = true) :
    readWord (blanks ++ word ++ rest) = some (word, rest) := by
  have hnot := List.all_eq_true.mp hword
  have hstart : (word ++ rest).dropWhile isSpace = word ++ rest := by
    obtain ⟨c, word, rfl⟩ := List.exists_cons_of_ne_nil hne
    rw [List.cons_append, List.dropWhile_cons, if_neg (by simpa using hnot c List.mem_cons_self)]
  have htake : (rest.takeWhile fun c => !isSpace c) = [] := by
    cases rest with
    | nil => rfl
    | cons c rest => rw [List.takeWhile_cons, if_neg (by simp [hrest c rfl])]
  have hdrop : (rest.dropWhile fun c => !isSpace c) = rest := by
    cases rest with
    | nil => rfl
    | cons c rest => rw [List.dropWhile_cons, if_neg (by simp [hrest c rfl])]
  rw [readWord]
  simp only [List.append_assoc, List.dropWhile_append_of_pos hblanks, hstart]
  rw [if_neg (by simp [hne]), List.takeWhile_append_of_pos hnot, List.dropWhile_append_of_pos hnot,
    htake, hdrop, List.append_nil]

end AvProject.Lib
