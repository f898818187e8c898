-- What is said of a text that names no cell. The text is cut behind its letters, and the first fault
-- decides: of the form first, then of the column and then of the row. The numbers are judged as they
-- are spelt, of whatever size, though neither is ever read beyond 32 bits.
import GridTemplate.Proofs.Cell.References
import GridTemplate.Proofs.Text.Integers
import Mathlib.Algebra.Group.Nat.Defs

namespace GridTemplate

/-! ## Digits one at a time -/

theorem pushDigit?_eq (n : Nat) (c : Char) :
    pushDigit? n c =
      if coordinateCap < 10 * n + (c.toNat - '0'.toNat) then none
      else some (10 * n + (c.toNat - '0'.toNat)) := by
  unfold pushDigit?
  rw [Nat.mul_comm n 10]
  generalize c.toNat - '0'.toNat = d
  split
  · rw [if_pos (by omega)]
  · rfl

/-- Once a number is too great, no digit makes it smaller again. So the reading is given up on the way
exactly if the whole number does not fit. -/
theorem foldlM_pushDigit? {digits : List Char} {n : Nat} (h : n ≤ coordinateCap) :
    digits.foldlM pushDigit? n =
      if coordinateCap < Nat.ofDigitChars 10 digits n then none
      else some (Nat.ofDigitChars 10 digits n) := by
  induction digits generalizing n with
  | nil =>
    rw [List.foldlM_nil, Nat.ofDigitChars_nil, if_neg (Nat.not_lt_of_le h)]
    rfl
  | cons c digits ih =>
    rw [List.foldlM_cons, pushDigit?_eq, Nat.ofDigitChars_cons]
    by_cases hnext : coordinateCap < 10 * n + (c.toNat - '0'.toNat)
    · have hwhole := Nat.lt_of_lt_of_le hnext (le_ofDigitChars digits _)
      rw [if_pos hnext, if_pos hwhole]
      rfl
    · rw [if_neg hnext]
      exact ih (Nat.le_of_not_lt hnext)

theorem readRowByDigits_eq (text : String) (digits : List Char) :
    readRowByDigits text digits = readRow text digits := by
  unfold readRowByDigits readRow
  rw [foldlM_pushDigit? (Nat.zero_le _)]
  dsimp only
  by_cases hcap : coordinateCap < Nat.ofDigitChars 10 digits 0
  · rw [if_pos hcap, if_pos hcap]
  · rw [if_neg hcap, if_neg hcap]

/-- No number is zero and too great at once, so it does not matter which of them is looked at first. -/
theorem readRow_eq (text : String) (digits : List Char) :
    readRow text digits =
      if Nat.ofDigitChars 10 digits 0 = 0 then .error (.badAddress (.zeroRowNumber text))
      else if coordinateCap < Nat.ofDigitChars 10 digits 0 then
        .error (.badAddress (.invalidRowNumber text))
      else if maxRow < Nat.ofDigitChars 10 digits 0 then
        .error (.rowOutOfBounds (Nat.ofDigitChars 10 digits 0))
      else .ok (Nat.ofDigitChars 10 digits 0) := by
  unfold readRow
  dsimp only
  by_cases hcap : coordinateCap < Nat.ofDigitChars 10 digits 0
  · have hzero : ¬ Nat.ofDigitChars 10 digits 0 = 0 := by omega
    rw [if_pos hcap, if_neg hzero, if_pos hcap]
  · rw [if_neg hcap, if_neg hcap]

namespace Cell

/-! ## The first fault -/

/-- The cell that the letters at the start of a text and the digits behind them spell. Its numbers
may be of any size. -/
def spelt (text : String) : Cell :=
  ⟨Nat.ofDigitChars 10 (text.toList.dropWhile Char.isAlpha) 0,
    lettersValue (text.toList.takeWhile Char.isAlpha)⟩

/-- What is wrong with the form of a text that is not letters and then digits. -/
def formFault (text : String) : AddressFault :=
  if text = "" then .emptyReference
  else if text.toList.takeWhile Char.isAlpha = [] then .noColumnLetters text
  else if text.toList.dropWhile Char.isAlpha = [] then .noRowNumber text
  else .invalidRowNumber text

variable {text : String}

theorem ofReference_eq_formFault
    (h : text.toList.takeWhile Char.isAlpha = [] ∨ text.toList.dropWhile Char.isAlpha = [] ∨
      ∃ c ∈ text.toList.dropWhile Char.isAlpha, c.isDigit = false) :
    ofReference text = .error (.badAddress (formFault text)) := by
  unfold ofReference formFault
  dsimp only
  by_cases htext : text = ""
  · rw [if_pos htext, if_pos (by simpa using htext)]
  rw [if_neg htext, if_neg (by simpa using htext)]
  by_cases hletters : text.toList.takeWhile Char.isAlpha = []
  · rw [if_pos hletters, if_pos hletters]
  rw [if_neg hletters, if_neg hletters]
  by_cases hdigits : text.toList.dropWhile Char.isAlpha = []
  · rw [if_pos hdigits, if_pos hdigits]
  obtain ⟨c, hc, hdigit⟩ := (h.resolve_left hletters).resolve_left hdigits
  have hall : ¬ (text.toList.dropWhile Char.isAlpha).all Char.isDigit = true := by
    intro hall
    rw [List.all_eq_true.mp hall c hc] at hdigit
    cases hdigit
  rw [if_neg hdigits, if_neg hdigits, if_neg hall]

/-- The numbers that letters and digits spell are judged as they are. The cap on the way to the column
and the width of the row only change what is said of them. -/
theorem ofReference_eq_of_form (hletters : text.toList.takeWhile Char.isAlpha ≠ [])
    (hdigits : text.toList.dropWhile Char.isAlpha ≠ [])
    (hall : ∀ c ∈ text.toList.dropWhile Char.isAlpha, c.isDigit = true) :
    ofReference text =
      if maxColumn < (spelt text).column then
        .error (.columnOutOfBounds (min coordinateCap (spelt text).column))
      else if (spelt text).row = 0 then .error (.badAddress (.zeroRowNumber text))
      else if coordinateCap < (spelt text).row then .error (.badAddress (.invalidRowNumber text))
      else if maxRow < (spelt text).row then .error (.rowOutOfBounds (spelt text).row)
      else .ok (spelt text) := by
  have htext : text.toList ≠ [] := by
    intro h
    exact hletters (by rw [h]; rfl)
  have halpha : ∀ c ∈ text.toList.takeWhile Char.isAlpha, c.isAlpha = true :=
    List.all_eq_true.mp List.all_takeWhile
  unfold ofReference spelt
  dsimp only
  rw [if_neg htext, if_neg hletters, if_neg hdigits, if_pos (List.all_eq_true.mpr hall),
    readLetters_eq halpha, readRow_eq]
  by_cases hcolumn : maxColumn < lettersValue (text.toList.takeWhile Char.isAlpha)
  · rw [if_pos hcolumn, if_pos hcolumn]
  rw [if_neg hcolumn, if_neg hcolumn]
  generalize Nat.ofDigitChars 10 (text.toList.dropWhile Char.isAlpha) 0 = row
  by_cases hzero : row = 0
  · rw [if_pos hzero, if_pos hzero]
  rw [if_neg hzero, if_neg hzero]
  by_cases hcap : coordinateCap < row
  · rw [if_pos hcap, if_pos hcap]
  rw [if_neg hcap, if_neg hcap]
  by_cases hmax : maxRow < row
  · rw [if_pos hmax, if_pos hmax]
  · rw [if_neg hmax, if_neg hmax]

/-! ## Canonical references off the grid -/

/-- What is wrong with the cell that a canonical reference spells, if it is off the grid. -/
def speltFault (text : String) : GridError :=
  if maxColumn < (spelt text).column then
    .columnOutOfBounds (min coordinateCap (spelt text).column)
  else if coordinateCap < (spelt text).row then .badAddress (.invalidRowNumber text)
  else .rowOutOfBounds (spelt text).row

theorem speltFault_ne_invalidRectangle (text : String) (p q : Cell) :
    speltFault text ≠ .invalidRectangle p q := by
  unfold speltFault
  split
  · simp
  · split <;> simp

/-- A canonical reference spells no zero, so it can only be off the grid to the right or below. -/
theorem ofReference_of_isReference (h : isReference text.toList = true) :
    ofReference text =
      if (spelt text).OnGrid then .ok (spelt text) else .error (speltFault text) := by
  obtain ⟨letters, digit, rest, hspells, -, hstarts⟩ := (isReference_iff _).mp h
  have hletters := hspells.takeWhile_isAlpha
  have hdigits := hspells.dropWhile_isAlpha
  have hrest : ∀ d ∈ rest, d.isDigit = true :=
    fun d hd => hspells.digits_digit d (List.mem_cons_of_mem _ hd)
  have hcolumn : 1 ≤ (spelt text).column := by
    rw [spelt, hletters]
    exact lettersValue_pos hspells.letters_ne
  have hrow : 1 ≤ (spelt text).row := by
    rw [spelt, hdigits]
    exact (toDigits_ofDigitChars hstarts hrest).1
  have hzero : (spelt text).row ≠ 0 := Nat.one_le_iff_ne_zero.mp hrow
  rw [ofReference_eq_of_form (by rw [hletters]; exact hspells.letters_ne)
    (by rw [hdigits]; exact hspells.digits_ne) (by rw [hdigits]; exact hspells.digits_digit),
    if_neg hzero, speltFault]
  by_cases hright : maxColumn < (spelt text).column
  · have hoff : ¬ (spelt text).OnGrid := fun hgrid => Nat.not_lt_of_le hgrid.2.2 hright
    rw [if_pos hright, if_neg hoff, if_pos hright]
  by_cases hbelow : maxRow < (spelt text).row
  · have hoff : ¬ (spelt text).OnGrid := fun hgrid => Nat.not_lt_of_le hgrid.1.2 hbelow
    rw [if_neg hright, if_neg hoff, if_neg hright, if_pos hbelow]
    split <;> rfl
  · have hgrid : (spelt text).OnGrid :=
      ⟨⟨hrow, Nat.le_of_not_lt hbelow⟩, hcolumn, Nat.le_of_not_lt hright⟩
    have hcap : ¬ coordinateCap < (spelt text).row := by
      simp only [coordinateCap, maxRow] at hbelow ⊢
      omega
    rw [if_neg hright, if_neg hcap, if_neg hbelow, if_pos hgrid]

end Cell

/-! ## The law -/

/-- A text that is not letters and then digits is refused for its form. Any other one is judged by the
numbers that it spells, of whatever size: for the column if that is off the grid, and otherwise for the
row, which is named only if it fits into 32 bits. To read the digits one at a time, and to give up as
soon as they no longer fit, makes no difference. -/
theorem a_reference_is_refused_for_its_first_fault (text : String) :
    let letters := text.toList.takeWhile Char.isAlpha
    let digits := text.toList.dropWhile Char.isAlpha
    let column := lettersValue letters
    let row := Nat.ofDigitChars 10 digits 0
    ((letters = [] ∨ digits = [] ∨ ∃ c ∈ digits, c.isDigit = false) →
      Cell.ofReference text = .error (.badAddress (Cell.formFault text))) ∧
    (letters ≠ [] → digits ≠ [] → (∀ c ∈ digits, c.isDigit = true) →
      Cell.ofReference text =
        if maxColumn < column then .error (.columnOutOfBounds (min (2 ^ 32 - 1) column))
        else if row = 0 then .error (.badAddress (.zeroRowNumber text))
        else if 2 ^ 32 ≤ row then .error (.badAddress (.invalidRowNumber text))
        else if maxRow < row then .error (.rowOutOfBounds row)
        else .ok ⟨row, column⟩) ∧
    readRowByDigits text digits = readRow text digits := by
  intro letters digits column row
  refine ⟨Cell.ofReference_eq_formFault, ?_, readRowByDigits_eq text digits⟩
  intro hletters hdigits hall
  exact Cell.ofReference_eq_of_form hletters hdigits hall

/-- Zeros in front of a row do not matter. Letters without end are reported as the greatest number
there is, and the column is reported before a row that is zero or does not fit. -/
theorem a_column_is_refused_before_a_row :
    Cell.ofReference "xFd0001048576" = .ok ⟨1048576, 16384⟩ ∧
    Cell.ofReference "ZZZZZZZZZZ0" = .error (.columnOutOfBounds 4294967295) ∧
    Cell.ofReference "XFE99999999999" = .error (.columnOutOfBounds 16385) ∧
    Cell.ofReference "A4294967296" = .error (.badAddress (.invalidRowNumber "A4294967296")) ∧
    Cell.ofReference "A4294967295" = .error (.rowOutOfBounds 4294967295) ∧
    Cell.ofReference "Aé1" = .error (.badAddress (.invalidRowNumber "Aé1")) := by
  obtain ⟨-, hlast, -⟩ := a_reference_is_refused_for_its_first_fault "xFd0001048576"
  obtain ⟨-, hletters, -⟩ := a_reference_is_refused_for_its_first_fault "ZZZZZZZZZZ0"
  obtain ⟨-, hcolumn, -⟩ := a_reference_is_refused_for_its_first_fault "XFE99999999999"
  obtain ⟨-, hwide, -⟩ := a_reference_is_refused_for_its_first_fault "A4294967296"
  obtain ⟨-, hrow, -⟩ := a_reference_is_refused_for_its_first_fault "A4294967295"
  obtain ⟨hform, -, -⟩ := a_reference_is_refused_for_its_first_fault "Aé1"
  have hall {digits : List Char} (h : digits.all Char.isDigit = true) :
      ∀ c ∈ digits, c.isDigit = true := List.all_eq_true.mp h
  exact ⟨hlast (by decide) (by decide) (hall rfl), hletters (by decide) (by decide) (hall rfl),
    hcolumn (by decide) (by decide) (hall rfl), hwide (by decide) (by decide) (hall rfl),
    hrow (by decide) (by decide) (hall rfl), hform (Or.inr (Or.inr ⟨'é', by decide, by decide⟩))⟩

end GridTemplate
