-- References and the cells that they name. A text names a cell of the grid exactly if it is letters
-- and then digits that spell the cell's column and row, and of all such texts the reference of the
-- cell is the one in capital letters without leading zeros.
import GridTemplate.Proofs.Cell.Numerals
import GridTemplate.Error
import Mathlib.Data.List.TakeWhile

namespace GridTemplate

/-! ## Letters and digits apart -/

/-- The letters and the digits of a text that is one after the other. -/
structure Spells (text letters digits : List Char) : Prop where
  text_eq : text = letters ++ digits
  letters_ne : letters ≠ []
  digits_ne : digits ≠ []
  letters_alpha : ∀ c ∈ letters, c.isAlpha = true
  digits_digit : ∀ c ∈ digits, c.isDigit = true

namespace Spells

variable {text letters digits : List Char}

theorem takeWhile_isAlpha (h : Spells text letters digits) : text.takeWhile Char.isAlpha = letters := by
  cases digits with
  | nil => exact absurd rfl h.digits_ne
  | cons d digits =>
    have hd := not_isAlpha_of_isDigit (h.digits_digit d List.mem_cons_self)
    rw [h.text_eq, List.takeWhile_append_of_pos h.letters_alpha]
    simp [hd]

theorem dropWhile_isAlpha (h : Spells text letters digits) : text.dropWhile Char.isAlpha = digits := by
  cases digits with
  | nil => exact absurd rfl h.digits_ne
  | cons d digits =>
    have hd := not_isAlpha_of_isDigit (h.digits_digit d List.mem_cons_self)
    rw [h.text_eq, List.dropWhile_append_of_pos h.letters_alpha]
    simp [hd]

end Spells

/-- A row number is read as the number that the digits spell, if that is a row of the grid. -/
theorem readRow_eq_ok_iff (text : String) (digits : List Char) (row : Nat) :
    readRow text digits = .ok row ↔
      Nat.ofDigitChars 10 digits 0 = row ∧ 1 ≤ row ∧ row ≤ maxRow := by
  unfold readRow
  generalize Nat.ofDigitChars 10 digits 0 = n
  dsimp only
  by_cases hcap : coordinateCap < n
  · simp only [if_pos hcap, reduceCtorEq, false_iff, not_and]
    simp only [coordinateCap, maxRow] at hcap ⊢
    omega
  · by_cases hzero : n = 0
    · simp only [if_neg hcap, if_pos hzero, reduceCtorEq, false_iff, not_and]
      omega
    · by_cases hmax : maxRow < n
      · simp only [if_neg hcap, if_neg hzero, if_pos hmax, reduceCtorEq, false_iff, not_and]
        omega
      · simp only [if_neg hcap, if_neg hzero, if_neg hmax, Except.ok.injEq]
        omega

theorem readLetters_eq_ok_iff {letters : List Char} (h : ∀ c ∈ letters, c.isAlpha = true)
    (column : Nat) :
    readLetters 0 letters = .ok column ↔ lettersValue letters = column ∧ column ≤ maxColumn := by
  rw [readLetters_eq h]
  by_cases hmax : maxColumn < lettersValue letters
  · simp only [if_pos hmax, reduceCtorEq, false_iff, not_and]
    omega
  · simp only [if_neg hmax, Except.ok.injEq]
    omega

theorem lettersValue_pos {letters : List Char} (h : letters ≠ []) : 1 ≤ lettersValue letters := by
  rw [← List.dropLast_concat_getLast h, lettersValue_append_singleton, letterValue]
  omega

/-! ## The cell of a text -/

namespace Cell

theorem spells_of_ofReference {text : String} {c : Cell} (h : ofReference text = .ok c) :
    ∃ letters digits, Spells text.toList letters digits ∧ lettersValue letters = c.column ∧
      Nat.ofDigitChars 10 digits 0 = c.row ∧ c.OnGrid := by
  unfold ofReference at h
  dsimp only at h
  split at h
  · cases h
  split at h
  · cases h
  rename_i hletters
  split at h
  · cases h
  rename_i hdigits
  split at h
  · rename_i hall
    have halpha : ∀ d ∈ text.toList.takeWhile Char.isAlpha, d.isAlpha = true :=
      List.all_eq_true.mp List.all_takeWhile
    split at h
    · cases h
    rename_i column hcolumn
    split at h
    · cases h
    rename_i row hrow
    cases h
    obtain ⟨hvalue, hmax⟩ := (readLetters_eq_ok_iff halpha column).mp hcolumn
    obtain ⟨hspelt, hone, hlast⟩ := (readRow_eq_ok_iff _ _ row).mp hrow
    have hpos : 1 ≤ column := by
      rw [← hvalue]
      exact lettersValue_pos hletters
    exact ⟨_, _, ⟨List.takeWhile_append_dropWhile.symm, hletters, hdigits, halpha,
      List.all_eq_true.mp hall⟩, hvalue, hspelt, ⟨hone, hlast⟩, hpos, hmax⟩
  · cases h

/-- The cell that letters and digits name is the one whose column and row they spell. -/
theorem ofReference_eq_ok_iff (text : String) (c : Cell) :
    ofReference text = .ok c ↔
      ∃ letters digits, Spells text.toList letters digits ∧ lettersValue letters = c.column ∧
        Nat.ofDigitChars 10 digits 0 = c.row ∧ c.OnGrid := by
  constructor
  · intro h
    exact spells_of_ofReference h
  · rintro ⟨letters, digits, hspells, hcolumn, hrow, hgrid⟩
    have hne : text.toList ≠ [] := by simp [hspells.text_eq, hspells.letters_ne]
    have hletters := (readLetters_eq_ok_iff hspells.letters_alpha c.column).mpr
      ⟨hcolumn, hgrid.2.2⟩
    have hdigits := (readRow_eq_ok_iff text digits c.row).mpr ⟨hrow, hgrid.1⟩
    unfold ofReference
    dsimp only
    rw [hspells.takeWhile_isAlpha, hspells.dropWhile_isAlpha, if_neg hne, if_neg hspells.letters_ne,
      if_neg hspells.digits_ne, if_pos (List.all_eq_true.mpr hspells.digits_digit), hletters]
    dsimp only
    rw [hdigits]

theorem toList_reference (c : Cell) :
    c.reference.toList = columnLetters c.column ++ Nat.toDigits 10 c.row := by
  simp [reference]

theorem spells_reference {c : Cell} (h : 1 ≤ c.column) :
    Spells c.reference.toList (columnLetters c.column) (Nat.toDigits 10 c.row) where
  text_eq := c.toList_reference
  letters_ne := columnLetters_ne_nil h
  digits_ne := Nat.toDigits_ne_nil
  letters_alpha := fun d hd => isAlpha_of_isUpper (isUpper_columnLetters c.column d hd)
  digits_digit := isDigit_toDigits c.row

/-- The reference of a cell of the grid names that cell. -/
theorem ofReference_reference {c : Cell} (h : c.OnGrid) : ofReference c.reference = .ok c := by
  rw [ofReference_eq_ok_iff]
  exact ⟨_, _, spells_reference h.2.1, lettersValue_columnLetters c.column,
    Nat.ofDigitChars_ten_toDigits, h⟩

end Cell

/-! ## Canonical references -/

/-- The letters are capitals, and the digits do not start with a zero. -/
theorem isReference_iff (chars : List Char) :
    isReference chars = true ↔
      ∃ letters digit rest, Spells chars letters (digit :: rest) ∧
        (∀ c ∈ letters, c.isUpper = true) ∧ startsRowNumber digit = true := by
  constructor
  · intro h
    unfold isReference at h
    split at h
    · cases h
    rename_i digit rest hdrop
    rw [Bool.and_eq_true, Bool.and_eq_true, Bool.not_eq_true', List.isEmpty_eq_false_iff] at h
    obtain ⟨⟨hletters, hstarts⟩, hrest⟩ := h
    have hupper : ∀ c ∈ chars.takeWhile Char.isUpper, c.isUpper = true :=
      List.all_eq_true.mp List.all_takeWhile
    refine ⟨chars.takeWhile Char.isUpper, digit, rest, ⟨?_, hletters, List.cons_ne_nil _ _,
      fun c hc => isAlpha_of_isUpper (hupper c hc), ?_⟩, hupper, hstarts⟩
    · rw [← hdrop, List.takeWhile_append_dropWhile]
    · intro c hc
      rcases List.mem_cons.mp hc with rfl | hc
      · exact (Bool.and_eq_true_iff.mp hstarts).1
      · exact List.all_eq_true.mp hrest c hc
  · rintro ⟨letters, digit, rest, hspells, hupper, hstarts⟩
    have hdigit := not_isUpper_of_isDigit (hspells.digits_digit digit List.mem_cons_self)
    have hrest : ∀ c ∈ rest, c.isDigit = true :=
      fun c hc => hspells.digits_digit c (List.mem_cons_of_mem _ hc)
    have hne := hspells.letters_ne
    unfold isReference
    rw [hspells.text_eq, List.dropWhile_append_of_pos hupper, List.takeWhile_append_of_pos hupper]
    simpa [hdigit, hstarts, hne] using hrest

theorem isReference_reference {c : Cell} (h : c.OnGrid) : isReference c.reference.toList = true := by
  obtain ⟨digit, rest, hdigits, hstarts, -⟩ := exists_toDigits_eq_cons h.1.1
  have hspells := Cell.spells_reference h.2.1
  rw [hdigits] at hspells
  exact (isReference_iff _).mpr ⟨_, digit, rest, hspells, isUpper_columnLetters c.column, hstarts⟩

/-- A canonical reference is the reference of the cell that it names. -/
theorem reference_eq_of_isReference {chars : List Char} {c : Cell} (h : isReference chars = true)
    (hc : Cell.ofReference (String.ofList chars) = .ok c) : c.reference.toList = chars := by
  obtain ⟨letters, digit, rest, hspells, hupper, hstarts⟩ := (isReference_iff chars).mp h
  obtain ⟨letters', digits', hspells', hcolumn, hrow, -⟩ := (Cell.ofReference_eq_ok_iff _ c).mp hc
  rw [String.toList_ofList] at hspells'
  -- a text is letters and then digits in one way only
  obtain rfl : letters = letters' := hspells.takeWhile_isAlpha.symm.trans hspells'.takeWhile_isAlpha
  obtain rfl : digit :: rest = digits' :=
    hspells.dropWhile_isAlpha.symm.trans hspells'.dropWhile_isAlpha
  have hrest : ∀ d ∈ rest, d.isDigit = true :=
    fun d hd => hspells.digits_digit d (List.mem_cons_of_mem _ hd)
  rw [Cell.toList_reference, ← hcolumn, ← hrow, columnLetters_lettersValue hupper,
    (toDigits_ofDigitChars hstarts hrest).2, ← hspells.text_eq]

/-- Looked for in a canonical reference, the first reference is all of it. -/
theorem findReference?_of_isReference {chars : List Char} (h : isReference chars = true) :
    findReference? chars = some chars := by
  obtain ⟨letters, digit, rest, hspells, hupper, hstarts⟩ := (isReference_iff chars).mp h
  have hdigit := not_isUpper_of_isDigit (hspells.digits_digit digit List.mem_cons_self)
  have hrest : ∀ c ∈ rest, c.isDigit = true :=
    fun c hc => hspells.digits_digit c (List.mem_cons_of_mem _ hc)
  have hleading : leadingReference? chars = some chars := by
    unfold leadingReference?
    rw [hspells.text_eq, List.dropWhile_append_of_pos hupper, List.takeWhile_append_of_pos hupper]
    simp [hdigit, hstarts, hspells.letters_ne, List.takeWhile_eq_self_iff.mpr hrest]
  cases chars with
  | nil => cases h
  | cons c chars => rw [findReference?, hleading]

end GridTemplate
