-- The canonical spelling of a reference has capital letters and no zeros in front of its row
-- number. A text that names a cell is a spelling of the cell's own reference, and two texts name one
-- cell exactly if their canonical spellings are the same.
import GridTemplate.Proofs.Cell.References

namespace GridTemplate

/-- A reference with its letters as capitals and without zeros in front of its row number. -/
def canonicalReference (text : String) : String :=
  String.ofList ((text.toList.takeWhile Char.isAlpha).map Char.toUpper ++
    (text.toList.dropWhile Char.isAlpha).dropWhile (· == '0'))

/-! ## Capital letters -/

theorem toUpper_of_isUpper {c : Char} (h : c.isUpper = true) : c.toUpper = c := by
  rw [isUpper_iff] at h
  unfold Char.toUpper
  apply dif_neg
  rintro ⟨hlow, -⟩
  have hle := UInt32.le_iff_toNat_le.mp hlow
  change 97 ≤ c.toNat at hle
  omega

theorem exists_of_isLower {c : Char} (h : c.isLower = true) :
    ∃ k < 26, c = Char.ofNat ('a'.toNat + k) := by
  rw [isLower_iff] at h
  exact exists_ofNat_of_le h.1 (Nat.lt_succ_of_le h.2)

theorem isUpper_toUpper {c : Char} (h : c.isAlpha = true) : c.toUpper.isUpper = true := by
  rcases Bool.or_eq_true_iff.mp h with hupper | hlower
  · rw [toUpper_of_isUpper hupper]
    exact hupper
  · obtain ⟨k, hk, rfl⟩ := exists_of_isLower hlower
    have hall : ∀ k < 26, (Char.ofNat ('a'.toNat + k)).toUpper.isUpper = true := by decide
    exact hall k hk

theorem lettersValue_map_toUpper {letters : List Char} (h : ∀ c ∈ letters, c.isAlpha = true) :
    lettersValue (letters.map Char.toUpper) = lettersValue letters := by
  induction letters using List.reverseRecOn with
  | nil => rfl
  | append_singleton letters c ih =>
    have hupper := isUpper_toUpper (h c (by simp))
    rw [List.map_append, List.map_singleton, lettersValue_append_singleton,
      lettersValue_append_singleton, ih fun d hd => h d (List.mem_append_left _ hd), letterValue,
      letterValue, toUpper_of_isUpper hupper]

/-- The letters of the number that letters in either case spell are the same letters as capitals. -/
theorem columnLetters_lettersValue_of_isAlpha {letters : List Char}
    (h : ∀ c ∈ letters, c.isAlpha = true) :
    columnLetters (lettersValue letters) = letters.map Char.toUpper := by
  rw [← lettersValue_map_toUpper h]
  apply columnLetters_lettersValue
  intro c hc
  obtain ⟨d, hd, rfl⟩ := List.mem_map.mp hc
  exact isUpper_toUpper (h d hd)

/-! ## Leading zeros -/

/-- Digits that spell a number from one on spell it without their leading zeros, and then the first
digit left is no zero. -/
theorem toDigits_eq_dropWhile {digits : List Char} (h : ∀ d ∈ digits, d.isDigit = true)
    (hpos : 1 ≤ Nat.ofDigitChars 10 digits 0) :
    Nat.toDigits 10 (Nat.ofDigitChars 10 digits 0) = digits.dropWhile (· == '0') := by
  induction digits with
  | nil => exact absurd hpos (by simp)
  | cons d rest ih =>
    have hrest : ∀ c ∈ rest, c.isDigit = true := fun c hc => h c (List.mem_cons_of_mem _ hc)
    by_cases hzero : d = '0'
    · subst hzero
      have hskip : Nat.ofDigitChars 10 ('0' :: rest) 0 = Nat.ofDigitChars 10 rest 0 := by
        rw [Nat.ofDigitChars_cons, Nat.mul_zero, Nat.zero_add, Nat.sub_self]
      rw [hskip] at hpos ⊢
      rw [ih hrest hpos, List.dropWhile_cons_of_pos (by decide)]
    · have hstarts : startsRowNumber d = true := by
        unfold startsRowNumber
        rw [h d List.mem_cons_self, Bool.true_and]
        exact bne_iff_ne.mpr hzero
      rw [(toDigits_ofDigitChars hstarts hrest).2,
        List.dropWhile_cons_of_neg (by simpa using hzero)]

namespace Cell

theorem reference_eq_canonicalReference {text : String} {c : Cell}
    (h : ofReference text = .ok c) : c.reference = canonicalReference text := by
  obtain ⟨letters, digits, hspells, hcolumn, hrow, hgrid⟩ := spells_of_ofReference h
  have hpos : 1 ≤ Nat.ofDigitChars 10 digits 0 := by
    rw [hrow]
    exact hgrid.1.1
  unfold canonicalReference
  rw [hspells.takeWhile_isAlpha, hspells.dropWhile_isAlpha, ← String.toList_inj,
    String.toList_ofList, toList_reference, ← hcolumn, ← hrow,
    columnLetters_lettersValue_of_isAlpha hspells.letters_alpha,
    toDigits_eq_dropWhile hspells.digits_digit hpos]

/-! ## References as names -/

/-- A reference is capital letters and then digits, so both can be told apart again. -/
theorem takeWhile_isUpper_reference (c : Cell) :
    c.reference.toList.takeWhile Char.isUpper = columnLetters c.column ∧
      c.reference.toList.dropWhile Char.isUpper = Nat.toDigits 10 c.row := by
  rw [toList_reference, List.takeWhile_append_of_pos (isUpper_columnLetters c.column),
    List.dropWhile_append_of_pos (isUpper_columnLetters c.column)]
  have hdigits := isDigit_toDigits c.row
  cases hrow : Nat.toDigits 10 c.row with
  | nil => simp
  | cons d rest =>
    rw [hrow] at hdigits
    simp [not_isUpper_of_isDigit (hdigits d List.mem_cons_self)]

theorem reference_injective {c d : Cell} (h : c.reference = d.reference) : c = d := by
  obtain ⟨hletters, hdigits⟩ := c.takeWhile_isUpper_reference
  rw [h, d.takeWhile_isUpper_reference.1] at hletters
  rw [h, d.takeWhile_isUpper_reference.2] at hdigits
  have hcolumn : c.column = d.column := by
    rw [← lettersValue_columnLetters c.column, ← hletters, lettersValue_columnLetters]
  have hrow : c.row = d.row := by
    rw [← Nat.ofDigitChars_ten_toDigits (n := c.row), ← hdigits, Nat.ofDigitChars_ten_toDigits]
  cases c
  cases d
  cases hcolumn
  cases hrow
  rfl

end Cell

/-! ## The law -/

/-- The reference of a cell on the grid names that cell, and whatever names a cell is a spelling of
the cell's reference, so that two texts name one cell if their canonical spellings agree. No two
cells have one reference, on the grid or not. -/
theorem a_cell_is_named_by_the_spellings_of_its_reference :
    (∀ c : Cell, c.OnGrid → Cell.ofReference c.reference = .ok c) ∧
    (∀ text c, Cell.ofReference text = .ok c →
      c.OnGrid ∧ c.reference = canonicalReference text) ∧
    (∀ s t c d, Cell.ofReference s = .ok c → Cell.ofReference t = .ok d →
      (c = d ↔ canonicalReference s = canonicalReference t)) ∧
    ∀ c d : Cell, c.reference = d.reference → c = d := by
  refine ⟨fun c h => Cell.ofReference_reference h, ?_, ?_, fun c d h => Cell.reference_injective h⟩
  · intro text c h
    obtain ⟨-, -, -, -, -, hgrid⟩ := Cell.spells_of_ofReference h
    exact ⟨hgrid, Cell.reference_eq_canonicalReference h⟩
  · intro s t c d hs ht
    rw [← Cell.reference_eq_canonicalReference hs, ← Cell.reference_eq_canonicalReference ht]
    constructor
    · exact congrArg Cell.reference
    · exact Cell.reference_injective

/-- Small letters and zeros in front make another spelling of a cell's reference. Off the grid a
reference is no one else's either. -/
theorem a_cell_has_several_spellings :
    let c : Cell := ⟨7, 28⟩
    c.OnGrid ∧ Cell.ofReference c.reference = .ok c ∧
      Cell.ofReference "AB7" = .ok c ∧ Cell.ofReference "aB007" = .ok c ∧
      c.reference = "AB7" ∧ canonicalReference "aB007" = canonicalReference "AB7" ∧
      (⟨0, 702⟩ : Cell).reference ≠ (⟨0, 703⟩ : Cell).reference := by
  intro c
  have hgrid : c.OnGrid := by decide
  have hplain : Cell.ofReference "AB7" = .ok c := rfl
  have hpadded : Cell.ofReference "aB007" = .ok c := rfl
  obtain ⟨hnames, hspelling, hsame, hinjective⟩ := a_cell_is_named_by_the_spellings_of_its_reference
  refine ⟨hgrid, hnames c hgrid, hplain, hpadded, (hspelling _ c hplain).2,
    (hsame _ _ c c hpadded hplain).mp rfl, ?_⟩
  intro h
  exact absurd (hinjective _ _ h) (by decide)

end GridTemplate
