-- Columns and the letters that name them. Letters are numerals without a zero, so each number from one
-- on is spelt by capital letters in exactly one way, and letters in either case are read as the number
-- that they spell, however many there are. A number beyond the last column is refused as what it is, or
-- as the greatest number there is.
import GridTemplate.Proofs.Cell.Canonical
import Mathlib.Algebra.Group.Nat.Defs

namespace GridTemplate

/-! ## Characters that are no letters -/

/-- The first character that is no letter is reported, whatever the letters before it spell. -/
theorem readLetters_of_not_isAlpha {front rest : List Char} {c : Char}
    (hfront : ∀ d ∈ front, d.isAlpha = true) (hc : c.isAlpha = false) (n : Nat) :
    readLetters n (front ++ c :: rest) = .error (.badAddress (.invalidColumnLetter c)) := by
  induction front generalizing n with
  | nil => simp [readLetters, hc]
  | cons d front ih =>
    rw [List.cons_append, readLetters, if_pos (hfront d List.mem_cons_self)]
    exact ih (fun x hx => hfront x (List.mem_cons_of_mem d hx)) _

theorem columnOfLetters_eq {text : String} (h : text ≠ "") :
    columnOfLetters text = readLetters 0 text.toList := by
  unfold columnOfLetters
  split
  · rename_i hnil
    exact absurd (String.toList_eq_nil_iff.mp hnil) h
  · rfl

/-! ## Any letters -/

variable {text : String}

theorem columnOfLetters_of_isAlpha (hne : text ≠ "") (h : ∀ c ∈ text.toList, c.isAlpha = true) :
    columnOfLetters text =
      if lettersValue text.toList ≤ maxColumn then .ok (lettersValue text.toList)
      else .error (.columnOutOfBounds (min (lettersValue text.toList) coordinateCap)) := by
  rw [columnOfLetters_eq hne, readLetters_eq h, Nat.min_comm]
  by_cases hmax : maxColumn < lettersValue text.toList
  · rw [if_pos hmax, if_neg (Nat.not_le_of_lt hmax)]
  · rw [if_neg hmax, if_pos (Nat.le_of_not_lt hmax)]

theorem columnOfLetters_of_find? {c : Char} (h : text.toList.find? (fun d => !d.isAlpha) = some c) :
    columnOfLetters text = .error (.badAddress (.invalidColumnLetter c)) := by
  obtain ⟨hc, front, rest, htext, hfront⟩ := List.find?_eq_some_iff_append.mp h
  have hne : text ≠ "" := by
    rintro rfl
    simp at htext
  rw [columnOfLetters_eq hne, htext]
  apply readLetters_of_not_isAlpha
  · intro d hd
    simpa using hfront d hd
  · simpa using hc

/-- What a column is read from is its own letters in either case. -/
theorem ofList_columnLetters_of_columnOfLetters {column : Nat}
    (h : ∀ c ∈ text.toList, c.isAlpha = true) (hcolumn : columnOfLetters text = .ok column) :
    String.ofList (columnLetters column) = text.toUpper := by
  have hne : text ≠ "" := by
    rintro rfl
    cases hcolumn
  rw [columnOfLetters_eq hne] at hcolumn
  obtain ⟨hvalue, -⟩ := (readLetters_eq_ok_iff h column).mp hcolumn
  rw [← hvalue, columnLetters_lettersValue_of_isAlpha h, ← String.toList_inj, String.toList_ofList,
    String.toUpper, String.toList_map]

theorem columnOfLetters_columnLetters {column : Nat} (hpos : 1 ≤ column)
    (hcap : column ≤ coordinateCap) :
    columnOfLetters (String.ofList (columnLetters column)) =
      if column ≤ maxColumn then .ok column else .error (.columnOutOfBounds column) := by
  have hne : String.ofList (columnLetters column) ≠ "" := by
    simpa using columnLetters_ne_nil hpos
  have halpha : ∀ c ∈ (String.ofList (columnLetters column)).toList, c.isAlpha = true := by
    intro c hc
    rw [String.toList_ofList] at hc
    exact isAlpha_of_isUpper (isUpper_columnLetters column c hc)
  rw [columnOfLetters_of_isAlpha hne halpha, String.toList_ofList, lettersValue_columnLetters,
    Nat.min_eq_left hcap]

/-! ## The law -/

/-- Columns are counted in letters without a letter for zero. A number of 32 bits from one on has
capital letters that spell it, and they are read as the number again or refused as a number beyond the
last column. Letters in either case and of any length are read as what they spell, and a column that
they name has the same letters as capitals. A character that is no letter is named before that. -/
theorem letters_count_columns_without_a_zero :
    (∀ column : UInt32, 1 ≤ column →
      let letters := columnLetters column.toNat
      letters ≠ [] ∧ (∀ c ∈ letters, 'A' ≤ c ∧ c ≤ 'Z') ∧ lettersValue letters = column.toNat ∧
      lettersBefore column [] = letters ∧
      columnOfLetters (String.ofList letters) =
        if column.toNat ≤ maxColumn then .ok column.toNat
        else .error (.columnOutOfBounds column.toNat)) ∧
    (∀ letters : List Char, (∀ c ∈ letters, 'A' ≤ c ∧ c ≤ 'Z') →
      columnLetters (lettersValue letters) = letters) ∧
    (∀ text : String, text ≠ "" → (∀ c ∈ text.toList, c.isAlpha = true) →
      let value := lettersValue text.toList
      (columnOfLetters text =
        if value ≤ maxColumn then .ok value
        else .error (.columnOutOfBounds (min value (2 ^ 32 - 1)))) ∧
      ∀ column, columnOfLetters text = .ok column →
        String.ofList (columnLetters column) = text.toUpper) ∧
    ∀ (text : String) (c : Char), text.toList.find? (fun d => !d.isAlpha) = some c →
      columnOfLetters text = .error (.badAddress (.invalidColumnLetter c)) := by
  have hcapital : ∀ c : Char, c.isUpper = true ↔ 'A' ≤ c ∧ c ≤ 'Z' := fun _ => decide_eq_true_iff
  refine ⟨?_, ?_, ?_, fun text c h => columnOfLetters_of_find? h⟩
  · intro column hpos letters
    have hone : 1 ≤ column.toNat := UInt32.le_iff_toNat_le.mp hpos
    have hcap : column.toNat ≤ coordinateCap := Nat.le_of_lt_succ column.toNat_lt
    refine ⟨columnLetters_ne_nil hone, ?_, lettersValue_columnLetters _, ?_,
      columnOfLetters_columnLetters hone hcap⟩
    · intro c hc
      exact (hcapital c).mp (isUpper_columnLetters _ c hc)
    · rw [lettersBefore_eq, List.append_nil]
  · intro letters h
    exact columnLetters_lettersValue fun c hc => (hcapital c).mpr (h c hc)
  · intro text hne halpha value
    exact ⟨columnOfLetters_of_isAlpha hne halpha,
      fun column hcolumn => ofList_columnLetters_of_columnOfLetters halpha hcolumn⟩

/-- The greatest number of 32 bits is spelt but is no column, and neither is one that is spelt by ten
letters. The last column is read from small letters too, and what is no letter is named first. -/
theorem the_greatest_number_is_spelt_but_is_no_column :
    columnLetters 4294967295 = "MWLQKWU".toList ∧
    columnOfLetters "MWLQKWU" = .error (.columnOutOfBounds 4294967295) ∧
    columnOfLetters "xFd" = .ok 16384 ∧ String.ofList (columnLetters 16384) = "XFD" ∧
    columnOfLetters "ZZZZZZZZZZ" = .error (.columnOutOfBounds 4294967295) ∧
    columnOfLetters "ZZZZZZZZZZé1" = .error (.badAddress (.invalidColumnLetter 'é')) := by
  obtain ⟨hspelt, hunique, hread, hrefused⟩ := letters_count_columns_without_a_zero
  have hall {p : Char → Prop} [DecidablePred p] {letters : List Char}
      (h : letters.all (fun c => decide (p c)) = true) : ∀ c ∈ letters, p c := by
    simpa using h
  have hletters : columnLetters 4294967295 = "MWLQKWU".toList :=
    hunique "MWLQKWU".toList (hall rfl)
  obtain ⟨-, -, -, -, hgreatest⟩ := hspelt 4294967295 (by decide)
  obtain ⟨hlast, hcapitals⟩ := hread "xFd" (by decide) (hall rfl)
  obtain ⟨hlong, -⟩ := hread "ZZZZZZZZZZ" (by decide) (hall rfl)
  have hupper : "xFd".toUpper = "XFD" := by
    rw [← String.toList_inj, String.toUpper, String.toList_map]
    rfl
  refine ⟨hletters, ?_, hlast, (hcapitals 16384 hlast).trans hupper, hlong, hrefused _ 'é' rfl⟩
  change columnOfLetters (String.ofList (columnLetters 4294967295)) = _ at hgreatest
  rw [hletters] at hgreatest
  exact hgreatest

end GridTemplate
