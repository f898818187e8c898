-- The two numerals of a cell reference. Column letters are numerals without a zero, so each number
-- from one on has one spelling in capital letters. Row digits have one spelling without leading
-- zeros. Both are read back as the number that they spell.
import GridTemplate.Cell.Reference
import GridTemplate.Descriptor.Reference
import Mathlib.Data.List.Induction

namespace GridTemplate

/-! ## Letters -/

theorem isUpper_iff (c : Char) : c.isUpper = true ↔ 65 ≤ c.toNat ∧ c.toNat ≤ 90 :=
  decide_eq_true_iff.trans (and_congr UInt32.le_iff_toNat_le UInt32.le_iff_toNat_le)

theorem isLower_iff (c : Char) : c.isLower = true ↔ 97 ≤ c.toNat ∧ c.toNat ≤ 122 :=
  Bool.and_eq_true_iff.trans (and_congr (decide_eq_true_iff.trans UInt32.le_iff_toNat_le)
    (decide_eq_true_iff.trans UInt32.le_iff_toNat_le))

theorem isDigit_iff (c : Char) : c.isDigit = true ↔ 48 ≤ c.toNat ∧ c.toNat ≤ 57 :=
  Char.isDigit_iff_toNat

theorem isAlpha_of_isUpper {c : Char} (h : c.isUpper = true) : c.isAlpha = true :=
  Bool.or_eq_true_iff.mpr (Or.inl h)

theorem not_isAlpha_of_isDigit {c : Char} (h : c.isDigit = true) : c.isAlpha = false := by
  rw [isDigit_iff] at h
  rw [← Bool.not_eq_true]
  intro halpha
  rcases Bool.or_eq_true_iff.mp halpha with hupper | hlower
  · rw [isUpper_iff] at hupper
    omega
  · rw [isLower_iff] at hlower
    omega

theorem not_isUpper_of_isDigit {c : Char} (h : c.isDigit = true) : c.isUpper = false := by
  rw [← Bool.not_eq_true]
  intro hupper
  rw [isDigit_iff] at h
  rw [isUpper_iff] at hupper
  omega

/-- The capital letters in order. -/
theorem isUpper_ofNat {k : Nat} (h : k < 26) :
    (Char.ofNat ('A'.toNat + k)).isUpper = true ∧ letterValue (Char.ofNat ('A'.toNat + k)) = k + 1 := by
  have hall : ∀ k < 26, (Char.ofNat ('A'.toNat + k)).isUpper = true ∧
      letterValue (Char.ofNat ('A'.toNat + k)) = k + 1 := by decide
  exact hall k h

/-- A character of a run of characters is known by how far it is from the first one. -/
theorem exists_ofNat_of_le {c : Char} {first count : Nat} (hle : first ≤ c.toNat)
    (hlt : c.toNat < first + count) : ∃ k < count, c = Char.ofNat (first + k) := by
  refine ⟨c.toNat - first, by omega, ?_⟩
  rw [Nat.add_sub_cancel' hle, Char.ofNat_toNat]

theorem exists_of_isUpper {c : Char} (h : c.isUpper = true) :
    ∃ k < 26, c = Char.ofNat ('A'.toNat + k) := by
  rw [isUpper_iff] at h
  exact exists_ofNat_of_le h.1 (Nat.lt_succ_of_le h.2)

theorem isUpper_columnLetters (n : Nat) : ∀ c ∈ columnLetters n, c.isUpper = true := by
  induction n using Nat.strongRecOn with
  | ind n ih =>
    cases n with
    | zero => simp [columnLetters_zero]
    | succ n =>
      intro c hc
      rw [columnLetters_succ, List.mem_append, List.mem_singleton] at hc
      rcases hc with hc | rfl
      · exact ih (n / 26) (by omega) c hc
      · exact (isUpper_ofNat (Nat.mod_lt n (by decide))).1

theorem columnLetters_ne_nil {n : Nat} (h : 1 ≤ n) : columnLetters n ≠ [] := by
  obtain ⟨m, rfl⟩ := Nat.exists_eq_succ_of_ne_zero (Nat.one_le_iff_ne_zero.mp h)
  simp [columnLetters_succ]

theorem lettersValue_columnLetters (n : Nat) : lettersValue (columnLetters n) = n := by
  induction n using Nat.strongRecOn with
  | ind n ih =>
    cases n with
    | zero => rw [columnLetters_zero, lettersValue_nil]
    | succ n =>
      rw [columnLetters_succ, lettersValue_append_singleton, ih (n / 26) (by omega),
        (isUpper_ofNat (Nat.mod_lt n (by decide))).2]
      omega

/-- Induction from the last letter: it is the remainder that the spelling of the number begins
with, and the letters before it spell the quotient. -/
theorem columnLetters_lettersValue {letters : List Char} (h : ∀ c ∈ letters, c.isUpper = true) :
    columnLetters (lettersValue letters) = letters := by
  induction letters using List.reverseRecOn with
  | nil => rw [lettersValue_nil, columnLetters_zero]
  | append_singleton letters c ih =>
    have hletters := ih fun d hd => h d (List.mem_append_left _ hd)
    obtain ⟨k, hk, rfl⟩ := exists_of_isUpper (h c (by simp))
    have hdiv : (26 * lettersValue letters + k) / 26 = lettersValue letters := by omega
    have hmod : (26 * lettersValue letters + k) % 26 = k := by omega
    rw [lettersValue_append_singleton, (isUpper_ofNat hk).2, ← Nat.add_assoc, columnLetters_succ,
      hdiv, hmod, hletters]

theorem pushLetter_capped (n : Nat) (c : Char) :
    pushLetter (min coordinateCap n) c = min coordinateCap (26 * n + letterValue c) := by
  simp only [pushLetter, coordinateCap]
  omega

/-- Letters are read as the number that they spell. The cap on the way only changes what is said of
a number beyond it. -/
theorem readLetters_eq {letters : List Char} (h : ∀ c ∈ letters, c.isAlpha = true) :
    readLetters 0 letters =
      if maxColumn < lettersValue letters then
        .error (.columnOutOfBounds (min coordinateCap (lettersValue letters)))
      else .ok (lettersValue letters) := by
  suffices hread : ∀ n, readLetters (min coordinateCap n) letters =
      if maxColumn < letters.foldl (fun n c => 26 * n + letterValue c) n then
        .error (.columnOutOfBounds
          (min coordinateCap (letters.foldl (fun n c => 26 * n + letterValue c) n)))
      else .ok (letters.foldl (fun n c => 26 * n + letterValue c) n) from hread 0
  induction letters with
  | nil =>
    intro n
    by_cases hn : maxColumn < n
    · have hcapped : maxColumn < min coordinateCap n := by
        simp only [maxColumn, coordinateCap] at hn ⊢
        omega
      rw [readLetters, if_pos hcapped, List.foldl_nil, if_pos hn]
    · have hcapped : min coordinateCap n = n := by
        simp only [maxColumn, coordinateCap] at hn ⊢
        omega
      rw [hcapped, readLetters, if_neg hn, List.foldl_nil, if_neg hn]
  | cons c letters ih =>
    intro n
    rw [readLetters, if_pos (h c List.mem_cons_self), pushLetter_capped,
      ih fun d hd => h d (List.mem_cons_of_mem _ hd), List.foldl_cons]

/-! ## Digits -/

theorem exists_digit_of_isDigit {c : Char} (h : c.isDigit = true) :
    ∃ d < 10, c = Nat.digitChar d ∧ c.toNat - '0'.toNat = d := by
  have hc := (isDigit_iff c).mp h
  obtain ⟨d, hd, rfl⟩ : ∃ d < 10, c = Nat.digitChar d := by
    refine ⟨c.toNat - 48, by omega, ?_⟩
    apply Char.toNat_inj.mp
    rw [Nat.toNat_digitChar_of_lt_ten (by omega)]
    omega
  exact ⟨d, hd, rfl, Nat.toNat_digitChar_sub_48_of_lt_ten hd⟩

theorem isDigit_toDigits (n : Nat) : ∀ c ∈ Nat.toDigits 10 n, c.isDigit = true :=
  fun _ hc => Nat.isDigit_of_mem_toDigits (by decide) (by decide) hc

/-- A number from one on starts with a digit that is not zero. -/
theorem exists_toDigits_eq_cons {n : Nat} (h : 1 ≤ n) :
    ∃ c rest, Nat.toDigits 10 n = c :: rest ∧ startsRowNumber c = true ∧
      ∀ d ∈ rest, d.isDigit = true := by
  induction n using Nat.strongRecOn with
  | ind n ih =>
    by_cases hn : n < 10
    · refine ⟨Nat.digitChar n, [], Nat.toDigits_of_lt_base hn, ?_, by simp⟩
      simp only [startsRowNumber, Nat.isDigit_digitChar, hn, decide_true, Bool.true_and,
        bne_iff_ne, ne_eq, Nat.digitChar_eq_zero]
      omega
    · obtain ⟨c, rest, hdigits, hstarts, hrest⟩ := ih (n / 10) (by omega) (by omega)
      refine ⟨c, rest ++ [Nat.digitChar (n % 10)], ?_, hstarts, ?_⟩
      · rw [Nat.toDigits_of_base_le (by decide) (Nat.le_of_not_lt hn), hdigits, List.cons_append]
      · intro d hd
        rcases List.mem_append.mp hd with hd | hd
        · exact hrest d hd
        · rw [List.mem_singleton.mp hd, Nat.isDigit_digitChar]
          exact decide_eq_true (Nat.mod_lt n (by decide))

/-- Digits that do not start with a zero are the only such spelling of their number. -/
theorem toDigits_ofDigitChars {c : Char} {rest : List Char} (hc : startsRowNumber c = true)
    (hrest : ∀ d ∈ rest, d.isDigit = true) :
    1 ≤ Nat.ofDigitChars 10 (c :: rest) 0 ∧
      Nat.toDigits 10 (Nat.ofDigitChars 10 (c :: rest) 0) = c :: rest := by
  induction rest using List.reverseRecOn with
  | nil =>
    rw [startsRowNumber, Bool.and_eq_true, bne_iff_ne] at hc
    obtain ⟨k, hk, rfl, hvalue⟩ := exists_digit_of_isDigit hc.1
    rw [Nat.ofDigitChars_cons, Nat.ofDigitChars_nil, hvalue, Nat.mul_zero, Nat.zero_add]
    refine ⟨?_, Nat.toDigits_of_lt_base hk⟩
    rw [ne_eq, Nat.digitChar_eq_zero] at hc
    omega
  | append_singleton rest d ih =>
    obtain ⟨hpos, hdigits⟩ := ih fun x hx => hrest x (List.mem_append_left _ hx)
    obtain ⟨k, hk, rfl, hvalue⟩ := exists_digit_of_isDigit (hrest d (by simp))
    rw [← List.cons_append, Nat.ofDigitChars_append, Nat.ofDigitChars_cons, Nat.ofDigitChars_nil,
      hvalue, ← Nat.toDigits_append_toDigits (by decide) hpos hk, hdigits,
      Nat.toDigits_of_lt_base hk]
    exact ⟨by omega, rfl⟩

end GridTemplate
