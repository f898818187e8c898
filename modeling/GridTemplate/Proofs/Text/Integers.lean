-- Whole numbers as texts. A text writes a number with an optional sign and decimal digits, of which there
-- may be any number, and it is read if the number fits into 32 bits. To read the digits one at a time, with
-- the sign on each of them, and to give up as soon as a step no longer fits, makes no difference.
import GridTemplate.Proofs.Cell.Numerals
import GridTemplate.Text.Integer
import Mathlib.Algebra.Group.Nat.Defs

namespace GridTemplate

/-! ## Numbers as they are written -/

theorem le_ofDigitChars (digits : List Char) (n : Nat) : n ≤ Nat.ofDigitChars 10 digits n := by
  induction digits generalizing n with
  | nil => simp
  | cons c digits ih =>
    rw [Nat.ofDigitChars_cons]
    exact Nat.le_trans (by omega) (ih _)

/-- How the sign is written. -/
def Sign.chars : Sign → List Char
  | .none => []
  | .plus => ['+']
  | .minus => ['-']

/-- The characters are a sign, or none, and then digits for the number. -/
def WritesInteger (chars : List Char) (n : Int) : Prop :=
  ∃ (sign : Sign) (digits : List Char), chars = sign.chars ++ digits ∧ digits ≠ [] ∧
    (∀ c ∈ digits, c.isDigit = true) ∧ n = sign.apply (Nat.ofDigitChars 10 digits 0)

theorem digitsValue?_eq_some_iff (chars : List Char) (n : Nat) :
    digitsValue? chars = some n ↔
      chars ≠ [] ∧ (∀ c ∈ chars, c.isDigit = true) ∧ Nat.ofDigitChars 10 chars 0 = n := by
  unfold digitsValue?
  simp only [Option.ite_none_right_eq_some, List.all_eq_true, Option.some.injEq, and_assoc]

theorem chars_append_splitSign (chars : List Char) :
    (splitSign chars).1.chars ++ (splitSign chars).2 = chars := by
  unfold splitSign
  split <;> rfl

/-- A digit is no sign. -/
theorem splitSign_append {sign : Sign} {digits : List Char} (h : ∀ c ∈ digits, c.isDigit = true) :
    splitSign (sign.chars ++ digits) = (sign, digits) := by
  cases sign with
  | none =>
    unfold splitSign Sign.chars
    rw [List.nil_append]
    split
    · exact absurd (h '+' List.mem_cons_self) (by decide)
    · exact absurd (h '-' List.mem_cons_self) (by decide)
    · rfl
  | plus => rfl
  | minus => rfl

theorem signedValue?_eq (chars : List Char) :
    signedValue? chars = (digitsValue? (splitSign chars).2).map (splitSign chars).1.apply := by
  unfold signedValue?
  split
  · rename_i digits
    change _ = (digitsValue? digits).map Sign.plus.apply
    cases digitsValue? digits <;> rfl
  · rename_i digits
    change _ = (digitsValue? digits).map Sign.minus.apply
    cases digitsValue? digits <;> rfl
  · rename_i hplus hminus
    have hnone : splitSign chars = (.none, chars) := by
      unfold splitSign
      split
      · exact absurd rfl (hplus _)
      · exact absurd rfl (hminus _)
      · rfl
    rw [hnone]
    cases digitsValue? chars <;> rfl

theorem signedValue?_eq_some_iff (chars : List Char) (n : Int) :
    signedValue? chars = some n ↔ WritesInteger chars n := by
  rw [signedValue?_eq, Option.map_eq_some_iff]
  constructor
  · rintro ⟨m, hm, rfl⟩
    obtain ⟨hne, hdigits, rfl⟩ := (digitsValue?_eq_some_iff _ _).mp hm
    exact ⟨_, _, (chars_append_splitSign chars).symm, hne, hdigits, rfl⟩
  · rintro ⟨sign, digits, rfl, hne, hdigits, rfl⟩
    rw [splitSign_append hdigits]
    exact ⟨_, (digitsValue?_eq_some_iff _ _).mpr ⟨hne, hdigits, rfl⟩, rfl⟩

theorem int32Value?_eq_some_iff (text : String) (n : Int) :
    int32Value? text = some n ↔ WritesInteger text.toList n ∧ FitsInt32 n := by
  rw [int32Value?, Option.filter_eq_some_iff, signedValue?_eq_some_iff, decide_eq_true_iff]

/-- A number as it is written is a text for it. -/
theorem writesInteger_toString (n : Int) : WritesInteger (toString n).toList n := by
  cases n with
  | ofNat m =>
    have htext : (toString (Int.ofNat m)).toList = Nat.toDigits 10 m := Nat.toList_repr
    refine ⟨.none, Nat.toDigits 10 m, htext, Nat.toDigits_ne_nil, isDigit_toDigits m, ?_⟩
    rw [Nat.ofDigitChars_ten_toDigits]
    rfl
  | negSucc m =>
    have htext : (toString (Int.negSucc m)).toList = '-' :: Nat.toDigits 10 (m + 1) := by
      change ("-" ++ (m + 1).repr).toList = _
      simp
    refine ⟨.minus, Nat.toDigits 10 (m + 1), htext, Nat.toDigits_ne_nil, isDigit_toDigits (m + 1), ?_⟩
    rw [Nat.ofDigitChars_ten_toDigits]
    rfl

/-! ## Digits one at a time -/

/-- A smaller number fits as well. -/
theorem fitsInt32_of_le {sign : Sign} {m n : Nat} (hle : m ≤ n) (h : FitsInt32 (sign.apply n)) :
    FitsInt32 (sign.apply m) := by
  cases sign <;> simp only [FitsInt32, Sign.apply] at h ⊢ <;> omega

theorem pushSignedDigit?_eq {sign : Sign} {n : Nat} {c : Char} (hc : c.isDigit = true) :
    pushSignedDigit? sign (sign.apply n) c =
      fitInt32? (sign.apply (10 * n + (c.toNat - '0'.toNat))) := by
  have htens : sign.apply n * 10 = sign.apply (10 * n) := by
    cases sign <;> simp only [Sign.apply] <;> omega
  have hsum : sign.apply (10 * n) + sign.apply (c.toNat - '0'.toNat) =
      sign.apply (10 * n + (c.toNat - '0'.toNat)) := by
    cases sign <;> simp only [Sign.apply] <;> omega
  rw [pushSignedDigit?, if_pos hc, htens]
  by_cases hfits : FitsInt32 (sign.apply (10 * n))
  · rw [fitInt32?, if_pos hfits, Option.bind_some, hsum]
  · have hwhole : ¬ FitsInt32 (sign.apply (10 * n + (c.toNat - '0'.toNat))) :=
      fun h => hfits (fitsInt32_of_le (Nat.le_add_right _ _) h)
    rw [fitInt32?, if_neg hfits, Option.bind_none, fitInt32?, if_neg hwhole]

/-- Once a number does not fit, no digit makes it fit again. So the reading is given up on the way
exactly if there is something else than a digit or the whole number does not fit. -/
theorem foldlM_pushSignedDigit? {sign : Sign} {digits : List Char} {n : Nat}
    (h : FitsInt32 (sign.apply n)) :
    digits.foldlM (pushSignedDigit? sign) (sign.apply n) =
      if digits.all Char.isDigit = true then
        fitInt32? (sign.apply (Nat.ofDigitChars 10 digits n))
      else none := by
  induction digits generalizing n with
  | nil =>
    rw [List.foldlM_nil, if_pos List.all_nil, Nat.ofDigitChars_nil, fitInt32?, if_pos h]
    rfl
  | cons c digits ih =>
    rw [List.foldlM_cons, List.all_cons, Nat.ofDigitChars_cons]
    by_cases hc : c.isDigit = true
    · rw [pushSignedDigit?_eq hc, hc, Bool.true_and]
      by_cases hnext : FitsInt32 (sign.apply (10 * n + (c.toNat - '0'.toNat)))
      · rw [fitInt32?, if_pos hnext]
        exact ih hnext
      · have hwhole : ¬ FitsInt32 (sign.apply
            (Nat.ofDigitChars 10 digits (10 * n + (c.toNat - '0'.toNat)))) :=
          fun hwhole => hnext (fitsInt32_of_le (le_ofDigitChars digits _) hwhole)
        rw [fitInt32?, if_neg hnext, fitInt32?, if_neg hwhole, ite_self]
        rfl
    · rw [pushSignedDigit?, if_neg hc, Bool.eq_false_iff.mpr hc]
      rfl

theorem int32ByDigits?_eq (text : String) : int32ByDigits? text = int32Value? text := by
  unfold int32ByDigits? int32Value?
  rw [signedValue?_eq]
  obtain ⟨sign, digits⟩ := splitSign text.toList
  dsimp only
  have hzero : (0 : Int) = sign.apply 0 := by cases sign <;> rfl
  have hfits : FitsInt32 (sign.apply 0) := by cases sign <;> decide
  rw [hzero, foldlM_pushSignedDigit? hfits, digitsValue?]
  by_cases hne : digits = []
  · rw [if_pos hne, if_neg (fun h => h.1 hne)]
    rfl
  · by_cases hall : digits.all Char.isDigit = true
    · rw [if_neg hne, if_pos hall, if_pos ⟨hne, hall⟩, fitInt32?, Option.map_some, Option.filter_some]
      simp only [decide_eq_true_eq]
    · rw [if_neg hne, if_neg hall, if_neg (fun h => hall h.2)]
      rfl

end GridTemplate
