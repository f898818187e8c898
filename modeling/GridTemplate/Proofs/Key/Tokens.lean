-- Which tokens are keys. A text stands between quotes, whatever it is, and an integer is a number of at
-- most 32 bits as people write it. No token is both, a collection takes only keys of its own type, and
-- every text and every number has a token that leads to it.
import GridTemplate.Key
import GridTemplate.Proofs.Text.Integers
import Mathlib.Algebra.Group.Int.Defs

namespace GridTemplate.Key

/-! ## Tokens -/

/-- The token is a text between quotes. -/
def IsTextToken (token text : String) : Prop := token = "\"" ++ text ++ "\""

/-- The token is a number that fits into 32 bits. -/
def IsIntegerToken (token : String) (n : Int) : Prop := WritesInteger token.toList n ∧ FitsInt32 n

variable {token text : String} {n : Int}

theorem isTextToken_iff (token text : String) :
    IsTextToken token text ↔ unquoted? token.toList = some text.toList := by
  rw [unquoted?_eq_some_iff, IsTextToken, ← String.toList_inj]
  simp

theorem unquoted?_eq_none_iff (token : String) :
    unquoted? token.toList = none ↔ ¬ ∃ text, IsTextToken token text := by
  simp only [isTextToken_iff]
  rw [Option.eq_none_iff_forall_ne_some]
  constructor
  · rintro h ⟨text, htext⟩
    exact h text.toList htext
  · intro h inner hinner
    exact h ⟨String.ofList inner, by rw [hinner, String.toList_ofList]⟩

/-- A quote is neither a sign nor a digit. -/
theorem IsTextToken.not_writesInteger (h : IsTextToken token text) :
    ¬ WritesInteger token.toList n := by
  rw [isTextToken_iff, unquoted?_eq_some_iff] at h
  rw [h]
  rintro ⟨sign, digits, hchars, hne, hdigits, -⟩
  cases sign with
  | none =>
    have hmem : '"' ∈ digits := by
      rw [Sign.chars, List.nil_append] at hchars
      rw [← hchars]
      exact List.mem_cons_self
    exact absurd (hdigits '"' hmem) (by decide)
  | plus => cases hchars
  | minus => cases hchars

theorem ofToken?_eq_text_iff : ofToken? token = some (.text text) ↔ IsTextToken token text := by
  rw [isTextToken_iff]
  unfold ofToken?
  cases unquoted? token.toList with
  | some inner => simp [← String.toList_inj]
  | none => simp

theorem ofToken?_eq_integer_iff : ofToken? token = some (.integer n) ↔ IsIntegerToken token n := by
  unfold IsIntegerToken
  rw [← int32Value?_eq_some_iff]
  unfold ofToken?
  cases hquoted : unquoted? token.toList with
  | some inner =>
    have htext : IsTextToken token (String.ofList inner) := by
      rw [isTextToken_iff, hquoted, String.toList_ofList]
    have hnone : int32Value? token ≠ some n :=
      fun h => htext.not_writesInteger ((int32Value?_eq_some_iff token n).mp h).1
    simp [hnone]
  | none => simp

theorem ofToken?_eq_none_iff :
    ofToken? token = none ↔
      (¬ ∃ text, IsTextToken token text) ∧ ¬ ∃ n, IsIntegerToken token n := by
  simp only [← ofToken?_eq_text_iff, ← ofToken?_eq_integer_iff]
  cases ofToken? token with
  | none => simp
  | some key => cases key <;> simp

theorem exists_iff {p : Key → Prop} :
    (∃ key, p key) ↔ (∃ text, p (.text text)) ∨ ∃ n, p (.integer n) := by
  constructor
  · rintro ⟨key, hkey⟩
    cases key with
    | integer n => exact .inr ⟨n, hkey⟩
    | text written => exact .inl ⟨written, hkey⟩
  · rintro (⟨written, hkey⟩ | ⟨n, hkey⟩)
    · exact ⟨_, hkey⟩
    · exact ⟨_, hkey⟩

theorem exists_text_iff :
    (∃ key, ofToken? token = some key ∧ key.type = .text) ↔ ∃ text, IsTextToken token text := by
  simp [exists_iff, type, ofToken?_eq_text_iff]

theorem exists_integer_iff :
    (∃ key, ofToken? token = some key ∧ key.type = .integer) ↔ ∃ n, IsIntegerToken token n := by
  simp [exists_iff, type, ofToken?_eq_integer_iff]

/-! ## Keys from bytes -/

theorem hasQuotes_iff (token : String) :
    hasQuotes token = true ↔ ∃ text, IsTextToken token text := by
  unfold hasQuotes IsTextToken
  simp only [Bool.and_eq_true, decide_eq_true_eq, String.startsWith_char_iff_exists_append,
    String.endsWith_char_iff_exists_append]
  constructor
  · rintro ⟨⟨hsize, rest, rfl⟩, start, hends⟩
    have hlists : '"' :: rest.toList = start.toList ++ ['"'] := by
      simpa using congrArg String.toList hends
    rcases List.eq_nil_or_concat rest.toList with hnil | ⟨inner, last, hrest⟩
    · rw [String.toList_eq_nil_iff.mp hnil] at hsize
      exact absurd hsize (by decide)
    · rw [hrest, List.concat_eq_append, ← List.cons_append] at hlists
      obtain ⟨-, hlast⟩ := List.append_inj' hlists rfl
      cases hlast
      refine ⟨String.ofList inner, String.toList_inj.mp ?_⟩
      simp [hrest]
  · rintro ⟨text, rfl⟩
    refine ⟨⟨?_, text ++ "\"", String.append_assoc⟩, "\"" ++ text, rfl⟩
    have hquote : "\"".utf8ByteSize = 1 := by decide
    simp only [String.utf8ByteSize_append, hquote]
    omega

/-- A quote is one byte, so what is left is a text. -/
theorem cutQuotes?_eq (h : IsTextToken token text) : cutQuotes? token = some text := by
  have hquote : "\"".toByteArray.size = 1 := by decide
  have hsize : token.utf8ByteSize - 1 = 1 + text.toByteArray.size := by
    rw [h, String.utf8ByteSize_append, String.utf8ByteSize_append, ← String.size_toByteArray,
      ← String.size_toByteArray, hquote]
    omega
  have hcut : token.toByteArray.extract 1 (token.utf8ByteSize - 1) = text.toByteArray := by
    rw [hsize, h, String.append_assoc, String.toByteArray_append, String.toByteArray_append]
    exact (ByteArray.extract_append_size_add' (i := 0) hquote.symm).trans
      (ByteArray.extract_append_eq_left rfl)
  rw [cutQuotes?, hcut, String.fromUTF8?, dif_pos text.isValidUTF8]
  rfl

/-- Quotes can always be cut off, and to read bytes and digits one at a time gives the same keys. -/
theorem ofBytes?_eq (token : String) : ofBytes? token = some (ofToken? token) := by
  unfold ofBytes?
  by_cases hquotes : hasQuotes token = true
  · obtain ⟨text, htext⟩ := (hasQuotes_iff token).mp hquotes
    rw [if_pos hquotes, cutQuotes?_eq htext, ofToken?_eq_text_iff.mpr htext, Option.map_some]
  · have hnone : unquoted? token.toList = none := by
      rw [unquoted?_eq_none_iff, ← hasQuotes_iff]
      exact hquotes
    rw [if_neg hquotes, int32ByDigits?_eq, ofToken?, hnone]

/-! ## The law -/

theorem resolve_eq_ok_iff {expected : KeyType} {key : Key} :
    resolve token expected = .ok key ↔ ofToken? token = some key ∧ key.type = expected := by
  unfold resolve
  cases ofToken? token with
  | none => simp
  | some written =>
    by_cases htype : written.type = expected
    · simp only [if_pos htype, Except.ok.injEq, Option.some.injEq]
      exact ⟨fun h => ⟨h, h ▸ htype⟩, fun h => h.1⟩
    · simp only [if_neg htype, reduceCtorEq, Option.some.injEq, false_iff]
      rintro ⟨rfl, h⟩
      exact htype h

/-- A token is refused if it is a key of the other type or none at all. -/
theorem resolve_eq_error_iff {expected : KeyType} {e : Error} :
    resolve token expected = .error e ↔
      (∃ key, ofToken? token = some key ∧ key.type ≠ expected ∧
        e = .keyTypeMismatch expected key.type) ∨
      (ofToken? token = none ∧ e = .unsupportedKeyKind token) := by
  unfold resolve
  cases ofToken? token with
  | none => simp [eq_comm]
  | some written =>
    by_cases htype : written.type = expected
    · simp [htype]
    · simp [htype, eq_comm (a := e)]

theorem resolve_text_eq_ok_iff {key : Key} :
    resolve token .text = .ok key ↔ ∃ text, IsTextToken token text ∧ key = .text text := by
  rw [resolve_eq_ok_iff]
  cases key with
  | integer m => simp [type]
  | text written => simp [type, ofToken?_eq_text_iff]

theorem resolve_integer_eq_ok_iff {key : Key} :
    resolve token .integer = .ok key ↔ ∃ n, IsIntegerToken token n ∧ key = .integer n := by
  rw [resolve_eq_ok_iff]
  cases key with
  | integer m => simp [type, ofToken?_eq_integer_iff]
  | text written => simp [type]

theorem resolve_eq_unsupportedKeyKind_iff {expected : KeyType} :
    resolve token expected = .error (.unsupportedKeyKind token) ↔
      (¬ ∃ text, IsTextToken token text) ∧ ¬ ∃ n, IsIntegerToken token n := by
  rw [resolve_eq_error_iff, ofToken?_eq_none_iff]
  simp

theorem resolve_eq_keyTypeMismatch_iff {expected actual : KeyType} :
    resolve token expected = .error (.keyTypeMismatch expected actual) ↔
      expected ≠ actual ∧ ∃ key, ofToken? token = some key ∧ key.type = actual := by
  rw [resolve_eq_error_iff]
  constructor
  · rintro (⟨key, hkey, hne, hsame⟩ | ⟨-, hsame⟩)
    · cases hsame
      exact ⟨hne.symm, key, hkey, rfl⟩
    · cases hsame
  · rintro ⟨hne, key, hkey, rfl⟩
    exact .inl ⟨key, hkey, hne.symm, rfl⟩

/-- A token with quotes around it is the text between them, whatever that is. A token that is a number
of 32 bits, with a sign or none and with any number of leading zeros, is that number. No token is both.
A collection takes the tokens of its own type, with nothing converted, names both types where it gets
one of the other, and repeats the token where it is none of them, as it does with a quote on its own.
Every text and every number of 32 bits has a token that leads to it. -/
theorem a_token_is_a_text_or_a_number_or_no_key :
    (∀ token : String,
      (∀ text, ofToken? token = some (.text text) ↔ token = "\"" ++ text ++ "\"") ∧
      (∀ n, ofToken? token = some (.integer n) ↔
        (∃ (sign : Sign) (digits : List Char), token.toList = sign.chars ++ digits ∧ digits ≠ [] ∧
          (∀ c ∈ digits, '0' ≤ c ∧ c ≤ '9') ∧ n = sign.apply (Nat.ofDigitChars 10 digits 0)) ∧
        -2 ^ 31 ≤ n ∧ n < 2 ^ 31) ∧
      (∀ text n, IsTextToken token text → ¬ IsIntegerToken token n) ∧
      (∀ key, resolve token .text = .ok key ↔ ∃ text, IsTextToken token text ∧ key = .text text) ∧
      (∀ key, resolve token .integer = .ok key ↔
        ∃ n, IsIntegerToken token n ∧ key = .integer n) ∧
      (resolve token .text = .error (.keyTypeMismatch .text .integer) ↔
        ∃ n, IsIntegerToken token n) ∧
      (resolve token .integer = .error (.keyTypeMismatch .integer .text) ↔
        ∃ text, IsTextToken token text) ∧
      (∀ expected, resolve token expected = .error (.unsupportedKeyKind token) ↔
        (¬ ∃ text, IsTextToken token text) ∧ ¬ ∃ n, IsIntegerToken token n) ∧
      ofBytes? token = some (ofToken? token)) ∧
    (∀ expected, resolve "\"" expected = .error (.unsupportedKeyKind "\"")) ∧
    (∀ text : String, resolve ("\"" ++ text ++ "\"") .text = .ok (.text text)) ∧
    ∀ n : Int, -2 ^ 31 ≤ n → n < 2 ^ 31 → resolve (toString n) .integer = .ok (.integer n) := by
  have hdigit : ∀ c : Char, c.isDigit = true ↔ '0' ≤ c ∧ c ≤ '9' := by
    intro c
    simp [Char.isDigit, Char.le_def]
  have hfits : ∀ n : Int, FitsInt32 n ↔ -2 ^ 31 ≤ n ∧ n < 2 ^ 31 := by
    intro n
    unfold FitsInt32
    omega
  refine ⟨fun token => ⟨fun text => ofToken?_eq_text_iff, ?_, ?_, fun key => resolve_text_eq_ok_iff,
    fun key => resolve_integer_eq_ok_iff, ?_, ?_, fun expected => resolve_eq_unsupportedKeyKind_iff,
    ofBytes?_eq token⟩, ?_, ?_, ?_⟩
  · intro n
    simp only [ofToken?_eq_integer_iff, IsIntegerToken, WritesInteger, hfits, hdigit]
  · exact fun text n htext hinteger => htext.not_writesInteger hinteger.1
  · rw [resolve_eq_keyTypeMismatch_iff, exists_integer_iff]
    exact and_iff_right (by decide)
  · rw [resolve_eq_keyTypeMismatch_iff, exists_text_iff]
    exact and_iff_right (by decide)
  · intro expected
    have hnone : ofToken? "\"" = none := rfl
    exact resolve_eq_error_iff.mpr (.inr ⟨hnone, rfl⟩)
  · intro text
    exact resolve_text_eq_ok_iff.mpr ⟨text, rfl, rfl⟩
  · intro n hlow hhigh
    exact resolve_integer_eq_ok_iff.mpr
      ⟨n, ⟨writesInteger_toString n, (hfits n).mpr ⟨hlow, hhigh⟩⟩, rfl⟩

/-- Seven with a sign and zeros is the number, and so is the least number. One past the greatest, a
sign on its own and nothing at all are no keys. Three in quotes is a text, and so is nothing in
quotes and a quote in quotes. -/
theorem three_in_quotes_is_no_number :
    resolve "+007" .integer = .ok (.integer 7) ∧
    resolve "+007" .text = .error (.keyTypeMismatch .text .integer) ∧
    resolve "-2147483648" .integer = .ok (.integer (-2147483648)) ∧
    resolve "2147483648" .integer = .error (.unsupportedKeyKind "2147483648") ∧
    resolve "-" .integer = .error (.unsupportedKeyKind "-") ∧
    resolve "" .text = .error (.unsupportedKeyKind "") ∧
    resolve "\"3\"" .integer = .error (.keyTypeMismatch .integer .text) ∧
    resolve "\"\"" .text = .ok (.text "") ∧
    resolve "\"\"\"" .text = .ok (.text "\"") := by
  obtain ⟨htokens, -, hquoted, hprinted⟩ := a_token_is_a_text_or_a_number_or_no_key
  have hdigits : ['0', '0', '7'].all Char.isDigit = true := rfl
  have hseven : IsIntegerToken "+007" 7 :=
    ⟨⟨.plus, _, rfl, List.cons_ne_nil _ _, List.all_eq_true.mp hdigits, rfl⟩, by decide⟩
  have hunsupported {token : String} (hnone : ofToken? token = none) (expected : KeyType) :
      resolve token expected = .error (.unsupportedKeyKind token) := by
    obtain ⟨-, -, -, -, -, -, -, hother, -⟩ := htokens token
    exact (hother expected).mpr (ofToken?_eq_none_iff.mp hnone)
  have hleast := hprinted (-2147483648) (by decide) (by decide)
  have hprint : toString (-2147483648 : Int) = "-2147483648" := rfl
  rw [hprint] at hleast
  obtain ⟨-, -, -, -, hread, hmismatch, -⟩ := htokens "+007"
  obtain ⟨-, -, -, -, -, -, hthree, -⟩ := htokens "\"3\""
  exact ⟨(hread _).mpr ⟨7, hseven, rfl⟩, hmismatch.mpr ⟨7, hseven⟩, hleast,
    hunsupported rfl .integer, hunsupported rfl .integer, hunsupported rfl .text,
    hthree.mpr ⟨"3", rfl⟩, hquoted "", hquoted "\""⟩

end GridTemplate.Key
