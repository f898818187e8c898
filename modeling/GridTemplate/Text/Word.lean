-- The characters of a word. Which they are is told by Unicode, and that grows from version to version.
-- So what is said of words holds for any class of characters without brackets, and what is said of
-- names for any such class that has the ASCII letters and no dot. The class of one version is given.
import GridTemplate.Text.WordRanges

namespace GridTemplate

/-- A class of characters that words are made of. Brackets are none of them. -/
class WordClass where
  isWord : Char → Bool
  opening : isWord '[' = false
  closing : isWord ']' = false

/-- A class of characters that names are made of. The ASCII letters are some of them, and a dot is
none. -/
class NameClass extends WordClass where
  dot : isWord '.' = false
  of_isAlpha (c : Char) : c.isAlpha = true → isWord c = true

/-- Whether a character may stand in a word. -/
def isWordChar [WordClass] (c : Char) : Bool := WordClass.isWord c

theorem not_isWordChar_opening [WordClass] : isWordChar '[' = false := WordClass.opening

theorem not_isWordChar_closing [WordClass] : isWordChar ']' = false := WordClass.closing

theorem not_isWordChar_dot [NameClass] : isWordChar '.' = false := NameClass.dot

theorem isWordChar_of_isAlpha [NameClass] {c : Char} (h : c.isAlpha = true) :
    isWordChar c = true := NameClass.of_isAlpha c h

/-! ## The class of one version -/

/-- Whether a character may stand in a word by Unicode 16. Among the first 128 these are the letters,
the digits and the underscore. -/
def isUnicodeWordChar (c : Char) : Bool :=
  if c.toNat < 128 then c.isAlphanum || c == '_'
  else wordRanges.any fun range => range.1 ≤ c.toNat && c.toNat ≤ range.2

theorem isUnicodeWordChar_of_isAlpha (c : Char) (h : c.isAlpha = true) :
    isUnicodeWordChar c = true := by
  have hlt : c.toNat < 128 := by
    rcases Bool.or_eq_true_iff.mp h with hupper | hlower
    · have hz : c.val ≤ 'Z'.val := (of_decide_eq_true hupper).2
      exact Nat.lt_of_le_of_lt (UInt32.le_iff_toNat_le.mp hz) (by decide)
    · have hz : c.val ≤ 'z'.val := of_decide_eq_true (Bool.and_eq_true_iff.mp hlower).2
      exact Nat.lt_of_le_of_lt (UInt32.le_iff_toNat_le.mp hz) (by decide)
  simp [isUnicodeWordChar, hlt, Char.isAlphanum, h]

instance : NameClass where
  isWord := isUnicodeWordChar
  opening := by decide
  closing := by decide
  dot := by decide
  of_isAlpha := isUnicodeWordChar_of_isAlpha

end GridTemplate
