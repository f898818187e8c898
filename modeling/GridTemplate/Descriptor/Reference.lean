-- Cell references as descriptors write them: capital letters and then a row number without
-- leading zeros. A reference can be asked for as a whole text or looked for inside one.

namespace GridTemplate

/-- Whether a character may start a row number. -/
def startsRowNumber (c : Char) : Bool := c.isDigit && c != '0'

/-- Whether the characters are a reference from the first to the last. -/
def isReference (chars : List Char) : Bool :=
  match chars.dropWhile Char.isUpper with
  | [] => false
  | c :: rest => !(chars.takeWhile Char.isUpper).isEmpty && startsRowNumber c && rest.all Char.isDigit

/-- The longest reference at the start of the characters. -/
def leadingReference? (chars : List Char) : Option (List Char) :=
  match chars.dropWhile Char.isUpper with
  | [] => none
  | c :: rest =>
    if chars.takeWhile Char.isUpper ≠ [] ∧ startsRowNumber c = true then
      some (chars.takeWhile Char.isUpper ++ c :: rest.takeWhile Char.isDigit)
    else none

/-- The first reference anywhere in the characters. -/
def findReference? : List Char → Option (List Char)
  | [] => none
  | c :: rest =>
    match leadingReference? (c :: rest) with
    | some reference => some reference
    | none => findReference? rest

end GridTemplate
