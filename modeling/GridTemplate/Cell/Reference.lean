-- Reading a cell reference: column letters in either case and then a row number. The letters are
-- judged before the number, and a text is refused for its first fault in that order.
import GridTemplate.Cell.Grid

namespace GridTemplate

/-- The number read so far and the next letter. Both steps stop at the cap, so that letters
without end still give a number. -/
def pushLetter (n : Nat) (c : Char) : Nat :=
  min coordinateCap (min coordinateCap (n * 26) + letterValue c)

/-- Reads letters onto the number read so far. The first character that is no letter is
reported, whatever stands before it. -/
def readLetters : Nat → List Char → Except GridError Nat
  | n, [] => if maxColumn < n then .error (.columnOutOfBounds n) else .ok n
  | n, c :: rest =>
    if c.isAlpha then readLetters (pushLetter n c) rest
    else .error (.badAddress (.invalidColumnLetter c))

/-- The column that letters name. -/
def columnOfLetters (letters : String) : Except GridError Nat :=
  match letters.toList with
  | [] => .error (.badAddress .emptyColumnLetters)
  | chars => readLetters 0 chars

/-- The row that a text's digits name. The text is there to be named in the fault. -/
def readRow (text : String) (digits : List Char) : Except GridError Nat :=
  let row := Nat.ofDigitChars 10 digits 0
  if coordinateCap < row then .error (.badAddress (.invalidRowNumber text))
  else if row = 0 then .error (.badAddress (.zeroRowNumber text))
  else if maxRow < row then .error (.rowOutOfBounds row)
  else .ok row

/-- The number read so far and the next digit, as long as it fits into 32 bits. -/
def pushDigit? (n : Nat) (c : Char) : Option Nat :=
  if coordinateCap < n * 10 then none
  else if coordinateCap < n * 10 + (c.toNat - '0'.toNat) then none
  else some (n * 10 + (c.toNat - '0'.toNat))

/-- The row that digits name, read one at a time. -/
def readRowByDigits (text : String) (digits : List Char) : Except GridError Nat :=
  match digits.foldlM pushDigit? 0 with
  | none => .error (.badAddress (.invalidRowNumber text))
  | some row =>
    if row = 0 then .error (.badAddress (.zeroRowNumber text))
    else if maxRow < row then .error (.rowOutOfBounds row)
    else .ok row

/-- The cell that a reference names. -/
def Cell.ofReference (text : String) : Except GridError Cell :=
  let letters := text.toList.takeWhile Char.isAlpha
  let digits := text.toList.dropWhile Char.isAlpha
  if text.toList = [] then .error (.badAddress .emptyReference)
  else if letters = [] then .error (.badAddress (.noColumnLetters text))
  else if digits = [] then .error (.badAddress (.noRowNumber text))
  else if digits.all Char.isDigit then
    match readLetters 0 letters with
    | .error e => .error e
    | .ok column =>
      match readRow text digits with
      | .error e => .error e
      | .ok row => .ok ⟨row, column⟩
  else .error (.badAddress (.invalidRowNumber text))

end GridTemplate
