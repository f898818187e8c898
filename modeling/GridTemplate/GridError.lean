-- What can be wrong with a place on the grid: a reference that cannot be read, a coordinate off
-- the grid, or a region that has no cells.
import GridTemplate.Cell.Letters
import GridTemplate.Region.Extent

namespace GridTemplate

/-- Why a text is no cell reference. -/
inductive AddressFault
  | emptyReference
  | noColumnLetters (text : String)
  | noRowNumber (text : String)
  | invalidRowNumber (text : String)
  | zeroRowNumber (text : String)
  | emptyColumnLetters
  | invalidColumnLetter (letter : Char)
  deriving DecidableEq, Repr

/-- The fault in words. -/
def AddressFault.message : AddressFault → String
  | .emptyReference => "empty reference"
  | .noColumnLetters text => "no column letters in '" ++ text ++ "'"
  | .noRowNumber text => "no row number in '" ++ text ++ "'"
  | .invalidRowNumber text => "invalid row number in '" ++ text ++ "'"
  | .zeroRowNumber text => "row number must be >= 1 in '" ++ text ++ "'"
  | .emptyColumnLetters => "empty column letters"
  | .invalidColumnLetter letter => "invalid column letter '" ++ letter.toString ++ "'"

/-- Why a cell or a region is refused. -/
inductive GridError
  | badAddress (fault : AddressFault)
  | rowOutOfBounds (row : Nat)
  | columnOutOfBounds (column : Nat)
  | invalidRectangle (upperLeft lowerRight : Cell)
  | emptySize (upperLeft : Cell) (extent : Extent)
  deriving DecidableEq, Repr

/-- The refusal in words. -/
def GridError.message : GridError → String
  | .badAddress fault => "Invalid cell reference: " ++ fault.message
  | .rowOutOfBounds row =>
    "Row " ++ toString row ++ " out of bounds (max: " ++ toString maxRow ++ ")"
  | .columnOutOfBounds column =>
    "Column " ++ toString column ++ " out of bounds (max: " ++ toString maxColumn ++ ")"
  | .invalidRectangle upperLeft lowerRight =>
    "Invalid rectangle: " ++ lowerRight.reference ++ " is not below and right of "
      ++ upperLeft.reference
  | .emptySize upperLeft extent =>
    "Invalid rectangle size " ++ toString extent.width ++ "x" ++ toString extent.height
      ++ " at " ++ upperLeft.reference

end GridTemplate
