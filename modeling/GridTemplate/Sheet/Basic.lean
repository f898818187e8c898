-- The texts of a sheet, cell by cell.
import GridTemplate.Cell.Basic
import Std.Data.HashMap

namespace GridTemplate

/-- The texts of the cells that are not empty. -/
structure Sheet where
  texts : Std.HashMap Cell String

namespace Sheet

/-- The sheet with these texts. The last text given for a cell is the one that counts. -/
def ofList (cells : List (Cell × String)) : Sheet :=
  ⟨cells.foldl (fun texts entry => texts.insert entry.1 entry.2) ∅⟩

/-- The text of a cell. -/
def text? (s : Sheet) (cell : Cell) : Option String := s.texts[cell]?

end Sheet

end GridTemplate
