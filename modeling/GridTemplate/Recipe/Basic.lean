-- Recipes: how a single value is read, step by step. A step looks at the text of the cell under
-- the cursor, moves over the table, or reads a list of other values.
import GridTemplate.FieldMap
import GridTemplate.Sheet.Basic
import GridTemplate.Walk.Basic

namespace GridTemplate

/-- A value that was read. -/
inductive Value
  /-- No value. It stands where a cell was empty or an element could not be read. -/
  | blank
  | text (text : String)
  | number (number : Int)
  | list (values : List Value)
  deriving Inhabited

/-- A step of a recipe. -/
inductive Step
  /-- Takes the text of the cell, which must not be empty. -/
  | read
  /-- Takes the text of the cell, or no value if it is empty. -/
  | maybe
  /-- Takes the number that the cell's text spells. -/
  | number
  /-- Takes the reference of the cell. -/
  | here
  /-- Goes on only if the cell has this text. -/
  | expect (text : String)
  /-- Never goes on. -/
  | fail
  /-- Moves over the table. -/
  | move (m : Move)
  /-- Takes a list of values of a type. Its mappings are kept below a stem. -/
  | list (type : String) (count : Int) (stem : String)
  deriving DecidableEq, Repr

/-- A sheet, how its layers follow each other, recipes for the types of values on it, and the
greatest length of a list. -/
structure Script where
  sheet : Sheet
  navigator : Navigator
  recipes : List (String × List Step)
  maxLength : Nat

/-- What recipes note beside their values: how many attempts were made for the lists that they
read, and the mappings of those lists. -/
structure Notes where
  attempts : Nat
  nested : List Mapping
  deriving DecidableEq, Repr

namespace Notes

/-- Nothing to note. -/
def empty : Notes := ⟨0, []⟩

/-- What was noted first and what was noted later. -/
def add (first later : Notes) : Notes :=
  ⟨first.attempts + later.attempts, first.nested ++ later.nested⟩

end Notes

end GridTemplate
