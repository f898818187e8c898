-- Model paths: where a value stands in the bound objects. A path is judged as a whole first, then
-- cut at the dots outside brackets, and each piece is read as a part.
import GridTemplate.Path.Grammar
import GridTemplate.Error

namespace GridTemplate

/-- A model path: its parts, outermost first. There is at least one. -/
structure ModelPath where
  parts : List Part
  parts_ne_nil : parts ≠ []
  deriving DecidableEq, Repr

/-- How deep in brackets the text stands after one more character. A closing bracket too many
changes nothing. -/
def depthAfter (depth : Nat) (c : Char) : Nat :=
  if c = '[' then depth + 1 else if c = ']' then depth - 1 else depth

/-- The pieces between the dots outside brackets, read from some depth on. -/
def splitOutsideBrackets : Nat → List Char → List (List Char)
  | _, [] => [[]]
  | depth, c :: rest =>
    if c = '.' ∧ depth = 0 then [] :: splitOutsideBrackets 0 rest
    else (splitOutsideBrackets (depthAfter depth c) rest).modifyHead (c :: ·)

theorem splitOutsideBrackets_ne_nil (depth : Nat) (chars : List Char) :
    splitOutsideBrackets depth chars ≠ [] := by
  induction chars generalizing depth with
  | nil => simp [splitOutsideBrackets]
  | cons c rest ih =>
    rw [splitOutsideBrackets]
    split
    · simp
    · have hne := ih (depthAfter depth c)
      cases h : splitOutsideBrackets (depthAfter depth c) rest with
      | nil => exact absurd h hne
      | cons piece pieces => simp

/-- The parts of a text, whether or not it is a path. -/
def partsOf [WordClass] (text : String) : List Part :=
  (splitOutsideBrackets 0 text.toList).map fun piece => Part.ofText (String.ofList piece)

theorem partsOf_ne_nil [WordClass] (text : String) : partsOf text ≠ [] := by
  simp [partsOf, splitOutsideBrackets_ne_nil]

namespace ModelPath

/-- The path that a text writes. -/
def ofText [WordClass] (text : String) : Except Error ModelPath :=
  if isModelPath text then .ok ⟨partsOf text, partsOf_ne_nil text⟩
  else .error (.invalidModelPath text)

/-- The text of a path: the texts of its parts with dots between them. -/
def text (path : ModelPath) : String :=
  String.ofList (['.'].intercalate (path.parts.map fun part => part.text.toList))

/-- The outermost part. -/
def first (path : ModelPath) : Part := path.parts.head path.parts_ne_nil

/-- Whether the path is a single part. -/
def isSingle (path : ModelPath) : Bool := path.parts.length == 1

end ModelPath

end GridTemplate
