-- Which texts are model paths. A path is read from left to right, one character at a time: each
-- part is a name that starts with an ASCII letter, with at most one pair of brackets after it,
-- and dots stand between the parts.
import GridTemplate.Path.Part

namespace GridTemplate

/-- Where in a path the reading stands. -/
inductive PathSpot
  /-- A name has to start here. -/
  | partStart
  /-- Inside a name. -/
  | inName
  /-- Between the brackets of a part. -/
  | inBrackets
  /-- Behind the closing bracket of a part. -/
  | afterBrackets
  deriving DecidableEq, Repr

variable [WordClass]

namespace PathSpot

/-- Where the reading stands after one more character, if that character may come here. -/
def next : PathSpot → Char → Option PathSpot
  | .partStart, c => if c.isAlpha then some .inName else none
  | .inName, c =>
    if isWordChar c then some .inName
    else if c = '[' then some .inBrackets
    else if c = '.' then some .partStart
    else none
  | .inBrackets, c =>
    if c = ']' then some .afterBrackets
    else if c = '[' then none
    else some .inBrackets
  | .afterBrackets, c => if c = '.' then some .partStart else none

/-- Whether a path may end here. -/
def mayEnd : PathSpot → Bool
  | .inName => true
  | .afterBrackets => true
  | _ => false

/-- Whether the characters finish a path from here. -/
def accepts : PathSpot → List Char → Bool
  | spot, [] => spot.mayEnd
  | spot, c :: rest =>
    match spot.next c with
    | none => false
    | some spot => accepts spot rest

end PathSpot

/-- Whether a text is a model path. -/
def isModelPath (text : String) : Bool := PathSpot.partStart.accepts text.toList

end GridTemplate
