-- What can go wrong when descriptors are read, keys are resolved, templates are declared or lists
-- are decoded.
import GridTemplate.GridError

namespace GridTemplate

/-- The type of keys that a collection takes. -/
inductive KeyType
  | integer
  | text
  deriving DecidableEq, Repr

/-- The type in words. -/
def KeyType.label : KeyType → String
  | .integer => "integer"
  | .text => "text"

/-- Why a template cannot be read or decoded. -/
inductive Error
  | malformedDescriptor (text : String)
  | invalidModelPath (text : String)
  | keyTypeMismatch (expected actual : KeyType)
  | unsupportedKeyKind (token : String)
  | collectionTooLarge (length limit : Nat)
  | invalidLength (count : Int)
  | unsupportedModelType (name : String)
  | stackUnderflow
  | duplicateTemplate (name : String)
  | overlappingTemplates (first second : String)
  | grid (error : GridError)
  deriving DecidableEq, Repr

/-- The error in words. An error of the grid keeps its own words. -/
def Error.message : Error → String
  | .malformedDescriptor text => "Malformed descriptor: '" ++ text ++ "'"
  | .invalidModelPath text => "Invalid model path: '" ++ text ++ "'"
  | .keyTypeMismatch expected actual =>
    "Collection with " ++ expected.label ++ " keys was indexed by " ++ actual.label
  | .unsupportedKeyKind token =>
    "Only strings and ints are supported as collection indexers, got '" ++ token ++ "'"
  | .collectionTooLarge length limit =>
    "Lists longer than " ++ toString limit ++ " are not supported (got " ++ toString length ++ ")"
  | .invalidLength count => "Invalid enumerable length: " ++ toString count
  | .unsupportedModelType name => "No parser for model type: " ++ name
  | .stackUnderflow => "Table parser state stack underflow"
  | .duplicateTemplate name => "Template already declared: " ++ name
  | .overlappingTemplates first second =>
    "Templates '" ++ first ++ "' and '" ++ second ++ "' overlap"
  | .grid error => error.message

/-- What happens on the grid, with its errors among the others. -/
def liftGrid {α : Type} (result : Except GridError α) : Except Error α :=
  match result with
  | .ok a => .ok a
  | .error e => .error (.grid e)

theorem liftGrid_eq_ok_iff {α : Type} (result : Except GridError α) (a : α) :
    liftGrid result = .ok a ↔ result = .ok a := by
  cases result <;> simp [liftGrid]

end GridTemplate
