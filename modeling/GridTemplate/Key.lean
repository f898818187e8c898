-- Keys of collections. A key between quotes is a text and a decimal number is an integer, and a
-- collection takes only keys of its own type: nothing is converted.
import GridTemplate.Text.Integer
import GridTemplate.Error

namespace GridTemplate

/-- A key of a collection. -/
inductive Key
  | integer (value : Int)
  | text (value : String)
  deriving DecidableEq, Repr

namespace Key

/-- The type of collection that a key belongs to. -/
def type : Key → KeyType
  | .integer _ => .integer
  | .text _ => .text

/-- The text between a quote at the start and another one at the end. -/
def unquoted? : List Char → Option (List Char)
  | '"' :: rest =>
    match rest.reverse with
    | '"' :: inner => some inner.reverse
    | _ => none
  | _ => none

/-- Whatever stands between the outer quotes is the text, further quotes included. -/
theorem unquoted?_eq_some_iff (token inner : List Char) :
    unquoted? token = some inner ↔ token = '"' :: (inner ++ ['"']) := by
  constructor
  · intro h
    unfold unquoted? at h
    split at h
    · split at h
      · rename_i rest _ _ hrest
        cases h
        rw [← List.reverse_reverse rest, hrest, List.reverse_cons]
      · cases h
    · cases h
  · rintro rfl
    simp [unquoted?]

/-- The key that a token writes. Quotes are looked at first. -/
def ofToken? (token : String) : Option Key :=
  match unquoted? token.toList with
  | some inner => some (.text (String.ofList inner))
  | none => (int32Value? token).map .integer

/-- Whether there is a quote at the start and another one at the end. A quote on its own is both, but
its one byte is too short. -/
def hasQuotes (token : String) : Bool :=
  decide (2 ≤ token.utf8ByteSize) && token.startsWith '"' && token.endsWith '"'

/-- The bytes after the first one and before the last one, if they are a text. -/
def cutQuotes? (token : String) : Option String :=
  String.fromUTF8? (token.toByteArray.extract 1 (token.utf8ByteSize - 1))

/-- The key that a token writes, read from its bytes. There is no answer if the quotes cannot be cut
off. -/
def ofBytes? (token : String) : Option (Option Key) :=
  if hasQuotes token then (cutQuotes? token).map fun inner => some (.text inner)
  else some ((int32ByDigits? token).map .integer)

/-- The key that a token writes, if it is of the type that the collection takes. -/
def resolve (token : String) (expected : KeyType) : Except Error Key :=
  match ofToken? token with
  | none => .error (.unsupportedKeyKind token)
  | some key =>
    if key.type = expected then .ok key else .error (.keyTypeMismatch expected key.type)

end Key

end GridTemplate
