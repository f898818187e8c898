-- One part of a model path: a member by its name, every element of an array member, or the one
-- element of a collection that stands under a key. Any text is a part of one of these kinds, and
-- the part gives the text back. A text can also be read by patterns that are tried in order.
import GridTemplate.Text.Word

namespace GridTemplate

/-- A part of a model path. -/
inductive Part
  | plain (name : String)
  | arrayElement (name : String)
  | keyedElement (name key : String)
  deriving DecidableEq, Repr

/-- What may stand between brackets. -/
def isInsideBrackets (c : Char) : Bool := !(c == '[' || c == ']')

/-- The text between an opening bracket at the start and the closing bracket at the end, if no
other bracket stands between them. -/
def bracketed? : List Char → Option (List Char)
  | '[' :: rest =>
    if rest.dropWhile isInsideBrackets = [']'] then some (rest.takeWhile isInsideBrackets)
    else none
  | _ => none

/-- The closing bracket is the only other bracket, and it comes last. -/
theorem bracketed?_eq_some_iff (chars key : List Char) :
    bracketed? chars = some key ↔
      chars = '[' :: (key ++ [']']) ∧ key.all isInsideBrackets = true := by
  constructor
  · intro h
    unfold bracketed? at h
    split at h
    · rename_i rest
      split at h
      · rename_i hend
        cases h
        refine ⟨?_, List.all_takeWhile⟩
        rw [← hend, List.takeWhile_append_dropWhile]
      · cases h
    · cases h
  · rintro ⟨rfl, hkey⟩
    have hclosing : isInsideBrackets ']' = false := by decide
    have hinside : ∀ c ∈ key, isInsideBrackets c = true := List.all_eq_true.mp hkey
    rw [bracketed?, List.dropWhile_append_of_pos hinside, List.takeWhile_append_of_pos hinside]
    simp [hclosing]

namespace Part

/-- The part that a text stands for. A word and empty brackets address every element, a word and
a bracketed key address one element, and any other text is a member's name as it stands. -/
def ofText [WordClass] (text : String) : Part :=
  let name := text.toList.takeWhile isWordChar
  match bracketed? (text.toList.dropWhile isWordChar) with
  | none => .plain text
  | some key =>
    if name = [] then .plain text
    else if key = [] then .arrayElement (String.ofList name)
    else .keyedElement (String.ofList name) (String.ofList key)

/-- The text of a part. -/
def text : Part → String
  | .plain name => name
  | .arrayElement name => name ++ "[]"
  | .keyedElement name key => name ++ "[" ++ key ++ "]"

/-- The member's name without any brackets. -/
def name : Part → String
  | .plain name => name
  | .arrayElement name => name
  | .keyedElement name _ => name

/-- The key of a keyed element. -/
def key? : Part → Option String
  | .keyedElement _ key => some key
  | _ => none

/-- Whether the part addresses every element of an array. -/
def isArrayElement : Part → Bool
  | .arrayElement _ => true
  | _ => false

/-- Whether the part addresses the element under a key. -/
def isKeyedElement : Part → Bool
  | .keyedElement _ _ => true
  | _ => false

end Part

/-! ## Patterns -/

/-- A piece of a pattern: a character, or a run of characters of one kind, which is captured. -/
inductive Piece
  | char (c : Char)
  | run (kind : Char → Bool)

/-- What the runs of a pattern capture in a text that it fits from end to end. A run takes all the
characters it can get, at least one, and gives back the last of them while the rest of the pattern does
not fit. -/
def captures : List Piece → List Char → Option (List (List Char))
  | [], chars => if chars = [] then some [] else none
  | .char c :: pieces, chars =>
    match chars with
    | [] => none
    | d :: rest => if d = c then captures pieces rest else none
  | .run kind :: pieces, chars =>
    (List.range' 1 (chars.takeWhile kind).length).reverse.findSome? fun n =>
      (captures pieces (chars.drop n)).map (chars.take n :: ·)

namespace Part

variable [WordClass]

/-- A word with empty brackets. -/
def arrayPattern : List Piece := [.run isWordChar, .char '[', .char ']']

/-- A word with a key in brackets. -/
def keyPattern : List Piece := [.run isWordChar, .char '[', .run isInsideBrackets, .char ']']

/-- The part that a text stands for, by the first pattern that it fits. -/
def byPatterns (t : String) : Part :=
  match captures arrayPattern t.toList with
  | some [name] => .arrayElement (String.ofList name)
  | _ =>
    match captures keyPattern t.toList with
    | some [name, key] => .keyedElement (String.ofList name) (String.ofList key)
    | _ => .plain t

end Part

end GridTemplate
