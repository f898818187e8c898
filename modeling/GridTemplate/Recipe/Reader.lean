-- Reading values by recipes. The steps of a recipe run in order until one fails. A step that
-- fails undoes nothing: the cursor stays where it was moved, and saved states stay saved.
import GridTemplate.Recipe.Basic
import GridTemplate.Sequence.Decode
import GridTemplate.Text.Integer

namespace GridTemplate

/-- What an attempt adds: itself and what the reader noted. -/
def Notes.ofAttempt (attempt : Attempt Value Notes) : Notes :=
  ⟨attempt.reading.note.attempts + 1, attempt.reading.note.nested⟩

/-- What was noted while a list was decoded. The attempts made for lists inside of it count too. -/
def Run.totals (run : Run Value Notes) : Notes :=
  run.attempts.foldr (fun attempt later => (Notes.ofAttempt attempt).add later) .empty

namespace Step

/-- A step that takes values and stays where it is. -/
def gather (values : Option (List Value)) (walk : Walk) : Reading (List Value) Notes :=
  ⟨values, walk, [], .empty⟩

/-- A step that reads a list. Its mappings are noted if it could be decoded. -/
def gatherList (run : Run Value Notes) (stem : String) : Reading (List Value) Notes :=
  match run.outcome with
  | .ok values =>
    ⟨some [.list values], run.walk, run.log,
      run.totals.add ⟨0, (FieldMap.empty.extendNested stem run.fieldMap).entries⟩⟩
  | .error _ => ⟨none, run.walk, run.log, run.totals⟩

/-- Runs one step. -/
def run (sheet : Sheet) (lists : Decoder Value Notes) (walk : Walk) :
    Step → Reading (List Value) Notes
  | .read => gather ((sheet.text? walk.cursor).map fun text => [.text text]) walk
  | .maybe => gather (some [((sheet.text? walk.cursor).map Value.text).getD .blank]) walk
  | .number =>
    gather (((sheet.text? walk.cursor).bind int32Value?).map fun n => [.number n]) walk
  | .here => gather (some [.text walk.cursor.reference]) walk
  | .expect text => gather (if sheet.text? walk.cursor = some text then some [] else none) walk
  | .fail => gather none walk
  | .move m =>
    match walk.move lists.navigator m with
    | .ok moved => gather (some []) moved
    | .error _ => gather none walk
  | .list type count stem => gatherList (lists.decodeCount type count walk) stem

/-- Runs steps in order and takes what each of them takes. -/
def runAll (sheet : Sheet) (lists : Decoder Value Notes) :
    List Step → Walk → Reading (List Value) Notes
  | [], walk => gather (some []) walk
  | step :: rest, walk =>
    let first := step.run sheet lists walk
    match first.value with
    | none => first
    | some values =>
      let later := runAll sheet lists rest first.walk
      { value := later.value.map (values ++ ·)
        walk := later.walk
        log := first.log ++ later.log
        note := first.note.add later.note }

end Step

namespace Script

/-- How deep lists may stand inside lists. -/
def maxNesting : Nat := 100000

/-- The readers of the types that have recipes, for lists nested to a depth. -/
def readers (s : Script) : Nat → String → Option (Reader Value Notes)
  | 0, _ => none
  | depth + 1, type =>
    (s.recipes.lookup type).map fun steps walk =>
      let reading := Step.runAll s.sheet ⟨s.navigator, readers s depth, s.maxLength⟩ steps walk
      { reading with value := reading.value.map Value.list }

/-- The decoder of lists of these values. -/
def decoder (s : Script) : Decoder Value Notes := ⟨s.navigator, s.readers maxNesting, s.maxLength⟩

end Script

end GridTemplate
