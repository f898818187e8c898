-- The log: what is noted while templates are declared, sheets are scanned and lists are decoded.
import GridTemplate.Sequence.Length
import GridTemplate.Region.Basic

namespace GridTemplate

/-- How much a record matters. -/
inductive Level
  | warn
  | debug
  | trace
  deriving DecidableEq, Repr

/-- The level as a log writes it. -/
def Level.label : Level → String
  | .warn => "WARN"
  | .debug => "DEBUG"
  | .trace => "TRACE"

/-- How much is let through when a log is kept down to a level. -/
def Level.detail : Level → Nat
  | .warn => 0
  | .debug => 1
  | .trace => 2

/-- A record of the log. -/
inductive Record
  | decodeStarted (length : SequenceLength) (cursor : Cell)
  | elementDecoded (index : Nat) (cursor : Cell)
  | placeholderUsed (index : Nat) (cursor : Cell)
  | sequenceEnded (length : Nat) (cursor : Cell)
  | gridEdgeReached (length : Nat) (error : Error)
  | limitExceeded (limit : Nat) (cursor : Cell)
  | templateDeclared (name : String) (region : Region)
  | descriptorSkipped (cell : Cell) (error : Error)
  | templateSkipped (cell : Cell) (error : Error)
  | sheetScanned (values controls templates : Nat)
  deriving DecidableEq

namespace Record

/-- The level of a record. What was replaced, skipped or cut off is a warning. -/
def level : Record → Level
  | .decodeStarted _ _ => .debug
  | .elementDecoded _ _ => .trace
  | .placeholderUsed _ _ => .warn
  | .sequenceEnded _ _ => .debug
  | .gridEdgeReached _ _ => .debug
  | .limitExceeded _ _ => .warn
  | .templateDeclared _ _ => .debug
  | .descriptorSkipped _ _ => .warn
  | .templateSkipped _ _ => .warn
  | .sheetScanned _ _ _ => .debug

/-- The record in words. -/
def message : Record → String
  | .decodeStarted length cursor =>
    "Decoding " ++ length.label ++ " elements starting at " ++ cursor.reference
  | .elementDecoded index cursor =>
    "Decoded element [" ++ toString index ++ "] ending at " ++ cursor.reference
  | .placeholderUsed index cursor =>
    "Element [" ++ toString index ++ "] at " ++ cursor.reference
      ++ " could not be parsed, using default"
  | .sequenceEnded length cursor =>
    "Sequence ended after " ++ toString length ++ " elements at " ++ cursor.reference
  | .gridEdgeReached length error =>
    "Sequence ended at the grid edge after " ++ toString length ++ " elements: " ++ error.message
  | .limitExceeded limit cursor =>
    "Unbounded sequence at " ++ cursor.reference ++ " exceeds " ++ toString limit ++ " elements"
  | .templateDeclared name region =>
    "Template '" ++ name ++ "' declared at " ++ region.text
  | .descriptorSkipped cell error =>
    "Skipping descriptor at " ++ cell.reference ++ ": " ++ error.message
  | .templateSkipped cell error =>
    "Skipping template at " ++ cell.reference ++ ": " ++ error.message
  | .sheetScanned values controls templates =>
    "Scanned " ++ toString values ++ " value bindings, " ++ toString controls
      ++ " form controls, " ++ toString templates ++ " templates"

/-- The line of a record: its level and its words. -/
def line (r : Record) : String := r.level.label ++ " " ++ r.message

end Record

/-- The lines of a log that is kept down to a level. -/
def logLines (detail : Level) (log : List Record) : List String :=
  (log.filter fun r => decide (r.level.detail ≤ detail.detail)).map Record.line

/-- What came out of something that keeps a log. The log is there even if it failed. -/
structure Logged (α : Type) where
  outcome : Except Error α
  log : List Record

namespace Logged

/-- A result without records. -/
def ok {α : Type} (a : α) : Logged α := ⟨.ok a, []⟩

/-- A failure without records. -/
def fail {α : Type} (e : Error) : Logged α := ⟨.error e, []⟩

/-- The same, with records before its own. -/
def after {α : Type} (records : List Record) (result : Logged α) : Logged α :=
  { result with log := records ++ result.log }

@[simp] theorem outcome_ok {α : Type} (a : α) : (ok a).outcome = .ok a := rfl

@[simp] theorem log_ok {α : Type} (a : α) : (ok a).log = [] := rfl

@[simp] theorem outcome_fail {α : Type} (e : Error) : (fail e : Logged α).outcome = .error e := rfl

@[simp] theorem log_fail {α : Type} (e : Error) : (fail e : Logged α).log = [] := rfl

@[simp] theorem outcome_after {α : Type} (records : List Record) (result : Logged α) :
    (result.after records).outcome = result.outcome := rfl

@[simp] theorem log_after {α : Type} (records : List Record) (result : Logged α) :
    (result.after records).log = records ++ result.log := rfl

@[simp] theorem after_nil {α : Type} (result : Logged α) : result.after [] = result := rfl

@[simp] theorem after_after {α : Type} (records more : List Record) (result : Logged α) :
    (result.after records).after more = result.after (more ++ records) := by
  simp [after]

end Logged

end GridTemplate
