-- What decoding a list gives. All of it is there however the decoding ended: the walk, the cells
-- the elements were read from, every attempt, and the log.
import GridTemplate.Sequence.Reader
import GridTemplate.FieldMap

namespace GridTemplate

/-- The result of decoding a list, with what happened on the way. -/
structure Run (V N : Type) where
  outcome : Except Error (List V)
  walk : Walk
  mappings : List Mapping
  attempts : List (Attempt V N)
  log : List Record

namespace Run

variable {V N : Type}

/-- A run that ends here without a further element. -/
def ended (walk : Walk) (log : List Record) : Run V N := ⟨.ok [], walk, [], [], log⟩

/-- A run that fails here. -/
def failed (error : Error) (walk : Walk) (log : List Record) : Run V N :=
  ⟨.error error, walk, [], [], log⟩

/-- The run with an element in front of its own. -/
def withElement (run : Run V N) (value : V) (mapping : Mapping) : Run V N :=
  { run with outcome := run.outcome.map (value :: ·), mappings := mapping :: run.mappings }

/-- The run with records in front of its own. -/
def withLog (run : Run V N) (records : List Record) : Run V N :=
  { run with log := records ++ run.log }

/-- The run with an attempt in front of its own, and in front of its log what was logged during
that attempt. -/
def withAttempt (run : Run V N) (attempt : Attempt V N) : Run V N :=
  { run with attempts := attempt :: run.attempts, log := attempt.reading.log ++ run.log }

/-! ## What each of these changes -/

@[simp] theorem outcome_withElement (run : Run V N) (value : V) (mapping : Mapping) :
    (run.withElement value mapping).outcome = run.outcome.map (value :: ·) := rfl

@[simp] theorem walk_withElement (run : Run V N) (value : V) (mapping : Mapping) :
    (run.withElement value mapping).walk = run.walk := rfl

@[simp] theorem mappings_withElement (run : Run V N) (value : V) (mapping : Mapping) :
    (run.withElement value mapping).mappings = mapping :: run.mappings := rfl

@[simp] theorem attempts_withElement (run : Run V N) (value : V) (mapping : Mapping) :
    (run.withElement value mapping).attempts = run.attempts := rfl

@[simp] theorem log_withElement (run : Run V N) (value : V) (mapping : Mapping) :
    (run.withElement value mapping).log = run.log := rfl

@[simp] theorem outcome_withLog (run : Run V N) (records : List Record) :
    (run.withLog records).outcome = run.outcome := rfl

@[simp] theorem walk_withLog (run : Run V N) (records : List Record) :
    (run.withLog records).walk = run.walk := rfl

@[simp] theorem mappings_withLog (run : Run V N) (records : List Record) :
    (run.withLog records).mappings = run.mappings := rfl

@[simp] theorem attempts_withLog (run : Run V N) (records : List Record) :
    (run.withLog records).attempts = run.attempts := rfl

@[simp] theorem log_withLog (run : Run V N) (records : List Record) :
    (run.withLog records).log = records ++ run.log := rfl

@[simp] theorem outcome_withAttempt (run : Run V N) (attempt : Attempt V N) :
    (run.withAttempt attempt).outcome = run.outcome := rfl

@[simp] theorem walk_withAttempt (run : Run V N) (attempt : Attempt V N) :
    (run.withAttempt attempt).walk = run.walk := rfl

@[simp] theorem mappings_withAttempt (run : Run V N) (attempt : Attempt V N) :
    (run.withAttempt attempt).mappings = run.mappings := rfl

@[simp] theorem attempts_withAttempt (run : Run V N) (attempt : Attempt V N) :
    (run.withAttempt attempt).attempts = attempt :: run.attempts := rfl

@[simp] theorem log_withAttempt (run : Run V N) (attempt : Attempt V N) :
    (run.withAttempt attempt).log = attempt.reading.log ++ run.log := rfl

theorem outcome_withElement_eq_ok_iff (run : Run V N) (value : V) (mapping : Mapping)
    (vs : List V) :
    (run.withElement value mapping).outcome = .ok vs ↔
      ∃ rest, run.outcome = .ok rest ∧ vs = value :: rest := by
  rw [outcome_withElement]
  cases run.outcome <;> simp [Except.map, eq_comm]

theorem outcome_withElement_eq_error_iff (run : Run V N) (value : V) (mapping : Mapping)
    (e : Error) : (run.withElement value mapping).outcome = .error e ↔ run.outcome = .error e := by
  rw [outcome_withElement]
  cases run.outcome <;> simp [Except.map]

/-- What follows an attempt. It starts from the state that was saved before the attempt, and if
the attempt left nothing saved, the run fails where the attempt ended. -/
def following (attempt : Attempt V N) (next : Walk → Run V N) : Run V N :=
  match attempt.exit.pop with
  | .error e => .failed e attempt.exit []
  | .ok restored => next restored

/-- The field map of the elements. -/
def fieldMap (run : Run V N) : FieldMap := ⟨run.mappings⟩

/-- The notes of the attempts, in order. -/
def notes (run : Run V N) : List N := run.attempts.map fun attempt => attempt.reading.note

end Run

end GridTemplate
