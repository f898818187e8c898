-- Readers of single values. A reader is any function of the walk: it may move the cursor and
-- save or restore states as it likes, and the walk that it leaves is part of what it gives.
import GridTemplate.Log
import GridTemplate.Walk.Basic

namespace GridTemplate

/-- What reading one value gives. There may be no value, and then the walk is still the one that
the reader left. The note is the reader's own and is passed on as it is. -/
structure Reading (V N : Type) where
  value : Option V
  walk : Walk
  log : List Record
  note : N

/-- A way to read one value on a walk. -/
def Reader (V N : Type) : Type := Walk → Reading V N

/-- One use of a reader: the walk it was given and what it gave. -/
structure Attempt (V N : Type) where
  entry : Walk
  reading : Reading V N

namespace Attempt

/-- Uses a reader. The state of the walk is saved first. -/
def make {V N : Type} (read : Reader V N) (walk : Walk) : Attempt V N :=
  ⟨walk.push, read walk.push⟩

/-- Whether there was a value. -/
def succeeded {V N : Type} (a : Attempt V N) : Bool := a.reading.value.isSome

/-- The walk that the reader left. -/
def exit {V N : Type} (a : Attempt V N) : Walk := a.reading.walk

end Attempt

end GridTemplate
