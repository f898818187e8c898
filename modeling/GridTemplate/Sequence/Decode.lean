-- Decoding lists. Element i is read in layer i. Before each reading the state of the walk is
-- saved and after it the state is restored, so that the next layer is found wherever a reading
-- left the cursor. A list of known length has that many elements, and those that cannot be read
-- are replaced. A list of unknown length ends before the first element that cannot be read or
-- has no place on the grid; one with more elements than the limit is refused.
import GridTemplate.Sequence.Run

namespace GridTemplate

/-- The path of an element in its list. -/
def indexPath (index : Nat) : String := "[" ++ toString index ++ "]"

/-- How lists are decoded: how their layers follow each other, which readers there are, by the
names of the types they read, and the greatest length asked for. -/
structure Decoder (V N : Type) (T : Type := Navigator) where
  navigator : T
  readers : String → Option (Reader V N)
  maxLength : Nat

namespace Decoder

variable {V N T : Type}

/-- The greatest length that is decoded. No decoder goes beyond the common maximum. -/
def limit (d : Decoder V N T) : Nat := min d.maxLength maxSequenceLength

variable [LayerRule T]

/-- The walk in the layer of an element. The first element is read where the walk stands. -/
def enterLayer (nav : T) (index : Nat) (walk : Walk) : Except Error Walk :=
  if index = 0 then .ok walk else walk.nextLayer nav

/-- What an attempt to read one element too many leads to. -/
def probed (attempt : Attempt V N) (limit : Nat) : Run V N :=
  Run.withAttempt
    (.following attempt fun restored =>
      if attempt.succeeded then
        .failed (.collectionTooLarge (limit + 1) limit) restored
          [.limitExceeded limit restored.cursor]
      else .ended restored [])
    attempt

/-- Finds out whether one more element follows in the next layer. If it does, the list is longer
than the limit. -/
def probe (nav : T) (read : Reader V N) (limit : Nat) (walk : Walk) : Run V N :=
  match walk.nextLayer nav with
  | .error _ => .ended walk []
  | .ok walk => probed (.make read walk) limit

/-- The end of a list of unknown length, before the element that could not be read. -/
def stopped (attempt : Attempt V N) (index : Nat) : Run V N :=
  Run.withAttempt
    (.following attempt fun restored => .ended restored [.sequenceEnded index restored.cursor])
    attempt

/-- The records of an element. One that could not be read was replaced. -/
def elementRecords (index : Nat) (cursor : Cell) (readable : Bool) : List Record :=
  if readable then [.elementDecoded index cursor]
  else [.placeholderUsed index cursor, .elementDecoded index cursor]

/-- An element and what comes after it. The element is mapped to the cell where its reading
ended, and that is done before the saved state is restored. -/
def element [Inhabited V] (attempt : Attempt V N) (index : Nat) (next : Walk → Run V N) :
    Run V N :=
  let cursor := attempt.exit.cursor
  Run.withAttempt
    (Run.withLog
      (Run.withElement (.following attempt next) (attempt.reading.value.getD default)
        ⟨indexPath index, cursor.reference⟩)
      (elementRecords index cursor attempt.succeeded))
    attempt

/-- Reads the elements from an index on, up to a number of them. With none left, a list of known
length is complete, and one of unknown length has reached the limit. -/
def decodeFrom [Inhabited V] (nav : T) (read : Reader V N) (length : SequenceLength)
    (limit : Nat) : Nat → Nat → Walk → Run V N
  | 0, _, walk =>
    match length with
    | .exact _ => .ended walk []
    | .unbounded => probe nav read limit walk
  | remaining + 1, index, walk =>
    match enterLayer nav index walk with
    | .error e =>
      match length with
      | .exact _ => .failed e walk []
      | .unbounded => .ended walk [.gridEdgeReached index e]
    | .ok walk =>
      let attempt := Attempt.make read walk
      if length = .unbounded ∧ attempt.succeeded = false then stopped attempt index
      else
        element attempt index fun restored =>
          decodeFrom nav read length limit remaining (index + 1) restored

/-- How many elements are read before the list is complete or has reached the limit. A known
length beyond the limit is refused. -/
def elementBound (limit : Nat) : SequenceLength → Except Error Nat
  | .exact length =>
    if limit < length then .error (.collectionTooLarge length limit) else .ok length
  | .unbounded => .ok limit

/-- Decodes the list of a type that starts where the walk stands. The length is judged before the
type is looked up, and a list that is refused for either leaves the walk and the log alone. -/
def decode [Inhabited V] (d : Decoder V N T) (type : String) (length : SequenceLength)
    (walk : Walk) : Run V N :=
  match elementBound d.limit length with
  | .error e => .failed e walk []
  | .ok bound =>
    match d.readers type with
    | none => .failed (.unsupportedModelType type) walk []
    | some read =>
      (decodeFrom d.navigator read length d.limit bound 0 walk).withLog
        [.decodeStarted length walk.cursor]

/-- Decodes a list whose length is given as a count. -/
def decodeCount [Inhabited V] (d : Decoder V N T) (type : String) (count : Int) (walk : Walk) :
    Run V N :=
  match SequenceLength.ofCount count with
  | .error e => .failed e walk []
  | .ok length => d.decode type length walk

end Decoder

end GridTemplate
