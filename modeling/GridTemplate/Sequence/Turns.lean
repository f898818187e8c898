-- Lists decoded in a loop that has no last index. Each turn looks at the length and the limit, makes
-- one attempt and adds its element to what there is so far, and some turn ends the loop.
import GridTemplate.Sequence.Decode

namespace GridTemplate

variable {V N T : Type}

/-- Where the loop stands between two turns: the index of the next element, the walk, and all that
there is so far. -/
structure Progress (V N : Type) where
  index : Nat
  walk : Walk
  values : List V
  mappings : List Mapping
  attempts : List (Attempt V N)
  log : List Record

namespace Progress

/-- Before the first turn. -/
def start (walk : Walk) (log : List Record) : Progress V N := ⟨0, walk, [], [], [], log⟩

/-- With the element of an attempt, and the walk from there on. -/
def add [Inhabited V] (p : Progress V N) (attempt : Attempt V N) (walk : Walk) : Progress V N where
  index := p.index + 1
  walk := walk
  values := p.values ++ [attempt.reading.value.getD default]
  mappings := p.mappings ++ [⟨indexPath p.index, attempt.exit.cursor.reference⟩]
  attempts := p.attempts ++ [attempt]
  log := p.log ++ (attempt.reading.log ++
    Decoder.elementRecords p.index attempt.exit.cursor attempt.succeeded)

/-- The run that ends here, with the last of it. -/
def finish (p : Progress V N) (last : Run V N) : Run V N where
  outcome := last.outcome.map (p.values ++ ·)
  walk := last.walk
  mappings := p.mappings ++ last.mappings
  attempts := p.attempts ++ last.attempts
  log := p.log ++ last.log

end Progress

/-- Whether an index is beyond the last element that may be read. -/
def SequenceLength.isReached (limit index : Nat) : SequenceLength → Bool
  | .exact length => decide (length ≤ index)
  | .unbounded => decide (limit ≤ index)

namespace Decoder

variable [LayerRule T] [Inhabited V]

/-- One turn of the loop. It leads to the next one or ends the loop with a run. -/
def turn (nav : T) (read : Reader V N) (length : SequenceLength) (limit : Nat)
    (p : Progress V N) : Progress V N ⊕ Run V N :=
  if length.isReached limit p.index then
    match length with
    | .exact _ => .inr (p.finish (.ended p.walk []))
    | .unbounded => .inr (p.finish (probe nav read limit p.walk))
  else
    match enterLayer nav p.index p.walk with
    | .error e =>
      match length with
      | .exact _ => .inr (p.finish (.failed e p.walk []))
      | .unbounded => .inr (p.finish (.ended p.walk [.gridEdgeReached p.index e]))
    | .ok walk =>
      let attempt := Attempt.make read walk
      if length = .unbounded ∧ attempt.succeeded = false then
        .inr (p.finish (stopped attempt p.index))
      else
        match attempt.exit.pop with
        | .error e => .inr ((p.add attempt attempt.exit).finish (.failed e attempt.exit []))
        | .ok restored => .inl (p.add attempt restored)

/-- The loop, stopped from outside after so many turns. It is `none` if none of them was the last. -/
def loop (nav : T) (read : Reader V N) (length : SequenceLength) (limit : Nat) :
    Nat → Progress V N → Option (Run V N)
  | 0, _ => none
  | turns + 1, p =>
    match turn nav read length limit p with
    | .inl next => loop nav read length limit turns next
    | .inr run => some run

/-- Decodes a list in the loop, if it ends in so many turns. The length is judged against the limit
only before it. -/
def decodeInTurns (d : Decoder V N T) (turns : Nat) (type : String) (length : SequenceLength)
    (w : Walk) : Option (Run V N) :=
  match elementBound d.limit length with
  | .error e => some (.failed e w [])
  | .ok _ =>
    match d.readers type with
    | none => some (.failed (.unsupportedModelType type) w [])
    | some read =>
      loop d.navigator read length d.limit turns (.start w [.decodeStarted length w.cursor])

end Decoder

end GridTemplate
