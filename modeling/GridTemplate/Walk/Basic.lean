-- Walks over a table. A walk knows where the current layer starts, where the cursor stands and
-- which states were saved. A move gives the walk after it, or it fails and gives none, and then
-- the walk before it is still there to go on from. In place it changes the walk itself.
import GridTemplate.Error
import GridTemplate.Walk.Navigator

namespace GridTemplate

/-- A walk over a table. The state that was saved last stands first. -/
structure Walk where
  state : State
  saved : List State
  deriving DecidableEq, Repr

namespace Walk

/-- The walk that starts at a cell with nothing saved. -/
def start (origin : Cell) : Except Error Walk :=
  match origin.onGrid with
  | .ok origin => .ok ⟨State.start origin, []⟩
  | .error e => .error (.grid e)

/-- The cell under the cursor. -/
def cursor (w : Walk) : Cell := w.state.cursor

/-- Where the current layer starts. -/
def origin (w : Walk) : Cell := w.state.origin

/-- How many states are saved. -/
def depth (w : Walk) : Nat := w.saved.length

/-! ## Moves -/

/-- Saves the current state. -/
def push (w : Walk) : Walk := { w with saved := w.state :: w.saved }

/-- Goes back to the state that was saved last, which is then no longer saved. -/
def pop (w : Walk) : Except Error Walk :=
  match w.saved with
  | [] => .error .stackUnderflow
  | state :: saved => .ok ⟨state, saved⟩

/-- Goes to the start of the next layer. -/
def nextLayer {T : Type} [LayerRule T] (nav : T) (w : Walk) : Except Error Walk :=
  match LayerRule.nextLayer nav w.state with
  | .ok state => .ok { w with state := state }
  | .error e => .error (.grid e)

/-- Puts the cursor on the cell that a check of the grid gives. The layer stays the same. -/
def putCursor (w : Walk) (target : Except GridError Cell) : Except Error Walk :=
  match target with
  | .ok cell => .ok { w with state := { w.state with cursor := cell } }
  | .error e => .error (.grid e)

/-- Puts the cursor on a cell. -/
def setCursor (w : Walk) (cell : Cell) : Except Error Walk := w.putCursor cell.onGrid

/-- Moves the cursor to the right. -/
def moveRight (w : Walk) (columns : Nat) : Except Error Walk :=
  w.putCursor (w.cursor.offset 0 columns)

/-- Moves the cursor down. -/
def moveDown (w : Walk) (rows : Nat) : Except Error Walk :=
  w.putCursor (w.cursor.offset rows 0)

end Walk

/-- What can be done on a walk, as data. -/
inductive Move
  | right (columns : Nat)
  | down (rows : Nat)
  | set (cell : Cell)
  | push
  | pop
  | layer
  deriving DecidableEq, Repr

/-- The walk after a move. -/
def Walk.move {T : Type} [LayerRule T] (nav : T) (w : Walk) : Move → Except Error Walk
  | .right columns => w.moveRight columns
  | .down rows => w.moveDown rows
  | .set cell => w.setCursor cell
  | .push => .ok w.push
  | .pop => w.pop
  | .layer => w.nextLayer nav

namespace Walk

theorem pop_eq_ok_iff (w u : Walk) : w.pop = .ok u ↔ w.saved = u.state :: u.saved := by
  obtain ⟨state, saved⟩ := w
  obtain ⟨state', saved'⟩ := u
  cases saved <;> simp [pop]

/-- Only an empty stack cannot be popped. -/
theorem pop_eq_error_iff (w : Walk) (e : Error) :
    w.pop = .error e ↔ w.saved = [] ∧ e = .stackUnderflow := by
  obtain ⟨state, saved⟩ := w
  cases saved <;> simp [pop, eq_comm]

theorem saved_of_putCursor {w u : Walk} {target : Except GridError Cell}
    (h : w.putCursor target = .ok u) : u.saved = w.saved := by
  unfold putCursor at h
  split at h
  · cases h
    rfl
  · cases h

/-- A step to the next layer saves nothing and forgets nothing. -/
theorem saved_of_nextLayer {T : Type} [LayerRule T] {nav : T} {w u : Walk}
    (h : w.nextLayer nav = .ok u) : u.saved = w.saved := by
  unfold nextLayer at h
  split at h
  · cases h
    rfl
  · cases h

/-! ## Moves in place -/

/-- An operation that changes a walk in place. What it changed before an error stays changed. -/
abbrev InPlace := EStateM Error Walk

/-- What a check of the grid gives. -/
def checked {α : Type} : Except GridError α → InPlace α
  | .ok a => pure a
  | .error e => throw (.grid e)

/-- Puts the cursor on the cell that a check of the grid gives. -/
def writeCursor (target : Except GridError Cell) : InPlace Unit := do
  let cell ← checked target
  modify fun w => { w with state := { w.state with cursor := cell } }

/-- A move in place. -/
def perform (nav : Navigator) : Move → InPlace Unit
  | .right columns => do writeCursor ((← get).cursor.offset 0 columns)
  | .down rows => do writeCursor ((← get).cursor.offset rows 0)
  | .set cell => writeCursor cell.onGrid
  | .push => modify fun w => { w with saved := w.state :: w.saved }
  | .pop => do
    -- The stack is popped before it is known whether there was a state on it.
    match ← modifyGet fun w => (w.saved.head?, { w with saved := w.saved.tail }) with
    | some state => modify fun w => { w with state := state }
    | none => throw .stackUnderflow
  | .layer => do
    let state ← checked (nav.nextLayer (← get).state)
    modify fun w => { w with state := state }

theorem writeCursor_eq (w : Walk) (target : Except GridError Cell) :
    writeCursor target w =
      match w.putCursor target with
      | .ok u => .ok () u
      | .error e => .error e w := by
  cases target with
  | ok cell => rfl
  | error e => rfl

/-- In place a move makes the walk the one after it, or fails and leaves the walk as it was. -/
theorem perform_eq (nav : Navigator) (w : Walk) (m : Move) :
    perform nav m w =
      match w.move nav m with
      | .ok u => .ok () u
      | .error e => .error e w := by
  cases m with
  | right columns => exact writeCursor_eq w _
  | down rows => exact writeCursor_eq w _
  | set cell => exact writeCursor_eq w _
  | push => rfl
  | pop =>
    obtain ⟨state, saved⟩ := w
    cases saved with
    | nil => rfl
    | cons last rest => rfl
  | layer =>
    have hlayer : perform nav .layer w =
        (do
          let state ← checked (nav.nextLayer w.state)
          modify fun w => { w with state := state } : InPlace Unit) w := rfl
    rw [hlayer, Walk.move, nextLayer, LayerRule.nextLayer_navigator]
    cases nav.nextLayer w.state with
    | ok state => rfl
    | error e => rfl

end Walk

end GridTemplate
