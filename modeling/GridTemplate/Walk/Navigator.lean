-- Layers. A structure that repeats lies in layers, one after the other, and a rule says where the
-- next layer starts. Navigators are the rules of layers of equal size.
import GridTemplate.Cell.Grid
import GridTemplate.Region.Basic

namespace GridTemplate

/-- The direction in which layers follow each other. -/
inductive Axis
  /-- Layers are stacked from top to bottom. -/
  | rows
  /-- Layers stand side by side, from left to right. -/
  | columns
  deriving DecidableEq, Repr

/-- Where a layer starts and where the cursor stands. -/
structure State where
  origin : Cell
  cursor : Cell
  deriving DecidableEq, Repr

/-- The state at the start of a layer. -/
def State.start (origin : Cell) : State := ⟨origin, origin⟩

/-- What knows where the layer after a state starts. -/
class LayerRule (T : Type) where
  nextLayer : T → State → Except GridError State

/-- How far the next layer is, and in which direction. -/
structure Navigator where
  axis : Axis
  stride : Nat
  deriving DecidableEq, Repr

namespace Navigator

/-- Layers of a single row or a single column. -/
def single (axis : Axis) : Navigator := ⟨axis, 1⟩

/-- Layers as large as a region. -/
def ofRegion (axis : Axis) (region : Region) : Navigator :=
  match axis with
  | .rows => ⟨.rows, region.extent.height⟩
  | .columns => ⟨.columns, region.extent.width⟩

/-- Where the layer after the one with this origin starts. -/
def nextOrigin (nav : Navigator) (origin : Cell) : Except GridError Cell :=
  match nav.axis with
  | .rows => origin.offset nav.stride 0
  | .columns => origin.offset 0 nav.stride

/-- The start of the layer after the current one. It is counted from where the current layer
starts, wherever the cursor stands. -/
def nextLayer (nav : Navigator) (state : State) : Except GridError State :=
  match nav.nextOrigin state.origin with
  | .ok origin => .ok (State.start origin)
  | .error e => .error e

end Navigator

instance : LayerRule Navigator := ⟨Navigator.nextLayer⟩

theorem LayerRule.nextLayer_navigator (nav : Navigator) (state : State) :
    LayerRule.nextLayer nav state = nav.nextLayer state := rfl

end GridTemplate
