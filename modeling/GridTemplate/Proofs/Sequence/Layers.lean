-- Where the elements of a list lie. Element i lies i strides away from the origin of the walk that
-- decoding starts with, counted exactly and without a look at the grid. A step from one of these
-- layers to the next succeeds exactly where the next one starts on the grid.
import GridTemplate.Sequence.Decode
import GridTemplate.Proofs.Cell.Shifts

namespace GridTemplate

namespace Navigator

/-- The cell a number of layers after another one, whether or not it lies on the grid. -/
def layerCell (nav : Navigator) (origin : Cell) (i : Nat) : Cell :=
  match nav.axis with
  | .rows => ⟨origin.row + i * nav.stride, origin.column⟩
  | .columns => ⟨origin.row, origin.column + i * nav.stride⟩

/-- What is said of a layer that starts off the grid: its coordinate along the axis. -/
def layerFault (nav : Navigator) (origin : Cell) (i : Nat) : GridError :=
  match nav.axis with
  | .rows => .rowOutOfBounds (min coordinateCap (origin.row + i * nav.stride))
  | .columns => .columnOutOfBounds (min coordinateCap (origin.column + i * nav.stride))

@[simp] theorem layerCell_zero (nav : Navigator) (origin : Cell) : nav.layerCell origin 0 = origin := by
  unfold layerCell
  split <;> simp

theorem nextOrigin_layerCell (nav : Navigator) (origin : Cell) (i : Nat) :
    nav.nextOrigin (nav.layerCell origin i) = (nav.layerCell origin (i + 1)).capped.onGrid := by
  unfold nextOrigin layerCell Cell.offset Cell.capped
  cases nav.axis with
  | rows => simp only [Nat.succ_mul, Nat.add_assoc, Nat.add_zero]
  | columns => simp only [Nat.succ_mul, Nat.add_assoc, Nat.add_zero]

theorem layerCell_onGrid_mono {nav : Navigator} {origin : Cell} {i j : Nat} (hi : 0 < i)
    (hij : i ≤ j) (h : (nav.layerCell origin j).OnGrid) : (nav.layerCell origin i).OnGrid := by
  obtain ⟨axis, stride⟩ := nav
  have hle : i * stride ≤ j * stride := Nat.mul_le_mul_right _ hij
  have hpos : j * stride = i * stride ∨ 0 < i * stride := by
    rcases Nat.eq_zero_or_pos stride with hs | hs
    · exact Or.inl (by simp [hs])
    · exact Or.inr (Nat.mul_pos hi hs)
  cases axis with
  | rows =>
    simp only [layerCell, Cell.OnGrid] at h ⊢
    omega
  | columns =>
    simp only [layerCell, Cell.OnGrid] at h ⊢
    omega

/-- Seen from the grid, a layer can only be too far along the axis. -/
theorem outOfBounds_layerCell {nav : Navigator} {origin : Cell} {i : Nat} (ho : origin.OnGrid)
    (h : ¬ (nav.layerCell origin i).OnGrid) :
    (nav.layerCell origin i).capped.outOfBounds = nav.layerFault origin i := by
  obtain ⟨axis, stride⟩ := nav
  obtain ⟨row, column⟩ := origin
  unfold Cell.outOfBounds
  cases axis with
  | rows =>
    simp only [layerCell, Cell.OnGrid, maxRow, maxColumn] at ho h
    have hrow : maxRow < min coordinateCap (row + i * stride) := by
      simp only [maxRow, coordinateCap]
      omega
    exact if_pos (Or.inr hrow)
  | columns =>
    simp only [layerCell, Cell.OnGrid, maxRow, maxColumn] at ho h
    have hrow : ¬ (min coordinateCap row = 0 ∨ maxRow < min coordinateCap row) := by
      simp only [maxRow, coordinateCap]
      omega
    exact if_neg hrow

end Navigator

namespace Walk

theorem nextLayer_of_ok {nav : Navigator} {w : Walk} {c : Cell}
    (h : nav.nextOrigin w.origin = .ok c) :
    w.nextLayer nav = .ok ⟨State.start c, w.saved⟩ := by
  unfold origin at h
  unfold nextLayer
  rw [LayerRule.nextLayer_navigator, Navigator.nextLayer, h]

theorem nextLayer_of_error {nav : Navigator} {w : Walk} {e : GridError}
    (h : nav.nextOrigin w.origin = .error e) : w.nextLayer nav = .error (.grid e) := by
  unfold origin at h
  unfold nextLayer
  rw [LayerRule.nextLayer_navigator, Navigator.nextLayer, h]

end Walk

/-- A list as it lies on a table: how its layers follow each other, the reader of its elements and
the walk that stands at the first of them. -/
structure Layout (V N : Type) where
  navigator : Navigator
  read : Reader V N
  entry : Walk

namespace Layout

variable {V N : Type} (l : Layout V N)

/-- The walk in the layer of an element. The first element is read where the walk stands, and each
other one from the start of its layer. -/
def walkAt : Nat → Walk
  | 0 => l.entry
  | i + 1 => ⟨State.start (l.navigator.layerCell l.entry.origin (i + 1)), l.entry.saved⟩

/-- Whether an element has a place on the grid. The first one is where the walk stands. -/
def HasLayer (i : Nat) : Prop := i = 0 ∨ (l.navigator.layerCell l.entry.origin i).OnGrid

instance (i : Nat) : Decidable (l.HasLayer i) := by unfold HasLayer; infer_instance

/-- The attempt to read an element in its layer. -/
def attempt (i : Nat) : Attempt V N := .make l.read (l.walkAt i)

/-- The value of an element, or the replacement if it cannot be read. -/
def value [Inhabited V] (i : Nat) : V := (l.attempt i).reading.value.getD default

/-- The mapping of an element: its place in the list and the cell where its reading ended. -/
def mapping (i : Nat) : Mapping := ⟨indexPath i, (l.attempt i).exit.cursor.reference⟩

/-- Whether an element has a place on the grid and can be read there. -/
def readable (i : Nat) : Bool := decide (l.HasLayer i) && (l.attempt i).succeeded

/-! ## Steps between layers -/

@[simp] theorem walkAt_zero : l.walkAt 0 = l.entry := rfl

@[simp] theorem saved_walkAt (i : Nat) : (l.walkAt i).saved = l.entry.saved := by
  cases i <;> rfl

theorem origin_walkAt (i : Nat) :
    (l.walkAt i).origin = l.navigator.layerCell l.entry.origin i := by
  cases i with
  | zero => rw [Navigator.layerCell_zero, walkAt_zero]
  | succ i => rfl

@[simp] theorem hasLayer_zero : l.HasLayer 0 := Or.inl rfl

theorem hasLayer_succ_iff (i : Nat) :
    l.HasLayer (i + 1) ↔ (l.navigator.layerCell l.entry.origin (i + 1)).OnGrid := by
  simp [HasLayer]

theorem hasLayer_mono {i j : Nat} (hij : i ≤ j) (h : l.HasLayer j) : l.HasLayer i := by
  rcases Nat.eq_zero_or_pos i with hi | hi
  · exact Or.inl hi
  · rcases h with hj | hj
    · omega
    · exact Or.inr (Navigator.layerCell_onGrid_mono hi hij hj)

/-- What is said of the first element that has no place on the grid. -/
def fault (i : Nat) : Error := .grid (l.navigator.layerCell l.entry.origin i).capped.outOfBounds

theorem nextLayer_walkAt (i : Nat) :
    (l.walkAt i).nextLayer l.navigator =
      if l.HasLayer (i + 1) then .ok (l.walkAt (i + 1)) else .error (l.fault (i + 1)) := by
  have hnext := l.navigator.nextOrigin_layerCell l.entry.origin i
  rw [← l.origin_walkAt, Cell.onGrid_capped] at hnext
  by_cases h : l.HasLayer (i + 1)
  · rw [if_pos ((l.hasLayer_succ_iff i).mp h)] at hnext
    rw [if_pos h, Walk.nextLayer_of_ok hnext, saved_walkAt, walkAt]
  · rw [if_neg (mt (l.hasLayer_succ_iff i).mpr h)] at hnext
    rw [if_neg h, Walk.nextLayer_of_error hnext, fault]

theorem enterLayer_walkAt (i : Nat) :
    Decoder.enterLayer l.navigator i (l.walkAt (i - 1)) =
      if l.HasLayer i then .ok (l.walkAt i) else .error (l.fault i) := by
  unfold Decoder.enterLayer
  cases i with
  | zero => simp
  | succ i => rw [if_neg (by omega), Nat.add_sub_cancel, nextLayer_walkAt]

end Layout

end GridTemplate
