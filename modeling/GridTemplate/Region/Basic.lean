-- Rectangular regions of the grid. Both corners belong to the region, so the smallest region is a
-- single cell. A region can be given by its corners, by a corner and a size, or by references,
-- and whichever way it was given, it lies on the grid.
import GridTemplate.Cell.Reference

namespace GridTemplate

/-- A region by its upper left and its lower right cell. -/
structure Region where
  upperLeft : Cell
  lowerRight : Cell
  upperLeft_onGrid : upperLeft.OnGrid
  lowerRight_onGrid : lowerRight.OnGrid
  rows_le : upperLeft.row ≤ lowerRight.row
  columns_le : upperLeft.column ≤ lowerRight.column
  deriving DecidableEq

namespace Region

/-! ## Ways to give a region -/

/-- The region between two corners. The upper left corner is judged first, then the lower right
one, then their order. -/
def ofCorners (upperLeft lowerRight : Cell) : Except GridError Region :=
  if hu : upperLeft.OnGrid then
    if hl : lowerRight.OnGrid then
      if h : upperLeft.row ≤ lowerRight.row ∧ upperLeft.column ≤ lowerRight.column then
        .ok ⟨upperLeft, lowerRight, hu, hl, h.1, h.2⟩
      else .error (.invalidRectangle upperLeft lowerRight)
    else .error lowerRight.outOfBounds
  else .error upperLeft.outOfBounds

/-- The region of a given size below and right of a corner. An empty size is refused before the
corner is looked at. -/
def withSize (upperLeft : Cell) (extent : Extent) : Except GridError Region :=
  if extent.width = 0 ∨ extent.height = 0 then .error (.emptySize upperLeft extent)
  else if upperLeft.OnGrid then
    match upperLeft.offset (extent.height - 1) (extent.width - 1) with
    | .error e => .error e
    | .ok lowerRight => ofCorners upperLeft lowerRight
  else .error upperLeft.outOfBounds

/-- The region between two references. The first one is read first, and both before their
order is looked at. -/
def ofReferences (upperLeft lowerRight : String) : Except GridError Region :=
  match Cell.ofReference upperLeft with
  | .error e => .error e
  | .ok p =>
    match Cell.ofReference lowerRight with
    | .error e => .error e
    | .ok q => ofCorners p q

/-! ## What a region covers -/

/-- The size in cells. Both corners count. -/
def extent (r : Region) : Extent :=
  ⟨r.lowerRight.column - r.upperLeft.column + 1, r.lowerRight.row - r.upperLeft.row + 1⟩

/-- The text of a region: the references of its corners around a colon. -/
def text (r : Region) : String := r.upperLeft.reference ++ ":" ++ r.lowerRight.reference

/-- Whether a cell belongs to the region. -/
def contains (r : Region) (c : Cell) : Bool :=
  decide (r.upperLeft.row ≤ c.row) && decide (c.row ≤ r.lowerRight.row)
    && decide (r.upperLeft.column ≤ c.column) && decide (c.column ≤ r.lowerRight.column)

theorem contains_iff (r : Region) (c : Cell) :
    r.contains c = true ↔
      (r.upperLeft.row ≤ c.row ∧ c.row ≤ r.lowerRight.row) ∧
        r.upperLeft.column ≤ c.column ∧ c.column ≤ r.lowerRight.column := by
  simp [contains, and_assoc]

/-- The corners of a region give the region back. -/
theorem ofCorners_corners (r : Region) : ofCorners r.upperLeft r.lowerRight = .ok r := by
  simp [ofCorners, r.upperLeft_onGrid, r.lowerRight_onGrid, r.rows_le, r.columns_le]

/-- A region given by its corners has these corners. -/
theorem corners_of_ofCorners {p q : Cell} {r : Region} (h : ofCorners p q = .ok r) :
    r.upperLeft = p ∧ r.lowerRight = q := by
  unfold ofCorners at h
  split at h
  · split at h
    · split at h
      · cases h
        exact ⟨rfl, rfl⟩
      · cases h
    · cases h
  · cases h

/-! ## Sizes in 32 bits -/

/-- How many numbers there are from the first to the last. A difference below zero or a sum that does
not fit into 32 bits gives none. -/
def count? (first last : Nat) : Option Nat :=
  if last < first then none
  else if coordinateCap < last - first + 1 then none
  else some (last - first + 1)

/-- The size of a region, as long as each step of counting it fits into 32 bits. -/
def extent? (r : Region) : Option Extent :=
  match count? r.upperLeft.column r.lowerRight.column, count? r.upperLeft.row r.lowerRight.row with
  | some width, some height => some ⟨width, height⟩
  | _, _ => none

theorem count?_eq {first last : Nat} (hle : first ≤ last) (hlast : last < coordinateCap) :
    count? first last = some (last - first + 1) := by
  unfold count?
  rw [if_neg (by omega), if_neg (by omega)]

theorem lowerRight_lt_cap (r : Region) :
    r.lowerRight.row < coordinateCap ∧ r.lowerRight.column < coordinateCap := by
  have hgrid := r.lowerRight_onGrid
  simp only [Cell.OnGrid, maxRow, maxColumn] at hgrid
  simp only [coordinateCap]
  omega

theorem extent?_eq (r : Region) : r.extent? = some r.extent := by
  obtain ⟨hrow, hcolumn⟩ := r.lowerRight_lt_cap
  unfold extent?
  rw [count?_eq r.columns_le hcolumn, count?_eq r.rows_le hrow]
  rfl

end Region

end GridTemplate
