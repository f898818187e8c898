-- Which cells lie on the grid, what is said of those that do not, and how a cell is shifted, by sums
-- that are exact up to a cap and by sums of 32 bits.
import GridTemplate.GridError

namespace GridTemplate.Cell

/-- What is wrong with a cell off the grid. The row is looked at first. -/
def outOfBounds (c : Cell) : GridError :=
  if c.row = 0 ∨ maxRow < c.row then .rowOutOfBounds c.row else .columnOutOfBounds c.column

/-- The cell itself, if it lies on the grid. -/
def onGrid (c : Cell) : Except GridError Cell :=
  if c.OnGrid then .ok c else .error c.outOfBounds

/-- The cell that many rows further down and columns further right. Sums stop at the cap. -/
def offset (c : Cell) (rows columns : Nat) : Except GridError Cell :=
  onGrid ⟨min coordinateCap (c.row + rows), min coordinateCap (c.column + columns)⟩

theorem onGrid_eq_ok_iff (c d : Cell) : c.onGrid = .ok d ↔ c.OnGrid ∧ c = d := by
  unfold onGrid
  split <;> simp_all

theorem OnGrid.onGrid_eq {c : Cell} (h : c.OnGrid) : c.onGrid = .ok c := by
  simp [onGrid, h]

theorem onGrid_eq_error {c : Cell} (h : ¬ c.OnGrid) : c.onGrid = .error c.outOfBounds := by
  simp [onGrid, h]

/-- Whatever a shift gives lies on the grid. -/
theorem offset_onGrid {c d : Cell} {rows columns : Nat} (h : c.offset rows columns = .ok d) :
    d.OnGrid := by
  unfold offset at h
  rw [onGrid_eq_ok_iff] at h
  obtain ⟨hgrid, rfl⟩ := h
  exact hgrid

/-! ## Sums in 32 bits -/

/-- The sum of two numbers of 32 bits. A sum that needs more bits wraps around to less than it started
from, and the greatest number is given instead. -/
def addWords (a b : UInt32) : UInt32 := if a + b < a then 4294967295 else a + b

theorem toNat_addWords (a b : UInt32) :
    (addWords a b).toNat = min coordinateCap (a.toNat + b.toNat) := by
  have ha := a.toNat_lt
  have hb := b.toNat_lt
  have hsum := UInt32.toNat_add a b
  unfold addWords coordinateCap
  split
  · rename_i hwrap
    rw [UInt32.lt_iff_toNat_lt] at hwrap
    change 4294967295 = _
    omega
  · rename_i hfits
    rw [UInt32.lt_iff_toNat_lt] at hfits
    omega

/-- The cell that many rows further down and columns further right, in numbers of 32 bits. -/
def offsetWords (row column rows columns : UInt32) : Except GridError Cell :=
  onGrid ⟨(addWords row rows).toNat, (addWords column columns).toNat⟩

theorem offsetWords_eq (row column rows columns : UInt32) :
    offsetWords row column rows columns =
      offset ⟨row.toNat, column.toNat⟩ rows.toNat columns.toNat := by
  rw [offsetWords, toNat_addWords, toNat_addWords, offset]

end GridTemplate.Cell
