-- Shifted cells. A shift adds to both coordinates and asks whether the sum lies on the grid. Sums that
-- are reported stop at a cap, which lies so far off the grid that it never decides the answer.
import GridTemplate.Cell.Grid

namespace GridTemplate.Cell

/-! ## Sums that stop at the cap -/

/-- The cell as sums are reported, which stop at the cap. -/
def capped (c : Cell) : Cell := ⟨min coordinateCap c.row, min coordinateCap c.column⟩

theorem onGrid_capped_iff (c : Cell) : c.capped.OnGrid ↔ c.OnGrid := by
  simp only [OnGrid, capped, coordinateCap, maxRow, maxColumn]
  omega

theorem OnGrid.capped_eq {c : Cell} (h : c.OnGrid) : c.capped = c := by
  obtain ⟨row, column⟩ := c
  simp only [OnGrid, maxRow, maxColumn] at h
  simp only [capped, coordinateCap, mk.injEq]
  omega

theorem onGrid_capped (c : Cell) :
    c.capped.onGrid = if c.OnGrid then .ok c else .error c.capped.outOfBounds := by
  by_cases h : c.OnGrid
  · rw [if_pos h, h.capped_eq, h.onGrid_eq]
  · rw [if_neg h, onGrid_eq_error (by rwa [onGrid_capped_iff])]

/-- Below the first row, a cell off the grid is too far down or else too far to the right. -/
theorem outOfBounds_capped {c : Cell} (h : 1 ≤ c.row) :
    c.capped.outOfBounds =
      if maxRow < c.row then .rowOutOfBounds (min coordinateCap c.row)
      else .columnOutOfBounds (min coordinateCap c.column) := by
  have hrow : (c.capped.row = 0 ∨ maxRow < c.capped.row) ↔ maxRow < c.row := by
    simp only [capped, coordinateCap, maxRow]
    omega
  unfold outOfBounds
  simp only [hrow]
  rfl

/-! ## Shifts -/

/-- The cell that many rows further down and columns further right, whether or not it lies on the
grid. -/
def shifted (c : Cell) (rows columns : Nat) : Cell := ⟨c.row + rows, c.column + columns⟩

theorem offset_eq (c : Cell) (rows columns : Nat) :
    c.offset rows columns =
      if (c.shifted rows columns).OnGrid then .ok (c.shifted rows columns)
      else .error (c.shifted rows columns).capped.outOfBounds :=
  onGrid_capped (c.shifted rows columns)

theorem offset_eq_ok_iff (c d : Cell) (rows columns : Nat) :
    c.offset rows columns = .ok d ↔ d = c.shifted rows columns ∧ d.OnGrid := by
  rw [offset_eq]
  split
  · rename_i h
    simp only [Except.ok.injEq]
    exact ⟨fun hd => ⟨hd.symm, hd ▸ h⟩, fun hd => hd.1.symm⟩
  · rename_i h
    simp only [reduceCtorEq, false_iff]
    rintro ⟨rfl, hd⟩
    exact h hd

/-- From below the first row, a shift off the grid is refused for the row or else for the column. -/
theorem offset_eq_error_iff {c : Cell} (h : 1 ≤ c.row) (e : GridError) (rows columns : Nat) :
    c.offset rows columns = .error e ↔ ¬ (c.shifted rows columns).OnGrid ∧
      e = if maxRow < c.row + rows then .rowOutOfBounds (min coordinateCap (c.row + rows))
        else .columnOutOfBounds (min coordinateCap (c.column + columns)) := by
  have hrow : 1 ≤ (c.shifted rows columns).row := Nat.le_add_right_of_le h
  rw [offset_eq, outOfBounds_capped hrow]
  split
  · simp_all
  · rename_i hgrid
    simp only [Except.error.injEq, hgrid, not_false_eq_true, true_and]
    exact eq_comm

theorem shifted_shifted (c : Cell) (rows columns moreRows moreColumns : Nat) :
    (c.shifted rows columns).shifted moreRows moreColumns =
      c.shifted (rows + moreRows) (columns + moreColumns) := by
  simp [shifted, Nat.add_assoc]

/-- What is on the grid after a shift from the grid was there on the way. -/
theorem OnGrid.shifted_of_le {c : Cell} (h : c.OnGrid) {rows columns moreRows moreColumns : Nat}
    (hmore : (c.shifted (rows + moreRows) (columns + moreColumns)).OnGrid) :
    (c.shifted rows columns).OnGrid := by
  simp only [OnGrid, shifted] at h hmore ⊢
  omega

/-- Two shifts are one by the sum, and neither is refused unless that one is. -/
theorem OnGrid.offset_offset_iff {c : Cell} (h : c.OnGrid) (d : Cell)
    (rows columns moreRows moreColumns : Nat) :
    (∃ m, c.offset rows columns = .ok m ∧ m.offset moreRows moreColumns = .ok d) ↔
      c.offset (rows + moreRows) (columns + moreColumns) = .ok d := by
  simp only [offset_eq_ok_iff]
  constructor
  · rintro ⟨m, ⟨rfl, -⟩, hd, hgrid⟩
    exact ⟨by rw [hd, shifted_shifted], hgrid⟩
  · rintro ⟨rfl, hgrid⟩
    exact ⟨_, ⟨rfl, h.shifted_of_le hgrid⟩, by rw [shifted_shifted], hgrid⟩

end GridTemplate.Cell
