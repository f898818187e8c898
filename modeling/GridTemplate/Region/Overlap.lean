-- Regions that share cells. Regions that only touch along an edge share none.
import GridTemplate.Region.Basic

namespace GridTemplate.Region

/-- Whether two regions share a cell: neither lies wholly above the other or wholly left of it. -/
def intersects (a b : Region) : Bool :=
  decide (a.upperLeft.row ≤ b.lowerRight.row) && decide (b.upperLeft.row ≤ a.lowerRight.row)
    && decide (a.upperLeft.column ≤ b.lowerRight.column)
    && decide (b.upperLeft.column ≤ a.lowerRight.column)

theorem intersects_iff (a b : Region) :
    a.intersects b = true ↔
      (a.upperLeft.row ≤ b.lowerRight.row ∧ b.upperLeft.row ≤ a.lowerRight.row) ∧
        a.upperLeft.column ≤ b.lowerRight.column ∧ b.upperLeft.column ≤ a.lowerRight.column := by
  simp [intersects, and_assoc]

/-- The lower and more right of two upper left corners. -/
def innerUpperLeft (a b : Region) : Cell :=
  ⟨max a.upperLeft.row b.upperLeft.row, max a.upperLeft.column b.upperLeft.column⟩

/-- The upper and more left of two lower right corners. -/
def innerLowerRight (a b : Region) : Cell :=
  ⟨min a.lowerRight.row b.lowerRight.row, min a.lowerRight.column b.lowerRight.column⟩

theorem innerUpperLeft_onGrid (a b : Region) : (innerUpperLeft a b).OnGrid := by
  have ha := a.upperLeft_onGrid
  have hb := b.upperLeft_onGrid
  simp only [Cell.OnGrid, innerUpperLeft] at *
  omega

theorem innerLowerRight_onGrid (a b : Region) : (innerLowerRight a b).OnGrid := by
  have ha := a.lowerRight_onGrid
  have hb := b.lowerRight_onGrid
  simp only [Cell.OnGrid, innerLowerRight] at *
  omega

theorem innerRows_le {a b : Region} (h : a.intersects b = true) :
    (innerUpperLeft a b).row ≤ (innerLowerRight a b).row := by
  rw [intersects_iff] at h
  have ha := a.rows_le
  have hb := b.rows_le
  simp only [innerUpperLeft, innerLowerRight]
  omega

theorem innerColumns_le {a b : Region} (h : a.intersects b = true) :
    (innerUpperLeft a b).column ≤ (innerLowerRight a b).column := by
  rw [intersects_iff] at h
  have ha := a.columns_le
  have hb := b.columns_le
  simp only [innerUpperLeft, innerLowerRight]
  omega

/-- The cells that two regions share, if there are any. -/
def intersection (a b : Region) : Option Region :=
  if h : a.intersects b = true then
    some ⟨innerUpperLeft a b, innerLowerRight a b, innerUpperLeft_onGrid a b,
      innerLowerRight_onGrid a b, innerRows_le h, innerColumns_le h⟩
  else none

end GridTemplate.Region
