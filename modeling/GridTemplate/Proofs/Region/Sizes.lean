-- Regions by their corners, by their size and by their text. All three tell the same of a region, and a
-- size leads to one exactly if the sums that give its last row and column stay on the grid. The size of a
-- region counts its cells.
import GridTemplate.Proofs.Cell.Shifts
import GridTemplate.Proofs.Descriptor.Writing
import GridTemplate.Proofs.Region.Intersection
import Mathlib.Data.Set.Card

namespace GridTemplate.Region

variable {p : Cell} {e : Extent} {r : Region}

/-! ## The cells of a region -/

/-- The cells of a region, row by row. -/
def cells (r : Region) : List Cell :=
  (List.range' r.upperLeft.row r.extent.height).flatMap fun row =>
    (List.range' r.upperLeft.column r.extent.width).map (Cell.mk row)

theorem mem_cells_iff (r : Region) (c : Cell) : c ∈ r.cells ↔ r.contains c = true := by
  obtain ⟨hheight, hwidth⟩ := r.upperLeft_add_extent
  obtain ⟨row, column⟩ := c
  rw [contains_iff]
  simp only [cells, List.mem_flatMap, List.mem_map, List.mem_range'_1, Cell.mk.injEq]
  constructor
  · rintro ⟨_, hrow, _, hcolumn, rfl, rfl⟩
    omega
  · rintro ⟨hrow, hcolumn⟩
    exact ⟨row, by omega, column, by omega, rfl, rfl⟩

theorem nodup_cells (r : Region) : r.cells.Nodup := by
  unfold cells
  rw [List.nodup_flatMap]
  constructor
  · intro row _
    apply List.Nodup.map _ List.nodup_range'
    intro a b hab
    exact (Cell.mk.inj hab).2
  · apply List.Pairwise.imp _ List.nodup_range'
    intro row other hne c hc hother
    obtain ⟨_, -, rfl⟩ := List.mem_map.mp hc
    obtain ⟨_, -, heq⟩ := List.mem_map.mp hother
    exact hne (Cell.mk.inj heq).1.symm

theorem length_cells (r : Region) : r.cells.length = r.extent.cellCount := by
  simp [cells, Extent.cellCount, Nat.mul_comm, List.length_flatMap]

theorem ncard_contains (r : Region) : {c | r.contains c = true}.ncard = r.extent.cellCount := by
  have hcells : {c | r.contains c = true} = (r.cells.toFinset : Set Cell) := by
    ext c
    simp [mem_cells_iff]
  rw [hcells, Set.ncard_coe_finset, List.toFinset_card_of_nodup r.nodup_cells, length_cells]

/-- No region has more cells than the grid. -/
theorem cellCount_le (r : Region) : r.extent.cellCount ≤ maxColumn * maxRow := by
  have hupper := r.upperLeft_onGrid
  have hlower := r.lowerRight_onGrid
  obtain ⟨hheight, hwidth⟩ := r.upperLeft_add_extent
  unfold Cell.OnGrid at hupper hlower
  apply Nat.mul_le_mul
  · omega
  · omega

/-! ## Regions from sizes -/

theorem withSize_of_empty (h : e.width = 0 ∨ e.height = 0) :
    withSize p e = .error (.emptySize p e) := by
  rw [withSize, if_pos h]

theorem withSize_of_not_onGrid (hwidth : 1 ≤ e.width) (hheight : 1 ≤ e.height) (h : ¬ p.OnGrid) :
    withSize p e = .error p.outOfBounds := by
  rw [withSize, if_neg (by omega), if_neg h]

/-- The last cell of a region with this corner and size, whether or not it lies on the grid. -/
def lastCell (p : Cell) (e : Extent) : Cell := p.shifted (e.height - 1) (e.width - 1)

theorem withSize_of_onGrid (hwidth : 1 ≤ e.width) (hheight : 1 ≤ e.height) (h : p.OnGrid) :
    withSize p e =
      if (lastCell p e).OnGrid then ofCorners p (lastCell p e)
      else .error (lastCell p e).capped.outOfBounds := by
  have hoffset := Cell.offset_eq p (e.height - 1) (e.width - 1)
  rw [withSize, if_neg (by omega), if_pos h, hoffset, lastCell]
  by_cases hlast : (p.shifted (e.height - 1) (e.width - 1)).OnGrid
  · rw [if_pos hlast, if_pos hlast]
  · rw [if_neg hlast, if_neg hlast]

/-- The last row and column are a size further on, less the one that the corner takes itself. -/
theorem lastCell_eq (hwidth : 1 ≤ e.width) (hheight : 1 ≤ e.height) :
    lastCell p e = ⟨p.row + e.height - 1, p.column + e.width - 1⟩ := by
  unfold lastCell Cell.shifted
  rw [Nat.add_sub_assoc hheight, Nat.add_sub_assoc hwidth]

/-- The corner lies on the grid, and the size fits from there on. -/
@[mk_iff] structure Fits (p : Cell) (e : Extent) : Prop where
  width_pos : 1 ≤ e.width
  height_pos : 1 ≤ e.height
  onGrid : p.OnGrid
  rows_le : p.row + e.height - 1 ≤ maxRow
  columns_le : p.column + e.width - 1 ≤ maxColumn

theorem Fits.lastCell_onGrid (h : Fits p e) : (lastCell p e).OnGrid := by
  obtain ⟨hwidth, hheight, hgrid, hrows, hcolumns⟩ := h
  rw [lastCell_eq hwidth hheight]
  simp only [Cell.OnGrid] at hgrid ⊢
  omega

/-- The region that a corner and a size describe. -/
def Fits.region (h : Fits p e) : Region :=
  ⟨p, lastCell p e, h.onGrid, h.lastCell_onGrid, Nat.le_add_right _ _, Nat.le_add_right _ _⟩

theorem Fits.extent_region (h : Fits p e) : h.region.extent = e := by
  obtain ⟨width, height⟩ := e
  have hwidth : 1 ≤ width := h.width_pos
  have hheight : 1 ≤ height := h.height_pos
  simp only [region, extent, lastCell, Cell.shifted, Extent.mk.injEq]
  omega

theorem withSize_of_fits (h : Fits p e) : withSize p e = .ok h.region := by
  rw [withSize_of_onGrid h.width_pos h.height_pos h.onGrid, if_pos h.lastCell_onGrid]
  exact ofCorners_corners h.region

/-- What is wrong with a corner and a size that do not fit: the size, the corner, the rows or else the
columns. -/
def sizeFault (p : Cell) (e : Extent) : GridError :=
  if e.width = 0 ∨ e.height = 0 then .emptySize p e
  else if ¬ p.OnGrid then p.outOfBounds
  else if maxRow < p.row + e.height - 1 then
    .rowOutOfBounds (min (p.row + e.height - 1) coordinateCap)
  else .columnOutOfBounds (min (p.column + e.width - 1) coordinateCap)

theorem withSize_of_not_fits (h : ¬ Fits p e) : withSize p e = .error (sizeFault p e) := by
  unfold sizeFault
  by_cases hempty : e.width = 0 ∨ e.height = 0
  · rw [withSize_of_empty hempty, if_pos hempty]
  have hwidth : 1 ≤ e.width := by omega
  have hheight : 1 ≤ e.height := by omega
  by_cases hgrid : p.OnGrid
  · have hlast : ¬ (lastCell p e).OnGrid := by
      intro hlast
      rw [lastCell_eq hwidth hheight] at hlast
      exact h ⟨hwidth, hheight, hgrid, hlast.1.2, hlast.2.2⟩
    have hrow : 1 ≤ p.row + e.height - 1 := by
      have hfirst := hgrid.1.1
      omega
    rw [withSize_of_onGrid hwidth hheight hgrid, if_neg hlast, if_neg hempty,
      if_neg (by simpa using hgrid), lastCell_eq hwidth hheight, Cell.outOfBounds_capped hrow,
      Nat.min_comm coordinateCap, Nat.min_comm coordinateCap]
  · rw [withSize_of_not_onGrid hwidth hheight hgrid, if_neg hempty, if_pos hgrid]

/-! ## One region in three ways -/

theorem fits_extent (r : Region) : Fits r.upperLeft r.extent := by
  obtain ⟨hheight, hwidth⟩ := r.upperLeft_add_extent
  have hlower := r.lowerRight_onGrid
  have hrows := r.rows_le
  have hcolumns := r.columns_le
  simp only [Cell.OnGrid] at hlower
  exact ⟨by omega, by omega, r.upperLeft_onGrid, by omega, by omega⟩

theorem lastCell_extent (r : Region) : lastCell r.upperLeft r.extent = r.lowerRight := by
  obtain ⟨hheight, hwidth⟩ := r.upperLeft_add_extent
  have hfits := r.fits_extent
  rw [lastCell_eq hfits.width_pos hfits.height_pos, hheight, hwidth]
  rfl

/-- A corner and a size describe the region that has them, and no other one. -/
theorem withSize_eq_ok_iff : withSize p e = .ok r ↔ r.upperLeft = p ∧ r.extent = e := by
  constructor
  · intro h
    have hfits : Fits p e := by
      by_contra hnot
      rw [withSize_of_not_fits hnot] at h
      cases h
    rw [withSize_of_fits hfits] at h
    cases h
    exact ⟨rfl, hfits.extent_region⟩
  · rintro ⟨rfl, rfl⟩
    rw [withSize_of_fits r.fits_extent]
    exact congrArg Except.ok (eq_of_corners rfl r.lastCell_extent)

theorem exists_withSize_iff : (∃ r, withSize p e = .ok r) ↔ Fits p e := by
  constructor
  · rintro ⟨r, hr⟩
    obtain ⟨rfl, rfl⟩ := withSize_eq_ok_iff.mp hr
    exact r.fits_extent
  · intro h
    exact ⟨h.region, withSize_of_fits h⟩

/-- A reference has no colon, so the colon in the text of a region is the only one. -/
theorem eq_of_text_eq {first second : String} (h : r.text = first ++ ":" ++ second) :
    first = r.upperLeft.reference ∧ second = r.lowerRight.reference := by
  have hpieces : colonPieces first ++ colonPieces second =
      [r.upperLeft.reference] ++ [r.lowerRight.reference] := by
    rw [← colonPieces_append, ← h, text, colonPieces_append,
      colonPieces_of_not_mem (Descriptor.not_mem_reference _),
      colonPieces_of_not_mem (Descriptor.not_mem_reference _)]
  have hlength := congrArg List.length hpieces
  have hfirst := length_colonPieces_pos first
  have hsecond := length_colonPieces_pos second
  rw [List.length_append] at hlength
  obtain ⟨hupper, hlower⟩ := List.append_inj hpieces (by simp at hlength ⊢; omega)
  have hone : ∀ {text piece : String}, colonPieces text = [piece] → text = piece := by
    intro text piece hpiece
    rw [← intercalate_colonPieces text, hpiece, String.intercalate_singleton]
  exact ⟨hone hupper, hone hlower⟩

theorem ofReferences_of_text_eq {first second : String} (h : r.text = first ++ ":" ++ second) :
    ofReferences first second = .ok r := by
  obtain ⟨rfl, rfl⟩ := eq_of_text_eq h
  unfold ofReferences
  rw [Cell.ofReference_reference r.upperLeft_onGrid, Cell.ofReference_reference r.lowerRight_onGrid]
  exact ofCorners_corners r

/-! ## The law -/

/-- Whichever way a region was given, its corners, its size from its first corner on and the references
on both sides of the colon in its text give it back. It has as many cells as its size says, which is
counted without going below zero. A corner and a size give a region exactly if the size is not empty,
the corner lies on the grid and the last row and column do; it has that corner and that size. Otherwise
they are refused for the first of these that fails. -/
theorem corners_size_and_text_give_one_region :
    (∀ r : Region,
      ofCorners r.upperLeft r.lowerRight = .ok r ∧
      withSize r.upperLeft r.extent = .ok r ∧
      (∃ first second, r.text = first ++ ":" ++ second) ∧
      (∀ first second, r.text = first ++ ":" ++ second → ofReferences first second = .ok r) ∧
      r.extent? = some r.extent ∧
      {c | r.contains c = true}.ncard = r.extent.cellCount ∧ r.extent.cellCount < 2 ^ 64) ∧
    ∀ (p : Cell) (e : Extent),
      ((∃ r, withSize p e = .ok r) ↔ 1 ≤ e.width ∧ 1 ≤ e.height ∧ p.OnGrid ∧
        p.row + e.height - 1 ≤ maxRow ∧ p.column + e.width - 1 ≤ maxColumn) ∧
      (∀ r, withSize p e = .ok r → r.upperLeft = p ∧ r.extent = e) ∧
      ((¬ ∃ r, withSize p e = .ok r) → withSize p e = .error (
        if e.width = 0 ∨ e.height = 0 then .emptySize p e
        else if ¬ p.OnGrid then p.outOfBounds
        else if maxRow < p.row + e.height - 1 then
          .rowOutOfBounds (min (p.row + e.height - 1) (2 ^ 32 - 1))
        else .columnOutOfBounds (min (p.column + e.width - 1) (2 ^ 32 - 1)))) := by
  constructor
  · intro r
    refine ⟨ofCorners_corners r, withSize_eq_ok_iff.mpr ⟨rfl, rfl⟩, ⟨_, _, rfl⟩,
      fun _ _ h => ofReferences_of_text_eq h, r.extent?_eq, r.ncard_contains, ?_⟩
    exact Nat.lt_of_le_of_lt r.cellCount_le (by decide)
  · intro p e
    refine ⟨?_, fun r h => withSize_eq_ok_iff.mp h, ?_⟩
    · rw [exists_withSize_iff, fits_iff]
    · intro h
      exact withSize_of_not_fits (mt exists_withSize_iff.mpr h)

/-- Two whole columns of the grid, by a size, by references and by the number of their cells. A size is
refused for its rows before its columns, and an empty one before its corner. -/
theorem two_columns_are_as_many_cells :
    let r : Region := ⟨⟨1, 2⟩, ⟨1048576, 3⟩, by decide, by decide, by decide, by decide⟩
    withSize ⟨1, 2⟩ ⟨2, 1048576⟩ = .ok r ∧ ofReferences "B1" "C1048576" = .ok r ∧
      {c | r.contains c = true}.ncard = 2097152 ∧
      withSize ⟨2, 2⟩ ⟨4294967295, 4294967295⟩ = .error (.rowOutOfBounds 4294967295) ∧
      withSize ⟨2, 2⟩ ⟨16384, 1⟩ = .error (.columnOutOfBounds 16385) ∧
      withSize ⟨0, 0⟩ ⟨0, 1⟩ = .error (.emptySize ⟨0, 0⟩ ⟨0, 1⟩) := by
  intro r
  obtain ⟨hregions, hsizes⟩ := corners_size_and_text_give_one_region
  obtain ⟨-, hsize, -, htext, -, hcells, -⟩ := hregions r
  have hreferences : r.text = "B1" ++ ":" ++ "C1048576" := by
    have hupper : (⟨1, 2⟩ : Cell).reference = "B1" := by
      rw [Cell.reference, columnLetters_succ_of_lt (by decide)]
      rfl
    have hlower : (⟨1048576, 3⟩ : Cell).reference = "C1048576" := by
      rw [Cell.reference, columnLetters_succ_of_lt (by decide)]
      rfl
    rw [text, hupper, hlower]
  have hcount : r.extent.cellCount = 2097152 := by decide
  obtain ⟨hrows, -, hbelow⟩ := hsizes ⟨2, 2⟩ ⟨4294967295, 4294967295⟩
  obtain ⟨hcolumns, -, hright⟩ := hsizes ⟨2, 2⟩ ⟨16384, 1⟩
  obtain ⟨hempty, -, hnothing⟩ := hsizes ⟨0, 0⟩ ⟨0, 1⟩
  exact ⟨hsize, htext _ _ hreferences, hcells.trans hcount, hbelow (mt hrows.mp (by decide)),
    hright (mt hcolumns.mp (by decide)), hnothing (mt hempty.mp (by decide))⟩

end GridTemplate.Region
