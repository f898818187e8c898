-- Intersections of regions. An intersection has the cells that both regions have, and a region is
-- known by its cells. So regions, with `none` for no cells at all, intersect as sets of cells do,
-- in any order and in any grouping.
import GridTemplate.Proofs.Region.Cells

namespace GridTemplate.Region

/-- Whether a cell belongs to a region, if there is one. Without one there are no cells. -/
def covers (x : Option Region) (c : Cell) : Bool := x.any fun r => r.contains c

/-- The cells that two regions share, where `none` stands for no cells. -/
def meet (x y : Option Region) : Option Region := x.bind fun a => y.bind a.intersection

variable {a b r : Region} {x y z : Option Region}

/-! ## A region by its cells -/

theorem contains_upperLeft (r : Region) : r.contains r.upperLeft = true := by
  have hrows := r.rows_le
  have hcolumns := r.columns_le
  rw [contains_iff]
  omega

theorem contains_lowerRight (r : Region) : r.contains r.lowerRight = true := by
  have hrows := r.rows_le
  have hcolumns := r.columns_le
  rw [contains_iff]
  omega

theorem eq_of_corners (hupper : a.upperLeft = b.upperLeft) (hlower : a.lowerRight = b.lowerRight) :
    a = b := by
  have h := ofCorners_corners a
  rw [hupper, hlower, ofCorners_corners] at h
  exact (Except.ok.inj h).symm

/-- Each corner of a region lies in the other one, so neither reaches beyond the other. -/
theorem eq_of_contains (h : ∀ c, a.contains c = b.contains c) : a = b := by
  have hupper := h a.upperLeft
  have hlower := h a.lowerRight
  have hupper' := h b.upperLeft
  have hlower' := h b.lowerRight
  rw [contains_upperLeft, eq_comm, contains_iff] at hupper
  rw [contains_lowerRight, eq_comm, contains_iff] at hlower
  rw [contains_upperLeft, contains_iff] at hupper'
  rw [contains_lowerRight, contains_iff] at hlower'
  have hcell : ∀ {c d : Cell}, c.row = d.row → c.column = d.column → c = d := by
    rintro ⟨_, _⟩ ⟨_, _⟩ rfl rfl
    rfl
  apply eq_of_corners
  · exact hcell (by omega) (by omega)
  · exact hcell (by omega) (by omega)

/-- A size counts both corners. -/
theorem upperLeft_add_extent (r : Region) :
    r.upperLeft.row + r.extent.height = r.lowerRight.row + 1 ∧
      r.upperLeft.column + r.extent.width = r.lowerRight.column + 1 := by
  have hrows := r.rows_le
  have hcolumns := r.columns_le
  dsimp only [extent]
  omega

/-! ## The cells of an intersection -/

theorem exists_intersection_iff (a b : Region) :
    (∃ r, a.intersection b = some r) ↔ a.intersects b = true := by
  unfold intersection
  split
  · rename_i h
    simp [h]
  · rename_i h
    simp [h]

theorem corners_of_intersection (h : a.intersection b = some r) :
    r.upperLeft = innerUpperLeft a b ∧ r.lowerRight = innerLowerRight a b := by
  unfold intersection at h
  split at h
  · cases h
    exact ⟨rfl, rfl⟩
  · cases h

/-- The corners of an intersection are put together without looking at them again, and a look at
them finds nothing wrong. -/
theorem ofCorners_of_intersection (h : a.intersection b = some r) :
    ofCorners (innerUpperLeft a b) (innerLowerRight a b) = .ok r := by
  obtain ⟨hupper, hlower⟩ := corners_of_intersection h
  rw [← hupper, ← hlower, ofCorners_corners]

theorem contains_of_intersection (h : a.intersection b = some r) (c : Cell) :
    r.contains c = true ↔ a.contains c = true ∧ b.contains c = true := by
  obtain ⟨hupper, hlower⟩ := corners_of_intersection h
  simp only [contains_iff, hupper, hlower, innerUpperLeft, innerLowerRight]
  omega

theorem covers_intersection (a b : Region) (c : Cell) :
    covers (a.intersection b) c = (a.contains c && b.contains c) := by
  rw [Bool.eq_iff_iff, Bool.and_eq_true]
  cases h : a.intersection b with
  | some r => exact contains_of_intersection h c
  | none =>
    have hshares : ¬ a.Shares b := by
      rw [← intersects_iff_shares, ← exists_intersection_iff, h]
      simp
    simp only [covers, Option.any_none, Bool.false_eq_true, false_iff]
    exact fun hc => hshares ⟨c, hc⟩

/-! ## Regions and no cells -/

theorem covers_meet (x y : Option Region) (c : Cell) :
    covers (meet x y) c = (covers x c && covers y c) := by
  cases x with
  | none => rfl
  | some a =>
    cases y with
    | none => simp [meet, covers]
    | some b => exact covers_intersection a b c

/-- Every region has a cell, so what has no cells is no region. -/
theorem eq_of_covers (h : ∀ c, covers x c = covers y c) : x = y := by
  cases x with
  | none =>
    cases y with
    | none => rfl
    | some b => exact absurd (h b.upperLeft) (by simp [covers, contains_upperLeft])
  | some a =>
    cases y with
    | none => exact absurd (h a.upperLeft) (by simp [covers, contains_upperLeft])
    | some b => exact congrArg some (eq_of_contains h)

theorem meet_comm (x y : Option Region) : meet x y = meet y x := by
  apply eq_of_covers
  intro c
  rw [covers_meet, covers_meet, Bool.and_comm]

theorem meet_assoc (x y z : Option Region) : meet (meet x y) z = meet x (meet y z) := by
  apply eq_of_covers
  intro c
  rw [covers_meet, covers_meet, covers_meet, covers_meet, Bool.and_assoc]

theorem meet_self (x : Option Region) : meet x x = x := by
  apply eq_of_covers
  intro c
  rw [covers_meet, Bool.and_self]

theorem meet_none (x : Option Region) : meet x none = none := by
  rw [meet_comm]
  rfl

/-! ## The law -/

/-- Regions intersect as sets of cells. They do if some cell lies in both, and then the intersection
has exactly these cells, the corners of a region and a size that counts both of them. It does not
depend on the order or the grouping of the regions, a region has itself as its intersection, and
two regions with the same cells are the same. -/
theorem regions_intersect_as_sets_of_cells :
    (∀ a b : Region,
      (a.intersects b = true ↔ ∃ c, a.contains c = true ∧ b.contains c = true) ∧
      ((∃ r, a.intersection b = some r) ↔ a.intersects b = true) ∧
      (∀ r, a.intersection b = some r →
        (∀ c, r.contains c = true ↔ a.contains c = true ∧ b.contains c = true) ∧
        ofCorners (innerUpperLeft a b) (innerLowerRight a b) = .ok r ∧
        ofCorners r.upperLeft r.lowerRight = .ok r ∧
        r.upperLeft.row + r.extent.height = r.lowerRight.row + 1 ∧
        r.upperLeft.column + r.extent.width = r.lowerRight.column + 1 ∧
        b.intersection a = some r) ∧
      (a = b ↔ ∀ c, a.contains c = b.contains c)) ∧
    (∀ a b : Region, meet (some a) (some b) = a.intersection b) ∧
    (∀ x y, meet x y = meet y x) ∧
    (∀ x y z, meet (meet x y) z = meet x (meet y z)) ∧
    (∀ x, meet x x = x) ∧
    (∀ x, meet x none = none ∧ meet none x = none) := by
  refine ⟨?_, fun _ _ => rfl, meet_comm, meet_assoc, meet_self, fun x => ⟨meet_none x, rfl⟩⟩
  intro a b
  refine ⟨intersects_iff_shares a b, exists_intersection_iff a b, ?_, ?_⟩
  · intro r hr
    obtain ⟨hrows, hcolumns⟩ := upperLeft_add_extent r
    refine ⟨contains_of_intersection hr, ofCorners_of_intersection hr, ofCorners_corners r, hrows,
      hcolumns, ?_⟩
    have hcomm : meet (some b) (some a) = meet (some a) (some b) := meet_comm _ _
    exact hcomm.trans hr
  · constructor
    · rintro rfl c
      rfl
    · exact eq_of_contains

/-- Two regions that cross share the cells where they do, either way round, and regions that only
touch share none. -/
theorem crossing_regions_share_their_crossing :
    let rows : Region := ⟨⟨3, 1⟩, ⟨4, 9⟩, by decide, by decide, by decide, by decide⟩
    let columns : Region := ⟨⟨1, 2⟩, ⟨9, 3⟩, by decide, by decide, by decide, by decide⟩
    let below : Region := ⟨⟨5, 1⟩, ⟨6, 9⟩, by decide, by decide, by decide, by decide⟩
    (∃ r, rows.intersection columns = some r ∧ columns.intersection rows = some r ∧
      r.upperLeft = ⟨3, 2⟩ ∧ r.lowerRight = ⟨4, 3⟩ ∧
      ∀ c, r.contains c = true ↔ rows.contains c = true ∧ columns.contains c = true) ∧
    ¬ ∃ c, rows.contains c = true ∧ below.contains c = true := by
  intro rows columns below
  obtain ⟨hregions, -⟩ := regions_intersect_as_sets_of_cells
  constructor
  · obtain ⟨-, hexists, hcells, -⟩ := hregions rows columns
    obtain ⟨r, hr⟩ := hexists.mpr (by decide)
    obtain ⟨hcontains, hcorners, -, -, -, hback⟩ := hcells r hr
    obtain ⟨hupper, hlower⟩ := corners_of_ofCorners hcorners
    exact ⟨r, hr, hback, hupper, hlower, hcontains⟩
  · rw [← (hregions rows below).1]
    decide

end GridTemplate.Region
