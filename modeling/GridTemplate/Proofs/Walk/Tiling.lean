-- Layers as large as a region. A walk from the region's first corner counts its layers by the steps that
-- succeeded, wherever the cursor was moved in between, and the layers lie on the grid like tiles: none of
-- them shares a cell with another one, and none leaves out a row or a column on the way.
import GridTemplate.Proofs.Region.Sizes
import GridTemplate.Proofs.Sequence.Layers
import GridTemplate.Proofs.Walk.Moves

namespace GridTemplate

/-! ## Steps from layer to layer -/

namespace Walk

/-- Whether a move is a step to the next layer that succeeds. -/
def entersLayer (nav : Navigator) (w : Walk) (m : Move) : Bool :=
  match m, perform nav m w with
  | .layer, .ok _ _ => true
  | _, _ => false

/-- How many of the moves are steps to the next layer that succeed. -/
def layersEntered (nav : Navigator) : Walk → List Move → Nat
  | _, [] => 0
  | w, m :: ms => (w.entersLayer nav m).toNat + layersEntered nav (w.tryMove nav m) ms

variable {nav : Navigator} {w : Walk} {start : Cell} {i : Nat}

/-- A step to the next layer is counted from where the current one starts. -/
theorem perform_layer (h : w.origin = nav.layerCell start i) :
    perform nav .layer w =
      if (nav.layerCell start (i + 1)).OnGrid then
        .ok () ⟨State.start (nav.layerCell start (i + 1)), w.saved⟩
      else .error (.grid (nav.layerCell start (i + 1)).capped.outOfBounds) w := by
  have hnext := nav.nextOrigin_layerCell start i
  rw [← h, Cell.onGrid_capped] at hnext
  rw [perform_eq, Walk.move]
  by_cases hgrid : (nav.layerCell start (i + 1)).OnGrid
  · rw [if_pos hgrid] at hnext
    rw [if_pos hgrid, nextLayer_of_ok hnext]
  · rw [if_neg hgrid] at hnext
    rw [if_neg hgrid, nextLayer_of_error hnext]

theorem origin_of_putCursor {u : Walk} {target : Except GridError Cell}
    (h : w.putCursor target = .ok u) : u.origin = w.origin := by
  unfold putCursor at h
  split at h
  · cases h
    rfl
  · cases h

/-- Only a step to the next layer, or a state that is restored, leads to another layer. -/
theorem origin_tryMove {m : Move} (hpop : m ≠ .pop) (hlayer : m ≠ .layer) :
    (w.tryMove nav m).origin = w.origin := by
  cases hmove : w.move nav m with
  | error e => rw [tryMove_of_error hmove]
  | ok u =>
    rw [tryMove_of_ok hmove]
    cases m with
    | right columns => exact origin_of_putCursor hmove
    | down rows => exact origin_of_putCursor hmove
    | set cell => exact origin_of_putCursor hmove
    | push =>
      cases hmove
      rfl
    | pop => exact absurd rfl hpop
    | layer => exact absurd rfl hlayer

theorem entersLayer_of_ne {m : Move} (h : m ≠ .layer) : w.entersLayer nav m = false := by
  cases m <;> first | rfl | exact absurd rfl h

/-- What one move does to the number of the layer. -/
theorem layer_tryMove {m : Move} (hm : m ≠ .pop) (h : w.origin = nav.layerCell start i) :
    (w.tryMove nav m).origin = nav.layerCell start (i + (w.entersLayer nav m).toNat) := by
  by_cases hlayer : m = .layer
  · subst hlayer
    unfold tryMove entersLayer
    rw [perform_layer h]
    split
    · rfl
    · exact h
  · rw [origin_tryMove hm hlayer, entersLayer_of_ne hlayer]
    exact h

/-- After any moves that restore no state, the walk is in the layer that it has entered. -/
theorem layer_tryMoves {ms : List Move} (hms : .pop ∉ ms) (h : w.origin = nav.layerCell start i) :
    (w.tryMoves nav ms).origin = nav.layerCell start (i + w.layersEntered nav ms) := by
  induction ms generalizing w i with
  | nil => exact h
  | cons m ms ih =>
    have hm : m ≠ .pop := fun hpop => hms (hpop ▸ List.mem_cons_self)
    rw [tryMoves_cons, layersEntered, ← Nat.add_assoc]
    exact ih (fun hmem => hms (List.mem_cons_of_mem m hmem)) (layer_tryMove hm h)

/-- Steps alone lead to every layer that starts on the grid. -/
theorem layersEntered_replicate (h : w.origin = nav.layerCell start i) (n : Nat)
    (hgrid : n = 0 ∨ (nav.layerCell start (i + n)).OnGrid) :
    w.layersEntered nav (List.replicate n .layer) = n := by
  induction n generalizing w i with
  | zero => rfl
  | succ n ih =>
    have hlast : (nav.layerCell start (i + 1 + n)).OnGrid := by
      rw [Nat.add_assoc, Nat.add_comm 1 n]
      exact hgrid.resolve_left (Nat.succ_ne_zero n)
    have hnext := Navigator.layerCell_onGrid_mono (Nat.succ_pos i) (Nat.le_add_right (i + 1) n) hlast
    have henters : w.entersLayer nav .layer = true := by
      unfold entersLayer
      rw [perform_layer h, if_pos hnext]
    have horigin := layer_tryMove (m := .layer) (by decide) h
    rw [henters] at horigin
    rw [List.replicate_succ, layersEntered, henters, ih horigin (Or.inr hlast), Nat.add_comm]
    rfl

/-- Moves that restore no state lead to a layer. -/
def ReachesLayer (nav : Navigator) (w : Walk) (i : Nat) : Prop :=
  ∃ ms, .pop ∉ ms ∧ w.layersEntered nav ms = i

theorem reachesLayer_iff (hw : w.OnGrid) (i : Nat) :
    w.ReachesLayer nav i ↔ (nav.layerCell w.origin i).OnGrid := by
  have hfirst : w.origin = nav.layerCell w.origin 0 := (nav.layerCell_zero w.origin).symm
  constructor
  · rintro ⟨ms, hms, rfl⟩
    have horigin := layer_tryMoves hms hfirst
    rw [Nat.zero_add] at horigin
    rw [← horigin]
    exact (onGrid_tryMoves hw ms).1.1
  · intro h
    refine ⟨List.replicate i .layer, ?_, ?_⟩
    · intro hmem
      cases (List.mem_replicate.mp hmem).2
    · apply layersEntered_replicate hfirst
      rw [Nat.zero_add]
      exact Or.inr h

end Walk

/-! ## The layers of a region -/

/-- The coordinate that counts layers: the row of a cell or its column. -/
def Axis.coordinate : Axis → Cell → Nat
  | .rows, c => c.row
  | .columns, c => c.column

/-- The last coordinate of the grid along the axis. -/
def Axis.last : Axis → Nat
  | .rows => maxRow
  | .columns => maxColumn

/-- The size of a layer along the axis. -/
def Axis.length : Axis → Extent → Nat
  | .rows, e => e.height
  | .columns, e => e.width

/-- Where a layer of a region starts, whether or not it lies on the grid. -/
def Region.layerOrigin (r : Region) : Axis → Nat → Cell
  | .rows, i => ⟨r.upperLeft.row + i * r.extent.height, r.upperLeft.column⟩
  | .columns, i => ⟨r.upperLeft.row, r.upperLeft.column + i * r.extent.width⟩

/-- The cell lies in the band of rows, or of columns, that a layer of the region takes up. -/
def Region.InBand (r : Region) (axis : Axis) (i : Nat) (c : Cell) : Prop :=
  axis.coordinate (r.layerOrigin axis i) ≤ axis.coordinate c ∧
    axis.coordinate c < axis.coordinate (r.layerOrigin axis i) + axis.length r.extent

/-- The cell lies straight ahead of the region: in its columns and not above it, or in its rows and not
left of it. -/
def Region.Ahead (r : Region) : Axis → Cell → Prop
  | .rows, c => r.upperLeft.row ≤ c.row ∧ r.upperLeft.column ≤ c.column ∧ c.column ≤ r.lowerRight.column
  | .columns, c => r.upperLeft.column ≤ c.column ∧ r.upperLeft.row ≤ c.row ∧ c.row ≤ r.lowerRight.row

namespace Region

variable {r a b : Region} {axis : Axis} {i j : Nat} {c : Cell}

theorem layerCell_ofRegion (r : Region) (axis : Axis) (i : Nat) :
    (Navigator.ofRegion axis r).layerCell r.upperLeft i = r.layerOrigin axis i := by
  cases axis <;> rfl

theorem layerOrigin_zero (r : Region) (axis : Axis) : r.layerOrigin axis 0 = r.upperLeft := by
  rw [← layerCell_ofRegion, Navigator.layerCell_zero]

theorem coordinate_layerOrigin (r : Region) (axis : Axis) (i : Nat) :
    axis.coordinate (r.layerOrigin axis i) =
      axis.coordinate r.upperLeft + i * axis.length r.extent := by
  cases axis <;> rfl

theorem length_extent_pos (r : Region) (axis : Axis) : 1 ≤ axis.length r.extent := by
  have hfits := r.fits_extent
  cases axis with
  | rows => exact hfits.height_pos
  | columns => exact hfits.width_pos

/-- Every cell ahead is in one band only: the one that its distance from the region, divided by the
length of a layer, gives. -/
theorem inBand_iff (h : axis.coordinate r.upperLeft ≤ axis.coordinate c) :
    r.InBand axis i c ↔
      i = (axis.coordinate c - axis.coordinate r.upperLeft) / axis.length r.extent := by
  have hpos := r.length_extent_pos axis
  unfold InBand
  rw [coordinate_layerOrigin, eq_comm, Nat.div_eq_iff hpos]
  generalize i * axis.length r.extent = before
  omega

theorem Ahead.coordinate_le (h : r.Ahead axis c) :
    axis.coordinate r.upperLeft ≤ axis.coordinate c := by
  cases axis <;> exact h.1

/-- A layer with a cell of the grid in its band starts on the grid. -/
theorem layerOrigin_onGrid (hc : c.OnGrid) (h : r.InBand axis i c) : (r.layerOrigin axis i).OnGrid := by
  have hupper := r.upperLeft_onGrid
  cases axis with
  | rows =>
    simp only [InBand, Axis.coordinate, layerOrigin, Cell.OnGrid] at *
    omega
  | columns =>
    simp only [InBand, Axis.coordinate, layerOrigin, Cell.OnGrid] at *
    omega

/-- A layer that fits onto the grid has the cells of its band that lie straight ahead of the region. -/
theorem contains_layer_iff (ha : withSize (r.layerOrigin axis i) r.extent = .ok a)
    (hc : r.Ahead axis c) : a.contains c = true ↔ r.InBand axis i c := by
  obtain ⟨horigin, hextent⟩ := withSize_eq_ok_iff.mp ha
  obtain ⟨hheight, hwidth⟩ := a.upperLeft_add_extent
  obtain ⟨hheight', hwidth'⟩ := r.upperLeft_add_extent
  rw [horigin, hextent] at hheight hwidth
  rw [contains_iff, horigin]
  cases axis with
  | rows =>
    simp only [InBand, Ahead, Axis.coordinate, Axis.length, layerOrigin] at *
    omega
  | columns =>
    simp only [InBand, Ahead, Axis.coordinate, Axis.length, layerOrigin] at *
    omega

theorem ahead_of_contains (ha : withSize (r.layerOrigin axis i) r.extent = .ok a)
    (hc : a.contains c = true) : r.Ahead axis c := by
  obtain ⟨horigin, hextent⟩ := withSize_eq_ok_iff.mp ha
  obtain ⟨hheight, hwidth⟩ := a.upperLeft_add_extent
  obtain ⟨hheight', hwidth'⟩ := r.upperLeft_add_extent
  rw [horigin, hextent] at hheight hwidth
  rw [contains_iff, horigin] at hc
  cases axis with
  | rows =>
    simp only [Ahead, layerOrigin] at *
    omega
  | columns =>
    simp only [Ahead, layerOrigin] at *
    omega

theorem withSize_layerOrigin_zero (r : Region) (axis : Axis) :
    withSize (r.layerOrigin axis 0) r.extent = .ok r := by
  rw [layerOrigin_zero, withSize_eq_ok_iff]
  exact ⟨rfl, rfl⟩

/-- A cell in two layers would lie in two bands. -/
theorem not_intersects_layer (hij : i ≠ j)
    (ha : withSize (r.layerOrigin axis i) r.extent = .ok a)
    (hb : withSize (r.layerOrigin axis j) r.extent = .ok b) : a.intersects b = false := by
  rw [← Bool.not_eq_true, intersects_iff_shares]
  rintro ⟨c, hca, hcb⟩
  have hahead := ahead_of_contains ha hca
  have hi := (inBand_iff hahead.coordinate_le).mp ((contains_layer_iff ha hahead).mp hca)
  have hj := (inBand_iff hahead.coordinate_le).mp ((contains_layer_iff hb hahead).mp hcb)
  exact hij (hi.trans hj.symm)

theorem layerOrigin_onGrid_iff (r : Region) (axis : Axis) (i : Nat) :
    (r.layerOrigin axis i).OnGrid ↔ axis.coordinate (r.layerOrigin axis i) ≤ axis.last := by
  have hupper := r.upperLeft_onGrid
  cases axis with
  | rows =>
    simp only [Axis.coordinate, Axis.last, layerOrigin, Cell.OnGrid] at *
    omega
  | columns =>
    simp only [Axis.coordinate, Axis.last, layerOrigin, Cell.OnGrid] at *
    omega

/-- No layer is so large that the sum which gives the next one would stop at the cap. -/
theorem capped_layerOrigin_succ (h : (r.layerOrigin axis i).OnGrid) :
    (r.layerOrigin axis (i + 1)).capped = r.layerOrigin axis (i + 1) := by
  have hupper := r.upperLeft_onGrid
  have hlower := r.lowerRight_onGrid
  obtain ⟨hheight, hwidth⟩ := r.upperLeft_add_extent
  cases axis with
  | rows =>
    simp only [Cell.capped, layerOrigin, Cell.OnGrid, Nat.succ_mul, coordinateCap, maxRow, maxColumn,
      Cell.mk.injEq] at *
    omega
  | columns =>
    simp only [Cell.capped, layerOrigin, Cell.OnGrid, Nat.succ_mul, coordinateCap, maxRow, maxColumn,
      Cell.mk.injEq] at *
    omega

end Region

/-! ## The law -/

/-- Layers as large as a region, one after the other from its first corner on. Whatever moves are made
that restore no state, a walk is in the layer that it has entered, and the next step leads to the start
of the next one, or it fails and changes nothing, exactly if that lies beyond the last row or column.
The first layer is the region, layers that fit onto the grid share no cells, and a cell straight ahead
of the region is in the band of exactly one layer that the walk can reach, and in that layer if it
fits. -/
theorem layers_of_a_region_tile_the_grid (axis : Axis) (r : Region) :
    let nav := Navigator.ofRegion axis r
    ∃ w, Walk.start r.upperLeft = .ok w ∧
      (∀ ms, .pop ∉ ms →
        let i := w.layersEntered nav ms
        let u := w.tryMoves nav ms
        u.origin = r.layerOrigin axis i ∧
        Walk.perform nav .layer u =
          if axis.coordinate (r.layerOrigin axis (i + 1)) ≤ axis.last then
            .ok () ⟨State.start (r.layerOrigin axis (i + 1)), u.saved⟩
          else .error (.grid (r.layerOrigin axis (i + 1)).outOfBounds) u) ∧
      Region.withSize (r.layerOrigin axis 0) r.extent = .ok r ∧
      (∀ i j a b, i ≠ j → Region.withSize (r.layerOrigin axis i) r.extent = .ok a →
        Region.withSize (r.layerOrigin axis j) r.extent = .ok b → a.intersects b = false) ∧
      ∀ c : Cell, c.OnGrid → r.Ahead axis c →
        (∃! i, w.ReachesLayer nav i ∧ r.InBand axis i c) ∧
        ∀ i a, Region.withSize (r.layerOrigin axis i) r.extent = .ok a →
          (a.contains c = true ↔ r.InBand axis i c) := by
  intro nav
  have hstart : Walk.start r.upperLeft = .ok ⟨State.start r.upperLeft, []⟩ := by
    rw [Walk.start, r.upperLeft_onGrid.onGrid_eq]
  have hw := Walk.onGrid_start hstart
  refine ⟨_, hstart, ?_, r.withSize_layerOrigin_zero axis,
    fun i j a b hij ha hb => Region.not_intersects_layer hij ha hb, ?_⟩
  · intro ms hms i u
    have horigin : u.origin = nav.layerCell r.upperLeft (0 + i) :=
      Walk.layer_tryMoves hms (nav.layerCell_zero r.upperLeft).symm
    rw [Nat.zero_add] at horigin
    have hgrid : (r.layerOrigin axis i).OnGrid := by
      rw [← r.layerCell_ofRegion, ← horigin]
      exact (Walk.onGrid_tryMoves hw ms).1.1
    refine ⟨horigin.trans (r.layerCell_ofRegion axis i), ?_⟩
    rw [Walk.perform_layer horigin, r.layerCell_ofRegion, Region.capped_layerOrigin_succ hgrid]
    simp only [r.layerOrigin_onGrid_iff]
  · intro c hc hahead
    refine ⟨?_, fun i a ha => Region.contains_layer_iff ha hahead⟩
    have hband := fun i => Region.inBand_iff (i := i) hahead.coordinate_le
    refine ⟨_, ⟨?_, (hband _).mpr rfl⟩, fun i hi => (hband i).mp hi.2⟩
    rw [Walk.reachesLayer_iff hw]
    have hgrid := Region.layerOrigin_onGrid hc ((hband _).mpr rfl)
    rw [← r.layerCell_ofRegion] at hgrid
    exact hgrid

/-- A cursor that was moved away, or could not be moved, leads to no other layer. The last layer before
the edge of the grid is one that does not fit, and the step behind it fails. -/
theorem a_moved_cursor_leads_to_no_other_layer :
    let r : Region := ⟨⟨3, 2⟩, ⟨4, 4⟩, by decide, by decide, by decide, by decide⟩
    let third : Region := ⟨⟨7, 2⟩, ⟨8, 4⟩, by decide, by decide, by decide, by decide⟩
    let edge : Region := ⟨⟨1, 16380⟩, ⟨1, 16382⟩, by decide, by decide, by decide, by decide⟩
    let rows := Navigator.ofRegion .rows r
    let columns := Navigator.ofRegion .columns edge
    let w : Walk := ⟨State.start ⟨3, 2⟩, []⟩
    let v : Walk := ⟨State.start ⟨1, 16380⟩, []⟩
    let u := w.tryMoves rows [.right 2, .layer, .down 100, .set ⟨0, 0⟩, .layer, .down 9]
    let last := v.tryMoves columns [.layer, .layer, .down 5]
    (u.origin = ⟨7, 2⟩ ∧ Walk.perform rows .layer u = .ok () ⟨State.start ⟨9, 2⟩, []⟩ ∧
      third.contains ⟨8, 3⟩ = true ∧ r.intersects third = false) ∧
    last.origin = ⟨1, 16383⟩ ∧
      Walk.perform columns .layer last = .error (.grid (.columnOutOfBounds 16386)) last := by
  intro r third edge rows columns w v u last
  obtain ⟨w', hw, hmoves, hfirst, hapart, hcells⟩ := layers_of_a_region_tile_the_grid .rows r
  obtain ⟨v', hv, hmoves', -⟩ := layers_of_a_region_tile_the_grid .columns edge
  obtain rfl : w = w' := Except.ok.inj hw
  obtain rfl : v = v' := Except.ok.inj hv
  have hu : w.layersEntered rows [.right 2, .layer, .down 100, .set ⟨0, 0⟩, .layer, .down 9] = 2 := by
    decide
  have hlast : v.layersEntered columns [.layer, .layer, .down 5] = 1 := by decide
  obtain ⟨horigin, hnext⟩ :=
    hmoves [.right 2, .layer, .down 100, .set ⟨0, 0⟩, .layer, .down 9] (by decide)
  obtain ⟨horigin', hnext'⟩ := hmoves' [.layer, .layer, .down 5] (by decide)
  have hthird : Region.withSize (r.layerOrigin .rows 2) r.extent = .ok third := rfl
  obtain ⟨-, hband⟩ := hcells ⟨8, 3⟩ (by decide) ⟨by decide, by decide, by decide⟩
  rw [hu] at horigin hnext
  rw [hlast] at horigin' hnext'
  have hsaved : u.saved = [] := by decide
  rw [if_pos (by decide), hsaved] at hnext
  have hedge : edge.layerOrigin .columns 1 = ⟨1, 16383⟩ := by decide
  have hbeyond : (edge.layerOrigin .columns 2).outOfBounds = .columnOutOfBounds 16386 := by decide
  rw [hedge] at horigin'
  rw [if_neg (by decide), hbeyond] at hnext'
  exact ⟨⟨horigin, hnext, (hband 2 third hthird).mpr ⟨by decide, by decide⟩,
    hapart 0 2 r third (by decide) hfirst hthird⟩, horigin', hnext'⟩

end GridTemplate
