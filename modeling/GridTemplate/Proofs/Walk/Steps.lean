-- Steps of the cursor. A step to the right or down adds to one coordinate of the cursor, exactly and
-- however large it is, and a step that leaves the grid is refused and changes nothing. So steps in
-- one direction add up, and of a step to the right and one down each is answered the same in either
-- order.
import GridTemplate.Proofs.Cell.Shifts
import GridTemplate.Proofs.Walk.Moves

namespace GridTemplate.Walk

/-! ## Answers -/

/-- Makes a move in place and keeps its answer. What comes next goes on from the walk that is left
behind. -/
def ask (nav : Navigator) (m : Move) : StateM Walk (Except Error Unit) := fun w =>
  match perform nav m w with
  | .ok _ u => (.ok (), u)
  | .error e u => (.error e, u)

/-- Makes two moves in place, the second one whether or not the first succeeds, and keeps the answers. -/
def askBoth (nav : Navigator) (first second : Move) :
    StateM Walk (Except Error Unit × Except Error Unit) := do
  let answer ← ask nav first
  let other ← ask nav second
  return (answer, other)

variable {nav : Navigator} {w : Walk}

theorem askBoth_eq (nav : Navigator) (first second : Move) (w : Walk) :
    askBoth nav first second w =
      (((ask nav first w).1, (ask nav second (ask nav first w).2).1),
        (ask nav second (ask nav first w).2).2) := rfl

theorem ask_eq (nav : Navigator) (m : Move) (w : Walk) :
    ask nav m w =
      match w.move nav m with
      | .ok u => (.ok (), u)
      | .error e => (.error e, w) := by
  unfold ask
  rw [perform_eq]
  cases w.move nav m with
  | ok u => rfl
  | error e => rfl

/-! ## Steps -/

/-- The walk with its cursor that many rows further down and columns further right. -/
def shiftCursor (w : Walk) (rows columns : Nat) : Walk :=
  { w with state := { w.state with cursor := w.cursor.shifted rows columns } }

@[simp] theorem cursor_shiftCursor (w : Walk) (rows columns : Nat) :
    (w.shiftCursor rows columns).cursor = w.cursor.shifted rows columns := rfl

theorem shiftCursor_shiftCursor (w : Walk) (rows columns moreRows moreColumns : Nat) :
    (w.shiftCursor rows columns).shiftCursor moreRows moreColumns =
      w.shiftCursor (rows + moreRows) (columns + moreColumns) := by
  rw [shiftCursor, cursor_shiftCursor, Cell.shifted_shifted]
  rfl

/-- A move that shifts the cursor is refused exactly if the sum lies off the grid. -/
theorem ask_of_offset {m : Move} {rows columns : Nat}
    (hm : w.move nav m = w.putCursor (w.cursor.offset rows columns)) :
    ask nav m w =
      if (w.cursor.shifted rows columns).OnGrid then (.ok (), w.shiftCursor rows columns)
      else (.error (.grid (w.cursor.shifted rows columns).capped.outOfBounds), w) := by
  rw [ask_eq, hm, Cell.offset_eq]
  by_cases hgrid : (w.cursor.shifted rows columns).OnGrid
  · rw [if_pos hgrid, if_pos hgrid]
    rfl
  · rw [if_neg hgrid, if_neg hgrid]
    rfl

section

variable (hw : w.cursor.OnGrid)
include hw

theorem onGrid_shifted_right_iff (columns : Nat) :
    (w.cursor.shifted 0 columns).OnGrid ↔ w.cursor.column + columns ≤ maxColumn := by
  simp only [Cell.OnGrid, Cell.shifted] at hw ⊢
  omega

theorem onGrid_shifted_down_iff (rows : Nat) :
    (w.cursor.shifted rows 0).OnGrid ↔ w.cursor.row + rows ≤ maxRow := by
  simp only [Cell.OnGrid, Cell.shifted] at hw ⊢
  omega

theorem ask_right (columns : Nat) :
    ask nav (.right columns) w =
      if w.cursor.column + columns ≤ maxColumn then (.ok (), w.shiftCursor 0 columns)
      else
        (.error (.grid (.columnOutOfBounds (min coordinateCap (w.cursor.column + columns)))), w) := by
  have hrow : ¬ maxRow < (w.cursor.shifted 0 columns).row := Nat.not_lt_of_le hw.1.2
  have hpos : 1 ≤ (w.cursor.shifted 0 columns).row := hw.1.1
  rw [ask_of_offset rfl, Cell.outOfBounds_capped hpos, if_neg hrow]
  simp only [onGrid_shifted_right_iff hw]
  rfl

/-- A step down that is refused leads below the last row, whatever column the cursor is in. -/
theorem ask_down (rows : Nat) :
    ask nav (.down rows) w =
      if w.cursor.row + rows ≤ maxRow then (.ok (), w.shiftCursor rows 0)
      else (.error (.grid (.rowOutOfBounds (min coordinateCap (w.cursor.row + rows)))), w) := by
  have hpos : 1 ≤ (w.cursor.shifted rows 0).row := Nat.le_add_right_of_le hw.1.1
  rw [ask_of_offset rfl]
  simp only [onGrid_shifted_down_iff hw]
  by_cases hrows : w.cursor.row + rows ≤ maxRow
  · rw [if_pos hrows, if_pos hrows]
  · have hrow : maxRow < (w.cursor.shifted rows 0).row := Nat.lt_of_not_le hrows
    rw [if_neg hrows, if_neg hrows, Cell.outOfBounds_capped hpos, if_pos hrow]
    rfl

/-! ## Two steps -/

/-- Neither step changes what decides about the other one. -/
theorem askBoth_right_down (rows columns : Nat) :
    askBoth nav (.right columns) (.down rows) w =
      ((askBoth nav (.down rows) (.right columns) w).1.swap,
        (askBoth nav (.down rows) (.right columns) w).2) := by
  rw [askBoth_eq, askBoth_eq, ask_right hw, ask_down hw]
  by_cases hcolumns : w.cursor.column + columns ≤ maxColumn
  · have hright : (w.shiftCursor 0 columns).cursor.OnGrid :=
      (onGrid_shifted_right_iff hw columns).mpr hcolumns
    by_cases hrows : w.cursor.row + rows ≤ maxRow
    · have hdown : (w.shiftCursor rows 0).cursor.OnGrid :=
        (onGrid_shifted_down_iff hw rows).mpr hrows
      simp [hcolumns, hrows, ask_right hdown, ask_down hright, Cell.shifted,
        shiftCursor_shiftCursor]
    · simp [hcolumns, hrows, ask_right hw, ask_down hright, Cell.shifted]
  · by_cases hrows : w.cursor.row + rows ≤ maxRow
    · have hdown : (w.shiftCursor rows 0).cursor.OnGrid :=
        (onGrid_shifted_down_iff hw rows).mpr hrows
      simp [hcolumns, hrows, ask_right hdown, ask_down hw, Cell.shifted]
    · simp [hcolumns, hrows, ask_right hw, ask_down hw]

/-- Two steps both succeed exactly if one step by their sum does. -/
theorem askBoth_of_offset {first second : Move} {rows columns moreRows moreColumns : Nat}
    (hfirst : ∀ u : Walk, u.move nav first = u.putCursor (u.cursor.offset rows columns))
    (hsecond : ∀ u : Walk, u.move nav second = u.putCursor (u.cursor.offset moreRows moreColumns)) :
    (askBoth nav first second w).1 = (.ok (), .ok ()) ↔
      (w.cursor.shifted (rows + moreRows) (columns + moreColumns)).OnGrid := by
  rw [askBoth_eq, ask_of_offset (hfirst w)]
  by_cases hway : (w.cursor.shifted rows columns).OnGrid
  · rw [if_pos hway, ask_of_offset (hsecond _), cursor_shiftCursor, Cell.shifted_shifted]
    by_cases hend : (w.cursor.shifted (rows + moreRows) (columns + moreColumns)).OnGrid
    · simp [hend]
    · simp [hend]
  · have hend : ¬ (w.cursor.shifted (rows + moreRows) (columns + moreColumns)).OnGrid :=
      fun hend => hway (hw.shifted_of_le hend)
    simp [hway, hend]

theorem askBoth_right_right_iff (columns more : Nat) :
    (askBoth nav (.right columns) (.right more) w).1 = (.ok (), .ok ()) ↔
      w.cursor.column + columns + more ≤ maxColumn := by
  rw [askBoth_of_offset hw (fun _ => rfl) (fun _ => rfl), onGrid_shifted_right_iff hw,
    Nat.add_assoc]

theorem askBoth_down_down_iff (rows more : Nat) :
    (askBoth nav (.down rows) (.down more) w).1 = (.ok (), .ok ()) ↔
      w.cursor.row + rows + more ≤ maxRow := by
  rw [askBoth_of_offset hw (fun _ => rfl) (fun _ => rfl), onGrid_shifted_down_iff hw,
    Nat.add_assoc]

end

/-! ## The law -/

/-- A shift from the grid is the exact sum if that lies on the grid, also in numbers of 32 bits. Otherwise
it is refused, for its row first, with the sum up to the greatest number there is. Two shifts are one by
the sum. So wherever a walk has come, a step to the right and a step down are each answered the same
and lead to the same walk in either order, refused or not, and two steps in one direction both succeed
exactly if their sum stays on the grid. -/
theorem steps_of_the_cursor_add_up_and_commute (nav : Navigator) :
    (∀ row column rows columns : UInt32, Cell.offsetWords row column rows columns =
      Cell.offset ⟨row.toNat, column.toNat⟩ rows.toNat columns.toNat) ∧
    (∀ p : Cell, p.OnGrid → ∀ r c,
      (∀ q, p.offset r c = .ok q ↔ q = ⟨p.row + r, p.column + c⟩ ∧ q.OnGrid) ∧
      (∀ e, p.offset r c = .error e ↔ ¬ (⟨p.row + r, p.column + c⟩ : Cell).OnGrid ∧
        e = if maxRow < p.row + r then .rowOutOfBounds (min coordinateCap (p.row + r))
          else .columnOutOfBounds (min coordinateCap (p.column + c))) ∧
      ∀ r' c' q, (∃ m, p.offset r c = .ok m ∧ m.offset r' c' = .ok q) ↔
        p.offset (r + r') (c + c') = .ok q) ∧
    ∀ w, Reachable nav w → ∀ a b,
      askBoth nav (.right a) (.down b) w =
        ((askBoth nav (.down b) (.right a) w).1.swap, (askBoth nav (.down b) (.right a) w).2) ∧
      ((askBoth nav (.right a) (.right b) w).1 = (.ok (), .ok ()) ↔
        w.cursor.column + a + b ≤ maxColumn) ∧
      ((askBoth nav (.down a) (.down b) w).1 = (.ok (), .ok ()) ↔
        w.cursor.row + a + b ≤ maxRow) := by
  refine ⟨Cell.offsetWords_eq, ?_, ?_⟩
  · intro p hp r c
    exact ⟨fun q => p.offset_eq_ok_iff q r c, fun e => Cell.offset_eq_error_iff hp.1.1 e r c,
      fun r' c' q => hp.offset_offset_iff q r c r' c'⟩
  · intro w hw a b
    have hcursor : w.cursor.OnGrid := hw.onGrid.1.2
    exact ⟨askBoth_right_down hcursor b a, askBoth_right_right_iff hcursor a b,
      askBoth_down_down_iff hcursor a b⟩

/-- In the last column but one of the last row but one, two steps to the right and one down are refused
and taken in either order. A shift off the grid both ways is refused for its row. -/
theorem a_refused_step_does_not_disturb_another :
    let nav := Navigator.single .rows
    let w : Walk := ⟨State.start ⟨1048575, 16383⟩, []⟩
    let refused : Except Error Unit := .error (.grid (.columnOutOfBounds 16385))
    let below : Walk := ⟨⟨⟨1048575, 16383⟩, ⟨1048576, 16383⟩⟩, []⟩
    Reachable nav w ∧
    askBoth nav (.down 1) (.right 2) w = ((.ok (), refused), below) ∧
    askBoth nav (.right 2) (.down 1) w = ((refused, .ok ()), below) ∧
    ¬ (askBoth nav (.down 1) (.down 1) w).1 = (.ok (), .ok ()) ∧
    (⟨1048575, 16383⟩ : Cell).OnGrid ∧
    Cell.offset ⟨1048575, 16383⟩ 4294967295 2 = .error (.rowOutOfBounds 4294967295) := by
  intro nav w refused below
  obtain ⟨-, hoffset, hsteps⟩ := steps_of_the_cursor_add_up_and_commute nav
  have hstart : start ⟨1048575, 16383⟩ = .ok w := rfl
  have hw : Reachable nav w := .start hstart
  have hgrid : (⟨1048575, 16383⟩ : Cell).OnGrid := by decide
  have hdown : askBoth nav (.down 1) (.right 2) w = ((.ok (), refused), below) := rfl
  obtain ⟨hcommute, -, -⟩ := hsteps w hw 2 1
  obtain ⟨-, -, hdowns⟩ := hsteps w hw 1 1
  obtain ⟨-, herror, -⟩ := hoffset _ hgrid 4294967295 2
  refine ⟨hw, hdown, ?_, ?_, hgrid, (herror _).mpr (by decide)⟩
  · rw [hcommute, hdown]
    rfl
  · rw [hdowns]
    decide

end GridTemplate.Walk
