-- Cells of the grid, counted from one in both directions, and where the grid ends.

namespace GridTemplate

/-- The number of the last row. -/
def maxRow : Nat := 1048576

/-- The number of the last column. -/
def maxColumn : Nat := 16384

/-- The greatest coordinate that is ever reported. A sum or a numeral beyond it is reported as
this number, which is far off the grid. -/
def coordinateCap : Nat := 4294967295

/-- A cell by row and column. Nothing says that it lies on the grid. -/
structure Cell where
  row : Nat
  column : Nat
  deriving DecidableEq, Hashable, Repr

namespace Cell

/-- Both coordinates stand between one and the last number of their kind. -/
def OnGrid (c : Cell) : Prop :=
  (1 ≤ c.row ∧ c.row ≤ maxRow) ∧ (1 ≤ c.column ∧ c.column ≤ maxColumn)

instance (c : Cell) : Decidable c.OnGrid := by unfold OnGrid; infer_instance

/-! ## Order -/

/-- Cells are read row by row, and in a row from left to right. -/
def before (c d : Cell) : Bool :=
  decide (c.row < d.row) || (c.row == d.row && decide (c.column ≤ d.column))

/-- The cells in reading order. -/
def sort (cells : List Cell) : List Cell := cells.mergeSort before

theorem before_iff (c d : Cell) :
    c.before d = true ↔ c.row < d.row ∨ c.row = d.row ∧ c.column ≤ d.column := by
  simp [before]

theorem before_trans (a b c : Cell) (hab : a.before b = true) (hbc : b.before c = true) :
    a.before c = true := by
  rw [before_iff] at *
  omega

theorem before_total (a b : Cell) : (a.before b || b.before a) = true := by
  rw [Bool.or_eq_true, before_iff, before_iff]
  omega

theorem before_antisymm (a b : Cell) (hab : a.before b = true) (hba : b.before a = true) :
    a = b := by
  rw [before_iff] at hab hba
  have hrow : a.row = b.row := by omega
  have hcolumn : a.column = b.column := by omega
  cases a
  cases b
  simp_all

/-- The cells in reading order are the same cells, each before all those that come after it, and
there is no other way to put them in that order. -/
theorem sort_eq_iff (cells ordered : List Cell) :
    sort cells = ordered ↔
      ordered.Perm cells ∧ ordered.Pairwise fun c d => c.before d = true := by
  have hperm : (sort cells).Perm cells := List.mergeSort_perm cells before
  have hordered : (sort cells).Pairwise fun c d => c.before d = true :=
    List.pairwise_mergeSort before_trans before_total cells
  constructor
  · rintro rfl
    exact ⟨hperm, hordered⟩
  · rintro ⟨hsame, hbefore⟩
    exact (hperm.trans hsame.symm).eq_of_pairwise (fun a b _ _ => before_antisymm a b) hordered
      hbefore

end Cell

end GridTemplate
