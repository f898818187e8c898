-- Moves that change a walk in place, one after the other, whether or not they succeed. A move that
-- fails has changed nothing by then, so the walk stays on the grid throughout, and a state that was
-- saved comes back exactly once the moves after it have restored all that they saved themselves.
import GridTemplate.Proofs.Walk.Reachable
import Mathlib.Data.List.Infix

namespace GridTemplate.Walk

/-! ## Moves in place -/

/-- The walk that an operation leaves behind, whether or not it succeeds. -/
def leftBehind : EStateM.Result Error Walk Unit → Walk
  | .ok _ w => w
  | .error _ w => w

/-- The walk after a move in place that may fail. -/
def tryMove (nav : Navigator) (w : Walk) (m : Move) : Walk := leftBehind (perform nav m w)

/-- The walk after moves, one after the other, each of which may fail. -/
def tryMoves (nav : Navigator) (w : Walk) (ms : List Move) : Walk := ms.foldl (tryMove nav) w

/-- Moves lead from one walk to another. -/
def Reaches (nav : Navigator) (w u : Walk) : Prop := ∃ ms, w.tryMoves nav ms = u

/-- However far the moves have come, more states are saved than this number. -/
def StaysAbove (nav : Navigator) (depth : Nat) (w : Walk) (ms : List Move) : Prop :=
  ∀ before, before <+: ms → depth < (w.tryMoves nav before).depth

instance (nav : Navigator) (depth : Nat) (w : Walk) (ms : List Move) :
    Decidable (StaysAbove nav depth w ms) :=
  decidable_of_iff (∀ before ∈ ms.inits, depth < (w.tryMoves nav before).depth)
    (by simp [StaysAbove, List.mem_inits])

variable {nav : Navigator} {w u : Walk} {m : Move}

theorem tryMove_of_ok (h : w.move nav m = .ok u) : w.tryMove nav m = u := by
  unfold tryMove
  rw [perform_eq, h]
  rfl

theorem tryMove_of_error {e : Error} (h : w.move nav m = .error e) : w.tryMove nav m = w := by
  unfold tryMove
  rw [perform_eq, h]
  rfl

/-- An error is the only trace of a move that fails. -/
theorem move_of_perform_error {e : Error} (h : perform nav m w = .error e u) :
    w.move nav m = .error e ∧ u = w := by
  rw [perform_eq] at h
  split at h
  · cases h
  · rename_i e' hmove
    cases h
    exact ⟨hmove, rfl⟩

theorem tryMoves_cons (nav : Navigator) (w : Walk) (m : Move) (ms : List Move) :
    w.tryMoves nav (m :: ms) = (w.tryMove nav m).tryMoves nav ms := rfl

theorem tryMoves_append (nav : Navigator) (w : Walk) (ms more : List Move) :
    w.tryMoves nav (ms ++ more) = (w.tryMoves nav ms).tryMoves nav more := List.foldl_append

/-! ## Walks that moves lead to -/

theorem Reaches.refl (nav : Navigator) (w : Walk) : w.Reaches nav w := ⟨[], rfl⟩

theorem Reaches.trans {v : Walk} (h : w.Reaches nav u) (hnext : u.Reaches nav v) :
    w.Reaches nav v := by
  obtain ⟨ms, rfl⟩ := h
  obtain ⟨more, rfl⟩ := hnext
  exact ⟨ms ++ more, tryMoves_append nav w ms more⟩

theorem Reaches.move (h : w.Reaches nav u) {v : Walk} (hmove : u.move nav m = .ok v) :
    w.Reaches nav v := h.trans ⟨[m], tryMove_of_ok hmove⟩

/-! ## The grid -/

theorem onGrid_tryMove (hw : w.OnGrid) (m : Move) : (w.tryMove nav m).OnGrid := by
  cases hmove : w.move nav m with
  | ok u =>
    rw [tryMove_of_ok hmove]
    exact onGrid_move m hw hmove
  | error e =>
    rw [tryMove_of_error hmove]
    exact hw

theorem onGrid_tryMoves (hw : w.OnGrid) (ms : List Move) : (w.tryMoves nav ms).OnGrid := by
  induction ms generalizing w with
  | nil => exact hw
  | cons m ms ih => exact ih (onGrid_tryMove hw m)

theorem Reaches.onGrid (h : w.Reaches nav u) (hw : w.OnGrid) : u.OnGrid := by
  obtain ⟨ms, rfl⟩ := h
  exact onGrid_tryMoves hw ms

/-! ## Moves that fail -/

/-- What comes after a move that fails is the same as without it. -/
theorem tryMoves_of_error {before : List Move} {e : Error}
    (h : (w.tryMoves nav before).move nav m = .error e) (more : List Move) :
    w.tryMoves nav (before ++ m :: more) = w.tryMoves nav (before ++ more) := by
  rw [tryMoves_append, tryMoves_cons, tryMove_of_error h, ← tryMoves_append]

/-! ## Saved states -/

/-- A move leaves the saved states alone, saves the current state or restores the last one. -/
theorem saved_cases_of_move (h : w.move nav m = .ok u) :
    u.saved = w.saved ∨ u.saved = w.state :: w.saved ∨ w.saved = u.state :: u.saved := by
  cases m with
  | right columns => exact Or.inl (saved_of_putCursor h)
  | down rows => exact Or.inl (saved_of_putCursor h)
  | set cell => exact Or.inl (saved_of_putCursor h)
  | push =>
    cases h
    exact Or.inr (Or.inl rfl)
  | pop => exact Or.inr (Or.inr ((pop_eq_ok_iff w u).mp h))
  | layer => exact Or.inl (saved_of_nextLayer h)

/-- States at the bottom stay where they are, if the move leaves as many states saved. -/
theorem suffix_tryMove {bottom : List State} (h : bottom <:+ w.saved)
    (hdepth : bottom.length ≤ (w.tryMove nav m).depth) : bottom <:+ (w.tryMove nav m).saved := by
  unfold depth at hdepth
  cases hmove : w.move nav m with
  | ok u =>
    rw [tryMove_of_ok hmove] at hdepth ⊢
    rcases saved_cases_of_move hmove with hsame | hpush | hpop
    · rw [hsame]
      exact h
    · rw [hpush]
      exact h.trans (List.suffix_cons _ _)
    · rw [hpop] at h
      -- If the restored state was at the bottom, too few states are left.
      rcases List.suffix_cons_iff.mp h with hall | hrest
      · rw [hall] at hdepth
        exact absurd hdepth (Nat.not_succ_le_self _)
      · exact hrest
  | error e =>
    rw [tryMove_of_error hmove]
    exact h

theorem suffix_tryMoves {bottom : List State} {ms : List Move} (h : bottom <:+ w.saved)
    (hdepth : ∀ before, before <+: ms → bottom.length ≤ (w.tryMoves nav before).depth) :
    bottom <:+ (w.tryMoves nav ms).saved := by
  induction ms generalizing w with
  | nil => exact h
  | cons m ms ih =>
    apply ih
    · apply suffix_tryMove h
      exact hdepth [m] (List.prefix_cons_inj m |>.mpr List.nil_prefix)
    · intro before hbefore
      exact hdepth (m :: before) ((List.prefix_cons_inj m).mpr hbefore)

/-- A saved state comes back once nothing is saved above it any more. -/
theorem pop_tryMoves_push {ms : List Move} (habove : StaysAbove nav w.depth w.push ms)
    (hdepth : (w.push.tryMoves nav ms).depth = w.push.depth) :
    (w.push.tryMoves nav ms).pop = .ok w := by
  rw [pop_eq_ok_iff]
  have hsuffix : w.push.saved <:+ (w.push.tryMoves nav ms).saved :=
    suffix_tryMoves List.suffix_rfl habove
  exact (hsuffix.eq_of_length hdepth.symm).symm

end GridTemplate.Walk
