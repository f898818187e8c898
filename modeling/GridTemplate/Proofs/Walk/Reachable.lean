-- The walks that can be reached from a start by moves. No move leaves the grid: a move that would
-- is refused, and a state that is restored was on the grid when it was saved.
import GridTemplate.Walk.Basic

namespace GridTemplate

/-- The layer starts on the grid, and the cursor stands on it. -/
def State.OnGrid (s : State) : Prop := s.origin.OnGrid ∧ s.cursor.OnGrid

namespace Walk

/-- The current state and all saved ones are on the grid. -/
def OnGrid (w : Walk) : Prop := w.state.OnGrid ∧ ∀ s ∈ w.saved, s.OnGrid

/-- A walk that started somewhere on the grid and made any moves since. -/
inductive Reachable (nav : Navigator) : Walk → Prop
  | start {origin : Cell} {w : Walk} : start origin = .ok w → Reachable nav w
  | move {w u : Walk} (m : Move) : Reachable nav w → w.move nav m = .ok u → Reachable nav u

/-! ## One move -/

theorem onGrid_start {origin : Cell} {w : Walk} (h : start origin = .ok w) : w.OnGrid := by
  unfold start at h
  split at h
  · rename_i cell hcell
    cases h
    obtain ⟨hgrid, rfl⟩ := (Cell.onGrid_eq_ok_iff _ _).mp hcell
    exact ⟨⟨hgrid, hgrid⟩, by simp⟩
  · cases h

theorem onGrid_pop {w u : Walk} (hw : w.OnGrid) (h : w.pop = .ok u) : u.OnGrid := by
  rw [pop_eq_ok_iff] at h
  obtain ⟨_, hsaved⟩ := hw
  rw [h] at hsaved
  exact ⟨hsaved _ (by simp), fun s hs => hsaved s (by simp [hs])⟩

theorem onGrid_putCursor {w u : Walk} {target : Except GridError Cell} (hw : w.OnGrid)
    (ht : ∀ c, target = .ok c → c.OnGrid) (h : w.putCursor target = .ok u) : u.OnGrid := by
  unfold putCursor at h
  split at h
  · cases h
    exact ⟨⟨hw.1.1, ht _ rfl⟩, hw.2⟩
  · cases h

theorem onGrid_nextOrigin {nav : Navigator} {origin c : Cell}
    (h : nav.nextOrigin origin = .ok c) : c.OnGrid := by
  unfold Navigator.nextOrigin at h
  split at h
  · exact Cell.offset_onGrid h
  · exact Cell.offset_onGrid h

theorem onGrid_nextLayer {nav : Navigator} {w u : Walk} (hw : w.OnGrid)
    (h : w.nextLayer nav = .ok u) : u.OnGrid := by
  unfold nextLayer at h
  rw [LayerRule.nextLayer_navigator] at h
  unfold Navigator.nextLayer at h
  split at h
  · rename_i state hstate
    cases h
    split at hstate
    · rename_i origin horigin
      cases hstate
      have hgrid := onGrid_nextOrigin horigin
      exact ⟨⟨hgrid, hgrid⟩, hw.2⟩
    · cases hstate
  · cases h

theorem onGrid_move {nav : Navigator} {w u : Walk} (m : Move) (hw : w.OnGrid)
    (h : w.move nav m = .ok u) : u.OnGrid := by
  cases m with
  | right columns => exact onGrid_putCursor hw (fun _ hc => Cell.offset_onGrid hc) h
  | down rows => exact onGrid_putCursor hw (fun _ hc => Cell.offset_onGrid hc) h
  | set cell =>
    refine onGrid_putCursor hw (fun c hc => ?_) h
    obtain ⟨hgrid, rfl⟩ := (Cell.onGrid_eq_ok_iff _ _).mp hc
    exact hgrid
  | push =>
    cases h
    refine ⟨hw.1, fun s hs => ?_⟩
    rcases List.mem_cons.mp hs with rfl | hs
    · exact hw.1
    · exact hw.2 s hs
  | pop => exact onGrid_pop hw h
  | layer => exact onGrid_nextLayer hw h

/-! ## Any moves -/

/-- A walk that can be reached is on the grid with all that it saved. -/
theorem Reachable.onGrid {nav : Navigator} {w : Walk} (h : Reachable nav w) : w.OnGrid := by
  induction h with
  | start h => exact onGrid_start h
  | move m _ hmove ih => exact onGrid_move m ih hmove

end Walk

end GridTemplate
