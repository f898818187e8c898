-- Readers by recipes. A step makes a move, decodes a list or stays where it is, so what moves and lists
-- do to a walk is what recipes do to it, however deep their lists are nested. A list of what they read
-- stays on the grid, and if no step saves or restores a state itself, the saved states are kept.
import GridTemplate.Proofs.Sequence.Cells
import GridTemplate.Proofs.Sequence.Routine
import GridTemplate.Recipe.Reader

namespace GridTemplate

/-- Whether a step leaves the saved states alone, but for those that lists save and restore. -/
def Step.keepsSaved : Step → Bool
  | .move m => m.keepsSaved
  | _ => true

variable {sheet : Sheet} {lists : Decoder Value Notes}

/-! ## One step -/

namespace Step

@[simp] theorem walk_gatherList (run : Run Value Notes) (stem : String) :
    (gatherList run stem).walk = run.walk := by
  unfold gatherList
  split
  · rfl
  · rfl

/-- The walk after a step is the one before it, one move further, or the one after a list. -/
theorem walk_run_cases (step : Step) (w : Walk) :
    (step.run sheet lists w).walk = w ∨
      (∃ m, step = .move m ∧ w.move lists.navigator m = .ok (step.run sheet lists w).walk) ∨
      ∃ type count, (step.run sheet lists w).walk = (lists.decodeCount type count w).walk := by
  cases step with
  | move m =>
    unfold run
    dsimp only
    split
    · rename_i moved hmoved
      exact Or.inr (Or.inl ⟨m, rfl, hmoved⟩)
    · exact Or.inl rfl
  | list type count stem => exact Or.inr (Or.inr ⟨type, count, walk_gatherList _ _⟩)
  | _ => exact Or.inl rfl

theorem reaches_run (h : ∀ type read, lists.readers type = some read →
    read.OnlyMoves lists.navigator) (step : Step) (w : Walk) :
    w.Reaches lists.navigator (step.run sheet lists w).walk := by
  have hrefl := Walk.Reaches.refl lists.navigator w
  rcases step.walk_run_cases w with hsame | ⟨m, -, hmove⟩ | ⟨type, count, hlist⟩
  · rw [hsame]
    exact hrefl
  · exact hrefl.move hmove
  · rw [hlist]
    exact (lists.traced_decodeCount type count w (h type)).walk

theorem saved_run (h : ∀ type read, lists.readers type = some read → read.Disciplined)
    {step : Step} (hkeeps : step.keepsSaved = true) (w : Walk) :
    (step.run sheet lists w).walk.saved = w.saved := by
  rcases step.walk_run_cases w with hsame | ⟨m, rfl, hmove⟩ | ⟨type, count, hlist⟩
  · rw [hsame]
  · exact Walk.saved_of_move hkeeps hmove
  · rw [hlist]
    exact (lists.balanced_decodeCount type count w (h type)).saved

/-! ## Recipes -/

/-- Steps that are made in order do to a walk what each of them does, if that can be put together. -/
theorem related_runAll {R : Walk → Walk → Prop} (hrefl : ∀ w, R w w)
    (htrans : ∀ u v w, R u v → R v w → R u w) {steps : List Step}
    (hsteps : ∀ step ∈ steps, ∀ w, R w (step.run sheet lists w).walk) (w : Walk) :
    R w (runAll sheet lists steps w).walk := by
  induction steps generalizing w with
  | nil => exact hrefl w
  | cons step rest ih =>
    have hfirst := hsteps step List.mem_cons_self w
    have hrest := ih fun other hother => hsteps other (List.mem_cons_of_mem _ hother)
    unfold runAll
    dsimp only
    split
    · exact hfirst
    · exact htrans _ _ _ hfirst (hrest _)

end Step

namespace Script

variable {s : Script}

/-- By induction on how deep lists may be nested. What the readers inside a list do to a walk, the
list does too, and so does a recipe with the list among its steps. -/
theorem related_readers {R : Walk → Walk → Prop} (hrefl : ∀ w, R w w)
    (htrans : ∀ u v w, R u v → R v w → R u w)
    (hsteps : ∀ lists : Decoder Value Notes, lists.navigator = s.navigator →
      (∀ type read, lists.readers type = some read → ∀ w, R w (read w).walk) →
      ∀ recipe ∈ s.recipes, ∀ step ∈ recipe.2, ∀ w, R w (step.run s.sheet lists w).walk)
    (depth : Nat) (type : String) (read : Reader Value Notes)
    (hread : s.readers depth type = some read) (w : Walk) : R w (read w).walk := by
  induction depth generalizing type read w with
  | zero => cases hread
  | succ depth ih =>
    unfold readers at hread
    obtain ⟨steps, hlookup, rfl⟩ := Option.map_eq_some_iff.mp hread
    have hrecipe : (type, steps) ∈ s.recipes := by
      obtain ⟨front, back, hrecipes, -⟩ := List.lookup_eq_some_iff.mp hlookup
      simp [hrecipes]
    exact Step.related_runAll hrefl htrans
      (hsteps ⟨s.navigator, s.readers depth, s.maxLength⟩ rfl ih _ hrecipe) w

theorem onlyMoves_readers (depth : Nat) (type : String) (read : Reader Value Notes)
    (hread : s.readers depth type = some read) : read.OnlyMoves s.navigator := by
  refine related_readers (Walk.Reaches.refl s.navigator) (fun _ _ _ => Walk.Reaches.trans) ?_ depth
    type read hread
  intro lists hnav hlists recipe _ step _ w
  rw [← hnav]
  apply step.reaches_run
  intro other reader hreader u
  rw [hnav]
  exact hlists other reader hreader u

theorem disciplined_readers
    (hkeeps : ∀ recipe ∈ s.recipes, ∀ step ∈ recipe.2, step.keepsSaved = true) (depth : Nat)
    (type : String) (read : Reader Value Notes) (hread : s.readers depth type = some read) :
    read.Disciplined := by
  have hkept := related_readers (R := fun w u => u.saved = w.saved) (fun _ => rfl)
    (fun _ _ _ hfirst hnext => hnext.trans hfirst) (s := s)
  refine hkept ?_ depth type read hread
  intro lists _ hlists recipe hrecipe step hstep w
  exact Step.saved_run hlists (hkeeps recipe hrecipe step hstep) w

end Script

/-! ## The law -/

/-- Whatever steps the recipes have, a list of what they read is decoded by moves. From the grid it
stays on the grid, and its mappings are read back as the cells where its elements end. If no step
saves or restores a state, the list is balanced. -/
theorem lists_of_recipes_stay_on_the_grid (s : Script) (type : String) (count : Int) (w : Walk)
    (hw : w.OnGrid) :
    let run := s.decoder.decodeCount type count w
    run.walk.OnGrid ∧
    (∀ (i : Nat) (m : Mapping), run.mappings[i]? = some m →
      ∃ a, run.attempts[i]? = some a ∧ Cell.ofReference m.cell = .ok a.exit.cursor) ∧
    ((∀ recipe ∈ s.recipes, ∀ step ∈ recipe.2, step.keepsSaved = true) → run.Balanced w) := by
  intro run
  have htraced : run.Traced s.navigator w :=
    s.decoder.traced_decodeCount type count w (Script.onlyMoves_readers _ type)
  refine ⟨htraced.walk.onGrid hw, fun i m hm => htraced.exists_attempt hw hm, ?_⟩
  intro hkeeps
  exact s.decoder.balanced_decodeCount type count w (Script.disciplined_readers hkeeps _ type)

end GridTemplate
