-- The cells that elements are mapped to. If readers only make moves, then decoding a list is a
-- sequence of moves too. It stays on the grid, and each mapping names the cell where the reading of
-- its element ended.
import GridTemplate.Proofs.Cell.References
import GridTemplate.Proofs.Walk.Moves
import GridTemplate.Sequence.Decode

namespace GridTemplate

variable {V N : Type}

/-- All that the reader does to a walk is to make moves, some of which may fail. -/
def Reader.OnlyMoves (nav : Navigator) (read : Reader V N) : Prop :=
  ∀ w : Walk, w.Reaches nav (read w).walk

/-- Moves lead from the entry to the walk after the run and to the end of each attempt, and the
mapped cells are where the first of the attempts end. -/
structure Run.Traced (nav : Navigator) (entry : Walk) (run : Run V N) : Prop where
  walk : entry.Reaches nav run.walk
  exits : ∀ a ∈ run.attempts, entry.Reaches nav a.exit
  cells : run.mappings.map Mapping.cell <+: run.attempts.map fun a => a.exit.cursor.reference

variable {nav : Navigator} {entry w : Walk}

theorem Attempt.reaches_exit {read : Reader V N} (hread : read.OnlyMoves nav)
    (hw : entry.Reaches nav w) : entry.Reaches nav (Attempt.make read w).exit := by
  have hpush : entry.Reaches nav w.push := hw.move (m := .push) rfl
  exact hpush.trans (hread w.push)

namespace Run

/-! ## The parts of a run -/

theorem traced_ended (log : List Record) (hw : entry.Reaches nav w) :
    (ended w log : Run V N).Traced nav entry where
  walk := hw
  exits := by simp [ended]
  cells := List.nil_prefix

theorem traced_failed (e : Error) (log : List Record) (hw : entry.Reaches nav w) :
    (failed e w log : Run V N).Traced nav entry where
  walk := hw
  exits := by simp [failed]
  cells := List.nil_prefix

theorem Traced.withLog {run : Run V N} (h : run.Traced nav entry) (records : List Record) :
    (run.withLog records).Traced nav entry where
  walk := h.walk
  exits := h.exits
  cells := h.cells

/-- An attempt without a mapping comes after all those with one. -/
theorem Traced.withAttempt {run : Run V N} {attempt : Attempt V N} (h : run.Traced nav entry)
    (hexit : entry.Reaches nav attempt.exit) (hunmapped : run.mappings = []) :
    (run.withAttempt attempt).Traced nav entry where
  walk := h.walk
  exits := List.forall_mem_cons.mpr ⟨hexit, h.exits⟩
  cells := by simp [hunmapped]

/-- An attempt and its mapping come before all others. -/
theorem Traced.withElement {run : Run V N} {attempt : Attempt V N} (h : run.Traced nav entry)
    (hexit : entry.Reaches nav attempt.exit) (value : V) (path : String) (records : List Record) :
    (((run.withElement value ⟨path, attempt.exit.cursor.reference⟩).withLog records).withAttempt
      attempt).Traced nav entry where
  walk := h.walk
  exits := List.forall_mem_cons.mpr ⟨hexit, h.exits⟩
  cells := (List.prefix_cons_inj _).mpr h.cells

theorem mappings_following_nil (attempt : Attempt V N) {next : Walk → Run V N}
    (h : ∀ u, (next u).mappings = []) : (following attempt next).mappings = [] := by
  unfold following
  split
  · rfl
  · exact h _

theorem traced_following {attempt : Attempt V N} {next : Walk → Run V N}
    (hexit : entry.Reaches nav attempt.exit)
    (hnext : ∀ u, entry.Reaches nav u → (next u).Traced nav entry) :
    (following attempt next).Traced nav entry := by
  unfold following
  split
  · exact traced_failed _ _ hexit
  · rename_i u hu
    exact hnext u (hexit.move (m := .pop) hu)

end Run

/-! ## The whole list -/

namespace Decoder

theorem traced_stopped {attempt : Attempt V N} (hexit : entry.Reaches nav attempt.exit)
    (index : Nat) : (stopped attempt index).Traced nav entry := by
  unfold stopped
  apply Run.Traced.withAttempt _ hexit
  · exact Run.mappings_following_nil attempt fun _ => rfl
  · exact Run.traced_following hexit fun u hu => Run.traced_ended _ hu

theorem traced_probed {attempt : Attempt V N} (hexit : entry.Reaches nav attempt.exit)
    (limit : Nat) : (probed attempt limit).Traced nav entry := by
  unfold probed
  apply Run.Traced.withAttempt _ hexit
  · apply Run.mappings_following_nil attempt
    intro u
    split
    · rfl
    · rfl
  · apply Run.traced_following hexit
    intro u hu
    split
    · exact Run.traced_failed _ _ hu
    · exact Run.traced_ended _ hu

theorem reaches_nextLayer {u : Walk} (hw : entry.Reaches nav w) (h : w.nextLayer nav = .ok u) :
    entry.Reaches nav u := hw.move (m := .layer) h

theorem reaches_enterLayer {index : Nat} {u : Walk} (hw : entry.Reaches nav w)
    (h : enterLayer nav index w = .ok u) : entry.Reaches nav u := by
  unfold enterLayer at h
  split at h
  · cases h
    exact hw
  · exact reaches_nextLayer hw h

variable {read : Reader V N}

theorem traced_probe (hread : read.OnlyMoves nav) (limit : Nat) (hw : entry.Reaches nav w) :
    (probe nav read limit w).Traced nav entry := by
  unfold probe
  split
  · exact Run.traced_ended _ hw
  · rename_i u hu
    exact traced_probed (Attempt.reaches_exit hread (reaches_nextLayer hw hu)) limit

variable [Inhabited V]

theorem traced_element {attempt : Attempt V N} (hexit : entry.Reaches nav attempt.exit)
    (index : Nat) {next : Walk → Run V N}
    (hnext : ∀ u, entry.Reaches nav u → (next u).Traced nav entry) :
    (element attempt index next).Traced nav entry := by
  unfold element
  exact (Run.traced_following hexit hnext).withElement hexit _ _ _

/-- By induction on how many elements may still be read. The steps of the loop are moves themselves:
to the next layer, to save the state before an attempt and to restore it afterwards. -/
theorem traced_decodeFrom (hread : read.OnlyMoves nav) (length : SequenceLength)
    (limit remaining index : Nat) (hw : entry.Reaches nav w) :
    (decodeFrom nav read length limit remaining index w).Traced nav entry := by
  induction remaining generalizing index w with
  | zero =>
    unfold decodeFrom
    cases length with
    | exact n => exact Run.traced_ended _ hw
    | unbounded => exact traced_probe hread limit hw
  | succ remaining ih =>
    unfold decodeFrom
    split
    · cases length with
      | exact n => exact Run.traced_failed _ _ hw
      | unbounded => exact Run.traced_ended _ hw
    · rename_i u hu
      have hexit := Attempt.reaches_exit hread (reaches_enterLayer hw hu)
      dsimp only
      split
      · exact traced_stopped hexit index
      · exact traced_element hexit index fun restored hrestored => ih (index + 1) hrestored

theorem traced_decode (d : Decoder V N) (type : String) (length : SequenceLength) (w : Walk)
    (h : ∀ read, d.readers type = some read → read.OnlyMoves d.navigator) :
    (d.decode type length w).Traced d.navigator w := by
  have hrefl := Walk.Reaches.refl d.navigator w
  unfold decode
  split
  · exact Run.traced_failed _ _ hrefl
  · split
    · exact Run.traced_failed _ _ hrefl
    · rename_i read hread
      exact (traced_decodeFrom (h read hread) _ _ _ _ hrefl).withLog _

theorem traced_decodeCount (d : Decoder V N) (type : String) (count : Int) (w : Walk)
    (h : ∀ read, d.readers type = some read → read.OnlyMoves d.navigator) :
    (d.decodeCount type count w).Traced d.navigator w := by
  unfold decodeCount
  split
  · exact Run.traced_failed _ _ (Walk.Reaches.refl d.navigator w)
  · exact d.traced_decode type _ w h

end Decoder

/-- From an entry on the grid, the cell of each mapping is read back as the cursor that it was taken
from. -/
theorem Run.Traced.exists_attempt {run : Run V N} (h : run.Traced nav entry) (hentry : entry.OnGrid)
    {i : Nat} {m : Mapping} (hm : run.mappings[i]? = some m) :
    ∃ a, run.attempts[i]? = some a ∧ Cell.ofReference m.cell = .ok a.exit.cursor := by
  obtain ⟨rest, hcells⟩ := h.cells
  have hcell : (run.mappings.map Mapping.cell)[i]? = some m.cell := by
    rw [List.getElem?_map, hm, Option.map_some]
  have hattempt : (run.attempts.map fun a => a.exit.cursor.reference)[i]? = some m.cell := by
    obtain ⟨hlt, -⟩ := List.getElem?_eq_some_iff.mp hcell
    rw [← hcells, List.getElem?_append_left hlt]
    exact hcell
  rw [List.getElem?_map, Option.map_eq_some_iff] at hattempt
  obtain ⟨a, ha, hreference⟩ := hattempt
  have hgrid := (h.exits a (List.mem_of_getElem? ha)).onGrid hentry
  refine ⟨a, ha, ?_⟩
  rw [← hreference]
  exact Cell.ofReference_reference hgrid.1.2

/-! ## The law -/

/-- Whatever moves a walk makes after it has started, it stays on the grid with all that it has
saved. A move that fails changes nothing, neither at once nor for the moves after it, and the state
at a save comes back as soon as the moves after it have restored what they saved. If readers only
make moves, so does a list of what they read, and the cells that it is mapped to are read back as
the cells where its elements end. -/
theorem a_walk_stays_on_the_grid (nav : Navigator) (origin : Cell) (start : Walk)
    (hstart : Walk.start origin = .ok start) :
    (∀ ms, (start.tryMoves nav ms).OnGrid) ∧
    (∀ ms m e left, Walk.perform nav m (start.tryMoves nav ms) = .error e left →
      left = start.tryMoves nav ms ∧
      ∀ more, start.tryMoves nav (ms ++ m :: more) = start.tryMoves nav (ms ++ more)) ∧
    (∀ ms inner, let w := start.tryMoves nav ms
      w.push.StaysAbove nav w.depth inner →
      (w.push.tryMoves nav inner).depth = w.push.depth →
      (w.push.tryMoves nav inner).pop = .ok w) ∧
    ∀ (V N : Type) [Inhabited V] (readers : String → Option (Reader V N)) (maxLength : Nat)
      (type : String) (length : SequenceLength) (ms : List Move),
      (∀ read, readers type = some read → read.OnlyMoves nav) →
      let d : Decoder V N := ⟨nav, readers, maxLength⟩
      let w := start.tryMoves nav ms
      let run := d.decode type length w
      w.Reaches nav run.walk ∧
      ∀ (i : Nat) (m : Mapping), run.mappings[i]? = some m →
        ∃ a : Attempt V N, run.attempts[i]? = some a ∧
          Cell.ofReference m.cell = .ok a.exit.cursor := by
  have hgrid : ∀ ms, (start.tryMoves nav ms).OnGrid :=
    Walk.onGrid_tryMoves (Walk.onGrid_start hstart)
  refine ⟨hgrid, ?_, ?_, ?_⟩
  · intro ms m e left h
    obtain ⟨hmove, hleft⟩ := Walk.move_of_perform_error h
    exact ⟨hleft, Walk.tryMoves_of_error hmove⟩
  · intro ms inner w habove hdepth
    exact Walk.pop_tryMoves_push habove hdepth
  · intro V N _ readers maxLength type length ms hreaders d w run
    have htraced := d.traced_decode type length w hreaders
    exact ⟨htraced.walk, fun i m hm => htraced.exists_attempt (hgrid ms) hm⟩

/-- Reads the number of the row and then moves the cursor to the right. -/
def Reader.rowThenRight : Reader Nat Unit := fun w =>
  ⟨some w.cursor.row, w.tryMove (.single .rows) (.right 2), [], ()⟩

/-- The walk starts in the last row but one, so one layer follows and no second one. What is saved
there comes back after a few moves, and a list of two elements is mapped to the rows that are
left. -/
theorem a_walk_in_the_last_rows_stays_on_the_grid :
    let nav := Navigator.single .rows
    let start : Walk := ⟨State.start ⟨1048575, 3⟩, []⟩
    let inner : List Move := [.right 2, .push, .down 9, .pop, .layer]
    let d : Decoder Nat Unit := ⟨nav, fun _ => some .rowThenRight, 10⟩
    let run := d.decode "row" (.exact 2) start
    Walk.start ⟨1048575, 3⟩ = .ok start ∧
    (start.tryMoves nav [.layer]).OnGrid ∧
    Walk.perform nav .layer (start.tryMoves nav [.layer]) =
      .error (.grid (.rowOutOfBounds 1048577)) (start.tryMoves nav [.layer]) ∧
    start.tryMoves nav [.layer, .layer, .right 1] = start.tryMoves nav [.layer, .right 1] ∧
    start.push.StaysAbove nav start.depth inner ∧
    (start.push.tryMoves nav inner).pop = .ok start ∧
    run.mappings[1]? = some ⟨"[1]", (⟨1048576, 5⟩ : Cell).reference⟩ ∧
    ∃ a : Attempt Nat Unit, run.attempts[1]? = some a ∧
      Cell.ofReference (⟨1048576, 5⟩ : Cell).reference = .ok a.exit.cursor := by
  intro nav start inner d run
  have hstart : Walk.start ⟨1048575, 3⟩ = .ok start := rfl
  have hfails : Walk.perform nav .layer (start.tryMoves nav [.layer]) =
      .error (.grid (.rowOutOfBounds 1048577)) (start.tryMoves nav [.layer]) := rfl
  have habove : start.push.StaysAbove nav start.depth inner := by decide
  have hmapped : run.mappings[1]? = some ⟨"[1]", (⟨1048576, 5⟩ : Cell).reference⟩ := rfl
  have hmoves : ∀ read, (fun _ : String => some Reader.rowThenRight) "row" = some read →
      read.OnlyMoves nav := by
    intro read h
    cases h
    exact fun w => ⟨[.right 2], rfl⟩
  obtain ⟨hgrid, hunchanged, hrestored, hcells⟩ := a_walk_stays_on_the_grid nav _ start hstart
  exact ⟨hstart, hgrid _, hfails, (hunchanged _ _ _ _ hfails).2 [.right 1], habove,
    hrestored [] inner habove rfl, hmapped,
    (hcells Nat Unit _ 10 "row" (.exact 2) [] hmoves).2 1 _ hmapped⟩

end GridTemplate
