-- Lists of known length. Whether such a list can be read is a matter of the grid alone: each of its
-- elements must have a layer there, and what is in the layers decides only between the values of
-- elements and their replacement.
import GridTemplate.Proofs.Sequence.Elements
import GridTemplate.Proofs.Walk.Reachable

namespace GridTemplate

namespace Layout

variable {V N : Type} (l : Layout V N)

/-! ## Counting the layers -/

/-- How many of the first layers start on the grid. -/
def layerCount (n : Nat) : Nat := leading (fun i => decide (l.HasLayer i)) n

theorem hasLayer_of_lt_layerCount {n i : Nat} (h : i < l.layerCount n) : l.HasLayer i :=
  of_decide_eq_true (leading_holds h)

theorem onGrid_of_lt_layerCount (ho : l.entry.origin.OnGrid) {n i : Nat}
    (h : i < l.layerCount n) : (l.navigator.layerCell l.entry.origin i).OnGrid := by
  rcases l.hasLayer_of_lt_layerCount h with rfl | hgrid
  · rw [Navigator.layerCell_zero]
    exact ho
  · exact hgrid

theorem not_hasLayer_layerCount {n : Nat} (h : l.layerCount n < n) :
    ¬ l.HasLayer (l.layerCount n) := of_decide_eq_false (leading_fails h)

theorem pos_of_not_hasLayer {i : Nat} (h : ¬ l.HasLayer i) : 0 < i := by
  rcases Nat.eq_zero_or_pos i with hi | hi
  · exact absurd (Or.inl hi) h
  · exact hi

theorem layerCount_eq {n : Nat} (h : l.HasLayer (n - 1)) : l.layerCount n = n := by
  apply leading_eq (Nat.le_refl n)
  · intro i hi
    exact decide_eq_true (l.hasLayer_mono (by omega) h)
  · intro hn
    exact absurd hn (Nat.lt_irrefl n)

theorem layerCount_lt {n : Nat} (h : ¬ l.HasLayer (n - 1)) : l.layerCount n < n := by
  have hpos := l.pos_of_not_hasLayer h
  rcases Nat.lt_or_eq_of_le (leading_le (fun i => decide (l.HasLayer i)) n) with hlt | heq
  · exact hlt
  · have hlast : n - 1 < l.layerCount n := by
      unfold layerCount
      omega
    exact absurd (l.hasLayer_of_lt_layerCount hlast) h

theorem fault_eq {i : Nat} (ho : l.entry.origin.OnGrid) (h : ¬ l.HasLayer i) :
    l.fault i = .grid (l.navigator.layerFault l.entry.origin i) := by
  have hoff : ¬ (l.navigator.layerCell l.entry.origin i).OnGrid := fun hc => h (Or.inr hc)
  rw [fault, Navigator.outOfBounds_layerCell ho hoff]

/-! ## The run -/

variable [Inhabited V] (limit : Nat) {n : Nat}

theorem run_exact_of_hasLayer (h : l.HasLayer (n - 1)) :
    l.run (.exact n) limit n =
      l.elements (List.range n) (.ended (l.walkAt (n - 1)) []) := by
  have hcount := l.layerCount_eq h
  unfold layerCount at hcount
  rw [run, takes_exact, hcount, if_neg (Nat.lt_irrefl n)]
  rfl

theorem run_exact_of_not_hasLayer (h : ¬ l.HasLayer (n - 1)) :
    l.run (.exact n) limit n =
      l.elements (List.range (l.layerCount n))
        (.failed (l.fault (l.layerCount n)) (l.walkAt (l.layerCount n - 1)) []) := by
  have hlt := l.layerCount_lt h
  have hoff := l.not_hasLayer_layerCount hlt
  unfold layerCount at hlt hoff ⊢
  rw [run, takes_exact, if_pos hlt, refused, if_neg hoff]

theorem outcome_run_exact_ok_iff :
    (∃ vs, (l.run (.exact n) limit n).outcome = .ok vs) ↔ l.HasLayer (n - 1) := by
  constructor
  · rintro ⟨vs, hvs⟩
    by_cases h : l.HasLayer (n - 1)
    · exact h
    · rw [l.run_exact_of_not_hasLayer limit h, outcome_elements] at hvs
      cases hvs
  · intro h
    rw [l.run_exact_of_hasLayer limit h, outcome_elements]
    exact ⟨_, rfl⟩

end Layout

namespace Decoder

variable {V N : Type} [Inhabited V] (d : Decoder V N)

theorem decode_exact_of_lt {n : Nat} (h : d.limit < n) (type : String) (w : Walk) :
    d.decode type (.exact n) w = .failed (.collectionTooLarge n d.limit) w [] := by
  have hbound : elementBound d.limit (.exact n) = .error (.collectionTooLarge n d.limit) :=
    if_pos h
  unfold decode
  rw [hbound]

theorem decode_exact_of_le {n : Nat} (h : n ≤ d.limit) {type : String} {read : Reader V N}
    (hread : d.readers type = some read) (hdisc : read.Disciplined) (w : Walk) :
    d.decode type (.exact n) w =
      (Layout.run ⟨d.navigator, read, w⟩ (.exact n) d.limit n).withLog
        [.decodeStarted (.exact n) w.cursor] := by
  apply Layout.decode_eq_run hread hdisc
  exact if_neg (Nat.not_lt_of_le h)

end Decoder

/-! ## The law -/

/-- A list of known length, within the limit, is read if the layer of its last element starts on
the grid. Every element is then attempted once, and one that cannot be read is replaced and mapped
all the same. Otherwise the list fails at the first layer off the grid, with everything before it
attempted and mapped. Beyond the limit nothing is done at all. -/
theorem an_exact_list_depends_on_the_grid_alone {V N : Type} [Inhabited V] (d : Decoder V N)
    (type : String) (read : Reader V N) (w : Walk) (n : Nat)
    (hread : d.readers type = some read) (hdisc : read.Disciplined)
    (hw : w.Reachable d.navigator) :
    let l : Layout V N := ⟨d.navigator, read, w⟩
    let run := d.decode type (.exact n) w
    let fits := n ≤ 1 ∨ (d.navigator.layerCell w.origin (n - 1)).OnGrid
    (n ≤ d.limit → ((∃ vs, run.outcome = .ok vs) ↔ fits)) ∧
    (n ≤ d.limit → fits →
      run.outcome =
        .ok ((List.range n).map fun i => (l.attempt i).reading.value.getD default) ∧
      run.mappings =
        (List.range n).map (fun i => ⟨indexPath i, (l.attempt i).exit.cursor.reference⟩) ∧
      run.attempts = (List.range n).map l.attempt ∧
      run.walk = l.walkAt (n - 1)) ∧
    (n ≤ d.limit → ¬ fits →
      ∃ m, 0 < m ∧ m < n ∧ ¬ (d.navigator.layerCell w.origin m).OnGrid ∧
        (∀ i < m, (d.navigator.layerCell w.origin i).OnGrid) ∧
        run.outcome = .error (.grid (d.navigator.layerFault w.origin m)) ∧
        run.mappings =
          (List.range m).map (fun i => ⟨indexPath i, (l.attempt i).exit.cursor.reference⟩) ∧
        run.attempts = (List.range m).map l.attempt ∧
        run.walk = l.walkAt (m - 1)) ∧
    (d.limit < n → run = .failed (.collectionTooLarge n d.limit) w []) ∧
    run.walk.saved = w.saved := by
  intro l run fits
  have ho : w.origin.OnGrid := hw.onGrid.1.1
  have hfits : fits ↔ l.HasLayer (n - 1) := by
    have hone : n ≤ 1 ↔ n - 1 = 0 := by omega
    exact or_congr_left hone
  refine ⟨?_, ?_, ?_, ?_, ?_⟩
  · intro hn
    have hrun : run = _ := d.decode_exact_of_le hn hread hdisc w
    rw [hfits, hrun, Run.outcome_withLog]
    exact l.outcome_run_exact_ok_iff d.limit
  · intro hn h
    have hrun : run = _ := d.decode_exact_of_le hn hread hdisc w
    rw [hrun, l.run_exact_of_hasLayer _ (hfits.mp h)]
    refine ⟨?_, ?_, ?_, ?_⟩
    · simp [Run.ended, Except.map, Layout.value]
    · simp [Run.ended, Layout.mapping]
    · simp [Run.ended]
    · simp [Run.ended]
  · intro hn h
    have hlast : ¬ l.HasLayer (n - 1) := mt hfits.mpr h
    have hlt := l.layerCount_lt hlast
    have hoff := l.not_hasLayer_layerCount hlt
    have hrun : run = _ := d.decode_exact_of_le hn hread hdisc w
    rw [hrun, l.run_exact_of_not_hasLayer _ hlast, l.fault_eq ho hoff]
    refine ⟨l.layerCount n, l.pos_of_not_hasLayer hoff, hlt, fun hc => hoff (Or.inr hc), ?_, ?_⟩
    · intro i hi
      exact l.onGrid_of_lt_layerCount ho hi
    · refine ⟨?_, ?_, ?_, ?_⟩
      · simp [Run.failed, Except.map]
        rfl
      · simp [Run.failed, Layout.mapping]
      · simp [Run.failed]
      · simp [Run.failed]
  · intro hn
    exact d.decode_exact_of_lt hn type w
  · apply (d.balanced_decode type (.exact n) w ?_).saved
    intro r hr
    rw [hread] at hr
    cases hr
    exact hdisc

/-- Reads the numbers of odd rows and leaves the cursor a column further to the right. -/
def Reader.oddRows : Reader Nat Unit := fun w =>
  ⟨if w.cursor.row % 2 = 1 then some w.cursor.row else none,
    { w with state := { w.state with cursor := ⟨w.cursor.row, w.cursor.column + 1⟩ } }, [], ()⟩

/-- There are two rows left for three elements. The second of them cannot be read and is mapped all
the same; the third one fails the list with the row that it would have. -/
theorem three_rows_do_not_fit_in_the_last_two :
    let d : Decoder Nat Unit := ⟨.single .rows, fun _ => some .oddRows, 10⟩
    let w : Walk := ⟨State.start ⟨1048575, 1⟩, []⟩
    d.readers "row" = some .oddRows ∧ Reader.oddRows.Disciplined ∧ w.Reachable d.navigator ∧
    (d.decode "row" (.exact 3) w).outcome = .error (.grid (.rowOutOfBounds 1048577)) ∧
    (d.decode "row" (.exact 3) w).mappings = [⟨"[0]", "B1048575"⟩, ⟨"[1]", "B1048576"⟩] ∧
    (d.decode "row" (.exact 3) w).walk = ⟨State.start ⟨1048576, 1⟩, []⟩ := by
  intro d w
  have hdisc : Reader.oddRows.Disciplined := fun _ => rfl
  have hstart : Walk.start ⟨1048575, 1⟩ = .ok w := rfl
  have hreach : w.Reachable d.navigator := .start hstart
  obtain ⟨_, _, hfails, _, _⟩ :=
    an_exact_list_depends_on_the_grid_alone d "row" .oddRows w 3 rfl hdisc hreach
  obtain ⟨m, hpos, hlt, hoff, _, houtcome, hmappings, _, hwalk⟩ := hfails (by decide) (by decide)
  have hm : m = 2 := by
    rcases Nat.lt_or_eq_of_le hpos with h | h
    · omega
    · subst h
      exact absurd (by decide) hoff
  subst hm
  refine ⟨rfl, hdisc, hreach, ?_, ?_, ?_⟩
  · rw [houtcome]
    rfl
  · have hB : columnLetters 2 = ['B'] := columnLetters_succ_of_lt (n := 1) (by decide)
    rw [hmappings]
    change [Mapping.mk (indexPath 0) (Cell.reference ⟨1048575, 2⟩),
      Mapping.mk (indexPath 1) (Cell.reference ⟨1048576, 2⟩)] = _
    simp only [Cell.reference, hB]
    rfl
  · rw [hwalk]
    rfl

end GridTemplate
