-- Lists of unknown length. Such a list has the elements that can be read in their layers, up to the
-- first that cannot, and what it gives and where it leaves the walk is said by the layers alone.
import GridTemplate.Proofs.Sequence.Elements

namespace GridTemplate

namespace Layout

variable {V N : Type} (l : Layout V N)

/-! ## The two ends -/

/-- The attempts that are made at the end: one, if the layer there starts on the grid. -/
def lastAttempts (i : Nat) : List (Attempt V N) := if l.HasLayer i then [l.attempt i] else []

/-- Where the walk stands at the end. -/
def lastWalk (i : Nat) : Walk := if l.HasLayer i then l.walkAt i else l.walkAt (i - 1)

theorem saved_lastWalk (i : Nat) : (l.lastWalk i).saved = l.entry.saved := by
  unfold lastWalk
  split
  · exact l.saved_walkAt i
  · exact l.saved_walkAt (i - 1)

section

variable (limit i : Nat)

@[simp] theorem outcome_refused : (l.refused .unbounded i).outcome = .ok [] := by
  unfold refused
  split
  · rfl
  · rfl

@[simp] theorem mappings_refused : (l.refused .unbounded i).mappings = [] := by
  unfold refused
  split
  · rfl
  · rfl

@[simp] theorem attempts_refused : (l.refused .unbounded i).attempts = l.lastAttempts i := by
  unfold refused lastAttempts
  split
  · rfl
  · rfl

@[simp] theorem walk_refused : (l.refused .unbounded i).walk = l.lastWalk i := by
  unfold refused lastWalk
  split
  · rfl
  · rfl

@[simp] theorem outcome_probed :
    (l.probed limit i).outcome =
      if l.readable i = true then .error (.collectionTooLarge (limit + 1) limit) else .ok [] := by
  unfold probed readable
  by_cases hlayer : l.HasLayer i
  · by_cases hsucceeded : (l.attempt i).succeeded = true
    · simp [hlayer, hsucceeded, Run.failed]
    · simp [hlayer, hsucceeded, Run.ended]
  · simp [hlayer, Run.ended]

@[simp] theorem mappings_probed : (l.probed limit i).mappings = [] := by
  unfold probed
  split
  · split
    · rfl
    · rfl
  · rfl

@[simp] theorem attempts_probed : (l.probed limit i).attempts = l.lastAttempts i := by
  unfold probed lastAttempts
  split
  · split
    · rfl
    · rfl
  · rfl

@[simp] theorem walk_probed : (l.probed limit i).walk = l.lastWalk i := by
  unfold probed lastWalk
  split
  · split
    · rfl
    · rfl
  · rfl

end

/-! ## Counting the elements -/

variable (limit : Nat)

/-- How many elements can be read, up to the limit. -/
def readableCount : Nat := leading l.readable limit

/-- The layer that ends the list: the first that cannot be read, or at the limit the one that is
probed. -/
def lastLayer : Nat := if l.readableCount limit < limit then l.readableCount limit else max limit 1

theorem readableCount_le : l.readableCount limit ≤ limit := leading_le _ _

theorem value_of_not_readable {i : Nat} (h : l.readable i = false) (hlayer : l.HasLayer i) :
    (l.attempt i).reading.value = none := by
  unfold readable Attempt.succeeded at h
  simpa [hlayer] using h

theorem value_of_readable [Inhabited V] {i : Nat} (h : l.readable i = true) :
    l.HasLayer i ∧ (l.attempt i).reading.value = some (l.value i) := by
  unfold readable Attempt.succeeded at h
  rw [Bool.and_eq_true, decide_eq_true_eq] at h
  obtain ⟨hlayer, hsome⟩ := h
  obtain ⟨v, hv⟩ := Option.isSome_iff_exists.mp hsome
  exact ⟨hlayer, by rw [value, hv, Option.getD_some]⟩

/-! ## The run -/

variable [Inhabited V]

theorem run_unbounded :
    l.run .unbounded limit limit =
      l.elements (List.range (l.readableCount limit))
        (if l.readableCount limit < limit then l.refused .unbounded (l.readableCount limit)
        else l.probed limit (max limit 1)) := by
  rw [run, takes_unbounded]
  rfl

theorem outcome_run_unbounded :
    (l.run .unbounded limit limit).outcome =
      if l.readableCount limit = limit ∧ l.readable (max limit 1) = true then
        .error (.collectionTooLarge (limit + 1) limit)
      else .ok ((List.range (l.readableCount limit)).map l.value) := by
  rw [run_unbounded, outcome_elements]
  by_cases h : l.readableCount limit < limit
  · rw [if_pos h, if_neg (fun hc => Nat.ne_of_lt h hc.1), outcome_refused]
    simp [Except.map]
  · have heq : l.readableCount limit = limit :=
      Nat.le_antisymm (l.readableCount_le limit) (Nat.le_of_not_lt h)
    rw [if_neg h, outcome_probed]
    by_cases hp : l.readable (max limit 1) = true
    · rw [if_pos hp, if_pos ⟨heq, hp⟩]
      rfl
    · rw [if_neg hp, if_neg (fun hc => hp hc.2)]
      simp [Except.map]

theorem mappings_run_unbounded :
    (l.run .unbounded limit limit).mappings =
      (List.range (l.readableCount limit)).map l.mapping := by
  rw [run_unbounded, mappings_elements]
  split
  · simp
  · simp

theorem attempts_run_unbounded :
    (l.run .unbounded limit limit).attempts =
      (List.range (l.readableCount limit)).map l.attempt ++ l.lastAttempts (l.lastLayer limit) := by
  rw [run_unbounded, attempts_elements, lastLayer]
  split
  · simp
  · simp

theorem walk_run_unbounded :
    (l.run .unbounded limit limit).walk = l.lastWalk (l.lastLayer limit) := by
  rw [run_unbounded, walk_elements, lastLayer]
  split
  · simp
  · simp

end Layout

theorem Decoder.decode_unbounded {V N : Type} [Inhabited V] (d : Decoder V N) {type : String}
    {read : Reader V N} (hread : d.readers type = some read) (hdisc : read.Disciplined) (w : Walk) :
    d.decode type .unbounded w =
      (Layout.run ⟨d.navigator, read, w⟩ .unbounded d.limit d.limit).withLog
        [.decodeStarted .unbounded w.cursor] :=
  Layout.decode_eq_run hread hdisc rfl w

/-! ## The law -/

/-- A list of unknown length has the elements of the first layers, as far as each starts on the
grid and can be read and the limit allows. It is too long if the limit is reached and one layer more
can be read. Either way each element is mapped to the cell where its reading ended, one further
attempt is made if there is a layer for it, and nothing that was saved is lost. -/
theorem an_unbounded_list_is_its_readable_layers {V N : Type} [Inhabited V] (d : Decoder V N)
    (type : String) (read : Reader V N) (w : Walk) (hread : d.readers type = some read)
    (hdisc : read.Disciplined) :
    let l : Layout V N := ⟨d.navigator, read, w⟩
    let k := l.readableCount d.limit
    let run := d.decode type .unbounded w
    (k ≤ d.limit ∧ (∀ i < k, l.HasLayer i ∧ (l.attempt i).reading.value = some (l.value i)) ∧
      (k < d.limit → l.HasLayer k → (l.attempt k).reading.value = none)) ∧
    run.outcome =
      (if k = d.limit ∧ l.readable (max d.limit 1) = true then
        .error (.collectionTooLarge (d.limit + 1) d.limit)
      else .ok ((List.range k).map l.value)) ∧
    run.mappings =
      (List.range k).map (fun i => ⟨indexPath i, (l.attempt i).exit.cursor.reference⟩) ∧
    run.attempts = (List.range k).map l.attempt ++ l.lastAttempts (l.lastLayer d.limit) ∧
    run.walk = l.lastWalk (l.lastLayer d.limit) ∧
    run.walk.saved = w.saved := by
  intro l k run
  have hrun : run = _ := d.decode_unbounded hread hdisc w
  rw [hrun]
  refine ⟨⟨l.readableCount_le _, ?_, ?_⟩, ?_, ?_, ?_, ?_, ?_⟩
  · intro i hi
    exact l.value_of_readable (leading_holds hi)
  · intro hk hlayer
    exact l.value_of_not_readable (leading_fails hk) hlayer
  · exact l.outcome_run_unbounded d.limit
  · exact l.mappings_run_unbounded d.limit
  · exact l.attempts_run_unbounded d.limit
  · exact l.walk_run_unbounded d.limit
  · rw [Run.walk_withLog, l.walk_run_unbounded]
    exact l.saved_lastWalk _

/-- Reads the numbers of rows, but not beyond a last one. It leaves the cursor a column further to
the right. -/
def Reader.rowsTo (last : Nat) : Reader Nat Unit := fun w =>
  ⟨if w.cursor.row ≤ last then some w.cursor.row else none,
    { w with state := { w.state with cursor := ⟨w.cursor.row, w.cursor.column + 1⟩ } }, [], ()⟩

/-- Of three rows that can be read, a list of at most two is too long. Both elements are mapped all
the same, and the walk is left at the third. -/
theorem three_rows_are_too_long_for_two :
    let d : Decoder Nat Unit := ⟨.single .rows, fun _ => some (.rowsTo 3), 2⟩
    let w : Walk := ⟨State.start ⟨1, 1⟩, [State.start ⟨7, 7⟩]⟩
    d.readers "row" = some (.rowsTo 3) ∧ (Reader.rowsTo 3).Disciplined ∧
    (d.decode "row" .unbounded w).outcome = .error (.collectionTooLarge 3 2) ∧
    (d.decode "row" .unbounded w).mappings = [⟨"[0]", "B1"⟩, ⟨"[1]", "B2"⟩] ∧
    (d.decode "row" .unbounded w).walk = ⟨State.start ⟨3, 1⟩, [State.start ⟨7, 7⟩]⟩ := by
  intro d w
  have hdisc : (Reader.rowsTo 3).Disciplined := fun _ => rfl
  obtain ⟨_, houtcome, hmappings, _, hwalk, _⟩ :=
    an_unbounded_list_is_its_readable_layers d "row" (.rowsTo 3) w rfl hdisc
  refine ⟨rfl, hdisc, ?_, ?_, ?_⟩
  · rw [houtcome]
    rfl
  · have hB : columnLetters 2 = ['B'] := columnLetters_succ_of_lt (n := 1) (by decide)
    rw [hmappings]
    change [Mapping.mk (indexPath 0) (Cell.reference ⟨1, 2⟩),
      Mapping.mk (indexPath 1) (Cell.reference ⟨2, 2⟩)] = _
    simp only [Cell.reference, hB]
    rfl
  · rw [hwalk]
    rfl

end GridTemplate
