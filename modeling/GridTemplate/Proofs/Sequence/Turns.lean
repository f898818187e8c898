-- Lists read by a loop that has no last index. It ends all the same, whatever a reader does and
-- however far the layers are from each other, because each turn counts the index on until the length
-- or the limit is reached. It gives what decoding gives, so the attempts and the elements of a list
-- are bounded, and the indices of its elements are counted from zero without a gap.
import GridTemplate.Proofs.FieldMap.Stems
import GridTemplate.Proofs.Sequence.Indices
import GridTemplate.Proofs.Sequence.Modes
import GridTemplate.Sequence.Turns

namespace GridTemplate

variable {V N T : Type}

/-! ## The loop -/

namespace Progress

theorem finish_start (w : Walk) (log : List Record) (run : Run V N) :
    (start w log).finish run = run.withLog log := by
  have houtcome : run.outcome = run.outcome.map ([] ++ ·) := (Run.startsWith_self run).outcome
  rw [finish, start, ← houtcome]
  rfl

/-- An element and what comes after it, or an element that is there already and then the rest. -/
theorem finish_element [Inhabited V] (p : Progress V N) (attempt : Attempt V N)
    (next : Walk → Run V N) (u : Walk) :
    p.finish (Decoder.element attempt p.index next) =
      (p.add attempt u).finish (Run.following attempt next) := by
  unfold finish add Decoder.element
  cases h : (Run.following attempt next).outcome <;> simp [h, Except.map]

end Progress

/-! ## The loop ends -/

namespace Decoder

variable [LayerRule T] [Inhabited V]

theorem elementBound_cases {limit bound : Nat} {length : SequenceLength}
    (h : elementBound limit length = .ok bound) :
    length = .exact bound ∨ length = .unbounded ∧ bound = limit := by
  unfold elementBound at h
  split at h
  · split at h
    · cases h
    · cases h
      exact Or.inl rfl
  · cases h
    exact Or.inr ⟨rfl, rfl⟩

theorem isReached_iff {limit bound : Nat} {length : SequenceLength}
    (h : elementBound limit length = .ok bound) (index : Nat) :
    length.isReached limit index = true ↔ bound ≤ index := by
  rcases elementBound_cases h with rfl | ⟨rfl, rfl⟩
  · exact decide_eq_true_iff
  · exact decide_eq_true_iff

/-- A turn ends the loop with what decoding gives from there, or it takes one element of it and leaves
the rest to the next turn. -/
theorem turn_eq (nav : T) (read : Reader V N) {length : SequenceLength} {limit bound : Nat}
    (hbound : elementBound limit length = .ok bound) (p : Progress V N) {remaining : Nat}
    (hp : p.index + remaining = bound) :
    let run := p.finish (decodeFrom nav read length limit remaining p.index p.walk)
    turn nav read length limit p = .inr run ∨
      ∃ next left, turn nav read length limit p = .inl next ∧ next.index = p.index + 1 ∧
        remaining = left + 1 ∧
        run = next.finish (decodeFrom nav read length limit left next.index next.walk) := by
  have hreached := isReached_iff hbound p.index
  unfold turn
  cases remaining with
  | zero =>
    rw [if_pos (hreached.mpr (by omega))]
    cases length with
    | exact n => exact Or.inl rfl
    | unbounded => exact Or.inl rfl
  | succ remaining =>
    rw [if_neg (mt hreached.mp (by omega)), decodeFrom]
    cases enterLayer nav p.index p.walk with
    | error e =>
      cases length with
      | exact n => exact Or.inl rfl
      | unbounded => exact Or.inl rfl
    | ok walk =>
      dsimp only
      split
      · exact Or.inl rfl
      · -- the element is taken in any case, and the loop ends only if nothing is left saved
        rw [p.finish_element _ _ (Attempt.make read walk).exit, Run.following]
        cases (Attempt.make read walk).exit.pop with
        | error e => exact Or.inl rfl
        | ok restored => exact Or.inr ⟨_, remaining, rfl, rfl, rfl, rfl⟩

/-- The loop ends in one turn more than there are elements left to read. By induction on the turns,
each of which leaves one element less. -/
theorem loop_eq_some (nav : T) (read : Reader V N) {length : SequenceLength} {limit bound : Nat}
    (hbound : elementBound limit length = .ok bound) (p : Progress V N) {remaining turns : Nat}
    (hp : p.index + remaining = bound) (hturns : remaining < turns) :
    loop nav read length limit turns p =
      some (p.finish (decodeFrom nav read length limit remaining p.index p.walk)) := by
  induction turns generalizing p remaining with
  | zero => cases hturns
  | succ turns ih =>
    rcases turn_eq nav read hbound p hp with hends | ⟨next, left, hgoes, hindex, rfl, hrest⟩
    · rw [loop, hends]
    · rw [loop, hgoes, hrest]
      exact ih next (by omega) (by omega)

theorem decodeInTurns_eq (d : Decoder V N T) (type : String) (length : SequenceLength) (w : Walk)
    {turns : Nat} (hturns : d.limit < turns) :
    d.decodeInTurns turns type length w = some (d.decode type length w) := by
  unfold decodeInTurns decode
  cases hbound : elementBound d.limit length with
  | error e => rfl
  | ok bound =>
    cases d.readers type with
    | none => rfl
    | some read =>
      have hlast : bound < turns := Nat.lt_of_le_of_lt (elementBound_le hbound) hturns
      dsimp only
      rw [loop_eq_some _ read hbound _ (Nat.zero_add bound) hlast, Progress.finish_start]
      rfl

end Decoder

/-! ## Counting the attempts -/

/-- How many attempts there may be beyond the elements: one for a list of unknown length, which finds
out whether the list goes on. -/
def SequenceLength.extraAttempts : SequenceLength → Nat
  | .exact _ => 0
  | .unbounded => 1

/-- How many attempts there may be in all. -/
def SequenceLength.attemptBound (limit : Nat) : SequenceLength → Nat
  | .exact length => length
  | .unbounded => limit + 1

/-- There are so many attempts at most, and if there are values, then one for each mapping. -/
structure Run.Counted (run : Run V N) (most : Nat) : Prop where
  values : ∀ vs, run.outcome = .ok vs → vs.length = run.mappings.length
  attempts : run.attempts.length ≤ most

namespace Run

theorem counted_ended (w : Walk) (log : List Record) (most : Nat) :
    (ended w log : Run V N).Counted most where
  values := by
    rintro vs ⟨⟩
    rfl
  attempts := Nat.zero_le _

theorem counted_failed (e : Error) (w : Walk) (log : List Record) (most : Nat) :
    (failed e w log : Run V N).Counted most where
  values := by rintro vs ⟨⟩
  attempts := Nat.zero_le _

variable {run : Run V N} {most : Nat}

theorem Counted.mono (h : run.Counted most) {more : Nat} (hle : most ≤ more) : run.Counted more :=
  ⟨h.values, Nat.le_trans h.attempts hle⟩

theorem Counted.withLog (h : run.Counted most) (records : List Record) :
    (run.withLog records).Counted most :=
  ⟨h.values, h.attempts⟩

theorem Counted.withAttempt (h : run.Counted most) (attempt : Attempt V N) :
    (run.withAttempt attempt).Counted (most + 1) :=
  ⟨h.values, Nat.succ_le_succ h.attempts⟩

theorem Counted.withElement (h : run.Counted most) (value : V) (mapping : Mapping) :
    (run.withElement value mapping).Counted most where
  values := by
    intro vs hvs
    obtain ⟨rest, hrest, rfl⟩ := (run.outcome_withElement_eq_ok_iff value mapping vs).mp hvs
    exact congrArg (· + 1) (h.values rest hrest)
  attempts := h.attempts

theorem counted_following (attempt : Attempt V N) {next : Walk → Run V N}
    (h : ∀ u, (next u).Counted most) : (following attempt next).Counted most := by
  unfold following
  split
  · exact counted_failed _ _ _ _
  · exact h _

end Run

namespace Decoder

theorem counted_stopped (attempt : Attempt V N) (index : Nat) :
    (stopped attempt index).Counted 1 :=
  (Run.counted_following attempt fun _ => Run.counted_ended _ _ 0).withAttempt attempt

theorem counted_probed (attempt : Attempt V N) (limit : Nat) :
    (probed attempt limit).Counted 1 := by
  apply Run.Counted.withAttempt
  apply Run.counted_following
  intro u
  split
  · exact Run.counted_failed _ _ _ _
  · exact Run.counted_ended _ _ _

variable [LayerRule T]

theorem counted_probe (nav : T) (read : Reader V N) (limit : Nat) (w : Walk) :
    (probe nav read limit w).Counted 1 := by
  unfold probe
  split
  · exact Run.counted_ended _ _ _
  · exact counted_probed _ _

variable [Inhabited V]

theorem counted_element (attempt : Attempt V N) (index : Nat) {next : Walk → Run V N} {most : Nat}
    (h : ∀ u, (next u).Counted most) : (element attempt index next).Counted (most + 1) :=
  (((Run.counted_following attempt h).withElement _ _).withLog _).withAttempt attempt

/-- By induction on how many elements may still be read. -/
theorem counted_decodeFrom (nav : T) (read : Reader V N) (length : SequenceLength)
    (limit remaining index : Nat) (w : Walk) :
    (decodeFrom nav read length limit remaining index w).Counted
      (remaining + length.extraAttempts) := by
  induction remaining generalizing index w with
  | zero =>
    cases length with
    | exact n => exact Run.counted_ended _ _ _
    | unbounded => exact counted_probe _ _ _ _
  | succ remaining ih =>
    unfold decodeFrom
    split
    · cases length with
      | exact n => exact Run.counted_failed _ _ _ _
      | unbounded => exact Run.counted_ended _ _ _
    · dsimp only
      split
      · exact (counted_stopped _ _).mono (by omega)
      · rw [Nat.add_right_comm]
        exact counted_element _ _ fun u => ih (index + 1) u

theorem elementBound_add_extraAttempts {limit bound : Nat} {length : SequenceLength}
    (h : elementBound limit length = .ok bound) :
    bound + length.extraAttempts = length.attemptBound limit := by
  rcases elementBound_cases h with rfl | ⟨rfl, rfl⟩
  · rfl
  · rfl

theorem counted_decode (d : Decoder V N T) (type : String) (length : SequenceLength) (w : Walk) :
    (d.decode type length w).Counted (length.attemptBound d.limit) := by
  unfold decode
  split
  · exact Run.counted_failed _ _ _ _
  · rename_i bound hbound
    split
    · exact Run.counted_failed _ _ _ _
    · rw [← elementBound_add_extraAttempts hbound]
      exact (counted_decodeFrom _ _ _ _ _ _ _).withLog _

end Decoder

/-- Recorded one after the other, each mapping is found under its index. -/
theorem Run.Numbered.get?_recorded {run : Run V N} {bound i : Nat} {m : Mapping}
    (h : run.Numbered 0 bound) (hm : run.mappings[i]? = some m) :
    (FieldMap.empty.recordAll run.mappings).get? (indexPath i) = some m.cell := by
  obtain ⟨hpath, -⟩ := h.path_eq hm
  rw [← hpath]
  apply FieldMap.get?_of_first (i := i) hm
  intro j hj other hother hsame
  obtain ⟨hother, -⟩ := h.path_eq hother
  rw [hother, hpath] at hsame
  exact Nat.ne_of_lt hj (indexPath_injective hsame)

/-! ## The law -/

/-- A list is read by a loop without a last index. It ends for every reader, in one turn more than the
limit at most, after one attempt for each element of a known length at most, or one more than the limit
if the length is unknown. The elements that are mapped are numbered from zero without a gap, however it
ends, and if there is a result, they are those of the result. Once recorded, the cell of each is found
under its index. -/
theorem a_list_is_numbered_without_a_gap [LayerRule T] [Inhabited V] (d : Decoder V N T)
    (type : String) (length : SequenceLength) (w : Walk) :
    let limit := min d.maxLength 10000
    let run := d.decode type length w
    let recorded :=
      run.mappings.foldl (fun m entry => m.record entry.path entry.cell) FieldMap.empty
    (∀ turns, limit < turns → d.decodeInTurns turns type length w = some run) ∧
    (length = .unbounded → run.attempts.length ≤ limit + 1) ∧
    (∀ n, length = .exact n → run.attempts.length ≤ n) ∧
    ∃ k ≤ limit,
      run.mappings.map Mapping.path = (List.range k).map indexPath ∧
      (∀ vs, run.outcome = .ok vs → vs.length = k) ∧
      ∀ i < k, ∃ cell, run.mappings[i]? = some ⟨indexPath i, cell⟩ ∧
        recorded.get? (indexPath i) = some cell := by
  intro limit run recorded
  have hcounted := d.counted_decode type length w
  have hnumbered := d.numbered_decode type length w
  refine ⟨fun _ => d.decodeInTurns_eq type length w, ?_, ?_, run.mappings.length,
    hnumbered.length_le, ?_, hcounted.values, ?_⟩
  · rintro rfl
    exact hcounted.attempts
  · rintro n rfl
    exact hcounted.attempts
  · rw [List.range_eq_range']
    exact hnumbered.paths
  · intro i hi
    have hm : run.mappings[i]? = some run.mappings[i] := List.getElem?_eq_getElem hi
    obtain ⟨hpath, -⟩ := hnumbered.path_eq hm
    refine ⟨run.mappings[i].cell, ?_, ?_⟩
    · rw [hm, ← hpath]
    · have hrecorded : recorded = FieldMap.empty.recordAll run.mappings :=
        FieldMap.foldl_record _ _
      rw [hrecorded]
      exact hnumbered.get?_recorded hm

/-- Reads something everywhere, and saves one state more each time. -/
def Reader.everywhere : Reader Nat Unit := fun w => ⟨some w.depth, w.push, [], ()⟩

/-- Where all layers are the same and something is read in each of them, only the limit ends a list of
unknown length, after one attempt more than it allows. A known length is kept. -/
theorem an_endless_list_ends_at_the_limit :
    let d : Decoder Nat Unit := ⟨⟨.rows, 0⟩, fun _ => some .everywhere, 2⟩
    let w : Walk := ⟨State.start ⟨5, 2⟩, []⟩
    let run := d.decode "any" .unbounded w
    d.decodeInTurns 3 "any" .unbounded w = some run ∧
    run.outcome = .error (.collectionTooLarge 3 2) ∧
    run.attempts.length = 3 ∧ run.attempts.length ≤ min 2 10000 + 1 ∧
    ∃ cell, run.mappings[1]? = some ⟨"[1]", cell⟩ ∧
      (FieldMap.empty.recordAll run.mappings).get? "[1]" = some cell ∧
      (d.decode "any" (.exact 1) w).attempts.length ≤ 1 := by
  intro d w run
  obtain ⟨hends, hattempts, -, k, -, hpaths, -, hfound⟩ :=
    a_list_is_numbered_without_a_gap d "any" .unbounded w
  obtain ⟨-, -, hexact, -⟩ := a_list_is_numbered_without_a_gap d "any" (.exact 1) w
  have hk : k = 2 := by
    have hlength := congrArg List.length hpaths
    rw [List.length_map, List.length_map, List.length_range] at hlength
    exact hlength.symm
  obtain ⟨cell, hm, hget⟩ := hfound 1 (by omega)
  refine ⟨hends 3 (by decide), rfl, rfl, hattempts rfl, cell, hm, ?_, hexact 1 rfl⟩
  rw [← FieldMap.foldl_record]
  exact hget

end GridTemplate
