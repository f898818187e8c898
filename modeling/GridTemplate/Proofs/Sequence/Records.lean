-- The log of a list, for readers that write nothing into it themselves. It says when the decoding
-- started, then of each element where it was mapped, in order, and before that if a default stands for
-- the element. At most one record more says how a list of unknown length ended. A list that is refused
-- before it is decoded leaves no record.
import GridTemplate.Proofs.Sequence.Unbounded

namespace GridTemplate

variable {V N T : Type}

/-- The reader writes nothing into the log. -/
def Reader.Quiet (read : Reader V N) : Prop := ∀ w, (read w).log = []

/-! ## What the log tells -/

namespace Attempt

/-- The mapping of an element, to the cell where the attempt ended. -/
def mapping (a : Attempt V N) (index : Nat) : Mapping :=
  ⟨indexPath index, a.exit.cursor.reference⟩

/-- The records of an element. In a list of known length, one that could not be read is warned of
first. -/
def records (a : Attempt V N) (length : SequenceLength) (index : Nat) : List Record :=
  (if length ≠ .unbounded ∧ a.reading.value = none then [.placeholderUsed index a.exit.cursor]
    else []) ++ [.elementDecoded index a.exit.cursor]

end Attempt

namespace Run

/-- The attempts whose elements were mapped, with the indices of these elements. -/
def mapped (run : Run V N) (first : Nat) : List (Attempt V N × Nat) :=
  (run.attempts.take run.mappings.length).zipIdx first

/-- The record that closes the log of the elements from a first one on, if there is one. Below the
limit, a list of unknown length ends at an element that could not be read or at the edge of the grid.
At the limit only a list that is too long is spoken of. -/
structure Closes [LayerRule T] (nav : T) (length : SequenceLength) (limit first : Nat)
    (run : Run V N) (closing : Option Record) : Prop where
  stopped : length = .unbounded → ∀ vs, run.outcome = .ok vs → first + vs.length < limit →
    (∃ a, run.attempts[vs.length]? = some a ∧ a.reading.value = none ∧
      closing = some (.sequenceEnded (first + vs.length) run.walk.cursor)) ∨
    ∃ e, run.attempts.length = vs.length ∧ run.walk.nextLayer nav = .error e ∧
      closing = some (.gridEdgeReached (first + vs.length) e)
  tooLong : length = .unbounded → ∀ n m, run.outcome = .error (.collectionTooLarge n m) →
    closing = some (.limitExceeded limit run.walk.cursor)
  silent : (length = .unbounded → (∀ vs, run.outcome = .ok vs → limit ≤ first + vs.length) ∧
    ∀ n m, run.outcome ≠ .error (.collectionTooLarge n m)) → closing = none

/-- The log tells of the mapped elements from a first one on, and then how the list ended. -/
structure Told [LayerRule T] (nav : T) (length : SequenceLength) (limit first : Nat)
    (run : Run V N) : Prop where
  mappings : run.mappings = (run.mapped first).map fun entry => entry.1.mapping entry.2
  log : ∃ closing, run.Closes nav length limit first closing ∧
    run.log = (run.mapped first).flatMap (fun entry => entry.1.records length entry.2) ++
      closing.toList

/-! ## The parts of a run -/

section

variable [LayerRule T] {nav : T} {length : SequenceLength} {limit first : Nat} {run : Run V N}

theorem closes_none (h : length = .unbounded →
    (∀ vs, run.outcome = .ok vs → limit ≤ first + vs.length) ∧
      ∀ n m, run.outcome ≠ .error (.collectionTooLarge n m)) :
    run.Closes nav length limit first none where
  stopped := by
    intro hlength vs houtcome hlt
    exact absurd ((h hlength).1 vs houtcome) (Nat.not_le_of_lt hlt)
  tooLong := by
    intro hlength n m houtcome
    exact absurd houtcome ((h hlength).2 n m)
  silent := fun _ => rfl

/-- A list of unknown length that ends below the limit says where. -/
theorem closes_stopped {vs : List V} {record : Record} (houtcome : run.outcome = .ok vs)
    (hlt : first + vs.length < limit)
    (h : (∃ a, run.attempts[vs.length]? = some a ∧ a.reading.value = none ∧
        record = .sequenceEnded (first + vs.length) run.walk.cursor) ∨
      ∃ e, run.attempts.length = vs.length ∧ run.walk.nextLayer nav = .error e ∧
        record = .gridEdgeReached (first + vs.length) e) :
    run.Closes nav .unbounded limit first (some record) where
  stopped := by
    intro _ us hus _
    obtain rfl : vs = us := Except.ok.inj (houtcome.symm.trans hus)
    simpa using h
  tooLong := by
    intro _ n m hlarge
    cases houtcome.symm.trans hlarge
  silent := by
    intro hnone
    exact absurd ((hnone rfl).1 vs houtcome) (Nat.not_le_of_lt hlt)

/-- A run without elements tells only how it ended. -/
theorem told_of_closes {closing : Option Record} (hmappings : run.mappings = [])
    (hlog : run.log = closing.toList) (h : run.Closes nav length limit first closing) :
    run.Told nav length limit first := by
  have hmapped : run.mapped first = [] := by simp [mapped, hmappings]
  refine ⟨by simp [hmappings, hmapped], closing, h, by simp [hlog, hmapped]⟩

/-- An error other than too many elements leaves no record. -/
theorem told_failed {e : Error} (w : Walk)
    (he : length = .unbounded → ∀ n m, e ≠ .collectionTooLarge n m) :
    (failed e w [] : Run V N).Told nav length limit first := by
  refine told_of_closes rfl rfl (closes_none fun hlength => ⟨?_, ?_⟩)
  · intro vs houtcome
    cases houtcome
  · intro n m houtcome
    exact he hlength n m (Except.error.inj houtcome)

/-- A list that is complete leaves no record. -/
theorem told_ended (w : Walk) (h : length = .unbounded → limit ≤ first) :
    (ended w [] : Run V N).Told nav length limit first := by
  refine told_of_closes rfl rfl (closes_none fun hlength => ⟨?_, ?_⟩)
  · intro vs _
    exact Nat.le_add_right_of_le (h hlength)
  · intro n m houtcome
    cases houtcome

theorem told_following {attempt : Attempt V N} {next : Walk → Run V N}
    (h : ∀ u, (next u).Told nav length limit first) :
    (following attempt next).Told nav length limit first := by
  unfold following
  split
  · rename_i e he
    obtain ⟨-, rfl⟩ := (Walk.pop_eq_error_iff _ e).mp he
    exact told_failed _ (by simp)
  · exact h _

/-- An attempt without an element is told of only by how the list ended, and not at all if it left
nothing saved. -/
theorem told_withAttempt {attempt : Attempt V N} {next : Walk → Run V N}
    (hquiet : attempt.reading.log = [])
    (h : ∀ u, (next u).mappings = [] ∧ ∃ closing, (next u).log = closing.toList ∧
      ((next u).withAttempt attempt).Closes nav length limit first closing) :
    ((following attempt next).withAttempt attempt).Told nav length limit first := by
  unfold following
  split
  · rename_i e he
    obtain ⟨-, rfl⟩ := (Walk.pop_eq_error_iff _ e).mp he
    have hlog : ((failed .stackUnderflow attempt.exit [] : Run V N).withAttempt attempt).log =
        (none : Option Record).toList := by simp [failed, hquiet]
    refine told_of_closes rfl hlog (closes_none fun _ => ⟨?_, ?_⟩)
    · intro vs houtcome
      cases houtcome
    · intro n m houtcome
      cases houtcome
  · rename_i u _
    obtain ⟨hmappings, closing, hlog, hcloses⟩ := h u
    exact told_of_closes hmappings (by simp [hquiet, hlog]) hcloses

/-- An element in front is one more below the limit, and the list ends as it did. -/
theorem Closes.withElement {closing : Option Record}
    (h : run.Closes nav length limit (first + 1) closing) (value : V) (mapping : Mapping)
    (records : List Record) (attempt : Attempt V N) :
    (((run.withElement value mapping).withLog records).withAttempt attempt).Closes nav length limit
      first closing := by
  have hcount : ∀ vs : List V, first + (value :: vs).length = first + 1 + vs.length := by
    intro vs
    rw [List.length_cons]
    omega
  have hok := run.outcome_withElement_eq_ok_iff value mapping
  have herror := run.outcome_withElement_eq_error_iff value mapping
  refine ⟨?_, ?_, ?_⟩
  · intro hlength vs hvs hlt
    obtain ⟨rest, hrest, rfl⟩ := (hok vs).mp hvs
    rw [hcount] at hlt ⊢
    simpa using h.stopped hlength rest hrest hlt
  · intro hlength n m hlarge
    exact h.tooLong hlength n m ((herror _).mp hlarge)
  · intro hnone
    apply h.silent
    intro hlength
    obtain ⟨hlimit, hfits⟩ := hnone hlength
    refine ⟨?_, ?_⟩
    · intro rest hrest
      rw [← hcount]
      exact hlimit _ ((hok _).mpr ⟨rest, hrest, rfl⟩)
    · intro n m hlarge
      exact hfits n m ((herror _).mpr hlarge)

theorem mapped_withElement (run : Run V N) (value : V) (mapping : Mapping) (records : List Record)
    (attempt : Attempt V N) (index : Nat) :
    (((run.withElement value mapping).withLog records).withAttempt attempt).mapped index =
      (attempt, index) :: run.mapped (index + 1) := by
  simp [mapped, List.zipIdx_cons]

theorem Told.withElement {index : Nat} {attempt : Attempt V N}
    (h : run.Told nav length limit (index + 1)) (hquiet : attempt.reading.log = []) (value : V) :
    (((run.withElement value (attempt.mapping index)).withLog
      (attempt.records length index)).withAttempt attempt).Told nav length limit index := by
  obtain ⟨hmappings, closing, hcloses, hlog⟩ := h
  refine ⟨?_, closing, hcloses.withElement _ _ _ _, ?_⟩
  · rw [mapped_withElement, List.map_cons, ← hmappings]
    rfl
  · simp [mapped_withElement, hquiet, hlog]

end

end Run

namespace Decoder

/-! ## The whole list -/

variable [LayerRule T] {nav : T} {length : SequenceLength} {limit index : Nat}

theorem told_stopped {attempt : Attempt V N} (hquiet : attempt.reading.log = [])
    (hfailed : attempt.reading.value = none) (hindex : index < limit) :
    (stopped attempt index).Told nav .unbounded limit index := by
  unfold stopped
  apply Run.told_withAttempt hquiet
  intro u
  refine ⟨rfl, some _, rfl, Run.closes_stopped rfl hindex ?_⟩
  exact Or.inl ⟨attempt, rfl, hfailed, rfl⟩

theorem told_probed {attempt : Attempt V N} (hquiet : attempt.reading.log = []) :
    (probed attempt limit).Told nav .unbounded limit limit := by
  unfold probed
  apply Run.told_withAttempt hquiet
  intro u
  split
  · refine ⟨rfl, some _, rfl, ?_, ?_, ?_⟩
    · intro _ vs hvs
      cases hvs
    · intro _ _ _ _
      rfl
    · intro hnone
      exact absurd rfl ((hnone rfl).2 _ _)
  · refine ⟨rfl, none, rfl, Run.closes_none fun _ => ⟨?_, ?_⟩⟩
    · intro vs _
      exact Nat.le_add_right _ _
    · intro n m herror
      cases herror

/-- Where the next layer lies off the grid, a list of unknown length ends without an attempt. -/
theorem told_gridEdge {w : Walk} {e : Error} (he : w.nextLayer nav = .error e)
    (hindex : index < limit) :
    (.ended w [.gridEdgeReached index e] : Run V N).Told nav .unbounded limit index :=
  Run.told_of_closes rfl rfl (Run.closes_stopped rfl hindex (Or.inr ⟨e, rfl, he, rfl⟩))

theorem nextLayer_of_enterLayer {w : Walk} {e : Error} (h : enterLayer nav index w = .error e) :
    w.nextLayer nav = .error e := by
  unfold enterLayer at h
  split at h
  · cases h
  · exact h

theorem attempt_log_nil {read : Reader V N} (hquiet : read.Quiet) (w : Walk) :
    (Attempt.make read w).reading.log = [] := hquiet w.push

theorem told_probe {read : Reader V N} (hquiet : read.Quiet) (w : Walk) :
    (probe nav read limit w).Told nav .unbounded limit limit := by
  unfold probe
  split
  · exact Run.told_ended w fun _ => Nat.le_refl _
  · exact told_probed (attempt_log_nil hquiet _)

theorem elementRecords_eq {attempt : Attempt V N}
    (h : ¬ (length = .unbounded ∧ attempt.succeeded = false)) :
    elementRecords index attempt.exit.cursor attempt.succeeded = attempt.records length index := by
  unfold elementRecords Attempt.records Attempt.succeeded at *
  cases hvalue : attempt.reading.value with
  | none =>
    have hlength : length ≠ .unbounded := fun hlength => h ⟨hlength, by simp [hvalue]⟩
    simp [hlength]
  | some v => simp

variable [Inhabited V]

theorem told_element {attempt : Attempt V N} {next : Walk → Run V N}
    (hquiet : attempt.reading.log = []) (h : ¬ (length = .unbounded ∧ attempt.succeeded = false))
    (hnext : ∀ u, (next u).Told nav length limit (index + 1)) :
    (element attempt index next).Told nav length limit index := by
  unfold element
  dsimp only
  rw [elementRecords_eq h]
  exact (Run.told_following hnext).withElement hquiet _

/-- By induction on how many elements may still be read. Of a list of unknown length these are the ones
that are missing to the limit. -/
theorem told_decodeFrom {read : Reader V N} (hquiet : read.Quiet) (length : SequenceLength)
    (limit remaining index : Nat) (w : Walk)
    (hlimit : length = .unbounded → index + remaining = limit) :
    (decodeFrom nav read length limit remaining index w).Told nav length limit index := by
  induction remaining generalizing index w with
  | zero =>
    unfold decodeFrom
    cases length with
    | exact n => exact Run.told_ended w (by simp)
    | unbounded =>
      obtain rfl : index = limit := hlimit rfl
      exact told_probe hquiet w
  | succ remaining ih =>
    unfold decodeFrom
    split
    · rename_i e he
      cases length with
      | exact n => exact Run.told_failed w (by simp)
      | unbounded =>
        have hremaining := hlimit rfl
        exact told_gridEdge (nextLayer_of_enterLayer he) (by omega)
    · rename_i u hu
      dsimp only
      split
      · rename_i hstop
        obtain ⟨rfl, hfailed⟩ := hstop
        have hremaining := hlimit rfl
        exact told_stopped (attempt_log_nil hquiet u) (by simpa [Attempt.succeeded] using hfailed)
          (by omega)
      · rename_i hgoes
        apply told_element (attempt_log_nil hquiet u) hgoes
        intro restored
        apply ih
        intro hlength
        have hremaining := hlimit hlength
        omega

theorem elementBound_add {bound : Nat} (h : elementBound limit length = .ok bound) :
    length = .unbounded → 0 + bound = limit := by
  rintro rfl
  cases h
  exact Nat.zero_add limit

end Decoder

/-! ## The log in words -/

namespace Record

/-- The level of a record and its words. -/
def inWords (r : Record) : Level × String := (r.level, r.message)

-- The wording is opened by `change`: its many cases are slow to rewrite with.

theorem message_elementDecoded (index : Nat) (cursor : Cell) :
    (elementDecoded index cursor).message =
      "Decoded element " ++ indexPath index ++ " ending at " ++ cursor.reference := by
  have hopening : "Decoded element [" = "Decoded element " ++ "[" := by rfl
  have hclosing : "] ending at " = "]" ++ " ending at " := by rfl
  change "Decoded element [" ++ toString index ++ "] ending at " ++ cursor.reference = _
  unfold indexPath
  simp only [hopening, hclosing, String.append_assoc]

theorem message_placeholderUsed (index : Nat) (cursor : Cell) :
    (placeholderUsed index cursor).message =
      "Element " ++ indexPath index ++ " at " ++ cursor.reference ++
        " could not be parsed, using default" := by
  have hopening : "Element [" = "Element " ++ "[" := by rfl
  have hclosing : "] at " = "]" ++ " at " := by rfl
  change "Element [" ++ toString index ++ "] at " ++ cursor.reference ++
    " could not be parsed, using default" = _
  unfold indexPath
  simp only [hopening, hclosing, String.append_assoc]

end Record

/-- What is said of an element that was mapped, in words that name the path and the cell of its
mapping. -/
def Mapping.inWords (m : Mapping) (length : SequenceLength) (a : Attempt V N) :
    List (Level × String) :=
  (if length ≠ .unbounded ∧ a.reading.value = none then
    [(.warn, "Element " ++ m.path ++ " at " ++ m.cell ++ " could not be parsed, using default")]
    else []) ++ [(.trace, "Decoded element " ++ m.path ++ " ending at " ++ m.cell)]

theorem Attempt.inWords_records (a : Attempt V N) (length : SequenceLength) (index : Nat) :
    (a.records length index).map Record.inWords = (a.mapping index).inWords length a := by
  unfold records Mapping.inWords
  split
  · simp [Record.inWords, Record.level, Record.message_elementDecoded,
      Record.message_placeholderUsed, mapping]
  · simp [Record.inWords, Record.level, Record.message_elementDecoded, mapping]

/-- Two lists that come from one, the second with a rest of its own. -/
theorem zip_of_take {α β γ : Type} {as : List α} {bs : List β} {cs : List γ} {f : γ → α} {g : γ → β}
    (has : as = cs.map f) (hbs : bs.take as.length = cs.map g) :
    as.zip bs = cs.map fun c => (f c, g c) := by
  subst has
  calc (cs.map f).zip bs
      = (cs.map f ++ []).zip (cs.map g ++ bs.drop (cs.map f).length) := by
        rw [List.append_nil, ← hbs, List.take_append_drop]
    _ = (cs.map f).zip (cs.map g) ++ [].zip (bs.drop (cs.map f).length) :=
        List.zip_append (by simp)
    _ = cs.map fun c => (f c, g c) := by
        rw [List.zip_nil_left, List.append_nil, List.zip_map']

namespace Run

variable [LayerRule T] {nav : T} {length : SequenceLength} {limit first : Nat} {run : Run V N}
  {closing : Option Record}

/-- The mappings beside the attempts they come from. -/
theorem Told.zip_eq (h : run.Told nav length limit first) :
    run.mappings.zip run.attempts =
      (run.mapped first).map fun entry => (entry.1.mapping entry.2, entry.1) :=
  zip_of_take h.mappings (List.zipIdx_map_fst first _).symm

theorem Told.words_eq (h : run.Told nav length limit first) :
    ((run.mapped first).flatMap fun entry => entry.1.records length entry.2).map Record.inWords =
      (run.mappings.zip run.attempts).flatMap fun entry => entry.1.inWords length entry.2 := by
  simp only [h.zip_eq, List.map_flatMap, List.flatMap_map, Attempt.inWords_records]

/-! ## How it ends -/

theorem Closes.withLog (h : run.Closes nav length limit first closing) (records : List Record) :
    (run.withLog records).Closes nav length limit first closing :=
  ⟨h.stopped, h.tooLong, h.silent⟩

/-- The list ended below the limit, it is too long, or nothing is said of its end. -/
theorem Closes.ends (h : run.Closes nav length limit first closing) :
    (length = .unbounded ∧ ∃ vs, run.outcome = .ok vs ∧ first + vs.length < limit) ∨
      (length = .unbounded ∧ ∃ n m, run.outcome = .error (.collectionTooLarge n m)) ∨
      closing = none := by
  by_cases hlength : length = .unbounded
  · by_cases hstopped : ∃ vs, run.outcome = .ok vs ∧ first + vs.length < limit
    · exact Or.inl ⟨hlength, hstopped⟩
    · by_cases hlarge : ∃ n m, run.outcome = .error (.collectionTooLarge n m)
      · exact Or.inr (Or.inl ⟨hlength, hlarge⟩)
      · refine Or.inr (Or.inr (h.silent fun _ => ⟨?_, ?_⟩))
        · intro vs hvs
          exact Nat.le_of_not_lt fun hlt => hstopped ⟨vs, hvs, hlt⟩
        · intro n m houtcome
          exact hlarge ⟨n, m, houtcome⟩
  · exact Or.inr (Or.inr (h.silent fun hunbounded => absurd hunbounded hlength))

theorem Closes.level_of_stopped (h : run.Closes nav length limit first closing)
    (hlength : length = .unbounded) {vs : List V} (hvs : run.outcome = .ok vs)
    (hlt : first + vs.length < limit) : closing.map Record.level = some .debug := by
  obtain ⟨a, -, -, hclosing⟩ | ⟨e, -, -, hclosing⟩ := h.stopped hlength vs hvs hlt
  · rw [hclosing]
    rfl
  · rw [hclosing]
    rfl

theorem Closes.level_of_tooLong (h : run.Closes nav length limit first closing)
    (hlength : length = .unbounded) {n m : Nat}
    (hlarge : run.outcome = .error (.collectionTooLarge n m)) :
    closing.map Record.level = some .warn := by
  rw [h.tooLong hlength n m hlarge]
  rfl

theorem Closes.debug_iff (h : run.Closes nav length limit first closing) :
    closing.map Record.level = some .debug ↔
      length = .unbounded ∧ ∃ vs, run.outcome = .ok vs ∧ first + vs.length < limit := by
  refine ⟨?_, ?_⟩
  · intro hdebug
    obtain hstopped | ⟨hlength, n, m, hlarge⟩ | hnone := h.ends
    · exact hstopped
    · simp [h.level_of_tooLong hlength hlarge] at hdebug
    · simp [hnone] at hdebug
  · rintro ⟨hlength, vs, hvs, hlt⟩
    exact h.level_of_stopped hlength hvs hlt

theorem Closes.warn_iff (h : run.Closes nav length limit first closing) :
    closing.map Record.level = some .warn ↔
      length = .unbounded ∧ ∃ n m, run.outcome = .error (.collectionTooLarge n m) := by
  refine ⟨?_, ?_⟩
  · intro hwarn
    obtain ⟨hlength, vs, hvs, hlt⟩ | hlarge | hnone := h.ends
    · simp [h.level_of_stopped hlength hvs hlt] at hwarn
    · exact hlarge
    · simp [hnone] at hwarn
  · rintro ⟨hlength, n, m, hlarge⟩
    exact h.level_of_tooLong hlength hlarge

end Run

namespace Decoder

variable [LayerRule T] [Inhabited V] {d : Decoder V N T} {type : String} {length : SequenceLength}

/-- A list that is refused before it is decoded leaves no record. -/
theorem log_decode_of_refused (w : Walk)
    (h : (∃ n, length = .exact n ∧ d.limit < n) ∨ d.readers type = none) :
    (d.decode type length w).log = [] := by
  unfold decode
  split
  · rfl
  · rename_i bound hbound
    obtain ⟨n, rfl, hn⟩ | hnone := h
    · simp [elementBound, hn] at hbound
    · simp [hnone, Run.failed]

/-- Any other list is told of from its start. -/
theorem decode_eq_of_taken {read : Reader V N} (w : Walk)
    (hfits : ∀ n, length = .exact n → n ≤ d.limit) (hread : d.readers type = some read) :
    ∃ bound, elementBound d.limit length = .ok bound ∧
      d.decode type length w =
        (decodeFrom d.navigator read length d.limit bound 0 w).withLog
          [.decodeStarted length w.cursor] := by
  have hbound : ∃ bound, elementBound d.limit length = .ok bound := by
    cases length with
    | exact n =>
      refine ⟨n, if_neg (Nat.not_lt_of_le (hfits n rfl))⟩
    | unbounded => exact ⟨d.limit, rfl⟩
  obtain ⟨bound, hbound⟩ := hbound
  refine ⟨bound, hbound, ?_⟩
  unfold decode
  rw [hbound, hread]

end Decoder

/-! ## The law -/

/-- The log of a list whose reader writes nothing. A list refused for its length or its type leaves no
record. Any other starts with where it was decoded. Each mapping comes next, in order, with a record
that names the same path and cell, and one that warns of a default stands before it if the length was
known and the attempt gave no value. At the end there is at most one record more: of the number of
elements if a list of unknown length ended below the limit, or of the limit if there were too many. -/
theorem the_log_of_a_list_tells_how_it_was_decoded [LayerRule T] [Inhabited V] (d : Decoder V N T)
    (type : String) (length : SequenceLength) (w : Walk)
    (hquiet : ∀ read, d.readers type = some read → read.Quiet) :
    let run := d.decode type length w
    ((∃ n, length = .exact n ∧ d.limit < n) ∨ d.readers type = none → run.log = []) ∧
    ((∀ n, length = .exact n → n ≤ d.limit) → d.readers type ≠ none →
      run.mappings = (run.mapped 0).map (fun entry => entry.1.mapping entry.2) ∧
      ∃ closing,
        run.log = .decodeStarted length w.cursor ::
          ((run.mapped 0).flatMap (fun entry => entry.1.records length entry.2) ++
            closing.toList) ∧
        run.log.map Record.inWords =
          (.debug, "Decoding " ++ length.label ++ " elements starting at " ++ w.cursor.reference) ::
            ((run.mappings.zip run.attempts).flatMap (fun entry => entry.1.inWords length entry.2) ++
              closing.toList.map Record.inWords) ∧
        run.Closes d.navigator length d.limit 0 closing ∧
        (closing.map Record.level = some .debug ↔
          length = .unbounded ∧ ∃ vs, run.outcome = .ok vs ∧ vs.length < d.limit) ∧
        (closing.map Record.level = some .warn ↔
          length = .unbounded ∧ ∃ n m, run.outcome = .error (.collectionTooLarge n m))) := by
  intro run
  refine ⟨d.log_decode_of_refused w, ?_⟩
  intro hfits hsome
  obtain ⟨read, hread⟩ := Option.ne_none_iff_exists'.mp hsome
  obtain ⟨bound, hbound, hrun⟩ := Decoder.decode_eq_of_taken w hfits hread
  have htold : (Decoder.decodeFrom d.navigator read length d.limit bound 0 w).Told d.navigator length
      d.limit 0 :=
    Decoder.told_decodeFrom (hquiet read hread) length d.limit bound 0 w
      (Decoder.elementBound_add hbound)
  obtain ⟨closing, hcloses, hlog⟩ := htold.log
  have hrun : run = _ := hrun
  rw [hrun]
  refine ⟨htold.mappings, closing, ?_, ?_, hcloses.withLog _, ?_, ?_⟩
  · rw [Run.log_withLog, hlog]
    rfl
  · rw [Run.log_withLog, hlog, List.map_append, List.map_append, htold.words_eq]
    rfl
  · simpa using hcloses.debug_iff
  · simpa using hcloses.warn_iff

/-- Of two rows that can be read, a list of three has a default for the last one, and the log warns
of it. A list of unknown length ends there, and the log says so last. -/
theorem a_default_is_warned_of_before_it_is_mapped :
    let d : Decoder Nat Unit := ⟨.single .rows, fun _ => some (.rowsTo 2), 10⟩
    let w : Walk := ⟨State.start ⟨1, 1⟩, []⟩
    (∀ read, d.readers "row" = some read → read.Quiet) ∧
    (d.decode "row" (.exact 3) w).log =
      [.decodeStarted (.exact 3) ⟨1, 1⟩, .elementDecoded 0 ⟨1, 2⟩, .elementDecoded 1 ⟨2, 2⟩,
        .placeholderUsed 2 ⟨3, 2⟩, .elementDecoded 2 ⟨3, 2⟩] ∧
    (d.decode "row" .unbounded w).log =
      [.decodeStarted .unbounded ⟨1, 1⟩, .elementDecoded 0 ⟨1, 2⟩, .elementDecoded 1 ⟨2, 2⟩,
        .sequenceEnded 2 ⟨3, 1⟩] := by
  intro d w
  have hquiet : ∀ read, d.readers "row" = some read → read.Quiet := by
    intro read hread
    cases hread
    exact fun _ => rfl
  have hlaw := fun length =>
    the_log_of_a_list_tells_how_it_was_decoded d "row" length w hquiet
  refine ⟨hquiet, ?_, ?_⟩
  · obtain ⟨_, closing, hlog, _, hcloses, _⟩ :=
      (hlaw (.exact 3)).2 (by intro n hn; cases hn; decide) (by simp [d])
    rw [hlog, hcloses.silent (fun hlength => by cases hlength)]
    rfl
  · obtain ⟨_, closing, hlog, _, hcloses, _⟩ := (hlaw .unbounded).2 (by simp) (by simp [d])
    obtain ⟨_, _, _, hclosing⟩ | ⟨_, _, hedge, _⟩ := hcloses.stopped rfl [1, 2] rfl (by decide)
    · rw [hlog, hclosing]
      rfl
    · cases hedge

end GridTemplate
