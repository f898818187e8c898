-- A list of unknown length and a list of known length from the same place. As long as elements can
-- be read, both do the same, whatever the reader does to the walk and to the saved states, so the
-- second begins with all that the first gives.
import GridTemplate.Sequence.Decode

namespace GridTemplate

variable {V N T : Type}

namespace Run

/-- The run gives these values and mappings first, and then what the rest gives. -/
structure StartsWith (run : Run V N) (vs : List V) (ms : List Mapping) (rest : Run V N) : Prop where
  outcome : run.outcome = rest.outcome.map (vs ++ ·)
  mappings : run.mappings = ms ++ rest.mappings

theorem startsWith_self (run : Run V N) : run.StartsWith [] [] run where
  outcome := by cases h : run.outcome <;> simp [Except.map]
  mappings := rfl

theorem following_of_pop {attempt : Attempt V N} {u : Walk} (h : attempt.exit.pop = .ok u)
    (next : Walk → Run V N) : following attempt next = next u := by
  rw [following, h]

theorem exists_pop_of_following {attempt : Attempt V N} {next : Walk → Run V N} {vs : List V}
    (h : (following attempt next).outcome = .ok vs) : ∃ u, attempt.exit.pop = .ok u := by
  unfold following at h
  split at h
  · cases h
  · exact ⟨_, ‹_›⟩

/-- What begins with some values gives them first, if it gives any. -/
theorem StartsWith.take_eq {run rest : Run V N} {vs ws : List V} {ms : List Mapping}
    (h : run.StartsWith vs ms rest) (hlen : ms.length = vs.length) (hws : run.outcome = .ok ws) :
    ws.take vs.length = vs ∧ run.mappings.take vs.length = ms := by
  rw [h.outcome] at hws
  cases hrest : rest.outcome with
  | error e =>
    rw [hrest] at hws
    cases hws
  | ok more =>
    rw [hrest] at hws
    cases hws
    rw [h.mappings, ← hlen]
    simp [hlen]

end Run

namespace Decoder

/-! ## Ends without an element -/

theorem nil_of_stopped {attempt : Attempt V N} {index : Nat} {vs : List V}
    (h : (stopped attempt index).outcome = .ok vs) :
    vs = [] ∧ (stopped attempt index).mappings = [] := by
  rw [stopped, Run.outcome_withAttempt] at h
  obtain ⟨u, hu⟩ := Run.exists_pop_of_following h
  rw [Run.following_of_pop hu] at h
  rw [stopped, Run.mappings_withAttempt, Run.following_of_pop hu]
  cases h
  exact ⟨rfl, rfl⟩

theorem nil_of_probed {attempt : Attempt V N} {limit : Nat} {vs : List V}
    (h : (probed attempt limit).outcome = .ok vs) :
    vs = [] ∧ (probed attempt limit).mappings = [] := by
  rw [probed, Run.outcome_withAttempt] at h
  obtain ⟨u, hu⟩ := Run.exists_pop_of_following h
  rw [Run.following_of_pop hu] at h
  rw [probed, Run.mappings_withAttempt, Run.following_of_pop hu]
  by_cases hs : attempt.succeeded = true
  · rw [if_pos hs] at h
    cases h
  · rw [if_neg hs] at h ⊢
    cases h
    exact ⟨rfl, rfl⟩

variable [LayerRule T] {nav : T} {read : Reader V N}

theorem nil_of_probe {limit : Nat} {w : Walk} {vs : List V}
    (h : (probe nav read limit w).outcome = .ok vs) :
    vs = [] ∧ (probe nav read limit w).mappings = [] := by
  unfold probe at h ⊢
  split at h
  · cases h
    exact ⟨rfl, rfl⟩
  · exact nil_of_probed h

/-! ## Elements in lockstep -/

variable [Inhabited V]

/-- An element that is followed by something has given back the walk before it. -/
theorem exists_of_element {attempt : Attempt V N} {index : Nat} {next : Walk → Run V N}
    {vs : List V} (h : (element attempt index next).outcome = .ok vs) :
    ∃ u more, attempt.exit.pop = .ok u ∧ (next u).outcome = .ok more ∧
      vs = attempt.reading.value.getD default :: more := by
  simp only [element, Run.outcome_withAttempt, Run.outcome_withLog, Run.outcome_withElement] at h
  cases hrest : (Run.following attempt next).outcome with
  | error e =>
    rw [hrest] at h
    cases h
  | ok more =>
    rw [hrest] at h
    cases h
    obtain ⟨u, hu⟩ := Run.exists_pop_of_following hrest
    rw [Run.following_of_pop hu] at hrest
    exact ⟨u, more, hu, hrest, rfl⟩

theorem startsWith_element {attempt : Attempt V N} {index : Nat} {next : Walk → Run V N} {u : Walk}
    {vs : List V} {ms : List Mapping} {rest : Run V N} (hu : attempt.exit.pop = .ok u)
    (h : (next u).StartsWith vs ms rest) :
    (element attempt index next).StartsWith (attempt.reading.value.getD default :: vs)
      (⟨indexPath index, attempt.exit.cursor.reference⟩ :: ms) rest where
  outcome := by
    simp only [element, Run.outcome_withAttempt, Run.outcome_withLog, Run.outcome_withElement,
      Run.following_of_pop hu, h.outcome]
    cases rest.outcome <;> rfl
  mappings := by
    simp only [element, Run.mappings_withAttempt, Run.mappings_withLog, Run.mappings_withElement,
      Run.following_of_pop hu, h.mappings]
    rfl

theorem mappings_element {attempt : Attempt V N} {index : Nat} {next : Walk → Run V N} {u : Walk}
    (hu : attempt.exit.pop = .ok u) :
    (element attempt index next).mappings =
      ⟨indexPath index, attempt.exit.cursor.reference⟩ :: (next u).mappings := by
  simp only [element, Run.mappings_withAttempt, Run.mappings_withLog, Run.mappings_withElement,
    Run.following_of_pop hu]

/-- The elements of a list of unknown length are also the first ones of each list of known length
from the same walk that goes beyond them. -/
structure Shared (nav : T) (read : Reader V N) (limit remaining index : Nat) (w : Walk)
    (vs : List V) (ms : List Mapping) : Prop where
  length_le : vs.length ≤ remaining
  length_eq : ms.length = vs.length
  exact : ∃ u, ∀ n more,
    (decodeFrom nav read (.exact n) limit (vs.length + more) index w).StartsWith vs ms
      (decodeFrom nav read (.exact n) limit more (index + vs.length) u)

theorem shared_nil (limit remaining index : Nat) (w : Walk) :
    Shared nav read limit remaining index w [] [] where
  length_le := Nat.zero_le _
  length_eq := rfl
  exact := by
    refine ⟨w, fun n more => ?_⟩
    rw [List.length_nil, Nat.zero_add, Nat.add_zero]
    exact Run.startsWith_self _

theorem Shared.cons {limit remaining index : Nat} {w entered u : Walk} {vs : List V}
    {ms : List Mapping} (hw : enterLayer nav index w = .ok entered)
    (hu : (Attempt.make read entered).exit.pop = .ok u)
    (h : Shared nav read limit remaining (index + 1) u vs ms) :
    Shared nav read limit (remaining + 1) index w
      ((Attempt.make read entered).reading.value.getD default :: vs)
      (⟨indexPath index, (Attempt.make read entered).exit.cursor.reference⟩ :: ms) where
  length_le := Nat.succ_le_succ h.length_le
  length_eq := congrArg Nat.succ h.length_eq
  exact := by
    obtain ⟨last, hlast⟩ := h.exact
    refine ⟨last, fun n more => ?_⟩
    have hlen : (vs.length + 1) + more = (vs.length + more) + 1 := by omega
    have hindex : index + (vs.length + 1) = (index + 1) + vs.length := by omega
    rw [List.length_cons, hlen, hindex, decodeFrom, hw]
    dsimp only
    rw [if_neg (by simp)]
    exact startsWith_element hu (hlast n more)

/-- By induction on how many elements may still be read: the two lists go through the same layers
and attempts until the one of unknown length ends. -/
theorem shared_of_decodeFrom {limit remaining index : Nat} {w : Walk} {vs : List V}
    (h : (decodeFrom nav read .unbounded limit remaining index w).outcome = .ok vs) :
    Shared nav read limit remaining index w vs
      (decodeFrom nav read .unbounded limit remaining index w).mappings := by
  induction remaining generalizing index w vs with
  | zero =>
    obtain ⟨rfl, hms⟩ := nil_of_probe h
    rw [decodeFrom, hms]
    exact shared_nil _ _ _ _
  | succ remaining ih =>
    rw [decodeFrom] at h ⊢
    cases hw : enterLayer nav index w with
    | error e =>
      rw [hw] at h
      cases h
      exact shared_nil _ _ _ _
    | ok entered =>
      rw [hw] at h
      dsimp only at h ⊢
      by_cases hs : (Attempt.make read entered).succeeded = false
      · rw [if_pos ⟨rfl, hs⟩] at h ⊢
        obtain ⟨rfl, hms⟩ := nil_of_stopped h
        rw [hms]
        exact shared_nil _ _ _ _
      · rw [if_neg (fun hc => hs hc.2)] at h ⊢
        obtain ⟨u, more, hu, hmore, rfl⟩ := exists_of_element h
        rw [mappings_element hu]
        exact (ih hmore).cons hw hu

/-! ## The whole list -/

theorem decode_of_reader (d : Decoder V N T) {type : String} {length : SequenceLength}
    {bound : Nat} (hbound : elementBound d.limit length = .ok bound)
    (hread : d.readers type = some read) (w : Walk) :
    d.decode type length w =
      (decodeFrom d.navigator read length d.limit bound 0 w).withLog
        [.decodeStarted length w.cursor] := by
  unfold decode
  rw [hbound]
  dsimp only
  rw [hread]

theorem elementBound_exact {limit n : Nat} (h : n ≤ limit) :
    elementBound limit (.exact n) = .ok n := if_neg (Nat.not_lt_of_le h)

theorem exists_reader_of_decode {d : Decoder V N T} {type : String} {length : SequenceLength}
    {w : Walk} {vs : List V} (h : (d.decode type length w).outcome = .ok vs) :
    ∃ read, d.readers type = some read := by
  unfold decode at h
  split at h
  · cases h
  · split at h
    · cases h
    · exact ⟨_, ‹_›⟩

end Decoder

/-! ## The law -/

/-- If a list of unknown length can be read, the list of just as many elements gives the same values
and mappings, and every longer list within the limit that can be read begins with them. Nothing is
asked of the reader. -/
theorem a_known_length_begins_with_what_an_unknown_one_gives [LayerRule T] [Inhabited V]
    (d : Decoder V N T) (type : String) (w : Walk) (vs : List V) (ms : List Mapping)
    (hvs : (d.decode type .unbounded w).outcome = .ok vs)
    (hms : (d.decode type .unbounded w).mappings = ms) :
    ((d.decode type (.exact vs.length) w).outcome = .ok vs ∧
      (d.decode type (.exact vs.length) w).mappings = ms) ∧
    ∀ n ws, vs.length ≤ n → n ≤ d.limit → (d.decode type (.exact n) w).outcome = .ok ws →
      ws.take vs.length = vs ∧ (d.decode type (.exact n) w).mappings.take vs.length = ms := by
  obtain ⟨read, hread⟩ := Decoder.exists_reader_of_decode hvs
  rw [d.decode_of_reader rfl hread] at hvs hms
  subst hms
  obtain ⟨hle, hlen, u, hexact⟩ := Decoder.shared_of_decodeFrom hvs
  constructor
  · rw [d.decode_of_reader (Decoder.elementBound_exact hle) hread]
    have hstarts := hexact vs.length 0
    rw [Nat.add_zero] at hstarts
    refine ⟨?_, ?_⟩
    · rw [Run.outcome_withLog, hstarts.outcome]
      simp [Decoder.decodeFrom, Run.ended, Except.map]
    · rw [Run.mappings_withLog, hstarts.mappings]
      simp [Decoder.decodeFrom, Run.ended]
  · intro n ws hn hlimit hws
    rw [d.decode_of_reader (Decoder.elementBound_exact hlimit) hread] at hws ⊢
    have hstarts := hexact n (n - vs.length)
    rw [Nat.add_sub_cancel' hn] at hstarts
    exact hstarts.take_eq hlen hws

/-- Reads the numbers of the first five rows. At an odd row it also saves the start of the row
below, which is then what comes back in place of the state before the reading. -/
def Reader.skippingRows : Reader Nat Unit := fun w =>
  ⟨if w.cursor.row ≤ 5 then some w.cursor.row else none,
    if w.cursor.row % 2 = 1 then
      { w with saved := State.start ⟨w.cursor.row + 1, w.cursor.column⟩ :: w.saved }
    else w, [], ()⟩

/-- Three elements can be read, each two rows below the one before it. A list of five begins with
them and fills up with replacements. -/
theorem five_rows_begin_with_the_three_that_can_be_read :
    let d : Decoder Nat Unit := ⟨.single .rows, fun _ => some .skippingRows, 10⟩
    let w : Walk := ⟨State.start ⟨1, 1⟩, []⟩
    (d.decode "row" .unbounded w).outcome = .ok [1, 3, 5] ∧
    (d.decode "row" (.exact 3) w).outcome = .ok [1, 3, 5] ∧
    (d.decode "row" (.exact 3) w).mappings = (d.decode "row" .unbounded w).mappings ∧
    (d.decode "row" (.exact 5) w).outcome = .ok [1, 3, 5, 0, 0] ∧
    (d.decode "row" (.exact 5) w).mappings.take 3 = (d.decode "row" .unbounded w).mappings := by
  intro d w
  have hfree : (d.decode "row" .unbounded w).outcome = .ok [1, 3, 5] := by
    subst d w
    rfl
  have hfive : (d.decode "row" (.exact 5) w).outcome = .ok [1, 3, 5, 0, 0] := by
    subst d w
    rfl
  obtain ⟨⟨hthree, hmappings⟩, hlonger⟩ :=
    a_known_length_begins_with_what_an_unknown_one_gives d "row" w [1, 3, 5] _ hfree rfl
  obtain ⟨_, htake⟩ := hlonger 5 [1, 3, 5, 0, 0] (by decide) (by decide) hfive
  exact ⟨hfree, hthree, hmappings, hfive, htake⟩

end GridTemplate
