-- Lists of known length in two halves. A list gives what its first elements give as a list of their
-- own, followed by a step to the next layer and a list of the remaining ones. Only the walk passes
-- from one half to the other, whatever the reader does to it, and the indices are counted on.
import GridTemplate.Proofs.Sequence.Indices
import GridTemplate.Proofs.Sequence.Modes

namespace GridTemplate

variable {V N T : Type}

/-- The mapping of an element that comes after others: its index is counted on from theirs. A path
that is no index stays as it is. -/
def Mapping.renumbered (m : Mapping) (first : Nat) : Mapping :=
  match indexOf? m.path with
  | some index => ⟨indexPath (first + index), m.cell⟩
  | none => m

theorem Mapping.renumbered_indexPath (index : Nat) (cell : String) (first : Nat) :
    renumbered ⟨indexPath index, cell⟩ first = ⟨indexPath (first + index), cell⟩ := by
  rw [renumbered, indexOf?_indexPath]

namespace Run

/-- The run with the indices of its mappings counted on. -/
def renumbered (run : Run V N) (first : Nat) : Run V N :=
  { run with mappings := run.mappings.map (Mapping.renumbered · first) }

/-- One run and then another one, which goes on from the walk that the first has left. A run that
fails is the end. -/
def andThen (run : Run V N) (next : Walk → Run V N) : Run V N :=
  match run.outcome with
  | .error _ => run
  | .ok values =>
    let rest := next run.walk
    { outcome := rest.outcome.map (values ++ ·)
      walk := rest.walk
      mappings := run.mappings ++ rest.mappings
      attempts := run.attempts ++ rest.attempts
      log := run.log ++ rest.log }

/-- A run in the next layer. If there is no such layer, it fails where the walk stands. -/
def inNextLayer [LayerRule T] (nav : T) (next : Walk → Run V N) (w : Walk) : Run V N :=
  match w.nextLayer nav with
  | .error e => .failed e w []
  | .ok u => next u

/-- Two runs that differ in nothing but their logs. -/
structure SameEffect (run other : Run V N) : Prop where
  outcome : run.outcome = other.outcome
  walk : run.walk = other.walk
  mappings : run.mappings = other.mappings
  attempts : run.attempts = other.attempts

/-! ## One run after another -/

section

variable (run : Run V N) (next : Walk → Run V N)

theorem andThen_ended (w : Walk) : (ended w []).andThen next = next w := by
  rw [andThen, ended]
  dsimp only
  rw [← (startsWith_self (next w)).outcome]
  rfl

theorem andThen_withElement (value : V) (mapping : Mapping) :
    (run.withElement value mapping).andThen next =
      (run.andThen next).withElement value mapping := by
  obtain ⟨outcome, walk, mappings, attempts, log⟩ := run
  cases outcome with
  | error e => rfl
  | ok values =>
    have hvalues : (next walk).outcome.map (value :: values ++ ·) =
        ((next walk).outcome.map (values ++ ·)).map (value :: ·) := by
      cases (next walk).outcome <;> rfl
    simp only [andThen, withElement, Except.map, List.cons_append] at hvalues ⊢
    rw [hvalues]

theorem andThen_withLog (records : List Record) :
    (run.withLog records).andThen next = (run.andThen next).withLog records := by
  obtain ⟨outcome, walk, mappings, attempts, log⟩ := run
  cases outcome with
  | error e => rfl
  | ok values => simp only [andThen, withLog, List.append_assoc]

theorem andThen_withAttempt (attempt : Attempt V N) :
    (run.withAttempt attempt).andThen next = (run.andThen next).withAttempt attempt := by
  obtain ⟨outcome, walk, mappings, attempts, log⟩ := run
  cases outcome with
  | error e => rfl
  | ok values => simp only [andThen, withAttempt, List.append_assoc, List.cons_append]

theorem andThen_following (attempt : Attempt V N) (after : Walk → Run V N) :
    (following attempt next).andThen after =
      following attempt fun u => (next u).andThen after := by
  unfold following
  split <;> rfl

end

/-! ## Counting indices on -/

section

variable (run : Run V N) (first : Nat)

theorem renumbered_withElement (value : V) (mapping : Mapping) :
    (run.withElement value mapping).renumbered first =
      (run.renumbered first).withElement value (mapping.renumbered first) := rfl

theorem renumbered_withLog (records : List Record) :
    (run.withLog records).renumbered first = (run.renumbered first).withLog records := rfl

theorem renumbered_withAttempt (attempt : Attempt V N) :
    (run.withAttempt attempt).renumbered first = (run.renumbered first).withAttempt attempt := rfl

end

/-! ## Runs with the same effect -/

namespace SameEffect

variable {run other : Run V N}

theorem refl (run : Run V N) : run.SameEffect run := ⟨rfl, rfl, rfl, rfl⟩

theorem withElement (h : run.SameEffect other) (value : V) (mapping : Mapping) :
    (run.withElement value mapping).SameEffect (other.withElement value mapping) where
  outcome := congrArg (Except.map (value :: ·)) h.outcome
  walk := h.walk
  mappings := congrArg (mapping :: ·) h.mappings
  attempts := h.attempts

theorem withLog (h : run.SameEffect other) (records others : List Record) :
    (run.withLog records).SameEffect (other.withLog others) :=
  ⟨h.outcome, h.walk, h.mappings, h.attempts⟩

theorem withLog_right (h : run.SameEffect other) (records : List Record) :
    run.SameEffect (other.withLog records) :=
  ⟨h.outcome, h.walk, h.mappings, h.attempts⟩

theorem withAttempt (h : run.SameEffect other) (attempt : Attempt V N) :
    (run.withAttempt attempt).SameEffect (other.withAttempt attempt) where
  outcome := h.outcome
  walk := h.walk
  mappings := h.mappings
  attempts := congrArg (attempt :: ·) h.attempts

end SameEffect

theorem sameEffect_andThen (run : Run V N) {next other : Walk → Run V N}
    (h : ∀ w, (next w).SameEffect (other w)) :
    (run.andThen next).SameEffect (run.andThen other) := by
  unfold andThen
  split
  · exact .refl run
  · rename_i values _
    have hrest := h run.walk
    exact ⟨congrArg (Except.map (values ++ ·)) hrest.outcome, hrest.walk,
      congrArg (run.mappings ++ ·) hrest.mappings, congrArg (run.attempts ++ ·) hrest.attempts⟩

theorem sameEffect_following (attempt : Attempt V N) (first : Nat) {next other : Walk → Run V N}
    (h : ∀ u, (next u).SameEffect ((other u).renumbered first)) :
    (following attempt next).SameEffect ((following attempt other).renumbered first) := by
  unfold following
  split
  · exact .refl _
  · exact h _

end Run

namespace Decoder

/-! ## Elements -/

variable [LayerRule T] [Inhabited V] (nav : T) (read : Reader V N)

theorem andThen_element (attempt : Attempt V N) (index : Nat) (next after : Walk → Run V N) :
    (element attempt index next).andThen after =
      element attempt index fun u => (next u).andThen after := by
  simp only [element, Run.andThen_withAttempt, Run.andThen_withLog, Run.andThen_withElement,
    Run.andThen_following]

theorem sameEffect_element (attempt : Attempt V N) (first index : Nat)
    {next other : Walk → Run V N} (h : ∀ u, (next u).SameEffect ((other u).renumbered first)) :
    (element attempt (first + index) next).SameEffect
      ((element attempt index other).renumbered first) := by
  have hrest := Run.sameEffect_following attempt first h
  simp only [element, Run.renumbered_withAttempt, Run.renumbered_withLog,
    Run.renumbered_withElement, Mapping.renumbered_indexPath]
  exact ((hrest.withElement _ _).withLog _ _).withAttempt attempt

/-- One element of a list of known length, and the list from there on. -/
theorem decodeFrom_exact_succ (n limit remaining index : Nat) (w : Walk) :
    decodeFrom nav read (.exact n) limit (remaining + 1) index w =
      match enterLayer nav index w with
      | .error e => .failed e w []
      | .ok u =>
        element (.make read u) index
          (decodeFrom nav read (.exact n) limit remaining (index + 1)) := by
  rw [decodeFrom]
  cases enterLayer nav index w with
  | error e => rfl
  | ok u => exact if_neg (by simp)

/-! ## The halves -/

/-- By induction on the length of the first half. Where it ends, all that is left of it is the walk
and the number of its elements. -/
theorem decodeFrom_add (n m limit first second index : Nat) (w : Walk) :
    decodeFrom nav read (.exact n) limit (first + second) index w =
      (decodeFrom nav read (.exact m) limit first index w).andThen
        (decodeFrom nav read (.exact n) limit second (index + first)) := by
  induction first generalizing index w with
  | zero =>
    rw [Nat.zero_add, Nat.add_zero]
    exact (Run.andThen_ended _ w).symm
  | succ first ih =>
    have hindex : index + (first + 1) = index + 1 + first := by omega
    rw [Nat.add_right_comm, decodeFrom_exact_succ, decodeFrom_exact_succ, hindex]
    split
    · rfl
    · rw [andThen_element]
      congr 1
      funext u
      exact ih (index + 1) u

/-- By induction on how many elements are left. Beyond the first element, the index has no effect
but on the mappings. -/
theorem sameEffect_decodeFrom (n m limit first remaining : Nat) {index : Nat} (h : 0 < index)
    (w : Walk) :
    (decodeFrom nav read (.exact n) limit remaining (first + index) w).SameEffect
      ((decodeFrom nav read (.exact m) limit remaining index w).renumbered first) := by
  induction remaining generalizing index w with
  | zero => exact .refl _
  | succ remaining ih =>
    have henter : enterLayer nav (first + index) w = enterLayer nav index w := by
      rw [enterLayer, enterLayer, if_neg (by omega), if_neg (by omega)]
    rw [decodeFrom_exact_succ, decodeFrom_exact_succ, henter]
    split
    · exact .refl _
    · exact sameEffect_element _ first index fun u => ih (Nat.succ_pos index) u

/-- The second half is a list of its own in the next layer. The first element of a list takes no
step, so the one between the halves is all that is missing. -/
theorem sameEffect_inNextLayer {d : Decoder V N T} {type : String} {read : Reader V N}
    (hread : d.readers type = some read) (n : Nat) {first second : Nat} (hfirst : 1 ≤ first)
    (hsecond : 1 ≤ second) (hlimit : second ≤ d.limit) (w : Walk) :
    (decodeFrom d.navigator read (.exact n) d.limit second first w).SameEffect
      (Run.inNextLayer d.navigator
        (fun u => (d.decode type (.exact second) u).renumbered first) w) := by
  obtain ⟨remaining, rfl⟩ := Nat.exists_eq_add_of_le' hsecond
  have henter : enterLayer d.navigator first w = w.nextLayer d.navigator := if_neg (by omega)
  rw [decodeFrom_exact_succ, henter, Run.inNextLayer]
  split
  · exact .refl _
  · rename_i u _
    have hstart : enterLayer d.navigator 0 u = .ok u := rfl
    rw [d.decode_of_reader (elementBound_exact hlimit) hread, Run.renumbered_withLog,
      decodeFrom_exact_succ, hstart]
    apply Run.SameEffect.withLog_right
    exact sameEffect_element _ first 0 fun restored =>
      sameEffect_decodeFrom _ read _ _ _ first remaining Nat.one_pos restored

theorem decode_of_no_reader (d : Decoder V N T) {type : String} {n : Nat} (hn : n ≤ d.limit)
    (hread : d.readers type = none) (w : Walk) :
    d.decode type (.exact n) w = .failed (.unsupportedModelType type) w [] := by
  rw [decode, elementBound_exact hn]
  dsimp only
  rw [hread]

end Decoder

/-! ## The law -/

/-- A list of known length, cut anywhere between its first and its last element, has the effect of
its two halves: the first half as a list, a step to the next layer, and the second half as a list
with its indices counted on. Where one of these fails, the list fails in the same way. -/
theorem an_exact_list_is_its_two_halves [LayerRule T] [Inhabited V] (d : Decoder V N T)
    (type : String) (w : Walk) {a b : Nat} (ha : 1 ≤ a) (hb : 1 ≤ b) (hlimit : a + b ≤ d.limit) :
    (d.decode type (.exact (a + b)) w).SameEffect
      ((d.decode type (.exact a) w).andThen
        (Run.inNextLayer d.navigator fun u => (d.decode type (.exact b) u).renumbered a)) := by
  have hfirst : a ≤ d.limit := by omega
  have hsecond : b ≤ d.limit := by omega
  cases hread : d.readers type with
  | none =>
    rw [d.decode_of_no_reader hlimit hread, d.decode_of_no_reader hfirst hread]
    exact .refl _
  | some read =>
    rw [d.decode_of_reader (Decoder.elementBound_exact hlimit) hread,
      d.decode_of_reader (Decoder.elementBound_exact hfirst) hread, Run.andThen_withLog,
      Decoder.decodeFrom_add _ _ _ a, Nat.zero_add]
    apply Run.SameEffect.withLog
    apply Run.sameEffect_andThen
    exact Decoder.sameEffect_inNextLayer hread _ ha hb hsecond

/-- Five rows are two rows and three more, though a reading may leave more saved than there was. In
the last row of the grid one row can be read, but not two, since there is no layer for the other. -/
theorem five_rows_are_two_rows_and_three_more :
    let d : Decoder Nat Unit := ⟨.single .rows, fun _ => some .skippingRows, 10⟩
    let w : Walk := ⟨State.start ⟨1, 1⟩, []⟩
    let last : Walk := ⟨State.start ⟨1048576, 1⟩, []⟩
    let next (first more : Nat) : Walk → Run Nat Unit :=
      Run.inNextLayer d.navigator fun u => (d.decode "row" (.exact more) u).renumbered first
    (d.decode "row" (.exact 2) w).outcome = .ok [1, 3] ∧
    (d.decode "row" (.exact 5) w).outcome = .ok [1, 3, 5, 0, 0] ∧
    (d.decode "row" (.exact 5) w).SameEffect ((d.decode "row" (.exact 2) w).andThen (next 2 3)) ∧
    (d.decode "row" (.exact 1) last).outcome = .ok [0] ∧
    (d.decode "row" (.exact 2) last).outcome = .error (.grid (.rowOutOfBounds 1048577)) ∧
    (d.decode "row" (.exact 2) last).SameEffect
      ((d.decode "row" (.exact 1) last).andThen (next 1 1)) := by
  intro d w last next
  have hfive := an_exact_list_is_its_two_halves d "row" w (a := 2) (b := 3) (by decide) (by decide)
    (by decide)
  have htwo := an_exact_list_is_its_two_halves d "row" last (a := 1) (b := 1) (by decide)
    (by decide) (by decide)
  subst next last w d
  exact ⟨rfl, rfl, hfive, rfl, rfl, htwo⟩

end GridTemplate
