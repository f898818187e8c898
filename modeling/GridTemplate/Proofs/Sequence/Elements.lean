-- The run of a list in closed form, for a disciplined reader: the elements that are taken, one after
-- the other, and then the end. Since every attempt restores the walk before it, each element is read
-- in its own layer, whatever the readings before it did.
import GridTemplate.Proofs.Sequence.Discipline
import GridTemplate.Proofs.Sequence.Layers

namespace GridTemplate

/-! ## Counting from the first one on -/

/-- How many of the numbers below a bound have a property, counted until the first that has not. -/
def leading (p : Nat → Bool) (n : Nat) : Nat := ((List.range n).takeWhile p).length

theorem leading_le (p : Nat → Bool) (n : Nat) : leading p n ≤ n := by
  have h := (List.takeWhile_prefix p (l := List.range n)).length_le
  rwa [List.length_range] at h

theorem takeWhile_range (p : Nat → Bool) (n : Nat) :
    (List.range n).takeWhile p = List.range (leading p n) := by
  have h := List.prefix_iff_eq_take.mp (List.takeWhile_prefix p (l := List.range n))
  rw [List.take_range] at h
  rw [h]
  exact congrArg List.range (Nat.min_eq_left (leading_le p n))

theorem leading_holds {p : Nat → Bool} {n i : Nat} (h : i < leading p n) : p i = true := by
  have hmem : i ∈ (List.range n).takeWhile p := by
    rw [takeWhile_range]
    exact List.mem_range.mpr h
  exact List.all_eq_true.mp List.all_takeWhile i hmem

theorem leading_succ (p : Nat → Bool) (n : Nat) :
    leading p (n + 1) = if leading p n = n ∧ p n = true then n + 1 else leading p n := by
  unfold leading
  rw [List.range_succ, List.takeWhile_append, List.length_range]
  by_cases hn : ((List.range n).takeWhile p).length = n
  · by_cases hp : p n = true
    · simp [hn, hp]
    · simp [hn, hp]
  · simp [hn]

theorem leading_fails {p : Nat → Bool} {n : Nat} (h : leading p n < n) :
    p (leading p n) = false := by
  induction n with
  | zero => exact absurd h (Nat.not_lt_zero _)
  | succ n ih =>
    rw [leading_succ] at h ⊢
    by_cases hc : leading p n = n ∧ p n = true
    · rw [if_pos hc] at h
      exact absurd h (Nat.lt_irrefl _)
    · rw [if_neg hc] at h ⊢
      have hle := leading_le p n
      by_cases hn : leading p n = n
      · rw [hn]
        simpa [hn] using hc
      · exact ih (by omega)

/-- The count is the only number that all before it reach and that it cannot go beyond. -/
theorem leading_eq {p : Nat → Bool} {n k : Nat} (hk : k ≤ n) (hall : ∀ i < k, p i = true)
    (hend : k < n → p k = false) : leading p n = k := by
  have hle := leading_le p n
  rcases Nat.lt_trichotomy (leading p n) k with h | h | h
  · have hfails := leading_fails (p := p) (n := n) (by omega)
    rw [hall _ h] at hfails
    cases hfails
  · exact h
  · have hholds := leading_holds h
    rw [hend (by omega)] at hholds
    cases hholds

namespace Layout

variable {V N : Type} (l : Layout V N)

/-! ## The parts of a list -/

/-- Whether an element is taken into a list. It must have a place on the grid, and if nothing is
known of the length it must be readable too. -/
def takes (length : SequenceLength) (i : Nat) : Bool :=
  decide (l.HasLayer i) && (decide (length ≠ .unbounded) || (l.attempt i).succeeded)

theorem takes_iff (length : SequenceLength) (i : Nat) :
    l.takes length i = true ↔
      l.HasLayer i ∧ ¬ (length = .unbounded ∧ (l.attempt i).succeeded = false) := by
  by_cases hl : length = .unbounded <;> simp [takes, hl]

theorem takes_unbounded : l.takes .unbounded = l.readable := by
  funext i
  simp [takes, readable]

theorem takes_exact (n : Nat) : l.takes (.exact n) = fun i => decide (l.HasLayer i) := by
  funext i
  simp [takes]

/-- The elements that are taken from an index on, up to a number of them. -/
def taken (length : SequenceLength) (index remaining : Nat) : List Nat :=
  (List.range' index remaining).takeWhile (l.takes length)

/-- An element, with a rest that comes after it. -/
def element [Inhabited V] (i : Nat) (rest : Run V N) : Run V N :=
  Run.withAttempt
    (Run.withLog (Run.withElement rest (l.value i) (l.mapping i))
      (Decoder.elementRecords i (l.attempt i).exit.cursor (l.attempt i).succeeded))
    (l.attempt i)

/-- Elements in order, with a rest that comes after them. -/
def elements [Inhabited V] (is : List Nat) (rest : Run V N) : Run V N := is.foldr l.element rest

/-- The end before an element that is not taken. If it has a place on the grid, an attempt has
shown that it cannot be read. -/
def refused (length : SequenceLength) (i : Nat) : Run V N :=
  if l.HasLayer i then
    Run.withAttempt (.ended (l.walkAt i) [.sequenceEnded i (l.walkAt i).cursor]) (l.attempt i)
  else
    match length with
    | .exact _ => .failed (l.fault i) (l.walkAt (i - 1)) []
    | .unbounded => .ended (l.walkAt (i - 1)) [.gridEdgeReached i (l.fault i)]

/-- The end at the limit, where the layer of one element more is looked at. -/
def probed (limit i : Nat) : Run V N :=
  if l.HasLayer i then
    Run.withAttempt
      (if (l.attempt i).succeeded then
        .failed (.collectionTooLarge (limit + 1) limit) (l.walkAt i)
          [.limitExceeded limit (l.walkAt i).cursor]
      else .ended (l.walkAt i) [])
      (l.attempt i)
  else .ended (l.walkAt (i - 1)) []

/-- The end of a list with as many elements as it may have. A list of unknown length is probed in
the layer after its last element, and in the second layer if it may have none. -/
def complete (length : SequenceLength) (limit n : Nat) : Run V N :=
  match length with
  | .exact _ => .ended (l.walkAt (n - 1)) []
  | .unbounded => l.probed limit (max n 1)

/-- A list from its first element on, of up to a number of elements. -/
def run [Inhabited V] (length : SequenceLength) (limit bound : Nat) : Run V N :=
  l.elements (List.range (leading (l.takes length) bound))
    (if leading (l.takes length) bound < bound then
      l.refused length (leading (l.takes length) bound)
    else l.complete length limit bound)

/-! ## What elements add to the rest -/

section

variable [Inhabited V] (is : List Nat) (rest : Run V N)

@[simp] theorem outcome_elements :
    (l.elements is rest).outcome = rest.outcome.map (is.map l.value ++ ·) := by
  induction is with
  | nil => cases h : rest.outcome <;> simp [elements, h, Except.map]
  | cons i is ih =>
    change (Run.outcome (l.elements is rest)).map (l.value i :: ·) = _
    rw [ih]
    cases rest.outcome <;> rfl

@[simp] theorem walk_elements : (l.elements is rest).walk = rest.walk := by
  induction is with
  | nil => rfl
  | cons i is ih => exact ih

@[simp] theorem mappings_elements :
    (l.elements is rest).mappings = is.map l.mapping ++ rest.mappings := by
  induction is with
  | nil => rfl
  | cons i is ih => exact congrArg (l.mapping i :: ·) ih

@[simp] theorem attempts_elements :
    (l.elements is rest).attempts = is.map l.attempt ++ rest.attempts := by
  induction is with
  | nil => rfl
  | cons i is ih => exact congrArg (l.attempt i :: ·) ih

end

/-! ## The run of a list -/

theorem taken_zero (length : SequenceLength) (bound : Nat) :
    l.taken length 0 bound = List.range (leading (l.takes length) bound) := by
  rw [taken, ← List.range_eq_range', takeWhile_range]

section

variable {l} (hread : l.read.Disciplined)
include hread

theorem probe_walkAt (limit i : Nat) :
    Decoder.probe l.navigator l.read limit (l.walkAt (i - 1)) = l.probed limit (max i 1) := by
  have hnext : i - 1 + 1 = max i 1 := by omega
  have hback : max i 1 - 1 = i - 1 := by omega
  unfold Decoder.probe probed
  rw [nextLayer_walkAt, hnext]
  by_cases h : l.HasLayer (max i 1)
  · rw [if_pos h, if_pos h]
    dsimp only
    unfold Decoder.probed
    rw [Run.following_make hread]
    rfl
  · rw [if_neg h, if_neg h, hback]

section

variable [Inhabited V] (length : SequenceLength) (limit remaining index : Nat)

theorem decodeFrom_zero :
    Decoder.decodeFrom l.navigator l.read length limit 0 index (l.walkAt (index - 1)) =
      l.complete length limit index := by
  unfold Decoder.decodeFrom
  cases length with
  | exact n => rfl
  | unbounded => exact probe_walkAt hread limit index

theorem decodeFrom_of_takes (h : l.takes length index = true) :
    Decoder.decodeFrom l.navigator l.read length limit (remaining + 1) index
        (l.walkAt (index - 1)) =
      l.element index (Decoder.decodeFrom l.navigator l.read length limit remaining (index + 1)
        (l.walkAt index)) := by
  obtain ⟨hlayer, hgoes⟩ := (l.takes_iff length index).mp h
  have henter := l.enterLayer_walkAt index
  rw [if_pos hlayer] at henter
  rw [Decoder.decodeFrom, henter]
  dsimp only
  change (if length = .unbounded ∧ (l.attempt index).succeeded = false then _ else _) = _
  rw [if_neg hgoes]
  unfold Decoder.element
  rw [Run.following_make hread]
  rfl

theorem decodeFrom_of_not_takes (h : ¬ l.takes length index = true) :
    Decoder.decodeFrom l.navigator l.read length limit (remaining + 1) index
        (l.walkAt (index - 1)) = l.refused length index := by
  have henter := l.enterLayer_walkAt index
  rw [Decoder.decodeFrom]
  unfold refused
  by_cases hlayer : l.HasLayer index
  · -- the element has its place but cannot be read, and so it ends a list of unknown length
    have hstop : length = .unbounded ∧ (l.attempt index).succeeded = false := by
      simpa [takes_iff, hlayer] using h
    rw [if_pos hlayer] at henter
    rw [henter, if_pos hlayer]
    dsimp only
    change (if length = .unbounded ∧ (l.attempt index).succeeded = false then _ else _) = _
    rw [if_pos hstop]
    unfold Decoder.stopped
    rw [Run.following_make hread]
    rfl
  · rw [if_neg hlayer] at henter
    rw [henter]
    cases length with
    | exact n => exact (if_neg hlayer).symm
    | unbounded => exact (if_neg hlayer).symm

/-- From any element on, a list is the elements that are taken and then its end. -/
theorem decodeFrom_walkAt :
    Decoder.decodeFrom l.navigator l.read length limit remaining index (l.walkAt (index - 1)) =
      l.elements (l.taken length index remaining)
        (if (l.taken length index remaining).length < remaining then
          l.refused length (index + (l.taken length index remaining).length)
        else l.complete length limit (index + remaining)) := by
  induction remaining generalizing index with
  | zero => exact decodeFrom_zero hread length limit index
  | succ remaining ih =>
    by_cases htakes : l.takes length index = true
    · have htaken : l.taken length index (remaining + 1) =
          index :: l.taken length (index + 1) remaining := by
        rw [taken, List.range'_succ, List.takeWhile_cons_of_pos htakes, taken]
      have hrest := ih (index + 1)
      rw [Nat.add_sub_cancel] at hrest
      rw [decodeFrom_of_takes hread length limit remaining index htakes, hrest, htaken]
      simp only [List.length_cons, Nat.add_lt_add_iff_right, Nat.add_assoc, Nat.add_comm 1]
      rfl
    · have htaken : l.taken length index (remaining + 1) = [] := by
        rw [taken, List.range'_succ, List.takeWhile_cons_of_neg htakes]
      rw [decodeFrom_of_not_takes hread length limit remaining index htakes, htaken]
      simp [elements]

end

end

theorem decode_eq_run [Inhabited V] {d : Decoder V N} {type : String} {read : Reader V N}
    (hread : d.readers type = some read) (hdisc : read.Disciplined) {length : SequenceLength}
    {bound : Nat} (hbound : Decoder.elementBound d.limit length = .ok bound) (w : Walk) :
    d.decode type length w =
      (run ⟨d.navigator, read, w⟩ length d.limit bound).withLog
        [.decodeStarted length w.cursor] := by
  have hrun := decodeFrom_walkAt (l := ⟨d.navigator, read, w⟩) hdisc length d.limit bound 0
  rw [taken_zero, List.length_range, Nat.zero_add, Nat.zero_add] at hrun
  unfold Decoder.decode
  rw [hbound]
  dsimp only
  rw [hread, run, ← hrun]
  rfl

end Layout

end GridTemplate
