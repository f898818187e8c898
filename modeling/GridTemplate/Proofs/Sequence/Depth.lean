-- How many states are saved after a list, for readers that save and restore as they like. Decoding
-- itself saves one state for each that it restores, so what remains is what the readings have
-- added. Only a reading that leaves nothing saved is in the way, and decoding fails there at once.
import GridTemplate.Proofs.Sequence.Discipline

namespace GridTemplate

variable {V N T : Type}

/-- How many more states are saved after an attempt than before it. -/
def Attempt.depthChange (a : Attempt V N) : Int := a.exit.depth - a.entry.depth

namespace Run

/-- What all attempts of a run have added to the saved states. -/
def depthChange (run : Run V N) : Int :=
  run.attempts.foldr (fun attempt total => attempt.depthChange + total) 0

theorem depthChange_withAttempt (run : Run V N) (attempt : Attempt V N) :
    (run.withAttempt attempt).depthChange = attempt.depthChange + run.depthChange := rfl

/-- Each attempt left something saved, and the walk has as many states saved as there were, and what
the attempts have added. -/
structure Kept (run : Run V N) (depth : Nat) : Prop where
  outcome : run.outcome ≠ .error .stackUnderflow
  exits : ∀ a ∈ run.attempts, a.exit.saved ≠ []
  walk : (run.walk.depth : Int) = depth + run.depthChange

/-- The last attempt, and only that, left nothing saved, and the run failed there. The attempts have
taken away all that was saved and also the state that was saved before the last of them. -/
structure Drained (run : Run V N) (depth : Nat) : Prop where
  outcome : run.outcome = .error .stackUnderflow
  exits : ∃ before last, run.attempts = before ++ [last] ∧ (∀ a ∈ before, a.exit.saved ≠ []) ∧
    last.exit.saved = []
  walk : run.walk.depth = 0
  change : run.depthChange = -(depth + 1)

/-- The saved states of a run that begins with so many of them are accounted for. -/
def Accounted (run : Run V N) (depth : Nat) : Prop := run.Kept depth ∨ run.Drained depth

/-- The run is what comes after an attempt: it fails if nothing is left saved, and otherwise it goes
on from the state that is restored. -/
structure Follows (run : Run V N) (attempt : Attempt V N) : Prop where
  drained : attempt.exit.saved = [] →
    run.outcome = .error .stackUnderflow ∧ run.attempts = [] ∧ run.walk = attempt.exit
  restored : ∀ u, attempt.exit.pop = .ok u → run.Accounted u.depth

/-! ## The parts of a run -/

theorem accounted_ended {w : Walk} {depth : Nat} (log : List Record) (hw : w.depth = depth) :
    (ended w log : Run V N).Accounted depth :=
  Or.inl ⟨by simp [ended], by simp [ended], by simp [ended, depthChange, hw]⟩

theorem accounted_failed {e : Error} {w : Walk} {depth : Nat} (log : List Record)
    (he : e ≠ .stackUnderflow) (hw : w.depth = depth) :
    (failed e w log : Run V N).Accounted depth :=
  Or.inl ⟨by simpa [failed] using he, by simp [failed], by simp [failed, depthChange, hw]⟩

theorem Accounted.withLog {run : Run V N} {depth : Nat} (h : run.Accounted depth)
    (records : List Record) : (run.withLog records).Accounted depth := by
  rcases h with h | h
  · exact Or.inl ⟨h.outcome, h.exits, h.walk⟩
  · exact Or.inr ⟨h.outcome, h.exits, h.walk, h.change⟩

theorem Accounted.withElement {run : Run V N} {depth : Nat} (h : run.Accounted depth) (value : V)
    (mapping : Mapping) : (run.withElement value mapping).Accounted depth := by
  have herror := run.outcome_withElement_eq_error_iff value mapping .stackUnderflow
  rcases h with h | h
  · exact Or.inl ⟨mt herror.mp h.outcome, h.exits, h.walk⟩
  · exact Or.inr ⟨herror.mpr h.outcome, h.exits, h.walk, h.change⟩

theorem Follows.withLog {run : Run V N} {attempt : Attempt V N} (h : run.Follows attempt)
    (records : List Record) : (run.withLog records).Follows attempt where
  drained := h.drained
  restored := fun u hu => (h.restored u hu).withLog records

theorem Follows.withElement {run : Run V N} {attempt : Attempt V N} (h : run.Follows attempt)
    (value : V) (mapping : Mapping) : (run.withElement value mapping).Follows attempt where
  drained := by
    intro hdrained
    obtain ⟨houtcome, hrest⟩ := h.drained hdrained
    exact ⟨(run.outcome_withElement_eq_error_iff _ _ _).mpr houtcome, hrest⟩
  restored := fun u hu => (h.restored u hu).withElement value mapping

theorem follows_following {attempt : Attempt V N} {next : Walk → Run V N}
    (h : ∀ u, attempt.exit.pop = .ok u → (next u).Accounted u.depth) :
    (following attempt next).Follows attempt where
  drained := by
    intro hdrained
    have hpop := (Walk.pop_eq_error_iff attempt.exit .stackUnderflow).mpr ⟨hdrained, rfl⟩
    rw [following, hpop]
    exact ⟨rfl, rfl, rfl⟩
  restored := by
    intro u hu
    rw [following, hu]
    exact h u hu

/-! ## An attempt and what comes after it -/

section

variable {run : Run V N} {read : Reader V N} {w u : Walk}

/-- The state that is restored takes one away from what the attempt leaves, and that one was saved
before the attempt. -/
theorem depthChange_withAttempt_of_pop (hpop : (Attempt.make read w).exit.pop = .ok u) :
    (run.withAttempt (.make read w)).depthChange = u.depth - w.depth + run.depthChange := by
  have hentry : (Attempt.make read w).entry.depth = w.depth + 1 := rfl
  have hexit : (Attempt.make read w).exit.depth = u.depth + 1 :=
    congrArg List.length ((Walk.pop_eq_ok_iff _ u).mp hpop)
  rw [depthChange_withAttempt, Attempt.depthChange, hentry, hexit]
  omega

theorem exit_saved_ne_nil {attempt : Attempt V N} (hpop : attempt.exit.pop = .ok u) :
    attempt.exit.saved ≠ [] := by
  rw [(Walk.pop_eq_ok_iff _ u).mp hpop]
  simp

theorem Kept.withAttempt (h : run.Kept u.depth) (hpop : (Attempt.make read w).exit.pop = .ok u) :
    (run.withAttempt (.make read w)).Kept w.depth where
  outcome := h.outcome
  exits := List.forall_mem_cons.mpr ⟨exit_saved_ne_nil hpop, h.exits⟩
  walk := by
    have hwalk := h.walk
    rw [walk_withAttempt, depthChange_withAttempt_of_pop hpop]
    omega

theorem Drained.withAttempt (h : run.Drained u.depth)
    (hpop : (Attempt.make read w).exit.pop = .ok u) :
    (run.withAttempt (.make read w)).Drained w.depth where
  outcome := h.outcome
  exits := by
    obtain ⟨before, last, hattempts, hbefore, hlast⟩ := h.exits
    refine ⟨_ :: before, last, ?_,
      List.forall_mem_cons.mpr ⟨exit_saved_ne_nil hpop, hbefore⟩, hlast⟩
    rw [attempts_withAttempt, hattempts, List.cons_append]
  walk := h.walk
  change := by
    have hchange := h.change
    rw [depthChange_withAttempt_of_pop hpop]
    omega

/-- An attempt that leaves nothing saved is the last one. -/
theorem Follows.drained_withAttempt (h : run.Follows (.make read w))
    (hempty : (Attempt.make read w).exit.saved = []) :
    (run.withAttempt (.make read w)).Drained w.depth := by
  obtain ⟨houtcome, hattempts, hwalk⟩ := h.drained hempty
  have hentry : (Attempt.make read w).entry.depth = w.depth + 1 := rfl
  have hexit : (Attempt.make read w).exit.depth = 0 := congrArg List.length hempty
  constructor
  · exact houtcome
  · refine ⟨[], .make read w, ?_, by simp, hempty⟩
    rw [attempts_withAttempt, hattempts, List.nil_append]
  · rw [walk_withAttempt, hwalk, hexit]
  · rw [depthChange_withAttempt, Attempt.depthChange, hentry, hexit, depthChange, hattempts]
    simp

theorem Follows.withAttempt (h : run.Follows (.make read w)) :
    (run.withAttempt (.make read w)).Accounted w.depth := by
  cases hpop : (Attempt.make read w).exit.pop with
  | error e =>
    obtain ⟨hempty, -⟩ := (Walk.pop_eq_error_iff _ e).mp hpop
    exact Or.inr (h.drained_withAttempt hempty)
  | ok u =>
    rcases h.restored u hpop with hkept | hdrained
    · exact Or.inl (hkept.withAttempt hpop)
    · exact Or.inr (hdrained.withAttempt hpop)

end

/-! ## What the account says -/

section

variable {run : Run V N} {depth : Nat} (h : run.Accounted depth)
include h

theorem Accounted.underflow_iff :
    run.outcome = .error .stackUnderflow ↔ ∃ a ∈ run.attempts, a.exit.saved = [] := by
  rcases h with hkept | hdrained
  · simp only [hkept.outcome, false_iff, not_exists, not_and]
    exact hkept.exits
  · obtain ⟨before, last, hattempts, -, hlast⟩ := hdrained.exits
    simp only [hdrained.outcome, true_iff]
    exact ⟨last, by simp [hattempts], hlast⟩

theorem Accounted.nil_of_drained {before after : List (Attempt V N)} {a : Attempt V N}
    (hattempts : run.attempts = before ++ a :: after) (ha : a.exit.saved = []) : after = [] := by
  rcases h with hkept | hdrained
  · exact absurd ha (hkept.exits a (by simp [hattempts]))
  · obtain ⟨earlier, last, hsame, hearlier, -⟩ := hdrained.exits
    rcases List.eq_nil_or_concat after with hnil | ⟨more, other, rfl⟩
    · exact hnil
    · -- otherwise the attempt is one of those before the last
      rw [hattempts, List.concat_eq_append, ← List.cons_append, ← List.append_assoc] at hsame
      obtain ⟨rfl, -⟩ := List.append_inj' hsame rfl
      exact absurd ha (hearlier a (by simp))

theorem Accounted.kept_of_ne (hne : run.outcome ≠ .error .stackUnderflow) : run.Kept depth := by
  rcases h with hkept | hdrained
  · exact hkept
  · exact absurd hdrained.outcome hne

theorem Accounted.drained_of_eq (heq : run.outcome = .error .stackUnderflow) :
    run.Drained depth := by
  rcases h with hkept | hdrained
  · exact absurd heq hkept.outcome
  · exact hdrained

theorem Accounted.depth_eq_iff :
    (run.outcome ≠ .error .stackUnderflow ∧ run.walk.depth = depth) ↔ run.depthChange = 0 := by
  rcases h with hkept | hdrained
  · have hwalk := hkept.walk
    simp only [hkept.outcome, ne_eq, not_false_eq_true, true_and]
    omega
  · have hchange := hdrained.change
    simp only [hdrained.outcome, ne_eq, not_true_eq_false, false_and, false_iff]
    omega

end

end Run

namespace Decoder

/-! ## The whole list -/

theorem accounted_stopped (read : Reader V N) (w : Walk) (index : Nat) :
    (stopped (.make read w) index).Accounted w.depth := by
  apply Run.Follows.withAttempt
  exact Run.follows_following fun u _ => Run.accounted_ended _ rfl

theorem accounted_probed (read : Reader V N) (w : Walk) (limit : Nat) :
    (probed (.make read w) limit).Accounted w.depth := by
  apply Run.Follows.withAttempt
  apply Run.follows_following
  intro u _
  split
  · exact Run.accounted_failed _ (by simp) rfl
  · exact Run.accounted_ended _ rfl

theorem accounted_element [Inhabited V] (read : Reader V N) (w : Walk) (index : Nat)
    {next : Walk → Run V N} (h : ∀ u, (next u).Accounted u.depth) :
    (element (.make read w) index next).Accounted w.depth := by
  apply Run.Follows.withAttempt
  exact ((Run.follows_following fun u _ => h u).withElement _ _).withLog _

variable [LayerRule T]

theorem accounted_probe (nav : T) (read : Reader V N) (limit : Nat) (w : Walk) :
    (probe nav read limit w).Accounted w.depth := by
  unfold probe
  split
  · exact Run.accounted_ended _ rfl
  · rename_i u hu
    have hdepth : u.depth = w.depth := congrArg List.length (Walk.saved_of_nextLayer hu)
    rw [← hdepth]
    exact accounted_probed read u limit

/-- By induction on how many elements may still be read. Each element goes on from what the attempt
before it has left. -/
theorem accounted_decodeFrom [Inhabited V] (nav : T) (read : Reader V N) (length : SequenceLength)
    (limit remaining index : Nat) (w : Walk) :
    (decodeFrom nav read length limit remaining index w).Accounted w.depth := by
  induction remaining generalizing index w with
  | zero =>
    unfold decodeFrom
    cases length with
    | exact n => exact Run.accounted_ended _ rfl
    | unbounded => exact accounted_probe nav read limit w
  | succ remaining ih =>
    unfold decodeFrom
    split
    · rename_i e he
      cases length with
      | exact n => exact Run.accounted_failed _ (enterLayer_ne_underflow he) rfl
      | unbounded => exact Run.accounted_ended _ rfl
    · rename_i u hu
      have hdepth : u.depth = w.depth := congrArg List.length (saved_of_enterLayer hu)
      rw [← hdepth]
      dsimp only
      split
      · exact accounted_stopped read u index
      · exact accounted_element read u index fun restored => ih (index + 1) restored

theorem accounted_decode [Inhabited V] (d : Decoder V N T) (type : String)
    (length : SequenceLength) (w : Walk) : (d.decode type length w).Accounted w.depth := by
  unfold decode
  split
  · exact Run.accounted_failed _ (elementBound_ne_underflow ‹_›) rfl
  · split
    · exact Run.accounted_failed _ (by simp) rfl
    · exact (accounted_decodeFrom _ _ _ _ _ _ _).withLog _

end Decoder

/-! ## The law -/

/-- Decoding fails for want of a saved state exactly if an attempt leaves nothing saved, and that is
the last attempt. Otherwise as many states are saved in the end as in the beginning, and what the
attempts have added. So the number is the same as before exactly if the attempts have added nothing
together. When nothing was left saved, they have taken away one state more than there was. -/
theorem the_saved_states_of_a_list_add_up [LayerRule T] [Inhabited V] (d : Decoder V N T)
    (type : String) (length : SequenceLength) (w : Walk) :
    let run := d.decode type length w
    (run.outcome = .error .stackUnderflow ↔ ∃ a ∈ run.attempts, a.exit.saved = []) ∧
    (∀ before a after, run.attempts = before ++ a :: after → a.exit.saved = [] → after = []) ∧
    (run.outcome ≠ .error .stackUnderflow →
      (run.walk.depth : Int) = w.depth + run.depthChange) ∧
    (run.outcome = .error .stackUnderflow →
      run.walk.depth = 0 ∧ run.depthChange = -(w.depth + 1)) ∧
    ((run.outcome ≠ .error .stackUnderflow ∧ run.walk.depth = w.depth) ↔ run.depthChange = 0) := by
  intro run
  have h : run.Accounted w.depth := d.accounted_decode type length w
  exact ⟨h.underflow_iff, fun _ _ _ => h.nil_of_drained, fun hne => (h.kept_of_ne hne).walk,
    fun heq => ⟨(h.drained_of_eq heq).walk, (h.drained_of_eq heq).change⟩, h.depth_eq_iff⟩

/-- Reads the numbers of rows. In the first row it saves a state and forgets all of them in any
other one. -/
def Reader.hoarding : Reader Nat Unit := fun w =>
  ⟨some w.cursor.row, if w.cursor.row = 1 then w.push else { w with saved := [] }, [], ()⟩

/-- One row leaves a state more than there was. Three rows are too many, since the second forgets
the states and the third is not tried. -/
theorem a_forgotten_state_ends_a_list :
    let d : Decoder Nat Unit := ⟨.single .rows, fun _ => some .hoarding, 10⟩
    let w : Walk := ⟨State.start ⟨1, 1⟩, [State.start ⟨7, 7⟩]⟩
    let one := d.decode "row" (.exact 1) w
    let three := d.decode "row" (.exact 3) w
    one.outcome = .ok [1] ∧ one.depthChange = 1 ∧ (one.walk.depth : Int) = w.depth + 1 ∧
    three.attempts.length = 2 ∧ three.outcome = .error .stackUnderflow ∧ three.walk.depth = 0 ∧
    three.depthChange = -2 := by
  intro d w one three
  obtain ⟨-, -, hkept, -, -⟩ := the_saved_states_of_a_list_add_up d "row" (.exact 1) w
  obtain ⟨hunderflow, -, -, hdrained, -⟩ := the_saved_states_of_a_list_add_up d "row" (.exact 3) w
  have hone : one.outcome = .ok [1] := rfl
  have hthree : three.outcome = .error .stackUnderflow := by
    apply hunderflow.mpr
    exact ⟨_, List.mem_cons_of_mem _ List.mem_cons_self, rfl⟩
  obtain ⟨hwalk, hchange⟩ := hdrained hthree
  refine ⟨hone, rfl, hkept ?_, rfl, hthree, hwalk, hchange⟩
  change one.outcome ≠ _
  rw [hone]
  simp

end GridTemplate
