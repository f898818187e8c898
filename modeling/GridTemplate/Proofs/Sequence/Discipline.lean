-- Readers that leave the saved states as they found them. Decoding a list saves one state before
-- each reading and restores it afterwards, so with such a reader the saved states are the same
-- before and after the list, however the decoding ends.
import GridTemplate.Sequence.Decode

namespace GridTemplate

variable {V N : Type}

/-- Whatever a reading gives, the saved states are the same after it as before. -/
def Reader.Disciplined (read : Reader V N) : Prop := ∀ w, (read w).walk.saved = w.saved

/-- The saved states are those of the walk that the run began with, nothing was restored that had
not been saved, and after each attempt the state that was saved before it came back. -/
structure Run.Balanced (run : Run V N) (entry : Walk) : Prop where
  saved : run.walk.saved = entry.saved
  no_underflow : run.outcome ≠ .error .stackUnderflow
  restored : ∀ a ∈ run.attempts,
    ∃ u : Walk, u.saved = entry.saved ∧ a.entry = u.push ∧ a.exit.pop = .ok u

/-! ## One attempt -/

/-- After an attempt of a disciplined reader the walk before it can be restored. -/
theorem Attempt.pop_exit_make {read : Reader V N} (h : read.Disciplined) (w : Walk) :
    (Attempt.make read w).exit.pop = .ok w := by
  rw [Walk.pop_eq_ok_iff]
  exact h w.push

theorem Run.following_make {read : Reader V N} (h : read.Disciplined) (w : Walk)
    (next : Walk → Run V N) : Run.following (Attempt.make read w) next = next w := by
  unfold Run.following
  rw [Attempt.pop_exit_make h]

/-! ## The parts of a run -/

namespace Run

theorem balanced_ended {w entry : Walk} (log : List Record) (h : w.saved = entry.saved) :
    (ended w log : Run V N).Balanced entry where
  saved := h
  no_underflow := by simp [ended]
  restored := by simp [ended]

theorem balanced_failed {w entry : Walk} {e : Error} (log : List Record)
    (h : w.saved = entry.saved) (he : e ≠ .stackUnderflow) :
    (failed e w log : Run V N).Balanced entry where
  saved := h
  no_underflow := by simpa [failed] using he
  restored := by simp [failed]

theorem Balanced.withElement {run : Run V N} {entry : Walk} (h : run.Balanced entry) (value : V)
    (mapping : Mapping) : (run.withElement value mapping).Balanced entry where
  saved := h.saved
  no_underflow := by
    have hne := h.no_underflow
    rw [outcome_withElement]
    cases ho : run.outcome with
    | ok vs => simp [Except.map]
    | error e => simpa [Except.map, ho] using hne
  restored := h.restored

theorem Balanced.withLog {run : Run V N} {entry : Walk} (h : run.Balanced entry)
    (records : List Record) : (run.withLog records).Balanced entry where
  saved := h.saved
  no_underflow := h.no_underflow
  restored := h.restored

theorem Balanced.withAttempt {run : Run V N} {entry w : Walk} {read : Reader V N}
    (h : run.Balanced entry) (hread : read.Disciplined) (hw : w.saved = entry.saved) :
    (run.withAttempt (.make read w)).Balanced entry where
  saved := h.saved
  no_underflow := h.no_underflow
  restored := by
    intro a ha
    rw [attempts_withAttempt, List.mem_cons] at ha
    rcases ha with rfl | ha
    · exact ⟨w, hw, rfl, Attempt.pop_exit_make hread w⟩
    · exact h.restored a ha

end Run

/-! ## Steps to a layer -/

variable {T : Type} [LayerRule T]

theorem Walk.nextLayer_ne_underflow {nav : T} {w : Walk} {e : Error}
    (h : w.nextLayer nav = .error e) : e ≠ .stackUnderflow := by
  unfold Walk.nextLayer at h
  split at h
  · cases h
  · cases h
    simp

namespace Decoder

theorem saved_of_enterLayer {nav : T} {index : Nat} {w u : Walk}
    (h : enterLayer nav index w = .ok u) : u.saved = w.saved := by
  unfold enterLayer at h
  split at h
  · cases h
    rfl
  · exact Walk.saved_of_nextLayer h

theorem enterLayer_ne_underflow {nav : T} {index : Nat} {w : Walk} {e : Error}
    (h : enterLayer nav index w = .error e) : e ≠ .stackUnderflow := by
  unfold enterLayer at h
  split at h
  · cases h
  · exact Walk.nextLayer_ne_underflow h

/-! ## The whole list -/

theorem balanced_probe {read : Reader V N} (hread : read.Disciplined) (nav : T)
    (limit : Nat) {w entry : Walk} (hw : w.saved = entry.saved) :
    (probe nav read limit w).Balanced entry := by
  unfold probe
  split
  · exact Run.balanced_ended _ hw
  · rename_i u hu
    have hsaved : u.saved = entry.saved := (Walk.saved_of_nextLayer hu).trans hw
    unfold probed
    rw [Run.following_make hread]
    refine Run.Balanced.withAttempt ?_ hread hsaved
    split
    · exact Run.balanced_failed _ hsaved (by simp)
    · exact Run.balanced_ended _ hsaved

theorem balanced_element [Inhabited V] {read : Reader V N} (hread : read.Disciplined)
    {w entry : Walk} (index : Nat) {next : Walk → Run V N} (hw : w.saved = entry.saved)
    (hnext : (next w).Balanced entry) :
    (element (.make read w) index next).Balanced entry := by
  unfold element
  rw [Run.following_make hread]
  exact ((hnext.withElement _ _).withLog _).withAttempt hread hw

theorem balanced_stopped {read : Reader V N} (hread : read.Disciplined) {w entry : Walk}
    (index : Nat) (hw : w.saved = entry.saved) :
    (stopped (.make read w) index).Balanced entry := by
  unfold stopped
  rw [Run.following_make hread]
  exact (Run.balanced_ended _ hw).withAttempt hread hw

/-- Every way out of the loop lies between a save and its restore. -/
theorem balanced_decodeFrom [Inhabited V] {read : Reader V N} (hread : read.Disciplined)
    (nav : T) (length : SequenceLength) (limit remaining index : Nat) {w entry : Walk}
    (hw : w.saved = entry.saved) :
    (decodeFrom nav read length limit remaining index w).Balanced entry := by
  induction remaining generalizing index w with
  | zero =>
    unfold decodeFrom
    cases length with
    | exact n => exact Run.balanced_ended _ hw
    | unbounded => exact balanced_probe hread nav limit hw
  | succ remaining ih =>
    unfold decodeFrom
    split
    · rename_i e he
      cases length with
      | exact n => exact Run.balanced_failed _ hw (enterLayer_ne_underflow he)
      | unbounded => exact Run.balanced_ended _ hw
    · rename_i u hu
      have hsaved : u.saved = entry.saved := (saved_of_enterLayer hu).trans hw
      dsimp only
      split
      · exact balanced_stopped hread index hsaved
      · exact balanced_element hread index hsaved (ih (index + 1) hsaved)

theorem elementBound_ne_underflow {limit : Nat} {length : SequenceLength} {e : Error}
    (h : elementBound limit length = .error e) : e ≠ .stackUnderflow := by
  unfold elementBound at h
  split at h
  · split at h
    · cases h
      simp
    · cases h
  · cases h

/-- Decoding a list with a disciplined reader is balanced, whatever it gives. -/
theorem balanced_decode [Inhabited V] (d : Decoder V N T) (type : String)
    (length : SequenceLength) (w : Walk)
    (h : ∀ read, d.readers type = some read → read.Disciplined) :
    (d.decode type length w).Balanced w := by
  unfold decode
  split
  · exact Run.balanced_failed _ rfl (elementBound_ne_underflow ‹_›)
  · split
    · exact Run.balanced_failed _ rfl (by simp)
    · rename_i read hread
      exact (balanced_decodeFrom (h read hread) _ _ _ _ _ rfl).withLog _

theorem ofCount_ne_underflow {count : Int} {e : Error}
    (h : SequenceLength.ofCount count = .error e) : e ≠ .stackUnderflow := by
  unfold SequenceLength.ofCount at h
  split at h
  · cases h
  · split at h
    · cases h
    · cases h
      simp

theorem balanced_decodeCount [Inhabited V] (d : Decoder V N T) (type : String) (count : Int)
    (w : Walk) (h : ∀ read, d.readers type = some read → read.Disciplined) :
    (d.decodeCount type count w).Balanced w := by
  unfold decodeCount
  split
  · exact Run.balanced_failed _ rfl (ofCount_ne_underflow ‹_›)
  · exact d.balanced_decode type _ w h

end Decoder

end GridTemplate
