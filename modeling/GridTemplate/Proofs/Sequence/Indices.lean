-- The indices of mappings. An index can be read back from the path that it writes. However a list
-- is read and however its decoding ends, the elements that are mapped are the first ones, in order
-- and without a gap, and no more than the limit allows.
import GridTemplate.Proofs.Cell.Numerals
import GridTemplate.Proofs.Path.Decomposition
import GridTemplate.Sequence.Decode
import GridTemplate.Text.Integer

namespace GridTemplate

variable {V N T : Type}

/-! ## Indices as text -/

theorem toList_indexPath (i : Nat) :
    (indexPath i).toList = '[' :: (Nat.toDigits 10 i ++ [']']) := by
  simp [indexPath]

theorem isInsideBrackets_of_isDigit {c : Char} (h : c.isDigit = true) :
    isInsideBrackets c = true := by
  rw [isInsideBrackets_iff]
  constructor
  · rintro rfl
    exact absurd h (by decide)
  · rintro rfl
    exact absurd h (by decide)

theorem isInsideBrackets_toDigits (i : Nat) :
    ∀ c ∈ Nat.toDigits 10 i, isInsideBrackets c = true :=
  fun c hc => isInsideBrackets_of_isDigit (isDigit_toDigits i c hc)

theorem digitsValue?_toDigits (n : Nat) : digitsValue? (Nat.toDigits 10 n) = some n := by
  have hall : (Nat.toDigits 10 n).all Char.isDigit = true :=
    List.all_eq_true.mpr (isDigit_toDigits n)
  rw [digitsValue?, if_pos ⟨Nat.toDigits_ne_nil, hall⟩,
    Nat.ofDigitChars_toDigits (by decide) (by decide)]

/-- The index that a path writes, if it is nothing but an index. -/
def indexOf? (path : String) : Option Nat := (bracketed? path.toList).bind digitsValue?

theorem indexOf?_indexPath (i : Nat) : indexOf? (indexPath i) = some i := by
  have hkey : bracketed? (indexPath i).toList = some (Nat.toDigits 10 i) :=
    (bracketed?_eq_some_iff _ _).mpr
      ⟨toList_indexPath i, List.all_eq_true.mpr (isInsideBrackets_toDigits i)⟩
  rw [indexOf?, hkey, Option.bind_some, digitsValue?_toDigits]

theorem indexPath_injective : Function.Injective indexPath := by
  intro i j h
  have hindex := indexOf?_indexPath i
  rw [h, indexOf?_indexPath, Option.some.injEq] at hindex
  exact hindex.symm

/-! ## The paths of the mappings -/

/-- The paths of the mappings are the indices from a first one on, at most so many of them. -/
structure Run.Numbered (run : Run V N) (first bound : Nat) : Prop where
  paths : run.mappings.map Mapping.path =
    (List.range' first run.mappings.length).map indexPath
  length_le : run.mappings.length ≤ bound

namespace Run

/-! ## The parts of a run -/

theorem numbered_ended (w : Walk) (log : List Record) (first bound : Nat) :
    (ended w log : Run V N).Numbered first bound where
  paths := rfl
  length_le := Nat.zero_le _

theorem numbered_failed (e : Error) (w : Walk) (log : List Record) (first bound : Nat) :
    (failed e w log : Run V N).Numbered first bound where
  paths := rfl
  length_le := Nat.zero_le _

theorem numbered_following (attempt : Attempt V N) {next : Walk → Run V N} {first bound : Nat}
    (h : ∀ u, (next u).Numbered first bound) :
    (following attempt next).Numbered first bound := by
  unfold following
  split
  · exact numbered_failed _ _ _ _ _
  · exact h _

theorem Numbered.mono {run : Run V N} {first bound more : Nat} (h : run.Numbered first bound)
    (hle : bound ≤ more) : run.Numbered first more :=
  ⟨h.paths, Nat.le_trans h.length_le hle⟩

theorem Numbered.withLog {run : Run V N} {first bound : Nat} (h : run.Numbered first bound)
    (records : List Record) : (run.withLog records).Numbered first bound :=
  ⟨h.paths, h.length_le⟩

theorem Numbered.withAttempt {run : Run V N} {first bound : Nat} (h : run.Numbered first bound)
    (attempt : Attempt V N) : (run.withAttempt attempt).Numbered first bound :=
  ⟨h.paths, h.length_le⟩

theorem Numbered.withElement {run : Run V N} {first bound : Nat}
    (h : run.Numbered (first + 1) bound) (value : V) (cell : String) :
    (run.withElement value ⟨indexPath first, cell⟩).Numbered first (bound + 1) where
  paths := by
    rw [mappings_withElement, List.map_cons, List.length_cons, List.range'_succ, List.map_cons,
      h.paths]
  length_le := Nat.succ_le_succ h.length_le

/-- The mapping at a place of the list names that place. -/
theorem Numbered.path_eq {run : Run V N} {bound i : Nat} {m : Mapping} (h : run.Numbered 0 bound)
    (hm : run.mappings[i]? = some m) : m.path = indexPath i ∧ i < bound := by
  obtain ⟨hlt, -⟩ := List.getElem?_eq_some_iff.mp hm
  have hpath := congrArg (·[i]?) h.paths
  rw [List.getElem?_map, hm, List.getElem?_map, List.getElem?_range' hlt, Option.map_some,
    Option.map_some, Option.some.injEq, Nat.one_mul, Nat.zero_add] at hpath
  exact ⟨hpath, Nat.lt_of_lt_of_le hlt h.length_le⟩

end Run

namespace Decoder

/-! ## The whole list -/

theorem numbered_stopped (attempt : Attempt V N) (index first bound : Nat) :
    (stopped attempt index).Numbered first bound :=
  (Run.numbered_following attempt fun _ => Run.numbered_ended _ _ _ _).withAttempt _

theorem numbered_probed (attempt : Attempt V N) (limit first bound : Nat) :
    (probed attempt limit).Numbered first bound := by
  apply Run.Numbered.withAttempt
  apply Run.numbered_following
  intro u
  split
  · exact Run.numbered_failed _ _ _ _ _
  · exact Run.numbered_ended _ _ _ _

variable [LayerRule T]

theorem numbered_probe (nav : T) (read : Reader V N) (limit : Nat) (w : Walk)
    (first bound : Nat) : (probe nav read limit w).Numbered first bound := by
  unfold probe
  split
  · exact Run.numbered_ended _ _ _ _
  · exact numbered_probed _ _ _ _

variable [Inhabited V]

theorem numbered_element (attempt : Attempt V N) {index bound : Nat} {next : Walk → Run V N}
    (h : ∀ u, (next u).Numbered (index + 1) bound) :
    (element attempt index next).Numbered index (bound + 1) :=
  (((Run.numbered_following attempt h).withElement _ _).withLog _).withAttempt attempt

/-- By induction on how many elements may still be read. -/
theorem numbered_decodeFrom (nav : T) (read : Reader V N) (length : SequenceLength)
    (limit remaining index : Nat) (w : Walk) :
    (decodeFrom nav read length limit remaining index w).Numbered index remaining := by
  induction remaining generalizing index w with
  | zero =>
    unfold decodeFrom
    cases length with
    | exact n => exact Run.numbered_ended _ _ _ _
    | unbounded => exact numbered_probe _ _ _ _ _ _
  | succ remaining ih =>
    unfold decodeFrom
    split
    · cases length with
      | exact n => exact Run.numbered_failed _ _ _ _ _
      | unbounded => exact Run.numbered_ended _ _ _ _
    · dsimp only
      split
      · exact numbered_stopped _ _ _ _
      · exact numbered_element _ (ih (index + 1))

theorem elementBound_le {limit bound : Nat} {length : SequenceLength}
    (h : elementBound limit length = .ok bound) : bound ≤ limit := by
  unfold elementBound at h
  split at h
  · split at h
    · cases h
    · cases h
      omega
  · cases h
    exact Nat.le_refl _

/-- Whatever the reader does and however the decoding ends, the mappings are those of the first
elements of the list. -/
theorem numbered_decode (d : Decoder V N T) (type : String) (length : SequenceLength) (w : Walk) :
    (d.decode type length w).Numbered 0 d.limit := by
  unfold decode
  split
  · exact Run.numbered_failed _ _ _ _ _
  · rename_i bound hbound
    split
    · exact Run.numbered_failed _ _ _ _ _
    · have hle := elementBound_le hbound
      exact ((numbered_decodeFrom _ _ _ _ _ _ _).mono hle).withLog _

end Decoder

end GridTemplate
