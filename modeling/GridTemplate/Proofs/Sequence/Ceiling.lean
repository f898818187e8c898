-- One list under two limits. A limit that lets some element through is nothing but a check of the
-- length: the list is the same under a greater limit, or it is refused. A limit of zero is not such
-- a check, since it looks at the second layer of the list and never at the first.
import GridTemplate.Proofs.Sequence.Unbounded

namespace GridTemplate

namespace Layout

variable {V N : Type} (l : Layout V N)

/-- What the run of a list under a limit owes to its run under a greater one. It is the same run if
the list is short enough, it fails if the list is longer, and it fails exactly if each element up
to the limit, and one more, can be read in its own layer. -/
structure CheckedBy (limit : Nat) (tight loose : Run V N) : Prop where
  short : ∀ vs, loose.outcome = .ok vs → vs.length ≤ limit →
    tight.outcome = .ok vs ∧ tight.mappings = loose.mappings ∧
      tight.attempts.length = loose.attempts.length ∧ tight.walk = loose.walk
  long : ∀ vs, loose.outcome = .ok vs → limit < vs.length →
    tight.outcome = .error (.collectionTooLarge (limit + 1) limit)
  tooLarge : ∀ n m, loose.outcome = .error (.collectionTooLarge n m) →
    tight.outcome = .error (.collectionTooLarge (limit + 1) limit)
  fails_iff : (∃ e, tight.outcome = .error e) ↔ ∀ i ≤ limit, l.readable i = true

theorem checkedBy_withLog_iff (limit : Nat) (tight loose : Run V N) (first second : List Record) :
    l.CheckedBy limit (tight.withLog first) (loose.withLog second) ↔
      l.CheckedBy limit tight loose :=
  ⟨fun h => ⟨h.short, h.long, h.tooLarge, h.fails_iff⟩,
    fun h => ⟨h.short, h.long, h.tooLarge, h.fails_iff⟩⟩

/-! ## Counts under two limits -/

theorem readable_of_lt_readableCount {limit i : Nat} (h : i < l.readableCount limit) :
    l.readable i = true := leading_holds h

theorem not_readable_readableCount {limit : Nat} (h : l.readableCount limit < limit) :
    l.readable (l.readableCount limit) = false := leading_fails h

theorem readableCount_zero : l.readableCount 0 = 0 := Nat.le_zero.mp (l.readableCount_le 0)

theorem lastLayer_zero : l.lastLayer 0 = 1 := by
  rw [lastLayer, readableCount_zero, if_neg (Nat.lt_irrefl 0)]
  rfl

theorem readableCount_eq_of_lt {low high : Nat} (hle : low ≤ high)
    (h : l.readableCount high < low) : l.readableCount low = l.readableCount high := by
  apply leading_eq (Nat.le_of_lt h)
  · intro i hi
    exact l.readable_of_lt_readableCount hi
  · intro _
    exact l.not_readable_readableCount (Nat.lt_of_lt_of_le h hle)

theorem readableCount_eq_of_le {low high : Nat} (h : low ≤ l.readableCount high) :
    l.readableCount low = low := by
  apply leading_eq (Nat.le_refl low)
  · intro i hi
    exact l.readable_of_lt_readableCount (Nat.lt_of_lt_of_le hi h)
  · intro hlt
    exact absurd hlt (Nat.lt_irrefl low)

theorem all_readable_iff (limit : Nat) :
    (∀ i ≤ limit, l.readable i = true) ↔
      l.readableCount limit = limit ∧ l.readable limit = true := by
  constructor
  · intro h
    refine ⟨?_, h limit (Nat.le_refl limit)⟩
    rcases Nat.lt_or_eq_of_le (l.readableCount_le limit) with hlt | heq
    · have hfails := l.not_readable_readableCount hlt
      rw [h _ (Nat.le_of_lt hlt)] at hfails
      cases hfails
    · exact heq
  · rintro ⟨hcount, hlast⟩ i hi
    rcases Nat.lt_or_eq_of_le hi with hlt | rfl
    · rw [← hcount] at hlt
      exact l.readable_of_lt_readableCount hlt
    · exact hlast

/-! ## Runs under two limits -/

variable [Inhabited V] {low high : Nat}

theorem outcome_of_stops {limit : Nat}
    (h : ¬ (l.readableCount limit = limit ∧ l.readable (max limit 1) = true)) :
    (l.run .unbounded limit limit).outcome =
      .ok ((List.range (l.readableCount limit)).map l.value) := by
  rw [outcome_run_unbounded, if_neg h]

theorem outcome_of_exceeds {limit : Nat} (hcount : l.readableCount limit = limit)
    (hnext : l.readable (max limit 1) = true) :
    (l.run .unbounded limit limit).outcome =
      .error (.collectionTooLarge (limit + 1) limit) := by
  rw [outcome_run_unbounded, if_pos ⟨hcount, hnext⟩]

/-- Runs that take the same elements and end in the same layer without a failure agree. -/
theorem checkedBy_of_agree
    (hlow : ¬ (l.readableCount low = low ∧ l.readable (max low 1) = true))
    (hhigh : ¬ (l.readableCount high = high ∧ l.readable (max high 1) = true))
    (hcount : l.readableCount low = l.readableCount high)
    (hattempts : (l.lastAttempts (l.lastLayer low)).length =
      (l.lastAttempts (l.lastLayer high)).length)
    (hwalk : l.lastWalk (l.lastLayer low) = l.lastWalk (l.lastLayer high))
    (hread : ¬ ∀ i ≤ low, l.readable i = true) :
    l.CheckedBy low (l.run .unbounded low low) (l.run .unbounded high high) where
  short := by
    intro vs hvs _
    rw [outcome_of_stops l hhigh] at hvs
    refine ⟨?_, ?_, ?_, ?_⟩
    · rw [outcome_of_stops l hlow, hcount, hvs]
    · rw [mappings_run_unbounded, mappings_run_unbounded, hcount]
    · rw [attempts_run_unbounded, attempts_run_unbounded, hcount, List.length_append,
        List.length_append, hattempts]
    · rw [walk_run_unbounded, walk_run_unbounded, hwalk]
  long := by
    intro vs hvs hlen
    rw [outcome_of_stops l hhigh, ← hcount] at hvs
    cases hvs
    have hle := l.readableCount_le low
    simp only [List.length_map, List.length_range] at hlen
    omega
  tooLarge := by
    intro n m hfails
    rw [outcome_of_stops l hhigh] at hfails
    cases hfails
  fails_iff := by
    constructor
    · rintro ⟨e, he⟩
      rw [outcome_of_stops l hlow] at he
      cases he
    · intro h
      exact absurd h hread

theorem checkedBy_of_exceeds (hlow : l.readableCount low = low)
    (hnext : l.readable (max low 1) = true) (hcount : low < l.readableCount high)
    (hread : ∀ i ≤ low, l.readable i = true) :
    l.CheckedBy low (l.run .unbounded low low) (l.run .unbounded high high) where
  short := by
    intro vs hvs hlen
    rw [outcome_run_unbounded] at hvs
    split at hvs
    · cases hvs
    · cases hvs
      simp only [List.length_map, List.length_range] at hlen
      omega
  long := fun _ _ _ => l.outcome_of_exceeds hlow hnext
  tooLarge := fun _ _ _ => l.outcome_of_exceeds hlow hnext
  fails_iff := ⟨fun _ => hread, fun _ => ⟨_, l.outcome_of_exceeds hlow hnext⟩⟩

/-- A limit that lets an element through only checks the length. -/
theorem checkedBy_of_pos (hpos : 0 < low) (h : low < high) :
    l.CheckedBy low (l.run .unbounded low low) (l.run .unbounded high high) := by
  have hmax : max low 1 = low := Nat.max_eq_left hpos
  rcases Nat.lt_trichotomy (l.readableCount high) low with hlt | heq | hgt
  · -- both stop before the lower limit, at the same element
    have hcount := l.readableCount_eq_of_lt (Nat.le_of_lt h) hlt
    have hlast : l.lastLayer low = l.lastLayer high := by
      rw [lastLayer, lastLayer, hcount, if_pos hlt, if_pos (Nat.lt_trans hlt h)]
    have hnot : ¬ ∀ i ≤ low, l.readable i = true := by
      rw [all_readable_iff]
      omega
    refine l.checkedBy_of_agree ?_ ?_ hcount ?_ ?_ hnot
    · omega
    · omega
    · rw [hlast]
    · rw [hlast]
  · -- the element that one run probes is the one at which the other stops
    have hcount : l.readableCount low = low := l.readableCount_eq_of_le (Nat.le_of_eq heq.symm)
    have hstop : l.readable low = false := by
      have hfails := l.not_readable_readableCount (heq ▸ h)
      rwa [heq] at hfails
    have hlast : l.lastLayer low = l.lastLayer high := by
      rw [lastLayer, lastLayer, hcount, heq, if_neg (Nat.lt_irrefl low), if_pos h, hmax]
    have hnot : ¬ ∀ i ≤ low, l.readable i = true := by
      rw [all_readable_iff, hstop]
      simp
    refine l.checkedBy_of_agree ?_ ?_ (hcount.trans heq.symm) ?_ ?_ hnot
    · rw [hmax, hstop]
      simp
    · omega
    · rw [hlast]
    · rw [hlast]
  · have hcount := l.readableCount_eq_of_le (Nat.le_of_lt hgt)
    have hnext := l.readable_of_lt_readableCount hgt
    exact l.checkedBy_of_exceeds hcount (by rwa [hmax]) hgt
      ((l.all_readable_iff low).mpr ⟨hcount, hnext⟩)

theorem checkedBy_zero_of_readable (h : 0 < high) (hfirst : l.readable 0 = true) :
    l.CheckedBy 0 (l.run .unbounded 0 0) (l.run .unbounded high high) ↔ l.readable 1 = true := by
  have hall : ∀ i ≤ 0, l.readable i = true := by
    intro i hi
    rw [Nat.le_zero.mp hi]
    exact hfirst
  constructor
  · intro hchecked
    obtain ⟨e, he⟩ := hchecked.fails_iff.mpr hall
    rw [outcome_run_unbounded] at he
    split at he
    · rename_i hc
      exact hc.2
    · cases he
  · intro hsecond
    have hcount : 0 < l.readableCount high := by
      rcases Nat.eq_zero_or_pos (l.readableCount high) with hc | hc
      · have hfails := l.not_readable_readableCount (hc ▸ h)
        rw [hc, hfirst] at hfails
        cases hfails
      · exact hc
    exact l.checkedBy_of_exceeds l.readableCount_zero hsecond hcount hall

theorem checkedBy_zero_of_not_readable (h : 0 < high) (hfirst : l.readable 0 = false) :
    l.CheckedBy 0 (l.run .unbounded 0 0) (l.run .unbounded high high) ↔
      l.HasLayer 1 ∧ l.walkAt 1 = l.entry := by
  have hcount : l.readableCount high = 0 := by
    apply leading_eq (Nat.zero_le high)
    · intro i hi
      exact absurd hi (Nat.not_lt_zero i)
    · intro _
      exact hfirst
  have hhigh : l.lastLayer high = 0 := by rw [lastLayer, hcount, if_pos h]
  have hnone : ¬ (l.readableCount high = high ∧ l.readable (max high 1) = true) := by omega
  constructor
  · intro hchecked
    -- the greater limit leaves one attempt and the walk where it began, and the lower limit must too
    have hloose := l.outcome_of_stops hnone
    obtain ⟨_, _, hattempts, hwalk⟩ := hchecked.short _ hloose (by simp [hcount])
    rw [attempts_run_unbounded, attempts_run_unbounded, hcount, readableCount_zero, lastLayer_zero,
      hhigh] at hattempts
    rw [walk_run_unbounded, walk_run_unbounded, lastLayer_zero, hhigh] at hwalk
    have hlayer : l.HasLayer 1 := by
      by_cases hl : l.HasLayer 1
      · exact hl
      · simp [lastAttempts, hl] at hattempts
    refine ⟨hlayer, ?_⟩
    rwa [lastWalk, if_pos hlayer, lastWalk, if_pos l.hasLayer_zero] at hwalk
  · rintro ⟨hlayer, hsame⟩
    have hsecond : l.readable 1 = false := by
      simpa [readable, attempt, hlayer, hsame] using hfirst
    refine l.checkedBy_of_agree ?_ hnone (l.readableCount_zero.trans hcount.symm) ?_ ?_ ?_
    · rintro ⟨_, hread⟩
      exact Bool.false_ne_true (hsecond.symm.trans hread)
    · rw [lastLayer_zero, hhigh]
      simp [lastAttempts, hlayer]
    · rw [lastLayer_zero, hhigh]
      simp [lastWalk, hlayer, hsame]
    · intro hall
      exact Bool.false_ne_true (hfirst.symm.trans (hall 0 (Nat.le_refl 0)))

/-- At a limit of zero it is the second layer that decides, and not the first. -/
theorem checkedBy_zero_iff (h : 0 < high) :
    l.CheckedBy 0 (l.run .unbounded 0 0) (l.run .unbounded high high) ↔
      (l.readable 0 = true ∧ l.readable 1 = true) ∨
        (l.readable 0 = false ∧ l.HasLayer 1 ∧ l.walkAt 1 = l.entry) := by
  cases hfirst : l.readable 0 with
  | true => simp [l.checkedBy_zero_of_readable h hfirst]
  | false => simp [l.checkedBy_zero_of_not_readable h hfirst]

end Layout

/-! ## The law -/

/-- A limit only checks the length of a list, compared with any greater limit, exactly if it is not
zero or the list cannot tell its first two layers apart: both can be read, or the first cannot and
the second is the same place. -/
theorem a_limit_only_checks_the_length_unless_zero {V N : Type} [Inhabited V] (d : Decoder V N)
    (greater : Nat) (type : String) (read : Reader V N) (w : Walk)
    (hread : d.readers type = some read) (hdisc : read.Disciplined)
    (h : d.limit < Decoder.limit { d with maxLength := greater }) :
    let l : Layout V N := ⟨d.navigator, read, w⟩
    l.CheckedBy d.limit (d.decode type .unbounded w)
        (Decoder.decode { d with maxLength := greater } type .unbounded w) ↔
      0 < d.limit ∨ (l.readable 0 = true ∧ l.readable 1 = true) ∨
        (l.readable 0 = false ∧ l.HasLayer 1 ∧ l.walkAt 1 = w) := by
  intro l
  have htight := d.decode_unbounded hread hdisc w
  have hloose :=
    Decoder.decode_unbounded (V := V) (N := N) { d with maxLength := greater } hread hdisc w
  rw [htight, hloose, Layout.checkedBy_withLog_iff]
  rcases Nat.eq_zero_or_pos d.limit with hzero | hpos
  · rw [hzero] at h ⊢
    constructor
    · intro hchecked
      exact Or.inr ((l.checkedBy_zero_iff h).mp hchecked)
    · rintro (hlt | hcond)
      · exact absurd hlt (Nat.lt_irrefl 0)
      · exact (l.checkedBy_zero_iff h).mpr hcond
  · exact ⟨fun _ => Or.inl hpos, fun _ => l.checkedBy_of_pos hpos h⟩

/-- Three rows are read under a limit of five, and so they are refused under a limit of two. -/
theorem three_rows_are_checked_against_two :
    let d : Decoder Nat Unit := ⟨.single .rows, fun _ => some (.rowsTo 3), 2⟩
    let d' : Decoder Nat Unit := { d with maxLength := 5 }
    let w : Walk := ⟨State.start ⟨1, 1⟩, []⟩
    let l : Layout Nat Unit := ⟨d.navigator, .rowsTo 3, w⟩
    d.readers "row" = some (.rowsTo 3) ∧ (Reader.rowsTo 3).Disciplined ∧ d.limit < d'.limit ∧
    (d'.decode "row" .unbounded w).outcome = .ok [1, 2, 3] ∧
    l.CheckedBy d.limit (d.decode "row" .unbounded w) (d'.decode "row" .unbounded w) := by
  intro d d' w l
  have hdisc : (Reader.rowsTo 3).Disciplined := fun _ => rfl
  have hlt : d.limit < d'.limit := by decide
  refine ⟨rfl, hdisc, hlt, by rfl, ?_⟩
  exact (a_limit_only_checks_the_length_unless_zero d 5 "row" (.rowsTo 3) w rfl hdisc hlt).mpr
    (Or.inl (by decide))

/-- Only the second row can be read. A list of at most one has no elements, and under a limit of
zero the same list is refused as too long. -/
theorem an_empty_list_exceeds_a_limit_of_zero :
    let read : Reader Nat Unit := fun w => ⟨if w.cursor.row = 2 then some 2 else none, w, [], ()⟩
    let d : Decoder Nat Unit := ⟨.single .rows, fun _ => some read, 0⟩
    let d' : Decoder Nat Unit := { d with maxLength := 1 }
    let w : Walk := ⟨State.start ⟨1, 1⟩, []⟩
    let l : Layout Nat Unit := ⟨d.navigator, read, w⟩
    read.Disciplined ∧ d.limit < d'.limit ∧
    (d'.decode "row" .unbounded w).outcome = .ok [] ∧
    (d.decode "row" .unbounded w).outcome = .error (.collectionTooLarge 1 0) ∧
    ¬ l.CheckedBy d.limit (d.decode "row" .unbounded w) (d'.decode "row" .unbounded w) := by
  intro read d d' w l
  have hloose : (d'.decode "row" .unbounded w).outcome = .ok [] := by rfl
  have htight : (d.decode "row" .unbounded w).outcome = .error (.collectionTooLarge 1 0) := by rfl
  refine ⟨fun _ => rfl, by decide, hloose, htight, ?_⟩
  intro hchecked
  obtain ⟨hok, _⟩ := hchecked.short [] hloose (Nat.zero_le _)
  rw [htight] at hok
  cases hok

end GridTemplate
