-- Strict scans. A strict scan stops at the first cell that looks like a descriptor but cannot be
-- used, whatever the templates before it cover. Where there is no such cell, a strict scan and a
-- lenient one do the same.
import GridTemplate.Proofs.Sheet.Lenient

namespace GridTemplate

/-! ## Offending cells -/

/-- What is wrong with a cell that looks like a descriptor: its text cannot be read, or it declares
a template of a name that an earlier cell declares. -/
inductive Offends (earlier : List (Cell × String)) (entry : Cell × String) : Error → Prop
  | unreadable {e : Error} :
      looksLikeDescriptor entry.2 = true → Descriptor.ofText entry.2 = .error e →
      Offends earlier entry e
  | repeated {name : String} {region : Region} :
      looksLikeDescriptor entry.2 = true →
      Descriptor.ofText entry.2 = .ok (.template name region) →
      (∃ other ∈ earlier, ∃ r, Descriptor.ofText other.2 = .ok (.template name r)) →
      Offends earlier entry (.duplicateTemplate name)

/-- No cell offends. -/
def Blameless (cells : List (Cell × String)) : Prop :=
  ∀ earlier entry rest e, cells = earlier ++ entry :: rest → ¬ Offends earlier entry e

/-- The first cell that offends, after the cells before it, and what is wrong with it. -/
structure FirstOffence (cells earlier : List (Cell × String)) (entry : Cell × String) (e : Error) :
    Prop where
  place : ∃ rest, cells = earlier ++ entry :: rest
  offends : Offends earlier entry e
  first : Blameless earlier

theorem hasName_templatesOf_iff (cells : List (Cell × String)) (name : String) :
    hasName (templatesOf cells) name = true ↔
      ∃ other ∈ cells, ∃ region, Descriptor.ofText other.2 = .ok (.template name region) := by
  unfold hasName templatesOf descriptorsOf
  rw [List.filterMap_filterMap, List.any_eq_true]
  constructor
  · rintro ⟨t, ht, hname⟩
    obtain ⟨other, hother, hdeclares⟩ := List.mem_filterMap.mp ht
    refine ⟨other, hother, t.region, ?_⟩
    cases hread : Descriptor.ofText other.2 with
    | error e => simp [hread, Except.toOption] at hdeclares
    | ok d =>
      cases d with
      | value label path => simp [hread, Except.toOption, templateOf?] at hdeclares
      | form control n path => simp [hread, Except.toOption, templateOf?] at hdeclares
      | template n region =>
        simp only [hread, Except.toOption, templateOf?, Option.map_some, Option.bind_some,
          Option.some.injEq] at hdeclares
        subst hdeclares
        rw [← beq_iff_eq.mp hname]
  · rintro ⟨other, hother, region, hread⟩
    refine ⟨⟨name, region⟩, List.mem_filterMap.mpr ⟨other, hother, ?_⟩, beq_self_eq_true name⟩
    simp [hread, Except.toOption, templateOf?]

theorem blameless_nil : Blameless [] := by
  intro earlier entry rest e h
  cases earlier <;> cases h

/-- Cells are blameless if all but the last are and the last does not offend after them. -/
theorem blameless_concat_iff (cells : List (Cell × String)) (entry : Cell × String) :
    Blameless (cells ++ [entry]) ↔ Blameless cells ∧ ∀ e, ¬ Offends cells entry e := by
  constructor
  · intro h
    refine ⟨?_, fun e => h cells entry [] e rfl⟩
    rintro earlier other rest e rfl
    exact h earlier other (rest ++ [entry]) e (by simp)
  · rintro ⟨hcells, hentry⟩ earlier other rest e h
    -- The offending cell is the last one, or it stands among the cells before that.
    rcases List.eq_nil_or_concat rest with rfl | ⟨rest, last, rfl⟩
    · obtain ⟨rfl, hlast⟩ := List.append_inj' h rfl
      cases hlast
      exact hentry e
    · rw [List.concat_eq_append, ← List.cons_append, ← List.append_assoc] at h
      obtain ⟨rfl, -⟩ := List.append_inj' h rfl
      exact hcells earlier other rest e rfl

theorem blameless_or_firstOffence (cells : List (Cell × String)) :
    Blameless cells ∨ ∃ earlier entry e, FirstOffence cells earlier entry e := by
  induction cells using List.reverseRecOn with
  | nil => exact Or.inl blameless_nil
  | append_singleton cells entry ih =>
    rcases ih with hcells | ⟨earlier, other, e, ⟨rest, rfl⟩, hoffends, hfirst⟩
    · by_cases hentry : ∃ e, Offends cells entry e
      · obtain ⟨e, he⟩ := hentry
        exact Or.inr ⟨cells, entry, e, ⟨[], rfl⟩, he, hcells⟩
      · exact Or.inl ((blameless_concat_iff cells entry).mpr ⟨hcells, not_exists.mp hentry⟩)
    · exact Or.inr ⟨earlier, other, e, ⟨rest ++ [entry], by simp⟩, hoffends, hfirst⟩

/-- There is something to warn of in a cell exactly if it offends. -/
theorem warning?_eq_none_iff (earlier : List (Cell × String)) (entry : Cell × String) :
    warning? earlier entry = none ↔ ∀ e, ¬ Offends earlier entry e := by
  constructor
  · intro h e hoffends
    unfold warning? at h
    cases hoffends with
    | unreadable hlooks hread => simp [hlooks, hread] at h
    | repeated hlooks hread hother =>
      have hname := (hasName_templatesOf_iff earlier _).mpr hother
      simp [hlooks, hread, hname] at h
  · intro h
    unfold warning?
    split
    · rename_i hlooks
      split
      · rename_i e hread
        exact absurd (.unreadable hlooks hread) (h e)
      · rename_i name region hread
        apply if_neg
        intro hname
        exact h _ (.repeated hlooks hread ((hasName_templatesOf_iff earlier name).mp hname))
      · rfl
    · rfl

theorem blameless_iff (cells : List (Cell × String)) :
    Blameless cells ↔ ((withEarlier [] cells).filterMap fun p => warning? p.1 p.2) = [] := by
  induction cells using List.reverseRecOn with
  | nil => simp [blameless_nil, withEarlier]
  | append_singleton cells entry ih =>
    rw [blameless_concat_iff, ih, withEarlier_concat, List.filterMap_append, List.append_eq_nil_iff,
      ← warning?_eq_none_iff]
    simp

namespace Bindings

/-! ## One cell -/

theorem addAll_of_offends {earlier : List (Cell × String)} {entry : Cell × String} {e : Error}
    (h : Offends earlier entry e) (rest : List (Cell × String)) :
    addAll true (declared earlier) (entry :: rest) = .fail e := by
  obtain ⟨cell, text⟩ := entry
  unfold addAll
  cases h with
  | unreadable hlooks hread => simp [hlooks, hread]
  | repeated hlooks hread hother =>
    have hname := (hasName_templatesOf_iff earlier _).mpr hother
    simp [hlooks, hread, add_declared_template, hname]

theorem addAll_of_not_offends {earlier : List (Cell × String)} {entry : Cell × String}
    (h : ∀ e, ¬ Offends earlier entry e) :
    addAll true (declared earlier) [entry] = addAll false (declared earlier) [entry] := by
  obtain ⟨cell, text⟩ := entry
  by_cases hlooks : looksLikeDescriptor text = true
  · cases hread : Descriptor.ofText text with
    | error e => exact absurd (.unreadable hlooks hread) (h e)
    | ok d =>
      cases d with
      | value label path => simp [addAll, hlooks, hread, add]
      | form control name path => simp [addAll, hlooks, hread, add]
      | template name region =>
        have hname : ¬ hasName (templatesOf earlier) name = true := by
          intro hname
          exact h _ (.repeated hlooks hread ((hasName_templatesOf_iff earlier name).mp hname))
        simp [addAll, hlooks, hread, add_declared_template, hname]
  · simp [addAll, hlooks]

/-! ## All cells -/

/-- More cells are added to what the cells before them have given. -/
theorem addAll_append {strict : Bool} {b after : Bindings} {cells : List (Cell × String)}
    (h : (addAll strict b cells).outcome = .ok after) (more : List (Cell × String)) :
    addAll strict b (cells ++ more) =
      (addAll strict after more).after (addAll strict b cells).log := by
  induction cells generalizing b with
  | nil =>
    cases h
    rfl
  | cons entry rest ih =>
    obtain ⟨cell, text⟩ := entry
    rw [List.cons_append]
    by_cases hlooks : looksLikeDescriptor text = true
    · cases hread : Descriptor.ofText text with
      | error e =>
        cases strict with
        | true => simp [addAll, hlooks, hread] at h
        | false =>
          simp only [addAll, hlooks, hread, if_true, Bool.false_eq_true, if_false,
            Logged.outcome_after] at h ⊢
          rw [ih h, Logged.after_after, Logged.log_after]
      | ok d =>
        cases hadd : b.add cell d with
        | error e =>
          cases strict with
          | true => simp [addAll, hlooks, hread, hadd] at h
          | false =>
            simp only [addAll, hlooks, hread, hadd, if_true, Bool.false_eq_true, if_false,
              Logged.outcome_after] at h ⊢
            rw [ih h, Logged.after_after, Logged.log_after]
        | ok b =>
          simp only [addAll, hlooks, hread, hadd, if_true, Logged.outcome_after] at h ⊢
          rw [ih h, Logged.after_after, Logged.log_after]
    · simp only [addAll, hlooks, Bool.false_eq_true, if_false] at h ⊢
      exact ih h

theorem addAll_of_blameless {cells : List (Cell × String)} (h : Blameless cells) :
    addAll true empty cells = addAll false empty cells := by
  induction cells using List.reverseRecOn with
  | nil => rfl
  | append_singleton cells entry ih =>
    obtain ⟨hcells, hentry⟩ := (blameless_concat_iff cells entry).mp h
    -- Either scan comes to the last cell with what the cells before it declare.
    have hlenient := outcome_addAll_declared [] cells
    rw [← empty_eq_declared, List.nil_append] at hlenient
    have hstrict := hlenient
    rw [← ih hcells] at hstrict
    rw [addAll_append hstrict, addAll_append hlenient, addAll_of_not_offends hentry, ih hcells]

/-- Up to the first offence a strict scan has read what a lenient one would, and there it stops. -/
theorem outcome_addAll_of_firstOffence {cells earlier : List (Cell × String)}
    {entry : Cell × String} {e : Error} (h : FirstOffence cells earlier entry e) :
    (addAll true empty cells).outcome = .error e := by
  obtain ⟨rest, rfl⟩ := h.place
  have hread := outcome_addAll_declared [] earlier
  rw [← empty_eq_declared, List.nil_append, ← addAll_of_blameless h.first] at hread
  rw [addAll_append hread, addAll_of_offends h.offends, Logged.outcome_after, Logged.outcome_fail]

/-! ## A strict scan -/

theorem outcome_scan_of_firstOffence {cells earlier : List (Cell × String)} {entry : Cell × String}
    {e : Error} (h : FirstOffence cells earlier entry e) (rejectOverlaps : Bool) :
    (scan ⟨true, rejectOverlaps⟩ cells).outcome = .error e := by
  have herror := outcome_addAll_of_firstOffence h
  unfold scan
  dsimp only
  rw [herror]
  exact herror

theorem scan_of_blameless {cells : List (Cell × String)} (h : Blameless cells)
    (rejectOverlaps : Bool) :
    scan ⟨true, rejectOverlaps⟩ cells = scan ⟨false, rejectOverlaps⟩ cells := by
  unfold scan
  dsimp only
  rw [addAll_of_blameless h]

end Bindings

/-! ## The law -/

/-- A strict scan fails with what is wrong with the first cell that offends, before it looks at
overlaps. If no cell offends it is the lenient scan, with the same bindings or the same overlap and
with the same log. So what a strict scan finds, a lenient one finds without a warning. -/
theorem a_strict_scan_stops_at_the_first_offence (rejectOverlaps : Bool)
    (cells : List (Cell × String)) :
    let strict := Bindings.scan ⟨true, rejectOverlaps⟩ cells
    let lenient := Bindings.scan ⟨false, rejectOverlaps⟩ cells
    (∀ earlier entry e, FirstOffence cells earlier entry e → strict.outcome = .error e) ∧
    (Blameless cells → strict = lenient) ∧
    (Blameless cells ∨ ∃ earlier entry e, FirstOffence cells earlier entry e) ∧
    (∀ b, strict.outcome = .ok b → lenient.outcome = .ok b ∧ warnings lenient.log = []) := by
  intro strict lenient
  refine ⟨fun _ _ _ h => Bindings.outcome_scan_of_firstOffence h rejectOverlaps,
    fun h => Bindings.scan_of_blameless h rejectOverlaps, blameless_or_firstOffence cells, ?_⟩
  intro b hb
  rcases blameless_or_firstOffence cells with hcells | ⟨earlier, entry, e, hfirst⟩
  · have hwarnings := Bindings.warnings_scan rejectOverlaps cells
    rw [(blameless_iff cells).mp hcells] at hwarnings
    refine ⟨?_, hwarnings⟩
    rw [← hb]
    exact congrArg Logged.outcome (Bindings.scan_of_blameless hcells rejectOverlaps).symm
  · have herror := Bindings.outcome_scan_of_firstOffence hfirst rejectOverlaps
    rw [hb] at herror
    cases herror

/-- Two templates overlap, and then the first one is declared again. Leniently it is the overlap
that is reported, strictly the second declaration. Without overlaps in the way, the first two cells
are found by either scan. -/
theorem a_second_declaration_comes_before_an_overlap :
    let cells : List (Cell × String) :=
      [(⟨1, 1⟩, "Template:Rows:A3:B5"), (⟨1, 2⟩, "Template:Sums:B5:B6")]
    let more := cells ++ [(⟨1, 3⟩, "Template:Rows:D1:D9")]
    (Bindings.scan ⟨false, true⟩ more).outcome = .error (.overlappingTemplates "Rows" "Sums") ∧
    (Bindings.scan ⟨true, true⟩ more).outcome = .error (.duplicateTemplate "Rows") ∧
    Bindings.scan ⟨true, true⟩ cells = Bindings.scan ⟨false, true⟩ cells ∧
    ∃ b, (Bindings.scan ⟨true, false⟩ cells).outcome = .ok b ∧
      (Bindings.scan ⟨false, false⟩ cells).outcome = .ok b ∧
      warnings (Bindings.scan ⟨false, false⟩ cells).log = [] := by
  intro cells more
  have hcells : Blameless cells := (blameless_iff cells).mpr rfl
  have hfirst :
      FirstOffence more cells (⟨1, 3⟩, "Template:Rows:D1:D9") (.duplicateTemplate "Rows") :=
    ⟨⟨[], rfl⟩, .repeated rfl rfl ⟨_, List.mem_cons_self, _, rfl⟩, hcells⟩
  obtain ⟨hstops, -, -, -⟩ := a_strict_scan_stops_at_the_first_offence true more
  obtain ⟨-, hsame, -, -⟩ := a_strict_scan_stops_at_the_first_offence true cells
  obtain ⟨-, -, -, hfound⟩ := a_strict_scan_stops_at_the_first_offence false cells
  refine ⟨rfl, hstops _ _ _ hfirst, hsame hcells, _, rfl, ?_⟩
  exact hfound _ rfl

end GridTemplate
