-- Lenient scans. The look at the keyword before a text is read never hides a descriptor, so what a
-- lenient scan collects is what reading every cell would give, kind by kind, with the first
-- declaration of each template. It warns about every other cell that looks like a descriptor.
import GridTemplate.Sheet.Bindings
import GridTemplate.Proofs.Catalog.Overlaps
import GridTemplate.Proofs.Descriptor.Writing

namespace GridTemplate

/-! ## Entries after earlier ones -/

section Earlier

variable {α : Type}

/-- The entries of a list, each with all that came before it. -/
def withEarlier (earlier : List α) : List α → List (List α × α)
  | [] => []
  | entry :: rest => (earlier, entry) :: withEarlier (earlier ++ [entry]) rest

theorem withEarlier_concat (earlier entries : List α) (entry : α) :
    withEarlier earlier (entries ++ [entry]) =
      withEarlier earlier entries ++ [(earlier ++ entries, entry)] := by
  induction entries generalizing earlier with
  | nil => simp [withEarlier]
  | cons first rest ih => simp [withEarlier, ih]

end Earlier

/-! ## What the cells declare -/

/-- The descriptors among the texts of cells. Every text is read, whatever it looks like. -/
def descriptorsOf (cells : List (Cell × String)) : List (Cell × Descriptor) :=
  cells.filterMap fun entry => (Descriptor.ofText entry.2).toOption.map fun d => (entry.1, d)

def valueOf? : Cell × Descriptor → Option ValueBinding
  | (cell, .value label path) => some ⟨cell, label, path⟩
  | _ => none

def controlOf? : Cell × Descriptor → Option ControlBinding
  | (cell, .form control name path) => some ⟨cell, control, name, path⟩
  | _ => none

def templateOf? : Cell × Descriptor → Option Template
  | (_, .template name region) => some ⟨name, region⟩
  | _ => none

/-- The templates that cells declare, repeated names included. -/
def templatesOf (cells : List (Cell × String)) : List Template :=
  (descriptorsOf cells).filterMap templateOf?

/-- Whether one of the templates has the name. -/
def hasName (ts : List Template) (name : String) : Bool := ts.any fun t => t.name == name

/-- The templates whose name none before them has. -/
def firstOfEachName (ts : List Template) : List Template :=
  ((withEarlier [] ts).filter fun p => !hasName p.1 p.2.name).map Prod.snd

/-- What the cells declare, each kind on its own. -/
def Bindings.declared (cells : List (Cell × String)) : Bindings where
  values := (descriptorsOf cells).filterMap valueOf?
  controls := (descriptorsOf cells).filterMap controlOf?
  catalog := ⟨firstOfEachName (templatesOf cells)⟩

/-- A cell is collected if its text is a descriptor that does not declare a template of a name that
an earlier cell declares. -/
def Collected (earlier : List (Cell × String)) (entry : Cell × String) : Prop :=
  ∃ d, Descriptor.ofText entry.2 = .ok d ∧
    ∀ t, templateOf? (entry.1, d) = some t → hasName (templatesOf earlier) t.name = false

/-- What is said of a cell that looks like a descriptor but cannot be used, after earlier cells. -/
def warning? (earlier : List (Cell × String)) (entry : Cell × String) : Option Record :=
  if looksLikeDescriptor entry.2 then
    match Descriptor.ofText entry.2 with
    | .error e => some (.descriptorSkipped entry.1 e)
    | .ok (.template name _) =>
      if hasName (templatesOf earlier) name then
        some (.templateSkipped entry.1 (.duplicateTemplate name))
      else none
    | .ok _ => none
  else none

/-- The warnings in a log. -/
def warnings (log : List Record) : List Record := log.filter fun r => r.level == .warn

@[simp] theorem warnings_append (log more : List Record) :
    warnings (log ++ more) = warnings log ++ warnings more := List.filter_append ..

/-! ## Templates by name -/

theorem hasName_append (ts us : List Template) (name : String) :
    hasName (ts ++ us) name = (hasName ts name || hasName us name) := List.any_append

/-- A template of a known name is passed over, and one of a new name goes to the end. -/
theorem firstOfEachName_concat (ts : List Template) (t : Template) :
    firstOfEachName (ts ++ [t]) =
      if hasName ts t.name then firstOfEachName ts else firstOfEachName ts ++ [t] := by
  rw [firstOfEachName, withEarlier_concat, List.filter_append, List.map_append, List.nil_append]
  by_cases hname : hasName ts t.name = true
  · simp [firstOfEachName, hname]
  · simp [firstOfEachName, hname]

/-- Passing templates over loses no name. -/
theorem hasName_firstOfEachName (ts : List Template) (name : String) :
    hasName (firstOfEachName ts) name = hasName ts name := by
  induction ts using List.reverseRecOn with
  | nil => rfl
  | append_singleton ts t ih =>
    rw [firstOfEachName_concat, hasName_append]
    by_cases hknown : hasName ts t.name = true
    · rw [if_pos hknown, ih]
      by_cases hname : t.name = name
      · rw [← hname, hknown, Bool.true_or]
      · simp [hasName, hname]
    · rw [if_neg hknown, hasName_append, ih]

/-! ## Keywords -/

theorem not_mem_descriptorKeyword : ∀ keyword ∈ descriptorKeywords, ':' ∉ keyword.toList := by
  decide

theorem looksLikeDescriptor_of_keyword {keyword : String} (hmem : keyword ∈ descriptorKeywords)
    (rest : String) : looksLikeDescriptor (keyword ++ ":" ++ rest) = true := by
  have htext : (keyword ++ ":" ++ rest).toList = keyword.toList ++ ':' :: rest.toList := by simp
  have hinside : ∀ c ∈ keyword.toList, (c != ':') = true := by
    intro c hc
    rw [bne_iff_ne]
    rintro rfl
    exact not_mem_descriptorKeyword keyword hmem hc
  rw [looksLikeDescriptor, htext, List.takeWhile_append_of_pos hinside]
  simp [hmem]

theorem Descriptor.exists_keyword (d : Descriptor) :
    ∃ keyword ∈ descriptorKeywords, ∃ rest, d.text = keyword ++ ":" ++ rest := by
  cases d with
  | value label path =>
    exact ⟨valueKeyword, by decide, label ++ ":" ++ path.text, by simp [text, String.append_assoc]⟩
  | form control name path =>
    have hmem : control.keyword ∈ descriptorKeywords := by cases control <;> decide
    exact ⟨control.keyword, hmem, name ++ ":" ++ path.text, by simp [text, String.append_assoc]⟩
  | template name region =>
    exact ⟨templateKeyword, by decide, name ++ ":" ++ region.text,
      by simp [text, String.append_assoc]⟩

/-- Whatever is read as a descriptor has a keyword before its first colon. -/
theorem looksLikeDescriptor_of_ofText {text : String} {d : Descriptor}
    (h : Descriptor.ofText text = .ok d) : looksLikeDescriptor text = true := by
  obtain ⟨keyword, hmem, rest, htext⟩ := d.exists_keyword
  rw [← Descriptor.text_of_ofText h, htext]
  exact looksLikeDescriptor_of_keyword hmem rest

theorem exists_warning_iff (earlier : List (Cell × String)) (entry : Cell × String) :
    (∃ r, warning? earlier entry = some r) ↔
      looksLikeDescriptor entry.2 = true ∧ ¬ Collected earlier entry := by
  by_cases hlooks : looksLikeDescriptor entry.2 = true
  · simp only [warning?, hlooks, if_true, true_and, Collected]
    cases hread : Descriptor.ofText entry.2 with
    | error e => simp
    | ok d =>
      cases d with
      | value label path => simp [templateOf?]
      | form control name path => simp [templateOf?]
      | template name region =>
        by_cases hname : hasName (templatesOf earlier) name = true
        · simp [templateOf?, hname]
        · simp [templateOf?, hname]
  · simp [warning?, hlooks]

/-! ## One cell -/

theorem descriptorsOf_concat_of_error {entry : Cell × String} {e : Error}
    (h : Descriptor.ofText entry.2 = .error e) (earlier : List (Cell × String)) :
    descriptorsOf (earlier ++ [entry]) = descriptorsOf earlier := by
  simp [descriptorsOf, h, Except.toOption]

theorem descriptorsOf_concat_of_ok {entry : Cell × String} {d : Descriptor}
    (h : Descriptor.ofText entry.2 = .ok d) (earlier : List (Cell × String)) :
    descriptorsOf (earlier ++ [entry]) = descriptorsOf earlier ++ [(entry.1, d)] := by
  simp [descriptorsOf, h, Except.toOption]

namespace Bindings

/-- The bindings after a cell. What cannot be used changes nothing. -/
def taking (b : Bindings) (entry : Cell × String) : Bindings :=
  match Descriptor.ofText entry.2 with
  | .error _ => b
  | .ok d =>
    match b.add entry.1 d with
    | .error _ => b
    | .ok b => b

/-- What is noted of a cell. -/
def noteOf (b : Bindings) (entry : Cell × String) : List Record :=
  match Descriptor.ofText entry.2 with
  | .error e => if looksLikeDescriptor entry.2 then [.descriptorSkipped entry.1 e] else []
  | .ok d =>
    match b.add entry.1 d with
    | .error e => [.templateSkipped entry.1 e]
    | .ok _ => noted d

/-- A lenient scan takes its first cell, notes it and goes on. -/
theorem addAll_cons (b : Bindings) (entry : Cell × String) (rest : List (Cell × String)) :
    addAll false b (entry :: rest) = (addAll false (b.taking entry) rest).after (b.noteOf entry) := by
  obtain ⟨cell, text⟩ := entry
  unfold taking noteOf
  cases hread : Descriptor.ofText text with
  | error e =>
    by_cases hlooks : looksLikeDescriptor text = true
    · simp [addAll, hlooks, hread]
    · simp [addAll, hlooks, Logged.after]
  | ok d =>
    have hlooks := looksLikeDescriptor_of_ofText hread
    cases hadd : b.add cell d with
    | error e => simp [addAll, hlooks, hread, hadd]
    | ok b' => simp [addAll, hlooks, hread, hadd]

/-- What is declared decides whether a template is refused. -/
theorem add_declared_template (earlier : List (Cell × String)) (cell : Cell) (name : String)
    (region : Region) :
    (declared earlier).add cell (.template name region) =
      if hasName (templatesOf earlier) name then .error (.duplicateTemplate name)
      else .ok { declared earlier with
        catalog := ⟨firstOfEachName (templatesOf earlier) ++ [⟨name, region⟩]⟩ } := by
  have hinsert : (declared earlier).catalog.insertRegion name region =
      if hasName (firstOfEachName (templatesOf earlier)) name then .error (.duplicateTemplate name)
      else .ok ⟨firstOfEachName (templatesOf earlier) ++ [⟨name, region⟩]⟩ := rfl
  rw [add, hinsert, hasName_firstOfEachName]
  by_cases hname : hasName (templatesOf earlier) name = true
  · simp [hname]
  · simp [hname]

theorem declared_concat_of_ok {entry : Cell × String} {d : Descriptor}
    (h : Descriptor.ofText entry.2 = .ok d) (earlier : List (Cell × String)) :
    declared (earlier ++ [entry]) =
      { values := (declared earlier).values ++ (valueOf? (entry.1, d)).toList
        controls := (declared earlier).controls ++ (controlOf? (entry.1, d)).toList
        catalog :=
          ⟨firstOfEachName (templatesOf earlier ++ (templateOf? (entry.1, d)).toList)⟩ } := by
  cases d <;> simp [declared, templatesOf, descriptorsOf_concat_of_ok h, List.filterMap_cons, valueOf?,
    controlOf?, templateOf?]

/-- After a cell stands what the cells up to it declare. -/
theorem taking_declared (earlier : List (Cell × String)) (entry : Cell × String) :
    (declared earlier).taking entry = declared (earlier ++ [entry]) := by
  cases hread : Descriptor.ofText entry.2 with
  | error e => simp [taking, hread, declared, templatesOf, descriptorsOf_concat_of_error hread]
  | ok d =>
    rw [declared_concat_of_ok hread, taking, hread]
    cases d with
    | value label path => simp [add, declared, valueOf?, controlOf?, templateOf?]
    | form control name path => simp [add, declared, valueOf?, controlOf?, templateOf?]
    | template name region =>
      rw [templateOf?, Option.toList_some, firstOfEachName_concat]
      dsimp only
      rw [add_declared_template]
      by_cases hname : hasName (templatesOf earlier) name = true
      · simp [hname, declared, valueOf?, controlOf?]
      · simp [hname, declared, valueOf?, controlOf?]

theorem warnings_noteOf_declared (earlier : List (Cell × String)) (entry : Cell × String) :
    warnings ((declared earlier).noteOf entry) = (warning? earlier entry).toList := by
  cases hread : Descriptor.ofText entry.2 with
  | error e =>
    by_cases hlooks : looksLikeDescriptor entry.2 = true
    · simp [noteOf, warning?, hread, hlooks, warnings, Record.level]
    · simp [noteOf, warning?, hread, hlooks, warnings]
  | ok d =>
    have hlooks := looksLikeDescriptor_of_ofText hread
    cases d with
    | value label path => simp [noteOf, warning?, hread, hlooks, add, noted, warnings]
    | form control name path => simp [noteOf, warning?, hread, hlooks, add, noted, warnings]
    | template name region =>
      by_cases hname : hasName (templatesOf earlier) name = true
      · simp [noteOf, warning?, hread, hlooks, add_declared_template, hname, warnings, Record.level]
      · simp [noteOf, warning?, hread, hlooks, add_declared_template, hname, noted, warnings,
          Record.level]

/-- How much there is of each kind, together. -/
def count (b : Bindings) : Nat := b.values.length + b.controls.length + b.catalog.size

/-- A cell that looks like a descriptor gives one binding more or one warning. -/
theorem count_declared_concat (earlier : List (Cell × String)) (entry : Cell × String) :
    (declared (earlier ++ [entry])).count + (warning? earlier entry).toList.length =
      (declared earlier).count + [entry].countP fun e => looksLikeDescriptor e.2 := by
  cases hread : Descriptor.ofText entry.2 with
  | error e =>
    have hsame : declared (earlier ++ [entry]) = declared earlier := by
      simp [declared, templatesOf, descriptorsOf_concat_of_error hread]
    by_cases hlooks : looksLikeDescriptor entry.2 = true
    · simp [hsame, warning?, hread, hlooks]
    · simp [hsame, warning?, hlooks]
  | ok d =>
    have hlooks := looksLikeDescriptor_of_ofText hread
    rw [← taking_declared, taking, hread]
    dsimp only
    cases d with
    | value label path =>
      simp [add, count, warning?, hread, hlooks]
      omega
    | form control name path =>
      simp [add, count, warning?, hread, hlooks]
      omega
    | template name region =>
      rw [add_declared_template]
      by_cases hname : hasName (templatesOf earlier) name = true
      · simp [warning?, hread, hlooks, hname]
      · simp [warning?, hread, hlooks, hname, count, declared, Catalog.size]
        omega

/-! ## All cells -/

theorem outcome_addAll_declared (earlier cells : List (Cell × String)) :
    (addAll false (declared earlier) cells).outcome = .ok (declared (earlier ++ cells)) := by
  induction cells generalizing earlier with
  | nil => simp [addAll]
  | cons entry rest ih =>
    rw [addAll_cons, Logged.outcome_after, taking_declared, ih, List.append_assoc,
      List.singleton_append]

theorem warnings_addAll_declared (earlier cells : List (Cell × String)) :
    warnings (addAll false (declared earlier) cells).log =
      (withEarlier earlier cells).filterMap fun p => warning? p.1 p.2 := by
  induction cells generalizing earlier with
  | nil => rfl
  | cons entry rest ih =>
    rw [addAll_cons, Logged.log_after, warnings_append, warnings_noteOf_declared, taking_declared, ih,
      withEarlier, List.filterMap_cons]
    cases warning? earlier entry with
    | none => rfl
    | some r => rfl

/-- Every cell that looks like a descriptor is counted once, among the bindings or the warnings. -/
theorem count_declared_append (earlier cells : List (Cell × String)) :
    (declared (earlier ++ cells)).count +
        ((withEarlier earlier cells).filterMap fun p => warning? p.1 p.2).length =
      (declared earlier).count + cells.countP fun e => looksLikeDescriptor e.2 := by
  induction cells generalizing earlier with
  | nil => simp [withEarlier]
  | cons entry rest ih =>
    have hstep := count_declared_concat earlier entry
    have hrest := ih (earlier ++ [entry])
    have hlength : ((withEarlier earlier (entry :: rest)).filterMap fun p => warning? p.1 p.2).length =
        (warning? earlier entry).toList.length +
          ((withEarlier (earlier ++ [entry]) rest).filterMap fun p => warning? p.1 p.2).length := by
      rw [withEarlier, List.filterMap_cons]
      cases warning? earlier entry with
      | none => simp
      | some r => simp [Nat.add_comm]
    have hcount : (entry :: rest).countP (fun e => looksLikeDescriptor e.2) =
        [entry].countP (fun e => looksLikeDescriptor e.2) +
          rest.countP fun e => looksLikeDescriptor e.2 := by
      rw [← List.countP_append, List.singleton_append]
    rw [List.append_assoc, List.singleton_append] at hrest
    rw [hlength, hcount]
    omega

theorem empty_eq_declared : empty = declared [] := rfl

/-! ## The end of a scan -/

theorem finish_of_disjoint {rejectOverlaps : Bool} {b : Bindings}
    (h : ¬ (rejectOverlaps = true ∧ ∃ i j, SharesAt b.catalog.templates i j)) :
    finish rejectOverlaps b = (Logged.ok b).after [b.scanned] := by
  cases rejectOverlaps with
  | false => rfl
  | true =>
    have hnil : b.catalog.overlaps = [] := by
      rw [Catalog.overlaps_eq_nil_iff]
      exact fun i j hshares => h ⟨rfl, i, j, hshares⟩
    simp [finish, hnil]

theorem finish_of_sharesAt {b : Bindings} (h : ∃ i j, SharesAt b.catalog.templates i j) :
    ∃ i j first second, FirstShared b.catalog.templates i j first second ∧
      finish true b = .fail (.overlappingTemplates first.name second.name) := by
  cases hoverlaps : b.catalog.overlaps with
  | nil =>
    obtain ⟨i, j, hshares⟩ := h
    exact absurd hshares ((Catalog.overlaps_eq_nil_iff b.catalog).mp hoverlaps i j)
  | cons names rest =>
    obtain ⟨i, j, first, second, hfirst, rfl⟩ := Catalog.exists_firstShared hoverlaps
    exact ⟨i, j, first, second, hfirst, by simp [finish, hoverlaps]⟩

theorem warnings_finish (rejectOverlaps : Bool) (b : Bindings) :
    warnings (finish rejectOverlaps b).log = [] := by
  unfold finish
  split
  · rfl
  · rfl

/-! ## A lenient scan -/

theorem scan_lenient (rejectOverlaps : Bool) (cells : List (Cell × String)) :
    scan ⟨false, rejectOverlaps⟩ cells =
      (finish rejectOverlaps (declared cells)).after (addAll false empty cells).log := by
  have houtcome := outcome_addAll_declared [] cells
  rw [← empty_eq_declared, List.nil_append] at houtcome
  simp [scan, houtcome]

theorem outcome_scan_of_disjoint {rejectOverlaps : Bool} {cells : List (Cell × String)}
    (h : ¬ (rejectOverlaps = true ∧ ∃ i j, SharesAt (declared cells).catalog.templates i j)) :
    (scan ⟨false, rejectOverlaps⟩ cells).outcome = .ok (declared cells) := by
  rw [scan_lenient, Logged.outcome_after, finish_of_disjoint h, Logged.outcome_after,
    Logged.outcome_ok]

theorem outcome_scan_of_sharesAt {cells : List (Cell × String)}
    (h : ∃ i j, SharesAt (declared cells).catalog.templates i j) :
    ∃ i j first second, FirstShared (declared cells).catalog.templates i j first second ∧
      (scan ⟨false, true⟩ cells).outcome =
        .error (.overlappingTemplates first.name second.name) := by
  obtain ⟨i, j, first, second, hfirst, hfinish⟩ := finish_of_sharesAt h
  refine ⟨i, j, first, second, hfirst, ?_⟩
  rw [scan_lenient, Logged.outcome_after, hfinish, Logged.outcome_fail]

theorem warnings_scan (rejectOverlaps : Bool) (cells : List (Cell × String)) :
    warnings (scan ⟨false, rejectOverlaps⟩ cells).log =
      (withEarlier [] cells).filterMap fun p => warning? p.1 p.2 := by
  rw [scan_lenient, Logged.log_after, warnings_append, warnings_finish, List.append_nil,
    empty_eq_declared, warnings_addAll_declared]

theorem eq_declared_of_scan {rejectOverlaps : Bool} {cells : List (Cell × String)} {b : Bindings}
    (h : (scan ⟨false, rejectOverlaps⟩ cells).outcome = .ok b) : b = declared cells := by
  by_cases hshares : rejectOverlaps = true ∧ ∃ i j, SharesAt (declared cells).catalog.templates i j
  · obtain ⟨rfl, hshares⟩ := hshares
    obtain ⟨i, j, first, second, -, herror⟩ := outcome_scan_of_sharesAt hshares
    rw [herror] at h
    cases h
  · rw [outcome_scan_of_disjoint hshares] at h
    exact (Except.ok.inj h).symm

end Bindings

/-! ## The law -/

/-- A lenient scan finds what the cells declare, each kind in the order of the cells and the first
template of each name, or it fails for the first two of these templates that share cells, if that
matters. Its warnings are about the cells that look like descriptors and are not collected, in
their order, so the bindings and the warnings of a scan are as many as these cells. -/
theorem a_lenient_scan_collects_every_descriptor (rejectOverlaps : Bool)
    (cells : List (Cell × String)) :
    let scan := Bindings.scan ⟨false, rejectOverlaps⟩ cells
    let found := Bindings.declared cells
    let overlapping := rejectOverlaps = true ∧ ∃ i j, SharesAt found.catalog.templates i j
    (¬ overlapping → scan.outcome = .ok found) ∧
    (overlapping → ∃ i j first second, FirstShared found.catalog.templates i j first second ∧
      scan.outcome = .error (.overlappingTemplates first.name second.name)) ∧
    warnings scan.log = ((withEarlier [] cells).filterMap fun p => warning? p.1 p.2) ∧
    (∀ earlier entry, (∃ r, warning? earlier entry = some r) ↔
      looksLikeDescriptor entry.2 = true ∧ ¬ Collected earlier entry) ∧
    (∀ b, scan.outcome = .ok b →
      b.values.length + b.controls.length + b.catalog.size + (warnings scan.log).length =
        cells.countP fun e => looksLikeDescriptor e.2) := by
  intro scan found overlapping
  refine ⟨Bindings.outcome_scan_of_disjoint, ?_, Bindings.warnings_scan rejectOverlaps cells,
    exists_warning_iff, ?_⟩
  · rintro ⟨rfl, hshares⟩
    exact Bindings.outcome_scan_of_sharesAt hshares
  · intro b hb
    have hcount := Bindings.count_declared_append [] cells
    rw [List.nil_append, ← Bindings.warnings_scan rejectOverlaps cells,
      ← Bindings.eq_declared_of_scan hb] at hcount
    exact hcount.trans (Nat.zero_add _)

/-- Of five cells four look like descriptors. Two of them are collected, one declares a template for
the second time and one has no path. -/
theorem two_of_five_cells_are_collected :
    let cells : List (Cell × String) :=
      [(⟨1, 1⟩, "Value:Sum:Total"), (⟨1, 2⟩, "Template:Rows:A3:B5"), (⟨1, 3⟩, "Sum: 5"),
        (⟨1, 4⟩, "Template:Rows:A7:B9"), (⟨1, 5⟩, "Value:Sum")]
    let scan := Bindings.scan ⟨false, true⟩ cells
    scan.outcome = .ok (Bindings.declared cells) ∧
      warnings scan.log = [.templateSkipped ⟨1, 4⟩ (.duplicateTemplate "Rows"),
        .descriptorSkipped ⟨1, 5⟩ (.malformedDescriptor "Value:Sum")] := by
  intro cells scan
  obtain ⟨hsucceeds, -, hwarnings, -⟩ := a_lenient_scan_collects_every_descriptor true cells
  have hoverlaps : (Bindings.declared cells).catalog.overlaps = [] := rfl
  constructor
  · apply hsucceeds
    rintro ⟨-, i, j, hshares⟩
    exact (Catalog.overlaps_eq_nil_iff _).mp hoverlaps i j hshares
  · exact hwarnings

end GridTemplate
