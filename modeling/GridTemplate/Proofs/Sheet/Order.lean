-- The order in which a sheet is scanned. If every template has a name of its own, the cells declare
-- the same whichever comes first: no declaration is passed over, and whether the scan succeeds is a
-- question about the cells and the pairs of templates, not about their order.
import GridTemplate.Proofs.Sheet.Strict
import GridTemplate.Proofs.Sheet.Membership
import GridTemplate.Proofs.Catalog.Rearranged

namespace GridTemplate

/-- The templates that cells declare have names of their own. -/
def WellNamed (cells : List (Cell × String)) : Prop :=
  ((templatesOf cells).map Template.name).Nodup

/-- Every text that looks like a descriptor is one. -/
def Legible (cells : List (Cell × String)) : Prop :=
  ∀ entry ∈ cells, looksLikeDescriptor entry.2 = true → ∃ d, Descriptor.ofText entry.2 = .ok d

variable {cells more : List (Cell × String)}

/-! ## Rearranged cells -/

theorem perm_descriptorsOf (h : cells.Perm more) :
    (descriptorsOf cells).Perm (descriptorsOf more) :=
  h.filterMap _

theorem perm_templatesOf (h : cells.Perm more) : (templatesOf cells).Perm (templatesOf more) :=
  (perm_descriptorsOf h).filterMap _

theorem WellNamed.perm (hnames : WellNamed cells) (h : cells.Perm more) : WellNamed more :=
  ((perm_templatesOf h).map _).nodup_iff.mp hnames

theorem legible_iff_of_perm (h : cells.Perm more) : Legible cells ↔ Legible more := by
  unfold Legible
  simp only [h.mem_iff]

/-! ## Well-named cells -/

/-- Where no name is repeated, no template is passed over. -/
theorem firstOfEachName_of_nodup {ts : List Template} (h : (ts.map Template.name).Nodup) :
    firstOfEachName ts = ts := by
  induction ts using List.reverseRecOn with
  | nil => rfl
  | append_singleton ts t ih =>
    rw [List.map_append, List.nodup_append] at h
    obtain ⟨hts, -, hapart⟩ := h
    have hnew : ¬ hasName ts t.name = true := by
      intro hname
      obtain ⟨other, hother, heq⟩ := List.any_eq_true.mp hname
      exact hapart _ (List.mem_map_of_mem hother) t.name (by simp) (beq_iff_eq.mp heq)
    rw [firstOfEachName_concat, if_neg hnew, ih hts]

theorem WellNamed.catalog_declared (h : WellNamed cells) :
    (Bindings.declared cells).catalog = ⟨templatesOf cells⟩ :=
  congrArg Catalog.mk (firstOfEachName_of_nodup h)

theorem templatesOf_cons_of_template {entry : Cell × String} {name : String} {region : Region}
    (h : Descriptor.ofText entry.2 = .ok (.template name region)) (rest : List (Cell × String)) :
    templatesOf (entry :: rest) = ⟨name, region⟩ :: templatesOf rest := by
  simp [templatesOf, descriptorsOf, h, Except.toOption, templateOf?]

theorem templatesOf_append (cells more : List (Cell × String)) :
    templatesOf (cells ++ more) = templatesOf cells ++ templatesOf more := by
  simp [templatesOf, descriptorsOf]

/-- Where no name is repeated, only a text that cannot be read can offend. -/
theorem WellNamed.blameless_iff (h : WellNamed cells) : Blameless cells ↔ Legible cells := by
  constructor
  · intro hblameless entry hmem hlooks
    obtain ⟨earlier, rest, rfl⟩ := List.append_of_mem hmem
    cases hread : Descriptor.ofText entry.2 with
    | ok d => exact ⟨d, rfl⟩
    | error e => exact absurd (.unreadable hlooks hread) (hblameless earlier entry rest e rfl)
  · rintro hlegible earlier entry rest e rfl hoffends
    cases hoffends with
    | unreadable hlooks hread =>
      obtain ⟨d, hd⟩ := hlegible entry (by simp) hlooks
      rw [hread] at hd
      cases hd
    | @repeated name region hlooks hread hother =>
      rw [WellNamed, templatesOf_append, templatesOf_cons_of_template hread, List.map_append,
        List.nodup_append] at h
      have hname := (hasName_templatesOf_iff earlier name).mpr hother
      obtain ⟨other, hmem, heq⟩ := List.any_eq_true.mp hname
      exact h.2.2 _ (List.mem_map_of_mem hmem) name (by simp) (beq_iff_eq.mp heq)

namespace Bindings

/-! ## When a scan succeeds -/

theorem outcome_addAll_eq_ok_iff (strict : Bool) (cells : List (Cell × String)) (b : Bindings) :
    (addAll strict empty cells).outcome = .ok b ↔
      b = declared cells ∧ (strict = true → Blameless cells) := by
  have hlenient := outcome_addAll_declared [] cells
  rw [← empty_eq_declared, List.nil_append] at hlenient
  cases strict with
  | false => simp [hlenient, eq_comm]
  | true =>
    rcases blameless_or_firstOffence cells with hblameless | ⟨earlier, entry, e, hfirst⟩
    · simp [addAll_of_blameless hblameless, hlenient, hblameless, eq_comm]
    · have herror := outcome_addAll_of_firstOffence hfirst
      obtain ⟨rest, rfl⟩ := hfirst.place
      have hnot : ¬ Blameless (earlier ++ entry :: rest) :=
        fun h => h earlier entry rest e rfl hfirst.offends
      simp [herror, hnot]

/-- A scan of well-named cells finds all that they declare, unless something cannot be read or some
templates overlap, where that matters. -/
theorem outcome_scan_of_wellNamed (h : WellNamed cells) (options : ScanOptions) (b : Bindings) :
    (scan options cells).outcome = .ok b ↔
      b = declared cells ∧ (options.strict = true → Legible cells) ∧
        (options.rejectOverlaps = true → b.catalog.overlaps = []) := by
  rw [outcome_scan_eq_ok_iff, outcome_addAll_eq_ok_iff, h.blameless_iff, and_assoc]

theorem perm_templates_declared (hnames : WellNamed cells) (h : cells.Perm more) :
    (declared cells).catalog.templates.Perm (declared more).catalog.templates := by
  rw [hnames.catalog_declared, (hnames.perm h).catalog_declared]
  exact perm_templatesOf h

theorem exists_scan_of_perm (hnames : WellNamed cells) (h : cells.Perm more) {options : ScanOptions}
    (hscan : ∃ b, (scan options cells).outcome = .ok b) :
    ∃ b, (scan options more).outcome = .ok b := by
  obtain ⟨b, hb⟩ := hscan
  obtain ⟨rfl, hlegible, hoverlaps⟩ := (outcome_scan_of_wellNamed hnames options b).mp hb
  refine ⟨declared more, (outcome_scan_of_wellNamed (hnames.perm h) options _).mpr ⟨rfl, ?_, ?_⟩⟩
  · exact fun hstrict => (legible_iff_of_perm h).mp (hlegible hstrict)
  · exact fun hreject =>
      (Catalog.overlaps_eq_nil_of_perm (perm_templates_declared hnames h)).mp (hoverlaps hreject)

theorem perm_valuesIn {b b' : Bindings} (hvalues : b.values.Perm b'.values) {name : String}
    (hget : b.catalog.get? name = b'.catalog.get? name) :
    (b.valuesIn name).Perm (b'.valuesIn name) := by
  unfold valuesIn
  rw [hget]
  cases b'.catalog.get? name with
  | none => exact .refl _
  | some region => exact hvalues.filter _

end Bindings

/-! ## The law -/

/-- If every template of a sheet has a name of its own, the sheet is scanned the same in any order:
it succeeds or fails in every order alike, with the same values and controls, the same region for
each name and the same values in it, and the same pairs of overlapping templates. If overlaps are
rejected, the same template is found at each cell. -/
theorem a_well_named_sheet_scans_the_same_in_any_order (options : ScanOptions)
    {cells more : List (Cell × String)} (hnames : WellNamed cells) (h : cells.Perm more) :
    ((∃ b, (Bindings.scan options cells).outcome = .ok b) ↔
      ∃ b, (Bindings.scan options more).outcome = .ok b) ∧
    ∀ b b', (Bindings.scan options cells).outcome = .ok b →
      (Bindings.scan options more).outcome = .ok b' →
      b.values.Perm b'.values ∧ b.controls.Perm b'.controls ∧
      (∀ name, b.catalog.get? name = b'.catalog.get? name) ∧
      (∀ name, (b.valuesIn name).Perm (b'.valuesIn name)) ∧
      (b.catalog.overlaps.map Catalog.unordered).Perm (b'.catalog.overlaps.map Catalog.unordered) ∧
      (options.rejectOverlaps = true →
        ∀ cell, b.catalog.findAt? cell = b'.catalog.findAt? cell) := by
  have hnames' := hnames.perm h
  constructor
  · exact ⟨Bindings.exists_scan_of_perm hnames h, Bindings.exists_scan_of_perm hnames' h.symm⟩
  · intro b b' hb hb'
    have hreachable := Bindings.reachable_of_scan hb
    have hreachable' := Bindings.reachable_of_scan hb'
    obtain ⟨rfl, -, hoverlaps⟩ := (Bindings.outcome_scan_of_wellNamed hnames options b).mp hb
    obtain ⟨rfl, -, -⟩ := (Bindings.outcome_scan_of_wellNamed hnames' options b').mp hb'
    have htemplates := Bindings.perm_templates_declared hnames h
    have hvalues : (Bindings.declared cells).values.Perm (Bindings.declared more).values :=
      (perm_descriptorsOf h).filterMap _
    have hget := hreachable.get?_eq_of_perm hreachable' htemplates
    refine ⟨hvalues, (perm_descriptorsOf h).filterMap _, hget,
      fun name => Bindings.perm_valuesIn hvalues (hget name), Catalog.perm_overlaps htemplates, ?_⟩
    exact fun hreject => Catalog.findAt?_eq_of_perm htemplates (hoverlaps hreject)

/-- Two templates and a value are found alike from the first cell on and from the last one on. -/
theorem a_sheet_scans_the_same_backwards :
    let cells : List (Cell × String) := [(⟨1, 1⟩, "Template:Rows:A3:B5"),
      (⟨5, 2⟩, "Value:Sum:Total"), (⟨1, 2⟩, "Template:Sums:B6:B7")]
    WellNamed cells ∧ ∃ b b', (Bindings.scan ⟨true, true⟩ cells).outcome = .ok b ∧
      (Bindings.scan ⟨true, true⟩ cells.reverse).outcome = .ok b' ∧
      b.catalog.templates.map Template.name = ["Rows", "Sums"] ∧
      b'.catalog.templates.map Template.name = ["Sums", "Rows"] ∧
      (b.valuesIn "Rows").Perm (b'.valuesIn "Rows") ∧
      ∀ cell, b.catalog.findAt? cell = b'.catalog.findAt? cell := by
  intro cells
  have hnames : WellNamed cells := by
    show ["Rows", "Sums"].Nodup
    decide
  have hforward : ∃ b, (Bindings.scan ⟨true, true⟩ cells).outcome = .ok b ∧
      b.catalog.templates.map Template.name = ["Rows", "Sums"] := ⟨_, rfl, rfl⟩
  have hbackward : ∃ b, (Bindings.scan ⟨true, true⟩ cells.reverse).outcome = .ok b ∧
      b.catalog.templates.map Template.name = ["Sums", "Rows"] := ⟨_, rfl, rfl⟩
  obtain ⟨b, hb, htemplates⟩ := hforward
  obtain ⟨b', hb', htemplates'⟩ := hbackward
  obtain ⟨-, hsame⟩ :=
    a_well_named_sheet_scans_the_same_in_any_order ⟨true, true⟩ hnames cells.reverse_perm.symm
  obtain ⟨-, -, -, hvaluesIn, -, hfind⟩ := hsame b b' hb hb'
  exact ⟨hnames, b, b', hb, hb', htemplates, htemplates', hvaluesIn "Rows", hfind rfl⟩

end GridTemplate
