-- Where a value lies. The catalog of a scan is one that declarations lead to, so a value binding is
-- in a template exactly if the template of that name covers its cell. If no templates overlap, that
-- is the one that a look-up at the cell finds.
import GridTemplate.Sheet.Bindings
import GridTemplate.Proofs.Catalog.Coverage

namespace GridTemplate

namespace Bindings

/-! ## The catalog of a scan -/

theorem reaches_add {b after : Bindings} {cell : Cell} {d : Descriptor}
    (h : b.add cell d = .ok after) : b.catalog.Reaches after.catalog := by
  cases d with
  | value label path =>
    cases h
    exact .refl b.catalog
  | form control name path =>
    cases h
    exact .refl b.catalog
  | template name region =>
    rw [add] at h
    split at h
    · rename_i catalog hinsert
      cases h
      exact .of_insertRegion hinsert
    · cases h

theorem reaches_addAll {strict : Bool} {b after : Bindings} {cells : List (Cell × String)}
    (h : (addAll strict b cells).outcome = .ok after) : b.catalog.Reaches after.catalog := by
  induction cells generalizing b with
  | nil =>
    cases h
    exact .refl _
  | cons entry rest ih =>
    obtain ⟨cell, text⟩ := entry
    rw [addAll] at h
    -- A cell that is passed over, skipped or refused leaves the catalog as it is.
    split at h
    · split at h
      · split at h
        · cases h
        · exact ih h
      · rename_i d hread
        split at h
        · split at h
          · cases h
          · exact ih h
        · rename_i b' hadd
          exact (reaches_add hadd).trans (ih h)
    · exact ih h

/-- A scan is finished if no overlap is in the way. -/
theorem outcome_finish_eq_ok_iff (rejectOverlaps : Bool) (b after : Bindings) :
    (finish rejectOverlaps b).outcome = .ok after ↔
      b = after ∧ (rejectOverlaps = true → b.catalog.overlaps = []) := by
  unfold finish
  cases rejectOverlaps with
  | false => simp
  | true =>
    cases b.catalog.overlaps with
    | nil => simp
    | cons names rest => simp

theorem outcome_scan_eq_ok_iff (options : ScanOptions) (cells : List (Cell × String))
    (b : Bindings) :
    (scan options cells).outcome = .ok b ↔
      (addAll options.strict empty cells).outcome = .ok b ∧
        (options.rejectOverlaps = true → b.catalog.overlaps = []) := by
  unfold scan
  dsimp only
  cases hfound : (addAll options.strict empty cells).outcome with
  | error e => simp [hfound]
  | ok found =>
    rw [Logged.outcome_after, outcome_finish_eq_ok_iff, Except.ok.injEq]
    constructor
    · rintro ⟨rfl, hoverlaps⟩
      exact ⟨rfl, hoverlaps⟩
    · rintro ⟨rfl, hoverlaps⟩
      exact ⟨rfl, hoverlaps⟩

theorem reachable_of_scan {options : ScanOptions} {cells : List (Cell × String)} {b : Bindings}
    (h : (scan options cells).outcome = .ok b) : b.catalog.Reachable :=
  reaches_addAll ((outcome_scan_eq_ok_iff options cells b).mp h).1

theorem overlaps_of_scan {options : ScanOptions} {cells : List (Cell × String)} {b : Bindings}
    (h : (scan options cells).outcome = .ok b) (hreject : options.rejectOverlaps = true) :
    b.catalog.overlaps = [] :=
  ((outcome_scan_eq_ok_iff options cells b).mp h).2 hreject

/-! ## Values in templates -/

theorem mem_valuesIn_iff {b : Bindings} (hb : b.catalog.Reachable) (binding : ValueBinding)
    (name : String) :
    binding ∈ b.valuesIn name ↔ binding ∈ b.values ∧
      ∃ t ∈ b.catalog.templates, t.name = name ∧ t.region.contains binding.cell = true := by
  unfold valuesIn
  constructor
  · intro h
    split at h
    · cases h
    · rename_i region hget
      obtain ⟨hmem, hcontains⟩ := List.mem_filter.mp h
      exact ⟨hmem, _, (hb.get?_eq_some_iff name region).mp hget, rfl, hcontains⟩
  · rintro ⟨hmem, t, ht, rfl, hcontains⟩
    rw [(hb.get?_eq_some_iff t.name t.region).mpr ht]
    exact List.mem_filter.mpr ⟨hmem, hcontains⟩

theorem mem_valuesIn_of_findAt? {b : Bindings} (hb : b.catalog.Reachable) {binding : ValueBinding}
    (hmem : binding ∈ b.values) {t : Template} (ht : b.catalog.findAt? binding.cell = some t) :
    binding ∈ b.valuesIn t.name := by
  obtain ⟨i, hplace, hcovers, -⟩ := (Catalog.findAt?_eq_some_iff _ _ t).mp ht
  exact (mem_valuesIn_iff hb binding t.name).mpr
    ⟨hmem, t, List.mem_of_getElem? hplace, rfl, hcovers⟩

/-- Without overlaps a value lies in the template that a look-up at its cell finds. -/
theorem mem_valuesIn_iff_findAt? {b : Bindings} (hb : b.catalog.Reachable)
    (hoverlaps : b.catalog.overlaps = []) {binding : ValueBinding} (hmem : binding ∈ b.values)
    (name : String) :
    binding ∈ b.valuesIn name ↔
      ∃ t, b.catalog.findAt? binding.cell = some t ∧ t.name = name := by
  constructor
  · intro h
    obtain ⟨-, t, ht, hname, hcovers⟩ := (mem_valuesIn_iff hb binding name).mp h
    obtain ⟨i, hi⟩ := List.getElem?_of_mem ht
    exact ⟨t, Catalog.findAt?_of_overlaps_eq_nil hoverlaps hi hcovers, hname⟩
  · rintro ⟨t, ht, rfl⟩
    exact mem_valuesIn_of_findAt? hb hmem ht

theorem eq_of_mem_valuesIn {b : Bindings} (hb : b.catalog.Reachable)
    (hoverlaps : b.catalog.overlaps = []) {binding : ValueBinding} (hmem : binding ∈ b.values)
    {name other : String} (hname : binding ∈ b.valuesIn name)
    (hother : binding ∈ b.valuesIn other) : name = other := by
  obtain ⟨t, ht, rfl⟩ := (mem_valuesIn_iff_findAt? hb hoverlaps hmem name).mp hname
  obtain ⟨u, hu, rfl⟩ := (mem_valuesIn_iff_findAt? hb hoverlaps hmem other).mp hother
  rw [ht] at hu
  cases hu
  rfl

end Bindings

/-! ## The law -/

/-- In every catalog that declarations lead to, the overlaps are the pairs of templates that share
cells, each listed once and in the order of their places. There are none exactly if no cell is
covered twice, and a look-up finds the first template that covers a cell, the only one if there
are no overlaps. So after a scan the template found at a value's cell has the value among its
own, and if the scan rejects overlaps, no other template has. -/
theorem overlaps_look_ups_and_values_agree :
    (∀ c : Catalog, c.Reachable →
      (∃ places, ListsOverlaps c.templates c.overlaps places) ∧ c.overlaps.Nodup ∧
      (c.overlaps = [] ↔
        ∀ cell i j, CoversAt c.templates cell i → CoversAt c.templates cell j → i = j) ∧
      ∀ cell,
        (∀ t, c.findAt? cell = some t ↔ ∃ i, FirstCovering c.templates cell i t) ∧
        (c.findAt? cell = none ↔ ∀ i, ¬ CoversAt c.templates cell i) ∧
        (c.overlaps = [] → ∀ t, c.findAt? cell = some t ↔
          t ∈ c.templates ∧ t.region.contains cell = true)) ∧
    ∀ options cells b, (Bindings.scan options cells).outcome = .ok b →
      b.catalog.Reachable ∧
      ∀ binding ∈ b.values,
        (∀ t, b.catalog.findAt? binding.cell = some t → binding ∈ b.valuesIn t.name) ∧
        (options.rejectOverlaps = true →
          (∀ name, binding ∈ b.valuesIn name ↔
            ∃ t, b.catalog.findAt? binding.cell = some t ∧ t.name = name) ∧
          ∀ name other, binding ∈ b.valuesIn name → binding ∈ b.valuesIn other → name = other) := by
  constructor
  · intro c hc
    refine ⟨⟨_, c.listsOverlaps⟩, hc.nodup_overlaps, c.overlaps_eq_nil_iff_coversAt, ?_⟩
    intro cell
    refine ⟨c.findAt?_eq_some_iff cell, c.findAt?_eq_none_iff cell, ?_⟩
    intro hoverlaps t
    constructor
    · intro ht
      obtain ⟨i, hplace, hcovers, -⟩ := (c.findAt?_eq_some_iff cell t).mp ht
      exact ⟨List.mem_of_getElem? hplace, hcovers⟩
    · rintro ⟨ht, hcovers⟩
      obtain ⟨i, hi⟩ := List.getElem?_of_mem ht
      exact Catalog.findAt?_of_overlaps_eq_nil hoverlaps hi hcovers
  · intro options cells b hscan
    have hb := Bindings.reachable_of_scan hscan
    refine ⟨hb, ?_⟩
    intro binding hmem
    refine ⟨fun t ht => Bindings.mem_valuesIn_of_findAt? hb hmem ht, ?_⟩
    intro hreject
    have hoverlaps := Bindings.overlaps_of_scan hscan hreject
    exact ⟨Bindings.mem_valuesIn_iff_findAt? hb hoverlaps hmem,
      fun name other => Bindings.eq_of_mem_valuesIn hb hoverlaps hmem⟩

/-- A value that two templates cover is found in the first one. After a scan that rejects overlaps,
a value is in the template that covers it and in no other. -/
theorem a_covered_value_is_in_the_template_found_there :
    let binding : ValueBinding := ⟨⟨5, 2⟩, "Sum", ⟨[.plain "Total"], by decide⟩⟩
    let overlapping : List (Cell × String) := [(⟨1, 1⟩, "Template:Rows:A3:B5"),
      (⟨5, 2⟩, "Value:Sum:Total"), (⟨1, 2⟩, "Template:Sums:B5:B6")]
    let apart : List (Cell × String) := [(⟨1, 1⟩, "Template:Rows:A3:B5"),
      (⟨5, 2⟩, "Value:Sum:Total"), (⟨1, 2⟩, "Template:Sums:B6:B7")]
    (∃ b, (Bindings.scan ⟨false, false⟩ overlapping).outcome = .ok b ∧
      b.catalog.overlaps = [("Rows", "Sums")] ∧ b.catalog.overlaps.Nodup ∧
      binding ∈ b.valuesIn "Rows") ∧
    ∃ b, (Bindings.scan ⟨true, true⟩ apart).outcome = .ok b ∧
      binding ∈ b.valuesIn "Rows" ∧ binding ∉ b.valuesIn "Sums" := by
  intro binding overlapping apart
  obtain ⟨hcatalogs, hscans⟩ := overlaps_look_ups_and_values_agree
  constructor
  · have hscan : ∃ b, (Bindings.scan ⟨false, false⟩ overlapping).outcome = .ok b ∧
        b.values = [binding] ∧ b.catalog.overlaps = [("Rows", "Sums")] ∧
        (b.catalog.findAt? binding.cell).map Template.name = some "Rows" := ⟨_, rfl, rfl, rfl, rfl⟩
    obtain ⟨b, hb, hvalues, hoverlaps, hfound⟩ := hscan
    obtain ⟨t, ht, hname⟩ := Option.map_eq_some_iff.mp hfound
    obtain ⟨hreachable, hlooks⟩ := hscans _ _ b hb
    have hrows := (hlooks binding (by simp [hvalues])).1 t ht
    rw [hname] at hrows
    exact ⟨b, hb, hoverlaps, (hcatalogs b.catalog hreachable).2.1, hrows⟩
  · have hscan : ∃ b, (Bindings.scan ⟨true, true⟩ apart).outcome = .ok b ∧
        b.values = [binding] ∧
        (b.catalog.findAt? binding.cell).map Template.name = some "Rows" := ⟨_, rfl, rfl, rfl⟩
    obtain ⟨b, hb, hvalues, hfound⟩ := hscan
    obtain ⟨-, hreject⟩ := (hscans _ _ b hb).2 binding (by simp [hvalues])
    obtain ⟨hfinds, honly⟩ := hreject rfl
    have hrows := (hfinds "Rows").mpr (Option.map_eq_some_iff.mp hfound)
    refine ⟨b, hb, hrows, ?_⟩
    intro hsums
    exact absurd (honly "Rows" "Sums" hrows hsums) (by decide)

end GridTemplate
