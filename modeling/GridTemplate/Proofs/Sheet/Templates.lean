-- Template declarations, read in two ways. A catalog can be made from the texts of descriptors, and
-- a strict scan makes one from the cells of a sheet. The scan looks for a keyword first and takes
-- other descriptors too, but of cells that declare templates both make the same catalog or fail
-- alike.
import GridTemplate.Proofs.Catalog.Declarations
import GridTemplate.Proofs.Sheet.Lenient

namespace GridTemplate

/-- The text begins with the keyword of a template and a colon. -/
def StartsAsTemplate (text : String) : Prop := ∃ rest, text = templateKeyword ++ ":" ++ rest

/-- The text looks like a descriptor, and no descriptor can be read from it but a template. -/
structure TemplateAtMost (text : String) : Prop where
  looks : looksLikeDescriptor text = true
  template : ∀ d, Descriptor.ofText text = .ok d → ∃ name region, d = .template name region

/-! ## Which texts declare templates -/

/-- The first token decides the shape of a descriptor. -/
theorem StartsAsTemplate.templateAtMost {text : String} (h : StartsAsTemplate text) :
    TemplateAtMost text where
  looks := by
    obtain ⟨rest, rfl⟩ := h
    exact looksLikeDescriptor_of_keyword (by decide) rest
  template := by
    obtain ⟨rest, rfl⟩ := h
    have htokens : descriptorTokens (templateKeyword ++ ":" ++ rest) =
        templateKeyword :: colonPieces rest := by
      rw [descriptorTokens_eq (by simp), colonPieces_append, colonPieces_of_not_mem (by decide)]
      rfl
    intro d hread
    obtain ⟨hsame, -, -⟩ := Descriptor.tokens_of_ofText hread
    rw [htokens] at hsame
    cases d with
    | value label path => exact absurd (List.cons.inj hsame).1 (by decide)
    | form control name path =>
      exact absurd (List.cons.inj hsame).1.symm (keyword_ne_templateKeyword control)
    | template name region => exact ⟨name, region, rfl⟩

theorem Catalog.ofText_of_declarationOf {text : String} {t : Template}
    (h : declarationOf text = .ok t) :
    Descriptor.ofText text = .ok (.template t.name t.region) := by
  unfold declarationOf at h
  split at h
  · rename_i hread
    cases h
    exact hread
  · cases h
  · cases h

theorem templateAtMost_of_declarationOf {text : String} {t : Template}
    (h : Catalog.declarationOf text = .ok t) : TemplateAtMost text where
  looks := looksLikeDescriptor_of_ofText (Catalog.ofText_of_declarationOf h)
  template := by
    intro d hread
    rw [Catalog.ofText_of_declarationOf h] at hread
    cases hread
    exact ⟨t.name, t.region, rfl⟩

/-- If a catalog takes all texts, each of them declares a template. -/
theorem Catalog.templateAtMost_of_insertAll {c d : Catalog} {texts : List String}
    (h : (c.insertAll texts).outcome = .ok d) : ∀ text ∈ texts, TemplateAtMost text := by
  induction texts generalizing c with
  | nil => simp
  | cons text rest ih =>
    rw [insertAll] at h
    split at h
    · cases h
    · rename_i next t hinsert
      obtain ⟨hdeclared, -⟩ := (insert_eq_ok_iff c next text t).mp hinsert
      exact List.forall_mem_cons.mpr ⟨templateAtMost_of_declarationOf hdeclared, ih h⟩

namespace Bindings

/-! ## One cell after the other -/

/-- A scan that comes to a cell with a template at most does with its catalog what a declaration
does. -/
theorem outcome_addAll_cons {text : String} (h : TemplateAtMost text) (b : Bindings) (cell : Cell)
    (rest : List (Cell × String)) :
    (addAll true b ((cell, text) :: rest)).outcome =
      match b.catalog.insert text with
      | .error e => .error e
      | .ok (c, _) => (addAll true { b with catalog := c } rest).outcome := by
  rw [addAll, if_pos h.looks]
  cases hread : Descriptor.ofText text with
  | error e => simp [Catalog.insert, Catalog.declarationOf, hread]
  | ok d =>
    obtain ⟨name, region, rfl⟩ := h.template d hread
    cases hinsert : b.catalog.insertRegion name region with
    | error e => simp [Catalog.insert, Catalog.declarationOf, hread, add, hinsert]
    | ok c => simp [Catalog.insert, Catalog.declarationOf, hread, add, hinsert]

/-- By induction on the cells: either way the catalogs grow alike, and the scan collects nothing
else. -/
theorem outcome_addAll_of_templateAtMost {cells : List (Cell × String)}
    (h : ∀ entry ∈ cells, TemplateAtMost entry.2) (b : Bindings) :
    (addAll true b cells).outcome =
      (b.catalog.insertAll (cells.map Prod.snd)).outcome.map fun c => { b with catalog := c } := by
  induction cells generalizing b with
  | nil => rfl
  | cons entry rest ih =>
    obtain ⟨cell, text⟩ := entry
    obtain ⟨htext, hrest⟩ := List.forall_mem_cons.mp h
    rw [outcome_addAll_cons htext, List.map_cons, Catalog.insertAll]
    cases hinsert : b.catalog.insert text with
    | error e => rfl
    | ok result =>
      obtain ⟨c, t⟩ := result
      exact ih hrest { b with catalog := c }

/-- Where overlaps are accepted, a scan ends with what it has collected. -/
theorem outcome_scan_accepting (strict : Bool) (cells : List (Cell × String)) :
    (scan ⟨strict, false⟩ cells).outcome = (addAll strict empty cells).outcome := by
  unfold scan
  dsimp only
  cases hfound : (addAll strict empty cells).outcome with
  | error e => exact hfound
  | ok b => rfl

theorem outcome_scan_of_templateAtMost {cells : List (Cell × String)}
    (h : ∀ entry ∈ cells, TemplateAtMost entry.2) :
    (scan ⟨true, false⟩ cells).outcome =
      (Catalog.ofDescriptors (cells.map Prod.snd)).outcome.map fun c => ⟨[], [], c⟩ := by
  rw [outcome_scan_accepting]
  exact outcome_addAll_of_templateAtMost h empty

end Bindings

/-! ## The law -/

/-- Of cells whose texts all begin like templates, a strict scan that accepts overlaps gives nothing
but the catalog that their texts make, template by template in the same order, or it fails with the
same error. Whatever the texts are, if they make a catalog then the scan finds just that. -/
theorem a_catalog_and_a_scan_read_templates_alike (cells : List (Cell × String)) :
    let scan := Bindings.scan ⟨true, false⟩ cells
    let built := Catalog.ofDescriptors (cells.map Prod.snd)
    ((∀ entry ∈ cells, StartsAsTemplate entry.2) →
      scan.outcome = built.outcome.map fun c => ⟨[], [], c⟩) ∧
    ∀ c, built.outcome = .ok c → scan.outcome = .ok ⟨[], [], c⟩ := by
  intro scan built
  constructor
  · intro h
    exact Bindings.outcome_scan_of_templateAtMost fun entry hmem => (h entry hmem).templateAtMost
  · intro c hc
    have htexts := Catalog.templateAtMost_of_insertAll hc
    have hscan : scan.outcome = built.outcome.map _ := Bindings.outcome_scan_of_templateAtMost
      fun entry hmem => htexts entry.2 (List.mem_map_of_mem hmem)
    rw [hscan, hc]
    rfl

/-- Two templates are found by a scan as they are declared, although they overlap. If the first of
them is declared again, both ways stop there. -/
theorem overlapping_templates_are_found_as_declared :
    let cells : List (Cell × String) :=
      [(⟨9, 9⟩, "Template:Rows:A3:B5"), (⟨1, 2⟩, "Template:Sums:B5:B6")]
    let more := cells ++ [(⟨1, 3⟩, "Template:Rows:D1:D9")]
    (∀ entry ∈ more, StartsAsTemplate entry.2) ∧
    (Bindings.scan ⟨true, false⟩ more).outcome = .error (.duplicateTemplate "Rows") ∧
    ∃ c, (Catalog.ofDescriptors (cells.map Prod.snd)).outcome = .ok c ∧
      c.templates.map Template.name = ["Rows", "Sums"] ∧
      (Bindings.scan ⟨true, false⟩ cells).outcome = .ok ⟨[], [], c⟩ := by
  intro cells more
  have hmore : ∀ entry ∈ more, StartsAsTemplate entry.2 := by
    simp only [more, cells, List.cons_append, List.nil_append, List.forall_mem_cons]
    exact ⟨⟨"Rows:A3:B5", rfl⟩, ⟨"Sums:B5:B6", rfl⟩, ⟨"Rows:D1:D9", rfl⟩, by simp⟩
  obtain ⟨hfails, -⟩ := a_catalog_and_a_scan_read_templates_alike more
  obtain ⟨-, hfound⟩ := a_catalog_and_a_scan_read_templates_alike cells
  refine ⟨hmore, ?_, _, rfl, rfl, hfound _ rfl⟩
  rw [hfails hmore]
  rfl

end GridTemplate
