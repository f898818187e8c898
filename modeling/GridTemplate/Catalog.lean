-- The catalog of templates: named regions in the order of their declaration. A name is declared
-- at most once, and what is declared stays. With an index, a name is looked up by its place, and a
-- declaration changes the catalog in place.
import GridTemplate.Descriptor.Basic
import GridTemplate.Region.Overlap
import GridTemplate.Log
import Std.Data.HashMap

namespace GridTemplate

/-- A named region. -/
structure Template where
  name : String
  region : Region
  deriving DecidableEq

/-- Templates in the order of their declaration. -/
structure Catalog where
  templates : List Template
  deriving DecidableEq

namespace Catalog

/-- The catalog without templates. -/
def empty : Catalog := ⟨[]⟩

/-- How many templates there are. -/
def size (c : Catalog) : Nat := c.templates.length

/-- Whether there is no template. -/
def isEmpty (c : Catalog) : Bool := c.templates.isEmpty

/-- The region of a name. -/
def get? (c : Catalog) (name : String) : Option Region :=
  (c.templates.find? fun template => template.name == name).map Template.region

/-- The template that covers a cell and was declared first of those. -/
def findAt? (c : Catalog) (cell : Cell) : Option Template :=
  c.templates.find? fun template => template.region.contains cell

/-! ## Declaring templates -/

/-- The catalog with one more template at its end. A name that stands in it is refused. -/
def insertRegion (c : Catalog) (name : String) (region : Region) : Except Error Catalog :=
  if c.templates.any fun template => template.name == name then .error (.duplicateTemplate name)
  else .ok ⟨c.templates ++ [⟨name, region⟩]⟩

/-- A template is taken if its name is new, and then it stands last. -/
theorem insertRegion_eq_ok_iff (c d : Catalog) (name : String) (region : Region) :
    c.insertRegion name region = .ok d ↔
      (∀ template ∈ c.templates, template.name ≠ name) ∧
        d.templates = c.templates ++ [⟨name, region⟩] := by
  obtain ⟨templates⟩ := d
  unfold insertRegion
  split
  · rename_i h
    obtain ⟨template, hmem, hname⟩ := List.any_eq_true.mp h
    simp only [reduceCtorEq, false_iff, not_and]
    intro hnew
    exact absurd (beq_iff_eq.mp hname) (hnew template hmem)
  · rename_i h
    simp only [List.any_eq_true, beq_iff_eq, not_exists, not_and] at h
    constructor
    · intro heq
      cases heq
      exact ⟨h, rfl⟩
    · rintro ⟨-, rfl⟩
      rfl

/-- The template that a descriptor declares. A descriptor of another shape is refused. -/
def declarationOf (text : String) : Except Error Template :=
  match Descriptor.ofText text with
  | .ok (.template name region) => .ok ⟨name, region⟩
  | .ok _ => .error (.malformedDescriptor text)
  | .error e => .error e

/-- The catalog with the template that a descriptor declares, and that template. -/
def insert (c : Catalog) (text : String) : Except Error (Catalog × Template) :=
  match declarationOf text with
  | .error e => .error e
  | .ok template =>
    match c.insertRegion template.name template.region with
    | .error e => .error e
    | .ok c => .ok (c, template)

/-- The record of a declaration. -/
def declared (template : Template) : Record := .templateDeclared template.name template.region

/-- Declares the templates of several descriptors, up to the first that fails. -/
def insertAll (c : Catalog) : List String → Logged Catalog
  | [] => .ok c
  | text :: rest =>
    match c.insert text with
    | .error e => .fail e
    | .ok (c, template) => (c.insertAll rest).after [declared template]

/-- The catalog of the templates that descriptors declare. -/
def ofDescriptors (texts : List String) : Logged Catalog := empty.insertAll texts

/-! ## Overlaps -/

/-- The names of the templates that share cells with a given one. -/
def overlapsOf (template : Template) (others : List Template) : List (String × String) :=
  (others.filter fun other => template.region.intersects other.region).map
    fun other => (template.name, other.name)

/-- The pairs of templates that share cells, each with the one that was declared first in front,
in the order of declaration. -/
def overlapsAmong : List Template → List (String × String)
  | [] => []
  | template :: rest => overlapsOf template rest ++ overlapsAmong rest

/-- The names of the templates that share cells. -/
def overlaps (c : Catalog) : List (String × String) := overlapsAmong c.templates

end Catalog

/-! ## A catalog with an index -/

/-- Templates in the order of their declaration, and the place of each name among them. -/
structure IndexedCatalog where
  templates : List Template
  places : Std.HashMap String Nat

namespace IndexedCatalog

/-- No templates, and no places. -/
def empty : IndexedCatalog := ⟨[], ∅⟩

/-- The same templates without the index. -/
def listed (c : IndexedCatalog) : Catalog := ⟨c.templates⟩

def names (c : IndexedCatalog) : List String := c.templates.map Template.name

/-- The region of the template at the place of a name, or none if the name has no place. There is no
answer at all if no template stands at the place. -/
def lookUp? (c : IndexedCatalog) (name : String) : Option (Option Region) :=
  match c.places[name]? with
  | none => some none
  | some i => c.templates[i]?.map fun t => some t.region

/-! ## Declarations in place -/

/-- An operation that changes a catalog in place. What it changed before an error stays changed. -/
abbrev InPlace := EStateM Error IndexedCatalog

/-- Declares a region under a name. Its place is the number of templates before it. -/
def insertRegion (name : String) (region : Region) : InPlace Unit := do
  if name ∈ (← get).places then
    throw (.duplicateTemplate name)
  modify fun c => { c with places := c.places.insert name c.templates.length }
  modify fun c => { c with templates := c.templates ++ [⟨name, region⟩] }

/-- Declares the template of a descriptor, and answers with its region. -/
def insert (text : String) : InPlace Region := do
  match Descriptor.ofText text with
  | .ok (.template name region) =>
    insertRegion name region
    return region
  | .ok _ => throw (.malformedDescriptor text)
  | .error e => throw e

end IndexedCatalog

end GridTemplate
