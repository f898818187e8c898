-- What a sheet declares. Every cell whose text starts with the keyword of a descriptor is read;
-- all other cells are ordinary content. A lenient scan skips what it cannot use and notes that, a
-- strict scan stops there.
import GridTemplate.Catalog

namespace GridTemplate

/-- How a sheet is scanned. -/
structure ScanOptions where
  /-- Whether a malformed descriptor or a second declaration of a template is an error. -/
  strict : Bool := false
  /-- Whether templates that share cells are an error. -/
  rejectOverlaps : Bool := true
  deriving DecidableEq, Repr

/-- A cell that shows a value. -/
structure ValueBinding where
  cell : Cell
  label : String
  path : ModelPath
  deriving DecidableEq, Repr

/-- A cell whose form control is bound to a value. -/
structure ControlBinding where
  cell : Cell
  control : ControlType
  name : String
  path : ModelPath
  deriving DecidableEq, Repr

/-- What a sheet declares, each kind in scan order. -/
structure Bindings where
  values : List ValueBinding
  controls : List ControlBinding
  catalog : Catalog
  deriving DecidableEq

/-- The words that mark a text as a descriptor. -/
def descriptorKeywords : List String :=
  [valueKeyword, templateKeyword, ControlType.checkBox.keyword, ControlType.dropDown.keyword]

/-- Whether a text has a descriptor's keyword before its first colon. -/
def looksLikeDescriptor (text : String) : Bool :=
  text.toList.contains ':' &&
    descriptorKeywords.contains (String.ofList (text.toList.takeWhile (· != ':')))

namespace Bindings

/-- Nothing declared. -/
def empty : Bindings := ⟨[], [], .empty⟩

/-- The bindings with what a cell's descriptor declares. Only a template can be refused. -/
def add (b : Bindings) (cell : Cell) : Descriptor → Except Error Bindings
  | .value label path => .ok { b with values := b.values ++ [⟨cell, label, path⟩] }
  | .form control name path => .ok { b with controls := b.controls ++ [⟨cell, control, name, path⟩] }
  | .template name region =>
    match b.catalog.insertRegion name region with
    | .ok catalog => .ok { b with catalog := catalog }
    | .error e => .error e

/-- What is noted of a descriptor that was taken. -/
def noted : Descriptor → List Record
  | .template name region => [.templateDeclared name region]
  | _ => []

/-- The bindings with what further cells declare. -/
def addAll (strict : Bool) (b : Bindings) : List (Cell × String) → Logged Bindings
  | [] => .ok b
  | (cell, text) :: rest =>
    if looksLikeDescriptor text then
      match Descriptor.ofText text with
      | .error e =>
        if strict then .fail e else (addAll strict b rest).after [.descriptorSkipped cell e]
      | .ok descriptor =>
        match b.add cell descriptor with
        | .error e =>
          if strict then .fail e else (addAll strict b rest).after [.templateSkipped cell e]
        | .ok b => (addAll strict b rest).after (noted descriptor)
    else addAll strict b rest

/-- The record of a finished scan. -/
def scanned (b : Bindings) : Record :=
  .sheetScanned b.values.length b.controls.length b.catalog.size

/-- Looks at the catalog of a scan that read all cells. The first pair that shares cells is
reported. -/
def finish (rejectOverlaps : Bool) (b : Bindings) : Logged Bindings :=
  match rejectOverlaps, b.catalog.overlaps with
  | true, (first, second) :: _ => .fail (.overlappingTemplates first second)
  | _, _ => (Logged.ok b).after [b.scanned]

/-- Scans cells in the order given. -/
def scan (options : ScanOptions) (cells : List (Cell × String)) : Logged Bindings :=
  let found := addAll options.strict empty cells
  match found.outcome with
  | .error _ => found
  | .ok b => (finish options.rejectOverlaps b).after found.log

/-- The value bindings that lie in a template's region. -/
def valuesIn (b : Bindings) (template : String) : List ValueBinding :=
  match b.catalog.get? template with
  | none => []
  | some region => b.values.filter fun binding => region.contains binding.cell

end Bindings

end GridTemplate
