-- Descriptors: the short texts in a sheet's cells that bind values and form controls or declare
-- templates. Reading one decides its shape by its tokens; writing it gives the same text again.
import GridTemplate.Descriptor.Shape

namespace GridTemplate

/-- What a descriptor says. -/
inductive Descriptor
  /-- The cell shows the value at a path, under a label. -/
  | value (label : String) (path : ModelPath)
  /-- A form control of the cell is bound to the value at a path. -/
  | form (control : ControlType) (name : String) (path : ModelPath)
  /-- A region of the sheet is a template. -/
  | template (name : String) (region : Region)
  deriving DecidableEq

namespace Descriptor

/-- The descriptor of three tokens, if they make one. -/
def ofBinding? (keyword name path : String) : Option Descriptor :=
  match ControlType.ofKeyword? keyword with
  | some control =>
    if name = "" then none else (ModelPath.ofText path).toOption.map (.form control name)
  | none =>
    if keyword = valueKeyword then (ModelPath.ofText path).toOption.map (.value name) else none

/-- The descriptor that a text writes. A template that cannot lie where it says is refused for
what the grid says of it, and any other text for being no descriptor. -/
def ofText (text : String) : Except Error Descriptor :=
  match descriptorTokens text with
  | [keyword, name, path] =>
    match ofBinding? keyword name path with
    | some descriptor => .ok descriptor
    | none => .error (.malformedDescriptor text)
  | [keyword, name, first, last] =>
    if keyword = templateKeyword ∧ name ≠ "" ∧ isReference first.toList = true
        ∧ isReference last.toList = true then
      match regionBetween text first last with
      | .ok region => .ok (.template name region)
      | .error e => .error e
    else .error (.malformedDescriptor text)
  | _ => .error (.malformedDescriptor text)

/-- Reads a text by its shape: the shapes are asked for one after the other, and then the tokens are
taken by their places. It is `none` if there is no token at such a place. -/
def byShape? (text : String) : Option (Except Error Descriptor) := do
  let tokens := descriptorTokens text
  if isFormDescriptor text then
    let keyword ← tokens[0]?
    let name ← tokens[1]?
    let path ← tokens[2]?
    return do
      let control ← ControlType.ofKeyword keyword
      let path ← ModelPath.ofText path
      return .form control name path
  else if isValueDescriptor text then
    let label ← tokens[1]?
    let path ← tokens[2]?
    return do
      let path ← ModelPath.ofText path
      return .value label path
  else if isTemplateDescriptor text then
    let name ← tokens[1]?
    let first ← tokens[2]?
    let last ← tokens[3]?
    return do
      let region ← regionBetween text first last
      return .template name region
  else return .error (.malformedDescriptor text)

/-- The text of a descriptor. -/
def text : Descriptor → String
  | .value label path => valueKeyword ++ ":" ++ label ++ ":" ++ path.text
  | .form control name path => control.keyword ++ ":" ++ name ++ ":" ++ path.text
  | .template name region => templateKeyword ++ ":" ++ name ++ ":" ++ region.text

end Descriptor

end GridTemplate
