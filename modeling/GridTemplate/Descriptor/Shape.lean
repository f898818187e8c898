-- The shapes of descriptors. A descriptor is a text of tokens between colons; these questions ask
-- what shape it has and what its tokens say, and each of them reads the text on its own.
import GridTemplate.Descriptor.Control
import GridTemplate.Descriptor.Reference
import GridTemplate.Path.Basic
import GridTemplate.Region.Basic

namespace GridTemplate

/-- The keyword of a value descriptor. -/
def valueKeyword : String := "Value"

/-- The keyword of a template descriptor. -/
def templateKeyword : String := "Template"

/-- The tokens between the colons of a text. The empty text has none. -/
def descriptorTokens (text : String) : List String :=
  if text.toList = [] then [] else (text.toList.splitOn ':').map String.ofList

/-- Whether the text has three tokens of which the last is a model path. -/
def isAbstractValueDescriptor (text : String) : Bool :=
  match descriptorTokens text with
  | [_, _, path] => isModelPath path
  | _ => false

/-- Whether the text binds a cell to a value. -/
def isValueDescriptor (text : String) : Bool :=
  isAbstractValueDescriptor text && (descriptorTokens text).head? == some valueKeyword

/-- Whether the text binds a form control, which has to have a name. -/
def isFormDescriptor (text : String) : Bool :=
  isAbstractValueDescriptor text &&
    match descriptorTokens text with
    | control :: name :: _ => (ControlType.ofKeyword? control).isSome && name != ""
    | _ => false

/-- Whether the text declares a template: a keyword, a name and two references. -/
def isTemplateDescriptor (text : String) : Bool :=
  match descriptorTokens text with
  | [keyword, name, first, last] =>
    keyword == templateKeyword && name != "" && isReference first.toList && isReference last.toList
  | _ => false

/-! ## What the tokens say -/

/-- The label of a value descriptor. -/
def valueLabel? (text : String) : Option String :=
  if isValueDescriptor text then (descriptorTokens text)[1]? else none

/-- The name of the control that a form descriptor binds. -/
def controlName? (text : String) : Option String :=
  if isFormDescriptor text then (descriptorTokens text)[1]? else none

/-- The type of the control that a form descriptor binds. -/
def controlType? (text : String) : Option ControlType :=
  if isFormDescriptor text then (descriptorTokens text).head?.bind ControlType.ofKeyword? else none

/-- The cell that the first reference in a token names. A token without any makes the whole
descriptor malformed. -/
def cornerOf (text token : String) : Except Error Cell :=
  match findReference? token.toList with
  | none => .error (.malformedDescriptor text)
  | some reference => liftGrid (Cell.ofReference (String.ofList reference))

/-- The region between the corners that two tokens of a descriptor name. -/
def regionBetween (text first last : String) : Except Error Region :=
  match cornerOf text first with
  | .error e => .error e
  | .ok upperLeft =>
    match cornerOf text last with
    | .error e => .error e
    | .ok lowerRight => liftGrid (Region.ofCorners upperLeft lowerRight)

/-- The region that a template descriptor declares, if its corners make one. -/
def declaredRegion? (text : String) : Option Region :=
  if isTemplateDescriptor text then
    match descriptorTokens text with
    | [_, _, first, last] => (regionBetween text first last).toOption
    | _ => none
  else none

end GridTemplate
