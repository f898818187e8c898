-- The form controls that descriptors bind, and their keywords.
import GridTemplate.Error

namespace GridTemplate

/-- A form control that a descriptor can bind. -/
inductive ControlType
  | checkBox
  | dropDown
  deriving DecidableEq, Repr

namespace ControlType

/-- The keyword of a control. -/
def keyword : ControlType → String
  | .checkBox => "CheckBox"
  | .dropDown => "DropDown"

/-- The control that a keyword names. -/
def ofKeyword? (word : String) : Option ControlType :=
  if word = "CheckBox" then some .checkBox
  else if word = "DropDown" then some .dropDown
  else none

/-- The control that a keyword names. Any other word is refused. -/
def ofKeyword (word : String) : Except Error ControlType :=
  match ofKeyword? word with
  | some control => .ok control
  | none => .error (.malformedDescriptor word)

theorem ofKeyword?_eq_some_iff (word : String) (control : ControlType) :
    ofKeyword? word = some control ↔ word = control.keyword := by
  unfold ofKeyword?
  constructor
  · intro h
    split at h
    · cases h
      assumption
    · split at h
      · cases h
        assumption
      · cases h
  · rintro rfl
    cases control <;> simp [keyword]

end ControlType

end GridTemplate
