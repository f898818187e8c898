-- Field maps: which cell each decoded field was read from. Entries keep the order in which they
-- were recorded, and the first entry for a path is the one that counts.

namespace GridTemplate

/-- A field, by its path from the decoded value, and the reference of its cell. -/
structure Mapping where
  path : String
  cell : String
  deriving DecidableEq, Repr

/-- Mappings in the order in which they were recorded. -/
structure FieldMap where
  entries : List Mapping
  deriving DecidableEq, Repr

/-- The path of a field below another one. Brackets are attached as they are and a member's name
after a dot; below nothing a path stays as it is. -/
def pathBelow (stem path : String) : String :=
  if stem = "" then path
  else if path.toList.head? = some '[' then stem ++ path
  else stem ++ "." ++ path

@[simp] theorem pathBelow_empty (path : String) : pathBelow "" path = path := rfl

namespace FieldMap

/-- The map without entries. -/
def empty : FieldMap := ⟨[]⟩

/-- The map with one more entry at its end. -/
def record (m : FieldMap) (path cell : String) : FieldMap := ⟨m.entries ++ [⟨path, cell⟩]⟩

/-- The map with more entries at its end. -/
def recordAll (m : FieldMap) (entries : List Mapping) : FieldMap := ⟨m.entries ++ entries⟩

/-- The map with the entries of another one at its end, each below a stem. -/
def extendNested (m : FieldMap) (stem : String) (nested : FieldMap) : FieldMap :=
  m.recordAll (nested.entries.map fun entry => ⟨pathBelow stem entry.path, entry.cell⟩)

@[simp] theorem entries_empty : empty.entries = [] := rfl

@[simp] theorem entries_record (m : FieldMap) (path cell : String) :
    (m.record path cell).entries = m.entries ++ [⟨path, cell⟩] := rfl

@[simp] theorem entries_recordAll (m : FieldMap) (entries : List Mapping) :
    (m.recordAll entries).entries = m.entries ++ entries := rfl

@[simp] theorem entries_extendNested (m : FieldMap) (stem : String) (nested : FieldMap) :
    (m.extendNested stem nested).entries =
      m.entries ++ nested.entries.map fun entry => ⟨pathBelow stem entry.path, entry.cell⟩ := rfl

/-- The cell that was recorded first for a path. -/
def get? (m : FieldMap) (path : String) : Option String :=
  (m.entries.find? fun entry => entry.path == path).map Mapping.cell

/-- How many entries there are. -/
def size (m : FieldMap) : Nat := m.entries.length

/-- Whether there is no entry. -/
def isEmpty (m : FieldMap) : Bool := m.entries.isEmpty

end FieldMap

end GridTemplate
