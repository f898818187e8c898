-- Field maps below stems. To go below two stems is to go below a single one, and since no two paths
-- become one below the same stem, whatever was found for a path is found for the path below it.
import GridTemplate.FieldMap
import Mathlib.Data.List.Basic

namespace GridTemplate

/-! ## Paths below a stem -/

/-- A path as it is attached to a stem that is not empty. -/
def attached (path : String) : String :=
  if path.toList.head? = some '[' then path else "." ++ path

/-- The stem of two stems, the second of which stands below the first. -/
def stemBelow (stem inner : String) : String :=
  if stem = "" then inner else if inner = "" then stem else pathBelow stem inner

theorem pathBelow_of_ne_empty {stem : String} (h : stem ≠ "") (path : String) :
    pathBelow stem path = stem ++ attached path := by
  rw [pathBelow, if_neg h, attached]
  split
  · rfl
  · rw [String.append_assoc]

theorem attached_injective : Function.Injective attached := by
  intro path other h
  unfold attached at h
  split at h
  · rename_i hpath
    split at h
    · exact h
    · -- a dot is no opening bracket
      rw [h] at hpath
      simp at hpath
  · split at h
    · rename_i hother
      rw [← h] at hother
      simp at hother
    · exact (String.append_right_inj _).mp h

theorem pathBelow_injective (stem : String) : Function.Injective (pathBelow stem) := by
  by_cases hstem : stem = ""
  · subst hstem
    exact Function.injective_id
  · intro path other h
    rw [pathBelow_of_ne_empty hstem, pathBelow_of_ne_empty hstem] at h
    exact attached_injective ((String.append_right_inj _).mp h)

/-- How a path is attached is decided by where it begins. -/
theorem attached_append {inner : String} (h : inner ≠ "") (path : String) :
    attached (inner ++ path) = attached inner ++ path := by
  have hne : inner.toList ≠ [] := by simpa using h
  unfold attached
  rw [String.toList_append, List.head?_append_of_ne_nil _ hne]
  split
  · rfl
  · rw [String.append_assoc]

theorem pathBelow_pathBelow (stem inner path : String) :
    pathBelow stem (pathBelow inner path) = pathBelow (stemBelow stem inner) path := by
  unfold stemBelow
  by_cases hstem : stem = ""
  · rw [if_pos hstem, hstem, pathBelow_empty]
  · by_cases hinner : inner = ""
    · rw [if_neg hstem, if_pos hinner, hinner, pathBelow_empty]
    · have hboth : stem ++ attached inner ≠ "" := by simp [hstem]
      rw [if_neg hstem, if_neg hinner, pathBelow_of_ne_empty hinner, pathBelow_of_ne_empty hstem,
        pathBelow_of_ne_empty hstem, pathBelow_of_ne_empty hboth, attached_append hinner,
        String.append_assoc]

namespace FieldMap

/-! ## Entries one after the other -/

theorem foldl_record (m : FieldMap) (entries : List Mapping) :
    entries.foldl (fun m entry => m.record entry.path entry.cell) m = m.recordAll entries := by
  induction entries generalizing m with
  | nil => simp [recordAll]
  | cons entry entries ih =>
    rw [List.foldl_cons, ih]
    simp [recordAll]

/-- A nested map is taken over one entry after the other. -/
theorem extendNested_eq_foldl (m : FieldMap) (stem : String) (nested : FieldMap) :
    m.extendNested stem nested =
      nested.entries.foldl (fun m entry => m.record (pathBelow stem entry.path) entry.cell) m := by
  rw [extendNested, ← foldl_record, List.foldl_map]

/-! ## Look-ups -/

theorem get?_recordAll (m : FieldMap) (entries : List Mapping) (path : String) :
    (m.recordAll entries).get? path = (m.get? path).or (get? ⟨entries⟩ path) := by
  rw [get?, get?, get?, entries_recordAll, List.find?_append, Option.map_or]

/-- The entry for a path is found if no entry before it has the same path. -/
theorem get?_of_first {m : FieldMap} {i : Nat} {entry : Mapping}
    (hentry : m.entries[i]? = some entry)
    (hfirst : ∀ j < i, ∀ other, m.entries[j]? = some other → other.path ≠ entry.path) :
    m.get? entry.path = some entry.cell := by
  obtain ⟨hlt, hget⟩ := List.getElem?_eq_some_iff.mp hentry
  have hfind : m.entries.find? (fun other => other.path == entry.path) = some entry := by
    rw [List.find?_eq_some_iff_getElem]
    refine ⟨beq_self_eq_true _, i, hlt, hget, ?_⟩
    intro j hj
    simpa using hfirst j hj _ (List.getElem?_eq_getElem (Nat.lt_trans hj hlt))
  rw [get?, hfind, Option.map_some]

/-- Renaming all paths keeps what is found, if no two paths get one name. -/
theorem get?_map {f : String → String} (hf : Function.Injective f) (m : FieldMap) (path : String) :
    get? ⟨m.entries.map fun entry => ⟨f entry.path, entry.cell⟩⟩ (f path) = m.get? path := by
  have hsame : ((fun entry : Mapping => entry.path == f path) ∘
      fun entry : Mapping => ⟨f entry.path, entry.cell⟩) = fun entry => entry.path == path := by
    funext entry
    exact Bool.eq_iff_iff.mpr (by simp [hf.eq_iff])
  rw [get?, get?, List.find?_map, hsame, Option.map_map]
  rfl

theorem get?_extendNested (outer nested : FieldMap) (stem path : String) :
    (outer.extendNested stem nested).get? (pathBelow stem path) =
      (outer.get? (pathBelow stem path)).or (nested.get? path) := by
  rw [extendNested, get?_recordAll, get?_map (pathBelow_injective stem)]

theorem extendNested_extendNested (outer nested : FieldMap) (stem inner : String) :
    outer.extendNested stem (empty.extendNested inner nested) =
      outer.extendNested (stemBelow stem inner) nested := by
  simp only [extendNested, entries_recordAll, entries_empty, List.nil_append, List.map_map,
    Function.comp_def, pathBelow_pathBelow]

/-- The entries of a nested map come behind those of the outer one, in order. -/
theorem getElem?_extendNested (outer nested : FieldMap) (stem : String) (i : Nat) :
    (outer.extendNested stem nested).entries[outer.size + i]? =
      nested.entries[i]?.map fun entry => ⟨pathBelow stem entry.path, entry.cell⟩ := by
  rw [entries_extendNested, size, List.getElem?_append_right (Nat.le_add_right _ _),
    Nat.add_sub_cancel_left, List.getElem?_map]

end FieldMap

/-! ## The law -/

/-- To take a map below one stem and then below another one is to take it below the stem of both. A
nested map is taken over entry by entry, behind all that was there before. No two paths become one
below a stem, and what is found for a path below it is what the outer map has for that path, or else
what the nested map has for the path itself. -/
theorem a_map_below_a_stem_keeps_its_look_ups (stem : String) :
    (∀ (inner : String) (outer nested : FieldMap),
      outer.extendNested stem (FieldMap.empty.extendNested inner nested) =
        outer.extendNested (stemBelow stem inner) nested) ∧
    (∀ outer nested : FieldMap,
      let extended := outer.extendNested stem nested
      extended = nested.entries.foldl
        (fun m entry => m.record (pathBelow stem entry.path) entry.cell) outer ∧
      extended.size = outer.size + nested.size ∧
      (∀ i < outer.size, extended.entries[i]? = outer.entries[i]?) ∧
      ∀ i, extended.entries[outer.size + i]? =
        nested.entries[i]?.map fun entry => ⟨pathBelow stem entry.path, entry.cell⟩) ∧
    Function.Injective (pathBelow stem) ∧
    ∀ (outer nested : FieldMap) (path : String),
      (outer.extendNested stem nested).get? (pathBelow stem path) =
        (outer.get? (pathBelow stem path)).or (nested.get? path) := by
  refine ⟨?_, ?_, pathBelow_injective stem, ?_⟩
  · intro inner outer nested
    exact FieldMap.extendNested_extendNested outer nested stem inner
  · intro outer nested extended
    refine ⟨FieldMap.extendNested_eq_foldl outer stem nested, ?_, ?_, ?_⟩
    · simp [extended, FieldMap.size]
    · intro i hi
      exact List.getElem?_append_left hi
    · exact FieldMap.getElem?_extendNested outer nested stem
  · intro outer nested path
    exact FieldMap.get?_extendNested outer nested stem path

/-- The rows of the lines of an order are found below both names. A path that the outer map has
already is still found there first, and a path that starts with a dot stays apart from a name. -/
theorem rows_are_found_below_the_lines_of_an_order :
    let rows : FieldMap := ⟨[⟨"[3]", "C7"⟩, ⟨"Name", "D7"⟩, ⟨"[3]", "E7"⟩]⟩
    let outer : FieldMap := ⟨[⟨"Order.Lines.Name", "A1"⟩]⟩
    let extended := outer.extendNested "Order" (FieldMap.empty.extendNested "Lines" rows)
    extended = outer.extendNested "Order.Lines" rows ∧
    extended.size = 4 ∧
    extended.get? "Order.Lines[3]" = some "C7" ∧
    extended.get? "Order.Lines.Name" = some "A1" ∧
    pathBelow "Order" ".Name" ≠ pathBelow "Order" "Name" := by
  intro rows outer extended
  obtain ⟨hboth, -, hinjective, -⟩ := a_map_below_a_stem_keeps_its_look_ups "Order"
  obtain ⟨-, hentries, -, hfound⟩ := a_map_below_a_stem_keeps_its_look_ups "Order.Lines"
  have hextended : extended = outer.extendNested "Order.Lines" rows := hboth "Lines" outer rows
  refine ⟨hextended, ?_, ?_, ?_, ?_⟩
  · rw [hextended]
    exact (hentries outer rows).2.1
  · rw [hextended]
    exact hfound outer rows "[3]"
  · rw [hextended]
    exact hfound outer rows "Name"
  · intro h
    exact absurd (hinjective h) (by decide)

end GridTemplate
