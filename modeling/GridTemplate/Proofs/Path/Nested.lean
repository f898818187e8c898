-- Paths below other paths. A member's path below a path is a path with the parts of both. The index
-- of an element becomes the key of the last part, which can have only one: below a part that has
-- brackets already, an index leads to no path.
import GridTemplate.Proofs.FieldMap.Stems
import GridTemplate.Proofs.Key.Tokens
import GridTemplate.Proofs.Path.Decomposition
import GridTemplate.Proofs.Sequence.Indices
import Mathlib.Data.List.Basic

namespace GridTemplate

/-! ## Keys that are numbers -/

/-- A number as it is written is an integer key, and no other one. -/
theorem Key.ofToken?_toString {n : Nat} (h : n ≤ 2147483647) :
    ofToken? (toString n) = some (.integer n) := by
  have hfits : FitsInt32 (n : Int) := ⟨by omega, by omega⟩
  exact ofToken?_eq_integer_iff.mpr ⟨writesInteger_toString n, hfits⟩

/-! ## One path after another -/

namespace Writes

variable {parts more : List Part} {stem text : String}

theorem append (h : Writes parts stem) (hmore : Writes more text) :
    Writes (parts ++ more) (stem ++ "." ++ text) where
  ne_nil := List.append_ne_nil_of_left_ne_nil h.ne_nil more
  wellFormed := by
    intro part hpart
    rcases List.mem_append.mp hpart with hpart | hpart
    · exact h.wellFormed part hpart
    · exact hmore.wellFormed part hpart
  text_eq := by
    have hparts : parts.map Part.text ≠ [] := by simpa using h.ne_nil
    have hothers : more.map Part.text ≠ [] := by simpa using hmore.ne_nil
    rw [List.map_append, String.intercalate_append_of_ne_nil hparts hothers, ← h.text_eq,
      ← hmore.text_eq]

theorem ne_empty (h : Writes parts stem) : stem ≠ "" := by
  rintro rfl
  have hpath := h.isModelPath
  rw [GridTemplate.isModelPath] at hpath
  exact absurd hpath (by decide)

/-- A path starts with a name. -/
theorem head_ne_opening (h : Writes parts text) : text.toList.head? ≠ some '[' := by
  intro hhead
  obtain ⟨rest, hrest⟩ := List.head?_eq_some_iff.mp hhead
  have hpath := h.isModelPath
  rw [GridTemplate.isModelPath, hrest] at hpath
  cases hpath

theorem pathBelow_eq (h : Writes parts stem) (hmore : Writes more text) :
    pathBelow stem text = stem ++ "." ++ text := by
  rw [pathBelow, if_neg h.ne_empty, if_neg hmore.head_ne_opening]

theorem pathBelow_indexPath (h : Writes parts stem) (i : Nat) :
    pathBelow stem (indexPath i) = stem ++ indexPath i := by
  rw [pathBelow, if_neg h.ne_empty, toList_indexPath, List.head?_cons, if_pos rfl]

end Writes

/-! ## The last part -/

/-- The text of parts that are followed by another one. -/
def leadIn : List Part → String
  | [] => ""
  | part :: rest => part.text ++ "." ++ leadIn rest

theorem intercalate_concat (init : List Part) (last : Part) :
    ".".intercalate ((init ++ [last]).map Part.text) = leadIn init ++ last.text := by
  induction init with
  | nil => simp [leadIn]
  | cons part rest ih =>
    have hne : (rest ++ [last]).map Part.text ≠ [] := by simp
    rw [List.cons_append, List.map_cons, String.intercalate_cons_of_ne_nil hne, ih, leadIn]
    simp only [String.append_assoc]

theorem writes_concat_iff (init : List Part) (last : Part) (text : String) :
    Writes (init ++ [last]) text ↔
      (∀ part ∈ init, part.WellFormed) ∧ last.WellFormed ∧ text = leadIn init ++ last.text := by
  constructor
  · intro h
    refine ⟨fun part hpart => h.wellFormed part (List.mem_append_left _ hpart),
      h.wellFormed last (by simp), ?_⟩
    rw [h.text_eq, intercalate_concat]
  · rintro ⟨hinit, hlast, htext⟩
    refine ⟨by simp, ?_, by rw [htext, intercalate_concat]⟩
    intro part hpart
    rcases List.mem_append.mp hpart with hpart | hpart
    · exact hinit part hpart
    · rw [List.mem_singleton.mp hpart]
      exact hlast

/-- The last opening bracket of a text is in one place. -/
theorem eq_of_append_opening {front other key digits : List Char} (hkey : '[' ∉ key)
    (hdigits : '[' ∉ digits) (h : front ++ '[' :: key = other ++ '[' :: digits) :
    front = other ∧ key = digits := by
  rcases List.append_eq_append_iff.mp h with ⟨between, rfl, hrest⟩ | ⟨between, rfl, hrest⟩
  · cases between with
    | nil => simpa using hrest
    | cons c between =>
      obtain ⟨-, hkey'⟩ := List.cons.inj hrest
      exact absurd (by simp [hkey']) hkey
  · cases between with
    | nil => simpa [eq_comm] using hrest
    | cons c between =>
      obtain ⟨-, hdigits'⟩ := List.cons.inj hrest
      exact absurd (by simp [hdigits']) hdigits

/-! ## An index behind a path -/

namespace Writes

variable {init : List Part} {last : Part} {name stem : String}

/-- An index is a key for a last part without brackets. -/
theorem append_indexPath (h : Writes (init ++ [.plain name]) stem) (i : Nat) :
    Writes (init ++ [.keyedElement name (toString i)]) (stem ++ indexPath i) := by
  obtain ⟨hinit, hname, htext⟩ := (writes_concat_iff _ _ _).mp h
  refine (writes_concat_iff _ _ _).mpr ⟨hinit, ⟨hname, ?_, ?_⟩, ?_⟩
  · simp [← String.toList_inj, Nat.toDigits_ne_nil]
  · intro c hc
    have hdigits : c ∈ Nat.toDigits 10 i := by simpa using hc
    exact (isInsideBrackets_iff c).mp (isInsideBrackets_toDigits i c hdigits)
  · simp [htext, Part.text, indexPath, String.append_assoc]

/-- The characters of a text that ends in an index. -/
theorem toList_append_indexPath (stem : String) (i : Nat) :
    (stem ++ indexPath i).toList = stem.toList ++ '[' :: (Nat.toDigits 10 i ++ [']']) := by
  rw [String.toList_append, toList_indexPath]

/-- A path that ends in an index has that index as the key of its last part. Without it, it is a
path as well. -/
theorem of_append_indexPath {i : Nat} (h : Writes (init ++ [last]) (stem ++ indexPath i)) :
    ∃ name, Writes (init ++ [.plain name]) stem := by
  obtain ⟨hinit, hlast, htext⟩ := (writes_concat_iff _ _ _).mp h
  have hchars := congrArg String.toList htext
  rw [toList_append_indexPath, String.toList_append, Part.toList_text,
    ← List.append_assoc] at hchars
  have hopening : ∀ {key : List Char}, (∀ c ∈ key, isInsideBrackets c = true) →
      '[' ∉ key ++ [']'] := by
    intro key hkey hmem
    rcases List.mem_append.mp hmem with hmem | hmem
    · exact absurd (hkey _ hmem) (by decide)
    · exact absurd (List.mem_singleton.mp hmem) (by decide)
  have hdigits := hopening (isInsideBrackets_toDigits i)
  rcases hlast.spelt.brackets_eq with hb | ⟨key, hb, hkey⟩
  · -- a name does not end in a bracket
    have hlastChar := congrArg List.getLast? hchars
    rw [hb, List.append_nil, List.getLast?_append_of_ne_nil _ hlast.isName.isWord.1,
      ← List.cons_append, ← List.append_assoc, List.getLast?_concat] at hlastChar
    have hword := hlast.isName.all_word _ (List.mem_of_getLast? hlastChar.symm)
    exact absurd hword (by decide)
  · rw [hb] at hchars
    obtain ⟨hfront, -⟩ := eq_of_append_opening hdigits (hopening hkey) hchars
    refine ⟨last.name, (writes_concat_iff _ _ _).mpr ⟨hinit, hlast.isName, ?_⟩⟩
    apply String.toList_inj.mp
    rw [hfront, String.toList_append, Part.text]

/-- An index behind a path is a path exactly if it can be the key of the last part. -/
theorem exists_ofText_append_indexPath_iff {parts : List Part} (h : Writes parts stem) (i : Nat) :
    (∃ path, ModelPath.ofText (stem ++ indexPath i) = .ok path) ↔
      ∃ init name, parts = init ++ [.plain name] := by
  constructor
  · rintro ⟨path, hpath⟩
    have hwrites := (ModelPath.ofText_eq_ok_iff _ _).mp hpath
    rcases List.eq_nil_or_concat path.parts with hnil | ⟨init, last, hconcat⟩
    · exact absurd hnil path.parts_ne_nil
    · rw [hconcat, List.concat_eq_append] at hwrites
      obtain ⟨name, hplain⟩ := hwrites.of_append_indexPath
      exact ⟨init, name, h.partsOf_eq.symm.trans hplain.partsOf_eq⟩
  · rintro ⟨init, name, rfl⟩
    exact ⟨_, (h.append_indexPath i).ofText_eq⟩

end Writes

theorem ModelPath.ofText_eq_error {text : String} (h : ¬ ∃ path, ofText text = .ok path) :
    ofText text = .error (.invalidModelPath text) := by
  unfold ofText at h ⊢
  split
  · rename_i hpath
    exact absurd ⟨_, if_pos hpath⟩ h
  · rfl

/-! ## The law -/

/-- A mapping whose path is a model path has one below any model path too, with the parts of both.
The mapping of a decoded element has one exactly if the last part of the path above is a member as a
whole. That part is then keyed by the index, as an integer and not as a text. Where the last part
has brackets already, as for lists in a list, there is no path to the element. -/
theorem a_mapping_below_a_path_is_a_path {stem : String} {path : ModelPath}
    (hpath : ModelPath.ofText stem = .ok path) :
    (∀ (outer nested : FieldMap) (i : Nat) (m : Mapping) (inner : ModelPath),
      nested.entries[i]? = some m → ModelPath.ofText m.path = .ok inner →
      ∃ text, (outer.extendNested stem nested).entries[outer.size + i]? = some ⟨text, m.cell⟩ ∧
        (ModelPath.ofText text).map ModelPath.parts = .ok (path.parts ++ inner.parts)) ∧
    ∀ (V N T : Type) [Inhabited V] [LayerRule T] (d : Decoder V N T) (type : String)
      (length : SequenceLength) (w : Walk) (outer : FieldMap) (i : Nat) (m : Mapping),
      let run := d.decode type length w
      run.mappings[i]? = some m →
      m.path = indexPath i ∧
      ∃ text,
        (outer.extendNested stem run.fieldMap).entries[outer.size + i]? = some ⟨text, m.cell⟩ ∧
        ((∃ read, ModelPath.ofText text = .ok read) ↔
          ∃ init name, path.parts = init ++ [.plain name]) ∧
        (∀ init name, path.parts = init ++ [.plain name] →
          ∃ key, (ModelPath.ofText text).map ModelPath.parts =
              .ok (init ++ [.keyedElement name key]) ∧
            Key.resolve key .integer = .ok (.integer i) ∧
            Key.resolve key .text = .error (.keyTypeMismatch .text .integer)) ∧
        (∀ init last, path.parts = init ++ [last] →
          (last.isArrayElement = true ∨ last.isKeyedElement = true) →
          ModelPath.ofText text = .error (.invalidModelPath text)) := by
  have hstem := (ModelPath.ofText_eq_ok_iff stem path).mp hpath
  constructor
  · intro outer nested i m inner hm hinner
    have htext := (ModelPath.ofText_eq_ok_iff m.path inner).mp hinner
    refine ⟨stem ++ "." ++ m.path, ?_, ?_⟩
    · rw [FieldMap.getElem?_extendNested, hm, Option.map_some, hstem.pathBelow_eq htext]
    · rw [(hstem.append htext).ofText_eq]
      rfl
  · intro V N T _ _ d type length w outer i m run hm
    obtain ⟨hindex, hlt⟩ := (d.numbered_decode type length w).path_eq hm
    have hlimit : i ≤ 2147483647 := by
      have hmax : d.limit ≤ 10000 := Nat.min_le_right _ _
      omega
    have hreads := hstem.exists_ofText_append_indexPath_iff i
    refine ⟨hindex, stem ++ indexPath i, ?_, hreads, ?_, ?_⟩
    · have hentry : run.fieldMap.entries[i]? = some m := hm
      rw [FieldMap.getElem?_extendNested, hentry, Option.map_some, hindex,
        hstem.pathBelow_indexPath]
    · intro init name hparts
      rw [hparts] at hstem
      refine ⟨toString i, ?_, ?_, ?_⟩
      · rw [(hstem.append_indexPath i).ofText_eq]
        rfl
      · rw [Key.resolve, Key.ofToken?_toString hlimit]
        rfl
      · rw [Key.resolve, Key.ofToken?_toString hlimit]
        rfl
    · intro init last hparts hbrackets
      apply ModelPath.ofText_eq_error
      rw [hreads, hparts]
      rintro ⟨others, name, hsame⟩
      obtain ⟨-, hlast⟩ := List.append_inj' hsame rfl
      cases hlast
      simp [Part.isArrayElement, Part.isKeyedElement] at hbrackets

/-- The second row of a list has a path below the lines of an order, and so has a price. Below the
elements of the lines the row has none. -/
theorem a_row_has_a_path_below_the_lines_of_an_order :
    let d : Decoder Nat Unit :=
      ⟨.single .rows, fun _ => some fun w => ⟨some w.cursor.row, w, [], ()⟩, 5⟩
    let run := d.decode "row" (.exact 2) ⟨State.start ⟨3, 1⟩, []⟩
    let prices : FieldMap := ⟨[⟨"Price", "B2"⟩]⟩
    let lines : ModelPath := ⟨[.plain "Order", .plain "Lines"], by decide⟩
    let elements : ModelPath := ⟨[.plain "Order", .arrayElement "Lines"], by decide⟩
    let cell := (⟨4, 1⟩ : Cell).reference
    ModelPath.ofText "Order.Lines" = .ok lines ∧ ModelPath.ofText "Order.Lines[]" = .ok elements ∧
    run.mappings[1]? = some ⟨"[1]", cell⟩ ∧
    (∃ text, (prices.extendNested "Order.Lines" prices).entries[1]? = some ⟨text, "B2"⟩ ∧
      (ModelPath.ofText text).map ModelPath.parts =
        .ok [.plain "Order", .plain "Lines", .plain "Price"]) ∧
    (∃ text, (prices.extendNested "Order.Lines" run.fieldMap).entries[2]? = some ⟨text, cell⟩ ∧
      ∃ key, (ModelPath.ofText text).map ModelPath.parts =
          .ok [.plain "Order", .keyedElement "Lines" key] ∧
        Key.resolve key .integer = .ok (.integer 1)) ∧
    ∃ text, (prices.extendNested "Order.Lines[]" run.fieldMap).entries[2]? = some ⟨text, cell⟩ ∧
      ModelPath.ofText text = .error (.invalidModelPath text) := by
  intro d run prices lines elements cell
  have hlines : ModelPath.ofText "Order.Lines" = .ok lines := rfl
  have helements : ModelPath.ofText "Order.Lines[]" = .ok elements := rfl
  have hprice : ModelPath.ofText "Price" = .ok ⟨[.plain "Price"], by decide⟩ := rfl
  have hrow : run.mappings[1]? = some ⟨"[1]", cell⟩ := rfl
  obtain ⟨hmembers, hindices⟩ := a_mapping_below_a_path_is_a_path hlines
  obtain ⟨-, hrefused⟩ := a_mapping_below_a_path_is_a_path helements
  obtain ⟨-, text, hentry, -, hkeyed, -⟩ :=
    hindices Nat Unit Navigator d "row" (.exact 2) _ prices 1 _ hrow
  obtain ⟨key, hparts, hkey, -⟩ := hkeyed [.plain "Order"] "Lines" rfl
  obtain ⟨-, other, hother, -, -, hnone⟩ :=
    hrefused Nat Unit Navigator d "row" (.exact 2) _ prices 1 _ hrow
  exact ⟨hlines, helements, hrow, hmembers prices prices 0 _ _ rfl hprice,
    ⟨text, hentry, key, hparts, hkey⟩, other, hother,
    hnone [.plain "Order"] (.arrayElement "Lines") rfl (Or.inl rfl)⟩

end GridTemplate
