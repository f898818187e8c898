-- Reading descriptors back. A descriptor is written as tokens with colons between them, so it is
-- read back exactly if none of its tokens has a colon, and a text that is read is the only one that
-- is read as its descriptor.
import GridTemplate.Descriptor.Basic
import GridTemplate.Proofs.Cell.References
import GridTemplate.Proofs.Path.Decomposition

namespace GridTemplate

/-! ## Tokens -/

/-- The pieces of a text between its colons. Unlike tokens there is always one. -/
def colonPieces (text : String) : List String := (text.toList.splitOn ':').map String.ofList

theorem descriptorTokens_eq {text : String} (h : text ≠ "") :
    descriptorTokens text = colonPieces text := by
  rw [descriptorTokens, if_neg (by simpa using h), colonPieces]

theorem colonPieces_append (a b : String) :
    colonPieces (a ++ ":" ++ b) = colonPieces a ++ colonPieces b := by
  have hcolon : (a ++ ":" ++ b).toList = a.toList ++ ':' :: b.toList := by simp
  rw [colonPieces, hcolon, List.splitOn_append_cons_self, List.map_append]
  rfl

theorem colonPieces_of_not_mem {text : String} (h : ':' ∉ text.toList) :
    colonPieces text = [text] := by
  rw [colonPieces, List.splitOn_eq_singleton h, List.map_singleton, String.ofList_toList]

theorem length_colonPieces_pos (text : String) : 1 ≤ (colonPieces text).length := by
  rw [colonPieces, List.length_map]
  exact List.length_pos_iff.mpr (List.splitOn_ne_nil ':' text.toList)

theorem two_le_length_colonPieces {text : String} (h : ':' ∈ text.toList) :
    2 ≤ (colonPieces text).length := by
  obtain ⟨front, rest, hsplit⟩ := List.append_of_mem h
  have htext : text = String.ofList front ++ ":" ++ String.ofList rest := by
    apply String.toList_inj.mp
    simp [hsplit]
  have hfront := length_colonPieces_pos (String.ofList front)
  have hrest := length_colonPieces_pos (String.ofList rest)
  rw [htext, colonPieces_append, List.length_append]
  omega

theorem intercalate_colonPieces (text : String) : ":".intercalate (colonPieces text) = text := by
  apply String.toList_inj.mp
  rw [String.toList_intercalate, colonPieces, List.map_map]
  have hmap : (text.toList.splitOn ':').map (String.toList ∘ String.ofList) =
      text.toList.splitOn ':' := by
    simp [Function.comp_def]
  rw [hmap]
  exact List.intercalate_splitOn ':'

/-- The tokens of a text with colons between them are the text. -/
theorem intercalate_descriptorTokens {text : String} {tokens : List String}
    (h : descriptorTokens text = tokens) (hne : tokens ≠ []) : ":".intercalate tokens = text := by
  have htext : text ≠ "" := by
    rintro rfl
    exact hne h.symm
  rw [← h, descriptorTokens_eq htext, intercalate_colonPieces]

theorem not_mem_keyword (control : ControlType) : ':' ∉ control.keyword.toList := by
  cases control <;> decide

theorem keyword_ne_valueKeyword (control : ControlType) : control.keyword ≠ valueKeyword := by
  cases control <;> decide

theorem keyword_ne_templateKeyword (control : ControlType) : control.keyword ≠ templateKeyword := by
  cases control <;> decide

/-! ## Regions in tokens -/

theorem cornerOf_of_isReference (text : String) {token : String}
    (h : isReference token.toList = true) :
    cornerOf text token = liftGrid (Cell.ofReference token) := by
  rw [cornerOf, findReference?_of_isReference h]
  simp

theorem cornerOf_reference (text : String) {c : Cell} (h : c.OnGrid) :
    cornerOf text c.reference = .ok c := by
  rw [cornerOf_of_isReference text (isReference_reference h), Cell.ofReference_reference h]
  rfl

theorem reference_of_cornerOf {text token : String} {c : Cell}
    (h : isReference token.toList = true) (hc : cornerOf text token = .ok c) :
    c.reference = token := by
  rw [cornerOf_of_isReference text h, liftGrid_eq_ok_iff] at hc
  apply String.toList_inj.mp
  exact reference_eq_of_isReference h (by rwa [String.ofList_toList])

/-- Between two references lies the region with these corners, and the corners give it back. -/
theorem regionBetween_eq_ok_iff (text : String) {first last : String} (region : Region)
    (hfirst : isReference first.toList = true) (hlast : isReference last.toList = true) :
    regionBetween text first last = .ok region ↔
      region.upperLeft.reference = first ∧ region.lowerRight.reference = last := by
  constructor
  · intro h
    unfold regionBetween at h
    split at h
    · cases h
    rename_i upperLeft hupper
    split at h
    · cases h
    rename_i lowerRight hlower
    obtain ⟨rfl, rfl⟩ := Region.corners_of_ofCorners ((liftGrid_eq_ok_iff _ _).mp h)
    exact ⟨reference_of_cornerOf hfirst hupper, reference_of_cornerOf hlast hlower⟩
  · rintro ⟨rfl, rfl⟩
    rw [regionBetween, cornerOf_reference text region.upperLeft_onGrid]
    dsimp only
    rw [cornerOf_reference text region.lowerRight_onGrid]
    dsimp only
    rw [Region.ofCorners_corners]
    rfl

namespace Descriptor

/-! ## What is written -/

/-- The tokens that write a descriptor. -/
def tokens : Descriptor → List String
  | .value label path => [valueKeyword, label, path.text]
  | .form control name path => [control.keyword, name, path.text]
  | .template name region =>
    [templateKeyword, name, region.upperLeft.reference, region.lowerRight.reference]

/-- The path was read from a text. A region needs no such condition, since it lies on the grid
however it was given. -/
def PathRead : Descriptor → Prop
  | .value _ path => ∃ text, ModelPath.ofText text = .ok path
  | .form _ _ path => ∃ text, ModelPath.ofText text = .ok path
  | .template _ _ => True

/-- Controls and templates have names. -/
def Named : Descriptor → Prop
  | .value _ _ => True
  | .form _ name _ => name ≠ ""
  | .template name _ => name ≠ ""

/-- There is a name where one is needed, and no colon in the name or in the path. -/
def Writable : Descriptor → Prop
  | .value label path => ':' ∉ label.toList ∧ ':' ∉ path.text.toList
  | .form _ name path => name ≠ "" ∧ ':' ∉ name.toList ∧ ':' ∉ path.text.toList
  | .template name _ => name ≠ "" ∧ ':' ∉ name.toList

theorem tokens_ne_nil (d : Descriptor) : d.tokens ≠ [] := by
  cases d <;> simp [tokens]

theorem text_eq_intercalate (d : Descriptor) : d.text = ":".intercalate d.tokens := by
  cases d <;> apply String.toList_inj.mp <;>
    simp [text, tokens, Region.text, String.intercalate_cons_cons]

theorem not_mem_reference (c : Cell) : ':' ∉ c.reference.toList := by
  intro hmem
  rw [Cell.toList_reference] at hmem
  rcases List.mem_append.mp hmem with hmem | hmem
  · exact absurd (isUpper_columnLetters c.column ':' hmem) (by decide)
  · exact absurd (isDigit_toDigits c.row ':' hmem) (by decide)

theorem descriptorTokens_three {keyword name path : String} (h : ':' ∉ keyword.toList) :
    descriptorTokens (keyword ++ ":" ++ name ++ ":" ++ path) =
      keyword :: (colonPieces name ++ colonPieces path) := by
  have hne : keyword ++ ":" ++ name ++ ":" ++ path ≠ "" := by simp
  rw [descriptorTokens_eq hne, colonPieces_append, colonPieces_append, colonPieces_of_not_mem h]
  rfl

theorem descriptorTokens_template (name : String) (region : Region) :
    descriptorTokens (templateKeyword ++ ":" ++ name ++ ":" ++ region.text) =
      templateKeyword ::
        (colonPieces name ++ [region.upperLeft.reference, region.lowerRight.reference]) := by
  have hupper := not_mem_reference region.upperLeft
  have hlower := not_mem_reference region.lowerRight
  rw [descriptorTokens_three (by decide), Region.text, colonPieces_append,
    colonPieces_of_not_mem hupper, colonPieces_of_not_mem hlower]
  rfl

/-! ## What is read -/

/-- Three tokens make a descriptor if the last is a path and the first is a keyword. A control
needs a name. -/
theorem ofBinding?_eq_some_iff (keyword name text : String) (d : Descriptor) :
    ofBinding? keyword name text = some d ↔
      ∃ path, ModelPath.ofText text = .ok path ∧
        ((d = .value name path ∧ keyword = valueKeyword) ∨
          ∃ control, d = .form control name path ∧ keyword = control.keyword ∧ name ≠ "") := by
  have hpath : ∀ f : ModelPath → Descriptor, (ModelPath.ofText text).toOption.map f = some d ↔
      ∃ path, ModelPath.ofText text = .ok path ∧ d = f path := by
    intro f
    cases ModelPath.ofText text <;> simp [Except.toOption, eq_comm]
  unfold ofBinding?
  cases hcontrol : ControlType.ofKeyword? keyword with
  | some control =>
    obtain rfl := (ControlType.ofKeyword?_eq_some_iff _ _).mp hcontrol
    have hsame : ∀ other : ControlType, control.keyword = other.keyword → control = other := by
      intro other h
      rw [(ControlType.ofKeyword?_eq_some_iff _ other).mpr h] at hcontrol
      exact (Option.some.inj hcontrol).symm
    by_cases hname : name = ""
    · simp [hname, keyword_ne_valueKeyword]
    · simp only [if_neg hname, hpath]
      constructor
      · rintro ⟨path, hread, rfl⟩
        exact ⟨path, hread, Or.inr ⟨control, rfl, rfl, hname⟩⟩
      · rintro ⟨path, hread, ⟨-, hvalue⟩ | ⟨other, rfl, hother, -⟩⟩
        · exact absurd hvalue (keyword_ne_valueKeyword control)
        · exact ⟨path, hread, by rw [hsame other hother]⟩
  | none =>
    have hnone : ∀ control : ControlType, keyword ≠ control.keyword := by
      intro control h
      rw [(ControlType.ofKeyword?_eq_some_iff _ control).mpr h] at hcontrol
      cases hcontrol
    by_cases hvalue : keyword = valueKeyword
    · simp [hvalue, hpath, fun control => (keyword_ne_valueKeyword control).symm]
    · simp [hvalue, hnone]

theorem tokens_of_ofText {text : String} {d : Descriptor} (h : ofText text = .ok d) :
    descriptorTokens text = d.tokens ∧ d.PathRead ∧ d.Named := by
  unfold ofText at h
  split at h
  · rename_i keyword name path htokens
    split at h
    · rename_i descriptor hbinding
      cases h
      obtain ⟨read, hread, ⟨rfl, rfl⟩ | ⟨control, rfl, rfl, hname⟩⟩ :=
        (ofBinding?_eq_some_iff _ _ _ _).mp hbinding
      · rw [htokens, tokens, ModelPath.text_of_ofText hread]
        exact ⟨rfl, ⟨path, hread⟩, trivial⟩
      · rw [htokens, tokens, ModelPath.text_of_ofText hread]
        exact ⟨rfl, ⟨path, hread⟩, hname⟩
    · cases h
  · rename_i keyword name first last htokens
    split at h
    · rename_i hshape
      obtain ⟨rfl, hname, hfirst, hlast⟩ := hshape
      split at h
      · rename_i region hregion
        cases h
        obtain ⟨hupper, hlower⟩ := (regionBetween_eq_ok_iff text region hfirst hlast).mp hregion
        rw [htokens, tokens, hupper, hlower]
        exact ⟨rfl, trivial, hname⟩
      · cases h
    · cases h
  · cases h

theorem ofText_of_tokens {text : String} {d : Descriptor} (htokens : descriptorTokens text = d.tokens)
    (hpath : d.PathRead) (hnamed : d.Named) : ofText text = .ok d := by
  unfold ofText
  rw [htokens]
  cases d with
  | value label path =>
    obtain ⟨written, hread⟩ := hpath
    have hbinding : ofBinding? valueKeyword label path.text = some (.value label path) := by
      rw [ofBinding?_eq_some_iff]
      exact ⟨path, by rw [ModelPath.text_of_ofText hread, hread], Or.inl ⟨rfl, rfl⟩⟩
    simp only [tokens, hbinding]
  | form control name path =>
    obtain ⟨written, hread⟩ := hpath
    have hbinding : ofBinding? control.keyword name path.text = some (.form control name path) := by
      rw [ofBinding?_eq_some_iff]
      exact ⟨path, by rw [ModelPath.text_of_ofText hread, hread],
        Or.inr ⟨control, rfl, rfl, hnamed⟩⟩
    simp only [tokens, hbinding]
  | template name region =>
    have hupper := isReference_reference region.upperLeft_onGrid
    have hlower := isReference_reference region.lowerRight_onGrid
    have hregion := (regionBetween_eq_ok_iff text region hupper hlower).mpr ⟨rfl, rfl⟩
    simp only [tokens]
    rw [if_pos ⟨trivial, hnamed, hupper, hlower⟩, hregion]

/-- A text is read as a descriptor exactly if its tokens are those of the descriptor. -/
theorem ofText_eq_ok_iff (text : String) (d : Descriptor) :
    ofText text = .ok d ↔ descriptorTokens text = d.tokens ∧ d.PathRead ∧ d.Named :=
  ⟨tokens_of_ofText, fun ⟨htokens, hpath, hnamed⟩ => ofText_of_tokens htokens hpath hnamed⟩

/-- Too many tokens are no descriptor. -/
theorem ofText_of_many_tokens {text keyword : String} {rest : List String}
    (h : descriptorTokens text = keyword :: rest) (hlen : 3 ≤ rest.length)
    (htemplate : keyword = templateKeyword → 4 ≤ rest.length) :
    ofText text = .error (.malformedDescriptor text) := by
  match rest, hlen with
  | [name, first, last], _ =>
    have hkeyword : keyword ≠ templateKeyword := by
      intro hc
      have hfour := htemplate hc
      simp at hfour
    rw [ofText, h]
    simp [hkeyword]
  | name :: first :: last :: next :: more, _ => rw [ofText, h]

/-- A control or a template without a name is no descriptor. -/
theorem ofText_of_not_named {text : String} {d : Descriptor} (h : descriptorTokens text = d.tokens)
    (hnamed : ¬ d.Named) : ofText text = .error (.malformedDescriptor text) := by
  cases d with
  | value label path => exact absurd trivial hnamed
  | form control name path =>
    have hname : name = "" := not_not.mp hnamed
    have hbinding : ofBinding? control.keyword name path.text = none := by
      rw [ofBinding?, (ControlType.ofKeyword?_eq_some_iff _ control).mpr rfl]
      exact if_pos hname
    rw [ofText, h]
    simp only [tokens, hbinding]
  | template name region =>
    have hname : name = "" := not_not.mp hnamed
    rw [ofText, h]
    simp only [tokens]
    rw [if_neg (fun hc => hc.2.1 hname)]

/-! ## Reading what was written -/

theorem tokens_of_text {d : Descriptor} (h : d.Writable) : descriptorTokens d.text = d.tokens := by
  cases d with
  | value label path =>
    rw [text, descriptorTokens_three (by decide), colonPieces_of_not_mem h.1,
      colonPieces_of_not_mem h.2]
    rfl
  | form control name path =>
    rw [text, descriptorTokens_three (not_mem_keyword control), colonPieces_of_not_mem h.2.1,
      colonPieces_of_not_mem h.2.2]
    rfl
  | template name region =>
    rw [text, descriptorTokens_template, colonPieces_of_not_mem h.2]
    rfl

theorem Writable.named {d : Descriptor} (h : d.Writable) : d.Named := by
  cases d with
  | value label path => exact trivial
  | form control name path => exact h.1
  | template name region => exact h.1

/-- Two pieces at least are three if one of the two texts has a colon. -/
theorem three_le_length_of_mem {a b : String} (h : ':' ∈ a.toList ∨ ':' ∈ b.toList) :
    3 ≤ (colonPieces a ++ colonPieces b).length := by
  have ha := length_colonPieces_pos a
  have hb := length_colonPieces_pos b
  rw [List.length_append]
  rcases h with h | h
  · have htwo := two_le_length_colonPieces h
    omega
  · have htwo := two_le_length_colonPieces h
    omega

theorem ofText_text_of_not_writable {d : Descriptor} (h : ¬ d.Writable) :
    ofText d.text = .error (.malformedDescriptor d.text) := by
  cases d with
  | value label path =>
    have hcolon : ':' ∈ label.toList ∨ ':' ∈ path.text.toList := by
      simpa only [Writable, not_and_or, not_not] using h
    exact ofText_of_many_tokens (descriptorTokens_three (by decide))
      (three_le_length_of_mem hcolon) (fun hc => absurd hc (by decide))
  | form control name path =>
    by_cases hcolon : ':' ∈ name.toList ∨ ':' ∈ path.text.toList
    · exact ofText_of_many_tokens (descriptorTokens_three (not_mem_keyword control))
        (three_le_length_of_mem hcolon) (fun hc => absurd hc (keyword_ne_templateKeyword control))
    · rw [not_or] at hcolon
      apply ofText_of_not_named (d := .form control name path)
      · rw [text, descriptorTokens_three (not_mem_keyword control),
          colonPieces_of_not_mem hcolon.1, colonPieces_of_not_mem hcolon.2]
        rfl
      · exact fun hname => h ⟨hname, hcolon⟩
  | template name region =>
    by_cases hcolon : ':' ∈ name.toList
    · have htwo := two_le_length_colonPieces hcolon
      have hlen : 4 ≤ (colonPieces name ++
          [region.upperLeft.reference, region.lowerRight.reference]).length := by
        rw [List.length_append]
        exact Nat.add_le_add_right htwo 2
      exact ofText_of_many_tokens (descriptorTokens_template name region) (by omega) (fun _ => hlen)
    · apply ofText_of_not_named (d := .template name region)
      · rw [text, descriptorTokens_template, colonPieces_of_not_mem hcolon]
        rfl
      · exact fun hname => h ⟨hname, hcolon⟩

theorem text_of_ofText {text : String} {d : Descriptor} (h : ofText text = .ok d) :
    d.text = text := by
  obtain ⟨htokens, -, -⟩ := (ofText_eq_ok_iff text d).mp h
  rw [text_eq_intercalate, intercalate_descriptorTokens htokens d.tokens_ne_nil]

end Descriptor

/-! ## The law -/

/-- A text that is read as a descriptor is what writes that descriptor. The other way round, a
descriptor is read back from its text exactly if it is writable, and the text of any other one is
refused as malformed. -/
theorem a_descriptor_is_read_back_from_its_text :
    (∀ text d, Descriptor.ofText text = .ok d → d.text = text) ∧
    ∀ d : Descriptor, d.PathRead →
      (Descriptor.ofText d.text = .ok d ↔ d.Writable) ∧
      (¬ d.Writable → Descriptor.ofText d.text = .error (.malformedDescriptor d.text)) := by
  refine ⟨fun text d h => Descriptor.text_of_ofText h, ?_⟩
  intro d hpath
  refine ⟨?_, fun h => Descriptor.ofText_text_of_not_writable h⟩
  constructor
  · intro h
    by_contra hnot
    rw [Descriptor.ofText_text_of_not_writable hnot] at h
    cases h
  · intro h
    exact (Descriptor.ofText_eq_ok_iff d.text d).mpr ⟨Descriptor.tokens_of_text h, hpath, h.named⟩

/-- A template is read back from its text, and a label with a colon is lost. -/
theorem a_label_with_a_colon_is_refused :
    let rows := Descriptor.template "Rows"
      ⟨⟨3, 1⟩, ⟨5, 28⟩, by decide, by decide, by decide, by decide⟩
    let total := Descriptor.value "Sum: all" ⟨[.plain "Total"], by decide⟩
    rows.text = "Template:Rows:A3:AB5" ∧ Descriptor.ofText rows.text = .ok rows ∧
      total.text = "Value:Sum: all:Total" ∧
      Descriptor.ofText total.text = .error (.malformedDescriptor total.text) := by
  intro rows total
  obtain ⟨hwritten, hread⟩ := a_descriptor_is_read_back_from_its_text
  refine ⟨hwritten _ rows rfl, (hread rows trivial).1.mpr ⟨by decide, by decide⟩, rfl, ?_⟩
  exact (hread total ⟨"Total", rfl⟩).2 (fun h => absurd h.1 (by decide))

end GridTemplate
