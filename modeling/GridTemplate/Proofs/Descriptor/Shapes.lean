-- The questions about the shape of a text, and reading it. Each question cuts the text into tokens
-- on its own, and all of them agree: no text has two shapes, a text is read as a descriptor of its
-- shape, and only a template can have a shape and still be refused, for where it lies.
import GridTemplate.Proofs.Descriptor.Writing

namespace GridTemplate

/-! ## The tokens of each shape -/

theorem isAbstractValueDescriptor_iff (text : String) :
    isAbstractValueDescriptor text = true ↔
      ∃ keyword name path, descriptorTokens text = [keyword, name, path] ∧
        isModelPath path = true := by
  unfold isAbstractValueDescriptor
  constructor
  · intro h
    split at h
    · rename_i keyword name path htokens
      exact ⟨keyword, name, path, htokens, h⟩
    · cases h
  · rintro ⟨keyword, name, path, htokens, hpath⟩
    rw [htokens]
    exact hpath

theorem isValueDescriptor_iff (text : String) :
    isValueDescriptor text = true ↔
      ∃ label path, descriptorTokens text = [valueKeyword, label, path] ∧
        isModelPath path = true := by
  rw [isValueDescriptor, Bool.and_eq_true, isAbstractValueDescriptor_iff]
  constructor
  · rintro ⟨⟨keyword, label, path, htokens, hpath⟩, hkeyword⟩
    rw [htokens] at hkeyword
    obtain rfl : keyword = valueKeyword := by simpa using hkeyword
    exact ⟨label, path, htokens, hpath⟩
  · rintro ⟨label, path, htokens, hpath⟩
    exact ⟨⟨valueKeyword, label, path, htokens, hpath⟩, by rw [htokens]; rfl⟩

theorem isFormDescriptor_iff (text : String) :
    isFormDescriptor text = true ↔
      ∃ control name path, descriptorTokens text = [ControlType.keyword control, name, path] ∧
        name ≠ "" ∧ isModelPath path = true := by
  rw [isFormDescriptor, Bool.and_eq_true, isAbstractValueDescriptor_iff]
  constructor
  · rintro ⟨⟨keyword, name, path, htokens, hpath⟩, hform⟩
    rw [htokens, Bool.and_eq_true, bne_iff_ne, Option.isSome_iff_exists] at hform
    obtain ⟨⟨control, hcontrol⟩, hname⟩ := hform
    rw [(ControlType.ofKeyword?_eq_some_iff keyword control).mp hcontrol] at htokens
    exact ⟨control, name, path, htokens, hname, hpath⟩
  · rintro ⟨control, name, path, htokens, hname, hpath⟩
    refine ⟨⟨_, name, path, htokens, hpath⟩, ?_⟩
    rw [htokens, Bool.and_eq_true, bne_iff_ne, Option.isSome_iff_exists]
    exact ⟨⟨control, (ControlType.ofKeyword?_eq_some_iff _ control).mpr rfl⟩, hname⟩

theorem isTemplateDescriptor_iff (text : String) :
    isTemplateDescriptor text = true ↔
      ∃ name first last, descriptorTokens text = [templateKeyword, name, first, last] ∧
        name ≠ "" ∧ isReference first.toList = true ∧ isReference last.toList = true := by
  unfold isTemplateDescriptor
  constructor
  · intro h
    split at h
    · rename_i keyword name first last htokens
      simp only [Bool.and_eq_true, beq_iff_eq, bne_iff_ne] at h
      obtain ⟨⟨⟨rfl, hname⟩, hfirst⟩, hlast⟩ := h
      exact ⟨name, first, last, htokens, hname, hfirst, hlast⟩
    · cases h
  · rintro ⟨name, first, last, htokens, hname, hfirst, hlast⟩
    simp [htokens, hname, hfirst, hlast]

/-! ## One shape at most -/

theorem not_isFormDescriptor_of_isValueDescriptor {text : String}
    (h : isValueDescriptor text = true) : ¬ isFormDescriptor text = true := by
  intro hform
  obtain ⟨label, path, htokens, -⟩ := (isValueDescriptor_iff text).mp h
  obtain ⟨control, name, path', htokens', -⟩ := (isFormDescriptor_iff text).mp hform
  rw [htokens] at htokens'
  exact keyword_ne_valueKeyword control (List.cons.inj htokens').1.symm

/-- Three tokens are not four. -/
theorem not_isTemplateDescriptor_of_isAbstractValueDescriptor {text : String}
    (h : isAbstractValueDescriptor text = true) : ¬ isTemplateDescriptor text = true := by
  intro htemplate
  obtain ⟨keyword, name, path, htokens, -⟩ := (isAbstractValueDescriptor_iff text).mp h
  obtain ⟨name', first, last, htokens', -⟩ := (isTemplateDescriptor_iff text).mp htemplate
  rw [htokens] at htokens'
  simp at htokens'

/-! ## Reading each shape -/

theorem ModelPath.exists_ofText {text : String} (h : isModelPath text = true) :
    ∃ path, ModelPath.ofText text = .ok path := ⟨_, if_pos h⟩

theorem ModelPath.isModelPath_of_ofText {text : String} {path : ModelPath}
    (h : ModelPath.ofText text = .ok path) : isModelPath text = true := by
  by_contra hnot
  rw [ModelPath.ofText, if_neg hnot] at h
  cases h

/-- Between two references lies what they give as references of a region. -/
theorem regionBetween_of_isReference (text : String) {first last : String}
    (hfirst : isReference first.toList = true) (hlast : isReference last.toList = true) :
    regionBetween text first last = liftGrid (Region.ofReferences first last) := by
  rw [regionBetween, cornerOf_of_isReference text hfirst, cornerOf_of_isReference text hlast,
    Region.ofReferences]
  cases Cell.ofReference first with
  | error e => rfl
  | ok upperLeft =>
    cases Cell.ofReference last with
    | error e => rfl
    | ok lowerRight => rfl

namespace Descriptor

variable {text : String}

theorem ofText_of_value {label path : String} {read : ModelPath}
    (htokens : descriptorTokens text = [valueKeyword, label, path])
    (hread : ModelPath.ofText path = .ok read) : ofText text = .ok (.value label read) := by
  rw [ofText_eq_ok_iff, htokens, tokens, ModelPath.text_of_ofText hread]
  exact ⟨rfl, ⟨path, hread⟩, trivial⟩

theorem ofText_of_form {control : ControlType} {name path : String} {read : ModelPath}
    (htokens : descriptorTokens text = [control.keyword, name, path]) (hname : name ≠ "")
    (hread : ModelPath.ofText path = .ok read) : ofText text = .ok (.form control name read) := by
  rw [ofText_eq_ok_iff, htokens, tokens, ModelPath.text_of_ofText hread]
  exact ⟨rfl, ⟨path, hread⟩, hname⟩

theorem ofText_of_template {name first last : String}
    (htokens : descriptorTokens text = [templateKeyword, name, first, last]) (hname : name ≠ "")
    (hfirst : isReference first.toList = true) (hlast : isReference last.toList = true) :
    ofText text = (liftGrid (Region.ofReferences first last)).map (.template name) := by
  rw [ofText, htokens]
  dsimp only
  rw [if_pos ⟨rfl, hname, hfirst, hlast⟩, regionBetween_of_isReference text hfirst hlast]
  cases liftGrid (Region.ofReferences first last) with
  | error e => rfl
  | ok region => rfl

/-- The question that belongs to the shape of a descriptor. -/
def HasShape (text : String) : Descriptor → Prop
  | .value _ _ => isValueDescriptor text = true
  | .form _ _ _ => isFormDescriptor text = true
  | .template _ _ => isTemplateDescriptor text = true

/-- A text is only read as a descriptor of its own shape. -/
theorem hasShape_of_ofText {d : Descriptor} (h : ofText text = .ok d) : d.HasShape text := by
  obtain ⟨htokens, hpath, hnamed⟩ := (ofText_eq_ok_iff text d).mp h
  have hread : ∀ {path : ModelPath}, (∃ written, ModelPath.ofText written = .ok path) →
      isModelPath path.text = true := by
    rintro path ⟨written, hwritten⟩
    rw [ModelPath.text_of_ofText hwritten]
    exact ModelPath.isModelPath_of_ofText hwritten
  cases d with
  | value label path => exact (isValueDescriptor_iff text).mpr ⟨label, _, htokens, hread hpath⟩
  | form control name path =>
    exact (isFormDescriptor_iff text).mpr ⟨control, name, _, htokens, hnamed, hread hpath⟩
  | template name region =>
    exact (isTemplateDescriptor_iff text).mpr ⟨name, _, _, htokens, hnamed,
      isReference_reference region.upperLeft_onGrid, isReference_reference region.lowerRight_onGrid⟩

theorem exists_value_of_isValueDescriptor (h : isValueDescriptor text = true) :
    ∃ label path, ofText text = .ok (.value label path) := by
  obtain ⟨label, path, htokens, hpath⟩ := (isValueDescriptor_iff text).mp h
  obtain ⟨read, hread⟩ := ModelPath.exists_ofText hpath
  exact ⟨label, read, ofText_of_value htokens hread⟩

theorem exists_form_of_isFormDescriptor (h : isFormDescriptor text = true) :
    ∃ control name path, ofText text = .ok (.form control name path) := by
  obtain ⟨control, name, path, htokens, hname, hpath⟩ := (isFormDescriptor_iff text).mp h
  obtain ⟨read, hread⟩ := ModelPath.exists_ofText hpath
  exact ⟨control, name, read, ofText_of_form htokens hname hread⟩

/-- A template is read, or refused for what the grid says of it. -/
theorem template_or_grid_of_isTemplateDescriptor (h : isTemplateDescriptor text = true) :
    (∃ name region, ofText text = .ok (.template name region)) ∨
      ∃ g, ofText text = .error (.grid g) := by
  obtain ⟨name, first, last, htokens, hname, hfirst, hlast⟩ := (isTemplateDescriptor_iff text).mp h
  rw [ofText_of_template htokens hname hfirst hlast]
  cases Region.ofReferences first last with
  | error g => exact Or.inr ⟨g, rfl⟩
  | ok region => exact Or.inl ⟨name, region, rfl⟩

theorem malformed_or_isTemplateDescriptor {e : Error} (h : ofText text = .error e) :
    e = .malformedDescriptor text ∨ isTemplateDescriptor text = true := by
  unfold ofText at h
  split at h
  · split at h
    · cases h
    · exact Or.inl (Except.error.inj h).symm
  · rename_i keyword name first last htokens
    split at h
    · rename_i hshape
      obtain ⟨rfl, hname, hfirst, hlast⟩ := hshape
      exact Or.inr
        ((isTemplateDescriptor_iff text).mpr ⟨name, first, last, htokens, hname, hfirst, hlast⟩)
    · exact Or.inl (Except.error.inj h).symm
  · exact Or.inl (Except.error.inj h).symm

theorem malformed_or_grid_of_ofText {e : Error} (h : ofText text = .error e) :
    e = .malformedDescriptor text ∨ ∃ g, e = .grid g := by
  rcases malformed_or_isTemplateDescriptor h with hmalformed | htemplate
  · exact Or.inl hmalformed
  · rcases template_or_grid_of_isTemplateDescriptor htemplate with ⟨name, region, hok⟩ | ⟨g, hgrid⟩
    · rw [hok] at h
      cases h
    · rw [hgrid] at h
      exact Or.inr ⟨g, (Except.error.inj h).symm⟩

/-- A text is malformed exactly if it has no shape. -/
theorem ofText_eq_malformed_iff (text : String) :
    ofText text = .error (.malformedDescriptor text) ↔
      isValueDescriptor text = false ∧ isFormDescriptor text = false ∧
        isTemplateDescriptor text = false := by
  simp only [Bool.eq_false_iff]
  constructor
  · intro h
    refine ⟨?_, ?_, ?_⟩
    · intro hvalue
      obtain ⟨label, path, hok⟩ := exists_value_of_isValueDescriptor hvalue
      rw [hok] at h
      cases h
    · intro hform
      obtain ⟨control, name, path, hok⟩ := exists_form_of_isFormDescriptor hform
      rw [hok] at h
      cases h
    · intro htemplate
      rcases template_or_grid_of_isTemplateDescriptor htemplate with
        ⟨name, region, hok⟩ | ⟨g, hgrid⟩
      · rw [hok] at h
        cases h
      · rw [hgrid] at h
        cases h
  · rintro ⟨hvalue, hform, htemplate⟩
    cases hread : ofText text with
    | ok d =>
      have hshape := hasShape_of_ofText hread
      cases d with
      | value label path => exact absurd hshape hvalue
      | form control name path => exact absurd hshape hform
      | template name region => exact absurd hshape htemplate
    | error e =>
      rcases malformed_or_isTemplateDescriptor hread with rfl | hshape
      · rfl
      · exact absurd hshape htemplate

/-! ## What the tokens say -/

theorem valueLabel?_eq_some_iff (text label : String) :
    valueLabel? text = some label ↔ ∃ path, ofText text = .ok (.value label path) := by
  unfold valueLabel?
  constructor
  · intro h
    split at h
    · rename_i hvalue
      obtain ⟨label', path, htokens, hpath⟩ := (isValueDescriptor_iff text).mp hvalue
      rw [htokens] at h
      cases h
      obtain ⟨read, hread⟩ := ModelPath.exists_ofText hpath
      exact ⟨read, ofText_of_value htokens hread⟩
    · cases h
  · rintro ⟨path, h⟩
    have hvalue : isValueDescriptor text = true := hasShape_of_ofText h
    rw [if_pos hvalue, (tokens_of_ofText h).1]
    rfl

theorem controlName?_eq_some_iff (text name : String) :
    controlName? text = some name ↔
      ∃ control path, ofText text = .ok (.form control name path) := by
  unfold controlName?
  constructor
  · intro h
    split at h
    · rename_i hform
      obtain ⟨control, name', path, htokens, hname, hpath⟩ := (isFormDescriptor_iff text).mp hform
      rw [htokens] at h
      cases h
      obtain ⟨read, hread⟩ := ModelPath.exists_ofText hpath
      exact ⟨control, read, ofText_of_form htokens hname hread⟩
    · cases h
  · rintro ⟨control, path, h⟩
    have hform : isFormDescriptor text = true := hasShape_of_ofText h
    rw [if_pos hform, (tokens_of_ofText h).1]
    rfl

theorem controlType?_eq_some_iff (text : String) (control : ControlType) :
    controlType? text = some control ↔
      ∃ name path, ofText text = .ok (.form control name path) := by
  unfold controlType?
  constructor
  · intro h
    split at h
    · rename_i hform
      obtain ⟨control', name, path, htokens, hname, hpath⟩ := (isFormDescriptor_iff text).mp hform
      rw [htokens, List.head?_cons, Option.bind_some, ControlType.ofKeyword?_eq_some_iff] at h
      rw [h] at htokens
      obtain ⟨read, hread⟩ := ModelPath.exists_ofText hpath
      exact ⟨name, read, ofText_of_form htokens hname hread⟩
    · cases h
  · rintro ⟨name, path, h⟩
    have hform : isFormDescriptor text = true := hasShape_of_ofText h
    rw [if_pos hform, (tokens_of_ofText h).1]
    exact (ControlType.ofKeyword?_eq_some_iff _ control).mpr rfl

theorem declaredRegion?_eq_some_iff (text : String) (region : Region) :
    declaredRegion? text = some region ↔ ∃ name, ofText text = .ok (.template name region) := by
  unfold declaredRegion?
  constructor
  · intro h
    split at h
    · rename_i htemplate
      obtain ⟨name, first, last, htokens, hname, hfirst, hlast⟩ :=
        (isTemplateDescriptor_iff text).mp htemplate
      rw [htokens] at h
      dsimp only at h
      rw [regionBetween_of_isReference text hfirst hlast] at h
      refine ⟨name, ?_⟩
      rw [ofText_of_template htokens hname hfirst hlast]
      cases hregion : liftGrid (Region.ofReferences first last) with
      | error e =>
        rw [hregion] at h
        cases h
      | ok r =>
        rw [hregion] at h
        cases h
        rfl
    · cases h
  · rintro ⟨name, h⟩
    have hupper := isReference_reference region.upperLeft_onGrid
    have hlower := isReference_reference region.lowerRight_onGrid
    have hregion := (regionBetween_eq_ok_iff text region hupper hlower).mpr ⟨rfl, rfl⟩
    have htemplate : isTemplateDescriptor text = true := hasShape_of_ofText h
    rw [if_pos htemplate, (tokens_of_ofText h).1]
    simp only [tokens, hregion]
    rfl

/-- A template has no region exactly if the grid refuses it. -/
theorem exists_grid_iff (text : String) :
    (∃ g, ofText text = .error (.grid g)) ↔
      isTemplateDescriptor text = true ∧ declaredRegion? text = none := by
  constructor
  · rintro ⟨g, h⟩
    constructor
    · rcases malformed_or_isTemplateDescriptor h with hmalformed | htemplate
      · cases hmalformed
      · exact htemplate
    · rw [Option.eq_none_iff_forall_ne_some]
      intro region hregion
      obtain ⟨name, hok⟩ := (declaredRegion?_eq_some_iff text region).mp hregion
      rw [hok] at h
      cases h
  · rintro ⟨htemplate, hnone⟩
    rcases template_or_grid_of_isTemplateDescriptor htemplate with ⟨name, region, hok⟩ | hgrid
    · rw [(declaredRegion?_eq_some_iff text region).mpr ⟨name, hok⟩] at hnone
      cases hnone
    · exact hgrid

/-! ## Reading by the shape -/

/-- There is a token at every place that is looked at, and nothing else goes wrong than when the
text is read at once. -/
theorem byShape?_eq (text : String) : byShape? text = some (ofText text) := by
  unfold byShape?
  dsimp only
  split
  · rename_i hform
    obtain ⟨control, name, path, htokens, hname, hpath⟩ := (isFormDescriptor_iff text).mp hform
    obtain ⟨read, hread⟩ := ModelPath.exists_ofText hpath
    have hcontrol : ControlType.ofKeyword control.keyword = .ok control := by
      cases control <;> rfl
    rw [ofText_of_form htokens hname hread, htokens]
    show some (do
      let control ← ControlType.ofKeyword control.keyword
      let path ← ModelPath.ofText path
      return Descriptor.form control name path) = _
    rw [hcontrol, hread]
    rfl
  · split
    · rename_i hvalue
      obtain ⟨label, path, htokens, hpath⟩ := (isValueDescriptor_iff text).mp hvalue
      obtain ⟨read, hread⟩ := ModelPath.exists_ofText hpath
      rw [ofText_of_value htokens hread, htokens]
      show some (do
        let path ← ModelPath.ofText path
        return Descriptor.value label path) = _
      rw [hread]
      rfl
    · split
      · rename_i htemplate
        obtain ⟨name, first, last, htokens, hname, hfirst, hlast⟩ :=
          (isTemplateDescriptor_iff text).mp htemplate
        rw [ofText_of_template htokens hname hfirst hlast, htokens]
        show some (do
          let region ← regionBetween text first last
          return Descriptor.template name region) = _
        rw [regionBetween_of_isReference text hfirst hlast]
        cases liftGrid (Region.ofReferences first last) with
        | error e => rfl
        | ok region => rfl
      · rename_i hform hvalue htemplate
        rw [Bool.not_eq_true] at hform hvalue htemplate
        rw [(ofText_eq_malformed_iff text).mpr ⟨hvalue, hform, htemplate⟩]
        rfl

end Descriptor

/-! ## The law -/

/-- No text has two shapes. It is read as a value or a form exactly if it has that shape, and as a
template only if it has the shape of one. It is malformed exactly if it has no shape, and the grid
refuses it exactly if it is a template that declares no region; nothing else can go wrong, also if
the text is read by its shape. What the tokens say is what is read. -/
theorem a_text_has_at_most_one_shape (text : String) :
    (¬ (isValueDescriptor text = true ∧ isFormDescriptor text = true) ∧
      ¬ (isValueDescriptor text = true ∧ isTemplateDescriptor text = true) ∧
      ¬ (isFormDescriptor text = true ∧ isTemplateDescriptor text = true)) ∧
    (Descriptor.byShape? text = some (Descriptor.ofText text) ∧
      ((∃ label path, Descriptor.ofText text = .ok (.value label path)) ↔
        isValueDescriptor text = true) ∧
      ((∃ control name path, Descriptor.ofText text = .ok (.form control name path)) ↔
        isFormDescriptor text = true) ∧
      (∀ name region, Descriptor.ofText text = .ok (.template name region) →
        isTemplateDescriptor text = true)) ∧
    ((Descriptor.ofText text = .error (.malformedDescriptor text) ↔
        isValueDescriptor text = false ∧ isFormDescriptor text = false ∧
          isTemplateDescriptor text = false) ∧
      ((∃ g, Descriptor.ofText text = .error (.grid g)) ↔
        isTemplateDescriptor text = true ∧ declaredRegion? text = none) ∧
      (∀ e, Descriptor.ofText text = .error e → e = .malformedDescriptor text ∨ ∃ g, e = .grid g)) ∧
    (∀ label, valueLabel? text = some label ↔
      ∃ path, Descriptor.ofText text = .ok (.value label path)) ∧
    (∀ name, controlName? text = some name ↔
      ∃ control path, Descriptor.ofText text = .ok (.form control name path)) ∧
    (∀ control, controlType? text = some control ↔
      ∃ name path, Descriptor.ofText text = .ok (.form control name path)) ∧
    (∀ region, declaredRegion? text = some region ↔
      ∃ name, Descriptor.ofText text = .ok (.template name region)) := by
  refine ⟨⟨?_, ?_, ?_⟩, ⟨Descriptor.byShape?_eq text,
    ⟨?_, Descriptor.exists_value_of_isValueDescriptor⟩,
    ⟨?_, Descriptor.exists_form_of_isFormDescriptor⟩,
    fun _ _ h => Descriptor.hasShape_of_ofText h⟩, ⟨Descriptor.ofText_eq_malformed_iff text,
    Descriptor.exists_grid_iff text, fun _ h => Descriptor.malformed_or_grid_of_ofText h⟩,
    Descriptor.valueLabel?_eq_some_iff text, Descriptor.controlName?_eq_some_iff text,
    Descriptor.controlType?_eq_some_iff text, Descriptor.declaredRegion?_eq_some_iff text⟩
  · rintro ⟨hvalue, hform⟩
    exact not_isFormDescriptor_of_isValueDescriptor hvalue hform
  · rintro ⟨hvalue, htemplate⟩
    have habstract := (Bool.and_eq_true_iff.mp hvalue).1
    exact not_isTemplateDescriptor_of_isAbstractValueDescriptor habstract htemplate
  · rintro ⟨hform, htemplate⟩
    have habstract := (Bool.and_eq_true_iff.mp hform).1
    exact not_isTemplateDescriptor_of_isAbstractValueDescriptor habstract htemplate
  · rintro ⟨label, path, h⟩
    exact Descriptor.hasShape_of_ofText h
  · rintro ⟨control, name, path, h⟩
    exact Descriptor.hasShape_of_ofText h

/-- A template whose corners are the wrong way round keeps its shape and is refused by the grid. A
form without a name has no shape. -/
theorem a_template_upside_down_keeps_its_shape :
    (isTemplateDescriptor "Template:Rows:B5:A3" = true ∧
      isFormDescriptor "Template:Rows:B5:A3" = false ∧
      declaredRegion? "Template:Rows:B5:A3" = none ∧
      ∃ g, Descriptor.ofText "Template:Rows:B5:A3" = .error (.grid g)) ∧
    Descriptor.ofText "CheckBox::Paid" = .error (.malformedDescriptor "CheckBox::Paid") ∧
    valueLabel? "Value::Total" = some "" := by
  refine ⟨⟨rfl, rfl, rfl, ?_⟩, ?_, ?_⟩
  · obtain ⟨-, -, ⟨-, hgrid, -⟩, -⟩ := a_text_has_at_most_one_shape "Template:Rows:B5:A3"
    exact hgrid.mpr ⟨rfl, rfl⟩
  · obtain ⟨-, -, ⟨hmalformed, -⟩, -⟩ := a_text_has_at_most_one_shape "CheckBox::Paid"
    exact hmalformed.mpr ⟨rfl, rfl, rfl⟩
  · obtain ⟨-, -, -, hlabel, -⟩ := a_text_has_at_most_one_shape "Value::Total"
    exact (hlabel "").mpr ⟨_, rfl⟩

end GridTemplate
