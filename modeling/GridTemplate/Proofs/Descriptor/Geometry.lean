-- Where templates lie. The references of a template are its last two tokens as they stand, so it lies
-- where they say, or it is refused for what the grid says of them: of the first corner, then of the
-- second, and then of their order.
import GridTemplate.Proofs.Cell.Faults
import GridTemplate.Proofs.Descriptor.Shapes

namespace GridTemplate

namespace Region

variable {first last : String}

/-- The corners are the wrong way round, upside down or from right to left. -/
def Reversed (upperLeft lowerRight : Cell) : Prop :=
  lowerRight.row < upperLeft.row ∨ lowerRight.column < upperLeft.column

theorem ofCorners_eq_error_iff {p q : Cell} (hp : p.OnGrid) (hq : q.OnGrid) (g : GridError) :
    ofCorners p q = .error g ↔ Reversed p q ∧ g = .invalidRectangle p q := by
  unfold ofCorners Reversed
  rw [dif_pos hp, dif_pos hq]
  split
  · rename_i h
    simp only [reduceCtorEq, false_iff]
    omega
  · rename_i h
    have hreversed : q.row < p.row ∨ q.column < p.column := by omega
    simp [hreversed, eq_comm]

/-- Between canonical references, the first corner is judged before the second, and their order last. -/
theorem ofReferences_eq_error_iff (hfirst : isReference first.toList = true)
    (hlast : isReference last.toList = true) (g : GridError) :
    ofReferences first last = .error g ↔
      (¬ (Cell.spelt first).OnGrid ∧ g = Cell.speltFault first) ∨
      ((Cell.spelt first).OnGrid ∧ ¬ (Cell.spelt last).OnGrid ∧ g = Cell.speltFault last) ∨
      ((Cell.spelt first).OnGrid ∧ (Cell.spelt last).OnGrid ∧
        Reversed (Cell.spelt first) (Cell.spelt last) ∧
        g = .invalidRectangle (Cell.spelt first) (Cell.spelt last)) := by
  rw [ofReferences, Cell.ofReference_of_isReference hfirst, Cell.ofReference_of_isReference hlast]
  by_cases hp : (Cell.spelt first).OnGrid
  · by_cases hq : (Cell.spelt last).OnGrid
    · simp [hp, hq, ofCorners_eq_error_iff]
    · simp [hp, hq, eq_comm]
  · simp [hp, eq_comm]

theorem exists_invalidRectangle_iff (hfirst : isReference first.toList = true)
    (hlast : isReference last.toList = true) :
    (∃ p q, ofReferences first last = .error (.invalidRectangle p q)) ↔
      (Cell.spelt first).OnGrid ∧ (Cell.spelt last).OnGrid ∧
        Reversed (Cell.spelt first) (Cell.spelt last) := by
  simp only [ofReferences_eq_error_iff hfirst hlast]
  constructor
  · rintro ⟨p, q, ⟨-, hfault⟩ | ⟨-, -, hfault⟩ | ⟨hp, hq, hreversed, -⟩⟩
    · exact absurd hfault.symm (Cell.speltFault_ne_invalidRectangle first p q)
    · exact absurd hfault.symm (Cell.speltFault_ne_invalidRectangle last p q)
    · exact ⟨hp, hq, hreversed⟩
  · rintro ⟨hp, hq, hreversed⟩
    exact ⟨_, _, Or.inr (Or.inr ⟨hp, hq, hreversed, rfl⟩)⟩

end Region

/-! ## The region of a template -/

theorem toOption_liftGrid {α : Type} (result : Except GridError α) :
    (liftGrid result).toOption = result.toOption := by
  cases result <;> rfl

section

variable {text name first last : String}
  (htokens : descriptorTokens text = [templateKeyword, name, first, last]) (hname : name ≠ "")
  (hfirst : isReference first.toList = true) (hlast : isReference last.toList = true)
include htokens hname hfirst hlast

theorem Descriptor.ofText_of_template_eq_ok_iff (d : Descriptor) :
    Descriptor.ofText text = .ok d ↔
      ∃ region, Region.ofReferences first last = .ok region ∧ d = .template name region := by
  rw [Descriptor.ofText_of_template htokens hname hfirst hlast]
  cases Region.ofReferences first last <;> simp [liftGrid, Except.map, eq_comm]

theorem Descriptor.ofText_of_template_eq_error_iff (e : Error) :
    Descriptor.ofText text = .error e ↔
      ∃ g, Region.ofReferences first last = .error g ∧ e = .grid g := by
  rw [Descriptor.ofText_of_template htokens hname hfirst hlast]
  cases Region.ofReferences first last <;> simp [liftGrid, Except.map, eq_comm]

theorem declaredRegion?_of_template :
    declaredRegion? text = (Region.ofReferences first last).toOption := by
  have htemplate : isTemplateDescriptor text = true :=
    (isTemplateDescriptor_iff text).mpr ⟨name, first, last, htokens, hname, hfirst, hlast⟩
  rw [declaredRegion?, if_pos htemplate, htokens]
  dsimp only
  rw [regionBetween_of_isReference text hfirst hlast, toOption_liftGrid]

end

/-! ## The law -/

/-- The references of a template are found in its last two tokens and are all of them. The text is read
as a template of the region between them, and if there is none, it is refused for the very reason and
never as malformed. The first corner off the grid is the reason, or else that the corners are the
wrong way round. -/
theorem a_template_lies_between_its_tokens (text : String) (h : isTemplateDescriptor text = true) :
    ∃ name first last, descriptorTokens text = [templateKeyword, name, first, last] ∧
      (findReference? first.toList = some first.toList ∧
        findReference? last.toList = some last.toList) ∧
      (∀ d, Descriptor.ofText text = .ok d ↔
        ∃ region, Region.ofReferences first last = .ok region ∧ d = .template name region) ∧
      (∀ e, Descriptor.ofText text = .error e ↔
        ∃ g, Region.ofReferences first last = .error g ∧ e = .grid g) ∧
      (∀ other, Descriptor.ofText text ≠ .error (.malformedDescriptor other)) ∧
      declaredRegion? text = (Region.ofReferences first last).toOption ∧
      let upperLeft := Cell.spelt first
      let lowerRight := Cell.spelt last
      (∀ g, Region.ofReferences first last = .error g ↔
        (¬ upperLeft.OnGrid ∧ g = Cell.speltFault first) ∨
        (upperLeft.OnGrid ∧ ¬ lowerRight.OnGrid ∧ g = Cell.speltFault last) ∨
        (upperLeft.OnGrid ∧ lowerRight.OnGrid ∧ Region.Reversed upperLeft lowerRight ∧
          g = .invalidRectangle upperLeft lowerRight)) ∧
      ((∃ p q, Region.ofReferences first last = .error (.invalidRectangle p q)) ↔
        upperLeft.OnGrid ∧ lowerRight.OnGrid ∧ Region.Reversed upperLeft lowerRight) := by
  obtain ⟨name, first, last, htokens, hname, hfirst, hlast⟩ := (isTemplateDescriptor_iff text).mp h
  have herror := Descriptor.ofText_of_template_eq_error_iff htokens hname hfirst hlast
  refine ⟨name, first, last, htokens,
    ⟨findReference?_of_isReference hfirst, findReference?_of_isReference hlast⟩,
    Descriptor.ofText_of_template_eq_ok_iff htokens hname hfirst hlast, herror, ?_,
    declaredRegion?_of_template htokens hname hfirst hlast,
    Region.ofReferences_eq_error_iff hfirst hlast, Region.exists_invalidRectangle_iff hfirst hlast⟩
  intro other hmalformed
  obtain ⟨g, -, hgrid⟩ := (herror _).mp hmalformed
  cases hgrid

/-- The first corner is refused for a row that does not fit, though the column of the second one is off
the grid as well. With both on the grid, it is their order that is refused. -/
theorem a_template_is_refused_for_its_first_corner :
    isTemplateDescriptor "Template:Far:A4294967296:XFE1" = true ∧
    Descriptor.ofText "Template:Far:A4294967296:XFE1" =
      .error (.grid (.badAddress (.invalidRowNumber "A4294967296"))) ∧
    isTemplateDescriptor "Template:Rows:B3:A5" = true ∧
    Descriptor.ofText "Template:Rows:B3:A5" = .error (.grid (.invalidRectangle ⟨3, 2⟩ ⟨5, 1⟩)) ∧
    declaredRegion? "Template:Rows:B3:A5" = none := by
  have hfar : isTemplateDescriptor "Template:Far:A4294967296:XFE1" = true := rfl
  have hrows : isTemplateDescriptor "Template:Rows:B3:A5" = true := rfl
  obtain ⟨name, first, last, htokens, -, -, herror, -, -, hfault, -⟩ :=
    a_template_lies_between_its_tokens _ hfar
  obtain ⟨name', first', last', htokens', -, -, herror', -, hregion, hfault', -⟩ :=
    a_template_lies_between_its_tokens _ hrows
  have hread : descriptorTokens "Template:Far:A4294967296:XFE1" =
      [templateKeyword, "Far", "A4294967296", "XFE1"] := rfl
  have hread' : descriptorTokens "Template:Rows:B3:A5" = [templateKeyword, "Rows", "B3", "A5"] := rfl
  rw [hread] at htokens
  rw [hread'] at htokens'
  cases htokens
  cases htokens'
  have hwide := (hfault (.badAddress (.invalidRowNumber "A4294967296"))).mpr
    (Or.inl ⟨by decide, rfl⟩)
  have hreversed := (hfault' (.invalidRectangle ⟨3, 2⟩ ⟨5, 1⟩)).mpr
    (Or.inr (Or.inr ⟨by decide, by decide, Or.inr (by decide), rfl⟩))
  refine ⟨hfar, (herror _).mpr ⟨_, hwide, rfl⟩, hrows, (herror' _).mpr ⟨_, hreversed, rfl⟩, ?_⟩
  rw [hregion, hreversed]
  rfl

end GridTemplate
