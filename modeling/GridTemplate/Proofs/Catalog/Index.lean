-- A catalog with an index. Beside the templates it keeps the place of each name, so that a name is
-- looked up without a search, and a declaration writes to both, first to the index. The two stay in
-- step through any declarations, also those that are refused, so what the index answers is what the
-- templates say, and the catalog without an index is the same to whoever asks.
import GridTemplate.Proofs.Catalog.Declarations
import GridTemplate.Proofs.Descriptor.Shapes

namespace GridTemplate

/-- The template that a declaration is for. Other descriptors are for none. -/
def Declaration.template? : Declaration → Option Template
  | .descriptor text =>
    match Descriptor.ofText text with
    | .ok (.template name r) => some ⟨name, r⟩
    | _ => none
  | .region name r => some ⟨name, r⟩

/-- What is answered to a declaration that is taken: its region, if the descriptor had to be read
for it. -/
def Declaration.answer : Declaration → Template → Option Region
  | .descriptor _, t => some t.region
  | .region _ _, _ => none

/-- Why a declaration is refused if these names are taken. -/
inductive Refused (names : List String) : Declaration → Error → Prop
  | unreadable {text : String} {e : Error} :
      Descriptor.ofText text = .error e → Refused names (.descriptor text) e
  | otherShape {text : String} {descriptor : Descriptor} :
      Descriptor.ofText text = .ok descriptor →
      (∀ name region, descriptor ≠ .template name region) →
      Refused names (.descriptor text) (.malformedDescriptor text)
  | repeated {d : Declaration} {t : Template} :
      d.template? = some t → t.name ∈ names → Refused names d (.duplicateTemplate t.name)

namespace IndexedCatalog

/-- Makes a declaration. -/
def declare : Declaration → InPlace (Option Region)
  | .descriptor text => do return some (← insert text)
  | .region name region => do
    insertRegion name region
    return none

/-- The catalog that an operation leaves behind, whether or not it succeeds. -/
def leftBehind {α : Type} : EStateM.Result Error IndexedCatalog α → IndexedCatalog
  | .ok _ c => c
  | .error _ c => c

/-- What comes out of an operation, the catalog without its index, or the error. -/
def outcome {α : Type} : EStateM.Result Error IndexedCatalog α → Except Error (Catalog × α)
  | .ok answer c => .ok (c.listed, answer)
  | .error e _ => .error e

/-- The catalog after declarations, each of which may be refused. -/
def afterAll (c : IndexedCatalog) (ds : List Declaration) : IndexedCatalog :=
  ds.foldl (fun c d => leftBehind ((declare d).run c)) c

/-- The templates of the declarations that are taken, in their order. -/
def taken (c : IndexedCatalog) : List Declaration → List Template
  | [] => []
  | d :: ds =>
    match (declare d).run c with
    | .ok _ c => d.template?.toList ++ taken c ds
    | .error _ c => taken c ds

/-- The catalog with one more template at its end, and with its place. -/
def push (c : IndexedCatalog) (t : Template) : IndexedCatalog :=
  ⟨c.templates ++ [t], c.places.insert t.name c.templates.length⟩

/-- A name has a place exactly if the template at that place has the name. -/
def InStep (c : IndexedCatalog) : Prop :=
  ∀ (name : String) (i : Nat), c.places[name]? = some i ↔ c.names[i]? = some name

variable {c : IndexedCatalog} {t : Template} {d : Declaration}

/-! ## One declaration -/

theorem template?_descriptor_eq_some_iff (text : String) (t : Template) :
    (Declaration.descriptor text).template? = some t ↔
      Descriptor.ofText text = .ok (.template t.name t.region) := by
  cases hread : Descriptor.ofText text with
  | error e => simp [Declaration.template?, hread]
  | ok descriptor =>
    cases descriptor with
    | value label path => simp [Declaration.template?, hread]
    | form control name path => simp [Declaration.template?, hread]
    | template name region =>
      simp only [Declaration.template?, hread, Option.some.injEq, Except.ok.injEq,
        Descriptor.template.injEq]
      constructor
      · rintro rfl
        exact ⟨rfl, rfl⟩
      · rintro ⟨rfl, rfl⟩
        rfl

theorem run_insertRegion (c : IndexedCatalog) (name : String) (region : Region) :
    (insertRegion name region).run c =
      if name ∈ c.places then .error (.duplicateTemplate name) c
      else .ok () (c.push ⟨name, region⟩) := by
  unfold insertRegion
  by_cases h : name ∈ c.places
  · simp [h]
  · simp [h, push]

/-- The declaration of a template is taken if its name has no place. -/
theorem run_declare_of_template (h : d.template? = some t) (c : IndexedCatalog) :
    (declare d).run c =
      if t.name ∈ c.places then .error (.duplicateTemplate t.name) c
      else .ok (d.answer t) (c.push t) := by
  cases d with
  | region name region =>
    cases h
    rw [declare, EStateM.run_bind, run_insertRegion]
    by_cases hmem : name ∈ c.places
    · simp [hmem]
    · simp [hmem, Declaration.answer]
  | descriptor text =>
    have hread := (template?_descriptor_eq_some_iff text t).mp h
    rw [declare, EStateM.run_bind, insert, hread]
    dsimp only
    rw [EStateM.run_bind, run_insertRegion]
    by_cases hmem : t.name ∈ c.places
    · simp [hmem]
    · simp [hmem, Declaration.answer]

theorem refused_iff_of_template (h : d.template? = some t) (names : List String) (e : Error) :
    Refused names d e ↔ t.name ∈ names ∧ e = .duplicateTemplate t.name := by
  constructor
  · intro hrefused
    cases hrefused with
    | unreadable hread =>
      rw [template?_descriptor_eq_some_iff, hread] at h
      cases h
    | otherShape hread hother =>
      rw [template?_descriptor_eq_some_iff, hread, Except.ok.injEq] at h
      exact absurd h (hother _ _)
    | repeated h' hmem =>
      rw [h'] at h
      cases h
      exact ⟨hmem, rfl⟩
  · rintro ⟨hmem, rfl⟩
    exact .repeated h hmem

/-- No text is refused as a second declaration before the names are asked for. -/
theorem refused_duplicate_iff (names : List String) (d : Declaration) (name : String) :
    Refused names d (.duplicateTemplate name) ↔
      (∃ region, d.template? = some ⟨name, region⟩) ∧ name ∈ names := by
  constructor
  · intro hrefused
    cases hrefused with
    | unreadable hread =>
      rcases Descriptor.malformed_or_grid_of_ofText hread with hmalformed | ⟨g, hgrid⟩
      · cases hmalformed
      · cases hgrid
    | @repeated _ t htemplate hmem => exact ⟨⟨t.region, htemplate⟩, hmem⟩
  · rintro ⟨⟨region, htemplate⟩, hmem⟩
    exact .repeated htemplate hmem

/-- What declares no template is refused, whatever is listed. -/
theorem run_declare_of_no_template (h : d.template? = none) (names : List String)
    (c : IndexedCatalog) : ∃ e, (declare d).run c = .error e c ∧
      ∀ e', Refused names d e' ↔ e' = e := by
  cases d with
  | region name region => cases h
  | descriptor text =>
    rw [declare, EStateM.run_bind, insert]
    cases hread : Descriptor.ofText text with
    | error e =>
      refine ⟨e, rfl, fun e' => ⟨?_, ?_⟩⟩
      · intro hrefused
        cases hrefused with
        | unreadable hread' =>
          rw [hread, Except.error.injEq] at hread'
          exact hread'.symm
        | otherShape hread' hother =>
          rw [hread] at hread'
          cases hread'
        | repeated h' hmem =>
          rw [h] at h'
          cases h'
      · rintro rfl
        exact .unreadable hread
    | ok descriptor =>
      have hother : ∀ name region, descriptor ≠ .template name region := by
        rintro name region rfl
        simp [Declaration.template?, hread] at h
      refine ⟨.malformedDescriptor text, ?_, fun e' => ⟨?_, ?_⟩⟩
      · cases descriptor with
        | value label path => rfl
        | form control name path => rfl
        | template name region => exact absurd rfl (hother name region)
      · intro hrefused
        cases hrefused with
        | unreadable hread' =>
          rw [hread] at hread'
          cases hread'
        | otherShape hread' hother => rfl
        | repeated h' hmem =>
          rw [h] at h'
          cases h'
      · rintro rfl
        exact .otherShape hread hother

/-! ## Places -/

theorem inStep_empty : empty.InStep := by
  intro name i
  simp [empty, names]

theorem InStep.mem_places_iff (h : c.InStep) (name : String) :
    name ∈ c.places ↔ name ∈ c.names := by
  rw [Std.HashMap.mem_iff_isSome_getElem?, Option.isSome_iff_exists, List.mem_iff_getElem?]
  exact exists_congr (h name)

/-- A name has one place, so it stands in the list once. -/
theorem InStep.nodup_names (h : c.InStep) : c.names.Nodup := by
  rw [List.Nodup, List.pairwise_iff_getElem]
  intro i j hi hj hij heq
  have hfirst := (h c.names[i] i).mpr (List.getElem?_eq_getElem hi)
  have hsecond := (h c.names[i] j).mpr (by rw [heq]; exact List.getElem?_eq_getElem hj)
  rw [hfirst, Option.some.injEq] at hsecond
  exact absurd hsecond (Nat.ne_of_lt hij)

/-- Both parts grow by the same name, whose place is the length before it. -/
theorem InStep.push (h : c.InStep) (hnew : t.name ∉ c.names) : (c.push t).InStep := by
  intro name i
  have hlength : c.names.length = c.templates.length := List.length_map Template.name
  have hnames : (c.push t).names = c.names ++ [t.name] := by simp [names, IndexedCatalog.push]
  rw [hnames, IndexedCatalog.push, Std.HashMap.getElem?_insert]
  by_cases hname : t.name = name
  · subst hname
    simp only [beq_self_eq_true, if_true, Option.some.injEq, ← hlength]
    constructor
    · rintro rfl
      exact List.getElem?_concat_length
    · intro hi
      rw [List.getElem?_append] at hi
      split at hi
      · exact absurd (List.mem_of_getElem? hi) hnew
      · have hlast := (List.getElem?_eq_some_iff.mp hi).1
        simp only [List.length_singleton] at hlast
        omega
  · rw [if_neg (by simpa using hname), h name i, List.getElem?_append]
    split
    · rfl
    · rename_i hi
      have hnone : c.names[i]? = none := List.getElem?_eq_none (Nat.le_of_not_lt hi)
      simp [hnone, List.getElem?_singleton, hname]

theorem InStep.any_name_eq (h : c.InStep) (name : String) :
    (c.listed.templates.any fun t => t.name == name) = decide (name ∈ c.places) := by
  rw [Bool.eq_iff_iff, decide_eq_true_iff, h.mem_places_iff, names, List.mem_map,
    List.any_eq_true]
  simp only [beq_iff_eq, listed]

/-! ## The catalog without the index -/

/-- An operation that changes nothing after another one only answers for it. -/
theorem outcome_bind_pure {α β : Type} (operation : InPlace α) (answer : α → β)
    (c : IndexedCatalog) :
    outcome ((operation >>= fun a => pure (answer a)).run c) =
      (outcome (operation.run c)).map fun result => (result.1, answer result.2) := by
  rw [EStateM.run_bind]
  cases operation.run c with
  | ok a c' => rfl
  | error e c' => rfl

theorem InStep.outcome_insertRegion (h : c.InStep) (name : String) (region : Region) :
    outcome ((insertRegion name region).run c) =
      (c.listed.insertRegion name region).map fun d => (d, ()) := by
  rw [run_insertRegion, Catalog.insertRegion, h.any_name_eq]
  by_cases hmem : name ∈ c.places
  · simp [hmem, outcome, Except.map]
  · simp [hmem, outcome, Except.map, listed, IndexedCatalog.push]

theorem InStep.outcome_insert (h : c.InStep) (text : String) :
    outcome ((insert text).run c) =
      (c.listed.insert text).map fun result => (result.1, result.2.region) := by
  rw [insert, Catalog.insert, Catalog.declarationOf]
  cases Descriptor.ofText text with
  | error e => rfl
  | ok descriptor =>
    cases descriptor with
    | value label path => rfl
    | form control name path => rfl
    | template name region =>
      dsimp only
      rw [outcome_bind_pure, h.outcome_insertRegion]
      cases c.listed.insertRegion name region with
      | ok c' => rfl
      | error e => rfl

theorem InStep.map_outcome_declare (h : c.InStep) (d : Declaration) :
    (outcome ((declare d).run c)).map Prod.fst = c.listed.declare d := by
  cases d with
  | region name region =>
    rw [declare, outcome_bind_pure, h.outcome_insertRegion, Catalog.declare]
    cases c.listed.insertRegion name region with
    | ok c' => rfl
    | error e => rfl
  | descriptor text =>
    rw [declare, outcome_bind_pure, h.outcome_insert, Catalog.declare]
    cases c.listed.insert text with
    | ok result => rfl
    | error e => rfl

/-! ## One declaration after the other -/

theorem run_declare_eq_error_iff (h : c.InStep) (d : Declaration) (e : Error)
    (c' : IndexedCatalog) :
    (declare d).run c = .error e c' ↔ Refused c.names d e ∧ c' = c := by
  cases htemplate : d.template? with
  | none =>
    obtain ⟨e', hrun, hrefused⟩ := run_declare_of_no_template htemplate c.names c
    rw [hrun, hrefused, EStateM.Result.error.injEq, eq_comm, eq_comm (a := c)]
  | some t =>
    rw [run_declare_of_template htemplate, refused_iff_of_template htemplate,
      ← h.mem_places_iff]
    by_cases hmem : t.name ∈ c.places
    · simp [hmem, eq_comm]
    · simp [hmem]

theorem run_declare_eq_ok_iff (h : c.InStep) (d : Declaration) (answer : Option Region)
    (c' : IndexedCatalog) :
    (declare d).run c = .ok answer c' ↔
      ∃ t, d.template? = some t ∧ t.name ∉ c.names ∧ answer = d.answer t ∧ c' = c.push t := by
  cases htemplate : d.template? with
  | none =>
    obtain ⟨e, hrun, -⟩ := run_declare_of_no_template htemplate c.names c
    simp [hrun]
  | some t =>
    rw [run_declare_of_template htemplate]
    simp only [← h.mem_places_iff]
    by_cases hmem : t.name ∈ c.places
    · simp [hmem]
    · simp [hmem, eq_comm]

/-- A declaration keeps the two parts in step, if it is refused because it changes neither. -/
theorem InStep.declare (h : c.InStep) (d : Declaration) :
    (leftBehind ((declare d).run c)).InStep := by
  cases hrun : (IndexedCatalog.declare d).run c with
  | ok answer c' =>
    obtain ⟨t, -, hnew, -, rfl⟩ := (run_declare_eq_ok_iff h d answer c').mp hrun
    exact h.push hnew
  | error e c' =>
    obtain ⟨-, rfl⟩ := (run_declare_eq_error_iff h d e c').mp hrun
    exact h

theorem InStep.afterAll (h : c.InStep) (ds : List Declaration) : (c.afterAll ds).InStep := by
  induction ds generalizing c with
  | nil => exact h
  | cons d ds ih => exact ih (h.declare d)

theorem InStep.listed_leftBehind (h : c.InStep) (d : Declaration) :
    (leftBehind ((IndexedCatalog.declare d).run c)).listed = c.listed.tryDeclare d := by
  rw [Catalog.tryDeclare, ← h.map_outcome_declare]
  cases hrun : (IndexedCatalog.declare d).run c with
  | ok answer c' => rfl
  | error e c' =>
    obtain ⟨-, rfl⟩ := (run_declare_eq_error_iff h d e c').mp hrun
    rfl

theorem InStep.listed_afterAll (h : c.InStep) (ds : List Declaration) :
    (c.afterAll ds).listed = c.listed.tryDeclareAll ds := by
  induction ds generalizing c with
  | nil => rfl
  | cons d ds ih =>
    have hrest := ih (h.declare d)
    rw [h.listed_leftBehind] at hrest
    exact hrest

theorem InStep.templates_afterAll (h : c.InStep) (ds : List Declaration) :
    (c.afterAll ds).templates = c.templates ++ c.taken ds := by
  induction ds generalizing c with
  | nil => exact (List.append_nil c.templates).symm
  | cons d ds ih =>
    have hrest := ih (h.declare d)
    have hall : c.afterAll (d :: ds) =
        (leftBehind ((IndexedCatalog.declare d).run c)).afterAll ds := rfl
    rw [hall, hrest, taken]
    cases hrun : (IndexedCatalog.declare d).run c with
    | ok answer c' =>
      obtain ⟨t, htemplate, -, -, rfl⟩ := (run_declare_eq_ok_iff h d answer c').mp hrun
      simp [htemplate, leftBehind, IndexedCatalog.push]
    | error e c' =>
      obtain ⟨-, rfl⟩ := (run_declare_eq_error_iff h d e c').mp hrun
      rfl

/-! ## Looking names up -/

/-- There is a template at every place, and at the place of a name is the one that has it. -/
theorem InStep.lookUp?_eq_some_some_iff (h : c.InStep) (name : String) (region : Region) :
    c.lookUp? name = some (some region) ↔ ⟨name, region⟩ ∈ c.templates := by
  unfold lookUp?
  constructor
  · intro hlook
    split at hlook
    · cases hlook
    · rename_i i hplace
      have hname := (h name i).mp hplace
      rw [names, List.getElem?_map] at hname
      obtain ⟨t, ht, rfl⟩ := Option.map_eq_some_iff.mp hname
      rw [ht] at hlook
      cases hlook
      exact List.mem_of_getElem? ht
  · intro hmem
    obtain ⟨i, hi⟩ := List.mem_iff_getElem?.mp hmem
    have hplace := (h name i).mpr (by rw [names, List.getElem?_map, hi]; rfl)
    rw [hplace]
    dsimp only
    rw [hi]
    rfl

theorem InStep.lookUp?_eq_some_none_iff (h : c.InStep) (name : String) :
    c.lookUp? name = some none ↔ name ∉ c.names := by
  rw [← h.mem_places_iff, Std.HashMap.mem_iff_isSome_getElem?, lookUp?]
  cases c.places[name]? with
  | none => simp
  | some i => simp

theorem InStep.lookUp?_eq (h : c.InStep) (hlisted : c.listed.Reachable) (name : String) :
    c.lookUp? name = some (c.listed.get? name) := by
  cases hget : c.listed.get? name with
  | some region =>
    rw [h.lookUp?_eq_some_some_iff]
    exact (hlisted.get?_eq_some_iff name region).mp hget
  | none =>
    rw [h.lookUp?_eq_some_none_iff]
    intro hmem
    obtain ⟨t, ht, rfl⟩ := List.mem_map.mp hmem
    rw [(hlisted.get?_eq_some_iff t.name t.region).mpr ht] at hget
    cases hget

/-- The other names are looked up at the places they had. -/
theorem InStep.lookUp?_push_of_ne (h : c.InStep) {other : String} (hne : other ≠ t.name) :
    (c.push t).lookUp? other = c.lookUp? other := by
  have hplace : (c.push t).places[other]? = c.places[other]? := by
    rw [IndexedCatalog.push, Std.HashMap.getElem?_insert, if_neg (by simpa using hne.symm)]
  rw [lookUp?, lookUp?, hplace]
  split
  · rfl
  · rename_i i hi
    have hname := (h other i).mp hi
    rw [names, List.getElem?_map] at hname
    obtain ⟨t', ht', -⟩ := Option.map_eq_some_iff.mp hname
    have hlt := (List.getElem?_eq_some_iff.mp ht').1
    rw [IndexedCatalog.push, List.getElem?_append_left hlt]

end IndexedCatalog

/-! ## The law -/

open IndexedCatalog

/-- After any declarations from none on, a catalog holds the templates of those that were taken in
their order, each name once. A name is looked up at its template, and no look-up goes wrong. A
declaration that is refused changes nothing, and it is refused as a second one exactly if its name
is listed; one that is taken adds its template, is answered with the region that is found from
then on, and leaves the other names as they were. The catalog without the index does the same. -/
theorem a_catalog_takes_each_name_once (ds : List Declaration) {c : IndexedCatalog}
    (h : c = IndexedCatalog.empty.afterAll ds) :
    (c.names.Nodup ∧ c.templates = IndexedCatalog.empty.taken ds) ∧
    (∀ name region, c.lookUp? name = some (some region) ↔ ⟨name, region⟩ ∈ c.templates) ∧
    (∀ name, c.lookUp? name = some none ↔ name ∉ c.names) ∧
    (∀ d e c', (declare d).run c = .error e c' ↔ Refused c.names d e ∧ c' = c) ∧
    (∀ d name c', (declare d).run c = .error (.duplicateTemplate name) c' ↔
      (∃ region, d.template? = some ⟨name, region⟩) ∧ name ∈ c.names ∧ c' = c) ∧
    (∀ d answer c', (declare d).run c = .ok answer c' ↔
      ∃ t, d.template? = some t ∧ t.name ∉ c.names ∧ answer = d.answer t ∧ c' = c.push t) ∧
    (∀ t, t.name ∉ c.names → (c.push t).templates = c.templates ++ [t] ∧
      (c.push t).lookUp? t.name = some (some t.region) ∧
      ∀ other ≠ t.name, (c.push t).lookUp? other = c.lookUp? other) ∧
    c.listed = Catalog.empty.tryDeclareAll ds ∧
    (∀ name, c.lookUp? name = some (c.listed.get? name)) ∧
    (∀ text, outcome ((insert text).run c) =
      (c.listed.insert text).map fun result => (result.1, result.2.region)) ∧
    ∀ name region, outcome ((insertRegion name region).run c) =
      (c.listed.insertRegion name region).map fun d => (d, ()) := by
  have hstep : c.InStep := by
    rw [h]
    exact inStep_empty.afterAll ds
  have hlisted : c.listed = Catalog.empty.tryDeclareAll ds := by
    rw [h]
    exact inStep_empty.listed_afterAll ds
  have htaken : c.templates = IndexedCatalog.empty.taken ds := by
    rw [h]
    exact inStep_empty.templates_afterAll ds
  refine ⟨⟨hstep.nodup_names, htaken⟩, hstep.lookUp?_eq_some_some_iff,
    hstep.lookUp?_eq_some_none_iff, run_declare_eq_error_iff hstep, ?_,
    run_declare_eq_ok_iff hstep, ?_, hlisted, hstep.lookUp?_eq ⟨ds, hlisted.symm⟩,
    hstep.outcome_insert, hstep.outcome_insertRegion⟩
  · intro d name c'
    rw [run_declare_eq_error_iff hstep, refused_duplicate_iff, and_assoc]
  · intro t hnew
    refine ⟨rfl, ?_, fun other hne => hstep.lookUp?_push_of_ne hne⟩
    rw [(hstep.push hnew).lookUp?_eq_some_some_iff]
    exact List.mem_append_right _ (List.mem_singleton_self t)

/-- Of two headers and a body the second header is refused, as a second body is after that. -/
theorem a_second_header_is_refused :
    ∃ c, c = IndexedCatalog.empty.afterAll [.descriptor "Template:Header:A1:C3",
      .descriptor "Value:Header:Name", .descriptor "Template:Header:E1:F3",
      .descriptor "Template:Body:A4:C10"] ∧
    c.names = ["Header", "Body"] ∧
    c.lookUp? "Header" = some (Region.ofReferences "A1" "C3").toOption ∧
    c.lookUp? "Sidebar" = some none ∧
    (declare (.descriptor "Template:Body:E1:F3")).run c = .error (.duplicateTemplate "Body") c := by
  refine ⟨_, rfl, ?_⟩
  generalize hc : IndexedCatalog.empty.afterAll _ = c
  obtain ⟨-, -, hnone, -, hduplicate, -, -, hlisted, hlook, -⟩ :=
    a_catalog_takes_each_name_once _ hc.symm
  have hnames : c.names = ["Header", "Body"] :=
    congrArg (fun listed => listed.templates.map Template.name) hlisted
  have hget : c.listed.get? "Header" = (Region.ofReferences "A1" "C3").toOption := by
    rw [hlisted]
    rfl
  refine ⟨hnames, (hlook "Header").trans (congrArg some hget), (hnone "Sidebar").mpr ?_, ?_⟩
  · simp [hnames]
  · exact (hduplicate _ "Body" c).mpr ⟨⟨_, rfl⟩, by simp [hnames], rfl⟩

end GridTemplate
