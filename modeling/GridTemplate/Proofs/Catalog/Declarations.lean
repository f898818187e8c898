-- The catalogs that declarations lead to. A declaration that is taken puts a template of a new name
-- at the end, and one that is refused changes nothing, so a name belongs to one template.
import GridTemplate.Catalog
import Mathlib.Data.List.Nodup

namespace GridTemplate

/-- How a template is declared: by a descriptor, or by its name and its region. -/
inductive Declaration
  | descriptor (text : String)
  | region (name : String) (region : Region)

namespace Catalog

/-- The catalog with a declared template. -/
def declare (c : Catalog) : Declaration → Except Error Catalog
  | .descriptor text => (c.insert text).map Prod.fst
  | .region name region => c.insertRegion name region

/-- The catalog after a declaration, whether it is taken or refused. -/
def tryDeclare (c : Catalog) (d : Declaration) : Catalog :=
  match c.declare d with
  | .ok c => c
  | .error _ => c

/-- The catalog after declarations, those that are refused included. -/
def tryDeclareAll (c : Catalog) (ds : List Declaration) : Catalog := ds.foldl tryDeclare c

/-- Declarations lead from one catalog to another. -/
def Reaches (c d : Catalog) : Prop := ∃ ds, c.tryDeclareAll ds = d

/-- Declarations lead to the catalog, from the one without templates. -/
def Reachable (c : Catalog) : Prop := empty.Reaches c

variable {c d e : Catalog}

theorem Reaches.refl (c : Catalog) : c.Reaches c := ⟨[], rfl⟩

theorem Reaches.trans (h : c.Reaches d) (hmore : d.Reaches e) : c.Reaches e := by
  obtain ⟨ds, rfl⟩ := h
  obtain ⟨more, rfl⟩ := hmore
  exact ⟨ds ++ more, List.foldl_append⟩

theorem Reaches.of_insertRegion {name : String} {region : Region}
    (h : c.insertRegion name region = .ok d) : c.Reaches d := by
  refine ⟨[.region name region], ?_⟩
  simp [tryDeclareAll, tryDeclare, declare, h]

/-! ## Names -/

theorem insert_eq_ok_iff (c d : Catalog) (text : String) (t : Template) :
    c.insert text = .ok (d, t) ↔
      declarationOf text = .ok t ∧ c.insertRegion t.name t.region = .ok d := by
  unfold insert
  cases declarationOf text with
  | error e => simp
  | ok u =>
    simp only [Except.ok.injEq]
    constructor
    · intro h
      split at h
      · cases h
      · rename_i d' hinsert
        cases h
        exact ⟨rfl, hinsert⟩
    · rintro ⟨rfl, hinsert⟩
      rw [hinsert]

/-- A declaration that is taken puts a template of a new name at the end. -/
theorem templates_of_declare {declaration : Declaration} (h : c.declare declaration = .ok d) :
    ∃ t, (∀ other ∈ c.templates, other.name ≠ t.name) ∧ d.templates = c.templates ++ [t] := by
  cases declaration with
  | region name region => exact ⟨⟨name, region⟩, (insertRegion_eq_ok_iff c d name region).mp h⟩
  | descriptor text =>
    rw [declare] at h
    cases hinsert : c.insert text with
    | error e => simp [hinsert, Except.map] at h
    | ok result =>
      obtain ⟨d', t⟩ := result
      obtain rfl : d' = d := by simpa [hinsert, Except.map] using h
      have htaken := ((insert_eq_ok_iff c d' text t).mp hinsert).2
      exact ⟨t, (insertRegion_eq_ok_iff c d' t.name t.region).mp htaken⟩

theorem nodup_names_tryDeclare (h : (c.templates.map Template.name).Nodup)
    (declaration : Declaration) :
    ((c.tryDeclare declaration).templates.map Template.name).Nodup := by
  unfold tryDeclare
  split
  · rename_i d hd
    obtain ⟨t, hnew, htemplates⟩ := templates_of_declare hd
    rw [htemplates, List.map_append, List.map_singleton, ← List.concat_eq_append]
    apply List.Nodup.concat _ h
    intro hname
    obtain ⟨other, hother, heq⟩ := List.mem_map.mp hname
    exact hnew other hother heq
  · exact h

theorem nodup_names_tryDeclareAll (h : (c.templates.map Template.name).Nodup)
    (ds : List Declaration) : ((c.tryDeclareAll ds).templates.map Template.name).Nodup := by
  induction ds generalizing c with
  | nil => exact h
  | cons declaration ds ih => exact ih (nodup_names_tryDeclare h declaration)

/-- No two templates of a catalog have the same name. -/
theorem Reachable.nodup_names (h : c.Reachable) : (c.templates.map Template.name).Nodup := by
  obtain ⟨ds, rfl⟩ := h
  have hempty : (empty.templates.map Template.name).Nodup := List.nodup_nil
  exact nodup_names_tryDeclareAll hempty ds

/-- A name stands for the one template that has it. -/
theorem Reachable.get?_eq_some_iff (hc : c.Reachable) (name : String) (region : Region) :
    c.get? name = some region ↔ ⟨name, region⟩ ∈ c.templates := by
  unfold get?
  rw [Option.map_eq_some_iff]
  constructor
  · rintro ⟨t, hfind, rfl⟩
    have hname := List.find?_some hfind
    rw [beq_iff_eq] at hname
    rw [← hname]
    exact List.mem_of_find?_eq_some hfind
  · intro hmem
    cases hfind : c.templates.find? fun t => t.name == name with
    | none => exact absurd (beq_self_eq_true name) (List.find?_eq_none.mp hfind _ hmem)
    | some t =>
      have hname := List.find?_some hfind
      rw [beq_iff_eq] at hname
      have ht : t = ⟨name, region⟩ :=
        List.inj_on_of_nodup_map hc.nodup_names (List.mem_of_find?_eq_some hfind) hmem hname
      exact ⟨t, rfl, by rw [ht]⟩

end Catalog

end GridTemplate
