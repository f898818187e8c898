-- Catalogs with the same templates in another order. The overlaps are the same pairs, though the
-- other template may come first in them. A name has the same region, and if no templates overlap, a
-- look-up at a cell finds the same template, since it has only one to find.
import GridTemplate.Proofs.Catalog.Coverage
import Mathlib.Data.Sym.Sym2

namespace GridTemplate

theorem Region.intersects_comm (a b : Region) : a.intersects b = b.intersects a := by
  rw [Bool.eq_iff_iff, intersects_iff_shares, intersects_iff_shares]
  exact exists_congr fun c => and_comm

namespace Catalog

/-- A pair of names, whichever of them comes first. -/
def unordered (names : String × String) : Sym2 String := s(names.1, names.2)

/-! ## Overlaps -/

theorem overlapsOf_cons (t other : Template) (rest : List Template) :
    overlapsOf t (other :: rest) =
      (if t.region.intersects other.region then [(t.name, other.name)] else []) ++
        overlapsOf t rest := by
  unfold overlapsOf
  rw [List.filter_cons]
  split
  · rfl
  · rfl

theorem perm_overlapsOf {ts us : List Template} (h : ts.Perm us) (t : Template) :
    (overlapsOf t ts).Perm (overlapsOf t us) := (h.filter _).map _

/-- Of two templates in a row either one may be declared first. -/
theorem perm_overlapsAmong_swap (t other : Template) (rest : List Template) :
    ((overlapsAmong (other :: t :: rest)).map unordered).Perm
      ((overlapsAmong (t :: other :: rest)).map unordered) := by
  have hpair :
      (if other.region.intersects t.region then [(other.name, t.name)] else []).map unordered =
      (if t.region.intersects other.region then [(t.name, other.name)] else []).map unordered := by
    rw [Region.intersects_comm other.region t.region]
    split
    · simp [unordered, Sym2.eq_swap]
    · rfl
  simp only [overlapsAmong, overlapsOf_cons, List.map_append, hpair, List.append_assoc]
  apply List.Perm.append_left
  rw [← List.append_assoc, ← List.append_assoc]
  exact List.perm_append_comm.append_right _

/-- The overlaps are the same pairs, each as often as before. -/
theorem perm_overlapsAmong {ts us : List Template} (h : ts.Perm us) :
    ((overlapsAmong ts).map unordered).Perm ((overlapsAmong us).map unordered) := by
  induction h with
  | nil => exact .refl _
  | cons t h ih =>
    rw [overlapsAmong, overlapsAmong, List.map_append, List.map_append]
    exact ((perm_overlapsOf h t).map _).append ih
  | swap t other rest => exact perm_overlapsAmong_swap t other rest
  | trans _ _ ih ih' => exact ih.trans ih'

variable {c d : Catalog}

theorem perm_overlaps (h : c.templates.Perm d.templates) :
    (c.overlaps.map unordered).Perm (d.overlaps.map unordered) := perm_overlapsAmong h

theorem overlaps_eq_nil_of_perm (h : c.templates.Perm d.templates) :
    c.overlaps = [] ↔ d.overlaps = [] := by
  have hoverlaps := perm_overlaps h
  constructor
  · intro hnil
    rw [hnil] at hoverlaps
    exact List.map_eq_nil_iff.mp (List.nil_perm.mp hoverlaps)
  · intro hnil
    rw [hnil] at hoverlaps
    exact List.map_eq_nil_iff.mp (List.perm_nil.mp hoverlaps)

/-! ## Look-ups -/

theorem Reachable.get?_eq_of_perm (hc : c.Reachable) (hd : d.Reachable)
    (h : c.templates.Perm d.templates) (name : String) : c.get? name = d.get? name := by
  apply Option.ext
  intro region
  rw [hc.get?_eq_some_iff, hd.get?_eq_some_iff, h.mem_iff]

theorem findAt?_eq_some_iff_of_overlaps_eq_nil (h : c.overlaps = []) (cell : Cell) (t : Template) :
    c.findAt? cell = some t ↔ t ∈ c.templates ∧ t.region.contains cell = true := by
  constructor
  · intro ht
    obtain ⟨i, hplace, hcovers, -⟩ := (c.findAt?_eq_some_iff cell t).mp ht
    exact ⟨List.mem_of_getElem? hplace, hcovers⟩
  · rintro ⟨ht, hcovers⟩
    obtain ⟨i, hi⟩ := List.getElem?_of_mem ht
    exact findAt?_of_overlaps_eq_nil h hi hcovers

/-- Without overlaps the order decides nothing. -/
theorem findAt?_eq_of_perm (h : c.templates.Perm d.templates) (hoverlaps : c.overlaps = [])
    (cell : Cell) : c.findAt? cell = d.findAt? cell := by
  apply Option.ext
  intro t
  rw [findAt?_eq_some_iff_of_overlaps_eq_nil hoverlaps,
    findAt?_eq_some_iff_of_overlaps_eq_nil ((overlaps_eq_nil_of_perm h).mp hoverlaps), h.mem_iff]

end Catalog

end GridTemplate
