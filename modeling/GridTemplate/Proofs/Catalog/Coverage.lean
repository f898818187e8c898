-- The templates that cover a cell. They are known by their places in the order of declaration, and
-- two templates overlap if some cell is covered at both places. So templates that do not overlap
-- cover each cell at most once, and then a look-up at a cell has only one template to find.
import GridTemplate.Proofs.Catalog.Declarations
import GridTemplate.Proofs.Catalog.Overlaps

namespace GridTemplate

/-- The template at a place covers a cell. -/
def CoversAt (ts : List Template) (cell : Cell) (i : Nat) : Prop :=
  ∃ t, ts[i]? = some t ∧ t.region.contains cell = true

/-- The template at a place covers a cell, and none before it does. -/
structure FirstCovering (ts : List Template) (cell : Cell) (i : Nat) (t : Template) : Prop where
  place : ts[i]? = some t
  covers : t.region.contains cell = true
  first : ∀ j, CoversAt ts cell j → i ≤ j

/-- The places whose templates share cells, one pair for each overlap that is listed. -/
structure ListsOverlaps (ts : List Template) (overlaps : List (String × String))
    (places : List (Nat × Nat)) : Prop where
  names : List.Forall₂ (NamesAt ts) overlaps places
  shared : ∀ i j, (i, j) ∈ places ↔ SharesAt ts i j
  ordered : places.Pairwise PairBefore

theorem sharesAt_iff (ts : List Template) (i j : Nat) :
    SharesAt ts i j ↔ i < j ∧ ∃ cell, CoversAt ts cell i ∧ CoversAt ts cell j := by
  constructor
  · rintro ⟨hij, a, b, ha, hb, cell, hacell, hbcell⟩
    exact ⟨hij, cell, ⟨a, ha, hacell⟩, ⟨b, hb, hbcell⟩⟩
  · rintro ⟨hij, cell, ⟨a, ha, hacell⟩, ⟨b, hb, hbcell⟩⟩
    exact ⟨hij, a, b, ha, hb, cell, hacell, hbcell⟩

/-! ## Pairs of names -/

section Names

variable {ts : List Template} (h : (ts.map Template.name).Nodup)
include h

/-- If no two templates have the same name, a name stands at one place. -/
theorem place_eq_of_name_eq {i j : Nat} {a b : Template} (ha : ts[i]? = some a)
    (hb : ts[j]? = some b) (hname : a.name = b.name) : i = j := by
  have hi : i < (ts.map Template.name).length := by
    rw [List.length_map]
    exact (List.getElem?_eq_some_iff.mp ha).1
  rw [← List.getElem?_inj hi h, List.getElem?_map, List.getElem?_map, ha, hb, Option.map_some,
    Option.map_some, hname]

theorem biUnique_namesAt : Relator.BiUnique (NamesAt ts) := by
  constructor
  · rintro names p names' ⟨a, b, ha, hb, rfl⟩ ⟨a', b', ha', hb', rfl⟩
    rw [ha] at ha'
    rw [hb] at hb'
    cases ha'
    cases hb'
    rfl
  · rintro names ⟨i, j⟩ ⟨i', j'⟩ ⟨a, b, ha, hb, rfl⟩ ⟨a', b', ha', hb', heq⟩
    obtain ⟨hfirst, hsecond⟩ := Prod.mk.inj heq
    have hi : i = i' := place_eq_of_name_eq h ha ha' hfirst
    have hj : j = j' := place_eq_of_name_eq h hb hb' hsecond
    rw [hi, hj]

end Names

theorem PairBefore.ne {p q : Nat × Nat} (h : PairBefore p q) : p ≠ q := by
  rintro rfl
  unfold PairBefore at h
  omega

namespace Catalog

variable {c : Catalog} {cell : Cell}

theorem listsOverlaps (c : Catalog) :
    ListsOverlaps c.templates c.overlaps (sharedPlaces c.templates) :=
  ⟨forall₂_overlapsAmong c.templates, mem_sharedPlaces_iff c.templates,
    pairwise_sharedPlaces c.templates⟩

/-- No pair of names is listed twice. -/
theorem Reachable.nodup_overlaps (hc : c.Reachable) : c.overlaps.Nodup := by
  have hplaces : (sharedPlaces c.templates).Nodup :=
    (pairwise_sharedPlaces c.templates).imp PairBefore.ne
  exact (List.rel_nodup (biUnique_namesAt hc.nodup_names) c.listsOverlaps.names).mpr hplaces

/-! ## Cells -/

/-- There are no overlaps if no cell is covered at two places. -/
theorem overlaps_eq_nil_iff_coversAt (c : Catalog) :
    c.overlaps = [] ↔
      ∀ cell i j, CoversAt c.templates cell i → CoversAt c.templates cell j → i = j := by
  rw [overlaps_eq_nil_iff]
  constructor
  · intro h cell i j hi hj
    rcases Nat.lt_trichotomy i j with hlt | heq | hgt
    · exact absurd ((sharesAt_iff _ i j).mpr ⟨hlt, cell, hi, hj⟩) (h i j)
    · exact heq
    · exact absurd ((sharesAt_iff _ j i).mpr ⟨hgt, cell, hj, hi⟩) (h j i)
  · intro h i j hshares
    obtain ⟨hlt, cell, hi, hj⟩ := (sharesAt_iff _ i j).mp hshares
    exact absurd (h cell i j hi hj) (Nat.ne_of_lt hlt)

/-- A look-up finds the first template that covers the cell. -/
theorem findAt?_eq_some_iff (c : Catalog) (cell : Cell) (t : Template) :
    c.findAt? cell = some t ↔ ∃ i, FirstCovering c.templates cell i t := by
  unfold findAt?
  rw [List.find?_eq_some_iff_getElem]
  constructor
  · rintro ⟨hcovers, i, hi, hplace, hbefore⟩
    refine ⟨i, List.getElem?_eq_some_iff.mpr ⟨hi, hplace⟩, hcovers, ?_⟩
    rintro j ⟨u, hu, hucovers⟩
    apply Nat.le_of_not_lt
    intro hji
    obtain ⟨hj, rfl⟩ := List.getElem?_eq_some_iff.mp hu
    have hnot := hbefore j hji
    rw [hucovers] at hnot
    cases hnot
  · rintro ⟨i, hplace, hcovers, hfirst⟩
    obtain ⟨hi, heq⟩ := List.getElem?_eq_some_iff.mp hplace
    refine ⟨hcovers, i, hi, heq, ?_⟩
    intro j hji
    rw [Bool.not_eq_true']
    apply Bool.eq_false_iff.mpr
    intro hucovers
    have hle := hfirst j ⟨_, List.getElem?_eq_getElem (Nat.lt_trans hji hi), hucovers⟩
    exact Nat.not_lt_of_le hle hji

theorem findAt?_eq_none_iff (c : Catalog) (cell : Cell) :
    c.findAt? cell = none ↔ ∀ i, ¬ CoversAt c.templates cell i := by
  unfold findAt? CoversAt
  rw [List.find?_eq_none]
  constructor
  · rintro h i ⟨t, ht, hcovers⟩
    exact h t (List.mem_of_getElem? ht) hcovers
  · intro h t ht hcovers
    obtain ⟨i, hi⟩ := List.getElem?_of_mem ht
    exact h i ⟨t, hi, hcovers⟩

theorem findAt?_of_overlaps_eq_nil (h : c.overlaps = []) {t : Template} {i : Nat}
    (ht : c.templates[i]? = some t) (hcovers : t.region.contains cell = true) :
    c.findAt? cell = some t := by
  rw [findAt?_eq_some_iff]
  refine ⟨i, ht, hcovers, ?_⟩
  intro j hj
  exact Nat.le_of_eq ((overlaps_eq_nil_iff_coversAt c).mp h cell i j ⟨t, ht, hcovers⟩ hj)

end Catalog

end GridTemplate
