-- The pairs of templates that share cells. They are listed by the places of their templates in the
-- order of declaration: by the place of the first one, and then by the place of the second.
import GridTemplate.Catalog
import GridTemplate.Proofs.Region.Cells
import Mathlib.Data.List.Forall2

namespace GridTemplate

/-- The templates at two places share cells, the first of them declared before the second. -/
def SharesAt (ts : List Template) (i j : Nat) : Prop :=
  i < j ∧ ∃ a b, ts[i]? = some a ∧ ts[j]? = some b ∧ a.region.Shares b.region

/-- A pair of places comes before another one. -/
def PairBefore (p q : Nat × Nat) : Prop := p.1 < q.1 ∨ p.1 = q.1 ∧ p.2 < q.2

/-- The places of the templates that share cells with one declared before all of them. -/
def placesSharing (t : Template) (rest : List Template) : List (Nat × Nat) :=
  ((rest.zipIdx 1).filter fun entry => t.region.intersects entry.1.region).map fun entry => (0, entry.2)

/-- The places of the templates that share cells. -/
def sharedPlaces : List Template → List (Nat × Nat)
  | [] => []
  | t :: rest => placesSharing t rest ++ (sharedPlaces rest).map fun p => (p.1 + 1, p.2 + 1)

/-- The names of the templates at a pair of places. -/
def NamesAt (ts : List Template) (names : String × String) (p : Nat × Nat) : Prop :=
  ∃ a b, ts[p.1]? = some a ∧ ts[p.2]? = some b ∧ names = (a.name, b.name)

theorem sharesAt_succ_iff (t : Template) (rest : List Template) (i j : Nat) :
    SharesAt (t :: rest) (i + 1) (j + 1) ↔ SharesAt rest i j := by
  simp [SharesAt]

theorem sharesAt_zero_iff (t : Template) (rest : List Template) (j : Nat) :
    SharesAt (t :: rest) 0 (j + 1) ↔ ∃ b, rest[j]? = some b ∧ t.region.Shares b.region := by
  simp [SharesAt]

theorem not_sharesAt_zero (ts : List Template) (i : Nat) : ¬ SharesAt ts i 0 :=
  fun h => absurd h.1 (Nat.not_lt_zero i)

/-! ## The places -/

theorem mem_placesSharing_iff (t : Template) (rest : List Template) (i j : Nat) :
    (i, j) ∈ placesSharing t rest ↔ i = 0 ∧ SharesAt (t :: rest) i j := by
  simp only [placesSharing, List.mem_map, List.mem_filter, Prod.exists, Prod.mk.injEq]
  constructor
  · rintro ⟨b, k, ⟨hmem, hintersects⟩, rfl, rfl⟩
    obtain ⟨hk, hb⟩ := List.mem_zipIdx_iff_le_and_getElem?_sub.mp hmem
    obtain ⟨k, rfl⟩ := Nat.exists_eq_add_of_le hk
    rw [Nat.add_sub_cancel_left] at hb
    refine ⟨rfl, ?_⟩
    rw [Nat.add_comm, sharesAt_zero_iff]
    exact ⟨b, hb, (Region.intersects_iff_shares _ _).mp hintersects⟩
  · rintro ⟨rfl, hshares⟩
    cases j with
    | zero => exact absurd hshares (not_sharesAt_zero _ 0)
    | succ j =>
      obtain ⟨b, hb, hregion⟩ := (sharesAt_zero_iff t rest j).mp hshares
      refine ⟨b, j + 1, ⟨?_, (Region.intersects_iff_shares _ _).mpr hregion⟩, rfl, rfl⟩
      exact List.mem_zipIdx_iff_le_and_getElem?_sub.mpr ⟨by omega, by simpa using hb⟩

/-- Exactly the places of templates that share cells are listed. -/
theorem mem_sharedPlaces_iff (ts : List Template) (i j : Nat) :
    (i, j) ∈ sharedPlaces ts ↔ SharesAt ts i j := by
  induction ts generalizing i j with
  | nil => simp [sharedPlaces, SharesAt]
  | cons t rest ih =>
    rw [sharedPlaces, List.mem_append, mem_placesSharing_iff, List.mem_map]
    simp only [Prod.exists, Prod.mk.injEq]
    constructor
    · rintro (⟨-, h⟩ | ⟨a, b, hmem, rfl, rfl⟩)
      · exact h
      · exact (sharesAt_succ_iff t rest a b).mpr ((ih a b).mp hmem)
    · intro h
      cases i with
      | zero => exact Or.inl ⟨rfl, h⟩
      | succ i =>
        cases j with
        | zero => exact absurd h (not_sharesAt_zero _ _)
        | succ j =>
          exact Or.inr ⟨i, j, (ih i j).mpr ((sharesAt_succ_iff t rest i j).mp h), rfl, rfl⟩

theorem pairwise_placesSharing (t : Template) (rest : List Template) :
    (placesSharing t rest).Pairwise PairBefore := by
  have hplaces : ((rest.zipIdx 1).map Prod.snd).Pairwise (· < ·) := by
    rw [List.zipIdx_map_snd]
    exact List.pairwise_lt_range'
  rw [placesSharing, List.pairwise_map]
  refine (List.Pairwise.imp ?_ (List.pairwise_map.mp hplaces)).filter _
  intro p q h
  exact Or.inr ⟨rfl, h⟩

/-- The places are listed in order, and so each pair once. -/
theorem pairwise_sharedPlaces (ts : List Template) : (sharedPlaces ts).Pairwise PairBefore := by
  induction ts with
  | nil => exact List.Pairwise.nil
  | cons t rest ih =>
    rw [sharedPlaces, List.pairwise_append]
    refine ⟨pairwise_placesSharing t rest, ?_, ?_⟩
    · rw [List.pairwise_map]
      apply ih.imp
      intro p q h
      simpa [PairBefore] using h
    · rintro ⟨i, j⟩ hfirst q hq
      obtain ⟨p, -, rfl⟩ := List.mem_map.mp hq
      obtain ⟨rfl, -⟩ := (mem_placesSharing_iff t rest i j).mp hfirst
      exact Or.inl (Nat.succ_pos p.1)

/-- The overlaps are the names of the templates at these places. -/
theorem forall₂_overlapsAmong (ts : List Template) :
    List.Forall₂ (NamesAt ts) (Catalog.overlapsAmong ts) (sharedPlaces ts) := by
  induction ts with
  | nil => exact List.Forall₂.nil
  | cons t rest ih =>
    rw [Catalog.overlapsAmong, sharedPlaces]
    apply List.rel_append
    · have hrest : rest.filter (fun other => t.region.intersects other.region) =
          ((rest.zipIdx 1).filter fun entry => t.region.intersects entry.1.region).map Prod.fst := by
        conv_lhs => rw [← List.zipIdx_map_fst 1 rest, List.filter_map]
        rfl
      rw [Catalog.overlapsOf, placesSharing, hrest, List.map_map, List.forall₂_map_left_iff,
        List.forall₂_map_right_iff, List.forall₂_same]
      rintro ⟨b, k⟩ hmem
      obtain ⟨hk, hb⟩ :=
        List.mem_zipIdx_iff_le_and_getElem?_sub.mp (List.mem_filter.mp hmem).1
      obtain ⟨k, rfl⟩ := Nat.exists_eq_add_of_le hk
      rw [Nat.add_sub_cancel_left] at hb
      exact ⟨t, b, rfl, by simpa [Nat.add_comm] using hb, rfl⟩
    · rw [List.forall₂_map_right_iff]
      apply ih.imp
      rintro names p ⟨a, b, ha, hb, rfl⟩
      exact ⟨a, b, by simpa using ha, by simpa using hb, rfl⟩

/-! ## The first pair -/

/-- The first two templates that share cells, and their places. -/
structure FirstShared (ts : List Template) (i j : Nat) (first second : Template) : Prop where
  first_eq : ts[i]? = some first
  second_eq : ts[j]? = some second
  shares : SharesAt ts i j
  least : ∀ i' j', SharesAt ts i' j' → (i, j) = (i', j') ∨ PairBefore (i, j) (i', j')

namespace Catalog

theorem overlaps_eq_nil_iff (c : Catalog) :
    c.overlaps = [] ↔ ∀ i j, ¬ SharesAt c.templates i j := by
  have hnames := forall₂_overlapsAmong c.templates
  unfold overlaps
  constructor
  · intro h i j hshares
    rw [h] at hnames
    have hmem := (mem_sharedPlaces_iff c.templates i j).mpr hshares
    rw [List.forall₂_nil_left_iff.mp hnames] at hmem
    cases hmem
  · intro h
    have hnil : sharedPlaces c.templates = [] := by
      rw [List.eq_nil_iff_forall_not_mem]
      rintro ⟨i, j⟩ hmem
      exact h i j ((mem_sharedPlaces_iff c.templates i j).mp hmem)
    rw [hnil] at hnames
    exact List.forall₂_nil_right_iff.mp hnames

theorem exists_firstShared {c : Catalog} {names : String × String} {rest : List (String × String)}
    (h : c.overlaps = names :: rest) :
    ∃ i j first second, FirstShared c.templates i j first second ∧
      names = (first.name, second.name) := by
  have hnames := forall₂_overlapsAmong c.templates
  rw [← overlaps, h, List.forall₂_cons_left_iff] at hnames
  obtain ⟨⟨i, j⟩, places, ⟨first, second, hfirst, hsecond, hpair⟩, -, hplaces⟩ := hnames
  have hordered := pairwise_sharedPlaces c.templates
  rw [hplaces, List.pairwise_cons] at hordered
  refine ⟨i, j, first, second, ⟨hfirst, hsecond, ?_, ?_⟩, hpair⟩
  · rw [← mem_sharedPlaces_iff, hplaces]
    exact List.mem_cons_self
  · intro i' j' hshares
    rw [← mem_sharedPlaces_iff, hplaces, List.mem_cons] at hshares
    rcases hshares with heq | hmem
    · exact Or.inl heq.symm
    · exact Or.inr (hordered.1 _ hmem)

end Catalog

end GridTemplate
