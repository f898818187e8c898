-- Regions as sets of cells. The test of the coordinates asks whether some cell lies in both regions.
import GridTemplate.Region.Overlap

namespace GridTemplate.Region

/-- Some cell belongs to both regions. -/
def Shares (a b : Region) : Prop := ∃ c : Cell, a.contains c = true ∧ b.contains c = true

/-- The inner upper left corner lies in both regions, and any cell in both keeps them from lying
above or left of each other. -/
theorem intersects_iff_shares (a b : Region) : a.intersects b = true ↔ a.Shares b := by
  constructor
  · intro h
    have hrows := innerRows_le h
    have hcolumns := innerColumns_le h
    refine ⟨innerUpperLeft a b, ?_, ?_⟩
    · rw [contains_iff]
      simp only [innerUpperLeft, innerLowerRight] at hrows hcolumns ⊢
      omega
    · rw [contains_iff]
      simp only [innerUpperLeft, innerLowerRight] at hrows hcolumns ⊢
      omega
  · rintro ⟨c, ha, hb⟩
    rw [contains_iff] at ha hb
    rw [intersects_iff]
    omega

end GridTemplate.Region
