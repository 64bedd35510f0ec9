import Genkan.SessionLock.Drawing

/-! # Cover scaling

The scaled image covers the surface on both axes and is not much larger than the products of their
sizes, and every sampled coordinate lies inside the image.
-/

namespace Genkan.SessionLock

/-- The scaled image is at least as large as the surface, and the crop is half of what stands over. -/
structure CoverGeometry.Covers (geometry : CoverGeometry)
    (sourceWidth sourceHeight width height : Nat) : Prop where
  width_le : width ≤ geometry.scaledWidth
  height_le : height ≤ geometry.scaledHeight
  scaledWidth_le : geometry.scaledWidth ≤ max width (sourceWidth * height)
  scaledHeight_le : geometry.scaledHeight ≤ max height (sourceHeight * width)
  cropX : geometry.cropX = (geometry.scaledWidth - width) / 2
  cropY : geometry.cropY = (geometry.scaledHeight - height) / 2

theorem coverGeometry_covers {sourceWidth sourceHeight width height : Nat}
    (source : 0 < sourceWidth ∧ 0 < sourceHeight) (surface : 0 < width ∧ 0 < height) :
    ∃ geometry, coverGeometry sourceWidth sourceHeight width height = some geometry ∧
      geometry.Covers sourceWidth sourceHeight width height := by
  have nonempty : ¬ (sourceWidth = 0 ∨ sourceHeight = 0 ∨ width = 0 ∨ height = 0) := by omega
  rw [coverGeometry, if_neg nonempty]
  split
  next scaledWidth scaledHeight scaled =>
    refine ⟨_, rfl, ?_⟩
    split at scaled
    next wider =>
      cases scaled
      refine ⟨?_, Nat.le_refl _, ?_, Nat.le_max_left _ _, rfl, rfl⟩
      · exact (Nat.le_div_iff_mul_le source.2).mpr (Nat.le_of_lt wider)
      · exact Nat.le_trans (Nat.div_le_self _ _) (Nat.le_max_right _ _)
    next taller =>
      cases scaled
      refine ⟨Nat.le_refl _, ?_, Nat.le_max_left _ _, ?_, rfl, rfl⟩
      · apply (Nat.le_div_iff_mul_le source.1).mpr
        rw [Nat.mul_comm height, Nat.mul_comm sourceHeight]
        exact Nat.le_of_not_lt taller
      · exact Nat.le_trans (Nat.div_le_self _ _) (Nat.le_max_right _ _)

/-- Without an image or a surface there is nothing to scale. -/
theorem coverGeometry_some {sourceWidth sourceHeight width height : Nat} {geometry : CoverGeometry}
    (covers : coverGeometry sourceWidth sourceHeight width height = some geometry) :
    geometry.Covers sourceWidth sourceHeight width height := by
  by_cases nonempty : (0 < sourceWidth ∧ 0 < sourceHeight) ∧ 0 < width ∧ 0 < height
  · obtain ⟨geometry', isGeometry, spec⟩ := coverGeometry_covers nonempty.1 nonempty.2
    obtain rfl := Option.some.inj (isGeometry.symm.trans covers)
    exact spec
  · rw [coverGeometry, if_pos (by omega)] at covers
    contradiction

theorem sourceCoordinate_lt {source : Nat} (positive : 0 < source) (position crop scaled : Nat) :
    sourceCoordinate position crop scaled source < source := by
  simp only [sourceCoordinate]
  omega

end Genkan.SessionLock
