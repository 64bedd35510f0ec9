import Genkan.Foundations.Lists
import Genkan.SessionLock.Repaint

/-! # The cached overlay draws what direct filtering draws

A surface keeps the overlay scaled to its target, and a redraw reads that copy instead of filtering the
overlay again.  Every pixel of the copy is the filtered pixel, except that an overlay of the target size
is copied as it is, where the filter clears the colour of transparent pixels; those are not blended.
-/

namespace Genkan.SessionLock

open Foundations

/-! ## Sampling a scaled overlay -/

theorem coordinate_filteredAxis {source target position : Nat} (inside : position < target) :
    coordinate (filteredAxis source target) position =
      if source ≤ target then magnifiedSamples source target position
      else minifiedSamples source target position := by
  simp [coordinate, filteredAxis, List.getD_eq_getElem?_getD, inside]

/-- At an unchanged size a position takes its own pixel with the whole weight. -/
theorem magnifiedSamples_same {size position : Nat} (inside : position < size) (small : size < 2 ^ 30) :
    magnifiedSamples size size position = [{ index := position, weight := filterScale }] := by
  have product : (position * 2 + 1) * size < 2 ^ 31 * 2 ^ 30 :=
    Nat.mul_lt_mul'' (by omega) small
  have centered : saturatingMul64 (position * 2 + 1) size - size = position * (size * 2) := by
    rw [saturatingMul64, Nat.min_eq_left (by omega), Nat.add_mul, Nat.one_mul, Nat.add_sub_cancel,
      Nat.mul_assoc, Nat.mul_comm 2 size]
  have quotient : position * (size * 2) / (size * 2) = position := Nat.mul_div_cancel _ (by omega)
  have remainder : position * (size * 2) % (size * 2) = 0 := Nat.mul_mod_left _ _
  have lower : min position (size - 1) = position := by omega
  simp [magnifiedSamples, centered, quotient, remainder, lower]

theorem length_rgbaRow (pixel : Nat → Rgba) (width : Nat) :
    ((List.range width).flatMap fun x => rgbaBytes (pixel x)).length = width * 4 := by
  have bytes : ∀ x ∈ List.range width, (rgbaBytes (pixel x)).length = 4 := fun _ _ => rfl
  rw [Lists.length_flatMap_chunk bytes, List.length_range]

/-- A pixel of an image built row by row is read back from its offset. -/
theorem overlayAt_rows (pointer : Nat) (pixel : Nat → Nat → Rgba) {width height x y : Nat}
    (column : x < width) (row : y < height) :
    overlayAt
      { width, height
        pixels := {
          pointer
          data := (List.range height).flatMap fun y =>
            (List.range width).flatMap fun x => rgbaBytes (pixel x y) } } x y = pixel x y := by
  have byte : ∀ channel, channel < 4 →
      ((List.range height).flatMap fun y =>
        (List.range width).flatMap fun x => rgbaBytes (pixel x y))[(y * width + x) * 4 + channel]? =
        (rgbaBytes (pixel x y))[channel]? := by
    intro channel small
    have inRow : x * 4 + channel < width * 4 := by omega
    have bytes : ∀ x ∈ List.range width, (rgbaBytes (pixel x y)).length = 4 := fun _ _ => rfl
    have position : (y * width + x) * 4 + channel = y * (width * 4) + (x * 4 + channel) := by
      rw [Nat.add_mul, Nat.mul_assoc, Nat.add_assoc]
    rw [position, Lists.getElem?_flatMap_chunk (fun _ _ => length_rgbaRow _ width)
      (List.getElem?_range row) inRow,
      Lists.getElem?_flatMap_chunk bytes (List.getElem?_range column) small]
  have first := byte 0 (by decide)
  rw [Nat.add_zero] at first
  simp only [overlayAt, List.getD_eq_getElem?_getD, first, byte 1 (by decide), byte 2 (by decide),
    byte 3 (by decide)]
  rfl

/-! ## The overlay of the target size -/

/-- Filtering with one sample of the whole weight returns the pixel, or one that is not blended. -/
theorem filteredPixel_single (frame : RgbaFrame) (x y : Nat) :
    filteredPixel frame [{ index := x, weight := filterScale }] [{ index := y, weight := filterScale }] =
      if (overlayAt frame x y).2.2.2 = 0 then (0, 0, 0, 0) else overlayAt frame x y := by
  have total : filterScale * filterScale = 2 ^ 32 := rfl
  simp only [filteredPixel, accumulate, List.foldl_cons, List.foldl_nil, Nat.zero_add, Nat.add_zero, total]
  split
  next weightless =>
    have clear : (overlayAt frame x y).2.2.2 = 0 := by
      apply UInt8.toNat_inj.mp
      exact (Nat.mul_eq_zero.mp weightless).resolve_right (by decide)
    rw [if_pos clear]
  next weighted =>
    have visible : ¬ (overlayAt frame x y).2.2.2 = 0 := by
      intro clear
      apply weighted
      rw [show frame.pixels.data.getD ((y * frame.width + x) * 4 + 3) 0 = 0 from clear]
      rfl
    have channel : ∀ value alpha : UInt8, alpha.toNat * 2 ^ 32 ≠ 0 →
        (value.toNat * alpha.toNat * 2 ^ 32 / (alpha.toNat * 2 ^ 32)).toUInt8 = value := by
      intro value alpha positive
      rw [Nat.mul_assoc, Nat.mul_div_cancel _ (Nat.pos_of_ne_zero positive)]
      simp
    have opacity : ∀ alpha : UInt8, ((alpha.toNat * 2 ^ 32 + 2 ^ 32 / 2) / 2 ^ 32).toUInt8 = alpha := by
      intro alpha
      rw [show (alpha.toNat * 2 ^ 32 + 2 ^ 32 / 2) / 2 ^ 32 = alpha.toNat by omega]
      simp
    rw [if_neg visible, channel _ _ weighted, channel _ _ weighted, channel _ _ weighted, opacity]
    rfl

/-- A cached sample and a filtered one give the same colour over the background. -/
theorem overlayColour_cached (sampler : BackgroundSampler) (frame : PresentationFrame) {target : Region}
    {x y : Nat} (inside : target.Contains x y) :
    overlayColour sampler
        (overlaySample frame target
          (some (scaleOverlay frame.overlay target.width target.height)) x y) x y =
      overlayColour sampler (overlaySample frame target none x y) x y := by
  obtain ⟨columns, rows⟩ := inside
  have column : x - target.x < target.width := by omega
  have row : y - target.y < target.height := by omega
  simp only [overlaySample, scaleOverlay]
  split
  next same =>
    simp only [RgbaFrame.dimensions, Prod.mk.injEq] at same
    have inFrame : x - target.x < frame.overlay.width ∧ y - target.y < frame.overlay.height :=
      ⟨same.1 ▸ column, same.2 ▸ row⟩
    rw [← same.1, ← same.2, coordinate_filteredAxis inFrame.1, coordinate_filteredAxis inFrame.2,
      if_pos (Nat.le_refl _), if_pos (Nat.le_refl _),
      magnifiedSamples_same inFrame.1 frame.overlay_valid.width_lt,
      magnifiedSamples_same inFrame.2 frame.overlay_valid.height_lt, filteredPixel_single]
    split
    next clear => simp [overlayColour, clear]
    next => rfl
  next => rw [overlayAt_rows _ (fun x y => filteredPixel frame.overlay
      (coordinate (filteredAxis frame.overlay.width target.width) x)
      (coordinate (filteredAxis frame.overlay.height target.height) y)) column row]

/-! ## Drawing -/

/-- The scaled overlay of a surface is a frame that the constructor accepts. -/
theorem scaleOverlay_valid {frame : RgbaFrame} (valid : frame.Valid) {width height : Nat}
    (positive : 0 < width ∧ 0 < height) (drawable : Drawable (width, height)) :
    (scaleOverlay frame width height).Valid := by
  simp only [scaleOverlay]
  split
  next => exact valid
  next =>
    have area : width * height ≤ maxSurfaceDimension * maxSurfaceDimension :=
      Nat.mul_le_mul drawable.1 drawable.2
    simp only [maxSurfaceDimension] at area
    refine ⟨positive.1, positive.2, ?_⟩
    simp only [Lists.length_flatMap_chunk fun _ _ => length_rgbaRow _ width, List.length_range]
    rw [RgbaFrame.expectedBytes, checkedMul32, if_pos (by simp only [u32Limit]; omega), Option.bind_some,
      checkedMul32, if_pos (by simp only [u32Limit]; omega), Nat.mul_comm height, Nat.mul_assoc,
      Nat.mul_assoc, Nat.mul_comm 4]

/-- Drawing a region with the overlay scaled beforehand gives the bytes of drawing it with filtering on
the way; on every surface the lock accepts, the overlay can be scaled. -/
theorem cached_drawing_eq_direct (target : Canvas) (width height : Nat) (frame : Option PresentationFrame)
    (region : Region) :
    drawOpaqueRegionCached target width height frame (freshOverlay frame true (width, height)) true region =
        drawOpaqueRegionCached target width height frame none true region ∧
      (Drawable (width, height) →
        ∀ overlay ∈ freshOverlay frame true (width, height), overlay.Valid) := by
  cases frame with
  | none => exact ⟨rfl, fun _ overlay member => by simp [freshOverlay] at member⟩
  | some shown =>
    cases placed : overlayGeometry shown width height with
    | none => simp [drawOpaqueRegionCached, freshOverlay, placed]
    | some geometry =>
      have fresh : freshOverlay (some shown) true (width, height) =
          some (scaleOverlay shown.overlay geometry.target.width geometry.target.height) := by
        simp [freshOverlay, placed]
      rw [fresh]
      constructor
      · simp only [drawOpaqueRegionCached, Option.filter_some, if_true, Option.bind_some, placed]
        split
        next => rfl
        next part meets =>
          obtain ⟨columns, rows⟩ := intersect_inside meets
          apply Raster.paint_congr
          intro x column y row
          apply overlayColour_cached
          rw [mem_halfOpen] at column row
          simp only [Region.Contains]
          omega
      · intro drawable overlay member
        obtain rfl := Option.some.inj member
        obtain ⟨columns, rows⟩ := overlayGeometry_within placed
        exact scaleOverlay_valid shown.overlay_valid (overlayGeometry_positive placed)
          ⟨Nat.le_trans (by omega) drawable.1, Nat.le_trans (by omega) drawable.2⟩

end Genkan.SessionLock
