import Genkan.DynamicWallpaper.Frames
import Genkan.SessionLock.Cover
import Genkan.SessionLock.Session

/-! # The desktop draws the wallpaper as the lock does

The desktop wallpaper scales its frame in one loop of its own, the session lock with a sampler that
prepares the columns.  On every surface both write the same pixels, whatever was in the buffer.
-/

namespace Genkan.DesktopWallpaper

open Foundations DynamicWallpaper
open SessionLock (Argb Canvas)

def fallbackRgb : UInt8 × UInt8 × UInt8 := (5, 9, 24)

/-- The scaled size of the frame and what is cropped of it, as `render_cover_argb` computes them. -/
structure Cover where
  scaledWidth : Nat
  scaledHeight : Nat
  cropX : Nat
  cropY : Nat
  deriving DecidableEq, Repr

namespace Cover

def new (frame : RgbaFrame) (width height : Nat) : Cover :=
  let (scaledWidth, scaledHeight) :=
    if frame.width * height > width * frame.height then
      (frame.width * height / frame.height, height)
    else (width, frame.height * width / frame.width)
  { scaledWidth
    scaledHeight
    cropX := (scaledWidth - width) / 2
    cropY := (scaledHeight - height) / 2 }

def sourceX (cover : Cover) (frame : RgbaFrame) (x : Nat) : Nat :=
  min ((x + cover.cropX) * frame.width / cover.scaledWidth) (frame.width - 1)

def sourceY (cover : Cover) (frame : RgbaFrame) (y : Nat) : Nat :=
  min ((y + cover.cropY) * frame.height / cover.scaledHeight) (frame.height - 1)

end Cover

def coverPixel (frame : RgbaFrame) (width height x y : Nat) : Argb :=
  let cover := Cover.new frame width height
  let source := (cover.sourceY frame y * frame.width + cover.sourceX frame x) * 4
  { blue := frame.pixels.getD (source + 2) 0
    green := frame.pixels.getD (source + 1) 0
    red := frame.pixels.getD source 0
    alpha := 255 }

def renderCoverArgb (target : Canvas) (width height : Nat) (frame : Option RgbaFrame) : Canvas :=
  match frame with
  | none =>
    target.map fun _ =>
      { blue := fallbackRgb.2.2, green := fallbackRgb.2.1, red := fallbackRgb.1, alpha := 255 }
  | some frame =>
    Raster.paint width (fun x y => some (coverPixel frame width height x y)) (List.range width)
      (List.range height) target

/-! ## One geometry -/

theorem Cover.covers {frame : RgbaFrame} (positive : 0 < frame.width ∧ 0 < frame.height)
    (width height : Nat) :
    width ≤ (Cover.new frame width height).scaledWidth ∧
      height ≤ (Cover.new frame width height).scaledHeight := by
  simp only [Cover.new]
  split
  next wider => exact ⟨(Nat.le_div_iff_mul_le positive.2).mpr (Nat.le_of_lt wider), Nat.le_refl _⟩
  next taller =>
    refine ⟨Nat.le_refl _, (Nat.le_div_iff_mul_le positive.1).mpr ?_⟩
    rw [Nat.mul_comm height, Nat.mul_comm frame.height]
    exact Nat.le_of_not_lt taller

/-- On a surface with pixels the lock computes the same geometry. -/
theorem coverGeometry_eq_cover {frame : RgbaFrame} (positive : 0 < frame.width ∧ 0 < frame.height)
    {width height : Nat} (surface : 0 < width ∧ 0 < height) :
    SessionLock.coverGeometry frame.width frame.height width height =
      some
        { cropX := (Cover.new frame width height).cropX
          cropY := (Cover.new frame width height).cropY
          scaledWidth := (Cover.new frame width height).scaledWidth
          scaledHeight := (Cover.new frame width height).scaledHeight } := by
  have nonempty : ¬ (frame.width = 0 ∨ frame.height = 0 ∨ width = 0 ∨ height = 0) := by omega
  rw [SessionLock.coverGeometry, if_neg nonempty]
  rfl

/-! ## One drawing -/

/-- The frame holds the same image, in the buffer type of the other renderer. -/
def HoldsImage (frame : RgbaFrame) (image : SessionLock.RgbaFrame) : Prop :=
  frame.width = image.width ∧ frame.height = image.height ∧ frame.pixels = image.pixels.data

theorem backgroundColour_eq_coverPixel {frame : RgbaFrame} {image : SessionLock.RgbaFrame}
    (valid : image.Valid) (same : HoldsImage frame image) {width height x y : Nat} (column : x < width)
    (row : y < height) :
    SessionLock.backgroundColour (.new (some image) width height) false x y =
      coverPixel frame width height x y := by
  obtain ⟨frameWidth, frameHeight, framePixels⟩ := same
  have positive : 0 < frame.width ∧ 0 < frame.height := ⟨frameWidth ▸ valid.1, frameHeight ▸ valid.2.1⟩
  have geometry := coverGeometry_eq_cover positive (show 0 < width ∧ 0 < height by omega)
  simp only [SessionLock.backgroundColour, SessionLock.BackgroundSampler.new, ← frameWidth, ← frameHeight,
    geometry, SessionLock.BackgroundSampler.sourceRow, SessionLock.BackgroundSampler.pixel,
    Option.map_some, ← framePixels, List.getD_eq_getElem?_getD, List.getElem?_map,
    List.getElem?_range column, Option.getD_some, SessionLock.sourceCoordinate, Bool.false_eq_true,
    if_false, coverPixel, Cover.sourceX, Cover.sourceY, Nat.add_mul]

theorem halfOpen_whole {size : Nat} (bound : size < SessionLock.u32Limit) :
    SessionLock.halfOpen 0 (min (SessionLock.saturatingAdd32 0 size) size) = List.range size := by
  have whole : min (SessionLock.saturatingAdd32 0 size) size = size := by
    simp only [SessionLock.saturatingAdd32]
    omega
  rw [whole, SessionLock.halfOpen, Nat.sub_zero, List.range_eq_range']

/-- Drawing the wallpaper of a lock surface without the authentication role and rendering the same frame
on the desktop give the same pixels; the samples lie inside the frame, which covers the surface. -/
theorem renderers_agree {width height : Nat}
    (surface : width < SessionLock.u32Limit ∧ height < SessionLock.u32Limit) {target : Canvas}
    (length : target.length = width * height) {image : Option SessionLock.RgbaFrame}
    (valid : ∀ background ∈ image, background.Valid) {shown : Option SessionLock.PresentationFrame}
    (shows : shown.bind (·.background) = image) {frame : Option RgbaFrame}
    (same : Option.Rel HoldsImage frame image) (scaledOverlay : Option SessionLock.RgbaFrame) :
    SessionLock.drawOpaqueCached target width height shown scaledOverlay false =
        renderCoverArgb target width height frame ∧
      (∀ wallpaper ∈ frame,
        (width ≤ (Cover.new wallpaper width height).scaledWidth ∧
          height ≤ (Cover.new wallpaper width height).scaledHeight) ∧
        ∀ x y, (Cover.new wallpaper width height).sourceX wallpaper x < wallpaper.width ∧
          (Cover.new wallpaper width height).sourceY wallpaper y < wallpaper.height) ∧
      ∀ background ∈ image, ∀ geometry ∈
        SessionLock.coverGeometry background.width background.height width height,
        (width ≤ geometry.scaledWidth ∧ height ≤ geometry.scaledHeight) ∧
        ∀ x y,
          SessionLock.sourceCoordinate x geometry.cropX geometry.scaledWidth background.width <
            background.width ∧
          SessionLock.sourceCoordinate y geometry.cropY geometry.scaledHeight background.height <
            background.height := by
  have hidden : shown.filter (fun _ => false) = none := by cases shown <;> rfl
  have drawing : SessionLock.drawOpaqueCached target width height shown scaledOverlay false =
      Raster.paint width
        (fun x y => some (SessionLock.backgroundColour (.new image width height) false x y))
        (List.range width) (List.range height) target := by
    simp only [SessionLock.drawOpaqueCached, SessionLock.drawOpaqueRegionCached, SessionLock.Region.full,
      halfOpen_whole surface.1, halfOpen_whole surface.2, hidden, shows]
  rw [drawing]
  cases same with
  | none =>
    refine ⟨?_, fun wallpaper member => by contradiction, fun background member => by contradiction⟩
    have inside : ∀ x ∈ List.range width, x < width := fun x member => List.mem_range.mp member
    apply Raster.ext width height (by simp [length]) (by simp [renderCoverArgb, length])
    intro x y column row
    rw [Raster.getElem?_paint inside _ column,
      if_pos ⟨List.mem_range.mpr row, List.mem_range.mpr column⟩, renderCoverArgb, List.getElem?_map]
    rfl
  | some same =>
    rename_i wallpaper background
    have isValid := valid background rfl
    have positive : 0 < wallpaper.width ∧ 0 < wallpaper.height :=
      ⟨same.1 ▸ isValid.1, same.2.1 ▸ isValid.2.1⟩
    refine ⟨?_, ?_, ?_⟩
    · apply Raster.paint_congr
      intro x column y row
      rw [backgroundColour_eq_coverPixel isValid same (List.mem_range.mp column) (List.mem_range.mp row)]
    · rintro other ⟨⟩
      refine ⟨Cover.covers positive width height, fun x y => ?_⟩
      simp only [Cover.sourceX, Cover.sourceY]
      omega
    · rintro other ⟨⟩ geometry isGeometry
      have covers := SessionLock.coverGeometry_some isGeometry
      exact ⟨⟨covers.width_le, covers.height_le⟩, fun _ _ =>
        ⟨SessionLock.sourceCoordinate_lt isValid.1 _ _ _, SessionLock.sourceCoordinate_lt isValid.2.1 _ _ _⟩⟩

/-- Two rows of four pixels, numbered from one. -/
def wideImage : SessionLock.RgbaFrame where
  width := 4
  height := 2
  pixels :=
    { pointer := 0
      data := [1, 10, 20, 255, 2, 20, 40, 255, 3, 30, 60, 255, 4, 40, 80, 255,
        5, 50, 100, 255, 6, 60, 120, 255, 7, 70, 140, 255, 8, 80, 160, 255] }

theorem wideImage_valid : wideImage.Valid := by decide

def wideFrame : RgbaFrame where
  width := 4
  height := 2
  pixels := wideImage.pixels.data
  capacity := 32

def widePresentation : SessionLock.PresentationFrame :=
  { SessionLock.sampleFrame 10 200 with
    background := some wideImage
    background_valid := by
      rintro background ⟨⟩
      exact wideImage_valid }

/-- Over a square surface the outer columns of the wallpaper are cut off. -/
theorem renderers_agree_sample :
    SessionLock.drawOpaqueCached (SessionLock.Surface.blankCanvas (2, 2)) 2 2 (some widePresentation) none
        false =
      renderCoverArgb (SessionLock.Surface.blankCanvas (2, 2)) 2 2 (some wideFrame) ∧
    renderCoverArgb (SessionLock.Surface.blankCanvas (2, 2)) 2 2 (some wideFrame) =
      [⟨40, 20, 2, 255⟩, ⟨60, 30, 3, 255⟩, ⟨120, 60, 6, 255⟩, ⟨140, 70, 7, 255⟩] := by
  have surface : 2 < SessionLock.u32Limit ∧ 2 < SessionLock.u32Limit := ⟨by decide, by decide⟩
  have length : (SessionLock.Surface.blankCanvas (2, 2)).length = 2 * 2 := by decide
  have same : Option.Rel HoldsImage (some wideFrame) (some wideImage) := .some ⟨rfl, rfl, rfl⟩
  constructor
  · refine (renderers_agree surface length ?_ rfl same none).1
    rintro background ⟨⟩
    exact wideImage_valid
  · decide +kernel

end Genkan.DesktopWallpaper
