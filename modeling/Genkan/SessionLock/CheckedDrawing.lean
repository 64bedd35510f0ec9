import Genkan.SessionLock.CheckedFilter
import Genkan.SessionLock.Repaint
import Genkan.SessionLock.Session

/-! # Drawing never panics and is opaque

The loops of the renderer with every operation that can panic.  On every surface the lock accepts they
return the plain drawing, whose pixels inside the region are opaque and outside of it are the old ones.
-/

namespace Genkan.SessionLock

open Foundations

/-! ## Writing a pixel -/

/-- A pixel is written through the slice of its four bytes. -/
def checkedWrite (target : Canvas) (width x y : Nat) (pixel : Argb) : Option Canvas := do
  let rowStart ← Checked.mul 64 y width
  let position ← Checked.add 64 rowStart x
  let offset ← Checked.mul 64 position 4
  let finish ← Checked.add 64 offset 4
  if finish ≤ target.length * 4 then pure (target.set position pixel) else none

/-- The canvas belongs to a surface of the given size, which a buffer can have. -/
structure FitsSurface (size : Nat × Nat) (target : Canvas) : Prop where
  drawable : Drawable size
  length : target.length = size.1 * size.2

theorem FitsSurface.area {size : Nat × Nat} {target : Canvas} (fits : FitsSurface size target) :
    size.1 * size.2 ≤ 2 ^ 28 :=
  calc size.1 * size.2 ≤ maxSurfaceDimension * maxSurfaceDimension :=
        Nat.mul_le_mul fits.drawable.1 fits.drawable.2
    _ = 2 ^ 28 := rfl

theorem FitsSurface.bounds {size : Nat × Nat} {target : Canvas} (fits : FitsSurface size target) :
    size.1 < 2 ^ 15 ∧ size.2 < 2 ^ 15 := by
  obtain ⟨columns, rows⟩ := fits.drawable
  simp only [maxSurfaceDimension] at columns rows
  omega

theorem FitsSurface.paintPixel {size : Nat × Nat} {target : Canvas} (fits : FitsSurface size target)
    (position : Nat) (colour : Option Argb) :
    FitsSurface size (Raster.paintPixel target position colour) :=
  ⟨fits.drawable, by rw [Raster.length_paintPixel, fits.length]⟩

theorem FitsSurface.paint {size : Nat × Nat} {target : Canvas} (fits : FitsSurface size target)
    (colour : Nat → Nat → Option Argb) (columns rows : List Nat) :
    FitsSurface size (Raster.paint size.1 colour columns rows target) :=
  ⟨fits.drawable, by rw [Raster.length_paint, fits.length]⟩

theorem checkedWrite_eq {size : Nat × Nat} {target : Canvas} (fits : FitsSurface size target) {x y : Nat}
    (column : x < size.1) (row : y < size.2) (pixel : Argb) :
    checkedWrite target size.1 x y pixel =
      some (Raster.paintPixel target (y * size.1 + x) (some pixel)) := by
  have area := fits.area
  have length := fits.length
  have position := Raster.position_lt column row
  simp only [checkedWrite, Option.bind_eq_bind]
  rw [Checked.mul_eq (by omega), Option.bind_some, Checked.add_eq (by omega), Option.bind_some,
    Checked.mul_eq (by omega), Option.bind_some, Checked.add_eq (by omega), Option.bind_some,
    if_pos (by omega)]
  rfl

/-! ## The passes -/

/-- Loops over rows and columns of the surface, where each turn offers a colour to its pixel. -/
theorem foldlM_paint {size : Nat × Nat} {columns rows : List Nat} {visitRow : Canvas → Nat → Option Canvas}
    (visit : Nat → Canvas → Nat → Option Canvas) {colour : Nat → Nat → Option Argb}
    (begins : ∀ y ∈ rows, ∀ target, visitRow target y = columns.foldlM (visit y) target)
    (visits : ∀ y ∈ rows, ∀ x ∈ columns, ∀ target, FitsSurface size target →
      visit y target x = some (Raster.paintPixel target (y * size.1 + x) (colour x y)))
    {target : Canvas} (fits : FitsSurface size target) :
    rows.foldlM visitRow target = some (Raster.paint size.1 colour columns rows target) := by
  refine (Checked.foldlM_eq (FitsSurface size) ?_ fits).1
  intro target y row fits
  rw [begins y row]
  refine Checked.foldlM_eq (FitsSurface size) ?_ fits
  intro target x column fits
  exact ⟨visits y row x column target fits, fits.paintPixel _ _⟩

def checkedBackgroundPass (background : BackgroundSampler) (authentication : Bool) (width : Nat)
    (columns rows : List Nat) (target : Canvas) : Option Canvas :=
  rows.foldlM (fun target y => do
    let sourceRow ← background.checkedSourceRow y
    columns.foldlM (fun target x => do
      let colour ← background.checkedColour sourceRow x
      let pixel ← checkedPixel authentication colour
      checkedWrite target width x y pixel) target) target

/-- Blending one overlay pixel; a transparent one is passed over. -/
def checkedBlendPixel (background : BackgroundSampler) (sourceRow : Option Nat) (width x y : Nat)
    (overlay : Rgba) (target : Canvas) : Option Canvas :=
  if overlay.2.2.2 = 0 then some target
  else do
    let colour ← background.checkedColour sourceRow x
    let blended ← checkedBlendRgb colour overlay
    let pixel ← checkedPixel true blended
    checkedWrite target width x y pixel

def checkedCachedPass (background : BackgroundSampler) (overlay : RgbaFrame) (place : Region) (width : Nat)
    (columns rows : List Nat) (target : Canvas) : Option Canvas :=
  rows.foldlM (fun target y => do
    let sourceRow ← background.checkedSourceRow y
    let overlayY ← Checked.sub y place.y
    columns.foldlM (fun target x => do
      let overlayX ← Checked.sub x place.x
      let sample ← checkedOverlayAt overlay overlayX overlayY
      checkedBlendPixel background sourceRow width x y sample target) target) target

def checkedDirectPass (background : BackgroundSampler) (overlay : RgbaFrame) (place : Region) (width : Nat)
    (columns rows : List Nat) (target : Canvas) : Option Canvas := do
  let horizontal ← checkedFilteredAxis overlay.width place.width
  let vertical ← checkedFilteredAxis overlay.height place.height
  rows.foldlM (fun target y => do
    let sourceRow ← background.checkedSourceRow y
    let overlayY ← Checked.sub y place.y
    let verticalSamples ← vertical.checkedCoordinate overlayY
    columns.foldlM (fun target x => do
      let overlayX ← Checked.sub x place.x
      let horizontalSamples ← horizontal.checkedCoordinate overlayX
      let sample ← checkedFilteredPixel overlay horizontalSamples verticalSamples
      checkedBlendPixel background sourceRow width x y sample target) target) target

/-! ## What the passes draw -/

section

variable {size : Nat × Nat} {background : BackgroundSampler} {columns rows : List Nat} {target : Canvas}

theorem checkedBackgroundPass_eq (samples : background.Samples size.1 size.2)
    (inColumns : ∀ x ∈ columns, x < size.1) (inRows : ∀ y ∈ rows, y < size.2) (authentication : Bool)
    (fits : FitsSurface size target) :
    checkedBackgroundPass background authentication size.1 columns rows target =
      some (Raster.paint size.1 (fun x y => some (backgroundColour background authentication x y)) columns
        rows target) := by
  have bounds := fits.bounds
  refine foldlM_paint (fun y target x => do
    let colour ← background.checkedColour (background.sourceRow y) x
    let pixel ← checkedPixel authentication colour
    checkedWrite target size.1 x y pixel) ?_ ?_ fits
  · intro y row target
    rw [BackgroundSampler.checkedSourceRow_eq samples ⟨by omega, by omega⟩ (inRows y row),
      Option.bind_eq_bind, Option.bind_some]
  · intro y row x column target fits
    simp only [BackgroundSampler.checkedColour_eq samples (inColumns x column), checkedPixel_eq,
      Option.bind_eq_bind, Option.bind_some, checkedWrite_eq fits (inColumns x column) (inRows y row)]
    cases authentication <;> rfl

theorem checkedBlendPixel_eq (samples : background.Samples size.1 size.2) {x y : Nat}
    (column : x < size.1) (row : y < size.2) (overlay : Rgba) (fits : FitsSurface size target) :
    checkedBlendPixel background (background.sourceRow y) size.1 x y overlay target =
      some (Raster.paintPixel target (y * size.1 + x) (overlayColour background overlay x y)) := by
  simp only [checkedBlendPixel, overlayColour]
  split
  next => rfl
  next =>
    simp only [BackgroundSampler.checkedColour_eq samples column, checkedBlendRgb_eq, checkedPixel_eq,
      Option.bind_eq_bind, Option.bind_some, checkedWrite_eq fits column row]
    rfl

/-- Positions of the surface under the place of the overlay. -/
structure Covered (size : Nat × Nat) (place : Region) (columns rows : List Nat) : Prop where
  place_within : place.Within size.1 size.2
  columns : ∀ x ∈ columns, place.x ≤ x ∧ x < place.x + place.width
  rows : ∀ y ∈ rows, place.y ≤ y ∧ y < place.y + place.height

theorem Covered.inside {place : Region} (covered : Covered size place columns rows) {x y : Nat}
    (column : x ∈ columns) (row : y ∈ rows) : x < size.1 ∧ y < size.2 := by
  have within := covered.place_within
  have atColumn := covered.columns x column
  have atRow := covered.rows y row
  simp only [Region.Within] at within
  omega

theorem checkedCachedPass_eq (samples : background.Samples size.1 size.2) {overlay : RgbaFrame}
    (valid : overlay.Valid) {place : Region} (sized : overlay.dimensions = (place.width, place.height))
    (covered : Covered size place columns rows) (frame : PresentationFrame)
    (fits : FitsSurface size target) :
    checkedCachedPass background overlay place size.1 columns rows target =
      some (Raster.paint size.1
        (fun x y => overlayColour background (overlaySample frame place (some overlay) x y) x y) columns
        rows target) := by
  simp only [RgbaFrame.dimensions, Prod.mk.injEq] at sized
  obtain ⟨widths, heights⟩ := sized
  have bounds := fits.bounds
  have rowsInside := covered.place_within.2
  refine foldlM_paint (fun y target x => do
    let overlayX ← Checked.sub x place.x
    let sample ← checkedOverlayAt overlay overlayX (y - place.y)
    checkedBlendPixel background (background.sourceRow y) size.1 x y sample target) ?_ ?_ fits
  · intro y row target
    obtain ⟨fromTop, toBottom⟩ := covered.rows y row
    rw [BackgroundSampler.checkedSourceRow_eq samples ⟨by omega, by omega⟩ (by omega),
      Option.bind_eq_bind, Option.bind_some, Checked.sub_eq fromTop, Option.bind_eq_bind, Option.bind_some]
  · intro y row x column target fits
    obtain ⟨fromTop, toBottom⟩ := covered.rows y row
    obtain ⟨fromLeft, toRight⟩ := covered.columns x column
    obtain ⟨inColumn, inRow⟩ := covered.inside column row
    simp only [Checked.sub_eq fromLeft, Option.bind_eq_bind, Option.bind_some,
      checkedOverlayAt_eq valid (show x - place.x < overlay.width by omega)
        (show y - place.y < overlay.height by omega), checkedBlendPixel_eq samples inColumn inRow _ fits]
    rfl

theorem checkedDirectPass_eq (samples : background.Samples size.1 size.2) (frame : PresentationFrame)
    {place : Region} (covered : Covered size place columns rows) (fits : FitsSurface size target) :
    checkedDirectPass background frame.overlay place size.1 columns rows target =
      some (Raster.paint size.1
        (fun x y => overlayColour background (overlaySample frame place none x y) x y) columns rows
        target) := by
  have bounds := fits.bounds
  have valid := frame.overlay_valid
  obtain ⟨columnsInside, rowsInside⟩ := covered.place_within
  obtain ⟨horizontal, isHorizontal, horizontalFinds⟩ :=
    checkedFilteredAxis_eq valid.1 valid.width_lt (show place.width < 2 ^ 15 by omega)
  obtain ⟨vertical, isVertical, verticalFinds⟩ :=
    checkedFilteredAxis_eq valid.2.1 valid.height_lt (show place.height < 2 ^ 15 by omega)
  simp only [checkedDirectPass, isHorizontal, isVertical, Option.bind_eq_bind, Option.bind_some]
  refine foldlM_paint (fun y target x => do
    let overlayX ← Checked.sub x place.x
    let horizontalSamples ← horizontal.checkedCoordinate overlayX
    let sample ← checkedFilteredPixel frame.overlay horizontalSamples
      (coordinate (filteredAxis frame.overlay.height place.height) (y - place.y))
    checkedBlendPixel background (background.sourceRow y) size.1 x y sample target) ?_ ?_ fits
  · intro y row target
    obtain ⟨fromTop, toBottom⟩ := covered.rows y row
    rw [BackgroundSampler.checkedSourceRow_eq samples ⟨by omega, by omega⟩ (by omega), Option.bind_some,
      Checked.sub_eq fromTop, Option.bind_some, verticalFinds _ (by omega), Option.bind_some]
    rfl
  · intro y row x column target fits
    obtain ⟨fromTop, toBottom⟩ := covered.rows y row
    obtain ⟨fromLeft, toRight⟩ := covered.columns x column
    obtain ⟨inColumn, inRow⟩ := covered.inside column row
    have inPlace : x - place.x < place.width ∧ y - place.y < place.height := by omega
    simp only [Checked.sub_eq fromLeft, Option.bind_eq_bind, Option.bind_some,
      horizontalFinds _ inPlace.1,
      checkedFilteredPixel_eq valid (filteredAxis_wholePixel valid.1 inPlace.1)
        (filteredAxis_wholePixel valid.2.1 inPlace.2), checkedBlendPixel_eq samples inColumn inRow _ fits]
    rfl

end

/-! ## Drawing a region -/

def checkedFrameGeometry (frame : Option PresentationFrame) (width height : Nat) :
    Option (Option OverlayGeometry) :=
  match frame with
  | none => some none
  | some frame => checkedOverlayGeometry frame width height

theorem checkedFrameGeometry_eq (frame : Option PresentationFrame) {width height : Nat}
    (surface : width < 2 ^ 32 ∧ height < 2 ^ 32) :
    checkedFrameGeometry frame width height = some (frame.bind (overlayGeometry · width height)) := by
  cases frame with
  | none => rfl
  | some shown => exact checkedOverlayGeometry_eq shown surface

def checkedDrawOpaqueRegionCached (target : Canvas) (width height : Nat)
    (frame : Option PresentationFrame) (scaledOverlay : Option RgbaFrame) (authentication : Bool)
    (region : Region) : Option Canvas := do
  let geometry ← checkedFrameGeometry frame width height
  let background ← BackgroundSampler.checkedNew (frame.bind (·.background)) width height
  let endX := min (saturatingAdd32 region.x region.width) width
  let endY := min (saturatingAdd32 region.y region.height) height
  let drawn ← checkedBackgroundPass background authentication width (halfOpen region.x endX)
    (halfOpen region.y endY) target
  match frame.filter (fun _ => authentication), geometry with
  | some frame, some geometry => do
    match ← checkedIntersect region geometry.target with
    | none => pure drawn
    | some overlayRegion =>
      let right ← Checked.add 32 overlayRegion.x overlayRegion.width
      let bottom ← Checked.add 32 overlayRegion.y overlayRegion.height
      match scaledOverlay with
      | some overlay =>
        checkedCachedPass background overlay geometry.target width (halfOpen overlayRegion.x right)
          (halfOpen overlayRegion.y bottom) drawn
      | none =>
        checkedDirectPass background frame.overlay geometry.target width (halfOpen overlayRegion.x right)
          (halfOpen overlayRegion.y bottom) drawn
  | _, _ => pure drawn

/-- A cached overlay is a valid frame of the size of the target. -/
def CachedAt (size : Nat × Nat) (frame : Option PresentationFrame) (scaledOverlay : Option RgbaFrame) :
    Prop :=
  ∀ overlay ∈ scaledOverlay, overlay.Valid ∧
    ∀ place ∈ overlayRegion frame size.1 size.2, overlay.dimensions = (place.width, place.height)

theorem checkedDraw_eq {size : Nat × Nat} {target : Canvas} (fits : FitsSurface size target)
    (frame : Option PresentationFrame) {scaledOverlay : Option RgbaFrame}
    (cached : CachedAt size frame scaledOverlay) (authentication : Bool) (region : Region) :
    checkedDrawOpaqueRegionCached target size.1 size.2 frame scaledOverlay authentication region =
      some (drawOpaqueRegionCached target size.1 size.2 frame scaledOverlay authentication region) := by
  have bounds := fits.bounds
  have surface : size.1 < 2 ^ 32 ∧ size.2 < 2 ^ 32 := ⟨by omega, by omega⟩
  have imageValid : ∀ image ∈ frame.bind (·.background), image.Valid := by
    intro image isImage
    obtain ⟨shown, rfl, isBackground⟩ := Option.bind_eq_some_iff.mp isImage
    exact shown.background_valid image isBackground
  have samples := BackgroundSampler.new_samples imageValid size.1 size.2
  have inColumns := @halfOpen_below region.x _ size.1
    (Nat.min_le_right (saturatingAdd32 region.x region.width) size.1)
  have inRows := @halfOpen_below region.y _ size.2
    (Nat.min_le_right (saturatingAdd32 region.y region.height) size.2)
  have background := checkedBackgroundPass_eq samples inColumns inRows authentication fits
  simp only [checkedDrawOpaqueRegionCached, drawOpaqueRegionCached, Option.bind_eq_bind]
  rw [checkedFrameGeometry_eq frame surface, Option.bind_some,
    BackgroundSampler.checkedNew_eq imageValid surface, Option.bind_some, background, Option.bind_some]
  cases isShown : frame.filter (fun _ => authentication) with
  | none => rfl
  | some shown =>
    obtain ⟨rfl, _⟩ := Option.filter_eq_some_iff.mp isShown
    cases isGeometry : (some shown).bind (overlayGeometry · size.1 size.2) with
    | none => rfl
    | some geometry =>
      simp only
      rw [checkedIntersect_eq, Option.bind_some]
      cases meets : intersect region geometry.target with
      | none => rfl
      | some part =>
        obtain ⟨partColumns, partRows⟩ := intersect_inside meets
        obtain ⟨placeColumns, placeRows⟩ := overlayGeometry_within isGeometry
        have covered : Covered size geometry.target (halfOpen part.x (part.x + part.width))
            (halfOpen part.y (part.y + part.height)) := by
          refine ⟨⟨placeColumns, placeRows⟩, ?_, ?_⟩
          · intro x column
            have range := mem_halfOpen.mp column
            omega
          · intro y row
            have range := mem_halfOpen.mp row
            omega
        have drawnFits := fits.paint (fun x y => some (backgroundColour
          (.new ((some shown).bind (·.background)) size.1 size.2) authentication x y))
          (halfOpen region.x (min (saturatingAdd32 region.x region.width) size.1))
          (halfOpen region.y (min (saturatingAdd32 region.y region.height) size.2))
        simp only
        rw [Checked.add_eq (by omega), Option.bind_some, Checked.add_eq (by omega), Option.bind_some]
        cases scaledOverlay with
        | none => exact checkedDirectPass_eq samples shown covered drawnFits
        | some overlay =>
          obtain ⟨valid, sized⟩ := cached overlay rfl
          have placed := sized geometry.target (by simp [overlayRegion, isGeometry])
          exact checkedCachedPass_eq samples valid placed covered shown drawnFits

/-! ## The whole property -/

theorem overlayColour_opaque {background : BackgroundSampler} {overlay : Rgba} {x y : Nat} {pixel : Argb}
    (drawn : overlayColour background overlay x y = some pixel) : pixel.alpha = 255 := by
  simp only [overlayColour] at drawn
  split at drawn
  next => contradiction
  next =>
    cases drawn
    rfl

theorem backgroundColour_opaque (background : BackgroundSampler) (authentication : Bool) (x y : Nat) :
    (backgroundColour background authentication x y).alpha = 255 := by
  cases authentication <;> rfl

theorem drawnPixel_opaque (frame : Option PresentationFrame) (overlay : Option RgbaFrame)
    (authentication : Bool) (size : Nat × Nat) (x y : Nat) :
    (drawnPixel frame overlay authentication size x y).alpha = 255 := by
  rw [drawnPixel]
  cases covered : overlayPixel frame overlay authentication size x y with
  | none => exact backgroundColour_opaque _ _ _ _
  | some pixel =>
    simp only [overlayPixel, Option.ite_none_right_eq_some, Option.bind_eq_some_iff] at covered
    obtain ⟨_, shown, _, geometry, _, _, drawn⟩ := covered
    exact overlayColour_opaque drawn

/-- Drawing is total and opaque.  On a surface of up to 16384 pixels per axis the overlay has no place or
a non-empty one inside the surface; drawing a region of the surface, with a cached overlay of the size of
the place or without one, does not panic, makes every pixel of the region opaque and leaves the others. -/
theorem drawing_total_solid {size : Nat × Nat} (drawable : Drawable size) {target : Canvas}
    (length : target.length = size.1 * size.2) (frame : Option PresentationFrame) {region : Region}
    (within : region.Within size.1 size.2)
    {scaledOverlay : Option RgbaFrame} (cached : CachedAt size frame scaledOverlay)
    (authentication : Bool) :
    (∀ shown ∈ frame, ∃ placed, checkedOverlayGeometry shown size.1 size.2 = some placed ∧
      ∀ geometry ∈ placed, (0 < geometry.target.width ∧ 0 < geometry.target.height) ∧
        geometry.target.Within size.1 size.2) ∧
    ∃ drawn,
      checkedDrawOpaqueRegionCached target size.1 size.2 frame scaledOverlay authentication region =
        some drawn ∧
      drawn.length = target.length ∧
      ∀ x y, x < size.1 → y < size.2 →
        (region.Contains x y → ∃ pixel, drawn[y * size.1 + x]? = some pixel ∧ pixel.alpha = 255) ∧
        (¬ region.Contains x y → drawn[y * size.1 + x]? = target[y * size.1 + x]?) := by
  have fits : FitsSurface size target := ⟨drawable, length⟩
  have bounds := fits.bounds
  refine ⟨?_, _, checkedDraw_eq fits frame cached authentication region, by simp, ?_⟩
  · intro shown _
    refine ⟨_, checkedOverlayGeometry_eq shown ⟨by omega, by omega⟩, ?_⟩
    intro geometry placed
    exact ⟨overlayGeometry_positive placed, overlayGeometry_within placed⟩
  · intro x y column row
    rw [getElem?_drawRegion drawable length within frame scaledOverlay authentication column row]
    constructor
    · intro inside
      exact ⟨_, if_pos inside, drawnPixel_opaque _ _ _ _ _ _⟩
    · intro outside
      rw [if_neg outside]

/-- The left half of a small surface, under the overlay, is drawn over an empty canvas. -/
theorem drawing_total_solid_sample :
    ∃ drawn,
      checkedDrawOpaqueRegionCached (Surface.blankCanvas (2, 1)) 2 1 (some (sampleFrame 10 200)) none true
        ⟨0, 0, 1, 1⟩ = some drawn ∧
      drawn = [⟨160, 160, 160, 255⟩, ⟨0, 0, 0, 0⟩] ∧
      ∀ x y, x < 2 → y < 1 → Region.Contains ⟨0, 0, 1, 1⟩ x y →
        ∃ pixel, drawn[y * 2 + x]? = some pixel ∧ pixel.alpha = 255 := by
  obtain ⟨_, drawn, isDrawn, _, pixels⟩ := @drawing_total_solid (2, 1)
    ⟨by decide, by decide⟩ (Surface.blankCanvas (2, 1)) (by decide) (some (sampleFrame 10 200)) ⟨0, 0, 1, 1⟩
    ⟨by decide, by decide⟩ none (fun _ member => by contradiction) true
  refine ⟨drawn, isDrawn, ?_, fun x y column row => (pixels x y column row).1⟩
  have evaluated : checkedDrawOpaqueRegionCached (Surface.blankCanvas (2, 1)) 2 1
      (some (sampleFrame 10 200)) none true ⟨0, 0, 1, 1⟩ =
        some [⟨160, 160, 160, 255⟩, ⟨0, 0, 0, 0⟩] := by
    decide +kernel
  exact Option.some.inj (isDrawn.symm.trans evaluated)

end Genkan.SessionLock
