import Genkan.SessionLock.Surface

/-! # Repainting a region of a drawn buffer

`drawnPixel` says what a frame shows at one pixel.  Drawing a region sets exactly the pixels of the
region to it, so a full drawing does not depend on what was in the buffer, and repainting the
overlay's region of an older drawing with the same background and geometry gives the full drawing.
-/

namespace Genkan.SessionLock

open Foundations

/-- The sizes for which a buffer is drawn at all. -/
def Drawable (size : Nat × Nat) : Prop :=
  size.1 ≤ maxSurfaceDimension ∧ size.2 ≤ maxSurfaceDimension

theorem bufferSize_drawable {width height scale : Nat} {size : Nat × Nat}
    (sized : bufferSize width height scale = .ok size) : Drawable size := by
  simp only [bufferSize] at sized
  split at sized
  next bufferWidth bufferHeight _ _ =>
    split at sized
    next => contradiction
    next =>
      split at sized
      next => contradiction
      next small =>
        cases sized
        simp only [not_or, gt_iff_lt, Nat.not_lt] at small
        exact small
  next => contradiction

/-! ## One pixel -/

def sampler (frame : Option PresentationFrame) (size : Nat × Nat) : BackgroundSampler :=
  .new (frame.bind (·.background)) size.1 size.2

/-- The overlay's colour at a pixel, where the frame has one. -/
def overlayPixel (frame : Option PresentationFrame) (overlay : Option RgbaFrame)
    (authentication : Bool) (size : Nat × Nat) (x y : Nat) : Option Argb :=
  if authentication then
    frame.bind fun shown =>
      (overlayGeometry shown size.1 size.2).bind fun geometry =>
        if geometry.target.Contains x y then
          overlayColour (sampler frame size) (overlaySample shown geometry.target overlay x y) x y
        else none
  else none

def drawnPixel (frame : Option PresentationFrame) (overlay : Option RgbaFrame)
    (authentication : Bool) (size : Nat × Nat) (x y : Nat) : Argb :=
  (overlayPixel frame overlay authentication size x y).getD
    (backgroundColour (sampler frame size) authentication x y)

theorem mem_halfOpen {start finish position : Nat} :
    position ∈ halfOpen start finish ↔ start ≤ position ∧ position < finish := by
  simp only [halfOpen, List.mem_range'_1]
  omega

theorem halfOpen_below {start finish bound : Nat} (inside : finish ≤ bound) :
    ∀ position ∈ halfOpen start finish, position < bound :=
  fun _ member => Nat.lt_of_lt_of_le (mem_halfOpen.mp member).2 inside

theorem saturatingAdd32_of_le {left right bound : Nat} (fits : left + right ≤ bound)
    (small : bound ≤ maxSurfaceDimension) : saturatingAdd32 left right = left + right := by
  simp only [saturatingAdd32, u32Limit, maxSurfaceDimension] at small ⊢
  omega

theorem intersect_contains {first second : Region} {width height : Nat}
    (drawable : Drawable (width, height)) (firstWithin : first.Within width height)
    (secondWithin : second.Within width height) (x y : Nat) :
    (∃ region, intersect first second = some region ∧ region.Contains x y) ↔
      first.Contains x y ∧ second.Contains x y := by
  have firstX := saturatingAdd32_of_le firstWithin.1 drawable.1
  have firstY := saturatingAdd32_of_le firstWithin.2 drawable.2
  have secondX := saturatingAdd32_of_le secondWithin.1 drawable.1
  have secondY := saturatingAdd32_of_le secondWithin.2 drawable.2
  simp only [intersect, firstX, firstY, secondX, secondY]
  split
  next =>
    simp only [Option.some.injEq, exists_eq_left', Region.Contains]
    omega
  next =>
    simp only [reduceCtorEq, false_and, exists_false, Region.Contains, false_iff]
    omega

/-! ## Drawing a region -/

/-- Painting a rectangle inside the canvas offers its colour to the pixels of the rectangle. -/
theorem getElem?_paint_region (canvas : Canvas) {size : Nat × Nat} {region : Region}
    (within : region.Within size.1 size.2) (colour : Nat → Nat → Option Argb) {x y : Nat}
    (column : x < size.1) :
    (Raster.paint size.1 colour (halfOpen region.x (region.x + region.width))
      (halfOpen region.y (region.y + region.height)) canvas)[y * size.1 + x]? =
      if region.Contains x y then Raster.repaint canvas[y * size.1 + x]? (colour x y)
      else canvas[y * size.1 + x]? := by
  have inside := @halfOpen_below region.x _ size.1 within.1
  have members : (y ∈ halfOpen region.y (region.y + region.height) ∧
      x ∈ halfOpen region.x (region.x + region.width)) ↔ region.Contains x y := by
    simp only [mem_halfOpen, Region.Contains, and_comm]
  simp only [Raster.getElem?_paint inside canvas column, members]

/-- The background pass of a region, before the overlay is blended over it. -/
def backgroundPass (target : Canvas) (size : Nat × Nat) (frame : Option PresentationFrame)
    (authentication : Bool) (region : Region) : Canvas :=
  Raster.paint size.1 (fun x y => some (backgroundColour (sampler frame size) authentication x y))
    (halfOpen region.x (region.x + region.width)) (halfOpen region.y (region.y + region.height)) target

theorem getElem?_backgroundPass {target : Canvas} {size : Nat × Nat}
    (length : target.length = size.1 * size.2) {region : Region}
    (within : region.Within size.1 size.2) (frame : Option PresentationFrame)
    (authentication : Bool) {x y : Nat} (column : x < size.1) (row : y < size.2) :
    (backgroundPass target size frame authentication region)[y * size.1 + x]? =
      if region.Contains x y then some (backgroundColour (sampler frame size) authentication x y)
      else target[y * size.1 + x]? := by
  have inCanvas : y * size.1 + x < target.length := length ▸ Raster.position_lt column row
  rw [backgroundPass, getElem?_paint_region target within _ column]
  simp [List.getElem?_eq_getElem inCanvas]

theorem drawOpaqueRegionCached_eq {size : Nat × Nat} (drawable : Drawable size) {region : Region}
    (within : region.Within size.1 size.2) (target : Canvas) (frame : Option PresentationFrame)
    (overlay : Option RgbaFrame) (authentication : Bool) :
    drawOpaqueRegionCached target size.1 size.2 frame overlay authentication region =
      match frame.filter (fun _ => authentication), frame.bind (overlayGeometry · size.1 size.2) with
      | some shown, some geometry =>
        match intersect region geometry.target with
        | none => backgroundPass target size frame authentication region
        | some part =>
          Raster.paint size.1
            (fun x y => overlayColour (sampler frame size)
              (overlaySample shown geometry.target overlay x y) x y)
            (halfOpen part.x (part.x + part.width)) (halfOpen part.y (part.y + part.height))
            (backgroundPass target size frame authentication region)
      | _, _ => backgroundPass target size frame authentication region := by
  have endX : min (saturatingAdd32 region.x region.width) size.1 = region.x + region.width := by
    rw [saturatingAdd32_of_le within.1 drawable.1, Nat.min_eq_left within.1]
  have endY : min (saturatingAdd32 region.y region.height) size.2 = region.y + region.height := by
    rw [saturatingAdd32_of_le within.2 drawable.2, Nat.min_eq_left within.2]
  simp only [drawOpaqueRegionCached, endX, endY]
  rfl

theorem intersect_within {first second region : Region} {size : Nat × Nat}
    (drawable : Drawable size) (firstWithin : first.Within size.1 size.2)
    (secondWithin : second.Within size.1 size.2) (meets : intersect first second = some region) :
    region.Within size.1 size.2 := by
  simp only [intersect, saturatingAdd32_of_le firstWithin.1 drawable.1,
    saturatingAdd32_of_le firstWithin.2 drawable.2,
    saturatingAdd32_of_le secondWithin.1 drawable.1,
    saturatingAdd32_of_le secondWithin.2 drawable.2] at meets
  split at meets
  next =>
    cases meets
    simp only [Region.Within] at firstWithin secondWithin ⊢
    omega
  next => contradiction

/-- Drawing a region sets the pixels of the region to what the frame shows there. -/
theorem getElem?_drawRegion {target : Canvas} {size : Nat × Nat} (drawable : Drawable size)
    (length : target.length = size.1 * size.2) {region : Region}
    (within : region.Within size.1 size.2) (frame : Option PresentationFrame)
    (overlay : Option RgbaFrame) (authentication : Bool) {x y : Nat} (column : x < size.1)
    (row : y < size.2) :
    (drawOpaqueRegionCached target size.1 size.2 frame overlay authentication region)[y * size.1 + x]? =
      if region.Contains x y then some (drawnPixel frame overlay authentication size x y)
      else target[y * size.1 + x]? := by
  have background := getElem?_backgroundPass length within frame authentication column row
  have plain : (region.Contains x y → overlayPixel frame overlay authentication size x y = none) →
      (backgroundPass target size frame authentication region)[y * size.1 + x]? =
        if region.Contains x y then some (drawnPixel frame overlay authentication size x y)
        else target[y * size.1 + x]? := by
    intro uncovered
    rw [background]
    split
    next inRegion => simp only [drawnPixel, uncovered inRegion, Option.getD_none]
    next => rfl
  rw [drawOpaqueRegionCached_eq drawable within]
  cases authentication with
  | false =>
    have hidden : frame.filter (fun _ => false) = none := by cases frame <;> rfl
    simp only [hidden]
    exact plain fun _ => rfl
  | true =>
    cases frame with
    | none => exact plain fun _ => rfl
    | some shown =>
      simp only [Option.filter_some, if_true, Option.bind_some]
      cases placed : overlayGeometry shown size.1 size.2 with
      | none => exact plain fun _ => by simp [overlayPixel, placed]
      | some geometry =>
        have targetWithin := overlayGeometry_within placed
        have meets := intersect_contains (show Drawable (size.1, size.2) from drawable) within targetWithin x y
        have colour : overlayPixel (some shown) overlay true size x y =
            if geometry.target.Contains x y then
              overlayColour (sampler (some shown) size)
                (overlaySample shown geometry.target overlay x y) x y
            else none := by
          simp [overlayPixel, placed]
        cases part : intersect region geometry.target with
        | none =>
          simp only [part]
          refine plain fun inRegion => ?_
          have outside : ¬ geometry.target.Contains x y :=
            fun inTarget => by simp [part, inRegion, inTarget] at meets
          rw [colour, if_neg outside]
        | some part' =>
          simp only [part, Option.some.injEq, exists_eq_left'] at meets
          have partWithin := intersect_within drawable within targetWithin part
          simp only [part]
          -- The overlay is drawn over the part of the region in its place, and nowhere else.
          rw [getElem?_paint_region _ partWithin _ column, background]
          by_cases inRegion : region.Contains x y
          · by_cases inTarget : geometry.target.Contains x y
            · rw [if_pos (meets.mpr ⟨inRegion, inTarget⟩), if_pos inRegion, if_pos inRegion,
                drawnPixel, colour, if_pos inTarget]
              cases overlayColour (sampler (some shown) size)
                (overlaySample shown geometry.target overlay x y) x y <;> rfl
            · rw [if_neg (fun inPart => inTarget (meets.mp inPart).2), if_pos inRegion, if_pos inRegion,
                drawnPixel, colour, if_neg inTarget]
              rfl
          · rw [if_neg (fun inPart => inRegion (meets.mp inPart).1), if_neg inRegion, if_neg inRegion]

@[simp] theorem length_drawRegion (target : Canvas) (width height : Nat)
    (frame : Option PresentationFrame) (overlay : Option RgbaFrame) (authentication : Bool)
    (region : Region) :
    (drawOpaqueRegionCached target width height frame overlay authentication region).length =
      target.length := by
  simp only [drawOpaqueRegionCached]
  split
  next => split <;> simp
  next => simp

/-! ## The whole drawing -/

/-- The overlay as `scaled_overlay` returns it when nothing is cached. -/
def freshOverlay (frame : Option PresentationFrame) (authentication : Bool) (size : Nat × Nat) :
    Option RgbaFrame :=
  if authentication then
    frame.bind fun shown =>
      (overlayGeometry shown size.1 size.2).map fun geometry =>
        scaleOverlay shown.overlay geometry.target.width geometry.target.height
  else none

/-- `draw_opaque_cached` over a whole surface, in a new buffer and with nothing cached. -/
def wholeDrawing (size : Nat × Nat) (frame : Option PresentationFrame) (authentication : Bool) :
    Canvas :=
  drawOpaqueCached (Surface.blankCanvas size) size.1 size.2 frame
    (freshOverlay frame authentication size) authentication

@[simp] theorem length_wholeDrawing (size : Nat × Nat) (frame : Option PresentationFrame)
    (authentication : Bool) : (wholeDrawing size frame authentication).length = size.1 * size.2 := by
  simp [wholeDrawing, drawOpaqueCached, Surface.blankCanvas]

theorem getElem?_drawOpaqueCached {target : Canvas} {size : Nat × Nat} (drawable : Drawable size)
    (length : target.length = size.1 * size.2) (frame : Option PresentationFrame)
    (overlay : Option RgbaFrame) (authentication : Bool) {x y : Nat} (column : x < size.1)
    (row : y < size.2) :
    (drawOpaqueCached target size.1 size.2 frame overlay authentication)[y * size.1 + x]? =
      some (drawnPixel frame overlay authentication size x y) := by
  rw [drawOpaqueCached, getElem?_drawRegion drawable length (Region.full_within _ _) frame overlay
    authentication column row, if_pos (Region.full_contains column row)]

/-- A full drawing forgets what was in the buffer. -/
theorem drawOpaqueCached_eq_wholeDrawing (target : Canvas) {size : Nat × Nat}
    (drawable : Drawable size) (length : target.length = size.1 * size.2)
    (frame : Option PresentationFrame) (authentication : Bool) :
    drawOpaqueCached target size.1 size.2 frame (freshOverlay frame authentication size)
      authentication = wholeDrawing size frame authentication := by
  apply Raster.ext size.1 size.2
  · simpa [drawOpaqueCached] using length
  · simp
  · intro x y column row
    rw [getElem?_drawOpaqueCached drawable length frame _ authentication column row, wholeDrawing,
      getElem?_drawOpaqueCached drawable (by simp [Surface.blankCanvas]) frame _ authentication
        column row]

/-! ## Repainting the overlay's region -/

/-- The background is drawn from the pixels of its image alone. -/
theorem backgroundColour_congr {first second : Option PresentationFrame}
    (same : backgroundImage first = backgroundImage second) (size : Nat × Nat)
    (authentication : Bool) (x y : Nat) :
    backgroundColour (sampler first size) authentication x y =
      backgroundColour (sampler second size) authentication x y := by
  have pixels : ∀ left right : RgbaFrame, left.dimensions = right.dimensions →
      left.pixels.data = right.pixels.data →
      backgroundColour (.new (some left) size.1 size.2) authentication x y =
        backgroundColour (.new (some right) size.1 size.2) authentication x y := by
    rintro ⟨width, height, ⟨_, data⟩⟩ ⟨_, _, ⟨_, _⟩⟩ dimensions rfl
    cases dimensions
    simp only [BackgroundSampler.new]
    split <;> rfl
  simp only [sampler, backgroundImage] at same ⊢
  cases isFirst : first.bind (·.background) with
  | none =>
    cases isSecond : second.bind (·.background) with
    | none => rfl
    | some right => simp [isFirst, isSecond] at same
  | some left =>
    cases isSecond : second.bind (·.background) with
    | none => simp [isFirst, isSecond] at same
    | some right =>
      simp only [isFirst, isSecond, Option.map_some, Option.some.injEq, Prod.mk.injEq] at same
      exact pixels left right same.1 same.2

/-- Outside the overlay's region a frame shows its background. -/
theorem drawnPixel_outside {frame : Option PresentationFrame} {size : Nat × Nat} {x y : Nat}
    (outside : ∀ region ∈ overlayRegion frame size.1 size.2, ¬ region.Contains x y)
    (overlay : Option RgbaFrame) (authentication : Bool) :
    drawnPixel frame overlay authentication size x y =
      backgroundColour (sampler frame size) authentication x y := by
  have uncovered : overlayPixel frame overlay authentication size x y = none := by
    simp only [overlayPixel]
    split
    next =>
      cases frame with
      | none => rfl
      | some shown =>
        cases placed : overlayGeometry shown size.1 size.2 with
        | none => simp [placed]
        | some geometry =>
          have notCovered := outside geometry.target (by simp [overlayRegion, placed])
          simp [placed, notCovered]
    next => rfl
  simp only [drawnPixel, uncovered, Option.getD_none]

theorem overlayRegion_congr {first second : Option PresentationFrame}
    (same : frameGeometry first = frameGeometry second) (width height : Nat) :
    overlayRegion first width height = overlayRegion second width height := by
  simp only [overlayRegion, overlayGeometry_bind_congr same]

theorem overlayRegion_within {frame : Option PresentationFrame} {width height : Nat} {region : Region}
    (placed : overlayRegion frame width height = some region) : region.Within width height := by
  obtain ⟨geometry, isGeometry, rfl⟩ := Option.map_eq_some_iff.mp placed
  obtain ⟨shown, _, isPlaced⟩ := Option.bind_eq_some_iff.mp isGeometry
  exact overlayGeometry_within isPlaced

/-- Repainting the region of an overlay redraw over an older drawing with the same geometry and
background gives the full drawing of the new frame. -/
theorem repaint_eq_wholeDrawing {size : Nat × Nat} (drawable : Drawable size)
    {old frame : Option PresentationFrame} (geometry : frameGeometry old = frameGeometry frame)
    (image : backgroundImage old = backgroundImage frame) (authentication : Bool) :
    drawOpaqueRegionCached (wholeDrawing size old authentication) size.1 size.2 frame
      (freshOverlay frame authentication size) authentication
      ((overlayRegion frame size.1 size.2).getD (Region.full size.1 size.2)) =
      wholeDrawing size frame authentication := by
  apply Raster.ext size.1 size.2 (by simp) (by simp)
  intro x y column row
  have within : ((overlayRegion frame size.1 size.2).getD
      (Region.full size.1 size.2)).Within size.1 size.2 := by
    cases placed : overlayRegion frame size.1 size.2 with
    | none => exact Region.full_within _ _
    | some region => exact overlayRegion_within placed
  rw [getElem?_drawRegion drawable (by simp) within frame _ authentication column row, wholeDrawing,
    wholeDrawing, getElem?_drawOpaqueCached drawable (by simp [Surface.blankCanvas]) frame _
      authentication column row, getElem?_drawOpaqueCached drawable (by simp [Surface.blankCanvas]) old _
      authentication column row]
  split
  next => rfl
  next outside =>
    have uncovered : ∀ region ∈ overlayRegion frame size.1 size.2, ¬ region.Contains x y := by
      intro region isRegion
      rwa [Option.mem_def.mp isRegion] at outside
    rw [drawnPixel_outside uncovered,
      drawnPixel_outside (overlayRegion_congr geometry _ _ ▸ uncovered),
      backgroundColour_congr image]

end Genkan.SessionLock
