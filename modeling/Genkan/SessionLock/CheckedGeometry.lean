import Genkan.Foundations.Checked
import Genkan.SessionLock.Cover

/-! # Geometry and sampling with every operation that can panic

The renderer once more, with each addition, multiplication, subtraction, division and index of the
source as an operation that may panic: `none` is a panic.  This part holds the colours, the wallpaper and
the place of the overlay; each function returns what the plain one returns, for all sizes of 32 bits.
-/

namespace Genkan.SessionLock

open Foundations

/-! ## Colours -/

def checkedDim (value : UInt8) : Option UInt8 := do
  let product ← Checked.mul 16 value.toNat dimNumerator
  let quotient ← Checked.div product dimDenominator
  pure quotient.toUInt8

theorem checkedDim_eq (value : UInt8) : checkedDim value = some (dim value) := by
  have bound := value.toNat_lt
  have product : value.toNat * dimNumerator < 2 ^ 16 := by
    simp only [dimNumerator]
    omega
  simp only [checkedDim, Option.bind_eq_bind]
  rw [Checked.mul_eq product, Option.bind_some, Checked.div_eq (by decide)]
  rfl

def checkedBlendChannel (background foreground alpha : UInt8) : Option UInt8 := do
  let foregroundPart ← Checked.mul 16 foreground.toNat alpha.toNat
  let rest ← Checked.sub 255 alpha.toNat
  let backgroundPart ← Checked.mul 16 background.toNat rest
  let sum ← Checked.add 16 foregroundPart backgroundPart
  let quotient ← Checked.div sum 255
  pure quotient.toUInt8

theorem checkedBlendChannel_eq (background foreground alpha : UInt8) :
    checkedBlendChannel background foreground alpha = some (blendChannel background foreground alpha) := by
  have backgroundBound := background.toNat_lt
  have foregroundBound := foreground.toNat_lt
  have alphaBound := alpha.toNat_lt
  have foregroundPart : foreground.toNat * alpha.toNat ≤ 255 * alpha.toNat :=
    Nat.mul_le_mul_right _ (by omega)
  have backgroundPart : background.toNat * (255 - alpha.toNat) ≤ 255 * (255 - alpha.toNat) :=
    Nat.mul_le_mul_right _ (by omega)
  simp only [checkedBlendChannel, Option.bind_eq_bind]
  rw [Checked.mul_eq (by omega), Option.bind_some, Checked.sub_eq (by omega), Option.bind_some,
    Checked.mul_eq (by omega), Option.bind_some, Checked.add_eq (by omega), Option.bind_some,
    Checked.div_eq (by decide)]
  rfl

def checkedBlendRgb (background : Rgb) (foreground : Rgba) : Option Rgb := do
  let (red, green, blue, alpha) := foreground
  let red ← checkedBlendChannel background.1 red alpha
  let green ← checkedBlendChannel background.2.1 green alpha
  let blue ← checkedBlendChannel background.2.2 blue alpha
  pure (red, green, blue)

theorem checkedBlendRgb_eq (background : Rgb) (foreground : Rgba) :
    checkedBlendRgb background foreground = some (blendRgb background foreground) := by
  obtain ⟨red, green, blue, alpha⟩ := foreground
  simp only [checkedBlendRgb, checkedBlendChannel_eq]
  rfl

/-- The opaque pixel of a colour, dimmed on the authentication output. -/
def checkedPixel (authentication : Bool) (colour : Rgb) : Option Argb := do
  let (red, green, blue) := colour
  if authentication then
    let blue ← checkedDim blue
    let green ← checkedDim green
    let red ← checkedDim red
    pure { blue, green, red, alpha := 255 }
  else pure { blue, green, red, alpha := 255 }

theorem checkedPixel_eq (authentication : Bool) (colour : Rgb) :
    checkedPixel authentication colour =
      some (if authentication then
          { blue := dim colour.2.2, green := dim colour.2.1, red := dim colour.1, alpha := 255 }
        else { blue := colour.2.2, green := colour.2.1, red := colour.1, alpha := 255 }) := by
  cases authentication with
  | false => rfl
  | true =>
    simp only [checkedPixel, checkedDim_eq]
    rfl

/-! ## The wallpaper -/

def checkedCoverGeometry (sourceWidth sourceHeight width height : Nat) :
    Option (Option CoverGeometry) :=
  if sourceWidth = 0 ∨ sourceHeight = 0 ∨ width = 0 ∨ height = 0 then some none
  else do
    let byHeight ← Checked.mul 128 sourceWidth height
    let byWidth ← Checked.mul 128 width sourceHeight
    let (scaledWidth, scaledHeight) ←
      if byHeight > byWidth then do
        let product ← Checked.mul 128 sourceWidth height
        let scaledWidth ← Checked.div product sourceHeight
        pure (scaledWidth, height)
      else do
        let product ← Checked.mul 128 sourceHeight width
        let scaledHeight ← Checked.div product sourceWidth
        pure (width, scaledHeight)
    pure (some {
      cropX := (scaledWidth - width) / 2
      cropY := (scaledHeight - height) / 2
      scaledWidth
      scaledHeight })

theorem checkedCoverGeometry_eq {sourceWidth sourceHeight width height : Nat}
    (source : sourceWidth < 2 ^ 32 ∧ sourceHeight < 2 ^ 32) (surface : width < 2 ^ 32 ∧ height < 2 ^ 32) :
    checkedCoverGeometry sourceWidth sourceHeight width height =
      some (coverGeometry sourceWidth sourceHeight width height) := by
  have byHeight : Checked.mul 128 sourceWidth height = some (sourceWidth * height) :=
    Checked.mul_eq_of_bits source.1 surface.2 (by decide)
  have byWidth : Checked.mul 128 width sourceHeight = some (width * sourceHeight) :=
    Checked.mul_eq_of_bits surface.1 source.2 (by decide)
  have byWidth' : Checked.mul 128 sourceHeight width = some (sourceHeight * width) :=
    Checked.mul_eq_of_bits source.2 surface.1 (by decide)
  simp only [checkedCoverGeometry, coverGeometry, byHeight, byWidth, byWidth', Option.bind_eq_bind,
    Option.bind_some]
  split
  next => rfl
  next nonempty =>
    simp only [not_or, ← Nat.pos_iff_ne_zero] at nonempty
    rw [Checked.div_eq nonempty.2.1, Checked.div_eq nonempty.1]
    split <;> rfl

def checkedSourceCoordinate (position crop scaled source : Nat) : Option Nat := do
  let sum ← Checked.add 128 position crop
  let product ← Checked.mul 128 sum source
  let quotient ← Checked.div product scaled
  let last ← Checked.sub source 1
  pure (min quotient last % u32Limit)

theorem checkedSourceCoordinate_eq {position crop scaled source : Nat} (positionBound : position < 2 ^ 32)
    (cropBound : crop < 2 ^ 64) (scaledPositive : 0 < scaled) (sourcePositive : 0 < source)
    (sourceBound : source < 2 ^ 32) :
    checkedSourceCoordinate position crop scaled source =
      some (sourceCoordinate position crop scaled source) := by
  have sum : position + crop < 2 ^ 65 := by omega
  simp only [checkedSourceCoordinate, Option.bind_eq_bind]
  rw [Checked.add_eq (by omega), Option.bind_some, Checked.mul_eq_of_bits sum sourceBound (by decide),
    Option.bind_some, Checked.div_eq scaledPositive, Option.bind_some, Checked.sub_eq sourcePositive,
    Option.bind_some]
  have inside := sourceCoordinate_lt sourcePositive position crop scaled
  rw [sourceCoordinate] at inside ⊢
  rw [Nat.mod_eq_of_lt (show _ < u32Limit from Nat.lt_trans inside sourceBound)]
  rfl

namespace BackgroundSampler

def checkedNew (frame : Option RgbaFrame) (width height : Nat) : Option BackgroundSampler :=
  match frame with
  | none => some fallback
  | some frame => do
    match ← checkedCoverGeometry frame.width frame.height width height with
    | none => pure fallback
    | some geometry =>
      let columns ← (List.range width).mapM fun x => do
        let column ← checkedSourceCoordinate x geometry.cropX geometry.scaledWidth frame.width
        Checked.mul 64 column 4
      pure { frame := some frame, columns, cropY := geometry.cropY, scaledHeight := geometry.scaledHeight }

/-- What the sampler of a surface is: the fallback colour, or an image that covers the surface. -/
inductive Samples (width height : Nat) : BackgroundSampler → Prop
  | fallback : Samples width height fallback
  | image (frame : RgbaFrame) (geometry : CoverGeometry) (valid : frame.Valid)
      (covers : geometry.Covers frame.width frame.height width height) :
      Samples width height
        { frame := some frame
          columns := (List.range width).map fun x =>
            sourceCoordinate x geometry.cropX geometry.scaledWidth frame.width * 4
          cropY := geometry.cropY
          scaledHeight := geometry.scaledHeight }

theorem new_samples {frame : Option RgbaFrame} (valid : ∀ image ∈ frame, image.Valid)
    (width height : Nat) : Samples width height (new frame width height) := by
  cases frame with
  | none => exact .fallback
  | some frame =>
    simp only [new]
    cases covers : coverGeometry frame.width frame.height width height with
    | none => exact .fallback
    | some geometry => exact .image frame geometry (valid frame rfl) (coverGeometry_some covers)

end BackgroundSampler

/-- The scaled sizes and the crops of a valid image have 64 bits. -/
theorem CoverGeometry.Covers.bounds {geometry : CoverGeometry} {frame : RgbaFrame} {width height : Nat}
    (covers : geometry.Covers frame.width frame.height width height) (valid : frame.Valid)
    (surface : width < 2 ^ 32 ∧ height < 2 ^ 32) : geometry.cropX < 2 ^ 64 ∧ geometry.cropY < 2 ^ 64 := by
  have columns : frame.width * height < 2 ^ 64 := Checked.mul_lt valid.width_lt surface.2 (by decide)
  have rows : frame.height * width < 2 ^ 64 := Checked.mul_lt valid.height_lt surface.1 (by decide)
  have scaledWidth := covers.scaledWidth_le
  have scaledHeight := covers.scaledHeight_le
  rw [covers.cropX, covers.cropY]
  omega

namespace BackgroundSampler

theorem checkedNew_eq {frame : Option RgbaFrame} (valid : ∀ image ∈ frame, image.Valid)
    {width height : Nat} (surface : width < 2 ^ 32 ∧ height < 2 ^ 32) :
    checkedNew frame width height = some (new frame width height) := by
  cases frame with
  | none => rfl
  | some frame =>
    have isValid := valid frame rfl
    have widthBound := isValid.width_lt
    have heightBound := isValid.height_lt
    have geometries : checkedCoverGeometry frame.width frame.height width height =
        some (coverGeometry frame.width frame.height width height) :=
      checkedCoverGeometry_eq ⟨by omega, by omega⟩ surface
    simp only [checkedNew, new, geometries, Option.bind_eq_bind, Option.bind_some]
    cases covered : coverGeometry frame.width frame.height width height with
    | none => rfl
    | some geometry =>
      have covers := coverGeometry_some covered
      have widthLe := covers.width_le
      have columns : ∀ x ∈ List.range width,
          (checkedSourceCoordinate x geometry.cropX geometry.scaledWidth frame.width).bind
              (Checked.mul 64 · 4) =
            some (sourceCoordinate x geometry.cropX geometry.scaledWidth frame.width * 4) := by
        intro x member
        have inside := List.mem_range.mp member
        have column := sourceCoordinate_lt isValid.1 x geometry.cropX geometry.scaledWidth
        rw [checkedSourceCoordinate_eq (by omega) (covers.bounds isValid surface).1 (by omega) isValid.1
          (by omega), Option.bind_some, Checked.mul_eq (by omega)]
      simp only [Checked.mapM_eq columns]
      rfl

def checkedSourceRow (sampler : BackgroundSampler) (y : Nat) : Option (Option Nat) :=
  match sampler.frame with
  | none => some none
  | some frame => do
    let row ← checkedSourceCoordinate y sampler.cropY sampler.scaledHeight frame.height
    let position ← Checked.mul 64 row frame.width
    let offset ← Checked.mul 64 position 4
    pure (some offset)

theorem checkedSourceRow_eq {sampler : BackgroundSampler} {width height y : Nat}
    (samples : Samples width height sampler) (surface : width < 2 ^ 32 ∧ height < 2 ^ 32)
    (inside : y < height) : sampler.checkedSourceRow y = some (sampler.sourceRow y) := by
  cases samples with
  | fallback => rfl
  | image frame geometry valid covers =>
    have widthBound := valid.width_lt
    have heightBound := valid.height_lt
    have heightLe := covers.height_le
    have row := sourceCoordinate_lt valid.2.1 y geometry.cropY geometry.scaledHeight
    have position : sourceCoordinate y geometry.cropY geometry.scaledHeight frame.height * frame.width <
        2 ^ 60 := Checked.mul_lt (Nat.lt_trans row heightBound) widthBound (by decide)
    simp only [checkedSourceRow, sourceRow, Option.bind_eq_bind]
    rw [checkedSourceCoordinate_eq (by omega) (covers.bounds valid surface).2 (by omega) valid.2.1
      (by omega), Option.bind_some, Checked.mul_eq (by omega), Option.bind_some,
      Checked.mul_eq (by omega)]
    rfl

def checkedColour (sampler : BackgroundSampler) (sourceRow : Option Nat) (x : Nat) : Option Rgb :=
  match sampler.frame, sourceRow with
  | some frame, some sourceRow => do
    let column ← sampler.columns[x]?
    let offset ← Checked.add 64 sourceRow column
    let red ← frame.pixels.data[offset]?
    let greenOffset ← Checked.add 64 offset 1
    let green ← frame.pixels.data[greenOffset]?
    let blueOffset ← Checked.add 64 offset 2
    let blue ← frame.pixels.data[blueOffset]?
    pure (red, green, blue)
  | _, _ => some fallbackRgb

theorem checkedColour_eq {sampler : BackgroundSampler} {width height x : Nat}
    (samples : Samples width height sampler) (inside : x < width) (y : Nat) :
    sampler.checkedColour (sampler.sourceRow y) x = some (sampler.pixel (sampler.sourceRow y) x) := by
  cases samples with
  | fallback => rfl
  | image frame geometry valid covers =>
    have row := sourceCoordinate_lt valid.2.1 y geometry.cropY geometry.scaledHeight
    have column := sourceCoordinate_lt valid.1 x geometry.cropX geometry.scaledWidth
    obtain ⟨length, bound⟩ := valid.length
    have position := Raster.position_lt column row
    simp only [checkedColour, pixel, sourceRow, Option.map_some, List.getElem?_map,
      List.getElem?_range inside, List.getD_eq_getElem?_getD, Option.getD_some, Option.bind_eq_bind,
      Option.bind_some]
    generalize sourceCoordinate y geometry.cropY geometry.scaledHeight frame.height = sourceY at *
    generalize sourceCoordinate x geometry.cropX geometry.scaledWidth frame.width = sourceX at *
    have offset : sourceY * frame.width * 4 + sourceX * 4 + 2 < frame.pixels.data.length := by omega
    simp only [u32Limit] at bound
    rw [Checked.add_eq (by omega), Option.bind_some, List.getElem?_eq_getElem (by omega),
      Option.bind_some,
      Checked.add_eq (by omega), Option.bind_some, List.getElem?_eq_getElem (by omega), Option.bind_some,
      Checked.add_eq (by omega), Option.bind_some, List.getElem?_eq_getElem offset]
    rfl

end BackgroundSampler

/-! ## The geometry of the overlay -/

def checkedIntersect (first second : Region) : Option (Option Region) :=
  let left := max first.x second.x
  let top := max first.y second.y
  let right := min (saturatingAdd32 first.x first.width) (saturatingAdd32 second.x second.width)
  let bottom := min (saturatingAdd32 first.y first.height) (saturatingAdd32 second.y second.height)
  if left < right ∧ top < bottom then do
    let width ← Checked.sub right left
    let height ← Checked.sub bottom top
    pure (some { x := left, y := top, width, height })
  else some none

theorem checkedIntersect_eq (first second : Region) :
    checkedIntersect first second = some (intersect first second) := by
  simp only [checkedIntersect, intersect, Option.bind_eq_bind]
  split
  next overlap =>
    rw [Checked.sub_eq (Nat.le_of_lt overlap.1), Option.bind_some,
      Checked.sub_eq (Nat.le_of_lt overlap.2)]
    rfl
  next => rfl

def checkedCanvasSize (sourceWidth sourceHeight width height : Nat) :
    Option (Option (Nat × Nat)) := do
  let byWidth ← Checked.mul 128 width sourceHeight
  let byHeight ← Checked.mul 128 sourceWidth height
  if byWidth ≤ byHeight then
    let product ← Checked.mul 128 sourceHeight width
    let quotient ← Checked.div product sourceWidth
    pure ((u32TryFrom quotient).map fun canvasHeight => (width, canvasHeight))
  else
    let product ← Checked.mul 128 sourceWidth height
    let quotient ← Checked.div product sourceHeight
    pure ((u32TryFrom quotient).map fun canvasWidth => (canvasWidth, height))

theorem checkedCanvasSize_eq {sourceWidth sourceHeight width height : Nat}
    (source : sourceWidth < 2 ^ 32 ∧ sourceHeight < 2 ^ 32) (positive : 0 < sourceWidth ∧ 0 < sourceHeight)
    (surface : width < 2 ^ 32 ∧ height < 2 ^ 32) :
    checkedCanvasSize sourceWidth sourceHeight width height =
      some (canvasSize sourceWidth sourceHeight width height) := by
  have byHeight : Checked.mul 128 sourceWidth height = some (sourceWidth * height) :=
    Checked.mul_eq_of_bits source.1 surface.2 (by decide)
  have byWidth : Checked.mul 128 width sourceHeight = some (width * sourceHeight) :=
    Checked.mul_eq_of_bits surface.1 source.2 (by decide)
  have byWidth' : Checked.mul 128 sourceHeight width = some (sourceHeight * width) :=
    Checked.mul_eq_of_bits source.2 surface.1 (by decide)
  simp only [checkedCanvasSize, canvasSize, byHeight, byWidth, byWidth', Option.bind_eq_bind,
    Option.bind_some, Checked.div_eq positive.1, Checked.div_eq positive.2]
  split <;> rfl

/-- The left or the top edge of the target, moved by the origin of the canvas. -/
def checkedFloorEdge (origin coordinate scaled whole : Nat) : Option (Option Nat) := do
  let product ← Checked.mul 128 coordinate scaled
  let quotient ← Checked.div product whole
  match u32TryFrom quotient with
  | none => pure none
  | some edge => do
    let moved ← Checked.add 32 origin edge
    pure (some moved)

theorem checkedFloorEdge_eq {origin coordinate scaled whole : Nat} (positive : 0 < whole)
    (inside : coordinate ≤ whole) (wholeBound : whole < 2 ^ 32) (fits : origin + scaled < 2 ^ 32) :
    checkedFloorEdge origin coordinate scaled whole =
      some ((u32TryFrom (coordinate * scaled / whole)).map (origin + ·)) := by
  have edge := @floor_scaled_le coordinate whole scaled inside
  have scaledBound : scaled < 2 ^ 32 := by omega
  have coordinateBound : coordinate < 2 ^ 32 := by omega
  simp only [checkedFloorEdge, Option.bind_eq_bind]
  rw [Checked.mul_eq_of_bits coordinateBound scaledBound (by decide), Option.bind_some,
    Checked.div_eq positive, Option.bind_some, u32TryFrom,
    if_pos (show _ < u32Limit from Nat.lt_of_le_of_lt edge scaledBound)]
  simp only
  rw [Checked.add_eq (by omega)]
  rfl

/-- `div_ceil_u128` gives up where its own additions would overflow, and then divides. -/
def checkedDivCeil (numerator denominator : Nat) : Option (Option Nat) :=
  match Checked.sub denominator 1 with
  | none => some none
  | some rest =>
    match Checked.add 128 numerator rest with
    | none => some none
    | some sum => do
      let quotient ← Checked.div sum denominator
      pure (u32TryFrom quotient)

theorem checkedDivCeil_eq (numerator denominator : Nat) :
    checkedDivCeil numerator denominator = some (divCeilU128 numerator denominator) := by
  by_cases positive : 0 < denominator
  · rw [checkedDivCeil, Checked.sub_eq positive]
    by_cases fits : numerator + (denominator - 1) < 2 ^ 128
    · simp only [Checked.add_eq fits, Checked.div_eq positive, divCeilU128,
        if_pos (And.intro positive fits)]
      rfl
    · simp only [Checked.add, Checked.fit, if_neg fits, divCeilU128,
        if_neg (fun both : 0 < denominator ∧ _ => fits both.2)]
  · have none_left : Checked.sub denominator 1 = none := if_neg positive
    rw [checkedDivCeil, none_left, divCeilU128, if_neg (fun both => positive both.1)]

/-- The right or the bottom edge of the target, moved by the origin of the canvas. -/
def checkedCeilEdge (origin coordinate size scaled whole : Nat) : Option (Option Nat) := do
  let finish ← Checked.add 32 coordinate size
  let product ← Checked.mul 128 finish scaled
  match ← checkedDivCeil product whole with
  | none => pure none
  | some edge => do
    let moved ← Checked.add 32 origin edge
    pure (some moved)

theorem checkedCeilEdge_eq {origin coordinate size scaled whole : Nat} (positive : 0 < whole)
    (inside : coordinate + size ≤ whole) (wholeBound : whole < 2 ^ 32) (fits : origin + scaled < 2 ^ 32) :
    checkedCeilEdge origin coordinate size scaled whole =
      some ((divCeilU128 ((coordinate + size) * scaled) whole).map (origin + ·)) := by
  have scaledBound : scaled < 2 ^ 32 := by omega
  have finishBound : coordinate + size < 2 ^ 32 := by omega
  simp only [checkedCeilEdge, Option.bind_eq_bind]
  rw [Checked.add_eq finishBound, Option.bind_some,
    Checked.mul_eq_of_bits finishBound scaledBound (by decide), Option.bind_some, checkedDivCeil_eq,
    Option.bind_some]
  cases divided : divCeilU128 ((coordinate + size) * scaled) whole with
  | none => rfl
  | some edge =>
    have edgeBound : edge ≤ scaled := by
      rw [(divCeilU128_some divided).2]
      exact ceil_scaled_le scaled positive inside
    simp only
    rw [Checked.add_eq (by omega)]
    rfl

def checkedPlaceOverlay (frame : PresentationFrame) (width height : Nat) (canvas : Nat × Nat) :
    Option (Option OverlayGeometry) :=
  if canvas.1 = 0 ∨ canvas.2 = 0 then some none
  else do
    let spareX ← Checked.sub width canvas.1
    let spareY ← Checked.sub height canvas.2
    let canvasX := spareX / 2
    let canvasY := spareY / 2
    let some left ← checkedFloorEdge canvasX frame.overlayX canvas.1 frame.width | pure none
    let some top ← checkedFloorEdge canvasY frame.overlayY canvas.2 frame.height | pure none
    let some right ←
      checkedCeilEdge canvasX frame.overlayX frame.overlay.width canvas.1 frame.width | pure none
    let some bottom ←
      checkedCeilEdge canvasY frame.overlayY frame.overlay.height canvas.2 frame.height | pure none
    pure (some { target := { x := left, y := top, width := right - left, height := bottom - top } })

theorem checkedPlaceOverlay_eq (frame : PresentationFrame) {width height : Nat} {canvas : Nat × Nat}
    (columns : canvas.1 ≤ width) (rows : canvas.2 ≤ height) (surface : width < 2 ^ 32 ∧ height < 2 ^ 32) :
    checkedPlaceOverlay frame width height canvas = some (placeOverlay frame width height canvas) := by
  have overlayColumns := frame.overlay_columns
  have overlayRows := frame.overlay_rows
  simp only [checkedPlaceOverlay, placeOverlay, Option.bind_eq_bind]
  split
  next => rfl
  next =>
    rw [Checked.sub_eq columns, Option.bind_some, Checked.sub_eq rows, Option.bind_some,
      checkedFloorEdge_eq frame.width_positive (by omega) frame.width_bound (by omega),
      checkedFloorEdge_eq frame.height_positive (by omega) frame.height_bound (by omega),
      checkedCeilEdge_eq frame.width_positive overlayColumns frame.width_bound (by omega),
      checkedCeilEdge_eq frame.height_positive overlayRows frame.height_bound (by omega)]
    cases u32TryFrom (frame.overlayX * canvas.1 / frame.width) with
    | none => rfl
    | some left =>
      cases u32TryFrom (frame.overlayY * canvas.2 / frame.height) with
      | none => rfl
      | some top =>
        cases divCeilU128 ((frame.overlayX + frame.overlay.width) * canvas.1) frame.width with
        | none => rfl
        | some right =>
          cases divCeilU128 ((frame.overlayY + frame.overlay.height) * canvas.2) frame.height with
          | none => rfl
          | some bottom => rfl

def checkedOverlayGeometry (frame : PresentationFrame) (width height : Nat) :
    Option (Option OverlayGeometry) :=
  if frame.width = 0 ∨ frame.height = 0 ∨ width = 0 ∨ height = 0 then some none
  else do
    let some canvas ← checkedCanvasSize frame.width frame.height width height | pure none
    checkedPlaceOverlay frame width height canvas

theorem checkedOverlayGeometry_eq (frame : PresentationFrame) {width height : Nat}
    (surface : width < 2 ^ 32 ∧ height < 2 ^ 32) :
    checkedOverlayGeometry frame width height = some (overlayGeometry frame width height) := by
  simp only [checkedOverlayGeometry, overlayGeometry]
  split
  next => rfl
  next =>
    rw [checkedCanvasSize_eq ⟨frame.width_bound, frame.height_bound⟩
      ⟨frame.width_positive, frame.height_positive⟩ surface]
    cases fits : canvasSize frame.width frame.height width height with
    | none => rfl
    | some canvas =>
      obtain ⟨columns, rows⟩ := canvasSize_le fits
      exact checkedPlaceOverlay_eq frame columns rows surface

end Genkan.SessionLock
