import Genkan.Foundations.Raster
import Genkan.SessionLock.Frame

/-! # Drawing a presentation into a lock surface

The renderer of the session-lock runtime: the wallpaper is cover-cropped, the overlay is filtered
to its target size and blended over it, and everything on the authentication output is dimmed.
A byte buffer in ARGB8888 is a list of pixels, since every write of the source is one whole pixel.
-/

namespace Genkan.SessionLock

open Foundations

abbrev Rgb := UInt8 × UInt8 × UInt8

abbrev Rgba := UInt8 × UInt8 × UInt8 × UInt8

/-- One pixel of a little-endian ARGB8888 buffer, in memory order. -/
structure Argb where
  blue : UInt8
  green : UInt8
  red : UInt8
  alpha : UInt8
  deriving DecidableEq, Repr, Inhabited

abbrev Canvas := List Argb

def fallbackRgb : Rgb := (5, 9, 24)

def dimNumerator : Nat := 4

def dimDenominator : Nat := 5

def dim (value : UInt8) : UInt8 := (value.toNat * dimNumerator / dimDenominator).toUInt8

def blendChannel (background foreground alpha : UInt8) : UInt8 :=
  ((foreground.toNat * alpha.toNat + background.toNat * (255 - alpha.toNat)) / 255).toUInt8

def blendRgb (background : Rgb) (foreground : Rgba) : Rgb :=
  let (red, green, blue, alpha) := foreground
  (blendChannel background.1 red alpha, blendChannel background.2.1 green alpha,
    blendChannel background.2.2 blue alpha)

/-! ## The wallpaper -/

structure CoverGeometry where
  cropX : Nat
  cropY : Nat
  scaledWidth : Nat
  scaledHeight : Nat
  deriving DecidableEq, Repr

def coverGeometry (sourceWidth sourceHeight width height : Nat) : Option CoverGeometry :=
  if sourceWidth = 0 ∨ sourceHeight = 0 ∨ width = 0 ∨ height = 0 then none
  else
    let (scaledWidth, scaledHeight) :=
      if sourceWidth * height > width * sourceHeight then
        (sourceWidth * height / sourceHeight, height)
      else (width, sourceHeight * width / sourceWidth)
    some {
      cropX := (scaledWidth - width) / 2
      cropY := (scaledHeight - height) / 2
      scaledWidth
      scaledHeight }

def sourceCoordinate (position crop scaled source : Nat) : Nat :=
  min ((position + crop) * source / scaled) (source - 1)

structure BackgroundSampler where
  frame : Option RgbaFrame
  columns : List Nat
  cropY : Nat
  scaledHeight : Nat
  deriving DecidableEq, Repr

namespace BackgroundSampler

def fallback : BackgroundSampler := { frame := none, columns := [], cropY := 0, scaledHeight := 1 }

def new (frame : Option RgbaFrame) (width height : Nat) : BackgroundSampler :=
  match frame with
  | none => fallback
  | some frame =>
    match coverGeometry frame.width frame.height width height with
    | none => fallback
    | some geometry =>
      { frame := some frame
        columns := (List.range width).map fun x =>
          sourceCoordinate x geometry.cropX geometry.scaledWidth frame.width * 4
        cropY := geometry.cropY
        scaledHeight := geometry.scaledHeight }

def sourceRow (sampler : BackgroundSampler) (y : Nat) : Option Nat :=
  sampler.frame.map fun frame =>
    sourceCoordinate y sampler.cropY sampler.scaledHeight frame.height * frame.width * 4

def pixel (sampler : BackgroundSampler) (sourceRow : Option Nat) (x : Nat) : Rgb :=
  match sampler.frame, sourceRow with
  | some frame, some sourceRow =>
    let offset := sourceRow + sampler.columns.getD x 0
    (frame.pixels.data.getD offset 0, frame.pixels.data.getD (offset + 1) 0,
      frame.pixels.data.getD (offset + 2) 0)
  | _, _ => fallbackRgb

end BackgroundSampler

/-! ## The filtered overlay -/

def filterScale : Nat := 65536

structure WeightedSample where
  index : Nat
  weight : Nat
  deriving DecidableEq, Repr

def saturatingMul64 (left right : Nat) : Nat := min (left * right) (2 ^ 64 - 1)

def magnifiedSamples (source target position : Nat) : List WeightedSample :=
  let denominator := target * 2
  let centered := saturatingMul64 (position * 2 + 1) source - target
  let lower := min (centered / denominator) (source - 1)
  let upper := min (lower + 1) (source - 1)
  let upperWeight :=
    if lower = upper then 0 else (centered % denominator) * filterScale / denominator
  { index := lower, weight := filterScale - upperWeight } ::
    if upper ≠ lower ∧ upperWeight ≠ 0 then [{ index := upper, weight := upperWeight }] else []

def minifiedSample (start finish span index : Nat) : Option WeightedSample :=
  let sampleStart := index * filterScale
  let overlapStart := max start sampleStart
  let overlapEnd := min finish (sampleStart + filterScale)
  let normalizedStart := ((overlapStart - start) * filterScale + span / 2) / span
  let normalizedEnd := ((overlapEnd - start) * filterScale + span / 2) / span
  let weight := normalizedEnd - normalizedStart
  if weight ≠ 0 then some { index, weight } else none

def minifiedSamples (source target position : Nat) : List WeightedSample :=
  let start := position * source * filterScale / target
  let finish := (position + 1) * source * filterScale / target
  let first := start / filterScale
  let last := (finish - 1) / filterScale
  (List.range' first (last + 1 - first)).filterMap (minifiedSample start finish (finish - start))

/-- The samples of every target position; the source keeps them in one list with offsets. -/
def filteredAxis (source target : Nat) : List (List WeightedSample) :=
  (List.range target).map fun position =>
    if source ≤ target then magnifiedSamples source target position
    else minifiedSamples source target position

def coordinate (axis : List (List WeightedSample)) (position : Nat) : List WeightedSample :=
  axis.getD position []

structure Accumulated where
  alphaWeight : Nat
  red : Nat
  green : Nat
  blue : Nat
  deriving DecidableEq, Repr

def accumulate (frame : RgbaFrame) (row : WeightedSample) (total : Accumulated)
    (column : WeightedSample) : Accumulated :=
  let offset := (row.index * frame.width + column.index) * 4
  let weight := column.weight * row.weight
  let channel := fun position => (frame.pixels.data.getD (offset + position) 0).toNat
  let alpha := channel 3
  { alphaWeight := total.alphaWeight + alpha * weight
    red := total.red + channel 0 * alpha * weight
    green := total.green + channel 1 * alpha * weight
    blue := total.blue + channel 2 * alpha * weight }

def filteredPixel (frame : RgbaFrame) (horizontal vertical : List WeightedSample) : Rgba :=
  let total := vertical.foldl
    (fun total row => horizontal.foldl (accumulate frame row) total) ⟨0, 0, 0, 0⟩
  if total.alphaWeight = 0 then (0, 0, 0, 0)
  else
    let totalWeight := filterScale * filterScale
    ((total.red / total.alphaWeight).toUInt8, (total.green / total.alphaWeight).toUInt8,
      (total.blue / total.alphaWeight).toUInt8,
      ((total.alphaWeight + totalWeight / 2) / totalWeight).toUInt8)

def rgbaBytes (pixel : Rgba) : List UInt8 := [pixel.1, pixel.2.1, pixel.2.2.1, pixel.2.2.2]

/-- The address of a freshly scaled overlay is never compared; it is left at the source's. -/
def scaleOverlay (frame : RgbaFrame) (width height : Nat) : RgbaFrame :=
  if frame.dimensions = (width, height) then frame
  else
    let horizontal := filteredAxis frame.width width
    let vertical := filteredAxis frame.height height
    let data := (List.range height).flatMap fun y =>
      (List.range width).flatMap fun x =>
        rgbaBytes (filteredPixel frame (coordinate horizontal x) (coordinate vertical y))
    { width, height, pixels := { pointer := frame.pixels.pointer, data } }

def overlayAt (overlay : RgbaFrame) (x y : Nat) : Rgba :=
  let offset := (y * overlay.width + x) * 4
  (overlay.pixels.data.getD offset 0, overlay.pixels.data.getD (offset + 1) 0,
    overlay.pixels.data.getD (offset + 2) 0, overlay.pixels.data.getD (offset + 3) 0)

/-! ## Drawing a region -/

def backgroundColour (sampler : BackgroundSampler) (authentication : Bool) (x y : Nat) : Argb :=
  let (red, green, blue) := sampler.pixel (sampler.sourceRow y) x
  if authentication then
    { blue := dim blue, green := dim green, red := dim red, alpha := 255 }
  else { blue, green, red, alpha := 255 }

def overlayColour (sampler : BackgroundSampler) (overlay : Rgba) (x y : Nat) : Option Argb :=
  if overlay.2.2.2 = 0 then none
  else
    let (red, green, blue) := blendRgb (sampler.pixel (sampler.sourceRow y) x) overlay
    some { blue := dim blue, green := dim green, red := dim red, alpha := 255 }

/-- The overlay pixel over surface position `(x, y)`: read from the cache or filtered directly. -/
def overlaySample (frame : PresentationFrame) (target : Region) (scaledOverlay : Option RgbaFrame)
    (x y : Nat) : Rgba :=
  match scaledOverlay with
  | some overlay => overlayAt overlay (x - target.x) (y - target.y)
  | none =>
    filteredPixel frame.overlay
      (coordinate (filteredAxis frame.overlay.width target.width) (x - target.x))
      (coordinate (filteredAxis frame.overlay.height target.height) (y - target.y))

def halfOpen (start finish : Nat) : List Nat := List.range' start (finish - start)

def drawOpaqueRegionCached (target : Canvas) (width height : Nat) (frame : Option PresentationFrame)
    (scaledOverlay : Option RgbaFrame) (authentication : Bool) (region : Region) : Canvas :=
  let geometry := frame.bind (overlayGeometry · width height)
  let background := BackgroundSampler.new (frame.bind (·.background)) width height
  let endX := min (saturatingAdd32 region.x region.width) width
  let endY := min (saturatingAdd32 region.y region.height) height
  let drawn := Raster.paint width (fun x y => some (backgroundColour background authentication x y))
    (halfOpen region.x endX) (halfOpen region.y endY) target
  match frame.filter (fun _ => authentication), geometry with
  | some frame, some geometry =>
    match intersect region geometry.target with
    | none => drawn
    | some overlayRegion =>
      Raster.paint width
        (fun x y => overlayColour background (overlaySample frame geometry.target scaledOverlay x y) x y)
        (halfOpen overlayRegion.x (overlayRegion.x + overlayRegion.width))
        (halfOpen overlayRegion.y (overlayRegion.y + overlayRegion.height)) drawn
  | _, _ => drawn

def drawOpaqueCached (target : Canvas) (width height : Nat) (frame : Option PresentationFrame)
    (scaledOverlay : Option RgbaFrame) (authentication : Bool) : Canvas :=
  drawOpaqueRegionCached target width height frame scaledOverlay authentication
    (Region.full width height)

end Genkan.SessionLock
