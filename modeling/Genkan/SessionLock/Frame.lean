import Mathlib.Algebra.Ring.Nat

/-! # Frames, regions and their geometry

Pixel buffers carry the address that `Bytes::as_ptr` exposes, because the overlay cache compares
addresses and not contents.  Unsigned 32-bit quantities are natural numbers; the checked and
saturating operations of the source are written out where they are used.
-/

namespace Genkan.SessionLock

def u32Limit : Nat := 2 ^ 32

def checkedMul32 (left right : Nat) : Option Nat :=
  if left * right < u32Limit then some (left * right) else none

def saturatingAdd32 (left right : Nat) : Nat := min (left + right) (u32Limit - 1)

/-! ## Images -/

structure Bytes where
  pointer : Nat
  data : List UInt8
  deriving DecidableEq, Repr

structure RgbaFrame where
  width : Nat
  height : Nat
  pixels : Bytes
  deriving DecidableEq, Repr

namespace RgbaFrame

def expectedBytes (width height : Nat) : Option Nat :=
  (checkedMul32 width height).bind (checkedMul32 · 4)

def Valid (frame : RgbaFrame) : Prop :=
  0 < frame.width ∧ 0 < frame.height ∧
    expectedBytes frame.width frame.height = some frame.pixels.data.length

instance (frame : RgbaFrame) : Decidable frame.Valid :=
  inferInstanceAs (Decidable (_ ∧ _ ∧ _))

def new (width height : Nat) (pixels : Bytes) : Option RgbaFrame :=
  let frame : RgbaFrame := { width, height, pixels }
  if frame.Valid then some frame else none

def dimensions (frame : RgbaFrame) : Nat × Nat := (frame.width, frame.height)

/-- The two frames hold the same image, wherever their bytes are allocated. -/
def SameImage (first second : RgbaFrame) : Prop :=
  first.dimensions = second.dimensions ∧ first.pixels.data = second.pixels.data

theorem SameImage.refl (frame : RgbaFrame) : frame.SameImage frame := ⟨rfl, rfl⟩

theorem new_valid {width height : Nat} {pixels : Bytes} {frame : RgbaFrame}
    (accepted : new width height pixels = some frame) : frame.Valid := by
  simp only [new] at accepted
  split at accepted
  next valid =>
    cases accepted
    exact valid
  next => contradiction

/-- The pixels of a valid frame have 32-bit offsets. -/
theorem Valid.length {frame : RgbaFrame} (valid : frame.Valid) :
    frame.pixels.data.length = frame.width * frame.height * 4 ∧
      frame.width * frame.height * 4 < u32Limit := by
  obtain ⟨area, isArea, isLength⟩ := Option.bind_eq_some_iff.mp valid.2.2
  simp only [checkedMul32, Option.ite_none_right_eq_some, Option.some.injEq] at isArea isLength
  obtain ⟨_, rfl⟩ := isArea
  exact ⟨isLength.2.symm, isLength.1⟩

theorem Valid.width_lt {frame : RgbaFrame} (valid : frame.Valid) : frame.width < 2 ^ 30 := by
  have bound := valid.length.2
  have rows : frame.width * 1 ≤ frame.width * frame.height := Nat.mul_le_mul_left _ valid.2.1
  simp only [u32Limit] at bound
  omega

theorem Valid.height_lt {frame : RgbaFrame} (valid : frame.Valid) : frame.height < 2 ^ 30 := by
  have bound := valid.length.2
  have columns : 1 * frame.height ≤ frame.width * frame.height := Nat.mul_le_mul_right _ valid.1
  simp only [u32Limit] at bound
  omega

end RgbaFrame

/-- A frame as `PresentationFrame::new` lets it be built: the overlay lies inside the canvas. -/
structure PresentationFrame where
  width : Nat
  height : Nat
  background : Option RgbaFrame
  overlay : RgbaFrame
  overlayX : Nat
  overlayY : Nat
  width_positive : 0 < width
  height_positive : 0 < height
  overlay_columns : overlayX + overlay.width ≤ width
  overlay_rows : overlayY + overlay.height ≤ height
  width_bound : width < u32Limit
  height_bound : height < u32Limit
  overlay_valid : overlay.Valid
  background_valid : ∀ image ∈ background, image.Valid
  deriving DecidableEq

namespace PresentationFrame

def dimensions (frame : PresentationFrame) : Nat × Nat := (frame.width, frame.height)

end PresentationFrame

/-- The pixels of the background, or nothing where the frame has none. -/
def backgroundImage (frame : Option PresentationFrame) : Option ((Nat × Nat) × List UInt8) :=
  (frame.bind (·.background)).map fun image => (image.dimensions, image.pixels.data)

/-! ## Regions -/

structure Region where
  x : Nat
  y : Nat
  width : Nat
  height : Nat
  deriving DecidableEq, Repr

namespace Region

def full (width height : Nat) : Region := { x := 0, y := 0, width, height }

def Contains (region : Region) (x y : Nat) : Prop :=
  (region.x ≤ x ∧ x < region.x + region.width) ∧ (region.y ≤ y ∧ y < region.y + region.height)

instance (region : Region) (x y : Nat) : Decidable (region.Contains x y) :=
  inferInstanceAs (Decidable ((_ ∧ _) ∧ (_ ∧ _)))

/-- The region lies inside a surface of the given size. -/
def Within (region : Region) (width height : Nat) : Prop :=
  region.x + region.width ≤ width ∧ region.y + region.height ≤ height

theorem full_within (width height : Nat) : (full width height).Within width height :=
  ⟨by simp [full], by simp [full]⟩

theorem full_contains {width height x y : Nat} (column : x < width) (row : y < height) :
    (full width height).Contains x y := by
  simp [full, Contains, column, row]

end Region

def intersect (first second : Region) : Option Region :=
  let left := max first.x second.x
  let top := max first.y second.y
  let right := min (saturatingAdd32 first.x first.width) (saturatingAdd32 second.x second.width)
  let bottom := min (saturatingAdd32 first.y first.height) (saturatingAdd32 second.y second.height)
  if left < right ∧ top < bottom then
    some { x := left, y := top, width := right - left, height := bottom - top }
  else none

structure FrameGeometry where
  canvas : Nat × Nat
  overlay : Region
  deriving DecidableEq, Repr

def frameGeometry (frame : Option PresentationFrame) : Option FrameGeometry :=
  frame.map fun frame =>
    { canvas := frame.dimensions
      overlay := {
        x := frame.overlayX
        y := frame.overlayY
        width := frame.overlay.width
        height := frame.overlay.height } }

/-! ## Where the overlay is drawn -/

def u32TryFrom (value : Nat) : Option Nat := if value < u32Limit then some value else none

def divCeilU128 (numerator denominator : Nat) : Option Nat :=
  if 0 < denominator ∧ numerator + (denominator - 1) < 2 ^ 128 then
    u32TryFrom ((numerator + (denominator - 1)) / denominator)
  else none

structure OverlayGeometry where
  target : Region
  deriving DecidableEq, Repr

def canvasSize (sourceWidth sourceHeight width height : Nat) : Option (Nat × Nat) :=
  if width * sourceHeight ≤ sourceWidth * height then
    (u32TryFrom (sourceHeight * width / sourceWidth)).map fun canvasHeight => (width, canvasHeight)
  else
    (u32TryFrom (sourceWidth * height / sourceHeight)).map fun canvasWidth => (canvasWidth, height)

/-- The part of `overlay_geometry` after the canvas has been fitted into the surface. -/
def placeOverlay (frame : PresentationFrame) (width height : Nat) (canvas : Nat × Nat) :
    Option OverlayGeometry :=
  if canvas.1 = 0 ∨ canvas.2 = 0 then none
  else
    let canvasX := (width - canvas.1) / 2
    let canvasY := (height - canvas.2) / 2
    (u32TryFrom (frame.overlayX * canvas.1 / frame.width)).bind fun left =>
    (u32TryFrom (frame.overlayY * canvas.2 / frame.height)).bind fun top =>
    (divCeilU128 ((frame.overlayX + frame.overlay.width) * canvas.1) frame.width).bind fun right =>
    (divCeilU128 ((frame.overlayY + frame.overlay.height) * canvas.2) frame.height).map fun bottom =>
      { target := {
          x := canvasX + left
          y := canvasY + top
          width := (canvasX + right) - (canvasX + left)
          height := (canvasY + bottom) - (canvasY + top) } }

def overlayGeometry (frame : PresentationFrame) (width height : Nat) : Option OverlayGeometry :=
  if frame.width = 0 ∨ frame.height = 0 ∨ width = 0 ∨ height = 0 then none
  else (canvasSize frame.width frame.height width height).bind (placeOverlay frame width height)

def overlayRegion (frame : Option PresentationFrame) (width height : Nat) : Option Region :=
  (frame.bind (overlayGeometry · width height)).map (·.target)

/-! ## The overlay stays inside the surface -/

theorem u32TryFrom_some {value result : Nat} (converted : u32TryFrom value = some result) :
    result = value ∧ value < u32Limit := by
  simp only [u32TryFrom] at converted
  split at converted
  next bound =>
    cases converted
    exact ⟨rfl, bound⟩
  next => contradiction

theorem divCeilU128_some {numerator denominator result : Nat}
    (divided : divCeilU128 numerator denominator = some result) :
    0 < denominator ∧ result = (numerator + (denominator - 1)) / denominator := by
  simp only [divCeilU128] at divided
  split at divided
  next bounds => exact ⟨bounds.1, (u32TryFrom_some divided).1⟩
  next => contradiction

/-- Rounding up never leaves the scaled interval `[0, scaled]`. -/
theorem ceil_scaled_le {part whole : Nat} (scaled : Nat) (positive : 0 < whole) (bound : part ≤ whole) :
    (part * scaled + (whole - 1)) / whole ≤ scaled := by
  have product : part * scaled ≤ whole * scaled := Nat.mul_le_mul_right _ bound
  have strict : part * scaled + (whole - 1) < (scaled + 1) * whole := by
    rw [Nat.add_mul, Nat.one_mul, Nat.mul_comm scaled whole]
    omega
  exact Nat.lt_succ_iff.mp ((Nat.div_lt_iff_lt_mul positive).mpr strict)

theorem floor_scaled_le {part whole scaled : Nat} (bound : part ≤ whole) :
    part * scaled / whole ≤ scaled := by
  apply Nat.div_le_of_le_mul
  exact Nat.mul_le_mul_right _ bound

theorem canvasSize_le {sourceWidth sourceHeight width height : Nat} {canvas : Nat × Nat}
    (fits : canvasSize sourceWidth sourceHeight width height = some canvas) :
    canvas.1 ≤ width ∧ canvas.2 ≤ height := by
  simp only [canvasSize] at fits
  split at fits
  next widthLimited =>
    simp only [Option.map_eq_some_iff] at fits
    obtain ⟨canvasHeight, converted, rfl⟩ := fits
    obtain ⟨rfl, _⟩ := u32TryFrom_some converted
    refine ⟨Nat.le_refl _, ?_⟩
    apply Nat.div_le_of_le_mul
    calc sourceHeight * width = width * sourceHeight := Nat.mul_comm _ _
      _ ≤ sourceWidth * height := widthLimited
  next heightLimited =>
    simp only [Option.map_eq_some_iff] at fits
    obtain ⟨canvasWidth, converted, rfl⟩ := fits
    obtain ⟨rfl, _⟩ := u32TryFrom_some converted
    refine ⟨?_, Nat.le_refl _⟩
    apply Nat.div_le_of_le_mul
    rw [Nat.mul_comm sourceHeight width]
    omega

theorem placeOverlay_within {frame : PresentationFrame} {width height : Nat} {canvas : Nat × Nat}
    {geometry : OverlayGeometry} (columns : canvas.1 ≤ width) (rows : canvas.2 ≤ height)
    (placed : placeOverlay frame width height canvas = some geometry) :
    geometry.target.Within width height := by
  simp only [placeOverlay] at placed
  split at placed
  next => contradiction
  next =>
    simp only [Option.bind_eq_some_iff, Option.map_eq_some_iff] at placed
    obtain ⟨left, leftConverted, top, topConverted, right, rightDivided, bottom, bottomDivided,
      rfl⟩ := placed
    obtain ⟨_, rfl⟩ := divCeilU128_some rightDivided
    obtain ⟨_, rfl⟩ := divCeilU128_some bottomDivided
    have rightBound := ceil_scaled_le canvas.1 frame.width_positive
      frame.overlay_columns
    have bottomBound := ceil_scaled_le canvas.2 frame.height_positive
      frame.overlay_rows
    have leftBound : left ≤ canvas.1 := by
      rw [(u32TryFrom_some leftConverted).1]
      exact floor_scaled_le (Nat.le_trans (Nat.le_add_right _ _) frame.overlay_columns)
    have topBound : top ≤ canvas.2 := by
      rw [(u32TryFrom_some topConverted).1]
      exact floor_scaled_le (Nat.le_trans (Nat.le_add_right _ _) frame.overlay_rows)
    simp only [Region.Within]
    constructor <;> omega

theorem overlayGeometry_within {frame : PresentationFrame} {width height : Nat}
    {geometry : OverlayGeometry} (placed : overlayGeometry frame width height = some geometry) :
    geometry.target.Within width height := by
  simp only [overlayGeometry] at placed
  split at placed
  next => contradiction
  next =>
    obtain ⟨canvas, fits, placed⟩ := Option.bind_eq_some_iff.mp placed
    obtain ⟨columns, rows⟩ := canvasSize_le fits
    exact placeOverlay_within columns rows placed

/-- Scaling keeps a non-empty interval non-empty, since its end is rounded up. -/
theorem floor_lt_ceil_scaled {start size whole scaled : Nat} (whole_positive : 0 < whole)
    (scaled_positive : 0 < scaled) (size_positive : 0 < size) :
    start * scaled / whole < ((start + size) * scaled + (whole - 1)) / whole := by
  have grows : start * scaled + 1 ≤ (start + size) * scaled := by
    have part : 1 ≤ size * scaled := Nat.mul_pos size_positive scaled_positive
    rw [Nat.add_mul]
    omega
  apply (Nat.le_div_iff_mul_le whole_positive).mpr
  have floor := Nat.div_mul_le_self (start * scaled) whole
  rw [Nat.succ_mul]
  omega

theorem overlayGeometry_positive {frame : PresentationFrame} {width height : Nat}
    {geometry : OverlayGeometry} (placed : overlayGeometry frame width height = some geometry) :
    0 < geometry.target.width ∧ 0 < geometry.target.height := by
  simp only [overlayGeometry] at placed
  split at placed
  next => contradiction
  next =>
    obtain ⟨canvas, _, placed⟩ := Option.bind_eq_some_iff.mp placed
    simp only [placeOverlay] at placed
    split at placed
    next => contradiction
    next nonempty =>
      simp only [not_or, ← Nat.pos_iff_ne_zero] at nonempty
      simp only [Option.bind_eq_some_iff, Option.map_eq_some_iff] at placed
      obtain ⟨left, leftConverted, top, topConverted, right, rightDivided, bottom, bottomDivided,
        rfl⟩ := placed
      obtain ⟨_, rfl⟩ := divCeilU128_some rightDivided
      obtain ⟨_, rfl⟩ := divCeilU128_some bottomDivided
      have columns := @floor_lt_ceil_scaled frame.overlayX _ _ _ frame.width_positive nonempty.1
        frame.overlay_valid.1
      have rows := @floor_lt_ceil_scaled frame.overlayY _ _ _ frame.height_positive nonempty.2
        frame.overlay_valid.2.1
      rw [← (u32TryFrom_some leftConverted).1] at columns
      rw [← (u32TryFrom_some topConverted).1] at rows
      exact ⟨by simp only; omega, by simp only; omega⟩

/-- A common part lies inside the second region. -/
theorem intersect_inside {first second region : Region} (meets : intersect first second = some region) :
    (second.x ≤ region.x ∧ region.x + region.width ≤ second.x + second.width) ∧
      (second.y ≤ region.y ∧ region.y + region.height ≤ second.y + second.height) := by
  simp only [intersect] at meets
  split at meets
  next =>
    cases meets
    simp only [saturatingAdd32] at *
    omega
  next => contradiction

/-- The target depends on the frame's geometry alone. -/
theorem overlayGeometry_congr {first second : PresentationFrame}
    (same : frameGeometry (some first) = frameGeometry (some second)) (width height : Nat) :
    overlayGeometry first width height = overlayGeometry second width height := by
  simp only [frameGeometry, Option.map_some, Option.some.injEq, FrameGeometry.mk.injEq,
    Region.mk.injEq, PresentationFrame.dimensions, Prod.mk.injEq] at same
  obtain ⟨⟨widths, heights⟩, columns, rows, overlayWidths, overlayHeights⟩ := same
  have placement : placeOverlay first width height = placeOverlay second width height := by
    funext canvas
    simp only [placeOverlay, widths, heights, columns, rows, overlayWidths, overlayHeights]
  simp only [overlayGeometry, widths, heights, placement]

/-- Frames of equal geometry are either both absent or both placed in the same way. -/
theorem overlayGeometry_bind_congr {first second : Option PresentationFrame}
    (same : frameGeometry first = frameGeometry second) (width height : Nat) :
    first.bind (overlayGeometry · width height) = second.bind (overlayGeometry · width height) := by
  cases first with
  | none =>
    cases second with
    | none => rfl
    | some frame => simp [frameGeometry] at same
  | some left =>
    cases second with
    | none => simp [frameGeometry] at same
    | some right => exact overlayGeometry_congr same width height

end Genkan.SessionLock
