import Genkan.Foundations.WeightedMean
import Genkan.SessionLock.CheckedFilter

/-! # What a filtered pixel looks like

The sums over the samples of a position are weighted sums: of the alphas with the weights of the
samples, and of each channel with the weighted alphas.  The filtered pixel divides one by the other, so
it stays within the pixels that it is made of, and the pixel of a uniform image is found again.
-/

namespace Genkan.SessionLock

open Foundations WeightedMean

/-! ## Every sample has a weight -/

theorem upperWeight_lt {target : Nat} (positive : 0 < target) (centered : Nat) :
    centered % (target * 2) * filterScale / (target * 2) < filterScale := by
  have denominator : 0 < target * 2 := by omega
  rw [Nat.div_lt_iff_lt_mul denominator, Nat.mul_comm filterScale]
  exact Nat.mul_lt_mul_of_pos_right (Nat.mod_lt _ denominator) (by decide)

theorem magnifiedSamples_weighted {target : Nat} (positive : 0 < target) (source position : Nat) :
    ∀ sample ∈ magnifiedSamples source target position, 0 < sample.weight := by
  have upper := upperWeight_lt positive (saturatingMul64 (position * 2 + 1) source - target)
  intro sample member
  simp only [magnifiedSamples, List.mem_cons, List.mem_ite_nil_right, List.not_mem_nil, or_false] at member
  cases member with
  | inl isLower =>
    subst isLower
    simp only
    split
    next => decide
    next => omega
  | inr isUpper =>
    obtain ⟨⟨_, weighted⟩, isUpper⟩ := isUpper
    subst isUpper
    exact Nat.pos_of_ne_zero weighted

theorem minifiedSamples_weighted (source target position : Nat) :
    ∀ sample ∈ minifiedSamples source target position, 0 < sample.weight := by
  intro sample member
  obtain ⟨index, _, taken⟩ := List.mem_filterMap.mp member
  rw [minifiedSample_eq, Option.ite_none_right_eq_some, Option.some_inj] at taken
  obtain ⟨weighted, isSample⟩ := taken
  subst isSample
  exact Nat.pos_of_ne_zero weighted

theorem filteredAxis_weighted {source target position : Nat} (inside : position < target) :
    ∀ sample ∈ coordinate (filteredAxis source target) position, 0 < sample.weight := by
  rw [coordinate_filteredAxis inside]
  split
  next => exact magnifiedSamples_weighted (by omega) source position
  next => exact minifiedSamples_weighted source target position

theorem WholePixel.nonempty {source : Nat} {samples : List WeightedSample} (whole : WholePixel source samples) :
    samples ≠ [] := by
  intro empty
  subst empty
  cases whole.weights

/-! ## The sums as weighted sums -/

/-- The pixels under the samples, each with its weight. -/
def contributions (frame : RgbaFrame) (horizontal vertical : List WeightedSample) : List (Rgba × Nat) :=
  vertical.flatMap fun row =>
    horizontal.map fun column => (overlayAt frame column.index row.index, column.weight * row.weight)

def alphaTerms (pixels : List (Rgba × Nat)) : List (Nat × Nat) :=
  pixels.map fun pixel => (pixel.1.2.2.2.toNat, pixel.2)

/-- The values of a channel, weighted with the alphas. -/
def channelTerms (channel : Rgba → UInt8) (pixels : List (Rgba × Nat)) : List (Nat × Nat) :=
  pixels.map fun pixel => ((channel pixel.1).toNat, pixel.1.2.2.2.toNat * pixel.2)

def Accumulated.add (total : Accumulated) (pixel : Rgba × Nat) : Accumulated :=
  let alpha := pixel.1.2.2.2.toNat
  { alphaWeight := total.alphaWeight + alpha * pixel.2
    red := total.red + pixel.1.1.toNat * alpha * pixel.2
    green := total.green + pixel.1.2.1.toNat * alpha * pixel.2
    blue := total.blue + pixel.1.2.2.1.toNat * alpha * pixel.2 }

theorem foldl_add (pixels : List (Rgba × Nat)) (start : Accumulated) :
    pixels.foldl Accumulated.add start =
      { alphaWeight := start.alphaWeight + total (alphaTerms pixels)
        red := start.red + total (channelTerms (·.1) pixels)
        green := start.green + total (channelTerms (·.2.1) pixels)
        blue := start.blue + total (channelTerms (·.2.2.1) pixels) } := by
  induction pixels generalizing start with
  | nil => rfl
  | cons pixel pixels inductionHypothesis =>
    rw [List.foldl_cons, inductionHypothesis]
    simp only [Accumulated.add, alphaTerms, channelTerms, List.map_cons, total_cons, Nat.add_assoc, Nat.mul_assoc]

theorem accumulated_eq (frame : RgbaFrame) (horizontal vertical : List WeightedSample) :
    vertical.foldl (fun total row => horizontal.foldl (accumulate frame row) total) ⟨0, 0, 0, 0⟩ =
      (contributions frame horizontal vertical).foldl Accumulated.add ⟨0, 0, 0, 0⟩ := by
  rw [contributions, List.foldl_flatMap]
  congr 1
  funext start row
  rw [List.foldl_map]
  rfl

theorem weightSum_scaled (samples : List WeightedSample) (factor : Nat) :
    (samples.map fun sample => sample.weight * factor).sum = weightSum samples * factor := by
  induction samples with
  | nil => simp
  | cons sample samples inductionHypothesis => simp [inductionHypothesis, Nat.add_mul]

theorem weight_contributions (frame : RgbaFrame) (horizontal vertical : List WeightedSample) :
    weight (alphaTerms (contributions frame horizontal vertical)) = weightSum horizontal * weightSum vertical := by
  induction vertical with
  | nil => simp [contributions, alphaTerms]
  | cons row rows inductionHypothesis =>
    rw [weightSum_cons, Nat.mul_add, ← inductionHypothesis, ← weightSum_scaled]
    simp [contributions, alphaTerms, weight, Function.comp_def]

theorem weight_channelTerms (channel : Rgba → UInt8) (pixels : List (Rgba × Nat)) :
    weight (channelTerms channel pixels) = total (alphaTerms pixels) := by
  simp [weight, total, channelTerms, alphaTerms, Function.comp_def]

/-! ## One pixel -/

/-- The pixel lies under the samples. -/
def Contributes (frame : RgbaFrame) (horizontal vertical : List WeightedSample) (pixel : Rgba) : Prop :=
  ∃ column ∈ horizontal, ∃ row ∈ vertical, pixel = overlayAt frame column.index row.index

/-- Bounds of a channel over the contributing pixels that are not transparent. -/
def ChannelBounds (frame : RgbaFrame) (horizontal vertical : List WeightedSample) (channel : Rgba → UInt8)
    (low high : Nat) : Prop :=
  ∀ pixel, Contributes frame horizontal vertical pixel → pixel.2.2.2 ≠ 0 →
    low ≤ (channel pixel).toNat ∧ (channel pixel).toNat ≤ high

/-- The colour channels and the alpha of a filtered pixel lie within those of the contributing pixels. -/
structure Blended (frame : RgbaFrame) (horizontal vertical : List WeightedSample) (pixel : Rgba) : Prop where
  clear : (∀ source, Contributes frame horizontal vertical source → source.2.2.2 = 0) → pixel = (0, 0, 0, 0)
  channels : (∃ source, Contributes frame horizontal vertical source ∧ source.2.2.2 ≠ 0) →
    ∀ channel ∈ [(·.1), (·.2.1), (·.2.2.1)], ∀ low high,
      ChannelBounds frame horizontal vertical channel low high →
        low ≤ (channel pixel).toNat ∧ (channel pixel).toNat ≤ high
  alpha : ∀ low high : Nat,
    (∀ source, Contributes frame horizontal vertical source →
      low ≤ source.2.2.2.toNat ∧ source.2.2.2.toNat ≤ high) →
    low ≤ pixel.2.2.2.toNat ∧ pixel.2.2.2.toNat ≤ high

theorem mem_contributions {frame : RgbaFrame} {horizontal vertical : List WeightedSample} {pixel : Rgba} :
    (∃ weight, (pixel, weight) ∈ contributions frame horizontal vertical) ↔
      Contributes frame horizontal vertical pixel := by
  constructor
  · intro ⟨weight, member⟩
    obtain ⟨row, isRow, member⟩ := List.mem_flatMap.mp member
    obtain ⟨column, isColumn, same⟩ := List.mem_map.mp member
    cases same
    exact ⟨column, isColumn, row, isRow, rfl⟩
  · intro ⟨column, isColumn, row, isRow, same⟩
    subst same
    exact ⟨_, List.mem_flatMap.mpr ⟨row, isRow, List.mem_map.mpr ⟨column, isColumn, rfl⟩⟩⟩

theorem filteredPixel_eq (frame : RgbaFrame) (horizontal vertical : List WeightedSample) :
    let pixels := contributions frame horizontal vertical
    filteredPixel frame horizontal vertical =
      if total (alphaTerms pixels) = 0 then (0, 0, 0, 0)
      else
        ((total (channelTerms (·.1) pixels) / total (alphaTerms pixels)).toUInt8,
          (total (channelTerms (·.2.1) pixels) / total (alphaTerms pixels)).toUInt8,
          (total (channelTerms (·.2.2.1) pixels) / total (alphaTerms pixels)).toUInt8,
          ((total (alphaTerms pixels) + filterScale * filterScale / 2) / (filterScale * filterScale)).toUInt8) := by
  simp only [filteredPixel, accumulated_eq, foldl_add, Nat.zero_add]

theorem toNat_toUInt8_between {value low high : Nat} (between : low ≤ value ∧ value ≤ high) (byte : value ≤ 255) :
    low ≤ value.toUInt8.toNat ∧ value.toUInt8.toNat ≤ high := by
  rw [UInt8.toNat_ofNat', Nat.mod_eq_of_lt (by omega)]
  exact between

theorem channel_between {frame : RgbaFrame} {horizontal vertical : List WeightedSample} (channel : Rgba → UInt8)
    (weighted : total (alphaTerms (contributions frame horizontal vertical)) ≠ 0) {low high : Nat}
    (bounds : ChannelBounds frame horizontal vertical channel low high) :
    let pixels := contributions frame horizontal vertical
    low ≤ (total (channelTerms channel pixels) / total (alphaTerms pixels)).toUInt8.toNat ∧
      (total (channelTerms channel pixels) / total (alphaTerms pixels)).toUInt8.toNat ≤ high := by
  intro pixels
  have positive : 0 < weight (channelTerms channel pixels) := by
    rw [weight_channelTerms]
    exact Nat.pos_of_ne_zero weighted
  have terms : ∀ term ∈ channelTerms channel pixels, term.2 ≠ 0 →
      (low ≤ term.1 ∧ term.1 ≤ high) ∧ (0 ≤ term.1 ∧ term.1 ≤ 255) := by
    intro term member visible
    obtain ⟨⟨pixel, weight⟩, isPixel, same⟩ := List.mem_map.mp member
    subst same
    have shown : pixel.2.2.2 ≠ 0 := by
      intro clear
      exact visible (by simp [clear])
    have bound := (channel pixel).toNat_lt
    exact ⟨bounds pixel (mem_contributions.mp ⟨weight, isPixel⟩) shown, Nat.zero_le _, by simp only; omega⟩
  have between := mean_between positive fun term member visible => (terms term member visible).1
  have byte := mean_between positive fun term member visible => (terms term member visible).2
  rw [weight_channelTerms] at between byte
  exact toNat_toUInt8_between between byte.2

theorem alpha_between {frame : RgbaFrame} {horizontal vertical : List WeightedSample}
    (whole : weightSum horizontal * weightSum vertical = filterScale * filterScale) {low high : Nat}
    (bounds : ∀ source, Contributes frame horizontal vertical source →
      low ≤ source.2.2.2.toNat ∧ source.2.2.2.toNat ≤ high) :
    let pixels := contributions frame horizontal vertical
    low ≤ ((total (alphaTerms pixels) + filterScale * filterScale / 2) /
        (filterScale * filterScale)).toUInt8.toNat ∧
      ((total (alphaTerms pixels) + filterScale * filterScale / 2) /
        (filterScale * filterScale)).toUInt8.toNat ≤ high := by
  intro pixels
  have isWhole : weight (alphaTerms pixels) = filterScale * filterScale := by
    rw [weight_contributions, whole]
  have positive : 0 < weight (alphaTerms pixels) := by
    rw [isWhole]
    decide
  have terms : ∀ term ∈ alphaTerms pixels, term.2 ≠ 0 →
      (low ≤ term.1 ∧ term.1 ≤ high) ∧ (0 ≤ term.1 ∧ term.1 ≤ 255) := by
    intro term member _
    obtain ⟨⟨pixel, weight⟩, isPixel, same⟩ := List.mem_map.mp member
    subst same
    have bound := pixel.2.2.2.toNat_lt
    exact ⟨bounds pixel (mem_contributions.mp ⟨weight, isPixel⟩), Nat.zero_le _, by simp only; omega⟩
  have between := rounded_between positive fun term member visible => (terms term member visible).1
  have byte := rounded_between positive fun term member visible => (terms term member visible).2
  rw [isWhole] at between byte
  exact toNat_toUInt8_between between byte.2

/-- A contributing pixel that is not transparent gives the sum of the alphas a weight. -/
theorem total_alphaTerms_eq_zero {frame : RgbaFrame} {horizontal vertical : List WeightedSample}
    (weightedColumns : ∀ sample ∈ horizontal, 0 < sample.weight)
    (weightedRows : ∀ sample ∈ vertical, 0 < sample.weight) :
    total (alphaTerms (contributions frame horizontal vertical)) = 0 ↔
      ∀ source, Contributes frame horizontal vertical source → source.2.2.2 = 0 := by
  constructor
  · intro weightless source ⟨column, isColumn, row, isRow, same⟩
    by_contra visible
    have member : (source, column.weight * row.weight) ∈ contributions frame horizontal vertical := by
      subst same
      exact List.mem_flatMap.mpr ⟨row, isRow, List.mem_map.mpr ⟨column, isColumn, rfl⟩⟩
    have term : ((source.1).toNat, source.2.2.2.toNat * (column.weight * row.weight)) ∈
        channelTerms (·.1) (contributions frame horizontal vertical) :=
      List.mem_map.mpr ⟨_, member, rfl⟩
    have counted := le_weight term
    have alpha : 0 < source.2.2.2.toNat := by
      apply Nat.pos_of_ne_zero
      intro clear
      exact visible (UInt8.toNat_inj.mp clear)
    have positive := Nat.mul_pos alpha (Nat.mul_pos (weightedColumns column isColumn) (weightedRows row isRow))
    rw [weight_channelTerms, weightless] at counted
    omega
  · intro clear
    have above : ∀ term ∈ alphaTerms (contributions frame horizontal vertical), term.2 ≠ 0 → term.1 ≤ 0 := by
      intro term member _
      obtain ⟨⟨pixel, weight⟩, isPixel, same⟩ := List.mem_map.mp member
      subst same
      simp [clear pixel (mem_contributions.mp ⟨weight, isPixel⟩)]
    have bound := total_le_high_mul above
    omega

theorem filteredPixel_blended {frame : RgbaFrame} {horizontal vertical : List WeightedSample}
    (columns : WholePixel frame.width horizontal) (rows : WholePixel frame.height vertical)
    (weightedColumns : ∀ sample ∈ horizontal, 0 < sample.weight)
    (weightedRows : ∀ sample ∈ vertical, 0 < sample.weight) :
    Blended frame horizontal vertical (filteredPixel frame horizontal vertical) := by
  have transparent := @total_alphaTerms_eq_zero frame _ _ weightedColumns weightedRows
  have whole : weightSum horizontal * weightSum vertical = filterScale * filterScale := by
    rw [columns.weights, rows.weights]
  have pixel := filteredPixel_eq frame horizontal vertical
  simp only at pixel
  by_cases weightless : total (alphaTerms (contributions frame horizontal vertical)) = 0
  · rw [if_pos weightless] at pixel
    rw [pixel]
    have clear := transparent.mp weightless
    constructor
    case clear => exact fun _ => rfl
    case channels =>
      intro ⟨source, contributes, visible⟩
      exact absurd (clear source contributes) visible
    case alpha =>
      intro low high bounds
      obtain ⟨column, isColumn⟩ := List.exists_mem_of_ne_nil _ columns.nonempty
      obtain ⟨row, isRow⟩ := List.exists_mem_of_ne_nil _ rows.nonempty
      have contributes : Contributes frame horizontal vertical (overlayAt frame column.index row.index) :=
        ⟨column, isColumn, row, isRow, rfl⟩
      have bound := bounds _ contributes
      rwa [clear _ contributes] at bound
  · rw [if_neg weightless] at pixel
    rw [pixel]
    constructor
    case clear => exact fun clear => absurd (transparent.mpr clear) weightless
    case channels =>
      intro _ channel member low high bounds
      have between := channel_between channel weightless bounds
      simp only [List.mem_cons, List.not_mem_nil, or_false] at member
      obtain isRed | isGreen | isBlue := member
      · subst isRed
        exact between
      · subst isGreen
        exact between
      · subst isBlue
        exact between
    case alpha =>
      intro low high bounds
      exact alpha_between whole bounds

/-! ## A uniform image -/

def RgbaFrame.Uniform (frame : RgbaFrame) (colour : Rgba) : Prop :=
  ∀ x, x < frame.width → ∀ y, y < frame.height → overlayAt frame x y = colour

/-- A blended pixel between equal bounds is that of the uniform image, unless the colour is transparent. -/
theorem Blended.uniform {frame : RgbaFrame} {colour : Rgba} (uniform : frame.Uniform colour)
    {horizontal vertical : List WeightedSample} (columns : WholePixel frame.width horizontal)
    (rows : WholePixel frame.height vertical) {pixel : Rgba}
    (blended : Blended frame horizontal vertical pixel) :
    pixel = if colour.2.2.2 = 0 then (0, 0, 0, 0) else colour := by
  have same : ∀ source, Contributes frame horizontal vertical source → source = colour := by
    intro source ⟨column, isColumn, row, isRow, isSource⟩
    rw [isSource, uniform _ (columns.inside column isColumn) _ (rows.inside row isRow)]
  split
  next transparent =>
    apply blended.clear
    intro source contributes
    rw [same source contributes, transparent]
  next visible =>
    obtain ⟨column, isColumn⟩ := List.exists_mem_of_ne_nil _ columns.nonempty
    obtain ⟨row, isRow⟩ := List.exists_mem_of_ne_nil _ rows.nonempty
    have contributes : Contributes frame horizontal vertical (overlayAt frame column.index row.index) :=
      ⟨column, isColumn, row, isRow, rfl⟩
    have channel : ∀ channel ∈ [(·.1), (·.2.1), (·.2.2.1)], channel pixel = channel colour := by
      intro channel member
      have between := blended.channels ⟨_, contributes, by rwa [same _ contributes]⟩ channel member
        (channel colour).toNat (channel colour).toNat (by
          intro source contributes _
          simp [same source contributes])
      exact UInt8.toNat_inj.mp (Nat.le_antisymm between.2 between.1)
    have alpha : pixel.2.2.2 = colour.2.2.2 := by
      have between := blended.alpha colour.2.2.2.toNat colour.2.2.2.toNat (by
        intro source contributes
        simp [same source contributes])
      exact UInt8.toNat_inj.mp (Nat.le_antisymm between.2 between.1)
    exact Prod.ext (channel (·.1) (by simp)) (Prod.ext (channel (·.2.1) (by simp))
      (Prod.ext (channel (·.2.2.1) (by simp)) alpha))

/-! ## The scaled overlay -/

/-- What the axis finds for a position: samples of the source that make up one whole pixel. -/
structure Normalized (source : Nat) (axis : FilteredAxis) (position : Nat) (samples : List WeightedSample) :
    Prop where
  found : axis.checkedCoordinate position = some samples
  nonempty : samples ≠ []
  inside : ∀ sample ∈ samples, sample.index < source
  weights : (samples.map (·.weight)).sum = 65536

theorem checkedFilteredAxis_normalized {source target : Nat} (admitted : 0 < source ∧ source < 2 ^ 30)
    (drawable : target ≤ maxSurfaceDimension) :
    ∃ axis, checkedFilteredAxis source target = some axis ∧
      ∀ position, position < target →
        Normalized source axis position (coordinate (filteredAxis source target) position) := by
  obtain ⟨axis, returns, finds⟩ := @checkedFilteredAxis_eq source target admitted.1 admitted.2
    (Nat.lt_of_le_of_lt drawable (by decide))
  refine ⟨axis, returns, fun position inside => ?_⟩
  have whole := @filteredAxis_wholePixel source target position admitted.1 inside
  exact ⟨finds position inside, whole.nonempty, whole.inside, whole.weights⟩

theorem filteredPixel_axes_blended {frame : RgbaFrame} (valid : frame.Valid) {width height x y : Nat}
    (column : x < width) (row : y < height) :
    let horizontal := coordinate (filteredAxis frame.width width) x
    let vertical := coordinate (filteredAxis frame.height height) y
    checkedFilteredPixel frame horizontal vertical = some (filteredPixel frame horizontal vertical) ∧
      Blended frame horizontal vertical (filteredPixel frame horizontal vertical) := by
  have columns := @filteredAxis_wholePixel frame.width width x valid.1 column
  have rows := @filteredAxis_wholePixel frame.height height y valid.2.1 row
  exact ⟨checkedFilteredPixel_eq valid columns rows,
    filteredPixel_blended columns rows (filteredAxis_weighted column) (filteredAxis_weighted row)⟩

theorem scaleOverlay_uniform {frame : RgbaFrame} (valid : frame.Valid) {colour : Rgba}
    (uniform : frame.Uniform colour) {width height x y : Nat} (column : x < width) (row : y < height) :
    overlayAt (scaleOverlay frame width height) x y =
      if frame.dimensions ≠ (width, height) ∧ colour.2.2.2 = 0 then (0, 0, 0, 0) else colour := by
  simp only [scaleOverlay]
  split
  next same =>
    rw [if_neg fun changed => changed.1 same]
    simp only [RgbaFrame.dimensions, Prod.mk.injEq] at same
    exact uniform x (same.1 ▸ column) y (same.2 ▸ row)
  next changed =>
    rw [overlayAt_rows _ (fun x y => filteredPixel frame (coordinate (filteredAxis frame.width width) x)
      (coordinate (filteredAxis frame.height height) y)) column row,
      (filteredPixel_axes_blended valid column row).2.uniform uniform
        (filteredAxis_wholePixel valid.1 column) (filteredAxis_wholePixel valid.2.1 row)]
    simp only [ne_eq, changed, not_false_eq_true, true_and]

/-- For every overlay and every size of a surface, the axes and the pixels are computed without overflow,
the samples of a position make up one whole pixel, and the filtered pixel stays within the pixels under
them.  A uniform image scales to itself, but a transparent one loses its colour with its size. -/
theorem overlay_filter {frame : RgbaFrame} (valid : frame.Valid) {width height : Nat}
    (drawable : Drawable (width, height)) :
    (∃ horizontal vertical,
      checkedFilteredAxis frame.width width = some horizontal ∧
      checkedFilteredAxis frame.height height = some vertical ∧
      ∀ x, x < width → ∀ y, y < height → ∃ columns rows pixel,
        Normalized frame.width horizontal x columns ∧ Normalized frame.height vertical y rows ∧
        checkedFilteredPixel frame columns rows = some pixel ∧ Blended frame columns rows pixel) ∧
    ∀ colour, frame.Uniform colour → ∀ x, x < width → ∀ y, y < height →
      overlayAt (scaleOverlay frame width height) x y =
        if frame.dimensions ≠ (width, height) ∧ colour.2.2.2 = 0 then (0, 0, 0, 0) else colour := by
  obtain ⟨horizontal, isHorizontal, columns⟩ :=
    checkedFilteredAxis_normalized ⟨valid.1, valid.width_lt⟩ drawable.1
  obtain ⟨vertical, isVertical, rows⟩ :=
    checkedFilteredAxis_normalized ⟨valid.2.1, valid.height_lt⟩ drawable.2
  constructor
  · refine ⟨horizontal, vertical, isHorizontal, isVertical, fun x column y row => ?_⟩
    obtain ⟨returns, blended⟩ := filteredPixel_axes_blended valid column row
    exact ⟨_, _, _, columns x column, rows y row, returns, blended⟩
  · intro colour uniform x column y row
    exact scaleOverlay_uniform valid uniform column row

/-- Opaque red and transparent green over half transparent blue and opaque white. -/
def quarters : RgbaFrame where
  width := 2
  height := 2
  pixels := { pointer := 0, data := [255, 0, 0, 255, 0, 255, 0, 0, 0, 0, 255, 128, 255, 255, 255, 255] }

/-- The middle of three positions over two pixels. -/
def halves : List WeightedSample := [⟨0, 32768⟩, ⟨1, 32768⟩]

/-- One transparent red pixel. -/
def transparentRed : RgbaFrame := { width := 1, height := 1, pixels := { pointer := 0, data := [255, 0, 0, 0] } }

theorem transparentRed_valid : transparentRed.Valid := by decide

theorem transparentRed_uniform : transparentRed.Uniform (255, 0, 0, 0) := by
  intro x column y row
  have first : x = 0 := Nat.lt_one_iff.mp column
  have top : y = 0 := Nat.lt_one_iff.mp row
  subst first top
  rfl

theorem overlay_filter_widened :
    (checkedFilteredPixel quarters halves halves = some (203, 101, 153, 160) ∧
      Blended quarters halves halves (203, 101, 153, 160)) ∧
    overlayAt (scaleOverlay transparentRed 2 1) 1 0 = (0, 0, 0, 0) := by
  have valid : quarters.Valid := by decide
  have widened : Drawable (3, 3) := ⟨by decide, by decide⟩
  have doubled : Drawable (2, 1) := ⟨by decide, by decide⟩
  obtain ⟨horizontal, vertical, isHorizontal, isVertical, pixels⟩ := (overlay_filter valid widened).1
  obtain ⟨columns, rows, pixel, column, row, returns, blended⟩ := pixels 1 (by decide) 1 (by decide)
  have middle : (checkedFilteredAxis 2 3).bind (·.checkedCoordinate 1) = some halves := by decide +kernel
  have isColumns : columns = halves := by
    rw [show checkedFilteredAxis 2 3 = some horizontal from isHorizontal, Option.bind_some, column.found] at middle
    exact Option.some.inj middle
  have isRows : rows = halves := by
    rw [show checkedFilteredAxis 2 3 = some vertical from isVertical, Option.bind_some, row.found] at middle
    exact Option.some.inj middle
  subst isColumns isRows
  have isPixel : checkedFilteredPixel quarters halves halves = some (203, 101, 153, 160) := by decide +kernel
  cases returns.symm.trans isPixel
  refine ⟨⟨returns, blended⟩, ?_⟩
  exact (overlay_filter transparentRed_valid doubled).2 _ transparentRed_uniform 1 (by decide) 0 (by decide)

/-- Widened to two pixels, the transparent red of a uniform image becomes transparent black. -/
theorem scaled_uniform_changes :
    ¬ ∀ (frame : RgbaFrame) (colour : Rgba) (width height : Nat), frame.Valid → frame.Uniform colour →
      Drawable (width, height) → ∀ x, x < width → ∀ y, y < height →
        overlayAt (scaleOverlay frame width height) x y = colour := by
  intro same
  have kept := same transparentRed (255, 0, 0, 0) 2 1 transparentRed_valid transparentRed_uniform
    ⟨by decide, by decide⟩ 0 (by decide) 0 (by decide)
  exact absurd kept (by decide)

end Genkan.SessionLock
