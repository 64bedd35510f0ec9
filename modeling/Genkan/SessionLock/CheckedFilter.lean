import Genkan.SessionLock.CheckedGeometry
import Genkan.SessionLock.FilterWeights
import Mathlib.Data.List.GetD

/-! # The overlay filter with every operation that can panic

The filtered axis is kept as in the source, in one list of samples with the offsets of the positions.
Positions of a surface and lengths of a valid overlay keep the 64-bit arithmetic in range, and the sums over
the samples stay in range because the weights add up to one whole pixel.
-/

namespace Genkan.SessionLock

open Foundations

/-! ## The samples of a position -/

def checkedMagnifiedSamples (source target position : Nat) : Option (List WeightedSample) := do
  let denominator ← Checked.mul 64 target 2
  let doubled ← Checked.mul 64 position 2
  let odd ← Checked.add 64 doubled 1
  let centered := saturatingMul64 odd source - target
  let quotient ← Checked.div centered denominator
  let last ← Checked.sub source 1
  let lower := min quotient last % u32Limit
  let upper := min (saturatingAdd32 lower 1) last
  let upperWeight ←
    if lower = upper then pure 0
    else do
      let remainder ← Checked.rem centered denominator
      let scaled ← Checked.mul 64 remainder filterScale
      Checked.div scaled denominator
  let lowerWeight ← Checked.sub filterScale upperWeight
  pure ({ index := lower, weight := lowerWeight } ::
    if upper ≠ lower ∧ upperWeight ≠ 0 then [{ index := upper, weight := upperWeight }] else [])

theorem checkedMagnifiedSamples_eq {source target position : Nat} (sourcePositive : 0 < source)
    (grows : source ≤ target) (inside : position < target) (small : target < 2 ^ 32) :
    checkedMagnifiedSamples source target position = some (magnifiedSamples source target position) := by
  have denominator : 0 < target * 2 := by omega
  have upper := upperWeight_le (show 0 < target by omega)
    (saturatingMul64 (position * 2 + 1) source - target)
  have remainder : (saturatingMul64 (position * 2 + 1) source - target) % (target * 2) < 2 ^ 33 :=
    Nat.lt_trans (Nat.mod_lt _ denominator) (by omega)
  have scaled := Checked.mul_eq_of_bits remainder (show filterScale < 2 ^ 17 by decide)
    (show 33 + 17 ≤ 64 by decide)
  have lower : min ((saturatingMul64 (position * 2 + 1) source - target) / (target * 2)) (source - 1) %
      u32Limit = min ((saturatingMul64 (position * 2 + 1) source - target) / (target * 2)) (source - 1) :=
    Nat.mod_eq_of_lt (by simp only [u32Limit]; omega)
  have next : saturatingAdd32
      (min ((saturatingMul64 (position * 2 + 1) source - target) / (target * 2)) (source - 1)) 1 =
      min ((saturatingMul64 (position * 2 + 1) source - target) / (target * 2)) (source - 1) + 1 := by
    simp only [saturatingAdd32, u32Limit]
    omega
  simp only [checkedMagnifiedSamples, Option.bind_eq_bind]
  rw [Checked.mul_eq (by omega), Option.bind_some, Checked.mul_eq (by omega), Option.bind_some,
    Checked.add_eq (by omega), Option.bind_some, Checked.div_eq denominator, Option.bind_some,
    Checked.sub_eq (show 1 ≤ source from sourcePositive), Option.bind_some]
  simp only [lower, next]
  rw [Checked.rem_eq denominator, Option.bind_some, scaled, Option.bind_some, Checked.div_eq denominator]
  simp only [magnifiedSamples, Option.pure_def]
  split
  next => rw [Option.bind_some, Checked.sub_eq (Nat.zero_le _), Option.bind_some, Nat.sub_zero]
  next => rw [Option.bind_some, Checked.sub_eq upper, Option.bind_some]

/-- One edge of a sample, as a rounded share of the interval. -/
def checkedNormalized (start span edge : Nat) : Option Nat := do
  let distance ← Checked.sub edge start
  let scaled ← Checked.mul 64 distance filterScale
  let rounded ← Checked.add 64 scaled (span / 2)
  Checked.div rounded span

theorem checkedNormalized_eq {start span edge : Nat} (after : start ≤ edge) (inside : edge ≤ start + span)
    (positive : 0 < span) (small : span < 2 ^ 47) :
    checkedNormalized start span edge = some (boundary start span edge) := by
  have scaled : (edge - start) * filterScale ≤ 2 ^ 47 * filterScale := Nat.mul_le_mul_right _ (by omega)
  rw [show 2 ^ 47 * filterScale = 2 ^ 63 from rfl] at scaled
  simp only [checkedNormalized, Option.bind_eq_bind]
  rw [Checked.sub_eq after, Option.bind_some, Checked.mul_eq (by omega), Option.bind_some,
    Checked.add_eq (by omega), Option.bind_some, Checked.div_eq positive, boundary]

def checkedMinifiedSample (start finish span index : Nat) : Option (Option WeightedSample) := do
  let sampleStart ← Checked.mul 64 index filterScale
  let overlapStart := max start sampleStart
  let sampleEnd ← Checked.add 64 sampleStart filterScale
  let overlapEnd := min finish sampleEnd
  let normalizedStart ← checkedNormalized start span overlapStart
  let normalizedEnd ← checkedNormalized start span overlapEnd
  let weight ← Checked.sub normalizedEnd normalizedStart
  pure (if weight ≠ 0 then some { index := index % u32Limit, weight } else none)

/-- The index is one of those the interval meets. -/
theorem checkedMinifiedSample_eq {start finish index : Nat} (before : index * filterScale < finish)
    (after : start < index * filterScale + filterScale) (ordered : start < finish)
    (span : finish - start < 2 ^ 47) (small : finish ≤ 2 ^ 30 * filterScale) :
    checkedMinifiedSample start finish (finish - start) index =
      some (minifiedSample start finish (finish - start) index) := by
  have scale : filterScale = 65536 := rfl
  rw [scale] at before after
  replace small : finish ≤ 2 ^ 46 := small
  have position : index * filterScale + filterScale < 2 ^ 64 :=
    calc index * filterScale + filterScale < 2 ^ 46 + filterScale :=
          Nat.add_lt_add_right (Nat.lt_of_lt_of_le before small) filterScale
      _ < 2 ^ 64 := by decide
  have order : max start (index * filterScale) ≤ min finish (index * filterScale + filterScale) := by
    rw [scale]
    omega
  have isIndex : index % u32Limit = index := Nat.mod_eq_of_lt (by simp only [u32Limit]; omega)
  have first : checkedNormalized start (finish - start) (max start (index * filterScale)) =
      some (boundary start (finish - start) (max start (index * filterScale))) :=
    checkedNormalized_eq (by omega) (by omega) (by omega) span
  have last : checkedNormalized start (finish - start) (min finish (index * filterScale + filterScale)) =
      some (boundary start (finish - start) (min finish (index * filterScale + filterScale))) :=
    checkedNormalized_eq (by omega) (by omega) (by omega) span
  simp only [checkedMinifiedSample, Option.bind_eq_bind]
  rw [Checked.mul_eq (by omega), Option.bind_some, Checked.add_eq position, Option.bind_some, first,
    Option.bind_some, last, Option.bind_some, Checked.sub_eq (boundary_mono order), Option.bind_some,
    isIndex]
  rfl

def checkedInterval (source target position : Nat) : Option Nat := do
  let product ← Checked.mul 64 position source
  let scaled ← Checked.mul 64 product filterScale
  Checked.div scaled target

theorem checkedInterval_eq {source target position : Nat} (sourceBound : source < 2 ^ 30)
    (positionBound : position < 2 ^ 15) (positive : 0 < target) :
    checkedInterval source target position = some (position * source * filterScale / target) := by
  have product : position * source < 2 ^ 45 := Checked.mul_lt positionBound sourceBound (by decide)
  have scale : filterScale < 2 ^ 17 := by decide
  simp only [checkedInterval, Option.bind_eq_bind]
  rw [Checked.mul_eq (by omega), Option.bind_some, Checked.mul_eq_of_bits product scale (by decide),
    Option.bind_some, Checked.div_eq positive]

def checkedMinifiedSamples (source target position : Nat) : Option (List WeightedSample) := do
  let start ← checkedInterval source target position
  let following ← Checked.add 32 position 1
  let finish ← checkedInterval source target following
  let span ← Checked.sub finish start
  let first ← Checked.div start filterScale
  let inclusive ← Checked.sub finish 1
  let last ← Checked.div inclusive filterScale
  let samples ← (List.range' first (last + 1 - first)).mapM (checkedMinifiedSample start finish span)
  pure (samples.filterMap id)

theorem checkedMinifiedSamples_eq {source target position : Nat} (sourceBound : source < 2 ^ 30)
    (targetBound : target < 2 ^ 15) (shrinks : target < source) (inside : position < target) :
    checkedMinifiedSamples source target position = some (minifiedSamples source target position) := by
  have positive : 0 < target := by omega
  have scale : filterScale = 65536 := rfl
  obtain ⟨ordered, bound⟩ := minified_interval shrinks inside
  have sized : source * filterScale ≤ 2 ^ 30 * filterScale :=
    Nat.mul_le_mul_right _ (Nat.le_of_lt sourceBound)
  simp only [checkedMinifiedSamples, Option.bind_eq_bind]
  rw [checkedInterval_eq sourceBound (by omega) positive, Option.bind_some, Checked.add_eq (by omega),
    Option.bind_some, checkedInterval_eq sourceBound (by omega) positive, Option.bind_some]
  simp only [minifiedSamples]
  generalize position * source * filterScale / target = start at *
  generalize (position + 1) * source * filterScale / target = finish at *
  have span : finish - start < 2 ^ 47 := by
    rw [scale] at bound sized
    omega
  have samples : ∀ index ∈ List.range' (start / filterScale)
      ((finish - 1) / filterScale + 1 - start / filterScale),
      checkedMinifiedSample start finish (finish - start) index =
        some (minifiedSample start finish (finish - start) index) := by
    intro index member
    rw [List.mem_range'_1] at member
    have first := Nat.div_add_mod start filterScale
    have last := Nat.div_add_mod (finish - 1) filterScale
    have firstMod := Nat.mod_lt start (show filterScale > 0 by decide)
    rw [scale] at member first last firstMod
    have before : index * filterScale < finish := by
      rw [scale]
      omega
    have after : start < index * filterScale + filterScale := by
      rw [scale]
      omega
    exact checkedMinifiedSample_eq before after ordered span (Nat.le_trans bound sized)
  rw [Checked.sub_eq (Nat.le_of_lt ordered), Option.bind_some, Checked.div_eq (by decide), Option.bind_some,
    Checked.sub_eq (by omega), Option.bind_some, Checked.div_eq (by decide), Option.bind_some,
    Checked.mapM_eq samples, Option.bind_some, List.filterMap_map, Function.id_comp, Option.pure_def]

/-! ## The axis -/

structure FilteredAxis where
  offsets : List Nat
  samples : List WeightedSample
  deriving DecidableEq, Repr

def FilteredAxis.checkedCoordinate (axis : FilteredAxis) (position : Nat) :
    Option (List WeightedSample) := do
  let start ← axis.offsets[position]?
  let finish ← axis.offsets[position + 1]?
  if start ≤ finish ∧ finish ≤ axis.samples.length then pure (axis.samples.extract start finish)
  else none

/-- One turn of the loop of `filtered_axis`: the offset of the position, then its samples. -/
def checkedPushPosition (source target : Nat) (axis : FilteredAxis) (position : Nat) :
    Option FilteredAxis := do
  let samples ←
    if source ≤ target then checkedMagnifiedSamples source target position
    else checkedMinifiedSamples source target position
  pure { offsets := axis.offsets ++ [axis.samples.length], samples := axis.samples ++ samples }

def checkedFilteredAxis (source target : Nat) : Option FilteredAxis := do
  let axis ← (List.range target).foldlM (checkedPushPosition source target) ⟨[], []⟩
  pure { axis with offsets := axis.offsets ++ [axis.samples.length] }

/-- The axis after so many positions: the samples of all of them, and where each begins. -/
def axisUpTo (samples : Nat → List WeightedSample) (count : Nat) : FilteredAxis :=
  { offsets := (List.range count).map fun position => ((List.range position).flatMap samples).length
    samples := (List.range count).flatMap samples }

theorem foldl_axisUpTo (samples : Nat → List WeightedSample) (count : Nat) :
    (List.range count).foldl
      (fun (axis : FilteredAxis) position =>
        { offsets := axis.offsets ++ [axis.samples.length], samples := axis.samples ++ samples position })
      ⟨[], []⟩ = axisUpTo samples count := by
  induction count with
  | zero => rfl
  | succ count inductionHypothesis =>
    rw [List.range_succ, List.foldl_append, inductionHypothesis]
    simp [axisUpTo, List.range_succ]

theorem extract_flatMap {α : Type} (samples : Nat → List α) {position count : Nat}
    (inside : position < count) :
    ((List.range count).flatMap samples).extract ((List.range position).flatMap samples).length
      ((List.range (position + 1)).flatMap samples).length = samples position := by
  obtain ⟨rest, rfl⟩ := Nat.exists_eq_add_of_le (show position + 1 ≤ count from inside)
  rw [List.range_add, List.range_succ]
  simp [List.extract_eq_take_drop]

/-- The axis of the source finds for every position the samples of that position. -/
theorem checkedFilteredAxis_eq {source target : Nat} (sourcePositive : 0 < source)
    (sourceBound : source < 2 ^ 30) (targetBound : target < 2 ^ 15) :
    ∃ axis, checkedFilteredAxis source target = some axis ∧
      ∀ position, position < target →
        axis.checkedCoordinate position = some (coordinate (filteredAxis source target) position) := by
  let samples := fun position => if source ≤ target then magnifiedSamples source target position
    else minifiedSamples source target position
  have step : ∀ axis : FilteredAxis, ∀ position ∈ List.range target, True →
      checkedPushPosition source target axis position =
        some { offsets := axis.offsets ++ [axis.samples.length],
               samples := axis.samples ++ samples position } ∧ True := by
    intro axis position member _
    have inside := List.mem_range.mp member
    refine ⟨?_, trivial⟩
    simp only [checkedPushPosition, samples]
    split
    next grows => rw [checkedMagnifiedSamples_eq sourcePositive grows inside (by omega)]; rfl
    next shrinks =>
      rw [checkedMinifiedSamples_eq sourceBound targetBound (Nat.lt_of_not_le shrinks) inside]
      rfl
  -- Every position is pushed without overflow, so the checked loop is the plain one.
  have loop := (@Checked.foldlM_eq _ _ _ _ (fun _ => True) _ step ⟨[], []⟩ trivial).1
  rw [foldl_axisUpTo] at loop
  refine ⟨{ axisUpTo samples target with
    offsets := (axisUpTo samples target).offsets ++ [(axisUpTo samples target).samples.length] }, ?_, ?_⟩
  · rw [checkedFilteredAxis, loop]
    rfl
  · intro position inside
    have offsets : (axisUpTo samples target).offsets ++ [(axisUpTo samples target).samples.length] =
        (List.range (target + 1)).map fun position => ((List.range position).flatMap samples).length := by
      simp [axisUpTo, List.range_succ]
    have ordered : ((List.range position).flatMap samples).length ≤
        ((List.range (position + 1)).flatMap samples).length := by
      simp [List.range_succ]
    have within : ((List.range (position + 1)).flatMap samples).length ≤
        ((List.range target).flatMap samples).length := by
      obtain ⟨rest, rfl⟩ := Nat.exists_eq_add_of_le (show position + 1 ≤ target from inside)
      simp [List.range_add]
    simp only [FilteredAxis.checkedCoordinate, offsets, List.getElem?_map,
      List.getElem?_range (show position < target + 1 by omega),
      List.getElem?_range (show position + 1 < target + 1 by omega), Option.map_some, Option.bind_eq_bind,
      Option.bind_some]
    rw [if_pos ⟨ordered, within⟩, coordinate_filteredAxis inside]
    exact congrArg some (extract_flatMap samples inside)

/-! ## One pixel of the overlay -/

def checkedChannel (frame : RgbaFrame) (offset position alpha weight total : Nat) : Option Nat := do
  let byteOffset ← Checked.add 64 offset position
  let value ← frame.pixels.data[byteOffset]?
  let product ← Checked.mul 64 value.toNat alpha
  let weighted ← Checked.mul 64 product weight
  Checked.add 64 total weighted

theorem checkedChannel_eq {frame : RgbaFrame} {offset position alpha weight total limit : Nat}
    (inside : offset + position < frame.pixels.data.length) (small : offset + position < 2 ^ 64)
    (alphaBound : alpha ≤ 255) (weightBound : limit + weight ≤ 2 ^ 32) (below : total ≤ 65025 * limit) :
    checkedChannel frame offset position alpha weight total =
        some (total + (frame.pixels.data.getD (offset + position) 0).toNat * alpha * weight) ∧
      total + (frame.pixels.data.getD (offset + position) 0).toNat * alpha * weight ≤
        65025 * (limit + weight) := by
  have value := (frame.pixels.data[offset + position]).toNat_lt
  have product : (frame.pixels.data[offset + position]).toNat * alpha ≤ 255 * 255 :=
    Nat.mul_le_mul (by omega) alphaBound
  have weighted : (frame.pixels.data[offset + position]).toNat * alpha * weight ≤ 255 * 255 * weight :=
    Nat.mul_le_mul_right _ product
  simp only [checkedChannel, List.getD_eq_getElem _ _ inside, Option.bind_eq_bind]
  rw [Checked.add_eq small, Option.bind_some, List.getElem?_eq_getElem inside, Option.bind_some,
    Checked.mul_eq (by omega), Option.bind_some, Checked.mul_eq (by omega), Option.bind_some,
    Checked.add_eq (by omega)]
  exact ⟨rfl, by omega⟩

def checkedAccumulate (frame : RgbaFrame) (row : WeightedSample) (total : Accumulated)
    (column : WeightedSample) : Option Accumulated := do
  let rowStart ← Checked.mul 64 row.index frame.width
  let position ← Checked.add 64 rowStart column.index
  let offset ← Checked.mul 64 position 4
  let weight ← Checked.mul 64 column.weight row.weight
  let alphaOffset ← Checked.add 64 offset 3
  let alpha ← frame.pixels.data[alphaOffset]?
  let weighted ← Checked.mul 64 alpha.toNat weight
  let alphaWeight ← Checked.add 64 total.alphaWeight weighted
  let red ← checkedChannel frame offset 0 alpha.toNat weight total.red
  let green ← checkedChannel frame offset 1 alpha.toNat weight total.green
  let blue ← checkedChannel frame offset 2 alpha.toNat weight total.blue
  pure { alphaWeight, red, green, blue }

/-- The sums are those of opaque white pixels of so much weight, at most. -/
structure Accumulated.Below (limit : Nat) (total : Accumulated) : Prop where
  alphaWeight : total.alphaWeight ≤ 255 * limit
  red : total.red ≤ 65025 * limit
  green : total.green ≤ 65025 * limit
  blue : total.blue ≤ 65025 * limit

theorem checkedAccumulate_eq {frame : RgbaFrame} (valid : frame.Valid) {row column : WeightedSample}
    (inColumn : column.index < frame.width) (inRow : row.index < frame.height) {total : Accumulated}
    {limit : Nat} (below : total.Below limit) (fits : limit + column.weight * row.weight ≤ 2 ^ 32) :
    checkedAccumulate frame row total column = some (accumulate frame row total column) ∧
      (accumulate frame row total column).Below (limit + column.weight * row.weight) := by
  obtain ⟨length, bound⟩ := valid.length
  simp only [u32Limit] at bound
  have position := Raster.position_lt inColumn inRow
  simp only [checkedAccumulate, accumulate, Option.bind_eq_bind]
  rw [Checked.mul_eq (by omega), Option.bind_some, Checked.add_eq (by omega), Option.bind_some,
    Checked.mul_eq (by omega), Option.bind_some, Checked.mul_eq (by omega), Option.bind_some,
    Checked.add_eq (by omega), Option.bind_some]
  have inside : (row.index * frame.width + column.index) * 4 + 3 < frame.pixels.data.length := by omega
  rw [List.getD_eq_getElem _ _ inside, List.getElem?_eq_getElem inside, Option.bind_some]
  generalize (row.index * frame.width + column.index) * 4 = offset at *
  generalize column.weight * row.weight = weight at *
  generalize frame.pixels.data[offset + 3] = alpha at *
  have alphaBound := alpha.toNat_lt
  have weighted : alpha.toNat * weight ≤ 255 * weight := Nat.mul_le_mul_right _ (by omega)
  have alphaWeightBelow := below.alphaWeight
  obtain ⟨red, redBelow⟩ := @checkedChannel_eq frame offset 0 alpha.toNat weight total.red limit
    (by omega) (by omega) (by omega) fits below.red
  obtain ⟨green, greenBelow⟩ := @checkedChannel_eq frame offset 1 alpha.toNat weight total.green limit
    (by omega) (by omega) (by omega) fits below.green
  obtain ⟨blue, blueBelow⟩ := @checkedChannel_eq frame offset 2 alpha.toNat weight total.blue limit
    (by omega) (by omega) (by omega) fits below.blue
  rw [Checked.mul_eq (by omega), Option.bind_some, Checked.add_eq (by omega), Option.bind_some, red,
    Option.bind_some, green, Option.bind_some, blue, Option.bind_some]
  exact ⟨rfl, by simp only; omega, redBelow, greenBelow, blueBelow⟩

theorem checkedAccumulate_row {frame : RgbaFrame} (valid : frame.Valid) {row : WeightedSample}
    (inRow : row.index < frame.height) {horizontal : List WeightedSample}
    (inside : ∀ column ∈ horizontal, column.index < frame.width) {total : Accumulated} {limit : Nat}
    (below : total.Below limit) (fits : limit + weightSum horizontal * row.weight ≤ 2 ^ 32) :
    horizontal.foldlM (checkedAccumulate frame row) total =
        some (horizontal.foldl (accumulate frame row) total) ∧
      (horizontal.foldl (accumulate frame row) total).Below
        (limit + weightSum horizontal * row.weight) := by
  induction horizontal generalizing total limit with
  | nil => exact ⟨rfl, by simpa using below⟩
  | cons column columns inductionHypothesis =>
    rw [weightSum_cons, Nat.add_mul, ← Nat.add_assoc] at fits ⊢
    obtain ⟨returns, keeps⟩ := checkedAccumulate_eq valid (inside column List.mem_cons_self) inRow below
      (Nat.le_trans (Nat.le_add_right _ _) fits)
    rw [List.foldlM_cons, returns, Option.bind_eq_bind, Option.bind_some]
    exact inductionHypothesis (fun other member => inside other (.tail _ member)) keeps fits

theorem checkedAccumulate_rows {frame : RgbaFrame} (valid : frame.Valid)
    {horizontal vertical : List WeightedSample}
    (inColumns : ∀ column ∈ horizontal, column.index < frame.width)
    (inRows : ∀ row ∈ vertical, row.index < frame.height) {total : Accumulated} {limit : Nat}
    (below : total.Below limit) (fits : limit + weightSum horizontal * weightSum vertical ≤ 2 ^ 32) :
    vertical.foldlM (fun total row => horizontal.foldlM (checkedAccumulate frame row) total) total =
        some (vertical.foldl (fun total row => horizontal.foldl (accumulate frame row) total) total) ∧
      (vertical.foldl (fun total row => horizontal.foldl (accumulate frame row) total) total).Below
        (limit + weightSum horizontal * weightSum vertical) := by
  induction vertical generalizing total limit with
  | nil => exact ⟨rfl, by simpa using below⟩
  | cons row rows inductionHypothesis =>
    rw [weightSum_cons, Nat.mul_add, ← Nat.add_assoc] at fits ⊢
    obtain ⟨returns, keeps⟩ := checkedAccumulate_row valid (inRows row List.mem_cons_self) inColumns below
      (Nat.le_trans (Nat.le_add_right _ _) fits)
    rw [List.foldlM_cons, returns, Option.bind_eq_bind, Option.bind_some]
    exact inductionHypothesis (fun other member => inRows other (.tail _ member)) keeps fits

def checkedFilteredPixel (frame : RgbaFrame) (horizontal vertical : List WeightedSample) : Option Rgba := do
  let total ← vertical.foldlM
    (fun total row => horizontal.foldlM (checkedAccumulate frame row) total) ⟨0, 0, 0, 0⟩
  if total.alphaWeight = 0 then pure (0, 0, 0, 0)
  else
    let totalWeight ← Checked.mul 64 filterScale filterScale
    let red ← Checked.div total.red total.alphaWeight
    let green ← Checked.div total.green total.alphaWeight
    let blue ← Checked.div total.blue total.alphaWeight
    let rounded ← Checked.add 64 total.alphaWeight (totalWeight / 2)
    let alpha ← Checked.div rounded totalWeight
    pure (red.toUInt8, green.toUInt8, blue.toUInt8, alpha.toUInt8)

theorem checkedFilteredPixel_eq {frame : RgbaFrame} (valid : frame.Valid)
    {horizontal vertical : List WeightedSample} (columns : WholePixel frame.width horizontal)
    (rows : WholePixel frame.height vertical) :
    checkedFilteredPixel frame horizontal vertical = some (filteredPixel frame horizontal vertical) := by
  have whole : filterScale * filterScale = 2 ^ 32 := rfl
  have empty : Accumulated.Below 0 ⟨0, 0, 0, 0⟩ :=
    ⟨Nat.zero_le _, Nat.zero_le _, Nat.zero_le _, Nat.zero_le _⟩
  have weights : 0 + weightSum horizontal * weightSum vertical = 2 ^ 32 := by
    rw [columns.weights, rows.weights, Nat.zero_add, whole]
  obtain ⟨returns, below⟩ := checkedAccumulate_rows valid columns.inside rows.inside empty
    (Nat.le_of_eq weights)
  have alphaWeight := below.alphaWeight
  rw [weights] at alphaWeight
  rw [checkedFilteredPixel, returns]
  simp only [filteredPixel, Option.bind_eq_bind, Option.bind_some]
  split
  next => rfl
  next weighted =>
    have positive := Nat.pos_of_ne_zero weighted
    rw [Checked.mul_eq (by decide), Option.bind_some, Checked.div_eq positive, Option.bind_some,
      Checked.div_eq positive, Option.bind_some, Checked.div_eq positive, Option.bind_some, whole,
      Checked.add_eq (by omega), Option.bind_some, Checked.div_eq (by decide)]
    rfl

/-! ## A cached pixel -/

/-- The four bytes of a cached overlay pixel, a slice of the pixels of the overlay. -/
def checkedOverlayAt (overlay : RgbaFrame) (x y : Nat) : Option Rgba := do
  let rowStart ← Checked.mul 64 y overlay.width
  let position ← Checked.add 64 rowStart x
  let offset ← Checked.mul 64 position 4
  let finish ← Checked.add 64 offset 4
  if finish ≤ overlay.pixels.data.length then
    match overlay.pixels.data.extract offset finish with
    | [red, green, blue, alpha] => pure (red, green, blue, alpha)
    | _ => none
  else none

theorem checkedOverlayAt_eq {overlay : RgbaFrame} (valid : overlay.Valid) {x y : Nat}
    (column : x < overlay.width) (row : y < overlay.height) :
    checkedOverlayAt overlay x y = some (overlayAt overlay x y) := by
  obtain ⟨length, bound⟩ := valid.length
  simp only [u32Limit] at bound
  have position := Raster.position_lt column row
  simp only [checkedOverlayAt, overlayAt, Option.bind_eq_bind]
  rw [Checked.mul_eq (by omega), Option.bind_some, Checked.add_eq (by omega), Option.bind_some,
    Checked.mul_eq (by omega), Option.bind_some, Checked.add_eq (by omega), Option.bind_some,
    if_pos (by omega)]
  have finish : (y * overlay.width + x) * 4 + 4 ≤ overlay.pixels.data.length := by omega
  generalize (y * overlay.width + x) * 4 = offset at *
  have slice : overlay.pixels.data.extract offset (offset + 4) =
      [overlay.pixels.data[offset], overlay.pixels.data[offset + 1], overlay.pixels.data[offset + 2],
        overlay.pixels.data[offset + 3]] := by
    rw [List.extract_eq_take_drop, Nat.add_sub_cancel_left, List.drop_eq_getElem_cons (by omega),
      List.drop_eq_getElem_cons (by omega), List.drop_eq_getElem_cons (by omega),
      List.drop_eq_getElem_cons (by omega)]
    rfl
  rw [slice, List.getD_eq_getElem _ _ (show offset < overlay.pixels.data.length by omega),
    List.getD_eq_getElem _ _ (show offset + 1 < overlay.pixels.data.length by omega),
    List.getD_eq_getElem _ _ (show offset + 2 < overlay.pixels.data.length by omega),
    List.getD_eq_getElem _ _ (show offset + 3 < overlay.pixels.data.length by omega)]
  rfl

end Genkan.SessionLock
