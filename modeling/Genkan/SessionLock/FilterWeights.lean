import Genkan.SessionLock.OverlayScaling
import Mathlib.Algebra.BigOperators.Group.List.Basic
import Mathlib.Order.Monotone.Basic

/-! # The weights of the overlay filter

Every target position takes its samples inside the source, and their weights add up to one whole pixel.
When the overlay shrinks, the weight of a sample is the difference of two rounded boundaries, and the
boundaries of neighbouring samples are the same.
-/

namespace Genkan.SessionLock

open Foundations

def weightSum (samples : List WeightedSample) : Nat := (samples.map (·.weight)).sum

@[simp] theorem weightSum_nil : weightSum [] = 0 := rfl

@[simp] theorem weightSum_cons (sample : WeightedSample) (samples : List WeightedSample) :
    weightSum (sample :: samples) = sample.weight + weightSum samples := by
  simp [weightSum]

/-! ## Growing -/

theorem upperWeight_le {target : Nat} (positive : 0 < target) (centered : Nat) :
    centered % (target * 2) * filterScale / (target * 2) ≤ filterScale := by
  apply Nat.div_le_of_le_mul
  exact Nat.mul_le_mul_right _ (Nat.le_of_lt (Nat.mod_lt _ (by omega)))

theorem magnifiedSamples_spec {source target : Nat} (source_positive : 0 < source)
    (target_positive : 0 < target) (position : Nat) :
    weightSum (magnifiedSamples source target position) = filterScale ∧
      ∀ sample ∈ magnifiedSamples source target position, sample.index < source := by
  have upper := upperWeight_le target_positive (saturatingMul64 (position * 2 + 1) source - target)
  simp only [magnifiedSamples]
  generalize (saturatingMul64 (position * 2 + 1) source - target) / (target * 2) = quotient
  generalize (saturatingMul64 (position * 2 + 1) source - target) % (target * 2) * filterScale /
    (target * 2) = upperWeight at *
  constructor
  · split
    next => simp
    next apart =>
      split
      next => simp only [weightSum_cons, weightSum_nil]; omega
      next skipped =>
        have weightless : upperWeight = 0 := by
          by_contra weighted
          exact skipped ⟨Ne.symm apart, weighted⟩
        simp [weightless]
  · intro sample member
    rw [List.mem_cons] at member
    cases member with
    | inl isLower =>
      subst isLower
      simp only
      omega
    | inr isUpper =>
      rw [List.mem_ite_nil_right, List.mem_singleton] at isUpper
      obtain ⟨_, rfl⟩ := isUpper
      simp only
      omega

/-! ## Shrinking -/

/-- The share of the interval that lies before an edge, rounded. -/
def boundary (start span edge : Nat) : Nat := ((edge - start) * filterScale + span / 2) / span

theorem boundary_mono {start span first second : Nat} (order : first ≤ second) :
    boundary start span first ≤ boundary start span second := by
  apply Nat.div_le_div_right
  exact Nat.add_le_add_right (Nat.mul_le_mul_right _ (Nat.sub_le_sub_right order start)) _

theorem boundary_start {span : Nat} (positive : 0 < span) (start : Nat) :
    boundary start span start = 0 := by
  rw [boundary, Nat.sub_self, Nat.zero_mul, Nat.zero_add]
  exact Nat.div_eq_of_lt (by omega)

theorem boundary_finish {start finish : Nat} (positive : start < finish) :
    boundary start (finish - start) finish = filterScale := by
  have span : 0 < finish - start := by omega
  rw [boundary, Nat.add_comm, Nat.add_mul_div_left _ _ span, Nat.div_eq_of_lt (by omega), Nat.zero_add]

/-- What one sample of the source contributes, as a difference of boundaries. -/
def overlapWeight (start finish span index : Nat) : Nat :=
  boundary start span (min finish (index * filterScale + filterScale)) -
    boundary start span (max start (index * filterScale))

theorem minifiedSample_eq (start finish span index : Nat) :
    minifiedSample start finish span index =
      if overlapWeight start finish span index ≠ 0 then
        some { index, weight := overlapWeight start finish span index }
      else none :=
  rfl

theorem minifiedSample_index {start finish span index : Nat} {sample : WeightedSample}
    (taken : minifiedSample start finish span index = some sample) : sample.index = index := by
  rw [minifiedSample_eq, Option.ite_none_right_eq_some, Option.some_inj] at taken
  obtain ⟨_, rfl⟩ := taken
  rfl

theorem weightSum_minified (start finish span : Nat) (indices : List Nat) :
    weightSum (indices.filterMap (minifiedSample start finish span)) =
      (indices.map (overlapWeight start finish span)).sum := by
  induction indices with
  | nil => rfl
  | cons index indices inductionHypothesis =>
    rw [List.map_cons, List.sum_cons, ← inductionHypothesis, List.filterMap_cons, minifiedSample_eq]
    by_cases weightless : overlapWeight start finish span index = 0
    · rw [if_neg (not_not.mpr weightless), weightless, Nat.zero_add]
    · rw [if_pos weightless, weightSum_cons]

/-- Differences of neighbouring values add up to the difference of the outer ones. -/
theorem sum_neighbour_differences {value : Nat → Nat} (mono : ∀ index, value index ≤ value (index + 1))
    (first count : Nat) :
    ((List.range' first count).map fun index => value (index + 1) - value index).sum =
      value (first + count) - value first := by
  induction count generalizing first with
  | zero => simp
  | succ count inductionHypothesis =>
    have step := mono first
    have rest : value (first + 1) ≤ value (first + 1 + count) :=
      monotone_nat_of_le_succ mono (Nat.le_add_right _ _)
    rw [List.range'_succ, List.map_cons, List.sum_cons, inductionHypothesis,
      show first + (count + 1) = first + 1 + count by omega]
    omega

theorem weightSum_minified_interval {start finish : Nat} (positive : start < finish) :
    weightSum ((List.range' (start / filterScale)
        ((finish - 1) / filterScale + 1 - start / filterScale)).filterMap
          (minifiedSample start finish (finish - start))) = filterScale := by
  have span : 0 < finish - start := by omega
  let edge := fun index => max start (min finish (index * filterScale))
  have mono : ∀ index, boundary start (finish - start) (edge index) ≤
      boundary start (finish - start) (edge (index + 1)) := by
    intro index
    apply boundary_mono
    have next : (index + 1) * filterScale = index * filterScale + filterScale := Nat.succ_mul _ _
    simp only [edge, next]
    omega
  have first := Nat.div_add_mod start filterScale
  have last := Nat.div_add_mod (finish - 1) filterScale
  have lastMod := Nat.mod_lt (finish - 1) (show filterScale > 0 by decide)
  have firstMod := Nat.mod_lt start (show filterScale > 0 by decide)
  have ordered : start / filterScale ≤ (finish - 1) / filterScale := Nat.div_le_div_right (by omega)
  have edges : ∀ index ∈ List.range' (start / filterScale)
      ((finish - 1) / filterScale + 1 - start / filterScale),
      overlapWeight start finish (finish - start) index =
        boundary start (finish - start) (edge (index + 1)) -
          boundary start (finish - start) (edge index) := by
    intro index member
    rw [List.mem_range'_1] at member
    have below : start / filterScale * filterScale ≤ index * filterScale :=
      Nat.mul_le_mul_right _ member.1
    have above : index * filterScale ≤ (finish - 1) / filterScale * filterScale :=
      Nat.mul_le_mul_right _ (by omega)
    have next : (index + 1) * filterScale = index * filterScale + filterScale := Nat.succ_mul _ _
    rw [Nat.mul_comm] at first last
    have upper : min finish (index * filterScale + filterScale) = edge (index + 1) := by
      simp only [edge, next]
      omega
    have lower : max start (index * filterScale) = edge index := by
      simp only [edge]
      omega
    rw [overlapWeight, upper, lower]
  rw [weightSum_minified, List.map_congr_left edges,
    @sum_neighbour_differences (fun index => boundary start (finish - start) (edge index)) mono]
  have firstEdge : edge (start / filterScale) = start := by
    rw [Nat.mul_comm] at first
    simp only [edge]
    omega
  have lastEdge : edge (start / filterScale + ((finish - 1) / filterScale + 1 - start / filterScale)) =
      finish := by
    rw [show start / filterScale + ((finish - 1) / filterScale + 1 - start / filterScale) =
      (finish - 1) / filterScale + 1 by omega]
    have next : ((finish - 1) / filterScale + 1) * filterScale =
      (finish - 1) / filterScale * filterScale + filterScale := Nat.succ_mul _ _
    rw [Nat.mul_comm] at last
    simp only [edge, next]
    omega
  rw [firstEdge, lastEdge, boundary_finish positive, boundary_start span, Nat.sub_zero]

/-- The part of the source that a target position covers, in units of the filter. -/
theorem minified_interval {source target position : Nat} (shrinks : target < source)
    (inside : position < target) :
    position * source * filterScale / target < (position + 1) * source * filterScale / target ∧
      (position + 1) * source * filterScale / target ≤ source * filterScale := by
  have positive : 0 < target := by omega
  constructor
  · apply (Nat.le_div_iff_mul_le positive).mpr
    have floor := Nat.div_mul_le_self (position * source * filterScale) target
    have whole : target * 1 ≤ source * filterScale := Nat.mul_le_mul (Nat.le_of_lt shrinks) (by decide)
    rw [Nat.succ_mul, Nat.add_mul position, Nat.one_mul, Nat.add_mul]
    omega
  · apply Nat.div_le_of_le_mul
    rw [Nat.mul_assoc]
    exact Nat.mul_le_mul_right _ inside

theorem minifiedSamples_spec {source target position : Nat} (shrinks : target < source)
    (inside : position < target) :
    weightSum (minifiedSamples source target position) = filterScale ∧
      ∀ sample ∈ minifiedSamples source target position, sample.index < source := by
  obtain ⟨ordered, bound⟩ := minified_interval shrinks inside
  refine ⟨weightSum_minified_interval ordered, ?_⟩
  intro sample member
  simp only [minifiedSamples, List.mem_filterMap, List.mem_range'_1] at member
  obtain ⟨index, range, taken⟩ := member
  have isIndex : sample.index = index := minifiedSample_index taken
  generalize (position + 1) * source * filterScale / target = finish at *
  have nonempty : 0 < finish := Nat.lt_of_le_of_lt (Nat.zero_le _) ordered
  have last : (finish - 1) / filterScale < source := (Nat.div_lt_iff_lt_mul (by decide)).mpr (by omega)
  omega

/-! ## An axis -/

/-- The samples lie inside the source and their weights add up to one whole pixel. -/
structure WholePixel (source : Nat) (samples : List WeightedSample) : Prop where
  weights : weightSum samples = filterScale
  inside : ∀ sample ∈ samples, sample.index < source

theorem filteredAxis_wholePixel {source target position : Nat} (source_positive : 0 < source)
    (inside : position < target) :
    WholePixel source (coordinate (filteredAxis source target) position) := by
  rw [coordinate_filteredAxis inside]
  split
  next =>
    have spec := magnifiedSamples_spec source_positive (show 0 < target by omega) position
    exact ⟨spec.1, spec.2⟩
  next grows =>
    have spec := minifiedSamples_spec (Nat.lt_of_not_le grows) inside
    exact ⟨spec.1, spec.2⟩

end Genkan.SessionLock
