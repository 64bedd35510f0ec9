import Mathlib.Order.WithBot
import Genkan.DynamicWallpaper.CivilDays
import Genkan.DynamicWallpaper.Selecting
import Genkan.Foundations.Results

/-! # Solar schedules are mapped to the nearest second

The trajectory of the sun is sampled once a minute, and every authored position is refined to a second
around its nearest sample.  Where the sun stands and how far two directions are apart is computed with
floating-point numbers in the source; here these are functions into arbitrary types, and only the
distances are ordered.
-/

namespace Genkan.DynamicWallpaper

open Foundations.Results

/-! ## The search -/

inductive SolarError where
  | invalidTrajectory
  deriving DecidableEq, Repr

structure Sun (Location Vector Distance : Type) where
  /-- At a second of the day that starts at a UTC time in nanoseconds. -/
  solarPosition : Location → Int → Nat → Except SolarError SolarPosition
  unitVector : SolarPosition → Vector
  angularDistance : Vector → Vector → Distance

def minutesPerDay : Nat := 1440

def refinementRadiusSeconds : Nat := 60

structure Sample (Vector : Type) where
  second : Nat
  vector : Vector

/-- Up to the nanosecond of the clock, the start of its civil day. -/
def startOfDay (clock : ClockSnapshot) : Int :=
  clock.utcNanoseconds - clock.secondsOfDay * Duration.nanosecondsPerSecond

/-- The subtraction is checked in an `i128`. -/
def baseUtc (clock : ClockSnapshot) : Except SolarError Int :=
  if -(2 ^ 127) ≤ startOfDay clock ∧ startOfDay clock < 2 ^ 127 then .ok (startOfDay clock)
  else .error .invalidTrajectory

section Search

variable {Location Vector Distance : Type} [LinearOrder Distance] (sun : Sun Location Vector Distance)

/-- The earlier candidate is kept when two are equally far away. -/
def nearer (target : Vector) (best : Option (Sample Vector)) (candidate : Sample Vector) :
    Option (Sample Vector) :=
  match best with
  | some current =>
    let currentDistance := sun.angularDistance current.vector target
    let candidateDistance := sun.angularDistance candidate.vector target
    if candidateDistance < currentDistance then some candidate else some current
  | none => some candidate

def trajectory (location : Location) (clock : ClockSnapshot) :
    Except SolarError (List (Nat × SolarPosition)) := do
  let base ← baseUtc clock
  (List.range minutesPerDay).mapM fun minute => do
    let position ← sun.solarPosition location base (minute * 60)
    pure (minute * 60, position)

/-- The best of the candidates, of which there has to be one. -/
def found (best : Option (Sample Vector)) : Except SolarError Nat :=
  match best with
  | some sample => .ok sample.second
  | none => .error .invalidTrajectory

def sampleAt (location : Location) (base : Int) (second : Nat) : Except SolarError (Sample Vector) := do
  let position ← sun.solarPosition location base second
  pure { second, vector := sun.unitVector position }

/-- The seconds of the day within a minute of the coarse one. -/
def refinementWindow (coarse : Nat) : List Nat :=
  let start := coarse - refinementRadiusSeconds
  let finish := min (coarse + refinementRadiusSeconds) (secondsPerDay - 1)
  List.range' start (finish + 1 - start)

def nearestSecond (samples : List (Sample Vector)) (location : Location) (base : Int) (target : Vector) :
    Except SolarError Nat := do
  let coarse ← found (samples.foldl (nearer sun target) none)
  let refined ← (refinementWindow coarse).foldlM (fun refined second => do
    let sample ← sampleAt sun location base second
    pure (nearer sun target refined sample)) none
  found refined

def mapSchedule (schedule : Schedule SolarPoint) (location : Location) (clock : ClockSnapshot) :
    Except SolarError (List TimePoint) := do
  let base ← baseUtc clock
  let positions ← trajectory sun location clock
  let samples := positions.map fun sample =>
    ({ second := sample.1, vector := sun.unitVector sample.2 } : Sample Vector)
  schedule.points.mapM fun point => do
    let second ← nearestSecond sun samples location base (sun.unitVector point.position)
    match NormalizedTime.new (secondFraction second) with
    | .ok time => pure { image := point.image, time }
    | .error _ => throw .invalidTrajectory

/-! ## The nearest second -/

/-- How far the sun is from a target; where it has no position, it is nowhere near. -/
def distanceAt (location : Location) (base : Int) (target : Vector) (second : Nat) : WithTop Distance :=
  match sun.solarPosition location base second with
  | .ok position => sun.angularDistance (sun.unitVector position) target
  | .error _ => ⊤

/-- The first of the candidates that no other is nearer than. -/
structure EarliestNearest {Order : Type} [LinearOrder Order] (distance : Nat → Order)
    (candidate : Nat → Prop) (second : Nat) : Prop where
  member : candidate second
  nearest : ∀ other, candidate other → distance second ≤ distance other
  earliest : ∀ other, candidate other → other < second → distance second < distance other

/-- The samples taken at some seconds. -/
def Sampled (location : Location) (base : Int) (seconds : List Nat) (samples : List (Sample Vector)) :
    Prop :=
  List.Forall₂ (fun second sample => ∃ position, sun.solarPosition location base second = .ok position ∧
    sample = { second, vector := sun.unitVector position }) seconds samples

variable {sun} {location : Location} {base : Int}

omit [LinearOrder Distance] in
theorem distanceAt_of_ok {target : Vector} {second : Nat} {position : SolarPosition}
    (isPosition : sun.solarPosition location base second = .ok position) :
    distanceAt sun location base target second =
      sun.angularDistance (sun.unitVector position) target := by
  rw [distanceAt, isPosition]

theorem EarliestNearest.keep {Order : Type} [LinearOrder Order] {distance : Nat → Order}
    {candidate : Nat → Prop} {second new : Nat} (isNearest : EarliestNearest distance candidate second)
    (before : second < new) (notNearer : distance second ≤ distance new) :
    EarliestNearest distance (fun other => candidate other ∨ other = new) second where
  member := .inl isNearest.member
  nearest := by
    intro other isCandidate
    cases isCandidate with
    | inl seen => exact isNearest.nearest other seen
    | inr isNew => exact isNew ▸ notNearer
  earliest := by
    intro other isCandidate earlier
    cases isCandidate with
    | inl seen => exact isNearest.earliest other seen earlier
    | inr isNew => omega

theorem EarliestNearest.replace {Order : Type} [LinearOrder Order] {distance : Nat → Order}
    {candidate : Nat → Prop} {second new : Nat} (isNearest : EarliestNearest distance candidate second)
    (isNearer : distance new < distance second) :
    EarliestNearest distance (fun other => candidate other ∨ other = new) new := by
  have others (other : Nat) (seen : candidate other) : distance new < distance other :=
    lt_of_lt_of_le isNearer (isNearest.nearest other seen)
  constructor
  case member => exact .inr rfl
  case nearest =>
    intro other isCandidate
    cases isCandidate with
    | inl seen => exact le_of_lt (others other seen)
    | inr isNew => rw [isNew]
  case earliest =>
    intro other isCandidate earlier
    cases isCandidate with
    | inl seen => exact others other seen
    | inr isNew => omega

/-- The best sample so far: it is the nearest of the seconds that were looked at. -/
structure Tracks (sun : Sun Location Vector Distance) (location : Location) (base : Int)
    (target : Vector) (seen : Nat → Prop) (best : Sample Vector) : Prop where
  measured : (sun.angularDistance best.vector target : WithTop Distance) =
    distanceAt sun location base target best.second
  nearest : EarliestNearest (distanceAt sun location base target) seen best.second

/-- One more sample, later than all before it. -/
theorem Tracks.nearer {target : Vector} {seen : Nat → Prop} {best : Sample Vector}
    (tracks : Tracks sun location base target seen best) {second : Nat} {position : SolarPosition}
    (isPosition : sun.solarPosition location base second = .ok position)
    (later : ∀ other, seen other → other < second) :
    ∃ next, nearer sun target (some best) { second, vector := sun.unitVector position } = some next ∧
      Tracks sun location base target (fun other => seen other ∨ other = second) next := by
  have measured : (sun.angularDistance (sun.unitVector position) target : WithTop Distance) =
      distanceAt sun location base target second := (distanceAt_of_ok isPosition).symm
  simp only [DynamicWallpaper.nearer]
  split
  next isNearer =>
    have less := WithTop.coe_lt_coe.mpr isNearer
    rw [measured, tracks.measured] at less
    exact ⟨_, rfl, measured, tracks.nearest.replace less⟩
  next notNearer =>
    have order := WithTop.coe_le_coe.mpr (le_of_not_gt notNearer)
    rw [measured, tracks.measured] at order
    exact ⟨best, rfl, tracks.measured, tracks.nearest.keep (later _ tracks.nearest.member) order⟩

theorem Tracks.foldl {target : Vector} {seen : Nat → Prop} {best : Sample Vector}
    (tracks : Tracks sun location base target seen best) {seconds : List Nat}
    {samples : List (Sample Vector)} (sampled : Sampled sun location base seconds samples)
    (later : ∀ other, seen other → ∀ second ∈ seconds, other < second)
    (rising : seconds.Pairwise (· < ·)) :
    ∃ final, samples.foldl (DynamicWallpaper.nearer sun target) (some best) = some final ∧
      Tracks sun location base target (fun other => seen other ∨ other ∈ seconds) final := by
  induction sampled generalizing seen best with
  | nil => exact ⟨best, rfl, by simpa using tracks⟩
  | @cons second sample seconds samples head _ inductionHypothesis =>
    obtain ⟨position, isPosition, rfl⟩ := head
    obtain ⟨next, isNext, nextTracks⟩ :=
      tracks.nearer isPosition fun other isSeen => later other isSeen second List.mem_cons_self
    obtain ⟨first, rising⟩ := List.pairwise_cons.mp rising
    have stillLater : ∀ other, seen other ∨ other = second → ∀ later ∈ seconds, other < later := by
      intro other isSeen after member
      cases isSeen with
      | inl before => exact later other before after (List.mem_cons_of_mem _ member)
      | inr here => exact here ▸ first after member
    obtain ⟨final, isFinal, finalTracks⟩ := inductionHypothesis nextTracks stillLater rising
    refine ⟨final, ?_, ?_⟩
    · rw [List.foldl_cons, isNext, isFinal]
    · simpa [or_assoc] using finalTracks

/-- The best of some samples is the nearest of their seconds. -/
theorem foldl_nearer {seconds : List Nat} {samples : List (Sample Vector)}
    (sampled : Sampled sun location base seconds samples) (rising : seconds.Pairwise (· < ·))
    (nonempty : seconds ≠ []) (target : Vector) :
    ∃ best, samples.foldl (nearer sun target) none = some best ∧
      EarliestNearest (distanceAt sun location base target) (· ∈ seconds) best.second := by
  cases sampled with
  | nil => contradiction
  | @cons second sample seconds samples head sampled =>
    obtain ⟨position, isPosition, rfl⟩ := head
    obtain ⟨first, rising⟩ := List.pairwise_cons.mp rising
    have alone : EarliestNearest (distanceAt sun location base target) (· = second) second := by
      constructor
      case member => rfl
      case nearest =>
        intro other here
        rw [here]
      case earliest =>
        intro other here before
        omega
    have tracks : Tracks sun location base target (· = second)
        { second, vector := sun.unitVector position } := ⟨(distanceAt_of_ok isPosition).symm, alone⟩
    obtain ⟨best, isBest, bestTracks⟩ :=
      tracks.foldl sampled (fun other here after member => here ▸ first after member) rising
    exact ⟨best, isBest, by simpa using bestTracks.nearest⟩

/-! ## The refinement -/

/-- The samples of a minute apart. -/
def OnMinute (second : Nat) : Prop := ∃ minute < minutesPerDay, second = minute * 60

def InWindow (coarse second : Nat) : Prop :=
  coarse ≤ second + refinementRadiusSeconds ∧ second ≤ coarse + refinementRadiusSeconds ∧
    second < secondsPerDay

/-- The earliest nearest second of the window around the earliest nearest sample. -/
def Refined (sun : Sun Location Vector Distance) (location : Location) (base : Int) (target : Vector)
    (second : Nat) : Prop :=
  ∃ coarse, EarliestNearest (distanceAt sun location base target) OnMinute coarse ∧
    EarliestNearest (distanceAt sun location base target) (InWindow coarse) second

theorem EarliestNearest.congr {Order : Type} [LinearOrder Order] {distance : Nat → Order}
    {candidate other : Nat → Prop} {second : Nat} (isNearest : EarliestNearest distance candidate second)
    (same : ∀ second, candidate second ↔ other second) : EarliestNearest distance other second :=
  funext (fun second => propext (same second)) ▸ isNearest

theorem mem_refinementWindow {coarse second : Nat} (within : coarse < secondsPerDay) :
    second ∈ refinementWindow coarse ↔ InWindow coarse second := by
  rw [refinementWindow, List.mem_range'_1]
  simp only [InWindow, refinementRadiusSeconds, secondsPerDay] at *
  omega

theorem refinementWindow_rising (coarse : Nat) : (refinementWindow coarse).Pairwise (· < ·) :=
  List.pairwise_lt_range'

theorem EarliestNearest.coarse_lt {Order : Type} [LinearOrder Order] {distance : Nat → Order} {coarse : Nat}
    (isCoarse : EarliestNearest distance OnMinute coarse) : coarse < secondsPerDay := by
  obtain ⟨minute, bound, isMinute⟩ := isCoarse.member
  rw [isMinute]
  simp only [minutesPerDay, secondsPerDay] at *
  omega

theorem inWindow_self {coarse : Nat} (within : coarse < secondsPerDay) : InWindow coarse coarse :=
  ⟨Nat.le_add_right _ _, Nat.le_add_right _ _, within⟩

/-- The refinement is at least as near as every sample, since its window holds the nearest one. -/
theorem Refined.nearest_sample {target : Vector} {second : Nat}
    (refined : Refined sun location base target second) {sample : Nat} (onMinute : OnMinute sample) :
    distanceAt sun location base target second ≤ distanceAt sun location base target sample := by
  obtain ⟨coarse, isCoarse, isRefined⟩ := refined
  exact le_trans (isRefined.nearest coarse (inWindow_self isCoarse.coarse_lt)) (isCoarse.nearest sample onMinute)

theorem Refined.lt {target : Vector} {second : Nat} (refined : Refined sun location base target second) :
    second < secondsPerDay := by
  obtain ⟨_, _, isRefined⟩ := refined
  exact isRefined.member.2.2

omit [LinearOrder Distance] in
theorem sampleAt_eq_ok {second : Nat} {sample : Sample Vector} :
    sampleAt sun location base second = .ok sample ↔
      ∃ position, sun.solarPosition location base second = .ok position ∧
        sample = { second, vector := sun.unitVector position } := by
  rw [sampleAt, bind_eq_ok]
  constructor
  · intro computes
    obtain ⟨position, isPosition, isSample⟩ := computes
    exact ⟨position, isPosition, (pure_eq_ok.mp isSample).symm⟩
  · intro computes
    obtain ⟨position, isPosition, isSample⟩ := computes
    exact ⟨position, isPosition, pure_eq_ok.mpr isSample.symm⟩

omit [LinearOrder Distance] in
theorem sampled_of_mapM {seconds : List Nat} {samples : List (Sample Vector)}
    (computes : seconds.mapM (sampleAt sun location base) = .ok samples) :
    Sampled sun location base seconds samples :=
  (mapM_ok computes).imp fun _ _ isSample => sampleAt_eq_ok.mp isSample

/-- What the refining loop ends with is the best of the samples of its window. -/
theorem refines {coarse : Nat} {target : Vector}
    (isCoarse : EarliestNearest (distanceAt sun location base target) OnMinute coarse)
    {samples : List (Sample Vector)}
    (sampled : Sampled sun location base (refinementWindow coarse) samples) :
    ∃ best, samples.foldl (nearer sun target) none = some best ∧
      Refined sun location base target best.second := by
  have within := isCoarse.coarse_lt
  have inside (second : Nat) : second ∈ refinementWindow coarse ↔ InWindow coarse second :=
    mem_refinementWindow within
  have nonempty : refinementWindow coarse ≠ [] :=
    List.ne_nil_of_mem ((inside coarse).mpr (inWindow_self within))
  obtain ⟨best, isBest, nearestBest⟩ :=
    foldl_nearer sampled (refinementWindow_rising coarse) nonempty target
  exact ⟨best, isBest, coarse, isCoarse, nearestBest.congr inside⟩

/-- A second that is found refines the samples, and one is found if the sun always has a position. -/
theorem nearestSecond_spec {seconds : List Nat} {samples : List (Sample Vector)}
    (sampled : Sampled sun location base seconds samples) (rising : seconds.Pairwise (· < ·))
    (minutes : ∀ second, second ∈ seconds ↔ OnMinute second) (target : Vector) :
    (∀ second, nearestSecond sun samples location base target = .ok second →
      Refined sun location base target second) ∧
    ((∀ second < secondsPerDay, ∃ position, sun.solarPosition location base second = .ok position) →
      ∃ second, nearestSecond sun samples location base target = .ok second) := by
  have nonempty : seconds ≠ [] := List.ne_nil_of_mem ((minutes 0).mpr ⟨0, by decide, rfl⟩)
  obtain ⟨coarse, isCoarse, nearestCoarse⟩ := foldl_nearer sampled rising nonempty target
  have onMinute := nearestCoarse.congr minutes
  rw [nearestSecond, isCoarse]
  simp only [foldlM_eq_mapM (nearer sun target)]
  constructor
  · intro second isSecond
    obtain ⟨_, isFound, continues⟩ := bind_eq_ok.mp isSecond
    cases isFound
    obtain ⟨refined, isRefined, isFound⟩ := bind_eq_ok.mp continues
    obtain ⟨refinedSamples, isSamples, isFold⟩ := bind_eq_ok.mp isRefined
    obtain ⟨best, isBest, bestRefined⟩ := refines onMinute (sampled_of_mapM isSamples)
    rw [← pure_eq_ok.mp isFold, isBest] at isFound
    cases isFound
    exact bestRefined
  · intro positions
    have each : ∀ second ∈ refinementWindow coarse.second,
        ∃ sample, sampleAt sun location base second = .ok sample := by
      intro second member
      obtain ⟨position, isPosition⟩ :=
        positions second ((mem_refinementWindow onMinute.coarse_lt).mp member).2.2
      exact ⟨_, sampleAt_eq_ok.mpr ⟨position, isPosition, rfl⟩⟩
    obtain ⟨refinedSamples, isSamples⟩ := mapM_succeeds each
    obtain ⟨best, isBest, _⟩ := refines onMinute (sampled_of_mapM isSamples)
    refine ⟨best.second, bind_eq_ok.mpr ⟨coarse.second, rfl, ?_⟩⟩
    rw [isSamples]
    exact bind_eq_ok.mpr ⟨some best, congrArg Except.ok isBest, rfl⟩

/-! ## The schedule -/

/-- A mapped point shows the authored image, and its boundary is the second found for its position. -/
def Maps (sun : Sun Location Vector Distance) (location : Location) (base : Int) (point : SolarPoint)
    (mapped : TimePoint) : Prop :=
  mapped.image = point.image ∧
    ∃ second < secondsPerDay, effectiveBoundarySecond mapped.time = second ∧
      Refined sun location base (sun.unitVector point.position) second ∧
      ∀ minute < minutesPerDay,
        distanceAt sun location base (sun.unitVector point.position) second ≤
          distanceAt sun location base (sun.unitVector point.position) (minute * 60)

end Search

/-- The fraction of every second of the day is a normalized time. -/
theorem new_secondFraction {second : Nat} (within : second < secondsPerDay) :
    ∃ time, NormalizedTime.new (secondFraction second) = .ok time ∧ time.value = secondFraction second := by
  have first : secondFraction 0 = 0 := by decide +kernel
  have whole : secondFraction secondsPerDay = 1 := by decide +kernel
  have lower := secondFraction_strictMono.monotone (Nat.zero_le second)
  have upper := secondFraction_strictMono within
  rw [first] at lower
  rw [whole] at upper
  exact ⟨{ value := secondFraction second, valid := ⟨lower, upper⟩ }, dif_pos ⟨lower, upper⟩, rfl⟩

/-- The binary search of the scheduler finds the second that a fraction was divided out of. -/
theorem effectiveBoundarySecond_secondFraction {time : NormalizedTime} {second : Nat}
    (within : second < secondsPerDay) (isFraction : time.value = secondFraction second) :
    effectiveBoundarySecond time = second := by
  rw [effectiveBoundarySecond_eq]
  apply Nat.le_antisymm
  · exact (boundarySecond_le_iff secondFraction_monotone time within).mpr (le_of_eq isFraction)
  · by_contra early
    have before : boundarySecond secondFraction time ≤ second - 1 := by omega
    have reached := (boundarySecond_le_iff secondFraction_monotone time (by omega)).mp before
    rw [isFraction] at reached
    have less : second - 1 < second := by omega
    exact absurd (secondFraction_strictMono less) (not_lt_of_ge reached)

/-- No year of 32 bits overflows the subtraction. -/
theorem baseUtc_ok {clock : ClockSnapshot}
    (representable : -(2 ^ 31) ≤ clock.date.year ∧ clock.date.year < 2 ^ 31) :
    baseUtc clock = .ok (startOfDay clock) := by
  have seconds := clock.timeOfDay_lt
  have month := clock.date.month_le
  have dayBound := clock.date.valid.2
  have days : daysInMonth clock.date.year clock.date.month ≤ 31 := CivilDate.daysInMonth_le _ _
  have offset := clock.validOffset
  have nanosecond := clock.validNanosecond
  apply if_pos
  simp only [startOfDay, ClockSnapshot.utcNanoseconds, CivilDate.dayNumber, ClockSnapshot.secondsOfDay,
    Duration.nanosecondsPerSecond]
  omega

section Mapping

variable {Location Vector Distance : Type} [LinearOrder Distance] {sun : Sun Location Vector Distance}

/-- The seconds at which the trajectory is sampled. -/
def sampledSeconds : List Nat := (List.range minutesPerDay).map (· * 60)

theorem sampledSeconds_rising : sampledSeconds.Pairwise (· < ·) := by
  rw [sampledSeconds, List.pairwise_map]
  exact List.pairwise_lt_range.imp fun less => Nat.mul_lt_mul_of_pos_right less (by decide)

theorem mem_sampledSeconds (second : Nat) : second ∈ sampledSeconds ↔ OnMinute second := by
  simp [sampledSeconds, OnMinute, eq_comm]

omit [LinearOrder Distance] in
theorem trajectory_sampled {location : Location} {clock : ClockSnapshot} {base : Int}
    (isBase : baseUtc clock = .ok base) {positions : List (Nat × SolarPosition)}
    (isTrajectory : trajectory sun location clock = .ok positions) :
    Sampled sun location base sampledSeconds (positions.map fun sample =>
      { second := sample.1, vector := sun.unitVector sample.2 }) := by
  obtain ⟨_, sameBase, computes⟩ := bind_eq_ok.mp isTrajectory
  cases isBase.symm.trans sameBase
  rw [Sampled, sampledSeconds, List.forall₂_map_left_iff, List.forall₂_map_right_iff]
  apply (mapM_ok computes).imp
  intro minute sample isSample
  obtain ⟨position, isPosition, isPure⟩ := bind_eq_ok.mp isSample
  exact ⟨position, isPosition, by rw [← pure_eq_ok.mp isPure]⟩

omit [LinearOrder Distance] in
theorem trajectory_succeeds {location : Location} {clock : ClockSnapshot} {base : Int}
    (isBase : baseUtc clock = .ok base)
    (positions : ∀ second < secondsPerDay, ∃ position, sun.solarPosition location base second = .ok position) :
    ∃ found, trajectory sun location clock = .ok found := by
  have each : ∀ minute ∈ List.range minutesPerDay, ∃ sample, (do
      let position ← sun.solarPosition location base (minute * 60)
      pure (minute * 60, position) : Except SolarError (Nat × SolarPosition)) = .ok sample := by
    intro minute member
    have bound := List.mem_range.mp member
    obtain ⟨position, isPosition⟩ := positions (minute * 60) (by
      simp only [minutesPerDay, secondsPerDay] at *
      omega)
    exact ⟨_, by rw [isPosition]; rfl⟩
  obtain ⟨found, isFound⟩ := mapM_succeeds each
  exact ⟨found, bind_eq_ok.mpr ⟨base, isBase, isFound⟩⟩

/-- One point of the schedule. -/
theorem maps_of_refined {location : Location} {base : Int} {point : SolarPoint} {second : Nat}
    (refined : Refined sun location base (sun.unitVector point.position) second) :
    ∃ time, NormalizedTime.new (secondFraction second) = .ok time ∧
      Maps sun location base point { image := point.image, time } := by
  obtain ⟨time, isTime, isFraction⟩ := new_secondFraction refined.lt
  refine ⟨time, isTime, rfl, second, refined.lt, ?_, refined, ?_⟩
  · exact effectiveBoundarySecond_secondFraction refined.lt isFraction
  · intro minute bound
    exact refined.nearest_sample ⟨minute, bound, rfl⟩

/-- One mapped point for each authored one, in the same order and with the same image: its boundary
is the earliest nearest second around the earliest nearest sample.  A schedule is mapped whenever the
sun has a position at each second of the day. -/
theorem mapSchedule_spec (sun : Sun Location Vector Distance) (schedule : Schedule SolarPoint)
    (location : Location) (clock : ClockSnapshot)
    (representable : -(2 ^ 31) ≤ clock.date.year ∧ clock.date.year < 2 ^ 31) :
    (∀ points, mapSchedule sun schedule location clock = .ok points →
      List.Forall₂ (Maps sun location (startOfDay clock)) schedule.points points) ∧
    ((∀ second < secondsPerDay,
        ∃ position, sun.solarPosition location (startOfDay clock) second = .ok position) →
      ∃ points, mapSchedule sun schedule location clock = .ok points) := by
  have isBase := baseUtc_ok representable
  constructor
  · intro points isPoints
    obtain ⟨_, sameBase, computes⟩ := bind_eq_ok.mp isPoints
    cases isBase.symm.trans sameBase
    obtain ⟨positions, isTrajectory, computes⟩ := bind_eq_ok.mp computes
    have sampled := trajectory_sampled isBase isTrajectory
    apply (mapM_ok computes).imp
    intro point mapped isMapped
    obtain ⟨second, isSecond, isTime⟩ := bind_eq_ok.mp isMapped
    have refined := (nearestSecond_spec sampled sampledSeconds_rising mem_sampledSeconds _).1 second isSecond
    obtain ⟨time, accepted, maps⟩ := maps_of_refined refined
    simp only [accepted] at isTime
    exact pure_eq_ok.mp isTime ▸ maps
  · intro positions
    obtain ⟨found, isTrajectory⟩ := trajectory_succeeds isBase positions
    have sampled := trajectory_sampled isBase isTrajectory
    -- No search fails when every position can be computed, and the second that it finds is a time of the day.
    have each : ∀ point ∈ schedule.points, ∃ mapped, (do
        let second ← nearestSecond sun (found.map fun sample =>
          { second := sample.1, vector := sun.unitVector sample.2 }) location (startOfDay clock)
            (sun.unitVector point.position)
        match NormalizedTime.new (secondFraction second) with
        | .ok time => pure { image := point.image, time }
        | .error _ => throw .invalidTrajectory : Except SolarError TimePoint) = .ok mapped := by
      intro point _
      have spec := nearestSecond_spec sampled sampledSeconds_rising mem_sampledSeconds
        (sun.unitVector point.position)
      obtain ⟨second, isSecond⟩ := spec.2 positions
      obtain ⟨time, accepted, _⟩ := maps_of_refined (spec.1 second isSecond)
      refine ⟨{ image := point.image, time }, bind_eq_ok.mpr ⟨second, isSecond, ?_⟩⟩
      simp only [accepted]
      rfl
    obtain ⟨points, isPoints⟩ := mapM_succeeds each
    exact ⟨points, bind_eq_ok.mpr ⟨startOfDay clock, isBase,
      bind_eq_ok.mpr ⟨found, isTrajectory, isPoints⟩⟩⟩

end Mapping

/-- A sun on the horizon that goes round once a day, and distances along it. -/
def sampleSun : Sun Unit ℚ ℚ where
  solarPosition _ _ second :=
    match SolarPosition.new 0 (second / 240) with
    | .ok position => .ok position
    | .error _ => .error .invalidTrajectory
  unitVector position := position.azimuthDegrees
  angularDistance left right := |left - right|

/-- A point a quarter of a degree past south. -/
def sampleSolar : Schedule SolarPoint where
  points := [{
    image := ⟨3⟩
    position := {
      altitudeDegrees := 0
      azimuthDegrees := 180 + 1 / 4
      validAltitude := SolarPosition.validAltitude_zero
      validAzimuth := by norm_num } }]
  appearance := none
  nonempty := by simp

theorem mapSchedule_spec_sample :
    ∃ points, mapSchedule sampleSun sampleSolar () ClockSnapshot.epoch = .ok points ∧
      List.Forall₂ (Maps sampleSun () (startOfDay ClockSnapshot.epoch)) sampleSolar.points points := by
  obtain ⟨spec, succeeds⟩ := mapSchedule_spec sampleSun sampleSolar () ClockSnapshot.epoch (by decide)
  have positions : ∀ second < secondsPerDay, ∃ position,
      sampleSun.solarPosition () (startOfDay ClockSnapshot.epoch) second = .ok position := by
    intro second within
    have whole : (second : ℚ) < 86400 := by exact_mod_cast within
    have azimuth : (0 : ℚ) ≤ second / 240 ∧ (second : ℚ) / 240 < 360 :=
      ⟨by positivity, by rw [div_lt_iff₀ (by norm_num)]; linarith⟩
    have altitude : (-90 : ℚ) ≤ 0 ∧ (0 : ℚ) ≤ 90 := by norm_num
    have accepted : ∃ position, SolarPosition.new 0 (second / 240) = .ok position :=
      ⟨_, by rw [SolarPosition.new, dif_pos altitude, dif_pos azimuth]⟩
    obtain ⟨position, isPosition⟩ := accepted
    refine ⟨position, ?_⟩
    simp only [sampleSun, isPosition]
  obtain ⟨points, isPoints⟩ := succeeds positions
  exact ⟨points, isPoints, spec points isPoints⟩

end Genkan.DynamicWallpaper
