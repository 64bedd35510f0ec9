import Genkan.DynamicWallpaper.Wake
import Genkan.Foundations.Latest
import Mathlib.Tactic.Linarith

/-! # What a time schedule selects

The selection searches for a boundary second and scans the sorted points backwards.  Here it is
compared with its definition: the greatest normalized time that the fraction of the day has reached.
The program divides the fraction out as a double, which may lie on the other side of a time than the
exact rational number.
-/

namespace Genkan.DynamicWallpaper

open Foundations Foundations.Bisection

/-! ## The fraction of the day -/

def exactFraction (second : Nat) : ℚ := second / secondsPerDay

theorem exactFraction_monotone : Monotone exactFraction := by
  intro earlier later order
  have increases : (earlier : ℚ) ≤ later := Nat.cast_le.mpr order
  exact div_le_div_of_nonneg_right increases (Nat.cast_nonneg _)

theorem roundHalfEven_bounds (value : ℚ) :
    value - 1 / 2 ≤ roundHalfEven value ∧ (roundHalfEven value : ℚ) ≤ value + 1 / 2 := by
  have below := Int.floor_le value
  have above := Int.lt_floor_add_one value
  simp only [roundHalfEven]
  split
  next => constructor <;> linarith
  next notBelow =>
    split
    next => push_cast; constructor <;> linarith
    next notAbove =>
      split
      next => constructor <;> linarith
      next => push_cast; constructor <;> linarith

/-- The division of the program is off by half a unit in the last place, at most. -/
theorem secondFraction_bounds (second : Nat) :
    exactFraction second - 1 / 2 ^ 54 ≤ secondFraction second ∧
      secondFraction second ≤ exactFraction second + 1 / 2 ^ 54 := by
  let scale : ℚ := 2 ^ (53 + Nat.log2 (secondsPerDay / second))
  have large : (2 : ℚ) ^ 53 ≤ scale := pow_le_pow_right₀ (by norm_num) (Nat.le_add_right _ _)
  have positive : 0 < scale := lt_of_lt_of_le (by norm_num) large
  -- The rounding errs by half a unit of a scale that is at least two to the 53.
  obtain ⟨below, above⟩ := roundHalfEven_bounds (second * scale / secondsPerDay)
  have unscaled : exactFraction second = second * scale / secondsPerDay / scale := by
    rw [exactFraction]
    field_simp
  have half : 1 / 2 / scale ≤ 1 / 2 ^ 54 := by
    rw [div_le_div_iff₀ positive (by norm_num)]
    linarith
  have lower := div_le_div_of_nonneg_right below (le_of_lt positive)
  have upper := div_le_div_of_nonneg_right above (le_of_lt positive)
  rw [sub_div, ← unscaled] at lower
  rw [add_div, ← unscaled] at upper
  have isRounded : secondFraction second =
      (roundHalfEven (second * scale / secondsPerDay) : ℚ) / scale := rfl
  rw [isRounded]
  constructor <;> linarith

theorem secondFraction_strictMono : StrictMono secondFraction := by
  apply strictMono_nat_of_lt_succ
  intro second
  have gap : exactFraction (second + 1) = exactFraction second + 1 / 86400 := by
    simp only [exactFraction, secondsPerDay]
    push_cast
    ring
  have upper := (secondFraction_bounds second).2
  have lower := (secondFraction_bounds (second + 1)).1
  rw [gap] at lower
  have small : (1 : ℚ) / 2 ^ 54 + 1 / 2 ^ 54 < 1 / 86400 := by norm_num
  linarith

theorem secondFraction_monotone : Monotone secondFraction := secondFraction_strictMono.monotone

/-! ## The boundary second -/

def boundarySecond (fraction : Nat → ℚ) (time : NormalizedTime) : Nat :=
  bisect (fun second => decide (time.value ≤ fraction second)) 17 0 secondsPerDay

theorem effectiveBoundarySecond_eq (time : NormalizedTime) :
    effectiveBoundarySecond time = boundarySecond secondFraction time := rfl

/-- Within the day a boundary has passed exactly when the fraction of the day has reached its time. -/
theorem boundarySecond_le_iff {fraction : Nat → ℚ} (rising : Monotone fraction) (time : NormalizedTime)
    {second : Nat} (within : second < secondsPerDay) :
    boundarySecond fraction time ≤ second ↔ time.value ≤ fraction second := by
  have monotone : Monotone fun second => decide (time.value ≤ fraction second) := by
    intro earlier later order
    apply Bool.le_iff_imp.mpr
    intro reached
    exact decide_eq_true (le_trans (of_decide_eq_true reached) (rising order))
  rw [boundarySecond, bisect_le_iff monotone (by decide) (Nat.zero_le _) within, decide_eq_true_iff]

/-! ## The definition -/

def timeOf (point : TimePoint) : ℚ := point.time.value

def reached (fraction : Nat → ℚ) (second : Nat) (point : TimePoint) : Bool :=
  decide (timeOf point ≤ fraction second)

/-- The greatest time that has been reached, or the greatest of all if none has; among equal times
the last one in metadata order. -/
def Selects (fraction : Nat → ℚ) (points : List TimePoint) (second : Nat) (choice : TimePoint) : Prop :=
  Latest (reached fraction second) timeOf points choice ∨
    (∀ point ∈ points, reached fraction second point = false) ∧
      Latest (fun _ => true) timeOf points choice

theorem Selects.unique {fraction : Nat → ℚ} {points : List TimePoint} {second : Nat}
    {choice other : TimePoint} (left : Selects fraction points second choice)
    (right : Selects fraction points second other) : choice = other := by
  cases left with
  | inl left =>
    cases right with
    | inl right => exact left.unique right
    | inr right =>
      obtain ⟨member, isReached⟩ := left.mem_qualifies
      simp [right.1 choice member] at isReached
  | inr left =>
    cases right with
    | inl right =>
      obtain ⟨member, isReached⟩ := right.mem_qualifies
      simp [left.1 other member] at isReached
    | inr right => exact left.2.unique right.2

theorem Selects.of_sameClasses {fraction : Nat → ℚ} {left right : List TimePoint} {second : Nat}
    {choice : TimePoint} (same : SameClasses timeOf left right)
    (selects : Selects fraction left second choice) : Selects fraction right second choice := by
  cases selects with
  | inl latest => exact .inl (latest.of_sameClasses same)
  | inr unreached =>
    refine .inr ⟨?_, unreached.2.of_sameClasses same⟩
    intro point member
    apply unreached.1
    have inClass : point ∈ right.filter fun other => decide (timeOf other = timeOf point) := by
      simp [member]
    rw [← same (timeOf point)] at inClass
    exact List.mem_of_mem_filter inClass

/-! ## The selection of the program -/

/-- `selectedPoint` with the given fraction of the day. -/
def selectedPointBy (fraction : Nat → ℚ) (points : TimePoints) (clock : ClockSnapshot) : TimePoint :=
  let now := clock.secondsOfDay
  (points.points.reverse.find? fun point => boundarySecond fraction point.time ≤ now).getD
    (points.points.getLast points.nonempty)

theorem selectedPoint_eq (points : TimePoints) (clock : ClockSnapshot) :
    selectedPoint points clock = selectedPointBy secondFraction points clock := rfl

theorem sortedTimePoints_points (points : TimePoints) :
    (sortedTimePoints points).points = sortedBy timeOf points.points := rfl

theorem secondsOfDay_lt (clock : ClockSnapshot) : clock.secondsOfDay < secondsPerDay := by
  obtain ⟨hour, minute, second⟩ := clock.time.valid
  simp only [ClockSnapshot.secondsOfDay, CivilTime.seconds, secondsPerDay]
  omega

theorem selectedPointBy_selects {fraction : Nat → ℚ} (rising : Monotone fraction) (points : TimePoints)
    (clock : ClockSnapshot) :
    Selects fraction points.points clock.secondsOfDay
      (selectedPointBy fraction (sortedTimePoints points) clock) := by
  have isReached : (fun point : TimePoint =>
      decide (boundarySecond fraction point.time ≤ clock.secondsOfDay)) =
        reached fraction clock.secondsOfDay := by
    funext point
    exact decide_eq_decide.mpr (boundarySecond_le_iff rising point.time (secondsOfDay_lt clock))
  simp only [selectedPointBy, isReached, sortedTimePoints_points]
  cases found : (sortedBy timeOf points.points).reverse.find? (reached fraction clock.secondsOfDay) with
  | some choice => exact .inl (latest_of_sorted found)
  | none =>
    refine .inr ⟨?_, latest_getLast _⟩
    intro point member
    have unreached := List.find?_eq_none.mp found point (List.mem_reverse.mpr (mem_sortedBy.mpr member))
    simpa using unreached

namespace Playback

/-- Whatever a synchronization does about decodes, it adopts the selection of its clock. -/
theorem synchronizeInner_selected (playback : Playback) (counter : UInt64) (clock : ClockSnapshot)
    (monotonic : Nat) (forceDiscontinuity : Bool) :
    (playback.synchronizeInner counter clock monotonic forceDiscontinuity).1.selected =
      playback.selection clock := by
  simp only [synchronizeInner]
  split
  next => rfl
  next unchanged =>
    have same : playback.selection clock = playback.selected := by simpa using unchanged
    split
    next =>
      simp only [recover]
      split
      next => exact (settle_selected playback).trans same.symm
      next => split <;> exact (settle_selected playback).trans same.symm
    next =>
      simp only [retry]
      split <;> exact same.symm

end Playback

/-- The selections of a playback with the given authored points at a clock. -/
structure PlaybackSelects (points : TimePoints) (clock : ClockSnapshot) (image : ImageReference) :
    Prop where
  started : ∀ metadata primary monotonic reducedMotion counter schedule,
    metadata.time = .valid schedule → schedule.points = points.points →
      (Playback.withSolar metadata primary .automatic clock monotonic reducedMotion none
        counter).1.selected = image
  mapped : ∀ metadata primary monotonic reducedMotion counter,
    (Playback.withSolar metadata primary .automatic clock monotonic reducedMotion (some points)
      counter).1.selected = image
  adopted : ∀ (playback : Playback) counter monotonic,
    (playback.setSolarSchedule counter points clock monotonic).1.selected = image
  synchronized : ∀ (playback : Playback) counter monotonic,
    playback.mode = .time (sortedTimePoints points) →
      (playback.synchronize counter clock monotonic).1.selected = image
  resynchronized : ∀ (playback : Playback) counter monotonic,
    playback.mode = .time (sortedTimePoints points) →
      (playback.resynchronizeAfterDiscontinuity counter clock monotonic).1.selected = image

theorem playback_selects (points : TimePoints) (clock : ClockSnapshot) :
    PlaybackSelects points clock (selectedPoint (sortedTimePoints points) clock).image where
  started := by
    intro metadata primary monotonic reducedMotion counter schedule isValid isPoints
    have same : schedule.timePoints = points := by
      cases points
      cases schedule
      cases isPoints
      rfl
    simp [Playback.withSolar, Playback.initialMode, Metadata.select, isValid, PropertyState.value, same]
  mapped := by
    intro metadata primary monotonic reducedMotion counter
    rfl
  adopted := by
    intro playback counter monotonic
    exact Playback.synchronizeInner_selected _ counter clock monotonic false
  synchronized := by
    intro playback counter monotonic isTime
    rw [Playback.synchronize, Playback.synchronizeInner_selected, Playback.selection, isTime]
  resynchronized := by
    intro playback counter monotonic isTime
    rw [Playback.resynchronizeAfterDiscontinuity, Playback.synchronizeInner_selected, Playback.selection,
      isTime]

/-- The image a playback selects is that of the definition with the double that the program divides
out, and with an exact division the same search would select by the exact fraction; the authored order
matters only among equal times. -/
theorem selection_follows_definition (points : TimePoints) (clock : ClockSnapshot) :
    (∃ choice, Selects secondFraction points.points clock.secondsOfDay choice ∧
      PlaybackSelects points clock choice.image) ∧
    Selects exactFraction points.points clock.secondsOfDay
      (selectedPointBy exactFraction (sortedTimePoints points) clock) ∧
    ∀ other : TimePoints, (SameClasses timeOf points.points other.points ∨
        points.points.Perm other.points ∧ (points.points.map timeOf).Nodup) →
      selectedPoint (sortedTimePoints other) clock = selectedPoint (sortedTimePoints points) clock ∧
      selectedPointBy exactFraction (sortedTimePoints other) clock =
        selectedPointBy exactFraction (sortedTimePoints points) clock := by
  have exact := selectedPointBy_selects exactFraction_monotone
  have rounded := selectedPointBy_selects secondFraction_monotone
  simp only [← selectedPoint_eq] at rounded
  refine ⟨⟨_, rounded points clock, playback_selects points clock⟩, exact points clock, ?_⟩
  intro other reordered
  have same : SameClasses timeOf points.points other.points := by
    cases reordered with
    | inl same => exact same
    | inr distinct => exact .of_perm distinct.1 distinct.2
  exact ⟨(rounded other clock).unique ((rounded points clock).of_sameClasses same),
    (exact other clock).unique ((exact points clock).of_sameClasses same)⟩

theorem tenth_valid : (0 : ℚ) ≤ 3602879701896397 / 2 ^ 55 ∧ (3602879701896397 : ℚ) / 2 ^ 55 < 1 := by
  norm_num

theorem midnight_valid : (0 : ℚ) ≤ 0 ∧ (0 : ℚ) < 1 := by norm_num

def atMidnight : TimePoint := { image := ⟨1⟩, time := ⟨0, midnight_valid⟩ }

/-- The time of the point is the double that the text `0.1` denotes. -/
def atTenth : TimePoint := { image := ⟨2⟩, time := ⟨3602879701896397 / 2 ^ 55, tenth_valid⟩ }

def tenthPoints : TimePoints where
  points := [atMidnight, atTenth]
  nonempty := by simp

theorem early_valid : 2 < 24 ∧ 24 < 60 := by decide

/-- At twenty-four minutes past two a tenth of the day is over, which is less than the double nearest
to it: the exact fraction has not reached the time that the program finds reached. -/
theorem exact_fraction_not_followed :
    Selects exactFraction tenthPoints.points (sampleClock 2 24 early_valid).secondsOfDay atMidnight ∧
      PlaybackSelects tenthPoints (sampleClock 2 24 early_valid) atTenth.image ∧
      atMidnight.image ≠ atTenth.image := by
  have exact : selectedPointBy exactFraction (sortedTimePoints tenthPoints)
      (sampleClock 2 24 early_valid) = atMidnight := by decide +kernel
  have rounded : selectedPoint (sortedTimePoints tenthPoints) (sampleClock 2 24 early_valid) =
      atTenth := by decide +kernel
  refine ⟨?_, ?_, by decide⟩
  · rw [← exact]
    exact selectedPointBy_selects exactFraction_monotone tenthPoints _
  · rw [← rounded]
    exact playback_selects tenthPoints _

/-! ## Until the next boundary -/

/-- Ahead of every boundary either the same boundaries have passed as before, or midnight has passed,
before which all of them had passed and after which none has. -/
theorem boundaries_until {points : TimePoints} {earlier later : ClockSnapshot} {delay : Nat}
    (ahead : ∀ point ∈ points.points, delay < Playback.untilBoundary earlier point)
    (advanced : later.timeOfDay = (earlier.timeOfDay + delay) % day) :
    (∀ point ∈ points.points, effectiveBoundarySecond point.time ≤ later.secondsOfDay ↔
        effectiveBoundarySecond point.time ≤ earlier.secondsOfDay) ∨
      ((∀ point ∈ points.points, effectiveBoundarySecond point.time ≤ earlier.secondsOfDay) ∧
        ∀ point ∈ points.points, ¬ effectiveBoundarySecond point.time ≤ later.secondsOfDay) := by
  have within := earlier.timeOfDay_lt
  have earlierPart := earlier.validNanosecond
  have laterPart := later.validNanosecond
  simp only [ClockSnapshot.timeOfDay, Duration.fromSecs, Duration.nanosecondsPerSecond, day_eq] at advanced within
  simp only [Playback.untilBoundary, ClockSnapshot.timeOfDay, Duration.fromSecs,
    Duration.nanosecondsPerSecond, day_eq] at ahead
  by_cases sameDay : earlier.secondsOfDay * 1000000000 + earlier.nanosecond + delay < 86400000000000
  · rw [Nat.mod_eq_of_lt sameDay] at advanced
    left
    intro point member
    have notReached := ahead point member
    split at notReached <;> omega
  · right
    have bounds (point : TimePoint) : effectiveBoundarySecond point.time ≤ 86400 :=
      effectiveBoundarySecond_le point.time
    constructor
    · intro point member
      have notReached := ahead point member
      have bound := bounds point
      split at notReached <;> omega
    · intro point member
      have notReached := ahead point member
      have bound := bounds point
      split at notReached <;> omega

/-- As long as no boundary is reached the selected point stays what it is, also across midnight, where
the scan goes from finding the last point first to finding none. -/
theorem selectedPoint_until {points : TimePoints} {earlier later : ClockSnapshot} {delay : Nat}
    (ahead : ∀ point ∈ points.points, delay < Playback.untilBoundary earlier point)
    (advanced : later.timeOfDay = (earlier.timeOfDay + delay) % day) :
    selectedPoint points later = selectedPoint points earlier := by
  simp only [selectedPoint]
  cases boundaries_until ahead advanced with
  | inl same =>
    rw [Lists.find?_congr fun point member =>
      decide_eq_decide.mpr (same point (List.mem_reverse.mp member))]
  | inr midnight =>
    have before : (points.points.reverse.find? fun point =>
        decide (effectiveBoundarySecond point.time ≤ earlier.secondsOfDay)) =
        some (points.points.getLast points.nonempty) :=
      Lists.find?_reverse_of_all points.nonempty fun point member => decide_eq_true (midnight.1 point member)
    have after : (points.points.reverse.find? fun point =>
        decide (effectiveBoundarySecond point.time ≤ later.secondsOfDay)) = none := by
      rw [List.find?_eq_none]
      intro point member
      simpa using midnight.2 point (List.mem_reverse.mp member)
    rw [before, after, Option.getD_none, Option.getD_some]

/-- A time schedule always has a wake, and before it the selected point stays what it is, also across
midnight. -/
theorem no_boundary_slept_through {playback : Playback} {points : TimePoints}
    (isTime : playback.mode = .time points) (clock : ClockSnapshot) (monotonic : Nat) :
    (playback.nextWake clock monotonic).isSome = true ∧
      ∀ (later : ClockSnapshot) (wake delay : Nat), playback.nextWake clock monotonic = some wake →
        delay < wake → later.timeOfDay = (clock.timeOfDay + delay) % day →
        selectedPoint points later = selectedPoint points clock := by
  constructor
  · apply Playback.nextWake_isSome_iff.mpr
    exact .inl (Playback.nextBoundary_isSome_iff.mpr ⟨points, isTime⟩)
  · intro later wake delay wakes shorter advanced
    have boundaries := ((Playback.le_wake wakes wake).mp (Nat.le_refl _)).2.1
    rw [Playback.le_nextBoundary isTime] at boundaries
    have ahead : ∀ point ∈ points.points, delay < Playback.untilBoundary clock point := by
      intro point member
      exact Nat.lt_of_lt_of_le shorter (boundaries point member)
    exact selectedPoint_until ahead advanced

theorem lateTime_valid : 23 < 24 ∧ 59 < 60 ∧ 50 < 60 := by decide

theorem late_valid : 23 < 24 ∧ 59 < 60 := by decide

/-- Ten seconds to midnight. -/
def lateClock : ClockSnapshot :=
  { sampleClock 23 59 late_valid with time := ⟨23, 59, 50, lateTime_valid⟩ }

theorem nextTime_valid : 0 < 24 ∧ 0 < 60 ∧ 5 < 60 := by decide

theorem next_valid : 0 < 24 ∧ 0 < 60 := by decide

/-- A quarter of a minute later it is the next day. -/
def nextClock : ClockSnapshot :=
  { sampleClock 0 0 next_valid with time := ⟨0, 0, 5, nextTime_valid⟩ }

theorem afterMidnight_valid : (0 : ℚ) ≤ 1 / 4096 ∧ (1 : ℚ) / 4096 < 1 := by norm_num

/-- The boundaries are the twenty-second second of the day and noon. -/
def nightPoints : TimePoints where
  points := [{ image := ⟨0⟩, time := ⟨1 / 4096, afterMidnight_valid⟩ },
    { image := ⟨1⟩, time := ⟨1 / 2, NormalizedTime.valid_half⟩ }]
  nonempty := by simp

def latePlayback : Playback :=
  (Playback.withSolar {} ⟨0⟩ .automatic lateClock 0 false (some nightPoints) 0).1

theorem no_boundary_slept_through_sample :
    latePlayback.nextWake lateClock 0 = some (Duration.fromSecs 32) ∧
      selectedPoint (sortedTimePoints nightPoints) nextClock =
        selectedPoint (sortedTimePoints nightPoints) lateClock := by
  have isTime : latePlayback.mode = .time (sortedTimePoints nightPoints) := rfl
  have wakes : latePlayback.nextWake lateClock 0 = some (Duration.fromSecs 32) := by decide +kernel
  have shorter : Duration.fromSecs 15 < Duration.fromSecs 32 := by decide
  exact ⟨wakes, (no_boundary_slept_through isTime lateClock 0).2 nextClock _ _ wakes shorter (by decide)⟩

end Genkan.DynamicWallpaper
