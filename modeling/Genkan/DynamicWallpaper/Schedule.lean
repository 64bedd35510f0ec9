import Mathlib.Data.List.Sort
import Mathlib.Data.Rat.Floor
import Genkan.DynamicWallpaper.Clock
import Genkan.Foundations.Bisection

/-! # Images, schedules and the selection of an image

A normalized time is a finite double in `[0, 1)`, represented by the rational number it denotes.
The only other doubles of the model are the quotients `secondFraction`, which are rounded to the
53 bits of the format.
-/

namespace Genkan.DynamicWallpaper

open Foundations.Bisection

inductive AppleProperty where
  | time
  | solar
  | appearance
  deriving DecidableEq, Repr

inductive ModelError where
  | duplicateProperty (property : AppleProperty)
  | emptySchedule
  | invalidCivilDate
  | invalidCivilTime
  | invalidNanosecond
  | invalidNormalizedTime
  | invalidSolarAltitude
  | invalidSolarAzimuth
  | invalidUtcOffset
  | propertyTypeMismatch
  deriving DecidableEq, Repr

/-- The debug text of the error. -/
def ModelError.debug : ModelError → String
  | duplicateProperty .time => "DuplicateProperty(Time)"
  | duplicateProperty .solar => "DuplicateProperty(Solar)"
  | duplicateProperty .appearance => "DuplicateProperty(Appearance)"
  | emptySchedule => "EmptySchedule"
  | invalidCivilDate => "InvalidCivilDate"
  | invalidCivilTime => "InvalidCivilTime"
  | invalidNanosecond => "InvalidNanosecond"
  | invalidNormalizedTime => "InvalidNormalizedTime"
  | invalidSolarAltitude => "InvalidSolarAltitude"
  | invalidSolarAzimuth => "InvalidSolarAzimuth"
  | invalidUtcOffset => "InvalidUtcOffset"
  | propertyTypeMismatch => "PropertyTypeMismatch"

def ModelError.toString (error : ModelError) : String :=
  "invalid dynamic wallpaper model: " ++ error.debug

structure ImageReference where
  position : Nat
  deriving DecidableEq, Repr

structure NormalizedTime where
  value : ℚ
  valid : 0 ≤ value ∧ value < 1
  deriving DecidableEq

def NormalizedTime.new (value : ℚ) : Except ModelError NormalizedTime :=
  if valid : 0 ≤ value ∧ value < 1 then .ok { value, valid } else .error .invalidNormalizedTime

theorem NormalizedTime.valid_half : (0 : ℚ) ≤ 1 / 2 ∧ (1 : ℚ) / 2 < 1 := by norm_num

structure SolarPosition where
  altitudeDegrees : ℚ
  azimuthDegrees : ℚ
  validAltitude : -90 ≤ altitudeDegrees ∧ altitudeDegrees ≤ 90
  validAzimuth : 0 ≤ azimuthDegrees ∧ azimuthDegrees < 360
  deriving DecidableEq

theorem SolarPosition.validAltitude_zero : -90 ≤ (0 : ℚ) ∧ (0 : ℚ) ≤ 90 := by norm_num

def SolarPosition.new (altitudeDegrees azimuthDegrees : ℚ) : Except ModelError SolarPosition :=
  if validAltitude : -90 ≤ altitudeDegrees ∧ altitudeDegrees ≤ 90 then
    if validAzimuth : 0 ≤ azimuthDegrees ∧ azimuthDegrees < 360 then
      .ok { altitudeDegrees, azimuthDegrees, validAltitude, validAzimuth }
    else .error .invalidSolarAzimuth
  else .error .invalidSolarAltitude

structure Appearance where
  light : ImageReference
  dark : ImageReference
  deriving DecidableEq, Repr

structure TimePoint where
  image : ImageReference
  time : NormalizedTime
  deriving DecidableEq

structure SolarPoint where
  image : ImageReference
  position : SolarPosition
  deriving DecidableEq

structure Schedule (α : Type) where
  points : List α
  appearance : Option Appearance
  nonempty : points ≠ []
  deriving DecidableEq

def Schedule.new {α : Type} (points : List α) (appearance : Option Appearance) :
    Except ModelError (Schedule α) :=
  if nonempty : points ≠ [] then .ok { points, appearance, nonempty } else .error .emptySchedule

inductive PropertyState (α : Type) where
  | missing
  | valid (value : α)
  | conflicted
  deriving DecidableEq

def PropertyState.value {α : Type} : PropertyState α → Option α
  | valid value => some value
  | missing | conflicted => none

structure Metadata where
  time : PropertyState (Schedule TimePoint) := .missing
  solar : PropertyState (Schedule SolarPoint) := .missing
  appearance : PropertyState Appearance := .missing
  deriving DecidableEq

inductive AppearancePreference where
  | automatic
  | light
  | dark
  deriving DecidableEq, Repr

inductive Selection where
  | solar (schedule : Schedule SolarPoint)
  | time (schedule : Schedule TimePoint)
  | fixed (image : ImageReference)
  | primary
  deriving DecidableEq

namespace Metadata

def fallbackAppearance (metadata : Metadata) : Option Appearance :=
  (metadata.appearance.value.or (metadata.time.value.bind (·.appearance))).or
    (metadata.solar.value.bind (·.appearance))

def select (metadata : Metadata) (appearance : AppearancePreference) (solarEnabled : Bool)
    (locationAvailable : Bool) : Selection :=
  match appearance with
  | .light => (metadata.fallbackAppearance.map fun pair => .fixed pair.light).getD .primary
  | .dark => (metadata.fallbackAppearance.map fun pair => .fixed pair.dark).getD .primary
  | .automatic =>
    match (if solarEnabled && locationAvailable then metadata.solar.value else none) with
    | some schedule => .solar schedule
    | none =>
      match metadata.time.value with
      | some schedule => .time schedule
      | none => (metadata.fallbackAppearance.map fun pair => .fixed pair.light).getD .primary

/-- Playback asks for a selection without solar and does not handle a solar answer. -/
theorem select_ne_solar (metadata : Metadata) (appearance : AppearancePreference)
    (schedule : Schedule SolarPoint) : metadata.select appearance false false ≠ .solar schedule := by
  cases appearance with
  | light | dark => cases found : metadata.fallbackAppearance <;> simp [select, found]
  | automatic =>
    cases time : metadata.time.value with
    | some points => simp [select, time]
    | none => cases found : metadata.fallbackAppearance <;> simp [select, time, found]

end Metadata

/-! ## Boundaries -/

def roundHalfEven (value : ℚ) : Int :=
  let below := ⌊value⌋
  if value - below < 1 / 2 then below
  else if 1 / 2 < value - below then below + 1
  else if below % 2 = 0 then below else below + 1

/-- The double nearest to the quotient of two naturals of which the first is not the larger one:
the scaled quotient lies between `2 ^ 52` and `2 ^ 53`, where doubles are the integers. -/
def doubleQuotient (numerator denominator : Nat) : ℚ :=
  let scale : ℚ := 2 ^ (53 + Nat.log2 (denominator / numerator))
  roundHalfEven (numerator * scale / denominator) / scale

def secondFraction (second : Nat) : ℚ := doubleQuotient second secondsPerDay

/-- The binary search over the seconds of a day: `fuel` bounds the number of iterations. -/
def searchBoundary (time : ℚ) (fuel low high : Nat) : Nat :=
  bisect (fun second => decide (time ≤ secondFraction second)) fuel low high

def effectiveBoundarySecond (time : NormalizedTime) : Nat :=
  searchBoundary time.value 17 0 secondsPerDay

/-- The fuel suffices: more of it changes nothing once the range is smaller than its power of two. -/
theorem searchBoundary_fuel (time : ℚ) {fuel low high : Nat} (bound : high - low < 2 ^ fuel) :
    searchBoundary time (fuel + 1) low high = searchBoundary time fuel low high := bisect_fuel bound

theorem searchBoundary_le (time : ℚ) {fuel low high : Nat} (order : low ≤ high) :
    searchBoundary time fuel low high ≤ high := bisect_le order

example : searchBoundary (secondFraction 13) 17 0 secondsPerDay = 13 := by decide +kernel

theorem effectiveBoundarySecond_le (time : NormalizedTime) :
    effectiveBoundarySecond time ≤ secondsPerDay := searchBoundary_le time.value (Nat.zero_le _)

/-! ## Schedules of playback -/

/-- The points of a schedule, of which there is at least one: selecting a point of an empty
schedule panics. -/
structure TimePoints where
  points : List TimePoint
  nonempty : points ≠ []

def Schedule.timePoints (schedule : Schedule TimePoint) : TimePoints :=
  ⟨schedule.points, schedule.nonempty⟩

/-- The sort is stable: among equal times the metadata order is kept. -/
def sortedTimePoints (points : TimePoints) : TimePoints where
  points := points.points.insertionSort fun left right => left.time.value ≤ right.time.value
  nonempty := by
    intro empty
    have length := List.length_insertionSort (fun left right : TimePoint =>
      left.time.value ≤ right.time.value) points.points
    rw [empty] at length
    exact points.nonempty (List.length_eq_zero_iff.mp length.symm)

def selectedPoint (points : TimePoints) (clock : ClockSnapshot) : TimePoint :=
  let now := clock.secondsOfDay
  (points.points.reverse.find? fun point => effectiveBoundarySecond point.time ≤ now).getD
    (points.points.getLast points.nonempty)

/-- The monotonic time at which the boundary of the selected point was passed. -/
def boundaryStart (points : TimePoints) (clock : ClockSnapshot) (monotonic : Nat) : Option Nat :=
  let selected := selectedPoint points clock
  let boundary := Duration.fromSecs (effectiveBoundarySecond selected.time)
  let now := clock.timeOfDay
  let elapsed :=
    if boundary ≤ now then now - boundary
    else if boundary = day then now
    else day - boundary + now
  Duration.checkedSub monotonic elapsed

end Genkan.DynamicWallpaper
