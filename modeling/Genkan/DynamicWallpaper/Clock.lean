import Mathlib.Algebra.Ring.Nat

/-! # Civil clocks and monotonic durations

A duration is a number of nanoseconds.  Its 64-bit count of seconds bounds it, which only the
checked addition can notice; the saturating subtraction of the source is that of natural numbers.
-/

namespace Genkan.DynamicWallpaper

namespace Duration

def nanosecondsPerSecond : Nat := 1000000000

def fromSecs (seconds : Nat) : Nat := seconds * nanosecondsPerSecond

/-- The first number of nanoseconds that `Duration::MAX` cannot hold. -/
def limit : Nat := 2 ^ 64 * nanosecondsPerSecond

def checkedAdd (left right : Nat) : Option Nat :=
  if left + right < limit then some (left + right) else none

def checkedSub (left right : Nat) : Option Nat :=
  if right ≤ left then some (left - right) else none

theorem checkedAdd_of_lt {left right : Nat} (bound : left + right < limit) :
    checkedAdd left right = some (left + right) := if_pos bound

end Duration

def secondsPerDay : Nat := 86400

def day : Nat := Duration.fromSecs secondsPerDay

/-! ## Civil dates and times -/

def isLeapYear (year : Int) : Bool := year % 4 == 0 && (year % 100 != 0 || year % 400 == 0)

def daysInMonth (year : Int) (month : Nat) : Nat :=
  match month with
  | 1 | 3 | 5 | 7 | 8 | 10 | 12 => 31
  | 4 | 6 | 9 | 11 => 30
  | 2 => if isLeapYear year then 29 else 28
  | _ => 0

structure CivilDate where
  year : Int
  month : Nat
  day : Nat
  valid : 0 < day ∧ day ≤ daysInMonth year month

structure CivilTime where
  hour : Nat
  minute : Nat
  second : Nat
  valid : hour < 24 ∧ minute < 60 ∧ second < 60

structure ClockSnapshot where
  date : CivilDate
  time : CivilTime
  nanosecond : Nat
  utcOffsetSeconds : Int
  validNanosecond : nanosecond < 1000000000
  validOffset : -86399 ≤ utcOffsetSeconds ∧ utcOffsetSeconds ≤ 86399

theorem ClockSnapshot.validNanosecond_zero : 0 < 1000000000 := by decide

theorem ClockSnapshot.validOffset_zero : -86399 ≤ (0 : Int) ∧ (0 : Int) ≤ 86399 := by decide

/-- The noon-based Julian day number. -/
def CivilDate.dayNumber (date : CivilDate) : Int :=
  let adjustment : Int := (14 - date.month) / 12
  let year : Int := date.year + 4800 - adjustment
  let month : Int := date.month + 12 * adjustment - 3
  date.day + (153 * month + 2) / 5 + 365 * year + year / 4 - year / 100 + year / 400 - 32045

def CivilTime.seconds (time : CivilTime) : Nat := time.hour * 3600 + time.minute * 60 + time.second

namespace ClockSnapshot

/-- Nanoseconds since the Unix epoch for this local wall-clock snapshot. -/
def utcNanoseconds (clock : ClockSnapshot) : Int :=
  ((clock.date.dayNumber - 2440588) * 86400 + clock.time.seconds - clock.utcOffsetSeconds) *
    1000000000 + clock.nanosecond

def secondsOfDay (clock : ClockSnapshot) : Nat := clock.time.seconds

def timeOfDay (clock : ClockSnapshot) : Nat :=
  Duration.fromSecs clock.secondsOfDay + clock.nanosecond

theorem timeOfDay_lt (clock : ClockSnapshot) : clock.timeOfDay < day := by
  obtain ⟨hour, minute, second⟩ := clock.time.valid
  have nanosecond := clock.validNanosecond
  simp only [timeOfDay, secondsOfDay, CivilTime.seconds, day, Duration.fromSecs,
    Duration.nanosecondsPerSecond, secondsPerDay]
  omega

end ClockSnapshot

def clockToleranceNanoseconds : Nat := 1000000000

def clockDiscontinuity (previousClock : ClockSnapshot) (previousMonotonic : Nat)
    (clock : ClockSnapshot) (monotonic : Nat) : Bool :=
  if clock.utcOffsetSeconds ≠ previousClock.utcOffsetSeconds ∨ monotonic < previousMonotonic then
    true
  else
    let wallDelta := clock.utcNanoseconds - previousClock.utcNanoseconds
    let monotonicDelta : Int := (monotonic - previousMonotonic : Nat)
    decide (clockToleranceNanoseconds < (wallDelta - monotonicDelta).natAbs)

theorem clockDiscontinuity_of_before {previousClock clock : ClockSnapshot}
    {previousMonotonic monotonic : Nat} (before : monotonic < previousMonotonic) :
    clockDiscontinuity previousClock previousMonotonic clock monotonic = true := by
  simp [clockDiscontinuity, before]

end Genkan.DynamicWallpaper
