import Mathlib.Data.Int.ConditionallyCompleteOrder
import Mathlib.Order.Monotone.Basic
import Mathlib.Order.SuccPred.IntervalSucc
import Mathlib.Tactic.IntervalCases
import Genkan.DynamicWallpaper.Schedule

/-! # The conversion of civil time counts days

The rules of the calendar are those of the months and of the leap years.  The closed formula for the
number of a day agrees with them: from every day to the next it grows by one.
-/

namespace Genkan.DynamicWallpaper

/-! ## Constructors -/

def CivilDate.new (year : Int) (month day : Nat) : Except ModelError CivilDate :=
  if valid : 0 < day ∧ day ≤ daysInMonth year month then .ok { year, month, day, valid }
  else .error .invalidCivilDate

def CivilTime.new (hour minute second : Nat) : Except ModelError CivilTime :=
  if valid : hour < 24 ∧ minute < 60 ∧ second < 60 then .ok { hour, minute, second, valid }
  else .error .invalidCivilTime

def ClockSnapshot.newWithNanosecond (date : CivilDate) (time : CivilTime) (nanosecond : Nat)
    (utcOffsetSeconds : Int) : Except ModelError ClockSnapshot :=
  if validNanosecond : nanosecond < 1000000000 then
    if validOffset : -86399 ≤ utcOffsetSeconds ∧ utcOffsetSeconds ≤ 86399 then
      .ok { date, time, nanosecond, utcOffsetSeconds, validNanosecond, validOffset }
    else .error .invalidUtcOffset
  else .error .invalidNanosecond

/-! The values of the three types are exactly those that their constructors accept. -/

theorem CivilDate.new_self (date : CivilDate) : new date.year date.month date.day = .ok date :=
  dif_pos date.valid

theorem CivilTime.new_self (time : CivilTime) : new time.hour time.minute time.second = .ok time :=
  dif_pos time.valid

theorem ClockSnapshot.newWithNanosecond_self (clock : ClockSnapshot) :
    newWithNanosecond clock.date clock.time clock.nanosecond clock.utcOffsetSeconds = .ok clock := by
  rw [newWithNanosecond, dif_pos clock.validNanosecond, dif_pos clock.validOffset]

/-! ## The calendar -/

namespace CivilDate

theorem month_pos (date : CivilDate) : 0 < date.month := by
  have valid := date.valid
  by_contra isZero
  rw [Nat.eq_zero_of_not_pos isZero] at valid
  simp only [daysInMonth] at valid
  omega

theorem daysInMonth_of_gt {year : Int} {month : Nat} (late : 12 < month) :
    daysInMonth year month = 0 := by
  rw [daysInMonth]
  all_goals omega

theorem month_le (date : CivilDate) : date.month ≤ 12 := by
  have valid := date.valid
  by_contra late
  rw [daysInMonth_of_gt (Nat.lt_of_not_le late)] at valid
  omega

theorem daysInMonth_pos (year : Int) {month : Nat} (first : 0 < month) (last : month ≤ 12) :
    0 < daysInMonth year month := by
  interval_cases month <;> simp only [daysInMonth] <;> first | decide | (split <;> decide)

theorem daysInMonth_le (year : Int) (month : Nat) : daysInMonth year month ≤ 31 := by
  unfold daysInMonth
  split
  case h_12 => split <;> omega
  all_goals omega

/-- The next day: in the same month, in the next one, or in the next year. -/
def successor (date : CivilDate) : CivilDate :=
  if inside : date.day < daysInMonth date.year date.month then
    { date with day := date.day + 1, valid := ⟨Nat.succ_pos _, inside⟩ }
  else if early : date.month < 12 then
    { date with
      month := date.month + 1
      day := 1
      valid := ⟨Nat.one_pos, daysInMonth_pos _ (Nat.succ_pos _) early⟩ }
  else
    { year := date.year + 1
      month := 1
      day := 1
      valid := ⟨Nat.one_pos, daysInMonth_pos _ Nat.one_pos (by decide)⟩ }

/-- The number of the day before the first of the month. -/
def monthStart (year : Int) (month : Nat) : Int :=
  let adjustment : Int := (14 - month) / 12
  let shifted : Int := year + 4800 - adjustment
  (153 * (month + 12 * adjustment - 3) + 2) / 5 + 365 * shifted + shifted / 4 - shifted / 100 +
    shifted / 400 - 32045

theorem dayNumber_eq (date : CivilDate) :
    date.dayNumber = monthStart date.year date.month + date.day := by
  simp only [dayNumber, monthStart]
  omega

theorem isLeapYear_iff (year : Int) :
    isLeapYear year = true ↔ year % 4 = 0 ∧ (year % 100 ≠ 0 ∨ year % 400 = 0) := by
  simp [isLeapYear]

/-- Within a year the first of the next month is as many days later as the month has. -/
theorem monthStart_next (year : Int) {month : Nat} (first : 0 < month) (early : month < 12) :
    monthStart year (month + 1) = monthStart year month + daysInMonth year month := by
  by_cases isFebruary : month = 2
  · -- The shifted year starts in March, so the leap day is the last one of the year.
    rw [isFebruary]
    have leap := isLeapYear_iff year
    simp only [monthStart, daysInMonth]
    split
    next isLeap =>
      have divides := leap.mp isLeap
      norm_num
      omega
    next notLeap =>
      have divides := mt leap.mpr notLeap
      norm_num
      omega
  · interval_cases month <;> simp [monthStart, daysInMonth] at isFebruary ⊢ <;> omega

theorem monthStart_nextYear (year : Int) : monthStart (year + 1) 1 = monthStart year 12 + 31 := by
  simp [monthStart]
  omega

theorem dayNumber_successor (date : CivilDate) : date.successor.dayNumber = date.dayNumber + 1 := by
  have first := date.month_pos
  have bound := date.valid.2
  rw [dayNumber_eq, dayNumber_eq, successor]
  split
  next => simp [Int.add_assoc]
  next last =>
    have isLast : date.day = daysInMonth date.year date.month := Nat.le_antisymm bound (Nat.le_of_not_lt last)
    split
    next early =>
      rw [monthStart_next date.year first early, isLast]
      rfl
    next late =>
      have isDecember : date.month = 12 := Nat.le_antisymm date.month_le (Nat.le_of_not_lt late)
      rw [monthStart_nextYear, isLast, isDecember]
      rfl

/-! ### The order of the dates -/

def Before (first second : CivilDate) : Prop :=
  first.year < second.year ∨ first.year = second.year ∧
    (first.month < second.month ∨ first.month = second.month ∧ first.day < second.day)

/-- The months of all years, numbered. -/
def monthIndex (date : CivilDate) : Int := 12 * date.year + (date.month - 1 : Nat)

def indexedStart (index : Int) : Int := monthStart (index / 12) ((index % 12).toNat + 1)

theorem monthIndex_year (date : CivilDate) : date.monthIndex / 12 = date.year := by
  have last := date.month_le
  simp only [monthIndex]
  omega

theorem monthIndex_month (date : CivilDate) : (date.monthIndex % 12).toNat + 1 = date.month := by
  have first := date.month_pos
  have last := date.month_le
  simp only [monthIndex]
  omega

theorem indexedStart_monthIndex (date : CivilDate) :
    indexedStart date.monthIndex = monthStart date.year date.month := by
  rw [indexedStart, date.monthIndex_year, date.monthIndex_month]

/-- The first of the month behind an index is as many days later as that month has. -/
theorem indexedStart_succ (index : Int) :
    indexedStart (index + 1) =
      indexedStart index + daysInMonth (index / 12) ((index % 12).toNat + 1) := by
  by_cases december : index % 12 = 11
  · have isYear : (index + 1) / 12 = index / 12 + 1 := by omega
    have isMonth : (index + 1) % 12 = 0 := by omega
    rw [indexedStart, indexedStart, isYear, isMonth, december]
    exact monthStart_nextYear _
  · have isYear : (index + 1) / 12 = index / 12 := by omega
    have isMonth : ((index + 1) % 12).toNat = (index % 12).toNat + 1 := by omega
    rw [indexedStart, indexedStart, isYear, isMonth]
    exact monthStart_next _ (Nat.succ_pos _) (by omega)

theorem indexedStart_monotone : Monotone indexedStart := by
  apply monotone_int_of_le_succ
  intro index
  rw [indexedStart_succ]
  omega

theorem monthIndex_lt {first second : CivilDate} (before : first.Before second)
    (elsewhere : ¬ (first.year = second.year ∧ first.month = second.month)) :
    first.monthIndex < second.monthIndex := by
  have firstLast := first.month_le
  have firstPos := first.month_pos
  have secondPos := second.month_pos
  simp only [Before] at before
  simp only [monthIndex]
  omega

/-- A later date has a larger number. -/
theorem dayNumber_lt {first second : CivilDate} (before : first.Before second) :
    first.dayNumber < second.dayNumber := by
  rw [dayNumber_eq, dayNumber_eq]
  by_cases sameMonth : first.year = second.year ∧ first.month = second.month
  · have days : first.day < second.day := by
      simp only [Before] at before
      omega
    rw [sameMonth.1, sameMonth.2]
    omega
  · -- The earlier month ends before the later one starts.
    have next : first.monthIndex + 1 ≤ second.monthIndex := monthIndex_lt before sameMonth
    have starts := indexedStart_monotone next
    rw [indexedStart_succ, first.indexedStart_monthIndex, first.monthIndex_year, first.monthIndex_month,
      second.indexedStart_monthIndex] at starts
    have bound := first.valid.2
    have secondPos := second.valid.1
    omega

end CivilDate

/-! ## Clocks -/

def CivilTime.Before (first second : CivilTime) : Prop :=
  first.hour < second.hour ∨ first.hour = second.hour ∧
    (first.minute < second.minute ∨ first.minute = second.minute ∧ first.second < second.second)

theorem CivilTime.seconds_lt {first second : CivilTime} (before : first.Before second) :
    first.seconds < second.seconds := by
  obtain ⟨_, firstMinute, firstSecond⟩ := first.valid
  simp only [Before] at before
  simp only [seconds]
  omega

namespace ClockSnapshot

/-- The same time of the next day. -/
def onNextDay (clock : ClockSnapshot) : ClockSnapshot := { clock with date := clock.date.successor }

def Before (first second : ClockSnapshot) : Prop :=
  first.date.Before second.date ∨ first.date = second.date ∧
    (first.time.Before second.time ∨ first.time = second.time ∧ first.nanosecond < second.nanosecond)

/-- From a day to the next at the same time. -/
theorem utcNanoseconds_onNextDay (clock : ClockSnapshot) :
    clock.onNextDay.utcNanoseconds - clock.utcNanoseconds = 86400000000000 := by
  have next := clock.date.dayNumber_successor
  simp only [utcNanoseconds, onNextDay]
  omega

theorem seconds_lt (time : CivilTime) : time.seconds < 86400 := by
  obtain ⟨hour, minute, second⟩ := time.valid
  simp only [CivilTime.seconds]
  omega

theorem utcNanoseconds_lt {first second : ClockSnapshot}
    (sameOffset : first.utcOffsetSeconds = second.utcOffsetSeconds) (before : first.Before second) :
    first.utcNanoseconds < second.utcNanoseconds := by
  have firstSeconds := seconds_lt first.time
  have firstNanosecond := first.validNanosecond
  simp only [utcNanoseconds, sameOffset]
  obtain earlier | ⟨sameDate, before⟩ := before
  · have days := CivilDate.dayNumber_lt earlier
    omega
  · rw [sameDate]
    obtain earlier | ⟨sameTime, earlier⟩ := before
    · have seconds := CivilTime.seconds_lt earlier
      omega
    · rw [sameTime]
      omega

/-- The first second of 1970 without an offset. -/
def epoch : ClockSnapshot where
  date := { year := 1970, month := 1, day := 1, valid := by decide }
  time := { hour := 0, minute := 0, second := 0, valid := by decide }
  nanosecond := 0
  utcOffsetSeconds := 0
  validNanosecond := ClockSnapshot.validNanosecond_zero
  validOffset := ClockSnapshot.validOffset_zero

/-- From a day to the next the conversion grows by the nanoseconds of a day; at one offset it grows
strictly with the date, the time and the nanosecond; and it starts at the epoch. -/
theorem utcNanoseconds_counts (clock : ClockSnapshot) :
    clock.onNextDay.utcNanoseconds - clock.utcNanoseconds = 86400000000000 ∧
      (∀ later : ClockSnapshot, clock.utcOffsetSeconds = later.utcOffsetSeconds → clock.Before later →
        clock.utcNanoseconds < later.utcNanoseconds) ∧
      epoch.utcNanoseconds = 0 :=
  ⟨clock.utcNanoseconds_onNextDay, fun _ sameOffset before => utcNanoseconds_lt sameOffset before,
    by decide⟩

end ClockSnapshot

end Genkan.DynamicWallpaper
