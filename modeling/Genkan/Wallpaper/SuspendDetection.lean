import Genkan.Wallpaper.HeicWorker

/-! # What the detector of suspensions can tell

The offset between the clocks only grows while the machine sleeps, but every sample of it is off by
as much as the clocks moved while they were read.  The detector keeps the largest sample so far, so
what it stores stays as close to the offset as the samples are, over any number of them.
-/

namespace Genkan.Wallpaper

open DynamicWallpaper

/-- Five milliseconds. -/
def samplingError : Nat := 5000000

/-- A sample with the offset that the clocks really had. -/
structure OffsetReading where
  actual : Nat
  sampled : Nat
  deriving DecidableEq, Repr

namespace OffsetReading

def Close (reading : OffsetReading) : Prop :=
  reading.sampled ≤ reading.actual + samplingError ∧ reading.actual ≤ reading.sampled + samplingError

instance (reading : OffsetReading) : Decidable reading.Close := inferInstanceAs (Decidable (_ ∧ _))

end OffsetReading

/-! ## How a sample is taken -/

/-- The monotonic clock is read on both sides of the other one. -/
structure ClockTriple where
  before : Nat
  boottime : Nat
  after : Nat

/-- What a single attempt of `suspend_clock_offset` makes of its three times, `none` if they lie too
far apart. -/
def ClockTriple.attempt (clocks : ClockTriple) : Option (Option Nat) :=
  let sampling := clocks.after - clocks.before
  if sampling ≤ suspendDetectionThreshold then
    some ((Duration.checkedAdd clocks.before (sampling / 2)).map (clocks.boottime - ·))
  else none

def suspendClockOffset (first second third : ClockTriple) : Option Nat :=
  (((first.attempt).or second.attempt).or third.attempt).join

/-- The clock that counts suspensions was read at a moment between the two other readings, when it
was ahead by `actual`. -/
def ClockTriple.Read (clocks : ClockTriple) (actual : Nat) : Prop :=
  ∃ moment, clocks.before ≤ moment ∧ moment ≤ clocks.after ∧ clocks.boottime = moment + actual

theorem ClockTriple.attempt_close {clocks : ClockTriple} {actual sampled : Nat}
    (read : clocks.Read actual) (sample : clocks.attempt = some (some sampled)) :
    OffsetReading.Close ⟨actual, sampled⟩ := by
  obtain ⟨moment, started, ended, ahead⟩ := read
  simp only [attempt, Option.ite_none_right_eq_some, Option.some.injEq, Option.map_eq_some_iff] at sample
  obtain ⟨short, midpoint, adds, isSample⟩ := sample
  have isMidpoint : midpoint = clocks.before + (clocks.after - clocks.before) / 2 := by
    simp only [Duration.checkedAdd, Option.ite_none_right_eq_some, Option.some.injEq] at adds
    exact adds.2.symm
  simp only [suspendDetectionThreshold] at short
  simp only [OffsetReading.Close, samplingError]
  omega

/-- The samples are as close as the detector needs them, as long as the machine does not sleep while
one is taken. -/
theorem suspendClockOffset_close {first second third : ClockTriple} {actual sampled : Nat}
    (reads : ∀ clocks ∈ [first, second, third], clocks.Read actual)
    (sample : suspendClockOffset first second third = some sampled) :
    OffsetReading.Close ⟨actual, sampled⟩ := by
  simp only [suspendClockOffset, Option.join_eq_some_iff, Option.or_eq_some_iff] at sample
  obtain (taken | ⟨_, taken⟩) | ⟨_, taken⟩ := sample
  · exact ClockTriple.attempt_close (reads first (by simp)) taken
  · exact ClockTriple.attempt_close (reads second (by simp)) taken
  · exact ClockTriple.attempt_close (reads third (by simp)) taken

/-! ## What the detector stores -/

namespace SuspendDetector

/-- The stored sample is close to an offset between the two. -/
def Within (detector : SuspendDetector) (lowest highest : Nat) : Prop :=
  ∃ stored, detector.offset = some stored ∧
    lowest ≤ stored + samplingError ∧ stored ≤ highest + samplingError

def observed (detector : SuspendDetector) (readings : List OffsetReading) : SuspendDetector :=
  readings.foldl (fun detector reading => (detector.observe reading.sampled).1) detector

theorem observe_none (offset : Nat) :
    observe ⟨none⟩ offset = (⟨some offset⟩, false) := rfl

theorem observe_some (previous offset : Nat) :
    observe ⟨some previous⟩ offset =
      (⟨some (max previous offset)⟩, decide (suspendDetectionThreshold < offset - previous)) := by
  by_cases lower : offset ≤ previous
  · simp [observe, lower]
  · simp [observe, lower, Nat.max_eq_right (Nat.le_of_not_le lower)]

theorem observe_within {detector : SuspendDetector} {lowest highest : Nat} {reading : OffsetReading}
    (within : detector.Within lowest highest) (close : reading.Close) (rising : highest ≤ reading.actual) :
    (detector.observe reading.sampled).1.Within lowest reading.actual := by
  obtain ⟨stored, isStored, above, below⟩ := within
  obtain ⟨offset⟩ := detector
  cases isStored
  rw [observe_some]
  obtain ⟨under, _⟩ := close
  exact ⟨max stored reading.sampled, rfl, by omega, by omega⟩

/-- Over a run of samples the store follows the offset from the first one on: the induction carries
the offset of the last sample as the upper end. -/
theorem observed_within {detector : SuspendDetector} {first last : OffsetReading}
    {readings : List OffsetReading} (within : detector.Within first.actual last.actual)
    (close : ∀ reading ∈ readings, reading.Close)
    (rising : (last :: readings).Pairwise (·.actual ≤ ·.actual)) :
    (detector.observed readings).Within first.actual ((last :: readings).getLast (by simp)).actual := by
  induction readings generalizing detector last with
  | nil => exact within
  | cons reading readings inductionHypothesis =>
    have ordered := List.pairwise_cons.mp rising
    have next := observe_within within (close reading (by simp)) (ordered.1 reading (by simp))
    rw [List.getLast_cons (by simp)]
    apply inductionHypothesis next _ ordered.2
    intro later member
    exact close later (List.mem_cons_of_mem _ member)

/-- With nothing stored the first sample is stored and reports nothing, so a detector that was built
without an offset is the one that was built with its first sample. -/
theorem observed_none (first : OffsetReading) (readings : List OffsetReading) :
    observed ⟨none⟩ (first :: readings) = observed ⟨some first.sampled⟩ readings := rfl

theorem close_within {first : OffsetReading} (close : first.Close) :
    Within ⟨some first.sampled⟩ first.actual first.actual :=
  ⟨first.sampled, rfl, close.2, close.1⟩

/-! ## What the detector reports -/

theorem observe_of_unchanged {detector : SuspendDetector} {lowest highest : Nat}
    {reading : OffsetReading} (within : detector.Within lowest highest) (close : reading.Close)
    (unchanged : reading.actual ≤ lowest) : (detector.observe reading.sampled).2 = false := by
  obtain ⟨stored, isStored, above, _⟩ := within
  obtain ⟨offset⟩ := detector
  cases isStored
  obtain ⟨under, _⟩ := close
  rw [observe_some, decide_eq_false_iff_not]
  simp only [samplingError] at above under
  simp only [suspendDetectionThreshold]
  omega

theorem observe_of_jump {detector : SuspendDetector} {lowest highest : Nat}
    {reading : OffsetReading} (within : detector.Within lowest highest) (close : reading.Close)
    (jump : highest + 20000000 < reading.actual) : (detector.observe reading.sampled).2 = true := by
  obtain ⟨stored, isStored, _, below⟩ := within
  obtain ⟨offset⟩ := detector
  cases isStored
  obtain ⟨_, near⟩ := close
  rw [observe_some, decide_eq_true_eq]
  simp only [samplingError] at below near
  simp only [suspendDetectionThreshold]
  omega

/-- `built` is the reading that the detector is built with, if there is one. -/
theorem suspend_detection (built : Option OffsetReading) (earlier : List OffsetReading)
    (current : OffsetReading)
    (close : ∀ reading ∈ built.toList ++ earlier ++ [current], reading.Close)
    (rising : (built.toList ++ earlier ++ [current]).Pairwise (·.actual ≤ ·.actual)) :
    let reported := ((observed ⟨built.map (·.sampled)⟩ earlier).observe current.sampled).2
    ((∀ first ∈ (built.toList ++ earlier ++ [current]).head?, current.actual = first.actual) →
        reported = false) ∧
      ∀ previous ∈ (built.toList ++ earlier).getLast?,
        previous.actual + 20000000 < current.actual → reported = true := by
  have begun : observed ⟨built.map (·.sampled)⟩ earlier = observed ⟨none⟩ (built.toList ++ earlier) := by
    cases built with
    | none => rfl
    | some first => exact (observed_none first earlier).symm
  rw [begun]
  clear begun
  generalize built.toList ++ earlier = readings at close rising ⊢
  cases readings with
  | nil => simp [observed, observe_none]
  | cons first readings =>
    rw [List.cons_append] at close rising
    have closeEarlier : ∀ reading ∈ readings, reading.Close := by
      intro reading member
      exact close reading (by simp [member])
    have risingEarlier : (first :: readings).Pairwise (·.actual ≤ ·.actual) :=
      rising.sublist ((List.sublist_append_left readings [current]).cons_cons first)
    have within := observed_within (close_within (close first (by simp))) closeEarlier risingEarlier
    have closeCurrent := close current (by simp)
    rw [observed_none]
    constructor
    · intro unchanged
      exact observe_of_unchanged within closeCurrent (unchanged first (by simp)).le
    · intro previous isLast jump
      rw [List.getLast?_eq_some_getLast (by simp), Option.mem_some_iff] at isLast
      exact observe_of_jump within closeCurrent (by rw [isLast]; exact jump)

/-- Four milliseconds too much, five too little, and 21 milliseconds of sleep. -/
theorem suspend_detection_sample :
    ((observed ⟨some 9000000⟩ [⟨5000000, 0⟩]).observe 21000000).2 = true := by
  have detected := suspend_detection (some ⟨5000000, 9000000⟩) [⟨5000000, 0⟩] ⟨26000000, 21000000⟩
    (by decide) (by decide)
  exact detected.2 ⟨5000000, 0⟩ rfl (by decide)

end SuspendDetector

end Genkan.Wallpaper
