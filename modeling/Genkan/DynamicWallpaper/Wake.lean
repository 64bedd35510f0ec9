import Genkan.DynamicWallpaper.Structure

/-! # How a wake moves as time passes

A wake is a delay from a moment, and the deadline it stands for stays where it is while civil time
and monotonic time advance together: a boundary comes nearer by exactly the time that passed.
-/

namespace Genkan.DynamicWallpaper

/-! ## Civil time -/

theorem day_eq : day = 86400000000000 := by decide

namespace ClockSnapshot

/-- Nanoseconds of local civil time. -/
def civilNanoseconds (clock : ClockSnapshot) : Int :=
  clock.utcNanoseconds + clock.utcOffsetSeconds * 1000000000

theorem timeOfDay_eq (clock : ClockSnapshot) : (clock.timeOfDay : Int) = clock.civilNanoseconds % day := by
  have within := clock.timeOfDay_lt
  have splits : clock.civilNanoseconds = (clock.date.dayNumber - 2440588) * day + clock.timeOfDay := by
    simp only [civilNanoseconds, utcNanoseconds, timeOfDay, secondsOfDay, day, Duration.fromSecs,
      Duration.nanosecondsPerSecond, secondsPerDay]
    push_cast
    ring
  rw [day_eq] at within splits ⊢
  omega

end ClockSnapshot

/-! ## Boundaries -/

namespace Playback

/-- A boundary that is not reached yet comes nearer by the time that passes. -/
theorem untilBoundary_advanced {earlier later : ClockSnapshot} {elapsed : Nat}
    (advanced : later.civilNanoseconds = earlier.civilNanoseconds + elapsed) {point : TimePoint}
    (ahead : elapsed < untilBoundary earlier point) :
    untilBoundary later point = untilBoundary earlier point - elapsed := by
  have within := earlier.timeOfDay_lt
  have laterWithin := later.timeOfDay_lt
  have isEarlier := earlier.timeOfDay_eq
  have isLater := later.timeOfDay_eq
  have boundary : Duration.fromSecs (effectiveBoundarySecond point.time) ≤ day :=
    Nat.mul_le_mul_right _ (effectiveBoundarySecond_le point.time)
  rw [advanced, ← Int.emod_add_emod, ← isEarlier] at isLater
  rw [day_eq] at within laterWithin isLater boundary
  simp only [untilBoundary, day_eq] at ahead ⊢
  split at ahead
  next before =>
    have sameDay : later.timeOfDay = earlier.timeOfDay + elapsed := by omega
    rw [sameDay]
    split <;> omega
  next after =>
    by_cases sameDay : earlier.timeOfDay + elapsed < 86400000000000
    · have isLater : later.timeOfDay = earlier.timeOfDay + elapsed := by omega
      rw [isLater]
      split <;> omega
    · have isLater : later.timeOfDay = earlier.timeOfDay + elapsed - 86400000000000 := by omega
      rw [isLater]
      split <;> omega

/-! ## The earliest of the delays -/

theorem le_foldl_min {delays : List Nat} {bound start : Nat} :
    bound ≤ delays.foldl min start ↔ bound ≤ start ∧ ∀ delay ∈ delays, bound ≤ delay := by
  induction delays generalizing start with
  | nil => simp
  | cons delay delays inductionHypothesis =>
    simp only [List.foldl_cons, inductionHypothesis, Nat.le_min, List.forall_mem_cons, and_assoc]

/-- A wake is as late as its earliest reason lets it be. -/
theorem le_wake {playback : Playback} {clock : ClockSnapshot} {monotonic delay : Nat}
    (wakes : playback.nextWake clock monotonic = some delay) (bound : Nat) :
    bound ≤ delay ↔ bound ≤ resynchronizeAfter ∧
      (∀ boundary, playback.nextBoundary clock = some boundary → bound ≤ boundary) ∧
      ∀ retry, playback.nextRetry monotonic = some retry → bound ≤ retry := by
  simp only [nextWake] at wakes
  split at wakes
  next => cases wakes
  next =>
    rw [← Option.some.inj wakes, le_foldl_min]
    simp [or_imp, forall_and]

theorem nextWake_isSome_iff {playback : Playback} {clock : ClockSnapshot} {monotonic : Nat} :
    (playback.nextWake clock monotonic).isSome = true ↔
      (playback.nextBoundary clock).isSome = true ∨ (playback.nextRetry monotonic).isSome = true := by
  simp only [nextWake]
  split
  next asleep => simpa using asleep
  next awake => simpa [Decidable.imp_iff_not_or, ← Option.isSome_iff_ne_none, or_comm] using awake

theorem nextWake_le {playback : Playback} {clock : ClockSnapshot} {monotonic delay : Nat}
    (wakes : playback.nextWake clock monotonic = some delay) : delay ≤ resynchronizeAfter :=
  ((le_wake wakes delay).mp (Nat.le_refl _)).1

theorem nextBoundary_isSome_iff {playback : Playback} {clock : ClockSnapshot} :
    (playback.nextBoundary clock).isSome = true ↔ ∃ points, playback.mode = .time points := by
  simp only [nextBoundary]
  split
  next points isTime =>
    have delays : points.points.map (untilBoundary clock) ≠ [] := by simp [points.nonempty]
    simpa [isTime] using List.isSome_min?_of_ne_nil delays
  next isStatic => simp [isStatic]

theorem le_nextBoundary {playback : Playback} {clock : ClockSnapshot} {points : TimePoints}
    (isTime : playback.mode = .time points) (bound : Nat) :
    (∀ boundary, playback.nextBoundary clock = some boundary → bound ≤ boundary) ↔
      ∀ point ∈ points.points, bound ≤ untilBoundary clock point := by
  obtain ⟨boundary, isBoundary⟩ := Option.isSome_iff_exists.mp
    (nextBoundary_isSome_iff.mpr ⟨points, isTime⟩ : (playback.nextBoundary clock).isSome = true)
  have earliest := isBoundary
  simp only [nextBoundary, isTime] at earliest
  simp [isBoundary, List.le_min?_iff earliest]

theorem nextRetry_planned {playback : Playback} {monotonic retry : Nat}
    (retries : playback.nextRetry monotonic = some retry) :
    ∃ planned, retry = planned - monotonic ∧ ∀ other, playback.nextRetry other = some (planned - other) := by
  simp only [nextRetry] at retries ⊢
  split at retries
  next waits =>
    obtain ⟨planned, isPlanned, isRetry⟩ := Option.map_eq_some_iff.mp retries
    refine ⟨planned, isRetry.symm, ?_⟩
    intro other
    rw [if_pos waits, isPlanned]
    rfl
  next => cases retries

/-- Whether there is anything to wake up for does not depend on the time. -/
theorem nextWake_isSome_stays {playback : Playback} {earlier later : ClockSnapshot}
    {before after : Nat} (wakes : (playback.nextWake later after).isSome = true) :
    (playback.nextWake earlier before).isSome = true := by
  rw [nextWake_isSome_iff] at wakes ⊢
  cases wakes with
  | inl boundary => exact .inl (nextBoundary_isSome_iff.mpr (nextBoundary_isSome_iff.mp boundary))
  | inr retry =>
    obtain ⟨_, isRetry⟩ := Option.isSome_iff_exists.mp retry
    obtain ⟨_, _, planned⟩ := nextRetry_planned isRetry
    exact .inr (by simp [planned before])

/-- With fewer reasons to wake up there is a wake no earlier than before, or none. -/
theorem wake_of_fewer_reasons {playback next : Playback} (mode : next.mode = playback.mode)
    {clock : ClockSnapshot} {monotonic delay : Nat}
    (retries : ∀ retry, next.nextRetry monotonic = some retry →
      playback.nextRetry monotonic = some retry)
    (wakes : next.nextWake clock monotonic = some delay) :
    ∃ earlier, playback.nextWake clock monotonic = some earlier ∧ earlier ≤ delay := by
  have boundary : next.nextBoundary clock = playback.nextBoundary clock := by
    simp only [nextBoundary, mode]
  have awake : (playback.nextWake clock monotonic).isSome = true := by
    have nextAwake : (next.nextWake clock monotonic).isSome = true := by rw [wakes]; rfl
    rw [nextWake_isSome_iff, boundary] at nextAwake
    rw [nextWake_isSome_iff]
    refine nextAwake.imp_right ?_
    intro retry
    obtain ⟨_, isRetry⟩ := Option.isSome_iff_exists.mp retry
    rw [retries _ isRetry]
    rfl
  obtain ⟨earlier, isEarlier⟩ := Option.isSome_iff_exists.mp awake
  obtain ⟨cadence, boundaries, planned⟩ := (le_wake isEarlier earlier).mp (Nat.le_refl _)
  refine ⟨earlier, isEarlier, (le_wake wakes earlier).mpr ⟨cadence, ?_, ?_⟩⟩
  · rw [boundary]
    exact boundaries
  · intro retry isRetry
    exact planned retry (retries retry isRetry)

/-- A deadline that covered the wake of an earlier moment, and is not due yet, covers the wake of
this moment too. -/
theorem deadline_stays {playback : Playback} {earlier later : ClockSnapshot}
    {before after deadline : Nat} {earlierDelay laterDelay : Nat}
    (wakes : playback.nextWake earlier before = some earlierDelay)
    (covers : deadline ≤ before + earlierDelay) (ahead : after < deadline) (order : before ≤ after)
    (advanced : later.civilNanoseconds = earlier.civilNanoseconds + (after - before : Nat))
    (wakesLater : playback.nextWake later after = some laterDelay) :
    deadline ≤ after + laterDelay := by
  have limits := (le_wake wakes earlierDelay).mp (Nat.le_refl _)
  obtain ⟨cadence, boundaries, retries⟩ := limits
  have remains : deadline - after ≤ laterDelay := by
    rw [le_wake wakesLater]
    refine ⟨by omega, ?_, ?_⟩
    · intro boundary isBoundary
      obtain ⟨points, isTime⟩ := nextBoundary_isSome_iff.mp (by rw [isBoundary]; rfl)
      revert isBoundary
      revert boundary
      rw [le_nextBoundary isTime]
      intro point member
      have bounded := (le_nextBoundary isTime _).mp boundaries point member
      rw [untilBoundary_advanced advanced (by omega)]
      omega
    · intro retry isRetry
      obtain ⟨planned, isDifference, before_planned⟩ := nextRetry_planned isRetry
      have bounded := retries _ (before_planned before)
      omega
  omega

end Playback

end Genkan.DynamicWallpaper
