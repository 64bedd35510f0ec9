import Genkan.DynamicWallpaper.Wake

/-! # The delay after a synchronization

Asked for its next wake at the time of a synchronization, a playback never answers at once: a retry
that is due has been queued by then.  The arithmetic of the answer is repeated with the operations on
durations that panic.
-/

namespace Genkan.DynamicWallpaper

/-- The functions that bring a playback to the current time. -/
inductive Synchronization where
  | synchronize
  | resynchronizeAfterDiscontinuity
  | setSolarSchedule (points : TimePoints)

namespace Playback

def synchronized (playback : Playback) (counter : UInt64) (clock : ClockSnapshot) (monotonic : Nat) :
    Synchronization → Playback × UInt64 × SynchronizeOutcome
  | .synchronize => playback.synchronize counter clock monotonic
  | .resynchronizeAfterDiscontinuity => playback.resynchronizeAfterDiscontinuity counter clock monotonic
  | .setSolarSchedule points => playback.setSolarSchedule counter points clock monotonic

/-! ## Arithmetic that can panic -/

/-- `untilBoundary`, unless an operation on durations panics. -/
def checkedUntilBoundary (clock : ClockSnapshot) (point : TimePoint) : Option Nat :=
  let now := clock.timeOfDay
  let boundary := Duration.fromSecs (effectiveBoundarySecond point.time)
  if now < boundary then Duration.checkedSub boundary now
  else (Duration.checkedSub day now).bind fun remaining => Duration.checkedAdd remaining boundary

def checkedNextBoundary (playback : Playback) (clock : ClockSnapshot) : Option (Option Nat) :=
  match playback.mode with
  | .time points => (points.points.mapM (checkedUntilBoundary clock)).map List.min?
  | .static => some none

/-- `nextWake`, unless an operation on durations panics. -/
def checkedNextWake (playback : Playback) (clock : ClockSnapshot) (monotonic : Nat) :
    Option (Option Nat) :=
  (playback.checkedNextBoundary clock).map fun boundary =>
    let retry := playback.nextRetry monotonic
    if boundary.isNone && retry.isNone then none
    else some ((boundary.toList ++ retry.toList).foldl min resynchronizeAfter)

theorem checkedUntilBoundary_eq (clock : ClockSnapshot) (point : TimePoint) :
    checkedUntilBoundary clock point = some (untilBoundary clock point) := by
  have within := clock.timeOfDay_lt
  have boundary : Duration.fromSecs (effectiveBoundarySecond point.time) ≤ day :=
    Nat.mul_le_mul_right _ (effectiveBoundarySecond_le point.time)
  have room : day + day < Duration.limit := by decide
  simp only [checkedUntilBoundary, untilBoundary, Duration.checkedSub]
  split
  next before => rw [if_pos (Nat.le_of_lt before)]
  next =>
    rw [if_pos (Nat.le_of_lt within), Option.bind_some]
    exact Duration.checkedAdd_of_lt (by omega)

theorem checkedNextWake_eq (playback : Playback) (clock : ClockSnapshot) (monotonic : Nat) :
    playback.checkedNextWake clock monotonic = some (playback.nextWake clock monotonic) := by
  have boundary : playback.checkedNextBoundary clock = some (playback.nextBoundary clock) := by
    cases mode : playback.mode with
    | static => simp only [checkedNextBoundary, nextBoundary, mode]
    | time points =>
      have checked : checkedUntilBoundary clock = fun point => pure (untilBoundary clock point) :=
        funext (checkedUntilBoundary_eq clock)
      simp only [checkedNextBoundary, nextBoundary, mode, checked, List.mapM_pure]
      rfl
  rw [checkedNextWake, boundary]
  rfl

/-! ## What remains to be waited for -/

theorem untilBoundary_positive (clock : ClockSnapshot) (point : TimePoint) :
    0 < untilBoundary clock point := by
  have within := clock.timeOfDay_lt
  simp only [untilBoundary]
  split <;> omega

/-- A retry that is planned is not due, or something else will present the selected image. -/
def Waits (playback : Playback) (monotonic : Nat) : Prop :=
  playback.pending = none → playback.transition = none →
    playback.presentedImage ≠ some playback.selected → playback.retryDue monotonic = false

theorem Waits.positive {playback : Playback} {monotonic retry : Nat} (waits : playback.Waits monotonic)
    (retries : playback.nextRetry monotonic = some retry) : 0 < retry := by
  simp only [nextRetry] at retries
  split at retries
  next stranded =>
    simp only [Bool.and_eq_true, Option.isNone_iff_eq_none, bne_iff_ne] at stranded
    have later := waits stranded.1.1 stranded.1.2 stranded.2
    obtain ⟨deadline, isDeadline, isRetry⟩ := Option.map_eq_some_iff.mp retries
    simp only [retryDue, isDeadline, Option.all_some, decide_eq_false_iff_not, Nat.not_le] at later
    omega
  next => contradiction

theorem waits_of_pending {playback : Playback} {pending : PendingDecode} {monotonic : Nat}
    (isPending : playback.pending = some pending) : playback.Waits monotonic := by
  intro idle
  rw [isPending] at idle
  contradiction

/-- After a discontinuity either a decode is queued or its deadline has not come. -/
theorem recover_waits (playback : Playback) (counter : UInt64) (monotonic : Nat) :
    (playback.recover counter playback.selected monotonic).1.Waits monotonic := by
  have selected := settle_selected playback
  simp only [recover]
  split
  next => exact waits_of_pending rfl
  next =>
    split
    next => exact waits_of_pending rfl
    next stays =>
      intro idle _ elsewhere
      rw [selected] at elsewhere
      have isIdle : playback.settle.1.pending.isNone = true := Option.isNone_iff_eq_none.mpr idle
      simpa only [isIdle, bne_iff_ne.mpr elsewhere, Bool.true_and, Bool.not_eq_true] using stays

theorem retry_waits (playback : Playback) (counter : UInt64) (clock : ClockSnapshot) (monotonic : Nat) :
    (playback.retry counter playback.selected clock monotonic).1.Waits monotonic := by
  simp only [retry]
  split
  next => exact waits_of_pending rfl
  next stays =>
    intro idle settled elsewhere
    have isIdle : playback.pending.isNone = true := Option.isNone_iff_eq_none.mpr idle
    have isSettled : playback.transition.isNone = true := Option.isNone_iff_eq_none.mpr settled
    simpa only [isIdle, isSettled, bne_iff_ne.mpr elsewhere, Bool.true_and, Bool.not_eq_true] using stays

theorem synchronizeInner_waits (playback : Playback) (counter : UInt64) (clock : ClockSnapshot)
    (monotonic : Nat) (forceDiscontinuity : Bool) :
    (playback.synchronizeInner counter clock monotonic forceDiscontinuity).1.Waits monotonic := by
  have unclocked : ∀ next : Playback, next.Waits monotonic →
      Waits { next with lastClock := clock, lastMonotonic := monotonic } monotonic := fun _ waits => waits
  simp only [synchronizeInner]
  refine unclocked _ ?_
  split
  next => exact waits_of_pending rfl
  next unchanged =>
    have same : playback.selection clock = playback.selected := by simpa using unchanged
    rw [same]
    split
    next => exact recover_waits playback counter monotonic
    next => exact retry_waits playback counter clock monotonic

theorem synchronized_waits (playback : Playback) (counter : UInt64) (clock : ClockSnapshot)
    (monotonic : Nat) (synchronization : Synchronization) :
    (playback.synchronized counter clock monotonic synchronization).1.Waits monotonic := by
  cases synchronization with
  | synchronize => exact synchronizeInner_waits playback counter clock monotonic false
  | resynchronizeAfterDiscontinuity => exact synchronizeInner_waits playback counter clock monotonic true
  | setSolarSchedule points => exact synchronizeInner_waits _ counter clock monotonic false

theorem Waits.wake_positive {playback : Playback} {clock : ClockSnapshot} {monotonic delay : Nat}
    (waits : playback.Waits monotonic) (wakes : playback.nextWake clock monotonic = some delay) :
    0 < delay := by
  refine (le_wake wakes 1).mpr ⟨by decide, ?_, fun retry retries => waits.positive retries⟩
  intro boundary isBoundary
  obtain ⟨points, isTime⟩ := nextBoundary_isSome_iff.mp (by rw [isBoundary]; rfl)
  exact (le_nextBoundary isTime 1).mpr (fun point _ => untilBoundary_positive clock point) boundary isBoundary

/-- After a synchronization the next wake at the same time is at least a nanosecond and at most a minute
away, if there is one, and no subtraction of its computation underflows.  This needs nothing of the
playback. -/
theorem wake_after_synchronization (playback : Playback) (counter : UInt64) (clock : ClockSnapshot)
    (monotonic : Nat) (synchronization : Synchronization) :
    let next := (playback.synchronized counter clock monotonic synchronization).1
    next.checkedNextWake clock monotonic = some (next.nextWake clock monotonic) ∧
      (next.nextWake clock monotonic = none ∨
        ∃ delay, next.nextWake clock monotonic = some delay ∧ 0 < delay ∧ delay ≤ Duration.fromSecs 60) := by
  intro next
  refine ⟨checkedNextWake_eq next clock monotonic, ?_⟩
  cases wakes : next.nextWake clock monotonic with
  | none => exact .inl rfl
  | some delay =>
    have waits := playback.synchronized_waits counter clock monotonic synchronization
    exact .inr ⟨delay, rfl, waits.wake_positive wakes, nextWake_le wakes⟩

end Playback

end Genkan.DynamicWallpaper
