import Genkan.DesktopWallpaper.Scheduler

/-! # The scheduler never sleeps past a wake

`Cadenced` bounds the deadline of a time schedule by a minute, and `Covers` by the wake of the
playback.  Where the deadline is not computed again, the second one needs the time to advance evenly
(`Playback.deadline_stays`), the first one only needs it not to go back.
-/

namespace Genkan.DynamicWallpaper.Playback

/-! ## What the calls leave as it is -/

theorem synchronizeInner_mode (playback : Playback) (counter : UInt64) (clock : ClockSnapshot)
    (monotonic : Nat) (forceDiscontinuity : Bool) :
    (playback.synchronizeInner counter clock monotonic forceDiscontinuity).1.mode = playback.mode := by
  simp only [synchronizeInner]
  split
  next =>
    simp only [reselect]
    split <;> rfl
  next =>
    split
    next =>
      have settles : playback.settle.1.mode = playback.mode := by
        simp only [settle]
        split <;> rfl
      simp only [recover]
      split
      next => exact settles
      next => split <;> exact settles
    next =>
      simp only [retry]
      split <;> rfl

theorem synchronizeInner_lastMonotonic (playback : Playback) (counter : UInt64)
    (clock : ClockSnapshot) (monotonic : Nat) (forceDiscontinuity : Bool) :
    (playback.synchronizeInner counter clock monotonic forceDiscontinuity).1.lastMonotonic = monotonic :=
  rfl

/-- A synchronization that notices nothing only ever takes a retry up. -/
theorem synchronizeInner_nextRetry {playback : Playback} {counter : UInt64} {clock : ClockSnapshot}
    {monotonic : Nat} {forceDiscontinuity : Bool}
    (unchanged : (playback.synchronizeInner counter clock monotonic
      forceDiscontinuity).2.2.selectionChanged = false)
    (continuous : (playback.synchronizeInner counter clock monotonic
      forceDiscontinuity).2.2.discontinuity = false) (now retry : Nat)
    (retries : (playback.synchronizeInner counter clock monotonic
      forceDiscontinuity).1.nextRetry now = some retry) :
    playback.nextRetry now = some retry := by
  simp only [synchronizeInner] at unchanged continuous retries
  simp only [unchanged, continuous, Bool.false_eq_true, if_false] at retries
  simp only [Playback.retry] at retries
  split at retries
  next => simp [nextRetry, queueDecode] at retries
  next => exact retries

theorem takeDecodeRequest_nextRetry (playback : Playback) (now retry : Nat)
    (retries : playback.takeDecodeRequest.1.nextRetry now = some retry) :
    playback.nextRetry now = some retry := by
  simp only [takeDecodeRequest] at retries
  split at retries
  next => exact retries
  next =>
    split at retries
    next => exact retries
    next => simp [nextRetry] at retries

theorem settle_nextRetry {playback : Playback} (structured : playback.Structured) (now retry : Nat)
    (retries : playback.settle.1.nextRetry now = some retry) :
    playback.nextRetry now = some retry := by
  simp only [settle] at retries
  split at retries
  next transition isTransition =>
    simp [nextRetry, structured.target transition isTransition] at retries
  next => exact retries

theorem advanceTransition_nextRetry {playback : Playback} (structured : playback.Structured)
    (monotonic now retry : Nat)
    (retries : (playback.advanceTransition monotonic).1.nextRetry now = some retry) :
    playback.nextRetry now = some retry := by
  simp only [advanceTransition] at retries
  split at retries
  next => exact retries
  next transition isTransition =>
    split at retries
    next => exact settle_nextRetry structured now retry retries
    next => simp [nextRetry] at retries

/-- Neither the schedule nor the moment of the last synchronization differs. -/
def SameClock (playback next : Playback) : Prop :=
  next.mode = playback.mode ∧ next.lastMonotonic = playback.lastMonotonic

theorem takeDecodeRequest_sameClock (playback : Playback) :
    playback.SameClock playback.takeDecodeRequest.1 := by
  simp only [takeDecodeRequest]
  split
  next => exact ⟨rfl, rfl⟩
  next => split <;> exact ⟨rfl, rfl⟩

theorem settle_sameClock (playback : Playback) : playback.SameClock playback.settle.1 := by
  simp only [settle]
  split <;> exact ⟨rfl, rfl⟩

theorem advanceTransition_sameClock (playback : Playback) (monotonic : Nat) :
    playback.SameClock (playback.advanceTransition monotonic).1 := by
  simp only [advanceTransition]
  split
  next => exact ⟨rfl, rfl⟩
  next =>
    split
    next => exact settle_sameClock playback
    next => exact ⟨rfl, rfl⟩

theorem adopt_sameClock (playback : Playback) (pending : PendingDecode) (frame : RgbaFrame)
    (monotonic maxBlendBytes : Nat) (storage : Option Nat) :
    playback.SameClock (playback.adopt pending frame monotonic maxBlendBytes storage).1 := by
  simp only [adopt]
  split
  next =>
    split
    next => exact ⟨rfl, rfl⟩
    next =>
      split
      next => exact ⟨rfl, rfl⟩
      next => exact advanceTransition_sameClock _ monotonic
  next => exact ⟨rfl, rfl⟩

theorem queuePrimaryFallback_sameClock (playback : Playback) (failedImage : ImageReference)
    (counter : UInt64) :
    playback.SameClock (playback.queuePrimaryFallback failedImage counter).1 := by
  simp only [queuePrimaryFallback]
  split <;> exact ⟨rfl, rfl⟩

theorem fail_sameClock (playback : Playback) (counter : UInt64) (image : ImageReference)
    (monotonic : Nat) : playback.SameClock (playback.fail counter image monotonic).1 := by
  rw [fail]
  obtain ⟨mode, lastMonotonic⟩ := queuePrimaryFallback_sameClock
    { playback with retryNotBefore := Duration.checkedAdd monotonic resynchronizeAfter } image counter
  exact ⟨mode, lastMonotonic⟩

theorem completeDecode_sameClock (playback : Playback) (counter : UInt64) (request : DecodeRequest)
    (result : Option RgbaFrame) (monotonic : Nat) (storage : Option Nat) :
    playback.SameClock (playback.completeDecode counter request result monotonic storage).1 := by
  simp only [completeDecode, completeDecodeWithLimit]
  split
  next => exact ⟨rfl, rfl⟩
  next pending isPending =>
    split
    next => exact ⟨rfl, rfl⟩
    next =>
      split
      next => exact fail_sameClock { playback with pending := none } counter request.image monotonic
      next frame =>
        split
        next => exact fail_sameClock { playback with pending := none } counter request.image monotonic
        next =>
          split
          next =>
            exact adopt_sameClock { playback with pending := none, retryNotBefore := none } pending frame
              monotonic maxFrameBytes storage
          next =>
            exact adopt_sameClock { playback with pending := none } pending frame monotonic maxFrameBytes
              storage

end Genkan.DynamicWallpaper.Playback

namespace Genkan.DesktopWallpaper

open Foundations DynamicWallpaper

/-- Adding a minute does not overflow. -/
def Room (monotonic : Nat) : Prop := monotonic + resynchronizeAfter < Duration.limit

theorem playbackDeadline_of_wake {playback : Playback} {clock : ClockSnapshot} {monotonic delay : Nat}
    (room : Room monotonic) (wakes : playback.nextWake clock monotonic = some delay) :
    playbackDeadline playback clock monotonic = some (monotonic + delay) := by
  have cadence := Playback.nextWake_le wakes
  rw [playbackDeadline, wakes, Option.bind_some]
  exact Duration.checkedAdd_of_lt (Nat.lt_of_le_of_lt (Nat.add_le_add_left cadence _) room)

theorem earlierDeadline_some (left : Option Nat) (right : Nat) :
    ∃ deadline, earlierDeadline left (some right) = some deadline ∧ deadline ≤ right ∧
      ∀ other, left = some other → deadline ≤ other := by
  cases left with
  | none => exact ⟨right, rfl, Nat.le_refl _, by simp⟩
  | some other =>
    refine ⟨min other right, rfl, Nat.min_le_right _ _, ?_⟩
    intro same isSame
    cases isSame
    exact Nat.min_le_left _ _

namespace Scheduler

/-! ## The two bounds -/

/-- With a time schedule the deadline is at most a minute away. -/
def Cadenced (scheduler : Scheduler) (monotonic : Nat) : Prop :=
  ∀ points, scheduler.playback.mode = .time points → ∃ deadline,
    scheduler.nextSynchronize = some deadline ∧ deadline ≤ monotonic + resynchronizeAfter ∧
    deadline ≤ scheduler.playback.lastMonotonic + resynchronizeAfter

/-- The deadline is no later than the wake of the playback. -/
def Covers (scheduler : Scheduler) (clock : ClockSnapshot) (monotonic : Nat) : Prop :=
  ∀ delay, scheduler.playback.nextWake clock monotonic = some delay → ∃ deadline,
    scheduler.nextSynchronize = some deadline ∧ deadline ≤ monotonic + delay

theorem wake_of_time {playback : Playback} {points : TimePoints} (isTime : playback.mode = .time points)
    (clock : ClockSnapshot) (monotonic : Nat) :
    ∃ delay, playback.nextWake clock monotonic = some delay ∧ delay ≤ resynchronizeAfter := by
  have awake : (playback.nextWake clock monotonic).isSome = true :=
    Playback.nextWake_isSome_iff.mpr (.inl (Playback.nextBoundary_isSome_iff.mpr ⟨points, isTime⟩))
  obtain ⟨delay, wakes⟩ := Option.isSome_iff_exists.mp awake
  exact ⟨delay, wakes, Playback.nextWake_le wakes⟩

theorem new_cadenced {playback : Playback} {clock : ClockSnapshot} {monotonic : Nat}
    (room : Room monotonic) (processed : playback.lastMonotonic = monotonic) :
    (new playback clock monotonic).Cadenced monotonic := by
  intro points isTime
  obtain ⟨delay, wakes, cadence⟩ := wake_of_time isTime clock monotonic
  refine ⟨monotonic + delay, playbackDeadline_of_wake room wakes, Nat.add_le_add_left cadence _, ?_⟩
  rw [show (new playback clock monotonic).playback.lastMonotonic = monotonic from processed]
  exact Nat.add_le_add_left cadence _

theorem new_covers {playback : Playback} {clock : ClockSnapshot} {monotonic : Nat}
    (room : Room monotonic) : (new playback clock monotonic).Covers clock monotonic :=
  fun delay wakes => ⟨monotonic + delay, playbackDeadline_of_wake room wakes, Nat.le_refl _⟩

/-! ## Synchronizing -/

theorem synchronizeNow_eq (scheduler : Scheduler) (counter : UInt64) (clock : ClockSnapshot)
    (monotonic : Nat) (discontinuity : Bool) :
    (scheduler.synchronizeNow counter clock monotonic discontinuity).1 =
      let synchronized := scheduler.playback.synchronizeInner counter clock monotonic discontinuity
      if (scheduler.nextSynchronize.any fun deadline => deadline ≤ monotonic) || discontinuity ||
          synchronized.2.2.selectionChanged || synchronized.2.2.discontinuity then
        new synchronized.1 clock monotonic
      else { playback := synchronized.1, nextSynchronize := scheduler.nextSynchronize } := by
  cases discontinuity with
  | false =>
    simp only [synchronizeNow, Playback.synchronize, Bool.false_eq_true, if_false, new]
    split <;> rfl
  | true => simp [synchronizeNow, Playback.resynchronizeAfterDiscontinuity, new]

theorem Cadenced.synchronizeNow {scheduler : Scheduler} {before : Nat}
    (cadenced : scheduler.Cadenced before) (counter : UInt64) (clock : ClockSnapshot)
    {monotonic : Nat} (room : Room monotonic) (discontinuity : Bool) :
    (scheduler.synchronizeNow counter clock monotonic discontinuity).1.Cadenced monotonic := by
  rw [synchronizeNow_eq]
  simp only
  split
  next => exact new_cadenced room rfl
  next quiet =>
    intro points isTime
    simp only [Playback.synchronizeInner_mode] at isTime
    obtain ⟨deadline, isDeadline, _, bound⟩ := cadenced points isTime
    have forward : scheduler.playback.lastMonotonic ≤ monotonic := by
      simp only [Bool.or_eq_true, not_or, Bool.not_eq_true] at quiet
      have continuous := quiet.2
      simp only [Playback.synchronizeInner, Bool.or_eq_false_iff] at continuous
      by_contra backward
      rw [clockDiscontinuity_of_before (by omega)] at continuous
      exact absurd continuous.2 (by simp)
    refine ⟨deadline, isDeadline, by omega, ?_⟩
    rw [Playback.synchronizeInner_lastMonotonic]
    omega

theorem Covers.synchronizeNow {scheduler : Scheduler} {earlier : ClockSnapshot} {before : Nat}
    (covers : scheduler.Covers earlier before) (counter : UInt64) {clock : ClockSnapshot}
    {monotonic : Nat} (room : Room monotonic) (order : before ≤ monotonic)
    (advanced : clock.civilNanoseconds = earlier.civilNanoseconds + (monotonic - before : Nat))
    (discontinuity : Bool) :
    (scheduler.synchronizeNow counter clock monotonic discontinuity).1.Covers clock monotonic := by
  rw [synchronizeNow_eq]
  simp only
  split
  next => exact new_covers room
  next quiet =>
    simp only [Bool.or_eq_true, not_or, Bool.not_eq_true] at quiet
    obtain ⟨⟨⟨notDue, _⟩, unchanged⟩, continuous⟩ := quiet
    intro delay wakes
    obtain ⟨reduced, wakesReduced, reducedBound⟩ := Playback.wake_of_fewer_reasons
      (scheduler.playback.synchronizeInner_mode counter clock monotonic discontinuity)
      (Playback.synchronizeInner_nextRetry unchanged continuous monotonic) wakes
    have wakesBefore : (scheduler.playback.nextWake earlier before).isSome = true :=
      Playback.nextWake_isSome_stays (by rw [wakesReduced]; rfl)
    obtain ⟨earlierDelay, isEarlierDelay⟩ := Option.isSome_iff_exists.mp wakesBefore
    obtain ⟨deadline, isDeadline, bound⟩ := covers earlierDelay isEarlierDelay
    have ahead : monotonic < deadline := by simpa [isDeadline] using notDue
    have stays := Playback.deadline_stays isEarlierDelay bound ahead order advanced wakesReduced
    exact ⟨deadline, isDeadline, by omega⟩

/-! ## Presenting and decoding -/

theorem synchronizeNow_structured {scheduler : Scheduler} (structured : scheduler.playback.Structured)
    (counter : UInt64) (clock : ClockSnapshot) (monotonic : Nat) (discontinuity : Bool) :
    (scheduler.synchronizeNow counter clock monotonic discontinuity).1.playback.Structured := by
  cases discontinuity with
  | false => exact structured.handled counter (.synchronize clock monotonic)
  | true => exact structured.handled counter (.resynchronizeAfterDiscontinuity clock monotonic)

theorem preparePresentation_structured {scheduler : Scheduler}
    (structured : scheduler.playback.Structured) (counter : UInt64) (clock : ClockSnapshot)
    (monotonic : Nat) (discontinuity : Bool) :
    (scheduler.preparePresentation counter clock monotonic discontinuity).1.playback.Structured :=
  (synchronizeNow_structured structured counter clock monotonic discontinuity).handled counter
    (.advanceTransition monotonic)

theorem Cadenced.preparePresentation {scheduler : Scheduler} {before : Nat}
    (cadenced : scheduler.Cadenced before) (counter : UInt64) (clock : ClockSnapshot)
    {monotonic : Nat} (room : Room monotonic) (discontinuity : Bool) :
    (scheduler.preparePresentation counter clock monotonic discontinuity).1.Cadenced monotonic := by
  have synchronized := cadenced.synchronizeNow counter clock room discontinuity
  intro points isTime
  obtain ⟨mode, lastMonotonic⟩ := Playback.advanceTransition_sameClock
    (scheduler.synchronizeNow counter clock monotonic discontinuity).1.playback monotonic
  obtain ⟨deadline, isDeadline, bounds⟩ := synchronized points (mode.symm.trans isTime)
  refine ⟨deadline, isDeadline, ?_⟩
  rw [← lastMonotonic] at bounds
  exact bounds

theorem Covers.preparePresentation {scheduler : Scheduler} {earlier : ClockSnapshot} {before : Nat}
    (covers : scheduler.Covers earlier before) (structured : scheduler.playback.Structured)
    (counter : UInt64) {clock : ClockSnapshot} {monotonic : Nat} (room : Room monotonic)
    (order : before ≤ monotonic)
    (advanced : clock.civilNanoseconds = earlier.civilNanoseconds + (monotonic - before : Nat))
    (discontinuity : Bool) :
    (scheduler.preparePresentation counter clock monotonic discontinuity).1.Covers clock monotonic := by
  have synchronized := covers.synchronizeNow counter room order advanced discontinuity
  have stillStructured := synchronizeNow_structured structured counter clock monotonic discontinuity
  intro delay wakes
  obtain ⟨mode, _⟩ := Playback.advanceTransition_sameClock
    (scheduler.synchronizeNow counter clock monotonic discontinuity).1.playback monotonic
  obtain ⟨reduced, wakesReduced, reducedBound⟩ := Playback.wake_of_fewer_reasons mode
    (Playback.advanceTransition_nextRetry stillStructured monotonic monotonic) wakes
  obtain ⟨deadline, isDeadline, bound⟩ := synchronized reduced wakesReduced
  exact ⟨deadline, isDeadline, Nat.le_trans bound (Nat.add_le_add_left reducedBound _)⟩

theorem Cadenced.completeDecode {scheduler : Scheduler} {before : Nat}
    (cadenced : scheduler.Cadenced before) (counter : UInt64) (request : DecodeRequest)
    (result : Option RgbaFrame) (clock : ClockSnapshot) {monotonic : Nat} (room : Room monotonic)
    (storage : Option Nat) :
    (scheduler.completeDecode counter request result clock monotonic storage).1.Cadenced monotonic := by
  intro points isTime
  obtain ⟨mode, lastMonotonic⟩ := scheduler.playback.completeDecode_sameClock counter request result
    monotonic storage
  obtain ⟨planned, isPlanned, _, bound⟩ := cadenced points (mode.symm.trans isTime)
  obtain ⟨delay, wakes, cadence⟩ := wake_of_time isTime clock monotonic
  simp only [Scheduler.completeDecode] at wakes ⊢
  rw [playbackDeadline_of_wake room wakes, lastMonotonic]
  obtain ⟨deadline, isDeadline, new, old⟩ := earlierDeadline_some scheduler.nextSynchronize
    (monotonic + delay)
  exact ⟨deadline, isDeadline, Nat.le_trans new (Nat.add_le_add_left cadence _),
    Nat.le_trans (old planned isPlanned) bound⟩

theorem completeDecode_covers (scheduler : Scheduler) (counter : UInt64) (request : DecodeRequest)
    (result : Option RgbaFrame) (clock : ClockSnapshot) {monotonic : Nat} (room : Room monotonic)
    (storage : Option Nat) :
    (scheduler.completeDecode counter request result clock monotonic storage).1.Covers clock
      monotonic := by
  intro delay wakes
  simp only [Scheduler.completeDecode] at wakes ⊢
  rw [playbackDeadline_of_wake room wakes]
  obtain ⟨deadline, isDeadline, bound, _⟩ := earlierDeadline_some scheduler.nextSynchronize
    (monotonic + delay)
  exact ⟨deadline, isDeadline, bound⟩

end Scheduler

/-! ## Runs -/

namespace Scheduling

/-- Civil time and monotonic time advance by equal amounts between what was processed. -/
def Evenly (state next : Scheduling) : Prop :=
  state.monotonic ≤ next.monotonic ∧ next.clock.civilNanoseconds =
    state.clock.civilNanoseconds + (next.monotonic - state.monotonic : Nat)

/-- A synchronization that is due computes the deadline again. -/
theorem synchronizeIfDue_cases (state : Scheduling) (counter : UInt64) (clock : ClockSnapshot)
    (monotonic : Nat) :
    state.handle counter (.synchronizeIfDue clock monotonic) = state ∨
      state.handle counter (.synchronizeIfDue clock monotonic) =
        ⟨.new (state.scheduler.playback.synchronize counter clock monotonic).1 clock monotonic, clock,
          monotonic⟩ := by
  simp only [handle, Scheduler.synchronizeIfDue]
  by_cases quiet : (state.scheduler.nextSynchronize.all fun deadline => monotonic < deadline) = true
  · exact .inl (by simp [quiet])
  · exact .inr (by simp [quiet])

theorem structured_step {state : Scheduling} (structured : state.scheduler.playback.Structured)
    (label : UInt64 × SchedulerCall) : (state.step label).scheduler.playback.Structured := by
  obtain ⟨counter, call⟩ := label
  cases call with
  | takeDecodeRequest => exact structured.handled counter .takeDecodeRequest
  | synchronizeIfDue clock monotonic =>
    simp only [step]
    cases state.synchronizeIfDue_cases counter clock monotonic with
    | inl quiet =>
      rw [quiet]
      exact structured
    | inr due =>
      rw [due]
      exact structured.handled counter (.synchronize clock monotonic)
  | synchronizeNow clock monotonic discontinuity =>
    exact Scheduler.synchronizeNow_structured structured counter clock monotonic discontinuity
  | preparePresentation clock monotonic discontinuity =>
    exact Scheduler.preparePresentation_structured structured counter clock monotonic discontinuity
  | synchronizeAndCompleteDecode request result clock monotonic discontinuity storage =>
    exact (Scheduler.preparePresentation_structured structured counter clock monotonic
      discontinuity).handled _ (.completeDecode request result monotonic storage)
  | completeDecode request result clock monotonic storage =>
    exact structured.handled counter (.completeDecode request result monotonic storage)
  | applySolarSchedule points clock monotonic =>
    exact structured.handled counter (.setSolarSchedule points clock monotonic)

theorem cadenced_step {state : Scheduling} (cadenced : state.scheduler.Cadenced state.monotonic)
    (label : UInt64 × SchedulerCall) (room : Room (state.step label).monotonic) :
    (state.step label).scheduler.Cadenced (state.step label).monotonic := by
  obtain ⟨counter, call⟩ := label
  cases call with
  | takeDecodeRequest =>
    intro points isTime
    obtain ⟨mode, lastMonotonic⟩ := state.scheduler.playback.takeDecodeRequest_sameClock
    obtain ⟨deadline, isDeadline, bounds⟩ := cadenced points (mode.symm.trans isTime)
    refine ⟨deadline, isDeadline, ?_⟩
    rw [← lastMonotonic] at bounds
    exact bounds
  | synchronizeIfDue clock monotonic =>
    simp only [step] at room ⊢
    cases state.synchronizeIfDue_cases counter clock monotonic with
    | inl quiet =>
      rw [quiet]
      exact cadenced
    | inr due =>
      rw [due] at room ⊢
      exact Scheduler.new_cadenced room rfl
  | synchronizeNow clock monotonic discontinuity =>
    exact cadenced.synchronizeNow counter clock room discontinuity
  | preparePresentation clock monotonic discontinuity =>
    exact cadenced.preparePresentation counter clock room discontinuity
  | synchronizeAndCompleteDecode request result clock monotonic discontinuity storage =>
    exact (cadenced.preparePresentation counter clock room discontinuity).completeDecode _ request result
      clock room storage
  | completeDecode request result clock monotonic storage =>
    exact cadenced.completeDecode counter request result clock room storage
  | applySolarSchedule points clock monotonic => exact Scheduler.new_cadenced room rfl

theorem covers_step {state : Scheduling} (covers : state.scheduler.Covers state.clock state.monotonic)
    (structured : state.scheduler.playback.Structured) (label : UInt64 × SchedulerCall)
    (room : Room (state.step label).monotonic) (evenly : state.Evenly (state.step label)) :
    (state.step label).scheduler.Covers (state.step label).clock (state.step label).monotonic := by
  obtain ⟨counter, call⟩ := label
  obtain ⟨order, advanced⟩ := evenly
  cases call with
  | takeDecodeRequest =>
    intro delay wakes
    obtain ⟨mode, _⟩ := state.scheduler.playback.takeDecodeRequest_sameClock
    obtain ⟨reduced, wakesReduced, bound⟩ := Playback.wake_of_fewer_reasons mode
      (state.scheduler.playback.takeDecodeRequest_nextRetry state.monotonic) wakes
    obtain ⟨deadline, isDeadline, within⟩ := covers reduced wakesReduced
    exact ⟨deadline, isDeadline, Nat.le_trans within (Nat.add_le_add_left bound _)⟩
  | synchronizeIfDue clock monotonic =>
    simp only [step] at room ⊢
    cases state.synchronizeIfDue_cases counter clock monotonic with
    | inl quiet =>
      rw [quiet]
      exact covers
    | inr due =>
      rw [due] at room ⊢
      exact Scheduler.new_covers room
  | synchronizeNow clock monotonic discontinuity =>
    exact covers.synchronizeNow counter room order advanced discontinuity
  | preparePresentation clock monotonic discontinuity =>
    exact covers.preparePresentation structured counter room order advanced discontinuity
  | synchronizeAndCompleteDecode request result clock monotonic discontinuity storage =>
    exact Scheduler.completeDecode_covers _ _ request result clock room storage
  | completeDecode request result clock monotonic storage =>
    exact state.scheduler.completeDecode_covers counter request result clock room storage
  | applySolarSchedule points clock monotonic => exact Scheduler.new_covers room

end Scheduling

/-- As long as the monotonic times leave room for a minute, a time schedule is looked at again within
a minute, and where time passes evenly the deadline is no later than the wake of the playback. -/
theorem scheduler_wakes (run : schedulerSystem.Run) {index : Nat} (bound : index ≤ run.length)
    (room : ∀ time ≤ index, (run.state time).monotonic + Duration.fromSecs 60 < Duration.limit) :
    (∀ points, (run.state index).scheduler.playback.mode = .time points →
      ∃ deadline, (run.state index).scheduler.nextSynchronize = some deadline ∧
        deadline ≤ (run.state index).monotonic + Duration.fromSecs 60) ∧
    ((∀ time < index, (run.state time).Evenly (run.state (time + 1))) →
      ∀ delay, (run.state index).scheduler.playback.nextWake (run.state index).clock
          (run.state index).monotonic = some delay →
        ∃ deadline, (run.state index).scheduler.nextSynchronize = some deadline ∧
          deadline ≤ (run.state index).monotonic + delay) := by
  have isNext : ∀ time < run.length, run.state (time + 1) = (run.state time).step (run.label time) :=
    fun time within => run.steps time within
  obtain ⟨metadata, primary, appearance, reducedMotion, solar, counter, isNew⟩ := run.starts
  constructor
  · intro points isTime
    -- In time mode every step sets a deadline within a minute, whatever the clock does.
    have cadenced : (run.state index).scheduler.Cadenced (run.state index).monotonic := by
      refine run.stays (fun state => state.scheduler.Cadenced state.monotonic) (Nat.zero_le index)
        bound ?_ ?_
      · intro time _ before holds
        have roomAfter := room (time + 1) before
        rw [isNext time (by omega)] at roomAfter ⊢
        exact Scheduling.cadenced_step holds _ roomAfter
      · rw [isNew]
        exact Scheduler.new_cadenced (room 0 (Nat.zero_le _)) rfl
    obtain ⟨deadline, isDeadline, cadence, _⟩ := cadenced points isTime
    exact ⟨deadline, isDeadline, cadence⟩
  · intro evenly
    -- While the clock runs evenly a deadline that covered the next wake still does.
    have covers : (run.state index).scheduler.playback.Structured ∧
        (run.state index).scheduler.Covers (run.state index).clock (run.state index).monotonic := by
      refine run.stays (fun state => state.scheduler.playback.Structured ∧
        state.scheduler.Covers state.clock state.monotonic) (Nat.zero_le index) bound ?_ ?_
      · intro time _ before holds
        have roomAfter := room (time + 1) before
        have evenlyAfter := evenly time before
        rw [isNext time (by omega)] at roomAfter evenlyAfter ⊢
        exact ⟨Scheduling.structured_step holds.1 _,
          Scheduling.covers_step holds.2 holds.1 _ roomAfter evenlyAfter⟩
      · rw [isNew]
        exact ⟨Playback.withSolar_structured metadata primary appearance (run.state 0).clock
          (run.state 0).monotonic reducedMotion solar counter,
          Scheduler.new_covers (room 0 (Nat.zero_le _))⟩
    exact covers.2

/-! ## Over noon, and the retry of a static wallpaper -/

/-- Started a minute before noon, and looked at again at noon. -/
def noonScheduling : Scheduling where
  scheduler := .new (Playback.withSolar {} ⟨0⟩ .automatic (sampleClock 11 59 beforeNoon_valid) 0 false
    (some samplePoints) 1).1 (sampleClock 11 59 beforeNoon_valid) 0
  clock := sampleClock 11 59 beforeNoon_valid
  monotonic := 0

theorem noonScheduling_starts : noonScheduling.Starts := ⟨_, _, _, _, _, _, rfl⟩

def noonCalls : List (UInt64 × SchedulerCall) :=
  [(2, .takeDecodeRequest), (2, .synchronizeIfDue (sampleClock 12 0 noon_valid) (Duration.fromSecs 60))]

def noonRun : schedulerSystem.Run :=
  TransitionSystem.totalRun Scheduling.Starts Scheduling.step noonScheduling noonScheduling_starts noonCalls

theorem noonRun_evenly : ∀ time < 2, (noonRun.state time).Evenly (noonRun.state (time + 1))
  | 0, _ => ⟨by decide +kernel, by decide +kernel⟩
  | 1, _ => ⟨by decide +kernel, by decide +kernel⟩

/-- The only image of a static wallpaper cannot be decoded, and is tried again a minute later. -/
def retryCalls : List (UInt64 × SchedulerCall) :=
  [(2, .takeDecodeRequest),
    (2, .synchronizeAndCompleteDecode ⟨1, ⟨0⟩⟩ none (sampleClock 12 1 (by decide)) (Duration.fromSecs 60)
      false none),
    (2, .synchronizeIfDue (sampleClock 12 2 (by decide)) (Duration.fromSecs 120))]

def staticScheduling : Scheduling where
  scheduler := .new (Playback.withSolar {} ⟨0⟩ .automatic (sampleClock 12 0 noon_valid) 0 false none 1).1
    (sampleClock 12 0 noon_valid) 0
  clock := sampleClock 12 0 noon_valid
  monotonic := 0

theorem staticScheduling_starts : staticScheduling.Starts := ⟨_, _, _, _, _, _, rfl⟩

def retryRun : schedulerSystem.Run :=
  TransitionSystem.totalRun Scheduling.Starts Scheduling.step staticScheduling staticScheduling_starts
    retryCalls

theorem retryRun_evenly : ∀ time < 2, (retryRun.state time).Evenly (retryRun.state (time + 1))
  | 0, _ => ⟨by decide +kernel, by decide +kernel⟩
  | 1, _ => ⟨by decide +kernel, by decide +kernel⟩

theorem scheduler_wakes_sample :
    (∃ deadline, (noonRun.state 2).scheduler.nextSynchronize = some deadline ∧
      deadline ≤ (noonRun.state 2).monotonic + Duration.fromSecs 60) ∧
    ∃ deadline, (retryRun.state 2).scheduler.nextSynchronize = some deadline ∧
      deadline ≤ (retryRun.state 2).monotonic + Duration.fromSecs 60 := by
  have hasBoundary : ((noonRun.state 2).scheduler.playback.nextBoundary (sampleClock 12 0 noon_valid)).isSome =
      true := by decide +kernel
  obtain ⟨points, isTime⟩ := Playback.nextBoundary_isSome_iff.mp hasBoundary
  have wakes : (retryRun.state 2).scheduler.playback.nextWake (retryRun.state 2).clock
      (retryRun.state 2).monotonic = some (Duration.fromSecs 60) := by decide +kernel
  constructor
  · exact (scheduler_wakes noonRun (show 2 ≤ noonRun.length by decide) (by decide +kernel)).1 points isTime
  · exact (scheduler_wakes retryRun (show 2 ≤ retryRun.length by decide) (by decide +kernel)).2
      retryRun_evenly _ wakes

/-! ## At the end of monotonic time -/

/-- A time schedule that starts in the last nanosecond that a duration can hold. -/
def lastScheduling : Scheduling where
  scheduler := .new (Playback.withSolar {} ⟨0⟩ .automatic (sampleClock 12 0 noon_valid)
    (Duration.limit - 1) false (some samplePoints) 1).1 (sampleClock 12 0 noon_valid) (Duration.limit - 1)
  clock := sampleClock 12 0 noon_valid
  monotonic := Duration.limit - 1

theorem no_deadline_at_the_end_of_time : ∃ state, schedulerSystem.Reachable state ∧
    (∃ points, state.scheduler.playback.mode = .time points) ∧
    state.scheduler.nextSynchronize = none :=
  ⟨lastScheduling, .initial ⟨_, _, _, _, _, _, rfl⟩, ⟨_, rfl⟩, by decide +kernel⟩

end Genkan.DesktopWallpaper
