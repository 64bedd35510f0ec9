import Genkan.DesktopWallpaper.Deadlines
import Genkan.DynamicWallpaper.Retry
import Genkan.DynamicWallpaper.Selecting

/-! # The wallpaper follows its schedule

Between two calls the scheduler is trusted to wait: as long as its deadline is ahead, the image that
was selected last is still the one of the schedule, and whatever keeps another image on screen is
still under way.  `Tracks` is this promise about all moments ahead; a synchronization makes it anew,
and a call that synchronizes nothing keeps it.
-/

namespace Genkan.DynamicWallpaper

open Foundations

/-! ## The selection until the wake -/

theorem ClockSnapshot.timeOfDay_advanced {earlier later : ClockSnapshot} {elapsed : Nat}
    (advanced : later.civilNanoseconds = earlier.civilNanoseconds + elapsed) :
    later.timeOfDay = (earlier.timeOfDay + elapsed) % day := by
  have isEarlier := earlier.timeOfDay_eq
  have isLater := later.timeOfDay_eq
  rw [advanced, ← Int.emod_add_emod, ← isEarlier] at isLater
  exact_mod_cast isLater

theorem selectedPoint_of_passed {points : TimePoints} {clock : ClockSnapshot}
    (passed : ∀ point ∈ points.points, effectiveBoundarySecond point.time ≤ clock.secondsOfDay) :
    selectedPoint points clock = points.points.getLast points.nonempty := by
  rw [selectedPoint, Lists.find?_reverse_of_all points.nonempty fun point member =>
    decide_eq_true (passed point member), Option.getD_some]

theorem selectedPoint_of_ahead {points : TimePoints} {clock : ClockSnapshot}
    (ahead : ∀ point ∈ points.points, ¬ effectiveBoundarySecond point.time ≤ clock.secondsOfDay) :
    selectedPoint points clock = points.points.getLast points.nonempty := by
  have unfound : (points.points.reverse.find? fun point =>
      decide (effectiveBoundarySecond point.time ≤ clock.secondsOfDay)) = none := by
    rw [List.find?_eq_none]
    intro point member
    simpa using ahead point (List.mem_reverse.mp member)
  rw [selectedPoint, unfound, Option.getD_none]

namespace Playback

/-- Ahead of the wake the schedule selects what it selected. -/
theorem selection_before_wake {playback : Playback} {earlier later : ClockSnapshot}
    {monotonic wake elapsed : Nat} (wakes : playback.nextWake earlier monotonic = some wake)
    (shorter : elapsed < wake) (advanced : later.civilNanoseconds = earlier.civilNanoseconds + elapsed) :
    playback.selection later = playback.selection earlier := by
  cases isMode : playback.mode with
  | static => simp only [selection, isMode]
  | time points =>
    have boundaries := ((le_wake wakes wake).mp (Nat.le_refl _)).2.1
    rw [le_nextBoundary isMode] at boundaries
    have ahead : ∀ point ∈ points.points, elapsed < untilBoundary earlier point :=
      fun point member => Nat.lt_of_lt_of_le shorter (boundaries point member)
    have same : selectedPoint points later = selectedPoint points earlier := by
      rcases boundaries_until ahead (ClockSnapshot.timeOfDay_advanced advanced) with same | ⟨passed, cleared⟩
      · simp only [selectedPoint]
        rw [Lists.find?_congr fun point member =>
          decide_eq_decide.mpr (same point (List.mem_reverse.mp member))]
      · rw [selectedPoint_of_ahead cleared, selectedPoint_of_passed passed]
    simp only [selection, isMode, same]

/-! ## What leaves the selection as it is -/

/-- Neither the schedule nor what was selected from it differs. -/
def SameChoice (playback next : Playback) : Prop :=
  next.mode = playback.mode ∧ next.selected = playback.selected

theorem SameChoice.selection {playback next : Playback} (same : playback.SameChoice next)
    (clock : ClockSnapshot) : next.selection clock = playback.selection clock := by
  simp only [Playback.selection, same.1, same.2]

theorem takeDecodeRequest_sameChoice (playback : Playback) :
    playback.SameChoice playback.takeDecodeRequest.1 := by
  refine ⟨(takeDecodeRequest_sameClock playback).1, ?_⟩
  simp only [takeDecodeRequest]
  split
  next => rfl
  next => split <;> rfl

theorem advanceTransition_sameChoice (playback : Playback) (monotonic : Nat) :
    playback.SameChoice (playback.advanceTransition monotonic).1 := by
  refine ⟨(advanceTransition_sameClock playback monotonic).1, ?_⟩
  simp only [advanceTransition]
  split
  next => rfl
  next =>
    split
    next => exact settle_selected playback
    next => rfl

theorem adopt_selected (playback : Playback) (pending : PendingDecode) (frame : RgbaFrame)
    (monotonic maxBlendBytes : Nat) (storage : Option Nat) :
    (playback.adopt pending frame monotonic maxBlendBytes storage).1.selected = playback.selected := by
  simp only [adopt]
  split
  next =>
    split
    next => rfl
    next =>
      split
      next => rfl
      next => exact (advanceTransition_sameChoice _ monotonic).2
  next => rfl

theorem queuePrimaryFallback_selected (playback : Playback) (failedImage : ImageReference)
    (counter : UInt64) :
    (playback.queuePrimaryFallback failedImage counter).1.selected = playback.selected := by
  simp only [queuePrimaryFallback]
  split <;> rfl

theorem fail_selected (playback : Playback) (counter : UInt64) (image : ImageReference)
    (monotonic : Nat) : (playback.fail counter image monotonic).1.selected = playback.selected := by
  rw [fail, queuePrimaryFallback_selected]

theorem completeDecode_sameChoice (playback : Playback) (counter : UInt64) (request : DecodeRequest)
    (result : Option RgbaFrame) (monotonic : Nat) (storage : Option Nat) :
    playback.SameChoice (playback.completeDecode counter request result monotonic storage).1 := by
  refine ⟨(completeDecode_sameClock playback counter request result monotonic storage).1, ?_⟩
  simp only [completeDecode, completeDecodeWithLimit]
  split
  next => rfl
  next pending isPending =>
    split
    next => rfl
    next =>
      split
      next => exact fail_selected { playback with pending := none } counter request.image monotonic
      next frame =>
        split
        next => exact fail_selected { playback with pending := none } counter request.image monotonic
        next => split <;> rw [adopt_selected]

/-- The selection of the schedule at this clock is adopted. -/
def Chosen (playback : Playback) (clock : ClockSnapshot) : Prop :=
  playback.selected = playback.selection clock

theorem SameChoice.chosen {playback next : Playback} (same : playback.SameChoice next)
    {clock : ClockSnapshot} (chosen : playback.Chosen clock) : next.Chosen clock := by
  rw [Chosen, same.2, same.selection]
  exact chosen

theorem synchronizeInner_chosen (playback : Playback) (counter : UInt64) (clock : ClockSnapshot)
    (monotonic : Nat) (forceDiscontinuity : Bool) :
    (playback.synchronizeInner counter clock monotonic forceDiscontinuity).1.Chosen clock := by
  have adopted := synchronizeInner_selected playback counter clock monotonic forceDiscontinuity
  have mode := synchronizeInner_mode playback counter clock monotonic forceDiscontinuity
  cases isMode : playback.mode with
  | static => simp only [Chosen, selection, mode, isMode]
  | time points =>
    simp only [selection, isMode] at adopted
    simp only [Chosen, selection, mode, isMode, adopted]

theorem withSolar_chosen (metadata : Metadata) (primary : ImageReference)
    (appearance : AppearancePreference) (clock : ClockSnapshot) (monotonic : Nat) (reducedMotion : Bool)
    (solar : Option TimePoints) (counter : UInt64) :
    (withSolar metadata primary appearance clock monotonic reducedMotion solar counter).1.Chosen clock := by
  simp only [Chosen, selection, withSolar, initialMode]
  split
  next => rfl
  next => split <;> rfl

/-! ## Where the schedule comes from -/

/-- A schedule is an authored one, sorted. -/
def Sorted (playback : Playback) : Prop :=
  playback.mode = .static ∨ ∃ points, playback.mode = .time (sortedTimePoints points)

theorem withSolar_sorted (metadata : Metadata) (primary : ImageReference)
    (appearance : AppearancePreference) (clock : ClockSnapshot) (monotonic : Nat) (reducedMotion : Bool)
    (solar : Option TimePoints) (counter : UInt64) :
    (withSolar metadata primary appearance clock monotonic reducedMotion solar counter).1.Sorted := by
  simp only [Sorted, withSolar, initialMode]
  split
  next => exact .inr ⟨_, rfl⟩
  next =>
    split
    next => exact .inr ⟨_, rfl⟩
    next => exact .inl rfl
    next => exact .inl rfl
    next => exact .inl rfl

theorem Sorted.of_mode {playback next : Playback} (sorted : playback.Sorted)
    (same : next.mode = playback.mode) : next.Sorted := by
  rwa [Sorted, same]

theorem Sorted.handled {playback : Playback} (sorted : playback.Sorted) (counter : UInt64)
    (call : PlaybackCall) : (playback.handle counter call).1.Sorted := by
  cases call with
  | takeDecodeRequest => exact sorted.of_mode (takeDecodeRequest_sameChoice playback).1
  | synchronize clock monotonic => exact sorted.of_mode (synchronizeInner_mode ..)
  | resynchronizeAfterDiscontinuity clock monotonic => exact sorted.of_mode (synchronizeInner_mode ..)
  | setSolarSchedule points clock monotonic => exact .inr ⟨points, synchronizeInner_mode ..⟩
  | completeDecode request result monotonic storage =>
    exact sorted.of_mode (completeDecode_sameChoice playback counter request result monotonic storage).1
  | advanceTransition monotonic => exact sorted.of_mode (advanceTransition_sameChoice playback monotonic).1

end Playback

end Genkan.DynamicWallpaper

namespace Genkan.DesktopWallpaper

open Foundations DynamicWallpaper

theorem earlierDeadline_of_some {left : Option Nat} {deadline : Nat} (isDeadline : left = some deadline)
    (right : Option Nat) : ∃ sooner ≤ deadline, earlierDeadline left right = some sooner := by
  cases right with
  | none => exact ⟨deadline, Nat.le_refl _, by rw [isDeadline]; rfl⟩
  | some right =>
    obtain ⟨sooner, isSooner, _, bound⟩ := earlierDeadline_some left right
    exact ⟨sooner, bound deadline isDeadline, isSooner⟩

namespace Scheduling

/-! ## The moments ahead -/

/-- The moment comes evenly after what was processed last, and the scheduler is not due yet. -/
structure Ahead (state : Scheduling) (clock : ClockSnapshot) (monotonic : Nat) : Prop where
  order : state.monotonic ≤ monotonic
  advanced : clock.civilNanoseconds = state.clock.civilNanoseconds + (monotonic - state.monotonic : Nat)
  waiting : (state.scheduler.nextSynchronize.all fun deadline => monotonic < deadline) = true

theorem Ahead.lt_deadline {state : Scheduling} {clock : ClockSnapshot} {monotonic deadline : Nat}
    (ahead : state.Ahead clock monotonic) (isDeadline : state.scheduler.nextSynchronize = some deadline) :
    monotonic < deadline := by
  simpa [isDeadline] using ahead.waiting

/-- At every moment ahead the schedule selects the image that is selected. -/
def Tracks (state : Scheduling) : Prop :=
  ∀ clock monotonic, state.Ahead clock monotonic → state.scheduler.playback.Chosen clock

/-- A deadline that covers the wake makes the promise. -/
theorem tracks_of_covers {state : Scheduling} (chosen : state.scheduler.playback.Chosen state.clock)
    (covers : state.scheduler.Covers state.clock state.monotonic) : state.Tracks := by
  intro clock monotonic ahead
  cases isMode : state.scheduler.playback.mode with
  | static => simp only [Playback.Chosen, Playback.selection, isMode]
  | time points =>
    obtain ⟨wake, wakes, _⟩ := Scheduler.wake_of_time isMode state.clock state.monotonic
    obtain ⟨deadline, isDeadline, within⟩ := covers wake wakes
    have before := ahead.lt_deadline isDeadline
    have order := ahead.order
    rw [Playback.Chosen, Playback.selection_before_wake wakes (by omega) ahead.advanced]
    exact chosen

/-- A later deadline or a later moment promises no more. -/
theorem Tracks.kept {state next : Scheduling} (tracks : state.Tracks) (evenly : state.Evenly next)
    (same : state.scheduler.playback.SameChoice next.scheduler.playback)
    (earlier : ∀ deadline, state.scheduler.nextSynchronize = some deadline → ∃ sooner ≤ deadline,
      next.scheduler.nextSynchronize = some sooner) : next.Tracks := by
  intro clock monotonic ahead
  obtain ⟨order, advanced⟩ := evenly
  refine same.chosen (tracks clock monotonic ⟨Nat.le_trans order ahead.order, ?_, ?_⟩)
  · have later := ahead.advanced
    have after := ahead.order
    omega
  · cases isDeadline : state.scheduler.nextSynchronize with
    | none => rfl
    | some deadline =>
      obtain ⟨sooner, bound, isSooner⟩ := earlier deadline isDeadline
      have before := ahead.lt_deadline isSooner
      simp only [Option.all_some, decide_eq_true_eq]
      omega

/-! ## Synchronizing -/

theorem synchronizeNow_chosen (scheduler : Scheduler) (counter : UInt64) (clock : ClockSnapshot)
    (monotonic : Nat) (discontinuity : Bool) :
    (scheduler.synchronizeNow counter clock monotonic discontinuity).1.playback.Chosen clock := by
  rw [Scheduler.synchronizeNow_eq]
  simp only
  split
  next => exact Playback.synchronizeInner_chosen _ counter clock monotonic discontinuity
  next => exact Playback.synchronizeInner_chosen _ counter clock monotonic discontinuity

theorem preparePresentation_chosen (scheduler : Scheduler) (counter : UInt64) (clock : ClockSnapshot)
    (monotonic : Nat) (discontinuity : Bool) :
    (scheduler.preparePresentation counter clock monotonic discontinuity).1.playback.Chosen clock :=
  (Playback.advanceTransition_sameChoice _ monotonic).chosen
    (synchronizeNow_chosen scheduler counter clock monotonic discontinuity)

theorem tracks_step {state : Scheduling} (tracks : state.Tracks)
    (structured : state.scheduler.playback.Structured)
    (covers : state.scheduler.Covers state.clock state.monotonic) (label : UInt64 × SchedulerCall)
    (room : Room (state.step label).monotonic) (evenly : state.Evenly (state.step label)) :
    (state.step label).Tracks := by
  have covered := covers_step covers structured label room evenly
  obtain ⟨counter, call⟩ := label
  cases call with
  | takeDecodeRequest =>
    exact tracks.kept evenly (Playback.takeDecodeRequest_sameChoice _)
      fun deadline isDeadline => ⟨deadline, Nat.le_refl _, isDeadline⟩
  | synchronizeIfDue clock monotonic =>
    simp only [step] at covered ⊢
    cases state.synchronizeIfDue_cases counter clock monotonic with
    | inl quiet => rwa [quiet]
    | inr due =>
      rw [due] at covered ⊢
      exact tracks_of_covers (Playback.synchronizeInner_chosen _ counter clock monotonic false) covered
  | synchronizeNow clock monotonic discontinuity =>
    exact tracks_of_covers (synchronizeNow_chosen _ counter clock monotonic discontinuity) covered
  | preparePresentation clock monotonic discontinuity =>
    exact tracks_of_covers (preparePresentation_chosen _ counter clock monotonic discontinuity) covered
  | synchronizeAndCompleteDecode request result clock monotonic discontinuity storage =>
    exact tracks_of_covers ((Playback.completeDecode_sameChoice _ _ request result monotonic storage).chosen
      (preparePresentation_chosen _ counter clock monotonic discontinuity)) covered
  | completeDecode request result clock monotonic storage =>
    refine tracks.kept evenly (Playback.completeDecode_sameChoice _ counter request result monotonic storage) ?_
    intro deadline isDeadline
    exact earlierDeadline_of_some isDeadline _
  | applySolarSchedule points clock monotonic =>
    exact tracks_of_covers (Playback.synchronizeInner_chosen _ counter clock monotonic false) covered

/-! ## Runs -/

/-- What every call of a playback keeps is kept by the calls of its scheduler. -/
theorem playback_step (property : Playback → Prop)
    (kept : ∀ playback counter call, property playback → PlaybackCall.Schedulable call →
      property (playback.handle counter call).1)
    {state : Scheduling} (holds : property state.scheduler.playback) (label : UInt64 × SchedulerCall)
    (room : Room (state.step label).monotonic) : property (state.step label).scheduler.playback := by
  have synchronized (scheduler : Scheduler) (counter : UInt64) (clock : ClockSnapshot) (monotonic : Nat)
      (discontinuity : Bool) (holds : property scheduler.playback) :
      property (scheduler.synchronizeNow counter clock monotonic discontinuity).1.playback := by
    cases discontinuity with
    | false => exact kept _ counter (.synchronize clock monotonic) holds trivial
    | true => exact kept _ counter (.resynchronizeAfterDiscontinuity clock monotonic) holds trivial
  have prepared (counter : UInt64) (clock : ClockSnapshot) (monotonic : Nat) (discontinuity : Bool) :
      property (state.scheduler.preparePresentation counter clock monotonic
        discontinuity).1.playback :=
    kept _ counter (.advanceTransition monotonic)
      (synchronized state.scheduler counter clock monotonic discontinuity holds) trivial
  obtain ⟨counter, call⟩ := label
  cases call with
  | takeDecodeRequest => exact kept _ counter .takeDecodeRequest holds trivial
  | synchronizeIfDue clock monotonic =>
    simp only [step]
    cases state.synchronizeIfDue_cases counter clock monotonic with
    | inl quiet => rwa [quiet]
    | inr due =>
      rw [due]
      exact kept _ counter (.synchronize clock monotonic) holds trivial
  | synchronizeNow clock monotonic discontinuity =>
    exact synchronized state.scheduler counter clock monotonic discontinuity holds
  | preparePresentation clock monotonic discontinuity =>
    exact prepared counter clock monotonic discontinuity
  | synchronizeAndCompleteDecode request result clock monotonic discontinuity storage =>
    exact kept _ _ (.completeDecode request result monotonic storage)
      (prepared counter clock monotonic discontinuity) room
  | completeDecode request result clock monotonic storage =>
    exact kept _ counter (.completeDecode request result monotonic storage) holds room
  | applySolarSchedule points clock monotonic =>
    exact kept _ counter (.setSolarSchedule points clock monotonic) holds trivial

structure Follows (state : Scheduling) : Prop where
  structured : state.scheduler.playback.Structured
  awake : state.scheduler.playback.Awake
  sorted : state.scheduler.playback.Sorted
  covers : state.scheduler.Covers state.clock state.monotonic
  tracks : state.Tracks

theorem Follows.step {state : Scheduling} (follows : state.Follows) (label : UInt64 × SchedulerCall)
    (room : Room (state.step label).monotonic) (evenly : state.Evenly (state.step label)) :
    (state.step label).Follows := by
  obtain ⟨awake, sorted⟩ : (state.step label).scheduler.playback.Awake ∧
      (state.step label).scheduler.playback.Sorted := by
    refine (playback_step (fun playback => playback.Structured ∧ playback.Awake ∧ playback.Sorted)
      ?_ ⟨follows.structured, follows.awake, follows.sorted⟩ label room).2
    rintro playback counter call ⟨structured, awake, sorted⟩ schedulable
    exact ⟨structured.handled counter call, awake.handled structured counter schedulable,
      sorted.handled counter call⟩
  exact {
    structured := structured_step follows.structured label
    awake := awake
    sorted := sorted
    covers := covers_step follows.covers follows.structured label room evenly
    tracks := tracks_step follows.tracks follows.structured follows.covers label room evenly }

theorem Starts.follows {state : Scheduling} (starts : state.Starts) (room : Room state.monotonic) :
    state.Follows := by
  obtain ⟨metadata, primary, appearance, reducedMotion, solar, counter, isNew⟩ := starts
  have covers : state.scheduler.Covers state.clock state.monotonic := by
    rw [isNew]
    exact Scheduler.new_covers room
  refine ⟨?_, ?_, ?_, covers, tracks_of_covers ?_ covers⟩ <;> rw [isNew]
  · exact Playback.withSolar_structured metadata primary appearance _ _ reducedMotion solar counter
  · exact Playback.withSolar_awake metadata primary appearance _ _ reducedMotion solar counter
  · exact Playback.withSolar_sorted metadata primary appearance _ _ reducedMotion solar counter
  · exact Playback.withSolar_chosen metadata primary appearance _ _ reducedMotion solar counter

theorem run_follows (run : schedulerSystem.Run) {index : Nat} (bound : index ≤ run.length)
    (room : ∀ time ≤ index, Room (run.state time).monotonic)
    (evenly : ∀ time < index, (run.state time).Evenly (run.state (time + 1))) :
    (run.state index).Follows := by
  refine run.stays Follows (Nat.zero_le index) bound ?_ (run.starts.follows (room 0 (Nat.zero_le _)))
  intro time _ before follows
  have roomAfter := room (time + 1) before
  have evenlyAfter := evenly time before
  have steps : run.state (time + 1) = (run.state time).step (run.label time) := run.steps time (by omega)
  rw [steps] at roomAfter evenlyAfter ⊢
  exact follows.step _ roomAfter evenlyAfter

/-- A retry that is planned and needed is still ahead. -/
theorem Follows.retry {state : Scheduling} (follows : state.Follows)
    (stranded : state.scheduler.playback.Stranded) {clock : ClockSnapshot} {monotonic : Nat}
    (ahead : state.Ahead clock monotonic) :
    ∃ retry, state.scheduler.playback.retryNotBefore = some retry ∧ monotonic < retry := by
  have planned : state.scheduler.playback.retryNotBefore.isSome = true := by
    simpa [stranded.elsewhere, stranded.pending, stranded.transition] using follows.awake.underway
  obtain ⟨retry, isRetry⟩ := Option.isSome_iff_exists.mp planned
  obtain ⟨delay, wakes, _, within⟩ := stranded.nextWake isRetry state.clock state.monotonic
  obtain ⟨deadline, isDeadline, bound⟩ := follows.covers delay wakes
  have before := ahead.lt_deadline isDeadline
  have order := ahead.order
  exact ⟨retry, isRetry, by omega⟩

theorem Follows.selects {state : Scheduling} (follows : state.Follows) {clock : ClockSnapshot}
    {monotonic : Nat} (ahead : state.Ahead clock monotonic) :
    state.scheduler.playback.mode = .static ∨
      ∃ points choice, state.scheduler.playback.mode = .time (sortedTimePoints points) ∧
        Selects secondFraction points.points clock.secondsOfDay choice ∧
        state.scheduler.playback.selected = choice.image := by
  refine follows.sorted.imp_right ?_
  rintro ⟨points, isTime⟩
  refine ⟨points, selectedPoint (sortedTimePoints points) clock, isTime, ?_, ?_⟩
  · rw [selectedPoint_eq]
    exact selectedPointBy_selects secondFraction_monotone points clock
  · have chosen := follows.tracks clock monotonic ahead
    simpa [Playback.Chosen, Playback.selection, isTime] using chosen

end Scheduling

/-- Where time passes evenly, then at every moment for which the scheduler is not due, however late it
is, the selected image is the one that the authored schedule defines for this moment; and unless it is
on screen a decode is pending, a dissolve to it is running, or a retry is planned that is still ahead. -/
theorem schedule_tracked (run : schedulerSystem.Run) {index : Nat} (bound : index ≤ run.length)
    (room : ∀ time ≤ index, (run.state time).monotonic + Duration.fromSecs 60 < Duration.limit)
    (evenly : ∀ time < index, (run.state time).Evenly (run.state (time + 1))) {clock : ClockSnapshot}
    {monotonic : Nat} (ahead : (run.state index).Ahead clock monotonic) :
    ((run.state index).scheduler.playback.mode = .static ∨
      ∃ points choice, (run.state index).scheduler.playback.mode = .time (sortedTimePoints points) ∧
        Selects secondFraction points.points clock.secondsOfDay choice ∧
        (run.state index).scheduler.playback.selected = choice.image) ∧
    ((run.state index).scheduler.playback.presentedImage =
        some (run.state index).scheduler.playback.selected ∨
      (∃ pending, (run.state index).scheduler.playback.pending = some pending ∧
        (pending.request.image = (run.state index).scheduler.playback.selected ∨
          (run.state index).scheduler.playback.retryNotBefore.isSome = true)) ∨
      (∃ transition, (run.state index).scheduler.playback.transition = some transition ∧
        transition.toImage = (run.state index).scheduler.playback.selected) ∨
      ∃ retry, (run.state index).scheduler.playback.retryNotBefore = some retry ∧ monotonic < retry) := by
  have follows := Scheduling.run_follows run bound room evenly
  refine ⟨follows.selects ahead, ?_⟩
  by_cases shown : (run.state index).scheduler.playback.presentedImage =
      some (run.state index).scheduler.playback.selected
  · exact .inl shown
  · right
    cases isPending : (run.state index).scheduler.playback.pending with
    | some pending => exact .inl ⟨pending, rfl, follows.awake.fallback pending isPending⟩
    | none =>
      right
      cases isTransition : (run.state index).scheduler.playback.transition with
      | some transition => exact .inl ⟨transition, rfl, follows.structured.target transition isTransition⟩
      | none => exact .inr (follows.retry ⟨isPending, isTransition, shown⟩ ahead)

/-! ## Over noon -/

def afterNoon : ClockSnapshot := { sampleClock 12 0 noon_valid with time := ⟨12, 0, 30, by decide⟩ }

theorem noonRun_ahead : (noonRun.state 2).Ahead afterNoon (Duration.fromSecs 90) where
  order := by decide +kernel
  advanced := by decide +kernel
  waiting := by decide +kernel

theorem schedule_tracked_sample :
    ((noonRun.state 2).scheduler.playback.mode = .static ∨
      ∃ points choice, (noonRun.state 2).scheduler.playback.mode = .time (sortedTimePoints points) ∧
        Selects secondFraction points.points afterNoon.secondsOfDay choice ∧
        (noonRun.state 2).scheduler.playback.selected = choice.image) ∧
    ((noonRun.state 2).scheduler.playback.presentedImage =
        some (noonRun.state 2).scheduler.playback.selected ∨
      (∃ pending, (noonRun.state 2).scheduler.playback.pending = some pending ∧
        (pending.request.image = (noonRun.state 2).scheduler.playback.selected ∨
          (noonRun.state 2).scheduler.playback.retryNotBefore.isSome = true)) ∨
      (∃ transition, (noonRun.state 2).scheduler.playback.transition = some transition ∧
        transition.toImage = (noonRun.state 2).scheduler.playback.selected) ∨
      ∃ retry, (noonRun.state 2).scheduler.playback.retryNotBefore = some retry ∧
        Duration.fromSecs 90 < retry) :=
  schedule_tracked noonRun (show 2 ≤ noonRun.length by decide) (by decide +kernel) noonRun_evenly
    noonRun_ahead

end Genkan.DesktopWallpaper
