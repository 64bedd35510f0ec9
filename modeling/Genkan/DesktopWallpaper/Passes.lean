import Genkan.DesktopWallpaper.Runtime
import Genkan.Foundations.Results

/-! # What a pass does before the surfaces act

Only a finished decode starts a dissolve, and with it every surface is told to redraw.
-/

namespace Genkan.DynamicWallpaper.Playback

/-! ## Only a decode starts a dissolve -/

theorem synchronizeInner_isTransitioning {playback : Playback} {counter : UInt64}
    {clock : ClockSnapshot} {monotonic : Nat} {forceDiscontinuity : Bool}
    (transitions : (playback.synchronizeInner counter clock monotonic
      forceDiscontinuity).1.isTransitioning = true) : playback.isTransitioning = true := by
  simp only [synchronizeInner, isTransitioning] at transitions ⊢
  split at transitions
  next =>
    simp only [reselect] at transitions
    split at transitions
    next => simp at transitions
    next => exact transitions
  next =>
    split at transitions
    next =>
      have settled := playback.settle_transition
      simp only [recover] at transitions
      split at transitions
      next => simp [queueDecode, settled] at transitions
      next => split at transitions <;> simp [queueDecode, settled] at transitions
    next =>
      simp only [retry] at transitions
      split at transitions <;> exact transitions

theorem advanceTransition_isTransitioning {playback : Playback} {monotonic : Nat}
    (transitions : (playback.advanceTransition monotonic).1.isTransitioning = true) :
    playback.isTransitioning = true := by
  simp only [advanceTransition] at transitions
  split at transitions
  next => exact transitions
  next transition isTransition => simp [isTransitioning, isTransition]

theorem adopt_isTransitioning {playback : Playback} {pending : PendingDecode} {frame : RgbaFrame}
    {monotonic maxBlendBytes : Nat} {storage : Option Nat}
    (transitions :
      (playback.adopt pending frame monotonic maxBlendBytes storage).1.isTransitioning = true) :
    (playback.adopt pending frame monotonic maxBlendBytes storage).2 = .transitioning := by
  simp only [adopt] at transitions ⊢
  split
  next previous startedAt isPresented starts =>
    simp only [isPresented, starts] at transitions
    split
    next shown => simp [shown, present, isTransitioning] at transitions
    next runs =>
      simp only [runs, Bool.false_eq_true, if_false] at transitions
      split
      next unblended => simp [unblended, present, isTransitioning] at transitions
      next blended isBlended =>
        simp only [isBlended] at transitions
        exact if_pos transitions
  next other => simp [present, isTransitioning] at transitions

theorem queuePrimaryFallback_transition (playback : Playback) (failedImage : ImageReference)
    (counter : UInt64) :
    (playback.queuePrimaryFallback failedImage counter).1.transition = playback.transition := by
  simp only [queuePrimaryFallback]
  split <;> rfl

theorem fail_isTransitioning (playback : Playback) (counter : UInt64) (image : ImageReference)
    (monotonic : Nat) :
    (playback.fail counter image monotonic).1.isTransitioning = playback.isTransitioning := by
  simp only [isTransitioning, fail, queuePrimaryFallback_transition]

/-- A completed decode that leaves a dissolve running says so, or left it running. -/
theorem completeDecode_isTransitioning {playback : Playback} {counter : UInt64}
    {request : DecodeRequest} {result : Option RgbaFrame} {monotonic : Nat} {storage : Option Nat}
    (transitions :
      (playback.completeDecode counter request result monotonic storage).1.isTransitioning = true) :
    (playback.completeDecode counter request result monotonic storage).2.2 = .transitioning ∨
      playback.isTransitioning = true := by
  simp only [completeDecode, completeDecodeWithLimit] at transitions ⊢
  split
  next isPending =>
    simp only [isPending] at transitions
    exact .inr transitions
  next pending isPending =>
    simp only [isPending] at transitions
    split
    next stale =>
      simp only [stale, if_true] at transitions
      exact .inr transitions
    next current =>
      simp only [current, Bool.false_eq_true, if_false] at transitions
      split
      next =>
        rw [fail_isTransitioning] at transitions
        exact .inr transitions
      next frame =>
        simp only at transitions
        split
        next invalid =>
          simp only [invalid, if_true] at transitions
          rw [fail_isTransitioning] at transitions
          exact .inr transitions
        next valid =>
          simp only [valid, Bool.false_eq_true, if_false] at transitions
          exact .inl (adopt_isTransitioning transitions)

end Genkan.DynamicWallpaper.Playback

namespace Genkan.DesktopWallpaper

open Foundations DynamicWallpaper

namespace Scheduler

theorem synchronizeNow_isTransitioning {scheduler : Scheduler} {counter : UInt64}
    {clock : ClockSnapshot} {monotonic : Nat} {discontinuity : Bool}
    (transitions : (scheduler.synchronizeNow counter clock monotonic
      discontinuity).1.playback.isTransitioning = true) :
    scheduler.playback.isTransitioning = true := by
  cases discontinuity with
  | false => exact Playback.synchronizeInner_isTransitioning transitions
  | true => exact Playback.synchronizeInner_isTransitioning transitions

theorem preparePresentation_isTransitioning {scheduler : Scheduler} {counter : UInt64}
    {clock : ClockSnapshot} {monotonic : Nat} {discontinuity : Bool}
    (transitions : (scheduler.preparePresentation counter clock monotonic
      discontinuity).1.playback.isTransitioning = true) :
    scheduler.playback.isTransitioning = true :=
  synchronizeNow_isTransitioning (Playback.advanceTransition_isTransitioning transitions)

theorem synchronizeIfDue_isTransitioning {scheduler : Scheduler} {counter : UInt64}
    {clock : ClockSnapshot} {monotonic : Nat}
    (transitions : (scheduler.synchronizeIfDue counter clock
      monotonic).1.playback.isTransitioning = true) : scheduler.playback.isTransitioning = true := by
  simp only [synchronizeIfDue] at transitions
  split at transitions
  next => exact transitions
  next => exact Playback.synchronizeInner_isTransitioning transitions

theorem synchronizeAndCompleteDecode_isTransitioning {scheduler : Scheduler} {counter : UInt64}
    {request : DecodeRequest} {result : Option RgbaFrame} {clock : ClockSnapshot} {monotonic : Nat}
    {discontinuity : Bool} {storage : Option Nat}
    (transitions : (scheduler.synchronizeAndCompleteDecode counter request result clock monotonic
      discontinuity storage).1.playback.isTransitioning = true) :
    (scheduler.synchronizeAndCompleteDecode counter request result clock monotonic discontinuity
      storage).2.2.1 = .transitioning ∨ scheduler.playback.isTransitioning = true := by
  cases Playback.completeDecode_isTransitioning transitions with
  | inl outcome => exact .inl outcome
  | inr before => exact .inr (preparePresentation_isTransitioning before)

theorem applySolarSchedule_isTransitioning {scheduler : Scheduler} {counter : UInt64}
    {points : TimePoints} {clock : ClockSnapshot} {monotonic : Nat}
    (transitions : (scheduler.applySolarSchedule counter points clock
      monotonic).1.playback.isTransitioning = true) : scheduler.playback.isTransitioning = true := by
  have before : Playback.isTransitioning
      { scheduler.playback with mode := .time (sortedTimePoints points) } = true := by
    apply Playback.synchronizeInner_isTransitioning
    exact transitions
  exact before

theorem takeDecodeRequest_isTransitioning (scheduler : Scheduler) :
    scheduler.takeDecodeRequest.1.playback.isTransitioning = scheduler.playback.isTransitioning := by
  simp only [takeDecodeRequest, Playback.takeDecodeRequest]
  split
  next => rfl
  next => split <;> rfl

end Scheduler

namespace Runtime

/-! ## The stages of a pass before the surfaces act -/

/-- The surfaces are untouched or all told to redraw, and told so if a dissolve starts. -/
structure Prepares (before after : Runtime) : Prop where
  surfaces : after.surfaces = before.surfaces ∨
    after.surfaces = before.surfaces.map Surface.playbackChanged
  starts : after.isTransitioning = true → before.isTransitioning = true ∨
    after.surfaces = before.surfaces.map Surface.playbackChanged
  layersCreated : after.layersCreated = before.layersCreated
  appearance : after.appearance = before.appearance
  scheduler : before.scheduler.isSome = true → after.scheduler.isSome = true

theorem Prepares.refl (runtime : Runtime) : runtime.Prepares runtime where
  surfaces := .inl rfl
  starts transitions := .inl transitions
  layersCreated := rfl
  appearance := rfl
  scheduler := id

theorem map_playbackChanged_idempotent (surfaces : List Surface) :
    (surfaces.map Surface.playbackChanged).map Surface.playbackChanged =
      surfaces.map Surface.playbackChanged := by
  rw [List.map_map]
  apply List.map_congr_left
  intro surface _
  simp [Surface.playbackChanged, PresentationState.playbackChanged_idempotent]

theorem Prepares.trans {first second third : Runtime} (prepares : first.Prepares second)
    (further : second.Prepares third) : first.Prepares third := by
  have told (later : third.surfaces = second.surfaces.map Surface.playbackChanged) :
      third.surfaces = first.surfaces.map Surface.playbackChanged := by
    cases prepares.surfaces with
    | inl same => rw [later, same]
    | inr changed => rw [later, changed, map_playbackChanged_idempotent]
  refine ⟨?_, ?_, further.layersCreated.trans prepares.layersCreated,
    further.appearance.trans prepares.appearance, fun isSome => further.scheduler (prepares.scheduler isSome)⟩
  · cases further.surfaces with
    | inl same => exact same ▸ prepares.surfaces
    | inr changed => exact .inr (told changed)
  · intro transitions
    cases further.starts transitions with
    | inr changed => exact .inr (told changed)
    | inl earlier =>
      cases prepares.starts earlier with
      | inl before => exact .inl before
      | inr changed =>
        cases further.surfaces with
        | inl same => exact .inr (same.trans changed)
        | inr toldAgain => exact .inr (told toldAgain)

theorem adopt_prepares {runtime : Runtime} {scheduler : Scheduler} {changed : Bool}
    (starts : scheduler.playback.isTransitioning = true →
      runtime.isTransitioning = true ∨ changed = true) (counter : UInt64) :
    runtime.Prepares (runtime.adopt scheduler counter changed) := by
  simp only [adopt]
  split
  next isChanged => exact ⟨.inr rfl, fun _ => .inr rfl, rfl, rfl, fun _ => rfl⟩
  next unchanged =>
    exact ⟨.inl rfl, fun transitions => .inl ((starts transitions).resolve_right unchanged), rfl, rfl,
      fun _ => rfl⟩

theorem dispatchDecode_prepares {runtime next : Runtime} {moment : Moment}
    (dispatches : runtime.dispatchDecode moment = .ok next) : runtime.Prepares next := by
  simp only [dispatchDecode] at dispatches
  split at dispatches
  next => exact Except.ok.inj dispatches ▸ .refl runtime
  next =>
    split at dispatches
    next => exact Except.ok.inj dispatches ▸ .refl runtime
    next scheduler isScheduler =>
      split at dispatches
      next => exact Except.ok.inj dispatches ▸ .refl runtime
      next taken request isTaken =>
        obtain ⟨decoder, _, isNext⟩ := Results.bind_eq_ok.mp dispatches
        rw [← Except.ok.inj isNext]
        refine ⟨.inl rfl, ?_, rfl, rfl, fun _ => rfl⟩
        intro transitions
        have same := scheduler.takeDecodeRequest_isTransitioning
        rw [isTaken] at same
        simp only [isTransitioning, Option.any_some, isScheduler] at transitions ⊢
        exact .inl (same ▸ transitions)

theorem adopt_dispatchDecode_prepares {runtime next : Runtime} {scheduler : Scheduler} {changed : Bool}
    {counter : UInt64} {moment : Moment}
    (starts : scheduler.playback.isTransitioning = true →
      runtime.isTransitioning = true ∨ changed = true)
    (dispatches : (runtime.adopt scheduler counter changed).dispatchDecode moment = .ok next) :
    runtime.Prepares next :=
  (adopt_prepares starts counter).trans (dispatchDecode_prepares dispatches)

theorem isTransitioning_of_scheduler {runtime : Runtime} {scheduler : Scheduler}
    (isScheduler : runtime.scheduler = some scheduler) :
    runtime.isTransitioning = scheduler.playback.isTransitioning := by
  simp [isTransitioning, isScheduler]

theorem synchronizeDue_prepares {runtime next : Runtime} {moment : Moment}
    (synchronizes : runtime.synchronizeDue moment = .ok next) : runtime.Prepares next := by
  simp only [synchronizeDue] at synchronizes
  split at synchronizes
  next => exact Except.ok.inj synchronizes ▸ .refl runtime
  next scheduler isScheduler =>
    split at synchronizes
    next =>
      obtain ⟨clock, _, dispatches⟩ := Results.bind_eq_ok.mp synchronizes
      refine adopt_dispatchDecode_prepares ?_ dispatches
      intro transitions
      rw [isTransitioning_of_scheduler isScheduler]
      exact .inl (Scheduler.synchronizeIfDue_isTransitioning transitions)
    next => exact Except.ok.inj synchronizes ▸ .refl runtime

theorem synchronizeNow_prepares {runtime next : Runtime} {moment : Moment}
    (synchronizes : runtime.synchronizeNow moment = .ok next) : runtime.Prepares next := by
  obtain ⟨clock, _, dispatches⟩ := Results.bind_eq_ok.mp synchronizes
  simp only at dispatches
  split at dispatches
  next => exact dispatchDecode_prepares dispatches
  next scheduler isScheduler =>
    refine adopt_dispatchDecode_prepares ?_ dispatches
    intro transitions
    rw [isTransitioning_of_scheduler isScheduler]
    exact .inl (Scheduler.synchronizeNow_isTransitioning transitions)

theorem synchronize_prepares {runtime next : Runtime} {moment : Moment}
    (synchronizes : runtime.synchronize moment = .ok next) : runtime.Prepares next := by
  simp only [synchronize] at synchronizes
  split at synchronizes
  next =>
    have prepares := synchronizeNow_prepares synchronizes
    exact ⟨prepares.surfaces, prepares.starts, prepares.layersCreated, prepares.appearance,
      prepares.scheduler⟩
  next => exact synchronizeDue_prepares synchronizes

/-- The only stage in which a dissolve can start. -/
theorem handleResult_prepares {runtime next : Runtime} {input : PassInput} {result : WorkerResult}
    (handles : runtime.handleResult input result = .ok next) : runtime.Prepares next := by
  cases result with
  | initialized metadata primary =>
    obtain ⟨clock, _, dispatches⟩ := Results.bind_eq_ok.mp handles
    refine adopt_dispatchDecode_prepares ?_ dispatches
    intro transitions
    simp [Scheduler.new, Playback.isTransitioning] at transitions
  | initializationFailed => exact Except.ok.inj handles ▸ .refl runtime
  | decoded request frame =>
    obtain ⟨clock, _, completes⟩ := Results.bind_eq_ok.mp handles
    simp only at completes
    split at completes
    next => cases completes
    next scheduler isScheduler =>
      refine adopt_dispatchDecode_prepares ?_ completes
      intro transitions
      rw [isTransitioning_of_scheduler isScheduler]
      cases Scheduler.synchronizeAndCompleteDecode_isTransitioning transitions with
      | inl outcome => exact .inr (by simp [outcome])
      | inr before => exact .inl before

theorem receive_prepares {runtime next : Runtime} {input : PassInput}
    (receives : runtime.receive input = .ok next) : runtime.Prepares next := by
  obtain ⟨⟨decoder, received⟩, _, continues⟩ := Results.bind_eq_ok.mp receives
  cases received with
  | none =>
    rw [← Except.ok.inj continues]
    exact ⟨.inl rfl, .inl, rfl, rfl, id⟩
  | some result =>
    have prepares := handleResult_prepares continues
    exact ⟨prepares.surfaces, prepares.starts, prepares.layersCreated, prepares.appearance,
      prepares.scheduler⟩

theorem installSolarMapping_prepares {runtime next : Runtime} {install : Moment × Option TimePoints}
    (installs : runtime.installSolarMapping install = .ok next) : runtime.Prepares next := by
  obtain ⟨clock, _, continues⟩ := Results.bind_eq_ok.mp installs
  split at continues
  next => exact Except.ok.inj continues ▸ .refl runtime
  next => exact dispatchDecode_prepares continues
  next points scheduler _ isScheduler =>
    refine adopt_dispatchDecode_prepares ?_ continues
    intro transitions
    rw [isTransitioning_of_scheduler isScheduler]
    exact .inl (Scheduler.applySolarSchedule_isTransitioning transitions)

theorem preparePresentation_prepares {runtime next : Runtime} {moment : Moment}
    (prepares : runtime.preparePresentation moment = .ok next) : runtime.Prepares next := by
  simp only [preparePresentation] at prepares
  split at prepares
  next => exact Except.ok.inj prepares ▸ .refl runtime
  next scheduler isScheduler =>
    split at prepares
    next =>
      obtain ⟨clock, _, dispatches⟩ := Results.bind_eq_ok.mp prepares
      refine adopt_dispatchDecode_prepares ?_ dispatches
      intro transitions
      rw [isTransitioning_of_scheduler isScheduler]
      exact .inl (Scheduler.preparePresentation_isTransitioning transitions)
    next => exact Except.ok.inj prepares ▸ .refl runtime

/-- A pass prepares, and then the surfaces act. -/
theorem maintain_spec {runtime : Runtime} {input : PassInput} {result : Runtime × List Nat}
    (maintains : runtime.maintain input = .ok result) :
    ∃ prepared, runtime.Prepares prepared ∧ prepared.present input = result := by
  obtain ⟨synchronized, synchronizes, maintains⟩ := Results.bind_eq_ok.mp maintains
  obtain ⟨received, receives, maintains⟩ := Results.bind_eq_ok.mp maintains
  obtain ⟨scheduled, schedules, maintains⟩ := Results.bind_eq_ok.mp maintains
  obtain ⟨prepared, prepares, presents⟩ := Results.bind_eq_ok.mp maintains
  refine ⟨prepared, ?_, Except.ok.inj presents⟩
  have solar : received.Prepares scheduled := Results.foldlM_related Prepares .refl
    (fun _ _ _ => .trans) (fun _ _ _ => installSolarMapping_prepares) input.solar schedules
  exact (synchronize_prepares synchronizes).trans ((receive_prepares receives).trans
    (solar.trans (preparePresentation_prepares prepares)))

end Runtime

end Genkan.DesktopWallpaper
