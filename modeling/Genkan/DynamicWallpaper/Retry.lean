import Genkan.DynamicWallpaper.Structure

/-! # A selection is never stranded

While the image on screen is not the selected one, something is under way: a decode, a dissolve to
the selected image, or a retry.  The invariant that carries this is `Awake`: a decode of another
image, the fallback to the primary one, leaves the retry of the selected image planned.
-/

namespace Genkan.DynamicWallpaper

open Foundations

namespace Playback

structure Awake (playback : Playback) : Prop where
  underway : playback.presentedImage = some playback.selected ∨ playback.pending.isSome = true ∨
    playback.transition.isSome = true ∨ playback.retryNotBefore.isSome = true
  fallback : ∀ pending, playback.pending = some pending →
    pending.request.image = playback.selected ∨ playback.retryNotBefore.isSome = true

theorem awake_of_selected {playback : Playback} {pending : PendingDecode}
    (isPending : playback.pending = some pending)
    (chosen : pending.request.image = playback.selected) : playback.Awake where
  underway := .inr (.inl (by simp [isPending]))
  fallback other isOther := by
    cases isPending.symm.trans isOther
    exact .inl chosen

theorem Awake.failed {playback : Playback} {pending : PendingDecode} (counter : UInt64)
    {retry : Option Nat} (retries : retry.isSome = true) :
    ({ playback with pending := none, retryNotBefore := retry }.queuePrimaryFallback
      pending.request.image counter).1.Awake := by
  simp only [queuePrimaryFallback]
  split
  next => exact ⟨.inr (.inr (.inr retries)), fun _ _ => .inr retries⟩
  next => exact ⟨.inr (.inl rfl), fun _ _ => .inr retries⟩

/-- A decode that succeeds shows the selected image or leaves the retry planned. -/
theorem Awake.presented {playback : Playback} (awake : playback.Awake) {pending : PendingDecode}
    (isPending : playback.pending = some pending) (frame : RgbaFrame) :
    ((playback.completed pending.request.image).present frame pending.request.image).Awake := by
  refine ⟨?_, by simp [completed, present]⟩
  by_cases chosen : pending.request.image = playback.selected
  · exact .inl (congrArg some chosen)
  · have planned := (awake.fallback pending isPending).resolve_left chosen
    exact .inr (.inr (.inr (by simpa [completed, present, chosen] using planned)))

theorem Awake.changed {playback next : Playback} (awake : playback.Awake)
    (structured : playback.Structured) (change : Change (·.isSome = true) playback next) :
    next.Awake := by
  cases change with
  | clocked clock monotonic => exact { awake with }
  | rescheduled points => exact { awake with }
  | dispatched isPending =>
    refine ⟨.inr (.inl rfl), ?_⟩
    intro pending isDispatched
    cases isDispatched
    have chosen := awake.fallback _ isPending
    exact chosen
  | reselected counter selection clock monotonic discontinuity =>
    exact awake_of_selected rfl rfl
  | settled =>
    simp only [settle]
    split
    next transition isTransition =>
      have target := structured.target transition isTransition
      have idle := structured.pending (by simp [isTransition])
      exact ⟨.inl (congrArg some target), by simp [idle]⟩
    next => exact awake
  | requeued counter startedAt retry settled => exact awake_of_selected rfl rfl
  | failed counter retry isPending retries => exact Awake.failed counter retries
  | presented isPending valid => exact awake.presented isPending _
  | began isPending valid isPresented starts same blends =>
    exact ⟨.inr (.inr (.inl rfl)), by simp⟩
  | blended bound isTransition => exact ⟨.inr (.inr (.inl rfl)), awake.fallback⟩

theorem withSolar_awake (metadata : Metadata) (primary : ImageReference)
    (appearance : AppearancePreference) (clock : ClockSnapshot) (monotonic : Nat)
    (reducedMotion : Bool) (solar : Option TimePoints) (counter : UInt64) :
    (withSolar metadata primary appearance clock monotonic reducedMotion solar counter).1.Awake :=
  awake_of_selected rfl rfl

theorem Awake.handled {playback : Playback} (awake : playback.Awake)
    (structured : playback.Structured) (counter : UInt64) {call : PlaybackCall}
    (schedulable : call.Schedulable) : (playback.handle counter call).1.Awake := by
  have changes : Changes (·.isSome = true) playback (playback.handle counter call).1 := by
    apply playback.handle_changes
    intro request result monotonic storage isCall
    subst isCall
    rw [Duration.checkedAdd_of_lt schedulable]
    rfl
  have holds := changes.keeps (fun playback => playback.Structured ∧ playback.Awake)
    (fun _ _ holds change => ⟨holds.1.changed change, holds.2.changed holds.1 change⟩)
    ⟨structured, awake⟩
  exact holds.2

/-! ## Waking up for a retry -/

/-- Nothing but a retry will present the selected image. -/
structure Stranded (playback : Playback) : Prop where
  pending : playback.pending = none
  transition : playback.transition = none
  elsewhere : playback.presentedImage ≠ some playback.selected

theorem foldl_min_le (delays : List Nat) (start : Nat) : delays.foldl min start ≤ start := by
  induction delays generalizing start with
  | nil => exact Nat.le_refl _
  | cons delay delays inductionHypothesis =>
    exact Nat.le_trans (inductionHypothesis _) (Nat.min_le_left _ _)

theorem foldl_min_le_of_mem {delays : List Nat} {delay : Nat} (member : delay ∈ delays)
    (start : Nat) : delays.foldl min start ≤ delay := by
  induction delays generalizing start with
  | nil => simp at member
  | cons first delays inductionHypothesis =>
    cases member with
    | head => exact Nat.le_trans (foldl_min_le delays _) (Nat.min_le_right _ _)
    | tail _ later => exact inductionHypothesis later _

theorem Stranded.nextWake {playback : Playback} (stranded : playback.Stranded) {deadline : Nat}
    (retries : playback.retryNotBefore = some deadline) (clock : ClockSnapshot) (monotonic : Nat) :
    ∃ delay, playback.nextWake clock monotonic = some delay ∧ delay ≤ resynchronizeAfter ∧
      delay ≤ deadline - monotonic := by
  have retry : playback.nextRetry monotonic = some (deadline - monotonic) := by
    simp [nextRetry, stranded.pending, stranded.transition, stranded.elsewhere, retries]
  refine ⟨((playback.nextBoundary clock).toList ++ [deadline - monotonic]).foldl min
    resynchronizeAfter, ?_, foldl_min_le _ _, foldl_min_le_of_mem (by simp) _⟩
  simp [Playback.nextWake, retry]

theorem Stranded.synchronize {playback : Playback} (stranded : playback.Stranded) {monotonic : Nat}
    (due : playback.retryDue monotonic = true) (counter : UInt64) (clock : ClockSnapshot) :
    ∃ pending, (playback.synchronize counter clock monotonic).1.pending = some pending ∧
      pending.request.image = (playback.synchronize counter clock monotonic).1.selected ∧
      pending.dispatched = false := by
  have settles : playback.settle = (playback, false) := by simp [settle, stranded.transition]
  simp only [Playback.synchronize, synchronizeInner]
  split
  next => exact ⟨_, rfl, rfl, rfl⟩
  next unchanged =>
    have same : playback.selection clock = playback.selected := by simpa using unchanged
    rw [same]
    split
    next =>
      simp only [recover, settles, stranded.pending, stranded.elsewhere, due, Option.any_none,
        Option.isNone_none, bne_iff_ne, ne_eq, not_false_eq_true, Bool.and_true, Bool.true_and,
        Bool.false_eq_true, if_true, if_false]
      exact ⟨_, rfl, rfl, rfl⟩
    next =>
      simp only [retry, stranded.pending, stranded.transition, stranded.elsewhere, due,
        Option.isNone_none, bne_iff_ne, ne_eq, not_false_eq_true, Bool.and_true, Bool.true_and, if_true]
      exact ⟨_, rfl, rfl, rfl⟩

end Playback

theorem playback_awake (run : playbackSystem.Run)
    (schedulable : run.Meets fun _ label => label.2.Schedulable) (index : Nat)
    (bound : index ≤ run.length) :
    (run.state index).Structured ∧ (run.state index).Awake := by
  refine run.invariant_of_meets schedulable (fun playback => playback.Structured ∧ playback.Awake)
    ?_ ?_ index bound
  · rintro _ ⟨metadata, primary, appearance, clock, monotonic, reducedMotion, solar, counter, rfl⟩
    exact ⟨Playback.withSolar_structured metadata primary appearance clock monotonic reducedMotion
        solar counter,
      Playback.withSolar_awake metadata primary appearance clock monotonic reducedMotion solar counter⟩
  · rintro before ⟨counter, call⟩ _ ⟨structured, awake⟩ schedulable rfl
    exact ⟨structured.handled counter call, awake.handled structured counter schedulable⟩

/-- While the image on screen is not the selected one, a decode is pending, a dissolve to the
selected image is running, or a retry is planned: then the scheduler is asked to wake up within a
minute and by the deadline, and synchronizing from then on queues a decode of the selection. -/
theorem selection_not_stranded (run : playbackSystem.Run)
    (schedulable : run.Meets fun _ label => label.2.Schedulable) {index : Nat}
    (bound : index ≤ run.length)
    (elsewhere : (run.state index).presentedImage ≠ some (run.state index).selected) :
    (run.state index).pending.isSome = true ∨
    (∃ transition, (run.state index).transition = some transition ∧
      transition.toImage = (run.state index).selected) ∨
    ∃ deadline, (run.state index).retryNotBefore = some deadline ∧
      (∀ clock monotonic, ∃ delay, (run.state index).nextWake clock monotonic = some delay ∧
        delay ≤ Duration.fromSecs 60 ∧ delay ≤ deadline - monotonic) ∧
      ∀ counter clock monotonic, deadline ≤ monotonic → ∃ pending,
        ((run.state index).synchronize counter clock monotonic).1.pending = some pending ∧
        pending.request.image = ((run.state index).synchronize counter clock monotonic).1.selected ∧
        pending.dispatched = false := by
  obtain ⟨structured, awake⟩ := playback_awake run schedulable index bound
  cases isPending : (run.state index).pending with
  | some pending => exact .inl rfl
  | none =>
    right
    cases isTransition : (run.state index).transition with
    | some transition => exact .inl ⟨transition, rfl, structured.target transition isTransition⟩
    | none =>
      right
      have stranded : (run.state index).Stranded := ⟨isPending, isTransition, elsewhere⟩
      have planned : (run.state index).retryNotBefore.isSome = true := by
        simpa [elsewhere, isPending, isTransition] using awake.underway
      obtain ⟨deadline, isDeadline⟩ := Option.isSome_iff_exists.mp planned
      refine ⟨deadline, isDeadline, stranded.nextWake isDeadline, ?_⟩
      intro counter clock monotonic due
      exact stranded.synchronize (by simp [Playback.retryDue, isDeadline, due]) counter clock

/-! ## A dark image that cannot be decoded -/

def darkMetadata : Metadata where
  appearance := .valid { light := ⟨1⟩, dark := ⟨2⟩ }

/-- The decode of the dark image fails, and the primary image is shown in its place. -/
def fallbackCalls : List (UInt64 × PlaybackCall) :=
  [(1, .takeDecodeRequest), (1, .completeDecode ⟨0, ⟨2⟩⟩ none 0 none), (2, .takeDecodeRequest),
    (2, .completeDecode ⟨1, ⟨0⟩⟩ (some (sampleFrame 10)) 0 none)]

def darkPlayback : Playback :=
  (Playback.withSolar darkMetadata ⟨0⟩ .dark (sampleClock 12 0 noon_valid) 0 false none 0).1

theorem darkPlayback_starts : darkPlayback.Starts := ⟨_, _, _, _, _, _, _, _, rfl⟩

def fallbackRun : playbackSystem.Run :=
  TransitionSystem.totalRun Playback.Starts Playback.step darkPlayback darkPlayback_starts fallbackCalls

theorem fallbackRun_schedulable : fallbackRun.Meets fun _ label => label.2.Schedulable := by
  apply TransitionSystem.totalRun_meets
  simp [fallbackCalls, PlaybackCall.Schedulable, resynchronizeAfter, Duration.limit,
    Duration.fromSecs, Duration.nanosecondsPerSecond]

theorem selection_not_stranded_sample :
    (fallbackRun.state 4).pending.isSome = true ∨
    (∃ transition, (fallbackRun.state 4).transition = some transition ∧
      transition.toImage = (fallbackRun.state 4).selected) ∨
    ∃ deadline, (fallbackRun.state 4).retryNotBefore = some deadline ∧
      (∀ clock monotonic, ∃ delay, (fallbackRun.state 4).nextWake clock monotonic = some delay ∧
        delay ≤ Duration.fromSecs 60 ∧ delay ≤ deadline - monotonic) ∧
      ∀ counter clock monotonic, deadline ≤ monotonic → ∃ pending,
        ((fallbackRun.state 4).synchronize counter clock monotonic).1.pending = some pending ∧
        pending.request.image = ((fallbackRun.state 4).synchronize counter clock monotonic).1.selected ∧
        pending.dispatched = false :=
  selection_not_stranded fallbackRun fallbackRun_schedulable (show 4 ≤ fallbackRun.length from Nat.le_refl 4)
    (by decide +kernel)

end Genkan.DynamicWallpaper
