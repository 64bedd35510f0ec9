import Genkan.DynamicWallpaper.Structure
import Genkan.DynamicWallpaper.WakeDelay

/-! # Reports of a changed presentation

The functions of the playback that swap the frame on screen report whether its pixels change.  The
reports are exact, and without one the frame keeps its dimensions too.
-/

namespace Genkan.DynamicWallpaper

/-- The frame without the allocation behind it, as the equality of the source compares it. -/
def RgbaFrame.content (frame : RgbaFrame) : Nat × Nat × List UInt8 :=
  (frame.width, frame.height, frame.pixels)

/-- The outcome puts a frame on screen. -/
def DecodeOutcome.shows : DecodeOutcome → Bool
  | .presented => true
  | .transitioning => true
  | .ignored => false
  | .failed => false
  | .rejected => false

namespace Playback

/-- The pixels on screen. -/
def pixels (playback : Playback) : Option (List UInt8) := playback.frame.map (·.pixels)

/-- The frame on screen without its allocation. -/
def content (playback : Playback) : Option (Nat × Nat × List UInt8) := playback.frame.map (·.content)

/-- The report says whether the pixels on screen change, and unless they do the frame stays. -/
structure Reported (playback next : Playback) (changed : Bool) : Prop where
  exact : changed = true ↔ playback.pixels ≠ next.pixels
  same : playback.Structured → changed = false → next.content = playback.content

theorem reported_of_frame {playback next : Playback} (same : next.frame = playback.frame) :
    playback.Reported next false where
  exact := by simp [pixels, same]
  same := by simp [content, same]

/-- One frame takes the place of another of its size. -/
theorem reported_of_frames {playback next : Playback} {before after : RgbaFrame} {changed : Bool}
    (isBefore : playback.frame = some before) (isAfter : next.frame = some after)
    (exact : changed = true ↔ before.pixels ≠ after.pixels)
    (size : playback.Structured → sameDimensions before after = true) : playback.Reported next changed where
  exact := by
    simpa only [pixels, isBefore, isAfter, Option.map_some, ne_eq, Option.some.injEq] using exact
  same := by
    intro structured unchanged
    have pixels : before.pixels = after.pixels := by simpa [unchanged] using exact
    have dimensions := size structured
    simp only [sameDimensions, Bool.and_eq_true, beq_iff_eq] at dimensions
    simp only [content, isBefore, isAfter, Option.map_some, RgbaFrame.content, pixels, dimensions]

theorem settle_reported (playback : Playback) : playback.Reported playback.settle.1 playback.settle.2 := by
  cases isTransition : playback.transition with
  | none =>
    simp only [settle, isTransition]
    exact reported_of_frame rfl
  | some transition =>
    simp only [settle, isTransition]
    refine @reported_of_frames _ _ transition.blend transition.toFrame _ ?_ rfl (by simp) ?_
    · simp [frame, isTransition]
    · intro structured
      exact (structured.dimensions transition isTransition).2

theorem advanceTransition_reported (playback : Playback) (monotonic : Nat) :
    playback.Reported (playback.advanceTransition monotonic).1 (playback.advanceTransition monotonic).2 := by
  cases isTransition : playback.transition with
  | none =>
    simp only [advanceTransition, isTransition]
    exact reported_of_frame rfl
  | some transition =>
    simp only [advanceTransition, isTransition]
    split
    next => exact playback.settle_reported
    next =>
      generalize min (min ((monotonic - transition.startedAt) * 256) (2 ^ 128 - 1) / dissolveDuration) 256 =
        weight
      have exact := blendPixels_changed weight transition.blend.pixels transition.fromFrame.pixels
        transition.toFrame.pixels
      refine @reported_of_frames _ _ transition.blend
        (blendInto transition.fromFrame transition.toFrame transition.blend weight).1 _ ?_ rfl exact ?_
      · simp [frame, isTransition]
      · intro _
        simp [sameDimensions, blendInto]

theorem reselect_frame (playback : Playback) (counter : UInt64) (selection : ImageReference)
    (clock : ClockSnapshot) (monotonic : Nat) (discontinuity : Bool) :
    (playback.reselect counter selection clock monotonic discontinuity).frame = playback.frame := by
  cases isTransition : playback.transition with
  | none => simp only [reselect, frame, isTransition]
  | some transition => simp [reselect, frame, isTransition]

theorem retry_frame (playback : Playback) (counter : UInt64) (selection : ImageReference)
    (clock : ClockSnapshot) (monotonic : Nat) :
    (playback.retry counter selection clock monotonic).1.frame = playback.frame := by
  simp only [retry]
  split <;> rfl

theorem recover_frame (playback : Playback) (counter : UInt64) (selection : ImageReference)
    (monotonic : Nat) :
    (playback.recover counter selection monotonic).1.frame = playback.settle.1.frame ∧
      (playback.recover counter selection monotonic).2.2 = playback.settle.2 := by
  simp only [recover]
  split
  next => exact ⟨rfl, rfl⟩
  next =>
    split
    next => exact ⟨rfl, rfl⟩
    next => exact ⟨rfl, rfl⟩

theorem Reported.of_frame {playback next other : Playback} {changed : Bool}
    (reported : playback.Reported next changed) (same : other.frame = next.frame) :
    playback.Reported other changed where
  exact := by simpa only [pixels, same] using reported.exact
  same := by simpa only [content, same] using reported.same

theorem synchronizeInner_reported (playback : Playback) (counter : UInt64) (clock : ClockSnapshot)
    (monotonic : Nat) (forceDiscontinuity : Bool) :
    let result := playback.synchronizeInner counter clock monotonic forceDiscontinuity
    playback.Reported result.1 result.2.2.presentationChanged := by
  simp only [synchronizeInner]
  split
  next =>
    have same := playback.reselect_frame counter (playback.selection clock) clock monotonic
      (forceDiscontinuity || clockDiscontinuity playback.lastClock playback.lastMonotonic clock monotonic)
    exact reported_of_frame same
  next =>
    split
    next =>
      obtain ⟨isFrame, isChanged⟩ :=
        playback.recover_frame counter (playback.selection clock) monotonic
      rw [isChanged]
      exact playback.settle_reported.of_frame isFrame
    next =>
      apply reported_of_frame
      exact playback.retry_frame counter _ clock monotonic

theorem synchronized_reported (playback : Playback) (counter : UInt64) (clock : ClockSnapshot)
    (monotonic : Nat) (synchronization : Synchronization) :
    let result := playback.synchronized counter clock monotonic synchronization
    playback.Reported result.1 result.2.2.presentationChanged := by
  cases synchronization with
  | synchronize => exact playback.synchronizeInner_reported counter clock monotonic false
  | resynchronizeAfterDiscontinuity =>
    exact playback.synchronizeInner_reported counter clock monotonic true
  | setSolarSchedule points =>
    have reported := synchronizeInner_reported { playback with mode := .time (sortedTimePoints points) }
      counter clock monotonic false
    exact ⟨reported.exact, fun structured => reported.same { structured with }⟩

/-! ## Completed decodes -/

theorem takeDecodeRequest_frame (playback : Playback) :
    playback.takeDecodeRequest.1.frame = playback.frame := by
  simp only [takeDecodeRequest]
  split
  next => rfl
  next => split <;> rfl

theorem queuePrimaryFallback_frame (playback : Playback) (image : ImageReference) (counter : UInt64) :
    (playback.queuePrimaryFallback image counter).1.frame = playback.frame := by
  simp only [queuePrimaryFallback]
  split <;> rfl

theorem frame_of_retry (playback : Playback) (retry : Option Nat) :
    { playback with retryNotBefore := retry }.frame = playback.frame := rfl

theorem fail_frame (playback : Playback) (counter : UInt64) (image : ImageReference) (monotonic : Nat) :
    (playback.fail counter image monotonic).1.frame = playback.frame := by
  rw [fail, queuePrimaryFallback_frame, frame_of_retry]

theorem completeDecode_frame {playback : Playback} {counter : UInt64} {request : DecodeRequest}
    {result : Option RgbaFrame} {monotonic : Nat} {storage : Option Nat}
    (hidden : (playback.completeDecode counter request result monotonic storage).2.2.shows = false) :
    (playback.completeDecode counter request result monotonic storage).1.frame = playback.frame := by
  have adopts : ∀ playback pending frame,
      (Playback.adopt playback pending frame monotonic maxFrameBytes storage).2.shows = true := by
    intro playback pending frame
    simp only [adopt]
    split
    next =>
      split
      next => rfl
      next =>
        split
        next => rfl
        next => split <;> rfl
    next => rfl
  simp only [completeDecode, completeDecodeWithLimit] at hidden ⊢
  split
  next => rfl
  next pending isPending =>
    simp only [isPending] at hidden
    split
    next => rfl
    next matching =>
      rw [if_neg matching] at hidden
      cases result with
      | none => exact fail_frame { playback with pending := none } counter request.image monotonic
      | some frame =>
        dsimp only at hidden ⊢
        split
        next => exact fail_frame { playback with pending := none } counter request.image monotonic
        next valid =>
          rw [if_neg valid, adopts] at hidden
          contradiction

end Playback

end Genkan.DynamicWallpaper
