import Mathlib.Logic.Relation
import Genkan.DynamicWallpaper.Playback
import Genkan.Foundations.TransitionSystem

/-! # What a call of a playback can change

Every function of the playback is a sequence of the elementary changes below, so an invariant of
the changes is an invariant of every run.
-/

namespace Genkan.DynamicWallpaper

open Foundations

namespace Playback

/-- The elementary changes.  `Retries` says which retry deadlines a failed decode may leave. -/
inductive Change (Retries : Option Nat → Prop) : Playback → Playback → Prop
  | clocked (playback : Playback) (clock : ClockSnapshot) (monotonic : Nat) :
      Change Retries playback { playback with lastClock := clock, lastMonotonic := monotonic }
  | rescheduled (playback : Playback) (points : TimePoints) :
      Change Retries playback { playback with mode := .time points }
  | dispatched (playback : Playback) {pending : PendingDecode}
      (isPending : playback.pending = some pending) :
      Change Retries playback { playback with pending := some { pending with dispatched := true } }
  | reselected (playback : Playback) (counter : UInt64) (selection : ImageReference)
      (clock : ClockSnapshot) (monotonic : Nat) (discontinuity : Bool) :
      Change Retries playback
        (playback.reselect counter selection clock monotonic discontinuity)
  | settled (playback : Playback) : Change Retries playback playback.settle.1
  | requeued (playback : Playback) (counter : UInt64) (startedAt retry : Option Nat)
      (settled : playback.transition = none) :
      Change Retries playback
        { playback.queueDecode counter playback.selected startedAt with retryNotBefore := retry }
  | failed (playback : Playback) {pending : PendingDecode} (counter : UInt64) (retry : Option Nat)
      (isPending : playback.pending = some pending) (retries : Retries retry) :
      Change Retries playback
        ({ playback with pending := none, retryNotBefore := retry }.queuePrimaryFallback
          pending.request.image counter).1
  | presented (playback : Playback) {pending : PendingDecode} {frame : RgbaFrame}
      (isPending : playback.pending = some pending) (valid : validFrame frame = true) :
      Change Retries playback
        ({ playback with
          pending := none
          retryNotBefore := if pending.request.image = playback.selected then none
            else playback.retryNotBefore }.present frame pending.request.image)
  | began (playback : Playback) {pending : PendingDecode} {frame previous blended : RgbaFrame}
      {startedAt : Nat} {maxBlendBytes : Nat} {storage : Option Nat}
      (isPending : playback.pending = some pending) (valid : validFrame frame = true)
      (isPresented : playback.presented = some previous)
      (starts : pending.transitionStartedAt = some startedAt)
      (same : sameDimensions previous frame = true)
      (blends : blend previous frame 0 maxBlendBytes storage = some blended) :
      Change Retries playback
        { playback with
          pending := none
          retryNotBefore := if pending.request.image = playback.selected then none
            else playback.retryNotBefore
          presented := none
          presentedImage := none
          transition := some
            { fromFrame := previous
              toFrame := frame
              blend := blended
              toImage := pending.request.image
              startedAt := startedAt } }
  | blended (playback : Playback) {transition : Transition} {weight : Nat} (bound : weight ≤ 256)
      (isTransition : playback.transition = some transition) :
      Change Retries playback
        { playback with
          transition := some
            { transition with
              blend := (blendInto transition.fromFrame transition.toFrame transition.blend weight).1 } }

abbrev Changes (Retries : Option Nat → Prop) : Playback → Playback → Prop :=
  Relation.ReflTransGen (Change Retries)

/-- The induction rule for a sequence of changes. -/
theorem Changes.keeps {Retries : Option Nat → Prop} (property : Playback → Prop)
    {playback next : Playback} (changes : Changes Retries playback next)
    (preserved : ∀ before after, property before → Change Retries before after → property after)
    (holds : property playback) : property next := by
  induction changes with
  | refl => exact holds
  | tail _ change inductionHypothesis => exact preserved _ _ inductionHypothesis change

/-! ## The functions of the playback are sequences of changes -/

variable {Retries : Option Nat → Prop}

theorem takeDecodeRequest_changes (playback : Playback) :
    Changes Retries playback playback.takeDecodeRequest.1 := by
  simp only [takeDecodeRequest]
  split
  next => exact .refl
  next pending isPending =>
    split
    next => exact .refl
    next => exact .single (.dispatched playback isPending)

theorem settle_transition (playback : Playback) : playback.settle.1.transition = none := by
  simp only [settle]
  split
  next => rfl
  next settled => exact settled

theorem settle_selected (playback : Playback) : playback.settle.1.selected = playback.selected := by
  simp only [settle]
  split <;> rfl

theorem recover_changes (playback : Playback) (counter : UInt64) (monotonic : Nat) :
    Changes Retries playback (playback.recover counter playback.selected monotonic).1 := by
  have settles : Changes Retries playback playback.settle.1 := .single (.settled playback)
  have requeue (retry : Option Nat) : Change Retries playback.settle.1
      { playback.settle.1.queueDecode counter playback.selected none with retryNotBefore := retry } := by
    rw [← settle_selected playback]
    exact .requeued playback.settle.1 counter none retry (settle_transition playback)
  simp only [recover]
  split
  next => exact settles.tail (requeue playback.settle.1.retryNotBefore)
  next =>
    split
    next => exact settles.tail (requeue none)
    next => exact settles

theorem retry_changes (playback : Playback) (counter : UInt64) (clock : ClockSnapshot)
    (monotonic : Nat) :
    Changes Retries playback (playback.retry counter playback.selected clock monotonic).1 := by
  simp only [retry]
  split
  next due =>
    simp only [Bool.and_eq_true, Option.isNone_iff_eq_none] at due
    exact .single (.requeued playback counter _ none due.1.1.2)
  next => exact .refl

theorem synchronizeInner_changes (playback : Playback) (counter : UInt64) (clock : ClockSnapshot)
    (monotonic : Nat) (forceDiscontinuity : Bool) :
    Changes Retries playback
      (playback.synchronizeInner counter clock monotonic forceDiscontinuity).1 := by
  simp only [synchronizeInner]
  refine .tail ?_ (.clocked _ clock monotonic)
  split
  next => exact .single (.reselected playback counter _ clock monotonic _)
  next unchanged =>
    have same : playback.selection clock = playback.selected := by simpa using unchanged
    rw [same]
    split
    next => exact recover_changes playback counter monotonic
    next => exact retry_changes playback counter clock monotonic

theorem setSolarSchedule_changes (playback : Playback) (counter : UInt64) (points : TimePoints)
    (clock : ClockSnapshot) (monotonic : Nat) :
    Changes Retries playback (playback.setSolarSchedule counter points clock monotonic).1 :=
  .head (.rescheduled playback (sortedTimePoints points))
    (synchronizeInner_changes _ counter clock monotonic false)

theorem advanceTransition_changes (playback : Playback) (monotonic : Nat) :
    Changes Retries playback (playback.advanceTransition monotonic).1 := by
  simp only [advanceTransition]
  split
  next => exact .refl
  next transition isTransition =>
    split
    next => exact .single (.settled playback)
    next => exact .single (.blended playback (Nat.min_le_right _ _) isTransition)

/-- The state in which a completed decode is shown: nothing is pending and, if the image is the
selected one, no retry is planned. -/
def completed (playback : Playback) (image : ImageReference) : Playback :=
  { playback with
    pending := none
    retryNotBefore := if image = playback.selected then none else playback.retryNotBefore }

theorem adopt_changes (playback : Playback) {pending : PendingDecode} {frame : RgbaFrame}
    (monotonic maxBlendBytes : Nat) (storage : Option Nat)
    (isPending : playback.pending = some pending) (valid : validFrame frame = true) :
    Changes Retries playback ((playback.completed pending.request.image).adopt pending frame monotonic
      maxBlendBytes storage).1 := by
  have shown : Changes Retries playback ((playback.completed pending.request.image).present frame
      pending.request.image) := .single (.presented playback isPending valid)
  simp only [adopt]
  split
  next previous startedAt isPresented starts =>
    split
    next => exact shown
    next meets =>
      simp only [Bool.or_eq_true, Bool.not_eq_true', not_or, Bool.not_eq_false] at meets
      split
      next => exact shown
      next blended blends =>
        exact .head (.began playback isPending valid isPresented starts meets.2 blends)
          (advanceTransition_changes _ monotonic)
  next => exact shown

theorem completeDecodeWithLimit_changes (playback : Playback) (counter : UInt64)
    (request : DecodeRequest) (result : Option RgbaFrame) (monotonic maxBlendBytes : Nat)
    (storage : Option Nat) (retries : Retries (Duration.checkedAdd monotonic resynchronizeAfter)) :
    Changes Retries playback (playback.completeDecodeWithLimit counter request result monotonic
      maxBlendBytes storage).1 := by
  simp only [completeDecodeWithLimit]
  split
  next => exact .refl
  next pending isPending =>
    split
    next => exact .refl
    next matching =>
      simp only [ne_eq, decide_not, Bool.or_eq_true, Bool.not_eq_true', decide_eq_false_iff_not,
        not_or, Decidable.not_not, Bool.not_eq_false] at matching
      obtain ⟨rfl, _⟩ := matching
      have fails : Changes Retries playback ({ playback with pending := none }.fail counter
          pending.request.image monotonic).1 := .single (.failed playback counter _ isPending retries)
      split
      next => exact fails
      next frame =>
        split
        next => exact fails
        next valid =>
          have adopts : Changes Retries playback _ :=
            adopt_changes playback monotonic maxBlendBytes storage isPending
              (show validFrame frame = true by simpa using valid)
          simp only [completed] at adopts
          split
          next isSelected => simpa only [isSelected, if_true] using adopts
          next differs => simpa only [differs, if_false] using adopts

end Playback

/-! ## Runs of one playback -/

inductive PlaybackCall where
  | takeDecodeRequest
  | synchronize (clock : ClockSnapshot) (monotonic : Nat)
  | resynchronizeAfterDiscontinuity (clock : ClockSnapshot) (monotonic : Nat)
  | setSolarSchedule (points : TimePoints) (clock : ClockSnapshot) (monotonic : Nat)
  | completeDecode (request : DecodeRequest) (result : Option RgbaFrame) (monotonic : Nat)
      (storage : Option Nat)
  | advanceTransition (monotonic : Nat)

instance : Inhabited PlaybackCall := ⟨.takeDecodeRequest⟩

/-- The playback after a call and the counter that the call leaves behind. -/
def Playback.handle (playback : Playback) (counter : UInt64) : PlaybackCall → Playback × UInt64
  | .takeDecodeRequest => (playback.takeDecodeRequest.1, counter)
  | .synchronize clock monotonic =>
    let (next, counter, _) := playback.synchronize counter clock monotonic
    (next, counter)
  | .resynchronizeAfterDiscontinuity clock monotonic =>
    let (next, counter, _) := playback.resynchronizeAfterDiscontinuity counter clock monotonic
    (next, counter)
  | .setSolarSchedule points clock monotonic =>
    let (next, counter, _) := playback.setSolarSchedule counter points clock monotonic
    (next, counter)
  | .completeDecode request result monotonic storage =>
    let (next, counter, _) := playback.completeDecode counter request result monotonic storage
    (next, counter)
  | .advanceTransition monotonic => ((playback.advanceTransition monotonic).1, counter)

/-- A failed decode at this time can plan a retry. -/
def PlaybackCall.Schedulable : PlaybackCall → Prop
  | .completeDecode _ _ monotonic _ => monotonic + resynchronizeAfter < Duration.limit
  | _ => True

def Playback.Starts (playback : Playback) : Prop :=
  ∃ metadata primary appearance clock monotonic reducedMotion solar counter,
    playback = (Playback.withSolar metadata primary appearance clock monotonic reducedMotion solar
      counter).1

def Playback.step (playback : Playback) (label : UInt64 × PlaybackCall) : Playback :=
  (playback.handle label.1 label.2).1

/-- Runs of one playback: between two calls other playbacks may have drawn any number of
generations, so each call finds any counter. -/
def playbackSystem : TransitionSystem Playback (UInt64 × PlaybackCall) :=
  .ofTotal Playback.Starts Playback.step

theorem Playback.handle_changes {Retries : Option Nat → Prop} (playback : Playback)
    (counter : UInt64) (call : PlaybackCall)
    (retries : ∀ request result monotonic storage,
      call = .completeDecode request result monotonic storage →
        Retries (Duration.checkedAdd monotonic resynchronizeAfter)) :
    Playback.Changes Retries playback (playback.handle counter call).1 := by
  cases call with
  | takeDecodeRequest => exact playback.takeDecodeRequest_changes
  | synchronize clock monotonic => exact playback.synchronizeInner_changes counter clock monotonic false
  | resynchronizeAfterDiscontinuity clock monotonic =>
    exact playback.synchronizeInner_changes counter clock monotonic true
  | setSolarSchedule points clock monotonic =>
    exact playback.setSolarSchedule_changes counter points clock monotonic
  | completeDecode request result monotonic storage =>
    exact playback.completeDecodeWithLimit_changes counter request result monotonic _ storage
      (retries request result monotonic storage rfl)
  | advanceTransition monotonic => exact playback.advanceTransition_changes monotonic

end Genkan.DynamicWallpaper
