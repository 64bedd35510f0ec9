import Genkan.DynamicWallpaper.Wake

/-! # The scheduler of the desktop wallpaper

The scheduler keeps the playback and the monotonic time at which it has to look at it again.  As in
the playback, each call finds the generation counter and leaves it behind.
-/

namespace Genkan.DesktopWallpaper

open Foundations DynamicWallpaper

def playbackDeadline (playback : Playback) (clock : ClockSnapshot) (monotonic : Nat) : Option Nat :=
  (playback.nextWake clock monotonic).bind fun delay => Duration.checkedAdd monotonic delay

def earlierDeadline (left right : Option Nat) : Option Nat := (left.toList ++ right.toList).min?

structure Scheduler where
  playback : Playback
  nextSynchronize : Option Nat

namespace Scheduler

def new (playback : Playback) (clock : ClockSnapshot) (monotonic : Nat) : Scheduler where
  playback := playback
  nextSynchronize := playbackDeadline playback clock monotonic

def synchronizeIfDue (scheduler : Scheduler) (counter : UInt64) (clock : ClockSnapshot)
    (monotonic : Nat) : Scheduler × UInt64 × Option SynchronizeOutcome :=
  if scheduler.nextSynchronize.all fun deadline => monotonic < deadline then
    (scheduler, counter, none)
  else
    let (playback, counter, outcome) := scheduler.playback.synchronize counter clock monotonic
    (new playback clock monotonic, counter, some outcome)

/-- Also tells whether the pixels on screen changed. -/
def synchronizeNow (scheduler : Scheduler) (counter : UInt64) (clock : ClockSnapshot)
    (monotonic : Nat) (discontinuity : Bool) : Scheduler × UInt64 × Bool :=
  let deadlineDue := scheduler.nextSynchronize.any fun deadline => deadline ≤ monotonic
  let (playback, counter, outcome) :=
    if discontinuity then
      scheduler.playback.resynchronizeAfterDiscontinuity counter clock monotonic
    else scheduler.playback.synchronize counter clock monotonic
  let nextSynchronize :=
    if deadlineDue || discontinuity || outcome.selectionChanged || outcome.discontinuity then
      playbackDeadline playback clock monotonic
    else scheduler.nextSynchronize
  ({ playback := playback, nextSynchronize := nextSynchronize }, counter, outcome.presentationChanged)

def preparePresentation (scheduler : Scheduler) (counter : UInt64) (clock : ClockSnapshot)
    (monotonic : Nat) (discontinuity : Bool) : Scheduler × UInt64 × Bool :=
  let (scheduler, counter, presentationChanged) :=
    scheduler.synchronizeNow counter clock monotonic discontinuity
  let (playback, transitionChanged) := scheduler.playback.advanceTransition monotonic
  ({ scheduler with playback := playback }, counter, presentationChanged || transitionChanged)

def completeDecode (scheduler : Scheduler) (counter : UInt64) (request : DecodeRequest)
    (result : Option RgbaFrame) (clock : ClockSnapshot) (monotonic : Nat) (storage : Option Nat) :
    Scheduler × UInt64 × DecodeOutcome :=
  let (playback, counter, outcome) :=
    scheduler.playback.completeDecode counter request result monotonic storage
  ({ playback := playback
     nextSynchronize := earlierDeadline scheduler.nextSynchronize
       (playbackDeadline playback clock monotonic) }, counter, outcome)

def synchronizeAndCompleteDecode (scheduler : Scheduler) (counter : UInt64) (request : DecodeRequest)
    (result : Option RgbaFrame) (clock : ClockSnapshot) (monotonic : Nat) (discontinuity : Bool)
    (storage : Option Nat) : Scheduler × UInt64 × DecodeOutcome × Bool :=
  let (scheduler, counter, presentationChanged) :=
    scheduler.preparePresentation counter clock monotonic discontinuity
  let (scheduler, counter, outcome) :=
    scheduler.completeDecode counter request result clock monotonic storage
  (scheduler, counter, outcome, presentationChanged)

def applySolarSchedule (scheduler : Scheduler) (counter : UInt64) (points : TimePoints)
    (clock : ClockSnapshot) (monotonic : Nat) : Scheduler × UInt64 × SynchronizeOutcome :=
  let (playback, counter, outcome) :=
    scheduler.playback.setSolarSchedule counter points clock monotonic
  (new playback clock monotonic, counter, outcome)

/-- The decode request that the program hands to its worker. -/
def takeDecodeRequest (scheduler : Scheduler) : Scheduler × Option DecodeRequest :=
  let (playback, request) := scheduler.playback.takeDecodeRequest
  ({ scheduler with playback := playback }, request)

end Scheduler

/-! ## Runs -/

/-- A scheduler with the clock and the monotonic time that it processed last. -/
structure Scheduling where
  scheduler : Scheduler
  clock : ClockSnapshot
  monotonic : Nat

inductive SchedulerCall where
  | takeDecodeRequest
  | synchronizeIfDue (clock : ClockSnapshot) (monotonic : Nat)
  | synchronizeNow (clock : ClockSnapshot) (monotonic : Nat) (discontinuity : Bool)
  | preparePresentation (clock : ClockSnapshot) (monotonic : Nat) (discontinuity : Bool)
  | synchronizeAndCompleteDecode (request : DecodeRequest) (result : Option RgbaFrame)
      (clock : ClockSnapshot) (monotonic : Nat) (discontinuity : Bool) (storage : Option Nat)
  | completeDecode (request : DecodeRequest) (result : Option RgbaFrame) (clock : ClockSnapshot)
      (monotonic : Nat) (storage : Option Nat)
  | applySolarSchedule (points : TimePoints) (clock : ClockSnapshot) (monotonic : Nat)

instance : Inhabited SchedulerCall := ⟨.takeDecodeRequest⟩

namespace Scheduling

def Starts (state : Scheduling) : Prop :=
  ∃ metadata primary appearance reducedMotion solar counter,
    state.scheduler = .new (Playback.withSolar metadata primary appearance state.clock state.monotonic
      reducedMotion solar counter).1 state.clock state.monotonic

/-- A synchronization that is not due leaves what was processed last as it is. -/
def handle (state : Scheduling) (counter : UInt64) : SchedulerCall → Scheduling
  | .takeDecodeRequest => { state with scheduler := state.scheduler.takeDecodeRequest.1 }
  | .synchronizeIfDue clock monotonic =>
    match state.scheduler.synchronizeIfDue counter clock monotonic with
    | (_, _, none) => state
    | (scheduler, _, some _) => ⟨scheduler, clock, monotonic⟩
  | .synchronizeNow clock monotonic discontinuity =>
    ⟨(state.scheduler.synchronizeNow counter clock monotonic discontinuity).1, clock, monotonic⟩
  | .preparePresentation clock monotonic discontinuity =>
    ⟨(state.scheduler.preparePresentation counter clock monotonic discontinuity).1, clock, monotonic⟩
  | .synchronizeAndCompleteDecode request result clock monotonic discontinuity storage =>
    ⟨(state.scheduler.synchronizeAndCompleteDecode counter request result clock monotonic
      discontinuity storage).1, clock, monotonic⟩
  | .completeDecode request result clock monotonic storage =>
    ⟨(state.scheduler.completeDecode counter request result clock monotonic storage).1, clock, monotonic⟩
  | .applySolarSchedule points clock monotonic =>
    ⟨(state.scheduler.applySolarSchedule counter points clock monotonic).1, clock, monotonic⟩

def step (state : Scheduling) (label : UInt64 × SchedulerCall) : Scheduling :=
  state.handle label.1 label.2

end Scheduling

def schedulerSystem : TransitionSystem Scheduling (UInt64 × SchedulerCall) :=
  .ofTotal Scheduling.Starts Scheduling.step

end Genkan.DesktopWallpaper
