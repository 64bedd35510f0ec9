import Genkan.DynamicWallpaper.Frames
import Genkan.DynamicWallpaper.Schedule

/-! # Playback of a dynamic wallpaper

The generations of all playbacks of a process come from one counter, which is passed to every
function that draws from it.  `storage` is what the allocator answers when a blend is reserved.
-/

namespace Genkan.DynamicWallpaper

def resynchronizeAfter : Nat := Duration.fromSecs 60

def dissolveDuration : Nat := Duration.fromSecs 2

structure DecodeRequest where
  generation : UInt64
  image : ImageReference
  deriving DecidableEq, Repr

inductive DecodeOutcome where
  | ignored
  | failed
  | rejected
  | presented
  | transitioning
  deriving DecidableEq, Repr

structure SynchronizeOutcome where
  selectionChanged : Bool
  discontinuity : Bool
  presentationChanged : Bool
  deriving DecidableEq, Repr

inductive Mode where
  | static
  | time (points : TimePoints)

structure PendingDecode where
  request : DecodeRequest
  transitionStartedAt : Option Nat
  dispatched : Bool
  deriving DecidableEq, Repr

structure Transition where
  fromFrame : RgbaFrame
  toFrame : RgbaFrame
  blend : RgbaFrame
  toImage : ImageReference
  startedAt : Nat
  deriving DecidableEq, Repr

structure Playback where
  mode : Mode
  primary : ImageReference
  reducedMotion : Bool
  selected : ImageReference
  generation : UInt64
  pending : Option PendingDecode
  presented : Option RgbaFrame
  presentedImage : Option ImageReference
  transition : Option Transition
  retryNotBefore : Option Nat
  lastClock : ClockSnapshot
  lastMonotonic : Nat

def undispatched (generation : UInt64) (image : ImageReference) (startedAt : Option Nat) :
    PendingDecode where
  request := { generation := generation, image := image }
  transitionStartedAt := startedAt
  dispatched := false

namespace Playback

/-! ## Construction -/

def initialMode (metadata : Metadata) (primary : ImageReference) (appearance : AppearancePreference)
    (clock : ClockSnapshot) (solar : Option TimePoints) : Mode × ImageReference :=
  let scheduled (points : TimePoints) :=
    let points := sortedTimePoints points
    (Mode.time points, (selectedPoint points clock).image)
  match solar, appearance with
  | some points, .automatic => scheduled points
  | _, _ =>
    match metadata.select appearance false false with
    | .time schedule => scheduled schedule.timePoints
    | .fixed image => (.static, image)
    | .primary => (.static, primary)
    -- Unreachable: `Metadata.select_ne_solar`.
    | .solar _ => (.static, primary)

/-- A new playback and the counter after the one generation it draws. -/
def withSolar (metadata : Metadata) (primary : ImageReference) (appearance : AppearancePreference)
    (clock : ClockSnapshot) (monotonic : Nat) (reducedMotion : Bool) (solar : Option TimePoints)
    (counter : UInt64) : Playback × UInt64 :=
  let (mode, selected) := initialMode metadata primary appearance clock solar
  ({ mode := mode
     primary := primary
     reducedMotion := reducedMotion
     selected := selected
     generation := counter
     pending := some (undispatched counter selected none)
     presented := none
     presentedImage := none
     transition := none
     retryNotBefore := none
     lastClock := clock
     lastMonotonic := monotonic }, counter + 1)

/-! ## Reading -/

def frame (playback : Playback) : Option RgbaFrame :=
  (playback.transition.map (·.blend)).or playback.presented

def isTransitioning (playback : Playback) : Bool := playback.transition.isSome

def retryDue (playback : Playback) (monotonic : Nat) : Bool :=
  playback.retryNotBefore.all fun retryNotBefore => retryNotBefore ≤ monotonic

/-- How long until the boundary is next reached. -/
def untilBoundary (clock : ClockSnapshot) (point : TimePoint) : Nat :=
  let now := clock.timeOfDay
  let boundary := Duration.fromSecs (effectiveBoundarySecond point.time)
  if now < boundary then boundary - now else day - now + boundary

def nextBoundary (playback : Playback) (clock : ClockSnapshot) : Option Nat :=
  match playback.mode with
  | .time points => (points.points.map (untilBoundary clock)).min?
  | .static => none

/-- How long until the retry, when nothing else will present the selected image. -/
def nextRetry (playback : Playback) (monotonic : Nat) : Option Nat :=
  if playback.pending.isNone && playback.transition.isNone &&
      playback.presentedImage != some playback.selected then
    playback.retryNotBefore.map fun deadline => deadline - monotonic
  else none

def nextWake (playback : Playback) (clock : ClockSnapshot) (monotonic : Nat) : Option Nat :=
  let boundary := playback.nextBoundary clock
  let retry := playback.nextRetry monotonic
  if boundary.isNone && retry.isNone then none
  else some ((boundary.toList ++ retry.toList).foldl min resynchronizeAfter)

/-! ## Decode requests -/

def takeDecodeRequest (playback : Playback) : Playback × Option DecodeRequest :=
  match playback.pending with
  | none => (playback, none)
  | some pending =>
    if pending.dispatched then (playback, none)
    else ({ playback with pending := some { pending with dispatched := true } }, some pending.request)

def queueDecode (playback : Playback) (generation : UInt64) (image : ImageReference)
    (startedAt : Option Nat) : Playback :=
  { playback with
    generation := generation
    pending := some (undispatched generation image startedAt) }

def queuePrimaryFallback (playback : Playback) (failedImage : ImageReference) (counter : UInt64) :
    Playback × UInt64 :=
  if playback.presented.isSome || failedImage = playback.primary then (playback, counter)
  else (playback.queueDecode counter playback.primary none, counter + 1)

/-! ## Synchronization -/

/-- A new selection is decoded at once; a dissolve stops at its current blend. -/
def reselect (playback : Playback) (counter : UInt64) (selection : ImageReference)
    (clock : ClockSnapshot) (monotonic : Nat) (discontinuity : Bool) : Playback :=
  let interrupted := match playback.transition with
    | some transition =>
      { playback with
        transition := none
        presented := some transition.blend
        presentedImage := none }
    | none => playback
  let startedAt :=
    if discontinuity || playback.reducedMotion then none
    else match playback.mode with
      | .time points => boundaryStart points clock monotonic
      | .static => none
  { interrupted with
    generation := counter
    selected := selection
    retryNotBefore := none
    pending := some (undispatched counter selection startedAt) }

/-- The end of a dissolve, and whether the pixels on screen change with it. -/
def settle (playback : Playback) : Playback × Bool :=
  match playback.transition with
  | some transition =>
    ({ playback with
       transition := none
       presented := some transition.toFrame
       presentedImage := some transition.toImage },
     transition.blend.pixels != transition.toFrame.pixels)
  | none => (playback, false)

/-- After a discontinuity a decode under way is asked for again, without a dissolve. -/
def recover (playback : Playback) (counter : UInt64) (selection : ImageReference) (monotonic : Nat) :
    Playback × UInt64 × Bool :=
  let (settled, presentationChanged) := playback.settle
  if settled.pending.any (·.request.image = selection) then
    (settled.queueDecode counter selection none, counter + 1, presentationChanged)
  else if settled.pending.isNone && settled.presentedImage != some selection &&
      settled.retryDue monotonic then
    ({ settled.queueDecode counter selection none with retryNotBefore := none }, counter + 1,
      presentationChanged)
  else (settled, counter, presentationChanged)

def retry (playback : Playback) (counter : UInt64) (selection : ImageReference)
    (clock : ClockSnapshot) (monotonic : Nat) : Playback × UInt64 :=
  if playback.pending.isNone && playback.transition.isNone &&
      playback.presentedImage != some selection && playback.retryDue monotonic then
    let startedAt := match playback.mode with
      | .time points => if playback.reducedMotion then none else boundaryStart points clock monotonic
      | .static => none
    ({ playback.queueDecode counter selection startedAt with retryNotBefore := none }, counter + 1)
  else (playback, counter)

def selection (playback : Playback) (clock : ClockSnapshot) : ImageReference :=
  match playback.mode with
  | .static => playback.selected
  | .time points => (selectedPoint points clock).image

def synchronizeInner (playback : Playback) (counter : UInt64) (clock : ClockSnapshot)
    (monotonic : Nat) (forceDiscontinuity : Bool) : Playback × UInt64 × SynchronizeOutcome :=
  let discontinuity := forceDiscontinuity ||
    clockDiscontinuity playback.lastClock playback.lastMonotonic clock monotonic
  let selection := playback.selection clock
  let selectionChanged := decide (selection ≠ playback.selected)
  let (next, counter, presentationChanged) :=
    if selectionChanged then
      (playback.reselect counter selection clock monotonic discontinuity, counter + 1, false)
    else if discontinuity then playback.recover counter selection monotonic
    else
      let (next, counter) := playback.retry counter selection clock monotonic
      (next, counter, false)
  ({ next with lastClock := clock, lastMonotonic := monotonic }, counter,
    { selectionChanged := selectionChanged
      discontinuity := discontinuity
      presentationChanged := presentationChanged })

def synchronize (playback : Playback) (counter : UInt64) (clock : ClockSnapshot) (monotonic : Nat) :
    Playback × UInt64 × SynchronizeOutcome :=
  playback.synchronizeInner counter clock monotonic false

def resynchronizeAfterDiscontinuity (playback : Playback) (counter : UInt64) (clock : ClockSnapshot)
    (monotonic : Nat) : Playback × UInt64 × SynchronizeOutcome :=
  playback.synchronizeInner counter clock monotonic true

def setSolarSchedule (playback : Playback) (counter : UInt64) (points : TimePoints)
    (clock : ClockSnapshot) (monotonic : Nat) : Playback × UInt64 × SynchronizeOutcome :=
  { playback with mode := .time (sortedTimePoints points) }.synchronizeInner counter clock monotonic
    false

/-! ## Dissolves and completions -/

/-- Samples an active dissolve and reports whether the pixels on screen changed. -/
def advanceTransition (playback : Playback) (monotonic : Nat) : Playback × Bool :=
  match playback.transition with
  | none => (playback, false)
  | some transition =>
    let elapsed := monotonic - transition.startedAt
    if dissolveDuration ≤ elapsed then playback.settle
    else
      let weight := min (min (elapsed * 256) (2 ^ 128 - 1) / dissolveDuration) 256
      let (blend, changed) := blendInto transition.fromFrame transition.toFrame transition.blend weight
      ({ playback with transition := some { transition with blend := blend } }, changed)

def present (playback : Playback) (frame : RgbaFrame) (image : ImageReference) : Playback :=
  { playback with
    transition := none
    presented := some frame
    presentedImage := some image }

/-- Shows a valid frame, dissolving from the presented one where that is possible. -/
def adopt (playback : Playback) (pending : PendingDecode) (frame : RgbaFrame) (monotonic : Nat)
    (maxBlendBytes : Nat) (storage : Option Nat) : Playback × DecodeOutcome :=
  let shown := (playback.present frame pending.request.image, DecodeOutcome.presented)
  match playback.presented, pending.transitionStartedAt with
  | some previous, some startedAt =>
    if dissolveDuration ≤ monotonic - startedAt || !sameDimensions previous frame then shown
    else match blend previous frame 0 maxBlendBytes storage with
      | none => shown
      | some blended =>
        let begun := { playback with
          presented := none
          presentedImage := none
          transition := some
            { fromFrame := previous
              toFrame := frame
              blend := blended
              toImage := pending.request.image
              startedAt := startedAt } }
        let next := (begun.advanceTransition monotonic).1
        (next, if next.transition.isSome then .transitioning else .presented)
  | _, _ => shown

def fail (playback : Playback) (counter : UInt64) (image : ImageReference) (monotonic : Nat) :
    Playback × UInt64 :=
  { playback with retryNotBefore := Duration.checkedAdd monotonic resynchronizeAfter }
    |>.queuePrimaryFallback image counter

def completeDecodeWithLimit (playback : Playback) (counter : UInt64) (request : DecodeRequest)
    (result : Option RgbaFrame) (monotonic : Nat) (maxBlendBytes : Nat) (storage : Option Nat) :
    Playback × UInt64 × DecodeOutcome :=
  match playback.pending with
  | none => (playback, counter, .ignored)
  | some pending =>
    if pending.request ≠ request || !pending.dispatched then (playback, counter, .ignored)
    else
      let playback := { playback with pending := none }
      match result with
      | none =>
        let (next, counter) := playback.fail counter request.image monotonic
        (next, counter, .failed)
      | some frame =>
        if !validFrame frame then
          let (next, counter) := playback.fail counter request.image monotonic
          (next, counter, .rejected)
        else
          let playback := if request.image = playback.selected
            then { playback with retryNotBefore := none } else playback
          let (next, outcome) := playback.adopt pending frame monotonic maxBlendBytes storage
          (next, counter, outcome)

def completeDecode (playback : Playback) (counter : UInt64) (request : DecodeRequest)
    (result : Option RgbaFrame) (monotonic : Nat) (storage : Option Nat) :
    Playback × UInt64 × DecodeOutcome :=
  playback.completeDecodeWithLimit counter request result monotonic maxFrameBytes storage

end Playback

end Genkan.DynamicWallpaper
