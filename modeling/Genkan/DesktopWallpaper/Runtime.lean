import Genkan.DesktopWallpaper.Scheduler
import Genkan.DesktopWallpaper.Surface

/-! # The event loop of the desktop wallpaper

The compositor's events and the passes of `maintain` are the steps.  What a pass reads from outside
is its input: the clocks, the decoder's answer, the solar schedules that the location worker leads
to, and what happens while each surface is drawn.  A pass that fails ends the program.
-/

namespace Genkan.DesktopWallpaper

open Foundations DynamicWallpaper

/-! ## The decoder worker -/

inductive WorkerResult where
  | initialized (metadata : Metadata) (primary : ImageReference)
  | initializationFailed
  | decoded (request : DecodeRequest) (frame : Option RgbaFrame)

structure Decoder where
  initializing : Bool
  inFlight : Bool

/-- What the queue to the worker answers to a request. -/
inductive TrySend where
  | sent
  | full
  | disconnected

/-- What the queue from the worker holds. -/
inductive TryReceive where
  | received (result : WorkerResult)
  | empty
  | disconnected

namespace Decoder

def dispatch (decoder : Decoder) : TrySend → Except String Decoder
  | .sent => .ok { decoder with inFlight := true }
  | .full => .error "bounded HEIC decode request queue is unexpectedly full"
  | .disconnected => .error "HEIC decoder worker stopped"

def receive (decoder : Decoder) : TryReceive → Except String (Decoder × Option WorkerResult)
  | .received (.decoded request frame) =>
    .ok ({ decoder with inFlight := false }, some (.decoded request frame))
  | .received result => .ok ({ decoder with initializing := false }, some result)
  | .empty => .ok (decoder, none)
  | .disconnected =>
    if decoder.initializing || decoder.inFlight then .error "HEIC decoder worker stopped"
    else .ok (decoder, none)

end Decoder

/-! ## The program -/

structure Runtime where
  surfaces : List Surface
  layersCreated : Nat
  scheduler : Option Scheduler
  decoder : Decoder
  appearance : AppearancePreference
  reducedMotion : Bool
  counter : UInt64
  checkClock : Bool
  failure : Option String

/-- What is read at one place of a pass: the clock may be unavailable. -/
structure Moment where
  clock : Option ClockSnapshot
  monotonic : Nat
  suspended : Bool
  dispatch : TrySend

structure PassInput where
  check : Moment
  worker : TryReceive
  decode : Moment
  storage : Option Nat
  solar : List (Moment × Option TimePoints)
  presentation : Moment
  render : Nat → RenderInput

namespace Moment

def currentClock (moment : Moment) : Except String ClockSnapshot :=
  match moment.clock with
  | some clock => .ok clock
  | none => .error "system clock is unavailable"

end Moment

namespace Runtime

def isTransitioning (runtime : Runtime) : Bool :=
  runtime.scheduler.any fun scheduler => scheduler.playback.isTransitioning

def redrawAll (runtime : Runtime) : Runtime :=
  { runtime with surfaces := runtime.surfaces.map Surface.playbackChanged }

/-- The scheduler has done its part, and the surfaces are redrawn if that changed the pixels. -/
def adopt (runtime : Runtime) (scheduler : Scheduler) (counter : UInt64) (changed : Bool) : Runtime :=
  let adopted := { runtime with scheduler := some scheduler, counter := counter }
  if changed then adopted.redrawAll else adopted

def dispatchDecode (runtime : Runtime) (moment : Moment) : Except String Runtime :=
  if runtime.decoder.inFlight then .ok runtime
  else match runtime.scheduler with
    | none => .ok runtime
    | some scheduler =>
      match scheduler.takeDecodeRequest with
      | (_, none) => .ok runtime
      | (scheduler, some _) => do
        let decoder ← runtime.decoder.dispatch moment.dispatch
        pure { runtime with scheduler := some scheduler, decoder := decoder }

def synchronizeDue (runtime : Runtime) (moment : Moment) : Except String Runtime :=
  match runtime.scheduler with
  | none => .ok runtime
  | some scheduler =>
    if scheduler.nextSynchronize.any fun deadline => deadline ≤ moment.monotonic then do
      let clock ← moment.currentClock
      let (scheduler, counter, outcome) :=
        scheduler.synchronizeIfDue runtime.counter clock moment.monotonic
      (runtime.adopt scheduler counter (outcome.any (·.presentationChanged))).dispatchDecode moment
    else .ok runtime

def synchronizeNow (runtime : Runtime) (moment : Moment) : Except String Runtime := do
  let clock ← moment.currentClock
  match runtime.scheduler with
  | none => runtime.dispatchDecode moment
  | some scheduler =>
    let (scheduler, counter, presentationChanged) :=
      scheduler.synchronizeNow runtime.counter clock moment.monotonic moment.suspended
    (runtime.adopt scheduler counter presentationChanged).dispatchDecode moment

def handleResult (runtime : Runtime) (input : PassInput) : WorkerResult → Except String Runtime
  | .initialized metadata primary => do
    let clock ← input.decode.currentClock
    let (playback, counter) := Playback.withSolar metadata primary runtime.appearance clock
      input.decode.monotonic runtime.reducedMotion none runtime.counter
    let scheduler := Scheduler.new playback clock input.decode.monotonic
    (runtime.adopt scheduler counter false).dispatchDecode input.decode
  | .initializationFailed => .ok runtime
  | .decoded request frame => do
    let clock ← input.decode.currentClock
    match runtime.scheduler with
    | none => .error "decode results follow worker initialization"
    | some scheduler =>
      let (scheduler, counter, outcome, presentationChanged) :=
        scheduler.synchronizeAndCompleteDecode runtime.counter request frame clock
          input.decode.monotonic input.decode.suspended input.storage
      let shows := decide (outcome = .presented ∨ outcome = .transitioning)
      (runtime.adopt scheduler counter (presentationChanged || shows)).dispatchDecode input.decode

/-- A solar schedule of the current day, when the location could be mapped. -/
def installSolarMapping (runtime : Runtime) (install : Moment × Option TimePoints) :
    Except String Runtime := do
  let (moment, mapped) := install
  let clock ← moment.currentClock
  match mapped, runtime.scheduler with
  | none, _ => pure runtime
  | some _, none => runtime.dispatchDecode moment
  | some points, some scheduler =>
    let (scheduler, counter, outcome) :=
      scheduler.applySolarSchedule runtime.counter points clock moment.monotonic
    (runtime.adopt scheduler counter
      (outcome.selectionChanged || outcome.presentationChanged)).dispatchDecode moment

def preparePresentation (runtime : Runtime) (moment : Moment) : Except String Runtime :=
  let hasFrameCallbacks := runtime.surfaces.any (·.presentation.frameReady)
  let hasRenderableSurface :=
    runtime.surfaces.any fun surface => surface.presentation.eligible surface.size.isSome
  match runtime.scheduler with
  | none => .ok runtime
  | some scheduler =>
    if hasFrameCallbacks || hasRenderableSurface then do
      let clock ← moment.currentClock
      let (scheduler, counter, pixelsChanged) :=
        scheduler.preparePresentation runtime.counter clock moment.monotonic moment.suspended
      (runtime.adopt scheduler counter pixelsChanged).dispatchDecode moment
    else .ok runtime

/-- Decides for all surfaces before the first one acts; tells which layers were drawn. -/
def present (runtime : Runtime) (input : PassInput) : Runtime × List Nat :=
  let transitioning := runtime.isTransitioning
  let decided := runtime.surfaces.map fun surface => surface.decide transitioning
  let performed := decided.map fun (surface, action) =>
    surface.perform action transitioning (input.render surface.layer)
  ({ runtime with surfaces := performed.map (·.1) },
    (performed.filter (·.2)).map (·.1.layer))

def synchronize (runtime : Runtime) (moment : Moment) : Except String Runtime :=
  if runtime.checkClock then synchronizeNow { runtime with checkClock := false } moment
  else runtime.synchronizeDue moment

def receive (runtime : Runtime) (input : PassInput) : Except String Runtime := do
  let (decoder, received) ← runtime.decoder.receive input.worker
  let runtime := { runtime with decoder := decoder }
  match received with
  | none => pure runtime
  | some result => runtime.handleResult input result

def maintain (runtime : Runtime) (input : PassInput) : Except String (Runtime × List Nat) := do
  let synchronized ← runtime.synchronize input.check
  let received ← synchronized.receive input
  let scheduled ← input.solar.foldlM installSolarMapping received
  let prepared ← scheduled.preparePresentation input.presentation
  pure (prepared.present input)

/-! ## Events of the compositor -/

def addSurface (runtime : Runtime) (output : Nat) (outputSize : Option (Nat × Nat)) : Runtime :=
  match runtime.surfaces.findIdx? fun surface => surface.output == output with
  | some index =>
    { runtime with
      surfaces := runtime.surfaces.modify index fun surface =>
        surface.refreshGeometry outputSize true }
  | none =>
    { runtime with
      surfaces := runtime.surfaces ++ [Surface.new output runtime.layersCreated]
      layersCreated := runtime.layersCreated + 1 }

/-- Changes the surface with the layer, if there is one. -/
def updateLayer (runtime : Runtime) (layer : Nat) (update : Surface → Surface) : Runtime :=
  match runtime.surfaces.findIdx? fun surface => surface.layer == layer with
  | some index => { runtime with surfaces := runtime.surfaces.modify index update }
  | none => runtime

def configure (runtime : Runtime) (layer : Nat) (hints : Nat × Nat) (outputSize : Option (Nat × Nat)) :
    Runtime :=
  match runtime.surfaces.findIdx? fun surface => surface.layer == layer with
  | some index =>
    { runtime with
      surfaces := runtime.surfaces.modify index fun surface =>
        { surface with configureHints := some hints }.refreshGeometry outputSize true }
  | none => { runtime with failure := some "configured an unknown wallpaper surface" }

end Runtime

inductive RuntimeEvent where
  | newOutput (output : Nat) (outputSize : Option (Nat × Nat))
  | updateOutput (output : Nat) (outputSize : Option (Nat × Nat))
  | outputDestroyed (output : Nat)
  | closed (layer : Nat)
  | configure (layer : Nat) (hints : Nat × Nat) (outputSize : Option (Nat × Nat))
  | scaleFactorChanged (layer : Nat) (scale : Int)
  | transformChanged (layer : Nat)
  | frame (layer : Nat)
  | resumeTimer
  | maintain (input : PassInput)

namespace Runtime

/-- The program after an event, with the layers drawn; none when a pass fails. -/
def handle (runtime : Runtime) : RuntimeEvent → Option (Runtime × List Nat)
  | .newOutput output outputSize => some (runtime.addSurface output outputSize, [])
  | .updateOutput output outputSize => some (runtime.addSurface output outputSize, [])
  | .outputDestroyed output =>
    some ({ runtime with surfaces := runtime.surfaces.filter (·.output != output) }, [])
  | .closed layer =>
    some ({ runtime with surfaces := runtime.surfaces.filter (·.layer != layer) }, [])
  | .configure layer hints outputSize => some (runtime.configure layer hints outputSize, [])
  | .scaleFactorChanged layer scale =>
    some (runtime.updateLayer layer fun surface => surface.scaleFactorChanged scale, [])
  | .transformChanged layer => some (runtime.updateLayer layer Surface.transformChanged, [])
  | .frame layer => some (runtime.updateLayer layer Surface.frameArrived, [])
  | .resumeTimer => some ({ runtime with checkClock := true }, [])
  | .maintain input => (runtime.maintain input).toOption

def Starts (runtime : Runtime) : Prop :=
  ∃ appearance reducedMotion counter, runtime =
    { surfaces := []
      layersCreated := 0
      scheduler := none
      decoder := { initializing := true, inFlight := false }
      appearance := appearance
      reducedMotion := reducedMotion
      counter := counter
      checkClock := false
      failure := none }

end Runtime

def desktopSystem : TransitionSystem Runtime RuntimeEvent :=
  .ofPartial Runtime.Starts fun runtime event => (runtime.handle event).map (·.1)

end Genkan.DesktopWallpaper
