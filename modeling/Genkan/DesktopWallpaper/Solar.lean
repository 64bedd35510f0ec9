import Genkan.DesktopWallpaper.Runtime

/-! # Locations and the solar schedule of the desktop wallpaper

`maintain_solar` with the worker that asks GeoClue for a location, around the rest of the event loop.
A pass is one step, as is each step of the worker.  What the source computes with floating-point
numbers, the times of a solar schedule and whether two locations differ enough, is given by functions
over an arbitrary type of locations.
-/

namespace Genkan.DynamicWallpaper

deriving instance DecidableEq for CivilDate

/-- A static light or dark appearance suppresses the solar schedule. -/
def AppearancePreference.permitsSolar (appearance : AppearancePreference) : Bool := appearance == .automatic

end Genkan.DynamicWallpaper

namespace Genkan.DesktopWallpaper

open Foundations DynamicWallpaper

def locationRefresh : Nat := Duration.fromSecs (6 * 60 * 60)

def locationRetry : Nat := Duration.fromSecs (10 * 60)

def solarCheckInterval : Nat := Duration.fromSecs 60

inductive GeoClueError where
  | unavailable
  | timeout
  | denied
  | invalid
  | coarse
  deriving DecidableEq, Repr

def GeoClueError.isRetryable : GeoClueError → Bool
  | unavailable | timeout | invalid => true
  | denied | coarse => false

structure Geography (Location : Type) where
  mapSolar : Metadata → Location → ClockSnapshot → Option TimePoints
  meaningfulLocationChange : Location → Location → Bool

/-! ## The location worker -/

inductive SolarResult (Location : Type) where
  | located (location : Location)
  | failed (error : GeoClueError)

inductive SolarThread (Location : Type) where
  /-- Before the event loop of the thread is built. -/
  | starting
  | awaiting
  | requesting
  | reporting (result : SolarResult Location)
  | stopped

/-- Both ends: `command` and `results` are what the bounded queues hold. -/
structure SolarResolver (Location : Type) where
  inFlight : Bool
  command : Bool
  results : List (SolarResult Location)
  thread : SolarThread Location

/-- How the worker is started: not at all, or so that its thread runs or has already stopped because
it could not build its event loop. -/
inductive Spawned where
  | failed
  | started
  | stopped
  deriving DecidableEq, Repr

namespace SolarResolver

variable {Location : Type}

def spawn : Spawned → Option (SolarResolver Location)
  | .failed => none
  | .started => some { inFlight := false, command := false, results := [], thread := .starting }
  | .stopped =>
    some { inFlight := false, command := false, results := [.failed .unavailable], thread := .stopped }

/-- None if the worker has stopped; a full queue is no error. -/
def dispatch (resolver : SolarResolver Location) : Option (SolarResolver Location) :=
  match resolver.thread with
  | .stopped => none
  | _ => if resolver.command then some resolver else some { resolver with inFlight := true, command := true }

def receive (resolver : SolarResolver Location) : SolarResolver Location × Option (SolarResult Location) :=
  match resolver.results, resolver.thread with
  | result :: results, _ => ({ resolver with inFlight := false, results := results }, some result)
  | [], .stopped => ({ resolver with inFlight := false }, none)
  | [], _ => (resolver, none)

/-- A thread that ends drops its ends of both queues. -/
def stop (resolver : SolarResolver Location) : SolarResolver Location :=
  { resolver with command := false, thread := .stopped }

end SolarResolver

inductive SolarThreadStep (Location : Type) where
  | build (built : Bool)
  | take
  | answer (result : SolarResult Location)
  | report
  | die

namespace SolarResolver

variable {Location : Type}

def advance (resolver : SolarResolver Location) : SolarThreadStep Location → Option (SolarResolver Location)
  | .build built =>
    match resolver.thread with
    | .starting =>
      if built then some { resolver with thread := .awaiting }
      else some { resolver.stop with results := resolver.results ++ [.failed .unavailable] }
    | _ => none
  | .take =>
    match resolver.thread with
    | .awaiting =>
      if resolver.command then some { resolver with command := false, thread := .requesting } else none
    | _ => none
  | .answer result =>
    match resolver.thread with
    | .requesting => some { resolver with thread := .reporting result }
    | _ => none
  -- The queue holds one result, and a full one blocks the thread.
  | .report =>
    match resolver.thread, resolver.results with
    | .reporting result, [] => some { resolver with results := [result], thread := .awaiting }
    | _, _ => none
  | .die =>
    match resolver.thread with
    | .stopped => none
    | _ => some resolver.stop

end SolarResolver

/-! ## The program -/

/-- The fields of the program that concern the location, with the monotonic time. -/
structure SolarRuntime (Location : Type) where
  runtime : Runtime
  solarEnabled : Bool
  solarResolver : Option (SolarResolver Location)
  solarRequested : Bool
  solarTerminal : Bool
  metadata : Option Metadata
  location : Option Location
  nextLocationRefresh : Option Nat
  nextSolarCheck : Option Nat
  mapped : Option (CivilDate × Int)
  now : Nat

/-- What a pass reads: how long it takes until each place where it looks at the monotonic time, and
the clocks that it finds there. -/
structure SolarInput where
  pass : PassInput
  untilReceived : Nat
  located : Moment
  spawned : Spawned
  untilRequested : Nat
  untilChecked : Nat
  check : Moment
  mapping : Moment
  untilSettled : Nat

def stamp (clock : ClockSnapshot) : CivilDate × Int := (clock.date, clock.utcOffsetSeconds)

def solarRequestReady (appearance : AppearancePreference) (hasSolar hasLocation frameAvailable requested : Bool) :
    Bool :=
  appearance.permitsSolar && hasSolar && (hasLocation || (!requested && frameAvailable))

def solarMappingDue (appearance : AppearancePreference) (hasSolar hasLocation : Bool)
    (mapped : Option (CivilDate × Int)) (clock : ClockSnapshot) : Bool :=
  appearance.permitsSolar && hasSolar && hasLocation && mapped != some (stamp clock)

namespace SolarRuntime

variable {Location : Type} (geography : Geography Location)

def frameAvailable (state : SolarRuntime Location) : Bool :=
  state.runtime.scheduler.any fun scheduler => scheduler.playback.frame.isSome

def hasSolarSchedule (state : SolarRuntime Location) : Bool :=
  state.metadata.any fun metadata => metadata.solar.value.isSome

/-! ### The moments of a pass -/

def receivedAt (state : SolarRuntime Location) (input : SolarInput) : Nat := state.now + input.untilReceived

def requestedAt (state : SolarRuntime Location) (input : SolarInput) : Nat :=
  state.receivedAt input + input.untilRequested

def checkedAt (state : SolarRuntime Location) (input : SolarInput) : Nat :=
  state.requestedAt input + input.untilChecked

def settledAt (state : SolarRuntime Location) (input : SolarInput) : Nat :=
  state.checkedAt input + input.untilSettled

/-! ### `maintain_solar` -/

def installSolarMapping (state : SolarRuntime Location) (moment : Moment) :
    Except String (SolarRuntime Location) :=
  if !state.runtime.appearance.permitsSolar then .ok state
  else match state.location, state.metadata with
    | some location, some metadata => do
      let clock ← moment.currentClock
      let runtime ← state.runtime.installSolarMapping (moment, geography.mapSolar metadata location clock)
      pure { state with mapped := some (stamp clock), runtime }
    | _, _ => .ok state

def handleResult (state : SolarRuntime Location) (input : SolarInput) (received : Nat) :
    SolarResult Location → Except String (SolarRuntime Location)
  | .located location =>
    let changed := state.location.all fun previous => geography.meaningfulLocationChange previous location
    let state :=
      { state with location := some location, nextLocationRefresh := some (received + locationRefresh) }
    if changed then state.installSolarMapping geography input.located else .ok state
  | .failed error =>
    if error.isRetryable then
      .ok { state with solarRequested := false, nextLocationRefresh := some (received + locationRetry) }
    else .ok { state with solarTerminal := true }

def receive (state : SolarRuntime Location) : SolarRuntime Location :=
  { state with solarResolver := state.solarResolver.map fun resolver => resolver.receive.1 }

/-- The loop over the results that the queue holds; it ends when a call finds the queue empty. -/
def receiveResults (input : SolarInput) (received : Nat) :
    SolarRuntime Location → List (SolarResult Location) → Except String (SolarRuntime Location)
  | state, [] => .ok state.receive
  | state, result :: results => do
    let state ← state.receive.handleResult geography input received result
    receiveResults input received state results

/-- The results that a pass finds. -/
def waiting (state : SolarRuntime Location) : List (SolarResult Location) :=
  (state.solarResolver.map SolarResolver.results).getD []

/-- `false` if no worker could be started. -/
def startResolver (state : SolarRuntime Location) (spawned : Spawned) : SolarRuntime Location × Bool :=
  if state.solarResolver.isNone && state.hasSolarSchedule && state.frameAvailable then
    match SolarResolver.spawn spawned with
    | some resolver => ({ state with solarResolver := some resolver }, true)
    | none => ({ state with solarTerminal := true }, false)
  else (state, true)

/-- `maintain_solar` up to the gate of the requests; `false` if it returns before. -/
def approach (state : SolarRuntime Location) (input : SolarInput) (received : Nat) :
    Except String (SolarRuntime Location × Bool) := do
  let state ← receiveResults geography input received state state.waiting
  if state.solarTerminal || !state.runtime.appearance.permitsSolar then pure (state, false)
  else pure (state.startResolver input.spawned)

/-- A request is dispatched at this moment. -/
def requests (state : SolarRuntime Location) (now : Nat) : Bool :=
  let idle := !state.solarResolver.any fun resolver => resolver.inFlight
  let due := state.nextLocationRefresh.all fun deadline => deadline ≤ now
  idle && due && solarRequestReady state.runtime.appearance state.hasSolarSchedule state.location.isSome
    state.frameAvailable state.solarRequested

def dispatchSolar (state : SolarRuntime Location) : SolarRuntime Location :=
  match state.solarResolver with
  | none => state
  | some resolver =>
    match resolver.dispatch with
    | some resolver => { state with solarResolver := some resolver }
    | none => { state with solarTerminal := true }

def requestLocation (state : SolarRuntime Location) (now : Nat) : SolarRuntime Location :=
  if state.requests now then { state with solarRequested := true }.dispatchSolar else state

def checkDue (state : SolarRuntime Location) (now : Nat) : Bool :=
  state.nextSolarCheck.all fun deadline => deadline ≤ now

def checkMapping (state : SolarRuntime Location) (input : SolarInput) (checked settled : Nat) :
    Except String (SolarRuntime Location) :=
  if state.checkDue checked then do
    let state := { state with nextSolarCheck := some (settled + solarCheckInterval) }
    let clock ← input.check.currentClock
    if solarMappingDue state.runtime.appearance state.hasSolarSchedule state.location.isSome state.mapped
        clock then
      state.installSolarMapping geography input.mapping
    else pure state
  else pure state

def maintainSolar (state : SolarRuntime Location) (input : SolarInput) :
    Except String (SolarRuntime Location) :=
  if !state.solarEnabled then .ok state
  else do
    let (gate, opened) ← state.approach geography input (state.receivedAt input)
    if opened then
      (gate.requestLocation (state.requestedAt input)).checkMapping geography input (state.checkedAt input)
        (state.settledAt input)
    else pure gate

/-! ### Passes -/

/-- The pass up to `maintain_solar`, which learns the metadata when the decoder is initialized. -/
def decoded (state : SolarRuntime Location) (input : SolarInput) : Except String (SolarRuntime Location) := do
  let synchronized ← state.runtime.synchronize input.pass.check
  let runtime ← synchronized.receive input.pass
  let metadata :=
    match input.pass.worker with
    | .received (.initialized metadata _) => some metadata
    | _ => state.metadata
  pure { state with runtime, metadata }

def maintain (state : SolarRuntime Location) (input : SolarInput) :
    Except String (SolarRuntime Location × List Nat) := do
  let decoded ← state.decoded input
  let solar ← decoded.maintainSolar geography input
  let prepared ← solar.runtime.preparePresentation input.pass.presentation
  let (runtime, drawn) := prepared.present input.pass
  pure ({ solar with runtime, now := state.settledAt input }, drawn)

end SolarRuntime

inductive SolarLabel (Location : Type) where
  | event (event : RuntimeEvent)
  | pass (input : SolarInput)
  | thread (step : SolarThreadStep Location)
  | wait (elapsed : Nat)

namespace SolarRuntime

variable {Location : Type} (geography : Geography Location)

/-- The decoder's worker sends the metadata once. -/
def admits (state : SolarRuntime Location) (input : SolarInput) : Bool :=
  match input.pass.worker with
  | .received (.initialized _ _) => state.metadata.isNone
  | _ => true

def next (state : SolarRuntime Location) : SolarLabel Location → Option (SolarRuntime Location)
  | .event (.maintain _) => none
  | .event event => (state.runtime.handle event).map fun handled => { state with runtime := handled.1 }
  | .pass input =>
    if state.admits input then (state.maintain geography input).toOption.map (·.1) else none
  | .thread step =>
    match state.solarResolver with
    | none => none
    | some resolver =>
      (resolver.advance step).map fun resolver => { state with solarResolver := some resolver }
  | .wait elapsed => some { state with now := state.now + elapsed }

def Starts (state : SolarRuntime Location) : Prop :=
  state.runtime.Starts ∧ ∃ solarEnabled now, state =
    { runtime := state.runtime
      solarEnabled := solarEnabled
      solarResolver := none
      solarRequested := false
      solarTerminal := false
      metadata := none
      location := none
      nextLocationRefresh := none
      nextSolarCheck := none
      mapped := none
      now := now }

end SolarRuntime

def solarSystem {Location : Type} (geography : Geography Location) :
    TransitionSystem (SolarRuntime Location) (SolarLabel Location) :=
  .ofPartial SolarRuntime.Starts (SolarRuntime.next geography)

end Genkan.DesktopWallpaper
