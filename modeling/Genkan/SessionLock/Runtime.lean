import Genkan.OutputSelection
import Genkan.SessionLock.Surface

/-! # The session-lock runtime

Every callback of the runtime and every function its loop calls, as functions on the runtime's
state.  What comes from outside (the presentation's answers, the outcome of writes, allocations and
protocol requests) is an argument.  Requests that leave the process are kept in `sent`, newest
first.
-/

namespace Genkan.SessionLock

inductive Request where
  | writeReady (descriptor : Nat)
  | unlock
  | commit (commit : Commit)
  deriving DecidableEq

/-- The part of the runtime that decides about readiness and unlocking. -/
structure LockState where
  state : State
  sessionLock : Bool
  ready : List Nat
  failure : Option Error
  terminate : Bool
  sent : List Request

inductive WriteOutcome where
  | written
  | writeFailed (message : String)
  | flushFailed (message : String)
  deriving DecidableEq, Repr

namespace LockState

def fail (lock : LockState) (error : Error) : LockState :=
  { lock with
    state := (lock.state.update .runtimeFailed).1
    failure := some (lock.failure.getD error)
    terminate := true }

/-- The loop of `ReadySignal::apply`: it stops at the first descriptor that fails. -/
def writeReady (outcome : Nat → WriteOutcome) : List Nat → List Request → List Request × Option String
  | [], sent => (sent, .none)
  | descriptor :: rest, sent =>
    match outcome descriptor with
    | .written => writeReady outcome rest (.writeReady descriptor :: sent)
    | .writeFailed message | .flushFailed message => (.writeReady descriptor :: sent, some message)

/-- Draining drops the remaining descriptors on every path. -/
def reportReady (lock : LockState) (outcome : Nat → WriteOutcome) : LockState :=
  match writeReady outcome lock.ready lock.sent with
  | (sent, .none) => { lock with ready := [], sent := sent }
  | (sent, some message) =>
    { lock with ready := [], sent := sent }.fail
      (.runtime ("could not report lock readiness: " ++ message))

def unlockAndSynchronize (lock : LockState) (roundtrip : Option String) : LockState :=
  let lock :=
    if lock.sessionLock then
      let lock := { lock with sessionLock := false, sent := .unlock :: lock.sent }
      match roundtrip with
      | some message =>
        lock.fail (.runtime ("could not synchronize authorized unlock: " ++ message))
      | .none => lock
    else lock
  { lock with terminate := true }

end LockState

/-! ## Keyboard input -/

inductive Keysym where
  | backSpace
  | return
  | keypadEnter
  | escape
  | tab
  | other
  deriving DecidableEq, Repr

structure KeyEvent where
  keysym : Keysym
  utf8 : Option String
  deriving DecidableEq, Repr

inductive Input where
  | text (text : String)
  | backspace
  | submit
  | cancel
  | nextPage
  deriving DecidableEq, Repr

def isControl (character : Char) : Bool :=
  character.val ≤ 0x1F || (0x7F ≤ character.val && character.val ≤ 0x9F)

def keyInput (event : KeyEvent) : Option Input :=
  match event.keysym with
  | .backSpace => some .backspace
  | .return | .keypadEnter => some .submit
  | .escape => some .cancel
  | .tab => some .nextPage
  | .other => (event.utf8.filter fun text => !text.toList.any isControl).map .text

/-! ## The runtime -/

structure Runtime extends LockState where
  surfaces : List Surface
  /-- What `presentation.frame()` returns. -/
  frame : Option PresentationFrame
  presentationGeometry : Option FrameGeometry
  backgroundGeneration : UInt64
  authenticationOutput : Option String
  retiringAuthentication : Option Nat
  authenticationRetirement : Option AuthenticationRetirement
  authenticationRetirementFeedback : Option Nat
  /-- What `Instant::now()` returns. -/
  now : Nat
  /-- Protocol objects (surfaces and feedbacks) are numbered in the order of their creation. -/
  nextObject : Nat

structure ApplyEnvironment where
  ready : Nat → WriteOutcome := fun _ => .written
  /-- What `presentation.frame()` returns after `lock_confirmed`. -/
  confirmedFrame : Option PresentationFrame := .none
  roundtrip : Option String := .none

namespace Runtime

def fail (runtime : Runtime) (error : Error) : Runtime :=
  { runtime with toLockState := runtime.toLockState.fail error }

def orFail {α : Type} (result : Runtime × Except Error α) : Runtime :=
  match result with
  | (runtime, .ok _) => runtime
  | (runtime, .error error) => runtime.fail error

def modifySurface (runtime : Runtime) (index : Nat) (change : Surface → Surface) : Runtime :=
  { runtime with surfaces := runtime.surfaces.modify index change }

def mapSurfaces (runtime : Runtime) (change : Surface → Surface) : Runtime :=
  { runtime with surfaces := runtime.surfaces.map change }

/-! ## Requesting redraws -/

def recordFullFrame (runtime : Runtime) : Runtime :=
  { runtime with
    presentationGeometry := frameGeometry runtime.frame
    backgroundGeneration := runtime.backgroundGeneration + 1 }

def redrawMedia (runtime : Runtime) : Runtime :=
  if runtime.terminate then runtime
  else
    runtime.mapSurfaces fun surface =>
      if surface.size.isSome then { surface with redraw := surface.redraw.requestMedia } else surface

def redrawAllSurfaces (runtime : Runtime) (kind : RedrawKind) : Runtime :=
  runtime.mapSurfaces fun surface =>
    if surface.size.isSome && (kind == .full || surface.authentication) then
      { surface with redraw := surface.redraw.request kind }
    else surface

def classifyOverlayRedraw (runtime : Runtime) : Runtime × RedrawKind :=
  let current := frameGeometry runtime.frame
  let kind := overlayRedrawKind runtime.presentationGeometry current
  if kind = .full then (runtime.recordFullFrame, kind) else (runtime, kind)

def redrawOverlay (runtime : Runtime) : Runtime :=
  let (runtime, kind) := runtime.classifyOverlayRedraw
  runtime.redrawAllSurfaces kind

def applyRefresh (runtime : Runtime) : Refresh → Runtime
  | .unchanged => runtime
  | .frame | .failed => runtime.recordFullFrame.redrawMedia
  | .overlay => runtime.redrawOverlay

/-! ## The authentication output -/

def selectAuthenticationIndex (outputs : List (Option String × Bool × Bool))
    (requested : Option String) : Option Nat :=
  let indexed := outputs.zipIdx
  let desired := OutputSelection.select (indexed.map fun entry => (entry.2, entry.1.1)) requested
  if desired.any fun index => (outputs[index]?).any (·.2.1) then desired
  else
    (outputs.findIdx? fun output => output.2.1 && output.2.2).or <|
      OutputSelection.select
        ((indexed.filter (·.1.2.1)).map fun entry => (entry.2, entry.1.1)) requested

def candidates (runtime : Runtime) : List (Option String × Bool × Bool) :=
  runtime.surfaces.map fun surface =>
    (surface.outputName, surface.size.isSome, surface.authentication)

def setAuthentication (runtime : Runtime) (index : Nat) (authentication : Bool) : Runtime :=
  runtime.modifySurface index (·.setAuthentication authentication)

def refreshAuthenticationOutput (runtime : Runtime) : Runtime :=
  let selected := selectAuthenticationIndex runtime.candidates runtime.authenticationOutput
  if runtime.retiringAuthentication.isSome then runtime
  else
    let current := runtime.surfaces.findIdx? (·.authentication)
    if current = selected then runtime
    else
      match current with
      | some current =>
        { runtime with
          retiringAuthentication := runtime.surfaces[current]?.map Surface.output
          authenticationRetirement := some (.begin runtime.now)
          authenticationRetirementFeedback := .none }.setAuthentication current false
      | .none =>
        match selected with
        | some selected => runtime.setAuthentication selected true
        | .none => runtime

def clearRetirement (runtime : Runtime) : Runtime :=
  { runtime with
    retiringAuthentication := .none
    authenticationRetirement := .none
    authenticationRetirementFeedback := .none }

def expireAuthenticationRetirement (runtime : Runtime) : Runtime :=
  if !runtime.authenticationRetirement.any (·.expired runtime.now) then runtime
  else
    let restored := runtime.retiringAuthentication.bind fun output =>
      runtime.surfaces.findIdx? fun surface => surface.output == output && surface.size.isSome
    match restored with
    | some index => runtime.clearRetirement.setAuthentication index true
    | .none => runtime.clearRetirement.refreshAuthenticationOutput

/-! ## Outputs -/

def hasOutput (runtime : Runtime) (output : Nat) : Bool :=
  runtime.surfaces.any (·.output == output)

def addSurface (runtime : Runtime) (output : Nat) (name : Option String) :
    Runtime × Except Error Unit :=
  if runtime.hasOutput output then (runtime, .ok ())
  else if !runtime.sessionLock then
    (runtime, .error (.runtime "lock surface requested without a lock"))
  else
    ({ runtime with
        surfaces := runtime.surfaces ++ [Surface.new output name runtime.nextObject]
        nextObject := runtime.nextObject + 1 }.refreshAuthenticationOutput, .ok ())

def addSurfaces (runtime : Runtime) : List (Nat × Option String) → Runtime × Except Error Unit
  | [] => (runtime, .ok ())
  | (output, name) :: rest =>
    match runtime.addSurface output name with
    | (runtime, .error error) => (runtime, .error error)
    | (runtime, .ok ()) => runtime.addSurfaces rest

def reconcileOutputs (runtime : Runtime) (outputs : List (Nat × Option String)) :
    Runtime × Except Error Unit :=
  if runtime.terminate then (runtime, .ok ()) else runtime.addSurfaces outputs

/-- Only the first surface of the output is renamed, as `find` stops there. -/
def renameOutput (runtime : Runtime) (output : Nat) (name : Option String) : Runtime :=
  match runtime.surfaces.findIdx? (·.output == output) with
  | some index => runtime.modifySurface index fun surface => { surface with outputName := name }
  | .none => runtime

def newOutput (runtime : Runtime) (output : Nat) (name : Option String) : Runtime :=
  if runtime.sessionLock && !runtime.terminate then
    if runtime.hasOutput output then (runtime.renameOutput output name).refreshAuthenticationOutput
    else orFail (runtime.addSurface output name)
  else runtime

def updateOutput (runtime : Runtime) (output : Nat) (name : Option String) : Runtime :=
  (runtime.renameOutput output name).refreshAuthenticationOutput

def outputDestroyed (runtime : Runtime) (output : Nat) : Runtime :=
  let runtime := if runtime.retiringAuthentication = some output then runtime.clearRetirement
    else runtime
  { runtime with
    surfaces := runtime.surfaces.filter (·.output != output) }.refreshAuthenticationOutput

def surfaceIndex (runtime : Runtime) (lockSurface : Nat) : Option Nat :=
  runtime.surfaces.findIdx? (·.lockSurface == lockSurface)

def configure (runtime : Runtime) (lockSurface : Nat) (size : Nat × Nat) : Runtime :=
  match runtime.surfaceIndex lockSurface with
  | .none => runtime.fail (.runtime "configured an unknown lock surface")
  | some index => (runtime.modifySurface index (·.configure size)).refreshAuthenticationOutput

def scaleFactorChanged (runtime : Runtime) (lockSurface : Nat) (scale : Int) : Runtime :=
  match runtime.surfaceIndex lockSurface with
  | .none => runtime
  | some index => runtime.modifySurface index (·.scaleFactorChanged (max scale 1).toNat)

def frameCallback (runtime : Runtime) (lockSurface : Nat) : Runtime :=
  if runtime.terminate then runtime
  else
    match runtime.surfaceIndex lockSurface with
    | .none => runtime
    | some index =>
      runtime.modifySurface index fun surface => { surface with redraw := surface.redraw.frameDone }

/-! ## Presentation feedback -/

def presented (runtime : Runtime) (feedback : Nat) : Runtime :=
  if runtime.authenticationRetirementFeedback ≠ some feedback ∨
      !runtime.authenticationRetirement.any (·.acceptsPresentation) then runtime
  else runtime.clearRetirement.refreshAuthenticationOutput

def discarded (runtime : Runtime) (feedback lockSurface : Nat) : Runtime :=
  if runtime.authenticationRetirementFeedback ≠ some feedback then runtime
  else
    let runtime := { runtime with
      authenticationRetirementFeedback := .none
      authenticationRetirement := runtime.authenticationRetirement.map AuthenticationRetirement.discarded }
    match runtime.surfaceIndex lockSurface with
    | .none => runtime
    | some index =>
      runtime.modifySurface index fun surface =>
        { surface with redraw := surface.redraw.requestRoleChange }

/-! ## Rendering -/

def bufferBytes (size : Nat × Nat) : Except Error Nat :=
  match (checkedMul32 size.1 size.2).filter (· ≤ maxSurfacePixels) with
  | .none => .error (.runtime "compositor requested an unsafe lock-surface size")
  | some pixels =>
    if pixels * 4 > maxBufferBytes then
      .error (.runtime "compositor requested a lock buffer larger than the resource budget")
    else .ok (pixels * 4)

def setSurface (runtime : Runtime) (index : Nat) (surface : Surface) : Runtime :=
  { runtime with surfaces := runtime.surfaces.set index surface }

def commitRecord (runtime : Runtime) (surface : Surface) (buffer : SurfaceBuffer) (damaged : Region)
    (feedback : Option Nat) : Commit where
  lockSurface := surface.lockSurface
  output := surface.output
  size := buffer.size
  canvas := buffer.canvas
  damaged := damaged
  frame := runtime.frame
  authentication := surface.authentication
  roleChange := surface.redraw.rolePending
  feedback := feedback
  backgroundGeneration := buffer.backgroundGeneration
  geometryGeneration := buffer.geometryGeneration
  roleGeneration := buffer.roleGeneration

/-- The end of `render`: the buffer is attached and the surface committed. -/
def commitBuffer (runtime : Runtime) (index : Nat) (surface : Surface) (bufferIndex : Nat)
    (buffer : SurfaceBuffer) (damaged : Region) (feedback : Option Nat) : Runtime :=
  let attached := surface.setBuffer bufferIndex { buffer with released := false }
  { runtime with
    surfaces := runtime.surfaces.set index { attached with
      redraw := surface.redraw.committed surface.redraw.requestFrameCallback
      firstPresented := true }
    sent := .commit (runtime.commitRecord surface buffer damaged feedback) :: runtime.sent
    authenticationRetirement :=
      if feedback.isSome then runtime.authenticationRetirement.map AuthenticationRetirement.committed
      else runtime.authenticationRetirement }

/-- Without presentation feedback the role goes back to the surface that was to lose it. -/
def restoreRole (runtime : Runtime) (index : Nat) (surface : Surface) : Runtime :=
  { runtime with
    surfaces := runtime.surfaces.set index { surface with
      authentication := true
      overlayCache := .none
      roleGeneration := surface.roleGeneration + 1
      redraw := surface.redraw.requestRoleChange } }.clearRetirement

def retiring (runtime : Runtime) (surface : Surface) : Bool :=
  surface.redraw.rolePending && (!surface.authentication &&
    runtime.retiringAuthentication == some surface.output)

def requestFeedback (runtime : Runtime) : Runtime :=
  { runtime with
    authenticationRetirementFeedback := some runtime.nextObject
    nextObject := runtime.nextObject + 1 }

/-- The part of `render` after the pixels are drawn. -/
def present (runtime : Runtime) (index : Nat) (surface : Surface) (bufferIndex : Nat)
    (damaged : Region) (environment : RenderEnvironment) : Runtime × Except Error Unit :=
  if runtime.retiring surface && environment.feedback.isSome then
    (runtime.restoreRole index surface, .ok ())
  else
    let feedback := if runtime.retiring surface then some runtime.nextObject else .none
    let requested := if runtime.retiring surface then runtime.requestFeedback else runtime
    match environment.attach, surface.buffers[bufferIndex]? with
    | some message, _ =>
      (requested.setSurface index surface,
        .error (.runtime ("could not attach lock buffer: " ++ message)))
    | .none, some buffer =>
      (requested.commitBuffer index surface bufferIndex buffer damaged feedback, .ok ())
    | .none, .none => (requested.setSurface index surface, .ok ())

def render (runtime : Runtime) (index : Nat) (environment : RenderEnvironment) :
    Runtime × Except Error Unit :=
  match runtime.surfaces[index]? with
  | .none => (runtime, .ok ())
  | some surface =>
    match surface.size with
    | .none => (runtime, .error (.runtime "attempted to render an unconfigured surface"))
    | some (width, height) =>
      match bufferSize width height surface.scale with
      | .error error => (runtime, .error error)
      | .ok size =>
        match bufferBytes size with
        | .error error => (runtime, .error error)
        | .ok _ =>
          let (cached, overlay) := surface.scaledOverlay runtime.frame size.1 size.2
          let retained := cached.retainBuffers size
          match retained.draw size runtime.frame overlay runtime.backgroundGeneration environment with
          | .busy => (runtime.setSurface index retained, .ok ())
          | .failed error => (runtime.setSurface index retained, .error error)
          | .drawn drawn bufferIndex damaged =>
            runtime.present index drawn bufferIndex damaged environment

def renderAll (runtime : Runtime) (environment : Nat → RenderEnvironment) :
    List Nat → Runtime × Except Error Unit
  | [] => (runtime, .ok ())
  | index :: rest =>
    match runtime.render index (environment index) with
    | (runtime, .error error) => (runtime, .error error)
    | (runtime, .ok ()) => runtime.renderAll environment rest

/-- The buffer loop that `maintain_surfaces` and `commit_partial_overlays` share: stale buffers are
dropped and each configured surface is classified by whether a buffer, and one with the current
background, can be reused.  An impossible size stops the loop. -/
def survey {α : Type} (backgroundGeneration : UInt64) (classify : Surface → Bool → Bool → α) :
    List Surface → List Surface × Except Error (List (Option α))
  | [] => ([], .ok [])
  | surface :: rest =>
    match surface.size with
    | .none =>
      let (surveyed, result) := survey backgroundGeneration classify rest
      (surface :: surveyed, result.map (.none :: ·))
    | some (width, height) =>
      match bufferSize width height surface.scale with
      | .error error => (surface :: rest, .error error)
      | .ok size =>
        let retained := surface.retainBuffers size
        let released := retained.buffers.filter (·.released)
        let classified := classify retained (!released.isEmpty)
          (released.any (·.backgroundGeneration == backgroundGeneration))
        let (surveyed, result) := survey backgroundGeneration classify rest
        (retained :: surveyed, result.map (some classified :: ·))

def indicesWhere {α : Type} (flags : List (Option α)) (holds : α → Bool) : List Nat :=
  flags.zipIdx.filterMap fun entry => if entry.1.any holds then some entry.2 else .none

def authenticationAt (runtime : Runtime) (index : Nat) : Bool :=
  runtime.surfaces[index]?.any (·.authentication)

/-- A stable sort by a Boolean key. -/
def sortByAuthentication (runtime : Runtime) (indices : List Nat) : List Nat :=
  indices.filter (fun index => !runtime.authenticationAt index) ++
    indices.filter (fun index => runtime.authenticationAt index)

def readyToRedraw (allowOverlayFull : Bool) (surface : Surface) (reusable current : Bool) : Bool :=
  let progress := overlayProgress surface.redraw surface.buffers.length reusable current false
  surface.redraw.shouldRender surface.buffers.length reusable &&
    (allowOverlayFull || progress != .full)

def maintainSurfaces (runtime : Runtime) (allowOverlayFull : Bool)
    (environment : Nat → RenderEnvironment) : Runtime × Except Error Unit :=
  match survey runtime.backgroundGeneration (readyToRedraw allowOverlayFull) runtime.surfaces with
  | (surfaces, .error error) => ({ runtime with surfaces }, .error error)
  | (surfaces, .ok flags) =>
    let runtime := { runtime with surfaces }
    runtime.renderAll environment (runtime.sortByAuthentication (indicesWhere flags id))

def summarize (progress : List (Option OverlayProgress)) : OverlayProgressSummary where
  partialUpdate := progress.contains (some .partialUpdate)
  full := progress.contains (some .full)
  blocked := progress.contains (some .blocked)
  unblocked := progress.any fun entry => entry.any (· != .blocked)

def commitPartialOverlays (runtime : Runtime) (environment : Nat → RenderEnvironment) :
    Runtime × Except Error OverlayProgressSummary :=
  let classify := fun (surface : Surface) reusable current =>
    overlayProgress surface.redraw surface.buffers.length reusable current true
  match survey runtime.backgroundGeneration classify runtime.surfaces with
  | (surfaces, .error error) => ({ runtime with surfaces }, .error error)
  | (surfaces, .ok progress) =>
    let runtime := { runtime with surfaces }
    match runtime.renderAll environment (indicesWhere progress (· == .partialUpdate)) with
    | (runtime, .error error) => (runtime, .error error)
    | (runtime, .ok ()) => (runtime, .ok (summarize progress))

/-! ## The lock lifecycle -/

def apply (runtime : Runtime) (action : Action) (environment : ApplyEnvironment) : Runtime :=
  match action with
  | .none => runtime
  | .reportReady =>
    let runtime := { runtime with toLockState := runtime.toLockState.reportReady environment.ready }
    if runtime.terminate then runtime
    else
      { runtime with frame := environment.confirmedFrame }.recordFullFrame.redrawAllSurfaces .full
  | .abort => runtime.fail .lockFinished
  | .unlockAndSynchronize =>
    { runtime with toLockState := runtime.toLockState.unlockAndSynchronize environment.roundtrip }

def locked (runtime : Runtime) (environment : ApplyEnvironment) : Runtime :=
  let (state, action) := lockConfirmationAction runtime.state
    (runtime.failure.isSome || runtime.terminate)
  { runtime with state := state }.apply action environment

def finished (runtime : Runtime) : Runtime :=
  let (state, action) := runtime.state.update .lockFinished
  { runtime with state := state }.apply action {}

def recordPresentationFailure (runtime : Runtime) (refresh : Refresh) : Runtime :=
  if refresh = .failed then
    { runtime with state := (runtime.state.update .presentationFailed).1 }
  else runtime

def authorizeUnlock (runtime : Runtime) (roundtrip : Option String) : Runtime :=
  let (state, action) := runtime.state.authorizeUnlock
  { runtime with state := state }.apply action { roundtrip }

/-- One turn of the loop up to `apply_refresh`: `refresh_priority`, `take_authorization` and the
check of `terminate` that leaves the loop before the refresh is applied. -/
def pollPriority (runtime : Runtime) (refresh : Refresh) (frame : Option PresentationFrame)
    (authorized : Bool) (roundtrip : Option String) : Runtime :=
  let runtime := { runtime with frame := frame }.recordPresentationFailure refresh
  let runtime := if authorized then runtime.authorizeUnlock roundtrip else runtime
  if runtime.terminate then runtime else runtime.applyRefresh refresh

def pollDeferred (runtime : Runtime) (refresh : Refresh) (frame : Option PresentationFrame) :
    Runtime :=
  ({ runtime with frame := frame }.recordPresentationFailure refresh).applyRefresh refresh

/-- `changed` is what `presentation.input` answers; it is not asked about an ignored key. -/
def handleKey (runtime : Runtime) (event : KeyEvent) (changed : Bool)
    (frame : Option PresentationFrame) : Runtime :=
  if (keyInput event).isNone then runtime
  else
    let runtime := { runtime with frame := frame }
    if changed then runtime.redrawOverlay else runtime

/-- The compositor gives one of a surface's buffers back. -/
def releaseBuffer (runtime : Runtime) (lockSurface bufferIndex : Nat) : Runtime :=
  match runtime.surfaceIndex lockSurface with
  | .none => runtime
  | some index =>
    runtime.modifySurface index fun surface =>
      { surface with buffers := surface.buffers.modify bufferIndex fun buffer =>
          { buffer with released := true } }

def advance (runtime : Runtime) (elapsed : Nat) : Runtime :=
  { runtime with now := runtime.now + elapsed }

end Runtime

end Genkan.SessionLock
