import Genkan.SessionLock.Drawing
import Genkan.SessionLock.Redraw

/-! # Lock surfaces and their buffers

A surface owns at most two shared-memory buffers.  `released` says that `SlotPool::canvas` would
hand the buffer out again, that is, that the compositor does not hold it.  A `Commit` records what
one `wl_surface.commit` gave to the compositor.
-/

namespace Genkan.SessionLock

structure CachedOverlay where
  source : RgbaFrame
  size : Nat × Nat
  frame : RgbaFrame
  deriving DecidableEq

/-- The source compares the addresses of the two allocations, not their contents. -/
def CachedOverlay.matches (cache : CachedOverlay) (source : RgbaFrame) (size : Nat × Nat) : Bool :=
  cache.size == size &&
    (cache.source.dimensions == source.dimensions &&
      (cache.source.pixels.data.length == source.pixels.data.length &&
        cache.source.pixels.pointer == source.pixels.pointer))

structure SurfaceBuffer where
  size : Nat × Nat
  geometryGeneration : UInt64
  roleGeneration : UInt64
  backgroundGeneration : UInt64
  canvas : Canvas
  released : Bool
  deriving DecidableEq

structure Surface where
  output : Nat
  outputName : Option String
  lockSurface : Nat
  size : Option (Nat × Nat)
  scale : Nat
  geometryGeneration : UInt64
  roleGeneration : UInt64
  buffers : List SurfaceBuffer
  overlayCache : Option CachedOverlay
  authentication : Bool
  redraw : RedrawState
  firstPresented : Bool
  deriving DecidableEq

structure Commit where
  lockSurface : Nat
  output : Nat
  size : Nat × Nat
  canvas : Canvas
  damaged : Region
  frame : Option PresentationFrame
  authentication : Bool
  roleChange : Bool
  feedback : Option Nat
  backgroundGeneration : UInt64
  geometryGeneration : UInt64
  roleGeneration : UInt64
  deriving DecidableEq

/-- What the operating system and the protocol libraries answer while one surface is rendered;
`some` is the text of a failure. -/
structure RenderEnvironment where
  pool : Option String := .none
  buffer : Option String := .none
  feedback : Option String := .none
  attach : Option String := .none

namespace Surface

/-- The surface as `add_surface` pushes it. -/
def new (output : Nat) (outputName : Option String) (lockSurface : Nat) : Surface where
  output := output
  outputName := outputName
  lockSurface := lockSurface
  size := .none
  scale := 1
  geometryGeneration := 0
  roleGeneration := 0
  buffers := []
  overlayCache := .none
  authentication := false
  redraw := { redrawPending := some .full }
  firstPresented := false

def setAuthentication (surface : Surface) (authentication : Bool) : Surface :=
  if surface.authentication = authentication then surface
  else
    { surface with
      authentication := authentication
      overlayCache := .none
      roleGeneration := surface.roleGeneration + 1
      redraw := if surface.size.isSome then surface.redraw.requestRoleChange else surface.redraw }

def configure (surface : Surface) (size : Nat × Nat) : Surface :=
  if surface.size ≠ some size then
    { surface with
      size := some size
      geometryGeneration := surface.geometryGeneration + 1
      redraw := surface.redraw.requestGeometry }
  else surface

def scaleFactorChanged (surface : Surface) (scale : Nat) : Surface :=
  if surface.scale ≠ scale then
    { surface with
      scale := scale
      geometryGeneration := surface.geometryGeneration + 1
      redraw := surface.redraw.requestGeometry }
  else surface

/-! ## The overlay cache -/

/-- The overlay a cache must hold after `scaled_overlay` asked for this one. -/
def refreshCache (surface : Surface) (overlay : RgbaFrame) (target : Region) : CachedOverlay :=
  let size := (target.width, target.height)
  let fresh : CachedOverlay :=
    { source := overlay, size, frame := scaleOverlay overlay target.width target.height }
  match surface.overlayCache with
  | some cache => if cache.matches overlay size then cache else fresh
  | .none => fresh

def scaledOverlay (surface : Surface) (frame : Option PresentationFrame) (width height : Nat) :
    Surface × Option RgbaFrame :=
  if !surface.authentication then ({ surface with overlayCache := .none }, .none)
  else
    match frame with
    | .none => (surface, .none)
    | some frame =>
      match overlayGeometry frame width height with
      | .none => (surface, .none)
      | some geometry =>
        let cache := surface.refreshCache frame.overlay geometry.target
        ({ surface with overlayCache := some cache }, some cache.frame)

/-! ## Choosing and drawing a buffer -/

def retainBuffers (surface : Surface) (size : Nat × Nat) : Surface :=
  { surface with
    buffers := surface.buffers.filter fun buffer =>
      buffer.size == size && (buffer.geometryGeneration == surface.geometryGeneration &&
        buffer.roleGeneration == surface.roleGeneration) }

def reusableBuffers (surface : Surface) (size : Nat × Nat) : List (Nat × UInt64) :=
  surface.buffers.zipIdx.filterMap fun entry =>
    if entry.1.size == size && entry.1.released then some (entry.2, entry.1.backgroundGeneration)
    else .none

def setBuffer (surface : Surface) (index : Nat) (buffer : SurfaceBuffer) : Surface :=
  { surface with buffers := surface.buffers.set index buffer }

/-- `pool.create_buffer` hands out zeroed memory. -/
def blankCanvas (size : Nat × Nat) : Canvas := List.replicate (size.1 * size.2) ⟨0, 0, 0, 0⟩

inductive Drawing where
  | busy
  | failed (error : Error)
  | drawn (surface : Surface) (index : Nat) (damaged : Region)

def redrawBuffer (buffer : SurfaceBuffer) (size : Nat × Nat) (requested : RedrawKind)
    (frame : Option PresentationFrame) (scaledOverlay : Option RgbaFrame) (authentication : Bool)
    (backgroundGeneration : UInt64) : SurfaceBuffer × Region :=
  let damaged := redrawRegion requested buffer.backgroundGeneration backgroundGeneration frame
    size.1 size.2
  if requested = .full ∨ buffer.backgroundGeneration ≠ backgroundGeneration then
    ({ buffer with
        canvas := drawOpaqueCached buffer.canvas size.1 size.2 frame scaledOverlay authentication
        backgroundGeneration := backgroundGeneration }, damaged)
  else
    ({ buffer with
        canvas := drawOpaqueRegionCached buffer.canvas size.1 size.2 frame scaledOverlay
          authentication damaged }, damaged)

def allocateBuffer (surface : Surface) (size : Nat × Nat) (frame : Option PresentationFrame)
    (scaledOverlay : Option RgbaFrame) (backgroundGeneration : UInt64)
    (environment : RenderEnvironment) : Drawing :=
  match alignedBufferCapacity (size.1 * size.2 * 4) with
  | .error error => .failed error
  | .ok _ =>
    match environment.pool, environment.buffer with
    | some error, _ => .failed (.runtime ("could not allocate lock buffer pool: " ++ error))
    | .none, some error => .failed (.runtime ("could not allocate lock buffer: " ++ error))
    | .none, .none =>
      let buffer : SurfaceBuffer := {
        size := size
        geometryGeneration := surface.geometryGeneration
        roleGeneration := surface.roleGeneration
        backgroundGeneration := backgroundGeneration
        canvas := drawOpaqueCached (blankCanvas size) size.1 size.2 frame scaledOverlay
          surface.authentication
        released := true }
      .drawn { surface with buffers := surface.buffers ++ [buffer] } surface.buffers.length
        (Region.full size.1 size.2)

def draw (surface : Surface) (size : Nat × Nat) (frame : Option PresentationFrame)
    (scaledOverlay : Option RgbaFrame) (backgroundGeneration : UInt64)
    (environment : RenderEnvironment) : Drawing :=
  let requested := surface.redraw.redrawPending.getD .full
  let selected := selectReusableBuffer requested backgroundGeneration (surface.reusableBuffers size)
  match selected.bind fun index => surface.buffers[index]?.map fun buffer => (index, buffer) with
  | some (index, buffer) =>
    let (buffer, damaged) := redrawBuffer buffer size requested frame scaledOverlay
      surface.authentication backgroundGeneration
    .drawn (surface.setBuffer index buffer) index damaged
  | .none =>
    if bufferCount ≤ surface.buffers.length then .busy
    else surface.allocateBuffer size frame scaledOverlay backgroundGeneration environment

/-! ## The fields a redraw leaves alone -/

/-- Everything but the buffers and the overlay cache. -/
structure SameIdentity (first second : Surface) : Prop where
  output : first.output = second.output
  outputName : first.outputName = second.outputName
  lockSurface : first.lockSurface = second.lockSurface
  size : first.size = second.size
  scale : first.scale = second.scale
  geometryGeneration : first.geometryGeneration = second.geometryGeneration
  roleGeneration : first.roleGeneration = second.roleGeneration
  authentication : first.authentication = second.authentication
  redraw : first.redraw = second.redraw

theorem SameIdentity.refl (surface : Surface) : surface.SameIdentity surface := by
  constructor <;> rfl

theorem SameIdentity.trans {first second third : Surface} (left : first.SameIdentity second)
    (right : second.SameIdentity third) : first.SameIdentity third where
  output := left.output.trans right.output
  outputName := left.outputName.trans right.outputName
  lockSurface := left.lockSurface.trans right.lockSurface
  size := left.size.trans right.size
  scale := left.scale.trans right.scale
  geometryGeneration := left.geometryGeneration.trans right.geometryGeneration
  roleGeneration := left.roleGeneration.trans right.roleGeneration
  authentication := left.authentication.trans right.authentication
  redraw := left.redraw.trans right.redraw

theorem retainBuffers_same (surface : Surface) (size : Nat × Nat) :
    (surface.retainBuffers size).SameIdentity surface := by
  constructor <;> rfl

theorem setBuffer_same (surface : Surface) (index : Nat) (buffer : SurfaceBuffer) :
    (surface.setBuffer index buffer).SameIdentity surface := by
  constructor <;> rfl

theorem scaledOverlay_same (surface : Surface) (frame : Option PresentationFrame)
    (width height : Nat) : (surface.scaledOverlay frame width height).1.SameIdentity surface := by
  simp only [scaledOverlay]
  split
  next => constructor <;> rfl
  next =>
    split
    next => exact .refl surface
    next =>
      split
      next => exact .refl surface
      next => constructor <;> rfl

theorem scaledOverlay_buffers (surface : Surface) (frame : Option PresentationFrame)
    (width height : Nat) :
    (surface.scaledOverlay frame width height).1.buffers = surface.buffers := by
  simp only [scaledOverlay]
  split
  next => rfl
  next =>
    split
    next => rfl
    next => split <;> rfl

theorem redrawBuffer_generations (buffer : SurfaceBuffer) (size : Nat × Nat) (requested : RedrawKind)
    (frame : Option PresentationFrame) (overlay : Option RgbaFrame) (authentication : Bool)
    (backgroundGeneration : UInt64) :
    let redrawn := (redrawBuffer buffer size requested frame overlay authentication
      backgroundGeneration).1
    redrawn.size = buffer.size ∧ redrawn.geometryGeneration = buffer.geometryGeneration ∧
      redrawn.roleGeneration = buffer.roleGeneration ∧
      redrawn.backgroundGeneration = backgroundGeneration := by
  simp only [redrawBuffer]
  split
  next => exact ⟨rfl, rfl, rfl, rfl⟩
  next current =>
    simp only [not_or, ne_eq, Decidable.not_not] at current
    exact ⟨rfl, rfl, rfl, current.2⟩

/-- Drawing either redraws one of the surface's buffers or appends a freshly drawn one. -/
theorem draw_cases {surface drawn : Surface} {size : Nat × Nat} {frame : Option PresentationFrame}
    {overlay : Option RgbaFrame} {backgroundGeneration : UInt64} {environment : RenderEnvironment}
    {index : Nat} {damaged : Region}
    (drew : surface.draw size frame overlay backgroundGeneration environment =
      .drawn drawn index damaged) :
    (∃ buffer, surface.buffers[index]? = some buffer ∧
      drawn = surface.setBuffer index (redrawBuffer buffer size
        (surface.redraw.redrawPending.getD .full) frame overlay surface.authentication
        backgroundGeneration).1) ∨
    (index = surface.buffers.length ∧ damaged = Region.full size.1 size.2 ∧
      drawn = { surface with
        buffers := surface.buffers ++ [{
          size := size
          geometryGeneration := surface.geometryGeneration
          roleGeneration := surface.roleGeneration
          backgroundGeneration := backgroundGeneration
          canvas := drawOpaqueCached (blankCanvas size) size.1 size.2 frame overlay
            surface.authentication
          released := true }] }) := by
  simp only [draw] at drew
  split at drew
  next found selected =>
    obtain ⟨position, isSelected, fetched⟩ := Option.bind_eq_some_iff.mp selected
    obtain ⟨buffer, isBuffer, equal⟩ := Option.map_eq_some_iff.mp fetched
    cases equal
    cases drew
    exact .inl ⟨_, isBuffer, rfl⟩
  next =>
    split at drew
    next => contradiction
    next =>
      simp only [allocateBuffer] at drew
      split at drew
      next => contradiction
      next =>
        split at drew
        next => contradiction
        next => contradiction
        next =>
          cases drew
          exact .inr ⟨rfl, rfl, rfl⟩

theorem draw_same {surface drawn : Surface} {size : Nat × Nat} {frame : Option PresentationFrame}
    {overlay : Option RgbaFrame} {backgroundGeneration : UInt64} {environment : RenderEnvironment}
    {index : Nat} {damaged : Region}
    (drew : surface.draw size frame overlay backgroundGeneration environment =
      .drawn drawn index damaged) : drawn.SameIdentity surface := by
  rcases draw_cases drew with ⟨buffer, _, rfl⟩ | ⟨_, _, rfl⟩
  · exact setBuffer_same surface index _
  · constructor <;> rfl

end Surface

end Genkan.SessionLock
