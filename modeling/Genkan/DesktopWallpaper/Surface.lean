import Genkan.DesktopWallpaper.Presentation
import Mathlib.Algebra.Ring.Nat

/-! # Surfaces of the desktop wallpaper and their buffers

What the compositor and the shared memory answer while a surface is drawn is an input: which buffers
it has released, and whether a pool, a buffer or its attachment fails.
-/

namespace Genkan.DesktopWallpaper

/-! ## Geometry -/

def resolveConfigureSize (suggested : Nat × Nat) (previous output : Option (Nat × Nat)) :
    Option (Nat × Nat) := do
  let fallback := output.or previous
  let width ← if suggested.1 ≠ 0 then some suggested.1 else fallback.map (·.1)
  let height ← if suggested.2 ≠ 0 then some suggested.2 else fallback.map (·.2)
  some (width, height)

def maxSurfaceDimension : Nat := 16384

def maxBufferBytes : Nat := 256 * 1024 * 1024

structure BufferGeometry where
  width : Nat
  height : Nat
  bytes : Nat

/-- The limits are far below the bounds of the machine integers. -/
def bufferGeometry (size : Nat × Nat) (scale : Int) : Except String BufferGeometry := do
  let scale := (max scale 1).toNat
  let width := size.1 * scale
  if maxSurfaceDimension < width then throw "unsafe wallpaper surface width"
  let height := size.2 * scale
  if maxSurfaceDimension < height then throw "unsafe wallpaper surface height"
  let bytes := width * height * 4
  if maxBufferBytes < bytes then throw "wallpaper buffer exceeds resource limit"
  pure { width := width, height := height, bytes := bytes }

/-! ## Buffers -/

def bufferCount : Nat := 2

inductive BufferDecision where
  | reuse (index : Nat)
  | allocate
  | wait

def bufferDecision (released : List Bool) (count : Nat) : BufferDecision :=
  match released.findIdx? id with
  | some index => .reuse index
  | none => if count < bufferCount then .allocate else .wait

structure SurfaceBuffer where
  size : Nat × Nat
  generation : UInt64

structure Surface where
  output : Nat
  layer : Nat
  configureHints : Option (Nat × Nat)
  size : Option (Nat × Nat)
  scale : Int
  geometryGeneration : UInt64
  buffers : List SurfaceBuffer
  presentation : PresentationState
  frameCallback : Bool
  lastError : Option String

/-- What happens outside the program while a surface is drawn. -/
structure RenderInput where
  released : Nat → Bool
  poolError : Option String
  bufferError : Option String
  attachError : Option String

namespace Surface

def new (output layer : Nat) : Surface where
  output := output
  layer := layer
  configureHints := none
  size := none
  scale := 1
  geometryGeneration := 0
  buffers := []
  presentation := .new
  frameCallback := false
  lastError := none

def refreshGeometry (surface : Surface) (outputSize : Option (Nat × Nat)) (retry : Bool) : Surface :=
  match surface.configureHints.bind fun hints => resolveConfigureSize hints surface.size outputSize with
  | none => surface
  | some size =>
    let resized := if surface.size ≠ some size then
        { surface with size := some size, geometryGeneration := surface.geometryGeneration + 1 }
      else surface
    if retry then
      { resized with presentation := resized.presentation.geometryChanged, lastError := none }
    else resized

def scaleFactorChanged (surface : Surface) (scale : Int) : Surface :=
  let scale := max scale 1
  if surface.scale ≠ scale then
    { surface with
      scale := scale
      geometryGeneration := surface.geometryGeneration + 1
      presentation := surface.presentation.geometryChanged
      lastError := none }
  else surface

def transformChanged (surface : Surface) : Surface :=
  { surface with
    geometryGeneration := surface.geometryGeneration + 1
    presentation := surface.presentation.geometryChanged
    lastError := none }

def frameArrived (surface : Surface) : Surface :=
  { surface with frameCallback := false, presentation := surface.presentation.frameArrived }

def playbackChanged (surface : Surface) : Surface :=
  { surface with presentation := surface.presentation.playbackChanged }

/-! ## Drawing -/

/-- Buffers of another geometry are dropped once the compositor has released them. -/
def retainBuffers (surface : Surface) (geometry : BufferGeometry) (released : Nat → Bool) :
    List (SurfaceBuffer × Bool) :=
  (surface.buffers.mapIdx fun position buffer => (buffer, released position)).filter
    fun (buffer, released) =>
      (buffer.size = (geometry.width, geometry.height) &&
        buffer.generation = surface.geometryGeneration) || !released

/-- The buffer is attached and committed; tells that the surface was drawn. -/
def commit (surface : Surface) (transitioning : Bool) (input : RenderInput) :
    Surface × Except String Bool :=
  match input.attachError with
  | some error => (surface, .error ("could not attach wallpaper buffer: " ++ error))
  | none =>
    let requestNextFrame := requestFrame transitioning surface.presentation.framePending
    ({ surface with
       frameCallback := requestNextFrame || surface.frameCallback
       presentation := surface.presentation.rendered requestNextFrame
       lastError := none }, .ok true)

def allocate (surface : Surface) (geometry : BufferGeometry) (input : RenderInput) :
    Except String Surface := do
  if 2 ^ 64 ≤ geometry.bytes + 63 then throw "wallpaper buffer capacity overflow"
  if let some error := input.poolError then throw ("could not allocate wallpaper pool: " ++ error)
  if let some error := input.bufferError then throw ("could not allocate wallpaper buffer: " ++ error)
  let buffer : SurfaceBuffer :=
    { size := (geometry.width, geometry.height), generation := surface.geometryGeneration }
  pure { surface with buffers := surface.buffers ++ [buffer] }

/-- Tells whether the surface was drawn; it is not while it waits for a buffer. -/
def render (surface : Surface) (transitioning : Bool) (input : RenderInput) :
    Surface × Except String Bool :=
  match surface.size with
  | none => (surface, .error "attempted to render an unconfigured surface")
  | some size =>
    match bufferGeometry size surface.scale with
    | .error error => (surface, .error error)
    | .ok geometry =>
      let retained := surface.retainBuffers geometry input.released
      let surface := { surface with buffers := retained.map (·.1) }
      match bufferDecision (retained.map (·.2)) retained.length with
      | .reuse _ => surface.commit transitioning input
      | .wait => (surface, .ok false)
      | .allocate =>
        match surface.allocate geometry input with
        | .error error => (surface, .error error)
        | .ok surface => surface.commit transitioning input

/-- Carries out what a pass decided; tells whether the surface was drawn. -/
def perform (surface : Surface) (action : SurfaceAction) (transitioning : Bool) (input : RenderInput) :
    Surface × Bool :=
  match action with
  | .idle => (surface, false)
  | .rearm =>
    ({ surface with frameCallback := true, presentation := surface.presentation.rearmed }, false)
  | .render =>
    match surface.render transitioning input with
    | (surface, .ok drawn) => (surface, drawn)
    | (surface, .error error) =>
      ({ surface with presentation := surface.presentation.disable, lastError := some error }, false)

/-- What a pass decides about the surface. -/
def decide (surface : Surface) (transitioning : Bool) : Surface × SurfaceAction :=
  let (presentation, action) := surface.presentation.nextAction transitioning surface.size.isSome
  ({ surface with presentation := presentation }, action)

end Surface

end Genkan.DesktopWallpaper
