import Genkan.SessionLock.Frame
import Genkan.SessionLock.Lifecycle

/-! # Redraw bookkeeping

The small state machines of the session-lock runtime: what a surface still has to draw, how an
authentication handoff is timed, and which of a surface's buffers a redraw may use.  Generations
are the 64-bit counters of the source and wrap around.
-/

namespace Genkan.SessionLock

def bufferCount : Nat := 2

def maxSurfacePixels : Nat := 16384 * 16384

def maxSurfaceDimension : Nat := 16384

def maxBufferBytes : Nat := 256 * 1024 * 1024

/-- `AUTHENTICATION_RETIREMENT_TIMEOUT`, in milliseconds like every instant of the model. -/
def authenticationRetirementTimeout : Nat := 1000

/-! ## Retiring the authentication output -/

inductive AuthenticationRetirement where
  | awaitingCommit (deadline : Nat)
  | awaitingPresentation (deadline : Nat)
  deriving DecidableEq, Repr

namespace AuthenticationRetirement

def begin (now : Nat) : AuthenticationRetirement :=
  .awaitingCommit (now + authenticationRetirementTimeout)

def committed : AuthenticationRetirement → AuthenticationRetirement
  | .awaitingCommit deadline => .awaitingPresentation deadline
  | .awaitingPresentation deadline => .awaitingPresentation deadline

def discarded : AuthenticationRetirement → AuthenticationRetirement
  | .awaitingPresentation deadline => .awaitingCommit deadline
  | .awaitingCommit deadline => .awaitingCommit deadline

def acceptsPresentation : AuthenticationRetirement → Bool
  | .awaitingPresentation _ => true
  | .awaitingCommit _ => false

def deadline : AuthenticationRetirement → Nat
  | .awaitingCommit deadline | .awaitingPresentation deadline => deadline

def expired (retirement : AuthenticationRetirement) (now : Nat) : Bool :=
  decide (retirement.deadline ≤ now)

@[simp] theorem committed_deadline (retirement : AuthenticationRetirement) :
    retirement.committed.deadline = retirement.deadline := by
  cases retirement <;> rfl

@[simp] theorem discarded_deadline (retirement : AuthenticationRetirement) :
    retirement.discarded.deadline = retirement.deadline := by
  cases retirement <;> rfl

/-- After a discarded commit no presentation counts until the next commit. -/
theorem discarded_waits (retirement : Option AuthenticationRetirement) :
    (retirement.map discarded).any (·.acceptsPresentation) = false := by
  rcases retirement with _ | ⟨_ | _⟩ <;> rfl

end AuthenticationRetirement

/-! ## What a surface still has to draw -/

inductive RedrawKind where
  | overlay
  | full
  deriving DecidableEq, Repr

inductive OverlayProgress where
  | none
  | partialUpdate
  | full
  | blocked
  deriving DecidableEq, Repr

structure RedrawState where
  framePending : Bool := false
  redrawPending : Option RedrawKind := .none
  geometryPending : Bool := false
  rolePending : Bool := false
  deriving DecidableEq, Repr

def redrawCanProgress (currentBufferCount : Nat) (reusable : Bool) : Bool :=
  reusable || decide (currentBufferCount < bufferCount)

namespace RedrawState

def request (redraw : RedrawState) (kind : RedrawKind) : RedrawState :=
  if redraw.redrawPending ≠ some .full then { redraw with redrawPending := some kind } else redraw

def requestGeometry (redraw : RedrawState) : RedrawState :=
  { redraw with redrawPending := some .full, geometryPending := true }

def requestRoleChange (redraw : RedrawState) : RedrawState :=
  { redraw with redrawPending := some .full, geometryPending := true, rolePending := true }

def requestMedia (redraw : RedrawState) : RedrawState :=
  if redraw.redrawPending = some .overlay then redraw else redraw.request .full

def shouldRender (redraw : RedrawState) (currentBufferCount : Nat) (reusable : Bool) : Bool :=
  redraw.redrawPending.isSome &&
    (redraw.geometryPending ||
      (!redraw.framePending && redrawCanProgress currentBufferCount reusable))

def requestFrameCallback (redraw : RedrawState) : Bool := !redraw.framePending

def committed (redraw : RedrawState) (requestedFrameCallback : Bool) : RedrawState :=
  { framePending := redraw.framePending || requestedFrameCallback
    redrawPending := .none
    geometryPending := false
    rolePending := false }

def frameDone (redraw : RedrawState) : RedrawState := { redraw with framePending := false }

@[simp] theorem request_pending (redraw : RedrawState) (kind : RedrawKind) :
    (redraw.request kind).redrawPending ≠ .none := by
  simp only [request]
  split
  next => simp
  next isFull => simp_all

@[simp] theorem requestMedia_pending (redraw : RedrawState) :
    redraw.requestMedia.redrawPending ≠ .none := by
  simp only [requestMedia]
  split
  next isOverlay => simp [isOverlay]
  next => exact request_pending redraw .full

@[simp] theorem request_role (redraw : RedrawState) (kind : RedrawKind) :
    (redraw.request kind).rolePending = redraw.rolePending := by
  simp only [request]
  split <;> rfl

@[simp] theorem requestMedia_role (redraw : RedrawState) :
    redraw.requestMedia.rolePending = redraw.rolePending := by
  simp only [requestMedia]
  split
  next => rfl
  next => exact request_role redraw .full

end RedrawState

/-! ## Progress of overlay updates -/

def overlayProgress (redraw : RedrawState) (bufferCount : Nat) (reusable : Bool)
    (currentBackgroundReusable includePendingFull : Bool) : OverlayProgress :=
  match redraw.redrawPending with
  | some .overlay =>
    if !redraw.shouldRender bufferCount reusable then .blocked
    else if redraw.geometryPending || !currentBackgroundReusable then .full
    else .partialUpdate
  | some .full =>
    if includePendingFull then
      if redraw.shouldRender bufferCount reusable then .full else .blocked
    else .none
  | .none => .none

structure OverlayProgressSummary where
  partialUpdate : Bool := false
  full : Bool := false
  blocked : Bool := false
  unblocked : Bool := false
  deriving DecidableEq, Repr

inductive Refresh where
  | unchanged
  | frame
  | overlay
  | failed
  deriving DecidableEq, Repr

/-! ## Buffers -/

def selectReusableBuffer (requested : RedrawKind) (backgroundGeneration : UInt64)
    (reusable : List (Nat × UInt64)) : Option Nat :=
  match requested with
  | .overlay =>
    match reusable.find? (fun entry => entry.2 == backgroundGeneration) with
    | some entry => some entry.1
    | none => reusable.head?.map (·.1)
  | .full => reusable.head?.map (·.1)

theorem selectReusableBuffer_mem {requested : RedrawKind} {backgroundGeneration : UInt64}
    {reusable : List (Nat × UInt64)} {index : Nat}
    (selected : selectReusableBuffer requested backgroundGeneration reusable = some index) :
    ∃ generation, (index, generation) ∈ reusable := by
  have fromHead : reusable.head?.map (·.1) = some index → ∃ generation, (index, generation) ∈ reusable := by
    intro head
    obtain ⟨⟨found, generation⟩, isHead, rfl⟩ := Option.map_eq_some_iff.mp head
    exact ⟨generation, List.mem_of_mem_head? isHead⟩
  cases requested with
  | full => exact fromHead selected
  | overlay =>
    simp only [selectReusableBuffer] at selected
    split at selected
    next entry found =>
      cases selected
      exact ⟨entry.2, List.mem_of_find?_eq_some found⟩
    next => exact fromHead selected

def alignedBufferCapacity (bytes : Nat) : Except Error Nat :=
  if bytes + 63 < 2 ^ 64 then .ok ((bytes + 63) / 64 * 64)
  else .error (.runtime "lock buffer capacity overflow")

def bufferSize (width height scale : Nat) : Except Error (Nat × Nat) :=
  match checkedMul32 width scale, checkedMul32 height scale with
  | some width, some height =>
    if width = 0 ∨ height = 0 then .error (.runtime "compositor requested an empty lock surface")
    else if width > maxSurfaceDimension ∨ height > maxSurfaceDimension then
      .error (.runtime "compositor lock-surface dimensions exceed the supported limit")
    else .ok (width, height)
  | _, _ => .error (.runtime "compositor lock-surface dimensions overflow")

def overlayRedrawKind (previous current : Option FrameGeometry) : RedrawKind :=
  if previous = current then .overlay else .full

def redrawRegion (kind : RedrawKind) (renderedBackground currentBackground : UInt64)
    (frame : Option PresentationFrame) (width height : Nat) : Region :=
  if kind = .overlay ∧ renderedBackground = currentBackground then
    (overlayRegion frame width height).getD (Region.full width height)
  else Region.full width height

end Genkan.SessionLock
