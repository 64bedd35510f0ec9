import Mathlib.Data.List.Nodup

/-! # The presentation of one desktop surface

Five flags say what a surface still owes to the screen: a redraw that was requested, for its geometry
or for the playback, and a frame callback that is awaited or has arrived.
-/

namespace Genkan.DesktopWallpaper

inductive SurfaceAction where
  | render
  | rearm
  | idle
  deriving DecidableEq, Repr

def surfaceAction (redraw transitioning : Bool) : SurfaceAction :=
  if redraw then .render else if transitioning then .rearm else .idle

def renderEligible (redraw geometryRedraw framePending configured : Bool) : Bool :=
  redraw && (!framePending || geometryRedraw) && configured

def requestFrame (transitioning framePending : Bool) : Bool := transitioning && !framePending

structure PresentationState where
  redraw : Bool
  geometryRedraw : Bool
  framePending : Bool
  frameReady : Bool
  disabled : Bool
  deriving DecidableEq, Repr

namespace PresentationState

def new : PresentationState where
  redraw := true
  geometryRedraw := false
  framePending := false
  frameReady := false
  disabled := false

def geometryChanged (state : PresentationState) : PresentationState :=
  { state with redraw := true, geometryRedraw := true, disabled := false }

def playbackChanged (state : PresentationState) : PresentationState :=
  if state.disabled then state else { state with redraw := true }

def frameArrived (state : PresentationState) : PresentationState :=
  { state with framePending := false, frameReady := !state.disabled }

def takeFrameAction (state : PresentationState) (transitioning : Bool) :
    PresentationState × SurfaceAction :=
  let taken := { state with frameReady := false }
  if !state.frameReady || state.disabled then (taken, .idle)
  else (taken, surfaceAction state.redraw transitioning)

def eligible (state : PresentationState) (configured : Bool) : Bool :=
  !state.disabled &&
    renderEligible state.redraw state.geometryRedraw state.framePending configured

def nextAction (state : PresentationState) (transitioning configured : Bool) :
    PresentationState × SurfaceAction :=
  let (taken, action) := state.takeFrameAction transitioning
  if action = .rearm then (taken, .rearm)
  else if taken.eligible configured then (taken, .render)
  else (taken, .idle)

def rearmed (state : PresentationState) : PresentationState := { state with framePending := true }

def rendered (state : PresentationState) (requestedFrame : Bool) : PresentationState :=
  { state with
    redraw := false
    geometryRedraw := false
    framePending := state.framePending || requestedFrame
    disabled := false }

def disable (state : PresentationState) : PresentationState :=
  { state with
    redraw := false
    geometryRedraw := false
    frameReady := false
    disabled := true }

/-! ## What a surface owes to a dissolve -/

/-- The surface will come back to the dissolve: it draws, or it waits for a frame callback. -/
def Driven (state : PresentationState) : Prop :=
  state.disabled = false →
    state.redraw = true ∨ state.framePending = true ∨ state.frameReady = true

theorem driven_of_redraw {state : PresentationState} (redraws : state.redraw = true) : state.Driven :=
  fun _ => .inl redraws

theorem playbackChanged_driven (state : PresentationState) : state.playbackChanged.Driven := by
  simp only [playbackChanged]
  split
  next disabled => simp [Driven, disabled]
  next => exact driven_of_redraw rfl

theorem playbackChanged_idempotent (state : PresentationState) :
    state.playbackChanged.playbackChanged = state.playbackChanged := by
  by_cases disabled : state.disabled = true <;> simp [playbackChanged, disabled]

theorem playbackChanged_redraw {state : PresentationState} (redraws : state.redraw = true) :
    state.playbackChanged.redraw = true := by
  simp only [playbackChanged]
  split
  next => exact redraws
  next => rfl

theorem frameArrived_driven (state : PresentationState) : state.frameArrived.Driven := by
  intro enabled
  exact .inr (.inr (by simpa [frameArrived] using enabled))

theorem nextAction_eq (state : PresentationState) (transitioning configured : Bool) :
    state.nextAction transitioning configured = ({ state with frameReady := false },
      if (state.takeFrameAction transitioning).2 = .rearm then .rearm
      else if { state with frameReady := false }.eligible configured then .render
      else .idle) := by
  simp only [nextAction, takeFrameAction]
  split
  all_goals
    split
    next => rfl
    next => split <;> rfl

theorem nextAction_state (state : PresentationState) (transitioning configured : Bool) :
    (state.nextAction transitioning configured).1 = { state with frameReady := false } := by
  rw [nextAction_eq]

theorem nextAction_render {state : PresentationState} {transitioning configured : Bool}
    (renders : (state.nextAction transitioning configured).2 = .render) : state.redraw = true := by
  rw [nextAction_eq] at renders
  simp only at renders
  split at renders
  next => cases renders
  next =>
    split at renders
    next eligible =>
      simp only [PresentationState.eligible, renderEligible, Bool.and_eq_true] at eligible
      exact eligible.2.1.1
    next => cases renders

/-- A frame callback that arrived during a dissolve never leaves a surface idle with nothing due. -/
theorem nextAction_idle {state : PresentationState} (driven : state.Driven) {configured : Bool}
    (idle : (state.nextAction true configured).2 = .idle) (enabled : state.disabled = false) :
    state.redraw = true ∨ state.framePending = true := by
  cases driven enabled with
  | inl redraws => exact .inl redraws
  | inr awaits =>
    cases awaits with
    | inl pending => exact .inr pending
    | inr ready =>
      cases redraws : state.redraw with
      | true => exact .inl rfl
      | false =>
        simp [nextAction, takeFrameAction, surfaceAction, ready, enabled, redraws] at idle

end PresentationState

end Genkan.DesktopWallpaper
