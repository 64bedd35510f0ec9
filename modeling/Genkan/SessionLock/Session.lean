import Genkan.Foundations.TransitionSystem
import Genkan.SessionLock.Runtime

/-! # Runs of the session-lock runtime

`callbacks` lets every callback and every function of the loop be called at any time, with any
answer of the outside world.  `session` adds what the loop and the presentation guarantee:
`Admissible`.
-/

namespace Genkan.SessionLock

open Foundations

inductive Call where
  | locked (environment : ApplyEnvironment)
  | finished
  | dispatchFailed (message : String)
  | keyboardFailed (message : String)
  | configure (lockSurface : Nat) (size : Nat × Nat)
  | scaleFactorChanged (lockSurface : Nat) (scale : Int)
  | frameCallback (lockSurface : Nat)
  | newOutput (output : Nat) (name : Option String)
  | updateOutput (output : Nat) (name : Option String)
  | outputDestroyed (output : Nat)
  | presented (feedback : Nat)
  | discarded (feedback lockSurface : Nat)
  | key (event : KeyEvent) (changed : Bool) (frame : Option PresentationFrame)
  | releaseBuffer (lockSurface bufferIndex : Nat)
  | advance (elapsed : Nat)
  | reconcileOutputs (outputs : List (Nat × Option String))
  | expireAuthenticationRetirement
  | pollPriority (refresh : Refresh) (frame : Option PresentationFrame) (authorized : Bool)
      (roundtrip : Option String)
  | commitPartialOverlays (environment : Nat → RenderEnvironment)
  | pollDeferred (refresh : Refresh) (frame : Option PresentationFrame)
  | maintainSurfaces (allowOverlayFull : Bool) (environment : Nat → RenderEnvironment)

namespace Runtime

def handle (runtime : Runtime) : Call → Runtime
  | .locked environment => runtime.locked environment
  | .finished => runtime.finished
  | .dispatchFailed message => runtime.fail (.runtime message)
  | .keyboardFailed message => runtime.fail (.runtime ("could not acquire lock keyboard: " ++ message))
  | .configure lockSurface size => runtime.configure lockSurface size
  | .scaleFactorChanged lockSurface scale => runtime.scaleFactorChanged lockSurface scale
  | .frameCallback lockSurface => runtime.frameCallback lockSurface
  | .newOutput output name => runtime.newOutput output name
  | .updateOutput output name => runtime.updateOutput output name
  | .outputDestroyed output => runtime.outputDestroyed output
  | .presented feedback => runtime.presented feedback
  | .discarded feedback lockSurface => runtime.discarded feedback lockSurface
  | .key event changed frame => runtime.handleKey event changed frame
  | .releaseBuffer lockSurface bufferIndex => runtime.releaseBuffer lockSurface bufferIndex
  | .advance elapsed => runtime.advance elapsed
  | .reconcileOutputs outputs => orFail (runtime.reconcileOutputs outputs)
  | .expireAuthenticationRetirement => runtime.expireAuthenticationRetirement
  | .pollPriority refresh frame authorized roundtrip =>
    runtime.pollPriority refresh frame authorized roundtrip
  | .commitPartialOverlays environment => orFail (runtime.commitPartialOverlays environment)
  | .pollDeferred refresh frame => runtime.pollDeferred refresh frame
  | .maintainSurfaces allowOverlayFull environment =>
    orFail (runtime.maintainSurfaces allowOverlayFull environment)

end Runtime

/-- What `run` builds before its first dispatch.  The readiness descriptors are owned, hence
distinct. -/
structure Initial (runtime : Runtime) : Prop where
  lifecycle : runtime.state.lifecycle = .requesting
  sessionLock : runtime.sessionLock = true
  ready : runtime.ready.Nodup
  failure : runtime.failure = .none
  terminate : runtime.terminate = false
  sent : runtime.sent = []
  surfaces : runtime.surfaces = []
  presentationGeometry : runtime.presentationGeometry = frameGeometry runtime.frame
  backgroundGeneration : runtime.backgroundGeneration = 1
  retiringAuthentication : runtime.retiringAuthentication = .none
  authenticationRetirement : runtime.authenticationRetirement = .none
  authenticationRetirementFeedback : runtime.authenticationRetirementFeedback = .none

def Runtime.start (identity : Identity) (ready : List Nat) (frame : Option PresentationFrame)
    (authenticationOutput : Option String) (now : Nat) : Runtime where
  state := .new identity
  sessionLock := true
  ready := ready
  failure := .none
  terminate := false
  sent := []
  surfaces := []
  frame := frame
  presentationGeometry := frameGeometry frame
  backgroundGeneration := 1
  authenticationOutput := authenticationOutput
  retiringAuthentication := .none
  authenticationRetirement := .none
  authenticationRetirementFeedback := .none
  now := now
  nextObject := 0

theorem Runtime.start_initial (identity : Identity) {ready : List Nat} (distinct : ready.Nodup)
    (frame : Option PresentationFrame) (authenticationOutput : Option String) (now : Nat) :
    Initial (.start identity ready frame authenticationOutput now) := by
  constructor <;> first | rfl | exact distinct

def callbacks : TransitionSystem Runtime Call where
  initial := Initial
  step runtime call next := next = runtime.handle call

/-! ## What the loop and the presentation guarantee -/

/-- `Bytes` are immutable and a surface's cache keeps its source alive, so an overlay at the
address of a cached source holds the bytes of that source. -/
def AllocationsAgree (surfaces : List Surface) (frame : Option PresentationFrame) : Prop :=
  ∀ surface ∈ surfaces, ∀ cache ∈ surface.overlayCache, ∀ shown ∈ frame,
    cache.source.pixels.pointer = shown.overlay.pixels.pointer →
    cache.source.pixels.data.length = shown.overlay.pixels.data.length →
    cache.source.pixels.data = shown.overlay.pixels.data

instance (surfaces : List Surface) (frame : Option PresentationFrame) :
    Decidable (AllocationsAgree surfaces frame) :=
  inferInstanceAs (Decidable (∀ surface ∈ surfaces, ∀ cache ∈ surface.overlayCache, ∀ shown ∈ frame, _))

/-- A refresh that reports no background change leaves the background's pixels alone, and one
that reports nothing leaves the whole frame alone. -/
structure Reports (runtime : Runtime) (refresh : Refresh) (frame : Option PresentationFrame) :
    Prop where
  unchanged : refresh = .unchanged → frame = runtime.frame
  overlay : refresh = .overlay → backgroundImage frame = backgroundImage runtime.frame
  allocations : AllocationsAgree runtime.surfaces frame

instance (runtime : Runtime) (refresh : Refresh) (frame : Option PresentationFrame) :
    Decidable (Reports runtime refresh frame) :=
  decidable_of_iff
    ((refresh = .unchanged → frame = runtime.frame) ∧
      (refresh = .overlay → backgroundImage frame = backgroundImage runtime.frame) ∧
      AllocationsAgree runtime.surfaces frame)
    ⟨fun ⟨unchanged, overlay, allocations⟩ => ⟨unchanged, overlay, allocations⟩,
      fun reports => ⟨reports.unchanged, reports.overlay, reports.allocations⟩⟩

/-- The calls that can follow: the functions of the loop run only before termination, and the
presentation keeps its contract. -/
def Admissible (runtime : Runtime) : Call → Prop
  | .locked environment => AllocationsAgree runtime.surfaces environment.confirmedFrame
  | .key event changed frame =>
    keyInput event ≠ .none → Reports runtime (if changed then .overlay else .unchanged) frame
  | .reconcileOutputs _ | .expireAuthenticationRetirement | .commitPartialOverlays _
  | .maintainSurfaces _ _ => runtime.terminate = false
  | .pollPriority refresh frame _ _ | .pollDeferred refresh frame =>
    runtime.terminate = false ∧ Reports runtime refresh frame
  | _ => True

instance (runtime : Runtime) : (call : Call) → Decidable (Admissible runtime call)
  | .locked _ => inferInstanceAs (Decidable (AllocationsAgree _ _))
  | .key _ _ _ => inferInstanceAs (Decidable (_ ≠ _ → Reports _ _ _))
  | .reconcileOutputs _ | .expireAuthenticationRetirement | .commitPartialOverlays _
  | .maintainSurfaces _ _ => inferInstanceAs (Decidable (runtime.terminate = false))
  | .pollPriority _ _ _ _ | .pollDeferred _ _ => inferInstanceAs (Decidable (_ ∧ Reports _ _ _))
  | .finished | .dispatchFailed _ | .keyboardFailed _ | .configure _ _ | .scaleFactorChanged _ _
  | .frameCallback _ | .newOutput _ _ | .updateOutput _ _ | .outputDestroyed _ | .presented _
  | .discarded _ _ | .releaseBuffer _ _ | .advance _ => inferInstanceAs (Decidable True)

def session : TransitionSystem Runtime Call where
  initial := Initial
  step runtime call next := Admissible runtime call ∧ next = runtime.handle call

/-! ## Sequences of calls -/

/-- Each call is admissible where the calls before it lead. -/
def Follows : Runtime → List Call → Prop
  | _, [] => True
  | runtime, call :: rest => Admissible runtime call ∧ Follows (runtime.handle call) rest

instance decidableFollows : (runtime : Runtime) → (calls : List Call) → Decidable (Follows runtime calls)
  | _, [] => inferInstanceAs (Decidable True)
  | runtime, call :: rest =>
    have := decidableFollows (runtime.handle call) rest
    inferInstanceAs (Decidable (Admissible runtime call ∧ Follows (runtime.handle call) rest))

theorem follows_append {runtime : Runtime} {first second : List Call} :
    Follows runtime (first ++ second) ↔
      Follows runtime first ∧ Follows (first.foldl Runtime.handle runtime) second := by
  induction first generalizing runtime with
  | nil => simp [Follows]
  | cons call rest inductionHypothesis => simp [Follows, inductionHypothesis, and_assoc]

theorem reachable_of_follows {runtime : Runtime} (reachable : session.Reachable runtime)
    {calls : List Call} (follows : Follows runtime calls) :
    session.Reachable (calls.foldl Runtime.handle runtime) := by
  induction calls generalizing runtime with
  | nil => exact reachable
  | cons call rest inductionHypothesis =>
    exact inductionHypothesis (.step reachable ⟨follows.1, rfl⟩) follows.2

/-- The run that makes the calls one after the other. -/
def runOf {runtime : Runtime} (starts : Initial runtime) (calls : List Call)
    (follows : Follows runtime calls) : session.Run where
  length := calls.length
  state index := (calls.take index).foldl Runtime.handle runtime
  label index := calls.getD index .finished
  starts := starts
  steps := by
    intro index bound
    rw [← List.take_append_drop index calls, List.drop_eq_getElem_cons bound, follows_append] at follows
    rw [List.getD_eq_getElem _ _ bound, List.take_succ_eq_append_getElem bound, List.foldl_append]
    exact ⟨follows.2.1, rfl⟩

/-! ## A small session -/

/-- One grey pixel; equal addresses hold equal pixels. -/
def samplePixel (value : UInt8) : RgbaFrame where
  width := 1
  height := 1
  pixels := { pointer := value.toNat, data := [value, value, value, 255] }

theorem samplePixel_valid (value : UInt8) : (samplePixel value).Valid := ⟨Nat.zero_lt_one, Nat.zero_lt_one, rfl⟩

/-- A canvas of two pixels, the left one under the overlay. -/
def sampleFrame (background overlay : UInt8) : PresentationFrame where
  width := 2
  height := 1
  background := some (samplePixel background)
  overlay := samplePixel overlay
  overlayX := 0
  overlayY := 0
  width_positive := Nat.zero_lt_two
  height_positive := Nat.zero_lt_one
  overlay_columns := Nat.le_succ 1
  overlay_rows := Nat.le_refl 1
  width_bound := by decide
  height_bound := by decide
  overlay_valid := samplePixel_valid overlay
  background_valid := by
    rintro image ⟨⟩
    exact samplePixel_valid background

def sampleStart : Runtime := .start ⟨0, "", ""⟩ [] (some (sampleFrame 10 0)) .none 0

theorem sampleStart_initial : Initial sampleStart :=
  Runtime.start_initial _ List.nodup_nil _ _ _

theorem sampleStart_reachable : session.Reachable sampleStart := .initial sampleStart_initial

/-- One output appears, is configured, and is drawn after the confirmation. -/
def sampleCalls : List Call :=
  [.reconcileOutputs [(0, .none)], .configure 0 (2, 1),
    .locked { confirmedFrame := some (sampleFrame 10 0) }, .maintainSurfaces true fun _ => {}]

def sampleSession : Runtime := sampleCalls.foldl Runtime.handle sampleStart

theorem sampleSession_reachable : session.Reachable sampleSession :=
  reachable_of_follows sampleStart_reachable (by decide)

end Genkan.SessionLock
