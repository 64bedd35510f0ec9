import Genkan.Foundations.Lists
import Genkan.SessionLock.LockDiscipline
import Mathlib.Logic.Relation

/-! # Elementary changes of the runtime

An invariant over every call of the runtime would have to be checked against some twenty functions.
`Change` lists what these functions are made of, and `handle_changes` shows that every admissible
call is a sequence of such changes, followed at most once by recording a full frame.
-/

namespace Genkan.SessionLock

open Foundations

/-- What one surface can become without being drawn. -/
inductive Surface.Change : Surface → Surface → Prop
  | renamed (surface : Surface) (name : Option String) :
      Change surface { surface with outputName := name }
  | scheduled (surface : Surface) (redraw : RedrawState)
      (keeps : redraw.redrawPending = .none → surface.redraw.redrawPending = .none) :
      Change surface { surface with redraw := redraw }
  | role (surface : Surface) (authentication : Bool) :
      Change surface (surface.setAuthentication authentication)
  | configured (surface : Surface) (size : Nat × Nat) : Change surface (surface.configure size)
  | scaled (surface : Surface) (scale : Nat) : Change surface (surface.scaleFactorChanged scale)
  | released (surface : Surface) (index : Nat) :
      Change surface { surface with buffers := surface.buffers.modify index fun buffer =>
        { buffer with released := true } }
  | retained (surface : Surface) (size : Nat × Nat) : Change surface (surface.retainBuffers size)

/-- The commits among the requests, newest first. -/
def commits (sent : List Request) : List Commit :=
  sent.filterMap fun
    | .commit commit => some commit
    | _ => .none

/-- The surface that a render starts drawing: its overlay is cached, stale buffers are dropped. -/
def Surface.prepared (surface : Surface) (frame : Option PresentationFrame) (size : Nat × Nat) :
    Surface :=
  (surface.scaledOverlay frame size.1 size.2).1.retainBuffers size

/-- One render draws the surface at the index into a buffer. -/
structure Runtime.Draws (runtime : Runtime) (index : Nat) (size : Nat × Nat) (surface drawn : Surface)
    (bufferIndex : Nat) (damaged : Region) : Prop where
  found : runtime.surfaces[index]? = some surface
  configured : ∃ width height, surface.size = some (width, height) ∧
    bufferSize width height surface.scale = .ok size
  drew : ∃ environment,
    (surface.prepared runtime.frame size).draw size runtime.frame
      (surface.scaledOverlay runtime.frame size.1 size.2).2 runtime.backgroundGeneration environment =
      .drawn drawn bufferIndex damaged

namespace Runtime

inductive Change : Runtime → Runtime → Prop
  | lock (runtime : Runtime) (lock : LockState) (kept : commits lock.sent = commits runtime.sent)
      (held : lock.sessionLock = true → runtime.sessionLock = true) :
      Change runtime { runtime with toLockState := lock }
  | retirement (runtime : Runtime) (retiring : Option Nat) (pending : Option AuthenticationRetirement)
      (feedback : Option Nat) :
      Change runtime { runtime with
        retiringAuthentication := retiring
        authenticationRetirement := pending
        authenticationRetirementFeedback := feedback }
  | advanced (runtime : Runtime) (now nextObject : Nat) (later : runtime.nextObject ≤ nextObject) :
      Change runtime { runtime with now := now, nextObject := nextObject }
  | surface (runtime : Runtime) {index : Nat} {surface next : Surface}
      (found : runtime.surfaces[index]? = some surface) (changes : surface.Change next) :
      Change runtime (runtime.setSurface index next)
  | added (runtime : Runtime) (output : Nat) (name : Option String) :
      Change runtime { runtime with
        surfaces := runtime.surfaces ++ [Surface.new output name runtime.nextObject]
        nextObject := runtime.nextObject + 1 }
  | removed (runtime : Runtime) (output : Nat) :
      Change runtime { runtime with surfaces := runtime.surfaces.filter (·.output != output) }
  | overlay (runtime : Runtime) (frame : Option PresentationFrame)
      (image : backgroundImage frame = backgroundImage runtime.frame)
      (geometry : frameGeometry frame = runtime.presentationGeometry)
      (allocations : AllocationsAgree runtime.surfaces frame) :
      Change runtime ({ runtime with frame := frame }.redrawAllSurfaces .overlay)
  | abandoned (runtime : Runtime) (frame : Option PresentationFrame)
      (given : runtime.sessionLock = false) : Change runtime { runtime with frame := frame }
  | prepared (runtime : Runtime) {index : Nat} {surface : Surface} (size : Nat × Nat)
      (found : runtime.surfaces[index]? = some surface) :
      Change runtime (runtime.setSurface index (surface.prepared runtime.frame size))
  | drawn (runtime : Runtime) {index : Nat} {size : Nat × Nat} {surface drawn : Surface}
      {bufferIndex : Nat} {damaged : Region}
      (draws : runtime.Draws index size surface drawn bufferIndex damaged) :
      Change runtime (runtime.setSurface index drawn)
  | committed (runtime : Runtime) {index : Nat} {size : Nat × Nat} {surface drawn : Surface}
      {bufferIndex : Nat} {damaged : Region} (held : runtime.sessionLock = true)
      (draws : runtime.Draws index size surface drawn bufferIndex damaged) {buffer : SurfaceBuffer}
      (isBuffer : drawn.buffers[bufferIndex]? = some buffer) (feedback : Option Nat) :
      Change runtime (runtime.commitBuffer index drawn bufferIndex buffer damaged feedback)

/-- A full frame is recorded and every configured surface asked to redraw. -/
inductive Recorded : Runtime → Runtime → Prop
  | recorded (runtime : Runtime) (frame : Option PresentationFrame) (schedule : Surface → RedrawState)
      (requests : ∀ surface : Surface, surface.size.isSome = true →
        (schedule surface).redrawPending ≠ .none)
      (allocations : AllocationsAgree runtime.surfaces frame) :
      Recorded runtime ({ runtime with frame := frame }.recordFullFrame.mapSurfaces fun surface =>
        { surface with redraw := schedule surface })

def Changes : Runtime → Runtime → Prop := Relation.ReflTransGen Change

theorem Changes.refl (runtime : Runtime) : Changes runtime runtime := Relation.ReflTransGen.refl

theorem Change.changes {runtime next : Runtime} (change : Change runtime next) :
    Changes runtime next := .single change

theorem Changes.trans {first second third : Runtime} (left : Changes first second)
    (right : Changes second third) : Changes first third := Relation.ReflTransGen.trans left right

/-- The induction rule for a sequence of changes. -/
theorem Changes.invariant (property : Runtime → Prop) {runtime next : Runtime}
    (changes : Changes runtime next)
    (preserved : ∀ before after, property before → Change before after → property after)
    (holds : property runtime) : property next := by
  induction changes with
  | refl => exact holds
  | tail _ change inductionHypothesis => exact preserved _ _ inductionHypothesis change

/-! ## The functions of the runtime are sequences of changes -/

theorem setSurface_setSurface (runtime : Runtime) (index : Nat) (first second : Surface) :
    (runtime.setSurface index first).setSurface index second = runtime.setSurface index second := by
  simp [setSurface, List.set_set]

theorem setSurface_found {runtime : Runtime} {index : Nat} {surface : Surface}
    (found : runtime.surfaces[index]? = some surface) (next : Surface) :
    (runtime.setSurface index next).surfaces[index]? = some next := by
  have bound : index < runtime.surfaces.length := (List.getElem?_eq_some_iff.mp found).1
  simp [setSurface, bound]

theorem modifySurface_of_found {runtime : Runtime} {index : Nat} {surface : Surface}
    (found : runtime.surfaces[index]? = some surface) (change : Surface → Surface) :
    runtime.modifySurface index change = runtime.setSurface index (change surface) := by
  simp only [modifySurface, setSurface, Lists.modify_of_found found]

theorem modifySurface_of_missing {runtime : Runtime} {index : Nat}
    (missing : runtime.surfaces[index]? = .none) (change : Surface → Surface) :
    runtime.modifySurface index change = runtime := by
  simp only [modifySurface, Lists.modify_of_missing missing]

theorem modifySurface_changes (runtime : Runtime) (index : Nat) {change : Surface → Surface}
    (changes : ∀ surface : Surface, surface.Change (change surface)) :
    Changes runtime (runtime.modifySurface index change) := by
  cases found : runtime.surfaces[index]? with
  | none =>
    rw [modifySurface_of_missing found]
    exact .refl runtime
  | some surface =>
    rw [modifySurface_of_found found]
    exact (Change.surface runtime found (changes surface)).changes

theorem setAuthentication_changes (runtime : Runtime) (index : Nat) (authentication : Bool) :
    Changes runtime (runtime.setAuthentication index authentication) :=
  modifySurface_changes runtime index fun surface => .role surface authentication

theorem clearRetirement_changes (runtime : Runtime) : Changes runtime runtime.clearRetirement :=
  (Change.retirement runtime _ _ _).changes

theorem fail_changes (runtime : Runtime) (error : Error) : Changes runtime (runtime.fail error) :=
  (Change.lock runtime (runtime.toLockState.fail error) rfl fun held => held).changes

theorem refreshAuthenticationOutput_changes (runtime : Runtime) :
    Changes runtime runtime.refreshAuthenticationOutput := by
  simp only [refreshAuthenticationOutput]
  split
  next => exact .refl runtime
  next =>
    split
    next => exact .refl runtime
    next =>
      split
      next current _ =>
        exact (Change.retirement runtime _ _ _).changes.trans (setAuthentication_changes _ current false)
      next =>
        split
        next selected _ => exact setAuthentication_changes runtime selected true
        next => exact .refl runtime

theorem expireAuthenticationRetirement_changes (runtime : Runtime) :
    Changes runtime runtime.expireAuthenticationRetirement := by
  simp only [expireAuthenticationRetirement]
  split
  next => exact .refl runtime
  next =>
    apply (clearRetirement_changes runtime).trans
    split
    next index _ => exact setAuthentication_changes _ index true
    next => exact refreshAuthenticationOutput_changes _

theorem addSurface_changes (runtime : Runtime) (output : Nat) (name : Option String) :
    Changes runtime (runtime.addSurface output name).1 := by
  simp only [addSurface]
  split
  next => exact .refl runtime
  next =>
    split
    next => exact .refl runtime
    next =>
      exact (Change.added runtime output name).changes.trans (refreshAuthenticationOutput_changes _)

theorem addSurfaces_changes (runtime : Runtime) (outputs : List (Nat × Option String)) :
    Changes runtime (runtime.addSurfaces outputs).1 := by
  induction outputs generalizing runtime with
  | nil => exact .refl runtime
  | cons first rest inductionHypothesis =>
    have added := addSurface_changes runtime first.1 first.2
    simp only [addSurfaces]
    split
    next next error result => simpa [result] using added
    next next result =>
      simp only [result] at added
      exact added.trans (inductionHypothesis next)

theorem renameOutput_changes (runtime : Runtime) (output : Nat) (name : Option String) :
    Changes runtime (runtime.renameOutput output name) := by
  simp only [renameOutput]
  split
  next index _ => exact modifySurface_changes runtime index fun surface => .renamed surface name
  next => exact .refl runtime

theorem orFail_changes {α : Type} {runtime : Runtime} {result : Runtime × Except Error α}
    (changes : Changes runtime result.1) : Changes runtime (orFail result) := by
  obtain ⟨after, outcome⟩ := result
  cases outcome with
  | ok => exact changes
  | error error => exact changes.trans (fail_changes after error)

theorem outputDestroyed_changes (runtime : Runtime) (output : Nat) :
    Changes runtime (runtime.outputDestroyed output) := by
  simp only [outputDestroyed]
  split
  next =>
    exact (clearRetirement_changes runtime).trans
      ((Change.removed _ output).changes.trans (refreshAuthenticationOutput_changes _))
  next => exact (Change.removed runtime output).changes.trans (refreshAuthenticationOutput_changes _)

/-! ## Rendering -/

theorem prepared_same (surface : Surface) (frame : Option PresentationFrame) (size : Nat × Nat) :
    (surface.prepared frame size).SameIdentity surface :=
  (Surface.retainBuffers_same _ size).trans (surface.scaledOverlay_same frame size.1 size.2)

theorem Draws.size_isSome {runtime : Runtime} {index : Nat} {size : Nat × Nat}
    {surface drawn : Surface} {bufferIndex : Nat} {damaged : Region}
    (draws : runtime.Draws index size surface drawn bufferIndex damaged) :
    surface.size.isSome = true := by
  obtain ⟨width, height, configured, _⟩ := draws.configured
  simp [configured]

theorem Draws.same {runtime : Runtime} {index : Nat} {size : Nat × Nat} {surface drawn : Surface}
    {bufferIndex : Nat} {damaged : Region}
    (draws : runtime.Draws index size surface drawn bufferIndex damaged) :
    drawn.SameIdentity surface := by
  obtain ⟨environment, drew⟩ := draws.drew
  exact (Surface.draw_same drew).trans (prepared_same surface runtime.frame size)

/-- Only buffers of the present size, geometry and role are drawn into. -/
theorem mem_prepared_buffers {surface : Surface} {frame : Option PresentationFrame}
    {size : Nat × Nat} {buffer : SurfaceBuffer}
    (member : buffer ∈ (surface.prepared frame size).buffers) :
    buffer ∈ surface.buffers ∧ buffer.size = size ∧
      buffer.geometryGeneration = surface.geometryGeneration ∧
      buffer.roleGeneration = surface.roleGeneration := by
  have same := surface.scaledOverlay_same frame size.1 size.2
  simp only [Surface.prepared, Surface.retainBuffers, Surface.scaledOverlay_buffers,
    List.mem_filter, Bool.and_eq_true, beq_iff_eq, same.geometryGeneration, same.roleGeneration]
    at member
  exact ⟨member.1, member.2.1, member.2.2.1, member.2.2.2⟩

/-- The buffer that was drawn is current in every generation. -/
theorem Draws.generations {runtime : Runtime} {index : Nat} {size : Nat × Nat}
    {surface drawn : Surface} {bufferIndex : Nat} {damaged : Region}
    (draws : runtime.Draws index size surface drawn bufferIndex damaged) {buffer : SurfaceBuffer}
    (isBuffer : drawn.buffers[bufferIndex]? = some buffer) :
    buffer.size = size ∧ buffer.geometryGeneration = surface.geometryGeneration ∧
      buffer.roleGeneration = surface.roleGeneration ∧
      buffer.backgroundGeneration = runtime.backgroundGeneration := by
  obtain ⟨environment, drew⟩ := draws.drew
  have same := prepared_same surface runtime.frame size
  rcases Surface.draw_cases drew with ⟨old, wasBuffer, rfl⟩ | ⟨rfl, _, rfl⟩
  · obtain ⟨_, sizes, geometry, role⟩ := mem_prepared_buffers (List.mem_of_getElem? wasBuffer)
    have bound := (List.getElem?_eq_some_iff.mp wasBuffer).1
    simp only [Surface.setBuffer, List.getElem?_set_self bound, Option.some.injEq] at isBuffer
    subst isBuffer
    have redrawn := Surface.redrawBuffer_generations old size
      ((surface.prepared runtime.frame size).redraw.redrawPending.getD .full) runtime.frame
      (surface.scaledOverlay runtime.frame size.1 size.2).2
      (surface.prepared runtime.frame size).authentication runtime.backgroundGeneration
    exact ⟨redrawn.1.trans sizes, redrawn.2.1.trans geometry, redrawn.2.2.1.trans role, redrawn.2.2.2⟩
  · simp only [List.getElem?_append_right (Nat.le_refl _), Nat.sub_self, List.getElem?_cons_zero,
      Option.some.injEq] at isBuffer
    subst isBuffer
    exact ⟨rfl, same.geometryGeneration, same.roleGeneration, rfl⟩

theorem restoreRole_changes {runtime : Runtime} {index : Nat} {size : Nat × Nat}
    {surface drawn : Surface} {bufferIndex : Nat} {damaged : Region}
    (draws : runtime.Draws index size surface drawn bufferIndex damaged)
    (unauthenticated : drawn.authentication = false) :
    Changes runtime (runtime.restoreRole index drawn) := by
  have configured : drawn.size.isSome = true := draws.same.size ▸ draws.size_isSome
  have restored : drawn.setAuthentication true = { drawn with
      authentication := true
      overlayCache := .none
      roleGeneration := drawn.roleGeneration + 1
      redraw := drawn.redraw.requestRoleChange } := by
    simp [Surface.setAuthentication, unauthenticated, configured]
  apply (Change.drawn runtime draws).changes.trans
  apply (Change.surface _ (setSurface_found draws.found drawn) (.role drawn true)).changes.trans
  rw [setSurface_setSurface, restored]
  exact clearRetirement_changes _

theorem requestFeedback_changes (runtime : Runtime) : Changes runtime runtime.requestFeedback :=
  (Change.retirement runtime runtime.retiringAuthentication runtime.authenticationRetirement
    (some runtime.nextObject)).changes.trans
    (Change.advanced { runtime with authenticationRetirementFeedback := some runtime.nextObject }
      runtime.now (runtime.nextObject + 1) (Nat.le_succ _)).changes

theorem present_changes {runtime : Runtime} (held : runtime.sessionLock = true) {index : Nat}
    {size : Nat × Nat} {surface drawn : Surface} {bufferIndex : Nat} {damaged : Region}
    (draws : runtime.Draws index size surface drawn bufferIndex damaged)
    (environment : RenderEnvironment) :
    Changes runtime (runtime.present index drawn bufferIndex damaged environment).1 := by
  have requested : ∃ requested, requested =
        (if runtime.retiring drawn then runtime.requestFeedback else runtime) ∧
      Changes runtime requested ∧ requested.sessionLock = true ∧
      requested.Draws index size surface drawn bufferIndex damaged := by
    refine ⟨_, rfl, ?_⟩
    split
    next =>
      exact ⟨requestFeedback_changes runtime, held, ⟨draws.found, draws.configured, draws.drew⟩⟩
    next => exact ⟨.refl runtime, held, draws⟩
  obtain ⟨requested, isRequested, changes, stillHeld, stillDraws⟩ := requested
  simp only [present, ← isRequested]
  split
  next restoring =>
    have unauthenticated : drawn.authentication = false := by
      simp only [retiring, Bool.and_eq_true, Bool.not_eq_true'] at restoring
      exact restoring.1.2.1
    exact restoreRole_changes draws unauthenticated
  next =>
    apply changes.trans
    split
    next => exact (Change.drawn requested stillDraws).changes
    next isBuffer => exact (Change.committed requested stillHeld stillDraws isBuffer _).changes
    next => exact (Change.drawn requested stillDraws).changes

theorem render_changes {runtime : Runtime} (held : runtime.sessionLock = true) (index : Nat)
    (environment : RenderEnvironment) : Changes runtime (runtime.render index environment).1 := by
  simp only [render]
  split
  next => exact .refl runtime
  next surface found =>
    split
    next => exact .refl runtime
    next width height configured =>
      split
      next => exact .refl runtime
      next size sized =>
        split
        next => exact .refl runtime
        next =>
          have prepared : Changes runtime (runtime.setSurface index (surface.prepared runtime.frame size)) :=
            (Change.prepared runtime size found).changes
          split
          next => exact prepared
          next => exact prepared
          next drawn bufferIndex damaged drew =>
            exact present_changes held ⟨found, ⟨width, height, configured, sized⟩, environment, drew⟩
              environment

theorem Change.keepsLock {runtime next : Runtime} (change : Change runtime next)
    (held : next.sessionLock = true) : runtime.sessionLock = true := by
  cases change with
  | lock lock kept stillHeld => exact stillHeld held
  | _ => exact held

theorem renderAll_changes (runtime : Runtime) (held : runtime.sessionLock = true)
    (environment : Nat → RenderEnvironment) (indices : List Nat) :
    Changes runtime (runtime.renderAll environment indices).1 := by
  induction indices generalizing runtime with
  | nil => exact .refl runtime
  | cons index rest inductionHypothesis =>
    have rendered := render_changes held index (environment index)
    obtain ⟨commits, lock⟩ := runtime.render_lock index (environment index)
    simp only [renderAll]
    split
    next next error result => simpa [result] using rendered
    next next result =>
      simp only [result] at rendered lock
      have stillHeld : next.sessionLock = true := by
        rw [lock]
        exact held
      exact rendered.trans (inductionHypothesis _ stillHeld)

theorem survey_changes {α : Type} (runtime : Runtime) (backgroundGeneration : UInt64)
    (classify : Surface → Bool → Bool → α) :
    Changes runtime
      { runtime with surfaces := (survey backgroundGeneration classify runtime.surfaces).1 } := by
  have fromPosition : ∀ (surveyed rest : List Surface),
      Changes { runtime with surfaces := surveyed ++ rest }
        { runtime with surfaces := surveyed ++ (survey backgroundGeneration classify rest).1 } := by
    intro surveyed rest
    induction rest generalizing surveyed with
    | nil => exact .refl _
    | cons surface rest inductionHypothesis =>
      simp only [survey]
      split
      next => simpa using inductionHypothesis (surveyed ++ [surface])
      next width height _ =>
        split
        next => exact .refl _
        next size _ =>
          have found : (surveyed ++ surface :: rest)[surveyed.length]? = some surface := by simp
          have retained := (Change.surface { runtime with surfaces := surveyed ++ surface :: rest }
            found (.retained surface size)).changes
          have moved : (surveyed ++ surface :: rest).set surveyed.length (surface.retainBuffers size) =
              surveyed ++ [surface.retainBuffers size] ++ rest := by simp
          simp only [setSurface, moved] at retained
          simpa using retained.trans (inductionHypothesis (surveyed ++ [surface.retainBuffers size]))
  simpa using fromPosition [] runtime.surfaces

theorem maintainSurfaces_changes {runtime : Runtime} (held : runtime.sessionLock = true)
    (allowOverlayFull : Bool) (environment : Nat → RenderEnvironment) :
    Changes runtime (runtime.maintainSurfaces allowOverlayFull environment).1 := by
  have surveyed := survey_changes runtime runtime.backgroundGeneration (readyToRedraw allowOverlayFull)
  simp only [maintainSurfaces]
  split
  next surfaces error result => simpa only [result] using surveyed
  next surfaces flags result =>
    simp only [result] at surveyed
    exact surveyed.trans (renderAll_changes { runtime with surfaces := surfaces } held _ _)

theorem commitPartialOverlays_changes {runtime : Runtime} (held : runtime.sessionLock = true)
    (environment : Nat → RenderEnvironment) :
    Changes runtime (runtime.commitPartialOverlays environment).1 := by
  have surveyed := survey_changes runtime runtime.backgroundGeneration
    fun (surface : Surface) reusable current =>
      overlayProgress surface.redraw surface.buffers.length reusable current true
  simp only [commitPartialOverlays]
  split
  next surfaces error result => simpa only [result] using surveyed
  next surfaces progress result =>
    simp only [result] at surveyed
    have rendered := renderAll_changes { runtime with surfaces := surfaces } held environment
      (indicesWhere progress (· == .partialUpdate))
    split
    next rest => exact surveyed.trans (by simpa only [rest] using rendered)
    next rest => exact surveyed.trans (by simpa only [rest] using rendered)

end Runtime

/-! ## The lock's operations -/

@[simp] theorem commits_written (written : List Nat) (sent : List Request) :
    commits ((written.map .writeReady).reverse ++ sent) = commits sent := by
  simp [commits, List.filterMap_append, List.filterMap_reverse]

namespace LockState

theorem confirm_kept (lock : LockState) (outcome : Nat → WriteOutcome) :
    commits (lock.confirm outcome).sent = commits lock.sent ∧
      (lock.confirm outcome).sessionLock = lock.sessionLock := by
  rcases lock.confirm_cases outcome with ⟨_, _, _, confirmed⟩ | same
  · obtain ⟨written, _, succeeds | ⟨error, fails⟩⟩ := reportReady_cases (lock.enter .locked) outcome
    · rw [confirmed, succeeds]
      exact ⟨commits_written written lock.sent, rfl⟩
    · rw [confirmed, fails]
      exact ⟨commits_written written lock.sent, rfl⟩
  · rw [same]
    exact ⟨rfl, rfl⟩

/-- An authorization either does nothing or gives the lock up. -/
theorem authorizeUnlock_kept (lock : LockState) (roundtrip : Option String) :
    lock.authorizeUnlock roundtrip = lock ∨
      ((lock.authorizeUnlock roundtrip).sessionLock = false ∧
        (lock.authorizeUnlock roundtrip).terminate = true ∧
        commits (lock.authorizeUnlock roundtrip).sent = commits lock.sent) := by
  rcases lock.authorizeUnlock_cases roundtrip with ⟨_, authorized⟩ | same
  · rcases (lock.enter .unlocking).unlockAndSynchronize_cases roundtrip with
      ⟨given, gone⟩ | ⟨_, succeeds | ⟨error, fails⟩⟩
    · rw [authorized, gone]
      exact .inr ⟨given, rfl, rfl⟩
    · rw [authorized, succeeds]
      exact .inr ⟨rfl, rfl, rfl⟩
    · rw [authorized, fails]
      exact .inr ⟨rfl, rfl, rfl⟩
  · exact .inl same

theorem recordPresentationFailure_kept (lock : LockState) (refresh : Refresh) :
    commits (lock.recordPresentationFailure refresh).sent = commits lock.sent ∧
      (lock.recordPresentationFailure refresh).sessionLock = lock.sessionLock := by
  simp only [recordPresentationFailure]
  split <;> exact ⟨rfl, rfl⟩

end LockState

namespace Runtime

theorem recordPresentationFailure_eq (runtime : Runtime) (refresh : Refresh) :
    runtime.recordPresentationFailure refresh =
      { runtime with toLockState := runtime.toLockState.recordPresentationFailure refresh } := by
  simp only [recordPresentationFailure, LockState.recordPresentationFailure]
  split <;> rfl

theorem authorizeUnlock_eq (runtime : Runtime) (roundtrip : Option String) :
    runtime.authorizeUnlock roundtrip =
      { runtime with toLockState := runtime.toLockState.authorizeUnlock roundtrip } := by
  rcases runtime.state.authorizeUnlock_cases with ⟨_, decided⟩ | ⟨_, decided⟩ <;>
    simp only [authorizeUnlock, LockState.authorizeUnlock, decided, apply]

/-- After a confirmation the runtime either stopped there or also recorded the confirmed frame. -/
theorem locked_eq (runtime : Runtime) (environment : ApplyEnvironment) :
    let next := { runtime with toLockState := runtime.toLockState.confirm environment.ready }
    runtime.locked environment = next ∨
      runtime.locked environment =
        ({ next with frame := environment.confirmedFrame }.recordFullFrame.redrawAllSurfaces .full) := by
  rcases lockConfirmationAction_cases runtime.state (runtime.failure.isSome || runtime.terminate) with
    ⟨_, decided⟩ | ⟨_, decided⟩
  · simp only [locked, LockState.confirm, decided, apply]
    split
    next => exact .inl rfl
    next => exact .inr rfl
  · exact .inl (by simp only [locked, LockState.confirm, decided, apply])

/-! ## Recording frames -/

theorem recorded_all (runtime : Runtime) {frame : Option PresentationFrame}
    (allocations : AllocationsAgree runtime.surfaces frame) :
    Recorded runtime ({ runtime with frame := frame }.recordFullFrame.redrawAllSurfaces .full) := by
  have scheduled : (fun surface : Surface =>
      if (surface.size.isSome && (RedrawKind.full == .full || surface.authentication)) = true then
        { surface with redraw := surface.redraw.request .full } else surface) =
      fun surface => { surface with
        redraw := if surface.size.isSome then surface.redraw.request .full else surface.redraw } := by
    funext surface
    cases surface.size.isSome <;> simp
  simp only [redrawAllSurfaces, scheduled]
  refine .recorded runtime frame _ ?_ allocations
  intro surface configured
  simp [configured]

theorem recorded_media (runtime : Runtime) {frame : Option PresentationFrame}
    (running : runtime.terminate = false) (allocations : AllocationsAgree runtime.surfaces frame) :
    Recorded runtime ({ runtime with frame := frame }.recordFullFrame.redrawMedia) := by
  have scheduled : (fun surface : Surface =>
      if surface.size.isSome = true then { surface with redraw := surface.redraw.requestMedia }
      else surface) =
      fun surface => { surface with
        redraw := if surface.size.isSome then surface.redraw.requestMedia else surface.redraw } := by
    funext surface
    split <;> rfl
  have stillRunning : ({ runtime with frame := frame }.recordFullFrame).terminate = false := running
  simp only [redrawMedia, stillRunning, Bool.false_eq_true, if_false, scheduled]
  refine .recorded runtime frame _ ?_ allocations
  intro surface configured
  simp [configured]

/-- What a call of the runtime does: elementary changes, then at most one recorded frame. -/
def Steps (runtime next : Runtime) : Prop :=
  ∃ middle, Changes runtime middle ∧ (next = middle ∨ Recorded middle next)

theorem Changes.steps {runtime next : Runtime} (changes : Changes runtime next) :
    Steps runtime next := ⟨next, changes, .inl rfl⟩

theorem Recorded.steps {runtime next : Runtime} (recorded : Recorded runtime next) :
    Steps runtime next := ⟨runtime, .refl runtime, .inr recorded⟩

theorem Changes.then {first second third : Runtime} (changes : Changes first second)
    (steps : Steps second third) : Steps first third := by
  obtain ⟨middle, later, outcome⟩ := steps
  exact ⟨middle, changes.trans later, outcome⟩

theorem redrawOverlay_steps {runtime : Runtime} {frame : Option PresentationFrame}
    (image : backgroundImage frame = backgroundImage runtime.frame)
    (allocations : AllocationsAgree runtime.surfaces frame) :
    Steps runtime ({ runtime with frame := frame }.redrawOverlay) := by
  simp only [redrawOverlay, classifyOverlayRedraw]
  by_cases same : runtime.presentationGeometry = frameGeometry frame
  · have kind : overlayRedrawKind runtime.presentationGeometry (frameGeometry frame) = .overlay := by
      simp [overlayRedrawKind, same]
    simp only [kind, reduceCtorEq, if_false]
    exact (Change.overlay runtime frame image same.symm allocations).changes.steps
  · have kind : overlayRedrawKind runtime.presentationGeometry (frameGeometry frame) = .full := by
      simp [overlayRedrawKind, same]
    simp only [kind, if_true]
    exact (recorded_all runtime allocations).steps

theorem applyRefresh_steps (runtime : Runtime) (running : runtime.terminate = false)
    {refresh : Refresh} {frame : Option PresentationFrame}
    (reports : Reports runtime refresh frame) :
    Steps runtime ({ runtime with frame := frame }.applyRefresh refresh) := by
  cases refresh with
  | unchanged =>
    rw [reports.unchanged rfl]
    exact (Changes.refl runtime).steps
  | frame => exact (recorded_media runtime running reports.allocations).steps
  | failed => exact (recorded_media runtime running reports.allocations).steps
  | overlay => exact redrawOverlay_steps (reports.overlay rfl) reports.allocations

theorem pollPriority_steps {runtime : Runtime} (running : runtime.terminate = false)
    {refresh : Refresh} {frame : Option PresentationFrame}
    (reports : Reports runtime refresh frame) (authorized : Bool) (roundtrip : Option String) :
    Steps runtime (runtime.pollPriority refresh frame authorized roundtrip) := by
  have kept := runtime.toLockState.recordPresentationFailure_kept refresh
  have recorded : Changes runtime
      { runtime with toLockState := runtime.toLockState.recordPresentationFailure refresh } :=
    (Change.lock runtime _ kept.1 fun held => kept.2 ▸ held).changes
  have unauthorized : Steps runtime ({ runtime with
      toLockState := runtime.toLockState.recordPresentationFailure refresh
      frame := frame }.applyRefresh refresh) := by
    refine recorded.then (applyRefresh_steps { runtime with
      toLockState := runtime.toLockState.recordPresentationFailure refresh } ?_
      ⟨reports.unchanged, reports.overlay, reports.allocations⟩)
    simpa using running
  cases authorized with
  | false => simpa [pollPriority, recordPresentationFailure_eq, running] using unauthorized
  | true =>
    rcases (runtime.toLockState.recordPresentationFailure refresh).authorizeUnlock_kept roundtrip with
      same | ⟨given, terminated, keeps⟩
    · simpa [pollPriority, recordPresentationFailure_eq, authorizeUnlock_eq, running, same] using
        unauthorized
    · -- The lock is given up: the loop leaves before the refresh is applied.
      have unlocked : Changes runtime { runtime with toLockState :=
          (runtime.toLockState.recordPresentationFailure refresh).authorizeUnlock roundtrip } :=
        (Change.lock runtime _ (keeps.trans kept.1) (by simp [given])).changes
      have left := unlocked.trans (Change.abandoned _ frame given).changes
      simpa [pollPriority, recordPresentationFailure_eq, authorizeUnlock_eq, terminated] using left.steps

theorem locked_steps {runtime : Runtime} {environment : ApplyEnvironment}
    (allocations : AllocationsAgree runtime.surfaces environment.confirmedFrame) :
    Steps runtime (runtime.locked environment) := by
  have kept := runtime.toLockState.confirm_kept environment.ready
  have confirmed : Changes runtime
      { runtime with toLockState := runtime.toLockState.confirm environment.ready } :=
    (Change.lock runtime _ kept.1 fun held => kept.2 ▸ held).changes
  cases runtime.locked_eq environment with
  | inl stopped =>
    rw [stopped]
    exact confirmed.steps
  | inr recorded =>
    rw [recorded]
    exact confirmed.then (recorded_all { runtime with
      toLockState := runtime.toLockState.confirm environment.ready } allocations).steps

theorem handleKey_steps {runtime : Runtime} {event : KeyEvent} {changed : Bool}
    {frame : Option PresentationFrame} (admissible : Admissible runtime (.key event changed frame)) :
    Steps runtime (runtime.handleKey event changed frame) := by
  simp only [handleKey]
  split
  next => exact (Changes.refl runtime).steps
  next asked =>
    have reports := admissible (by simpa using asked)
    cases changed with
    | false =>
      rw [reports.unchanged rfl]
      exact (Changes.refl runtime).steps
    | true => exact redrawOverlay_steps (reports.overlay rfl) reports.allocations

/-! ## Every call -/

theorem handle_steps {runtime : Runtime} (held : runtime.terminate = false → runtime.sessionLock = true)
    {call : Call} (admissible : Admissible runtime call) : Steps runtime (runtime.handle call) := by
  cases call with
  | locked environment => exact locked_steps admissible
  | finished =>
    have changes := (Change.lock runtime runtime.toLockState.finish rfl fun held => held).changes
    simp only [handle, finished, State.update_lockFinished_action, apply]
    exact changes.steps
  | dispatchFailed message => exact (fail_changes runtime _).steps
  | keyboardFailed message => exact (fail_changes runtime _).steps
  | configure lockSurface size =>
    apply Changes.steps
    simp only [handle, configure]
    split
    next => exact fail_changes runtime _
    next index _ =>
      exact (modifySurface_changes runtime index fun surface => .configured surface size).trans
        (refreshAuthenticationOutput_changes _)
  | scaleFactorChanged lockSurface scale =>
    apply Changes.steps
    simp only [handle, scaleFactorChanged]
    split
    next => exact .refl runtime
    next index _ => exact modifySurface_changes runtime index fun surface => .scaled surface _
  | frameCallback lockSurface =>
    apply Changes.steps
    simp only [handle, frameCallback]
    split
    next => exact .refl runtime
    next =>
      split
      next => exact .refl runtime
      next index _ =>
        exact modifySurface_changes runtime index fun surface => .scheduled surface _ fun none => none
  | newOutput output name =>
    apply Changes.steps
    simp only [handle, newOutput]
    split
    next =>
      split
      next =>
        exact (renameOutput_changes runtime output name).trans (refreshAuthenticationOutput_changes _)
      next => exact orFail_changes (addSurface_changes runtime output name)
    next => exact .refl runtime
  | updateOutput output name =>
    exact ((renameOutput_changes runtime output name).trans
      (refreshAuthenticationOutput_changes _)).steps
  | outputDestroyed output => exact (outputDestroyed_changes runtime output).steps
  | presented feedback =>
    apply Changes.steps
    simp only [handle, presented]
    split
    next => exact .refl runtime
    next => exact (clearRetirement_changes runtime).trans (refreshAuthenticationOutput_changes _)
  | discarded feedback lockSurface =>
    apply Changes.steps
    simp only [handle, discarded]
    split
    next => exact .refl runtime
    next =>
      have forgotten := (Change.retirement runtime runtime.retiringAuthentication
        (runtime.authenticationRetirement.map AuthenticationRetirement.discarded) .none).changes
      split
      next => exact forgotten
      next index _ =>
        exact forgotten.trans (modifySurface_changes _ index fun surface =>
          .scheduled surface _ (by simp [RedrawState.requestRoleChange]))
  | key event changed frame => exact handleKey_steps admissible
  | releaseBuffer lockSurface bufferIndex =>
    apply Changes.steps
    simp only [handle, releaseBuffer]
    split
    next => exact .refl runtime
    next index _ => exact modifySurface_changes runtime index fun surface => .released surface bufferIndex
  | advance elapsed =>
    exact (Change.advanced runtime (runtime.now + elapsed) runtime.nextObject (Nat.le_refl _)).changes.steps
  | reconcileOutputs outputs =>
    apply Changes.steps
    apply orFail_changes
    simp only [reconcileOutputs]
    split
    next => exact .refl runtime
    next => exact addSurfaces_changes runtime outputs
  | expireAuthenticationRetirement => exact (expireAuthenticationRetirement_changes runtime).steps
  | pollPriority refresh frame authorized roundtrip =>
    exact pollPriority_steps admissible.1 admissible.2 authorized roundtrip
  | commitPartialOverlays environment =>
    exact (orFail_changes (commitPartialOverlays_changes (held admissible) environment)).steps
  | pollDeferred refresh frame =>
    have kept := runtime.toLockState.recordPresentationFailure_kept refresh
    simp only [handle, pollDeferred, recordPresentationFailure_eq]
    exact (Change.lock runtime _ kept.1 fun held => kept.2 ▸ held).changes.then
      (applyRefresh_steps { runtime with
        toLockState := runtime.toLockState.recordPresentationFailure refresh }
        (by simpa using admissible.1)
        ⟨admissible.2.unchanged, admissible.2.overlay, admissible.2.allocations⟩)
  | maintainSurfaces allowOverlayFull environment =>
    exact (orFail_changes (maintainSurfaces_changes (held admissible) allowOverlayFull environment)).steps

end Runtime

/-! ## The induction rule for admissible runs -/

theorem session_disciplined {runtime : Runtime} (reachable : session.Reachable runtime) :
    runtime.toLockState.Disciplined := by
  refine reachable.invariant (fun runtime => runtime.toLockState.Disciplined)
    (fun _ starts => Initial.disciplined starts) ?_
  rintro runtime call next disciplined ⟨_, rfl⟩
  exact runtime.handle_disciplined disciplined call

theorem session_steps {runtime : Runtime} (reachable : session.Reachable runtime) {call : Call}
    (admissible : Admissible runtime call) : runtime.Steps (runtime.handle call) := by
  apply Runtime.handle_steps _ admissible
  intro running
  by_contra given
  have terminated := (session_disciplined reachable).given (by simpa using given)
  simp [running] at terminated

/-- A property that elementary changes and recorded frames keep holds in every reachable state. -/
theorem session_invariant (property : Runtime → Prop)
    (initially : ∀ runtime, Initial runtime → property runtime)
    (changed : ∀ before after, property before → Runtime.Change before after → property after)
    (recorded : ∀ before after, property before → Runtime.Recorded before after → property after)
    {runtime : Runtime} (reachable : session.Reachable runtime) : property runtime := by
  induction reachable with
  | initial starts => exact initially _ starts
  | step reached steps inductionHypothesis =>
    obtain ⟨admissible, rfl⟩ := steps
    obtain ⟨middle, changes, rfl | records⟩ := session_steps reached admissible
    · exact changes.invariant property changed inductionHypothesis
    · exact recorded _ _ (changes.invariant property changed inductionHypothesis) records

end Genkan.SessionLock
