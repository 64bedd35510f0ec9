import Genkan.SessionLock.Changes
import Genkan.SessionLock.Handoff

/-! # The authentication output over whole runs

The runtime's surfaces and retirement fields refine the handoff protocol: every call is a sequence
of its moves, and only a presented removal or the destruction of an output releases the role.
-/

namespace Genkan.SessionLock

open Foundations

def Surface.role (surface : Surface) : Role where
  output := surface.output
  configured := surface.size.isSome
  authentication := surface.authentication
  rolePending := surface.redraw.rolePending

def Runtime.handoff (runtime : Runtime) : Handoff where
  roles := runtime.surfaces.map (·.role)
  retiring := runtime.retiringAuthentication
  retirement := runtime.authenticationRetirement
  feedback := runtime.authenticationRetirementFeedback
  removals := (commits runtime.sent).filter (·.feedback.isSome)
  nextObject := runtime.nextObject

/-! ## The selected index -/

namespace Runtime

theorem selectAuthenticationIndex_configured {outputs : List (Option String × Bool × Bool)}
    {requested : Option String} {index : Nat}
    (selected : selectAuthenticationIndex outputs requested = some index) :
    ∃ output, outputs[index]? = some output ∧ output.2.1 = true := by
  simp only [selectAuthenticationIndex] at selected
  split at selected
  next desired =>
    simp only [selected, Option.any_some] at desired
    cases isOutput : outputs[index]? with
    | none => simp [isOutput] at desired
    | some output => exact ⟨output, rfl, by simpa [isOutput] using desired⟩
  next =>
    rcases Option.or_eq_some_iff.mp selected with found | ⟨_, found⟩
    · obtain ⟨bound, holds, _⟩ := List.findIdx?_eq_some_iff_getElem.mp found
      exact ⟨_, List.getElem?_eq_getElem bound, by simp_all⟩
    · obtain ⟨name, member⟩ := OutputSelection.select_mem found
      obtain ⟨entry, isEntry, equal⟩ := List.mem_map.mp member
      obtain ⟨inList, configured⟩ := List.mem_filter.mp isEntry
      cases equal
      exact ⟨entry.1, List.mem_zipIdx_iff_getElem?.mp inList, configured⟩

theorem selectAuthenticationIndex_isSome {outputs : List (Option String × Bool × Bool)}
    (requested : Option String) (configured : ∃ output ∈ outputs, output.2.1 = true) :
    (selectAuthenticationIndex outputs requested).isSome = true := by
  obtain ⟨output, member, isConfigured⟩ := configured
  simp only [selectAuthenticationIndex]
  split
  next desired =>
    cases selected : OutputSelection.select
        (outputs.zipIdx.map fun entry => (entry.2, entry.1.1)) requested with
    | none => simp [selected] at desired
    | some index => rfl
  next =>
    obtain ⟨position, isOutput⟩ := List.mem_iff_getElem?.mp member
    have entry : (output, position) ∈ outputs.zipIdx.filter (·.1.2.1) :=
      List.mem_filter.mpr ⟨List.mem_zipIdx_iff_getElem?.mpr isOutput, isConfigured⟩
    rw [Option.isSome_or, Bool.or_eq_true]
    apply Or.inr
    apply OutputSelection.select_isSome
    intro empty
    simp [List.map_eq_nil_iff.mp empty] at entry

/-! ## What the runtime's functions do to the handoff -/

theorem modifySurface_handoff (runtime : Runtime) (index : Nat) {change : Surface → Surface}
    (same : ∀ surface : Surface, (change surface).role = surface.role) :
    (runtime.modifySurface index change).handoff = runtime.handoff := by
  have roles : (runtime.surfaces.modify index change).map (·.role) = runtime.surfaces.map (·.role) := by
    cases found : runtime.surfaces[index]? with
    | none => rw [Lists.modify_of_missing found]
    | some surface => rw [Lists.modify_of_found found, Lists.map_set_of_eq found (same surface)]
  simp only [handoff, modifySurface, roles]

theorem mapSurfaces_handoff (runtime : Runtime) {change : Surface → Surface}
    (same : ∀ surface : Surface, (change surface).role = surface.role) :
    (runtime.mapSurfaces change).handoff = runtime.handoff := by
  simp only [handoff, mapSurfaces, List.map_map, Function.comp_def, same]

theorem setSurface_handoff (runtime : Runtime) (index : Nat) (surface : Surface) :
    (runtime.setSurface index surface).handoff = runtime.handoff.setRole index surface.role := by
  simp only [handoff, setSurface, Handoff.setRole, List.map_set]

theorem found_role {runtime : Runtime} {index : Nat} {surface : Surface}
    (found : runtime.surfaces[index]? = some surface) :
    runtime.handoff.roles[index]? = some surface.role := by
  simp [handoff, found]

@[simp] theorem request_role' (surface : Surface) (kind : RedrawKind) :
    { surface with redraw := surface.redraw.request kind }.role = surface.role := by
  simp [Surface.role]

/-- A surface whose role changes is configured, or asks for nothing yet. -/
theorem setAuthentication_role {surface : Surface} {authentication : Bool}
    (changes : surface.authentication ≠ authentication) (configured : surface.size.isSome = true) :
    (surface.setAuthentication authentication).role =
      { surface.role with authentication := authentication, rolePending := true } := by
  simp [Surface.setAuthentication, Surface.role, changes, configured, RedrawState.requestRoleChange]

theorem lock_handoff {runtime : Runtime} {lock : LockState}
    (kept : commits lock.sent = commits runtime.sent) :
    { runtime with toLockState := lock }.handoff = runtime.handoff := by
  simp only [handoff, kept]

/-! ## Refreshing the authentication output -/

/-- One refresh: at most one selecting move, after which the role is held. -/
def Refreshes (before after : Handoff) : Prop :=
  (after = before ∨ Handoff.Selects before after) ∧ after.Held

theorem candidates_configured (runtime : Runtime) {role : Role} (member : role ∈ runtime.handoff.roles)
    (configured : role.configured = true) : ∃ output ∈ runtime.candidates, output.2.1 = true := by
  obtain ⟨surface, isSurface, rfl⟩ := List.mem_map.mp member
  exact ⟨_, List.mem_map_of_mem isSurface, configured⟩

theorem setAuthentication_handoff (runtime : Runtime) {index : Nat} {surface : Surface}
    (found : runtime.surfaces[index]? = some surface) (authentication : Bool)
    (changes : surface.authentication ≠ authentication) (configured : surface.size.isSome = true) :
    (runtime.setAuthentication index authentication).handoff = runtime.handoff.setRole index
      { surface.role with authentication := authentication, rolePending := true } := by
  rw [setAuthentication, modifySurface_of_found found, setSurface_handoff,
    setAuthentication_role changes configured]

theorem refreshAuthenticationOutput_handoff (runtime : Runtime)
    (coupled : runtime.handoff.Coupled) :
    Refreshes runtime.handoff runtime.refreshAuthenticationOutput.handoff := by
  simp only [refreshAuthenticationOutput]
  split
  next retires => exact ⟨.inl rfl, fun _ => .inr retires⟩
  next settled =>
    have settled : runtime.retiringAuthentication = .none := by simpa using settled
    split
    next same =>
      refine ⟨.inl rfl, ?_⟩
      rintro ⟨role, member, configured⟩
      have selected := selectAuthenticationIndex_isSome runtime.authenticationOutput
        (runtime.candidates_configured member configured)
      rw [← same] at selected
      obtain ⟨index, isCurrent⟩ := Option.isSome_iff_exists.mp selected
      obtain ⟨bound, shows, _⟩ := List.findIdx?_eq_some_iff_getElem.mp isCurrent
      exact .inl ⟨_, List.mem_map_of_mem (List.getElem_mem bound), shows⟩
    next differs =>
      split
      next current isCurrent =>
        -- Another output shows the prompt, and retires before the chosen one gets it.
        obtain ⟨bound, shows, _⟩ := List.findIdx?_eq_some_iff_getElem.mp isCurrent
        have found : runtime.surfaces[current]? = some runtime.surfaces[current] :=
          List.getElem?_eq_getElem bound
        have configured : runtime.surfaces[current].size.isSome = true :=
          coupled.configured _ (List.mem_map_of_mem (List.getElem_mem bound)) shows
        have begun := setAuthentication_handoff { runtime with
            retiringAuthentication := some runtime.surfaces[current].output
            authenticationRetirement := some (.begin runtime.now)
            authenticationRetirementFeedback := .none }
          found false (by simp [shows]) configured
        simp only [found, Option.map_some]
        rw [begun]
        exact ⟨.inr (.begun runtime.handoff runtime.now (found_role found) shows settled),
          fun _ => .inr rfl⟩
      next vacant =>
        split
        next selected isSelected =>
          obtain ⟨output, isOutput, configured⟩ := selectAuthenticationIndex_configured isSelected
          obtain ⟨surface, found, rfl⟩ : ∃ surface, runtime.surfaces[selected]? = some surface ∧
              (surface.outputName, surface.size.isSome, surface.authentication) = output := by
            simpa [candidates] using isOutput
          have silent : ∀ surface ∈ runtime.surfaces, surface.authentication = false := by
            intro surface member
            simpa using List.findIdx?_eq_none_iff.mp vacant surface member
          have notShown := silent surface (List.mem_of_getElem? found)
          have assigned := setAuthentication_handoff runtime found true
            (by simp [notShown]) configured
          rw [assigned]
          refine ⟨.inr (.assigned runtime.handoff (found_role found) configured ?_ settled), fun _ => ?_⟩
          · intro role member
            obtain ⟨surface, isSurface, rfl⟩ := List.mem_map.mp member
            exact silent surface isSurface
          · exact .inl ⟨_, Lists.mem_set_of_found (found_role found) _, rfl⟩
        next unselected => exact absurd (vacant.trans unselected.symm) differs

/-! ## Rendering -/

abbrev Continuation : Handoff → Handoff → Prop := Relation.ReflTransGen Handoff.Continues

theorem setSurface_handoff_same (runtime : Runtime) {index : Nat} {surface next : Surface}
    (found : runtime.surfaces[index]? = some surface) (same : next.role = surface.role) :
    (runtime.setSurface index next).handoff = runtime.handoff := by
  have roles : (runtime.surfaces.set index next).map (·.role) = runtime.surfaces.map (·.role) :=
    Lists.map_set_of_eq found same
  simp only [handoff, setSurface, roles]

theorem role_of_same {first second : Surface} (same : first.SameIdentity second) :
    first.role = second.role := by
  simp only [Surface.role, same.output, same.size, same.authentication, same.redraw]

theorem restoreRole_handoff (runtime : Runtime) (index : Nat) (surface : Surface) :
    (runtime.restoreRole index surface).handoff = (runtime.handoff.setRole index
      { surface.role with authentication := true, rolePending := true }).release := by
  simp only [handoff, restoreRole, clearRetirement, Handoff.release, Handoff.setRole, List.map_set]
  rfl

theorem commitBuffer_handoff (runtime : Runtime) (index : Nat) (surface : Surface)
    (bufferIndex : Nat) (buffer : SurfaceBuffer) (damaged : Region) :
    (runtime.commitBuffer index surface bufferIndex buffer damaged .none).handoff =
      runtime.handoff.setRole index { surface.role with rolePending := false } := by
  simp only [handoff, commitBuffer, Handoff.setRole, List.map_set]
  rfl

theorem commitBuffer_handoff_feedback (runtime : Runtime) (index : Nat) (surface : Surface)
    (bufferIndex : Nat) (buffer : SurfaceBuffer) (damaged : Region) (feedback : Nat) :
    (runtime.commitBuffer index surface bufferIndex buffer damaged (some feedback)).handoff =
      { runtime.handoff.setRole index { surface.role with rolePending := false } with
        retirement := runtime.handoff.retirement.map AuthenticationRetirement.committed
        removals := runtime.commitRecord surface buffer damaged (some feedback) ::
          runtime.handoff.removals } := by
  simp only [handoff, commitBuffer, Handoff.setRole, List.map_set]
  rfl

theorem present_continues {runtime : Runtime} {index : Nat} {size : Nat × Nat}
    {surface drawn : Surface} {bufferIndex : Nat} {damaged : Region}
    (draws : runtime.Draws index size surface drawn bufferIndex damaged)
    (environment : RenderEnvironment) :
    Continuation runtime.handoff
      (runtime.present index drawn bufferIndex damaged environment).1.handoff := by
  have same := role_of_same draws.same
  have found := found_role draws.found
  rw [← same] at found
  cases retires : runtime.retiring drawn with
  | false =>
    simp only [present, retires, Bool.false_and, Bool.false_eq_true, if_false]
    split
    next => rw [setSurface_handoff_same _ draws.found same]
    next =>
      simp only [commitBuffer_handoff]
      exact .single (.committed runtime.handoff found)
    next => rw [setSurface_handoff_same _ draws.found same]
  | true =>
    obtain ⟨pending, silent, retiring⟩ : drawn.redraw.rolePending = true ∧
        drawn.authentication = false ∧ runtime.retiringAuthentication = some drawn.output := by
      simpa [Runtime.retiring, and_assoc] using retires
    have requested := Handoff.Continues.requested runtime.handoff (List.mem_of_getElem? found)
      pending retiring
    simp only [present, retires, Bool.true_and, if_true]
    split
    next =>
      rw [restoreRole_handoff]
      exact .single (.restored runtime.handoff found retiring (same ▸ draws.size_isSome))
    next =>
      split
      next =>
        rw [setSurface_handoff_same runtime.requestFeedback draws.found same]
        exact .single requested
      next =>
        rw [commitBuffer_handoff_feedback]
        exact .tail (.single requested) (.retired runtime.requestFeedback.handoff found retiring rfl
          silent pending rfl rfl (Nat.lt_succ_self _))
      next =>
        rw [setSurface_handoff_same runtime.requestFeedback draws.found same]
        exact .single requested

theorem render_continues (runtime : Runtime) (index : Nat) (environment : RenderEnvironment) :
    Continuation runtime.handoff (runtime.render index environment).1.handoff := by
  simp only [render]
  split
  next => exact .refl
  next surface found =>
    split
    next => exact .refl
    next width height configured =>
      split
      next => exact .refl
      next size sized =>
        split
        next => exact .refl
        next =>
          have prepared : (runtime.setSurface index (surface.prepared runtime.frame size)).handoff =
              runtime.handoff := setSurface_handoff_same _ found (role_of_same (prepared_same ..))
          split
          next => exact prepared ▸ .refl
          next => exact prepared ▸ .refl
          next drawn bufferIndex damaged drew =>
            exact present_continues ⟨found, ⟨width, height, configured, sized⟩, environment, drew⟩
              environment

theorem renderAll_continues (runtime : Runtime) (environment : Nat → RenderEnvironment)
    (indices : List Nat) :
    Continuation runtime.handoff (runtime.renderAll environment indices).1.handoff := by
  induction indices generalizing runtime with
  | nil => exact .refl
  | cons index rest inductionHypothesis =>
    have rendered := render_continues runtime index (environment index)
    simp only [renderAll]
    split
    next next error result => simpa [result] using rendered
    next next result =>
      simp only [result] at rendered
      exact rendered.trans (inductionHypothesis next)

theorem survey_roles {α : Type} (backgroundGeneration : UInt64)
    (classify : Surface → Bool → Bool → α) (surfaces : List Surface) :
    (survey backgroundGeneration classify surfaces).1.map (·.role) = surfaces.map (·.role) := by
  induction surfaces with
  | nil => rfl
  | cons surface rest inductionHypothesis =>
    simp only [survey]
    split
    next => simp [inductionHypothesis]
    next =>
      split
      next => rfl
      next => simpa using ⟨rfl, inductionHypothesis⟩

theorem maintainSurfaces_continues (runtime : Runtime) (allowOverlayFull : Bool)
    (environment : Nat → RenderEnvironment) :
    Continuation runtime.handoff
      (runtime.maintainSurfaces allowOverlayFull environment).1.handoff := by
  have roles := survey_roles runtime.backgroundGeneration (readyToRedraw allowOverlayFull)
    runtime.surfaces
  simp only [maintainSurfaces]
  split
  next surfaces error result =>
    simp only [result] at roles
    simp only [handoff, roles]
    exact .refl
  next surfaces flags result =>
    simp only [result] at roles
    have rendered := renderAll_continues { runtime with surfaces := surfaces } environment
      (sortByAuthentication { runtime with surfaces := surfaces } (indicesWhere flags id))
    simpa only [handoff, roles] using rendered

theorem commitPartialOverlays_continues (runtime : Runtime)
    (environment : Nat → RenderEnvironment) :
    Continuation runtime.handoff (runtime.commitPartialOverlays environment).1.handoff := by
  have roles := survey_roles runtime.backgroundGeneration
    (fun (surface : Surface) reusable current =>
      overlayProgress surface.redraw surface.buffers.length reusable current true) runtime.surfaces
  simp only [commitPartialOverlays]
  split
  next surfaces error result =>
    simp only [result] at roles
    simp only [handoff, roles]
    exact .refl
  next surfaces progress result =>
    simp only [result] at roles
    have rendered := renderAll_continues { runtime with surfaces := surfaces } environment
      (indicesWhere progress (· == .partialUpdate))
    split
    next rest => simpa only [handoff, roles, rest] using rendered
    next rest => simpa only [handoff, roles, rest] using rendered

/-! ## Outputs -/

abbrev Selection : Handoff → Handoff → Prop := Relation.ReflTransGen Handoff.Selects

theorem Refreshes.selection {before after : Handoff} (refreshes : Refreshes before after) :
    Selection before after := by
  rcases refreshes.1 with rfl | selects
  · exact .refl
  · exact .single selects

theorem Selection.coupled {before after : Handoff} (selection : Selection before after)
    (coupled : before.Coupled) : after.Coupled := by
  induction selection with
  | refl => exact coupled
  | tail _ selects inductionHypothesis => exact inductionHypothesis.selects selects

theorem surface_of_index {runtime : Runtime} {lockSurface index : Nat}
    (isIndex : runtime.surfaceIndex lockSurface = some index) :
    ∃ surface, runtime.surfaces[index]? = some surface := by
  obtain ⟨bound, _⟩ := List.findIdx?_eq_some_iff_getElem.mp isIndex
  exact ⟨_, List.getElem?_eq_getElem bound⟩

theorem configure_role (surface : Surface) (size : Nat × Nat) :
    (surface.configure size).role = { surface.role with configured := true } := by
  simp only [Surface.configure]
  split
  next => rfl
  next same =>
    have isSize : surface.size = some size := by simpa using same
    simp [Surface.role, isSize]

theorem renameOutput_handoff (runtime : Runtime) (output : Nat) (name : Option String) :
    (runtime.renameOutput output name).handoff = runtime.handoff := by
  simp only [renameOutput]
  split
  next index _ => exact modifySurface_handoff runtime index fun _ => rfl
  next => rfl

theorem addSurface_selection {runtime : Runtime} (coupled : runtime.handoff.Coupled) (output : Nat)
    (name : Option String) :
    Selection runtime.handoff (runtime.addSurface output name).1.handoff ∧
      (runtime.handoff.Held → (runtime.addSurface output name).1.handoff.Held) := by
  simp only [addSurface]
  split
  next => exact ⟨.refl, fun held => held⟩
  next absent =>
    split
    next => exact ⟨.refl, fun held => held⟩
    next =>
      have missing : ∀ role ∈ runtime.handoff.roles, role.output ≠ output := by
        intro role member
        obtain ⟨surface, isSurface, rfl⟩ := List.mem_map.mp member
        intro same
        exact absent (List.any_eq_true.mpr ⟨surface, isSurface, by simpa [Surface.role] using same⟩)
      have added := Handoff.Selects.added runtime.handoff missing
      have isAdded : Runtime.handoff { runtime with
          surfaces := runtime.surfaces ++ [Surface.new output name runtime.nextObject]
          nextObject := runtime.nextObject + 1 } = { runtime.handoff with
          roles := runtime.handoff.roles ++ [⟨output, false, false, false⟩]
          nextObject := runtime.handoff.nextObject + 1 } := by
        simp [handoff, Surface.new, Surface.role]
      rw [← isAdded] at added
      have refreshes := refreshAuthenticationOutput_handoff _ (coupled.selects added)
      exact ⟨.trans (.single added) refreshes.selection, fun _ => refreshes.2⟩

theorem addSurfaces_selection {runtime : Runtime} (coupled : runtime.handoff.Coupled)
    (outputs : List (Nat × Option String)) :
    Selection runtime.handoff (runtime.addSurfaces outputs).1.handoff ∧
      (runtime.handoff.Held → (runtime.addSurfaces outputs).1.handoff.Held) := by
  induction outputs generalizing runtime with
  | nil => exact ⟨.refl, fun held => held⟩
  | cons first rest inductionHypothesis =>
    obtain ⟨selection, held⟩ := addSurface_selection coupled first.1 first.2
    simp only [addSurfaces]
    split
    next next error result =>
      simp only [result] at selection held
      exact ⟨selection, held⟩
    next next result =>
      simp only [result] at selection held
      obtain ⟨later, laterHeld⟩ := inductionHypothesis (selection.coupled coupled)
      exact ⟨selection.trans later, fun before => laterHeld (held before)⟩

theorem orFail_handoff {α : Type} (result : Runtime × Except Error α) :
    (orFail result).handoff = result.1.handoff := by
  obtain ⟨after, outcome⟩ := result
  cases outcome <;> rfl

theorem outputDestroyed_refreshes {runtime : Runtime} (coupled : runtime.handoff.Coupled)
    (output : Nat) :
    Refreshes
      ((if runtime.handoff.retiring = some output then runtime.handoff.release
        else runtime.handoff).remove output)
      (runtime.outputDestroyed output).handoff := by
  have removed : ∀ current : Runtime, Runtime.handoff { current with
      surfaces := current.surfaces.filter (·.output != output) } = current.handoff.remove output := by
    intro current
    simp [handoff, Handoff.remove, List.filter_map, Function.comp_def, Surface.role]
  have fieldRetiring : runtime.handoff.retiring = runtime.retiringAuthentication := rfl
  simp only [outputDestroyed, fieldRetiring]
  split
  next retires =>
    have isSome : runtime.handoff.retiring.isSome = true := by simp [fieldRetiring, retires]
    have released := (coupled.release isSome).remove output (by simp [Handoff.release])
    have isReleased : runtime.clearRetirement.handoff = runtime.handoff.release := rfl
    rw [← isReleased, ← removed] at released ⊢
    exact refreshAuthenticationOutput_handoff _ released
  next other =>
    have kept := coupled.remove output other
    rw [← removed] at kept ⊢
    exact refreshAuthenticationOutput_handoff _ kept

theorem expireAuthenticationRetirement_continues {runtime : Runtime}
    (coupled : runtime.handoff.Coupled) :
    Continuation runtime.handoff runtime.expireAuthenticationRetirement.handoff := by
  simp only [expireAuthenticationRetirement]
  split
  next => exact .refl
  next expired =>
    have retires : runtime.handoff.retiring.isSome = true := by
      rw [coupled.paired]
      cases isRetirement : runtime.authenticationRetirement with
      | none => simp [isRetirement] at expired
      | some retirement => simp [handoff, isRetirement]
    obtain ⟨output, isRetiring⟩ := Option.isSome_iff_exists.mp retires
    have isOutput : runtime.retiringAuthentication = some output := isRetiring
    split
    next index restored =>
      simp only [isOutput, Option.bind_some] at restored
      obtain ⟨bound, holds, _⟩ := List.findIdx?_eq_some_iff_getElem.mp restored
      simp only [Bool.and_eq_true, beq_iff_eq] at holds
      have found : runtime.surfaces[index]? = some runtime.surfaces[index] :=
        List.getElem?_eq_getElem bound
      have silent : runtime.surfaces[index].authentication = false :=
        coupled.exclusive retires _ (List.mem_map_of_mem (List.getElem_mem bound))
      rw [setAuthentication_handoff runtime.clearRetirement found true
        (by simp [silent]) holds.2]
      exact .single (.restored runtime.handoff (found_role found)
        (isRetiring.trans (congrArg some holds.1.symm)) holds.2)
    next missing =>
      obtain ⟨role, member, sameOutput, configured⟩ := coupled.present output isRetiring
      obtain ⟨surface, isSurface, rfl⟩ := List.mem_map.mp member
      simp only [isOutput, Option.bind_some] at missing
      have absent := List.findIdx?_eq_none_iff.mp missing surface isSurface
      have there : surface.output = output ∧ surface.size.isSome = true := ⟨sameOutput, configured⟩
      simp [there] at absent

/-! ## Every call is a sequence of moves -/

/-- What a call does to the handoff.  The last two kinds are the only ones that release the role. -/
inductive HandoffStep (call : Call) : Handoff → Handoff → Prop
  | selects {before after : Handoff} (selection : Selection before after)
      (held : before.Held → after.Held) : HandoffStep call before after
  | continues {before after : Handoff} (continuation : Continuation before after) :
      HandoffStep call before after
  | presented {before after : Handoff} {feedback : Nat} (isPresented : call = .presented feedback)
      (isFeedback : before.feedback = some feedback)
      (accepts : before.retirement.any (·.acceptsPresentation) = true)
      (refreshes : Refreshes before.release after) : HandoffStep call before after
  | destroyed {before after : Handoff} {output : Nat} (isDestroyed : call = .outputDestroyed output)
      (refreshes : Refreshes
        ((if before.retiring = some output then before.release else before).remove output) after) :
      HandoffStep call before after

theorem HandoffStep.idle {call : Call} {before after : Handoff} (same : after = before) :
    HandoffStep call before after := same ▸ .continues .refl

theorem HandoffStep.refreshed {call : Call} {before middle after : Handoff}
    (selection : Selection before middle) (refreshes : Refreshes middle after) :
    HandoffStep call before after := .selects (selection.trans refreshes.selection) fun _ => refreshes.2

theorem redrawAllSurfaces_handoff (runtime : Runtime) (kind : RedrawKind) :
    (runtime.redrawAllSurfaces kind).handoff = runtime.handoff := by
  apply mapSurfaces_handoff
  intro surface
  split
  next => exact request_role' surface kind
  next => rfl

theorem applyRefresh_handoff (runtime : Runtime) (refresh : Refresh) :
    (runtime.applyRefresh refresh).handoff = runtime.handoff := by
  have media : runtime.recordFullFrame.redrawMedia.handoff = runtime.handoff := by
    simp only [redrawMedia]
    split
    next => rfl
    next =>
      rw [mapSurfaces_handoff]
      · rfl
      · intro surface
        split
        next => simp [Surface.role]
        next => rfl
  cases refresh with
  | unchanged => rfl
  | frame => exact media
  | failed => exact media
  | overlay =>
    simp only [applyRefresh, redrawOverlay, classifyOverlayRedraw, redrawAllSurfaces_handoff]
    split <;> rfl

theorem pollPriority_handoff (runtime : Runtime) (refresh : Refresh)
    (frame : Option PresentationFrame) (authorized : Bool) (roundtrip : Option String) :
    (runtime.pollPriority refresh frame authorized roundtrip).handoff = runtime.handoff := by
  have recorded : ({ runtime with frame := frame }.recordPresentationFailure refresh).handoff =
      runtime.handoff := by
    rw [recordPresentationFailure_eq]
    exact lock_handoff (runtime.toLockState.recordPresentationFailure_kept refresh).1
  have authorizes : (({ runtime with frame := frame }.recordPresentationFailure
      refresh).authorizeUnlock roundtrip).handoff = runtime.handoff := by
    rw [authorizeUnlock_eq, ← recorded]
    apply lock_handoff
    rcases ({ runtime with frame := frame }.recordPresentationFailure
      refresh).toLockState.authorizeUnlock_kept roundtrip with same | ⟨_, _, kept⟩
    · rw [same]
    · exact kept
  cases authorized with
  | false =>
    simp only [pollPriority, Bool.false_eq_true, if_false]
    split
    next => exact recorded
    next => rw [applyRefresh_handoff, recorded]
  | true =>
    simp only [pollPriority, if_true]
    split
    next => exact authorizes
    next => rw [applyRefresh_handoff, authorizes]

theorem locked_handoff (runtime : Runtime) (environment : ApplyEnvironment) :
    (runtime.locked environment).handoff = runtime.handoff := by
  have confirmed : Runtime.handoff { runtime with
      toLockState := runtime.toLockState.confirm environment.ready } = runtime.handoff :=
    lock_handoff (runtime.toLockState.confirm_kept environment.ready).1
  cases runtime.locked_eq environment with
  | inl stopped => rw [stopped, confirmed]
  | inr recorded =>
    rw [recorded, redrawAllSurfaces_handoff]
    exact confirmed

theorem discarded_continues (runtime : Runtime) (feedback lockSurface : Nat) :
    Continuation runtime.handoff (runtime.discarded feedback lockSurface).handoff := by
  simp only [discarded]
  split
  next => exact .refl
  next =>
    have forgotten := Handoff.Continues.discarded runtime.handoff
    split
    next => exact .single forgotten
    next index isIndex =>
      obtain ⟨surface, found⟩ := surface_of_index isIndex
      rw [modifySurface_of_found found, setSurface_handoff]
      exact .tail (.single forgotten) (.rescheduled _ (found_role found)
        (AuthenticationRetirement.discarded_waits runtime.authenticationRetirement))

theorem handle_handoff {runtime : Runtime} (coupled : runtime.handoff.Coupled) (call : Call) :
    HandoffStep call runtime.handoff (runtime.handle call).handoff := by
  cases call with
  | locked environment => exact .idle (locked_handoff runtime environment)
  | finished => exact .idle (by simp only [handle, finished, State.update_lockFinished_action, apply]; rfl)
  | dispatchFailed message => exact .idle rfl
  | keyboardFailed message => exact .idle rfl
  | configure lockSurface size =>
    simp only [handle, configure]
    split
    next => exact .idle rfl
    next index isIndex =>
      obtain ⟨surface, found⟩ := surface_of_index isIndex
      have configured := Handoff.Selects.configured runtime.handoff (found_role found)
      rw [← configure_role surface size, ← setSurface_handoff] at configured
      rw [modifySurface_of_found found]
      exact .refreshed (.single configured)
        (refreshAuthenticationOutput_handoff _ (coupled.selects configured))
  | scaleFactorChanged lockSurface scale =>
    apply HandoffStep.idle
    simp only [handle, scaleFactorChanged]
    split
    next => rfl
    next index _ =>
      apply modifySurface_handoff
      intro surface
      simp only [Surface.scaleFactorChanged]
      split <;> rfl
  | frameCallback lockSurface =>
    apply HandoffStep.idle
    simp only [handle, frameCallback]
    split
    next => rfl
    next =>
      split
      next => rfl
      next index _ => exact modifySurface_handoff runtime index fun _ => rfl
  | newOutput output name =>
    simp only [handle, newOutput]
    split
    next =>
      split
      next =>
        have renamed := runtime.renameOutput_handoff output name
        have refreshes := refreshAuthenticationOutput_handoff _ (renamed.symm ▸ coupled)
        exact .refreshed .refl (renamed ▸ refreshes)
      next =>
        obtain ⟨selection, held⟩ := addSurface_selection coupled output name
        rw [orFail_handoff]
        exact .selects selection held
    next => exact .idle rfl
  | updateOutput output name =>
    have renamed := runtime.renameOutput_handoff output name
    have refreshes := refreshAuthenticationOutput_handoff _ (renamed.symm ▸ coupled)
    exact .refreshed .refl (renamed ▸ refreshes)
  | outputDestroyed output => exact .destroyed rfl (outputDestroyed_refreshes coupled output)
  | presented feedback =>
    simp only [handle, presented]
    split
    next => exact .idle rfl
    next matching =>
      simp only [ne_eq, not_or, Decidable.not_not, Bool.not_eq_true', Bool.not_eq_false] at matching
      have retires : runtime.handoff.retiring.isSome = true :=
        coupled.asked (by simp [handoff, matching.1])
      exact .presented rfl matching.1 matching.2
        (refreshAuthenticationOutput_handoff runtime.clearRetirement
          (coupled.release retires))
  | discarded feedback lockSurface => exact .continues (discarded_continues runtime feedback lockSurface)
  | key event changed frame =>
    apply HandoffStep.idle
    simp only [handle, handleKey]
    split
    next => rfl
    next =>
      split
      next => exact applyRefresh_handoff { runtime with frame := frame } .overlay
      next => rfl
  | releaseBuffer lockSurface bufferIndex =>
    apply HandoffStep.idle
    simp only [handle, releaseBuffer]
    split
    next => rfl
    next index _ => exact modifySurface_handoff runtime index fun _ => rfl
  | advance elapsed => exact .idle rfl
  | reconcileOutputs outputs =>
    simp only [handle, orFail_handoff, reconcileOutputs]
    split
    next => exact .idle rfl
    next =>
      obtain ⟨selection, held⟩ := addSurfaces_selection coupled outputs
      exact .selects selection held
  | expireAuthenticationRetirement => exact .continues (expireAuthenticationRetirement_continues coupled)
  | pollPriority refresh frame authorized roundtrip =>
    exact .idle (pollPriority_handoff runtime refresh frame authorized roundtrip)
  | commitPartialOverlays environment =>
    simp only [handle, orFail_handoff]
    exact .continues (commitPartialOverlays_continues runtime environment)
  | pollDeferred refresh frame =>
    apply HandoffStep.idle
    simp only [handle, pollDeferred, applyRefresh_handoff]
    rw [recordPresentationFailure_eq]
    exact lock_handoff (runtime.toLockState.recordPresentationFailure_kept refresh).1
  | maintainSurfaces allowOverlayFull environment =>
    simp only [handle, orFail_handoff]
    exact .continues (maintainSurfaces_continues runtime allowOverlayFull environment)

end Runtime

/-! ## What one call preserves -/

namespace Runtime

theorem Continuation.coupled {before after : Handoff} (continuation : Continuation before after)
    (coupled : before.Coupled) : after.Coupled := by
  induction continuation with
  | refl => exact coupled
  | tail _ continues inductionHypothesis => exact inductionHypothesis.continues continues

theorem Continuation.owner {before after : Handoff} (continuation : Continuation before after)
    (coupled : before.Coupled) {output : Nat} (owner : before.Owner output) : after.Owner output := by
  induction continuation with
  | refl => exact owner
  | tail earlier continues inductionHypothesis =>
    exact continues.owner inductionHypothesis (Continuation.coupled earlier coupled)

theorem Selection.owner {before after : Handoff} (selection : Selection before after)
    (coupled : before.Coupled) {output : Nat} (owner : before.Owner output) : after.Owner output := by
  induction selection with
  | refl => exact owner
  | tail earlier selects inductionHypothesis =>
    exact selects.owner (Selection.coupled earlier coupled) inductionHypothesis

theorem Selection.newer {before after : Handoff} (selection : Selection before after) {base : Nat}
    (newer : before.Newer base) : after.Newer base := by
  induction selection with
  | refl => exact newer
  | tail _ selects inductionHypothesis => exact selects.newer inductionHypothesis

/-- Before a refresh the destroyed output is released and removed. -/
theorem destroyed_coupled {before : Handoff} (coupled : before.Coupled) (output : Nat) :
    ((if before.retiring = some output then before.release else before).remove output).Coupled := by
  split
  next retires =>
    exact (coupled.release (by simp [retires])).remove _ (by simp [Handoff.release])
  next other => exact coupled.remove _ other

theorem HandoffStep.preserves {call : Call} {before after : Handoff}
    (step : HandoffStep call before after) (coupled : before.Coupled) (held : before.Held) :
    after.Coupled ∧ after.Held := by
  cases step with
  | selects selection keepsHeld => exact ⟨selection.coupled coupled, keepsHeld held⟩
  | continues continuation =>
    refine ⟨Continuation.coupled continuation coupled, ?_⟩
    clear coupled
    induction continuation with
    | refl => exact held
    | tail _ continues inductionHypothesis => exact continues.held inductionHypothesis
  | presented isPresented isFeedback accepts refreshes =>
    have released := coupled.release (coupled.asked (by simp [isFeedback]))
    exact ⟨refreshes.selection.coupled released, refreshes.2⟩
  | destroyed isDestroyed refreshes =>
    exact ⟨refreshes.selection.coupled (destroyed_coupled coupled _), refreshes.2⟩

/-- An owner loses the role only when its removal is presented or its output destroyed. -/
theorem HandoffStep.departs {call : Call} {before after : Handoff}
    (step : HandoffStep call before after) (coupled : before.Coupled) {output : Nat}
    (owner : before.Owner output) (departed : ¬ after.Owner output) :
    call = .outputDestroyed output ∨
      ∃ feedback, call = .presented feedback ∧ before.feedback = some feedback ∧
        before.retirement.any (·.acceptsPresentation) = true ∧ before.retiring = some output := by
  cases step with
  | selects selection => exact absurd (selection.owner coupled owner) departed
  | continues continuation => exact absurd (Continuation.owner continuation coupled owner) departed
  | @presented feedback isPresented isFeedback accepts refreshes =>
    obtain ⟨retiring, retires⟩ := Option.isSome_iff_exists.mp (coupled.asked (by simp [isFeedback]))
    cases coupled.unique _ _ owner (.inr retires)
    exact .inr ⟨feedback, isPresented, isFeedback, accepts, retires⟩
  | @destroyed gone isDestroyed refreshes =>
    by_cases same : gone = output
    · exact .inl (same ▸ isDestroyed)
    · have notRetiring : before.retiring ≠ some gone :=
        fun retires => same (coupled.unique _ _ (.inr retires) owner)
      have stays : (before.remove gone).Owner output := by
        rcases owner with ⟨role, member, shows, isOutput⟩ | retires
        · exact .inl ⟨role, List.mem_filter.mpr ⟨member, by simpa [isOutput] using Ne.symm same⟩,
            shows, isOutput⟩
        · exact .inr retires
      rw [if_neg notRetiring] at refreshes
      exact absurd (refreshes.selection.owner (coupled.remove _ notRetiring) stays) departed

theorem HandoffStep.newer {call : Call} {before after : Handoff}
    (step : HandoffStep call before after) {base : Nat} (newer : before.Newer base) :
    after.Newer base := by
  have released : before.release.Newer base := ⟨newer.1, by simp [Handoff.release]⟩
  cases step with
  | selects selection => exact selection.newer newer
  | continues continuation =>
    clear released
    induction continuation with
    | refl => exact newer
    | tail _ continues inductionHypothesis => exact continues.newer inductionHypothesis
  | presented _ _ _ refreshes => exact refreshes.selection.newer released
  | destroyed _ refreshes =>
    refine refreshes.selection.newer ?_
    split
    next => exact released
    next => exact newer

theorem Refreshes.settled {before after : Handoff} (refreshes : Refreshes before after)
    (vacant : ∀ role ∈ before.roles, role.authentication = false) :
    after.retirement = before.retirement := by
  rcases refreshes.1 with rfl | selects
  · rfl
  · exact selects.settled vacant

theorem HandoffStep.deadline {call : Call} {before after : Handoff}
    (step : HandoffStep call before after) (coupled : before.Coupled)
    {retirement next : AuthenticationRetirement} (isRetirement : before.retirement = some retirement)
    (isNext : after.retirement = some next) : next.deadline = retirement.deadline := by
  have vacant := coupled.exclusive (coupled.paired.trans (by simp [isRetirement]))
  cases step with
  | selects selection keepsHeld =>
    have kept : after.retirement = some retirement := by
      clear isNext keepsHeld
      induction selection with
      | refl => exact isRetirement
      | tail earlier selects inductionHypothesis =>
        rw [selects.retirement (Selection.coupled earlier coupled) (by simp [inductionHypothesis])]
        exact inductionHypothesis
    cases kept.symm.trans isNext
    rfl
  | continues continuation =>
    have kept : after.Deadline retirement.deadline := by
      clear isNext
      induction continuation with
      | refl =>
        intro other isOther
        cases isRetirement.symm.trans isOther
        rfl
      | tail _ continues inductionHypothesis => exact continues.deadline inductionHypothesis
    exact kept next isNext
  | presented _ _ _ refreshes =>
    have none := refreshes.settled vacant
    simp [Handoff.release, isNext] at none
  | @destroyed output _ refreshes =>
    have kept := refreshes.settled (by
      intro role member
      refine vacant role ?_
      split at member <;> exact (List.mem_filter.mp member).1)
    rw [isNext] at kept
    split at kept
    next => simp [Handoff.release, Handoff.remove] at kept
    next =>
      cases isRetirement.symm.trans kept.symm
      rfl

end Runtime

/-! ## The authentication output over whole runs -/

section Runs

variable (run : callbacks.Run)

theorem run_handoff (index : Nat) (bound : index < run.length)
    (coupled : (run.state index).handoff.Coupled) :
    Runtime.HandoffStep (run.label index) (run.state index).handoff (run.state (index + 1)).handoff := by
  rw [run.steps index bound]
  exact Runtime.handle_handoff coupled _

theorem run_coupled (index : Nat) (bound : index ≤ run.length) :
    (run.state index).handoff.Coupled ∧ (run.state index).handoff.Held := by
  refine run.indexed_invariant
    (fun index => (run.state index).handoff.Coupled ∧ (run.state index).handoff.Held)
    ?_ ?_ index bound
  · have initial := run.starts
    constructor
    · constructor <;> simp [Runtime.handoff, initial.surfaces, initial.retiringAuthentication,
        initial.authenticationRetirement, initial.authenticationRetirementFeedback, initial.sent,
        commits, Handoff.Owner]
    · simp [Handoff.Held, Runtime.handoff, initial.surfaces]
  · intro index bound holds
    obtain ⟨coupled, held⟩ := holds
    exact (run_handoff run index bound coupled).preserves coupled held

/-- A surface of this output shows the authentication. -/
def Shows (runtime : Runtime) (output : Nat) : Prop :=
  ∃ surface ∈ runtime.surfaces, surface.authentication = true ∧ surface.output = output

theorem Shows.owner {runtime : Runtime} {output : Nat} (shows : Shows runtime output) :
    runtime.handoff.Owner output := by
  obtain ⟨surface, member, isShown, isOutput⟩ := shows
  exact .inl ⟨surface.role, List.mem_map_of_mem member, isShown, isOutput⟩

/-- The step that ends an output's ownership: it is destroyed, or the presentation of a commit that
removed the role from it, sent since the given moment, is reported. -/
def Departs (since index output : Nat) : Prop :=
  run.label index = .outputDestroyed output ∨
    ∃ feedback commit, run.label index = .presented feedback ∧
      .commit commit ∈ (run.state index).sent ∧ .commit commit ∉ (run.state since).sent ∧
      commit.feedback = some feedback ∧ commit.output = output ∧ commit.authentication = false ∧
      commit.roleChange = true

theorem mem_removals {runtime : Runtime} {commit : Commit} :
    commit ∈ runtime.handoff.removals ↔
      .commit commit ∈ runtime.sent ∧ commit.feedback.isSome = true := by
  simp only [Runtime.handoff, commits, List.mem_filter, List.mem_filterMap]
  refine and_congr_left fun _ => ⟨?_, fun member => ⟨_, member, rfl⟩⟩
  rintro ⟨request, member, isCommit⟩
  cases request with
  | commit other =>
    cases isCommit
    exact member
  | writeReady => contradiction
  | unlock => contradiction

theorem departs_of_moved {first last origin target : Nat} (order : first ≤ last)
    (bound : last ≤ run.length) (shown : Shows (run.state first) origin)
    (moved : Shows (run.state last) target) (differ : target ≠ origin) :
    ∃ index, first ≤ index ∧ index < last ∧ Departs run first index origin := by
  by_contra stays
  have coupledFirst := (run_coupled run first (by omega)).1
  have settled : (run.state first).handoff.retiring = .none := by
    obtain ⟨surface, member, isShown, _⟩ := shown
    cases isRetiring : (run.state first).handoff.retiring with
    | none => rfl
    | some output =>
      have silent := coupledFirst.exclusive (by simp [isRetiring]) _ (List.mem_map_of_mem member)
      simp [Surface.role, isShown] at silent
  have unasked : (run.state first).handoff.feedback = .none := by
    by_contra asked
    have retires := coupledFirst.asked (Option.isSome_iff_ne_none.mpr asked)
    simp [settled] at retires
  have kept := run.stays (fun runtime => runtime.handoff.Owner origin ∧
    runtime.handoff.Newer (run.state first).nextObject) order bound ?_
    ⟨shown.owner, Nat.le_refl _, by simp [unasked]⟩
  · exact differ ((run_coupled run last bound).1.unique _ _ moved.owner kept.1)
  · rintro index after before ⟨owner, newer⟩
    have coupled := (run_coupled run index (by omega)).1
    have step := run_handoff run index (by omega) coupled
    refine ⟨?_, step.newer newer⟩
    by_contra departed
    apply stays
    refine ⟨index, after, before, ?_⟩
    rcases step.departs coupled owner departed with destroyed |
      ⟨feedback, isPresented, isFeedback, accepts, retires⟩
    · exact .inl destroyed
    · obtain ⟨commit, member, carries, output, removes, roleChange⟩ :=
        coupled.presentable feedback origin isFeedback accepts retires
      refine .inr ⟨feedback, commit, isPresented, (mem_removals.mp member).1, ?_, carries, output,
        removes, roleChange⟩
      intro old
      have older := coupledFirst.older commit (mem_removals.mpr ⟨old, by simp [carries]⟩) feedback carries
      have since := newer.2 feedback isFeedback
      exact absurd older (Nat.not_lt.mpr since)

theorem deadline_stays {first last : Nat} (order : first ≤ last) (bound : last ≤ run.length)
    (pending : ∀ index, first ≤ index → index ≤ last →
      (run.state index).authenticationRetirement.isSome = true)
    {retirement : AuthenticationRetirement}
    (isRetirement : (run.state first).authenticationRetirement = some retirement) :
    (run.state last).authenticationRetirement.map (·.deadline) = some retirement.deadline := by
  induction last, order using Nat.le_induction with
  | base => simp [isRetirement]
  | succ last order inductionHypothesis =>
    have before := inductionHypothesis (by omega) (fun index after within => pending index after (by omega))
    obtain ⟨current, isCurrent, sameDeadline⟩ := Option.map_eq_some_iff.mp before
    obtain ⟨next, isNext⟩ := Option.isSome_iff_exists.mp (pending (last + 1) (by omega) (by omega))
    have coupled := (run_coupled run last (by omega)).1
    have step := run_handoff run last (by omega) coupled
    simp only [isNext, Option.map_some, Option.some.injEq]
    exact (step.deadline coupled isCurrent isNext).trans sameDeadline

theorem authentications_le_one {runtime : Runtime} (coupled : runtime.handoff.Coupled) :
    (runtime.surfaces.filter (·.authentication)).length ≤ 1 := by
  have distinct : ((runtime.surfaces.filter (·.authentication)).map (·.output)).Nodup := by
    have all : (runtime.surfaces.map (·.output)).Nodup := by
      simpa [Runtime.handoff, Function.comp_def, Surface.role] using coupled.outputs
    exact all.sublist (List.filter_sublist.map _)
  have shown : ∀ surface ∈ runtime.surfaces.filter (·.authentication),
      Shows runtime surface.output := by
    intro surface member
    obtain ⟨isSurface, isShown⟩ := List.mem_filter.mp member
    exact ⟨surface, isSurface, isShown, rfl⟩
  apply Lists.length_le_one_of_key_eq distinct
  intro first isFirst second isSecond
  exact coupled.unique _ _ (shown first isFirst).owner (shown second isSecond).owner

/-- The authentication output over every run of the callbacks.  An expiry never has to give the
role to another output: the retiring output stays configured until it is destroyed. -/
theorem authentication_handoff :
    (∀ index, index ≤ run.length →
      ((run.state index).surfaces.filter (·.authentication)).length ≤ 1 ∧
      ∀ surface ∈ (run.state index).surfaces, surface.authentication = true →
        surface.size.isSome = true) ∧
    (∀ index, index ≤ run.length →
      ((run.state index).retiringAuthentication.isSome ↔
        (run.state index).authenticationRetirement.isSome) ∧
      ((run.state index).retiringAuthentication.isSome →
        ∀ surface ∈ (run.state index).surfaces, surface.authentication = false)) ∧
    (∀ index, index ≤ run.length →
      (∃ surface ∈ (run.state index).surfaces, surface.size.isSome = true) →
      (∃ surface ∈ (run.state index).surfaces, surface.size.isSome = true ∧
        surface.authentication = true) ∨
      (run.state index).authenticationRetirement.isSome = true) ∧
    (∀ first last origin target, first ≤ last → last ≤ run.length →
      Shows (run.state first) origin → Shows (run.state last) target → target ≠ origin →
      ∃ index, first ≤ index ∧ index < last ∧ Departs run first index origin) ∧
    (∀ first last retirement, first ≤ last → last ≤ run.length →
      (∀ index, first ≤ index → index ≤ last →
        (run.state index).authenticationRetirement.isSome = true) →
      (run.state first).authenticationRetirement = some retirement →
      (run.state last).authenticationRetirement.map (·.deadline) = some retirement.deadline) := by
  refine ⟨?_, ?_, ?_, ?_, ?_⟩
  · intro index bound
    have coupled := (run_coupled run index bound).1
    exact ⟨authentications_le_one coupled, fun surface member shows =>
      coupled.configured _ (List.mem_map_of_mem member) shows⟩
  · intro index bound
    have coupled := (run_coupled run index bound).1
    refine ⟨Bool.eq_iff_iff.mp coupled.paired, fun retires surface member => ?_⟩
    exact coupled.exclusive retires _ (List.mem_map_of_mem member)
  · rintro index bound ⟨surface, member, configured⟩
    obtain ⟨coupled, held⟩ := run_coupled run index bound
    rcases held ⟨_, List.mem_map_of_mem member, configured⟩ with ⟨role, isRole, shows⟩ | retires
    · obtain ⟨shown, isSurface, rfl⟩ := List.mem_map.mp isRole
      exact .inl ⟨shown, isSurface, coupled.configured _ isRole shows, shows⟩
    · exact .inr (coupled.paired ▸ retires)
  · intro first last origin target order bound shown moved differ
    exact departs_of_moved run order bound shown moved differ
  · intro first last retirement order bound pending isRetirement
    exact deadline_stays run order bound pending isRetirement

end Runs

end Genkan.SessionLock
