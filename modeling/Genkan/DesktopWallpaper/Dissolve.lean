import Genkan.DesktopWallpaper.Passes
import Genkan.Foundations.Lists

/-! # A dissolve never stalls

While the playback dissolves, every surface that is not disabled is `Driven`: the decode that starts a
dissolve requests a redraw of every surface, and from then on the flags of a surface hand the
obligation to each other.
-/

namespace Genkan.DesktopWallpaper

open Foundations DynamicWallpaper

/-! ## One surface in a pass -/

namespace Surface

/-- The same surface, as far as its presentation goes. -/
structure Same (surface next : Surface) : Prop where
  layer : next.layer = surface.layer
  presentation : next.presentation = surface.presentation
  frameCallback : next.frameCallback = surface.frameCallback

/-- Drawing ends in one of three ways, and only the first one changes the flags. -/
inductive Renders (surface : Surface) (transitioning : Bool) : Surface × Except String Bool → Prop
  | drawn (next : Surface) (layer : next.layer = surface.layer)
      (rendered : next.presentation = surface.presentation.rendered
        (requestFrame transitioning surface.presentation.framePending))
      (frameCallback : next.frameCallback =
        (requestFrame transitioning surface.presentation.framePending || surface.frameCallback)) :
      Renders surface transitioning (next, .ok true)
  | waits (next : Surface) (same : surface.Same next) : Renders surface transitioning (next, .ok false)
  | fails (next : Surface) (error : String) (same : surface.Same next) :
      Renders surface transitioning (next, .error error)

theorem commit_renders {surface reference : Surface} (same : surface.Same reference)
    (transitioning : Bool) (input : RenderInput) :
    surface.Renders transitioning (reference.commit transitioning input) := by
  simp only [commit]
  split
  next error _ => exact .fails _ _ same
  next => exact .drawn _ same.layer (by rw [same.presentation]) (by rw [same.presentation, same.frameCallback])

theorem allocate_same {surface next : Surface} {geometry : BufferGeometry} {input : RenderInput}
    (allocates : surface.allocate geometry input = .ok next) : surface.Same next := by
  simp only [allocate, bind_pure_comp] at allocates
  split at allocates
  next => cases allocates
  next =>
    split at allocates
    next => cases allocates
    next =>
      split at allocates
      next => cases allocates
      next =>
        rw [← Except.ok.inj allocates]
        exact ⟨rfl, rfl, rfl⟩

theorem render_renders (surface : Surface) (transitioning : Bool) (input : RenderInput) :
    surface.Renders transitioning (surface.render transitioning input) := by
  simp only [render]
  split
  next => exact .fails _ _ ⟨rfl, rfl, rfl⟩
  next size isSize =>
    split
    next => exact .fails _ _ ⟨rfl, rfl, rfl⟩
    next geometry isGeometry =>
      split
      next =>
        apply commit_renders
        exact ⟨rfl, rfl, rfl⟩
      next => exact .waits _ ⟨rfl, rfl, rfl⟩
      next =>
        split
        next => exact .fails _ _ ⟨rfl, rfl, rfl⟩
        next allocated isAllocated =>
          have same := allocate_same isAllocated
          apply commit_renders
          exact ⟨same.layer, same.presentation, same.frameCallback⟩

/-- What a surface does in a pass: it decides, and then it carries that out. -/
def act (surface : Surface) (transitioning : Bool) (input : RenderInput) : Surface × Bool :=
  (surface.decide transitioning).1.perform (surface.decide transitioning).2 transitioning input

theorem act_layer (surface : Surface) (transitioning : Bool) (input : RenderInput) :
    (surface.act transitioning input).1.layer = surface.layer := by
  have decided : (surface.decide transitioning).1.layer = surface.layer := rfl
  simp only [act, perform]
  split
  next => exact decided
  next => exact decided
  next =>
    have renders := (surface.decide transitioning).1.render_renders transitioning input
    generalize (surface.decide transitioning).1.render transitioning input = result at renders ⊢
    cases renders with
    | drawn next layer rendered frameCallback => exact layer.trans decided
    | waits next same => exact same.layer.trans decided
    | fails next error same => exact same.layer.trans decided

theorem act_driven {surface : Surface} (driven : surface.presentation.Driven) (input : RenderInput) :
    (surface.act true input).1.presentation.Driven := by
  have decided := surface.presentation.nextAction_state true surface.size.isSome
  simp only [act, perform]
  split
  next idle =>
    intro enabled
    have remains := PresentationState.nextAction_idle driven idle
    simp only [decide, decided] at enabled ⊢
    exact (remains enabled).imp_right .inl
  next => exact fun _ => .inr (.inl rfl)
  next renders =>
    have eligible := PresentationState.nextAction_render renders
    have outcome := (surface.decide true).1.render_renders true input
    generalize (surface.decide true).1.render true input = result at outcome ⊢
    cases outcome with
    | drawn next layer rendered frameCallback =>
      intro _
      right
      left
      simp only [rendered, PresentationState.rendered, requestFrame, Bool.true_and]
      exact Bool.or_not_self _
    | waits next same =>
      simp only [same.presentation, decide, decided]
      exact PresentationState.driven_of_redraw eligible
    | fails next error same =>
      intro enabled
      simp [PresentationState.disable] at enabled

/-- Only drawing the surface or giving it up ends a requested redraw. -/
theorem act_redraw {surface : Surface} (redraws : surface.presentation.redraw = true)
    (transitioning : Bool) (input : RenderInput) :
    (surface.act transitioning input).1.presentation.redraw = true ∨
      (surface.act transitioning input).2 = true ∨
      (surface.act transitioning input).1.presentation.disabled = true := by
  have decided := surface.presentation.nextAction_state transitioning surface.size.isSome
  have kept : (surface.decide transitioning).1.presentation.redraw = true := by
    simp only [decide, decided]
    exact redraws
  simp only [act, perform]
  split
  next => exact .inl kept
  next => exact .inl kept
  next =>
    have outcome := (surface.decide transitioning).1.render_renders transitioning input
    generalize (surface.decide transitioning).1.render transitioning input = result at outcome ⊢
    cases outcome with
    | drawn next layer rendered frameCallback => exact .inr (.inl rfl)
    | waits next same =>
      left
      rw [same.presentation]
      exact kept
    | fails next error same => exact .inr (.inr rfl)

/-- The flag for an awaited frame callback stands for the callback itself. -/
def Awaits (surface : Surface) : Prop := surface.presentation.framePending = surface.frameCallback

theorem act_awaits {surface : Surface} (awaits : surface.Awaits) (transitioning : Bool)
    (input : RenderInput) : (surface.act transitioning input).1.Awaits := by
  have decided := surface.presentation.nextAction_state transitioning surface.size.isSome
  have kept : (surface.decide transitioning).1.Awaits := by
    simp only [Awaits, decide, decided]
    exact awaits
  simp only [act, perform]
  split
  next => exact kept
  next => rfl
  next =>
    have outcome := (surface.decide transitioning).1.render_renders transitioning input
    generalize (surface.decide transitioning).1.render transitioning input = result at outcome ⊢
    cases outcome with
    | drawn next layer rendered frameCallback =>
      simp only [Awaits, rendered, frameCallback, PresentationState.rendered]
      rw [← kept, Bool.or_comm]
    | waits next same =>
      simp only [Awaits, same.presentation, same.frameCallback]
      exact kept
    | fails next error same =>
      simp only [Awaits, PresentationState.disable, same.presentation, same.frameCallback]
      exact kept

end Surface

/-! ## Events of the compositor -/

namespace Surface

/-- What the compositor does to a surface keeps what the surface owes. -/
structure Edits (edit : Surface → Surface) : Prop where
  layer : ∀ surface, (edit surface).layer = surface.layer
  awaits : ∀ surface, surface.Awaits → (edit surface).Awaits
  driven : ∀ surface, surface.presentation.Driven → (edit surface).presentation.Driven
  redraw : ∀ surface, surface.presentation.redraw = true → (edit surface).presentation.redraw = true

/-- A new geometry asks for a redraw, and leaves the frame callback alone. -/
theorem edits_of_geometry {edit : Surface → Surface}
    (layer : ∀ surface, (edit surface).layer = surface.layer)
    (frameCallback : ∀ surface, (edit surface).frameCallback = surface.frameCallback)
    (presentation : ∀ surface, (edit surface).presentation = surface.presentation ∨
      (edit surface).presentation = surface.presentation.geometryChanged) : Edits edit where
  layer := layer
  awaits surface awaits := by
    simp only [Awaits, frameCallback]
    cases presentation surface with
    | inl same => exact same ▸ awaits
    | inr changed => exact changed ▸ awaits
  driven surface driven := by
    cases presentation surface with
    | inl same => exact same ▸ driven
    | inr changed => exact changed ▸ PresentationState.driven_of_redraw rfl
  redraw surface redraws := by
    cases presentation surface with
    | inl same => exact same ▸ redraws
    | inr changed => exact changed ▸ rfl

theorem refreshGeometry_cases (surface : Surface) (outputSize : Option (Nat × Nat)) (retry : Bool) :
    (surface.refreshGeometry outputSize retry).layer = surface.layer ∧
      (surface.refreshGeometry outputSize retry).frameCallback = surface.frameCallback ∧
      ((surface.refreshGeometry outputSize retry).presentation = surface.presentation ∨
        (surface.refreshGeometry outputSize retry).presentation =
          surface.presentation.geometryChanged) := by
  simp only [refreshGeometry]
  split
  next => exact ⟨rfl, rfl, .inl rfl⟩
  next size _ =>
    by_cases resizes : surface.size ≠ some size <;> cases retry <;> simp [resizes]

theorem refreshGeometry_edits (outputSize : Option (Nat × Nat)) :
    Edits fun surface => surface.refreshGeometry outputSize true :=
  edits_of_geometry (fun surface => (surface.refreshGeometry_cases outputSize true).1)
    (fun surface => (surface.refreshGeometry_cases outputSize true).2.1)
    (fun surface => (surface.refreshGeometry_cases outputSize true).2.2)

theorem configure_edits (hints : Nat × Nat) (outputSize : Option (Nat × Nat)) :
    Edits fun surface =>
      { surface with configureHints := some hints }.refreshGeometry outputSize true :=
  have cases (surface : Surface) :=
    refreshGeometry_cases { surface with configureHints := some hints } outputSize true
  edits_of_geometry (fun surface => (cases surface).1) (fun surface => (cases surface).2.1)
    (fun surface => (cases surface).2.2)

theorem scaleFactorChanged_edits (scale : Int) :
    Edits fun surface => surface.scaleFactorChanged scale := by
  refine edits_of_geometry ?_ ?_ ?_
  all_goals
    intro surface
    simp only [scaleFactorChanged]
    split <;> simp

theorem transformChanged_edits : Edits transformChanged where
  layer _ := rfl
  awaits _ awaits := awaits
  driven _ _ := PresentationState.driven_of_redraw rfl
  redraw _ _ := rfl

theorem frameArrived_edits : Edits frameArrived where
  layer _ := rfl
  awaits _ _ := rfl
  driven surface _ := surface.presentation.frameArrived_driven
  redraw _ redraws := redraws

end Surface

namespace Runtime

/-- What every event keeps. -/
structure Sound (runtime : Runtime) : Prop where
  layers : (runtime.surfaces.map (·.layer)).Nodup
  created : ∀ surface ∈ runtime.surfaces, surface.layer < runtime.layersCreated
  awaits : ∀ surface ∈ runtime.surfaces, surface.Awaits
  driven : runtime.isTransitioning = true → ∀ surface ∈ runtime.surfaces, surface.presentation.Driven

/-- A redraw that was requested is still requested, unless the surface was drawn or given up. -/
def KeepsRedraws (before after : Runtime) (drawn : List Nat) : Prop :=
  ∀ surface ∈ before.surfaces, surface.presentation.redraw = true →
    ∀ later ∈ after.surfaces, later.layer = surface.layer →
      later.presentation.redraw = true ∨ surface.layer ∈ drawn ∨ later.presentation.disabled = true

theorem Sound.same_surface {runtime : Runtime} (sound : runtime.Sound) {first second : Surface}
    (isFirst : first ∈ runtime.surfaces) (isSecond : second ∈ runtime.surfaces)
    (layer : first.layer = second.layer) : first = second :=
  List.inj_on_of_nodup_map sound.layers isFirst isSecond layer

/-! ## Passes -/

theorem present_surfaces (runtime : Runtime) (input : PassInput) :
    (runtime.present input).1.surfaces = runtime.surfaces.map fun surface =>
      (surface.act runtime.isTransitioning (input.render surface.layer)).1 := by
  simp only [present, List.map_map]
  rfl

theorem present_drawn {runtime : Runtime} {input : PassInput} {surface : Surface}
    (member : surface ∈ runtime.surfaces)
    (draws : (surface.act runtime.isTransitioning (input.render surface.layer)).2 = true) :
    surface.layer ∈ (runtime.present input).2 := by
  simp only [present, List.map_map]
  refine List.mem_map.mpr ⟨surface.act runtime.isTransitioning (input.render surface.layer), ?_,
    surface.act_layer _ _⟩
  exact List.mem_filter.mpr ⟨List.mem_map.mpr ⟨surface, member, rfl⟩, draws⟩

theorem Sound.prepared {runtime prepared : Runtime} (sound : runtime.Sound)
    (prepares : runtime.Prepares prepared) : prepared.Sound := by
  have told : ∀ surface ∈ runtime.surfaces.map Surface.playbackChanged, ∃ old ∈ runtime.surfaces,
      surface = old.playbackChanged := by
    intro surface member
    obtain ⟨old, isOld, isTold⟩ := List.mem_map.mp member
    exact ⟨old, isOld, isTold.symm⟩
  have driven : prepared.isTransitioning = true →
      ∀ surface ∈ prepared.surfaces, surface.presentation.Driven := by
    intro transitions surface member
    have redriven (changed : prepared.surfaces = runtime.surfaces.map Surface.playbackChanged) :
        surface.presentation.Driven := by
      obtain ⟨old, _, isTold⟩ := told surface (changed ▸ member)
      exact isTold ▸ old.presentation.playbackChanged_driven
    cases prepares.starts transitions with
    | inr changed => exact redriven changed
    | inl before =>
      cases prepares.surfaces with
      | inl same => exact sound.driven before surface (same ▸ member)
      | inr changed => exact redriven changed
  cases prepares.surfaces with
  | inl same =>
    refine ⟨same ▸ sound.layers, ?_, same ▸ sound.awaits, driven⟩
    rw [same, prepares.layersCreated]
    exact sound.created
  | inr changed =>
    refine ⟨?_, ?_, ?_, driven⟩
    · rw [changed, List.map_map]
      exact sound.layers
    · intro surface member
      obtain ⟨old, isOld, isTold⟩ := told surface (changed ▸ member)
      rw [prepares.layersCreated, isTold]
      exact sound.created old isOld
    · intro surface member
      obtain ⟨old, isOld, isTold⟩ := told surface (changed ▸ member)
      have awaits := sound.awaits old isOld
      rw [isTold, Surface.Awaits, Surface.playbackChanged, PresentationState.playbackChanged]
      split <;> exact awaits

theorem Sound.presented {runtime : Runtime} (sound : runtime.Sound) (input : PassInput) :
    (runtime.present input).1.Sound := by
  have acted : ∀ surface ∈ (runtime.present input).1.surfaces, ∃ old ∈ runtime.surfaces,
      surface = (old.act runtime.isTransitioning (input.render old.layer)).1 := by
    intro surface member
    rw [present_surfaces] at member
    obtain ⟨old, isOld, isActed⟩ := List.mem_map.mp member
    exact ⟨old, isOld, isActed.symm⟩
  refine ⟨?_, ?_, ?_, ?_⟩
  · rw [present_surfaces, List.map_map]
    simpa only [Function.comp_def, Surface.act_layer] using sound.layers
  · intro surface member
    obtain ⟨old, isOld, isActed⟩ := acted surface member
    rw [isActed, Surface.act_layer]
    exact sound.created old isOld
  · intro surface member
    obtain ⟨old, isOld, isActed⟩ := acted surface member
    exact isActed ▸ Surface.act_awaits (sound.awaits old isOld) _ _
  · intro transitions surface member
    have running : runtime.isTransitioning = true := transitions
    obtain ⟨old, isOld, isActed⟩ := acted surface member
    rw [isActed, running]
    exact Surface.act_driven (sound.driven running old isOld) _

theorem keepsRedraws_of_maintain {runtime prepared : Runtime} (sound : runtime.Sound)
    (prepares : runtime.Prepares prepared) (input : PassInput) :
    runtime.KeepsRedraws (prepared.present input).1 (prepared.present input).2 := by
  intro surface member redraws later isLater sameLayer
  have preparedSound := sound.prepared prepares
  have waits : ∃ old ∈ prepared.surfaces, old.layer = surface.layer ∧ old.presentation.redraw = true := by
    cases prepares.surfaces with
    | inl same => exact ⟨surface, same ▸ member, rfl, redraws⟩
    | inr changed =>
      refine ⟨surface.playbackChanged, ?_, rfl, PresentationState.playbackChanged_redraw redraws⟩
      rw [changed]
      exact List.mem_map.mpr ⟨surface, member, rfl⟩
  obtain ⟨old, isOld, layer, stillRedraws⟩ := waits
  rw [present_surfaces] at isLater
  obtain ⟨acting, isActing, isActed⟩ := List.mem_map.mp isLater
  have same : acting = old := by
    apply preparedSound.same_surface isActing isOld
    rw [layer, ← sameLayer, ← isActed, Surface.act_layer]
  subst same
  rw [← isActed, ← layer]
  cases Surface.act_redraw stillRedraws prepared.isTransitioning (input.render acting.layer) with
  | inl remains => exact .inl remains
  | inr ended =>
    right
    cases ended with
    | inl draws => exact .inl (present_drawn isActing draws)
    | inr disabled => exact .inr disabled

theorem maintain_sound {runtime : Runtime} (sound : runtime.Sound) {input : PassInput}
    {result : Runtime × List Nat} (maintains : runtime.maintain input = .ok result) :
    result.1.Sound ∧ runtime.KeepsRedraws result.1 result.2 := by
  obtain ⟨prepared, prepares, isResult⟩ := maintain_spec maintains
  subst isResult
  exact ⟨(sound.prepared prepares).presented input, keepsRedraws_of_maintain sound prepares input⟩

/-! ## Events -/

/-- Every surface after an event stood before it and still asks for what it asked for, or is new
and asks for its first redraw. -/
theorem keepsRedraws_of_origin {runtime next : Runtime} (sound : runtime.Sound)
    (origin : ∀ later ∈ next.surfaces, later.presentation.redraw = true ∨
      ∃ old ∈ runtime.surfaces, later.layer = old.layer ∧
        (old.presentation.redraw = true → later.presentation.redraw = true)) :
    runtime.KeepsRedraws next [] := by
  intro surface member redraws later isLater sameLayer
  cases origin later isLater with
  | inl asks => exact .inl asks
  | inr stood =>
    obtain ⟨old, isOld, layer, keeps⟩ := stood
    have same := sound.same_surface isOld member (layer.symm.trans sameLayer)
    exact .inl (keeps (same ▸ redraws))

theorem Sound.edited {runtime : Runtime} (sound : runtime.Sound) {edit : Surface → Surface}
    (edits : Surface.Edits edit) (index : Nat) :
    Sound { runtime with surfaces := runtime.surfaces.modify index edit } ∧
      runtime.KeepsRedraws { runtime with surfaces := runtime.surfaces.modify index edit } [] := by
  refine ⟨⟨?_, ?_, ?_, ?_⟩, keepsRedraws_of_origin sound ?_⟩
  · simp only [Lists.map_modify_of_eq edits.layer]
    exact sound.layers
  · intro surface member
    cases Lists.mem_modify_cases member with
    | inl old => exact sound.created surface old
    | inr edited =>
      obtain ⟨old, isOld, isEdited⟩ := edited
      rw [isEdited, edits.layer]
      exact sound.created old isOld
  · intro surface member
    cases Lists.mem_modify_cases member with
    | inl old => exact sound.awaits surface old
    | inr edited =>
      obtain ⟨old, isOld, isEdited⟩ := edited
      exact isEdited ▸ edits.awaits old (sound.awaits old isOld)
  · intro transitions surface member
    cases Lists.mem_modify_cases member with
    | inl old => exact sound.driven transitions surface old
    | inr edited =>
      obtain ⟨old, isOld, isEdited⟩ := edited
      exact isEdited ▸ edits.driven old (sound.driven transitions old isOld)
  · intro later isLater
    right
    cases Lists.mem_modify_cases isLater with
    | inl old => exact ⟨later, old, rfl, id⟩
    | inr edited =>
      obtain ⟨old, isOld, isEdited⟩ := edited
      exact ⟨old, isOld, isEdited ▸ edits.layer old, isEdited ▸ edits.redraw old⟩

theorem Sound.filtered {runtime : Runtime} (sound : runtime.Sound) (keeps : Surface → Bool) :
    Sound { runtime with surfaces := runtime.surfaces.filter keeps } ∧
      runtime.KeepsRedraws { runtime with surfaces := runtime.surfaces.filter keeps } [] := by
  have stood : ∀ surface ∈ runtime.surfaces.filter keeps, surface ∈ runtime.surfaces :=
    fun surface member => (List.mem_filter.mp member).1
  refine ⟨⟨?_, ?_, ?_, ?_⟩, keepsRedraws_of_origin sound ?_⟩
  · exact (List.filter_sublist.map _).nodup sound.layers
  · exact fun surface member => sound.created surface (stood surface member)
  · exact fun surface member => sound.awaits surface (stood surface member)
  · exact fun transitions surface member => sound.driven transitions surface (stood surface member)
  · exact fun later isLater => .inr ⟨later, stood later isLater, rfl, id⟩

theorem Sound.added {runtime : Runtime} (sound : runtime.Sound) (output : Nat) :
    let next := { runtime with
      surfaces := runtime.surfaces ++ [Surface.new output runtime.layersCreated]
      layersCreated := runtime.layersCreated + 1 }
    next.Sound ∧ runtime.KeepsRedraws next [] := by
  have stands : ∀ surface ∈ runtime.surfaces ++ [Surface.new output runtime.layersCreated],
      surface ∈ runtime.surfaces ∨ surface = Surface.new output runtime.layersCreated := by
    simp
  refine ⟨⟨?_, ?_, ?_, ?_⟩, keepsRedraws_of_origin sound ?_⟩
  · rw [List.map_append, List.nodup_append]
    refine ⟨sound.layers, by simp, ?_⟩
    intro layer member other isOther
    obtain ⟨surface, isSurface, isLayer⟩ := List.mem_map.mp member
    have older := sound.created surface isSurface
    simp only [List.map_cons, List.map_nil, List.mem_singleton, Surface.new] at isOther
    omega
  · intro surface member
    cases stands surface member with
    | inl old => exact Nat.lt_succ_of_lt (sound.created surface old)
    | inr isNew =>
      rw [isNew]
      exact Nat.lt_succ_self _
  · intro surface member
    cases stands surface member with
    | inl old => exact sound.awaits surface old
    | inr isNew => exact isNew ▸ rfl
  · intro transitions surface member
    cases stands surface member with
    | inl old => exact sound.driven transitions surface old
    | inr isNew => exact isNew ▸ PresentationState.driven_of_redraw rfl
  · intro later isLater
    cases stands later isLater with
    | inl old => exact .inr ⟨later, old, rfl, id⟩
    | inr isNew => exact .inl (isNew ▸ rfl)

theorem Sound.unchanged {runtime : Runtime} (sound : runtime.Sound) :
    runtime.Sound ∧ runtime.KeepsRedraws runtime [] :=
  ⟨sound, keepsRedraws_of_origin sound fun later isLater => .inr ⟨later, isLater, rfl, id⟩⟩

theorem Sound.addSurface {runtime : Runtime} (sound : runtime.Sound) (output : Nat)
    (outputSize : Option (Nat × Nat)) :
    (runtime.addSurface output outputSize).Sound ∧
      runtime.KeepsRedraws (runtime.addSurface output outputSize) [] := by
  simp only [Runtime.addSurface]
  split
  next index _ => exact sound.edited (Surface.refreshGeometry_edits outputSize) index
  next => exact sound.added output

theorem Sound.updateLayer {runtime : Runtime} (sound : runtime.Sound) {edit : Surface → Surface}
    (edits : Surface.Edits edit) (layer : Nat) :
    (runtime.updateLayer layer edit).Sound ∧
      runtime.KeepsRedraws (runtime.updateLayer layer edit) [] := by
  simp only [Runtime.updateLayer]
  split
  next index _ => exact sound.edited edits index
  next => exact sound.unchanged

theorem Sound.configured {runtime : Runtime} (sound : runtime.Sound) (layer : Nat) (hints : Nat × Nat)
    (outputSize : Option (Nat × Nat)) :
    (runtime.configure layer hints outputSize).Sound ∧
      runtime.KeepsRedraws (runtime.configure layer hints outputSize) [] := by
  simp only [configure]
  split
  next index _ => exact sound.edited (Surface.configure_edits hints outputSize) index
  next =>
    obtain ⟨stillSound, keeps⟩ := sound.unchanged
    exact ⟨⟨stillSound.layers, stillSound.created, stillSound.awaits, stillSound.driven⟩, keeps⟩

theorem Sound.handled {runtime : Runtime} (sound : runtime.Sound) {event : RuntimeEvent}
    {result : Runtime × List Nat} (handles : runtime.handle event = some result) :
    result.1.Sound ∧ runtime.KeepsRedraws result.1 result.2 := by
  cases event with
  | newOutput output outputSize => exact Option.some.inj handles ▸ sound.addSurface output outputSize
  | updateOutput output outputSize => exact Option.some.inj handles ▸ sound.addSurface output outputSize
  | outputDestroyed output => exact Option.some.inj handles ▸ sound.filtered _
  | closed layer => exact Option.some.inj handles ▸ sound.filtered _
  | configure layer hints outputSize =>
    exact Option.some.inj handles ▸ sound.configured layer hints outputSize
  | scaleFactorChanged layer scale =>
    exact Option.some.inj handles ▸ sound.updateLayer (Surface.scaleFactorChanged_edits scale) layer
  | transformChanged layer =>
    exact Option.some.inj handles ▸ sound.updateLayer Surface.transformChanged_edits layer
  | frame layer => exact Option.some.inj handles ▸ sound.updateLayer Surface.frameArrived_edits layer
  | resumeTimer =>
    obtain ⟨stillSound, keeps⟩ := sound.unchanged
    exact Option.some.inj handles ▸
      ⟨⟨stillSound.layers, stillSound.created, stillSound.awaits, stillSound.driven⟩, keeps⟩
  | maintain input =>
    simp only [handle, Except.toOption] at handles
    split at handles
    next maintained isMaintained => exact maintain_sound sound (Option.some.inj handles ▸ isMaintained)
    next => cases handles

end Runtime

/-- In every reachable state each surface that is not disabled keeps up with a running dissolve, and
an event ends a requested redraw only by drawing the surface or by disabling it. -/
theorem dissolve_never_stalls {runtime : Runtime} (reachable : desktopSystem.Reachable runtime) :
    (runtime.isTransitioning = true → ∀ surface ∈ runtime.surfaces,
      surface.presentation.disabled = false →
        surface.presentation.redraw = true ∨
        (surface.presentation.framePending = true ∧ surface.frameCallback = true) ∨
        surface.presentation.frameReady = true) ∧
    ∀ event next drawn, runtime.handle event = some (next, drawn) →
      ∀ surface ∈ runtime.surfaces, surface.presentation.redraw = true →
        ∀ later ∈ next.surfaces, later.layer = surface.layer →
          later.presentation.redraw = true ∨ surface.layer ∈ drawn ∨
          later.presentation.disabled = true := by
  have sound : runtime.Sound := by
    refine reachable.invariant Runtime.Sound ?_ ?_
    · intro start starts
      obtain ⟨appearance, reducedMotion, counter, isStart⟩ := starts
      subst isStart
      exact ⟨List.nodup_nil, by simp, by simp, by simp⟩
    · intro before event next sound steps
      obtain ⟨result, handles, isNext⟩ := Option.map_eq_some_iff.mp steps
      exact isNext ▸ (sound.handled handles).1
  refine ⟨?_, fun event next drawn handles => (sound.handled handles).2⟩
  intro transitions surface member enabled
  refine (sound.driven transitions surface member enabled).imp_right (Or.imp_left ?_)
  intro pending
  exact ⟨pending, sound.awaits surface member ▸ pending⟩

/-! ## A dissolve at noon on one output -/

def sampleMoment (clock : ClockSnapshot) (seconds : Nat) : Moment where
  clock := some clock
  monotonic := Duration.fromSecs seconds
  suspended := false
  dispatch := .sent

def samplePass (clock : ClockSnapshot) (seconds : Nat) (worker : TryReceive)
    (solar : List (Moment × Option TimePoints)) : PassInput where
  check := sampleMoment clock seconds
  worker := worker
  decode := sampleMoment clock seconds
  storage := some 4
  solar := solar
  presentation := sampleMoment clock seconds
  render _ := { released := fun _ => true, poolError := none, bufferError := none, attachError := none }

/-- The second image is due at noon, and its decode starts a dissolve. -/
def dissolveEvents : List RuntimeEvent :=
  let morning := sampleClock 11 59 beforeNoon_valid
  let noon := sampleClock 12 0 noon_valid
  [.newOutput 0 (some (1, 1)), .configure 0 (0, 0) (some (1, 1)),
    .maintain (samplePass morning 0 (.received (.initialized {} ⟨0⟩))
      [(sampleMoment morning 0, some samplePoints)]),
    .maintain (samplePass morning 0 (.received (.decoded ⟨0, ⟨0⟩⟩ (some (sampleFrame 10)))) []),
    .maintain (samplePass noon 60 .empty []),
    .maintain (samplePass noon 60 (.received (.decoded ⟨1, ⟨1⟩⟩ (some (sampleFrame 200)))) [])]

def startRuntime : Runtime where
  surfaces := []
  layersCreated := 0
  scheduler := none
  decoder := { initializing := true, inFlight := false }
  appearance := .automatic
  reducedMotion := false
  counter := 0
  checkClock := false
  failure := none

def nextRuntime (runtime : Runtime) (event : RuntimeEvent) : Option Runtime :=
  (runtime.handle event).map (·.1)

def dissolvingRuntime : Runtime :=
  (dissolveEvents.foldlM nextRuntime startRuntime).getD startRuntime

theorem dissolvingRuntime_reachable : desktopSystem.Reachable dissolvingRuntime := by
  have started : desktopSystem.Reachable startRuntime := .initial ⟨_, _, _, rfl⟩
  have evaluates : (dissolveEvents.foldlM nextRuntime startRuntime).isSome = true := by decide +kernel
  obtain ⟨final, isFinal⟩ := Option.isSome_iff_exists.mp evaluates
  rw [dissolvingRuntime, isFinal]
  exact TransitionSystem.reachable_of_labels started dissolveEvents isFinal

theorem dissolve_never_stalls_sample :
    dissolvingRuntime.isTransitioning = true ∧
    (dissolvingRuntime.isTransitioning = true → ∀ surface ∈ dissolvingRuntime.surfaces,
      surface.presentation.disabled = false →
        surface.presentation.redraw = true ∨
        (surface.presentation.framePending = true ∧ surface.frameCallback = true) ∨
        surface.presentation.frameReady = true) ∧
    ∀ event next drawn, dissolvingRuntime.handle event = some (next, drawn) →
      ∀ surface ∈ dissolvingRuntime.surfaces, surface.presentation.redraw = true →
        ∀ later ∈ next.surfaces, later.layer = surface.layer →
          later.presentation.redraw = true ∨ surface.layer ∈ drawn ∨
          later.presentation.disabled = true :=
  ⟨by decide +kernel, dissolve_never_stalls dissolvingRuntime_reachable⟩

end Genkan.DesktopWallpaper
