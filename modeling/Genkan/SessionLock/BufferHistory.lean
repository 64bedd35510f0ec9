import Genkan.SessionLock.Changes
import Genkan.SessionLock.Repaint

/-! # What the buffers of a surface hold

A buffer may have been drawn several updates ago.  It still holds a whole drawing of some frame for
the role its generation stands for, and as long as its background generation is the current one,
that frame had the current geometry and background.  Generations are 64-bit counters, so the
argument counts background changes and needs fewer of them than the counter has values.
-/

namespace Genkan.SessionLock

open Foundations

/-- The role flips with every role generation and starts without authentication. -/
def roleOf (generation : UInt64) : Bool := generation.toNat % 2 == 1

theorem roleOf_succ (generation : UInt64) : roleOf (generation + 1) = !roleOf generation := by
  simp only [roleOf, UInt64.toNat_add, UInt64.toNat_one]
  cases Nat.mod_two_eq_zero_or_one generation.toNat with
  | inl isEven =>
    have next : (generation.toNat + 1) % 2 = 1 := by omega
    simp [isEven, next]
  | inr isOdd =>
    have next : (generation.toNat + 1) % 2 = 0 := by omega
    simp [isOdd, next]

/-- The background generation after this many background changes. -/
def generationAfter (changes : Nat) : UInt64 := UInt64.ofNat (1 + changes)

theorem generationAfter_succ (changes : Nat) :
    generationAfter (changes + 1) = generationAfter changes + 1 := by
  simp [generationAfter, ← Nat.add_assoc]

theorem generationAfter_fresh {earlier changes : Nat} (order : earlier ≤ changes)
    (few : changes + 1 < 2 ^ 64) : generationAfter earlier ≠ generationAfter (changes + 1) := by
  intro same
  have values := congrArg UInt64.toNat same
  simp only [generationAfter, UInt64.toNat_ofNat'] at values
  omega

/-- The overlay that a cache holds is the one scaled from its source. -/
def CachedOverlay.Coherent (cache : CachedOverlay) : Prop :=
  cache.frame = scaleOverlay cache.source cache.size.1 cache.size.2

/-- The buffer holds a whole drawing of some frame, and while its background generation is current
that frame looks like the present one outside the overlay. -/
structure SurfaceBuffer.Painted (buffer : SurfaceBuffer) (changes : Nat)
    (frame : Option PresentationFrame) : Prop where
  drawable : Drawable buffer.size
  generation : ∃ earlier, earlier ≤ changes ∧ buffer.backgroundGeneration = generationAfter earlier
  drawing : ∃ drawn, buffer.canvas = wholeDrawing buffer.size drawn (roleOf buffer.roleGeneration) ∧
    (buffer.backgroundGeneration = generationAfter changes →
      frameGeometry drawn = frameGeometry frame ∧ backgroundImage drawn = backgroundImage frame)

structure Surface.Painted (surface : Surface) (changes : Nat) (frame : Option PresentationFrame) :
    Prop where
  role : surface.authentication = roleOf surface.roleGeneration
  cache : ∀ cache ∈ surface.overlayCache, cache.Coherent
  allocations : AllocationsAgree [surface] frame
  buffers : ∀ buffer ∈ surface.buffers, buffer.Painted changes frame

structure Runtime.Painted (runtime : Runtime) (changes : Nat) : Prop where
  geometry : runtime.presentationGeometry = frameGeometry runtime.frame
  generation : runtime.backgroundGeneration = generationAfter changes
  surfaces : ∀ surface ∈ runtime.surfaces, surface.Painted changes runtime.frame

/-- A commit shows the whole drawing of the frame it was made for. -/
def Commit.Whole (commit : Commit) : Prop :=
  commit.canvas = wholeDrawing commit.size commit.frame commit.authentication

/-! ## The overlay cache -/

theorem matches_source {cache : CachedOverlay} {source : RgbaFrame} {size : Nat × Nat}
    (matching : cache.matches source size = true)
    (allocation : cache.source.pixels.pointer = source.pixels.pointer →
      cache.source.pixels.data.length = source.pixels.data.length →
      cache.source.pixels.data = source.pixels.data) :
    cache.size = size ∧ cache.source = source := by
  obtain ⟨⟨width, height, ⟨pointer, data⟩⟩, cacheSize, cached⟩ := cache
  obtain ⟨sourceWidth, sourceHeight, ⟨sourcePointer, sourceData⟩⟩ := source
  simp only [CachedOverlay.matches, RgbaFrame.dimensions, Bool.and_eq_true, beq_iff_eq,
    Prod.mk.injEq] at matching
  obtain ⟨sizes, ⟨rfl, rfl⟩, lengths, rfl⟩ := matching
  cases allocation rfl lengths
  exact ⟨sizes, rfl⟩

namespace Surface

theorem allocationsAgree_of_cache {surface next : Surface} {frame : Option PresentationFrame}
    (allocations : AllocationsAgree [surface] frame)
    (kept : ∀ cache ∈ next.overlayCache, cache ∈ surface.overlayCache) :
    AllocationsAgree [next] frame := by
  intro other member cache isCache
  rw [List.mem_singleton.mp member] at isCache
  exact allocations surface (List.mem_singleton_self surface) cache (kept cache isCache)

/-- A cache hit is as good as scaling afresh. -/
theorem refreshCache_eq {surface : Surface} {shown : PresentationFrame}
    (coherent : ∀ cache ∈ surface.overlayCache, cache.Coherent)
    (allocations : AllocationsAgree [surface] (some shown)) (target : Region) :
    surface.refreshCache shown.overlay target =
      { source := shown.overlay
        size := (target.width, target.height)
        frame := scaleOverlay shown.overlay target.width target.height } := by
  simp only [refreshCache]
  split
  next cache isCache =>
    split
    next hit =>
      obtain ⟨sizes, sources⟩ := matches_source hit
        (allocations surface (List.mem_singleton_self surface) cache isCache shown rfl)
      have scaled := coherent cache isCache
      obtain ⟨source, size, frame⟩ := cache
      simp only [CachedOverlay.Coherent] at scaled sizes sources
      subst scaled sizes sources
      rfl
    next => rfl
  next => rfl

/-- Whatever is cached, the overlay is the freshly scaled one, and the cache stays coherent. -/
theorem scaledOverlay_spec {surface : Surface} {frame : Option PresentationFrame} (size : Nat × Nat)
    (coherent : ∀ cache ∈ surface.overlayCache, cache.Coherent)
    (allocations : AllocationsAgree [surface] frame) :
    (surface.scaledOverlay frame size.1 size.2).2 = freshOverlay frame surface.authentication size ∧
      (∀ cache ∈ (surface.scaledOverlay frame size.1 size.2).1.overlayCache, cache.Coherent) ∧
      AllocationsAgree [(surface.scaledOverlay frame size.1 size.2).1] frame := by
  simp only [scaledOverlay, freshOverlay]
  cases surface.authentication with
  | false => exact ⟨rfl, (by simp), allocationsAgree_of_cache allocations (by simp)⟩
  | true =>
    cases frame with
    | none => exact ⟨rfl, coherent, allocations⟩
    | some shown =>
      cases placed : overlayGeometry shown size.1 size.2 with
      | none => simpa [placed] using ⟨coherent, allocations⟩
      | some geometry =>
        simp only [Bool.not_true, Bool.false_eq_true, if_false, if_true, placed, Option.bind_some,
          Option.map_some, refreshCache_eq coherent allocations, true_and]
        refine ⟨?_, ?_⟩
        · rintro cache ⟨⟩
          rfl
        · intro other member cache isCache current isCurrent _ _
          rw [List.mem_singleton.mp member] at isCache
          cases isCache
          cases isCurrent
          rfl

/-! ## Surfaces that are not drawn -/

theorem Change.painted {surface next : Surface} {changes : Nat} {frame : Option PresentationFrame}
    (painted : surface.Painted changes frame) (change : surface.Change next) :
    next.Painted changes frame := by
  obtain ⟨role, cache, allocations, buffers⟩ := painted
  have unchanged : ∀ cached ∈ surface.overlayCache, cached ∈ surface.overlayCache := fun _ => id
  cases change with
  | renamed name => exact ⟨role, cache, allocationsAgree_of_cache allocations unchanged, buffers⟩
  | scheduled redraw => exact ⟨role, cache, allocationsAgree_of_cache allocations unchanged, buffers⟩
  | role authentication =>
    simp only [setAuthentication]
    split
    next => exact ⟨role, cache, allocations, buffers⟩
    next differs =>
      refine ⟨?_, (by simp), allocationsAgree_of_cache allocations (by simp), buffers⟩
      rw [roleOf_succ, ← role]
      cases authentication <;> simpa using differs
  | configured size =>
    simp only [configure]
    split
    next => exact ⟨role, cache, allocationsAgree_of_cache allocations unchanged, buffers⟩
    next => exact ⟨role, cache, allocations, buffers⟩
  | scaled scale =>
    simp only [scaleFactorChanged]
    split
    next => exact ⟨role, cache, allocationsAgree_of_cache allocations unchanged, buffers⟩
    next => exact ⟨role, cache, allocations, buffers⟩
  | released index =>
    refine ⟨role, cache, allocationsAgree_of_cache allocations unchanged, ?_⟩
    intro buffer member
    obtain ⟨position, bound, rfl⟩ := List.getElem_of_mem member
    rw [List.getElem_modify]
    have old := buffers _ (List.getElem_mem (by simpa using bound))
    split
    next => exact ⟨old.drawable, old.generation, old.drawing⟩
    next => exact old
  | retained size =>
    refine ⟨role, cache, allocationsAgree_of_cache allocations unchanged, ?_⟩
    intro buffer member
    exact buffers buffer (List.mem_filter.mp member).1

theorem new_painted (output : Nat) (name : Option String) (lockSurface changes : Nat)
    (frame : Option PresentationFrame) : (new output name lockSurface).Painted changes frame where
  role := rfl
  cache := nofun
  allocations := by
    intro surface member cache isCache
    rw [List.mem_singleton.mp member] at isCache
    contradiction
  buffers := nofun

/-! ## Drawing a surface -/

theorem Painted.prepared {surface : Surface} {changes : Nat} {frame : Option PresentationFrame}
    (painted : surface.Painted changes frame) (size : Nat × Nat) :
    (surface.prepared frame size).Painted changes frame := by
  obtain ⟨_, coherent, allocations⟩ := scaledOverlay_spec size painted.cache painted.allocations
  have same := Runtime.prepared_same surface frame size
  refine ⟨?_, coherent, allocationsAgree_of_cache allocations fun _ => id, ?_⟩
  · rw [same.authentication, same.roleGeneration]
    exact painted.role
  · intro buffer member
    exact painted.buffers buffer (Runtime.mem_prepared_buffers member).1

theorem redrawBuffer_whole {buffer : SurfaceBuffer} {changes : Nat}
    {frame : Option PresentationFrame} (painted : buffer.Painted changes frame)
    (requested : RedrawKind) :
    (redrawBuffer buffer buffer.size requested frame
      (freshOverlay frame (roleOf buffer.roleGeneration) buffer.size) (roleOf buffer.roleGeneration)
      (generationAfter changes)).1.canvas =
      wholeDrawing buffer.size frame (roleOf buffer.roleGeneration) := by
  obtain ⟨drawn, canvas, current⟩ := painted.drawing
  simp only [redrawBuffer]
  split
  next =>
    exact drawOpaqueCached_eq_wholeDrawing _ painted.drawable (by simp [canvas]) frame _
  next partly =>
    simp only [not_or, ne_eq, Decidable.not_not] at partly
    obtain ⟨geometry, image⟩ := current partly.2
    have isOverlay : requested = .overlay := by
      cases requested with
      | overlay => rfl
      | full => exact absurd rfl partly.1
    simp only [redrawRegion, isOverlay, partly.2, and_self, if_true, canvas]
    exact repaint_eq_wholeDrawing painted.drawable geometry image _

/-- A buffer that was just drawn in full with the present frame. -/
theorem painted_of_whole {buffer : SurfaceBuffer} {changes : Nat} {frame : Option PresentationFrame}
    (drawable : Drawable buffer.size) (generation : buffer.backgroundGeneration = generationAfter changes)
    (whole : buffer.canvas = wholeDrawing buffer.size frame (roleOf buffer.roleGeneration)) :
    buffer.Painted changes frame where
  drawable := drawable
  generation := ⟨changes, Nat.le_refl _, generation⟩
  drawing := ⟨frame, whole, fun _ => ⟨rfl, rfl⟩⟩

theorem Painted.drew {surface drawn : Surface} {size : Nat × Nat} {changes : Nat}
    {frame : Option PresentationFrame} {environment : RenderEnvironment} {index : Nat}
    {damaged : Region} (painted : surface.Painted changes frame) (drawable : Drawable size)
    (fitting : ∀ buffer ∈ surface.buffers,
      buffer.size = size ∧ buffer.roleGeneration = surface.roleGeneration)
    (drew : surface.draw size frame (freshOverlay frame surface.authentication size)
      (generationAfter changes) environment = .drawn drawn index damaged) :
    drawn.Painted changes frame ∧ ∀ buffer, drawn.buffers[index]? = some buffer →
      buffer.canvas = wholeDrawing buffer.size frame surface.authentication := by
  rcases draw_cases drew with ⟨old, wasBuffer, rfl⟩ | ⟨rfl, _, rfl⟩
  · -- A buffer is redrawn in its place, and the others stay as they are.
    have member := List.mem_of_getElem? wasBuffer
    have bound := (List.getElem?_eq_some_iff.mp wasBuffer).1
    obtain ⟨rfl, roles⟩ := fitting old member
    have role : surface.authentication = roleOf old.roleGeneration := roles ▸ painted.role
    rw [role]
    have whole := redrawBuffer_whole (painted.buffers old member)
      (surface.redraw.redrawPending.getD .full)
    obtain ⟨sizes, _, redrawnRole, generation⟩ := redrawBuffer_generations old old.size
      (surface.redraw.redrawPending.getD .full) frame
      (freshOverlay frame (roleOf old.roleGeneration) old.size) (roleOf old.roleGeneration)
      (generationAfter changes)
    refine ⟨⟨painted.role, painted.cache, allocationsAgree_of_cache painted.allocations fun _ => id, ?_⟩,
      ?_⟩
    · intro buffer isBuffer
      rcases List.mem_or_eq_of_mem_set isBuffer with kept | rfl
      · exact painted.buffers buffer kept
      · refine painted_of_whole ?_ generation ?_
        · rw [sizes]
          exact drawable
        · rw [sizes, redrawnRole]
          exact whole
    · intro buffer isBuffer
      simp only [setBuffer, List.getElem?_set_self bound, Option.some.injEq] at isBuffer
      rw [← isBuffer, sizes]
      exact whole
  · -- A buffer is added, and drawn whole.
    have whole := drawOpaqueCached_eq_wholeDrawing (blankCanvas size) drawable
      (by simp [blankCanvas]) frame surface.authentication
    refine ⟨⟨painted.role, painted.cache, allocationsAgree_of_cache painted.allocations fun _ => id, ?_⟩,
      ?_⟩
    · intro buffer isBuffer
      cases List.mem_append.mp isBuffer with
      | inl kept => exact painted.buffers buffer kept
      | inr isNew =>
        rw [List.mem_singleton.mp isNew]
        refine painted_of_whole drawable rfl ?_
        rw [← painted.role]
        exact whole
    · intro buffer isBuffer
      simp only [List.getElem?_append_right (Nat.le_refl _), Nat.sub_self, List.getElem?_cons_zero,
        Option.some.injEq] at isBuffer
      rw [← isBuffer]
      exact whole

end Surface

/-! ## One change of the runtime -/

/-- The surfaces' buffers were painted for any frame that looks alike outside the overlay. -/
theorem Surface.Painted.reframe {surface : Surface} {changes : Nat}
    {frame next : Option PresentationFrame} (painted : surface.Painted changes frame)
    (geometry : frameGeometry next = frameGeometry frame)
    (image : backgroundImage next = backgroundImage frame)
    (allocations : AllocationsAgree [surface] next) : surface.Painted changes next := by
  refine ⟨painted.role, painted.cache, allocations, ?_⟩
  intro buffer member
  obtain ⟨drawable, generation, drawn, canvas, current⟩ := painted.buffers buffer member
  refine ⟨drawable, generation, drawn, canvas, ?_⟩
  intro isCurrent
  rw [geometry, image]
  exact current isCurrent

/-- After a background change every older buffer is out of date. -/
theorem Surface.Painted.outdated {surface : Surface} {changes : Nat}
    {frame next : Option PresentationFrame} (painted : surface.Painted changes frame)
    (few : changes + 1 < 2 ^ 64) (allocations : AllocationsAgree [surface] next) :
    surface.Painted (changes + 1) next := by
  refine ⟨painted.role, painted.cache, allocations, ?_⟩
  intro buffer member
  obtain ⟨drawable, ⟨earlier, order, generation⟩, drawn, canvas, _⟩ := painted.buffers buffer member
  refine ⟨drawable, ⟨earlier, by omega, generation⟩, drawn, canvas, ?_⟩
  intro isCurrent
  exact absurd (generation.symm.trans isCurrent) (generationAfter_fresh order few)

theorem allocationsAgree_singleton {surfaces : List Surface} {frame : Option PresentationFrame}
    (allocations : AllocationsAgree surfaces frame) {surface : Surface} (member : surface ∈ surfaces) :
    AllocationsAgree [surface] frame := by
  intro other isOther
  exact allocations other (List.mem_singleton.mp isOther ▸ member)

namespace Runtime

theorem Painted.setSurface {runtime : Runtime} {changes : Nat} (painted : runtime.Painted changes)
    {surface : Surface} (paintedSurface : surface.Painted changes runtime.frame) (index : Nat) :
    (runtime.setSurface index surface).Painted changes := by
  refine ⟨painted.geometry, painted.generation, ?_⟩
  intro other member
  rcases List.mem_or_eq_of_mem_set member with old | rfl
  · exact painted.surfaces other old
  · exact paintedSurface

theorem Draws.painted {runtime : Runtime} {changes : Nat} (painted : runtime.Painted changes)
    {index : Nat} {size : Nat × Nat} {surface drawn : Surface} {bufferIndex : Nat} {damaged : Region}
    (draws : runtime.Draws index size surface drawn bufferIndex damaged) :
    drawn.Painted changes runtime.frame ∧ ∀ buffer, drawn.buffers[bufferIndex]? = some buffer →
      buffer.canvas = wholeDrawing buffer.size runtime.frame surface.authentication := by
  have paintedSurface := painted.surfaces surface (List.mem_of_getElem? draws.found)
  have same := prepared_same surface runtime.frame size
  obtain ⟨_, _, _, sized⟩ := draws.configured
  obtain ⟨environment, drew⟩ := draws.drew
  rw [(Surface.scaledOverlay_spec size paintedSurface.cache paintedSurface.allocations).1,
    ← same.authentication, painted.generation] at drew
  rw [← same.authentication]
  refine (paintedSurface.prepared size).drew (bufferSize_drawable sized) ?_ drew
  intro buffer member
  obtain ⟨_, sizes, _, role⟩ := mem_prepared_buffers member
  exact ⟨sizes, role.trans same.roleGeneration.symm⟩

/-- The surface and the commit that a render leaves behind. -/
theorem Painted.committed {runtime : Runtime} {changes : Nat} (painted : runtime.Painted changes)
    {index : Nat} {size : Nat × Nat} {surface drawn : Surface} {bufferIndex : Nat} {damaged : Region}
    (draws : runtime.Draws index size surface drawn bufferIndex damaged) {buffer : SurfaceBuffer}
    (isBuffer : drawn.buffers[bufferIndex]? = some buffer) (feedback : Option Nat) :
    (runtime.commitBuffer index drawn bufferIndex buffer damaged feedback).Painted changes ∧
      (runtime.commitRecord drawn buffer damaged feedback).Whole := by
  obtain ⟨paintedDrawn, whole⟩ := draws.painted painted
  refine ⟨⟨painted.geometry, painted.generation, ?_⟩, ?_⟩
  · intro other member
    rcases List.mem_or_eq_of_mem_set member with old | rfl
    · exact painted.surfaces other old
    · refine ⟨paintedDrawn.role, paintedDrawn.cache,
        Surface.allocationsAgree_of_cache paintedDrawn.allocations fun _ => id, ?_⟩
      intro held isHeld
      rcases List.mem_or_eq_of_mem_set isHeld with kept | rfl
      · exact paintedDrawn.buffers held kept
      · have old := paintedDrawn.buffers buffer (List.mem_of_getElem? isBuffer)
        exact ⟨old.drawable, old.generation, old.drawing⟩
  · simp only [Commit.Whole, commitRecord, draws.same.authentication]
    exact whole buffer isBuffer

theorem Change.keepsGeneration {runtime next : Runtime} (change : Change runtime next) :
    next.backgroundGeneration = runtime.backgroundGeneration := by
  cases change <;> rfl

theorem Recorded.generation {runtime next : Runtime} (recorded : Recorded runtime next) :
    next.backgroundGeneration = runtime.backgroundGeneration + 1 ∧ next.sent = runtime.sent ∧
      next.sessionLock = runtime.sessionLock := by
  cases recorded with
  | recorded => exact ⟨rfl, rfl, rfl⟩

theorem Painted.changed {runtime next : Runtime} {changes : Nat}
    (painted : runtime.sessionLock = true → runtime.Painted changes)
    (held : next.sessionLock = true) (change : Change runtime next) : next.Painted changes := by
  have painted := painted (change.keepsLock held)
  cases change with
  | lock lock kept stillHeld => exact ⟨painted.geometry, painted.generation, painted.surfaces⟩
  | retirement => exact ⟨painted.geometry, painted.generation, painted.surfaces⟩
  | advanced => exact ⟨painted.geometry, painted.generation, painted.surfaces⟩
  | surface found changed =>
    exact painted.setSurface
      (changed.painted (painted.surfaces _ (List.mem_of_getElem? found))) _
  | added output name =>
    refine ⟨painted.geometry, painted.generation, ?_⟩
    intro surface member
    cases List.mem_append.mp member with
    | inl old => exact painted.surfaces surface old
    | inr isNew =>
      rw [List.mem_singleton.mp isNew]
      exact Surface.new_painted ..
  | removed output =>
    exact ⟨painted.geometry, painted.generation,
      fun surface member => painted.surfaces surface (List.mem_filter.mp member).1⟩
  | overlay frame image geometry allocations =>
    refine ⟨geometry.symm, painted.generation, ?_⟩
    intro surface member
    obtain ⟨old, isOld, rfl⟩ := List.mem_map.mp member
    have reframed := (painted.surfaces old isOld).reframe (geometry.trans painted.geometry) image
      (allocationsAgree_singleton allocations isOld)
    split
    next => exact (Surface.Change.scheduled old _ (by simp)).painted reframed
    next => exact reframed
  | abandoned frame given => simp [given] at held
  | prepared size found =>
    exact painted.setSurface
      ((painted.surfaces _ (List.mem_of_getElem? found)).prepared size) _
  | drawn draws => exact painted.setSurface (draws.painted painted).1 _
  | committed stillHeld draws isBuffer feedback => exact (painted.committed draws isBuffer feedback).1

theorem Painted.recorded {runtime next : Runtime} {changes : Nat} (painted : runtime.Painted changes)
    (few : changes + 1 < 2 ^ 64) (recorded : Recorded runtime next) : next.Painted (changes + 1) := by
  cases recorded with
  | recorded frame schedule requests allocations =>
    refine ⟨rfl, ?_, ?_⟩
    · rw [generationAfter_succ, ← painted.generation]
      rfl
    · intro surface member
      obtain ⟨old, isOld, rfl⟩ := List.mem_map.mp member
      have outdated := (painted.surfaces old isOld).outdated few
        (allocationsAgree_singleton allocations isOld)
      exact ⟨outdated.role, outdated.cache,
        Surface.allocationsAgree_of_cache outdated.allocations fun _ => id, outdated.buffers⟩

end Runtime

/-! ## Every run -/

/-- What the runs keep: painted buffers while the lock is held, and whole commits. -/
structure Runtime.History (runtime : Runtime) (changes : Nat) : Prop where
  painted : runtime.sessionLock = true → runtime.Painted changes
  whole : ∀ commit ∈ commits runtime.sent, commit.Whole

theorem Runtime.History.changed {before after : Runtime} {changes : Nat}
    (history : before.History changes) (change : Runtime.Change before after) :
    after.History changes where
  painted held := Runtime.Painted.changed history.painted held change
  whole := by
    cases change with
    | lock lock kept stillHeld =>
      intro commit member
      exact history.whole commit (kept ▸ member)
    | committed held draws isBuffer feedback =>
      intro commit member
      rcases List.mem_cons.mp member with rfl | old
      · exact ((history.painted held).committed draws isBuffer feedback).2
      · exact history.whole commit old
    | _ => exact history.whole

theorem Runtime.History.recorded {before after : Runtime} {changes : Nat}
    (history : before.History changes) (few : changes + 1 < 2 ^ 64)
    (recorded : Runtime.Recorded before after) : after.History (changes + 1) := by
  obtain ⟨_, sent, lock⟩ := recorded.generation
  refine ⟨fun held => (history.painted (lock ▸ held)).recorded few recorded, ?_⟩
  intro commit member
  exact history.whole commit (sent ▸ member)

theorem Runtime.changes_keep_generation {runtime next : Runtime} (changes : Runtime.Changes runtime next) :
    next.backgroundGeneration = runtime.backgroundGeneration :=
  changes.invariant (fun state => state.backgroundGeneration = runtime.backgroundGeneration)
    (fun _ _ same change => change.keepsGeneration.trans same) rfl

/-- Whether a step starts a new background generation. -/
def ChangesBackground (before after : Runtime) : Prop :=
  after.backgroundGeneration ≠ before.backgroundGeneration

/-- With fewer background changes than the counter has values, every commit shows the whole drawing
of the frame that is current when it is made. -/
theorem partial_redraw_whole (run : session.Run)
    (few : run.count ChangesBackground run.length < 2 ^ 64) {index : Nat}
    (bound : index ≤ run.length) {commit : Commit}
    (committed : Request.commit commit ∈ (run.state index).sent) :
    commit.canvas = wholeDrawing commit.size commit.frame commit.authentication := by
  -- The generation counts the changes of the background, of which there are too few for it to wrap.
  have history : (run.state index).History (run.count ChangesBackground index) := by
    refine run.indexed_invariant (fun index =>
      (run.state index).History (run.count ChangesBackground index)) ?_ ?_ index bound
    · refine ⟨fun _ => ⟨run.starts.presentationGeometry, ?_, ?_⟩, ?_⟩
      · exact run.starts.backgroundGeneration
      · simp [run.starts.surfaces]
      · simp [run.starts.sent, commits]
    · intro index bound history
      obtain ⟨admissible, equal⟩ := run.steps index bound
      obtain ⟨middle, changes, isNext | recorded⟩ :=
        session_steps (run.reachable index (Nat.le_of_lt bound)) admissible
      · have same := Runtime.changes_keep_generation changes
        rw [← isNext, ← equal] at same
        rw [run.count_succ_of_not_changes (by simpa [ChangesBackground] using same), equal, isNext]
        exact changes.invariant _ (fun _ _ => Runtime.History.changed) history
      · have history := changes.invariant _ (fun _ _ => Runtime.History.changed) history
        have next := recorded.generation.1
        rw [Runtime.changes_keep_generation changes, ← equal] at next
        have isChange : ChangesBackground (run.state index) (run.state (index + 1)) := by
          rw [ChangesBackground, next]
          intro same
          simp at same
        have counted := run.count_mono ChangesBackground (Nat.succ_le_of_lt bound)
        rw [Nat.succ_eq_add_one, run.count_succ_of_changes isChange] at counted
        rw [run.count_succ_of_changes isChange, equal]
        exact history.recorded (Nat.lt_of_le_of_lt counted few) recorded
  exact history.whole commit (List.mem_filterMap.mpr ⟨_, committed, rfl⟩)

/-- An update of the overlay alone, for which the compositor has given the only buffer back. -/
def overlayCalls (frame : PresentationFrame) : List Call :=
  [.releaseBuffer 0 0, .frameCallback 0, .key ⟨.backSpace, .none⟩ true (some frame),
    .commitPartialOverlays fun _ => {}]

def overlayRun : session.Run :=
  runOf sampleStart_initial (sampleCalls ++ overlayCalls (sampleFrame 10 1)) (by decide)

def overlayCommit : Commit where
  lockSurface := 0
  output := 0
  size := (2, 1)
  canvas := [⟨0, 0, 0, 255⟩, ⟨8, 8, 8, 255⟩]
  damaged := ⟨0, 0, 1, 1⟩
  frame := some (sampleFrame 10 1)
  authentication := true
  roleChange := false
  feedback := .none
  backgroundGeneration := 2
  geometryGeneration := 1
  roleGeneration := 1

theorem partial_redraw_whole_sample :
    overlayCommit.canvas =
      wholeDrawing overlayCommit.size overlayCommit.frame overlayCommit.authentication := by
  refine partial_redraw_whole overlayRun ?_ (Nat.le_refl overlayRun.length) (by decide)
  exact Nat.lt_of_le_of_lt (overlayRun.count_le _ _) (by decide)

/-! ## A buffer that outlives the counter

The background generation wraps around.  A buffer that the compositor keeps for `2 ^ 64` background
changes passes for current when it comes back.
-/

/-- A pixel of the overlay and one of the background. -/
def agingBuffer (generation : UInt64) (background : UInt8) (released : Bool) : SurfaceBuffer where
  size := (2, 1)
  geometryGeneration := 1
  roleGeneration := 1
  backgroundGeneration := generation
  canvas := [⟨0, 0, 0, 255⟩, ⟨background, background, background, 255⟩]
  released := released

/-- The compositor keeps the first buffer, drawn in generation 2; the second is used again and again. -/
def agingSurface (generation : UInt64) (released : Bool) (redraw : RedrawState) : Surface where
  output := 0
  outputName := .none
  lockSurface := 0
  size := some (2, 1)
  scale := 1
  geometryGeneration := 1
  roleGeneration := 1
  buffers := [agingBuffer 2 8 false, agingBuffer generation 16 released]
  overlayCache := some { source := samplePixel 0, size := (1, 1), frame := samplePixel 0 }
  authentication := true
  redraw := redraw
  firstPresented := true

def aging (current : UInt64) (surface : Surface) (sent : List Request) : Runtime where
  state := { identity := ⟨0, "", ""⟩, lifecycle := .locked, presentationFailed := false }
  sessionLock := true
  ready := []
  failure := .none
  terminate := false
  sent := sent
  surfaces := [surface]
  frame := some (sampleFrame 20 0)
  presentationGeometry := some ⟨(2, 1), ⟨0, 0, 1, 1⟩⟩
  backgroundGeneration := current
  authenticationOutput := .none
  retiringAuthentication := .none
  authenticationRetirement := .none
  authenticationRetirementFeedback := .none
  now := 0
  nextObject := 1

def settledAging (generation : UInt64) (sent : List Request) : Runtime :=
  aging generation (agingSurface generation false { framePending := true }) sent

/-- A new background, drawn into the buffer that the compositor has given back. -/
def backgroundCalls : List Call :=
  [.releaseBuffer 0 1, .pollDeferred .frame (some (sampleFrame 20 0)), .frameCallback 0,
    .maintainSurfaces true fun _ => {}]

theorem aging_allocations (surface : Surface)
    (cached : surface.overlayCache =
      some { source := samplePixel 0, size := (1, 1), frame := samplePixel 0 }) :
    AllocationsAgree [surface] (some (sampleFrame 20 0)) := by
  intro other member cache isCache shown isShown _ _
  rw [List.mem_singleton.mp member, cached] at isCache
  cases isCache
  cases isShown
  rfl

theorem render_of_drawn {runtime : Runtime} {index width height bytes : Nat} {size : Nat × Nat}
    {surface drawn : Surface} {bufferIndex : Nat} {damaged : Region} {environment : RenderEnvironment}
    (found : runtime.surfaces[index]? = some surface) (configured : surface.size = some (width, height))
    (sized : bufferSize width height surface.scale = .ok size)
    (affordable : Runtime.bufferBytes size = .ok bytes)
    (drew : (surface.prepared runtime.frame size).draw size runtime.frame
      (surface.scaledOverlay runtime.frame size.1 size.2).2 runtime.backgroundGeneration environment =
      .drawn drawn bufferIndex damaged) :
    runtime.render index environment = runtime.present index drawn bufferIndex damaged environment := by
  simp only [Surface.prepared] at drew
  simp only [Runtime.render, found, configured, sized, affordable, drew]

/-- The second buffer is drawn afresh and committed. -/
theorem aging_maintained (current generation : UInt64) (sent : List Request) :
    ∃ more, (aging current (agingSurface generation true { redrawPending := some .full }) sent).handle
      (.maintainSurfaces true fun _ => {}) = settledAging current more := by
  let surface := agingSurface generation true { redrawPending := some .full }
  let drawn := agingSurface current true { redrawPending := some .full }
  let before := aging current surface sent
  have cached : surface.scaledOverlay before.frame 2 1 = (surface, some (samplePixel 0)) := by rfl
  have prepared : surface.prepared before.frame (2, 1) = surface := by rfl
  have drew : (surface.prepared before.frame (2, 1)).draw (2, 1) before.frame
      (surface.scaledOverlay before.frame 2 1).2 current {} = .drawn drawn 1 (Region.full 2 1) := by
    rw [prepared, cached]
    change surface.draw (2, 1) (some (sampleFrame 20 0)) (some (samplePixel 0)) current {} = _
    rfl
  have sized : bufferSize 2 1 1 = .ok (2, 1) := by rfl
  have affordable : Runtime.bufferBytes (2, 1) = .ok 8 := by rfl
  have rendered : before.render 0 {} = before.present 0 drawn 1 (Region.full 2 1) {} :=
    render_of_drawn rfl rfl sized affordable drew
  have maintained : before.maintainSurfaces true (fun _ => {}) = before.renderAll (fun _ => {}) [0] := by
    rfl
  refine ⟨(before.present 0 drawn 1 (Region.full 2 1) {}).1.sent, ?_⟩
  change Runtime.orFail (before.maintainSurfaces true fun _ => {}) = _
  simp only [maintained, Runtime.renderAll, rendered]
  rfl

theorem aging_next (generation : UInt64) (sent : List Request) :
    Follows (settledAging generation sent) backgroundCalls ∧
      ∃ more, backgroundCalls.foldl Runtime.handle (settledAging generation sent) =
        settledAging (generation + 1) more := by
  have released : (settledAging generation sent).handle (.releaseBuffer 0 1) =
      aging generation (agingSurface generation true { framePending := true }) sent := by rfl
  have refreshed : (aging generation (agingSurface generation true { framePending := true })
      sent).handle (.pollDeferred .frame (some (sampleFrame 20 0))) = aging (generation + 1)
        (agingSurface generation true { framePending := true, redrawPending := some .full }) sent := by
    rfl
  have answered : (aging (generation + 1) (agingSurface generation true
      { framePending := true, redrawPending := some .full }) sent).handle (.frameCallback 0) =
      aging (generation + 1) (agingSurface generation true { redrawPending := some .full }) sent := by
    rfl
  have reports := aging_allocations (agingSurface generation true { framePending := true }) rfl
  simp only [backgroundCalls, Follows, List.foldl_cons, List.foldl_nil, released, refreshed, answered]
  exact ⟨⟨trivial, ⟨rfl, (by simp), (by simp), reports⟩, trivial, rfl, trivial⟩,
    aging_maintained (generation + 1) generation sent⟩

/-- The first background change, after which both buffers exist. -/
theorem aging_starts : ∃ sent, session.Reachable (settledAging 3 sent) := by
  have evaluated : backgroundCalls.foldl Runtime.handle sampleSession =
      settledAging 3 (backgroundCalls.foldl Runtime.handle sampleSession).sent := by rfl
  exact ⟨_, evaluated ▸ reachable_of_follows sampleSession_reachable (by decide)⟩

/-- The background may change any number of times while the first buffer is away. -/
theorem aging_reachable (times : Nat) :
    ∃ sent, session.Reachable (settledAging (3 + UInt64.ofNat times) sent) := by
  induction times with
  | zero => exact aging_starts
  | succ times inductionHypothesis =>
    obtain ⟨sent, reachable⟩ := inductionHypothesis
    obtain ⟨follows, more, next⟩ := aging_next (3 + UInt64.ofNat times) sent
    refine ⟨more, ?_⟩
    have step := reachable_of_follows reachable follows
    rw [next] at step
    simpa [UInt64.add_assoc] using step

/-- What the returned buffer shows next: the old background beside the new overlay. -/
def staleCommit : Commit :=
  { overlayCommit with frame := some (sampleFrame 20 0) }

/-- The surface when the compositor has given its first buffer back and the overlay is to be drawn. -/
def returnedSurface : Surface :=
  { agingSurface 2 false { redrawPending := some .overlay } with
    buffers := [agingBuffer 2 8 true, agingBuffer 2 16 false] }

theorem returned_commits (sent : List Request) :
    ((aging 2 returnedSurface sent).handle (.commitPartialOverlays fun _ => {})).sent =
      .commit staleCommit :: sent := by
  let before := aging 2 returnedSurface sent
  have cached : returnedSurface.scaledOverlay before.frame 2 1 = (returnedSurface, some (samplePixel 0)) := by
    rfl
  have prepared : returnedSurface.prepared before.frame (2, 1) = returnedSurface := by rfl
  have drew : (returnedSurface.prepared before.frame (2, 1)).draw (2, 1) before.frame
      (returnedSurface.scaledOverlay before.frame 2 1).2 2 {} =
      .drawn returnedSurface 0 ⟨0, 0, 1, 1⟩ := by
    rw [prepared, cached]
    change returnedSurface.draw (2, 1) (some (sampleFrame 20 0)) (some (samplePixel 0)) 2 {} = _
    rfl
  have sized : bufferSize 2 1 1 = .ok (2, 1) := by rfl
  have affordable : Runtime.bufferBytes (2, 1) = .ok 8 := by rfl
  have rendered : before.render 0 {} = before.present 0 returnedSurface 0 ⟨0, 0, 1, 1⟩ {} :=
    render_of_drawn rfl rfl sized affordable drew
  have presented : before.present 0 returnedSurface 0 ⟨0, 0, 1, 1⟩ {} =
      ((before.present 0 returnedSurface 0 ⟨0, 0, 1, 1⟩ {}).1, .ok ()) := by rfl
  have renders : before.renderAll (fun _ => {}) [0] =
      ((before.present 0 returnedSurface 0 ⟨0, 0, 1, 1⟩ {}).1, .ok ()) := by
    rw [Runtime.renderAll, rendered, presented]
    rfl
  have surveyed : Runtime.survey before.backgroundGeneration (fun (surface : Surface) reusable current =>
      overlayProgress surface.redraw surface.buffers.length reusable current true) before.surfaces =
      (before.surfaces, Except.ok [some OverlayProgress.partialUpdate]) := by rfl
  have chosen : Runtime.indicesWhere [some OverlayProgress.partialUpdate] (· == .partialUpdate) = [0] := by
    rfl
  change (Runtime.orFail (before.commitPartialOverlays fun _ => {})).sent = _
  simp only [Runtime.commitPartialOverlays, surveyed, chosen, renders]
  rfl

theorem aging_stale (sent : List Request) :
    Follows (settledAging 2 sent) (overlayCalls (sampleFrame 20 0)) ∧
      ((overlayCalls (sampleFrame 20 0)).foldl Runtime.handle (settledAging 2 sent)).sent =
        .commit staleCommit :: sent := by
  have returned : (((settledAging 2 sent).handle (.releaseBuffer 0 0)).handle (.frameCallback 0)).handle
      (.key ⟨.backSpace, .none⟩ true (some (sampleFrame 20 0))) = aging 2 returnedSurface sent := by rfl
  refine ⟨⟨trivial, trivial, fun _ => ⟨nofun, fun _ => rfl, aging_allocations _ rfl⟩, ?_, trivial⟩, ?_⟩
  · rw [returned]
    rfl
  · simp only [overlayCalls, List.foldl_cons, List.foldl_nil, returned]
    exact returned_commits sent

/-- After `2 ^ 64` background changes a commit shows the background of a frame long gone. -/
theorem stale_partial_redraw :
    ∃ runtime, session.Reachable runtime ∧ ∃ commit, Request.commit commit ∈ runtime.sent ∧
      commit.canvas ≠ wholeDrawing commit.size commit.frame commit.authentication := by
  obtain ⟨sent, reachable⟩ := aging_reachable (2 ^ 64 - 1)
  have wrapped : (3 + UInt64.ofNat (2 ^ 64 - 1)) = 2 := by decide
  rw [wrapped] at reachable
  obtain ⟨follows, stale⟩ := aging_stale sent
  exact ⟨_, reachable_of_follows reachable follows, staleCommit, stale ▸ List.mem_cons_self, by decide⟩

end Genkan.SessionLock
