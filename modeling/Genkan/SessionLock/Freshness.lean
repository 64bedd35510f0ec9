import Genkan.SessionLock.Changes

/-! # No redraw is lost

A surface without a pending redraw shows everything that is current: its last commit was made with
the present generations and, on the authentication output, with the present overlay.
-/

namespace Genkan.SessionLock

open Foundations

/-- The newest commit of a surface, in a list with the newest commit first. -/
def lastCommit (commits : List Commit) (lockSurface : Nat) : Option Commit :=
  commits.find? fun commit => commit.lockSurface == lockSurface

structure Commit.ShowsCurrent (commit : Commit) (backgroundGeneration : UInt64)
    (frame : Option PresentationFrame) (surface : Surface) : Prop where
  background : commit.backgroundGeneration = backgroundGeneration
  geometry : commit.geometryGeneration = surface.geometryGeneration
  role : commit.roleGeneration = surface.roleGeneration
  authentication : commit.authentication = surface.authentication
  overlay : surface.authentication = true →
    commit.frame.map (·.overlay) = frame.map (·.overlay)

def Surface.Settled (surface : Surface) : Prop :=
  surface.size.isSome = true ∧ surface.redraw.redrawPending = .none

def Runtime.UpToDate (runtime : Runtime) (surface : Surface) : Prop :=
  surface.Settled → ∃ commit, lastCommit (commits runtime.sent) surface.lockSurface = some commit ∧
    commit.ShowsCurrent runtime.backgroundGeneration runtime.frame surface

structure Runtime.Fresh (runtime : Runtime) : Prop where
  distinct : (runtime.surfaces.map (·.lockSurface)).Nodup
  older : ∀ surface ∈ runtime.surfaces, surface.lockSurface < runtime.nextObject
  upToDate : ∀ surface ∈ runtime.surfaces, runtime.UpToDate surface

namespace Surface

/-- Two states of one surface that were drawn alike. -/
structure SameShowing (first second : Surface) : Prop where
  geometry : first.geometryGeneration = second.geometryGeneration
  role : first.roleGeneration = second.roleGeneration
  authentication : first.authentication = second.authentication

theorem Change.lockSurface {surface next : Surface} (change : surface.Change next) :
    next.lockSurface = surface.lockSurface := by
  cases change with
  | role authentication =>
    simp only [setAuthentication]
    split <;> rfl
  | configured size =>
    simp only [configure]
    split <;> rfl
  | scaled scale =>
    simp only [scaleFactorChanged]
    split <;> rfl
  | _ => rfl

/-- A change that leaves the surface settled changed nothing that is drawn. -/
theorem Change.settled {surface next : Surface} (change : surface.Change next)
    (settled : next.Settled) : surface.Settled ∧ next.SameShowing surface := by
  obtain ⟨configured, pending⟩ := settled
  cases change with
  | scheduled redraw keeps => exact ⟨⟨configured, keeps pending⟩, rfl, rfl, rfl⟩
  | role authentication =>
    simp only [setAuthentication] at configured pending ⊢
    split at configured
    next same =>
      simp only [same, if_true] at pending ⊢
      exact ⟨⟨configured, pending⟩, rfl, rfl, rfl⟩
    next differs => simp [differs, configured, RedrawState.requestRoleChange] at pending
  | configured size =>
    simp only [configure] at configured pending ⊢
    split at configured
    next differs => simp [differs, RedrawState.requestGeometry] at pending
    next same =>
      simp only [same, if_false] at pending ⊢
      exact ⟨⟨configured, pending⟩, rfl, rfl, rfl⟩
  | scaled scale =>
    simp only [scaleFactorChanged] at configured pending ⊢
    split at configured
    next differs => simp [differs, RedrawState.requestGeometry] at pending
    next same =>
      simp only [same, if_false] at pending ⊢
      exact ⟨⟨configured, pending⟩, rfl, rfl, rfl⟩
  | renamed => exact ⟨⟨configured, pending⟩, rfl, rfl, rfl⟩
  | released => exact ⟨⟨configured, pending⟩, rfl, rfl, rfl⟩
  | retained => exact ⟨⟨configured, pending⟩, rfl, rfl, rfl⟩

end Surface

namespace Runtime

theorem UpToDate.of_settled {runtime : Runtime} {surface next : Surface}
    (upToDate : runtime.UpToDate surface) (same : next.lockSurface = surface.lockSurface)
    (settles : next.Settled → surface.Settled ∧ next.SameShowing surface) :
    runtime.UpToDate next := by
  intro settled
  obtain ⟨wasSettled, geometry, role, authentication⟩ := settles settled
  obtain ⟨commit, isLast, shows⟩ := upToDate wasSettled
  refine ⟨commit, same ▸ isLast, shows.background, geometry ▸ shows.geometry, role ▸ shows.role,
    authentication ▸ shows.authentication, authentication ▸ shows.overlay⟩

theorem UpToDate.of_same {runtime : Runtime} {surface next : Surface}
    (upToDate : runtime.UpToDate surface) (same : next.SameIdentity surface) :
    runtime.UpToDate next := by
  refine upToDate.of_settled same.lockSurface ?_
  rintro ⟨configured, pending⟩
  exact ⟨⟨same.size ▸ configured, same.redraw ▸ pending⟩, same.geometryGeneration,
    same.roleGeneration, same.authentication⟩

theorem setSurface_lockSurfaces {runtime : Runtime} {index : Nat} {surface : Surface}
    (found : runtime.surfaces[index]? = some surface) (next : Surface)
    (same : next.lockSurface = surface.lockSurface) :
    (runtime.setSurface index next).surfaces.map (·.lockSurface) =
      runtime.surfaces.map (·.lockSurface) :=
  Lists.map_set_of_eq found same

theorem Fresh.setSurface {runtime : Runtime} (fresh : runtime.Fresh) {index : Nat}
    {surface next : Surface} (found : runtime.surfaces[index]? = some surface)
    (same : next.lockSurface = surface.lockSurface)
    (upToDate : runtime.UpToDate surface → runtime.UpToDate next) :
    (runtime.setSurface index next).Fresh where
  distinct := by
    rw [setSurface_lockSurfaces found next same]
    exact fresh.distinct
  older := by
    intro other member
    rcases List.mem_or_eq_of_mem_set member with old | rfl
    · exact fresh.older other old
    · rw [same]
      exact fresh.older surface (List.mem_of_getElem? found)
  upToDate := by
    intro other member
    rcases List.mem_or_eq_of_mem_set member with old | rfl
    · exact fresh.upToDate other old
    · exact upToDate (fresh.upToDate surface (List.mem_of_getElem? found))

theorem Fresh.added {runtime : Runtime} (fresh : runtime.Fresh) (output : Nat)
    (name : Option String) :
    Fresh { runtime with
      surfaces := runtime.surfaces ++ [Surface.new output name runtime.nextObject]
      nextObject := runtime.nextObject + 1 } where
  distinct := by
    simp only [List.map_append, List.nodup_append, fresh.distinct, true_and]
    refine ⟨by simp, ?_⟩
    intro identifier old other isNew
    obtain ⟨surface, member, rfl⟩ := List.mem_map.mp old
    have isNext : other = runtime.nextObject := by simpa [Surface.new] using isNew
    exact isNext ▸ Nat.ne_of_lt (fresh.older surface member)
  older := by
    intro surface member
    cases List.mem_append.mp member with
    | inl old => exact Nat.lt_succ_of_lt (fresh.older surface old)
    | inr isNew =>
      rw [List.mem_singleton.mp isNew]
      exact Nat.lt_succ_self _
  upToDate := by
    intro surface member
    cases List.mem_append.mp member with
    | inl old => exact fresh.upToDate surface old
    | inr isNew =>
      rw [List.mem_singleton.mp isNew]
      intro settled
      simp [Surface.Settled, Surface.new] at settled

theorem Fresh.removed {runtime : Runtime} (fresh : runtime.Fresh) (keep : Surface → Bool) :
    Fresh { runtime with surfaces := runtime.surfaces.filter keep } where
  distinct := fresh.distinct.sublist (List.filter_sublist.map _)
  older surface member := fresh.older surface (List.mem_filter.mp member).1
  upToDate surface member := fresh.upToDate surface (List.mem_filter.mp member).1

theorem Fresh.mapSurfaces {runtime : Runtime} (fresh : runtime.Fresh) (change : Surface → Surface)
    (same : ∀ surface, (change surface).lockSurface = surface.lockSurface)
    (next : Runtime) (surfaces : next.surfaces = runtime.surfaces) (nextObject : next.nextObject = runtime.nextObject)
    (upToDate : ∀ surface, runtime.UpToDate surface → next.UpToDate (change surface)) :
    (next.mapSurfaces change).Fresh where
  distinct := by
    simp only [Runtime.mapSurfaces, surfaces, List.map_map, Function.comp_def, same]
    exact fresh.distinct
  older := by
    intro surface member
    simp only [Runtime.mapSurfaces, surfaces] at member
    obtain ⟨old, isOld, rfl⟩ := List.mem_map.mp member
    rw [same]
    exact nextObject ▸ fresh.older old isOld
  upToDate := by
    intro surface member
    simp only [Runtime.mapSurfaces, surfaces] at member
    obtain ⟨old, isOld, rfl⟩ := List.mem_map.mp member
    exact upToDate old (fresh.upToDate old isOld)

theorem Fresh.recorded {runtime next : Runtime} (fresh : runtime.Fresh)
    (recorded : Recorded runtime next) : next.Fresh := by
  cases recorded with
  | recorded frame schedule requests allocations =>
    refine fresh.mapSurfaces (fun surface => { surface with redraw := schedule surface })
      (fun _ => rfl) ({ runtime with frame := frame }.recordFullFrame) rfl rfl ?_
    rintro surface _ ⟨configured, pending⟩
    exact absurd pending (requests surface configured)

theorem Fresh.overlay {runtime : Runtime} (fresh : runtime.Fresh) (frame : Option PresentationFrame) :
    ({ runtime with frame := frame }.redrawAllSurfaces .overlay).Fresh := by
  refine fresh.mapSurfaces _ ?_ { runtime with frame := frame } rfl rfl ?_
  · intro surface
    split <;> rfl
  · intro surface upToDate settled
    split at settled
    next => exact absurd settled.2 (RedrawState.request_pending _ _)
    next hidden =>
      rw [if_neg hidden]
      obtain ⟨commit, isLast, shows⟩ := upToDate settled
      refine ⟨commit, isLast, shows.background, shows.geometry, shows.role, shows.authentication, ?_⟩
      intro authentication
      simp [settled.1, authentication] at hidden

theorem Fresh.committed {runtime : Runtime} (fresh : runtime.Fresh) {index : Nat} {size : Nat × Nat}
    {surface drawn : Surface} {bufferIndex : Nat} {damaged : Region}
    (draws : runtime.Draws index size surface drawn bufferIndex damaged) {buffer : SurfaceBuffer}
    (isBuffer : drawn.buffers[bufferIndex]? = some buffer) (feedback : Option Nat) :
    (runtime.commitBuffer index drawn bufferIndex buffer damaged feedback).Fresh := by
  have same := draws.same
  obtain ⟨_, geometry, role, background⟩ := draws.generations isBuffer
  constructor
  · have identifiers := setSurface_lockSurfaces draws.found { drawn.setBuffer bufferIndex
      { buffer with released := false } with
        redraw := drawn.redraw.committed drawn.redraw.requestFrameCallback
        firstPresented := true } same.lockSurface
    exact identifiers.symm ▸ fresh.distinct
  · intro other member
    rcases List.mem_or_eq_of_mem_set member with old | rfl
    · exact fresh.older other old
    · exact same.lockSurface ▸ fresh.older surface (List.mem_of_getElem? draws.found)
  · intro other member settled
    rcases Lists.mem_set_cases member with rfl | ⟨position, elsewhere, found⟩
    · refine ⟨runtime.commitRecord drawn buffer damaged feedback, ?_, ?_⟩
      · exact List.find?_cons_of_pos (by simp [commitRecord, Surface.setBuffer])
      · exact ⟨background, geometry.trans same.geometryGeneration.symm,
          role.trans same.roleGeneration.symm, rfl, fun _ => rfl⟩
    · obtain ⟨commit, isLast, shows⟩ := fresh.upToDate other (List.mem_of_getElem? found) settled
      refine ⟨commit, ?_, shows⟩
      have differ := Lists.key_ne_of_nodup fresh.distinct draws.found found elsewhere
      have skipped : lastCommit
          (runtime.commitRecord drawn buffer damaged feedback :: commits runtime.sent)
          other.lockSurface = lastCommit (commits runtime.sent) other.lockSurface :=
        List.find?_cons_of_neg (by simpa [commitRecord, same.lockSurface] using differ.symm)
      exact skipped.trans isLast

theorem Fresh.changed {runtime next : Runtime} (fresh : runtime.Fresh)
    (held : next.sessionLock = true) (change : Change runtime next) : next.Fresh := by
  cases change with
  | lock lock kept stillHeld =>
    refine ⟨fresh.distinct, fresh.older, ?_⟩
    intro surface member settled
    obtain ⟨commit, isLast, shows⟩ := fresh.upToDate surface member settled
    exact ⟨commit, kept ▸ isLast, shows⟩
  | retirement => exact ⟨fresh.distinct, fresh.older, fresh.upToDate⟩
  | advanced now nextObject later =>
    exact ⟨fresh.distinct, fun surface member => Nat.lt_of_lt_of_le (fresh.older surface member) later,
      fresh.upToDate⟩
  | surface found changes =>
    exact fresh.setSurface found changes.lockSurface
      (fun upToDate => upToDate.of_settled changes.lockSurface changes.settled)
  | added output name => exact fresh.added output name
  | removed output => exact fresh.removed _
  | overlay frame image geometry allocations => exact fresh.overlay frame
  | abandoned frame given => simp [given] at held
  | prepared size found =>
    exact fresh.setSurface found (prepared_same ..).lockSurface
      (fun upToDate => upToDate.of_same (prepared_same ..))
  | drawn draws =>
    exact fresh.setSurface draws.found draws.same.lockSurface
      (fun upToDate => upToDate.of_same draws.same)
  | committed stillHeld draws isBuffer feedback => exact fresh.committed draws isBuffer feedback

end Runtime

theorem fresh_of_held {runtime : Runtime} (reachable : session.Reachable runtime)
    (held : runtime.sessionLock = true) : runtime.Fresh := by
  refine session_invariant (fun runtime => runtime.sessionLock = true → runtime.Fresh)
    ?_ ?_ ?_ reachable held
  · intro runtime initial _
    constructor <;> simp [initial.surfaces]
  · intro before after fresh change held
    exact (fresh (change.keepsLock held)).changed held change
  · intro before after fresh recorded held
    refine (fresh ?_).recorded recorded
    cases recorded with
    | recorded => exact held

/-- While the lock is held, every configured surface without a pending redraw shows the current
background, geometry, role and, on the authentication output, the current overlay. -/
theorem no_lost_redraw {runtime : Runtime} (reachable : session.Reachable runtime)
    (held : runtime.sessionLock = true) {surface : Surface} (member : surface ∈ runtime.surfaces)
    (configured : surface.size.isSome = true) (settled : surface.redraw.redrawPending = .none) :
    ∃ commit, lastCommit (commits runtime.sent) surface.lockSurface = some commit ∧
      commit.ShowsCurrent runtime.backgroundGeneration runtime.frame surface :=
  (fresh_of_held reachable held).upToDate surface member ⟨configured, settled⟩

/-- The surface of the small session. -/
def sampleSurface : Surface := sampleSession.surfaces.head (by decide)

theorem no_lost_redraw_sample :
    ∃ commit, lastCommit (commits sampleSession.sent) sampleSurface.lockSurface = some commit ∧
      commit.ShowsCurrent sampleSession.backgroundGeneration sampleSession.frame sampleSurface :=
  no_lost_redraw sampleSession_reachable (by decide) (List.head_mem _) (by decide) (by decide)

/-- The turn of the loop that unlocks leaves before it applies the overlay refresh it received. -/
def unlockedSession : Runtime :=
  sampleSession.handle (.pollPriority .overlay (some (sampleFrame 10 1)) true .none)

theorem unlockedSession_reachable : session.Reachable unlockedSession :=
  .step sampleSession_reachable ⟨by decide, rfl⟩

theorem lost_redraw_after_unlock :
    session.Reachable unlockedSession ∧
      ∃ surface ∈ unlockedSession.surfaces, surface.size.isSome = true ∧
        surface.redraw.redrawPending = .none ∧
        ¬ ∃ commit, lastCommit (commits unlockedSession.sent) surface.lockSurface = some commit ∧
          commit.ShowsCurrent unlockedSession.backgroundGeneration unlockedSession.frame surface := by
  refine ⟨unlockedSession_reachable, sampleSurface, by decide, by decide, by decide, ?_⟩
  rintro ⟨commit, isLast, shows⟩
  have stale : (lastCommit (commits unlockedSession.sent) sampleSurface.lockSurface).map
      (fun commit => commit.frame.map (·.overlay)) = some (some (samplePixel 0)) := by decide
  have overlay := shows.overlay (by decide)
  rw [isLast, Option.map_some, overlay] at stale
  exact absurd stale (by decide)

end Genkan.SessionLock
