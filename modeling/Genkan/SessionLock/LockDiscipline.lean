import Genkan.SessionLock.Session
import Mathlib.Data.List.Nodup

/-! # The lock lifecycle over whole runs

Every call acts on the lock's part of the runtime as one of five operations: confirm, finish,
authorize, record a presentation failure, or commit surfaces and possibly fail.  `handle_lock` is
this simulation; the discipline of readiness and unlocking follows from the operations alone.
-/

namespace Genkan.SessionLock

open Foundations

/-! ## What a call does to the lock -/

namespace LockState

def confirm (lock : LockState) (outcome : Nat → WriteOutcome) : LockState :=
  match lockConfirmationAction lock.state (lock.failure.isSome || lock.terminate) with
  | (state, .reportReady) => { lock with state := state }.reportReady outcome
  | (state, _) => { lock with state := state }

def finish (lock : LockState) : LockState :=
  { lock with state := (lock.state.update .lockFinished).1 }.fail .lockFinished

def authorizeUnlock (lock : LockState) (roundtrip : Option String) : LockState :=
  match lock.state.authorizeUnlock with
  | (state, .unlockAndSynchronize) => { lock with state := state }.unlockAndSynchronize roundtrip
  | (state, _) => { lock with state := state }

def recordPresentationFailure (lock : LockState) (refresh : Refresh) : LockState :=
  if refresh = .failed then { lock with state := (lock.state.update .presentationFailed).1 } else lock

def quiet (lock : LockState) (commits : List Commit) (failure : Option Error) : LockState :=
  let lock := { lock with sent := commits.map .commit ++ lock.sent }
  match failure with
  | .none => lock
  | some error => lock.fail error

/-- The lock's part of `Runtime.handle`, given the surfaces it commits and how it fails. -/
def handle (lock : LockState) (commits : List Commit) (failure : Option Error) : Call → LockState
  | .locked environment => lock.confirm environment.ready
  | .finished => lock.finish
  | .pollPriority refresh _ authorized roundtrip =>
    let lock := lock.recordPresentationFailure refresh
    if authorized then lock.authorizeUnlock roundtrip else lock
  | .pollDeferred refresh _ => lock.recordPresentationFailure refresh
  | _ => lock.quiet commits failure

@[simp] theorem quiet_nil (lock : LockState) : lock.quiet [] .none = lock := rfl

theorem quiet_quiet (lock : LockState) (first second : List Commit) (failure : Option Error) :
    (lock.quiet first .none).quiet second failure = lock.quiet (second ++ first) failure := by
  simp [quiet]

@[simp] theorem quiet_fail (lock : LockState) (commits : List Commit) (error : Error) :
    (lock.quiet commits .none).fail error = lock.quiet commits (some error) := rfl

end LockState

namespace Runtime

@[simp] theorem mapSurfaces_lock (runtime : Runtime) (change : Surface → Surface) :
    (runtime.mapSurfaces change).toLockState = runtime.toLockState := rfl

@[simp] theorem modifySurface_lock (runtime : Runtime) (index : Nat) (change : Surface → Surface) :
    (runtime.modifySurface index change).toLockState = runtime.toLockState := rfl

@[simp] theorem setAuthentication_lock (runtime : Runtime) (index : Nat) (authentication : Bool) :
    (runtime.setAuthentication index authentication).toLockState = runtime.toLockState := rfl

@[simp] theorem fail_lock (runtime : Runtime) (error : Error) :
    (runtime.fail error).toLockState = runtime.toLockState.fail error := rfl

@[simp] theorem refreshAuthenticationOutput_lock (runtime : Runtime) :
    runtime.refreshAuthenticationOutput.toLockState = runtime.toLockState := by
  simp only [refreshAuthenticationOutput]
  split
  next => rfl
  next =>
    split
    next => rfl
    next =>
      split
      next => rfl
      next => split <;> rfl

@[simp] theorem expireAuthenticationRetirement_lock (runtime : Runtime) :
    runtime.expireAuthenticationRetirement.toLockState = runtime.toLockState := by
  simp only [expireAuthenticationRetirement]
  split
  next => rfl
  next =>
    split
    next => rfl
    next => rw [refreshAuthenticationOutput_lock]; rfl

theorem addSurface_lock (runtime : Runtime) (output : Nat) (name : Option String) :
    (runtime.addSurface output name).1.toLockState = runtime.toLockState := by
  simp only [addSurface]
  split
  next => rfl
  next =>
    split
    next => rfl
    next => simp

theorem addSurfaces_lock (runtime : Runtime) (outputs : List (Nat × Option String)) :
    (runtime.addSurfaces outputs).1.toLockState = runtime.toLockState := by
  induction outputs generalizing runtime with
  | nil => rfl
  | cons first rest inductionHypothesis =>
    have added := runtime.addSurface_lock first.1 first.2
    simp only [addSurfaces]
    split
    next added' error result => simpa [result] using added
    next added' result =>
      rw [inductionHypothesis]
      simpa [result] using added

@[simp] theorem renameOutput_lock (runtime : Runtime) (output : Nat) (name : Option String) :
    (runtime.renameOutput output name).toLockState = runtime.toLockState := by
  simp only [renameOutput]
  split <;> rfl

@[simp] theorem applyRefresh_lock (runtime : Runtime) (refresh : Refresh) :
    (runtime.applyRefresh refresh).toLockState = runtime.toLockState := by
  have media : (runtime.recordFullFrame.redrawMedia).toLockState = runtime.toLockState := by
    simp only [redrawMedia]
    split <;> rfl
  cases refresh with
  | unchanged => rfl
  | frame => exact media
  | failed => exact media
  | overlay =>
    simp only [applyRefresh, redrawOverlay, classifyOverlayRedraw]
    split <;> rfl

theorem redrawOverlay_lock (runtime : Runtime) :
    runtime.redrawOverlay.toLockState = runtime.toLockState :=
  runtime.applyRefresh_lock .overlay

theorem present_lock (runtime : Runtime) (index : Nat) (surface : Surface) (bufferIndex : Nat)
    (damaged : Region) (environment : RenderEnvironment) :
    ∃ commits, (runtime.present index surface bufferIndex damaged environment).1.toLockState =
      runtime.toLockState.quiet commits .none := by
  have requested : (if runtime.retiring surface then runtime.requestFeedback else runtime).toLockState
      = runtime.toLockState := by
    split <;> rfl
  simp only [present]
  split
  next => exact ⟨[], rfl⟩
  next =>
    split
    next => exact ⟨[], requested⟩
    next =>
      simp only [commitBuffer, requested]
      exact ⟨[commitRecord ..], rfl⟩
    next => exact ⟨[], requested⟩

theorem render_lock (runtime : Runtime) (index : Nat) (environment : RenderEnvironment) :
    ∃ commits, (runtime.render index environment).1.toLockState =
      runtime.toLockState.quiet commits .none := by
  simp only [render]
  split
  next => exact ⟨[], rfl⟩
  next =>
    split
    next => exact ⟨[], rfl⟩
    next =>
      split
      next => exact ⟨[], rfl⟩
      next =>
        split
        next => exact ⟨[], rfl⟩
        next =>
          split
          next => exact ⟨[], rfl⟩
          next => exact ⟨[], rfl⟩
          next => exact present_lock ..

theorem renderAll_lock (runtime : Runtime) (environment : Nat → RenderEnvironment)
    (indices : List Nat) :
    ∃ commits, (runtime.renderAll environment indices).1.toLockState =
      runtime.toLockState.quiet commits .none := by
  induction indices generalizing runtime with
  | nil => exact ⟨[], rfl⟩
  | cons index rest inductionHypothesis =>
    obtain ⟨commits, rendered⟩ := runtime.render_lock index (environment index)
    simp only [renderAll]
    split
    next next error result => exact ⟨commits, by simpa [result] using rendered⟩
    next next result =>
      obtain ⟨later, restRendered⟩ := inductionHypothesis next
      refine ⟨later ++ commits, ?_⟩
      rw [restRendered, ← LockState.quiet_quiet]
      simp only [result] at rendered
      rw [rendered]

theorem maintainSurfaces_lock (runtime : Runtime) (allowOverlayFull : Bool)
    (environment : Nat → RenderEnvironment) :
    ∃ commits, (runtime.maintainSurfaces allowOverlayFull environment).1.toLockState =
      runtime.toLockState.quiet commits .none := by
  simp only [maintainSurfaces]
  split
  next => exact ⟨[], rfl⟩
  next => exact renderAll_lock { runtime with surfaces := _ } environment _

theorem commitPartialOverlays_lock (runtime : Runtime) (environment : Nat → RenderEnvironment) :
    ∃ commits, (runtime.commitPartialOverlays environment).1.toLockState =
      runtime.toLockState.quiet commits .none := by
  simp only [commitPartialOverlays]
  split
  next => exact ⟨[], rfl⟩
  next surfaces progress surveyed =>
    obtain ⟨commits, rendered⟩ := renderAll_lock { runtime with surfaces := surfaces } environment
      (indicesWhere progress (· == .partialUpdate))
    split
    next result => exact ⟨commits, by simpa [result] using rendered⟩
    next result => exact ⟨commits, by simpa [result] using rendered⟩

theorem orFail_lock {α : Type} {runtime : Runtime} {result : Runtime × Except Error α}
    (acts : ∃ commits, result.1.toLockState = runtime.toLockState.quiet commits .none) :
    ∃ commits failure, (orFail result).toLockState = runtime.toLockState.quiet commits failure := by
  obtain ⟨commits, acts⟩ := acts
  obtain ⟨after, outcome⟩ := result
  cases outcome with
  | ok => exact ⟨commits, .none, acts⟩
  | error error => exact ⟨commits, some error, by simp_all [orFail]⟩

theorem locked_lock (runtime : Runtime) (environment : ApplyEnvironment) :
    (runtime.locked environment).toLockState = runtime.toLockState.confirm environment.ready := by
  rcases lockConfirmationAction_cases runtime.state (runtime.failure.isSome || runtime.terminate) with
    ⟨_, decided⟩ | ⟨_, decided⟩
  · simp only [locked, LockState.confirm, decided, apply]
    split <;> rfl
  · simp only [locked, LockState.confirm, decided, apply]

theorem authorizeUnlock_lock (runtime : Runtime) (roundtrip : Option String) :
    (runtime.authorizeUnlock roundtrip).toLockState =
      runtime.toLockState.authorizeUnlock roundtrip := by
  rcases runtime.state.authorizeUnlock_cases with ⟨_, decided⟩ | ⟨_, decided⟩ <;>
    simp only [authorizeUnlock, LockState.authorizeUnlock, decided, apply]

theorem finished_lock (runtime : Runtime) :
    runtime.finished.toLockState = runtime.toLockState.finish := by
  simp only [finished, State.update_lockFinished_action, apply]
  rfl

theorem recordPresentationFailure_lock (runtime : Runtime) (refresh : Refresh) :
    (runtime.recordPresentationFailure refresh).toLockState =
      runtime.toLockState.recordPresentationFailure refresh := by
  simp only [recordPresentationFailure, LockState.recordPresentationFailure]
  split <;> rfl

theorem pollPriority_lock (runtime : Runtime) (refresh : Refresh)
    (frame : Option PresentationFrame) (authorized : Bool) (roundtrip : Option String) :
    (runtime.pollPriority refresh frame authorized roundtrip).toLockState =
      runtime.toLockState.handle [] .none (.pollPriority refresh frame authorized roundtrip) := by
  have recorded := recordPresentationFailure_lock { runtime with frame := frame } refresh
  cases authorized with
  | false =>
    simp only [pollPriority, LockState.handle, Bool.false_eq_true, if_false]
    split
    next => exact recorded
    next => rw [applyRefresh_lock, recorded]
  | true =>
    have unlocked := authorizeUnlock_lock
      ({ runtime with frame := frame }.recordPresentationFailure refresh) roundtrip
    rw [recorded] at unlocked
    simp only [pollPriority, LockState.handle, if_true]
    split
    next => exact unlocked
    next => rw [applyRefresh_lock, unlocked]

/-- The simulation: the lock's part of the next state is a function of the lock's part of this
one, of the call, and of what the call committed and how it failed. -/
theorem handle_lock (runtime : Runtime) (call : Call) :
    ∃ commits failure,
      (runtime.handle call).toLockState = runtime.toLockState.handle commits failure call := by
  have unaffected : ∀ {next : Runtime}, next.toLockState = runtime.toLockState →
      ∃ commits failure, next.toLockState = runtime.toLockState.quiet commits failure :=
    fun same => ⟨[], .none, same⟩
  cases call with
  | locked environment => exact ⟨[], .none, locked_lock runtime environment⟩
  | finished => exact ⟨[], .none, finished_lock runtime⟩
  | dispatchFailed message => exact ⟨[], some _, rfl⟩
  | keyboardFailed message => exact ⟨[], some _, rfl⟩
  | configure lockSurface size =>
    simp only [handle, configure]
    split
    next => exact ⟨[], some _, rfl⟩
    next => exact unaffected (by simp)
  | scaleFactorChanged lockSurface scale =>
    apply unaffected
    simp only [handle, scaleFactorChanged]
    split <;> rfl
  | frameCallback lockSurface =>
    apply unaffected
    simp only [handle, frameCallback]
    split
    next => rfl
    next => split <;> rfl
  | newOutput output name =>
    simp only [handle, newOutput]
    split
    next =>
      split
      next => exact unaffected (by simp)
      next => exact orFail_lock ⟨[], addSurface_lock runtime output name⟩
    next => exact unaffected rfl
  | updateOutput output name => exact unaffected (by simp [handle, updateOutput])
  | outputDestroyed output =>
    apply unaffected
    simp only [handle, outputDestroyed, refreshAuthenticationOutput_lock]
    split <;> rfl
  | presented feedback =>
    apply unaffected
    simp only [handle, presented]
    split
    next => rfl
    next => rw [refreshAuthenticationOutput_lock]; rfl
  | discarded feedback lockSurface =>
    apply unaffected
    simp only [handle, discarded]
    split
    next => rfl
    next => split <;> rfl
  | key event changed frame =>
    apply unaffected
    simp only [handle, handleKey]
    split
    next => rfl
    next =>
      split
      next => rw [redrawOverlay_lock]
      next => rfl
  | releaseBuffer lockSurface bufferIndex =>
    apply unaffected
    simp only [handle, releaseBuffer]
    split <;> rfl
  | advance elapsed => exact unaffected rfl
  | reconcileOutputs outputs =>
    apply orFail_lock
    simp only [reconcileOutputs]
    split
    next => exact ⟨[], rfl⟩
    next => exact ⟨[], addSurfaces_lock runtime outputs⟩
  | expireAuthenticationRetirement => exact unaffected (by simp [handle])
  | pollPriority refresh frame authorized roundtrip =>
    exact ⟨[], .none, pollPriority_lock runtime refresh frame authorized roundtrip⟩
  | commitPartialOverlays environment =>
    exact orFail_lock (commitPartialOverlays_lock runtime environment)
  | pollDeferred refresh frame =>
    refine ⟨[], .none, ?_⟩
    simp only [handle, pollDeferred, applyRefresh_lock]
    exact recordPresentationFailure_lock { runtime with frame := frame } refresh
  | maintainSurfaces allowOverlayFull environment =>
    exact orFail_lock (maintainSurfaces_lock runtime allowOverlayFull environment)

end Runtime

/-! ## The discipline of one step -/

/-- The descriptors that READY was written to. -/
def reported (sent : List Request) : List Nat :=
  sent.filterMap fun
    | .writeReady descriptor => some descriptor
    | _ => .none

/-- The requests that concern the lock, without the surface commits. -/
def lockRequests (sent : List Request) : List Request :=
  sent.filter fun
    | .commit _ => false
    | _ => true

@[simp] theorem reported_commits (commits : List Commit) (sent : List Request) :
    reported (commits.map .commit ++ sent) = reported sent := by
  induction commits with
  | nil => rfl
  | cons commit commits inductionHypothesis => exact inductionHypothesis

@[simp] theorem lockRequests_commits (commits : List Commit) (sent : List Request) :
    lockRequests (commits.map .commit ++ sent) = lockRequests sent := by
  induction commits with
  | nil => rfl
  | cons commit commits inductionHypothesis => exact inductionHypothesis

theorem count_lockRequests {request : Request} (isLock : ∀ commit, request ≠ .commit commit)
    (sent : List Request) : (lockRequests sent).count request = sent.count request := by
  apply List.count_filter
  cases request with
  | commit commit => exact absurd rfl (isLock commit)
  | writeReady => rfl
  | unlock => rfl

theorem count_reported (sent : List Request) (descriptor : Nat) :
    (reported sent).count descriptor = sent.count (.writeReady descriptor) := by
  induction sent with
  | nil => rfl
  | cons request sent inductionHypothesis =>
    cases request <;> simp_all [reported, List.count_cons]

structure LockState.Disciplined (lock : LockState) : Prop where
  failed : lock.failure.isSome = true → lock.terminate = true ∧ lock.state.lifecycle = .aborted
  terminated : lock.terminate = true →
    lock.state.lifecycle = .aborted ∨ lock.state.lifecycle = .unlocking
  unlocked : lock.sent.count .unlock = if lock.sessionLock then 0 else 1
  descriptors : (lock.ready ++ reported lock.sent).Nodup
  given : lock.sessionLock = false → lock.terminate = true

namespace LockState

theorem Disciplined.active {lock : LockState} (disciplined : lock.Disciplined)
    (lifecycle : lock.state.lifecycle = .requesting ∨ lock.state.lifecycle = .locked) :
    lock.failure = .none ∧ lock.terminate = false := by
  have running : lock.terminate = false := by
    by_contra terminated
    rcases disciplined.terminated (by simpa using terminated) with isAborted | isUnlocking <;>
      rcases lifecycle with isRequesting | isLocked <;> simp_all
  refine ⟨?_, running⟩
  by_contra failed
  have terminated := (disciplined.failed (Option.isSome_iff_ne_none.mpr failed)).1
  simp [running] at terminated

/-- The written descriptors are a prefix of the ready ones. -/
theorem writeReady_spec (outcome : Nat → WriteOutcome) (ready : List Nat) (sent : List Request) :
    ∃ written, written <+: ready ∧
      (writeReady outcome ready sent).1 = (written.map .writeReady).reverse ++ sent := by
  induction ready generalizing sent with
  | nil => exact ⟨[], List.prefix_rfl, rfl⟩
  | cons descriptor rest inductionHypothesis =>
    simp only [writeReady]
    split
    next =>
      obtain ⟨written, isPrefix, sends⟩ := inductionHypothesis (.writeReady descriptor :: sent)
      exact ⟨descriptor :: written, (List.prefix_cons_inj descriptor).mpr isPrefix, by simp [sends]⟩
    next => exact ⟨[descriptor], by simp, rfl⟩
    next => exact ⟨[descriptor], by simp, rfl⟩

@[simp] theorem reported_written (written : List Nat) (sent : List Request) :
    reported ((written.map .writeReady).reverse ++ sent) = written.reverse ++ reported sent := by
  simp [reported, List.filterMap_append, List.filterMap_reverse]

/-- Moves the lifecycle and nothing else. -/
def enter (lock : LockState) (lifecycle : Lifecycle) : LockState :=
  { lock with state := { lock.state with lifecycle := lifecycle } }

/-- What reporting READY to these descriptors does before it can fail. -/
def announce (lock : LockState) (written : List Nat) : LockState :=
  { lock with ready := [], sent := (written.map .writeReady).reverse ++ lock.sent }

/-- What giving the lock up does before it can fail. -/
def release (lock : LockState) : LockState :=
  { lock with sessionLock := false, sent := .unlock :: lock.sent, terminate := true }

theorem reportReady_cases (lock : LockState) (outcome : Nat → WriteOutcome) :
    ∃ written, written <+: lock.ready ∧
      (lock.reportReady outcome = lock.announce written ∨
        ∃ error, lock.reportReady outcome = (lock.announce written).fail error) := by
  obtain ⟨written, isPrefix, sends⟩ := writeReady_spec outcome lock.ready lock.sent
  refine ⟨written, isPrefix, ?_⟩
  simp only [reportReady, announce]
  split
  next sent result => exact .inl (by simp only [← sends, result])
  next sent message result => exact .inr ⟨_, by simp only [← sends, result]; rfl⟩

theorem confirm_cases (lock : LockState) (outcome : Nat → WriteOutcome) :
    (lock.state.lifecycle = .requesting ∧ lock.failure = .none ∧ lock.terminate = false ∧
      lock.confirm outcome = (lock.enter .locked).reportReady outcome) ∨
    lock.confirm outcome = lock := by
  rcases lockConfirmationAction_cases lock.state (lock.failure.isSome || lock.terminate) with
    ⟨⟨clear, requesting⟩, decided⟩ | ⟨_, decided⟩
  · simp only [Bool.or_eq_false_iff, Option.isSome_eq_false_iff, Option.isNone_iff_eq_none] at clear
    exact .inl ⟨requesting, clear.1, clear.2, by simp only [confirm, decided, enter]⟩
  · exact .inr (by simp only [confirm, decided])

theorem unlockAndSynchronize_cases (lock : LockState) (roundtrip : Option String) :
    (lock.sessionLock = false ∧
      lock.unlockAndSynchronize roundtrip = { lock with terminate := true }) ∨
    (lock.sessionLock = true ∧
      (lock.unlockAndSynchronize roundtrip = lock.release ∨
        ∃ error, lock.unlockAndSynchronize roundtrip = lock.release.fail error)) := by
  cases held : lock.sessionLock with
  | false => exact .inl ⟨rfl, by simp [unlockAndSynchronize, held]⟩
  | true =>
    refine .inr ⟨rfl, ?_⟩
    simp only [unlockAndSynchronize, held, if_true]
    cases roundtrip with
    | none => exact .inl rfl
    | some message => exact .inr ⟨_, rfl⟩

theorem authorizeUnlock_cases (lock : LockState) (roundtrip : Option String) :
    (lock.state.lifecycle = .locked ∧
      lock.authorizeUnlock roundtrip = (lock.enter .unlocking).unlockAndSynchronize roundtrip) ∨
    lock.authorizeUnlock roundtrip = lock := by
  rcases lock.state.authorizeUnlock_cases with ⟨locked, decided⟩ | ⟨_, decided⟩
  · exact .inl ⟨locked, by simp only [authorizeUnlock, decided, enter]⟩
  · exact .inr (by simp only [authorizeUnlock, decided])

/-! Each operation keeps the discipline. -/

theorem Disciplined.fail {lock : LockState} (disciplined : lock.Disciplined) (error : Error) :
    (lock.fail error).Disciplined where
  failed _ := ⟨rfl, rfl⟩
  terminated _ := .inl rfl
  unlocked := disciplined.unlocked
  descriptors := disciplined.descriptors
  given _ := rfl

theorem Disciplined.quiet {lock : LockState} (disciplined : lock.Disciplined)
    (commits : List Commit) (failure : Option Error) : (lock.quiet commits failure).Disciplined := by
  have committed : (lock.quiet commits .none).Disciplined := {
    failed := disciplined.failed
    terminated := disciplined.terminated
    unlocked := by
      have kept := congrArg (List.count .unlock) (lockRequests_commits commits lock.sent)
      rw [count_lockRequests (by simp), count_lockRequests (by simp)] at kept
      exact kept.trans disciplined.unlocked
    descriptors := by simpa [LockState.quiet] using disciplined.descriptors
    given := disciplined.given }
  cases failure with
  | none => exact committed
  | some error => exact committed.fail error

theorem Disciplined.recordPresentationFailure {lock : LockState} (disciplined : lock.Disciplined)
    (refresh : Refresh) : (lock.recordPresentationFailure refresh).Disciplined := by
  simp only [LockState.recordPresentationFailure]
  split
  next =>
    exact ⟨disciplined.failed, disciplined.terminated, disciplined.unlocked, disciplined.descriptors,
      disciplined.given⟩
  next => exact disciplined

theorem Disciplined.announce {lock : LockState} (disciplined : lock.Disciplined) {written : List Nat}
    (isPrefix : written <+: lock.ready) : (lock.announce written).Disciplined where
  failed := disciplined.failed
  terminated := disciplined.terminated
  unlocked := by
    have none : (written.map Request.writeReady).count .unlock = 0 := List.count_eq_zero.mpr (by simp)
    simp only [LockState.announce, List.count_append, List.count_reverse, none, Nat.zero_add]
    exact disciplined.unlocked
  descriptors := by
    have distinct : (written ++ reported lock.sent).Nodup :=
      disciplined.descriptors.sublist (isPrefix.sublist.append_right _)
    simpa [LockState.announce, List.nodup_append, List.nodup_reverse] using distinct
  given := disciplined.given

theorem Disciplined.confirm {lock : LockState} (disciplined : lock.Disciplined)
    (outcome : Nat → WriteOutcome) : (lock.confirm outcome).Disciplined := by
  rcases lock.confirm_cases outcome with ⟨_, noFailure, running, confirmed⟩ | same
  · have entered : (lock.enter .locked).Disciplined := {
      failed := by simp [enter, noFailure]
      terminated := by simp [enter, running]
      unlocked := disciplined.unlocked
      descriptors := disciplined.descriptors
      given := disciplined.given }
    obtain ⟨written, isPrefix, succeeds | ⟨error, fails⟩⟩ :=
      reportReady_cases (lock.enter .locked) outcome
    · rw [confirmed, succeeds]
      exact entered.announce isPrefix
    · rw [confirmed, fails]
      exact (entered.announce isPrefix).fail error
  · rw [same]
    exact disciplined

theorem Disciplined.release {lock : LockState} (disciplined : lock.Disciplined)
    (lifecycle : lock.state.lifecycle = .locked) (held : lock.sessionLock = true) :
    (lock.enter .unlocking).release.Disciplined where
  failed failed := by simp [enter, LockState.release, (disciplined.active (.inr lifecycle)).1] at failed
  terminated _ := .inr rfl
  unlocked := by simpa [LockState.release, enter, held] using disciplined.unlocked
  descriptors := disciplined.descriptors
  given _ := rfl

theorem Disciplined.authorizeUnlock {lock : LockState} (disciplined : lock.Disciplined)
    (roundtrip : Option String) : (lock.authorizeUnlock roundtrip).Disciplined := by
  rcases lock.authorizeUnlock_cases roundtrip with ⟨locked, authorized⟩ | same
  · rw [authorized]
    rcases (lock.enter .unlocking).unlockAndSynchronize_cases roundtrip with
      ⟨_, gone⟩ | ⟨held, succeeds | ⟨error, fails⟩⟩
    · rw [gone]
      exact {
        failed := by simp [enter, (disciplined.active (.inr locked)).1]
        terminated := fun _ => .inr rfl
        unlocked := disciplined.unlocked
        descriptors := disciplined.descriptors
        given := fun _ => rfl }
    · rw [succeeds]
      exact disciplined.release locked held
    · rw [fails]
      exact (disciplined.release locked held).fail error
  · rw [same]
    exact disciplined

theorem Disciplined.handle {lock : LockState} (disciplined : lock.Disciplined)
    (commits : List Commit) (failure : Option Error) (call : Call) :
    (lock.handle commits failure call).Disciplined := by
  cases call with
  | locked environment => exact disciplined.confirm environment.ready
  | finished =>
    exact ⟨fun _ => ⟨rfl, rfl⟩, fun _ => .inl rfl, disciplined.unlocked, disciplined.descriptors,
      fun _ => rfl⟩
  | pollPriority refresh frame authorized roundtrip =>
    have recorded := disciplined.recordPresentationFailure refresh
    cases authorized with
    | false => exact recorded
    | true => exact recorded.authorizeUnlock roundtrip
  | pollDeferred refresh frame => exact disciplined.recordPresentationFailure refresh
  | _ => exact disciplined.quiet commits failure

/-! What an operation sends, where the lifecycle can go, and what it cannot undo. -/

@[simp] theorem fail_sent (lock : LockState) (error : Error) : (lock.fail error).sent = lock.sent := rfl

@[simp] theorem fail_lifecycle (lock : LockState) (error : Error) :
    (lock.fail error).state.lifecycle = .aborted := rfl

theorem quiet_requests (lock : LockState) (commits : List Commit) (failure : Option Error) :
    lockRequests (lock.quiet commits failure).sent = lockRequests lock.sent := by
  cases failure <;> simp [quiet]

@[simp] theorem recordPresentationFailure_sent (lock : LockState) (refresh : Refresh) :
    (lock.recordPresentationFailure refresh).sent = lock.sent := by
  simp only [recordPresentationFailure]
  split <;> rfl

@[simp] theorem recordPresentationFailure_lifecycle (lock : LockState) (refresh : Refresh) :
    (lock.recordPresentationFailure refresh).state.lifecycle = lock.state.lifecycle := by
  simp only [recordPresentationFailure]
  split <;> rfl

@[simp] theorem recordPresentationFailure_failure (lock : LockState) (refresh : Refresh) :
    (lock.recordPresentationFailure refresh).failure = lock.failure := by
  simp only [recordPresentationFailure]
  split <;> rfl

@[simp] theorem recordPresentationFailure_terminate (lock : LockState) (refresh : Refresh) :
    (lock.recordPresentationFailure refresh).terminate = lock.terminate := by
  simp only [recordPresentationFailure]
  split <;> rfl

theorem lockRequests_written (written : List Nat) (sent : List Request) :
    lockRequests ((written.map .writeReady).reverse ++ sent) =
      (written.map .writeReady).reverse ++ lockRequests sent := by
  simp only [lockRequests, List.filter_append, List.append_cancel_right_eq, List.filter_eq_self]
  intro request isWritten
  obtain ⟨descriptor, _, rfl⟩ := List.mem_map.mp (List.mem_reverse.mp isWritten)
  rfl

theorem confirm_requests (lock : LockState) (outcome : Nat → WriteOutcome) :
    lockRequests (lock.confirm outcome).sent = lockRequests lock.sent ∨
    (lock.state.lifecycle = .requesting ∧ lock.failure = .none ∧ lock.terminate = false ∧
      ∃ written : List Nat, lockRequests (lock.confirm outcome).sent =
        (written.map .writeReady).reverse ++ lockRequests lock.sent) := by
  rcases lock.confirm_cases outcome with ⟨requesting, noFailure, running, confirmed⟩ | same
  · obtain ⟨written, _, reports⟩ := reportReady_cases (lock.enter .locked) outcome
    have sends : (lock.confirm outcome).sent = (written.map .writeReady).reverse ++ lock.sent := by
      rcases reports with succeeds | ⟨error, fails⟩
      · rw [confirmed, succeeds]; rfl
      · rw [confirmed, fails]; rfl
    exact .inr ⟨requesting, noFailure, running, written, by rw [sends, lockRequests_written]⟩
  · exact .inl (by rw [same])

theorem authorizeUnlock_requests (lock : LockState) (roundtrip : Option String) :
    lockRequests (lock.authorizeUnlock roundtrip).sent = lockRequests lock.sent ∨
    (lock.state.lifecycle = .locked ∧
      lockRequests (lock.authorizeUnlock roundtrip).sent = .unlock :: lockRequests lock.sent) := by
  rcases lock.authorizeUnlock_cases roundtrip with ⟨locked, authorized⟩ | same
  · rcases (lock.enter .unlocking).unlockAndSynchronize_cases roundtrip with
      ⟨_, gone⟩ | ⟨_, succeeds | ⟨error, fails⟩⟩
    · exact .inl (by rw [authorized, gone]; rfl)
    · exact .inr ⟨locked, by rw [authorized, succeeds]; rfl⟩
    · exact .inr ⟨locked, by rw [authorized, fails]; rfl⟩
  · exact .inl (by rw [same])

/-- The inversion of a step: READY is written by a confirmation of a requested lock and unlocking
is requested by an authorization in the locked state; nothing else concerns the lock. -/
theorem handle_requests (lock : LockState) (commits : List Commit) (failure : Option Error)
    (call : Call) :
    lockRequests (lock.handle commits failure call).sent = lockRequests lock.sent ∨
    ((∃ environment, call = .locked environment) ∧ lock.state.lifecycle = .requesting ∧
      lock.failure = .none ∧ lock.terminate = false ∧
      ∃ written : List Nat, lockRequests (lock.handle commits failure call).sent =
        (written.map .writeReady).reverse ++ lockRequests lock.sent) ∨
    ((∃ refresh frame roundtrip, call = .pollPriority refresh frame true roundtrip) ∧
      lock.state.lifecycle = .locked ∧
      lockRequests (lock.handle commits failure call).sent = .unlock :: lockRequests lock.sent) := by
  cases call with
  | locked environment =>
    rcases lock.confirm_requests environment.ready with same | ⟨requesting, noFailure, running, writes⟩
    · exact .inl same
    · exact .inr (.inl ⟨⟨environment, rfl⟩, requesting, noFailure, running, writes⟩)
  | finished => exact .inl rfl
  | pollPriority refresh frame authorized roundtrip =>
    cases authorized with
    | false => exact .inl (by simp [handle])
    | true =>
      rcases (lock.recordPresentationFailure refresh).authorizeUnlock_requests roundtrip with
        same | ⟨locked, sends⟩
      · exact .inl (by simpa [handle] using same)
      · exact .inr (.inr ⟨⟨refresh, frame, roundtrip, rfl⟩, by simpa using locked,
          by simpa [handle] using sends⟩)
  | pollDeferred refresh frame => exact .inl (by simp [handle])
  | _ => exact .inl (lock.quiet_requests commits failure)

theorem authorizeUnlock_lifecycle (lock : LockState) (roundtrip : Option String)
    (becomes : (lock.authorizeUnlock roundtrip).state.lifecycle = .locked) :
    lock.state.lifecycle = .locked := by
  rcases lock.authorizeUnlock_cases roundtrip with ⟨locked, _⟩ | same
  · exact locked
  · rwa [same] at becomes

/-- The locked state is entered by a confirmation only. -/
theorem handle_lifecycle (lock : LockState) (commits : List Commit) (failure : Option Error)
    (call : Call) (becomes : (lock.handle commits failure call).state.lifecycle = .locked) :
    lock.state.lifecycle = .locked ∨
    ((∃ environment, call = .locked environment) ∧ lock.state.lifecycle = .requesting) := by
  cases call with
  | locked environment =>
    rcases lock.confirm_cases environment.ready with ⟨requesting, _⟩ | same
    · exact .inr ⟨⟨environment, rfl⟩, requesting⟩
    · rw [handle, same] at becomes
      exact .inl becomes
  | finished => simp [handle, finish] at becomes
  | pollPriority refresh frame authorized roundtrip =>
    cases authorized with
    | false => exact .inl (by simpa [handle] using becomes)
    | true => exact .inl (by simpa using authorizeUnlock_lifecycle _ _ becomes)
  | pollDeferred refresh frame => exact .inl (by simpa [handle] using becomes)
  | _ =>
    cases failure with
    | none => exact .inl becomes
    | some error => simp [handle, quiet] at becomes

theorem authorizeUnlock_recorded_lifecycle (lock : LockState) (refresh : Refresh)
    (roundtrip : Option String) :
    ((lock.recordPresentationFailure refresh).authorizeUnlock roundtrip).state.lifecycle =
      (lock.authorizeUnlock roundtrip).state.lifecycle := by
  simp only [recordPresentationFailure]
  split
  next =>
    by_cases locked : lock.state.lifecycle = .locked
    · simp only [authorizeUnlock, State.authorizeUnlock, State.update_presentationFailed, locked,
        unlockAndSynchronize, ne_eq, not_true_eq_false, if_false]
      split <;> cases roundtrip <;> rfl
    · simp [authorizeUnlock, State.authorizeUnlock, locked]
  next => rfl

/-- A presentation failure leaves the lifecycle alone, whatever else the turn of the loop does. -/
theorem pollPriority_lifecycle (lock : LockState) (commits : List Commit) (failure : Option Error)
    (refresh : Refresh) (frame : Option PresentationFrame) (authorized : Bool)
    (roundtrip : Option String) :
    (lock.handle commits failure
        (.pollPriority refresh frame authorized roundtrip)).state.lifecycle =
      if authorized then (lock.authorizeUnlock roundtrip).state.lifecycle
      else lock.state.lifecycle := by
  cases authorized with
  | false => exact lock.recordPresentationFailure_lifecycle refresh
  | true => exact lock.authorizeUnlock_recorded_lifecycle refresh roundtrip

def Ended (lock : LockState) : Prop := lock.failure.isSome = true ∨ lock.terminate = true

theorem fail_ended (lock : LockState) (error : Error) : (lock.fail error).Ended := .inr rfl

/-- Nothing takes a failure or the termination back. -/
theorem Ended.handle {lock : LockState} (ended : lock.Ended) (commits : List Commit)
    (failure : Option Error) (call : Call) : (lock.handle commits failure call).Ended := by
  have recorded : ∀ refresh, (lock.recordPresentationFailure refresh).Ended := by
    intro refresh
    simpa [Ended] using ended
  cases call with
  | locked environment =>
    rcases lock.confirm_cases environment.ready with ⟨_, noFailure, running, _⟩ | same
    · simp [Ended, noFailure, running] at ended
    · rwa [LockState.handle, same]
  | finished => exact fail_ended _ _
  | pollPriority refresh frame authorized roundtrip =>
    cases authorized with
    | false => exact recorded refresh
    | true =>
      rcases (lock.recordPresentationFailure refresh).authorizeUnlock_cases roundtrip with
        ⟨_, authorized⟩ | same
      · rcases unlockAndSynchronize_cases
          ((lock.recordPresentationFailure refresh).enter .unlocking) roundtrip with
          ⟨_, gone⟩ | ⟨_, succeeds | ⟨error, fails⟩⟩
        · exact .inr (by simp [LockState.handle, authorized, gone])
        · exact .inr (by simp [LockState.handle, authorized, succeeds, release])
        · exact .inr (by simp [LockState.handle, authorized, fails, LockState.fail])
      · simpa only [LockState.handle, if_true, same] using recorded refresh
  | pollDeferred refresh frame => exact recorded refresh
  | _ =>
    cases failure with
    | none => exact ended
    | some error => exact fail_ended _ _

theorem handle_finished_ended (lock : LockState) (commits : List Commit) (failure : Option Error) :
    (lock.handle commits failure .finished).Ended := fail_ended _ _

end LockState

theorem Initial.disciplined {runtime : Runtime} (initial : Initial runtime) :
    runtime.toLockState.Disciplined where
  failed := by simp [initial.failure]
  terminated := by simp [initial.terminate]
  unlocked := by simp [initial.sent, initial.sessionLock]
  descriptors := by simpa [initial.sent, reported] using initial.ready
  given := by simp [initial.sessionLock]

theorem Runtime.handle_disciplined (runtime : Runtime) (disciplined : runtime.toLockState.Disciplined)
    (call : Call) : (runtime.handle call).toLockState.Disciplined := by
  obtain ⟨commits, failure, simulated⟩ := runtime.handle_lock call
  rw [simulated]
  exact disciplined.handle commits failure call

/-! ## The discipline of whole runs -/

section Runs

variable (run : callbacks.Run)

theorem run_step (index : Nat) (bound : index < run.length) :
    ∃ commits failure, (run.state (index + 1)).toLockState =
      (run.state index).toLockState.handle commits failure (run.label index) := by
  rw [run.steps index bound]
  exact Runtime.handle_lock _ _

theorem run_disciplined (index : Nat) (bound : index ≤ run.length) :
    (run.state index).toLockState.Disciplined := by
  refine run.invariant (fun runtime => runtime.toLockState.Disciplined) ?_ ?_ index bound
  · exact fun runtime initial => initial.disciplined
  · intro runtime call next disciplined steps
    rw [steps]
    exact runtime.handle_disciplined disciplined call

theorem run_ended {first last : Nat} (order : first ≤ last) (bound : last ≤ run.length)
    (ended : (run.state first).toLockState.Ended) : (run.state last).toLockState.Ended := by
  refine run.stable (fun runtime => runtime.toLockState.Ended) ?_ order bound ended
  intro runtime call next ended steps
  obtain ⟨commits, failure, simulated⟩ := runtime.handle_lock call
  rw [steps, simulated]
  exact ended.handle commits failure call

/-- Up to this moment nothing failed, terminated or was finished by the compositor. -/
def Undisturbed (index : Nat) : Prop :=
  ∀ earlier, earlier ≤ index →
    (run.state earlier).failure = .none ∧ (run.state earlier).terminate = false ∧
    (earlier < index → run.label earlier ≠ .finished)

theorem undisturbed_of_running {index : Nat} (bound : index ≤ run.length)
    (running : (run.state index).failure = .none ∧ (run.state index).terminate = false) :
    Undisturbed run index := by
  have notEnded : ¬ (run.state index).toLockState.Ended := by
    simp [LockState.Ended, running.1, running.2]
  intro earlier order
  have before : ¬ (run.state earlier).toLockState.Ended :=
    fun ended => notEnded (run_ended run order bound ended)
  simp only [LockState.Ended, not_or, Bool.not_eq_true, Option.isSome_eq_false_iff,
    Option.isNone_iff_eq_none] at before
  refine ⟨before.1, before.2, ?_⟩
  intro strict isFinished
  obtain ⟨commits, failure, simulated⟩ := run_step run earlier (by omega)
  rw [isFinished] at simulated
  apply notEnded
  have ended : (run.state (earlier + 1)).toLockState.Ended := by
    rw [simulated]
    exact LockState.handle_finished_ended _ _ _
  exact run_ended run strict bound ended

/-- The step processes a confirmation while the lock is requested and nothing went wrong. -/
def Confirms (index : Nat) : Prop :=
  (∃ environment, run.label index = .locked environment) ∧
    (run.state index).state.lifecycle = .requesting ∧ Undisturbed run index

/-- The step sends the request once more. -/
def Sends (index : Nat) (request : Request) : Prop :=
  (run.state index).sent.count request < (run.state (index + 1)).sent.count request

theorem Sends.requests {run : callbacks.Run} {index : Nat} {request : Request}
    (sends : Sends run index request) (isLock : ∀ commit, request ≠ .commit commit) :
    (lockRequests (run.state index).sent).count request <
      (lockRequests (run.state (index + 1)).sent).count request := by
  rwa [count_lockRequests isLock, count_lockRequests isLock]

theorem confirms_of_locked {index : Nat} (bound : index ≤ run.length)
    (locked : (run.state index).state.lifecycle = .locked) :
    ∃ confirmation < index, Confirms run confirmation := by
  obtain ⟨entry, before, outside, inside⟩ := run.entered
    (fun runtime => runtime.state.lifecycle = .locked) bound (by simp [run.starts.lifecycle]) locked
  have entered := inside (entry + 1) (by omega) (by omega)
  obtain ⟨commits, failure, simulated⟩ := run_step run entry (by omega)
  rw [simulated] at entered
  rcases LockState.handle_lifecycle _ _ _ _ entered with already | ⟨isLocked, requesting⟩
  · exact absurd already outside
  · have running := (run_disciplined run entry (by omega)).active (.inl requesting)
    exact ⟨entry, before, isLocked, requesting, undisturbed_of_running run (by omega) running⟩

theorem sends_unlock {index : Nat} (bound : index < run.length) (sends : Sends run index .unlock) :
    (∃ refresh frame roundtrip, run.label index = .pollPriority refresh frame true roundtrip) ∧
      (run.state index).state.lifecycle = .locked ∧ Undisturbed run index ∧
      ∃ confirmation < index, Confirms run confirmation := by
  obtain ⟨commits, failure, simulated⟩ := run_step run index bound
  have sends := simulated ▸ sends.requests (by simp)
  rcases LockState.handle_requests (run.state index).toLockState commits failure (run.label index) with
    same | ⟨_, _, _, _, written, same⟩ | ⟨authorizes, locked, _⟩
  · simp [same] at sends
  · have none : (written.map Request.writeReady).count .unlock = 0 :=
      List.count_eq_zero.mpr (by simp)
    simp [same, none] at sends
  · have running := (run_disciplined run index (by omega)).active (.inr locked)
    exact ⟨authorizes, locked, undisturbed_of_running run (by omega) running,
      confirms_of_locked run (by omega) locked⟩

theorem sends_ready {index : Nat} (bound : index < run.length) {descriptor : Nat}
    (sends : Sends run index (.writeReady descriptor)) : Confirms run index := by
  obtain ⟨commits, failure, simulated⟩ := run_step run index bound
  have sends := simulated ▸ sends.requests (by simp)
  rcases LockState.handle_requests (run.state index).toLockState commits failure (run.label index) with
    same | ⟨isLocked, requesting, noFailure, running, _⟩ | ⟨_, _, same⟩
  · simp [same] at sends
  · exact ⟨isLocked, requesting, undisturbed_of_running run (by omega) ⟨noFailure, running⟩⟩
  · simp [same] at sends

theorem requests_after_ended {first last : Nat} (order : first ≤ last) (bound : last ≤ run.length)
    (ended : (run.state first).toLockState.Ended) :
    lockRequests (run.state last).sent = lockRequests (run.state first).sent := by
  refine (run.stays (fun runtime => runtime.toLockState.Ended ∧
    lockRequests runtime.sent = lockRequests (run.state first).sent) order bound ?_ ⟨ended, rfl⟩).2
  rintro index _ before ⟨ended, same⟩
  have disciplined := run_disciplined run index (by omega)
  obtain ⟨commits, failure, simulated⟩ := run_step run index (by omega)
  refine ⟨simulated ▸ ended.handle _ _ _, ?_⟩
  rw [simulated]
  rcases LockState.handle_requests (run.state index).toLockState commits failure (run.label index) with
    unchanged | ⟨_, _, noFailure, running, _⟩ | ⟨_, locked, _⟩
  · rw [unchanged, same]
  · simp [LockState.Ended, noFailure, running] at ended
  · simp [LockState.Ended, disciplined.active (.inr locked)] at ended

/-- Readiness and unlocking over every run of the callbacks: unlocking is requested at most once,
by an authorization in the locked state that an undisturbed confirmation entered; READY is written
at most once to each descriptor, while an undisturbed confirmation is processed; after a failure or
the termination neither is sent; and a presentation failure never moves the lifecycle. -/
theorem lock_lifecycle :
    (∀ index, index ≤ run.length → (run.state index).sent.count .unlock ≤ 1) ∧
    (∀ index, index < run.length → Sends run index .unlock →
      (∃ refresh frame roundtrip, run.label index = .pollPriority refresh frame true roundtrip) ∧
      (run.state index).state.lifecycle = .locked ∧ Undisturbed run index ∧
      ∃ confirmation, confirmation < index ∧ Confirms run confirmation) ∧
    (∀ index descriptor, index ≤ run.length →
      (run.state index).sent.count (.writeReady descriptor) ≤ 1) ∧
    (∀ index descriptor, index < run.length → Sends run index (.writeReady descriptor) →
      Confirms run index) ∧
    (∀ first last, first ≤ last → last ≤ run.length →
      ((run.state first).failure.isSome = true ∨ (run.state first).terminate = true) →
      lockRequests (run.state last).sent = lockRequests (run.state first).sent) ∧
    (∀ index refresh frame, index < run.length → run.label index = .pollDeferred refresh frame →
      (run.state (index + 1)).state.lifecycle = (run.state index).state.lifecycle) ∧
    (∀ index refresh frame authorized roundtrip, index < run.length →
      run.label index = .pollPriority refresh frame authorized roundtrip →
      (run.state (index + 1)).state.lifecycle =
        if authorized then ((run.state index).authorizeUnlock roundtrip).state.lifecycle
        else (run.state index).state.lifecycle) := by
  refine ⟨?_, ?_, ?_, ?_, ?_, ?_, ?_⟩
  · intro index bound
    rw [(run_disciplined run index bound).unlocked]
    split <;> omega
  · intro index bound sends
    exact sends_unlock run bound sends
  · intro index descriptor bound
    rw [← count_reported]
    exact List.nodup_iff_count_le_one.mp
      (List.nodup_append.mp (run_disciplined run index bound).descriptors).2.1 descriptor
  · intro index descriptor bound sends
    exact sends_ready run bound sends
  · intro first last order bound ended
    exact requests_after_ended run order bound ended
  · intro index refresh frame bound isDeferred
    obtain ⟨commits, failure, simulated⟩ := run_step run index bound
    rw [simulated, isDeferred]
    exact LockState.recordPresentationFailure_lifecycle _ _
  · intro index refresh frame authorized roundtrip bound isPriority
    obtain ⟨commits, failure, simulated⟩ := run_step run index bound
    rw [simulated, isPriority, Runtime.authorizeUnlock_lock]
    exact LockState.pollPriority_lifecycle _ _ _ _ _ _ _

end Runs

end Genkan.SessionLock
