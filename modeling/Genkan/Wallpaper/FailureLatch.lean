import Genkan.Wallpaper.Relay
import Genkan.Foundations.Threads
import Genkan.Foundations.Lists

/-! # The failure latch of the movie player

The threads of a movie player publish frames, begin loops and report the failure of the playback, and
its consumer takes the latest update.  A section under the lock of the state is one step, and so is
each access to an atomic.
-/

namespace Genkan.Wallpaper

open Foundations Foundations.Threads

namespace Movie

/-! ## Shared state -/

/-- Instants and durations in nanoseconds. -/
structure LoopTransition where
  held : Frame
  startedAt : Nat
  duration : Nat
  deriving DecidableEq, Repr

structure SharedState where
  pending : Option Update := none
  lastFrame : Option Frame := none
  transition : Option LoopTransition := none
  lastFrameAt : Option Nat := none
  awaitingOpeningSince : Option Nat := none
  deriving DecidableEq, Repr

/-- `signalled` is the last value of the watch channel, and `taken` remembers the updates that the
consumer has taken. -/
structure Shared where
  state : SharedState := {}
  sequence : UInt64 := 0
  failed : Bool := false
  signalled : UInt64 := 0
  taken : List Update := []
  deriving DecidableEq, Repr

/-! ## Blending -/

def transitionProgress (transition : LoopTransition) (pts : Option Nat) (now : Nat) : Nat :=
  let elapsed := pts.getD (now - transition.startedAt)
  min (elapsed * 256 / max transition.duration 1) 256

def sameDimensions (left right : Frame) : Bool :=
  left.width == right.width && left.height == right.height && left.pixels.length == right.pixels.length

def blend (held opening : Frame) (openingWeight : Nat) : Frame :=
  let heldWeight := 256 - openingWeight
  { opening with
    pixels := List.zipWith
      (fun held opening =>
        UInt8.ofNat ((held.toNat * heldWeight + opening.toNat * openingWeight + 128) / 256))
      held.pixels opening.pixels }

/-- What `publish_frame` does between its two sections. -/
def blended (frame : Frame) (transition : Option LoopTransition) (now : Nat) :
    Frame × Option LoopTransition :=
  match transition with
  | none => (frame, none)
  | some transition =>
    let progress := transitionProgress transition frame.pts now
    if progress < 256 && sameDimensions transition.held frame then
      (blend transition.held frame progress, some transition)
    else (frame, none)

/-! ## Operations -/

inductive Outcome where
  | published
  | rejected
  | began
  /-- This call of `fail_once` has set the flag. -/
  | failed
  | alreadyFailed
  | took (update : Option Update)
  deriving DecidableEq, Repr

/-- Where a thread is in one of the operations. -/
inductive Operation where
  | publishFrame (frame : Frame)
  | blending (frame : Frame) (transition : Option LoopTransition)
  | publishing (frame : Frame) (transition : Option LoopTransition)
  | beginLoopAt (crossfade now : Nat)
  | failOnce
  /-- The flag is set; before the section of `fail_once`. -/
  | failing
  | takeLatest
  /-- In `notify`: before the sequence is counted, and before it is sent. -/
  | counting (outcome : Outcome)
  | sending (sequence : UInt64) (outcome : Outcome)
  | finished (outcome : Outcome)
  deriving DecidableEq, Repr

def starts : Operation → Bool
  | .publishFrame _ | .beginLoopAt _ _ | .failOnce | .takeLatest => true
  | _ => false

/-- `now` is what the clock shows if the step reads it. -/
def step (operation : Operation) (shared : Shared) (now : Nat) : Option (Operation × Shared) :=
  let state := shared.state
  match operation with
  | .publishFrame frame =>
    if shared.failed then some (.finished .rejected, shared)
    else some (.blending frame state.transition, { shared with state := { state with transition := none } })
  | .blending frame transition =>
    let (frame, transition) := blended frame transition now
    some (.publishing frame transition, shared)
  | .publishing frame transition =>
    if shared.failed then some (.finished .rejected, shared)
    else
      some (.counting .published, { shared with
        state :=
          { pending := some (.frame frame)
            lastFrame := some frame
            transition := state.transition.or transition
            lastFrameAt := some now
            awaitingOpeningSince := none } })
  | .beginLoopAt crossfade now =>
    some (.finished .began, { shared with
      state := { state with
        transition := state.lastFrame.map fun held => { held, startedAt := now, duration := crossfade }
        awaitingOpeningSince := some now } })
  | .failOnce =>
    if shared.failed then some (.finished .alreadyFailed, shared)
    else some (.failing, { shared with failed := true })
  | .failing =>
    some (.counting .failed, { shared with
      state :=
        { pending := some .failed
          lastFrame := none
          transition := none
          lastFrameAt := none
          awaitingOpeningSince := none } })
  | .takeLatest =>
    some (.finished (.took state.pending), { shared with
      state := { state with pending := none }
      taken := shared.taken ++ state.pending.toList })
  | .counting outcome =>
    some (.sending (shared.sequence + 1) outcome, { shared with sequence := shared.sequence + 1 })
  | .sending sequence outcome => some (.finished outcome, { shared with signalled := sequence })
  | .finished _ => none

def program : Program Shared Operation Nat where
  starts := starts
  step := step

def system : TransitionSystem (Pool Shared Operation) (Label Operation Nat) := program.system {}

/-! ## The latch -/

/-- The call has set the flag. -/
def claims : Operation → Bool
  | .failing | .counting .failed | .sending _ .failed | .finished .failed => true
  | _ => false

def isFailing : Operation → Bool
  | .failing => true
  | _ => false

/-- Before the section of `fail_once`. -/
def Open (shared : Shared) : Prop :=
  shared.state.pending ≠ some .failed ∧ .failed ∉ shared.taken

/-- After the section of `fail_once`: the failure is the last update there will be. -/
structure Latched (shared : Shared) : Prop where
  noFrame : shared.state.lastFrame = none
  noTransition : shared.state.transition = none
  last : (shared.state.pending = some .failed ∧ .failed ∉ shared.taken) ∨
    (shared.state.pending = none ∧ ∃ frames, shared.taken = frames ++ [.failed] ∧ .failed ∉ frames)

theorem Open.step {shared shared' : Shared} {operation operation' : Operation} {now : Nat}
    (isOpen : Open shared) (other : isFailing operation = false)
    (steps : step operation shared now = some (operation', shared')) : Open shared' := by
  obtain ⟨pending, taken⟩ := isOpen
  cases operation with
  | publishFrame frame =>
    simp only [Movie.step] at steps
    split at steps <;> cases steps <;> exact ⟨pending, taken⟩
  | publishing frame transition =>
    simp only [Movie.step] at steps
    split at steps <;> cases steps
    next => exact ⟨pending, taken⟩
    next => exact ⟨by simp, taken⟩
  | failOnce =>
    simp only [Movie.step] at steps
    split at steps <;> cases steps <;> exact ⟨pending, taken⟩
  | failing => contradiction
  | takeLatest =>
    cases steps
    refine ⟨by simp, ?_⟩
    simp only [List.mem_append, Option.mem_toList, not_or]
    exact ⟨taken, pending⟩
  | blending | beginLoopAt | counting | sending =>
    cases steps
    exact ⟨pending, taken⟩
  | finished => contradiction

theorem Latched.step {shared shared' : Shared} {operation operation' : Operation} {now : Nat}
    (latched : Latched shared) (failed : shared.failed = true) (other : isFailing operation = false)
    (steps : step operation shared now = some (operation', shared')) : Latched shared' := by
  cases operation with
  | publishFrame frame | publishing frame transition | failOnce =>
    simp only [Movie.step, failed, if_true] at steps
    cases steps
    exact latched
  | beginLoopAt crossfade start =>
    cases steps
    exact ⟨latched.noFrame, by simp [latched.noFrame], latched.last⟩
  | failing => contradiction
  | takeLatest =>
    cases steps
    refine ⟨latched.noFrame, latched.noTransition, .inr ⟨rfl, ?_⟩⟩
    rcases latched.last with ⟨pending, untaken⟩ | ⟨pending, frames, isTaken, none⟩
    · exact ⟨shared.taken, by simp [pending], untaken⟩
    · exact ⟨frames, by simp [pending, isTaken], none⟩
  | blending | counting | sending =>
    cases steps
    exact ⟨latched.noFrame, latched.noTransition, latched.last⟩
  | finished => contradiction

/-- At most one call sets the flag, and its section is what latches the state. -/
structure Consistent (shared : Shared) (claiming failing : Nat) : Prop where
  claimed : claiming = if shared.failed then 1 else 0
  bounded : failing ≤ claiming
  unlatched : (shared.failed = true → 0 < failing) → Open shared
  latched : shared.failed = true → failing = 0 → Latched shared

/-- A step that neither sets the flag nor latches the state. -/
theorem Consistent.kept {shared shared' : Shared} {operation operation' : Operation} {now claiming failing : Nat}
    (consistent : Consistent shared claiming failing) (other : isFailing operation = false)
    (flag : shared'.failed = shared.failed)
    (steps : step operation shared now = some (operation', shared')) : Consistent shared' claiming failing where
  claimed := by rw [flag, consistent.claimed]
  bounded := consistent.bounded
  unlatched waits := (consistent.unlatched (flag ▸ waits)).step other steps
  latched failed passed := (consistent.latched (flag ▸ failed) passed).step (flag ▸ failed) other steps

theorem consistent_advanced {shared shared' : Shared} {operations : List Operation} {index now : Nat}
    {operation operation' : Operation}
    (consistent : Consistent shared (operations.countP claims) (operations.countP isFailing))
    (found : operations[index]? = some operation)
    (steps : step operation shared now = some (operation', shared')) :
    Consistent shared' ((operations.set index operation').countP claims)
      ((operations.set index operation').countP isFailing) := by
  have claiming : (operations.set index operation').countP claims + (if claims operation then 1 else 0) =
      operations.countP claims + (if claims operation' then 1 else 0) := countP_step found
  have failing : (operations.set index operation').countP isFailing + (if isFailing operation then 1 else 0) =
      operations.countP isFailing + (if isFailing operation' then 1 else 0) := countP_step found
  generalize (operations.set index operation').countP claims = claiming' at claiming ⊢
  generalize (operations.set index operation').countP isFailing = failing' at failing ⊢
  have kept (other : isFailing operation = false) (flag : shared'.failed = shared.failed)
      (sameClaims : claims operation' = claims operation) (sameFailing : isFailing operation' = false) :
      Consistent shared' claiming' failing' := by
    have claimingSame : claiming' = operations.countP claims := by
      rw [sameClaims] at claiming
      omega
    have failingSame : failing' = operations.countP isFailing := by
      simpa [other, sameFailing] using failing
    rw [claimingSame, failingSame]
    exact consistent.kept other flag steps
  cases operation with
  | publishFrame frame | publishing frame transition =>
    simp only [step] at steps
    split at steps <;> cases steps <;> exact kept rfl rfl rfl rfl
  | blending | beginLoopAt | takeLatest =>
    cases steps
    exact kept rfl rfl rfl rfl
  | counting outcome | sending sequence outcome =>
    cases steps
    cases outcome <;> exact kept rfl rfl rfl rfl
  | finished outcome => contradiction
  | failOnce =>
    simp only [step] at steps
    split at steps
    next failed =>
      cases steps
      exact kept rfl rfl rfl rfl
    next unfailed =>
      cases steps
      have claimed := consistent.claimed
      have bounded := consistent.bounded
      have isOpen := consistent.unlatched (fun failed => absurd failed unfailed)
      simp only [unfailed, Bool.false_eq_true, if_false] at claimed
      change claiming' + 0 = operations.countP claims + 1 at claiming
      change failing' + 0 = operations.countP isFailing + 1 at failing
      exact ⟨by simp; omega, by omega, fun _ => isOpen, fun _ none => by omega⟩
  | failing =>
    cases steps
    have claimed := consistent.claimed
    have bounded := consistent.bounded
    change claiming' + 1 = operations.countP claims + 1 at claiming
    change failing' + 1 = operations.countP isFailing + 0 at failing
    have isOpen := consistent.unlatched (fun _ => by omega)
    have isFailed : shared.failed = true := by
      by_contra unfailed
      rw [if_neg unfailed] at claimed
      omega
    rw [if_pos isFailed] at claimed
    exact ⟨by simp [isFailed]; omega, by omega, fun waits => absurd (waits isFailed) (by omega),
      fun _ _ => ⟨rfl, rfl, .inl ⟨rfl, isOpen.2⟩⟩⟩

theorem consistent_of_reachable {pool : Pool Shared Operation} (reachable : system.Reachable pool) :
    Consistent pool.shared (pool.threads.countP claims) (pool.threads.countP isFailing) := by
  refine Program.invariant
    (fun shared operations => Consistent shared (operations.countP claims) (operations.countP isFailing))
    ?_ ?_ ?_ reachable
  · exact ⟨rfl, Nat.le_refl _, fun _ => ⟨by simp, by simp⟩, fun failed => by simp at failed⟩
  · intro shared operations operation consistent allowed
    change starts operation = true at allowed
    have unclaimed : claims operation = false := by cases operation <;> first | rfl | contradiction
    have unfailing : isFailing operation = false := by cases operation <;> first | rfl | contradiction
    rw [countP_start unclaimed, countP_start unfailing]
    exact consistent
  · intro shared operations index operation now operation' shared' consistent found steps
    exact consistent_advanced consistent found steps

/-! ## The failure is the last update -/

theorem latched_of_finished {pool : Pool Shared Operation} (reachable : system.Reachable pool)
    (finished : .finished .failed ∈ pool.threads) : Latched pool.shared := by
  have consistent := consistent_of_reachable reachable
  have claimed := consistent.claimed
  -- The finished call is the only one that claims the flag, so no call is before its section.
  have positive : 0 < pool.threads.countP claims := List.countP_pos_iff.mpr ⟨_, finished, rfl⟩
  have isFailed : pool.shared.failed = true := by
    by_contra unfailed
    rw [if_neg unfailed] at claimed
    omega
  rw [if_pos isFailed] at claimed
  refine consistent.latched isFailed ?_
  rw [List.countP_eq_zero]
  intro operation member failing
  cases operation with
  | failing =>
    obtain ⟨left, right, isThreads⟩ := List.append_of_mem finished
    rw [isThreads] at claimed member
    have other : .failing ∈ left ∨ .failing ∈ right := by simpa using member
    have counted : 0 < left.countP claims ∨ 0 < right.countP claims :=
      other.imp (fun found => List.countP_pos_iff.mpr ⟨_, found, rfl⟩)
        fun found => List.countP_pos_iff.mpr ⟨_, found, rfl⟩
    rw [List.countP_append, List.countP_cons_of_pos (by rfl)] at claimed
    omega
  | _ => contradiction

/-- Nothing is taken after the failure. -/
theorem taken_of_reachable {pool : Pool Shared Operation} (reachable : system.Reachable pool) :
    .failed ∉ pool.shared.taken ∨ ∃ frames, pool.shared.taken = frames ++ [.failed] ∧ .failed ∉ frames := by
  have consistent := consistent_of_reachable reachable
  by_cases latches : pool.shared.failed = true ∧ pool.threads.countP isFailing = 0
  · rcases (consistent.latched latches.1 latches.2).last with ⟨_, untaken⟩ | ⟨_, taken⟩
    · exact .inl untaken
    · exact .inr taken
  · exact .inl (consistent.unlatched fun failed =>
      Nat.pos_of_ne_zero fun passed => latches ⟨failed, passed⟩).2

theorem finished_stays {pool after : Pool Shared Operation} {label : Label Operation Nat} {outcome : Outcome}
    (finished : .finished outcome ∈ pool.threads) (steps : system.step pool label after) :
    .finished outcome ∈ after.threads := by
  change program.next pool label = some after at steps
  cases label with
  | start operation =>
    simp only [Program.next, Option.ite_none_right_eq_some, Option.some.injEq] at steps
    obtain ⟨_, rfl⟩ := steps
    exact List.mem_append_left _ finished
  | advance index now =>
    simp only [Program.next] at steps
    split at steps
    next => contradiction
    next operation found =>
      split at steps
      next => contradiction
      next operation' shared' taken =>
        cases steps
        obtain ⟨position, isFinished⟩ := List.mem_iff_getElem?.mp finished
        refine Lists.mem_set_of_ne isFinished ?_
        rintro rfl
        cases found.symm.trans isFinished
        contradiction

/-- In every run the failure is taken at most once and nothing after it; and when the call that set the
flag has finished, nothing is left that could be taken before the failure or shown after it. -/
theorem failure_is_last (run : system.Run) :
    (∀ index, index ≤ run.length →
      (run.state index).shared.taken.count .failed ≤ 1 ∧
      ∀ before after, (run.state index).shared.taken = before ++ .failed :: after → after = []) ∧
    ∀ first last, first ≤ last → last ≤ run.length → .finished .failed ∈ (run.state first).threads →
      (run.state last).shared.state.lastFrame = none ∧ (run.state last).shared.state.transition = none ∧
      ((run.state last).shared.state.pending = some .failed ∧ .failed ∉ (run.state last).shared.taken ∨
        (run.state last).shared.state.pending = none ∧ .failed ∈ (run.state last).shared.taken) := by
  constructor
  · intro index bound
    rcases taken_of_reachable (run.reachable index bound) with untaken | ⟨frames, isTaken, none⟩
    · refine ⟨by rw [List.count_eq_zero.mpr untaken]; exact Nat.zero_le _, ?_⟩
      intro before after equal
      exact absurd (equal ▸ by simp) untaken
    · -- The failure was taken after frames only.
      rw [isTaken]
      refine ⟨by simp [List.count_eq_zero.mpr none], ?_⟩
      intro before after equal
      exact ((List.append_cons_inj_of_notMem none (by simp)).mp equal).2.2.symm
  · intro first last order bound finished
    have still := run.stable (fun pool => Operation.finished .failed ∈ pool.threads)
      (fun _ _ _ finished steps => finished_stays finished steps) order bound finished
    obtain ⟨noFrame, noTransition, last⟩ := latched_of_finished (run.reachable _ bound) still
    refine ⟨noFrame, noTransition, last.imp id ?_⟩
    rintro ⟨pending, frames, isTaken, _⟩
    exact ⟨pending, by simp [isTaken]⟩

def sampleFrame : Frame where
  width := 1
  height := 1
  pixels := [1, 2, 3, 4]
  pts := none

/-- A failure that is taken. -/
def sampleFailure : List (Label Operation Nat) :=
  [.start .failOnce, .advance 0 0, .advance 0 0, .advance 0 0, .advance 0 0, .start .takeLatest, .advance 1 0]

def sampleFailureRun : system.Run :=
  letI : Inhabited (Label Operation Nat) := ⟨.start .failOnce⟩
  TransitionSystem.runOfLabels { shared := {}, threads := [] } rfl sampleFailure (by decide)

theorem failure_is_last_sample :
    (sampleFailureRun.state 7).shared.taken.count .failed ≤ 1 ∧
      (sampleFailureRun.state 7).shared.state.lastFrame = none :=
  ⟨((failure_is_last sampleFailureRun).1 7 (by decide)).1,
    ((failure_is_last sampleFailureRun).2 5 7 (by decide) (by decide) (by decide)).1⟩

/-- Two calls of `fail_once` overlap after a frame was published: the second one finds the flag set
and returns before the first one replaces the frame. -/
def sampleOverlap : List (Label Operation Nat) :=
  [.start (.publishFrame sampleFrame), .advance 0 0, .advance 0 0, .advance 0 0, .start .failOnce,
    .start .failOnce, .advance 1 0, .advance 2 0]

def sampleOverlapping : Pool Shared Operation where
  shared :=
    { state := { pending := some (.frame sampleFrame), lastFrame := some sampleFrame, lastFrameAt := some 0 }
      failed := true }
  threads := [.counting .published, .failing, .finished .alreadyFailed]

/-- A call of `fail_once` may finish while a frame is still pending. -/
theorem overlapping_failures_leave_frame :
    ¬ ∀ pool, system.Reachable pool → ∀ outcome, outcome = .failed ∨ outcome = .alreadyFailed →
      .finished outcome ∈ pool.threads →
        pool.shared.state.lastFrame = none ∧ pool.shared.state.transition = none ∧
          ∀ frame, pool.shared.state.pending ≠ some (.frame frame) := by
  intro claim
  have reachable : system.Reachable sampleOverlapping :=
    TransitionSystem.reachable_of_labels (.initial rfl) sampleOverlap (by rfl)
  have holds := claim sampleOverlapping reachable .alreadyFailed (.inr rfl) (by decide)
  exact absurd holds.1 (by decide)

end Movie

end Genkan.Wallpaper
