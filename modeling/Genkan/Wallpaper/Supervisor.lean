import Genkan.Wallpaper.LoopCrossfade

/-! # The supervision of the movie player

The thread of a player builds a decode pipeline and watches it until it stops or fails, and it tries the software
decoder if the first attempt has shown nothing.  The pipeline has a thread of its own that publishes frames and
notes faults; which frames it publishes is the subject of the loop playback.  It has ended when the pipeline is
shut down.  A section under the lock of the state is one step, and so is each access to an atomic.
-/

namespace Genkan.Wallpaper

open Foundations

namespace Movie

inductive DecoderMode where
  | automatic
  | software
  deriving DecidableEq, Repr

/-- In nanoseconds. -/
def DecoderMode.startupTimeout : DecoderMode → Nat
  | .automatic => 10 * 10 ^ 9
  | .software => 60 * 10 ^ 9

def frameStallTimeout : Nat := 10 * 10 ^ 9

def seekStallTimeout : Nat := 10 * 10 ^ 9

inductive PlaybackOutcome where
  | stopped
  | failed (message : String)
  deriving DecidableEq, Repr

inductive Stall where
  | startup
  | frame
  | seek
  deriving DecidableEq, Repr

def Stall.message : Stall → String
  | .startup => "wallpaper did not produce its first frame in time"
  | .frame => "wallpaper playback stopped producing frames"
  | .seek => "wallpaper loop did not resume after seeking"

def playbackStall (state : SharedState) (startedAt startupTimeout now : Nat) : Option Stall :=
  if state.awaitingOpeningSince.any fun started => seekStallTimeout ≤ now - started then some .seek
  else if state.lastFrameAt.any fun frame => frameStallTimeout ≤ now - frame then some .frame
  else if state.lastFrameAt.isNone && decide (startupTimeout ≤ now - startedAt) then some .startup
  else none

def shouldRetryWithSoftware (mode : DecoderMode) (hasFrame : Bool) : Bool := mode == .automatic && !hasFrame

/-! ## The thread of the player -/

inductive BusMessage where
  | loop
  | eos
  | error
  | other
  deriving DecidableEq, Repr

/-- Where `monitor_pipeline` is in its loop. -/
inductive Watch where
  | stopping
  | failed
  | faulted
  | stall
  | pop
  | beginLoop
  | seek
  deriving DecidableEq, Repr

inductive Place where
  /-- At the top of the loop of `run_playback`. -/
  | attempting
  | building
  /-- There is a pipeline; before it is set to play. -/
  | launching
  | watching (startedAt : Nat) (watch : Watch)
  /-- Before the pipeline is shut down. -/
  | retiring (outcome : PlaybackOutcome)
  | returned (outcome : PlaybackOutcome)
  /-- Before the section that looks for a frame. -/
  | retrying (message : String)
  | failing (message : String) (operation : Operation)
  | ended
  deriving DecidableEq, Repr

/-- `attempts` and `shown` record the decoders that were tried, and the decoder of each frame published. -/
structure Supervised where
  shared : Shared := {}
  stopping : Bool := false
  faulted : Bool := false
  mode : DecoderMode := .automatic
  callback : Option Operation := none
  place : Place := .attempting
  attempts : List DecoderMode := []
  shown : List DecoderMode := []
  deriving DecidableEq, Repr

/-- What the system answers to a step of the thread. -/
inductive Act where
  | check
  | build (rewinds builds : Bool)
  | launch (plays : Bool) (now : Nat)
  | stall (now : Nat)
  | pop (message : Option BusMessage)
  | beginLoop (now : Nat)
  | seek (done : Bool)
  | retire
  | fail (now : Nat)
  deriving DecidableEq, Repr

inductive SupervisedLabel where
  | stop
  | take
  | decode (frame : Frame)
  | publish (now : Nat)
  | fault
  | work (act : Act)
  deriving DecidableEq, Repr

namespace Supervised

/-- There is a pipeline. -/
def live (player : Supervised) : Bool :=
  match player.place with
  | .launching | .watching _ _ | .retiring _ => true
  | _ => false

def work (crossfade : Nat) (player : Supervised) (act : Act) : Option Supervised :=
  match player.place, act with
  | .attempting, .check =>
    if player.stopping then some { player with place := .ended }
    else some { player with place := .building, attempts := player.attempts ++ [player.mode] }
  | .building, .build rewinds builds =>
    if rewinds = false then some { player with place := .returned (.failed "wallpaper file could not be rewound") }
    else if builds = false then
      some { player with place := .returned (.failed "wallpaper decode pipeline could not be built") }
    else some { player with place := .launching, faulted := false }
  | .launching, .launch plays now =>
    some { player with place :=
      if plays then .watching now .stopping else .retiring (.failed "wallpaper decode pipeline did not start") }
  | .watching startedAt .stopping, .check =>
    some { player with place := if player.stopping then .retiring .stopped else .watching startedAt .failed }
  | .watching startedAt .failed, .check =>
    some { player with place := if player.shared.failed then .retiring .stopped else .watching startedAt .faulted }
  | .watching startedAt .faulted, .check =>
    some { player with place :=
      if player.faulted then .retiring (.failed "wallpaper frame decoding failed") else .watching startedAt .stall }
  | .watching startedAt .stall, .stall now =>
    some { player with place :=
      match playbackStall player.shared.state startedAt player.mode.startupTimeout now with
      | some stall => .retiring (.failed stall.message)
      | none => .watching startedAt .pop }
  | .watching startedAt .pop, .pop message =>
    some { player with place :=
      match message with
      | some .loop => .watching startedAt .beginLoop
      | some .eos => .retiring (.failed "wallpaper reached its end before looping")
      | some .error => .retiring (.failed "wallpaper stream failed")
      | some .other | none => .watching startedAt .stopping }
  | .watching startedAt .beginLoop, .beginLoop now =>
    (step (.beginLoopAt crossfade now) player.shared now).map fun result =>
      { player with shared := result.2, place := .watching startedAt .seek }
  | .watching startedAt .seek, .seek done =>
    some { player with place :=
      if done then .watching startedAt .stopping else .retiring (.failed "wallpaper loop seek failed") }
  | .retiring outcome, .retire =>
    -- The thread of the pipeline has ended.
    if player.callback = none then some { player with place := .returned outcome } else none
  | .returned .stopped, .check => some { player with place := .ended }
  | .returned (.failed message), .check =>
    some { player with place := if player.stopping then .ended else .retrying message }
  | .retrying message, .check =>
    if shouldRetryWithSoftware player.mode player.shared.state.lastFrame.isSome then
      some { player with mode := .software, place := .attempting }
    else some { player with place := .failing message .failOnce }
  | .failing message operation, .fail now =>
    match step operation player.shared now with
    | some (following, shared) => some { player with shared, place := .failing message following }
    | none => some { player with place := .ended }
  | _, _ => none

def next (crossfade : Nat) (player : Supervised) : SupervisedLabel → Option Supervised
  | .stop => some { player with stopping := true }
  | .take => (step .takeLatest player.shared 0).map fun result => { player with shared := result.2 }
  | .decode frame =>
    if player.live && player.callback.isNone && !player.shared.failed then
      some { player with callback := some (.publishFrame frame) }
    else none
  | .publish now =>
    match player.callback with
    | none => none
    | some operation =>
      match step operation player.shared now with
      | some (following, shared) =>
        some { player with
          shared
          callback := some following
          shown := if following = .counting .published then player.shown ++ [player.mode] else player.shown }
      | none => some { player with callback := none }
  | .fault => if player.live then some { player with faulted := true } else none
  | .work act => player.work crossfade act

end Supervised

def supervision (crossfade : Nat) : TransitionSystem Supervised SupervisedLabel :=
  .ofPartial (fun player => player = {}) (Supervised.next crossfade)

/-! ## What a step can do -/

/-- The steps of the thread, without what the system answered. -/
inductive Supervised.Works (player : Supervised) : Supervised → Prop
  | ends (stopping : player.stopping = true)
      (place : player.place = .attempting ∨ ∃ outcome, player.place = .returned outcome) :
      Works player { player with place := .ended }
  | attempts (place : player.place = .attempting) :
      Works player { player with place := .building, attempts := player.attempts ++ [player.mode] }
  | refuses (message : String) (place : player.place = .building) :
      Works player { player with place := .returned (.failed message) }
  | builds (place : player.place = .building) : Works player { player with place := .launching, faulted := false }
  | watches (startedAt : Nat) (watch : Watch) (live : player.live = true) :
      Works player { player with place := .watching startedAt watch }
  | fails (message : String) (live : player.live = true) :
      Works player { player with place := .retiring (.failed message) }
  | stops (live : player.live = true) (because : player.stopping = true ∨ player.shared.failed = true) :
      Works player { player with place := .retiring .stopped }
  | loops (crossfade startedAt now : Nat) (operation : Operation) (shared : Shared)
      (place : player.place = .watching startedAt .beginLoop)
      (steps : step (.beginLoopAt crossfade now) player.shared now = some (operation, shared)) :
      Works player { player with shared, place := .watching startedAt .seek }
  | retires (outcome : PlaybackOutcome) (place : player.place = .retiring outcome) (alone : player.callback = none) :
      Works player { player with place := .returned outcome }
  | quits (place : player.place = .returned .stopped) : Works player { player with place := .ended }
  | considers (message : String) (place : player.place = .returned (.failed message)) :
      Works player { player with place := .retrying message }
  | retries (message : String) (place : player.place = .retrying message) (automatic : player.mode = .automatic)
      (nothing : player.shared.state.lastFrame = none) :
      Works player { player with mode := .software, place := .attempting }
  | reports (message : String) (place : player.place = .retrying message)
      (exhausted : player.mode = .software ∨ player.shared.state.lastFrame ≠ none) :
      Works player { player with place := .failing message .failOnce }
  | reporting (message : String) (operation following : Operation) (shared : Shared) (now : Nat)
      (place : player.place = .failing message operation)
      (steps : step operation player.shared now = some (following, shared)) :
      Works player { player with shared, place := .failing message following }
  | reported (message : String) (operation : Operation) (now : Nat)
      (place : player.place = .failing message operation) (steps : step operation player.shared now = none) :
      Works player { player with place := .ended }

theorem Supervised.work_works {crossfade : Nat} {player next : Supervised} {act : Act}
    (works : player.work crossfade act = some next) : player.Works next := by
  have inside {place : Place} (isPlace : player.place = place)
      (pipeline : ({ player with place } : Supervised).live = true) : player.live = true := by
    rw [← isPlace] at pipeline
    exact pipeline
  rw [work.eq_def] at works
  split at works
  next isPlace =>
    split at works
    next stopping =>
      cases works
      exact .ends stopping (.inl isPlace)
    next =>
      cases works
      exact .attempts isPlace
  next rewinds builds isPlace =>
    split at works
    next =>
      cases works
      exact .refuses _ isPlace
    next =>
      split at works
      next =>
        cases works
        exact .refuses _ isPlace
      next =>
        cases works
        exact .builds isPlace
  next plays now isPlace =>
    have live := inside isPlace rfl
    cases works
    cases plays
    · exact .fails _ live
    · exact .watches now .stopping live
  next startedAt isPlace =>
    have live := inside isPlace rfl
    cases works
    split
    next stopping => exact .stops live (.inl stopping)
    next => exact .watches startedAt .failed live
  next startedAt isPlace =>
    have live := inside isPlace rfl
    cases works
    split
    next failed => exact .stops live (.inr failed)
    next => exact .watches startedAt .faulted live
  next startedAt isPlace =>
    have live := inside isPlace rfl
    cases works
    split
    next => exact .fails _ live
    next => exact .watches startedAt .stall live
  next startedAt now isPlace =>
    have live := inside isPlace rfl
    cases works
    split
    next => exact .fails _ live
    next => exact .watches startedAt .pop live
  next startedAt message isPlace =>
    have live := inside isPlace rfl
    cases works
    split
    next => exact .watches startedAt .beginLoop live
    next => exact .fails _ live
    next => exact .fails _ live
    next => exact .watches startedAt .stopping live
    next => exact .watches startedAt .stopping live
  next startedAt now isPlace =>
    rw [Option.map_eq_some_iff] at works
    obtain ⟨⟨operation, shared⟩, steps, rfl⟩ := works
    exact .loops crossfade startedAt now operation shared isPlace steps
  next startedAt done isPlace =>
    have live := inside isPlace rfl
    cases works
    cases done
    · exact .fails _ live
    · exact .watches startedAt .stopping live
  next outcome isPlace =>
    split at works
    next alone =>
      cases works
      exact .retires outcome isPlace alone
    next => cases works
  next isPlace =>
    cases works
    exact .quits isPlace
  next message isPlace =>
    cases works
    split
    next stopping => exact .ends stopping (.inr ⟨_, isPlace⟩)
    next => exact .considers message isPlace
  next message isPlace =>
    split at works
    next retries =>
      cases works
      simp only [shouldRetryWithSoftware, Bool.and_eq_true, beq_iff_eq, Bool.not_eq_true', Option.isSome_eq_false_iff,
        Option.isNone_iff_eq_none] at retries
      exact .retries message isPlace retries.1 retries.2
    next final =>
      cases works
      refine .reports message isPlace ?_
      by_contra more
      rw [not_or, not_not] at more
      obtain ⟨another, nothing⟩ := more
      cases isMode : player.mode with
      | automatic => simp [shouldRetryWithSoftware, isMode, nothing] at final
      | software => exact another isMode
  next message operation now isPlace =>
    split at works
    next following shared steps =>
      cases works
      exact .reporting message operation following shared now isPlace steps
    next steps =>
      cases works
      exact .reported message operation now isPlace steps
  next => cases works

/-- What a step of `publish_frame` does before a failure: it publishes, or it leaves the last frame. -/
theorem step_publish {operation following : Operation} {shared shared' : Shared} {now : Nat}
    (publishing : InPublish operation) (unfailed : shared.failed = false)
    (steps : step operation shared now = some (following, shared')) :
    InPublish following ∧ shared'.failed = false ∧
      (following = .counting .published ∧ shared'.state.lastFrame ≠ none ∨
        following ≠ .counting .published ∧ shared'.state.lastFrame = shared.state.lastFrame) := by
  cases operation with
  | publishFrame frame =>
    simp only [step, unfailed, Bool.false_eq_true, if_false] at steps
    cases steps
    exact ⟨trivial, rfl, .inr ⟨by simp, rfl⟩⟩
  | blending frame transition =>
    cases steps
    exact ⟨trivial, unfailed, .inr ⟨by simp, rfl⟩⟩
  | publishing frame transition =>
    simp only [step, unfailed, Bool.false_eq_true, if_false] at steps
    cases steps
    exact ⟨trivial, rfl, .inl ⟨rfl, by simp⟩⟩
  | counting outcome =>
    cases steps
    cases outcome with
    | published => exact ⟨trivial, unfailed, .inr ⟨by simp, rfl⟩⟩
    | _ => exact publishing.elim
  | sending sequence outcome =>
    cases steps
    cases outcome with
    | published => exact ⟨trivial, unfailed, .inr ⟨by simp, rfl⟩⟩
    | _ => exact publishing.elim
  | finished outcome => cases steps
  | _ => exact publishing.elim

/-! ## The end -/

def Watch.left : Watch → Nat
  | .stopping => 3
  | .seek => 4
  | .beginLoop => 5
  | .pop => 6
  | .stall => 7
  | .faulted => 8
  | .failed => 9

def Operation.left : Operation → Nat
  | .publishFrame _ => 6
  | .blending _ _ | .failOnce => 5
  | .publishing _ _ | .failing => 4
  | .counting _ => 3
  | .sending _ _ | .beginLoopAt _ _ | .takeLatest => 2
  | .finished _ => 1

theorem step_left {operation following : Operation} {shared shared' : Shared} {now : Nat}
    (steps : step operation shared now = some (following, shared')) : following.left < operation.left := by
  cases operation with
  | publishFrame | publishing | failOnce =>
    simp only [step] at steps
    split at steps <;> cases steps <;> simp [Operation.left]
  | finished => cases steps
  | _ =>
    cases steps
    simp [Operation.left]

/-- A bound for the steps of the thread once it is to stop. -/
def Supervised.left (player : Supervised) : Nat :=
  match player.place with
  | .ended => 0
  | .attempting | .returned _ => 1
  | .retiring _ => 2
  | .watching _ watch => watch.left
  | .launching => 4
  | .building => 5
  | .failing _ operation => operation.left
  | .retrying _ => 7

def SupervisedLabel.isWork : SupervisedLabel → Bool
  | .work _ => true
  | _ => false

namespace Supervised

variable {player : Supervised}

theorem left_le (player : Supervised) : player.left ≤ 9 := by
  have watches (watch : Watch) : watch.left ≤ 9 := by cases watch <;> simp [Watch.left]
  have reports (operation : Operation) : operation.left ≤ 9 := by cases operation <;> simp [Operation.left]
  rw [left]
  split
  case h_5 => exact watches _
  case h_8 => exact reports _
  all_goals omega

theorem work_left {crossfade : Nat} {next : Supervised} {act : Act} (stopping : player.stopping = true)
    (works : player.work crossfade act = some next) : next.left < player.left := by
  rw [work.eq_def] at works
  split at works
  next isPlace =>
    rw [if_pos stopping] at works
    cases works
    simp [left, isPlace]
  next rewinds builds isPlace =>
    split at works
    next =>
      cases works
      simp [left, isPlace]
    next =>
      split at works <;> cases works <;> simp [left, isPlace]
  next plays now isPlace =>
    cases works
    cases plays <;> simp [left, isPlace, Watch.left]
  next startedAt isPlace =>
    rw [if_pos stopping] at works
    cases works
    simp [left, isPlace, Watch.left]
  next startedAt isPlace =>
    cases works
    split <;> simp [left, isPlace, Watch.left]
  next startedAt isPlace =>
    cases works
    split <;> simp [left, isPlace, Watch.left]
  next startedAt now isPlace =>
    cases works
    split <;> simp [left, isPlace, Watch.left]
  next startedAt message isPlace =>
    cases works
    split <;> simp [left, isPlace, Watch.left]
  next startedAt now isPlace =>
    rw [Option.map_eq_some_iff] at works
    obtain ⟨_, _, rfl⟩ := works
    simp [left, isPlace, Watch.left]
  next startedAt done isPlace =>
    cases works
    cases done <;> simp [left, isPlace, Watch.left]
  next outcome isPlace =>
    split at works <;> cases works
    simp [left, isPlace]
  next isPlace =>
    cases works
    simp [left, isPlace]
  next message isPlace =>
    rw [if_pos stopping] at works
    cases works
    simp [left, isPlace]
  next message isPlace =>
    split at works <;> cases works <;> simp [left, isPlace, Operation.left]
  next message operation now isPlace =>
    split at works
    next following shared steps =>
      cases works
      have fewer := step_left steps
      simpa [left, isPlace] using fewer
    next =>
      cases works
      have positive : 0 < operation.left := by cases operation <;> simp [Operation.left]
      simpa [left, isPlace] using positive
  next => cases works

theorem next_stopping {crossfade : Nat} {next : Supervised} {label : SupervisedLabel}
    (stopping : player.stopping = true) (steps : player.next crossfade label = some next) :
    next.stopping = true ∧ (if label.isWork then next.left < player.left else next.left = player.left) := by
  cases label with
  | stop =>
    cases steps
    exact ⟨rfl, rfl⟩
  | take =>
    cases steps
    exact ⟨stopping, rfl⟩
  | decode | fault =>
    simp only [Supervised.next, Option.ite_none_right_eq_some, Option.some.injEq] at steps
    obtain ⟨_, rfl⟩ := steps
    exact ⟨stopping, rfl⟩
  | publish now =>
    simp only [Supervised.next] at steps
    split at steps
    next => cases steps
    next operation isCallback => split at steps <;> cases steps <;> exact ⟨stopping, rfl⟩
  | work act =>
    refine ⟨?_, work_left stopping steps⟩
    cases work_works steps <;> exact stopping

/-- A thread that is to stop takes few more steps, whatever happens beside it. -/
theorem works_after_stop {crossfade : Nat} (labels : List SupervisedLabel) {after : Supervised}
    (stopping : player.stopping = true) (runs : labels.foldlM (Supervised.next crossfade) player = some after) :
    labels.countP SupervisedLabel.isWork + after.left ≤ player.left := by
  induction labels generalizing player with
  | nil =>
    cases runs
    simp
  | cons label labels inductionHypothesis =>
    obtain ⟨middle, steps, rest⟩ := Option.bind_eq_some_iff.mp runs
    obtain ⟨still, fewer⟩ := next_stopping stopping steps
    have later := inductionHypothesis still rest
    rw [List.countP_cons]
    split at fewer
    next isWork =>
      rw [if_pos isWork]
      omega
    next other =>
      rw [if_neg other]
      omega

/-- The thread waits only for the thread of a pipeline that it shuts down. -/
theorem work_enabled (crossfade : Nat) (player : Supervised) :
    player.place = .ended ∨ (∃ outcome, player.place = .retiring outcome ∧ player.callback ≠ none) ∨
      ∃ act next, player.work crossfade act = some next := by
  have enabled (act : Act) (works : (player.work crossfade act).isSome = true) :
      ∃ act next, player.work crossfade act = some next :=
    ⟨act, Option.isSome_iff_exists.mp works⟩
  cases isPlace : player.place with
  | ended => exact .inl rfl
  | retiring outcome =>
    by_cases alone : player.callback = none
    · exact .inr (.inr (enabled .retire (by simp [work, isPlace, alone])))
    · exact .inr (.inl ⟨outcome, rfl, alone⟩)
  | attempting =>
    refine .inr (.inr (enabled .check ?_))
    simp only [work, isPlace]
    split <;> rfl
  | building => exact .inr (.inr (enabled (.build false false) (by simp [work, isPlace])))
  | launching => exact .inr (.inr (enabled (.launch true 0) (by simp [work, isPlace])))
  | watching startedAt watch =>
    cases watch with
    | stopping | failed | faulted => exact .inr (.inr (enabled .check (by simp [work, isPlace])))
    | stall => exact .inr (.inr (enabled (.stall 0) (by simp [work, isPlace])))
    | pop => exact .inr (.inr (enabled (.pop none) (by simp [work, isPlace])))
    | beginLoop => exact .inr (.inr (enabled (.beginLoop 0) (by simp [work, isPlace, step])))
    | seek => exact .inr (.inr (enabled (.seek true) (by simp [work, isPlace])))
  | returned outcome => cases outcome <;> exact .inr (.inr (enabled .check (by simp [work, isPlace])))
  | retrying message =>
    refine .inr (.inr (enabled .check ?_))
    simp only [work, isPlace]
    split <;> rfl
  | failing message operation =>
    refine .inr (.inr (enabled (.fail 0) ?_))
    simp only [work, isPlace]
    split <;> rfl

end Supervised

end Movie

end Genkan.Wallpaper
