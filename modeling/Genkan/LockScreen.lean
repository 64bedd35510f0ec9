import Genkan.Locker.Agreement
import Genkan.Locker.Authorization
import Genkan.SessionLock.LockDiscipline

/-! # The lock screen as one program

The session-lock runtime with the locker as its presentation.  Between two steps of the worker and of
its reader the program handles a callback or goes on with a turn of its loop; what it asks the
presentation on the way, and what it does with the answer, is what connects the two halves.
-/

namespace Genkan

open Foundations SessionLock Locker

structure LockScreen where
  runtime : Runtime
  world : World

namespace LockScreen

/-! ## Callbacks and turns of the loop -/

/-- The presentation hears of the confirmation once READY is written, unless that failed. -/
def locked (screen : LockScreen) (environment : ApplyEnvironment) (answers : Environment) : LockScreen :=
  let runtime := screen.runtime.locked environment
  let (_, action) := lockConfirmationAction screen.runtime.state
    (screen.runtime.failure.isSome || screen.runtime.terminate)
  if action = .reportReady ∧ runtime.terminate = false then
    { runtime, world := { screen.world with presentation := screen.world.presentation.lockConfirmed answers } }
  else { screen with runtime }

def handleKey (screen : LockScreen) (event : KeyEvent) (frame : Option PresentationFrame)
    (answers : Environment) : LockScreen :=
  match keyInput event with
  | none => screen
  | some input =>
    let (presentation, changed) := screen.world.presentation.input input answers
    { runtime := screen.runtime.handleKey event changed frame, world := { screen.world with presentation } }

/-- The end of a turn, after the presentation has received what there was. -/
def pollPriority (screen : LockScreen) (refresh : Refresh) (frame : Option PresentationFrame)
    (roundtrip : Option String) : LockScreen :=
  let (presentation, authorized) := screen.world.presentation.takeAuthorization
  { runtime := screen.runtime.pollPriority refresh frame authorized roundtrip
    world := { presentation, turn := .idle } }

/-! ## Steps -/

/-- The runtime tells the presentation about confirmations and keys, and asks it for authorizations;
the other calls are `plain`. -/
def isPlain : Call → Bool
  | .locked _ | .key .. | .pollPriority .. => false
  | _ => true

/-- Made by the loop itself, and so not after the termination. -/
def isLooped : Call → Bool
  | .reconcileOutputs _ | .expireAuthenticationRetirement | .commitPartialOverlays _ | .pollDeferred ..
  | .maintainSurfaces .. => true
  | _ => false

inductive WorkerStep where
  | receive
  | act (done : LockAuth.Worker.Act)
  | exit
  | dies
  | read (fails : Bool)

def WorkerStep.label : WorkerStep → Locker.Label
  | .receive => .workerReceive
  | .act done => .workerAct done
  | .exit => .workerExit
  | .dies => .workerDies
  | .read fails => .readerStep fails

inductive Label where
  | locked (environment : ApplyEnvironment) (answers : Environment)
  | key (event : KeyEvent) (frame : Option PresentationFrame) (answers : Environment)
  | plain (call : Call)
  | receiveLatest
  | receiveEvent
  | pollPriority (refresh : Refresh) (frame : Option PresentationFrame) (roundtrip : Option String)
  | worker (step : WorkerStep)

/-- One thread runs the callbacks and the loop, so nothing of them happens in the middle of a turn. -/
def next (screen : LockScreen) : Label → Option LockScreen
  | .locked environment answers =>
    if screen.world.turn = .idle then some (screen.locked environment answers) else none
  | .key event frame answers =>
    if screen.world.turn = .idle then some (screen.handleKey event frame answers) else none
  | .plain call =>
    if screen.world.turn = .idle ∧ isPlain call = true ∧
        (isLooped call = true → screen.runtime.terminate = false) then
      some { screen with runtime := screen.runtime.handle call }
    else none
  | .receiveLatest =>
    if screen.runtime.terminate = false then
      (screen.world.next .receiveLatest).map fun world => { screen with world }
    else none
  | .receiveEvent => (screen.world.next .receiveEvent).map fun world => { screen with world }
  | .pollPriority refresh frame roundtrip =>
    if screen.world.turn = .received then some (screen.pollPriority refresh frame roundtrip) else none
  | .worker step => (screen.world.next step.label).map fun world => { screen with world }

end LockScreen

def lockScreen : TransitionSystem LockScreen LockScreen.Label :=
  .ofPartial (fun screen => Initial screen.runtime ∧ screen.world = World.start) LockScreen.next

namespace LockScreen

/-! ## What the runtime sees -/

/-- The call that the runtime handles in a step; while the others move, it does nothing. -/
def call (screen : LockScreen) : Label → Call
  | .locked environment _ => .locked environment
  | .key event frame answers =>
    .key event ((keyInput event).any fun input => (screen.world.presentation.input input answers).2) frame
  | .plain call => call
  | .pollPriority refresh frame roundtrip =>
    .pollPriority refresh frame screen.world.presentation.takeAuthorization.2 roundtrip
  | .receiveLatest | .receiveEvent | .worker _ => .advance 0

theorem locked_runtime (screen : LockScreen) (environment : ApplyEnvironment) (answers : Environment) :
    (screen.locked environment answers).runtime = screen.runtime.locked environment := by
  simp only [locked]
  split <;> rfl

theorem handleKey_runtime (screen : LockScreen) (event : KeyEvent) (frame : Option PresentationFrame)
    (answers : Environment) :
    (screen.handleKey event frame answers).runtime =
      screen.runtime.handle (screen.call (.key event frame answers)) := by
  simp only [handleKey, call, Runtime.handle]
  cases isInput : keyInput event with
  | none => simp [Runtime.handleKey, isInput]
  | some input => rfl

theorem next_runtime {screen after : LockScreen} {label : Label} (steps : screen.next label = some after) :
    after.runtime = screen.runtime.handle (screen.call label) := by
  cases label with
  | locked environment answers =>
    obtain ⟨_, isAfter⟩ := Option.ite_none_right_eq_some.mp steps
    cases isAfter
    exact screen.locked_runtime environment answers
  | key event frame answers =>
    obtain ⟨_, isAfter⟩ := Option.ite_none_right_eq_some.mp steps
    cases isAfter
    exact screen.handleKey_runtime event frame answers
  | plain call =>
    obtain ⟨_, isAfter⟩ := Option.ite_none_right_eq_some.mp steps
    cases isAfter
    rfl
  | receiveLatest =>
    obtain ⟨_, moved⟩ := Option.ite_none_right_eq_some.mp steps
    obtain ⟨world, _, isAfter⟩ := Option.map_eq_some_iff.mp moved
    exact isAfter ▸ rfl
  | pollPriority refresh frame roundtrip =>
    obtain ⟨_, isAfter⟩ := Option.ite_none_right_eq_some.mp steps
    cases isAfter
    rfl
  | receiveEvent | worker step =>
    obtain ⟨world, _, isAfter⟩ := Option.map_eq_some_iff.mp steps
    exact isAfter ▸ rfl

/-- The run as the runtime sees it. -/
def calls (run : lockScreen.Run) : callbacks.Run :=
  run.project LockScreen.runtime call (fun _ starts => starts.1) fun _ _ _ steps => next_runtime steps

/-! ## What the locker sees -/

theorem unlockAndSynchronize_requesting {lock : LockState} {roundtrip : Option String}
    (requesting : (lock.unlockAndSynchronize roundtrip).state.lifecycle = .requesting) :
    lock.state.lifecycle = .requesting := by
  rcases lock.unlockAndSynchronize_cases roundtrip with ⟨_, gone⟩ | ⟨_, succeeds | ⟨error, fails⟩⟩
  · rwa [gone] at requesting
  · rwa [succeeds] at requesting
  · rw [fails] at requesting
    simp [LockState.fail] at requesting

/-- The lock is requested until it is confirmed, and never again. -/
theorem requesting_of_handle {runtime : Runtime} {call : Call}
    (requesting : (runtime.handle call).state.lifecycle = .requesting) :
    runtime.state.lifecycle = .requesting := by
  obtain ⟨commits, failure, simulated⟩ := runtime.handle_lock call
  rw [simulated] at requesting
  cases call with
  | locked environment =>
    rcases runtime.toLockState.confirm_cases environment.ready with ⟨before, _⟩ | same
    · exact before
    · rwa [LockState.handle, same] at requesting
  | finished => simp [LockState.handle, LockState.finish] at requesting
  | pollPriority refresh frame authorized roundtrip =>
    cases authorized with
    | false => simpa [LockState.handle] using requesting
    | true =>
      rcases (runtime.toLockState.recordPresentationFailure refresh).authorizeUnlock_cases roundtrip with
        ⟨_, authorizes⟩ | same
      · simp only [LockState.handle, if_true, authorizes] at requesting
        exact absurd (unlockAndSynchronize_requesting requesting) (by simp [LockState.enter])
      · simpa [LockState.handle, same] using requesting
  | pollDeferred refresh frame => simpa [LockState.handle] using requesting
  | _ =>
    cases failure with
    | none => exact requesting
    | some error => simp [LockState.handle, LockState.quiet] at requesting

/-- The presentation hears of the confirmation after the lifecycle has left the request behind. -/
structure Ordered (screen : LockScreen) : Prop where
  world : locker.Reachable screen.world
  confirmed : screen.world.presentation.confirmed = true → screen.runtime.state.lifecycle ≠ .requesting

theorem confirm_not_requesting (lock : LockState) (outcome : Nat → WriteOutcome)
    (requesting : lock.state.lifecycle = .requesting) (running : lock.failure = .none ∧ lock.terminate = false) :
    (lock.confirm outcome).state.lifecycle ≠ .requesting := by
  have confirmed : lock.confirm outcome = (lock.enter .locked).reportReady outcome := by
    simp [LockState.confirm, lockConfirmationAction, running, State.update, requesting, LockState.enter]
  obtain ⟨written, _, announces | ⟨error, fails⟩⟩ := (lock.enter .locked).reportReady_cases outcome
  · rw [confirmed, announces]
    simp [LockState.announce, LockState.enter]
  · rw [confirmed, fails]
    simp [LockState.fail]

theorem locked_cases (screen : LockScreen) (environment : ApplyEnvironment) (answers : Environment) :
    (screen.runtime.state.lifecycle = .requesting ∧
      (screen.locked environment answers).runtime.state.lifecycle ≠ .requesting ∧
      (screen.locked environment answers).world =
        { screen.world with presentation := screen.world.presentation.lockConfirmed answers }) ∨
    (screen.locked environment answers).world = screen.world := by
  rcases lockConfirmationAction_cases screen.runtime.state
    (screen.runtime.failure.isSome || screen.runtime.terminate) with ⟨⟨clear, requesting⟩, decided⟩ | ⟨_, decided⟩
  · by_cases announced : (screen.runtime.locked environment).terminate = false
    · refine .inl ⟨requesting, ?_, by simp [locked, decided, announced]⟩
      simp only [Bool.or_eq_false_iff, Option.isSome_eq_false_iff, Option.isNone_iff_eq_none] at clear
      rw [locked_runtime, screen.runtime.locked_lock]
      exact confirm_not_requesting _ _ requesting clear
    · exact .inr (by simp [locked, decided, announced])
  · exact .inr (by simp [locked, decided])

/-- Tells the presentation of the confirmation. -/
def tellsConfirmation : Locker.Label → Bool
  | .lockConfirmed _ => true
  | _ => false

/-- Every step is one of the locker, or leaves the locker alone; it tells of the confirmation while the
lifecycle leaves the request behind. -/
theorem next_world {screen after : LockScreen} {label : Label} (ordered : screen.Ordered)
    (steps : screen.next label = some after) :
    after.world = screen.world ∨ ∃ taken, screen.world.next taken = some after.world ∧
      (tellsConfirmation taken = true → after.runtime.state.lifecycle ≠ .requesting) := by
  cases label with
  | locked environment answers =>
    obtain ⟨idle, isAfter⟩ := Option.ite_none_right_eq_some.mp steps
    cases isAfter
    rcases screen.locked_cases environment answers with ⟨requesting, confirmed, heard⟩ | same
    · have unconfirmed : screen.world.presentation.confirmed = false := by
        by_contra confirmed
        exact ordered.confirmed (by simpa using confirmed) requesting
      exact .inr ⟨.lockConfirmed answers, by simp [World.next, idle, unconfirmed, heard], fun _ => confirmed⟩
    · exact .inl same
  | key event frame answers =>
    obtain ⟨idle, isAfter⟩ := Option.ite_none_right_eq_some.mp steps
    cases isAfter
    cases isInput : keyInput event with
    | none => exact .inl (by simp [handleKey, isInput])
    | some input =>
      exact .inr ⟨.input input answers, by simp [World.next, idle, handleKey, isInput], by simp [tellsConfirmation]⟩
  | plain call =>
    obtain ⟨_, isAfter⟩ := Option.ite_none_right_eq_some.mp steps
    cases isAfter
    exact .inl rfl
  | receiveLatest =>
    obtain ⟨_, moved⟩ := Option.ite_none_right_eq_some.mp steps
    obtain ⟨world, taken, isAfter⟩ := Option.map_eq_some_iff.mp moved
    exact .inr ⟨.receiveLatest, isAfter ▸ taken, by simp [tellsConfirmation]⟩
  | receiveEvent =>
    obtain ⟨world, taken, isAfter⟩ := Option.map_eq_some_iff.mp steps
    exact .inr ⟨.receiveEvent, isAfter ▸ taken, by simp [tellsConfirmation]⟩
  | pollPriority refresh frame roundtrip =>
    obtain ⟨received, isAfter⟩ := Option.ite_none_right_eq_some.mp steps
    cases isAfter
    exact .inr ⟨.takeAuthorization, by simp [World.next, received, pollPriority], by simp [tellsConfirmation]⟩
  | worker step =>
    obtain ⟨world, taken, isAfter⟩ := Option.map_eq_some_iff.mp steps
    refine .inr ⟨step.label, isAfter ▸ taken, ?_⟩
    cases step <;> simp [tellsConfirmation, WorkerStep.label]

theorem onClient_confirmed {world next : World} {step : Client → Option Client}
    (steps : world.onClient step = some next) :
    next.presentation.confirmed = world.presentation.confirmed := by
  simp only [World.onClient] at steps
  split at steps
  next => contradiction
  next =>
    obtain ⟨after, _, isNext⟩ := Option.map_eq_some_iff.mp steps
    exact isNext ▸ rfl

theorem unconfirmed_of_next {world next : World} {label : Locker.Label} (consistent : world.Consistent)
    (unconfirmed : world.presentation.confirmed = false) (steps : world.next label = some next)
    (other : tellsConfirmation label = false) : next.presentation.confirmed = false := by
  cases label with
  | lockConfirmed environment => contradiction
  | input input environment =>
    obtain ⟨_, isNext⟩ := Option.ite_none_right_eq_some.mp steps
    cases isNext
    simp [LockerPresentation.input, unconfirmed]
  | receiveLatest =>
    obtain ⟨_, isNext⟩ := Option.ite_none_right_eq_some.mp steps
    cases isNext
    exact unconfirmed
  | receiveEvent =>
    cases isTurn : world.turn with
    | receiving remaining =>
      exact absurd (consistent.receiving remaining isTurn) (by simp [unconfirmed])
    | idle | received => simp [World.next, World.receiveEvent, isTurn] at steps
  | takeAuthorization =>
    obtain ⟨_, isNext⟩ := Option.ite_none_right_eq_some.mp steps
    cases isNext
    exact unconfirmed
  | workerReceive | workerAct | workerExit | workerDies | readerStep =>
    exact (onClient_confirmed steps).trans unconfirmed

theorem Ordered.next {screen after : LockScreen} {label : Label} (ordered : screen.Ordered)
    (steps : screen.next label = some after) : after.Ordered := by
  have later (requesting : after.runtime.state.lifecycle = .requesting) :
      screen.runtime.state.lifecycle = .requesting := by
    rw [next_runtime steps] at requesting
    exact requesting_of_handle requesting
  rcases next_world ordered steps with same | ⟨taken, moved, told⟩
  · exact ⟨same ▸ ordered.world, fun confirmed requesting =>
      ordered.confirmed (same ▸ confirmed) (later requesting)⟩
  · refine ⟨.step ordered.world moved, ?_⟩
    intro confirmed requesting
    cases isTold : tellsConfirmation taken with
    | true => exact told isTold requesting
    | false =>
      have before : screen.world.presentation.confirmed = false := by
        by_contra earlier
        exact ordered.confirmed (by simpa using earlier) (later requesting)
      have after := unconfirmed_of_next (locker_consistent ordered.world) before moved isTold
      simp [after] at confirmed

theorem ordered_of_reachable {screen : LockScreen} (reachable : lockScreen.Reachable screen) :
    screen.Ordered := by
  refine reachable.invariant Ordered ?_ fun _ _ _ ordered steps => ordered.next steps
  rintro screen ⟨starts, isStart⟩
  exact ⟨isStart ▸ .initial rfl, by simp [isStart, World.start, LockerPresentation.new]⟩

/-! ## Unlocking -/

/-- The step sends the request to unlock. -/
def Unlocks (run : lockScreen.Run) (index : Nat) : Prop :=
  (run.state index).runtime.sent.count .unlock < (run.state (index + 1)).runtime.sent.count .unlock

/-- The current worker has authenticated the user: it was begun after the confirmation, every response
that it accepted was submitted to the prompt that accepted it, it wrote Success and exited cleanly. -/
structure Authenticated (screen : LockScreen) (attempt : Attempt) (client : Client) : Prop where
  current : screen.world.presentation.auth = some (attempt, client)
  accepted : screen.world.presentation.conversation.accepts attempt = true
  begun : (LockAuth.Message.begin, true) ∈ client.written
  answered : ∀ acceptance ∈ client.accepted,
    acceptance.Answers screen.world.presentation.history.submissions
  succeeded : LockAuth.Message.success ∈ client.sent
  exited : client.worker.phase = .exited true

theorem authenticated_of_authorized {screen : LockScreen} (reachable : lockScreen.Reachable screen)
    (authorized : screen.world.presentation.authorized = true) :
    ∃ attempt client, screen.Authenticated attempt client := by
  have known := (ordered_of_reachable reachable).world
  obtain ⟨_, attempt, client, _, active, _, vouched, _⟩ := (locker_trusted known).authorized authorized
  have current := (locker_consistent known).presentation.attempt attempt client active
  refine ⟨attempt, client, active, by simp [Conversation.accepts, current], vouched.begun, ?_,
    vouched.succeeded, vouched.exited⟩
  apply (locker_agrees known).accepted
  simp [LockerPresentation.clients, active]

/-! ## Ending without an error -/

/-- What ends the program without an error has given the lock up. -/
def Released (lock : LockState) : Prop :=
  lock.terminate = true → lock.failure = .none → lock.sessionLock = false

theorem released_of_running {lock : LockState} (running : lock.terminate = false) : Released lock := by
  intro terminated
  simp [running] at terminated

theorem released_of_failed {lock : LockState} {error : SessionLock.Error} :
    Released (lock.fail error) := by
  intro _ succeeded
  simp [LockState.fail] at succeeded

theorem Released.quiet {lock : LockState} (released : Released lock) (commits : List Commit)
    (failure : Option SessionLock.Error) : Released (lock.quiet commits failure) := by
  cases failure with
  | none => exact released
  | some error => exact released_of_failed

theorem Released.recordPresentationFailure {lock : LockState} (released : Released lock)
    (refresh : Refresh) : Released (lock.recordPresentationFailure refresh) := by
  simp only [LockState.recordPresentationFailure]
  split
  next => exact released
  next => exact released

theorem Released.confirm {lock : LockState} (released : Released lock) (outcome : Nat → WriteOutcome) :
    Released (lock.confirm outcome) := by
  rcases lock.confirm_cases outcome with ⟨_, _, running, confirms⟩ | same
  · obtain ⟨written, _, announces | ⟨error, fails⟩⟩ := (lock.enter .locked).reportReady_cases outcome
    · rw [confirms, announces]
      exact released_of_running running
    · rw [confirms, fails]
      exact released_of_failed
  · rwa [same]

theorem Released.authorizeUnlock {lock : LockState} (released : Released lock)
    (roundtrip : Option String) : Released (lock.authorizeUnlock roundtrip) := by
  rcases lock.authorizeUnlock_cases roundtrip with ⟨_, authorizes⟩ | same
  · rw [authorizes]
    rcases (lock.enter .unlocking).unlockAndSynchronize_cases roundtrip with
      ⟨absent, gone⟩ | ⟨_, succeeds | ⟨error, fails⟩⟩
    · rw [gone]
      exact fun _ _ => absent
    · rw [succeeds]
      exact fun _ _ => rfl
    · rw [fails]
      exact released_of_failed
  · rwa [same]

theorem Released.handle {lock : LockState} (released : Released lock) (commits : List Commit)
    (failure : Option SessionLock.Error) (call : Call) :
    Released (lock.handle commits failure call) := by
  cases call with
  | locked environment => exact released.confirm environment.ready
  | finished => exact released_of_failed
  | pollPriority refresh frame authorized roundtrip =>
    cases authorized with
    | false => exact released.recordPresentationFailure refresh
    | true => exact (released.recordPresentationFailure refresh).authorizeUnlock roundtrip
  | pollDeferred refresh frame => exact released.recordPresentationFailure refresh
  | _ => exact released.quiet commits failure

theorem run_released (run : callbacks.Run) (index : Nat) (bound : index ≤ run.length) :
    Released (run.state index).toLockState := by
  refine run.invariant (fun runtime => Released runtime.toLockState) ?_ ?_ index bound
  · intro runtime starts
    exact released_of_running starts.terminate
  · intro runtime call next released steps
    obtain ⟨commits, failure, simulated⟩ := runtime.handle_lock call
    rw [steps, simulated]
    exact released.handle commits failure call

theorem unlocks_of_ended (run : lockScreen.Run) {index : Nat} (bound : index ≤ run.length)
    (terminated : (run.state index).runtime.terminate = true)
    (succeeded : (run.state index).runtime.failure = .none) :
    ∃ earlier < index, Unlocks run earlier := by
  have given := run_released (calls run) index bound terminated succeeded
  have sent := (run_disciplined (calls run) index bound).unlocked
  rw [given] at sent
  have unsent : (run.state 0).runtime.sent.count .unlock = 0 := by simp [run.starts.1.sent]
  obtain ⟨entry, before, outside, inside⟩ := run.entered
    (fun screen => 0 < screen.runtime.sent.count .unlock) bound (by simp [unsent])
    (sent.symm ▸ Nat.zero_lt_one)
  refine ⟨entry, before, ?_⟩
  have entered := inside (entry + 1) (by omega) (by omega)
  simp only [Unlocks]
  omega

/-! ## Only the authenticated unlock -/

theorem authenticated_of_unlocks (run : lockScreen.Run) {index : Nat} (bound : index < run.length)
    (unlocks : Unlocks run index) :
    (∃ confirmation < index, Confirms (calls run) confirmation) ∧
      ∃ attempt client, (run.state index).Authenticated attempt client := by
  obtain ⟨⟨refresh, frame, roundtrip, polled⟩, _, _, confirmed⟩ := sends_unlock (calls run) bound unlocks
  refine ⟨confirmed, ?_⟩
  have steps : (run.state index).next (run.label index) = some (run.state (index + 1)) :=
    run.steps index bound
  have called : (run.state index).call (run.label index) = .pollPriority refresh frame true roundtrip :=
    polled
  cases isLabel : run.label index with
  | pollPriority refresh frame roundtrip =>
    simp only [isLabel, call, Call.pollPriority.injEq] at called
    exact authenticated_of_authorized (run.reachable index (by omega)) called.2.2.1
  | plain call =>
    simp only [isLabel, LockScreen.call] at called
    simp [isLabel, next, called, isPlain] at steps
  | locked | key | receiveLatest | receiveEvent | worker => simp [isLabel, call] at called

/-- In every run of the lock screen, callbacks, turns of the loop, keys, workers and their readers in
any order, the request to unlock is sent only after the compositor confirmed the lock and while the
current worker has authenticated the user; and the program ends without an error only after it. -/
theorem unlock_authenticated (run : lockScreen.Run) :
    (∀ index < run.length, Unlocks run index →
      (∃ confirmation < index, Confirms (calls run) confirmation) ∧
        ∃ attempt client, (run.state index).Authenticated attempt client) ∧
    (∀ index ≤ run.length, (run.state index).runtime.terminate = true →
      (run.state index).runtime.failure = .none → ∃ earlier < index, Unlocks run earlier) :=
  ⟨fun _ bound unlocks => authenticated_of_unlocks run bound unlocks,
    fun _ bound terminated succeeded => unlocks_of_ended run bound terminated succeeded⟩

/-- The worker succeeds without asking, and the loop takes the authorization. -/
def sampleLabels : List Label :=
  [.locked {} {}, .worker .receive, .worker (.act (.finish true true)), .worker .exit,
    .worker (.read false), .worker (.read false), .worker (.read false), .receiveLatest, .receiveEvent,
    .receiveEvent, .pollPriority .overlay none none]

example : ((sampleLabels.foldlM next { runtime := sampleStart, world := World.start }).map fun screen =>
    (screen.runtime.terminate, screen.runtime.failure, screen.runtime.sent)) =
      some (true, none, [.unlock]) := by
  decide +kernel

end LockScreen

end Genkan
