import Genkan.Greeter.StartSession

/-! # Closing the window

The window is closed once, and only when no session of greetd can be left behind: it has been cancelled,
there is none since the last user was deselected, or waiting for it has taken too long.
-/

namespace Genkan.Greeter

open Foundations App

/-! ## Moves -/

theorem Move.closes_cases {core next : Core} {input : Input} {actions : List Action} {window : Nat}
    (move : Move core input next actions) (member : .close window ∈ actions) :
    actions = [.close window] ∧ next.closing = some (.dispatching window) ∧
      (core.closing = none ∧ core.selectionSessionCancelled = true ∨
        core.closing = some (.waitingForUserSelectionCancellation window) ∧
          (∃ result, input = .message (.userSelectionCancelled core.conversation.attempt result)) ∨
        (core.closing = some (.waitingForClient window) ∨ core.closing = some (.cancelling window)) ∧
          input = .message (.sessionCancelled window) ∨
        (∃ closing, core.closing = some closing ∧ closing.isCleaning window = true) ∧
          input = .message (.closeTimeout window)) := by
  cases move with
  | kept _ _ quiet =>
    obtain ⟨power, isPower⟩ := quiet _ member
    simp at isPower
  | answered _ _ answers => cases answers <;> simp at member
  | closes unclosed cancelled =>
    cases List.mem_singleton.mp member
    exact ⟨rfl, rfl, .inl ⟨unclosed, cancelled⟩⟩
  | closesSelection waits isInput =>
    cases List.mem_singleton.mp member
    exact ⟨rfl, rfl, .inr (.inl ⟨waits, _, isInput⟩)⟩
  | closesSession waits isInput =>
    cases List.mem_singleton.mp member
    exact ⟨rfl, rfl, .inr (.inr (.inl ⟨waits, isInput⟩))⟩
  | expires waits cleaning isInput =>
    cases List.mem_singleton.mp member
    exact ⟨rfl, rfl, .inr (.inr (.inr ⟨⟨_, waits, cleaning⟩, isInput⟩))⟩
  | _ => simp [cancelForUserSelection] at member

/-- Once the close is dispatched, it is not dispatched again. -/
theorem Move.dispatched {core next : Core} {input : Input} {actions : List Action} {window : Nat}
    (move : Move core input next actions) (dispatching : core.closing = some (.dispatching window)) :
    next.closing = some (.dispatching window) ∧ ∀ other, Action.close other ∉ actions := by
  constructor
  · cases move with
    | answered unclosed => simp [unclosed] at dispatching
    | expires waits cleaning => simp_all [Closing.isCleaning]
    | _ => grind -linarith
  · intro other member
    rcases (move.closes_cases member).2.2 with ⟨unclosed, _⟩ | ⟨waits, _⟩ | ⟨waits | waits, _⟩ |
      ⟨⟨closing, waits, cleaning⟩, _⟩
    · simp [unclosed] at dispatching
    · simp [waits] at dispatching
    · simp [waits] at dispatching
    · simp [waits] at dispatching
    · cases waits.symm.trans dispatching
      contradiction

theorem Move.deselection {core next : Core} {input : Input} {actions : List Action}
    (move : Move core input next actions) (before : core.selectionSessionCancelled ≠ true)
    (cancelled : next.selectionSessionCancelled = true) :
    ∃ attempt, input = .message (.userSelectionCancelled attempt (.ok ())) := by
  cases move with
  | deselects unclosed isInput => exact ⟨_, isInput⟩
  | answered _ _ answers => cases answers <;> exact absurd cancelled before
  | begins | changes => contradiction
  | _ => exact absurd cancelled before

/-- The window waits for the deselection of a user, or it is not to close yet. -/
def App.Core.Deselecting (core : Core) : Prop :=
  core.closing = none ∨ ∃ window, core.closing = some (.waitingForUserSelectionCancellation window)

theorem Move.deselecting {core next : Core} {input : Input} {actions : List Action}
    (move : Move core input next actions) (deselecting : next.Deselecting) : core.Deselecting := by
  simp only [Core.Deselecting] at deselecting ⊢
  cases move with
  | answered unclosed => exact .inl unclosed
  | _ => grind -linarith

/-- A cancellation takes the connection that is held, or the one that has just been told of. -/
theorem Move.cancellation {core next : Core} {input : Input} {actions : List Action} {task : Task}
    {client : Option Client} (move : Move core input next actions) (settled : core.Settled)
    (isTask : (∃ window, task = .cancelForClose client window) ∨
      ∃ attempt, task = .cancelForUserSelection client attempt) (member : .perform task ∈ actions) :
    client = core.client ∨ core.client = none ∧ ∃ attempt result,
      input = .message (.authResult attempt result) ∧ client = result.toOption.bind (·.1) := by
  cases move with
  | kept _ _ quiet =>
    obtain ⟨power, isPower⟩ := quiet _ member
    rcases isTask with ⟨window, isTask⟩ | ⟨attempt, isTask⟩ <;> simp [isTask] at isPower
  | abandons waits isInput =>
    have isCancel := List.mem_singleton.mp member
    rcases isTask with ⟨window, isTask⟩ | ⟨attempt, isTask⟩
    · simp only [isTask, Action.perform.injEq, Task.cancelForClose.injEq] at isCancel
      exact .inr ⟨settled.unconnected _ (.inl waits), _, _, isInput, isCancel.1⟩
    · simp [isTask] at isCancel
  | cancels =>
    rcases isTask with ⟨window, isTask⟩ | ⟨attempt, isTask⟩ <;> simp [isTask] at member
    exact .inl member.1
  | changes =>
    rcases isTask with ⟨window, isTask⟩ | ⟨attempt, isTask⟩ <;> simp [isTask, cancelForUserSelection] at member
    exact .inl member.1
  | retries unclosed before =>
    rcases isTask with ⟨window, isTask⟩ | ⟨attempt, isTask⟩ <;> simp [isTask, cancelForUserSelection] at member
    rw [member.1]
    exact .inl (settled.nameless (settled.leaving (.inr before))).1.symm
  | begins unclosed cause named begun starts =>
    rcases starts with ⟨_, _, recover, isStart⟩ | ⟨_, _, isStart⟩ <;>
      rcases isTask with ⟨window, isTask⟩ | ⟨attempt, isTask⟩ <;> simp [isTask, isStart] at member
  | answered _ _ answers =>
    rcases isTask with ⟨window, isTask⟩ | ⟨attempt, isTask⟩ <;> cases answers <;> simp [isTask] at member
  | _ => rcases isTask with ⟨window, isTask⟩ | ⟨attempt, isTask⟩ <;> simp [isTask] at member

/-! ## No session behind -/

/-- No connection is held, and no session is being created. -/
def World.Idle (world : World) : Prop :=
  world.app.client = none ∧ ∀ flight ∈ world.flights, flight.task.isCreation = false

theorem Task.Fits.creation {core : Core} {task : Task} (fits : task.Fits core) (creates : task.isCreation = true) :
    core.phase = .creatingSession ∧ core.selectionSessionCancelled = false ∧
      ∀ window, core.closing ≠ some (.cancelling window) := by
  cases task with
  | begin | restart => exact ⟨fits.1, fits.2.2.1, fits.2.2.2.1⟩
  | _ => contradiction

theorem World.Consistent.idle {world : World} (consistent : world.Consistent) (unheld : world.app.client = none)
    (other : ¬ (world.app.phase = .creatingSession ∧ world.app.selectionSessionCancelled = false ∧
      ∀ window, world.app.closing ≠ some (.cancelling window))) : world.Idle := by
  refine ⟨unheld, ?_⟩
  intro flight inFlight
  cases creates : flight.task.isCreation with
  | false => rfl
  | true => exact absurd ((consistent.fits flight inFlight).creation creates) other

theorem World.Consistent.idle_of_cancelling {world : World} (consistent : world.Consistent) {window : Nat}
    (cancelling : world.app.closing = some (.cancelling window)) : world.Idle := by
  apply consistent.idle (consistent.settled.unconnected window (.inr cancelling))
  rintro ⟨_, _, other⟩
  exact other window cancelling

theorem World.Consistent.idle_of_deselecting {world : World} (consistent : world.Consistent)
    (deselecting : world.app.phase = .cancellingForUserSelection) : world.Idle := by
  have nameless := consistent.settled.leaving (.inl deselecting)
  apply consistent.idle (consistent.settled.nameless nameless).1
  rintro ⟨creating, _⟩
  rw [deselecting] at creating
  contradiction

theorem World.Consistent.idle_of_cancelled {world : World} (consistent : world.Consistent)
    (cancelled : world.app.selectionSessionCancelled = true) : world.Idle := by
  obtain ⟨_, nameless⟩ := consistent.settled.cancelled cancelled
  apply consistent.idle (consistent.settled.nameless nameless).1
  rintro ⟨_, uncancelled, _⟩
  rw [cancelled] at uncancelled
  contradiction

/-! ## The task that ends -/

theorem World.finishing_of_delivers {world : World} {label : Label} {message : Message}
    (delivers : world.delivers label = some (.message message))
    (inside : (Input.message message).isOutside = false) :
    ∃ flight outcome, world.finishing label = some flight ∧ flight ∈ world.flights ∧
      flight.message outcome = some message := by
  cases label with
  | input sent discovered =>
    simp only [World.delivers, Option.ite_none_right_eq_some, Option.some.injEq] at delivers
    obtain ⟨outside, isInput⟩ := delivers
    rw [isInput, inside] at outside
    contradiction
  | finish position outcome =>
    simp only [World.delivers, Option.map_eq_some_iff, Option.bind_eq_some_iff, Input.message.injEq] at delivers
    obtain ⟨message, ⟨flight, found, ends⟩, same⟩ := delivers
    exact ⟨flight, outcome, found, List.mem_of_getElem? found, same ▸ ends⟩

theorem Flight.message_sessionCancelled {flight : Flight} {outcome : Outcome} {window : Nat}
    (ends : flight.message outcome = some (.sessionCancelled window)) :
    ∃ client, flight.task = .cancelForClose client window := by
  obtain ⟨serial, task⟩ := flight
  cases task <;> cases outcome <;>
    simp only [Flight.message, reduceCtorEq, Option.some.injEq, Message.sessionCancelled.injEq] at ends
  cases ends
  exact ⟨_, rfl⟩

theorem Flight.message_userSelectionCancelled {flight : Flight} {outcome : Outcome} {attempt : Attempt}
    {result : Except String Unit} (ends : flight.message outcome = some (.userSelectionCancelled attempt result)) :
    ∃ client, flight.task = .cancelForUserSelection client attempt := by
  obtain ⟨serial, task⟩ := flight
  cases task <;> cases outcome <;>
    simp only [Flight.message, reduceCtorEq, Option.some.injEq, Message.userSelectionCancelled.injEq] at ends
  cases ends.1
  exact ⟨_, rfl⟩

theorem Flight.message_closeTimeout {flight : Flight} {outcome : Outcome} {window : Nat}
    (ends : flight.message outcome = some (.closeTimeout window)) : flight.task = .closeTimeout window := by
  obtain ⟨serial, task⟩ := flight
  cases task <;> cases outcome <;>
    simp only [Flight.message, reduceCtorEq, Option.some.injEq, Message.closeTimeout.injEq] at ends
  cases ends
  rfl

/-! ## Runs -/

variable (run : greeterSystem.Run)

theorem consistent_of_run {index : Nat} (bound : index ≤ run.length) : (run.state index).Consistent :=
  World.consistent_of_reachable (run.reachable index bound)

/-- The greeter starts with the creation of a session or with the search for users. -/
theorem starts_flights {world : World} (starts : world.Starts) {flight : Flight}
    (inFlight : flight ∈ world.flights) :
    flight.task.isCreation = true ∨ flight.task = .discoverAccounts := by
  obtain ⟨account, sessions, isStart⟩ := starts
  subst isStart
  cases sessions with
  | nil => cases List.not_mem_nil inFlight
  | cons session sessions =>
    cases account with
    | none =>
      cases List.mem_singleton.mp inFlight
      exact .inr rfl
    | some account =>
      cases List.mem_singleton.mp inFlight
      exact .inl rfl

/-- A task in flight was set off by a step of the run, and it has been in flight since. -/
theorem launched_before {index : Nat} (bound : index ≤ run.length) {flight : Flight}
    (inFlight : flight ∈ (run.state index).flights)
    (later : ¬ (flight.task.isCreation = true ∨ flight.task = .discoverAccounts)) :
    ∃ earlier < index, (run.state earlier).Asks (run.label earlier) (.perform flight.task) ∧
      ∀ between, earlier < between → between ≤ index → flight ∈ (run.state between).flights := by
  have absent : flight ∉ (run.state 0).flights := fun present => later (starts_flights run.starts present)
  obtain ⟨earlier, before, outside, inside⟩ :=
    run.entered (fun world => flight ∈ world.flights) bound absent inFlight
  refine ⟨earlier, before, ?_, inside⟩
  obtain ⟨actions, acts⟩ := acts_of_run run (show earlier < run.length by omega)
  obtain ⟨input, rest, _, takes, _, isFlights⟩ := World.act_moves acts
  have sublist := ((consistent_of_run run (show earlier ≤ run.length by omega)).takes takes).2.1
  have present := inside (earlier + 1) (by omega) (by omega)
  rw [isFlights] at present
  cases List.mem_append.mp present with
  | inl isOld => exact absurd (sublist.subset isOld) outside
  | inr isNew => exact ⟨_, actions, acts, World.perform_of_numbered isNew⟩

/-- The step takes the connection over that is held, or that it is just told of. -/
def World.HandsOver (world : World) (label : Label) (client : Option Client) : Prop :=
  client = world.app.client ∨ world.app.client = none ∧ ∃ attempt result,
    world.delivers label = some (.message (.authResult attempt result)) ∧ client = result.toOption.bind (·.1)

/-- The step ends a cancellation that an earlier one set off for the session there was, and since then
there has been none. -/
def CancelledBy (index : Nat) (task : Option Client → Task) : Prop :=
  ∃ earlier < index, ∃ client flight,
    (run.state earlier).Asks (run.label earlier) (.perform (task client)) ∧
    (run.state earlier).HandsOver (run.label earlier) client ∧
    (run.state index).finishing (run.label index) = some flight ∧ flight.task = task client ∧
    ∀ between, earlier < between → between ≤ index →
      flight ∈ (run.state between).flights ∧ (run.state between).Idle

theorem cancelledBy {index : Nat} (bound : index < run.length) {task : Option Client → Task}
    {client : Option Client} {flight : Flight} (isTask : flight.task = task client)
    (cancels : (∃ window, task client = .cancelForClose client window) ∨
      ∃ attempt, task client = .cancelForUserSelection client attempt)
    (finishes : (run.state index).finishing (run.label index) = some flight)
    (inFlight : flight ∈ (run.state index).flights)
    (idle : ∀ between ≤ index, flight ∈ (run.state between).flights → (run.state between).Idle) :
    CancelledBy run index task := by
  have later : ¬ (flight.task.isCreation = true ∨ flight.task = .discoverAccounts) := by
    rw [isTask]
    rcases cancels with ⟨window, isCancel⟩ | ⟨attempt, isCancel⟩ <;> simp [isCancel, Task.isCreation]
  obtain ⟨earlier, before, asks, since⟩ := launched_before run (Nat.le_of_lt bound) inFlight later
  rw [isTask] at asks
  refine ⟨earlier, before, client, flight, asks, ?_, finishes, isTask, ?_⟩
  · -- The connection is handed over by the step that asks for the cancellation.
    obtain ⟨input, actions, delivers, _, member, move⟩ := asks_of_run run (show earlier < run.length by omega) asks
    have settled := (consistent_of_run run (show earlier ≤ run.length by omega)).settled
    cases move.cancellation settled cancels member with
    | inl held => exact .inl held
    | inr told =>
      obtain ⟨unheld, attempt, result, isInput, isClient⟩ := told
      exact .inr ⟨unheld, attempt, result, isInput ▸ delivers, isClient⟩
  · intro between after within
    exact ⟨since between after within, idle between within (since between after within)⟩

/-! ## Closing -/

theorem dispatching_since {first last : Nat} (order : first < last) (bound : last ≤ run.length) {window : Nat}
    (asks : (run.state first).Asks (run.label first) (.close window)) :
    (run.state last).app.closing = some (.dispatching window) := by
  obtain ⟨_, _, _, _, member, move⟩ := asks_of_run run (show first < run.length by omega) asks
  refine run.stays (fun world => world.app.closing = some (.dispatching window)) order bound ?_
    (move.closes_cases member).2.1
  intro index _ before dispatching
  obtain ⟨_, _, _, _, _, move⟩ := moves_of_run run (show index < run.length by omega)
  exact (move.dispatched dispatching).1

theorem not_closed_again {first second : Nat} (order : first < second) (bound : second < run.length)
    {window other : Nat} (asks : (run.state first).Asks (run.label first) (.close window)) :
    ¬ (run.state second).Asks (run.label second) (.close other) := by
  intro again
  obtain ⟨_, _, _, _, member, move⟩ := asks_of_run run bound again
  exact (move.dispatched (dispatching_since run order (Nat.le_of_lt bound) asks)).2 other member

/-- The step that told of the deselection of the last user, with no session since. -/
theorem deselected_before {index : Nat} (bound : index ≤ run.length)
    (cancelled : (run.state index).app.selectionSessionCancelled = true) :
    ∃ earlier < index, ∃ attempt,
      (run.state earlier).delivers (run.label earlier) =
        some (.message (.userSelectionCancelled attempt (.ok ()))) ∧
      ∀ between, earlier < between → between ≤ index →
        (run.state between).app.selectionSessionCancelled = true ∧ (run.state between).Idle := by
  have initially : (run.state 0).app.selectionSessionCancelled ≠ true := by
    rw [show (run.state 0).app.selectionSessionCancelled = false from run.starts.fresh.2]
    decide
  obtain ⟨earlier, before, outside, inside⟩ :=
    run.entered (fun world => world.app.selectionSessionCancelled = true) bound initially cancelled
  obtain ⟨input, _, delivers, _, _, move⟩ := moves_of_run run (show earlier < run.length by omega)
  obtain ⟨attempt, isInput⟩ := move.deselection outside (inside (earlier + 1) (by omega) (by omega))
  refine ⟨earlier, before, attempt, isInput ▸ delivers, ?_⟩
  intro between after within
  have still := inside between after within
  exact ⟨still, (consistent_of_run run (show between ≤ run.length by omega)).idle_of_cancelled still⟩

theorem deselecting_before {between index : Nat} (within : between ≤ index) (bound : index ≤ run.length)
    (deselecting : (run.state index).app.core.Deselecting) : (run.state between).app.core.Deselecting := by
  by_contra closing
  refine run.stays (fun world => ¬ world.app.core.Deselecting) within bound ?_ closing deselecting
  intro middle _ before closing still
  obtain ⟨_, _, _, _, _, move⟩ := moves_of_run run (show middle < run.length by omega)
  exact closing (move.deselecting still)

/-- While its close is awaited, the cancellation of the session has left none behind. -/
theorem idle_before_close {index between : Nat} {window : Nat} (bound : index < run.length)
    (undispatched : ∀ other, (run.state index).app.closing ≠ some (.dispatching other)) (within : between ≤ index)
    {flight : Flight} {client : Option Client} (isTask : flight.task = .cancelForClose client window)
    (inFlight : flight ∈ (run.state between).flights) : (run.state between).Idle := by
  have consistent := consistent_of_run run (show between ≤ run.length by omega)
  have fits := consistent.fits flight inFlight
  rw [isTask] at fits
  obtain ⟨other, cancelling | dispatching⟩ := fits
  · exact consistent.idle_of_cancelling cancelling
  · -- A dispatched close stays one, and there is none yet at the later step.
    refine absurd ?_ (undispatched other)
    refine run.stays (fun world => world.app.closing = some (.dispatching other)) within (by omega) ?_ dispatching
    intro middle _ before dispatching
    obtain ⟨_, _, _, _, _, move⟩ := moves_of_run run (show middle < run.length by omega)
    exact (move.dispatched dispatching).1

/-- The window is closed at most once: when the cancellation of the session there was has ended, when it has
taken too long, or when there has been no session since the last user was deselected. -/
theorem close_safe :
    (∀ index < run.length, ∀ window, (run.state index).Asks (run.label index) (.close window) →
      (∃ next, (run.state index).act (run.label index) = some (next, [.close window])) ∧
      (∀ other < run.length, ∀ again, (run.state other).Asks (run.label other) (.close again) → other = index) ∧
      (CancelledBy run index (.cancelForClose · window) ∨
        (∃ attempt, CancelledBy run index (.cancelForUserSelection · attempt)) ∨
        (∃ flight, (run.state index).finishing (run.label index) = some flight ∧
          flight.task = .closeTimeout window) ∨
        ∃ earlier < index, ∃ attempt,
          (run.state earlier).delivers (run.label earlier) =
            some (.message (.userSelectionCancelled attempt (.ok ()))) ∧
          ∀ between, earlier < between → between ≤ index →
            (run.state between).app.selectionSessionCancelled = true ∧ (run.state between).Idle)) ∧
    ∀ index ≤ run.length, (run.state index).app.selectionSessionCancelled = true → (run.state index).Idle := by
  constructor
  · intro index bound window asks
    obtain ⟨input, actions, delivers, acts, member, move⟩ := asks_of_run run bound asks
    obtain ⟨alone, _, cause⟩ := move.closes_cases member
    refine ⟨⟨_, alone ▸ acts⟩, ?_, ?_⟩
    · intro other otherBound again asksAgain
      rcases Nat.lt_trichotomy other index with before | same | after
      · exact absurd asks (not_closed_again run before bound asksAgain)
      · exact same
      · exact absurd asksAgain (not_closed_again run after otherBound asks)
    rcases cause with ⟨_, cancelled⟩ | ⟨waits, result, isInput⟩ | ⟨waits, isInput⟩ | ⟨_, isInput⟩
    · exact .inr (.inr (.inr (deselected_before run (Nat.le_of_lt bound) cancelled)))
    · -- The window waits for the deselection that ends here, and has not waited for anything else.
      subst isInput
      obtain ⟨flight, outcome, finishes, inFlight, ends⟩ := World.finishing_of_delivers delivers rfl
      obtain ⟨client, isTask⟩ := Flight.message_userSelectionCancelled ends
      refine .inr (.inl ⟨_, cancelledBy run bound isTask (.inr ⟨_, rfl⟩) finishes inFlight ?_⟩)
      intro between within present
      have consistent := consistent_of_run run (show between ≤ run.length by omega)
      have fits := consistent.fits flight present
      rw [isTask] at fits
      have deselecting := deselecting_before run within (Nat.le_of_lt bound) (.inr ⟨window, waits⟩)
      exact consistent.idle_of_deselecting (fits deselecting).2
    · subst isInput
      obtain ⟨flight, outcome, finishes, inFlight, ends⟩ := World.finishing_of_delivers delivers rfl
      obtain ⟨client, isTask⟩ := Flight.message_sessionCancelled ends
      refine .inl (cancelledBy run bound isTask (.inl ⟨_, rfl⟩) finishes inFlight ?_)
      intro between within present
      refine idle_before_close run bound ?_ within isTask present
      intro other dispatching
      have isClosing : (run.state index).app.core.closing = some (.dispatching other) := dispatching
      simp [isClosing] at waits
    · subst isInput
      obtain ⟨flight, outcome, finishes, _, ends⟩ := World.finishing_of_delivers delivers rfl
      exact .inr (.inr (.inl ⟨flight, finishes, Flight.message_closeTimeout ends⟩))
  · intro index bound cancelled
    exact (consistent_of_run run bound).idle_of_cancelled cancelled

/-! ## A login that is closed -/

def closeLabels : List Label :=
  [.finish 0 (.answered (.ok (.prompt true "Password:"))), .input (.message (.closeRequested 7)) [],
    .finish 0 (.cancelled (.ok ()))]

def closeRun : greeterSystem.Run :=
  TransitionSystem.runOfLabels (startWorld (some sampleAccount) [sampleSession]) loginStart_initial closeLabels
    (by decide +kernel)

theorem close_safe_sample :
    (closeRun.state 2).Asks (closeRun.label 2) (.close 7) ∧
    ∀ other < closeRun.length, ∀ again,
      (closeRun.state other).Asks (closeRun.label other) (.close again) → other = 2 := by
  have closes : (closeRun.state 2).Asks (closeRun.label 2) (.close 7) := World.asks_iff.mpr (by decide +kernel)
  exact ⟨closes, ((close_safe closeRun).1 2 (by decide) 7 closes).2.1⟩

end Genkan.Greeter
