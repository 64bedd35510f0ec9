import Genkan.Greeter.Moves
import Genkan.Foundations.Lists

/-! # What is in flight

Of the tasks whose answers count there is at most one of a kind in flight, and it belongs to the phase
and to the attempt that wait for it.
-/

namespace Genkan.Greeter

open Foundations App

/-! ## Tasks and the messages that end them -/

inductive Kind where
  | authentication
  | selection
  | discovery
  | other
  deriving DecidableEq, Repr

def Task.kind : Task → Kind
  | .begin _ _ _ | .restart _ _ _ | .exchange _ _ _ => .authentication
  | .cancelForUserSelection _ _ => .selection
  | .discoverAccounts => .discovery
  | .cancelForClose _ _ | .userSelectionCancellationSlow _ | .closeTimeout _ | .executePower _ => .other

/-- The kind of the tasks that end with the message. -/
def Input.kind : Input → Kind
  | .message (.authResult _ _) => .authentication
  | .message (.userSelectionCancelled _ _) => .selection
  | .message (.accountsResult _) => .discovery
  | _ => .other

theorem kind_of_message {flight : Flight} {outcome : Outcome} {message : Message}
    (ends : flight.message outcome = some message) : (Input.message message).kind = flight.task.kind := by
  obtain ⟨serial, task⟩ := flight
  cases task <;> cases outcome <;> simp only [Flight.message, reduceCtorEq, Option.some.injEq] at ends <;>
    subst ends <;> rfl

def Task.isCreation : Task → Bool
  | .begin _ _ _ | .restart _ _ _ => true
  | _ => false

def Phase.isActive : Phase → Bool
  | .creatingSession | .authenticating | .startingSession => true
  | _ => false

/-! ## Invariants -/

/-- Answers of greetd still get through. -/
def App.Core.Listens (core : Core) : Prop :=
  core.closing = none ∨ ∃ window, core.closing = some (.waitingForClient window)

/-- The task in flight is one that the state allows for. -/
def Task.Fits (core : Core) : Task → Prop
  | .begin _ attempt _ | .restart _ _ attempt =>
    core.phase = .creatingSession ∧ core.client = none ∧ core.selectionSessionCancelled = false ∧
      (∀ window, core.closing ≠ some (.cancelling window)) ∧
      (core.Listens → attempt = core.conversation.attempt)
  | .exchange _ _ attempt =>
    core.Listens → attempt = core.conversation.attempt ∧ core.phase.isActive = true
  | .cancelForUserSelection _ attempt =>
    core.closing = none ∨ (∃ window, core.closing = some (.waitingForUserSelectionCancellation window)) →
      attempt = core.conversation.attempt ∧ core.phase = .cancellingForUserSelection
  | .discoverAccounts => core.closing = none → core.phase = .discoveringUsers
  | .cancelForClose _ _ =>
    ∃ window, core.closing = some (.cancelling window) ∨ core.closing = some (.dispatching window)
  | .closeTimeout _ => core.closing ≠ none
  | .userSelectionCancellationSlow _ | .executePower _ => True

structure App.Core.Settled (core : Core) : Prop where
  nameless : core.username = "" → core.client = none ∧ core.phase.isActive = false
  leaving : core.phase = .cancellingForUserSelection ∨ core.phase = .userSelectionCancellationFailed →
    core.username = ""
  cancelled : core.selectionSessionCancelled = true → core.phase = .selectingUser ∧ core.username = ""
  waiting : core.conversation.status = .waiting → core.phase = .waitingForInput
  unconnected : ∀ window,
    core.closing = some (.waitingForClient window) ∨ core.closing = some (.cancelling window) → core.client = none

/-- A message that ends a task ends one that was in flight. -/
def Delivered (core : Core) (input : Input) : Prop :=
  input.kind ≠ .other → ∃ task : Task, task.kind = input.kind ∧ task.Fits core

/-- The phases in which an answer of the kind is waited for. -/
def Kind.Awaited (phase : Phase) : Kind → Prop
  | .authentication => phase.isActive = true
  | .selection => phase = .cancellingForUserSelection
  | .discovery => phase = .discoveringUsers
  | .other => True

theorem Task.Fits.awaited {core : Core} {task : Task} (unclosed : core.closing = none) (fits : task.Fits core) :
    task.kind.Awaited core.phase := by
  cases task with
  | begin | restart =>
    show core.phase.isActive = true
    rw [fits.1]
    rfl
  | exchange => exact (fits (.inl unclosed)).2
  | cancelForUserSelection => exact (fits (.inl unclosed)).2
  | discoverAccounts => exact fits unclosed
  | cancelForClose | userSelectionCancellationSlow | closeTimeout | executePower => trivial

theorem Delivered.awaited {core : Core} {input : Input} (unclosed : core.closing = none)
    (delivered : Delivered core input) : input.kind.Awaited core.phase := by
  by_cases isOther : input.kind = .other
  · rw [isOther]
    trivial
  · obtain ⟨task, isKind, fits⟩ := delivered isOther
    rw [← isKind]
    exact fits.awaited unclosed

theorem Answer.settled {core next : Core} {response : Auth.Response} {actions : List Action}
    (answer : Answer core response next actions) (settled : core.Settled) (active : core.phase.isActive = true) :
    next.Settled := by
  obtain ⟨nameless, leaving, cancelled, waiting, unconnected⟩ := settled
  cases answer <;> constructor <;> grind -linarith [Phase.isActive]

theorem Move.settled {core next : Core} {input : Input} {actions : List Action}
    (move : Move core input next actions) (settled : core.Settled) (delivered : Delivered core input) :
    next.Settled := by
  obtain ⟨nameless, leaving, cancelled, waiting, unconnected⟩ := settled
  cases move with
  | kept status | selects | abandons _ _ status | closes | awaitsSelection | closesSelection | closesSession
  | expires _ _ _ status => constructor <;> grind -linarith
  | awaitsClient | cancels _ _ status => constructor <;> grind -linarith
  | fails unclosed cause status =>
    have before : core.phase = .waitingForInput ∨ core.phase = .discoveringUsers := by
      rcases cause with waits | ⟨result, isInput⟩
      · exact .inl (waiting waits)
      · subst isInput
        exact .inr (delivered.awaited unclosed)
    constructor <;> grind -linarith [Phase.isActive]
  | breaks unclosed isInput status =>
    subst isInput
    have active : core.phase.isActive = true := delivered.awaited unclosed
    constructor <;> grind -linarith [Phase.isActive]
  | lists unclosed isInput status =>
    subst isInput
    have before : core.phase = .discoveringUsers := delivered.awaited unclosed
    constructor <;> grind -linarith [Phase.isActive]
  | begins unclosed cause named begun starts => constructor <;> grind -linarith
  | discovers unclosed failed nameless' status => constructor <;> grind -linarith [Phase.isActive]
  | restarts unclosed failed named begun => constructor <;> grind -linarith
  | changes unclosed before begun => constructor <;> grind -linarith [Phase.isActive]
  | deselects unclosed isInput before status | resists unclosed isInput before status =>
    constructor <;> grind -linarith [Phase.isActive]
  | retries unclosed before begun => constructor <;> grind -linarith [Phase.isActive]
  | submits unclosed waits connected status => constructor <;> grind -linarith [Phase.isActive]
  | answered unclosed isInput answers =>
    subst isInput
    have active : core.phase.isActive = true := delivered.awaited unclosed
    refine answers.settled ?_ active
    constructor <;> grind -linarith

/-- A move keeps what is in flight fitting, except for what it ends. -/
theorem Move.fits {core next : Core} {input : Input} {actions : List Action} (move : Move core input next actions)
    (settled : core.Settled) (delivered : Delivered core input) {task : Task} (fits : task.Fits core)
    (goesOn : task.kind = .other ∨ task.kind ≠ input.kind) : task.Fits next := by
  have discovering : ∀ result, core.closing = none → input = .message (.accountsResult result) →
      core.phase = .discoveringUsers := by
    rintro result unclosed rfl
    exact delivered.awaited unclosed
  have active : ∀ attempt result, core.closing = none → input = .message (.authResult attempt result) →
      core.phase.isActive = true := by
    rintro attempt result unclosed rfl
    exact delivered.awaited unclosed
  obtain ⟨nameless, leaving, cancelled, waiting, unconnected⟩ := settled
  cases task with
  | userSelectionCancellationSlow | executePower => trivial
  | closeTimeout window =>
    simp only [Task.Fits] at fits ⊢
    cases move with
    | answered unclosed => exact absurd unclosed fits
    | _ => first | exact fits | grind -linarith
  | begin | restart =>
    have unended : ∀ attempt result, input ≠ .message (.authResult attempt result) := by
      intro attempt result isInput
      simp [isInput, Task.kind, Input.kind] at goesOn
    simp only [Task.Fits, Core.Listens] at fits ⊢
    cases move with
    | answered unclosed isInput => exact absurd isInput (unended _ _)
    | _ => grind -linarith
  | exchange client request attempt =>
    have unended : ∀ attempt result, input ≠ .message (.authResult attempt result) := by
      intro attempt result isInput
      simp [isInput, Task.kind, Input.kind] at goesOn
    simp only [Task.Fits, Core.Listens] at fits ⊢
    cases move with
    | answered unclosed isInput => exact absurd isInput (unended _ _)
    | _ => grind -linarith [Phase.isActive]
  | cancelForClose client window =>
    simp only [Task.Fits] at fits ⊢
    cases move with
    | answered unclosed => simp [unclosed] at fits
    | _ => grind -linarith
  | cancelForUserSelection client attempt =>
    have unended : ∀ attempt result, input ≠ .message (.userSelectionCancelled attempt result) := by
      intro attempt result isInput
      simp [isInput, Task.kind, Input.kind] at goesOn
    simp only [Task.Fits] at fits ⊢
    cases move with
    | answered unclosed isInput =>
      have answers := active _ _ unclosed isInput
      simp [(fits (.inl unclosed)).2, Phase.isActive] at answers
    | breaks unclosed isInput =>
      have answers := active _ _ unclosed isInput
      simp [(fits (.inl unclosed)).2, Phase.isActive] at answers
    | _ => grind -linarith
  | discoverAccounts =>
    have unended : ∀ result, input ≠ .message (.accountsResult result) := by
      intro result isInput
      simp [isInput, Task.kind, Input.kind] at goesOn
    simp only [Task.Fits] at fits ⊢
    cases move with
    | answered unclosed isInput =>
      have answers := active _ _ unclosed isInput
      simp [fits unclosed, Phase.isActive] at answers
    | breaks unclosed isInput =>
      have answers := active _ _ unclosed isInput
      simp [fits unclosed, Phase.isActive] at answers
    | _ => grind -linarith

/-! ## Tasks that are set off -/

/-- A move that sets off two tasks. -/
theorem mem_pair {task first second : Task} :
    Action.perform task ∈ [Action.perform first, .perform second] ↔ task = first ∨ task = second := by
  simp

/-- A task whose answer counts is set off only when the one of its kind is over. -/
theorem Move.launched {core next : Core} {input : Input} {actions : List Action}
    (move : Move core input next actions) (settled : core.Settled) (delivered : Delivered core input) {task : Task}
    (member : .perform task ∈ actions) :
    task.Fits next ∧ (task.kind = .other ∨ task.kind = input.kind ∨
      ∀ other : Task, other.Fits core → other.kind ≠ task.kind) := by
  have unawaited {kind : Kind} (unclosed : core.closing = none) (missing : ¬ kind.Awaited core.phase) :
      ∀ other : Task, other.Fits core → other.kind ≠ kind := by
    intro other fits isKind
    have awaited := fits.awaited unclosed
    rw [isKind] at awaited
    exact missing awaited
  cases move with
  | kept _ _ quiet =>
    obtain ⟨power, isPower⟩ := quiet _ member
    cases isPower
    exact ⟨trivial, .inl rfl⟩
  | selects | fails | lists | deselects | resists | breaks => simp at member
  | closes | closesSelection | closesSession | expires => simp at member
  | begins unclosed cause named begun starts =>
    have before : core.phase = .selectingUser ∨ core.phase = .discoveringUsers := by
      rcases cause with selecting | ⟨result, isInput⟩
      · exact .inl selecting
      · subst isInput
        exact .inr (delivered.awaited unclosed)
    have idle : ¬ Kind.authentication.Awaited core.phase := by
      rcases before with before | before <;> simp [Kind.Awaited, Phase.isActive, before]
    obtain ⟨nameless, isClient, recover, isTask⟩ | ⟨_, isClient, isTask⟩ := starts
    · subst isTask isClient
      cases List.mem_singleton.mp member
      exact ⟨⟨rfl, (settled.nameless nameless).1, rfl, by simp [unclosed], fun _ => rfl⟩,
        .inr (.inr (unawaited unclosed idle))⟩
    · subst isTask isClient
      cases List.mem_singleton.mp member
      exact ⟨⟨rfl, rfl, rfl, by simp [unclosed], fun _ => rfl⟩, .inr (.inr (unawaited unclosed idle))⟩
  | discovers unclosed failed nameless status attempt =>
    cases List.mem_singleton.mp member
    exact ⟨fun _ => rfl, .inr (.inr (unawaited unclosed (by simp [Kind.Awaited, Task.kind, failed])))⟩
  | restarts unclosed failed named begun =>
    cases List.mem_singleton.mp member
    refine ⟨⟨rfl, rfl, ?_, by simp [unclosed], fun _ => rfl⟩,
      .inr (.inr (unawaited unclosed (by simp [Kind.Awaited, Task.kind, Phase.isActive, failed])))⟩
    by_contra cancelled
    have selecting := (settled.cancelled (by simpa using cancelled)).1
    rw [failed] at selecting
    contradiction
  | changes unclosed before begun =>
    cases mem_pair.mp member with
    | inl isCancel =>
      subst isCancel
      refine ⟨fun _ => ⟨rfl, rfl⟩, .inr (.inr (unawaited unclosed ?_))⟩
      cases before with
      | inl waits => simp [Kind.Awaited, Task.kind, waits]
      | inr failed => simp [Kind.Awaited, Task.kind, failed]
    | inr isSlow =>
      subst isSlow
      exact ⟨trivial, .inl rfl⟩
  | retries unclosed before begun =>
    cases mem_pair.mp member with
    | inl isCancel =>
      subst isCancel
      exact ⟨fun _ => ⟨rfl, rfl⟩, .inr (.inr (unawaited unclosed (by simp [Kind.Awaited, Task.kind, before])))⟩
    | inr isSlow =>
      subst isSlow
      exact ⟨trivial, .inl rfl⟩
  | submits unclosed waits connected status attempt =>
    cases List.mem_singleton.mp member
    have before := settled.waiting waits
    have idle : ¬ Kind.authentication.Awaited core.phase := by simp [Kind.Awaited, Phase.isActive, before]
    exact ⟨fun _ => ⟨rfl, rfl⟩, .inr (.inr (unawaited unclosed idle))⟩
  | answered unclosed isInput answers =>
    subst isInput
    have active : core.phase.isActive = true := delivered.awaited unclosed
    cases answers with
    | prompts | exits | fails => simp at member
    | acknowledges =>
      cases List.mem_singleton.mp member
      exact ⟨fun _ => ⟨rfl, active⟩, .inr (.inl rfl)⟩
    | starts =>
      cases List.mem_singleton.mp member
      exact ⟨fun _ => ⟨rfl, rfl⟩, .inr (.inl rfl)⟩
  | abandons waits isInput status =>
    cases List.mem_singleton.mp member
    exact ⟨⟨_, .inl rfl⟩, .inl rfl⟩
  | awaitsSelection unclosed before =>
    cases List.mem_singleton.mp member
    exact ⟨by simp [Task.Fits], .inl rfl⟩
  | awaitsClient unclosed before unconnected =>
    cases List.mem_singleton.mp member
    exact ⟨by simp [Task.Fits], .inl rfl⟩
  | cancels unclosed created status =>
    cases mem_pair.mp member with
    | inl isCancel =>
      subst isCancel
      exact ⟨⟨_, .inl rfl⟩, .inl rfl⟩
    | inr isTimeout =>
      subst isTimeout
      exact ⟨by simp [Task.Fits], .inl rfl⟩

/-- Two tasks that a move sets off are of different kinds. -/
theorem Move.distinct {core next : Core} {input : Input} {actions : List Action}
    (move : Move core input next actions) : (World.tasks actions).Pairwise fun first second =>
      first.kind = second.kind → first.kind = .other := by
  cases move with
  | kept _ _ quiet =>
    refine List.pairwise_of_forall_mem_list ?_
    intro first member _ _ _
    obtain ⟨action, isAction, isTask⟩ := List.mem_filterMap.mp member
    obtain ⟨power, isPower⟩ := quiet action isAction
    subst isPower
    cases isTask
    rfl
  | answered _ _ answers => cases answers <;> simp [World.tasks]
  | _ => simp [World.tasks, cancelForUserSelection, Task.kind]

/-! ## Steps -/

/-- What a step delivers, with what is in flight besides the task that it ends. -/
inductive World.Takes (world : World) : Label → Input → List Flight → Prop where
  | input {input : Input} {discovered : List Session} (outside : input.isOutside = true) :
      Takes world (.input input discovered) input world.flights
  | finish {index : Nat} {outcome : Outcome} {flight : Flight} {message : Message}
      (found : world.flights[index]? = some flight) (ends : flight.message outcome = some message) :
      Takes world (.finish index outcome) (.message message) (world.flights.eraseIdx index)

theorem World.act_takes {world next : World} {label : Label} {actions : List Action}
    (acts : world.act label = some (next, actions)) :
    ∃ input rest, world.delivers label = some input ∧ world.Takes label input rest ∧
      (∃ discovered, world.app.update discovered input = (next.app, actions)) ∧
      next.flights = rest ++ World.numbered world.issued (World.tasks actions) := by
  obtain ⟨input, delivers, isNext⟩ := Option.map_eq_some_iff.mp acts
  refine ⟨input, ?_⟩
  cases label with
  | input sent discovered =>
    simp only [Prod.mk.injEq] at isNext
    obtain ⟨isNext, isActions⟩ := isNext
    subst isNext isActions
    have isInput := delivers
    simp only [World.delivers, Option.ite_none_right_eq_some, Option.some.injEq] at isInput
    obtain ⟨outside, isInput⟩ := isInput
    subst isInput
    exact ⟨_, delivers, .input outside, ⟨discovered, rfl⟩, rfl⟩
  | finish index outcome =>
    simp only [Prod.mk.injEq] at isNext
    obtain ⟨isNext, isActions⟩ := isNext
    subst isNext isActions
    have isInput := delivers
    simp only [World.delivers, Option.map_eq_some_iff, Option.bind_eq_some_iff] at isInput
    obtain ⟨message, ⟨flight, found, ends⟩, isInput⟩ := isInput
    subst isInput
    exact ⟨_, delivers, .finish found ends, ⟨[], rfl⟩, rfl⟩

theorem World.act_moves {world next : World} {label : Label} {actions : List Action}
    (acts : world.act label = some (next, actions)) :
    ∃ input rest, world.delivers label = some input ∧ world.Takes label input rest ∧
      Move world.app.core input next.app.core actions ∧
      next.flights = rest ++ World.numbered world.issued (World.tasks actions) := by
  obtain ⟨input, rest, delivers, takes, ⟨discovered, updates⟩, flights⟩ := World.act_takes acts
  have move := update_moves world.app discovered input
  rw [updates] at move
  exact ⟨input, rest, delivers, takes, move, flights⟩

/-- In flight are tasks that the state allows for, and at most one of a kind that counts. -/
structure World.Consistent (world : World) : Prop where
  settled : world.app.core.Settled
  fits : ∀ flight ∈ world.flights, flight.task.Fits world.app.core
  single : world.flights.Pairwise fun first second =>
    first.task.kind = second.task.kind → first.task.kind = .other

theorem Input.kind_of_outside {input : Input} (outside : input.isOutside = true) : input.kind = .other := by
  cases input with
  | message message =>
    cases message <;> first
      | rfl
      | contradiction
  | navigateFocus | navigateModal | escape => rfl

theorem symmetric (first second : Flight)
    (apart : first.task.kind = second.task.kind → first.task.kind = .other) :
    second.task.kind = first.task.kind → second.task.kind = .other := by
  intro same
  exact same.trans (apart same.symm)

theorem World.Consistent.takes {world : World} {label : Label} {input : Input} {rest : List Flight}
    (consistent : world.Consistent) (takes : world.Takes label input rest) :
    Delivered world.app.core input ∧ rest.Sublist world.flights ∧
      ∀ flight ∈ rest, flight.task.kind = .other ∨ flight.task.kind ≠ input.kind := by
  cases takes with
  | input outside =>
    have isOther := Input.kind_of_outside outside
    refine ⟨fun counts => absurd isOther counts, List.Sublist.refl _, ?_⟩
    intro flight _
    rw [isOther]
    exact Decidable.em _
  | @finish index outcome flight message found ends =>
    have isKind := kind_of_message ends
    obtain ⟨bound, isFlight⟩ := List.getElem?_eq_some_iff.mp found
    refine ⟨fun _ => ⟨flight.task, isKind.symm, ?_⟩, List.eraseIdx_sublist .., ?_⟩
    · exact consistent.fits flight (isFlight ▸ List.getElem_mem bound)
    · -- Of its kind the task that ends was the only one.
      intro other member
      rw [isKind]
      by_cases same : flight.task.kind = other.task.kind
      · left
        rw [← same]
        exact Lists.related_of_mem_eraseIdx symmetric consistent.single found member same
      · exact .inr fun isSame => same isSame.symm

@[simp] theorem World.numbered_tasks (issued : Nat) (tasks : List Task) :
    (World.numbered issued tasks).map Flight.task = tasks := by
  apply List.ext_getElem?
  intro index
  simp [World.numbered, Option.map_map, Function.comp_def]

theorem World.perform_of_numbered {issued : Nat} {actions : List Action} {flight : Flight}
    (member : flight ∈ World.numbered issued (World.tasks actions)) : .perform flight.task ∈ actions := by
  have isTask : flight.task ∈ World.tasks actions := by
    rw [← World.numbered_tasks issued (World.tasks actions)]
    exact List.mem_map_of_mem member
  obtain ⟨action, isAction, isPerformed⟩ := List.mem_filterMap.mp isTask
  cases action with
  | perform task =>
    cases isPerformed
    exact isAction
  | close | exit => contradiction

theorem World.Consistent.act {world next : World} {label : Label} {actions : List Action}
    (consistent : world.Consistent) (acts : world.act label = some (next, actions)) : next.Consistent := by
  obtain ⟨input, rest, _, takes, move, isFlights⟩ := World.act_moves acts
  obtain ⟨delivered, sublist, goesOn⟩ := consistent.takes takes
  have launched {flight : Flight} (member : flight ∈ World.numbered world.issued (World.tasks actions)) :
      .perform flight.task ∈ actions := World.perform_of_numbered member
  refine ⟨move.settled consistent.settled delivered, ?_, ?_⟩
  · intro flight member
    rw [isFlights] at member
    cases List.mem_append.mp member with
    | inl isOld =>
      have fits := consistent.fits flight (sublist.subset isOld)
      exact move.fits consistent.settled delivered fits (goesOn flight isOld)
    | inr isNew => exact (move.launched consistent.settled delivered (launched isNew)).1
  · -- Old tasks and new ones are each apart, and a new one is of no kind that goes on.
    rw [isFlights, List.pairwise_append]
    refine ⟨consistent.single.sublist sublist, ?_, ?_⟩
    · have distinct := move.distinct
      rw [← World.numbered_tasks world.issued (World.tasks actions), List.pairwise_map] at distinct
      exact distinct
    · intro old isOld new isNew same
      rcases (move.launched consistent.settled delivered (launched isNew)).2 with isOther | isInput | none
      · exact same.trans isOther
      · cases goesOn old isOld with
        | inl isOther => exact isOther
        | inr differs => exact absurd (same.trans isInput) differs
      · exact absurd same (none old.task (consistent.fits old (sublist.subset isOld)))

theorem App.new_settled (account : Option Account) (sessions : List Session) :
    (App.new account sessions).1.core.Settled ∧
      ((App.new account sessions).2 = [] ∨
        ∃ task, (App.new account sessions).2 = [.perform task] ∧ task.Fits (App.new account sessions).1.core) := by
  cases sessions with
  | nil =>
    refine ⟨?_, .inl rfl⟩
    simp only [App.new, List.head?_nil, Option.isNone_none, if_true, focusFirst_core]
    constructor <;> simp [core, Phase.isActive, Conversation.new]
  | cons session sessions =>
    cases account with
    | none =>
      refine ⟨?_, .inr ⟨_, rfl, fun _ => rfl⟩⟩
      constructor <;> simp [App.new, core, Phase.isActive, Conversation.new]
    | some account =>
      refine ⟨?_, .inr ⟨_, rfl, rfl, rfl, rfl, by simp [App.new, core], fun _ => rfl⟩⟩
      constructor <;> simp [App.new, core, Conversation.new, account.named]

theorem World.consistent_of_reachable {world : World} (reachable : greeterSystem.Reachable world) :
    world.Consistent := by
  refine reachable.invariant World.Consistent ?_ ?_
  · rintro start ⟨account, sessions, isStart⟩
    rw [isStart]
    obtain ⟨settled, none | ⟨task, isTask, fits⟩⟩ := App.new_settled account sessions
    · exact ⟨settled, by simp [none, World.tasks, World.numbered], by simp [none, World.tasks, World.numbered]⟩
    · refine ⟨settled, ?_, ?_⟩
      · simpa [isTask, World.tasks, World.numbered] using fits
      · simp [isTask, World.tasks, World.numbered]
  · intro world label next consistent steps
    obtain ⟨acted, acts, isNext⟩ := Option.map_eq_some_iff.mp steps
    exact isNext ▸ consistent.act acts

/-! ## Runs -/

/-- The step asks the runtime for the action. -/
def World.Asks (world : World) (label : Label) (action : Action) : Prop :=
  ∃ next actions, world.act label = some (next, actions) ∧ action ∈ actions

theorem World.asks_iff {world : World} {label : Label} {action : Action} :
    world.Asks label action ↔ ((world.act label).any fun acted => acted.2.contains action) = true := by
  simp only [Option.any_eq_true, List.contains_iff_mem]
  constructor
  · rintro ⟨next, actions, acts, member⟩
    exact ⟨(next, actions), acts, member⟩
  · rintro ⟨⟨next, actions⟩, acts, member⟩
    exact ⟨next, actions, acts, member⟩

/-- The task that the step ends. -/
def World.finishing (world : World) : Label → Option Flight
  | .input _ _ => none
  | .finish index _ => world.flights[index]?

variable (run : greeterSystem.Run)

theorem acts_of_run {index : Nat} (bound : index < run.length) :
    ∃ actions, (run.state index).act (run.label index) = some (run.state (index + 1), actions) := by
  obtain ⟨⟨next, actions⟩, acts, isNext⟩ := Option.map_eq_some_iff.mp (run.steps index bound)
  exact ⟨actions, isNext ▸ acts⟩

theorem moves_of_run {index : Nat} (bound : index < run.length) :
    ∃ input actions, (run.state index).delivers (run.label index) = some input ∧
      (run.state index).act (run.label index) = some (run.state (index + 1), actions) ∧
      Delivered (run.state index).app.core input ∧
      Move (run.state index).app.core input (run.state (index + 1)).app.core actions := by
  obtain ⟨actions, acts⟩ := acts_of_run run bound
  obtain ⟨input, rest, delivers, takes, move, _⟩ := World.act_moves acts
  have consistent := World.consistent_of_reachable (run.reachable index (Nat.le_of_lt bound))
  exact ⟨input, actions, delivers, acts, (consistent.takes takes).1, move⟩

theorem asks_of_run {index : Nat} (bound : index < run.length) {action : Action}
    (asks : (run.state index).Asks (run.label index) action) :
    ∃ input actions, (run.state index).delivers (run.label index) = some input ∧
      (run.state index).act (run.label index) = some (run.state (index + 1), actions) ∧ action ∈ actions ∧
      Move (run.state index).app.core input (run.state (index + 1)).app.core actions := by
  obtain ⟨next, asked, acted, member⟩ := asks
  obtain ⟨input, actions, delivers, acts, _, move⟩ := moves_of_run run bound
  have isActions := (Prod.mk.inj (Option.some.inj (acted.symm.trans acts))).2
  exact ⟨input, actions, delivers, acts, isActions ▸ member, move⟩

end Genkan.Greeter
