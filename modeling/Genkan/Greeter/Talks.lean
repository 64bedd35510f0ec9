import Genkan.Greeter.Grounds
import Mathlib.Data.List.InsertIdx

/-! # The greeter keeps to the protocol of greetd

The program with the exchanges of its tasks spread over time: connections are refused or made, requests are
sent and answered, and everything else happens in between.  Until the window is to close, every request
that goes out is one that the protocol allows, and no other is still unanswered then.
-/

namespace Genkan.Greeter

open Foundations App

/-! ## The program with its exchanges -/

/-- How far a task is. -/
inductive Stage where
  | elsewhere
  | talking (talk : Talk Outcome)
  | awaiting (link : Link) (request : Ipc.Request) (next : Except String Ipc.Response → Talk Outcome)

structure Talker where
  flight : Flight
  stage : Stage

def Talker.start (socket : Option String) (flight : Flight) : Talker where
  flight := flight
  stage :=
    match flight.task.talk flight.serial socket with
    | none => .elsewhere
    | some talk => .talking talk

structure Talks where
  app : App
  talkers : List Talker
  issued : Nat
  lines : Lines

inductive TalkLabel where
  | input (input : Input) (discovered : List Session)
  /-- A task that does not talk to greetd ends. -/
  | finish (index : Nat) (outcome : Outcome)
  /-- A task that has talked to greetd ends. -/
  | conclude (index : Nat)
  | connect (index : Nat) (result : Except String Unit)
  | send (index : Nat)
  | receive (index : Nat) (answer : Except String Ipc.Response)

namespace Talks

def world (talks : Talks) : World where
  app := talks.app
  flights := talks.talkers.map Talker.flight
  issued := talks.issued

/-- A step of the program, besides which the tasks stay where they are. -/
def act (socket : Option String) (talks : Talks) (label : Label) : Option Talks :=
  (talks.world.act label).map fun (world, actions) =>
    let rest :=
      match label with
      | .input _ _ => talks.talkers
      | .finish index _ => talks.talkers.eraseIdx index
    { talks with
      app := world.app
      issued := world.issued
      talkers := rest ++ (World.numbered talks.issued (World.tasks actions)).map (Talker.start socket) }

/-- Another task is in the middle of an exchange on the connection, which it has locked. -/
def locked (talks : Talks) (link : Link) : Bool :=
  talks.talkers.any fun talker =>
    match talker.stage with
    | .awaiting other _ _ => other == link
    | _ => false

def step (socket : Option String) (talks : Talks) : TalkLabel → Option Talks
  | .input input discovered => talks.act socket (.input input discovered)
  | .finish index outcome =>
    match talks.talkers[index]? with
    | some ⟨_, .elsewhere⟩ => talks.act socket (.finish index outcome)
    | _ => none
  | .conclude index =>
    match talks.talkers[index]? with
    | some ⟨_, .talking (.done outcome)⟩ => talks.act socket (.finish index outcome)
    | _ => none
  | .connect index result =>
    match talks.talkers[index]? with
    | some ⟨flight, .talking (.ask (.connect _ link) next)⟩ =>
      some { talks with
        talkers := talks.talkers.set index ⟨flight, .talking (next result)⟩
        lines := talks.lines.connected flight.serial link result }
    | _ => none
  | .send index =>
    match talks.talkers[index]? with
    | some ⟨flight, .talking (.ask (.exchange link request) next)⟩ =>
      if talks.locked link then none
      else some { talks with talkers := talks.talkers.set index ⟨flight, .awaiting link request next⟩ }
    | _ => none
  | .receive index answer =>
    match talks.talkers[index]? with
    | some ⟨flight, .awaiting link request next⟩ =>
      some { talks with
        talkers := talks.talkers.set index ⟨flight, .talking (next answer)⟩
        lines := talks.lines.exchanged flight.serial link request answer }
    | _ => none

def Starts (socket : Option String) (talks : Talks) : Prop :=
  ∃ account sessions, talks =
    { app := (App.new account sessions).1
      talkers := (World.numbered 0 (World.tasks (App.new account sessions).2)).map (Talker.start socket)
      issued := (World.tasks (App.new account sessions).2).length
      lines := { wire := fun _ => .unopened, clearing := .unknown } }

/-- The request that the next step sends, with the serial number of its task. -/
def sending (talks : Talks) (index : Nat) : Option (Nat × Link × Ipc.Request) :=
  match talks.talkers[index]? with
  | some ⟨flight, .talking (.ask (.exchange link request) _)⟩ => some (flight.serial, link, request)
  | _ => none

/-- The requests that greetd has not answered yet. -/
def unanswered (talks : Talks) : List Ipc.Request :=
  talks.talkers.filterMap fun talker =>
    match talker.stage with
    | .awaiting _ request _ => some request
    | _ => none

end Talks

def talkSystem (socket : Option String) : TransitionSystem Talks TalkLabel :=
  .ofPartial (Talks.Starts socket) (Talks.step socket)

/-! ## Steps -/

/-- What is left of the program of a task. -/
def Stage.program : Stage → Option (Talk Outcome)
  | .elsewhere => none
  | .talking talk => some talk
  | .awaiting link request next => some (.ask (.exchange link request) next)

namespace Talks

variable {socket : Option String} {talks next : Talks}

/-- A task that ends is through with its program, if it has one. -/
def Ends (talks : Talks) : Label → Prop
  | .input _ _ => True
  | .finish index outcome => ∃ talker, talks.talkers[index]? = some talker ∧
      (talker.stage.program = none ∨ talker.stage.program = some (.done outcome))

inductive Moves (socket : Option String) (talks : Talks) : Talks → Prop where
  | acts {label : Label} {next : Talks} (acts : talks.act socket label = some next) (ends : talks.Ends label) :
      Moves socket talks next
  | sends {index : Nat} {talker : Talker} {stage : Stage} (found : talks.talkers[index]? = some talker)
      (same : stage.program = talker.stage.program) :
      Moves socket talks { talks with talkers := talks.talkers.set index { talker with stage } }
  | answers {index : Nat} {talker : Talker} {stage : Stage} (command : Command) (answer : command.Answer)
      {rest : command.Answer → Talk Outcome} (found : talks.talkers[index]? = some talker)
      (asks : talker.stage.program = some (.ask command rest)) (goesOn : stage.program = some (rest answer)) :
      Moves socket talks
        { talks with
          talkers := talks.talkers.set index { talker with stage }
          lines := (conduct talker.flight.serial talks.app.username).advance talks.lines command answer }

theorem step_moves {label : TalkLabel} (steps : talks.step socket label = some next) :
    talks.Moves socket next := by
  cases label with
  | input input discovered => exact .acts steps trivial
  | finish index outcome =>
    simp only [step] at steps
    split at steps
    next flight found => exact .acts steps ⟨_, found, .inl rfl⟩
    next => contradiction
  | conclude index =>
    simp only [step] at steps
    split at steps
    next flight outcome found => exact .acts steps ⟨_, found, .inr rfl⟩
    next => contradiction
  | connect index result =>
    simp only [step] at steps
    split at steps
    next flight socketPath link rest found =>
      cases steps
      exact .answers (.connect socketPath link) result found rfl rfl
    next => contradiction
  | send index =>
    simp only [step] at steps
    split at steps
    next flight link request rest found =>
      split at steps
      next => contradiction
      next =>
        cases steps
        exact .sends found rfl
    next => contradiction
  | receive index answer =>
    simp only [step] at steps
    split at steps
    next flight link request rest found =>
      cases steps
      exact .answers (.exchange link request) answer found rfl rfl
    next => contradiction

theorem map_start (socket : Option String) (flights : List Flight) :
    (flights.map (Talker.start socket)).map Talker.flight = flights := by
  simp [Talker.start, Function.comp_def]

theorem act_world {label : Label} (acts : talks.act socket label = some next) :
    ∃ actions, talks.world.act label = some (next.world, actions) := by
  obtain ⟨⟨world, actions⟩, acted, isNext⟩ := Option.map_eq_some_iff.mp acts
  refine ⟨actions, acted.trans ?_⟩
  subst isNext
  obtain ⟨input, delivers, isWorld⟩ := Option.map_eq_some_iff.mp acted
  cases label with
  | input input discovered =>
    simp only [World.launch, Prod.mk.injEq] at isWorld
    obtain ⟨isWorld, isActions⟩ := isWorld
    subst isWorld isActions
    simp only [Talks.world, List.map_append, map_start]
  | finish index outcome =>
    simp only [World.launch, Prod.mk.injEq] at isWorld
    obtain ⟨isWorld, isActions⟩ := isWorld
    subst isWorld isActions
    simp only [Talks.world, List.map_append, map_start, List.eraseIdx_map]

theorem world_flight {index : Nat} {talker : Talker} (found : talks.talkers[index]? = some talker) :
    talks.world.flights[index]? = some talker.flight := by
  simp [world, found]

theorem set_world {index : Nat} {talker : Talker} {stage : Stage} {lines : Lines}
    (found : talks.talkers[index]? = some talker) :
    { talks with talkers := talks.talkers.set index { talker with stage }, lines }.world = talks.world := by
  simp only [world, World.mk.injEq, true_and, and_true]
  exact Lists.map_set_of_eq found rfl

/-- Seen from the program, an exchange is no step at all: what its tasks do is a run of the program. -/
theorem world_reachable (reachable : (talkSystem socket).Reachable talks) :
    greeterSystem.Reachable talks.world := by
  refine reachable.project Talks.world ?_ ?_
  · rintro start ⟨account, sessions, isStart⟩
    subst isStart
    exact ⟨account, sessions, by simp only [world, map_start]⟩
  · intro before label after _ _ steps
    cases step_moves steps with
    | @acts label _ acted =>
      obtain ⟨actions, acts⟩ := act_world acted
      exact .inr ⟨label, congrArg (Option.map Prod.fst) acts⟩
    | sends found => exact .inl (set_world found)
    | answers _ _ found => exact .inl (set_world found)

theorem consistent (reachable : (talkSystem socket).Reachable talks) : talks.world.Consistent :=
  World.consistent_of_reachable (world_reachable reachable)

end Talks

/-! ## What holds of every task -/

theorem Task.Fits.talking {core : Core} {task : Task} (fits : task.Fits core) (unclosed : core.closing = none)
    (talks : task.talks = true) : task.kind = .authentication ∨ task.kind = .selection := by
  cases task with
  | begin | restart | exchange => exact .inl rfl
  | cancelForUserSelection => exact .inr rfl
  | cancelForClose =>
    obtain ⟨window, closing⟩ := fits
    simp [unclosed] at closing
  | userSelectionCancellationSlow | closeTimeout | discoverAccounts | executePower => contradiction

/-- Until the window is to close, one task at most talks to greetd. -/
theorem World.Consistent.alone {world : World} (consistent : world.Consistent) (unclosed : world.app.closing = none)
    {index position : Nat} {flight other : Flight} (found : world.flights[index]? = some flight)
    (isOther : world.flights[position]? = some other) (apart : position ≠ index)
    (talks : flight.task.talks = true) : other.task.talks = false := by
  by_contra talksToo
  have fits := consistent.fits flight (List.mem_of_getElem? found)
  have fitsToo := consistent.fits other (List.mem_of_getElem? isOther)
  have awaited := fits.awaited unclosed
  have awaitedToo := fitsToo.awaited unclosed
  have related := Lists.related_of_mem_eraseIdx symmetric consistent.single found
    (List.mem_eraseIdx_iff_getElem?.mpr ⟨position, apart, isOther⟩)
  rcases fits.talking unclosed talks with isKind | isKind <;>
    rcases fitsToo.talking unclosed (by simpa using talksToo) with isKindToo | isKindToo <;>
    simp [isKind, isKindToo, Kind.Awaited] at related awaited awaitedToo
  · simp [awaitedToo, Phase.isActive] at awaited
  · simp [awaited, Phase.isActive] at awaitedToo

structure Talker.Safe (core : Core) (lines : Lines) (talker : Talker) : Prop where
  present : talker.stage.program.isSome = talker.flight.task.talks
  follows : ∀ talk, talker.stage.program = some talk →
    talk.Follows (conduct talker.flight.serial core.username) (talker.flight.task.Concludes talker.flight.serial)
      lines
  rests : talker.flight.task.Rests core
  /-- A task that is one exchange has it before it or behind it. -/
  single : ∀ client request attempt, talker.flight.task = .exchange client request attempt →
    talker.stage.program = talker.flight.task.talk talker.flight.serial none ∨
      ∃ outcome, talker.stage.program = some (.done outcome)

theorem Talker.Safe.silent {core after : Core} {lines : Lines} {other : Lines} {talker : Talker}
    (safe : talker.Safe core lines) (silent : talker.flight.task.talks = false) : talker.Safe after other := by
  have none : talker.stage.program = none := by
    have present := safe.present
    rw [silent] at present
    simpa using present
  refine ⟨safe.present, ?_, ?_, safe.single⟩
  · intro talk isTalk
    rw [none] at isTalk
    contradiction
  · obtain ⟨⟨serial, task⟩, stage⟩ := talker
    cases task with
    | exchange => contradiction
    | _ => trivial

theorem Talker.Safe.exchanging {core : Core} {lines : Lines} {talker : Talker} (safe : talker.Safe core lines)
    {client : Client} {request : Auth.Request} {attempt : Attempt}
    (isExchange : talker.flight.task = .exchange client request attempt) {command : Command}
    {rest : command.Answer → Talk Outcome} (asks : talker.stage.program = some (.ask command rest)) :
    command = .exchange (.kept client) request.toGreetd ∧ ∀ answer, ∃ outcome, rest answer = .done outcome := by
  rcases safe.single client request attempt isExchange with whole | ⟨outcome, done⟩
  · have same := asks.symm.trans whole
    rw [isExchange] at same
    change some (Interaction.ask command rest) =
      some (Interaction.ask (.exchange (.kept client) request.toGreetd) _) at same
    cases same
    exact ⟨rfl, fun answer => ⟨_, rfl⟩⟩
  · simp [asks] at done

theorem Talker.Safe.steady {core after : Core} {lines : Lines} {talker : Talker} (safe : talker.Safe core lines)
    (username : after.username = core.username) (client : after.client = core.client)
    (phase : after.phase = core.phase) : talker.Safe after lines := by
  obtain ⟨present, follows, rests, single⟩ := safe
  refine ⟨present, ?_, ?_, single⟩
  · rw [username]
    exact follows
  · obtain ⟨⟨serial, task⟩, stage⟩ := talker
    cases task with
    | exchange =>
      simp only [Task.Rests, client, phase]
      exact rests
    | _ => trivial

theorem Talker.start_safe {core : Core} {lines : Lines} (socket : Option String) {flight : Flight}
    (starts : flight.task.Starts core.username lines) (rests : flight.task.Rests core) :
    (Talker.start socket flight).Safe core lines := by
  have program : (Talker.start socket flight).stage.program = flight.task.talk flight.serial socket := by
    simp only [Talker.start]
    cases flight.task.talk flight.serial socket <;> rfl
  refine ⟨?_, ?_, rests, ?_⟩
  · rw [program]
    exact Task.talk_isSome _ _ _
  · intro talk isTalk
    rw [program] at isTalk
    exact Task.talk_follows isTalk starts
  · intro client request attempt isExchange
    left
    rw [program]
    change flight.task = _ at isExchange
    change _ = flight.task.talk flight.serial none
    rw [isExchange]
    rfl

/-! ## Steps of the program -/

theorem Input.backed_of_outside {core : Core} {lines : Lines} {input : Input} (outside : input.isOutside = true) :
    input.Backed core lines := by
  cases input with
  | message message =>
    cases message with
    | authResult | userSelectionCancelled => contradiction
    | _ => trivial
  | _ => trivial

/-- What a task ends with is what it has found on the connections. -/
theorem Flight.told {core : Core} {lines : Lines} {flight : Flight} {outcome : Outcome} {message : Message}
    (ends : flight.message outcome = some message)
    (concludes : flight.task.talks = true → flight.task.Concludes flight.serial outcome lines)
    (rests : flight.task.Rests core) : (Input.message message).Backed core lines := by
  obtain ⟨serial, task⟩ := flight
  cases task with
  | begin username attempt recover | restart client username attempt =>
    cases outcome with
    | answered result =>
      cases ends
      cases result with
      | error error => trivial
      | ok response =>
        obtain ⟨answer, isWire, isAnswer⟩ := concludes rfl
        exact ⟨_, _, answer, rfl, isWire, isAnswer, by simp, by simp⟩
    | cancelled | elapsed | discovered | executed => contradiction
  | exchange client request attempt =>
    cases outcome with
    | answered result =>
      cases ends
      cases result with
      | error error => trivial
      | ok response =>
        obtain ⟨answer, isWire, isAnswer⟩ := concludes rfl
        obtain ⟨isClient, starting⟩ := rests
        refine ⟨client, _, answer, isClient, isWire, isAnswer, ?_, ?_⟩
        · cases request <;> simp [Auth.Request.toGreetd]
        · intro cmd env isStart
          apply starting cmd env
          cases request with
          | postAuthMessageResponse => contradiction
          | startSession => simpa [Auth.Request.toGreetd] using isStart
    | cancelled | elapsed | discovered | executed => contradiction
  | cancelForUserSelection client attempt =>
    cases outcome with
    | cancelled result =>
      cases ends
      cases result with
      | error error => trivial
      | ok _ => exact concludes rfl
    | answered | elapsed | discovered | executed => contradiction
  | cancelForClose | userSelectionCancellationSlow | closeTimeout | discoverAccounts | executePower =>
    cases outcome <;> first
      | contradiction
      | (cases ends; trivial)

/-- Until the window is to close, the state is backed by the connections, and no task breaks the protocol. -/
structure Talks.Conforming (talks : Talks) : Prop where
  backed : talks.app.core.Backed talks.lines
  safe : ∀ talker ∈ talks.talkers, talker.Safe talks.app.core talks.lines

namespace Talks

variable {socket : Option String} {talks next : Talks}

theorem Conforming.told (conforming : talks.Conforming) {label : Label} {input : Input} {rest : List Flight}
    (ends : talks.Ends label) (takes : talks.world.Takes label input rest) :
    input.Backed talks.app.core talks.lines := by
  cases takes with
  | input outside => exact Input.backed_of_outside outside
  | @finish index outcome flight message found isMessage =>
    obtain ⟨talker, isTalker, through⟩ := ends
    have isFlight : talker.flight = flight :=
      Option.some.inj ((world_flight isTalker).symm.trans found)
    subst isFlight
    have safe := conforming.safe talker (List.mem_of_getElem? isTalker)
    refine Flight.told isMessage ?_ safe.rests
    intro talks
    rcases through with silent | done
    · have present := safe.present
      simp [silent, talks] at present
    · exact safe.follows _ done

/-- What goes on was in flight before. -/
theorem mem_rest {label : Label} {input : Input} {rest : List Flight} {talker : Talker}
    (takes : talks.world.Takes label input rest)
    (member : talker ∈ match label with
      | .input _ _ => talks.talkers
      | .finish index _ => talks.talkers.eraseIdx index) : talker ∈ talks.talkers ∧ talker.flight ∈ rest := by
  cases takes with
  | input => exact ⟨member, List.mem_map_of_mem member⟩
  | @finish index outcome flight message found isMessage =>
    refine ⟨(List.eraseIdx_sublist ..).subset member, ?_⟩
    simp only [world, List.eraseIdx_map]
    exact List.mem_map_of_mem member

theorem Conforming.act {label : Label} (conforming : talks.Conforming) (consistent : talks.world.Consistent)
    (acts : talks.act socket label = some next) (ends : talks.Ends label) (unclosed : next.app.closing = none) :
    next.Conforming := by
  obtain ⟨⟨world, actions⟩, acted, isNext⟩ := Option.map_eq_some_iff.mp acts
  obtain ⟨input, rest, _, takes, ⟨discovered, updates⟩, _⟩ := World.act_takes acted
  subst isNext
  have move := update_moves talks.app discovered input
  have isUpdate : talks.app.update discovered input = (world.app, actions) := updates
  rw [isUpdate] at move
  have grounds := update_grounds isUpdate
  have told := conforming.told ends takes
  obtain ⟨delivered, _, goesOn⟩ := consistent.takes takes
  have settled := consistent.settled
  have open_ : talks.app.core.closing = none := move.unclosed unclosed
  refine ⟨move.backed settled delivered grounds conforming.backed told unclosed, ?_⟩
  intro talker member
  rcases List.mem_append.mp member with isOld | isNew
  · obtain ⟨before, inRest⟩ := mem_rest takes isOld
    have safe := conforming.safe talker before
    cases silent : talker.flight.task.talks with
    | false => exact safe.silent silent
    | true =>
      have fits := consistent.fits talker.flight (List.mem_map_of_mem before)
      have isKind := fits.talking open_ silent
      have counts : talker.flight.task.kind ≠ input.kind := by
        rcases goesOn talker.flight inRest with isOther | apart
        · simp [isOther] at isKind
        · exact apart
      obtain ⟨username, client, phase⟩ := move.steady settled delivered unclosed fits isKind counts
      exact safe.steady username client phase
  · obtain ⟨flight, isFlight, isTalker⟩ := List.mem_map.mp isNew
    subst isTalker
    obtain ⟨starts, rests⟩ := move.starts settled delivered grounds conforming.backed told unclosed
      (World.perform_of_numbered isFlight)
    exact Talker.start_safe socket starts rests

/-- The connection that is held is used by a single exchange only, which does not cancel it. -/
theorem Conforming.answers {index : Nat} {talker : Talker} {stage : Stage} {command : Command}
    {answer : command.Answer} {rest : command.Answer → Talk Outcome} (conforming : talks.Conforming)
    (consistent : talks.world.Consistent) (unclosed : talks.app.closing = none)
    (found : talks.talkers[index]? = some talker) (asks : talker.stage.program = some (.ask command rest))
    (goesOn : stage.program = some (rest answer)) :
    Conforming { talks with
      talkers := talks.talkers.set index { talker with stage }
      lines := (conduct talker.flight.serial talks.app.username).advance talks.lines command answer } := by
  have member := List.mem_of_getElem? found
  have safe := conforming.safe talker member
  have speaks : talker.flight.task.talks = true := by
    rw [← safe.present, asks]
    rfl
  have fits := consistent.fits talker.flight (List.mem_map_of_mem member)
  have awaited : talker.flight.task.kind.Awaited talks.app.phase := fits.awaited unclosed
  have isKind := fits.talking unclosed speaks
  have settled := consistent.settled
  have busy : talks.app.phase.isActive = true ∨ talks.app.phase = .cancellingForUserSelection := by
    rcases isKind with isKind | isKind <;> rw [isKind] at awaited
    · exact .inl awaited
    · exact .inr awaited
  constructor
  · refine ⟨?_, ?_, ?_⟩
    · intro held isHeld
      have unconnected (none : talks.app.core.client = none) : False := by
        rw [none] at isHeld
        contradiction
      cases isTask : talker.flight.task with
      | begin | restart =>
        rw [isTask] at fits
        exact (unconnected fits.2.1).elim
      | cancelForUserSelection =>
        rw [isTask] at fits
        have leaving := settled.leaving (.inl (fits (.inl unclosed)).2)
        exact (unconnected (settled.nameless leaving).1).elim
      | exchange client request attempt =>
        obtain ⟨isCommand, _⟩ := safe.exchanging isTask asks
        have rests := safe.rests
        rw [isTask] at rests
        cases rests.1.symm.trans isHeld
        subst isCommand
        simp only [conduct, Lines.exchanged, Function.update_self]
        apply Wire.allows_cancelled
        cases request <;> simp [Auth.Request.toGreetd]
      | cancelForClose => simp [isTask, Task.kind] at isKind
      | userSelectionCancellationSlow | closeTimeout | discoverAccounts | executePower =>
        simp [isTask, Task.talks] at speaks
    · intro waits
      have waits : talks.app.phase = .waitingForInput := waits
      simp [waits, Phase.isActive] at busy
    · intro cancelled
      have selecting : talks.app.phase = .selectingUser := (settled.cancelled cancelled).1
      simp [selecting, Phase.isActive] at busy
  · intro other isOther
    rcases Lists.mem_set_cases isOther with same | ⟨position, apart, isOld⟩
    · subst same
      refine ⟨?_, ?_, safe.rests, ?_⟩
      · change stage.program.isSome = _
        rw [goesOn, speaks]
        rfl
      · intro talk isTalk
        cases goesOn.symm.trans isTalk
        exact (safe.follows _ asks).2 answer
      · intro client request attempt isExchange
        obtain ⟨outcome, isDone⟩ := (safe.exchanging isExchange asks).2 answer
        exact .inr ⟨outcome, goesOn.trans (congrArg some isDone)⟩
    · apply (conforming.safe other (List.mem_of_getElem? isOld)).silent
      exact consistent.alone unclosed (world_flight found) (world_flight isOld) apart speaks

theorem Conforming.sends {index : Nat} {talker : Talker} {stage : Stage} (conforming : talks.Conforming)
    (found : talks.talkers[index]? = some talker) (same : stage.program = talker.stage.program) :
    Conforming { talks with talkers := talks.talkers.set index { talker with stage } } := by
  refine ⟨conforming.backed, ?_⟩
  intro other isOther
  rcases Lists.mem_set_cases isOther with isNew | ⟨_, _, isOld⟩
  · subst isNew
    obtain ⟨present, follows, rests, single⟩ := conforming.safe talker (List.mem_of_getElem? found)
    exact ⟨same ▸ present, same ▸ follows, rests, same ▸ single⟩
  · exact conforming.safe other (List.mem_of_getElem? isOld)

theorem Core.backed_of_fresh {core : Core} (lines : Lines) (unheld : core.client = none)
    (unwaiting : core.phase ≠ .waitingForInput) (uncancelled : core.selectionSessionCancelled = false) :
    core.Backed lines :=
  ⟨unheld ▸ lines.cancellable_none, fun waits => absurd waits unwaiting, by simp [uncancelled]⟩

theorem Starts.conforming (starts : talks.Starts socket) : talks.Conforming := by
  obtain ⟨account, sessions, isStart⟩ := starts
  subst isStart
  cases sessions with
  | nil =>
    refine ⟨?_, by simp [App.new, World.tasks, World.numbered]⟩
    simp only [App.new, List.head?_nil, Option.isNone_none, if_true, focusFirst_core]
    exact Core.backed_of_fresh _ rfl (by simp [core]) rfl
  | cons session sessions =>
    cases account with
    | none =>
      refine ⟨Core.backed_of_fresh _ rfl (by simp [App.new, core]) rfl, ?_⟩
      intro talker member
      cases List.mem_singleton.mp member
      exact Talker.start_safe socket trivial trivial
    | some account =>
      refine ⟨Core.backed_of_fresh _ rfl (by simp [App.new, core]) rfl, ?_⟩
      intro talker member
      cases List.mem_singleton.mp member
      exact Talker.start_safe socket ⟨rfl, by simp⟩ trivial

theorem conforming_of_reachable (reachable : (talkSystem socket).Reachable talks)
    (unclosed : talks.app.closing = none) : talks.Conforming := by
  induction reachable with
  | initial starts => exact Starts.conforming starts
  | @step before after label reached steps inductionHypothesis =>
    have consistent := Talks.consistent reached
    cases step_moves steps with
    | acts acted ends =>
      obtain ⟨actions, acts⟩ := act_world acted
      obtain ⟨_, _, _, _, move, _⟩ := World.act_moves acts
      exact (inductionHypothesis (move.unclosed unclosed)).act consistent acted ends unclosed
    | sends found same => exact (inductionHypothesis unclosed).sends found same
    | answers command answer found asks goesOn =>
      exact (inductionHypothesis unclosed).answers consistent unclosed found asks goesOn

end Talks

/-! ## The requests -/

/-- Until the window is to close, a request that is about to be sent is one that the protocol allows, and greetd
has answered all the others. -/
theorem requests_conform {socket : Option String} {talks : Talks} (reachable : (talkSystem socket).Reachable talks)
    (unclosed : talks.app.closing = none) {index serial : Nat} {link : Link} {request : Ipc.Request}
    (sends : talks.sending index = some (serial, link, request)) :
    talks.lines.allows serial talks.app.username link request = true ∧ talks.unanswered = [] := by
  simp only [Talks.sending] at sends
  split at sends
  next flight sendingLink sendingRequest rest found =>
    cases sends
    have conforming := Talks.conforming_of_reachable reachable unclosed
    have safe := conforming.safe _ (List.mem_of_getElem? found)
    refine ⟨(safe.follows _ rfl).1, ?_⟩
    rw [Talks.unanswered, List.filterMap_eq_nil_iff]
    intro other member
    split
    next awaitedLink awaited goesOn isAwaiting =>
      obtain ⟨position, isOther⟩ := List.mem_iff_getElem?.mp member
      have apart : position ≠ index := by
        intro same
        subst same
        cases isOther.symm.trans found
        contradiction
      have silent := (Talks.consistent reachable).alone unclosed (Talks.world_flight found)
        (Talks.world_flight isOther) apart safe.present.symm
      have present := (conforming.safe other member).present
      simp [isAwaiting, Stage.program, silent] at present
    next => rfl
  next => contradiction

/-! ## A password -/

instance : Inhabited TalkLabel := ⟨.send 0⟩

/-- What may be left is cancelled, a session is created, and the user answers its prompt. -/
def passwordLabels : List TalkLabel :=
  [.connect 0 (.ok ()), .send 0, .receive 0 (.ok .success), .connect 0 (.ok ()), .send 0,
    .receive 0 (.ok (.authMessage .secret "Password:")), .conclude 0,
    .input (.message (.inputChanged "secret")) [], .input (.message .submit) []]

def passwordRun : (talkSystem (some "/run/greetd.sock")).Run :=
  TransitionSystem.runOfLabels
    { app := (App.new (some sampleAccount) [sampleSession]).1
      talkers := (World.numbered 0 (World.tasks (App.new (some sampleAccount) [sampleSession]).2)).map
        (Talker.start (some "/run/greetd.sock"))
      issued := 1
      lines := { wire := fun _ => .unopened, clearing := .unknown } }
    ⟨_, _, rfl⟩ passwordLabels (by decide +kernel)

theorem requests_conform_sample :
    (passwordRun.state 9).sending 0 = some (1, .kept ⟨0⟩, .postAuthMessageResponse (some "secret")) ∧
      (passwordRun.state 9).lines.allows 1 (passwordRun.state 9).app.username (.kept ⟨0⟩)
        (.postAuthMessageResponse (some "secret")) = true ∧
      (passwordRun.state 9).unanswered = [] := by
  have sends : (passwordRun.state 9).sending 0 =
      some (1, .kept ⟨0⟩, .postAuthMessageResponse (some "secret")) := by decide +kernel
  have unclosed : (passwordRun.state 9).app.closing = none := by decide +kernel
  exact ⟨sends, requests_conform (passwordRun.reachable 9 (Nat.le_refl _)) unclosed sends⟩

end Genkan.Greeter
