import Genkan.Locker.Client

/-! # What a worker and its reader can do

The inversion of the worker's and the reader's steps: `Move` lists their effects with the facts that
enable them, and `act_cases` lists what can happen inside `pam_authenticate`.
-/

namespace Genkan.LockAuth.Worker

/-- Inside `pam_authenticate` the worker asks, tells, goes on without a word, or comes to an end. -/
inductive Outcome (worker : Worker) : Worker → Option Message → Prop
  | silent (next : Worker) (phase : next.phase = worker.phase)
      (iteration : next.iteration = worker.iteration)
      (ids : next.nextId = worker.nextId ∨
        (worker.nextId ≤ maxMessages ∧ next.nextId = worker.nextId + 1)) : Outcome worker next none
  | told (text : String) (error : Bool) :
      Outcome worker worker (some (if error then .error text else .info text))
  | asked (text : String) (secret : Bool) (room : worker.nextId ≤ maxMessages) :
      Outcome worker { worker with nextId := worker.nextId + 1, phase := .prompting worker.nextId }
        (some (.prompt worker.nextId secret text))
  | succeeded : Outcome worker { worker with phase := .returning true } (some .success)
  | rejected : Outcome worker { worker with phase := .awaitingRetry } (some .failure)
  | lost : Outcome worker { worker with phase := .returning false } none

theorem act_outcome (worker : Worker) (act : Act) :
    worker.Outcome (worker.act act).1 (worker.act act).2 := by
  cases act with
  | prompt text secret delivered =>
    simp only [Worker.act, prompt]
    split
    next => exact .silent worker rfl rfl (.inl rfl)
    next fresh =>
      have room : worker.nextId ≤ maxMessages := UInt64.not_lt.mp fresh
      cases delivered with
      | false => exact .silent _ rfl rfl (.inr ⟨room, rfl⟩)
      | true => exact .asked text secret room
  | notice text error delivered =>
    cases delivered with
    | false => exact .silent worker rfl rfl (.inl rfl)
    | true => exact .told text error
  | finish authenticated delivered =>
    simp only [Worker.act, finish]
    split
    next =>
      cases delivered with
      | false => exact .lost
      | true => exact .succeeded
    next =>
      cases delivered with
      | false => exact .lost
      | true => exact .rejected

/-- A message ends the wait: the worker authenticates, or it is about to exit. -/
theorem receive_phase {worker : Worker} (waits : worker.phase.waits = true)
    (received : Except ProtocolError Message) :
    (worker.receive received).phase = .authenticating ∨
      ∃ success, (worker.receive received).phase = .returning success := by
  simp only [receive]
  split
  next => exact .inl rfl
  next => exact .inr ⟨false, rfl⟩
  next => exact .inl rfl
  next => exact .inl rfl
  next => exact .inl rfl
  next => exact .inr ⟨true, rfl⟩
  next => exact .inr ⟨false, rfl⟩
  next phase => simp [phase, Phase.waits] at waits
  next phase => simp [phase, Phase.waits] at waits
  next phase => simp [phase, Phase.waits] at waits

theorem kill_exited (worker : Worker) : ∃ clean, worker.kill.phase = .exited clean := by
  simp only [kill]
  split
  next clean phase => exact ⟨clean, phase⟩
  next => exact ⟨false, rfl⟩

@[simp] theorem kill_iteration (worker : Worker) : worker.kill.iteration = worker.iteration := by
  simp only [kill]
  split <;> rfl

theorem exited_iff {worker : Worker} :
    worker.exited = true ↔ ∃ clean, worker.phase = .exited clean := by
  cases phase : worker.phase <;> simp [exited, phase]

end Genkan.LockAuth.Worker

namespace Genkan.Locker.Client

open LockAuth

/-- The acceptance that reading this message amounts to. -/
def acceptance (client : Client) (posted : Posted) : Option Acceptance :=
  (client.worker.accepts posted.message).map fun response =>
    { prompt := { value := response.1, origin := client.origin }
      value := response.2
      submission := posted.submission }

/-- The effects of the steps of a worker and its reader. -/
inductive Move (client : Client) : Client → Prop
  | received {posted : Posted} {rest : List Posted} (waits : client.worker.phase.waits = true)
      (isInbox : client.inbox = posted :: rest) :
      Move client { client with
        worker := client.worker.receive (.ok posted.message)
        inbox := rest
        accepted := (client.acceptance posted).toList ++ client.accepted }
  | closed (waits : client.worker.phase.waits = true) (shutdown : client.shutdown = true) :
      Move client { client with worker := client.worker.receive (.error .closed) }
  | acted {worker : Worker} {message : Option Message}
      (authenticating : client.worker.phase = .authenticating)
      (outcome : client.worker.Outcome worker message) :
      Move client { client with
        worker := worker
        outbox := client.outbox ++ (message.map fun message =>
          { value := message, origin := client.origin : Stamped Message }).toList
        sent := message.toList ++ client.sent }
  | exited {success : Bool} (returning : client.worker.phase = .returning success) :
      Move client { client with worker := { client.worker with phase := .exited success } }
  | died (alive : client.worker.exited = false) : Move client { client with worker := client.worker.kill }
  | broke (busy : client.reader = .reading ∨ ∃ event, client.reader = .publishing event false) :
      Move client client.breakOff
  | read {stamped : Stamped Message} {rest : List (Stamped Message)} (reading : client.reader = .reading)
      (isOutbox : client.outbox = stamped :: rest) :
      Move client ({ client with outbox := rest }.readMessage stamped)
  | published {event : Stamped Event} {last : Bool} (publishing : client.reader = .publishing event last)
      (events : client.events = true) :
      Move client { client with
        queue := client.queue ++ [event]
        reader := if last then .done else .reading }
  | dropped {event : Stamped Event} (publishing : client.reader = .publishing event true)
      (events : client.events = false) : Move client { client with reader := .done }
  | reaped {success clean : Bool} (reaping : client.reader = .reaping success)
      (exited : client.worker.phase = .exited clean) :
      Move client (client.publish (if success && clean then .success else .failure) client.origin true)

theorem workerReceive_move {client next : Client} (steps : client.workerReceive = some next) :
    client.Move next := by
  simp only [workerReceive] at steps
  split at steps
  next waits =>
    split at steps
    next posted rest isInbox =>
      cases steps
      exact .received waits isInbox
    next =>
      split at steps
      next shutdown =>
        cases steps
        exact .closed waits shutdown
      next => contradiction
  next => contradiction

theorem workerAct_move {client next : Client} {act : Worker.Act}
    (steps : client.workerAct act = some next) : client.Move next := by
  simp only [workerAct] at steps
  split at steps
  next authenticating =>
    cases steps
    exact .acted authenticating (client.worker.act_outcome act)
  next => contradiction

theorem workerExit_move {client next : Client} (steps : client.workerExit = some next) :
    client.Move next := by
  simp only [workerExit] at steps
  split at steps
  next success returning =>
    cases steps
    simp only [Worker.exit, returning]
    exact .exited returning
  next => contradiction

theorem workerDies_move {client next : Client} (steps : client.workerDies = some next) :
    client.Move next := by
  simp only [workerDies] at steps
  split at steps
  next => contradiction
  next alive =>
    cases steps
    exact .died (by simpa using alive)

theorem readerStep_move {client next : Client} {fails : Bool}
    (steps : client.readerStep fails = some next) : client.Move next := by
  simp only [readerStep] at steps
  split at steps
  next reading =>
    split at steps
    next =>
      cases steps
      exact .broke (.inl reading)
    next =>
      split at steps
      next stamped rest isOutbox =>
        cases steps
        exact .read reading isOutbox
      next =>
        split at steps
        next =>
          cases steps
          exact .broke (.inl reading)
        next => contradiction
  next event last publishing =>
    split at steps
    next dropped =>
      have events : client.events = false := by simpa using dropped
      cases last with
      | true =>
        cases steps
        exact .dropped publishing events
      | false =>
        cases steps
        exact .broke (.inr ⟨event, publishing⟩)
    next kept =>
      split at steps
      next =>
        cases steps
        exact .published publishing (by simpa using kept)
      next => contradiction
  next success reaping =>
    split at steps
    next clean exited =>
      cases steps
      exact .reaped reaping exited
    next => contradiction
  next => contradiction

/-- The event that the reader publishes for a message. -/
def eventOf : Message → Option Event
  | .prompt id secret text => some (.prompt id secret text)
  | .info text => some (.notice false text)
  | .error text => some (.notice true text)
  | .failure => some .failure
  | .success | .ready _ _ | .response _ _ | .cancel | .retry | .begin => none

theorem eventOf_ne_success (message : Message) : eventOf message ≠ some .success := by
  cases message <;> simp [eventOf]

/-- The reader publishes the message, reaps the worker after its success, or breaks off. -/
theorem readMessage_cases (client : Client) (stamped : Stamped Message) :
    (∃ event, eventOf stamped.value = some event ∧
      client.readMessage stamped = client.publish event stamped.origin false) ∨
    (stamped.value = .success ∧ client.readMessage stamped = { client with reader := .reaping true }) ∨
    client.readMessage stamped = client.breakOff := by
  obtain ⟨message, origin⟩ := stamped
  cases message with
  | prompt id secret text => exact .inl ⟨_, rfl, rfl⟩
  | info text => exact .inl ⟨_, rfl, rfl⟩
  | error text => exact .inl ⟨_, rfl, rfl⟩
  | failure => exact .inl ⟨_, rfl, rfl⟩
  | success => exact .inr (.inl ⟨rfl, rfl⟩)
  | _ => exact .inr (.inr rfl)

end Genkan.Locker.Client
