import Genkan.LockAuth.Worker

/-! # The client of an authentication worker

A `Client` is everything between the lock screen and one worker: the worker process, the two
directions of its socket, the thread that reads the socket, and the bounded queue of events.  What
the program cannot see (which prompt a message belongs to, what was written to whom) is recorded
next to the data; nothing is decided by it.
-/

namespace Genkan.Locker

open LockAuth

def eventCapacity : Nat := 128

inductive Event where
  | prompt (id : UInt64) (secret : Bool) (text : String)
  | notice (error : Bool) (text : String)
  | success
  | failure
  deriving DecidableEq, Repr

/-- One authentication attempt of one worker process. -/
structure Origin where
  process : Nat
  iteration : Nat
  deriving DecidableEq, Repr

structure Stamped (α : Type) where
  value : α
  origin : Origin
  deriving DecidableEq, Repr

/-- A text submitted while a prompt was displayed; submissions are numbered. -/
structure Submission where
  serial : Nat
  prompt : Stamped UInt64
  text : String
  deriving DecidableEq, Repr

/-- A message to the worker, with the submission that a response stands for. -/
structure Posted where
  message : Message
  submission : Option Submission
  deriving DecidableEq

/-- A response that a prompt of the worker accepted. -/
structure Acceptance where
  prompt : Stamped UInt64
  value : Secret
  submission : Option Submission
  deriving DecidableEq

/-- The thread `read_worker`. -/
inductive Reader where
  | reading
  /-- In `events.send`; the thread ends after the last event. -/
  | publishing (event : Stamped Event) (last : Bool)
  /-- In `wait_child`, after the worker's success or after the worker was killed. -/
  | reaping (success : Bool)
  | done
  deriving DecidableEq, Repr

structure Client where
  process : Nat
  worker : Worker
  inbox : List Posted
  outbox : List (Stamped Message)
  reader : Reader
  queue : List (Stamped Event)
  /-- The receiver of the queue is still held. -/
  events : Bool
  shutdown : Bool
  /-- What was written to the worker, and whether the lock was confirmed by then; newest first. -/
  written : List (Message × Bool)
  /-- What the worker has written, newest first. -/
  sent : List Message
  accepted : List Acceptance
  deriving DecidableEq

namespace Client

/-- A client whose worker has reported the expected identity. -/
def new (process : Nat) : Client where
  process := process
  worker := .new
  inbox := []
  outbox := []
  reader := .reading
  queue := []
  events := true
  shutdown := false
  written := []
  sent := []
  accepted := []

def origin (client : Client) : Origin :=
  { process := client.process, iteration := client.worker.iteration }

/-! ## The lock screen's side -/

/-- A write succeeds only while the worker lives; it may fail for other reasons. -/
def send (client : Client) (posted : Posted) (confirmed : Bool) (outcome : Except ProtocolError Unit) :
    Client × Except ProtocolError Unit :=
  if client.shutdown || client.worker.exited then (client, .error (.io "Broken pipe"))
  else
    match outcome with
    | .error error => (client, .error error)
    | .ok () =>
      ({ client with
          inbox := client.inbox ++ [posted]
          written := (posted.message, confirmed) :: client.written }, .ok ())

/-- The client after a message was written. -/
def posted (client : Client) (posted : Posted) (confirmed : Bool) : Client :=
  { client with
    inbox := client.inbox ++ [posted]
    written := (posted.message, confirmed) :: client.written }

theorem send_cases (client : Client) (posted : Posted) (confirmed : Bool)
    (outcome : Except ProtocolError Unit) :
    (client.worker.exited = false ∧
      client.send posted confirmed outcome = (client.posted posted confirmed, .ok ())) ∨
    ∃ error, client.send posted confirmed outcome = (client, .error error) := by
  simp only [send]
  split
  next => exact .inr ⟨_, rfl⟩
  next open_ =>
    simp only [Bool.or_eq_true, not_or, Bool.not_eq_true] at open_
    cases outcome with
    | error error => exact .inr ⟨error, rfl⟩
    | ok => exact .inl ⟨open_.2, rfl⟩

def begin (client : Client) (confirmed : Bool) (outcome : Except ProtocolError Unit) :
    Client × Except ProtocolError Unit :=
  client.send { message := .begin, submission := none } confirmed outcome

def respond (client : Client) (submission : Submission) (confirmed : Bool)
    (outcome : Except ProtocolError Unit) : Client × Except ProtocolError Unit :=
  match Secret.new (intoBytes submission.text) with
  | .error error => (client, .error error)
  | .ok response =>
    client.send { message := .response submission.prompt.value response, submission := some submission }
      confirmed outcome

def retry (client : Client) (confirmed : Bool) (outcome : Except ProtocolError Unit) :
    Client × Except ProtocolError Unit :=
  client.send { message := .retry, submission := none } confirmed outcome

def tryReceive (client : Client) : Option (Stamped Event × Client) :=
  if client.events then
    match client.queue with
    | event :: rest => some (event, { client with queue := rest })
    | [] => none
  else none

/-- The worker is dead and the reader joined when this returns.  The join handle that the source
checks first is taken together with the receiver. -/
def cancel (client : Client) : Client :=
  if client.events then
    { client with events := false, shutdown := true, worker := client.worker.kill, reader := .done }
  else client

/-! ## The worker's side -/

/-- The worker reads its socket; it sees the end of the stream once the other end is shut down. -/
def workerReceive (client : Client) : Option Client :=
  if client.worker.phase.waits then
    match client.inbox with
    | posted :: rest =>
      let accepted := (client.worker.accepts posted.message).map fun response =>
        { prompt := { value := response.1, origin := client.origin }
          value := response.2
          submission := posted.submission : Acceptance }
      some { client with
        worker := client.worker.receive (.ok posted.message)
        inbox := rest
        accepted := accepted.toList ++ client.accepted }
    | [] =>
      if client.shutdown then some { client with worker := client.worker.receive (.error .closed) }
      else none
  else none

def workerAct (client : Client) (act : Worker.Act) : Option Client :=
  if client.worker.phase = .authenticating then
    let (worker, message) := client.worker.act act
    some { client with
      worker := worker
      outbox := client.outbox ++ (message.map fun message =>
        { value := message, origin := client.origin : Stamped Message }).toList
      sent := message.toList ++ client.sent }
  else none

def workerExit (client : Client) : Option Client :=
  match client.worker.phase with
  | .returning _ => some { client with worker := client.worker.exit }
  | _ => none

/-- The worker dies for a reason of its own. -/
def workerDies (client : Client) : Option Client :=
  if client.worker.exited then none else some { client with worker := client.worker.kill }

/-! ## The reader thread -/

/-- The end of `read_worker` after its loop: the worker is killed and will be reaped. -/
def breakOff (client : Client) : Client :=
  { client with worker := client.worker.kill, reader := .reaping false }

def publish (client : Client) (event : Event) (origin : Origin) (last : Bool) : Client :=
  { client with reader := .publishing { value := event, origin } last }

def readMessage (client : Client) (stamped : Stamped Message) : Client :=
  match stamped.value with
  | .prompt id secret text => client.publish (.prompt id secret text) stamped.origin false
  | .info text => client.publish (.notice false text) stamped.origin false
  | .error text => client.publish (.notice true text) stamped.origin false
  | .success => { client with reader := .reaping true }
  | .failure => client.publish .failure stamped.origin false
  | .ready _ _ | .response _ _ | .cancel | .retry | .begin => client.breakOff

/-- One step of the reader; nothing happens while it is blocked.  Reading may fail at any time. -/
def readerStep (client : Client) (fails : Bool) : Option Client :=
  match client.reader with
  | .reading =>
    if fails then some client.breakOff
    else
      match client.outbox with
      | stamped :: rest => some ({ client with outbox := rest }.readMessage stamped)
      | [] => if client.worker.exited || client.shutdown then some client.breakOff else none
  | .publishing event last =>
    if !client.events then some (if last then { client with reader := .done } else client.breakOff)
    else if client.queue.length < eventCapacity then
      some { client with
        queue := client.queue ++ [event]
        reader := if last then .done else .reading }
    else none
  | .reaping success =>
    match client.worker.phase with
    | .exited clean => some (client.publish (if success && clean then .success else .failure) client.origin true)
    | _ => none
  | .done => none

end Client

end Genkan.Locker
