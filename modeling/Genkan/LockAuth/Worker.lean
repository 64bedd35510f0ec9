import Genkan.LockAuth.Protocol

/-! # The authentication worker

`run` of the worker, cut at the points where it waits for a message or sends one.  What PAM does
between them, and whether a write succeeds, is decided by the caller.  `iteration` counts the passes
through the loop of `run`: it is the authentication attempt as the worker sees it.
-/

namespace Genkan.LockAuth

inductive Phase where
  | awaitingBegin
  /-- Inside `pam_authenticate`, with no callback waiting for a response. -/
  | authenticating
  | prompting (id : UInt64)
  | awaitingRetry
  /-- `run` has returned and the process is about to exit. -/
  | returning (success : Bool)
  | exited (clean : Bool)
  deriving DecidableEq, Repr

/-- The worker waits for a message. -/
def Phase.waits : Phase → Bool
  | .awaitingBegin | .prompting _ | .awaitingRetry => true
  | .authenticating | .returning _ | .exited _ => false

structure Worker where
  phase : Phase
  nextId : UInt64
  cancelled : Bool
  iteration : Nat
  deriving DecidableEq

namespace Worker

/-- The worker after `Ready` has been sent. -/
def new : Worker where
  phase := .awaitingBegin
  nextId := 1
  cancelled := false
  iteration := 0

/-- One more pass through the loop of `run`, with a new `PamConversation`. -/
def authenticate (worker : Worker) : Worker :=
  { worker with
    phase := .authenticating
    nextId := 1
    cancelled := false
    iteration := worker.iteration + 1 }

/-- `await_begin`, the answer to a prompt, and the wait after a failure. -/
def receive (worker : Worker) (received : Except ProtocolError Message) : Worker :=
  match worker.phase, received with
  | .awaitingBegin, .ok .begin => worker.authenticate
  | .awaitingBegin, _ => { worker with phase := .returning false }
  | .prompting _, .ok .cancel => { worker with phase := .authenticating, cancelled := true }
  | .prompting _, _ => { worker with phase := .authenticating }
  | .awaitingRetry, .ok .retry => worker.authenticate
  | .awaitingRetry, .ok .cancel => { worker with phase := .returning true }
  | .awaitingRetry, _ => { worker with phase := .returning false }
  | .authenticating, _ | .returning _, _ | .exited _, _ => worker

/-- The response that the prompt returns to PAM when this message arrives. -/
def accepts (worker : Worker) (message : Message) : Option (UInt64 × Secret) :=
  match worker.phase, message with
  | .prompting id, .response responseId value => if responseId = id then some (id, value) else none
  | _, _ => none

/-- What happens inside `pam_authenticate`, with the outcome of the write. -/
inductive Act where
  | prompt (text : String) (secret delivered : Bool)
  | notice (text : String) (error delivered : Bool)
  /-- `pam_authenticate` and the checks after it have ended with this result. -/
  | finish (authenticated delivered : Bool)
  deriving DecidableEq, Repr

def prompt (worker : Worker) (text : String) (secret delivered : Bool) : Worker × Option Message :=
  if worker.nextId > maxMessages then (worker, none)
  else
    let asked := { worker with nextId := worker.nextId + 1 }
    if delivered then
      ({ asked with phase := .prompting worker.nextId }, some (.prompt worker.nextId secret text))
    else (asked, none)

def notice (worker : Worker) (text : String) (error delivered : Bool) : Worker × Option Message :=
  (worker, if delivered then some (if error then .error text else .info text) else none)

def finish (worker : Worker) (authenticated delivered : Bool) : Worker × Option Message :=
  if authenticated && !worker.cancelled then
    ({ worker with phase := .returning delivered }, if delivered then some .success else none)
  else if delivered then ({ worker with phase := .awaitingRetry }, some .failure)
  else ({ worker with phase := .returning false }, none)

def act (worker : Worker) : Act → Worker × Option Message
  | .prompt text secret delivered => worker.prompt text secret delivered
  | .notice text error delivered => worker.notice text error delivered
  | .finish authenticated delivered => worker.finish authenticated delivered

def exit (worker : Worker) : Worker :=
  match worker.phase with
  | .returning success => { worker with phase := .exited success }
  | _ => worker

def exited (worker : Worker) : Bool :=
  match worker.phase with
  | .exited _ => true
  | _ => false

def kill (worker : Worker) : Worker :=
  match worker.phase with
  | .exited _ => worker
  | _ => { worker with phase := .exited false }

end Worker

end Genkan.LockAuth
