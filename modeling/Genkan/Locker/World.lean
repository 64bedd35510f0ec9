import Genkan.Foundations.TransitionSystem
import Genkan.Locker.Presentation

/-! # The lock screen, its worker and its reader

The three parties take steps in any order.  The lock screen handles confirmations and input between
two turns of its loop; a turn polls the worker's events one by one and then, with nothing in
between, takes the authorization.
-/

namespace Genkan.Locker

open Foundations LockAuth SessionLock

inductive Turn where
  | idle
  /-- In the loop of `receive_auth`. -/
  | receiving (remaining : Nat)
  | received
  deriving DecidableEq, Repr

structure World where
  presentation : LockerPresentation
  turn : Turn

inductive Label where
  | lockConfirmed (environment : Environment)
  | input (input : Input) (environment : Environment)
  | receiveLatest
  | receiveEvent
  | takeAuthorization
  | workerReceive
  | workerAct (act : Worker.Act)
  | workerExit
  | workerDies
  | readerStep (fails : Bool)

namespace World

def receiveEvent (world : World) : Option World :=
  match world.turn with
  | .receiving (remaining + 1) =>
    match world.presentation.receiveEvent with
    | some presentation => some { presentation, turn := .receiving remaining }
    | none => some { world with turn := .received }
  | .receiving 0 => some { world with turn := .received }
  | .idle | .received => none

/-- The current worker, its socket or its reader takes a step. -/
def onClient (world : World) (step : Client → Option Client) : Option World :=
  match world.presentation.auth with
  | none => none
  | some (attempt, client) =>
    (step client).map fun client =>
      { world with presentation := { world.presentation with auth := some (attempt, client) } }

/-- The lock is confirmed at most once, and the loop never handles input in the middle of a turn. -/
def next (world : World) : Label → Option World
  | .lockConfirmed environment =>
    if world.turn = .idle ∧ world.presentation.confirmed = false then
      some { world with presentation := world.presentation.lockConfirmed environment }
    else none
  | .input input environment =>
    if world.turn = .idle then
      some { world with presentation := (world.presentation.input input environment).1 }
    else none
  | .receiveLatest =>
    if world.turn = .idle then
      some { world with
        turn := if world.presentation.confirmed then .receiving maxAuthEventsPerRefresh else .received }
    else none
  | .receiveEvent => world.receiveEvent
  | .takeAuthorization =>
    if world.turn = .received then
      some { presentation := world.presentation.takeAuthorization.1, turn := .idle }
    else none
  | .workerReceive => world.onClient Client.workerReceive
  | .workerAct act => world.onClient fun client => client.workerAct act
  | .workerExit => world.onClient Client.workerExit
  | .workerDies => world.onClient Client.workerDies
  | .readerStep fails => world.onClient fun client => client.readerStep fails

end World

def locker : TransitionSystem World Label :=
  .ofPartial (fun world => world = { presentation := .new, turn := .idle }) World.next

end Genkan.Locker
