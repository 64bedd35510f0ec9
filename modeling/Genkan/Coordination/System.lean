import Mathlib.Logic.Function.Basic
import Genkan.Foundations.TransitionSystem

/-! # The coordination of concurrent lock requests

Any number of processes call `enter_paths`; the first one to take the lease owns the lock and runs a
coordinator thread, the others connect to its socket and wait for READY.  Every system call is a step
of its own, the processes take their steps in any order, and each may die at any time.  A process is
named by a number, and so are its open lease file, its listener and its connection.

A lease is held by one open file at most and is released when this file is closed.  Closing a
listener resets the connections that were not accepted yet.
-/

namespace Genkan.Coordination

open Foundations

def maxWaiters : Nat := 64

inductive Outcome where
  | joined
  | existingLockerFailed
  | error
  deriving DecidableEq, Repr

/-- Where a process is in `enter_paths` and, as the owner, in `run`. -/
inductive Phase where
  | idle
  /-- Before the first attempt at the lease. -/
  | opened
  /-- The lease is taken; before `remove_file`, `bind`, and the return as `Owner`. -/
  | removing
  | binding
  | bound
  /-- The first attempt has failed; before `connect`, and in `read_to_end`. -/
  | waiting
  | reading
  /-- The endpoint is gone; before `try_lock`, holding the lease after it, or asleep. -/
  | probing
  | failing
  | sleeping
  | returned (outcome : Outcome)
  /-- Holding an `Owner`, and dropping it without activation. -/
  | owned
  | abandoning (leased : Bool)
  /-- Holding an `Active`: in the runtime, after it, and in `Active::drop`. -/
  | running
  | tornDown
  | stopping
  | joined
  | removed
  | finished
  | dead
  deriving DecidableEq, Repr

namespace Phase

/-- The open lease file holds the lease. -/
def holds : Phase → Bool
  | .removing | .binding | .bound | .failing | .owned | .abandoning true | .running | .tornDown
  | .stopping | .joined | .removed => true
  | .idle | .opened | .waiting | .reading | .probing | .sleeping | .returned _ | .abandoning false
  | .finished | .dead => false

/-- The process has taken the lease first and is not yet an owner. -/
def prepares : Phase → Bool
  | .removing | .binding | .bound => true
  | _ => false

/-- The process has an `Owner` or an `Active`. -/
def owns : Phase → Bool
  | .owned | .abandoning true | .running | .tornDown | .stopping | .joined | .removed => true
  | _ => false

/-- The first attempt at the lease has failed, and the call has not returned. -/
def refused : Phase → Bool
  | .waiting | .reading | .probing | .failing | .sleeping => true
  | _ => false

/-- Inside `enter_paths`. -/
def calling (phase : Phase) : Bool :=
  phase == .opened || phase.prepares || phase.refused

/-- The process still runs. -/
def alive : Phase → Bool
  | .idle | .returned _ | .finished | .dead => false
  | _ => true

end Phase

/-- What the thread `coordinate` does next. -/
inductive Activity where
  | off
  | polling
  /-- After `poll`, with the readiness of the owner's pipe and of the listener. -/
  | woken (ready accept : Bool)
  /-- Telling READY to those who waited for the confirmation. -/
  | flushing (waiters : List Nat) (accept : Bool)
  | accepting
  /-- Telling READY to a waiter that was just accepted. -/
  | answering (waiter : Nat)
  | ended
  deriving DecidableEq, Repr

def Activity.runs : Activity → Bool
  | .off | .ended => false
  | .polling | .woken .. | .flushing .. | .accepting | .answering _ => true

/-- After the owner's pipe was looked at. -/
def Activity.afterReady (accept : Bool) : Activity := if accept then .accepting else .polling

/-- The listener of an owner, and the coordinator that owns it. -/
structure Listener where
  listening : Bool
  backlog : List Nat
  activity : Activity
  waiters : List Nat
  confirmed : Bool
  deriving DecidableEq, Repr

/-- The waiters that are to be told READY. -/
def Activity.serves : Activity → List Nat
  | .flushing waiters _ => waiters
  | .answering waiter => [waiter]
  | .off | .polling | .woken .. | .accepting | .ended => []

/-- The waiters whose connections the coordinator has accepted and not closed. -/
def Listener.accepted (listener : Listener) : List Nat := listener.waiters ++ listener.activity.serves

/-- All waiters that are connected to the listener. -/
def Listener.connected (listener : Listener) : List Nat := listener.backlog ++ listener.accepted

/-- The connection of a waiter as the owner's end sees it. -/
structure Connection where
  listener : Nat
  accepted : Bool
  /-- How often READY was written to it. -/
  received : Nat
  closed : Bool
  deriving DecidableEq, Repr

/-- An owner's compositor lock, and the pipe from its runtime to its coordinator. -/
structure Lock where
  locked : Bool
  /-- The number of calls that had begun when the lock was given up. -/
  unlockedAt : Option Nat
  readyWritten : Bool
  readyClosed : Bool
  deriving DecidableEq, Repr

structure System where
  phases : Nat → Phase
  connections : Nat → Option Connection
  listeners : Nat → Listener
  locks : Nat → Lock
  lease : Option Nat
  socket : Option Nat
  calls : Nat
  /-- How many calls had begun before this one. -/
  tickets : Nat → Nat
  /-- Who held the lease at a failed first attempt. -/
  refusals : Nat → Option Nat

inductive Label where
  | enter (process : Nat)
  | tryLock (process : Nat)
  | removeFile (process : Nat)
  | bind (process : Nat)
  | own (process : Nat)
  | connect (process : Nat)
  | probe (process : Nat)
  | wake (process : Nat)
  | giveUp (process : Nat)
  | readEnd (process : Nat)
  | fails (process : Nat)
  | crash (process : Nat)
  | abandon (process : Nat)
  | dropLease (process : Nat)
  | dropListener (process : Nat)
  | activate (process : Nat)
  | confirm (process : Nat)
  | report (process : Nat) (succeeds : Bool)
  | unlock (process : Nat)
  | tearDown (process : Nat)
  | stop (process : Nat)
  | join (process : Nat)
  | removeOwn (process : Nat)
  | release (process : Nat)
  | coordinate (process : Nat) (fails : Bool)
  deriving DecidableEq, Repr

namespace System

def start : System where
  phases _ := .idle
  connections _ := none
  listeners _ := { listening := false, backlog := [], activity := .off, waiters := [], confirmed := false }
  locks _ := { locked := false, unlockedAt := none, readyWritten := false, readyClosed := false }
  lease := none
  socket := none
  calls := 0
  tickets _ := 0
  refusals _ := none

def moveTo (system : System) (process : Nat) (phase : Phase) : System :=
  { system with phases := Function.update system.phases process phase }

def setListener (system : System) (process : Nat) (listener : Listener) : System :=
  { system with listeners := Function.update system.listeners process listener }

def setLock (system : System) (process : Nat) (lock : Lock) : System :=
  { system with locks := Function.update system.locks process lock }

/-- The listener is closed, and with it everything that is connected to it. -/
def hangUp (system : System) (process : Nat) : System :=
  let listener := system.listeners process
  { system with
    connections := fun waiter =>
      if waiter ∈ listener.connected then
        (system.connections waiter).map fun connection => { connection with closed := true }
      else system.connections waiter
    listeners := Function.update system.listeners process
      { listener with listening := false, backlog := [], activity := .ended, waiters := [] } }

/-- The lease file of the process is closed. -/
def closeLease (system : System) (process : Nat) : System :=
  { system with lease := if system.lease = some process then none else system.lease }

/-! ## `enter_paths` -/

def enter (system : System) (process : Nat) : Option System :=
  if system.phases process = .idle then
    some { system.moveTo process .opened with
      calls := system.calls + 1
      tickets := Function.update system.tickets process system.calls }
  else none

def tryLock (system : System) (process : Nat) : Option System :=
  if system.phases process = .opened then
    match system.lease with
    | none => some { system.moveTo process .removing with lease := some process }
    | some holder => some { system.moveTo process .waiting with
        refusals := Function.update system.refusals process (some holder) }
  else none

def removeFile (system : System) (process : Nat) : Option System :=
  if system.phases process = .removing then
    some { system.moveTo process .binding with socket := none }
  else none

def bind (system : System) (process : Nat) : Option System :=
  if system.phases process = .binding ∧ system.socket = none then
    some { (system.moveTo process .bound).setListener process
        { system.listeners process with listening := true } with
      socket := some process }
  else none

def own (system : System) (process : Nat) : Option System :=
  if system.phases process = .bound then some (system.moveTo process .owned) else none

/-- The listener that the socket path leads to. -/
def endpoint (system : System) : Option Nat :=
  system.socket.filter fun owner => (system.listeners owner).listening

def connect (system : System) (process : Nat) : Option System :=
  if system.phases process = .waiting then
    match system.endpoint with
    | some owner =>
      let listener := system.listeners owner
      some { (system.moveTo process .reading).setListener owner
          { listener with backlog := listener.backlog ++ [process] } with
        connections := Function.update system.connections process
          (some { listener := owner, accepted := false, received := 0, closed := false }) }
    | none => some (system.moveTo process .probing)
  else none

def probe (system : System) (process : Nat) : Option System :=
  if system.phases process = .probing then
    if system.lease = none then some { system.moveTo process .failing with lease := some process }
    else some (system.moveTo process .sleeping)
  else none

def wake (system : System) (process : Nat) : Option System :=
  if system.phases process = .sleeping then some (system.moveTo process .waiting) else none

/-- The lease file is closed when `enter_paths` returns with an error. -/
def giveUp (system : System) (process : Nat) : Option System :=
  if system.phases process = .failing then
    some ((system.moveTo process (.returned .existingLockerFailed)).closeLease process)
  else none

def outcome (connection : Connection) : Outcome :=
  if !connection.accepted then .error
  else if connection.received = 1 then .joined
  else .existingLockerFailed

def readEnd (system : System) (process : Nat) : Option System :=
  if system.phases process = .reading then
    match system.connections process with
    | some connection =>
      if connection.closed then some (system.moveTo process (.returned (outcome connection))) else none
    | none => none
  else none

/-- A system call fails in a way that `enter_paths` does not expect. -/
def fails (system : System) (process : Nat) : Option System :=
  if (system.phases process).calling ∧ system.phases process ≠ .failing then
    some (((system.moveTo process (.returned .error)).hangUp process).closeLease process)
  else none

def crash (system : System) (process : Nat) : Option System :=
  if (system.phases process).alive then
    some (((system.moveTo process .dead).hangUp process).closeLease process)
  else none

/-! ## The owner -/

def abandon (system : System) (process : Nat) : Option System :=
  if system.phases process = .owned then some (system.moveTo process (.abandoning true)) else none

def dropLease (system : System) (process : Nat) : Option System :=
  if system.phases process = .abandoning true then
    some ((system.moveTo process (.abandoning false)).closeLease process)
  else none

def dropListener (system : System) (process : Nat) : Option System :=
  match system.phases process with
  | .abandoning _ => some (system.hangUp process)
  | _ => none

def activate (system : System) (process : Nat) : Option System :=
  if system.phases process = .owned then
    some ((system.moveTo process .running).setListener process
      { system.listeners process with activity := .polling })
  else none

/-- The compositor confirms the lock. -/
def confirm (system : System) (process : Nat) : Option System :=
  if system.phases process = .running then
    some (system.setLock process { system.locks process with locked := true })
  else none

/-- `ReadySignal::apply`; the pipe is closed afterwards in either case. -/
def report (system : System) (process : Nat) (succeeds : Bool) : Option System :=
  let lock := system.locks process
  if system.phases process = .running ∧ lock.locked ∧ !lock.readyClosed then
    some (system.setLock process { lock with readyWritten := succeeds, readyClosed := true })
  else none

/-- The authorized unlock. -/
def unlock (system : System) (process : Nat) : Option System :=
  let lock := system.locks process
  if system.phases process = .running ∧ lock.readyWritten ∧ lock.unlockedAt = none then
    some (system.setLock process { lock with unlockedAt := some system.calls })
  else none

/-- The runtime and the presentation are gone, after the unlock or after a failure. -/
def tearDown (system : System) (process : Nat) : Option System :=
  if system.phases process = .running then
    some ((system.moveTo process .tornDown).setLock process
      { system.locks process with readyClosed := true })
  else none

/-! `Active::drop` writes to the stop pipe, joins the coordinator and removes the socket; then the
lease file is closed. -/

def stop (system : System) (process : Nat) : Option System :=
  if system.phases process = .tornDown then some (system.moveTo process .stopping) else none

def join (system : System) (process : Nat) : Option System :=
  if system.phases process = .stopping ∧ (system.listeners process).activity = .ended then
    some (system.moveTo process .joined)
  else none

def removeOwn (system : System) (process : Nat) : Option System :=
  if system.phases process = .joined then some { system.moveTo process .removed with socket := none }
  else none

def release (system : System) (process : Nat) : Option System :=
  if system.phases process = .removed then
    some ((system.moveTo process .finished).closeLease process)
  else none

/-! ## `coordinate` -/

/-- READY is written to the connection, which is then closed. -/
def tell (system : System) (waiter : Nat) : System :=
  { system with
    connections := Function.update system.connections waiter
      ((system.connections waiter).map fun connection =>
        { connection with received := connection.received + 1, closed := true }) }

def poll (system : System) (process : Nat) : Option System :=
  let listener := system.listeners process
  if system.phases process = .stopping then some (system.hangUp process)
  else
    let ready := !listener.confirmed && (system.locks process).readyClosed
    let accept := !listener.backlog.isEmpty
    if ready || accept then
      some (system.setListener process { listener with activity := .woken ready accept })
    else none

/-- `read_exact`; the pipe holds READY or is closed. -/
def readReady (system : System) (process : Nat) (accept : Bool) : System :=
  let listener := system.listeners process
  if (system.locks process).readyWritten then
    system.setListener process
      { listener with
        confirmed := true
        waiters := []
        activity := .flushing listener.waiters accept }
  else system.hangUp process

/-- The next waiter in the backlog is accepted. -/
def accept (system : System) (process waiter : Nat) (rest : List Nat) : System :=
  let listener := { system.listeners process with backlog := rest }
  let keep := fun (closed : Bool) => Function.update system.connections waiter
    ((system.connections waiter).map fun connection =>
      { connection with accepted := true, closed := closed })
  if listener.confirmed then
    { system.setListener process { listener with activity := .answering waiter } with
      connections := keep false }
  else if listener.waiters.length < maxWaiters then
    { system.setListener process { listener with waiters := listener.waiters ++ [waiter] } with
      connections := keep false }
  else { system.setListener process listener with connections := keep true }

/-- The next step of the coordinator; `poll` and `accept` may fail. -/
def coordinate (system : System) (process : Nat) (fails : Bool) : Option System :=
  let listener := system.listeners process
  match listener.activity with
  | .off | .ended => none
  | .polling => if fails then some (system.hangUp process) else system.poll process
  | .woken true accept => some (system.readReady process accept)
  | .woken false accept =>
    some (system.setListener process { listener with activity := Activity.afterReady accept })
  | .flushing (waiter :: rest) accept =>
    some ((system.setListener process { listener with activity := .flushing rest accept }).tell waiter)
  | .flushing [] accept =>
    some (system.setListener process { listener with activity := Activity.afterReady accept })
  | .accepting =>
    match listener.backlog with
    | waiter :: rest =>
      if fails then some (system.setListener process { listener with activity := .polling })
      else some (system.accept process waiter rest)
    | [] => some (system.setListener process { listener with activity := .polling })
  | .answering waiter =>
    some ((system.setListener process { listener with activity := .accepting }).tell waiter)

def next (system : System) : Label → Option System
  | .enter process => system.enter process
  | .tryLock process => system.tryLock process
  | .removeFile process => system.removeFile process
  | .bind process => system.bind process
  | .own process => system.own process
  | .connect process => system.connect process
  | .probe process => system.probe process
  | .wake process => system.wake process
  | .giveUp process => system.giveUp process
  | .readEnd process => system.readEnd process
  | .fails process => system.fails process
  | .crash process => system.crash process
  | .abandon process => system.abandon process
  | .dropLease process => system.dropLease process
  | .dropListener process => system.dropListener process
  | .activate process => system.activate process
  | .confirm process => system.confirm process
  | .report process succeeds => system.report process succeeds
  | .unlock process => system.unlock process
  | .tearDown process => system.tearDown process
  | .stop process => system.stop process
  | .join process => system.join process
  | .removeOwn process => system.removeOwn process
  | .release process => system.release process
  | .coordinate process fails => system.coordinate process fails

end System

def coordination : TransitionSystem System Label :=
  .ofPartial (fun system => system = .start) System.next

end Genkan.Coordination
