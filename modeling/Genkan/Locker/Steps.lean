import Genkan.Locker.Input
import Genkan.Locker.Moves

/-! # Every step of the lock screen, its worker and its reader

`World.Change` lists what one step of the whole system can do, and `locker_invariant` is the
induction that all statements about its runs use.
-/

namespace Genkan.Locker

open Foundations LockAuth SessionLock

namespace LockerPresentation

/-- The presentation when it has taken an event out of the queue of its client. -/
def withClient (presentation : LockerPresentation) (attempt : Attempt) (client : Client) :
    LockerPresentation :=
  { presentation with auth := some (attempt, client), instructionPage := 0 }

/-! ## One event -/

structure Handled (presentation next : LockerPresentation) : Prop where
  attempt : next.conversation.attempt = presentation.conversation.attempt
  auth : next.auth = presentation.auth
  confirmed : next.confirmed = presentation.confirmed
  started : next.history.started = presentation.history.started
  retired : next.history.retired = presentation.history.retired
  submissions : next.history.submissions = presentation.history.submissions

theorem handleEvent_handled (presentation : LockerPresentation) (attempt : Attempt)
    (event : Stamped Event) : presentation.Handled (presentation.handleEvent attempt event) := by
  simp only [handleEvent]
  split
  next => exact ⟨by simp, rfl, rfl, rfl, rfl, rfl⟩
  next => exact ⟨by simp, rfl, rfl, rfl, rfl, rfl⟩
  next => split <;> exact ⟨by simp, rfl, rfl, rfl, rfl, rfl⟩
  next => exact ⟨by simp, rfl, rfl, rfl, rfl, rfl⟩

theorem handleEvent_prompt (presentation : LockerPresentation) {attempt : Attempt} (id : UInt64)
    (secret : Bool) (text : String) (origin : Origin)
    (current : attempt = presentation.conversation.attempt) :
    let next := presentation.handleEvent attempt { value := .prompt id secret text, origin }
    next.conversation.status = .waiting ∧ next.promptId = some { value := id, origin } ∧
      next.authorized = presentation.authorized := by
  simp [handleEvent, Conversation.receive, Conversation.accepts, current]

theorem handleEvent_notice (presentation : LockerPresentation) (attempt : Attempt) (error : Bool)
    (text : String) (origin : Origin) :
    let next := presentation.handleEvent attempt { value := .notice error text, origin }
    next.conversation.status = presentation.conversation.status ∧
      next.promptId = presentation.promptId ∧ next.authorized = presentation.authorized := by
  simp only [handleEvent, Conversation.receive]
  split <;> simp [Conversation.setNotice]

theorem handleEvent_success (presentation : LockerPresentation) {attempt : Attempt} (origin : Origin)
    (current : attempt = presentation.conversation.attempt) :
    let next := presentation.handleEvent attempt { value := .success, origin }
    next.conversation.status = .succeeded ∧ next.promptId = none ∧ next.authorized = true ∧
      next.history.credited = some origin := by
  simp [handleEvent, Conversation.receive, Conversation.accepts, current]

theorem handleEvent_failure (presentation : LockerPresentation) {attempt : Attempt} (origin : Origin)
    (current : attempt = presentation.conversation.attempt) :
    let next := presentation.handleEvent attempt { value := .failure, origin }
    next.conversation.status = .failed ∧ next.promptId = none ∧
      next.authorized = presentation.authorized := by
  simp [handleEvent, Conversation.receive, Conversation.accepts, current]

theorem Consistent.handled {presentation : LockerPresentation} (consistent : presentation.Consistent)
    (confirmed : presentation.confirmed = true) {attempt : Attempt} {client : Client}
    (active : presentation.auth = some (attempt, client)) (after : Client) (event : Stamped Event) :
    ((presentation.withClient attempt after).handleEvent attempt event).Consistent := by
  have current := consistent.attempt attempt client active
  let taken := presentation.withClient attempt after
  have handled := taken.handleEvent_handled attempt event
  have prompt : (taken.handleEvent attempt event).promptId.isSome = true ↔
      (taken.handleEvent attempt event).conversation.status = .waiting := by
    obtain ⟨value, origin⟩ := event
    cases value with
    | prompt id secret text =>
      have shown := taken.handleEvent_prompt id secret text origin current
      simp [shown.1, shown.2.1]
    | notice error text =>
      have told := taken.handleEvent_notice attempt error text origin
      rw [told.1, told.2.1]
      exact consistent.prompt
    | success =>
      have ended := taken.handleEvent_success origin current
      simp [ended.1, ended.2.1]
    | failure =>
      have ended := taken.handleEvent_failure origin current
      simp [ended.1, ended.2.1]
  refine ⟨prompt, ?_, ?_, ?_⟩
  · intro other otherClient isOther
    rw [handled.auth] at isOther
    cases isOther
    exact current.trans handled.attempt.symm
  · intro absent
    rw [handled.auth] at absent
    contradiction
  · intro unconfirmed
    rw [handled.confirmed] at unconfirmed
    exact absurd (confirmed.symm.trans unconfirmed) nofun

end LockerPresentation

namespace World

/-- The presentation is consistent, and polls its worker only after the confirmation. -/
structure Consistent (world : World) : Prop where
  presentation : world.presentation.Consistent
  receiving : ∀ remaining, world.turn = .receiving remaining → world.presentation.confirmed = true

inductive Change (world : World) : World → Prop
  | input {next : LockerPresentation} (idle : world.turn = .idle)
      (change : world.presentation.Change next) : Change world { world with presentation := next }
  | event {remaining : Nat} {attempt : Attempt} {client : Client} {event : Stamped Event}
      {rest : List (Stamped Event)} (receiving : world.turn = .receiving (remaining + 1))
      (active : world.presentation.auth = some (attempt, client)) (isQueue : client.queue = event :: rest) :
      Change world {
        presentation := (world.presentation.withClient attempt
          { client with queue := rest }).handleEvent attempt event
        turn := .receiving remaining }
  | turned {turn : Turn} (polls : ∀ remaining, turn = .receiving remaining →
      world.presentation.confirmed = true) (notIdle : turn ≠ .idle) :
      Change world { world with turn := turn }
  | taken (received : world.turn = .received) :
      Change world { presentation := { world.presentation with authorized := false }, turn := .idle }
  | moved {attempt : Attempt} {client after : Client}
      (active : world.presentation.auth = some (attempt, client)) (move : client.Move after) :
      Change world { world with
        presentation := { world.presentation with auth := some (attempt, after) } }

theorem onClient_change {world next : World} {step : Client → Option Client}
    (move : ∀ client after, step client = some after → client.Move after)
    (steps : world.onClient step = some next) : world.Change next := by
  simp only [onClient] at steps
  split at steps
  next => contradiction
  next attempt client active =>
    obtain ⟨after, stepped, rfl⟩ := Option.map_eq_some_iff.mp steps
    exact .moved active (move client after stepped)

theorem tryReceive_some {client after : Client} {event : Stamped Event}
    (received : client.tryReceive = some (event, after)) :
    ∃ rest, client.queue = event :: rest ∧ after = { client with queue := rest } := by
  simp only [Client.tryReceive] at received
  split at received
  next =>
    split at received
    next first rest isQueue =>
      cases received
      exact ⟨rest, isQueue, rfl⟩
    next => contradiction
  next => contradiction

theorem receiveEvent_change {world next : World} (consistent : world.Consistent)
    (steps : world.receiveEvent = some next) : world.Change next := by
  simp only [receiveEvent] at steps
  split at steps
  next remaining receiving =>
    split at steps
    next presentation handled =>
      cases steps
      simp only [LockerPresentation.receiveEvent] at handled
      split at handled
      next => contradiction
      next attempt client active =>
        split at handled
        next => contradiction
        next event after received =>
          obtain ⟨rest, isQueue, rfl⟩ := tryReceive_some received
          have accepted : world.presentation.conversation.accepts attempt = true := by
            simp [Conversation.accepts, consistent.presentation.attempt attempt client active]
          simp only [accepted, Bool.not_true, Bool.false_eq_true, if_false, Option.some.injEq] at handled
          subst handled
          exact .event receiving active isQueue
    next =>
      cases steps
      exact .turned (by simp) (by simp)
  next =>
    cases steps
    exact .turned (by simp) (by simp)
  next => contradiction
  next => contradiction

/-- Every step is one of the changes, unless nothing happens. -/
theorem next_change {world next : World} (consistent : world.Consistent) {label : Label}
    (steps : world.next label = some next) : world.Change next ∨ next = world := by
  cases label with
  | lockConfirmed environment =>
    simp only [World.next] at steps
    split at steps
    next enabled =>
      cases steps
      exact .inl (.input enabled.1
        (LockerPresentation.lockConfirmed_change consistent.presentation enabled.2 environment))
    next => contradiction
  | input input environment =>
    simp only [World.next] at steps
    split at steps
    next idle =>
      cases steps
      rcases LockerPresentation.input_change consistent.presentation input environment with
        change | same
      · exact .inl (.input idle change)
      · exact .inr (by rw [same])
    next => contradiction
  | receiveLatest =>
    simp only [World.next] at steps
    split at steps
    next idle =>
      cases steps
      refine .inl (.turned ?_ ?_)
      · intro remaining polls
        split at polls
        next confirmed => exact confirmed
        next => contradiction
      · split <;> nofun
    next => contradiction
  | receiveEvent => exact .inl (receiveEvent_change consistent steps)
  | takeAuthorization =>
    simp only [World.next] at steps
    split at steps
    next received =>
      cases steps
      exact .inl (.taken received)
    next => contradiction
  | workerReceive => exact .inl (onClient_change (fun _ _ => Client.workerReceive_move) steps)
  | workerAct act => exact .inl (onClient_change (fun _ _ => Client.workerAct_move) steps)
  | workerExit => exact .inl (onClient_change (fun _ _ => Client.workerExit_move) steps)
  | workerDies => exact .inl (onClient_change (fun _ _ => Client.workerDies_move) steps)
  | readerStep fails => exact .inl (onClient_change (fun _ _ => Client.readerStep_move) steps)

theorem Consistent.changed {world next : World} (consistent : world.Consistent)
    (change : world.Change next) : next.Consistent := by
  cases change with
  | input idle change =>
    refine ⟨consistent.presentation.changed change, ?_⟩
    intro remaining receiving
    exact absurd (idle.symm.trans receiving) nofun
  | event receiving active isQueue =>
    have confirmed := consistent.receiving _ receiving
    refine ⟨consistent.presentation.handled confirmed active _ _, ?_⟩
    intro _ _
    exact (LockerPresentation.handleEvent_handled ..).confirmed.trans confirmed
  | turned polls notIdle => exact ⟨consistent.presentation, polls⟩
  | taken received =>
    obtain ⟨prompt, attempt, absent, pristine⟩ := consistent.presentation
    exact ⟨⟨prompt, attempt, absent, pristine⟩, nofun⟩
  | moved active move =>
    refine ⟨⟨consistent.presentation.prompt, ?_, nofun, consistent.presentation.pristine⟩,
      consistent.receiving⟩
    rintro attempt client ⟨⟩
    exact consistent.presentation.attempt _ _ active

def start : World where
  presentation := .new
  turn := .idle

theorem start_consistent : start.Consistent := by
  refine ⟨⟨by decide, ?_, nofun, fun _ => rfl⟩, nofun⟩
  rintro attempt client ⟨⟩
  rfl

end World

theorem locker_consistent {world : World} (reachable : locker.Reachable world) : world.Consistent := by
  refine reachable.invariant World.Consistent ?_ ?_
  · rintro world rfl
    exact World.start_consistent
  · intro world label next consistent steps
    rcases World.next_change consistent steps with change | rfl
    · exact consistent.changed change
    · exact consistent

/-- The induction rule for the lock screen and its workers. -/
theorem locker_invariant {property : World → Prop} (initially : property World.start)
    (preserved : ∀ world next, locker.Reachable world → property world → world.Change next →
      property next)
    {world : World} (reachable : locker.Reachable world) : property world := by
  induction reachable with
  | initial starts => exact starts ▸ initially
  | step reached steps inductionHypothesis =>
    rcases World.next_change (locker_consistent reached) steps with change | rfl
    · exact preserved _ _ reached inductionHypothesis change
    · exact inductionHypothesis

end Genkan.Locker
