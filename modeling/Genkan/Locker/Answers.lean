import Genkan.Locker.Authorization
import Genkan.Locker.Agreement

/-! # Each prompt is answered at most once

A worker numbers the prompts of an attempt upwards, and on their way to the answer they keep their
order.  So no prompt is displayed after its answer, whether its worker still lives or not.
-/

namespace Genkan.Locker

open Foundations LockAuth SessionLock

/-- The prompt that the event displays. -/
def Stamped.prompt (event : Stamped Event) : Option (Stamped UInt64) :=
  match event.value with
  | .prompt id _ _ => some { value := id, origin := event.origin }
  | .notice .. | .success | .failure => none

namespace Client

/-- The prompts on their way to the lock screen. -/
def prompts (client : Client) : List (Stamped UInt64) := client.pending.filterMap Stamped.prompt

/-- The prompt is older than those that the worker may still send. -/
def Issued (client : Client) (prompt : Stamped UInt64) : Prop :=
  prompt.origin.process = client.process → prompt.origin.iteration < client.worker.iteration ∨
    (prompt.origin.iteration = client.worker.iteration ∧ prompt.value < client.worker.nextId)

/-- The worker still has a number for its next prompt, or has refused to send more. -/
def Counted (client : Client) : Prop := client.worker.nextId ≤ maxMessages + 1

/-! ## The numbers of a worker -/

/-- The worker does not use a number twice. -/
structure Follows (client after : Client) : Prop where
  process : after.process = client.process
  issued : ∀ prompt, client.Issued prompt → after.Issued prompt
  counted : client.Counted → after.Counted

theorem follows_of_worker {client after : Client} (process : after.process = client.process)
    (iteration : after.worker.iteration = client.worker.iteration)
    (nextId : after.worker.nextId = client.worker.nextId) : client.Follows after where
  process := process
  issued prompt issued := by simpa only [Issued, process, iteration, nextId] using issued
  counted counted := by simpa only [Counted, nextId] using counted

theorem nextId_toNat {nextId : UInt64} (room : nextId ≤ maxMessages) :
    (nextId + 1).toNat = nextId.toNat + 1 := by
  have bound : nextId.toNat ≤ 128 := UInt64.le_iff_toNat_le.mp room
  have one : (1 : UInt64).toNat = 1 := rfl
  rw [UInt64.toNat_add, one]
  omega

/-- The next number is used up. -/
theorem follows_of_used {client after : Client} (process : after.process = client.process)
    (iteration : after.worker.iteration = client.worker.iteration) (room : client.worker.nextId ≤ maxMessages)
    (nextId : after.worker.nextId = client.worker.nextId + 1) : client.Follows after where
  process := process
  issued := by
    intro prompt issued own
    rcases issued (process ▸ own) with earlier | ⟨same, used⟩
    · exact .inl (iteration ▸ earlier)
    · refine .inr ⟨iteration ▸ same, ?_⟩
      rw [UInt64.lt_iff_toNat_lt, nextId, nextId_toNat room]
      exact Nat.lt_succ_of_lt (UInt64.lt_iff_toNat_lt.mp used)
  counted := by
    intro _
    have bound : client.worker.nextId.toNat ≤ 128 := UInt64.le_iff_toNat_le.mp room
    rw [Counted, UInt64.le_iff_toNat_le, nextId, nextId_toNat room]
    exact Nat.succ_le_succ bound

/-- A new attempt starts to count again. -/
theorem follows_of_attempt {client after : Client} (process : after.process = client.process)
    (iteration : after.worker.iteration = client.worker.iteration + 1) (nextId : after.worker.nextId = 1) :
    client.Follows after where
  process := process
  issued := by
    intro prompt issued own
    left
    rw [iteration]
    rcases issued (process ▸ own) with earlier | ⟨same, _⟩
    · exact Nat.lt_succ_of_lt earlier
    · exact same ▸ Nat.lt_succ_self _
  counted := by
    intro _
    rw [Counted, nextId]
    decide

theorem receive_numbers (worker : Worker) (received : Except ProtocolError Message) :
    ((worker.receive received).iteration = worker.iteration ∧
      (worker.receive received).nextId = worker.nextId) ∨
    ((worker.receive received).iteration = worker.iteration + 1 ∧ (worker.receive received).nextId = 1) := by
  simp only [Worker.receive]
  split
  next => exact .inr ⟨rfl, rfl⟩
  next => exact .inl ⟨rfl, rfl⟩
  next => exact .inl ⟨rfl, rfl⟩
  next => exact .inl ⟨rfl, rfl⟩
  next => exact .inr ⟨rfl, rfl⟩
  next => exact .inl ⟨rfl, rfl⟩
  next => exact .inl ⟨rfl, rfl⟩
  next => exact .inl ⟨rfl, rfl⟩
  next => exact .inl ⟨rfl, rfl⟩
  next => exact .inl ⟨rfl, rfl⟩

theorem follows_of_receive {client after : Client} {received : Except ProtocolError Message}
    (process : after.process = client.process) (worker : after.worker = client.worker.receive received) :
    client.Follows after := by
  rcases receive_numbers client.worker received with ⟨iteration, nextId⟩ | ⟨iteration, nextId⟩
  · exact follows_of_worker process (worker ▸ iteration) (worker ▸ nextId)
  · exact follows_of_attempt process (worker ▸ iteration) (worker ▸ nextId)

theorem kill_nextId (worker : Worker) : worker.kill.nextId = worker.nextId := by
  simp only [Worker.kill]
  split <;> rfl

theorem follows_of_kill {client after : Client} (process : after.process = client.process)
    (worker : after.worker = client.worker.kill) : client.Follows after :=
  follows_of_worker process (by rw [worker, Worker.kill_iteration]) (by rw [worker, kill_nextId])

theorem Move.follows {client after : Client} (move : client.Move after) : client.Follows after := by
  cases move with
  | received => exact follows_of_receive rfl rfl
  | closed => exact follows_of_receive rfl rfl
  | acted authenticating outcome =>
    cases outcome with
    | silent _ phase iteration ids =>
      rcases ids with same | ⟨room, used⟩
      · exact follows_of_worker rfl iteration same
      · exact follows_of_used rfl iteration room used
    | told => exact follows_of_worker rfl rfl rfl
    | asked text secret room => exact follows_of_used rfl rfl room rfl
    | succeeded => exact follows_of_worker rfl rfl rfl
    | rejected => exact follows_of_worker rfl rfl rfl
    | lost => exact follows_of_worker rfl rfl rfl
  | exited => exact follows_of_worker rfl rfl rfl
  | died => exact follows_of_kill rfl rfl
  | broke => exact follows_of_kill rfl rfl
  | read reading isOutbox =>
    rename_i stamped rest
    rcases ({ client with outbox := rest } : Client).readMessage_cases stamped with
      ⟨_, _, reads⟩ | ⟨_, reads⟩ | reads
    · rw [reads]
      exact follows_of_worker rfl rfl rfl
    · rw [reads]
      exact follows_of_worker rfl rfl rfl
    · rw [reads]
      exact follows_of_kill rfl rfl
  | published => exact follows_of_worker rfl rfl rfl
  | dropped => exact follows_of_worker rfl rfl rfl
  | reaped => exact follows_of_worker rfl rfl rfl

/-! ## The prompts on their way -/

/-- What the reader does not hold any more is not on its way. -/
theorem pending_sublist {client after : Client} (queue : after.queue = client.queue)
    (reader : after.reader.pending = []) (outbox : after.outbox.Sublist client.outbox) :
    after.pending.Sublist client.pending := by
  rw [pending, pending, queue, reader, List.append_nil, List.append_assoc]
  exact ((outbox.filterMap _).trans (List.sublist_append_right _ _)).append_left _

theorem prompts_of_pending {client after : Client} (pending : after.pending.Sublist client.pending) :
    after.prompts.Sublist client.prompts := pending.filterMap _

/-- A step loses prompts, or it adds the one with the next number at the end. -/
theorem Move.prompts {client after : Client} (move : client.Move after) :
    after.prompts.Sublist client.prompts ∨
      (after.prompts = client.prompts ++ [{ value := client.worker.nextId, origin := client.origin }] ∧
        after.Issued { value := client.worker.nextId, origin := client.origin }) := by
  cases move with
  | received => exact .inl (List.Sublist.refl _)
  | closed => exact .inl (List.Sublist.refl _)
  | acted authenticating outcome =>
    rename_i worker message
    have spoken : Client.prompts { client with
        worker := worker
        outbox := client.outbox ++ (message.map fun message =>
          { value := message, origin := client.origin : Stamped Message }).toList
        sent := message.toList ++ client.sent } =
        client.prompts ++ (client.spoken message).filterMap Stamped.prompt := by
      simp [Client.prompts, pending, Client.spoken]
    rw [spoken]
    cases outcome with
    | asked text secret room =>
      refine .inr ⟨rfl, fun _ => .inr ⟨rfl, ?_⟩⟩
      rw [UInt64.lt_iff_toNat_lt, nextId_toNat room]
      exact Nat.lt_succ_self _
    | told text error => cases error <;> exact .inl (by simp [Client.spoken, Stamped.event, eventOf, Stamped.prompt])
    | silent => exact .inl (by simp [Client.spoken])
    | succeeded => exact .inl (by simp [Client.spoken, Stamped.event, eventOf])
    | rejected => exact .inl (by simp [Client.spoken, Stamped.event, eventOf, Stamped.prompt])
    | lost => exact .inl (by simp [Client.spoken])
  | exited => exact .inl (List.Sublist.refl _)
  | died => exact .inl (List.Sublist.refl _)
  | broke => exact .inl (prompts_of_pending (pending_sublist rfl rfl (List.Sublist.refl _)))
  | read reading isOutbox =>
    rename_i stamped rest
    have shorter : rest.Sublist client.outbox := isOutbox ▸ List.sublist_cons_self stamped rest
    rcases ({ client with outbox := rest } : Client).readMessage_cases stamped with
      ⟨event, isEvent, reads⟩ | ⟨_, reads⟩ | reads
    · rw [reads]
      have same : Client.pending (({ client with outbox := rest } : Client).publish event stamped.origin false) =
          client.pending := by
        simp [pending, publish, reading, isOutbox, Reader.pending, Stamped.event, isEvent]
      exact .inl (prompts_of_pending (same ▸ List.Sublist.refl _))
    · rw [reads]
      exact .inl (prompts_of_pending (pending_sublist rfl rfl shorter))
    · rw [reads]
      exact .inl (prompts_of_pending (pending_sublist rfl rfl shorter))
  | published publishing =>
    have same := published_pending publishing
    exact .inl (prompts_of_pending (same ▸ List.Sublist.refl _))
  | dropped => exact .inl (prompts_of_pending (pending_sublist rfl rfl (List.Sublist.refl _)))
  | reaped reaping exited =>
    left
    rw [Client.prompts, Client.prompts]
    simp only [pending, publish, reaping, Reader.pending, List.append_nil, List.filterMap_append]
    split
    next => simp [Stamped.prompt]
    next => simp [Stamped.prompt]

end Client

/-! ## Answered, displayed and on their way -/

namespace LockerPresentation

/-- The prompts of all workers that were answered, are displayed or are on their way, the oldest
first. -/
def prompts (presentation : LockerPresentation) : List (Stamped UInt64) :=
  (presentation.history.submissions.map (·.prompt)).reverse ++ presentation.promptId.toList ++
    (presentation.auth.map (·.2.prompts)).getD []

structure Ordered (presentation : LockerPresentation) : Prop where
  distinct : presentation.prompts.Nodup
  started : ∀ prompt ∈ presentation.prompts, prompt.origin.process < presentation.history.started
  issued : ∀ attempt client, presentation.auth = some (attempt, client) →
    (∀ prompt ∈ presentation.prompts, client.Issued prompt) ∧ client.Counted

/-- Prompts may get lost, and the worker may change or be another one. -/
theorem Ordered.fewer {presentation next : LockerPresentation} (ordered : presentation.Ordered)
    (prompts : next.prompts.Sublist presentation.prompts)
    (started : presentation.history.started ≤ next.history.started)
    (follows : ∀ attempt after, next.auth = some (attempt, after) →
      (∃ attempt client, presentation.auth = some (attempt, client) ∧ client.Follows after) ∨
      (after.Counted ∧ presentation.history.started ≤ after.process)) : next.Ordered where
  distinct := prompts.nodup ordered.distinct
  started prompt member := Nat.lt_of_lt_of_le (ordered.started prompt (prompts.subset member)) started
  issued := by
    intro attempt after active
    rcases follows attempt after active with ⟨previous, client, wasActive, follows⟩ | ⟨counted, fresh⟩
    · obtain ⟨issued, counted⟩ := ordered.issued previous client wasActive
      exact ⟨fun prompt member => follows.issued prompt (issued prompt (prompts.subset member)),
        follows.counted counted⟩
    · refine ⟨?_, counted⟩
      intro prompt member own
      have older := ordered.started prompt (prompts.subset member)
      rw [own] at older
      exact absurd older (Nat.not_lt.mpr fresh)

theorem posted_follows (client : Client) (posted : Posted) (confirmed : Bool) :
    client.Follows (client.posted posted confirmed) := Client.follows_of_worker rfl rfl rfl

theorem Continues.started {presentation next : LockerPresentation} (continues : presentation.Continues next) :
    presentation.history.started ≤ next.history.started := by
  rcases continues.processes with ⟨_, same⟩ | ⟨_, more⟩
  · exact Nat.le_of_eq same.symm
  · exact more ▸ Nat.le_succ _

/-- A submission takes the displayed prompt to the answered ones. -/
theorem Continues.prompts {presentation next : LockerPresentation} (continues : presentation.Continues next)
    (hidden : next.promptId = none)
    (under : ((next.auth.map (·.2.prompts)).getD []).Sublist
      ((presentation.auth.map (·.2.prompts)).getD [])) :
    next.prompts.Sublist presentation.prompts := by
  rcases continues.submissions with same | ⟨prompt, displayed, more⟩
  · simp only [LockerPresentation.prompts, hidden, same, Option.toList_none, List.append_nil]
    exact (List.sublist_append_left _ _).append under
  · simp only [LockerPresentation.prompts, hidden, more, displayed, Option.toList_none, List.append_nil,
      Option.toList_some, List.map_cons, List.reverse_cons, submission]
    exact under.append_left _

theorem Ordered.changed {presentation next : LockerPresentation} (ordered : presentation.Ordered)
    (change : presentation.Change next) : next.Ordered := by
  cases change with
  | edited conversation page status attempt => exact ⟨ordered.distinct, ordered.started, ordered.issued⟩
  | began unconfirmed active alive =>
    refine ordered.fewer ?_ (Nat.le_refl _) ?_
    · simp only [prompts, active]
      exact List.Sublist.refl _
    · rintro _ _ ⟨⟩
      exact .inl ⟨_, _, active, posted_follows _ _ _⟩
  | responded confirmed active alive displayed waiting status same bytes =>
    refine ordered.fewer ?_ (Nat.le_refl _) ?_
    · -- The displayed prompt becomes a submission and keeps its place.
      simp only [prompts, active, displayed, recordSubmission, submission, List.map_cons, List.reverse_cons,
        Option.toList_none, Option.toList_some, List.append_nil]
      exact List.Sublist.refl _
    · rintro _ _ ⟨⟩
      exact .inl ⟨_, _, active, posted_follows _ _ _⟩
  | retried confirmed failed active alive status =>
    refine ordered.fewer ?_ (Nat.le_refl _) ?_
    · simp only [prompts, active, Option.toList_none, List.append_nil]
      exact (List.sublist_append_left _ _).append_right _
    · rintro _ _ ⟨⟩
      exact .inl ⟨_, _, active, posted_follows _ _ _⟩
  | failed _ confirmed status prompt worker continues =>
    refine ordered.fewer (continues.prompts prompt ?_) continues.started ?_
    · rcases worker with absent | ⟨same, _⟩
      · simp [absent]
      · rw [same]
    · intro attempt after active
      rcases worker with absent | ⟨same, _⟩
      · simp [absent] at active
      · exact .inl ⟨attempt, after, same ▸ active, Client.follows_of_worker rfl rfl rfl⟩
  | replaced _ confirmed stays status prompt worker continues =>
    refine ordered.fewer (continues.prompts prompt ?_) continues.started ?_
    · rw [worker]
      exact List.nil_sublist _
    · intro attempt after active
      rw [worker] at active
      cases active
      have first : (1 : UInt64) ≤ maxMessages + 1 := by decide
      exact .inr ⟨first, Nat.le_refl _⟩

theorem Ordered.handled {presentation : LockerPresentation} (ordered : presentation.Ordered)
    (consistent : presentation.Consistent) {attempt : Attempt} {client : Client} {event : Stamped Event}
    {rest : List (Stamped Event)} (active : presentation.auth = some (attempt, client))
    (isQueue : client.queue = event :: rest) :
    ((presentation.withClient attempt { client with queue := rest }).handleEvent attempt event).Ordered := by
  have current := consistent.attempt attempt client active
  let taken := presentation.withClient attempt { client with queue := rest }
  have handled := taken.handleEvent_handled attempt event
  have prompts : (taken.handleEvent attempt event).prompts.Sublist presentation.prompts := by
    have split : client.prompts =
        event.prompt.toList ++ Client.prompts { client with queue := rest } := by
      cases isPrompt : event.prompt with
      | none => simp [Client.prompts, Client.pending, isQueue, isPrompt]
      | some prompt => simp [Client.prompts, Client.pending, isQueue, isPrompt]
    -- A prompt takes the place of the displayed one; any other event keeps it or takes it away.
    have displays : (taken.handleEvent attempt event).promptId.toList.Sublist
        (presentation.promptId.toList ++ event.prompt.toList) := by
      obtain ⟨value, origin⟩ := event
      cases value with
      | prompt id secret text =>
        rw [(taken.handleEvent_prompt id secret text origin current).2.1]
        exact List.sublist_append_right _ _
      | notice error text =>
        rw [(taken.handleEvent_notice attempt error text origin).2.1]
        exact List.sublist_append_left _ _
      | success =>
        rw [(taken.handleEvent_success origin current).2.1]
        exact List.nil_sublist _
      | failure =>
        rw [(taken.handleEvent_failure origin current).2.1]
        exact List.nil_sublist _
    have answered : (taken.handleEvent attempt event).history.submissions = presentation.history.submissions :=
      handled.submissions
    have worker : (taken.handleEvent attempt event).auth = some (attempt, { client with queue := rest }) :=
      handled.auth
    simp only [LockerPresentation.prompts, answered, worker, active, Option.map_some, Option.getD_some, split]
    rw [List.append_assoc, List.append_assoc, ← List.append_assoc presentation.promptId.toList]
    exact (displays.append_right _).append_left _
  refine ordered.fewer prompts (Nat.le_of_eq handled.started.symm) ?_
  intro other after isOther
  rw [handled.auth] at isOther
  cases isOther
  exact .inl ⟨attempt, client, active, Client.follows_of_worker rfl rfl rfl⟩

theorem Ordered.moved {presentation : LockerPresentation} (ordered : presentation.Ordered)
    (numbered : presentation.Numbered) {attempt : Attempt} {client after : Client}
    (active : presentation.auth = some (attempt, client)) (move : client.Move after) :
    Ordered { presentation with auth := some (attempt, after) } := by
  obtain ⟨issued, counted⟩ := ordered.issued attempt client active
  have follows := move.follows
  rcases move.prompts with fewer | ⟨added, isIssued⟩
  · refine ordered.fewer ?_ (Nat.le_refl _) ?_
    · simp only [prompts, active, Option.map_some, Option.getD_some]
      exact fewer.append_left _
    · rintro _ _ ⟨⟩
      exact .inl ⟨attempt, client, active, follows⟩
  · have whole : prompts { presentation with auth := some (attempt, after) } =
        presentation.prompts ++ [{ value := client.worker.nextId, origin := client.origin }] := by
      simp only [prompts, active, Option.map_some, Option.getD_some, added, List.append_assoc]
    refine ⟨?_, ?_, ?_⟩
    · rw [whole, List.nodup_append]
      refine ⟨ordered.distinct, List.nodup_singleton _, ?_⟩
      intro prompt member fresh isFresh same
      rw [List.mem_singleton] at isFresh
      subst isFresh
      subst same
      rcases issued _ member rfl with earlier | ⟨_, used⟩
      · exact Nat.lt_irrefl _ earlier
      · exact Nat.lt_irrefl _ (UInt64.lt_iff_toNat_lt.mp used)
    · intro prompt member
      rw [whole, List.mem_append, List.mem_singleton] at member
      rcases member with old | rfl
      · exact ordered.started prompt old
      · exact numbered.older client.process (by simp [processes, active])
    · rintro _ _ ⟨⟩
      refine ⟨?_, follows.counted counted⟩
      intro prompt member
      rw [whole, List.mem_append, List.mem_singleton] at member
      rcases member with old | rfl
      · exact follows.issued prompt (issued prompt old)
      · exact isIssued

theorem new_ordered : new.Ordered where
  distinct := List.nodup_nil
  started prompt member := absurd member (List.not_mem_nil)
  issued := by
    rintro _ _ ⟨⟩
    have first : (1 : UInt64) ≤ maxMessages + 1 := by decide
    exact ⟨fun prompt member => absurd member (List.not_mem_nil), first⟩

end LockerPresentation

theorem locker_ordered {world : World} (reachable : locker.Reachable world) : world.presentation.Ordered := by
  refine @locker_invariant (fun world => world.presentation.Ordered) LockerPresentation.new_ordered ?_ _
    reachable
  intro world next reached ordered change
  cases change with
  | input idle change => exact ordered.changed change
  | event receiving active isQueue =>
    exact ordered.handled (locker_consistent reached).presentation active isQueue
  | turned polls notIdle => exact ordered
  | taken received => exact ⟨ordered.distinct, ordered.started, ordered.issued⟩
  | moved active move => exact ordered.moved (locker_trusted reached).numbered active move

/-! ## Typed text -/

namespace LockerPresentation

/-- There is typed text only while the user is asked. -/
def Typed (presentation : LockerPresentation) : Prop :=
  presentation.conversation.status ≠ .waiting → presentation.conversation.input = ""

theorem typed_of_cleared {presentation : LockerPresentation} (cleared : presentation.conversation.input = "") :
    presentation.Typed := fun _ => cleared

theorem Typed.received {presentation next : LockerPresentation} (typed : presentation.Typed)
    {attempt : Attempt} {response : Response}
    (isNext : next.conversation = (presentation.conversation.receive attempt response).1) : next.Typed := by
  intro idle
  rw [isNext] at idle ⊢
  simp only [Conversation.receive] at idle ⊢
  split
  next rejects =>
    rw [if_pos rejects] at idle
    exact typed idle
  next accepts =>
    rw [if_neg accepts] at idle
    cases response with
    | notice error message => exact typed idle
    | prompt secret message => rfl
    | success => rfl
    | failure message => rfl

theorem Typed.failed {presentation : LockerPresentation} (typed : presentation.Typed) :
    presentation.failAuthentication.Typed := typed.received rfl

theorem Typed.handled {presentation : LockerPresentation} (typed : presentation.Typed) (attempt : Attempt)
    (event : Stamped Event) : (presentation.handleEvent attempt event).Typed := by
  simp only [handleEvent]
  split
  next => exact typed.received rfl
  next => exact typed.received rfl
  next => split <;> exact typed.received rfl
  next => exact typed.received rfl

theorem dropWorker_conversation (presentation : LockerPresentation) :
    presentation.dropWorker.conversation = presentation.conversation := by
  simp only [dropWorker]
  split <;> rfl

theorem Typed.replaced {presentation : LockerPresentation} (typed : presentation.Typed) (attempt : Attempt)
    (environment : Environment) : (presentation.replaceWorker attempt environment).Typed := by
  have dropped : presentation.dropWorker.Typed := by
    rw [Typed, dropWorker_conversation]
    exact typed
  simp only [replaceWorker]
  split
  next => exact dropped.failed
  next =>
    split
    next => exact dropped
    next => exact dropped.received rfl

theorem retry_typed (presentation : LockerPresentation) (environment : Environment) :
    (presentation.retry environment).1.Typed := by
  have begun : Typed { presentation with
      instructionPage := 0
      conversation := presentation.conversation.beginAttempt.1 } := typed_of_cleared rfl
  simp only [retry]
  split
  next =>
    split
    next => exact begun
    next => exact begun.replaced _ environment
  next => exact begun.replaced _ environment

theorem Typed.cancelled {presentation : LockerPresentation} (typed : presentation.Typed)
    (environment : Environment) : (presentation.cancelAttempt environment).1.Typed := by
  simp only [cancelAttempt]
  split
  next => exact typed
  next =>
    refine Typed.replaced ?_ _ environment
    exact typed_of_cleared rfl

theorem Typed.confirmed {presentation : LockerPresentation} (typed : presentation.Typed)
    (environment : Environment) : (presentation.lockConfirmed environment).Typed := by
  simp only [lockConfirmed]
  split
  next => exact typed.received rfl
  next =>
    split
    next => exact typed
    next => exact typed.received rfl

theorem Typed.submitted {presentation : LockerPresentation} (typed : presentation.Typed)
    (environment : Environment) : (presentation.submit environment).1.Typed := by
  simp only [submit]
  split
  next => exact typed
  next =>
    by_cases waiting : presentation.conversation.status = .waiting
    · have cleared : Typed { presentation with
          conversation := { presentation.conversation with status := .submitting, input := "" } } :=
        typed_of_cleared rfl
      simp only [Conversation.submit, waiting, ne_eq, not_true_eq_false, if_false]
      split
      next => exact cleared
      next =>
        split
        next => exact cleared.received rfl
        next =>
          split
          next => exact cleared
          next => exact cleared.received rfl
    · simp only [Conversation.submit, ne_eq, waiting, not_false_eq_true, if_true]
      exact typed

theorem Typed.input {presentation : LockerPresentation} (typed : presentation.Typed) (input : Input)
    (environment : Environment) : (presentation.input input environment).1.Typed := by
  simp only [LockerPresentation.input]
  split
  next => exact typed
  next =>
    cases input with
    | text text =>
      intro idle
      simp only [Conversation.pushInput] at idle ⊢
      split
      next => exact typed ‹_›
      next waiting =>
        rw [if_neg waiting] at idle
        exact absurd idle waiting
    | backspace =>
      intro idle
      simp only [Conversation.popInput] at idle ⊢
      split
      next => exact typed ‹_›
      next waiting =>
        rw [if_neg waiting] at idle
        split at idle
        next => exact absurd idle waiting
        next => exact absurd idle waiting
    | submit =>
      dsimp only
      split
      next => exact presentation.retry_typed environment
      next => exact typed.submitted environment
    | cancel => exact typed.cancelled environment
    | nextPage =>
      simp only [nextPage]
      split <;> exact typed

theorem Typed.receivedEvent {presentation next : LockerPresentation} (typed : presentation.Typed)
    (receives : presentation.receiveEvent = some next) : next.Typed := by
  simp only [LockerPresentation.receiveEvent] at receives
  split at receives
  next => contradiction
  next attempt client active =>
    split at receives
    next => contradiction
    next event after received =>
      have taken : Typed { presentation with auth := some (attempt, after), instructionPage := 0 } := typed
      split at receives
      next =>
        cases receives
        exact typed
      next =>
        cases receives
        exact taken.handled attempt event

end LockerPresentation

theorem locker_typed {world : World} (reachable : locker.Reachable world) : world.presentation.Typed := by
  refine reachable.invariant (fun world => world.presentation.Typed) ?_ ?_
  · rintro _ rfl
    exact LockerPresentation.typed_of_cleared rfl
  · intro world label next typed steps
    have onClient : ∀ step, world.onClient step = some next → next.presentation.Typed := by
      intro step steps
      simp only [World.onClient] at steps
      split at steps
      next => contradiction
      next =>
        obtain ⟨after, _, rfl⟩ := Option.map_eq_some_iff.mp steps
        exact typed
    cases label with
    | lockConfirmed environment =>
      obtain ⟨_, isNext⟩ := Option.ite_none_right_eq_some.mp steps
      cases isNext
      exact typed.confirmed environment
    | input input environment =>
      obtain ⟨_, isNext⟩ := Option.ite_none_right_eq_some.mp steps
      cases isNext
      exact typed.input input environment
    | receiveLatest =>
      obtain ⟨_, isNext⟩ := Option.ite_none_right_eq_some.mp steps
      cases isNext
      exact typed
    | receiveEvent =>
      have receives : world.receiveEvent = some next := steps
      simp only [World.receiveEvent] at receives
      split at receives
      next =>
        split at receives
        next presentation handled =>
          cases receives
          exact typed.receivedEvent handled
        next =>
          cases receives
          exact typed
      next =>
        cases receives
        exact typed
      next => contradiction
      next => contradiction
    | takeAuthorization =>
      obtain ⟨_, isNext⟩ := Option.ite_none_right_eq_some.mp steps
      cases isNext
      exact typed
    | workerReceive => exact onClient _ steps
    | workerAct act => exact onClient _ steps
    | workerExit => exact onClient _ steps
    | workerDies => exact onClient _ steps
    | readerStep fails => exact onClient _ steps

/-! ## Submitting -/

theorem Client.respond_ok {client after : Client} {submission : Submission} {confirmed : Bool}
    {outcome : Except ProtocolError Unit}
    (sent : client.respond submission confirmed outcome = (after, .ok ())) :
    ∃ response, response.value = intoBytes submission.text ∧ after = client.posted
      { message := .response submission.prompt.value response, submission := some submission } confirmed := by
  simp only [respond] at sent
  split at sent
  next => cases sent
  next response isSecret =>
    refine ⟨response, Secret.new_value isSecret, ?_⟩
    rcases client.send_cases { message := .response submission.prompt.value response
                               submission := some submission } confirmed outcome with
      ⟨_, posts⟩ | ⟨error, fails⟩
    · rw [posts] at sent
      cases sent
      rfl
    · rw [fails] at sent
      cases sent

namespace LockerPresentation

/-- The worker is sent the text as the response to the prompt. -/
def Responds (presentation next : LockerPresentation) (prompt : Stamped UInt64) : Prop :=
  ∃ attempt client response, presentation.auth = some (attempt, client) ∧
    response.value = intoBytes presentation.conversation.input ∧
    next.auth = some (attempt, client.posted
      { message := .response prompt.value response
        submission := some (presentation.submission prompt presentation.conversation.input) } true)

/-- The user is told that the worker is gone. -/
def Reports (next : LockerPresentation) : Prop :=
  next.conversation.status = .failed ∧
    next.conversation.message = some (boundedText "Authentication worker unavailable")

theorem failAuthentication_reports (presentation : LockerPresentation) :
    presentation.failAuthentication.Reports := by
  refine ⟨by simp [failAuthentication], ?_⟩
  simp [failAuthentication, Conversation.fail, Conversation.receive, Conversation.accepts,
    Conversation.setNotice]

/-- The displayed prompt and the typed text are recorded as one answer, which is sent or reported as
lost. -/
theorem submit_answers {presentation : LockerPresentation} (consistent : presentation.Consistent)
    {prompt : Stamped UInt64} (displayed : presentation.promptId = some prompt) (environment : Environment) :
    let next := (presentation.input .submit environment).1
    next.history.submissions = presentation.submission prompt presentation.conversation.input ::
        presentation.history.submissions ∧
      (presentation.Responds next prompt ∨ next.Reports) := by
  have waiting := consistent.prompt.mp (by simp [displayed])
  have confirmed : presentation.confirmed = true := by
    by_contra unconfirmed
    have submitting := consistent.pristine (by simpa using unconfirmed)
    simp [waiting] at submitting
  simp only [LockerPresentation.input, confirmed, Bool.not_true, Bool.false_eq_true, if_false, waiting,
    reduceCtorEq, submit, displayed, Conversation.submit, ne_eq, not_true_eq_false]
  split
  next absent =>
    have failed := consistent.absent absent
    simp [waiting] at failed
  next attempt client active =>
    split
    next => exact ⟨rfl, .inr (failAuthentication_reports _)⟩
    next =>
      split
      next after sent =>
        obtain ⟨response, bytes, rfl⟩ := Client.respond_ok sent
        exact ⟨rfl, .inl ⟨attempt, client, response, active, bytes, rfl⟩⟩
      next => exact ⟨rfl, .inr (failAuthentication_reports _)⟩

end LockerPresentation

/-- In every reachable state a prompt is kept exactly while the user is asked.  Submitting answers it with
the typed text, which is sent to the worker or reported as lost; without a prompt nothing is typed.  No
prompt is answered twice. -/
theorem prompt_answered {world : World} (reachable : locker.Reachable world) :
    (world.presentation.promptId.isSome = true ↔ world.presentation.conversation.status = .waiting) ∧
    (∀ prompt environment, world.presentation.promptId = some prompt →
      let next := (world.presentation.input .submit environment).1
      next.history.submissions = world.presentation.submission prompt world.presentation.conversation.input ::
          world.presentation.history.submissions ∧
        (world.presentation.Responds next prompt ∨ next.Reports)) ∧
    (world.presentation.promptId = none → world.presentation.conversation.input = "") ∧
    (world.presentation.history.submissions.map (·.prompt)).Nodup := by
  have consistent := (locker_consistent reachable).presentation
  refine ⟨consistent.prompt, ?_, ?_, ?_⟩
  · intro prompt environment displayed
    exact LockerPresentation.submit_answers consistent displayed environment
  · intro absent
    refine locker_typed reachable ?_
    intro waiting
    exact absurd (consistent.prompt.mpr waiting) (by simp [absent])
  · have distinct := (locker_ordered reachable).distinct
    have answered := (List.nodup_append.mp (List.nodup_append.mp distinct).1).1
    exact List.nodup_reverse.mp answered

/-- The worker asks, and the user has not answered yet. -/
def askedWorld : World := ((answerLabels.take 9).foldlM World.next World.start).getD World.start

theorem askedWorld_reachable : locker.Reachable askedWorld :=
  TransitionSystem.reachable_of_labels (.initial rfl) (answerLabels.take 9) rfl

theorem prompt_answered_asked :
    askedWorld.presentation.conversation.status = .waiting ∧
    ∃ prompt, askedWorld.presentation.promptId = some prompt ∧ ∀ environment,
      let next := (askedWorld.presentation.input .submit environment).1
      next.history.submissions = [askedWorld.presentation.submission prompt ""] ∧
        (askedWorld.presentation.Responds next prompt ∨ next.Reports) := by
  obtain ⟨waits, answers, _, _⟩ := prompt_answered askedWorld_reachable
  exact ⟨waits.mp rfl, _, rfl, fun environment => answers _ environment rfl⟩

end Genkan.Locker
