import Genkan.Locker.Agreement
import Genkan.Locker.Authorization

/-! # Progress

While the user waits, the worker or its reader owes the lock screen an event that ends the wait, and
nothing but their own steps is needed to produce it.
-/

namespace Genkan.Locker

open Foundations LockAuth SessionLock

/-- `run` of the worker has come to its end. -/
def isOver : Phase → Bool
  | .returning _ | .exited _ => true
  | .awaitingBegin | .authenticating | .prompting _ | .awaitingRetry => false

/-- Reading the message leads to an event that ends the wait. -/
def settling : Message → Bool
  | .info _ | .error _ => false
  | .prompt .. | .success | .failure | .ready .. | .response .. | .cancel | .retry | .begin => true

namespace Client

/-- The reader reads or will read again. -/
def Reads (client : Client) : Prop :=
  client.reader = .reading ∨ ∃ event, client.reader = .publishing event false

/-- An event that ends the wait is under way, or the worker has something to do. -/
inductive Owes (client : Client) : Prop
  | queued {event : Stamped Event} (member : event ∈ client.queue) (settles : event.value.settles = true)
  | publishing {event : Stamped Event} {last : Bool} (publishing : client.reader = .publishing event last)
      (settles : event.value.settles = true)
  | reaping {success : Bool} (reaping : client.reader = .reaping success)
  | written {stamped : Stamped Message} (reads : client.Reads) (member : stamped ∈ client.outbox)
      (settles : settling stamped.value = true)
  | running (reads : client.Reads) (running : client.worker.phase.waits = false)
  | told (reads : client.Reads) (told : client.inbox ≠ [])

/-- The worker's success is read only when the worker has come to its end. -/
structure Ended (client : Client) : Prop where
  outbox : ∀ stamped ∈ client.outbox, stamped.value = .success → isOver client.worker.phase = true
  reaping : ∀ success, client.reader = .reaping success → isOver client.worker.phase = true

theorem over_of_exited {phase : Phase} {clean : Bool} (exited : phase = .exited clean) :
    isOver phase = true := by
  simp [exited, isOver]

theorem Ended.of_busy {client after : Client} (ended : client.Ended)
    (busy : isOver client.worker.phase = false) (reader : after.reader = client.reader)
    (outbox : ∀ stamped ∈ after.outbox, stamped ∈ client.outbox ∨
      (stamped.value = .success → isOver after.worker.phase = true)) : after.Ended := by
  refine ⟨?_, ?_⟩
  · intro stamped member success
    cases outbox stamped member with
    | inl old => exact absurd (busy.symm.trans (ended.outbox stamped old success)) nofun
    | inr isNew => exact isNew success
  · intro success reaping
    exact absurd (busy.symm.trans (ended.reaping success (reader ▸ reaping))) nofun

theorem Ended.moved {client after : Client} (ended : client.Ended) (move : client.Move after) :
    after.Ended := by
  have waiting : client.worker.phase.waits = true → isOver client.worker.phase = false := by
    cases client.worker.phase <;> simp [Phase.waits, isOver]
  cases move with
  | received waits isInbox => exact ended.of_busy (waiting waits) rfl fun _ => .inl
  | closed waits shutdown => exact ended.of_busy (waiting waits) rfl fun _ => .inl
  | acted authenticating outcome =>
    refine ended.of_busy (by simp [authenticating, isOver]) rfl ?_
    intro stamped member
    cases List.mem_append.mp member with
    | inl old => exact .inl old
    | inr isNew =>
      right
      cases outcome with
      | silent => simp at isNew
      | told text error => cases error <;> simp at isNew <;> simp [isNew]
      | asked => simp at isNew; simp [isNew]
      | succeeded => exact fun _ => rfl
      | rejected => simp at isNew; simp [isNew]
      | lost => simp at isNew
  | exited returning => exact ⟨fun _ _ _ => rfl, fun _ _ => rfl⟩
  | died alive =>
    obtain ⟨clean, exited⟩ := client.worker.kill_exited
    exact ⟨fun _ _ _ => over_of_exited exited, fun _ _ => over_of_exited exited⟩
  | broke busy =>
    obtain ⟨clean, exited⟩ := client.worker.kill_exited
    exact ⟨fun _ _ _ => over_of_exited exited, fun _ _ => over_of_exited exited⟩
  | read reading isOutbox =>
    rename_i stamped rest
    have tail : ∀ other ∈ rest, other.value = .success → isOver client.worker.phase = true :=
      fun other member => ended.outbox other (isOutbox ▸ .tail _ member)
    rcases ({ client with outbox := rest } : Client).readMessage_cases stamped with
      ⟨_, _, reads⟩ | ⟨success, reads⟩ | reads
    · rw [reads]
      exact ⟨tail, (by simp [publish])⟩
    · rw [reads]
      exact ⟨tail, fun _ _ => ended.outbox stamped (isOutbox ▸ .head _) success⟩
    · obtain ⟨clean, exited⟩ := client.worker.kill_exited
      rw [reads]
      exact ⟨fun _ _ _ => over_of_exited exited, fun _ _ => over_of_exited exited⟩
  | published publishing events =>
    refine ⟨ended.outbox, ?_⟩
    intro success reaping
    split at reaping <;> contradiction
  | dropped publishing events => exact ⟨ended.outbox, (by simp)⟩
  | reaped reaping exited => exact ⟨ended.outbox, (by simp [publish])⟩

/-! ## What is owed stays owed -/

theorem settles_of_eventOf {message : Message} {event : Event} (isEvent : eventOf message = some event) :
    event.settles = settling message := by
  cases message with
  | prompt | info | error | failure => cases isEvent; rfl
  | _ => contradiction

theorem not_waits_of_receive {worker : Worker} (waits : worker.phase.waits = true)
    (received : Except ProtocolError Message) : (worker.receive received).phase.waits = false := by
  rcases Worker.receive_phase waits received with authenticating | ⟨success, returning⟩
  · simp [authenticating, Phase.waits]
  · simp [returning, Phase.waits]

/-- A step of the worker, by which it keeps running or writes something that ends the wait. -/
theorem Owes.worked {client after : Client} (owes : client.Owes) (reader : after.reader = client.reader)
    (queue : after.queue = client.queue)
    (works : after.worker.phase.waits = false ∨
      ∃ stamped ∈ after.outbox, settling stamped.value = true) : after.Owes := by
  have busy : client.Reads → after.Owes := by
    intro reads
    have readsAfter : after.Reads := by simpa [Reads, reader] using reads
    rcases works with running | ⟨stamped, member, settles⟩
    · exact .running readsAfter running
    · exact .written readsAfter member settles
  cases owes with
  | queued member settles => exact .queued (queue ▸ member) settles
  | publishing publishing settles => exact .publishing (reader ▸ publishing) settles
  | reaping reaping => exact .reaping (reader ▸ reaping)
  | written reads => exact busy reads
  | running reads => exact busy reads
  | told reads => exact busy reads

/-- Reading carries on what is owed, or breaks off, which is reported as a failure. -/
theorem Owes.read {client : Client} (owes : client.Owes) {stamped : Stamped Message}
    {rest : List (Stamped Message)} (reading : client.reader = .reading)
    (isOutbox : client.outbox = stamped :: rest) :
    (({ client with outbox := rest } : Client).readMessage stamped).Owes := by
  rcases ({ client with outbox := rest } : Client).readMessage_cases stamped with
    ⟨event, isEvent, reads⟩ | ⟨_, reads⟩ | reads
  · rw [reads]
    by_cases settles : event.settles = true
    · exact .publishing rfl settles
    · have readsOn : (({ client with outbox := rest } : Client).publish event stamped.origin false).Reads :=
        .inr ⟨_, rfl⟩
      cases owes with
      | queued member isSettling => exact .queued member isSettling
      | publishing publishing => exact absurd (reading.symm.trans publishing) nofun
      | reaping reaping => exact absurd (reading.symm.trans reaping) nofun
      | written _ member isSettling =>
        rw [isOutbox] at member
        rcases List.mem_cons.mp member with rfl | old
        · exact absurd ((settles_of_eventOf isEvent).trans isSettling) settles
        · exact .written readsOn old isSettling
      | running _ running => exact .running readsOn running
      | told _ told => exact .told readsOn told
  · rw [reads]
    exact .reaping rfl
  · rw [reads]
    exact .reaping rfl

theorem Owes.published {client : Client} (owes : client.Owes) {event : Stamped Event} {last : Bool}
    (publishing : client.reader = .publishing event last) :
    ({ client with
        queue := client.queue ++ [event]
        reader := if last then .done else .reading } : Client).Owes := by
  have readsOn : client.Reads → ({ client with
      queue := client.queue ++ [event]
      reader := if last then .done else .reading } : Client).Reads := by
    rintro (reading | ⟨other, unfinished⟩)
    · exact absurd (reading.symm.trans publishing) nofun
    · obtain ⟨_, rfl⟩ := Reader.publishing.inj (unfinished.symm.trans publishing)
      exact .inl rfl
  cases owes with
  | queued member settles => exact .queued (List.mem_append_left _ member) settles
  | publishing other settles =>
    obtain ⟨rfl, _⟩ := Reader.publishing.inj (other.symm.trans publishing)
    exact .queued (List.mem_append_right _ (.head _)) settles
  | reaping reaping => exact absurd (reaping.symm.trans publishing) nofun
  | written reads member settles => exact .written (readsOn reads) member settles
  | running reads running => exact .running (readsOn reads) running
  | told reads told => exact .told (readsOn reads) told

theorem Owes.moved {client after : Client} (owes : client.Owes) (attached : client.Attached)
    (move : client.Move after) : after.Owes := by
  cases move with
  | received waits isInbox =>
    exact owes.worked rfl rfl (.inl (not_waits_of_receive waits _))
  | closed waits shutdown => exact absurd (attached.shutdown.symm.trans shutdown) (by simp)
  | acted authenticating outcome =>
    refine owes.worked rfl rfl ?_
    cases outcome with
    | silent _ phase => exact .inl (by simp [phase, authenticating, Phase.waits])
    | told => exact .inl (by simp [authenticating, Phase.waits])
    | asked => exact .inr ⟨_, List.mem_append_right _ (.head _), rfl⟩
    | succeeded => exact .inl rfl
    | rejected => exact .inr ⟨_, List.mem_append_right _ (.head _), rfl⟩
    | lost => exact .inl rfl
  | exited returning => exact owes.worked rfl rfl (.inl rfl)
  | died alive =>
    obtain ⟨clean, exited⟩ := client.worker.kill_exited
    exact owes.worked rfl rfl (.inl (by simp [exited, Phase.waits]))
  | broke busy => exact .reaping rfl
  | read reading isOutbox => exact owes.read reading isOutbox
  | published publishing events => exact owes.published publishing
  | dropped publishing events => exact absurd (attached.events.symm.trans events) (by simp)
  | reaped reaping exited =>
    refine .publishing rfl ?_
    split <;> rfl

/-- A worker that lives and is told something owes an event. -/
theorem owes_of_posted {client : Client} (terminal : client.Terminal)
    (alive : client.worker.exited = false) (posted : Posted) (wrote : Bool) :
    (client.posted posted wrote).Owes := by
  have told : (client.posted posted wrote).inbox ≠ [] := by simp [Client.posted]
  cases reader : client.reader with
  | reading => exact .told (.inl reader) told
  | publishing event last =>
    cases last with
    | false => exact .told (.inr ⟨event, reader⟩) told
    | true => exact absurd (alive.symm.trans (terminal.last event reader)) (by simp)
  | reaping success => exact .reaping reader
  | done => exact absurd (alive.symm.trans (terminal.done reader)) (by simp)

theorem Owes.received {client : Client} (owes : client.Owes) {event : Stamped Event}
    {rest : List (Stamped Event)} (isQueue : client.queue = event :: rest)
    (continues : event.value.settles = false) : ({ client with queue := rest } : Client).Owes := by
  cases owes with
  | queued member settles =>
    rw [isQueue] at member
    rcases List.mem_cons.mp member with rfl | old
    · exact absurd (continues.symm.trans settles) nofun
    · exact .queued old settles
  | publishing publishing settles => exact .publishing publishing settles
  | reaping reaping => exact .reaping reaping
  | written reads member settles => exact .written reads member settles
  | running reads running => exact .running reads running
  | told reads told => exact .told reads told

/-! ## What can happen next -/

/-- The worker need not wait for the lock screen. -/
def workerRuns (client : Client) : Prop :=
  client.worker.phase = .authenticating ∨ (∃ success, client.worker.phase = .returning success) ∨
    (client.worker.phase.waits = true ∧ client.inbox ≠ [])

/-- Something will reach the lock screen without its help. -/
def OnItsWay (client : Client) : Prop :=
  client.queue ≠ [] ∨ client.outbox ≠ [] ∨ client.workerRuns ∨ (client.readerStep false).isSome = true

theorem Owes.onItsWay {client : Client} (owes : client.Owes) (attached : client.Attached)
    (ended : client.Ended) : client.OnItsWay := by
  by_cases drained : client.queue = []
  case neg => exact .inl drained
  by_cases silent : client.outbox = []
  case neg => exact .inr (.inl silent)
  have publishes : ∀ event last, client.reader = .publishing event last → client.OnItsWay := by
    intro event last publishing
    refine .inr (.inr (.inr ?_))
    simp [readerStep, publishing, attached.events, drained, eventCapacity]
  have stopped : isOver client.worker.phase = true → client.reader = .reading ∨
      (∃ success, client.reader = .reaping success) → client.OnItsWay := by
    intro stopped reader
    refine .inr (.inr ?_)
    cases phase : client.worker.phase with
    | returning success => exact .inl (.inr (.inl ⟨success, phase⟩))
    | exited clean =>
      right
      rcases reader with reading | ⟨success, reaping⟩
      · simp [readerStep, reading, silent, Worker.exited, phase]
      · simp [readerStep, reaping, phase]
    | _ => simp [phase, isOver] at stopped
  -- A reader with nothing to read waits for the worker, which has something to do.
  have reads : client.Reads → client.worker.phase.waits = false ∨ client.inbox ≠ [] →
      client.OnItsWay := by
    rintro (reading | ⟨event, publishing⟩) works
    · cases phase : client.worker.phase with
      | authenticating => exact .inr (.inr (.inl (.inl phase)))
      | returning success => exact stopped (by simp [phase, isOver]) (.inl reading)
      | exited clean => exact stopped (by simp [phase, isOver]) (.inl reading)
      | _ =>
        simp only [phase, Phase.waits, Bool.true_eq_false, false_or] at works
        exact .inr (.inr (.inl (.inr (.inr ⟨by simp [phase, Phase.waits], works⟩))))
    · exact publishes event false publishing
  cases owes with
  | queued member => simp [drained] at member
  | publishing publishing => exact publishes _ _ publishing
  | reaping reaping => exact stopped (ended.reaping _ reaping) (.inr ⟨_, reaping⟩)
  | written _ member => simp [silent] at member
  | running isReading running => exact reads isReading (.inl running)
  | told isReading told => exact reads isReading (.inr told)

/-- With nothing under way, the worker does not wait for the lock screen. -/
theorem Owes.not_waits {client : Client} (owes : client.Owes) (ended : client.Ended)
    (pending : client.queue = [] ∧ client.reader.pending = [] ∧ client.outbox = [])
    (untold : client.inbox = []) : client.worker.phase.waits = false := by
  obtain ⟨drained, idle, silent⟩ := pending
  cases owes with
  | queued member => simp [drained] at member
  | publishing publishing => simp [publishing, Reader.pending] at idle
  | reaping reaping =>
    have stopped := ended.reaping _ reaping
    cases phase : client.worker.phase <;> simp_all [isOver, Phase.waits]
  | written _ member => simp [silent] at member
  | running _ running => exact running
  | told _ told => exact absurd untold told

end Client

namespace World

/-- What the lock screen may rely on while the user waits. -/
structure Progresses (world : World) : Prop where
  ended : ∀ attempt client, world.presentation.auth = some (attempt, client) → client.Ended
  owes : world.presentation.confirmed = true → world.presentation.conversation.status = .submitting →
    ∀ attempt client, world.presentation.auth = some (attempt, client) → client.Owes

theorem Progresses.input {presentation next : LockerPresentation}
    (terminal : ∀ attempt client, presentation.auth = some (attempt, client) → client.Terminal)
    (ended : ∀ attempt client, presentation.auth = some (attempt, client) → client.Ended)
    (owes : presentation.confirmed = true → presentation.conversation.status = .submitting →
      ∀ attempt client, presentation.auth = some (attempt, client) → client.Owes)
    (change : presentation.Change next) :
    (∀ attempt client, next.auth = some (attempt, client) → client.Ended) ∧
      (next.confirmed = true → next.conversation.status = .submitting →
        ∀ attempt client, next.auth = some (attempt, client) → client.Owes) := by
  have endedPosted : ∀ {attempt : Attempt} {client : Client} {posted : Posted} {wrote : Bool},
      presentation.auth = some (attempt, client) → (client.posted posted wrote).Ended := by
    intro attempt client posted wrote active
    obtain ⟨outbox, reaping⟩ := ended attempt client active
    exact ⟨outbox, reaping⟩
  cases change with
  | edited conversation page status attempt =>
    exact ⟨ended, fun confirmed submitting => owes confirmed (status ▸ submitting)⟩
  | began unconfirmed active alive
  | responded confirmed active alive displayed waiting status same bytes
  | retried confirmed failed active alive status =>
    refine ⟨?_, fun _ _ => ?_⟩
    · rintro attempt client ⟨⟩
      exact endedPosted active
    · rintro attempt client ⟨⟩
      exact Client.owes_of_posted (terminal _ _ active) alive _ _
  | failed _ confirmed status prompt worker continues =>
    refine ⟨?_, fun _ submitting => absurd (status.symm.trans submitting) nofun⟩
    intro attempt client active
    rcases worker with absent | ⟨same, _⟩
    · simp [absent] at active
    · exact ended attempt client (same ▸ active)
  | replaced _ confirmed stays status prompt worker continues =>
    refine ⟨?_, fun _ _ => ?_⟩
    · intro attempt client active
      rw [worker] at active
      cases active
      exact ⟨nofun, nofun⟩
    · intro attempt client active
      rw [worker] at active
      cases active
      exact Client.owes_of_posted (Client.new_trusted _).terminal rfl _ _

theorem Progresses.changed {world next : World} (reachable : locker.Reachable world)
    (progresses : world.Progresses) (change : world.Change next) : next.Progresses := by
  have consistent := locker_consistent reachable
  have attached := (locker_agrees reachable).attached
  have trusted := (locker_trusted reachable).client
  obtain ⟨ended, owes⟩ := progresses
  cases change with
  | input idle change =>
    obtain ⟨ended, owes⟩ := Progresses.input
      (fun attempt client active => (trusted attempt client active).terminal) ended owes change
    exact ⟨ended, owes⟩
  | event receiving active isQueue =>
    rename_i remaining attempt client event rest
    let taken := world.presentation.withClient attempt { client with queue := rest }
    have current := consistent.presentation.attempt attempt client active
    have handled := taken.handleEvent_handled attempt event
    have isAuth : (taken.handleEvent attempt event).auth =
        some (attempt, { client with queue := rest }) := handled.auth
    refine ⟨?_, ?_⟩
    · intro other otherClient isOther
      obtain ⟨rfl, rfl⟩ := Prod.mk.inj (Option.some.inj (isAuth.symm.trans isOther))
      obtain ⟨outbox, reaping⟩ := ended attempt client active
      exact ⟨outbox, reaping⟩
    · intro _ submitting other otherClient isOther
      obtain ⟨rfl, rfl⟩ := Prod.mk.inj (Option.some.inj (isAuth.symm.trans isOther))
      change (taken.handleEvent attempt event).conversation.status = .submitting at submitting
      obtain ⟨value, origin⟩ := event
      cases value with
      | notice error text =>
        have told := taken.handleEvent_notice attempt error text origin
        have waited : world.presentation.conversation.status = .submitting := told.1.symm.trans submitting
        exact (owes (consistent.receiving _ receiving) waited attempt client active).received isQueue rfl
      | prompt id secret text =>
        have shown := taken.handleEvent_prompt id secret text origin current
        exact absurd (shown.1.symm.trans submitting) nofun
      | success =>
        have ended := taken.handleEvent_success origin current
        exact absurd (ended.1.symm.trans submitting) nofun
      | failure =>
        have ended := taken.handleEvent_failure origin current
        exact absurd (ended.1.symm.trans submitting) nofun
  | turned polls notIdle => exact ⟨ended, owes⟩
  | taken received => exact ⟨ended, owes⟩
  | moved active move =>
    refine ⟨?_, fun confirmed submitting => ?_⟩
    · rintro attempt client ⟨⟩
      exact (ended _ _ active).moved move
    · rintro attempt client ⟨⟩
      exact (owes confirmed submitting _ _ active).moved (attached _ _ active) move

theorem start_progresses : start.Progresses where
  ended := by
    rintro attempt client ⟨⟩
    exact ⟨nofun, nofun⟩
  owes := nofun

end World

/-- After the confirmation the user can answer or retry, or has succeeded, or something is on its way
from the current worker; a worker that waits for the lock screen is never all there is. -/
theorem never_wedged {world : World} (reachable : locker.Reachable world)
    (confirmed : world.presentation.confirmed = true) :
    (world.presentation.conversation.status = .waiting ∧ world.presentation.promptId.isSome = true) ∨
    world.presentation.conversation.status = .failed ∨
    world.presentation.conversation.status = .succeeded ∨
    ∃ attempt client, world.presentation.auth = some (attempt, client) ∧ client.OnItsWay ∧
      (client.queue = [] ∧ client.reader.pending = [] ∧ client.outbox = [] → client.inbox = [] →
        client.worker.phase.waits = false) := by
  have consistent := (locker_consistent reachable).presentation
  have progresses := locker_invariant World.start_progresses
    (fun _ _ reached progresses change => progresses.changed reached change) reachable
  cases status : world.presentation.conversation.status with
  | waiting => exact .inl ⟨rfl, consistent.prompt.mpr status⟩
  | failed => exact .inr (.inl rfl)
  | succeeded => exact .inr (.inr (.inl rfl))
  | submitting =>
    cases active : world.presentation.auth with
    | none => exact absurd (status.symm.trans (consistent.absent active)) nofun
    | some auth =>
      obtain ⟨attempt, client⟩ := auth
      have owes := progresses.owes confirmed status attempt client active
      have ended := progresses.ended attempt client active
      have attached := (locker_agrees reachable).attached attempt client active
      exact .inr (.inr (.inr ⟨attempt, client, rfl, owes.onItsWay attached ended, owes.not_waits ended⟩))

/-- The lock is confirmed, and the worker has not yet read that it shall begin. -/
def confirmedWorld : World := (World.start.next (.lockConfirmed {})).getD World.start

theorem never_wedged_sample :
    (confirmedWorld.presentation.conversation.status = .waiting ∧
      confirmedWorld.presentation.promptId.isSome = true) ∨
    confirmedWorld.presentation.conversation.status = .failed ∨
    confirmedWorld.presentation.conversation.status = .succeeded ∨
    ∃ attempt client, confirmedWorld.presentation.auth = some (attempt, client) ∧ client.OnItsWay ∧
      (client.queue = [] ∧ client.reader.pending = [] ∧ client.outbox = [] → client.inbox = [] →
        client.worker.phase.waits = false) :=
  never_wedged (.step (.initial rfl) (show locker.step .start (.lockConfirmed {}) confirmedWorld from rfl)) rfl

end Genkan.Locker
