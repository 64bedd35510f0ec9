import Genkan.Locker.Steps

/-! # Authorization

An authorization is the success of the current worker: it was begun after the confirmation, wrote
Success, and exited cleanly before the lock screen heard of it.
-/

namespace Genkan.Locker

open Foundations LockAuth SessionLock

namespace Client

/-- The worker was begun after the confirmation, wrote Success and exited with status 0. -/
structure Vouched (client : Client) : Prop where
  begun : (Message.begin, true) ∈ client.written
  succeeded : Message.success ∈ client.sent
  exited : client.worker.phase = .exited true

/-- In PAM, or between two of its transactions. -/
def begun : Phase → Bool
  | .authenticating | .prompting _ | .awaitingRetry => true
  | .awaitingBegin | .returning _ | .exited _ => false

/-- What the histories of a client say about its state. -/
structure Documented (client : Client) : Prop where
  inbox : ∀ posted ∈ client.inbox, (posted.message, true) ∈ client.written
  outbox : ∀ stamped ∈ client.outbox, stamped.value ∈ client.sent
  begins : begun client.worker.phase = true → (Message.begin, true) ∈ client.written
  succeeds : Message.success ∈ client.sent → (Message.begin, true) ∈ client.written
  reaping : client.reader = .reaping true → Message.success ∈ client.sent

/-- Success is published last, by a worker that deserves it. -/
structure Terminal (client : Client) : Prop where
  done : client.reader = .done → client.worker.exited = true
  last : ∀ event, client.reader = .publishing event true → client.worker.exited = true
  published : ∀ event last, client.reader = .publishing event last → event.value = .success →
    last = true ∧ client.Vouched
  queued : ∀ event ∈ client.queue, event.value = .success → client.reader = .done ∧ client.Vouched
  final : ∀ event ∈ client.queue.dropLast, event.value ≠ .success

/-- Every message and event carries the number of the worker it comes from. -/
structure Labelled (client : Client) : Prop where
  outbox : ∀ stamped ∈ client.outbox, stamped.origin.process = client.process
  queue : ∀ event ∈ client.queue, event.origin.process = client.process
  publishing : ∀ event last, client.reader = .publishing event last →
    event.origin.process = client.process

theorem receive_begun {worker : Worker} {message : Message}
    (isBegun : begun (worker.receive (.ok message)).phase = true) :
    begun worker.phase = true ∨ message = .begin := by
  simp only [Worker.receive] at isBegun
  split at isBegun <;> simp_all [begun]

theorem closed_begun {worker : Worker} (isBegun : begun (worker.receive (.error .closed)).phase = true) :
    begun worker.phase = true := by
  simp only [Worker.receive] at isBegun
  split at isBegun <;> simp_all [begun]

theorem kill_begun (worker : Worker) : begun worker.kill.phase = false := by
  obtain ⟨clean, phase⟩ := worker.kill_exited
  simp [begun, phase]

/-- What inside `pam_authenticate` is begun. -/
theorem Documented.authenticating {client : Client} (documented : client.Documented)
    (authenticating : client.worker.phase = .authenticating) :
    (Message.begin, true) ∈ client.written :=
  documented.begins (by simp [authenticating, begun])

theorem Documented.breakOff {client : Client} (documented : client.Documented) :
    client.breakOff.Documented where
  inbox := documented.inbox
  outbox := documented.outbox
  begins isBegun := by simp [Client.breakOff, kill_begun] at isBegun
  succeeds := documented.succeeds
  reaping := nofun

theorem Documented.readMessage {client : Client} (documented : client.Documented)
    {stamped : Stamped Message} (sent : stamped.value ∈ client.sent) :
    (client.readMessage stamped).Documented := by
  obtain ⟨inbox, outbox, begins, succeeds, reaping⟩ := documented
  rcases client.readMessage_cases stamped with ⟨event, _, reads⟩ | ⟨isSuccess, reads⟩ | reads
  · rw [reads]
    exact ⟨inbox, outbox, begins, succeeds, nofun⟩
  · rw [reads]
    exact ⟨inbox, outbox, begins, succeeds, fun _ => isSuccess ▸ sent⟩
  · rw [reads]
    exact Documented.breakOff ⟨inbox, outbox, begins, succeeds, reaping⟩

theorem Documented.moved {client after : Client} (documented : client.Documented)
    (move : client.Move after) : after.Documented := by
  obtain ⟨inbox, outbox, begins, succeeds, reaping⟩ := documented
  cases move with
  | received waits isInbox =>
    rename_i posted rest
    refine ⟨?_, outbox, ?_, succeeds, reaping⟩
    · intro other member
      exact inbox other (isInbox ▸ List.mem_cons_of_mem posted member)
    · intro isBegun
      cases receive_begun isBegun with
      | inl was => exact begins was
      | inr isBegin => exact isBegin ▸ inbox posted (isInbox ▸ List.mem_cons_self)
  | closed waits shutdown =>
    exact ⟨inbox, outbox, fun isBegun => begins (closed_begun isBegun), succeeds, reaping⟩
  | acted authenticating outcome =>
    rename_i worker message
    have begin : (Message.begin, true) ∈ client.written := begins (by simp [authenticating, begun])
    refine ⟨inbox, ?_, fun _ => begin, fun _ => begin, ?_⟩
    · intro stamped member
      cases List.mem_append.mp member with
      | inl old => exact List.mem_append_right _ (outbox stamped old)
      | inr isNew =>
        cases message with
        | none => simp at isNew
        | some message =>
          simp only [Option.map_some, Option.toList_some, List.mem_singleton] at isNew
          simp [isNew]
    · intro isReaping
      exact List.mem_append_right _ (reaping isReaping)
  | exited returning => exact ⟨inbox, outbox, nofun, succeeds, reaping⟩
  | died alive =>
    refine ⟨inbox, outbox, ?_, succeeds, reaping⟩
    intro isBegun
    simp [kill_begun] at isBegun
  | broke busy => exact Documented.breakOff ⟨inbox, outbox, begins, succeeds, reaping⟩
  | read reading isOutbox =>
    rename_i stamped rest
    have rest : ({ client with outbox := rest } : Client).Documented :=
      ⟨inbox, fun other member => outbox other (isOutbox ▸ List.mem_cons_of_mem stamped member), begins,
        succeeds, reaping⟩
    exact rest.readMessage (outbox stamped (isOutbox ▸ List.mem_cons_self))
  | published publishing events =>
    refine ⟨inbox, outbox, begins, succeeds, ?_⟩
    intro isReaping
    split at isReaping <;> contradiction
  | dropped publishing events => exact ⟨inbox, outbox, begins, succeeds, nofun⟩
  | reaped reaping exited => exact ⟨inbox, outbox, begins, succeeds, nofun⟩

/-! ## The end of a worker -/

/-- While the worker lives, neither its reader has ended nor a success was published. -/
theorem Terminal.of_alive {client next : Client} (terminal : client.Terminal)
    (alive : client.worker.exited = false) (reader : next.reader = client.reader)
    (queue : next.queue = client.queue) : next.Terminal := by
  have notExited : ∀ {property : Prop}, client.worker.exited = true → property := by
    intro property exited
    exact absurd (alive.symm.trans exited) nofun
  have unvouched : ∀ {property : Prop}, client.Vouched → property := by
    intro property vouched
    exact notExited (Worker.exited_iff.mpr ⟨true, vouched.exited⟩)
  refine ⟨?_, ?_, ?_, ?_, ?_⟩
  · intro done
    exact notExited (terminal.done (reader ▸ done))
  · intro event last
    exact notExited (terminal.last event (reader ▸ last))
  · intro event last publishing success
    exact unvouched (terminal.published event last (reader ▸ publishing) success).2
  · intro event member success
    exact unvouched (terminal.queued event (queue ▸ member) success).2
  · rw [queue]
    exact terminal.final

theorem alive_of_waits {client : Client} (waits : client.worker.phase.waits = true) :
    client.worker.exited = false := by
  simp only [Worker.exited]
  split
  next phase => simp [phase, Phase.waits] at waits
  next => rfl

/-- A reader that is still busy has published no success. -/
theorem Terminal.not_queued {client : Client} (terminal : client.Terminal)
    (busy : client.reader ≠ .done) : ∀ event ∈ client.queue, event.value ≠ .success := by
  intro event member success
  exact busy (terminal.queued event member success).1

/-- A reader that goes on with something other than publishing a success. -/
theorem Terminal.of_busy {client next : Client} (terminal : client.Terminal)
    (busy : client.reader ≠ .done) (queue : next.queue = client.queue) (open_ : next.reader ≠ .done)
    (unsuccessful : ∀ event last, next.reader = .publishing event last →
      last = false ∧ event.value ≠ .success) : next.Terminal := by
  refine ⟨fun done => absurd done open_, ?_, ?_, ?_, ?_⟩
  · intro event publishing
    exact absurd (unsuccessful event true publishing).1 nofun
  · intro event last publishing success
    exact absurd success (unsuccessful event last publishing).2
  · intro event member success
    exact absurd success (terminal.not_queued busy event (queue ▸ member))
  · rw [queue]
    exact terminal.final

theorem Terminal.moved {client after : Client} (terminal : client.Terminal)
    (documented : client.Documented) (move : client.Move after) : after.Terminal := by
  cases move with
  | received waits isInbox => exact terminal.of_alive (alive_of_waits waits) rfl rfl
  | closed waits shutdown => exact terminal.of_alive (alive_of_waits waits) rfl rfl
  | acted authenticating outcome =>
    exact terminal.of_alive (by simp [Worker.exited, authenticating]) rfl rfl
  | exited returning => exact terminal.of_alive (by simp [Worker.exited, returning]) rfl rfl
  | died alive => exact terminal.of_alive alive rfl rfl
  | broke busy =>
    refine terminal.of_busy ?_ rfl (by simp [Client.breakOff]) (by simp [Client.breakOff])
    rcases busy with reading | ⟨event, publishing⟩
    · simp [reading]
    · simp [publishing]
  | read reading isOutbox =>
    rename_i stamped rest
    have busy : client.reader ≠ .done := by simp [reading]
    rcases ({ client with outbox := rest } : Client).readMessage_cases stamped with
      ⟨event, isEvent, reads⟩ | ⟨_, reads⟩ | reads
    · rw [reads]
      refine terminal.of_busy busy rfl (by simp [Client.publish]) ?_
      rintro other last ⟨⟩
      exact ⟨rfl, fun success => eventOf_ne_success stamped.value (isEvent.trans (congrArg some success))⟩
    · rw [reads]
      exact terminal.of_busy busy rfl (by simp) (by simp)
    · rw [reads]
      exact terminal.of_busy busy rfl (by simp [Client.breakOff]) (by simp [Client.breakOff])
  | published publishing events =>
    rename_i event last
    have busy : client.reader ≠ .done := by simp [publishing]
    refine ⟨?_, ?_, ?_, ?_, ?_⟩
    · intro done
      cases last with
      | true => exact terminal.last event publishing
      | false => contradiction
    · intro other reader
      split at reader <;> contradiction
    · intro other otherLast reader
      split at reader <;> contradiction
    · intro other member success
      cases List.mem_append.mp member with
      | inl old => exact absurd success (terminal.not_queued busy other old)
      | inr isNew =>
        rw [List.mem_singleton.mp isNew] at success
        obtain ⟨rfl, vouched⟩ := terminal.published event last publishing success
        exact ⟨rfl, ⟨vouched.begun, vouched.succeeded, vouched.exited⟩⟩
    · simp only [List.dropLast_concat]
      exact terminal.not_queued busy
  | dropped publishing events =>
    have busy : client.reader ≠ .done := by simp [publishing]
    refine ⟨fun _ => terminal.last _ publishing, (by simp), (by simp), ?_, terminal.final⟩
    intro event member success
    exact absurd success (terminal.not_queued busy event member)
  | reaped reaping exited =>
    rename_i success clean
    have busy : client.reader ≠ .done := by simp [reaping]
    refine ⟨(by simp [Client.publish]), fun _ _ => Worker.exited_iff.mpr ⟨clean, exited⟩, ?_, ?_, terminal.final⟩
    · rintro event last ⟨⟩ isSuccess
      cases success with
      | false => contradiction
      | true =>
        cases clean with
        | false => contradiction
        | true =>
          have succeeded := documented.reaping reaping
          exact ⟨rfl, ⟨documented.succeeds succeeded, succeeded, exited⟩⟩
    · intro event member isSuccess
      exact absurd isSuccess (terminal.not_queued busy event member)

theorem Labelled.moved {client after : Client} (labelled : client.Labelled)
    (move : client.Move after) : after.Labelled := by
  obtain ⟨outbox, queue, publishing⟩ := labelled
  cases move with
  | acted authenticating outcome =>
    rename_i worker message
    refine ⟨?_, queue, publishing⟩
    intro stamped member
    cases List.mem_append.mp member with
    | inl old => exact outbox stamped old
    | inr isNew =>
      cases message with
      | none => simp at isNew
      | some message =>
        simp only [Option.map_some, Option.toList_some, List.mem_singleton] at isNew
        rw [isNew]
        rfl
  | broke busy => exact ⟨outbox, queue, nofun⟩
  | read reading isOutbox =>
    rename_i stamped rest
    have tail : ∀ other ∈ rest, other.origin.process = client.process :=
      fun other member => outbox other (isOutbox ▸ List.mem_cons_of_mem stamped member)
    have head := outbox stamped (isOutbox ▸ List.mem_cons_self)
    rcases ({ client with outbox := rest } : Client).readMessage_cases stamped with
      ⟨event, _, reads⟩ | ⟨_, reads⟩ | reads
    · rw [reads]
      refine ⟨tail, queue, ?_⟩
      rintro other last ⟨⟩
      exact head
    · rw [reads]
      exact ⟨tail, queue, nofun⟩
    · rw [reads]
      exact ⟨tail, queue, nofun⟩
  | published isPublishing events =>
    rename_i event last
    refine ⟨outbox, ?_, ?_⟩
    · intro other member
      cases List.mem_append.mp member with
      | inl old => exact queue other old
      | inr isNew =>
        rw [List.mem_singleton.mp isNew]
        exact publishing event last isPublishing
    · intro other otherLast reader
      split at reader <;> contradiction
  | dropped => exact ⟨outbox, queue, nofun⟩
  | reaped =>
    refine ⟨outbox, queue, ?_⟩
    rintro event last ⟨⟩
    rfl
  | _ => exact ⟨outbox, queue, publishing⟩

/-! ## A client in the hands of the lock screen -/

structure Trusted (client : Client) : Prop where
  documented : client.Documented
  terminal : client.Terminal
  labelled : client.Labelled

theorem new_trusted (process : Nat) : (new process).Trusted where
  documented := ⟨nofun, nofun, nofun, nofun, nofun⟩
  terminal := ⟨nofun, nofun, nofun, nofun, nofun⟩
  labelled := ⟨nofun, nofun, nofun⟩

theorem Trusted.moved {client after : Client} (trusted : client.Trusted) (move : client.Move after) :
    after.Trusted where
  documented := trusted.documented.moved move
  terminal := trusted.terminal.moved trusted.documented move
  labelled := trusted.labelled.moved move

theorem Trusted.posted {client : Client} (trusted : client.Trusted)
    (alive : client.worker.exited = false) (posted : Posted) : (client.posted posted true).Trusted where
  documented := by
    obtain ⟨inbox, outbox, begins, succeeds, reaping⟩ := trusted.documented
    refine ⟨?_, outbox, fun isBegun => .tail _ (begins isBegun),
      fun success => .tail _ (succeeds success), reaping⟩
    intro other member
    cases List.mem_append.mp member with
    | inl old => exact .tail _ (inbox other old)
    | inr isNew =>
      rw [List.mem_singleton.mp isNew]
      exact .head _
  terminal := trusted.terminal.of_alive alive rfl rfl
  labelled := ⟨trusted.labelled.outbox, trusted.labelled.queue, trusted.labelled.publishing⟩

theorem Trusted.received {client : Client} (trusted : client.Trusted) {event : Stamped Event}
    {rest : List (Stamped Event)} (isQueue : client.queue = event :: rest) :
    ({ client with queue := rest } : Client).Trusted where
  documented := by
    obtain ⟨inbox, outbox, begins, succeeds, reaping⟩ := trusted.documented
    exact ⟨inbox, outbox, begins, succeeds, reaping⟩
  terminal := by
    obtain ⟨done, last, published, queued, final⟩ := trusted.terminal
    refine ⟨done, last, ?_, ?_, ?_⟩
    · intro other otherLast publishing success
      obtain ⟨isLast, vouched⟩ := published other otherLast publishing success
      exact ⟨isLast, vouched.begun, vouched.succeeded, vouched.exited⟩
    · intro other member success
      obtain ⟨isDone, vouched⟩ := queued other (isQueue ▸ .tail _ member) success
      exact ⟨isDone, vouched.begun, vouched.succeeded, vouched.exited⟩
    · intro other member
      refine final other ?_
      rw [isQueue, List.dropLast_cons_of_ne_nil (by rintro rfl; simp at member)]
      exact .tail _ member
  labelled := by
    obtain ⟨outbox, queue, publishing⟩ := trusted.labelled
    exact ⟨outbox, fun other member => queue other (isQueue ▸ .tail _ member), publishing⟩

/-- A published success is the last event, of a worker that has ended. -/
theorem Trusted.success {client : Client} (trusted : client.Trusted) {event : Stamped Event}
    {rest : List (Stamped Event)} (isQueue : client.queue = event :: rest)
    (success : event.value = .success) : rest = [] ∧ client.reader = .done ∧ client.Vouched := by
  obtain ⟨done, vouched⟩ := trusted.terminal.queued event (isQueue ▸ .head _) success
  refine ⟨?_, done, vouched⟩
  by_contra more
  refine trusted.terminal.final event ?_ success
  rw [isQueue, List.dropLast_cons_of_ne_nil more]
  exact .head _

/-- A worker that has exited and a reader that has ended do nothing any more. -/
theorem no_move {client after : Client} {clean : Bool} (exited : client.worker.phase = .exited clean)
    (done : client.reader = .done) : ¬ client.Move after := by
  intro move
  cases move with
  | received waits => simp [exited, Phase.waits] at waits
  | closed waits => simp [exited, Phase.waits] at waits
  | acted authenticating => simp [exited] at authenticating
  | exited returning => simp [exited] at returning
  | died alive => simp [Worker.exited, exited] at alive
  | broke busy => simp [done] at busy
  | read reading => simp [done] at reading
  | published publishing => simp [done] at publishing
  | dropped publishing => simp [done] at publishing
  | reaped reaping => simp [done] at reaping

end Client

/-! ## Every reachable state -/

namespace LockerPresentation

/-- No two workers have the same number. -/
structure Numbered (presentation : LockerPresentation) : Prop where
  distinct : presentation.processes.Nodup
  older : ∀ process ∈ presentation.processes, process < presentation.history.started

theorem Numbered.continued {presentation next : LockerPresentation} (numbered : presentation.Numbered)
    (processes : (next.processes = presentation.processes ∧
        next.history.started = presentation.history.started) ∨
      (next.processes = presentation.history.started :: presentation.processes ∧
        next.history.started = presentation.history.started + 1)) : next.Numbered := by
  rcases processes with ⟨same, started⟩ | ⟨more, started⟩
  · exact ⟨same ▸ numbered.distinct, same ▸ started ▸ numbered.older⟩
  · constructor
    · rw [more, List.nodup_cons]
      exact ⟨fun member => Nat.lt_irrefl _ (numbered.older _ member), numbered.distinct⟩
    · intro process member
      rw [more] at member
      rw [started]
      rcases List.mem_cons.mp member with rfl | old
      · exact Nat.lt_succ_self _
      · exact Nat.lt_succ_of_lt (numbered.older process old)

/-- The worker that has authorized is still the current one, and it has nothing more to say. -/
def CreditedToCurrent (presentation : LockerPresentation) : Prop :=
  ∃ attempt client origin, presentation.auth = some (attempt, client) ∧
    presentation.conversation.status = .succeeded ∧ client.Vouched ∧ client.queue = [] ∧
    client.reader = .done ∧ presentation.history.credited = some origin ∧
    origin.process = client.process

end LockerPresentation

namespace World

structure Trusted (world : World) : Prop where
  client : ∀ attempt client, world.presentation.auth = some (attempt, client) → client.Trusted
  numbered : world.presentation.Numbered
  authorized : world.presentation.authorized = true →
    world.turn ≠ .idle ∧ world.presentation.CreditedToCurrent

theorem Trusted.input {presentation next : LockerPresentation}
    (trusted : ∀ attempt client, presentation.auth = some (attempt, client) → client.Trusted)
    (numbered : presentation.Numbered) (change : presentation.Change next) :
    (∀ attempt client, next.auth = some (attempt, client) → client.Trusted) ∧ next.Numbered ∧
      next.authorized = presentation.authorized := by
  cases change with
  | edited conversation page status attempt => exact ⟨trusted, ⟨numbered.distinct, numbered.older⟩, rfl⟩
  | began unconfirmed active alive =>
    refine ⟨?_, numbered.continued (.inl ⟨by simp [LockerPresentation.processes, active, Client.posted], rfl⟩), rfl⟩
    rintro attempt client ⟨⟩
    exact (trusted _ _ active).posted alive _
  | responded confirmed active alive displayed waiting status same bytes =>
    refine ⟨?_, numbered.continued (.inl ⟨by simp [LockerPresentation.processes, active, Client.posted,
      LockerPresentation.recordSubmission], rfl⟩), rfl⟩
    rintro attempt client ⟨⟩
    rw [confirmed]
    exact (trusted _ _ active).posted alive _
  | retried confirmed failed active alive status =>
    refine ⟨?_, numbered.continued (.inl ⟨by simp [LockerPresentation.processes, active, Client.posted], rfl⟩), rfl⟩
    rintro attempt client ⟨⟩
    rw [confirmed]
    exact (trusted _ _ active).posted alive _
  | failed _ confirmed status prompt worker continues =>
    refine ⟨?_, numbered.continued continues.processes, continues.authorized⟩
    intro attempt client active
    rcases worker with absent | ⟨same, _⟩
    · simp [absent] at active
    · exact trusted attempt client (same ▸ active)
  | replaced _ confirmed stays status prompt worker continues =>
    refine ⟨?_, numbered.continued continues.processes, continues.authorized⟩
    intro attempt client active
    rw [worker] at active
    cases active
    simp only [LockerPresentation.replacement, confirmed]
    exact (Client.new_trusted _).posted rfl _

theorem Trusted.event {world : World} (trusted : world.Trusted) (consistent : world.Consistent)
    {attempt : Attempt} {client : Client} {event : Stamped Event} {rest : List (Stamped Event)}
    (active : world.presentation.auth = some (attempt, client)) (isQueue : client.queue = event :: rest)
    (turn : Turn) (notIdle : turn ≠ .idle) :
    Trusted {
      presentation := (world.presentation.withClient attempt
        { client with queue := rest }).handleEvent attempt event
      turn := turn } := by
  have current := consistent.presentation.attempt attempt client active
  have clientTrusted := trusted.client attempt client active
  let taken := world.presentation.withClient attempt { client with queue := rest }
  have handled := taken.handleEvent_handled attempt event
  -- The queue was empty after the success that authorized, so this is the first one.
  have unauthorized : taken.authorized = false := by
    change world.presentation.authorized = false
    by_contra authorized
    obtain ⟨_, otherAttempt, other, _, isOther, _, _, drained, _⟩ :=
      trusted.authorized (by simpa using authorized)
    rw [active] at isOther
    cases isOther
    simp [isQueue] at drained
  have workers : (taken.handleEvent attempt event).processes = world.presentation.processes := by
    simp only [LockerPresentation.processes, handled.auth, handled.retired, active]
    rfl
  refine ⟨?_, trusted.numbered.continued (.inl ⟨workers, handled.started⟩), ?_⟩
  · intro other otherClient isOther
    rw [handled.auth] at isOther
    cases isOther
    exact clientTrusted.received isQueue
  · intro authorized
    refine ⟨notIdle, ?_⟩
    have label := clientTrusted.labelled.queue event (isQueue ▸ List.mem_cons_self)
    obtain ⟨value, origin⟩ := event
    cases value with
    | success =>
      obtain ⟨drained, done, vouched⟩ := clientTrusted.success isQueue rfl
      have succeeded := taken.handleEvent_success origin current
      exact ⟨attempt, _, origin, handled.auth, succeeded.1,
        ⟨vouched.begun, vouched.succeeded, vouched.exited⟩, drained, done, succeeded.2.2.2, label⟩
    | prompt id secret text =>
      have shown := taken.handleEvent_prompt id secret text origin current
      exact absurd (shown.2.2.symm.trans authorized) (by simp [unauthorized])
    | notice error text =>
      have told := taken.handleEvent_notice attempt error text origin
      exact absurd (told.2.2.symm.trans authorized) (by simp [unauthorized])
    | failure =>
      have ended := taken.handleEvent_failure origin current
      exact absurd (ended.2.2.symm.trans authorized) (by simp [unauthorized])

theorem Trusted.changed {world next : World} (consistent : world.Consistent) (trusted : world.Trusted)
    (change : world.Change next) : next.Trusted := by
  cases change with
  | input idle change =>
    obtain ⟨clients, numbered, same⟩ := Trusted.input trusted.client trusted.numbered change
    refine ⟨clients, numbered, ?_⟩
    intro authorized
    exact absurd idle (trusted.authorized (same ▸ authorized)).1
  | event receiving active isQueue => exact trusted.event consistent active isQueue _ nofun
  | turned polls notIdle =>
    exact ⟨trusted.client, trusted.numbered,
      fun authorized => ⟨notIdle, (trusted.authorized authorized).2⟩⟩
  | taken received => exact ⟨trusted.client, ⟨trusted.numbered.distinct, trusted.numbered.older⟩, nofun⟩
  | moved active move =>
    rename_i attempt client after
    have process : after.process = client.process := by
      cases move with
      | read reading isOutbox =>
        rename_i stamped rest
        rcases ({ client with outbox := rest } : Client).readMessage_cases stamped with
          ⟨_, _, reads⟩ | ⟨_, reads⟩ | reads <;> rw [reads] <;> rfl
      | _ => rfl
    refine ⟨?_, trusted.numbered.continued (.inl ⟨?_, rfl⟩), ?_⟩
    · rintro other otherClient ⟨⟩
      exact (trusted.client _ _ active).moved move
    · simp [LockerPresentation.processes, active, process]
    · intro authorized
      obtain ⟨_, otherAttempt, other, _, isOther, _, vouched, _, done, _⟩ := trusted.authorized authorized
      rw [active] at isOther
      cases isOther
      exact absurd move (Client.no_move vouched.exited done)

theorem start_trusted : start.Trusted where
  client := by
    rintro attempt client ⟨⟩
    exact Client.new_trusted 0
  numbered := ⟨by decide, by decide⟩
  authorized := nofun

end World

theorem locker_trusted {world : World} (reachable : locker.Reachable world) : world.Trusted :=
  locker_invariant World.start_trusted
    (fun _ _ reached trusted change => trusted.changed (locker_consistent reached) change) reachable

/-- Whenever `take_authorization` answers true, the current worker was begun after the confirmation,
wrote Success and exited with status 0, and it was its Success that the conversation accepted. -/
theorem authorization_sound {world : World} (reachable : locker.Reachable world)
    (authorized : world.presentation.takeAuthorization.2 = true) :
    ∃ attempt client origin, world.presentation.auth = some (attempt, client) ∧
      (Message.begin, true) ∈ client.written ∧ Message.success ∈ client.sent ∧
      client.worker.phase = .exited true ∧
      world.presentation.conversation.accepts attempt = true ∧
      world.presentation.conversation.status = .succeeded ∧
      world.presentation.history.credited = some origin ∧ origin.process = client.process ∧
      ∀ retired ∈ world.presentation.history.retired, retired.process ≠ origin.process := by
  have trusted := locker_trusted reachable
  obtain ⟨_, attempt, client, origin, active, succeeded, vouched, _, _, credited, process⟩ :=
    trusted.authorized authorized
  have current := (locker_consistent reachable).presentation.attempt attempt client active
  refine ⟨attempt, client, origin, active, vouched.begun, vouched.succeeded, vouched.exited,
    by simp [Conversation.accepts, current], succeeded, credited, process, ?_⟩
  intro retired member
  have distinct := trusted.numbered.distinct
  simp only [LockerPresentation.processes, active, Option.map_some, Option.toList_some,
    List.cons_append, List.nil_append, List.nodup_cons] at distinct
  intro same
  exact distinct.1 (List.mem_map.mpr ⟨retired, member, same.trans process⟩)

/-- The worker succeeds without asking, and the lock screen polls its success. -/
def successLabels : List Label :=
  [.lockConfirmed {}, .workerReceive, .workerAct (.finish true true), .workerExit, .readerStep false,
    .readerStep false, .readerStep false, .receiveLatest, .receiveEvent]

def successWorld : World := (successLabels.foldlM World.next World.start).getD World.start

theorem successWorld_reachable : locker.Reachable successWorld :=
  TransitionSystem.reachable_of_labels (.initial rfl) successLabels rfl

theorem authorization_sound_sample :
    ∃ attempt client origin, successWorld.presentation.auth = some (attempt, client) ∧
      (Message.begin, true) ∈ client.written ∧ Message.success ∈ client.sent ∧
      client.worker.phase = .exited true ∧
      successWorld.presentation.conversation.accepts attempt = true ∧
      successWorld.presentation.conversation.status = .succeeded ∧
      successWorld.presentation.history.credited = some origin ∧ origin.process = client.process ∧
      ∀ retired ∈ successWorld.presentation.history.retired, retired.process ≠ origin.process :=
  authorization_sound successWorld_reachable (by decide)

end Genkan.Locker
