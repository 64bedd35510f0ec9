import Genkan.Locker.World

/-! # What input and confirmation change

`Change` lists what the functions of the presentation come to: an edit, a message to the worker, a
failure that the user can retry, or a new worker.  They rely on the agreement between the prompt,
the status and the worker that `Consistent` states, and keep it.
-/

namespace Genkan.Locker

open Foundations LockAuth SessionLock

namespace LockerPresentation

/-- The displayed prompt, the status and the worker of a presentation agree. -/
structure Consistent (presentation : LockerPresentation) : Prop where
  prompt : presentation.promptId.isSome = true ↔ presentation.conversation.status = .waiting
  attempt : ∀ attempt client, presentation.auth = some (attempt, client) →
    attempt = presentation.conversation.attempt
  absent : presentation.auth = none → presentation.conversation.status = .failed
  pristine : presentation.confirmed = false → presentation.conversation.status = .submitting

/-- The numbers of all workers, the current one first. -/
def processes (presentation : LockerPresentation) : List Nat :=
  (presentation.auth.map (·.2.process)).toList ++ presentation.history.retired.map (·.process)

/-- What a step may add to the history. -/
structure Continues (presentation next : LockerPresentation) : Prop where
  retired : ∀ client ∈ next.history.retired, client ∈ presentation.history.retired ∨
    client.accepted = [] ∨ ∃ attempt current, presentation.auth = some (attempt, current) ∧
      client.accepted = current.accepted
  submissions : next.history.submissions = presentation.history.submissions ∨
    ∃ prompt, presentation.promptId = some prompt ∧ next.history.submissions =
      presentation.submission prompt presentation.conversation.input ::
        presentation.history.submissions
  authorized : next.authorized = presentation.authorized
  processes :
    (next.processes = presentation.processes ∧
      next.history.started = presentation.history.started) ∨
    (next.processes = presentation.history.started :: presentation.processes ∧
      next.history.started = presentation.history.started + 1)

/-- The worker that replaces another one, after `Begin`. -/
def replacement (presentation : LockerPresentation) : Client :=
  (Client.new presentation.history.started).posted { message := .begin, submission := none }
    presentation.confirmed

inductive Change : LockerPresentation → LockerPresentation → Prop
  | edited (presentation : LockerPresentation) (conversation : Conversation) (page : UInt64)
      (status : conversation.status = presentation.conversation.status)
      (attempt : conversation.attempt = presentation.conversation.attempt) :
      Change presentation
        { presentation with conversation := conversation, instructionPage := page }
  | began (presentation : LockerPresentation) {attempt : Attempt} {client : Client}
      (unconfirmed : presentation.confirmed = false)
      (active : presentation.auth = some (attempt, client)) (alive : client.worker.exited = false) :
      Change presentation { presentation with
        confirmed := true
        auth := some (attempt, client.posted { message := .begin, submission := none } true) }
  | responded (presentation : LockerPresentation) {attempt : Attempt} {client : Client}
      {prompt : Stamped UInt64} {response : Secret} {conversation : Conversation}
      (confirmed : presentation.confirmed = true)
      (active : presentation.auth = some (attempt, client)) (alive : client.worker.exited = false)
      (displayed : presentation.promptId = some prompt)
      (waiting : presentation.conversation.status = .waiting)
      (status : conversation.status = .submitting)
      (same : conversation.attempt = presentation.conversation.attempt)
      (bytes : response.value = intoBytes presentation.conversation.input) :
      Change presentation { presentation.recordSubmission
          (presentation.submission prompt presentation.conversation.input) with
        conversation := conversation
        promptId := none
        auth := some (attempt, client.posted
          { message := .response prompt.value response
            submission := some (presentation.submission prompt presentation.conversation.input) }
          presentation.confirmed) }
  | retried (presentation : LockerPresentation) {attempt : Attempt} {client : Client}
      {conversation : Conversation} {page : UInt64} (confirmed : presentation.confirmed = true)
      (failed : presentation.conversation.status = .failed)
      (active : presentation.auth = some (attempt, client)) (alive : client.worker.exited = false)
      (status : conversation.status = .submitting) :
      Change presentation { presentation with
        conversation := conversation
        promptId := none
        instructionPage := page
        auth := some (conversation.attempt,
          client.posted { message := .retry, submission := none } presentation.confirmed) }
  | failed (presentation next : LockerPresentation) (confirmed : next.confirmed = true)
      (status : next.conversation.status = .failed) (prompt : next.promptId = none)
      (worker : next.auth = none ∨ (next.auth = presentation.auth ∧
        next.conversation.attempt = presentation.conversation.attempt ∧
        (presentation.confirmed = true → presentation.conversation.status ≠ .submitting)))
      (continues : presentation.Continues next) : Change presentation next
  | replaced (presentation next : LockerPresentation) (confirmed : presentation.confirmed = true)
      (stays : next.confirmed = true) (status : next.conversation.status = .submitting)
      (prompt : next.promptId = none)
      (worker : next.auth = some (next.conversation.attempt, presentation.replacement))
      (continues : presentation.Continues next) : Change presentation next

theorem Continues.refl (presentation : LockerPresentation) : presentation.Continues presentation where
  retired _ member := .inl member
  submissions := .inl rfl
  authorized := rfl
  processes := .inl ⟨rfl, rfl⟩

/-! ## The functions -/

theorem lockConfirmed_change {presentation : LockerPresentation} (consistent : presentation.Consistent)
    (unconfirmed : presentation.confirmed = false) (environment : Environment) :
    Change presentation (presentation.lockConfirmed environment) := by
  have noPrompt : presentation.promptId = none := by
    simpa [consistent.pristine unconfirmed] using consistent.prompt
  have continues : presentation.Continues { presentation with confirmed := true }.failAuthentication := by
    exact ⟨fun _ member => .inl member, .inl rfl, rfl, .inl ⟨rfl, rfl⟩⟩
  simp only [lockConfirmed]
  split
  next absent =>
    exact .failed presentation _ rfl (by simp [failAuthentication]) noPrompt (.inl absent) continues
  next attempt client active =>
    rcases client.send_cases { message := .begin, submission := none } true environment.write with
      ⟨alive, sent⟩ | ⟨error, sent⟩
    · simp only [Client.begin, sent]
      exact .began presentation unconfirmed active alive
    · simp only [Client.begin, sent]
      exact .failed presentation _ rfl (by simp [failAuthentication]) noPrompt
        (.inr ⟨rfl, by simp [failAuthentication], by simp [unconfirmed]⟩) continues

theorem cancel_kept (client : Client) :
    client.cancel.accepted = client.accepted ∧ client.cancel.process = client.process := by
  simp only [Client.cancel]
  split <;> exact ⟨rfl, rfl⟩

/-- Retiring the worker changes its place in the list of workers only. -/
theorem dropWorker_continues (presentation : LockerPresentation) :
    presentation.dropWorker.auth = none ∧
      presentation.Continues presentation.dropWorker := by
  simp only [dropWorker]
  split
  next attempt client active =>
    refine ⟨rfl, ⟨?_, .inl rfl, rfl, .inl ⟨?_, rfl⟩⟩⟩
    · intro retired member
      rcases List.mem_cons.mp member with rfl | old
      · exact .inr (.inr ⟨attempt, client, active, (cancel_kept client).1⟩)
      · exact .inl old
    · simp [processes, retire, active, (cancel_kept client).2]
  next absent => exact ⟨absent, .refl presentation⟩

/-- A worker that is started anew has the Begin message to read; otherwise the user can retry. -/
theorem replaceWorker_cases {presentation : LockerPresentation}
    (confirmed : presentation.confirmed = true) (attempt : Attempt) (environment : Environment) :
    let next := presentation.replaceWorker attempt environment
    (next.confirmed = true ∧ presentation.Continues next ∧
      next.history.submissions = presentation.history.submissions) ∧
    ((next.auth = none ∧ next.conversation.status = .failed) ∨
      (next.auth = some (attempt, presentation.replacement) ∧
        next.conversation = presentation.conversation)) := by
  have kept : presentation.dropWorker.confirmed = presentation.confirmed ∧
      presentation.dropWorker.conversation = presentation.conversation ∧
      presentation.dropWorker.history.started = presentation.history.started ∧
      presentation.dropWorker.history.submissions = presentation.history.submissions ∧
      presentation.dropWorker.processes = presentation.processes := by
    simp only [dropWorker]
    split
    next attempt client active =>
      exact ⟨rfl, rfl, rfl, rfl, by simp [processes, retire, active, (cancel_kept client).2]⟩
    next => exact ⟨rfl, rfl, rfl, rfl, rfl⟩
  obtain ⟨same, conversation, started, submissions, workers⟩ := kept
  obtain ⟨absent, continues⟩ := presentation.dropWorker_continues
  have stays := same.trans confirmed
  have retiredWorkers : presentation.dropWorker.history.retired.map (·.process) =
      presentation.processes := by
    simpa [processes, absent] using workers
  simp only [replaceWorker]
  cases environment.start with
  | error error =>
    refine ⟨⟨stays, ?_, submissions⟩, .inl ⟨absent, by simp [failAuthentication]⟩⟩
    exact ⟨continues.retired, continues.submissions, continues.authorized, .inl ⟨workers, started⟩⟩
  | ok =>
    simp only [started, Client.begin]
    rcases (Client.new presentation.history.started).send_cases { message := .begin, submission := none }
        presentation.dropWorker.confirmed environment.begin with ⟨_, sent⟩ | ⟨error, sent⟩
    · rw [sent]
      refine ⟨⟨stays, ⟨continues.retired, continues.submissions, continues.authorized, .inr ⟨?_, rfl⟩⟩,
        submissions⟩, .inr ⟨?_, conversation⟩⟩
      · simp only [processes, Option.map_some, Option.toList_some, retiredWorkers]
        rfl
      · simp only [same, replacement]
    · rw [sent]
      refine ⟨⟨stays, ⟨?_, .inl submissions, continues.authorized, .inr ⟨?_, rfl⟩⟩, submissions⟩,
        .inl ⟨rfl, by simp [failAuthentication]⟩⟩
      · intro retired member
        rcases List.mem_cons.mp member with rfl | old
        · exact .inr (.inl (cancel_kept _).1)
        · exact continues.retired retired old
      · simp only [processes, failAuthentication, retire, Option.map_none, Option.toList_none,
          List.nil_append, List.map_cons, retiredWorkers, (cancel_kept _).2]
        rfl

/-- Replacing the worker, from a presentation whose attempt has already been begun. -/
theorem replaced_change {presentation : LockerPresentation} (confirmed : presentation.confirmed = true)
    (middle : LockerPresentation) (stays : middle.confirmed = presentation.confirmed)
    (begun : middle.conversation.status = .submitting)
    (started : middle.history.started = presentation.history.started)
    (submissions : middle.history.submissions = presentation.history.submissions)
    (authorized : middle.authorized = presentation.authorized)
    (processes : middle.processes = presentation.processes)
    (retired : ∀ client ∈ middle.history.retired, client ∈ presentation.history.retired ∨
      ∃ attempt current, presentation.auth = some (attempt, current) ∧
        client.accepted = current.accepted)
    (worker : middle.auth = none ∨ middle.auth = presentation.auth) (environment : Environment) :
    Change presentation
      { middle.replaceWorker middle.conversation.attempt environment with promptId := none } := by
  obtain ⟨⟨nextConfirmed, continues, kept⟩, outcome⟩ :=
    replaceWorker_cases (stays.trans confirmed) middle.conversation.attempt environment
  have continued : presentation.Continues
      { middle.replaceWorker middle.conversation.attempt environment with promptId := none } := by
    refine ⟨?_, .inl (kept.trans submissions), continues.authorized.trans authorized,
      processes ▸ started ▸ continues.processes⟩
    intro client member
    rcases continues.retired client member with old | none | ⟨attempt, current, active, accepted⟩
    · cases retired client old with
      | inl older => exact .inl older
      | inr current => exact .inr (.inr current)
    · exact .inr (.inl none)
    · cases worker with
      | inl absent => simp [absent] at active
      | inr same => exact .inr (.inr ⟨attempt, current, same ▸ active, accepted⟩)
  have fresh : middle.replacement = presentation.replacement := by
    simp only [replacement, started, stays]
  rcases outcome with ⟨absent, failed⟩ | ⟨active, same⟩
  · exact .failed presentation _ nextConfirmed failed rfl (.inl absent) continued
  · refine .replaced presentation _ confirmed nextConfirmed ?_ rfl ?_ continued
    · rw [same]
      exact begun
    · rw [same, ← fresh]
      exact active

theorem retry_change {presentation : LockerPresentation} (confirmed : presentation.confirmed = true)
    (failed : presentation.conversation.status = .failed) (environment : Environment) :
    Change presentation (presentation.retry environment).1 := by
  let begun := { presentation with
    instructionPage := 0
    conversation := presentation.conversation.beginAttempt.1 }
  have replaced : Change presentation
      { begun.replaceWorker begun.conversation.attempt environment with promptId := none } :=
    replaced_change confirmed begun rfl rfl rfl rfl rfl rfl (fun _ => .inl) (.inr rfl) environment
  simp only [retry]
  split
  next attempt client active =>
    simp only [Client.retry]
    rcases client.send_cases { message := .retry, submission := none } presentation.confirmed
        environment.write with ⟨alive, sent⟩ | ⟨error, sent⟩
    · rw [sent]
      exact .retried presentation confirmed failed active alive rfl
    · rw [sent]
      exact replaced
  next absent => exact replaced

theorem cancelAttempt_change {presentation : LockerPresentation}
    (confirmed : presentation.confirmed = true) (environment : Environment) :
    Change presentation (presentation.cancelAttempt environment).1 ∨
      (presentation.cancelAttempt environment).1 = presentation := by
  simp only [cancelAttempt]
  split
  next => exact .inr rfl
  next attempt client active =>
    refine .inl (replaced_change confirmed { presentation.retire client with
      conversation := presentation.conversation.beginAttempt.1
      instructionPage := 0 } rfl rfl rfl rfl rfl ?_ ?_ (.inl rfl) environment)
    · simp [processes, retire, active, (cancel_kept client).2]
    · intro retired member
      rcases List.mem_cons.mp member with rfl | old
      · exact .inr ⟨attempt, client, active, (cancel_kept client).1⟩
      · exact .inl old

theorem submit_change {presentation : LockerPresentation} (consistent : presentation.Consistent)
    (confirmed : presentation.confirmed = true) (environment : Environment) :
    Change presentation (presentation.submit environment).1 ∨
      (presentation.submit environment).1 = presentation := by
  simp only [submit]
  split
  next => exact .inr rfl
  next prompt displayed =>
    have waiting := consistent.prompt.mp (by simp [displayed])
    simp only [Conversation.submit, waiting, ne_eq, not_true_eq_false, if_false]
    split
    next absent =>
      have failed := consistent.absent absent
      simp [waiting] at failed
    next attempt client active =>
      have gaveUp : Change presentation ({ presentation with
          conversation := { presentation.conversation with status := .submitting, input := "" }
          promptId := none }.recordSubmission
            (presentation.submission prompt presentation.conversation.input)).failAuthentication := by
        refine .failed presentation _ confirmed (by simp [failAuthentication]) rfl
          (.inr ⟨rfl, by simp [failAuthentication, recordSubmission], by simp [waiting]⟩) ?_
        exact ⟨fun _ => .inl, .inr ⟨prompt, displayed, rfl⟩, rfl, .inl ⟨rfl, rfl⟩⟩
      split
      next => exact .inl gaveUp
      next =>
        simp only [Client.respond]
        cases secret : Secret.new (intoBytes presentation.conversation.input) with
        | error error =>
          simp only [submission, secret]
          exact .inl gaveUp
        | ok response =>
          simp only [submission, secret]
          rcases client.send_cases { message := .response prompt.value response
                                     submission := some (presentation.submission prompt
                                       presentation.conversation.input) }
              presentation.confirmed environment.write with ⟨alive, sent⟩ | ⟨error, sent⟩
          · have posted := sent
            simp only [submission] at posted
            refine .inl ?_
            rw [recordSubmission]
            simp only [posted]
            exact .responded presentation confirmed active alive displayed waiting rfl rfl
              (Secret.new_value secret)
          · have kept := sent
            simp only [submission] at kept
            refine .inl ?_
            rw [recordSubmission]
            simp only [kept]
            exact gaveUp

theorem nextPage_change (presentation : LockerPresentation) :
    Change presentation presentation.nextPage.1 := by
  simp only [nextPage]
  split
  next => exact .edited presentation presentation.conversation _ rfl rfl
  next => exact .edited presentation presentation.conversation _ rfl rfl

theorem input_change {presentation : LockerPresentation} (consistent : presentation.Consistent)
    (input : Input) (environment : Environment) :
    Change presentation (presentation.input input environment).1 ∨
      (presentation.input input environment).1 = presentation := by
  simp only [LockerPresentation.input]
  split
  next => exact .inr rfl
  next isConfirmed =>
    have confirmed : presentation.confirmed = true := by simpa using isConfirmed
    cases input with
    | text text =>
      obtain ⟨status, attempt⟩ := presentation.conversation.pushInput_kept text
      exact .inl (.edited presentation _ presentation.instructionPage status attempt)
    | backspace =>
      obtain ⟨status, attempt⟩ := presentation.conversation.popInput_kept
      exact .inl (.edited presentation _ presentation.instructionPage status attempt)
    | submit =>
      by_cases failed : presentation.conversation.status = .failed
      · simp only [failed, if_true]
        exact .inl (retry_change confirmed failed environment)
      · simp only [failed, if_false]
        exact submit_change consistent confirmed environment
    | cancel => exact cancelAttempt_change confirmed environment
    | nextPage => exact .inl presentation.nextPage_change

/-! ## Consistency -/

theorem Consistent.changed {presentation next : LockerPresentation}
    (consistent : presentation.Consistent) (change : Change presentation next) : next.Consistent := by
  cases change with
  | edited conversation page status attempt =>
    exact ⟨status ▸ consistent.prompt, attempt ▸ consistent.attempt, status ▸ consistent.absent,
      status ▸ consistent.pristine⟩
  | began unconfirmed active alive =>
    refine ⟨consistent.prompt, ?_, nofun, nofun⟩
    rintro attempt client ⟨⟩
    exact consistent.attempt _ _ active
  | responded confirmed active alive displayed waiting status same bytes =>
    refine ⟨by simp [status], ?_, nofun, fun _ => status⟩
    rintro attempt client ⟨⟩
    exact (consistent.attempt _ _ active).trans same.symm
  | retried confirmed failed active alive status =>
    refine ⟨by simp [status], ?_, nofun, fun _ => status⟩
    rintro attempt client ⟨⟩
    rfl
  | failed _ confirmed status prompt worker continues =>
    refine ⟨by simp [status, prompt], ?_, fun _ => status, by simp [confirmed]⟩
    intro attempt client active
    rcases worker with absent | ⟨same, kept, _⟩
    · simp [absent] at active
    · exact (consistent.attempt attempt client (same ▸ active)).trans kept.symm
  | replaced _ confirmed stays status prompt worker continues =>
    refine ⟨by simp [status, prompt], ?_, by simp [worker], fun _ => status⟩
    intro attempt client active
    rw [worker] at active
    cases active
    rfl

end LockerPresentation

end Genkan.Locker
